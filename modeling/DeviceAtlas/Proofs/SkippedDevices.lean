import DeviceAtlas.Proofs.ModuleSizes
import DeviceAtlas.Proofs.ParallelPasses
import Mathlib.Logic.Function.Basic

/-!
# Devices that are skipped

A device that cannot be identified leaves no trace. A pass comes to what it would have come to if
the driver had not listed the device, but for the places in the listing that are written down of the
devices behind it. A driver that fails to list its devices is like one that lists none.

* `Stack.Skips`: a device of a driver cannot be identified.
* `FoundDevice.Follows`: a device stands behind a place of the listing of a driver.
* `forall₂_foundDevices_relisted`: the other devices are found all the same.
* `skipped_discover`: passes with and without the device, or the driver.
-/

namespace DeviceAtlas

variable {H : Type} {stack : Stack H} {listing : H → Stack.Answer (List H)} {driver : H} {place : ℕ}

/-! ## Listings -/

/-- The driver stack with other answers to which devices a driver has. -/
def Stack.relisted (stack : Stack H) (listing : H → Stack.Answer (List H)) : Stack H :=
  { stack with devices := listing }

/-- A device of a driver cannot be identified: it does not tell its properties, or the management
side does not know it. -/
def Stack.Skips (stack : Stack H) (driver device : H) : Prop :=
  (∃ fault, stack.deviceProperties device = .error fault) ∨
    ∃ properties, stack.deviceProperties device = .ok properties ∧
      ∀ index managementDriver, stack.IsDriver index driver managementDriver →
        ∃ fault, stack.managedDevice managementDriver properties.uuid = .error fault

theorem Stack.Skips.foundDevice?_eq_none {index : ℕ} {device managementDriver : H}
    (h : stack.Skips driver device) (met : stack.IsDriver index driver managementDriver)
    (place : ℕ) : foundDevice? stack index managementDriver place device = none := by
  unfold foundDevice? identify
  rcases h with ⟨fault, failed⟩ | ⟨properties, known, unknown⟩
  · rw [failed]
    rfl
  · obtain ⟨fault, failed⟩ := unknown index managementDriver met
    rw [known]
    simp [Except.mapError, failed, bind, Except.bind]

/-- Which subdevices there are has nothing to do with what drivers list. -/
theorem subdeviceTable_relisted (managementDriver : H) (next : ℕ) (handles : List H) :
    subdeviceTable (stack.relisted listing) managementDriver next handles =
      subdeviceTable stack managementDriver next handles := by
  induction handles generalizing next with
  | nil => rfl
  | cons handle rest ih =>
    unfold subdeviceTable
    rw [ih, ih]
    rfl

/-! ## Devices behind a device -/

/-- A device stands behind this place of the listing of a driver. -/
def FoundDevice.Follows (stack : Stack H) (driver : H) (place : ℕ) (d : FoundDevice H) : Prop :=
  place < d.index ∧
    ∃ managementDriver, stack.IsDriver d.driver driver managementDriver

/-- A device, and how it is found once the listing of a driver lacks what stood in this place: from
behind the place it has moved up by one, and elsewhere it stands where it stood. -/
structure FoundDevice.MovedUp (stack : Stack H) (driver : H) (place : ℕ) (d e : FoundDevice H) :
    Prop where
  same : e = { d with index := e.index }
  follows : d.Follows stack driver place → d.index = e.index + 1
  other : ¬ d.Follows stack driver place → e.index = d.index

namespace FoundDevice.MovedUp

variable {d e : FoundDevice H}

theorem refl (h : ¬ d.Follows stack driver place) : d.MovedUp stack driver place d :=
  ⟨rfl, fun follows => absurd follows h, fun _ => rfl⟩

theorem values_notes (h : d.MovedUp stack driver place e) (number start : ℕ) {key : String}
    (other : key ≠ InfoKey.driverDeviceIndex) :
    Note.values ⟨start⟩ key (e.notes (stack.relisted listing) number start) =
      Note.values ⟨start⟩ key (d.notes stack number start) := by
  rw [h.same]
  simp only [notes, rootNotes, List.cons_append, Note.values_cons_info_self, if_neg (Ne.symm other)]
  rfl

theorem memoryNotes_eq (h : d.MovedUp stack driver place e) (start : ℕ) :
    e.memoryNotes (stack.relisted listing) start = d.memoryNotes stack start := by
  rw [h.same, memoryNotes, table, subdeviceTable_relisted]
  rfl

/-- Only the place in the listing is different. -/
theorem alike (h : d.MovedUp stack driver place e) (listing : H → Stack.Answer (List H)) :
    d.Alike stack (stack.relisted listing) (· = InfoKey.driverDeviceIndex) e where
  site t := by
    rw [h.same]
    rfl
  table start := by
    rw [h.same]
    exact subdeviceTable_relisted ..
  ports root table ports := by
    rw [h.same]
    rfl
  root number start := by
    refine ⟨rfl, fun key other => ?_⟩
    rw [rootObject, Object.info?_noted, Object.info?_noted, rootObject, Object.info?_noted,
      Object.info?_noted, h.memoryNotes_eq, h.values_notes number start other]
  part number start i f g hf hg := by
    have found : e.subdevices (stack.relisted listing) = d.subdevices stack := by
      rw [h.same]
      rfl
    have same : e.partObject (stack.relisted listing) number start i f =
        d.partObject stack number start i f := by
      rw [partObject, h.memoryNotes_eq]
      rfl
    rw [found, hf] at hg
    cases hg
    rw [same]
    exact .refl _

end FoundDevice.MovedUp

/-! ## The devices that are found -/

/-- The devices of a driver are those of its listing that can be identified. -/
theorem driverDevices_of_ok {core : H} {devices : List H}
    (listed : stack.devices core = .ok devices) (index : ℕ) (managementDriver : H) :
    driverDevices stack index core managementDriver = devices.zipIdx.filterMap fun item =>
      foundDevice? stack index managementDriver item.2 item.1 := by
  unfold driverDevices
  rw [listed]

/-- A driver with the same listing has the same devices. -/
theorem driverDevices_relisted {core : H} (same : listing core = stack.devices core) (index : ℕ)
    (managementDriver : H) :
    driverDevices (stack.relisted listing) index core managementDriver =
      driverDevices stack index core managementDriver := by
  unfold driverDevices
  rw [← same]
  rfl

/-- Behind the place a device moves up by one. -/
theorem rel_foundDevice?_succ {index first : ℕ} {managementDriver : H}
    (met : stack.IsDriver index driver managementDriver)
    (behind : place ≤ first) (handle : H) :
    Option.Rel (FoundDevice.MovedUp stack driver place)
      (foundDevice? stack index managementDriver (first + 1) handle)
      (foundDevice? stack index managementDriver first handle) := by
  unfold foundDevice?
  cases identify stack managementDriver handle with
  | error reason => exact .none
  | ok found =>
    refine .some ⟨rfl, fun _ => rfl, fun other => ?_⟩
    exact absurd ⟨Nat.lt_succ_of_le behind, managementDriver, met⟩ other

section Removed

variable {front back : List H} {device : H}
  (others : ∀ other, other ≠ driver → listing other = stack.devices other)
  (listed : stack.devices driver = .ok (front ++ device :: back))
  (removed : listing driver = .ok (front ++ back)) (skipped : stack.Skips driver device)

include others in
/-- Of the other drivers the same devices are found, in the same places. -/
theorem forall₂_driverDevices_of_ne {index : ℕ} {other managementDriver : H} (ne : other ≠ driver)
    (met : stack.IsDriver index other managementDriver) :
    List.Forall₂ (FoundDevice.MovedUp stack driver place)
      (driverDevices stack index other managementDriver)
      (driverDevices (stack.relisted listing) index other managementDriver) := by
  rw [driverDevices_relisted (others other ne)]
  refine List.forall₂_same.2 fun d found => .refl ?_
  rintro ⟨-, managementDriver', met'⟩
  rw [(mem_driverDevices_iff.1 found).1] at met'
  exact ne (met.unique met').1

include listed removed skipped in
/-- Of the driver the other devices are found, those behind the device in the place before. -/
theorem forall₂_driverDevices_self {index : ℕ} {managementDriver : H}
    (met : stack.IsDriver index driver managementDriver) :
    List.Forall₂ (FoundDevice.MovedUp stack driver front.length)
      (driverDevices stack index driver managementDriver)
      (driverDevices (stack.relisted listing) index driver managementDriver) := by
  let found (item : H × ℕ) : Option (FoundDevice H) :=
    foundDevice? stack index managementDriver item.2 item.1
  -- the device gives nothing, and those behind it are counted from its place instead of the next
  have nothing : found (device, front.length) = none :=
    skipped.foundDevice?_eq_none met _
  have all : driverDevices stack index driver managementDriver =
      front.zipIdx.filterMap found ++ (back.zipIdx (front.length + 1)).filterMap found := by
    rw [driverDevices_of_ok listed, List.zipIdx_append, List.zipIdx_cons, Nat.zero_add,
      List.filterMap_append, List.filterMap_cons_none nothing]
  have fewer : driverDevices (stack.relisted listing) index driver managementDriver =
      front.zipIdx.filterMap found ++ (back.zipIdx front.length).filterMap found := by
    have answer : (stack.relisted listing).devices driver = .ok (front ++ back) := removed
    rw [driverDevices_of_ok answer, List.zipIdx_append, Nat.zero_add, List.filterMap_append]
    rfl
  have before : List.Forall₂ (FoundDevice.MovedUp stack driver front.length)
      (front.zipIdx.filterMap found) (front.zipIdx.filterMap found) := by
    refine List.forall₂_same.2 fun d member => .refl ?_
    obtain ⟨item, numbered, made⟩ := List.mem_filterMap.1 member
    have low := List.snd_lt_of_mem_zipIdx numbered
    rintro ⟨behind, -⟩
    rw [(foundDevice?_eq_some_iff.1 made).2.1] at behind
    omega
  have behind : List.Forall₂ (FoundDevice.MovedUp stack driver front.length)
      ((back.zipIdx (front.length + 1)).filterMap found)
      ((back.zipIdx front.length).filterMap found) := by
    rw [List.zipIdx_succ, List.filterMap_map]
    exact forall₂_filterMap_same fun item numbered =>
      rel_foundDevice?_succ met (List.le_snd_of_mem_zipIdx numbered) item.1
  rw [all, fewer]
  exact List.rel_append before behind

include others listed removed skipped in
/-- **The other devices are found all the same**, those behind the device in the place before. -/
theorem forall₂_foundDevices_relisted :
    List.Forall₂ (FoundDevice.MovedUp stack driver front.length) (foundDevices stack)
      (foundDevices (stack.relisted listing)) := by
  refine forall₂_flatMap_same fun entry numbered => ?_
  have met := getElem?_driverPairs_eq_some_iff.1 (List.mem_zipIdx_iff_getElem?.1 numbered)
  by_cases here : entry.1.1 = driver
  · subst here
    exact forall₂_driverDevices_self listed removed skipped met
  · exact forall₂_driverDevices_of_ne others here met

end Removed

/-! ## Objects -/

/-- In a block it is only written of the device which place it has in the listing of its driver. -/
theorem Block.Settled.info?_driverDeviceIndex {t : Topology} {b : Block H} (h : b.Settled stack t)
    {id : ObjectId} (own : id ∈ b.nodes stack) :
    t.info? id InfoKey.driverDeviceIndex =
      if id = b.root then some (toString b.device.index) else none := by
  rcases Block.mem_nodes_cases own with rfl | ⟨i, f, hf, here⟩
  · obtain ⟨o, found, -, -, -, -, -, listed⟩ := h.recorded.root
    rw [if_pos rfl, Topology.info?, found]
    exact listed
  · have apart : id ≠ b.root := by
      rintro rfl
      exact b.root_notMem_parts stack (List.mem_of_getElem? here)
    have known := h.part i f hf
    rw [b.getElem?_parts stack (List.getElem?_eq_some_iff.1 hf).1] at here
    rw [if_neg apart, Topology.info?, ← Option.some.inj here, known]
    exact b.device.info?_partObject stack b.number b.start (by decide) i f

/-- Only the place of the device in the listing is different. -/
theorem Block.Related.alike {b c : Block H}
    (h : Block.Related (FoundDevice.MovedUp stack driver place) b c)
    (listing : H → Stack.Answer (List H)) :
    b.Alike stack (stack.relisted listing) (· = InfoKey.driverDeviceIndex) c :=
  h.imp fun _ _ moved => moved.alike listing

section Surveyed

variable {t : Topology} {x y : Survey} {xs ys : List (Block H)} (hx : Surveyed stack t x xs)
  (hy : Surveyed (stack.relisted listing) t y ys)
  (h : List.Forall₂ (Block.Related (FoundDevice.MovedUp stack driver place)) xs ys)

include hx hy h

/-- A device that moved up is as it was, but for its place in the listing. -/
theorem object?_of_follows {b : Block H} (listed : b ∈ xs)
    (follows : b.device.Follows stack driver place) :
    x.topology.info? b.root InfoKey.driverDeviceIndex = some (toString b.device.index) ∧
    y.topology.object? b.root = (x.topology.object? b.root).map fun o => { o with
      infos := o.infos.insert InfoKey.driverDeviceIndex (toString (b.device.index - 1)) } := by
  have alike := hx.alike hy (h.imp fun _ _ related => related.alike listing)
  obtain ⟨c, listed', related⟩ := exists_related_of_mem h listed
  have before := (hx.settled b listed).info?_driverDeviceIndex List.mem_cons_self
  have after := (hy.settled c listed').info?_driverDeviceIndex List.mem_cons_self
  have root : c.root = b.root := congrArg ObjectId.mk related.start
  have index : b.device.index - 1 = c.device.index := by
    rw [related.device.follows follows, Nat.add_sub_cancel]
  rw [if_pos rfl] at before after
  rw [root, ← index] at after
  exact ⟨before, alike.object?_eq_insert after⟩

/-- Whatever is no device that moved up is as it was. -/
theorem object?_of_not_follows {id : ObjectId}
    (stays : ∀ b ∈ xs, b.device.Follows stack driver place → id ≠ b.root) :
    y.topology.object? id = x.topology.object? id := by
  have blocks := h.imp fun _ _ related => related.alike listing
  have alike := hx.alike hy blocks
  cases found : x.topology.object? id with
  | none => exact alike.object?_eq_none found
  | some o =>
    rw [← found]
    by_cases old : id.index < t.size
    · exact hx.object?_eq_of_forall₂ hy blocks old
    · have within := (x.topology.object?_isSome_iff id).1 (Option.isSome_of_eq_some found)
      have new := hx.mem_nodes_iff.2 ⟨Nat.not_lt.1 old, within⟩
      rw [hx.nodes] at new
      -- a new object differs at most in the place of its device, which stands where it stood
      obtain ⟨b, listed, own⟩ := List.mem_flatMap.1 new
      obtain ⟨c, listed', related⟩ := exists_related_of_mem h listed
      have own' : id ∈ c.nodes (stack.relisted listing) := by
        rwa [(related.alike listing).nodes]
      refine alike.object?_eq ?_
      rw [(hx.settled b listed).info?_driverDeviceIndex own,
        (hy.settled c listed').info?_driverDeviceIndex own', (related.alike listing).root]
      by_cases here : id = b.root
      · rw [related.device.other fun follows => stays b listed follows here]
      · rw [if_neg here, if_neg here]

end Surveyed

/-! ## Passes -/

/-- If the same devices are found, passes come to the same. -/
theorem value_discover_relisted
    (devices : foundDevices (stack.relisted listing) = foundDevices stack) (t : Topology)
    (settings : Settings) :
    (discover (stack.relisted listing) t settings).value = (discover stack t settings).value := by
  have survey : (survey (stack.relisted listing) t {}).value =
      (survey stack t {}).value := by
    rw [value_survey, value_survey, devices]
    rfl
  rw [value_discover, value_discover, passSurvey, survey]
  rfl

/-- A driver that fails to list its devices is like one without devices. -/
theorem foundDevices_relisted_of_error {fault : Stack.Fault}
    (others : ∀ other, other ≠ driver → listing other = stack.devices other)
    (failed : stack.devices driver = .error fault) (none : listing driver = .ok []) :
    foundDevices (stack.relisted listing) = foundDevices stack := by
  have same : driverDevices (stack.relisted listing) = driverDevices stack := by
    funext index other managementDriver
    by_cases here : other = driver
    · subst here
      have answer : (stack.relisted listing).devices other = .ok [] := none
      rw [driverDevices_of_ok answer, driverDevices, failed]
      rfl
    · exact driverDevices_relisted (others other here) ..
  unfold foundDevices
  rw [same]
  rfl

/-- **Devices that are skipped leave no trace.** Let a driver list a device that cannot be
identified. If the driver does not list it, a pass tells the same and comes to the same registry,
the same ports and the same topology, but for what is written of the devices that stood behind it:
their places in the listing are one less. If a driver fails to list its devices, a pass comes to the
very same as if the driver listed none. -/
theorem skipped_discover (others : ∀ other, other ≠ driver → listing other = stack.devices other)
    (t : Topology) (settings : Settings) :
    let x := (discover stack t settings).value
    let y := (discover (stack.relisted listing) t settings).value
    (∀ front device back, stack.devices driver = .ok (front ++ device :: back) →
      listing driver = .ok (front ++ back) → stack.Skips driver device →
      y.2 = x.2 ∧
      (passSurvey (stack.relisted listing) t).registry = (passSurvey stack t).registry ∧
      (passSurvey (stack.relisted listing) t).ports = (passSurvey stack t).ports ∧
      y.1.filter = x.1.filter ∧ y.1.options = x.1.options ∧ y.1.infos = x.1.infos ∧
      y.1.distances = x.1.distances ∧ y.1.size = x.1.size ∧
      (∀ id, (∀ b ∈ passBlocks stack t, b.device.Follows stack driver front.length → id ≠ b.root) →
        y.1.object? id = x.1.object? id) ∧
      ∀ b ∈ passBlocks stack t, b.device.Follows stack driver front.length →
        x.1.info? b.root InfoKey.driverDeviceIndex = some (toString b.device.index) ∧
        y.1.object? b.root = (x.1.object? b.root).map fun o => { o with
          infos := o.infos.insert InfoKey.driverDeviceIndex (toString (b.device.index - 1)) }) ∧
    ∀ fault, stack.devices driver = .error fault → listing driver = .ok [] → y = x := by
  constructor
  · intro front device back listed removed skipped
    have devices := forall₂_foundDevices_relisted others listed removed skipped
    have hx := surveyed_passSurvey stack t
    have hy := surveyed_passSurvey (stack.relisted listing) t
    have start : (stack.relisted listing).start = stack.start := rfl
    have startManagement : (stack.relisted listing).startManagement = stack.startManagement := rfl
    have blocks := forall₂_passBlocks (fun _ _ moved => FoundDevice.MovedUp.alike moved listing)
      start startManagement devices t
    have alike := hx.alike hy (blocks.imp fun _ _ related => related.alike listing)
    obtain ⟨outcome, filter, options, infos, distances, size, -⟩ :=
      alike_discover start startManagement (devices.imp fun _ _ moved => moved.alike listing)
        (by decide) t settings
    refine ⟨outcome, alike.registry, alike.ports, filter, options, infos, distances, size,
      fun id stays => ?_, fun b known follows => ?_⟩
    · rw [object?_discover, object?_discover]
      exact object?_of_not_follows hx hy blocks stays
    · rw [Topology.info?, object?_discover, object?_discover]
      exact object?_of_follows hx hy blocks known follows
  · intro fault failed none
    exact value_discover_relisted (foundDevices_relisted_of_error others failed none) t settings

/-- The linked devices, between which the driver lists one that does not tell its properties. A
second driver fails to list its devices. -/
def skippingInventory : Stack.Inventory :=
  { linkedInventory with
    drivers := #[{ devices := [0, 1, 3] }, { devicesFault := some (.known .deviceLost) }] }

/-- The same driver stack, in which a driver lists other devices. -/
def skippingStack (driver : ℕ) (devices : List ℕ) : Stack ℕ :=
  skippingInventory.stack.relisted
    (Function.update skippingInventory.stack.devices driver (.ok devices))

theorem skipped_discover_linked :
    let x := (discover skippingInventory.stack .initial {}).value
    let y := (discover (skippingStack 0 [0, 3]) .initial {}).value
    y.2 = x.2 ∧ y.1.distances = x.1.distances ∧ y.1.object? ⟨1⟩ = x.1.object? ⟨1⟩ ∧
      x.1.info? ⟨3⟩ InfoKey.driverDeviceIndex = some "2" ∧
      y.1.object? ⟨3⟩ = (x.1.object? ⟨3⟩).map (fun o =>
        { o with infos := o.infos.insert InfoKey.driverDeviceIndex "1" }) ∧
      (discover (skippingStack 1 []) .initial {}).value = x := by
  have found : ∃ b ∈ passBlocks skippingInventory.stack .initial, b.root = ⟨3⟩ ∧
      b.device.index = 2 ∧
      skippingInventory.stack.driverPairs[b.device.driver]? = some (0, 0) := by
    decide +kernel
  have first : ∀ b ∈ passBlocks skippingInventory.stack .initial, b.root = ⟨1⟩ →
      b.device.index = 0 := by
    decide +kernel
  have others : ∀ driver devices other, other ≠ driver →
      Function.update skippingInventory.stack.devices driver (.ok devices) other =
        skippingInventory.stack.devices other := fun _ _ _ ne => Function.update_of_ne ne ..
  obtain ⟨b, known, root, index, paired⟩ := found
  have met := getElem?_driverPairs_eq_some_iff.1 paired
  obtain ⟨device, -⟩ := skipped_discover (others 0 [0, 3]) .initial {}
  obtain ⟨outcome, -, -, -, -, -, distances, -, stays, moved⟩ :=
    device [0] 1 [3] rfl (Function.update_self ..) (.inl ⟨_, rfl⟩)
  obtain ⟨before, after⟩ := moved b known ⟨by rw [index]; decide, 0, met⟩
  obtain ⟨-, driver⟩ := skipped_discover (others 1 []) .initial {}
  refine ⟨outcome, distances, stays _ fun c listed follows same => ?_, ?_, ?_,
    driver _ rfl (Function.update_self ..)⟩
  · exact absurd follows.1 (by rw [first c listed same.symm]; decide)
  · rw [← root, before, index]
    rfl
  · rw [root, index] at after
    exact after

end DeviceAtlas
