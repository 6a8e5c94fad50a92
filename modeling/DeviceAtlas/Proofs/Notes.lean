import DeviceAtlas.Discovery.Facts
import Mathlib.Data.Nat.Notation

/-!
# What notes leave behind

Taking down notes writes infos of the objects that the notes are about, and does nothing else. What
a device is like by itself, where it was found, and how much memory it has, is written under keys
that are all different.

* `InfoMap.get?_write`: of several values that are written under a key the last one stays.
* `Topology.object?_takeNotes`: each object gets the infos that are meant for it.
* `concerns_knownDeviceNotes`, `concerns_queueNotes`, `concerns_memoryReport`: whom the notes on a
  device concern, and which keys they use.
* `isFact_knownDeviceNotes`, `isFact_queueNotes`, `isFact_memoryReport`: the facts about a device
  concern its own objects, and the keys of the structure are not among theirs.
* `InfoMap.get?_write_of_isFact`: facts leave the keys of the structure alone.
-/

namespace DeviceAtlas

/-! ## Several infos -/

namespace InfoMap

/-- The map after some writes, later writes winning. -/
def write (m : InfoMap) (writes : List (String × String)) : InfoMap :=
  writes.foldl (fun m w => m.insert w.1 w.2) m

@[simp] theorem write_cons (m : InfoMap) (w : String × String) (writes : List (String × String)) :
    m.write (w :: writes) = (m.insert w.1 w.2).write writes := rfl

theorem write_append (m : InfoMap) (front back : List (String × String)) :
    m.write (front ++ back) = (m.write front).write back :=
  List.foldl_append

/-- The values that writes have under a key, in order. -/
def written (key : String) (writes : List (String × String)) : List String :=
  writes.filterMap fun w => if w.1 = key then some w.2 else none

theorem written_cons (key : String) (w : String × String) (writes : List (String × String)) :
    written key (w :: writes) =
      if w.1 = key then w.2 :: written key writes else written key writes := by
  rw [written, List.filterMap_cons]
  by_cases same : w.1 = key
  · rw [if_pos same, if_pos same]
    rfl
  · rw [if_neg same, if_neg same]
    rfl

/-- **Of several values that are written under a key the last one stays.** -/
theorem get?_write (m : InfoMap) (writes : List (String × String)) (key : String) :
    (m.write writes).get? key = (written key writes).getLast?.or (m.get? key) := by
  induction writes generalizing m with
  | nil => rfl
  | cons w writes ih =>
    rw [write_cons, ih, get?_insert, written_cons]
    by_cases same : w.1 = key
    · rw [if_pos same.symm, if_pos same, List.getLast?_cons]
      cases (written key writes).getLast? <;> rfl
    · rw [if_neg (Ne.symm same), if_neg same]

theorem written_eq_nil {key : String} {writes : List (String × String)}
    (h : ∀ w ∈ writes, w.1 ≠ key) : written key writes = [] :=
  List.filterMap_eq_nil_iff.2 fun w hw => if_neg (h w hw)

/-- A key that is not written keeps its value. -/
theorem get?_write_of_forall_ne {key : String} {writes : List (String × String)}
    (h : ∀ w ∈ writes, w.1 ≠ key) (m : InfoMap) : (m.write writes).get? key = m.get? key := by
  rw [get?_write, written_eq_nil h]
  rfl

end InfoMap

/-! ## Notes by object -/

namespace Note

/-- The infos that notes have for an object, in order. -/
def writesTo (id : ObjectId) (notes : List Note) : List (String × String) :=
  notes.filterMap fun
    | .info id' key value => if id' = id then some (key, value) else none
    | .message _ => none

@[simp] theorem writesTo_append (id : ObjectId) (front back : List Note) :
    writesTo id (front ++ back) = writesTo id front ++ writesTo id back :=
  List.filterMap_append

@[simp] theorem writesTo_cons_info_self (id : ObjectId) (key value : String) (notes : List Note) :
    writesTo id (.info id key value :: notes) = (key, value) :: writesTo id notes := by
  simp [writesTo]

/-- The infos that notes have for an object are those that are noted for it. -/
theorem mem_writesTo_iff {id : ObjectId} {key value : String} {notes : List Note} :
    (key, value) ∈ writesTo id notes ↔ .info id key value ∈ notes := by
  rw [writesTo, List.mem_filterMap]
  constructor
  · rintro ⟨n, noted, written⟩
    cases n with
    | message m => cases written
    | info id' key' value' =>
      dsimp only at written
      split at written
      · rename_i same
        cases written
        exact same ▸ noted
      · cases written
  · exact fun noted => ⟨_, noted, if_pos rfl⟩

/-- If a note has an info, then for one of these objects and under one of these keys. -/
def Concerns (objects : ObjectId → Prop) (keys : String → Prop) : Note → Prop
  | .info id key _ => objects id ∧ keys key
  | .message _ => True

variable {objects objects' : ObjectId → Prop} {keys keys' : String → Prop} {notes : List Note}

theorem Concerns.mono {n : Note} (h : n.Concerns objects keys)
    (sub : ∀ id, objects id → objects' id) (sub' : ∀ key, keys key → keys' key) :
    n.Concerns objects' keys' := by
  cases n with
  | info id key value => exact ⟨sub id h.1, sub' key h.2⟩
  | message m => trivial

theorem Concerns.mono_objects {n : Note} (h : n.Concerns objects keys)
    (sub : ∀ id, objects id → objects' id) : n.Concerns objects' keys :=
  h.mono sub fun _ => id

/-- Notes have nothing for an object that they do not concern. -/
theorem writesTo_eq_nil (h : ∀ n ∈ notes, n.Concerns objects keys) {id : ObjectId}
    (other : ¬ objects id) : writesTo id notes = [] := by
  apply List.filterMap_eq_nil_iff.2
  intro n hn
  cases n with
  | message m => rfl
  | info id' key value =>
    have concerned : objects id' := (h _ hn).1
    refine if_neg fun same => other ?_
    rwa [← same]

theorem keys_of_mem_writesTo (h : ∀ n ∈ notes, n.Concerns objects keys) {id : ObjectId}
    {w : String × String} (hw : w ∈ writesTo id notes) : keys w.1 := by
  obtain ⟨n, hn, written⟩ := List.mem_filterMap.1 hw
  cases n with
  | message m => cases written
  | info id' key value =>
    dsimp only at written
    split at written
    · cases written
      exact (h _ hn).2
    · cases written

end Note

/-! ## Taking notes -/

namespace Topology

/-- All that a topology knows apart from its objects. -/
def context (t : Topology) :
    (ObjectKind → KindFilter) × TopologyOptions × InfoMap × List Distance.Matrix :=
  (t.filter, t.options, t.infos, t.distances)

@[simp] theorem context_modify (t : Topology) (id : ObjectId) (change : Object → Object) :
    (t.modify id change).context = t.context := rfl

/-- A change that leaves the object as it is, or meets none, changes nothing. -/
theorem modify_eq_self {t : Topology} {id : ObjectId} {change : Object → Object}
    (h : ∀ o, t.object? id = some o → change o = o) : t.modify id change = t := by
  have unchanged : t.objects.modify id.index change = t.objects := by
    apply Array.ext_getElem?
    intro i
    rw [Array.getElem?_modify]
    split
    · rename_i same
      subst same
      cases found : t.objects[id.index]? with
      | none => rfl
      | some o => exact congrArg some (h o found)
    · rfl
  cases t
  simp only [modify, unchanged]

/-- Writing an info changes one object, if it is there. -/
theorem value_annotate (t : Topology) (id : ObjectId) (key value : String) :
    (t.annotate id key value).value =
      t.modify id fun o => { o with infos := o.infos.insert key value } := by
  unfold annotate addInfo modifyKnown
  by_cases known : id.index < t.size
  · rw [if_pos known]
    rfl
  · rw [if_neg known]
    refine (modify_eq_self fun o found => ?_).symm
    exact absurd ((t.object?_isSome_iff id).1 (Option.isSome_of_eq_some found)) known

/-- What one note changes. -/
theorem value_takeNote (t : Topology) (n : Note) :
    (t.takeNote n).value = match n with
      | .info id key value => t.modify id fun o => { o with infos := o.infos.insert key value }
      | .message _ => t := by
  cases n with
  | info id key value => exact value_annotate t id key value
  | message m => rfl

@[simp] theorem value_takeNotes_cons (t : Topology) (n : Note) (notes : List Note) :
    (t.takeNotes (n :: notes)).value = ((t.takeNote n).value.takeNotes notes).value := rfl

/-- **Each object gets the infos that are meant for it**, and is otherwise left alone. -/
theorem object?_takeNotes (notes : List Note) (t : Topology) (id : ObjectId) :
    (t.takeNotes notes).value.object? id =
      (t.object? id).map fun o => { o with infos := o.infos.write (Note.writesTo id notes) } := by
  induction notes generalizing t with
  | nil => exact Option.map_id'.symm
  | cons n notes ih =>
    rw [value_takeNotes_cons, ih, value_takeNote]
    cases n with
    | message m => rfl
    | info id' key value =>
      dsimp only
      rw [object?_modify]
      by_cases same : id = id'
      · subst same
        simp [Function.comp_def]
      · have : Note.writesTo id (.info id' key value :: notes) = Note.writesTo id notes := by
          simp [Note.writesTo, Ne.symm same]
        rw [if_neg same, this]

@[simp] theorem size_takeNotes (notes : List Note) (t : Topology) :
    (t.takeNotes notes).value.size = t.size := by
  induction notes generalizing t with
  | nil => rfl
  | cons n notes ih =>
    rw [value_takeNotes_cons, ih, value_takeNote]
    cases n with
    | message m => rfl
    | info id key value => exact size_modify ..

@[simp] theorem context_takeNotes (notes : List Note) (t : Topology) :
    (t.takeNotes notes).value.context = t.context := by
  induction notes generalizing t with
  | nil => rfl
  | cons n notes ih =>
    rw [value_takeNotes_cons, ih, value_takeNote]
    cases n <;> rfl

end Topology

/-! ## Facts about devices -/

namespace InfoKey

/-- The keys under which it is written where devices and subdevices were found. -/
def structural : List String := [driverIndex, driverDeviceIndex, subdevices, subdeviceId]

/-- The keys under which it is written what a device is like by itself, queue groups apart. -/
def descriptive : List String :=
  [deviceType, slices, subslicesPerSlice, eusPerSubslice, threadsPerEu, uuid, vendor, model, brand,
   serialNumber, boardNumber, queueGroups]

/-- The keys under which it is written what the management side knows of a device. -/
def management : List String := [vendor, model, brand, serialNumber, boardNumber]

theorem mem_descriptive_of_mem_management : ∀ key ∈ management, key ∈ descriptive := by decide

/-- The keys under which it is written what a device is like by itself. -/
def IsDescriptive (key : String) : Prop := key ∈ descriptive ∨ ∃ index, key = queueGroup index

/-- The keys under which it is written which command queues there are. -/
def IsQueue (key : String) : Prop := key = queueGroups ∨ ∃ index, key = queueGroup index

theorem IsQueue.isDescriptive {key : String} (h : IsQueue key) : IsDescriptive key := by
  rcases h with rfl | numbered
  · exact .inl (by decide)
  · exact .inr numbered

/-- The keys under which it is written how much memory there is. -/
def IsMemorySize (key : String) : Prop := ∃ c, key = memorySize c

theorem memorySize_not_mem_structural (c : Stack.MemoryClass) : memorySize c ∉ structural := by
  cases c <;> decide

theorem IsMemorySize.not_mem_structural {key : String} (h : IsMemorySize key) :
    key ∉ structural := by
  obtain ⟨c, rfl⟩ := h
  exact memorySize_not_mem_structural c

theorem toList_queueGroup (index : ℕ) :
    (queueGroup index).toList = "LevelZeroCQGroup".toList ++ (toString index).toList :=
  String.toList_append

/-- The numbered keys of queue groups are apart from a key if the letter after the common beginning
tells. -/
theorem queueGroup_ne {other : String} (letter : other.toList.take 10 ≠ "LevelZeroC".toList)
    (index : ℕ) : queueGroup index ≠ other := by
  rintro rfl
  refine letter ?_
  rw [toList_queueGroup]
  rfl

theorem IsDescriptive.not_mem {key : String} {keys : List String} (h : IsDescriptive key)
    (listed : ∀ other ∈ keys, other ∉ descriptive)
    (letter : ∀ other ∈ keys, other.toList.take 10 ≠ "LevelZeroC".toList) : key ∉ keys := by
  intro member
  rcases h with same | ⟨index, rfl⟩
  · exact listed key member same
  · exact queueGroup_ne (letter _ member) index rfl

theorem IsDescriptive.not_mem_structural {key : String} (h : IsDescriptive key) :
    key ∉ structural :=
  h.not_mem (by decide) (by decide)

theorem IsDescriptive.ne_memorySize {key : String} (h : IsDescriptive key)
    (c : Stack.MemoryClass) : key ≠ memorySize c := by
  have listed : memorySize c ∈ [.hbm, .ddr, .other].map memorySize :=
    List.mem_map_of_mem (by cases c <;> decide)
  rintro rfl
  exact h.not_mem (by decide) (by decide) listed

end InfoKey

/-- A note is a fact about some objects if it concerns them and no key of the structure. -/
def Note.IsFact (objects : ObjectId → Prop) (n : Note) : Prop :=
  n.Concerns objects (· ∉ InfoKey.structural)

theorem Note.IsFact.mono {objects objects' : ObjectId → Prop} {n : Note} (h : n.IsFact objects)
    (sub : ∀ id, objects id → objects' id) : n.IsFact objects' :=
  h.mono_objects sub

theorem Note.IsFact.weaken {objects : ObjectId → Prop} {n : Note} (h : n.IsFact objects) :
    n.Concerns objects fun _ => True :=
  Concerns.mono h (fun _ => id) fun _ _ => trivial

/-- Facts leave the keys of the structure alone. -/
theorem InfoMap.get?_write_of_isFact {objects : ObjectId → Prop} {notes : List Note} {key : String}
    (h : ∀ n ∈ notes, n.IsFact objects) (structural : key ∈ InfoKey.structural) (id : ObjectId)
    (m : InfoMap) : (m.write (Note.writesTo id notes)).get? key = m.get? key := by
  refine get?_write_of_forall_ne (fun w hw same => ?_) m
  have apart : w.1 ∉ InfoKey.structural := Note.keys_of_mem_writesTo h hw
  rw [same] at apart
  exact apart structural

variable {H : Type} {settings : Settings}

/-- An advisory, written or not, is no info. -/
theorem Note.concerns_advise {text : String} {objects : ObjectId → Prop} {keys : String → Prop} :
    ∀ n ∈ Note.advise settings text, n.Concerns objects keys := by
  intro n hn
  unfold Note.advise at hn
  split at hn
  · rw [List.mem_singleton.1 hn]
    trivial
  · cases hn

theorem concerns_propertyNotes (id : ObjectId) (p : Stack.DeviceProperties) :
    ∀ n ∈ propertyNotes id p settings, n.Concerns (· = id) InfoKey.IsDescriptive := by
  intro n hn
  unfold propertyNotes typeNotes at hn
  rcases List.mem_append.1 hn with hn | hn
  · split at hn
    · simp only [List.mem_singleton] at hn
      subst hn
      exact ⟨rfl, .inl (by decide)⟩
    · rcases List.mem_append.1 hn with hn | hn
      · exact Note.concerns_advise n hn
      · rw [List.mem_singleton.1 hn]
        exact ⟨rfl, .inl (by decide)⟩
  · simp only [List.mem_cons, List.not_mem_nil, or_false] at hn
    rcases hn with rfl | rfl | rfl | rfl | rfl <;> exact ⟨rfl, .inl (by decide)⟩

theorem concerns_managementNotes (stack : Stack H) (managed : H) (id : ObjectId) :
    ∀ n ∈ managementNotes stack managed id, n.Concerns (· = id) (· ∈ InfoKey.management) := by
  intro n hn
  unfold managementNotes at hn
  split at hn
  · obtain ⟨entry, he, rfl⟩ := List.mem_map.1 hn
    have listed := (List.mem_filter.1 he).1
    simp only [List.mem_cons, List.not_mem_nil, or_false] at listed
    refine ⟨rfl, ?_⟩
    rcases listed with rfl | rfl | rfl | rfl | rfl <;> dsimp only <;> decide
  · rw [List.mem_singleton.1 hn]
    trivial

/-- **What is known of a device describes it.** -/
theorem concerns_knownDeviceNotes (stack : Stack H) (managed : H) (id : ObjectId)
    (p : Stack.DeviceProperties) :
    ∀ n ∈ knownDeviceNotes stack managed id p settings,
      n.Concerns (· = id) InfoKey.IsDescriptive := by
  intro n hn
  rcases List.mem_append.1 hn with hn | hn
  · exact concerns_propertyNotes id p n hn
  · split at hn
    · cases hn
    · exact (concerns_managementNotes stack managed id n hn).mono (fun _ same => same)
        fun key listed => .inl (InfoKey.mem_descriptive_of_mem_management key listed)

/-- **The command queue groups of a device concern it.** -/
theorem concerns_queueNotes (stack : Stack H) (device : H) (id : ObjectId) :
    ∀ n ∈ queueNotes stack device id, n.Concerns (· = id) InfoKey.IsQueue := by
  intro n hn
  unfold queueNotes at hn
  split at hn
  · rcases List.mem_cons.1 hn with rfl | hn
    · exact ⟨rfl, .inl rfl⟩
    · obtain ⟨⟨group, index⟩, _, rfl⟩ := List.mem_map.1 hn
      exact ⟨rfl, .inr ⟨index, rfl⟩⟩
  · rw [List.mem_singleton.1 hn]
    trivial

/-- What is known of a device is facts about it. -/
theorem isFact_knownDeviceNotes (stack : Stack H) (managed : H) (id : ObjectId)
    (p : Stack.DeviceProperties) :
    ∀ n ∈ knownDeviceNotes stack managed id p settings, n.IsFact (· = id) := fun n hn =>
  (concerns_knownDeviceNotes stack managed id p n hn).mono (fun _ same => same)
    fun _ => InfoKey.IsDescriptive.not_mem_structural

/-- The command queue groups of a device are facts about it. -/
theorem isFact_queueNotes (stack : Stack H) (device : H) (id : ObjectId) :
    ∀ n ∈ queueNotes stack device id, n.IsFact (· = id) := fun n hn =>
  (concerns_queueNotes stack device id n hn).mono (fun _ same => same)
    fun _ queue => queue.isDescriptive.not_mem_structural

theorem concerns_sizeNotes (id : ObjectId) (c : Stack.MemoryClass) (kilobytes : UInt64) :
    ∀ n ∈ MemoryTotals.sizeNotes id c kilobytes, n.Concerns (· = id) InfoKey.IsMemorySize := by
  intro n hn
  unfold MemoryTotals.sizeNotes at hn
  split at hn
  · rw [List.mem_singleton.1 hn]
    exact ⟨rfl, c, rfl⟩
  · cases hn

/-- A module is noted, if at all, with the subdevice that it is on. -/
theorem concerns_placeModule (root : ObjectId) (table : List (Option ObjectId)) (index : ℕ)
    (p : Stack.MemoryProperties) (kilobytes : UInt64) :
    ∀ n ∈ placeModule root table index p kilobytes settings,
      n.Concerns (some · ∈ table) InfoKey.IsMemorySize := by
  intro n hn
  unfold placeModule at hn
  split at hn
  · split at hn
    · rename_i subdevice found
      apply (concerns_sizeNotes _ _ _ n hn).mono_objects
      intro id same
      rw [same]
      exact List.mem_of_getElem? found
    · cases hn
    · exact Note.concerns_advise n hn
  · cases hn

theorem concerns_readModule (stack : Stack H) (root : ObjectId) (table : List (Option ObjectId))
    (index : ℕ) (module : H) :
    ∀ n ∈ (readModule stack root table index module settings).notes,
      n.Concerns (some · ∈ table) InfoKey.IsMemorySize := by
  unfold readModule
  cases stack.memoryProperties module with
  | error fault =>
    intro n hn
    rw [List.mem_singleton.1 hn]
    trivial
  | ok p =>
    dsimp only
    cases moduleBytes stack module p with
    | ok bytes => exact concerns_placeModule root table index p (bytes >>> 10)
    | error fault =>
      intro n hn
      rcases List.mem_cons.1 hn with rfl | hn
      · trivial
      · exact concerns_placeModule _ _ _ _ _ n hn

/-- **The memory of a device concerns it and the subdevices that were created.** -/
theorem concerns_memoryReport (stack : Stack H) (managed : H) (root : ObjectId)
    (table : List (Option ObjectId)) :
    ∀ n ∈ (memoryReport stack managed root table settings).1,
      n.Concerns (fun id => id = root ∨ some id ∈ table) InfoKey.IsMemorySize := by
  intro n hn
  unfold memoryReport at hn
  split at hn
  · rw [List.mem_singleton.1 hn]
    trivial
  · rcases List.mem_append.1 hn with hn | hn
    · rcases List.mem_cons.1 hn with rfl | hn
      · trivial
      · obtain ⟨reading, hr, hn⟩ := List.mem_flatMap.1 hn
        obtain ⟨⟨module, index⟩, _, rfl⟩ := List.mem_map.1 hr
        exact (concerns_readModule _ _ _ _ _ n hn).mono_objects fun id => Or.inr
    · rcases List.mem_append.1 hn with hn | hn
      · exact (concerns_sizeNotes _ _ _ n hn).mono_objects fun id => Or.inl
      · exact (concerns_sizeNotes _ _ _ n hn).mono_objects fun id => Or.inl

/-- The memory of a device is facts about it and about the subdevices that were created. -/
theorem isFact_memoryReport (stack : Stack H) (managed : H) (root : ObjectId)
    (table : List (Option ObjectId)) :
    ∀ n ∈ (memoryReport stack managed root table settings).1,
      n.IsFact fun id => id = root ∨ some id ∈ table := fun n hn =>
  (concerns_memoryReport stack managed root table n hn).mono (fun _ same => same)
    fun _ => InfoKey.IsMemorySize.not_mem_structural

end DeviceAtlas
