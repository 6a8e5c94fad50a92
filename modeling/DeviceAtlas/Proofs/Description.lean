import DeviceAtlas.Discovery.Survey
import DeviceAtlas.Proofs.Notes
import DeviceAtlas.Proofs.Positions
import Mathlib.Tactic.Set

/-!
# Devices described beside the tree

Describing a device and its subdevices puts new objects after those that were there, and touches
none of the latter. The new objects are known exactly: which subdevices are among them, the name of
each, and its infos.

* `Topology.Extends`: a topology continues another one with more objects.
* `exists_addSubdevices`: the subdevices that can be identified get one object each, in order.
* `FoundDevice.exists_describeDevice`: the objects of a device.
* `FoundDevice.info?_rootObject`, `FoundDevice.info?_partObject`: what stands under the keys of the
  structure.
-/

namespace DeviceAtlas

/-! ## More objects -/

/-- Objects were put after those of the first topology, and nothing else is different. -/
structure Topology.Extends (t t' : Topology) (added : List Object) : Prop where
  context : t'.context = t.context
  objects : t'.objects.toList = t.objects.toList ++ added

namespace Topology

variable {t t' t'' : Topology} {added added' : List Object}

theorem object?_eq_getElem? (t : Topology) (id : ObjectId) :
    t.object? id = t.objects.toList[id.index]? := by
  simp [object?]

namespace Extends

theorem refl (t : Topology) : t.Extends t [] := ⟨rfl, (List.append_nil _).symm⟩

theorem trans (h : t.Extends t' added) (h' : t'.Extends t'' added') :
    t.Extends t'' (added ++ added') where
  context := h'.context.trans h.context
  objects := by rw [h'.objects, h.objects, List.append_assoc]

theorem size_eq (h : t.Extends t' added) : t'.size = t.size + added.length := by
  have := congrArg List.length h.objects
  simpa [size] using this

/-- The objects that were there stay as they were. -/
theorem object?_of_lt (h : t.Extends t' added) {id : ObjectId} (old : id.index < t.size) :
    t'.object? id = t.object? id := by
  rw [object?_eq_getElem?, object?_eq_getElem?, h.objects, List.getElem?_append_left]
  simpa [size] using old

/-- The new objects have the next numbers. -/
theorem object?_size_add (h : t.Extends t' added) (i : ℕ) :
    t'.object? ⟨t.size + i⟩ = added[i]? := by
  have length : t.objects.toList.length = t.size := by simp [size]
  rw [object?_eq_getElem?, h.objects]
  dsimp only
  rw [List.getElem?_append_right (by omega), length, Nat.add_sub_cancel_left]

end Extends

/-- It is enough to look at the objects one by one. -/
theorem extends_of_object? (context : t'.context = t.context)
    (old : ∀ id : ObjectId, id.index < t.size → t'.object? id = t.object? id)
    (new : ∀ i, t'.object? ⟨t.size + i⟩ = added[i]?) : t.Extends t' added := by
  refine ⟨context, List.ext_getElem? fun i => ?_⟩
  have length : t.objects.toList.length = t.size := by simp [size]
  have here := object?_eq_getElem? t' ⟨i⟩
  rw [← here]
  by_cases h : i < t.size
  · rw [List.getElem?_append_left (by omega), old ⟨i⟩ h, object?_eq_getElem?]
  · have shifted : t.size + (i - t.size) = i := by omega
    rw [List.getElem?_append_right (by omega), length, ← new, shifted]

end Topology

/-- An object with the infos that notes have for it. -/
def Object.noted (id : ObjectId) (notes : List Note) (o : Object) : Object :=
  { o with infos := o.infos.write (Note.writesTo id notes) }

/-- Objects with the infos that notes have for them, the first of them having number `start`. -/
def Object.notedFrom (start : ℕ) (notes : List Note) (objects : List Object) : List Object :=
  (objects.zipIdx start).map fun (o, i) => o.noted ⟨i⟩ notes

/-- Notes on new objects only leave the others alone. -/
theorem Topology.Extends.takeNotes {t t' : Topology} {added : List Object}
    (h : t.Extends t' added) {notes : List Note} {keys : String → Prop}
    (new : ∀ n ∈ notes, n.Concerns (fun id => t.size ≤ id.index) keys) :
    t.Extends (t'.takeNotes notes).value (Object.notedFrom t.size notes added) := by
  refine extends_of_object? ((context_takeNotes ..).trans h.context) (fun id old => ?_) fun i => ?_
  · have nothing : Note.writesTo id notes = [] :=
      Note.writesTo_eq_nil new (Nat.not_le.2 old)
    rw [object?_takeNotes, nothing, h.object?_of_lt old]
    exact Option.map_id'
  · rw [object?_takeNotes, h.object?_size_add, Object.notedFrom, List.getElem?_map,
      List.getElem?_zipIdx, Option.map_map]
    rfl

/-! ## What can be identified -/

variable {H : Type}

/-- What a driver stack answers about a device or subdevice: its properties, and the handle of the
management side that belongs to the identity among them. -/
def Stack.Identifies (stack : Stack H) (managementDriver handle : H) (p : Stack.DeviceProperties)
    (managed : H) : Prop :=
  stack.deviceProperties handle = .ok p ∧
    ∃ m, stack.managedDevice managementDriver p.uuid = .ok m ∧ m.handle = managed

theorem identify_eq_ok_iff {stack : Stack H} {managementDriver handle managed : H}
    {p : Stack.DeviceProperties} :
    identify stack managementDriver handle = .ok (p, managed) ↔
      stack.Identifies managementDriver handle p managed := by
  unfold identify Stack.Identifies
  cases stack.deviceProperties handle with
  | error fault => simp [Except.mapError, bind, Except.bind]
  | ok q =>
    cases known : stack.managedDevice managementDriver q.uuid with
    | error fault =>
      simp only [Except.mapError, bind, Except.bind, known, Except.ok.injEq]
      refine iff_of_false nofun ?_
      rintro ⟨rfl, m, found, -⟩
      rw [known] at found
      cases found
    | ok m =>
      simp only [Except.mapError, bind, Except.bind, pure, Except.pure, known, Except.ok.injEq,
        Prod.mk.injEq]
      refine and_congr_right ?_
      rintro rfl
      simp [known]

/-- A subdevice that can be identified, and its number in the listing of its device. -/
structure FoundSubdevice (H : Type) where
  number : ℕ
  handle : H
  properties : Stack.DeviceProperties
  managed : H

/-- The subdevices in a listing that can be identified, numbered from `first` on. -/
def foundSubdevices (stack : Stack H) (managementDriver : H) (first : ℕ) (handles : List H) :
    List (FoundSubdevice H) :=
  (handles.zipIdx first).filterMap fun (handle, number) =>
    match identify stack managementDriver handle with
    | .ok (properties, managed) => some ⟨number, handle, properties, managed⟩
    | .error _ => none

/-- The table of subdevices, if those that can be identified get the numbers from `next` on. -/
def subdeviceTable (stack : Stack H) (managementDriver : H) :
    ℕ → List H → List (Option ObjectId)
  | _, [] => []
  | next, handle :: rest =>
    match identify stack managementDriver handle with
    | .ok _ => some ⟨next⟩ :: subdeviceTable stack managementDriver (next + 1) rest
    | .error _ => none :: subdeviceTable stack managementDriver next rest

section Identification

variable {stack : Stack H} {managementDriver handle : H} {first next : ℕ} {rest : List H}

theorem foundSubdevices_cons_ok {properties : Stack.DeviceProperties} {managed : H}
    (h : identify stack managementDriver handle = .ok (properties, managed)) :
    foundSubdevices stack managementDriver first (handle :: rest) =
      ⟨first, handle, properties, managed⟩ ::
        foundSubdevices stack managementDriver (first + 1) rest := by
  simp [foundSubdevices, h]

theorem foundSubdevices_cons_error {reason : Unidentified}
    (h : identify stack managementDriver handle = .error reason) :
    foundSubdevices stack managementDriver first (handle :: rest) =
      foundSubdevices stack managementDriver (first + 1) rest := by
  simp [foundSubdevices, h]

theorem subdeviceTable_cons_ok {found : Stack.DeviceProperties × H}
    (h : identify stack managementDriver handle = .ok found) :
    subdeviceTable stack managementDriver next (handle :: rest) =
      some ⟨next⟩ :: subdeviceTable stack managementDriver (next + 1) rest := by
  simp [subdeviceTable, h]

theorem subdeviceTable_cons_error {reason : Unidentified}
    (h : identify stack managementDriver handle = .error reason) :
    subdeviceTable stack managementDriver next (handle :: rest) =
      none :: subdeviceTable stack managementDriver next rest := by
  simp [subdeviceTable, h]

/-- The objects in the table are those from `next` on, as many as were identified. -/
theorem filterMap_subdeviceTable (first next : ℕ) (handles : List H) :
    (subdeviceTable stack managementDriver next handles).filterMap id =
      (List.range' next (foundSubdevices stack managementDriver first handles).length).map
        ObjectId.mk := by
  induction handles generalizing first next with
  | nil => rfl
  | cons handle rest ih =>
    cases h : identify stack managementDriver handle with
    | ok found =>
      rw [subdeviceTable_cons_ok h, foundSubdevices_cons_ok h, List.length_cons,
        List.range'_succ, List.map_cons, ← ih (first + 1) (next + 1)]
      rfl
    | error reason =>
      rw [subdeviceTable_cons_error h, foundSubdevices_cons_error h, ← ih (first + 1) next]
      rfl

/-- An entry of the table at a place is the object of the identified subdevice of that number. -/
theorem exists_of_subdeviceTable_eq_some (first : ℕ) {next place : ℕ} {handles : List H}
    {id : ObjectId} (h : (subdeviceTable stack managementDriver next handles)[place]? =
      some (some id)) :
    ∃ i found, (foundSubdevices stack managementDriver first handles)[i]? = some found ∧
      found.number = first + place ∧ id = ⟨next + i⟩ := by
  induction handles generalizing first next place with
  | nil => cases h
  | cons handle rest ih =>
    cases hi : identify stack managementDriver handle with
    | ok found =>
      rw [subdeviceTable_cons_ok hi] at h
      rw [foundSubdevices_cons_ok hi]
      cases place with
      | zero =>
        cases h
        exact ⟨0, _, rfl, rfl, rfl⟩
      | succ place =>
        obtain ⟨i, f, hf, number, rfl⟩ := ih (first + 1) h
        exact ⟨i + 1, f, hf, by omega, by rw [Nat.add_right_comm, Nat.add_assoc]⟩
    | error reason =>
      rw [subdeviceTable_cons_error hi] at h
      rw [foundSubdevices_cons_error hi]
      cases place with
      | zero => cases h
      | succ place =>
        obtain ⟨i, f, hf, number, rfl⟩ := ih (first + 1) h
        exact ⟨i, f, hf, by omega, rfl⟩

/-- The object of an identified subdevice stands in the table at the place of its number. -/
theorem exists_subdeviceTable_eq_some (next : ℕ) {handles : List H} {i : ℕ}
    {f : FoundSubdevice H}
    (h : (foundSubdevices stack managementDriver first handles)[i]? = some f) :
    ∃ place : ℕ, f.number = first + place ∧
      (subdeviceTable stack managementDriver next handles)[place]? = some (some ⟨next + i⟩) := by
  induction handles generalizing first next i with
  | nil => cases h
  | cons handle rest ih =>
    cases hi : identify stack managementDriver handle with
    | ok found =>
      rw [foundSubdevices_cons_ok hi] at h
      rw [subdeviceTable_cons_ok hi]
      cases i with
      | zero =>
        cases h
        exact ⟨0, rfl, rfl⟩
      | succ i =>
        obtain ⟨place, number, stands⟩ := ih (next + 1) h
        refine ⟨place + 1, by omega, ?_⟩
        rw [List.getElem?_cons_succ, stands, Nat.add_right_comm, Nat.add_assoc]
    | error reason =>
      rw [foundSubdevices_cons_error hi] at h
      rw [subdeviceTable_cons_error hi]
      obtain ⟨place, number, stands⟩ := ih next h
      exact ⟨place + 1, by omega, stands⟩

/-- The subdevices that can be identified, with their numbers in the listing. -/
theorem mem_foundSubdevices_iff {handles : List H} {f : FoundSubdevice H} :
    f ∈ foundSubdevices stack managementDriver first handles ↔
      first ≤ f.number ∧ handles[f.number - first]? = some f.handle ∧
        identify stack managementDriver f.handle = .ok (f.properties, f.managed) := by
  rw [foundSubdevices, List.mem_filterMap, ← and_assoc,
    ← List.mk_mem_zipIdx_iff_le_and_getElem?_sub]
  constructor
  · rintro ⟨⟨handle, number⟩, listed, hf⟩
    dsimp only at hf
    split at hf
    · rename_i identified
      cases hf
      exact ⟨listed, identified⟩
    · cases hf
  · rintro ⟨listed, identified⟩
    refine ⟨_, listed, ?_⟩
    simp only [identified]

/-- Identified subdevices stand in the order of their numbers. -/
theorem pairwise_number_foundSubdevices (stack : Stack H) (managementDriver : H) (first : ℕ)
    (handles : List H) :
    (foundSubdevices stack managementDriver first handles).Pairwise
      fun f g => f.number < g.number := by
  refine List.pairwise_filterMap.2 ((pairwise_zipIdx handles first).imp ?_)
  rintro ⟨handle, i⟩ ⟨handle', j⟩ lt f hf g hg
  dsimp only at hf hg
  split at hf
  · cases hf
    split at hg
    · cases hg
      exact lt
    · cases hg
  · cases hf

end Identification

/-! ## Subdevices -/

/-- A device of this name, outside of the tree and without infos. -/
def Object.device (name : String) : Object where
  kind := .osDevice
  subtype := some InfoKey.subtype
  name := some name
  attributes := some (.osDevice .accelerator)

/-- A new device has the next number. -/
theorem Topology.object?_allocateDevice (t : Topology) (name : String) (id : ObjectId) :
    (t.allocateDevice name).1.object? id =
      if id.index = t.size then some (Object.device name) else t.object? id := by
  unfold allocateDevice
  dsimp only
  rw [object?_modify, object?_allocate]
  by_cases new : id.index = t.size
  · have same : id = (t.allocate .osDevice).2 := congrArg ObjectId.mk new
    rw [if_pos same, if_pos new, if_pos new]
    rfl
  · have other : id ≠ (t.allocate .osDevice).2 := fun same => new (congrArg ObjectId.index same)
    rw [if_neg other, if_neg new, if_neg new]

theorem Topology.extends_allocateDevice (t : Topology) (name : String) :
    t.Extends (t.allocateDevice name).1 [Object.device name] := by
  refine extends_of_object? rfl (fun id old => ?_) fun i => ?_
  · rw [object?_allocateDevice, if_neg (Nat.ne_of_lt old)]
  · rw [object?_allocateDevice]
    cases i with
    | zero => exact if_pos rfl
    | succ i =>
      have beyond : ¬ (t.object? ⟨t.size + (i + 1)⟩).isSome := by
        rw [object?_isSome_iff]
        dsimp only
        omega
      rw [if_neg (by dsimp only; omega)]
      simpa using beyond

/-- What is noted on a subdevice, apart from its memory. -/
def FoundSubdevice.notes (stack : Stack H) (id : ObjectId) (f : FoundSubdevice H) : List Note :=
  .info id InfoKey.subdeviceId (toString f.number) ::
    knownDeviceNotes stack f.managed id f.properties {} ++ queueNotes stack f.handle id

/-- The properties that a subdevice is asked for twice are the same. -/
theorem subdeviceNotes_eq {stack : Stack H} {managementDriver handle managed : H}
    {properties : Stack.DeviceProperties}
    (h : identify stack managementDriver handle = .ok (properties, managed)) (id : ObjectId)
    (k : ℕ) :
    subdeviceNotes stack handle managed id k {} =
      FoundSubdevice.notes stack id ⟨k, handle, properties, managed⟩ := by
  rw [subdeviceNotes, deviceNotes_none (identify_eq_ok_iff.1 h).1]
  rfl

/-- The object of a subdevice, before anything is known of its memory. -/
def FoundSubdevice.object (stack : Stack H) (device : ℕ) (id : ObjectId) (f : FoundSubdevice H) :
    Object :=
  (Object.device s!"ze{device}.{f.number}").noted id (f.notes stack id)

/-- The objects of identified subdevices, the first of them having number `start`. -/
def subdeviceObjects (stack : Stack H) (device start : ℕ) (found : List (FoundSubdevice H)) :
    List Object :=
  (found.zipIdx start).map fun (f, i) => f.object stack device ⟨i⟩

/-- What is noted on a subdevice concerns it alone. -/
theorem FoundSubdevice.concerns_notes (stack : Stack H) (id : ObjectId) (f : FoundSubdevice H) :
    ∀ n ∈ f.notes stack id, n.Concerns (· = id) fun _ => True := by
  intro n hn
  rcases List.mem_append.1 hn with hn | hn
  · rcases List.mem_cons.1 hn with rfl | hn
    · exact ⟨rfl, trivial⟩
    · exact (isFact_knownDeviceNotes stack f.managed id f.properties n hn).weaken
  · exact (isFact_queueNotes stack f.handle id n hn).weaken

/-- A subdevice that cannot be identified leaves no trace. -/
theorem value_addSubdevice_of_error {stack : Stack H} {managementDriver handle : H}
    (place : DevicePlace) (t : Topology) (k : ℕ) {reason : Unidentified}
    (h : identify stack managementDriver handle = .error reason) :
    (addSubdevice stack managementDriver place t k handle {}).value = (t, none) := by
  simp only [addSubdevice, h]
  rfl

/-- A subdevice that can be identified gets the next number. -/
theorem value_addSubdevice_of_ok {stack : Stack H} {managementDriver handle : H}
    (place : DevicePlace) (t : Topology) (k : ℕ) {properties : Stack.DeviceProperties}
    {managed : H} (h : identify stack managementDriver handle = .ok (properties, managed)) :
    ∃ t', (addSubdevice stack managementDriver place t k handle {}).value =
        (t', some ⟨t.size⟩) ∧
      t.Extends t'
        [FoundSubdevice.object stack place.number ⟨t.size⟩ ⟨k, handle, properties, managed⟩] := by
  refine ⟨((t.allocateDevice s!"ze{place.number}.{k}").1.takeNotes
    (FoundSubdevice.notes stack ⟨t.size⟩ ⟨k, handle, properties, managed⟩)).value, ?_, ?_⟩
  · rw [← subdeviceNotes_eq h]
    simp only [addSubdevice, h]
    rfl
  · have new : ∀ n ∈ FoundSubdevice.notes stack ⟨t.size⟩ ⟨k, handle, properties, managed⟩,
        n.Concerns (fun id => t.size ≤ id.index) fun _ => True := fun n hn =>
      (FoundSubdevice.concerns_notes _ _ _ n hn).mono
        (fun id same => Nat.le_of_eq (congrArg ObjectId.index same).symm) fun _ => id
    exact (t.extends_allocateDevice _).takeNotes new

/-- The loop over a listing, from any table and number on. -/
theorem exists_foldl_addSubdevice (stack : Stack H) (managementDriver : H) (place : DevicePlace)
    (handles : List H) (first : ℕ) (t : Topology) (table : List (Option ObjectId)) :
    ∃ t', (handles.zipIdx first).foldl (fun x item =>
        ((addSubdevice stack managementDriver place x.1 item.2 item.1 {}).value.1,
          x.2 ++ [(addSubdevice stack managementDriver place x.1 item.2 item.1 {}).value.2]))
        (t, table) = (t', table ++ subdeviceTable stack managementDriver t.size handles) ∧
      t.Extends t' (subdeviceObjects stack place.number t.size
        (foundSubdevices stack managementDriver first handles)) := by
  induction handles generalizing first t table with
  | nil => exact ⟨t, by simp [subdeviceTable], .refl t⟩
  | cons handle rest ih =>
    rw [List.zipIdx_cons, List.foldl_cons]
    cases h : identify stack managementDriver handle with
    | error reason =>
      -- the place in the table is taken all the same, so that later places stay right
      rw [value_addSubdevice_of_error place t first h]
      obtain ⟨t', value, extended⟩ := ih (first + 1) t (table ++ [none])
      refine ⟨t', ?_, ?_⟩
      · rw [value, subdeviceTable_cons_error h, List.append_assoc]
        rfl
      · rwa [foundSubdevices_cons_error h]
    | ok found =>
      obtain ⟨properties, managed⟩ := found
      obtain ⟨t₁, value₁, extended₁⟩ := value_addSubdevice_of_ok place t first h
      rw [value₁]
      obtain ⟨t', value, extended⟩ := ih (first + 1) t₁ (table ++ [some ⟨t.size⟩])
      have size : t₁.size = t.size + 1 := extended₁.size_eq
      rw [size] at value extended
      refine ⟨t', ?_, ?_⟩
      · rw [value, subdeviceTable_cons_ok h, List.append_assoc]
        rfl
      · rw [foundSubdevices_cons_ok h]
        exact extended₁.trans extended

/-- **The subdevices that can be identified get one object each, in order**, and the table tells
where each is. -/
theorem exists_addSubdevices (stack : Stack H) (managementDriver : H) (place : DevicePlace)
    (t : Topology) (handles : List H) :
    ∃ t', (addSubdevices stack managementDriver place t handles {}).value =
        (t', subdeviceTable stack managementDriver t.size handles) ∧
      t.Extends t' (subdeviceObjects stack place.number t.size
        (foundSubdevices stack managementDriver 0 handles)) := by
  obtain ⟨t', value, extended⟩ :=
    exists_foldl_addSubdevice stack managementDriver place handles 0 t []
  refine ⟨t', ?_, extended⟩
  rw [addSubdevices, Logged.value_foldlM]
  exact value

/-! ## Devices -/

/-- A device that can be identified, and where it was found. -/
structure FoundDevice (H : Type) where
  driver : ℕ
  index : ℕ
  managementDriver : H
  handle : H
  properties : Stack.DeviceProperties
  managed : H

namespace FoundDevice

variable (stack : Stack H) (d : FoundDevice H) (number start : ℕ)

/-- Where the device was found, if it is the one of this number. -/
def place : DevicePlace := ⟨d.driver, d.index, number⟩

/-- The subdevices that the device lists. -/
def handles : List H :=
  match stack.subdevices d.handle with
  | .ok handles => handles
  | .error _ => []

/-- The subdevices that can be identified. -/
def subdevices : List (FoundSubdevice H) :=
  foundSubdevices stack d.managementDriver 0 (d.handles stack)

theorem mem_subdevices_iff {f : FoundSubdevice H} :
    f ∈ d.subdevices stack ↔ (d.handles stack)[f.number]? = some f.handle ∧
      identify stack d.managementDriver f.handle = .ok (f.properties, f.managed) := by
  rw [subdevices, mem_foundSubdevices_iff, Nat.sub_zero]
  exact and_iff_right (Nat.zero_le _)

/-- The table of subdevices of a device that is object `start`. -/
def table : List (Option ObjectId) :=
  subdeviceTable stack d.managementDriver (start + 1) (d.handles stack)

/-- The device itself is not in its table. -/
theorem root_notMem_table : some ⟨start⟩ ∉ d.table stack start := by
  intro listed
  obtain ⟨place, found⟩ := List.mem_iff_getElem?.1 listed
  obtain ⟨i, f, _, _, same⟩ := exists_of_subdeviceTable_eq_some 0 found
  have index : start = start + 1 + i := congrArg ObjectId.index same
  omega

/-- The object of a subdevice stands in the table at the place of its number, and nowhere else. -/
theorem getElem?_table_eq_iff {i : ℕ} {f : FoundSubdevice H}
    (hf : (d.subdevices stack)[i]? = some f) (place : ℕ) :
    (d.table stack start)[place]? = some (some ⟨start + 1 + i⟩) ↔ place = f.number := by
  constructor
  · intro found
    obtain ⟨j, g, hg, number, same⟩ := exists_of_subdeviceTable_eq_some 0 found
    have index : start + 1 + i = start + 1 + j := congrArg ObjectId.index same
    obtain rfl := Nat.add_left_cancel index
    have both : some f = some g := hf.symm.trans hg
    rw [Option.some.inj both, number, Nat.zero_add]
  · rintro rfl
    obtain ⟨place, number, stands⟩ := exists_subdeviceTable_eq_some (start + 1) hf
    rw [number, Nat.zero_add]
    exact stands

/-- What is noted of the memory of a device that is object `start`. -/
def memoryNotes : List Note := (memoryReport stack d.managed ⟨start⟩ (d.table stack start) {}).1

/-- What is noted of the device itself, apart from its memory. -/
def notes : List Note :=
  rootNotes stack d.handle d.managed ⟨start⟩ (d.place number) d.properties {}

/-- The objects of a device and its subdevices, of which the first is object `start`, before they
are in the tree. -/
def described : List Object :=
  Object.notedFrom start (d.memoryNotes stack start)
    ((Object.device s!"ze{number}").noted ⟨start⟩ (d.notes stack number start) ::
      subdeviceObjects stack number (start + 1) (d.subdevices stack))

@[simp] theorem length_described :
    (d.described stack number start).length = 1 + (d.subdevices stack).length := by
  simp [described, Object.notedFrom, subdeviceObjects, Nat.add_comm]

/-- What is described is a device, outside of the tree. -/
theorem of_mem_described {o : Object} (h : o ∈ d.described stack number start) :
    o.kind = .osDevice ∧ o.parent = none ∧ o.children = [] := by
  obtain ⟨⟨o', i⟩, listed, rfl⟩ := List.mem_map.1 h
  rcases List.mem_cons.1 (List.fst_mem_of_mem_zipIdx listed) with rfl | part
  · exact ⟨rfl, rfl, rfl⟩
  · obtain ⟨⟨f, j⟩, _, rfl⟩ := List.mem_map.1 part
    exact ⟨rfl, rfl, rfl⟩

theorem value_subdeviceHandles :
    (subdeviceHandles stack d.handle number).value = d.handles stack := by
  unfold subdeviceHandles handles
  cases stack.subdevices d.handle with
  | ok handles => rfl
  | error fault =>
    dsimp only
    split <;> rfl

/-- What is noted of a device concerns it alone. -/
theorem concerns_notes :
    ∀ n ∈ d.notes stack number start, n.Concerns (· = ⟨start⟩) fun _ => True := by
  intro n hn
  rcases List.mem_append.1 hn with hn | hn
  · rcases List.mem_cons.1 hn with rfl | hn
    · exact ⟨rfl, trivial⟩
    · rcases List.mem_cons.1 hn with rfl | hn
      · exact ⟨rfl, trivial⟩
      · exact (isFact_knownDeviceNotes stack d.managed _ d.properties n hn).weaken
  · exact (isFact_queueNotes stack d.handle _ n hn).weaken

/-- The memory that is noted is that of new objects. -/
theorem isFact_memoryNotes :
    ∀ n ∈ d.memoryNotes stack start, n.IsFact fun id => start ≤ id.index := by
  intro n hn
  apply (isFact_memoryReport _ _ _ _ n hn).mono
  intro id listed
  rcases listed with rfl | listed
  · exact Nat.le_refl start
  · obtain ⟨place, found⟩ := List.mem_iff_getElem?.1 listed
    obtain ⟨i, f, _, _, rfl⟩ := exists_of_subdeviceTable_eq_some 0 found
    exact Nat.le_trans (Nat.le_succ start) (Nat.le_add_right ..)

/-- **A device that is described gets its objects beside the tree**, and nothing else changes. -/
theorem exists_describeDevice (t : Topology) :
    ∃ t', (describeDevice stack d.managementDriver d.handle d.managed (d.place number)
        d.properties t {}).value = (t', ⟨t.size⟩, d.table stack t.size) ∧
      t.Extends t' (d.described stack number t.size) := by
  have own : ∀ n ∈ d.notes stack number t.size,
      n.Concerns (fun id => t.size ≤ id.index) fun _ => True := fun n hn =>
    (d.concerns_notes stack number t.size n hn).mono
      (fun id same => Nat.le_of_eq (congrArg ObjectId.index same).symm) fun _ => id
  have root := (t.extends_allocateDevice s!"ze{number}").takeNotes own
  set t₀ := ((t.allocateDevice s!"ze{number}").1.takeNotes (d.notes stack number t.size)).value
  have size : t₀.size = t.size + 1 := root.size_eq
  obtain ⟨t₁, value, subdevices⟩ := exists_addSubdevices stack d.managementDriver
    (d.place number) t₀ (d.handles stack)
  rw [size] at value subdevices
  refine ⟨(t₁.takeNotes (d.memoryNotes stack t.size)).value, ?_, ?_⟩
  · have unfolded : (describeDevice stack d.managementDriver d.handle d.managed (d.place number)
        d.properties t {}).value =
        let found := (addSubdevices stack d.managementDriver (d.place number) t₀
          (subdeviceHandles stack d.handle number).value {}).value
        ((found.1.takeNotes (memoryReport stack d.managed ⟨t.size⟩ found.2 {}).1).value,
          ⟨t.size⟩, found.2) := rfl
    rw [unfolded, value_subdeviceHandles, value]
    rfl
  · exact (root.trans subdevices).takeNotes (d.isFact_memoryNotes stack t.size)

/-! ### What the objects of a device are like -/

/-- The object of the device, before it is in the tree. -/
def rootObject : Object :=
  ((Object.device s!"ze{number}").noted ⟨start⟩ (d.notes stack number start)).noted ⟨start⟩
    (d.memoryNotes stack start)

/-- The object of a subdevice, the `i`-th that can be identified, before it is in the tree. -/
def partObject (i : ℕ) (f : FoundSubdevice H) : Object :=
  (f.object stack number ⟨start + 1 + i⟩).noted ⟨start + 1 + i⟩ (d.memoryNotes stack start)

theorem getElem?_described_zero :
    (d.described stack number start)[0]? = some (d.rootObject stack number start) := rfl

theorem getElem?_described_succ (i : ℕ) :
    (d.described stack number start)[i + 1]? =
      (d.subdevices stack)[i]?.map (d.partObject stack number start i) := by
  simp only [described, Object.notedFrom, subdeviceObjects, List.getElem?_map,
    List.getElem?_zipIdx, List.getElem?_cons_succ, Option.map_map]
  have shifted : start + (i + 1) = start + 1 + i := by omega
  rw [shifted]
  rfl

variable {key : String}

/-- Under the keys of the structure a device has the places where it was found. -/
theorem info?_rootObject (structural : key ∈ InfoKey.structural) :
    (d.rootObject stack number start).info? key =
      if key = InfoKey.driverDeviceIndex then some (toString d.index)
      else if key = InfoKey.driverIndex then some (toString d.driver)
      else none := by
  have known : ∀ n ∈ knownDeviceNotes stack d.managed ⟨start⟩ d.properties {}, _ :=
    isFact_knownDeviceNotes stack d.managed ⟨start⟩ d.properties
  have queues := isFact_queueNotes stack d.handle ⟨start⟩
  have memory := d.isFact_memoryNotes stack start
  rw [Object.info?, rootObject, Object.noted, InfoMap.get?_write_of_isFact memory structural,
    Object.noted, notes, rootNotes, deviceNotes_some]
  simp only [List.cons_append, Note.writesTo_cons_info_self, Note.writesTo_append,
    InfoMap.write_cons, InfoMap.write_append]
  rw [InfoMap.get?_write_of_isFact queues structural, InfoMap.get?_write_of_isFact known structural,
    InfoMap.get?_insert, InfoMap.get?_insert]
  rfl

/-- Under the keys of the structure a subdevice has its number. -/
theorem info?_partObject (structural : key ∈ InfoKey.structural) (i : ℕ) (f : FoundSubdevice H) :
    (d.partObject stack number start i f).info? key =
      if key = InfoKey.subdeviceId then some (toString f.number) else none := by
  have known : ∀ n ∈ knownDeviceNotes stack f.managed ⟨start + 1 + i⟩ f.properties {}, _ :=
    isFact_knownDeviceNotes stack f.managed ⟨start + 1 + i⟩ f.properties
  have queues := isFact_queueNotes stack f.handle ⟨start + 1 + i⟩
  have memory := d.isFact_memoryNotes stack start
  rw [Object.info?, partObject, Object.noted, InfoMap.get?_write_of_isFact memory structural,
    FoundSubdevice.object, Object.noted, FoundSubdevice.notes]
  simp only [List.cons_append, Note.writesTo_cons_info_self, Note.writesTo_append,
    InfoMap.write_cons, InfoMap.write_append]
  rw [InfoMap.get?_write_of_isFact queues structural, InfoMap.get?_write_of_isFact known structural,
    InfoMap.get?_insert]
  rfl

end FoundDevice

end DeviceAtlas
