import DeviceAtlas.Proofs.Description
import Mathlib.Algebra.GroupWithZero.Nat

/-!
# The memory of a device, module by module

The size of a module goes to the subdevice that the module is on, in place of a size of the same
class that was written there before, and into the total of the device. So a subdevice shows the last
size that is not zero, and a device the sum of all.

* `FoundDevice.sizes`, `FoundDevice.sizesOn`: the sizes of the modules of a class.
* `FoundDevice.values_memoryNotes_part`: what is written for a subdevice.
* `FoundDevice.values_memoryNotes_root`: what is written for a device.
-/

namespace DeviceAtlas

variable {H : Type}

/-! ## The values of notes -/

namespace Note

variable {id : ObjectId} {key : String} {notes : List Note} {objects : ObjectId → Prop}
  {keys : String → Prop}

/-- The values that notes have for an object under a key, in order. -/
def values (id : ObjectId) (key : String) (notes : List Note) : List String :=
  InfoMap.written key (writesTo id notes)

theorem mem_values_iff {value : String} :
    value ∈ values id key notes ↔ .info id key value ∈ notes := by
  rw [← mem_writesTo_iff, values, InfoMap.written, List.mem_filterMap]
  constructor
  · rintro ⟨⟨key', value'⟩, written, same⟩
    dsimp only at same
    split at same
    · rename_i here
      cases same
      exact here ▸ written
    · cases same
  · exact fun written => ⟨_, written, if_pos rfl⟩

@[simp] theorem values_append (id : ObjectId) (key : String) (front back : List Note) :
    values id key (front ++ back) = values id key front ++ values id key back := by
  rw [values, writesTo_append, InfoMap.written, List.filterMap_append]
  rfl

@[simp] theorem values_cons_message (id : ObjectId) (key : String) (m : Message)
    (notes : List Note) : values id key (.message m :: notes) = values id key notes := rfl

/-- An advisory, written or not, has no values. -/
@[simp] theorem values_advise (id : ObjectId) (key : String) (settings : Settings)
    (text : String) : values id key (advise settings text) = [] := by
  unfold advise
  split <;> rfl

theorem info_notMem_advise (id : ObjectId) (key value : String) (settings : Settings)
    (text : String) : .info id key value ∉ advise settings text := by
  rw [← mem_values_iff, values_advise]
  exact List.not_mem_nil

theorem values_cons_info_self (id : ObjectId) (key other value : String) (notes : List Note) :
    values id key (.info id other value :: notes) =
      if other = key then value :: values id key notes else values id key notes := by
  rw [values, writesTo_cons_info_self, InfoMap.written_cons]
  rfl

/-- Notes that do not concern a key have no values under it. -/
theorem values_eq_nil_of_key (h : ∀ n ∈ notes, n.Concerns objects keys) (other : ¬ keys key) :
    values id key notes = [] :=
  InfoMap.written_eq_nil fun _ hw same => other (same ▸ keys_of_mem_writesTo h hw)

/-- Notes that do not concern an object have no values for it. -/
theorem values_eq_nil_of_object (h : ∀ n ∈ notes, n.Concerns objects keys) (other : ¬ objects id) :
    values id key notes = [] := by
  rw [values, writesTo_eq_nil h other]
  rfl

end Note

/-- An object with notes has the last value that they have under a key. -/
theorem Object.info?_noted (o : Object) (id : ObjectId) (notes : List Note) (key : String) :
    (o.noted id notes).info? key = (Note.values id key notes).getLast?.or (o.info? key) :=
  InfoMap.get?_write ..

/-- An object shows what is noted for it, and keeps what is not. -/
theorem Object.info?_noted_cases (o : Object) (id : ObjectId) (notes : List Note) (key : String) :
    (∃ value, .info id key value ∈ notes ∧ (o.noted id notes).info? key = some value) ∨
      (∀ value, .info id key value ∉ notes) ∧ (o.noted id notes).info? key = o.info? key := by
  rw [o.info?_noted id notes key]
  cases last : (Note.values id key notes).getLast? with
  | none =>
    have none := List.getLast?_eq_none_iff.1 last
    refine .inr ⟨fun value noted => ?_, rfl⟩
    have listed := Note.mem_values_iff.2 noted
    rw [none] at listed
    cases listed
  | some value => exact .inl ⟨value, Note.mem_values_iff.1 (List.mem_of_getLast? last), rfl⟩

/-! ## Modules -/

/-- A memory module that tells its properties, and its size in kilobytes, which counts as 0 if the
module does not tell it. -/
structure FoundModule where
  properties : Stack.MemoryProperties
  kilobytes : UInt64

namespace FoundModule

/-- The class of the module. -/
def memoryClass (m : FoundModule) : Stack.MemoryClass := .ofRaw m.properties.memoryType

/-- The place, in the listing of the device, of the subdevice that the module is on. -/
def place? (m : FoundModule) : Option ℕ :=
  if m.properties.onSubdevice then some m.properties.subdeviceId.toNat else none

end FoundModule

/-- The module behind a handle, if it tells its properties. -/
def foundModule? (stack : Stack H) (module : H) : Option FoundModule :=
  match stack.memoryProperties module with
  | .ok p => some ⟨p, (moduleBytes stack module p).toOption.getD 0 >>> 10⟩
  | .error _ => none

/-- The memory modules that are listed with a managed device. -/
def Stack.listedModules (stack : Stack H) (managed : H) : List H :=
  (stack.memoryModules managed).toOption.getD []

namespace FoundDevice

variable (stack : Stack H) (d : FoundDevice H)

/-- The modules of the device and its subdevices that tell their properties. -/
def modules : List FoundModule :=
  match stack.memoryModules d.managed with
  | .ok handles => handles.filterMap (foundModule? stack)
  | .error _ => []

theorem modules_eq :
    d.modules stack = (stack.listedModules d.managed).filterMap (foundModule? stack) := by
  unfold modules Stack.listedModules
  cases stack.memoryModules d.managed <;> rfl

/-- The sizes of the modules of a class, in kilobytes. -/
def sizes (c : Stack.MemoryClass) : List ℕ :=
  ((d.modules stack).filter (·.memoryClass = c)).map (·.kilobytes.toNat)

/-- The sizes of the modules of a class that are on the subdevice at a place, in kilobytes. -/
def sizesOn (c : Stack.MemoryClass) (k : ℕ) : List ℕ :=
  ((d.modules stack).filter fun m => m.memoryClass = c ∧ m.place? = some k).map
    (·.kilobytes.toNat)

end FoundDevice

/-! ## What modules have to note -/

theorem InfoKey.memorySize_inj {c c' : Stack.MemoryClass} (h : memorySize c = memorySize c') :
    c = c' := by
  revert h
  cases c <;> cases c' <;> decide

/-- The size of a class is written if it is not zero. -/
theorem values_sizeNotes (id other : ObjectId) (c c' : Stack.MemoryClass) (kilobytes : UInt64) :
    Note.values id (InfoKey.memorySize c) (MemoryTotals.sizeNotes other c' kilobytes) =
      if other = id ∧ c' = c ∧ 0 < kilobytes then [toString kilobytes.toNat] else [] := by
  unfold MemoryTotals.sizeNotes
  by_cases some : 0 < kilobytes
  · rw [if_pos some]
    by_cases same : other = id
    · subst same
      have written : Note.values other (InfoKey.memorySize c)
          [.info other (InfoKey.memorySize c') (toString kilobytes.toNat)] =
          if InfoKey.memorySize c' = InfoKey.memorySize c then [toString kilobytes.toNat] else [] :=
        Note.values_cons_info_self ..
      rw [written]
      by_cases kind : c' = c
      · simp [kind, some]
      · rw [if_neg fun keys => kind (InfoKey.memorySize_inj keys), if_neg fun h => kind h.2.1]
    · have none : Note.writesTo id
          [.info other (InfoKey.memorySize c') (toString kilobytes.toNat)] = [] := by
        simp [Note.writesTo, same]
      rw [Note.values, none, if_neg fun h => same h.1]
      rfl
  · rw [if_neg some, if_neg fun h => some h.2.2]
    rfl

section Module

variable {stack : Stack H} {table : List (Option ObjectId)} {id : ObjectId} {k : ℕ}

/-- What is written for the object of a subdevice on account of one module. -/
def FoundModule.valuesOn (c : Stack.MemoryClass) (k : ℕ) (m : FoundModule) : List String :=
  if m.memoryClass = c ∧ m.place? = some k ∧ 0 < m.kilobytes then [toString m.kilobytes.toNat]
  else []

/-- A module is noted with the object that stands in the table at its place. -/
theorem values_placeModule (only : ∀ place : ℕ, table[place]? = some (some id) ↔ place = k)
    (c : Stack.MemoryClass) (root : ObjectId) (index : ℕ) (m : FoundModule)
    (settings : Settings) :
    Note.values id (InfoKey.memorySize c)
      (placeModule root table index m.properties m.kilobytes settings) = m.valuesOn c k := by
  unfold placeModule FoundModule.valuesOn FoundModule.place?
  by_cases part : m.properties.onSubdevice
  · have there := only m.properties.subdeviceId.toNat
    simp only [part, if_true, Option.some.injEq]
    cases found : table[m.properties.subdeviceId.toNat]? with
    | none =>
      rw [found] at there
      rw [if_neg fun h => nomatch there.2 h.2.1]
      exact Note.values_advise ..
    | some entry =>
      rw [found, Option.some.injEq] at there
      cases entry with
      | none =>
        rw [if_neg fun h => nomatch there.2 h.2.1]
        rfl
      | some subdevice =>
        rw [Option.some.injEq] at there
        dsimp only
        rw [values_sizeNotes]
        refine ite_congr (propext ?_) (fun _ => rfl) fun _ => rfl
        rw [there, and_left_comm]
        exact Iff.rfl
  · rw [if_neg part, if_neg part, if_neg fun h => nomatch h.2.1]
    rfl

theorem values_readModule (only : ∀ place : ℕ, table[place]? = some (some id) ↔ place = k)
    (c : Stack.MemoryClass) (root : ObjectId) (index : ℕ) (module : H) (settings : Settings) :
    Note.values id (InfoKey.memorySize c)
        (readModule stack root table index module settings).notes =
      (foundModule? stack module).toList.flatMap (·.valuesOn c k) := by
  unfold readModule foundModule?
  cases stack.memoryProperties module with
  | error fault => rfl
  | ok p =>
    dsimp only
    have placed := fun bytes : UInt64 =>
      values_placeModule only c root index ⟨p, bytes >>> 10⟩ settings
    cases moduleBytes stack module p with
    | ok bytes =>
      rw [List.nil_append, placed]
      simp [Except.toOption]
    | error fault =>
      rw [List.singleton_append, Note.detail, Note.values_cons_message, placed]
      simp [Except.toOption]

/-- What the modules of a listing have to note for the object of a subdevice, in their order. -/
theorem values_flatMap_readModule
    (only : ∀ place : ℕ, table[place]? = some (some id) ↔ place = k) (c : Stack.MemoryClass)
    (root : ObjectId) (settings : Settings) (handles : List H) (first : ℕ) :
    Note.values id (InfoKey.memorySize c) (((handles.zipIdx first).map fun (module, index) =>
        readModule stack root table index module settings).flatMap (·.notes)) =
      (handles.filterMap (foundModule? stack)).flatMap (·.valuesOn c k) := by
  induction handles generalizing first with
  | nil => rfl
  | cons module rest ih =>
    rw [List.zipIdx_cons, List.map_cons, List.flatMap_cons, Note.values_append, ih,
      values_readModule only, List.filterMap_cons]
    cases foundModule? stack module <;> simp

/-- The sizes that are not zero are written. -/
theorem flatMap_valuesOn (modules : List FoundModule) (c : Stack.MemoryClass) (k : ℕ) :
    modules.flatMap (·.valuesOn c k) =
      (((modules.filter fun m => m.memoryClass = c ∧ m.place? = some k).map
        (·.kilobytes.toNat)).filter (0 < ·)).map toString := by
  induction modules with
  | nil => rfl
  | cons m rest ih =>
    have pos : 0 < m.kilobytes ↔ 0 < m.kilobytes.toNat := UInt64.lt_iff_toNat_lt
    rw [List.flatMap_cons, ih]
    by_cases on : m.memoryClass = c ∧ m.place? = some k
    · by_cases some : 0 < m.kilobytes.toNat <;> simp [FoundModule.valuesOn, on, pos, some]
    · have off : ¬ (m.memoryClass = c ∧ m.place? = some k ∧ 0 < m.kilobytes) :=
        fun h => on ⟨h.1, h.2.1⟩
      rw [FoundModule.valuesOn, if_neg off, List.nil_append,
        List.filter_cons_of_neg (by simpa using on)]

end Module

/-! ## Totals -/

namespace MemoryTotals

/-- The total of a class; other memory is not counted. -/
def size (totals : MemoryTotals) : Stack.MemoryClass → UInt64
  | .hbm => totals.hbm
  | .ddr => totals.ddr
  | .other => 0

variable {c : Stack.MemoryClass}

@[simp] theorem size_empty : ({} : MemoryTotals).size c = 0 := by cases c <;> rfl

theorem size_add (counted : c ≠ .other) (totals : MemoryTotals) (c' : Stack.MemoryClass)
    (kilobytes : UInt64) :
    (totals.add c' kilobytes).size c =
      if c' = c then Capped.add (totals.size c) kilobytes else totals.size c := by
  cases c with
  | hbm => cases c' <;> rfl
  | ddr => cases c' <;> rfl
  | other => exact absurd rfl counted

/-- **The total of a class is the sum of its sizes**, capped. -/
theorem toNat_size_foldl (counted : c ≠ .other)
    (readings : List (Stack.MemoryClass × UInt64)) (totals : MemoryTotals) :
    ((readings.foldl (fun totals (c, kilobytes) => totals.add c kilobytes) totals).size c).toNat =
      min Capped.top ((totals.size c).toNat +
        ((readings.filter (·.1 = c)).map (·.2.toNat)).sum) := by
  induction readings generalizing totals with
  | nil => exact (Nat.min_eq_right (Capped.toNat_le_top _)).symm
  | cons r rest ih =>
    rw [List.foldl_cons, ih, size_add counted]
    by_cases same : r.1 = c
    · rw [if_pos same, Capped.toNat_add, List.filter_cons_of_pos (by simpa using same),
        List.map_cons, List.sum_cons]
      omega
    · rw [if_neg same, List.filter_cons_of_neg (by simpa using same)]

/-- What is written for a device is its totals. -/
theorem values_notes (counted : c ≠ .other) (totals : MemoryTotals) (id other : ObjectId) :
    Note.values id (InfoKey.memorySize c) (totals.notes other) =
      if other = id ∧ 0 < totals.size c then [toString (totals.size c).toNat] else [] := by
  rw [notes, Note.values_append, values_sizeNotes, values_sizeNotes]
  cases c with
  | hbm => simp [size]
  | ddr => simp [size]
  | other => exact absurd rfl counted

end MemoryTotals

theorem counted_readModule (stack : Stack H) (root : ObjectId) (table : List (Option ObjectId))
    (index : ℕ) (module : H) (settings : Settings) :
    (readModule stack root table index module settings).counted =
      (foundModule? stack module).map fun m => (m.memoryClass, m.kilobytes) := by
  unfold readModule foundModule?
  cases stack.memoryProperties module with
  | error fault => rfl
  | ok p =>
    dsimp only
    cases moduleBytes stack module p <;> rfl

/-- What is counted are the modules that tell their properties. -/
theorem filterMap_counted_readModule (stack : Stack H) (root : ObjectId)
    (table : List (Option ObjectId)) (settings : Settings) (handles : List H) (first : ℕ) :
    ((handles.zipIdx first).map fun (module, index) =>
        readModule stack root table index module settings).filterMap (·.counted) =
      (handles.filterMap (foundModule? stack)).map fun m => (m.memoryClass, m.kilobytes) := by
  induction handles generalizing first with
  | nil => rfl
  | cons module rest ih =>
    rw [List.zipIdx_cons, List.map_cons, List.filterMap_cons, ih, counted_readModule,
      List.filterMap_cons]
    cases foundModule? stack module <;> rfl

/-- **The total of a class is the sum of the sizes of its modules**, capped. -/
theorem toNat_size_memoryReport {c : Stack.MemoryClass} (counted : c ≠ .other) (stack : Stack H)
    (managed : H) (root : ObjectId) (table : List (Option ObjectId)) (settings : Settings) :
    ((memoryReport stack managed root table settings).2.size c).toNat = min Capped.top
      ((((stack.listedModules managed).filterMap (foundModule? stack)).filter
        (·.memoryClass = c)).map (·.kilobytes.toNat)).sum := by
  unfold memoryReport Stack.listedModules
  cases stack.memoryModules managed with
  | error fault =>
    dsimp only
    rw [MemoryTotals.size_empty]
    rfl
  | ok handles =>
    dsimp only [Except.toOption, Option.getD_some]
    rw [filterMap_counted_readModule, MemoryTotals.toNat_size_foldl counted, List.filter_map,
      List.map_map, MemoryTotals.size_empty, UInt64.toNat_zero, Nat.zero_add]
    rfl

/-! ## The memory of a device -/

namespace FoundDevice

variable (stack : Stack H) (d : FoundDevice H) (start : ℕ) {c : Stack.MemoryClass}

/-- The total of a class of a device that is object `start`. -/
def memoryTotal (c : Stack.MemoryClass) : UInt64 :=
  (memoryReport stack d.managed ⟨start⟩ (d.table stack start) {}).2.size c

theorem toNat_memoryTotal (counted : c ≠ .other) :
    (d.memoryTotal stack start c).toNat = min Capped.top (d.sizes stack c).sum := by
  rw [memoryTotal, toNat_size_memoryReport counted, sizes, modules_eq]

/-- What is noted of memory is under the keys of memory. -/
theorem values_memoryNotes_of_not_isMemorySize {key : String} (other : ¬ InfoKey.IsMemorySize key)
    (id : ObjectId) : Note.values id key (d.memoryNotes stack start) = [] :=
  Note.values_eq_nil_of_key (concerns_memoryReport stack d.managed ⟨start⟩ _) other

/-- **What is written for a device is the total.** -/
theorem values_memoryNotes_root (counted : c ≠ .other) :
    Note.values ⟨start⟩ (InfoKey.memorySize c) (d.memoryNotes stack start) =
      if 0 < d.memoryTotal stack start c then [toString (d.memoryTotal stack start c).toNat]
      else [] := by
  unfold memoryNotes memoryTotal memoryReport
  cases stack.memoryModules d.managed with
  | error fault =>
    dsimp only
    rw [MemoryTotals.size_empty]
    rfl
  | ok handles =>
    have readings : ∀ n ∈ (handles.zipIdx.map fun (module, index) => readModule stack
        ⟨start⟩ (d.table stack start) index module {}).flatMap (·.notes),
        n.Concerns (some · ∈ d.table stack start) InfoKey.IsMemorySize := by
      intro n hn
      obtain ⟨reading, hr, hn⟩ := List.mem_flatMap.1 hn
      obtain ⟨⟨module, index⟩, _, rfl⟩ := List.mem_map.1 hr
      exact concerns_readModule _ _ _ _ _ n hn
    dsimp only
    rw [List.cons_append, Note.detail, Note.values_cons_message, Note.values_append,
      Note.values_eq_nil_of_object readings (d.root_notMem_table stack start), List.nil_append,
      MemoryTotals.values_notes counted]
    simp

/-- **What is written for a subdevice are the sizes of the modules on it**, apart from those that
are zero. -/
theorem values_memoryNotes_part (counted : c ≠ .other) {i : ℕ} {f : FoundSubdevice H}
    (hf : (d.subdevices stack)[i]? = some f) :
    Note.values ⟨start + 1 + i⟩ (InfoKey.memorySize c) (d.memoryNotes stack start) =
      ((d.sizesOn stack c f.number).filter (0 < ·)).map toString := by
  have only := d.getElem?_table_eq_iff stack start hf
  unfold memoryNotes memoryReport sizesOn modules
  cases stack.memoryModules d.managed with
  | error fault => rfl
  | ok handles =>
    have other : (⟨start⟩ : ObjectId) ≠ ⟨start + 1 + i⟩ := fun same => by
      have := congrArg ObjectId.index same
      dsimp only at this
      omega
    dsimp only
    rw [List.cons_append, Note.detail, Note.values_cons_message, Note.values_append,
      values_flatMap_readModule only, MemoryTotals.values_notes counted, if_neg fun h => other h.1,
      List.append_nil, flatMap_valuesOn]

end FoundDevice

end DeviceAtlas
