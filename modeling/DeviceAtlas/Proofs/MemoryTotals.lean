import DeviceAtlas.Proofs.ModuleSizes
import DeviceAtlas.Proofs.Numerals
import Mathlib.Algebra.Order.BigOperators.Group.List
import Mathlib.Algebra.Order.Group.Nat

/-!
# The memory report of a device

The totals of a device are sums over the modules that are listed with it, wherever they are, and in
whatever order they are listed. What the report writes are the totals, for the device, and the size
of each module that has one, for the subdevice that the module is on if it was created.

* `Stack.kilobytes`, `Stack.memorySum`: the sizes of modules and their sum.
* `toNat_size_eq_memorySum`: a total is the sum of the sizes of its class, capped.
* `IsMemoryWrite`, `mem_memoryReport_iff`: all that a report writes.
* `totals_memoryReport`: the totals, and what becomes of a topology that takes the report down.
-/

namespace DeviceAtlas

variable {H : Type}

/-! ## Sizes -/

namespace Stack

/-- The size of a module with these properties, in whole kilobytes. If the properties have no size,
it is the one of the state, and none if the state is not told either. -/
def kilobytes (stack : Stack H) (module : H) (p : Stack.MemoryProperties) : ℕ :=
  (if p.physicalSize = 0 then
    match stack.memoryState module with
    | .ok state => state.size.toNat
    | .error _ => 0
  else p.physicalSize.toNat) / 1024

/-- The sizes of the modules of some raw types, added up. A module that does not tell its properties
does not count. -/
def memorySum (stack : Stack H) (types : UInt32 → Prop) [DecidablePred types]
    (modules : List H) : ℕ :=
  (modules.map fun module =>
    match stack.memoryProperties module with
    | .ok p => if types p.memoryType then stack.kilobytes module p else 0
    | .error _ => 0).sum

/-- A sum does not depend on the order. -/
theorem memorySum_perm (stack : Stack H) (types : UInt32 → Prop) [DecidablePred types]
    {modules modules' : List H} (h : modules.Perm modules') :
    stack.memorySum types modules = stack.memorySum types modules' :=
  (h.map _).sum_eq

/-- Each module that counts is part of the sum. -/
theorem kilobytes_le_memorySum (stack : Stack H) (types : UInt32 → Prop) [DecidablePred types]
    {modules : List H} {module : H} {p : Stack.MemoryProperties} (listed : module ∈ modules)
    (told : stack.memoryProperties module = .ok p) (counts : types p.memoryType) :
    stack.kilobytes module p ≤ stack.memorySum types modules :=
  List.le_sum_of_mem (List.mem_map.2 ⟨module, listed, by simp only [told, if_pos counts]⟩)

namespace MemoryClass

theorem ofRaw_eq_hbm_iff {raw : UInt32} : ofRaw raw = .hbm ↔ raw = 0 := by
  unfold ofRaw
  split
  · simp [*]
  · split <;> simp [*]

theorem ofRaw_eq_ddr_iff {raw : UInt32} : ofRaw raw = .ddr ↔ 1 ≤ raw ∧ raw ≤ 8 := by
  have positive : 1 ≤ raw ↔ raw ≠ 0 := by
    rw [UInt32.le_iff_toNat_le, Ne, ← UInt32.toNat_inj]
    exact Nat.one_le_iff_ne_zero
  unfold ofRaw
  by_cases zero : raw = 0
  · simp [zero]
  · by_cases low : raw ≤ 8 <;> simp [zero, positive, low]

end MemoryClass

end Stack

theorem toNat_kilobytes (stack : Stack H) (module : H) (p : Stack.MemoryProperties) :
    ((moduleBytes stack module p).toOption.getD 0 >>> 10).toNat = stack.kilobytes module p := by
  have shifted : ∀ bytes : UInt64, (bytes >>> 10).toNat = bytes.toNat / 1024 := fun bytes => by
    rw [UInt64.toNat_shiftRight]
    exact Nat.shiftRight_eq_div_pow ..
  rw [shifted, Stack.kilobytes, moduleBytes]
  congr 1
  split
  · cases stack.memoryState module <;> rfl
  · rfl

/-- A module that tells its properties is found, with its size. -/
theorem exists_foundModule?_eq_some {stack : Stack H} {module : H} {p : Stack.MemoryProperties}
    (told : stack.memoryProperties module = .ok p) :
    ∃ m, foundModule? stack module = some m ∧ m.properties = p ∧
      m.kilobytes.toNat = stack.kilobytes module p :=
  ⟨⟨p, (moduleBytes stack module p).toOption.getD 0 >>> 10⟩, by simp [foundModule?, told], rfl,
    toNat_kilobytes stack module p⟩

/-! ## Totals -/

theorem MemoryTotals.ext_toNat {totals totals' : MemoryTotals}
    (hbm : totals.hbm.toNat = totals'.hbm.toNat) (ddr : totals.ddr.toNat = totals'.ddr.toNat) :
    totals = totals' := by
  cases totals
  cases totals'
  exact (MemoryTotals.mk.injEq ..).mpr ⟨UInt64.toNat_inj.1 hbm, UInt64.toNat_inj.1 ddr⟩

section Totals

variable (stack : Stack H) (types : UInt32 → Prop) [DecidablePred types] {c : Stack.MemoryClass}

/-- The modules of a class are those of its raw types. -/
theorem sum_kilobytes_filterMap (raw : ∀ n, Stack.MemoryClass.ofRaw n = c ↔ types n)
    (modules : List H) :
    (((modules.filterMap (foundModule? stack)).filter (·.memoryClass = c)).map
      (·.kilobytes.toNat)).sum = stack.memorySum types modules := by
  induction modules with
  | nil => rfl
  | cons module rest ih =>
    rw [Stack.memorySum, List.map_cons, List.sum_cons, ← Stack.memorySum, ← ih,
      List.filterMap_cons]
    cases told : stack.memoryProperties module with
    | error fault => simp [foundModule?, told]
    | ok p =>
      obtain ⟨m, found, rfl, size⟩ := exists_foundModule?_eq_some told
      have kind : m.memoryClass = c ↔ types m.properties.memoryType := raw _
      rw [found]
      dsimp only
      by_cases counts : m.memoryClass = c
      · rw [List.filter_cons_of_pos (by simpa using counts), List.map_cons, List.sum_cons, size,
          if_pos (kind.1 counts)]
      · rw [List.filter_cons_of_neg (by simpa using counts), if_neg (mt kind.2 counts),
          Nat.zero_add]

/-- **A total is the sum of the sizes of its class**, capped. -/
theorem toNat_size_eq_memorySum (counted : c ≠ .other)
    (raw : ∀ n, Stack.MemoryClass.ofRaw n = c ↔ types n) (managed : H) (root : ObjectId)
    (table : List (Option ObjectId)) (settings : Settings) :
    ((memoryReport stack managed root table settings).2.size c).toNat =
      min (2 ^ 64 - 1) (stack.memorySum types (stack.listedModules managed)) := by
  rw [toNat_size_memoryReport counted, sum_kilobytes_filterMap stack types raw]
  rfl

end Totals

/-- The totals do not depend on the order in which the modules are listed. -/
theorem totals_eq_of_perm {stack : Stack H} {managed : H} (root : ObjectId)
    (table : List (Option ObjectId)) (settings : Settings) {modules : List H}
    (same : modules.Perm (stack.listedModules managed)) :
    (memoryReport { stack with memoryModules := fun _ => .ok modules } managed root table
      settings).2 =
      (memoryReport stack managed root table settings).2 := by
  let reordered : Stack H := { stack with memoryModules := fun _ => .ok modules }
  have sizes : ∀ c, c ≠ .other →
      ((memoryReport reordered managed root table settings).2.size c).toNat =
        ((memoryReport stack managed root table settings).2.size c).toNat := by
    intro c counted
    have total := fun stack : Stack H => toNat_size_eq_memorySum stack
      (Stack.MemoryClass.ofRaw · = c) counted (fun _ => Iff.rfl) managed root table settings
    rw [total reordered, total stack]
    exact congrArg _ (stack.memorySum_perm (Stack.MemoryClass.ofRaw · = c) same)
  exact MemoryTotals.ext_toNat (sizes .hbm (by decide)) (sizes .ddr (by decide))

/-! ## Writes -/

/-- The infos that the memory of a device has: the total of each class that there is memory of, for
the device, and the size of each module that is on a subdevice and has one, for the object that the
subdevice has in the table. -/
inductive IsMemoryWrite (stack : Stack H) (managed : H) (root : ObjectId)
    (table : List (Option ObjectId)) (totals : MemoryTotals) :
    ObjectId → String → String → Prop
  | total (c : Stack.MemoryClass) (counted : c ≠ .other) (positive : 0 < (totals.size c).toNat) :
    IsMemoryWrite stack managed root table totals root (InfoKey.memorySize c)
      (toString (totals.size c).toNat)
  | module (handle : H) (p : Stack.MemoryProperties) (id : ObjectId)
    (listed : handle ∈ stack.listedModules managed)
    (told : stack.memoryProperties handle = .ok p) (part : p.onSubdevice)
    (created : table[p.subdeviceId.toNat]? = some (some id))
    (positive : 0 < stack.kilobytes handle p) :
    IsMemoryWrite stack managed root table totals id (InfoKey.memorySize (.ofRaw p.memoryType))
      (toString (stack.kilobytes handle p))

section Writes

variable {stack : Stack H} {managed : H} {root id : ObjectId} {table : List (Option ObjectId)}
  {settings : Settings} {key value : String}

theorem mem_sizeNotes_iff {other : ObjectId} {c : Stack.MemoryClass} {kilobytes : UInt64} :
    .info id key value ∈ MemoryTotals.sizeNotes other c kilobytes ↔
      id = other ∧ key = InfoKey.memorySize c ∧ 0 < kilobytes.toNat ∧
        value = toString kilobytes.toNat := by
  have positive : 0 < kilobytes ↔ 0 < kilobytes.toNat := UInt64.lt_iff_toNat_lt
  unfold MemoryTotals.sizeNotes
  by_cases some : 0 < kilobytes
  · simp [some, positive.1 some]
  · rw [if_neg some]
    exact iff_of_false List.not_mem_nil fun h => some (positive.2 h.2.2.1)

theorem mem_placeModule_iff {index : ℕ} {p : Stack.MemoryProperties} {kilobytes : UInt64} :
    .info id key value ∈ placeModule root table index p kilobytes settings ↔
      p.onSubdevice ∧ table[p.subdeviceId.toNat]? = some (some id) ∧
        key = InfoKey.memorySize (.ofRaw p.memoryType) ∧ 0 < kilobytes.toNat ∧
        value = toString kilobytes.toNat := by
  unfold placeModule
  cases p.onSubdevice with
  | false => simp
  | true =>
    cases found : table[p.subdeviceId.toNat]? with
    | none => simp [Note.info_notMem_advise]
    | some entry =>
      cases entry with
      | none => simp
      | some subdevice => simp [mem_sizeNotes_iff, eq_comm]

/-- A module has a note for the subdevice that it is on. -/
theorem mem_readModule_iff {index : ℕ} {module : H} :
    .info id key value ∈ (readModule stack root table index module settings).notes ↔
      ∃ p, stack.memoryProperties module = .ok p ∧ p.onSubdevice ∧
        table[p.subdeviceId.toNat]? = some (some id) ∧
        key = InfoKey.memorySize (.ofRaw p.memoryType) ∧ 0 < stack.kilobytes module p ∧
        value = toString (stack.kilobytes module p) := by
  unfold readModule
  cases stack.memoryProperties module with
  | error fault => simp [Note.detail]
  | ok p =>
    simp only [Except.ok.injEq, exists_eq_left', ← toNat_kilobytes stack module p]
    cases moduleBytes stack module p with
    | ok bytes => exact mem_placeModule_iff
    | error fault =>
      dsimp only
      rw [List.singleton_append, List.mem_cons, mem_placeModule_iff]
      exact or_iff_right fun same => by cases same

theorem mem_notes_iff {totals : MemoryTotals} :
    .info id key value ∈ totals.notes root ↔
      ∃ c, c ≠ .other ∧ id = root ∧ key = InfoKey.memorySize c ∧ 0 < (totals.size c).toNat ∧
        value = toString (totals.size c).toNat := by
  rw [MemoryTotals.notes, List.mem_append, mem_sizeNotes_iff, mem_sizeNotes_iff]
  constructor
  · rintro (hbm | ddr)
    · exact ⟨.hbm, by decide, hbm⟩
    · exact ⟨.ddr, by decide, ddr⟩
  · rintro ⟨c, counted, written⟩
    cases c with
    | hbm => exact .inl written
    | ddr => exact .inr written
    | other => exact absurd rfl counted

/-- What a report has to note: a message, the notes of the modules, and then the totals. -/
theorem exists_memoryReport_eq (stack : Stack H) (managed : H) (root : ObjectId)
    (table : List (Option ObjectId)) (settings : Settings) :
    ∃ text, (memoryReport stack managed root table settings).1 =
      .detail text :: (((stack.listedModules managed).zipIdx.flatMap fun (module, index) =>
        (readModule stack root table index module settings).notes) ++
        (memoryReport stack managed root table settings).2.notes root) := by
  unfold memoryReport Stack.listedModules
  cases stack.memoryModules managed with
  | error fault => exact ⟨_, rfl⟩
  | ok handles =>
    refine ⟨s!"device {root} has {handles.length} memory modules", ?_⟩
    dsimp only [Except.toOption, Option.getD_some]
    rw [List.cons_append, List.flatMap_map]

/-- **All that a report writes.** -/
theorem mem_memoryReport_iff :
    .info id key value ∈ (memoryReport stack managed root table settings).1 ↔
      IsMemoryWrite stack managed root table (memoryReport stack managed root table settings).2
        id key value := by
  obtain ⟨text, notes⟩ := exists_memoryReport_eq stack managed root table settings
  have message : Note.info id key value ≠ .detail text := nofun
  rw [notes, List.mem_cons, or_iff_right message, List.mem_append, List.mem_flatMap,
    mem_notes_iff]
  constructor
  · rintro (⟨⟨module, index⟩, here, noted⟩ | ⟨c, counted, rfl, rfl, positive, rfl⟩)
    · obtain ⟨p, told, part, created, rfl, positive, rfl⟩ := mem_readModule_iff.1 noted
      exact .module module p id (List.fst_mem_of_mem_zipIdx here) told part created positive
    · exact .total c counted positive
  · intro written
    cases written with
    | total c counted positive => exact .inr ⟨c, counted, rfl, rfl, positive, rfl⟩
    | module module p _ listed told part created positive =>
      obtain ⟨index, here⟩ := List.mem_iff_getElem?.1 listed
      refine .inl ⟨(module, index), List.mk_mem_zipIdx_iff_getElem?.2 here, ?_⟩
      exact mem_readModule_iff.2 ⟨p, told, part, created, rfl, positive, rfl⟩

end Writes

/-- Nothing is written of a class that there is no memory of. -/
theorem notMem_memoryReport_of_size_eq_zero {c : Stack.MemoryClass} (counted : c ≠ .other)
    {stack : Stack H} {managed : H} {root : ObjectId} {table : List (Option ObjectId)}
    {settings : Settings} (none : (memoryReport stack managed root table settings).2.size c = 0)
    (id : ObjectId) (value : String) :
    .info id (InfoKey.memorySize c) value ∉ (memoryReport stack managed root table settings).1 := by
  intro noted
  obtain ⟨key, same⟩ : ∃ key, key = InfoKey.memorySize c := ⟨_, rfl⟩
  rw [← same, mem_memoryReport_iff] at noted
  cases noted with
  | total c' _ positive =>
    rw [InfoKey.memorySize_inj same, none] at positive
    exact Nat.lt_irrefl 0 positive
  | module module p _ listed told _ _ positive =>
    have total := toNat_size_eq_memorySum stack (Stack.MemoryClass.ofRaw · = c) counted
      (fun _ => Iff.rfl) managed root table settings
    have le := stack.kilobytes_le_memorySum (Stack.MemoryClass.ofRaw · = c) listed told
      (InfoKey.memorySize_inj same)
    rw [none, UInt64.toNat_zero] at total
    omega

/-- A class that there is memory of is written for the device, after all else. -/
theorem info?_takeNotes_memoryReport {c : Stack.MemoryClass} (counted : c ≠ .other)
    {stack : Stack H} {managed : H} {root : ObjectId} {table : List (Option ObjectId)}
    {settings : Settings}
    (positive : 0 < (memoryReport stack managed root table settings).2.size c) {t : Topology}
    (known : (t.object? root).isSome) :
    (t.takeNotes (memoryReport stack managed root table settings).1).value.info? root
        (InfoKey.memorySize c) =
      some (toString ((memoryReport stack managed root table settings).2.size c).toNat) := by
  obtain ⟨o, found⟩ := Option.isSome_iff_exists.1 known
  obtain ⟨text, notes⟩ := exists_memoryReport_eq stack managed root table settings
  have last : (Note.values root (InfoKey.memorySize c)
      (memoryReport stack managed root table settings).1).getLast? =
      some (toString ((memoryReport stack managed root table settings).2.size c).toNat) := by
    rw [notes, Note.detail, Note.values_cons_message, Note.values_append,
      MemoryTotals.values_notes counted, if_pos ⟨rfl, positive⟩, List.getLast?_append]
    rfl
  rw [Topology.info?, Topology.object?_takeNotes, found]
  exact (Object.info?_noted o root _ _).trans (by rw [last]; rfl)

/-! ## All of a report -/

/-- **The totals, and what becomes of a topology that takes the report down.** The totals are the
sums of the sizes, capped, wherever the modules are and in whatever order they are listed. The
report writes the totals that are not zero for the device, and the sizes that are not zero for the
subdevices that the modules are on, and no zeros. An object that is known shows what was written
for it, the device its totals, and keeps its other infos; nothing else is different. -/
theorem totals_memoryReport (stack : Stack H) (managed : H) (root : ObjectId)
    (table : List (Option ObjectId)) (settings : Settings) (t : Topology) :
    let modules := stack.listedModules managed
    let notes := (memoryReport stack managed root table settings).1
    let totals := (memoryReport stack managed root table settings).2
    let t' := (t.takeNotes notes).value
    totals.hbm.toNat = min (2 ^ 64 - 1) (stack.memorySum (· = 0) modules) ∧
    totals.ddr.toNat =
      min (2 ^ 64 - 1) (stack.memorySum (fun raw => 1 ≤ raw ∧ raw ≤ 8) modules) ∧
    (∀ modules' : List H, modules'.Perm modules →
      (memoryReport { stack with memoryModules := fun _ => .ok modules' } managed root table
        settings).2 =
        totals) ∧
    (∀ id key value, .info id key value ∈ notes ↔
      IsMemoryWrite stack managed root table totals id key value) ∧
    (∀ id key value, .info id key value ∈ notes → value ≠ "0") ∧
    (∀ c, c ≠ .other → 0 < totals.size c → (t.object? root).isSome →
      t'.info? root (InfoKey.memorySize c) = some (toString (totals.size c).toNat)) ∧
    (∀ c, c ≠ .other → totals.size c = 0 →
      ∀ id value, .info id (InfoKey.memorySize c) value ∉ notes) ∧
    t'.size = t.size ∧ t'.context = t.context ∧
    ∀ id o, t.object? id = some o → ∃ infos, t'.object? id = some { o with infos } ∧
      ∀ key, (∃ value, .info id key value ∈ notes ∧ infos.get? key = some value) ∨
        (∀ value, .info id key value ∉ notes) ∧ infos.get? key = o.info? key := by
  intro modules notes totals t'
  have hbm := toNat_size_eq_memorySum stack (· = 0) (by decide)
    (fun _ => Stack.MemoryClass.ofRaw_eq_hbm_iff) managed root table settings
  have ddr := toNat_size_eq_memorySum stack (fun raw => 1 ≤ raw ∧ raw ≤ 8) (by decide)
    (fun _ => Stack.MemoryClass.ofRaw_eq_ddr_iff) managed root table settings
  refine ⟨hbm, ddr, fun modules' same => totals_eq_of_perm root table settings same,
    fun id key value => mem_memoryReport_iff, fun id key value noted => ?_,
    fun c counted positive known => info?_takeNotes_memoryReport counted positive known,
    fun c counted none => notMem_memoryReport_of_size_eq_zero counted none,
    Topology.size_takeNotes .., Topology.context_takeNotes .., fun id o found => ?_⟩
  · have written := mem_memoryReport_iff.1 noted
    have some : ∃ n, 0 < n ∧ value = toString n := by
      cases written with
      | total c counted positive => exact ⟨_, positive, rfl⟩
      | module module p _ listed told part created positive => exact ⟨_, positive, rfl⟩
    obtain ⟨n, positive, rfl⟩ := some
    exact fun zero => Nat.ne_of_gt positive (Numeral.toString_inj zero)
  · refine ⟨_, ?_, o.info?_noted_cases id notes⟩
    rw [Topology.object?_takeNotes, found]
    rfl

end DeviceAtlas
