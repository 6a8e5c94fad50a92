import DeviceAtlas.Proofs.ModuleSizes
import DeviceAtlas.Proofs.Outcome
import Mathlib.Algebra.Order.BigOperators.Group.List
import Mathlib.Algebra.Order.Group.Nat

/-!
# The memory of devices and of their subdevices

If all memory of a device is on its subdevices, one expects that the device has what they have
together. It shows the sum of all modules, but of several modules on one subdevice the last one
stands for all of them, so that they fall short as soon as two of them have a size.

* `Block.Settled.memorySize_root`, `Block.Settled.memorySize_part`: what objects show of the memory
  on them.
* `lastSize_eq_sum_iff`: when the last size is the sum.
* `memorySize_discover`: when a device has what its subdevices have together.
-/

namespace DeviceAtlas

variable {H : Type}

/-- How much memory of a class an object is said to have, in kilobytes. -/
def Topology.memorySize (t : Topology) (id : ObjectId) (c : Stack.MemoryClass) : ℕ :=
  ((t.info? id (InfoKey.memorySize c)).bind fun text =>
    (Numeral.readDecimal UInt64.size text).toOption).getD 0

/-! ## Sums and last sizes -/

/-- The last of some sizes that is not zero. -/
def lastSize (sizes : List ℕ) : ℕ := (sizes.filter (0 < ·)).getLast?.getD 0

theorem sum_filter_pos (sizes : List ℕ) : (sizes.filter (0 < ·)).sum = sizes.sum := by
  induction sizes with
  | nil => rfl
  | cons n rest ih =>
    by_cases pos : 0 < n
    · rw [List.filter_cons_of_pos (by simpa using pos), List.sum_cons, List.sum_cons, ih]
    · rw [List.filter_cons_of_neg (by simpa using pos), List.sum_cons, ih]
      omega

/-- The last of some numbers is at most their sum, and less if there are several and none of them is
zero. -/
theorem getLast?_le_sum {l : List ℕ} (positive : ∀ n ∈ l, 0 < n) :
    l.getLast?.getD 0 ≤ l.sum ∧ (l.getLast?.getD 0 = l.sum ↔ l.length ≤ 1) := by
  match l with
  | [] => exact ⟨Nat.le_refl 0, iff_of_true rfl (Nat.zero_le 1)⟩
  | [n] => exact ⟨Nat.le_refl n, iff_of_true rfl (Nat.le_refl 1)⟩
  | m :: n :: rest =>
    have pos := positive m List.mem_cons_self
    have le := List.le_sum_of_mem (List.getLast_mem (List.cons_ne_nil n rest))
    have less : (m :: n :: rest).getLast?.getD 0 < (m :: n :: rest).sum := by
      rw [List.getLast?_cons_cons, List.getLast?_eq_some_getLast (List.cons_ne_nil n rest),
        Option.getD_some, List.sum_cons]
      omega
    exact ⟨Nat.le_of_lt less, iff_of_false (Nat.ne_of_lt less) (by simp)⟩

theorem lastSize_le_sum (sizes : List ℕ) : lastSize sizes ≤ sizes.sum := by
  rw [lastSize, ← sum_filter_pos]
  exact (getLast?_le_sum fun n hn => by simpa using (List.mem_filter.1 hn).2).1

/-- **The last size is the sum if at most one of the sizes is not zero.** -/
theorem lastSize_eq_sum_iff (sizes : List ℕ) :
    lastSize sizes = sizes.sum ↔ (sizes.filter (0 < ·)).length ≤ 1 := by
  rw [lastSize, ← sum_filter_pos]
  exact (getLast?_le_sum fun n hn => by simpa using (List.mem_filter.1 hn).2).2

/-- Sums of numbers that are no greater are the same only if the numbers are. -/
theorem sum_map_eq_iff_of_le {α : Type*} {f g : α → ℕ} {l : List α} (le : ∀ a ∈ l, f a ≤ g a) :
    (l.map f).sum = (l.map g).sum ↔ ∀ a ∈ l, f a = g a := by
  induction l with
  | nil => simp
  | cons a rest ih =>
    have first := le a List.mem_cons_self
    have others : ∀ b ∈ rest, f b ≤ g b := fun b hb => le b (List.mem_cons_of_mem a hb)
    have sums : (rest.map f).sum ≤ (rest.map g).sum := List.sum_le_sum others
    rw [List.forall_mem_cons, ← ih others, List.map_cons, List.map_cons, List.sum_cons,
      List.sum_cons]
    omega

/-- A sum over things that are each in one of some places is the sum over the places. -/
theorem sum_map_eq_sum_places {α : Type*} {size : α → ℕ} {place? : α → Option ℕ} {l : List α}
    {places : List ℕ} (apart : places.Nodup) (placed : ∀ a ∈ l, ∃ k ∈ places, place? a = some k) :
    (l.map size).sum =
      (places.map fun k => ((l.filter (place? · = some k)).map size).sum).sum := by
  induction l with
  | nil => simp
  | cons a rest ih =>
    obtain ⟨k, listed, here⟩ := placed a List.mem_cons_self
    have more : ∀ k', (((a :: rest).filter (place? · = some k')).map size).sum =
        (if k' = k then size a else 0) +
          ((rest.filter (place? · = some k')).map size).sum := by
      intro k'
      rw [List.filter_cons]
      by_cases same : k' = k
      · simp [here, same]
      · simp [here, same, Ne.symm same]
    have one : (places.map fun k' => if k' = k then size a else 0).sum = size a := by
      rw [← List.sum_toFinset _ apart, Finset.sum_ite_eq', if_pos (List.mem_toFinset.2 listed)]
    simp only [more]
    rw [List.sum_map_add, one, ← ih fun b hb => placed b (List.mem_cons_of_mem a hb),
      List.map_cons, List.sum_cons]

/-! ## What objects show of their memory -/

namespace FoundDevice

variable (stack : Stack H) (d : FoundDevice H) (number start : ℕ) (c : Stack.MemoryClass)

theorem ne_memorySize_of_mem_structural {key : String} (structural : key ∈ InfoKey.structural) :
    key ≠ InfoKey.memorySize c := fun same =>
  InfoKey.memorySize_not_mem_structural c (same ▸ structural)

/-- Nothing else is written for a device under the keys of its memory. -/
theorem info?_memorySize_rootObject :
    (d.rootObject stack number start).info? (InfoKey.memorySize c) =
      (Note.values ⟨start⟩ (InfoKey.memorySize c) (d.memoryNotes stack start)).getLast? := by
  have others : ∀ n ∈ d.notes stack number start,
      n.Concerns (· = ⟨start⟩) (· ≠ InfoKey.memorySize c) := by
    intro n hn
    rcases List.mem_append.1 hn with hn | hn
    · rcases List.mem_cons.1 hn with rfl | hn
      · exact ⟨rfl, ne_memorySize_of_mem_structural c (by decide)⟩
      · rcases List.mem_cons.1 hn with rfl | hn
        · exact ⟨rfl, ne_memorySize_of_mem_structural c (by decide)⟩
        · exact (concerns_knownDeviceNotes stack d.managed _ _ n hn).mono (fun _ same => same)
            fun _ described => described.ne_memorySize c
    · exact (concerns_queueNotes stack d.handle _ n hn).mono (fun _ same => same)
        fun _ queue => queue.isDescriptive.ne_memorySize c
  rw [rootObject, Object.info?_noted, Object.info?_noted,
    Note.values_eq_nil_of_key others (not_not_intro rfl)]
  exact Option.or_none

/-- Nothing else is written for a subdevice under the keys of its memory. -/
theorem info?_memorySize_partObject (i : ℕ) (f : FoundSubdevice H) :
    (d.partObject stack number start i f).info? (InfoKey.memorySize c) =
      (Note.values ⟨start + 1 + i⟩ (InfoKey.memorySize c) (d.memoryNotes stack start)).getLast? := by
  have others : ∀ n ∈ f.notes stack ⟨start + 1 + i⟩,
      n.Concerns (· = ⟨start + 1 + i⟩) (· ≠ InfoKey.memorySize c) := by
    intro n hn
    rcases List.mem_append.1 hn with hn | hn
    · rcases List.mem_cons.1 hn with rfl | hn
      · exact ⟨rfl, ne_memorySize_of_mem_structural c (by decide)⟩
      · exact (concerns_knownDeviceNotes stack f.managed _ _ n hn).mono (fun _ same => same)
          fun _ described => described.ne_memorySize c
    · exact (concerns_queueNotes stack f.handle _ n hn).mono (fun _ same => same)
        fun _ queue => queue.isDescriptive.ne_memorySize c
  rw [partObject, Object.info?_noted, FoundSubdevice.object, Object.info?_noted,
    Note.values_eq_nil_of_key others (not_not_intro rfl)]
  exact Option.or_none

end FoundDevice

namespace Block.Settled

variable {stack : Stack H} {t : Topology} {b : Block H} {c : Stack.MemoryClass}

/-- **A device shows the sum of all modules**, capped. -/
theorem memorySize_root (h : b.Settled stack t) (counted : c ≠ .other) :
    t.memorySize b.root c = min Capped.top (b.device.sizes stack c).sum := by
  obtain ⟨parent, found⟩ := h.root
  have other : InfoKey.memorySize c ≠ InfoKey.subdevices :=
    (FoundDevice.ne_memorySize_of_mem_structural c (by decide)).symm
  rw [Topology.memorySize, Topology.info?, found, Option.bind_some, Object.info?_settled,
    if_neg fun same => other same.1, FoundDevice.info?_memorySize_rootObject,
    FoundDevice.values_memoryNotes_root _ _ _ counted,
    ← b.device.toNat_memoryTotal stack b.start counted]
  by_cases some : 0 < b.device.memoryTotal stack b.start c
  · rw [if_pos some, List.getLast?_singleton, Option.bind_some,
      Numeral.readDecimal_toString (UInt64.toNat_lt _)]
    rfl
  · rw [if_neg some]
    have none := UInt64.lt_iff_toNat_lt.not.1 some
    exact (Nat.eq_zero_of_not_pos none).symm

/-- **A subdevice shows the last module on it that has a size.** -/
theorem memorySize_part (h : b.Settled stack t) (counted : c ≠ .other) {i : ℕ}
    {f : FoundSubdevice H} (hf : (b.device.subdevices stack)[i]? = some f) :
    t.memorySize ⟨b.start + 1 + i⟩ c = lastSize (b.device.sizesOn stack c f.number) := by
  have alone : (t.info? ⟨b.start + 1 + i⟩ (InfoKey.memorySize c)) =
      (b.device.partObject stack b.number b.start i f).info? (InfoKey.memorySize c) := by
    rw [Topology.info?, h.part i f hf]
    rfl
  rw [Topology.memorySize, alone, FoundDevice.info?_memorySize_partObject,
    FoundDevice.values_memoryNotes_part _ _ _ counted hf, List.getLast?_map, lastSize]
  cases last : ((b.device.sizesOn stack c f.number).filter (0 < ·)).getLast? with
  | none => rfl
  | some size =>
    have listed := (List.mem_filter.1 (List.mem_of_getLast? last)).1
    obtain ⟨m, -, rfl⟩ := List.mem_map.1 listed
    rw [Option.map_some, Option.bind_some, Numeral.readDecimal_toString (UInt64.toNat_lt _)]
    rfl

/-- What the subdevices show together. -/
theorem sum_memorySize_parts (h : b.Settled stack t) (counted : c ≠ .other) :
    ((b.parts stack).map (t.memorySize · c)).sum =
      ((b.device.subdevices stack).map fun f =>
        lastSize (b.device.sizesOn stack c f.number)).sum := by
  refine congrArg List.sum (List.ext_getElem? fun i => ?_)
  rw [List.getElem?_map, List.getElem?_map]
  cases hf : (b.device.subdevices stack)[i]? with
  | none =>
    have beyond : (b.parts stack)[i]? = none := by
      rw [List.getElem?_eq_none_iff, Block.length_parts]
      exact List.getElem?_eq_none_iff.1 hf
    rw [beyond]
    rfl
  | some f =>
    rw [b.getElem?_parts stack (List.getElem?_eq_some_iff.1 hf).1, Option.map_some,
      Option.map_some, h.memorySize_part counted hf]

end Block.Settled

/-- Memory that is on subdevices is the sum of what is on each. -/
theorem FoundDevice.sum_sizes {stack : Stack H} {d : FoundDevice H} {c : Stack.MemoryClass}
    (placed : ∀ m ∈ d.modules stack, m.memoryClass = c →
      ∃ f ∈ d.subdevices stack, m.place? = some f.number) :
    (d.sizes stack c).sum =
      ((d.subdevices stack).map fun f => (d.sizesOn stack c f.number).sum).sum := by
  have apart : ((d.subdevices stack).map (·.number)).Nodup :=
    List.pairwise_map.2 ((pairwise_number_foundSubdevices ..).imp Nat.ne_of_lt)
  have inside : ∀ m ∈ (d.modules stack).filter (·.memoryClass = c),
      ∃ k ∈ (d.subdevices stack).map (·.number), m.place? = some k := by
    intro m hm
    obtain ⟨listed, kind⟩ := List.mem_filter.1 hm
    obtain ⟨f, hf, here⟩ := placed m listed (by simpa using kind)
    exact ⟨f.number, List.mem_map_of_mem hf, here⟩
  rw [sizes, sum_map_eq_sum_places apart inside, List.map_map]
  refine congrArg List.sum (List.map_congr_left fun f _ => ?_)
  simp only [Function.comp_apply, List.filter_filter, sizesOn, Bool.and_comm, Bool.decide_and]

/-! ## After a pass -/

/-- **When a device has what its subdevices have together.** Let all modules of a class be on
subdevices that were created, and their sum be representable. After a pass the device shows this
sum, and each subdevice the last module on it that has a size. So the device has what its subdevices
have together if and only if no two modules on one subdevice have a size. -/
theorem memorySize_discover {stack : Stack H} {t : Topology} (settings : Settings) {b : Block H}
    (listed : b ∈ passBlocks stack t) {c : Stack.MemoryClass} (counted : c ≠ .other)
    (placed : ∀ m ∈ b.device.modules stack, m.memoryClass = c →
      ∃ f ∈ b.device.subdevices stack, m.place? = some f.number)
    (fits : (b.device.sizes stack c).sum ≤ 2 ^ 64 - 1) :
    let t' := (discover stack t settings).value.1
    t'.memorySize b.root c = (b.device.sizes stack c).sum ∧
    (∀ (i : ℕ) (f : FoundSubdevice H), (b.device.subdevices stack)[i]? = some f →
      ∃ id, (b.parts stack)[i]? = some id ∧
        t'.memorySize id c = lastSize (b.device.sizesOn stack c f.number)) ∧
    (t'.memorySize b.root c = ((b.parts stack).map (t'.memorySize · c)).sum ↔
      ∀ f ∈ b.device.subdevices stack,
        ((b.device.sizesOn stack c f.number).filter (0 < ·)).length ≤ 1) := by
  intro t'
  have objects : t'.object? = (passSurvey stack t).topology.object? :=
    funext fun id => object?_discover stack t settings id
  have before := (surveyed_passSurvey stack t).settled b listed
  have settled : b.Settled stack t' :=
    ⟨objects ▸ before.root, fun i f hf => objects ▸ before.part i f hf⟩
  have root : t'.memorySize b.root c = (b.device.sizes stack c).sum :=
    (settled.memorySize_root counted).trans (Nat.min_eq_right fits)
  refine ⟨root, fun i f hf => ⟨_, b.getElem?_parts stack (List.getElem?_eq_some_iff.1 hf).1,
    settled.memorySize_part counted hf⟩, ?_⟩
  rw [root, settled.sum_memorySize_parts counted, FoundDevice.sum_sizes placed, eq_comm,
    sum_map_eq_iff_of_le fun f _ => lastSize_le_sum _]
  exact forall₂_congr fun f _ => lastSize_eq_sum_iff _

/-! ### A device with two modules on one subdevice -/

/-- A device with two subdevices. There are two modules of high bandwidth memory, both on the first
subdevice, and two modules of other memory, one on each. -/
def stackedInventory : Stack.Inventory where
  drivers := #[{ devices := [0] }]
  devices := #[
    { linkedDevice 0 [1, 2] [] with memory := [0, 1, 2, 3] },
    linkedDevice 1 [] [],
    linkedDevice 2 [] []]
  memory := #[.make 0 (some 0) 1048576, .make 0 (some 0) 2097152, .make 1 (some 0) 1048576,
    .make 1 (some 1) 2097152]

theorem memorySize_discover_stacked :
    let t' := (discover stackedInventory.stack .initial {}).value.1
    t'.memorySize ⟨1⟩ .ddr = t'.memorySize ⟨2⟩ .ddr + t'.memorySize ⟨3⟩ .ddr := by
  have found : ∃ b ∈ passBlocks stackedInventory.stack .initial,
      b.root = ⟨1⟩ ∧ b.parts stackedInventory.stack = [⟨2⟩, ⟨3⟩] ∧
      (∀ m ∈ b.device.modules stackedInventory.stack, m.memoryClass = .ddr →
        ∃ f ∈ b.device.subdevices stackedInventory.stack, m.place? = some f.number) ∧
      (b.device.sizes stackedInventory.stack .ddr).sum ≤ 2 ^ 64 - 1 ∧
      ∀ f ∈ b.device.subdevices stackedInventory.stack,
        ((b.device.sizesOn stackedInventory.stack .ddr f.number).filter (0 < ·)).length ≤ 1 := by
    decide +kernel
  obtain ⟨b, listed, root, parts, placed, fits, single⟩ := found
  obtain ⟨-, -, law⟩ := memorySize_discover {} listed (by decide) placed fits
  have together := law.2 single
  rw [root, parts] at together
  exact together

/-- Of the high bandwidth memory the subdevices show less than the device, although all of it is on
subdevices that were created. -/
theorem memorySize_root_ne_sum_stacked :
    ∃ b ∈ passBlocks stackedInventory.stack .initial,
      (∀ m ∈ b.device.modules stackedInventory.stack, m.memoryClass = .hbm →
        ∃ f ∈ b.device.subdevices stackedInventory.stack, m.place? = some f.number) ∧
      (b.device.sizes stackedInventory.stack .hbm).sum ≤ 2 ^ 64 - 1 ∧
      let t' := (discover stackedInventory.stack .initial {}).value.1
      t'.memorySize b.root .hbm = 3072 ∧
        ((b.parts stackedInventory.stack).map (t'.memorySize · .hbm)).sum = 2048 := by
  decide +kernel

end DeviceAtlas
