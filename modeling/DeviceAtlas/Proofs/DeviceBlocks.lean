import DeviceAtlas.Proofs.BlockRecords
import DeviceAtlas.Proofs.CellLaw

/-!
# Local blocks are devices

The local blocks of a registry are read from the infos of the registered objects. After a survey
these say where the blocks of the devices are, so that two places lie in the same local block
exactly when the objects there are parts of one device.

* `Surveyed.find?_eq_some_iff`: where an object of a survey stands in the registry.
* `Surveyed.localBlocks_eq`: the local blocks after a survey.
* `Surveyed.sameBlock_iff`: when two objects share a local block.
-/

namespace DeviceAtlas

variable {H : Type} {stack : Stack H} {t : Topology} {s : Survey} {b : Block H}
  {blocks : List (Block H)}

/-! ## Places -/

namespace Surveyed

/-- An object is found at its number, less the objects that were there before. -/
theorem find?_eq_some_iff (h : Surveyed stack t s blocks) {id : ObjectId} {place : ℕ} :
    s.registry.find? id = some place ↔ place < s.registry.size ∧ id.index = t.size + place := by
  have entry : ∀ (i : ℕ) (within : i < s.registry.nodes.length),
      s.registry.nodes[i] = ⟨t.size + i⟩ := by
    intro i within
    rw [List.getElem_of_eq h.numbered, List.getElem_map, List.getElem_range', Nat.one_mul]
  rw [Registry.find?, List.idxOf?_eq_some_iff, Registry.size]
  constructor
  · rintro ⟨within, here, _⟩
    rw [entry] at here
    exact ⟨within, (congrArg ObjectId.index here).symm⟩
  · rintro ⟨within, index⟩
    refine ⟨within, ?_, fun j before same => ?_⟩
    · rw [entry, ← index]
    · rw [entry] at same
      have := congrArg ObjectId.index same
      dsimp only at this
      omega

theorem size_registry (h : Surveyed stack t s blocks) : s.registry.size = s.added := by
  rw [Registry.size, h.numbered, List.length_map, List.length_range']

/-- Every registered object is found. -/
theorem exists_find?_eq_some (h : Surveyed stack t s blocks) {id : ObjectId}
    (listed : id ∈ s.registry.nodes) : ∃ place, s.registry.find? id = some place := by
  obtain ⟨low, high⟩ := h.mem_nodes_iff.1 listed
  rw [h.size, ← h.size_registry] at high
  exact ⟨id.index - t.size, h.find?_eq_some_iff.2 ⟨by omega, by omega⟩⟩

/-- Only one object is found in a place. -/
theorem find?_eq_iff_eq (h : Surveyed stack t s blocks) {u : ObjectId} {place : ℕ}
    (found : s.registry.find? u = some place) {id : ObjectId} :
    s.registry.find? id = some place ↔ id = u := by
  constructor
  · intro found'
    have same : id.index = u.index :=
      (h.find?_eq_some_iff.1 found').2.trans (h.find?_eq_some_iff.1 found).2.symm
    cases id
    cases u
    exact congrArg ObjectId.mk same
  · rintro rfl
    exact found

/-- An object belongs to one block. -/
theorem eq_of_mem_nodes (h : Surveyed stack t s blocks) {b' : Block H} (hb : b ∈ blocks)
    (hb' : b' ∈ blocks) {id : ObjectId} (own : id ∈ b.nodes stack) (own' : id ∈ b'.nodes stack) :
    b = b' := by
  have nodup := h.nodup
  rw [h.nodes, List.nodup_flatMap] at nodup
  by_contra other
  have symmetric : Std.Symm (Function.onFun List.Disjoint fun b : Block H => b.nodes stack) :=
    ⟨fun _ _ apart => apart.symm⟩
  exact nodup.2.forall hb hb' other own own'

end Surveyed

/-! ## Counts -/

/-- A matrix that fits into memory has a size of sixty-four bits. -/
theorem BandwidthMatrix.lt_of_zeros {size : ℕ} {zeros : BandwidthMatrix}
    (h : BandwidthMatrix.zeros size = .ok zeros) : size < UInt64.size := by
  unfold BandwidthMatrix.zeros at h
  split at h
  · rename_i few
    have square : size ≤ size * size := Nat.le_mul_self size
    have bound : tooManyValues < UInt64.size := by decide
    omega
  · cases h

/-- A device has fewer subdevices than objects are registered. -/
theorem Surveyed.length_subdevices_lt (h : Surveyed stack t s blocks) (listed : b ∈ blocks) :
    (b.device.subdevices stack).length < s.registry.size := by
  have first : b.root ∈ s.registry.nodes := h.mem_nodes_of_mem listed List.mem_cons_self
  have last : ⟨b.start + (b.device.subdevices stack).length⟩ ∈ s.registry.nodes :=
    h.mem_nodes_of_mem listed
      ((b.mem_nodes_iff stack).2 ⟨Nat.le_add_right .., by dsimp only; omega⟩)
  have size := h.size_registry
  have low : t.size ≤ b.start := (h.mem_nodes_iff.1 first).1
  have high : b.start + (b.device.subdevices stack).length < s.topology.size :=
    (h.mem_nodes_iff.1 last).2
  have := h.size
  omega

/-- The number of subdevices that the infos of a device tell is the number that it has, if it is
one that infos can hold. -/
theorem Block.Recorded.subdeviceCount_root (h : b.Recorded stack t)
    (few : (b.device.subdevices stack).length < UInt64.size) :
    t.subdeviceCount b.root = (b.device.subdevices stack).length := by
  obtain ⟨o, found, _, _, _, count, _⟩ := h.root
  have told : t.info? b.root InfoKey.subdevices = o.info? InfoKey.subdevices := by
    rw [Topology.info?, found, Option.bind_some]
  rw [Topology.subdeviceCount, told, count, Block.length_parts]
  split
  · rename_i none
    rw [none]
    rfl
  · rw [Option.bind_some, Numeral.readDecimal_toString few]
    rfl

/-! ## Local blocks -/

/-- The places of a block in a registry that begins with the object of number `base`. -/
def Block.localBlock (stack : Stack H) (base : ℕ) (b : Block H) : LocalBlock :=
  ⟨b.start - base, b.start - base + (1 + (b.device.subdevices stack).length)⟩

/-- Where the count of a device is that of the objects after it, they are its local block. -/
theorem cover_cons_append {counts : ObjectId → ℕ} {device : ObjectId} {parts : List ObjectId}
    (right : counts device = parts.length) (place : ℕ) (rest : List ObjectId) :
    LocalBlock.cover counts place (device :: (parts ++ rest)) =
      ⟨place, place + 1 + parts.length⟩ ::
        LocalBlock.cover counts (place + 1 + parts.length) rest := by
  have all : min parts.length (parts ++ rest).length = parts.length := by
    rw [List.length_append]
    omega
  rw [LocalBlock.cover, right, all, List.drop_left]

/-- Counts that are right cover the registry with the blocks. -/
theorem cover_flatMap_nodes {counts : ObjectId → ℕ} {base : ℕ} (devices : List (FoundDevice H))
    (number start : ℕ) (le : base ≤ start)
    (right : ∀ b ∈ blocksFrom stack number start devices,
      counts b.root = (b.device.subdevices stack).length) :
    LocalBlock.cover counts (start - base)
        ((blocksFrom stack number start devices).flatMap (·.nodes stack)) =
      (blocksFrom stack number start devices).map (·.localBlock stack base) := by
  induction devices generalizing number start with
  | nil => rw [blocksFrom, List.flatMap_nil, LocalBlock.cover, List.map_nil]
  | cons d rest ih =>
    let b : Block H := ⟨d, number, start⟩
    have count : counts b.root = (b.parts stack).length := by
      rw [Block.length_parts]
      exact right b List.mem_cons_self
    have later := ih (number + 1) (start + (1 + (d.subdevices stack).length)) (by omega)
      fun b listed => right b (List.mem_cons_of_mem _ listed)
    have next : start - base + 1 + (b.parts stack).length =
        start + (1 + (d.subdevices stack).length) - base := by
      rw [Block.length_parts]
      show start - base + 1 + (d.subdevices stack).length = _
      omega
    have stop : start - base + 1 + (b.parts stack).length =
        start - base + (1 + (b.device.subdevices stack).length) := by
      rw [Block.length_parts, Nat.add_assoc]
    rw [blocksFrom, List.flatMap_cons, List.map_cons, ← later, ← next]
    show LocalBlock.cover counts (start - base) (b.root :: (b.parts stack ++ _)) = _
    rw [cover_cons_append count, Block.localBlock, stop]

namespace Surveyed

/-- **The local blocks after a survey are those of the devices**, if there is memory for the
matrix. -/
theorem localBlocks_eq {devices : List (FoundDevice H)}
    (h : Surveyed stack t s (blocksFrom stack 0 t.size devices)) {zeros : BandwidthMatrix}
    (fits : BandwidthMatrix.zeros s.registry.size = .ok zeros) :
    s.registry.localBlocks s.topology =
      (blocksFrom stack 0 t.size devices).map (·.localBlock stack t.size) := by
  have right : ∀ b ∈ blocksFrom stack 0 t.size devices,
      s.topology.subdeviceCount b.root = (b.device.subdevices stack).length := by
    intro b listed
    have few := h.length_subdevices_lt listed
    have room := BandwidthMatrix.lt_of_zeros fits
    exact (h.settled b listed).recorded.subdeviceCount_root (Nat.lt_trans few room)
  have covered := cover_flatMap_nodes devices 0 t.size (Nat.le_refl _) right
  rw [Nat.sub_self, ← h.nodes] at covered
  exact covered

/-- The places of a local block are those of the objects of the device. -/
theorem mem_places_iff (h : Surveyed stack t s blocks) (listed : b ∈ blocks) {place : ℕ} :
    place ∈ (b.localBlock stack t.size).places ↔
      ∃ u ∈ b.nodes stack, s.registry.find? u = some place := by
  have own : b.root ∈ s.registry.nodes := h.mem_nodes_of_mem listed List.mem_cons_self
  have le : t.size ≤ b.start := (h.mem_nodes_iff.1 own).1
  rw [LocalBlock.places, Block.localBlock, List.mem_range'_1]
  dsimp only
  constructor
  · intro within
    have new : ⟨t.size + place⟩ ∈ b.nodes stack :=
      (b.mem_nodes_iff stack).2 ⟨by dsimp only; omega, by dsimp only; omega⟩
    have known := (h.mem_nodes_iff.1 (h.mem_nodes_of_mem listed new)).2
    rw [h.size, ← h.size_registry] at known
    exact ⟨_, new, h.find?_eq_some_iff.2 ⟨by dsimp only at known; omega, rfl⟩⟩
  · rintro ⟨u, new, found⟩
    have index := (h.find?_eq_some_iff.1 found).2
    have within := (b.mem_nodes_iff stack).1 new
    omega

/-- **Two places share a local block exactly when the objects there belong to one device.** -/
theorem sameBlock_iff {devices : List (FoundDevice H)}
    (h : Surveyed stack t s (blocksFrom stack 0 t.size devices)) {zeros : BandwidthMatrix}
    (fits : BandwidthMatrix.zeros s.registry.size = .ok zeros) {row column : ℕ} :
    s.registry.SameBlock s.topology row column ↔
      ∃ b ∈ blocksFrom stack 0 t.size devices, ∃ u ∈ b.nodes stack, ∃ v ∈ b.nodes stack,
        s.registry.find? u = some row ∧ s.registry.find? v = some column := by
  rw [Registry.SameBlock, h.localBlocks_eq fits]
  constructor
  · rintro ⟨places, listed, hrow, hcolumn⟩
    obtain ⟨b, hb, rfl⟩ := List.mem_map.1 listed
    obtain ⟨u, hu, row⟩ := (h.mem_places_iff hb).1 hrow
    obtain ⟨v, hv, column⟩ := (h.mem_places_iff hb).1 hcolumn
    exact ⟨b, hb, u, hu, v, hv, row, column⟩
  · rintro ⟨b, hb, u, hu, v, hv, row, column⟩
    exact ⟨_, List.mem_map_of_mem hb, (h.mem_places_iff hb).2 ⟨u, hu, row⟩,
      (h.mem_places_iff hb).2 ⟨v, hv, column⟩⟩

/-- The same for the places of two given objects. -/
theorem sameBlock_iff_of_find? {devices : List (FoundDevice H)}
    (h : Surveyed stack t s (blocksFrom stack 0 t.size devices)) {zeros : BandwidthMatrix}
    (fits : BandwidthMatrix.zeros s.registry.size = .ok zeros) {u v : ObjectId} {row column : ℕ}
    (hu : s.registry.find? u = some row) (hv : s.registry.find? v = some column) :
    s.registry.SameBlock s.topology row column ↔
      ∃ b ∈ blocksFrom stack 0 t.size devices, u ∈ b.nodes stack ∧ v ∈ b.nodes stack := by
  simp only [h.sameBlock_iff fits, h.find?_eq_iff_eq hu, h.find?_eq_iff_eq hv]
  constructor
  · rintro ⟨b, hb, u', own, v', own', rfl, rfl⟩
    exact ⟨b, hb, own, own'⟩
  · rintro ⟨b, hb, own, own'⟩
    exact ⟨b, hb, u, own, v, own', rfl, rfl⟩

end Surveyed

end DeviceAtlas
