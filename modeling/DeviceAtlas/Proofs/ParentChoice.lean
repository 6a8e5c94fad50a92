import DeviceAtlas.Proofs.Sites
import Mathlib.Order.Interval.Finset.Nat

/-!
# Which object an address leads to

An address leads to the PCI device of the tree that has it, the first one if there are several. If
there is none it leads to the bridge of the tree that has the fewest buses behind it, among those
that cover the address, and again to the first of several. Only bridges that cover the address are
asked how many buses they have, and their buses are in order, so that the question always has an
answer.

* `find?_eq_some_iff_least`, `minOn?_eq_some_iff_least`: what is found first in a list in order is
  the least.
* `Topology.IsDeviceAt`, `Topology.IsBridgeTo`: what an address may lead to.
* `Topology.coveringBridges?_eq`: no width is asked for that cannot be told.
* `Topology.findParent_eq_some_iff`: the object that an address leads to.
-/

namespace DeviceAtlas

/-! ## Least members of lists in order -/

section Least

variable {α : Type*} {rank : α → ℕ} {l : List α}

/-- Members of one rank are one. -/
theorem eq_of_rank_eq (sorted : l.Pairwise fun a b => rank a < rank b) {a b : α} (ha : a ∈ l)
    (hb : b ∈ l) (same : rank a = rank b) : a = b := by
  have apart : (l.map rank).Nodup := (List.pairwise_map.2 sorted).imp Nat.ne_of_lt
  exact List.inj_on_of_nodup_map apart ha hb same

/-- The first member that passes a test is the least that does. -/
theorem find?_eq_some_iff_least (sorted : l.Pairwise fun a b => rank a < rank b) {p : α → Bool}
    {a : α} : l.find? p = some a ↔ (a ∈ l ∧ p a) ∧ ∀ b ∈ l, p b → rank a ≤ rank b := by
  have least : ∀ a, l.find? p = some a → (a ∈ l ∧ p a) ∧ ∀ b ∈ l, p b → rank a ≤ rank b := by
    intro a found
    obtain ⟨passes, front, back, rfl, before⟩ := List.find?_eq_some_iff_append.1 found
    refine ⟨⟨by simp, passes⟩, fun b hb pb => ?_⟩
    rcases List.mem_append.1 hb with early | late
    · have fails := before b early
      rw [pb] at fails
      cases fails
    · rcases List.mem_cons.1 late with rfl | later
      · exact Nat.le_refl _
      · have after := (List.pairwise_append.1 sorted).2.1
        exact Nat.le_of_lt (List.rel_of_pairwise_cons after later)
  refine ⟨least a, fun ⟨⟨ha, pa⟩, below⟩ => ?_⟩
  obtain ⟨c, found⟩ := Option.isSome_iff_exists.1 (List.find?_isSome.2 ⟨a, ha, pa⟩)
  obtain ⟨⟨hc, pc⟩, below'⟩ := least c found
  rw [found, eq_of_rank_eq sorted ha hc (Nat.le_antisymm (below c hc pc) (below' a ha pa))]

/-- The minimum of a key is its least member, and the first of several. -/
theorem minOn?_eq_some_iff_least (sorted : l.Pairwise fun a b => rank a < rank b) {key : α → ℕ}
    {a : α} :
    l.minOn? key = some a ↔
      a ∈ l ∧ ∀ b ∈ l, key a < key b ∨ key a = key b ∧ rank a ≤ rank b := by
  have least : ∀ a, l.minOn? key = some a →
      a ∈ l ∧ ∀ b ∈ l, key a < key b ∨ key a = key b ∧ rank a ≤ rank b := by
    induction l with
    | nil => simp
    | cons x rest ih =>
      intro a found
      have after : ∀ b ∈ rest, rank x < rank b := fun b => List.rel_of_pairwise_cons sorted
      refine ⟨List.minOn?_mem found, ?_⟩
      rw [List.minOn?_cons, Option.some.injEq] at found
      cases narrowest : rest.minOn? key with
      | none =>
        have empty : rest = [] := by
          refine Decidable.byContradiction fun some => ?_
          rw [List.minOn?_eq_some_minOn some] at narrowest
          cases narrowest
        subst empty
        rw [narrowest] at found
        subst found
        simp
      | some c =>
        obtain ⟨hc, below⟩ := ih sorted.of_cons c narrowest
        rw [narrowest, Option.elim_some, minOn_eq_if] at found
        intro b hb
        split at found
        · -- the head comes first, so that it wins ties
          rename_i le
          subst found
          rcases List.mem_cons.1 hb with rfl | hb
          · exact .inr ⟨rfl, Nat.le_refl _⟩
          · have := below b hb
            have := after b hb
            omega
        · rename_i more
          subst found
          rcases List.mem_cons.1 hb with rfl | hb
          · exact .inl (Nat.not_le.1 more)
          · exact below b hb
  refine ⟨least a, fun ⟨ha, below⟩ => ?_⟩
  obtain ⟨c, found⟩ := Option.isSome_iff_exists.1 (List.isSome_minOn?_of_mem ha (f := key))
  obtain ⟨hc, below'⟩ := least c found
  have one := below c hc
  have other := below' a ha
  rw [found, eq_of_rank_eq sorted ha hc (by omega)]

end Least

/-! ## Buses -/

namespace Pci.Bridge

/-- The numbers of the buses behind a bridge. There are none if the range is inverted. -/
def buses (b : Bridge) : Finset ℕ := Finset.Icc b.secondaryBus.toNat b.subordinateBus.toNat

/-- The number of buses behind a bridge, by a subtraction that is given up where it would go below
zero. -/
def width? (b : Bridge) : Option ℕ :=
  if b.secondaryBus ≤ b.subordinateBus then
    some ((b.subordinateBus - b.secondaryBus).toNat + 1)
  else none

variable {b : Bridge} {a : Address}

theorem covers_iff : b.covers a ↔ b.domain = a.domain ∧ a.bus.toNat ∈ b.buses := by
  rw [covers, decide_eq_true_eq, buses, Finset.mem_Icc, UInt8.le_iff_toNat_le,
    UInt8.le_iff_toNat_le]

/-- The width of a bridge that covers an address is the number of its buses. -/
theorem width_eq_card (h : b.covers a) : b.width = b.buses.card := by
  have order := UInt8.le_iff_toNat_le.1 (le_of_covers h)
  rw [width, buses, Nat.card_Icc]
  omega

/-- The width of a bridge that covers an address can be told. -/
theorem width?_eq (h : b.covers a) : b.width? = some b.width := by
  have order := le_of_covers h
  rw [width?, if_pos order, UInt8.toNat_sub_of_le _ _ order, width]

end Pci.Bridge

/-! ## What an address may lead to -/

namespace Topology

variable {t : Topology} {address : Pci.Address} {id : ObjectId}

/-- The object is a PCI device of the tree, with attributes of one, and has this address. -/
def IsDeviceAt (t : Topology) (address : Pci.Address) (id : ObjectId) : Prop :=
  t.isInserted id ∧ ∃ o d, t.object? id = some o ∧ o.kind = .pciDevice ∧
    o.attributes = some (.pci d) ∧ d.address = address

/-- The object is a bridge of the tree, with attributes of one, and this address is on one of its
buses, of which there are so many. -/
def IsBridgeTo (t : Topology) (address : Pci.Address) (count : ℕ) (id : ObjectId) : Prop :=
  t.isInserted id ∧ ∃ o b, t.object? id = some o ∧ o.kind = .bridge ∧
    o.attributes = some (.bridge b) ∧ b.domain = address.domain ∧
    address.bus.toNat ∈ b.buses ∧ count = b.buses.card

/-- The bridges that cover an address, with their widths, unless one of these cannot be told. -/
def coveringBridges? (t : Topology) (address : Pci.Address) : Option (List (ℕ × ObjectId)) :=
  ((t.insertedOfKind .bridge).filter fun id => (t.bridge? id).any (·.covers address)).mapM
    fun id => ((t.bridge? id).bind Pci.Bridge.width?).map (·, id)

theorem mem_insertedOfKind_iff {kind : ObjectKind} :
    id ∈ t.insertedOfKind kind ↔
      (∃ o, t.object? id = some o ∧ o.kind = kind) ∧ t.isInserted id := by
  refine ⟨of_mem_insertedOfKind, fun ⟨⟨o, found, same⟩, inserted⟩ => ?_⟩
  have within := (t.object?_isSome_iff id).1 (Option.isSome_of_eq_some found)
  refine List.mem_filter.2 ⟨List.mem_map.2 ⟨id.index, List.mem_range.2 within, rfl⟩, ?_⟩
  simp [found, same, inserted]

/-- Objects of a kind stand in the order of their numbers. -/
theorem pairwise_insertedOfKind (t : Topology) (kind : ObjectKind) :
    (t.insertedOfKind kind).Pairwise fun a b => a.index < b.index := by
  have numbers : t.ids.Pairwise fun a b => a.index < b.index :=
    List.pairwise_map.2 List.pairwise_lt_range
  exact numbers.filter _

/-- What is read of an object are its attributes, if they are of the right sort. -/
theorem bind_attributes_eq_some_iff {α : Type} {read : Attributes → Option α}
    {sort : α → Attributes} (reads : ∀ a x, read a = some x ↔ a = sort x) {x : α} :
    ((t.object? id).bind fun o => o.attributes.bind read) = some x ↔
      ∃ o, t.object? id = some o ∧ o.attributes = some (sort x) := by
  simp only [Option.bind_eq_some_iff, reads, exists_eq_right]

theorem pciDevice?_eq_some_iff {d : Pci.Device} :
    t.pciDevice? id = some d ↔
      ∃ o, t.object? id = some o ∧ o.attributes = some (.pci d) :=
  bind_attributes_eq_some_iff fun a x => by cases a <;> simp [Attributes.pci?]

theorem bridge?_eq_some_iff {b : Pci.Bridge} :
    t.bridge? id = some b ↔
      ∃ o, t.object? id = some o ∧ o.attributes = some (.bridge b) :=
  bind_attributes_eq_some_iff fun a x => by cases a <;> simp [Attributes.bridge?]

theorem isDeviceAt_iff :
    t.IsDeviceAt address id ↔ id ∈ t.insertedOfKind .pciDevice ∧
      (t.pciDevice? id).any (·.address = address) := by
  rw [mem_insertedOfKind_iff, Option.any_eq_true]
  simp only [IsDeviceAt, pciDevice?_eq_some_iff, decide_eq_true_eq]
  constructor
  · rintro ⟨inserted, o, d, found, kind, known, same⟩
    exact ⟨⟨⟨o, found, kind⟩, inserted⟩, d, ⟨o, found, known⟩, same⟩
  · rintro ⟨⟨⟨o, found, kind⟩, inserted⟩, d, ⟨o', found', known⟩, same⟩
    rw [found] at found'
    cases found'
    exact ⟨inserted, o, d, found, kind, known, same⟩

theorem isBridgeTo_iff {count : ℕ} :
    t.IsBridgeTo address count id ↔ (count, id) ∈ t.coveringBridges address := by
  rw [coveringBridges, List.mem_filterMap]
  constructor
  · rintro ⟨inserted, o, b, found, kind, known, domain, bus, rfl⟩
    have covers := Pci.Bridge.covers_iff.2 ⟨domain, bus⟩
    refine ⟨id, mem_insertedOfKind_iff.2 ⟨⟨o, found, kind⟩, inserted⟩, ?_⟩
    rw [bridge?_eq_some_iff.2 ⟨o, found, known⟩, Option.filter_some, if_pos covers,
      Option.map_some, Pci.Bridge.width_eq_card covers]
  · rintro ⟨other, listed, entry⟩
    obtain ⟨b, chosen, same⟩ := Option.map_eq_some_iff.1 entry
    cases same
    obtain ⟨told, covers⟩ := Option.filter_eq_some_iff.1 chosen
    obtain ⟨⟨o, found, kind⟩, inserted⟩ := mem_insertedOfKind_iff.1 listed
    obtain ⟨o', found', known⟩ := bridge?_eq_some_iff.1 told
    rw [found] at found'
    cases found'
    obtain ⟨domain, bus⟩ := Pci.Bridge.covers_iff.1 covers
    exact ⟨inserted, o, b, found, kind, known, domain, bus, Pci.Bridge.width_eq_card covers⟩

theorem pairwise_coveringBridges (t : Topology) (address : Pci.Address) :
    (t.coveringBridges address).Pairwise fun a b => a.2.index < b.2.index := by
  refine List.pairwise_filterMap.2 ((t.pairwise_insertedOfKind .bridge).imp ?_)
  intro a b lt x hx y hy
  obtain ⟨_, _, rfl⟩ := Option.map_eq_some_iff.1 hx
  obtain ⟨_, _, rfl⟩ := Option.map_eq_some_iff.1 hy
  exact lt

/-- **No width is asked for that cannot be told**: a range that is inverted covers no address. -/
theorem coveringBridges?_eq (t : Topology) (address : Pci.Address) :
    t.coveringBridges? address = some (t.coveringBridges address) := by
  unfold coveringBridges? coveringBridges
  induction t.insertedOfKind .bridge with
  | nil => rfl
  | cons id rest ih =>
    rw [List.filterMap_cons, List.filter_cons]
    cases told : t.bridge? id with
    | none => exact ih
    | some b =>
      rw [Option.any_some, Option.filter_some]
      by_cases covers : b.covers address
      · rw [if_pos covers, if_pos covers, List.mapM_cons, ih, told, Option.bind_some,
          Pci.Bridge.width?_eq covers]
        rfl
      · rw [if_neg covers, if_neg covers]
        exact ih

/-! ## What it leads to -/

theorem pciDeviceAt?_eq_some_iff :
    t.pciDeviceAt? address = some id ↔
      t.IsDeviceAt address id ∧ ∀ other, t.IsDeviceAt address other → id.index ≤ other.index := by
  rw [pciDeviceAt?, find?_eq_some_iff_least (t.pairwise_insertedOfKind .pciDevice)]
  simp only [isDeviceAt_iff, and_imp]

theorem pciDeviceAt?_eq_none_iff :
    t.pciDeviceAt? address = none ↔ ∀ device, ¬ t.IsDeviceAt address device := by
  simp [pciDeviceAt?, isDeviceAt_iff]

theorem narrowestBridge?_eq_some_iff :
    t.narrowestBridge? address = some id ↔
      ∃ count, t.IsBridgeTo address count id ∧
        ∀ count' other, t.IsBridgeTo address count' other →
          count < count' ∨ count = count' ∧ id.index ≤ other.index := by
  simp only [narrowestBridge?, Option.map_eq_some_iff, isBridgeTo_iff,
    minOn?_eq_some_iff_least (t.pairwise_coveringBridges address)]
  constructor
  · rintro ⟨⟨count, bridge⟩, ⟨listed, least⟩, rfl⟩
    exact ⟨count, listed, fun count' other => least (count', other)⟩
  · rintro ⟨count, listed, least⟩
    exact ⟨(count, id), ⟨listed, fun entry => least entry.1 entry.2⟩, rfl⟩

theorem narrowestBridge?_eq_none_iff :
    t.narrowestBridge? address = none ↔ ∀ count bridge, ¬ t.IsBridgeTo address count bridge := by
  have empty : t.narrowestBridge? address = none ↔ t.coveringBridges address = [] := by
    rw [narrowestBridge?, Option.map_eq_none_iff, ← Option.not_isSome_iff_eq_none,
      List.isSome_minOn?_iff, not_not]
  simp only [empty, isBridgeTo_iff, List.eq_nil_iff_forall_not_mem, Prod.forall]

theorem value_findParent (t : Topology) (address : Pci.Address) :
    (t.findParent address).value =
      (t.pciDeviceAt? address).or (t.narrowestBridge? address) := by
  unfold findParent
  cases t.pciDeviceAt? address with
  | some device => rfl
  | none => cases t.narrowestBridge? address <;> rfl

/-- **The object that an address leads to.** It is the first PCI device of the tree that has the
address. If no device of the tree has it, it is the bridge of the tree with the fewest buses among
those that have the address on one of their buses, the first if several have as few. If there is no
such bridge either, the address leads nowhere. The number of buses is never asked of a bridge whose
range is inverted. -/
theorem findParent_eq_some_iff (t : Topology) (address : Pci.Address) :
    let found := (t.findParent address).value
    (∀ id, found = some id ↔
      (t.IsDeviceAt address id ∧
        ∀ other, t.IsDeviceAt address other → id.index ≤ other.index) ∨
      (∀ device, ¬ t.IsDeviceAt address device) ∧
        ∃ count, t.IsBridgeTo address count id ∧
          ∀ count' other, t.IsBridgeTo address count' other →
            count < count' ∨ count = count' ∧ id.index ≤ other.index) ∧
    (found = none ↔
      (∀ device, ¬ t.IsDeviceAt address device) ∧
        ∀ count bridge, ¬ t.IsBridgeTo address count bridge) ∧
    t.coveringBridges? address = some (t.coveringBridges address) := by
  dsimp only
  rw [value_findParent]
  refine ⟨fun id => ?_, ?_, t.coveringBridges?_eq address⟩
  · rw [Option.or_eq_some_iff, pciDeviceAt?_eq_some_iff, pciDeviceAt?_eq_none_iff,
      narrowestBridge?_eq_some_iff]
  · rw [Option.or_eq_none_iff, pciDeviceAt?_eq_none_iff, narrowestBridge?_eq_none_iff]

end Topology

end DeviceAtlas
