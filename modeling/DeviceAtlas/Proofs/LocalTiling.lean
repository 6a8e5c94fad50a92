import DeviceAtlas.Proofs.CellLaw
import DeviceAtlas.Proofs.NumeralGrammar

/-!
# Local blocks tile the registry

How far a local block reaches is told by the infos of the object at its first place, and infos are
free text: there may be no number in them, or one that is far too large. Whatever they say, a block
has at least one place and ends with the registry at the latest, and the next one starts where it
ends. So the blocks use up the registry, and each place lies in one of them.

* `LocalBlock.Tiles`: blocks follow each other without a gap.
* `LocalBlock.stop_of_mem_cover`: where a block ends.
* `LocalBlock.toNat_wordStop`: no sum of words that are capped goes wrong.
* `Topology.subdeviceCount_of_tellsOf`, `Topology.subdeviceCount_eq_zero`: what counts as a number.
* `Registry.tiles_localBlocks`: the blocks of a registry, and what is written into them.
-/

namespace DeviceAtlas

namespace LocalBlock

variable {b : LocalBlock} {blocks : List LocalBlock} {start stop place : ℕ}

/-- Blocks follow each other without a gap from one place to another, and none of them is empty. -/
inductive Tiles : ℕ → List LocalBlock → ℕ → Prop
  | nil (place : ℕ) : Tiles place [] place
  | cons {b : LocalBlock} {blocks : List LocalBlock} {stop : ℕ} (some : b.start < b.stop)
    (rest : Tiles b.stop blocks stop) : Tiles b.start (b :: blocks) stop

theorem mem_places_iff : place ∈ b.places ↔ b.start ≤ place ∧ place < b.stop := by
  rw [places, List.mem_range'_1]
  omega

/-! ## Tilings -/

namespace Tiles

theorem start_le (h : Tiles start blocks stop) : start ≤ stop := by
  induction h with
  | nil => exact Nat.le_refl _
  | cons some _ ih => omega

theorem bounds_of_mem (h : Tiles start blocks stop) (listed : b ∈ blocks) :
    start ≤ b.start ∧ b.start < b.stop ∧ b.stop ≤ stop := by
  induction h with
  | nil => cases listed
  | cons some rest ih =>
    rcases List.mem_cons.1 listed with rfl | later
    · exact ⟨Nat.le_refl _, some, rest.start_le⟩
    · have := ih later
      omega

/-- Each place lies in one block. -/
theorem existsUnique (h : Tiles start blocks stop) (first : start ≤ place) (last : place < stop) :
    ∃! b, b ∈ blocks ∧ b.start ≤ place ∧ place < b.stop := by
  induction h with
  | nil => omega
  | @cons head blocks stop some rest ih =>
    by_cases here : place < head.stop
    · refine ⟨head, ⟨List.mem_cons_self, first, here⟩, ?_⟩
      rintro other ⟨listed, from_le, _⟩
      rcases List.mem_cons.1 listed with rfl | later
      · rfl
      · have := rest.bounds_of_mem later
        omega
    · obtain ⟨b, ⟨later, within⟩, unique⟩ := ih (by omega) last
      refine ⟨b, ⟨List.mem_cons_of_mem _ later, within⟩, ?_⟩
      rintro other ⟨listed, within'⟩
      rcases List.mem_cons.1 listed with rfl | later'
      · omega
      · exact unique other ⟨later', within'⟩

/-- There are no more blocks than places. -/
theorem length_le (h : Tiles start blocks stop) : start + blocks.length ≤ stop := by
  induction h with
  | nil => exact Nat.le_refl _
  | cons some _ ih =>
    rw [List.length_cons]
    omega

end Tiles

/-! ## Covering a registry -/

/-- The blocks that are found tile the places, whatever the numbers of subdevices are. -/
theorem tiles_cover (subdevices : ObjectId → ℕ) (start : ℕ) (nodes : List ObjectId) :
    Tiles start (cover subdevices start nodes) (start + nodes.length) := by
  fun_induction cover subdevices start nodes with
  | case1 start => exact .nil start
  | case2 start device rest stop ih =>
    have last : stop + (rest.drop (subdevices device)).length =
        start + (device :: rest).length := by
      rw [List.length_drop, List.length_cons]
      omega
    rw [last] at ih
    exact .cons (b := ⟨start, stop⟩) (by dsimp only [stop]; omega) ih

/-- **A block reaches as far as the object at its first place tells**, but not beyond the last
place. -/
theorem stop_of_mem_cover {subdevices : ObjectId → ℕ} {nodes : List ObjectId}
    (listed : b ∈ cover subdevices start nodes) :
    start ≤ b.start ∧ ∃ device, nodes[b.start - start]? = some device ∧
      b.stop = min (start + nodes.length) (b.start + 1 + subdevices device) := by
  fun_induction cover subdevices start nodes with
  | case1 => cases listed
  | case2 start device rest stop ih =>
    rcases List.mem_cons.1 listed with rfl | later
    · refine ⟨Nat.le_refl _, device, by simp, ?_⟩
      simp only [stop, List.length_cons]
      omega
    · obtain ⟨from_le, other, here, ends⟩ := ih later
      -- the rest of the list stands where the first block ends
      have within : b.start - stop < (rest.drop (subdevices device)).length :=
        (List.getElem?_eq_some_iff.1 here).1
      rw [List.length_drop] at within
      have place : b.start - start = (subdevices device + (b.start - stop)) + 1 := by omega
      refine ⟨by omega, other, ?_, ?_⟩
      · rw [place, List.getElem?_cons_succ, ← List.getElem?_drop, here]
      · rw [ends, List.length_drop, List.length_cons]
        omega

/-! ## Sums of words -/

/-- The end of a block by sums of words, which are capped. -/
def wordStop (size start count : UInt64) : ℕ :=
  min (Capped.add (Capped.add start count) 1).toNat size.toNat

/-- A cap beyond the last place changes nothing. -/
theorem toNat_wordStop {size start count : ℕ} (few : size < 2 ^ 64) (within : start < size)
    (word : count < 2 ^ 64) :
    wordStop (.ofNat size) (.ofNat start) (.ofNat count) = min size (start + 1 + count) := by
  have top : Capped.top = 2 ^ 64 - 1 := rfl
  simp only [wordStop, Capped.toNat_add, top, UInt64.toNat_ofNat', UInt64.toNat_one]
  omega

end LocalBlock

/-! ## What counts as a number -/

namespace Topology

/-- The infos of an object tell of a number of subdevices: there is a decimal numeral of a number of
sixty-four bits. -/
def TellsOf (t : Topology) (id : ObjectId) (count : ℕ) : Prop :=
  ∃ text, t.info? id InfoKey.subdevices = some text ∧
    Numeral.IsNumeral 10 text.toList count ∧ count < 2 ^ 64

variable {t : Topology} {id : ObjectId} {count : ℕ}

theorem subdeviceCount_of_tellsOf (h : t.TellsOf id count) : t.subdeviceCount id = count := by
  obtain ⟨text, told, numeral, word⟩ := h
  have read : Numeral.readDecimal UInt64.size text = .ok count :=
    (Numeral.read_eq_ok_iff (by decide) (by decide)).2 ⟨numeral, word⟩
  rw [subdeviceCount, told, Option.bind_some, read]
  rfl

theorem subdeviceCount_eq_zero (h : ∀ count, ¬ t.TellsOf id count) :
    t.subdeviceCount id = 0 := by
  unfold subdeviceCount
  cases told : t.info? id InfoKey.subdevices with
  | none => rfl
  | some text =>
    rw [Option.bind_some]
    cases read : Numeral.readDecimal UInt64.size text with
    | error wrong => rfl
    | ok count =>
      obtain ⟨numeral, word⟩ := (Numeral.read_eq_ok_iff (by decide) (by decide)).1 read
      exact absurd ⟨text, told, numeral, word⟩ (h count)

theorem subdeviceCount_lt (t : Topology) (id : ObjectId) : t.subdeviceCount id < 2 ^ 64 := by
  by_cases told : ∃ count, t.TellsOf id count
  · obtain ⟨count, h⟩ := told
    rw [subdeviceCount_of_tellsOf h]
    exact h.choose_spec.2.2
  · rw [subdeviceCount_eq_zero fun count h => told ⟨count, h⟩]
    omega

end Topology

/-! ## The blocks of a registry -/

namespace Registry

variable {r : Registry} {t : Topology} {b : LocalBlock}

theorem tiles_zero_localBlocks (r : Registry) (t : Topology) :
    LocalBlock.Tiles 0 (r.localBlocks t) r.size := by
  have tiles := LocalBlock.tiles_cover t.subdeviceCount 0 r.nodes
  rwa [Nat.zero_add] at tiles

theorem stop_of_mem_localBlocks (listed : b ∈ r.localBlocks t) :
    ∃ device, r.nodes[b.start]? = some device ∧
      b.stop = min r.size (b.start + 1 + t.subdeviceCount device) := by
  obtain ⟨_, device, here, ends⟩ := LocalBlock.stop_of_mem_cover listed
  rw [Nat.zero_add] at ends
  exact ⟨device, here, ends⟩

/-- The local bandwidth goes to the cells whose row and column lie in one block, and all other cells
stay as they are. -/
theorem get?_withLocal_of_size {m : BandwidthMatrix} (square : m.size = r.size) (value : UInt64)
    (row column : ℕ) :
    (m.withLocal r t value).get? row column =
      if ∃ b ∈ r.localBlocks t,
        (b.start ≤ row ∧ row < b.stop) ∧ b.start ≤ column ∧ column < b.stop
      then some value else m.get? row column := by
  simp only [BandwidthMatrix.get?_withLocal, SameBlock, LocalBlock.mem_places_iff]
  split
  · rename_i same
    obtain ⟨b, listed, ⟨_, rows⟩, _, columns⟩ := same
    have := (tiles_zero_localBlocks r t).bounds_of_mem listed
    obtain ⟨old, found⟩ := Option.isSome_iff_exists.1
      (BandwidthMatrix.isSome_get?_iff.2 (by omega : row < m.size ∧ column < m.size))
    rw [found, Option.map_some]
  · rfl

/-- **Local blocks tile the registry.** None is empty, each starts where the one before it ends, the
first at the first place and the last up to the last place, so that each place lies in one block.
The object at the first place of a block tells how far it reaches: one place for itself and one for
each subdevice, as far as there are places; that is also what sums of words come to, which are
capped. A numeral of sixty-four bits under the key counts, and anything else counts as none. In a
matrix with a row for each place, the cells with row and column in one block get the local
bandwidth, and the others keep what they have. -/
theorem tiles_localBlocks (r : Registry) (t : Topology) :
    let blocks := r.localBlocks t
    LocalBlock.Tiles 0 blocks r.size ∧ blocks.length ≤ r.size ∧
    (∀ place < r.size, ∃! b, b ∈ blocks ∧ b.start ≤ place ∧ place < b.stop) ∧
    (∀ b ∈ blocks, ∃ device, r.nodes[b.start]? = some device ∧
      b.stop = min r.size (b.start + 1 + t.subdeviceCount device) ∧
      (r.size < 2 ^ 64 → b.stop = LocalBlock.wordStop (.ofNat r.size) (.ofNat b.start)
        (.ofNat (t.subdeviceCount device)))) ∧
    (∀ device, (∀ count, t.TellsOf device count → t.subdeviceCount device = count) ∧
      ((∀ count, ¬ t.TellsOf device count) → t.subdeviceCount device = 0)) ∧
    ∀ m : BandwidthMatrix, m.size = r.size → ∀ value,
      (m.withLocal r t value).size = r.size ∧
      ∀ row column, (m.withLocal r t value).get? row column =
        if ∃ b ∈ blocks, (b.start ≤ row ∧ row < b.stop) ∧ b.start ≤ column ∧ column < b.stop
        then some value else m.get? row column := by
  intro blocks
  have tiles : LocalBlock.Tiles 0 blocks r.size := tiles_zero_localBlocks r t
  refine ⟨tiles, ?_, fun place within => tiles.existsUnique (Nat.zero_le _) within,
    fun b listed => ?_, fun device => ?_, fun m square value => ⟨?_, fun row column => ?_⟩⟩
  · have := tiles.length_le
    omega
  · obtain ⟨device, here, ends⟩ := stop_of_mem_localBlocks listed
    refine ⟨device, here, ends, fun few => ?_⟩
    have bounds := tiles.bounds_of_mem listed
    rw [ends, LocalBlock.toNat_wordStop few (by omega) (t.subdeviceCount_lt device)]
  · exact ⟨fun count => Topology.subdeviceCount_of_tellsOf, Topology.subdeviceCount_eq_zero⟩
  · rw [BandwidthMatrix.size_withLocal, square]
  · exact get?_withLocal_of_size square value row column

/-! ### Texts of all sorts -/

/-- An object with this text for the number of its subdevices. -/
def telling (text : Option String) : Object where
  kind := .osDevice
  infos := (text.map (InfoMap.empty.insert InfoKey.subdevices)).getD .empty

/-- Six objects, of which the first tells of one subdevice, the fourth of a number in words, and the
fifth of far more than there are. -/
def tellingTopology : Topology where
  __ := Topology.initial
  objects := #[Topology.initial.machine, telling (some "+1"), telling none, telling none,
    telling (some "two"), telling (some "18446744073709551615"), telling none]
  rooted := by decide

/-- The six objects, registered. -/
def tellingRegistry : Registry where
  nodes := [⟨1⟩, ⟨2⟩, ⟨3⟩, ⟨4⟩, ⟨5⟩, ⟨6⟩]

/-- The last block would reach far beyond the registry, and ends with it. -/
theorem tiles_localBlocks_telling :
    tellingRegistry.localBlocks tellingTopology = [⟨0, 2⟩, ⟨2, 3⟩, ⟨3, 4⟩, ⟨4, 6⟩] ∧
      tellingTopology.subdeviceCount ⟨5⟩ = 2 ^ 64 - 1 ∧
      6 = LocalBlock.wordStop 6 4 (.ofNat (2 ^ 64 - 1)) ∧
      (∃! b, b ∈ tellingRegistry.localBlocks tellingTopology ∧ b.start ≤ 5 ∧ 5 < b.stop) ∧
      (BandwidthMatrix.withLocal ⟨6, .replicate 36 0, rfl⟩ tellingRegistry tellingTopology 9).get? 5 4
        = some 9 ∧
      (BandwidthMatrix.withLocal ⟨6, .replicate 36 0, rfl⟩ tellingRegistry tellingTopology 9).get? 3 4
        = some 0 := by
  have blocks : tellingRegistry.localBlocks tellingTopology =
      [⟨0, 2⟩, ⟨2, 3⟩, ⟨3, 4⟩, ⟨4, 6⟩] := by
    decide +kernel
  have count : tellingTopology.subdeviceCount ⟨5⟩ = 2 ^ 64 - 1 := by decide +kernel
  obtain ⟨-, -, unique, ends, -, cells⟩ := tiles_localBlocks tellingRegistry tellingTopology
  obtain ⟨device, here, -, stop⟩ := ends ⟨4, 6⟩ (by rw [blocks]; decide)
  obtain ⟨-, cells⟩ := cells ⟨6, .replicate 36 0, rfl⟩ rfl 9
  have last : device = ⟨5⟩ := (Option.some.inj here).symm
  refine ⟨blocks, count, ?_, unique 5 (by decide), ?_, ?_⟩
  · have words := stop (by decide)
    rwa [last, count] at words
  · rw [cells, blocks]
    decide
  · rw [cells, blocks]
    decide

end Registry

end DeviceAtlas
