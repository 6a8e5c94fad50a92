import DeviceAtlas.Distance
import DeviceAtlas.Object
import DeviceAtlas.Proofs.Numerals
import Mathlib.Data.List.Basic

/-!
# Written masks are read back

A mask is written as names and perhaps one number, with bars between them. If each name stands for
a bit of its own, and no name could be taken for another or for a number, then the parts are found
again between the bars, each is read as what it was written for, and together they are the mask.

* `Text.map_trim_splitOn_barred`: the parts of a written list are found again.
* `NamedBits.WellFormed`: what is asked of the names.
* `NamedBits.WellFormed.read_text`: a written mask is read back.
* `OsDevice.Classes.wellFormed_table`, `Distance.Kind.wellFormed_table`: the tables that are used.
-/

namespace DeviceAtlas

/-! ## Trimmed texts -/

namespace Text

/-- A text that is not empty and neither begins nor ends with white space. -/
structure IsTrimmed (text : List Char) : Prop where
  ne_nil : text ≠ []
  head : ∀ c, text.head? = some c → isBlank c = false
  last : ∀ c, text.getLast? = some c → isBlank c = false

/-- White space around a text is trimmed away. -/
theorem IsTrimmed.trim_pad {text : List Char} (h : IsTrimmed text) (front back : List Char)
    (hf : ∀ c ∈ front, isBlank c) (hb : ∀ c ∈ back, isBlank c) :
    trim (front ++ text ++ back) = text := by
  have keep : ∀ cs : List Char, (∀ c, cs.head? = some c → isBlank c = false) →
      cs.dropWhile isBlank = cs := by
    intro cs hcs
    cases cs with
    | nil => rfl
    | cons c rest => simp [hcs c rfl]
  have start : (front ++ text ++ back).dropWhile isBlank = text ++ back := by
    rw [List.append_assoc, List.dropWhile_append_of_pos hf]
    refine keep _ fun c found => h.head c ?_
    rwa [List.head?_append_of_ne_nil _ h.ne_nil] at found
  rw [trim, start, List.reverse_append,
    List.dropWhile_append_of_pos fun c listed => hb c (List.mem_reverse.1 listed),
    keep _ fun c found => h.last c (by rwa [List.head?_reverse] at found), List.reverse_reverse]

theorem IsTrimmed.trim_eq {text : List Char} (h : IsTrimmed text) : trim text = text := by
  simpa using h.trim_pad [] [] (by simp) (by simp)

/-- A text that can stand between bars. -/
structure IsPart (text : List Char) : Prop where
  ne_nil : text ≠ []
  solid : ∀ c ∈ text, isBlank c = false
  noBar : '|' ∉ text

instance (text : List Char) : Decidable (IsPart text) :=
  decidable_of_iff (text ≠ [] ∧ (text.all fun c => !isBlank c) ∧ '|' ∉ text)
    ⟨fun ⟨filled, solid, noBar⟩ => ⟨filled, by simpa using solid, noBar⟩,
      fun ⟨filled, solid, noBar⟩ => ⟨filled, by simpa using solid, noBar⟩⟩

theorem IsPart.isTrimmed {text : List Char} (h : IsPart text) : IsTrimmed text where
  ne_nil := h.ne_nil
  head c found := h.solid c (List.mem_of_head? found)
  last c found := h.solid c (List.mem_of_getLast? found)

/-- Parts with bars between them. -/
abbrev barred (parts : List (List Char)) : List Char := [' ', '|', ' '].intercalate parts

theorem isTrimmed_barred {parts : List (List Char)} (h : ∀ part ∈ parts, IsPart part)
    (some : parts ≠ []) : IsTrimmed (barred parts) := by
  induction parts with
  | nil => exact absurd rfl some
  | cons part rest ih =>
    have here := (h part List.mem_cons_self).isTrimmed
    cases rest with
    | nil => rwa [barred, List.intercalate_singleton]
    | cons next rest =>
      have there := ih (fun p listed => h p (List.mem_cons_of_mem _ listed)) (List.cons_ne_nil _ _)
      rw [barred, List.intercalate_cons_cons]
      refine ⟨by simp, fun c found => here.head c ?_, fun c found => there.last c ?_⟩
      · rwa [List.append_assoc, List.head?_append_of_ne_nil _ here.ne_nil] at found
      · rwa [List.getLast?_append_of_ne_nil _ there.ne_nil] at found

/-- **The parts are found between the bars.** -/
theorem map_trim_splitOn_barred {parts : List (List Char)} (h : ∀ part ∈ parts, IsPart part)
    (some : parts ≠ []) (pad : List Char) (blank : ∀ c ∈ pad, isBlank c) :
    ((pad ++ barred parts).splitOn '|').map trim = parts := by
  have bar : ∀ {cs : List Char}, (∀ c ∈ cs, isBlank c) → '|' ∉ cs := fun blank listed =>
    absurd (blank _ listed) (by decide)
  have space : ∀ c ∈ [' '], isBlank c := List.forall_mem_singleton.2 rfl
  induction parts generalizing pad with
  | nil => exact absurd rfl some
  | cons part rest ih =>
    have here := h part List.mem_cons_self
    cases rest with
    | nil =>
      have whole : '|' ∉ pad ++ part := by simp [bar blank, here.noBar]
      have trimmed := here.isTrimmed.trim_pad pad [] blank (by simp)
      rw [List.append_nil] at trimmed
      rw [barred, List.intercalate_singleton, List.splitOn_eq_singleton whole, List.map_singleton,
        trimmed]
    | cons next rest =>
      have front : '|' ∉ pad ++ part ++ [' '] := by simp [bar blank, here.noBar]
      have later := ih (fun p listed => h p (List.mem_cons_of_mem _ listed)) (List.cons_ne_nil _ _)
        [' '] space
      have shape : pad ++ barred (part :: next :: rest) =
          (pad ++ part ++ [' ']) ++ '|' :: ([' '] ++ barred (next :: rest)) := by
        simp [barred, List.intercalate_cons_cons]
      rw [shape, List.splitOn_eq_splitOnP, List.splitOnP_append_cons _ _ (by simp),
        ← List.splitOn_eq_splitOnP, ← List.splitOn_eq_splitOnP, List.map_append, later,
        List.splitOn_eq_singleton front, List.map_singleton,
        here.isTrimmed.trim_pad pad [' '] blank space]
      rfl

end Text

/-! ## Masks -/

namespace NamedBits

/-- Each name stands for a bit of its own and can be told from the other names and from numbers. -/
structure WellFormed (table : NamedBits) : Prop where
  distinct : (table.names.map (·.1)).Nodup
  isPart : ∀ entry ∈ table.names, Text.IsPart entry.1.toList
  noNumber : ∀ entry ∈ table.names, entry.1.toList.head? ≠ some '0'
  single : ∀ entry ∈ table.names, ∃ i < 32, entry.2.toBitVec = BitVec.twoPow 32 i

variable {table : NamedBits}

instance : Decidable table.WellFormed :=
  decidable_of_iff
    ((table.names.map (·.1)).Nodup ∧ (∀ entry ∈ table.names, Text.IsPart entry.1.toList) ∧
      (∀ entry ∈ table.names, entry.1.toList.head? ≠ some '0') ∧
      ∀ entry ∈ table.names, ∃ i < 32, entry.2.toBitVec = BitVec.twoPow 32 i)
    ⟨fun ⟨h₁, h₂, h₃, h₄⟩ => ⟨h₁, h₂, h₃, h₄⟩, fun ⟨h₁, h₂, h₃, h₄⟩ => ⟨h₁, h₂, h₃, h₄⟩⟩

theorem and_or_distrib (a b c : UInt32) : a &&& (b ||| c) = (a &&& b) ||| (a &&& c) := by
  simp [← UInt32.toBitVec_inj, BitVec.and_or_distrib_left]

/-- Parts that are read one by one are put together. -/
theorem foldlM_readPart {parts : List (List Char)} {bits : List UInt32}
    (h : parts.map table.readPart = bits.map some) (mask : UInt32) :
    parts.foldlM (fun mask part => (table.readPart part).map (mask ||| ·)) mask =
      some (bits.foldl (· ||| ·) mask) := by
  induction parts generalizing bits mask with
  | nil =>
    obtain rfl := List.map_eq_nil_iff.1 h.symm
    rfl
  | cons part rest ih =>
    cases bits with
    | nil => cases h
    | cons bit bits =>
      obtain ⟨here, later⟩ := List.cons.inj h
      rw [List.foldlM_cons, here]
      exact ih later _

/-- The entries of the bits that are set, in the order of the table. -/
def setEntries (table : NamedBits) (mask : UInt32) : List (String × UInt32) :=
  table.names.filter fun entry => mask &&& entry.2 = entry.2

/-- What the parts of the written mask stand for. -/
def partBits (table : NamedBits) (mask : UInt32) : List UInt32 :=
  let rest := mask &&& ~~~table.known
  (table.setEntries mask).map (·.2) ++ if rest = 0 then [] else [rest]

/-- A single bit of a mask is set or not. -/
theorem and_eq_or {bit : UInt32} (single : ∃ i < 32, bit.toBitVec = BitVec.twoPow 32 i)
    (mask : UInt32) : mask &&& bit = bit ∨ mask &&& bit = 0 := by
  obtain ⟨i, _, single⟩ := single
  simp only [← UInt32.toBitVec_inj, UInt32.toBitVec_and, single, BitVec.and_twoPow]
  split
  · exact .inl rfl
  · exact .inr rfl

/-- The bits that are set and have a name are put together from the names. -/
theorem foldl_setEntries {names : List (String × UInt32)}
    (single : ∀ entry ∈ names, ∃ i < 32, entry.2.toBitVec = BitVec.twoPow 32 i)
    (mask start : UInt32) :
    ((names.filter fun entry => mask &&& entry.2 = entry.2).map (·.2)).foldl (· ||| ·)
        (mask &&& start) =
      mask &&& names.foldl (fun known entry => known ||| entry.2) start := by
  induction names generalizing start with
  | nil => rfl
  | cons entry rest ih =>
    have later := ih (fun e listed => single e (List.mem_cons_of_mem _ listed)) (start ||| entry.2)
    rw [List.foldl_cons, ← later, and_or_distrib]
    rcases and_eq_or (single entry List.mem_cons_self) mask with set | clear
    · rw [List.filter_cons_of_pos (by simpa using set), List.map_cons, List.foldl_cons, set]
    · by_cases set : mask &&& entry.2 = entry.2
      · rw [List.filter_cons_of_pos (by simpa using set), List.map_cons, List.foldl_cons, set]
      · rw [List.filter_cons_of_neg (by simpa using set), clear, UInt32.or_zero]

/-- The bits without a name are read back from their number. -/
theorem readPart_number (rest : UInt32) :
    table.readPart ("0x" ++ Numeral.hex 0 rest.toNat).toList = some rest := by
  have shape : ("0x" ++ Numeral.hex 0 rest.toNat).toList =
      '0' :: 'x' :: Numeral.hexDigits 0 rest.toNat := by simp
  have read : Numeral.read 16 UInt32.size (Numeral.hexDigits 0 rest.toNat) = .ok rest.toNat :=
    Numeral.read_hexDigits 0 rest.toNat_lt
  rw [shape, readPart, read]
  exact congrArg some UInt32.ofNat_toNat

theorem isPart_number (rest : UInt32) :
    Text.IsPart ("0x" ++ Numeral.hex 0 rest.toNat).toList := by
  have shape : ("0x" ++ Numeral.hex 0 rest.toNat).toList =
      '0' :: 'x' :: Numeral.hexDigits 0 rest.toNat := by simp
  have digits : ∀ d : Fin 16, Text.isBlank (Nat.digitChar d) = false ∧ Nat.digitChar d ≠ '|' := by
    decide
  have plain : ∀ c ∈ Numeral.hexDigits 0 rest.toNat, Text.isBlank c = false ∧ c ≠ '|' := by
    intro c listed
    obtain ⟨d, small, rfl⟩ := Numeral.exists_of_mem_hexDigits listed
    exact digits ⟨d, small⟩
  rw [shape]
  refine ⟨List.cons_ne_nil _ _, fun c listed => ?_, fun bar => ?_⟩
  · rcases List.mem_cons.1 listed with rfl | listed
    · decide
    · rcases List.mem_cons.1 listed with rfl | listed
      · decide
      · exact (plain c listed).1
  · simp only [List.mem_cons, Char.reduceEq, false_or] at bar
    exact (plain _ bar).2 rfl

namespace WellFormed

variable (h : table.WellFormed)
include h

theorem find?_eq {entry : String × UInt32} (listed : entry ∈ table.names) :
    table.names.find? (·.1.toList = entry.1.toList) = some entry := by
  obtain ⟨front, back, split⟩ := List.append_of_mem listed
  rw [List.find?_eq_some_iff_append]
  refine ⟨by simp, front, back, split, fun other before => ?_⟩
  have apart := h.distinct
  rw [split, List.map_append, List.map_cons, List.nodup_append] at apart
  have ne := apart.2.2 other.1 (List.mem_map_of_mem before) entry.1 List.mem_cons_self
  simpa [String.toList_inj] using ne

theorem readPart_name {entry : String × UInt32} (listed : entry ∈ table.names) :
    table.readPart entry.1.toList = some entry.2 := by
  have noNumber := h.noNumber entry listed
  unfold readPart
  split
  · rename_i digits same
    rw [same] at noNumber
    exact absurd rfl noNumber
  · rw [h.find?_eq listed]
    rfl

/-- What the parts of a written mask are read as. -/
theorem map_readPart_parts (mask : UInt32) :
    ((table.parts mask).map String.toList).map table.readPart = (table.partBits mask).map some := by
  unfold parts partBits setNames setEntries
  dsimp only
  rw [List.map_append, List.map_append, List.map_append]
  congr 1
  · rw [List.map_map, List.map_map, List.map_map]
    refine List.map_congr_left fun entry listed => ?_
    exact h.readPart_name (List.mem_filter.1 listed).1
  · split
    · rfl
    · exact congrArg (List.cons · []) (readPart_number _)

theorem isPart_of_mem_parts {mask : UInt32} {part : List Char}
    (listed : part ∈ (table.parts mask).map String.toList) : Text.IsPart part := by
  obtain ⟨written, among, rfl⟩ := List.mem_map.1 listed
  rcases List.mem_append.1 among with name | number
  · obtain ⟨entry, set, rfl⟩ := List.mem_map.1 name
    exact h.isPart entry (List.mem_filter.1 set).1
  · split at number
    · cases number
    · rw [List.mem_singleton.1 number]
      exact isPart_number _

theorem foldl_partBits (mask : UInt32) : (table.partBits mask).foldl (· ||| ·) 0 = mask := by
  have named := foldl_setEntries h.single mask 0
  rw [UInt32.and_zero] at named
  have named : ((table.setEntries mask).map (·.2)).foldl (· ||| ·) 0 = mask &&& table.known := named
  unfold partBits
  dsimp only
  rw [List.foldl_append, named]
  have whole : (mask &&& table.known) ||| (mask &&& ~~~table.known) = mask := by
    rw [← and_or_distrib, UInt32.or_not_self, UInt32.and_neg_one]
  split
  · rename_i none
    rwa [none, UInt32.or_zero] at whole
  · exact whole

/-- **A written mask is read back**, bits without a name included. -/
theorem read_text (mask : UInt32) : table.read (table.text mask) = some mask := by
  have written : (table.text mask).toList = Text.barred ((table.parts mask).map String.toList) := by
    rw [text, String.toList_intercalate]
    rfl
  have together := foldlM_readPart (h.map_readPart_parts mask) 0
  rw [h.foldl_partBits] at together
  have solid : ∀ part ∈ (table.parts mask).map String.toList, Text.IsPart part := fun _ =>
    h.isPart_of_mem_parts
  unfold read
  rw [written]
  by_cases none : (table.parts mask).map String.toList = []
  · rw [none] at together ⊢
    exact together
  · have trimmed := Text.isTrimmed_barred solid none
    have split := Text.map_trim_splitOn_barred solid none [] (by simp)
    rw [List.nil_append] at split
    rw [trimmed.trim_eq]
    split
    · rename_i empty
      exact absurd empty trimmed.ne_nil
    · rw [← together]
      conv => rhs; rw [← split, List.foldlM_map]
end WellFormed

end NamedBits

/-! ## The tables -/

theorem OsDevice.Classes.wellFormed_table : table.WellFormed := by decide

theorem Distance.Kind.wellFormed_table : table.WellFormed := by decide

end DeviceAtlas
