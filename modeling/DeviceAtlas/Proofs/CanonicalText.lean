import DeviceAtlas.Proofs.AddressGrammar
import Mathlib.Data.Nat.Digits.Lemmas

/-!
# The canonical text of an address

Among the numerals of a number one is canonical for a least width: its letters are small, it has no
sign, and no zeros stand in front that the width does not ask for. It is the one that is written. So
reading a text and writing the address again gives the canonical one of the texts that are read as
this address, which is the text itself only where it was canonical.

* `Numeral.IsCanonical.eq_of_spells`: a number has one canonical numeral of a width.
* `Numeral.isCanonical_hexDigits`: it is the one that is written.
* `Pci.Address.toText_eq_iff`: the text of an address is the canonical one of its texts.
* `Pci.Address.roundtrip_toText`: from address to text and back, and from text to address and back.
-/

namespace DeviceAtlas.Numeral

variable {width n : ℕ} {a b text : List Char} {ds : List ℕ}

/-! ## Numerals -/

/-- A text of small hexadecimal digits, with no more zeros in front than the width asks for. -/
structure IsCanonical (width : ℕ) (text : List Char) : Prop where
  small : ∀ c ∈ text, ∃ d < 16, c = Nat.digitChar d
  width_le : width ≤ text.length
  shortest : width < text.length → text.head? ≠ some '0'

theorem IsCanonical.eq_map (canonical : IsCanonical width text)
    (digits : List.Forall₂ (IsDigit 16) text ds) : text = ds.map Nat.digitChar := by
  have small := canonical.small
  clear canonical
  induction digits with
  | nil => rfl
  | @cons c d rest ds first others ih =>
    obtain ⟨e, low, rfl⟩ := small c List.mem_cons_self
    -- the character of either case is the small one
    have value := (digit?_eq_some_iff (Nat.le_refl 16)).2 first
    rw [digit?_digitChar low (Nat.le_refl 16), Option.some.injEq] at value
    rw [List.map_cons, value, ih fun c mem => small c (List.mem_cons_of_mem _ mem)]

/-- What digits stand for, from the least significant on, is below the radix. -/
theorem lt_of_mem_reverse {radix : ℕ} (digits : List.Forall₂ (IsDigit radix) text ds) :
    ∀ d ∈ ds.reverse, d < radix := by
  intro d mem
  rw [List.mem_reverse] at mem
  induction digits with
  | nil => cases mem
  | cons first _ ih =>
    rcases List.mem_cons.1 mem with rfl | mem
    · exact first.1
    · exact ih mem

/-- Digits spell a number that has as many of them at most. -/
theorem Spells.lt_pow (spells : Spells 16 text n) : n < 16 ^ text.length := by
  obtain ⟨ds, digits, rfl⟩ := spells
  have lt := Nat.ofDigits_lt_base_pow_length (by decide) (lt_of_mem_reverse digits)
  rwa [List.length_reverse, ← digits.length_eq] at lt

/-- Digits without a zero in front spell a number that has as many of them at least. -/
theorem Spells.pow_le (spells : Spells 16 text n) (nonempty : text ≠ [])
    (first : text.head? ≠ some '0') : 16 ^ text.length ≤ 16 * n := by
  obtain ⟨_, digits, rfl⟩ := spells
  cases digits with
  | nil => exact absurd rfl nonempty
  | @cons c d rest ds digit others =>
    have nonzero : d ≠ 0 := by
      rintro rfl
      rcases digit.2 with rfl | rfl <;> exact first rfl
    rw [List.length_cons, others.length_eq, ← List.length_cons (a := d), ← List.length_reverse]
    exact Nat.pow_length_le_mul_ofDigits (b := 14) (by simp) (by simpa using nonzero)

/-- A canonical numeral is not longer than another of its number that keeps the width. -/
theorem IsCanonical.length_le (canonical : IsCanonical width a) (spells : Spells 16 a n)
    (other : Spells 16 b n) (wide : width ≤ b.length) : a.length ≤ b.length := by
  by_contra longer
  have least := spells.pow_le (List.ne_nil_of_length_pos (by omega)) (canonical.shortest (by omega))
  have most := other.lt_pow
  have mono : 16 ^ (b.length + 1) ≤ 16 ^ a.length := Nat.pow_le_pow_right (by decide) (by omega)
  omega

/-- **A number has one canonical numeral of a width.** -/
theorem IsCanonical.eq_of_spells (one : IsCanonical width a) (two : IsCanonical width b)
    (left : Spells 16 a n) (right : Spells 16 b n) : a = b := by
  have same : a.length = b.length := Nat.le_antisymm (one.length_le left right two.width_le)
    (two.length_le right left one.width_le)
  obtain ⟨ds, digits, rfl⟩ := left
  obtain ⟨es, digits', value⟩ := right
  rw [digits.length_eq, digits'.length_eq] at same
  have reversed : es.reverse = ds.reverse :=
    Nat.ofDigits_inj_of_len_eq (by decide) (by simp [same]) (lt_of_mem_reverse digits')
      (lt_of_mem_reverse digits) value
  rw [one.eq_map digits, two.eq_map digits', List.reverse_inj.1 reversed]

/-- A canonical numeral has no sign. -/
theorem IsCanonical.spells (canonical : IsCanonical width text) (numeral : IsNumeral 16 text n) :
    Spells 16 text n := by
  cases numeral with
  | unsigned _ spells => exact spells
  | plus =>
    obtain ⟨d, low, sign⟩ := canonical.small '+' List.mem_cons_self
    have value : hexValue? '+' = none := rfl
    exact absurd (sign ▸ value) (hexValue?_digitChar_ne_none low)

/-! ## Written numerals -/

/-- A number other than zero is written without a zero in front. -/
theorem head?_toDigits_ne_zero (positive : n ≠ 0) : (Nat.toDigits 16 n).head? ≠ some '0' := by
  induction n using Nat.strongRecOn with
  | ind n ih =>
    by_cases single : n < 16
    · rw [Nat.toDigits_of_lt_base single]
      have others : ∀ d : Fin 16, d.val ≠ 0 → [Nat.digitChar d].head? ≠ some '0' := by decide
      exact others ⟨n, single⟩ positive
    · have front := ih (n / 16) (by omega) (by omega)
      rwa [Nat.toDigits_of_base_le (by decide) (by omega),
        List.head?_append_of_ne_nil _ Nat.toDigits_ne_nil]

/-- **The written numeral of a number is canonical.** -/
theorem isCanonical_hexDigits (positive : 0 < width) : IsCanonical width (hexDigits width n) where
  small _ := exists_of_mem_hexDigits
  width_le := by
    rw [hexDigits, List.length_leftpad]
    exact Nat.le_max_left _ _
  shortest long := by
    rw [hexDigits, List.length_leftpad] at long
    have wide : width < (Nat.toDigits 16 n).length := by omega
    have nonzero : n ≠ 0 := by
      rintro rfl
      exact absurd wide (Nat.not_lt.2 positive)
    rw [hexDigits, List.leftpad, Nat.sub_eq_zero_of_le wide.le]
    exact head?_toDigits_ne_zero nonzero

theorem spells_hexDigits (positive : 0 < width) : Spells 16 (hexDigits width n) n := by
  have read : read 16 (n + 1) (hexDigits width n) = .ok n := read_hexDigits width n.lt_succ_self
  exact (isCanonical_hexDigits positive).spells
    ((read_eq_ok_iff (by decide) (by decide)).1 read).1

/-- A canonical numeral of a number is as it is written. -/
theorem IsCanonical.eq_hexDigits (canonical : IsCanonical width text) (positive : 0 < width)
    (numeral : IsNumeral 16 text n) : text = hexDigits width n :=
  canonical.eq_of_spells (isCanonical_hexDigits positive) (canonical.spells numeral)
    (spells_hexDigits positive)

end DeviceAtlas.Numeral

namespace DeviceAtlas.Pci.Address

open Numeral

variable {text : String} {part : Component → List Char} {a : Address}

/-! ## Addresses -/

/-- The least width of the written numeral of a component. -/
def Component.width : Component → ℕ
  | .domain => 4
  | .bus | .device => 2
  | .function => 1

/-- A text is put together from canonical numerals. -/
def IsCanonical (text : String) : Prop :=
  ∃ part, IsMadeOf text.toList part ∧ ∀ c, Numeral.IsCanonical c.width (part c)

theorem Component.width_pos (c : Component) : 0 < c.width := by
  cases c <;> decide

/-- A written address is put together from the written numerals of its numbers. -/
theorem isMadeOf_toText (a : Address) :
    IsMadeOf a.toText.toList fun c => hexDigits c.width (a.number c) := by
  rw [toText, String.toList_ofList]
  exact components?_eq_some_iff.1 (components?_toChars a)

theorem isCanonical_toText (a : Address) : IsCanonical a.toText :=
  ⟨_, isMadeOf_toText a, fun c => isCanonical_hexDigits c.width_pos⟩

/-- A text is put together in one way. -/
theorem IsMadeOf.unique {text : List Char} {part part' : Component → List Char}
    (made : IsMadeOf text part) (made' : IsMadeOf text part') : part = part' := by
  have same := (components?_eq_some_iff.2 made).symm.trans (components?_eq_some_iff.2 made')
  simp only [Option.some.injEq, Prod.mk.injEq] at same
  obtain ⟨domain, bus, device, function⟩ := same
  funext c
  cases c <;> assumption

/-- **The text of an address is the canonical one** of the texts that are read as the address. -/
theorem toText_eq_iff (read : parse text = .ok a) : a.toText = text ↔ IsCanonical text := by
  constructor
  · rintro rfl
    exact isCanonical_toText a
  · rintro ⟨part, made, canonical⟩
    cases parse_eq_iff.1 read with
    | @address part' _ made' numerals =>
      obtain rfl := made.unique made'
      have written : part = fun c => hexDigits c.width (a.number c) :=
        funext fun c => (canonical c).eq_hexDigits c.width_pos (numerals c)
      rw [← String.toList_inj, (isMadeOf_toText a).eq, made.eq, written]

/-- **Written addresses are read back, and reading a text settles on one text of the address**: the
canonical one, which is written again from there on. -/
theorem roundtrip_toText :
    (∀ a, parse (toText a) = .ok a) ∧ Function.Injective toText ∧
      ∀ text a, parse text = .ok a → IsCanonical a.toText ∧ parse a.toText = .ok a ∧
        (parse a.toText).map toText = .ok a.toText ∧ (a.toText = text ↔ IsCanonical text) := by
  refine ⟨parse_toText, fun a b same => ?_, fun text a read => ?_⟩
  · have back := (parse_toText a).symm.trans ((congrArg parse same).trans (parse_toText b))
    exact Except.ok.inj back
  · refine ⟨isCanonical_toText a, parse_toText a, ?_, toText_eq_iff read⟩
    rw [parse_toText]
    rfl

example : (parse "+0:0A:01f.+07").map toText = .ok "0000:0a:1f.7" := by decide

end DeviceAtlas.Pci.Address
