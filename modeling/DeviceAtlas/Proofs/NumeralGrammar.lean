import DeviceAtlas.Proofs.Numerals
import Mathlib.Data.List.Forall2
import Mathlib.Data.Nat.Digits.Defs
import Mathlib.Tactic.Ring

/-!
# What is a numeral

A numeral is one or more digits, of which letters may be of either case, and a plus sign may stand
in front. The reader takes exactly the numerals of numbers below its bound: it holds the grown value
against the bound after each digit, and as values only grow, the last one decides.

* `Numeral.digit?_eq_some_iff`: which characters are digits.
* `Numeral.readDigits_eq_ok_iff`: what is read from digits after those that were read before.
* `Numeral.read_eq_ok_iff`: what is read are the numerals of numbers below the bound.
* `Numeral.IsNumeral.unique`: a text is a numeral of one number at most.
-/

namespace DeviceAtlas.Numeral

variable {radix bound value m n d : ℕ} {c : Char} {text : List Char}

/-! ## Digits -/

/-- A digit of a radix of at most sixteen, a letter of either case. -/
def IsDigit (radix : ℕ) (c : Char) (d : ℕ) : Prop :=
  d < radix ∧ (c = Nat.digitChar d ∨ c = (Nat.digitChar d).toUpper)

theorem lt_of_hexValue?_eq_some (h : hexValue? c = some d) : c.toNat < 128 := by
  unfold hexValue? at h
  have last : c.toNat ≤ '9'.toNat ∨ c.toNat ≤ 'f'.toNat ∨ c.toNat ≤ 'F'.toNat := by
    split at h
    · rename_i within
      exact .inl within.2
    · split at h
      · rename_i within
        exact .inr (.inl within.2)
      · split at h
        · rename_i within
          exact .inr (.inr within.2)
        · cases h
  have nine : '9'.toNat = 57 := rfl
  have small : 'f'.toNat = 102 := rfl
  have capital : 'F'.toNat = 70 := rfl
  omega

theorem hexValue?_eq_some_iff :
    hexValue? c = some d ↔ d < 16 ∧ (c = Nat.digitChar d ∨ c = (Nat.digitChar d).toUpper) := by
  constructor
  · intro h
    have all : ∀ i : Fin 128, (hexValue? (Char.ofNat i)).all fun d => d < 16 ∧
        (Char.ofNat i = Nat.digitChar d ∨ Char.ofNat i = (Nat.digitChar d).toUpper) := by
      decide +kernel
    have here := all ⟨c.toNat, lt_of_hexValue?_eq_some h⟩
    simpa [Char.ofNat_toNat, h] using here
  · rintro ⟨small, written⟩
    have all : ∀ d : Fin 16, hexValue? (Nat.digitChar d) = some d.val ∧
        hexValue? (Nat.digitChar d).toUpper = some d.val := by
      decide
    rcases written with rfl | rfl
    · exact (all ⟨d, small⟩).1
    · exact (all ⟨d, small⟩).2

/-- **Digits are those of the radix**, letters of either case. -/
theorem digit?_eq_some_iff (high : radix ≤ 16) : digit? radix c = some d ↔ IsDigit radix c d := by
  rw [digit?, Option.filter_eq_some_iff, hexValue?_eq_some_iff, decide_eq_true_eq, IsDigit]
  constructor
  · rintro ⟨⟨_, written⟩, below⟩
    exact ⟨below, written⟩
  · rintro ⟨below, written⟩
    exact ⟨⟨Nat.lt_of_lt_of_le below high, written⟩, below⟩

/-- What a text of digits stands for starts with what its first one does. -/
theorem forall₂_isDigit_cons_iff (high : radix ≤ 16) (digit : digit? radix c = some d)
    {ds : List ℕ} : List.Forall₂ (IsDigit radix) (c :: text) ds ↔
      ∃ ds', List.Forall₂ (IsDigit radix) text ds' ∧ ds = d :: ds' := by
  constructor
  · intro digits
    obtain ⟨d', ds', first, others, rfl⟩ := List.forall₂_cons_left_iff.1 digits
    rw [(digit?_eq_some_iff high).2 first, Option.some.injEq] at digit
    exact ⟨ds', others, by rw [digit]⟩
  · rintro ⟨ds', others, rfl⟩
    exact .cons ((digit?_eq_some_iff high).1 digit) others

theorem not_forall₂_isDigit_cons (high : radix ≤ 16) (other : digit? radix c = none)
    {ds : List ℕ} : ¬ List.Forall₂ (IsDigit radix) (c :: text) ds := by
  intro digits
  obtain ⟨d, _, first, _⟩ := List.forall₂_cons_left_iff.1 digits
  rw [(digit?_eq_some_iff high).2 first] at other
  cases other

/-! ## Numerals -/

/-- Digits spell a number, the most significant first. -/
def Spells (radix : ℕ) (digits : List Char) (n : ℕ) : Prop :=
  ∃ ds, List.Forall₂ (IsDigit radix) digits ds ∧ Nat.ofDigits radix ds.reverse = n

/-- A numeral of a number is at least one digit, with or without a plus sign in front. -/
inductive IsNumeral (radix : ℕ) : List Char → ℕ → Prop
  | unsigned {digits : List Char} {n : ℕ} (some : digits ≠ []) (spells : Spells radix digits n) :
    IsNumeral radix digits n
  | plus {digits : List Char} {n : ℕ} (some : digits ≠ []) (spells : Spells radix digits n) :
    IsNumeral radix ('+' :: digits) n

/-- A digit that follows what was read makes it a digit longer. -/
theorem horner_cons (radix value d : ℕ) (ds : List ℕ) :
    value * radix ^ (d :: ds).length + Nat.ofDigits radix (d :: ds).reverse =
      (value * radix + d) * radix ^ ds.length + Nat.ofDigits radix ds.reverse := by
  rw [List.reverse_cons, Nat.ofDigits_append, List.length_reverse, Nat.ofDigits_singleton,
    List.length_cons]
  ring

/-- **What is read from digits** is the number that they spell after those that made up the value,
as long as it stays below the bound. -/
theorem readDigits_eq_ok_iff (low : 0 < radix) (high : radix ≤ 16) :
    readDigits radix bound value text = .ok n ↔
      ∃ ds, List.Forall₂ (IsDigit radix) text ds ∧
        n = value * radix ^ ds.length + Nat.ofDigits radix ds.reverse ∧
        (text = [] ∨ n < bound) := by
  induction text generalizing value with
  | nil =>
    rw [readDigits, Except.ok.injEq]
    constructor
    · rintro rfl
      exact ⟨[], .nil, by simp, .inl rfl⟩
    · rintro ⟨ds, digits, rfl, _⟩
      cases digits
      simp
  | cons c rest ih =>
    rw [readDigits]
    cases digit : digit? radix c with
    | none =>
      refine iff_of_false (by simp) ?_
      rintro ⟨_, digits, _⟩
      exact not_forall₂_isDigit_cons high digit digits
    | some d =>
      dsimp only
      by_cases fits : value * radix + d < bound
      · rw [if_pos fits, ih]
        constructor
        · rintro ⟨ds, digits, rfl, small⟩
          refine ⟨d :: ds, (forall₂_isDigit_cons_iff high digit).2 ⟨ds, digits, rfl⟩,
            (horner_cons radix value d ds).symm, .inr ?_⟩
          rcases small with rfl | small
          · cases digits
            simpa using fits
          · exact small
        · rintro ⟨_, digits, rfl, small⟩
          obtain ⟨ds, others, rfl⟩ := (forall₂_isDigit_cons_iff high digit).1 digits
          exact ⟨ds, others, horner_cons radix value d ds,
            .inr (small.resolve_left (List.cons_ne_nil _ _))⟩
      · -- whatever follows, the number is at least as large as what was read
        rw [if_neg fits]
        refine iff_of_false (by simp) ?_
        rintro ⟨_, digits, rfl, small⟩
        obtain ⟨ds, _, rfl⟩ := (forall₂_isDigit_cons_iff high digit).1 digits
        have small := small.resolve_left (List.cons_ne_nil _ _)
        rw [horner_cons] at small
        have positive : 0 < radix ^ ds.length := Nat.pow_pos low
        have le := Nat.le_mul_of_pos_right (value * radix + d) positive
        omega

theorem readDigits_zero_eq_ok_iff (low : 0 < radix) (high : radix ≤ 16) (some : text ≠ []) :
    readDigits radix bound 0 text = .ok n ↔ Spells radix text n ∧ n < bound := by
  rw [readDigits_eq_ok_iff low high, Spells]
  simp only [Nat.zero_mul, Nat.zero_add, some, false_or]
  constructor
  · rintro ⟨ds, digits, rfl, small⟩
    exact ⟨⟨ds, digits, rfl⟩, small⟩
  · rintro ⟨⟨ds, digits, rfl⟩, small⟩
    exact ⟨ds, digits, rfl, small⟩

/-- A plus sign is no digit. -/
theorem not_spells_plus_cons (high : radix ≤ 16) : ¬ Spells radix ('+' :: text) n := by
  rintro ⟨_, digits, _⟩
  have other : digit? radix '+' = none := by
    rw [digit?, show hexValue? '+' = none from rfl, Option.filter_none]
  exact not_forall₂_isDigit_cons high other digits

/-- **What is read are the numerals of numbers below the bound.** -/
theorem read_eq_ok_iff (low : 0 < radix) (high : radix ≤ 16) :
    read radix bound text = .ok n ↔ IsNumeral radix text n ∧ n < bound := by
  unfold read
  split
  · refine iff_of_false (by simp) ?_
    rintro ⟨numeral, _⟩
    cases numeral with
    | unsigned some => exact some rfl
  · refine iff_of_false (by simp) ?_
    rintro ⟨numeral, _⟩
    cases numeral with
    | unsigned _ spells => exact not_spells_plus_cons high spells
    | plus some => exact some rfl
  · rename_i rest alone
    have some : rest ≠ [] := fun none => alone none
    rw [readDigits_zero_eq_ok_iff low high some]
    refine and_congr_left fun _ => ⟨fun spells => .plus some spells, fun numeral => ?_⟩
    cases numeral with
    | unsigned _ spells => exact absurd spells (not_spells_plus_cons high)
    | plus _ spells => exact spells
  · rename_i nonempty _ signed
    rw [readDigits_zero_eq_ok_iff low high nonempty]
    refine and_congr_left fun _ => ⟨fun spells => .unsigned nonempty spells, fun numeral => ?_⟩
    cases numeral with
    | unsigned _ spells => exact spells
    | plus _ spells => exact absurd rfl (signed _)

/-- A text is a numeral of one number at most. -/
theorem IsNumeral.unique (low : 0 < radix) (high : radix ≤ 16) (one : IsNumeral radix text m)
    (two : IsNumeral radix text n) : m = n := by
  have first := (read_eq_ok_iff low high).2 ⟨one, (by omega : m < m + n + 1)⟩
  have second := (read_eq_ok_iff low high).2 ⟨two, (by omega : n < m + n + 1)⟩
  exact Except.ok.inj (first.symm.trans second)

end DeviceAtlas.Numeral
