import DeviceAtlas.Number
import DeviceAtlas.Pci
import Mathlib.Data.Nat.Notation

/-!
# Written numerals are read back

The digits of a number, as they are written, are a numeral of that number.

* `Numeral.read_toDigits`: reading the digits of a number below the bound gives the number.
* `Numeral.read_hexDigits`: the same for hexadecimal digits with zeros in front.
* `Numeral.readDecimal_toString`: the same for decimal texts.
-/

namespace DeviceAtlas.Numeral

/-- A written digit stands for its number. -/
theorem digit?_digitChar {radix d : ℕ} (hd : d < radix) (hr : radix ≤ 16) :
    digit? radix (Nat.digitChar d) = some d := by
  have written : ∀ d : Fin 16, hexValue? (Nat.digitChar d) = some d.val := by decide
  have := written ⟨d, by omega⟩
  simp only at this
  simp [digit?, this, hd]

/-- Reading goes on where it stood. -/
theorem readDigits_append {radix bound value mid : ℕ} {front back : List Char}
    (h : readDigits radix bound value front = .ok mid) :
    readDigits radix bound value (front ++ back) = readDigits radix bound mid back := by
  fun_induction readDigits radix bound value front with
  | case1 => cases h; rfl
  | case2 => cases h
  | case3 value c rest d digit fits ih => simpa [readDigits, digit, fits] using ih h
  | case4 => cases h

variable {radix bound n : ℕ}

/-- The digits of a number are read as the number. -/
theorem readDigits_toDigits (low : 1 < radix) (high : radix ≤ 16) (h : n < bound) :
    readDigits radix bound 0 (Nat.toDigits radix n) = .ok n := by
  induction n using Nat.strongRecOn with
  | ind n ih =>
    by_cases single : n < radix
    · rw [Nat.toDigits_of_lt_base single]
      simp [readDigits, digit?_digitChar single high, h]
    · have smaller : n / radix < n := Nat.div_lt_self (by omega) low
      have digit : n % radix < radix := Nat.mod_lt n (by omega)
      have whole : n / radix * radix + n % radix = n := by
        rw [Nat.mul_comm]
        exact Nat.div_add_mod n radix
      rw [Nat.toDigits_of_base_le low (by omega), readDigits_append (ih _ smaller (by omega))]
      simp [readDigits, digit?_digitChar digit high, whole, h]

/-- All that is written are digits. -/
theorem exists_of_mem_toDigits (low : 1 < radix) (high : radix ≤ 16) {c : Char}
    (written : c ∈ Nat.toDigits radix n) : ∃ d < 16, c = Nat.digitChar d := by
  induction n using Nat.strongRecOn with
  | ind n ih =>
    by_cases single : n < radix
    · rw [Nat.toDigits_of_lt_base single, List.mem_singleton] at written
      exact ⟨n, by omega, written⟩
    · have digit : n % radix < radix := Nat.mod_lt n (by omega)
      have smaller : n / radix < n := Nat.div_lt_self (by omega) low
      rw [Nat.toDigits_of_base_le low (by omega), List.mem_append, List.mem_singleton] at written
      rcases written with front | last
      · exact ih _ smaller front
      · exact ⟨n % radix, by omega, last⟩

theorem hexValue?_digitChar_ne_none {d : ℕ} (small : d < 16) :
    hexValue? (Nat.digitChar d) ≠ none := by
  intro other
  have digit := digit?_digitChar small (Nat.le_refl 16)
  rw [digit?, other] at digit
  cases digit

/-- A character that is no digit is not among the digits of a number. -/
theorem not_mem_toDigits (low : 1 < radix) (high : radix ≤ 16) {c : Char}
    (other : hexValue? c = none) : c ∉ Nat.toDigits radix n := by
  intro written
  obtain ⟨d, small, rfl⟩ := exists_of_mem_toDigits low high written
  exact hexValue?_digitChar_ne_none small other

/-- Where there is no sign, all that is read are digits. -/
theorem read_eq_readDigits {text : List Char} (some : text ≠ []) (unsigned : '+' ∉ text) :
    read radix bound text = readDigits radix bound 0 text := by
  unfold read
  split
  · exact absurd rfl some
  · exact absurd (List.mem_singleton_self _) unsigned
  · exact absurd List.mem_cons_self unsigned
  · rfl

/-- **The digits of a number below the bound are a numeral of it.** -/
theorem read_toDigits (low : 1 < radix) (high : radix ≤ 16) (h : n < bound) :
    read radix bound (Nat.toDigits radix n) = .ok n := by
  rw [read_eq_readDigits Nat.toDigits_ne_nil (not_mem_toDigits low high rfl),
    readDigits_toDigits low high h]

/-! ## Hexadecimal numerals -/

theorem exists_of_mem_hexDigits {width : ℕ} {c : Char} (written : c ∈ hexDigits width n) :
    ∃ d < 16, c = Nat.digitChar d := by
  rcases List.mem_append.1 written with zero | digit
  · exact ⟨0, by decide, List.eq_of_mem_replicate zero⟩
  · exact exists_of_mem_toDigits (by decide) (by decide) digit

theorem not_mem_hexDigits {width : ℕ} {c : Char} (other : hexValue? c = none) :
    c ∉ hexDigits width n := by
  intro written
  obtain ⟨d, small, rfl⟩ := exists_of_mem_hexDigits written
  exact hexValue?_digitChar_ne_none small other

/-- Zeros in front do not count. -/
theorem readDigits_replicate_zero (positive : 0 < bound) (k : ℕ) :
    readDigits 16 bound 0 (List.replicate k '0') = .ok 0 := by
  induction k with
  | zero => rfl
  | succ k ih =>
    have zero : digit? 16 '0' = some 0 := rfl
    rw [List.replicate_succ, readDigits, zero]
    simpa [positive] using ih

/-- A number written in hexadecimal is read back, whatever the least width. -/
theorem read_hexDigits (width : ℕ) (h : n < bound) :
    read 16 bound (hexDigits width n) = .ok n := by
  have some : hexDigits width n ≠ [] := fun none =>
    Nat.toDigits_ne_nil (List.append_eq_nil_iff.1 none).2
  rw [read_eq_readDigits some (not_mem_hexDigits rfl), hexDigits, List.leftpad,
    readDigits_append (readDigits_replicate_zero (by omega) _),
    readDigits_toDigits (by decide) (by decide) h]

/-! ## Decimal numerals -/

/-- A number written in decimal is read back. -/
theorem readDecimal_toString (h : n < bound) : readDecimal bound (toString n) = .ok n := by
  have listed : (toString n).toList = Nat.toDigits 10 n := Nat.toList_repr
  rw [readDecimal, listed, read_toDigits (by decide) (by decide) h]

/-- Different numbers are written differently. -/
theorem toString_inj {m n : ℕ} (h : toString m = toString n) : m = n := by
  have left : readDecimal (m + n + 1) (toString m) = .ok m := readDecimal_toString (by omega)
  have right : readDecimal (m + n + 1) (toString n) = .ok n := readDecimal_toString (by omega)
  rw [h, right] at left
  cases left
  rfl

/-- A number is written without a dot. -/
theorem dot_not_mem_toString (n : ℕ) : '.' ∉ (toString n).toList := by
  have listed : (toString n).toList = Nat.toDigits 10 n := Nat.toList_repr
  intro dot
  rw [listed] at dot
  exact absurd (Nat.isDigit_of_mem_toDigits (by decide) (by decide) dot) (by decide)

end DeviceAtlas.Numeral

namespace DeviceAtlas.Pci

/-! ## Addresses and vendors

The components of a written address are hexadecimal digits, which neither a colon nor a dot is, so
that the text is split where it was put together. Each component is read back as the number that was
written, and the numbers of an address are in their ranges.
-/

open Numeral

/-- **A written vendor is read back.** -/
theorem VendorId.parse_toText (v : VendorId) : parse v.toText = .ok v := by
  have fits : v.value.toNat < UInt16.size := v.value.toNat_lt
  rw [parse, readHex, toText, toList_hex, read_hexDigits 4 fits]
  simp [Except.map]

namespace Address

/-- The components of a written address are found again. -/
theorem components?_toChars (a : Address) :
    components? a.toChars = some (hexDigits 4 a.domain.toNat, hexDigits 2 a.bus.toNat,
      hexDigits 2 a.device.val, hexDigits 1 a.function.val) := by
  have colon : ∀ width n, ':' ∉ hexDigits width n := fun _ _ => not_mem_hexDigits rfl
  have dot : ∀ width n, '.' ∉ hexDigits width n := fun _ _ => not_mem_hexDigits rfl
  simp only [components?, toChars, Text.splitFirst_append _ (colon _ _),
    Text.splitFirst_append _ (dot _ _), bind, Option.bind, pure]

/-- The numbers of an address make it up. -/
theorem make_toNat (a : Address) :
    make (.ofNat a.domain.toNat) (.ofNat a.bus.toNat) (.ofNat a.device.val)
      (.ofNat a.function.val) = .ok a := by
  have hd := a.device.isLt
  have hf := a.function.isLt
  have device : (UInt8.ofNat a.device.val).toNat = a.device.val :=
    UInt8.toNat_ofNat_of_lt' (by simp only [UInt8.size]; omega)
  have function : (UInt8.ofNat a.function.val).toNat = a.function.val :=
    UInt8.toNat_ofNat_of_lt' (by simp only [UInt8.size]; omega)
  simp [make, device, function, hd, hf]

/-- **A written address is read back.** -/
theorem parse_toText (a : Address) : parse a.toText = .ok a := by
  have domain : read 16 UInt32.size (hexDigits 4 a.domain.toNat) = .ok a.domain.toNat :=
    read_hexDigits 4 a.domain.toNat_lt
  have bus : read 16 UInt8.size (hexDigits 2 a.bus.toNat) = .ok a.bus.toNat :=
    read_hexDigits 2 a.bus.toNat_lt
  have device : read 16 UInt8.size (hexDigits 2 a.device.val) = .ok a.device.val :=
    read_hexDigits 2 (Nat.lt_trans a.device.isLt (by decide))
  have function : read 16 UInt8.size (hexDigits 1 a.function.val) = .ok a.function.val :=
    read_hexDigits 1 (Nat.lt_trans a.function.isLt (by decide))
  rw [parse, toText, String.toList_ofList, components?_toChars]
  simp only [domain, bus, device, function]
  exact make_toNat a

end Address

end DeviceAtlas.Pci
