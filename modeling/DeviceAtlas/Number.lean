/-!
# Numbers

Unsigned numerals in a radix of at most sixteen, and sums of 64-bit numbers that stop at the
largest one instead of starting over.

* `Capped.toNat_add`: the capped sum is the sum or the largest number, whichever is less.
-/

namespace DeviceAtlas

/-! ## Numerals

Reading takes a non-empty run of ASCII digits, with any number of leading zeros and at most one
leading plus sign, and says which of the three ways to be wrong it met first from the left. Writing
gives lower-case hexadecimal digits, padded with zeros to a least width.
-/

/-- The ways a text can fail to be an unsigned numeral below a bound. -/
inductive NumeralError where
  /-- There is no character at all. -/
  | empty
  /-- A character is not a digit of the radix, or a sign stands alone. -/
  | invalidDigit
  /-- The digits read so far exceed the bound. -/
  | tooLarge
  deriving DecidableEq, Repr

/-- What to tell a reader about a bad numeral. -/
def NumeralError.message : NumeralError → String
  | .empty => "cannot parse integer from empty string"
  | .invalidDigit => "invalid digit found in string"
  | .tooLarge => "number too large to fit in target type"

namespace Numeral

/-! ### Reading -/

/-- The number that an ASCII digit or a letter from `a` to `f`, of either case, stands for. -/
def hexValue? (c : Char) : Option Nat :=
  if '0' ≤ c ∧ c ≤ '9' then some (c.toNat - '0'.toNat)
  else if 'a' ≤ c ∧ c ≤ 'f' then some (c.toNat - 'a'.toNat + 10)
  else if 'A' ≤ c ∧ c ≤ 'F' then some (c.toNat - 'A'.toNat + 10)
  else none

/-- The value of a digit, if it is one in this radix. -/
def digit? (radix : Nat) (c : Char) : Option Nat :=
  (hexValue? c).filter (· < radix)

/-- Read digits after those that made up `value`. Each character is first taken as a digit, then
the grown value is held against the bound. -/
def readDigits (radix bound : Nat) : Nat → List Char → Except NumeralError Nat
  | value, [] => .ok value
  | value, c :: rest =>
    match digit? radix c with
    | none => .error .invalidDigit
    | some d =>
      if value * radix + d < bound then readDigits radix bound (value * radix + d) rest
      else .error .tooLarge

/-- Read a numeral below `bound`. One plus sign may lead, but not stand alone. -/
def read (radix bound : Nat) : List Char → Except NumeralError Nat
  | [] => .error .empty
  | ['+'] => .error .invalidDigit
  | '+' :: rest => readDigits radix bound 0 rest
  | text => readDigits radix bound 0 text

/-- Read a decimal numeral below `bound`. -/
def readDecimal (bound : Nat) (text : String) : Except NumeralError Nat :=
  read 10 bound text.toList

/-- Read a hexadecimal numeral below `bound`. -/
def readHex (bound : Nat) (text : String) : Except NumeralError Nat :=
  read 16 bound text.toList

/-! ### Writing -/

/-- Lower-case hexadecimal digits, with zeros in front up to `width` characters. -/
def hexDigits (width n : Nat) : List Char :=
  (Nat.toDigits 16 n).leftpad width '0'

/-- Lower-case hexadecimal text of at least `width` characters. -/
def hex (width n : Nat) : String :=
  String.ofList (hexDigits width n)

@[simp] theorem toList_hex (width n : Nat) : (hex width n).toList = hexDigits width n := by
  simp [hex]

end Numeral

/-! ## Capped sums -/

namespace Capped

/-- The largest number of sixty-four bits. -/
def top : Nat := UInt64.size - 1

/-- The sum, or the largest number if the sum does not fit. -/
def add (a b : UInt64) : UInt64 :=
  if a.toNat + b.toNat ≤ top then a + b else .ofNat top

@[simp] theorem toNat_add (a b : UInt64) : (add a b).toNat = min top (a.toNat + b.toNat) := by
  unfold add
  split
  · rw [UInt64.toNat_add]
    simp only [top, UInt64.size] at *
    omega
  · simp only [top, UInt64.size, UInt64.toNat_ofNat'] at *
    omega

theorem toNat_le_top (a : UInt64) : a.toNat ≤ top := by
  have := a.toNat_lt
  simp only [top, UInt64.size]
  omega

end Capped

end DeviceAtlas
