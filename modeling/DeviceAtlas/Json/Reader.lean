import DeviceAtlas.Json

/-!
# Reading JSON text

A text holds one value, with white space around it and between its parts. A number is an integer
only if it is spelled as one: a fraction or an exponent makes it a real number, whatever its
value, and so does a minus sign before zero. Of several fields with one name the last counts.

Each reader takes the front of a text and leaves a shorter rest, which is why reading ends.
-/

namespace DeviceAtlas.Json

/-- What was read at the front of a text, and the rest, which is shorter. -/
structure Front (α : Type) (text : List Char) where
  value : α
  rest : List Char
  shorter : rest.length < text.length

namespace Front

variable {α β : Type} {text : List Char}

/-- Another value in the same place. -/
def map (f : α → β) (x : Front α text) : Front β text := { x with value := f x.value }

/-- The same at the front of a text that is no shorter. -/
def widen (x : Front α text) {wider : List Char} (h : text.length ≤ wider.length) :
    Front α wider :=
  ⟨x.value, x.rest, Nat.lt_of_lt_of_le x.shorter h⟩

end Front

/-! ## White space -/

/-- The characters that may stand between the parts of a value. -/
def isSpace (c : Char) : Bool := c = ' ' || c = '\t' || c = '\n' || c = '\r'

/-- The text without the white space in front. -/
def skipSpace (text : List Char) : List Char := text.dropWhile isSpace

theorem length_skipSpace_le (text : List Char) : (skipSpace text).length ≤ text.length :=
  (List.dropWhile_suffix isSpace).length_le

/-- After white space and one more character the rest is shorter. -/
theorem lt_of_skipSpace {c : Char} {text rest : List Char} (h : skipSpace text = c :: rest) :
    rest.length < text.length := by
  have := length_skipSpace_le text
  rw [h, List.length_cons] at this
  omega

/-! ## Numbers -/

/-- The number that decimal digits make up. -/
def digitsValue (digits : List Char) : Nat :=
  digits.foldl (fun n c => 10 * n + (c.toNat - '0'.toNat)) 0

/-- Split a text after its decimal digits, of which there has to be one at least. -/
def digits? (text : List Char) : Option (List Char × List Char) :=
  match text.span Char.isDigit with
  | ([], _) => none
  | parts => some parts

/-- The digits after a point, none if there is no point, and what follows. -/
def fraction? : List Char → Option (List Char × List Char)
  | '.' :: rest => digits? rest
  | rest => some ([], rest)

/-- The whole number, with a sign or without, that takes up all of a text. -/
def signed? (text : List Char) : Option Int := do
  let (negative, unsigned) := match text with
    | '-' :: rest => (true, rest)
    | '+' :: rest => (false, rest)
    | rest => (false, rest)
  let (digits, []) ← digits? unsigned | none
  return if negative then -digitsValue digits else digitsValue digits

/-- The exponent that takes up all of a text, if the text is not empty. -/
def exponent? : List Char → Option (Option Int)
  | [] => some none
  | c :: rest => if c = 'e' ∨ c = 'E' then (signed? rest).map some else none

/-- The number of this spelling. A whole part of several digits does not begin with zero. -/
def number? (spelling : List Char) : Option Json := do
  let (negative, unsigned) := match spelling with
    | '-' :: rest => (true, rest)
    | rest => (false, rest)
  let (whole, rest) ← digits? unsigned
  let (fraction, rest) ← fraction? rest
  let exponent ← exponent? rest
  if 1 < whole.length ∧ whole.head? = some '0' then none
  else
    let size := digitsValue (whole ++ fraction)
    let mantissa : Int := if negative then -size else size
    if fraction.isEmpty ∧ exponent.isNone ∧ ¬ (negative ∧ size = 0) then return .int mantissa
    else return .real mantissa (exponent.getD 0 - fraction.length)

/-- The characters that numbers are spelled with. -/
def isNumberChar (c : Char) : Bool :=
  c.isDigit || c = '-' || c = '+' || c = '.' || c = 'e' || c = 'E'

/-- Read the number that begins with this character. -/
def readNumber (c : Char) (text : List Char) : Option (Front Json (c :: text)) := do
  let value ← number? (c :: text.takeWhile isNumberChar)
  return ⟨value, text.dropWhile isNumberChar,
    Nat.lt_succ_of_le (List.dropWhile_suffix isNumberChar).length_le⟩

/-! ## Words -/

/-- The values that are written as words. -/
def words : List (List Char × Json) :=
  [("null".toList, .null), ("true".toList, .bool true), ("false".toList, .bool false)]

/-- Read the word that begins with this character. -/
def readWord (c : Char) (text : List Char) : Option (Front Json (c :: text)) := do
  let value ← words.lookup (c :: text.takeWhile Char.isAlpha)
  return ⟨value, text.dropWhile Char.isAlpha,
    Nat.lt_succ_of_le (List.dropWhile_suffix Char.isAlpha).length_le⟩

/-! ## Texts -/

/-- The number that four hexadecimal digits make up. -/
def unit? (a b c d : Char) : Option Nat :=
  [a, b, c, d].foldlM (fun n digit => (Numeral.hexValue? digit).map (16 * n + ·)) 0

/-- The characters that one letter after a backslash stands for. -/
def escapes : List (Char × Char) :=
  [('"', '"'), ('\\', '\\'), ('/', '/'), ('b', '\x08'), ('f', '\x0c'), ('n', '\n'), ('r', '\r'),
   ('t', '\t')]

/-- Read four hexadecimal digits after a backslash and a letter. -/
def readUnit : (text : List Char) → Option (Front Nat text)
  | '\\' :: 'u' :: a :: b :: c :: d :: rest => do
    return ⟨← unit? a b c d, rest, by simp only [List.length_cons]; omega⟩
  | _ => none

/-- Read a character by its number. One beyond the first `2 ^ 16` has two units, each of which
stands for nothing alone. -/
def readNumbered (text : List Char) : Option (Front Char text) := do
  let high ← readUnit text
  if high.value < 0xd800 ∨ 0xe000 ≤ high.value then return high.map Char.ofNat
  else
    let low ← readUnit high.rest
    if high.value < 0xdc00 ∧ 0xdc00 ≤ low.value ∧ low.value < 0xe000 then
      let number := 0x10000 + (high.value - 0xd800) * 0x400 + (low.value - 0xdc00)
      return (low.map fun _ => .ofNat number).widen (Nat.le_of_lt high.shorter)
    else none

/-- Read one character of a text between quotes. Control characters have to be escaped. -/
def readChar : (text : List Char) → Option (Front Char text)
  | '\\' :: 'u' :: rest => readNumbered ('\\' :: 'u' :: rest)
  | '\\' :: c :: rest => do
    return ⟨← escapes.lookup c, rest, by simp only [List.length_cons]; omega⟩
  | c :: rest => if c = '\\' ∨ c < ' ' then none else some ⟨c, rest, by simp⟩
  | [] => none

/-- Read characters up to a quote. -/
def readChars (text : List Char) : Option (Front (List Char) text) :=
  match text with
  | '"' :: rest => some ⟨[], rest, by simp⟩
  | text => do
    let c ← readChar text
    let more ← readChars c.rest
    return (more.map (c.value :: ·)).widen (Nat.le_of_lt c.shorter)
termination_by text.length
decreasing_by exact c.shorter

/-! ## Values -/

/-- Put a field before others, unless one of them has its name. -/
def addField (name : String) (value : Json) (others : List (String × Json)) :
    List (String × Json) :=
  if others.any (·.1 = name) then others else (name, value) :: others

mutual

/-- Read a value, which white space may precede. -/
def readValue (text : List Char) : Option (Front Json text) :=
  match h : skipSpace text with
  | '"' :: rest => do
    let chars ← readChars rest
    return (chars.map fun cs => .text (String.ofList cs)).widen (Nat.le_of_lt (lt_of_skipSpace h))
  | '[' :: rest => do
    match h' : skipSpace rest with
    | ']' :: after =>
      return ⟨.list [], after, Nat.lt_trans (lt_of_skipSpace h') (lt_of_skipSpace h)⟩
    | _ =>
      let items ← readItems rest
      return (items.map .list).widen (Nat.le_of_lt (lt_of_skipSpace h))
  | '{' :: rest => do
    match h' : skipSpace rest with
    | '}' :: after =>
      return ⟨.object [], after, Nat.lt_trans (lt_of_skipSpace h') (lt_of_skipSpace h)⟩
    | _ =>
      let fields ← readFields rest
      return (fields.map .object).widen (Nat.le_of_lt (lt_of_skipSpace h))
  | c :: rest => do
    let value ← if c.isAlpha then readWord c rest else readNumber c rest
    return value.widen (h ▸ length_skipSpace_le text)
  | [] => none
termination_by (text.length, 0)
decreasing_by all_goals exact Prod.Lex.left _ _ (lt_of_skipSpace h)

/-- Read items with commas between them, up to the end of the list. -/
def readItems (text : List Char) : Option (Front (List Json) text) := do
  let item ← readValue text
  match h : skipSpace item.rest with
  | ']' :: rest =>
    return ⟨[item.value], rest, Nat.lt_trans (lt_of_skipSpace h) item.shorter⟩
  | ',' :: rest =>
    let more ← readItems rest
    return (more.map (item.value :: ·)).widen
      (Nat.le_of_lt (Nat.lt_trans (lt_of_skipSpace h) item.shorter))
  | _ => none
termination_by (text.length, 1)
decreasing_by
  · exact Prod.Lex.right _ (by omega)
  · exact Prod.Lex.left _ _ (Nat.lt_trans (lt_of_skipSpace h) item.shorter)

/-- Read fields with commas between them, up to the end of the object. -/
def readFields (text : List Char) : Option (Front (List (String × Json)) text) := do
  match h : skipSpace text with
  | '"' :: start =>
    let name ← readChars start
    match h' : skipSpace name.rest with
    | ':' :: start' =>
      let value ← readValue start'
      have inside : value.rest.length < text.length :=
        Nat.lt_trans value.shorter (Nat.lt_trans (lt_of_skipSpace h')
          (Nat.lt_trans name.shorter (lt_of_skipSpace h)))
      match h'' : skipSpace value.rest with
      | '}' :: rest =>
        return ⟨[(String.ofList name.value, value.value)], rest,
          Nat.lt_trans (lt_of_skipSpace h'') inside⟩
      | ',' :: rest =>
        let more ← readFields rest
        return (more.map (addField (String.ofList name.value) value.value)).widen
          (Nat.le_of_lt (Nat.lt_trans (lt_of_skipSpace h'') inside))
      | _ => none
    | _ => none
  | _ => none
termination_by (text.length, 1)
decreasing_by
  · exact Prod.Lex.left _ _ (Nat.lt_trans (lt_of_skipSpace h')
      (Nat.lt_trans name.shorter (lt_of_skipSpace h)))
  · exact Prod.Lex.left _ _ (Nat.lt_trans (lt_of_skipSpace h'') inside)

end

/-- The value that a text holds. -/
def parse (text : String) : Option Json := do
  let value ← readValue text.toList
  if (skipSpace value.rest).isEmpty then return value.value else none

end DeviceAtlas.Json
