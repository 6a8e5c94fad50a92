import DeviceAtlas.Number

/-!
# Texts

Trimming white space, splitting at a separator, and masks of named bits.

* `Text.splitFirst_append`, `Text.splitFirst_eq_some`: the parts of a split text are those before
  and after the first separator.
* `Text.splitFirst_eq_none_iff`: there are no parts exactly when the separator does not occur.
-/

namespace DeviceAtlas

/-! ## White space -/

namespace Text

/-- The ranges of the property `White_Space`, first and last code point each. -/
def blankRanges : List (Nat × Nat) :=
  [(0x0009, 0x000d), (0x0020, 0x0020), (0x0085, 0x0085), (0x00a0, 0x00a0), (0x1680, 0x1680),
   (0x2000, 0x200a), (0x2028, 0x2029), (0x202f, 0x202f), (0x205f, 0x205f), (0x3000, 0x3000)]

/-- Whether a character is white space. -/
def isBlank (c : Char) : Bool :=
  blankRanges.any fun (first, last) => first ≤ c.toNat && c.toNat ≤ last

/-- The text without the white space at its two ends. -/
def trim (text : List Char) : List Char :=
  ((text.dropWhile isBlank).reverse.dropWhile isBlank).reverse

/-! ## Splitting

A text is split at the first occurrence of a separator, which is lost.
-/

/-- What stands before and after the first separator, if there is one. -/
def splitFirst (separator : Char) : List Char → Option (List Char × List Char)
  | [] => none
  | c :: rest =>
    if c = separator then some ([], rest)
    else (splitFirst separator rest).map fun (before, after) => (c :: before, after)

/-- A separator after a part without one is where the text is split. -/
@[simp] theorem splitFirst_append {separator : Char} {before : List Char} (after : List Char)
    (h : separator ∉ before) :
    splitFirst separator (before ++ separator :: after) = some (before, after) := by
  induction before with
  | nil => simp [splitFirst]
  | cons c before ih =>
    simp only [List.mem_cons, not_or] at h
    simp [splitFirst, Ne.symm h.1, ih h.2]

/-- There is nothing to split at exactly when the separator does not occur. -/
theorem splitFirst_eq_none_iff {separator : Char} {text : List Char} :
    splitFirst separator text = none ↔ separator ∉ text := by
  induction text with
  | nil => simp [splitFirst]
  | cons c rest ih =>
    by_cases h : c = separator
    · simp [splitFirst, h]
    · simp [splitFirst, h, ih, Ne.symm h]

/-- The two parts and the separator make up the text, and the first part is free of it. -/
theorem splitFirst_eq_some {separator : Char} {text before after : List Char}
    (h : splitFirst separator text = some (before, after)) :
    text = before ++ separator :: after ∧ separator ∉ before := by
  induction text generalizing before with
  | nil => simp [splitFirst] at h
  | cons c rest ih =>
    by_cases hc : c = separator
    · simp only [splitFirst, hc, ↓reduceIte, Option.some.injEq, Prod.mk.injEq] at h
      obtain ⟨rfl, rfl⟩ := h
      simp [hc]
    · simp only [splitFirst, hc, ↓reduceIte, Option.map_eq_some_iff, Prod.mk.injEq] at h
      obtain ⟨⟨b, a⟩, hb, rfl, rfl⟩ := h
      obtain ⟨rfl, hn⟩ := ih hb
      simp [Ne.symm hc, hn]

end Text

/-! ## Masks of named bits

A mask of thirty-two bits is written as the names of its set bits, in the order of the table,
followed by the bits without a name as one hexadecimal number; bars stand between the parts. The
reader takes parts in any order, each a name of the table or a hexadecimal number after `0x`, with
white space around them.
-/

/-- The names of the bits of one family of masks. -/
structure NamedBits where
  /-- What masks of this family are called. -/
  family : String
  /-- The names, each with the bits it stands for. -/
  names : List (String × UInt32)

namespace NamedBits

variable (table : NamedBits)

/-- All bits that have a name. -/
def known : UInt32 :=
  table.names.foldl (fun mask entry => mask ||| entry.2) 0

/-- The names of the bits that are set, in the order of the table. -/
def setNames (mask : UInt32) : List String :=
  (table.names.filter fun entry => mask &&& entry.2 = entry.2).map (·.1)

/-- The parts of the written mask: names, then the bits without a name if there are any. -/
def parts (mask : UInt32) : List String :=
  let rest := mask &&& ~~~table.known
  table.setNames mask ++ if rest = 0 then [] else ["0x" ++ Numeral.hex 0 rest.toNat]

/-- The written mask, empty when no bit is set. -/
def text (mask : UInt32) : String :=
  " | ".intercalate (table.parts mask)

/-- The written mask under the name of its family, for messages. -/
def describe (mask : UInt32) : String :=
  table.family ++ "(" ++ (if mask = 0 then "0x0" else table.text mask) ++ ")"

/-- The bits that one part stands for: a hexadecimal number after `0x`, else an exact name. -/
def readPart : List Char → Option UInt32
  | '0' :: 'x' :: digits => (Numeral.read 16 UInt32.size digits).toOption.map UInt32.ofNat
  | part => (table.names.find? (·.1.toList = part)).map (·.2)

/-- Read a written mask. A blank text is the empty mask; else every part between bars counts. -/
def read (written : String) : Option UInt32 :=
  match Text.trim written.toList with
  | [] => some 0
  | body => (body.splitOn '|').foldlM
      (fun mask part => (table.readPart (Text.trim part)).map (mask ||| ·)) 0

end NamedBits

end DeviceAtlas
