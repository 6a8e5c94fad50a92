import DeviceAtlas.Number

/-!
# JSON values

A value tree with exact integers. Readers answer `none` for a value of another kind; fields of an
object are looked up by name, and those that nobody asks for are ignored. A record may also be
written as the list of its fields.
-/

namespace DeviceAtlas

/-- A JSON value. Real numbers are kept apart from the integers, whatever their value. -/
inductive Json where
  | null
  | bool (value : Bool)
  | int (value : Int)
  /-- The number `mantissa * 10 ^ exponent`, not spelled as an integer. -/
  | real (mantissa exponent : Int)
  | text (value : String)
  | list (items : List Json)
  | object (fields : List (String × Json))

namespace Json

instance : Inhabited Json := ⟨null⟩

/-! ## Writing -/

/-- A natural number. -/
def ofNat (n : Nat) : Json := .int n

/-- The value, or null when there is none. -/
def ofOption {α : Type} (write : α → Json) : Option α → Json
  | none => .null
  | some a => write a

/-- A list of values. -/
def ofList {α : Type} (write : α → Json) (items : List α) : Json :=
  .list (items.map write)

/-- A field that is left out when there is no value. -/
def optionalField {α : Type} (name : String) (write : α → Json) (value : Option α) :
    List (String × Json) :=
  (value.map fun a => (name, write a)).toList

/-! ## Reading -/

/-- The boolean. -/
def bool? : Json → Option Bool
  | .bool b => some b
  | _ => none

/-- The text. -/
def text? : Json → Option String
  | .text s => some s
  | _ => none

/-- The items of a list. -/
def list? : Json → Option (List Json)
  | .list items => some items
  | _ => none

/-- The fields of an object. -/
def fields? : Json → Option (List (String × Json))
  | .object fields => some fields
  | _ => none

/-- An integer from `low` up to but not including `high`. -/
def int? (low high : Int) : Json → Option Int
  | .int n => if low ≤ n ∧ n < high then some n else none
  | _ => none

/-- A natural number below `bound`. -/
def nat? (bound : Nat) (j : Json) : Option Nat :=
  (j.int? 0 bound).map Int.toNat

/-- A number of eight bits. -/
def uint8? (j : Json) : Option UInt8 := (j.nat? UInt8.size).map UInt8.ofNat

/-- A number of sixteen bits. -/
def uint16? (j : Json) : Option UInt16 := (j.nat? UInt16.size).map UInt16.ofNat

/-- A number of thirty-two bits. -/
def uint32? (j : Json) : Option UInt32 := (j.nat? UInt32.size).map UInt32.ofNat

/-- A number of sixty-four bits. -/
def uint64? (j : Json) : Option UInt64 := (j.nat? UInt64.size).map UInt64.ofNat

/-- The field of this name, in an object that has it. -/
def field? (name : String) : Json → Option Json
  | .object fields => fields.lookup name
  | _ => none

/-- Read a field that has to be there. -/
def required {α : Type} (name : String) (read : Json → Option α) (j : Json) : Option α :=
  (j.field? name).bind read

/-- Read a field that may be missing or null. -/
def optional {α : Type} (name : String) (read : Json → Option α) (j : Json) : Option (Option α) :=
  match j.field? name with
  | none | some .null => some none
  | some value => (read value).map some

/-- Read a field that stands for `default` when it is missing. -/
def withDefault {α : Type} (name : String) (default : α) (read : Json → Option α) (j : Json) :
    Option α :=
  match j.field? name with
  | none => some default
  | some value => read value

/-- Read every item of a list. -/
def listOf? {α : Type} (read : Json → Option α) (j : Json) : Option (List α) :=
  j.list?.bind (·.mapM read)

/-! ## Records -/

/-- A record is written as an object, or as the list of its fields in their order. This is the
object; a list has to have at least the first `needed` fields. -/
def record (names : List String) (needed : Nat) : Json → Json
  | .list items =>
    if needed ≤ items.length ∧ items.length ≤ names.length then .object (names.zip items)
    else .null
  | j => j

@[simp] theorem record_object (names : List String) (needed : Nat)
    (fields : List (String × Json)) : record names needed (.object fields) = .object fields :=
  rfl

/-- The tag that says which record follows, and the record. In a list the tag stands first. -/
def tagged? (name : String) : Json → Option (Json × Json)
  | .list (tag :: items) => some (tag, .list items)
  | .object fields => (fields.lookup name).map fun tag => (tag, .object fields)
  | _ => none

/-! ## Size -/

/-- What is found under a name stands there. -/
theorem mem_of_lookup {name : String} {fields : List (String × Json)} {value : Json}
    (h : fields.lookup name = some value) : (name, value) ∈ fields := by
  induction fields with
  | nil => simp at h
  | cons entry rest ih =>
    rw [List.lookup_cons] at h
    split at h
    · rename_i eq
      cases h
      simp [eq_of_beq eq]
    · exact List.mem_cons_of_mem entry (ih h)

/-- A field's value is smaller than the object around it. -/
theorem sizeOf_lt_of_field? {name : String} {j value : Json} (h : j.field? name = some value) :
    sizeOf value < sizeOf j := by
  cases j with
  | object fields =>
    have := List.sizeOf_lt_of_mem (mem_of_lookup h)
    simp only [Prod.mk.sizeOf_spec, object.sizeOf_spec] at this ⊢
    omega
  | _ => simp [field?] at h

/-- A field's value is smaller than the record around it, however that is written. -/
theorem sizeOf_lt_of_field?_record {names : List String} {needed : Nat} {name : String}
    {j value : Json} (h : (j.record names needed).field? name = some value) :
    sizeOf value < sizeOf j := by
  unfold record at h
  split at h
  · rename_i items
    split at h
    · have := List.sizeOf_lt_of_mem (List.of_mem_zip (mem_of_lookup h)).2
      simp only [list.sizeOf_spec]
      omega
    · simp [field?] at h
  · exact sizeOf_lt_of_field? h

/-- An item is smaller than the list around it. -/
theorem sizeOf_lt_of_mem_list {items : List Json} {item : Json} (h : item ∈ items) :
    sizeOf item < sizeOf (Json.list items) := by
  have := List.sizeOf_lt_of_mem h
  simp only [list.sizeOf_spec]
  omega

end Json

end DeviceAtlas
