import DeviceAtlas.Json
import Mathlib.Data.Nat.Notation

/-!
# Written records are read back

A field is found in a record as it was written, or not at all if it was left out. What is read from
the field is then the value that was written, or what stands for a missing one.

* `Json.nat?_ofNat`, `Json.listOf?_ofList`: numbers and lists are read back.
* `Json.eq_of_write_eq`: what is read back is known by what is written.
* `Json.lookup_optionalField`, `Json.field?_object`: which fields are found.
* `Json.required_of_field?`, `Json.optional_of_field?`, `Json.withDefault_of_field?`: what is read
  from a field that was written.
-/

namespace DeviceAtlas.Json

variable {α : Type} {write : α → Json} {read : Json → Option α} {name : String} {j : Json}

/-! ## Values -/

/-- A number below the bound is read back. -/
theorem nat?_ofNat {bound n : ℕ} (small : n < bound) : (ofNat n).nat? bound = some n := by
  have range : (0 : Int) ≤ n ∧ (n : Int) < bound := by omega
  rw [ofNat, nat?, int?, if_pos range, Option.map_some, Int.toNat_natCast]

@[simp] theorem uint8?_ofNat (n : UInt8) : (ofNat n.toNat).uint8? = some n := by
  rw [uint8?, nat?_ofNat n.toNat_lt, Option.map_some, UInt8.ofNat_toNat]

@[simp] theorem uint16?_ofNat (n : UInt16) : (ofNat n.toNat).uint16? = some n := by
  rw [uint16?, nat?_ofNat n.toNat_lt, Option.map_some, UInt16.ofNat_toNat]

@[simp] theorem uint32?_ofNat (n : UInt32) : (ofNat n.toNat).uint32? = some n := by
  rw [uint32?, nat?_ofNat n.toNat_lt, Option.map_some, UInt32.ofNat_toNat]

@[simp] theorem uint64?_ofNat (n : UInt64) : (ofNat n.toNat).uint64? = some n := by
  rw [uint64?, nat?_ofNat n.toNat_lt, Option.map_some, UInt64.ofNat_toNat]

/-- Items that are read back one by one are read back together. -/
theorem mapM_map {β : Type} {write : α → β} {read : β → Option α} {items : List α}
    (h : ∀ a ∈ items, read (write a) = some a) : (items.map write).mapM read = some items := by
  induction items with
  | nil => rfl
  | cons a rest ih =>
    rw [List.map_cons, List.mapM_cons, h a List.mem_cons_self,
      ih fun b listed => h b (List.mem_cons_of_mem _ listed)]
    rfl

/-- A list is read back if its items are. -/
theorem listOf?_ofList {items : List α} (h : ∀ a ∈ items, read (write a) = some a) :
    (ofList write items).listOf? read = some items :=
  mapM_map h

/-- What is read back is known by what is written of it. -/
theorem eq_of_write_eq {a b : α} (ha : read (write a) = some a) (hb : read (write b) = some b)
    (same : write a = write b) : a = b := by
  rw [same, hb] at ha
  exact (Option.some.inj ha).symm

/-! ## Fields -/

@[simp] theorem field?_object (name : String) (fields : List (String × Json)) :
    (object fields).field? name = fields.lookup name := rfl

/-- A field that may be left out is found under its name, if it was written. -/
@[simp] theorem lookup_optionalField (key name : String) (write : α → Json) (value : Option α) :
    (optionalField name write value).lookup key =
      if key = name then value.map write else none := by
  cases value with
  | none => simp [optionalField]
  | some a =>
    by_cases same : key = name
    · simp [optionalField, same]
    · simp [optionalField, List.lookup_cons, same, beq_false_of_ne same]

@[simp] theorem lookup_cons_eq (key name : String) (value : Json) (rest : List (String × Json)) :
    List.lookup key ((name, value) :: rest) =
      if key = name then some value else rest.lookup key := by
  by_cases same : key = name
  · simp [same]
  · simp [List.lookup_cons, same, beq_false_of_ne same]

/-- A field that is only written under a condition is only found then. -/
@[simp] theorem lookup_ite (key : String) {condition : Prop} [Decidable condition]
    (fields : List (String × Json)) :
    List.lookup key (if condition then [] else fields) =
      if condition then none else fields.lookup key := by
  split <;> rfl

/-- A field that was written is read back. -/
theorem required_of_field? {value : Json} {a : α} (found : j.field? name = some value)
    (h : read value = some a) : j.required name read = some a := by
  rw [required, found, Option.bind_some, h]

/-- A field that may be left out is read back, as long as no value is written as null. -/
theorem optional_of_field? (write : α → Json) {value : Option α}
    (found : j.field? name = value.map write)
    (h : ∀ a, read (write a) = some a) (some : ∀ a, write a ≠ .null) :
    j.optional name read = .some value := by
  unfold optional
  cases value with
  | none =>
    rw [found]
    rfl
  | some a =>
    rw [found, Option.map_some]
    split
    · rename_i absent
      cases absent
    · rename_i null
      exact absurd (Option.some.inj null) (some a)
    · rename_i written
      cases written
      rw [h, Option.map_some]

theorem optional_uint64?_of_field? {value : Option UInt64}
    (found : j.field? name = value.map fun n => ofNat n.toNat) :
    j.optional name uint64? = some value :=
  optional_of_field? _ found (by simp) (by simp [ofNat])

theorem optional_text?_of_field? {value : Option String}
    (found : j.field? name = value.map text) : j.optional name text? = some value :=
  optional_of_field? text found (fun _ => rfl) (by simp)

/-- A field that is only left out for the default is read back. -/
theorem withDefault_of_field? {value : Json} {a default : α}
    (found : j.field? name = some value ∨ j.field? name = none ∧ a = default)
    (h : read value = some a) : j.withDefault name default read = some a := by
  unfold withDefault
  rcases found with written | ⟨absent, rfl⟩
  · rw [written]
    exact h
  · rw [absent]

end DeviceAtlas.Json
