import DeviceAtlas.Proofs.NumeralGrammar
import DeviceAtlas.Proofs.Numerals

/-!
# What is an address

The text of an address is put together from four hexadecimal numerals, with colons after the domain
and the bus and a dot after the device. It is split at the first colon, the next one and the first
dot after that, so that further colons may only stand in the last two parts and further dots in all
but the device. What is not an address is refused for its shape, else for the first part that is no
numeral of its width, and else for the range of the device or the function.

* `Pci.Address.components?_eq_some_iff`, `Pci.Address.components?_eq_none_iff`: how a text is split.
* `Pci.Address.Reading`: what a text says as an address.
* `Pci.Address.parse_eq_iff`: what is read is what the text says.
-/

namespace DeviceAtlas.Pci.Address

open Numeral

variable {text : List Char} {part : Component → List Char}

/-! ## Shape -/

/-- A text is put together from the texts of the components. -/
structure IsMadeOf (text : List Char) (part : Component → List Char) : Prop where
  eq : text = part .domain ++ ':' :: (part .bus ++ ':' :: (part .device ++ '.' :: part .function))
  domain : ':' ∉ part .domain
  bus : ':' ∉ part .bus
  device : '.' ∉ part .device

/-- A text has fewer than two colons, or no dot after the second. -/
def IsMalformed (text : List Char) : Prop :=
  text.count ':' < 2 ∨ ∃ domain bus rest, text = domain ++ ':' :: (bus ++ ':' :: rest) ∧
    ':' ∉ domain ∧ ':' ∉ bus ∧ '.' ∉ rest

/-- **The parts of a text** are those that it is made of. -/
theorem components?_eq_some_iff :
    components? text = some (part .domain, part .bus, part .device, part .function) ↔
      IsMadeOf text part := by
  constructor
  · intro found
    obtain ⟨⟨domain, rest⟩, first, found⟩ := Option.bind_eq_some_iff.1 found
    obtain ⟨⟨bus, rest'⟩, second, found⟩ := Option.bind_eq_some_iff.1 found
    obtain ⟨⟨device, function⟩, third, found⟩ := Option.bind_eq_some_iff.1 found
    simp only [pure, Option.some.injEq, Prod.mk.injEq] at found
    obtain ⟨rfl, rfl, rfl, rfl⟩ := found
    obtain ⟨rfl, noColon⟩ := Text.splitFirst_eq_some first
    obtain ⟨rfl, noColon'⟩ := Text.splitFirst_eq_some second
    obtain ⟨rfl, noDot⟩ := Text.splitFirst_eq_some third
    exact ⟨rfl, noColon, noColon', noDot⟩
  · rintro ⟨rfl, domain, bus, device⟩
    simp only [components?, Text.splitFirst_append _ domain, Text.splitFirst_append _ bus,
      Text.splitFirst_append _ device, bind, Option.bind, pure]

/-- The parts of a text, if there are any. -/
theorem exists_isMadeOf (found : components? text ≠ none) : ∃ part, IsMadeOf text part := by
  obtain ⟨⟨domain, bus, device, function⟩, found⟩ := Option.ne_none_iff_exists'.1 found
  refine ⟨fun c => ?_, components?_eq_some_iff.1 ?_⟩
  · cases c with
    | domain => exact domain
    | bus => exact bus
    | device => exact device
    | function => exact function
  · exact found

/-- **A text without parts** is malformed. -/
theorem components?_eq_none_iff : components? text = none ↔ IsMalformed text := by
  have absent : ∀ {part : List Char}, ':' ∉ part → part.count ':' = 0 :=
    fun free => List.count_eq_zero.2 free
  constructor
  · intro nothing
    cases first : Text.splitFirst ':' text with
    | none =>
      refine .inl ?_
      rw [absent (Text.splitFirst_eq_none_iff.1 first)]
      decide
    | some parts =>
      obtain ⟨domain, rest⟩ := parts
      obtain ⟨rfl, noColon⟩ := Text.splitFirst_eq_some first
      cases second : Text.splitFirst ':' rest with
      | none =>
        refine .inl ?_
        rw [List.count_append, List.count_cons_self, absent noColon,
          absent (Text.splitFirst_eq_none_iff.1 second)]
        decide
      | some parts =>
        obtain ⟨bus, rest'⟩ := parts
        obtain ⟨rfl, noColon'⟩ := Text.splitFirst_eq_some second
        refine .inr ⟨domain, bus, rest', rfl, noColon, noColon', ?_⟩
        rw [← Text.splitFirst_eq_none_iff]
        cases third : Text.splitFirst '.' rest' with
        | none => rfl
        | some parts => simp [components?, first, second, third] at nothing
  · intro malformed
    by_contra found
    obtain ⟨part, made⟩ := exists_isMadeOf found
    rcases malformed with few | ⟨domain, bus, rest, split, noColon, noColon', noDot⟩
    · -- there are two colons at least
      rw [made.eq] at few
      simp only [List.count_append, List.count_cons_self] at few
      omega
    · -- the parts before the second colon are the same, so that there is no third
      refine found ?_
      rw [split, components?, Text.splitFirst_append _ noColon]
      simp [Text.splitFirst_append _ noColon', Text.splitFirst_eq_none_iff.2 noDot]

theorem isMalformed_or_isMadeOf (text : List Char) :
    IsMalformed text ∨ ∃ part, IsMadeOf text part := by
  by_cases found : components? text = none
  · exact .inl (components?_eq_none_iff.1 found)
  · exact .inr (exists_isMadeOf found)

/-! ## Numbers -/

/-- The bound of the numerals of a component. -/
def Component.bound : Component → ℕ
  | .domain => 2 ^ 32
  | _ => 2 ^ 8

/-- The components that are looked at before a component. -/
def Component.before : Component → List Component
  | .domain => []
  | .bus => [.domain]
  | .device => [.domain, .bus]
  | .function => [.domain, .bus, .device]

/-- The number of a component in an address. -/
def number (a : Address) : Component → ℕ
  | .domain => a.domain.toNat
  | .bus => a.bus.toNat
  | .device => a.device
  | .function => a.function

/-- The part for a component is a hexadecimal numeral of a number of its width. -/
def Fits (part : Component → List Char) (c : Component) (n : ℕ) : Prop :=
  IsNumeral 16 (part c) n ∧ n < c.bound

theorem number_lt_bound (a : Address) (c : Component) : a.number c < c.bound := by
  cases c with
  | domain => exact a.domain.toNat_lt
  | bus => exact a.bus.toNat_lt
  | device => exact Nat.lt_trans a.device.isLt (by decide)
  | function => exact Nat.lt_trans a.function.isLt (by decide)

theorem Fits.toNat_ofNat {c : Component} {n : ℕ} (fits : Fits part c n)
    (narrow : c.bound = UInt8.size) : (UInt8.ofNat n).toNat = n :=
  UInt8.toNat_ofNat_of_lt' (narrow ▸ fits.2)

/-- What holds of some components but not of all fails first at one of them. -/
theorem Component.forall_or_first (p : Component → Prop) :
    (∀ c, p c) ∨ ∃ c, ¬ p c ∧ ∀ c' ∈ c.before, p c' := by
  by_cases domain : p .domain
  · by_cases bus : p .bus
    · by_cases device : p .device
      · by_cases function : p .function
        · left
          rintro (_ | _ | _ | _) <;> assumption
        · exact .inr ⟨.function, function, by simp [before, domain, bus, device]⟩
      · exact .inr ⟨.device, device, by simp [before, domain, bus]⟩
    · exact .inr ⟨.bus, bus, by simp [before, domain]⟩
  · exact .inr ⟨.domain, domain, by simp [before]⟩

/-! ## Reading -/

/-- What a text says as an address. -/
inductive Reading (text : String) : Except AddressError Address → Prop
  /-- Four numerals of numbers in their ranges say the address of these numbers. -/
  | address {part : Component → List Char} {a : Address} (made : IsMadeOf text.toList part)
    (numerals : ∀ c, IsNumeral 16 (part c) (a.number c)) : Reading text (.ok a)
  | malformed (shape : IsMalformed text.toList) : Reading text (.error (.malformed text))
  /-- The first part that is no numeral of its width. -/
  | badComponent {part : Component → List Char} {c : Component}
    (made : IsMadeOf text.toList part) (bad : ¬ ∃ n, Fits part c n)
    (before : ∀ c' ∈ c.before, ∃ n, Fits part c' n) :
    Reading text (.error (.badComponent c text))
  | deviceTooLarge {part : Component → List Char} {value : Component → ℕ} {device : UInt8}
    (made : IsMadeOf text.toList part) (fits : ∀ c, Fits part c (value c))
    (told : device.toNat = value .device) (large : 0x1f < value .device) :
    Reading text (.error (.deviceTooLarge device))
  | functionTooLarge {part : Component → List Char} {value : Component → ℕ} {function : UInt8}
    (made : IsMadeOf text.toList part) (fits : ∀ c, Fits part c (value c))
    (small : value .device ≤ 0x1f) (told : function.toNat = value .function)
    (large : 7 < value .function) : Reading text (.error (.functionTooLarge function))

variable {text : String}

/-- What becomes of the part for a component. -/
def readPart (text : String) (part : Component → List Char) (c : Component) :
    Except AddressError ℕ :=
  (read 16 c.bound (part c)).mapError fun _ => .badComponent c text

theorem parse_of_made (made : IsMadeOf text.toList part) : parse text = (do
    let domain ← readPart text part .domain
    let bus ← readPart text part .bus
    let device ← readPart text part .device
    let function ← readPart text part .function
    make (.ofNat domain) (.ofNat bus) (.ofNat device) (.ofNat function)) := by
  rw [parse, components?_eq_some_iff.2 made]
  rfl

theorem readPart_of_fits {c : Component} {n : ℕ} (fits : Fits part c n) :
    readPart text part c = .ok n := by
  rw [readPart, (read_eq_ok_iff (by decide) (by decide)).2 fits]
  rfl

theorem readPart_of_bad {c : Component} (bad : ¬ ∃ n, Fits part c n) :
    readPart text part c = .error (.badComponent c text) := by
  rw [readPart]
  cases value : read 16 c.bound (part c) with
  | error e => rfl
  | ok n => exact absurd ⟨n, (read_eq_ok_iff (by decide) (by decide)).1 value⟩ bad

theorem parse_of_fits (made : IsMadeOf text.toList part) {value : Component → ℕ}
    (fits : ∀ c, Fits part c (value c)) :
    parse text = make (.ofNat (value .domain)) (.ofNat (value .bus)) (.ofNat (value .device))
      (.ofNat (value .function)) := by
  rw [parse_of_made made, readPart_of_fits (fits .domain), readPart_of_fits (fits .bus),
    readPart_of_fits (fits .device), readPart_of_fits (fits .function)]
  rfl

theorem parse_of_bad (made : IsMadeOf text.toList part) {c : Component}
    (bad : ¬ ∃ n, Fits part c n) (before : ∀ c' ∈ c.before, ∃ n, Fits part c' n) :
    parse text = .error (.badComponent c text) := by
  have bad : readPart text part c = _ := readPart_of_bad bad
  rw [parse_of_made made]
  cases c with
  | domain =>
    rw [bad]
    rfl
  | bus =>
    obtain ⟨_, domain⟩ := before .domain (by decide)
    rw [readPart_of_fits domain, bad]
    rfl
  | device =>
    obtain ⟨_, domain⟩ := before .domain (by decide)
    obtain ⟨_, bus⟩ := before .bus (by decide)
    rw [readPart_of_fits domain, readPart_of_fits bus, bad]
    rfl
  | function =>
    obtain ⟨_, domain⟩ := before .domain (by decide)
    obtain ⟨_, bus⟩ := before .bus (by decide)
    obtain ⟨_, device⟩ := before .device (by decide)
    rw [readPart_of_fits domain, readPart_of_fits bus, readPart_of_fits device, bad]
    rfl

/-- What a text says is read. -/
theorem Reading.parse_eq {outcome : Except AddressError Address}
    (reading : Reading text outcome) : parse text = outcome := by
  cases reading with
  | @address part a made numerals =>
    rw [parse_of_fits made fun c => ⟨numerals c, number_lt_bound a c⟩]
    exact make_toNat a
  | malformed shape => rw [parse, components?_eq_none_iff.2 shape]
  | badComponent made bad before => exact parse_of_bad made bad before
  | deviceTooLarge made fits told large =>
    rw [parse_of_fits made fits, make, (fits .device).toNat_ofNat rfl, dif_neg (by omega),
      ← told, UInt8.ofNat_toNat]
  | functionTooLarge made fits small told large =>
    have device := (fits .device).toNat_ofNat rfl
    have function := (fits .function).toNat_ofNat rfl
    rw [parse_of_fits made fits, make, dif_pos (by omega), dif_neg (by omega), ← told,
      UInt8.ofNat_toNat]

/-- A text says something, if only what is wrong with it. -/
theorem exists_reading (text : String) : ∃ outcome, Reading text outcome := by
  rcases isMalformed_or_isMadeOf text.toList with shape | ⟨part, made⟩
  · exact ⟨_, .malformed shape⟩
  rcases Component.forall_or_first fun c => ∃ n, Fits part c n with fits | ⟨c, bad, before⟩
  · choose value fits using fits
    by_cases device : value .device ≤ 0x1f
    · by_cases function : value .function ≤ 7
      · let a : Address :=
          { domain := .ofNat (value .domain)
            bus := .ofNat (value .bus)
            device := ⟨value .device, by omega⟩
            function := ⟨value .function, by omega⟩ }
        refine ⟨_, .address (a := a) made fun c => ?_⟩
        have same : a.number c = value c := by
          cases c with
          | domain => exact UInt32.toNat_ofNat_of_lt' (fits .domain).2
          | bus => exact (fits .bus).toNat_ofNat rfl
          | device => rfl
          | function => rfl
        exact same ▸ (fits c).1
      · exact ⟨_, .functionTooLarge made fits device ((fits .function).toNat_ofNat rfl) (by omega)⟩
    · exact ⟨_, .deviceTooLarge made fits ((fits .device).toNat_ofNat rfl) (by omega)⟩
  · exact ⟨_, .badComponent made bad before⟩

/-- **What is read is what the text says.** -/
theorem parse_eq_iff {outcome : Except AddressError Address} :
    parse text = outcome ↔ Reading text outcome := by
  refine ⟨?_, Reading.parse_eq⟩
  rintro rfl
  obtain ⟨outcome, reading⟩ := exists_reading text
  exact reading.parse_eq ▸ reading

-- a third colon stands in the device
example : parse "1:2:3:4.5" = .error (.badComponent .device "1:2:3:4.5") := by decide

end DeviceAtlas.Pci.Address
