import DeviceAtlas.Json
import DeviceAtlas.Number
import DeviceAtlas.Text

/-!
# PCI

Where a function sits on its bus, who made it, and which buses a bridge leads to.
-/

namespace DeviceAtlas.Pci

/-! ## Addresses

An address names a function by its domain, bus, device and function number. Its text is
`dddd:bb:dd.f` in hexadecimal; the reader takes numerals of any length, so that several texts name
one address, and the writer settles on the shortest that keeps the usual widths.
-/

/-- A function of a device on a bus of a domain. -/
structure Address where
  domain : UInt32
  bus : UInt8
  device : Fin 32
  function : Fin 8
  deriving DecidableEq, Repr, Ord

/-- The numbers that make up an address. -/
inductive Address.Component where
  | domain
  | bus
  | device
  | function
  deriving DecidableEq, Repr

/-- What a component is called. -/
def Address.Component.name : Component → String
  | .domain => "domain"
  | .bus => "bus"
  | .device => "device"
  | .function => "function"

/-- Why something is not an address. -/
inductive AddressError where
  /-- The text lacks a colon, a second colon or the dot after them. -/
  | malformed (text : String)
  /-- A component of the text is no hexadecimal numeral of its width. -/
  | badComponent (component : Address.Component) (text : String)
  /-- Device numbers have five bits. -/
  | deviceTooLarge (device : UInt8)
  /-- Function numbers have three bits. -/
  | functionTooLarge (function : UInt8)
  deriving DecidableEq, Repr

/-- What to tell a reader about a bad address. -/
def AddressError.message : AddressError → String
  | .malformed text => s!"invalid pci address syntax: {text}"
  | .badComponent component text => s!"invalid pci address component {component.name} in {text}"
  | .deviceTooLarge device =>
    s!"pci device number 0x{Numeral.hex 0 device.toNat} out of range (max 0x1f)"
  | .functionTooLarge function =>
    s!"pci function number 0x{Numeral.hex 0 function.toNat} out of range (max 0x7)"

namespace Address

/-- The address with these numbers, if the device and then the function number are small enough. -/
def make (domain : UInt32) (bus device function : UInt8) : Except AddressError Address :=
  if hd : device.toNat < 32 then
    if hf : function.toNat < 8 then .ok ⟨domain, bus, ⟨device.toNat, hd⟩, ⟨function.toNat, hf⟩⟩
    else .error (.functionTooLarge function)
  else .error (.deviceTooLarge device)

/-! ### Text -/

/-- The characters of the written address. -/
def toChars (a : Address) : List Char :=
  Numeral.hexDigits 4 a.domain.toNat ++ ':' :: (Numeral.hexDigits 2 a.bus.toNat ++
    ':' :: (Numeral.hexDigits 2 a.device.val ++ '.' :: Numeral.hexDigits 1 a.function.val))

/-- The written address. -/
def toText (a : Address) : String :=
  String.ofList a.toChars

instance : ToString Address := ⟨toText⟩

/-- The texts of the four components: split at the first colon, the next one, and the first dot
after that. -/
def components? (text : List Char) :
    Option (List Char × List Char × List Char × List Char) := do
  let (domain, rest) ← Text.splitFirst ':' text
  let (bus, rest) ← Text.splitFirst ':' rest
  let (device, function) ← Text.splitFirst '.' rest
  return (domain, bus, device, function)

/-- Read an address. The shape is looked at first, then the components from left to right, then
the ranges of the device and the function. -/
def parse (text : String) : Except AddressError Address :=
  match components? text.toList with
  | none => .error (.malformed text)
  | some (domain, bus, device, function) => do
    let component (name : Component) (bound : Nat) (digits : List Char) :
        Except AddressError Nat :=
      (Numeral.read 16 bound digits).mapError fun _ => .badComponent name text
    let domain ← component .domain UInt32.size domain
    let bus ← component .bus UInt8.size bus
    let device ← component .device UInt8.size device
    let function ← component .function UInt8.size function
    make (.ofNat domain) (.ofNat bus) (.ofNat device) (.ofNat function)

/-! ### JSON form -/

/-- The written address. -/
def toJson (a : Address) : Json := .text a.toText

/-- Read a written address. -/
def ofJson? (j : Json) : Option Address :=
  j.text?.bind fun text => (parse text).toOption

end Address

/-! ## Vendors

A vendor is a number of sixteen bits, written with four hexadecimal digits.
-/

/-- The number that a vendor of PCI devices is registered under. -/
structure VendorId where
  value : UInt16
  deriving DecidableEq, Repr, Ord

namespace VendorId

/-- The vendor of most devices that a Level Zero driver exposes. -/
def intel : VendorId := ⟨0x8086⟩

/-- The number that a slot without a device answers with. -/
def isInvalid (v : VendorId) : Bool := v.value == 0xffff

/-- A driver reports vendors in wider numbers, which must not use the upper half. -/
def ofUInt32 (value : UInt32) : Except NumeralError VendorId :=
  if value.toNat < UInt16.size then .ok ⟨value.toUInt16⟩ else .error .tooLarge

/-- Four hexadecimal digits. -/
def toText (v : VendorId) : String := Numeral.hex 4 v.value.toNat

instance : ToString VendorId := ⟨toText⟩

/-- Read a hexadecimal numeral of sixteen bits. -/
def parse (text : String) : Except NumeralError VendorId :=
  (Numeral.readHex UInt16.size text).map fun n => ⟨.ofNat n⟩

/-- The written vendor. -/
def toJson (v : VendorId) : Json := .text v.toText

/-- Read a written vendor. -/
def ofJson? (j : Json) : Option VendorId :=
  j.text?.bind fun text => (parse text).toOption

end VendorId

/-! ## Devices

What is known of a PCI device: where it sits, who made it, and how fast its link is at most.
-/

/-- A PCI device. The link bandwidth, in bytes per second, may be unknown. -/
structure Device where
  address : Address
  vendor : VendorId
  deviceId : UInt16
  maxBandwidth : Option UInt64 := none
  deriving DecidableEq, Repr, Ord

namespace Device

/-- The device with another link bandwidth. -/
def withMaxBandwidth (d : Device) (bandwidth : UInt64) : Device :=
  { d with maxBandwidth := some bandwidth }

/-- The link speed in GB/s: the quotient is taken in double precision and then narrowed, rounding
to nearest each time. -/
def linkSpeed (d : Device) : Option Float32 :=
  d.maxBandwidth.map fun bandwidth => (bandwidth.toFloat / 1000000000.0).toFloat32

/-- The fields of the device; an unknown bandwidth is left out. -/
def fields (d : Device) : List (String × Json) :=
  [("address", d.address.toJson), ("vendor_id", d.vendor.toJson),
   ("device_id", .ofNat d.deviceId.toNat)] ++
  Json.optionalField "max_bandwidth" (fun b => .ofNat b.toNat) d.maxBandwidth

/-- Read the fields of a device. -/
def ofJson? (j : Json) : Option Device := do
  let j := j.record ["address", "vendor_id", "device_id", "max_bandwidth"] 4
  let address ← j.required "address" Address.ofJson?
  let vendor ← j.required "vendor_id" VendorId.ofJson?
  let deviceId ← j.required "device_id" Json.uint16?
  let maxBandwidth ← j.optional "max_bandwidth" Json.uint64?
  return ⟨address, vendor, deviceId, maxBandwidth⟩

end Device

/-! ## Bridges

A bridge leads to a range of buses of one domain. A range that was read from outside may be
inverted; such a bridge leads nowhere.
-/

/-- The domain and the buses from `secondaryBus` to `subordinateBus` behind a bridge. -/
structure Bridge where
  domain : UInt32
  secondaryBus : UInt8
  subordinateBus : UInt8
  deriving DecidableEq, Repr, Ord

namespace Bridge

/-- The bridge to a range of buses, unless the range is empty. -/
def make? (domain : UInt32) (secondaryBus subordinateBus : UInt8) : Option Bridge :=
  if secondaryBus ≤ subordinateBus then some ⟨domain, secondaryBus, subordinateBus⟩ else none

/-- How many buses there are behind the bridge, if the range is not inverted. -/
def width (b : Bridge) : Nat :=
  b.subordinateBus.toNat - b.secondaryBus.toNat + 1

/-- Whether an address lies behind the bridge. -/
def covers (b : Bridge) (a : Address) : Bool :=
  b.domain = a.domain ∧ b.secondaryBus ≤ a.bus ∧ a.bus ≤ b.subordinateBus

/-- A bridge that covers an address has a range in order, so that its width counts its buses. -/
theorem le_of_covers {b : Bridge} {a : Address} (h : b.covers a) :
    b.secondaryBus ≤ b.subordinateBus := by
  simp only [covers, decide_eq_true_eq] at h
  exact UInt8.le_trans h.2.1 h.2.2

/-- The fields of the bridge. -/
def fields (b : Bridge) : List (String × Json) :=
  [("domain", .ofNat b.domain.toNat), ("secondary_bus", .ofNat b.secondaryBus.toNat),
   ("subordinate_bus", .ofNat b.subordinateBus.toNat)]

/-- Read the fields of a bridge; the order of the buses is not looked at. -/
def ofJson? (j : Json) : Option Bridge := do
  let j := j.record ["domain", "secondary_bus", "subordinate_bus"] 3
  let domain ← j.required "domain" Json.uint32?
  let secondaryBus ← j.required "secondary_bus" Json.uint8?
  let subordinateBus ← j.required "subordinate_bus" Json.uint8?
  return ⟨domain, secondaryBus, subordinateBus⟩

end Bridge

end DeviceAtlas.Pci
