import DeviceAtlas.Json
import DeviceAtlas.Pci
import DeviceAtlas.Stack.Fault
import DeviceAtlas.Text

/-!
# Driver stacks

A driver stack has a core side, which lists drivers, devices and their subdevices, and a
management side, which knows about memory, fabric ports and the like. All that discovery needs to
know of it are its answers. Handles mean nothing to discovery; they are only handed back. Values
that may lie outside of the documented range stay raw; their classes are told apart here.
-/

namespace DeviceAtlas

namespace Stack

/-! ## Devices -/

/-! ### Identity -/

/-- The sixteen bytes that tell a device or subdevice from all others. -/
structure Uuid where
  bytes : Vector UInt8 16
  deriving DecidableEq, Repr, Ord

namespace Uuid

/-- The identity of zeros after a first byte. -/
def tagged (tag : UInt8) : Uuid := ⟨(Vector.replicate 16 0).set 0 tag⟩

instance : Inhabited Uuid := ⟨tagged 0⟩

/-- Two hexadecimal digits for each byte. -/
def toText (u : Uuid) : String :=
  String.join (u.bytes.toList.map fun byte => Numeral.hex 2 byte.toNat)

instance : ToString Uuid := ⟨toText⟩

/-- The identity of these bytes, if they are sixteen. -/
def ofList? (bytes : List UInt8) : Option Uuid :=
  if h : bytes.toArray.size = 16 then some ⟨⟨bytes.toArray, h⟩⟩ else none

/-- The bytes. -/
def toJson (u : Uuid) : Json := .ofList (fun byte => .ofNat byte.toNat) u.bytes.toList

/-- Read sixteen bytes. -/
def ofJson? (j : Json) : Option Uuid := (j.listOf? Json.uint8?).bind ofList?

end Uuid

/-! ### Type -/

/-- The types of device that are told apart. -/
inductive DeviceType where
  | gpu
  | cpu
  | fpga
  | mca
  | vpu
  deriving DecidableEq, Repr

namespace DeviceType

/-- The type of a raw number. -/
def ofRaw? (raw : UInt32) : Option DeviceType :=
  match raw.toNat with
  | 1 => some gpu
  | 2 => some cpu
  | 3 => some fpga
  | 4 => some mca
  | 5 => some vpu
  | _ => none

/-- What the type is called. -/
def text : DeviceType → String
  | gpu => "GPU"
  | cpu => "CPU"
  | fpga => "FPGA"
  | mca => "MCA"
  | vpu => "VPU"

end DeviceType

/-! ### Properties -/

/-- What kind of device a device is, in bits. -/
structure DeviceTraits where
  bits : UInt32
  deriving DecidableEq, Repr

namespace DeviceTraits

/-- No bit. -/
def none : DeviceTraits := ⟨0⟩

/-- The device is part of another one. -/
def subdevice : DeviceTraits := ⟨2⟩

/-- The names of the bits. -/
def table : NamedBits :=
  ⟨"DevicePropertyFlags",
   [("INTEGRATED", 1), ("SUBDEVICE", subdevice.bits), ("ECC", 4), ("ONDEMANDPAGING", 8)]⟩

/-- Whether the device is part of another one. -/
def isSubdevice (traits : DeviceTraits) : Bool :=
  traits.bits &&& subdevice.bits = subdevice.bits

/-- The bits under the name of the family, for messages. -/
def describe (traits : DeviceTraits) : String := table.describe traits.bits

end DeviceTraits

/-- What does not change about a device. -/
structure DeviceProperties where
  /-- The raw type, see `DeviceType`. -/
  deviceType : UInt32
  vendorId : UInt32
  deviceId : UInt32
  traits : DeviceTraits
  subdeviceId : UInt32
  uuid : Uuid
  name : String
  slices : UInt32
  subslicesPerSlice : UInt32
  eusPerSubslice : UInt32
  threadsPerEu : UInt32
  deriving DecidableEq, Repr

/-- What the management side knows of a device. -/
structure ManagementProperties where
  vendor : String
  model : String
  brand : String
  serialNumber : String
  boardNumber : String
  deriving DecidableEq, Repr

/-- The handle of the management side for a device, found by identity. -/
structure ManagedDevice (H : Type) where
  handle : H
  /-- The identity is that of a subdevice. -/
  onSubdevice : Bool
  subdeviceId : UInt32
  deriving DecidableEq, Repr

/-- Command queues of one sort. -/
structure QueueGroup where
  /-- What the queues can be used for, in bits. -/
  uses : UInt32
  count : UInt32
  deriving DecidableEq, Repr

/-- Where a device sits, and how fast its link is at most. -/
structure PciLocation where
  address : Pci.Address
  /-- In bytes per second; unknown unless positive. -/
  maxBandwidth : Int64
  deriving DecidableEq, Repr

/-! ## Memory -/

/-- How a module counts: high bandwidth memory and the kinds of double data rate memory add up,
caches and the like do not. -/
inductive MemoryClass where
  | hbm
  | ddr
  | other
  deriving DecidableEq, Repr

namespace MemoryClass

/-- The class of a raw type: 0 is high bandwidth memory, and the eight numbers after it are the
generations of double data rate memory. -/
def ofRaw (raw : UInt32) : MemoryClass :=
  if raw = 0 then hbm else if raw ≤ 8 then ddr else other

/-- What the class is called. -/
def text : MemoryClass → String
  | hbm => "HBM"
  | ddr => "DDR"
  | other => "Memory"

end MemoryClass

/-- What does not change about a memory module. -/
structure MemoryProperties where
  /-- The raw type, see `MemoryClass`. -/
  memoryType : UInt32
  onSubdevice : Bool
  subdeviceId : UInt32
  /-- In bytes, 0 if unknown. -/
  physicalSize : UInt64
  deriving DecidableEq, Repr

/-- How full a memory module is, in bytes. -/
structure MemoryState where
  free : UInt64
  size : UInt64
  deriving DecidableEq, Repr

/-! ## Fabric ports

A fabric joins devices by links between their ports. Each port has an identity of its own and
knows that of the port at the other end of its link.
-/

/-! ### Identity -/

/-- The identity of a port, of which a fabric has no two. -/
structure PortId where
  fabric : UInt32
  attach : UInt32
  port : UInt8
  deriving DecidableEq, Repr, Ord, Hashable

namespace PortId

/-- The three numbers with hyphens between them. -/
def toText (id : PortId) : String :=
  toString id.fabric.toNat ++ "-" ++ toString id.attach.toNat ++ "-" ++ toString id.port.toNat

instance : ToString PortId := ⟨toText⟩

/-- The three numbers under their names. -/
def toJson (id : PortId) : Json :=
  .object
    [("fabric_id", .ofNat id.fabric.toNat), ("attach_id", .ofNat id.attach.toNat),
     ("port_number", .ofNat id.port.toNat)]

/-- Read the three numbers. -/
def ofJson? (j : Json) : Option PortId := do
  let j := j.record ["fabric_id", "attach_id", "port_number"] 3
  let fabric ← j.required "fabric_id" Json.uint32?
  let attach ← j.required "attach_id" Json.uint32?
  let port ← j.required "port_number" Json.uint8?
  return ⟨fabric, attach, port⟩

end PortId

/-! ### State -/

/-- How a port is doing. -/
inductive PortStatus where
  | unknown
  | healthy
  | degraded
  | failed
  | disabled
  deriving DecidableEq, Repr

namespace PortStatus

/-- The status of a raw number. -/
def ofRaw? (raw : UInt32) : Option PortStatus :=
  match raw.toNat with
  | 0 => some unknown
  | 1 => some healthy
  | 2 => some degraded
  | 3 => some failed
  | 4 => some disabled
  | _ => none

/-- What the status is called. -/
def text : PortStatus → String
  | unknown => "Unknown"
  | healthy => "Healthy"
  | degraded => "Degraded"
  | failed => "Failed"
  | disabled => "Disabled"

/-- A healthy or degraded port carries traffic. -/
def isUsable : PortStatus → Bool
  | healthy | degraded => true
  | _ => false

theorem isUsable_iff (s : PortStatus) : s.isUsable ↔ s = healthy ∨ s = degraded := by
  cases s <;> decide

end PortStatus

/-- The speed of one direction of a link. -/
structure PortSpeed where
  /-- In bits per second, negative if unknown. -/
  bitRate : Int64
  /-- In lanes, negative if unknown. -/
  width : Int32
  deriving DecidableEq, Repr

/-- The bit rate in units of `2 ^ 20`, which count as megabytes per second; 0 if it is unknown. -/
def PortSpeed.megabytes (speed : PortSpeed) : UInt64 :=
  if speed.bitRate < 0 then 0 else speed.bitRate.toUInt64 >>> 20

/-! ### Properties -/

/-- What does not change about a port. -/
structure PortProperties where
  /-- The technology of the link. -/
  model : String
  onSubdevice : Bool
  subdeviceId : UInt32
  id : PortId
  deriving DecidableEq, Repr

/-- What a port is doing. -/
structure PortState where
  status : PortStatus
  /-- The port at the other end. -/
  remote : PortId
  received : PortSpeed
  sent : PortSpeed
  deriving DecidableEq, Repr

end Stack

/-! ## Answers -/

/-- The answers of a driver stack, which hands out handles of type `H`. -/
structure Stack (H : Type) where
  /-- Start the core side. -/
  start : Stack.Answer Unit
  /-- Start the management side. -/
  startManagement : Stack.Answer Unit
  /-- The drivers of the core side. -/
  drivers : Stack.Answer (List H)
  /-- The drivers of the management side, in the same order. -/
  managementDrivers : Stack.Answer (List H)
  /-- The root devices of a driver. -/
  devices : H → Stack.Answer (List H)
  /-- The properties of a device or subdevice. -/
  deviceProperties : H → Stack.Answer Stack.DeviceProperties
  /-- The device that a driver of the management side knows under an identity. -/
  managedDevice : H → Stack.Uuid → Stack.Answer (Stack.ManagedDevice H)
  /-- The properties of a managed device. -/
  managementProperties : H → Stack.Answer Stack.ManagementProperties
  /-- The command queue groups of a device or subdevice. -/
  queueGroups : H → Stack.Answer (List Stack.QueueGroup)
  /-- The subdevices of a device. Where there are none the device may say that it does not like
  the question. -/
  subdevices : H → Stack.Answer (List H)
  /-- The memory modules of a managed device and of its subdevices. -/
  memoryModules : H → Stack.Answer (List H)
  /-- The properties of a memory module. -/
  memoryProperties : H → Stack.Answer Stack.MemoryProperties
  /-- The state of a memory module. -/
  memoryState : H → Stack.Answer Stack.MemoryState
  /-- The fabric ports of a managed device and of its subdevices. -/
  fabricPorts : H → Stack.Answer (List H)
  /-- The properties of a fabric port. -/
  portProperties : H → Stack.Answer Stack.PortProperties
  /-- The state of a fabric port. -/
  portState : H → Stack.Answer Stack.PortState
  /-- Where a device sits, as an extension of the core side has it. -/
  pciLocation : H → Stack.Answer Stack.PciLocation
  /-- Where a managed device sits. -/
  managedPciLocation : H → Stack.Answer Stack.PciLocation

end DeviceAtlas
