import DeviceAtlas.Stack.Basic

/-!
# Driver stacks made of parts

An inventory holds drivers, devices, memory modules and fabric ports, each sort in the order in
which they were added, and hands out their places as handles. Any answer can be made to fail.

* `Inventory.stack`: the driver stack that an inventory makes up.
-/

namespace DeviceAtlas.Stack

/-- A driver and the places of its root devices. -/
structure StoredDriver where
  devices : List Nat := []
  /-- Answered in place of the devices. -/
  devicesFault : Option Fault := none

/-- A device or subdevice. -/
structure StoredDevice where
  properties : Answer DeviceProperties
  /-- Answered when the device is looked up by its identity. -/
  lookupFault : Option Fault := none
  management : Answer ManagementProperties :=
    .ok ⟨"unknown", "unknown", "unknown", "unknown", "unknown"⟩
  queueGroups : Answer (List QueueGroup) := .ok []
  /-- Answered in place of the subdevices. -/
  subdevicesFault : Option Fault := none
  /-- Answered in place of the memory modules. -/
  memoryFault : Option Fault := none
  /-- Answered in place of the fabric ports. -/
  portsFault : Option Fault := none
  pciLocation : Answer PciLocation := .error (.known .unsupportedFeature)
  managedPciLocation : Answer PciLocation := .error (.known .unsupportedFeature)
  /-- The places of the subdevices. -/
  subdevices : List Nat := []
  /-- The places of the memory modules. -/
  memory : List Nat := []
  /-- The places of the fabric ports. -/
  ports : List Nat := []
  onSubdevice : Bool := false
  subdeviceId : UInt32 := 0

/-- The properties of a large accelerator. -/
def DeviceProperties.accelerator (uuid : Uuid) : DeviceProperties where
  deviceType := 1
  vendorId := 0x8086
  deviceId := 0x0bd5
  traits := .none
  subdeviceId := 0
  uuid
  name := "Intel(R) Data Center GPU Max 1550"
  slices := 1
  subslicesPerSlice := 64
  eusPerSubslice := 8
  threadsPerEu := 8

/-- The properties of a part of a large accelerator. -/
def DeviceProperties.acceleratorPart (uuid : Uuid) (id : UInt32) : DeviceProperties :=
  { accelerator uuid with traits := .subdevice, subdeviceId := id }

/-- A memory module. -/
structure StoredMemory where
  properties : Answer MemoryProperties
  state : Answer MemoryState

/-- A module of a raw type, on a subdevice or not, that is all free. -/
def StoredMemory.make (memoryType : UInt32) (subdevice : Option UInt32) (size : UInt64) :
    StoredMemory where
  properties := .ok ⟨memoryType, subdevice.isSome, subdevice.getD 0, size⟩
  state := .ok ⟨size, size⟩

/-- A fabric port. -/
structure StoredPort where
  properties : Answer PortProperties
  state : Answer PortState

/-- A port on a link of four lanes with the same rate in both directions. -/
def StoredPort.make (model : String) (subdevice : Option UInt32) (id remote : PortId)
    (status : PortStatus) (bitRate : Int64) : StoredPort where
  properties := .ok ⟨model, subdevice.isSome, subdevice.getD 0, id⟩
  state := .ok ⟨status, remote, ⟨bitRate, 4⟩, ⟨bitRate, 4⟩⟩

/-- The parts of a driver stack. -/
structure Inventory where
  start : Answer Unit := .ok ()
  startManagement : Answer Unit := .ok ()
  /-- Answered in place of the drivers. -/
  driversFault : Option Fault := none
  /-- Answered in place of the drivers of the management side. -/
  managementDriversFault : Option Fault := none
  /-- How many drivers the management side has, if not as many as the core side. -/
  managementDriverCount : Option Nat := none
  drivers : Array StoredDriver := #[]
  devices : Array StoredDevice := #[]
  memory : Array StoredMemory := #[]
  ports : Array StoredPort := #[]

namespace Inventory

/-! ## Adding parts -/

/-- Add a driver. -/
def addDriver (inv : Inventory) (driver : StoredDriver) : Inventory :=
  { inv with drivers := inv.drivers.push driver }

/-- Add a root device to a driver; its place comes back. -/
def addDevice (inv : Inventory) (driver : Nat) (device : StoredDevice) : Inventory × Nat :=
  let place := inv.devices.size
  ({ inv with
      devices := inv.devices.push device
      drivers := inv.drivers.modify driver fun d => { d with devices := d.devices ++ [place] } },
   place)

/-- Add a subdevice to a device; its place comes back. The management side numbers subdevices in
the order in which they were added. -/
def addSubdevice (inv : Inventory) (parent : Nat) (device : StoredDevice) : Inventory × Nat :=
  let place := inv.devices.size
  let number := (inv.devices[parent]?.map (·.subdevices.length)).getD 0
  let device := { device with onSubdevice := true, subdeviceId := .ofNat number }
  ({ inv with
      devices := (inv.devices.push device).modify parent
        fun d => { d with subdevices := d.subdevices ++ [place] } },
   place)

/-- Add a memory module to what the management side knows of a device. -/
def addMemory (inv : Inventory) (device : Nat) (memory : StoredMemory) : Inventory :=
  let place := inv.memory.size
  { inv with
    memory := inv.memory.push memory
    devices := inv.devices.modify device fun d => { d with memory := d.memory ++ [place] } }

/-- Add a fabric port to what the management side knows of a device. -/
def addPort (inv : Inventory) (device : Nat) (port : StoredPort) : Inventory :=
  let place := inv.ports.size
  { inv with
    ports := inv.ports.push port
    devices := inv.devices.modify device fun d => { d with ports := d.ports ++ [place] } }

/-! ## Answering -/

/-- The fault if there is one, else the value. -/
def faultOr {α : Type} (fault : Option Fault) (value : α) : Answer α :=
  match fault with
  | some fault => .error fault
  | none => .ok value

/-- The part in a place; a place without a part is no handle. -/
def part {α : Type} (parts : Array α) (place : Nat) : Answer α :=
  match parts[place]? with
  | some part => .ok part
  | none => .error (.known .invalidNullHandle)

/-- The first device whose properties can be read and show this identity. Drivers of the
management side all know the same devices. -/
def managedDevice (inv : Inventory) (uuid : Uuid) : Answer (ManagedDevice Nat) :=
  let isNamed (device : StoredDevice) : Bool :=
    match device.properties with
    | .ok properties => properties.uuid = uuid
    | .error _ => false
  match inv.devices.toList.zipIdx.find? (isNamed ·.1) with
  | none => .error (.known .invalidArgument)
  | some (device, place) =>
    faultOr device.lookupFault ⟨place, device.onSubdevice, device.subdeviceId⟩

/-- The subdevices of a device; one without any does not like the question. -/
def subdevices (inv : Inventory) (place : Nat) : Answer (List Nat) := do
  let device ← part inv.devices place
  faultOr (device.subdevicesFault.or
    (if device.subdevices.isEmpty then some (.known .invalidArgument) else none))
    device.subdevices

/-- The driver stack that the parts make up. -/
def stack (inv : Inventory) : Stack Nat where
  start := inv.start
  startManagement := inv.startManagement
  drivers := faultOr inv.driversFault (List.range inv.drivers.size)
  managementDrivers := faultOr inv.managementDriversFault
    (List.range (inv.managementDriverCount.getD inv.drivers.size))
  devices place := do
    let driver ← part inv.drivers place
    faultOr driver.devicesFault driver.devices
  deviceProperties place := do (← part inv.devices place).properties
  managedDevice _ uuid := inv.managedDevice uuid
  managementProperties place := do (← part inv.devices place).management
  queueGroups place := do (← part inv.devices place).queueGroups
  subdevices := inv.subdevices
  memoryModules place := do
    let device ← part inv.devices place
    faultOr device.memoryFault device.memory
  memoryProperties place := do (← part inv.memory place).properties
  memoryState place := do (← part inv.memory place).state
  fabricPorts place := do
    let device ← part inv.devices place
    faultOr device.portsFault device.ports
  portProperties place := do (← part inv.ports place).properties
  portState place := do (← part inv.ports place).state
  pciLocation place := do (← part inv.devices place).pciLocation
  managedPciLocation place := do (← part inv.devices place).managedPciLocation

end Inventory

end DeviceAtlas.Stack
