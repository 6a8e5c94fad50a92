import DeviceAtlas.Discovery.Facts
import DeviceAtlas.Discovery.Port
import DeviceAtlas.Discovery.Registry
import DeviceAtlas.Stack.Basic
import DeviceAtlas.Topology.Basic

/-!
# Surveying a driver stack

A survey walks drivers, devices and subdevices and adds an object for each device and subdevice
that can be identified. Objects are described while they are detached; then the device is placed
in the tree and its subdevices under it. A device that cannot be identified is passed over, and so
is a subdevice; neither leaves a trace.
-/

namespace DeviceAtlas

/-! ## Placing a device

A driver stack may know where a device sits from an extension of its core side or from its
management side. The first location that leads to an object of the tree decides, and only its
bandwidth is recorded.
-/

/-- A location's bandwidth; 0 if it is unknown. -/
def Stack.PciLocation.bandwidth (location : Stack.PciLocation) : UInt64 :=
  if location.maxBandwidth < 0 then 0 else location.maxBandwidth.toUInt64

namespace Topology

/-- Record the bandwidth of the link that leads to an object, if it is known and the object is a
PCI device. -/
def recordBandwidth (t : Topology) (id : ObjectId) (bandwidth : UInt64) : Logged Topology :=
  if 0 < bandwidth ∧ (t.pciDevice? id).isSome then do
    Logged.detail s!"link speed of {id} is {bandwidth} B/s"
    return t.setMaxBandwidth id bandwidth
  else return t

/-- The object that a list of locations, each of which may be missing, puts a device under; the
root if there is none. -/
def placeAt (t : Topology) : List (Stack.Answer Stack.PciLocation) → Logged (Topology × ObjectId)
  | [] => return (t, root)
  | .error fault :: rest => do
    Logged.detail s!"no pci properties: {fault}"
    t.placeAt rest
  | .ok location :: rest => do
    match ← t.findParent location.address with
    | some parent => return (← t.recordBandwidth parent location.bandwidth, parent)
    | none => t.placeAt rest

/-- The object that a device belongs under. -/
def place {H : Type} (t : Topology) (stack : Stack H) (device managed : H) :
    Logged (Topology × ObjectId) :=
  t.placeAt [stack.pciLocation device, stack.managedPciLocation managed]

end Topology

/-! ## What was found so far -/

variable {H : Type}

/-- The tree with what was found so far. -/
structure Survey where
  topology : Topology
  registry : Registry := .empty
  ports : PortList := .empty
  /-- How many objects went into the tree. -/
  added : Nat := 0
  /-- How many devices have a name. -/
  named : Nat := 0

/-- Where a device was found, and the number it is named after. -/
structure DevicePlace where
  driver : Nat
  device : Nat
  number : Nat
  deriving DecidableEq, Repr

/-- The driver and the device, for messages. -/
def DevicePlace.text (p : DevicePlace) : String := s!"driver #{p.driver} device #{p.device}"

/-! ## Identifying -/

/-- Why a device is passed over. -/
inductive Unidentified where
  /-- It does not tell its properties. -/
  | properties (fault : Stack.Fault)
  /-- The management side does not know it. -/
  | management (fault : Stack.Fault)
  deriving DecidableEq, Repr

/-- The reason, for a device that is called `what`. -/
def Unidentified.text (what : String) : Unidentified → String
  | .properties fault => s!"failed to get {what}properties ({fault})"
  | .management fault => s!"failed to find {what}management device ({fault})"

/-- The properties of a device and its handle on the management side. -/
def identify (stack : Stack H) (managementDriver device : H) :
    Except Unidentified (Stack.DeviceProperties × H) := do
  let properties ← (stack.deviceProperties device).mapError .properties
  let managed ← (stack.managedDevice managementDriver properties.uuid).mapError .management
  return (properties, managed.handle)

/-! ## Subdevices -/

/-- Put a named device beside the tree. -/
def Topology.allocateDevice (t : Topology) (name : String) : Topology × ObjectId :=
  let (t, id) := t.allocate .osDevice
  (t.modify id fun o =>
    { o with
      name := some name
      subtype := some InfoKey.subtype
      attributes := some (.osDevice .accelerator) }, id)

/-- The notes on a subdevice that was identified. Its properties are asked for once more. -/
def subdeviceNotes (stack : Stack H) (handle managed : H) (id : ObjectId) (k : Nat)
    (settings : Settings) : List Note :=
  .info id InfoKey.subdeviceId (toString k) ::
    deviceNotes stack handle managed id none settings ++ queueNotes stack handle id

/-- Add subdevice `k` of a device, if it can be identified. -/
def addSubdevice (stack : Stack H) (managementDriver : H) (place : DevicePlace) (t : Topology)
    (k : Nat) (handle : H) (settings : Settings) : Logged (Topology × Option ObjectId) :=
  match identify stack managementDriver handle with
  | .error reason => do
    let cause := reason.text "subdevice "
    settings.advise s!"{cause}, skipping {place.text} subdevice #{k}"
    return (t, none)
  | .ok (_, managed) => do
    let (t, id) := t.allocateDevice s!"ze{place.number}.{k}"
    return (← t.takeNotes (subdeviceNotes stack handle managed id k settings), some id)

/-- The handles of the subdevices of a device. A device may not like the question, which is no
matter. -/
def subdeviceHandles (stack : Stack H) (device : H) (number : Nat) : Logged (List H) :=
  match stack.subdevices device with
  | .ok handles => do
    Logged.detail s!"ze{number} has {handles.length} subdevices"
    return handles
  | .error fault =>
    if fault.isInvalidArgument then return []
    else do
      Logged.detail s!"failed to list subdevices of ze{number}: {fault}"
      return []

/-- Add the subdevices of a device. Position `k` of the table has the object of subdevice `k`, if
it was created. -/
def addSubdevices (stack : Stack H) (managementDriver : H) (place : DevicePlace) (t : Topology)
    (handles : List H) (settings : Settings) : Logged (Topology × List (Option ObjectId)) :=
  handles.zipIdx.foldlM (fun (t, table) (handle, k) => do
    let (t, id) ← addSubdevice stack managementDriver place t k handle settings
    return (t, table ++ [id])) (t, [])

/-- Insert objects under a parent. Those that made it into the tree come back. -/
def Topology.insertAll (t : Topology) (parent : ObjectId) :
    List ObjectId → Logged (Topology × List ObjectId)
  | [] => return (t, [])
  | child :: rest =>
    match t.insert parent child with
    | .ok t => do
      let (t, inserted) ← t.insertAll parent rest
      return (t, child :: inserted)
    | .error error => do
      Logged.detail s!"failed to insert {child} under {parent}: {error}"
      t.insertAll parent rest

/-! ## Devices -/

/-- The notes on a device that was identified, apart from those on its memory. -/
def rootNotes (stack : Stack H) (device managed : H) (id : ObjectId) (place : DevicePlace)
    (p : Stack.DeviceProperties) (settings : Settings) : List Note :=
  .info id InfoKey.driverIndex (toString place.driver) ::
    .info id InfoKey.driverDeviceIndex (toString place.device) ::
    deviceNotes stack device managed id (some p) settings ++ queueNotes stack device id

/-- Describe a device and its subdevices beside the tree. The object of the device comes back, and
the table of its subdevices. -/
def describeDevice (stack : Stack H) (managementDriver device managed : H) (place : DevicePlace)
    (p : Stack.DeviceProperties) (t : Topology) (settings : Settings) :
    Logged (Topology × ObjectId × List (Option ObjectId)) := do
  let (t, root) := t.allocateDevice s!"ze{place.number}"
  let t ← t.takeNotes (rootNotes stack device managed root place p settings)
  let handles ← subdeviceHandles stack device place.number
  let (t, table) ← addSubdevices stack managementDriver place t handles settings
  let t ← t.takeNotes (memoryReport stack managed root table settings).1
  return (t, root, table)

/-- Register a device and its subdevices, which are left out where memory does not grant the
registry the room for them. -/
def Registry.enterBlock (r : Registry) (root : ObjectId) (subdevices : List ObjectId)
    (grants : Nat → Bool) : Logged Registry := do
  match ← r.addBlockIfGranted grants root subdevices with
  | (r, .ok _) => return r
  | (r, .error full) =>
    Logged.detail s!"{root} is left out of the bandwidth matrix: {full}"
    return r

/-- Insert a device under a parent and its subdevices under the device, and register them as one
block. Memory `grants` some capacities of the registry; unless told otherwise, all. -/
def Survey.enter (s : Survey) (parent root : ObjectId) (subdevices : List ObjectId)
    (grants : Nat → Bool := fun _ => true) : Logged Survey :=
  match s.topology.insert parent root with
  | .error error => do
    Logged.detail s!"failed to insert {root} under {parent}: {error}"
    return s
  | .ok t => do
    let (t, inserted) ← t.insertAll root subdevices
    let count := inserted.length
    let t ← if count = 0 then pure t
      else t.annotate root InfoKey.subdevices (toString count)
    let registry ← s.registry.enterBlock root inserted grants
    return { s with
      topology := t, registry, added := s.added + (1 + count), named := s.named + 1 }

/-- Add a device that was identified, with its subdevices and their ports. -/
def Survey.addIdentified (stack : Stack H) (managementDriver device managed : H)
    (place : DevicePlace) (p : Stack.DeviceProperties) (s : Survey) (settings : Settings)
    (grants : Nat → Bool := fun _ => true) : Logged Survey := do
  let (t, root, table) ←
    describeDevice stack managementDriver device managed place p s.topology settings
  let ports ← if t.options.noDistances then pure s.ports
    else Prod.fst <$> scanPorts stack managed root table s.ports settings
  let (t, parent) ← t.place stack device managed
  { s with topology := t, ports }.enter parent root (table.filterMap id) grants

/-- Add a device of a driver, if it can be identified. -/
def Survey.addDevice (stack : Stack H) (managementDriver : H) (driver : Nat) (s : Survey)
    (index : Nat) (device : H) (settings : Settings) (grants : Nat → Bool := fun _ => true) :
    Logged Survey :=
  let place := ⟨driver, index, s.named⟩
  match identify stack managementDriver device with
  | .error reason => do
    let cause := reason.text ""
    settings.advise s!"{cause}, skipping {place.text}"
    return s
  | .ok (p, managed) =>
    s.addIdentified stack managementDriver device managed place p settings grants

/-! ## Drivers -/

/-- Add the devices of a driver. -/
def Survey.addDriver (stack : Stack H) (s : Survey) (index : Nat) (driver managementDriver : H)
    (settings : Settings) (grants : Nat → Bool := fun _ => true) : Logged Survey :=
  match stack.devices driver with
  | .error fault => do
    Logged.detail s!"no devices in driver #{index}: {fault}"
    return s
  | .ok [] => return s
  | .ok devices => do
    Logged.detail s!"found {devices.length} devices in driver #{index}"
    devices.zipIdx.foldlM (fun s (device, place) =>
      s.addDevice stack managementDriver index place device settings grants) s

/-- The drivers of both sides, which have to be as many. -/
def pairDrivers (stack : Stack H) (settings : Settings) : Logged (List (H × H)) :=
  match stack.drivers with
  | .error fault => do
    settings.advise s!"failed to list drivers: {fault}"
    return []
  | .ok drivers =>
    match stack.managementDrivers with
    | .error fault => do
      settings.advise s!"failed to list management drivers: {fault}"
      return []
    | .ok managementDrivers => do
      let (count, others) := (drivers.length, managementDrivers.length)
      if count ≠ others then
        settings.advise s!"found {others} management drivers vs {count} drivers"
        return []
      else
        Logged.detail s!"found {count} drivers"
        return drivers.zip managementDrivers

/-- Add all devices of a driver stack to a topology. -/
def survey (stack : Stack H) (t : Topology) (settings : Settings)
    (grants : Nat → Bool := fun _ => true) : Logged Survey := do
  let drivers ← pairDrivers stack settings
  drivers.zipIdx.foldlM (fun s ((driver, managementDriver), index) =>
    s.addDriver stack index driver managementDriver settings grants) { topology := t }

end DeviceAtlas
