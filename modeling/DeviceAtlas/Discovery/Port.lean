import DeviceAtlas.Discovery.Settings
import DeviceAtlas.Journal
import DeviceAtlas.Object
import DeviceAtlas.Stack.Basic

/-!
# Usable ports

The ports of all devices that carry traffic, in the order in which they were found. Room for the
ports of a device is made before the first of them is kept.
-/

namespace DeviceAtlas

/-- A usable fabric port. -/
structure Port where
  /-- The device or subdevice that has the port. -/
  owner : ObjectId
  /-- The device that the owner is part of, if it is a subdevice. -/
  root : Option ObjectId
  properties : Stack.PortProperties
  state : Stack.PortState
  deriving DecidableEq, Repr

/-- Usable ports, and the room there is for them. -/
structure PortList where
  ports : Array Port := #[]
  capacity : Nat := 0
  deriving DecidableEq, Repr

/-- There is no memory for so many ports. -/
structure PortListFull where
  capacity : Nat
  requested : Nat
  deriving DecidableEq, Repr

/-- What to tell a reader about ports that do not fit. -/
def PortListFull.message (e : PortListFull) : String :=
  s!"failed to grow port list from {e.capacity} entries to hold {e.requested} more"

instance : ToString PortListFull := ⟨PortListFull.message⟩

namespace PortList

/-- The list grows by this many entries for each port that asks for room. -/
def growthFactor : Nat := 8

/-- Memory never holds the growth for so many ports. -/
def tooMany : Nat := 1 <<< 57

/-- A list without ports or room. -/
def empty : PortList := {}

/-- How many ports there are. -/
def size (l : PortList) : Nat := l.ports.size

/-- How many more ports there is room for. -/
def spare (l : PortList) : Nat := l.capacity - l.size

/-- Make room for more ports, if there is too little. -/
def reserve (l : PortList) (count : Nat) : Except PortListFull PortList :=
  if count ≤ l.spare then .ok l
  else if tooMany ≤ count then .error ⟨l.capacity, count⟩
  else .ok { l with capacity := l.size + (l.spare + growthFactor * count) }

/-- Add a port. A full list doubles its room, to four entries at the least. -/
def push (l : PortList) (port : Port) : PortList where
  ports := l.ports.push port
  capacity := if l.size < l.capacity then l.capacity else max (2 * l.capacity) 4

@[simp] theorem size_push (l : PortList) (port : Port) : (l.push port).size = l.size + 1 := by
  simp [push, size]

/-- A reservation keeps the ports. -/
theorem ports_of_reserve {l grown : PortList} {count : Nat} (h : l.reserve count = .ok grown) :
    grown.ports = l.ports := by
  unfold reserve at h
  split at h
  · cases h; rfl
  · split at h <;> cases h
    rfl

end PortList

/-! ## Scanning

The management side lists the fabric ports of a device together with those of its subdevices. A
port is kept if its properties and its state can be read, its owner is known and it carries
traffic. What is wrong with one port does not touch the others.
-/

variable {H : Type}

/-- The owner of a port, and the device that the owner is part of: the root device itself, or the
object of the subdevice that the port says it is on. Position `k` of `subdevices` has the object
of subdevice `k`, if it was created. -/
def portOwner (root : ObjectId) (subdevices : List (Option ObjectId)) (index : Nat)
    (p : Stack.PortProperties) (settings : Settings) :
    Logged (Option (ObjectId × Option ObjectId)) :=
  if p.onSubdevice then do
    let id := p.subdeviceId
    Logged.detail s!"  port #{index} is on subdevice #{id}"
    match subdevices[id.toNat]? with
    | some (some subdevice) => return some (subdevice, some root)
    | some none =>
      Logged.detail s!"    subdevice #{id} was not created, ignoring"
      return none
    | none =>
      settings.advise s!"fabric port #{index} of {root} on unexpected subdevice #{id}"
      return none
  else return some (root, none)

/-- Ask a port whether it is usable. -/
def readPort (stack : Stack H) (root : ObjectId) (subdevices : List (Option ObjectId))
    (index : Nat) (handle : H) (settings : Settings) : Logged (Option Port) :=
  match stack.portProperties handle with
  | .error fault => do
    Logged.detail s!"  port #{index}: no properties: {fault}"
    return none
  | .ok properties => do
    match ← portOwner root subdevices index properties settings with
    | none => return none
    | some (owner, parent) =>
      match stack.portState handle with
      | .error fault =>
        Logged.detail s!"  port #{index}: no state: {fault}"
        return none
      | .ok state =>
        if state.status.isUsable then return some { owner, root := parent, properties, state }
        else
          Logged.detail s!"    status {state.status.text} isn't healthy or degraded"
          return none

/-- Keep a port. -/
def PortList.keep (ports : PortList) (port : Port) : Logged PortList := do
  let (status, position) := (port.state.status.text, ports.size)
  let (id, remote) := (port.properties.id, port.state.remote)
  Logged.detail
    s!"    status is {status}, this will be port #{position}, {id} connected to remote {remote}"
  return ports.push port

/-- Keep the port behind a handle if it is usable, and count it. -/
def keepIfUsable (stack : Stack H) (root : ObjectId) (subdevices : List (Option ObjectId))
    (settings : Settings) : PortList × Nat → H × Nat → Logged (PortList × Nat)
  | (ports, kept), (handle, index) => do
    match ← readPort stack root subdevices index handle settings with
    | some port => return (← ports.keep port, kept + 1)
    | none => return (ports, kept)

/-- Keep those ports of a list of handles that are usable. Their number comes back beside the
list. -/
def keepUsable (stack : Stack H) (root : ObjectId) (subdevices : List (Option ObjectId))
    (ports : PortList) (handles : List H) (settings : Settings) : Logged (PortList × Nat) :=
  handles.zipIdx.foldlM (keepIfUsable stack root subdevices settings) (ports, 0)

/-- Keep the usable ports of a device and its subdevices, if they are listed and there is room for
all that are. -/
def scanPorts (stack : Stack H) (managed : H) (root : ObjectId)
    (subdevices : List (Option ObjectId)) (ports : PortList) (settings : Settings := .verbose) :
    Logged (PortList × Nat) :=
  match stack.fabricPorts managed with
  | .error fault => do
    Logged.detail s!"no fabric ports for {root}: {fault}"
    return (ports, 0)
  | .ok [] => return (ports, 0)
  | .ok handles => do
    Logged.detail s!"device {root} has {handles.length} fabric ports"
    match ports.reserve handles.length with
    | .ok ports => keepUsable stack root subdevices ports handles settings
    | .error full =>
      Logged.detail s!"dropping fabric ports of {root}: {full}"
      return (ports, 0)

end DeviceAtlas
