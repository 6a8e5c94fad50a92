import DeviceAtlas.Discovery.Settings
import DeviceAtlas.Number
import DeviceAtlas.Stack.Basic
import DeviceAtlas.Topology.Basic

/-!
# Facts about a device

What a driver stack knows of a device becomes infos of the device's object. A call that fails only
leaves its infos out. Nothing that collects facts looks at the topology: the facts are notes, to be
taken down by whoever has one.
-/

namespace DeviceAtlas

/-! ## Info keys

The keys under which discovery writes what it finds, and the texts that stand for a name.
-/

namespace InfoKey

/-- The subtype of every object that discovery adds. -/
def subtype : String := "LevelZero"

/-- Key and value of the topology's info that discovery was here. -/
def backend : String × String := ("Backend", "LevelZero")

def driverIndex : String := "LevelZeroDriverIndex"

def driverDeviceIndex : String := "LevelZeroDriverDeviceIndex"

def deviceType : String := "LevelZeroDeviceType"

def slices : String := "LevelZeroNumSlices"

def subslicesPerSlice : String := "LevelZeroNumSubslicesPerSlice"

def eusPerSubslice : String := "LevelZeroNumEUsPerSubslice"

def threadsPerEu : String := "LevelZeroNumThreadsPerEU"

def uuid : String := "LevelZeroUUID"

def vendor : String := "LevelZeroVendor"

def model : String := "LevelZeroModel"

def brand : String := "LevelZeroBrand"

def serialNumber : String := "LevelZeroSerialNumber"

def boardNumber : String := "LevelZeroBoardNumber"

def queueGroups : String := "LevelZeroCQGroups"

/-- The key of one group of command queues. -/
def queueGroup (index : Nat) : String := s!"LevelZeroCQGroup{index}"

/-- The key of the number of subdevices that are registered right after a device. -/
def subdevices : String := "LevelZeroSubdevices"

def subdeviceId : String := "LevelZeroSubdeviceID"

/-- The key of the size of memory of a class. -/
def memorySize (c : Stack.MemoryClass) : String := s!"LevelZero{c.text}Size"

/-- Whether a text says that there is nothing to say; case does not matter. -/
def isUnknown (text : String) : Bool := text.toLower = "unknown"

end InfoKey

/-! ## Notes

Whoever collects facts about objects answers with notes: infos to write, and messages between
them. Taking down the notes changes nothing of an object but its infos.
-/

/-- Something to take down. -/
inductive Note where
  /-- An info of an object. -/
  | info (id : ObjectId) (key value : String)
  | message (m : Message)
  deriving DecidableEq, Repr

namespace Note

/-- A detail. -/
def detail (text : String) : Note := .message ⟨.detail, text⟩

/-- An advisory, if the settings ask for it. -/
def advise (settings : Settings) (text : String) : List Note :=
  if settings.showAdvisories then [.message ⟨.advisory, text⟩] else []

end Note

namespace Topology

/-- Write an info; an object that is not there is only mentioned. -/
def annotate (t : Topology) (id : ObjectId) (key value : String) : Logged Topology :=
  match t.addInfo id key value with
  | .ok t => pure t
  | .error error => do
    Logged.detail s!"can not annotate {id}: {error}"
    return t

/-- Take down one note. -/
def takeNote (t : Topology) : Note → Logged Topology
  | .info id key value => t.annotate id key value
  | .message m => ⟨t, [m]⟩

/-- Take down notes in their order. -/
def takeNotes (t : Topology) (notes : List Note) : Logged Topology :=
  notes.foldlM takeNote t

end Topology

variable {H : Type}

/-! ## Type, shape and identity -/

/-- The type of a device, which may be one that nobody knows. -/
def typeNotes (id : ObjectId) (raw : UInt32) (settings : Settings) : List Note :=
  match Stack.DeviceType.ofRaw? raw with
  | some type => [.info id InfoKey.deviceType type.text]
  | none =>
    Note.advise settings s!"unexpected device type {raw} for {id}" ++
    [.info id InfoKey.deviceType "Unknown"]

/-- The type, the shape and the identity of a device. -/
def propertyNotes (id : ObjectId) (p : Stack.DeviceProperties) (settings : Settings) :
    List Note :=
  typeNotes id p.deviceType settings ++
  [.info id InfoKey.slices (toString p.slices.toNat),
   .info id InfoKey.subslicesPerSlice (toString p.subslicesPerSlice.toNat),
   .info id InfoKey.eusPerSubslice (toString p.eusPerSubslice.toNat),
   .info id InfoKey.threadsPerEu (toString p.threadsPerEu.toNat),
   .info id InfoKey.uuid p.uuid.toText]

/-! ## What the management side knows -/

/-- The texts of the management side, those that say nothing left out. -/
def managementInfos (p : Stack.ManagementProperties) : List (String × String) :=
  [(InfoKey.vendor, p.vendor), (InfoKey.model, p.model), (InfoKey.brand, p.brand),
   (InfoKey.serialNumber, p.serialNumber), (InfoKey.boardNumber, p.boardNumber)].filter
    fun entry => !InfoKey.isUnknown entry.2

/-- What the management side knows of a device. -/
def managementNotes (stack : Stack H) (managed : H) (id : ObjectId) : List Note :=
  match stack.managementProperties managed with
  | .ok p => (managementInfos p).map fun entry => .info id entry.1 entry.2
  | .error fault => [.detail s!"no management properties for {id}: {fault}"]

/-- The facts about a device whose properties are known. The management side is asked about
devices that are not part of another one. -/
def knownDeviceNotes (stack : Stack H) (managed : H) (id : ObjectId)
    (p : Stack.DeviceProperties) (settings : Settings) : List Note :=
  propertyNotes id p settings ++
  if p.traits.isSubdevice then [] else managementNotes stack managed id

/-- The facts about a device, whose properties are asked for unless they are given. -/
def deviceNotes (stack : Stack H) (device managed : H) (id : ObjectId)
    (given : Option Stack.DeviceProperties) (settings : Settings := .verbose) : List Note :=
  match given.elim (stack.deviceProperties device) .ok with
  | .ok p => knownDeviceNotes stack managed id p settings
  | .error fault => [.detail s!"no properties for {id}: {fault}"]

/-- Properties that are given are not asked for. -/
@[simp] theorem deviceNotes_some (stack : Stack H) (device managed : H) (id : ObjectId)
    (p : Stack.DeviceProperties) (settings : Settings) :
    deviceNotes stack device managed id (some p) settings =
      knownDeviceNotes stack managed id p settings := rfl

/-- Properties that are asked for are those that the device tells. -/
theorem deviceNotes_none {stack : Stack H} {device : H} {p : Stack.DeviceProperties}
    (told : stack.deviceProperties device = .ok p) (managed : H) (id : ObjectId)
    (settings : Settings) :
    deviceNotes stack device managed id none settings =
      knownDeviceNotes stack managed id p settings := by
  simp only [deviceNotes, Option.elim_none, told]

/-! ## Command queues -/

/-- How many queues a group has, and what for. -/
def queueGroupText (g : Stack.QueueGroup) : String :=
  toString g.count.toNat ++ "*0x" ++ Numeral.hex 0 g.uses.toNat

/-- The number of command queue groups, and each of them. -/
def queueNotes (stack : Stack H) (device : H) (id : ObjectId) : List Note :=
  match stack.queueGroups device with
  | .ok groups =>
    .info id InfoKey.queueGroups (toString groups.length) ::
    groups.zipIdx.map fun (group, index) =>
      .info id (InfoKey.queueGroup index) (queueGroupText group)
  | .error fault => [.detail s!"no command queue groups for {id}: {fault}"]

/-! ## Memory

The management side lists the memory modules of a device together with those of its subdevices.
A module on a subdevice is noted there; the modules of each class are added up for the device.
Sizes are in kilobytes.
-/

/-- How much memory of either class there is, in kilobytes. -/
structure MemoryTotals where
  hbm : UInt64 := 0
  ddr : UInt64 := 0
  deriving DecidableEq, Repr

namespace MemoryTotals

/-- Count memory in its class; other memory is not counted. -/
def add (totals : MemoryTotals) (c : Stack.MemoryClass) (kilobytes : UInt64) : MemoryTotals :=
  match c with
  | .hbm => { totals with hbm := Capped.add totals.hbm kilobytes }
  | .ddr => { totals with ddr := Capped.add totals.ddr kilobytes }
  | .other => totals

/-- The size of a class, if there is memory of it. -/
def sizeNotes (id : ObjectId) (c : Stack.MemoryClass) (kilobytes : UInt64) : List Note :=
  if 0 < kilobytes then [.info id (InfoKey.memorySize c) (toString kilobytes.toNat)] else []

/-- The size of each class that there is memory of. -/
def notes (totals : MemoryTotals) (id : ObjectId) : List Note :=
  sizeNotes id .hbm totals.hbm ++ sizeNotes id .ddr totals.ddr

end MemoryTotals

/-- What a memory module says: something to note, and its class and size if it has properties. -/
structure ModuleReading where
  notes : List Note
  counted : Option (Stack.MemoryClass × UInt64)

/-- The size of a module in bytes. Some driver stacks know it only from the state of the module. -/
def moduleBytes (stack : Stack H) (module : H) (p : Stack.MemoryProperties) :
    Stack.Answer UInt64 :=
  if p.physicalSize = 0 then (stack.memoryState module).map (·.size) else .ok p.physicalSize

/-- Note a module where it belongs: with its subdevice, if that was created. -/
def placeModule (root : ObjectId) (subdevices : List (Option ObjectId)) (index : Nat)
    (p : Stack.MemoryProperties) (kilobytes : UInt64) (settings : Settings) : List Note :=
  if p.onSubdevice then
    match subdevices[p.subdeviceId.toNat]? with
    | some (some subdevice) =>
      MemoryTotals.sizeNotes subdevice (.ofRaw p.memoryType) kilobytes
    | some none => []
    | none =>
      let id := p.subdeviceId
      Note.advise settings s!"memory module #{index} of {root} on unexpected subdevice #{id}"
  else []

/-- Ask a module about itself. -/
def readModule (stack : Stack H) (root : ObjectId) (subdevices : List (Option ObjectId))
    (index : Nat) (module : H) (settings : Settings) : ModuleReading :=
  match stack.memoryProperties module with
  | .error fault => ⟨[.detail s!"  memory module #{index}: no properties: {fault}"], none⟩
  | .ok p =>
    let (complaint, bytes) := match moduleBytes stack module p with
      | .ok bytes => ([], bytes)
      | .error fault => ([Note.detail s!"  memory module #{index}: no state: {fault}"], 0)
    let kilobytes := bytes >>> 10
    ⟨complaint ++ placeModule root subdevices index p kilobytes settings,
     some (.ofRaw p.memoryType, kilobytes)⟩

/-- The memory of a device: what to note, and the totals. Position `k` of `subdevices` has the
object of subdevice `k`, if it was created. -/
def memoryReport (stack : Stack H) (managed : H) (root : ObjectId)
    (subdevices : List (Option ObjectId)) (settings : Settings := .verbose) :
    List Note × MemoryTotals :=
  match stack.memoryModules managed with
  | .error fault => ([.detail s!"no memory modules for {root}: {fault}"], {})
  | .ok modules =>
    let readings := modules.zipIdx.map fun (module, index) =>
      readModule stack root subdevices index module settings
    let totals := (readings.filterMap (·.counted)).foldl
      (fun totals (c, kilobytes) => totals.add c kilobytes) {}
    (.detail s!"device {root} has {modules.length} memory modules" ::
      readings.flatMap (·.notes) ++ totals.notes root, totals)

end DeviceAtlas
