import DeviceAtlas.InfoMap
import DeviceAtlas.Json
import DeviceAtlas.Pci
import DeviceAtlas.Text

/-!
# Objects

The things that a topology is made of. An object is known by its number, which it gets when it is
allocated; it has a kind, and whatever else is known of it. Objects of the three kinds that lead to
devices carry attributes of their kind.
-/

namespace DeviceAtlas

/-! ## Devices of the operating system

What the operating system, or a driver stack, has a name for: accelerators, network interfaces,
block devices. Each belongs to any number of classes.
-/

namespace OsDevice

/-- The classes that a device belongs to. -/
structure Classes where
  bits : UInt32
  deriving DecidableEq, Repr, Ord

namespace Classes

/-- The names of the classes. -/
def table : NamedBits :=
  ⟨"OsDeviceType",
   [("STORAGE", 1), ("GPU", 2), ("NETWORK", 4), ("OPENFABRICS", 8), ("DMA", 16), ("COPROC", 32),
    ("MEMORY", 64)]⟩

/-- A processor for graphics or compute work that a compute stack drives. -/
def accelerator : Classes := ⟨32 ||| 2⟩

/-- The classes under the name of the family, for messages. -/
def describe (c : Classes) : String := table.describe c.bits

/-- The written classes. -/
def toJson (c : Classes) : Json := .text (table.text c.bits)

/-- Read written classes. -/
def ofJson? (j : Json) : Option Classes :=
  j.text?.bind fun text => (table.read text).map Classes.mk

end Classes

end OsDevice

/-! ## Typed attributes -/

/-- What is known of a bridge, a PCI device or a device of the operating system. -/
inductive Attributes where
  | pci (device : Pci.Device)
  | bridge (bridge : Pci.Bridge)
  | osDevice (classes : OsDevice.Classes)
  deriving DecidableEq, Repr, Ord

namespace Attributes

/-- The name of the case, which tags the written form. -/
def tag : Attributes → String
  | .pci _ => "Pci"
  | .bridge _ => "Bridge"
  | .osDevice _ => "OsDevice"

/-- The PCI device, if that is what the attributes are about. -/
def pci? : Attributes → Option Pci.Device
  | .pci d => some d
  | _ => none

/-- The bridge, if that is what the attributes are about. -/
def bridge? : Attributes → Option Pci.Bridge
  | .bridge b => some b
  | _ => none

/-- The same attributes with a link bandwidth, which only PCI devices have. -/
def withMaxBandwidth (bandwidth : UInt64) : Attributes → Attributes
  | .pci d => .pci (d.withMaxBandwidth bandwidth)
  | other => other

/-- An object with the tag and the fields of the case. -/
def toJson (a : Attributes) : Json :=
  .object (("type", .text a.tag) :: match a with
    | .pci d => d.fields
    | .bridge b => b.fields
    | .osDevice c => [("types", c.toJson)])

/-- Read the fields that the tag asks for. -/
def ofJson? (j : Json) : Option Attributes := do
  let (tag, j) ← j.tagged? "type"
  match ← tag.text? with
  | "Pci" => (Pci.Device.ofJson? j).map .pci
  | "Bridge" => (Pci.Bridge.ofJson? j).map .bridge
  | "OsDevice" => ((j.record ["types"] 1).required "types" OsDevice.Classes.ofJson?).map .osDevice
  | _ => none

end Attributes

/-! ## Objects -/

/-- The number of an object. Numbers are given out in order and never again. -/
structure ObjectId where
  index : Nat
  deriving DecidableEq, Repr, Ord, Hashable

namespace ObjectId

instance : Inhabited ObjectId := ⟨⟨0⟩⟩

/-- The number after a hash sign, for messages. -/
def toText (id : ObjectId) : String := "#" ++ toString id.index

instance : ToString ObjectId := ⟨toText⟩

/-- The bare number. -/
def toJson (id : ObjectId) : Json := .ofNat id.index

/-- Read a number of sixty-four bits. -/
def ofJson? (j : Json) : Option ObjectId := (j.nat? UInt64.size).map ObjectId.mk

end ObjectId

/-- What an object is. -/
inductive ObjectKind where
  /-- The whole machine, at the root of every topology. -/
  | machine
  /-- A processor package. -/
  | package
  /-- A memory node. -/
  | numaNode
  /-- A group of objects that structure asks for. -/
  | group
  /-- A PCI bridge. -/
  | bridge
  /-- A PCI device. -/
  | pciDevice
  /-- A device of the operating system. -/
  | osDevice
  /-- Anything else. -/
  | misc
  deriving DecidableEq, Repr, Ord

namespace ObjectKind

/-- All kinds, in order. -/
def all : List ObjectKind :=
  [.machine, .package, .numaNode, .group, .bridge, .pciDevice, .osDevice, .misc]

/-- What the kind is called in a tree. -/
def text : ObjectKind → String
  | .machine => "Machine"
  | .package => "Package"
  | .numaNode => "NUMANode"
  | .group => "Group"
  | .bridge => "Bridge"
  | .pciDevice => "PCIDevice"
  | .osDevice => "OSDevice"
  | .misc => "Misc"

/-- What the kind is called where it is written alone. -/
def name : ObjectKind → String
  | .numaNode => "NumaNode"
  | .pciDevice => "PciDevice"
  | .osDevice => "OsDevice"
  | kind => kind.text

/-- The kind of this name. -/
def ofName? (name : String) : Option ObjectKind :=
  all.find? (·.name = name)

/-- Read a name, which may also stand over null as the only field of an object. -/
def ofJson? : Json → Option ObjectKind
  | .text name | .object [(name, .null)] => ofName? name
  | _ => none

/-- Bridges and devices, through which data come and go. -/
def isIo : ObjectKind → Bool
  | .bridge | .pciDevice | .osDevice => true
  | _ => false

end ObjectKind

/-- Which objects of a kind a topology keeps. -/
inductive KindFilter where
  | keepAll
  | keepNone
  /-- Those that bring structure to the tree. -/
  | keepStructure
  /-- Those that are likely to matter. -/
  | keepImportant
  deriving DecidableEq, Repr

namespace KindFilter

/-- All filters. -/
def all : List KindFilter := [.keepAll, .keepNone, .keepStructure, .keepImportant]

/-- What the filter is called. -/
def name : KindFilter → String
  | .keepAll => "KeepAll"
  | .keepNone => "KeepNone"
  | .keepStructure => "KeepStructure"
  | .keepImportant => "KeepImportant"

/-- The filter of this name. -/
def ofName? (name : String) : Option KindFilter :=
  all.find? (·.name = name)

end KindFilter

/-- What is known of an object. Its place in the tree is known at both ends: by its parent and in
its parent's list of children. -/
structure Object where
  kind : ObjectKind
  /-- A finer class, such as the driver stack that exposed a device. -/
  subtype : Option String := none
  /-- The number that the operating system gave. -/
  osIndex : Option UInt64 := none
  name : Option String := none
  infos : InfoMap := .empty
  attributes : Option Attributes := none
  /-- Missing for the root and for objects that are not in the tree yet. -/
  parent : Option ObjectId := none
  /-- In the order of insertion. -/
  children : List ObjectId := []
  deriving DecidableEq

/-- The info under a key. -/
def Object.info? (o : Object) (key : String) : Option String := o.infos.get? key

end DeviceAtlas
