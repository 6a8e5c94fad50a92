import DeviceAtlas.Distance
import DeviceAtlas.Journal
import DeviceAtlas.Object

/-!
# Topologies

A topology owns its objects and gives out their numbers. Objects are allocated outside of the
tree, described, and then inserted under a parent, where they stay. The object with number zero is
the machine, the root of the tree.

* `Topology.object?_allocate`, `Topology.object?_modify`: what the two basic changes do to each
  object.
* `Topology.insert_eq_ok_iff`: when an insertion succeeds, and what it leaves.
-/

namespace DeviceAtlas

/-- Choices that hold for a whole topology. -/
structure TopologyOptions where
  bits : UInt32
  deriving DecidableEq, Repr

namespace TopologyOptions

/-- The names of the bits. -/
def table : NamedBits := ⟨"TopologyFlags", [("NO_DISTANCES", 1)]⟩

/-- Whether distances are not to be gathered. -/
def noDistances (o : TopologyOptions) : Bool := o.bits &&& 1 = 1

/-- The bits under the name of the family, for messages. -/
def describe (o : TopologyOptions) : String := table.describe o.bits

end TopologyOptions

/-- Why the tree does not change. -/
inductive TopologyError where
  /-- There is no object of this number. -/
  | unknownObject (id : ObjectId)
  /-- The object is in the tree already. -/
  | alreadyInserted (id : ObjectId)
  /-- The parent is not in the tree. -/
  | detachedParent (id : ObjectId)
  /-- Nothing goes under itself, and the root stays where it is. -/
  | invalidParent (child parent : ObjectId)
  deriving DecidableEq, Repr

/-- What to tell a reader about the error. -/
def TopologyError.message : TopologyError → String
  | .unknownObject id => s!"unknown object {id}"
  | .alreadyInserted id => s!"object {id} is already inserted"
  | .detachedParent id => s!"parent {id} is not inserted in the tree"
  | .invalidParent child parent => s!"object {child} can not be inserted under {parent}"

instance : ToString TopologyError := ⟨TopologyError.message⟩

/-- The objects, what is known of them all together, and the matrices between them. -/
structure Topology where
  objects : Array Object
  /-- What is kept of each kind. -/
  filter : ObjectKind → KindFilter
  options : TopologyOptions
  infos : InfoMap
  /-- In the order in which they were stored. -/
  distances : List Distance.Matrix
  rooted : 0 < objects.size

namespace Topology

/-- A topology of a machine and nothing else. Of bridges and devices only those that are likely to
matter are kept. -/
def initial : Topology where
  objects := #[{ kind := .machine, osIndex := some 0 }]
  filter kind := if kind.isIo then .keepImportant else .keepAll
  options := ⟨0⟩
  infos := .empty
  distances := []
  rooted := by decide

instance : Inhabited Topology := ⟨initial⟩

/-- The number of the machine. -/
def root : ObjectId := ⟨0⟩

/-! ## Looking -/

/-- How many objects there are, in the tree or not. -/
def size (t : Topology) : Nat := t.objects.size

/-- The object of a number. -/
def object? (t : Topology) (id : ObjectId) : Option Object := t.objects[id.index]?

/-- The machine. -/
def machine (t : Topology) : Object :=
  have := t.rooted
  t.objects[0]

@[simp] theorem object?_root (t : Topology) : t.object? root = some t.machine := by
  have := t.rooted
  simp [object?, root, machine]

/-- The numbers of all objects, in order. -/
def ids (t : Topology) : List ObjectId := (List.range t.size).map ObjectId.mk

/-- Whether an object is in the tree: the root is, and whatever has a parent. -/
def isInserted (t : Topology) (id : ObjectId) : Bool :=
  id = root || (t.object? id).any (·.parent.isSome)

/-- The objects of a kind that are in the tree, in the order of their numbers. -/
def insertedOfKind (t : Topology) (kind : ObjectKind) : List ObjectId :=
  t.ids.filter fun id => (t.object? id).any (·.kind = kind) && t.isInserted id

/-- The info of an object under a key. -/
def info? (t : Topology) (id : ObjectId) (key : String) : Option String :=
  (t.object? id).bind (·.info? key)

/-! ## Changing -/

/-- Put a new object beside the others, outside of the tree. Its number is the number of objects
that there were. -/
def allocate (t : Topology) (kind : ObjectKind) (osIndex : Option UInt64 := none) :
    Topology × ObjectId :=
  ({ t with objects := t.objects.push { kind, osIndex }, rooted := by simp }, ⟨t.size⟩)

/-- Change one object, if it is there. -/
def modify (t : Topology) (id : ObjectId) (change : Object → Object) : Topology :=
  { t with objects := t.objects.modify id.index change, rooted := by simpa using t.rooted }

/-- Change one object, which has to be there. -/
def modifyKnown (t : Topology) (id : ObjectId) (change : Object → Object) :
    Except TopologyError Topology :=
  if id.index < t.size then .ok (t.modify id change) else .error (.unknownObject id)

/-- Name an object. -/
def setName (t : Topology) (id : ObjectId) (name : String) : Except TopologyError Topology :=
  t.modifyKnown id fun o => { o with name := some name }

/-- Give an object a subtype. -/
def setSubtype (t : Topology) (id : ObjectId) (subtype : String) :
    Except TopologyError Topology :=
  t.modifyKnown id fun o => { o with subtype := some subtype }

/-- Give an object typed attributes. -/
def setAttributes (t : Topology) (id : ObjectId) (attributes : Attributes) :
    Except TopologyError Topology :=
  t.modifyKnown id fun o => { o with attributes := some attributes }

/-- Write an info of an object, in place of one under the same key. -/
def addInfo (t : Topology) (id : ObjectId) (key value : String) :
    Except TopologyError Topology :=
  t.modifyKnown id fun o => { o with infos := o.infos.insert key value }

/-- The PCI device that an object's attributes describe. -/
def pciDevice? (t : Topology) (id : ObjectId) : Option Pci.Device :=
  (t.object? id).bind fun o => o.attributes.bind Attributes.pci?

/-- The bridge that an object's attributes describe. -/
def bridge? (t : Topology) (id : ObjectId) : Option Pci.Bridge :=
  (t.object? id).bind fun o => o.attributes.bind Attributes.bridge?

/-- Record the link bandwidth of an object, if its attributes are those of a PCI device. -/
def setMaxBandwidth (t : Topology) (id : ObjectId) (bandwidth : UInt64) : Topology :=
  t.modify id fun o => { o with attributes := o.attributes.map (·.withMaxBandwidth bandwidth) }

/-- Write an info of the whole topology. -/
def addTopologyInfo (t : Topology) (key value : String) : Topology :=
  { t with infos := t.infos.insert key value }

/-- Choose what is kept of a kind. -/
def setFilter (t : Topology) (kind : ObjectKind) (choice : KindFilter) : Topology :=
  { t with filter := fun k => if k = kind then choice else t.filter k }

/-- Replace the options. -/
def setOptions (t : Topology) (options : TopologyOptions) : Topology := { t with options }

/-! ## What the basic changes do to each object -/

@[simp] theorem size_allocate (t : Topology) (kind : ObjectKind) (osIndex : Option UInt64) :
    (t.allocate kind osIndex).1.size = t.size + 1 := by
  simp [allocate, size]

/-- The new object has the next number, and the others stay as they are. -/
theorem object?_allocate (t : Topology) (kind : ObjectKind) (osIndex : Option UInt64)
    (id : ObjectId) :
    (t.allocate kind osIndex).1.object? id =
      if id.index = t.size then some { kind, osIndex } else t.object? id := by
  simp only [allocate, object?, Array.getElem?_push]
  rfl

@[simp] theorem size_modify (t : Topology) (id : ObjectId) (change : Object → Object) :
    (t.modify id change).size = t.size := by
  simp [modify, size]

/-- Only the object of that number changes. -/
theorem object?_modify (t : Topology) (id other : ObjectId) (change : Object → Object) :
    (t.modify id change).object? other =
      if other = id then (t.object? other).map change else t.object? other := by
  obtain ⟨i⟩ := id
  obtain ⟨j⟩ := other
  simp only [modify, object?, Array.getElem?_modify, ObjectId.mk.injEq]
  by_cases h : i = j
  · simp [h]
  · simp [h, Ne.symm h]

/-- An object is there exactly when its number was given out. -/
theorem object?_isSome_iff (t : Topology) (id : ObjectId) :
    (t.object? id).isSome ↔ id.index < t.size := by
  simp [object?, size]

/-! ## Where a device belongs

A driver stack reports its devices by PCI address. A device goes under the PCI device of the tree
that has this very address, or else under the bridge of the tree that leads to it most closely.
-/

/-- The first PCI device of the tree at an address. -/
def pciDeviceAt? (t : Topology) (address : Pci.Address) : Option ObjectId :=
  (t.insertedOfKind .pciDevice).find? fun id => (t.pciDevice? id).any (·.address = address)

/-- The bridges of the tree that cover an address, each with the number of buses behind it. -/
def coveringBridges (t : Topology) (address : Pci.Address) : List (Nat × ObjectId) :=
  (t.insertedOfKind .bridge).filterMap fun id =>
    ((t.bridge? id).filter (·.covers address)).map fun b => (b.width, id)

/-- The bridge of the tree with the fewest buses that covers an address, the first of several. -/
def narrowestBridge? (t : Topology) (address : Pci.Address) : Option ObjectId :=
  ((t.coveringBridges address).minOn? (·.1)).map (·.2)

/-- The object of the tree that a device at this address belongs under. -/
def findParent (t : Topology) (address : Pci.Address) : Logged (Option ObjectId) :=
  match t.pciDeviceAt? address with
  | some device => pure (some device)
  | none =>
    match t.narrowestBridge? address with
    | some bridge => pure (some bridge)
    | none => do
      Logged.detail s!"no pci parent found for {address}"
      return none

/-! ## Inserting into the tree

A detached object becomes the last child of an object of the tree. An object that is in the tree
never leaves its place.
-/

/-- Join a child to a parent at both ends. -/
def link (t : Topology) (parent child : ObjectId) : Topology :=
  (t.modify child fun o => { o with parent := some parent }).modify parent
    fun o => { o with children := o.children ++ [child] }

/-- Insert a detached object as the last child of an object of the tree. -/
def insert (t : Topology) (parent child : ObjectId) : Except TopologyError Topology :=
  if parent = child ∨ child = root then .error (.invalidParent child parent)
  else if t.object? parent = none then .error (.unknownObject parent)
  else if !t.isInserted parent then .error (.detachedParent parent)
  else if t.object? child = none then .error (.unknownObject child)
  else if t.isInserted child then .error (.alreadyInserted child)
  else .ok (t.link parent child)

/-- An insertion succeeds when the child is known, not in the tree and not the parent itself, and
the parent is in the tree; then it joins the two. -/
theorem insert_eq_ok_iff {t t' : Topology} {parent child : ObjectId} :
    t.insert parent child = .ok t' ↔
      parent ≠ child ∧ (t.object? child).isSome ∧ t.isInserted child = false ∧
        (t.object? parent).isSome ∧ t.isInserted parent ∧ t' = t.link parent child := by
  have inserted_root : t.isInserted root = true := by simp [isInserted]
  unfold insert
  by_cases h1 : parent = child ∨ child = root
  · rw [if_pos h1]
    rcases h1 with rfl | rfl
    · simp
    · simp [inserted_root]
  · rw [if_neg h1]
    simp only [not_or] at h1
    cases hp : t.object? parent with
    | none => simp
    | some p =>
      cases hc : t.object? child with
      | none => cases t.isInserted parent <;> simp
      | some c =>
        cases t.isInserted parent <;> cases t.isInserted child <;> simp [h1.1, eq_comm]

/-! ## Matrices

A pending matrix may take its objects from the tree of a topology only, and is then stored there
for good.
-/

/-- Give a pending matrix objects of the tree and values between them. -/
def attach (t : Topology) (p : Distance.Pending) (content : Distance.Content) :
    Except Distance.Failure Distance.Pending :=
  p.attach t.isInserted content

/-- Store a pending matrix that has values. -/
def store (t : Topology) (p : Distance.Pending) (options : Distance.StoreOptions) :
    Logged (Except Distance.Failure Topology) :=
  match p.content with
  | none => pure (.error (.notAttached p.name))
  | some content => do
    let count := content.objects.length
    let (kind, flags) := (p.kind.describe, options.describe)
    Logged.detail
      s!"committing distance matrix {p.name} ({count} objects, kind {kind}, flags {flags})"
    let matrix := { content with name := p.name, kind := p.kind }
    return .ok { t with distances := t.distances ++ [matrix] }

/-- The first stored matrix of a name. -/
def matrixNamed? (t : Topology) (name : String) : Option Distance.Matrix :=
  t.distances.find? (·.name = name)

end Topology

end DeviceAtlas
