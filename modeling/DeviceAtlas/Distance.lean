import DeviceAtlas.Json
import DeviceAtlas.Object
import DeviceAtlas.Text

/-!
# Distance matrices

A matrix relates objects pairwise: at row `i` and column `j` of its values, which are kept row by
row, stands the distance from its `i`-th object to its `j`-th. A matrix is first announced by name
and kind, then given its objects and values, and only then stored; each step has its own ways to
fail.
-/

namespace DeviceAtlas.Distance

/-! ## Kinds

A kind says where the values of a matrix come from and what they mean.
-/

/-- Source and meaning of the values of a matrix. -/
structure Kind where
  bits : UInt32
  deriving DecidableEq, Repr, Ord

namespace Kind

/-- The values come from the operating system or a driver stack. -/
def fromOs : Kind := ⟨1⟩

/-- The values come from the user. -/
def fromUser : Kind := ⟨2⟩

/-- The values are latencies, of which the lower is better. -/
def meansLatency : Kind := ⟨4⟩

/-- The values are bandwidths, of which the higher is better. -/
def meansBandwidth : Kind := ⟨8⟩

/-- The objects are of different types. -/
def heterogeneousTypes : Kind := ⟨16⟩

/-- The names of the bits. -/
def table : NamedBits :=
  ⟨"DistancesKind",
   [("FROM_OS", fromOs.bits), ("FROM_USER", fromUser.bits), ("MEANS_LATENCY", meansLatency.bits),
    ("MEANS_BANDWIDTH", meansBandwidth.bits), ("HETEROGENEOUS_TYPES", heterogeneousTypes.bits)]⟩

instance : OrOp Kind := ⟨fun a b => ⟨a.bits ||| b.bits⟩⟩

/-- Whether a kind has every bit of another. -/
def has (k other : Kind) : Bool := k.bits &&& other.bits = other.bits

/-- A kind makes sense if it has one source and one meaning. -/
def isValid (k : Kind) : Bool :=
  (k.has fromOs != k.has fromUser) && (k.has meansLatency != k.has meansBandwidth)

/-- Measured bandwidths. -/
def measuredBandwidth : Kind := fromOs ||| meansBandwidth

/-- The bits under the name of the family, for messages. -/
def describe (k : Kind) : String := table.describe k.bits

/-- The written bits. -/
def toJson (k : Kind) : Json := .text (table.text k.bits)

/-- Read written bits. -/
def ofJson? (j : Json) : Option Kind :=
  j.text?.bind fun text => (table.read text).map Kind.mk

end Kind

/-- What may be done with a matrix when it is stored. -/
structure StoreOptions where
  bits : UInt32
  deriving DecidableEq, Repr

namespace StoreOptions

/-- Nothing. -/
def none : StoreOptions := ⟨0⟩

/-- The names of the bits: objects that are close to each other may be grouped, and distances may
be taken for equal where they nearly are. -/
def table : NamedBits :=
  ⟨"DistancesAddFlags", [("GROUP", 1), ("GROUP_INACCURATE", 2)]⟩

/-- The bits under the name of the family, for messages. -/
def describe (o : StoreOptions) : String := table.describe o.bits

end StoreOptions

/-! ## Failures -/

/-- Why a step towards a matrix fails. -/
inductive Failure where
  /-- A matrix has to have a name. -/
  | emptyName
  /-- A kind has to have one source and one meaning. -/
  | invalidKind (kind : Kind)
  /-- A matrix has to relate something. -/
  | noObjects (name : String)
  /-- There have to be as many values as pairs of objects. -/
  | sizeMismatch (name : String) (expected found : Nat)
  /-- An object is not in the tree. -/
  | unknownObject (id : ObjectId)
  /-- An object occurs again. -/
  | duplicateObject (id : ObjectId)
  /-- There are no values to store. -/
  | notAttached (name : String)
  /-- There are values already. -/
  | alreadyAttached (name : String)
  deriving DecidableEq, Repr

/-- What to tell a reader about the failure. -/
def Failure.message : Failure → String
  | .emptyName => "distance matrix name may not be empty"
  | .invalidKind kind => s!"invalid distance matrix kind {kind.describe}"
  | .noObjects name => s!"distance matrix {name} has no objects"
  | .sizeMismatch name expected found =>
    s!"distance matrix {name} expects {expected} values, got {found}"
  | .unknownObject id => s!"object {id} is not part of the topology"
  | .duplicateObject id => s!"object {id} appears more than once"
  | .notAttached name => s!"distance matrix {name} has no values attached"
  | .alreadyAttached name => s!"distance matrix {name} already has values attached"

instance : ToString Failure := ⟨Failure.message⟩

/-! ## Pending matrices -/

/-- The objects of a matrix and its values, row by row. -/
structure Content where
  objects : List ObjectId
  values : Array UInt64
  deriving DecidableEq, Repr

/-- A matrix that was announced. -/
structure Pending where
  name : String
  kind : Kind
  content : Option Content := none
  deriving DecidableEq, Repr

/-- Announce a matrix. -/
def Pending.announce (name : String) (kind : Kind) : Except Failure Pending :=
  if name = "" then .error .emptyName
  else if kind.isValid then .ok { name, kind }
  else .error (.invalidKind kind)

/-- Look for the first object that is no member, or that came before. Of both faults in one place
the first counts. -/
def checkObjects (isMember : ObjectId → Bool) (before : List ObjectId) :
    List ObjectId → Except Failure Unit
  | [] => .ok ()
  | id :: rest =>
    if !isMember id then .error (.unknownObject id)
    else if id ∈ before then .error (.duplicateObject id)
    else checkObjects isMember (before ++ [id]) rest

/-- Give a pending matrix its content, which has to relate at least one object, be square, and
name members only, each once. -/
def Pending.attach (isMember : ObjectId → Bool) (p : Pending) (content : Content) :
    Except Failure Pending :=
  if p.content.isSome then .error (.alreadyAttached p.name)
  else if content.objects.isEmpty then .error (.noObjects p.name)
  else
    let expected := content.objects.length * content.objects.length
    if content.values.size ≠ expected then
      .error (.sizeMismatch p.name expected content.values.size)
    else
      (checkObjects isMember [] content.objects).map fun _ => { p with content := some content }

/-! ## Stored matrices -/

/-- A matrix with all its parts. -/
structure Matrix extends Content where
  name : String
  kind : Kind
  deriving DecidableEq, Repr

namespace Matrix

/-- Where an object stands in the matrix. -/
def indexOf? (m : Matrix) (id : ObjectId) : Option Nat := m.objects.idxOf? id

/-- The value from one object to another, if the matrix relates both. -/
def value? (m : Matrix) (source target : ObjectId) : Option UInt64 := do
  let row ← m.indexOf? source
  let column ← m.indexOf? target
  m.values[row * m.objects.length + column]?

/-- The parts of the matrix as an object. -/
def toJson (m : Matrix) : Json :=
  .object
    [("name", .text m.name), ("kind", m.kind.toJson),
     ("objects", .ofList ObjectId.toJson m.objects),
     ("values", .ofList (fun v => .ofNat v.toNat) m.values.toList)]

/-- Read the parts of a matrix; whether they fit together is not looked at. -/
def ofJson? (j : Json) : Option Matrix := do
  let j := j.record ["name", "kind", "objects", "values"] 4
  let name ← j.required "name" Json.text?
  let kind ← j.required "kind" Kind.ofJson?
  let objects ← j.required "objects" (Json.listOf? ObjectId.ofJson?)
  let values ← j.required "values" (Json.listOf? Json.uint64?)
  return { name, kind, objects, values := values.toArray }

end Matrix

end DeviceAtlas.Distance
