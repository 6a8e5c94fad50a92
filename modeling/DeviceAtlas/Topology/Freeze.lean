import DeviceAtlas.Object
import DeviceAtlas.Topology.Basic

/-!
# Snapshots

A snapshot is a tree of nodes, each of which tells of one object. Snapshots are compared, walked
depth first, and written as nested JSON objects. Freezing a topology gives its tree as one value,
apart from the objects that are not in it.

* `Snapshot.preorder`: a node comes before those below it, and children follow in their order.
-/

namespace DeviceAtlas

/-- What a node of a snapshot tells of its object. -/
structure SnapshotLabel where
  id : ObjectId
  /-- What the kind of the object is called. -/
  kind : String
  subtype : Option String := none
  osIndex : Option UInt64 := none
  name : Option String := none
  infos : InfoMap := .empty
  attributes : Option Attributes := none
  deriving DecidableEq, Ord

/-- A frozen tree of objects. -/
inductive Snapshot where
  | node (label : SnapshotLabel) (children : List Snapshot)

/-- What a snapshot tells of an object. -/
def Object.label (id : ObjectId) (o : Object) : SnapshotLabel where
  id
  kind := o.kind.text
  subtype := o.subtype
  osIndex := o.osIndex
  name := o.name
  infos := o.infos
  attributes := o.attributes

namespace Snapshot

/-- What is told at the top. -/
def label : Snapshot → SnapshotLabel
  | node label _ => label

/-- The trees right below the top. -/
def children : Snapshot → List Snapshot
  | node _ children => children

/-! ## Walking -/

mutual

/-- The tree and all trees in it, each before those below it. -/
def preorder : Snapshot → List Snapshot
  | node label children => node label children :: preorderAll children

/-- The trees of a list, one after the other, each with all trees in it. -/
def preorderAll : List Snapshot → List Snapshot
  | [] => []
  | s :: rest => preorder s ++ preorderAll rest

end

theorem preorderAll_eq_flatMap (trees : List Snapshot) :
    preorderAll trees = trees.flatMap preorder := by
  induction trees with
  | nil => rfl
  | cons s rest ih => rw [preorderAll, ih, List.flatMap_cons]

/-! ## Order -/

mutual

/-- Trees compare by their labels, then by their children. -/
def order : Snapshot → Snapshot → Ordering
  | node a as, node b bs => (compare a b).then (orderAll as bs)

/-- Lists of trees compare tree by tree; a list comes before its continuations. -/
def orderAll : List Snapshot → List Snapshot → Ordering
  | [], [] => .eq
  | [], _ :: _ => .lt
  | _ :: _, [] => .gt
  | a :: as, b :: bs => (order a b).then (orderAll as bs)

end

instance : Ord Snapshot := ⟨order⟩

/-! ## JSON form -/

/-- The fields of a label. What is unknown or empty is left out. -/
def labelFields (l : SnapshotLabel) : List (String × Json) :=
  [("id", l.id.toJson), ("type", .text l.kind)] ++
  Json.optionalField "subtype" .text l.subtype ++
  Json.optionalField "os_index" (fun i => .ofNat i.toNat) l.osIndex ++
  Json.optionalField "name" .text l.name ++
  (if l.infos.entries.isEmpty then [] else [("properties", l.infos.toJson)]) ++
  Json.optionalField "attributes" Attributes.toJson l.attributes

mutual

/-- The fields of the label, and the children if there are any. -/
def toJson : Snapshot → Json
  | node label children =>
    .object (labelFields label ++ match children with
      | [] => []
      | _ :: _ => [("children", .list (toJsonAll children))])

/-- The trees of a list, one by one. -/
def toJsonAll : List Snapshot → List Json
  | [] => []
  | s :: rest => toJson s :: toJsonAll rest

end

/-- Read the fields of a label. -/
def labelOfJson? (j : Json) : Option SnapshotLabel := do
  let id ← j.required "id" ObjectId.ofJson?
  let kind ← j.required "type" Json.text?
  let subtype ← j.optional "subtype" Json.text?
  let osIndex ← j.optional "os_index" Json.uint64?
  let name ← j.optional "name" Json.text?
  let infos ← j.withDefault "properties" .empty InfoMap.ofJson?
  let attributes ← j.optional "attributes" Attributes.ofJson?
  return { id, kind, subtype, osIndex, name, infos, attributes }

/-- The names of the fields, in order. Of these, the last may be missing from a list. -/
def fieldNames : List String :=
  ["id", "type", "subtype", "os_index", "name", "properties", "attributes", "children"]

/-- Read a tree. Infos and children may be missing, but not null. -/
def ofJson? (j : Json) : Option Snapshot := do
  let label ← labelOfJson? (j.record fieldNames 7)
  match _ : (j.record fieldNames 7).field? "children" with
  | none => return node label []
  | some (.list items) =>
    let children ← items.attach.mapM fun ⟨item, _⟩ => ofJson? item
    return node label children
  | some _ => none
termination_by sizeOf j
decreasing_by
  rename_i found mem
  exact Nat.lt_trans (Json.sizeOf_lt_of_mem_list mem) (Json.sizeOf_lt_of_field?_record found)

end Snapshot

/-! ## Freezing a topology -/

namespace Topology

/-- The tree below an object, down to a depth. -/
def snapshotFrom (t : Topology) : Nat → ObjectId → Object → Snapshot
  | 0, id, o => .node (o.label id) []
  | depth + 1, id, o =>
    .node (o.label id) (o.children.filterMap fun child =>
      (t.object? child).map (t.snapshotFrom depth child))

/-- The whole tree. No path in it is longer than there are objects. -/
def snapshot (t : Topology) : Snapshot :=
  t.snapshotFrom t.size root t.machine

end Topology

end DeviceAtlas
