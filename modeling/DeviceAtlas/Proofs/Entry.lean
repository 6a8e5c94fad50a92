import DeviceAtlas.Discovery.Survey
import DeviceAtlas.Proofs.Sites

/-!
# Into the tree

A device goes under the object of its site, and its subdevices go under the device. None of these
insertions is refused as long as the objects are known and detached, and all that they change is who
is whose child.

* `Topology.value_insertAll`: children that can join a parent all do.
* `Topology.object?_settle`: each object after a device and its subdevices entered the tree.
* `Survey.value_enter`: what a survey becomes when a device enters the tree.
-/

namespace DeviceAtlas

/-! ## Children and their parent -/

/-- What becomes of an object, of this number, when children join a parent. -/
def Object.joined (parent : ObjectId) (children : List ObjectId) (id : ObjectId) (o : Object) :
    Object :=
  { o with
    parent := if id ∈ children then some parent else o.parent
    children := if id = parent then o.children ++ children else o.children }

namespace Topology

variable {t : Topology} {parent child id : ObjectId} {children : List ObjectId}

/-- Join children to a parent, one after another. -/
def linkAll (t : Topology) (parent : ObjectId) (children : List ObjectId) : Topology :=
  children.foldl (fun t child => t.link parent child) t

@[simp] theorem linkAll_cons (t : Topology) (parent child : ObjectId) (rest : List ObjectId) :
    t.linkAll parent (child :: rest) = (t.link parent child).linkAll parent rest := rfl

theorem object?_link (t : Topology) (parent child id : ObjectId) :
    (t.link parent child).object? id = (t.object? id).map (Object.joined parent [child] id) := by
  rw [link, object?_modify, object?_modify]
  cases t.object? id with
  | none => simp
  | some o =>
    simp only [Option.map_some, Object.joined, List.mem_singleton]
    by_cases isParent : id = parent
    · rw [if_pos isParent, if_pos isParent]
      split <;> rfl
    · rw [if_neg isParent, if_neg isParent]
      split <;> rfl

/-- Each object after children joined a parent. -/
theorem object?_linkAll (children : List ObjectId) (t : Topology) (parent id : ObjectId) :
    (t.linkAll parent children).object? id =
      (t.object? id).map (Object.joined parent children id) := by
  induction children generalizing t with
  | nil =>
    have unchanged : Object.joined parent [] id = fun o => o := by
      funext o
      simp [Object.joined]
    rw [unchanged]
    exact Option.map_id'.symm
  | cons child rest ih =>
    rw [linkAll_cons, ih, object?_link, Option.map_map]
    apply Option.map_congr
    intro o _
    simp only [Function.comp_apply, Object.joined, List.mem_cons]
    grind

@[simp] theorem size_link (t : Topology) (parent child : ObjectId) :
    (t.link parent child).size = t.size := by
  rw [link, size_modify, size_modify]

@[simp] theorem context_link (t : Topology) (parent child : ObjectId) :
    (t.link parent child).context = t.context := rfl

@[simp] theorem size_linkAll (children : List ObjectId) (t : Topology) (parent : ObjectId) :
    (t.linkAll parent children).size = t.size := by
  induction children generalizing t with
  | nil => rfl
  | cons child rest ih => rw [linkAll_cons, ih, size_link]

@[simp] theorem context_linkAll (children : List ObjectId) (t : Topology) (parent : ObjectId) :
    (t.linkAll parent children).context = t.context := by
  induction children generalizing t with
  | nil => rfl
  | cons child rest ih => rw [linkAll_cons, ih, context_link]

/-- Joining a child puts it into the tree, and takes nothing out. -/
theorem isInserted_link (known : (t.object? child).isSome) :
    (t.link parent child).isInserted id = (decide (id = child) || t.isInserted id) := by
  rw [isInserted, isInserted, object?_link, Option.any_map]
  by_cases hc : id = child
  · subst hc
    obtain ⟨o, found⟩ := Option.isSome_iff_exists.1 known
    simp [found, Object.joined]
  · simp [hc, Object.joined]

/-! ## No insertion is refused -/

/-- Children can join a parent if the parent is in the tree and they are known and not there. -/
structure CanJoin (t : Topology) (parent : ObjectId) (children : List ObjectId) : Prop where
  parent_known : (t.object? parent).isSome
  parent_inserted : t.isInserted parent
  apart : parent ∉ children
  nodup : children.Nodup
  known : ∀ child ∈ children, (t.object? child).isSome
  detached : ∀ child ∈ children, t.isInserted child = false

namespace CanJoin

theorem insert_eq (h : t.CanJoin parent (child :: children)) :
    t.insert parent child = .ok (t.link parent child) := by
  have different : parent ≠ child := fun same => h.apart (same ▸ List.mem_cons_self)
  exact insert_eq_ok_iff.2 ⟨different, h.known _ List.mem_cons_self,
    h.detached _ List.mem_cons_self, h.parent_known, h.parent_inserted, rfl⟩

/-- After the first child joined, the others still can. -/
theorem tail (h : t.CanJoin parent (child :: children)) :
    (t.link parent child).CanJoin parent children where
  parent_known := by
    rw [object?_link, Option.isSome_map]
    exact h.parent_known
  parent_inserted := by
    rw [isInserted_link (h.known _ List.mem_cons_self), h.parent_inserted, Bool.or_true]
  apart listed := h.apart (List.mem_cons_of_mem _ listed)
  nodup := h.nodup.of_cons
  known other listed := by
    rw [object?_link, Option.isSome_map]
    exact h.known other (List.mem_cons_of_mem _ listed)
  detached other listed := by
    have different : other ≠ child := by
      rintro rfl
      exact (List.nodup_cons.1 h.nodup).1 listed
    rw [isInserted_link (h.known _ List.mem_cons_self),
      h.detached other (List.mem_cons_of_mem _ listed)]
    simp [different]

end CanJoin

/-- **Children that can join a parent all do**, in order. -/
theorem value_insertAll (h : t.CanJoin parent children) :
    (t.insertAll parent children).value = (t.linkAll parent children, children) := by
  induction children generalizing t with
  | nil => rfl
  | cons child rest ih =>
    rw [insertAll, h.insert_eq]
    simp only [Logged.value_bind, Logged.value_pure, ih h.tail, linkAll_cons]

/-- What can join a parent can also go under the first of it, once that joined. -/
theorem CanJoin.below (h : t.CanJoin parent (child :: children)) :
    (t.link parent child).CanJoin child children where
  parent_known := by
    rw [object?_link, Option.isSome_map]
    exact h.known _ List.mem_cons_self
  parent_inserted := by
    rw [isInserted_link (h.known _ List.mem_cons_self), decide_eq_true rfl, Bool.true_or]
  apart := (List.nodup_cons.1 h.nodup).1
  nodup := h.tail.nodup
  known := h.tail.known
  detached := h.tail.detached

/-- Attributes do not matter for who can join whom. -/
theorem CanJoin.mapAttributes (h : t.CanJoin parent children) (other : ObjectId)
    (change : Attributes → Attributes) :
    (t.mapAttributes other change).CanJoin parent children where
  parent_known := by
    rw [object?_mapAttributes, Option.isSome_map]
    exact h.parent_known
  parent_inserted := by
    rw [isInserted_mapAttributes]
    exact h.parent_inserted
  apart := h.apart
  nodup := h.nodup
  known child listed := by
    rw [object?_mapAttributes, Option.isSome_map]
    exact h.known child listed
  detached child listed := by
    rw [isInserted_mapAttributes]
    exact h.detached child listed

/-! ## A device and its subdevices -/

/-- The tree after a device joined a parent, and subdevices the device. The number of subdevices is
noted if there are any. -/
def settle (t : Topology) (parent device : ObjectId) (subdevices : List ObjectId) : Topology :=
  let joined := (t.link parent device).linkAll device subdevices
  if subdevices.length = 0 then joined
  else joined.modify device fun o =>
    { o with infos := o.infos.insert InfoKey.subdevices (toString subdevices.length) }

@[simp] theorem size_settle (t : Topology) (parent device : ObjectId) (subdevices : List ObjectId) :
    (t.settle parent device subdevices).size = t.size := by
  unfold settle
  split <;> simp

@[simp] theorem context_settle (t : Topology) (parent device : ObjectId)
    (subdevices : List ObjectId) :
    (t.settle parent device subdevices).context = t.context := by
  unfold settle
  split <;> simp

end Topology

/-- What becomes of the object of a device when it joins a parent, and subdevices the device. -/
def Object.settled (parent : ObjectId) (subdevices : List ObjectId) (o : Object) : Object :=
  { o with
    parent := some parent
    children := o.children ++ subdevices
    infos := if subdevices.length = 0 then o.infos
      else o.infos.insert InfoKey.subdevices (toString subdevices.length) }

/-- The infos of a device that entered the tree are those that it had, and the number of
subdevices if there are any. -/
theorem Object.info?_settled (o : Object) (parent : ObjectId) (subdevices : List ObjectId)
    (key : String) :
    (o.settled parent subdevices).info? key =
      if key = InfoKey.subdevices ∧ subdevices.length ≠ 0 then some (toString subdevices.length)
      else o.info? key := by
  unfold settled info?
  by_cases none : subdevices.length = 0
  · simp [none]
  · simp [none, InfoMap.get?_insert]

namespace Topology

variable {t : Topology} {parent device : ObjectId} {subdevices : List ObjectId}

/-- Each object after a device and its subdevices entered the tree. -/
theorem object?_settle (h : t.CanJoin parent (device :: subdevices)) (id : ObjectId) :
    (t.settle parent device subdevices).object? id = (t.object? id).map fun o =>
      if id = device then o.settled parent subdevices
      else if id ∈ subdevices then { o with parent := some device }
      else if id = parent then { o with children := o.children ++ [device] }
      else o := by
  have parent_ne : device ≠ parent := fun same => h.apart (same ▸ List.mem_cons_self)
  have parent_notMem : parent ∉ subdevices := fun listed =>
    h.apart (List.mem_cons_of_mem _ listed)
  have device_notMem : device ∉ subdevices := (List.nodup_cons.1 h.nodup).1
  have joined : ((t.link parent device).linkAll device subdevices).object? id =
      (t.object? id).map fun o =>
        (o.joined parent [device] id).joined device subdevices id := by
    rw [object?_linkAll, object?_link, Option.map_map]
    rfl
  -- the number of subdevices is noted on the device alone
  by_cases isDevice : id = device
  · subst isDevice
    unfold settle
    by_cases none : subdevices.length = 0
    · rw [if_pos none, joined]
      simp [Object.joined, Object.settled, parent_ne, device_notMem, none]
    · rw [if_neg none, object?_modify, if_pos rfl, joined, Option.map_map]
      simp [Object.joined, Object.settled, parent_ne, device_notMem, none, Function.comp_def]
  · have others : (t.settle parent device subdevices).object? id =
        ((t.link parent device).linkAll device subdevices).object? id := by
      unfold settle
      split
      · rfl
      · rw [object?_modify, if_neg isDevice]
    rw [others, joined]
    apply Option.map_congr
    intro o _
    rw [if_neg isDevice]
    by_cases isSubdevice : id ∈ subdevices
    · have notParent : id ≠ parent := fun same => parent_notMem (same ▸ isSubdevice)
      simp [Object.joined, isDevice, isSubdevice, notParent]
    · by_cases isParent : id = parent
      · subst isParent
        simp [Object.joined, isDevice, isSubdevice]
      · simp [Object.joined, isDevice, isSubdevice, isParent]

section Placed

variable (h : t.CanJoin parent (device :: subdevices)) (change : Attributes → Attributes)

include h

/-- What becomes of the device that was placed and entered the tree. -/
theorem object?_settle_device :
    ((t.mapAttributes parent change).settle parent device subdevices).object? device =
      (t.object? device).map (Object.settled parent subdevices) := by
  have outside : device ≠ parent := fun same => h.apart (same ▸ List.mem_cons_self)
  rw [object?_settle (h.mapAttributes parent change), object?_mapAttributes, Option.map_map]
  apply Option.map_congr
  intro o _
  rw [Function.comp_apply, if_pos rfl, if_neg outside]

/-- What becomes of its subdevices. -/
theorem object?_settle_of_mem {id : ObjectId} (listed : id ∈ subdevices) :
    ((t.mapAttributes parent change).settle parent device subdevices).object? id =
      (t.object? id).map fun o => { o with parent := some device } := by
  have outside : id ≠ parent := fun same => h.apart (same ▸ List.mem_cons_of_mem _ listed)
  have notDevice : id ≠ device := fun same => (List.nodup_cons.1 h.nodup).1 (same ▸ listed)
  rw [object?_settle (h.mapAttributes parent change), object?_mapAttributes, Option.map_map]
  apply Option.map_congr
  intro o _
  rw [Function.comp_apply, if_neg notDevice, if_pos listed, if_neg outside]

/-- All others stay as they are, but for the parent, which gets the device for its last child. -/
theorem object?_settle_of_notMem {id : ObjectId} (old : id ∉ device :: subdevices) :
    ((t.mapAttributes parent change).settle parent device subdevices).object? id =
      (t.object? id).map fun o =>
        if id = parent then
          { o with children := o.children ++ [device], attributes := o.attributes.map change }
        else o := by
  have notDevice : id ≠ device := fun same => old (same ▸ List.mem_cons_self)
  have notListed : id ∉ subdevices := fun listed => old (List.mem_cons_of_mem _ listed)
  rw [object?_settle (h.mapAttributes parent change), object?_mapAttributes, Option.map_map]
  apply Option.map_congr
  intro o _
  rw [Function.comp_apply, if_neg notDevice, if_neg notListed]
  by_cases isParent : id = parent
  · rw [if_pos isParent, if_pos isParent, if_pos isParent]
  · rw [if_neg isParent, if_neg isParent, if_neg isParent]

/-- No object becomes one of another kind. -/
theorem map_kind_settle (id : ObjectId) :
    (((t.mapAttributes parent change).settle parent device subdevices).object? id).map Object.kind =
      (t.object? id).map Object.kind := by
  rw [object?_settle (h.mapAttributes parent change), object?_mapAttributes, Option.map_map,
    Option.map_map]
  apply Option.map_congr
  intro o _
  simp only [Function.comp_apply, apply_ite Object.kind, Object.settled, ite_self]

end Placed

end Topology

/-! ## The registry -/

/-- A block is registered if there is room for it or memory grants some, and else left out. -/
theorem Registry.value_enterBlock (r : Registry) (device : ObjectId) (subdevices : List ObjectId)
    (grants : ℕ → Bool) :
    (r.enterBlock device subdevices grants).value =
      if 1 + subdevices.length ≤ r.spare ∨
        grants (r.reserve (1 + subdevices.length)).value.capacity
      then (r.addBlock device subdevices).value.1 else r := by
  by_cases granted : 1 + subdevices.length ≤ r.spare ∨
      grants (r.reserve (1 + subdevices.length)).value.capacity
  · simp only [enterBlock, addBlockIfGranted, Logged.value_bind, if_pos granted]
    rfl
  · simp only [enterBlock, addBlockIfGranted, Logged.value_bind, if_neg granted]
    rfl

/-- A device and subdevices that could all join a parent enter the tree, and the registry if memory
grants the room for them. -/
theorem Survey.value_enter {s : Survey} {parent device : ObjectId} {subdevices : List ObjectId}
    (h : s.topology.CanJoin parent (device :: subdevices)) (grants : ℕ → Bool) :
    (s.enter parent device subdevices grants).value =
      { s with
        topology := s.topology.settle parent device subdevices
        registry := (s.registry.enterBlock device subdevices grants).value
        added := s.added + (1 + subdevices.length)
        named := s.named + 1 } := by
  unfold enter Topology.settle
  rw [h.insert_eq]
  simp only [Logged.value_bind, Topology.value_insertAll h.below]
  split
  · rfl
  · simp only [Logged.value_bind, Topology.value_annotate]
    rfl

end DeviceAtlas
