import DeviceAtlas.Proofs.Tree
import DeviceAtlas.Topology.Basic

/-!
# Sessions

A session works on one topology. It allocates objects, describes them and inserts them, in any
order, and makes matrices between them; whatever is refused changes nothing. However it goes, the
objects form a tree, and what was once said of a place in it stays true.

* `Session.step_cases`: what one step does to the places of objects.
* `Session.exists_given_eq`: the numbers that a session gives out.
* `Session.isTree_run`: the tree of a session, and how it goes on.
-/

namespace DeviceAtlas

/-! ## Steps -/

/-- Something to do with a topology. -/
inductive Edit where
  | allocate (kind : ObjectKind) (osIndex : Option UInt64)
  | insert (parent child : ObjectId)
  | setName (id : ObjectId) (name : String)
  | setSubtype (id : ObjectId) (subtype : String)
  | setAttributes (id : ObjectId) (attributes : Attributes)
  /-- Change the attributes of an object in any way, if it has some. -/
  | mapAttributes (id : ObjectId) (change : Attributes → Attributes)
  | addInfo (id : ObjectId) (key value : String)
  | addTopologyInfo (key value : String)
  | setFilter (kind : ObjectKind) (choice : KindFilter)
  | setOptions (options : TopologyOptions)
  | announce (name : String) (kind : Distance.Kind)
  /-- Give a pending matrix its content. -/
  | attach (slot : ℕ) (content : Distance.Content)
  /-- Store a pending matrix, which is gone afterwards, also if it is refused. -/
  | store (slot : ℕ) (options : Distance.StoreOptions)

/-- A topology, and the matrices that were announced for it. -/
structure Session where
  topology : Topology := .initial
  /-- In the order in which they were announced. Those that were to be stored are gone. -/
  pending : List (Option Distance.Pending) := []

namespace Session

/-- A session without any steps. -/
def start : Session := {}

/-- Go on with a new topology, unless it was refused. -/
def attempt {ε : Type} (s : Session) : Except ε Topology → Session
  | .ok topology => { s with topology }
  | .error _ => s

/-- The matrix in a slot, if it is there. -/
def pending? (s : Session) (slot : ℕ) : Option Distance.Pending := s.pending[slot]?.join

/-- Do one thing. -/
def step (s : Session) : Edit → Session
  | .allocate kind osIndex => { s with topology := (s.topology.allocate kind osIndex).1 }
  | .insert parent child => s.attempt (s.topology.insert parent child)
  | .setName id name => s.attempt (s.topology.setName id name)
  | .setSubtype id subtype => s.attempt (s.topology.setSubtype id subtype)
  | .setAttributes id attributes => s.attempt (s.topology.setAttributes id attributes)
  | .mapAttributes id change => { s with topology := s.topology.mapAttributes id change }
  | .addInfo id key value => s.attempt (s.topology.addInfo id key value)
  | .addTopologyInfo key value => { s with topology := s.topology.addTopologyInfo key value }
  | .setFilter kind choice => { s with topology := s.topology.setFilter kind choice }
  | .setOptions options => { s with topology := s.topology.setOptions options }
  | .announce name kind =>
    match Distance.Pending.announce name kind with
    | .ok p => { s with pending := s.pending ++ [some p] }
    | .error _ => s
  | .attach slot content =>
    match s.pending? slot with
    | none => s
    | some p =>
      match s.topology.attach p content with
      | .ok p => { s with pending := s.pending.set slot (some p) }
      | .error _ => s
  | .store slot options =>
    match s.pending? slot with
    | none => s
    | some p =>
      { s with pending := s.pending.set slot none }.attempt (s.topology.store p options).value

/-- Do one thing after another. -/
def run (s : Session) (edits : List Edit) : Session := edits.foldl step s

@[simp] theorem run_cons (s : Session) (e : Edit) (rest : List Edit) :
    s.run (e :: rest) = (s.step e).run rest := rfl

/-- The number that a step gives out. -/
def given? (s : Session) : Edit → Option ObjectId
  | .allocate kind osIndex => some (s.topology.allocate kind osIndex).2
  | _ => none

/-- The numbers that steps give out, in order. -/
def given (s : Session) : List Edit → List ObjectId
  | [] => []
  | e :: rest => (s.given? e).toList ++ (s.step e).given rest

end Session

/-! ## Places -/

/-- An object without its description. -/
def Object.bare (o : Object) : Object where
  kind := o.kind
  osIndex := o.osIndex
  parent := o.parent
  children := o.children

namespace Topology

variable {t t' : Topology}

/-- At most the descriptions of objects are different. -/
def SamePlaces (t t' : Topology) : Prop :=
  ∀ id, (t'.object? id).map Object.bare = (t.object? id).map Object.bare

namespace SamePlaces

/-- What is told of all bare objects. -/
theorem read (h : t.SamePlaces t') {α : Type} (f : Object → α) (bare : ∀ o, f o.bare = f o)
    (id : ObjectId) : (t'.object? id).map f = (t.object? id).map f := by
  have strip : ∀ x : Option Object, x.map f = (x.map Object.bare).map f := fun x => by
    rw [Option.map_map]
    exact Option.map_congr fun o _ => (bare o).symm
  rw [strip, h id, ← strip]

theorem parent?_eq (h : t.SamePlaces t') (id : ObjectId) : t'.parent? id = t.parent? id := by
  have same := h.read Object.parent (fun _ => rfl) id
  have told : ∀ u : Topology, u.parent? id = ((u.object? id).map Object.parent).join :=
    fun u => by rw [parent?]; cases u.object? id <;> rfl
  rw [told, same, ← told]

theorem children_eq (h : t.SamePlaces t') (id : ObjectId) : t'.children id = t.children id := by
  have same := h.read Object.children (fun _ => rfl) id
  have told : ∀ u : Topology, u.children id = ((u.object? id).map Object.children).getD [] :=
    fun u => by rw [children]; cases u.object? id <;> rfl
  rw [told, same, ← told]

theorem size_eq (h : t.SamePlaces t') : t'.size = t.size := by
  have known : ∀ i, i < t'.size ↔ i < t.size := by
    intro i
    have same := congrArg Option.isSome (h ⟨i⟩)
    rw [Option.isSome_map, Option.isSome_map, Bool.eq_iff_iff, object?_isSome_iff,
      object?_isSome_iff] at same
    exact same
  have below := known t.size
  have above := known t'.size
  omega

end SamePlaces

theorem samePlaces_modify {id : ObjectId} {change : Object → Object}
    (bare : ∀ o, (change o).bare = o.bare) : t.SamePlaces (t.modify id change) := by
  intro other
  rw [object?_modify]
  split
  · rw [Option.map_map]
    exact Option.map_congr fun o _ => bare o
  · rfl

end Topology

namespace Session

variable {s : Session} {e : Edit}

/-- A description that is given or refused leaves all places as they are. -/
theorem samePlaces_attempt_modifyKnown (s : Session) (id : ObjectId) {change : Object → Object}
    (bare : ∀ o, (change o).bare = o.bare) :
    s.topology.SamePlaces (s.attempt (s.topology.modifyKnown id change)).topology := by
  unfold Topology.modifyKnown
  split
  · exact Topology.samePlaces_modify bare
  · exact fun _ => rfl

/-- **What one step does to the places of objects.** It makes room for a new object, or inserts
one, or leaves all places as they are. -/
theorem step_cases (s : Session) (e : Edit) :
    (∃ kind osIndex, e = .allocate kind osIndex ∧
      (s.step e).topology = (s.topology.allocate kind osIndex).1) ∨
    (s.given? e = none ∧
      ∃ parent child, s.topology.insert parent child = .ok (s.step e).topology) ∨
    (s.given? e = none ∧ s.topology.SamePlaces (s.step e).topology) := by
  have same : s.topology.SamePlaces s.topology := fun _ => rfl
  have described : ∀ (id : ObjectId) {change : Object → Object},
      (∀ o, (change o).bare = o.bare) →
      s.topology.SamePlaces (s.attempt (s.topology.modifyKnown id change)).topology :=
    fun id _ => s.samePlaces_attempt_modifyKnown id
  cases e with
  | allocate kind osIndex => exact .inl ⟨kind, osIndex, rfl, rfl⟩
  | insert parent child =>
    rw [step]
    cases inserted : s.topology.insert parent child with
    | ok t => exact .inr (.inl ⟨rfl, parent, child, inserted⟩)
    | error error => exact .inr (.inr ⟨rfl, same⟩)
  | setName id name => exact .inr (.inr ⟨rfl, described id fun _ => rfl⟩)
  | setSubtype id subtype => exact .inr (.inr ⟨rfl, described id fun _ => rfl⟩)
  | setAttributes id attributes => exact .inr (.inr ⟨rfl, described id fun _ => rfl⟩)
  | mapAttributes id change =>
    exact .inr (.inr ⟨rfl, Topology.samePlaces_modify fun _ => rfl⟩)
  | addInfo id key value => exact .inr (.inr ⟨rfl, described id fun _ => rfl⟩)
  | addTopologyInfo key value => exact .inr (.inr ⟨rfl, same⟩)
  | setFilter kind choice => exact .inr (.inr ⟨rfl, same⟩)
  | setOptions options => exact .inr (.inr ⟨rfl, same⟩)
  | announce name kind =>
    refine .inr (.inr ⟨rfl, ?_⟩)
    rw [step]
    split <;> exact same
  | attach slot content =>
    refine .inr (.inr ⟨rfl, ?_⟩)
    rw [step]
    split
    · exact same
    · split <;> exact same
  | store slot options =>
    refine .inr (.inr ⟨rfl, ?_⟩)
    rw [step]
    split
    · exact same
    · -- a matrix that is stored is all that is new
      rename_i p _
      unfold Topology.store
      cases p.content with
      | none => exact same
      | some content => exact same

/-! ## The tree of a session -/

/-- One step keeps the tree. -/
theorem isTree_step (h : s.topology.IsTree) (e : Edit) : (s.step e).topology.IsTree := by
  rcases s.step_cases e with ⟨kind, osIndex, -, allocated⟩ | ⟨-, parent, child, inserted⟩ |
    ⟨-, same⟩
  · -- like a number that is not given out, a new object has neither parent nor children
    rw [allocated]
    refine h.of_places (fun id => ?_) fun id => ?_
    · rw [Topology.parent?, Topology.parent?, Topology.object?_allocate]
      split
      · rename_i new
        rw [Topology.object?_eq_none_iff.2 (Nat.le_of_eq new.symm)]
        rfl
      · rfl
    · rw [Topology.children, Topology.children, Topology.object?_allocate]
      split
      · rename_i new
        rw [Topology.object?_eq_none_iff.2 (Nat.le_of_eq new.symm)]
        rfl
      · rfl
  · obtain ⟨_, known, detached, _, there, joined⟩ := Topology.insert_eq_ok_iff.1 inserted
    rw [joined]
    exact h.link known detached there
  · exact h.of_places same.parent?_eq same.children_eq

/-- A run keeps the tree. -/
theorem isTree_foldl (h : s.topology.IsTree) (edits : List Edit) :
    (s.run edits).topology.IsTree := by
  induction edits generalizing s with
  | nil => exact h
  | cons e rest ih => exact ih (isTree_step h e)

end Session

/-! ## How a session goes on -/

/-- An object later on: the same thing, with the parent that it once got, and with children only
added at the end. -/
structure Object.Continues (o o' : Object) : Prop where
  kind : o'.kind = o.kind
  osIndex : o'.osIndex = o.osIndex
  parent : ∀ p, o.parent = some p → o'.parent = some p
  children : o.children <+: o'.children

/-- Every object is still there later on. -/
def Topology.Continues (t t' : Topology) : Prop :=
  ∀ id o, t.object? id = some o → ∃ o', t'.object? id = some o' ∧ o.Continues o'

theorem Object.Continues.refl (o : Object) : o.Continues o :=
  ⟨rfl, rfl, fun _ => id, List.prefix_rfl⟩

theorem Topology.Continues.trans {t t' t'' : Topology} (h : t.Continues t')
    (h' : t'.Continues t'') : t.Continues t'' := by
  intro id o found
  obtain ⟨o', found', one⟩ := h id o found
  obtain ⟨o'', found'', two⟩ := h' id o' found'
  exact ⟨o'', found'', two.kind.trans one.kind, two.osIndex.trans one.osIndex,
    fun p parent => two.parent p (one.parent p parent), one.children.trans two.children⟩

/-- A detached object that joins has no parent to lose. -/
theorem Topology.continues_link {t : Topology} {parent child : ObjectId}
    (detached : t.isInserted child = false) : t.Continues (t.link parent child) := by
  intro id o found
  refine ⟨o.joined parent [child] id, by rw [object?_link, found, Option.map_some], rfl, rfl,
    fun p known => ?_, ?_⟩
  · have other : id ∉ [child] := by
      rw [List.mem_singleton]
      rintro rfl
      have own : t.parent? id = some p := by rw [parent?, found, Option.bind_some, known]
      rw [isInserted_of_parent? own] at detached
      cases detached
    rw [Object.joined, if_neg other, known]
  · dsimp only [Object.joined]
    split
    · exact List.prefix_append ..
    · exact List.prefix_rfl

namespace Session

variable {s : Session}

/-- Every object is still there after one step. -/
theorem continues_step (s : Session) (e : Edit) :
    s.topology.Continues (s.step e).topology := by
  rcases s.step_cases e with ⟨kind, osIndex, -, allocated⟩ | ⟨-, parent, child, inserted⟩ |
    ⟨-, same⟩
  · intro id o found
    have before := (s.topology.object?_isSome_iff id).1 (Option.isSome_of_eq_some found)
    refine ⟨o, ?_, .refl o⟩
    rw [allocated, Topology.object?_allocate, if_neg (Nat.ne_of_lt before), found]
  · obtain ⟨_, _, detached, _, _, joined⟩ := Topology.insert_eq_ok_iff.1 inserted
    rw [joined]
    exact Topology.continues_link detached
  · intro id o found
    have here := same id
    rw [found, Option.map_some] at here
    obtain ⟨o', found', bare⟩ := Option.map_eq_some_iff.1 here
    simp only [Object.bare, Object.mk.injEq] at bare
    obtain ⟨kind, -, osIndex, -, -, -, parent, children⟩ := bare
    exact ⟨o', found', kind, osIndex, fun p known => parent.trans known,
      children ▸ List.prefix_rfl⟩

/-- Every object is still there after a run. -/
theorem continues_run (s : Session) (edits : List Edit) :
    s.topology.Continues (s.run edits).topology := by
  induction edits generalizing s with
  | nil => exact fun id o found => ⟨o, found, .refl o⟩
  | cons e rest ih => exact (s.continues_step e).trans (ih (s.step e))

/-- **The numbers that a session gives out** follow those that there are, without a gap. -/
theorem exists_given_eq (s : Session) (edits : List Edit) :
    ∃ count, s.given edits = (List.range' s.topology.size count).map ObjectId.mk ∧
      (s.run edits).topology.size = s.topology.size + count := by
  induction edits generalizing s with
  | nil => exact ⟨0, rfl, rfl⟩
  | cons e rest ih =>
    obtain ⟨count, numbers, size⟩ := ih (s.step e)
    rw [given, numbers, run_cons, size]
    have nothing : s.given? e = none → (s.step e).topology.size = s.topology.size →
        ∃ count', (s.given? e).toList ++
            (List.range' (s.step e).topology.size count).map ObjectId.mk =
          (List.range' s.topology.size count').map ObjectId.mk ∧
          (s.step e).topology.size + count = s.topology.size + count' := by
      intro none same
      exact ⟨count, by rw [none, same]; rfl, by rw [same]⟩
    rcases s.step_cases e with ⟨kind, osIndex, rfl, allocated⟩ | ⟨none, parent, child, inserted⟩ |
      ⟨none, same⟩
    · refine ⟨count + 1, ?_, ?_⟩
      · rw [allocated, Topology.size_allocate, List.range'_succ]
        rfl
      · rw [allocated, Topology.size_allocate]
        omega
    · obtain ⟨_, _, _, _, _, joined⟩ := Topology.insert_eq_ok_iff.1 inserted
      exact nothing none (by rw [joined, Topology.size_link])
    · exact nothing none same.size_eq

/-- **The tree of a session, and how it goes on.** After any steps the objects form a tree: the root
has no parent, an object is listed once among the children of its parent and nowhere else, only
known objects have a place, detached objects have no children, and the way up from any object of
the tree ends at the root and never comes back. Whatever is done later, numbers that were given out
are not given out again, and each object is still there, with the parent that it once got and with
children only added at the end. -/
theorem isTree_run (edits later : List Edit) :
    let s := start.run edits
    let t := s.topology
    t.IsTree ∧
    (∀ parent child, t.parent? child = some parent →
      (t.object? parent).isSome ∧ (t.object? child).isSome) ∧
    (∀ id n, 0 < n → t.ancestor? n id ≠ some id) ∧
    t.Continues (s.run later).topology ∧
    (s.given later).Nodup ∧
    ∀ id ∈ s.given later,
      t.object? id = none ∧ ((s.run later).topology.object? id).isSome := by
  intro s t
  have tree : t.IsTree := isTree_foldl Topology.isTree_initial edits
  obtain ⟨count, numbers, size⟩ := s.exists_given_eq later
  refine ⟨tree, fun parent child found => ⟨?_, ?_⟩, fun id n => tree.ancestor?_ne_self,
    s.continues_run later, ?_, fun id listed => ?_⟩
  · exact Topology.isSome_object?_of_isInserted (tree.isInserted_parent found)
  · exact Topology.isSome_object?_of_parent? found
  · have apart : (List.range' s.topology.size count).Nodup := List.nodup_range'
    rw [numbers]
    exact apart.map fun i j same => ObjectId.mk.inj same
  · rw [numbers] at listed
    obtain ⟨i, within, rfl⟩ := List.mem_map.1 listed
    obtain ⟨low, high⟩ := List.mem_range'_1.1 within
    constructor
    · exact Topology.object?_eq_none_iff.2 low
    · rw [Topology.object?_isSome_iff, size]
      exact high

end Session

end DeviceAtlas
