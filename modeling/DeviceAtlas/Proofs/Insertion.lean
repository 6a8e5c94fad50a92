import DeviceAtlas.Proofs.Tree

/-!
# Insertions are all or nothing

A place in the tree is written at both ends. An insertion that works in place writes the parent into
the child first, and then has to look up the parent once more to list the child there. If that could
fail, the child would point to a parent that does not list it. The demands that are looked at before
the first write rule this out.

* `Topology.insert_eq_error_iff`: why an object is not inserted.
* `Topology.on_insertInPlace`: in place, the tree becomes what an insertion makes of it, or stays.
* `Topology.outcome_insertInPlace`: the outcome of an insertion and the topology that it leaves.
-/

namespace DeviceAtlas.Topology

variable {t : Topology} {parent child : ObjectId}

/-! ## Refusals -/

/-- Why an object does not go under another. Each demand is only looked at if those before it are
met. -/
inductive Refusal (t : Topology) (parent child : ObjectId) : TopologyError → Prop
  | misplaced (wrong : parent = child ∨ child = root) :
    Refusal t parent child (.invalidParent child parent)
  | unknownParent (apart : parent ≠ child) (below : child ≠ root)
    (unknown : t.object? parent = none) : Refusal t parent child (.unknownObject parent)
  | detachedParent (apart : parent ≠ child) (below : child ≠ root)
    (known : (t.object? parent).isSome) (detached : t.isInserted parent = false) :
    Refusal t parent child (.detachedParent parent)
  | unknownChild (apart : parent ≠ child) (below : child ≠ root) (inserted : t.isInserted parent)
    (unknown : t.object? child = none) : Refusal t parent child (.unknownObject child)
  | alreadyInserted (apart : parent ≠ child) (below : child ≠ root)
    (inserted : t.isInserted parent) (placed : t.isInserted child) :
    Refusal t parent child (.alreadyInserted child)

/-- **An object is refused for the first demand that is not met.** -/
theorem insert_eq_error_iff {e : TopologyError} :
    t.insert parent child = .error e ↔ t.Refusal parent child e := by
  unfold insert
  constructor
  · intro refused
    split at refused
    · rename_i wrong
      cases refused
      exact .misplaced wrong
    rename_i right
    obtain ⟨apart, below⟩ := not_or.1 right
    split at refused
    · rename_i unknown
      cases refused
      exact .unknownParent apart below unknown
    rename_i known
    split at refused
    · rename_i detached
      cases refused
      exact .detachedParent apart below (Option.isSome_iff_ne_none.2 known)
        (by simpa using detached)
    rename_i inserted
    have inserted : t.isInserted parent := by simpa using inserted
    split at refused
    · rename_i unknown
      cases refused
      exact .unknownChild apart below inserted unknown
    split at refused
    · rename_i placed
      cases refused
      exact .alreadyInserted apart below inserted placed
    · cases refused
  · intro refusal
    cases refusal with
    | misplaced wrong => rw [if_pos wrong]
    | unknownParent apart below unknown => simp [apart, below, unknown]
    | detachedParent apart below known detached =>
      simp [apart, below, Option.isSome_iff_ne_none.1 known, detached]
    | unknownChild apart below inserted unknown =>
      have known := Option.isSome_iff_ne_none.1 (isSome_object?_of_isInserted inserted)
      simp [apart, below, known, inserted, unknown]
    | alreadyInserted apart below inserted placed =>
      have known := Option.isSome_iff_ne_none.1 (isSome_object?_of_isInserted inserted)
      have known' := Option.isSome_iff_ne_none.1 (isSome_object?_of_isInserted placed)
      simp [apart, below, known, known', inserted, placed]

/-! ## Work in place -/

/-- Work on a topology in place. What was changed before an error stays changed. -/
abbrev InPlace (α : Type) := ExceptT TopologyError (StateM Topology) α

/-- The outcome of work on a topology, and the topology that it leaves. -/
def InPlace.on {α : Type} (work : InPlace α) (t : Topology) : Except TopologyError α × Topology :=
  work.run.run t

/-- Give up if something is wrong. -/
def refuseIf (wrong : Topology → Bool) (e : TopologyError) : InPlace Unit := do
  let t ← getThe Topology
  if wrong t then throw e

/-- Change one object in place, which has to be there. -/
def modifyInPlace (id : ObjectId) (change : Object → Object) : InPlace Unit := do
  let t ← getThe Topology
  if id.index < t.size then set (t.modify id change) else throw (.unknownObject id)

/-- Insert a detached object in place. Once nothing is wrong, two objects change, one after the
other, and each of them has to be there. -/
def insertInPlace (parent child : ObjectId) : InPlace Unit := do
  refuseIf (fun _ => parent = child ∨ child = root) (.invalidParent child parent)
  refuseIf (fun t => (t.object? parent).isNone) (.unknownObject parent)
  refuseIf (fun t => !t.isInserted parent) (.detachedParent parent)
  refuseIf (fun t => (t.object? child).isNone) (.unknownObject child)
  refuseIf (fun t => (t.parent? child).isSome) (.alreadyInserted child)
  modifyInPlace child fun o => { o with parent := some parent }
  modifyInPlace parent fun o => { o with children := o.children ++ [child] }

theorem InPlace.on_bind {α β : Type} (work : InPlace α) (next : α → InPlace β) (t : Topology) :
    (work >>= next).on t =
      match work.on t with
      | (.ok a, t') => (next a).on t'
      | (.error e, t') => (.error e, t') := by
  have unfolded : (work >>= next).on t =
      (ExceptT.bindCont next (work.on t).1).run (work.on t).2 := rfl
  rw [unfolded]
  rcases work.on t with ⟨_ | a, t'⟩ <;> rfl

theorem InPlace.on_getThe_bind {β : Type} (next : Topology → InPlace β) (t : Topology) :
    InPlace.on (getThe Topology >>= next) t = (next t).on t := InPlace.on_bind ..

/-- Work goes on with the same topology if nothing is wrong. -/
theorem on_refuseIf_bind {β : Type} {next : Unit → InPlace β} (wrong : Topology → Bool)
    (e : TopologyError) (t : Topology) :
    InPlace.on (refuseIf wrong e >>= next) t =
      if wrong t then (.error e, t) else (next ()).on t := by
  rw [InPlace.on_bind, refuseIf, InPlace.on_getThe_bind]
  cases wrong t <;> rfl

theorem on_modifyInPlace {id : ObjectId} (known : (t.object? id).isSome)
    (change : Object → Object) : (modifyInPlace id change).on t = (.ok (), t.modify id change) := by
  rw [modifyInPlace, InPlace.on_getThe_bind, if_pos ((t.object?_isSome_iff id).1 known)]
  rfl

/-- **In place, the tree becomes what an insertion makes of it, or it stays as it is.** -/
theorem on_insertInPlace (parent child : ObjectId) (t : Topology) :
    (insertInPlace parent child).on t =
      match t.insert parent child with
      | .ok t' => (.ok (), t')
      | .error e => (.error e, t) := by
  simp only [insertInPlace, on_refuseIf_bind, decide_eq_true_eq, Option.isNone_iff_eq_none]
  unfold insert
  by_cases wrong : parent = child ∨ child = root
  · rw [if_pos wrong, if_pos wrong]
  rw [if_neg wrong, if_neg wrong]
  by_cases unknown : t.object? parent = none
  · rw [if_pos unknown, if_pos unknown]
  rw [if_neg unknown, if_neg unknown]
  by_cases detached : (!t.isInserted parent) = true
  · rw [if_pos detached, if_pos detached]
  rw [if_neg detached, if_neg detached]
  by_cases unknown' : t.object? child = none
  · rw [if_pos unknown', if_pos unknown']
  rw [if_neg unknown', if_neg unknown']
  -- an object other than the root is in the tree if it has a parent
  have placed : t.isInserted child ↔ (t.parent? child).isSome := by
    rw [isInserted_iff, or_iff_right (not_or.1 wrong).2]
  by_cases inserted : (t.parent? child).isSome
  · rw [if_pos inserted, if_pos (placed.2 inserted)]
  rw [if_neg inserted, if_neg (mt placed.1 inserted)]
  -- after the child changed, its parent is still there
  have known :
      ((t.modify child fun o => { o with parent := some parent }).object? parent).isSome := by
    rw [object?_isSome_iff, size_modify, ← object?_isSome_iff]
    exact Option.isSome_iff_ne_none.2 unknown
  rw [InPlace.on_bind, on_modifyInPlace (Option.isSome_iff_ne_none.2 unknown')]
  dsimp only
  rw [on_modifyInPlace known]
  rfl

/-- **An insertion is all or nothing.** It succeeds exactly if the child is a known object that is
not in the tree, not the root and not the parent, and the parent is in the tree. Then the child gets
its parent, the parent gets the child for its last one, and nothing else changes. Otherwise it is
refused for the first demand that is not met, and the topology is as it was. A tree stays a tree, so
that both ends agree in either case. -/
theorem outcome_insertInPlace (t : Topology) (parent child : ObjectId) :
    let outcome := (insertInPlace parent child).on t
    (outcome = match t.insert parent child with
      | .ok t' => (.ok (), t')
      | .error e => (.error e, t)) ∧
    (outcome.1 = .ok () ↔ (t.object? child).isSome ∧ t.isInserted child = false ∧ child ≠ root ∧
      t.isInserted parent ∧ parent ≠ child) ∧
    (∀ e, outcome.1 = .error e ↔ t.Refusal parent child e) ∧
    (∀ e, outcome.1 = .error e → outcome.2 = t) ∧
    (outcome.1 = .ok () → outcome.2.size = t.size ∧ outcome.2.context = t.context ∧
      ∀ id, outcome.2.object? id = (t.object? id).map fun o =>
        { o with
          parent := if id = child then some parent else o.parent
          children := if id = parent then o.children ++ [child] else o.children }) ∧
    (t.IsTree → outcome.2.IsTree) := by
  intro outcome
  have value : outcome = _ := on_insertInPlace parent child t
  refine ⟨value, ?_⟩
  cases inserted : t.insert parent child with
  | error e =>
    rw [value, inserted]
    refine ⟨⟨fun done => ?_, fun ⟨known, detached, _, there, apart⟩ => ?_⟩, fun e' => ?_,
      fun _ _ => rfl, fun done => ?_, fun tree => tree⟩
    · cases done
    · have joined := insert_eq_ok_iff.2
        ⟨apart, known, detached, isSome_object?_of_isInserted there, there, rfl⟩
      rw [inserted] at joined
      cases joined
    · rw [← insert_eq_error_iff, inserted, Except.error.injEq, Except.error.injEq]
    · cases done
  | ok t' =>
    obtain ⟨apart, known, detached, _, there, rfl⟩ := insert_eq_ok_iff.1 inserted
    have below : child ≠ root := by
      rintro rfl
      rw [isInserted_root] at detached
      cases detached
    rw [value, inserted]
    refine ⟨⟨fun _ => ⟨known, detached, below, there, apart⟩, fun _ => rfl⟩, fun e => ?_,
      fun _ refused => ?_, fun _ => ⟨size_link .., context_link .., fun id => ?_⟩,
      fun tree => tree.link known detached there⟩
    · rw [← insert_eq_error_iff, inserted]
      exact iff_of_false (fun refused => by cases refused) fun refused => by cases refused
    · cases refused
    · rw [object?_link]
      refine Option.map_congr fun o _ => ?_
      simp only [Object.joined, List.mem_singleton]

end DeviceAtlas.Topology
