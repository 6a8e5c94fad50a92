import DeviceAtlas.Proofs.Session
import DeviceAtlas.Topology.Freeze
import Mathlib.Data.List.Nodup

/-!
# Walking over a snapshot

A snapshot is taken with a bound on the depth, which is the number of objects. In a tree no way down
is that long, so nothing is cut off: each node tells of its object, and has a node below it for each
child. What a walk over the snapshot meets, and when, then follows from the ways up in the topology.

* `Topology.Shows`: the nodes of a snapshot tell of the objects and children of a topology.
* `Topology.IsTree.shows_snapshot`: the snapshot of a tree does.
* `Topology.Shows.mem_visited_iff`, `Topology.Shows.nodup_visited`: a walk meets what is below,
  once.
* `Topology.Shows.exists_visited_eq`, `Topology.Shows.children_sublist`: when it does.
* `Session.walk_run`: the walk over a snapshot of a session.
-/

namespace DeviceAtlas

/-! ## Walks -/

namespace Snapshot

/-- What holds of a tree as soon as it holds of the trees right below it. -/
theorem induct {motive : Snapshot → Prop}
    (node : ∀ label children, (∀ s ∈ children, motive s) → motive (.node label children)) :
    ∀ s, motive s
  | .node label children => node label children fun s _ => induct node s

/-- The numbers that a walk meets, in order. -/
def visited (s : Snapshot) : List ObjectId := s.preorder.map (·.label.id)

theorem preorder_node (label : SnapshotLabel) (children : List Snapshot) :
    (node label children).preorder = node label children :: children.flatMap preorder := by
  rw [preorder, preorderAll_eq_flatMap]

theorem visited_node (label : SnapshotLabel) (children : List Snapshot) :
    (node label children).visited = label.id :: children.flatMap visited := by
  rw [visited, preorder_node, List.map_cons, List.map_flatMap]
  rfl

/-- A walk starts at the top. -/
theorem visited_eq_cons (s : Snapshot) :
    s.visited = s.label.id :: s.children.flatMap visited := by
  cases s
  exact visited_node ..

theorem self_mem_preorder (s : Snapshot) : s ∈ s.preorder := by
  cases s
  rw [preorder_node]
  exact List.mem_cons_self ..

/-- **Each tree is walked over in one go.** -/
theorem infix_preorder_of_mem {n s : Snapshot} (listed : n ∈ s.preorder) :
    n.preorder <:+: s.preorder := by
  induction s using induct with
  | node label children ih =>
    rw [preorder_node] at listed ⊢
    rcases List.mem_cons.1 listed with rfl | deeper
    · rw [preorder_node]
    · obtain ⟨c, below, inside⟩ := List.mem_flatMap.1 deeper
      obtain ⟨before, after, rfl⟩ := List.append_of_mem below
      rw [List.flatMap_append, List.flatMap_cons, ← List.append_assoc]
      exact (ih c below inside).trans ((List.infix_append ..).trans (List.suffix_cons ..).isInfix)

theorem infix_visited_of_mem {n s : Snapshot} (listed : n ∈ s.preorder) :
    n.visited <:+: s.visited :=
  (infix_preorder_of_mem listed).map _

/-- Siblings are met in their order. -/
theorem map_sublist_flatMap (trees : List Snapshot) :
    (trees.map (·.label.id)).Sublist (trees.flatMap visited) := by
  induction trees with
  | nil => exact .slnil
  | cons s rest ih =>
    rw [List.map_cons, List.flatMap_cons, visited_eq_cons, List.cons_append]
    exact (ih.trans (List.sublist_append_right ..)).cons_cons _

end Snapshot

/-! ## Snapshots of a tree -/

namespace Topology

variable {t : Topology} {s n : Snapshot} {id child : ObjectId} {o : Object}

/-- Each node of a snapshot tells of an object, and has a node below it for each child. -/
def Shows (t : Topology) (s : Snapshot) : Prop :=
  ∀ n ∈ s.preorder, ∃ o, t.object? n.label.id = some o ∧ n.label = o.label n.label.id ∧
    n.children.map (·.label.id) = o.children

theorem label_snapshotFrom (t : Topology) (depth : ℕ) (id : ObjectId) (o : Object) :
    (t.snapshotFrom depth id o).label = o.label id := by
  cases depth <;> rfl

namespace IsTree

/-- A child is one step further from the root. -/
theorem ancestor?_of_mem_children (h : t.IsTree) {d : ℕ} (reached : t.ancestor? d id = some root)
    (listed : child ∈ t.children id) : t.ancestor? (d + 1) child = some root := by
  rw [ancestor?, (h.mem_children_iff id child).1 listed, Option.bind_some, reached]

/-- With a bound on the depth that leaves room for all objects, nothing is cut off. -/
theorem shows_snapshotFrom (h : t.IsTree) {depth d : ℕ} (reached : t.ancestor? d id = some root)
    (enough : t.size ≤ depth + d) (found : t.object? id = some o) :
    t.Shows (t.snapshotFrom depth id o) := by
  induction depth generalizing id o d with
  | zero =>
    have := h.lt_size (isInserted_of_ancestor? reached) reached
    omega
  | succ depth ih =>
    have listed : t.children id = o.children := by rw [children, found, Option.elim_some]
    have below : ∀ c ∈ o.children, ∃ o', t.object? c = some o' ∧
        t.Shows (t.snapshotFrom depth c o') := by
      intro c mem
      have deeper := h.ancestor?_of_mem_children reached (listed ▸ mem)
      obtain ⟨o', known⟩ := Option.isSome_iff_exists.1
        (isSome_object?_of_isInserted (isInserted_of_ancestor? deeper))
      exact ⟨o', known, ih deeper (by omega) known⟩
    intro n mem
    rw [snapshotFrom, Snapshot.preorder_node] at mem
    rcases List.mem_cons.1 mem with rfl | mem
    · refine ⟨o, found, rfl, ?_⟩
      rw [Snapshot.children, List.map_filterMap]
      conv_rhs => rw [← List.filterMap_some (l := o.children)]
      refine List.filterMap_congr fun c mem => ?_
      obtain ⟨o', known, -⟩ := below c mem
      rw [known, Option.map_some, Option.map_some, label_snapshotFrom]
      rfl
    · obtain ⟨s, mem, inside⟩ := List.mem_flatMap.1 mem
      obtain ⟨c, mem, taken⟩ := List.mem_filterMap.1 mem
      obtain ⟨o', known, shows⟩ := below c mem
      rw [known, Option.map_some, Option.some.injEq] at taken
      subst taken
      exact shows n inside

/-- Two bounds that leave room for all objects give the same. -/
theorem snapshotFrom_eq (h : t.IsTree) {depth depth' d : ℕ}
    (reached : t.ancestor? d id = some root) (enough : t.size ≤ depth + d)
    (enough' : t.size ≤ depth' + d) (found : t.object? id = some o) :
    t.snapshotFrom depth id o = t.snapshotFrom depth' id o := by
  have room := h.lt_size (isInserted_of_ancestor? reached) reached
  induction depth generalizing depth' id o d with
  | zero => omega
  | succ depth ih =>
    cases depth' with
    | zero => omega
    | succ depth' =>
      rw [snapshotFrom, snapshotFrom]
      refine congrArg _ (List.filterMap_congr fun c mem => Option.map_congr fun o' known => ?_)
      have deeper : t.ancestor? (d + 1) c = some root :=
        h.ancestor?_of_mem_children reached (by rwa [children, found, Option.elim_some])
      exact ih deeper (by omega) (by omega) known
        (h.lt_size (isInserted_of_ancestor? deeper) deeper)

/-- **The snapshot of a tree shows the tree.** -/
theorem shows_snapshot (h : t.IsTree) : t.Shows t.snapshot :=
  h.shows_snapshotFrom (d := 0) rfl (Nat.le_refl _) t.object?_root

end IsTree

/-! ## Walks and ways up -/

namespace Shows

theorem of_mem (h : t.Shows s) (listed : n ∈ s.preorder) : t.Shows n := fun m deeper =>
  h m ((Snapshot.infix_preorder_of_mem listed).subset deeper)

theorem of_mem_children (h : t.Shows s) (listed : n ∈ s.children) : t.Shows n := by
  refine h.of_mem ?_
  cases s
  rw [Snapshot.preorder_node]
  exact List.mem_cons_of_mem _ (List.mem_flatMap.2 ⟨n, listed, n.self_mem_preorder⟩)

theorem children_eq (h : t.Shows s) : t.children s.label.id = s.children.map (·.label.id) := by
  obtain ⟨o, found, -, listed⟩ := h s s.self_mem_preorder
  rw [children, found, Option.elim_some, listed]

/-- **A walk meets what is below the top, and nothing else.** -/
theorem mem_visited_iff (h : t.Shows s) (tree : t.IsTree) :
    id ∈ s.visited ↔ ∃ steps, t.ancestor? steps id = some s.label.id := by
  induction s using Snapshot.induct with
  | node label trees ih =>
    have down : ∀ child, child ∈ trees.map (·.label.id) ↔ t.parent? child = some label.id :=
      fun child => by rw [← tree.mem_children_iff]; exact h.children_eq ▸ Iff.rfl
    rw [Snapshot.visited_node, List.mem_cons, List.mem_flatMap]
    constructor
    · rintro (rfl | ⟨c, listed, inside⟩)
      · exact ⟨0, rfl⟩
      · obtain ⟨steps, above⟩ := (ih c listed (h.of_mem_children listed)).1 inside
        have last := (down _).1 (List.mem_map_of_mem listed)
        exact ⟨steps + 1, ancestor?_succ_iff.2 ⟨_, above, last⟩⟩
    · rintro ⟨_ | steps, above⟩
      · exact .inl (Option.some.inj above)
      · obtain ⟨child, above, last⟩ := ancestor?_succ_iff.1 above
        obtain ⟨c, listed, rfl⟩ := List.mem_map.1 ((down _).2 last)
        exact .inr ⟨c, listed, (ih c listed (h.of_mem_children listed)).2 ⟨steps, above⟩⟩

/-- **A walk meets nothing twice.** -/
theorem nodup_visited (h : t.Shows s) (tree : t.IsTree) : s.visited.Nodup := by
  induction s using Snapshot.induct with
  | node label trees ih =>
    -- what is met in a tree right below the top is one step further from the top
    have further : ∀ c ∈ trees, ∀ id ∈ c.visited, ∃ steps,
        t.ancestor? steps id = some c.label.id ∧
        t.ancestor? (steps + 1) id = some label.id := by
      intro c listed id inside
      obtain ⟨steps, above⟩ := ((h.of_mem_children listed).mem_visited_iff tree).1 inside
      refine ⟨steps, above, ancestor?_succ_iff.2 ⟨_, above, ?_⟩⟩
      rw [← tree.mem_children_iff]
      exact h.children_eq ▸ List.mem_map_of_mem listed
    rw [Snapshot.visited_node, List.nodup_cons, List.nodup_flatMap]
    refine ⟨fun again => ?_, fun c listed => ih c listed (h.of_mem_children listed), ?_⟩
    · obtain ⟨c, listed, inside⟩ := List.mem_flatMap.1 again
      obtain ⟨steps, -, back⟩ := further c listed label.id inside
      exact tree.ancestor?_ne_self (Nat.succ_pos steps) back
    · have apart : (trees.map (·.label.id)).Nodup := h.children_eq ▸ tree.nodup_children label.id
      refine (List.pairwise_map.1 apart).imp_of_mem fun {a b} aListed bListed differ => ?_
      intro id inA inB
      obtain ⟨m, aAbove, aTop⟩ := further a aListed id inA
      obtain ⟨n, bAbove, bTop⟩ := further b bListed id inB
      obtain rfl : m = n := Nat.succ.inj (tree.steps_eq aTop bTop)
      exact differ (Option.some.inj (aAbove.symm.trans bAbove))

/-- **What is below an object is met right after it**, before anything else. -/
theorem exists_visited_eq (h : t.Shows s) (tree : t.IsTree) (met : id ∈ s.visited) :
    ∃ before below after, s.visited = before ++ id :: below ++ after ∧
      ∀ d, d ∈ below ↔ ∃ steps, 0 < steps ∧ t.ancestor? steps d = some id := by
  obtain ⟨n, listed, rfl⟩ := List.mem_map.1 met
  have shows := h.of_mem listed
  obtain ⟨before, after, whole⟩ := Snapshot.infix_visited_of_mem listed
  rw [n.visited_eq_cons] at whole
  refine ⟨before, n.children.flatMap Snapshot.visited, after, whole.symm, fun d => ?_⟩
  have once := shows.nodup_visited tree
  have met : d ∈ n.visited ↔ _ := shows.mem_visited_iff tree
  rw [n.visited_eq_cons] at once met
  rw [List.nodup_cons] at once
  rw [List.mem_cons] at met
  constructor
  · intro below
    obtain ⟨_ | steps, above⟩ := met.1 (.inr below)
    · cases above
      exact absurd below once.1
    · exact ⟨steps + 1, Nat.succ_pos steps, above⟩
  · rintro ⟨steps, pos, above⟩
    rcases met.2 ⟨steps, above⟩ with rfl | below
    · exact absurd above (tree.ancestor?_ne_self pos)
    · exact below

/-- **Siblings are met in their order.** -/
theorem children_sublist (h : t.Shows s) (met : id ∈ s.visited) :
    (t.children id).Sublist s.visited := by
  obtain ⟨n, listed, rfl⟩ := List.mem_map.1 met
  rw [(h.of_mem listed).children_eq]
  refine List.Sublist.trans ?_ (Snapshot.infix_visited_of_mem listed).sublist
  rw [n.visited_eq_cons]
  exact (Snapshot.map_sublist_flatMap _).cons _

end Shows

end Topology

/-! ## Snapshots of a session -/

/-- **The walk over a snapshot of a session.** After any steps, every way down from an object ends,
and the snapshot does not depend on the bound on its depth. A walk over it meets the objects that
are in the tree, each of them once, and nothing else. What is below an object is met right after it,
before anything else, and siblings are met in the order in which they were inserted. Each node tells
all of the object of its number but its place, and has a node below it for each of the object's
children, in their order. -/
theorem Session.walk_run (edits later : List Edit) :
    let t := ((start.run edits).run later).topology
    let visited := t.snapshot.preorder.map (·.label.id)
    (WellFounded fun child id => child ∈ t.children id) ∧
    (∀ depth, t.size ≤ depth → t.snapshotFrom depth Topology.root t.machine = t.snapshot) ∧
    visited.Nodup ∧
    (∀ id, id ∈ visited ↔ t.isInserted id) ∧
    (∀ id ∈ visited, ∃ before below after, visited = before ++ id :: below ++ after ∧
      ∀ d, d ∈ below ↔ ∃ steps, 0 < steps ∧ t.ancestor? steps d = some id) ∧
    (∀ id, (t.children id).Sublist visited ∧
      (start.run edits).topology.children id <+: t.children id) ∧
    ∀ n ∈ t.snapshot.preorder, ∃ o, t.object? n.label.id = some o ∧
      n.label = ⟨n.label.id, o.kind.text, o.subtype, o.osIndex, o.name, o.infos, o.attributes⟩ ∧
      n.children.map (·.label.id) = o.children := by
  intro t visited
  have tree : t.IsTree := isTree_foldl (isTree_foldl Topology.isTree_initial edits) later
  have shows := tree.shows_snapshot
  have top : t.snapshot.label.id = Topology.root := by
    rw [Topology.snapshot, Topology.label_snapshotFrom]
    rfl
  have met : ∀ id, id ∈ visited ↔ t.isInserted id := by
    intro id
    refine (shows.mem_visited_iff tree).trans ?_
    rw [top]
    exact ⟨fun ⟨_, reached⟩ => Topology.isInserted_of_ancestor? reached, tree.reaches_root id⟩
  refine ⟨tree.wellFounded_children, fun depth enough => ?_, shows.nodup_visited tree, met,
    fun id => shows.exists_visited_eq tree, fun id => ⟨?_, ?_⟩, shows⟩
  · exact tree.snapshotFrom_eq (d := 0) rfl enough (Nat.le_refl _) t.object?_root
  · cases inserted : t.isInserted id with
    | true => exact shows.children_sublist ((met id).2 inserted)
    | false =>
      rw [tree.children_detached id inserted]
      exact List.nil_sublist _
  · cases found : (start.run edits).topology.object? id with
    | none =>
      rw [Topology.children, found]
      exact List.nil_prefix
    | some o =>
      obtain ⟨o', found', continues⟩ := (start.run edits).continues_run later id o found
      rw [Topology.children, Topology.children, found, found']
      exact continues.children

end DeviceAtlas
