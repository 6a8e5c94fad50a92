import DeviceAtlas.Proofs.Entry
import Mathlib.Data.Fintype.Card

/-!
# The tree of a topology

The place of an object is written at both ends, in the object and in its parent. Both ends agree,
and from any object of the tree the way up ends at the root. That there is no way around in a circle
is written nowhere: objects only join the tree from outside, and objects outside have no children.

* `Topology.IsTree`: the objects form a tree, and objects outside of it have no place.
* `Topology.IsTree.link`: a detached object may join the tree.
* `Topology.IsTree.steps_eq`: the number of steps between two objects is the same on any way up.
* `Topology.IsTree.lt_size`: no way up is longer than there are objects.
* `Topology.IsTree.wellFounded_children`: every way down ends.
-/

namespace DeviceAtlas.Topology

variable {t t' : Topology} {id other parent child : ObjectId} {m n : ℕ}

/-! ## Up and down -/

/-- The parent of an object. -/
def parent? (t : Topology) (id : ObjectId) : Option ObjectId := (t.object? id).bind (·.parent)

/-- The children of an object, in order. -/
def children (t : Topology) (id : ObjectId) : List ObjectId := (t.object? id).elim [] (·.children)

/-- The object so many steps up from an object. -/
def ancestor? (t : Topology) : ℕ → ObjectId → Option ObjectId
  | 0, id => some id
  | n + 1, id => (t.parent? id).bind (t.ancestor? n)

theorem object?_eq_none_iff : t.object? id = none ↔ t.size ≤ id.index := by
  rw [← Option.not_isSome_iff_eq_none, object?_isSome_iff, Nat.not_lt]

theorem ancestor?_add (t : Topology) (m n : ℕ) (id : ObjectId) :
    t.ancestor? (m + n) id = (t.ancestor? m id).bind (t.ancestor? n) := by
  induction m generalizing id with
  | zero => rw [Nat.zero_add, ancestor?, Option.bind_some]
  | succ m ih =>
    rw [Nat.succ_add, ancestor?, ancestor?, Option.bind_assoc]
    exact congrArg _ (funext ih)

/-- The last step up comes to a parent. -/
theorem ancestor?_succ_iff : t.ancestor? (n + 1) id = some parent ↔
    ∃ child, t.ancestor? n id = some child ∧ t.parent? child = some parent := by
  rw [ancestor?_add, Option.bind_eq_some_iff]
  refine exists_congr fun child => and_congr_right fun _ => ?_
  rw [ancestor?]
  cases t.parent? child <;> rfl

theorem isInserted_iff : t.isInserted id ↔ id = root ∨ (t.parent? id).isSome := by
  rw [isInserted, parent?, Bool.or_eq_true, decide_eq_true_eq]
  cases t.object? id <;> rfl

theorem isInserted_root (t : Topology) : t.isInserted root := isInserted_iff.2 (.inl rfl)

theorem isInserted_of_parent? (h : t.parent? child = some parent) : t.isInserted child :=
  isInserted_iff.2 (.inr (Option.isSome_of_eq_some h))

theorem isSome_object?_of_parent? (h : t.parent? child = some parent) :
    (t.object? child).isSome := by
  obtain ⟨o, found, _⟩ := Option.bind_eq_some_iff.1 h
  exact Option.isSome_of_eq_some found

/-- All objects of the tree are known. -/
theorem isSome_object?_of_isInserted (h : t.isInserted id) : (t.object? id).isSome := by
  rcases isInserted_iff.1 h with rfl | some
  · rw [object?_root, Option.isSome_some]
  · obtain ⟨parent, found⟩ := Option.isSome_iff_exists.1 some
    exact isSome_object?_of_parent? found

/-- Whatever has a way up to the root is in the tree. -/
theorem isInserted_of_ancestor? (reached : t.ancestor? n id = some root) : t.isInserted id := by
  cases n with
  | zero =>
    cases reached
    exact t.isInserted_root
  | succ n =>
    obtain ⟨parent, found, _⟩ := Option.bind_eq_some_iff.1 reached
    exact isInserted_of_parent? found

/-! ## Trees -/

/-- The objects form a tree, and objects outside of it have no place. -/
structure IsTree (t : Topology) : Prop where
  parent?_root : t.parent? root = none
  /-- Both ends agree. -/
  mem_children_iff : ∀ parent child, child ∈ t.children parent ↔ t.parent? child = some parent
  nodup_children : ∀ id, (t.children id).Nodup
  /-- Detached objects have no children. -/
  children_detached : ∀ id, t.isInserted id = false → t.children id = []
  /-- The way up ends at the root. -/
  reaches_root : ∀ id, t.isInserted id → ∃ n, t.ancestor? n id = some root

/-- A topology without links is a tree of one object. -/
theorem isTree_initial : initial.IsTree := by
  have machine : ∀ id o, initial.object? id = some o → o.parent = none ∧ o.children = [] := by
    intro id o found
    have listed := Array.mem_of_getElem? found
    rw [initial, List.mem_toArray, List.mem_singleton] at listed
    subst listed
    exact ⟨rfl, rfl⟩
  have top : ∀ id, initial.parent? id = none := by
    intro id
    cases found : initial.object? id with
    | none => rw [parent?, found, Option.bind_none]
    | some o => rw [parent?, found, Option.bind_some, (machine id o found).1]
  have bare : ∀ id, initial.children id = [] := by
    intro id
    cases found : initial.object? id with
    | none => rw [children, found, Option.elim_none]
    | some o => rw [children, found, Option.elim_some, (machine id o found).2]
  refine ⟨top root, fun parent child => ?_, fun id => ?_, fun id _ => bare id, fun id h => ?_⟩
  · simp [top, bare]
  · rw [bare]
    exact .nil
  · rcases isInserted_iff.1 h with rfl | some
    · exact ⟨0, rfl⟩
    · rw [top] at some
      cases some

/-- It only matters who is whose parent and whose child. -/
theorem IsTree.of_places (h : t.IsTree) (parents : ∀ id, t'.parent? id = t.parent? id)
    (below : ∀ id, t'.children id = t.children id) : t'.IsTree := by
  have up : ∀ n id, t'.ancestor? n id = t.ancestor? n id := by
    intro n
    induction n with
    | zero => exact fun _ => rfl
    | succ n ih =>
      intro id
      rw [ancestor?, ancestor?, parents, funext ih]
  have inserted : ∀ id, t'.isInserted id = t.isInserted id := by
    intro id
    rw [Bool.eq_iff_iff, isInserted_iff, isInserted_iff, parents]
  exact {
    parent?_root := (parents root).trans h.parent?_root
    mem_children_iff := fun parent child => by rw [below, parents, h.mem_children_iff]
    nodup_children := fun id => by rw [below]; exact h.nodup_children id
    children_detached := fun id detached => by
      rw [below]
      exact h.children_detached id (by rw [← inserted, detached])
    reaches_root := fun id h' => by
      obtain ⟨n, reached⟩ := h.reaches_root id (by rw [← inserted, h'])
      exact ⟨n, by rw [up, reached]⟩ }

/-! ## Joining -/

theorem parent?_link (known : (t.object? child).isSome) :
    (t.link parent child).parent? id = if id = child then some parent else t.parent? id := by
  rw [parent?, object?_link]
  by_cases same : id = child
  · subst same
    obtain ⟨o, found⟩ := Option.isSome_iff_exists.1 known
    simp [found, Object.joined]
  · cases found : t.object? id <;> simp [parent?, found, same, Object.joined]

theorem children_link (known : (t.object? parent).isSome) :
    (t.link parent child).children id =
      if id = parent then t.children id ++ [child] else t.children id := by
  rw [children, object?_link]
  by_cases same : id = parent
  · subst same
    obtain ⟨o, found⟩ := Option.isSome_iff_exists.1 known
    simp [children, found, Object.joined]
  · cases found : t.object? id <;> simp [children, found, same, Object.joined]

namespace IsTree

/-- Parents are in the tree. -/
theorem isInserted_parent (h : t.IsTree) (found : t.parent? child = some parent) :
    t.isInserted parent := by
  have listed := (h.mem_children_iff parent child).2 found
  cases inserted : t.isInserted parent with
  | true => rfl
  | false =>
    rw [h.children_detached parent inserted] at listed
    cases listed

/-- The way up from an object of the tree stays in the tree. -/
theorem isInserted_ancestor (h : t.IsTree) (inserted : t.isInserted id)
    (above : t.ancestor? n id = some other) : t.isInserted other := by
  induction n generalizing id with
  | zero =>
    cases above
    exact inserted
  | succ n ih =>
    obtain ⟨parent, found, above⟩ := Option.bind_eq_some_iff.1 above
    exact ih (h.isInserted_parent found) above

/-- **A detached object may join the tree.** -/
theorem link (h : t.IsTree) (child_known : (t.object? child).isSome)
    (detached : t.isInserted child = false) (inserted : t.isInserted parent) :
    (t.link parent child).IsTree := by
  have parents : ∀ id, (t.link parent child).parent? id =
      if id = child then some parent else t.parent? id := fun _ => parent?_link child_known
  have below : ∀ id, (t.link parent child).children id =
      if id = parent then t.children id ++ [child] else t.children id :=
    fun _ => children_link (isSome_object?_of_isInserted inserted)
  have joined : ∀ id, (t.link parent child).isInserted id =
      (decide (id = child) || t.isInserted id) := fun _ => isInserted_link child_known
  have child_ne_root : child ≠ root := by
    rintro rfl
    rw [isInserted_root] at detached
    cases detached
  have alone : t.parent? child = none := by
    cases found : t.parent? child with
    | none => rfl
    | some q =>
      rw [isInserted_of_parent? found] at detached
      cases detached
  -- ways up inside the tree do not meet the child, which was outside
  have up : ∀ n id, t.isInserted id →
      (t.link parent child).ancestor? n id = t.ancestor? n id := by
    intro n
    induction n with
    | zero => exact fun _ _ => rfl
    | succ n ih =>
      intro id inside
      have other : id ≠ child := by
        rintro rfl
        rw [inside] at detached
        cases detached
      rw [ancestor?, ancestor?, parents, if_neg other]
      exact Option.bind_congr fun q found => ih q (h.isInserted_parent found)
  refine ⟨?_, fun p c => ?_, fun id => ?_, fun id outside => ?_, fun id inside => ?_⟩
  · rw [parents, if_neg child_ne_root.symm, h.parent?_root]
  · rw [parents, below]
    by_cases isChild : c = child
    · subst isChild
      have new : c ∉ t.children p := by rw [h.mem_children_iff, alone]; simp
      by_cases isParent : p = parent
      · simp [isParent]
      · simp [isParent, new, Ne.symm isParent]
    · rw [if_neg isChild, ← h.mem_children_iff]
      split <;> simp [isChild]
  · rw [below]
    split
    · refine List.nodup_append.2 ⟨h.nodup_children id, by simp, fun c listed c' single same => ?_⟩
      obtain rfl := List.mem_singleton.1 single
      rw [same, h.mem_children_iff, alone] at listed
      cases listed
    · exact h.nodup_children id
  · rw [joined, Bool.or_eq_false_iff] at outside
    have other : id ≠ parent := by
      rintro rfl
      rw [inserted] at outside
      cases outside.2
    rw [below, if_neg other, h.children_detached id outside.2]
  · rw [joined, Bool.or_eq_true, decide_eq_true_eq] at inside
    rcases inside with rfl | inside
    · obtain ⟨n, reached⟩ := h.reaches_root parent inserted
      refine ⟨n + 1, ?_⟩
      rw [ancestor?, parents, if_pos rfl, Option.bind_some, up n parent inserted, reached]
    · obtain ⟨n, reached⟩ := h.reaches_root id inside
      exact ⟨n, by rw [up n id inside, reached]⟩

/-! ## Ways up -/

/-- Whatever is above an object of the tree is on its way to the root. -/
theorem le_of_ancestor? (h : t.IsTree) (reached : t.ancestor? m id = some root)
    (above : t.ancestor? n id = some other) :
    n ≤ m ∧ t.ancestor? (m - n) other = some root := by
  have le : n ≤ m := by
    by_contra beyond
    have longer : n = m + (n - m - 1 + 1) := by omega
    rw [longer, ancestor?_add, reached, Option.bind_some, ancestor?, h.parent?_root] at above
    cases above
  refine ⟨le, ?_⟩
  rw [← Nat.add_sub_cancel' le, ancestor?_add, above, Option.bind_some] at reached
  exact reached

/-- **The number of steps from one object up to another is the same on any way.** -/
theorem steps_eq (h : t.IsTree) (one : t.ancestor? m id = some other)
    (two : t.ancestor? n id = some other) : m = n := by
  by_cases inserted : t.isInserted id
  · have unique : ∀ {k k' : ℕ} {a : ObjectId}, t.ancestor? k a = some root →
        t.ancestor? k' a = some root → k = k' := by
      intro k k' a reached reached'
      exact Nat.le_antisymm (h.le_of_ancestor? reached' reached).1
        (h.le_of_ancestor? reached reached').1
    obtain ⟨d, reached⟩ := h.reaches_root id inserted
    obtain ⟨le, rest⟩ := h.le_of_ancestor? reached one
    obtain ⟨le', rest'⟩ := h.le_of_ancestor? reached two
    have := unique rest rest'
    omega
  · -- there is no step up from outside of the tree
    have top : ∀ {k : ℕ}, t.ancestor? k id = some other → k = 0 := by
      intro k above
      cases k with
      | zero => rfl
      | succ k =>
        obtain ⟨parent, found, _⟩ := Option.bind_eq_some_iff.1 above
        exact absurd (isInserted_of_parent? found) inserted
    rw [top one, top two]

/-- No way up comes back. -/
theorem ancestor?_ne_self (h : t.IsTree) (pos : 0 < n) : t.ancestor? n id ≠ some id := fun back =>
  Nat.ne_of_gt pos (h.steps_eq back rfl)

/-- **No way up is longer than there are objects.** -/
theorem lt_size (h : t.IsTree) (inserted : t.isInserted id)
    (above : t.ancestor? n id = some other) : n < t.size := by
  have stop : ∀ i : Fin (n + 1), ∃ j : Fin t.size, t.ancestor? i id = some ⟨j⟩ := by
    intro i
    rw [← Nat.add_sub_cancel' (Nat.le_of_lt_succ i.isLt), ancestor?_add] at above
    obtain ⟨a, here, _⟩ := Option.bind_eq_some_iff.1 above
    have known := isSome_object?_of_isInserted (h.isInserted_ancestor inserted here)
    exact ⟨⟨a.index, (t.object?_isSome_iff a).1 known⟩, here⟩
  choose stops found using stop
  -- the stops on the way are different objects
  have injective : Function.Injective stops := by
    intro i j same
    have here := found i
    rw [same] at here
    exact Fin.ext (h.steps_eq here (found j))
  have few := Fintype.card_le_of_injective stops injective
  rw [Fintype.card_fin, Fintype.card_fin] at few
  exact few

/-- **Every way down ends.** -/
theorem wellFounded_children (h : t.IsTree) :
    WellFounded fun child id => child ∈ t.children id := by
  -- an object can only be as many steps down as there is room below it
  have inside : ∀ room id depth, t.ancestor? depth id = some root → t.size ≤ room + depth →
      Acc (fun child id => child ∈ t.children id) id := by
    intro room
    induction room with
    | zero =>
      intro id depth reached full
      have := h.lt_size (isInserted_of_ancestor? reached) reached
      omega
    | succ room ih =>
      intro id depth reached enough
      refine ⟨_, fun child listed => ih child (depth + 1) ?_ (by omega)⟩
      rw [ancestor?, (h.mem_children_iff id child).1 listed, Option.bind_some, reached]
  refine ⟨fun id => ?_⟩
  cases inserted : t.isInserted id with
  | true =>
    obtain ⟨depth, reached⟩ := h.reaches_root id inserted
    exact inside t.size id depth reached (Nat.le_add_right ..)
  | false =>
    refine ⟨_, fun child listed => ?_⟩
    rw [h.children_detached id inserted] at listed
    cases listed

end IsTree

end DeviceAtlas.Topology
