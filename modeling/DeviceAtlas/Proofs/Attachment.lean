import DeviceAtlas.Proofs.Publishing
import DeviceAtlas.Proofs.Session
import Mathlib.Order.Bounds.Basic

/-!
# What a pending matrix takes

A pending matrix takes content that is sound, and nothing else. The objects are looked at one after
another, each against the tree and against those before it, and the search ends at the first fault.
So it finds a fault exactly if some object is not in the tree or occurs twice, and the fault that it
tells is the one at the least position.

* `Distance.checkObjects_eq_error_iff`: what the search through the objects finds.
* `Distance.firstFault_iff`: the first fault is the one at the least position.
* `Topology.attach_eq_error_iff`: why a pending matrix does not take content.
* `Topology.outcome_attach`: when it takes content, why not else, and what is pending afterwards.
-/

namespace DeviceAtlas

namespace Distance

/-! ## The first fault -/

variable {isMember : ObjectId → Bool} {before ids : List ObjectId} {failure : Failure}

/-- A position is at fault if its object is no member, or came before. -/
def IsFault (isMember : ObjectId → Bool) (ids : List ObjectId) (k : ℕ) : Prop :=
  ∃ id, ids[k]? = some id ∧ (isMember id = false ∨ id ∈ ids.take k)

/-- The search passes over different members that did not come before. -/
theorem checkObjects_append {front : List ObjectId} (nodup : (before ++ front).Nodup)
    (members : ∀ id ∈ front, isMember id) (ids : List ObjectId) :
    checkObjects isMember before (front ++ ids) = checkObjects isMember (before ++ front) ids := by
  induction front generalizing before with
  | nil => rw [List.nil_append, List.append_nil]
  | cons id front ih =>
    have new : id ∉ before := fun listed =>
      (List.nodup_append.1 nodup).2.2 id listed id List.mem_cons_self rfl
    rw [List.append_cons] at nodup ⊢
    rw [List.cons_append, checkObjects, members id List.mem_cons_self, Bool.not_true,
      if_neg Bool.false_ne_true, if_neg new]
    exact ih nodup fun other listed => members other (List.mem_cons_of_mem _ listed)

/-- **The search ends at the first fault.** -/
theorem checkObjects_eq_error_iff :
    checkObjects isMember [] ids = .error failure ↔ FirstFault isMember ids failure := by
  constructor
  · exact firstFault_of_checkObjects .nil fun _ listed => by cases listed
  · rintro ⟨before, id, after, rfl, nodup, members, what⟩
    have apart : ([] ++ before).Nodup := nodup
    rw [checkObjects_append apart members, List.nil_append, checkObjects]
    by_cases member : isMember id
    · rw [if_pos member] at what
      obtain ⟨again, rfl⟩ := what
      rw [member, Bool.not_true, if_neg Bool.false_ne_true, if_pos again]
    · rw [if_neg member] at what
      rw [what, if_pos (by simpa using member)]

/-- **The first fault is the one at the least position.** -/
theorem firstFault_iff : FirstFault isMember ids failure ↔
    ∃ k id, IsLeast {k | IsFault isMember ids k} k ∧ ids[k]? = some id ∧
      failure = if isMember id then .duplicateObject id else .unknownObject id := by
  constructor
  · rintro ⟨before, id, after, rfl, nodup, members, what⟩
    have here : (before ++ id :: after)[before.length]? = some id := by simp
    refine ⟨before.length, id, ⟨⟨id, here, ?_⟩, fun j ⟨other, there, fault⟩ => ?_⟩, here, ?_⟩
    · rw [List.take_left]
      by_cases member : isMember id
      · rw [if_pos member] at what
        exact .inr what.1
      · exact .inl (by simpa using member)
    · -- no position before is at fault
      by_contra beyond
      have below : j < before.length := Nat.lt_of_not_le beyond
      rw [List.getElem?_append_left below] at there
      rcases fault with outside | again
      · rw [members other (List.mem_of_getElem? there)] at outside
        cases outside
      · rw [List.take_append_of_le_length (Nat.le_of_lt below)] at again
        rw [← List.take_length (l := before)] at nodup
        exact nodup_take_iff.1 nodup j below other there again
    · by_cases member : isMember id
      · rw [if_pos member] at what ⊢
        exact what.2
      · rw [if_neg member] at what ⊢
        exact what
  · rintro ⟨k, id, ⟨⟨id', here', fault⟩, least⟩, here, rfl⟩
    obtain rfl := Option.some.inj (here'.symm.trans here)
    obtain ⟨within, value⟩ := List.getElem?_eq_some_iff.1 here
    have sound : ∀ j < k, ∀ other, ids[j]? = some other → isMember other ∧ other ∉ ids.take j := by
      intro j below other there
      have passed : ¬ IsFault isMember ids j := fun fault =>
        absurd (least fault) (Nat.not_le_of_lt below)
      constructor
      · by_contra outside
        exact passed ⟨other, there, .inl (by simpa using outside)⟩
      · exact fun again => passed ⟨other, there, .inr again⟩
    refine ⟨ids.take k, id', ids.drop (k + 1), ?_, ?_, fun other listed => ?_, ?_⟩
    · rw [← value, ← List.drop_eq_getElem_cons within, List.take_append_drop]
    · exact nodup_take_iff.2 fun j below other there => (sound j below other there).2
    · obtain ⟨j, below, there⟩ := List.mem_take_iff_getElem.1 listed
      exact (sound j (by omega) other (List.getElem?_eq_some_iff.2 ⟨by omega, there⟩)).1
    · split
      · rename_i member
        refine ⟨fault.resolve_left ?_, rfl⟩
        rw [member]
        exact Bool.noConfusion
      · rfl

/-! ## Refusals -/

/-- Why a pending matrix does not take content. Each demand is only looked at if those before it are
met. -/
inductive Refusal (t : Topology) (p : Pending) (c : Content) : Failure → Prop
  | alreadyAttached (full : p.content.isSome) : Refusal t p c (.alreadyAttached p.name)
  | noObjects (empty : p.content = none) (none : c.objects = []) :
    Refusal t p c (.noObjects p.name)
  | sizeMismatch (empty : p.content = none) (some : c.objects ≠ [])
    (uneven : c.values.size ≠ c.objects.length * c.objects.length) :
    Refusal t p c
      (.sizeMismatch p.name (c.objects.length * c.objects.length) c.values.size)
  /-- The object at the least position at fault is not in the tree. -/
  | unknownObject {k : ℕ} {id : ObjectId} (empty : p.content = none) (some : c.objects ≠ [])
    (square : c.values.size = c.objects.length * c.objects.length)
    (first : IsLeast {k | IsFault t.isInserted c.objects k} k) (here : c.objects[k]? = .some id)
    (outside : t.isInserted id = false) : Refusal t p c (.unknownObject id)
  /-- The object at the least position at fault is in the tree, so that it came before. -/
  | duplicateObject {k : ℕ} {id : ObjectId} (empty : p.content = none) (some : c.objects ≠ [])
    (square : c.values.size = c.objects.length * c.objects.length)
    (first : IsLeast {k | IsFault t.isInserted c.objects k} k) (here : c.objects[k]? = .some id)
    (inside : t.isInserted id) : Refusal t p c (.duplicateObject id)

end Distance

namespace Topology

variable {t : Topology} {p : Distance.Pending} {c : Distance.Content} {failure : Distance.Failure}

/-- Content with as many values as pairs of objects is refused for the first fault of these. -/
theorem attach_of_firstFault (empty : p.content = none) (some : c.objects ≠ [])
    (square : c.values.size = c.objects.length * c.objects.length)
    (fault : Distance.FirstFault t.isInserted c.objects failure) :
    t.attach p c = .error failure := by
  unfold attach Distance.Pending.attach
  simp [empty, some, square, Distance.checkObjects_eq_error_iff.2 fault, Except.map]

/-- **Content is refused for the first demand that is not met.** -/
theorem attach_eq_error_iff : t.attach p c = .error failure ↔ Distance.Refusal t p c failure := by
  constructor
  · intro refused
    cases empty : p.content with
    | some before =>
      rw [attach, Distance.Pending.attach, if_pos (Option.isSome_of_eq_some empty)] at refused
      cases refused
      exact .alreadyAttached (Option.isSome_of_eq_some empty)
    | none =>
      have why := failure_of_attach empty refused
      split at why
      · rename_i none
        rw [why]
        exact .noObjects empty none
      · rename_i some
        split at why
        · rename_i square
          obtain ⟨k, id, first, here, rfl⟩ := Distance.firstFault_iff.1 why
          split
          · rename_i inside
            exact .duplicateObject empty some square first here inside
          · rename_i outside
            exact .unknownObject empty some square first here (by simpa using outside)
        · rename_i uneven
          rw [why]
          exact .sizeMismatch empty some uneven
  · intro refusal
    cases refusal with
    | alreadyAttached full => rw [attach, Distance.Pending.attach, if_pos full]
    | noObjects empty none => simp [attach, Distance.Pending.attach, empty, none]
    | sizeMismatch empty some uneven =>
      simp [attach, Distance.Pending.attach, empty, some, uneven]
    | unknownObject empty some square first here outside =>
      refine attach_of_firstFault empty some square
        (Distance.firstFault_iff.2 ⟨_, _, first, here, ?_⟩)
      rw [outside, if_neg Bool.false_ne_true]
    | duplicateObject empty some square first here inside =>
      refine attach_of_firstFault empty some square
        (Distance.firstFault_iff.2 ⟨_, _, first, here, ?_⟩)
      rw [if_pos inside]

/-- **A pending matrix takes exactly the content that is sound.** It has to have none yet, and the
content has to relate at least one object, to have a value for each pair of them, and to name
different objects of the tree. Otherwise it is refused for the first of these demands that is not
met, where of the objects the one at the least position at fault is told. In a session a pending
matrix that took content has it afterwards, one that refused it is as it was, and the topology stays
the same. -/
theorem outcome_attach (t : Topology) (p : Distance.Pending) (c : Distance.Content) :
    (∀ p', t.attach p c = .ok p' ↔
      (p.content = none ∧ c.objects ≠ [] ∧
        c.values.size = c.objects.length * c.objects.length ∧
        (∀ id ∈ c.objects, t.isInserted id) ∧ c.objects.Nodup) ∧
      p' = { p with content := some c }) ∧
    (∀ failure, t.attach p c = .error failure ↔ Distance.Refusal t p c failure) ∧
    ∀ (s : Session) (slot : ℕ), s.topology = t → s.pending? slot = some p →
      (s.step (.attach slot c)).topology = t ∧
      (s.step (.attach slot c)).pending? slot =
        match t.attach p c with
        | .ok _ => some { p with content := some c }
        | .error _ => some p := by
  refine ⟨fun p' => ?_, fun failure => attach_eq_error_iff, fun s slot same here => ?_⟩
  · rw [attach_eq_ok_iff]
    constructor
    · rintro ⟨empty, sound, value⟩
      exact ⟨⟨empty, sound.objects_ne_nil, sound.square, sound.inserted, sound.nodup⟩, value⟩
    · rintro ⟨⟨empty, some, square, inserted, nodup⟩, value⟩
      exact ⟨empty, ⟨some, nodup, inserted, square⟩, value⟩
  · subst same
    simp only [Session.step, here]
    cases taken : s.topology.attach p c with
    | error failure => exact ⟨rfl, here⟩
    | ok p' =>
      obtain ⟨_, _, rfl⟩ := attach_eq_ok_iff.1 taken
      have within := (List.getElem?_eq_some_iff.1 (Option.join_eq_some_iff.1 here)).1
      exact ⟨rfl, Option.join_eq_some_iff.2 (List.getElem?_set_self within)⟩

end Topology

end DeviceAtlas
