import DeviceAtlas.Proofs.Outcome
import DeviceAtlas.Proofs.Session
import Mathlib.Logic.Basic

/-!
# How matrices come to be stored

A matrix is announced, gets its content and is stored, and between these steps a session does other
things: it changes the tree, it works on other matrices, and some of its steps are refused. In the
end every stored matrix is what three steps of its own made of it, and it still relates objects of
the tree.

* `Session.matrixStep`: what one step does to matrices.
* `Session.Keeps`: the invariant of a session and of what happened in it.
* `Session.distances_run`: the stored matrices of a session, and how it goes on.
-/

namespace DeviceAtlas

/-! ## Sound matrices -/

namespace Distance

/-- A kind has one source and one meaning. -/
def Kind.IsDefinite (k : Kind) : Prop :=
  Xor (k.has .fromOs) (k.has .fromUser) ∧ Xor (k.has .meansLatency) (k.has .meansBandwidth)

theorem Kind.isValid_iff (k : Kind) : k.isValid ↔ k.IsDefinite := by
  have differ : ∀ a b : Bool, (a != b) = true ↔ Xor (a = true) (b = true) := by
    intro a b
    cases a <;> cases b <;> simp [Xor]
  rw [isValid, IsDefinite, Bool.and_eq_true, differ, differ]

end Distance

/-- A session goes on without taking objects out of the tree. -/
theorem Topology.Continues.isInserted {t t' : Topology} (h : t.Continues t') {id : ObjectId}
    (inserted : t.isInserted id) : t'.isInserted id := by
  rcases isInserted_iff.1 inserted with root | placed
  · exact isInserted_iff.2 (.inl root)
  · obtain ⟨parent, above⟩ := Option.isSome_iff_exists.1 placed
    obtain ⟨o, found, own⟩ := Option.bind_eq_some_iff.1 above
    obtain ⟨o', found', later⟩ := h id o found
    have above' : t'.parent? id = some parent := by
      rw [parent?, found', Option.bind_some, later.parent parent own]
    exact isInserted_of_parent? above'

theorem Distance.Content.IsSound.continues {t t' : Topology} {c : Distance.Content}
    (h : c.IsSound t) (later : t.Continues t') : c.IsSound t' :=
  { h with inserted := fun id listed => later.isInserted (h.inserted id listed) }

/-! ## What happens to matrices -/

/-- What a step achieved for the matrix in a slot. -/
inductive MatrixEvent where
  | announced (slot : ℕ) (name : String) (kind : Distance.Kind)
  | attached (slot : ℕ) (content : Distance.Content)
  | stored (slot : ℕ)
  deriving DecidableEq

namespace MatrixEvent

/-- The slot of the matrix. -/
def slot : MatrixEvent → ℕ
  | announced slot _ _ => slot
  | attached slot _ => slot
  | stored slot => slot

/-- The slot of a matrix that was stored. -/
def storedSlot? : MatrixEvent → Option ℕ
  | stored slot => some slot
  | _ => none

end MatrixEvent

namespace Session

/-- What a step achieves for a matrix. A step that is refused achieves nothing. -/
def event? (s : Session) : Edit → Option MatrixEvent
  | .announce name kind =>
    match Distance.Pending.announce name kind with
    | .ok _ => some (.announced s.pending.length name kind)
    | .error _ => none
  | .attach slot content =>
    (s.pending? slot).bind fun p =>
      match s.topology.attach p content with
      | .ok _ => some (.attached slot content)
      | .error _ => none
  | .store slot options =>
    (s.pending? slot).bind fun p =>
      match (s.topology.store p options).value with
      | .ok _ => some (.stored slot)
      | .error _ => none
  | _ => none

/-- What steps achieve for matrices, in order. -/
def history (s : Session) : List Edit → List MatrixEvent
  | [] => []
  | e :: rest => (s.event? e).toList ++ (s.step e).history rest

variable {s : Session} {e : Edit}

theorem pending?_eq_some_iff {slot : ℕ} {p : Distance.Pending} :
    s.pending? slot = some p ↔ s.pending[slot]? = some (some p) :=
  Option.join_eq_some_iff

/-- A slot was given out, and its matrix is gone. -/
def IsSpent (s : Session) (slot : ℕ) : Prop := s.pending[slot]? = some none

/-- What a step does to matrices, and what it achieves. -/
inductive MatrixStep (s s' : Session) : Option MatrixEvent → Prop
  /-- It announces a matrix with a name and a definite kind. -/
  | announced (name : String) (kind : Distance.Kind) (named : name ≠ "")
    (definite : kind.IsDefinite) (pending : s'.pending = s.pending ++ [some ⟨name, kind, none⟩])
    (distances : s'.topology.distances = s.topology.distances) :
    MatrixStep s s' (some (.announced s.pending.length name kind))
  /-- It gives sound content to a matrix that has none. -/
  | attached (slot : ℕ) (p : Distance.Pending) (content : Distance.Content)
    (here : s.pending[slot]? = some (some p)) (empty : p.content = none)
    (sound : content.IsSound s.topology)
    (pending : s'.pending = s.pending.set slot (some { p with content := some content }))
    (distances : s'.topology.distances = s.topology.distances) :
    MatrixStep s s' (some (.attached slot content))
  /-- It stores a matrix that has content. -/
  | stored (slot : ℕ) (p : Distance.Pending) (content : Distance.Content)
    (here : s.pending[slot]? = some (some p)) (full : p.content = some content)
    (pending : s'.pending = s.pending.set slot none)
    (distances : s'.topology.distances = s.topology.distances ++ [⟨content, p.name, p.kind⟩]) :
    MatrixStep s s' (some (.stored slot))
  /-- It achieves nothing; a matrix that was to be stored may be gone. -/
  | idle (pending : ∀ slot, s'.pending[slot]? = s.pending[slot]? ∨ s'.IsSpent slot)
    (distances : s'.topology.distances = s.topology.distances) : MatrixStep s s' none

/-- A change of one object, accepted or refused, is not about matrices. -/
theorem matrixStep_attempt_modifyKnown (s : Session) (id : ObjectId) (change : Object → Object) :
    MatrixStep s (s.attempt (s.topology.modifyKnown id change)) none := by
  unfold Topology.modifyKnown
  split <;> exact .idle (fun _ => .inl rfl) rfl

/-- **What one step does to matrices.** -/
theorem matrixStep (s : Session) (e : Edit) : MatrixStep s (s.step e) (s.event? e) := by
  cases e with
  | allocate kind osIndex => exact .idle (fun _ => .inl rfl) rfl
  | insert parent child =>
    rw [step]
    cases inserted : s.topology.insert parent child with
    | error error => exact .idle (fun _ => .inl rfl) rfl
    | ok t =>
      obtain ⟨_, _, _, _, _, rfl⟩ := Topology.insert_eq_ok_iff.1 inserted
      exact .idle (fun _ => .inl rfl) rfl
  | setName id name => exact s.matrixStep_attempt_modifyKnown id _
  | setSubtype id subtype => exact s.matrixStep_attempt_modifyKnown id _
  | setAttributes id attributes => exact s.matrixStep_attempt_modifyKnown id _
  | mapAttributes id change => exact .idle (fun _ => .inl rfl) rfl
  | addInfo id key value => exact s.matrixStep_attempt_modifyKnown id _
  | addTopologyInfo key value => exact .idle (fun _ => .inl rfl) rfl
  | setFilter kind choice => exact .idle (fun _ => .inl rfl) rfl
  | setOptions options => exact .idle (fun _ => .inl rfl) rfl
  | announce name kind =>
    by_cases named : name = ""
    · have refused : Distance.Pending.announce name kind = .error .emptyName := if_pos named
      simp only [event?, step, refused]
      exact .idle (fun _ => .inl rfl) rfl
    · by_cases valid : kind.isValid
      · have announced : Distance.Pending.announce name kind = .ok ⟨name, kind, none⟩ := by
          rw [Distance.Pending.announce, if_neg named, if_pos valid]
        simp only [event?, step, announced]
        exact .announced name kind named (kind.isValid_iff.1 valid) rfl rfl
      · have refused : Distance.Pending.announce name kind = .error (.invalidKind kind) := by
          rw [Distance.Pending.announce, if_neg named, if_neg valid]
        simp only [event?, step, refused]
        exact .idle (fun _ => .inl rfl) rfl
  | attach slot content =>
    cases here : s.pending? slot with
    | none =>
      simp only [event?, step, here, Option.bind_none]
      exact .idle (fun _ => .inl rfl) rfl
    | some p =>
      cases attached : s.topology.attach p content with
      | error failure =>
        simp only [event?, step, here, Option.bind_some, attached]
        exact .idle (fun _ => .inl rfl) rfl
      | ok p' =>
        obtain ⟨empty, sound, rfl⟩ := Topology.attach_eq_ok_iff.1 attached
        simp only [event?, step, here, Option.bind_some, attached]
        exact .attached slot p content (pending?_eq_some_iff.1 here) empty sound rfl rfl
  | store slot options =>
    cases here : s.pending? slot with
    | none =>
      simp only [event?, step, here, Option.bind_none]
      exact .idle (fun _ => .inl rfl) rfl
    | some p =>
      cases full : p.content with
      | none =>
        simp only [event?, step, here, Option.bind_some, Topology.store, full]
        refine .idle (fun other => ?_) rfl
        have within := (List.getElem?_eq_some_iff.1 (pending?_eq_some_iff.1 here)).1
        by_cases same : slot = other
        · subst same
          exact .inr (List.getElem?_set_self within)
        · exact .inl (List.getElem?_set_ne same)
      | some content =>
        simp only [event?, step, here, Option.bind_some, Topology.store, full]
        exact .stored slot p content (pending?_eq_some_iff.1 here) full rfl rfl

/-- A step achieves something in one slot only, and this slot was not spent. -/
theorem MatrixStep.slot {s s' : Session} {event : MatrixEvent} (h : MatrixStep s s' (some event)) :
    ¬ s.IsSpent event.slot ∧ ∀ slot ≠ event.slot, s'.pending[slot]? = s.pending[slot]? := by
  have unspent : ∀ {slot p}, s.pending[slot]? = some (some p) → ¬ s.IsSpent slot := by
    intro slot p here spent
    rw [IsSpent, here] at spent
    cases spent
  cases h with
  | announced name kind named definite pending distances =>
    refine ⟨fun spent => ?_, fun slot other => ?_⟩
    · exact absurd (List.getElem?_eq_some_iff.1 spent).1 (Nat.lt_irrefl _)
    · rw [pending, List.getElem?_append]
      split
      · rfl
      · have beyond : s.pending.length < slot := by
          have : slot ≠ s.pending.length := other
          omega
        rw [List.getElem?_eq_none (Nat.le_of_lt beyond), List.getElem?_eq_none]
        rw [List.length_singleton]
        omega
  | attached slot p content here empty sound pending distances =>
    refine ⟨unspent here, fun slot' other => ?_⟩
    rw [pending]
    exact List.getElem?_set_ne (Ne.symm other)
  | stored slot p content here full pending distances =>
    refine ⟨unspent here, fun slot' other => ?_⟩
    rw [pending]
    exact List.getElem?_set_ne (Ne.symm other)

end Session

/-! ## What must have happened -/

/-- What has happened to a pending matrix. -/
def Distance.Pending.events (slot : ℕ) (p : Pending) : List MatrixEvent :=
  .announced slot p.name p.kind :: p.content.toList.map (.attached slot)

/-- What has happened to a stored matrix: it was announced once, got content once and was stored
once, in this order. -/
def Distance.Matrix.events (slot : ℕ) (m : Matrix) : List MatrixEvent :=
  [.announced slot m.name m.kind, .attached slot m.toContent, .stored slot]

/-- What happened to the matrix in a slot. -/
def eventsOf (slot : ℕ) (events : List MatrixEvent) : List MatrixEvent :=
  events.filter (·.slot = slot)

theorem eventsOf_concat_self (events : List MatrixEvent) (event : MatrixEvent) :
    eventsOf event.slot (events ++ [event]) = eventsOf event.slot events ++ [event] := by
  simp [eventsOf]

theorem eventsOf_concat_of_ne {slot : ℕ} {event : MatrixEvent} (other : slot ≠ event.slot)
    (events : List MatrixEvent) :
    eventsOf slot (events ++ [event]) = eventsOf slot events := by
  simp [eventsOf, Ne.symm other]

/-- A matrix on its way has a name and a definite kind, and any content that it has is sound. -/
structure Distance.Pending.IsSound (t : Topology) (p : Pending) : Prop where
  named : p.name ≠ ""
  definite : p.kind.IsDefinite
  content : ∀ c, p.content = some c → c.IsSound t

/-- A stored matrix has a name, a definite kind and sound content. -/
structure Distance.Matrix.IsSound (t : Topology) (m : Matrix) : Prop where
  named : m.name ≠ ""
  definite : m.kind.IsDefinite
  content : m.toContent.IsSound t

namespace Session

variable {s s' : Session} {events events' : List MatrixEvent}

/-- A slot agrees with what happened in it. -/
def SlotKeeps (t : Topology) (slot : ℕ) (happened : List MatrixEvent) :
    Option (Option Distance.Pending) → Prop
  | none => happened = []
  | some (some p) => happened = p.events slot ∧ p.IsSound t
  | some none => True

theorem SlotKeeps.continues {t t' : Topology} {slot : ℕ} {happened : List MatrixEvent}
    {entry : Option (Option Distance.Pending)} (h : SlotKeeps t slot happened entry)
    (later : t.Continues t') : SlotKeeps t' slot happened entry := by
  rcases entry with _ | _ | p
  · exact h
  · trivial
  · exact ⟨h.1, h.2.named, h.2.definite, fun c full => (h.2.content c full).continues later⟩

/-- A session agrees with what happened. The stored matrices are in the order in which they were
stored, and nothing more can happen in their slots. -/
structure Keeps (s : Session) (events : List MatrixEvent) : Prop where
  slots : ∀ slot, SlotKeeps s.topology slot (eventsOf slot events) s.pending[slot]?
  stored : List.Forall₂ (fun slot m => s.IsSpent slot ∧ eventsOf slot events = m.events slot)
    (events.filterMap MatrixEvent.storedSlot?) s.topology.distances
  sound : ∀ m ∈ s.topology.distances, m.IsSound s.topology

theorem keeps_start : start.Keeps [] where
  slots _ := rfl
  stored := .nil
  sound m listed := by cases listed

namespace Keeps

/-- Matrices that were stored stay as they are if nothing happens in spent slots. -/
theorem stored_of_isSpent (h : s.Keeps events) (spent : ∀ slot, s.IsSpent slot →
      s'.IsSpent slot ∧ eventsOf slot events' = eventsOf slot events) :
    List.Forall₂ (fun slot m => s'.IsSpent slot ∧ eventsOf slot events' = m.events slot)
      (events.filterMap MatrixEvent.storedSlot?) s.topology.distances :=
  h.stored.imp fun slot _ before =>
    ⟨(spent slot before.1).1, (spent slot before.1).2.trans before.2⟩

/-- Sound matrices stay sound. -/
theorem sound_of_continues (h : s.Keeps events) (later : s.topology.Continues s'.topology) :
    ∀ m ∈ s.topology.distances, m.IsSound s'.topology := fun m listed =>
  ⟨(h.sound m listed).named, (h.sound m listed).definite,
    (h.sound m listed).content.continues later⟩

/-- A step that achieves nothing. -/
theorem idle (h : s.Keeps events) (later : s.topology.Continues s'.topology)
    (move : MatrixStep s s' none) : s'.Keeps events := by
  cases move with
  | idle pending distances =>
    refine ⟨fun slot => ?_, ?_, ?_⟩
    · rcases pending slot with same | spent
      · rw [same]
        exact (h.slots slot).continues later
      · rw [show s'.pending[slot]? = some none from spent]
        trivial
    · rw [distances]
      refine h.stored_of_isSpent fun slot spent => ⟨?_, rfl⟩
      exact (pending slot).elim (fun same => same.trans spent) id
    · rw [distances]
      exact h.sound_of_continues later

/-- A step that achieves something. -/
theorem concat (h : s.Keeps events) (later : s.topology.Continues s'.topology) {event : MatrixEvent}
    (move : MatrixStep s s' (some event)) : s'.Keeps (events ++ [event]) := by
  obtain ⟨unspent, others⟩ := move.slot
  -- in other slots nothing happens
  have elsewhere : ∀ slot ≠ event.slot,
      SlotKeeps s'.topology slot (eventsOf slot (events ++ [event])) s'.pending[slot]? := by
    intro slot other
    rw [others slot other, eventsOf_concat_of_ne other]
    exact (h.slots slot).continues later
  have spent : ∀ slot, s.IsSpent slot →
      s'.IsSpent slot ∧ eventsOf slot (events ++ [event]) = eventsOf slot events := by
    intro slot spent
    have other : slot ≠ event.slot := fun same => unspent (same ▸ spent)
    exact ⟨(others slot other).trans spent, eventsOf_concat_of_ne other events⟩
  have stored := h.stored_of_isSpent spent
  have slots : SlotKeeps s'.topology event.slot (eventsOf event.slot (events ++ [event]))
      s'.pending[event.slot]? → ∀ slot,
        SlotKeeps s'.topology slot (eventsOf slot (events ++ [event])) s'.pending[slot]? := by
    intro own slot
    by_cases same : slot = event.slot
    · rw [same]
      exact own
    · exact elsewhere slot same
  rw [eventsOf_concat_self] at slots
  cases move with
  | announced name kind named definite pending distances =>
    have nothing := h.slots s.pending.length
    rw [List.getElem?_eq_none (Nat.le_refl _)] at nothing
    have entry : s'.pending[s.pending.length]? = some (some ⟨name, kind, none⟩) := by
      rw [pending, List.getElem?_concat_length]
    refine ⟨slots ?_, ?_, ?_⟩
    · simp only [MatrixEvent.slot, entry]
      exact ⟨by rw [nothing]; rfl, named, definite, fun c full => nomatch full⟩
    · rw [List.filterMap_append, distances]
      exact (List.append_nil _).symm ▸ stored
    · rw [distances]
      exact h.sound_of_continues later
  | attached slot p content found empty sound pending distances =>
    have here := h.slots slot
    rw [found] at here
    obtain ⟨happened, before⟩ := here
    have entry : s'.pending[slot]? = some (some { p with content := some content }) := by
      rw [pending, List.getElem?_set_self (List.getElem?_eq_some_iff.1 found).1]
    refine ⟨slots ?_, ?_, ?_⟩
    · simp only [MatrixEvent.slot, entry]
      refine ⟨?_, before.named, before.definite, fun c full => ?_⟩
      · rw [happened, Distance.Pending.events, empty]
        rfl
      · cases full
        exact sound.continues later
    · rw [List.filterMap_append, distances]
      exact (List.append_nil _).symm ▸ stored
    · rw [distances]
      exact h.sound_of_continues later
  | stored slot p content found full pending distances =>
    have here := h.slots slot
    rw [found] at here
    obtain ⟨happened, before⟩ := here
    have gone : s'.pending[slot]? = some none := by
      rw [pending, List.getElem?_set_self (List.getElem?_eq_some_iff.1 found).1]
    have own : eventsOf slot (events ++ [.stored slot]) =
        Distance.Matrix.events slot ⟨content, p.name, p.kind⟩ := by
      refine (eventsOf_concat_self events (.stored slot)).trans ?_
      simp only [MatrixEvent.slot]
      rw [happened, Distance.Pending.events, full]
      rfl
    refine ⟨slots ?_, ?_, ?_⟩
    · simp only [MatrixEvent.slot, gone]
      trivial
    · rw [List.filterMap_append, distances]
      exact List.rel_append stored (.cons ⟨gone, own⟩ .nil)
    · rw [distances]
      intro m listed
      rcases List.mem_append.1 listed with old | new
      · exact h.sound_of_continues later m old
      · rw [List.mem_singleton.1 new]
        exact ⟨before.named, before.definite, (before.content content full).continues later⟩

/-- **One step keeps a session in agreement with what happened.** -/
theorem step (h : s.Keeps events) (e : Edit) :
    (s.step e).Keeps (events ++ (s.event? e).toList) := by
  have later := s.continues_step e
  have move := s.matrixStep e
  cases achieved : s.event? e with
  | none =>
    rw [achieved] at move
    rw [Option.toList_none, List.append_nil]
    exact h.idle later move
  | some event =>
    rw [achieved] at move
    exact h.concat later move

/-- A run keeps a session in agreement with what happened. -/
theorem run (h : s.Keeps events) (edits : List Edit) :
    (s.run edits).Keeps (events ++ s.history edits) := by
  induction edits generalizing s events with
  | nil => rwa [history, List.append_nil]
  | cons e rest ih =>
    rw [run_cons, history, ← List.append_assoc]
    exact ih (h.step e)

end Keeps

/-- Matrices are only stored after those that there are. -/
theorem distances_prefix_run (s : Session) (edits : List Edit) :
    s.topology.distances <+: (s.run edits).topology.distances := by
  induction edits generalizing s with
  | nil => exact List.prefix_rfl
  | cons e rest ih =>
    refine List.IsPrefix.trans ?_ (ih (s.step e))
    have move := s.matrixStep e
    generalize s.event? e = event at move
    cases move with
    | announced name kind named definite pending distances => rw [distances]
    | attached slot p content found empty sound pending distances => rw [distances]
    | stored slot p content found full pending distances =>
      rw [distances]
      exact List.prefix_append ..
    | idle pending distances => rw [distances]

/-- **The stored matrices of a session, and how it goes on.** They are in the order in which they
were stored, and of the matrix in the slot of each nothing happened but that it was announced under
this name and with this kind, got this content, and was stored, each once. Each has a name, one
source and one meaning, relates at least one object, none twice and all of the tree as it is now,
and has a value for each pair; there is a value between two objects exactly if it relates both, and
this is the one in the row of the first and the column of the second. Whatever is done later, the
matrices stay as they are. -/
theorem distances_run (edits later : List Edit) :
    let s := start.run edits
    let t := s.topology
    let happened := start.history edits
    List.Forall₂ (fun slot m => eventsOf slot happened =
        [.announced slot m.name m.kind, .attached slot m.toContent, .stored slot])
      (happened.filterMap MatrixEvent.storedSlot?) t.distances ∧
    (∀ m ∈ t.distances, m.name ≠ "" ∧
      Xor (m.kind.has .fromOs) (m.kind.has .fromUser) ∧
      Xor (m.kind.has .meansLatency) (m.kind.has .meansBandwidth) ∧
      m.objects ≠ [] ∧ m.objects.Nodup ∧ (∀ id ∈ m.objects, t.isInserted id) ∧
      m.values.size = m.objects.length * m.objects.length ∧
      (∀ a b, (m.value? a b).isSome ↔ a ∈ m.objects ∧ b ∈ m.objects) ∧
      ∀ (i j : ℕ) (a b : ObjectId), m.objects[i]? = some a → m.objects[j]? = some b →
        ∃ v, m.values[i * m.objects.length + j]? = some v ∧ m.value? a b = some v) ∧
    t.distances <+: (s.run later).topology.distances := by
  intro s t happened
  have keeps : s.Keeps happened := keeps_start.run edits
  refine ⟨keeps.stored.imp fun slot m own => own.2, fun m listed => ?_,
    s.distances_prefix_run later⟩
  obtain ⟨named, definite, content⟩ := keeps.sound m listed
  exact ⟨named, definite.1, definite.2, content.objects_ne_nil, content.nodup, content.inserted,
    content.square, Distance.Matrix.isSome_value?_iff content.nodup content.square,
    fun i j a b => Distance.Matrix.exists_value?_eq content.nodup content.square⟩

/-- Two matrices at a time. The one that was announced first is refused its content as long as an
object of it is outside of the tree, is refused other content later, and is stored last. -/
def overlappingEdits : List Edit :=
  [.announce "first" .measuredBandwidth, .announce "second" ⟨6⟩,
   .allocate .osDevice none, .allocate .osDevice none, .insert ⟨0⟩ ⟨1⟩,
   .attach 0 ⟨[⟨1⟩, ⟨2⟩], #[0, 7, 9, 0]⟩, .insert ⟨0⟩ ⟨2⟩, .attach 1 ⟨[⟨0⟩], #[3]⟩,
   .attach 0 ⟨[⟨1⟩, ⟨2⟩], #[0, 7, 9, 0]⟩, .attach 0 ⟨[⟨0⟩], #[5]⟩, .store 1 .none, .store 0 .none]

theorem distances_run_overlapping :
    let t := (start.run overlappingEdits).topology
    t.distances.map (·.name) = ["second", "first"] ∧
      ∃ m ∈ t.distances, m.name = "first" ∧ m.objects = [⟨1⟩, ⟨2⟩] ∧
        t.isInserted ⟨2⟩ ∧ m.value? ⟨2⟩ ⟨1⟩ = m.values[2]? := by
  have stored : ∃ m ∈ (start.run overlappingEdits).topology.distances,
      m.name = "first" ∧ m.objects = [⟨1⟩, ⟨2⟩] := by
    decide +kernel
  refine ⟨by decide +kernel, ?_⟩
  obtain ⟨m, listed, name, objects⟩ := stored
  obtain ⟨-, -, -, -, -, inserted, -, -, values⟩ :=
    (distances_run overlappingEdits []).2.1 m listed
  obtain ⟨v, value, found⟩ := values 1 0 ⟨2⟩ ⟨1⟩ (by rw [objects]; rfl) (by rw [objects]; rfl)
  rw [objects] at value
  exact ⟨m, listed, name, objects, inserted ⟨2⟩ (by rw [objects]; decide), found.trans value.symm⟩

end Session

end DeviceAtlas
