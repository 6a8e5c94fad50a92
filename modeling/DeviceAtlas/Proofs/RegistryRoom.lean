import DeviceAtlas.Discovery.Registry
import Mathlib.Algebra.Order.Floor.Div
import Mathlib.Data.Nat.Notation

/-!
# How much room a registry has

A registry makes room before it takes in objects, one batch after another, and what it asks for
depends on the room that is left. All the same the room that it has in the end is the least number
of batches that hold its objects, in whatever blocks they came. If memory has no room to give, the
registry stays as it is.

* `Registry.IsTight`: the room is the least number of batches.
* `Registry.isTight_call`: a call keeps it so.
* `Registry.serveAll_eq_run`: refused calls leave no trace.
* `Registry.room_run`: the registry after any calls.
-/

namespace DeviceAtlas.Registry

/-! ## Calls -/

/-- A call that registers objects. -/
inductive Call where
  | add (node : ObjectId)
  | addBlock (device : ObjectId) (subdevices : List ObjectId)
  deriving DecidableEq, Repr

/-- The objects that a call registers. -/
def Call.nodes : Call → List ObjectId
  | .add node => [node]
  | .addBlock device subdevices => device :: subdevices

/-- Register the objects of a call. The place of the first one comes back. -/
def call (r : Registry) : Call → Logged (Registry × ℕ)
  | .add node => r.add node
  | .addBlock device subdevices => r.addBlock device subdevices

/-- Do one call after another. -/
def run (r : Registry) (calls : List Call) : Registry :=
  calls.foldl (fun r c => (r.call c).value.1) r

/-- A call while memory grants some capacities and not others. -/
structure Request where
  call : Call
  grants : ℕ → Bool

/-- Do a call as far as memory allows. -/
def serve (r : Registry) (q : Request) : Registry × Except RegistryFull ℕ :=
  match q.call with
  | .add node => (r.addBlockIfGranted q.grants node []).value
  | .addBlock device subdevices => (r.addBlockIfGranted q.grants device subdevices).value

/-- Do one call after another as far as memory allows. -/
def serveAll (r : Registry) (requests : List Request) : Registry :=
  requests.foldl (fun r q => (r.serve q).1) r

/-- The calls that are not refused, of those that are done one after another. -/
def accepted (r : Registry) : List Request → List Call
  | [] => []
  | q :: rest =>
    match r.serve q with
    | (served, .ok _) => q.call :: accepted served rest
    | (left, .error _) => accepted left rest

variable {r : Registry} {c : Call}

/-! ## One call -/

/-- There is room for the objects that are there. -/
def HasRoom (r : Registry) : Prop := r.size ≤ r.capacity

/-- A reservation that is made leaves room for the objects that it is made for. -/
theorem size_add_le_capacity_reserve (h : r.HasRoom) (count : ℕ) :
    r.size + count ≤ (r.reserve count).value.capacity := by
  have room : r.spare = r.capacity - r.size := rfl
  have whole : batch = 40 := rfl
  unfold HasRoom at h
  rw [capacity_reserve r count h, missingBatches, whole]
  split <;> omega

/-- A call appends its objects and has the room that was reserved for them. -/
theorem value_call (r : Registry) (c : Call) :
    (r.call c).value =
      ({ nodes := r.nodes ++ c.nodes, capacity := (r.reserve c.nodes.length).value.capacity },
        r.size) := by
  cases c with
  | add node => rfl
  | addBlock device subdevices =>
    rw [Call.nodes, List.length_cons, Nat.add_comm]
    rfl

@[simp] theorem nodes_call (r : Registry) (c : Call) :
    (r.call c).value.1.nodes = r.nodes ++ c.nodes := by
  rw [value_call]

theorem size_call (r : Registry) (c : Call) :
    (r.call c).value.1.size = r.size + c.nodes.length := by
  simp [size]

/-- Where memory grants the room that is needed, a call goes as usual; otherwise it is refused, and
the registry stays as it is. -/
theorem serve_eq (r : Registry) (q : Request) :
    r.serve q =
      if q.call.nodes.length ≤ r.spare ∨
        q.grants (r.reserve q.call.nodes.length).value.capacity
      then ((r.call q.call).value.1, .ok r.size)
      else (r, .error ⟨r.capacity, q.call.nodes.length⟩) := by
  obtain ⟨node | ⟨device, subdevices⟩, grants⟩ := q
  · simp only [serve, addBlockIfGranted, value_call, Logged.value_bind, Call.nodes,
      List.length_cons, List.length_nil]
    split <;> rfl
  · simp only [serve, addBlockIfGranted, value_call, Logged.value_bind, Call.nodes,
      List.length_cons, Nat.add_comm 1]
    split <;> rfl

/-! ## The least number of batches -/

/-- A registry has the least number of batches that hold its objects. -/
def IsTight (r : Registry) : Prop := r.capacity = batch * (r.size ⌈/⌉ batch)

theorem isTight_iff : r.IsTight ↔ r.capacity = 40 * ((r.size + 39) / 40) := Iff.rfl

theorem IsTight.hasRoom (h : r.IsTight) : r.HasRoom := by
  rw [isTight_iff] at h
  unfold HasRoom
  omega

/-- **A call keeps to the least number of batches.** -/
theorem isTight_call (h : r.IsTight) (c : Call) : (r.call c).value.1.IsTight := by
  have room : r.spare = r.capacity - r.size := rfl
  have whole : batch = 40 := rfl
  have grown : (r.call c).value.1.capacity = _ :=
    congrArg (·.1.capacity) (value_call r c) |>.trans
      (capacity_reserve r c.nodes.length h.hasRoom)
  rw [isTight_iff] at h ⊢
  rw [grown, size_call, missingBatches, whole]
  -- less than a batch is left over, so that only what does not fit there takes new batches
  split <;> omega

/-! ## Any calls -/

theorem nodes_run (r : Registry) (calls : List Call) :
    (r.run calls).nodes = r.nodes ++ calls.flatMap Call.nodes := by
  induction calls generalizing r with
  | nil => simp [run]
  | cons c calls ih =>
    have rest := ih (r.call c).value.1
    rw [nodes_call, List.append_assoc] at rest
    exact rest

theorem isTight_run (h : r.IsTight) (calls : List Call) : (r.run calls).IsTight := by
  induction calls generalizing r with
  | nil => exact h
  | cons c calls ih => exact ih (isTight_call h c)

/-- Registries with the same objects and no more batches than needed are the same. -/
theorem IsTight.ext {r' : Registry} (h : r.IsTight) (h' : r'.IsTight) (same : r.nodes = r'.nodes) :
    r = r' := by
  obtain ⟨nodes, capacity⟩ := r
  obtain ⟨nodes', capacity'⟩ := r'
  obtain rfl : nodes = nodes' := same
  rw [isTight_iff] at h h'
  exact congrArg _ (h.trans h'.symm)

/-- **Refused calls leave no trace.** -/
theorem serveAll_eq_run (r : Registry) (requests : List Request) :
    r.serveAll requests = r.run (r.accepted requests) := by
  induction requests generalizing r with
  | nil => rfl
  | cons q rest ih =>
    have step : r.serveAll (q :: rest) = (r.serve q).1.serveAll rest := rfl
    rw [step, ih, accepted, serve_eq]
    split_ifs <;> rfl

/-- The calls that are not refused are some of all, in their order. -/
theorem accepted_sublist (r : Registry) (requests : List Request) :
    (r.accepted requests).Sublist (requests.map Request.call) := by
  induction requests generalizing r with
  | nil => exact .slnil
  | cons q rest ih =>
    unfold accepted
    split
    · exact (ih _).cons_cons q.call
    · exact (ih _).cons q.call

/-- **The room of a registry depends on its size only.** After any calls on an empty registry all
objects are there in the order in which they came, and there is room for the least number of batches
of 40 that hold them, so that the registry is the same in whatever blocks they came. The next call
tells the place of its first object, and none of its objects comes when the room that was reserved
is used up. If memory does not grant that room the call is refused, and the registry stays as it is;
of calls among which some are refused, the others come to the same registry without these. -/
theorem room_run (calls : List Call) :
    let r := Registry.empty.run calls
    r.nodes = calls.flatMap Call.nodes ∧
    r.capacity = 40 * (r.nodes.length ⌈/⌉ 40) ∧
    (∀ calls', calls'.flatMap Call.nodes = calls.flatMap Call.nodes →
      Registry.empty.run calls' = r) ∧
    (∀ c : Call,
      let reserved := (r.reserve c.nodes.length).value.capacity
      (r.call c).value = ({ nodes := r.nodes ++ c.nodes, capacity := reserved }, r.nodes.length) ∧
      ∀ k < c.nodes.length, r.nodes.length + k < reserved) ∧
    (∀ q : Request, r.serve q =
      if q.call.nodes.length ≤ r.capacity - r.nodes.length ∨
        q.grants (r.reserve q.call.nodes.length).value.capacity
      then ((r.call q.call).value.1, .ok r.nodes.length)
      else (r, .error ⟨r.capacity, q.call.nodes.length⟩)) ∧
    ∀ requests, Registry.empty.accepted requests = calls → Registry.empty.serveAll requests = r := by
  intro r
  have start : Registry.empty.IsTight := rfl
  have tight : r.IsTight := isTight_run start calls
  have listed : r.nodes = calls.flatMap Call.nodes := nodes_run _ calls
  refine ⟨listed, tight, fun calls' same => ?_, fun c => ⟨value_call r c, fun k below => ?_⟩,
    serve_eq r, fun requests same => ?_⟩
  · exact (isTight_run start calls').ext tight ((nodes_run _ calls').trans (same.trans listed.symm))
  · have := size_add_le_capacity_reserve tight.hasRoom c.nodes.length
    unfold size at this
    omega
  · rw [serveAll_eq_run, same]

/-! ### A full batch -/

/-- Eight devices with four subdevices each. -/
def fullBatch : List Call :=
  List.replicate 8 (.addBlock ⟨1⟩ [⟨2⟩, ⟨3⟩, ⟨4⟩, ⟨5⟩])

/-- Eight devices with four subdevices fill a batch, also if they come one by one, and one more
object takes a second one. -/
theorem room_run_fullBatch :
    let r := Registry.empty.run fullBatch
    r.capacity = 40 ∧
      Registry.empty.run ((fullBatch.flatMap Call.nodes).map Call.add) = r ∧
      (r.call (.add ⟨6⟩)).value.2 = 40 ∧
      (Registry.empty.run (fullBatch ++ [.add ⟨6⟩])).capacity = 80 ∧
      40 < (r.reserve 1).value.capacity ∧
      r.serve ⟨.add ⟨6⟩, fun _ => false⟩ = (r, .error ⟨40, 1⟩) ∧
      Registry.empty.serveAll ((fullBatch ++ [Call.add ⟨6⟩]).map fun c => ⟨c, (· ≤ 40)⟩) = r := by
  obtain ⟨listed, capacity, same, next, served, refused⟩ := room_run fullBatch
  obtain ⟨answer, room⟩ := next (.add ⟨6⟩)
  have size : (Registry.empty.run fullBatch).nodes.length = 40 := by
    rw [listed]
    rfl
  rw [size] at capacity answer room
  have more := (room_run (fullBatch ++ [.add ⟨6⟩])).2.1
  refine ⟨capacity, same _ (by decide), by rw [answer], ?_, room 0 (by decide), ?_, ?_⟩
  · rw [more, (room_run _).1]
    decide
  · rw [served, capacity, size]
    decide
  · exact refused _ (by decide)

end DeviceAtlas.Registry
