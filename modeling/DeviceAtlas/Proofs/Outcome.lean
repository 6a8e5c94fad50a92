import DeviceAtlas.Discovery.Pass
import DeviceAtlas.Proofs.BlockRecords
import DeviceAtlas.Proofs.MatchedLinks
import DeviceAtlas.Proofs.Publishing
import DeviceAtlas.Stack.Inventory

/-!
# The outcome of a pass

What a survey registers is in the tree, each object once, and whoever owns a port is registered.
So a topology takes any matrix that comes out of the links, if only it has a name.

* `Surveyed.isRegistered`: whoever owns a port is registered.
* `Surveyed.exists_matrix?_iff`: when a matrix comes out.
* `publication_discover`: what becomes of the matrix of a pass.
-/

namespace DeviceAtlas

variable {H : Type}

/-- The matrix that comes out of the links of a survey, if one does. -/
def Survey.matrix? (s : Survey) (settings : Settings) : Option BandwidthMatrix :=
  (aggregate s.registry s.ports s.topology settings).value

/-- The owner of a port is registered, and so is the device that the owner is part of. -/
structure Port.IsRegistered (r : Registry) (port : Port) : Prop where
  owner : port.owner ∈ r.nodes
  root : ∀ device, port.root = some device → device ∈ r.nodes

/-! ## The survey of a pass -/

/-- The survey that a pass makes, whatever its settings. If it does not get that far, nothing was
found. -/
def passSurvey (stack : Stack H) (t : Topology) : Survey :=
  if t.filter .osDevice = .keepNone then { topology := t }
  else match stack.start, stack.startManagement with
    | .ok (), .ok () => (survey stack t {}).value
    | _, _ => { topology := t }

/-- Every pass comes to the conclusion of its survey. -/
theorem value_discover (stack : Stack H) (t : Topology) (settings : Settings) :
    (discover stack t settings).value = ((passSurvey stack t).conclude settings).value := by
  unfold discover passSurvey
  by_cases filtered : t.filter .osDevice = .keepNone
  · rw [if_pos filtered, if_pos filtered]
    rfl
  · rw [if_neg filtered, if_neg filtered]
    cases stack.start with
    | error fault => rfl
    | ok u =>
      cases stack.startManagement with
      | error fault => rfl
      | ok u =>
        dsimp only
        rw [Logged.value_bind, Settings.value_survey_eq settings {}]

/-- The blocks of the survey of a pass. -/
def passBlocks (stack : Stack H) (t : Topology) : List (Block H) :=
  if t.filter .osDevice = .keepNone then []
  else match stack.start, stack.startManagement with
    | .ok (), .ok () => surveyBlocks stack t
    | _, _ => []

/-- The survey of a pass has the invariant. -/
theorem surveyed_passSurvey (stack : Stack H) (t : Topology) :
    Surveyed stack t (passSurvey stack t) (passBlocks stack t) := by
  unfold passSurvey passBlocks
  split
  · exact Surveyed.start stack t
  · split
    · exact surveyed_survey stack t {}
    · exact Surveyed.start stack t

/-- A pass finds all devices or none. -/
theorem passBlocks_eq_or (stack : Stack H) (t : Topology) :
    passBlocks stack t = [] ∨ passBlocks stack t = surveyBlocks stack t := by
  unfold passBlocks
  split
  · exact .inl rfl
  · split
    · exact .inr rfl
    · exact .inl rfl

/-- The survey of a pass has the invariant, and found all devices or none. -/
theorem exists_surveyed_passSurvey (stack : Stack H) (t : Topology) :
    ∃ devices, Surveyed stack t (passSurvey stack t) (blocksFrom stack 0 t.size devices) ∧
      (devices = [] ∨ devices = foundDevices stack) := by
  have surveyed := surveyed_passSurvey stack t
  rcases passBlocks_eq_or stack t with none | all
  · rw [none] at surveyed
    exact ⟨[], surveyed, .inl rfl⟩
  · rw [all] at surveyed
    exact ⟨foundDevices stack, surveyed, .inr rfl⟩

namespace Surveyed

variable {stack : Stack H} {t : Topology} {s : Survey} {blocks : List (Block H)}

/-- Whoever owns a port is registered, although ports are kept before anything is. -/
theorem isRegistered (h : Surveyed stack t s blocks) {port : Port}
    (kept : port ∈ s.ports.ports) : port.IsRegistered s.registry := by
  obtain ⟨b, listed, found⟩ := h.ports port kept
  have root : b.root ∈ s.registry.nodes := h.mem_nodes_of_mem listed List.mem_cons_self
  rcases found.on.owner_eq_or with ⟨owner, none⟩ | ⟨some, place, owner⟩
  · refine ⟨owner ▸ root, fun device same => ?_⟩
    rw [none] at same
    cases same
  · have part := b.mem_parts_of_table stack owner
    refine ⟨h.mem_nodes_of_mem listed (List.mem_cons_of_mem _ part), fun device same => ?_⟩
    rw [some] at same
    cases same
    exact root

/-- All that is registered is in the tree. -/
theorem isInserted (h : Surveyed stack t s blocks) {id : ObjectId}
    (listed : id ∈ s.registry.nodes) : s.topology.isInserted id := by
  rw [h.nodes] at listed
  obtain ⟨b, hb, own⟩ := List.mem_flatMap.1 listed
  exact (h.settled b hb).recorded.isInserted own

/-- A matrix comes out exactly when there is a link of the chosen model, if there is memory for
it. -/
theorem exists_matrix?_iff (h : Surveyed stack t s blocks) {settings : Settings}
    {zeros : BandwidthMatrix} (fits : BandwidthMatrix.zeros s.registry.size = .ok zeros) :
    (∃ m, s.matrix? settings = some m) ↔
      ∃ i j, Recognised settings.linkModel s.ports.ports i j := by
  rw [← Option.isSome_iff_exists]
  refine (isSome_aggregate_iff_matched fits).trans (LinkTally.matched_ofLinks_ne_zero_iff.trans ?_)
  refine exists_congr fun i => exists_congr fun j => and_iff_left_of_imp fun _ => ?_
  have source := h.isRegistered (portAt_mem s.ports.ports i)
  have target := h.isRegistered (portAt_mem s.ports.ports j)
  exact ⟨source.owner, target.owner, fun u v hu hv => ⟨source.root u hu, target.root v hv⟩⟩

/-- If a matrix comes out, something is registered. -/
theorem nodes_ne_nil (h : Surveyed stack t s blocks) {settings : Settings} {m : BandwidthMatrix}
    (aggregated : s.matrix? settings = some m) :
    s.registry.nodes ≠ [] := by
  have some := (value_aggregate_eq_some_iff.1 aggregated).1
  have pos : 0 < s.ports.ports.size := by
    rw [Array.isEmpty, decide_eq_false_iff_not] at some
    omega
  exact List.ne_nil_of_mem (h.isRegistered (Array.getElem_mem pos)).owner

end Surveyed

/-! ## The outcome -/

/-- The conclusion of a survey publishes the matrix, if there is one. -/
theorem value_conclude (s : Survey) (settings : Settings) :
    (s.conclude settings).value =
      let published := match s.matrix? settings with
        | some matrix => (publish Topology.matrixStore s.topology s.registry matrix settings).value
        | none => (.nothing, s.topology)
      (if 0 < s.added then published.2.addTopologyInfo InfoKey.backend.1 InfoKey.backend.2
        else published.2,
       { added := s.added, ports := s.ports.size, publication := published.1 }) := by
  unfold Survey.conclude Survey.matrix?
  simp only [Logged.value_bind]
  cases (aggregate s.registry s.ports s.topology settings).value <;> rfl

/-- Only the survey of a pass changes objects. -/
theorem object?_discover (stack : Stack H) (t : Topology) (settings : Settings) (id : ObjectId) :
    (discover stack t settings).value.1.object? id = (passSurvey stack t).topology.object? id := by
  have backend : ∀ (u : Topology) (n : ℕ),
      (if 0 < n then u.addTopologyInfo InfoKey.backend.1 InfoKey.backend.2 else u).object? id =
        u.object? id := by
    intro u n
    split <;> rfl
  rw [value_discover, value_conclude]
  dsimp only
  rw [backend]
  cases (passSurvey stack t).matrix? settings with
  | none => rfl
  | some matrix => exact object?_publish ..

section Aggregated

variable {stack : Stack H} {t : Topology} {settings : Settings} {m : BandwidthMatrix}

/-- Without a matrix nothing is published. -/
theorem publication_of_matrix?_eq_none (none : (passSurvey stack t).matrix? settings = none) :
    (discover stack t settings).value.2.publication = .nothing := by
  rw [value_discover, value_conclude, none]

/-- Without a name the matrix comes back. -/
theorem publication_of_name_eq_empty (aggregated : (passSurvey stack t).matrix? settings = some m)
    (unnamed : settings.matrixName = "") :
    (discover stack t settings).value.2.publication = .failed .announce .emptyName (some m) := by
  rw [value_discover, value_conclude, aggregated]
  dsimp only
  rw [value_publish_of_name_eq_empty unnamed]

/-- A matrix with a name is stored after those that there were. -/
theorem publication_of_matrix?_eq_some
    (aggregated : (passSurvey stack t).matrix? settings = some m)
    (named : settings.matrixName ≠ "") :
    (discover stack t settings).value.2.publication =
        .published settings.matrixName (passSurvey stack t).registry.size ∧
      (discover stack t settings).value.1.distances = t.distances ++
        [m.stored (passSurvey stack t).registry settings.matrixName] := by
  obtain ⟨devices, h, _⟩ := exists_surveyed_passSurvey stack t
  have before : (passSurvey stack t).topology.distances = t.distances :=
    congrArg (·.2.2.2) h.context
  rw [value_discover, value_conclude, aggregated]
  dsimp only
  rw [value_publish named (h.nodes_ne_nil aggregated) h.nodup (fun _ => h.isInserted)
    (size_of_aggregate aggregated)]
  refine ⟨rfl, ?_⟩
  rw [← before]
  -- the info on the backend is not about the matrices
  split <;> rfl

/-- What is published has a name and came out of the links. -/
theorem exists_of_isPublished
    (published : (discover stack t settings).value.2.publication.isPublished) :
    settings.matrixName ≠ "" ∧ ∃ m, (passSurvey stack t).matrix? settings = some m := by
  cases aggregated : (passSurvey stack t).matrix? settings with
  | none =>
    rw [publication_of_matrix?_eq_none aggregated] at published
    cases published
  | some m =>
    refine ⟨fun unnamed => ?_, m, rfl⟩
    rw [publication_of_name_eq_empty aggregated unnamed] at published
    cases published

/-- With a name and a link of the chosen model a matrix is published. -/
theorem isPublished_of_recognised {zeros : BandwidthMatrix}
    (fits : BandwidthMatrix.zeros (passSurvey stack t).registry.size = .ok zeros)
    (named : settings.matrixName ≠ "")
    (link : ∃ i j, Recognised settings.linkModel (passSurvey stack t).ports.ports i j) :
    (discover stack t settings).value.2.publication.isPublished := by
  obtain ⟨devices, h, _⟩ := exists_surveyed_passSurvey stack t
  obtain ⟨m, aggregated⟩ := (h.exists_matrix?_iff fits).2 link
  rw [(publication_of_matrix?_eq_some aggregated named).1]
  rfl

end Aggregated

/-- **The outcome of a pass.** If there is memory for the matrix, then nothing is published exactly
when no healthy port claims another port of the chosen model; else the matrix is published, or
comes back if there is no name for it. The topology never refuses its values. -/
theorem publication_discover {stack : Stack H} {t : Topology} {settings : Settings}
    {zeros : BandwidthMatrix}
    (fits : BandwidthMatrix.zeros (passSurvey stack t).registry.size = .ok zeros) :
    let s := passSurvey stack t
    let outcome := (discover stack t settings).value.2
    outcome.ports = s.ports.size ∧
    (outcome.publication = .nothing ↔
      ¬ ∃ i j, Recognised settings.linkModel s.ports.ports i j) ∧
    (outcome.publication ≠ .nothing →
      if settings.matrixName = "" then
        ∃ m, s.matrix? settings = some m ∧
          outcome.publication = .failed .announce .emptyName (some m)
      else outcome.publication = .published settings.matrixName s.registry.size) ∧
    ∀ stage failure matrix, outcome.publication = .failed stage failure matrix →
      stage = .announce := by
  obtain ⟨devices, h, _⟩ := exists_surveyed_passSurvey stack t
  have links : (∃ m, (passSurvey stack t).matrix? settings = some m) ↔ _ :=
    h.exists_matrix?_iff fits
  have ports : (discover stack t settings).value.2.ports = (passSurvey stack t).ports.size := by
    rw [value_discover, value_conclude]
  dsimp only
  rw [← links]
  refine ⟨ports, ?_⟩
  cases aggregated : (passSurvey stack t).matrix? settings with
  | none =>
    rw [publication_of_matrix?_eq_none aggregated]
    refine ⟨by simp, fun some => absurd rfl some, fun stage failure matrix failed => ?_⟩
    cases failed
  | some m =>
    by_cases unnamed : settings.matrixName = ""
    · rw [publication_of_name_eq_empty aggregated unnamed, if_pos unnamed]
      refine ⟨by simp, fun _ => ⟨m, rfl, rfl⟩, fun stage failure matrix failed => ?_⟩
      cases failed
      rfl
    · rw [(publication_of_matrix?_eq_some aggregated unnamed).1, if_neg unnamed]
      refine ⟨by simp, fun _ => rfl, fun stage failure matrix failed => ?_⟩
      cases failed

/-! ### Two linked devices -/

/-- A device with these subdevices and ports, by their places. -/
def linkedDevice (tag : UInt8) (subdevices ports : List ℕ) : Stack.StoredDevice where
  properties := .ok (.accelerator (.tagged tag))
  subdevices
  ports

/-- A port of this number that sees another one, at a rate in MB/s. -/
def linkedPort (subdevice : Option UInt32) (port remote : UInt8) (rate : Int64) :
    Stack.StoredPort :=
  .make "XeLink" subdevice ⟨0, 0, port⟩ ⟨0, 0, remote⟩ .healthy (rate * 1048576)

/-- Two devices with links between themselves and between their subdevices. The first subdevice of
the first device cannot be identified. -/
def linkedInventory : Stack.Inventory where
  drivers := #[{ devices := [0, 3] }]
  devices := #[
    linkedDevice 0 [1, 2] [0, 1],
    { linkedDevice 1 [] [] with properties := .error (.known .deviceLost) },
    linkedDevice 2 [] [],
    linkedDevice 3 [4] [2, 3],
    linkedDevice 4 [] []]
  ports := #[linkedPort (some 1) 0 2 5, linkedPort none 1 3 7, linkedPort (some 0) 2 0 4,
    linkedPort none 3 0 9]

theorem size_linked : (passSurvey linkedInventory.stack .initial).registry.size = 4 := by
  decide +kernel

theorem zeros_linked :
    BandwidthMatrix.zeros (passSurvey linkedInventory.stack .initial).registry.size =
      .ok ⟨4, .replicate 16 0, rfl⟩ := by
  rw [size_linked]
  rfl

theorem exists_link_linked :
    ∃ i j, Recognised "XeLink" (passSurvey linkedInventory.stack .initial).ports.ports i j := by
  decide +kernel

theorem publication_discover_linked :
    (discover linkedInventory.stack .initial {}).value.2.publication =
        .published "XeLinkBandwidth" 4 ∧
      ∃ m, (discover linkedInventory.stack .initial { matrixName := "" }).value.2.publication =
        .failed .announce .emptyName (some m) := by
  constructor
  · obtain ⟨_, nothing, published, _⟩ := @publication_discover _ _ _ {} _ zeros_linked
    have outcome := published fun same => nothing.1 same exists_link_linked
    rwa [if_neg (by decide), size_linked] at outcome
  · obtain ⟨_, nothing, published, _⟩ :=
      @publication_discover _ _ _ { matrixName := "" } _ zeros_linked
    have outcome := published fun same => nothing.1 same exists_link_linked
    rw [if_pos rfl] at outcome
    obtain ⟨m, _, failed⟩ := outcome
    exact ⟨m, failed⟩

end DeviceAtlas
