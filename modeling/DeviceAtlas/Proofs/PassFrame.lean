import DeviceAtlas.Proofs.Outcome
import DeviceAtlas.Proofs.Tree

/-!
# What a pass leaves alone

A pass puts new objects into the tree and may store a matrix. Of the objects that were there only
those change which devices go under, and a pass that finds nothing leaves no trace.

* `value_discover_eq`: the topology that a pass comes to, and what is told of it.
* `Topology.ext_object?`: a topology is known by its objects and its context.
* `frame_discover`: all that is different after a pass.
-/

namespace DeviceAtlas

variable {H : Type} {stack : Stack H} {t : Topology} {s : Survey} {blocks : List (Block H)}

/-! ## The conclusion of a survey -/

namespace Survey

variable (s : Survey) (settings : Settings)

/-- What becomes of the matrix of a survey. -/
def publication : Publication :=
  match s.matrix? settings with
  | none => .nothing
  | some m =>
    if settings.matrixName = "" then .failed .announce .emptyName (some m)
    else .published settings.matrixName s.registry.size

/-- The matrices that are stored at the end of a survey. -/
def stored : List Distance.Matrix :=
  if settings.matrixName = "" then []
  else (s.matrix? settings).toList.map (·.stored s.registry settings.matrixName)

/-- The infos of the topology at the end of a survey. -/
def topologyInfos : InfoMap :=
  if 0 < s.added then s.topology.infos.insert InfoKey.backend.1 InfoKey.backend.2
  else s.topology.infos

/-- What is told of a survey. -/
def outcome : Discovery where
  added := s.added
  ports := s.ports.size
  publication := s.publication settings

theorem length_stored_le_one : (s.stored settings).length ≤ 1 := by
  unfold stored
  split
  · exact Nat.zero_le 1
  · rw [List.length_map]
    cases s.matrix? settings <;> simp

theorem stored_eq_nil_iff :
    s.stored settings = [] ↔ (s.publication settings).isPublished = false := by
  unfold stored publication
  cases s.matrix? settings with
  | none => simp [Publication.isPublished]
  | some m =>
    by_cases unnamed : settings.matrixName = "" <;> simp [unnamed, Publication.isPublished]

end Survey

/-- The topology that a survey comes to, and what is told of it. -/
theorem Surveyed.value_conclude (h : Surveyed stack t s blocks) (settings : Settings) :
    (s.conclude settings).value =
      ({ s.topology with
          infos := s.topologyInfos
          distances := s.topology.distances ++ s.stored settings },
        s.outcome settings) := by
  rw [DeviceAtlas.value_conclude]
  unfold Survey.outcome Survey.publication Survey.stored Survey.topologyInfos
  cases aggregated : s.matrix? settings with
  | none => by_cases some : 0 < s.added <;> simp [Topology.addTopologyInfo, some]
  | some m =>
    by_cases unnamed : settings.matrixName = ""
    · have refused := value_publish_of_name_eq_empty unnamed s.topology s.registry m
      by_cases some : 0 < s.added <;> simp [refused, Topology.addTopologyInfo, some, unnamed]
    · have published := value_publish unnamed (h.nodes_ne_nil aggregated) h.nodup
        (fun _ => h.isInserted) (size_of_aggregate aggregated)
      by_cases some : 0 < s.added <;> simp [published, Topology.addTopologyInfo, some, unnamed]

/-- **The topology that a pass comes to**, and what is told of it. -/
theorem value_discover_eq (stack : Stack H) (t : Topology) (settings : Settings) :
    let s := passSurvey stack t
    (discover stack t settings).value =
      ({ s.topology with
          infos := s.topologyInfos
          distances := t.distances ++ s.stored settings },
        s.outcome settings) := by
  have h := surveyed_passSurvey stack t
  have before : (passSurvey stack t).topology.distances = t.distances :=
    congrArg (·.2.2.2) h.context
  dsimp only
  rw [value_discover, h.value_conclude, before]

/-! ## Nothing new -/

/-- A topology is known by its objects and its context. -/
theorem Topology.ext_object? {t t' : Topology} (context : t'.context = t.context)
    (objects : ∀ id, t'.object? id = t.object? id) : t' = t := by
  have same : t'.objects = t.objects := Array.ext_getElem? fun i => objects ⟨i⟩
  obtain ⟨_, filter, options, infos, distances, _⟩ := t
  obtain ⟨_, filter', options', infos', distances', _⟩ := t'
  simp only [Topology.context, Prod.mk.injEq] at context
  obtain ⟨rfl, rfl, rfl, rfl⟩ := context
  cases same
  rfl

namespace Surveyed

/-- A survey without new objects has no blocks. -/
theorem blocks_eq_nil (h : Surveyed stack t s blocks) (nothing : s.added = 0) : blocks = [] := by
  have none : blocks.flatMap (·.nodes stack) = [] := by
    rw [← h.nodes, h.numbered, nothing]
    rfl
  refine List.eq_nil_iff_forall_not_mem.2 fun b listed => ?_
  have empty := List.flatMap_eq_nil_iff.1 none b listed
  cases empty

/-- A survey without new objects leaves the topology as it was. -/
theorem topology_eq (h : Surveyed stack t s blocks) (nothing : s.added = 0) : s.topology = t := by
  refine Topology.ext_object? h.context fun id => ?_
  by_cases within : id.index < t.size
  · rw [h.old id within, h.blocks_eq_nil nothing, funext (Object.asHost_nil stack t id)]
    exact Option.map_id'
  · have beyond : ¬ id.index < s.topology.size := by
      rwa [h.size, nothing, Nat.add_zero]
    rw [Topology.object?_eq_none_iff.2 (Nat.not_lt.1 within),
      Topology.object?_eq_none_iff.2 (Nat.not_lt.1 beyond)]

/-- Without objects there is no matrix. -/
theorem stored_eq_nil (h : Surveyed stack t s blocks) (nothing : s.added = 0)
    (settings : Settings) : s.stored settings = [] := by
  have none : s.registry.nodes = [] := by
    rw [h.numbered, nothing]
    rfl
  unfold Survey.stored
  cases aggregated : s.matrix? settings with
  | none => simp
  | some m => exact absurd none (h.nodes_ne_nil aggregated)

end Surveyed

/-- **A pass that adds nothing leaves the topology as it was.** -/
theorem topology_discover_of_added_eq_zero (settings : Settings)
    (nothing : (passSurvey stack t).added = 0) : (discover stack t settings).value.1 = t := by
  have h := surveyed_passSurvey stack t
  have same := h.topology_eq nothing
  have infos : (passSurvey stack t).topologyInfos = t.infos := by
    rw [Survey.topologyInfos, if_neg (by omega), same]
  rw [value_discover_eq]
  dsimp only
  rw [infos, h.stored_eq_nil nothing, List.append_nil, same]

/-! ## The frame -/

/-- Blocks stand in the order of the drivers and, within a driver, of its listing. -/
theorem pairwise_passBlocks (stack : Stack H) (t : Topology) :
    ((passBlocks stack t).map Block.device).Pairwise fun d e =>
      d.driver < e.driver ∨ d.driver = e.driver ∧ d.index < e.index := by
  rcases passBlocks_eq_or stack t with none | all
  · rw [none]
    exact .nil
  · rw [all, surveyBlocks, map_device_blocksFrom]
    exact pairwise_foundDevices stack

/-- **All that is different after a pass.** There are as many new objects as the pass says, in
blocks, one for each device; all of them are in the tree, each device at its site. An object that
was there before is as it was, but for the devices that now follow its children in the order in
which they were found, and, if it is a PCI device, for the last bandwidth that is known of the links
to them. Filters and options are as they were. The matrices that there were are followed by at most
one, and the topology has an info on the backend exactly if there are new objects. If there are
none, the topology is what it was. -/
theorem frame_discover (stack : Stack H) (t : Topology) (settings : Settings) :
    let t' := (discover stack t settings).value.1
    let outcome := (discover stack t settings).value.2
    let blocks := passBlocks stack t
    t'.size = t.size + outcome.added ∧
    blocks.flatMap (·.nodes stack) = (List.range' t.size outcome.added).map ObjectId.mk ∧
    (blocks.map Block.device).Pairwise (fun d e =>
      d.driver < e.driver ∨ d.driver = e.driver ∧ d.index < e.index) ∧
    (∀ id : ObjectId, t.size ≤ id.index → id.index < t'.size → t'.isInserted id) ∧
    (∀ b ∈ blocks, t'.parent? b.root = some (b.device.site stack t).parent) ∧
    (∀ id o, t.object? id = some o →
      t'.object? id = some { o with
        children := o.children ++ (guests stack t blocks id).map Block.root
        attributes := o.attributes.map (.record (lastBandwidth? stack t blocks id)) }) ∧
    t'.filter = t.filter ∧ t'.options = t.options ∧
    (∃ new : List Distance.Matrix, t'.distances = t.distances ++ new ∧ new.length ≤ 1 ∧
      (new = [] ↔ outcome.publication.isPublished = false)) ∧
    t'.infos = (if 0 < outcome.added then t.infos.insert "Backend" "LevelZero" else t.infos) ∧
    (outcome.added = 0 → t' = t) := by
  have h := surveyed_passSurvey stack t
  have infos : (passSurvey stack t).topology.infos = t.infos := congrArg (·.2.2.1) h.context
  dsimp only
  rw [value_discover_eq]
  refine ⟨h.size, h.nodes.symm.trans h.numbered, pairwise_passBlocks stack t,
    fun id beyond within => ?_, fun b listed => ?_, fun id o found => ?_, congrArg (·.1) h.context,
    congrArg (·.2.1) h.context,
    ⟨_, rfl, Survey.length_stored_le_one .., Survey.stored_eq_nil_iff ..⟩, ?_, fun nothing => ?_⟩
  · exact h.isInserted (h.mem_nodes_iff.2 ⟨beyond, within⟩)
  · have root : (passSurvey stack t).topology.parent? b.root =
        some (b.device.site stack t).parent := by
      rw [Topology.parent?, h.root b listed]
      rfl
    exact root
  · have before := (t.object?_isSome_iff id).1 (Option.isSome_of_eq_some found)
    have host := h.old id before
    rw [found] at host
    exact host
  · rw [← infos]
    rfl
  · exact (congrArg Prod.fst (value_discover_eq stack t settings)).symm.trans
      (topology_discover_of_added_eq_zero settings nothing)

end DeviceAtlas
