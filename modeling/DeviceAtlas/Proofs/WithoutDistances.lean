import DeviceAtlas.Proofs.PassFrame
import DeviceAtlas.Proofs.RollUp

/-!
# Passes without distances

A topology may ask that no distances are gathered. Ports are then not scanned, in the middle of the
work on each device; nothing else depends on them but the matrix at the end. So a pass makes the
same objects with and without distances.

* `Surveyed.object?_setOptions`: surveys that differ in the options make the same objects.
* `Surveyed.ports_eq_empty`: without distances no port is kept.
* `discover_setOptions`: the two passes next to each other.
-/

namespace DeviceAtlas

variable {H : Type} {stack : Stack H} {t : Topology} {options : TopologyOptions}
  {s bare : Survey} {blocks : List (Block H)}

/-! ## Surveys under other options -/

/-- Options do not matter for which devices are found. -/
theorem passBlocks_setOptions (stack : Stack H) (t : Topology) (options : TopologyOptions) :
    passBlocks stack (t.setOptions options) = passBlocks stack t := rfl

namespace Surveyed

section Options

variable (h : Surveyed stack t s blocks) (h' : Surveyed stack (t.setOptions options) bare blocks)

include h h'

theorem registry_setOptions : bare.registry = s.registry := h'.registry.trans h.registry.symm

theorem added_setOptions : bare.added = s.added := by
  have nodes := h'.numbered.symm.trans
    ((congrArg Registry.nodes (h.registry_setOptions h')).trans h.numbered)
  simpa using congrArg List.length nodes

theorem size_setOptions : bare.topology.size = s.topology.size := by
  have before : (t.setOptions options).size = t.size := rfl
  rw [h'.size, h.size, h.added_setOptions h', before]

/-- **Surveys that differ in the options make the same objects.** -/
theorem object?_setOptions (id : ObjectId) :
    bare.topology.object? id = s.topology.object? id := by
  by_cases old : id.index < t.size
  · rw [h'.old id old, h.old id old]
    rfl
  · by_cases within : id.index < s.topology.size
    · have new := h.mem_nodes_iff.2 ⟨Nat.not_lt.1 old, within⟩
      rw [h.nodes] at new
      obtain ⟨b, listed, own⟩ := List.mem_flatMap.1 new
      rcases Block.mem_nodes_cases own with rfl | ⟨i, f, hf, here⟩
      · rw [h'.root b listed, h.root b listed]
        rfl
      · rw [b.getElem?_parts stack (List.getElem?_eq_some_iff.1 hf).1, Option.some.injEq] at here
        rw [← here, (h'.settled b listed).part i f hf, (h.settled b listed).part i f hf]
    · rw [Topology.object?_eq_none_iff.2 (Nat.not_lt.1 within), Topology.object?_eq_none_iff.2]
      exact h.size_setOptions h' ▸ Nat.not_lt.1 within

/-- Only the options of the topologies differ. -/
theorem topology_setOptions : bare.topology = s.topology.setOptions options := by
  refine Topology.ext_object? ?_ fun id => h.object?_setOptions h' id
  have same := h.context
  have other := h'.context
  simp only [Topology.context, Topology.setOptions, Prod.mk.injEq] at same other ⊢
  rw [other.1, other.2.1, other.2.2.1, other.2.2.2, same.1, same.2.2.1, same.2.2.2]
  exact ⟨rfl, rfl, rfl, rfl⟩

end Options

/-! ## Nothing to publish -/

/-- Without distances no port is kept. -/
theorem ports_eq_empty (h : Surveyed stack t s blocks) (disabled : t.options.noDistances) :
    s.ports = .empty := by
  have none : ∀ (blocks : List (Block H)) (ports : PortList),
      blocks.foldl (fun ports b => b.scan stack t.options ports) ports = ports := by
    intro blocks ports
    induction blocks with
    | nil => rfl
    | cons b rest ih => rw [List.foldl_cons, Block.scan, if_pos disabled, ih]
  rw [h.scanned, none]

/-- Without ports there is no matrix. -/
theorem matrix?_eq_none (h : Surveyed stack t s blocks) (disabled : t.options.noDistances)
    (settings : Settings) : s.matrix? settings = none := by
  refine Option.eq_none_iff_forall_ne_some.2 fun m aggregated => ?_
  have some := (value_aggregate_eq_some_iff.1 aggregated).1
  rw [h.ports_eq_empty disabled] at some
  cases some

end Surveyed

/-! ## The two passes -/

/-- **Distances are all that is different in a pass without them.** Over the same stack, from
topologies that differ only in that one of them asks for no distances, both passes come to the same
objects, filters and infos and tell the same number of new objects; each keeps its options. The one
without distances finds no ports, publishes nothing and leaves the matrices as they were; the other
adds at most one, exactly if it says so. -/
theorem discover_setOptions (stack : Stack H) (t : Topology) {options : TopologyOptions}
    (disabled : options.noDistances) (settings : Settings) :
    let plain := (discover stack t settings).value
    let bare := (discover stack (t.setOptions options) settings).value
    bare.1 = { plain.1 with options := options, distances := t.distances } ∧
    bare.2 = { added := plain.2.added, ports := 0, publication := .nothing } ∧
    plain.1.options = t.options ∧
    ∃ new : List Distance.Matrix, plain.1.distances = t.distances ++ new ∧ new.length ≤ 1 ∧
      (new = [] ↔ plain.2.publication.isPublished = false) := by
  have h := surveyed_passSurvey stack t
  have h' := surveyed_passSurvey stack (t.setOptions options)
  rw [passBlocks_setOptions] at h'
  have topology := h.topology_setOptions h'
  have added := h.added_setOptions h'
  have unpublished := h'.matrix?_eq_none disabled settings
  have ports := h'.ports_eq_empty disabled
  have infos : (passSurvey stack (t.setOptions options)).topologyInfos =
      (passSurvey stack t).topologyInfos := by
    unfold Survey.topologyInfos
    rw [added, topology]
    rfl
  have stored : (passSurvey stack (t.setOptions options)).stored settings = [] := by
    simp [Survey.stored, unpublished]
  dsimp only
  rw [value_discover_eq, value_discover_eq]
  refine ⟨?_, ?_, congrArg (·.2.1) h.context, _, rfl, Survey.length_stored_le_one ..,
    Survey.stored_eq_nil_iff ..⟩
  · rw [infos, stored, topology, List.append_nil]
    rfl
  · unfold Survey.outcome Survey.publication
    rw [added, unpublished, ports]
    rfl

/-! ### The two linked devices -/

/-- The pass over the two linked devices publishes a matrix, but not if distances are disabled. -/
theorem discover_setOptions_linked :
    let plain := (discover linkedInventory.stack .initial {}).value
    let bare := (discover linkedInventory.stack (Topology.initial.setOptions ⟨1⟩) {}).value
    bare.1.objects = plain.1.objects ∧ bare.1.infos = plain.1.infos ∧
    bare.2.added = plain.2.added ∧ bare.1.distances = [] ∧ plain.1.distances ≠ [] := by
  have disabled : TopologyOptions.noDistances ⟨1⟩ := by decide
  obtain ⟨topology, told, _, new, stored, _, published⟩ :=
    discover_setOptions linkedInventory.stack .initial disabled {}
  refine ⟨by rw [topology], by rw [topology], by rw [told], by rw [topology]; rfl, fun none => ?_⟩
  have unpublished := published.1 (List.append_eq_nil_iff.1 (stored.symm.trans none)).2
  rw [isPublished_linked] at unpublished
  cases unpublished

end DeviceAtlas
