import DeviceAtlas.Proofs.RegistryRoom
import DeviceAtlas.Proofs.SurveyRun

/-!
# Surveys while memory is scarce

If memory has no room for a block the registry stays as it is, and the device is left out of the
matrix. Nothing else depends on it: the objects of the device are in the tree, its ports are kept,
and later devices get the same numbers and names. So of what a survey comes to only the registry
is different, and it has the blocks that were not refused, as if there were no others.

* `Survey.addFoundIfGranted_eq`: one more device.
* `foldl_addFoundIfGranted_eq`: any devices.
* `exists_survey_of_grants`: a whole survey.
-/

namespace DeviceAtlas

variable {H : Type} (stack : Stack H) (grants : ℕ → Bool)

/-- The call that registers a block. -/
def Block.call (b : Block H) : Registry.Call := .addBlock b.root (b.parts stack)

/-- The same call, if memory grants some capacities of the registry. -/
def Block.request (b : Block H) : Registry.Request := ⟨b.call stack, grants⟩

/-- To enter a block is to do the call as far as memory allows. -/
theorem Registry.value_enterBlock_eq_serve (r : Registry) (b : Block H) :
    (r.enterBlock b.root (b.parts stack) grants).value = (r.serve (b.request stack grants)).1 := by
  unfold enterBlock serve
  simp only [Logged.value_bind, Block.request, Block.call]
  rcases (r.addBlockIfGranted grants b.root (b.parts stack)).value with ⟨r', full | place⟩ <;> rfl

/-- **Of one more device only the registration depends on memory**, and on what was registered
before. -/
theorem Survey.addFoundIfGranted_eq (s : Survey) (r : Registry) (d : FoundDevice H) :
    { s with registry := r }.addFoundIfGranted stack grants d =
      { s.addFound stack d with
        registry := (r.serve ((s.nextBlock d).request stack grants)).1 } := by
  obtain ⟨t, -, -, entered⟩ := exists_addFoundIfGranted stack s d
  have ample : s.addFound stack d = _ := entered s.registry fun _ => true
  rw [entered r grants, ample, Registry.value_enterBlock_eq_serve]

/-- The same is true of any devices. -/
theorem foldl_addFoundIfGranted_eq (devices : List (FoundDevice H)) (s : Survey) (r : Registry) :
    devices.foldl (Survey.addFoundIfGranted stack grants) { s with registry := r } =
      { devices.foldl (Survey.addFound stack) s with
        registry := r.serveAll
          ((blocksFrom stack s.named s.topology.size devices).map (·.request stack grants)) } := by
  induction devices generalizing s r with
  | nil => rfl
  | cons d rest ih =>
    have next := addedBlock_addFound stack s d
    rw [List.foldl_cons, Survey.addFoundIfGranted_eq, ih, next.named, next.size,
      Block.length_nodes]
    rfl

/-- **A survey while memory is scarce.** It comes to the tree, the ports and the numbers that it
comes to with all the memory that it asks for. Its registry is the one that the blocks make that
are not refused, in their order, as if the others had never been there. -/
theorem exists_survey_of_grants (t : Topology) (settings : Settings) :
    ∃ kept : List (Block H), kept.Sublist (surveyBlocks stack t) ∧
      Registry.empty.accepted ((surveyBlocks stack t).map (·.request stack grants)) =
        kept.map (·.call stack) ∧
      (survey stack t settings grants).value =
        { (survey stack t settings).value with
          registry := Registry.empty.run (kept.map (·.call stack)) } := by
  have accepted := Registry.empty.accepted_sublist
    ((surveyBlocks stack t).map (·.request stack grants))
  rw [List.map_map] at accepted
  obtain ⟨kept, some, same⟩ := List.sublist_map_iff.1 accepted
  have calls : Registry.empty.accepted ((surveyBlocks stack t).map (·.request stack grants)) =
      kept.map (·.call stack) := same
  refine ⟨kept, some, calls, ?_⟩
  have served := foldl_addFoundIfGranted_eq stack grants (foundDevices stack)
    { topology := t } .empty
  rw [Registry.serveAll_eq_run] at served
  rw [value_survey_of_grants, value_survey, ← calls]
  exact served

end DeviceAtlas
