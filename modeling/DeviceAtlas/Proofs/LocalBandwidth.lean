import DeviceAtlas.Proofs.RollUp
import Mathlib.Algebra.Order.BigOperators.Group.Finset

/-!
# When devices are closer to themselves than to others

Between the parts of one device stands the local bandwidth, a number from the settings; between
parts of different devices stands what the links add up to, and rates and numbers of links have no
bound. So the local bandwidth is above what stands between devices exactly as long as the links that
meet in a cell add up to less.

* `Surveyed.cellSum_le`: no link counts twice in a cell.
* `exists_amounts`: the values of the matrix that a pass publishes, as sums of links.
* `localBandwidth_discover`: when the local bandwidth is above.
-/

namespace DeviceAtlas

variable {H : Type} {stack : Stack H} {t : Topology} {settings : Settings}

/-- The links that meet in the cell of two objects: those between them, and, if they are devices,
those between their parts. -/
def cellSum (model : String) (ports : Array Port) (source target : ObjectId) : ℕ :=
  linkSum model ports source target + rootSum model ports source target

/-- All links of the chosen model together. -/
def allSum (model : String) (ports : Array Port) : ℕ :=
  pairSum model ports fun _ _ => True

/-- The owner of a port is not the device that it is part of. -/
theorem Surveyed.root_ne_owner {s : Survey} {blocks : List (Block H)}
    (h : Surveyed stack t s blocks) {port : Port} (kept : port ∈ s.ports.ports) :
    port.root ≠ some port.owner := by
  obtain ⟨b, listed, scanned⟩ := h.ports port kept
  rcases scanned.on.owner_eq_or with ⟨_, none⟩ | ⟨root, place, found⟩
  · rw [none]
    exact (Option.some_ne_none _).symm
  · rw [root]
    intro same
    have part := b.mem_parts_of_table stack found
    rw [← Option.some.inj same] at part
    exact b.root_notMem_parts stack part

/-- **No link counts twice in a cell.** -/
theorem Surveyed.cellSum_le {s : Survey} {blocks : List (Block H)}
    (h : Surveyed stack t s blocks) (model : String) (u v : ObjectId) :
    cellSum model s.ports.ports u v ≤ allSum model s.ports.ports := by
  unfold cellSum allSum linkSum rootSum pairSum
  simp only [← Finset.sum_add_distrib]
  refine Finset.sum_le_sum fun i _ => Finset.sum_le_sum fun j _ => ?_
  have apart := h.root_ne_owner (portAt_mem s.ports.ports i)
  split
  · by_cases owners : (portAt s.ports.ports i).owner = u ∧ (portAt s.ports.ports j).owner = v
    · have roots : ¬ ((portAt s.ports.ports i).root = some u ∧
          (portAt s.ports.ports j).root = some v) := fun both =>
        apart (both.1.trans (congrArg some owners.1.symm))
      simp [owners, roots]
    · rw [if_neg owners, Nat.zero_add]
      split <;> simp
  · exact Nat.le_refl 0

/-! ## The published matrix -/

/-- The values of the matrix that a pass publishes: the local bandwidth within a device, and between
devices what the links add up to. -/
theorem exists_amounts (published : (discover stack t settings).value.2.publication.isPublished) :
    Surveyed stack t (passSurvey stack t) (surveyBlocks stack t) ∧
    ∃ matrix : Distance.Matrix,
      (discover stack t settings).value.1.distances = t.distances ++ [matrix] ∧
      (∀ b ∈ surveyBlocks stack t, ∀ u ∈ b.nodes stack, ∀ v ∈ b.nodes stack,
        matrix.value? u v = some settings.localBandwidth) ∧
      ∀ a ∈ surveyBlocks stack t, ∀ b ∈ surveyBlocks stack t, a ≠ b →
        ∀ u ∈ a.nodes stack, ∀ v ∈ b.nodes stack,
          matrix.amount? u v = some (min Capped.top
            (cellSum settings.linkModel (passSurvey stack t).ports.ports u v)) := by
  obtain ⟨named, m, aggregated⟩ := exists_of_isPublished published
  obtain ⟨devices, h, rfl | rfl⟩ := exists_surveyed_passSurvey stack t
  · exact absurd h.nodes (h.nodes_ne_nil aggregated)
  · refine ⟨h, _, (publication_of_matrix?_eq_some aggregated named).2, ?_, ?_⟩
    · intro b hb u hu v hv
      exact value?_of_same_device h aggregated _ hb hu hv
    · intro a ha b hb other u hu v hv
      exact amount?_of_other_device h aggregated _ ha hb other hu hv

/-- A value is below another one exactly if the uncapped number is. -/
theorem lt_iff_of_amount?_eq {matrix : Distance.Matrix} {u v : ObjectId} {total : ℕ}
    (amount : matrix.amount? u v = some (min Capped.top total)) (bound : UInt64) :
    ∃ value, matrix.value? u v = some value ∧ (value < bound ↔ total < bound.toNat) := by
  obtain ⟨value, found, same⟩ := Option.map_eq_some_iff.1 amount
  refine ⟨value, found, ?_⟩
  have high : bound.toNat < 2 ^ 64 := bound.toNat_lt
  have top : Capped.top = 2 ^ 64 - 1 := rfl
  rw [UInt64.lt_iff_toNat_lt, same]
  omega

/-- **When the local bandwidth is above what stands between devices.** In the matrix that a pass
publishes, the value between parts of different devices is less than the local bandwidth, which
stands within each device, exactly if the links that meet there add up to less. This is so
everywhere if all links of the chosen model together add up to less. -/
theorem localBandwidth_discover
    (published : (discover stack t settings).value.2.publication.isPublished) :
    let ports := (passSurvey stack t).ports.ports
    let blocks := surveyBlocks stack t
    let localAmount := settings.localBandwidth.toNat
    ∃ matrix : Distance.Matrix,
      (discover stack t settings).value.1.distances = t.distances ++ [matrix] ∧
      (∀ b ∈ blocks, ∀ u ∈ b.nodes stack, ∀ v ∈ b.nodes stack,
        matrix.value? u v = some settings.localBandwidth) ∧
      ∀ a ∈ blocks, ∀ b ∈ blocks, a ≠ b → ∀ u ∈ a.nodes stack, ∀ v ∈ b.nodes stack,
        ∃ value, matrix.value? u v = some value ∧
          (value < settings.localBandwidth ↔ cellSum settings.linkModel ports u v < localAmount) ∧
          (allSum settings.linkModel ports < localAmount → value < settings.localBandwidth) := by
  obtain ⟨h, matrix, stored, inside, between⟩ := exists_amounts published
  refine ⟨matrix, stored, inside, fun a ha b hb other u hu v hv => ?_⟩
  obtain ⟨value, found, below⟩ :=
    lt_iff_of_amount?_eq (between a ha b hb other u hu v hv) settings.localBandwidth
  refine ⟨value, found, below, fun few => below.2 ?_⟩
  exact Nat.lt_of_le_of_lt (h.cellSum_le settings.linkModel u v) few

/-! ### Slow and fast links -/

/-- Between the two linked devices there is less than within each. -/
theorem localBandwidth_discover_linked :
    ∃ matrix : Distance.Matrix,
      (discover linkedInventory.stack .initial {}).value.1.distances = [matrix] ∧
      ∃ value, matrix.value? ⟨1⟩ ⟨3⟩ = some value ∧ value < 1000000 := by
  have blocks : ∃ a ∈ surveyBlocks linkedInventory.stack .initial,
      ∃ b ∈ surveyBlocks linkedInventory.stack .initial, a.root = ⟨1⟩ ∧ b.root = ⟨3⟩ := by
    decide +kernel
  have few : allSum "XeLink" (passSurvey linkedInventory.stack .initial).ports.ports < 1000000 := by
    decide +kernel
  obtain ⟨a, ha, b, hb, aRoot, bRoot⟩ := blocks
  have different : a ≠ b := ne_of_apply_ne Block.root (by rw [aRoot, bRoot]; decide)
  obtain ⟨matrix, stored, -, between⟩ := localBandwidth_discover isPublished_linked
  obtain ⟨value, found, -, below⟩ :=
    between a ha b hb different a.root List.mem_cons_self b.root List.mem_cons_self
  rw [aRoot, bRoot] at found
  exact ⟨matrix, stored, value, found, below few⟩

/-- Two devices with a link in each direction, one of them at more than a million MB/s. -/
def fastInventory : Stack.Inventory where
  drivers := #[{ devices := [0, 1] }]
  devices := #[linkedDevice 0 [] [0], linkedDevice 1 [] [1]]
  ports := #[linkedPort none 0 1 2097152, linkedPort none 1 0 7]

theorem isPublished_fast :
    (discover fastInventory.stack .initial {}).value.2.publication.isPublished := by
  have size : (passSurvey fastInventory.stack .initial).registry.size = 2 := by decide +kernel
  have zeros : BandwidthMatrix.zeros (passSurvey fastInventory.stack .initial).registry.size =
      .ok ⟨2, .replicate 4 0, rfl⟩ := by
    rw [size]
    rfl
  have link : ∃ i j,
      Recognised "XeLink" (passSurvey fastInventory.stack .initial).ports.ports i j := by
    decide +kernel
  exact isPublished_of_recognised zeros (by decide) link

/-- **A link can be faster than the local bandwidth.** The usual settings then put more between two
devices than within each of them. -/
theorem localBandwidth_lt_fast :
    ∃ a ∈ surveyBlocks fastInventory.stack .initial,
      ∃ b ∈ surveyBlocks fastInventory.stack .initial, a ≠ b ∧
        ∃ matrix : Distance.Matrix,
          (discover fastInventory.stack .initial {}).value.1.distances = [matrix] ∧
          matrix.value? a.root a.root = some 1000000 ∧
          matrix.value? a.root b.root = some 2097152 := by
  have blocks : ∃ a ∈ surveyBlocks fastInventory.stack .initial,
      ∃ b ∈ surveyBlocks fastInventory.stack .initial, a.root = ⟨1⟩ ∧ b.root = ⟨2⟩ := by
    decide +kernel
  have links : cellSum "XeLink" (passSurvey fastInventory.stack .initial).ports.ports ⟨1⟩ ⟨2⟩ =
      2097152 := by decide +kernel
  obtain ⟨a, ha, b, hb, aRoot, bRoot⟩ := blocks
  have different : a ≠ b := ne_of_apply_ne Block.root (by rw [aRoot, bRoot]; decide)
  obtain ⟨-, matrix, stored, inside, between⟩ := exists_amounts isPublished_fast
  have within := inside a ha a.root List.mem_cons_self a.root List.mem_cons_self
  have across := between a ha b hb different a.root List.mem_cons_self b.root List.mem_cons_self
  obtain ⟨value, found, amount⟩ := Option.map_eq_some_iff.1 across
  have fast : value = 2097152 := by
    rw [aRoot, bRoot, links] at amount
    exact UInt64.toNat_inj.1 amount
  exact ⟨a, ha, b, hb, different, matrix, stored, within, fast ▸ found⟩

end DeviceAtlas
