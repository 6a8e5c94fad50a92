import DeviceAtlas.Proofs.DeviceBlocks
import DeviceAtlas.Proofs.Outcome
import Mathlib.Algebra.BigOperators.Ring.Finset

/-!
# Links add up to their devices

A published matrix relates devices and subdevices. Between the parts of one device stands the local
bandwidth; between subdevices of different devices the sum of their links; and between two devices
the sum of the links of their own ports together with all that stands between their subdevices.

* `linkSum`: the exact sum of the links from one object to another.
* `Surveyed.linkTotal_eq`: what is added up in a cell after a survey.
* `Surveyed.rootSum_root`: the links between the parts of two devices are those between their
  subdevices.
* `rollUp_discover`: the values of the matrix that a pass publishes.
-/

namespace DeviceAtlas

variable {H : Type}

/-! ## Sums of links -/

/-- The exact sum of the links of the chosen model between ports that are related. -/
def pairSum (model : String) (ports : Array Port) (related : Port → Port → Prop)
    [DecidableRel related] : ℕ :=
  ∑ i : Fin ports.size, ∑ j : Fin ports.size,
    if Recognised model ports i j then
      if related (portAt ports i) (portAt ports j) then (portAt ports i).bandwidth else 0
    else 0

/-- The exact sum of the links from ports of one object to ports of another. -/
def linkSum (model : String) (ports : Array Port) (source target : ObjectId) : ℕ :=
  pairSum model ports fun p q => p.owner = source ∧ q.owner = target

/-- The exact sum of the links from parts of one device to parts of another. -/
def rootSum (model : String) (ports : Array Port) (source target : ObjectId) : ℕ :=
  pairSum model ports fun p q => p.root = some source ∧ q.root = some target

/-- Sums are the same if the relations are, as far as ports of the list are concerned. -/
theorem pairSum_congr {model : String} {ports : Array Port} {related related' : Port → Port → Prop}
    [DecidableRel related] [DecidableRel related']
    (same : ∀ p ∈ ports, ∀ q ∈ ports, related p q ↔ related' p q) :
    pairSum model ports related = pairSum model ports related' := by
  apply Finset.sum_congr rfl
  intro i _
  apply Finset.sum_congr rfl
  intro j _
  have here := same _ (portAt_mem ports i) _ (portAt_mem ports j)
  simp only [here]

/-- Sums over pairs that are told apart by an object are one sum. -/
theorem sum_pairSum (model : String) (ports : Array Port) (tell : Port → Port → ObjectId)
    (related : Port → Port → Prop) [DecidableRel related] (objects : Finset ObjectId) :
    ∑ u ∈ objects, pairSum model ports (fun p q => tell p q = u ∧ related p q) =
      pairSum model ports fun p q => tell p q ∈ objects ∧ related p q := by
  unfold pairSum
  rw [Finset.sum_comm]
  apply Finset.sum_congr rfl
  intro i _
  rw [Finset.sum_comm]
  apply Finset.sum_congr rfl
  intro j _
  split
  · simp [ite_and]
  · exact Finset.sum_const_zero

/-- Sums over the pairs of two sets of objects are one sum. -/
theorem sum_linkSum (model : String) (ports : Array Port) (sources targets : Finset ObjectId) :
    ∑ u ∈ sources, ∑ v ∈ targets, linkSum model ports u v =
      pairSum model ports fun p q => p.owner ∈ sources ∧ q.owner ∈ targets := by
  have inner : ∀ u, ∑ v ∈ targets, linkSum model ports u v =
      pairSum model ports fun p q => p.owner = u ∧ q.owner ∈ targets := by
    intro u
    calc ∑ v ∈ targets, linkSum model ports u v
      _ = ∑ v ∈ targets, pairSum model ports fun p q => q.owner = v ∧ p.owner = u :=
        Finset.sum_congr rfl fun v _ => pairSum_congr fun p _ q _ => and_comm
      _ = pairSum model ports fun p q => q.owner ∈ targets ∧ p.owner = u :=
        sum_pairSum model ports (fun _ q => q.owner) (fun p _ => p.owner = u) targets
      _ = pairSum model ports fun p q => p.owner = u ∧ q.owner ∈ targets :=
        pairSum_congr fun p _ q _ => and_comm
  calc ∑ u ∈ sources, ∑ v ∈ targets, linkSum model ports u v
    _ = ∑ u ∈ sources, pairSum model ports fun p q => p.owner = u ∧ q.owner ∈ targets :=
      Finset.sum_congr rfl fun u _ => inner u
    _ = pairSum model ports fun p q => p.owner ∈ sources ∧ q.owner ∈ targets :=
      sum_pairSum model ports (fun p _ => p.owner) (fun _ q => q.owner ∈ targets) sources

/-- Capping what is added up does not matter if the sum is capped. -/
theorem min_add_sum_min {ι : Type*} (top a : ℕ) (items : Finset ι) (f : ι → ℕ) :
    min top (a + ∑ x ∈ items, min top (f x)) = min top (a + ∑ x ∈ items, f x) := by
  classical
  induction items using Finset.induction_on generalizing a with
  | empty => rfl
  | insert x items new ih =>
    rw [Finset.sum_insert new, Finset.sum_insert new]
    have rest := ih 0
    omega

/-! ## What is added up after a survey -/

namespace Surveyed

variable {stack : Stack H} {t : Topology} {s : Survey} {blocks : List (Block H)}

/-- A port is part of a device exactly when it is on one of its subdevices. -/
theorem root_eq_some_iff (h : Surveyed stack t s blocks) {port : Port}
    (kept : port ∈ s.ports.ports) {b : Block H} (hb : b ∈ blocks) :
    port.root = some b.root ↔ port.owner ∈ b.parts stack := by
  obtain ⟨home, listed, scanned⟩ := h.ports port kept
  rcases scanned.on.owner_eq_or with ⟨owner, none⟩ | ⟨root, place, found⟩
  · rw [owner, none]
    refine iff_of_false (fun same => by cases same) fun part => ?_
    obtain rfl := h.eq_of_mem_nodes listed hb List.mem_cons_self (List.mem_cons_of_mem _ part)
    exact home.root_notMem_parts stack part
  · have part := home.mem_parts_of_table stack found
    rw [root, Option.some.injEq]
    constructor
    · intro same
      have own : home.root ∈ b.nodes stack := same ▸ List.mem_cons_self
      obtain rfl := h.eq_of_mem_nodes listed hb List.mem_cons_self own
      exact part
    · intro part'
      rw [h.eq_of_mem_nodes listed hb (List.mem_cons_of_mem _ part) (List.mem_cons_of_mem _ part')]

/-- No port is part of a subdevice. -/
theorem root_ne_some (h : Surveyed stack t s blocks) {port : Port}
    (kept : port ∈ s.ports.ports) {b : Block H} (hb : b ∈ blocks) {u : ObjectId}
    (part : u ∈ b.parts stack) : port.root ≠ some u := by
  intro same
  obtain ⟨home, listed, scanned⟩ := h.ports port kept
  rcases scanned.on.owner_eq_or with ⟨_, none⟩ | ⟨root, _⟩
  · rw [none] at same
    cases same
  · rw [root] at same
    cases same
    obtain rfl := h.eq_of_mem_nodes listed hb List.mem_cons_self (List.mem_cons_of_mem _ part)
    exact home.root_notMem_parts stack part

/-- In the cell of two objects there are the links between them, and, if they are devices, the links
between their parts. -/
theorem linkTotal_eq (h : Surveyed stack t s blocks) (model : String) {u v : ObjectId}
    {row column : ℕ} (hu : s.registry.find? u = some row) (hv : s.registry.find? v = some column) :
    s.registry.linkTotal model s.ports.ports row column =
      linkSum model s.ports.ports u v + rootSum model s.ports.ports u v := by
  unfold Registry.linkTotal linkSum rootSum pairSum
  simp only [← Finset.sum_add_distrib]
  apply Finset.sum_congr rfl
  intro i _
  apply Finset.sum_congr rfl
  intro j _
  -- all owners are registered, so that every link of the model counts
  have source := h.isRegistered (portAt_mem s.ports.ports i)
  have target := h.isRegistered (portAt_mem s.ports.ports j)
  have counts : (i ≠ j ∧ (portAt s.ports.ports i).Claims (portAt s.ports.ports j) ∧
      s.registry.Counts model (portAt s.ports.ports i) (portAt s.ports.ports j)) ↔
        Recognised model s.ports.ports i j :=
    and_congr_right' (and_congr_right' (and_iff_left ⟨Registry.isSome_find?_iff.2 source.owner,
      Registry.isSome_find?_iff.2 target.owner⟩))
  have roots : ∀ (root : Option ObjectId) {w : ObjectId} {place : ℕ},
      s.registry.find? w = some place →
        (root.bind s.registry.find? = some place ↔ root = some w) := by
    intro root w place found
    cases root with
    | none => simp
    | some device => rw [Option.bind_some, h.find?_eq_iff_eq found, Option.some.injEq]
  simp only [counts]
  split
  · simp only [Registry.share, h.find?_eq_iff_eq hu, h.find?_eq_iff_eq hv, roots _ hu, roots _ hv]
  · rfl

/-- Subdevices have no parts between which there could be links. -/
theorem rootSum_parts (h : Surveyed stack t s blocks) (model : String) {b : Block H}
    (hb : b ∈ blocks) {u : ObjectId} (part : u ∈ b.parts stack) (v : ObjectId) :
    rootSum model s.ports.ports u v = 0 := by
  unfold rootSum pairSum
  apply Finset.sum_eq_zero
  intro i _
  apply Finset.sum_eq_zero
  intro j _
  have other := h.root_ne_some (portAt_mem s.ports.ports i) hb part
  split
  · exact if_neg fun roots => other roots.1
  · rfl

/-- **The links between the parts of two devices are those between their subdevices.** -/
theorem rootSum_root (h : Surveyed stack t s blocks) (model : String) {a b : Block H}
    (ha : a ∈ blocks) (hb : b ∈ blocks) :
    rootSum model s.ports.ports a.root b.root =
      ∑ u ∈ (a.parts stack).toFinset, ∑ v ∈ (b.parts stack).toFinset,
        linkSum model s.ports.ports u v := by
  rw [sum_linkSum]
  apply pairSum_congr
  intro p hp q hq
  rw [h.root_eq_some_iff hp ha, h.root_eq_some_iff hq hb, List.mem_toFinset, List.mem_toFinset]

section Aggregated

variable {devices : List (FoundDevice H)} {settings : Settings} {m : BandwidthMatrix}
  {u v : ObjectId} {row column : ℕ}

/-- Between the parts of one device stands the local bandwidth. -/
theorem get?_of_same_device (h : Surveyed stack t s (blocksFrom stack 0 t.size devices))
    (aggregated : s.matrix? settings = some m)
    (hu : s.registry.find? u = some row) (hv : s.registry.find? v = some column)
    (same : ∃ b ∈ blocksFrom stack 0 t.size devices, u ∈ b.nodes stack ∧ v ∈ b.nodes stack) :
    m.get? row column = some settings.localBandwidth := by
  obtain ⟨_, zeros, fits, _⟩ := value_aggregate_eq_some_iff.1 aggregated
  have hr := (h.find?_eq_some_iff.1 hu).1
  have hc := (h.find?_eq_some_iff.1 hv).1
  exact get?_of_sameBlock aggregated hr hc ((h.sameBlock_iff_of_find? fits hu hv).2 same)

/-- Between parts of different devices stands what was added up. -/
theorem amount?_of_other_device (h : Surveyed stack t s (blocksFrom stack 0 t.size devices))
    (aggregated : s.matrix? settings = some m)
    (hu : s.registry.find? u = some row) (hv : s.registry.find? v = some column)
    (other : ¬ ∃ b ∈ blocksFrom stack 0 t.size devices, u ∈ b.nodes stack ∧ v ∈ b.nodes stack) :
    m.amount? row column = some (min Capped.top
      (linkSum settings.linkModel s.ports.ports u v +
        rootSum settings.linkModel s.ports.ports u v)) := by
  obtain ⟨_, zeros, fits, _⟩ := value_aggregate_eq_some_iff.1 aggregated
  have hr := (h.find?_eq_some_iff.1 hu).1
  have hc := (h.find?_eq_some_iff.1 hv).1
  have apart : ¬ s.registry.SameBlock s.topology row column := fun same =>
    other ((h.sameBlock_iff_of_find? fits hu hv).1 same)
  rw [amount?_of_not_sameBlock aggregated hr hc apart, h.linkTotal_eq _ hu hv]

end Aggregated

end Surveyed

/-! ## The published matrix -/

/-- The number from one object to another. -/
def Distance.Matrix.amount? (m : Distance.Matrix) (source target : ObjectId) : Option ℕ :=
  (m.value? source target).map UInt64.toNat

section Stored

variable {stack : Stack H} {t : Topology} {s : Survey} {devices : List (FoundDevice H)}
  {settings : Settings} {m : BandwidthMatrix} {u v : ObjectId}
  (h : Surveyed stack t s (blocksFrom stack 0 t.size devices))
  (aggregated : s.matrix? settings = some m) (name : String)

include h aggregated

/-- The stored value between parts of one device. -/
theorem value?_of_same_device {b : Block H} (hb : b ∈ blocksFrom stack 0 t.size devices)
    (hu : u ∈ b.nodes stack) (hv : v ∈ b.nodes stack) :
    (m.stored s.registry name).value? u v = some settings.localBandwidth := by
  obtain ⟨row, hrow⟩ := h.exists_find?_eq_some (h.mem_nodes_of_mem hb hu)
  obtain ⟨column, hcolumn⟩ := h.exists_find?_eq_some (h.mem_nodes_of_mem hb hv)
  rw [value?_eq_get? (size_of_aggregate aggregated) name hrow hcolumn]
  exact h.get?_of_same_device aggregated hrow hcolumn ⟨b, hb, hu, hv⟩

/-- The stored number between parts of different devices. -/
theorem amount?_of_other_device {a b : Block H} (ha : a ∈ blocksFrom stack 0 t.size devices)
    (hb : b ∈ blocksFrom stack 0 t.size devices) (other : a ≠ b)
    (hu : u ∈ a.nodes stack) (hv : v ∈ b.nodes stack) :
    (m.stored s.registry name).amount? u v =
      some (min Capped.top (linkSum settings.linkModel s.ports.ports u v +
        rootSum settings.linkModel s.ports.ports u v)) := by
  obtain ⟨row, hrow⟩ := h.exists_find?_eq_some (h.mem_nodes_of_mem ha hu)
  obtain ⟨column, hcolumn⟩ := h.exists_find?_eq_some (h.mem_nodes_of_mem hb hv)
  rw [Distance.Matrix.amount?, value?_eq_get? (size_of_aggregate aggregated) name hrow hcolumn]
  refine h.amount?_of_other_device aggregated hrow hcolumn ?_
  rintro ⟨c, hc, hu', hv'⟩
  have left := h.eq_of_mem_nodes hc ha hu' hu
  have right := h.eq_of_mem_nodes hc hb hv' hv
  exact other (left.symm.trans right)

/-- The stored number between subdevices of different devices. -/
theorem amount?_parts {a b : Block H} (ha : a ∈ blocksFrom stack 0 t.size devices)
    (hb : b ∈ blocksFrom stack 0 t.size devices) (other : a ≠ b)
    (hu : u ∈ a.parts stack) (hv : v ∈ b.parts stack) :
    (m.stored s.registry name).amount? u v =
      some (min Capped.top (linkSum settings.linkModel s.ports.ports u v)) := by
  rw [amount?_of_other_device h aggregated name ha hb other (List.mem_cons_of_mem _ hu)
    (List.mem_cons_of_mem _ hv), h.rootSum_parts _ ha hu, Nat.add_zero]

/-- The stored number between different devices, from the numbers between their subdevices. -/
theorem amount?_root {a b : Block H} (ha : a ∈ blocksFrom stack 0 t.size devices)
    (hb : b ∈ blocksFrom stack 0 t.size devices) (other : a ≠ b) :
    (m.stored s.registry name).amount? a.root b.root =
      some (min Capped.top (linkSum settings.linkModel s.ports.ports a.root b.root +
        ∑ u ∈ (a.parts stack).toFinset, ∑ v ∈ (b.parts stack).toFinset,
          ((m.stored s.registry name).amount? u v).getD 0)) := by
  have between : ∀ u ∈ (a.parts stack).toFinset, ∀ v ∈ (b.parts stack).toFinset,
      ((m.stored s.registry name).amount? u v).getD 0 =
        min Capped.top (linkSum settings.linkModel s.ports.ports u v) := by
    intro u hu v hv
    rw [amount?_parts h aggregated name ha hb other (List.mem_toFinset.1 hu)
      (List.mem_toFinset.1 hv), Option.getD_some]
  -- the numbers between subdevices are capped each, the sum of the links only once
  rw [amount?_of_other_device h aggregated name ha hb other List.mem_cons_self
    List.mem_cons_self, h.rootSum_root _ ha hb,
    Finset.sum_congr rfl fun u hu => Finset.sum_congr rfl (between u hu),
    ← Finset.sum_product', ← Finset.sum_product', min_add_sum_min]

end Stored

/-- **The values of the matrix that a pass publishes.** Between the parts of one device, in any
combination, stands the local bandwidth, which is written nowhere else. Between subdevices of
different devices stands the sum of the links from the one to the other. Between different devices
stands the sum of the links of their own ports together with what stands between their subdevices.
All sums are capped. -/
theorem rollUp_discover {stack : Stack H} {t : Topology} {settings : Settings}
    (published : (discover stack t settings).value.2.publication.isPublished) :
    let s := passSurvey stack t
    let blocks := surveyBlocks stack t
    let links := linkSum settings.linkModel s.ports.ports
    s.registry.nodes = blocks.flatMap (·.nodes stack) ∧
    (∀ (m : BandwidthMatrix) (value : UInt64) (row column : ℕ),
      (¬ ∃ b ∈ blocks, ∃ u ∈ b.nodes stack, ∃ v ∈ b.nodes stack,
        s.registry.find? u = some row ∧ s.registry.find? v = some column) →
      (m.withLocal s.registry s.topology value).get? row column = m.get? row column) ∧
    ∃ matrix : Distance.Matrix,
      (discover stack t settings).value.1.distances = t.distances ++ [matrix] ∧
      (∀ b ∈ blocks, ∀ u ∈ b.nodes stack, ∀ v ∈ b.nodes stack,
        matrix.value? u v = some settings.localBandwidth) ∧
      (∀ a ∈ blocks, ∀ b ∈ blocks, a ≠ b →
        ∀ u ∈ a.parts stack, ∀ v ∈ b.parts stack,
          matrix.amount? u v = some (min (2 ^ 64 - 1) (links u v))) ∧
      ∀ a ∈ blocks, ∀ b ∈ blocks, a ≠ b →
        matrix.amount? a.root b.root = some (min (2 ^ 64 - 1) (links a.root b.root +
          ∑ u ∈ (a.parts stack).toFinset, ∑ v ∈ (b.parts stack).toFinset,
            (matrix.amount? u v).getD 0)) := by
  obtain ⟨named, m, aggregated⟩ := exists_of_isPublished published
  obtain ⟨_, zeros, fits, _⟩ := value_aggregate_eq_some_iff.1 aggregated
  obtain ⟨devices, h, rfl | rfl⟩ := exists_surveyed_passSurvey stack t
  · exact absurd h.nodes (h.nodes_ne_nil aggregated)
  · refine ⟨h.nodes, fun m value row column other => ?_, _,
      (publication_of_matrix?_eq_some aggregated named).2, ?_, ?_, ?_⟩
    · rw [BandwidthMatrix.get?_withLocal, if_neg fun same => other ((h.sameBlock_iff fits).1 same)]
    · intro b hb u hu v hv
      exact value?_of_same_device h aggregated _ hb hu hv
    · intro a ha b hb other u hu v hv
      exact amount?_parts h aggregated _ ha hb other hu hv
    · intro a ha b hb other
      exact amount?_root h aggregated _ ha hb other

/-! ### The two linked devices -/

theorem isPublished_linked :
    (discover linkedInventory.stack .initial {}).value.2.publication.isPublished :=
  isPublished_of_recognised zeros_linked (by decide) exists_link_linked

theorem rollUp_discover_linked :
    ∃ matrix : Distance.Matrix,
      (discover linkedInventory.stack .initial {}).value.1.distances = [matrix] ∧
      matrix.value? ⟨1⟩ ⟨2⟩ = some 1000000 ∧ matrix.amount? ⟨2⟩ ⟨4⟩ = some 5 ∧
      matrix.amount? ⟨1⟩ ⟨3⟩ = some 12 := by
  have blocks : (surveyBlocks linkedInventory.stack .initial).map
      (fun b => (b.start, b.parts linkedInventory.stack)) = [(1, [⟨2⟩]), (3, [⟨4⟩])] := by
    decide +kernel
  have roots : linkSum "XeLink" (passSurvey linkedInventory.stack .initial).ports.ports ⟨1⟩ ⟨3⟩ =
      7 := by decide +kernel
  have parts : linkSum "XeLink" (passSurvey linkedInventory.stack .initial).ports.ports ⟨2⟩ ⟨4⟩ =
      5 := by decide +kernel
  have entry : ∀ e ∈ [(1, [⟨2⟩]), (3, [⟨4⟩])], ∃ b ∈ surveyBlocks linkedInventory.stack .initial,
      b.root = ⟨e.1⟩ ∧ b.parts linkedInventory.stack = e.2 := by
    intro e listed
    rw [← blocks] at listed
    obtain ⟨b, hb, rfl⟩ := List.mem_map.1 listed
    exact ⟨b, hb, rfl, rfl⟩
  obtain ⟨a, ha, aRoot, aParts⟩ := entry (1, [⟨2⟩]) (by simp)
  obtain ⟨b, hb, bRoot, bParts⟩ := entry (3, [⟨4⟩]) (by simp)
  have different : a ≠ b := by
    rintro rfl
    rw [aRoot] at bRoot
    cases bRoot
  obtain ⟨_, _, matrix, stored, same, between, devices⟩ := rollUp_discover isPublished_linked
  have subdevices := between a ha b hb different ⟨2⟩ (by simp [aParts]) ⟨4⟩ (by simp [bParts])
  have total := devices a ha b hb different
  have inside := same a ha a.root List.mem_cons_self ⟨2⟩ (by simp [Block.nodes, aParts])
  rw [parts] at subdevices
  rw [aRoot, bRoot, aParts, bParts, roots] at total
  rw [aRoot] at inside
  refine ⟨matrix, stored, inside, subdevices, ?_⟩
  simpa [subdevices] using total

end DeviceAtlas
