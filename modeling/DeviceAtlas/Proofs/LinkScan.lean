import DeviceAtlas.Discovery.Aggregate
import DeviceAtlas.Proofs.Positions

/-!
# The index finds what a scan of all pairs finds

Links are looked up in an index of the ports by identity. Here they are compared with the plain
search through all pairs of positions.

* `Link.all_eq_scan`: the index gives the links of the scan, in the order of the scan.
* `Link.mem_all_iff`: what it takes for two positions to be linked.
* `Link.sorted_all`: each link is listed once, by source and then by target.
* `Link.sum_map_all`: a sum over the links is a sum over all pairs of positions.
-/

namespace DeviceAtlas

/-- A healthy port claims every port that has the identity it sees at its remote end. -/
def Port.Claims (source target : Port) : Prop :=
  source.state.status = .healthy ∧ source.state.remote = target.properties.id

instance (source target : Port) : Decidable (source.Claims target) :=
  inferInstanceAs (Decidable (_ ∧ _))

/-- The port in a position. -/
def portAt (ports : Array Port) (i : Fin ports.size) : Port := ports[i]

theorem portAt_mem (ports : Array Port) (i : Fin ports.size) : portAt ports i ∈ ports :=
  Array.getElem_mem i.isLt

theorem getElem?_eq_portAt (ports : Array Port) (i : Fin ports.size) :
    ports[(i : ℕ)]? = some (portAt ports i) :=
  Array.getElem?_eq_getElem i.isLt

/-- A link of the chosen model leads from one position to another: the port in the first claims the
port in the second, which is of that model. -/
def Recognised (model : String) (ports : Array Port) (i j : Fin ports.size) : Prop :=
  i ≠ j ∧ (portAt ports i).Claims (portAt ports j) ∧ (portAt ports j).properties.model = model

instance (model : String) (ports : Array Port) (i j : Fin ports.size) :
    Decidable (Recognised model ports i j) :=
  inferInstanceAs (Decidable (_ ∧ _ ∧ _))

namespace Link

/-- The links that a search through all pairs of positions finds. -/
def scan (ports : List Port) : List Link :=
  ports.zipIdx.flatMap fun (source, i) =>
    (ports.zipIdx.filter fun (target, j) => i ≠ j ∧ source.Claims target).map fun (_, j) => ⟨i, j⟩

/-! ## The index -/

/-- The positions among numbered ports that have an identity. -/
def positions (id : Stack.PortId) (numbered : List (Port × Nat)) : List Nat :=
  (numbered.filter fun (port, _) => port.properties.id = id).map (·.2)

/-- Indexing more ports appends their positions to each bucket. -/
theorem getD_foldl_alter (id : Stack.PortId) (numbered : List (Port × Nat))
    (found : Std.HashMap Stack.PortId (Array Nat)) :
    ((numbered.foldl (fun found (port, position) =>
      found.alter port.properties.id fun bucket => some ((bucket.getD #[]).push position))
        found).getD id #[]).toList = (found.getD id #[]).toList ++ positions id numbered := by
  induction numbered generalizing found with
  | nil => simp [positions]
  | cons entry rest ih =>
    obtain ⟨port, position⟩ := entry
    rw [List.foldl_cons, ih, Std.HashMap.getD_alter]
    by_cases h : port.properties.id = id
    · subst h
      simp [positions, Std.HashMap.getD_eq_getD_getElem?]
    · simp [positions, h]

/-- The bucket of an identity has the positions of the ports of that identity. -/
theorem toList_getD_index (ports : List Port) (id : Stack.PortId) :
    ((index ports).getD id #[]).toList = positions id ports.zipIdx := by
  rw [index, getD_foldl_alter]
  simp

/-! ## The comparison -/

/-- The links that leave a port are those that a search through the other ports finds. -/
theorem leaving_index (ports : List Port) (source : Port) (i : Nat) :
    leaving (index ports) source i =
      (ports.zipIdx.filter fun (target, j) => i ≠ j ∧ source.Claims target).map
        fun (_, j) => ⟨i, j⟩ := by
  unfold leaving Port.Claims
  split
  · rename_i healthy
    rw [toList_getD_index, positions, List.filter_map, List.filter_filter, List.map_map]
    simp only [healthy, Function.comp_def, true_and, eq_comm (a := source.state.remote), ne_comm,
      Bool.decide_and]
  · rename_i healthy
    simp [healthy]

/-- **The index and the scan find the same links in the same order.** -/
theorem all_eq_scan (ports : Array Port) : all ports = scan ports.toList := by
  simp only [all, scan, leaving_index]

/-- Two positions are linked if they are different, both taken, and the first port claims the
second. -/
theorem mem_all_iff {ports : Array Port} {link : Link} :
    link ∈ all ports ↔ link.source ≠ link.target ∧
      ∃ source target, ports[link.source]? = some source ∧ ports[link.target]? = some target ∧
        source.Claims target := by
  obtain ⟨i, j⟩ := link
  simp only [all_eq_scan, scan, List.mem_flatMap, List.mem_map, List.mem_filter, Prod.exists,
    List.mem_zipIdx_iff_getElem?, Link.mk.injEq, decide_eq_true_eq, Array.getElem?_toList]
  constructor
  · rintro ⟨source, _, hs, target, _, ⟨ht, ne, claims⟩, rfl, rfl⟩
    exact ⟨ne, source, target, hs, ht, claims⟩
  · rintro ⟨ne, source, target, hs, ht, claims⟩
    exact ⟨source, i, hs, target, j, ⟨ht, ne, claims⟩, rfl, rfl⟩

/-! ## The order of the links -/

/-- A link comes before another if its source does, or, where both leave the same port, its
target. -/
def Before (a b : Link) : Prop :=
  a.source < b.source ∨ a.source = b.source ∧ a.target < b.target

theorem Before.ne {a b : Link} (h : a.Before b) : a ≠ b := by
  rintro rfl
  rcases h with lt | ⟨_, lt⟩ <;> exact Nat.lt_irrefl _ lt

/-- The scan finds links in their order. -/
theorem pairwise_before_scan (ports : List Port) : (scan ports).Pairwise Before := by
  have places := pairwise_zipIdx ports 0
  rw [scan, List.pairwise_flatMap]
  constructor
  · rintro ⟨source, i⟩ _
    rw [List.pairwise_map]
    exact (places.filter _).imp fun later => .inr ⟨rfl, later⟩
  · refine places.imp fun later a ha b hb => .inl ?_
    obtain ⟨_, _, rfl⟩ := List.mem_map.1 ha
    obtain ⟨_, _, rfl⟩ := List.mem_map.1 hb
    exact later

/-- **The links of a list of ports.** The index gives the list that a scan of all pairs gives. It
has the pairs of different positions of which the first has a healthy port that sees the identity of
the port in the second, each of them once, by the first position and then by the second. -/
theorem sorted_all (ports : Array Port) :
    all ports = scan ports.toList ∧
    (∀ i j, ⟨i, j⟩ ∈ all ports ↔
      i ≠ j ∧ ∃ source target, ports[i]? = some source ∧ ports[j]? = some target ∧
        source.state.status = .healthy ∧ source.state.remote = target.properties.id) ∧
    (all ports).Nodup ∧
    (all ports).Pairwise fun a b =>
      a.source < b.source ∨ a.source = b.source ∧ a.target < b.target := by
  have ordered : (all ports).Pairwise Before := by
    rw [all_eq_scan]
    exact pairwise_before_scan ports.toList
  exact ⟨all_eq_scan ports, fun i j => mem_all_iff, ordered.imp Before.ne, ordered⟩

/-! ## Sums -/

theorem sum_map_filter_eq {α : Type*} (p : α → Bool) (f : α → ℕ) (l : List α) :
    ((l.filter p).map f).sum = (l.map fun a => if p a then f a else 0).sum := by
  induction l with
  | nil => rfl
  | cons a l ih => cases h : p a <;> simp [h, ih]

theorem sum_map_flatMap {α β : Type*} (l : List α) (g : α → List β) (f : β → ℕ) :
    ((l.flatMap g).map f).sum = (l.map fun a => ((g a).map f).sum).sum := by
  simp only [List.flatMap, List.map_flatten, List.sum_flatten, List.map_map, Function.comp_def]

/-- A sum over the links is a sum over all pairs of different positions of which the first port
claims the second. -/
theorem sum_map_all (ports : Array Port) (f : Link → ℕ) :
    ((all ports).map f).sum = ∑ i : Fin ports.size, ∑ j : Fin ports.size,
      if i ≠ j ∧ (portAt ports i).Claims (portAt ports j) then f ⟨i, j⟩ else 0 := by
  rw [all_eq_scan, scan, sum_map_flatMap, sum_map_zipIdx]
  apply Finset.sum_congr rfl
  intro i _
  rw [List.map_map, sum_map_filter_eq, sum_map_zipIdx]
  simp [Fin.ext_iff, portAt]

end Link

end DeviceAtlas
