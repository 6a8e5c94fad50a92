import DeviceAtlas.Proofs.CellLaw

/-!
# Which links are counted

A link of the chosen model between registered owners adds its bandwidth to their cell. Only after
that the devices are looked up which the owners are part of, and where one of these is not
registered, the link is not counted. A matrix comes out if some link was counted, so it can be lost
although bandwidth was added.

* `LinkTally.matched_ofLinks`: how many links are counted.
* `isSome_aggregate_iff`: when a matrix comes out.
* `aggregate_orphaned`: a matrix that is lost.
-/

namespace DeviceAtlas

/-- An object that is registered is found. -/
theorem Registry.isSome_find?_iff {r : Registry} {id : ObjectId} :
    (r.find? id).isSome ↔ id ∈ r.nodes := List.isSome_idxOf?

/-- If two owners are both part of a device, then both devices are registered. -/
def Registry.HasRoots (r : Registry) (source target : Port) : Prop :=
  ∀ u v, source.root = some u → target.root = some v → u ∈ r.nodes ∧ v ∈ r.nodes

theorem Registry.hasRoots_of_source {r : Registry} {source target : Port}
    (hs : source.root = none) : r.HasRoots source target := by
  intro u v root
  rw [hs] at root
  cases root

theorem Registry.hasRoots_of_target {r : Registry} {source target : Port}
    (ht : target.root = none) : r.HasRoots source target := by
  intro u v _ root
  rw [ht] at root
  cases root

theorem Registry.hasRoots_iff {r : Registry} {source target : Port} {u v : ObjectId}
    (hs : source.root = some u) (ht : target.root = some v) :
    r.HasRoots source target ↔ u ∈ r.nodes ∧ v ∈ r.nodes := by
  simp [HasRoots, hs, ht]

instance (r : Registry) (source target : Port) : Decidable (r.HasRoots source target) :=
  decidable_of_iff (∀ u ∈ source.root, ∀ v ∈ target.root, u ∈ r.nodes ∧ v ∈ r.nodes)
    ⟨fun h u v hu hv => h u hu v hv, fun h u hu v hv => h u v hu hv⟩

/-- A pair of ports is counted if its bandwidth is added at every place where it belongs. -/
def Registry.Matches (r : Registry) (model : String) (source target : Port) : Prop :=
  r.Counts model source target ∧ r.HasRoots source target

instance (r : Registry) (model : String) (source target : Port) :
    Decidable (r.Matches model source target) :=
  inferInstanceAs (Decidable (_ ∧ _))

namespace LinkTally

variable {r : Registry} {model : String}

/-! ## The count -/

/-- A credit succeeds exactly when both objects are registered. -/
theorem isSome_credit?_iff (m : BandwidthMatrix) (source target : ObjectId) (bandwidth : UInt64) :
    (credit? r m source target bandwidth).isSome ↔ source ∈ r.nodes ∧ target ∈ r.nodes := by
  rw [← Option.ne_none_iff_isSome, ne_eq, credit?_eq_none_iff, not_not,
    Registry.isSome_find?_iff, Registry.isSome_find?_iff]

/-- A link is counted if the devices are registered too, once its bandwidth was added between the
owners. -/
theorem matched_count_of_credit? {tally : LinkTally} {source target : Port}
    {credited : BandwidthMatrix} (same : target.properties.model = model)
    (owners : credit? r tally.matrix source.owner target.owner source.state.received.megabytes =
      some credited) :
    (tally.count r model source target).matched =
      tally.matched + if r.HasRoots source target then 1 else 0 := by
  rw [count, if_neg (not_not.2 same)]
  dsimp only
  rw [owners]
  cases hs : source.root with
  | none => rw [if_pos (Registry.hasRoots_of_source hs)]
  | some u =>
    cases ht : target.root with
    | none => rw [if_pos (Registry.hasRoots_of_target ht)]
    | some v =>
      have roots := isSome_credit?_iff (r := r) credited u v source.state.received.megabytes
      rw [← Registry.hasRoots_iff hs ht] at roots
      dsimp only
      cases second : credit? r credited u v source.state.received.megabytes with
      | none =>
        rw [second] at roots
        rw [if_neg fun registered => Bool.false_ne_true (roots.2 registered)]
        rfl
      | some _ =>
        rw [second] at roots
        rw [if_pos (roots.1 rfl)]

/-- A link is counted at most once. -/
theorem matched_count (tally : LinkTally) (source target : Port) :
    (tally.count r model source target).matched =
      tally.matched + if r.Matches model source target then 1 else 0 := by
  by_cases same : target.properties.model = model
  · cases owners : credit? r tally.matrix source.owner target.owner
        source.state.received.megabytes with
    | none =>
      have uncounted : ¬ r.Matches model source target := fun counted =>
        credit?_eq_none_iff.1 owners counted.1.2
      rw [count, if_neg (not_not.2 same), if_neg uncounted]
      dsimp only
      rw [owners]
      rfl
    | some credited =>
      have known : source.owner ∈ r.nodes ∧ target.owner ∈ r.nodes :=
        (isSome_credit?_iff ..).1 (Option.isSome_of_eq_some owners)
      have matched : r.Matches model source target ↔ r.HasRoots source target :=
        and_iff_right ⟨same, Registry.isSome_find?_iff.2 known.1,
          Registry.isSome_find?_iff.2 known.2⟩
      rw [matched_count_of_credit? same owners, if_congr matched rfl rfl]
  · rw [count, if_pos same, if_neg fun counted => same counted.1.1]
    rfl

/-- A link that is given by positions is counted. -/
def IsMatched (r : Registry) (model : String) (ports : Array Port) (link : Link) : Prop :=
  ∃ source ∈ ports[link.source]?, ∃ target ∈ ports[link.target]?, r.Matches model source target

instance (r : Registry) (model : String) (ports : Array Port) (link : Link) :
    Decidable (IsMatched r model ports link) :=
  inferInstanceAs (Decidable (∃ source ∈ ports[link.source]?, _))

theorem matched_countLink (ports : Array Port) (tally : LinkTally) (link : Link) :
    (countLink r model ports tally link).value.matched =
      tally.matched + if IsMatched r model ports link then 1 else 0 := by
  rw [value_countLink]
  cases hs : ports[link.source]? with
  | none => simp [IsMatched, hs]
  | some source =>
    cases ht : ports[link.target]? with
    | none => simp [IsMatched, ht]
    | some target => simpa [IsMatched, hs, ht] using matched_count tally source target

/-- After any list of links the count is up by the number of those that are counted. -/
theorem matched_foldl_countLink (ports : Array Port) (links : List Link) (tally : LinkTally) :
    (links.foldl (fun tally link => (countLink r model ports tally link).value) tally).matched =
      tally.matched + links.countP (IsMatched r model ports ·) := by
  induction links generalizing tally with
  | nil => rfl
  | cons link links ih =>
    rw [List.foldl_cons, ih, matched_countLink, List.countP_cons]
    simp only [decide_eq_true_eq]
    omega

/-- **How many links are counted.** -/
theorem matched_ofLinks (model : String) (ports : Array Port) (matrix : BandwidthMatrix) :
    (ofLinks r model ports matrix).matched =
      (Link.all ports).countP (IsMatched r model ports ·) := by
  rw [ofLinks, matched_foldl_countLink, Nat.zero_add]

/-- Some link is counted exactly when there is one of the chosen model between registered owners
whose devices are registered too, if both are part of one. -/
theorem matched_ofLinks_ne_zero_iff {ports : Array Port} {matrix : BandwidthMatrix} :
    (ofLinks r model ports matrix).matched ≠ 0 ↔
      ∃ i j, Recognised model ports i j ∧ (portAt ports i).owner ∈ r.nodes ∧
        (portAt ports j).owner ∈ r.nodes ∧ r.HasRoots (portAt ports i) (portAt ports j) := by
  rw [matched_ofLinks, ← Nat.pos_iff_ne_zero, List.countP_pos_iff]
  simp only [decide_eq_true_eq, IsMatched, Option.mem_def]
  constructor
  · rintro ⟨link, listed, source, hs, target, ht, ⟨same, sourceKnown, targetKnown⟩, roots⟩
    obtain ⟨ne, source', target', hs', ht', claims⟩ := Link.mem_all_iff.1 listed
    rw [hs] at hs'
    rw [ht] at ht'
    cases hs'
    cases ht'
    obtain ⟨hi, rfl⟩ := Array.getElem?_eq_some_iff.1 hs
    obtain ⟨hj, rfl⟩ := Array.getElem?_eq_some_iff.1 ht
    exact ⟨⟨_, hi⟩, ⟨_, hj⟩, ⟨fun equal => ne (congrArg Fin.val equal), claims, same⟩,
      Registry.isSome_find?_iff.1 sourceKnown, Registry.isSome_find?_iff.1 targetKnown, roots⟩
  · rintro ⟨i, j, ⟨ne, claims, same⟩, sourceKnown, targetKnown, roots⟩
    have hs := getElem?_eq_portAt ports i
    have ht := getElem?_eq_portAt ports j
    have listed : (⟨i, j⟩ : Link) ∈ Link.all ports :=
      Link.mem_all_iff.2 ⟨fun equal => ne (Fin.ext equal), _, _, hs, ht, claims⟩
    exact ⟨⟨i, j⟩, listed, _, hs, _, ht, ⟨same, Registry.isSome_find?_iff.2 sourceKnown,
      Registry.isSome_find?_iff.2 targetKnown⟩, roots⟩

end LinkTally

/-! ## When a matrix comes out -/

/-- A matrix comes out if it fits and some link was counted. -/
theorem isSome_aggregate_iff_matched {r : Registry} {ports : PortList} {t : Topology}
    {settings : Settings} {zeros : BandwidthMatrix}
    (fits : BandwidthMatrix.zeros r.size = .ok zeros) :
    (aggregate r ports t settings).value.isSome ↔
      (LinkTally.ofLinks r settings.linkModel ports.ports zeros).matched ≠ 0 := by
  rw [Option.isSome_iff_exists]
  constructor
  · rintro ⟨m, aggregated⟩
    obtain ⟨_, zeros', fits', counted, _⟩ := value_aggregate_eq_some_iff.1 aggregated
    rw [fits] at fits'
    cases fits'
    exact counted
  · intro counted
    obtain ⟨i, _⟩ := LinkTally.matched_ofLinks_ne_zero_iff.1 counted
    have some : ports.ports.isEmpty = false := by
      simp [Array.isEmpty, Nat.ne_of_gt i.pos]
    exact ⟨_, value_aggregate_eq_some_iff.2 ⟨some, zeros, fits, counted, rfl⟩⟩

/-- **When a matrix comes out.** If there is memory for it, this takes a link of the chosen model
between registered owners of which the devices are registered too, if both are part of one. Where
whoever is registered is registered with the device that it is part of, any link of the chosen model
between registered owners will do. -/
theorem isSome_aggregate_iff {r : Registry} {ports : PortList} {t : Topology}
    {settings : Settings} {zeros : BandwidthMatrix}
    (fits : BandwidthMatrix.zeros r.size = .ok zeros) :
    ((aggregate r ports t settings).value.isSome ↔
      ∃ i j, Recognised settings.linkModel ports.ports i j ∧
        (portAt ports.ports i).owner ∈ r.nodes ∧ (portAt ports.ports j).owner ∈ r.nodes ∧
        ∀ u v, (portAt ports.ports i).root = some u → (portAt ports.ports j).root = some v →
          u ∈ r.nodes ∧ v ∈ r.nodes) ∧
    ((∀ port ∈ ports.ports, port.owner ∈ r.nodes →
        ∀ device, port.root = some device → device ∈ r.nodes) →
      ((aggregate r ports t settings).value.isSome ↔
        ∃ i j, Recognised settings.linkModel ports.ports i j ∧
          (portAt ports.ports i).owner ∈ r.nodes ∧ (portAt ports.ports j).owner ∈ r.nodes)) := by
  have comesOut : (aggregate r ports t settings).value.isSome ↔ _ :=
    (isSome_aggregate_iff_matched fits).trans LinkTally.matched_ofLinks_ne_zero_iff
  refine ⟨comesOut, fun rooted => comesOut.trans ?_⟩
  refine exists_congr fun i => exists_congr fun j => and_congr_right fun _ =>
    and_congr_right fun sourceKnown => and_iff_left_of_imp fun targetKnown => ?_
  exact fun u v hu hv => ⟨rooted _ (portAt_mem _ i) sourceKnown u hu,
    rooted _ (portAt_mem _ j) targetKnown v hv⟩

/-! ### Two subdevices without their devices -/

/-- The subdevices of two devices, but not the devices. -/
def orphanRegistry : Registry where
  nodes := [⟨2⟩, ⟨4⟩]

/-- Room for both subdevices. -/
def orphanZeros : BandwidthMatrix := ⟨2, .replicate 4 0, rfl⟩

theorem isSome_aggregate_iff_paired :
    (aggregate pairedRegistry pairedPorts pairedTopology {}).value.isSome ∧
      ¬ (aggregate orphanRegistry pairedPorts .initial {}).value.isSome := by
  constructor
  · have fits : BandwidthMatrix.zeros pairedRegistry.size = .ok ⟨4, .replicate 16 0, rfl⟩ := rfl
    exact ((isSome_aggregate_iff fits).2 (by decide)).2 (by decide)
  · have fits : BandwidthMatrix.zeros orphanRegistry.size = .ok orphanZeros := rfl
    rw [(isSome_aggregate_iff fits).1]
    show ¬ ∃ i j, Recognised _ pairedPorts.ports i j ∧ _ ∈ orphanRegistry.nodes ∧
      _ ∈ orphanRegistry.nodes ∧ orphanRegistry.HasRoots _ _
    decide

/-- A healthy port of one registered subdevice claims a port of another one, and the bandwidth is
added between them, but no matrix comes out. -/
theorem aggregate_orphaned :
    (∃ i j, Recognised "XeLink" pairedPorts.ports i j ∧
      (portAt pairedPorts.ports i).owner ∈ orphanRegistry.nodes ∧
      (portAt pairedPorts.ports j).owner ∈ orphanRegistry.nodes) ∧
    BandwidthMatrix.zeros orphanRegistry.size = .ok orphanZeros ∧
    (LinkTally.ofLinks orphanRegistry "XeLink" pairedPorts.ports orphanZeros).matrix.amount? 0 1 =
      some 4 ∧
    (aggregate orphanRegistry pairedPorts .initial {}).value = none := by
  have fits : BandwidthMatrix.zeros orphanRegistry.size = .ok orphanZeros := rfl
  refine ⟨by decide, fits, ?_, ?_⟩
  · rw [LinkTally.amount?_ofLinks "XeLink" pairedPorts.ports fits (by decide) (by decide)]
    decide +kernel
  · rw [← Option.not_isSome_iff_eq_none, isSome_aggregate_iff_matched fits,
      LinkTally.matched_ofLinks_ne_zero_iff]
    decide

end DeviceAtlas
