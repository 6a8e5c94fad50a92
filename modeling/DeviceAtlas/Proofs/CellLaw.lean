import DeviceAtlas.Discovery.Aggregate
import DeviceAtlas.Proofs.LinkScan

/-!
# What stands in each cell

A link between ports of the chosen model is credited to the cell of its owners and, where both
owners are parts of devices, once more to the cell of the devices. Sums are capped while the links
are taken in turn, and local blocks are written over them at the end. Both leave each cell what
one formula says of it.

* `LinkTally.amount?_foldl_countLink`: after any list of links a cell has the capped sum of their
  shares.
* `BandwidthMatrix.get?_withLocal`: the local bandwidth goes to the local blocks and nowhere else.
* `amount?_aggregate`: the cells of the whole matrix.
-/

namespace DeviceAtlas

/-! ## The share of a link -/

/-- A pair of ports counts if the second is of the chosen model and both owners are registered. -/
def Registry.Counts (r : Registry) (model : String) (source target : Port) : Prop :=
  target.properties.model = model ∧
    (r.find? source.owner).isSome ∧ (r.find? target.owner).isSome

instance (r : Registry) (model : String) (source target : Port) :
    Decidable (r.Counts model source target) :=
  inferInstanceAs (Decidable (_ ∧ _ ∧ _))

/-- The bandwidth that a port receives, in whole MB/s; nothing if it is unknown. -/
def Port.bandwidth (port : Port) : ℕ := port.state.received.bitRate.toInt.toNat / 2 ^ 20

/-- Whole MB/s are bits per second divided by 2²⁰, if the rate is known at all. -/
theorem Stack.PortSpeed.toNat_megabytes (speed : Stack.PortSpeed) :
    speed.megabytes.toNat = speed.bitRate.toInt.toNat / 2 ^ 20 := by
  unfold Stack.PortSpeed.megabytes
  split
  · rename_i negative
    rw [Int64.lt_iff_toInt_lt, Int64.toInt_zero] at negative
    rw [Int.toNat_of_nonpos (Int.le_of_lt negative)]
    rfl
  · rename_i positive
    rw [UInt64.toNat_shiftRight, Int64.toNat_toUInt64_of_le (Int64.not_lt.1 positive),
      Nat.shiftRight_eq_div_pow]
    rfl

/-- What a pair of ports that counts adds to a cell: its bandwidth if the owners stand in this row
and column, and its bandwidth if the devices that the owners are part of stand there. -/
def Registry.share (r : Registry) (row column : ℕ) (source target : Port) : ℕ :=
  (if r.find? source.owner = some row ∧ r.find? target.owner = some column
    then source.bandwidth else 0) +
  (if source.root.bind r.find? = some row ∧ target.root.bind r.find? = some column
    then source.bandwidth else 0)

/-- The exact sum of a cell: the shares of all pairs of ports, in different positions, that count
and of which the first claims the second. -/
def Registry.linkTotal (r : Registry) (model : String) (ports : Array Port) (row column : ℕ) : ℕ :=
  ∑ i : Fin ports.size, ∑ j : Fin ports.size,
    if i ≠ j ∧ (portAt ports i).Claims (portAt ports j) ∧
      r.Counts model (portAt ports i) (portAt ports j)
    then r.share row column (portAt ports i) (portAt ports j) else 0

/-! ## Adding up -/

namespace BandwidthMatrix

variable {row column : ℕ}

/-- The number in a cell. -/
def amount? (m : BandwidthMatrix) (row column : ℕ) : Option ℕ :=
  (m.get? row column).map UInt64.toNat

/-- A number in a cell is one of sixty-four bits, so that capping it leaves it alone. -/
theorem map_min_amount? (m : BandwidthMatrix) (row column : ℕ) :
    (m.amount? row column).map (min Capped.top) = m.amount? row column := by
  rw [amount?, Option.map_map]
  apply Option.map_congr
  intro value _
  exact Nat.min_eq_right (Capped.toNat_le_top value)

theorem size_zeros {size : ℕ} {zeros : BandwidthMatrix}
    (h : BandwidthMatrix.zeros size = .ok zeros) : zeros.size = size := by
  unfold BandwidthMatrix.zeros at h
  split at h <;> cases h
  rfl

/-- The matrix of zeros has zeros. -/
theorem amount?_zeros {size : ℕ} {zeros : BandwidthMatrix}
    (h : BandwidthMatrix.zeros size = .ok zeros) (hr : row < size) (hc : column < size) :
    zeros.amount? row column = some 0 := by
  unfold BandwidthMatrix.zeros at h
  split at h
  · cases h
    have inside : row * size + column < size * size := by
      calc row * size + column < (row + 1) * size := by rw [Nat.succ_mul]; omega
        _ ≤ size * size := Nat.mul_le_mul_right _ hr
    simp [amount?, get?, cell?, hr, hc, inside]
  · cases h

theorem amount?_add (m : BandwidthMatrix) (row' column' : ℕ) (value : UInt64) :
    (m.add row' column' value).amount? row column = (m.amount? row column).map fun n =>
      min Capped.top (n + if row' = row ∧ column' = column then value.toNat else 0) := by
  by_cases h : row' = row ∧ column' = column
  · simp [amount?, get?_add, h, Function.comp_def]
  · simp only [amount?, get?_add, h, if_false, Nat.add_zero]
    exact (map_min_amount? ..).symm

end BandwidthMatrix

namespace LinkTally

variable {r : Registry} {model : String} {row column : ℕ}

/-- A credit fails for want of a place, and else adds to the cell of the two places. -/
theorem credit?_eq_match (m : BandwidthMatrix) (source target : ObjectId) (bandwidth : UInt64) :
    credit? r m source target bandwidth =
      match r.find? source, r.find? target with
      | some row, some column => some (m.add row column bandwidth)
      | _, _ => none := by
  unfold credit?
  cases r.find? source <;> cases r.find? target <;> rfl

theorem credit?_eq_none_iff {m : BandwidthMatrix} {source target : ObjectId} {bandwidth : UInt64} :
    credit? r m source target bandwidth = none ↔
      ¬ ((r.find? source).isSome ∧ (r.find? target).isSome) := by
  rw [credit?_eq_match]
  cases r.find? source <;> cases r.find? target <;> simp

/-- What a credit leaves of a cell. -/
theorem amount?_of_credit? {m credited : BandwidthMatrix} {source target : ObjectId}
    {bandwidth : UInt64} (h : credit? r m source target bandwidth = some credited) :
    credited.amount? row column = (m.amount? row column).map fun n => min Capped.top
      (n + if r.find? source = some row ∧ r.find? target = some column
        then bandwidth.toNat else 0) := by
  rw [credit?_eq_match] at h
  split at h
  · rename_i row' column' hs ht
    cases h
    rw [BandwidthMatrix.amount?_add, hs, ht]
    simp only [Option.some.injEq]
  · cases h

theorem size_of_credit? {m credited : BandwidthMatrix} {source target : ObjectId}
    {bandwidth : UInt64} (h : credit? r m source target bandwidth = some credited) :
    credited.size = m.size := by
  rw [credit?_eq_match] at h
  split at h
  · cases h
    exact BandwidthMatrix.size_modify ..
  · cases h

/-- The matrix after the credit between the devices that two owners are part of, if they are. -/
def creditRoots (r : Registry) (m : BandwidthMatrix) (source target : Port) : BandwidthMatrix :=
  match source.root, target.root with
  | some sourceRoot, some targetRoot =>
    (credit? r m sourceRoot targetRoot source.state.received.megabytes).getD m
  | _, _ => m

/-- A link is credited between the owners, and then between their devices. -/
theorem matrix_count (tally : LinkTally) (source target : Port) :
    (tally.count r model source target).matrix =
      if target.properties.model = model then
        match credit? r tally.matrix source.owner target.owner
            source.state.received.megabytes with
        | some credited => creditRoots r credited source target
        | none => tally.matrix
      else tally.matrix := by
  unfold count creditRoots
  by_cases same : target.properties.model = model
  · rw [if_neg (not_not.2 same), if_pos same]
    dsimp only
    cases credit? r tally.matrix source.owner target.owner source.state.received.megabytes with
    | none => rfl
    | some credited =>
      cases source.root with
      | none => rfl
      | some sourceRoot =>
        cases target.root with
        | none => rfl
        | some targetRoot =>
          dsimp only
          cases credit? r credited sourceRoot targetRoot source.state.received.megabytes <;> rfl
  · rw [if_pos same, if_neg same]

/-- What the credit between the devices leaves of a cell. -/
theorem amount?_creditRoots (m : BandwidthMatrix) (source target : Port) :
    (creditRoots r m source target).amount? row column =
      (m.amount? row column).map fun n => min Capped.top
        (n + if source.root.bind r.find? = some row ∧ target.root.bind r.find? = some column
          then source.bandwidth else 0) := by
  have unchanged := (m.map_min_amount? row column).symm
  unfold creditRoots
  cases source.root with
  | none => simpa using unchanged
  | some sourceRoot =>
    cases target.root with
    | none => simpa using unchanged
    | some targetRoot =>
      simp only [Option.bind_some]
      cases h : credit? r m sourceRoot targetRoot source.state.received.megabytes with
      | none =>
        have : ¬ (r.find? sourceRoot = some row ∧ r.find? targetRoot = some column) := by
          rintro ⟨hs, ht⟩
          exact credit?_eq_none_iff.1 h (by simp [hs, ht])
        simpa [this] using unchanged
      | some credited =>
        rw [Option.getD_some, amount?_of_credit? h, Stack.PortSpeed.toNat_megabytes]
        rfl

/-- A cell after a link was counted. -/
theorem amount?_count (tally : LinkTally) (source target : Port) :
    (tally.count r model source target).matrix.amount? row column =
      (tally.matrix.amount? row column).map fun n => min Capped.top
        (n + if r.Counts model source target then r.share row column source target else 0) := by
  have unchanged := (tally.matrix.map_min_amount? row column).symm
  rw [matrix_count]
  by_cases same : target.properties.model = model
  · rw [if_pos same]
    cases owners : credit? r tally.matrix source.owner target.owner
        source.state.received.megabytes with
    | none =>
      have uncounted : ¬ r.Counts model source target := fun counts =>
        credit?_eq_none_iff.1 owners counts.2
      simpa [uncounted] using unchanged
    | some credited =>
      have counts : r.Counts model source target := by
        refine ⟨same, Decidable.not_not.1 fun missing => ?_⟩
        rw [credit?_eq_none_iff.2 missing] at owners
        cases owners
      dsimp only
      rw [amount?_creditRoots, amount?_of_credit? owners, Option.map_map,
        Stack.PortSpeed.toNat_megabytes]
      apply Option.map_congr
      intro n _
      rw [if_pos counts]
      -- both credits of the link were capped, the second on top of the first
      show min _ (min _ (n + ite _ source.bandwidth 0) + _) = _
      unfold Registry.share
      omega
  · have uncounted : ¬ r.Counts model source target := fun counts => same counts.1
    simpa [same, uncounted] using unchanged

/-! ## All links -/

/-- The share of a link that is given by positions. -/
def shareOf (r : Registry) (model : String) (ports : Array Port) (row column : ℕ) (link : Link) :
    ℕ :=
  match ports[link.source]?, ports[link.target]? with
  | some source, some target =>
    if r.Counts model source target then r.share row column source target else 0
  | _, _ => 0

/-- Messages apart, a link is counted between the two ports that it is about. -/
theorem value_countLink (ports : Array Port) (tally : LinkTally) (link : Link) :
    (countLink r model ports tally link).value =
      match ports[link.source]?, ports[link.target]? with
      | some source, some target => tally.count r model source target
      | _, _ => tally := by
  unfold countLink
  cases ports[link.source]? with
  | none => rfl
  | some source => cases ports[link.target]? <;> rfl

theorem amount?_countLink (ports : Array Port) (tally : LinkTally) (link : Link) :
    (countLink r model ports tally link).value.matrix.amount? row column =
      (tally.matrix.amount? row column).map fun n =>
        min Capped.top (n + shareOf r model ports row column link) := by
  rw [value_countLink]
  unfold shareOf
  split
  · exact amount?_count ..
  · exact (tally.matrix.map_min_amount? row column).symm

/-- **After any list of links a cell has the capped sum of their shares**, although the sum was
capped at every step. -/
theorem amount?_foldl_countLink (ports : Array Port) (links : List Link) (tally : LinkTally) :
    (links.foldl (fun tally link => (countLink r model ports tally link).value)
      tally).matrix.amount? row column =
        (tally.matrix.amount? row column).map fun n =>
          min Capped.top (n + (links.map (shareOf r model ports row column)).sum) := by
  induction links generalizing tally with
  | nil => exact (tally.matrix.map_min_amount? row column).symm
  | cons link links ih =>
    rw [List.foldl_cons, ih, amount?_countLink, Option.map_map, List.map_cons, List.sum_cons]
    apply Option.map_congr
    intro n _
    -- shares are not negative, so what was capped once stays capped
    dsimp only [Function.comp_apply]
    omega

/-- The shares of all links add up to the exact sum of the cell. -/
theorem sum_shareOf (r : Registry) (model : String) (ports : Array Port) (row column : ℕ) :
    ((Link.all ports).map (shareOf r model ports row column)).sum =
      r.linkTotal model ports row column := by
  rw [Link.sum_map_all]
  apply Finset.sum_congr rfl
  intro i _
  apply Finset.sum_congr rfl
  intro j _
  simp only [shareOf, getElem?_eq_portAt, ← and_assoc, ite_and]

/-- All links counted, starting from a matrix. -/
def ofLinks (r : Registry) (model : String) (ports : Array Port) (matrix : BandwidthMatrix) :
    LinkTally :=
  (Link.all ports).foldl (fun tally link => (countLink r model ports tally link).value) { matrix }

end LinkTally

/-! ## Local blocks -/

namespace BandwidthMatrix

variable {row column : ℕ} {value : UInt64}

/-- If each step of a loop either overwrites a cell with a value or leaves it alone, then so does
the loop. -/
theorem get?_foldl_overwrite {α : Type*} {step : BandwidthMatrix → α → BandwidthMatrix}
    {hits : α → Prop} [DecidablePred hits]
    (law : ∀ m a, (step m a).get? row column =
      if hits a then (m.get? row column).map fun _ => value else m.get? row column)
    (l : List α) (m : BandwidthMatrix) :
    (l.foldl step m).get? row column =
      if ∃ a ∈ l, hits a then (m.get? row column).map fun _ => value else m.get? row column := by
  induction l generalizing m with
  | nil => simp
  | cons a l ih =>
    rw [List.foldl_cons, ih, law]
    by_cases here : hits a
    · simp [here, Function.comp_def]
    · simp [here]

theorem size_foldl {α : Type*} {step : BandwidthMatrix → α → BandwidthMatrix}
    (law : ∀ m a, (step m a).size = m.size) (l : List α) (m : BandwidthMatrix) :
    (l.foldl step m).size = m.size := by
  induction l generalizing m with
  | nil => rfl
  | cons a l ih => rw [List.foldl_cons, ih, law]

/-- A block is written in the rows and columns of its places. -/
theorem get?_fill (b : LocalBlock) (m : BandwidthMatrix) :
    (b.fill m value).get? row column =
      if row ∈ b.places ∧ column ∈ b.places then (m.get? row column).map fun _ => value
      else m.get? row column := by
  have inRow : ∀ (m : BandwidthMatrix) (row' : ℕ),
      (b.places.foldl (fun m column' => m.set row' column' value) m).get? row column =
        if row' = row ∧ column ∈ b.places then (m.get? row column).map fun _ => value
        else m.get? row column := by
    intro m row'
    rw [get?_foldl_overwrite fun m column' => get?_set row' column' row column value]
    congr 1
    simp [and_comm]
  rw [LocalBlock.fill, get?_foldl_overwrite inRow]
  congr 1
  simp

@[simp] theorem size_fill (b : LocalBlock) (m : BandwidthMatrix) :
    (b.fill m value).size = m.size :=
  size_foldl (fun m _ => size_foldl (fun _ _ => size_modify ..) _ m) _ m

end BandwidthMatrix

/-- Two places lie in the same local block. -/
def Registry.SameBlock (r : Registry) (t : Topology) (row column : ℕ) : Prop :=
  ∃ b ∈ r.localBlocks t, row ∈ b.places ∧ column ∈ b.places

instance (r : Registry) (t : Topology) (row column : ℕ) : Decidable (r.SameBlock t row column) :=
  inferInstanceAs (Decidable (∃ b ∈ r.localBlocks t, _))

/-- The local bandwidth goes to the local blocks and nowhere else. -/
theorem BandwidthMatrix.get?_withLocal (m : BandwidthMatrix) (r : Registry) (t : Topology)
    (value : UInt64) (row column : ℕ) :
    (m.withLocal r t value).get? row column =
      if r.SameBlock t row column then (m.get? row column).map fun _ => value
      else m.get? row column :=
  get?_foldl_overwrite (fun m b => get?_fill b m) ..

@[simp] theorem BandwidthMatrix.size_withLocal (m : BandwidthMatrix) (r : Registry) (t : Topology)
    (value : UInt64) : (m.withLocal r t value).size = m.size :=
  size_foldl (fun m b => size_fill b m) ..

/-! ## The whole matrix -/

namespace LinkTally

variable {r : Registry} {model : String}

theorem size_creditRoots (m : BandwidthMatrix) (source target : Port) :
    (creditRoots r m source target).size = m.size := by
  unfold creditRoots
  split
  · rename_i sourceRoot targetRoot _ _
    cases h : credit? r m sourceRoot targetRoot source.state.received.megabytes with
    | none => rfl
    | some credited => exact size_of_credit? h
  · rfl

theorem size_count (tally : LinkTally) (source target : Port) :
    (tally.count r model source target).matrix.size = tally.matrix.size := by
  rw [matrix_count]
  split
  · split
    · rename_i credited h
      rw [size_creditRoots, size_of_credit? h]
    · rfl
  · rfl

theorem size_foldl_countLink (ports : Array Port) (links : List Link) (tally : LinkTally) :
    (links.foldl (fun tally link => (countLink r model ports tally link).value)
      tally).matrix.size = tally.matrix.size := by
  induction links generalizing tally with
  | nil => rfl
  | cons link links ih =>
    rw [List.foldl_cons, ih, value_countLink]
    split
    · exact size_count ..
    · rfl

/-- The cells after all links were counted, from a matrix of zeros on. -/
theorem amount?_ofLinks (model : String) (ports : Array Port) {zeros : BandwidthMatrix}
    (h : BandwidthMatrix.zeros r.size = .ok zeros) {row column : ℕ} (hr : row < r.size)
    (hc : column < r.size) :
    (ofLinks r model ports zeros).matrix.amount? row column =
      some (min Capped.top (r.linkTotal model ports row column)) := by
  rw [ofLinks, amount?_foldl_countLink, sum_shareOf, BandwidthMatrix.amount?_zeros h hr hc,
    Option.map_some, Nat.zero_add]

end LinkTally

/-- A matrix comes out if there are ports, the matrix of zeros fits, and some link was counted
fully; it is the sums with the local blocks written over them. -/
theorem value_aggregate_eq_some_iff {r : Registry} {ports : PortList} {t : Topology}
    {settings : Settings} {m : BandwidthMatrix} :
    (aggregate r ports t settings).value = some m ↔
      ports.ports.isEmpty = false ∧ ∃ zeros, BandwidthMatrix.zeros r.size = .ok zeros ∧
        (LinkTally.ofLinks r settings.linkModel ports.ports zeros).matched ≠ 0 ∧
        m = (LinkTally.ofLinks r settings.linkModel ports.ports zeros).matrix.withLocal r t
          settings.localBandwidth := by
  unfold aggregate
  cases ports.ports.isEmpty with
  | true => simp
  | false =>
    cases BandwidthMatrix.zeros r.size with
    | error e => simp
    | ok zeros =>
      simp only [Bool.false_eq_true, if_false, Logged.value_bind, Logged.value_foldlM, true_and,
        Except.ok.injEq, exists_eq_left']
      show (ite ((LinkTally.ofLinks ..).matched = 0) _ _ : Logged _).value = _ ↔ _
      split
      · rename_i uncounted
        simp [uncounted]
      · rename_i counted
        exact ⟨fun h => ⟨counted, (Option.some.inj h).symm⟩, fun h => congrArg some h.2.symm⟩

section Aggregated

variable {r : Registry} {ports : PortList} {t : Topology} {settings : Settings}
  {m : BandwidthMatrix} (h : (aggregate r ports t settings).value = some m)

include h

/-- A matrix has a row and a column for each registered object. -/
theorem size_of_aggregate : m.size = r.size := by
  obtain ⟨_, zeros, fits, _, rfl⟩ := value_aggregate_eq_some_iff.1 h
  rw [BandwidthMatrix.size_withLocal, LinkTally.ofLinks, LinkTally.size_foldl_countLink,
    BandwidthMatrix.size_zeros fits]

variable {row column : ℕ} (hr : row < r.size) (hc : column < r.size)

include hr hc

/-- In a local block nothing of the links is left. -/
theorem get?_of_sameBlock (same : r.SameBlock t row column) :
    m.get? row column = some settings.localBandwidth := by
  obtain ⟨_, zeros, fits, _, rfl⟩ := value_aggregate_eq_some_iff.1 h
  have sum := LinkTally.amount?_ofLinks settings.linkModel ports.ports fits hr hc
  obtain ⟨value, found, _⟩ := Option.map_eq_some_iff.1 sum
  rw [BandwidthMatrix.get?_withLocal, if_pos same, found, Option.map_some]

/-- Outside of the local blocks stands the sum of the links. -/
theorem amount?_of_not_sameBlock (other : ¬ r.SameBlock t row column) :
    m.amount? row column =
      some (min Capped.top (r.linkTotal settings.linkModel ports.ports row column)) := by
  obtain ⟨_, zeros, fits, _, rfl⟩ := value_aggregate_eq_some_iff.1 h
  rw [BandwidthMatrix.amount?, BandwidthMatrix.get?_withLocal, if_neg other]
  exact LinkTally.amount?_ofLinks settings.linkModel ports.ports fits hr hc

end Aggregated

/-- **The cell law.** A cell in a local block has the local bandwidth, whatever was added up there;
every other cell has the sum of the shares of all links, capped once. -/
theorem amount?_aggregate {r : Registry} {ports : PortList} {t : Topology} {settings : Settings}
    {m : BandwidthMatrix} (h : (aggregate r ports t settings).value = some m) :
    m.size = r.size ∧ ∀ row < r.size, ∀ column < r.size,
      (m.get? row column).map UInt64.toNat =
        some (if r.SameBlock t row column then settings.localBandwidth.toNat
          else min (2 ^ 64 - 1) (r.linkTotal settings.linkModel ports.ports row column)) := by
  refine ⟨size_of_aggregate h, fun row hr column hc => ?_⟩
  split
  · rename_i same
    rw [get?_of_sameBlock h hr hc same, Option.map_some]
  · rename_i other
    exact amount?_of_not_sameBlock h hr hc other

/-! ### Two devices with a subdevice each -/

/-- A healthy port of subdevice `owner` of device `root`, with this rate in bits per second. -/
def pairedPort (owner root : ℕ) (id remote : UInt8) (rate : Int64) : Port where
  owner := ⟨owner⟩
  root := some ⟨root⟩
  properties := ⟨"XeLink", true, 0, ⟨0, 0, id⟩⟩
  state := ⟨.healthy, ⟨0, 0, remote⟩, ⟨rate, 4⟩, ⟨rate, 4⟩⟩

/-- Two ports that claim each other; the rate of the second is unknown. -/
def pairedPorts : PortList where
  ports := #[pairedPort 2 1 0 1 4194304, pairedPort 4 3 1 0 (-1)]

/-- The two devices, each before its subdevice. -/
def pairedRegistry : Registry where
  nodes := [⟨1⟩, ⟨2⟩, ⟨3⟩, ⟨4⟩]

/-- Only the first device tells of its subdevice. -/
def pairedTopology : Topology where
  __ := Topology.initial
  objects := #[Topology.initial.machine,
    { kind := .osDevice, infos := InfoMap.empty.insert InfoKey.subdevices "1" }]
  rooted := by decide

theorem amount?_aggregate_paired :
    ∃ m, (aggregate pairedRegistry pairedPorts pairedTopology {}).value = some m ∧ m.size = 4 ∧
      (m.get? 1 3).map UInt64.toNat = some 4 ∧ (m.get? 0 2).map UInt64.toNat = some 4 ∧
      (m.get? 3 1).map UInt64.toNat = some 0 ∧ (m.get? 0 1).map UInt64.toNat = some 1000000 ∧
      (m.get? 2 3).map UInt64.toNat = some 0 := by
  have counted : (LinkTally.ofLinks pairedRegistry "XeLink" pairedPorts.ports
      ⟨4, .replicate 16 0, rfl⟩).matched ≠ 0 := by
    rw [LinkTally.ofLinks, Link.all_eq_scan]
    decide
  have h : (aggregate pairedRegistry pairedPorts pairedTopology {}).value = some _ :=
    value_aggregate_eq_some_iff.2 ⟨rfl, ⟨4, .replicate 16 0, rfl⟩, rfl, counted, rfl⟩
  obtain ⟨size, cells⟩ := amount?_aggregate h
  refine ⟨_, h, size, ?_, ?_, ?_, ?_, ?_⟩
  · rw [cells 1 (by decide) 3 (by decide)]
    decide +kernel
  · rw [cells 0 (by decide) 2 (by decide)]
    decide +kernel
  · rw [cells 3 (by decide) 1 (by decide)]
    decide +kernel
  · rw [cells 0 (by decide) 1 (by decide)]
    decide +kernel
  · rw [cells 2 (by decide) 3 (by decide)]
    decide +kernel

end DeviceAtlas
