import DeviceAtlas.Proofs.PassFrame
import Mathlib.Data.List.Forall2

/-!
# Two passes side by side

Two driver stacks may differ in their answers and still show devices that are alike: these go to the
same sites, have the same subdevices and ports, and differ at most in infos under some keys. If no
subdevices are counted under these keys, passes over such stacks come to the same matrix and to the
same tree, in which objects differ at most under these keys.

* `Object.SameBut`: two objects differ at most in infos under some keys.
* `FoundDevice.Alike`: two devices of two driver stacks are alike.
* `Surveyed.alike`: surveys that made alike blocks are alike.
* `alike_discover`: what passes over alike stacks have in common.
-/

namespace DeviceAtlas

variable {H : Type} {a b : Stack H} {keys : String → Prop} {t : Topology}

/-! ## Related lists -/

section Related

variable {α β γ : Type*} {R : α → β → Prop} {l : List α} {l' : List β}

theorem exists_related_of_mem (h : List.Forall₂ R l l') {x : α} (listed : x ∈ l) :
    ∃ y ∈ l', R x y := by
  induction h with
  | nil => cases listed
  | @cons _ y' _ _ related _ ih =>
    rcases List.mem_cons.1 listed with rfl | listed
    · exact ⟨y', List.mem_cons_self, related⟩
    · obtain ⟨y, found, related⟩ := ih listed
      exact ⟨y, List.mem_cons_of_mem _ found, related⟩

theorem related_getElem? (h : List.Forall₂ R l l') {i : ℕ} {x : α} {y : β} (hx : l[i]? = some x)
    (hy : l'[i]? = some y) : R x y := by
  obtain ⟨within, rfl⟩ := List.getElem?_eq_some_iff.1 hx
  obtain ⟨within', rfl⟩ := List.getElem?_eq_some_iff.1 hy
  exact h.get within within'

/-- Related lists have the same values if related items do. -/
theorem map_eq_of_forall₂ (h : List.Forall₂ R l l') {f : α → γ} {g : β → γ}
    (same : ∀ x y, R x y → g y = f x) : l'.map g = l.map f := by
  induction h with
  | nil => rfl
  | cons related _ ih => rw [List.map_cons, List.map_cons, same _ _ related, ih]

/-- Runs over related lists come to the same if they take the same steps. -/
theorem foldl_eq_of_forall₂ (h : List.Forall₂ R l l') {f : γ → α → γ} {g : γ → β → γ}
    (same : ∀ c x y, R x y → g c y = f c x) (c : γ) : l'.foldl g c = l.foldl f c := by
  induction h generalizing c with
  | nil => rfl
  | cons related _ ih => rw [List.foldl_cons, List.foldl_cons, same _ _ _ related, ih]

theorem forall₂_flatMap_same {l : List γ} {f : γ → List α} {g : γ → List β}
    (h : ∀ x ∈ l, List.Forall₂ R (f x) (g x)) :
    List.Forall₂ R (l.flatMap f) (l.flatMap g) := by
  induction l with
  | nil => exact .nil
  | cons x rest ih =>
    rw [List.flatMap_cons, List.flatMap_cons]
    exact List.rel_append (h x List.mem_cons_self)
      (ih fun y listed => h y (List.mem_cons_of_mem x listed))

theorem forall₂_filterMap_same {l : List γ} {f : γ → Option α} {g : γ → Option β}
    (h : ∀ x ∈ l, Option.Rel R (f x) (g x)) :
    List.Forall₂ R (l.filterMap f) (l.filterMap g) := by
  have same : List.Forall₂ (fun x y => Option.Rel R (f x) (g y)) l l := List.forall₂_same.2 h
  exact List.rel_filterMap (fun _ _ related => related) same

end Related

/-! ## Objects -/

/-- Two objects differ at most in infos under some keys. -/
structure Object.SameBut (keys : String → Prop) (o o' : Object) : Prop where
  rest : o' = { o with infos := o'.infos }
  info? : ∀ key, ¬ keys key → o'.info? key = o.info? key

namespace Object

variable {o o' : Object}

theorem SameBut.refl (o : Object) : o.SameBut keys o := ⟨rfl, fun _ _ => rfl⟩

theorem SameBut.settled (h : o.SameBut keys o') (parent : ObjectId) (subdevices : List ObjectId) :
    (o.settled parent subdevices).SameBut keys (o'.settled parent subdevices) where
  rest := by
    rw [h.rest]
    rfl
  info? key other := by
    rw [info?_settled, info?_settled, h.info? key other]

theorem SameBut.setParent (h : o.SameBut keys o') (parent : ObjectId) :
    SameBut keys { o with parent := some parent } { o' with parent := some parent } where
  rest := by
    rw [h.rest]
  info? := h.info?

/-- Objects that differ at most under one key are the same if they have the same there. -/
theorem SameBut.eq_of_info? {key : String} (h : o.SameBut (· = key) o')
    (same : o'.info? key = o.info? key) : o' = o := by
  have infos : o'.infos = o.infos := by
    refine InfoMap.ext_get? fun other => ?_
    by_cases here : other = key
    · rw [here]
      exact same
    · exact h.info? other here
  rw [h.rest, infos]

/-- What differs at most under one key is told by what stands there. -/
theorem SameBut.eq_insert {key value : String} (h : o.SameBut (· = key) o')
    (there : o'.info? key = some value) :
    o' = { o with infos := o.infos.insert key value } := by
  have info : ∀ other, Object.info? { o with infos := o.infos.insert key value } other =
      if other = key then some value else o.info? other := o.infos.get?_insert key value
  have written : SameBut (· = key) { o with infos := o.infos.insert key value } o' :=
    ⟨h.rest, fun other ne => by rw [h.info? other ne, info, if_neg ne]⟩
  exact written.eq_of_info? (by rw [there, info, if_pos rfl])

end Object

/-! ## Devices -/

/-- Two devices of two driver stacks are alike. -/
structure FoundDevice.Alike (a b : Stack H) (keys : String → Prop) (d e : FoundDevice H) :
    Prop where
  site : ∀ t, e.site b t = d.site a t
  table : ∀ start, e.table b start = d.table a start
  ports : ∀ root table ports, (scanPorts b e.managed root table ports {}).value.1 =
    (scanPorts a d.managed root table ports {}).value.1
  root : ∀ number start, (d.rootObject a number start).SameBut keys (e.rootObject b number start)
  part : ∀ number start i f g, (d.subdevices a)[i]? = some f → (e.subdevices b)[i]? = some g →
    (d.partObject a number start i f).SameBut keys (e.partObject b number start i g)

/-- Two blocks have the same numbers, and their devices are related. -/
structure Block.Related (R : FoundDevice H → FoundDevice H → Prop) (x y : Block H) : Prop where
  number : y.number = x.number
  start : y.start = x.start
  device : R x.device y.device

/-- Two blocks are alike: they have the same numbers, and their devices are alike. -/
abbrev Block.Alike (a b : Stack H) (keys : String → Prop) : Block H → Block H → Prop :=
  Block.Related (FoundDevice.Alike a b keys)

theorem Block.Related.imp {R S : FoundDevice H → FoundDevice H → Prop} {x y : Block H}
    (h : Block.Related R x y) (sub : ∀ d e, R d e → S d e) : Block.Related S x y :=
  ⟨h.number, h.start, sub _ _ h.device⟩

namespace Block.Alike

variable {x y : Block H} (h : x.Alike a b keys y)

include h

theorem root : y.root = x.root := congrArg ObjectId.mk h.start

theorem table : y.table b = x.table a := by
  rw [Block.table, h.start, h.device.table]
  rfl

theorem parts : y.parts b = x.parts a := by
  rw [← y.filterMap_table b, h.table, x.filterMap_table a]

theorem nodes : y.nodes b = x.nodes a := by rw [Block.nodes, h.root, h.parts, Block.nodes]

theorem register (r : Registry) : y.register b r = x.register a r := by
  rw [Block.register, h.root, h.parts, Block.register]

theorem scan (options : TopologyOptions) (ports : PortList) :
    y.scan b options ports = x.scan a options ports := by
  rw [Block.scan, h.root, h.table, h.device.ports, Block.scan]

end Block.Alike

/-- Alike devices have equally many subdevices. -/
theorem FoundDevice.Alike.length_subdevices {d e : FoundDevice H} (h : d.Alike a b keys e) :
    (e.subdevices b).length = (d.subdevices a).length := by
  let x : Block H := ⟨d, 0, 0⟩
  let y : Block H := ⟨e, 0, 0⟩
  have alike : x.Alike a b keys y := ⟨rfl, rfl, h⟩
  rw [← y.length_parts b, alike.parts, x.length_parts a]

section Blocks

variable {R : FoundDevice H → FoundDevice H → Prop}
  (alike : ∀ d e, R d e → FoundDevice.Alike a b keys d e)

include alike

/-- Related devices have related blocks, if they are alike. -/
theorem forall₂_blocksFrom {ds es : List (FoundDevice H)} (h : List.Forall₂ R ds es)
    (number start : ℕ) :
    List.Forall₂ (Block.Related R) (blocksFrom a number start ds)
      (blocksFrom b number start es) := by
  induction h generalizing number start with
  | nil => exact .nil
  | cons related _ ih =>
    rw [blocksFrom, blocksFrom, (alike _ _ related).length_subdevices]
    exact .cons ⟨rfl, rfl, related⟩ (ih ..)

/-- Stacks that start alike and show related devices have related blocks. -/
theorem forall₂_passBlocks (start : b.start = a.start)
    (startManagement : b.startManagement = a.startManagement)
    (devices : List.Forall₂ R (foundDevices a) (foundDevices b)) (t : Topology) :
    List.Forall₂ (Block.Related R) (passBlocks a t) (passBlocks b t) := by
  unfold passBlocks
  rw [start, startManagement]
  split
  · exact .nil
  · split
    · exact forall₂_blocksFrom alike devices 0 t.size
    · exact .nil

end Blocks

/-! ## Surveys -/

/-- Hosts of alike blocks become the same. -/
theorem asHost_eq_of_forall₂ {xs ys : List (Block H)}
    (h : List.Forall₂ (Block.Alike a b keys) xs ys) (t : Topology) (id : ObjectId) :
    Object.asHost b t ys id = Object.asHost a t xs id := by
  have related : List.Forall₂ (Block.Alike a b keys) (guests a t xs id) (guests b t ys id) := by
    refine List.rel_filter ?_ h
    intro x y alike
    simp only [alike.device.site, decide_eq_true_eq]
  have roots : (guests b t ys id).map Block.root = (guests a t xs id).map Block.root :=
    map_eq_of_forall₂ related fun _ _ alike => alike.root
  have bandwidths : (guests b t ys id).map (fun y => (y.device.site b t).bandwidth) =
      (guests a t xs id).map fun x => (x.device.site a t).bandwidth :=
    map_eq_of_forall₂ related fun _ _ alike => congrArg Site.bandwidth (alike.device.site t)
  have last : ∀ (stack : Stack H) (blocks : List (Block H)), lastBandwidth? stack t blocks id =
      (((guests stack t blocks id).map fun x => (x.device.site stack t).bandwidth).filterMap
        fun bandwidth => bandwidth).getLast? := fun stack blocks => by
    rw [List.filterMap_map]
    rfl
  funext o
  unfold Object.asHost
  rw [roots, last, bandwidths, ← last]

/-- What two surveys have in common that made alike blocks from one topology. -/
structure Survey.Alike (keys : String → Prop) (x y : Survey) : Prop where
  registry : y.registry = x.registry
  ports : y.ports = x.ports
  added : y.added = x.added
  context : y.topology.context = x.topology.context
  size : y.topology.size = x.topology.size
  objects : ∀ id o, x.topology.object? id = some o →
    ∃ o', y.topology.object? id = some o' ∧ o.SameBut keys o'

section Surveyed

variable {x y : Survey} {xs ys : List (Block H)}

/-- Objects that were there become the same. -/
theorem Surveyed.object?_eq_of_forall₂ (hx : Surveyed a t x xs) (hy : Surveyed b t y ys)
    (h : List.Forall₂ (Block.Alike a b keys) xs ys) {id : ObjectId} (old : id.index < t.size) :
    y.topology.object? id = x.topology.object? id := by
  rw [hy.old id old, hx.old id old, asHost_eq_of_forall₂ h]

/-- Objects of alike blocks differ at most under the keys. -/
theorem Surveyed.sameBut_of_alike (hx : Surveyed a t x xs) (hy : Surveyed b t y ys)
    {v w : Block H} (hv : v ∈ xs) (hw : w ∈ ys) (alike : v.Alike a b keys w) {id : ObjectId}
    (own : id ∈ v.nodes a) :
    ∃ o o', x.topology.object? id = some o ∧ y.topology.object? id = some o' ∧
      o.SameBut keys o' := by
  rcases Block.mem_nodes_cases own with rfl | ⟨i, f, hf, here⟩
  · refine ⟨_, _, hx.root v hv, alike.root ▸ hy.root w hw, ?_⟩
    rw [alike.device.site, alike.parts, alike.number, alike.start]
    exact (alike.device.root v.number v.start).settled ..
  · have within := (List.getElem?_eq_some_iff.1 hf).1
    rw [← alike.device.length_subdevices] at within
    have hg := List.getElem?_eq_getElem within
    have same : id = ⟨v.start + 1 + i⟩ := by
      rw [v.getElem?_parts a (List.getElem?_eq_some_iff.1 hf).1] at here
      exact (Option.some.inj here).symm
    have second := (hy.settled w hw).part i _ hg
    rw [alike.start, alike.number, alike.root] at second
    rw [same]
    exact ⟨_, _, (hx.settled v hv).part i f hf, second,
      (alike.device.part v.number v.start i _ _ hf hg).setParent _⟩

/-- **Surveys that made alike blocks are alike.** -/
theorem Surveyed.alike (hx : Surveyed a t x xs) (hy : Surveyed b t y ys)
    (h : List.Forall₂ (Block.Alike a b keys) xs ys) : x.Alike keys y := by
  have registry : y.registry = x.registry := by
    rw [hy.registry, hx.registry]
    exact foldl_eq_of_forall₂ h (fun r _ _ alike => alike.register r) _
  have added : y.added = x.added := by
    have nodes := hy.numbered.symm.trans ((congrArg Registry.nodes registry).trans hx.numbered)
    simpa using congrArg List.length nodes
  have size : y.topology.size = x.topology.size := by rw [hy.size, hx.size, added]
  refine ⟨registry, ?_, added, hy.context.trans hx.context.symm, size, fun id o found => ?_⟩
  · rw [hy.scanned, hx.scanned]
    exact foldl_eq_of_forall₂ h (fun ports _ _ alike => alike.scan t.options ports) _
  · by_cases old : id.index < t.size
    · exact ⟨o, (hx.object?_eq_of_forall₂ hy h old).trans found, .refl o⟩
    · have within := (x.topology.object?_isSome_iff id).1 (Option.isSome_of_eq_some found)
      have new := hx.mem_nodes_iff.2 ⟨Nat.not_lt.1 old, within⟩
      rw [hx.nodes] at new
      obtain ⟨v, hv, own⟩ := List.mem_flatMap.1 new
      obtain ⟨w, hw, alike⟩ := exists_related_of_mem h hv
      obtain ⟨o₁, o', first, second, same⟩ := hx.sameBut_of_alike hy hv hw alike own
      rw [found] at first
      cases first
      exact ⟨o', second, same⟩

end Surveyed

/-! ## Matrices -/

namespace Survey.Alike

variable {x y : Survey} (h : x.Alike keys y)

include h

/-- Alike surveys have the same objects. -/
theorem object?_eq_none {id : ObjectId} (unknown : x.topology.object? id = none) :
    y.topology.object? id = none :=
  Topology.object?_eq_none_iff.2 (h.size ▸ Topology.object?_eq_none_iff.1 unknown)

/-- Alike surveys have the same infos, but for those under the keys. -/
theorem info?_eq {key : String} (other : ¬ keys key) (id : ObjectId) :
    y.topology.info? id key = x.topology.info? id key := by
  rw [Topology.info?, Topology.info?]
  cases found : x.topology.object? id with
  | none => rw [h.object?_eq_none found]
  | some o =>
    obtain ⟨o', found', same⟩ := h.objects id o found
    rw [found', Option.bind_some, Option.bind_some, same.info? key other]

/-- If subdevices are not counted under the keys, the same matrix comes out. -/
theorem matrix?_eq (counted : ¬ keys InfoKey.subdevices) (settings : Settings) :
    y.matrix? settings = x.matrix? settings := by
  have counts : y.topology.subdeviceCount = x.topology.subdeviceCount := by
    funext id
    rw [Topology.subdeviceCount, h.info?_eq counted, Topology.subdeviceCount]
  unfold Survey.matrix? aggregate BandwidthMatrix.withLocal Registry.localBlocks
  rw [h.registry, h.ports, counts]

theorem outcome_eq (counted : ¬ keys InfoKey.subdevices) (settings : Settings) :
    y.outcome settings = x.outcome settings := by
  unfold Survey.outcome Survey.publication
  rw [h.added, h.ports, h.registry, h.matrix?_eq counted]

theorem stored_eq (counted : ¬ keys InfoKey.subdevices) (settings : Settings) :
    y.stored settings = x.stored settings := by
  unfold Survey.stored
  rw [h.registry, h.matrix?_eq counted]

theorem topologyInfos_eq : y.topologyInfos = x.topologyInfos := by
  have infos : y.topology.infos = x.topology.infos := congrArg (·.2.2.1) h.context
  unfold Survey.topologyInfos
  rw [h.added, infos]

omit h

variable {key : String} {id : ObjectId}

/-- Objects that differ at most under one key are the same if they have the same there. -/
theorem object?_eq (h : x.Alike (· = key) y)
    (same : y.topology.info? id key = x.topology.info? id key) :
    y.topology.object? id = x.topology.object? id := by
  cases found : x.topology.object? id with
  | none => exact h.object?_eq_none found
  | some o =>
    obtain ⟨o', found', but⟩ := h.objects id o found
    rw [Topology.info?, Topology.info?, found, found'] at same
    rw [found', but.eq_of_info? same]

/-- Objects that differ at most under one key are told by what stands there. -/
theorem object?_eq_insert {value : String} (h : x.Alike (· = key) y)
    (there : y.topology.info? id key = some value) :
    y.topology.object? id = (x.topology.object? id).map fun o =>
      { o with infos := o.infos.insert key value } := by
  cases found : x.topology.object? id with
  | none => exact h.object?_eq_none found
  | some o =>
    obtain ⟨o', found', but⟩ := h.objects id o found
    rw [Topology.info?, found'] at there
    rw [found', but.eq_insert there]
    rfl

end Survey.Alike

/-! ## Passes -/

/-- **What passes over alike stacks have in common.** They tell the same, and come to topologies
with the same filters, options, infos and matrices and with the same objects, which differ at most
in infos under the keys; those that were there before do not differ. -/
theorem alike_discover (start : b.start = a.start)
    (startManagement : b.startManagement = a.startManagement)
    (devices : List.Forall₂ (FoundDevice.Alike a b keys) (foundDevices a) (foundDevices b))
    (counted : ¬ keys InfoKey.subdevices) (t : Topology) (settings : Settings) :
    let x := (discover a t settings).value
    let y := (discover b t settings).value
    y.2 = x.2 ∧ y.1.filter = x.1.filter ∧ y.1.options = x.1.options ∧ y.1.infos = x.1.infos ∧
      y.1.distances = x.1.distances ∧ y.1.size = x.1.size ∧
      (∀ id : ObjectId, id.index < t.size → y.1.object? id = x.1.object? id) ∧
      ∀ id o, x.1.object? id = some o → ∃ o', y.1.object? id = some o' ∧ o.SameBut keys o' := by
  have hx := surveyed_passSurvey a t
  have hy := surveyed_passSurvey b t
  have blocks := forall₂_passBlocks (fun _ _ => id) start startManagement devices t
  have alike := hx.alike hy blocks
  dsimp only
  rw [value_discover_eq, value_discover_eq]
  exact ⟨alike.outcome_eq counted settings, congrArg (·.1) alike.context,
    congrArg (·.2.1) alike.context, alike.topologyInfos_eq,
    congrArg (t.distances ++ ·) (alike.stored_eq counted settings), alike.size,
    fun _ => hx.object?_eq_of_forall₂ hy blocks, alike.objects⟩

end DeviceAtlas
