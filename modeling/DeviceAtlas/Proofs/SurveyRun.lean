import DeviceAtlas.Proofs.Blocks
import DeviceAtlas.Proofs.Numerals

/-!
# What a survey leaves

The blocks of a survey follow each other without a gap, from the first free number on, and each of
them stays as it was when it entered the tree: later devices go under other objects.

* `Surveyed`: the invariant of a survey.
* `Surveyed.addBlock`: a device that is added keeps it.
* `surveyed_survey`: a whole survey has it, with a block for each device that can be identified.
-/

namespace DeviceAtlas

variable {H : Type} {stack : Stack H} {t : Topology} {s s' : Survey} {b : Block H}
  {blocks : List (Block H)}

/-! ## The blocks of some devices -/

/-- The blocks of devices that are added one after another, where the first free numbers of a device
and of an object are these. -/
def blocksFrom (stack : Stack H) : ℕ → ℕ → List (FoundDevice H) → List (Block H)
  | _, _, [] => []
  | number, start, d :: rest =>
    ⟨d, number, start⟩ ::
      blocksFrom stack (number + 1) (start + (1 + (d.subdevices stack).length)) rest

/-- The blocks of a survey that starts from a topology. -/
def surveyBlocks (stack : Stack H) (t : Topology) : List (Block H) :=
  blocksFrom stack 0 t.size (foundDevices stack)

theorem map_device_blocksFrom (number start : ℕ) (devices : List (FoundDevice H)) :
    (blocksFrom stack number start devices).map Block.device = devices := by
  induction devices generalizing number start with
  | nil => rfl
  | cons d rest ih => rw [blocksFrom, List.map_cons, ih]

/-- Devices are numbered in turn. -/
theorem map_number_blocksFrom (number start : ℕ) (devices : List (FoundDevice H)) :
    (blocksFrom stack number start devices).map Block.number =
      List.range' number devices.length := by
  induction devices generalizing number start with
  | nil => rfl
  | cons d rest ih => rw [blocksFrom, List.map_cons, ih, List.length_cons, List.range'_succ]

/-- The number of a block is its place. -/
theorem number_surveyBlocks {j : ℕ} (h : (surveyBlocks stack t)[j]? = some b) : b.number = j := by
  have numbers : (surveyBlocks stack t).map Block.number =
      List.range' 0 (foundDevices stack).length := map_number_blocksFrom ..
  have here := congrArg (·[j]?) numbers
  simp only [List.getElem?_map, h, Option.map_some] at here
  obtain ⟨_, counted⟩ := List.getElem?_eq_some_iff.1 here.symm
  rw [List.getElem_range'] at counted
  omega

/-- A block is known by its number. -/
theorem eq_of_number_eq {b' : Block H} (h : b ∈ surveyBlocks stack t)
    (h' : b' ∈ surveyBlocks stack t) (same : b.number = b'.number) : b = b' := by
  obtain ⟨i, hi⟩ := List.mem_iff_getElem?.1 h
  obtain ⟨j, hj⟩ := List.mem_iff_getElem?.1 h'
  rw [number_surveyBlocks hi, number_surveyBlocks hj] at same
  rw [same, hj] at hi
  exact (Option.some.inj hi).symm

/-! ## Guests -/

/-- The blocks of devices that go under an object. -/
def guests (stack : Stack H) (t : Topology) (blocks : List (Block H)) (id : ObjectId) :
    List (Block H) :=
  blocks.filter fun b => (b.device.site stack t).parent = id

/-- The last bandwidth that is known of the links over which devices go under an object. -/
def lastBandwidth? (stack : Stack H) (t : Topology) (blocks : List (Block H)) (id : ObjectId) :
    Option UInt64 :=
  ((guests stack t blocks id).filterMap fun b => (b.device.site stack t).bandwidth).getLast?

/-- What becomes of an object, of this number, when devices go to their sites. -/
def Object.asHost (stack : Stack H) (t : Topology) (blocks : List (Block H)) (id : ObjectId)
    (o : Object) : Object :=
  o.hosting ((guests stack t blocks id).map Block.root) (lastBandwidth? stack t blocks id)

section Concat

variable (stack t blocks b) (id : ObjectId)

theorem guests_concat :
    guests stack t (blocks ++ [b]) id =
      guests stack t blocks id ++ if (b.device.site stack t).parent = id then [b] else [] := by
  rw [guests, List.filter_append, List.filter_singleton]
  by_cases here : (b.device.site stack t).parent = id
  · rw [decide_eq_true here, if_pos here]
    rfl
  · rw [decide_eq_false here, if_neg here]
    rfl

theorem lastBandwidth?_concat :
    lastBandwidth? stack t (blocks ++ [b]) id =
      if (b.device.site stack t).parent = id then
        (b.device.site stack t).bandwidth.or (lastBandwidth? stack t blocks id)
      else lastBandwidth? stack t blocks id := by
  rw [lastBandwidth?, guests_concat, List.filterMap_append, List.getLast?_append]
  split
  · cases known : (b.device.site stack t).bandwidth <;> simp [known, lastBandwidth?]
  · rfl

theorem Object.asHost_nil (o : Object) : o.asHost stack t [] id = o := o.hosting_nil

theorem Object.asHost_concat (o : Object) :
    o.asHost stack t (blocks ++ [b]) id =
      if id = (b.device.site stack t).parent then
        (o.asHost stack t blocks id).hosting [b.root] (b.device.site stack t).bandwidth
      else o.asHost stack t blocks id := by
  unfold asHost
  rw [guests_concat, lastBandwidth?_concat]
  by_cases here : id = (b.device.site stack t).parent
  · rw [if_pos here, if_pos here.symm, if_pos here.symm, hosting_hosting, List.map_append,
      List.map_singleton]
  · rw [if_neg here, if_neg (Ne.symm here), if_neg (Ne.symm here), List.append_nil]

end Concat

/-! ## The invariant -/

/-- What a survey that started from a topology has, if it has come to these blocks. -/
structure Surveyed (stack : Stack H) (t : Topology) (s : Survey) (blocks : List (Block H)) :
    Prop where
  context : s.topology.context = t.context
  size : s.topology.size = t.size + s.added
  registry : s.registry = blocks.foldl (fun r b => b.register stack r) .empty
  scanned : s.ports = blocks.foldl (fun ports b => b.scan stack t.options ports) .empty
  leads : t.SameLeads s.topology
  /-- Devices went to their sites. -/
  root : ∀ b ∈ blocks, s.topology.object? b.root =
    some ((b.device.rootObject stack b.number b.start).settled (b.device.site stack t).parent
      (b.parts stack))
  /-- Objects that were there stay as they were, but for devices that went under them. -/
  old : ∀ id : ObjectId, id.index < t.size →
    s.topology.object? id = (t.object? id).map (Object.asHost stack t blocks id)
  nodes : s.registry.nodes = blocks.flatMap (·.nodes stack)
  numbered : s.registry.nodes = (List.range' t.size s.added).map ObjectId.mk
  named : s.named = blocks.length
  settled : ∀ b ∈ blocks, b.Settled stack s.topology
  ports : ∀ port ∈ s.ports.ports, ∃ b ∈ blocks,
    port.IsKept stack b.device.managed b.root (b.table stack)

namespace Surveyed

/-- Before any device. -/
theorem start (stack : Stack H) (t : Topology) : Surveyed stack t { topology := t } [] where
  context := rfl
  size := rfl
  registry := rfl
  scanned := rfl
  leads := .refl t
  root b listed := absurd listed List.not_mem_nil
  old id _ := by
    rw [funext (Object.asHost_nil stack t id)]
    exact Option.map_id'.symm
  nodes := rfl
  numbered := rfl
  named := rfl
  settled b listed := absurd listed List.not_mem_nil
  ports port listed := by simp [PortList.empty] at listed

theorem mem_nodes_iff (h : Surveyed stack t s blocks) {id : ObjectId} :
    id ∈ s.registry.nodes ↔ t.size ≤ id.index ∧ id.index < s.topology.size := by
  rw [h.numbered, h.size, List.mem_map]
  constructor
  · rintro ⟨i, listed, rfl⟩
    exact List.mem_range'_1.1 listed
  · intro within
    exact ⟨id.index, List.mem_range'_1.2 within, rfl⟩

theorem mem_nodes_of_mem (h : Surveyed stack t s blocks) (listed : b ∈ blocks) {id : ObjectId}
    (own : id ∈ b.nodes stack) : id ∈ s.registry.nodes := by
  rw [h.nodes]
  exact List.mem_flatMap.2 ⟨b, listed, own⟩

theorem nodup (h : Surveyed stack t s blocks) : s.registry.nodes.Nodup := by
  have numbers : (List.range' t.size s.added).Nodup := List.nodup_range'
  rw [h.numbered]
  exact numbers.map fun i j same => ObjectId.mk.inj same

/-- New objects are not the root of the tree. -/
theorem ne_root_of_mem (h : Surveyed stack t s blocks) {id : ObjectId}
    (listed : id ∈ s.registry.nodes) : id ≠ Topology.root := by
  rintro rfl
  exact absurd (h.mem_nodes_iff.1 listed).1 (Nat.not_le.2 t.rooted)

end Surveyed

/-- A block stays as it is if devices do. -/
theorem Block.Settled.of_devices {t t' : Topology} (h : b.Settled stack t)
    (below : ∀ id ∈ b.nodes stack, id ≠ Topology.root)
    (same : ∀ id ≠ Topology.root, ∀ o, t.object? id = some o → o.kind = .osDevice →
      t'.object? id = some o) : b.Settled stack t' where
  root := by
    obtain ⟨parent, found⟩ := h.root
    exact ⟨parent, same _ (below _ List.mem_cons_self) _ found rfl⟩
  part i f hf := by
    have listed := b.getElem?_parts stack (List.getElem?_eq_some_iff.1 hf).1
    have own : (⟨b.start + 1 + i⟩ : ObjectId) ∈ b.nodes stack :=
      List.mem_cons_of_mem _ (List.mem_of_getElem? listed)
    exact same _ (below _ own) _ (h.part i f hf) rfl

/-- **The invariant is kept by each addition.** -/
theorem Surveyed.addBlock (h : Surveyed stack t s blocks) (next : AddedBlock stack s s' b)
    (start : b.start = s.topology.size) : Surveyed stack t s' (blocks ++ [b]) where
  context := next.context.trans h.context
  size := by rw [next.size, next.added, h.size, Nat.add_assoc]
  registry := by rw [next.registry, h.registry, List.foldl_concat]
  scanned := by
    have options : s.topology.options = t.options := congrArg (·.2.1) h.context
    rw [next.ports, options, h.scanned, List.foldl_concat]
  leads := h.leads.trans next.leads
  root := by
    have site : b.device.site stack s.topology = b.device.site stack t := h.leads.siteOf_eq _
    intro b' listed
    rcases List.mem_append.1 listed with old | new
    · have own : b'.root ∈ s.registry.nodes := h.mem_nodes_of_mem old List.mem_cons_self
      exact next.devices (h.ne_root_of_mem own) (h.root b' old) rfl
    · rw [List.mem_singleton.1 new, next.root, site]
  old id within := by
    have site : b.device.site stack s.topology = b.device.site stack t := h.leads.siteOf_eq _
    have before : id.index < s.topology.size := Nat.lt_of_lt_of_le within h.leads.size_le
    rw [next.old id before, h.old id within, Option.map_map, site]
    exact Option.map_congr fun o _ => (Object.asHost_concat stack t b blocks id o).symm
  nodes := by
    rw [next.nodes, h.nodes, List.flatMap_append, List.flatMap_singleton]
  numbered := by
    rw [next.nodes, next.added, Block.length_nodes, h.numbered, Block.nodes_eq, ← List.map_append,
      start, h.size, List.range'_append_1]
  named := by rw [next.named, h.named, List.length_append, List.length_singleton]
  settled := by
    intro b' listed
    rcases List.mem_append.1 listed with old | new
    · -- the objects of old blocks are devices, which no other device goes under
      refine (h.settled b' old).of_devices (fun id own => ?_) fun _ below _ => next.devices below
      exact h.ne_root_of_mem (h.mem_nodes_of_mem old own)
    · rw [List.mem_singleton.1 new]
      exact next.settled
  ports := by
    intro port listed
    obtain ⟨new, ports, kept⟩ := b.exists_scan stack s.topology.options s.ports
    rw [← Array.mem_toList_iff, next.ports, ports] at listed
    rcases List.mem_append.1 listed with old | fresh
    · obtain ⟨b', listed', kept'⟩ := h.ports port (Array.mem_toList_iff.1 old)
      exact ⟨b', List.mem_append_left _ listed', kept'⟩
    · exact ⟨b, List.mem_append_right _ (List.mem_singleton_self b), kept port fresh⟩

/-- A run over devices goes on with their blocks. -/
theorem Surveyed.foldl_addFound (h : Surveyed stack t s blocks) (devices : List (FoundDevice H)) :
    Surveyed stack t (devices.foldl (Survey.addFound stack) s)
      (blocks ++ blocksFrom stack s.named s.topology.size devices) := by
  induction devices generalizing s blocks with
  | nil => simpa [blocksFrom] using h
  | cons d rest ih =>
    have next := addedBlock_addFound stack s d
    have later := ih (h.addBlock next rfl)
    rw [next.named, next.size, Block.length_nodes, List.append_assoc] at later
    exact later

/-- **A survey makes a block of each device that can be identified.** -/
theorem surveyed_survey (stack : Stack H) (t : Topology) (settings : Settings) :
    Surveyed stack t (survey stack t settings).value (surveyBlocks stack t) := by
  rw [value_survey]
  exact (Surveyed.start stack t).foldl_addFound (foundDevices stack)

end DeviceAtlas
