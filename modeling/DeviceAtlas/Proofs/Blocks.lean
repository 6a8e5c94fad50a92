import DeviceAtlas.Proofs.Advisories
import DeviceAtlas.Proofs.Description
import DeviceAtlas.Proofs.Entry
import DeviceAtlas.Proofs.PortOwners
import Mathlib.Data.List.Nodup

/-!
# One block for each device

A survey meets the devices of a stack in the order of the drivers and, within a driver, of its
listing. Each device that can be identified becomes a block of new objects: one for the device, and
then one for each of its subdevices that can be identified.

* `getElem?_driverPairs_eq_some_iff`: drivers are met in the places of the two listings.
* `value_survey`: a survey adds the devices that can be identified, one after another.
* `exists_addFoundIfGranted`: what the addition of a device does, all of it, as far as memory has
  room for the registry.
* `addedBlock_addFound`: a device that is added becomes a block of new objects.
-/

namespace DeviceAtlas

variable {H : Type}

/-! ## The drivers of a stack -/

/-- A stack has these drivers on its two sides, in their order and as many on either side. -/
structure Stack.ListsDrivers (stack : Stack H) (drivers managementDrivers : List H) : Prop where
  drivers_eq : stack.drivers = .ok drivers
  managementDrivers_eq : stack.managementDrivers = .ok managementDrivers
  length_eq : managementDrivers.length = drivers.length

/-- The drivers of the two sides that stand in the same place, in the order of the listings. There
are none if one of the sides does not list its drivers, or if their numbers differ. -/
def Stack.driverPairs (stack : Stack H) : List (H × H) :=
  match stack.drivers, stack.managementDrivers with
  | .ok drivers, .ok managementDrivers =>
    if managementDrivers.length = drivers.length then drivers.zip managementDrivers else []
  | _, _ => []

/-- A driver stands in a place of the listing of the core side, and a driver in the same place of
the listing of the management side. -/
def Stack.IsDriver (stack : Stack H) (index : ℕ) (driver managementDriver : H) : Prop :=
  ∃ drivers managementDrivers, stack.ListsDrivers drivers managementDrivers ∧
    drivers[index]? = some driver ∧ managementDrivers[index]? = some managementDriver

/-- A place has one pair of drivers. -/
theorem Stack.IsDriver.unique {stack : Stack H} {index : ℕ}
    {driver driver' managementDriver managementDriver' : H}
    (h : stack.IsDriver index driver managementDriver)
    (h' : stack.IsDriver index driver' managementDriver') :
    driver = driver' ∧ managementDriver = managementDriver' := by
  obtain ⟨drivers, managementDrivers, listed, here, there⟩ := h
  obtain ⟨drivers', managementDrivers', listed', here', there'⟩ := h'
  obtain rfl := Except.ok.inj (listed.drivers_eq.symm.trans listed'.drivers_eq)
  obtain rfl :=
    Except.ok.inj (listed.managementDrivers_eq.symm.trans listed'.managementDrivers_eq)
  exact ⟨Option.some.inj (here.symm.trans here'), Option.some.inj (there.symm.trans there')⟩

/-- A survey goes through the pairs of drivers. -/
theorem value_pairDrivers (stack : Stack H) (settings : Settings) :
    (pairDrivers stack settings).value = stack.driverPairs := by
  unfold pairDrivers Stack.driverPairs
  cases stack.drivers with
  | error fault => rfl
  | ok drivers =>
    cases stack.managementDrivers with
    | error fault => rfl
    | ok managementDrivers =>
      dsimp only
      by_cases same : managementDrivers.length = drivers.length
      · rw [if_neg (not_not_intro same.symm), if_pos same]
        rfl
      · rw [if_pos (Ne.symm same), if_neg same]
        rfl

/-- **The pairs of drivers stand in the places of the two listings.** -/
theorem getElem?_driverPairs_eq_some_iff {stack : Stack H} {index : ℕ}
    {driver managementDriver : H} :
    stack.driverPairs[index]? = some (driver, managementDriver) ↔
      stack.IsDriver index driver managementDriver := by
  constructor
  · intro paired
    unfold Stack.driverPairs at paired
    split at paired
    · rename_i drivers managementDrivers core management
      split at paired
      · rename_i same
        obtain ⟨here, there⟩ := List.getElem?_zip_eq_some.1 paired
        exact ⟨drivers, managementDrivers, ⟨core, management, same⟩, here, there⟩
      · cases paired
    · cases paired
  · rintro ⟨drivers, managementDrivers, ⟨core, management, same⟩, here, there⟩
    unfold Stack.driverPairs
    rw [core, management]
    dsimp only
    rw [if_pos same, List.getElem?_zip_eq_some]
    exact ⟨here, there⟩

/-! ## The devices of a stack -/

/-- The device that stands in a place of the listing of a driver, if it can be identified. -/
def foundDevice? (stack : Stack H) (index : ℕ) (managementDriver : H) (place : ℕ) (handle : H) :
    Option (FoundDevice H) :=
  match identify stack managementDriver handle with
  | .ok (properties, managed) =>
    some ⟨index, place, managementDriver, handle, properties, managed⟩
  | .error _ => none

/-- The devices of a driver that can be identified. -/
def driverDevices (stack : Stack H) (index : ℕ) (driver managementDriver : H) :
    List (FoundDevice H) :=
  match stack.devices driver with
  | .error _ => []
  | .ok devices => devices.zipIdx.filterMap fun (handle, place) =>
    foundDevice? stack index managementDriver place handle

/-- The devices of a stack that can be identified. -/
def foundDevices (stack : Stack H) : List (FoundDevice H) :=
  stack.driverPairs.zipIdx.flatMap fun ((driver, managementDriver), index) =>
    driverDevices stack index driver managementDriver

/-- Add a device that was found, while memory grants some capacities of the registry. -/
def Survey.addFoundIfGranted (stack : Stack H) (grants : ℕ → Bool) (s : Survey)
    (d : FoundDevice H) : Survey :=
  (s.addIdentified stack d.managementDriver d.handle d.managed (d.place s.named) d.properties {}
    grants).value

/-- Add a device that was found. -/
def Survey.addFound (stack : Stack H) : Survey → FoundDevice H → Survey :=
  Survey.addFoundIfGranted stack fun _ => true

section Loops

variable (grants : ℕ → Bool)

/-- A device that cannot be identified is passed over. -/
theorem value_addDevice (stack : Stack H) (managementDriver : H) (index : ℕ) (s : Survey)
    (place : ℕ) (handle : H) :
    (s.addDevice stack managementDriver index place handle {} grants).value =
      match foundDevice? stack index managementDriver place handle with
      | some d => s.addFoundIfGranted stack grants d
      | none => s := by
  unfold Survey.addDevice foundDevice?
  cases identify stack managementDriver handle <;> rfl

/-- The devices of a driver are added one after another. -/
theorem value_addDriver (stack : Stack H) (s : Survey) (index : ℕ) (driver managementDriver : H) :
    (s.addDriver stack index driver managementDriver {} grants).value =
      (driverDevices stack index driver managementDriver).foldl
        (Survey.addFoundIfGranted stack grants) s := by
  unfold Survey.addDriver driverDevices
  cases stack.devices driver with
  | error fault => rfl
  | ok devices =>
    cases devices with
    | nil => rfl
    | cons device rest =>
      simp only [Logged.value_bind, Logged.value_foldlM, value_addDevice, List.foldl_filterMap]
      congr 1
      funext s entry
      cases foundDevice? stack index managementDriver entry.2 entry.1 <;> rfl

/-- **A survey adds the devices that can be identified**, one after another. -/
theorem value_survey_of_grants (stack : Stack H) (t : Topology) (settings : Settings) :
    (survey stack t settings grants).value =
      (foundDevices stack).foldl (Survey.addFoundIfGranted stack grants) { topology := t } := by
  rw [Settings.value_survey_eq settings {}]
  unfold survey foundDevices
  simp only [Logged.value_bind, Logged.value_foldlM, value_pairDrivers, value_addDriver,
    List.foldl_flatMap]

end Loops

/-- With all the memory that it asks for, it adds them so. -/
theorem value_survey (stack : Stack H) (t : Topology) (settings : Settings) :
    (survey stack t settings).value =
      (foundDevices stack).foldl (Survey.addFound stack) { topology := t } :=
  value_survey_of_grants (fun _ => true) stack t settings

/-! ## Blocks -/

/-- The objects of one device. -/
structure Block (H : Type) where
  device : FoundDevice H
  /-- How many devices were found before. -/
  number : ℕ
  /-- The number of the object of the device. -/
  start : ℕ

namespace Block

variable (stack : Stack H) (b : Block H)

/-- The object of the device. -/
def root : ObjectId := ⟨b.start⟩

/-- The objects of the subdevices. -/
def parts : List ObjectId :=
  (List.range' (b.start + 1) (b.device.subdevices stack).length).map ObjectId.mk

/-- All objects of the block. -/
def nodes : List ObjectId := b.root :: b.parts stack

@[simp] theorem length_parts : (b.parts stack).length = (b.device.subdevices stack).length := by
  simp [parts]

@[simp] theorem length_nodes : (b.nodes stack).length = 1 + (b.device.subdevices stack).length := by
  simp [nodes, Nat.add_comm]

theorem getElem?_parts {i : ℕ} (h : i < (b.device.subdevices stack).length) :
    (b.parts stack)[i]? = some ⟨b.start + 1 + i⟩ := by
  rw [parts, List.getElem?_map, List.getElem?_range' h, Nat.one_mul]
  rfl

/-- The objects of a block have consecutive numbers. -/
theorem nodes_eq :
    b.nodes stack =
      (List.range' b.start (1 + (b.device.subdevices stack).length)).map ObjectId.mk := by
  rw [Nat.add_comm, List.range'_succ]
  rfl

theorem root_notMem_parts : b.root ∉ b.parts stack := by
  intro part
  obtain ⟨i, listed, same⟩ := List.mem_map.1 part
  have index : i = b.start := congrArg ObjectId.index same
  have low := (List.mem_range'_1.1 listed).1
  omega

theorem mem_nodes_iff {id : ObjectId} :
    id ∈ b.nodes stack ↔
      b.start ≤ id.index ∧ id.index < b.start + (1 + (b.device.subdevices stack).length) := by
  rw [nodes_eq, List.mem_map]
  constructor
  · rintro ⟨i, listed, rfl⟩
    exact List.mem_range'_1.1 listed
  · intro within
    exact ⟨id.index, List.mem_range'_1.2 within, rfl⟩

/-- The table of subdevices of the device. -/
def table : List (Option ObjectId) := b.device.table stack b.start

theorem filterMap_table : (b.table stack).filterMap id = b.parts stack :=
  filterMap_subdeviceTable 0 ..

/-- What can be looked up in the table are the subdevices. -/
theorem mem_parts_of_table {place : ℕ} {id : ObjectId}
    (h : (b.table stack)[place]? = some (some id)) : id ∈ b.parts stack := by
  rw [← filterMap_table]
  exact List.mem_filterMap.2 ⟨some id, List.mem_of_getElem? h, rfl⟩

/-- The registry with the block. -/
def register (r : Registry) : Registry := (r.addBlock b.root (b.parts stack)).value.1

/-- The ports after those of the block were kept, unless distances are not to be gathered. -/
def scan (options : TopologyOptions) (ports : PortList) : PortList :=
  if options.noDistances then ports
  else (scanPorts stack b.device.managed b.root (b.table stack) ports {}).value.1

/-- A scan appends ports of the block. -/
theorem exists_scan (options : TopologyOptions) (ports : PortList) :
    ∃ kept, (b.scan stack options ports).ports.toList = ports.ports.toList ++ kept ∧
      ∀ port ∈ kept, port.IsKept stack b.device.managed b.root (b.table stack) := by
  unfold scan
  split
  · exact ⟨[], by simp, by simp⟩
  · exact exists_scanPorts ..

end Block

/-- Where a device goes in a topology. -/
def FoundDevice.site (stack : Stack H) (d : FoundDevice H) (t : Topology) : Site :=
  t.siteOf [stack.pciLocation d.handle, stack.managedPciLocation d.managed]

/-! ## One more device -/

/-- The block that a device becomes when it is added. -/
def Survey.nextBlock (s : Survey) (d : FoundDevice H) : Block H := ⟨d, s.named, s.topology.size⟩

section Addition

variable {stack : Stack H} {s : Survey} {d : FoundDevice H} {t : Topology}

/-- The new objects are known and not in the tree. -/
theorem detached_of_mem_nodes
    (added : s.topology.Extends t (d.described stack s.named s.topology.size)) {id : ObjectId}
    (new : id ∈ (s.nextBlock d).nodes stack) :
    (t.object? id).isSome ∧ t.isInserted id = false := by
  have rooted : 0 < s.topology.size := s.topology.rooted
  obtain ⟨low, high⟩ := ((s.nextBlock d).mem_nodes_iff stack).1 new
  change s.topology.size ≤ id.index at low
  change id.index < s.topology.size + (1 + (d.subdevices stack).length) at high
  have listed :
      id.index - s.topology.size < (d.described stack s.named s.topology.size).length := by
    rw [d.length_described]
    omega
  have found : t.object? id = some (d.described stack s.named s.topology.size)[id.index -
      s.topology.size] := by
    have here := added.object?_size_add (id.index - s.topology.size)
    rw [List.getElem?_eq_getElem listed, Nat.add_sub_of_le low] at here
    exact here
  have outside := (d.of_mem_described stack s.named s.topology.size (List.getElem_mem listed)).2.1
  have notRoot : id ≠ Topology.root := by
    rintro rfl
    exact absurd low (Nat.not_le.2 rooted)
  constructor
  · rw [found, Option.isSome_some]
  · simp [Topology.isInserted, found, outside, notRoot]

/-- New objects can join whatever is a place for a device, which was there before. -/
theorem canJoin_of_isPlace
    (added : s.topology.Extends t (d.described stack s.named s.topology.size)) {parent : ObjectId}
    (place : t.IsPlace parent) :
    parent.index < s.topology.size ∧ t.CanJoin parent ((s.nextBlock d).nodes stack) := by
  have apart : parent ∉ (s.nextBlock d).nodes stack := by
    intro new
    have detached := (detached_of_mem_nodes added new).2
    rw [place.inserted] at detached
    cases detached
  constructor
  · -- whatever is not new is old
    have known := (t.object?_isSome_iff parent).1 place.known
    rw [added.size_eq, d.length_described] at known
    refine Nat.not_le.1 fun le => apart ?_
    exact ((s.nextBlock d).mem_nodes_iff stack).2 ⟨le, known⟩
  · exact {
      parent_known := place.known
      parent_inserted := place.inserted
      apart
      nodup := by
        rw [Block.nodes_eq]
        have apart : (List.range' (s.nextBlock d).start
            (1 + (d.subdevices stack).length)).Nodup := List.nodup_range'
        exact apart.map fun i j same => ObjectId.mk.inj same
      known := fun id new => (detached_of_mem_nodes added new).1
      detached := fun id new => (detached_of_mem_nodes added new).2 }

/-- Devices that are described beside the tree lead nowhere. -/
theorem sameLeads_described
    (added : s.topology.Extends t (d.described stack s.named s.topology.size)) :
    s.topology.SameLeads t where
  size_le := by
    rw [added.size_eq]
    exact Nat.le_add_right ..
  old id within := by rw [added.object?_of_lt within]
  new id o beyond found := by
    have here := added.object?_size_add (id.index - s.topology.size)
    rw [Nat.add_sub_of_le beyond] at here
    have listed := List.mem_of_getElem? (here.symm.trans found)
    exact (d.of_mem_described stack s.named s.topology.size listed).1

/-- **All that the addition of a device does**, whatever was registered before. Its objects are
described beside the tree, its ports are kept, it is placed at its site, and its block enters the
tree and, as far as memory grants the room, the registry. -/
theorem exists_addFoundIfGranted (stack : Stack H) (s : Survey) (d : FoundDevice H) :
    let site := d.site stack s.topology
    ∃ t, s.topology.Extends t (d.described stack s.named s.topology.size) ∧
      t.IsPlace site.parent ∧
      ∀ (r : Registry) (grants : ℕ → Bool),
        { s with registry := r }.addFoundIfGranted stack grants d =
          { topology := (t.mapAttributes site.parent (.record site.bandwidth)).settle site.parent
              (s.nextBlock d).root ((s.nextBlock d).parts stack)
            registry := (r.enterBlock (s.nextBlock d).root ((s.nextBlock d).parts stack)
              grants).value
            ports := (s.nextBlock d).scan stack s.topology.options s.ports
            added := s.added + ((s.nextBlock d).nodes stack).length
            named := s.named + 1 } := by
  intro site
  obtain ⟨t, described, added⟩ := d.exists_describeDevice stack s.named s.topology
  have same : t.siteOf [stack.pciLocation d.handle, stack.managedPciLocation d.managed] = site :=
    (sameLeads_described added).siteOf_eq _
  have place : t.IsPlace site.parent := same ▸ t.isPlace_siteOf _
  have join := ((canJoin_of_isPlace added place).2).mapAttributes site.parent
    (.record site.bandwidth)
  have located : (t.place stack d.handle d.managed).value =
      (t.mapAttributes site.parent (.record site.bandwidth), site.parent) := by
    rw [Topology.place, t.value_placeAt, same]
  have listed : (d.table stack s.topology.size).filterMap id = (s.nextBlock d).parts stack :=
    (s.nextBlock d).filterMap_table stack
  have count : 1 + ((s.nextBlock d).parts stack).length = ((s.nextBlock d).nodes stack).length := by
    rw [Block.length_nodes, Block.length_parts]
  have options : t.options = s.topology.options := congrArg (·.2.1) added.context
  refine ⟨t, added, place, fun r grants => ?_⟩
  have entered := fun ports => Survey.value_enter
    (s := { s with
      topology := t.mapAttributes site.parent (.record site.bandwidth), registry := r, ports })
    join grants
  unfold Survey.addFoundIfGranted Survey.addIdentified Block.scan
  rw [Logged.value_bind, described, ← options]
  by_cases skipped : t.options.noDistances
  · simp only [if_pos skipped, Logged.value_bind, Logged.value_pure, located, listed]
    rw [← count]
    exact entered s.ports
  · simp only [if_neg skipped, Logged.value_bind, located, listed]
    rw [← count]
    exact entered _

/-- With all the memory that it asks for, the block is registered. -/
theorem exists_addFound (stack : Stack H) (s : Survey) (d : FoundDevice H) :
    let site := d.site stack s.topology
    ∃ t, s.topology.Extends t (d.described stack s.named s.topology.size) ∧
      t.IsPlace site.parent ∧
      s.addFound stack d =
        { topology := (t.mapAttributes site.parent (.record site.bandwidth)).settle site.parent
            (s.nextBlock d).root ((s.nextBlock d).parts stack)
          registry := (s.nextBlock d).register stack s.registry
          ports := (s.nextBlock d).scan stack s.topology.options s.ports
          added := s.added + ((s.nextBlock d).nodes stack).length
          named := s.named + 1 } := by
  intro site
  obtain ⟨t, added, place, entered⟩ := exists_addFoundIfGranted stack s d
  have registered : (s.registry.enterBlock (s.nextBlock d).root ((s.nextBlock d).parts stack)
      fun _ => true).value = (s.nextBlock d).register stack s.registry := by
    rw [Registry.value_enterBlock, if_pos (.inr rfl)]
    rfl
  have ample := entered s.registry fun _ => true
  rw [registered] at ample
  exact ⟨t, added, place, ample⟩

end Addition

/-- The objects of a block are in the tree, as they were described: the device, with its subdevices
for children, and the subdevices under it. -/
structure Block.Settled (stack : Stack H) (t : Topology) (b : Block H) : Prop where
  root : ∃ parent, t.object? b.root =
    some ((b.device.rootObject stack b.number b.start).settled parent (b.parts stack))
  part : ∀ i f, (b.device.subdevices stack)[i]? = some f →
    t.object? ⟨b.start + 1 + i⟩ =
      some { b.device.partObject stack b.number b.start i f with parent := some b.root }

/-- A survey went on by one block. -/
structure AddedBlock (stack : Stack H) (s s' : Survey) (b : Block H) : Prop where
  context : s'.topology.context = s.topology.context
  size : s'.topology.size = s.topology.size + (b.nodes stack).length
  registry : s'.registry = b.register stack s.registry
  ports : s'.ports = b.scan stack s.topology.options s.ports
  added : s'.added = s.added + (b.nodes stack).length
  named : s'.named = s.named + 1
  leads : s.topology.SameLeads s'.topology
  /-- The device goes to its site. -/
  root : s'.topology.object? b.root =
    some ((b.device.rootObject stack b.number b.start).settled
      (b.device.site stack s.topology).parent (b.parts stack))
  part : ∀ i f, (b.device.subdevices stack)[i]? = some f →
    s'.topology.object? ⟨b.start + 1 + i⟩ =
      some { b.device.partObject stack b.number b.start i f with parent := some b.root }
  /-- Objects that were there stay as they were, but for the one at the site. -/
  old : ∀ id : ObjectId, id.index < s.topology.size →
    s'.topology.object? id = (s.topology.object? id).map fun o =>
      if id = (b.device.site stack s.topology).parent then
        o.hosting [b.root] (b.device.site stack s.topology).bandwidth
      else o
  /-- The site is the root of the tree, or no device is there. -/
  kind : (b.device.site stack s.topology).parent = Topology.root ∨
    ∀ o, s.topology.object? (b.device.site stack s.topology).parent = some o →
      o.kind ≠ .osDevice

/-- **A device that is added becomes a block.** -/
theorem addedBlock_addFound (stack : Stack H) (s : Survey) (d : FoundDevice H) :
    AddedBlock stack s (s.addFound stack d) (s.nextBlock d) := by
  obtain ⟨t, added, place, value⟩ := exists_addFound stack s d
  obtain ⟨before, canJoin⟩ := canJoin_of_isPlace added place
  have size : t.size = s.topology.size + ((s.nextBlock d).nodes stack).length := by
    rw [added.size_eq, Block.length_nodes, d.length_described]
    rfl
  have root : t.object? (s.nextBlock d).root =
      some (d.rootObject stack s.named s.topology.size) :=
    (added.object?_size_add 0).trans (d.getElem?_described_zero ..)
  have old : ∀ id : ObjectId, id.index < s.topology.size →
      (s.addFound stack d).topology.object? id = (s.topology.object? id).map fun o =>
        if id = (d.site stack s.topology).parent then
          o.hosting [(s.nextBlock d).root] (d.site stack s.topology).bandwidth
        else o := by
    intro id within
    have notNew : id ∉ (s.nextBlock d).nodes stack := fun new =>
      absurd (((s.nextBlock d).mem_nodes_iff stack).1 new).1 (Nat.not_le.2 within)
    rw [value, Topology.object?_settle_of_notMem canJoin _ notNew, added.object?_of_lt within]
    rfl
  have part : ∀ i f, (d.subdevices stack)[i]? = some f →
      (s.addFound stack d).topology.object? ⟨s.topology.size + 1 + i⟩ =
        some { d.partObject stack s.named s.topology.size i f with
          parent := some (s.nextBlock d).root } := by
    intro i f hf
    have described := added.object?_size_add (i + 1)
    have shifted : s.topology.size + (i + 1) = s.topology.size + 1 + i := by omega
    rw [d.getElem?_described_succ, hf, shifted] at described
    have listed := (s.nextBlock d).getElem?_parts stack (List.getElem?_eq_some_iff.1 hf).1
    rw [value]
    exact (Topology.object?_settle_of_mem canJoin _ (List.mem_of_getElem? listed)).trans
      (congrArg (Option.map _) described)
  have grown : (s.addFound stack d).topology.size =
      s.topology.size + ((s.nextBlock d).nodes stack).length := by
    rw [value, Topology.size_settle, Topology.size_mapAttributes, size]
  have leads : s.topology.SameLeads (s.addFound stack d).topology := by
    refine ⟨grown ▸ Nat.le_add_right .., fun id within => ?_, fun id o beyond found => ?_⟩
    · rw [old id within, Option.map_map]
      apply Option.map_congr
      intro o _
      rw [Function.comp_apply, apply_ite Object.lead, Object.lead_hosting, ite_self]
    · have kinds := Topology.map_kind_settle canJoin
        (.record (d.site stack s.topology).bandwidth) id
      rw [value] at found
      rw [found] at kinds
      obtain ⟨o', found', same⟩ := Option.map_eq_some_iff.1 kinds.symm
      exact same.symm.trans ((sameLeads_described added).new id o' beyond found')
  exact {
    context := by rw [value, Topology.context_settle, Topology.context_mapAttributes, added.context]
    size := grown
    registry := by rw [value]
    ports := by rw [value]
    added := by rw [value]
    named := by rw [value]
    leads
    root := by
      rw [value, Topology.object?_settle_device canJoin, root]
      rfl
    part
    old
    kind := place.kind.imp_right fun other o found =>
      other o (by rwa [added.object?_of_lt before]) }

namespace AddedBlock

variable {stack : Stack H} {s s' : Survey} {b : Block H} (h : AddedBlock stack s s' b)

include h

theorem nodes : s'.registry.nodes = s.registry.nodes ++ b.nodes stack := by
  rw [h.registry]
  rfl

theorem settled : b.Settled stack s'.topology := ⟨⟨_, h.root⟩, h.part⟩

/-- The devices that were there are left alone. -/
theorem devices {id : ObjectId} (below : id ≠ Topology.root) {o : Object}
    (found : s.topology.object? id = some o) (device : o.kind = .osDevice) :
    s'.topology.object? id = some o := by
  have within := (s.topology.object?_isSome_iff id).1 (Option.isSome_of_eq_some found)
  have elsewhere : id ≠ (b.device.site stack s.topology).parent := by
    rintro rfl
    rcases h.kind with same | other
    · exact below same
    · exact other o found device
  rw [h.old id within, found, Option.map_some, if_neg elsewhere]

end AddedBlock

end DeviceAtlas
