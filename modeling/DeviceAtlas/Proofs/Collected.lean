import DeviceAtlas.Proofs.ModuleSizes
import DeviceAtlas.Proofs.ParallelPasses

/-!
# What is collected is not structure

The types, shapes and makers of devices, their command queues and their memory are collected as
infos. The matrix and the tree depend on none of them, although the matrix is built from infos as
well: those that say how many subdevices a device has stand under a key that is never one of a
collected info, however many queue groups there are.

* `InfoKey.IsCollected`: the keys of collected infos.
* `Stack.SameStructure`: two driver stacks give the same answers, but for what is collected.
* `structure_discover`: passes over such stacks come to the same structure.
-/

namespace DeviceAtlas

variable {H : Type}

/-! ## Collected infos -/

namespace InfoKey

/-- The keys of infos on the type, the shape and the maker of a device, on its command queues and
on its memory. Its identity is not among them. -/
def IsCollected (key : String) : Prop := IsDescriptive key ∧ key ≠ uuid ∨ IsMemorySize key

theorem subdevices_not_isCollected : ¬ IsCollected subdevices := by
  rintro (⟨described, -⟩ | size)
  · exact described.not_mem_structural (by decide)
  · exact size.not_mem_structural (by decide)

theorem uuid_not_isCollected : ¬ IsCollected uuid := by
  rintro (⟨-, ne⟩ | ⟨c, same⟩)
  · exact ne rfl
  · revert same
    cases c <;> decide

theorem IsQueue.isCollected {key : String} (h : IsQueue key) : IsCollected key := by
  refine .inl ⟨h.isDescriptive, ?_⟩
  rcases h with rfl | ⟨index, rfl⟩
  · decide
  · exact queueGroup_ne (by decide) index

/-- Of the keys that describe a device only that of its identity is not collected. -/
theorem eq_uuid_of_isDescriptive {key : String} (described : IsDescriptive key)
    (other : ¬ IsCollected key) : key = uuid :=
  Decidable.byContradiction fun ne => other (.inl ⟨described, ne⟩)

end InfoKey

namespace Note

variable {id : ObjectId} {key : String}

/-- One more info is one more write. -/
theorem values_cons_eq_written {notes : List Note} {writes : List (String × String)}
    (h : values id key notes = InfoMap.written key writes) (other value : String) :
    values id key (.info id other value :: notes) =
      InfoMap.written key ((other, value) :: writes) := by
  rw [values_cons_info_self, InfoMap.written_cons, h]

end Note

section Values

variable {key : String} (other : ¬ InfoKey.IsCollected key) (id : ObjectId)

include other

theorem values_queueNotes (stack : Stack H) (device : H) :
    Note.values id key (queueNotes stack device id) = [] :=
  Note.values_eq_nil_of_key (concerns_queueNotes stack device id) fun queue =>
    other queue.isCollected

/-- **Of what is known of a device only its identity is not collected.** -/
theorem values_knownDeviceNotes (stack : Stack H) (managed : H) (p : Stack.DeviceProperties) :
    Note.values id key (knownDeviceNotes stack managed id p {}) =
      if key = InfoKey.uuid then [p.uuid.toText] else [] := by
  by_cases identity : key = InfoKey.uuid
  · subst identity
    rw [if_pos rfl]
    have type : Note.values id InfoKey.uuid (typeNotes id p.deviceType {}) = [] := by
      unfold typeNotes
      split
      · rw [Note.values_cons_info_self, if_neg (by decide)]
        rfl
      · rw [Note.values_append, Note.values_advise, Note.values_cons_info_self,
          if_neg (by decide)]
        rfl
    have managed : Note.values id InfoKey.uuid
        (if p.traits.isSubdevice then [] else managementNotes stack managed id) = [] := by
      split
      · rfl
      · exact Note.values_eq_nil_of_key (concerns_managementNotes stack managed id) (by decide)
    rw [knownDeviceNotes, propertyNotes, Note.values_append, Note.values_append, type, managed]
    simp only [Note.values_cons_info_self]
    rfl
  · rw [if_neg identity]
    exact Note.values_eq_nil_of_key (concerns_knownDeviceNotes stack managed id p) fun described =>
      identity (InfoKey.eq_uuid_of_isDescriptive described other)

/-- The identity follows what was written first. -/
theorem values_append_identity (stack : Stack H) (handle managed : H)
    (p : Stack.DeviceProperties) :
    Note.values id key (knownDeviceNotes stack managed id p {} ++ queueNotes stack handle id) =
      InfoMap.written key [(InfoKey.uuid, p.uuid.toText)] := by
  rw [Note.values_append, values_knownDeviceNotes other, values_queueNotes other, List.append_nil,
    InfoMap.written_cons]
  exact ite_congr (propext eq_comm) (fun _ => rfl) fun _ => rfl

/-- What is noted of a device, but for what is collected. -/
theorem FoundDevice.values_notes (stack : Stack H) (d : FoundDevice H) (number start : ℕ) :
    Note.values ⟨start⟩ key (d.notes stack number start) =
      InfoMap.written key [(InfoKey.driverIndex, toString d.driver),
        (InfoKey.driverDeviceIndex, toString d.index), (InfoKey.uuid, d.properties.uuid.toText)] :=
  Note.values_cons_eq_written (Note.values_cons_eq_written
    (values_append_identity other ⟨start⟩ stack d.handle d.managed d.properties) _ _) _ _

/-- What is noted of a subdevice, but for what is collected. -/
theorem FoundSubdevice.values_notes (stack : Stack H) (f : FoundSubdevice H) :
    Note.values id key (f.notes stack id) =
      InfoMap.written key
        [(InfoKey.subdeviceId, toString f.number), (InfoKey.uuid, f.properties.uuid.toText)] :=
  Note.values_cons_eq_written
    (values_append_identity other id stack f.handle f.managed f.properties) _ _

/-- All that is noted of memory is collected. -/
theorem FoundDevice.values_memoryNotes (stack : Stack H) (d : FoundDevice H) (start : ℕ) :
    Note.values id key (d.memoryNotes stack start) = [] :=
  d.values_memoryNotes_of_not_isMemorySize stack start (fun size => other (.inr size)) id

end Values

/-! ## Driver stacks -/

/-- Two driver stacks give the same answers, but for what is collected: properties of a device other
than its identity, properties on the management side, command queue groups and memory. -/
structure Stack.SameStructure (a b : Stack H) : Prop where
  start : b.start = a.start
  startManagement : b.startManagement = a.startManagement
  drivers : b.drivers = a.drivers
  managementDrivers : b.managementDrivers = a.managementDrivers
  devices : b.devices = a.devices
  subdevices : b.subdevices = a.subdevices
  /-- The same devices tell their properties, and show the same identity. -/
  uuid : ∀ h, (b.deviceProperties h).toOption.map (·.uuid) =
    (a.deviceProperties h).toOption.map (·.uuid)
  managedDevice : b.managedDevice = a.managedDevice
  fabricPorts : b.fabricPorts = a.fabricPorts
  portProperties : b.portProperties = a.portProperties
  portState : b.portState = a.portState
  pciLocation : b.pciLocation = a.pciLocation
  managedPciLocation : b.managedPciLocation = a.managedPciLocation

/-- Two subdevices that were found are the same, but for what is collected. -/
structure FoundSubdevice.Same (f g : FoundSubdevice H) : Prop where
  number : g.number = f.number
  managed : g.managed = f.managed
  uuid : g.properties.uuid = f.properties.uuid

/-- Two devices that were found are the same, but for what is collected. -/
structure FoundDevice.Same (d e : FoundDevice H) : Prop where
  driver : e.driver = d.driver
  index : e.index = d.index
  managementDriver : e.managementDriver = d.managementDriver
  handle : e.handle = d.handle
  managed : e.managed = d.managed
  uuid : e.properties.uuid = d.properties.uuid

namespace Stack.SameStructure

variable {a b : Stack H} (h : a.SameStructure b)

include h

/-- **The same devices are identified**, on both sides. -/
theorem identify_cases (managementDriver handle : H) :
    (∃ p q managed, identify a managementDriver handle = .ok (p, managed) ∧
      identify b managementDriver handle = .ok (q, managed) ∧ q.uuid = p.uuid) ∨
    ((∃ reason, identify a managementDriver handle = .error reason) ∧
      ∃ reason, identify b managementDriver handle = .error reason) := by
  have same := h.uuid handle
  unfold identify
  rw [h.managedDevice]
  cases ha : a.deviceProperties handle with
  | error fault =>
    rw [ha] at same
    cases hb : b.deviceProperties handle with
    | error fault' => exact .inr ⟨⟨_, rfl⟩, _, rfl⟩
    | ok q =>
      rw [hb] at same
      cases same
  | ok p =>
    rw [ha] at same
    cases hb : b.deviceProperties handle with
    | error fault' =>
      rw [hb] at same
      cases same
    | ok q =>
      rw [hb] at same
      have uuid : q.uuid = p.uuid := Option.some.inj same
      cases known : a.managedDevice managementDriver p.uuid with
      | error fault =>
        exact .inr ⟨⟨.management fault, by simp [Except.mapError, known, bind, Except.bind]⟩,
          .management fault, by simp [Except.mapError, uuid, known, bind, Except.bind]⟩
      | ok managed =>
        refine .inl ⟨p, q, managed.handle, ?_, ?_, uuid⟩
        · simp [Except.mapError, known, bind, Except.bind, pure, Except.pure]
        · simp [Except.mapError, uuid, known, bind, Except.bind, pure, Except.pure]

theorem subdeviceTable_eq (managementDriver : H) (next : ℕ) (handles : List H) :
    subdeviceTable b managementDriver next handles =
      subdeviceTable a managementDriver next handles := by
  induction handles generalizing next with
  | nil => rfl
  | cons handle rest ih =>
    rcases h.identify_cases managementDriver handle with ⟨p, q, managed, ha, hb, -⟩ |
      ⟨⟨_, ha⟩, _, hb⟩
    · rw [subdeviceTable_cons_ok ha, subdeviceTable_cons_ok hb, ih]
    · rw [subdeviceTable_cons_error ha, subdeviceTable_cons_error hb, ih]

theorem forall₂_foundSubdevices (managementDriver : H) (first : ℕ) (handles : List H) :
    List.Forall₂ FoundSubdevice.Same (foundSubdevices a managementDriver first handles)
      (foundSubdevices b managementDriver first handles) := by
  induction handles generalizing first with
  | nil => exact .nil
  | cons handle rest ih =>
    rcases h.identify_cases managementDriver handle with ⟨p, q, managed, ha, hb, uuid⟩ |
      ⟨⟨_, ha⟩, _, hb⟩
    · rw [foundSubdevices_cons_ok ha, foundSubdevices_cons_ok hb]
      exact .cons ⟨rfl, rfl, uuid⟩ (ih _)
    · rw [foundSubdevices_cons_error ha, foundSubdevices_cons_error hb]
      exact ih _

theorem rel_foundDevice? (index place : ℕ) (managementDriver handle : H) :
    Option.Rel FoundDevice.Same (foundDevice? a index managementDriver place handle)
      (foundDevice? b index managementDriver place handle) := by
  unfold foundDevice?
  rcases h.identify_cases managementDriver handle with ⟨p, q, managed, ha, hb, uuid⟩ |
    ⟨⟨_, ha⟩, _, hb⟩
  · rw [ha, hb]
    exact .some ⟨rfl, rfl, rfl, rfl, rfl, uuid⟩
  · rw [ha, hb]
    exact .none

theorem forall₂_driverDevices (index : ℕ) (driver managementDriver : H) :
    List.Forall₂ FoundDevice.Same (driverDevices a index driver managementDriver)
      (driverDevices b index driver managementDriver) := by
  unfold driverDevices
  rw [h.devices]
  cases a.devices driver with
  | error fault => exact .nil
  | ok devices => exact forall₂_filterMap_same fun item _ => h.rel_foundDevice? ..

/-- **The same devices are found.** -/
theorem forall₂_foundDevices :
    List.Forall₂ FoundDevice.Same (foundDevices a) (foundDevices b) := by
  have pairs : b.driverPairs = a.driverPairs := by
    unfold Stack.driverPairs
    rw [h.drivers, h.managementDrivers]
  unfold foundDevices
  rw [pairs]
  exact forall₂_flatMap_same fun entry _ => h.forall₂_driverDevices ..

theorem handles_eq {d e : FoundDevice H} (same : d.Same e) : e.handles b = d.handles a := by
  rw [FoundDevice.handles, FoundDevice.handles, h.subdevices, same.handle]

/-- The same devices look alike. -/
theorem alike {d e : FoundDevice H} (same : d.Same e) :
    d.Alike a b InfoKey.IsCollected e where
  site t := by
    rw [FoundDevice.site, FoundDevice.site, h.pciLocation, h.managedPciLocation, same.handle,
      same.managed]
  table start := by
    rw [FoundDevice.table, FoundDevice.table, h.handles_eq same, same.managementDriver,
      h.subdeviceTable_eq]
  ports root table ports := by
    unfold scanPorts keepUsable keepIfUsable readPort
    rw [h.fabricPorts, h.portProperties, h.portState, same.managed]
  root number start := by
    refine ⟨rfl, fun key other => ?_⟩
    rw [FoundDevice.rootObject, Object.info?_noted, Object.info?_noted, FoundDevice.rootObject,
      Object.info?_noted, Object.info?_noted, e.values_memoryNotes other,
      d.values_memoryNotes other, e.values_notes other, d.values_notes other, same.driver,
      same.index, same.uuid]
  part number start i f g hf hg := by
    have found : List.Forall₂ FoundSubdevice.Same (d.subdevices a) (e.subdevices b) := by
      rw [FoundDevice.subdevices, FoundDevice.subdevices, h.handles_eq same, same.managementDriver]
      exact h.forall₂_foundSubdevices ..
    have part := related_getElem? found hf hg
    constructor
    · simp only [FoundDevice.partObject, FoundSubdevice.object, Object.noted, part.number]
    · intro key other
      rw [FoundDevice.partObject, Object.info?_noted, FoundSubdevice.object, Object.info?_noted,
        FoundDevice.partObject, Object.info?_noted, FoundSubdevice.object, Object.info?_noted,
        e.values_memoryNotes other, d.values_memoryNotes other, g.values_notes other,
        f.values_notes other, part.number, part.uuid]

end Stack.SameStructure

/-! ## Passes -/

/-- **What is collected is not structure.** Passes over two driver stacks that differ at most in
what is collected tell the same: how many objects were added, how many ports are usable, and what
was published. They come to topologies with the same filters, options, infos and matrices and with
the same objects, which have the same places in the tree and the same descriptions. Those that were
there before are the same throughout, and new ones differ at most in collected infos. -/
theorem structure_discover {a b : Stack H} (same : a.SameStructure b) (t : Topology)
    (settings : Settings) :
    let x := (discover a t settings).value
    let y := (discover b t settings).value
    y.2.added = x.2.added ∧ y.2.ports = x.2.ports ∧ y.2.publication = x.2.publication ∧
    y.1.filter = x.1.filter ∧ y.1.options = x.1.options ∧ y.1.infos = x.1.infos ∧
    y.1.distances = x.1.distances ∧ y.1.size = x.1.size ∧
    (∀ id : ObjectId, id.index < t.size → y.1.object? id = x.1.object? id) ∧
    ∀ id o, x.1.object? id = some o → ∃ o', y.1.object? id = some o' ∧
      o' = { o with infos := o'.infos } ∧
      ∀ key, ¬ InfoKey.IsCollected key → o'.info? key = o.info? key := by
  obtain ⟨outcome, filter, options, infos, distances, size, old, objects⟩ :=
    alike_discover same.start same.startManagement
      (same.forall₂_foundDevices.imp fun _ _ => same.alike) InfoKey.subdevices_not_isCollected t
      settings
  refine ⟨congrArg _ outcome, congrArg _ outcome, congrArg _ outcome, filter, options, infos,
    distances, size, old, fun id o found => ?_⟩
  obtain ⟨o', found', same⟩ := objects id o found
  exact ⟨o', found', same.rest, same.info?⟩

/-- The same driver stack, which has forgotten what the management side knows and all memory, and
tells another shape and other command queues of each device. -/
def Stack.redescribed (stack : Stack H) : Stack H :=
  { stack with
    deviceProperties := fun h =>
      (stack.deviceProperties h).map fun p => { p with deviceType := 9, slices := 7 }
    managementProperties := fun _ => .error (.known .deviceLost)
    queueGroups := fun _ => .ok [⟨3, 4⟩, ⟨1, 2⟩]
    memoryModules := fun _ => .error (.known .deviceLost) }

theorem Stack.sameStructure_redescribed (stack : Stack H) :
    stack.SameStructure stack.redescribed where
  start := rfl
  startManagement := rfl
  drivers := rfl
  managementDrivers := rfl
  devices := rfl
  subdevices := rfl
  uuid h := by
    dsimp only [redescribed]
    cases stack.deviceProperties h <;> rfl
  managedDevice := rfl
  fabricPorts := rfl
  portProperties := rfl
  portState := rfl
  pciLocation := rfl
  managedPciLocation := rfl

/-- The two linked devices get the same matrix when they are described in another way. -/
theorem structure_discover_redescribed :
    let x := (discover linkedInventory.stack .initial {}).value
    let y := (discover linkedInventory.stack.redescribed .initial {}).value
    y.2.publication = x.2.publication ∧ y.1.distances = x.1.distances ∧
      y.1.info? ⟨1⟩ InfoKey.uuid = x.1.info? ⟨1⟩ InfoKey.uuid ∧
      y.1.info? ⟨1⟩ InfoKey.slices ≠ x.1.info? ⟨1⟩ InfoKey.slices := by
  obtain ⟨-, -, publication, -, -, -, distances, -, -, objects⟩ :=
    structure_discover linkedInventory.stack.sameStructure_redescribed .initial {}
  have found : ∃ o, (discover linkedInventory.stack .initial {}).value.1.object? ⟨1⟩ = some o := by
    rw [object?_discover]
    exact Option.isSome_iff_exists.1 (by decide +kernel)
  obtain ⟨o, found⟩ := found
  obtain ⟨o', found', -, infos⟩ := objects ⟨1⟩ o found
  refine ⟨publication, distances, ?_, ?_⟩
  · rw [Topology.info?, Topology.info?, found, found']
    exact infos InfoKey.uuid InfoKey.uuid_not_isCollected
  · rw [Topology.info?, Topology.info?, object?_discover, object?_discover]
    decide +kernel

end DeviceAtlas
