import DeviceAtlas.Discovery.Port
import DeviceAtlas.Stack.Inventory
import Mathlib.Data.Nat.Notation

/-!
# Whose ports are kept

A scan appends ports to those that were kept before. Each new port is on the device that was
scanned or on a subdevice of it that was created, and says so by its owner and its root. Whether a
port is kept is settled by what the driver stack answers about this port, so a scan is a filter of
the handles that are listed.

* `Port.IsKept`: a port is one that a scan of a device keeps.
* `usablePort?`: the port behind a handle, if it is kept.
* `usablePort?_eq_some_iff`: what it takes for a port to be kept.
* `value_keepUsable`: usable ports are kept one by one, and counted.
* `exists_scanPorts`: what a scan appends.
* `ports_scanPorts`: a scan is a filter.
-/

namespace DeviceAtlas

variable {H : Type}

/-- A port says that it is on a device: it has the device for its owner, or, with the device for
its root, the subdevice that stands in the table where the port says. -/
def Port.IsOn (device : ObjectId) (table : List (Option ObjectId)) (port : Port) : Prop :=
  if port.properties.onSubdevice then
    port.root = some device ∧
      table[port.properties.subdeviceId.toNat]? = some (some port.owner)
  else port.owner = device ∧ port.root = none

/-- A port is one that a scan of a device keeps. -/
structure Port.IsKept (stack : Stack H) (managed : H) (device : ObjectId)
    (table : List (Option ObjectId)) (port : Port) : Prop where
  /-- The management side lists the port for the device. -/
  listed : ∃ handles handle, stack.fabricPorts managed = .ok handles ∧ handle ∈ handles ∧
    stack.portProperties handle = .ok port.properties ∧ stack.portState handle = .ok port.state
  on : port.IsOn device table
  usable : port.state.status.isUsable

/-- The owner of a port is the device, or it stands in the table and the device is the root. -/
theorem Port.IsOn.owner_eq_or {device : ObjectId} {table : List (Option ObjectId)} {port : Port}
    (h : port.IsOn device table) :
    port.owner = device ∧ port.root = none ∨
      port.root = some device ∧ ∃ place : ℕ, table[place]? = some (some port.owner) := by
  unfold IsOn at h
  split at h
  · exact .inr ⟨h.1, _, h.2⟩
  · exact .inl h

/-! ## One handle -/

/-- The owner and the root of a port with these properties. There is none if the port says that it
is on a subdevice that was not created or that the device does not have. -/
def portHome? (device : ObjectId) (table : List (Option ObjectId)) (p : Stack.PortProperties) :
    Option (ObjectId × Option ObjectId) :=
  if p.onSubdevice then (table[p.subdeviceId.toNat]?.join).map fun owner => (owner, some device)
  else some (device, none)

theorem value_portOwner (device : ObjectId) (table : List (Option ObjectId)) (index : ℕ)
    (p : Stack.PortProperties) (settings : Settings) :
    (portOwner device table index p settings).value = portHome? device table p := by
  unfold portOwner portHome?
  split
  · simp only [Logged.value_bind]
    rcases table[p.subdeviceId.toNat]? with _ | _ | owner <;> rfl
  · rfl

/-- A port has its owner and its root exactly when it is on the device. -/
theorem portHome?_eq_some_iff {device : ObjectId} {table : List (Option ObjectId)} {port : Port} :
    portHome? device table port.properties = some (port.owner, port.root) ↔
      port.IsOn device table := by
  rw [portHome?, Port.IsOn]
  split
  · rw [Option.map_eq_some_iff]
    constructor
    · rintro ⟨owner, found, same⟩
      obtain ⟨owners, roots⟩ := Prod.mk.inj same
      rw [owners] at found
      exact ⟨roots.symm, Option.join_eq_some_iff.1 found⟩
    · rintro ⟨same, found⟩
      exact ⟨port.owner, Option.join_eq_some_iff.2 found, by rw [same]⟩
  · rw [Option.some.injEq, Prod.mk.injEq]
    exact and_congr eq_comm eq_comm

/-- The port that is kept for a handle, if one is, by the two answers about the handle. -/
def usablePort? (device : ObjectId) (table : List (Option ObjectId)) :
    Stack.Answer Stack.PortProperties → Stack.Answer Stack.PortState → Option Port
  | .ok properties, .ok state =>
    if state.status.isUsable then
      (portHome? device table properties).map fun (owner, root) =>
        { owner, root, properties, state }
    else none
  | _, _ => none

/-- What becomes of a handle is settled by the answers about it. Its number is only for messages. -/
theorem value_readPort (stack : Stack H) (device : ObjectId) (table : List (Option ObjectId))
    (index : ℕ) (handle : H) (settings : Settings) :
    (readPort stack device table index handle settings).value =
      usablePort? device table (stack.portProperties handle) (stack.portState handle) := by
  unfold readPort
  cases stack.portProperties handle with
  | error fault => rfl
  | ok properties =>
    simp only [Logged.value_bind, value_portOwner]
    cases stack.portState handle with
    | error fault => cases portHome? device table properties <;> rfl
    | ok state =>
      rw [usablePort?]
      cases portHome? device table properties with
      | none => rw [Option.map_none, ite_self]; rfl
      | some home =>
        dsimp only
        split <;> rfl

/-- **A port is kept if its properties and its state can be read, it is on the device or on a
subdevice that was created, and it carries traffic**; then it has what was read. -/
theorem usablePort?_eq_some_iff {device : ObjectId} {table : List (Option ObjectId)}
    {properties : Stack.Answer Stack.PortProperties} {state : Stack.Answer Stack.PortState}
    {port : Port} :
    usablePort? device table properties state = some port ↔
      properties = .ok port.properties ∧ port.IsOn device table ∧
        state = .ok port.state ∧ port.state.status.isUsable := by
  rw [← portHome?_eq_some_iff]
  constructor
  · intro kept
    cases properties with
    | error fault => cases kept
    | ok p =>
      cases state with
      | error fault => cases kept
      | ok s =>
        obtain ⟨usable, mapped⟩ := Option.ite_none_right_eq_some.1 kept
        obtain ⟨home, found, rfl⟩ := Option.map_eq_some_iff.1 mapped
        exact ⟨rfl, found, rfl, usable⟩
  · rintro ⟨rfl, found, rfl, usable⟩
    rw [usablePort?, if_pos usable, found]
    rfl

/-! ## A listing -/

/-- Ports that are pushed stand behind those that are there. -/
theorem PortList.toList_foldl_push (l : PortList) (ports : List Port) :
    (ports.foldl push l).ports.toList = l.ports.toList ++ ports := by
  induction ports generalizing l with
  | nil => rw [List.foldl_nil, List.append_nil]
  | cons port ports ih => simp [ih, push]

/-- The ports behind handles that are kept, in the order of the handles. -/
def usablePorts (stack : Stack H) (device : ObjectId) (table : List (Option ObjectId))
    (handles : List H) : List Port :=
  handles.filterMap fun handle =>
    usablePort? device table (stack.portProperties handle) (stack.portState handle)

/-- A usable port is kept and counted. -/
theorem value_keepIfUsable (stack : Stack H) (device : ObjectId) (table : List (Option ObjectId))
    (settings : Settings) (l : PortList) (kept : ℕ) (entry : H × ℕ) :
    (keepIfUsable stack device table settings (l, kept) entry).value =
      match usablePort? device table (stack.portProperties entry.1) (stack.portState entry.1) with
      | some port => (l.push port, kept + 1)
      | none => (l, kept) := by
  unfold keepIfUsable
  rw [Logged.value_bind, value_readPort]
  cases usablePort? device table (stack.portProperties entry.1) (stack.portState entry.1) <;> rfl

/-- Ports are kept one by one, those that are usable, in the order of their handles, and counted
on the way. -/
theorem value_keepUsable (stack : Stack H) (device : ObjectId) (table : List (Option ObjectId))
    (l : PortList) (handles : List H) (settings : Settings) :
    (keepUsable stack device table l handles settings).value =
      ((usablePorts stack device table handles).foldl PortList.push l,
        (usablePorts stack device table handles).length) := by
  -- the numbers of the handles are left out, and the count may start anywhere
  rw [usablePorts, ← List.zipIdx_map_fst 0 handles, List.filterMap_map, List.zipIdx_map_fst,
    keepUsable, Logged.value_foldlM, ← Nat.zero_add (List.length _)]
  generalize handles.zipIdx = numbered
  generalize 0 = kept
  induction numbered generalizing l kept with
  | nil => rfl
  | cons entry rest ih =>
    rw [List.foldl_cons, List.filterMap_cons, value_keepIfUsable, Function.comp_apply]
    cases usablePort? device table (stack.portProperties entry.1) (stack.portState entry.1) with
    | none => exact ih l kept
    | some port =>
      dsimp only
      rw [ih, List.foldl_cons, List.length_cons, Nat.add_right_comm, Nat.add_assoc]

/-- A scan takes the usable ports of the listing if there is room for all that are listed. -/
theorem value_scanPorts {stack : Stack H} {managed : H} {handles : List H}
    {ports grown : PortList} (answered : stack.fabricPorts managed = .ok handles)
    (reserved : ports.reserve handles.length = .ok grown) (device : ObjectId)
    (table : List (Option ObjectId)) (settings : Settings) :
    (scanPorts stack managed device table ports settings).value =
      ((usablePorts stack device table handles).foldl PortList.push grown,
        (usablePorts stack device table handles).length) := by
  rw [scanPorts, answered]
  cases handles with
  | nil =>
    have same : ports.reserve 0 = .ok ports := if_pos (Nat.zero_le _)
    cases same.symm.trans reserved
    rfl
  | cons handle rest =>
    dsimp only
    rw [reserved, Logged.value_bind, value_keepUsable]

/-- Without a listing, or without room for it, a scan changes nothing. -/
theorem value_scanPorts_of_nothing {stack : Stack H} {managed : H} {ports : PortList}
    (nothing : ∀ handles, stack.fabricPorts managed = .ok handles →
      handles = [] ∨ ∃ full, ports.reserve handles.length = .error full)
    (device : ObjectId) (table : List (Option ObjectId)) (settings : Settings) :
    (scanPorts stack managed device table ports settings).value = (ports, 0) := by
  unfold scanPorts
  split
  · rfl
  · rfl
  · rename_i handles some answered
    obtain none | ⟨full, refused⟩ := nothing handles answered
    · exact absurd none some
    · rw [refused]
      rfl

/-- **A scan appends usable ports of the device**, or none at all. -/
theorem exists_scanPorts (stack : Stack H) (managed : H) (device : ObjectId)
    (table : List (Option ObjectId)) (ports : PortList) (settings : Settings) :
    ∃ kept, (scanPorts stack managed device table ports settings).value.1.ports.toList =
        ports.ports.toList ++ kept ∧
      ∀ port ∈ kept, port.IsKept stack managed device table := by
  by_cases room : ∃ handles grown, stack.fabricPorts managed = .ok handles ∧
      ports.reserve handles.length = .ok grown
  · obtain ⟨handles, grown, answered, reserved⟩ := room
    refine ⟨usablePorts stack device table handles, ?_, fun port kept => ?_⟩
    · rw [value_scanPorts answered reserved, PortList.toList_foldl_push,
        PortList.ports_of_reserve reserved]
    · obtain ⟨handle, listed, usable⟩ := List.mem_filterMap.1 kept
      obtain ⟨properties, on, state, carries⟩ := usablePort?_eq_some_iff.1 usable
      exact ⟨⟨handles, handle, answered, listed, properties, state⟩, on, carries⟩
  · refine ⟨[], ?_, fun port kept => absurd kept List.not_mem_nil⟩
    rw [value_scanPorts_of_nothing, List.append_nil]
    intro handles answered
    cases reserved : ports.reserve handles.length with
    | error full => exact .inr ⟨full, rfl⟩
    | ok grown => exact absurd ⟨handles, grown, answered, reserved⟩ room

/-- **A scan is a filter.** If the ports of a device are listed and there is room for as many, the
usable ones among them are appended in the order of the listing, and their number comes back.
Whether a port is one of these is settled by the answers about its own handle: both must be there,
the port must be on the device or on a subdevice that stands in the table where the port says, and
it must be healthy or degraded. If nothing is listed or there is no room, nothing changes and the
number is 0. -/
theorem ports_scanPorts (stack : Stack H) (managed : H) (device : ObjectId)
    (table : List (Option ObjectId)) (ports : PortList) (settings : Settings) :
    let usable handle :=
      usablePort? device table (stack.portProperties handle) (stack.portState handle)
    let scan := (scanPorts stack managed device table ports settings).value
    (∀ handles grown, stack.fabricPorts managed = .ok handles →
      ports.reserve handles.length = .ok grown →
        scan.1.ports.toList = ports.ports.toList ++ handles.filterMap usable ∧
        scan.2 = (handles.filterMap usable).length) ∧
    ((∀ handles, stack.fabricPorts managed = .ok handles →
        handles = [] ∨ ∃ full, ports.reserve handles.length = .error full) →
      scan = (ports, 0)) ∧
    ∀ handle port, usable handle = some port ↔
      stack.portProperties handle = .ok port.properties ∧
      (if port.properties.onSubdevice then
        port.root = some device ∧
          table[port.properties.subdeviceId.toNat]? = some (some port.owner)
      else port.owner = device ∧ port.root = none) ∧
      stack.portState handle = .ok port.state ∧
      (port.state.status = .healthy ∨ port.state.status = .degraded) := by
  intro usable scan
  refine ⟨fun handles grown answered reserved => ?_, fun nothing => ?_, fun handle port => ?_⟩
  · have scanned : scan = _ := value_scanPorts answered reserved device table settings
    rw [scanned, PortList.toList_foldl_push, PortList.ports_of_reserve reserved]
    exact ⟨rfl, rfl⟩
  · exact value_scanPorts_of_nothing nothing device table settings
  · rw [usablePort?_eq_some_iff, Stack.PortStatus.isUsable_iff]
    rfl

/-- A port with this status, on a subdevice or not. -/
def mixedPort (subdevice : Option UInt32) (status : Stack.PortStatus) : Stack.StoredPort :=
  .make "XeLink" subdevice ⟨0, 0, 0⟩ ⟨0, 0, 1⟩ status 4194304

/-- Two devices. The first has a port of each sort: on its first subdevice, failed, on its second
one, on one that it does not have, without properties, without a state, and degraded. The second
does not list its ports. -/
def mixedInventory : Stack.Inventory where
  devices := #[
    { properties := .ok (.accelerator (.tagged 0)), ports := [0, 1, 2, 3, 4, 5, 6] },
    { properties := .ok (.accelerator (.tagged 1)),
      portsFault := some (.known .unsupportedFeature) }]
  ports := #[
    mixedPort (some 0) .healthy, mixedPort none .failed, mixedPort (some 1) .healthy,
    mixedPort (some 7) .healthy,
    { mixedPort none .healthy with properties := .error (.known .unknown) },
    { mixedPort none .healthy with state := .error (.known .deviceLost) },
    mixedPort none .degraded]

theorem ports_scanPorts_mixed :
    (scanPorts mixedInventory.stack 0 ⟨1⟩ [some ⟨2⟩, none] .empty {}).value.1.ports.toList.map
        (fun port => (port.owner, port.root)) = [(⟨2⟩, some ⟨1⟩), (⟨1⟩, none)] ∧
      (scanPorts mixedInventory.stack 0 ⟨1⟩ [some ⟨2⟩, none] .empty {}).value.2 = 2 ∧
      (scanPorts mixedInventory.stack 1 ⟨1⟩ [] .empty {}).value = (.empty, 0) := by
  obtain ⟨appended, count⟩ :=
    (ports_scanPorts mixedInventory.stack 0 ⟨1⟩ [some ⟨2⟩, none] .empty {}).1
      [0, 1, 2, 3, 4, 5, 6] _ rfl rfl
  refine ⟨?_, ?_, ?_⟩
  · rw [appended]
    decide
  · rw [count]
    decide
  · refine (ports_scanPorts mixedInventory.stack 1 ⟨1⟩ [] .empty {}).2.1 fun handles answered => ?_
    cases answered

end DeviceAtlas
