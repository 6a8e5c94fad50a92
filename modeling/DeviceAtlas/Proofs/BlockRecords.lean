import DeviceAtlas.Proofs.SurveyRun
import DeviceAtlas.Stack.Inventory
import DeviceAtlas.Text

/-!
# The registry of a survey, block by block

After a survey the registry has the new objects in the order of their numbers, one block for each
device. What the tree tells of a block, by names, infos and children, is the block.

* `mem_foundDevices_iff`, `pairwise_foundDevices`: which devices have blocks, and in which order.
* `deviceName_inj`, `partName_inj`, `deviceName_ne_partName`: names tell devices and subdevices
  apart.
* `registry_survey`: the registry and the records of its blocks.
-/

namespace DeviceAtlas

variable {H : Type} {stack : Stack H}

/-! ## Which devices -/

theorem foundDevice?_eq_some_iff {index place : ℕ} {managementDriver handle : H}
    {d : FoundDevice H} :
    foundDevice? stack index managementDriver place handle = some d ↔
      d.driver = index ∧ d.index = place ∧ d.managementDriver = managementDriver ∧
        d.handle = handle ∧
        identify stack managementDriver handle = .ok (d.properties, d.managed) := by
  obtain ⟨driver, index', managementDriver', handle', properties, managed⟩ := d
  unfold foundDevice?
  cases identify stack managementDriver handle with
  | error reason => simp
  | ok found =>
    obtain ⟨properties', managed'⟩ := found
    simp only [Option.some.injEq, FoundDevice.mk.injEq, Except.ok.injEq, Prod.mk.injEq]
    constructor
    · rintro ⟨rfl, rfl, rfl, rfl, rfl, rfl⟩
      exact ⟨rfl, rfl, rfl, rfl, rfl, rfl⟩
    · rintro ⟨rfl, rfl, rfl, rfl, rfl, rfl⟩
      exact ⟨rfl, rfl, rfl, rfl, rfl, rfl⟩

theorem mem_driverDevices_iff {index : ℕ} {driver managementDriver : H} {d : FoundDevice H} :
    d ∈ driverDevices stack index driver managementDriver ↔
      d.driver = index ∧ d.managementDriver = managementDriver ∧
        ∃ devices, stack.devices driver = .ok devices ∧ devices[d.index]? = some d.handle ∧
          identify stack d.managementDriver d.handle = .ok (d.properties, d.managed) := by
  unfold driverDevices
  cases stack.devices driver with
  | error fault => simp
  | ok devices =>
    simp only [List.mem_filterMap, Prod.exists, List.mem_zipIdx_iff_getElem?,
      foundDevice?_eq_some_iff, Except.ok.injEq, exists_eq_left']
    constructor
    · rintro ⟨handle, place, listed, rfl, rfl, rfl, rfl, identified⟩
      exact ⟨rfl, rfl, listed, identified⟩
    · rintro ⟨rfl, rfl, listed, identified⟩
      exact ⟨d.handle, d.index, listed, rfl, rfl, rfl, rfl, identified⟩

/-- A device stands in its place of the listing of its driver, which stands in its own place of the
listing of the drivers, and the device can be identified. -/
def FoundDevice.IsListed (stack : Stack H) (d : FoundDevice H) : Prop :=
  ∃ driver, stack.IsDriver d.driver driver d.managementDriver ∧
    ∃ devices, stack.devices driver = .ok devices ∧ devices[d.index]? = some d.handle ∧
      identify stack d.managementDriver d.handle = .ok (d.properties, d.managed)

/-- The devices that are found are all those that are listed and can be identified. -/
theorem mem_foundDevices_iff {d : FoundDevice H} :
    d ∈ foundDevices stack ↔ d.IsListed stack := by
  simp only [FoundDevice.IsListed, foundDevices, List.mem_flatMap, Prod.exists,
    List.mem_zipIdx_iff_getElem?, getElem?_driverPairs_eq_some_iff, mem_driverDevices_iff]
  constructor
  · rintro ⟨driver, managementDriver, index, listed, rfl, rfl, found⟩
    exact ⟨driver, listed, found⟩
  · rintro ⟨driver, listed, found⟩
    exact ⟨driver, d.managementDriver, d.driver, listed, rfl, rfl, found⟩

/-- Devices are found in the order of their drivers and, within a driver, of its listing. -/
theorem pairwise_foundDevices (stack : Stack H) :
    (foundDevices stack).Pairwise fun d e =>
      d.driver < e.driver ∨ d.driver = e.driver ∧ d.index < e.index := by
  refine List.pairwise_flatMap.2 ⟨fun entry _ => ?_, ?_⟩
  · obtain ⟨⟨driver, managementDriver⟩, index⟩ := entry
    unfold driverDevices
    dsimp only
    cases stack.devices driver with
    | error fault => exact .nil
    | ok devices =>
      refine List.pairwise_filterMap.2 ((pairwise_zipIdx devices 0).imp ?_)
      intro x y lt d hd e he
      obtain ⟨same, place, _⟩ := foundDevice?_eq_some_iff.1 hd
      obtain ⟨same', place', _⟩ := foundDevice?_eq_some_iff.1 he
      refine .inr ⟨same.trans same'.symm, ?_⟩
      rw [place, place']
      exact lt
  · refine (pairwise_zipIdx _ 0).imp ?_
    intro x y lt d hd e he
    refine .inl ?_
    rw [(mem_driverDevices_iff.1 hd).1, (mem_driverDevices_iff.1 he).1]
    exact lt

/-! ## Names -/

/-- What a device is called. -/
def deviceName (number : ℕ) : String := s!"ze{number}"

/-- What a subdevice is called. -/
def partName (number k : ℕ) : String := s!"ze{number}.{k}"

theorem toList_deviceName (number : ℕ) :
    (deviceName number).toList = "ze".toList ++ (toString number).toList := by
  rw [deviceName, String.toList_append]
  rfl

theorem toList_partName (number k : ℕ) :
    (partName number k).toList =
      "ze".toList ++ ((toString number).toList ++ '.' :: (toString k).toList) := by
  simp only [partName, String.toList_append, List.append_assoc]
  rfl

/-- Devices of different numbers have different names. -/
theorem deviceName_inj {m n : ℕ} (h : deviceName m = deviceName n) : m = n := by
  have lists := congrArg String.toList h
  rw [toList_deviceName, toList_deviceName, List.append_cancel_left_eq] at lists
  exact Numeral.toString_inj (String.toList_injective lists)

/-- A device is not called like a subdevice, whose name has a dot. -/
theorem deviceName_ne_partName (m n k : ℕ) : deviceName m ≠ partName n k := by
  intro h
  have lists := congrArg String.toList h
  rw [toList_deviceName, toList_partName, List.append_cancel_left_eq] at lists
  refine Numeral.dot_not_mem_toString m ?_
  rw [lists]
  simp

/-- Subdevices of different numbers or devices have different names. -/
theorem partName_inj {m n j k : ℕ} (h : partName m j = partName n k) : m = n ∧ j = k := by
  have lists := congrArg String.toList h
  rw [toList_partName, toList_partName, List.append_cancel_left_eq] at lists
  -- no digit is a dot, so the first dot ends the number of the device
  have split := congrArg (Text.splitFirst '.') lists
  rw [Text.splitFirst_append _ (Numeral.dot_not_mem_toString m),
    Text.splitFirst_append _ (Numeral.dot_not_mem_toString n)] at split
  obtain ⟨front, back⟩ := Prod.mk.inj (Option.some.inj split)
  exact ⟨Numeral.toString_inj (String.toList_injective front),
    Numeral.toString_inj (String.toList_injective back)⟩

/-! ## What the tree tells of a block -/

/-- What an object is called. -/
def Topology.name? (t : Topology) (id : ObjectId) : Option String := (t.object? id).bind (·.name)

/-- The tree tells of a block what it is. The device is named after its number, has the subdevices
for children, and their number, unless there are none, and its place in the listings for infos.
Each subdevice has the device for its parent, and is named and numbered after its place in the
listing of the device. -/
structure Block.Recorded (stack : Stack H) (t : Topology) (b : Block H) : Prop where
  root : ∃ o, t.object? b.root = some o ∧ o.parent.isSome ∧
    o.name = some (deviceName b.number) ∧ o.children = b.parts stack ∧
    o.info? InfoKey.subdevices = (if (b.parts stack).length = 0 then none
      else some (toString (b.parts stack).length)) ∧
    o.info? InfoKey.driverIndex = some (toString b.device.driver) ∧
    o.info? InfoKey.driverDeviceIndex = some (toString b.device.index)
  part : ∀ (i : ℕ) (f : FoundSubdevice H), (b.device.subdevices stack)[i]? = some f →
    ∃ id o, (b.parts stack)[i]? = some id ∧ t.object? id = some o ∧ o.parent = some b.root ∧
      o.name = some (partName b.number f.number) ∧
      o.info? InfoKey.subdeviceId = some (toString f.number)

section Records

variable {t : Topology} {b : Block H}

theorem Block.Settled.recorded (h : b.Settled stack t) : b.Recorded stack t where
  root := by
    obtain ⟨parent, found⟩ := h.root
    have before : ∀ key ∈ InfoKey.structural, _ := fun _ =>
      b.device.info?_rootObject stack b.number b.start
    have uncounted :
        (b.device.rootObject stack b.number b.start).info? InfoKey.subdevices = none := by
      rw [before _ (by decide), if_neg (by decide), if_neg (by decide)]
    refine ⟨_, found, rfl, rfl, rfl, ?_, ?_, ?_⟩
    · rw [Object.info?_settled, uncounted]
      by_cases none : (b.parts stack).length = 0
      · rw [if_neg fun some => some.2 none, if_pos none]
      · rw [if_pos ⟨rfl, none⟩, if_neg none]
    · rw [Object.info?_settled, if_neg fun same => absurd same.1 (by decide), before _ (by decide),
        if_neg (by decide), if_pos rfl]
    · rw [Object.info?_settled, if_neg fun same => absurd same.1 (by decide), before _ (by decide),
        if_pos rfl]
  part i f hf := by
    have listed := b.getElem?_parts stack (List.getElem?_eq_some_iff.1 hf).1
    refine ⟨_, _, listed, h.part i f hf, rfl, rfl, ?_⟩
    exact b.device.info?_partObject stack b.number b.start (by decide) i f

/-- No two subdevices of a device have the same number. -/
theorem FoundDevice.eq_of_number_eq {d : FoundDevice H} {i j : ℕ} {f g : FoundSubdevice H}
    (hf : (d.subdevices stack)[i]? = some f) (hg : (d.subdevices stack)[j]? = some g)
    (same : f.number = g.number) : i = j := by
  have nodup : ((d.subdevices stack).map (·.number)).Nodup :=
    List.pairwise_map.2 ((pairwise_number_foundSubdevices ..).imp Nat.ne_of_lt)
  have within : i < ((d.subdevices stack).map (·.number)).length := by
    rw [List.length_map]
    exact (List.getElem?_eq_some_iff.1 hf).1
  refine (List.getElem?_inj within nodup).1 ?_
  rw [List.getElem?_map, List.getElem?_map, hf, hg, Option.map_some, Option.map_some, same]

/-- Each part of a block is a subdevice, in its place. -/
theorem Block.exists_of_mem_parts {id : ObjectId} (h : id ∈ b.parts stack) :
    ∃ (i : ℕ) (f : FoundSubdevice H), (b.device.subdevices stack)[i]? = some f ∧
      (b.parts stack)[i]? = some id := by
  obtain ⟨i, within, found⟩ := List.mem_iff_getElem.1 h
  have inside : i < (b.device.subdevices stack).length := by
    rwa [Block.length_parts] at within
  exact ⟨i, _, List.getElem?_eq_getElem inside, List.getElem?_eq_some_iff.2 ⟨within, found⟩⟩

/-- The objects of a block are the device and, by their places, the subdevices. -/
theorem Block.mem_nodes_cases {id : ObjectId} (h : id ∈ b.nodes stack) :
    id = b.root ∨ ∃ (i : ℕ) (f : FoundSubdevice H), (b.device.subdevices stack)[i]? = some f ∧
      (b.parts stack)[i]? = some id :=
  (List.mem_cons.1 h).imp_right exists_of_mem_parts

namespace Block.Recorded

theorem name?_root (h : b.Recorded stack t) : t.name? b.root = some (deviceName b.number) := by
  obtain ⟨o, found, _, name, _⟩ := h.root
  rw [Topology.name?, found, Option.bind_some, name]

theorem name?_part (h : b.Recorded stack t) {i : ℕ} {f : FoundSubdevice H} {id : ObjectId}
    (hf : (b.device.subdevices stack)[i]? = some f) (here : (b.parts stack)[i]? = some id) :
    t.name? id = some (partName b.number f.number) := by
  obtain ⟨id', o, here', found, _, name, _⟩ := h.part i f hf
  rw [here] at here'
  cases here'
  rw [Topology.name?, found, Option.bind_some, name]

theorem info?_part (h : b.Recorded stack t) {i : ℕ} {f : FoundSubdevice H} {id : ObjectId}
    (hf : (b.device.subdevices stack)[i]? = some f) (here : (b.parts stack)[i]? = some id) :
    t.info? id InfoKey.subdeviceId = some (toString f.number) := by
  obtain ⟨id', o, here', found, _, _, numbered⟩ := h.part i f hf
  rw [here] at here'
  cases here'
  rw [Topology.info?, found, Option.bind_some, numbered]

/-- All objects of a block are in the tree. -/
theorem isInserted (h : b.Recorded stack t) {id : ObjectId} (own : id ∈ b.nodes stack) :
    t.isInserted id := by
  rcases mem_nodes_cases own with rfl | ⟨i, f, hf, here⟩
  · obtain ⟨o, found, parent, _⟩ := h.root
    simp [Topology.isInserted, found, parent]
  · obtain ⟨id', o, here', found, parent, _⟩ := h.part i f hf
    rw [here] at here'
    cases here'
    simp [Topology.isInserted, found, parent]

/-- All objects of a block have names. -/
theorem isSome_name? (h : b.Recorded stack t) {id : ObjectId} (own : id ∈ b.nodes stack) :
    (t.name? id).isSome := by
  rcases mem_nodes_cases own with rfl | ⟨i, f, hf, here⟩
  · rw [h.name?_root, Option.isSome_some]
  · rw [h.name?_part hf here, Option.isSome_some]

/-- A name tells the object, if the number of a block tells the block. -/
theorem eq_of_name? {b' : Block H} (h : b.Recorded stack t) (h' : b'.Recorded stack t)
    (same : b.number = b'.number → b = b') {id id' : ObjectId} (own : id ∈ b.nodes stack)
    (own' : id' ∈ b'.nodes stack) (names : t.name? id = t.name? id') : id = id' := by
  rcases mem_nodes_cases own with rfl | ⟨i, f, hf, here⟩ <;>
    rcases mem_nodes_cases own' with rfl | ⟨j, g, hg, here'⟩
  · rw [h.name?_root, h'.name?_root, Option.some.injEq] at names
    rw [same (deviceName_inj names)]
  · rw [h.name?_root, h'.name?_part hg here', Option.some.injEq] at names
    exact absurd names (deviceName_ne_partName _ _ _)
  · rw [h.name?_part hf here, h'.name?_root, Option.some.injEq] at names
    exact absurd names.symm (deviceName_ne_partName _ _ _)
  · rw [h.name?_part hf here, h'.name?_part hg here', Option.some.injEq] at names
    obtain ⟨numbers, places⟩ := partName_inj names
    obtain rfl := same numbers
    obtain rfl := FoundDevice.eq_of_number_eq hf hg places
    rw [here] at here'
    exact Option.some.inj here'

end Block.Recorded

end Records

/-! ## The whole registry -/

/-- **The registry of a survey** that has the memory it asks for. It has the new objects in the
order of their numbers, each once, all of them in the tree and under names of their own. It is made
of one block for each device that can be identified, in the order of the drivers and their listings;
the blocks are numbered, and the tree tells of each what it is. -/
theorem registry_survey (stack : Stack H) (t : Topology) (settings : Settings) :
    let s := (survey stack t settings).value
    s.registry.nodes = (List.range' t.size s.added).map ObjectId.mk ∧
    s.registry.nodes.Nodup ∧
    (∀ id ∈ s.registry.nodes, s.topology.isInserted id) ∧
    (∀ id ∈ s.registry.nodes, (s.topology.name? id).isSome) ∧
    (s.registry.nodes.map s.topology.name?).Nodup ∧
    ∃ blocks : List (Block H),
      s.registry.nodes = blocks.flatMap (·.nodes stack) ∧
      blocks.map Block.device = foundDevices stack ∧
      (∀ d : FoundDevice H, d ∈ foundDevices stack ↔ d.IsListed stack) ∧
      (foundDevices stack).Pairwise (fun d e =>
        d.driver < e.driver ∨ d.driver = e.driver ∧ d.index < e.index) ∧
      ∀ (j : ℕ) (b : Block H), blocks[j]? = some b →
        b.number = j ∧ b.Recorded stack s.topology ∧
        (b.device.subdevices stack).Pairwise (fun f g => f.number < g.number) ∧
        ∀ f : FoundSubdevice H, f ∈ b.device.subdevices stack ↔
          (b.device.handles stack)[f.number]? = some f.handle ∧
            identify stack b.device.managementDriver f.handle = .ok (f.properties, f.managed) := by
  intro s
  have h := surveyed_survey stack t settings
  have recorded : ∀ b ∈ surveyBlocks stack t, b.Recorded stack s.topology :=
    fun b listed => (h.settled b listed).recorded
  have block : ∀ id ∈ s.registry.nodes, ∃ b ∈ surveyBlocks stack t,
      id ∈ b.nodes stack := by
    intro id listed
    rw [h.nodes] at listed
    exact List.mem_flatMap.1 listed
  refine ⟨h.numbered, h.nodup, fun id listed => ?_, fun id listed => ?_, ?_,
    surveyBlocks stack t, h.nodes, map_device_blocksFrom 0 t.size _,
    fun d => mem_foundDevices_iff, pairwise_foundDevices stack, fun j b hb =>
      ⟨number_surveyBlocks hb, recorded b (List.mem_of_getElem? hb),
        pairwise_number_foundSubdevices .., fun f => b.device.mem_subdevices_iff stack⟩⟩
  · obtain ⟨b, hb, own⟩ := block id listed
    exact (recorded b hb).isInserted own
  · obtain ⟨b, hb, own⟩ := block id listed
    exact (recorded b hb).isSome_name? own
  · apply h.nodup.map_on
    intro id listed id' listed' names
    obtain ⟨b, hb, own⟩ := block id listed
    obtain ⟨b', hb', own'⟩ := block id' listed'
    exact (recorded b hb).eq_of_name? (recorded b' hb') (eq_of_number_eq hb hb') own own' names

/-! ### Two drivers -/

/-- Two drivers with one device each. Either has the number of its device for a handle, and the one
with the higher number is listed first. -/
def twoDriverStack : Stack ℕ :=
  { ({ drivers := #[{ devices := [0] }, { devices := [1] }]
       devices := #[{ properties := .ok (.accelerator (.tagged 0)) },
         { properties := .ok (.accelerator (.tagged 1)) }] } : Stack.Inventory).stack with
    drivers := .ok [1, 0]
    managementDrivers := .ok [1, 0] }

theorem foundDevices_twoDrivers :
    (foundDevices twoDriverStack).map (fun d => (d.driver, d.index, d.handle)) =
      [(0, 0, 1), (1, 0, 0)] := by
  decide +kernel

/-- The first block is that of the driver that is listed first, whatever its number is. -/
theorem registry_survey_twoDrivers :
    let s := (survey twoDriverStack .initial {}).value
    ∃ a b : Block ℕ, s.registry.nodes = a.nodes twoDriverStack ++ b.nodes twoDriverStack ∧
      (a.device.driver, a.device.index, a.device.handle) = (0, 0, 1) ∧
      (b.device.driver, b.device.index, b.device.handle) = (1, 0, 0) ∧
      s.topology.name? a.root = some "ze0" ∧ s.topology.name? b.root = some "ze1" := by
  intro s
  obtain ⟨-, -, -, -, -, blocks, nodes, devices, -, -, records⟩ :=
    registry_survey twoDriverStack .initial {}
  have found := foundDevices_twoDrivers
  rw [← devices, List.map_map] at found
  obtain ⟨a, rest, rfl, first, found⟩ := List.map_eq_cons_iff.1 found
  obtain ⟨b, rest, rfl, second, none⟩ := List.map_eq_cons_iff.1 found
  obtain rfl := List.map_eq_nil_iff.1 none
  obtain ⟨number, recorded, -⟩ := records 0 a rfl
  obtain ⟨number', recorded', -⟩ := records 1 b rfl
  refine ⟨a, b, by simpa using nodes, first, second, ?_, ?_⟩
  · rw [recorded.name?_root, number]
    rfl
  · rw [recorded'.name?_root, number']
    rfl

end DeviceAtlas
