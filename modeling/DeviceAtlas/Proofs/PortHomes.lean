import DeviceAtlas.Proofs.Outcome
import DeviceAtlas.Proofs.Tree

/-!
# Where ports are at home

Ports are kept before anything is in the tree: a port on a subdevice gets its owner from a table in
which subdevices that could not be identified have a place, but no object. Only afterwards the
objects in the table go into the tree and the registry, without the gaps. In the end each port has
the right owner all the same, whichever subdevices are missing.

* `Block.IsPart`: an object is that of the subdevice which a device lists at a place.
* `Block.Settled.isPart`: what stands in the table at a place is that object.
* `ports_survey`: whose the ports of a survey are.
-/

namespace DeviceAtlas

variable {H : Type} {stack : Stack H} {t : Topology} {b : Block H} {k : ℕ} {id : ObjectId}

/-- An object is that of a subdevice, which the device lists at this place and which could be
identified. Its infos are those of this subdevice, and of all subdevices of the device it is the one
that says so. -/
structure Block.IsPart (stack : Stack H) (t : Topology) (b : Block H) (k : ℕ) (id : ObjectId) :
    Prop where
  mem : id ∈ b.parts stack
  parent : t.parent? id = some b.root
  described : ∃ (i : ℕ) (f : FoundSubdevice H), f.number = k ∧
    (b.device.handles stack)[k]? = some f.handle ∧
    identify stack b.device.managementDriver f.handle = .ok (f.properties, f.managed) ∧
    t.object? id = some { b.device.partObject stack b.number b.start i f with parent := b.root }
  number_iff : ∀ other ∈ b.parts stack,
    t.info? other InfoKey.subdeviceId = some (toString k) ↔ other = id

/-- **What stands in the table at a place is the object of the subdevice that is listed there.** -/
theorem Block.Settled.isPart (h : b.Settled stack t)
    (here : (b.table stack)[k]? = some (some id)) : b.IsPart stack t k id := by
  obtain ⟨i, f, hf, number, own⟩ := exists_of_subdeviceTable_eq_some 0 here
  rw [Nat.zero_add] at number
  have found : t.object? id = some _ := own ▸ h.part i f hf
  have place : (b.parts stack)[i]? = some id :=
    own ▸ b.getElem?_parts stack (List.getElem?_eq_some_iff.1 hf).1
  obtain ⟨listed, identified⟩ :=
    (b.device.mem_subdevices_iff stack).1 (List.mem_of_getElem? hf)
  refine ⟨List.mem_of_getElem? place, ?_, ⟨i, f, number, number ▸ listed, identified, found⟩,
    fun other part => ⟨fun same => ?_, ?_⟩⟩
  · rw [Topology.parent?, found]
    rfl
  · obtain ⟨j, g, hg, place'⟩ := Block.exists_of_mem_parts part
    rw [h.recorded.info?_part hg place', Option.some.injEq] at same
    have numbers := (Numeral.toString_inj same).trans number.symm
    obtain rfl := FoundDevice.eq_of_number_eq hg hf numbers
    rw [place'] at place
    exact Option.some.inj place
  · rintro rfl
    rw [h.recorded.info?_part hf place, number]

/-- **Whose the ports of a survey are.** Each port carries traffic, and its owner is registered. The
management side lists it for a device that could be identified, and has said of it what is kept. If
the port is not on a subdevice, the device owns it. If it is, its owner is the object of the
subdevice that the device lists at the place that the port names; the device is the parent of the
owner and the root of the port, and is registered too. -/
theorem ports_survey (stack : Stack H) (t : Topology) (settings : Settings) :
    let s := (survey stack t settings).value
    ∀ port ∈ s.ports.ports,
      (port.state.status = .healthy ∨ port.state.status = .degraded) ∧
      port.owner ∈ s.registry.nodes ∧
      ∃ b ∈ surveyBlocks stack t, b.device.IsListed stack ∧ b.Recorded stack s.topology ∧
        (∃ handles handle, stack.fabricPorts b.device.managed = .ok handles ∧ handle ∈ handles ∧
          stack.portProperties handle = .ok port.properties ∧
          stack.portState handle = .ok port.state) ∧
        (port.properties.onSubdevice = true →
          b.IsPart stack s.topology port.properties.subdeviceId.toNat port.owner ∧
            port.root = some b.root ∧ b.root ∈ s.registry.nodes) ∧
        (port.properties.onSubdevice = false → port.owner = b.root ∧ port.root = none) := by
  intro s port kept
  have h := surveyed_survey stack t settings
  obtain ⟨b, listed, found⟩ := h.ports port kept
  have settled := h.settled b listed
  have device : b.device ∈ foundDevices stack := by
    rw [← map_device_blocksFrom 0 t.size (foundDevices stack)]
    exact List.mem_map_of_mem listed
  have on := found.on
  unfold Port.IsOn at on
  refine ⟨(Stack.PortStatus.isUsable_iff _).1 found.usable, (h.isRegistered kept).1, b, listed,
    mem_foundDevices_iff.1 device, settled.recorded, found.listed, fun part => ?_, fun whole => ?_⟩
  · rw [if_pos part] at on
    exact ⟨settled.isPart on.2, on.1, h.mem_nodes_of_mem listed List.mem_cons_self⟩
  · rwa [whole, if_neg Bool.false_ne_true] at on

/-- The first port of two linked devices is on the second subdevice of the first of them, whose
first subdevice is missing. -/
theorem ports_survey_linked :
    ∃ port ∈ (survey linkedInventory.stack .initial {}).value.ports.ports,
      port.owner = ⟨2⟩ ∧ port.root = some ⟨1⟩ ∧
      ∃ b : Block ℕ, b.root = ⟨1⟩ ∧
        b.IsPart linkedInventory.stack (survey linkedInventory.stack .initial {}).value.topology 1
          port.owner := by
  have first : ∃ port ∈ (survey linkedInventory.stack .initial {}).value.ports.ports,
      port.properties.onSubdevice = true ∧ port.properties.subdeviceId.toNat = 1 ∧
        port.owner = ⟨2⟩ ∧ port.root = some ⟨1⟩ := by
    decide +kernel
  obtain ⟨port, kept, part, place, owner, device⟩ := first
  obtain ⟨-, -, b, -, -, -, -, home, -⟩ := ports_survey linkedInventory.stack .initial {} port kept
  obtain ⟨own, root, -⟩ := home part
  rw [device, Option.some.injEq] at root
  rw [place] at own
  exact ⟨port, kept, owner, device, b, root.symm, own⟩

end DeviceAtlas
