import DeviceAtlas.Discovery.Survey
import DeviceAtlas.Proofs.Notes
import Mathlib.Data.List.Basic
import Mathlib.Data.List.Find

/-!
# Sites

A device goes under the object that its location leads to, where the bandwidth of the link is
recorded. Which object that is depends on bridges and PCI devices only, so that it is all the same
how many devices were placed before.

* `Topology.siteOf`: the site that some locations lead to.
* `Topology.value_placeAt`: a device is placed at its site.
* `Topology.SameLeads.siteOf_eq`: sites do not change while devices are placed.
-/

namespace DeviceAtlas

/-- Where a device goes. -/
structure Site where
  /-- The object that the device goes under. -/
  parent : ObjectId
  /-- The bandwidth of the link that leads there, if it is known. -/
  bandwidth : Option UInt64
  deriving DecidableEq, Repr

/-- The same attributes with a link bandwidth, if there is one and they are of a PCI device. -/
def Attributes.record (bandwidth : Option UInt64) (a : Attributes) : Attributes :=
  match bandwidth with
  | some bandwidth => a.withMaxBandwidth bandwidth
  | none => a

namespace Attributes

/-- Only the last bandwidth is kept. -/
theorem record_record (first last : Option UInt64) (a : Attributes) :
    (a.record first).record last = a.record (last.or first) := by
  cases first <;> cases last <;> cases a <;> rfl

@[simp] theorem pci?_record_address (bandwidth : Option UInt64) (a : Attributes) :
    (a.record bandwidth).pci?.map (·.address) = a.pci?.map (·.address) := by
  cases bandwidth <;> cases a <;> rfl

@[simp] theorem bridge?_record (bandwidth : Option UInt64) (a : Attributes) :
    (a.record bandwidth).bridge? = a.bridge? := by
  cases bandwidth <;> cases a <;> rfl

end Attributes

/-- What becomes of an object when devices go under it, one after another. Of the bandwidths of the
links the last one stays. -/
def Object.hosting (guests : List ObjectId) (bandwidth : Option UInt64) (o : Object) : Object :=
  { o with
    children := o.children ++ guests
    attributes := o.attributes.map (.record bandwidth) }

@[simp] theorem Object.hosting_nil (o : Object) : o.hosting [] none = o := by
  have same : o.attributes.map (.record none) = o.attributes := Option.map_id'
  rw [hosting, same, List.append_nil]

theorem Object.hosting_hosting (o : Object) (guests guests' : List ObjectId)
    (first last : Option UInt64) :
    (o.hosting guests first).hosting guests' last =
      o.hosting (guests ++ guests') (last.or first) := by
  simp only [hosting, List.append_assoc, Option.map_map, Function.comp_def,
    Attributes.record_record]

namespace Topology

variable {t : Topology} {parent id : ObjectId}

/-! ## Places -/

/-- Objects of a kind that are in the tree are known, of that kind, and in the tree. -/
theorem of_mem_insertedOfKind {kind : ObjectKind} (h : id ∈ t.insertedOfKind kind) :
    (∃ o, t.object? id = some o ∧ o.kind = kind) ∧ t.isInserted id := by
  have chosen := (List.mem_filter.1 h).2
  rw [Bool.and_eq_true, Option.any_eq_true] at chosen
  obtain ⟨⟨o, found, same⟩, inserted⟩ := chosen
  exact ⟨⟨o, found, of_decide_eq_true same⟩, inserted⟩

/-- A place for a device: an object of the tree that is the root or of a kind that devices are not
of. -/
structure IsPlace (t : Topology) (parent : ObjectId) : Prop where
  known : (t.object? parent).isSome
  inserted : t.isInserted parent
  kind : parent = root ∨ ∀ o, t.object? parent = some o → o.kind ≠ .osDevice

theorem isPlace_root (t : Topology) : t.IsPlace root where
  known := by simp
  inserted := by simp [isInserted]
  kind := .inl rfl

theorem isPlace_of_mem {kind : ObjectKind} (h : id ∈ t.insertedOfKind kind)
    (other : kind ≠ .osDevice) : t.IsPlace id := by
  obtain ⟨⟨o, found, same⟩, inserted⟩ := of_mem_insertedOfKind h
  refine ⟨Option.isSome_of_eq_some found, inserted, .inr fun o' found' => ?_⟩
  rw [found] at found'
  cases found'
  rw [same]
  exact other

/-- Whatever object an address leads to is a place for a device. -/
theorem isPlace_of_findParent {address : Pci.Address}
    (h : (t.findParent address).value = some parent) : t.IsPlace parent := by
  unfold findParent at h
  split at h
  · rename_i device found
    cases h
    exact isPlace_of_mem (List.mem_of_find?_eq_some found) (by decide)
  · split at h
    · rename_i bridge found
      cases h
      obtain ⟨⟨width, id⟩, narrowest, same⟩ := Option.map_eq_some_iff.1 found
      have covering := List.minOn?_mem narrowest
      obtain ⟨id', listed, covers⟩ := List.mem_filterMap.1 covering
      obtain ⟨b, _, entry⟩ := Option.map_eq_some_iff.1 covers
      cases entry
      cases same
      exact isPlace_of_mem listed (by decide)
    · cases h

/-! ## Attributes -/

/-- Change the attributes of an object, if it has any. -/
def mapAttributes (t : Topology) (id : ObjectId) (change : Attributes → Attributes) : Topology :=
  t.modify id fun o => { o with attributes := o.attributes.map change }

@[simp] theorem mapAttributes_id (t : Topology) (id : ObjectId) :
    t.mapAttributes id (fun a => a) = t :=
  modify_eq_self fun o _ => by rw [Option.map_id']

@[simp] theorem size_mapAttributes (t : Topology) (id : ObjectId)
    (change : Attributes → Attributes) : (t.mapAttributes id change).size = t.size :=
  size_modify ..

@[simp] theorem context_mapAttributes (t : Topology) (id : ObjectId)
    (change : Attributes → Attributes) : (t.mapAttributes id change).context = t.context := rfl

theorem object?_mapAttributes (t : Topology) (other id : ObjectId)
    (change : Attributes → Attributes) :
    (t.mapAttributes other change).object? id = (t.object? id).map fun o =>
      if id = other then { o with attributes := o.attributes.map change } else o := by
  rw [mapAttributes, object?_modify]
  split
  · rfl
  · exact Option.map_id'.symm

@[simp] theorem isInserted_mapAttributes (t : Topology) (other id : ObjectId)
    (change : Attributes → Attributes) :
    (t.mapAttributes other change).isInserted id = t.isInserted id := by
  rw [isInserted, isInserted, object?_mapAttributes, Option.any_map]
  have parents : ∀ o : Object, (if id = other then
      { o with attributes := o.attributes.map change } else o).parent = o.parent := by
    intro o
    split <;> rfl
  simp only [parents]

/-- A bandwidth that is recorded for an object which is no PCI device is lost. -/
theorem mapAttributes_withMaxBandwidth_of_pciDevice? {id : ObjectId}
    (other : t.pciDevice? id = none) (bandwidth : UInt64) :
    t.mapAttributes id (·.withMaxBandwidth bandwidth) = t := by
  refine modify_eq_self fun o found => ?_
  rw [pciDevice?, found, Option.bind_some] at other
  obtain ⟨kind, subtype, osIndex, name, infos, attributes, parent, children⟩ := o
  rcases attributes with _ | device | bridge | classes
  · rfl
  · cases other
  · rfl
  · rfl

/-! ## Sites -/

/-- The first of some locations that leads to an object of the tree, and this object. -/
def deciding? (t : Topology) (locations : List (Stack.Answer Stack.PciLocation)) :
    Option (Stack.PciLocation × ObjectId) :=
  locations.findSome? fun answer => answer.toOption.bind fun location =>
    (t.findParent location.address).value.map fun parent => (location, parent)

/-- The site that some locations lead to; the root if none of them leads anywhere. -/
def siteOf (t : Topology) (locations : List (Stack.Answer Stack.PciLocation)) : Site :=
  match t.deciding? locations with
  | some (location, parent) =>
    ⟨parent, if 0 < location.bandwidth then some location.bandwidth else none⟩
  | none => ⟨root, none⟩

section Site

variable (t : Topology) {location : Stack.PciLocation}
  {rest : List (Stack.Answer Stack.PciLocation)}

@[simp] theorem siteOf_nil : t.siteOf [] = ⟨root, none⟩ := rfl

theorem siteOf_cons_of_none (h : (t.findParent location.address).value = none) :
    t.siteOf (.ok location :: rest) = t.siteOf rest := by
  simp [siteOf, deciding?, Except.toOption, h]

theorem siteOf_cons_of_some {parent : ObjectId}
    (h : (t.findParent location.address).value = some parent) :
    t.siteOf (.ok location :: rest) =
      ⟨parent, if 0 < location.bandwidth then some location.bandwidth else none⟩ := by
  simp [siteOf, deciding?, Except.toOption, h]

theorem isPlace_siteOf (locations : List (Stack.Answer Stack.PciLocation)) :
    t.IsPlace (t.siteOf locations).parent := by
  induction locations with
  | nil => exact t.isPlace_root
  | cons answer rest ih =>
    cases answer with
    | error fault => exact ih
    | ok location =>
      cases found : (t.findParent location.address).value with
      | none => rwa [t.siteOf_cons_of_none found]
      | some parent =>
        rw [t.siteOf_cons_of_some found]
        exact isPlace_of_findParent found

/-- **A device is placed at its site**, where the bandwidth is recorded. -/
theorem value_placeAt (locations : List (Stack.Answer Stack.PciLocation)) :
    (t.placeAt locations).value =
      (t.mapAttributes (t.siteOf locations).parent (.record (t.siteOf locations).bandwidth),
        (t.siteOf locations).parent) := by
  induction locations with
  | nil => exact congrArg (·, root) (t.mapAttributes_id root).symm
  | cons answer rest ih =>
    cases answer with
    | error fault => exact ih
    | ok location =>
      rw [placeAt, Logged.value_bind]
      cases found : (t.findParent location.address).value with
      | none =>
        rw [t.siteOf_cons_of_none found]
        exact ih
      | some parent =>
        rw [t.siteOf_cons_of_some found]
        simp only [recordBandwidth, Logged.value_bind]
        by_cases known : 0 < location.bandwidth
        · rw [if_pos known]
          by_cases device : (t.pciDevice? parent).isSome
          · rw [if_pos ⟨known, device⟩]
            rfl
          · have other := Option.not_isSome_iff_eq_none.1 device
            rw [if_neg fun both => device both.2]
            exact congrArg (·, parent)
              (mapAttributes_withMaxBandwidth_of_pciDevice? other location.bandwidth).symm
        · rw [if_neg known, if_neg fun both => known both.1]
          exact congrArg (·, parent) (t.mapAttributes_id parent).symm

end Site

/-! ## Leads -/

end Topology

/-- What leads a device to an object. -/
structure Lead where
  kind : ObjectKind
  isInserted : Bool
  address : Option Pci.Address
  bridge : Option Pci.Bridge

/-- What leads a device to this object. -/
def Object.lead (o : Object) : Lead where
  kind := o.kind
  isInserted := o.parent.isSome
  address := (o.attributes.bind Attributes.pci?).map (·.address)
  bridge := o.attributes.bind Attributes.bridge?

/-- Devices that go under an object lead nowhere else. -/
@[simp] theorem Object.lead_hosting (guests : List ObjectId) (bandwidth : Option UInt64)
    (o : Object) : (o.hosting guests bandwidth).lead = o.lead := by
  obtain ⟨kind, subtype, osIndex, name, infos, attributes, parent, children⟩ := o
  cases attributes <;> simp [hosting, lead]

namespace Topology

/-- Objects that were there lead devices to them as before, and new ones lead nowhere. -/
structure SameLeads (t t' : Topology) : Prop where
  size_le : t.size ≤ t'.size
  old : ∀ id : ObjectId, id.index < t.size →
    (t'.object? id).map Object.lead = (t.object? id).map Object.lead
  new : ∀ (id : ObjectId) (o : Object), t.size ≤ id.index → t'.object? id = some o →
    o.kind = .osDevice

namespace SameLeads

variable {t t' t'' : Topology}

theorem refl (t : Topology) : t.SameLeads t where
  size_le := Nat.le_refl _
  old _ _ := rfl
  new id o beyond found := by
    have within := (t.object?_isSome_iff id).1 (Option.isSome_of_eq_some found)
    exact absurd within (Nat.not_lt.2 beyond)

theorem trans (h : t.SameLeads t') (h' : t'.SameLeads t'') : t.SameLeads t'' where
  size_le := Nat.le_trans h.size_le h'.size_le
  old id within := (h'.old id (Nat.lt_of_lt_of_le within h.size_le)).trans (h.old id within)
  new id o beyond found := by
    by_cases before : id.index < t'.size
    · have same := h'.old id before
      rw [found] at same
      obtain ⟨o', found', leads⟩ := Option.map_eq_some_iff.1 same.symm
      have kinds : o'.kind = o.kind := congrArg Lead.kind leads
      rw [← kinds]
      exact h.new id o' beyond found'
    · exact h'.new id o (Nat.not_lt.1 before) found

theorem isInserted_eq (h : t.SameLeads t') {id : ObjectId} (within : id.index < t.size) :
    t'.isInserted id = t.isInserted id := by
  have told : ∀ u : Topology, u.isInserted id =
      (decide (id = root) || ((u.object? id).map Object.lead).any Lead.isInserted) := fun u => by
    rw [isInserted, Option.any_map]
    rfl
  rw [told, h.old id within, ← told]

theorem insertedOfKind_eq (h : t.SameLeads t') {kind : ObjectKind} (other : kind ≠ .osDevice) :
    t'.insertedOfKind kind = t.insertedOfKind kind := by
  have size : t'.size = t.size + (t'.size - t.size) := by
    have := h.size_le
    omega
  have told : ∀ (u : Topology) (id : ObjectId), (u.object? id).any (·.kind = kind) =
      ((u.object? id).map Object.lead).any (·.kind = kind) := fun u id => by
    rw [Option.any_map]
    rfl
  have none : (((List.range (t'.size - t.size)).map (t.size + ·)).map ObjectId.mk).filter
      (fun id => (t'.object? id).any (·.kind = kind) && t'.isInserted id) = [] := by
    refine List.filter_eq_nil_iff.2 fun id listed chosen => ?_
    rw [Bool.and_eq_true, Option.any_eq_true] at chosen
    obtain ⟨⟨o, found, same⟩, _⟩ := chosen
    obtain ⟨i, beyond, rfl⟩ := List.mem_map.1 listed
    obtain ⟨j, _, rfl⟩ := List.mem_map.1 beyond
    exact other ((of_decide_eq_true same).symm.trans (h.new _ o (Nat.le_add_right ..) found))
  unfold insertedOfKind ids
  rw [size, List.range_add, List.map_append, List.filter_append, none, List.append_nil]
  refine List.filter_congr fun id listed => ?_
  obtain ⟨i, within, rfl⟩ := List.mem_map.1 listed
  have before : i < t.size := List.mem_range.1 within
  rw [told, h.old _ before, ← told, h.isInserted_eq before]

theorem lt_of_mem_insertedOfKind {kind : ObjectKind} {id : ObjectId}
    (listed : id ∈ t.insertedOfKind kind) : id.index < t.size := by
  obtain ⟨⟨o, found, _⟩, _⟩ := of_mem_insertedOfKind listed
  exact (t.object?_isSome_iff id).1 (Option.isSome_of_eq_some found)

theorem findParent_eq (h : t.SameLeads t') (address : Pci.Address) :
    (t'.findParent address).value = (t.findParent address).value := by
  have addresses : ∀ (u : Topology) (id : ObjectId), (u.pciDevice? id).any (·.address = address) =
      ((u.object? id).map Object.lead).any fun lead => lead.address.any (· = address) := by
    intro u id
    rw [pciDevice?]
    cases u.object? id with
    | none => rfl
    | some o =>
      dsimp only [Option.bind_some, Option.map_some, Option.any_some, Object.lead]
      rw [Option.any_map]
  have bridges : ∀ (u : Topology) (id : ObjectId), u.bridge? id =
      ((u.object? id).map Object.lead).bind Lead.bridge := by
    intro u id
    rw [bridge?]
    cases u.object? id <;> rfl
  have devices : t'.pciDeviceAt? address = t.pciDeviceAt? address := by
    unfold pciDeviceAt?
    rw [h.insertedOfKind_eq (by decide)]
    refine List.find?_congr fun id listed => ?_
    rw [addresses, h.old id (lt_of_mem_insertedOfKind listed), ← addresses]
  have covering : t'.coveringBridges address = t.coveringBridges address := by
    unfold coveringBridges
    rw [h.insertedOfKind_eq (by decide)]
    refine List.filterMap_congr fun id listed => ?_
    rw [bridges, h.old id (lt_of_mem_insertedOfKind listed), ← bridges]
  unfold findParent narrowestBridge?
  rw [devices, covering]

/-- **Sites do not change while devices are placed.** -/
theorem siteOf_eq (h : t.SameLeads t') (locations : List (Stack.Answer Stack.PciLocation)) :
    t'.siteOf locations = t.siteOf locations := by
  have same : t'.deciding? locations = t.deciding? locations := by
    unfold deciding?
    congr 1
    funext answer
    simp only [h.findParent_eq]
  rw [siteOf, siteOf, same]

end SameLeads

end Topology

end DeviceAtlas
