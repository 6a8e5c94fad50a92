import DeviceAtlas.Proofs.Sites

/-!
# What placing a device does

A device goes under the object that the extension of the core side leads to, or else under the one
that the management side leads to, or else under the root. Whichever it is, it is in the tree, so
that the device can follow. The only trace is the bandwidth of the link, which the answer that
decided may give to a PCI device.

* `Stack.PciLocation.toNat_bandwidth`: the bandwidth that is recorded is the one that was told.
* `Topology.Leads`: an answer leads to an object of the tree.
* `Topology.LinkRecorded`: all that is different once a link is recorded.
* `Topology.leads_place`: where a device goes, and what it leaves behind.
-/

namespace DeviceAtlas

/-! ## Bandwidths -/

namespace Stack.PciLocation

/-- A bandwidth that is told is recorded as it is, and otherwise there is none. -/
theorem toNat_bandwidth (location : Stack.PciLocation) :
    (location.bandwidth.toNat : ℤ) = max 0 location.maxBandwidth.toInt := by
  have signed := BitVec.toInt_eq_toNat_cond location.maxBandwidth.toBitVec
  have small := location.maxBandwidth.toBitVec.isLt
  have told : location.maxBandwidth.toBitVec.toInt = location.maxBandwidth.toInt := rfl
  rw [told] at signed
  unfold bandwidth
  split
  · rename_i negative
    rw [Int64.lt_iff_toInt_lt] at negative
    exact (Int.max_eq_left (Int.le_of_lt negative)).symm
  · rename_i nonneg
    rw [Int64.lt_iff_toInt_lt, Int.not_lt] at nonneg
    change 0 ≤ location.maxBandwidth.toInt at nonneg
    have same : location.maxBandwidth.toUInt64.toNat = location.maxBandwidth.toBitVec.toNat := rfl
    rw [Int.max_eq_right nonneg, same]
    split at signed <;> omega

theorem bandwidth_pos_iff {location : Stack.PciLocation} :
    0 < location.bandwidth ↔ 0 < location.maxBandwidth.toInt := by
  have told := location.toNat_bandwidth
  rw [UInt64.lt_iff_toNat_lt, UInt64.toNat_zero]
  omega

/-- The site at the object that a location leads to. -/
def site (location : Stack.PciLocation) (parent : ObjectId) : Site where
  parent
  bandwidth := if 0 < location.bandwidth then some location.bandwidth else none

end Stack.PciLocation

namespace Topology

variable {t : Topology} {parent : ObjectId} {location : Stack.PciLocation}
  {answer : Stack.Answer Stack.PciLocation} {rest : List (Stack.Answer Stack.PciLocation)}

/-! ## Sites -/

/-- The answer is a location, and its address leads to this object. -/
def Leads (t : Topology) (answer : Stack.Answer Stack.PciLocation) (location : Stack.PciLocation)
    (parent : ObjectId) : Prop :=
  answer = .ok location ∧ (t.findParent location.address).value = some parent

/-- An answer that leads to an object makes it the site. -/
theorem siteOf_cons_of_leads (h : t.Leads answer location parent) :
    t.siteOf (answer :: rest) = location.site parent := by
  obtain ⟨rfl, found⟩ := h
  exact t.siteOf_cons_of_some found

/-- An answer that leads nowhere is passed over. -/
theorem siteOf_cons_of_not_leads (h : ∀ location parent, ¬ t.Leads answer location parent) :
    t.siteOf (answer :: rest) = t.siteOf rest := by
  cases answer with
  | error fault => rfl
  | ok location =>
    refine t.siteOf_cons_of_none (Option.eq_none_iff_forall_ne_some.2 fun parent found => ?_)
    exact h location parent ⟨rfl, found⟩

/-! ## Links -/

/-- All that is different once the link to an object is recorded, of which this bandwidth is told.
A positive bandwidth becomes that of the PCI device that the object is, and nothing else changes. If
the bandwidth is not positive or the object is no PCI device, nothing changes at all. -/
structure LinkRecorded (t t' : Topology) (parent : ObjectId) (told : ℤ) : Prop where
  known : ∀ o d, t.object? parent = some o → o.attributes = some (.pci d) → 0 < told →
    ∃ bandwidth : UInt64, (bandwidth.toNat : ℤ) = told ∧
      t'.object? parent =
        some { o with attributes := some (.pci { d with maxBandwidth := some bandwidth }) }
  others : ∀ id ≠ parent, t'.object? id = t.object? id
  context : t'.context = t.context
  unknown : told ≤ 0 ∨ t.pciDevice? parent = none → t' = t

theorem linkRecorded_mapAttributes (t : Topology) (parent : ObjectId)
    (location : Stack.PciLocation) :
    t.LinkRecorded (t.mapAttributes parent (.record (location.site parent).bandwidth)) parent
      location.maxBandwidth.toInt where
  known o d found device told := by
    have positive := Stack.PciLocation.bandwidth_pos_iff.2 told
    have same := location.toNat_bandwidth
    rw [Int.max_eq_right (Int.le_of_lt told)] at same
    refine ⟨location.bandwidth, same, ?_⟩
    rw [object?_mapAttributes, found, Option.map_some, if_pos rfl, device,
      Stack.PciLocation.site, if_pos positive]
    rfl
  others id other := by
    rw [object?_mapAttributes]
    simp only [if_neg other]
    exact Option.map_id'
  context := t.context_mapAttributes ..
  unknown nothing := by
    by_cases told : 0 < location.maxBandwidth.toInt
    · have other : t.pciDevice? parent = none := by
        rcases nothing with unknown | other
        · omega
        · exact other
      rw [Stack.PciLocation.site, if_pos (Stack.PciLocation.bandwidth_pos_iff.2 told)]
      exact mapAttributes_withMaxBandwidth_of_pciDevice? other location.bandwidth
    · have unknown : ¬ 0 < location.bandwidth := mt Stack.PciLocation.bandwidth_pos_iff.1 told
      rw [Stack.PciLocation.site, if_neg unknown]
      exact t.mapAttributes_id parent

/-! ## Placing -/

variable {H : Type}

theorem value_place (stack : Stack H) (t : Topology) (device managed : H) :
    let site := t.siteOf [stack.pciLocation device, stack.managedPciLocation managed]
    (t.place stack device managed).value =
      (t.mapAttributes site.parent (.record site.bandwidth), site.parent) :=
  t.value_placeAt _

/-- **Where a device goes, and what it leaves behind.** The object that a device goes under is in
the tree, before and after. It is the one that the extension of the core side leads to, and the
bandwidth told there is recorded. If that leads nowhere, it is the one that the management side
leads to, with the bandwidth told there. If that leads nowhere either, it is the root, and the
topology stays as it was. -/
theorem leads_place (stack : Stack H) (t : Topology) (device managed : H) :
    let placed := (t.place stack device managed).value
    let core := stack.pciLocation device
    let management := stack.managedPciLocation managed
    ((t.object? placed.2).isSome ∧ t.isInserted placed.2 ∧ placed.1.isInserted placed.2) ∧
    (∀ location parent, t.Leads core location parent →
      placed.2 = parent ∧ t.LinkRecorded placed.1 parent location.maxBandwidth.toInt) ∧
    ((∀ location parent, ¬ t.Leads core location parent) →
      (∀ location parent, t.Leads management location parent →
        placed.2 = parent ∧ t.LinkRecorded placed.1 parent location.maxBandwidth.toInt) ∧
      ((∀ location parent, ¬ t.Leads management location parent) → placed = (t, root))) := by
  intro placed core management
  have value : placed = _ := t.value_place stack device managed
  have decided : ∀ (location : Stack.PciLocation) (parent : ObjectId),
      t.siteOf [core, management] = location.site parent →
      placed.2 = parent ∧ t.LinkRecorded placed.1 parent location.maxBandwidth.toInt := by
    intro location parent site
    rw [value, site]
    exact ⟨rfl, t.linkRecorded_mapAttributes parent location⟩
  refine ⟨?_, fun location parent leads => decided _ _ (siteOf_cons_of_leads leads),
    fun passed => ?_⟩
  · have place := t.isPlace_siteOf [core, management]
    rw [value]
    exact ⟨place.known, place.inserted, (isInserted_mapAttributes ..).trans place.inserted⟩
  · refine ⟨fun location parent leads => decided _ _ ?_, fun passed' => ?_⟩
    · rw [siteOf_cons_of_not_leads passed, siteOf_cons_of_leads leads]
    · have nowhere : t.siteOf [core, management] = ⟨root, none⟩ := by
        rw [siteOf_cons_of_not_leads passed, siteOf_cons_of_not_leads passed', siteOf_nil]
      rw [value, nowhere]
      exact congrArg (·, root) (t.mapAttributes_id root)

end Topology

end DeviceAtlas
