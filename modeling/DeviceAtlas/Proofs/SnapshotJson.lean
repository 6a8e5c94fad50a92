import DeviceAtlas.Distance
import DeviceAtlas.Proofs.JsonRecords
import DeviceAtlas.Proofs.MaskText
import DeviceAtlas.Proofs.Notes
import DeviceAtlas.Proofs.Numerals
import DeviceAtlas.Proofs.SnapshotWalk

/-!
# Written snapshots and matrices are read back

A snapshot is written with what is known of its objects and nothing else: missing values, empty
infos and empty lists of children are left out. Reading asks for fields by name and supplies what
was left out. Each part of a record is read back from any object that has its fields, so that tags,
children and other fields around it do not matter; a tree is then read back from the leaves upwards.

Numbers of objects have no bound here, but are written and read with sixty-four bits.

* `InfoMap.ofJson?_toJson`, `Attributes.ofJson?_toJson`: infos and attributes are read back.
* `Snapshot.ofJson?_toJson`, `Distance.Matrix.ofJson?_toJson`: so are snapshots and matrices.
* `json_roundTrip`: different snapshots, and different matrices, are written differently.
-/

namespace DeviceAtlas

/-! ## Numbers and infos -/

/-- Numbers of objects are written with sixty-four bits. -/
def ObjectId.Fits (id : ObjectId) : Prop := id.index < UInt64.size

instance (id : ObjectId) : Decidable id.Fits := inferInstanceAs (Decidable (_ < _))

theorem ObjectId.ofJson?_toJson {id : ObjectId} (fits : id.Fits) : ofJson? id.toJson = some id := by
  rw [ofJson?, toJson, Json.nat?_ofNat fits]
  rfl

namespace InfoMap

/-- An entry whose key comes after all others is put at the end. -/
theorem insertEntry_of_forall_lt {key value : String} {entries : List (String × String)}
    (last : ∀ e ∈ entries, e.1 < key) :
    insertEntry key value entries = entries ++ [(key, value)] := by
  induction entries with
  | nil => rfl
  | cons entry rest ih =>
    have before := last entry List.mem_cons_self
    have ne : key ≠ entry.1 := fun same => String.lt_irrefl key (same ▸ before)
    rw [insertEntry, if_neg (String.lt_asymm before), if_neg ne,
      ih fun e listed => last e (List.mem_cons_of_mem _ listed), List.cons_append]

/-- Entries that are written in their order stay in it. -/
theorem entries_write {m : InfoMap} {writes : List (String × String)}
    (ordered : (m.entries ++ writes).Pairwise fun a b => a.1 < b.1) :
    (m.write writes).entries = m.entries ++ writes := by
  induction writes generalizing m with
  | nil => exact (List.append_nil _).symm
  | cons w rest ih =>
    have last : ∀ e ∈ m.entries, e.1 < w.1 := fun e listed =>
      (List.pairwise_append.1 ordered).2.2 e listed w List.mem_cons_self
    have grown : (m.insert w.1 w.2).entries = m.entries ++ [w] := insertEntry_of_forall_lt last
    rw [write_cons, ih (by simpa [grown] using ordered), grown, List.append_assoc,
      List.singleton_append]

theorem eq_empty {m : InfoMap} (none : m.entries = []) : m = empty :=
  ext_get? fun key => by rw [get?, none, List.lookup_nil, get?_empty]

/-- The entries of a map, written in their order, make it up. -/
theorem ofList_entries (m : InfoMap) : ofList m.entries = m := by
  have entries : (ofList m.entries).entries = m.entries :=
    entries_write (m := empty) (by simpa [empty] using m.ordered)
  exact ext_get? fun key => congrArg (List.lookup key) entries

/-- **Infos are read back.** -/
theorem ofJson?_toJson (m : InfoMap) : ofJson? m.toJson = some m := by
  have fields : (m.entries.map fun e => (e.1, Json.text e.2)).mapM
      (fun field => field.2.text?.map fun value => (field.1, value)) = some m.entries :=
    Json.mapM_map fun _ _ => rfl
  simp only [ofJson?, toJson, Json.fields?]
  rw [Option.bind_eq_bind, Option.bind_some, fields]
  simp [ofList_entries]

end InfoMap

/-! ## Attributes -/

theorem OsDevice.Classes.ofJson?_toJson (c : Classes) : ofJson? c.toJson = some c := by
  rw [ofJson?, toJson, Json.text?, Option.bind_some, wellFormed_table.read_text, Option.map_some]

theorem Distance.Kind.ofJson?_toJson (k : Kind) : ofJson? k.toJson = some k := by
  rw [ofJson?, toJson, Json.text?, Option.bind_some, wellFormed_table.read_text, Option.map_some]

namespace Pci

theorem VendorId.ofJson?_toJson (v : VendorId) : ofJson? v.toJson = some v := by
  rw [ofJson?, toJson, Json.text?, Option.bind_some, parse_toText]
  rfl

theorem Address.ofJson?_toJson (a : Address) : ofJson? a.toJson = some a := by
  rw [ofJson?, toJson, Json.text?, Option.bind_some, parse_toText]
  rfl

/-- A device is read back from any object with its fields. -/
theorem Device.ofJson?_object {d : Device} {fs : List (String × Json)}
    (has : ∀ name ∈ ["address", "vendor_id", "device_id", "max_bandwidth"],
      fs.lookup name = d.fields.lookup name) : ofJson? (.object fs) = some d := by
  simp only [List.forall_mem_cons, fields, List.lookup_append, Json.lookup_optionalField] at has
  obtain ⟨address, vendor, deviceId, bandwidth, -⟩ := has
  have address : (Json.object fs).required "address" Address.ofJson? = some d.address :=
    Json.required_of_field? (by simp [address]) d.address.ofJson?_toJson
  have vendor : (Json.object fs).required "vendor_id" VendorId.ofJson? = some d.vendor :=
    Json.required_of_field? (by simp [vendor]) d.vendor.ofJson?_toJson
  have deviceId : (Json.object fs).required "device_id" Json.uint16? = some d.deviceId :=
    Json.required_of_field? (by simp [deviceId]) (Json.uint16?_ofNat d.deviceId)
  have bandwidth : (Json.object fs).optional "max_bandwidth" Json.uint64? = some d.maxBandwidth :=
    Json.optional_uint64?_of_field? (by simp [bandwidth])
  simp [ofJson?, address, vendor, deviceId, bandwidth]

/-- A bridge is read back from any object with its fields. -/
theorem Bridge.ofJson?_object {b : Bridge} {fs : List (String × Json)}
    (has : ∀ name ∈ ["domain", "secondary_bus", "subordinate_bus"],
      fs.lookup name = b.fields.lookup name) : ofJson? (.object fs) = some b := by
  simp only [List.forall_mem_cons, fields] at has
  obtain ⟨domain, secondary, subordinate, -⟩ := has
  have domain : (Json.object fs).required "domain" Json.uint32? = some b.domain :=
    Json.required_of_field? (by simp [domain]) (Json.uint32?_ofNat b.domain)
  have secondary : (Json.object fs).required "secondary_bus" Json.uint8? = some b.secondaryBus :=
    Json.required_of_field? (by simp [secondary]) (Json.uint8?_ofNat b.secondaryBus)
  have subordinate :
      (Json.object fs).required "subordinate_bus" Json.uint8? = some b.subordinateBus :=
    Json.required_of_field? (by simp [subordinate]) (Json.uint8?_ofNat b.subordinateBus)
  simp [ofJson?, domain, secondary, subordinate]

end Pci

namespace Attributes

variable {fs : List (String × Json)}

theorem ofJson?_of_pci (tag : fs.lookup "type" = some (.text "Pci")) :
    ofJson? (.object fs) = (Pci.Device.ofJson? (.object fs)).map .pci := by
  simp [ofJson?, Json.tagged?, tag, Json.text?]

theorem ofJson?_of_bridge (tag : fs.lookup "type" = some (.text "Bridge")) :
    ofJson? (.object fs) = (Pci.Bridge.ofJson? (.object fs)).map .bridge := by
  simp [ofJson?, Json.tagged?, tag, Json.text?]

theorem ofJson?_of_osDevice (tag : fs.lookup "type" = some (.text "OsDevice")) :
    ofJson? (.object fs) =
      ((Json.object fs).required "types" OsDevice.Classes.ofJson?).map .osDevice := by
  simp [ofJson?, Json.tagged?, tag, Json.text?]

/-- **Attributes are read back.** The tag says which case the fields are of. -/
theorem ofJson?_toJson (a : Attributes) : ofJson? a.toJson = some a := by
  cases a with
  | pci d =>
    rw [toJson, ofJson?_of_pci (by simp [tag]), Pci.Device.ofJson?_object (d := d) (by simp)]
    rfl
  | bridge b =>
    rw [toJson, ofJson?_of_bridge (by simp [tag]), Pci.Bridge.ofJson?_object (b := b) (by simp)]
    rfl
  | osDevice c =>
    rw [toJson, ofJson?_of_osDevice (by simp [tag]),
      Json.required_of_field? (by simp) c.ofJson?_toJson]
    rfl

end Attributes

/-! ## Trees and matrices -/

namespace Snapshot

/-- A label is read back from any object with its fields. -/
theorem labelOfJson?_object {l : SnapshotLabel} (fits : l.id.Fits) {fs : List (String × Json)}
    (has : ∀ name ∈ ["id", "type", "subtype", "os_index", "name", "properties", "attributes"],
      fs.lookup name = (labelFields l).lookup name) : labelOfJson? (.object fs) = some l := by
  simp only [List.forall_mem_cons, labelFields, List.lookup_append, Json.lookup_optionalField,
    Json.lookup_cons_eq, Json.lookup_ite] at has
  obtain ⟨id, kind, subtype, osIndex, name, properties, attributes, -⟩ := has
  have id : (Json.object fs).required "id" ObjectId.ofJson? = some l.id :=
    Json.required_of_field? (by simp [id]) (ObjectId.ofJson?_toJson fits)
  have kind : (Json.object fs).required "type" Json.text? = some l.kind :=
    Json.required_of_field? (show _ = some (.text l.kind) by simp [kind]) rfl
  have subtype : (Json.object fs).optional "subtype" Json.text? = some l.subtype :=
    Json.optional_text?_of_field? (by simp [subtype])
  have osIndex : (Json.object fs).optional "os_index" Json.uint64? = some l.osIndex :=
    Json.optional_uint64?_of_field? (by simp [osIndex])
  have name : (Json.object fs).optional "name" Json.text? = some l.name :=
    Json.optional_text?_of_field? (by simp [name])
  have properties : (Json.object fs).withDefault "properties" .empty InfoMap.ofJson? =
      some l.infos := by
    refine Json.withDefault_of_field? ?_ l.infos.ofJson?_toJson
    by_cases none : l.infos.entries = []
    · exact .inr ⟨by simp [properties, none], InfoMap.eq_empty none⟩
    · exact .inl (by simp [properties, none])
  have attributes : (Json.object fs).optional "attributes" Attributes.ofJson? =
      some l.attributes :=
    Json.optional_of_field? Attributes.toJson (by simp [attributes])
      Attributes.ofJson?_toJson (by simp [Attributes.toJson])
  simp [labelOfJson?, id, kind, subtype, osIndex, name, properties, attributes]

theorem toJsonAll_eq_map (trees : List Snapshot) : toJsonAll trees = trees.map toJson := by
  induction trees with
  | nil => rfl
  | cons s rest ih => rw [toJsonAll, ih, List.map_cons]

theorem toJson_node (label : SnapshotLabel) (children : List Snapshot) :
    (node label children).toJson = .object (labelFields label ++
      if children = [] then [] else [("children", .list (children.map toJson))]) := by
  cases children <;> simp [toJson, toJsonAll_eq_map]

/-- What a tree is read from: the fields of its label, and its children if there are any. -/
theorem ofJson?_object {fs : List (String × Json)} {label : SnapshotLabel}
    {children : List Snapshot} {items : List Json} (top : labelOfJson? (.object fs) = some label)
    (found : fs.lookup "children" = if items = [] then none else some (.list items))
    (below : items.mapM ofJson? = some children) :
    ofJson? (.object fs) = some (node label children) := by
  rw [ofJson?]
  simp only [Json.record_object, top, Option.bind_eq_bind, Option.bind_some]
  rw [← Json.field?_object] at found
  split
  · rename_i absent
    rw [absent] at found
    split at found
    · rename_i leaf
      rw [leaf, List.mapM_nil] at below
      cases below
      rfl
    · cases found
  · rename_i present
    rw [present] at found
    split at found
    · cases found
    · cases found
      have whole : items.attach.mapM (fun item => ofJson? item.1) = some children := by
        rw [List.mapM_subtype fun _ _ => rfl, List.unattach_attach, below]
      rw [whole]
      rfl
  · rename_i other present
    rw [present] at found
    split at found
    · cases found
    · exact absurd (Option.some.inj found) (other items)

/-- **A tree is read back.** -/
theorem ofJson?_toJson {s : Snapshot} (fits : ∀ id ∈ s.visited, id.Fits) :
    ofJson? s.toJson = some s := by
  induction s using induct with
  | node label children ih =>
    simp only [visited_node, List.mem_cons, List.mem_flatMap] at fits
    have top : label.id.Fits := fits _ (.inl rfl)
    have below : (children.map toJson).mapM ofJson? = some children :=
      Json.mapM_map fun c listed => ih c listed fun id deeper => fits id (.inr ⟨c, listed, deeper⟩)
    rw [toJson_node]
    refine ofJson?_object (labelOfJson?_object top ?_) ?_ below
    · simp [List.lookup_append]
    · simp [labelFields, List.lookup_append]

end Snapshot

namespace Distance.Matrix

/-- **A matrix is read back.** -/
theorem ofJson?_toJson {m : Matrix} (fits : ∀ id ∈ m.objects, id.Fits) :
    ofJson? m.toJson = some m := by
  have name : m.toJson.required "name" Json.text? = some m.name :=
    Json.required_of_field? (show _ = some (.text m.name) by simp [toJson]) rfl
  have kind : m.toJson.required "kind" Kind.ofJson? = some m.kind :=
    Json.required_of_field? (by simp [toJson]) m.kind.ofJson?_toJson
  have objects : m.toJson.required "objects" (Json.listOf? ObjectId.ofJson?) = some m.objects :=
    Json.required_of_field? (by simp [toJson])
      (Json.listOf?_ofList fun id listed => ObjectId.ofJson?_toJson (fits id listed))
  have values : m.toJson.required "values" (Json.listOf? Json.uint64?) = some m.values.toList :=
    Json.required_of_field? (by simp [toJson])
      (Json.listOf?_ofList fun value _ => Json.uint64?_ofNat value)
  have whole : m.toJson.record ["name", "kind", "objects", "values"] 4 = m.toJson := rfl
  simp [ofJson?, whole, name, kind, objects, values]

end Distance.Matrix

/-- **Snapshots and matrices are read back from what is written of them.** So different ones are
written differently. -/
theorem json_roundTrip :
    (∀ s : Snapshot, (∀ id ∈ s.visited, id.Fits) → Snapshot.ofJson? s.toJson = some s) ∧
    (∀ m : Distance.Matrix, (∀ id ∈ m.objects, id.Fits) →
      Distance.Matrix.ofJson? m.toJson = some m) ∧
    (∀ s s' : Snapshot, (∀ id ∈ s.visited, id.Fits) → (∀ id ∈ s'.visited, id.Fits) →
      s.toJson = s'.toJson → s = s') ∧
    ∀ m m' : Distance.Matrix, (∀ id ∈ m.objects, id.Fits) → (∀ id ∈ m'.objects, id.Fits) →
      m.toJson = m'.toJson → m = m' := by
  refine ⟨fun s => Snapshot.ofJson?_toJson, fun m => Distance.Matrix.ofJson?_toJson,
    fun s s' fits fits' same => ?_, fun m m' fits fits' same => ?_⟩
  · exact Json.eq_of_write_eq (Snapshot.ofJson?_toJson fits) (Snapshot.ofJson?_toJson fits') same
  · exact Json.eq_of_write_eq (Distance.Matrix.ofJson?_toJson fits)
      (Distance.Matrix.ofJson?_toJson fits') same

/-! ## A snapshot with all that is unusual -/

/-- A bridge to an inverted range of buses, over a device with a fast link, over a device of the
operating system with a class that has no name. -/
def invertedSnapshot : Snapshot :=
  .node { id := ⟨0⟩, kind := "Machine" }
    [.node { id := ⟨3⟩, kind := "Bridge", attributes := some (.bridge ⟨65536, 9, 2⟩) }
      [.node
        { id := ⟨1⟩, kind := "PCIDevice", subtype := some "", name := some "Accelerator",
          attributes := some (.pci ⟨⟨0, 3, 31, 7⟩, .intel, 0x0bd5, some 64000000000⟩) }
        [.node
          { id := ⟨2⟩, kind := "OSDevice", osIndex := some 0,
            infos := .ofList [("LevelZeroSubdevices", "2"), ("Backend", "LevelZero")],
            attributes := some (.osDevice ⟨0x80000022⟩) } []]]]

/-- A matrix of a kind that is not valid, with more values than its objects ask for. -/
def invalidMatrix : Distance.Matrix where
  name := "XeLinkBandwidth"
  kind := ⟨0x109⟩
  objects := [⟨2⟩, ⟨2⟩]
  values := #[18446744073709551615, 0, 1, 2, 3]

/-- Both are read back, and neither is written like another one. -/
theorem json_roundTrip_inverted :
    Snapshot.ofJson? invertedSnapshot.toJson = some invertedSnapshot ∧
    Distance.Matrix.ofJson? invalidMatrix.toJson = some invalidMatrix ∧
    (.node { id := ⟨0⟩, kind := "" } [] : Snapshot).toJson ≠ invertedSnapshot.toJson ∧
    { invalidMatrix with values := #[] }.toJson ≠ invalidMatrix.toJson := by
  have snapshotFits : ∀ id ∈ invertedSnapshot.visited, id.Fits := by decide
  have matrixFits : ∀ id ∈ invalidMatrix.objects, id.Fits := by decide
  refine ⟨json_roundTrip.1 _ snapshotFits, json_roundTrip.2.1 _ matrixFits,
    fun same => ?_, fun same => ?_⟩
  · have equal := json_roundTrip.2.2.1 _ _ (by decide) snapshotFits same
    exact absurd (congrArg (·.label.kind) equal) (by decide)
  · have equal := json_roundTrip.2.2.2 _ _ (by decide) matrixFits same
    exact absurd (congrArg (·.values.size) equal) (by decide)

end DeviceAtlas
