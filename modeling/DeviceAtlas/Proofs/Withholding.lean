import DeviceAtlas.Discovery.Pass

/-!
# Withholding advisories

What was written under some settings can be shown under others, which withhold the advisories if
they do not ask for them. Withholding goes through sequences, loops and notes part by part, and it
does nothing to work that only writes details.

* `Logged.IsPlain`: only details are written, so that nothing can be withheld.
* `Settings.present_bind_eq`, `Settings.present_foldlM_eq`: sequences and loops.
* `Settings.present_takeNotes`: of notes, those are taken down that are shown.
-/

namespace DeviceAtlas

variable {H : Type} {α β : Type}

/-! ## Nothing but details -/

namespace Logged

/-- Only details are written. -/
structure IsPlain (x : Logged α) : Prop where
  level_eq : ∀ m ∈ x.messages, m.level = .detail

theorem isPlain_pure (a : α) : IsPlain (pure a) :=
  ⟨fun _ listed => absurd listed List.not_mem_nil⟩

theorem isPlain_detail (text : String) : IsPlain (detail text) := by
  refine ⟨fun m listed => ?_⟩
  obtain rfl := List.mem_singleton.1 listed
  rfl

theorem IsPlain.bind {x : Logged α} {f : α → Logged β} (first : x.IsPlain)
    (next : ∀ a, (f a).IsPlain) : (x >>= f).IsPlain :=
  ⟨fun m listed => (List.mem_append.1 listed).elim (first.level_eq m)
    ((next x.value).level_eq m)⟩

/-- A detail, and then only details. -/
theorem IsPlain.detail_bind {text : String} {f : Unit → Logged β} (next : (f ()).IsPlain) :
    (detail text >>= f).IsPlain :=
  (isPlain_detail text).bind fun _ => next

end Logged

open Logged

namespace Topology

theorem isPlain_annotate (t : Topology) (id : ObjectId) (key value : String) :
    (t.annotate id key value).IsPlain := by
  unfold annotate
  cases t.addInfo id key value with
  | ok t => exact isPlain_pure t
  | error error => exact .detail_bind (isPlain_pure t)

theorem isPlain_insertAll (parent : ObjectId) (children : List ObjectId) (t : Topology) :
    (t.insertAll parent children).IsPlain := by
  induction children generalizing t with
  | nil => exact isPlain_pure _
  | cons child rest ih =>
    unfold insertAll
    cases t.insert parent child with
    | ok t => exact (ih t).bind fun _ => isPlain_pure _
    | error error => exact .detail_bind (ih t)

theorem isPlain_findParent (t : Topology) (address : Pci.Address) :
    (t.findParent address).IsPlain := by
  unfold findParent
  cases t.pciDeviceAt? address with
  | some device => exact isPlain_pure _
  | none =>
    cases t.narrowestBridge? address with
    | some bridge => exact isPlain_pure _
    | none => exact .detail_bind (isPlain_pure _)

theorem isPlain_recordBandwidth (t : Topology) (id : ObjectId) (bandwidth : UInt64) :
    (t.recordBandwidth id bandwidth).IsPlain := by
  unfold recordBandwidth
  split
  · exact .detail_bind (isPlain_pure _)
  · exact isPlain_pure _

theorem isPlain_placeAt (t : Topology) (locations : List (Stack.Answer Stack.PciLocation)) :
    (t.placeAt locations).IsPlain := by
  induction locations with
  | nil => exact isPlain_pure _
  | cons location rest ih =>
    cases location with
    | error fault => exact .detail_bind ih
    | ok location =>
      refine (t.isPlain_findParent location.address).bind fun parent => ?_
      cases parent with
      | none => exact ih
      | some parent => exact (t.isPlain_recordBandwidth _ _).bind fun _ => isPlain_pure _

end Topology

theorem Registry.isPlain_reserve (r : Registry) (count : Nat) : (r.reserve count).IsPlain := by
  unfold reserve
  split
  · exact isPlain_pure r
  · exact .detail_bind (isPlain_pure _)

theorem Registry.isPlain_addBlockIfGranted (r : Registry) (grants : Nat → Bool)
    (device : ObjectId) (subdevices : List ObjectId) :
    (r.addBlockIfGranted grants device subdevices).IsPlain := by
  refine (r.isPlain_reserve _).bind fun grown => ?_
  split
  · exact isPlain_pure _
  · exact isPlain_pure _

theorem Registry.isPlain_enterBlock (r : Registry) (root : ObjectId) (subdevices : List ObjectId)
    (grants : Nat → Bool) : (r.enterBlock root subdevices grants).IsPlain := by
  refine (r.isPlain_addBlockIfGranted grants root subdevices).bind fun answer => ?_
  obtain ⟨r, place⟩ := answer
  cases place with
  | ok place => exact isPlain_pure r
  | error full => exact .detail_bind (isPlain_pure r)

theorem Survey.isPlain_enter (s : Survey) (parent root : ObjectId) (subdevices : List ObjectId)
    (grants : Nat → Bool) : (s.enter parent root subdevices grants).IsPlain := by
  unfold enter
  cases s.topology.insert parent root with
  | error error => exact .detail_bind (isPlain_pure s)
  | ok t =>
    refine (t.isPlain_insertAll root subdevices).bind fun found => ?_
    dsimp only
    split
    · exact (isPlain_pure _).bind fun _ =>
        (s.registry.isPlain_enterBlock _ _ _).bind fun _ => isPlain_pure _
    · exact (Topology.isPlain_annotate ..).bind fun _ =>
        (s.registry.isPlain_enterBlock _ _ _).bind fun _ => isPlain_pure _

theorem isPlain_subdeviceHandles (stack : Stack H) (device : H) (number : Nat) :
    (subdeviceHandles stack device number).IsPlain := by
  unfold subdeviceHandles
  cases stack.subdevices device with
  | ok handles => exact .detail_bind (isPlain_pure handles)
  | error fault =>
    dsimp only
    split
    · exact isPlain_pure _
    · exact .detail_bind (isPlain_pure _)

theorem PortList.isPlain_keep (l : PortList) (port : Port) : (l.keep port).IsPlain :=
  .detail_bind (isPlain_pure _)

theorem LinkTally.isPlain_countLink (r : Registry) (model : String) (ports : Array Port)
    (tally : LinkTally) (link : Link) : (countLink r model ports tally link).IsPlain := by
  unfold countLink
  split
  · exact .detail_bind (isPlain_pure _)
  · exact isPlain_pure _

theorem Topology.isPlain_store (t : Topology) (p : Distance.Pending)
    (options : Distance.StoreOptions) : (t.store p options).IsPlain := by
  unfold store
  cases p.content with
  | none => exact isPlain_pure _
  | some content => exact .detail_bind (isPlain_pure _)

theorem isPlain_publish (t : Topology) (r : Registry) (matrix : BandwidthMatrix)
    (settings : Settings) : (publish Topology.matrixStore t r matrix settings).IsPlain := by
  refine (isPlain_pure _).bind fun announced => ?_
  split
  · exact .detail_bind (isPlain_pure _)
  · refine (isPlain_pure _).bind fun attached => ?_
    split
    · exact .detail_bind (isPlain_pure _)
    · refine IsPlain.bind ?_ fun committed => ?_
      · refine (Topology.isPlain_store ..).bind fun stored => ?_
        cases stored <;> exact isPlain_pure _
      · split
        · exact .detail_bind (isPlain_pure _)
        · exact .detail_bind (isPlain_pure _)

namespace Settings

/-! ## Withholding -/

section Withholding

variable (settings : Settings)

@[simp] theorem value_present (x : Logged α) : (settings.present x).value = x.value := rfl

@[simp] theorem messages_present (x : Logged α) :
    (settings.present x).messages = x.messages.filter settings.shows := rfl

/-- Of a sequence each part is withheld by itself. -/
theorem present_bind (x : Logged α) (f : α → Logged β) :
    settings.present (x >>= f) = settings.present x >>= fun a => settings.present (f a) :=
  Logged.ext rfl (List.filter_append ..)

/-- Details are never withheld. -/
theorem present_of_isPlain {x : Logged α} (plain : x.IsPlain) : settings.present x = x :=
  Logged.ext rfl (List.filter_eq_self.2 fun m listed => by simp [shows, plain.level_eq m listed])

/-- A sequence is withheld by parts, of which the second may depend on the first. -/
theorem present_bind_eq {x x' : Logged α} {f f' : α → Logged β}
    (first : settings.present x = x') (next : ∀ a, settings.present (f a) = f' a) :
    settings.present (x >>= f) = x' >>= f' := by
  rw [present_bind, first, funext next]

/-- Of a sequence that starts with details only the rest is withheld. -/
theorem present_plain_bind {x : Logged α} (plain : x.IsPlain) {f f' : α → Logged β}
    (next : ∀ a, settings.present (f a) = f' a) : settings.present (x >>= f) = x >>= f' :=
  settings.present_bind_eq (settings.present_of_isPlain plain) next

/-- Of a loop each round is withheld by itself. -/
theorem present_foldlM_eq {f f' : β → α → Logged β}
    (round : ∀ b a, settings.present (f b a) = f' b a) (items : List α) (b : β) :
    settings.present (items.foldlM f b) = items.foldlM f' b := by
  induction items generalizing b with
  | nil => rfl
  | cons a items ih =>
    rw [List.foldlM_cons, List.foldlM_cons]
    exact settings.present_bind_eq (round b a) ih

end Withholding

/-! ## Notes -/

/-- Whether the settings show a note. Infos are always there. -/
def showsNote (settings : Settings) : Note → Bool
  | .info _ _ _ => true
  | .message m => settings.shows m

/-- The notes that the settings show. -/
def presentNotes (settings : Settings) (notes : List Note) : List Note :=
  notes.filter settings.showsNote

section Notes

variable (settings : Settings)

@[simp] theorem presentNotes_append (front back : List Note) :
    settings.presentNotes (front ++ back) =
      settings.presentNotes front ++ settings.presentNotes back :=
  List.filter_append ..

@[simp] theorem presentNotes_cons_info (id : ObjectId) (key value : String) (notes : List Note) :
    settings.presentNotes (.info id key value :: notes) =
      .info id key value :: settings.presentNotes notes := rfl

theorem showsNote_detail (text : String) : settings.showsNote (.detail text) := by
  simp [showsNote, Note.detail, shows]

@[simp] theorem presentNotes_cons_detail (text : String) (notes : List Note) :
    settings.presentNotes (.detail text :: notes) =
      .detail text :: settings.presentNotes notes :=
  List.filter_cons_of_pos (settings.showsNote_detail text)

/-- Infos are shown, whatever the settings. -/
theorem presentNotes_map_info (items : List α) (id : ObjectId) (entry : α → String × String) :
    settings.presentNotes (items.map fun a => .info id (entry a).1 (entry a).2) =
      items.map fun a => .info id (entry a).1 (entry a).2 :=
  List.filter_eq_self.2 fun n listed => by
    obtain ⟨a, _, rfl⟩ := List.mem_map.1 listed
    rfl

/-- **Of notes those are taken down that are shown**, and the others change nothing. -/
theorem present_takeNotes (t : Topology) (notes : List Note) :
    settings.present (t.takeNotes notes) = t.takeNotes (settings.presentNotes notes) := by
  induction notes generalizing t with
  | nil => rfl
  | cons n notes ih =>
    rw [Topology.takeNotes, List.foldlM_cons]
    cases n with
    | info id key value =>
      rw [presentNotes_cons_info, Topology.takeNotes, List.foldlM_cons]
      exact settings.present_plain_bind (t.isPlain_annotate id key value) ih
    | message m =>
      by_cases shown : settings.shows m
      · have kept : settings.presentNotes (.message m :: notes) =
            .message m :: settings.presentNotes notes := List.filter_cons_of_pos shown
        rw [kept, Topology.takeNotes, List.foldlM_cons]
        exact settings.present_bind_eq (Logged.ext rfl (List.filter_cons_of_pos shown)) ih
      · have lost : settings.presentNotes (.message m :: notes) = settings.presentNotes notes :=
          List.filter_cons_of_neg shown
        rw [lost, ← ih, present_bind]
        refine Logged.ext rfl ?_
        exact congrArg (· ++ _) (List.filter_cons_of_neg shown)

/-! ### Notes without advisories -/

theorem presentNotes_managementNotes (stack : Stack H) (managed : H) (id : ObjectId) :
    settings.presentNotes (managementNotes stack managed id) =
      managementNotes stack managed id := by
  unfold managementNotes
  cases stack.managementProperties managed with
  | ok p => exact settings.presentNotes_map_info _ id fun entry => entry
  | error fault => exact settings.presentNotes_cons_detail _ []

theorem presentNotes_queueNotes (stack : Stack H) (device : H) (id : ObjectId) :
    settings.presentNotes (queueNotes stack device id) = queueNotes stack device id := by
  unfold queueNotes
  cases stack.queueGroups device with
  | ok groups =>
    exact congrArg (_ :: ·) (settings.presentNotes_map_info groups.zipIdx id fun entry =>
      (InfoKey.queueGroup entry.2, queueGroupText entry.1))
  | error fault => exact settings.presentNotes_cons_detail _ []

theorem presentNotes_sizeNotes (id : ObjectId) (c : Stack.MemoryClass) (kilobytes : UInt64) :
    settings.presentNotes (MemoryTotals.sizeNotes id c kilobytes) =
      MemoryTotals.sizeNotes id c kilobytes := by
  unfold MemoryTotals.sizeNotes
  split <;> rfl

theorem presentNotes_notes (totals : MemoryTotals) (id : ObjectId) :
    settings.presentNotes (totals.notes id) = totals.notes id := by
  unfold MemoryTotals.notes
  rw [presentNotes_append, presentNotes_sizeNotes, presentNotes_sizeNotes]

end Notes

end Settings

end DeviceAtlas
