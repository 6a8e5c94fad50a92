import DeviceAtlas.Proofs.Withholding

/-!
# Advisories change nothing

Advisories are written where something odd is met, if the settings ask for them, and the work goes
on in the same way. So a run that writes fewer of them is the run that writes more with some
withheld. This is shown function by function, from a single note to a whole pass: wherever an
advisory is written under one settings, the advisory under the other takes its place.

* `Settings.presentNotes_knownDeviceNotes`, `Settings.presentNotes_memoryReport`: what is noted.
* `Settings.present_scanPorts`, `Settings.present_describeDevice`, `Settings.present_addDevice`:
  what is done with one device.
* `Settings.present_survey`, `Settings.value_survey_eq`: surveys that write fewer advisories, and
  what surveys come to.
* `advisories_discover`: passes that show advisories next to passes that do not.
-/

namespace DeviceAtlas

variable {H β : Type}

open Logged

namespace Settings

/-! ## What does not depend on the settings -/

/-- What a module counts for does not depend on the settings. -/
theorem counted_readModule_eq (settings settings' : Settings) (stack : Stack H) (root : ObjectId)
    (table : List (Option ObjectId)) (index : Nat) (module : H) :
    (readModule stack root table index module settings).counted =
      (readModule stack root table index module settings').counted := by
  unfold readModule
  cases stack.memoryProperties module <;> rfl

/-- Nor do the totals. -/
theorem totals_memoryReport_eq (settings settings' : Settings) (stack : Stack H) (managed : H)
    (root : ObjectId) (table : List (Option ObjectId)) :
    (memoryReport stack managed root table settings).2 =
      (memoryReport stack managed root table settings').2 := by
  unfold memoryReport
  cases stack.memoryModules managed with
  | error fault => rfl
  | ok modules =>
    simp only [List.filterMap_map, Function.comp_def, counted_readModule_eq settings settings']

/-! ## Two settings, of which the second shows no more advisories than the first -/

section Two

variable {settings settings' : Settings}
  (less : settings'.showAdvisories → settings.showAdvisories)

include less

/-- An advisory is withheld where it is written. -/
theorem present_advise (text : String) :
    settings'.present (settings.advise text) = settings'.advise text := by
  unfold advise
  refine Logged.ext rfl ?_
  cases shown' : settings'.showAdvisories with
  | false => cases settings.showAdvisories <;> simp [shows, shown']
  | true => simp [shows, shown', less shown']

/-- An advisory comes before whatever is done next. -/
theorem present_advise_bind (text : String) {f f' : Unit → Logged β}
    (next : settings'.present (f ()) = f' ()) :
    settings'.present (settings.advise text >>= f) = settings'.advise text >>= f' :=
  settings'.present_bind_eq (present_advise less text) fun _ => next

theorem presentNotes_advise (text : String) :
    settings'.presentNotes (Note.advise settings text) = Note.advise settings' text := by
  unfold Note.advise
  cases shown' : settings'.showAdvisories with
  | false => cases settings.showAdvisories <;> simp [presentNotes, showsNote, shows, shown']
  | true => simp [presentNotes, showsNote, shows, shown', less shown']

/-! ### Facts -/

theorem presentNotes_typeNotes (id : ObjectId) (raw : UInt32) :
    settings'.presentNotes (typeNotes id raw settings) = typeNotes id raw settings' := by
  unfold typeNotes
  cases Stack.DeviceType.ofRaw? raw with
  | some type => rfl
  | none => rw [presentNotes_append, presentNotes_advise less]; rfl

theorem presentNotes_knownDeviceNotes (stack : Stack H) (managed : H) (id : ObjectId)
    (p : Stack.DeviceProperties) :
    settings'.presentNotes (knownDeviceNotes stack managed id p settings) =
      knownDeviceNotes stack managed id p settings' := by
  unfold knownDeviceNotes propertyNotes
  rw [presentNotes_append, presentNotes_append, presentNotes_typeNotes less]
  congr 1
  split
  · rfl
  · exact settings'.presentNotes_managementNotes stack managed id

theorem presentNotes_deviceNotes (stack : Stack H) (device managed : H) (id : ObjectId)
    (given : Option Stack.DeviceProperties) :
    settings'.presentNotes (deviceNotes stack device managed id given settings) =
      deviceNotes stack device managed id given settings' := by
  unfold deviceNotes
  split
  · exact presentNotes_knownDeviceNotes less stack managed id _
  · exact settings'.presentNotes_cons_detail _ []

theorem presentNotes_subdeviceNotes (stack : Stack H) (handle managed : H) (id : ObjectId)
    (k : Nat) :
    settings'.presentNotes (subdeviceNotes stack handle managed id k settings) =
      subdeviceNotes stack handle managed id k settings' := by
  unfold subdeviceNotes
  rw [presentNotes_append, presentNotes_cons_info, presentNotes_deviceNotes less,
    presentNotes_queueNotes]

theorem presentNotes_rootNotes (stack : Stack H) (device managed : H) (id : ObjectId)
    (place : DevicePlace) (p : Stack.DeviceProperties) :
    settings'.presentNotes (rootNotes stack device managed id place p settings) =
      rootNotes stack device managed id place p settings' := by
  unfold rootNotes
  rw [presentNotes_append, presentNotes_cons_info, presentNotes_cons_info,
    presentNotes_deviceNotes less, presentNotes_queueNotes]

/-! ### Memory -/

theorem presentNotes_placeModule (root : ObjectId) (table : List (Option ObjectId)) (index : Nat)
    (p : Stack.MemoryProperties) (kilobytes : UInt64) :
    settings'.presentNotes (placeModule root table index p kilobytes settings) =
      placeModule root table index p kilobytes settings' := by
  unfold placeModule
  split
  · split
    · exact presentNotes_sizeNotes ..
    · rfl
    · exact presentNotes_advise less _
  · rfl

theorem presentNotes_readModule (stack : Stack H) (root : ObjectId)
    (table : List (Option ObjectId)) (index : Nat) (module : H) :
    settings'.presentNotes (readModule stack root table index module settings).notes =
      (readModule stack root table index module settings').notes := by
  unfold readModule
  cases stack.memoryProperties module with
  | error fault => exact settings'.presentNotes_cons_detail _ []
  | ok p =>
    dsimp only
    rw [presentNotes_append, presentNotes_placeModule less]
    congr 1
    cases moduleBytes stack module p with
    | ok bytes => rfl
    | error fault => exact settings'.presentNotes_cons_detail _ []

theorem presentNotes_memoryReport (stack : Stack H) (managed : H) (root : ObjectId)
    (table : List (Option ObjectId)) :
    settings'.presentNotes (memoryReport stack managed root table settings).1 =
      (memoryReport stack managed root table settings').1 := by
  have totals := totals_memoryReport_eq settings settings' stack managed root table
  unfold memoryReport at totals ⊢
  cases told : stack.memoryModules managed with
  | error fault => exact settings'.presentNotes_cons_detail _ []
  | ok modules =>
    rw [told] at totals
    dsimp only at totals ⊢
    have readings : settings'.presentNotes ((modules.zipIdx.map fun entry =>
          readModule stack root table entry.2 entry.1 settings).flatMap (·.notes)) =
        (modules.zipIdx.map fun entry =>
          readModule stack root table entry.2 entry.1 settings').flatMap (·.notes) := by
      rw [presentNotes, List.filter_flatMap, List.flatMap_map, List.flatMap_map]
      congr 1
      funext entry
      exact presentNotes_readModule less stack root table entry.2 entry.1
    rw [totals, List.cons_append, presentNotes_cons_detail, presentNotes_append, readings,
      presentNotes_notes]
    rfl

/-! ### Ports -/

theorem present_portOwner (root : ObjectId) (table : List (Option ObjectId)) (index : Nat)
    (p : Stack.PortProperties) :
    settings'.present (portOwner root table index p settings) =
      portOwner root table index p settings' := by
  unfold portOwner
  split
  · refine settings'.present_plain_bind (isPlain_detail _) fun _ => ?_
    split
    · rfl
    · exact settings'.present_of_isPlain (.detail_bind (isPlain_pure _))
    · exact present_advise_bind less _ rfl
  · rfl

theorem present_readPort (stack : Stack H) (root : ObjectId) (table : List (Option ObjectId))
    (index : Nat) (handle : H) :
    settings'.present (readPort stack root table index handle settings) =
      readPort stack root table index handle settings' := by
  unfold readPort
  cases stack.portProperties handle with
  | error fault => exact settings'.present_of_isPlain (.detail_bind (isPlain_pure _))
  | ok properties =>
    refine settings'.present_bind_eq (present_portOwner less root table index properties)
      fun home => settings'.present_of_isPlain ?_
    obtain _ | ⟨owner, parent⟩ := home
    · exact isPlain_pure _
    · dsimp only
      cases stack.portState handle with
      | error fault => exact .detail_bind (isPlain_pure _)
      | ok state =>
        dsimp only
        split
        · exact isPlain_pure _
        · exact .detail_bind (isPlain_pure _)

theorem present_keepIfUsable (stack : Stack H) (root : ObjectId) (table : List (Option ObjectId))
    (found : PortList × Nat) (entry : H × Nat) :
    settings'.present (keepIfUsable stack root table settings found entry) =
      keepIfUsable stack root table settings' found entry := by
  refine settings'.present_bind_eq (present_readPort less stack root table entry.2 entry.1)
    fun port => settings'.present_of_isPlain ?_
  cases port with
  | none => exact isPlain_pure _
  | some port => exact (found.1.isPlain_keep port).bind fun _ => isPlain_pure _

theorem present_scanPorts (stack : Stack H) (managed : H) (root : ObjectId)
    (table : List (Option ObjectId)) (ports : PortList) :
    settings'.present (scanPorts stack managed root table ports settings) =
      scanPorts stack managed root table ports settings' := by
  unfold scanPorts
  split
  · exact settings'.present_of_isPlain (.detail_bind (isPlain_pure _))
  · rfl
  · refine settings'.present_plain_bind (isPlain_detail _) fun _ => ?_
    split
    · exact settings'.present_foldlM_eq (present_keepIfUsable less stack root table) _ _
    · exact settings'.present_of_isPlain (.detail_bind (isPlain_pure _))

/-! ### Devices -/

theorem present_addSubdevice (stack : Stack H) (managementDriver : H) (place : DevicePlace)
    (t : Topology) (k : Nat) (handle : H) :
    settings'.present (addSubdevice stack managementDriver place t k handle settings) =
      addSubdevice stack managementDriver place t k handle settings' := by
  unfold addSubdevice
  cases identify stack managementDriver handle with
  | error reason => exact present_advise_bind less _ rfl
  | ok found =>
    refine settings'.present_bind_eq ?_ fun _ => rfl
    rw [present_takeNotes, presentNotes_subdeviceNotes less]

theorem present_addSubdevices (stack : Stack H) (managementDriver : H) (place : DevicePlace)
    (t : Topology) (handles : List H) :
    settings'.present (addSubdevices stack managementDriver place t handles settings) =
      addSubdevices stack managementDriver place t handles settings' := by
  unfold addSubdevices
  refine settings'.present_foldlM_eq (fun found entry => ?_) _ _
  exact settings'.present_bind_eq
    (present_addSubdevice less stack managementDriver place found.1 entry.2 entry.1) fun _ => rfl

theorem present_describeDevice (stack : Stack H) (managementDriver device managed : H)
    (place : DevicePlace) (p : Stack.DeviceProperties) (t : Topology) :
    settings'.present (describeDevice stack managementDriver device managed place p t settings) =
      describeDevice stack managementDriver device managed place p t settings' := by
  refine settings'.present_bind_eq ?_ fun t => ?_
  · rw [present_takeNotes, presentNotes_rootNotes less]
  · refine settings'.present_plain_bind (isPlain_subdeviceHandles ..) fun handles => ?_
    refine settings'.present_bind_eq
      (present_addSubdevices less stack managementDriver place t handles) fun found => ?_
    refine settings'.present_bind_eq ?_ fun _ => rfl
    rw [present_takeNotes, presentNotes_memoryReport less]

variable (grants : Nat → Bool)

theorem present_addIdentified (stack : Stack H) (managementDriver device managed : H)
    (place : DevicePlace) (p : Stack.DeviceProperties) (s : Survey) :
    settings'.present
        (s.addIdentified stack managementDriver device managed place p settings grants) =
      s.addIdentified stack managementDriver device managed place p settings' grants := by
  refine settings'.present_bind_eq
    (present_describeDevice less stack managementDriver device managed place p s.topology)
    fun found => ?_
  obtain ⟨t, root, table⟩ := found
  dsimp only
  split
  · exact settings'.present_of_isPlain ((isPlain_pure _).bind fun ports =>
      (t.isPlain_placeAt _).bind fun site => Survey.isPlain_enter ..)
  · exact settings'.present_bind_eq (settings'.present_bind_eq
      (present_scanPorts less stack managed root table s.ports) fun _ => rfl) fun ports =>
        settings'.present_of_isPlain ((t.isPlain_placeAt _).bind fun site =>
          Survey.isPlain_enter ..)

theorem present_addDevice (stack : Stack H) (managementDriver : H) (driver : Nat) (s : Survey)
    (index : Nat) (device : H) :
    settings'.present (s.addDevice stack managementDriver driver index device settings grants) =
      s.addDevice stack managementDriver driver index device settings' grants := by
  unfold Survey.addDevice
  cases identify stack managementDriver device with
  | error reason => exact present_advise_bind less _ rfl
  | ok found =>
    exact present_addIdentified less grants stack managementDriver device found.2 _ found.1 s

/-! ### Drivers -/

theorem present_addDriver (stack : Stack H) (s : Survey) (index : Nat)
    (driver managementDriver : H) :
    settings'.present (s.addDriver stack index driver managementDriver settings grants) =
      s.addDriver stack index driver managementDriver settings' grants := by
  unfold Survey.addDriver
  split
  · exact settings'.present_of_isPlain (.detail_bind (isPlain_pure _))
  · rfl
  · refine settings'.present_plain_bind (isPlain_detail _) fun _ => ?_
    refine settings'.present_foldlM_eq (fun s entry => ?_) _ _
    exact present_addDevice less grants stack managementDriver index s entry.2 entry.1

theorem present_pairDrivers (stack : Stack H) :
    settings'.present (pairDrivers stack settings) = pairDrivers stack settings' := by
  unfold pairDrivers
  cases stack.drivers with
  | error fault => exact present_advise_bind less _ rfl
  | ok drivers =>
    cases stack.managementDrivers with
    | error fault => exact present_advise_bind less _ rfl
    | ok managementDrivers =>
      dsimp only
      split
      · exact present_advise_bind less _ rfl
      · exact settings'.present_of_isPlain (.detail_bind (isPlain_pure _))

/-- **A survey that writes fewer advisories** is one that writes more with some withheld. -/
theorem present_survey (stack : Stack H) (t : Topology) :
    settings'.present (survey stack t settings grants) = survey stack t settings' grants := by
  refine settings'.present_bind_eq (present_pairDrivers less stack) fun drivers => ?_
  refine settings'.present_foldlM_eq (fun s entry => ?_) _ _
  exact present_addDriver less grants stack s entry.2 entry.1.1 entry.1.2

/-! ### The matrix and the pass -/

theorem present_aggregate (linkModel : settings'.linkModel = settings.linkModel)
    (localBandwidth : settings'.localBandwidth = settings.localBandwidth) (r : Registry)
    (ports : PortList) (t : Topology) :
    settings'.present (aggregate r ports t settings) = aggregate r ports t settings' := by
  unfold aggregate
  split
  · rfl
  · cases BandwidthMatrix.zeros r.size with
    | error tooLarge => exact present_advise_bind less _ rfl
    | ok matrix =>
      rw [linkModel, localBandwidth]
      refine settings'.present_bind_eq (settings'.present_foldlM_eq (fun tally link =>
        settings'.present_of_isPlain (tally.isPlain_countLink r _ _ link)) _ _) fun tally =>
          settings'.present_of_isPlain ?_
      split
      · exact .detail_bind (isPlain_pure _)
      · exact isPlain_pure _

end Two

/-- **What a survey comes to does not depend on the settings.** -/
theorem value_survey_eq (settings settings' : Settings) (stack : Stack H) (t : Topology)
    (grants : Nat → Bool) :
    (survey stack t settings grants).value = (survey stack t settings' grants).value := by
  -- both come to what a survey without advisories comes to
  have hidden : ∀ settings : Settings,
      (survey stack t settings grants).value = (survey stack t {} grants).value := by
    intro settings
    have less : ({} : Settings).showAdvisories → settings.showAdvisories := nofun
    rw [← present_survey less grants stack t, value_present]
  rw [hidden settings, hidden settings']

section Pass

variable (settings : Settings)

/-- The same settings without advisories. -/
def quiet : Settings := { settings with showAdvisories := false }

theorem quiet_less : settings.quiet.showAdvisories → settings.showAdvisories :=
  nofun

theorem present_conclude (s : Survey) :
    settings.quiet.present (s.conclude settings) = s.conclude settings.quiet := by
  refine settings.quiet.present_plain_bind (isPlain_detail _) fun _ => ?_
  refine settings.quiet.present_bind_eq (present_aggregate settings.quiet_less rfl rfl ..)
    fun matrix => ?_
  cases matrix with
  | none => rfl
  | some matrix => exact settings.quiet.present_plain_bind (isPlain_publish ..) fun _ => rfl

/-- **A pass without advisories** is the pass with advisories, from which these are withheld. -/
theorem present_discover (stack : Stack H) (t : Topology) (grants : Nat → Bool) :
    settings.quiet.present (discover stack t settings grants) =
      discover stack t settings.quiet grants := by
  unfold discover
  split
  · exact settings.quiet.present_of_isPlain (.detail_bind (isPlain_pure _))
  · cases stack.start with
    | error fault => exact present_advise_bind settings.quiet_less _ rfl
    | ok _ =>
      cases stack.startManagement with
      | error fault => exact present_advise_bind settings.quiet_less _ rfl
      | ok _ =>
        exact settings.quiet.present_bind_eq
          (present_survey settings.quiet_less grants stack t) settings.present_conclude

end Pass

end Settings

/-- **Advisories change nothing but what is written.** Whatever the stack, the topology and the
memory, passes that differ only in whether they show advisories come to the same topology and tell
the same, with the same details in the same order. The one that does not show advisories writes
none; what the other one writes, apart from advisories, is all that the one writes. -/
theorem advisories_discover (stack : Stack H) (t : Topology) (settings : Settings)
    (grants : Nat → Bool) :
    let shown := discover stack t { settings with showAdvisories := true } grants
    let hidden := discover stack t { settings with showAdvisories := false } grants
    hidden.value = shown.value ∧
    hidden.messages.filter (·.level = .detail) = shown.messages.filter (·.level = .detail) ∧
    (∀ m ∈ hidden.messages, m.level ≠ .advisory) ∧
    hidden.messages = shown.messages.filter (·.level ≠ .advisory) := by
  intro shown hidden
  have withheld : hidden = Settings.present { settings with showAdvisories := false } shown :=
    (Settings.present_discover { settings with showAdvisories := true } stack t grants).symm
  have written : hidden.messages = shown.messages.filter (·.level ≠ .advisory) := by
    rw [withheld]
    refine List.filter_congr fun m _ => ?_
    cases level : m.level <;> simp [Settings.shows, level]
  refine ⟨?_, ?_, fun m listed => ?_, written⟩
  · rw [withheld]
    rfl
  · rw [written, List.filter_filter]
    refine List.filter_congr fun m _ => ?_
    cases m.level <;> rfl
  · rw [written] at listed
    exact of_decide_eq_true (List.mem_filter.1 listed).2

end DeviceAtlas
