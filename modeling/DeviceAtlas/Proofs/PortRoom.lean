import DeviceAtlas.Proofs.PortOwners
import Mathlib.Tactic.SplitIfs

/-!
# How much room a list of ports has

A scan makes room for all ports that are listed before it knows which of them it keeps. What it asks
for depends on the room that earlier scans left over, and which ports are kept is settled one by
one. All the same the room that was made is enough for the scan, and all the room that there ever is
comes from the scans that found too little of it. If memory has none to give, the ports of the
device are dropped and nothing else.

* `Scan.run`: a scan as far as memory allows.
* `PortList.capacity_foldl_push`: ports that there is room for make no room.
* `Scan.capacity_run`: what one scan does to the room.
* `Scan.room_runAll`: the room after any scans.
-/

namespace DeviceAtlas

variable {H : Type}

namespace PortList

variable {l grown : PortList} {count : ℕ}

/-- There is room for the ports that are there. -/
def HasRoom (l : PortList) : Prop := l.size ≤ l.capacity

/-- Make room for more ports if there is too little and memory grants growth for so many. -/
def reserveIfGranted (l : PortList) (grants : ℕ → Bool) (count : ℕ) :
    Except PortListFull PortList :=
  if count ≤ l.spare then .ok l
  else if grants count then .ok { l with capacity := l.size + (l.spare + growthFactor * count) }
  else .error ⟨l.capacity, count⟩

/-- A reservation is one for a memory that grants growth for all but too many ports. -/
theorem reserve_eq_reserveIfGranted (l : PortList) (count : ℕ) :
    l.reserve count = l.reserveIfGranted (· < tooMany) count := by
  rw [reserve, reserveIfGranted]
  refine ite_congr rfl (fun _ => rfl) fun _ => ?_
  simp only [← Nat.not_lt, ite_not, decide_eq_true_eq]

theorem reserveIfGranted_of_le {grants : ℕ → Bool} (enough : count ≤ l.capacity - l.size) :
    l.reserveIfGranted grants count = .ok l :=
  if_pos enough

theorem reserveIfGranted_of_lt {grants : ℕ → Bool} (few : l.capacity - l.size < count) :
    l.reserveIfGranted grants count =
      if grants count then .ok { l with capacity := l.size + (l.spare + growthFactor * count) }
      else .error ⟨l.capacity, count⟩ :=
  if_neg (Nat.not_le.2 few)

/-- Where there is too little room, it grows by eight times the number of ports. -/
theorem capacity_of_reserveIfGranted (h : l.HasRoom) {grants : ℕ → Bool}
    (made : l.reserveIfGranted grants count = .ok grown) :
    grown.ports = l.ports ∧
      grown.capacity = if count ≤ l.capacity - l.size then l.capacity
        else l.capacity + 8 * count := by
  unfold HasRoom at h
  by_cases enough : count ≤ l.capacity - l.size
  · rw [reserveIfGranted_of_le enough] at made
    cases made
    exact ⟨rfl, (if_pos enough).symm⟩
  · rw [reserveIfGranted_of_lt (Nat.not_le.1 enough)] at made
    split_ifs at made
    cases made
    refine ⟨rfl, ?_⟩
    show l.size + (l.capacity - l.size + 8 * count) = _
    rw [if_neg enough]
    omega

/-- A reservation that is made leaves room for the ports that it is made for. -/
theorem size_add_le_of_reserveIfGranted (h : l.HasRoom) {grants : ℕ → Bool}
    (made : l.reserveIfGranted grants count = .ok grown) : grown.size + count ≤ grown.capacity := by
  obtain ⟨same, capacity⟩ := capacity_of_reserveIfGranted h made
  have size : grown.size = l.size := congrArg Array.size same
  unfold HasRoom at h
  rw [capacity, size]
  split_ifs <;> omega

/-! ## Keeping ports -/

theorem size_foldl_push (l : PortList) (ports : List Port) :
    (ports.foldl push l).size = l.size + ports.length := by
  simpa [size] using congrArg List.length (toList_foldl_push l ports)

/-- **Ports that there is room for make no room.** -/
theorem capacity_foldl_push {ports : List Port} (room : l.size + ports.length ≤ l.capacity) :
    (ports.foldl push l).capacity = l.capacity := by
  induction ports generalizing l with
  | nil => rfl
  | cons port ports ih =>
    rw [List.length_cons] at room
    have kept : (l.push port).capacity = l.capacity := if_pos (by omega)
    rw [List.foldl_cons, ih (by rw [size_push, kept]; omega), kept]

end PortList

/-- Keeping ports takes no more room than there are handles. -/
theorem room_keepUsable (stack : Stack H) (device : ObjectId) (table : List (Option ObjectId))
    {l : PortList} {handles : List H} (room : l.size + handles.length ≤ l.capacity)
    (settings : Settings) :
    (keepUsable stack device table l handles settings).value.1.capacity = l.capacity ∧
      (keepUsable stack device table l handles settings).value.1.size ≤
        l.size + handles.length := by
  have few : (usablePorts stack device table handles).length ≤ handles.length :=
    List.length_filterMap_le ..
  rw [value_keepUsable, PortList.size_foldl_push]
  exact ⟨PortList.capacity_foldl_push (by omega), by omega⟩

/-! ## Scans -/

/-- A scan of a device, and for how many ports memory grants growth while it is done. -/
structure Scan (H : Type) where
  stack : Stack H
  managed : H
  device : ObjectId
  table : List (Option ObjectId)
  settings : Settings
  grants : ℕ → Bool

namespace Scan

/-- How many ports are listed. -/
def count (s : Scan H) : ℕ :=
  match s.stack.fabricPorts s.managed with
  | .ok handles => handles.length
  | .error _ => 0

/-- The ports after a scan, as far as memory allows. -/
def run (s : Scan H) (l : PortList) : PortList :=
  match s.stack.fabricPorts s.managed with
  | .error _ => l
  | .ok [] => l
  | .ok handles =>
    match l.reserveIfGranted s.grants handles.length with
    | .ok grown => (keepUsable s.stack s.device s.table grown handles s.settings).value.1
    | .error _ => l

/-- The ports after one scan and another. -/
def runAll (l : PortList) (scans : List (Scan H)) : PortList := scans.foldl (fun l s => s.run l) l

/-- How many ports were listed in those of the scans that made room. -/
def grownCount (l : PortList) : List (Scan H) → ℕ
  | [] => 0
  | s :: rest =>
    (if (s.run l).capacity = l.capacity then 0 else s.count) + grownCount (s.run l) rest

variable {s : Scan H} {l grown : PortList} {handles : List H}

/-- A survey scans with a memory that grants growth for all but too many ports. -/
theorem ports_scanPorts_eq_run (stack : Stack H) (managed : H) (device : ObjectId)
    (table : List (Option ObjectId)) (l : PortList) (settings : Settings) :
    (scanPorts stack managed device table l settings).value.1 =
      Scan.run ⟨stack, managed, device, table, settings, (· < PortList.tooMany)⟩ l := by
  rw [scanPorts, run]
  cases stack.fabricPorts managed with
  | error fault => rfl
  | ok handles =>
    cases handles with
    | nil => rfl
    | cons handle rest =>
      simp only [PortList.reserve_eq_reserveIfGranted]
      cases l.reserveIfGranted (· < PortList.tooMany) (handle :: rest).length <;> rfl

/-- A scan for which room was made keeps the usable ports of the listing. -/
theorem run_of_ok (listed : s.stack.fabricPorts s.managed = .ok handles)
    (made : l.reserveIfGranted s.grants handles.length = .ok grown) :
    s.run l = (keepUsable s.stack s.device s.table grown handles s.settings).value.1 := by
  unfold run
  rw [listed]
  cases handles with
  | nil =>
    cases made
    rfl
  | cons handle rest =>
    dsimp only
    rw [made]

/-- A scan for which no room was made changes nothing. -/
theorem run_of_error {full : PortListFull} (listed : s.stack.fabricPorts s.managed = .ok handles)
    (refused : l.reserveIfGranted s.grants handles.length = .error full) : s.run l = l := by
  unfold run
  rw [listed]
  cases handles with
  | nil => rfl
  | cons handle rest =>
    dsimp only
    rw [refused]

theorem run_of_not_listed {fault : Stack.Fault}
    (silent : s.stack.fabricPorts s.managed = .error fault) : s.run l = l := by
  unfold run
  rw [silent]

theorem count_of_listed (listed : s.stack.fabricPorts s.managed = .ok handles) :
    s.count = handles.length := by
  rw [count, listed]

/-- **What one scan does to the room**: none is made, or eight times as much as ports are listed,
and there is room for what is kept. -/
theorem capacity_run (h : l.HasRoom) (s : Scan H) :
    ((s.run l).capacity = l.capacity ∨ (s.run l).capacity = l.capacity + 8 * s.count) ∧
      (s.run l).HasRoom := by
  cases listed : s.stack.fabricPorts s.managed with
  | error fault =>
    rw [run_of_not_listed listed]
    exact ⟨.inl rfl, h⟩
  | ok handles =>
    rw [count_of_listed listed]
    cases made : l.reserveIfGranted s.grants handles.length with
    | error full =>
      rw [run_of_error listed made]
      exact ⟨.inl rfl, h⟩
    | ok grown =>
      have enough := PortList.size_add_le_of_reserveIfGranted h made
      obtain ⟨capacity, few⟩ := room_keepUsable s.stack s.device s.table enough s.settings
      rw [run_of_ok listed made, PortList.HasRoom, capacity]
      refine ⟨?_, by omega⟩
      rw [(PortList.capacity_of_reserveIfGranted h made).2]
      split_ifs
      · exact .inl rfl
      · exact .inr rfl

/-- The room after scans is what there was before and what they made. -/
theorem capacity_runAll (h : l.HasRoom) (scans : List (Scan H)) :
    (runAll l scans).capacity = l.capacity + 8 * grownCount l scans ∧ (runAll l scans).HasRoom := by
  induction scans generalizing l with
  | nil => exact ⟨rfl, h⟩
  | cons s rest ih =>
    obtain ⟨step, room⟩ := capacity_run h s
    obtain ⟨later, roomLater⟩ := ih room
    refine ⟨?_, roomLater⟩
    show (runAll (s.run l) rest).capacity = _
    rw [later, grownCount]
    split_ifs with same <;> omega

/-- A scan that changes nothing may be left out. -/
theorem runAll_of_run_eq {before : List (Scan H)} (same : s.run (runAll l before) = runAll l before)
    (after : List (Scan H)) : runAll l (before ++ s :: after) = runAll l (before ++ after) := by
  unfold runAll at same ⊢
  rw [List.foldl_append, List.foldl_append, List.foldl_cons, same]

/-- **The room of a list of ports comes from scans.** After any scans from an empty list on there is
room for the ports that are there, and it is eight times the number of ports that were listed in
those scans that made room. Where the next scan finds enough room for all ports that are listed, the
room stays the same; where it finds too little it makes room for eight times as many, if memory
grants it. Either way the room stays what was reserved, and there is some left whenever the next
port may have to be kept. If memory grants none, the scan changes nothing, also for all scans that
follow. A survey scans with a memory that grants growth for all but too many ports. -/
theorem room_runAll (scans : List (Scan H)) :
    let l := runAll .empty scans
    l.size ≤ l.capacity ∧ l.capacity = 8 * grownCount .empty scans ∧
    (∀ (s : Scan H) handles, s.stack.fabricPorts s.managed = .ok handles →
      (handles.length ≤ l.capacity - l.size → (s.run l).capacity = l.capacity) ∧
      (l.capacity - l.size < handles.length → s.grants handles.length = true →
        (s.run l).capacity = l.capacity + 8 * handles.length) ∧
      (l.capacity - l.size < handles.length → s.grants handles.length = false →
        s.run l = l ∧ ∀ after, runAll .empty (scans ++ s :: after) = runAll .empty (scans ++ after)) ∧
      ∀ grown, l.reserveIfGranted s.grants handles.length = .ok grown →
        (s.run l).capacity = grown.capacity ∧
        ∀ k < handles.length,
          let kept := (keepUsable s.stack s.device s.table grown (handles.take k)
            s.settings).value.1
          kept.capacity = grown.capacity ∧ kept.size < kept.capacity) ∧
    ∀ (stack : Stack H) managed device table settings,
      (scanPorts stack managed device table l settings).value.1 =
        Scan.run ⟨stack, managed, device, table, settings, (· < PortList.tooMany)⟩ l := by
  intro l
  have start : PortList.empty.HasRoom := Nat.le_refl 0
  obtain ⟨capacity, room⟩ := capacity_runAll start scans
  have none : PortList.empty.capacity = 0 := rfl
  rw [none, Nat.zero_add] at capacity
  have fixed : ∀ (s : Scan H) handles grown, s.stack.fabricPorts s.managed = .ok handles →
      l.reserveIfGranted s.grants handles.length = .ok grown →
        (s.run l).capacity = grown.capacity := by
    intro s handles grown listed made
    rw [run_of_ok listed made]
    exact (room_keepUsable s.stack s.device s.table
      (PortList.size_add_le_of_reserveIfGranted room made) s.settings).1
  refine ⟨room, capacity, fun s handles listed => ⟨fun enough => ?_, fun few granted => ?_,
    fun few refused => ?_,
    fun grown made => ⟨fixed s handles grown listed made, fun k below => ?_⟩⟩,
    fun stack managed device table => ports_scanPorts_eq_run stack managed device table l⟩
  · exact fixed s handles l listed (PortList.reserveIfGranted_of_le enough)
  · have made := (PortList.reserveIfGranted_of_lt few).trans (if_pos granted)
    rw [fixed s handles _ listed made, (PortList.capacity_of_reserveIfGranted room made).2,
      if_neg (Nat.not_le.2 few)]
  · have made := (PortList.reserveIfGranted_of_lt few).trans
      (if_neg (ne_true_of_eq_false refused))
    have same := run_of_error listed made
    exact ⟨same, runAll_of_run_eq same⟩
  · have enough := PortList.size_add_le_of_reserveIfGranted room made
    have part : (handles.take k).length = k := List.length_take_of_le (Nat.le_of_lt below)
    have enoughForPart : grown.size + (handles.take k).length ≤ grown.capacity := by omega
    obtain ⟨same, size⟩ := room_keepUsable s.stack s.device s.table enoughForPart s.settings
    exact ⟨same, by omega⟩

/-- A scan of a device with seven ports, of which it keeps two. -/
def mixedScan (grants : ℕ → Bool) : Scan ℕ where
  stack := mixedInventory.stack
  managed := 0
  device := ⟨1⟩
  table := [some ⟨2⟩, none]
  settings := {}
  grants := grants

/-- A scan without memory leaves no trace. The first one with memory makes room for 56 ports, and
the second one finds it. -/
theorem room_runAll_mixed :
    let denied := mixedScan fun _ => false
    let granted := mixedScan fun _ => true
    runAll .empty [denied, granted, granted] = runAll .empty [granted, granted] ∧
      (granted.run .empty).capacity = 56 ∧ (runAll .empty [granted]).size = 2 ∧
      (runAll .empty [granted, granted]).capacity = 56 ∧
      (keepUsable mixedInventory.stack ⟨1⟩ [some ⟨2⟩, none] ⟨#[], 56⟩ [0, 1, 2]
        {}).value.1.size < 56 := by
  intro denied granted
  have first := (room_runAll [granted]).2.1
  have second := ((room_runAll []).2.2.1 granted [0, 1, 2, 3, 4, 5, 6] rfl).2
  refine ⟨?_, ?_, rfl, ?_, ?_⟩
  · exact (((room_runAll []).2.2.1 denied [0, 1, 2, 3, 4, 5, 6] rfl).2.2.1 (by decide) rfl).2
      [granted, granted]
  · exact second.1 (by decide) rfl
  · refine (((room_runAll [granted]).2.2.1 granted [0, 1, 2, 3, 4, 5, 6] rfl).1 ?_).trans first
    rw [first]
    decide
  · exact (second.2.2 ⟨#[], 56⟩ rfl).2 3 (by decide) |>.2

end Scan

end DeviceAtlas
