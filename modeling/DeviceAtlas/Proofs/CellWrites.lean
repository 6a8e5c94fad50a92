import DeviceAtlas.Proofs.CellLaw

/-!
# A matrix is a table of counters

A bandwidth matrix keeps its values in one row after another. To who adds and sets values, whatever
the rows and columns, it is a table with a counter for each pair of a row and a column below the
size: what a counter has is settled by the writes to it alone, those after it was last set are added
up and capped once, and writes elsewhere do nothing.

* `BandwidthMatrix.get?_write`: what a write does to each cell.
* `BandwidthMatrix.amount?_writeAll_of_forall_ne_set`: additions are capped once.
* `BandwidthMatrix.writeAll_eq_of_perm`: writes that do not get in each other's way may change
  places.
* `BandwidthMatrix.cells_writeAll`: the cells of a matrix after any list of writes.
-/

namespace DeviceAtlas

theorem Capped.add_right_comm (a b c : UInt64) : add (add a b) c = add (add a c) b := by
  apply UInt64.toNat_inj.1
  simp only [toNat_add]
  omega

namespace BandwidthMatrix

/-- What a write does to a value. -/
inductive Change where
  | add (value : UInt64)
  | set (value : UInt64)
  deriving DecidableEq, Repr

/-- A write to a row and a column, which need not be there. -/
structure Write where
  row : ℕ
  column : ℕ
  change : Change
  deriving DecidableEq, Repr

/-- Do a write. -/
def write (m : BandwidthMatrix) (w : Write) : BandwidthMatrix :=
  match w.change with
  | .add value => m.add w.row w.column value
  | .set value => m.set w.row w.column value

/-- Do writes in turn. -/
def writeAll (m : BandwidthMatrix) (ws : List Write) : BandwidthMatrix := ws.foldl write m

namespace Write

/-- Two writes are to one cell. -/
def SameCell (w w' : Write) : Prop := w.row = w'.row ∧ w.column = w'.column

/-- A write adds. -/
def Adds (w : Write) : Prop := ∃ value, w.change = .add value

/-- What a write adds to a cell. -/
def added (row column : ℕ) (w : Write) : ℕ :=
  match w.change with
  | .add value => if w.row = row ∧ w.column = column then value.toNat else 0
  | .set _ => 0

/-- The exact sum of what writes add to a cell. -/
def addedTo (row column : ℕ) (ws : List Write) : ℕ := (ws.map (added row column)).sum

end Write

variable {m m' : BandwidthMatrix} {w w' : Write} {ws ws' : List Write} {row column : ℕ}

/-! ## One write -/

/-- The value that a write leaves where there was another one. -/
def Change.apply : Change → UInt64 → UInt64
  | .add value, old => Capped.add old value
  | .set value, _ => value

theorem write_eq_modify (m : BandwidthMatrix) (w : Write) :
    m.write w = m.modify w.row w.column w.change.apply := by
  unfold write
  cases w.change <;> rfl

@[simp] theorem size_write (m : BandwidthMatrix) (w : Write) : (m.write w).size = m.size := by
  rw [write_eq_modify, size_modify]

/-- A write changes the value of one cell. -/
theorem get?_write (m : BandwidthMatrix) (w : Write) (row column : ℕ) :
    (m.write w).get? row column =
      if w.row = row ∧ w.column = column then (m.get? row column).map w.change.apply
      else m.get? row column := by
  rw [write_eq_modify, get?_modify]

theorem get?_write_of_ne (other : ¬ (w.row = row ∧ w.column = column)) :
    (m.write w).get? row column = m.get? row column := by
  rw [get?_write, if_neg other]

/-- A write beyond the last row or column does nothing. -/
theorem write_of_le (beyond : m.size ≤ w.row ∨ m.size ≤ w.column) : m.write w = m := by
  have none : m.cell? w.row w.column = .none := by
    rw [cell?, if_neg (by omega)]
  rw [write_eq_modify, modify, none]

theorem get?_of_le (beyond : m.size ≤ row ∨ m.size ≤ column) : m.get? row column = none := by
  rw [get?, cell?, if_neg (by omega), Option.bind_none]

/-- The value of a cell is one of those that are kept. -/
theorem get?_of_cell? {place : ℕ} (here : m.cell? row column = some place) :
    ∃ within : place < m.values.size, m.get? row column = some m.values[place] := by
  refine ⟨lt_size_of_cell? here, ?_⟩
  rw [get?, here, Option.bind_some, Array.getElem?_eq_getElem]

/-! ## Any list of writes -/

theorem writeAll_append (m : BandwidthMatrix) (ws ws' : List Write) :
    m.writeAll (ws ++ ws') = (m.writeAll ws).writeAll ws' :=
  List.foldl_append

@[simp] theorem size_writeAll (m : BandwidthMatrix) (ws : List Write) :
    (m.writeAll ws).size = m.size :=
  size_foldl size_write ws m

theorem amount?_write_add (value : UInt64) (row' column' : ℕ) :
    (m.write ⟨row', column', .add value⟩).amount? row column =
      (m.amount? row column).map fun n =>
        min Capped.top (n + Write.added row column ⟨row', column', .add value⟩) :=
  amount?_add ..

/-- **Additions to a cell are capped once**, although each of them was capped. -/
theorem amount?_writeAll_of_forall_ne_set (unset : ∀ value, ⟨row, column, .set value⟩ ∉ ws) :
    (m.writeAll ws).amount? row column =
      (m.amount? row column).map fun n => min Capped.top (n + Write.addedTo row column ws) := by
  induction ws generalizing m with
  | nil => exact (m.map_min_amount? row column).symm
  | cons w ws ih =>
    have later : ∀ value, ⟨row, column, .set value⟩ ∉ ws := fun value listed =>
      unset value (List.mem_cons_of_mem _ listed)
    have step : (m.write w).amount? row column =
        (m.amount? row column).map fun n => min Capped.top (n + w.added row column) := by
      obtain ⟨row', column', value | value⟩ := w
      · exact amount?_write_add value row' column'
      · -- another cell is set, so that nothing is added to this one
        have other : ¬ (row' = row ∧ column' = column) := by
          rintro ⟨rfl, rfl⟩
          exact unset value List.mem_cons_self
        rw [amount?, get?_write_of_ne other]
        exact (m.map_min_amount? row column).symm
    calc (m.writeAll (w :: ws)).amount? row column
      _ = ((m.write w).writeAll ws).amount? row column := rfl
      _ = ((m.amount? row column).map fun n => min Capped.top (n + w.added row column)).map
          fun n => min Capped.top (n + Write.addedTo row column ws) := by rw [ih later, step]
      _ = (m.amount? row column).map fun n =>
          min Capped.top (n + Write.addedTo row column (w :: ws)) := by
        rw [Option.map_map]
        apply Option.map_congr
        intro n _
        simp only [Function.comp_apply, Write.addedTo, List.map_cons, List.sum_cons]
        omega

/-- A cell that was set has the value that it was set to, and what was added to it since. -/
theorem amount?_writeAll_of_set (hr : row < m.size) (hc : column < m.size) (before : List Write)
    (value : UInt64) (unset : ∀ value, ⟨row, column, .set value⟩ ∉ ws) :
    (m.writeAll (before ++ ⟨row, column, .set value⟩ :: ws)).amount? row column =
      some (min Capped.top (value.toNat + Write.addedTo row column ws)) := by
  have set : ((m.writeAll before).write ⟨row, column, .set value⟩).amount? row column =
      some value.toNat := by
    obtain ⟨old, found⟩ := Option.isSome_iff_exists.1 (isSome_get?_iff.2
      (by simpa using ⟨hr, hc⟩ : row < (m.writeAll before).size ∧ column < _))
    rw [amount?, get?_write, if_pos ⟨rfl, rfl⟩, found]
    rfl
  rw [writeAll_append]
  show (((m.writeAll before).write ⟨row, column, .set value⟩).writeAll ws).amount? row column = _
  rw [amount?_writeAll_of_forall_ne_set unset, set, Option.map_some]

/-! ## Writes that change places -/

/-- A matrix is settled by its cells. -/
theorem ext_get? (sizes : m.size = m'.size)
    (cells : ∀ row column, m.get? row column = m'.get? row column) : m = m' := by
  obtain ⟨size, values, square⟩ := m
  obtain ⟨size', values', square'⟩ := m'
  obtain rfl : size = size' := sizes
  have same : values = values' := by
    refine Array.ext (square.trans square'.symm) fun i within within' => ?_
    have positive : 0 < size := Nat.pos_of_ne_zero fun none => by
      rw [square, none] at within
      omega
    have hr : i / size < size := Nat.div_lt_of_lt_mul (square ▸ within)
    have hc : i % size < size := Nat.mod_lt i positive
    have whole : i / size * size + i % size = i := Nat.div_add_mod' i size
    have here := cells (i / size) (i % size)
    simpa [get?, cell?, hr, hc, whole, within, within'] using here
  subst same
  rfl

/-- Two writes do not get in each other's way if they are to different cells, or both add, or are
the same. -/
def Write.Free (w w' : Write) : Prop := w.SameCell w' → w = w' ∨ w.Adds ∧ w'.Adds

theorem Change.apply_add_comm {c c' : Change} (adds : ∃ value, c = .add value)
    (adds' : ∃ value, c' = .add value) (old : UInt64) :
    c'.apply (c.apply old) = c.apply (c'.apply old) := by
  obtain ⟨value, rfl⟩ := adds
  obtain ⟨value', rfl⟩ := adds'
  exact Capped.add_right_comm old value value'

/-- **Free writes may change places.** -/
theorem write_comm (m : BandwidthMatrix) (free : w.Free w') :
    (m.write w).write w' = (m.write w').write w := by
  refine ext_get? (by simp) fun row column => ?_
  simp only [get?_write]
  by_cases here : w.row = row ∧ w.column = column
  · by_cases here' : w'.row = row ∧ w'.column = column
    · simp only [here, here', and_self, if_true, Option.map_map]
      rcases free ⟨here.1.trans here'.1.symm, here.2.trans here'.2.symm⟩ with rfl | ⟨adds, adds'⟩
      · rfl
      · exact Option.map_congr fun old _ => Change.apply_add_comm adds adds' old
    · simp only [here, here', and_self, if_true, if_false]
  · simp only [here, if_false]

/-- A stretch of free writes may be done in any order. -/
theorem writeAll_eq_of_perm (m : BandwidthMatrix) (perm : ws.Perm ws')
    (free : ∀ w ∈ ws, ∀ w' ∈ ws, w.Free w') : m.writeAll ws = m.writeAll ws' :=
  perm.foldl_eq' (fun w listed w' listed' m => write_comm m (free w listed w' listed')) m

/-! ## From zeros on -/

/-- **A matrix is a table of counters.** After any writes to a matrix of zeros that fits there are
as many values as cells, and each cell finds its own among them. Beyond the last row and column
nothing is found and nothing written. A cell has what it was last set to, or zero, and the exact sum
of what was added to it since, capped once. A write leaves all other cells alone, and writes of
which no two get in each other's way may be done in any order. -/
theorem cells_writeAll {size : ℕ} {zeros : BandwidthMatrix}
    (fits : BandwidthMatrix.zeros size = .ok zeros) (ws : List Write) :
    let m := zeros.writeAll ws
    (m.size = size ∧ m.values.size = size * size ∧
      ∀ row column place, m.cell? row column = some place →
        ∃ within : place < m.values.size, m.get? row column = some m.values[place]) ∧
    (∀ row column, size ≤ row ∨ size ≤ column →
      m.get? row column = none ∧ ∀ change, m.write ⟨row, column, change⟩ = m) ∧
    (∀ row < size, ∀ column < size,
      (∀ before value after, ws = before ++ ⟨row, column, .set value⟩ :: after →
        (∀ later, ⟨row, column, .set later⟩ ∉ after) →
          (m.get? row column).map UInt64.toNat =
            some (min (2 ^ 64 - 1) (value.toNat + Write.addedTo row column after))) ∧
      ((∀ value, ⟨row, column, .set value⟩ ∉ ws) →
        (m.get? row column).map UInt64.toNat =
          some (min (2 ^ 64 - 1) (Write.addedTo row column ws)))) ∧
    (∀ (w : Write) row column, ¬ (w.row = row ∧ w.column = column) →
      (m.write w).get? row column = m.get? row column) ∧
    ∀ between between' after, between.Perm between' →
      (∀ w ∈ between, ∀ w' ∈ between,
        w.row = w'.row ∧ w.column = w'.column → w = w' ∨ w.Adds ∧ w'.Adds) →
      m.writeAll (between ++ after) = m.writeAll (between' ++ after) := by
  intro m
  have sizes : m.size = size := by
    rw [size_writeAll, size_zeros fits]
  refine ⟨⟨sizes, sizes ▸ m.square, fun row column place => get?_of_cell?⟩,
    fun row column beyond => ⟨get?_of_le (by rwa [sizes]), fun change =>
      write_of_le (by rwa [sizes])⟩,
    fun row hr column hc => ⟨?_, fun unset => ?_⟩,
    fun w row column => get?_write_of_ne, fun between between' after perm free => ?_⟩
  · rintro before value after rfl unset
    rw [← size_zeros fits] at hr hc
    exact amount?_writeAll_of_set hr hc before value unset
  · have start := amount?_zeros fits hr hc
    have sum := amount?_writeAll_of_forall_ne_set (m := zeros) unset
    rwa [start, Option.map_some, Nat.zero_add] at sum
  · rw [writeAll_append, writeAll_append, writeAll_eq_of_perm m perm free]

/-! ### Four cells -/

/-- Writes of both sorts. Two of them are beyond a matrix of four cells, and what is added last is
too much for its cell. -/
def scatteredWrites : List Write :=
  [⟨0, 1, .add 5⟩, ⟨1, 0, .add 7⟩, ⟨0, 1, .set 18446744073709551613⟩, ⟨0, 2, .add 1⟩,
    ⟨5, 0, .set 9⟩, ⟨1, 0, .add 2⟩, ⟨0, 1, .add 4⟩]

theorem cells_writeAll_scattered :
    ∃ zeros, BandwidthMatrix.zeros 2 = .ok zeros ∧
      let m := zeros.writeAll scatteredWrites
      m.values.size = 4 ∧
      (m.get? 0 1).map UInt64.toNat = some (2 ^ 64 - 1) ∧
      (m.get? 1 0).map UInt64.toNat = some 9 ∧
      m.get? 0 2 = none ∧
      m.writeAll [⟨1, 1, .add 1⟩, ⟨0, 0, .set 3⟩, ⟨1, 1, .add 2⟩] =
        m.writeAll [⟨1, 1, .add 2⟩, ⟨1, 1, .add 1⟩, ⟨0, 0, .set 3⟩] := by
  have fits : BandwidthMatrix.zeros 2 = .ok ⟨2, .replicate 4 0, rfl⟩ := rfl
  obtain ⟨⟨-, values, -⟩, beyond, cells, -, order⟩ := cells_writeAll fits scatteredWrites
  refine ⟨_, fits, values, ?_, ?_, (beyond 0 2 (by decide)).1, ?_⟩
  · exact (cells 0 (by decide) 1 (by decide)).1 [⟨0, 1, .add 5⟩, ⟨1, 0, .add 7⟩]
      18446744073709551613 _ rfl (by simp)
  · exact (cells 1 (by decide) 0 (by decide)).2 (by simp [scatteredWrites])
  · refine order [⟨1, 1, .add 1⟩, ⟨0, 0, .set 3⟩, ⟨1, 1, .add 2⟩]
      [⟨1, 1, .add 2⟩, ⟨1, 1, .add 1⟩, ⟨0, 0, .set 3⟩] [] (by decide) ?_
    simp [Write.Adds]

end BandwidthMatrix

end DeviceAtlas
