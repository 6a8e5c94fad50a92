import DeviceAtlas.Number

/-!
# Bandwidth matrices

A square of bandwidths in MB/s, kept row by row. Sums in a cell are capped. A row or column beyond
the size is no cell: looking there finds nothing and writing there does nothing.

* `BandwidthMatrix.get?_add`, `BandwidthMatrix.get?_set`: what a write does to each cell.
-/

namespace DeviceAtlas

/-- A square matrix of bandwidths. -/
structure BandwidthMatrix where
  size : Nat
  /-- Row by row. -/
  values : Array UInt64
  square : values.size = size * size
  deriving DecidableEq, Repr

/-- There is no memory for a matrix of this size. -/
structure MatrixTooLarge where
  size : Nat
  deriving DecidableEq, Repr

/-- What to tell a reader about a matrix that does not fit. -/
def MatrixTooLarge.message (e : MatrixTooLarge) : String :=
  s!"can not allocate a {e.size}x{e.size} bandwidth matrix"

instance : ToString MatrixTooLarge := ⟨MatrixTooLarge.message⟩

namespace BandwidthMatrix

/-- A list takes less than `2 ^ 63` bytes, and a value takes eight. -/
def tooManyValues : Nat := 1 <<< 60

/-- The matrix of zeros, unless it does not fit. -/
def zeros (size : Nat) : Except MatrixTooLarge BandwidthMatrix :=
  if size * size < tooManyValues then .ok ⟨size, .replicate (size * size) 0, by simp⟩
  else .error ⟨size⟩

variable (m : BandwidthMatrix)

/-- Where a cell is kept, if there is one in this row and column. -/
def cell? (row column : Nat) : Option Nat :=
  if row < m.size ∧ column < m.size then some (row * m.size + column) else none

/-- The value of a cell. -/
def get? (row column : Nat) : Option UInt64 :=
  (m.cell? row column).bind (m.values[·]?)

/-- Change the value of a cell. -/
def modify (row column : Nat) (change : UInt64 → UInt64) : BandwidthMatrix :=
  match m.cell? row column with
  | some cell => { m with values := m.values.modify cell change, square := by simp [m.square] }
  | none => m

/-- Add to a cell. -/
def add (row column : Nat) (value : UInt64) : BandwidthMatrix :=
  m.modify row column (Capped.add · value)

/-- Replace the value of a cell. -/
def set (row column : Nat) (value : UInt64) : BandwidthMatrix :=
  m.modify row column fun _ => value

/-! ## What a write does to each cell -/

variable {m}

theorem cell?_eq_some_iff {row column cell : Nat} :
    m.cell? row column = some cell ↔
      row < m.size ∧ column < m.size ∧ row * m.size + column = cell := by
  simp [cell?, and_assoc]

/-- A cell lies within the values. -/
theorem lt_size_of_cell? {row column cell : Nat} (h : m.cell? row column = some cell) :
    cell < m.values.size := by
  obtain ⟨hr, hc, rfl⟩ := cell?_eq_some_iff.1 h
  rw [m.square]
  calc row * m.size + column < row * m.size + m.size := by omega
    _ = (row + 1) * m.size := by rw [Nat.add_mul, Nat.one_mul]
    _ ≤ m.size * m.size := Nat.mul_le_mul_right _ hr

/-- Different rows or columns are different cells. -/
theorem cell?_inj {row column row' column' cell : Nat} (h : m.cell? row column = some cell)
    (h' : m.cell? row' column' = some cell) : row = row' ∧ column = column' := by
  obtain ⟨_, hc, e⟩ := cell?_eq_some_iff.1 h
  obtain ⟨_, hc', e'⟩ := cell?_eq_some_iff.1 h'
  have rows : row = row' := by
    have := congrArg (· / m.size) (e.trans e'.symm)
    have pos : 0 < m.size := by omega
    simpa [Nat.add_comm, Nat.add_mul_div_right _ _ pos, Nat.div_eq_of_lt hc,
      Nat.div_eq_of_lt hc'] using this
  subst rows
  omega

@[simp] theorem size_modify (row column : Nat) (change : UInt64 → UInt64) :
    (m.modify row column change).size = m.size := by
  unfold modify
  split <;> rfl

/-- There is a value in each cell, and nowhere else. -/
theorem isSome_get?_iff {row column : Nat} :
    (m.get? row column).isSome ↔ row < m.size ∧ column < m.size := by
  unfold get?
  cases h : m.cell? row column with
  | none => simpa [cell?] using h
  | some cell =>
    have := cell?_eq_some_iff.1 h
    simp [lt_size_of_cell? h, this]

/-- Only the cell in that row and column changes. -/
theorem get?_modify (row column row' column' : Nat) (change : UInt64 → UInt64) :
    (m.modify row column change).get? row' column' =
      if row = row' ∧ column = column' then (m.get? row' column').map change
      else m.get? row' column' := by
  have cells : ∀ r c, (m.modify row column change).cell? r c = m.cell? r c := by
    simp [cell?]
  unfold get?
  rw [cells]
  cases h' : m.cell? row' column' with
  | none => simp
  | some cell' =>
    unfold modify
    cases h : m.cell? row column with
    | none =>
      have : ¬ (row = row' ∧ column = column') := by
        rintro ⟨rfl, rfl⟩
        simp [h] at h'
      simp [this]
    | some cell =>
      simp only [Option.bind_some, Array.getElem?_modify]
      by_cases eq : cell = cell'
      · subst eq
        simp [cell?_inj h h']
      · have : ¬ (row = row' ∧ column = column') := by
          rintro ⟨rfl, rfl⟩
          rw [h] at h'
          exact eq (Option.some.inj h')
        simp [eq, this]

/-- Adding changes one cell, by a capped sum. -/
theorem get?_add (row column row' column' : Nat) (value : UInt64) :
    (m.add row column value).get? row' column' =
      if row = row' ∧ column = column' then (m.get? row' column').map (Capped.add · value)
      else m.get? row' column' :=
  get?_modify ..

/-- Setting replaces the value of one cell. -/
theorem get?_set (row column row' column' : Nat) (value : UInt64) :
    (m.set row column value).get? row' column' =
      if row = row' ∧ column = column' then (m.get? row' column').map fun _ => value
      else m.get? row' column' :=
  get?_modify ..

end BandwidthMatrix

end DeviceAtlas
