import DeviceAtlas.Journal
import DeviceAtlas.Object

/-!
# The registry

The objects of the devices that were found, in the order in which they were found. The place of an
object is its row and its column in the bandwidth matrix, so a device comes right before its
subdevices. Room is made in whole batches.

* `Registry.capacity_reserve`: the room after a reservation.
-/

namespace DeviceAtlas

/-- Registered objects, and the room there is for them. -/
structure Registry where
  nodes : List ObjectId := []
  capacity : Nat := 0
  deriving DecidableEq, Repr

/-- There is no memory for so many more objects. -/
structure RegistryFull where
  capacity : Nat
  requested : Nat
  deriving DecidableEq, Repr

/-- What to tell a reader about objects that do not fit. -/
def RegistryFull.message (e : RegistryFull) : String :=
  s!"failed to grow registry from {e.capacity} entries to hold {e.requested} more"

instance : ToString RegistryFull := ⟨RegistryFull.message⟩

namespace Registry

/-- Room is made for this many objects at a time: eight devices with four subdevices each. -/
def batch : Nat := 40

/-- A registry without objects or room. -/
def empty : Registry := {}

/-- How many objects are registered. -/
def size (r : Registry) : Nat := r.nodes.length

/-- How many more objects there is room for. -/
def spare (r : Registry) : Nat := r.capacity - r.size

/-- The least number of batches that hold what the spare room does not. -/
def missingBatches (r : Registry) (count : Nat) : Nat :=
  (count - r.spare + (batch - 1)) / batch

/-- Make room for more objects, if there is too little. -/
def reserve (r : Registry) (count : Nat) : Logged Registry :=
  if count ≤ r.spare then pure r
  else do
    let capacity := r.size + (r.spare + r.missingBatches count * batch)
    Logged.detail s!"growing registry from {r.capacity} to {capacity} entries"
    return { r with capacity }

/-- Register a device and then its subdevices. The place of the device comes back. Memory is taken
to have room for the objects of a machine. -/
def addBlock (r : Registry) (device : ObjectId) (subdevices : List ObjectId) :
    Logged (Registry × Nat) := do
  let grown ← r.reserve (1 + subdevices.length)
  return ({ grown with nodes := r.nodes ++ device :: subdevices }, r.size)

/-- Register a device and its subdevices where memory `grants` some capacities and not others. If
it does not grant the one that the block needs, the registry stays as it is. -/
def addBlockIfGranted (r : Registry) (grants : Nat → Bool) (device : ObjectId)
    (subdevices : List ObjectId) : Logged (Registry × Except RegistryFull Nat) := do
  let count := 1 + subdevices.length
  let grown ← r.reserve count
  if count ≤ r.spare ∨ grants grown.capacity then
    return ({ grown with nodes := r.nodes ++ device :: subdevices }, .ok r.size)
  else return (r, .error ⟨r.capacity, count⟩)

/-- Register one object. Its place comes back. -/
def add (r : Registry) (node : ObjectId) : Logged (Registry × Nat) := r.addBlock node []

/-- The first place of an object. -/
def find? (r : Registry) (node : ObjectId) : Option Nat := r.nodes.idxOf? node

/-- Room that is too small grows by whole batches. -/
theorem capacity_reserve (r : Registry) (count : Nat) (fits : r.size ≤ r.capacity) :
    (r.reserve count).value.capacity =
      if count ≤ r.spare then r.capacity else r.capacity + r.missingBatches count * batch := by
  unfold reserve
  split
  · rfl
  · simp only [spare, Logged.value_bind, Logged.value_pure]
    omega

end Registry

end DeviceAtlas
