import DeviceAtlas.Discovery.Aggregate
import DeviceAtlas.Discovery.BandwidthMatrix
import DeviceAtlas.Discovery.Registry
import DeviceAtlas.Discovery.Settings
import DeviceAtlas.Discovery.Survey
import DeviceAtlas.Topology.Basic

/-!
# The discovery pass

A pass surveys a driver stack, adds up the links between what it found, and publishes the matrix
in the topology. It never fails: what cannot be found out is left out.
-/

namespace DeviceAtlas

/-! ## Publishing a matrix

A bandwidth matrix goes to a store of distance matrices in three steps, of which each may fail. A
topology is such a store.
-/

/-- A store of distance matrices with states of type `σ`; `π` is a matrix on its way there. Every
step answers with the state it leaves. -/
structure MatrixStore (σ π : Type) where
  announce : σ → String → Distance.Kind → Logged (Except Distance.Failure π × σ)
  attach : σ → π → Distance.Content → Logged (Except Distance.Failure π × σ)
  commit : σ → π → Distance.StoreOptions → Logged (Except Distance.Failure Unit × σ)

/-- The store that a topology is. A failed step leaves it as it was. -/
def Topology.matrixStore : MatrixStore Topology Distance.Pending where
  announce t name kind := return (Distance.Pending.announce name kind, t)
  attach t p content := return (t.attach p content, t)
  commit t p options := do
    match ← t.store p options with
    | .ok t => return (.ok (), t)
    | .error failure => return (.error failure, t)

/-- The steps towards a published matrix. -/
inductive PublishStage where
  | announce
  | attach
  | commit
  deriving DecidableEq, Repr

/-- What became of a bandwidth matrix. -/
inductive Publication where
  /-- There was none. -/
  | nothing
  /-- The store has it. -/
  | published (name : String) (size : Nat)
  /-- The store refused it. The matrix comes back if the store never took its values. -/
  | failed (stage : PublishStage) (failure : Distance.Failure) (matrix : Option BandwidthMatrix)
  deriving DecidableEq, Repr

namespace Publication

/-- Whether the store has the matrix. -/
def isPublished : Publication → Bool
  | published _ _ => true
  | _ => false

end Publication

/-- Publish the bandwidths between registered objects as measured distances. -/
def publish {σ π : Type} (store : MatrixStore σ π) (state : σ) (r : Registry)
    (matrix : BandwidthMatrix) (settings : Settings) : Logged (Publication × σ) := do
  let name := settings.matrixName
  let size := matrix.size
  match ← store.announce state name .measuredBandwidth with
  | (.error failure, state) =>
    Logged.detail s!"failed to create distances {name}: {failure}"
    return (.failed .announce failure (some matrix), state)
  | (.ok pending, state) =>
    match ← store.attach state pending ⟨r.nodes, matrix.values⟩ with
    | (.error failure, state) =>
      Logged.detail s!"failed to attach values to distances {name}: {failure}"
      return (.failed .attach failure none, state)
    | (.ok pending, state) =>
      match ← store.commit state pending .none with
      | (.error failure, state) =>
        Logged.detail s!"failed to commit distances {name}: {failure}"
        return (.failed .commit failure none, state)
      | (.ok (), state) =>
        Logged.detail s!"published {size}x{size} distances {name}"
        return (.published name size, state)

/-! ## The pass -/

variable {H : Type}

/-- What a pass did. -/
structure Discovery where
  /-- How many devices and subdevices it added. -/
  added : Nat := 0
  /-- How many usable ports it found. -/
  ports : Nat := 0
  publication : Publication := .nothing
  deriving DecidableEq, Repr

/-- Aggregate and publish what a survey found. -/
def Survey.conclude (s : Survey) (settings : Settings) : Logged (Topology × Discovery) := do
  let (registered, usable) := (s.registry.size, s.ports.size)
  Logged.detail
    s!"added {s.added} devices, {registered} registered, {usable} usable ports"
  let (publication, t) ← match ← aggregate s.registry s.ports s.topology settings with
    | some matrix => publish Topology.matrixStore s.topology s.registry matrix settings
    | none => pure (.nothing, s.topology)
  let t := if 0 < s.added then t.addTopologyInfo InfoKey.backend.1 InfoKey.backend.2 else t
  return (t, { added := s.added, ports := usable, publication })

/-- Add the devices of a driver stack to a topology, then publish the bandwidths between them. -/
def discover (stack : Stack H) (t : Topology) (settings : Settings)
    (grants : Nat → Bool := fun _ => true) : Logged (Topology × Discovery) :=
  if t.filter .osDevice = .keepNone then do
    Logged.detail "OS devices are filtered out, skipping Level Zero discovery"
    return (t, {})
  else
    match stack.start with
    | .error fault => do
      settings.advise s!"failed to initialize Level Zero: {fault}"
      return (t, {})
    | .ok () =>
      match stack.startManagement with
      | .error fault => do
        settings.advise s!"failed to initialize Level Zero management: {fault}"
        return (t, {})
      | .ok () => do
        let found ← survey stack t settings grants
        found.conclude settings

end DeviceAtlas
