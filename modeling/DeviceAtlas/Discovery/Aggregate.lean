import DeviceAtlas.Discovery.BandwidthMatrix
import DeviceAtlas.Discovery.Facts
import DeviceAtlas.Discovery.Port
import DeviceAtlas.Discovery.Registry
import DeviceAtlas.Discovery.Settings
import DeviceAtlas.Number
import DeviceAtlas.Topology.Basic
import Std.Data.HashMap

/-!
# Aggregating links

The receive bandwidth of each link of the chosen model is added between the registered owners of
its ports, and, when both owners are subdevices, once more between their devices. If that came to
nothing there is no matrix; else the local bandwidth is filled in.
-/

namespace DeviceAtlas

/-! ## Links

A healthy port is linked to every other port that has the identity it claims at its remote end.
Links have a direction; whether the other end claims the same is not asked. Candidates are found
through an index of the ports by identity.
-/

/-- A link between two ports, by their positions in a list. -/
structure Link where
  source : Nat
  target : Nat
  deriving DecidableEq, Repr

namespace Link

/-- For each identity the positions of the ports that have it, in order. -/
def index (ports : List Port) : Std.HashMap Stack.PortId (Array Nat) :=
  ports.zipIdx.foldl
    (fun found (port, position) =>
      found.alter port.properties.id fun bucket => some ((bucket.getD #[]).push position))
    ∅

/-- The links that leave a port, ordered by target. -/
def leaving (found : Std.HashMap Stack.PortId (Array Nat)) (port : Port) (position : Nat) :
    List Link :=
  if port.state.status = .healthy then
    ((found.getD port.state.remote #[]).toList.filter (· ≠ position)).map fun target =>
      ⟨position, target⟩
  else []

/-- All links between ports, ordered by source and then by target. -/
def all (ports : Array Port) : List Link :=
  let found := index ports.toList
  ports.toList.zipIdx.flatMap fun (port, position) => leaving found port position

end Link

/-! ## Local blocks

A device and its subdevices stand next to each other in the registry. The number of subdevices is
read from the infos of the device. Between the parts of one device stands the local bandwidth.
-/

/-- The places of a device and its subdevices, from `start` up to but not including `stop`. -/
structure LocalBlock where
  start : Nat
  stop : Nat
  deriving DecidableEq, Repr

namespace LocalBlock

/-- The places in the block. -/
def places (b : LocalBlock) : List Nat := List.range' b.start (b.stop - b.start)

/-- The blocks of registered objects from a place on, given the number of subdevices that belong
to each. The last block may lack some of them. -/
def cover (subdevices : ObjectId → Nat) (start : Nat) : List ObjectId → List LocalBlock
  | [] => []
  | device :: rest =>
    let stop := start + 1 + min (subdevices device) rest.length
    ⟨start, stop⟩ :: cover subdevices stop (rest.drop (subdevices device))
termination_by nodes => nodes.length
decreasing_by
  simp only [List.length_drop, List.length_cons]
  omega

/-- Write a value into every cell of the block. -/
def fill (b : LocalBlock) (m : BandwidthMatrix) (value : UInt64) : BandwidthMatrix :=
  b.places.foldl (fun m row => b.places.foldl (fun m column => m.set row column value) m) m

end LocalBlock

/-- How many subdevices the infos of an object tell of; none if that is no number. -/
def Topology.subdeviceCount (t : Topology) (id : ObjectId) : Nat :=
  ((t.info? id InfoKey.subdevices).bind fun text =>
    (Numeral.readDecimal UInt64.size text).toOption).getD 0

/-- The blocks of a registry. -/
def Registry.localBlocks (r : Registry) (t : Topology) : List LocalBlock :=
  LocalBlock.cover t.subdeviceCount 0 r.nodes

/-- Write the local bandwidth into the blocks of a registry. -/
def BandwidthMatrix.withLocal (m : BandwidthMatrix) (r : Registry) (t : Topology)
    (value : UInt64) : BandwidthMatrix :=
  (r.localBlocks t).foldl (fun m b => b.fill m value) m

/-! ## Counting links -/

/-- The matrix so far, and how many links made it in. -/
structure LinkTally where
  matrix : BandwidthMatrix
  matched : Nat := 0
  deriving Repr

namespace LinkTally

/-- Add a bandwidth between two objects; both have to be registered. -/
def credit? (r : Registry) (m : BandwidthMatrix) (source target : ObjectId) (bandwidth : UInt64) :
    Option BandwidthMatrix := do
  let row ← r.find? source
  let column ← r.find? target
  return m.add row column bandwidth

/-- Count a link between two ports. A link whose owners are registered, but not the devices that
they are part of, adds its bandwidth without being counted. -/
def count (r : Registry) (model : String) (tally : LinkTally) (source target : Port) : LinkTally :=
  if target.properties.model ≠ model then tally
  else
    let bandwidth := source.state.received.megabytes
    match credit? r tally.matrix source.owner target.owner bandwidth with
    | none => tally
    | some matrix =>
      match source.root, target.root with
      | some sourceRoot, some targetRoot =>
        match credit? r matrix sourceRoot targetRoot bandwidth with
        | none => { tally with matrix }
        | some matrix => ⟨matrix, tally.matched + 1⟩
      | _, _ => ⟨matrix, tally.matched + 1⟩

/-- Count a link by positions, and mention it. -/
def countLink (r : Registry) (model : String) (ports : Array Port) (tally : LinkTally)
    (link : Link) : Logged LinkTally :=
  match ports[link.source]?, ports[link.target]? with
  | some source, some target => do
    let (i, j) := (link.source, link.target)
    let (rate, technology) := (source.state.received.bitRate, target.properties.model)
    let (here, there) := (source.owner, target.owner)
    Logged.detail
      s!"found link model {technology} with {rate} bit/s from port #{i} ({here}) to port #{j} ({there})"
    return tally.count r model source target
  | _, _ => return tally

end LinkTally

/-- The bandwidths between registered objects, if any link was counted. -/
def aggregate (r : Registry) (ports : PortList) (t : Topology) (settings : Settings) :
    Logged (Option BandwidthMatrix) :=
  if ports.ports.isEmpty then return none
  else
    match BandwidthMatrix.zeros r.size with
    | .error tooLarge => do
      settings.advise tooLarge.message
      return none
    | .ok matrix => do
      let tally ← (Link.all ports.ports).foldlM
        (LinkTally.countLink r settings.linkModel ports.ports) { matrix }
      if tally.matched = 0 then
        Logged.detail s!"no {settings.linkModel} link between registered devices"
        return none
      else return some (tally.matrix.withLocal r t settings.localBandwidth)

end DeviceAtlas
