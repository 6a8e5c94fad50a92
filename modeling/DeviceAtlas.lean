import DeviceAtlas.Discovery.Pass
import DeviceAtlas.Json.Reader
import DeviceAtlas.Proofs.AddressGrammar
import DeviceAtlas.Proofs.Advisories
import DeviceAtlas.Proofs.Attachment
import DeviceAtlas.Proofs.BlockRecords
import DeviceAtlas.Proofs.CanonicalText
import DeviceAtlas.Proofs.CellLaw
import DeviceAtlas.Proofs.CellWrites
import DeviceAtlas.Proofs.Collected
import DeviceAtlas.Proofs.DeviceInfos
import DeviceAtlas.Proofs.Insertion
import DeviceAtlas.Proofs.LinkScan
import DeviceAtlas.Proofs.LocalBandwidth
import DeviceAtlas.Proofs.LocalTiling
import DeviceAtlas.Proofs.MatchedLinks
import DeviceAtlas.Proofs.MatrixHistory
import DeviceAtlas.Proofs.MemoryRollUp
import DeviceAtlas.Proofs.MemoryTotals
import DeviceAtlas.Proofs.Outcome
import DeviceAtlas.Proofs.ParallelPasses
import DeviceAtlas.Proofs.ParentChoice
import DeviceAtlas.Proofs.PassFrame
import DeviceAtlas.Proofs.PlacedDevices
import DeviceAtlas.Proofs.PortHomes
import DeviceAtlas.Proofs.PortOwners
import DeviceAtlas.Proofs.PortRoom
import DeviceAtlas.Proofs.Publishing
import DeviceAtlas.Proofs.RegistryRoom
import DeviceAtlas.Proofs.RollUp
import DeviceAtlas.Proofs.ScarceMemory
import DeviceAtlas.Proofs.SkippedDevices
import DeviceAtlas.Proofs.SnapshotJson
import DeviceAtlas.Proofs.SnapshotWalk
import DeviceAtlas.Proofs.WithoutDistances
import DeviceAtlas.Stack.Inventory
import DeviceAtlas.Topology.Freeze
