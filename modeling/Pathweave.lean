import Pathweave.GuardedRuns
import Pathweave.Weights
import Pathweave.TaskLists
import Pathweave.OrderedTries
import Pathweave.ByteStrings
import Pathweave.StringBytes
import Pathweave.ChunkTilings
import Pathweave.Identities
import Pathweave.KeyRegistry
import Pathweave.DeduplicationCache
import Pathweave.PeerAddresses
import Pathweave.AddressExchange
import Pathweave.WireFrames
import Pathweave.DispatchPayload
import Pathweave.RoutedEffects
import Pathweave.MeshFlood
import Pathweave.SampleMesh
import Pathweave.MeshBounds
import Pathweave.MeshDelivery
import Pathweave.MeshCoverage
import Pathweave.Sessions
import Pathweave.TrySend
import Pathweave.HandshakeSteps
import Pathweave.DeliveryAck
import Pathweave.StoreForward
import Pathweave.StoreConservation
import Pathweave.StoreOrder
import Pathweave.StoreDepth
import Pathweave.StoreWakeup
import Pathweave.StoreDedup
import Pathweave.NodeTasks
import Pathweave.KeyBinding
import Pathweave.SealedDelivery
import Pathweave.SealedSuppression
import Pathweave.PeerTableEntries
import Pathweave.KeyAnnouncements
import Pathweave.FrameAgreement
import Pathweave.TransportRestarts
import Pathweave.CborHeads
import Pathweave.BundleLayer
import Pathweave.BundleMtu
import Pathweave.BundleRoundTrip
import Pathweave.BundleReassembly
import Pathweave.BundleOrder
import Pathweave.RouterCalls
import Pathweave.RouterControl
import Pathweave.SendWindow
import Pathweave.KeyRegistryHistory
import Pathweave.SelfEntries
import Pathweave.DirectAcks
import Pathweave.OriginatorSuppression
import Pathweave.BroadcastTransport
import Pathweave.BroadcastRouting
import Pathweave.BroadcastIsolation
import Pathweave.BroadcastForwarding
import Pathweave.LaggedReaders
import Pathweave.EventWatcher
import Pathweave.WatcherDrains
import Pathweave.AddressRecords
import Pathweave.AddressGrammar
import Pathweave.ShortIds
import Pathweave.StreamConnections
import Pathweave.SelfDialling
import Pathweave.DedupWindow
import Pathweave.HealthMonitor
import Pathweave.QuicStarts
import Pathweave.DepartureOwners
import Pathweave.KnownAddresses
import Pathweave.MdnsBridge
import Pathweave.BlePeripheral
import Pathweave.WindowsPeripheral
import Pathweave.WifiDirectRoles
import Pathweave.HexIds
import Pathweave.Transducers
import Pathweave.SecureChannel
import Pathweave.SessionStack
import Pathweave.FloodWaves
import Pathweave.KeyGossip
import Pathweave.SealedBootstrap
import Pathweave.AcyclicFloods
import Pathweave.HandshakeEndpoints
import Pathweave.AcceptLocks
import Pathweave.StopWaits
import Pathweave.AcceptedConnections
import Pathweave.RouterConnect
import Pathweave.BacklogDelivery
import Pathweave.FallbackChains
import Pathweave.TransportViews
import Pathweave.KeyReports
import Pathweave.PayloadLimits
import Pathweave.DeliveryRefinement
