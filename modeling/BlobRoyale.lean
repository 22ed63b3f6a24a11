import BlobRoyale.Library.Transition
import BlobRoyale.Library.Itinerary
import BlobRoyale.Library.SegmentDistance
import BlobRoyale.Library.LeastKept
import BlobRoyale.Library.HalfQuadratic
import BlobRoyale.Library.LastWriter
import BlobRoyale.Library.SortedStore
import BlobRoyale.Library.LeaseSlots
import BlobRoyale.Library.WaitQueue
import BlobRoyale.Library.TriangularIndex
import BlobRoyale.Library.Passes
import BlobRoyale.Simulation.Identity
import BlobRoyale.Simulation.Scalar
import BlobRoyale.Simulation.Command
import BlobRoyale.Simulation.PhysicsBody
import BlobRoyale.Simulation.Arena
import BlobRoyale.Simulation.MatchState
import BlobRoyale.Simulation.Components
import BlobRoyale.Library.WordMixing
import BlobRoyale.Library.IndexedEntries
import BlobRoyale.Simulation.GameWorld
import BlobRoyale.Simulation.StoreAlgebra
import BlobRoyale.Simulation.SpatialGrid
import BlobRoyale.Simulation.CandidatePairs
import BlobRoyale.Simulation.GridExactness
import BlobRoyale.Simulation.SystemPipeline
import BlobRoyale.Simulation.Seating
import BlobRoyale.Simulation.ContinuousMotion
import BlobRoyale.Simulation.InputBatch
import BlobRoyale.Simulation.Intake
import BlobRoyale.Simulation.IntakeEffects
import BlobRoyale.Simulation.SeatOwnership
import BlobRoyale.Simulation.IntakeProvision
import BlobRoyale.Simulation.GameSimulation
import BlobRoyale.Simulation.TuningRegister
import BlobRoyale.Simulation.MatchLifecycleLaw
import BlobRoyale.Simulation.SpatialIndexFreshness
import BlobRoyale.Runtime.CommandMailbox
import BlobRoyale.Runtime.MailboxOperations
import BlobRoyale.Runtime.MailboxAccounting
import BlobRoyale.Runtime.Superseding
import BlobRoyale.Runtime.TuningDelivery
import BlobRoyale.Runtime.CommandSink
import BlobRoyale.Runtime.CommandPath
import BlobRoyale.Runtime.CommandPathSafety
import BlobRoyale.Runtime.SessionClose
import BlobRoyale.Runtime.RuntimeLifecycle
import BlobRoyale.Server.SnapshotEgressBudget
import BlobRoyale.Server.EgressWaiters
import BlobRoyale.Server.EgressSystem
import BlobRoyale.Server.EgressSoundness
import BlobRoyale.Server.PeerTrafficPolicy
import BlobRoyale.Server.PeerSystem
import BlobRoyale.Server.PeerLeases
import BlobRoyale.Library.RefillLevel
import BlobRoyale.Server.PeerLedger
import BlobRoyale.Server.PeerLedgerCalls
import BlobRoyale.Server.PeerPruning
import BlobRoyale.Library.DecimalText
import BlobRoyale.Server.HostAuthority
import BlobRoyale.Library.DelimitedText
import BlobRoyale.Server.HostAuthoritySoundness
import BlobRoyale.Server.HostForms
import BlobRoyale.Server.ServerConfig
import BlobRoyale.Application.SeatBotReconciler
import BlobRoyale.Application.SeatBotFilling
import BlobRoyale.Application.SeatBotsFollowRoster
import BlobRoyale.Motion.SweptGeometry
import BlobRoyale.Motion.SweptBoundary
import BlobRoyale.Motion.PairCollision
import BlobRoyale.Motion.Solver
import BlobRoyale.Motion.SolverEvents
import BlobRoyale.Motion.MotionLoop
import BlobRoyale.Motion.Certificates
import BlobRoyale.Motion.SolverSoundness
import BlobRoyale.Motion.RebuildSoundness
import BlobRoyale.Motion.Selection
import BlobRoyale.Motion.LoopSoundness
import BlobRoyale.Motion.SolverStart
import BlobRoyale.Motion.Chronology
import BlobRoyale.Motion.ExactMotion
import BlobRoyale.Motion.ExactRoots
import BlobRoyale.Motion.ExactSweptCircle
import BlobRoyale.Motion.ExactSweptSides
import BlobRoyale.Motion.ExactSweptCapsule
import BlobRoyale.Library.NormalImpulse
import BlobRoyale.Motion.SolverMoves
import BlobRoyale.Motion.PathLedger
import BlobRoyale.Motion.TickPaths
import BlobRoyale.Motion.SweepCompleteness
import BlobRoyale.Motion.PairReach
import BlobRoyale.Motion.ReachInvariant
import BlobRoyale.Library.Agreement
import BlobRoyale.Motion.EveryPair
import BlobRoyale.Motion.TwinRebuild
import BlobRoyale.Motion.TwinLoops
import BlobRoyale.Motion.BroadPhaseRefinement
import BlobRoyale.Motion.NoContactLost
import BlobRoyale.Simulation.LeaveLast
import BlobRoyale.Simulation.RandomDraws
import BlobRoyale.Simulation.RecordedCommands
import BlobRoyale.Simulation.AbilityWindows
import BlobRoyale.Simulation.AbilityCancellation
import BlobRoyale.Library.DiscPassage
import BlobRoyale.Library.CumulativeChoice
import BlobRoyale.Gameplay.HazardSpawnSystem
import BlobRoyale.Gameplay.HazardPassage
import BlobRoyale.Gameplay.HazardSelection
import BlobRoyale.Library.KeyedFold
import BlobRoyale.Gameplay.ChargeContactSystem
import BlobRoyale.Gameplay.ChargeLanding
import BlobRoyale.Gameplay.GameplayValidation
import BlobRoyale.Gameplay.StatusSystem
import BlobRoyale.Gameplay.StatusSettling
import BlobRoyale.Gameplay.StunOutcome
import BlobRoyale.Gameplay.AbilitySystem
import BlobRoyale.Gameplay.AbilityOutcome
import BlobRoyale.Gameplay.AbilityPass
import BlobRoyale.Gameplay.AbilityIndependence
import BlobRoyale.Gameplay.GuardedPairMotion
import BlobRoyale.Gameplay.GuardedPairSymmetry
import BlobRoyale.Gameplay.GuardedPairSeparation
import BlobRoyale.Simulation.BroadPhaseSuperset
import BlobRoyale.Gameplay.RespawnSystem
import BlobRoyale.Library.MaximalRuns
import BlobRoyale.Gameplay.Locomotion
import BlobRoyale.Gameplay.PropulsionLimit
import BlobRoyale.Library.CompetitionRanking
import BlobRoyale.Gameplay.StandingsRecorder
import BlobRoyale.Gameplay.HillScoring
import BlobRoyale.Gameplay.HillStays
import BlobRoyale.Server.SnapshotDeliveryState
import BlobRoyale.Server.SnapshotDeliveries
import BlobRoyale.Library.ClosedMembers
import BlobRoyale.Protocol.JsonValue
import BlobRoyale.Protocol.CommandDecoding
import BlobRoyale.Server.SessionWebSocketSession
import BlobRoyale.Server.SessionProtocol
import BlobRoyale.Server.SessionProtocolSoundness
import BlobRoyale.Server.SessionProtocolMoves
import BlobRoyale.Server.SessionView
import BlobRoyale.Server.SessionRefinement
import BlobRoyale.Server.SessionSteps
import BlobRoyale.Server.SessionEgress
import BlobRoyale.Server.SessionQueueing
import BlobRoyale.Server.SessionWaits
import BlobRoyale.Server.SessionPresentation
import BlobRoyale.Server.SessionSystem
import BlobRoyale.Server.SessionRetries
import BlobRoyale.Server.HttpSession
import BlobRoyale.Server.HttpSessionSoundness
import BlobRoyale.Server.HttpSessionSteps
import BlobRoyale.Server.HttpSessionFinish
import BlobRoyale.Server.HttpPipelining
import BlobRoyale.Library.Occurrence
import BlobRoyale.Server.HttpHeaderPreflight
import BlobRoyale.Frontend.SimulationApi
import BlobRoyale.Frontend.TuningExchange
import BlobRoyale.Frontend.TuningSteps
import BlobRoyale.Frontend.TuningSettlement
import BlobRoyale.Library.JsonTexts
import BlobRoyale.Protocol.NegativeZeroScanner
import BlobRoyale.Protocol.NegativeZeroTokens
import BlobRoyale.Protocol.DecodedValues
import BlobRoyale.Protocol.CommandDecodingSoundness
import BlobRoyale.Protocol.WireAdmission
import BlobRoyale.Controllers.TacticalObjectives
import BlobRoyale.Controllers.PerceptionOrder
import BlobRoyale.Controllers.Controller
import BlobRoyale.Controllers.TacticalController
import BlobRoyale.Controllers.TacticalSteps
import BlobRoyale.Controllers.TacticalTiming
import BlobRoyale.Controllers.TacticalReplay
import BlobRoyale.Application.StrictIni
import BlobRoyale.Application.IniLines
import BlobRoyale.Application.IniTexts
import BlobRoyale.Application.IniBlocks
import BlobRoyale.Application.IniRoundTrip
import BlobRoyale.Application.IniReadBack
import BlobRoyale.Application.ApplicationConfigLoader
import BlobRoyale.Application.StrictIniReaders
import BlobRoyale.Gameplay.SteeringSystems
import BlobRoyale.Gameplay.RoyaleZone
import BlobRoyale.Gameplay.RoyaleMode
import BlobRoyale.Gameplay.RoyaleField
import BlobRoyale.Gameplay.RoyaleTick
import BlobRoyale.Gameplay.RoyaleLifecycle
import BlobRoyale.Gameplay.RoyaleStages
import BlobRoyale.Gameplay.RoyaleRun
import BlobRoyale.Gameplay.RoyaleLaws
import BlobRoyale.Gameplay.RoyaleRefusals
