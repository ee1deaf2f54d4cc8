import MassTdl.Arbiter.ClampedBox
import MassTdl.Arbiter.CloserTarget
import MassTdl.Arbiter.NearestLeg
import MassTdl.Arbiter.PrimaryChoice
import MassTdl.Arbiter.PublishedBox
import MassTdl.Arbiter.RecoveryLifecycle
import MassTdl.Arbiter.ScenarioReset
import MassTdl.AuditDigest
import MassTdl.BcMpc.Episodes
import MassTdl.Colregs.Coherence
import MassTdl.Colregs.EncounterRuns
import MassTdl.Colregs.Exclusivity
import MassTdl.Colregs.Graduation
import MassTdl.Colregs.HighestState
import MassTdl.Colregs.LatchRuns
import MassTdl.Colregs.PrimarySectors
import MassTdl.Colregs.Reset
import MassTdl.CommittedRoute.Escalates
import MassTdl.CommittedRoute.Frozen
import MassTdl.CommittedRoute.Handover
import MassTdl.CommittedRoute.Reproject
import MassTdl.EvidenceLibrary.CrashRecovery
import MassTdl.EvidenceLibrary.IngestRace
import MassTdl.EvidenceLibrary.RescanManager
import MassTdl.EvidenceLibrary.SessionPages
import MassTdl.Hmi.SharedRisk
import MassTdl.Hmi.TorProtocol
import MassTdl.MidMpc.GraphCache
import MassTdl.MidMpc.Reset
import MassTdl.Mission.Acceptance
import MassTdl.Mission.Cursor
import MassTdl.Mission.Debounce
import MassTdl.Mission.Escalation
import MassTdl.Mission.EtaBounds
import MassTdl.Mission.ExclusionZones
import MassTdl.Mission.Granted
import MassTdl.Odd.MeanSpacing
import MassTdl.Odd.OrderedScores
import MassTdl.Odd.Oscillation
import MassTdl.Odd.StaleStreak
import MassTdl.SilOrchestrator.AutoStop
import MassTdl.SilOrchestrator.ScenarioFrame
import MassTdl.SilOrchestrator.StopAnswers
import MassTdl.Supervisor.ConstraintAlerts
import MassTdl.Supervisor.CpaTrend
import MassTdl.Supervisor.CriticalMask
import MassTdl.Supervisor.Ledgers
import MassTdl.Supervisor.Resumption
import MassTdl.Supervisor.StuckAlarm
import MassTdl.Supervisor.SustainedLow
import MassTdl.TacticalPlanner.AssembledRoutes
import MassTdl.TacticalPlanner.Envelope
import MassTdl.TacticalPlanner.GatePromises
import MassTdl.TacticalPlanner.RouteCoordinates
import MassTdl.TacticalPlanner.SweptMinimum
import MassTdl.TacticalPlanner.Waypoints
import MassTdl.TacticalPlanner.ZonePieces
import MassTdl.TargetVessel.KeptEncounters
import MassTdl.WorldModel.BoundedBuffer
import MassTdl.WorldModel.HealthEscalation
import MassTdl.WorldModel.Roles
import MassTdl.WorldModel.SeaCurrent
import MassTdl.WorldModel.TargetOrder
import MassTdl.WorldModel.Views
