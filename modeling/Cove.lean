import Cove.Protocol.BodySegments
import Cove.Business.EventStream
import Cove.Worker.RunFlow
import Cove.Worker.RecoveryCredit
import Cove.Worker.PipeReserve
import Cove.Runtime.RetainedBytes
import Cove.Client.Control
import Cove.Runtime.ProgramCascade
import Cove.Runtime.ControlOwner
import Cove.Worker.PtySettlement
import Cove.Runtime.RefusedSpawn
import Cove.Operations.LaunchOrder
import Cove.Operations.ClosureLinks
import Cove.Client.BridgeBytes
import Cove.Auth.RevokedWork
import Cove.Domain.TaskPages
import Cove.Store.Retention
import Cove.Store.StepLedger
import Cove.Engine.Baseline
import Cove.Auth.Invitations
import Cove.Auth.Rotation
import Cove.Worker.ChunkBudget
import Cove.Runtime.WorkerHealth
import Cove.Domain.Materialization
import Cove.Business.Snapshots
import Cove.Auth.Verdicts
import Cove.Transport.HttpOwner
