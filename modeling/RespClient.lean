import RespClient.Main
import RespClient.Reply.Typed
import RespClient.Scripted
import RespClient.Wire.Grammar
import RespClient.Proofs.ReplyGrammar
import RespClient.Proofs.CommandFrames
import RespClient.Proofs.SessionRun
import RespClient.Proofs.SessionAlignment
import RespClient.Proofs.ConnectionLaws
import RespClient.Proofs.PoolRun
import RespClient.Proofs.PoolHealth
import RespClient.Proofs.PipeliningLaws
import RespClient.Proofs.ExchangeOutcome
import RespClient.Proofs.WorkerRun
import RespClient.Proofs.ConnectionViews
import RespClient.Proofs.NumberedConnections
import RespClient.Proofs.WorkerConnections
import RespClient.Proofs.RecordedConnections
import RespClient.Proofs.WorkerDelivery
import RespClient.Proofs.PipelineRefinement
import RespClient.Proofs.PoolCustody
import RespClient.Proofs.PoolViews
import RespClient.Proofs.NumberedPools
import RespClient.Proofs.QueueConservation
import RespClient.Proofs.NumberedQueues
import RespClient.Proofs.QueueConnections
import RespClient.Proofs.QueueDelivery
import RespClient.Proofs.QueueSchedules
import RespClient.Proofs.ReplyStreams
import RespClient.Proofs.PoolCapacity
import RespClient.Proofs.EnrolledConnections
import RespClient.Proofs.PoolRotation
import RespClient.Tcp.Mishaps
import RespClient.Proofs.ReplyErrors
import RespClient.Proofs.ServedSessions
import RespClient.Proofs.SessionMishaps
import RespClient.Proofs.ErrorClasses
import RespClient.Proofs.WorkerBatching
import RespClient.Proofs.WorkerShifts
import RespClient.Proofs.PoolOpening
import RespClient.Proofs.SessionTraffic
import RespClient.Proofs.WatchedSessions
import RespClient.Proofs.SingleCommands
import RespClient.Proofs.QueueEndings
import RespClient.Proofs.EngagedSessions
import RespClient.Proofs.Loads
import RespClient.Proofs.ReplyProgress
import RespClient.Proofs.PoolExchange
import RespClient.Proofs.QueueRefusals
import RespClient.Proofs.QueueOpening
import RespClient.Proofs.IntegerGrammar
import RespClient.Proofs.BitmapDecoding
import RespClient.Proofs.TypedLists
import RespClient.Proofs.RequestFrames
import RespClient.Proofs.LimitedWriters
import RespClient.Proofs.StockFilling
import RespClient.Proofs.StockRuns
import RespClient.Proofs.RotationCursors
