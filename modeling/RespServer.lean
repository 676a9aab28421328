import RespServer.Main
import RespServer.Server.Sequential
import RespServer.Server.Transport
import RespServer.Server.WorkerPool
import RespServer.Store.ExpiryTask
import RespServer.Store.Reference
import RespServer.Proofs.Delivery
import RespServer.Proofs.Run
import RespServer.Proofs.Ordering
import RespServer.Proofs.InFlight
import RespServer.Proofs.Pool
import RespServer.Proofs.Replay
import RespServer.Proofs.Mirror
import RespServer.Proofs.Refinement
import RespServer.Proofs.Steady
import RespServer.Proofs.Chunking
import RespServer.Proofs.LineEnds
import RespServer.Proofs.RoundTrip
import RespServer.Proofs.Authentication
import RespServer.Proofs.Refusals
import RespServer.Proofs.Answering
import RespServer.Proofs.Repetition
import RespServer.Proofs.Forgery
import RespServer.Proofs.EndlessSearch
import RespServer.Proofs.Atomicity
import RespServer.Proofs.Course
import RespServer.Proofs.BreakingOff
import RespServer.Proofs.Census
import RespServer.Proofs.Counting
import RespServer.Proofs.Balance
import RespServer.Proofs.Closing
import RespServer.Proofs.DeadlineIndex
import RespServer.Proofs.Expiration
import RespServer.Proofs.KeyArguments
import RespServer.Proofs.Discipline
import RespServer.Proofs.Stopping
import RespServer.Proofs.Openness
import RespServer.Proofs.ReadingLoop
import RespServer.Proofs.StreamEnd
import RespServer.Proofs.Settling
import RespServer.Proofs.Feeding
import RespServer.Proofs.Transmission
import RespServer.Proofs.Mailboxes
import RespServer.Proofs.Subscriptions
import RespServer.Proofs.WakeUp
import RespServer.Proofs.FrameLimit
import RespServer.Proofs.Reencoding
import RespServer.Proofs.Operations
import RespServer.Proofs.Hashes
import RespServer.Proofs.Derivation
import RespServer.Proofs.Counters
import RespServer.Proofs.Classification
import RespServer.Proofs.Tracking
import RespServer.Proofs.SearchBound
import RespServer.Proofs.KeyListing
import RespServer.Proofs.Storing
import RespServer.Proofs.Arity
