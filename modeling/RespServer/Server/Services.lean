import RespServer.Command.Request
import RespServer.PubSub
import RespServer.Statistics
import RespServer.Store.Basic

/-!
Contract: what all connections of a server share.

Owns:
- the type `Services` and the state of a server that has just started;
- the jobs of the worker pool, each with the command that it answers;
- why work may not come to a regular end.

Does not own: connections (`Connection`).
-/

namespace RespServer

/-- Why work did not come to a regular end. -/
inductive Abort where
  | deadlineOverflow
  | endlessSearch
  /-- A completion was reported for a command that was not the one in flight. -/
  | outOfTurn (id : CommandId) (head : String)
deriving DecidableEq, Repr

def Abort.message : Abort → String
  | .deadlineOverflow => "overflow when adding duration to instant"
  | .endlessSearch => "the search for matching texts does not end"
  | .outOfTurn id head =>
      "command " ++ Command.showId id ++ " completed while " ++ head
        ++ " was at the head of the queue"

/-- Deferred work and the command that waits for it. -/
structure Job where
  connection : Nat
  command : CommandId
  work : Work
deriving DecidableEq, Repr

structure Services where
  store : Store
  pubsub : PubSub
  allowUnsupported : Bool
  /-- The secret that clients must present, if any. -/
  password : Option Bytes
  /-- Whether the server has been asked to stop. -/
  stopping : Bool
  statistics : Statistics
  /-- The jobs that the worker pool has not begun, the oldest first. -/
  jobs : List Job

namespace Services

/-- The services of a server that has just started. -/
def start (password : Option Bytes) (allowUnsupported : Bool) : Services :=
  { store := Store.empty
    pubsub := PubSub.empty
    allowUnsupported := allowUnsupported
    password := password
    stopping := false
    statistics := Statistics.zero
    jobs := [] }

def submit (services : Services) (job : Job) : Services :=
  { services with jobs := services.jobs ++ [job] }

def startCommand (services : Services) (kind : CommandKind) : Services :=
  { services with statistics := services.statistics.startCommand kind }

def endCommand (services : Services) (kind : CommandKind) : Services :=
  { services with statistics := services.statistics.endCommand kind }

end Services

end RespServer
