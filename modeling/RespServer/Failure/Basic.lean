import RespServer.Frame.Decoding
import RespServer.Text.CaseMapping

/-!
Contract: everything that can go wrong with a request.

Owns:
- the kinds of failure, of a command's shape and of its execution;
- the wording of each failure;
- the failures that several commands share.

Does not own: the replies to failures (`Failure.reply`).
-/

namespace RespServer

/-- Why a frame is no command. -/
inductive CommandError where
  /-- A frame of another type stands where `expected` should. -/
  | unexpectedFrame (expected : String) (actual : Frame)
  | nameNotText
  | empty
deriving DecidableEq

def CommandError.message : CommandError → String
  | .unexpectedFrame expected actual =>
      "invalid frame, expected " ++ expected ++ ", got " ++ actual.display
  | .nameNotText => "invalid UTF-8 string"
  | .empty => "empty command"

/-- A failure of a request or of its connection, by the reply that it calls for. -/
inductive Failure where
  /-- An argument cannot be read. -/
  | invalidArgument (message : String)
  | arithmetic (message : String)
  /-- The value has another shape. -/
  | wrongType (message : String)
  | command (cause : CommandError)
  | shuttingDown
  | invalidState (message : String)
  /-- The arguments do not fit the command. -/
  | parameterMismatch (message : String)
  /-- The member that owned the work is gone. -/
  | memberDeparted (message : String)
  | execution (cause : Failure)
  | io (message : String)
  /-- No frame was read. -/
  | protocol (cause : DecodingError)
  | internal (message : String)
deriving DecidableEq

namespace Failure

def message : Failure → String
  | .invalidArgument message
  | .arithmetic message
  | .wrongType message
  | .invalidState message
  | .parameterMismatch message
  | .memberDeparted message
  | .internal message => message
  | .command cause => "protocol error; " ++ cause.message
  | .protocol cause => "protocol error; " ++ cause.message
  | .shuttingDown => "The server is shutting down"
  | .execution cause => "backend execution failed: " ++ cause.message
  | .io message => "io error: " ++ message

/-- The failure that started a chain of failures of deferred work. -/
def initial : Failure → Failure
  | .execution cause => cause.initial
  | cause => cause

/-- Whether the failure itself, unwrapped, is that of a broken connection. -/
def isIo : Failure → Bool
  | .io _ => true
  | _ => false

/-! ## Failures that commands share -/

/-- The command has too few or too many arguments. -/
def wrongNumberOfArguments (name : String) : Failure :=
  .parameterMismatch
    ("wrong number of arguments for '" ++ Text.lowercase name ++ "' command")

/-- An argument or a value is no 64-bit integer. -/
def notInteger : Failure :=
  .invalidArgument "value is not an integer or out of range"

/-- An argument or a value is no finite number. -/
def notFloat : Failure :=
  .invalidArgument "value is not a valid float"

def notText : Failure :=
  .invalidArgument "invalid UTF-8 string"

/-- The key holds a value of another shape. -/
def otherShape : Failure :=
  .wrongType "Operation against a key holding the wrong kind of value"

def overflow : Failure :=
  .arithmetic "increment or decrement would overflow"

/-- An option is unknown, or given twice. -/
def badOption : Failure :=
  .parameterMismatch "syntax error"

end Failure

end RespServer
