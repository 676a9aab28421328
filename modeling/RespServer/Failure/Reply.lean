import RespServer.Failure.Basic

/-!
Contract: the reply to a failure.

Owns:
- which failures a client is told of, and with which error code;
- the word that marks a departed member.

Does not own: broken connections, which get no reply (`Session.fail`).
-/

namespace RespServer.Failure

def containsChars (part : List Char) : List Char → Bool
  | [] => part.isEmpty
  | char :: rest => part.isPrefixOf (char :: rest) || containsChars part rest

/-- The word that replies to the loss of a member contain. -/
def departedMark : String :=
  "memberDeparted"

/-- The reply to a failure of deferred work is the reply to what started it. Failures that are
not the client's concern get one common text. -/
def reply (failure : Failure) : Frame :=
  match failure.initial with
  | .invalidArgument message
  | .arithmetic message
  | .invalidState message
  | .parameterMismatch message => Frame.failure message
  | .wrongType message => Frame.wrongType message
  | .command _
  | .protocol _ =>
      Frame.failure "The command received by the server was improperly formatted"
  | .shuttingDown => Frame.failure Failure.shuttingDown.message
  | .memberDeparted message =>
      if containsChars departedMark.toList message.toList then Frame.failure message
      else Frame.failure (departedMark ++ ": " ++ message)
  | .execution _
  | .io _
  | .internal _ => Frame.failure "The server had an internal error please try again"

/-- Unwrapping a failure once more changes nothing. -/
@[simp] theorem initial_initial (failure : Failure) :
    failure.initial.initial = failure.initial := by
  induction failure with
  | execution cause inductionHypothesis => exact inductionHypothesis
  | _ => rfl

/-- Wrappers do not show in the reply. -/
@[simp] theorem reply_execution (cause : Failure) : (execution cause).reply = cause.reply :=
  rfl

end RespServer.Failure
