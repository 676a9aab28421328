import RespServer.Command.Kind
import RespServer.Failure.Basic

/-!
Contract: one request of a client.

Owns:
- the type `Command`: a name and its arguments as octets, and the number it got on arrival;
- the command that a frame holds;
- the display of a command.

Does not own: what the arguments mean (`Request.ofCommand`).
-/

namespace RespServer

/-- The number of a command among the arrivals of its connection. -/
abbrev CommandId := UInt64

/-- One request. -/
structure Command where
  /-- Zero until the command arrives. -/
  id : CommandId
  kind : CommandKind
  /-- The name as the client sent it. -/
  name : String
  arguments : List Bytes
  /-- Whether the command was taken up and its time is running. -/
  started : Bool
deriving DecidableEq, Repr, Inhabited

namespace Command

def showId (id : CommandId) : String :=
  "#" ++ toString id.toNat

def new (name : String) (arguments : List Bytes) : Command :=
  ⟨0, CommandKind.ofName name, name, arguments, false⟩

/-- How many arguments are displayed. -/
def displayLimit : Nat :=
  8

/-- The display of a command: its number, its name and its first arguments. -/
def display (command : Command) : String :=
  let shown := (command.arguments.take displayLimit).map fun argument =>
    " " ++ Bytes.lossyText argument
  let hidden := command.arguments.length - displayLimit
  showId command.id ++ " " ++ command.name ++ String.join shown
    ++ (if 0 < hidden then " ... (" ++ toString hidden ++ " more)" else "")

def nameOf? : Frame → Except CommandError String
  | .simple text => .ok text
  | .bulk data =>
      match Bytes.text? data with
      | none => .error .nameNotText
      | some text => .ok text
  | frame => .error (.unexpectedFrame "simple or bulk string" frame)

def argumentOf? : Frame → Except CommandError Bytes
  | .simple text => .ok (Bytes.ofText text)
  | .bulk data => .ok data
  | .integer value => .ok (Decimal.text value.toInt)
  | frame => .error (.unexpectedFrame "simple or bulk string" frame)

/-- The arguments that frames hold, up to the first that holds none. -/
def argumentsOf? : List Frame → Except CommandError (List Bytes)
  | [] => .ok []
  | frame :: rest =>
      match argumentOf? frame with
      | .error failure => .error failure
      | .ok argument =>
          match argumentsOf? rest with
          | .error failure => .error failure
          | .ok arguments => .ok (argument :: arguments)

/-- The command that a frame holds: an array of its name and its arguments. -/
def ofFrame? : Frame → Except CommandError Command
  | .array [] => .error .empty
  | .array (first :: rest) =>
      match nameOf? first with
      | .error failure => .error failure
      | .ok name =>
          match argumentsOf? rest with
          | .error failure => .error failure
          | .ok arguments => .ok (new name arguments)
  | frame => .error (.unexpectedFrame "array" frame)

/-- The frame that a client sends for a name and arguments. -/
def requestFrame (name : String) (arguments : List Bytes) : Frame :=
  .array (.bulk (Bytes.ofText name) :: arguments.map .bulk)

theorem argumentsOf?_bulk (arguments : List Bytes) :
    argumentsOf? (arguments.map .bulk) = .ok arguments := by
  induction arguments with
  | nil => rfl
  | cons argument rest inductionHypothesis =>
      simp [argumentsOf?, argumentOf?, inductionHypothesis]

/-- The frame that a client sends holds the command it stands for. -/
theorem ofFrame?_requestFrame (name : String) (arguments : List Bytes) :
    ofFrame? (requestFrame name arguments) = .ok (new name arguments) := by
  simp [ofFrame?, requestFrame, nameOf?, argumentsOf?_bulk]

end Command

end RespServer
