import RespServer.Failure.Basic
import RespServer.Number.Binary64.Reading

/-!
Contract: reading a command's arguments one after the other.

Owns:
- the readers of one argument as octets, text, integer or finite number;
- the readers of all remaining arguments, and the check that none remains.

Does not own: which arguments a command takes (`Request.ofCommand`).

Too few and too many arguments are one failure, which names the command.
-/

namespace RespServer

/-- Reads a value from the front of the arguments and leaves the rest. -/
abbrev ArgumentReader := StateT (List Bytes) (Except Failure)

namespace ArgumentReader

/-- Reads the next argument as it stands. -/
def octets (name : String) : ArgumentReader Bytes := fun arguments =>
  match arguments with
  | [] => .error (.wrongNumberOfArguments name)
  | argument :: rest => .ok (argument, rest)

def text (name : String) : ArgumentReader String := do
  let argument ← octets name
  match Bytes.text? argument with
  | none => throw .notText
  | some text => return text

def integer (name : String) : ArgumentReader Int := do
  let argument ← octets name
  match IntegerType.int64.read? argument with
  | none => throw .notInteger
  | some number => return number

def float (name : String) : ArgumentReader Binary64 := do
  let argument ← octets name
  match (Binary64.read? argument).filter Binary64.isFinite with
  | none => throw .notFloat
  | some number => return number

def hasMore : ArgumentReader Bool := fun arguments =>
  .ok (!arguments.isEmpty, arguments)

/-- Reads all remaining arguments as they stand. -/
def remaining : ArgumentReader (List Bytes) := fun arguments =>
  .ok (arguments, [])

/-- The texts that octets spell, up to the first that spell none. -/
def textsOf : List Bytes → Except Failure (List String)
  | [] => .ok []
  | argument :: rest =>
      match Bytes.text? argument with
      | none => .error .notText
      | some text =>
          match textsOf rest with
          | .error failure => .error failure
          | .ok texts => .ok (text :: texts)

def texts : ArgumentReader (List String) := do
  textsOf (← remaining)

/-- Reads all remaining arguments as texts; there must be at least one. -/
def someTexts (name : String) : ArgumentReader (List String) := do
  let first ← text name
  return first :: (← texts)

def finish (name : String) : ArgumentReader Unit := do
  if ← hasMore then throw (.wrongNumberOfArguments name)

/-- What a reader makes of all arguments; it leaves none unread unless it accepts that. -/
def run (reader : ArgumentReader α) (arguments : List Bytes) : Except Failure α :=
  (StateT.run reader arguments).map Prod.fst

end ArgumentReader

end RespServer
