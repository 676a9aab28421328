import RespServer.Number.Integer
import RespServer.Text.Lossy

/-!
Contract: the values that requests and replies are made of.

Owns:
- the type `Frame` and the replies that have a fixed shape;
- the one-line display of a frame.

Does not own: the wire form (`Frame.encode`, `Frame.decode?`).
-/

namespace RespServer

inductive Frame where
  /-- One line of text. -/
  | simple (text : String)
  /-- One line of text that reports a failure; it begins with an error code. -/
  | error (text : String)
  | integer (value : Int64)
  /-- Any octets, sent with their count. -/
  | bulk (data : Bytes)
  | null
  | array (elements : List Frame)
deriving Repr, Inhabited

namespace Frame

mutual

/-- Equality of frames is decided by structure. -/
def decEq : (left right : Frame) → Decidable (left = right)
  | .simple left, .simple right
  | .error left, .error right
  | .integer left, .integer right
  | .bulk left, .bulk right =>
      if same : left = right then isTrue (same ▸ rfl)
      else isFalse fun equal => by cases equal; exact same rfl
  | .null, .null => isTrue rfl
  | .array left, .array right =>
      match decEqEach left right with
      | isTrue same => isTrue (same ▸ rfl)
      | isFalse different => isFalse fun equal => by cases equal; exact different rfl
  | .simple _, .error _ | .simple _, .integer _ | .simple _, .bulk _ | .simple _, .null
  | .simple _, .array _ | .error _, .simple _ | .error _, .integer _ | .error _, .bulk _
  | .error _, .null | .error _, .array _ | .integer _, .simple _ | .integer _, .error _
  | .integer _, .bulk _ | .integer _, .null | .integer _, .array _ | .bulk _, .simple _
  | .bulk _, .error _ | .bulk _, .integer _ | .bulk _, .null | .bulk _, .array _
  | .null, .simple _ | .null, .error _ | .null, .integer _ | .null, .bulk _ | .null, .array _
  | .array _, .simple _ | .array _, .error _ | .array _, .integer _ | .array _, .bulk _
  | .array _, .null => isFalse fun equal => by cases equal

/-- Equality of lists of frames is decided element by element. -/
def decEqEach : (left right : List Frame) → Decidable (left = right)
  | [], [] => isTrue rfl
  | [], _ :: _ | _ :: _, [] => isFalse fun equal => by cases equal
  | left :: leftRest, right :: rightRest =>
      match decEq left right, decEqEach leftRest rightRest with
      | isTrue sameHead, isTrue sameRest => isTrue (sameHead ▸ sameRest ▸ rfl)
      | isFalse different, _ => isFalse fun equal => by cases equal; exact different rfl
      | _, isFalse different => isFalse fun equal => by cases equal; exact different rfl

end

instance : DecidableEq Frame :=
  decEq

/-- The reply of a request that succeeded and has nothing to tell. -/
def ok : Frame :=
  .simple "OK"

/-- A failure without a code of its own. -/
def failure (message : String) : Frame :=
  .error ("ERR " ++ message)

/-- A failure because the value has another shape. -/
def wrongType (message : String) : Frame :=
  .error ("WRONGTYPE " ++ message)

def bulkText (text : String) : Frame :=
  .bulk (Bytes.ofText text)

def count (value : Nat) : Frame :=
  .integer (Int64.ofNat value)

def isError : Frame → Bool
  | .error _ => true
  | _ => false

mutual

/-- The display of a frame: its type mark and its contents, elements separated by blanks. -/
def display : Frame → String
  | .simple text => "+" ++ text
  | .error text => "-" ++ text
  | .integer value => ":" ++ toString value.toInt
  | .bulk data => "$" ++ Bytes.lossyText data
  | .null => "$-1"
  | .array elements => "*" ++ toString elements.length ++ displayEach elements

/-- The displays of the elements, each after a blank. -/
def displayEach : List Frame → String
  | [] => ""
  | element :: rest => " " ++ element.display ++ displayEach rest

end

end Frame

end RespServer
