import RespServer.Frame.Encoding
import RespServer.Text.CharLiteral

/-!
Contract: reading a frame from the front of an octet string.

Owns:
- the failures of reading and their wording;
- lines, counts and counted octets;
- `Frame.decode?`, which returns the frame and the unread rest.

Does not own: a stream that grows (`Frame.Stream`).

A reading that needs more octets is told apart from one that no further octet can mend.
-/

namespace RespServer

/-- Why no frame was read. -/
inductive DecodingError where
  | incomplete
  /-- The first octet marks no type. -/
  | unknownType (mark : UInt8)
  /-- The first octet marks a type that is not read. -/
  | unsupportedType (mark : UInt8)
  /-- The octets break the form that their mark promises. -/
  | malformed (message : String)
deriving DecidableEq, Repr, Inhabited

namespace DecodingError

def message : DecodingError → String
  | .incomplete => "not enough data is available to parse an entire frame"
  | .unknownType mark => "invalid frame data type: " ++ toString mark.toNat
  | .unsupportedType mark => "unsupported frame data type: " ++ Text.charLiteral mark
  | .malformed message => message

def notText : DecodingError :=
  .malformed "protocol error; invalid frame format"

def notInteger : DecodingError :=
  .malformed "protocol error; invalid integer"

/-- A line that should be a count is no number. -/
def notCount : DecodingError :=
  .malformed "protocol error; invalid length"

/-- A count is negative and does not stand for the null value. -/
def negativeCount (count : Int) : DecodingError :=
  .malformed ("protocol error; invalid length " ++ toString count)

/-- Counted octets are not followed by a line end. -/
def unterminated : DecodingError :=
  .malformed "protocol error; bulk data not terminated by CRLF"

end DecodingError

namespace Frame

/-! ## Type marks -/

inductive Mark where
  | simple
  | error
  | integer
  | bulk
  | bulkError
  | null
  | array
deriving DecidableEq, Repr

def Mark.ofOctet? (octet : UInt8) : Except DecodingError Mark :=
  match octet with
  | 43 => .ok .simple
  | 45 => .ok .error
  | 58 => .ok .integer
  | 36 => .ok .bulk
  | 33 => .ok .bulkError
  | 95 => .ok .null
  | 42 => .ok .array
  | _ =>
      -- boolean, double, big number, verbatim text, map, set and push
      if octet ∈ [35, 44, 40, 61, 37, 126, 62] then .error (.unsupportedType octet)
      else .error (.unknownType octet)

/-! ## Lines, counts and counted octets -/

/-- The octets before the first line end, and those after it. -/
def takeLine? : Bytes → Option (Bytes × Bytes)
  | [] => none
  | 13 :: 10 :: rest => some ([], rest)
  | octet :: rest => (takeLine? rest).map fun (contents, unread) => (octet :: contents, unread)

/-- A line and what follows it make up the input. -/
theorem takeLine?_append {input contents unread : Bytes}
    (taken : takeLine? input = some (contents, unread)) :
    contents ++ crlf ++ unread = input := by
  induction input using takeLine?.induct generalizing contents unread with
  | case1 => simp [takeLine?] at taken
  | case2 rest =>
      simp only [takeLine?, Option.some.injEq, Prod.mk.injEq] at taken
      obtain ⟨rfl, rfl⟩ := taken
      rfl
  | case3 octet rest notLineEnd inductionHypothesis =>
      rw [takeLine?.eq_3 octet rest notLineEnd] at taken
      simp only [Option.map_eq_some_iff, Prod.mk.injEq] at taken
      obtain ⟨⟨restContents, restUnread⟩, restTaken, rfl, rfl⟩ := taken
      simp [← inductionHypothesis restTaken]

/-- Reads a count; minus one stands for the null value. -/
def takeCount (input : Bytes) : Except DecodingError (Option Nat × Bytes) :=
  match takeLine? input with
  | none => .error .incomplete
  | some (contents, unread) =>
      match IntegerType.int64.read? contents with
      | none => .error .notCount
      | some count =>
          if count = -1 then .ok (none, unread)
          else if count < 0 then .error (.negativeCount count)
          else .ok (some count.toNat, unread)

/-- Reads as many octets as counted, and the line end behind them. -/
def takeExactly (count : Nat) (input : Bytes) : Except DecodingError (Bytes × Bytes) :=
  match input.drop count with
  | 13 :: 10 :: unread => .ok (input.take count, unread)
  | _ :: _ :: _ => .error .unterminated
  | _ => .error .incomplete

def takeText (input : Bytes) : Except DecodingError (String × Bytes) :=
  match takeLine? input with
  | none => .error .incomplete
  | some (contents, unread) =>
      match Bytes.text? contents with
      | none => .error .notText
      | some text => .ok (text, unread)

/-- Reads a line that holds a number. -/
def takeInteger (input : Bytes) : Except DecodingError (Int64 × Bytes) :=
  match takeLine? input with
  | none => .error .incomplete
  | some (contents, unread) =>
      if (Bytes.text? contents).isNone then .error .notText
      else match IntegerType.int64.read? contents with
        | none => .error .notInteger
        | some number => .ok (Int64.ofInt number, unread)

/-- Reads counted octets; a count of minus one is the null value. -/
def takeCounted (input : Bytes) : Except DecodingError (Option Bytes × Bytes) :=
  match takeCount input with
  | .error failure => .error failure
  | .ok (none, unread) => .ok (none, unread)
  | .ok (some count, unread) =>
      match takeExactly count unread with
      | .error failure => .error failure
      | .ok (data, unread) => .ok (some data, unread)

/-! ### What is read is gone -/

theorem length_of_takeLine? {input contents unread : Bytes}
    (taken : takeLine? input = some (contents, unread)) :
    unread.length + contents.length + 2 = input.length := by
  have whole := congrArg List.length (takeLine?_append taken)
  simp only [List.length_append, crlf, List.length_cons, List.length_nil] at whole
  omega

theorem length_of_takeCount {input unread : Bytes} {count : Option Nat}
    (taken : takeCount input = .ok (count, unread)) : unread.length < input.length := by
  unfold takeCount at taken
  split at taken
  · cases taken
  · rename_i contents rest lineTaken
    have shorter := length_of_takeLine? lineTaken
    repeat' split at taken
    all_goals cases taken
    all_goals omega

theorem length_of_takeExactly {count : Nat} {input data unread : Bytes}
    (taken : takeExactly count input = .ok (data, unread)) : unread.length < input.length := by
  unfold takeExactly at taken
  split at taken
  · rename_i behind
    have remaining := congrArg List.length behind
    simp only [List.length_drop, List.length_cons] at remaining
    cases taken
    omega
  · cases taken
  · cases taken

theorem length_of_takeText {input unread : Bytes} {text : String}
    (taken : takeText input = .ok (text, unread)) : unread.length < input.length := by
  unfold takeText at taken
  split at taken
  · cases taken
  · rename_i contents rest lineTaken
    have shorter := length_of_takeLine? lineTaken
    split at taken
    all_goals cases taken
    omega

theorem length_of_takeInteger {input unread : Bytes} {number : Int64}
    (taken : takeInteger input = .ok (number, unread)) : unread.length < input.length := by
  unfold takeInteger at taken
  split at taken
  · cases taken
  · rename_i contents rest lineTaken
    have shorter := length_of_takeLine? lineTaken
    repeat' split at taken
    all_goals cases taken
    omega

theorem length_of_takeCounted {input unread : Bytes} {data : Option Bytes}
    (taken : takeCounted input = .ok (data, unread)) : unread.length < input.length := by
  unfold takeCounted at taken
  split at taken
  · cases taken
  · rename_i countTaken
    cases taken
    exact length_of_takeCount countTaken
  · rename_i countTaken
    have shorter := length_of_takeCount countTaken
    split at taken
    · cases taken
    · rename_i dataTaken
      cases taken
      exact Nat.lt_trans (length_of_takeExactly dataTaken) shorter

/-! ## Frames -/

/-- Reads the contents of a frame that holds no other frame. -/
def takeScalar (mark : Mark) (input : Bytes) : Except DecodingError (Frame × Bytes) :=
  match mark with
  | .simple =>
      match takeText input with
      | .error failure => .error failure
      | .ok (text, unread) => .ok (.simple text, unread)
  | .error =>
      match takeText input with
      | .error failure => .error failure
      | .ok (text, unread) => .ok (.error text, unread)
  | .integer =>
      match takeInteger input with
      | .error failure => .error failure
      | .ok (number, unread) => .ok (.integer number, unread)
  | .bulk =>
      match takeCounted input with
      | .error failure => .error failure
      | .ok (none, unread) => .ok (.null, unread)
      | .ok (some data, unread) => .ok (.bulk data, unread)
  | .bulkError =>
      match takeCounted input with
      | .error failure => .error failure
      | .ok (none, unread) => .ok (.null, unread)
      | .ok (some data, unread) =>
          match Bytes.text? data with
          | none => .error .notText
          | some text => .ok (.error text, unread)
  | .null | .array =>
      match takeLine? input with
      | none => .error .incomplete
      | some (_, unread) => .ok (.null, unread)

theorem length_of_takeScalar {mark : Mark} {input unread : Bytes} {frame : Frame}
    (taken : takeScalar mark input = .ok (frame, unread)) : unread.length < input.length := by
  cases mark with
  | simple | error =>
      simp only [takeScalar] at taken
      split at taken
      · cases taken
      · rename_i textTaken
        cases taken
        exact length_of_takeText textTaken
  | integer =>
      simp only [takeScalar] at taken
      split at taken
      · cases taken
      · rename_i integerTaken
        cases taken
        exact length_of_takeInteger integerTaken
  | bulk =>
      simp only [takeScalar] at taken
      split at taken
      · cases taken
      all_goals
        rename_i dataTaken
        cases taken
        exact length_of_takeCounted dataTaken
  | bulkError =>
      simp only [takeScalar] at taken
      split at taken
      · cases taken
      · rename_i dataTaken
        cases taken
        exact length_of_takeCounted dataTaken
      · rename_i dataTaken
        split at taken
        · cases taken
        · cases taken
          exact length_of_takeCounted dataTaken
  | null | array =>
      simp only [takeScalar] at taken
      split at taken
      · cases taken
      · rename_i lineTaken
        have shorter := length_of_takeLine? lineTaken
        cases taken
        omega

/-- The unread rest of an input of which something was read. -/
abbrev Unread (input : Bytes) :=
  { rest : Bytes // rest.length < input.length }

mutual

/-- Reads a frame; the unread rest is shorter than the input. -/
def take (input : Bytes) : Except DecodingError (Frame × Unread input) :=
  match input with
  | [] => .error .incomplete
  | octet :: body =>
      match Mark.ofOctet? octet with
      | .error failure => .error failure
      | .ok .array =>
          match countTaken : takeCount body with
          | .error failure => .error failure
          | .ok (none, unread) =>
              .ok (.null, ⟨unread, by
                have shorter := length_of_takeCount countTaken
                simp only [List.length_cons]
                omega⟩)
          | .ok (some count, unread) =>
              have shorter := length_of_takeCount countTaken
              match takeEach count unread with
              | .error failure => .error failure
              | .ok (elements, ⟨rest, notLonger⟩) =>
                  .ok (.array elements, ⟨rest, by
                    simp only [List.length_cons]
                    omega⟩)
      | .ok mark =>
          match scalarTaken : takeScalar mark body with
          | .error failure => .error failure
          | .ok (frame, unread) =>
              .ok (frame, ⟨unread, by
                have shorter := length_of_takeScalar scalarTaken
                simp only [List.length_cons]
                omega⟩)
termination_by 2 * input.length
decreasing_by simp only [List.length_cons]; omega

def takeEach (count : Nat) (input : Bytes) :
    Except DecodingError (List Frame × { rest : Bytes // rest.length ≤ input.length }) :=
  match count with
  | 0 => .ok ([], ⟨input, Nat.le_refl _⟩)
  | count + 1 =>
      match take input with
      | .error failure => .error failure
      | .ok (element, ⟨unread, shorter⟩) =>
          match takeEach count unread with
          | .error failure => .error failure
          | .ok (elements, ⟨rest, notLonger⟩) =>
              .ok (element :: elements, ⟨rest, by omega⟩)
termination_by 2 * input.length + 1
decreasing_by all_goals omega

end

/-- Reads a frame from the front of the input; returns it with the unread rest. -/
def decode? (input : Bytes) : Except DecodingError (Frame × Bytes) :=
  match take input with
  | .error failure => .error failure
  | .ok (frame, unread) => .ok (frame, unread.val)

/-- A reading takes at least one octet. -/
theorem length_of_decode? {input unread : Bytes} {frame : Frame}
    (decoded : decode? input = .ok (frame, unread)) : unread.length < input.length := by
  unfold decode? at decoded
  split at decoded
  · cases decoded
  · rename_i rest taken
    cases decoded
    exact rest.property

end Frame

end RespServer
