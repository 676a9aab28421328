import RespServer.Frame.Basic

/-!
Contract: the wire form of a frame.

Owns:
- the line end and the type marks that are written;
- `Frame.encode` and the concatenation `Frame.encodeEach`.

Does not own: reading (`Frame.decode?`), which accepts more marks than are written.
-/

namespace RespServer

/-- The two octets that end a line. -/
def crlf : Bytes :=
  [13, 10]

namespace Frame

/-- A line: a mark, its contents and the line end. -/
def line (mark : UInt8) (contents : Bytes) : Bytes :=
  mark :: contents ++ crlf

mutual

/-- The wire form. Texts are written as they stand up to the line end; octets are preceded by
their count; the null value is a count of minus one. -/
def encode : Frame → Bytes
  | .simple text => line 43 (Bytes.ofText text)
  | .error text => line 45 (Bytes.ofText text)
  | .integer value => line 58 (Decimal.text value.toInt)
  | .bulk data => line 36 (Decimal.digits data.length) ++ data ++ crlf
  | .null => line 36 (Decimal.text (-1))
  | .array elements => line 42 (Decimal.digits elements.length) ++ encodeEach elements

/-- The wire forms of several frames, one after the other. -/
def encodeEach : List Frame → Bytes
  | [] => []
  | element :: rest => element.encode ++ encodeEach rest

end

theorem encodeEach_append (first second : List Frame) :
    encodeEach (first ++ second) = encodeEach first ++ encodeEach second := by
  induction first with
  | nil => rfl
  | cons element rest inductionHypothesis =>
      simp [encodeEach, inductionHypothesis]

end Frame

end RespServer
