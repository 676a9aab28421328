import RespServer.Bytes

/-!
Contract: a reading of any octets as text, for display.

Owns:
- the replacement of every maximal malformed part of a UTF-8 sequence by one U+FFFD.

Does not own: strict reading (`Bytes.text?`).
-/

namespace RespServer.Text.Lossy

/-- A multi-octet character that is being read. -/
structure Partial where
  code : Nat
  /-- How many octets are missing; at least one. -/
  missing : Nat
  /-- The least octet that may come next. -/
  low : UInt8
  /-- The greatest octet that may come next. -/
  high : UInt8

/-- The mark that stands for a malformed part. -/
def replacement : Char := '\uFFFD'

/-- Reads the first octet of a character. The bounds on the second octet exclude overlong forms,
surrogates and code points above U+10FFFF. -/
def start (octet : UInt8) : List Char × Option Partial :=
  if octet < 0x80 then ([Char.ofNat octet.toNat], none)
  else if octet < 0xC2 then ([replacement], none)
  else if octet < 0xE0 then ([], some ⟨octet.toNat - 0xC0, 1, 0x80, 0xBF⟩)
  else if octet < 0xF0 then
    ([], some ⟨octet.toNat - 0xE0, 2, if octet = 0xE0 then 0xA0 else 0x80,
      if octet = 0xED then 0x9F else 0xBF⟩)
  else if octet < 0xF5 then
    ([], some ⟨octet.toNat - 0xF0, 3, if octet = 0xF0 then 0x90 else 0x80,
      if octet = 0xF4 then 0x8F else 0xBF⟩)
  else ([replacement], none)

/-- Reads one octet. An octet that cannot continue the character begun before it ends that
character with the mark and is read as a first octet itself. -/
def step : Option Partial → UInt8 → List Char × Option Partial
  | none, octet => start octet
  | some begun, octet =>
      if begun.low ≤ octet ∧ octet ≤ begun.high then
        let code := begun.code * 64 + (octet.toNat - 0x80)
        if begun.missing ≤ 1 then ([Char.ofNat code], none)
        else ([], some ⟨code, begun.missing - 1, 0x80, 0xBF⟩)
      else
        let (chars, next) := start octet
        (replacement :: chars, next)

/-- The characters of the octets, after those of the character begun before them. -/
def read : Option Partial → Bytes → List Char
  | none, [] => []
  | some _, [] => [replacement]
  | begun, octet :: rest =>
      let (chars, next) := step begun octet
      chars ++ read next rest

end RespServer.Text.Lossy

namespace RespServer

/-- The text of the octets, each maximal malformed part replaced by U+FFFD. -/
def Bytes.lossyText (bytes : Bytes) : String :=
  String.ofList (Text.Lossy.read none bytes)

end RespServer
