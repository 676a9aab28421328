/-!
Contract: a character in quotes, as error texts show it.

Owns:
- the escapes of the characters with codes below 256.

Does not own: characters beyond; error texts show single octets only.
-/

namespace RespServer.Text

/-- The hexadecimal digits of a code, in lower case. -/
def hexadecimal (code : Nat) : String :=
  String.ofList (Nat.toDigits 16 code)

/-- The literal of the character with the code of an octet. The quote, the backslash and the
common controls have escapes of their own; every other octet that shows nothing (the controls,
the no-break space and the soft hyphen) is shown by its code. -/
def charLiteral (octet : UInt8) : String :=
  let code := octet.toNat
  let shown : String :=
    if code = 0 then "\\0"
    else if code = 9 then "\\t"
    else if code = 10 then "\\n"
    else if code = 13 then "\\r"
    else if code = 39 then "\\'"
    else if code = 92 then "\\\\"
    else if code < 32 ∨ (127 ≤ code ∧ code ≤ 160) ∨ code = 173 then
      "\\u\x7b" ++ hexadecimal code ++ "\x7d"
    else String.singleton (Char.ofNat code)
  "'" ++ shown ++ "'"

end RespServer.Text
