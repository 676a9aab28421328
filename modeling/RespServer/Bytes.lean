/-!
Contract: octet strings and the text they spell.

Owns:
- the type `Bytes` of octet strings;
- the UTF-8 spelling of a text and its strict reading, with both laws.

Does not own: the replacement of malformed sequences, which `Text.Lossy` does.
-/

namespace RespServer

/-- A finite string of octets. -/
abbrev Bytes := List UInt8

namespace Bytes

/-- The UTF-8 spelling of a text. -/
def ofText (text : String) : Bytes :=
  text.toUTF8.data.toList

/-- The text that the octets spell, if they are well-formed UTF-8: no surrogate, no overlong
form, nothing cut off. -/
def text? (bytes : Bytes) : Option String :=
  String.fromUTF8? ⟨bytes.toArray⟩

@[simp] theorem text?_ofText (text : String) : text? (ofText text) = some text := by
  simp only [text?, ofText, String.fromUTF8?, Array.toArray_toList]
  exact dif_pos text.isValidUTF8

/-- Only the spelling of a text is read as that text. -/
theorem ofText_of_text? {bytes : Bytes} {text : String} (read : text? bytes = some text) :
    ofText text = bytes := by
  simp only [text?, String.fromUTF8?] at read
  split at read
  · cases read
    simp [ofText, String.fromUTF8]
  · cases read

/-- Octets spell a text exactly if they are its spelling. -/
theorem text?_eq_some_iff {bytes : Bytes} {text : String} :
    text? bytes = some text ↔ bytes = ofText text :=
  ⟨fun read => (ofText_of_text? read).symm, fun spelled => spelled ▸ text?_ofText text⟩

theorem ofText_injective {left right : String} (sameSpelling : ofText left = ofText right) :
    left = right := by
  have leftRead := text?_ofText left
  rw [sameSpelling, text?_ofText] at leftRead
  exact (Option.some.inj leftRead).symm

end Bytes

end RespServer
