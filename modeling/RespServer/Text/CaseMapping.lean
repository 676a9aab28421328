import RespServer.Text.CaseTables

/-!
Contract: the upper and lower case of a text, over all characters.

Owns:
- the case of a single character, which may take several characters;
- the final form of the letter sigma;
- `uppercase` and `lowercase` of a text.

Does not own: command names, which are matched without regard to ASCII case alone.
-/

namespace RespServer.Text

/-- The counterpart of a character in the runs, or the character itself. -/
def shiftBy (runs : Array CaseRun) (char : Char) : Char :=
  match runs.find? fun run => run.first ≤ char.toNat ∧ char.toNat ≤ run.last with
  | none => char
  | some run =>
      if (char.toNat - run.first) % run.stride = 0 then
        Char.ofNat (Int.ofNat char.toNat + run.shift).toNat
      else char

def inRanges (ranges : Array (Nat × Nat)) (char : Char) : Bool :=
  ranges.any fun range => range.1 ≤ char.toNat ∧ char.toNat ≤ range.2

/-- Letters that have case. -/
def isCased (char : Char) : Bool :=
  if char.toNat < 128 then char.isAlpha else inRanges casedRanges char

/-- Characters that a word may hold between its letters. -/
def isIgnorable (char : Char) : Bool :=
  if char.toNat < 128 then char ∈ ['\'', '.', ':', '^', '\x60']
  else inRanges ignorableRanges char

def uppercaseChar (char : Char) : List Char :=
  if char.toNat < 128 then [char.toUpper]
  else match uppercaseSequences.find? fun entry => entry.1 = char.toNat with
    | some entry => entry.2.map Char.ofNat
    | none => [shiftBy uppercaseRuns char]

/-- The lower case of a character, wherever it stands. Only the capital I with a dot takes two
characters: the letter and the dot above. -/
def lowercaseChar (char : Char) : List Char :=
  if char.toNat < 128 then [char.toLower]
  else if char = 'İ' then ['i', '\u0307']
  else [shiftBy lowercaseRuns char]

/-- Whether a letter with case comes first, ignorable characters aside. -/
def startsCased (chars : List Char) : Bool :=
  match chars.dropWhile isIgnorable with
  | [] => false
  | char :: _ => isCased char

/-- The lower case of the rest of a text, given the characters before it in reverse order. A
capital sigma takes its final form behind a letter and before none. -/
def lowercaseAfter : (before rest : List Char) → List Char
  | _, [] => []
  | before, char :: rest =>
      let mapped :=
        if char = 'Σ' then [if startsCased before && !startsCased rest then 'ς' else 'σ']
        else lowercaseChar char
      mapped ++ lowercaseAfter (char :: before) rest

def lowercase (text : String) : String :=
  String.ofList (lowercaseAfter [] text.toList)

def uppercase (text : String) : String :=
  String.ofList (text.toList.flatMap uppercaseChar)

end RespServer.Text
