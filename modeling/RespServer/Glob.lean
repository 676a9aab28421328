import RespServer.Bytes

/-!
Contract: which texts a glob pattern matches.

Owns:
- stars within a path segment and double stars across segments, single-character wildcards,
  classes, nested alternatives in braces, escapes, and negation by leading exclamation marks;
- the search: one position in the pattern and one in the text, the last star to fall back to, and
  the enclosing braces;
- the bound on the search, beyond which it repeats itself for ever.

Does not own: what the texts are. Patterns and texts are octets; the segment separator is the
slash.
-/

namespace RespServer.Glob

/-! ## Positions -/

/-- Where the search falls back to: a star of the pattern, and the first octet of the text that
it has not absorbed yet. Position zero of the text means that there is no star. -/
structure Star where
  pattern : Nat
  text : Nat
deriving DecidableEq, Repr

def Star.none : Star :=
  ⟨0, 0⟩

/-- The search inside one pair of braces. -/
structure Position where
  text : Nat
  pattern : Nat
  star : Star
  doubleStar : Star
deriving DecidableEq, Repr

structure Search where
  position : Position
  /-- The positions at the enclosing braces, innermost first. -/
  braces : List Position
  /-- The farthest that an alternative of the enclosing braces has matched. -/
  longest : Nat
deriving DecidableEq, Repr

/-- Braces nest at most this deep. -/
def depthLimit : Nat :=
  10

/-- The text separator between segments. -/
def separator : UInt8 :=
  47

inductive Step where
  | goOn (search : Search)
  | stop (matched : Bool)

/-! ## Parts of patterns -/

/-- The octet that an escape stands for. -/
def unescaped (octet : UInt8) : UInt8 :=
  match octet with
  | 97 => 0x61
  | 98 => 0x08
  | 110 => 0x0a
  | 114 => 0x0d
  | 116 => 0x09
  | _ => octet

/-- The octet at an index of the pattern with its last index, an escape resolved; none if the
pattern ends in a backslash. -/
def literal? (pattern : Array UInt8) (index : Nat) (octet : UInt8) : Option (UInt8 × Nat) :=
  if octet = 92 then (pattern[index + 1]?).map fun escaped => (unescaped escaped, index + 1)
  else some (octet, index)

theorem le_of_literal? {pattern : Array UInt8} {index last : Nat} {octet value : UInt8}
    (read : literal? pattern index octet = some (value, last)) : index ≤ last := by
  unfold literal? at read
  split at read
  · simp only [Option.map_eq_some_iff, Prod.mk.injEq] at read
    omega
  · simp only [Option.some.injEq, Prod.mk.injEq] at read
    omega

/-- The index behind any repetitions of a slash and a double star. -/
def skipDoubleStars (pattern : Array UInt8) (index : Nat) : Nat :=
  if pattern[index]? = some 47 ∧ pattern[index + 1]? = some 42 ∧ pattern[index + 2]? = some 42 then
    skipDoubleStars pattern (index + 3)
  else index
termination_by pattern.size - index
decreasing_by
  have inside : index < pattern.size := by
    rename_i condition
    have first := condition.1
    rw [Array.getElem?_eq_some_iff] at first
    exact first.1
  omega

theorem le_skipDoubleStars (pattern : Array UInt8) (index : Nat) :
    index ≤ skipDoubleStars pattern index := by
  induction index using skipDoubleStars.induct pattern with
  | case1 index repeated inductionHypothesis =>
      rw [skipDoubleStars, if_pos repeated]
      omega
  | case2 index different =>
      exact Nat.le_of_eq (by rw [skipDoubleStars, if_neg different])

/-- Reads the items of a class from an index on: whether one of them holds the octet, and the
index of the bracket that closes the class, or one beyond the pattern. A closing bracket that
comes first is an item. None if the pattern ends in a backslash. -/
def classItems (pattern : Array UInt8) (octet : UInt8) (isFirst found : Bool) (index : Nat) :
    Option (Bool × Nat) :=
  match next : pattern[index]? with
  | none => some (found, index)
  | some item =>
      if !isFirst && item == 93 then some (found, index)
      else match lowRead : literal? pattern index item with
        | none => none
        | some (low, lowEnd) =>
            have _inside : index < pattern.size := (Array.getElem?_eq_some_iff.mp next).1
            have _lowForward := le_of_literal? lowRead
            let afterLow := lowEnd + 1
            match pattern[afterLow]?, pattern[afterLow + 1]? with
            | some 45, some bound =>
                if bound = 93 then
                  classItems pattern octet false (found || (low ≤ octet && octet ≤ low)) afterLow
                else match highRead : literal? pattern (afterLow + 1) bound with
                  | none => none
                  | some (high, highEnd) =>
                      have highForward := le_of_literal? highRead
                      classItems pattern octet false
                        (found || (low ≤ octet && octet ≤ high)) (highEnd + 1)
            | _, _ =>
                classItems pattern octet false (found || (low ≤ octet && octet ≤ low)) afterLow
termination_by pattern.size - index
decreasing_by all_goals omega

/-- Where a search for the end of an alternative stops. -/
inductive BraceEnd where
  | unclosed
  /-- Behind the comma before the next alternative. -/
  | comma (index : Nat)
  /-- Behind the closing brace. -/
  | closed (index : Nat)

/-- Looks for the end of the innermost braces, or of the alternative if commas count. Braces and
commas inside classes do not count, nor do escaped octets. -/
def skipBraces (pattern : Array UInt8) (commaCounts : Bool) (depth : Nat) (inClass : Bool)
    (index : Nat) : BraceEnd :=
  match depth with
  | 0 => .closed index
  | outer + 1 =>
      match next : pattern[index]? with
      | none => .unclosed
      | some octet =>
          have inside : index < pattern.size := (Array.getElem?_eq_some_iff.mp next).1
          if octet = 123 ∧ inClass = false then
            skipBraces pattern commaCounts (outer + 2) inClass (index + 1)
          else if octet = 125 ∧ inClass = false then
            skipBraces pattern commaCounts outer inClass (index + 1)
          else if octet = 44 ∧ commaCounts = true ∧ outer = 0 ∧ inClass = false then
            .comma (index + 1)
          else if octet = 91 ∧ inClass = false then
            skipBraces pattern commaCounts (outer + 1) true (index + 1)
          else if octet = 42 ∧ inClass = false ∧ pattern[index + 1]? = some 42 then
            have forward := le_skipDoubleStars pattern (index + 2)
            skipBraces pattern commaCounts (outer + 1) inClass
              (skipDoubleStars pattern (index + 2))
          else if octet = 93 then skipBraces pattern commaCounts (outer + 1) false (index + 1)
          else if octet = 92 then skipBraces pattern commaCounts (outer + 1) inClass (index + 2)
          else skipBraces pattern commaCounts (outer + 1) inClass (index + 1)
termination_by pattern.size - index
decreasing_by all_goals omega

/-! ## The search -/

/-- Leaves the innermost braces: the text goes on behind the longest alternative, and the stars
are those in force before the braces. Without braces nothing is left. -/
def leaveBraces (search : Search) (patternIndex : Nat) : Search :=
  match search.braces with
  | [] => search
  | outer :: braces =>
      { position := ⟨search.longest, patternIndex, outer.star, outer.doubleStar⟩
        braces := braces
        longest := if braces.isEmpty then 0 else search.longest }

/-- The position at the last star, which absorbs one more octet of the text, if it can. -/
def fallBack? (text : Array UInt8) (position : Position) : Option Position :=
  if 0 < position.star.text ∧ position.star.text ≤ text.size then
    some { position with pattern := position.star.pattern, text := position.star.text }
  else none

/-- Nothing matched here: back to the last star, else to the next alternative of the innermost
braces, else behind the braces if an alternative has matched, else to the star before them. -/
def recover (pattern text : Array UInt8) (negated : Bool) (search : Search) : Step :=
  match fallBack? text search.position with
  | some position => .goOn { search with position := position }
  | none =>
      match search.braces with
      | [] => .stop negated
      | outer :: braces =>
          match skipBraces pattern true 1 false search.position.pattern with
          | .unclosed => .stop false
          | .comma index =>
              .goOn { search with
                position := { search.position with pattern := index, text := outer.text } }
          | .closed index =>
              if 0 < search.longest then .goOn (leaveBraces search index)
              else match fallBack? text outer with
                | some position => .goOn { search with position := position, braces := braces }
                | none => .stop negated

/-- A star, or a run of double stars, at the position. -/
def stepStar (pattern text : Array UInt8) (search : Search) : Step :=
  let here := search.position
  let isDouble := pattern[here.pattern + 1]? = some 42
  let first := if isDouble then skipDoubleStars pattern (here.pattern + 2) - 2 else here.pattern
  let star : Star := ⟨first, here.text + 1⟩
  let behind := if isDouble then first + 2 else first + 1
  -- a double star alone in its segment also matches no segment at all
  let atSlash := decide (behind < 3 ∨ pattern[behind - 3]? = some 47)
    && pattern[behind]? == some 47
  let startsSegment := decide (here.text = 0)
    || (decide (here.text < text.size) && text[here.text - 1]? == some separator)
  let doubleStar :=
    if isDouble && (decide (behind = pattern.size) || atSlash) then star else here.doubleStar
  let behind :=
    if isDouble && decide (behind ≠ pattern.size) && atSlash && startsSegment then behind + 1
    else behind
  -- a star absorbs no separator: the last double star goes on, if there is one
  let (behind, star) :=
    if doubleStar.text ≠ star.text ∧ text[here.text]? = some separator then
      if 0 < doubleStar.text ∧ here.text + 1 < text.size then
        (doubleStar.pattern, { star with pattern := doubleStar.pattern })
      else (behind, { star with text := 0 })
    else (behind, star)
  let position : Position := ⟨here.text, behind, star, doubleStar⟩
  let atAlternativeEnd := pattern[behind]? = some 44 ∨ pattern[behind]? = some 125
  if search.braces.isEmpty = false ∧ atAlternativeEnd then
    match skipBraces pattern false 1 false behind with
    | .unclosed => .stop false
    | .comma index | .closed index =>
        .goOn { search with position := { position with pattern := index } }
  else .goOn { search with position := position }

/-- A class at the position, the text not being used up. -/
def stepClass (pattern text : Array UInt8) (negated : Bool) (search : Search) (octet : UInt8) :
    Step :=
  let here := search.position
  let first := here.pattern + 1
  let excludes := decide (pattern[first]? = some 94 ∨ pattern[first]? = some 33)
  match classItems pattern octet true false (if excludes then first + 1 else first) with
  | none => .stop false
  | some (found, last) =>
      if pattern.size ≤ last then .stop false
      else if found != excludes then
        .goOn { search with position := { here with pattern := last + 1, text := here.text + 1 } }
      else recover pattern text negated
        { search with position := { here with pattern := last + 1 } }

/-- Any other octet of the pattern, the text not being used up. -/
def stepLiteral (pattern text : Array UInt8) (negated : Bool) (search : Search)
    (octet symbol : UInt8) : Step :=
  let here := search.position
  match literal? pattern here.pattern symbol with
  | none => .stop false
  | some (value, last) =>
      if octet = value then
        let behindBrace := search.braces.isEmpty = false ∧ 0 < last
          ∧ pattern[last - 1]? = some 125
        let search :=
          if behindBrace then leaveBraces { search with longest := here.text } last
          else { search with position := { here with pattern := last } }
        let position := search.position
        let doubleStar :=
          if value = separator then position.doubleStar
          else { position.doubleStar with text := 0 }
        .goOn { search with
          position :=
            { position with
              pattern := position.pattern + 1
              text := position.text + 1
              doubleStar := doubleStar } }
      else recover pattern text negated { search with position := { here with pattern := last } }

def step (pattern text : Array UInt8) (negated : Bool) (search : Search) : Step :=
  let here := search.position
  let recovered := recover pattern text negated search
  match pattern[here.pattern]?, text[here.text]? with
  | none, none => .stop (!negated)
  | none, some _ => recovered
  | some 42, _ => stepStar pattern text search
  | some 125, next =>
      if search.braces.isEmpty then
        match next with
        | none => recovered
        | some octet => stepLiteral pattern text negated search octet 125
      else
        .goOn (leaveBraces { search with longest := max search.longest here.text }
          (here.pattern + 1))
  | some 44, next =>
      match search.braces, next with
      | [], none => recovered
      | [], some octet => stepLiteral pattern text negated search octet 44
      | outer :: _, _ =>
          .goOn { search with
            position := ⟨outer.text, here.pattern + 1, Star.none, Star.none⟩
            longest := max search.longest here.text }
  | some _, none => recovered
  | some 63, some octet =>
      if octet = separator then recovered
      else .goOn { search with
        position := { here with pattern := here.pattern + 1, text := here.text + 1 } }
  | some 91, some octet => stepClass pattern text negated search octet
  | some 123, some _ =>
      if depthLimit ≤ search.braces.length then .stop false
      else .goOn { search with
        position := ⟨here.text, here.pattern + 1, Star.none, Star.none⟩
        braces := here :: search.braces }
  | some symbol, some octet => stepLiteral pattern text negated search octet symbol

/-- The search, with a bound on its steps. -/
def run (pattern text : Array UInt8) (negated : Bool) : (steps : Nat) → Search → Option Bool
  | 0, _ => none
  | steps + 1, search =>
      match step pattern text negated search with
      | .stop matched => some matched
      | .goOn search => run pattern text negated steps search

/-- More steps than there are different searches: each position consists of six numbers that
exceed the lengths by little, and so does the longest alternative. A search that takes more steps
than this has come back to where it was. -/
def stepBound (pattern text : Array UInt8) : Nat :=
  (depthLimit + 1) * Nat.pow (pattern.size + text.size + 4) (6 * (depthLimit + 1) + 1)

/-- Whether the pattern matches the text; none if the search never ends, as it happens with some
nested braces. -/
def matches? (pattern text : Bytes) : Option Bool :=
  let exclamations := (pattern.takeWhile (· = 33)).length
  let pattern := pattern.toArray
  let text := text.toArray
  run pattern text (exclamations % 2 = 1) (stepBound pattern text)
    ⟨⟨0, exclamations, Star.none, Star.none⟩, [], 0⟩

end RespServer.Glob
