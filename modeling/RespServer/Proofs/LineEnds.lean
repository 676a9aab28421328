import RespServer.Frame.Encoding
import RespServer.Text.CaseMapping

/-!
Contract: where a text holds a line end.

Owns:
- `HasLineEnd`, and that a text has one exactly if its spelling in octets has one;
- that upper and lower case keep line ends apart from everything else;
- line ends in texts that are put together.

Does not own: what reading makes of a text with a line end (`Proofs.RoundTrip`).

A line end is a sequence of two symbols, so a change of alphabet keeps line ends only if it keeps
the two symbols, makes neither of them out of another one, and makes nothing vanish between them.
-/

namespace RespServer

/-- Somewhere in the text stands a carriage return with a line feed behind it. -/
def HasLineEnd (text : String) : Prop :=
  ['\r', '\n'] <:+: text.toList

instance (text : String) : Decidable (HasLineEnd text) :=
  inferInstanceAs (Decidable (['\r', '\n'] <:+: text.toList))

/-! ## Spellings that keep two symbols apart -/

section Respelling

variable {α β : Type} {first second : α} {firstMark secondMark : β}

/-- A spelling of symbols one by one, in which two symbols are spelled by a mark each and no other
symbol is spelled by nothing or with one of these marks. -/
inductive Respelled (first second : α) (firstMark secondMark : β) : List α → List β → Prop
  | nil : Respelled first second firstMark secondMark [] []
  | first {rest : List α} {spelling : List β} :
      Respelled first second firstMark secondMark rest spelling →
      Respelled first second firstMark secondMark (first :: rest) (firstMark :: spelling)
  | second {rest : List α} {spelling : List β} :
      Respelled first second firstMark secondMark rest spelling →
      Respelled first second firstMark secondMark (second :: rest) (secondMark :: spelling)
  | other {symbol : α} {piece : List β} {rest : List α} {spelling : List β} :
      symbol ≠ first → symbol ≠ second → piece ≠ [] → firstMark ∉ piece → secondMark ∉ piece →
      Respelled first second firstMark secondMark rest spelling →
      Respelled first second firstMark secondMark (symbol :: rest) (piece ++ spelling)

variable {symbols : List α} {spelling : List β}

theorem Respelled.begins_iff
    (spelled : Respelled first second firstMark secondMark symbols spelling)
    (distinct : first ≠ second) (distinctMarks : firstMark ≠ secondMark) :
    [secondMark] <+: spelling ↔ [second] <+: symbols := by
  cases spelled with
  | nil => simp
  | first _ => simp [List.cons_prefix_cons, distinct.symm, distinctMarks.symm]
  | second _ => simp [List.cons_prefix_cons]
  | @other symbol piece rest _ _ notSecond notEmpty _ unmarked _ =>
      obtain ⟨mark, piece, rfl⟩ := List.exists_cons_of_ne_nil notEmpty
      have otherMark : secondMark ≠ mark := fun same => unmarked (same ▸ List.mem_cons_self)
      simp [List.cons_prefix_cons, otherMark, notSecond.symm]

theorem infix_append_of_notMem {piece : List β} (unmarked : firstMark ∉ piece) :
    [firstMark, secondMark] <:+: piece ++ spelling ↔ [firstMark, secondMark] <:+: spelling := by
  induction piece with
  | nil => rfl
  | cons mark piece inductionHypothesis =>
      have otherMark : firstMark ≠ mark := fun same => unmarked (same ▸ List.mem_cons_self)
      rw [List.cons_append, List.infix_cons_iff, List.cons_prefix_cons,
        inductionHypothesis fun member => unmarked (List.mem_cons_of_mem _ member)]
      simp [otherMark]

theorem append_infix_of_notMem {piece : List β} (unmarked : secondMark ∉ piece) :
    [firstMark, secondMark] <:+: spelling ++ piece ↔ [firstMark, secondMark] <:+: spelling := by
  have backwards : [secondMark, firstMark] <:+: piece.reverse ++ spelling.reverse ↔
      [secondMark, firstMark] <:+: spelling.reverse :=
    infix_append_of_notMem fun member => unmarked (List.mem_reverse.mp member)
  rw [← List.reverse_append] at backwards
  change [firstMark, secondMark].reverse <:+: _ ↔ [firstMark, secondMark].reverse <:+: _
    at backwards
  rwa [List.reverse_infix, List.reverse_infix] at backwards

/-- The two marks follow each other exactly where their symbols do. -/
theorem Respelled.infix_iff (spelled : Respelled first second firstMark secondMark symbols spelling)
    (distinct : first ≠ second) (distinctMarks : firstMark ≠ secondMark) :
    [firstMark, secondMark] <:+: spelling ↔ [first, second] <:+: symbols := by
  induction spelled with
  | nil => simp
  | first spelled inductionHypothesis =>
      rw [List.infix_cons_iff, List.infix_cons_iff, inductionHypothesis, List.cons_prefix_cons,
        List.cons_prefix_cons, spelled.begins_iff distinct distinctMarks]
      simp
  | second _ inductionHypothesis =>
      rw [List.infix_cons_iff, List.infix_cons_iff, inductionHypothesis, List.cons_prefix_cons,
        List.cons_prefix_cons]
      simp [distinct, distinctMarks]
  | other notFirst _ _ unmarked _ _ inductionHypothesis =>
      rw [infix_append_of_notMem unmarked, inductionHypothesis, List.infix_cons_iff,
        List.cons_prefix_cons]
      simp [notFirst.symm]

/-- A spelling by a function on symbols. -/
theorem respelled_flatMap {spell : α → List β} (ofFirst : spell first = [firstMark])
    (ofSecond : spell second = [secondMark])
    (ofOther : ∀ symbol, symbol ≠ first → symbol ≠ second →
      spell symbol ≠ [] ∧ firstMark ∉ spell symbol ∧ secondMark ∉ spell symbol)
    (symbols : List α) :
    Respelled first second firstMark secondMark symbols (symbols.flatMap spell) := by
  induction symbols with
  | nil => exact .nil
  | cons symbol rest inductionHypothesis =>
      rw [List.flatMap_cons]
      by_cases isFirst : symbol = first
      · subst isFirst
        rw [ofFirst]
        exact .first inductionHypothesis
      · by_cases isSecond : symbol = second
        · subst isSecond
          rw [ofSecond]
          exact .second inductionHypothesis
        · obtain ⟨notEmpty, notFirst, notSecond⟩ := ofOther symbol isFirst isSecond
          exact .other isFirst isSecond notEmpty notFirst notSecond inductionHypothesis

end Respelling

/-! ## Octets -/

theorem Bytes.ofText_eq_flatMap (text : String) :
    Bytes.ofText text = text.toList.flatMap String.utf8EncodeChar := by
  have encoded : text.toUTF8 = (text.toList.flatMap String.utf8EncodeChar).toByteArray :=
    String.utf8Encode_toList.symm
  rw [Bytes.ofText, encoded, List.data_toByteArray]

/-- An octet that spells a character, alone or with others, is its code or has the highest bit. -/
theorem octet_of_utf8EncodeChar {char : Char} {octet : UInt8}
    (member : octet ∈ String.utf8EncodeChar char) :
    octet.toNat = char.val.toNat ∨ 128 ≤ octet.toNat := by
  -- All octets of a longer spelling are a few bits on top of the highest one.
  have highBit : ∀ {bits base : Nat}, octet = UInt8.ofNat (bits + base) → 128 ≤ base →
      bits + base < 256 → 128 ≤ octet.toNat := by
    intro bits base same high bounded
    rw [same, UInt8.toNat_ofNat', Nat.mod_eq_of_lt bounded]
    omega
  unfold String.utf8EncodeChar at member
  dsimp only at member
  split at member
  · left
    rw [List.mem_singleton.mp member, UInt8.toNat_ofNat']
    exact Nat.mod_eq_of_lt (by omega)
  · right
    split at member
    · simp only [List.mem_cons, List.not_mem_nil, or_false] at member
      rcases member with same | same
      all_goals exact highBit same (by omega) (by omega)
    · split at member
      · simp only [List.mem_cons, List.not_mem_nil, or_false] at member
        rcases member with same | same | same
        all_goals exact highBit same (by omega) (by omega)
      · simp only [List.mem_cons, List.not_mem_nil, or_false] at member
        rcases member with same | same | same | same
        all_goals exact highBit same (by omega) (by omega)

theorem utf8EncodeChar_ne_nil (char : Char) : String.utf8EncodeChar char ≠ [] := by
  rw [← List.length_pos_iff, String.length_utf8EncodeChar]
  exact Char.utf8Size_pos char

/-- Only the two characters that end a line are spelled with their octets. -/
theorem utf8EncodeChar_of_other {char : Char} (notReturn : char ≠ '\r') (notFeed : char ≠ '\n') :
    String.utf8EncodeChar char ≠ [] ∧ 13 ∉ String.utf8EncodeChar char ∧
      10 ∉ String.utf8EncodeChar char := by
  refine ⟨utf8EncodeChar_ne_nil char, ?_, ?_⟩
  · intro member
    rcases octet_of_utf8EncodeChar member with isCode | high
    · exact notReturn (Char.ext (UInt32.toNat_inj.mp isCode.symm))
    · exact absurd high (by decide)
  · intro member
    rcases octet_of_utf8EncodeChar member with isCode | high
    · exact notFeed (Char.ext (UInt32.toNat_inj.mp isCode.symm))
    · exact absurd high (by decide)

/-- The spelling of a text has a line end exactly if the text has one. -/
theorem crlf_infix_ofText_iff (text : String) :
    crlf <:+: Bytes.ofText text ↔ HasLineEnd text := by
  rw [Bytes.ofText_eq_flatMap]
  have spelled : Respelled '\r' '\n' (13 : UInt8) 10 text.toList
      (text.toList.flatMap String.utf8EncodeChar) :=
    respelled_flatMap (by decide) (by decide) (fun _ => utf8EncodeChar_of_other) _
  exact spelled.infix_iff (by decide) (by decide)

/-! ## Upper and lower case -/

namespace Text

/-- A character that ends no line. -/
abbrev IsInner (char : Char) : Prop :=
  char ≠ '\r' ∧ char ≠ '\n'

theorem isInner_ofNat {code : Nat} (beyond : 13 < code) : IsInner (Char.ofNat code) := by
  unfold Char.ofNat
  by_cases valid : code.isValidChar
  · rw [dif_pos valid]
    have codeOf : (Char.ofNatAux code valid).toNat = code := rfl
    constructor
    all_goals
      intro same
      rw [same] at codeOf
      exact absurd (codeOf ▸ beyond) (by decide)
  · rw [dif_neg valid]
    decide

theorem isInner_of_nonAscii {char : Char} (beyond : ¬char.toNat < 128) : IsInner char := by
  constructor
  all_goals
    rintro rfl
    exact beyond (by decide)

/-- No counterpart in the other case ends a line. -/
theorem isInner_shiftBy {runs : Array CaseRun}
    (beyond : ∀ run ∈ runs, 13 < Int.ofNat run.first + run.shift) {char : Char}
    (nonAscii : ¬char.toNat < 128) : IsInner (shiftBy runs char) := by
  unfold shiftBy
  split
  · exact isInner_of_nonAscii nonAscii
  · rename_i run found
    split
    · have member := Array.mem_of_find?_eq_some found
      have within := Array.find?_some found
      have far := beyond run member
      simp only [decide_eq_true_eq] at within
      apply isInner_ofNat
      simp only [Int.ofNat_eq_natCast] at far ⊢
      omega
    · exact isInner_of_nonAscii nonAscii

theorem isInner_toUpper {char : Char} (inner : IsInner char) : IsInner char.toUpper := by
  unfold Char.toUpper
  split
  · rename_i small
    simp only [UInt32.le_iff_toNat_le] at small
    constructor
    all_goals
      intro same
      have code := congrArg (fun char => char.val.toNat) same
      simp [UInt32.toNat_add] at code small
      omega
  · exact inner

theorem isInner_toLower {char : Char} (inner : IsInner char) : IsInner char.toLower := by
  unfold Char.toLower
  split
  · rename_i capital
    simp only [ge_iff_le, UInt32.le_iff_toNat_le] at capital
    constructor
    all_goals
      intro same
      have code := congrArg (fun char => char.val.toNat) same
      simp [UInt32.toNat_add] at code capital
      omega
  · exact inner

theorem lowercaseRuns_beyond : ∀ run ∈ lowercaseRuns, 13 < Int.ofNat run.first + run.shift := by
  decide +kernel

theorem uppercaseRuns_beyond : ∀ run ∈ uppercaseRuns, 13 < Int.ofNat run.first + run.shift := by
  decide +kernel

theorem uppercaseSequences_beyond :
    ∀ entry ∈ uppercaseSequences, entry.2 ≠ [] ∧ ∀ code ∈ entry.2, 13 < code := by
  decide +kernel

theorem IsInner.singleton {char : Char} (inner : IsInner char) :
    [char] ≠ [] ∧ '\r' ∉ [char] ∧ '\n' ∉ [char] := by
  simp [inner.1.symm, inner.2.symm]

theorem uppercaseChar_of_other {char : Char} (notReturn : char ≠ '\r') (notFeed : char ≠ '\n') :
    uppercaseChar char ≠ [] ∧ '\r' ∉ uppercaseChar char ∧ '\n' ∉ uppercaseChar char := by
  unfold uppercaseChar
  split
  · exact (isInner_toUpper ⟨notReturn, notFeed⟩).singleton
  · rename_i nonAscii
    split
    · rename_i entry found
      obtain ⟨notEmpty, beyond⟩ :=
        uppercaseSequences_beyond entry (Array.mem_of_find?_eq_some found)
      refine ⟨by simpa using notEmpty, ?_, ?_⟩
      all_goals
        intro member
        obtain ⟨code, codeMember, same⟩ := List.mem_map.mp member
        have inner := isInner_ofNat (beyond code codeMember)
      · exact inner.1 same
      · exact inner.2 same
    · exact (isInner_shiftBy uppercaseRuns_beyond nonAscii).singleton

theorem lowercaseChar_of_other {char : Char} (notReturn : char ≠ '\r') (notFeed : char ≠ '\n') :
    lowercaseChar char ≠ [] ∧ '\r' ∉ lowercaseChar char ∧ '\n' ∉ lowercaseChar char := by
  unfold lowercaseChar
  split
  · exact (isInner_toLower ⟨notReturn, notFeed⟩).singleton
  · rename_i nonAscii
    split
    · decide
    · exact (isInner_shiftBy lowercaseRuns_beyond nonAscii).singleton

theorem respelled_lowercaseAfter (before rest : List Char) :
    Respelled '\r' '\n' '\r' '\n' rest (lowercaseAfter before rest) := by
  induction rest generalizing before with
  | nil => exact .nil
  | cons char rest inductionHypothesis =>
      unfold lowercaseAfter
      dsimp only
      by_cases isReturn : char = '\r'
      · subst isReturn
        exact .first (inductionHypothesis _)
      · by_cases isFeed : char = '\n'
        · subst isFeed
          exact .second (inductionHypothesis _)
        · split
          · refine .other isReturn isFeed (List.cons_ne_nil _ _) ?_ ?_ (inductionHypothesis _)
            all_goals split <;> decide
          · obtain ⟨notEmpty, notReturn, notFeed⟩ := lowercaseChar_of_other isReturn isFeed
            exact .other isReturn isFeed notEmpty notReturn notFeed (inductionHypothesis _)

@[simp] theorem hasLineEnd_lowercase (text : String) :
    HasLineEnd (lowercase text) ↔ HasLineEnd text := by
  unfold HasLineEnd lowercase
  rw [String.toList_ofList]
  exact (respelled_lowercaseAfter [] text.toList).infix_iff (by decide) (by decide)

@[simp] theorem hasLineEnd_uppercase (text : String) :
    HasLineEnd (uppercase text) ↔ HasLineEnd text := by
  unfold HasLineEnd uppercase
  rw [String.toList_ofList]
  have spelled : Respelled '\r' '\n' '\r' '\n' text.toList (text.toList.flatMap uppercaseChar) :=
    respelled_flatMap (by decide) (by decide) (fun _ => uppercaseChar_of_other) _
  exact spelled.infix_iff (by decide) (by decide)

/-! ## Texts that are put together -/

/-- A text without any of the two characters that end a line. -/
def IsPlain (text : String) : Prop :=
  ∀ char ∈ text.toList, IsInner char

instance (text : String) : Decidable (IsPlain text) :=
  List.decidableBAll IsInner text.toList

theorem IsPlain.append {left right : String} (plainLeft : IsPlain left)
    (plainRight : IsPlain right) : IsPlain (left ++ right) := by
  intro char member
  rw [String.toList_append, List.mem_append] at member
  exact member.elim (plainLeft char) (plainRight char)

theorem hasLineEnd_append_left {plain text : String} (isPlain : IsPlain plain) :
    HasLineEnd (plain ++ text) ↔ HasLineEnd text := by
  unfold HasLineEnd
  rw [String.toList_append]
  exact infix_append_of_notMem fun member => (isPlain _ member).1 rfl

theorem hasLineEnd_append_right {text plain : String} (isPlain : IsPlain plain) :
    HasLineEnd (text ++ plain) ↔ HasLineEnd text := by
  unfold HasLineEnd
  rw [String.toList_append]
  exact append_infix_of_notMem fun member => (isPlain _ member).2 rfl

theorem IsPlain.notHasLineEnd {plain : String} (isPlain : IsPlain plain) : ¬HasLineEnd plain := by
  intro ends
  have member : '\r' ∈ plain.toList := ends.subset List.mem_cons_self
  exact (isPlain _ member).1 rfl

end Text

end RespServer
