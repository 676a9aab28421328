import RespServer.Proofs.RoundTrip

/-!
Contract: what becomes of a frame that was read when it is written again.

Owns:
- that the counts of a frame that was read are counts that can be written;
- that only a counted error can have brought a line end into a line;
- which frames that were read are read back from their wire forms.

Does not own: frames that were not read, such as replies (`Proofs.Repetition`).

The reader accepts more than is written. Most of it becomes something that can be written: a number
with a sign or zeros in front its value, any null value the one that is written. A counted error
becomes a line, and a line cannot hold every text that was counted.
-/

namespace RespServer

open FrontReader

namespace Frame

/-! ## What readers yield -/

/-- What is read up to a line end holds none. -/
theorem noLineEnd_of_takeLine? {input contents unread : Bytes}
    (taken : takeLine? input = some (contents, unread)) : ¬crlf <:+: contents := by
  intro ends
  obtain ⟨front, rest, first, shorter⟩ := takeLine?_of_lineEnd ends (crlf ++ unread)
  rw [← List.append_assoc, takeLine?_append taken, taken] at first
  cases first
  exact Nat.lt_irrefl _ shorter

theorem noLineEnd_of_takeText {input unread : Bytes} {text : String}
    (taken : takeText input = .ok (text, unread)) : ¬HasLineEnd text := by
  unfold takeText at taken
  split at taken
  · cases taken
  · rename_i contents rest lineTaken
    split at taken
    · cases taken
    · rename_i read
      cases taken
      rw [← crlf_infix_ofText_iff, Bytes.ofText_of_text? read]
      exact noLineEnd_of_takeLine? lineTaken

theorem lt_of_takeCount {input unread : Bytes} {count : Nat}
    (taken : takeCount input = .ok (some count, unread)) : count < countLimit := by
  unfold takeCount at taken
  split at taken
  · cases taken
  · split at taken
    · cases taken
    · rename_i number read
      split at taken
      · cases taken
      · split at taken
        · cases taken
        · rename_i notNegative
          cases taken
          have holds := IntegerType.holds_of_read? read
          rw [← Int.toNat_of_nonneg (Int.not_lt.mp notNegative)] at holds
          exact (holds_natCast_iff _).mp holds

theorem length_of_takeExactly_ok {count : Nat} {input data unread : Bytes}
    (taken : takeExactly count input = .ok (data, unread)) : data.length = count := by
  by_cases enough : count + 2 ≤ input.length
  · obtain ⟨front, first, second, rest, rfl, rfl⟩ := exists_split_of_length enough
    rw [takeExactly_append] at taken
    split at taken
    · cases taken
      rfl
    · cases taken
  · rw [takeExactly_of_short (Nat.lt_of_not_le enough)] at taken
    cases taken

theorem lt_of_takeCounted {input data unread : Bytes}
    (taken : takeCounted input = .ok (some data, unread)) : data.length < countLimit := by
  unfold takeCounted at taken
  split at taken
  · cases taken
  · cases taken
  · rename_i count rest counted
    split at taken
    · cases taken
    · rename_i dataTaken
      cases taken
      rw [length_of_takeExactly_ok dataTaken]
      exact lt_of_takeCount counted

/-- Counted frames are as many as counted, and each was read from somewhere in the input. -/
theorem frames_eq_ok {count : Nat} {input unread : Bytes} {elements : List Frame}
    (read : frames count input = .ok (elements, unread)) :
    elements.length = count ∧
      ∀ element ∈ elements, ∃ front back rest,
        input = front ++ back ∧ decode? back = .ok (element, rest) := by
  induction count generalizing input unread elements with
  | zero =>
      rw [frames_zero] at read
      cases read
      exact ⟨rfl, nofun⟩
  | succ count inductionHypothesis =>
      rw [frames_succ] at read
      obtain ⟨element, between, first, later⟩ := andThen_eq_ok_iff.mp read
      obtain ⟨others, behind, readOthers, whole⟩ := andThen_eq_ok_iff.mp later
      obtain ⟨same, -⟩ := found_eq_ok_iff.mp whole
      cases same
      obtain ⟨sameLength, places⟩ := inductionHypothesis readOthers
      obtain ⟨used, split, -⟩ := (steadyAt_decode? input).leaves first
      refine ⟨congrArg (· + 1) sameLength, List.forall_mem_cons.mpr ⟨?_, ?_⟩⟩
      · exact ⟨[], input, between, rfl, first⟩
      · intro other member
        obtain ⟨front, back, rest, place, decoded⟩ := places other member
        exact ⟨used ++ front, back, rest, by rw [split, place, List.append_assoc], decoded⟩

/-! ## Where line ends come from -/

/-- Somewhere in the octets stands a counted error with this text. -/
def HoldsCountedError (octets : Bytes) (text : String) : Prop :=
  ∃ front back rest, octets = front ++ 33 :: back ∧
    decode? (33 :: back) = .ok (.error text, rest)

theorem HoldsCountedError.append {octets : Bytes} {text : String}
    (holds : HoldsCountedError octets text) (front : Bytes) :
    HoldsCountedError (front ++ octets) text := by
  obtain ⟨before, back, rest, place, decoded⟩ := holds
  exact ⟨front ++ before, back, rest, by rw [place, List.append_assoc], decoded⟩

/-- Of a frame that was read from octets: its counts can be written, and line ends in its lines come
from counted errors. -/
structure ReadFrom (octets : Bytes) (frame : Frame) : Prop where
  counts : ∀ count ∈ frame.counts, count < countLimit
  lineEnds : ∀ text ∈ frame.lines, HasLineEnd text → HoldsCountedError octets text

theorem ReadFrom.of_recoverable {octets : Bytes} {frame : Frame} (recoverable : frame.Recoverable) :
    ReadFrom octets frame :=
  ⟨recoverable.counts, fun text line ends => absurd ends (recoverable.lines text line)⟩

theorem eq_of_marks_countedError {octet : UInt8}
    (marked : Mark.ofOctet? octet = .ok .bulkError) : octet = 33 := by
  unfold Mark.ofOctet? at marked
  repeat' split at marked
  all_goals first | rfl | cases marked

theorem readFrom_scalar {octet : UInt8} {mark : Mark}
    (marked : Mark.ofOctet? octet = .ok mark) (scalar : mark ≠ .array) {rest unread : Bytes}
    {frame : Frame} (decoded : decode? (octet :: rest) = .ok (frame, unread)) :
    ReadFrom (octet :: rest) frame := by
  have taken := decoded
  rw [decode?_of_scalar marked scalar, takeScalar_eq] at taken
  cases mark with
  | simple =>
      obtain ⟨text, between, read, whole⟩ := andThen_eq_ok_iff.mp taken
      cases (found_eq_ok_iff.mp whole).1
      exact .of_recoverable ((recoverable_simple text).mpr (noLineEnd_of_takeText read))
  | error =>
      obtain ⟨text, between, read, whole⟩ := andThen_eq_ok_iff.mp taken
      cases (found_eq_ok_iff.mp whole).1
      exact .of_recoverable ((recoverable_error text).mpr (noLineEnd_of_takeText read))
  | integer =>
      obtain ⟨number, between, -, whole⟩ := andThen_eq_ok_iff.mp taken
      cases (found_eq_ok_iff.mp whole).1
      exact .of_recoverable (recoverable_integer number)
  | bulk =>
      obtain ⟨data, between, read, whole⟩ := andThen_eq_ok_iff.mp taken
      cases (found_eq_ok_iff.mp whole).1
      cases data with
      | none => exact .of_recoverable recoverable_null
      | some data => exact .of_recoverable ((recoverable_bulk data).mpr (lt_of_takeCounted read))
  | bulkError =>
      obtain ⟨data, between, -, whole⟩ := andThen_eq_ok_iff.mp taken
      have yields := (found_eq_ok_iff.mp whole).1
      cases data with
      | none =>
          cases yields
          exact .of_recoverable recoverable_null
      | some data =>
          dsimp only at yields
          split at yields
          · cases yields
          · rename_i text _
            cases yields
            refine ⟨by simp [Frame.counts], fun line member _ => ?_⟩
            cases List.mem_singleton.mp member
            exact ⟨[], rest, unread, congrArg (· :: rest) (eq_of_marks_countedError marked),
              eq_of_marks_countedError marked ▸ decoded⟩
  | null =>
      obtain ⟨contents, between, -, whole⟩ := andThen_eq_ok_iff.mp taken
      cases (found_eq_ok_iff.mp whole).1
      exact .of_recoverable recoverable_null
  | array => exact absurd rfl scalar

/-- An array takes over what holds of its elements, each of which was read further back. -/
theorem readFrom_array {octets : Bytes} {elements : List Frame}
    (count : elements.length < countLimit)
    (places : ∀ element ∈ elements, ∃ front back, octets = front ++ back ∧ ReadFrom back element) :
    ReadFrom octets (.array elements) := by
  constructor
  · intro other listed
    rcases List.mem_cons.mp listed with rfl | inside
    · exact count
    · obtain ⟨element, member, own⟩ := mem_countsEach.mp inside
      obtain ⟨front, back, -, readFrom⟩ := places element member
      exact readFrom.counts other own
  · intro text listed ends
    obtain ⟨element, member, own⟩ := mem_linesEach.mp listed
    obtain ⟨front, back, rfl, readFrom⟩ := places element member
    exact (readFrom.lineEnds text own ends).append front

theorem readFrom_of_decode? {octets unread : Bytes} {frame : Frame}
    (decoded : decode? octets = .ok (frame, unread)) : ReadFrom octets frame := by
  -- The elements of an array are read further back, where fewer octets are left.
  induction bound : octets.length using Nat.strongRecOn generalizing octets frame unread with
  | ind length inductionHypothesis =>
      cases octets with
      | nil =>
          rw [decode?_nil] at decoded
          cases decoded
      | cons octet rest =>
          cases marked : Mark.ofOctet? octet with
          | error failure =>
              rw [decode?_of_unmarked marked] at decoded
              cases decoded
          | ok mark =>
              by_cases isArray : mark = .array
              · subst isArray
                rw [decode?_of_array marked] at decoded
                obtain ⟨count, between, counted, later⟩ := andThen_eq_ok_iff.mp decoded
                cases count with
                | none =>
                    rw [FrontReader.elements] at later
                    cases (found_eq_ok_iff.mp later).1
                    exact .of_recoverable recoverable_null
                | some count =>
                    rw [FrontReader.elements] at later
                    obtain ⟨elements, behind, read, whole⟩ := andThen_eq_ok_iff.mp later
                    cases (found_eq_ok_iff.mp whole).1
                    obtain ⟨sameLength, places⟩ := frames_eq_ok read
                    obtain ⟨used, split, -⟩ := (steadyAt_takeCount rest).leaves counted
                    refine readFrom_array (sameLength ▸ lt_of_takeCount counted) ?_
                    intro element member
                    obtain ⟨front, back, left, place, elementRead⟩ := places element member
                    have whole : octet :: rest = octet :: used ++ front ++ back := by
                      rw [split, place]
                      simp
                    have shorter := congrArg List.length whole
                    simp only [List.length_append, List.length_cons] at shorter bound
                    refine ⟨octet :: used ++ front, back, whole, ?_⟩
                    exact inductionHypothesis back.length (by omega) elementRead rfl
              · exact readFrom_scalar marked isArray decoded

/-! ## Writing what was read -/

/-- A frame that was read is read back from its wire form, with nothing left, exactly if no line of
it holds a line end. A line that holds one was read from a counted error. So everything that is read
where no counted error is marked can be written and read again. -/
theorem read_again_iff {octets unread : Bytes} {frame : Frame}
    (decoded : decode? octets = .ok (frame, unread)) :
    (decode? frame.encode = .ok (frame, []) ↔ ∀ text ∈ frame.lines, ¬HasLineEnd text)
      ∧ (∀ text ∈ frame.lines, HasLineEnd text → ∃ front back rest,
          octets = front ++ 33 :: back ∧ decode? (33 :: back) = .ok (.error text, rest))
      ∧ ((33 : UInt8) ∉ octets → decode? frame.encode = .ok (frame, [])) := by
  have readFrom := readFrom_of_decode? decoded
  have again :
      decode? frame.encode = .ok (frame, []) ↔ ∀ text ∈ frame.lines, ¬HasLineEnd text := by
    have reads := @decode?_encode_iff frame [] []
    rw [List.append_nil] at reads
    rw [reads]
    exact ⟨fun both => both.1.lines, fun inner => ⟨⟨inner, readFrom.counts⟩, rfl⟩⟩
  refine ⟨again, readFrom.lineEnds, fun unmarked => again.mpr fun text line ends => ?_⟩
  obtain ⟨front, back, -, place, -⟩ := readFrom.lineEnds text line ends
  rw [place] at unmarked
  exact unmarked (List.mem_append_right front List.mem_cons_self)

/-- A number with a sign and zeros in front, a null array and a counted error without line end; and
an array around a counted error with one. -/
theorem nested_errors_read_again :
    let plain : Bytes :=
      [42, 51, 13, 10, 58, 43, 48, 55, 13, 10, 42, 45, 49, 13, 10, 33, 49, 13, 10, 97, 13, 10]
    let ended : Bytes := [42, 49, 13, 10, 33, 50, 13, 10, 13, 10, 13, 10]
    decode? plain = .ok (.array [.integer 7, .null, .error "a"], [])
      ∧ decode? (encode (.array [.integer 7, .null, .error "a"])) =
          .ok (.array [.integer 7, .null, .error "a"], [])
      ∧ decode? ended = .ok (.array [.error "\r\n"], [])
      ∧ decode? (encode (.array [.error "\r\n"])) ≠ .ok (.array [.error "\r\n"], [])
      ∧ ∃ front back rest, ended = front ++ 33 :: back
        ∧ decode? (33 :: back) = .ok (.error "\r\n", rest) := by
  intro plain ended
  have readPlain : decode? plain = .ok (.array [.integer 7, .null, .error "a"], []) := by cbv
  have readEnded : decode? ended = .ok (.array [.error "\r\n"], []) := by cbv
  obtain ⟨againPlain, -, -⟩ := read_again_iff readPlain
  obtain ⟨againEnded, comesFrom, -⟩ := read_again_iff readEnded
  have listed : "\r\n" ∈ (Frame.array [.error "\r\n"]).lines := by decide
  have ends : HasLineEnd "\r\n" := by decide
  refine ⟨readPlain, againPlain.mpr (by decide), readEnded, ?_, comesFrom _ listed ends⟩
  exact fun same => againEnded.mp same _ listed ends

/-- A counted error with a line end in it is written as a line, of which half is read again. -/
theorem counted_error_cut_short :
    let octets : Bytes := [33, 52, 13, 10, 97, 13, 10, 98, 13, 10]
    decode? octets = .ok (.error "a\r\nb", [])
      ∧ encode (.error "a\r\nb") = [45, 97, 13, 10, 98, 13, 10]
      ∧ decode? [45, 97, 13, 10, 98, 13, 10] = .ok (.error "a", [98, 13, 10]) := by
  exact ⟨by cbv, by decide, by cbv⟩

end Frame

end RespServer
