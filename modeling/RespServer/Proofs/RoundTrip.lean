import RespServer.Command.Basic
import RespServer.Proofs.Chunking
import RespServer.Proofs.LineEnds

/-!
Contract: reading undoes writing.

Owns:
- the lines and the counts that a frame is written with, and when it is recoverable;
- that exactly the recoverable frames are read back, with everything behind them unread;
- the same for several frames in a row, and for the requests of clients.

Does not own: which replies are recoverable (`Proofs.Repetition`).

Lines are written without a count, so a text with a line end in it is read as a shorter one. Counts
are read as 64-bit numbers, so a count beyond them is refused; no value in memory has one.
-/

namespace RespServer

open FrontReader

/-! ## Chains that succeed -/

namespace FrontReader

theorem andThen_eq_ok_iff {first : FrontReader α} {next : α → FrontReader β} {input unread : Bytes}
    {value : β} :
    andThen first next input = .ok (value, unread) ↔
      ∃ found between, first input = .ok (found, between) ∧
        next found between = .ok (value, unread) := by
  cases read : first input with
  | error failure => simp [andThen_of_error read]
  | ok pair =>
      rw [andThen_of_ok read]
      constructor
      · intro later
        exact ⟨pair.1, pair.2, rfl, later⟩
      · rintro ⟨found, between, same, later⟩
        cases same
        exact later

theorem found_eq_ok_iff {finding : Except DecodingError α} {input unread : Bytes} {value : α} :
    found finding input = .ok (value, unread) ↔ finding = .ok value ∧ input = unread := by
  cases finding <;> simp [found]

/-- A value that is only wrapped is wrapped in the result. -/
theorem andThen_found_eq_ok_iff {reader : FrontReader α} {wrap : α → β} {input unread : Bytes}
    (value : α) (injective : ∀ {other : α}, wrap other = wrap value → other = value) :
    andThen reader (fun value => found (.ok (wrap value))) input = .ok (wrap value, unread) ↔
      reader input = .ok (value, unread) := by
  rw [andThen_eq_ok_iff]
  constructor
  · rintro ⟨other, between, read, wrapped⟩
    obtain ⟨same, rfl⟩ := found_eq_ok_iff.mp wrapped
    rw [read, injective (Except.ok.inj same)]
  · intro read
    exact ⟨value, unread, read, rfl⟩

end FrontReader

/-! ## Lines -/

namespace Frame

/-- A line is read up to its end if no other stands in it. -/
theorem takeLine?_of_noLineEnd {contents : Bytes} (inner : ¬crlf <:+: contents) (rest : Bytes) :
    takeLine? (contents ++ crlf ++ rest) = some (contents, rest) := by
  induction contents with
  | nil => rfl
  | cons octet contents inductionHypothesis =>
      rw [List.infix_cons_iff, not_or] at inner
      have noLineEnd : ∀ unread, octet = 13 → contents ++ crlf ++ rest = 10 :: unread → False := by
        rintro unread rfl behind
        cases contents with
        | nil => exact absurd behind (by simp [crlf])
        | cons next contents =>
            simp only [List.cons_append, List.cons.injEq] at behind
            exact inner.1 (by simp [crlf, behind.1])
      rw [List.cons_append, List.cons_append, takeLine?.eq_3 _ _ noLineEnd,
        inductionHypothesis inner.2]
      rfl

/-- A line end in a line cuts it short. -/
theorem takeLine?_of_lineEnd {contents : Bytes} (ends : crlf <:+: contents) (rest : Bytes) :
    ∃ front unread, takeLine? (contents ++ rest) = some (front, unread) ∧
      front.length < contents.length := by
  induction contents using takeLine?.induct with
  | case1 => exact absurd ends (by simp [crlf])
  | case2 contents => exact ⟨[], contents ++ rest, rfl, by simp⟩
  | case3 octet contents noLineEnd inductionHypothesis =>
      have behind : crlf <:+: contents := by
        rcases List.infix_cons_iff.mp ends with begins | behind
        · obtain ⟨tail, same⟩ := begins
          cases same
          exact (noLineEnd tail rfl rfl).elim
        · exact behind
      obtain ⟨front, unread, taken, shorter⟩ := inductionHypothesis behind
      have stillNoLineEnd : ∀ unread, octet = 13 → contents ++ rest = 10 :: unread → False := by
        intro unread isReturn isFeed
        cases contents with
        | nil => exact absurd behind (by simp [crlf])
        | cons next contents =>
            cases isFeed
            exact noLineEnd contents isReturn rfl
      refine ⟨octet :: front, unread, ?_, ?_⟩
      · rw [List.cons_append, takeLine?.eq_3 _ _ stillNoLineEnd, taken]
        rfl
      · simpa using shorter

theorem line_of_noLineEnd {contents : Bytes} (inner : ¬crlf <:+: contents) (rest : Bytes) :
    FrontReader.line (contents ++ crlf ++ rest) = .ok (contents, rest) := by
  rw [FrontReader.line, takeLine?_of_noLineEnd inner]

/-! ### Texts -/

theorem takeText_of_noLineEnd {text : String} (inner : ¬HasLineEnd text) (rest : Bytes) :
    takeText (Bytes.ofText text ++ crlf ++ rest) = .ok (text, rest) := by
  rw [← crlf_infix_ofText_iff] at inner
  rw [takeText_eq, andThen_of_ok (line_of_noLineEnd inner rest), Bytes.text?_ofText]
  rfl

theorem takeText_of_lineEnd {text : String} (ends : HasLineEnd text) (rest unread : Bytes) :
    takeText (Bytes.ofText text ++ crlf ++ rest) ≠ .ok (text, unread) := by
  rw [← crlf_infix_ofText_iff] at ends
  obtain ⟨front, between, taken, shorter⟩ := takeLine?_of_lineEnd ends (crlf ++ rest)
  intro read
  unfold takeText at read
  rw [List.append_assoc, taken] at read
  dsimp only at read
  split at read
  · cases read
  · rename_i textRead
    cases read
    rw [Bytes.ofText_of_text? textRead] at shorter
    exact Nat.lt_irrefl _ shorter

theorem takeText_ofText_iff {text : String} {rest unread : Bytes} :
    takeText (Bytes.ofText text ++ crlf ++ rest) = .ok (text, unread) ↔
      ¬HasLineEnd text ∧ rest = unread := by
  by_cases ends : HasLineEnd text
  · simp only [takeText_of_lineEnd ends, ends, not_true, false_and]
  · rw [takeText_of_noLineEnd ends]
    simp [ends]

/-! ### Numbers and counts -/

/-- Counts are read as numbers of 64 bits. -/
def countLimit : Nat :=
  Nat.pow 2 63

theorem text_noLineEnd (number : Int) : ¬crlf <:+: Decimal.text number := by
  have noReturn : ∀ value, (13 : UInt8) ∉ Decimal.digits value := by
    intro value member
    have isDigit := List.all_eq_true.mp (Decimal.all_isDigit_digits value) 13 member
    exact absurd isDigit (by decide)
  intro ends
  have member : (13 : UInt8) ∈ Decimal.text number := ends.subset (by decide)
  cases number with
  | ofNat value => exact noReturn value member
  | negSucc value =>
      rcases List.mem_cons.mp member with isMinus | member
      · exact absurd isMinus (by decide)
      · exact noReturn _ member

theorem digits_noLineEnd (value : Nat) : ¬crlf <:+: Decimal.digits value :=
  text_noLineEnd value

theorem holds_natCast_iff (value : Nat) :
    IntegerType.int64.Holds value ↔ value < countLimit := by
  have least : IntegerType.int64.least = -9223372036854775808 := by decide
  have greatest : IntegerType.int64.greatest = 9223372036854775807 := by decide
  have limit : countLimit = 9223372036854775808 := by decide
  rw [IntegerType.Holds, least, greatest, limit]
  omega

theorem read?_digits (value : Nat) :
    IntegerType.int64.read? (Decimal.digits value) =
      if value < countLimit then some (value : Int) else none := by
  split
  · rename_i small
    have read : IntegerType.int64.read? (Decimal.text value) = some (value : Int) :=
      IntegerType.read?_text rfl ((holds_natCast_iff value).mpr small)
    exact read
  · rename_i large
    have unread : IntegerType.int64.read? (Decimal.text value) = none :=
      IntegerType.read?_text_of_beyond rfl fun holds => large ((holds_natCast_iff value).mp holds)
    exact unread

theorem takeCount_digits (count : Nat) (rest : Bytes) :
    takeCount (Decimal.digits count ++ crlf ++ rest) =
      if count < countLimit then .ok (some count, rest) else .error .notCount := by
  rw [takeCount_eq, andThen_of_ok (line_of_noLineEnd (digits_noLineEnd count) rest), read?_digits]
  by_cases small : count < countLimit
  · have notNull : (count : Int) ≠ -1 := by omega
    have notNegative : ¬(count : Int) < 0 := by omega
    simp only [small, if_true, notNull, notNegative, if_false, Int.toNat_natCast]
    rfl
  · simp only [small, if_false]
    rfl

theorem utf8EncodeChar_ofNat {code : Nat} (ascii : code < 128) :
    String.utf8EncodeChar (Char.ofNat code) = [UInt8.ofNat code] := by
  have table : ∀ code : Fin 128,
      String.utf8EncodeChar (Char.ofNat code) = [UInt8.ofNat code] := by decide
  exact table ⟨code, ascii⟩

/-- Octets below 128 spell a text. -/
theorem exists_ofText_of_ascii {octets : Bytes} (ascii : ∀ octet ∈ octets, octet.toNat < 128) :
    ∃ text, octets = Bytes.ofText text := by
  refine ⟨String.ofList (octets.map fun octet => Char.ofNat octet.toNat), ?_⟩
  rw [Bytes.ofText_eq_flatMap, String.toList_ofList]
  induction octets with
  | nil => rfl
  | cons octet octets inductionHypothesis =>
      rw [List.map_cons, List.flatMap_cons, utf8EncodeChar_ofNat (ascii _ List.mem_cons_self),
        ← inductionHypothesis fun other member => ascii other (List.mem_cons_of_mem _ member),
        UInt8.ofNat_toNat]
      rfl

theorem isText_text (number : Int) : (Bytes.text? (Decimal.text number)).isNone = false := by
  have ofDigits : ∀ value, ∀ octet ∈ Decimal.digits value, octet.toNat < 128 := by
    intro value octet member
    have isDigit := List.all_eq_true.mp (Decimal.all_isDigit_digits value) octet member
    simp [Decimal.isDigit, UInt8.le_iff_toNat_le] at isDigit
    omega
  have ascii : ∀ octet ∈ Decimal.text number, octet.toNat < 128 := by
    intro octet member
    cases number with
    | ofNat value => exact ofDigits value octet member
    | negSucc value =>
        rcases List.mem_cons.mp member with rfl | member
        · decide
        · exact ofDigits _ octet member
  obtain ⟨text, same⟩ := exists_ofText_of_ascii ascii
  rw [same, Bytes.text?_ofText]
  rfl

theorem holds_toInt (value : Int64) : IntegerType.int64.Holds value.toInt := by
  have least : IntegerType.int64.least = -9223372036854775808 := by decide
  have greatest : IntegerType.int64.greatest = 9223372036854775807 := by decide
  have below := value.toInt_lt
  have above := value.le_toInt
  rw [IntegerType.Holds, least, greatest]
  omega

theorem takeInteger_text (value : Int64) (rest : Bytes) :
    takeInteger (Decimal.text value.toInt ++ crlf ++ rest) = .ok (value, rest) := by
  rw [takeInteger_eq, andThen_of_ok (line_of_noLineEnd (text_noLineEnd _) rest), isText_text,
    IntegerType.read?_text rfl (holds_toInt value)]
  simp [found]

/-! ### Counted octets -/

theorem takeExactly_encoded (data rest : Bytes) :
    takeExactly data.length (data ++ crlf ++ rest) = .ok (data, rest) := by
  have twoBehind : data ++ crlf ++ rest = data ++ 13 :: 10 :: rest := by simp [crlf]
  rw [twoBehind, takeExactly_append]
  rfl

theorem takeCounted_encoded_iff {data rest unread : Bytes} :
    takeCounted (Decimal.digits data.length ++ crlf ++ (data ++ crlf ++ rest)) =
        .ok (some data, unread) ↔
      data.length < countLimit ∧ rest = unread := by
  rw [takeCounted_eq]
  by_cases small : data.length < countLimit
  · have counted := takeCount_digits data.length (data ++ crlf ++ rest)
    rw [if_pos small] at counted
    rw [andThen_of_ok counted]
    dsimp only
    rw [andThen_of_ok (takeExactly_encoded data rest), found_eq_ok_iff]
    simp [small]
  · have counted := takeCount_digits data.length (data ++ crlf ++ rest)
    rw [if_neg small] at counted
    rw [andThen_of_error counted]
    simp [small]

/-! ## What a frame is written with -/

mutual

/-- The texts that are written as lines. -/
def lines : Frame → List String
  | .simple text | .error text => [text]
  | .integer _ | .bulk _ | .null => []
  | .array elements => linesEach elements

def linesEach : List Frame → List String
  | [] => []
  | element :: rest => element.lines ++ linesEach rest

end

mutual

/-- The counts that are written: of octets and of elements. -/
def counts : Frame → List Nat
  | .simple _ | .error _ | .integer _ | .null => []
  | .bulk data => [data.length]
  | .array elements => elements.length :: countsEach elements

def countsEach : List Frame → List Nat
  | [] => []
  | element :: rest => element.counts ++ countsEach rest

end

/-- No line of the frame holds a line end, and its counts are numbers of 64 bits. -/
structure Recoverable (frame : Frame) : Prop where
  lines : ∀ text ∈ frame.lines, ¬HasLineEnd text
  counts : ∀ count ∈ frame.counts, count < countLimit

theorem mem_linesEach {text : String} {elements : List Frame} :
    text ∈ linesEach elements ↔ ∃ element ∈ elements, text ∈ element.lines := by
  induction elements with
  | nil => simp [linesEach]
  | cons element rest inductionHypothesis => simp [linesEach, inductionHypothesis]

theorem mem_countsEach {count : Nat} {elements : List Frame} :
    count ∈ countsEach elements ↔ ∃ element ∈ elements, count ∈ element.counts := by
  induction elements with
  | nil => simp [countsEach]
  | cons element rest inductionHypothesis => simp [countsEach, inductionHypothesis]

@[simp] theorem recoverable_simple (text : String) :
    (simple text).Recoverable ↔ ¬HasLineEnd text :=
  ⟨fun recoverable => recoverable.lines text List.mem_cons_self,
    fun inner => ⟨by simpa [lines] using inner, by simp [counts]⟩⟩

@[simp] theorem recoverable_error (text : String) :
    (error text).Recoverable ↔ ¬HasLineEnd text :=
  ⟨fun recoverable => recoverable.lines text List.mem_cons_self,
    fun inner => ⟨by simpa [lines] using inner, by simp [counts]⟩⟩

@[simp] theorem recoverable_integer (value : Int64) : (integer value).Recoverable :=
  ⟨by simp [lines], by simp [counts]⟩

@[simp] theorem recoverable_null : null.Recoverable :=
  ⟨by simp [lines], by simp [counts]⟩

@[simp] theorem recoverable_bulk (data : Bytes) :
    (bulk data).Recoverable ↔ data.length < countLimit :=
  ⟨fun recoverable => recoverable.counts _ List.mem_cons_self,
    fun small => ⟨by simp [lines], by simpa [counts] using small⟩⟩

@[simp] theorem recoverable_array (elements : List Frame) :
    (array elements).Recoverable ↔
      elements.length < countLimit ∧ ∀ element ∈ elements, element.Recoverable := by
  constructor
  · intro recoverable
    refine ⟨recoverable.counts _ List.mem_cons_self, ?_⟩
    intro element member
    refine ⟨?_, ?_⟩
    · intro text line
      exact recoverable.lines text (mem_linesEach.mpr ⟨element, member, line⟩)
    · intro count counted
      exact recoverable.counts count
        (List.mem_cons_of_mem _ (mem_countsEach.mpr ⟨element, member, counted⟩))
  · rintro ⟨small, each⟩
    refine ⟨?_, ?_⟩
    · intro text line
      obtain ⟨element, member, inElement⟩ := mem_linesEach.mp line
      exact (each element member).lines text inElement
    · intro count counted
      rcases List.mem_cons.mp counted with rfl | counted
      · exact small
      · obtain ⟨element, member, inElement⟩ := mem_countsEach.mp counted
        exact (each element member).counts count inElement

/-! ## Frames -/

theorem decode?_line (mark : Mark) {octet : UInt8} (marked : Mark.ofOctet? octet = .ok mark)
    (scalar : mark ≠ .array) (contents rest : Bytes) :
    decode? (line octet contents ++ rest) = takeScalar mark (contents ++ crlf ++ rest) :=
  decode?_of_scalar marked scalar _

theorem decode?_encode_simple_iff {text : String} {rest unread : Bytes} :
    decode? (encode (.simple text) ++ rest) = .ok (.simple text, unread) ↔
      ¬HasLineEnd text ∧ rest = unread := by
  rw [encode, decode?_line .simple rfl (by decide), takeScalar_eq]
  exact (andThen_found_eq_ok_iff text Frame.simple.inj).trans takeText_ofText_iff

theorem decode?_encode_error_iff {text : String} {rest unread : Bytes} :
    decode? (encode (.error text) ++ rest) = .ok (.error text, unread) ↔
      ¬HasLineEnd text ∧ rest = unread := by
  rw [encode, decode?_line .error rfl (by decide), takeScalar_eq]
  exact (andThen_found_eq_ok_iff text Frame.error.inj).trans takeText_ofText_iff

theorem decode?_encode_integer (value : Int64) (rest : Bytes) :
    decode? (encode (.integer value) ++ rest) = .ok (.integer value, rest) := by
  rw [encode, decode?_line .integer rfl (by decide), takeScalar_eq]
  exact (andThen_found_eq_ok_iff value Frame.integer.inj).mpr (takeInteger_text value rest)

theorem decode?_encode_null (rest : Bytes) :
    decode? (encode .null ++ rest) = .ok (.null, rest) := by
  have counted : takeCount (Decimal.text (-1) ++ crlf ++ rest) = .ok (none, rest) := by
    rw [takeCount_eq, andThen_of_ok (line_of_noLineEnd (text_noLineEnd _) rest),
      IntegerType.read?_text rfl (by decide)]
    rfl
  have taken : takeCounted (Decimal.text (-1) ++ crlf ++ rest) = .ok (none, rest) := by
    rw [takeCounted_eq, andThen_of_ok counted]
    rfl
  rw [encode, decode?_line .bulk rfl (by decide), takeScalar_eq]
  dsimp only
  rw [andThen_of_ok taken]
  rfl

theorem decode?_encode_bulk_iff {data rest unread : Bytes} :
    decode? (encode (.bulk data) ++ rest) = .ok (.bulk data, unread) ↔
      data.length < countLimit ∧ rest = unread := by
  have injective : ∀ {other : Option Bytes},
      other.elim Frame.null .bulk = (some data).elim Frame.null .bulk → other = some data := by
    intro other same
    cases other with
    | none => cases same
    | some octets => exact congrArg some (Frame.bulk.inj same)
  rw [encode, List.append_assoc, List.append_assoc, ← List.append_assoc data,
    decode?_line .bulk rfl (by decide), takeScalar_eq]
  exact (andThen_found_eq_ok_iff (some data) injective).trans takeCounted_encoded_iff

/-- An array is read by its elements, if their number is a count. -/
theorem decode?_encode_array_iff {elements : List Frame} {rest unread : Bytes} :
    decode? (encode (.array elements) ++ rest) = .ok (.array elements, unread) ↔
      elements.length < countLimit ∧
        frames elements.length (encodeEach elements ++ rest) = .ok (elements, unread) := by
  have counted := takeCount_digits elements.length (encodeEach elements ++ rest)
  have read : decode? (encode (.array elements) ++ rest) =
      andThen takeCount FrontReader.elements
        (Decimal.digits elements.length ++ crlf ++ (encodeEach elements ++ rest)) := by
    rw [encode, List.append_assoc]
    exact decode?_of_array rfl _
  rw [read]
  by_cases small : elements.length < countLimit
  · rw [if_pos small] at counted
    rw [andThen_of_ok counted, FrontReader.elements]
    exact (andThen_found_eq_ok_iff elements Frame.array.inj).trans (by simp [small])
  · rw [if_neg small] at counted
    rw [andThen_of_error counted]
    simp [small]

mutual

/-- Exactly the recoverable frames are read back, and nothing behind them is touched. -/
theorem decode?_encode_iff (frame : Frame) {rest unread : Bytes} :
    decode? (frame.encode ++ rest) = .ok (frame, unread) ↔ frame.Recoverable ∧ rest = unread :=
  match frame with
  | .simple text => by rw [decode?_encode_simple_iff, recoverable_simple]
  | .error text => by rw [decode?_encode_error_iff, recoverable_error]
  | .integer value => by simp [decode?_encode_integer]
  | .bulk data => by rw [decode?_encode_bulk_iff, recoverable_bulk]
  | .null => by simp [decode?_encode_null]
  | .array elements => by
      rw [decode?_encode_array_iff, frames_encodeEach_iff elements, recoverable_array, and_assoc]

/-- Frames in a row are read back one by one. -/
theorem frames_encodeEach_iff (elements : List Frame) {rest unread : Bytes} :
    frames elements.length (encodeEach elements ++ rest) = .ok (elements, unread) ↔
      (∀ element ∈ elements, element.Recoverable) ∧ rest = unread :=
  match elements with
  | [] => by
      rw [List.length_nil, frames_zero, found_eq_ok_iff]
      simp [encodeEach]
  | element :: elements => by
      rw [List.length_cons, frames_succ, encodeEach, List.append_assoc, andThen_eq_ok_iff,
        List.forall_mem_cons]
      constructor
      · rintro ⟨first, between, read, later⟩
        obtain ⟨others, behind, readOthers, whole⟩ := andThen_eq_ok_iff.mp later
        obtain ⟨same, rfl⟩ := found_eq_ok_iff.mp whole
        cases same
        obtain ⟨recoverable, rfl⟩ := (decode?_encode_iff element).mp read
        obtain ⟨each, rfl⟩ := (frames_encodeEach_iff elements).mp readOthers
        exact ⟨⟨recoverable, each⟩, rfl⟩
      · rintro ⟨⟨recoverable, each⟩, rfl⟩
        refine ⟨element, encodeEach elements ++ rest, ?_, ?_⟩
        · exact (decode?_encode_iff element).mpr ⟨recoverable, rfl⟩
        · rw [andThen_of_ok ((frames_encodeEach_iff elements).mpr ⟨each, rfl⟩)]
          rfl

end

/-- The harvest of written frames is these frames, and then that of what is behind them. -/
theorem harvest_encodeEach {written : List Frame}
    (recoverable : ∀ frame ∈ written, frame.Recoverable) (limit : Nat) (rest : Bytes) :
    harvest limit (encodeEach written ++ rest) =
      { harvest limit rest with frames := written ++ (harvest limit rest).frames } := by
  induction written with
  | nil => rfl
  | cons frame written inductionHypothesis =>
      obtain ⟨first, others⟩ := List.forall_mem_cons.mp recoverable
      rw [encodeEach, List.append_assoc,
        harvest_of_decode? ((decode?_encode_iff frame).mpr ⟨first, rfl⟩),
        inductionHypothesis others]
      rfl

/-- What a harvest that begins with a frame was read from. -/
theorem decode?_of_harvest {limit : Nat} {buffer left : Bytes} {frame : Frame}
    {frames : List Frame} {failure : Option DecodingError}
    (harvested : harvest limit buffer = ⟨frame :: frames, failure, left⟩) :
    ∃ unread, decode? buffer = .ok (frame, unread) ∧
      harvest limit unread = ⟨frames, failure, left⟩ := by
  rw [harvest] at harvested
  split at harvested
  · cases harvested
  · cases harvested
  · rename_i first unread read
    cases harvested
    exact ⟨unread, decode?_of_next? read, rfl⟩

/-- Frames are read back from their wire forms exactly if all of them are recoverable. -/
theorem harvest_encodeEach_iff (limit : Nat) (written : List Frame) :
    harvest limit (encodeEach written) = ⟨written, none, []⟩ ↔
      ∀ frame ∈ written, frame.Recoverable := by
  have nothing : harvest limit [] = ⟨[], none, []⟩ :=
    harvest_of_incomplete decode?_nil (Nat.zero_le limit)
  constructor
  · intro harvested
    induction written with
    | nil => exact nofun
    | cons frame written inductionHypothesis =>
        obtain ⟨unread, read, later⟩ := decode?_of_harvest harvested
        obtain ⟨recoverable, rfl⟩ := (decode?_encode_iff frame).mp read
        exact List.forall_mem_cons.mpr ⟨recoverable, inductionHypothesis later⟩
  · intro recoverable
    have read := harvest_encodeEach recoverable limit []
    rw [List.append_nil, nothing] at read
    simpa using read

/-- Reading a written frame yields that frame and leaves what is behind it, for exactly those frames
none of whose lines holds a line end. So the wire forms of several frames are split into the same
frames, and the request of a client is read as the command with its name and its arguments. -/
theorem decoding_undoes_encoding :
    (∀ (frame : Frame) (rest : Bytes),
      decode? (frame.encode ++ rest) = .ok (frame, rest) ↔ frame.Recoverable) ∧
    (∀ (limit : Nat) (written : List Frame), (∀ frame ∈ written, frame.Recoverable) →
      harvest limit (encodeEach written) = ⟨written, none, []⟩) ∧
    (∀ (nameOctets : Bytes) (name : String) (arguments : List Bytes) (rest : Bytes),
      Bytes.text? nameOctets = some name → arguments.length + 1 < countLimit →
      (∀ octets ∈ nameOctets :: arguments, octets.length < countLimit) →
      ∃ frame,
        decode? (encode (.array ((nameOctets :: arguments).map .bulk)) ++ rest) =
          .ok (frame, rest) ∧
        Command.ofFrame? frame = .ok (Command.new name arguments)) := by
  refine ⟨?_, ?_, ?_⟩
  · intro frame rest
    simp [decode?_encode_iff]
  · intro limit written recoverable
    exact (harvest_encodeEach_iff limit written).mpr recoverable
  · intro nameOctets name arguments rest isText few short
    refine ⟨_, (decode?_encode_iff _).mpr ⟨?_, rfl⟩, ?_⟩
    · rw [recoverable_array]
      refine ⟨by simpa using few, ?_⟩
      intro element member
      obtain ⟨octets, octetsMember, rfl⟩ := List.mem_map.mp member
      exact (recoverable_bulk octets).mpr (short octets octetsMember)
    · rw [Bytes.text?_eq_some_iff.mp isText]
      exact Command.ofFrame?_requestFrame name arguments

/-- Lines with a lone half of a line end, octets that look like a line, and a request. -/
theorem half_line_ends_read_back :
    decode?
          (encode (.array [.simple "a\r", .array [.bulk [43, 13, 10], .null, .error "\nb"]])
            ++ [10])
        = .ok (.array [.simple "a\r", .array [.bulk [43, 13, 10], .null, .error "\nb"]], [10]) ∧
      harvest 1 (encodeEach [.simple "a\r", .integer (-7)])
        = ⟨[.simple "a\r", .integer (-7)], none, []⟩ ∧
      ∃ frame,
        decode? (encode (.array ([[103, 195, 169], [13, 10]].map .bulk)) ++ [42]) =
          .ok (frame, [42]) ∧
        Command.ofFrame? frame = .ok (Command.new "gé" [[13, 10]]) := by
  obtain ⟨single, several, request⟩ := decoding_undoes_encoding
  refine ⟨(single _ _).mpr ⟨by decide, by decide⟩, several 1 _ ?_,
    request _ _ _ _ (by decide) (by decide) (by decide)⟩
  rw [List.forall_mem_cons, List.forall_mem_singleton]
  exact ⟨⟨by decide, by decide⟩, recoverable_integer _⟩

end Frame

end RespServer
