import EventSocket.Proofs.Frame.Scanning
import EventSocket.Proofs.Frame.Segments

/-!
A line is blank, or a header, or neither, and a decoder takes it so.
-/

namespace EventSocket

theorem splitColon_eq_none_iff {chars : List Char} : splitColon chars = none ↔ ':' ∉ chars := by
  constructor
  · intro h hmem
    obtain ⟨before, value, rfl, hbefore⟩ := List.eq_append_cons_of_mem hmem
    rw [splitColon_cons hbefore] at h
    cases h
  · intro h
    have hdrop : chars.dropWhile (· != ':') = [] := by
      rw [List.dropWhile_eq_nil_iff]
      intro c hc
      simpa using fun e : c = ':' => h (e ▸ hc)
    simp [splitColon, hdrop]

theorem splitColon_eq_some_iff {chars name value : List Char} :
    splitColon chars = some (name, value) ↔ chars = name ++ ':' :: value ∧ ':' ∉ name := by
  constructor
  · intro h
    by_cases hmem : ':' ∈ chars
    · obtain ⟨before, after, rfl, hbefore⟩ := List.eq_append_cons_of_mem hmem
      rw [splitColon_cons hbefore, Option.some.injEq, Prod.mk.injEq] at h
      obtain ⟨rfl, rfl⟩ := h
      exact ⟨rfl, hbefore⟩
    · rw [splitColon_eq_none_iff.mpr hmem] at h
      cases h
  · rintro ⟨rfl, hname⟩
    exact splitColon_cons hname value

theorem headerOfLine_eq_error_iff {line : String} {fault : Fault} :
    headerOfLine line = .error fault ↔ fault = .invalidHeader line ∧ (':' ∉ line.toList ∨
      ∃ name value, line.toList = name ++ ':' :: value ∧ ∀ c ∈ name, Text.isBlank c) := by
  cases hsplit : splitColon line.toList with
  | none =>
    have hcolon := splitColon_eq_none_iff.mp hsplit
    simp only [headerOfLine, hsplit, Except.error.injEq, hcolon, not_false_eq_true, true_or,
      and_true]
    exact eq_comm
  | some split =>
    obtain ⟨name, value⟩ := split
    obtain ⟨hline, hname⟩ := splitColon_eq_some_iff.mp hsplit
    have hcolon : ':' ∈ line.toList := by simp [hline]
    have hblank : Text.trimChars name = [] ↔
        ∃ name value, line.toList = name ++ ':' :: value ∧ ∀ c ∈ name, Text.isBlank c := by
      constructor
      · intro h
        exact ⟨name, value, hline, Text.trimChars_eq_nil_iff.mp h⟩
      · rintro ⟨other, after, hother, hblank⟩
        have hnocolon : ':' ∉ other := fun h => absurd (hblank ':' h) (by decide)
        have := splitColon_eq_some_iff.mpr ⟨hother, hnocolon⟩
        rw [hsplit, Option.some.injEq, Prod.mk.injEq] at this
        rw [this.1]
        exact Text.trimChars_of_blank hblank
    by_cases hempty : Text.trimChars name = []
    · simp only [headerOfLine, hsplit, hempty, List.isEmpty_nil, ↓reduceIte, Except.error.injEq,
        hblank.mp hempty, or_true, and_true]
      exact eq_comm
    · have hsome : ¬ ∃ name value, line.toList = name ++ ':' :: value ∧
          ∀ c ∈ name, Text.isBlank c := fun h => hempty (hblank.mpr h)
      have hok : headerOfLine line ≠ .error fault := by simp [headerOfLine, hsplit, hempty]
      exact ⟨fun h => absurd h hok, fun h => absurd h.2 (not_or.mpr ⟨not_not_intro hcolon, hsome⟩)⟩

theorem exists_ending (text : String) :
    ∃ ending : LineEnding, text.toList = (Text.dropReturn text).toList ++ ending.mark := by
  by_cases hreturn : text.toList.getLast? = some '\r'
  · refine ⟨.returnFeed, ?_⟩
    simp [Text.dropReturn, hreturn, LineEnding.mark, List.dropLast_append_getLast? _ hreturn]
  · refine ⟨.feed, ?_⟩
    simp [Text.dropReturn, hreturn, LineEnding.mark]

/-- A line that reads as a header is written as one: whatever else stands in it is blanks. -/
theorem exists_writtenHeader {text name value : String} (hline : '\n' ∉ text.toList)
    (h : headerOfLine (Text.dropReturn text) = .ok (name, value)) :
    ∃ header : WrittenHeader, header.pair = (name, value) ∧
      text = String.ofList (header.lineChars ++ header.ending.mark) := by
  obtain ⟨ending, htext⟩ := exists_ending text
  cases hsplit : splitColon (Text.dropReturn text).toList with
  | none => simp [headerOfLine, hsplit] at h
  | some split =>
    obtain ⟨before, after⟩ := split
    obtain ⟨hchars, hcolon⟩ := splitColon_eq_some_iff.mp hsplit
    by_cases hempty : Text.trimChars before = []
    · simp [headerOfLine, hsplit, hempty] at h
    · simp only [headerOfLine, hsplit, List.isEmpty_iff, hempty, ↓reduceIte, Except.ok.injEq,
        Prod.mk.injEq] at h
      obtain ⟨rfl, rfl⟩ := h
      obtain ⟨left, right, hbefore, hleft, hright⟩ := Text.exists_blank_trimChars before
      obtain ⟨left', right', hafter, hleft', hright'⟩ := Text.exists_blank_trimChars after
      have hparts : text.toList =
          left ++ Text.trimChars before ++ right ++
            ':' :: (left' ++ Text.trimChars after ++ right') ++ ending.mark := by
        rw [← hbefore, ← hafter, ← hchars, htext]
      rw [hparts] at hline
      rw [hbefore] at hcolon
      simp only [List.mem_append, List.mem_cons, not_or] at hline hcolon
      let header : WrittenHeader :=
        { name := String.ofList (Text.trimChars before)
          value := String.ofList (Text.trimChars after)
          beforeName := ⟨left, hleft, hline.1.1.1.1⟩
          afterName := ⟨right, hright, hline.1.1.2⟩
          beforeValue := ⟨left', hleft', hline.1.2.2.1.1⟩
          afterValue := ⟨right', hright', hline.1.2.2.2⟩
          ending := ending
          name_ne := by simpa using hempty
          name_trim := by simp [Text.trim, Text.trimChars_trimChars]
          name_oneLine := by simpa using hline.1.1.1.2
          name_noColon := by simpa using hcolon.1.2
          value_trim := by simp [Text.trim, Text.trimChars_trimChars]
          value_oneLine := by simpa using hline.1.2.2.1.2 }
      refine ⟨header, rfl, ?_⟩
      rw [← text.ofList_toList, hparts]
      simp [header, WrittenHeader.lineChars, WrittenHeader.nameChars, WrittenHeader.valueChars]

theorem announcedLength_of_none {value : String}
    (h : ∀ count < lengthLimit, ¬ Text.Numeral value count) :
    announcedLength value = .error (.invalidHeaderValue contentLengthName value) := by
  cases hvalue : Text.natural? lengthLimit value with
  | none => simp [announcedLength, hvalue]
  | some count =>
    obtain ⟨hnumeral, hcount⟩ := Text.natural?_eq_some_iff.mp hvalue
    exact absurd hnumeral (h count hcount)

theorem announcedLength_of_long {value : String} {count : Nat} (h : Text.Numeral value count)
    (hcount : count < lengthLimit) (hlong : bodyLimit < count) :
    announcedLength value = .error (.stream (.bodyTooLong count bodyLimit)) := by
  simp [announcedLength, Text.natural?_of_numeral h hcount, hlong]

theorem length_cases (value : String) :
    (∃ count ≤ bodyLimit, Text.Numeral value count) ∨
      (∃ count, Text.Numeral value count ∧ count < lengthLimit ∧ bodyLimit < count) ∨
        ∀ count < lengthLimit, ¬ Text.Numeral value count := by
  cases hvalue : Text.natural? lengthLimit value with
  | none =>
    refine Or.inr (Or.inr ?_)
    intro count hcount hnumeral
    rw [Text.natural?_of_numeral hnumeral hcount] at hvalue
    cases hvalue
  | some count =>
    obtain ⟨hnumeral, hcount⟩ := Text.natural?_eq_some_iff.mp hvalue
    by_cases hlong : count ≤ bodyLimit
    · exact Or.inl ⟨count, hlong, hnumeral⟩
    · exact Or.inr (Or.inl ⟨count, hnumeral, hcount, Nat.lt_of_not_le hlong⟩)

theorem line_cases {line : List UInt8} (hline : lineFeed ∉ line) :
    (∃ ending : LineEnding, line ++ [lineFeed] = ending.bytes) ∨
      (∃ header : WrittenHeader, header.Measured ∧ line ++ [lineFeed] = header.bytes) ∨
      ∃ fault, BadLine line fault := by
  cases htext : String.fromUTF8? line.toByteArray with
  | none => exact Or.inr (Or.inr ⟨_, .notText (Text.fromUTF8?_eq_none_iff.mp htext)⟩)
  | some text =>
    obtain rfl := Text.codes_of_fromUTF8? htext
    rw [Text.lineFeed_mem_codes] at hline
    by_cases hblank : Text.dropReturn text = ""
    · obtain ⟨ending, hending⟩ := exists_ending text
      refine Or.inl ⟨ending, ?_⟩
      rw [ending.bytes_eq, ← text.ofList_toList, hending, hblank]
      rfl
    · cases hheader : headerOfLine (Text.dropReturn text) with
      | error fault =>
        obtain ⟨rfl, hname⟩ := headerOfLine_eq_error_iff.mp hheader
        exact Or.inr (Or.inr ⟨_, .noHeader hblank hname⟩)
      | ok pair =>
        obtain ⟨header, -, rfl⟩ := exists_writtenHeader hline hheader
        rw [← header.bytes_eq]
        by_cases hname : header.name = contentLengthName
        · rcases length_cases header.value with hcount | ⟨count, hvalue, hcount, hlong⟩ | hnone
          · exact Or.inr (Or.inl ⟨header, fun _ => hcount, rfl⟩)
          · exact Or.inr (Or.inr ⟨_, .tooLong header hname hvalue hcount hlong⟩)
          · exact Or.inr (Or.inr ⟨_, .noLength header hname hnone⟩)
        · exact Or.inr (Or.inl ⟨header, fun h => absurd h hname, rfl⟩)

namespace Decoder

variable {read : Array (String × String)} {length : Option Nat}

theorem readHeaderLine_of_error {line : String} {fault : Fault}
    (h : headerOfLine line = .error fault) : readHeaderLine read length line = .error fault := by
  simp [readHeaderLine, h, bind, Except.bind]

theorem readHeaderLine_of_length_error {line value : String} {fault : Fault}
    (h : headerOfLine line = .ok (contentLengthName, value))
    (hlength : announcedLength value = .error fault) :
    readHeaderLine read length line = .error fault := by
  simp [readHeaderLine, h, hlength, bind, Except.bind]

theorem readLine_bad {line : List UInt8} {fault : Fault} (h : BadLine line fault) :
    readLine read length line.toByteArray = (.fault fault, .headers read length) := by
  cases h with
  | notText h => exact readLine_of_notText (Text.fromUTF8?_eq_none_iff.mpr h)
  | noHeader hsome hname =>
    exact readLine_of_fault (Text.fromUTF8?_codes _) hsome
      (readHeaderLine_of_error (headerOfLine_eq_error_iff.mpr ⟨rfl, hname⟩))
  | noLength header hname hvalue =>
    have hpair := header.headerOfLine_line
    rw [WrittenHeader.pair, hname] at hpair
    exact readLine_of_fault (Text.fromUTF8?_codes _) header.dropReturn_line_ne
      (readHeaderLine_of_length_error hpair (announcedLength_of_none hvalue))
  | tooLong header hname hvalue hcount hlong =>
    have hpair := header.headerOfLine_line
    rw [WrittenHeader.pair, hname] at hpair
    exact readLine_of_fault (Text.fromUTF8?_codes _) header.dropReturn_line_ne
      (readHeaderLine_of_length_error hpair (announcedLength_of_long hvalue hcount hlong))

theorem readBody_of_notText {bytes : ByteArray} (h : String.fromUTF8? bytes = none) :
    readBody read bytes = .fault (.stream .bodyNotText) := by
  simp [readBody, h]

/-- A header that gives a length is remembered for it, any other only for itself. -/
theorem readHeaderLine_measured (read : Array (String × String)) {header : WrittenHeader}
    (h : header.Measured) {headers : List WrittenHeader} (hasks : Asks headers length) :
    ∃ length', Asks (headers ++ [header]) length' ∧
      readHeaderLine read length
          (Text.dropReturn (String.ofList (header.lineChars ++ header.ending.mark))) =
        .ok (.headers (read.push header.pair) length') := by
  by_cases hname : header.name = contentLengthName
  · obtain ⟨count, hcount, hvalue⟩ := h hname
    have hpair := header.headerOfLine_line
    refine ⟨some count, (asks_append_length hname _).mpr ⟨count, rfl, hvalue⟩, ?_⟩
    rw [WrittenHeader.pair, hname] at hpair ⊢
    exact readHeaderLine_of_length hpair (announcedLength_of_numeral hvalue hcount)
  · exact ⟨length, (asks_append_other hname length).mpr hasks,
      readHeaderLine_of_ne header.headerOfLine_line hname⟩

end Decoder

theorem LineEnding.mark_oneLine (ending : LineEnding) : '\n' ∉ ending.mark := by
  cases ending <;> decide

theorem LineEnding.dropReturn_mark (ending : LineEnding) :
    Text.dropReturn (String.ofList ending.mark) = "" := by
  cases ending <;> decide

theorem splitLine_codes {chars : List Char} (h : '\n' ∉ chars) (more : List UInt8) :
    splitLine (Text.codes (String.ofList (chars ++ ['\n'])) ++ more) =
      some (Text.codes (String.ofList chars), more) := by
  have hline : lineFeed ∉ Text.codes (String.ofList chars) := by
    rwa [Text.lineFeed_mem_codes, String.toList_ofList]
  rw [Text.codes_line, List.append_assoc]
  exact splitLine_line hline more

namespace DecoderView

theorem turn_line {read : Array (String × String)} {length : Option Nat} {chars : List Char}
    {turn : DecoderTurn} {mode : DecoderMode} (h : '\n' ∉ chars)
    (hread : Decoder.readLine read length (Text.codes (String.ofList chars)).toByteArray =
      (turn, mode)) (more : List UInt8) :
    (DecoderView.mk (.headers read length)
        (Text.codes (String.ofList (chars ++ ['\n'])) ++ more)).turn = (turn, ⟨mode, more⟩) := by
  rw [turn_headers_some (splitLine_codes h more), hread]

theorem turn_separator (ending : LineEnding) (more : List UInt8) :
    (fresh (ending.bytes ++ more)).turn = (.advanced, fresh more) :=
  turn_line ending.mark_oneLine
    (Decoder.readLine_of_separator (Text.fromUTF8?_codes _) ending.dropReturn_mark) more

theorem turn_header {header : WrittenHeader} {read : Array (String × String)}
    {length : Option Nat} {mode : DecoderMode}
    (hread : Decoder.readHeaderLine read length
      (Text.dropReturn (String.ofList (header.lineChars ++ header.ending.mark))) = .ok mode)
    (more : List UInt8) :
    (DecoderView.mk (.headers read length) (header.bytes ++ more)).turn =
      (.advanced, ⟨mode, more⟩) := by
  have hline : '\n' ∉ header.lineChars ++ header.ending.mark := by
    simp [header.lineChars_oneLine, header.ending.mark_oneLine]
  have hturn := turn_line hline (Decoder.readLine_of_header (Text.fromUTF8?_codes _)
    header.dropReturn_line_ne hread) more
  rwa [Text.codes_line, ← header.bytes_eq] at hturn

theorem next_separators (separators : List LineEnding) (more : List UInt8) :
    (fresh (Text.codes (String.ofList (separators.flatMap LineEnding.chars)) ++ more)).next =
      (fresh more).next := by
  induction separators with
  | nil => simp
  | cons ending separators ih =>
    rw [List.flatMap_cons, String.ofList_append, Text.codes_append, List.append_assoc]
    exact (next_of_advanced (turn_separator ending _)).trans ih

theorem next_header (header : WrittenHeader) {read : Array (String × String)}
    {length : Option Nat} {mode : DecoderMode}
    (hread : Decoder.readHeaderLine read length
      (Text.dropReturn (String.ofList (header.lineChars ++ header.ending.mark))) = .ok mode)
    (more : List UInt8) :
    (DecoderView.mk (.headers read length)
        (Text.codes (String.ofList header.chars) ++ more)).next = next ⟨mode, more⟩ :=
  next_of_advanced (turn_header hread more)

theorem turn_closing {read : List (String × String)} (hread : read ≠ []) (ending : LineEnding)
    (more : List UInt8) :
    (DecoderView.mk (.headers read.toArray none)
        (Text.codes (String.ofList ending.chars) ++ more)).turn =
      (.frame (Frame.ofHeaders read []), fresh more) := by
  have hclosing : Decoder.readLine read.toArray none
      (Text.codes (String.ofList ending.mark)).toByteArray =
        (.frame (Frame.ofHeaders read.toArray.toList []), .fresh) :=
    Decoder.readLine_of_closing (Text.fromUTF8?_codes _) ending.dropReturn_mark
      (by simpa using hread)
  exact turn_line ending.mark_oneLine hclosing more

theorem turn_closing_length {read : List (String × String)} (hread : read ≠ []) (count : Nat)
    (ending : LineEnding) (more : List UInt8) :
    (DecoderView.mk (.headers read.toArray (some count))
        (Text.codes (String.ofList ending.chars) ++ more)).turn =
      (.advanced, ⟨.body read.toArray count, more⟩) := by
  have hclosing : Decoder.readLine read.toArray (some count)
      (Text.codes (String.ofList ending.mark)).toByteArray =
        (.advanced, .body read.toArray count) :=
    Decoder.readLine_of_closing_length (Text.fromUTF8?_codes _) ending.dropReturn_mark
      (by simpa using hread)
  exact turn_line ending.mark_oneLine hclosing more

theorem turn_bad (read : Array (String × String)) (length : Option Nat) {line : List UInt8}
    {fault : Fault} (hline : lineFeed ∉ line) (hbad : BadLine line fault) (more : List UInt8) :
    (DecoderView.mk (.headers read length) (line ++ lineFeed :: more)).turn =
      (.fault fault, ⟨.headers read length, more⟩) := by
  rw [turn_headers_some (splitLine_line hline more), Decoder.readLine_bad hbad]

theorem turn_body (read : List (String × String)) (body : String) (more : List UInt8) :
    (DecoderView.mk (.body read.toArray body.utf8ByteSize) (Text.codes body ++ more)).turn =
      (.frame (Frame.ofHeaders read (Text.lines body)), fresh more) := by
  have hlength := Text.length_codes body
  rw [turn_body_of_le (by rw [List.length_append]; omega), ← hlength, List.take_left,
    List.drop_left]
  simp [Decoder.readBody, Text.fromUTF8?_codes]

theorem turn_body_notText (read : Array (String × String)) {body : List UInt8}
    (h : ∀ text, Text.codes text ≠ body) (more : List UInt8) :
    (DecoderView.mk (.body read body.length) (body ++ more)).turn =
      (.fault (.stream .bodyNotText), fresh more) := by
  rw [turn_body_of_le (by rw [List.length_append]; omega), List.take_left, List.drop_left,
    Decoder.readBody_of_notText (Text.fromUTF8?_eq_none_iff.mpr h)]

end DecoderView

end EventSocket
