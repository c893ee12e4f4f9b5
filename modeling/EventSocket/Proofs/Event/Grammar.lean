import EventSocket.Event.Plain
import EventSocket.Proofs.Fields
import EventSocket.Proofs.Frame.Lines
import EventSocket.Proofs.Text.Percent

/-!
The grammar of the plain form. The lines up to the one that gives the length are headers, or empty;
whatever follows is the body, and nothing in it makes the event unreadable.
-/

namespace EventSocket.Event

/-- What stands before the first colon, without the blanks around it. -/
def namePart (line : String) : String :=
  Text.trim (String.ofList (line.toList.takeWhile (· != ':')))

/-- What stands behind the first colon, without the blanks around it. -/
def valuePart (line : String) : String :=
  Text.trim (String.ofList (line.toList.dropWhile (· != ':')).tail)

/-- A line with something in it that is no header. -/
def Malformed (line : String) : Prop :=
  line ≠ "" ∧ (':' ∉ line.toList ∨ namePart line = "")

instance (line : String) : Decidable (Malformed line) :=
  inferInstanceAs (Decidable (line ≠ "" ∧ (':' ∉ line.toList ∨ namePart line = "")))

def HasName (name line : String) : Prop := ':' ∈ line.toList ∧ namePart line = name

instance (name line : String) : Decidable (HasName name line) :=
  inferInstanceAs (Decidable (':' ∈ line.toList ∧ namePart line = name))

/-- The lines up to and including the first that gives the length. -/
def headLines (lines : List String) : List String :=
  lines.take (lines.findIdx (HasName contentLengthName ·) + 1)

def linesBehind (lines : List String) : List String :=
  lines.drop (lines.findIdx (HasName contentLengthName ·) + 1)

/-- The last line of the head with that name. -/
def lastLine? (name : String) (lines : List String) : Option String :=
  ((headLines lines).filter (HasName name ·)).getLast?

/-! The lines of the head, one by one. -/

variable {line : String} {lines : List String}

theorem HasName.line_ne {name : String} (h : HasName name line) : line ≠ "" := by
  rintro rfl
  simp [HasName] at h

theorem headLines_cons_of_name (h : HasName contentLengthName line) (rest : List String) :
    headLines (line :: rest) = [line] ∧ linesBehind (line :: rest) = rest := by
  simp [headLines, linesBehind, List.findIdx_cons, h]

theorem headLines_cons_of_not (h : ¬ HasName contentLengthName line) (rest : List String) :
    headLines (line :: rest) = line :: headLines rest ∧
      linesBehind (line :: rest) = linesBehind rest := by
  simp [headLines, linesBehind, List.findIdx_cons, h]

theorem splitColon_of_mem {chars : List Char} (h : ':' ∈ chars) :
    splitColon chars =
      some (chars.takeWhile (· != ':'), (chars.dropWhile (· != ':')).tail) := by
  obtain ⟨before, after, rfl, hbefore⟩ := List.eq_append_cons_of_mem h
  have hother : ∀ c ∈ before, (c != ':') = true := fun c hc => by
    simpa using fun e : c = ':' => hbefore (e ▸ hc)
  simp [splitColon_cons hbefore, List.takeWhile_append_of_pos hother,
    List.dropWhile_append_of_pos hother]

theorem headerOfLine_of_malformed (h : Malformed line) :
    headerOfLine line = .error (.invalidHeader line) := by
  by_cases hcolon : ':' ∈ line.toList
  · have hname : namePart line = "" := h.2.resolve_left (not_not_intro hcolon)
    simp only [namePart, Text.trim, String.toList_ofList, String.ofList_eq_empty_iff] at hname
    simp [headerOfLine, splitColon_of_mem hcolon, hname]
  · simp [headerOfLine, splitColon_eq_none_iff.mpr hcolon]

theorem named_of_not (hne : line ≠ "") (h : ¬ Malformed line) :
    ':' ∈ line.toList ∧ namePart line ≠ "" := by
  simpa [Malformed, hne] using h

theorem headerOfLine_of_not (hne : line ≠ "") (h : ¬ Malformed line) :
    headerOfLine line = .ok (namePart line, valuePart line) := by
  obtain ⟨hcolon, hname⟩ := named_of_not hne h
  simp only [namePart, Text.trim, String.toList_ofList, ne_eq, String.ofList_eq_empty_iff] at hname
  simp [headerOfLine, splitColon_of_mem hcolon, hname, namePart, valuePart, Text.trim]

/-- What a line of the head gives its name. -/
def pairOf (line : String) : String × String :=
  (namePart line, Text.percentDecode (valuePart line))

def pairs (head : List String) : List (String × String) := (head.filter (· ≠ "")).map pairOf

theorem pairs_cons_of_ne (h : line ≠ "") (rest : List String) :
    pairs (line :: rest) = pairOf line :: pairs rest := by
  simp [pairs, h]

theorem readHead_empty (headers : Fields) (rest : List String) :
    readHead headers ("" :: rest) = readHead headers rest := rfl

theorem readHead_of_malformed (h : Malformed line) (headers : Fields) (rest : List String) :
    readHead headers (line :: rest) = .error (.invalidHeader line) := by
  simp [readHead, h.1, headerOfLine_of_malformed h]

theorem readHead_of_name (h : HasName contentLengthName line) (hwell : ¬ Malformed line)
    (headers : Fields) (rest : List String) :
    readHead headers (line :: rest) = .ok (headers.setAll [pairOf line], rest) := by
  simp [readHead, h.line_ne, headerOfLine_of_not h.line_ne hwell, h.2, pairOf]

theorem readHead_of_not (hne : line ≠ "") (hwell : ¬ Malformed line)
    (h : ¬ HasName contentLengthName line) (headers : Fields) (rest : List String) :
    readHead headers (line :: rest) = readHead (headers.setAll [pairOf line]) rest := by
  have hname : namePart line ≠ contentLengthName :=
    fun hname => h ⟨(named_of_not hne hwell).1, hname⟩
  simp [readHead, hne, headerOfLine_of_not hne hwell, hname, pairOf]

theorem readHead_eq (headers : Fields) (lines : List String) :
    readHead headers lines =
      match (headLines lines).find? (Malformed ·) with
      | some line => .error (.invalidHeader line)
      | none => .ok (headers.setAll (pairs (headLines lines)), linesBehind lines) := by
  -- A line gives the length, or is malformed, or empty, or another header; only behind the last two
  -- does the head go on.
  induction lines generalizing headers with
  | nil => rfl
  | cons line rest ih =>
    by_cases hname : HasName contentLengthName line
    · obtain ⟨hhead, hbehind⟩ := headLines_cons_of_name hname rest
      rw [hhead, hbehind]
      by_cases hmalformed : Malformed line
      · rw [readHead_of_malformed hmalformed]
        simp [hmalformed]
      · rw [readHead_of_name hname hmalformed, pairs_cons_of_ne hname.line_ne]
        simp [hmalformed, pairs]
    · obtain ⟨hhead, hbehind⟩ := headLines_cons_of_not hname rest
      rw [hhead, hbehind]
      by_cases hmalformed : Malformed line
      · rw [readHead_of_malformed hmalformed]
        simp [hmalformed]
      rw [List.find?_cons_of_neg (by simpa using hmalformed)]
      by_cases hempty : line = ""
      · rw [hempty, readHead_empty, ih]
        simp [pairs]
      · rw [readHead_of_not hempty hmalformed hname, ih, pairs_cons_of_ne hempty]
        simp

/-! The event as a whole. -/

theorem get?_pairs (hwell : ∀ line ∈ headLines lines, ¬ Malformed line) (name : String) :
    (Fields.empty.setAll (pairs (headLines lines))).get? name =
      (lastLine? name lines).map fun line => Text.percentDecode (valuePart line) := by
  have hsame : ∀ line ∈ headLines lines,
      (((pairOf line).1 = name : Bool) && (line ≠ "" : Bool)) = (HasName name line : Bool) := by
    intro line hline
    rw [← Bool.decide_and, decide_eq_decide]
    constructor
    · rintro ⟨hname, hne⟩
      exact ⟨(named_of_not hne (hwell line hline)).1, hname⟩
    · exact fun h => ⟨h.2, h.line_ne⟩
  rw [Fields.get?_setAll, Fields.get?_empty, Option.or_none, Fields.lastValue?, pairs,
    List.filter_map, List.filter_filter, List.getLast?_map, Option.map_map, lastLine?,
    ← List.filter_congr hsame]
  simp only [Function.comp_def, pairOf]

theorem ofLines_of_malformed (h : (headLines lines).find? (Malformed ·) = some line) :
    ofLines lines = .error (.invalidHeader line) := by
  rw [ofLines, readHead_eq, h]

theorem ofLines_of_wellFormed (h : (headLines lines).find? (Malformed ·) = none) :
    ofLines lines = ofFields (Fields.empty.setAll (pairs (headLines lines)))
      ((linesBehind lines).filter (· ≠ "")) := by
  have hkept : ∀ line ∈ linesBehind lines, (!line.isEmpty) = (line ≠ "" : Bool) := by
    intro line _
    by_cases hempty : line = "" <;> simp [hempty]
  rw [ofLines, readHead_eq, h, ← List.filter_congr hkept]

theorem not_malformed_of_find? (h : (headLines lines).find? (Malformed ·) = none) :
    ∀ line ∈ headLines lines, ¬ Malformed line := by
  simpa using h

theorem ofLines_of_nameless (h : (headLines lines).find? (Malformed ·) = none)
    (hname : ∀ line, lastLine? nameHeader lines = some line → Text.StandsFor (valuePart line) "") :
    ofLines lines = .error (.missingHeader nameHeader) := by
  rw [ofLines_of_wellFormed h, ofFields, get?_pairs (not_malformed_of_find? h)]
  cases hlast : lastLine? nameHeader lines with
  | none => rfl
  | some line =>
    have hempty : Text.percentDecode (valuePart line) = "" :=
      (Text.standsFor_iff.mp (hname line hlast)).symm
    simp [hempty]

theorem ofLines_of_named (h : (headLines lines).find? (Malformed ·) = none)
    (hlast : lastLine? nameHeader lines = some line)
    (hname : ¬ Text.StandsFor (valuePart line) "") :
    ofLines lines = .ok {
      eventType := Term.parse? (Text.percentDecode (valuePart line))
      headers := Fields.empty.setAll (pairs (headLines lines))
      body := (linesBehind lines).filter (· ≠ "") } := by
  have hne : Text.percentDecode (valuePart line) ≠ "" :=
    fun hempty => hname (Text.standsFor_iff.mpr hempty.symm)
  rw [ofLines_of_wellFormed h, ofFields, get?_pairs (not_malformed_of_find? h), hlast]
  simp [hne]

theorem header?_of_ofLines (h : (headLines lines).find? (Malformed ·) = none) {event : Event}
    (hheaders : event.headers = Fields.empty.setAll (pairs (headLines lines)))
    (name value : String) :
    event.header? name = some value ↔
      ∃ line, lastLine? name lines = some line ∧ Text.StandsFor (valuePart line) value := by
  rw [header?, hheaders, get?_pairs (not_malformed_of_find? h), Option.map_eq_some_iff]
  simp only [Text.standsFor_iff, eq_comm]

/-- The plain form is read exactly when no line of its head is malformed and the last of them with
the name of the event gives one. Of the lines with one name the last one counts. -/
theorem ofLines_accepts_grammar (lines : List String) :
    (∀ line, ofLines lines = .error (.invalidHeader line) ↔
      (headLines lines).find? (Malformed ·) = some line) ∧
    (ofLines lines = .error (.missingHeader nameHeader) ↔
      (headLines lines).find? (Malformed ·) = none ∧
        ∀ line, lastLine? nameHeader lines = some line → Text.StandsFor (valuePart line) "") ∧
    ((∃ event, ofLines lines = .ok event) ↔
      (headLines lines).find? (Malformed ·) = none ∧
        ∃ line, lastLine? nameHeader lines = some line ∧ ¬ Text.StandsFor (valuePart line) "") ∧
    ∀ event, ofLines lines = .ok event →
      (∀ name value, event.header? name = some value ↔
        ∃ line, lastLine? name lines = some line ∧ Text.StandsFor (valuePart line) value) ∧
      event.body = (linesBehind lines).filter (· ≠ "") := by
  cases hfind : (headLines lines).find? (Malformed ·) with
  | some line => simp [ofLines_of_malformed hfind]
  | none =>
    by_cases hname : ∀ line, lastLine? nameHeader lines = some line →
        Text.StandsFor (valuePart line) ""
    · have hnone : ¬ ∃ line, lastLine? nameHeader lines = some line ∧
          ¬ Text.StandsFor (valuePart line) "" := by simpa using hname
      simp only [ofLines_of_nameless hfind hname, hnone]
      simpa using hname
    · obtain ⟨line, hlast, hname⟩ :
          ∃ line, lastLine? nameHeader lines = some line ∧
            ¬ Text.StandsFor (valuePart line) "" := by simpa using hname
      rw [ofLines_of_named hfind hlast hname]
      refine ⟨by simp, by simp [hlast, hname], by simp [hlast, hname], ?_⟩
      intro event hevent
      cases hevent
      exact ⟨header?_of_ofLines hfind rfl, rfl⟩

/-- What makes an event unreadable in its head does not in its body. -/
theorem ofLines_accepts_grammar_colonless :
    ofLines ["Event-Name: HEARTBEAT", "no colon"] = .error (.invalidHeader "no colon") ∧
      ∃ event, ofLines ["Event-Name: API", "", "Event-Name: HEARTBEAT", "Content-Length: 9",
          "no colon", "", ": x"] = .ok event ∧
        event.header? nameHeader = some "HEARTBEAT" ∧ event.body = ["no colon", ": x"] := by
  have hvalue : valuePart "Event-Name: HEARTBEAT" = "HEARTBEAT" := by decide +kernel
  have hplain : Text.percentDecode "HEARTBEAT" = "HEARTBEAT" :=
    Text.percentDecode_of_plain (by decide)
  have hstands : Text.StandsFor (valuePart "Event-Name: HEARTBEAT") "HEARTBEAT" := by
    rw [Text.standsFor_iff, hvalue, hplain]
  have hsome : ¬ Text.StandsFor (valuePart "Event-Name: HEARTBEAT") "" := by
    rw [Text.standsFor_iff, hvalue, hplain]
    decide
  refine ⟨((ofLines_accepts_grammar _).1 _).mpr (by decide +kernel), ?_⟩
  obtain ⟨-, -, hread, hwhat⟩ := ofLines_accepts_grammar ["Event-Name: API", "",
    "Event-Name: HEARTBEAT", "Content-Length: 9", "no colon", "", ": x"]
  obtain ⟨event, hevent⟩ :=
    hread.mpr ⟨by decide +kernel, "Event-Name: HEARTBEAT", by decide +kernel, hsome⟩
  obtain ⟨hheaders, hbody⟩ := hwhat event hevent
  refine ⟨event, hevent, ?_, ?_⟩
  · exact (hheaders _ _).mpr ⟨"Event-Name: HEARTBEAT", by decide +kernel, hstands⟩
  · rw [hbody]
    decide +kernel

end EventSocket.Event
