import EventSocket.Proofs.Event.Reading
import EventSocket.Proofs.Frame.RoundTrip
import EventSocket.Proofs.Text.Lines

/-!
The plain form of an event is read back, from its lines and from a frame that carries it. What is
lost are the empty lines of the body and whatever the event said about the length of its body; the
name gives the type again.
-/

namespace EventSocket

theorem headerName_contentLength : HeaderName contentLengthName :=
  ⟨by decide, by decide, by decide, by decide⟩

theorem headerName_contentType : HeaderName contentTypeName :=
  ⟨by decide, by decide, by decide, by decide⟩

theorem headerName_event : HeaderName Event.nameHeader :=
  ⟨by decide, by decide, by decide, by decide⟩

namespace Event

/-- The plain form of the event can be taken apart again. -/
structure Writable (event : Event) : Prop where
  named : event.name ≠ ""
  headers : ∀ header ∈ event.headers.toList, HeaderName header.1
  body : ∀ line ∈ event.body, Text.LineText line

/-- What is read back from the plain form of the event. -/
structure Restored (event read : Event) : Prop where
  eventType : read.eventType = Term.parse? event.name
  headers : ∀ name, name ≠ contentLengthName → read.header? name = event.header? name
  length : read.header? contentLengthName =
    if event.body.isEmpty then none else some (toString event.plainBody.utf8ByteSize)
  body : read.body = event.body.filter fun line => !line.isEmpty

def lengthText (event : Event) : String := toString event.plainBody.utf8ByteSize

def plainPairs (event : Event) : List (String × String) :=
  (nameHeader, event.name) :: event.listedHeaders

def bodyLines (event : Event) : List String :=
  if event.body.isEmpty then []
  else written contentLengthName event.lengthText :: "" :: event.body

def headerText (header : String × String) : String :=
  written header.1 (Text.percentEncode header.2)

def plainLines (event : Event) : List String := event.plainPairs.map headerText ++ event.bodyLines

variable {event : Event}

theorem join_headerLine (headers : List (String × String)) :
    String.join (headers.map headerLine) = Text.endLines (headers.map headerText) := by
  rw [Text.endLines, List.map_map]
  rfl

theorem plainText_eq (event : Event) : event.plainText = Text.endLines event.plainLines := by
  have hhead : headerLine (nameHeader, event.name) ++
      String.join (event.listedHeaders.map headerLine) =
        Text.endLines (event.plainPairs.map headerText) := by
    rw [← join_headerLine, plainPairs, List.map_cons, String.join_cons]
  rw [plainLines, Text.endLines_append, plainText, hhead, bodyLines]
  split
  · simp [Text.endLines]
  · simp only [Text.endLines, List.map_cons, String.join_cons, plainBody, written, lengthText,
      String.append_assoc]
    rfl

/-! Every line of the plain form stands on its own. -/

theorem lineText_written {name value : String} (hname : '\n' ∉ name.toList)
    (hvalue : ∀ c ∈ value.toList, Text.isBlank c = false) : Text.LineText (written name value) := by
  constructor
  · rw [toList_written]
    have hfeed : '\n' ∉ value.toList := fun h => absurd (hvalue _ h) (by decide)
    simp [hname, hfeed]
  · rw [toList_written, List.getLast?_append, List.getLast?_cons_cons, List.getLast?_cons]
    intro hlast
    cases hend : value.toList.getLast? with
    | none => simp [hend] at hlast
    | some c =>
      obtain rfl : c = '\r' := by simpa [hend] using hlast
      exact absurd (hvalue _ (List.mem_of_getLast? hend)) (by decide)

theorem Writable.headerName (h : event.Writable) :
    ∀ pair ∈ event.plainPairs, HeaderName pair.1 := by
  intro pair hpair
  rcases List.mem_cons.mp hpair with rfl | hlisted
  · exact headerName_event
  · exact h.headers pair (List.mem_filter.mp (List.mem_mergeSort.mp hlisted)).1

theorem Writable.lineText (h : event.Writable) : ∀ line ∈ event.plainLines, Text.LineText line := by
  intro line hline
  rcases List.mem_append.mp hline with hhead | hbody
  · obtain ⟨pair, hpair, rfl⟩ := List.mem_map.mp hhead
    exact lineText_written (h.headerName pair hpair).noFeed
      fun _ => Text.isBlank_of_mem_percentEncode
  · unfold bodyLines at hbody
    split at hbody
    · cases hbody
    · rcases List.mem_cons.mp hbody with rfl | hrest
      · exact lineText_written headerName_contentLength.noFeed (Text.isBlank_toString _)
      · rcases List.mem_cons.mp hrest with rfl | hline
        · exact ⟨by decide, by decide⟩
        · exact h.body line hline

/-! Reading the lines back. -/

theorem readHead_headers {pairs : List (String × String)}
    (h : ∀ pair ∈ pairs, HeaderName pair.1 ∧ pair.1 ≠ contentLengthName) (fields : Fields)
    (rest : List String) :
    readHead fields (pairs.map headerText ++ rest) = readHead (fields.setAll pairs) rest := by
  induction pairs generalizing fields with
  | nil => rfl
  | cons pair pairs ih =>
    obtain ⟨hname, hother⟩ := h pair List.mem_cons_self
    have hline : headerOfLine (headerText pair) = .ok (pair.1, Text.percentEncode pair.2) :=
      headerOfLine_written hname fun _ => Text.isBlank_of_mem_percentEncode
    have hsome : (headerText pair).isEmpty = false := by
      simp [headerText, ← String.toList_eq_nil_iff, toList_written]
    rw [List.map_cons, List.cons_append, readHead]
    simp only [hsome, hline, hother, Text.percentDecode_percentEncode, ↓reduceIte,
      Bool.false_eq_true]
    exact ih (fun other hmem => h other (List.mem_cons_of_mem pair hmem)) _

theorem readHead_length (fields : Fields) (rest : List String) :
    readHead fields (written contentLengthName event.lengthText :: rest) =
      .ok (fields.set contentLengthName event.lengthText, rest) := by
  have hline : headerOfLine (written contentLengthName event.lengthText) =
      .ok (contentLengthName, event.lengthText) :=
    headerOfLine_written headerName_contentLength (Text.isBlank_toString _)
  have hsome : (written contentLengthName event.lengthText).isEmpty = false := by
    simp [← String.toList_eq_nil_iff, toList_written]
  have hplain : Text.percentDecode event.lengthText = event.lengthText :=
    Text.percentDecode_of_plain fun h => absurd (Text.isDigit_of_mem_toString h) (by decide)
  rw [readHead]
  simp [hsome, hline, hplain]

/-- The values as they are sent, that of the length last. -/
def sentPairs (event : Event) : List (String × String) :=
  event.plainPairs ++ if event.body.isEmpty then [] else [(contentLengthName, event.lengthText)]

theorem plainPairs_ne_length : ∀ pair ∈ event.plainPairs, pair.1 ≠ contentLengthName := by
  intro pair hpair
  rcases List.mem_cons.mp hpair with rfl | hlisted
  · exact show nameHeader ≠ contentLengthName by decide
  · have := (List.mem_filter.mp (List.mem_mergeSort.mp hlisted)).2
    simp only [Bool.and_eq_true, bne_iff_ne] at this
    exact this.2

theorem nodup_listedHeaders (event : Event) : (event.listedHeaders.map Prod.fst).Nodup := by
  have hperm := (List.mergeSort_perm (event.headers.toList.filter fun header =>
    header.1 != nameHeader && header.1 != contentLengthName)
    fun left right => decide (left.1 ≤ right.1)).map Prod.fst
  exact hperm.nodup_iff.mpr (event.headers.distinct.sublist (List.filter_sublist.map Prod.fst))

theorem nodup_sentPairs (event : Event) : (event.sentPairs.map Prod.fst).Nodup := by
  have hname : nameHeader ∉ event.listedHeaders.map Prod.fst := by
    rintro hmem
    obtain ⟨header, hheader, hsame⟩ := List.mem_map.mp hmem
    have := (List.mem_filter.mp (List.mem_mergeSort.mp hheader)).2
    simp [hsame] at this
  have hplain : (event.plainPairs.map Prod.fst).Nodup :=
    List.nodup_cons.mpr ⟨hname, nodup_listedHeaders event⟩
  rw [sentPairs]
  split
  · simpa using hplain
  · rw [List.map_append, List.nodup_append]
    refine ⟨hplain, List.nodup_singleton _, ?_⟩
    rintro name hmem other hother rfl
    obtain ⟨pair, hpair, rfl⟩ := List.mem_map.mp hmem
    exact plainPairs_ne_length pair hpair (List.mem_singleton.mp hother)

theorem Writable.header? (h : event.Writable) : event.header? nameHeader = some event.name := by
  cases hheader : event.header? nameHeader with
  | none => exact absurd (by simp [name, hheader]) h.named
  | some value => simp [name, hheader]

theorem mem_sentPairs (h : event.Writable) {name value : String}
    (hname : name ≠ contentLengthName) :
    (name, value) ∈ event.sentPairs ↔ event.header? name = some value := by
  have hlength : (name, value) ∉
      if event.body.isEmpty then [] else [(contentLengthName, event.lengthText)] := by
    split <;> simp [hname]
  rw [sentPairs, List.mem_append, or_iff_left hlength, plainPairs, List.mem_cons, listedHeaders,
    List.mem_mergeSort, List.mem_filter, ← Fields.get?_eq_some_iff, ← Event.header?]
  by_cases hevent : name = nameHeader
  · subst hevent
    simp [h.header?, eq_comm]
  · simp [hevent, hname]

theorem mem_sentPairs_length {value : String} :
    (contentLengthName, value) ∈ event.sentPairs ↔
      event.body.isEmpty = false ∧ value = event.lengthText := by
  have hplain : (contentLengthName, value) ∉ event.plainPairs := fun hmem =>
    plainPairs_ne_length _ hmem rfl
  rw [sentPairs, List.mem_append, or_iff_right hplain]
  split <;> simp_all

/-- What is read from the plain form. -/
def restored (event : Event) : Event where
  eventType := Term.parse? event.name
  headers := Fields.empty.setAll event.sentPairs
  body := event.body.filter fun line => !line.isEmpty

theorem header?_restored {name value : String} :
    event.restored.header? name = some value ↔ (name, value) ∈ event.sentPairs :=
  Fields.get?_setAll_empty event.nodup_sentPairs

theorem Writable.restored (h : event.Writable) : event.Restored event.restored where
  eventType := rfl
  headers name hname := by
    ext value
    rw [header?_restored, mem_sentPairs h hname]
  length := by
    ext value
    rw [header?_restored, mem_sentPairs_length]
    cases event.body.isEmpty <;> simp [lengthText, eq_comm]
  body := rfl

theorem Writable.readHead (h : event.Writable) :
    Event.readHead Fields.empty event.plainLines =
      .ok (event.restored.headers, if event.body.isEmpty then [] else "" :: event.body) := by
  have hhead : Event.readHead Fields.empty event.plainLines =
      Event.readHead (Fields.empty.setAll event.plainPairs) event.bodyLines :=
    readHead_headers (fun pair hpair => ⟨h.headerName pair hpair, plainPairs_ne_length pair hpair⟩)
      _ _
  rw [hhead, bodyLines, Event.restored, sentPairs]
  split
  · simp [Event.readHead]
  · simp [readHead_length, Fields.setAll]

theorem Writable.ofLines (h : event.Writable) :
    Event.ofLines event.plainLines = .ok event.restored := by
  have hname : event.restored.headers.get? nameHeader = some event.name :=
    header?_restored.mpr List.mem_cons_self
  have hbody : (if event.body.isEmpty then [] else "" :: event.body).filter
      (fun line => !line.isEmpty) = event.body.filter fun line => !line.isEmpty := by
    cases event.body <;> simp
  rw [Event.ofLines, h.readHead]
  simp only [hbody, ofFields, hname]
  simp [h.named, Event.restored]

end Event

end EventSocket
