import EventSocket.Event.Archive
import EventSocket.Proofs.Term

/-!
Documents of events are read back. Neither the order of the parts nor that of the headers counts.
-/

namespace EventSocket

theorem mapM_map_of_read {α β : Type} {write : α → β} {read : β → Option α}
    (h : ∀ item, read (write item) = some item) (items : List α) :
    (items.map write).mapM read = some items := by
  induction items with
  | nil => rfl
  | cons item items ih =>
    rw [List.map_cons, List.mapM_cons, h, ih]
    rfl

namespace Document

variable {fields : List (String × Document)} {name : String} {document : Document}

theorem filter_of_nodup (h : (fields.map Prod.fst).Nodup) (hfield : (name, document) ∈ fields) :
    (fields.filter fun field => field.1 = name) = [(name, document)] := by
  induction fields with
  | nil => cases hfield
  | cons field fields ih =>
    rw [List.map_cons, List.nodup_cons] at h
    rcases List.mem_cons.mp hfield with rfl | hrest
    · have hnone : (fields.filter fun field => field.1 = name) = [] := by
        refine List.filter_eq_nil_iff.mpr fun other hother hsame => h.1 ?_
        exact List.mem_map.mpr ⟨other, hother, of_decide_eq_true hsame⟩
      simp [hnone]
    · have hother : field.1 ≠ name := by
        rintro rfl
        exact h.1 (List.mem_map.mpr ⟨_, hrest, rfl⟩)
      simp [hother, ih h.2 hrest]

theorem field?_of_nodup (h : (fields.map Prod.fst).Nodup) (hfield : (name, document) ∈ fields) :
    field? name fields = some (some document) := by
  rw [field?, filter_of_nodup h hfield]

end Document

namespace Fields

variable {left right : Fields}

theorem get?_of_perm (h : left.toList.Perm right.toList) (name : String) :
    left.get? name = right.get? name := by
  refine Option.ext fun value => ?_
  rw [get?_eq_some_iff, get?_eq_some_iff, h.mem_iff]

theorem agrees_of_perm (h : left.toList.Perm right.toList) : left.agrees right := by
  have hsize : left.size = right.size := h.length_eq
  have hfields : ∀ field ∈ left.toList, right.get? field.1 = some field.2 :=
    fun field hfield => get?_eq_some_iff.mpr (h.mem_iff.mp hfield)
  simpa [agrees, hsize] using hfields

end Fields

namespace Event

def typeDocument (event : Event) : Document :=
  (event.eventType.map Document.ofTerm).getD .null

def headersDocument (headers : List (String × String)) : Document :=
  .record (headers.map fun header => (header.1, .text header.2))

def bodyDocument (event : Event) : Document := .list (event.body.map .text)

/-- The document keeps the event: as a record of its three parts in any order, or as their bare
list, with the headers in any order. -/
inductive Archives (event : Event) : Document → Prop
  | record {headers : List (String × String)} {parts : List (String × Document)}
      (hheaders : headers.Perm event.headers.toList)
      (hparts : parts.Perm [("event_type", event.typeDocument),
        ("headers", headersDocument headers), ("body", event.bodyDocument)]) :
      Archives event (.record parts)
  | list {headers : List (String × String)} (hheaders : headers.Perm event.headers.toList) :
      Archives event (.list [event.typeDocument, headersDocument headers, event.bodyDocument])

theorem archives_toDocument (event : Event) : event.Archives event.toDocument :=
  .record (.refl _) (.refl _)

theorem eventTypeOf?_typeDocument (event : Event) :
    eventTypeOf? event.typeDocument = some event.eventType := by
  cases htype : event.eventType with
  | none => simp [typeDocument, htype, eventTypeOf?]
  | some eventType =>
    simp [typeDocument, htype, eventTypeOf?, Document.ofTerm, Document.term?]

theorem headersOf?_headersDocument (headers : List (String × String)) :
    headersOf? (headersDocument headers) = some (Fields.ofList headers) := by
  have hread : (headers.map fun header => (header.1, Document.text header.2)).mapM
      (fun field => field.2.text?.map (field.1, ·)) = some headers := by
    refine mapM_map_of_read ?_ headers
    exact fun _ => rfl
  simp [headersOf?, headersDocument, Document.fields?, hread]

theorem bodyOf?_bodyDocument (event : Event) : bodyOf? event.bodyDocument = some event.body := by
  have hread : (event.body.map Document.text).mapM Document.text? = some event.body := by
    refine mapM_map_of_read ?_ event.body
    exact fun _ => rfl
  simp [bodyOf?, bodyDocument, Document.items?, hread]

theorem ofParts?_documents (event : Event) (headers : List (String × String)) :
    ofParts? event.typeDocument (headersDocument headers) event.bodyDocument =
      some ⟨event.eventType, Fields.ofList headers, event.body⟩ := by
  rw [ofParts?, eventTypeOf?_typeDocument, headersOf?_headersDocument, bodyOf?_bodyDocument]
  rfl

theorem ofDocument?_record {event : Event} {headers : List (String × String)}
    {parts : List (String × Document)}
    (hparts : parts.Perm [("event_type", event.typeDocument),
      ("headers", headersDocument headers), ("body", event.bodyDocument)]) :
    ofDocument? (.record parts) = some ⟨event.eventType, Fields.ofList headers, event.body⟩ := by
  have hnames : (parts.map Prod.fst).Nodup := by
    rw [(hparts.map Prod.fst).nodup_iff]
    simp
  have hfield : ∀ {name : String} {document : Document},
      (name, document) ∈ [("event_type", event.typeDocument),
        ("headers", headersDocument headers), ("body", event.bodyDocument)] →
      Document.field? name parts = some (some document) :=
    fun hmem => Document.field?_of_nodup hnames (hparts.mem_iff.mpr hmem)
  have htype : Document.field? "event_type" parts = some (some event.typeDocument) :=
    hfield (by simp)
  have hheaders : Document.field? "headers" parts = some (some (headersDocument headers)) :=
    hfield (by simp)
  have hbody : Document.field? "body" parts = some (some event.bodyDocument) := hfield (by simp)
  rw [← ofParts?_documents, ofDocument?, htype, hheaders, hbody]
  rfl

/-- Every document that keeps the event gives it back, but for the order of its headers. -/
theorem Archives.ofDocument? {event : Event} {document : Document}
    (h : event.Archives document) :
    ∃ headers : Fields, headers.toList.Perm event.headers.toList ∧
      Event.ofDocument? document = some { event with headers } := by
  obtain ⟨headers, hperm, hread⟩ : ∃ headers, List.Perm headers event.headers.toList ∧
      Event.ofDocument? document = some ⟨event.eventType, Fields.ofList headers, event.body⟩ := by
    cases h with
    | record hperm hparts => exact ⟨_, hperm, ofDocument?_record hparts⟩
    | list hperm => exact ⟨_, hperm, ofParts?_documents event _⟩
  have hdistinct : (headers.map Prod.fst).Nodup := by
    rw [(hperm.map Prod.fst).nodup_iff]
    exact event.headers.distinct
  refine ⟨Fields.ofList headers, ?_, hread⟩
  rwa [Fields.toList_ofList hdistinct]

theorem ofDocument?_toDocument (event : Event) : ofDocument? event.toDocument = some event := by
  have hread := ofParts?_documents event event.headers.toList
  rwa [Fields.ofList_toList] at hread

end Event

end EventSocket
