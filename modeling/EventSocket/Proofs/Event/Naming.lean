import EventSocket.Event.Plain
import EventSocket.Proofs.Delivery.Moves
import EventSocket.Proofs.Event.Archive

/-!
The name of an event and its type stay together, however the event came about and whatever is done
to it: the type is always what the name says, and with it the lane on which the event is delivered.
-/

namespace EventSocket.Event

/-- The events there are: read off the stream or made from a type, then changed, and kept in
documents and read back. -/
inductive Built : Event → Prop
  | ofType (eventType : EventType) : Built (ofType eventType)
  | ofLines {lines : List String} {event : Event} (h : ofLines lines = .ok event) : Built event
  | ofFrame {frame : Frame} {event : Event} (h : ofFrame frame = .ok event) : Built event
  | ofChannelData {frame : Frame} {event : Event} (h : ofChannelData frame = .ok event) :
      Built event
  | setHeader {event : Event} (h : Built event) (name value : String) :
      Built (event.setHeader name value)
  | setBody {event : Event} (h : Built event) (body : List String) : Built (event.setBody body)
  | restored {event restored : Event} {document : Document} (h : Built event)
      (hkept : event.Archives document) (hread : ofDocument? document = some restored) :
      Built restored

/-- The event has a name, and its type is what the name is read as. -/
def Named (event : Event) : Prop :=
  ∃ name, event.header? nameHeader = some name ∧ event.eventType = Term.parse? name

variable {event : Event}

theorem named_ofType (eventType : EventType) : (ofType eventType).Named := by
  refine ⟨eventType.word, by simp [ofType, header?], ?_⟩
  have hword : (Term.parse? eventType.word : Option EventType) = some eventType :=
    Term.parse?_eq_some_iff.mpr (Text.sameLetters_iff.mpr rfl)
  rw [hword]
  rfl

theorem named_ofFields {headers : Fields} {body : List String}
    (h : ofFields headers body = .ok event) : event.Named := by
  unfold ofFields at h
  split at h
  · cases h
  · next name hname =>
    split at h
    · cases h
    · cases h
      exact ⟨name, hname, rfl⟩

theorem named_ofLines {lines : List String} (h : ofLines lines = .ok event) : event.Named := by
  unfold ofLines at h
  split at h
  · cases h
  · exact named_ofFields h

theorem named_ofFrame {frame : Frame} (h : ofFrame frame = .ok event) : event.Named := by
  unfold ofFrame at h
  split at h
  · cases h
  · split at h
    · exact named_ofLines h
    · cases h

theorem Named.setHeader (h : event.Named) (name value : String) :
    (event.setHeader name value).Named := by
  obtain ⟨own, hown, htype⟩ := h
  by_cases hname : name = nameHeader
  · exact ⟨value, by simp [header?, Event.setHeader, hname], by simp [Event.setHeader, hname]⟩
  · refine ⟨own, ?_, by simp [Event.setHeader, hname, htype]⟩
    rw [header?, Event.setHeader, Fields.get?_set, if_neg hname]
    exact hown

theorem Named.restored {restored : Event} {document : Document} (h : event.Named)
    (hkept : event.Archives document) (hread : ofDocument? document = some restored) :
    restored.Named := by
  obtain ⟨name, hname, htype⟩ := h
  obtain ⟨headers, hperm, hgiven⟩ := hkept.ofDocument?
  rw [hread, Option.some.injEq] at hgiven
  subst hgiven
  exact ⟨name, (Fields.get?_of_perm hperm nameHeader).trans hname, htype⟩

theorem Built.named (h : event.Built) : event.Named := by
  induction h with
  | ofType eventType => exact named_ofType eventType
  | ofLines h => exact named_ofLines h
  | ofFrame h => exact named_ofFrame h
  | ofChannelData h => exact named_ofFields h
  | setHeader _ name value ih => exact ih.setHeader name value
  | setBody _ _ ih => exact ih
  | restored _ hkept hread ih => exact ih.restored hkept hread

/-! What follows from the name. -/

theorem lane_iff_name {name : String} (htype : event.eventType = Term.parse? name)
    (kind : LaneKind) : LaneKind.ofEvent event = kind ↔
      (kind = .jobs ↔ Text.sameLetters name EventType.backgroundJob.word) := by
  have hjob : event.isBackgroundJob ↔ Text.sameLetters name EventType.backgroundJob.word := by
    rw [isBackgroundJob, isType, beq_iff_eq, htype]
    exact Term.parse?_eq_some_iff
  rw [LaneKind.ofEvent]
  by_cases hsame : Text.sameLetters name EventType.backgroundJob.word
  · rw [if_pos (hjob.mpr hsame)]
    simp [hsame, eq_comm]
  · rw [if_neg (hjob.not.mpr hsame)]
    cases kind <;> simp [hsame]

/-- Every event has a name. Its type is the one with that word, the case of letters aside, and
there is no second such type; a dispatcher puts it on the lane for background jobs exactly when its
name is theirs; and a document that keeps the event gives it back. -/
theorem Built.type_of_name (h : event.Built) :
    ∃ name, event.header? nameHeader = some name ∧
      (∀ eventType, event.eventType = some eventType ↔
        Text.sameLetters name eventType.word) ∧
      (∀ one other : EventType, Text.sameLetters name one.word →
        Text.sameLetters name other.word → one = other) ∧
      (∀ (dispatcher : Dispatcher) (kind : LaneKind),
        (dispatcher.dispatch event).lane kind =
          if (kind = .jobs ↔ Text.sameLetters name "BACKGROUND_JOB") ∧
              dispatcher.isFull kind = false then
            (dispatcher.lane kind).push (.event event)
          else dispatcher.lane kind) ∧
      ofDocument? event.toDocument = some event ∧
      ∀ document, event.Archives document →
        ∃ restored, ofDocument? document = some restored ∧ restored.agrees event := by
  obtain ⟨name, hname, htype⟩ := h.named
  have hword : ∀ eventType : EventType,
      event.eventType = some eventType ↔ Text.sameLetters name eventType.word := by
    intro eventType
    rw [htype]
    exact Term.parse?_eq_some_iff
  refine ⟨name, hname, hword, ?_, ?_, ofDocument?_toDocument event, ?_⟩
  · intro one other hone hother
    have hboth := ((hword one).mpr hone).symm.trans ((hword other).mpr hother)
    exact Option.some.inj hboth
  · intro dispatcher kind
    rw [Dispatcher.lane_dispatch]
    simp only [lane_iff_name htype]
    rfl
  · intro document hkept
    obtain ⟨headers, hperm, hread⟩ := hkept.ofDocument?
    refine ⟨_, hread, ?_⟩
    simpa [agrees] using Fields.agrees_of_perm hperm

/-- An event that has been given another name. -/
def renamed : Event :=
  ((ofType .heartbeat).setHeader nameHeader "background_job").setBody ["+OK"]

theorem built_renamed : renamed.Built :=
  .setBody (.setHeader (.ofType .heartbeat) nameHeader "background_job") ["+OK"]

theorem Built.type_of_name_renamed :
    renamed.Built ∧ renamed.eventType = some .backgroundJob ∧
      ((Dispatcher.start 1).dispatch renamed).jobs = Lane.empty.push (.event renamed) ∧
      ∃ restored, ofDocument? renamed.toDocument = some restored ∧ restored.agrees renamed := by
  obtain ⟨name, hname, hword, -, hlane, -, hkept⟩ := built_renamed.type_of_name
  obtain rfl : name = "background_job" := by
    have hgiven : renamed.header? nameHeader = some "background_job" := by decide
    exact Option.some.inj (hname.symm.trans hgiven)
  have hsame : Text.sameLetters "background_job" EventType.backgroundJob.word := by decide
  refine ⟨built_renamed, (hword .backgroundJob).mpr hsame, ?_, hkept _ (archives_toDocument _)⟩
  exact (hlane (Dispatcher.start 1) .jobs).trans (if_pos ⟨⟨fun _ => hsame, fun _ => rfl⟩, rfl⟩)

end EventSocket.Event
