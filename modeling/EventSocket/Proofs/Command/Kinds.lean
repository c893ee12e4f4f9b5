import EventSocket.Proofs.Command.ReadBack

/-!
What kind a command is can be told from its text, whatever texts it is made of. The first word of
the first line is the verb, and two kinds that share their verb differ behind it, with one
exception: nothing keeps the header of a filter from beginning with the word that takes a filter
away.
-/

namespace EventSocket

/-- What stands before the first blank. -/
def Text.firstWord (text : String) : String :=
  String.ofList (text.toList.takeWhile (· ≠ ' '))

namespace Command

/-- The words behind the verb on the first line. -/
def arguments : Command → List String
  | auth text | api text | bgapi text | nixevent text | getvar text => [text]
  | userauth user password => [user ++ ":" ++ password]
  | event format events => [format.word, events]
  | filter header value => [header, value]
  | filterDelete header value => "delete" :: header :: value.toList
  | log level => [level.word]
  | myevents format leg => leg.toList ++ [format.word]
  | linger seconds => (seconds.map toString).toList
  | divertEvents on => [if on then "on" else "off"]
  | sendmsg message => message.target.toList
  | hangup leg _ => leg.toList
  | noevents | nolog | exit | connect | nolinger | resume => []

/-- The lines behind the first. -/
def restLines : Command → List String
  | sendmsg message => message.fields.map Sendmsg.fieldLine
  | hangup _ cause => ["call-command: hangup", "hangup-cause: " ++ cause.word]
  | _ => []

/-- The verb of each kind, in the order of the kinds. -/
def verbs : List String :=
  ["auth", "userauth", "api", "bgapi", "event", "nixevent", "noevents", "filter", "filter", "log",
    "nolog", "exit", "connect", "myevents", "linger", "nolinger", "resume", "divert_events",
    "getvar", "sendmsg", "sendmsg"]

/-! The first line. -/

theorem headLine_eq_ok {target : Option String} {head : String}
    (h : Sendmsg.headLine target = .ok head) :
    head = " ".intercalate ("sendmsg" :: target.toList) := by
  cases target with
  | none =>
    cases h
    rfl
  | some leg =>
    obtain ⟨-, hhead⟩ := checkLine_bind.mp h
    cases hhead
    simp [String.intercalate_cons_cons]

theorem addressLine_eq (message : Sendmsg) :
    message.addressLine = " ".intercalate ("sendmsg" :: message.target.toList) := by
  unfold Sendmsg.addressLine
  cases message.target with
  | none => rfl
  | some leg => simp [String.intercalate_cons_cons]

theorem lines_eq {command : Command} {lines : List String} (h : command.lines = .ok lines) :
    lines = " ".intercalate (command.verb :: command.arguments) :: command.restLines := by
  cases command with
  | auth password =>
    obtain ⟨-, hlines⟩ := checkLine_bind.mp h
    cases hlines
    rfl
  | userauth user password =>
    obtain ⟨-, h⟩ := checkLine_bind.mp h
    obtain ⟨-, hlines⟩ := checkLine_bind.mp h
    cases hlines
    rfl
  | api text | bgapi text | nixevent text | getvar text =>
    obtain ⟨-, hlines⟩ := checkWord_bind h
    cases hlines
    rfl
  | event format events =>
    obtain ⟨-, hlines⟩ := checkWord_bind h
    cases hlines
    rfl
  | filter header value =>
    obtain ⟨-, h⟩ := checkWord_bind h
    obtain ⟨-, hlines⟩ := checkLine_bind.mp h
    cases hlines
    rfl
  | filterDelete header value =>
    obtain ⟨-, h⟩ := checkWord_bind h
    obtain ⟨-, hlines⟩ := checkEach_bind h
    cases hlines
    rfl
  | myevents format leg =>
    obtain ⟨-, hlines⟩ := checkEach_bind h
    cases hlines
    rfl
  | log _ | linger _ | divertEvents _ =>
    cases h
    rfl
  | noevents | nolog | exit | connect | nolinger | resume =>
    cases h
    rfl
  | sendmsg message =>
    rw [Sendmsg.lines_eq_fieldLines h, addressLine_eq]
    rfl
  | hangup leg cause =>
    obtain ⟨head, hhead, hlines⟩ := bind_eq_ok h
    cases hlines
    rw [headLine_eq_ok hhead]
    rfl

theorem firstWord_intercalate (word : String) (words : List String) :
    Text.firstWord (" ".intercalate (word :: words)) = Text.firstWord word := by
  cases words with
  | nil => simp
  | cons next words =>
    have hblank : (" " ++ " ".intercalate (next :: words)).toList.takeWhile (· ≠ ' ') = [] := by
      simp
    unfold Text.firstWord
    rw [String.intercalate_cons_cons, String.append_assoc, String.toList_append,
      List.takeWhile_append, hblank, List.append_nil]
    split
    · next hall => rw [(List.takeWhile_prefix _).eq_of_length hall]
    · rfl

theorem verb_mem_verbs (command : Command) : command.verb ∈ verbs := by
  cases command <;> simp [verb, verbs]

theorem firstWord_verb (command : Command) : Text.firstWord command.verb = command.verb := by
  have hverbs : ∀ verb ∈ verbs, Text.firstWord verb = verb := by decide
  exact hverbs command.verb (verb_mem_verbs command)

/-- The verb is the first word on the wire. -/
theorem firstWord_headLine (command : Command) :
    Text.firstWord (" ".intercalate (command.verb :: command.arguments)) = command.verb := by
  rw [firstWord_intercalate, firstWord_verb]

/-! Kinds that share their verb. -/

theorem ctorIdx_eq (command : Command) :
    command.ctorIdx = verbs.idxOf command.verb ∨
      (∃ header value, command = filterDelete header value) ∨
      ∃ leg cause, command = hangup leg cause := by
  cases command with
  | filterDelete header value => exact .inr (.inl ⟨header, value, rfl⟩)
  | hangup leg cause => exact .inr (.inr ⟨leg, cause, rfl⟩)
  | _ => exact .inl rfl

theorem of_verb_filter {command : Command} (h : command.verb = "filter") :
    (∃ header value, command = filter header value) ∨
      ∃ header value, command = filterDelete header value := by
  cases command with
  | filter header value => exact .inl ⟨header, value, rfl⟩
  | filterDelete header value => exact .inr ⟨header, value, rfl⟩
  | _ => simp [verb] at h

theorem of_verb_sendmsg {command : Command} (h : command.verb = "sendmsg") :
    (∃ message, command = sendmsg message) ∨ ∃ leg cause, command = hangup leg cause := by
  cases command with
  | sendmsg message => exact .inl ⟨message, rfl⟩
  | hangup leg cause => exact .inr ⟨leg, cause, rfl⟩
  | _ => simp [verb] at h

/-- Two kinds with one verb put or take away a filter, or address a channel. -/
theorem kinds_of_verb {left right : Command} (hkinds : left.ctorIdx ≠ right.ctorIdx)
    (hverb : left.verb = right.verb) :
    (∃ header value header' value',
      left = filter header value ∧ right = filterDelete header' value' ∨
        left = filterDelete header' value' ∧ right = filter header value) ∨
    ∃ message leg cause,
      left = sendmsg message ∧ right = hangup leg cause ∨
        left = hangup leg cause ∧ right = sendmsg message := by
  rcases ctorIdx_eq left with hleft | ⟨header, value, rfl⟩ | ⟨leg, cause, rfl⟩
  · rcases ctorIdx_eq right with hright | ⟨header, value, rfl⟩ | ⟨leg, cause, rfl⟩
    · exact absurd (by rw [hleft, hright, hverb]) hkinds
    · rcases of_verb_filter hverb with ⟨header', value', rfl⟩ | ⟨header', value', rfl⟩
      · exact .inl ⟨header', value', header, value, .inl ⟨rfl, rfl⟩⟩
      · exact absurd rfl hkinds
    · rcases of_verb_sendmsg hverb with ⟨message, rfl⟩ | ⟨leg', cause', rfl⟩
      · exact .inr ⟨message, leg, cause, .inl ⟨rfl, rfl⟩⟩
      · exact absurd rfl hkinds
  · rcases of_verb_filter hverb.symm with ⟨header', value', rfl⟩ | ⟨header', value', rfl⟩
    · exact .inl ⟨header', value', header, value, .inr ⟨rfl, rfl⟩⟩
    · exact absurd rfl hkinds
  · rcases of_verb_sendmsg hverb.symm with ⟨message, rfl⟩ | ⟨leg', cause', rfl⟩
    · exact .inr ⟨message, leg, cause, .inr ⟨rfl, rfl⟩⟩
    · exact absurd rfl hkinds

theorem restLines_ne (message : Sendmsg) (leg : Option String) (cause : HangupCause) :
    (sendmsg message).restLines ≠ (hangup leg cause).restLines := by
  have hexecute : (sendmsg message).restLines.head? = some "call-command: execute" := by
    unfold restLines Sendmsg.fields
    rfl
  intro heq
  rw [heq] at hexecute
  exact absurd (Option.some.inj hexecute) (by decide)

/-! The text. -/

theorem wireOfLines_inj {lines lines' : List String} (h : AllSendable lines)
    (h' : AllSendable lines') (heq : wireOfLines lines = wireOfLines lines') : lines = lines' := by
  have hcut := cutBlock_wire h []
  rw [heq, cutBlock_wire h' [], Option.some.injEq, Prod.mk.injEq] at hcut
  rw [← splitOn_lines h, ← splitOn_lines h', hcut.1]

theorem wire_eq {command : Command} {text : String} (h : command.wire = .ok text) :
    AllSendable (" ".intercalate (command.verb :: command.arguments) :: command.restLines) ∧
      text = wireOfLines
        (" ".intercalate (command.verb :: command.arguments) :: command.restLines) := by
  obtain ⟨lines, hlines, rfl⟩ := wire_eq_ok h
  rw [← lines_eq hlines]
  exact ⟨lines_sendable hlines, rfl⟩

theorem wire_inj {left right : Command} {text : String} (hleft : left.wire = .ok text)
    (hright : right.wire = .ok text) :
    " ".intercalate (left.verb :: left.arguments) =
        " ".intercalate (right.verb :: right.arguments) ∧
      left.restLines = right.restLines := by
  obtain ⟨hsendable, htext⟩ := wire_eq hleft
  obtain ⟨hsendable', htext'⟩ := wire_eq hright
  exact List.cons.inj (wireOfLines_inj hsendable hsendable' (htext.symm.trans htext'))

theorem intercalate_filter_inj {words words' : List String} (hwords : words ≠ [])
    (hwords' : words' ≠ []) :
    " ".intercalate ("filter" :: words) = " ".intercalate ("filter" :: words') ↔
      " ".intercalate words = " ".intercalate words' := by
  rw [String.intercalate_cons_of_ne_nil hwords, String.intercalate_cons_of_ne_nil hwords',
    String.append_right_inj]

theorem wire_filter_eq_iff {header value header' text text' : String} {value' : Option String}
    (hput : (filter header value).wire = .ok text)
    (htaken : (filterDelete header' value').wire = .ok text') :
    text = text' ↔
      " ".intercalate [header, value] = " ".intercalate ("delete" :: header' :: value'.toList) := by
  have hlines := intercalate_filter_inj (List.cons_ne_nil header [value])
    (List.cons_ne_nil "delete" (header' :: value'.toList))
  constructor
  · rintro rfl
    exact hlines.mp (wire_inj hput htaken).1
  · intro heq
    rw [(wire_eq hput).2, (wire_eq htaken).2]
    exact congrArg (fun line => wireOfLines [line]) (hlines.mpr heq)

/-- Commands of different kinds are never sent as the same text, whatever texts they are made of,
but for a filter that is put on a header called like the word that takes a filter away. -/
theorem kinds_told_apart {left right : Command} {text text' : String}
    (hkinds : left.ctorIdx ≠ right.ctorIdx) (hleft : left.wire = .ok text)
    (hright : right.wire = .ok text') :
    text = text' ↔ ∃ header value header' value',
      (left = filter header value ∧ right = filterDelete header' value' ∨
        left = filterDelete header' value' ∧ right = filter header value) ∧
      Text.firstWord header = "delete" ∧
      " ".intercalate [header, value] = " ".intercalate ("delete" :: header' :: value'.toList) := by
  constructor
  · rintro rfl
    obtain ⟨hhead, hrest⟩ := wire_inj hleft hright
    have hverb : left.verb = right.verb := by
      rw [← firstWord_headLine left, hhead, firstWord_headLine]
    rcases kinds_of_verb hkinds hverb with
      ⟨header, value, header', value', hfilters⟩ | ⟨message, leg, cause, hmessages⟩
    · refine ⟨header, value, header', value', hfilters, ?_⟩
      have hwords :
          " ".intercalate [header, value] =
            " ".intercalate ("delete" :: header' :: value'.toList) := by
        rcases hfilters with ⟨rfl, rfl⟩ | ⟨rfl, rfl⟩
        · exact (wire_filter_eq_iff hleft hright).mp rfl
        · exact (wire_filter_eq_iff hright hleft).mp rfl
      refine ⟨?_, hwords⟩
      rw [← firstWord_intercalate header [value], hwords, firstWord_intercalate]
      decide
    · rcases hmessages with ⟨rfl, rfl⟩ | ⟨rfl, rfl⟩
      · exact absurd hrest (restLines_ne message leg cause)
      · exact absurd hrest.symm (restLines_ne message leg cause)
  · rintro ⟨header, value, header', value', ⟨rfl, rfl⟩ | ⟨rfl, rfl⟩, -, hwords⟩
    · exact (wire_filter_eq_iff hleft hright).mpr hwords
    · exact ((wire_filter_eq_iff hright hleft).mpr hwords).symm

theorem kinds_told_apart_deleted :
    (filter "deleted" "delete x").wire = .ok "filter deleted delete x\n\n" ∧
      (filterDelete "delete" (some "x")).wire = .ok "filter delete delete x\n\n" ∧
      "filter deleted delete x\n\n" ≠ "filter delete delete x\n\n" := by
  have hput : (filter "deleted" "delete x").wire = .ok "filter deleted delete x\n\n" := by
    decide +kernel
  have htaken : (filterDelete "delete" (some "x")).wire = .ok "filter delete delete x\n\n" := by
    decide +kernel
  refine ⟨hput, htaken, ?_⟩
  intro heq
  obtain ⟨header, value, header', value', hfilters, hheader, -⟩ :=
    (kinds_told_apart (by decide) hput htaken).mp heq
  rcases hfilters with ⟨hleft, -⟩ | ⟨hleft, -⟩
  · cases hleft
    exact absurd hheader (by decide)
  · cases hleft

theorem filter_taken_for_its_removal :
    ¬ ∀ (left right : Command) (text : String), left.wire = .ok text → right.wire = .ok text →
      left.ctorIdx = right.ctorIdx := by
  intro h
  have hput : (filter "delete" "Event-Name").wire = .ok "filter delete Event-Name\n\n" := by
    decide +kernel
  have htaken : (filterDelete "Event-Name" none).wire = .ok "filter delete Event-Name\n\n" := by
    decide +kernel
  exact absurd (h _ _ _ hput htaken) (by decide)

end Command

end EventSocket
