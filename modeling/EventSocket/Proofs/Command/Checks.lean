import EventSocket.Proofs.Command.Wire

/-!
The texts that callers give for commands, and what is asked of them: none breaks a line, and some
have to say something. The first that does not do says why the command cannot be sent.
-/

namespace EventSocket

/-- A text that a caller gives. One that is required must not consist of blanks alone. -/
structure CommandField where
  name : String
  text : String
  required : Bool

namespace CommandField

def fault? (field : CommandField) : Option CommandFault :=
  if field.required && Text.isBlankText field.text then some (.empty field.name)
  else if Text.hasLineBreak field.text then some (.lineBreak field.name)
  else none

/-- The text cannot be sent for what it is meant for. -/
def Unfit (field : CommandField) : Prop :=
  ¬ Text.OneLine field.text ∨ field.required = true ∧ ∀ c ∈ field.text.toList, Text.isBlank c

theorem isSome_fault? {field : CommandField} : field.fault?.isSome ↔ field.Unfit := by
  have hbreak : Text.hasLineBreak field.text = true ↔ ¬ Text.OneLine field.text := by
    rw [← Text.hasLineBreak_eq_false_iff, Bool.not_eq_false]
  have hblank : Text.isBlankText field.text = true ↔
      ∀ c ∈ field.text.toList, Text.isBlank c := by
    simp [Text.isBlankText]
  rw [Unfit, ← hbreak, ← hblank, fault?]
  split
  · next hempty =>
    rw [Bool.and_eq_true] at hempty
    exact iff_of_true rfl (Or.inr hempty)
  · next hfilled =>
    rw [Bool.and_eq_true] at hfilled
    rw [or_iff_left hfilled]
    split <;> simp_all

end CommandField

namespace Command

/-- The texts that a command is made of, in the order in which they are looked at. -/
def fields : Command → List CommandField
  | auth password => [⟨"password", password, false⟩]
  | userauth user password => [⟨"user", user, false⟩, ⟨"password", password, false⟩]
  | api text => [⟨"api command", text, true⟩]
  | bgapi text => [⟨"bgapi command", text, true⟩]
  | event _ events => [⟨"event list", events, true⟩]
  | nixevent events => [⟨"nixevent list", events, true⟩]
  | filter header value => [⟨"filter header", header, true⟩, ⟨"filter value", value, false⟩]
  | filterDelete header value =>
    ⟨"filter delete header", header, true⟩ ::
      value.toList.map (⟨"filter delete value", ·, false⟩)
  | myevents _ leg => leg.toList.map (⟨"myevents uuid", ·, false⟩)
  | getvar name => [⟨"getvar name", name, true⟩]
  | sendmsg message =>
    ⟨"execute app", message.app, true⟩ ::
      (message.argument.toList.map (⟨"execute arg", ·, false⟩) ++
        message.target.toList.map (⟨"sendmsg uuid", ·, false⟩))
  | hangup leg _ => leg.toList.map (⟨"sendmsg uuid", ·, false⟩)
  | noevents | log _ | nolog | exit | connect | linger _ | nolinger | resume | divertEvents _ => []

/-- The result fails for the first of these fields that has a fault, and only for that. -/
def Judges {α : Type} (fields : List CommandField) (result : Except CommandFault α) : Prop :=
  ∀ cause, result = .error cause ↔ fields.findSome? CommandField.fault? = some cause

section Judges

variable {α : Type} {fields : List CommandField} {name text : String}
  {rest : Unit → Except CommandFault α}

theorem judges_pure (value : α) : Judges [] (.ok value : Except CommandFault α) := by
  intro cause
  simp

theorem judges_line (h : Judges fields (rest ())) :
    Judges (⟨name, text, false⟩ :: fields) (checkLine name text >>= rest) := by
  intro cause
  rw [List.findSome?_cons, CommandField.fault?, checkLine]
  by_cases hbreak : Text.hasLineBreak text
  · simp [hbreak, bind, Except.bind]
  · simpa [hbreak, bind, Except.bind] using h cause

theorem judges_filled_line (h : Judges fields (rest ())) :
    Judges (⟨name, text, true⟩ :: fields)
      (checkFilled name text >>= fun _ => checkLine name text >>= rest) := by
  intro cause
  by_cases hblank : Text.isBlankText text
  · simp [CommandField.fault?, checkFilled, hblank, bind, Except.bind]
  · have hline : Judges (⟨name, text, false⟩ :: fields) (checkLine name text >>= rest) :=
      judges_line h
    have hfault : CommandField.fault? ⟨name, text, true⟩ =
        CommandField.fault? ⟨name, text, false⟩ := by
      simp [CommandField.fault?, hblank]
    have hfilled : checkFilled name text = .ok () := by simp [checkFilled, hblank]
    rw [List.findSome?_cons, hfault, ← List.findSome?_cons, hfilled]
    exact hline cause

theorem judges_word (h : Judges fields (rest ())) :
    Judges (⟨name, text, true⟩ :: fields) (checkWord name text >>= rest) := by
  rw [checkWord, bind_assoc]
  exact judges_filled_line h

theorem judges_each {value : Option String} (h : Judges fields (rest ())) :
    Judges (value.toList.map (⟨name, ·, false⟩) ++ fields)
      (value.forM (checkLine name) >>= rest) := by
  cases value with
  | none => exact h
  | some text => exact judges_line h

theorem judges_head {target : Option String} {rest : String → Except CommandFault α}
    (h : ∀ head, Judges fields (rest head)) :
    Judges (target.toList.map (⟨"sendmsg uuid", ·, false⟩) ++ fields)
      (Sendmsg.headLine target >>= rest) := by
  cases target with
  | none => exact h _
  | some leg =>
    rw [Sendmsg.headLine, bind_assoc]
    exact judges_line (h _)

end Judges

/-- A command cannot be sent for the first of its texts that does not do. -/
theorem judges_lines (command : Command) : Judges command.fields command.lines := by
  cases command with
  | auth password => exact judges_line (judges_pure _)
  | userauth user password => exact judges_line (judges_line (judges_pure _))
  | api text | bgapi text | nixevent text | getvar text => exact judges_word (judges_pure _)
  | event format events => exact judges_word (judges_pure _)
  | filter header value => exact judges_word (judges_line (judges_pure _))
  | filterDelete header value =>
    rw [fields, ← List.append_nil (List.map _ _)]
    exact judges_word (judges_each (judges_pure _))
  | myevents format leg =>
    rw [fields, ← List.append_nil (List.map _ _)]
    exact judges_each (judges_pure _)
  | sendmsg message =>
    rw [fields, ← List.append_nil (List.map _ message.target.toList)]
    exact judges_filled_line (judges_each (judges_head fun _ => judges_pure _))
  | hangup leg cause =>
    rw [fields, ← List.append_nil (List.map _ _)]
    exact judges_head fun _ => judges_pure _
  | noevents | log _ | nolog | exit | connect | linger _ | nolinger | resume | divertEvents _ =>
    exact judges_pure _

theorem wire_eq_error_iff {command : Command} {cause : CommandFault} :
    command.wire = .error cause ↔
      command.fields.findSome? CommandField.fault? = some cause := by
  rw [← judges_lines command cause, wire]
  cases command.lines <;> simp [Except.map]

end Command

end EventSocket
