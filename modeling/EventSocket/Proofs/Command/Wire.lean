import EventSocket.Command.Basic
import EventSocket.Proofs.Text.Numerals
import Mathlib.Data.List.Basic

/-!
Commands on the wire. No text that a caller gives breaks a line, so that the first two line feeds in
a row end a command, and commands sent one after another are told apart.
-/

namespace EventSocket

namespace Text

def OneLine (text : String) : Prop := ∀ c ∈ text.toList, c ≠ '\n' ∧ c ≠ '\r'

instance (text : String) : Decidable (OneLine text) :=
  List.decidableBAll (fun c => c ≠ '\n' ∧ c ≠ '\r') text.toList

theorem hasLineBreak_eq_false_iff {text : String} : hasLineBreak text = false ↔ OneLine text := by
  simp [hasLineBreak, OneLine]

theorem OneLine.append {left right : String} (hleft : OneLine left) (hright : OneLine right) :
    OneLine (left ++ right) := by
  intro c hc
  rw [String.toList_append, List.mem_append] at hc
  exact hc.elim (hleft c) (hright c)

theorem oneLine_toString (number : Nat) : OneLine (toString number) := by
  intro c hc
  have hdigit : c.isDigit := isDigit_of_mem_toString hc
  constructor <;>
  · rintro rfl
    revert hdigit
    decide

theorem oneLine_intercalate {words : List String} (h : ∀ word ∈ words, OneLine word) :
    OneLine (" ".intercalate words) := by
  induction words with
  | nil => decide
  | cons word words ih =>
    have hword : OneLine word := h word List.mem_cons_self
    have hwords := ih fun other hother => h other (List.mem_cons_of_mem word hother)
    cases words with
    | nil => simpa using hword
    | cons next words =>
      rw [String.intercalate_cons_cons]
      exact (hword.append (by decide)).append hwords

end Text

/-! What the checks let through. -/

theorem bind_eq_ok {ε α β : Type} {first : Except ε α} {rest : α → Except ε β} {result : β}
    (h : (first >>= rest) = .ok result) : ∃ value, first = .ok value ∧ rest value = .ok result := by
  cases first with
  | error cause => cases h
  | ok value => exact ⟨value, rfl, h⟩

@[simp]
theorem checkLine_bind {α : Type} {field text : String} {rest : Unit → Except CommandFault α}
    {result : α} :
    (checkLine field text >>= rest) = .ok result ↔ Text.OneLine text ∧ rest () = .ok result := by
  rw [← Text.hasLineBreak_eq_false_iff, checkLine]
  cases Text.hasLineBreak text <;> simp [bind, Except.bind]

theorem checkFilled_bind {α : Type} {field text : String} {rest : Unit → Except CommandFault α}
    {result : α} (h : (checkFilled field text >>= rest) = .ok result) : rest () = .ok result := by
  rw [checkFilled] at h
  cases hblank : Text.isBlankText text <;> simp_all [bind, Except.bind]

theorem checkEach_bind {α : Type} {field : String} {text : Option String}
    {rest : Unit → Except CommandFault α} {result : α}
    (h : (text.forM (checkLine field) >>= rest) = .ok result) :
    (∀ line ∈ text, Text.OneLine line) ∧ rest () = .ok result := by
  cases text with
  | none => simpa [bind, Except.bind, pure, Except.pure] using h
  | some line => simpa using checkLine_bind.mp h

namespace Command

theorem checkWord_bind {α : Type} {field text : String} {rest : Unit → Except CommandFault α}
    {result : α} (h : (checkWord field text >>= rest) = .ok result) :
    Text.OneLine text ∧ rest () = .ok result := by
  rw [checkWord, bind_assoc] at h
  exact checkLine_bind.mp (checkFilled_bind h)

/-- A line of a command says something and has no break in it. -/
structure Sendable (line : String) : Prop where
  line_ne : line ≠ ""
  oneLine : Text.OneLine line

def AllSendable (lines : List String) : Prop := lines ≠ [] ∧ ∀ line ∈ lines, Sendable line

theorem sendable_line {verb : String} {words : List String} (hne : verb ≠ "")
    (hverb : Text.OneLine verb) (hwords : ∀ word ∈ words, Text.OneLine word) :
    AllSendable (line (verb :: words)) := by
  refine ⟨List.cons_ne_nil _ _, ?_⟩
  intro written hwritten
  obtain rfl := List.mem_singleton.mp hwritten
  refine ⟨?_, Text.oneLine_intercalate (List.forall_mem_cons.mpr ⟨hverb, hwords⟩)⟩
  cases words with
  | nil => simpa using hne
  | cons word words => simp [String.intercalate_cons_cons, hne]

theorem sendable_field {name value : String} (hne : name ≠ "") (hname : Text.OneLine name)
    (hvalue : Text.OneLine value) : Sendable (name ++ value) :=
  ⟨by simp [hne], hname.append hvalue⟩

theorem oneLine_format (format : EventFormat) : Text.OneLine format.word := by
  cases format <;> decide

theorem oneLine_level (level : LogLevel) : Text.OneLine level.word := by
  cases level <;> decide

theorem oneLine_cause (cause : HangupCause) : Text.OneLine cause.word := by
  cases cause <;> decide +kernel

theorem headLine_sendable {target : Option String} {head : String}
    (h : Sendmsg.headLine target = .ok head) : Sendable head := by
  cases target with
  | none =>
    cases h
    exact ⟨by decide, by decide⟩
  | some leg =>
    obtain ⟨hleg, hhead⟩ := checkLine_bind.mp h
    cases hhead
    exact sendable_field (by decide) (by decide) hleg

theorem sendmsg_sendable {message : Sendmsg} {lines : List String}
    (h : message.lines = .ok lines) : AllSendable lines := by
  obtain ⟨happ, h⟩ := checkLine_bind.mp (checkFilled_bind h)
  obtain ⟨hargument, h⟩ := checkEach_bind h
  obtain ⟨head, hhead, hlines⟩ := bind_eq_ok h
  have hvalue : Text.OneLine (message.argument.getD "") := by
    cases hargument' : message.argument with
    | none => decide
    | some argument => exact hargument argument hargument'
  cases hlines
  refine ⟨by simp, ?_⟩
  intro line hline
  simp only [List.mem_append, List.mem_cons, List.not_mem_nil, or_false] at hline
  rcases hline with (rfl | rfl | rfl | rfl | rfl) | hlock
  · exact headLine_sendable hhead
  · exact ⟨by decide, by decide⟩
  · exact sendable_field (by decide) (by decide) happ
  · exact sendable_field (by decide) (by decide) hvalue
  · exact sendable_field (by decide) (by decide) (Text.oneLine_toString _)
  · split at hlock
    · obtain rfl := List.mem_singleton.mp hlock
      exact ⟨by decide, by decide⟩
    · cases hlock

theorem lines_sendable {command : Command} {lines : List String} (h : command.lines = .ok lines) :
    AllSendable lines := by
  cases command with
  | auth password =>
    obtain ⟨hpassword, hlines⟩ := checkLine_bind.mp h
    cases hlines
    exact sendable_line (by decide) (by decide) (by simpa using hpassword)
  | userauth user password =>
    obtain ⟨huser, h⟩ := checkLine_bind.mp h
    obtain ⟨hpassword, hlines⟩ := checkLine_bind.mp h
    cases hlines
    have hcolon : Text.OneLine ":" := by decide
    have hboth := (huser.append hcolon).append hpassword
    exact sendable_line (by decide) (by decide) (by simpa using hboth)
  | api text | bgapi text | nixevent events | getvar name =>
    obtain ⟨htext, hlines⟩ := checkWord_bind h
    cases hlines
    exact sendable_line (by decide) (by decide) (by simpa using htext)
  | event format events =>
    obtain ⟨hevents, hlines⟩ := checkWord_bind h
    cases hlines
    exact sendable_line (by decide) (by decide) (by simpa using ⟨oneLine_format format, hevents⟩)
  | filter header value =>
    obtain ⟨hheader, h⟩ := checkWord_bind h
    obtain ⟨hvalue, hlines⟩ := checkLine_bind.mp h
    cases hlines
    exact sendable_line (by decide) (by decide) (by simpa using ⟨hheader, hvalue⟩)
  | filterDelete header value =>
    obtain ⟨hheader, h⟩ := checkWord_bind h
    obtain ⟨hvalue, hlines⟩ := checkEach_bind h
    cases hlines
    have hdelete : Text.OneLine "delete" := by decide
    refine sendable_line (by decide) (by decide) ?_
    simpa [hdelete, hheader] using hvalue
  | log level =>
    cases h
    exact sendable_line (by decide) (by decide) (by simpa using oneLine_level level)
  | noevents | nolog | exit | connect | nolinger | resume =>
    cases h
    exact sendable_line (by decide) (by decide) (by simp)
  | myevents format leg =>
    obtain ⟨hleg, hlines⟩ := checkEach_bind h
    cases hlines
    refine sendable_line (by decide) (by decide) ?_
    intro word hword
    rcases List.mem_append.mp hword with hleg' | hformat
    · exact hleg word (Option.mem_toList.mp hleg')
    · rw [List.mem_singleton.mp hformat]
      exact oneLine_format format
  | linger seconds =>
    cases h
    refine sendable_line (by decide) (by decide) ?_
    intro word hword
    obtain ⟨count, -, rfl⟩ := Option.map_eq_some_iff.mp (Option.mem_toList.mp hword)
    exact Text.oneLine_toString count
  | divertEvents on =>
    cases h
    exact sendable_line (by decide) (by decide) (by cases on <;> decide)
  | sendmsg message => exact sendmsg_sendable h
  | hangup leg cause =>
    obtain ⟨head, hhead, hlines⟩ := bind_eq_ok h
    cases hlines
    refine ⟨by simp, ?_⟩
    intro line hline
    simp only [List.mem_cons, List.not_mem_nil, or_false] at hline
    rcases hline with rfl | rfl | rfl
    · exact headLine_sendable hhead
    · exact ⟨by decide, by decide⟩
    · exact sendable_field (by decide) (by decide) (oneLine_cause cause)

end Command

/-! The other side reads up to two line feeds in a row, and then from there on. -/

/-- What stands before the first two line feeds in a row, and what stands behind them. -/
def cutBlock : List Char → Option (List Char × List Char)
  | [] => none
  | [_] => none
  | c :: d :: rest =>
    if c = '\n' ∧ d = '\n' then some ([], rest)
    else (cutBlock (d :: rest)).map fun cut => (c :: cut.1, cut.2)

theorem length_cutBlock_lt {chars block rest : List Char}
    (h : cutBlock chars = some (block, rest)) : rest.length < chars.length := by
  fun_induction cutBlock chars generalizing block with
  | case1 => cases h
  | case2 => cases h
  | case3 c d more =>
    cases h
    simp only [List.length_cons]
    omega
  | case4 c d more hne ih =>
    obtain ⟨⟨front, back⟩, hcut, hpair⟩ := Option.map_eq_some_iff.mp h
    cases hpair
    have hless := ih hcut
    simp only [List.length_cons] at hless ⊢
    omega

/-- The lines of each block, and what follows the last. -/
def readBlocks (chars : List Char) : List (List String) × List Char :=
  match _h : cutBlock chars with
  | none => ([], chars)
  | some (block, rest) =>
    let (blocks, unread) := readBlocks rest
    ((block.splitOn '\n').map String.ofList :: blocks, unread)
termination_by chars.length
decreasing_by exact length_cutBlock_lt (by assumption)

theorem readBlocks_of_cut {chars block rest : List Char} (h : cutBlock chars = some (block, rest)) :
    readBlocks chars =
      ((block.splitOn '\n').map String.ofList :: (readBlocks rest).1, (readBlocks rest).2) := by
  rw [readBlocks]
  split <;> simp_all

theorem cutBlock_feeds (rest : List Char) : cutBlock ('\n' :: '\n' :: rest) = some ([], rest) := by
  simp [cutBlock]

theorem cutBlock_feed {chars : List Char} {c : Char} (h : c ≠ '\n') :
    cutBlock ('\n' :: c :: chars) =
      (cutBlock (c :: chars)).map fun cut => ('\n' :: cut.1, cut.2) := by
  simp [cutBlock, h]

theorem cutBlock_append {line : List Char} (h : '\n' ∉ line) (rest : List Char) :
    cutBlock (line ++ rest) = (cutBlock rest).map fun cut => (line ++ cut.1, cut.2) := by
  induction line with
  | nil => simp
  | cons c line ih =>
    obtain ⟨hc, hline⟩ := List.ne_and_not_mem_of_not_mem_cons h
    have hskip : cutBlock (c :: (line ++ rest)) =
        (cutBlock (line ++ rest)).map fun cut => (c :: cut.1, cut.2) := by
      cases hrest : line ++ rest with
      | nil => rfl
      | cons d more => simp [cutBlock, Ne.symm hc]
    rw [List.cons_append, hskip, ih hline, Option.map_map]
    rfl

namespace Command

theorem Sendable.noFeed {line : String} (h : Sendable line) : '\n' ∉ line.toList :=
  fun hfeed => (h.oneLine '\n' hfeed).1 rfl

theorem Sendable.exists_cons {line : String} (h : Sendable line) :
    ∃ c chars, line.toList = c :: chars ∧ c ≠ '\n' := by
  have hne : line.toList ≠ [] := by simpa using h.line_ne
  obtain ⟨c, chars, hline⟩ := List.exists_cons_of_ne_nil hne
  refine ⟨c, chars, hline, ?_⟩
  exact (h.oneLine c (hline ▸ List.mem_cons_self)).1

theorem toList_wireOfLines (lines : List String) :
    (wireOfLines lines).toList =
      (lines.flatMap fun line => line.toList ++ ['\n']) ++ ['\n'] := by
  simp [wireOfLines, List.flatMap_map]

theorem cutBlock_wire {lines : List String} (h : AllSendable lines) (more : List Char) :
    cutBlock ((wireOfLines lines).toList ++ more) =
      some (['\n'].intercalate (lines.map String.toList), more) := by
  obtain ⟨hne, hlines⟩ := h
  rw [toList_wireOfLines]
  induction lines with
  | nil => exact absurd rfl hne
  | cons line lines ih =>
    have hline : Sendable line := hlines line List.mem_cons_self
    rw [List.flatMap_cons]
    simp only [List.append_assoc]
    rw [cutBlock_append hline.noFeed]
    cases lines with
    | nil => simp [cutBlock_feeds]
    | cons next lines =>
      have hrest := ih (List.cons_ne_nil _ _) fun other hother =>
        hlines other (List.mem_cons_of_mem line hother)
      obtain ⟨c, chars, hnext, hc⟩ := (hlines next (by simp)).exists_cons
      simp only [List.flatMap_cons, hnext, List.append_assoc, List.cons_append,
        List.nil_append] at hrest ⊢
      rw [cutBlock_feed hc, hrest]
      simp [hnext]

theorem splitOn_lines {lines : List String} (h : AllSendable lines) :
    ((['\n'].intercalate (lines.map String.toList)).splitOn '\n').map String.ofList = lines := by
  obtain ⟨hne, hlines⟩ := h
  have hfree : ∀ chars ∈ lines.map String.toList, '\n' ∉ chars := by
    intro chars hchars
    obtain ⟨line, hline, rfl⟩ := List.mem_map.mp hchars
    exact (hlines line hline).noFeed
  rw [List.splitOn_intercalate '\n' hfree (by simpa using hne), List.map_map]
  simp [Function.comp_def]

theorem wire_eq_ok {command : Command} {text : String} (h : command.wire = .ok text) :
    ∃ lines, command.lines = .ok lines ∧ text = wireOfLines lines := by
  cases hlines : command.lines with
  | error cause => simp [wire, hlines, Except.map] at h
  | ok lines =>
    simp only [wire, hlines, Except.map, Except.ok.injEq] at h
    exact ⟨lines, rfl, h.symm⟩

/-- Commands that can be sent are each sent as their lines, in which no break comes from a caller,
and a reader that knows nothing of commands gets exactly these lines back, command by command. -/
theorem wires_told_apart (commands : List Command) (texts : List String)
    (h : commands.mapM wire = .ok texts) :
    ∃ lineLists : List (List String),
      commands.mapM lines = .ok lineLists ∧
      texts = lineLists.map (fun lines => String.join (lines.map (· ++ "\n")) ++ "\n") ∧
      (∀ lines ∈ lineLists, AllSendable lines) ∧
      readBlocks (String.join texts).toList = (lineLists, []) := by
  induction commands generalizing texts with
  | nil =>
    cases h
    exact ⟨[], rfl, rfl, by simp, by simp [readBlocks, cutBlock]⟩
  | cons command commands ih =>
    rw [List.mapM_cons] at h
    obtain ⟨text, htext, h⟩ := bind_eq_ok h
    obtain ⟨texts, htexts, h⟩ := bind_eq_ok h
    cases h
    obtain ⟨lines, hlines, rfl⟩ := wire_eq_ok htext
    obtain ⟨lineLists, hlineLists, rfl, hsendable, hread⟩ := ih texts htexts
    have hown := lines_sendable hlines
    refine ⟨lines :: lineLists, ?_, rfl, List.forall_mem_cons.mpr ⟨hown, hsendable⟩, ?_⟩
    · rw [List.mapM_cons, hlines, hlineLists]
      rfl
    · rw [String.toList_join, List.flatMap_cons, ← String.toList_join,
        readBlocks_of_cut (cutBlock_wire hown _), hread, splitOn_lines hown]

theorem wires_told_apart_two :
    [api "status", hangup none .userBusy].mapM wire =
        .ok ["api status\n\n", "sendmsg\ncall-command: hangup\nhangup-cause: USER_BUSY\n\n"] ∧
      ∃ lineLists : List (List String),
        [api "status", hangup none .userBusy].mapM lines = .ok lineLists ∧
        readBlocks (String.join ["api status\n\n",
          "sendmsg\ncall-command: hangup\nhangup-cause: USER_BUSY\n\n"]).toList =
            (lineLists, []) := by
  have hwire : [api "status", hangup none .userBusy].mapM wire =
      .ok ["api status\n\n", "sendmsg\ncall-command: hangup\nhangup-cause: USER_BUSY\n\n"] := by
    decide +kernel
  obtain ⟨lineLists, hlines, -, -, hread⟩ := wires_told_apart _ _ hwire
  exact ⟨hwire, lineLists, hlines, hread⟩

end Command

end EventSocket
