import EventSocket.Proofs.Session.Correlation
import EventSocket.Proofs.Session.Leaving
import Mathlib.Data.List.Infix

/-!
Callers that go away. One that is in line leaves nothing behind, and one that has written its
command leaves a place to which the reply goes unheard; neither makes a difference to the others.
One that goes away in between leaves the place without the command, and the next reply goes there.
-/

namespace EventSocket

/-- A command has been left, or has failed, before all of it was written. -/
def Happening.cuts : Happening → Bool
  | cutOff _ | failed _ => true
  | called _ | entered _ | wrote .. | routed _ | drained => false

/-- No command has been left or has failed before all of it was written. -/
def Uncut (log : List Happening) : Prop := ∀ happening ∈ log, happening.cuts = false

instance (log : List Happening) : Decidable (Uncut log) := List.decidableBAll _ _

/-- The commands of which every byte has been written. -/
def wholeSends (log : List Happening) : List Send :=
  (sends log).filter fun send => written log send.id = octets send.wire

/-- The switch replies to commands that it has received whole, and to each at most once. -/
def AnswersWhole (log : List Happening) : Prop :=
  ∀ soFar ∈ log.inits, (repliesIn soFar).length ≤ (wholeSends soFar).length

instance (log : List Happening) : Decidable (AnswersWhole log) := List.decidableBAll _ _

section

variable {log more : List Happening} {id : CommandId}

theorem Uncut.not_failed (h : Uncut log) (id : CommandId) : .failed id ∉ log := by
  intro hmem
  have hcuts := h _ hmem
  cases hcuts

theorem Uncut.not_cutOff (h : Uncut log) (id : CommandId) : .cutOff id ∉ log := by
  intro hmem
  have hcuts := h _ hmem
  cases hcuts

theorem Uncut.of_append (h : Uncut (log ++ more)) : Uncut log :=
  fun happening hmem => h happening (List.mem_append_left more hmem)

theorem AnswersWhole.of_append (h : AnswersWhole (log ++ more)) : AnswersWhole log := by
  intro soFar hsoFar
  rw [List.mem_inits] at hsoFar
  exact h soFar ((List.mem_inits _ _).mpr (hsoFar.trans (List.prefix_append log more)))

theorem AnswersWhole.length_le (h : AnswersWhole log) :
    (repliesIn log).length ≤ (wholeSends log).length :=
  h log ((List.mem_inits _ _).mpr List.prefix_rfl)

theorem Uncut.kept (h : Uncut log) : Pending.Kept (slotActions log) :=
  fun id hmem => h.not_failed id (Session.withdraw_mem_slotActions.mp hmem)

end

namespace Pending

variable {actions : List SlotAction}

/-- As long as nobody takes a command back and the queue has not been drained, whoever has left it
has got a reply. -/
theorem settled_run_answered (pending : Pending) (hkept : Kept actions)
    (hopen : .failAll ∉ actions) :
    (pending.run actions).settled.length + pending.answers.length =
      (pending.run actions).answers.length + pending.settled.length := by
  induction actions generalizing pending with
  | nil => exact Nat.add_comm _ _
  | cons action actions ih =>
    rw [List.mem_cons, not_or] at hopen
    have hrest := ih (pending.perform action)
      (fun id hmem => hkept id (List.mem_cons_of_mem _ hmem)) hopen.2
    have hstep : (pending.perform action).settled.length + pending.answers.length =
        (pending.perform action).answers.length + pending.settled.length := by
      cases action with
      | register id =>
        by_cases hclosed : pending.closed <;>
          simp [perform, register, answers, hclosed, Nat.add_comm]
      | withdraw id => exact absurd (List.mem_cons_self ..) (hkept id)
      | resolve reply =>
        cases hqueue : pending.waiting <;> simp [perform, resolve, answers, hqueue] <;> omega
      | failAll => exact absurd rfl hopen.1
    rw [run_cons]
    omega

/-- In such a history, as long as every reply has found somebody waiting, those that wait are all
but the first ones that have lined up, and there are as many of these as replies. -/
theorem waiting_eq_drop (hkept : Kept actions) (hopen : .failAll ∉ actions)
    (hsync : (empty.run actions).desynced = false) :
    (empty.run actions).waiting = (empty.admitted actions).drop (replies actions).length := by
  have horder := order_run empty hkept
  have hsettled := settled_run_answered empty hkept hopen
  have hanswers := answers_run empty actions
  rw [(not_desynced_of_run hsync).2] at hanswers
  have hcount : (empty.run actions).settledIds.length = (replies actions).length := by
    simp only [settledIds, List.length_map]
    simp [empty, answers] at hsettled hanswers ⊢
    omega
  have hadmitted : empty.admitted actions =
      (empty.run actions).settledIds ++ (empty.run actions).waiting := by
    simpa [empty, settledIds] using horder.symm
  rw [hadmitted, ← hcount, List.drop_left]

end Pending

namespace Session

variable {start session session' : Session} {log : List Happening} {opening : Opening}
  {channelData : Option Event} {move : Move}

/-- While the reader runs the commands that wait have not been told of any end. -/
theorem Run.not_drained (run : start.Run log session) (hreader : session.reader = .running) :
    .drained ∉ log := by
  induction run with
  | start => exact List.not_mem_nil
  | @step log session session' run move hfresh hmove ih =>
    have hbefore : session.reader = .running := by
      by_contra hstopped
      exact hstopped (((lives_perform hmove).stopped hstopped).2.mp hreader)
    rw [List.mem_append, not_or]
    refine ⟨ih hbefore, fun hdrained => ?_⟩
    cases happens_of_mem hdrained with
    | drained hfailing =>
      rw [hbefore] at hfailing
      cases hfailing

theorem repliesIn_append (log more : List Happening) :
    repliesIn (log ++ more) = repliesIn log ++ repliesIn more := by
  simp [repliesIn]

theorem length_wholeSends_le (log : List Happening) :
    (wholeSends log).length ≤ (sends log).length :=
  List.length_filter_le _ _

/-- Only what the reader hands on can be a reply. -/
theorem replies_of_move (h : repliesIn (session.happenings move) ≠ []) :
    ∃ frame, session.reader = .running ∧ frame.kind.isReply = true ∧
      session.happenings move = [.routed frame] := by
  obtain ⟨frame, hreply⟩ := List.exists_mem_of_ne_nil _ h
  obtain ⟨hframe, hkind⟩ := List.mem_filter.mp hreply
  obtain ⟨happening, hhappens, hrouted⟩ := List.mem_filterMap.mp hframe
  cases happens_of_mem hhappens with
  | routed hrunning hnext =>
    obtain rfl := Option.some.inj hrouted
    exact ⟨_, hrunning, hkind, by simp [happenings, readerHappenings, hrunning, hnext]⟩
  | _ => cases hrouted

/-- Those wait that have lined up behind as many as there were replies. -/
theorem Coherent.waiting_eq_drop (h : Coherent start log session) (huncut : Uncut log)
    (hopen : .drained ∉ log) (hsync : session.pending.desynced = false) :
    session.pending.waiting = ((sends log).drop (repliesIn log).length).map Send.id := by
  rw [h.queue.pending] at hsync ⊢
  rw [Pending.waiting_eq_drop huncut.kept (mt failAll_mem_slotActions.mp hopen) hsync,
    h.queue.admitted, replies_slotActions, List.map_drop, repliesIn]

/-- No reply finds the queue empty. -/
theorem Run.in_sync (run : (opening.session channelData).Run log session) (huncut : Uncut log)
    (hswitch : AnswersWhole log) : session.pending.desynced = false := by
  induction run with
  | start => rfl
  | @step log session session' run move hfresh hmove ih =>
    have hsync := ih huncut.of_append hswitch.of_append
    rw [pending_perform hmove, Bool.eq_false_iff, ne_eq, Pending.desynced_run, hsync]
    by_cases hreply : repliesIn (session.happenings move) = []
    · have hcount := Pending.answers_run session.pending (slotActions (session.happenings move))
      rw [replies_slotActions, ← repliesIn, hreply,
        Pending.answers_run_of_nil _ (by rw [replies_slotActions, ← repliesIn, hreply])] at hcount
      simpa using hcount
    · -- There are more whole commands than there have been replies, so somebody waits.
      obtain ⟨frame, hreader, hkind, hhappened⟩ := replies_of_move hreply
      have hwaiting := (coherent_session run).waiting_eq_drop huncut.of_append
        (run.not_drained hreader) hsync
      have hcount := (hhappened ▸ hswitch).length_le.trans (length_wholeSends_le _)
      have hone : repliesIn [.routed frame] = [frame] := by
        simp [repliesIn, framesIn, Happening.frame?, hkind]
      have hactions : slotActions [.routed frame] = [.resolve frame] := by
        simp [slotActions, Happening.slotAction?, hkind]
      have hsends : sends (log ++ [.routed frame]) = sends log := by simp [Happening.send?]
      rw [repliesIn_append, hone, hsends, List.length_append, List.length_singleton] at hcount
      have hsome : session.pending.waiting ≠ [] := by
        rw [hwaiting, ne_eq, List.map_eq_nil_iff, List.drop_eq_nil_iff]
        omega
      simp [hhappened, hactions, Pending.orphaned, Pending.orphans, hsome]

/-- All commands are whole but perhaps the last, whose caller still writes it. -/
theorem Coherent.sends_eq (h : Coherent start log session) (huncut : Uncut log) :
    sends log = wholeSends log ∨
      ∃ send, sends log = wholeSends log ++ [send] ∧ session.StillWriting log send := by
  have hwriting : ∀ send ∈ sends log, written log send.id ≠ octets send.wire →
      session.StillWriting log send := by
    intro send hsend hpart
    rcases h.whole hsend with (hwhole | hfailed | hcut) | hstill
    · exact absurd hwhole.symm hpart
    · exact absurd hfailed (huncut.not_failed send.id)
    · exact absurd hcut (huncut.not_cutOff send.id)
    · exact hstill
  by_cases hall : ∀ send ∈ sends log, written log send.id = octets send.wire
  · exact Or.inl (List.filter_eq_self.mpr fun send hsend => decide_eq_true (hall send hsend)).symm
  · push Not at hall
    obtain ⟨last, hlast, hpart⟩ := hall
    have hstill := hwriting last hlast hpart
    obtain ⟨before, caller, rest, hsends, -⟩ := id hstill
    refine Or.inr ⟨last, ?_, hstill⟩
    -- Another that is not whole would be the last one as well.
    have hbefore : ∀ send ∈ before, written log send.id = octets send.wire := by
      intro send hsend
      by_contra hother
      obtain ⟨before', -, -, hsends', -⟩ :=
        hwriting send (hsends ▸ List.mem_append_left _ hsend) hother
      obtain ⟨-, hsame⟩ := List.append_inj' (hsends.symm.trans hsends') rfl
      obtain rfl := List.singleton_inj.mp hsame
      have hids := h.identified.ids
      rw [hsends, List.map_append, List.nodup_append] at hids
      exact hids.2.2 _ (List.mem_map_of_mem hsend) _ (List.mem_singleton_self _) rfl
    rw [hsends, wholeSends, hsends, List.filter_append,
      List.filter_eq_self.mpr fun send hsend => decide_eq_true (hbefore send hsend)]
    simp [hpart]

/-- Bytes and replies are in step: what has been sent are whole commands and perhaps the beginning
of one more, and every reply belongs to the command at its place and goes to the caller of it. -/
structure InStep (start : Session) (log : List Happening) (session : Session) : Prop where
  puts : ∀ send ∈ sends log, send.request.Puts send.wire
  bytes : ∃ part, octets session.transport.sent =
      octets start.transport.sent ++ ((wholeSends log).flatMap fun send => octets send.wire) ++
        part ∧
    (part = [] ∨ ∃ send, sends log = wholeSends log ++ [send] ∧ session.StillWriting log send ∧
      part <+: octets send.wire)
  replies : ∀ (place : Nat) (reply : Frame), (repliesIn log)[place]? = some reply →
    ∃ send, (wholeSends log)[place]? = some send ∧
      session.pending.settlement? send.id = some (.answered reply) ∧
      ∀ caller ∈ session.callers, caller.number = send.number → session.Gets caller send reply
  waiting : .drained ∉ log →
    session.pending.waiting = ((sends log).drop (repliesIn log).length).map Send.id

theorem in_step_unless_cut (run : (opening.session channelData).Run log session)
    (huncut : Uncut log) (hswitch : AnswersWhole log) :
    InStep (opening.session channelData) log session := by
  have h := coherent_session run
  have hsync := run.in_sync huncut hswitch
  have hwhole : ∀ send ∈ wholeSends log, written log send.id = octets send.wire :=
    fun send hsend => of_decide_eq_true (List.mem_filter.mp hsend).2
  constructor
  case puts => exact h.wire.puts
  case waiting => exact fun hopen => h.waiting_eq_drop huncut hopen hsync
  case bytes =>
    have hbytes : ((wholeSends log).flatMap fun send => written log send.id) =
        (wholeSends log).flatMap fun send => octets send.wire :=
      List.flatMap_congr hwhole
    rcases h.sends_eq huncut with hall | ⟨send, hsends, hstill⟩
    · refine ⟨[], ?_, Or.inl rfl⟩
      rw [h.wire.sent, List.append_nil, ← hbytes, ← hall]
    · obtain ⟨-, -, rest, -, -, -, -, -, hwire⟩ := id hstill
      refine ⟨written log send.id, ?_,
        Or.inr ⟨send, hsends, hstill, hwire ▸ List.prefix_append _ _⟩⟩
      rw [h.wire.sent, hsends, List.flatMap_append, hbytes, List.append_assoc]
      simp
  case replies =>
    intro place reply hreply
    obtain ⟨send, hsend, hsettled, hgets⟩ := h.paired huncut.not_failed hsync hreply
    refine ⟨send, ?_, hsettled, hgets⟩
    have hplace : place < (wholeSends log).length :=
      (List.getElem?_eq_some_iff.mp hreply).1.trans_le hswitch.length_le
    rcases h.sends_eq huncut with hall | ⟨last, hsends, -⟩
    · rwa [hall] at hsend
    · rwa [hsends, List.getElem?_append_left hplace] at hsend

def badReply : Frame :=
  .ofHeaders [(contentTypeName, "command/reply"), (replyTextName, "-ERR")] []

/-- The first of two callers goes away while it waits for the reply to its command. -/
def leftWaiting : List Move :=
  [.call 1 .noEvents, .call 2 .noLog, .caller 1 0 20, .caller 1 0 20, .abandon 1, .caller 2 0 20,
    .caller 2 0 20,
    .network { Transport.new with
      received := ("Content-Type:command/reply\nReply-Text:+OK\n\n" ++
        "Content-Type:command/reply\nReply-Text:-ERR\n\n").toUTF8
      sent := "noevents\n\nnolog\n\n".toUTF8 },
    .reader 0 readLimit, .reader 0 readLimit, .reader 0 readLimit]

theorem in_step_unless_cut_left_waiting :
    ∃ log session, (outboundStart.session none).Run log session ∧ Uncut log ∧ AnswersWhole log ∧
      (wholeSends log).map Send.number = [1, 2] ∧ repliesIn log = [goodReply, badReply] ∧
      session.callers.map Caller.number = [2] ∧
      InStep (outboundStart.session none) log session := by
  have hmoves : ((outboundStart.session none).follow [] leftWaiting).any (fun reached =>
      Uncut reached.1 ∧ AnswersWhole reached.1 ∧ (wholeSends reached.1).map Send.number = [1, 2] ∧
        repliesIn reached.1 = [goodReply, badReply] ∧
        reached.2.callers.map Caller.number = [2]) = true := by
    decide +kernel
  obtain ⟨⟨log, session⟩, hfollow, hreached⟩ := (Option.any_eq_true _ _).mp hmoves
  obtain ⟨huncut, hswitch, hwhole, hreplies, hcallers⟩ := of_decide_eq_true hreached
  have run := Run.start.follow hfollow
  exact ⟨log, session, run, huncut, hswitch, hwhole, hreplies, hcallers,
    in_step_unless_cut run huncut hswitch⟩

/-- The first of two callers goes away at the front of the line, with so many bytes written. -/
def leftWriting (count : Nat) : List Move :=
  [.call 1 (.api "status"), .caller 1 0 0, .caller 1 0 count, .abandon 1,
    .call 2 (.api "version"), .caller 2 0 0, .caller 2 0 20,
    .network { Transport.new with
      received := "Content-Type:command/reply\nReply-Text:+OK\n\n".toUTF8
      sent := "api status\n\n".toUTF8.extract 0 count ++ "api version\n\n".toUTF8 },
    .reader 0 readLimit, .reader 0 readLimit]

/-- The switch has answered the one command that it has received whole, and its caller still waits:
the reply has gone to the place of the command that was left with so many bytes written. -/
def ReplyAstray (count : Nat) : Prop :=
  ∃ log session, (outboundStart.session none).Run log session ∧ AnswersWhole log ∧
    (wholeSends log).map Send.number = [2] ∧ repliesIn log = [goodReply] ∧
    octets session.transport.sent =
      (Text.codes "api status\n\n").take count ++ Text.codes "api version\n\n" ∧
    session.pending.settled = [(⟨1⟩, .answered goodReply)] ∧ session.pending.waiting = [⟨2⟩]

theorem reply_goes_to_left_command : ReplyAstray 0 ∧ ReplyAstray 7 := by
  have hmoves : ∀ count ∈ [0, 7], ((outboundStart.session none).follow [] (leftWriting count)).any
      (fun reached => AnswersWhole reached.1 ∧ (wholeSends reached.1).map Send.number = [2] ∧
        repliesIn reached.1 = [goodReply] ∧
        octets reached.2.transport.sent =
          (Text.codes "api status\n\n").take count ++ Text.codes "api version\n\n" ∧
        reached.2.pending.settled = [(⟨1⟩, .answered goodReply)] ∧
        reached.2.pending.waiting = [⟨2⟩]) = true := by
    decide +kernel
  have hastray : ∀ count ∈ [0, 7], ReplyAstray count := by
    intro count hcount
    obtain ⟨⟨log, session⟩, hfollow, hreached⟩ := (Option.any_eq_true _ _).mp (hmoves count hcount)
    exact ⟨log, session, Run.start.follow hfollow, of_decide_eq_true hreached⟩
  exact ⟨hastray 0 (by simp), hastray 7 (by simp)⟩

end Session

end EventSocket
