import EventSocket.Proofs.Connection.Handshake
import EventSocket.Proofs.Session.Leaving

/-!
What arrives from the switch and is read. Only the reader of a session takes bytes off the transport
or frames off the decoder, and only until it has ended the session.
-/

namespace EventSocket

namespace DecoderView

theorem size_append (view : DecoderView) (bytes : List UInt8) :
    (view.append bytes).size = view.size + 2 * bytes.length := by
  simp only [size, append, List.length_append]
  split <;> omega

theorem size_next_none {view rest : DecoderView} (h : view.next = (.ok none, rest)) :
    rest.size ≤ view.size := by
  fun_induction next view with
  | case1 view after hturn =>
    cases h
    rw [turn_waiting hturn]
  | case2 view after hturn ih => exact Nat.le_trans (ih h) (size_turn_lt hturn (by simp)).le
  | case3 => cases h
  | case4 => cases h

end DecoderView

namespace Transport

variable {transport transport' : Transport} {most : Nat}

/-- The bytes that have arrived and have not been read. -/
def unread (transport : Transport) : List UInt8 :=
  (octets transport.received).drop transport.taken

/-- Nothing arrives any more: the switch has ended its stream, or reading fails. -/
def isOver (transport : Transport) : Bool := transport.ended || transport.readFailure.isSome

theorem length_unread (transport : Transport) :
    transport.unread.length = transport.available := by
  simp [unread, available]

theorem unread_eq_nil (hnone : transport.available = 0) : transport.unread = [] :=
  List.length_eq_zero_iff.mp (transport.length_unread.trans hnone)

/-- Between the two these bytes have arrived. What is over stays over, and no more comes. -/
structure Brings (before after : Transport) (bytes : List UInt8) : Prop where
  unread : after.unread = before.unread ++ bytes
  past : before.isOver = true → bytes = [] ∧ after.isOver = true

instance (before after : Transport) (bytes : List UInt8) : Decidable (before.Brings after bytes) :=
  decidable_of_iff
    (after.unread = before.unread ++ bytes ∧
      (before.isOver = true → bytes = [] ∧ after.isOver = true))
    ⟨fun h => ⟨h.1, h.2⟩, fun h => ⟨h.unread, h.past⟩⟩

/-- The side of the transport that is read is the same. -/
structure Alike (before after : Transport) : Prop where
  unread : after.unread = before.unread
  past : after.isOver = before.isOver

theorem alike_refl (transport : Transport) : transport.Alike transport := ⟨rfl, rfl⟩

theorem Alike.brings (h : transport.Alike transport') : transport.Brings transport' [] :=
  ⟨h.unread.trans (List.append_nil _).symm, fun hover => ⟨rfl, h.past.trans hover⟩⟩

theorem alike_shutdown (transport : Transport) : transport.Alike transport.shutdown.2 := by
  unfold shutdown
  split
  · exact transport.alike_refl
  · cases transport.shutdownFailure <;> exact ⟨rfl, rfl⟩

theorem alike_write (transport : Transport) (bytes : ByteArray) :
    transport.Alike (transport.write bytes).2 := by
  have hwrites := transport.write_writes bytes
  generalize (transport.write bytes).1 = outcome at hwrites
  generalize (transport.write bytes).2 = transport' at hwrites ⊢
  cases hwrites <;> exact ⟨rfl, rfl⟩

theorem Used.alike {ends : Prop} {after : Transport} (h : transport.Used ends after) :
    transport.Alike after := by
  cases h with
  | untouched => exact transport.alike_refl
  | written bytes => exact transport.alike_write bytes
  | shut _ => exact transport.alike_shutdown

/-- What is read is what has been unread for longest. -/
theorem read_eq {bytes : ByteArray} (h : (transport.read most).1 = .read bytes) :
    transport.unread = octets bytes ++ (transport.read most).2.unread := by
  unfold read at h ⊢
  split at h
  · next hsome =>
    obtain rfl := ReadOutcome.read.inj h
    rw [if_pos hsome]
    simp only [unread, octets_extract, List.drop_take, ← List.drop_drop]
    rw [Nat.add_sub_cancel_left, List.take_append_drop]
  · split at h <;> (try split at h) <;> cases h

/-- A read takes at least a byte, if it may take one at all. -/
theorem read_less {bytes : ByteArray} (h : (transport.read most).1 = .read bytes)
    (hmost : 0 < most) :
    transport.available = bytes.size + (transport.read most).2.available ∧ 0 < bytes.size := by
  have hlength := congrArg List.length (read_eq h)
  rw [List.length_append, length_unread, length_unread, length_octets] at hlength
  refine ⟨hlength, ?_⟩
  have hreads := transport.read_reads most
  rw [h] at hreads
  generalize hafter : (transport.read most).2 = transport' at hreads
  cases hreads with
  | read hsome hsent hless =>
    rw [hafter] at hlength
    omega

theorem read_failed {text : String} (h : (transport.read most).1 = .failed text) :
    transport.unread = [] ∧ transport.isOver = true := by
  have hreads := transport.read_reads most
  rw [h] at hreads
  generalize (transport.read most).2 = transport' at hreads
  cases hreads with
  | failed hnone hfailure => exact ⟨unread_eq_nil hnone, by simp [isOver, hfailure]⟩

theorem read_ended (h : (transport.read most).1 = .ended) :
    transport.unread = [] ∧ transport.isOver = true := by
  have hreads := transport.read_reads most
  rw [h] at hreads
  generalize (transport.read most).2 = transport' at hreads
  cases hreads with
  | ended hnone hfailure hended => exact ⟨unread_eq_nil hnone, by simp [isOver, hended]⟩

theorem read_waiting (h : (transport.read most).1 = .waiting) : transport.unread = [] := by
  have hreads := transport.read_reads most
  rw [h] at hreads
  generalize (transport.read most).2 = transport' at hreads
  cases hreads with
  | waiting hquiet => exact unread_eq_nil hquiet.available

end Transport

/-- The reader goes on behind every other frame. -/
def Frame.endsSession (frame : Frame) : Bool :=
  match frame.kind with
  | .event =>
    match Event.ofFrame frame with
    | .ok _ => false
    | .error _ => true
  | .disconnectNotice => !Session.lingers frame
  | .authRequest | .commandReply | .apiResponse | .logData | .other _ => false

/-- The frames up to the first that ends a session, and that one. -/
def throughEnd : List Frame → List Frame
  | [] => []
  | frame :: frames => if frame.endsSession then [frame] else frame :: throughEnd frames

section

variable {frames more : List Frame} {frame : Frame}

theorem throughEnd_append (hmild : ∀ frame ∈ frames, frame.endsSession = false)
    (more : List Frame) : throughEnd (frames ++ more) = frames ++ throughEnd more := by
  induction frames with
  | nil => rfl
  | cons frame frames ih =>
    rw [List.forall_mem_cons] at hmild
    rw [List.cons_append, throughEnd, hmild.1, if_neg Bool.false_ne_true, ih hmild.2,
      List.cons_append]

theorem throughEnd_of_mild (hmild : ∀ frame ∈ frames, frame.endsSession = false) :
    throughEnd frames = frames := by
  simpa [throughEnd] using throughEnd_append hmild []

theorem throughEnd_of_ends (hmild : ∀ frame ∈ frames, frame.endsSession = false)
    (hends : frame.endsSession = true) (more : List Frame) :
    throughEnd (frames ++ frame :: more) = frames ++ [frame] := by
  rw [throughEnd_append hmild, throughEnd, if_pos hends]

end

namespace Session

variable {session session' : Session} {caller : Caller} {move : Move} {now most : Nat}

/-- Nothing has been read between the two. -/
structure Unreads (session session' : Session) : Prop where
  decoder : session'.decoder = session.decoder
  transport : session.transport.Alike session'.transport

theorem unreads_of_eq (hdecoder : session'.decoder = session.decoder)
    (htransport : session'.transport = session.transport) : session.Unreads session' :=
  ⟨hdecoder, htransport ▸ session.transport.alike_refl⟩

theorem unreads_call (session : Session) (number : Nat) (request : Request) :
    session.Unreads (session.call number request) := by
  obtain ⟨_, _, _, _, hreach⟩ := session.call_reach number request
  rw [hreach]
  exact unreads_of_eq rfl rfl

theorem unreads_callerTurn (h : session.callerTurn now most caller = some session') :
    session.Unreads session' := by
  obtain ⟨transport, _, _, _, _, rfl, hused⟩ := callerTurn_reach h
  exact ⟨rfl, hused.alike⟩

theorem unreads_readerTurn (hreader : session.reader ≠ .running)
    (h : session.readerTurn now most = some session') : session.Unreads session' := by
  cases readerTurn_goes h with
  | routes hrunning | reads hrunning | breaks hrunning => exact absurd hrunning hreader
  | shuts => exact ⟨rfl, session.transport.alike_shutdown⟩
  | leaves | drains | endsGeneral | endsJobs => exact unreads_of_eq rfl rfl

end Session

end EventSocket
