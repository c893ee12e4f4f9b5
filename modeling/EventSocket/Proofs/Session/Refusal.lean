import EventSocket.Proofs.Session.Leaving

/-!
What a session never says to a caller: that there is no connection. It is ready from the beginning
and closed in the end, and a command that comes too late is told that the connection is closed.
-/

namespace EventSocket

/-- What a caller can be told to have gone wrong after its call. -/
def Fault.isLate : Fault → Bool
  | io _ | connectionClosed | commandFailed _ | unexpectedReply _ | missingHeader _
  | invalidHeaderValue .. => true
  | _ => false

theorem Response.accept_late {response : Response} {fault : Fault}
    (h : response.accept = .error fault) : fault.isLate = true := by
  unfold accept at h
  split at h <;> cases h <;> rfl

theorem Response.jobUuid_late {response : Response} {fault : Fault}
    (h : response.jobUuid = .error fault) : fault.isLate = true := by
  unfold jobUuid at h
  dsimp only at h
  split at h
  · cases h
    rfl
  · split at h <;> cases h
    rfl

/-- However a reply is taken, it does not mean that there is no connection. -/
theorem Request.answer_late {request : Request} {response : Response} {fault : Fault}
    (h : request.answer response = .error fault) : fault.isLate = true := by
  cases request with
  | execute message | confirm command =>
    simp only [answer] at h
    cases hresult : response.accept with
    | ok accepted =>
      rw [hresult] at h
      cases h
    | error fault' =>
      rw [hresult] at h
      cases h
      exact Response.accept_late hresult
  | background text =>
    simp only [answer] at h
    cases hresult : response.accept with
    | error fault' =>
      rw [hresult] at h
      cases h
      exact Response.accept_late hresult
    | ok accepted =>
      cases hjobUuid : accepted.jobUuid with
      | ok uuid => simp [bind, Except.bind, hresult, hjobUuid, pure, Except.pure] at h
      | error fault' =>
        obtain rfl : fault' = fault := by simpa [bind, Except.bind, hresult, hjobUuid] using h
        exact Response.jobUuid_late hjobUuid
  | _ => simp [answer] at h

theorem Request.refusal?_ne_notConnected (request : Request) :
    request.refusal? ≠ some .notConnected := by
  unfold refusal?
  split
  · split <;> simp
  · split <;> simp
  · simp

namespace Session

variable {session session' : Session} {caller : Caller} {phase : CallerPhase}
  {number now most : Nat} {move : Move}

/-- Nobody has been told that there is no connection. -/
def Unrefusing (session : Session) : Prop :=
  ∀ caller ∈ session.callers, caller.phase ≠ .told (.error .notConnected)

theorem late_of_response {id : CommandId} {settlement : Settlement} {fault : Fault}
    (h : (response caller id settlement).bind caller.request.answer = .error fault) :
    fault.isLate = true := by
  cases hresponse : response caller id settlement with
  | ok response =>
    rw [hresponse] at h
    exact Request.answer_late h
  | error cause =>
    rw [hresponse] at h
    cases h
    obtain rfl := response_error hresponse
    rfl

/-- What a caller comes to be told by a turn. -/
theorem turned_late (h : session.callerTurn now most caller = some session') :
    ∃ phase, session.Turned caller phase session' ∧
      ∀ fault, phase = .told (.error fault) → fault.isLate = true := by
  obtain ⟨phase, hgoes⟩ := callerTurn_goes h
  cases hgoes.proceeds with
  | hears hphase hother =>
    simp only [callerTurn, hphase] at h
    obtain ⟨settlement, -, rfl⟩ := Option.map_eq_some_iff.mp h
    rw [takeReply_of_ne _ _ hother]
    refine ⟨_, turned_setPhase session caller _, ?_⟩
    intro fault hfault
    exact late_of_response (CallerPhase.told.inj hfault)
  | detaches hphase =>
    obtain ⟨-, result, hresult, rfl⟩ := callerTurn_detaching hphase h
    refine ⟨_, ⟨rfl, rfl, fun _ => serves_leaveLine⟩, ?_⟩
    rintro fault ⟨rfl⟩
    rcases hresult with hdone | ⟨text, hfailed⟩
    · cases hdone
    · obtain rfl := Except.error.inj hfailed
      rfl
  | refused hphase hother =>
    refine ⟨_, hgoes.turned, ?_⟩
    rintro fault ⟨rfl⟩
    rfl
  | fails hphase =>
    refine ⟨_, hgoes.turned, ?_⟩
    rintro fault ⟨rfl⟩
    rfl
  | _ => exact ⟨_, hgoes.turned, by simp⟩

theorem Unrefusing.setPhase (h : session.Unrefusing) (hcallers : session'.callers = session.callers)
    (number : Nat) (hphase : phase ≠ .told (.error .notConnected)) :
    (session'.setPhase number phase).Unrefusing := by
  intro other hother
  obtain ⟨before, hbefore, rfl⟩ := List.mem_map.mp hother
  split
  · exact hphase
  · exact h before (hcallers ▸ hbefore)

/-- A session that is ready or closed lines a command up, or says why it does not. -/
theorem Unrefusing.submit (h : session.Unrefusing) (hliving : session.Living) (number : Nat)
    (command : Command) : (session.submit number command).Unrefusing := by
  unfold Session.submit
  split
  · split
    · exact h.setPhase rfl number (by simp)
    · have hnumbered : ({ session with nextId := session.nextId.next } : Session).Unrefusing := h
      exact hnumbered.setPhase rfl number (by simp)
  · exact h.setPhase rfl number (by simp)
  · next hready hclosed =>
    cases hliving with
    | ready hstate => exact absurd hstate hready
    | closed hstate => exact absurd hstate (hclosed _)

theorem Unrefusing.enroll (h : session.Unrefusing) (number : Nat) (request : Request) :
    (session.enroll number request).Unrefusing := by
  intro caller hcaller
  rcases List.mem_append.mp hcaller with hold | hnew
  · exact h caller hold
  · rw [List.mem_singleton.mp hnew]
    simp

theorem Living.enroll (h : session.Living) (number : Nat) (request : Request) (asked : Bool) :
    ({ session.enroll number request with closeRequested := asked } : Session).Living := by
  cases h with
  | ready hstate hreader => exact .ready hstate hreader
  | closed hstate hreader => exact .closed hstate hreader

theorem Unrefusing.call (h : session.Unrefusing) (hliving : session.Living) (number : Nat)
    (request : Request) : (session.call number request).Unrefusing := by
  have henrolled := h.enroll number request
  unfold Session.call
  dsimp only
  split
  · exact henrolled
  · have hasked : ({ session.enroll number .disconnect with
        closeRequested := true } : Session).Unrefusing := henrolled
    exact hasked.setPhase rfl number (by simp)
  · split
    · exact henrolled.setPhase rfl number (by simp)
    · have hasked : ({ session.enroll number .close with
          closeRequested := true } : Session).Unrefusing := henrolled
      exact hasked.submit (hliving.enroll number .close true) number .exit
  · split
    · next hrefusal =>
      refine henrolled.setPhase rfl number ?_
      rintro ⟨rfl⟩
      exact Request.refusal?_ne_notConnected request hrefusal
    · exact henrolled.submit (hliving.enroll number request session.closeRequested) number _
    · exact henrolled.setPhase rfl number (by simp)

theorem Unrefusing.perform (h : session.Unrefusing) (hliving : session.Living)
    (hmove : session.perform move = some session') : session'.Unrefusing := by
  cases moves_of_perform hmove with
  | call number request => exact h.call hliving number request
  | @caller _ _ _ caller _ hfound hturn =>
    obtain ⟨phase, hturned, hlate⟩ := turned_late hturn
    have hphase : phase ≠ .told (.error .notConnected) := by
      intro htold
      cases hlate _ htold
    intro other hother
    rw [hturned.callers] at hother
    exact h.setPhase rfl caller.number hphase other hother
  | _ => exact fun caller hcaller => h caller (callers_subset (by simp) (by simp) hmove hcaller)

theorem Run.unrefusing {start : Session} {log : List Happening} (hcallers : start.callers = [])
    (hliving : start.Living) (run : start.Run log session) :
    session.Unrefusing ∧ session.Living := by
  induction run with
  | start => exact ⟨by simp [Unrefusing, hcallers], hliving⟩
  | step run move hfresh hmove ih => exact ⟨ih.1.perform ih.2 hmove, ih.2.perform hmove⟩

end Session

end EventSocket
