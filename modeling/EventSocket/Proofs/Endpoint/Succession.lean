import EventSocket.Proofs.Connection.Admission
import EventSocket.Proofs.Endpoint.Desk

/-!
The sessions of a client, one after another. The call at the front of the line takes leave of the
session in use, and only then begins to open the next. So a client uses one session at a time;
another that goes on has been left behind, because it could not be closed.
-/

namespace EventSocket.Endpoint

variable {settings : Settings} {log more : List Deed} {endpoint endpoint' : Endpoint}
  {connection : Connection} {call other : Call} {plan : OpeningPlan} {index before number : Nat}

theorem Tended.front (h : endpoint.Tended log) (hcall : call ∈ endpoint.calls)
    (hindex : index ∈ connected log) (huses : call.phase.Uses index) :
    endpoint.AtFront call.number := by
  have hattends := h.attends call hcall
  cases hphase : call.phase with
  | opening index' =>
    rw [hphase] at huses
    obtain rfl : index' = index := huses
    simp only [Attends, hphase] at hattends
    rcases hattends with ⟨-, hfront⟩ | ⟨hnot, -⟩
    · exact hfront
    · exact absurd hindex hnot
  | relieving index' plan before =>
    simp only [Attends, hphase] at hattends
    exact hattends.2.2.1
  | _ => rw [hphase] at huses; exact huses.elim

/-- While a call is at the front of the line, no other uses a session of the client. -/
theorem Tended.alone (h : endpoint.Tended log) (hsound : endpoint.Sound)
    (hcall : call ∈ endpoint.calls) (hserves : endpoint.desk.line.serves call.number)
    (hother : other ∈ endpoint.calls) (hindex : index ∈ connected log)
    (huses : other.phase.Uses index) : other = call :=
  hsound.eq_of_number hcall hother
    (Line.serves_unique hserves (h.front hother hindex huses).1)

/-- A call that uses no session of the client goes on. -/
theorem Tended.aside (h : endpoint.Tended log) (hsound : endpoint.Sound) (phase : CallPhase)
    (hcall : call ∈ endpoint.calls) (hnone : ∀ index ∈ connected log, ¬ call.phase.Uses index)
    (hcarries : endpoint.Carries log [] endpoint') (hdesk : endpoint'.desk = endpoint.desk)
    (hnext : endpoint'.nextCall = endpoint.nextCall)
    (hcalls : endpoint'.calls = (endpoint.setPhase call.number phase).calls)
    (hattends : endpoint'.Attends log ⟨call.number, phase⟩)
    (harrivals : ∀ index ∈ endpoint'.reception.arrivals, index ∈ endpoint.reception.arrivals) :
    endpoint'.Tended log := by
  refine h.quiet hsound hcarries hdesk hnext.ge ?_ ?_ ?_
  · intro other hother
    rcases mem_setPhase (hcalls ▸ hother) with ⟨hold, -⟩ | rfl
    · exact Or.inl hold
    · exact Or.inr hattends
  · intro other hother index hindex huses
    rw [hcalls]
    refine mem_setPhase_of_ne hother fun hnumber => ?_
    rw [hsound.eq_of_number hcall hother hnumber] at huses
    exact hnone index hindex huses
  · exact fun index hindex => Or.inl (harrivals index hindex)

/-- Whoever opens a session that is not the client's uses none of the client's. -/
theorem not_uses_opening (hphase : call.phase = .opening index) (hindex : index ∉ connected log) :
    ∀ other ∈ connected log, ¬ call.phase.Uses other := by
  intro other hother huses
  rw [hphase] at huses
  obtain rfl : index = other := huses
  exact hindex hother

theorem leave_of_not_mem {line : Line Nat} (h : number ∉ line.members) :
    line.leave number = line := by
  unfold Line.leave
  rw [List.filter_eq_self.mpr]
  intro member hmember
  rw [decide_eq_true_eq]
  rintro rfl
  exact h hmember

theorem not_serves {line : Line Nat} (h : number ∉ line.members) : line.serves number = false := by
  rw [Bool.eq_false_iff]
  intro hserves
  exact h (List.mem_of_mem_head? (Line.serves_iff.mp hserves))

/-- A call that uses no session of the client attends to what it did, whatever the one at the front
of the line does. -/
theorem Attends.beside (h : endpoint.Attends log call)
    (hnone : ∀ index ∈ connected log, ¬ call.phase.Uses index)
    (hlength : endpoint.connections.length = endpoint'.connections.length)
    (haside : call.number ∉ endpoint.desk.line.members →
      call.number ∉ endpoint'.desk.line.members) : endpoint'.Attends log call := by
  unfold Attends at h ⊢
  cases hphase : call.phase with
  | inLine index plan => simpa only [hphase] using h
  | relieving index plan before =>
    simp only [hphase] at h
    exact absurd (by rw [hphase]; rfl) (hnone before h.2.1)
  | opening index =>
    simp only [hphase] at h ⊢
    rcases h with ⟨hindex, -⟩ | ⟨hindex, hknown, hline⟩
    · exact absurd (by rw [hphase]; rfl) (hnone index hindex)
    · exact Or.inr ⟨hindex, hlength ▸ hknown, haside hline⟩
  | onSession index =>
    simp only [hphase] at h ⊢
    exact haside h
  | accepting =>
    simp only [hphase] at h ⊢
    exact haside h
  | finished result =>
    simp only [hphase] at h ⊢
    exact haside h

/-- The call at the front of the line is over, and the next one is served. -/
theorem Tended.leaves {result : Except Fault CallOutcome} {current latest : Option Nat}
    {sessions : List Nat} (h : endpoint.Tended log) (hsound : endpoint.Sound)
    (hcall : call ∈ endpoint.calls) (hphase : call.phase = .opening index)
    (hfront : endpoint.AtFront call.number)
    (hclosed : ∀ attempt, endpoint.connection? index ≠ some (.opening attempt))
    (hcurrent : ∀ other, current = some other → other = index ∧ index ∈ connected log ∧
      ∃ session, endpoint.session? index = some session)
    (hgoing : endpoint.Ongoing index → current = some index) :
    (({ endpoint with
      sessions
      desk := ⟨endpoint.desk.line.leave call.number, current, latest⟩ } : Endpoint).finish
        call.number result).Tended log where
  known := h.known
  arrivals := h.arrivals
  members := fun number hnumber => h.members number (List.mem_filter.mp hnumber).1
  attends := by
    intro other hother
    rcases mem_setPhase hother with ⟨hold, hne⟩ | rfl
    · refine (h.attends other hold).beside ?_ rfl fun hline hmem =>
        hline (List.mem_filter.mp hmem).1
      intro index hindex huses
      exact hne (h.alone hsound hcall hfront.1 hold hindex huses ▸ rfl)
    · simp [Attends, finish, Endpoint.setPhase, Line.leave]
  current := by
    intro other hother
    obtain ⟨rfl, hindex, hsession⟩ := hcurrent other hother
    exact ⟨hindex, hsession⟩
  openings := by
    intro other hother attempt hattempt
    obtain ⟨call', hcall', hphase'⟩ := h.openings other hother attempt hattempt
    obtain rfl := h.alone hsound hcall hfront.1 hcall' hother (by rw [hphase']; rfl)
    obtain rfl := CallPhase.opening.inj (hphase.symm.trans hphase')
    exact absurd hattempt (hclosed attempt)
  ongoing := by
    intro other hother hongoing
    rcases h.ongoing other hother hongoing with (hnow | ⟨call', hcall', huses⟩) | hbehind
    · rw [hfront.2] at hnow
      cases hnow
    · obtain rfl := h.alone hsound hcall hfront.1 hcall' hother huses
      rw [hphase] at huses
      obtain rfl : index = other := huses
      exact Or.inl (Or.inl (hgoing hongoing))
    · exact Or.inr hbehind

/-- The call at the front of the line begins to open its session, once no other goes on that has not
been left behind. -/
theorem Tended.begun (h : endpoint.Tended log) (hsound : endpoint.Sound)
    (hcall : call ∈ endpoint.calls) (hphase : ∀ index, call.phase ≠ .opening index)
    (hfront : endpoint.AtFront call.number) (hindex : index ∈ connected log)
    (hdone : ∀ other ∈ connected log, endpoint.Ongoing other → LeftBehind log other) :
    (endpoint.beginAttempt call.number index plan).Tended log where
  known := by
    intro other hother
    have hknown := h.known other hother
    rwa [← List.length_modify (fun connection => connection.start plan endpoint.now)
      endpoint.connections index] at hknown
  arrivals := by
    intro other hother
    obtain ⟨hlog, hknown⟩ := h.arrivals other hother
    rw [← List.length_modify (fun connection => connection.start plan endpoint.now)
      endpoint.connections index] at hknown
    exact ⟨hlog, hknown⟩
  members := h.members
  attends := by
    intro other hother
    rcases mem_setPhase hother with ⟨hold, hne⟩ | rfl
    · refine (h.attends other hold).beside ?_ (List.length_modify ..).symm id
      intro index hindex huses
      exact hne (h.alone hsound hcall hfront.1 hold hindex huses ▸ rfl)
    · exact Or.inl ⟨hindex, hfront⟩
  current := by
    intro other hother
    rw [show (endpoint.beginAttempt call.number index plan).desk.current = none from hfront.2]
      at hother
    cases hother
  openings := by
    intro other hother attempt hattempt
    by_cases hsame : index = other
    · subst hsame
      exact ⟨_, self_mem_setPhase endpoint hcall, rfl⟩
    · have hbefore : endpoint.connection? other = some (.opening attempt) := by
        have hmap := connection?_mapConnection endpoint index
          (fun connection => connection.start plan endpoint.now) other
        rw [show (endpoint.mapConnection index _).connection? other = _ from hattempt] at hmap
        simpa [hsame] using hmap.symm
      obtain ⟨call', hcall', hphase'⟩ := h.openings other hother attempt hbefore
      obtain rfl := h.alone hsound hcall hfront.1 hcall' hother (by rw [hphase']; rfl)
      exact absurd hphase' (hphase other)
  ongoing := by
    rintro other hother ⟨session, hsession, hgoing⟩
    refine Or.inr (hdone other hother ⟨session, ?_, hgoing⟩)
    have hmap := connection?_mapConnection endpoint index
      (fun connection => connection.start plan endpoint.now) other
    rw [show (endpoint.mapConnection index _).connection? other = _ from
      session?_eq_some.mp hsession] at hmap
    obtain ⟨connection, hfound, hstart⟩ := Option.map_eq_some_iff.mp hmap.symm
    rw [session?_eq_some, hfound]
    split at hstart
    · cases connection <;> cases hstart
      rfl
    · exact congrArg some hstart

/-- A session that is given up for the next one has ended, or is left behind. -/
theorem Tended.part (h : endpoint.Tended log)
    (hdone : ∀ other ∈ connected log, endpoint.Ongoing other → LeftBehind log other) :
    ({ endpoint with desk := { endpoint.desk with current := none } } : Endpoint).Tended log where
  known := h.known
  arrivals := h.arrivals
  members := h.members
  attends := by
    intro call hcall
    have hattends := h.attends call hcall
    unfold Attends at hattends ⊢
    cases hphase : call.phase with
    | relieving index plan before =>
      simp only [hphase] at hattends ⊢
      exact ⟨hattends.1, hattends.2.1, ⟨hattends.2.2.1.1, rfl⟩, hattends.2.2.2⟩
    | opening index =>
      simp only [hphase] at hattends ⊢
      exact hattends.imp_left fun hfront => ⟨hfront.1, hfront.2.1, rfl⟩
    | _ => simpa only [hphase] using hattends
  current := by simp
  openings := h.openings
  ongoing := fun other hother hgoing => Or.inr (hdone other hother hgoing)

theorem Tended.append (h : endpoint.Tended log) (hsound : endpoint.Sound)
    (hmore : connected more = []) : endpoint.Tended (log ++ more) :=
  h.beside hsound (carries_of_eq rfl hmore) (Nat.le_refl _) rfl (fun _ => Or.inl)
    (fun _ _ _ hserves => hserves) (fun _ => Or.inl) (fun _ hcall _ _ _ => Or.inl hcall)
    fun _ => Or.inl

theorem exists_told {result : Except Fault Answer}
    (h : endpoint.told? index number = some result) :
    ∃ session, endpoint.session? index = some session ∧ ∃ caller ∈ session.callers,
      caller.number = number ∧ caller.phase = .told result := by
  obtain ⟨session, hsession, htold⟩ := Option.bind_eq_some_iff.mp h
  obtain ⟨caller, hfound, htold⟩ := Option.bind_eq_some_iff.mp htold
  obtain ⟨hcaller, hnumber⟩ := Session.mem_of_caller? hfound
  refine ⟨session, hsession, caller, hcaller, hnumber, ?_⟩
  split at htold
  · next result' hphase =>
    obtain rfl := Option.some.inj htold
    exact hphase
  · cases htold

/-- Whoever has taken leave of a session has ended it, or could not write to it. -/
theorem Tended.relieved {result : Except Fault Answer} {plan : OpeningPlan}
    (h : endpoint.Tended log) (hsound : endpoint.Sound) (hcall : call ∈ endpoint.calls)
    (hphase : call.phase = .relieving index plan before)
    (htold : endpoint.told? before call.number = some result) :
    (endpoint.beginAttempt call.number index plan).Tended (log ++ [.relieved before result]) := by
  have hattends := h.attends call hcall
  simp only [Attends, hphase] at hattends
  obtain ⟨hindex, hbefore, hfront, session, hsession, hasks⟩ := hattends
  have hmore : connected [.relieved before result] = [] := rfl
  have hlog : connected (log ++ [.relieved before result]) = connected log := by
    rw [connected_append, hmore, List.append_nil]
  refine (h.append hsound hmore).begun hsound hcall (by simp [hphase]) hfront (hlog ▸ hindex) ?_
  intro other hother hgoing
  rw [hlog] at hother
  rcases h.ongoing other hother hgoing with (hnow | ⟨call', hcall', huses⟩) | hbehind
  · rw [hfront.2] at hnow
    cases hnow
  · -- The session that goes on is the one that was to be closed.
    obtain rfl := h.alone hsound hcall hfront.1 hcall' hother huses
    rw [hphase] at huses
    obtain rfl : before = other := huses
    obtain ⟨session', hsession', caller, hcaller, hnumber, htold⟩ := exists_told htold
    obtain rfl := Option.some.inj (hsession.symm.trans hsession')
    obtain ⟨session'', hsession'', hgoing⟩ := hgoing
    obtain rfl := Option.some.inj (hsession.symm.trans hsession'')
    have hclose : caller.request = .close :=
      hasks caller.request (hnumber ▸ List.mem_map_of_mem hcaller)
    have hsuits := (hsound.orderly hsession).1.suits caller hcaller
    unfold Session.Suits at hsuits
    rw [htold] at hsuits
    cases result with
    | ok answer =>
      rw [hsuits hclose] at hgoing
      cases hgoing
    | error fault =>
      obtain ⟨text, rfl⟩ := hsuits hclose
      exact Or.inl ⟨text, by simp⟩
  · exact hbehind.append _

/-- The call at the front of the line takes leave of the session in use. -/
theorem Tended.relieves {session : Session} {plan : OpeningPlan} (h : endpoint.Tended log)
    (hsound : endpoint.Sound) (hcall : call ∈ endpoint.calls)
    (hphase : call.phase = .inLine index plan) (hserves : endpoint.desk.line.serves call.number)
    (hcurrent : endpoint.desk.current = some before)
    (hsession : endpoint.session? before = some session) :
    (({ endpoint with desk := { endpoint.desk with current := none } }.mapSession before
      fun session => session.call call.number .close).setPhase call.number
        (.relieving index plan before)).Tended log := by
  have hindex : index ∈ connected log := by
    have hattends := h.attends call hcall
    simpa only [Attends, hphase] using hattends
  have hbefore := (h.current before hcurrent).1
  have hnone : ∀ index ∈ connected log, ¬ call.phase.Uses index := by
    simp [hphase, CallPhase.Uses]
  -- Nobody else has business with a session of the client.
  have hothers : ∀ other ∈ endpoint.calls, ∀ index ∈ connected log, ¬ other.phase.Uses index := by
    intro other hother index hindex huses
    obtain rfl := h.alone hsound hcall hserves hother hindex huses
    exact hnone index hindex huses
  have hasked : ∀ request, (call.number, request) ∉ session.asks := by
    intro request hask
    obtain ⟨caller, hcaller, hpair⟩ := List.mem_map.mp hask
    refine hsound.not_asked hsession ?_ (List.mem_map.mpr ⟨caller, hcaller, rfl⟩)
    rw [(Prod.mk.inj hpair).1]
    exact fun hspent => hspent.2 call hcall rfl (by rw [hphase]; trivial)
  have hconnection (other : Nat) :=
    connection?_mapConnection endpoint before
      (.mapSession fun session => session.call call.number .close) other
  have hlength : endpoint.connections.length = (endpoint.mapSession before
      fun session => session.call call.number .close).connections.length :=
    (List.length_modify ..).symm
  constructor
  case known => exact fun other hother => hlength ▸ h.known other hother
  case arrivals => exact fun other hother => hlength ▸ h.arrivals other hother
  case members => exact h.members
  case attends =>
    intro other hother
    rcases mem_setPhase hother with ⟨hold, -⟩ | rfl
    · exact (h.attends other hold).beside (hothers other hold) hlength id
    · refine ⟨hindex, hbefore, ⟨hserves, rfl⟩, session.call call.number .close, ?_, ?_⟩
      · have hmap := hconnection before
        rw [session?_eq_some.mp hsession] at hmap
        exact session?_eq_some.mpr (hmap.trans (by simp [Connection.mapSession]))
      · intro request hask
        rw [Session.asks_call, List.mem_append, List.mem_singleton] at hask
        rcases hask with hold | hnew
        · exact absurd hold (hasked request)
        · exact (Prod.mk.inj hnew).2
  case current => simp [Endpoint.setPhase, mapSession, mapConnection]
  case openings =>
    intro other hother attempt hattempt
    obtain ⟨connection, hfound, hchanged⟩ := Option.map_eq_some_iff.mp
      ((hconnection other).symm.trans hattempt)
    have hopening : connection = .opening attempt := by
      split at hchanged
      · cases connection <;> first | exact hchanged | cases hchanged
      · exact hchanged
    obtain ⟨call', hcall', hphase'⟩ := h.openings other hother attempt (hopening ▸ hfound)
    exact absurd (by rw [hphase']; rfl) (hothers call' hcall' other hother)
  case ongoing =>
    rintro other hother ⟨session', hsession', hgoing⟩
    have hongoing : endpoint.Ongoing other := by
      obtain ⟨connection, hfound, hchanged⟩ := Option.map_eq_some_iff.mp
        ((hconnection other).symm.trans (session?_eq_some.mp hsession'))
      split at hchanged
      · cases connection <;> cases hchanged
        next session'' =>
          refine ⟨session'', session?_eq_some.mpr hfound, ?_⟩
          rwa [(Session.aside_call session'' call.number .close).state] at hgoing
      · exact ⟨session', session?_eq_some.mpr (hchanged ▸ hfound), hgoing⟩
    rcases h.ongoing other hother hongoing with (hnow | ⟨call', hcall', huses⟩) | hbehind
    · obtain rfl := Option.some.inj (hcurrent.symm.trans hnow)
      refine Or.inl (Or.inr ⟨⟨call.number, .relieving index plan before⟩, ?_, rfl⟩)
      exact self_mem_setPhase endpoint hcall
    · exact absurd huses (hothers call' hcall' other hother)
    · exact Or.inr hbehind

/-- The call at the front of the line finds no session that could still be used, and opens its
own. -/
theorem Tended.begins {plan : OpeningPlan} (h : endpoint.Tended log) (hsound : endpoint.Sound)
    (hcall : call ∈ endpoint.calls) (hphase : call.phase = .inLine index plan)
    (hserves : endpoint.desk.line.serves call.number)
    (hnone : ∀ before, endpoint.desk.current = some before →
      ∀ session, endpoint.session? before = some session → session.state ≠ .ready) :
    (({ endpoint with desk := { endpoint.desk with current := none } }).beginAttempt call.number
      index plan).Tended log := by
  have hindex : index ∈ connected log := by
    have hattends := h.attends call hcall
    simpa only [Attends, hphase] using hattends
  have hdone : ∀ other ∈ connected log, endpoint.Ongoing other → LeftBehind log other := by
    intro other hother hgoing
    rcases h.ongoing other hother hgoing with (hnow | ⟨call', hcall', huses⟩) | hbehind
    · obtain ⟨session, hsession, hgoing⟩ := hgoing
      cases (hsound.orderly hsession).2 with
      | ready hready => exact absurd hready (hnone other hnow session hsession)
      | closed hclosed =>
        rw [hclosed] at hgoing
        cases hgoing
    · obtain rfl := h.alone hsound hcall hserves hcall' hother huses
      rw [hphase] at huses
      exact huses.elim
    · exact hbehind
  have hsound' : ({ endpoint with
      desk := { endpoint.desk with current := none } } : Endpoint).Sound :=
    ⟨hsound.numbers, hsound.below, hsound.hosts⟩
  exact (h.part hdone).begun hsound' hcall (by simp [hphase]) ⟨hserves, rfl⟩ hindex hdone

theorem Tended.turns (h : endpoint.Tended log) (hsound : endpoint.Sound)
    (hcall : call ∈ endpoint.calls) (hturns : endpoint.Turns call endpoint') :
    endpoint'.Tended (log ++ endpoint.deeds (.callTurn call.number)) := by
  have hfound := hsound.call?_of_mem hcall
  have hattends := h.attends call hcall
  cases hturns with
  | answered hphase htold =>
    simp only [deeds, hfound, Option.map_some, hphase, List.append_nil]
    simp only [Attends, hphase] at hattends
    exact h.aside hsound _ hcall (by simp [hphase, CallPhase.Uses]) (carries_of_eq rfl rfl) rfl rfl
      rfl hattends fun _ => id
  | @opened index session hphase hlive =>
    simp only [deeds, hfound, Option.map_some, hphase, List.append_nil]
    simp only [Attends, hphase] at hattends
    rcases hattends with ⟨hindex, hfront⟩ | ⟨hindex, hknown, hline⟩
    · rw [if_pos hfront.1]
      exact h.leaves hsound hcall hphase hfront (by simp [hlive])
        (fun other hother => ⟨(Option.some.inj hother).symm, hindex, session,
          session?_eq_some.mpr hlive⟩) fun _ => rfl
    · rw [if_neg (by simp [not_serves hline])]
      exact h.aside hsound _ hcall (not_uses_opening hphase hindex) (carries_of_eq rfl rfl) rfl rfl
        rfl hline fun _ => id
  | @failed index transport fault hphase hfailed =>
    simp only [deeds, hfound, Option.map_some, hphase, List.append_nil]
    simp only [Attends, hphase] at hattends
    rcases hattends with ⟨hindex, hfront⟩ | ⟨hindex, hknown, hline⟩
    · refine h.leaves hsound hcall hphase hfront (by simp [hfailed]) ?_ ?_
      · intro other hother
        rw [hfront.2] at hother
        cases hother
      · rintro ⟨session, hsession, -⟩
        rw [session?_eq_some, hfailed] at hsession
        cases hsession
    · rw [leave_of_not_mem hline]
      exact h.aside hsound _ hcall (not_uses_opening hphase hindex) (carries_of_eq rfl rfl) rfl rfl
        rfl hline fun _ => id
  | begins hphase hserves hnone =>
    simp only [deeds, hfound, Option.map_some, hphase, List.append_nil]
    exact h.begins hsound hcall hphase hserves hnone
  | relieves hphase hserves hcurrent hsession hready =>
    simp only [deeds, hfound, Option.map_some, hphase, List.append_nil]
    exact h.relieves hsound hcall hphase hserves hcurrent hsession
  | relieved hphase htold =>
    simp only [deeds, hfound, Option.map_some, hphase, htold, Option.toList_some]
    exact h.relieved hsound hcall hphase htold
  | @accepts index arrivals hphase harrivals =>
    simp only [deeds, hfound, Option.map_some, hphase, List.append_nil]
    simp only [Attends, hphase] at hattends
    obtain ⟨hindex, hknown⟩ := h.arrivals index (by simp [harrivals])
    refine h.aside hsound (.opening index) hcall (by simp [hphase, CallPhase.Uses]) ?_ rfl
      rfl rfl (Or.inr ⟨hindex, ?_, hattends⟩) ?_
    · exact carries_mapConnection rfl rfl fun hmem => absurd hmem hindex
    · exact Nat.lt_of_lt_of_eq hknown (List.length_modify ..).symm
    · intro other hother
      rw [harrivals]
      exact List.mem_cons_of_mem _ hother

theorem Tended.perform (h : endpoint.Tended log) (hsound : endpoint.Sound) {move : EndpointMove}
    (hmove : endpoint.perform move = some endpoint') :
    endpoint'.Tended (log ++ endpoint.deeds move) := by
  by_cases hturn : ∃ number, move = .callTurn number
  · obtain ⟨number, rfl⟩ := hturn
    cases moves_of_perform hmove with
    | callTurn hfound hturns =>
      obtain ⟨hcall, rfl⟩ := mem_of_call? hfound
      exact h.turns hsound hcall hturns
  have hcarries := carries_perform log hmove (by simpa using hturn)
  have hquiet (hdeeds : endpoint.deeds move = [])
      (hafter : endpoint.Carries log [] endpoint' → endpoint'.Tended log) :
      endpoint'.Tended (log ++ endpoint.deeds move) := by
    rw [hdeeds] at hcarries ⊢
    rw [List.append_nil]
    exact hafter hcarries
  cases moves_of_perform hmove with
  | connect credentials link timeout => exact h.connect hsound credentials link timeout hcarries
  | cancel hwaits => exact h.cancel hsound hwaits hcarries
  | callTurn => exact absurd ⟨_, rfl⟩ hturn
  | openStream handshake => exact hquiet rfl (h.openStream hsound handshake)
  | arrive => exact hquiet rfl (h.arrive hsound)
  | accept =>
    exact hquiet rfl fun hcarries => h.join hsound .accepting hcarries rfl rfl rfl rfl id
  | call request | asksCurrent request => exact hquiet rfl (h.callOn hsound _ request)
  | asksNobody request result =>
    exact hquiet rfl fun hcarries => h.join hsound (.finished result) hcarries rfl rfl rfl rfl id
  | collect => exact hquiet rfl (h.collect hsound)
  | listen | listeners | threads | connection | deliver | tick =>
    exact hquiet rfl fun hcarries => h.calm hsound hcarries rfl rfl rfl rfl

theorem Run.tended (run : Run settings log endpoint) : endpoint.Tended log := by
  induction run with
  | start => constructor <;> simp [Endpoint.new, connected, Line.empty]
  | step run move hmove ih => exact ih.perform run.sound hmove

theorem uses_unique {phase : CallPhase} {index other : Nat} (h : phase.Uses index)
    (hother : phase.Uses other) : other = index := by
  cases phase with
  | opening index' => exact (hother : index' = other).symm.trans h
  | relieving index' plan before => exact (hother : before = other).symm.trans h
  | _ => exact h.elim

theorem Tended.inUse_unique {other : Nat} (h : endpoint.Tended log) (hsound : endpoint.Sound)
    (hindex : index ∈ connected log) (hother : other ∈ connected log)
    (huse : endpoint.InUse index) (huse' : endpoint.InUse other) : other = index := by
  have hnone (number' : Nat) {call' : Call} (hcall' : call' ∈ endpoint.calls)
      (hconnected : number' ∈ connected log) (huses : call'.phase.Uses number') (now : Nat) :
      endpoint.desk.current ≠ some now := by
    rw [(h.front hcall' hconnected huses).2]
    simp
  rcases huse with hnow | ⟨call, hcall, huses⟩ <;>
    rcases huse' with hnow' | ⟨call', hcall', huses'⟩
  · exact Option.some.inj (hnow'.symm.trans hnow)
  · exact absurd hnow (hnone other hcall' hother huses' index)
  · exact absurd hnow' (hnone index hcall hindex huses other)
  · obtain rfl := h.alone hsound hcall (h.front hcall hindex huses).1 hcall' hother huses'
    exact uses_unique huses huses'

/-- What the sessions of a client have to do with one another. -/
structure OneAtATime (log : List Deed) (endpoint : Endpoint) : Prop where
  one : ∀ index ∈ connected log, ∀ other ∈ connected log,
    endpoint.Ongoing index → ¬ LeftBehind log index →
      endpoint.Ongoing other → ¬ LeftBehind log other → other = index
  /-- While a session is being opened, every other has ended or has been left behind. -/
  opening : ∀ call ∈ endpoint.calls, ∀ index ∈ connected log, call.phase = .opening index →
    ∀ other ∈ connected log, endpoint.Ongoing other → other = index ∨ LeftBehind log other
  /-- No session that has ended hands on an event. -/
  silent : ∀ index session, endpoint.session? index = some session →
    session.state.isTerminal = true → ∀ move session', session.perform move = some session' →
      session.HandsOnNothing session'

/-- The call opens a session with a willing peer. -/
def openingMoves (index number : Nat) : List EndpointMove :=
  .callTurn number :: List.replicate 5 (.connection index (.opening readLimit)) ++
    [.callTurn number]

def connectMoves (index timeout : Nat) : List EndpointMove :=
  [.connect (.password "ClueCon") .stream timeout,
    .connection index (.network Connection.willingPeer)]

/-- What the switch has to say to a client that takes leave of it. -/
def farewell : Transport :=
  { Transport.new with
    received := "Content-Type: command/reply\nReply-Text: +OK bye\n\n".toUTF8
    sent := "auth ClueCon\n\nexit\n\n".toUTF8
    ended := true }

/-- A client connects twice, and the switch answers when it takes leave in between. -/
def successionMoves : List EndpointMove :=
  connectMoves 0 5000 ++ openingMoves 0 0 ++ connectMoves 1 5000 ++
    [.callTurn 1, .connection 0 (.caller 1 readLimit), .connection 0 (.caller 1 readLimit),
      .connection 0 (.network farewell), .connection 0 (.reader readLimit),
      .connection 0 (.reader readLimit), .connection 0 (.caller 1 0), .connection 0 (.caller 1 0),
      .connection 0 (.reader readLimit), .connection 0 (.caller 1 0)] ++
    openingMoves 1 1

def states (endpoint : Endpoint) : List SessionState := endpoint.connections.map Connection.state

/-- A client connects, ends its own stream and connects again. -/
def disconnectMoves : List EndpointMove :=
  connectMoves 0 5000 ++ openingMoves 0 0 ++
    [.call 0 .disconnect, .connection 0 (.caller 1 0), .callTurn 1] ++ connectMoves 1 5000 ++
    [.callTurn 2, .connection 0 (.caller 2 readLimit), .connection 0 (.caller 2 readLimit)] ++
    openingMoves 1 2

end EventSocket.Endpoint
