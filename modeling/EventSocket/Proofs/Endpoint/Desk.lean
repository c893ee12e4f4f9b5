import EventSocket.Proofs.Endpoint.Carriage

/-!
The desk at which a client connects. Whoever connects waits in line, and only the call at the front
takes leave of the session in use or opens the next one. Everybody else leaves the desk as it is.
-/

namespace EventSocket

/-- The session could not be closed, or whoever was closing it has gone away. -/
def LeftBehind (log : List Deed) (index : Nat) : Prop :=
  (∃ text, .relieved index (.error (.io text)) ∈ log) ∨ .forsaken index ∈ log

theorem LeftBehind.append {log : List Deed} {index : Nat} (h : LeftBehind log index)
    (more : List Deed) : LeftBehind (log ++ more) index := by
  rcases h with ⟨text, hmem⟩ | hmem
  · exact Or.inl ⟨text, List.mem_append_left _ hmem⟩
  · exact Or.inr (List.mem_append_left _ hmem)

/-- The call is opening a session on this connection, or takes leave of that session for the sake of
the next. -/
def CallPhase.Uses (index : Nat) : CallPhase → Prop
  | opening index' => index' = index
  | relieving _ _ before => before = index
  | _ => False

namespace Endpoint

variable {settings : Settings} {log more : List Deed} {endpoint endpoint' : Endpoint}
  {connection : Connection} {call other : Call} {plan : OpeningPlan} {index before number : Nat}

/-- There is a session that has not ended. -/
def Ongoing (endpoint : Endpoint) (index : Nat) : Prop :=
  ∃ session, endpoint.session? index = some session ∧ session.state.isTerminal = false

def AtFront (endpoint : Endpoint) (number : Nat) : Prop :=
  endpoint.desk.line.serves number ∧ endpoint.desk.current = none

def InUse (endpoint : Endpoint) (index : Nat) : Prop :=
  endpoint.desk.current = some index ∨ ∃ call ∈ endpoint.calls, call.phase.Uses index

/-- Only the call at the front of the line takes leave of a session, or opens one for the client. -/
def Attends (log : List Deed) (endpoint : Endpoint) (call : Call) : Prop :=
  match call.phase with
  | .inLine index _ => index ∈ connected log
  | .relieving index _ before =>
    index ∈ connected log ∧ before ∈ connected log ∧ endpoint.AtFront call.number ∧
      ∃ session, endpoint.session? before = some session ∧
        ∀ request, (call.number, request) ∈ session.asks → request = .close
  | .opening index =>
    index ∈ connected log ∧ endpoint.AtFront call.number ∨
      index ∉ connected log ∧ index < endpoint.connections.length ∧
        call.number ∉ endpoint.desk.line.members
  | .onSession _ | .accepting | .finished _ => call.number ∉ endpoint.desk.line.members

structure Tended (log : List Deed) (endpoint : Endpoint) : Prop where
  known : ∀ index ∈ connected log, index < endpoint.connections.length
  arrivals : ∀ index ∈ endpoint.reception.arrivals,
    index ∉ connected log ∧ index < endpoint.connections.length
  members : ∀ number ∈ endpoint.desk.line.members, number < endpoint.nextCall
  attends : ∀ call ∈ endpoint.calls, endpoint.Attends log call
  current : ∀ index, endpoint.desk.current = some index →
    index ∈ connected log ∧ ∃ session, endpoint.session? index = some session
  openings : ∀ index ∈ connected log, ∀ attempt,
    endpoint.connection? index = some (.opening attempt) →
      ∃ call ∈ endpoint.calls, call.phase = .opening index
  ongoing : ∀ index ∈ connected log, endpoint.Ongoing index →
    endpoint.InUse index ∨ LeftBehind log index

namespace Carries

variable (h : endpoint.Carries log more endpoint')
include h

/-- Where there is a connection now, there has been one that has gone on to it. -/
theorem back (htended : endpoint.Tended log) (hindex : index ∈ connected log)
    {connection' : Connection} (hfound : endpoint'.connection? index = some connection') :
    ∃ connection, endpoint.connection? index = some connection ∧
      connection.Goes endpoint.nextCall connection' := by
  obtain ⟨connection, hbefore⟩ := exists_connection? (htended.known index hindex)
  obtain ⟨connection'', hfound', hgoes⟩ := h.goes index hindex connection hbefore
  obtain rfl := Option.some.inj (hfound.symm.trans hfound')
  exact ⟨connection, hbefore, hgoes⟩

theorem opening (htended : endpoint.Tended log) (hindex : index ∈ connected log)
    {attempt' : Opening} (hfound : endpoint'.connection? index = some (.opening attempt')) :
    ∃ attempt, endpoint.connection? index = some (.opening attempt) := by
  obtain ⟨connection, hbefore, hgoes⟩ := h.back htended hindex hfound
  obtain ⟨attempt, rfl⟩ := hgoes.opening attempt' rfl
  exact ⟨attempt, hbefore⟩

/-- A session that goes on has been in use before, or has just been opened. -/
theorem ongoing (htended : endpoint.Tended log) (hindex : index ∈ connected log)
    (hgoing : endpoint'.Ongoing index) :
    endpoint.InUse index ∨ LeftBehind log index := by
  obtain ⟨session', hsession', hgoing'⟩ := hgoing
  obtain ⟨connection, hbefore, hgoes⟩ := h.back htended hindex (session?_eq_some.mp hsession')
  rcases hgoes.ongoing session' rfl hgoing' with ⟨attempt, rfl⟩ | ⟨session, rfl, hsession⟩
  · obtain ⟨call, hcall, hphase⟩ := htended.openings index hindex attempt hbefore
    exact Or.inl (Or.inr ⟨call, hcall, by rw [hphase]; rfl⟩)
  · exact htended.ongoing index hindex ⟨session, session?_eq_some.mpr hbefore, hsession⟩

/-- A call that has not gone on attends to what it did before. -/
theorem attends (hbelow : call.number < endpoint.nextCall) (hattends : endpoint.Attends log call)
    (hfront : endpoint.AtFront call.number → endpoint'.AtFront call.number)
    (haside : call.number ∉ endpoint.desk.line.members →
      call.number ∉ endpoint'.desk.line.members) :
    endpoint'.Attends (log ++ more) call := by
  unfold Attends at hattends ⊢
  rw [connected_append]
  split
  · next hphase =>
    rw [hphase] at hattends
    exact List.mem_append_left _ hattends
  · next hphase =>
    rw [hphase] at hattends
    obtain ⟨hindex, hbefore, hserved, session, hsession, hasks⟩ := hattends
    obtain ⟨session', hsession', hasks'⟩ := h.session hbefore hsession
    refine ⟨List.mem_append_left _ hindex, List.mem_append_left _ hbefore, hfront hserved, session',
      hsession', fun request hask => ?_⟩
    rcases hasks' _ hask with hold | hnew
    · exact hasks request hold
    · exact absurd hnew (Nat.ne_of_lt hbelow)
  · next hphase =>
    rw [hphase] at hattends
    rcases hattends with ⟨hindex, hserved⟩ | ⟨hindex, hknown, hline⟩
    · exact Or.inl ⟨List.mem_append_left _ hindex, hfront hserved⟩
    · refine Or.inr ⟨?_, Nat.lt_of_lt_of_le hknown h.length, haside hline⟩
      rw [List.mem_append, not_or]
      exact ⟨hindex, h.not_fresh hknown⟩
  all_goals
    next hphase =>
      rw [hphase] at hattends
      exact haside hattends

end Carries

/-- A move beside the desk: who is served stays so, and a call that used a session either still does
or has gone away from it. -/
theorem Tended.beside (h : endpoint.Tended log) (hsound : endpoint.Sound)
    (hcarries : endpoint.Carries log more endpoint')
    (hnext : endpoint.nextCall ≤ endpoint'.nextCall)
    (hcurrent : endpoint'.desk.current = endpoint.desk.current)
    (hmembers : ∀ number ∈ endpoint'.desk.line.members, number ∈ endpoint.desk.line.members ∨
      endpoint.nextCall ≤ number ∧ number < endpoint'.nextCall)
    (hserves : ∀ call ∈ endpoint.calls, call ∈ endpoint'.calls →
      endpoint.desk.line.serves call.number → endpoint'.desk.line.serves call.number)
    (hcalls : ∀ call ∈ endpoint'.calls,
      call ∈ endpoint.calls ∨ endpoint'.Attends (log ++ more) call)
    (hleft : ∀ call ∈ endpoint.calls, ∀ index ∈ connected log, call.phase.Uses index →
      call ∈ endpoint'.calls ∨
        (∀ attempt, endpoint'.connection? index ≠ some (.opening attempt)) ∧
          (endpoint'.Ongoing index → LeftBehind (log ++ more) index))
    (harrivals : ∀ index ∈ endpoint'.reception.arrivals, index ∈ endpoint.reception.arrivals ∨
      index ∉ connected (log ++ more) ∧ index < endpoint'.connections.length) :
    endpoint'.Tended (log ++ more) where
  known := by
    intro index hindex
    rw [connected_append, List.mem_append] at hindex
    rcases hindex with hold | hnew
    · exact Nat.lt_of_lt_of_le (h.known index hold) hcarries.length
    · obtain ⟨-, transport, hidle⟩ := hcarries.fresh index hnew
      exact connection?_lt hidle
  arrivals := by
    intro index hindex
    rcases harrivals index hindex with hold | hnew
    · obtain ⟨hlog, hknown⟩ := h.arrivals index hold
      rw [connected_append, List.mem_append, not_or]
      exact ⟨⟨hlog, hcarries.not_fresh hknown⟩, Nat.lt_of_lt_of_le hknown hcarries.length⟩
    · exact hnew
  members := by
    intro number hnumber
    rcases hmembers number hnumber with hold | hnew
    · exact Nat.lt_of_lt_of_le (h.members number hold) hnext
    · exact hnew.2
  attends := by
    intro call hcall
    rcases hcalls call hcall with hold | hnew
    · have hbelow := hsound.below call hold
      refine hcarries.attends hbelow (h.attends call hold) ?_ ?_
      · rintro ⟨hserved, hnone⟩
        exact ⟨hserves call hold hcall hserved, hcurrent.trans hnone⟩
      · intro hline hmem
        rcases hmembers _ hmem with hmem | ⟨hbeyond, -⟩
        · exact hline hmem
        · exact absurd hbelow (Nat.not_lt.mpr hbeyond)
    · exact hnew
  current := by
    intro index hindex
    obtain ⟨hlog, session, hsession⟩ := h.current index (hcurrent ▸ hindex)
    obtain ⟨session', hsession', -⟩ := hcarries.session hlog hsession
    rw [connected_append]
    exact ⟨List.mem_append_left _ hlog, session', hsession'⟩
  openings := by
    intro index hindex attempt' hopening
    rw [connected_append, List.mem_append] at hindex
    rcases hindex with hold | hnew
    · obtain ⟨attempt, hbefore⟩ := hcarries.opening h hold hopening
      obtain ⟨call, hcall, hphase⟩ := h.openings index hold attempt hbefore
      rcases hleft call hcall index hold (by rw [hphase]; rfl) with hkept | ⟨hgone, -⟩
      · exact ⟨call, hkept, hphase⟩
      · exact absurd hopening (hgone attempt')
    · obtain ⟨-, transport, hidle⟩ := hcarries.fresh index hnew
      rw [hidle] at hopening
      cases hopening
  ongoing := by
    intro index hindex hgoing
    rw [connected_append, List.mem_append] at hindex
    rcases hindex with hold | hnew
    · rcases hcarries.ongoing h hold hgoing with (hnow | ⟨call, hcall, huses⟩) | hbehind
      · exact Or.inl (Or.inl (hcurrent.trans hnow))
      · rcases hleft call hcall index hold huses with hkept | ⟨-, hgone⟩
        · exact Or.inl (Or.inr ⟨call, hkept, huses⟩)
        · exact Or.inr (hgone hgoing)
      · exact Or.inr (hbehind.append more)
    · obtain ⟨-, transport, hidle⟩ := hcarries.fresh index hnew
      obtain ⟨session, hsession, -⟩ := hgoing
      rw [session?_eq_some, hidle] at hsession
      cases hsession

/-- A move that leaves the desk alone. -/
theorem Tended.quiet (h : endpoint.Tended log) (hsound : endpoint.Sound)
    (hcarries : endpoint.Carries log [] endpoint') (hdesk : endpoint'.desk = endpoint.desk)
    (hnext : endpoint.nextCall ≤ endpoint'.nextCall)
    (hcalls : ∀ call ∈ endpoint'.calls, call ∈ endpoint.calls ∨ endpoint'.Attends log call)
    (hkept : ∀ call ∈ endpoint.calls, ∀ index ∈ connected log, call.phase.Uses index →
      call ∈ endpoint'.calls)
    (harrivals : ∀ index ∈ endpoint'.reception.arrivals, index ∈ endpoint.reception.arrivals ∨
      index ∉ connected log ∧ index < endpoint'.connections.length) : endpoint'.Tended log := by
  rw [← List.append_nil log]
  refine h.beside hsound hcarries hnext (by rw [hdesk]) ?_ ?_ ?_ ?_ ?_
  · exact fun number hmem => Or.inl (hdesk ▸ hmem)
  · exact fun call _ _ hserves => hdesk ▸ hserves
  · simpa using hcalls
  · exact fun call hcall index hindex huses => Or.inl (hkept call hcall index hindex huses)
  · simpa using harrivals

/-- A new call that has nothing to do with the desk. -/
theorem Tended.join (h : endpoint.Tended log) (hsound : endpoint.Sound) (phase : CallPhase)
    (hcarries : endpoint.Carries log [] endpoint') (hdesk : endpoint'.desk = endpoint.desk)
    (hnext : endpoint'.nextCall = endpoint.nextCall + 1)
    (hcalls : endpoint'.calls = endpoint.calls ++ [⟨endpoint.nextCall, phase⟩])
    (harrivals : endpoint'.reception.arrivals = endpoint.reception.arrivals)
    (hattends : endpoint.nextCall ∉ endpoint'.desk.line.members →
      endpoint'.Attends log ⟨endpoint.nextCall, phase⟩) : endpoint'.Tended log := by
  refine h.quiet hsound hcarries hdesk (by omega) ?_ ?_ ?_
  · intro call hcall
    rw [hcalls, List.mem_append, List.mem_singleton] at hcall
    refine hcall.imp_right ?_
    rintro rfl
    refine hattends fun hmem => ?_
    exact absurd (h.members _ (hdesk ▸ hmem)) (Nat.lt_irrefl _)
  · intro call hcall _ _ _
    rw [hcalls]
    exact List.mem_append_left _ hcall
  · exact fun index hindex => Or.inl (harrivals ▸ hindex)

theorem Tended.calm (h : endpoint.Tended log) (hsound : endpoint.Sound)
    (hcarries : endpoint.Carries log [] endpoint') (hdesk : endpoint'.desk = endpoint.desk)
    (hnext : endpoint'.nextCall = endpoint.nextCall) (hcalls : endpoint'.calls = endpoint.calls)
    (harrivals : endpoint'.reception.arrivals = endpoint.reception.arrivals) :
    endpoint'.Tended log :=
  h.quiet hsound hcarries hdesk hnext.ge (fun _ hcall => Or.inl (hcalls ▸ hcall))
    (fun _ hcall _ _ _ => hcalls ▸ hcall) fun _ hindex => Or.inl (harrivals ▸ hindex)

theorem Tended.callOn (h : endpoint.Tended log) (hsound : endpoint.Sound) (index : Nat)
    (request : Request) (hcarries : endpoint.Carries log [] (endpoint.call index request).2) :
    (endpoint.call index request).2.Tended log :=
  h.join hsound (.onSession index) hcarries rfl rfl rfl rfl id

theorem Tended.openStream (h : endpoint.Tended log) (hsound : endpoint.Sound)
    (handshake : Handshake) (hcarries : endpoint.Carries log [] (endpoint.openStream handshake).2) :
    (endpoint.openStream handshake).2.Tended log := by
  refine h.join hsound (.opening endpoint.connections.length) hcarries rfl rfl rfl rfl ?_
  intro hline
  refine Or.inr ⟨fun hmem => absurd (h.known _ hmem) (Nat.lt_irrefl _), ?_, hline⟩
  simp [Endpoint.openStream, addCall, begin, mapConnection, addTransport]

theorem Tended.connect (h : endpoint.Tended log) (hsound : endpoint.Sound)
    (credentials : Credentials) (link : Link) (timeout : Nat)
    (hcarries : endpoint.Carries log [.connects endpoint.connections.length]
      (endpoint.connect credentials link timeout).2) :
    (endpoint.connect credentials link timeout).2.Tended
      (log ++ [.connects endpoint.connections.length]) := by
  refine h.beside hsound hcarries (Nat.le_succ _) rfl ?_ ?_ ?_ ?_ ?_
  · intro number hnumber
    rcases List.mem_append.mp hnumber with hold | hnew
    · exact Or.inl hold
    · obtain rfl := List.mem_singleton.mp hnew
      exact Or.inr ⟨Nat.le_refl _, Nat.lt_succ_self _⟩
  · exact fun call _ _ hserves => Line.serves_join hserves _
  · intro call hcall
    rcases List.mem_append.mp hcall with hold | hnew
    · exact Or.inl hold
    · obtain rfl := List.mem_singleton.mp hnew
      refine Or.inr ?_
      simp [Attends, connected]
  · exact fun call hcall _ _ _ => Or.inl (List.mem_append_left _ hcall)
  · exact fun index hindex => Or.inl hindex

theorem Tended.arrive (h : endpoint.Tended log) (hsound : endpoint.Sound)
    (hcarries : endpoint.Carries log [] endpoint.arrive) : endpoint.arrive.Tended log := by
  refine h.quiet hsound hcarries rfl (Nat.le_refl _) (fun _ => Or.inl)
    (fun _ hcall _ _ _ => hcall) ?_
  intro index hindex
  rcases List.mem_append.mp hindex with hold | hnew
  · exact Or.inl hold
  · obtain rfl := List.mem_singleton.mp hnew
    refine Or.inr ⟨fun hmem => absurd (h.known _ hmem) (Nat.lt_irrefl _), ?_⟩
    simp [Endpoint.arrive, addTransport]

theorem Tended.collect (h : endpoint.Tended log) (hsound : endpoint.Sound)
    (hcarries : endpoint.Carries log [] endpoint.takeFinished.2) :
    endpoint.takeFinished.2.Tended log := by
  refine h.quiet hsound hcarries rfl (Nat.le_refl _) ?_ ?_ fun _ => Or.inl
  · exact fun call hcall => Or.inl (List.mem_filter.mp hcall).1
  · intro call hcall index _ huses
    refine List.mem_filter.mpr ⟨hcall, ?_⟩
    split
    · next hphase => rw [hphase] at huses; exact huses.elim
    · rfl

theorem connection?_cancel_opening (hfound : endpoint.call? number = some call)
    (hphase : call.phase = .opening index) :
    (endpoint.cancel number).connection? index =
      (endpoint.connection? index).map Connection.abandon := by
  unfold call? at hfound
  unfold Endpoint.cancel
  simp only [hfound, Option.map_some, hphase]
  rw [connection?_mapConnection]
  simp only [↓reduceIte]
  rfl

theorem not_opening_abandon (connection : Connection) (attempt : Opening) :
    connection.abandon ≠ .opening attempt := by
  cases connection <;> simp [Connection.abandon]

theorem session?_abandon (connection : Connection) :
    connection.abandon.session? = connection.session? := by
  cases connection <;> rfl

/-- Whoever goes away while opening a session takes the transport along; whoever goes away from
closing one leaves it behind. -/
theorem Tended.forsakes {call : Call} (h : endpoint.Tended log) (hsound : endpoint.Sound)
    (hopened : endpoint.hasOpened call.number = false)
    (hcarries : endpoint.Carries log (endpoint.deeds (.cancel call.number))
      (endpoint.cancel call.number)) (hcall : call ∈ endpoint.calls)
    (hindex : index ∈ connected log) (huses : call.phase.Uses index) :
    (∀ attempt, (endpoint.cancel call.number).connection? index ≠ some (.opening attempt)) ∧
      ((endpoint.cancel call.number).Ongoing index →
        LeftBehind (log ++ endpoint.deeds (.cancel call.number)) index) := by
  have hfound := hsound.call?_of_mem hcall
  cases hphase : call.phase with
  | opening index' =>
    rw [hphase] at huses
    obtain rfl : index' = index := huses
    have hafter := connection?_cancel_opening hfound hphase
    constructor
    · intro attempt hattempt
      obtain ⟨connection, -, habandoned⟩ := Option.map_eq_some_iff.mp (hafter ▸ hattempt)
      exact not_opening_abandon connection attempt habandoned
    · rintro ⟨session, hsession, -⟩
      have hnone : endpoint.session? index' = none := by
        simpa [hasOpened, hfound, hphase] using hopened
      rw [Endpoint.session?, hafter, Option.bind_map] at hsession
      simp only [Function.comp_def, session?_abandon] at hsession
      rw [Endpoint.session?] at hnone
      rw [hnone] at hsession
      cases hsession
  | relieving index' plan before =>
    rw [hphase] at huses
    obtain rfl : before = index := huses
    have hattends := h.attends call hcall
    simp only [Attends, hphase] at hattends
    obtain ⟨-, -, -, session, hsession, -⟩ := hattends
    obtain ⟨session', hsession', -⟩ := hcarries.session hindex hsession
    constructor
    · intro attempt hattempt
      rw [session?_eq_some, hattempt] at hsession'
      cases hsession'
    · refine fun _ => Or.inr (List.mem_append_right _ ?_)
      simp [deeds, hfound, hphase]
  | _ => rw [hphase] at huses; exact huses.elim

theorem Tended.cancel (h : endpoint.Tended log) (hsound : endpoint.Sound)
    (hopened : endpoint.hasOpened number = false)
    (hcarries : endpoint.Carries log (endpoint.deeds (.cancel number)) (endpoint.cancel number)) :
    (endpoint.cancel number).Tended (log ++ endpoint.deeds (.cancel number)) := by
  have hcalls := endpoint.calls_cancel number
  have hdesk := endpoint.desk_cancel number
  refine h.beside hsound hcarries (nextCall_cancel ..).ge (by rw [hdesk]) ?_ ?_ ?_ ?_ ?_
  · intro other hother
    rw [hdesk] at hother
    exact Or.inl (List.mem_filter.mp hother).1
  · intro call _ hcall hserves
    rw [hcalls, List.mem_filter, decide_eq_true_eq] at hcall
    rw [hdesk]
    exact Line.serves_leave hserves hcall.2
  · intro call hcall
    rw [hcalls] at hcall
    exact Or.inl (List.mem_filter.mp hcall).1
  · intro call hcall index hindex huses
    by_cases hother : call.number ≠ number
    · rw [hcalls]
      exact Or.inl (List.mem_filter.mpr ⟨hcall, decide_eq_true hother⟩)
    · obtain rfl : call.number = number := not_not.mp hother
      exact Or.inr (h.forsakes hsound hopened hcarries hcall hindex huses)
  · intro index hindex
    rw [arrivals_cancel] at hindex
    exact Or.inl hindex

end Endpoint

end EventSocket
