import EventSocket.Proofs.Endpoint.Succession

/-!
The latest attempt of a client to connect, whose state the client shows as its own. It is that of
the session in use, of the one that is being opened, or of the one that is being closed for the sake
of the next; an attempt that still waits for its turn is not the latest yet.
-/

namespace EventSocket

/-- The call is to open its session on this connection, and has not begun. -/
def CallPhase.Seeks (index : Nat) : CallPhase → Prop
  | inLine index' _ | relieving index' _ _ => index' = index
  | _ => False

namespace Endpoint

variable {settings : Settings} {log more : List Deed} {endpoint endpoint' : Endpoint}
  {call other : Call} {index before number : Nat} {move : EndpointMove}

theorem Tended.seeks (h : endpoint.Tended log) (hcall : call ∈ endpoint.calls)
    (hseeks : call.phase.Seeks index) : index ∈ connected log := by
  have hattends := h.attends call hcall
  cases hphase : call.phase with
  | inLine index' plan =>
    rw [hphase] at hseeks
    obtain rfl : index' = index := hseeks
    simpa only [Attends, hphase] using hattends
  | relieving index' plan before =>
    rw [hphase] at hseeks
    obtain rfl : index' = index := hseeks
    simp only [Attends, hphase] at hattends
    exact hattends.1
  | _ => rw [hphase] at hseeks; exact hseeks.elim

theorem Tended.uses_lt (h : endpoint.Tended log) (hcall : call ∈ endpoint.calls)
    (huses : call.phase.Uses index) : index < endpoint.connections.length := by
  have hattends := h.attends call hcall
  cases hphase : call.phase with
  | opening index' =>
    rw [hphase] at huses
    obtain rfl : index' = index := huses
    simp only [Attends, hphase] at hattends
    rcases hattends with ⟨hindex, -⟩ | ⟨-, hlt, -⟩
    · exact h.known _ hindex
    · exact hlt
  | relieving index' plan before =>
    rw [hphase] at huses
    obtain rfl : before = index := huses
    simp only [Attends, hphase] at hattends
    exact h.known _ hattends.2.1
  | _ => rw [hphase] at huses; exact huses.elim

/-- A move brings one new call at most. -/
theorem Rebooks.one_new (h : endpoint.Rebooks endpoint') (hcall : call ∈ endpoint'.calls)
    (hother : other ∈ endpoint'.calls) (hnew : call ∉ endpoint.calls)
    (hnew' : other ∉ endpoint.calls) : other = call := by
  cases h with
  | same hcalls => exact absurd (hcalls ▸ hcall) hnew
  | drops keep hcalls => exact absurd (List.mem_filter.mp (hcalls ▸ hcall)).1 hnew
  | joins phase hcalls =>
    rw [hcalls, List.mem_append, List.mem_singleton] at hcall hother
    rw [hother.resolve_left hnew', hcall.resolve_left hnew]
  | sets hset hcalls =>
    rw [(mem_setPhase (hcalls ▸ hcall)).resolve_left fun hold => hnew hold.1,
      (mem_setPhase (hcalls ▸ hother)).resolve_left fun hold => hnew' hold.1]

/-- What the latest attempt has to do with the calls that connect. -/
structure Abreast (log : List Deed) (endpoint : Endpoint) : Prop where
  latest : ∀ index, endpoint.desk.latest = some index → index ∈ connected log
  inUse : ∀ index ∈ connected log, endpoint.InUse index → endpoint.desk.latest = some index
  seeks : ∀ call ∈ endpoint.calls, ∀ index, call.phase.Seeks index →
    endpoint.desk.latest ≠ some index ∧ ∀ result, .relieved index result ∉ log
  unique : ∀ call ∈ endpoint.calls, ∀ other ∈ endpoint.calls, ∀ index,
    call.phase.Seeks index → other.phase.Seeks index → other = call
  relieved : ∀ index result, .relieved index result ∈ log →
    index ∈ connected log ∧ endpoint.desk.latest ≠ some index

/-- A move by which no attempt begins. A call that is new seeks a new connection, or the one that a
call before it has sought. -/
theorem Abreast.beside (h : endpoint.Abreast log) (htended : endpoint.Tended log)
    (hrebooks : endpoint.Rebooks endpoint')
    (hlatest : endpoint'.desk.latest = endpoint.desk.latest)
    (hcurrent : ∀ index, endpoint'.desk.current = some index →
      endpoint.desk.latest = some index)
    (hfresh : ∀ index ∈ connected more, endpoint.connections.length ≤ index)
    (hkept : ∀ index result, .relieved index result ∉ more)
    (hcalls : ∀ call ∈ endpoint'.calls, call ∈ endpoint.calls ∨
      (∀ index ∈ connected (log ++ more), call.phase.Uses index →
        endpoint.desk.latest = some index) ∧
      ∀ index, call.phase.Seeks index → endpoint.connections.length ≤ index ∨
        ∃ before ∈ endpoint.calls, before ∉ endpoint'.calls ∧ before.phase.Seeks index) :
    endpoint'.Abreast (log ++ more) where
  latest := by
    intro index hindex
    rw [connected_append]
    exact List.mem_append_left _ (h.latest index (hlatest ▸ hindex))
  inUse := by
    rw [hlatest]
    rintro index hindex (hnow | ⟨call, hcall, huses⟩)
    · exact hcurrent index hnow
    rcases hcalls call hcall with hold | ⟨hnew, -⟩
    · refine h.inUse index ?_ (Or.inr ⟨call, hold, huses⟩)
      rw [connected_append, List.mem_append] at hindex
      refine hindex.resolve_right fun hmore => ?_
      exact absurd (htended.uses_lt hold huses) (Nat.not_lt.mpr (hfresh index hmore))
    · exact hnew index hindex huses
  seeks := by
    intro call hcall index hseeks
    have hlog (result : Except Fault Answer) (hold : .relieved index result ∉ log) :
        .relieved index result ∉ log ++ more := by
      rw [List.mem_append, not_or]
      exact ⟨hold, hkept index result⟩
    have hsought (before : Call) (hbefore : before ∈ endpoint.calls)
        (hseeks : before.phase.Seeks index) : endpoint'.desk.latest ≠ some index ∧
          ∀ result, .relieved index result ∉ log ++ more := by
      obtain ⟨hnot, hnone⟩ := h.seeks before hbefore index hseeks
      exact ⟨hlatest ▸ hnot, fun result => hlog result (hnone result)⟩
    rcases hcalls call hcall with hold | ⟨-, hnew⟩
    · exact hsought call hold hseeks
    rcases hnew index hseeks with hbeyond | ⟨before, hbefore, -, hseeks'⟩
    · have hunknown : index ∉ connected log := fun hindex =>
        absurd (htended.known index hindex) (Nat.not_lt.mpr hbeyond)
      refine ⟨fun hnow => hunknown (h.latest index (hlatest ▸ hnow)), fun result => ?_⟩
      exact hlog result fun hmem => hunknown (h.relieved index result hmem).1
    · exact hsought before hbefore hseeks'
  unique := by
    -- A call that was there before seeks a connection that is known.
    have hmixed (call other : Call) (hcall : call ∈ endpoint.calls)
        (hcall' : call ∈ endpoint'.calls) (hother : other ∈ endpoint'.calls)
        (hnew : other ∉ endpoint.calls) (index : Nat) (hseeks : call.phase.Seeks index)
        (hseeks' : other.phase.Seeks index) : False := by
      rcases ((hcalls other hother).resolve_left hnew).2 index hseeks' with
        hbeyond | ⟨before, hbefore, hgone, hsought⟩
      · exact absurd (htended.known index (htended.seeks hcall hseeks)) (Nat.not_lt.mpr hbeyond)
      · exact hgone (h.unique call hcall before hbefore index hseeks hsought ▸ hcall')
    intro call hcall other hother index hseeks hseeks'
    by_cases hold : call ∈ endpoint.calls <;> by_cases hold' : other ∈ endpoint.calls
    · exact h.unique call hold other hold' index hseeks hseeks'
    · exact (hmixed call other hold hcall hother hold' index hseeks hseeks').elim
    · exact (hmixed other call hold' hother hcall hold index hseeks' hseeks).elim
    · exact hrebooks.one_new hcall hother hold hold'
  relieved := by
    intro index result hmem
    obtain ⟨hindex, hnot⟩ := h.relieved index result
      ((List.mem_append.mp hmem).resolve_right (hkept index result))
    rw [connected_append, hlatest]
    exact ⟨List.mem_append_left _ hindex, hnot⟩

/-- The call at the front of the line begins its attempt, which is the latest from then on. -/
theorem Abreast.begun (h : endpoint.Abreast log) (htended : endpoint.Tended log)
    (hsound : endpoint.Sound) (hcall : call ∈ endpoint.calls)
    (hserves : endpoint.desk.line.serves call.number) (hseeks : call.phase.Seeks index)
    (hcalls : endpoint'.calls = (endpoint.setPhase call.number (.opening index)).calls)
    (hlatest : endpoint'.desk.latest = some index) (hcurrent : endpoint'.desk.current = none)
    (hnone : connected more = [])
    (hrelieved : ∀ other result, .relieved other result ∈ more →
      other ∈ connected log ∧ endpoint.desk.latest = some other) :
    endpoint'.Abreast (log ++ more) where
  latest := by
    intro other hother
    obtain rfl : index = other := Option.some.inj (hlatest.symm.trans hother)
    rw [connected_append, hnone, List.append_nil]
    exact htended.seeks hcall hseeks
  inUse := by
    rw [hlatest, connected_append, hnone, List.append_nil]
    rintro other hother (hnow | ⟨call', hcall', huses⟩)
    · rw [hcurrent] at hnow
      cases hnow
    rcases mem_setPhase (hcalls ▸ hcall') with ⟨hold, hne⟩ | rfl
    · exact absurd (congrArg Call.number (htended.alone hsound hcall hserves hold hother huses)) hne
    · exact congrArg some huses
  seeks := by
    intro call' hcall' other hseeks'
    rcases mem_setPhase (hcalls ▸ hcall') with ⟨hold, hne⟩ | rfl
    · obtain ⟨hnot, hlog⟩ := h.seeks call' hold other hseeks'
      constructor
      · intro hnow
        obtain rfl : index = other := Option.some.inj (hlatest.symm.trans hnow)
        exact hne (congrArg Call.number (h.unique call hcall call' hold index hseeks hseeks'))
      · intro result hmem
        rcases List.mem_append.mp hmem with hbefore | hnew
        · exact hlog result hbefore
        · exact hnot (hrelieved other result hnew).2
    · exact hseeks'.elim
  unique := by
    have hold (call' : Call) (hcall' : call' ∈ endpoint'.calls) (other : Nat)
        (hseeks' : call'.phase.Seeks other) : call' ∈ endpoint.calls := by
      rcases mem_setPhase (hcalls ▸ hcall') with ⟨hold, -⟩ | rfl
      · exact hold
      · exact hseeks'.elim
    intro call₁ hcall₁ call₂ hcall₂ other hseeks₁ hseeks₂
    exact h.unique call₁ (hold call₁ hcall₁ other hseeks₁) call₂ (hold call₂ hcall₂ other hseeks₂)
      other hseeks₁ hseeks₂
  relieved := by
    intro other result hmem
    rw [hlatest, connected_append, hnone, List.append_nil]
    obtain ⟨hnot, hlog⟩ := h.seeks call hcall index hseeks
    rcases List.mem_append.mp hmem with hbefore | hnew
    · refine ⟨(h.relieved other result hbefore).1, fun hnow => ?_⟩
      exact hlog result (Option.some.inj hnow ▸ hbefore)
    · obtain ⟨hknown, hother⟩ := hrelieved other result hnew
      exact ⟨hknown, fun hnow => hnot (hother.trans hnow.symm)⟩

/-- A move in which no call takes a turn: the desk knows of the same sessions as before, and a call
that is new has the next number and a connection of its own. -/
structure Bystands (endpoint : Endpoint) (move : EndpointMove) (endpoint' : Endpoint) : Prop where
  current : endpoint'.desk.current = endpoint.desk.current
  latest : endpoint'.desk.latest = endpoint.desk.latest
  joins : ∀ call ∈ endpoint'.calls, call ∈ endpoint.calls ∨ call.number = endpoint.nextCall ∧
    (∀ index, call.phase.Uses index →
      index = endpoint.connections.length ∧ connected (endpoint.deeds move) = []) ∧
    ∀ index, call.phase.Seeks index → index = endpoint.connections.length

theorem bystands_of_eq (hdesk : endpoint'.desk = endpoint.desk)
    (hcalls : ∀ call ∈ endpoint'.calls, call ∈ endpoint.calls) :
    endpoint.Bystands move endpoint' :=
  ⟨by rw [hdesk], by rw [hdesk], fun call hcall => Or.inl (hcalls call hcall)⟩

theorem bystands_join {phase : CallPhase}
    (hcurrent : endpoint'.desk.current = endpoint.desk.current)
    (hlatest : endpoint'.desk.latest = endpoint.desk.latest)
    (hcalls : endpoint'.calls = endpoint.calls ++ [⟨endpoint.nextCall, phase⟩])
    (huses : ∀ index, phase.Uses index →
      index = endpoint.connections.length ∧ connected (endpoint.deeds move) = [])
    (hseeks : ∀ index, phase.Seeks index → index = endpoint.connections.length) :
    endpoint.Bystands move endpoint' := by
  refine ⟨hcurrent, hlatest, fun call hcall => ?_⟩
  rw [hcalls, List.mem_append, List.mem_singleton] at hcall
  refine hcall.imp_right ?_
  rintro rfl
  exact ⟨rfl, huses, hseeks⟩

theorem bystands_perform (hmove : endpoint.perform move = some endpoint')
    (hturn : ∀ number, move ≠ .callTurn number) : endpoint.Bystands move endpoint' := by
  have hidle {phase : CallPhase} (hdesk : endpoint'.desk = endpoint.desk)
      (hcalls : endpoint'.calls = endpoint.calls ++ [⟨endpoint.nextCall, phase⟩])
      (huses : ∀ index, ¬ phase.Uses index) (hseeks : ∀ index, ¬ phase.Seeks index) :
      endpoint.Bystands move endpoint' :=
    bystands_join (by rw [hdesk]) (by rw [hdesk]) hcalls
      (fun index hindex => (huses index hindex).elim)
      fun index hindex => (hseeks index hindex).elim
  cases moves_of_perform hmove with
  | openStream handshake =>
    exact bystands_join rfl rfl rfl (fun index hindex => ⟨hindex.symm, rfl⟩)
      fun index => False.elim
  | connect =>
    exact bystands_join rfl rfl rfl (fun index => False.elim) fun index hindex => hindex.symm
  | accept | call | asksCurrent | asksNobody => exact hidle rfl rfl (fun _ => id) fun _ => id
  | @cancel number hwaits =>
    have hdesk := endpoint.desk_cancel number
    refine ⟨by rw [hdesk], by rw [hdesk], fun call hcall => Or.inl ?_⟩
    rw [calls_cancel] at hcall
    exact (List.mem_filter.mp hcall).1
  | callTurn => exact absurd rfl (hturn _)
  | collect => exact bystands_of_eq rfl fun call hcall => (List.mem_filter.mp hcall).1
  | arrive | listen | listeners | threads | connection | deliver | tick =>
    exact bystands_of_eq rfl fun _ => id

theorem deeds_not_relieved (hturn : ∀ number, move ≠ .callTurn number) (index : Nat)
    (result : Except Fault Answer) : .relieved index result ∉ endpoint.deeds move := by
  cases move with
  | callTurn number => exact absurd rfl (hturn number)
  | cancel number =>
    unfold deeds
    dsimp only
    split <;> simp
  | _ => simp [deeds]

theorem connected_deeds_ge (endpoint : Endpoint) (move : EndpointMove) :
    ∀ index ∈ connected (endpoint.deeds move), endpoint.connections.length ≤ index := by
  intro index hindex
  rcases endpoint.connected_deeds move with hnone | ⟨credentials, link, timeout, rfl⟩
  · rw [hnone] at hindex
    cases hindex
  · simp [deeds, connected] at hindex
    exact hindex.ge

theorem Abreast.bystands (h : endpoint.Abreast log) (htended : endpoint.Tended log)
    (hmove : endpoint.perform move = some endpoint') (hturn : ∀ number, move ≠ .callTurn number) :
    endpoint'.Abreast (log ++ endpoint.deeds move) := by
  obtain ⟨hcurrent, hlatest, hjoins⟩ := bystands_perform hmove hturn
  refine h.beside htended (rebooks_perform hmove) hlatest ?_ (endpoint.connected_deeds_ge move)
    (fun index result => deeds_not_relieved hturn index result) ?_
  · intro index hindex
    rw [hcurrent] at hindex
    exact h.inUse index (htended.current index hindex).1 (Or.inl hindex)
  · intro call hcall
    refine (hjoins call hcall).imp_right ?_
    rintro ⟨-, huses, hseeks⟩
    refine ⟨fun index hindex hused => ?_, fun index hsought => Or.inl (hseeks index hsought).ge⟩
    obtain ⟨rfl, hnone⟩ := huses index hused
    rw [connected_append, hnone, List.append_nil] at hindex
    exact absurd (htended.known _ hindex) (Nat.lt_irrefl _)

/-- A call goes on to another phase without beginning its attempt. -/
theorem Abreast.turned {phase : CallPhase} (h : endpoint.Abreast log)
    (htended : endpoint.Tended log) (hcall : call ∈ endpoint.calls)
    (hrebooks : endpoint.Rebooks endpoint')
    (hcalls : endpoint'.calls = (endpoint.setPhase call.number phase).calls)
    (hlatest : endpoint'.desk.latest = endpoint.desk.latest)
    (hcurrent : ∀ index, endpoint'.desk.current = some index → endpoint.desk.latest = some index)
    (hphase : call.phase ≠ phase)
    (huses : ∀ index ∈ connected log, phase.Uses index → endpoint.desk.latest = some index)
    (hseeks : ∀ index, phase.Seeks index → call.phase.Seeks index) : endpoint'.Abreast log := by
  rw [← List.append_nil log]
  refine h.beside htended hrebooks hlatest hcurrent (by simp [connected]) (by simp) ?_
  intro other hother
  rcases mem_setPhase (hcalls ▸ hother) with ⟨hold, -⟩ | rfl
  · exact Or.inl hold
  refine Or.inr ⟨by simpa using huses, fun index hsought => Or.inr ⟨call, hcall, ?_, ?_⟩⟩
  · intro hkept
    rcases mem_setPhase (hcalls ▸ hkept) with ⟨-, hne⟩ | hsame
    · exact hne rfl
    · exact hphase (congrArg Call.phase hsame)
  · exact hseeks index hsought

theorem Abreast.turns (h : endpoint.Abreast log) (htended : endpoint.Tended log)
    (hsound : endpoint.Sound) (hcall : call ∈ endpoint.calls)
    (hturns : endpoint.Turns call endpoint') :
    endpoint'.Abreast (log ++ endpoint.deeds (.callTurn call.number)) := by
  have hfound := hsound.call?_of_mem hcall
  have hattends := htended.attends call hcall
  have hrebooks := rebooks_turns hcall hturns
  have hnow (index : Nat) (hcurrent : endpoint.desk.current = some index) :
      endpoint.desk.latest = some index :=
    h.inUse index (htended.current index hcurrent).1 (Or.inl hcurrent)
  have huses (index : Nat) (hindex : index ∈ connected log) (hused : call.phase.Uses index) :
      endpoint.desk.latest = some index :=
    h.inUse index hindex (Or.inr ⟨call, hcall, hused⟩)
  cases hturns with
  | answered hphase htold =>
    simp only [deeds, hfound, Option.map_some, hphase, List.append_nil]
    exact h.turned htended hcall hrebooks rfl rfl hnow (by simp [hphase])
      (fun _ _ => False.elim) fun _ => False.elim
  | @opened index session hphase hlive =>
    simp only [deeds, hfound, Option.map_some, hphase, List.append_nil]
    simp only [Attends, hphase] at hattends
    rcases hattends with ⟨hindex, hfront⟩ | ⟨hindex, hknown, hline⟩
    · have hlatest := huses index hindex (by rw [hphase]; rfl)
      rw [if_pos hfront.1] at hrebooks ⊢
      exact h.turned htended hcall hrebooks rfl hlatest.symm (fun _ hother => hother ▸ hlatest)
        (by simp [hphase]) (fun _ _ => False.elim) fun _ => False.elim
    · rw [if_neg (by simp [not_serves hline])] at hrebooks ⊢
      exact h.turned htended hcall hrebooks rfl rfl hnow (by simp [hphase])
        (fun _ _ => False.elim) fun _ => False.elim
  | failed hphase hfailed =>
    simp only [deeds, hfound, Option.map_some, hphase, List.append_nil]
    exact h.turned htended hcall hrebooks rfl rfl hnow (by simp [hphase])
      (fun _ _ => False.elim) fun _ => False.elim
  | begins hphase hserves hnone =>
    simp only [deeds, hfound, Option.map_some, hphase]
    exact h.begun htended hsound hcall hserves (by rw [hphase]; rfl) rfl rfl rfl rfl (by simp)
  | relieves hphase hserves hcurrent =>
    simp only [deeds, hfound, Option.map_some, hphase, List.append_nil]
    refine h.turned htended hcall hrebooks rfl rfl (fun _ hnone => ?_) (by simp [hphase]) ?_ ?_
    · cases hnone
    · rintro other - rfl
      exact hnow _ hcurrent
    · rintro other rfl
      rw [hphase]
      rfl
  | @relieved index before plan result hphase htold =>
    simp only [deeds, hfound, Option.map_some, hphase, htold, Option.toList_some]
    simp only [Attends, hphase] at hattends
    obtain ⟨-, hbefore, hfront, -⟩ := hattends
    refine h.begun htended hsound hcall hfront.1 (by rw [hphase]; rfl) rfl rfl hfront.2 rfl ?_
    intro other result' hmem
    obtain ⟨rfl, -⟩ := Deed.relieved.inj (List.mem_singleton.mp hmem)
    exact ⟨hbefore, huses _ hbefore (by rw [hphase]; rfl)⟩
  | @accepts index arrivals hphase harrivals =>
    simp only [deeds, hfound, Option.map_some, hphase, List.append_nil]
    refine h.turned htended hcall hrebooks rfl rfl hnow (by simp [hphase]) ?_ fun _ => False.elim
    rintro other hother rfl
    exact absurd hother (htended.arrivals _ (by simp [harrivals])).1

theorem Run.abreast (run : Run settings log endpoint) : endpoint.Abreast log := by
  induction run with
  | start => constructor <;> simp [Endpoint.new, connected]
  | step run move hmove ih =>
    by_cases hturn : ∃ number, move = .callTurn number
    · obtain ⟨number, rfl⟩ := hturn
      cases moves_of_perform hmove with
      | callTurn hfound hturns =>
        obtain ⟨hcall, rfl⟩ := mem_of_call? hfound
        exact ih.turns run.tended run.sound hcall hturns
    · exact ih.bystands run.tended hmove (by simpa using hturn)

end Endpoint

end EventSocket
