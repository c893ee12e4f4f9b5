import EventSocket.Proofs.Endpoint.Ledger
import EventSocket.Proofs.Endpoint.Server

/-!
Who hears what at a server. The listeners of a session are those that the server had when the
handshake began, and behind them those that were subscribed on that session itself. So nobody who
was subscribed on another session, or added to the server later, is ever told anything about it.
-/

namespace EventSocket

namespace Registers

variable {registers registers' : Registers} {id id' : RegisterId}

theorem listeners_add_of_ne (h : id' ≠ id) (listener : Listener) :
    (registers.add id' listener).listeners id = registers.listeners id := by
  have hindex : id'.index ≠ id.index := by
    intro heq
    apply h
    cases id
    cases id'
    exact congrArg _ heq
  simp [listeners, add, List.getD_eq_getElem?_getD, hindex]

theorem listeners_of_prefix (h : registers.lists <+: registers'.lists)
    (hid : id.index < registers.lists.length) :
    registers'.listeners id = registers.listeners id := by
  obtain ⟨more, hmore⟩ := h
  rw [listeners, listeners, List.getD_eq_getElem?_getD, List.getD_eq_getElem?_getD, ← hmore,
    List.getElem?_append_left hid]

theorem listeners_forked (registers : Registers) (id : RegisterId) :
    (registers.fork id).2.listeners (registers.fork id).1 = registers.listeners id := by
  simp [fork, create, listeners, List.getD_eq_getElem?_getD]

end Registers

namespace Audience

def seatTold : Incident → Option (Nat × Callback)
  | .told _ _ listener callback => listener.seat.map (·, callback)
  | _ => none

theorem told_hear (audience : Audience) (incidents : List Incident) :
    (audience.hear incidents).told.toList =
      audience.told.toList ++ incidents.filterMap seatTold := by
  induction incidents generalizing audience with
  | nil => simp [hear]
  | cons incident incidents ih =>
    cases incident with
    | told kind place listener callback =>
      rw [hear, ih, tell]
      cases hseat : listener.seat <;> simp [seatTold, hseat]
    | _ => exact ih audience

theorem seats_hear (audience : Audience) (incidents : List Incident) :
    (audience.hear incidents).seats = audience.seats := by
  induction incidents generalizing audience with
  | nil => rfl
  | cons incident incidents ih =>
    cases incident with
    | told kind place listener callback =>
      rw [hear, ih, tell]
      cases listener.seat <;> rfl
    | _ => exact ih audience

/-- A listener is welcomed at a seat of its own, if at any. -/
theorem welcome_cases (audience : Audience) (manner : Option Manner) :
    (audience.welcome manner).2.told = audience.told ∧
      ((audience.welcome manner).1.seat = none ∧
          (audience.welcome manner).2.seats = audience.seats ∨
        (audience.welcome manner).1.seat = some audience.seats ∧
          (audience.welcome manner).2.seats = audience.seats + 1) := by
  cases manner with
  | none => exact ⟨rfl, .inl ⟨rfl, rfl⟩⟩
  | some manner => exact ⟨rfl, .inr ⟨rfl, rfl⟩⟩

end Audience

namespace Endpoint

/-- A move of a server. Nobody subscribes where there is no session. -/
def serve (endpoint : Endpoint) : ServerMove → Endpoint
  | .addListener manner => endpoint.listen endpoint.register manner
  | .subscribe index manner =>
    match endpoint.session? index with
    | some session => endpoint.listen session.register manner
    | none => endpoint
  | .holdUp held => { endpoint with audience := { endpoint.audience with held } }
  | .scene move => if move.ofServer then endpoint.act move else endpoint

/-- The entries for what has been told, all of it about the session on one connection. -/
def toldEntries (index? : Option Nat) (told : List (Nat × Callback)) : Ledger :=
  told.filterMap fun told => index?.map fun index => .told index told.1 told.2

/-- What is entered for a move: who is welcomed where, on which transports a handshake has begun,
and what else has been told, to whom and about which session. -/
def entries (endpoint : Endpoint) : ServerMove → Ledger
  | .addListener manner => [.added (endpoint.audience.welcome manner).1]
  | .subscribe index manner =>
    if (endpoint.session? index).isSome then
      [.subscribed index (endpoint.audience.welcome manner).1]
    else []
  | .holdUp _ => []
  | .scene move =>
    let endpoint' := endpoint.serve (.scene move)
    let told := endpoint'.audience.told.toList.drop endpoint.audience.told.size
    (endpoint.begunBy endpoint').map .begun ++ toldEntries move.delivers? told

/-- The ledger and the server that the moves lead to. -/
def served (settings : Settings) (moves : List ServerMove) : Ledger × Endpoint :=
  moves.foldl (fun state move => (state.1 ++ state.2.entries move, state.2.serve move))
    ([], new settings)

/-- The ledger tells who listens where. Every register in use belongs to one connection, apart from
that of the server, and holds the listeners which the ledger has for it. -/
structure Scoped (ledger : Ledger) (endpoint : Endpoint) : Prop where
  serving : endpoint.Serving
  dispatching : endpoint.Dispatching
  below : endpoint.register.index < endpoint.registers.lists.length
  server : endpoint.registers.listeners endpoint.register = ledger.added
  known : ∀ index, .begun index ∈ ledger ∨ (∃ listener, .subscribed index listener ∈ ledger) →
    ∃ connection, endpoint.connection? index = some connection ∧ ¬ connection.isIdle
  begun : ∀ index connection register, endpoint.connection? index = some connection →
    connection.register? = some register → .begun index ∈ ledger
  own : ∀ index connection register, endpoint.connection? index = some connection →
    connection.register? = some register → register ≠ endpoint.register ∧
      register.index < endpoint.registers.lists.length ∧
      endpoint.registers.listeners register = ledger.listeners index
  apart : ∀ index index' connection connection' register,
    endpoint.connection? index = some connection → endpoint.connection? index' = some connection' →
    connection.register? = some register → connection'.register? = some register → index = index'
  seats : ledger.seats.Nodup
  seated : ∀ seat ∈ ledger.seats, seat < endpoint.audience.seats
  told : endpoint.audience.told.toList = ledger.told
  hears : ∀ index seat callback, .told index seat callback ∈ ledger →
    .begun index ∈ ledger ∧ ∃ listener ∈ ledger.listeners index, listener.seat = some seat

variable {ledger more : Ledger} {endpoint endpoint' : Endpoint} {connection : Connection}
  {register : RegisterId} {index : Nat}

theorem scoped_new (settings : Settings) : Scoped [] (new settings) where
  serving := by simp [Serving, new]
  dispatching := dispatching_after settings []
  below := by simp [new, Registers.create, Registers.empty]
  server := rfl
  known := by simp
  begun := by simp [new, connection?]
  own := by simp [new, connection?]
  apart := by simp [new, connection?]
  seats := List.nodup_nil
  seated := by simp [Ledger.seats]
  told := rfl
  hears := by simp

/-- The entry says whose listeners are in the register. -/
def EntersAt (endpoint : Endpoint) (register : RegisterId) (listener : Listener)
    (entry : ServerEntry) : Prop :=
  entry = .added listener ∧ register = endpoint.register ∨
    ∃ index connection, entry = .subscribed index listener ∧
      endpoint.connection? index = some connection ∧ connection.register? = some register

theorem Scoped.own_listen {listener : Listener} {entry : ServerEntry}
    (h : Scoped ledger endpoint) (hentry : endpoint.EntersAt register listener entry)
    (hfound : endpoint.connection? index = some connection) {register' : RegisterId}
    (hregister : connection.register? = some register') :
    (endpoint.registers.add register listener).listeners register' =
      Ledger.listeners (ledger ++ [entry]) index := by
  obtain ⟨hne, hbelow, hlisteners⟩ := h.own index connection register' hfound hregister
  rw [Ledger.listeners_of_begun (h.begun index connection register' hfound hregister)]
  rcases hentry with ⟨rfl, rfl⟩ | ⟨index', connection', rfl, hfound', hregister'⟩
  · rw [Registers.listeners_add_of_ne hne.symm, hlisteners]
    exact (List.append_nil _).symm
  · by_cases hindex : index' = index
    · subst hindex
      obtain rfl := Option.some.inj (hfound'.symm.trans hfound)
      obtain rfl := Option.some.inj (hregister'.symm.trans hregister)
      rw [Registers.listeners_add_self hbelow, hlisteners]
      simp [Ledger.subscribed, ServerEntry.subscribed?]
    · have hother : register ≠ register' := by
        rintro rfl
        exact hindex (h.apart _ _ _ _ _ hfound' hfound hregister' hregister)
      rw [Registers.listeners_add_of_ne hother, hlisteners]
      simp [Ledger.subscribed, ServerEntry.subscribed?, hindex]

theorem Scoped.server_listen {listener : Listener} {entry : ServerEntry}
    (h : Scoped ledger endpoint) (hentry : endpoint.EntersAt register listener entry) :
    (endpoint.registers.add register listener).listeners endpoint.register =
      Ledger.added (ledger ++ [entry]) := by
  rw [Ledger.added_append]
  rcases hentry with ⟨rfl, rfl⟩ | ⟨index, connection, rfl, hfound, hregister⟩
  · rw [Registers.listeners_add_self h.below, h.server]
    rfl
  · rw [Registers.listeners_add_of_ne (h.own _ _ _ hfound hregister).1, h.server]
    exact (List.append_nil _).symm

theorem EntersAt.seats {listener : Listener} {entry : ServerEntry}
    (hentry : endpoint.EntersAt register listener entry) :
    Ledger.seats [entry] = listener.seat.toList := by
  rcases hentry with ⟨rfl, -⟩ | ⟨index, connection, rfl, -⟩ <;>
    cases hnew : listener.seat <;>
    simp [Ledger.seats, ServerEntry.seat?, ServerEntry.listener?, hnew]

/-- A new listener gets a seat that nobody has, if it gets one. -/
theorem Scoped.seats_listen {manner : Option Manner} {entry : ServerEntry}
    (h : Scoped ledger endpoint)
    (hentry : endpoint.EntersAt register (endpoint.audience.welcome manner).1 entry) :
    (Ledger.seats (ledger ++ [entry])).Nodup ∧
      ∀ seat ∈ Ledger.seats (ledger ++ [entry]),
        seat < (endpoint.audience.welcome manner).2.seats := by
  rw [Ledger.seats_append, hentry.seats]
  obtain ⟨-, ⟨hnone, hsame⟩ | ⟨hsome, hmore⟩⟩ := endpoint.audience.welcome_cases manner
  · rw [hnone, hsame, Option.toList_none, List.append_nil]
    exact ⟨h.seats, h.seated⟩
  · rw [hsome, hmore, Option.toList_some]
    constructor
    · rw [List.nodup_append]
      refine ⟨h.seats, List.nodup_singleton _, ?_⟩
      intro seat hold seat' hnew
      rw [List.mem_singleton.mp hnew]
      exact Nat.ne_of_lt (h.seated seat hold)
    · intro seat hmem
      rcases List.mem_append.mp hmem with hold | hnew
      · exact Nat.lt_succ_of_lt (h.seated seat hold)
      · rw [List.mem_singleton.mp hnew]
        exact Nat.lt_succ_self _

theorem Scoped.listen {manner : Option Manner} {entry : ServerEntry} (h : Scoped ledger endpoint)
    (hentry : endpoint.EntersAt register (endpoint.audience.welcome manner).1 entry) :
    Scoped (ledger ++ [entry]) (endpoint.listen register manner) := by
  obtain ⟨htold, -⟩ := endpoint.audience.welcome_cases manner
  obtain ⟨hseats, hseated⟩ := h.seats_listen hentry
  have hlength : (endpoint.listen register manner).registers.lists.length =
      endpoint.registers.lists.length := List.length_modify ..
  have hsilent : ∀ index seat callback, entry ≠ .told index seat callback := by
    rcases hentry with ⟨rfl, -⟩ | ⟨index, connection, rfl, -⟩ <;> simp
  refine
    { serving := h.serving
      dispatching := h.dispatching.act (.endpoint (.listen register manner))
      below := hlength ▸ h.below
      server := h.server_listen hentry
      known := ?known
      begun := fun index connection register' hfound hregister =>
        List.mem_append_left _ (h.begun index connection register' hfound hregister)
      own := fun index connection register' hfound hregister =>
        ⟨(h.own _ _ _ hfound hregister).1, hlength ▸ (h.own _ _ _ hfound hregister).2.1,
          h.own_listen hentry hfound hregister⟩
      apart := h.apart
      seats := hseats
      seated := hseated
      told := ?told
      hears := ?hears }
  case known =>
    rintro index (hbegun | ⟨listener, hsubscribed⟩)
    · rcases List.mem_append.mp hbegun with hold | hnew
      · exact h.known index (.inl hold)
      · obtain rfl := List.mem_singleton.mp hnew
        rcases hentry with ⟨hadded, -⟩ | ⟨_, _, hsubscribed, -⟩
        · cases hadded
        · cases hsubscribed
    · rcases List.mem_append.mp hsubscribed with hold | hnew
      · exact h.known index (.inr ⟨listener, hold⟩)
      · obtain rfl := List.mem_singleton.mp hnew
        rcases hentry with ⟨hadded, -⟩ | ⟨index', connection, hsame, hfound, hregister⟩
        · cases hadded
        · cases hsame
          exact ⟨connection, hfound, Connection.not_isIdle hregister⟩
  case told =>
    change (endpoint.audience.welcome manner).2.told.toList = _
    have hnone : Ledger.told [entry] = [] := by
      rcases hentry with ⟨rfl, -⟩ | ⟨index, connection, rfl, -⟩ <;> rfl
    rw [htold, h.told, Ledger.told_append, hnone, List.append_nil]
  case hears =>
    intro index seat callback hmem
    rcases List.mem_append.mp hmem with hold | hnew
    · obtain ⟨hbegun, listener, hlistener, hat⟩ := h.hears index seat callback hold
      exact ⟨List.mem_append_left _ hbegun, listener,
        Ledger.listeners_subset ledger [entry] index hlistener, hat⟩
    · exact absurd (List.mem_singleton.mp hnew).symm (hsilent index seat callback)

/-! What happens besides. -/

/-- Entries with which nobody is welcomed. -/
def Besides (more : Ledger) : Prop := ∀ entry ∈ more, entry.listener? = none

namespace Besides

theorem added (h : Besides more) : Ledger.added more = [] := by
  apply List.filterMap_eq_nil_iff.mpr
  intro entry hentry
  have hnone := h entry hentry
  cases entry <;> first | rfl | cases hnone

theorem subscribed (h : Besides more) (index : Nat) : Ledger.subscribed more index = [] := by
  apply List.filterMap_eq_nil_iff.mpr
  intro entry hentry
  have hnone := h entry hentry
  cases entry <;> first | rfl | cases hnone

theorem seats (h : Besides more) : Ledger.seats more = [] := by
  apply List.filterMap_eq_nil_iff.mpr
  intro entry hentry
  rw [ServerEntry.seat?, h entry hentry, Option.bind_none]

end Besides

/-- The listeners at the time when a handshake begins are those of the server. -/
theorem Scoped.listeners_begun (h : Scoped ledger endpoint) (hmore : Besides more)
    (hidle : ∃ transport, endpoint.connection? index = some (.idle transport)) :
    Ledger.listeners (ledger ++ more) index = endpoint.registers.listeners endpoint.register := by
  have hunknown : ¬ (.begun index ∈ ledger ∨ ∃ listener, .subscribed index listener ∈ ledger) := by
    intro hknown
    obtain ⟨connection, hfound, hbusy⟩ := h.known index hknown
    obtain ⟨transport, hidle⟩ := hidle
    obtain rfl := Option.some.inj (hidle.symm.trans hfound)
    exact hbusy rfl
  rw [not_or, not_exists] at hunknown
  have hnobody : ledger.subscribed index = [] := by
    apply List.filterMap_eq_nil_iff.mpr
    intro entry hentry
    cases entry with
    | subscribed index' listener =>
      apply if_neg
      rintro rfl
      exact hunknown.2 listener hentry
    | _ => rfl
  have hlate : Ledger.addedBefore more index = [] := by
    have hsublist : (Ledger.addedBefore more index).Sublist (Ledger.added more) :=
      (List.takeWhile_sublist _).filterMap _
    rw [hmore.added] at hsublist
    exact List.sublist_nil.mp hsublist
  rw [Ledger.listeners, Ledger.addedBefore_of_not hunknown.1, Ledger.subscribed_append, hnobody,
    hlate, hmore.subscribed, h.server]
  simp

/-- Whoever begins a handshake by the step gets a register of its own with whom the server has. -/
theorem Scoped.own_step (h : Scoped ledger endpoint) (hmore : Besides more)
    (hstep : endpoint.ServerStep endpoint') {connection' : Connection}
    (hfound' : endpoint'.connection? index = some connection')
    (hregister' : connection'.register? = some register) :
    register ≠ endpoint.register ∧ register.index < endpoint'.registers.lists.length ∧
      endpoint'.registers.listeners register = Ledger.listeners (ledger ++ more) index := by
  have hgrown := hstep.grows
  rcases hstep.registered hfound' hregister' with
    ⟨connection, hfound, hold⟩ | ⟨hnew, rfl, hregisters⟩
  · obtain ⟨hne, hbelow, hown⟩ := h.own _ _ _ hfound hold
    refine ⟨hne, Nat.lt_of_lt_of_le hbelow hgrown.length_le, ?_⟩
    rw [Registers.listeners_of_prefix hgrown hbelow, hown,
      Ledger.listeners_of_begun (h.begun _ _ _ hfound hold), hmore.subscribed, List.append_nil]
  · obtain ⟨transport, attempt, hidle, -⟩ := mem_begunBy.mp hnew
    refine ⟨?_, ?_, ?_⟩
    · intro heq
      exact Nat.lt_irrefl _ (heq ▸ h.below)
    · rw [hregisters]
      simp [Registers.fork, Registers.create]
    · rw [hregisters, Registers.listeners_forked, h.listeners_begun hmore ⟨transport, hidle⟩]

theorem Scoped.apart_step (h : Scoped ledger endpoint) (hstep : endpoint.ServerStep endpoint')
    {index' : Nat} {connection connection' : Connection}
    (hfound : endpoint'.connection? index = some connection)
    (hfound' : endpoint'.connection? index' = some connection')
    (hfirst : connection.register? = some register)
    (hsecond : connection'.register? = some register) : index = index' := by
  have hfresh : ∀ index connection, endpoint.connection? index = some connection →
      connection.register? ≠ some (endpoint.registers.fork endpoint.register).1 :=
    fun index connection hfound hforked =>
      Nat.lt_irrefl _ (h.own index connection _ hfound hforked).2.1
  rcases hstep.registered hfound hfirst with ⟨old, hold, hfirst⟩ | ⟨hnew, hforked, -⟩ <;>
    rcases hstep.registered hfound' hsecond with ⟨old', hold', hsecond⟩ | ⟨hnew', hforked', -⟩
  · exact h.apart _ _ _ _ _ hold hold' hfirst hsecond
  · exact absurd (hforked' ▸ hfirst) (hfresh _ _ hold)
  · exact absurd (hforked ▸ hsecond) (hfresh _ _ hold')
  · exact hstep.begun_unique hnew hnew'

theorem Scoped.beside (h : Scoped ledger endpoint) (hmore : Besides more)
    (hserving : endpoint'.Serving) (hdispatching : endpoint'.Dispatching)
    (hregister : endpoint'.register = endpoint.register) (hstep : endpoint.ServerStep endpoint')
    (hbegun : ∀ index, .begun index ∈ more ↔ index ∈ endpoint.begunBy endpoint')
    (hseats : endpoint'.audience.seats = endpoint.audience.seats)
    (htold : endpoint'.audience.told.toList = endpoint.audience.told.toList ++ Ledger.told more)
    (htells : ∀ index seat callback, .told index seat callback ∈ more →
      ∃ session, endpoint.session? index = some session ∧
        ∃ listener ∈ endpoint.registers.listeners session.register, listener.seat = some seat) :
    Scoped (ledger ++ more) endpoint' := by
  have hgrown := hstep.grows
  refine
    { serving := hserving
      dispatching := hdispatching
      below := hregister ▸ Nat.lt_of_lt_of_le h.below hgrown.length_le
      server := ?server
      known := ?known
      begun := ?begun
      own := fun index connection register hfound hregister' =>
        hregister ▸ h.own_step hmore hstep hfound hregister'
      apart := fun index index' connection connection' register => h.apart_step hstep
      seats := by rw [Ledger.seats_append, hmore.seats, List.append_nil]; exact h.seats
      seated := ?seated
      told := by rw [htold, h.told, Ledger.told_append]
      hears := ?hears }
  case server =>
    rw [hregister, Registers.listeners_of_prefix hgrown h.below, h.server, Ledger.added_append,
      hmore.added, List.append_nil]
  case known =>
    have hbusy : ∀ index,
        .begun index ∈ ledger ∨ (∃ listener, .subscribed index listener ∈ ledger) →
        ∃ connection, endpoint'.connection? index = some connection ∧ ¬ connection.isIdle := by
      intro index hknown
      obtain ⟨connection, hfound, hbusy⟩ := h.known index hknown
      exact hstep.busy hfound hbusy
    rintro index (hentry | ⟨listener, hentry⟩)
    · rcases List.mem_append.mp hentry with hold | hnew
      · exact hbusy index (.inl hold)
      · obtain ⟨transport, attempt, -, hfound'⟩ := mem_begunBy.mp ((hbegun index).mp hnew)
        exact ⟨_, hfound', Bool.false_ne_true⟩
    · rcases List.mem_append.mp hentry with hold | hnew
      · exact hbusy index (.inr ⟨listener, hold⟩)
      · cases hmore _ hnew
  case begun =>
    intro index connection' register hfound' hregister'
    rcases hstep.registered hfound' hregister' with ⟨connection, hfound, hold⟩ | ⟨hnew, -⟩
    · exact List.mem_append_left _ (h.begun _ _ _ hfound hold)
    · exact List.mem_append_right _ ((hbegun index).mpr hnew)
  case seated =>
    intro seat hmem
    rw [Ledger.seats_append, hmore.seats, List.append_nil] at hmem
    rw [hseats]
    exact h.seated seat hmem
  case hears =>
    intro index seat callback hmem
    rcases List.mem_append.mp hmem with hold | hnew
    · obtain ⟨hindex, listener, hlistener, hat⟩ := h.hears index seat callback hold
      exact ⟨List.mem_append_left _ hindex, listener,
        Ledger.listeners_subset ledger more index hlistener, hat⟩
    · obtain ⟨session, hsession, listener, hlistener, hat⟩ := htells index seat callback hnew
      have hlive := session?_eq_some.mp hsession
      obtain ⟨-, -, hown⟩ := h.own index _ session.register hlive rfl
      have hindex := h.begun index _ session.register hlive rfl
      refine ⟨List.mem_append_left _ hindex, listener, ?_, hat⟩
      exact Ledger.listeners_subset ledger more index (hown ▸ hlistener)

theorem mem_toldEntries {index? : Option Nat} {told : List (Nat × Callback)} {entry : ServerEntry} :
    entry ∈ toldEntries index? told ↔
      ∃ index seat callback, entry = .told index seat callback ∧ index? = some index ∧
        (seat, callback) ∈ told := by
  simp only [toldEntries, List.mem_filterMap, Option.map_eq_some_iff, Prod.exists]
  constructor
  · rintro ⟨seat, callback, hmem, index, hindex, rfl⟩
    exact ⟨index, seat, callback, rfl, hindex, hmem⟩
  · rintro ⟨index, seat, callback, rfl, hindex, hmem⟩
    exact ⟨seat, callback, hmem, index, hindex, rfl⟩

theorem told_toldEntries (index : Nat) (told : List (Nat × Callback)) :
    Ledger.told (toldEntries (some index) told) = told := by
  rw [Ledger.told, toldEntries, List.filterMap_filterMap]
  exact List.filterMap_some

theorem TellsOn.mem {index? : Option Nat} {incidents : List Incident} {seat : Nat}
    {callback : Callback} (h : endpoint.TellsOn index? incidents)
    (hmem : (seat, callback) ∈ incidents.filterMap Audience.seatTold) :
    ∃ index session, index? = some index ∧ endpoint.session? index = some session ∧
      ∃ listener ∈ endpoint.registers.listeners session.register, listener.seat = some seat := by
  obtain ⟨incident, hincident, htold⟩ := List.mem_filterMap.mp hmem
  cases incident with
  | told kind place listener callback' =>
    obtain ⟨seat', hseat, heq⟩ := Option.map_eq_some_iff.mp htold
    cases heq
    obtain ⟨index, session, hindex, hsession, hlistener⟩ := h _ _ _ _ hincident
    exact ⟨index, session, hindex, hsession, listener, hlistener, hseat⟩
  | _ => cases htold

theorem Scoped.turn {index? : Option Nat} {incidents : List Incident} (h : Scoped ledger endpoint)
    (hserving : endpoint'.Serving) (hdispatching : endpoint'.Dispatching)
    (hregister : endpoint'.register = endpoint.register) (hstep : endpoint.ServerStep endpoint')
    (haudience : endpoint'.audience = endpoint.audience.hear incidents)
    (htells : endpoint.TellsOn index? incidents) :
    Scoped (ledger ++ ((endpoint.begunBy endpoint').map .begun ++
      toldEntries index? (endpoint'.audience.told.toList.drop endpoint.audience.told.size)))
      endpoint' := by
  have htold : endpoint'.audience.told.toList =
      endpoint.audience.told.toList ++ incidents.filterMap Audience.seatTold := by
    rw [haudience, Audience.told_hear]
  have hnew : endpoint'.audience.told.toList.drop endpoint.audience.told.size =
      incidents.filterMap Audience.seatTold := by
    rw [htold]
    exact List.drop_left' Array.length_toList
  rw [hnew]
  refine h.beside ?_ hserving hdispatching hregister hstep ?_ ?_ ?_ ?_
  · intro entry hentry
    rcases List.mem_append.mp hentry with hbegun | hentry
    · obtain ⟨index, -, rfl⟩ := List.mem_map.mp hbegun
      rfl
    · obtain ⟨index, seat, callback, rfl, -⟩ := mem_toldEntries.mp hentry
      rfl
  · intro index
    simp [mem_toldEntries]
  · rw [haudience, Audience.seats_hear]
  · rw [htold, Ledger.told_append, Ledger.told_begun, List.nil_append]
    cases index? with
    | some index => rw [told_toldEntries]
    | none =>
      have hnobody : incidents.filterMap Audience.seatTold = [] := by
        apply List.eq_nil_iff_forall_not_mem.mpr
        rintro ⟨seat, callback⟩ hmem
        obtain ⟨index, session, hindex, -⟩ := htells.mem hmem
        cases hindex
      rw [hnobody]
      rfl
  · intro index seat callback hentry
    obtain hbegun | hentry := List.mem_append.mp hentry
    · obtain ⟨begun, -, hbegun⟩ := List.mem_map.mp hbegun
      cases hbegun
    · obtain ⟨index, seat, callback, heq, rfl, hmem⟩ := mem_toldEntries.mp hentry
      cases heq
      obtain ⟨index', session, hindex, hsession, hlistener⟩ := htells.mem hmem
      cases hindex
      exact ⟨session, hsession, hlistener⟩

/-- A move of a server keeps the ledger true. -/
theorem Scoped.serve (h : Scoped ledger endpoint) (move : ServerMove) :
    Scoped (ledger ++ endpoint.entries move) (endpoint.serve move) := by
  cases move with
  | addListener manner => exact h.listen (.inl ⟨rfl, rfl⟩)
  | subscribe index manner =>
    cases hsession : endpoint.session? index with
    | none => simpa [entries, Endpoint.serve, hsession] using h
    | some session =>
      have hlive := session?_eq_some.mp hsession
      simp only [entries, Endpoint.serve, hsession, Option.isSome_some, if_true]
      exact h.listen (.inr ⟨index, .live session, rfl, hlive, rfl⟩)
  | holdUp held =>
    refine h.beside (by simp [entries, Besides]) h.serving ?_ rfl
      (serverStep_of_eq List.prefix_rfl rfl) ?_ rfl ?_ ?_
    · exact h.dispatching.act (.endpoint (.listeners { endpoint.audience with held }))
    · intro index
      have hnone : index ∉ endpoint.begunBy (endpoint.serve (.holdUp held)) :=
        not_mem_begunBy_of_eq rfl index
      simpa [entries] using hnone
    · simp [entries, Endpoint.serve, Ledger.told]
    · simp [entries]
  | scene move =>
    cases hmove : move.ofServer with
    | false =>
      have hsame : endpoint.serve (.scene move) = endpoint := by simp [Endpoint.serve, hmove]
      have hsilent : endpoint.TellsOn move.delivers? [] := by simp [TellsOn]
      rw [entries, hsame]
      exact h.turn h.serving h.dispatching rfl (serverStep_of_eq List.prefix_rfl rfl) rfl hsilent
    | true =>
      have hact : endpoint.serve (.scene move) = endpoint.act move := by
        simp [Endpoint.serve, hmove]
      have hacts := endpoint.act_acts move
      obtain ⟨incidents, haudience, htells⟩ := hears_acts h.dispatching hmove hacts
      rw [entries, hact]
      exact h.turn (h.serving.acts hmove hacts) (h.dispatching.act move) (register_acts hacts)
        (serverStep_acts h.serving hmove hacts) haudience htells

theorem scoped_served (settings : Settings) (moves : List ServerMove) :
    Scoped (served settings moves).1 (served settings moves).2 := by
  induction moves using List.reverseRecOn with
  | nil => exact scoped_new settings
  | append_singleton moves move ih =>
    rw [served, List.foldl_append]
    exact ih.serve move

theorem Scoped.subscribed_there {index' seat : Nat} {callback : Callback} {listener : Listener}
    (h : Scoped ledger endpoint) (htold : .told index seat callback ∈ ledger)
    (hsubscribed : .subscribed index' listener ∈ ledger) (hseat : listener.seat = some seat) :
    index' = index := by
  obtain ⟨-, own, hown, hat⟩ := h.hears index seat callback htold
  rcases List.mem_append.mp hown with hadded | hhere
  · have hentry := Ledger.mem_added.mp ((ledger.addedBefore_sublist index).mem hadded)
    cases Ledger.entry_of_seat h.seats hentry hsubscribed hat hseat
  · have hentry := Ledger.mem_subscribed.mp hhere
    cases Ledger.entry_of_seat h.seats hentry hsubscribed hat hseat
    rfl

theorem Scoped.not_added_later {seat : Nat} {callback : Callback} {listener : Listener}
    {before after : Ledger} (h : Scoped ledger endpoint)
    (htold : .told index seat callback ∈ ledger)
    (hledger : ledger = before ++ .begun index :: after)
    (hlate : .added listener ∈ after) : listener.seat ≠ some seat := by
  intro hseat
  have hbehind : .added listener ∈ .begun index :: after := List.mem_cons_of_mem _ hlate
  obtain ⟨-, own, hown, hat⟩ := h.hears index seat callback htold
  rcases List.mem_append.mp hown with hadded | hhere
  · rw [hledger, Ledger.addedBefore_begun] at hadded
    have hentry := Ledger.mem_added.mp ((Ledger.addedBefore_sublist before index).mem hadded)
    have hseats := h.seats
    rw [hledger] at hseats
    exact Ledger.seat_of_append hseats hentry hbehind hat hseat
  · have hentry := Ledger.mem_subscribed.mp hhere
    have hadded : .added listener ∈ ledger := by
      rw [hledger]
      exact List.mem_append_right _ hbehind
    cases Ledger.entry_of_seat h.seats hentry hadded hat hseat

/-- The registry of a session consists, in order, of the listeners that the server had when the
handshake began and those subscribed on the session. All that is told is in the ledger, and a
listener is told something about a session only as one of these: it was neither subscribed on
another session nor added to the server once the handshake had begun. -/
theorem listeners_scoped (settings : Settings) (moves : List ServerMove) :
    let ledger := (served settings moves).1
    let endpoint := (served settings moves).2
    (∀ index session, endpoint.session? index = some session →
      .begun index ∈ ledger ∧ endpoint.registers.listeners session.register =
        ledger.addedBefore index ++ ledger.subscribed index) ∧
    endpoint.audience.told.toList = ledger.told ∧
    ∀ index seat callback, .told index seat callback ∈ ledger →
      (∃ listener ∈ ledger.addedBefore index ++ ledger.subscribed index,
        listener.seat = some seat) ∧
      (∀ index' listener, .subscribed index' listener ∈ ledger → listener.seat = some seat →
        index' = index) ∧
      ∀ before after listener, ledger = before ++ .begun index :: after →
        .added listener ∈ after → listener.seat ≠ some seat := by
  intro ledger endpoint
  have h : Scoped ledger endpoint := scoped_served settings moves
  refine ⟨?_, h.told, ?_⟩
  · intro index session hsession
    have hlive := session?_eq_some.mp hsession
    exact ⟨h.begun index _ _ hlive rfl, (h.own index _ _ hlive rfl).2.2⟩
  intro index seat callback htold
  obtain ⟨-, listener, hlistener, hseat⟩ := h.hears index seat callback htold
  exact ⟨⟨listener, hlistener, hseat⟩,
    fun _ _ hsubscribed => h.subscribed_there htold hsubscribed,
    fun _ _ _ hledger => h.not_added_later htold hledger⟩

/-- The switch dials in, describes its channel and ends its stream. -/
def dialIn (index number : Nat) : List ServerMove :=
  let reply := "Content-Type: command/reply\nReply-Text: +OK\nEvent-Name: CHANNEL_DATA\n\n"
  let transport := { Transport.new with received := reply.toUTF8, ended := true }
  let moves : List EndpointMove :=
    [.arrive, .connection index (.network transport), .accept, .callTurn number] ++
      List.replicate 4 (.connection index (.opening readLimit)) ++ [.callTurn number]
  moves.map fun move => .scene (.endpoint move)

/-- Two calls, with a listener on each and one more that is added to the server between them. The
second call comes to its end. -/
def twoCalls : List ServerMove :=
  .addListener (some .steady) :: dialIn 0 0 ++
    [.subscribe 0 (some .steady), .addListener (some .steady)] ++ dialIn 1 1 ++
    [.subscribe 1 (some .steady)] ++
    List.replicate 5 (.scene (.endpoint (.connection 1 (.reader readLimit)))) ++
    List.replicate 9 (.scene (.lane 1 .general fun _ _ => some .done))

theorem listeners_scoped_two_calls :
    let ledger := (served .standard twoCalls).1
    let endpoint := (served .standard twoCalls).2
    (∀ session, endpoint.session? 1 = some session →
      endpoint.registers.listeners session.register =
        [⟨some 0, .steady⟩, ⟨some 2, .steady⟩, ⟨some 3, .steady⟩]) ∧
    (∃ callback, .told 1 3 callback ∈ ledger) ∧
    ∀ callback, .told 1 1 callback ∉ ledger := by
  intro ledger endpoint
  have hledger : ledger =
      [.added ⟨some 0, .steady⟩, .begun 0, .subscribed 0 ⟨some 1, .steady⟩,
        .added ⟨some 2, .steady⟩, .begun 1, .subscribed 1 ⟨some 3, .steady⟩,
        .told 1 0 (.disconnected .connectionClosed), .told 1 2 (.disconnected .connectionClosed),
        .told 1 3 (.disconnected .connectionClosed)] := by
    decide +kernel
  obtain ⟨hlisteners, -, hscoped⟩ := listeners_scoped .standard twoCalls
  refine ⟨?_, ⟨.disconnected .connectionClosed, by rw [hledger]; decide⟩, ?_⟩
  · intro session hsession
    obtain ⟨-, hregistry⟩ := hlisteners 1 session hsession
    rw [hregistry]
    change Ledger.addedBefore ledger 1 ++ Ledger.subscribed ledger 1 = _
    rw [hledger]
    rfl
  · intro callback htold
    have hsubscribed : .subscribed 0 ⟨some 1, .steady⟩ ∈ ledger := by
      rw [hledger]
      decide
    have hindex := (hscoped 1 1 callback htold).2.1 0 _ hsubscribed rfl
    exact absurd hindex Nat.zero_ne_one

end Endpoint

end EventSocket
