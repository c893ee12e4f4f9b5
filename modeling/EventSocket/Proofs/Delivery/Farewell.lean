import EventSocket.Proofs.Delivery.Registration

/-!
The end as a listener is told it. On the general lane it is the last word: every event that was kept
for the lane has been told before, and nothing is told there afterwards. The other lane is not
waited for. What it still owes to the listener when the end is told comes later, and it is no more
than the jobs that were queued before the end, so the end is the last callback of all if the jobs
have been told by then.
-/

namespace EventSocket

/-- On the lane of the jobs only jobs are owed: its end is told to nobody. -/
theorem Lane.owed_jobs (lane : Lane) (place : Nat) :
    lane.owed .jobs place = (lane.underway place ++ lane.events).map .job := by
  rw [owed, underway, events, ← List.filterMap_append, List.map_filterMap]
  refine List.filterMap_congr fun item _ => ?_
  cases item <;> rfl

namespace Delivery

variable {delivery delivery' : Delivery} {move : DeliveryMove} {happened log : List Incident}
  {kind : LaneKind} {place size : Nat} {reason : EndReason}

theorem Sourced.heardAt_jobs (h : Sourced log delivery) (place : Nat) :
    heardAt .jobs place log = ((heardAt .jobs place log).filterMap Callback.event?).map .job := by
  rw [List.map_filterMap]
  conv_lhs => rw [← List.filterMap_some (l := heardAt .jobs place log)]
  refine List.filterMap_congr fun callback hcallback => ?_
  obtain ⟨incident, hincident, hheard⟩ := List.mem_filterMap.mp hcallback
  cases incident with
  | told kind' place' listener callback' =>
    obtain ⟨⟨rfl, rfl⟩, heq⟩ := Option.ite_none_right_eq_some.mp hheard
    obtain rfl := Option.some.inj heq
    rcases h.told _ _ _ _ hincident with ⟨event, -, rfl⟩ | ⟨reason, -, hkind, -⟩
    · rfl
    · cases hkind
  | _ => cases hheard

/-- A place is told of its end on the general lane only, and then is owed nothing there. -/
theorem Hears.over (h : delivery.Hears place (heardAt .general place log))
    (htold : .disconnected reason ∈ heardAt .general place log) :
    ∃ events : List Event,
      heardAt .general place log = events.map .event ++ [.disconnected reason] ∧
        place < delivery.listeners.length ∧ delivery.owed .general place = [] ∧
        delivery.phase.ended? .general = some reason := by
  cases h with
  | going events hheard => simp [hheard] at htold
  | ended events reason' hheard hplace howed hended =>
    obtain rfl : reason = reason' := by simpa [hheard] using htold
    exact ⟨events, hheard, hplace, howed, hended⟩

/-- Once the end has been told, the general lane is silent. -/
theorem heardAt_general_over (hplace : place < delivery.listeners.length)
    (howed : delivery.owed .general place = [])
    (hended : delivery.phase.ended? .general = some reason) (more : List DeliveryMove) :
    heardAt .general place (delivery.log more) = [] := by
  have hdue : dueOn .general (delivery.log more) = [] := by
    have hending := dueOn_ending_after (reason_of_ended hended) more
    simpa [ending, hended, ended_after hended more] using hending
  have hheard := delivery.heardAt_owed_after .general hplace more
  rw [howed, hdue] at hheard
  exact (List.append_eq_nil_iff.mp hheard).1

theorem keptOn_eq_nil_of_given (h : log.filterMap Incident.given? = []) (kind : LaneKind) :
    keptOn kind log = [] := by
  rw [keptOn, List.filterMap_eq_nil_iff]
  intro incident hmem
  have hnone := List.filterMap_eq_nil_iff.mp h incident hmem
  cases incident <;> simp_all [Incident.given?]

/-- A closed dispatcher puts nothing more on the lane of the jobs that a listener is told. -/
theorem dueOn_jobs_of_reason (hreason : delivery.phase.reason? = some reason)
    (moves : List DeliveryMove) : dueOn .jobs (delivery.log moves) = [] := by
  have hkept := keptOn_eq_nil_of_given (given_log_of_reason hreason moves) .jobs
  rw [dueOn, List.filterMap_eq_nil_iff]
  intro incident hmem
  have hnone := List.filterMap_eq_nil_iff.mp hkept incident hmem
  cases incident with
  | kept event => simp_all
  | ended kind reason => simp [LaneItem.callback?]
  | _ => rfl

theorem heardAt_jobs_of_reason (hreason : delivery.phase.reason? = some reason)
    (hplace : place < delivery.listeners.length) (more : List DeliveryMove) :
    heardAt .jobs place (delivery.log more) ++ (delivery.after more).owed .jobs place =
      delivery.owed .jobs place := by
  have hheard := delivery.heardAt_owed_after .jobs hplace more
  rwa [dueOn_jobs_of_reason hreason, List.append_nil] at hheard

/-- How things stand for a place that has been told of the end just now, with `early` places that
were there before the first event. -/
structure Farewell (early place : Nat) (reason : EndReason) (log : List Incident)
    (delivery : Delivery) : Prop where
  ended : delivery.phase.ended? .general = some reason
  settled : delivery.owed .general place = []
  events : place < early →
    heardAt .general place log = (keptOn .general log).map .event ++ [.disconnected reason]
  jobs : place < early →
    heardAt .jobs place log ++ delivery.owed .jobs place = (keptOn .jobs log).map .job
  closed : ∀ more, (delivery.log more).filterMap Incident.given? = []
  silent : ∀ more, heardAt .general place (delivery.log more) = []
  remains : ∀ more,
    heardAt .jobs place (delivery.log more) ++ (delivery.after more).owed .jobs place =
      delivery.owed .jobs place
  last : delivery.owed .jobs place = [] → ∀ kind more, heardAt kind place (delivery.log more) = []

/-- Whatever was kept for the jobs has been told to an early place or is still owed to it. -/
theorem heardAt_owed_jobs (registers : Registers) (register : RegisterId) (size : Nat)
    (moves : List DeliveryMove) :
    let first := start registers register size
    place < (first.early moves).length →
      heardAt .jobs place (first.log moves) ++ (first.after moves).owed .jobs place =
        (keptOn .jobs (first.log moves)).map .job := by
  intro first hplace
  have hcoherent : Coherent size (first.log moves) (first.after moves) := by
    simpa using (coherent_start registers register size).after moves
  rw [keptOn_start registers register size moves .jobs hplace, List.append_assoc, List.map_append,
    ← hcoherent.sourced.heardAt_jobs place, owed, Lane.owed_jobs]

theorem keptOn_general_of_owed (registers : Registers) (register : RegisterId) (size : Nat)
    (moves : List DeliveryMove) :
    let first := start registers register size
    place < (first.early moves).length → (first.after moves).owed .general place = [] →
      keptOn .general (first.log moves) =
        (heardAt .general place (first.log moves)).filterMap Callback.event? := by
  intro first hplace howed
  have hnone := Lane.event?_owed ((first.after moves).lane .general) .general place
  rw [← owed, howed] at hnone
  rw [keptOn_start registers register size moves .general hplace, List.append_assoc, ← hnone,
    List.filterMap_nil, List.append_nil]

/-- Whoever is told of the end has been told every event that was kept for the general lane, hears
nothing more there, and of the jobs no more than those that were waiting. -/
theorem farewell_of_told (registers : Registers) (register : RegisterId) (size : Nat)
    (moves : List DeliveryMove) (move : DeliveryMove) (kind : LaneKind) (place : Nat)
    (listener : Listener) (reason : EndReason) :
    let first := start registers register size
    .told kind place listener (.disconnected reason) ∈ (first.after moves).incidents move →
      kind = .general ∧
        Farewell (first.early (moves ++ [move])).length place reason
          (first.log (moves ++ [move])) (first.after (moves ++ [move])) := by
  intro first htold
  generalize hmoves : moves ++ [move] = moves'
  have hmem : .told kind place listener (.disconnected reason) ∈ first.log moves' := by
    rw [← hmoves, log_append, log_cons, log_nil, List.append_nil]
    exact List.mem_append_right _ htold
  have hcoherent : Coherent size (first.log moves') (first.after moves') := by
    simpa using (coherent_start registers register size).after moves'
  obtain rfl : kind = .general := by
    rcases hcoherent.sourced.told _ _ _ _ hmem with ⟨event, -, hevent⟩ | ⟨-, -, hkind, -⟩
    · cases kind <;> cases hevent
    · exact hkind
  have hheard : .disconnected reason ∈ heardAt .general place (first.log moves') :=
    List.mem_filterMap.mpr ⟨_, hmem, by simp⟩
  have hhears : (first.after moves').Hears place (heardAt .general place (first.log moves')) := by
    simpa using hears_after (coherent_start registers register size)
      (fun place => .going [] rfl) moves' place
  obtain ⟨events, hevents, hplace, howed, hended⟩ := hhears.over hheard
  have hreason := reason_of_ended hended
  have hsilent := heardAt_general_over hplace howed hended
  have hremains := heardAt_jobs_of_reason hreason hplace
  refine ⟨rfl,
    { ended := hended
      settled := howed
      events := ?events
      jobs := heardAt_owed_jobs registers register size moves'
      closed := given_log_of_reason hreason
      silent := hsilent
      remains := hremains
      last := ?last }⟩
  case events =>
    intro hearly
    have hkept : keptOn .general (first.log moves') = events := by
      rw [keptOn_general_of_owed registers register size moves' hearly howed, hevents]
      simp [List.filterMap_map, Function.comp_def, Callback.event?]
    rw [hevents, hkept]
  case last =>
    intro hnone kind more
    cases kind with
    | general => exact hsilent more
    | jobs => exact (List.append_eq_nil_iff.mp ((hremains more).trans hnone)).1

/-- The end of a job in the background. -/
def finishedJob (number : Nat) : Event :=
  ⟨some .backgroundJob, Fields.empty, [toString number]⟩

/-- A dispatcher is closed behind a job, and its general lane comes to the end first. -/
def outrun : List DeliveryMove :=
  [.dispatch (numbered 0), .dispatch (finishedJob 1), .close .connectionClosed, .endLane] ++
    released 7

/-- The turn in which the listener is told of the end. -/
def farewell : DeliveryMove := .turn .general fun _ _ => some .done

theorem farewell_of_told_outrun :
    let first := start oneListener ⟨0⟩ 8
    .told .general 0 (seated 0) (.disconnected .connectionClosed) ∈
        (first.after outrun).incidents farewell ∧
      LaneKind.general = .general ∧
        Farewell (first.early (outrun ++ [farewell])).length 0 .connectionClosed
          (first.log (outrun ++ [farewell])) (first.after (outrun ++ [farewell])) := by
  have htold : .told .general 0 (seated 0) (.disconnected .connectionClosed) ∈
      ((start oneListener ⟨0⟩ 8).after outrun).incidents farewell := by decide
  exact ⟨htold, farewell_of_told oneListener ⟨0⟩ 8 outrun farewell .general 0 (seated 0)
    .connectionClosed htold⟩

/-- The listener hears of a job that was queued before the end after it has been told of the end. -/
theorem job_follows_farewell :
    let first := start oneListener ⟨0⟩ 8
    let told := first.after (outrun ++ [farewell])
    let jobTurns := List.replicate 3 (DeliveryMove.turn .jobs fun _ _ => some Outcome.done)
    keptOn .jobs (first.log (outrun ++ [farewell])) = [finishedJob 1] ∧
      heardAt .general 0 (first.log (outrun ++ [farewell])) =
        [.event (numbered 0), .disconnected .connectionClosed] ∧
      heardAt .jobs 0 (first.log (outrun ++ [farewell])) = [] ∧
      heardAt .jobs 0 (told.log jobTurns) = [.job (finishedJob 1)] := by
  decide

end Delivery

end EventSocket
