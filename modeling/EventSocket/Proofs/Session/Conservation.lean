import EventSocket.Proofs.Session.Slots

/-!
Conservation of the commands that wait for replies: each leaves the queue once, in one of three
ways, and keeps what it got; the queue holds the others in the order in which they lined up.
-/

namespace EventSocket.Pending

variable {pending start : Pending} {action : SlotAction} {actions : List SlotAction}
  {id : CommandId} {settlement : Settlement}

theorem leavesAt_zero : pending.LeavesAt (action :: actions) 0 id settlement ↔
    pending.Departs action id settlement := by
  simp [LeavesAt]

theorem leavesAt_succ {place : Nat} :
    pending.LeavesAt (action :: actions) (place + 1) id settlement ↔
      (pending.perform action).LeavesAt actions place id settlement := by
  simp [LeavesAt]

theorem not_leavesAt_nil {place : Nat} : ¬ pending.LeavesAt [] place id settlement := by
  simp [LeavesAt]

theorem not_leavesAt_of_settled (h : pending.Distinct (newIds actions))
    (hsettled : id ∈ pending.settledIds) (place : Nat) :
    ¬ pending.LeavesAt actions place id settlement := by
  induction actions generalizing pending place with
  | nil => exact not_leavesAt_nil
  | cons action actions ih =>
    intro hleaves
    cases place with
    | zero => exact h.not_settled (leavesAt_zero.1 hleaves).waits hsettled
    | succ place =>
      exact ih (distinct_perform h) (settledIds_run hsettled [action]) place
        (leavesAt_succ.1 hleaves)

/-- The fate of a command: it still waits and nothing has become of it, or it has left the queue,
once and in one way, and keeps what it then got. -/
def SettlesOnce (start : Pending) (actions : List SlotAction) (id : CommandId) : Prop :=
  (id ∈ (start.run actions).waiting ∧ (start.run actions).settlement? id = none ∧
    ∀ place settlement, ¬ start.LeavesAt actions place id settlement) ∨
  (id ∉ (start.run actions).waiting ∧
    ∃ place settlement, start.LeavesAt actions place id settlement ∧
      (start.run actions).settlement? id = some settlement ∧
      ∀ place' settlement', start.LeavesAt actions place' id settlement' →
        place' = place ∧ settlement' = settlement)

theorem SettlesOnce.cons (h : (pending.perform action).SettlesOnce actions id)
    (hstays : ∀ settlement, ¬ pending.Departs action id settlement) :
    pending.SettlesOnce (action :: actions) id := by
  rcases h with ⟨hwaits, hnone, hnever⟩ | ⟨hgone, place, settlement, hleaves, hgot, hunique⟩
  · refine Or.inl ⟨hwaits, hnone, ?_⟩
    intro place settlement hleaves
    cases place with
    | zero => exact hstays settlement (leavesAt_zero.1 hleaves)
    | succ place => exact hnever place settlement (leavesAt_succ.1 hleaves)
  · refine Or.inr ⟨hgone, place + 1, settlement, leavesAt_succ.2 hleaves, hgot, ?_⟩
    intro place' settlement' hleaves'
    cases place' with
    | zero => exact absurd (leavesAt_zero.1 hleaves') (hstays settlement')
    | succ place' =>
      obtain ⟨hplace, hsettlement⟩ := hunique place' settlement' (leavesAt_succ.1 hleaves')
      exact ⟨congrArg (· + 1) hplace, hsettlement⟩

theorem settlesOnce_of_departs (h : pending.Distinct (newIds (action :: actions)))
    (hdeparts : pending.Departs action id settlement) :
    pending.SettlesOnce (action :: actions) id := by
  have hdistinct := distinct_perform h
  have hsettled : id ∈ (pending.perform action).settledIds :=
    List.mem_map_of_mem hdeparts.settled
  have hgot := settlement?_run (settlement?_of_mem hdistinct.settled_nodup hdeparts.settled) actions
  have hgone : id ∉ (pending.run (action :: actions)).waiting := by
    intro hwaits
    have hnone := (distinct_run h).not_settled hwaits
    rw [← settlement?_eq_none, run_cons, hgot] at hnone
    cases hnone
  refine Or.inr ⟨hgone, 0, settlement, leavesAt_zero.2 hdeparts, hgot, ?_⟩
  intro place' settlement' hleaves'
  cases place' with
  | zero => exact ⟨rfl, hdeparts.unique (leavesAt_zero.1 hleaves')⟩
  | succ place' =>
    exact absurd (leavesAt_succ.1 hleaves') (not_leavesAt_of_settled hdistinct hsettled place')

theorem settlesOnce_of_waits (h : pending.Distinct (newIds actions))
    (hwaits : id ∈ pending.waiting) : pending.SettlesOnce actions id := by
  induction actions generalizing pending with
  | nil =>
    refine Or.inl ⟨hwaits, settlement?_eq_none.2 (h.not_settled hwaits), ?_⟩
    intro place settlement
    exact not_leavesAt_nil
  | cons action actions ih =>
    by_cases hdeparts : ∃ settlement, pending.Departs action id settlement
    · obtain ⟨settlement, hdeparts⟩ := hdeparts
      exact settlesOnce_of_departs h hdeparts
    · have hstill := (waits_or_departs hwaits action).resolve_right hdeparts
      exact (ih (distinct_perform h) hstill).cons (not_exists.1 hdeparts)

/-- Every command that has ever lined up is in the queue or has left it in exactly one way. -/
theorem settlesOnce_of_admitted (h : pending.Distinct (newIds actions))
    (hadmitted : id ∈ pending.admitted actions) : pending.SettlesOnce actions id := by
  have hnew := (h.not_coming ((admitted_sublist pending actions).subset hadmitted)).1
  induction actions generalizing pending with
  | nil => simp [admitted] at hadmitted
  | cons action actions ih =>
    have hstays : ∀ settlement, ¬ pending.Departs action id settlement := by
      intro settlement hdeparts
      exact hnew hdeparts.waits
    rcases List.mem_append.1 hadmitted with hfirst | hlater
    · exact (settlesOnce_of_waits (distinct_perform h) (mem_waiting_of_admits hfirst)).cons hstays
    · have hdistinct := distinct_perform h
      have hcoming := (admitted_sublist _ actions).subset hlater
      exact (ih hdistinct hlater (hdistinct.not_coming hcoming).1).cons hstays

theorem answers_perform (pending : Pending) (action : SlotAction) :
    (pending.perform action).answers.length + pending.orphans action =
      pending.answers.length + action.reply?.toList.length := by
  cases action with
  | register id =>
    by_cases hclosed : pending.closed <;>
      simp [perform, register, answers, orphans, SlotAction.reply?, hclosed]
  | withdraw id =>
    by_cases hmem : id ∈ pending.waiting <;>
      simp [perform, withdraw, answers, orphans, SlotAction.reply?, hmem]
  | resolve reply =>
    cases hqueue : pending.waiting <;>
      simp [perform, resolve, answers, orphans, SlotAction.reply?, hqueue]
  | failAll => simp [perform, failAll, answers, orphans, SlotAction.reply?]

theorem answers_run (pending : Pending) (actions : List SlotAction) :
    (pending.run actions).answers.length + pending.orphaned actions =
      pending.answers.length + (replies actions).length := by
  induction actions generalizing pending with
  | nil => rfl
  | cons action actions ih =>
    have hstep := answers_perform pending action
    have hrest := ih (pending.perform action)
    rw [run_cons, orphaned, replies_cons, List.length_append]
    omega

theorem desynced_perform (pending : Pending) (action : SlotAction) :
    (pending.perform action).desynced = true ↔
      pending.desynced = true ∨ 0 < pending.orphans action := by
  cases action with
  | register id => by_cases hclosed : pending.closed <;> simp [perform, register, orphans, hclosed]
  | withdraw id =>
    by_cases hmem : id ∈ pending.waiting <;> simp [perform, withdraw, orphans, hmem]
  | resolve reply => cases hqueue : pending.waiting <;> simp [perform, resolve, orphans, hqueue]
  | failAll => simp [perform, failAll, orphans]

theorem desynced_run (pending : Pending) (actions : List SlotAction) :
    (pending.run actions).desynced = true ↔
      pending.desynced = true ∨ 0 < pending.orphaned actions := by
  induction actions generalizing pending with
  | nil => simp [orphaned]
  | cons action actions ih =>
    have hrest := ih (pending.perform action)
    have hstep := desynced_perform pending action
    rw [run_cons, hrest, hstep, orphaned, or_assoc]
    exact or_congr_right (by omega)

/-- A queue that has been drained for good. -/
def Drained (pending : Pending) : Prop := pending.closed = true ∧ pending.waiting = []

theorem drained_perform (h : pending.Drained) (action : SlotAction) :
    (pending.perform action).Drained := by
  obtain ⟨hclosed, hwaiting⟩ := h
  cases action with
  | register id => simp [Drained, perform, register, hclosed, hwaiting]
  | withdraw id => simp [Drained, perform, withdraw, hclosed, hwaiting]
  | resolve reply => simp [Drained, perform, resolve, hclosed, hwaiting]
  | failAll => simp [Drained, perform, failAll]

theorem drained_run (h : pending.Drained) (actions : List SlotAction) :
    (pending.run actions).Drained := by
  induction actions generalizing pending with
  | nil => exact h
  | cons action actions ih => exact ih (drained_perform h action)

theorem drained_of_failAll (pending : Pending) (h : .failAll ∈ actions) :
    (pending.run actions).Drained := by
  obtain ⟨before, later, rfl⟩ := List.append_of_mem h
  rw [run_append, run_cons]
  exact drained_run ⟨rfl, rfl⟩ later

/-- The queue after one action: those of before and the one that has lined up, without those that
have left, and in the same order. -/
theorem waiting_perform (h : pending.Distinct (pending.admits action)) :
    (pending.perform action).waiting = (pending.waiting ++ pending.admits action).filter
      (· ∉ (pending.perform action).settledIds) := by
  have hkept : pending.waiting.filter (· ∉ pending.settledIds) = pending.waiting := by
    rw [List.filter_eq_self]
    intro id hwaits
    exact decide_eq_true (h.not_settled hwaits)
  cases action with
  | register id =>
    by_cases hclosed : pending.closed
    · simp only [perform, register, admits, hclosed, if_true, Option.getD_none, List.append_nil]
      exact hkept.symm
    · have hnew : id ∉ pending.settledIds := (h.not_coming (by simp [admits, hclosed])).2
      have hperform : pending.perform (.register id) =
          { pending with waiting := pending.waiting ++ [id] } := by
        simp [perform, register, hclosed]
      rw [hperform, admits, if_neg hclosed, List.filter_append]
      change pending.waiting ++ [id] = pending.waiting.filter (· ∉ pending.settledIds) ++
        [id].filter (· ∉ pending.settledIds)
      rw [hkept]
      simp [hnew]
  | withdraw id =>
    by_cases hmem : id ∈ pending.waiting
    · have hsettled : (pending.perform (.withdraw id)).settledIds = pending.settledIds ++ [id] := by
        simp [perform, withdraw, hmem, settledIds]
      have hwaiting : (pending.perform (.withdraw id)).waiting =
          pending.waiting.filter (· ≠ id) := by
        simp [perform, withdraw, hmem]
      have hadmits : pending.admits (.withdraw id) = [] := rfl
      rw [hsettled, hwaiting, hadmits, List.append_nil]
      conv => lhs; rw [← hkept, List.filter_filter]
      refine List.filter_congr ?_
      intro other _
      simp [List.mem_append, and_comm]
    · simp only [perform, withdraw, admits, hmem, if_false, List.append_nil]
      exact hkept.symm
  | resolve reply =>
    cases hqueue : pending.waiting with
    | nil => simp [perform, resolve, admits, hqueue]
    | cons id behind =>
      have hnodup := h.waiting_nodup
      rw [hqueue, List.nodup_cons] at hnodup
      simp only [perform, resolve, admits, hqueue, List.append_nil, settledIds, List.map_append,
        List.map_cons, List.map_nil]
      rw [List.filter_cons_of_neg (by simp), eq_comm, List.filter_eq_self]
      intro other hbehind
      have hother : other ∉ pending.settledIds := h.not_settled (by simp [hqueue, hbehind])
      have hne : other ≠ id := by
        rintro rfl
        exact hnodup.1 hbehind
      simpa [settledIds, hne] using hother
  | failAll =>
    have hnone : pending.waiting.filter (· ∉ pending.settledIds ++ pending.waiting) = [] := by
      rw [List.filter_eq_nil_iff]
      intro id hwaits
      simp [hwaits]
    have hids : pending.waiting.map (Prod.fst ∘ (·, Settlement.connectionClosed)) =
        pending.waiting := List.map_id' _
    simp only [perform, failAll, admits, List.append_nil, settledIds, List.map_append,
      List.map_map, hids]
    exact hnone.symm

theorem waiting_run (h : pending.Distinct (newIds actions)) :
    (pending.run actions).waiting = (pending.waiting ++ pending.admitted actions).filter
      (· ∉ (pending.run actions).settledIds) := by
  induction actions generalizing pending with
  | nil =>
    rw [run_nil, admitted, List.append_nil, eq_comm, List.filter_eq_self]
    intro id hwaits
    exact decide_eq_true (h.not_settled hwaits)
  | cons action actions ih =>
    have hdistinct := distinct_perform h
    have hfirst : pending.Distinct (pending.admits action) := by
      refine h.sublist (List.Sublist.append_left ?_ _)
      rw [newIds_cons]
      exact (admits_sublist pending action).trans (List.sublist_append_left _ _)
    -- Who has been settled stays so, and is filtered out at the end at the latest.
    have hgone : ∀ id ∈ (pending.perform action).settledIds,
        id ∈ ((pending.perform action).run actions).settledIds :=
      fun _ hid => settledIds_run hid actions
    rw [run_cons, admitted, ← List.append_assoc, List.filter_append (_ ++ _), ih hdistinct,
      List.filter_append, waiting_perform hfirst, List.filter_filter]
    refine congrArg (· ++ _) (List.filter_congr ?_)
    intro id _
    by_cases hsettled : id ∈ (pending.perform action).settledIds
    · simp [hgone id hsettled]
    · simp [hsettled]

def Kept (actions : List SlotAction) : Prop := ∀ id, .withdraw id ∉ actions

/-- As long as nobody takes a command back, the commands leave the queue in the order in which they
have lined up. -/
theorem order_run (pending : Pending) (hkept : Kept actions) :
    (pending.run actions).settledIds ++ (pending.run actions).waiting =
      pending.settledIds ++ pending.waiting ++ pending.admitted actions := by
  induction actions generalizing pending with
  | nil => simp [admitted]
  | cons action actions ih =>
    have hrest : Kept actions := by
      intro id hmem
      exact hkept id (List.mem_cons_of_mem _ hmem)
    have hstep : (pending.perform action).settledIds ++ (pending.perform action).waiting =
        pending.settledIds ++ pending.waiting ++ pending.admits action := by
      cases action with
      | register id =>
        by_cases hclosed : pending.closed <;> simp [perform, register, admits, settledIds, hclosed]
      | withdraw id => exact absurd (List.mem_cons_self ..) (hkept id)
      | resolve reply =>
        cases hqueue : pending.waiting <;> simp [perform, resolve, admits, settledIds, hqueue]
      | failAll =>
        have hids : pending.waiting.map (Prod.fst ∘ (·, Settlement.connectionClosed)) =
            pending.waiting := List.map_id' _
        simp [perform, failAll, admits, settledIds, hids]
    rw [run_cons, ih _ hrest, hstep, admitted, List.append_assoc _ (pending.admits action)]

theorem not_desynced_of_run (h : (pending.run actions).desynced = false) :
    pending.desynced = false ∧ pending.orphaned actions = 0 := by
  have hiff := desynced_run pending actions
  rw [h, Bool.false_eq_true, false_iff, not_or] at hiff
  exact ⟨Bool.eq_false_iff.2 hiff.1, by omega⟩

theorem replies_of_drained (h : pending.Drained) (hsync : (pending.run actions).desynced = false) :
    replies actions = [] := by
  induction actions generalizing pending with
  | nil => rfl
  | cons action actions ih =>
    have hnone : action.reply? = none := by
      cases action with
      | resolve reply =>
        have horphans := (not_desynced_of_run hsync).2
        simp [orphaned, orphans, h.2] at horphans
      | register id => rfl
      | withdraw id => rfl
      | failAll => rfl
    rw [replies_cons, hnone, ih (drained_perform h action) hsync]
    rfl

/-- As long as nobody takes a command back and every reply finds somebody waiting, the replies
settle the commands one after another. -/
theorem answered_prefix (hkept : Kept actions) (hsync : (pending.run actions).desynced = false) :
    pending.settled.map Prod.snd ++ (replies actions).map .answered <+:
      (pending.run actions).settled.map Prod.snd := by
  induction actions generalizing pending with
  | nil => simp [replies]
  | cons action actions ih =>
    have hrest : Kept actions := by
      intro id hmem
      exact hkept id (List.mem_cons_of_mem _ hmem)
    have hlater := ih hrest hsync
    cases action with
    | register id =>
      by_cases hclosed : pending.closed <;>
        simpa [perform, register, hclosed, SlotAction.reply?] using hlater
    | withdraw id => exact absurd (List.mem_cons_self ..) (hkept id)
    | resolve reply =>
      cases hqueue : pending.waiting with
      | nil =>
        have horphans := (not_desynced_of_run hsync).2
        simp [orphaned, orphans, hqueue] at horphans
      | cons id behind =>
        simpa [perform, resolve, hqueue, SlotAction.reply?] using hlater
    | failAll =>
      -- A reply after the drain would find nobody waiting.
      have hdrained : (pending.perform .failAll).Drained := ⟨rfl, rfl⟩
      have hnone := replies_of_drained hdrained hsync
      have hgrown := (settled_run pending (.failAll :: actions)).map Prod.snd
      simpa [SlotAction.reply?, hnone] using hgrown

/-- In such a history the command that lined up at a place has got the reply that came at the same
place. -/
theorem settlement?_of_reply {place : Nat} {reply : Frame} (h : Distinct .empty (newIds actions))
    (hkept : Kept actions) (hsync : (empty.run actions).desynced = false)
    (hreply : (replies actions)[place]? = some reply) :
    ∃ id, (empty.admitted actions)[place]? = some id ∧
      (empty.run actions).settlement? id = some (.answered reply) := by
  have hanswered := answered_prefix hkept hsync
  have horder := order_run empty hkept
  obtain ⟨hlt, hget⟩ := List.getElem?_eq_some_iff.1 hreply
  have hsettlement : ((empty.run actions).settled.map Prod.snd)[place]? =
      some (.answered reply) := by
    obtain ⟨later, hlater⟩ := hanswered
    rw [← hlater, List.getElem?_append_left (by simpa [empty] using hlt)]
    simp [empty, hreply]
  rw [List.getElem?_map, Option.map_eq_some_iff] at hsettlement
  obtain ⟨⟨id, settlement⟩, hentry, rfl⟩ := hsettlement
  have hplace : place < (empty.run actions).settledIds.length := by
    rw [settledIds, List.length_map]
    exact (List.getElem?_eq_some_iff.1 hentry).1
  refine ⟨id, ?_, ?_⟩
  · have hadmitted : (empty.run actions).settledIds ++ (empty.run actions).waiting =
        empty.admitted actions := by simpa [empty, settledIds] using horder
    rw [← hadmitted, List.getElem?_append_left hplace, settledIds, List.getElem?_map, hentry]
    rfl
  · exact settlement?_of_mem (distinct_run h).settled_nodup (List.mem_of_getElem? hentry)

theorem settlement?_resolve {reply : Frame} {behind : List CommandId}
    (hfront : pending.waiting = id :: behind) (hunsettled : id ∉ pending.settledIds)
    {id' : CommandId} : (pending.resolve reply).settlement? id' = some settlement ↔
      pending.settlement? id' = some settlement ∨ id' = id ∧ settlement = .answered reply := by
  have hsettled : (pending.resolve reply).settled = pending.settled ++ [(id, .answered reply)] := by
    simp [resolve, hfront]
  rw [settlement?, hsettled, List.find?_append, Option.map_or, ← settlement?]
  by_cases hsame : id' = id
  · subst hsame
    rw [settlement?_eq_none.2 hunsettled]
    simp [eq_comm]
  · simp [hsame, Ne.symm hsame]

/-- What any history conserves. -/
structure Conserved (actions : List SlotAction) : Prop where
  /-- Those that have ever lined up wait or have been settled, and nobody else. -/
  known : ((empty.run actions).waiting ++ (empty.run actions).settledIds).Perm
    (empty.admitted actions)
  /-- Each of them is in the queue or has left it once, in one of three ways, and has kept what it
  got by it. -/
  once : ∀ id ∈ empty.admitted actions, empty.SettlesOnce actions id
  /-- A reply has gone to one of them or has found nobody waiting. -/
  replies : (replies actions).length =
    (empty.run actions).answers.length + empty.orphaned actions
  desynced : (empty.run actions).desynced = true ↔ 0 < empty.orphaned actions
  /-- Once the queue has been drained it is empty and takes nobody in. -/
  closed : .failAll ∈ actions → (empty.run actions).waiting = [] ∧
    ∀ id, (empty.run actions).register id = none

theorem conserved (hnew : (newIds actions).Nodup) : Conserved actions := by
  have hdistinct : empty.Distinct (newIds actions) := by
    simpa [Distinct, empty, settledIds] using hnew
  constructor
  case known => simpa [empty, settledIds] using perm_run hdistinct
  case once =>
    intro id hadmitted
    exact settlesOnce_of_admitted hdistinct hadmitted
  case replies =>
    have hcount := answers_run empty actions
    simp [empty, answers] at hcount ⊢
    omega
  case desynced =>
    have hiff := desynced_run empty actions
    simpa [empty] using hiff
  case closed =>
    intro hmem
    obtain ⟨hclosed, hwaiting⟩ := drained_of_failAll empty hmem
    refine ⟨hwaiting, ?_⟩
    intro id
    rw [register, if_pos hclosed]

end EventSocket.Pending
