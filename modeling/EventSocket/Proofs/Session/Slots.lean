import EventSocket.Session.Pending
import Mathlib.Data.List.Nodup
import Mathlib.Data.List.Perm.Basic

/-!
Histories of the commands that wait for replies: what each of the four actions does, who leaves the
queue by it, and what is left of a queue after any number of them.
-/

namespace EventSocket

inductive SlotAction where
  | register (id : CommandId)
  | withdraw (id : CommandId)
  | resolve (reply : Frame)
  | failAll
  deriving DecidableEq

namespace SlotAction

def registered? : SlotAction → Option CommandId
  | register id => some id
  | _ => none

def reply? : SlotAction → Option Frame
  | resolve reply => some reply
  | _ => none

end SlotAction

def newIds (actions : List SlotAction) : List CommandId :=
  actions.filterMap SlotAction.registered?

def replies (actions : List SlotAction) : List Frame :=
  actions.filterMap SlotAction.reply?

@[simp]
theorem newIds_cons (action : SlotAction) (actions : List SlotAction) :
    newIds (action :: actions) = action.registered?.toList ++ newIds actions := by
  cases action <;> rfl

@[simp]
theorem replies_cons (action : SlotAction) (actions : List SlotAction) :
    replies (action :: actions) = action.reply?.toList ++ replies actions := by
  cases action <;> rfl

namespace Pending

/-- A command that may not line up any more changes nothing. -/
def perform (pending : Pending) : SlotAction → Pending
  | .register id => (pending.register id).getD pending
  | .withdraw id => pending.withdraw id
  | .resolve reply => pending.resolve reply
  | .failAll => pending.failAll

def run (pending : Pending) (actions : List SlotAction) : Pending :=
  actions.foldl perform pending

def admits (pending : Pending) : SlotAction → List CommandId
  | .register id => if pending.closed then [] else [id]
  | _ => []

def admitted : Pending → List SlotAction → List CommandId
  | _, [] => []
  | pending, action :: actions =>
    pending.admits action ++ admitted (pending.perform action) actions

/-- A reply has come that nobody waits for. -/
def orphans (pending : Pending) : SlotAction → Nat
  | .resolve _ => if pending.waiting.isEmpty then 1 else 0
  | _ => 0

def orphaned : Pending → List SlotAction → Nat
  | _, [] => 0
  | pending, action :: actions =>
    pending.orphans action + orphaned (pending.perform action) actions

def settledIds (pending : Pending) : List CommandId := pending.settled.map Prod.fst

/-- The replies that have gone to a command. -/
def answers (pending : Pending) : List Frame :=
  pending.settled.filterMap fun entry =>
    match entry.2 with
    | .answered reply => some reply
    | _ => none

/-- The three ways out of the queue, and what each comes to for the command. -/
inductive Departs (pending : Pending) : SlotAction → CommandId → Settlement → Prop
  | answered {id : CommandId} {behind : List CommandId} {reply : Frame}
      (hfront : pending.waiting = id :: behind) :
      Departs pending (.resolve reply) id (.answered reply)
  | withdrawn {id : CommandId} (hwaits : id ∈ pending.waiting) :
      Departs pending (.withdraw id) id .withdrawn
  | drained {id : CommandId} (hwaits : id ∈ pending.waiting) :
      Departs pending .failAll id .connectionClosed

/-- A command leaves the queue at a place of a history. -/
def LeavesAt (start : Pending) (actions : List SlotAction) (place : Nat) (id : CommandId)
    (settlement : Settlement) : Prop :=
  ∃ action, actions[place]? = some action ∧
    Departs (start.run (actions.take place)) action id settlement

variable {pending start : Pending} {action : SlotAction} {actions : List SlotAction}
  {id : CommandId} {settlement : Settlement}

@[simp]
theorem run_nil (pending : Pending) : pending.run [] = pending := rfl

@[simp]
theorem run_cons (pending : Pending) (action : SlotAction) (actions : List SlotAction) :
    pending.run (action :: actions) = (pending.perform action).run actions := rfl

theorem run_append (pending : Pending) (actions more : List SlotAction) :
    pending.run (actions ++ more) = (pending.run actions).run more :=
  List.foldl_append

theorem admitted_append (pending : Pending) (actions more : List SlotAction) :
    pending.admitted (actions ++ more) =
      pending.admitted actions ++ (pending.run actions).admitted more := by
  induction actions generalizing pending with
  | nil => rfl
  | cons action actions ih => simp [admitted, ih]

theorem admits_sublist (pending : Pending) (action : SlotAction) :
    (pending.admits action).Sublist action.registered?.toList := by
  cases action with
  | register id =>
    by_cases hclosed : pending.closed <;> simp [admits, SlotAction.registered?, hclosed]
  | withdraw id => simp [admits]
  | resolve reply => simp [admits]
  | failAll => simp [admits]

theorem admitted_sublist (pending : Pending) (actions : List SlotAction) :
    (pending.admitted actions).Sublist (newIds actions) := by
  induction actions generalizing pending with
  | nil => exact List.Sublist.slnil
  | cons action actions ih =>
    rw [admitted, newIds_cons]
    exact (admits_sublist pending action).append (ih (pending.perform action))

/-- Every name that a queue knows of, and those that are still to come, once each. -/
def Distinct (pending : Pending) (coming : List CommandId) : Prop :=
  (pending.waiting ++ pending.settledIds ++ coming).Nodup

theorem perm_perform (hwaiting : pending.waiting.Nodup) (action : SlotAction) :
    ((pending.perform action).waiting ++ (pending.perform action).settledIds).Perm
      (pending.waiting ++ pending.settledIds ++ pending.admits action) := by
  cases action with
  | register id =>
    by_cases hclosed : pending.closed
    · simp [perform, register, admits, hclosed]
    · simp only [perform, register, admits, hclosed, settledIds, Bool.false_eq_true, if_false,
        Option.getD_some, List.append_assoc]
      exact List.perm_append_comm.append_left _
  | withdraw id =>
    by_cases hmem : id ∈ pending.waiting
    · have hsplit : (pending.waiting.filter (· ≠ id) ++ [id]).Perm pending.waiting := by
        have herase : pending.waiting.erase id = pending.waiting.filter (· ≠ id) := by
          rw [hwaiting.erase_eq_filter]
          exact List.filter_congr fun other _ => (decide_not (p := other = id)).symm
        rw [← herase]
        exact List.perm_append_comm.trans (List.perm_cons_erase hmem).symm
      simp only [perform, withdraw, admits, hmem, settledIds, if_true, List.map_append,
        List.map_cons, List.map_nil, List.append_nil]
      calc pending.waiting.filter (· ≠ id) ++ (pending.settled.map Prod.fst ++ [id])
          |>.Perm (pending.waiting.filter (· ≠ id) ++ ([id] ++ pending.settled.map Prod.fst)) :=
            List.perm_append_comm.append_left _
        _ = (pending.waiting.filter (· ≠ id) ++ [id]) ++ pending.settled.map Prod.fst := by simp
        _ |>.Perm _ := hsplit.append_right _
    · simp [perform, withdraw, admits, hmem, settledIds]
  | resolve reply =>
    cases hqueue : pending.waiting with
    | nil => simp [perform, resolve, admits, hqueue, settledIds]
    | cons id behind =>
      simp only [perform, resolve, admits, hqueue, settledIds, List.map_append, List.map_cons,
        List.map_nil, List.append_nil, ← List.append_assoc]
      exact List.perm_append_singleton _ _
  | failAll =>
    simp only [perform, failAll, admits, settledIds, List.map_append, List.map_map, List.nil_append,
      List.append_nil]
    have hids : pending.waiting.map (Prod.fst ∘ (·, Settlement.connectionClosed)) =
        pending.waiting := List.map_id' _
    rw [hids]
    exact List.perm_append_comm

theorem Distinct.waiting_nodup {coming : List CommandId} (h : pending.Distinct coming) :
    pending.waiting.Nodup :=
  (List.nodup_append.1 (List.nodup_append.1 h).1).1

theorem Distinct.settled_nodup {coming : List CommandId} (h : pending.Distinct coming) :
    pending.settledIds.Nodup :=
  (List.nodup_append.1 (List.nodup_append.1 h).1).2.1

theorem Distinct.not_settled {coming : List CommandId} (h : pending.Distinct coming)
    (hwaits : id ∈ pending.waiting) : id ∉ pending.settledIds := by
  intro hsettled
  exact (List.nodup_append.1 (List.nodup_append.1 h).1).2.2 id hwaits id hsettled rfl

theorem Distinct.not_coming {coming : List CommandId} (h : pending.Distinct coming)
    (hcoming : id ∈ coming) : id ∉ pending.waiting ∧ id ∉ pending.settledIds := by
  have hdisjoint := (List.nodup_append.1 h).2.2
  constructor
  · intro hwaits
    exact hdisjoint id (List.mem_append_left _ hwaits) id hcoming rfl
  · intro hsettled
    exact hdisjoint id (List.mem_append_right _ hsettled) id hcoming rfl

theorem distinct_perform (h : pending.Distinct (newIds (action :: actions))) :
    (pending.perform action).Distinct (newIds actions) := by
  have hperm := perm_perform h.waiting_nodup action
  have hsublist : (pending.waiting ++ pending.settledIds ++ pending.admits action ++
      newIds actions).Sublist
        (pending.waiting ++ pending.settledIds ++ newIds (action :: actions)) := by
    rw [newIds_cons, ← List.append_assoc]
    exact ((admits_sublist pending action).append_left _).append_right _
  exact (hperm.append_right _).nodup_iff.2 (h.sublist hsublist)

theorem distinct_run (h : pending.Distinct (newIds actions)) :
    (pending.run actions).Distinct [] := by
  induction actions generalizing pending with
  | nil => exact h
  | cons action actions ih => exact ih (distinct_perform h)

theorem perm_run (h : pending.Distinct (newIds actions)) :
    ((pending.run actions).waiting ++ (pending.run actions).settledIds).Perm
      (pending.waiting ++ pending.settledIds ++ pending.admitted actions) := by
  induction actions generalizing pending with
  | nil => simp [admitted]
  | cons action actions ih =>
    rw [run_cons, admitted, ← List.append_assoc]
    exact (ih (distinct_perform h)).trans ((perm_perform h.waiting_nodup action).append_right _)

theorem settled_perform (pending : Pending) (action : SlotAction) :
    pending.settled <+: (pending.perform action).settled := by
  cases action with
  | register id => by_cases hclosed : pending.closed <;> simp [perform, register, hclosed]
  | withdraw id => by_cases hmem : id ∈ pending.waiting <;> simp [perform, withdraw, hmem]
  | resolve reply => cases hqueue : pending.waiting <;> simp [perform, resolve, hqueue]
  | failAll => simp [perform, failAll]

theorem settled_run (pending : Pending) (actions : List SlotAction) :
    pending.settled <+: (pending.run actions).settled := by
  induction actions generalizing pending with
  | nil => exact List.prefix_rfl
  | cons action actions ih => exact (settled_perform pending action).trans (ih _)

theorem settledIds_run (h : id ∈ pending.settledIds) (actions : List SlotAction) :
    id ∈ (pending.run actions).settledIds := by
  obtain ⟨later, hlater⟩ := settled_run pending actions
  rw [settledIds, ← hlater, List.map_append]
  exact List.mem_append_left _ h

theorem settlement?_eq_none : pending.settlement? id = none ↔ id ∉ pending.settledIds := by
  rw [settlement?, Option.map_eq_none_iff, List.find?_eq_none, settledIds, List.mem_map]
  constructor
  · rintro hnone ⟨entry, hmem, rfl⟩
    exact hnone entry hmem (decide_eq_true rfl)
  · intro habsent entry hmem hid
    exact habsent ⟨entry, hmem, of_decide_eq_true hid⟩

theorem mem_settled_of_settlement? (h : pending.settlement? id = some settlement) :
    (id, settlement) ∈ pending.settled := by
  obtain ⟨entry, hfind, rfl⟩ := Option.map_eq_some_iff.1 h
  have hid : entry.1 = id := by simpa using List.find?_some hfind
  subst hid
  exact List.mem_of_find?_eq_some hfind

theorem settlement?_run (h : pending.settlement? id = some settlement)
    (actions : List SlotAction) : (pending.run actions).settlement? id = some settlement := by
  obtain ⟨later, hlater⟩ := settled_run pending actions
  obtain ⟨entry, hfind, hentry⟩ := Option.map_eq_some_iff.1 h
  rw [settlement?, ← hlater, List.find?_append, hfind]
  exact congrArg some hentry

theorem settlement?_of_mem (hnodup : pending.settledIds.Nodup)
    (h : (id, settlement) ∈ pending.settled) : pending.settlement? id = some settlement := by
  cases hfound : pending.settlement? id with
  | none => exact absurd (List.mem_map_of_mem h) (settlement?_eq_none.1 hfound)
  | some other =>
    have hother := mem_settled_of_settlement? hfound
    have hsame := List.inj_on_of_nodup_map hnodup hother h rfl
    rw [(Prod.mk.inj hsame).2]

theorem Departs.waits (h : pending.Departs action id settlement) : id ∈ pending.waiting := by
  cases h with
  | answered hfront => simp [hfront]
  | withdrawn hwaits => exact hwaits
  | drained hwaits => exact hwaits

theorem Departs.unique {other : Settlement} (h : pending.Departs action id settlement)
    (hother : pending.Departs action id other) : other = settlement := by
  cases h <;> cases hother <;> rfl

theorem Departs.settled (h : pending.Departs action id settlement) :
    (id, settlement) ∈ (pending.perform action).settled := by
  cases h with
  | answered hfront => simp [perform, resolve, hfront]
  | withdrawn hwaits => simp [perform, withdraw, hwaits]
  | drained hwaits => simp [perform, failAll, hwaits]

theorem waits_or_departs (hwaits : id ∈ pending.waiting) (action : SlotAction) :
    id ∈ (pending.perform action).waiting ∨ ∃ settlement, pending.Departs action id settlement := by
  cases action with
  | register new =>
    by_cases hclosed : pending.closed <;> simp [perform, register, hclosed, hwaits]
  | withdraw gone =>
    by_cases hsame : id = gone
    · subst hsame
      exact Or.inr ⟨_, .withdrawn hwaits⟩
    · by_cases hmem : gone ∈ pending.waiting <;> simp [perform, withdraw, hmem, hwaits, hsame]
  | resolve reply =>
    cases hqueue : pending.waiting with
    | nil => simp [hqueue] at hwaits
    | cons front behind =>
      rcases List.mem_cons.1 (hqueue ▸ hwaits) with rfl | hbehind
      · exact Or.inr ⟨_, .answered hqueue⟩
      · simp [perform, resolve, hqueue, hbehind]
  | failAll => exact Or.inr ⟨_, .drained hwaits⟩

theorem mem_waiting_of_admits (h : id ∈ pending.admits action) :
    id ∈ (pending.perform action).waiting := by
  cases action with
  | register new =>
    by_cases hclosed : pending.closed <;> simp_all [admits, perform, register]
  | withdraw gone => simp [admits] at h
  | resolve reply => simp [admits] at h
  | failAll => simp [admits] at h

theorem waiting_withdraw (pending : Pending) (id : CommandId) :
    (pending.withdraw id).waiting = pending.waiting.filter (· ≠ id) := by
  unfold withdraw
  split
  · rfl
  · next habsent =>
    refine (List.filter_eq_self.2 ?_).symm
    intro other hwaits
    exact decide_eq_true fun hsame => habsent (hsame ▸ hwaits)

theorem settlement?_withdraw {other : CommandId} (hother : other ≠ id) :
    (pending.withdraw id).settlement? other = pending.settlement? other := by
  unfold withdraw
  split
  · simp [settlement?, hother.symm]
  · rfl

theorem closed_withdraw (pending : Pending) (id : CommandId) :
    (pending.withdraw id).closed = pending.closed := by
  unfold withdraw
  split <;> rfl

theorem desynced_withdraw (pending : Pending) (id : CommandId) :
    (pending.withdraw id).desynced = pending.desynced := by
  unfold withdraw
  split <;> rfl

end Pending

end EventSocket
