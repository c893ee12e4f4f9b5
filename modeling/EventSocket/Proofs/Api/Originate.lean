import EventSocket.Api.Basic
import EventSocket.Proofs.Api.Variables

/-!
Originates as they are put together, call by call. The caller's variables keep the order in which
they were first set. What the builder itself gives a value has that value, in the caller's place if
the caller set it too and behind all others if not.
-/

namespace EventSocket

/-- One call on the way to an originate. -/
inductive OriginateStep where
  | set (name value : String)
  | leg (leg : Uuid)
  | heartbeat (every : Span)

namespace OriginateStep

def setting? : OriginateStep → Option (String × String)
  | set name value => some (name, value)
  | _ => none

def leg? : OriginateStep → Option Uuid
  | leg name => some name
  | _ => none

def heartbeat? : OriginateStep → Option Span
  | heartbeat every => some every
  | _ => none

end OriginateStep

namespace Originate

def take (originate : Originate) : OriginateStep → Except CommandFault Originate
  | .set name value => originate.setVariable name value
  | .leg leg => .ok { originate with leg := some leg }
  | .heartbeat every => .ok { originate with heartbeat := some every }

/-- A call that is refused leaves nothing to go on with. -/
def build (dialString : String) (target : OriginateTarget) (steps : List OriginateStep) :
    Except CommandFault Originate :=
  steps.foldlM take (new dialString target)

def settingsIn (steps : List OriginateStep) : List (String × String) :=
  steps.filterMap OriginateStep.setting?

/-- The name that the new leg was given last. -/
def legIn (steps : List OriginateStep) : Option Uuid :=
  (steps.filterMap OriginateStep.leg?).getLast?

def heartbeatIn (steps : List OriginateStep) : Option Span :=
  (steps.filterMap OriginateStep.heartbeat?).getLast?

/-- What the calls lead to if none is refused. -/
def built (dialString : String) (target : OriginateTarget) (steps : List OriginateStep) :
    Originate :=
  ⟨dialString, target, Variables.afterCalls (settingsIn steps), legIn steps, heartbeatIn steps⟩

variable {dialString : String} {target : OriginateTarget} {steps : List OriginateStep}
  {originate : Originate}

theorem setVariable_eq_ok_iff {name value : String} {later : Originate} :
    originate.setVariable name value = .ok later ↔
      Variables.isName name ∧
        later = { originate with values := originate.values.attempt (name, value) } := by
  unfold setVariable Variables.attempt Variables.set
  by_cases hname : Variables.isName name
  · simp [hname, bind, Except.bind, pure, Except.pure, eq_comm]
  · simp [hname, bind, Except.bind]

theorem settingsIn_concat (steps : List OriginateStep) (step : OriginateStep) :
    settingsIn (steps ++ [step]) = settingsIn steps ++ step.setting?.toList := by
  cases hsetting : step.setting? <;> simp [settingsIn, hsetting]

theorem legIn_concat (steps : List OriginateStep) (step : OriginateStep) :
    legIn (steps ++ [step]) = step.leg?.or (legIn steps) := by
  cases hleg : step.leg? <;> simp [legIn, hleg]

theorem heartbeatIn_concat (steps : List OriginateStep) (step : OriginateStep) :
    heartbeatIn (steps ++ [step]) = step.heartbeat?.or (heartbeatIn steps) := by
  cases hbeat : step.heartbeat? <;> simp [heartbeatIn, hbeat]

theorem built_concat (step : OriginateStep) :
    built dialString target (steps ++ [step]) =
      ⟨dialString, target, Variables.afterCalls (settingsIn steps ++ step.setting?.toList),
        step.leg?.or (legIn steps), step.heartbeat?.or (heartbeatIn steps)⟩ := by
  rw [built, settingsIn_concat, legIn_concat, heartbeatIn_concat]

theorem take_built {step : OriginateStep} :
    (built dialString target steps).take step = .ok originate ↔
      (∀ call ∈ step.setting?, Variables.isName call.1) ∧
        originate = built dialString target (steps ++ [step]) := by
  rw [built_concat]
  cases step with
  | set name value =>
    rw [take, setVariable_eq_ok_iff]
    simp [OriginateStep.setting?, OriginateStep.leg?, OriginateStep.heartbeat?, built,
      Variables.afterCalls_concat]
  | leg name =>
    rw [take, Except.ok.injEq, eq_comm]
    simp [OriginateStep.setting?, OriginateStep.leg?, OriginateStep.heartbeat?, built]
  | heartbeat every =>
    rw [take, Except.ok.injEq, eq_comm]
    simp [OriginateStep.setting?, OriginateStep.leg?, OriginateStep.heartbeat?, built]

theorem build_concat (steps : List OriginateStep) (step : OriginateStep) :
    build dialString target (steps ++ [step]) =
      (build dialString target steps >>= fun originate => originate.take step) := by
  simp [build, List.foldlM_append]

theorem build_eq_ok_iff :
    build dialString target steps = .ok originate ↔
      (∀ call ∈ settingsIn steps, Variables.isName call.1) ∧
        originate = built dialString target steps := by
  induction steps using List.reverseRecOn generalizing originate with
  | nil =>
    have hnew : built dialString target [] = new dialString target := rfl
    have hbuild : build dialString target [] = .ok (new dialString target) := rfl
    rw [hnew, hbuild, Except.ok.injEq, eq_comm]
    simp [settingsIn]
  | append_singleton steps step ih =>
    rw [build_concat, settingsIn_concat]
    constructor
    · intro h
      cases hbefore : build dialString target steps with
      | error fault => rw [hbefore] at h; cases h
      | ok before =>
        obtain ⟨hnames, rfl⟩ := ih.mp hbefore
        rw [hbefore] at h
        obtain ⟨hname, rfl⟩ := take_built.mp h
        refine ⟨?_, rfl⟩
        intro call hcall
        rcases List.mem_append.mp hcall with hcall | hcall
        · exact hnames call hcall
        · exact hname call (Option.mem_toList.mp hcall)
    · rintro ⟨hnames, rfl⟩
      have hbefore : build dialString target steps = .ok (built dialString target steps) :=
        ih.mpr ⟨fun call hcall => hnames call (List.mem_append_left _ hcall), rfl⟩
      rw [hbefore]
      apply take_built.mpr
      exact ⟨fun call hcall => hnames call (List.mem_append_right _ (Option.mem_toList.mpr hcall)),
        rfl⟩

/-! What the builder itself gives a value. -/

theorem names_ownFields (originate : Originate) :
    (originate.ownFields.map Prod.fst).Nodup := by
  unfold ownFields
  cases originate.leg <;> cases originate.heartbeat <;> simp

theorem toList_allVariables (originate : Originate) :
    originate.allVariables.fields.toList =
      Fields.overlay originate.ownFields originate.values.fields.toList :=
  Fields.toList_setAll_of_nodup originate.values.fields originate.names_ownFields

theorem mem_overlay_ownFields (originate : Originate) :
    ∀ field ∈ originate.ownFields, field ∈ originate.allVariables.fields.toList := by
  rintro ⟨name, value⟩ hfield
  have hlast : Fields.lastValue? name originate.ownFields = some value :=
    Fields.lastValue?_of_mem originate.names_ownFields hfield
  apply Fields.get?_eq_some_iff.mp
  have hget : originate.allVariables.fields.get? name = _ :=
    Fields.get?_setAll originate.values.fields originate.ownFields name
  rw [hget, hlast, Option.some_or]

theorem allVariables_ne_empty (originate : Originate) :
    originate.allVariables ≠ Variables.empty := by
  intro hempty
  have hmedia : ("ignore_early_media", "true") ∈ originate.allVariables.fields.toList := by
    apply originate.mem_overlay_ownFields
    simp [ownFields]
  rw [hempty] at hmedia
  cases hmedia

/-- A variable can be set under any name that is not empty and has none of the characters of the
rendering in it. What has been set stands in the order in which the names were first set, each once
and with the value it was given last; a refused call changes nothing. An originate renders these
variables in this order, but for the values that the builder gives itself, each of which stands
there once: where the caller has put the name, or behind all others. -/
theorem argument_in_order :
    (∀ (values : Variables) (name value : String) (fault : CommandFault),
      values.set name value = .error fault ↔
        fault = .variableName name ∧
          (name = "" ∨ ∃ c ∈ name.toList, c ∈ ['=', ',', '\x7b', '\x7d', ' '])) ∧
    (∀ calls : List (String × String),
      let values := Variables.afterCalls calls
      let accepted := calls.filter fun call => Variables.isName call.1
      values = Variables.afterCalls accepted ∧
        values.fields.names = (accepted.map Prod.fst).eraseDups ∧ values.fields.names.Nodup ∧
        ∀ name, values.get? name = Fields.lastValue? name accepted) ∧
    ∀ (dialString : String) (target : OriginateTarget) (steps : List OriginateStep),
      ((∃ originate, build dialString target steps = .ok originate) ↔
        ∀ call ∈ settingsIn steps, Variables.isName call.1) ∧
      ∀ originate, build dialString target steps = .ok originate →
        let user := (Variables.afterCalls (settingsIn steps)).fields.toList
        let own :=
          ((legIn steps).map fun leg => ("origination_uuid", leg.text)).toList ++
            [("ignore_early_media", "true")] ++
            ((heartbeatIn steps).map fun every =>
              ("enable_heartbeat_events", toString every.seconds)).toList
        let shown := Fields.overlay own user
        originate.argument =
            "\x7b" ++ ",".intercalate (shown.map Variables.itemText) ++ "\x7d" ++ dialString ++
              " " ++ target.text ∧
          (shown.map Prod.fst).Nodup ∧ ∀ field ∈ own, field ∈ shown := by
  refine ⟨?_, ?_, ?_⟩
  · intro values name value fault
    rw [← Variables.isName_eq_false_iff]
    exact Variables.set_eq_error_iff
  · intro calls values accepted
    have hfields : values.fields = Fields.ofList accepted := Variables.fields_afterCalls calls
    refine ⟨(Variables.afterCalls_accepted calls).symm, ?_, values.fields.distinct, ?_⟩
    · rw [hfields, Fields.names_ofList]
    · intro name
      rw [Variables.get?, hfields, Fields.get?_ofList]
  · intro dialString target steps
    constructor
    · constructor
      · rintro ⟨originate, hbuild⟩
        exact (build_eq_ok_iff.mp hbuild).1
      · intro hnames
        exact ⟨_, build_eq_ok_iff.mpr ⟨hnames, rfl⟩⟩
    · intro originate hbuild user own shown
      obtain ⟨-, rfl⟩ := build_eq_ok_iff.mp hbuild
      let originate := built dialString target steps
      have hshown : originate.allVariables.fields.toList = shown := originate.toList_allVariables
      have hargument : originate.argument =
          originate.allVariables.text ++ dialString ++ " " ++ target.text := rfl
      rw [← hshown]
      refine ⟨?_, originate.allVariables.fields.distinct, originate.mem_overlay_ownFields⟩
      rw [hargument, (Variables.text_of_ne_empty originate.allVariables_ne_empty).2]

theorem argument_in_order_early_media_set :
    ∃ originate,
      build "user/9" (.application "park" none)
          [.set "a" "1", .leg ⟨⟨0x3f1f6c1e8a4b4d0e9c2a0a1b2c3d4e5f, by decide⟩⟩,
            .set "ignore_early_media" "false", .set "b" "x y", .heartbeat ⟨60, 0⟩,
            .set "a" "2"] = .ok originate ∧
        originate.argument =
          "\x7ba=2,ignore_early_media=true,b='x y'," ++
            "origination_uuid=3f1f6c1e-8a4b-4d0e-9c2a-0a1b2c3d4e5f," ++
            "enable_heartbeat_events=60\x7duser/9 &park()" := by
  obtain ⟨-, -, horiginate⟩ := argument_in_order
  obtain ⟨hbuilds, hargument⟩ := horiginate "user/9" (.application "park" none)
    [.set "a" "1", .leg ⟨⟨0x3f1f6c1e8a4b4d0e9c2a0a1b2c3d4e5f, by decide⟩⟩,
      .set "ignore_early_media" "false", .set "b" "x y", .heartbeat ⟨60, 0⟩, .set "a" "2"]
  obtain ⟨originate, hbuild⟩ := hbuilds.mpr (by decide +kernel)
  refine ⟨originate, hbuild, ?_⟩
  rw [(hargument originate hbuild).1]
  decide +kernel

end Originate

end EventSocket
