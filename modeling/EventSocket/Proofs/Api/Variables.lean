import EventSocket.Api.Variables
import EventSocket.Proofs.Fields
import Mathlib.Data.List.Induction

/-!
Channel variables set one after another. What is refused leaves everything as it was, so only the
calls with a proper name count, and what these lead to is read off the list of them.
-/

namespace EventSocket.Variables

/-- Sets a variable, unless that is refused. -/
def attempt (values : Variables) (call : String × String) : Variables :=
  match values.set call.1 call.2 with
  | .ok changed => changed
  | .error _ => values

/-- What any number of calls lead to, one after another. -/
def afterCalls (calls : List (String × String)) : Variables := calls.foldl attempt empty

/-- The calls that are not refused. -/
def accepted (calls : List (String × String)) : List (String × String) :=
  calls.filter fun call => isName call.1

theorem isReserved_iff {c : Char} : isReserved c ↔ c ∈ ['=', ',', '\x7b', '\x7d', ' '] := by
  simp [isReserved, or_assoc]

theorem isName_eq_false_iff {name : String} :
    isName name = false ↔ name = "" ∨ ∃ c ∈ name.toList, c ∈ ['=', ',', '\x7b', '\x7d', ' '] := by
  simp only [← isReserved_iff]
  by_cases hempty : name = "" <;> simp [isName, hempty]

theorem not_isReserved {name : String} (h : isName name) {c : Char} (hc : c ∈ name.toList) :
    isReserved c = false := by
  simp only [isName, Bool.and_eq_true, Bool.not_eq_true', List.any_eq_false] at h
  exact Bool.eq_false_iff.mpr (h.2 c hc)

theorem set_eq_error_iff {values : Variables} {name value : String} {fault : CommandFault} :
    values.set name value = .error fault ↔ fault = .variableName name ∧ isName name = false := by
  unfold set
  cases isName name <;> simp [eq_comm]

theorem fields_attempt (values : Variables) (call : String × String) :
    (values.attempt call).fields =
      if isName call.1 then values.fields.set call.1 call.2 else values.fields := by
  unfold attempt set
  cases isName call.1 <;> rfl

theorem afterCalls_concat (calls : List (String × String)) (call : String × String) :
    afterCalls (calls ++ [call]) = (afterCalls calls).attempt call :=
  List.foldl_append

theorem accepted_concat (calls : List (String × String)) (call : String × String) :
    accepted (calls ++ [call]) = if isName call.1 then accepted calls ++ [call]
      else accepted calls := by
  unfold accepted
  split <;> simp [*]

theorem fields_afterCalls (calls : List (String × String)) :
    (afterCalls calls).fields = Fields.ofList (accepted calls) := by
  induction calls using List.reverseRecOn with
  | nil => rfl
  | append_singleton calls call ih =>
    rw [afterCalls_concat, fields_attempt, ih, accepted_concat]
    split
    · exact (Fields.ofList_concat ..).symm
    · rfl

theorem ext_fields {left right : Variables} (h : left.fields = right.fields) : left = right := by
  cases left
  cases right
  exact congrArg Variables.mk h

theorem afterCalls_accepted (calls : List (String × String)) :
    afterCalls (accepted calls) = afterCalls calls := by
  apply ext_fields
  rw [fields_afterCalls, fields_afterCalls]
  simp [accepted]

theorem ext_toList {left right : Variables} (h : left.fields.toList = right.fields.toList) :
    left = right :=
  ext_fields (Fields.ext_toList h)

theorem toList_afterCalls {calls : List (String × String)} (hnames : ∀ call ∈ calls, isName call.1)
    (hdistinct : (calls.map Prod.fst).Nodup) : (afterCalls calls).fields.toList = calls := by
  have haccepted : accepted calls = calls := List.filter_eq_self.mpr hnames
  rw [fields_afterCalls, haccepted, Fields.toList_ofList hdistinct]

theorem text_of_ne_empty {values : Variables} (h : values ≠ empty) :
    values.fields.toList ≠ [] ∧
      values.text =
        "\x7b" ++ ",".intercalate (values.fields.toList.map itemText) ++ "\x7d" := by
  have hfields : values.fields.toList ≠ [] := by
    intro hnil
    exact h (ext_toList hnil)
  refine ⟨hfields, ?_⟩
  rw [text, if_neg]
  rwa [Fields.isEmpty, List.isEmpty_iff]

theorem isName_of_mem_names {calls : List (String × String)} {name : String}
    (h : name ∈ (afterCalls calls).fields.names) : isName name := by
  rw [fields_afterCalls, Fields.names_ofList, List.mem_eraseDups] at h
  obtain ⟨call, hcall, rfl⟩ := List.mem_map.mp h
  exact (List.mem_filter.mp hcall).2

end EventSocket.Variables
