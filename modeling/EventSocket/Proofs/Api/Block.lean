import EventSocket.Proofs.Api.Originate
import EventSocket.Proofs.Text.Numerals
import Mathlib.Data.List.Basic
import Mathlib.Data.List.Infix

/-!
What the block of variables gives away. A name ends at the first equals sign. A value ends in front
of a comma or of the end of the block; one with a comma or a blank in it stands in quotes and ends
at a quote there. Nothing is done about the quotes in a value, so one that begins with a quote, or
has one where a value in quotes could end, can pass for several variables. The block tells all
others.
-/

namespace EventSocket

namespace Variables

/-- Written in quotes. -/
def isQuoted (value : String) : Bool := value.toList.any fun c => c == ',' || c == ' '

/-- A value that does not end early if what follows a value begins with one of `ends`. -/
def IsContained (ends : List Char) (value : String) : Prop :=
  if isQuoted value then ∀ c ∈ ends, ¬ ['\'', c] <:+: value.toList
  else value.toList.head? ≠ some '\'' ∧ ∀ c ∈ ends, c ∉ value.toList

instance (ends : List Char) (value : String) : Decidable (IsContained ends value) :=
  if h : isQuoted value then
    have hends : Decidable (∀ c ∈ ends, ¬ ['\'', c] <:+: value.toList) := List.decidableBAll _ ends
    decidable_of_iff (∀ c ∈ ends, ¬ ['\'', c] <:+: value.toList) (by rw [IsContained, if_pos h])
  else
    have hends : Decidable (∀ c ∈ ends, c ∉ value.toList) := List.decidableBAll _ ends
    decidable_of_iff (value.toList.head? ≠ some '\'' ∧ ∀ c ∈ ends, c ∉ value.toList)
      (by rw [IsContained, if_neg h])

/-- Fields whose names and values do not end early. -/
def AreContained (ends : List Char) (fields : List (String × String)) : Prop :=
  ∀ field ∈ fields, '=' ∉ field.1.toList ∧ IsContained ends field.2

/-- What may stand behind a value: nothing, or something that begins with one of `ends`. -/
def Follows (ends tail : List Char) : Prop := ∀ c ∈ tail.head?, c ∈ ends

variable {ends tail tail' : List Char}

/-! One value. -/

theorem toList_valueText (value : String) :
    (valueText value).toList =
      if isQuoted value then '\'' :: (value.toList ++ ['\'']) else value.toList := by
  unfold valueText isQuoted
  split <;> simp

theorem valueText_injective : Function.Injective valueText := by
  have hquoted : ∀ {value other : String}, isQuoted value → ¬ isQuoted other →
      (valueText value).toList ≠ (valueText other).toList := by
    intro value other hvalue hother heq
    rw [toList_valueText, toList_valueText, if_pos hvalue, if_neg hother] at heq
    apply hother
    unfold isQuoted at hvalue ⊢
    rw [← heq, List.any_cons, List.any_append, hvalue]
    simp
  intro left right heq
  have hlists := congrArg String.toList heq
  apply String.toList_injective
  by_cases hleft : isQuoted left <;> by_cases hright : isQuoted right
  · simpa [toList_valueText, hleft, hright] using hlists
  · exact absurd hlists (hquoted hleft hright)
  · exact absurd hlists.symm (hquoted hright hleft)
  · rwa [toList_valueText, toList_valueText, if_neg hleft, if_neg hright] at hlists

/-- What is written for a value cannot go on as what is written for another. -/
theorem valueText_ne_append (hquote : '\'' ∉ ends) {value longer : String} {c : Char}
    (hvalue : IsContained ends value) (hlonger : IsContained ends longer) (hc : c ∈ ends)
    (more : List Char) : (valueText longer).toList ≠ (valueText value).toList ++ c :: more := by
  intro heq
  have hne : c ≠ '\'' := ne_of_mem_of_not_mem hc hquote
  rw [toList_valueText, toList_valueText] at heq
  unfold IsContained at hvalue hlonger
  split at hlonger
  · next hquoted =>
    rw [if_pos hquoted] at heq
    split at hvalue
    · next hvalueQuoted =>
      rw [if_pos hvalueQuoted, List.cons_append, List.cons.injEq] at heq
      rcases List.eq_nil_or_concat more with rfl | ⟨inner, last, rfl⟩
      · have hlast := congrArg List.getLast? heq.2
        simp only [List.getLast?_append, List.getLast?_singleton, Option.some_or,
          Option.some.injEq] at hlast
        exact hne hlast.symm
      · -- The second quote of the shorter one stands inside the longer one.
        have hends : longer.toList ++ ['\''] = value.toList ++ ['\'', c] ++ inner ++ [last] := by
          simpa using heq.2
        have hinside := (List.append_inj' hends rfl).1
        exact hlonger c hc ⟨value.toList, inner, hinside.symm⟩
    · next hvaluePlain =>
      rw [if_neg hvaluePlain] at heq
      cases hlist : value.toList with
      | nil =>
        rw [hlist, List.nil_append] at heq
        exact hne (List.cons.inj heq).1.symm
      | cons first rest =>
        rw [hlist, List.cons_append] at heq
        apply hvalue.1
        rw [hlist, List.head?_cons, (List.cons.inj heq).1]
  · next hplain =>
    rw [if_neg hplain] at heq
    apply hlonger.2 c hc
    rw [heq]
    exact List.mem_append_right _ List.mem_cons_self

theorem valueText_append_inj (hquote : '\'' ∉ ends) {left right : String}
    (hleft : IsContained ends left) (hright : IsContained ends right) (htail : Follows ends tail)
    (htail' : Follows ends tail')
    (heq : (valueText left).toList ++ tail = (valueText right).toList ++ tail') :
    left = right ∧ tail = tail' := by
  rcases List.append_eq_append_iff.mp heq with ⟨more, hright', htails⟩ | ⟨more, hleft', htails⟩
  · cases more with
    | nil =>
      rw [List.append_nil] at hright'
      exact ⟨(valueText_injective (String.toList_injective hright')).symm, htails⟩
    | cons c more =>
      have hc : c ∈ ends := htail c (by rw [htails]; rfl)
      exact absurd hright' (valueText_ne_append hquote hleft hright hc more)
  · cases more with
    | nil =>
      rw [List.append_nil] at hleft'
      exact ⟨valueText_injective (String.toList_injective hleft'), htails.symm⟩
    | cons c more =>
      have hc : c ∈ ends := htail' c (by rw [htails]; rfl)
      exact absurd hleft' (valueText_ne_append hquote hright hleft hc more)

/-! One field, and one behind the other. -/

theorem toList_itemText (field : String × String) :
    (itemText field).toList = field.1.toList ++ '=' :: (valueText field.2).toList := by
  simp [itemText]

/-- The first `c` parts a text in two in one way only. -/
theorem parted_inj {left right : List Char} {c : Char} (hleft : c ∉ left) (hright : c ∉ right)
    (heq : left ++ c :: tail = right ++ c :: tail') : left = right ∧ tail = tail' := by
  rcases List.append_eq_append_iff.mp heq with ⟨between, rfl, htails⟩ | ⟨between, rfl, htails⟩ <;>
    cases between with
    | nil => simpa [eq_comm] using htails
    | cons first between =>
      obtain ⟨rfl, -⟩ := List.cons.inj htails
      simp at hleft hright

theorem itemText_append_inj (hquote : '\'' ∉ ends) {left right : String × String}
    (hleft : '=' ∉ left.1.toList ∧ IsContained ends left.2)
    (hright : '=' ∉ right.1.toList ∧ IsContained ends right.2) (htail : Follows ends tail)
    (htail' : Follows ends tail')
    (heq : (itemText left).toList ++ tail = (itemText right).toList ++ tail') :
    left = right ∧ tail = tail' := by
  rw [toList_itemText, toList_itemText, List.append_assoc, List.append_assoc] at heq
  obtain ⟨hname, hrest⟩ := parted_inj hleft.1 hright.1 heq
  obtain ⟨hvalue, htails⟩ :=
    valueText_append_inj hquote hleft.2 hright.2 htail htail' hrest
  exact ⟨Prod.ext (String.toList_injective hname) hvalue, htails⟩

/-- The fields, each behind a comma, and what follows them. -/
def behind (fields : List (String × String)) (tail : List Char) : List Char :=
  fields.flatMap (fun field => ',' :: (itemText field).toList) ++ tail

@[simp]
theorem behind_nil (tail : List Char) : behind [] tail = tail := rfl

theorem behind_cons (field : String × String) (fields : List (String × String))
    (tail : List Char) :
    behind (field :: fields) tail = ',' :: ((itemText field).toList ++ behind fields tail) := by
  simp [behind]

theorem comma_cons_items {fields : List (String × String)} (h : fields ≠ [])
    (tail : List Char) :
    ',' :: ((",".intercalate (fields.map itemText)).toList ++ tail) = behind fields tail := by
  induction fields with
  | nil => exact absurd rfl h
  | cons field fields ih =>
    rw [behind_cons]
    cases fields with
    | nil => simp
    | cons next fields =>
      rw [← ih (List.cons_ne_nil next fields)]
      simp [String.intercalate_cons_cons]

theorem follows_behind (hcomma : ',' ∈ ends) (fields : List (String × String))
    (htail : Follows ends tail) : Follows ends (behind fields tail) := by
  cases fields with
  | nil => exact htail
  | cons field fields =>
    rw [behind_cons]
    rintro c ⟨⟩
    exact hcomma

/-- What is written is told apart by what is read: the fields and what follows them. -/
theorem behind_inj (hquote : '\'' ∉ ends) (hcomma : ',' ∈ ends)
    {left right : List (String × String)} (hleft : AreContained ends left)
    (hright : AreContained ends right) (htail : Follows ends tail) (htail' : Follows ends tail')
    (hend : tail.head? ≠ some ',') (hend' : tail'.head? ≠ some ',')
    (heq : behind left tail = behind right tail') : left = right ∧ tail = tail' := by
  induction left generalizing right with
  | nil =>
    cases right with
    | nil => exact ⟨rfl, heq⟩
    | cons field right =>
      rw [behind_nil, behind_cons] at heq
      exact absurd (congrArg List.head? heq) hend
  | cons field left ih =>
    cases right with
    | nil =>
      rw [behind_nil, behind_cons] at heq
      exact absurd (congrArg List.head? heq.symm) hend'
    | cons other right =>
      obtain ⟨hfield, hmore⟩ := List.forall_mem_cons.mp hleft
      obtain ⟨hother, hmore'⟩ := List.forall_mem_cons.mp hright
      rw [behind_cons, behind_cons] at heq
      obtain ⟨rfl, hrest⟩ := itemText_append_inj hquote hfield hother
        (follows_behind hcomma left htail) (follows_behind hcomma right htail')
        (List.cons.inj heq).2
      obtain ⟨rfl, htails⟩ := ih hmore hmore' hrest
      exact ⟨rfl, htails⟩

/-! The block. -/

/-- The block, but for the brace that it begins with. -/
theorem toList_text_append {values : Variables} (h : values ≠ empty) (rest : String) :
    ∃ items, (values.text ++ rest).toList = '\x7b' :: items ∧
      ',' :: items = behind values.fields.toList ('\x7d' :: rest.toList) := by
  obtain ⟨hfields, htext⟩ := text_of_ne_empty h
  refine ⟨_, ?_, comma_cons_items hfields _⟩
  rw [htext]
  simp

theorem behind_of_text_eq {left right : Variables} (hleft : left ≠ empty) (hright : right ≠ empty)
    {rest rest' : String} (heq : left.text ++ rest = right.text ++ rest') :
    behind left.fields.toList ('\x7d' :: rest.toList) =
      behind right.fields.toList ('\x7d' :: rest'.toList) := by
  obtain ⟨items, htext, hitems⟩ := toList_text_append hleft rest
  obtain ⟨items', htext', hitems'⟩ := toList_text_append hright rest'
  rw [heq, htext', List.cons.injEq] at htext
  rw [← hitems, ← hitems', htext.2]

theorem eq_of_text_eq {left right : Variables} (hleft : AreContained [','] left.fields.toList)
    (hright : AreContained [','] right.fields.toList) (heq : left.text = right.text) :
    left = right := by
  have hempty : ∀ values : Variables, values.text = "" → values = empty := by
    intro values hvalues
    by_contra hne
    rw [(text_of_ne_empty hne).2] at hvalues
    simpa using congrArg String.toList hvalues
  by_cases hleftEmpty : left = empty
  · rw [hleftEmpty] at heq ⊢
    exact (hempty right heq.symm).symm
  by_cases hrightEmpty : right = empty
  · rw [hrightEmpty] at heq ⊢
    exact hempty left heq
  have htext : left.text ++ "" = right.text ++ "" := congrArg (· ++ "") heq
  have hbehind : behind left.fields.toList [] ++ ['\x7d'] =
      behind right.fields.toList [] ++ ['\x7d'] := by
    simpa [behind] using behind_of_text_eq hleftEmpty hrightEmpty htext
  have hnothing : Follows [','] [] := by
    rintro c ⟨⟩
  obtain ⟨hlists, -⟩ := behind_inj (by decide) (by decide) hleft hright hnothing hnothing
    (by simp) (by simp) (List.append_cancel_right hbehind)
  exact ext_toList hlists

theorem eq_of_text_append_eq {left right : Variables} (hleft : left ≠ empty)
    (hright : right ≠ empty)
    (hcontained : AreContained [',', '\x7d'] left.fields.toList)
    (hcontained' : AreContained [',', '\x7d'] right.fields.toList) {rest rest' : String}
    (heq : left.text ++ rest = right.text ++ rest') : left = right ∧ rest = rest' := by
  have hend : ∀ rest : List Char, Follows [',', '\x7d'] ('\x7d' :: rest) := by
    rintro rest c ⟨⟩
    decide
  obtain ⟨hlists, hrest⟩ := behind_inj (by decide) (by decide) hcontained hcontained'
    (hend rest.toList) (hend rest'.toList) (by simp) (by simp)
    (behind_of_text_eq hleft hright heq)
  exact ⟨ext_toList hlists, String.toList_injective (List.cons.inj hrest).2⟩

theorem areContained_afterCalls {calls : List (String × String)}
    (h : ∀ field ∈ (afterCalls calls).fields.toList, IsContained ends field.2) :
    AreContained ends (afterCalls calls).fields.toList := by
  intro field hfield
  refine ⟨?_, h field hfield⟩
  have hname : isName field.1 := isName_of_mem_names (List.mem_map_of_mem hfield)
  intro hequals
  exact absurd (not_isReserved hname hequals) (by decide)

/-- None of these characters, and the value is contained. -/
theorem isContained_of_forall {value : String}
    (h : ∀ c ∈ value.toList, c ∉ [',', ' ', '\'', '\x7d']) :
    IsContained [',', '\x7d'] value := by
  have hquoted : ¬ isQuoted value := by
    simp only [isQuoted, List.any_eq_true, not_exists, not_and]
    intro c hc
    simp_all
  rw [IsContained, if_neg hquoted]
  constructor
  · intro hhead
    exact h '\'' (List.mem_of_mem_head? hhead) (by decide)
  · have hends : ∀ c ∈ [',', '\x7d'], c ∈ [',', ' ', '\'', '\x7d'] := by simp
    intro c hc hmem
    exact h c hmem (hends c hc)

end Variables

theorem Uuid.mem_hyphenate {sizes : List Nat} {chars : List Char} {c : Char}
    (h : c ∈ hyphenate sizes chars) : c = '-' ∨ c ∈ chars := by
  fun_induction hyphenate sizes chars with
  | case1 => exact .inr h
  | case2 => exact .inr h
  | case3 size sizes chars _ ih =>
    rcases List.mem_append.mp h with hc | hc
    · exact .inr (List.mem_of_mem_take hc)
    · rcases List.mem_cons.mp hc with rfl | hc
      · exact .inl rfl
      · exact (ih hc).imp_right List.mem_of_mem_drop

theorem Uuid.mem_text {uuid : Uuid} {c : Char} (h : c ∈ uuid.text.toList) :
    c = '-' ∨ ∃ digit < 16, c = Text.lowerHexDigit digit := by
  rw [text, String.toList_ofList] at h
  refine (mem_hyphenate h).imp_right ?_
  intro hdigit
  obtain ⟨digit, hmem, rfl⟩ := List.mem_map.mp hdigit
  obtain ⟨place, -, rfl⟩ := List.mem_map.mp hmem
  exact ⟨_, Nat.mod_lt _ (by decide), rfl⟩

namespace Originate

open Variables

theorem areContained_ownFields (originate : Originate) :
    AreContained [',', '\x7d'] originate.ownFields := by
  have hleg : ∀ leg : Uuid, IsContained [',', '\x7d'] leg.text := by
    intro leg
    have hdigits : ∀ digit < 16, Text.lowerHexDigit digit ∉ [',', ' ', '\'', '\x7d'] := by decide
    apply isContained_of_forall
    intro c hc
    rcases Uuid.mem_text hc with rfl | ⟨digit, hdigit, rfl⟩
    · decide
    · exact hdigits digit hdigit
  have hseconds : ∀ seconds : Nat, IsContained [',', '\x7d'] (toString seconds) := by
    intro seconds
    apply isContained_of_forall
    intro c hc hmem
    have hdigit : c.isDigit := Text.isDigit_of_mem_toString hc
    simp only [List.mem_cons, List.not_mem_nil, or_false] at hmem
    rcases hmem with rfl | rfl | rfl | rfl <;> exact absurd hdigit (by decide)
  have hmedia : IsContained [',', '\x7d'] "true" := by decide
  have hnames : ∀ name ∈ ["origination_uuid", "ignore_early_media", "enable_heartbeat_events"],
      '=' ∉ name.toList := by decide
  intro field hfield
  rcases List.mem_append.mp hfield with hfield | hfield
  · rcases List.mem_append.mp hfield with hfield | hfield
    · cases hvalue : originate.leg with
      | none => simp [hvalue] at hfield
      | some leg =>
        obtain rfl : field = ("origination_uuid", leg.text) := by simpa [hvalue] using hfield
        exact ⟨hnames _ (by simp), hleg leg⟩
    · obtain rfl := List.mem_singleton.mp hfield
      exact ⟨hnames _ (by simp), hmedia⟩
  · cases hvalue : originate.heartbeat with
    | none => simp [hvalue] at hfield
    | some every =>
      obtain rfl : field = ("enable_heartbeat_events", toString every.seconds) := by
        simpa [hvalue] using hfield
      exact ⟨hnames _ (by simp), hseconds every.seconds⟩

variable {dialString dialString' : String} {target target' : OriginateTarget}
  {steps steps' : List OriginateStep} {originate originate' : Originate}

theorem areContained_allVariables (hbuild : build dialString target steps = .ok originate)
    (h : ∀ field ∈ originate.values.fields.toList, IsContained [',', '\x7d'] field.2) :
    AreContained [',', '\x7d'] originate.allVariables.fields.toList := by
  obtain ⟨-, rfl⟩ := build_eq_ok_iff.mp hbuild
  intro field hfield
  rw [toList_allVariables] at hfield
  rcases Fields.mem_overlay hfield with hown | huser
  · exact areContained_ownFields _ field hown
  · exact areContained_afterCalls h field huser

theorem eq_of_argument_eq (hbuild : build dialString target steps = .ok originate)
    (hbuild' : build dialString' target' steps' = .ok originate')
    (h : ∀ field ∈ originate.values.fields.toList, IsContained [',', '\x7d'] field.2)
    (h' : ∀ field ∈ originate'.values.fields.toList, IsContained [',', '\x7d'] field.2)
    (heq : originate.argument = originate'.argument) :
    originate.allVariables = originate'.allVariables ∧
      originate.dialString ++ " " ++ originate.target.text =
        originate'.dialString ++ " " ++ originate'.target.text := by
  unfold argument at heq
  rw [String.append_assoc, String.append_assoc, String.append_assoc, String.append_assoc] at heq
  rw [String.append_assoc, String.append_assoc]
  exact eq_of_text_append_eq (allVariables_ne_empty originate) (allVariables_ne_empty originate')
    (areContained_allVariables hbuild h) (areContained_allVariables hbuild' h') heq

end Originate

namespace Variables

/-- Two blocks with the same text hold the same variables, as long as no value in them ends early.
With something behind the blocks, no value may seem to end a block either; then the variables and
what is behind them can be told. So it is with the argument of an originate, whose own values never
end early. -/
theorem text_tells_contained (left right : List (String × String)) :
    ((∀ field ∈ (afterCalls left).fields.toList ++ (afterCalls right).fields.toList,
        IsContained [','] field.2) →
      ((afterCalls left).text = (afterCalls right).text ↔ afterCalls left = afterCalls right)) ∧
    ((∀ field ∈ (afterCalls left).fields.toList ++ (afterCalls right).fields.toList,
        IsContained [',', '\x7d'] field.2) →
      afterCalls left ≠ empty → afterCalls right ≠ empty → ∀ rest rest' : String,
        ((afterCalls left).text ++ rest = (afterCalls right).text ++ rest' ↔
          afterCalls left = afterCalls right ∧ rest = rest')) ∧
    ∀ (dialString dialString' : String) (target target' : OriginateTarget)
      (steps steps' : List OriginateStep) (originate originate' : Originate),
      Originate.build dialString target steps = .ok originate →
        Originate.build dialString' target' steps' = .ok originate' →
        (∀ field ∈ originate.values.fields.toList ++ originate'.values.fields.toList,
          IsContained [',', '\x7d'] field.2) →
        originate.argument = originate'.argument →
          originate.allVariables = originate'.allVariables ∧
            dialString ++ " " ++ target.text = dialString' ++ " " ++ target'.text := by
  refine ⟨?_, ?_, ?_⟩
  · intro hfields
    obtain ⟨hleft, hright⟩ := List.forall_mem_append.mp hfields
    refine ⟨?_, congrArg text⟩
    exact eq_of_text_eq (areContained_afterCalls hleft) (areContained_afterCalls hright)
  · intro hfields hne hne' rest rest'
    obtain ⟨hleft, hright⟩ := List.forall_mem_append.mp hfields
    constructor
    · exact eq_of_text_append_eq hne hne' (areContained_afterCalls hleft)
        (areContained_afterCalls hright)
    · rintro ⟨hvalues, rfl⟩
      rw [hvalues]
  · intro dialString dialString' target target' steps steps' originate originate' hbuild hbuild'
      hfields heq
    obtain ⟨hleft, hright⟩ := List.forall_mem_append.mp hfields
    have htold := Originate.eq_of_argument_eq hbuild hbuild' hleft hright heq
    obtain ⟨-, rfl⟩ := Originate.build_eq_ok_iff.mp hbuild
    obtain ⟨-, rfl⟩ := Originate.build_eq_ok_iff.mp hbuild'
    exact htold

theorem text_tells_contained_quotes_inside :
    (∀ rest rest' : String,
      (afterCalls [("b", "it's x, y"), ("a", "it's")]).text ++ rest ≠
        (afterCalls [("a", "it's"), ("b", "it's x, y")]).text ++ rest') ∧
    ∃ originate originate' : Originate,
      Originate.build "user/9" (.extension "9" none none)
          [.set "a" "1", .heartbeat ⟨5, 0⟩, .set "a" "it's"] = .ok originate ∧
        Originate.build "user/9" (.extension "9" none none)
          [.set "a" "it's", .heartbeat ⟨5, 0⟩] = .ok originate' ∧
        originate.argument = originate'.argument ∧
        originate.allVariables = originate'.allVariables := by
  obtain ⟨-, hblock, horiginate⟩ := text_tells_contained [("b", "it's x, y"), ("a", "it's")]
    [("a", "it's"), ("b", "it's x, y")]
  constructor
  · intro rest rest' heq
    have htold := (hblock (by decide +kernel) (by decide) (by decide) rest rest').mp heq
    exact absurd htold.1 (by decide)
  · have hbuild : Originate.build "user/9" (.extension "9" none none)
        [.set "a" "1", .heartbeat ⟨5, 0⟩, .set "a" "it's"] = .ok _ := rfl
    have hbuild' : Originate.build "user/9" (.extension "9" none none)
        [.set "a" "it's", .heartbeat ⟨5, 0⟩] = .ok _ := rfl
    refine ⟨_, _, hbuild, hbuild', rfl, ?_⟩
    exact (horiginate _ _ _ _ _ _ _ _ hbuild hbuild' (by decide +kernel) rfl).1

/-- A value that begins with a quote can pass for a part of a value of another variable. -/
theorem text_forged {name other rest : String} (hname : isName name) (hother : isName other)
    (hne : name ≠ other) (hplain : ¬ isQuoted rest) :
    (afterCalls [(name, "'" ++ rest), (other, "'")]).text =
      (afterCalls [(name, rest ++ "," ++ other ++ "=")]).text := by
  have htwo : (afterCalls [(name, "'" ++ rest), (other, "'")]).fields.toList =
      [(name, "'" ++ rest), (other, "'")] :=
    toList_afterCalls (by simp [hname, hother]) (by simpa using hne)
  have hone : (afterCalls [(name, rest ++ "," ++ other ++ "=")]).fields.toList =
      [(name, rest ++ "," ++ other ++ "=")] :=
    toList_afterCalls (by simp [hname]) (by simp)
  have hquoted : isQuoted (rest ++ "," ++ other ++ "=") := by simp [isQuoted]
  have hbegins : ¬ isQuoted ("'" ++ rest) := by simpa [isQuoted] using hplain
  have hquote : ¬ isQuoted "'" := by decide
  apply String.toList_injective
  simp only [text, Fields.isEmpty, htwo, hone]
  simp [itemText, toList_valueText, hquoted, hbegins, hquote, String.intercalate_cons_cons]

theorem values_forged :
    ¬ ∀ left right : List (String × String),
      (afterCalls left).text = (afterCalls right).text → afterCalls left = afterCalls right := by
  intro h
  have htext : (afterCalls [("a", "'x"), ("b", "'")]).text = (afterCalls [("a", "x,b=")]).text :=
    @text_forged "a" "b" "x" (by decide) (by decide) (by decide) (by decide)
  have heq := congrArg (fun values => values.fields.size) (h _ _ htext)
  exact absurd heq (by decide)

end Variables

end EventSocket
