import EventSocket.Fields
import Mathlib.Data.List.Induction
import Mathlib.Data.List.Nodup

/-!
Fields filled from a list of pairs: names stand in the order of their first appearance, for each
name the last pair counts, and a list in which every name stands once is taken over as it is.
-/

namespace EventSocket

/-- Among items with different keys each is found by its key. -/
theorem find?_of_nodup {α κ : Type} [DecidableEq κ] {key : α → κ} {items : List α} {item : α}
    (h : (items.map key).Nodup) (hitem : item ∈ items) :
    items.find? (fun other => key other = key item) = some item := by
  cases hfind : items.find? fun other => key other = key item with
  | none => exact absurd (List.find?_eq_none.mp hfind item hitem) (by simp)
  | some found =>
    have hkey : key found = key item := by simpa using List.find?_some hfind
    rw [List.inj_on_of_nodup_map h (List.mem_of_find?_eq_some hfind) hitem hkey]

namespace Fields

variable {fields : Fields} {name value : String}

theorem ext_toList {left right : Fields} (h : left.toList = right.toList) : left = right := by
  cases left
  cases right
  cases h
  rfl

theorem get?_eq_some_iff : fields.get? name = some value ↔ (name, value) ∈ fields.toList := by
  constructor
  · intro h
    obtain ⟨⟨found, _⟩, hfind, rfl⟩ := Option.map_eq_some_iff.mp h
    obtain rfl : found = name := by simpa using List.find?_some hfind
    exact List.mem_of_find?_eq_some hfind
  · intro h
    rw [get?, find?_of_nodup fields.distinct h]
    rfl

def setAll (fields : Fields) (pairs : List (String × String)) : Fields :=
  pairs.foldl (fun fields pair => fields.set pair.1 pair.2) fields

@[simp]
theorem setAll_nil (fields : Fields) : fields.setAll [] = fields := rfl

@[simp]
theorem setAll_cons (fields : Fields) (pair : String × String) (pairs : List (String × String)) :
    fields.setAll (pair :: pairs) = (fields.set pair.1 pair.2).setAll pairs := rfl

theorem ofList_eq (pairs : List (String × String)) : ofList pairs = empty.setAll pairs := rfl

theorem ofList_concat (pairs : List (String × String)) (pair : String × String) :
    ofList (pairs ++ [pair]) = (ofList pairs).set pair.1 pair.2 :=
  List.foldl_append

/-! The last value. -/

/-- The value that the list gives the name last. -/
def lastValue? (name : String) (pairs : List (String × String)) : Option String :=
  (pairs.filter (·.1 = name)).getLast?.map Prod.snd

@[simp]
theorem lastValue?_nil (name : String) : lastValue? name [] = none := rfl

theorem lastValue?_cons (name : String) (pair : String × String) (pairs : List (String × String)) :
    lastValue? name (pair :: pairs) =
      (lastValue? name pairs).or (if pair.1 = name then some pair.2 else none) := by
  by_cases h : pair.1 = name
  · cases hlast : (pairs.filter (·.1 = name)).getLast? <;>
      simp [lastValue?, h, List.getLast?_cons, hlast]
  · simp [lastValue?, h]

theorem get?_setAll (fields : Fields) (pairs : List (String × String)) (name : String) :
    (fields.setAll pairs).get? name = (lastValue? name pairs).or (fields.get? name) := by
  induction pairs generalizing fields with
  | nil => simp
  | cons pair pairs ih =>
    rw [setAll_cons, ih, get?_set, lastValue?_cons]
    split <;> simp

theorem get?_ofList (pairs : List (String × String)) (name : String) :
    (ofList pairs).get? name = lastValue? name pairs := by
  simp [ofList_eq, get?_setAll]

/-! Lists in which every name stands once. -/

theorem setField_of_notMem {pairs : List (String × String)} (h : name ∉ pairs.map Prod.fst) :
    setField name value pairs = pairs ++ [(name, value)] := by
  induction pairs with
  | nil => rfl
  | cons pair pairs ih =>
    simp only [List.map_cons, List.mem_cons, not_or] at h
    rw [setField, if_neg (Ne.symm h.1), ih h.2, List.cons_append]

theorem toList_setAll {pairs : List (String × String)}
    (h : ((fields.toList ++ pairs).map Prod.fst).Nodup) :
    (fields.setAll pairs).toList = fields.toList ++ pairs := by
  induction pairs generalizing fields with
  | nil => simp
  | cons pair pairs ih =>
    have hfresh : pair.1 ∉ fields.toList.map Prod.fst := by
      rw [List.map_append, List.map_cons, List.nodup_append] at h
      exact fun hmem => h.2.2 _ hmem _ List.mem_cons_self rfl
    have hset : (fields.set pair.1 pair.2).toList = fields.toList ++ [pair] :=
      setField_of_notMem hfresh
    rw [setAll_cons, ih (by simpa [hset] using h), hset, List.append_assoc, List.singleton_append]

theorem toList_ofList {pairs : List (String × String)} (h : (pairs.map Prod.fst).Nodup) :
    (ofList pairs).toList = pairs :=
  toList_setAll h

theorem ofList_toList (fields : Fields) : ofList fields.toList = fields :=
  ext_toList (toList_ofList fields.distinct)

theorem get?_setAll_empty {pairs : List (String × String)} (h : (pairs.map Prod.fst).Nodup) :
    (empty.setAll pairs).get? name = some value ↔ (name, value) ∈ pairs := by
  rw [get?_eq_some_iff, ← ofList_eq, toList_ofList h]

theorem lastValue?_of_mem {pairs : List (String × String)} (h : (pairs.map Prod.fst).Nodup)
    (hmem : (name, value) ∈ pairs) : lastValue? name pairs = some value := by
  rw [← get?_ofList, ofList_eq]
  exact (get?_setAll_empty h).mpr hmem

theorem mem_of_lastValue? {pairs : List (String × String)}
    (h : lastValue? name pairs = some value) :
    (name, value) ∈ pairs := by
  obtain ⟨⟨found, _⟩, hlast, rfl⟩ := Option.map_eq_some_iff.mp h
  obtain ⟨hmem, hname⟩ := List.mem_filter.mp (List.mem_of_getLast? hlast)
  obtain rfl : found = name := by simpa using hname
  exact hmem

theorem lastValue?_append (name : String) (front back : List (String × String)) :
    lastValue? name (front ++ back) = (lastValue? name back).or (lastValue? name front) := by
  induction front with
  | nil => simp
  | cons pair front ih =>
    rw [List.cons_append, lastValue?_cons, ih, lastValue?_cons, Option.or_assoc]

theorem lastValue?_eq_none_iff {pairs : List (String × String)} :
    lastValue? name pairs = none ↔ name ∉ pairs.map Prod.fst := by
  induction pairs with
  | nil => simp
  | cons pair pairs ih =>
    rw [lastValue?_cons, Option.or_eq_none_iff, ih, List.map_cons, List.mem_cons, not_or, and_comm]
    simp [eq_comm]

/-- The pair that counts is the one behind which its name does not come up again. -/
theorem lastValue?_eq_some_iff {pairs : List (String × String)} :
    lastValue? name pairs = some value ↔
      ∃ before after, pairs = before ++ (name, value) :: after ∧ name ∉ after.map Prod.fst := by
  constructor
  · intro h
    induction pairs with
    | nil => cases h
    | cons pair pairs ih =>
      cases hlater : lastValue? name pairs with
      | some later =>
        rw [lastValue?_cons, hlater] at h
        cases h
        obtain ⟨before, after, rfl, hafter⟩ := ih hlater
        exact ⟨pair :: before, after, rfl, hafter⟩
      | none =>
        obtain ⟨rfl, rfl⟩ : pair.1 = name ∧ pair.2 = value := by
          simpa [lastValue?_cons, hlater] using h
        exact ⟨[], pairs, rfl, lastValue?_eq_none_iff.mp hlater⟩
  · rintro ⟨before, after, rfl, hafter⟩
    have hlater : lastValue? name after = none := lastValue?_eq_none_iff.mpr hafter
    rw [lastValue?_append, lastValue?_cons, hlater]
    simp

/-! The order of the names. -/

theorem eraseDups_of_nodup {names : List String} (h : names.Nodup) : names.eraseDups = names := by
  induction names with
  | nil => rfl
  | cons name names ih =>
    obtain ⟨hname, hnames⟩ := List.nodup_cons.mp h
    have hothers : names.filter (fun other => !other == name) = names := by
      apply List.filter_eq_self.mpr
      intro other hother
      have hne : other ≠ name := ne_of_mem_of_not_mem hother hname
      simpa using hne
    rw [List.eraseDups_cons, hothers, ih hnames]

/-- Of two names that are left, the one that came up first stands first. -/
theorem pairwise_idxOf_eraseDups (names : List String) :
    names.eraseDups.Pairwise fun earlier later => names.idxOf earlier < names.idxOf later := by
  induction names using List.reverseRecOn with
  | nil => exact List.Pairwise.nil
  | append_singleton names name ih =>
    have hold : names.eraseDups.Pairwise fun earlier later =>
        (names ++ [name]).idxOf earlier < (names ++ [name]).idxOf later := by
      apply ih.imp_of_mem
      intro earlier later hearlier hlater hlt
      rw [List.mem_eraseDups] at hearlier hlater
      rwa [List.idxOf_append_of_mem hearlier, List.idxOf_append_of_mem hlater]
    rw [List.eraseDups_append]
    by_cases hname : name ∈ names
    · simpa [List.removeAll, hname] using hold
    · have hnew : [name].removeAll names = [name] := by simp [List.removeAll, hname]
      rw [hnew, List.pairwise_append]
      refine ⟨hold, List.pairwise_singleton _ name, ?_⟩
      intro earlier hearlier later hlater
      obtain rfl : later = name := List.mem_singleton.mp hlater
      rw [List.mem_eraseDups] at hearlier
      rw [List.idxOf_append_of_mem hearlier, List.idxOf_append_of_notMem hname]
      calc names.idxOf earlier
        _ < names.length := List.idxOf_lt_length_of_mem hearlier
        _ ≤ names.length + [later].idxOf later := Nat.le_add_right _ _

/-- Names stand in the order in which they were first set. -/
theorem names_setAll (fields : Fields) (pairs : List (String × String)) :
    (fields.setAll pairs).names = (fields.names ++ pairs.map Prod.fst).eraseDups := by
  induction pairs generalizing fields with
  | nil =>
    rw [setAll_nil, List.map_nil, List.append_nil]
    exact (eraseDups_of_nodup fields.distinct).symm
  | cons pair pairs ih =>
    rw [setAll_cons, ih, names_set, List.map_cons]
    split
    · next hmem => simp [List.eraseDups_append, List.cons_removeAll, hmem]
    · rw [List.append_assoc, List.singleton_append]

theorem names_ofList (pairs : List (String × String)) :
    (ofList pairs).names = (pairs.map Prod.fst).eraseDups :=
  names_setAll empty pairs

/-- Fields are told by their names and the values of these. -/
theorem toList_eq (fields : Fields) :
    fields.toList = fields.names.map fun name => (name, (fields.get? name).getD "") := by
  rw [names, List.map_map]
  refine ((List.map_congr_left ?_).trans (List.map_id _)).symm
  rintro ⟨name, value⟩ hmem
  have hvalue : fields.get? name = some value := get?_eq_some_iff.mpr hmem
  simp [hvalue]

/-- The pairs with the values that `later` has for their names, and behind them those pairs of
`later` whose names are new. -/
def overlay (later pairs : List (String × String)) : List (String × String) :=
  pairs.map (fun pair => (pair.1, (lastValue? pair.1 later).getD pair.2)) ++
    later.filter fun pair => pair.1 ∉ pairs.map Prod.fst

theorem mem_overlay {later pairs : List (String × String)} {pair : String × String}
    (h : pair ∈ overlay later pairs) : pair ∈ later ∨ pair ∈ pairs := by
  rcases List.mem_append.mp h with hpair | hpair
  · obtain ⟨old, hold, rfl⟩ := List.mem_map.mp hpair
    cases hlast : lastValue? old.1 later with
    | none => exact .inr hold
    | some value => exact .inl (mem_of_lastValue? hlast)
  · exact .inl (List.mem_filter.mp hpair).1

theorem names_setAll_of_nodup (fields : Fields) {later : List (String × String)}
    (h : (later.map Prod.fst).Nodup) :
    (fields.setAll later).names =
      fields.names ++ (later.filter fun pair => pair.1 ∉ fields.names).map Prod.fst := by
  have hnew : (later.map Prod.fst).removeAll fields.names =
      (later.filter fun pair => pair.1 ∉ fields.names).map Prod.fst := by
    simp [List.removeAll, List.filter_map, Function.comp_def]
  have hold : fields.names.eraseDups = fields.names := eraseDups_of_nodup fields.distinct
  have hdistinct : ((later.map Prod.fst).removeAll fields.names).Nodup :=
    h.sublist List.filter_sublist
  rw [names_setAll, List.eraseDups_append, hold, eraseDups_of_nodup hdistinct, hnew]

theorem toList_setAll_of_nodup (fields : Fields) {later : List (String × String)}
    (h : (later.map Prod.fst).Nodup) :
    (fields.setAll later).toList = overlay later fields.toList := by
  rw [toList_eq, names_setAll_of_nodup fields h, List.map_append, overlay]
  congr 1
  · rw [names, List.map_map]
    apply List.map_congr_left
    rintro ⟨name, value⟩ hmem
    have hvalue : fields.get? name = some value := get?_eq_some_iff.mpr hmem
    cases hlast : lastValue? name later <;> simp [get?_setAll, hvalue, hlast]
  · rw [List.map_map]
    refine (List.map_congr_left ?_).trans (List.map_id _)
    rintro ⟨name, value⟩ hmem
    have hlast : lastValue? name later = some value :=
      lastValue?_of_mem h (List.mem_filter.mp hmem).1
    simp [get?_setAll, hlast]

end Fields

end EventSocket
