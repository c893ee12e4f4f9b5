/-!
Named texts in the order of their first appearance. A name stands once: setting it again changes its
value where it stands.
-/

namespace EventSocket

/-- Replaces the value of `name` where it stands, or adds it at the end. -/
def setField (name value : String) : List (String × String) → List (String × String)
  | [] => [(name, value)]
  | field :: rest =>
    if field.1 = name then (name, value) :: rest else field :: setField name value rest

theorem map_fst_setField (name value : String) (fields : List (String × String)) :
    (setField name value fields).map Prod.fst =
      if name ∈ fields.map Prod.fst then fields.map Prod.fst
      else fields.map Prod.fst ++ [name] := by
  induction fields with
  | nil => rfl
  | cons field rest ih =>
    by_cases h : field.1 = name
    · simp [setField, h]
    · have h' : name ≠ field.1 := fun e => h e.symm
      simp only [setField, h, ↓reduceIte, List.map_cons, ih, List.mem_cons, h', false_or]
      split <;> rfl

structure Fields where
  toList : List (String × String)
  distinct : (toList.map Prod.fst).Nodup
  deriving DecidableEq

namespace Fields

def empty : Fields := ⟨[], List.nodup_nil⟩

def set (fields : Fields) (name value : String) : Fields where
  toList := setField name value fields.toList
  distinct := by
    rw [map_fst_setField]
    split
    · exact fields.distinct
    · next h =>
      rw [List.nodup_append]
      refine ⟨fields.distinct, by simp, ?_⟩
      intro a ha b hb
      simp only [List.mem_singleton] at hb
      exact fun e => h (hb ▸ e ▸ ha)

def ofList (pairs : List (String × String)) : Fields :=
  pairs.foldl (fun fields pair => fields.set pair.1 pair.2) empty

def get? (fields : Fields) (name : String) : Option String :=
  (fields.toList.find? fun field => field.1 = name).map Prod.snd

def contains (fields : Fields) (name : String) : Bool := (fields.get? name).isSome

def names (fields : Fields) : List String := fields.toList.map Prod.fst

def size (fields : Fields) : Nat := fields.toList.length

def isEmpty (fields : Fields) : Bool := fields.toList.isEmpty

def mapValues (f : String → String) (fields : Fields) : Fields where
  toList := fields.toList.map fun field => (field.1, f field.2)
  distinct := by simpa [List.map_map, Function.comp_def] using fields.distinct

/-- The same values under the same names, in whatever order. -/
def agrees (left right : Fields) : Bool :=
  left.size == right.size && left.toList.all fun field => right.get? field.1 == some field.2

theorem find?_setField (name value other : String) (fields : List (String × String)) :
    ((setField name value fields).find? fun field => field.1 = other).map Prod.snd =
      if name = other then some value
      else (fields.find? fun field => field.1 = other).map Prod.snd := by
  induction fields with
  | nil => by_cases h : name = other <;> simp [setField, h]
  | cons field rest ih =>
    by_cases hf : field.1 = name
    · by_cases ho : name = other <;> simp [setField, hf, ho]
    · simp only [setField, hf, ↓reduceIte, List.find?_cons]
      by_cases ho : field.1 = other
      · have hn : name ≠ other := fun e => hf (ho.trans e.symm)
        simp [ho, hn]
      · simp [ho, ih]

@[simp]
theorem get?_empty (name : String) : empty.get? name = none := rfl

@[simp]
theorem get?_set (fields : Fields) (name value other : String) :
    (fields.set name value).get? other =
      if name = other then some value else fields.get? other :=
  find?_setField name value other fields.toList

theorem names_set (fields : Fields) (name value : String) :
    (fields.set name value).names =
      if name ∈ fields.names then fields.names else fields.names ++ [name] :=
  map_fst_setField name value fields.toList

end Fields

end EventSocket
