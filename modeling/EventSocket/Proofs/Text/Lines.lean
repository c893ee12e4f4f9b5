import EventSocket.Text.Lines
import Mathlib.Data.List.Basic

/-!
Lines that are each ended with a line feed are read back one by one. Text without carriage returns
is the same again once its lines are put under one another, but for a line feed at its end.
-/

namespace EventSocket.Text

/-- The text can stand on a line of its own: nothing in it is taken for the line's ending. -/
structure LineText (text : String) : Prop where
  noFeed : '\n' ∉ text.toList
  noReturn : text.toList.getLast? ≠ some '\r'

def endLines (lines : List String) : String := String.join (lines.map (· ++ "\n"))

theorem toList_endLines_cons (line : String) (lines : List String) :
    (endLines (line :: lines)).toList = line.toList ++ '\n' :: (endLines lines).toList := by
  simp [endLines, String.toList_join]

theorem endLines_append (left right : List String) :
    endLines (left ++ right) = endLines left ++ endLines right := by
  simp [endLines]

theorem read_current (complete : Array String) (current : String) {chars : List Char}
    (h : '\n' ∉ chars) :
    chars.foldl LineReader.read ⟨complete, current⟩ =
      ⟨complete, current ++ String.ofList chars⟩ := by
  induction chars generalizing current with
  | nil => simp
  | cons c chars ih =>
    rw [List.mem_cons, not_or] at h
    rw [List.foldl_cons, LineReader.read, if_neg (Ne.symm h.1), ih _ h.2]
    simp [← String.toList_inj]

theorem read_line (complete : Array String) {line : String} (h : LineText line) (more : List Char) :
    (line.toList ++ '\n' :: more).foldl LineReader.read ⟨complete, ""⟩ =
      more.foldl LineReader.read ⟨complete.push line, ""⟩ := by
  rw [List.foldl_append, read_current _ _ h.noFeed, List.foldl_cons, LineReader.read, if_pos rfl]
  simp [dropReturn, h.noReturn]

theorem read_endLines (complete : Array String) {lines : List String}
    (h : ∀ line ∈ lines, LineText line) :
    (endLines lines).toList.foldl LineReader.read ⟨complete, ""⟩ =
      ⟨complete ++ lines.toArray, ""⟩ := by
  induction lines generalizing complete with
  | nil => simp [endLines]
  | cons line lines ih =>
    rw [toList_endLines_cons, read_line _ (h line List.mem_cons_self),
      ih _ fun other hother => h other (List.mem_cons_of_mem line hother)]
    simp

theorem lines_endLines {written : List String} (h : ∀ line ∈ written, LineText line) :
    lines (endLines written) = written := by
  rw [lines, LineReader.empty, read_endLines _ h]
  simp [LineReader.finish]

/-! Lines put under one another again. -/

/-- The text without the line feed at its end, if there is one. -/
def withoutFinalFeed (text : String) : String :=
  if text.toList.getLast? = some '\n' then String.ofList text.toList.dropLast else text

theorem withoutFinalFeed_push (text : String) : withoutFinalFeed (text ++ "\n") = text := by
  simp [withoutFinalFeed]

theorem withoutFinalFeed_of_ne {text : String} (h : text.toList.getLast? ≠ some '\n') :
    withoutFinalFeed text = text := by
  rw [withoutFinalFeed, if_neg h]

theorem joinLines_concat (lines : List String) (last : String) :
    joinLines (lines ++ [last]) = endLines lines ++ last := by
  induction lines with
  | nil => simp [joinLines, endLines]
  | cons line lines ih =>
    have hrest : lines ++ [last] ≠ [] := by simp
    rw [joinLines, List.cons_append, String.intercalate_cons_of_ne_nil hrest, ← joinLines, ih]
    simp [endLines, String.append_assoc]

theorem endLines_eq_joinLines {lines : List String} (h : lines ≠ []) :
    endLines lines = joinLines lines ++ "\n" := by
  obtain ⟨front, last, rfl⟩ := lines.eq_nil_or_concat'.resolve_left h
  rw [joinLines_concat, endLines_append, String.append_assoc]
  simp [endLines]

/-- What the reader has read, if there are no carriage returns. -/
structure LineReader.Holds (reader : LineReader) (chars : List Char) : Prop where
  text : endLines reader.complete.toList ++ reader.current = String.ofList chars
  current : ∀ c ∈ reader.current.toList, c ≠ '\n' ∧ c ≠ '\r'

theorem LineReader.Holds.read {reader : LineReader} {chars : List Char} (h : reader.Holds chars)
    {c : Char} (hc : c ≠ '\r') : (reader.read c).Holds (chars ++ [c]) := by
  have hkept : dropReturn reader.current = reader.current := by
    rw [dropReturn, if_neg]
    exact fun hlast => (h.current _ (List.mem_of_getLast? hlast)).2 rfl
  by_cases hfeed : c = '\n'
  · subst hfeed
    rw [LineReader.read, if_pos rfl, hkept]
    refine ⟨?_, by simp⟩
    rw [String.ofList_append, ← h.text]
    simp [endLines, String.append_assoc]
  · rw [LineReader.read, if_neg hfeed]
    refine ⟨?_, ?_⟩
    · rw [String.ofList_append, ← h.text]
      simp [← String.toList_inj]
    · intro d hd
      rw [String.toList_push, List.mem_append, List.mem_singleton] at hd
      rcases hd with hd | rfl
      · exact h.current d hd
      · exact ⟨hfeed, hc⟩

theorem LineReader.Holds.readAll {reader : LineReader} {chars more : List Char}
    (h : reader.Holds chars) (hmore : '\r' ∉ more) :
    (more.foldl LineReader.read reader).Holds (chars ++ more) := by
  induction more generalizing reader chars with
  | nil => simpa using h
  | cons c more ih =>
    obtain ⟨hc, hrest⟩ := List.ne_and_not_mem_of_not_mem_cons hmore
    rw [List.foldl_cons, List.append_cons]
    exact ih (h.read (Ne.symm hc)) hrest

theorem LineReader.Holds.join_finish {reader : LineReader} {chars : List Char}
    (h : reader.Holds chars) :
    joinLines reader.finish = withoutFinalFeed (String.ofList chars) := by
  rw [← h.text, LineReader.finish]
  by_cases hcurrent : reader.current = ""
  · by_cases hcomplete : reader.complete.toList = []
    · simp [hcurrent, hcomplete, joinLines, endLines, withoutFinalFeed]
    · simp [hcurrent, endLines_eq_joinLines hcomplete, withoutFinalFeed_push]
  · have hlast : (endLines reader.complete.toList ++ reader.current).toList.getLast? ≠
        some '\n' := by
      rw [String.toList_append, List.getLast?_append_of_ne_nil _ (by simpa using hcurrent)]
      exact fun hfeed => (h.current _ (List.mem_of_getLast? hfeed)).1 rfl
    rw [withoutFinalFeed_of_ne hlast, ← joinLines_concat]
    simp [hcurrent]

theorem joinLines_lines {text : String} (h : '\r' ∉ text.toList) :
    joinLines (lines text) = withoutFinalFeed text := by
  have hempty : LineReader.empty.Holds [] := ⟨rfl, by simp [LineReader.empty]⟩
  have hread := hempty.readAll h
  rw [lines, hread.join_finish, List.nil_append,
    String.ofList_toList]

end EventSocket.Text
