import EventSocket.Proofs.Text.Bytes

/-!
The receive buffer as a list of bytes. What it notes about its search for a line feed saves work and
changes no answer.
-/

namespace EventSocket

def splitLine : List UInt8 → Option (List UInt8 × List UInt8)
  | [] => none
  | byte :: rest =>
    if byte = lineFeed then some ([], rest)
    else (splitLine rest).map fun split => (byte :: split.1, split.2)

theorem splitLine_append_of_notMem {line : List UInt8} (h : lineFeed ∉ line)
    (rest : List UInt8) :
    splitLine (line ++ rest) =
      (splitLine rest).map fun split => (line ++ split.1, split.2) := by
  induction line with
  | nil => simp
  | cons byte line ih =>
    obtain ⟨hbyte, hline⟩ := List.ne_and_not_mem_of_not_mem_cons h
    simp [splitLine, Ne.symm hbyte, ih hline, Function.comp_def]

theorem splitLine_line {line : List UInt8} (h : lineFeed ∉ line) (rest : List UInt8) :
    splitLine (line ++ lineFeed :: rest) = some (line, rest) := by
  simp [splitLine_append_of_notMem h, splitLine]

theorem splitLine_eq_none_iff {bytes : List UInt8} : splitLine bytes = none ↔ lineFeed ∉ bytes := by
  induction bytes with
  | nil => simp [splitLine]
  | cons byte rest ih =>
    by_cases h : byte = lineFeed
    · simp [splitLine, h]
    · simp [splitLine, h, ih, Ne.symm h]

theorem splitLine_eq_some_iff {bytes line rest : List UInt8} :
    splitLine bytes = some (line, rest) ↔
      bytes = line ++ lineFeed :: rest ∧ lineFeed ∉ line := by
  constructor
  · intro h
    induction bytes generalizing line with
    | nil => simp [splitLine] at h
    | cons byte bytes ih =>
      by_cases hbyte : byte = lineFeed
      · obtain ⟨rfl, rfl⟩ : line = [] ∧ rest = bytes := by
          simpa [splitLine, hbyte, eq_comm] using h
        simp [hbyte]
      · simp only [splitLine, hbyte, ↓reduceIte, Option.map_eq_some_iff, Prod.exists,
          Prod.mk.injEq] at h
        obtain ⟨front, rest', hsplit, rfl, rfl⟩ := h
        obtain ⟨rfl, hfront⟩ := ih hsplit
        exact ⟨rfl, List.not_mem_cons_of_ne_of_not_mem (Ne.symm hbyte) hfront⟩
  · rintro ⟨rfl, hline⟩
    exact splitLine_line hline rest

theorem splitLine_append {bytes line rest : List UInt8} (h : splitLine bytes = some (line, rest))
    (more : List UInt8) : splitLine (bytes ++ more) = some (line, rest ++ more) := by
  obtain ⟨rfl, hline⟩ := splitLine_eq_some_iff.mp h
  simpa using splitLine_line hline (rest ++ more)

theorem length_lt_of_splitLine {bytes line rest : List UInt8}
    (h : splitLine bytes = some (line, rest)) : rest.length < bytes.length := by
  obtain ⟨rfl, -⟩ := splitLine_eq_some_iff.mp h
  simp only [List.length_append, List.length_cons]
  omega

/-- A search that starts at a position looks at the bytes from there on. -/
theorem lineFeedFrom_eq (bytes : ByteArray) (position : Nat) :
    lineFeedFrom bytes position =
      (splitLine ((octets bytes).drop position)).map fun split => position + split.1.length := by
  fun_induction lineFeedFrom bytes position with
  | case1 position inside hfeed =>
    have hdrop : (octets bytes).drop position =
        bytes[position] :: (octets bytes).drop (position + 1) :=
      List.drop_eq_getElem_cons (by simpa using inside)
    simp [hdrop, hfeed, splitLine]
  | case2 position inside hother ih =>
    have hdrop : (octets bytes).drop position =
        bytes[position] :: (octets bytes).drop (position + 1) :=
      List.drop_eq_getElem_cons (by simpa using inside)
    rw [ih, hdrop]
    simp [splitLine, hother, Function.comp_def, Nat.add_comm, Nat.add_left_comm]
  | case3 position outside =>
    rw [List.drop_eq_nil_of_le (by simpa using outside)]
    rfl

namespace Buffer

def ahead (buffer : Buffer) : List UInt8 := (octets buffer.bytes).drop buffer.start

/-- What has been noted is true: no line feed where the search has been. -/
structure Sound (buffer : Buffer) : Prop where
  start_le : buffer.start ≤ buffer.bytes.size
  scanned_le : buffer.scanned ≤ buffer.ahead.length
  searched : lineFeed ∉ buffer.ahead.take buffer.scanned

theorem sound_empty : empty.Sound := ⟨by simp [empty], by simp [empty, ahead], by simp [empty]⟩

@[simp]
theorem ahead_empty : empty.ahead = [] := rfl

theorem length_ahead (buffer : Buffer) : buffer.ahead.length = buffer.size := by
  simp [ahead, size]

theorem octets_waiting (buffer : Buffer) : octets buffer.waiting = buffer.ahead := by
  unfold waiting ahead
  split
  · next h => simp [h]
  · rw [octets_extract, ← length_octets, List.take_length]

theorem append_eq (buffer : Buffer) (bytes : ByteArray) :
    buffer.append bytes =
      if buffer.ahead.length + bytes.size > bufferLimit then .error (.bufferFull bufferLimit)
      else .ok { buffer with bytes := buffer.waiting ++ bytes, start := 0 } := by
  rw [length_ahead]
  rfl

theorem ahead_append {buffer next : Buffer} {bytes : ByteArray}
    (h : buffer.append bytes = .ok next) : next.ahead = buffer.ahead ++ octets bytes := by
  rw [append_eq] at h
  split at h
  · cases h
  · cases h
    simp [ahead, octets_waiting]

theorem Sound.append {buffer next : Buffer} {bytes : ByteArray} (sound : buffer.Sound)
    (h : buffer.append bytes = .ok next) : next.Sound := by
  have hahead := ahead_append h
  have hscanned : next.scanned = buffer.scanned ∧ next.start = 0 := by
    rw [append_eq] at h
    split at h <;> cases h
    exact ⟨rfl, rfl⟩
  refine ⟨by omega, ?_, ?_⟩
  · have := sound.scanned_le
    simp only [hahead, List.length_append]
    omega
  · rw [hscanned.1, hahead, List.take_append_of_le_length sound.scanned_le]
    exact sound.searched

theorem lineFeedFrom_scanned {buffer : Buffer} (sound : buffer.Sound) :
    lineFeedFrom buffer.bytes (buffer.start + buffer.scanned) =
      (splitLine buffer.ahead).map fun split => buffer.start + split.1.length := by
  have hsplit : buffer.ahead =
      buffer.ahead.take buffer.scanned ++
        (octets buffer.bytes).drop (buffer.start + buffer.scanned) := by
    rw [← List.drop_drop]
    exact (List.take_append_drop _ _).symm
  have hlength : (buffer.ahead.take buffer.scanned).length = buffer.scanned :=
    List.length_take_of_le sound.scanned_le
  rw [lineFeedFrom_eq]
  conv => rhs; rw [hsplit, splitLine_append_of_notMem sound.searched]
  simp [Function.comp_def, hlength, Nat.add_assoc]

theorem takeLine_of_none {buffer : Buffer} (sound : buffer.Sound)
    (h : splitLine buffer.ahead = none) :
    ∃ next, buffer.takeLine = (none, next) ∧ next.ahead = buffer.ahead ∧ next.Sound := by
  refine ⟨{ buffer with scanned := buffer.size }, ?_, rfl, sound.start_le, ?_, ?_⟩
  · simp [takeLine, lineFeedFrom_scanned sound, h]
  · exact Nat.le_of_eq (length_ahead buffer).symm
  · exact fun hmem => splitLine_eq_none_iff.mp h (List.mem_of_mem_take hmem)

theorem takeLine_of_some {buffer : Buffer} (sound : buffer.Sound) {line rest : List UInt8}
    (h : splitLine buffer.ahead = some (line, rest)) :
    ∃ next, buffer.takeLine = (some line.toByteArray, next) ∧ next.ahead = rest ∧ next.Sound := by
  obtain ⟨hahead, -⟩ := splitLine_eq_some_iff.mp h
  have hsize : buffer.start + line.length < buffer.bytes.size := by
    have := congrArg List.length hahead
    simp only [ahead, List.length_drop, length_octets, List.length_append, List.length_cons] at this
    omega
  refine ⟨{ buffer with start := buffer.start + line.length + 1, scanned := 0 }, ?_, ?_, ?_, ?_, ?_⟩
  · have hline : buffer.bytes.extract buffer.start (buffer.start + line.length) =
        line.toByteArray := by
      apply octets_injective
      rw [octets_extract, List.drop_take, octets_toByteArray, Nat.add_sub_cancel_left]
      change buffer.ahead.take line.length = line
      simp [hahead]
    simp [takeLine, lineFeedFrom_scanned sound, h, hline]
  · change (octets buffer.bytes).drop (buffer.start + line.length + 1) = rest
    rw [Nat.add_assoc, ← List.drop_drop]
    change buffer.ahead.drop (line.length + 1) = rest
    simp [hahead]
  · exact hsize
  · exact Nat.zero_le _
  · simp

theorem takeBytes_of_lt {buffer : Buffer} {count : Nat} (h : buffer.ahead.length < count) :
    buffer.takeBytes count = none := by
  rw [length_ahead] at h
  simp [takeBytes, h]

theorem takeBytes_of_le {buffer : Buffer} (sound : buffer.Sound) {count : Nat}
    (h : count ≤ buffer.ahead.length) :
    ∃ next, buffer.takeBytes count = some ((buffer.ahead.take count).toByteArray, next) ∧
      next.ahead = buffer.ahead.drop count ∧ next.Sound := by
  have hsize : ¬ buffer.size < count := by
    rw [← length_ahead]
    omega
  refine ⟨{ buffer with start := buffer.start + count, scanned := buffer.scanned - count },
    ?_, ?_, ?_, ?_, ?_⟩
  · have htaken : buffer.bytes.extract buffer.start (buffer.start + count) =
        (buffer.ahead.take count).toByteArray := by
      apply octets_injective
      rw [octets_extract, List.drop_take, octets_toByteArray, Nat.add_sub_cancel_left]
      rfl
    simp [takeBytes, hsize, htaken]
  · exact List.drop_drop.symm
  · have := sound.start_le
    simp only [ahead, List.length_drop, length_octets] at h
    change buffer.start + count ≤ buffer.bytes.size
    omega
  · have := sound.scanned_le
    simp only [ahead, List.length_drop] at this ⊢
    omega
  -- What is left of the searched bytes has been searched before.
  · change lineFeed ∉ (List.drop (buffer.start + count) (octets buffer.bytes)).take _
    rw [← List.drop_drop, ← List.drop_take]
    exact fun hmem => sound.searched (List.mem_of_mem_drop hmem)

end Buffer

end EventSocket
