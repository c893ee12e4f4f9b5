import EventSocket.Proofs.Frame.Buffer

/-!
A buffer that notes how far it has looked for the end of a line, beside one that looks from the
start every time. Whatever they are asked, and in whatever order, they answer alike.
-/

namespace EventSocket

inductive BufferCall where
  | append (bytes : ByteArray)
  | takeLine
  | takeBytes (count : Nat)

/-- What has been taken off, if the call takes something and it was there. -/
abbrev BufferAnswer := Except StreamFault (Option ByteArray)

structure BufferExchange where
  call : BufferCall
  answer : BufferAnswer

namespace BufferExchange

def entered : BufferExchange → List UInt8
  | ⟨.append bytes, .ok _⟩ => octets bytes
  | _ => []

/-- A line takes the line feed behind it along. -/
def taken : BufferExchange → List UInt8
  | ⟨.takeLine, .ok (some line)⟩ => octets line ++ [lineFeed]
  | ⟨.takeBytes _, .ok (some bytes)⟩ => octets bytes
  | _ => []

def refused (exchange : BufferExchange) : Bool :=
  match exchange.answer with
  | .error _ => true
  | .ok _ => false

@[simp]
theorem refused_ok (call : BufferCall) (given : Option ByteArray) :
    refused ⟨call, .ok given⟩ = false := rfl

@[simp]
theorem refused_error (call : BufferCall) (cause : StreamFault) :
    refused ⟨call, .error cause⟩ = true := rfl

end BufferExchange

section Converse

variable {σ : Type}

/-- Calls one after another, with their answers and the state behind them. -/
def converse (respond : σ → BufferCall → BufferAnswer × σ) (state : σ) :
    List BufferCall → List BufferExchange × σ
  | [] => ([], state)
  | call :: calls =>
    let (answer, next) := respond state call
    let (exchanges, last) := converse respond next calls
    (⟨call, answer⟩ :: exchanges, last)

/-- Calls that were refused can be left out where a refusal leaves the state as it was. -/
theorem converse_unrefused {respond : σ → BufferCall → BufferAnswer × σ}
    (hrefused : ∀ state call cause, (respond state call).1 = .error cause →
      (respond state call).2 = state)
    (state : σ) (calls : List BufferCall) :
    converse respond state
        (((converse respond state calls).1.filter (! ·.refused)).map BufferExchange.call) =
      ((converse respond state calls).1.filter (! ·.refused),
        (converse respond state calls).2) := by
  induction calls generalizing state with
  | nil => rfl
  | cons call calls ih =>
    cases hanswer : respond state call with
    | mk answer next =>
      cases answer with
      | error cause =>
        obtain rfl : next = state := by simpa [hanswer] using hrefused state call cause
        simpa [converse, hanswer] using ih next
      | ok given => simp [converse, hanswer, ih next]

end Converse

/-- A buffer without notes. -/
structure PlainBuffer where
  waiting : List UInt8

namespace PlainBuffer

def respond (buffer : PlainBuffer) : BufferCall → BufferAnswer × PlainBuffer
  | .append bytes =>
    if buffer.waiting.length + bytes.size > bufferLimit then
      (.error (.bufferFull bufferLimit), buffer)
    else (.ok none, ⟨buffer.waiting ++ octets bytes⟩)
  | .takeLine =>
    match splitLine buffer.waiting with
    | some (line, rest) => (.ok (some line.toByteArray), ⟨rest⟩)
    | none => (.ok none, buffer)
  | .takeBytes count =>
    if buffer.waiting.length < count then (.ok none, buffer)
    else (.ok (some (buffer.waiting.take count).toByteArray), ⟨buffer.waiting.drop count⟩)

/-- One call neither loses a byte nor changes the order. -/
theorem respond_conserves (buffer : PlainBuffer) (call : BufferCall) :
    buffer.waiting ++ BufferExchange.entered ⟨call, (buffer.respond call).1⟩ =
      BufferExchange.taken ⟨call, (buffer.respond call).1⟩ ++
        (buffer.respond call).2.waiting := by
  cases call with
  | append bytes =>
    by_cases hfull : buffer.waiting.length + bytes.size > bufferLimit <;>
      simp [respond, hfull, BufferExchange.entered, BufferExchange.taken]
  | takeLine =>
    cases hsplit : splitLine buffer.waiting with
    | none => simp [respond, hsplit, BufferExchange.entered, BufferExchange.taken]
    | some split =>
      obtain ⟨hwaiting, -⟩ := splitLine_eq_some_iff.mp hsplit
      simpa [respond, hsplit, BufferExchange.entered, BufferExchange.taken] using hwaiting
  | takeBytes count =>
    by_cases hshort : buffer.waiting.length < count <;>
      simp [respond, hshort, BufferExchange.entered, BufferExchange.taken]

theorem converse_conserves (buffer : PlainBuffer) (calls : List BufferCall) :
    buffer.waiting ++ (converse respond buffer calls).1.flatMap BufferExchange.entered =
      (converse respond buffer calls).1.flatMap BufferExchange.taken ++
        (converse respond buffer calls).2.waiting := by
  induction calls generalizing buffer with
  | nil => simp [converse]
  | cons call calls ih =>
    simp only [converse, List.flatMap_cons]
    rw [← List.append_assoc, respond_conserves, List.append_assoc, ih, List.append_assoc]

end PlainBuffer

namespace Buffer

/-- Adding bytes that find no room leaves the buffer as it was. -/
def respond (buffer : Buffer) : BufferCall → BufferAnswer × Buffer
  | .append bytes =>
    match buffer.append bytes with
    | .ok next => (.ok none, next)
    | .error cause => (.error cause, buffer)
  | .takeLine => (.ok buffer.takeLine.1, buffer.takeLine.2)
  | .takeBytes count =>
    match buffer.takeBytes count with
    | some (bytes, rest) => (.ok (some bytes), rest)
    | none => (.ok none, buffer)

theorem respond_error {buffer : Buffer} {call : BufferCall} {cause : StreamFault}
    (h : (buffer.respond call).1 = .error cause) : (buffer.respond call).2 = buffer := by
  cases call with
  | append bytes =>
    cases happend : buffer.append bytes with
    | ok next => simp [respond, happend] at h
    | error cause => simp [respond, happend]
  | takeLine => cases h
  | takeBytes count =>
    cases htake : buffer.takeBytes count <;> simp [respond, htake] at h

def plain (buffer : Buffer) : PlainBuffer := ⟨buffer.ahead⟩

/-- The notes change no answer, and every call leaves them true. -/
theorem respond_plain {buffer : Buffer} (sound : buffer.Sound) (call : BufferCall) :
    (buffer.respond call).1 = (buffer.plain.respond call).1 ∧
      (buffer.respond call).2.plain = (buffer.plain.respond call).2 ∧
      (buffer.respond call).2.Sound := by
  cases call with
  | append bytes =>
    by_cases hfull : buffer.ahead.length + bytes.size > bufferLimit
    · have happend : buffer.append bytes = .error (.bufferFull bufferLimit) := by
        rw [append_eq, if_pos hfull]
      simp only [respond, happend, PlainBuffer.respond, plain, hfull, ↓reduceIte, true_and]
      exact sound
    · obtain ⟨next, happend⟩ : ∃ next, buffer.append bytes = .ok next := by
        rw [append_eq, if_neg hfull]
        exact ⟨_, rfl⟩
      simp only [respond, happend, PlainBuffer.respond, plain, hfull, ↓reduceIte,
        ahead_append happend, true_and]
      exact sound.append happend
  | takeLine =>
    cases hsplit : splitLine buffer.ahead with
    | none =>
      obtain ⟨next, htake, hahead, hsound⟩ := takeLine_of_none sound hsplit
      simp only [respond, htake, PlainBuffer.respond, plain, hsplit, hahead, true_and]
      exact hsound
    | some split =>
      obtain ⟨next, htake, hahead, hsound⟩ := takeLine_of_some sound hsplit
      simp only [respond, htake, PlainBuffer.respond, plain, hsplit, hahead, true_and]
      exact hsound
  | takeBytes count =>
    by_cases hshort : buffer.ahead.length < count
    · have htake := takeBytes_of_lt hshort
      simp only [respond, htake, PlainBuffer.respond, plain, hshort, ↓reduceIte, true_and]
      exact sound
    · obtain ⟨next, htake, hahead, hsound⟩ := takeBytes_of_le sound (Nat.le_of_not_lt hshort)
      simp only [respond, htake, PlainBuffer.respond, plain, hshort, ↓reduceIte, hahead, true_and]
      exact hsound

theorem converse_plain {buffer : Buffer} (sound : buffer.Sound) (calls : List BufferCall) :
    (converse respond buffer calls).1 = (converse PlainBuffer.respond buffer.plain calls).1 ∧
      (converse respond buffer calls).2.plain =
        (converse PlainBuffer.respond buffer.plain calls).2 ∧
      (converse respond buffer calls).2.Sound := by
  induction calls generalizing buffer with
  | nil => exact ⟨rfl, rfl, sound⟩
  | cons call calls ih =>
    obtain ⟨hanswer, hnext, hsound⟩ := respond_plain sound call
    obtain ⟨hexchanges, hlast, hsound'⟩ := ih hsound
    rw [hnext] at hexchanges hlast
    simp only [converse]
    exact ⟨by rw [hanswer, hexchanges], hlast, hsound'⟩

/-- What a buffer that began empty is like behind some calls. -/
structure Transparent (calls : List BufferCall) (exchanges : List BufferExchange)
    (buffer : Buffer) : Prop where
  searched : lineFeed ∉ (octets buffer.waiting).take buffer.scanned
  scanned_le : buffer.scanned ≤ buffer.size
  answers : exchanges = (converse PlainBuffer.respond ⟨[]⟩ calls).1
  contents : octets buffer.waiting = (converse PlainBuffer.respond ⟨[]⟩ calls).2.waiting
  conserved : exchanges.flatMap BufferExchange.entered =
    exchanges.flatMap BufferExchange.taken ++ octets buffer.waiting
  unrefused : converse respond empty ((exchanges.filter (! ·.refused)).map BufferExchange.call) =
    (exchanges.filter (! ·.refused), buffer)
  room : ∀ bytes, (∃ next, buffer.append bytes = .ok next) ↔
    buffer.size + bytes.size ≤ bufferLimit

/-- That a buffer does not search twice cannot be told from its answers, no byte is lost between
what it was given and what it gave back, and what it refused has left no trace. -/
theorem search_transparent (calls : List BufferCall) :
    Transparent calls (converse respond empty calls).1 (converse respond empty calls).2 := by
  obtain ⟨hanswers, hplain, sound⟩ := converse_plain sound_empty calls
  have hwaiting : (converse respond empty calls).2.ahead =
      (converse PlainBuffer.respond ⟨[]⟩ calls).2.waiting :=
    congrArg PlainBuffer.waiting hplain
  constructor
  case searched =>
    rw [octets_waiting]
    exact sound.searched
  case scanned_le =>
    rw [← length_ahead]
    exact sound.scanned_le
  case answers => exact hanswers
  case contents => rw [octets_waiting, hwaiting]
  case conserved =>
    rw [octets_waiting, hanswers, hwaiting]
    exact PlainBuffer.converse_conserves ⟨[]⟩ calls
  case unrefused => exact converse_unrefused (fun _ _ _ => respond_error) empty calls
  case room =>
    intro bytes
    rw [append_eq, length_ahead]
    split
    · next hfull => simp [Nat.not_le_of_gt hfull]
    · next hroom => simp [Nat.le_of_not_gt hroom]

end Buffer

end EventSocket
