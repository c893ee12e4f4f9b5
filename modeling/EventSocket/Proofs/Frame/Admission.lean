import EventSocket.Proofs.Frame.Framing
import EventSocket.Settings

/-!
A stream of whole segments on its way through a decoder. Whatever has been taken up, what is left
goes on with a whole line or a whole body, so that a decoder that asks for more holds less than one.
-/

namespace EventSocket

namespace DecoderView

/-- The turns of a decoder lead from the stream to the view. -/
inductive Reached (stream : List UInt8) : DecoderView → Prop
  | start : Reached stream (.fresh stream)
  | turn {view rest : DecoderView} {turn : DecoderTurn} (reached : Reached stream view)
      (hturn : view.turn = (turn, rest)) (hgoes : turn ≠ .waiting) : Reached stream rest

variable {stream : List UInt8} {view rest : DecoderView}

theorem Reached.arrive (h : Reached stream view) (bytes : List UInt8) :
    Reached (stream ++ bytes) (view.append bytes) := by
  induction h with
  | start => exact .start
  | turn reached hturn hgoes ih => exact ih.turn (turn_append hturn hgoes bytes) hgoes

theorem Reached.next {answer : Except Fault (Option Frame)} {more : List UInt8}
    (h : Reached stream (view.append more)) (hnext : view.next = (answer, rest)) :
    Reached stream (rest.append more) := by
  fun_induction DecoderView.next view with
  | case1 view after hturn =>
    cases hnext
    obtain rfl := turn_waiting hturn
    exact h
  | case2 view after hturn ih =>
    exact ih (h.turn (turn_append hturn (by simp) more) (by simp)) hnext
  | case3 view frame after hturn =>
    cases hnext
    exact h.turn (turn_append hturn (by simp) more) (by simp)
  | case4 view fault after hturn =>
    cases hnext
    exact h.turn (turn_append hturn (by simp) more) (by simp)

/-- A decoder that has asked for more asks for it at once. -/
theorem turn_of_next_none (h : view.next = (.ok none, rest)) : rest.turn = (.waiting, rest) := by
  fun_induction DecoderView.next view with
  | case1 view after hturn =>
    cases h
    obtain rfl := turn_waiting hturn
    exact hturn
  | case2 view after hturn ih => exact ih h
  | case3 => cases h
  | case4 => cases h

end DecoderView

/-- No header line is longer, its line feed included. -/
def Segment.LinesWithin (line : Nat) (segment : Segment) : Prop :=
  ∀ header ∈ segment.head.headers, header.bytes.length ≤ line

/-- What is left of whole segments, from the next line or the body on. -/
inductive LeftOver (line : Nat) : DecoderView → Prop
  | nothing : LeftOver line (.fresh [])
  | headers {segment : Segment} {later : List Segment} (separators : List LineEnding)
      {read todo : List WrittenHeader} {length : Option Nat}
      (hheaders : segment.head.headers = read ++ todo) (hfirst : separators ≠ [] → read = [])
      (hasks : Asks read length) (hlines : ∀ other ∈ segment :: later, other.LinesWithin line) :
      LeftOver line ⟨.headers (read.map WrittenHeader.pair).toArray length,
        separators.flatMap LineEnding.bytes ++ (todo.flatMap WrittenHeader.bytes ++
          (segment.closing.bytes ++ (Text.codes (segment.body.getD "") ++
            later.flatMap Segment.bytes)))⟩
  | body (read : List WrittenHeader) {text : String} {later : List Segment}
      (hshort : text.utf8ByteSize ≤ bodyLimit) (hlines : ∀ other ∈ later, other.LinesWithin line) :
      LeftOver line ⟨.body (read.map WrittenHeader.pair).toArray text.utf8ByteSize,
        Text.codes text ++ later.flatMap Segment.bytes⟩

namespace LeftOver

variable {line : Nat} {view rest : DecoderView} {segments : List Segment}

theorem ofSegments (hlines : ∀ segment ∈ segments, segment.LinesWithin line) :
    LeftOver line (.fresh (segments.flatMap Segment.bytes)) := by
  cases segments with
  | nil => exact .nothing
  | cons segment later =>
    rw [List.flatMap_cons, Segment.bytes, FrameHead.bytes_eq_flatMap]
    simp only [List.append_assoc]
    exact .headers segment.head.separators (List.nil_append _).symm (fun _ => rfl) asks_nil hlines

/-- A length that headers ask for is one that a body may have. -/
theorem asked_le {headers : List WrittenHeader} (hmeasured : ∀ header ∈ headers, header.Measured)
    {count : Nat} (hasks : Asks headers (some count)) : count ≤ bodyLimit := by
  obtain ⟨header, hheader, hvalue⟩ := hasks
  have hmem := List.mem_filter.mp (List.mem_of_getLast? hheader)
  obtain ⟨count', hcount', hvalue'⟩ := hmeasured header hmem.1 (of_decide_eq_true hmem.2)
  rwa [hvalue.unique hvalue'] at hcount'

theorem turn (h : LeftOver line view) {turn : DecoderTurn} (hturn : view.turn = (turn, rest))
    (hgoes : turn ≠ .waiting) : LeftOver line rest := by
  cases h with
  | nothing =>
    rw [show (DecoderView.fresh []).turn = _ from DecoderView.turn_headers_none rfl] at hturn
    exact absurd (congrArg Prod.fst hturn).symm hgoes
  | @headers segment later separators read todo length hheaders hfirst hasks hlines =>
    cases separators with
    | cons ending separators =>
      obtain rfl := hfirst (by simp)
      obtain rfl : length = none := asks_nil.unique hasks
      rw [List.flatMap_cons, List.append_assoc] at hturn
      obtain rfl := congrArg Prod.snd ((DecoderView.turn_separator ending _).symm.trans hturn)
      exact .headers separators hheaders (fun _ => rfl) hasks hlines
    | nil =>
      cases todo with
      | cons header todo =>
        have hmeasured := segment.head.measured header (by simp [hheaders])
        obtain ⟨length', hasks', hread⟩ := Decoder.readHeaderLine_measured
          (read.map WrittenHeader.pair).toArray hmeasured hasks
        rw [List.flatMap_nil, List.nil_append, List.flatMap_cons, List.append_assoc,
          DecoderView.turn_header hread] at hturn
        obtain rfl := congrArg Prod.snd hturn
        have hheaders' : segment.head.headers = (read ++ [header]) ++ todo := by
          simpa using hheaders
        simpa using LeftOver.headers [] hheaders' (by simp) hasks' hlines
      | nil =>
        rw [List.append_nil] at hheaders
        have hpairs : read.map WrittenHeader.pair ≠ [] := by
          simpa [← hheaders] using segment.headers_ne
        have hlater : ∀ other ∈ later, other.LinesWithin line :=
          fun other hother => hlines other (List.mem_cons_of_mem _ hother)
        have hasked := segment.asked
        rw [hheaders] at hasked
        obtain rfl := hasked.unique hasks
        rw [List.flatMap_nil, List.flatMap_nil, List.nil_append, List.nil_append] at hturn
        cases hbody : segment.body with
        | none =>
          rw [hbody, Option.map_none, LineEnding.bytes,
            DecoderView.turn_closing hpairs] at hturn
          obtain rfl := congrArg Prod.snd hturn
          exact ofSegments hlater
        | some text =>
          rw [hbody, Option.map_some, LineEnding.bytes,
            DecoderView.turn_closing_length hpairs] at hturn
          obtain rfl := congrArg Prod.snd hturn
          have hshort : text.utf8ByteSize ≤ bodyLimit :=
            asked_le segment.head.measured (by simpa [hbody] using segment.asked)
          exact .body read hshort hlater
  | @body read text later hshort hlines =>
    rw [DecoderView.turn_body] at hturn
    obtain rfl := congrArg Prod.snd hturn
    exact ofSegments hlines

theorem reached (hlines : ∀ segment ∈ segments, segment.LinesWithin line)
    (h : DecoderView.Reached (segments.flatMap Segment.bytes) view) : LeftOver line view := by
  induction h with
  | start => exact ofSegments hlines
  | turn reached hturn hgoes ih => exact ih.turn hturn hgoes

theorem length_le_of_line {ahead more front rest : List UInt8} (hnone : lineFeed ∉ ahead)
    (h : ahead ++ more = front ++ lineFeed :: rest) : ahead.length ≤ front.length := by
  rcases List.append_eq_append_iff.mp h with ⟨between, rfl, -⟩ | ⟨between, rfl, hbetween⟩
  · simp
  · cases between with
    | nil => simp
    | cons byte between =>
      obtain ⟨rfl, -⟩ := List.cons_eq_cons.mp hbetween
      simp at hnone

/-- Where lines are left, a whole one comes first. -/
theorem exists_line {read : Array (String × String)} {length : Option Nat} {ahead : List UInt8}
    (h : LeftOver line ⟨.headers read length, ahead⟩) :
    ahead = [] ∨ ∃ front rest, ahead = front ++ lineFeed :: rest ∧ front.length ≤ max line 1 := by
  have hending (ending : LineEnding) (more : List UInt8) :
      ∃ front rest, ending.bytes ++ more = front ++ lineFeed :: rest ∧
        front.length ≤ max line 1 := by
    refine ⟨Text.codes (String.ofList ending.mark), more, by simp [ending.bytes_eq], ?_⟩
    exact le_trans (by cases ending <;> decide) (le_max_right line 1)
  cases h with
  | nothing => exact Or.inl rfl
  | @headers segment later separators read todo length hheaders hfirst hasks hlines =>
    right
    cases separators with
    | cons ending separators =>
      rw [List.flatMap_cons, List.append_assoc]
      exact hending ending _
    | nil =>
      cases todo with
      | nil => exact hending segment.closing _
      | cons header todo =>
        have hline : header.bytes.length ≤ line :=
          hlines segment List.mem_cons_self header (by simp [hheaders])
        rw [header.bytes_eq, List.length_append] at hline
        rw [List.flatMap_nil, List.nil_append, List.flatMap_cons, header.bytes_eq,
          List.append_assoc, List.append_assoc]
        exact ⟨_, _, rfl, le_trans (Nat.le_of_add_right_le hline) (le_max_left line 1)⟩

/-- A decoder that asks for more has less before it than the line or the body that comes next. -/
theorem length_le (h : LeftOver line (view.append more))
    (hwaits : view.turn.1 = .waiting) : view.ahead.length ≤ max line bodyLimit := by
  obtain ⟨mode, ahead⟩ := view
  cases mode with
  | headers read length =>
    have hnone : lineFeed ∉ ahead := by
      rw [← splitLine_eq_none_iff]
      cases hsplit : splitLine ahead with
      | none => rfl
      | some split =>
        rw [DecoderView.turn_headers_some hsplit] at hwaits
        exact absurd hwaits Decoder.readLine_ne_waiting
    rcases h.exists_line with hempty | ⟨front, rest, hline, hfront⟩
    · rw [(List.append_eq_nil_iff.mp hempty).1]
      exact Nat.zero_le _
    · have hbody : 1 ≤ bodyLimit := by decide
      calc
        ahead.length ≤ front.length := length_le_of_line hnone hline
        _ ≤ max line 1 := hfront
        _ ≤ max line bodyLimit := by omega
  | body read length =>
    have hmissing : ahead.length < length := by
      by_contra hwhole
      rw [DecoderView.turn_body_of_le (Nat.not_lt.mp hwhole)] at hwaits
      exact Decoder.readBody_ne_waiting hwaits
    generalize hview : DecoderView.append ⟨.body read length, ahead⟩ more = whole at h
    cases h with
    | body read hshort hlines =>
      obtain ⟨hmode, -⟩ := DecoderView.mk.inj hview
      obtain ⟨-, rfl⟩ := DecoderMode.body.inj hmode
      exact (hmissing.le.trans hshort).trans (le_max_right line bodyLimit)
    | nothing | headers => cases congrArg DecoderView.mode hview

end LeftOver

/-- Behind a request for more there is room for another read, whatever the stream goes on with. -/
theorem Decoder.feed_of_reached {decoder rest : Decoder} {segments : List Segment}
    {arrived unread : List UInt8} (sound : decoder.Sound)
    (hreached : DecoderView.Reached arrived (decoder.view.append unread))
    (hlines : ∀ segment ∈ segments, segment.LinesWithin (bufferLimit - readLimit))
    (hstream : arrived <+: segments.flatMap Segment.bytes)
    (hnext : decoder.next = (.ok none, rest)) {bytes : ByteArray} (hsize : bytes.size ≤ readLimit) :
    ∃ fed, rest.feed bytes = .ok fed := by
  obtain ⟨tail, htail⟩ := hstream
  obtain ⟨hview, -⟩ := view_next sound hnext
  have hrest := (hreached.next hview).arrive tail
  rw [htail, DecoderView.append_append] at hrest
  have hturn : rest.view.turn.1 = .waiting := by rw [DecoderView.turn_of_next_none hview]
  have hahead := (LeftOver.reached hlines hrest).length_le hturn
  have hlimits : max (bufferLimit - readLimit) bodyLimit + readLimit ≤ bufferLimit := by decide
  obtain ⟨fed, hfeed, -⟩ | ⟨-, hfull⟩ := feed_eq rest bytes
  · exact ⟨fed, hfeed⟩
  · omega

end EventSocket
