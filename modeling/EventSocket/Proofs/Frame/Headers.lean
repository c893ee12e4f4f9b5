import EventSocket.Frame.Basic
import EventSocket.Proofs.Fields

/-!
The headers of a frame, told from the pairs it was made of: every name once, in the order in which
the names first came up, each with the value of its last pair.
-/

namespace EventSocket

namespace Frame

/-- The headers say what the pairs said. -/
structure Condenses (pairs : List (String × String)) (frame : Frame) : Prop where
  distinct : frame.headers.names.Nodup
  names : ∀ name, name ∈ frame.headers.names ↔ name ∈ pairs.map Prod.fst
  order : frame.headers.names.Pairwise fun earlier later =>
    (pairs.map Prod.fst).idxOf earlier < (pairs.map Prod.fst).idxOf later
  last : ∀ name value, frame.header? name = some value ↔
    ∃ before after, pairs = before ++ (name, value) :: after ∧ name ∉ after.map Prod.fst
  absent : ∀ name, frame.header? name = none ↔ name ∉ pairs.map Prod.fst
  listed : ∀ name value,
    (name, value) ∈ frame.headers.toList ↔ frame.header? name = some value

theorem condenses_ofHeaders (pairs : List (String × String)) (body : List String) :
    Condenses pairs (ofHeaders pairs body) := by
  have hnames : (ofHeaders pairs body).headers.names = (pairs.map Prod.fst).eraseDups :=
    Fields.names_ofList pairs
  have hheader : ∀ name, (ofHeaders pairs body).header? name = Fields.lastValue? name pairs :=
    Fields.get?_ofList pairs
  constructor
  case distinct => exact (Fields.ofList pairs).distinct
  case names =>
    intro name
    rw [hnames, List.mem_eraseDups]
  case order =>
    rw [hnames]
    exact Fields.pairwise_idxOf_eraseDups (pairs.map Prod.fst)
  case last =>
    intro name value
    rw [hheader]
    exact Fields.lastValue?_eq_some_iff
  case absent =>
    intro name
    rw [hheader]
    exact Fields.lastValue?_eq_none_iff
  case listed => exact fun name value => Fields.get?_eq_some_iff.symm

theorem ofHeaders_toList (frame : Frame) : ofHeaders frame.headers.toList frame.body = frame := by
  rw [ofHeaders, Fields.ofList_toList]

/-- Headers keep their meaning when several of one name become one, and a frame made again from its
own headers and body is the same frame. -/
theorem headers_condensed (pairs : List (String × String)) (body : List String) :
    Condenses pairs (ofHeaders pairs body) ∧
      (ofHeaders pairs body).body = body ∧
      ofHeaders (ofHeaders pairs body).headers.toList (ofHeaders pairs body).body =
        ofHeaders pairs body :=
  ⟨condenses_ofHeaders pairs body, rfl, ofHeaders_toList (ofHeaders pairs body)⟩

example :
    (ofHeaders [("A", "1"), ("B", "2"), ("A", "3")] []).headers.toList =
      [("A", "3"), ("B", "2")] := by
  decide

end Frame

end EventSocket
