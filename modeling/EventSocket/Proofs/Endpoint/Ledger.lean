import EventSocket.Delivery.Listener
import Mathlib.Data.List.Pairwise
import Mathlib.Data.List.TakeWhile

/-!
The ledger of a server: who was added to the server or subscribed on a session, when a handshake
began on a connection, and who was told what. The listeners of a session are read off it.
-/

namespace EventSocket

/-- An entry of the ledger. A handshake has `begun` once a session is being opened on a transport
that was idle. -/
inductive ServerEntry where
  | added (listener : Listener)
  | begun (index : Nat)
  | subscribed (index : Nat) (listener : Listener)
  | told (index seat : Nat) (callback : Callback)
  deriving DecidableEq

abbrev Ledger := List ServerEntry

namespace ServerEntry

def added? : ServerEntry → Option Listener
  | added listener => some listener
  | _ => none

def subscribed? (index : Nat) : ServerEntry → Option Listener
  | subscribed index' listener => if index' = index then some listener else none
  | _ => none

def listener? : ServerEntry → Option Listener
  | added listener | subscribed _ listener => some listener
  | _ => none

/-- The seat of whoever is welcomed. Some listeners have none. -/
def seat? (entry : ServerEntry) : Option Nat := entry.listener?.bind Listener.seat

def told? : ServerEntry → Option (Nat × Callback)
  | told _ seat callback => some (seat, callback)
  | _ => none

end ServerEntry

namespace Ledger

/-- The listeners of the server, in the order in which they were added. -/
def added (ledger : Ledger) : List Listener := ledger.filterMap ServerEntry.added?

def addedBefore (ledger : Ledger) (index : Nat) : List Listener :=
  added (ledger.takeWhile (· ≠ .begun index))

def subscribed (ledger : Ledger) (index : Nat) : List Listener :=
  ledger.filterMap (ServerEntry.subscribed? index)

/-- The listeners of the session on this connection. -/
def listeners (ledger : Ledger) (index : Nat) : List Listener :=
  ledger.addedBefore index ++ ledger.subscribed index

def told (ledger : Ledger) : List (Nat × Callback) := ledger.filterMap ServerEntry.told?

def seats (ledger : Ledger) : List Nat := ledger.filterMap ServerEntry.seat?

variable {ledger more : Ledger} {index : Nat}

theorem added_append (ledger more : Ledger) : added (ledger ++ more) = added ledger ++ added more :=
  List.filterMap_append

theorem subscribed_append (ledger more : Ledger) (index : Nat) :
    subscribed (ledger ++ more) index = subscribed ledger index ++ subscribed more index :=
  List.filterMap_append

theorem told_append (ledger more : Ledger) : told (ledger ++ more) = told ledger ++ told more :=
  List.filterMap_append

theorem told_begun (begun : List Nat) : told (begun.map .begun) = [] := by
  simp [told, ServerEntry.told?]

theorem seats_append (ledger more : Ledger) : seats (ledger ++ more) = seats ledger ++ seats more :=
  List.filterMap_append

theorem mem_added {listener : Listener} : listener ∈ ledger.added ↔ .added listener ∈ ledger := by
  rw [added, List.mem_filterMap]
  constructor
  · rintro ⟨entry, hentry, hadded⟩
    cases entry with
    | added listener' =>
      obtain rfl := Option.some.inj hadded
      exact hentry
    | _ => cases hadded
  · exact fun hentry => ⟨_, hentry, rfl⟩

theorem mem_subscribed {listener : Listener} :
    listener ∈ ledger.subscribed index ↔ .subscribed index listener ∈ ledger := by
  rw [subscribed, List.mem_filterMap]
  constructor
  · rintro ⟨entry, hentry, hsubscribed⟩
    cases entry with
    | subscribed index' listener' =>
      obtain ⟨rfl, heq⟩ := Option.ite_none_right_eq_some.mp hsubscribed
      obtain rfl := Option.some.inj heq
      exact hentry
    | _ => cases hsubscribed
  · exact fun hentry => ⟨_, hentry, if_pos rfl⟩

theorem addedBefore_sublist (ledger : Ledger) (index : Nat) :
    (ledger.addedBefore index).Sublist ledger.added :=
  (List.takeWhile_sublist _).filterMap _

/-- What is entered once the handshake has begun does not count. -/
theorem addedBefore_of_begun (h : .begun index ∈ ledger) (more : Ledger) :
    addedBefore (ledger ++ more) index = ledger.addedBefore index := by
  have hshort : (ledger.takeWhile (· ≠ .begun index)).length ≠ ledger.length := by
    intro hlength
    have hall := (List.takeWhile_prefix (· ≠ ServerEntry.begun index)).eq_of_length hlength
    rw [← hall] at h
    simpa using List.mem_takeWhile_imp h
  rw [addedBefore, List.takeWhile_append, if_neg hshort]
  rfl

theorem addedBefore_of_not (h : .begun index ∉ ledger) (more : Ledger) :
    addedBefore (ledger ++ more) index = ledger.added ++ addedBefore more index := by
  have hall : ∀ entry ∈ ledger, entry ≠ .begun index := by
    rintro _ hentry rfl
    exact h hentry
  rw [addedBefore, List.takeWhile_append_of_pos (by simpa using hall), added_append]
  rfl

/-- Nobody who is entered later was there when the handshake began. -/
theorem addedBefore_begun (before after : Ledger) (index : Nat) :
    addedBefore (before ++ .begun index :: after) index = addedBefore before index := by
  by_cases hbegun : .begun index ∈ before
  · exact addedBefore_of_begun hbegun _
  · have hnone : addedBefore (.begun index :: after) index = [] := by simp [addedBefore, added]
    have hall := addedBefore_of_not hbegun []
    rw [List.append_nil] at hall
    rw [addedBefore_of_not hbegun, hnone, hall]
    rfl

theorem listeners_of_begun (h : .begun index ∈ ledger) (more : Ledger) :
    listeners (ledger ++ more) index = ledger.listeners index ++ subscribed more index := by
  rw [listeners, addedBefore_of_begun h, subscribed_append, ← List.append_assoc]
  rfl

theorem listeners_subset (ledger more : Ledger) (index : Nat) :
    ledger.listeners index ⊆ listeners (ledger ++ more) index := by
  intro listener hlistener
  by_cases hbegun : .begun index ∈ ledger
  · rw [listeners_of_begun hbegun]
    exact List.mem_append_left _ hlistener
  · rw [listeners, addedBefore_of_not hbegun, subscribed_append]
    rcases List.mem_append.mp hlistener with hadded | hsubscribed
    · have hserver := (ledger.addedBefore_sublist index).mem hadded
      exact List.mem_append_left _ (List.mem_append_left _ hserver)
    · exact List.mem_append_right _ (List.mem_append_left _ hsubscribed)

/-! Nobody shares a seat. -/

theorem mem_seats {entry : ServerEntry} {seat : Nat} (hentry : entry ∈ ledger)
    (hseat : entry.seat? = some seat) : seat ∈ ledger.seats :=
  List.mem_filterMap.mpr ⟨entry, hentry, hseat⟩

theorem entry_of_seat {entry entry' : ServerEntry} {seat : Nat} (h : ledger.seats.Nodup)
    (hentry : entry ∈ ledger) (hentry' : entry' ∈ ledger) (hseat : entry.seat? = some seat)
    (hseat' : entry'.seat? = some seat) : entry = entry' := by
  rw [seats, List.nodup_iff_pairwise_ne, List.pairwise_filterMap] at h
  have hsymm : Std.Symm fun entry entry' : ServerEntry =>
      ∀ seat, entry.seat? = some seat → ∀ seat', entry'.seat? = some seat' → seat ≠ seat' :=
    ⟨fun _ _ hapart seat hseat seat' hseat' => (hapart seat' hseat' seat hseat).symm⟩
  by_contra hne
  exact h.forall hentry hentry' hne seat hseat seat hseat' rfl

theorem seat_of_append {entry entry' : ServerEntry} {before after : Ledger} {seat : Nat}
    (h : (seats (before ++ after)).Nodup) (hbefore : entry ∈ before) (hafter : entry' ∈ after)
    (hseat : entry.seat? = some seat) : entry'.seat? ≠ some seat := by
  intro hseat'
  rw [seats_append, List.nodup_append] at h
  exact h.2.2 seat (mem_seats hbefore hseat) seat (mem_seats hafter hseat') rfl

end Ledger

end EventSocket

