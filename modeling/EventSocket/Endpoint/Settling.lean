import EventSocket.Endpoint.Calling

/-!
Letting an endpoint go on until nothing more can happen without the switch, the clock, a caller or a
listener.
-/

namespace EventSocket.Endpoint

/-- Lets every connection go on by itself: first the openings, then the sessions. -/
def settleConnections (endpoint : Endpoint) : Endpoint :=
  let (connections, audience) := endpoint.connections.foldl
    (fun (settled, audience) connection =>
      let (connection, audience) :=
        (connection.settleOpening endpoint.now).settleSession endpoint.now endpoint.registers
          audience
      (settled ++ [connection], audience))
    ([], endpoint.audience)
  { endpoint with connections, audience }

def takeTurns : Nat → Endpoint → Endpoint
  | 0, endpoint => endpoint.settleConnections
  | turns + 1, endpoint =>
    let endpoint := endpoint.settleConnections
    match endpoint.calls.findSome? endpoint.callTurn with
    | none => endpoint
    | some endpoint => takeTurns turns endpoint

/-- A call takes at most three turns. -/
def settle (endpoint : Endpoint) : Endpoint := takeTurns (3 * endpoint.calls.length) endpoint

def advance (endpoint : Endpoint) (milliseconds : Nat) : Endpoint :=
  { endpoint with now := endpoint.now + milliseconds }

/-- Every listener lets go, and the switch reads on and ends its streams. -/
def windUp (endpoint : Endpoint) : Endpoint :=
  { endpoint with
    audience := endpoint.audience.releaseAll
    connections := endpoint.connections.map
      (.mapTransport fun transport =>
        { transport with stalled := false, shutdownStalled := false, ended := true }) }

end EventSocket.Endpoint
