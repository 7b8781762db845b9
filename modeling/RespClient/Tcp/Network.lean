import RespClient.Connection
import RespClient.Tcp.Address
import RespClient.Wire.Reader

/-!
# A network of servers

The far side of connections over TCP. Servers listen under names and answer each connection that
they accept with a stream of bytes of their own, whatever they are sent; the network keeps what was
sent through every connection. What happens to single connections apart from that, if anything does,
is an `Incident`: one that is dialed may fail, also where others are accepted, and its stream may end
in a way of its own.

`Network.dial` is the only way in. It refuses a text that is neither the name of a server nor an
address, then fails if the host has no route at all, then if no time is allowed, then if nobody
listens, and then by an incident. `dial_cases` and `connect_cases` say what it can come to.
-/

namespace RespClient.Tcp

/-- A server that listens under a name. The connections that it accepts are sent its streams in
order, and nothing when there are no more. -/
structure Server where
  name : String
  streams : List Bytes
  ending : Ending
  deriving DecidableEq, Repr, Inhabited

/-- What may happen to a connection that is dialed at a server. -/
inductive Incident where
  /-- It does not come about: it is refused, say, or not accepted in time. -/
  | failed (fault : IoError)
  /-- Its stream ends in another way than the others of its server. -/
  | ends (ending : Ending)
  deriving DecidableEq, Repr

/-- The server as a connection meets it to which this happens. -/
def Incident.met (server : Server) : Option Incident → Except IoError Server
  | none => .ok server
  | some (.ends ending) => .ok { server with ending }
  | some (.failed fault) => .error fault

/-- The servers, the connections that they have accepted, and what was sent through these. -/
structure Network where
  /-- Whether the host has a route to anywhere. -/
  routed : Bool
  /-- The servers that listen. -/
  servers : List Server
  /-- What happens to the connections that will be dialed at servers, in order. Nothing happens to
  those behind. -/
  incidents : List (Option Incident) := []
  /-- The name of the server that accepted each connection, in the order of dialing. -/
  accepted : Array String := #[]
  /-- The pieces that were sent, in order, each with the number of its connection. -/
  sent : Array (Nat × Bytes) := #[]
  deriving DecidableEq, Repr, Inhabited

namespace Network

/-- The server that listens at an address, if there is one. -/
def serverAt? (net : Network) (address : String) : Option Server :=
  net.servers.find? fun server => server.name = address

/-! ## Dialing and sending -/

/-- The stream of the next connection that a server accepts. -/
def nextStream (net : Network) (server : Server) : Bytes :=
  server.streams.getD (net.accepted.toList.count server.name) []

/-- What a new connection has to read, and the number under which it sends. -/
structure Channel where
  number : Nat
  stream : Bytes
  ending : Ending

/-- Where an address leads: to a family of addresses, and to a server if one listens there. -/
def destination (net : Network) (address : String) : Except IoError (Family × Option Server) :=
  match net.serverAt? address with
  | some server => .ok (.v4, some server)
  | none => (resolve address).map fun family => (family, none)

/-- Connects to a server, if nothing prevents it. -/
def connect (net : Network) (server : Server) : Except Error Channel × Network :=
  let later := { net with incidents := net.incidents.tail }
  match Incident.met server net.incidents.head?.join with
  | .error fault => (.error (.io fault), later)
  | .ok met =>
    (.ok ⟨net.accepted.size, net.nextStream server, met.ending⟩,
      { later with accepted := net.accepted.push server.name })

/-- Dials an address and waits no longer than the timeout. -/
def dial (net : Network) (address : String) (timeout : Duration) :
    Except Error Channel × Network :=
  match net.destination address with
  | .error fault => (.error (.io fault), net)
  | .ok (family, server?) =>
    if !net.routed then (.error (.io family.unreachable), net)
    else if timeout.isZero then (.error (.io .zeroTimeout), net)
    else
      match server? with
      | none => (.error (.io .connectionRefused), net)
      | some server => net.connect server

/-- Sends bytes through a connection. -/
def send (net : Network) (number : Nat) (bytes : Bytes) : Network :=
  if bytes.isEmpty then net else { net with sent := net.sent.push (number, bytes) }

/-! ## What was received -/

/-- The bytes sent through a connection. -/
def sentThrough (net : Network) (number : Nat) : Bytes :=
  (net.sent.toList.filter fun piece => piece.1 = number).flatMap Prod.snd

/-- What a server received through each of the connections that it accepted, in order. -/
def received (net : Network) (name : String) : List Bytes :=
  ((List.range net.accepted.size).filter fun number => net.accepted[number]? = some name).map
    net.sentThrough

/-! ## What dialing and sending change -/

variable {net net' : Network} {address : String} {timeout : Duration} {channel : Channel}

theorem name_of_serverAt? {server : Server} (found : net.serverAt? address = some server) :
    server.name = address := by
  unfold serverAt? at found
  simpa using List.find?_some found

/-- A server is connected to, as the next connection of the network, or an incident prevents it. -/
theorem connect_cases (net : Network) (server : Server) :
    (∃ channel : Channel, channel.number = net.accepted.size ∧ net.connect server =
      (.ok channel,
        { net with
          incidents := net.incidents.tail
          accepted := net.accepted.push server.name })) ∨
    ∃ fault, some (.failed fault) ∈ net.incidents ∧ net.connect server =
      (.error (.io fault), { net with incidents := net.incidents.tail }) := by
  unfold connect
  rcases happens : net.incidents.head?.join with _ | fault | ending
  · exact Or.inl ⟨_, rfl, rfl⟩
  · exact Or.inr ⟨fault, List.mem_of_head? (Option.join_eq_some_iff.1 happens), rfl⟩
  · exact Or.inl ⟨_, rfl, rfl⟩

/-- Dialing comes to a server, or fails before that and changes nothing. -/
theorem dial_cases (net : Network) (address : String) (timeout : Duration) :
    (∃ server, net.serverAt? address = some server ∧ net.routed = true ∧ timeout.isZero = false ∧
      net.dial address timeout = net.connect server) ∨
    ∃ fault, net.dial address timeout = (.error (.io fault), net) := by
  unfold dial destination
  rcases found : net.serverAt? address with _ | server
  · refine Or.inr ?_
    rcases resolve address with fault | family
    · exact ⟨fault, rfl⟩
    · dsimp only [Except.map]
      split
      · exact ⟨_, rfl⟩
      · split <;> exact ⟨_, rfl⟩
  · dsimp only
    split
    · exact Or.inr ⟨_, rfl⟩
    · next routed =>
      split
      · exact Or.inr ⟨_, rfl⟩
      · next waits =>
        exact Or.inl ⟨server, rfl, by simpa using routed, by simpa using waits, rfl⟩

/-- A server is reached if there are a route to it and time. -/
theorem dial_of_server {server : Server} (found : net.serverAt? address = some server)
    (routed : net.routed = true) (waits : timeout.isZero = false) :
    net.dial address timeout = net.connect server := by
  simp only [dial, destination, found, routed, waits, Bool.not_true, Bool.false_eq_true, if_false]

/-- A new connection gets the next number and its server is added to those that accepted one. Nothing
else happens but the incident. -/
theorem dial_ok (dialed : net.dial address timeout = (.ok channel, net')) :
    channel.number = net.accepted.size ∧
      net' = { net with
        incidents := net.incidents.tail
        accepted := net.accepted.push address } := by
  rcases net.dial_cases address timeout with ⟨server, found, -, -, out⟩ | ⟨fault, out⟩
  · obtain ⟨next, number, connects⟩ | ⟨fault, -, connects⟩ := net.connect_cases server
    · cases dialed.symm.trans (out.trans connects)
      exact ⟨number, by rw [name_of_serverAt? found]⟩
    · cases dialed.symm.trans (out.trans connects)
  · cases dialed.symm.trans out

/-- Dialing in vain ends with a fault of the transport, and changes nothing but what happens to
connections that are dialed later. -/
theorem dial_error {error : Error} (dialed : net.dial address timeout = (.error error, net')) :
    (∃ fault, error = .io fault) ∧ ∃ incidents, net' = { net with incidents } := by
  rcases net.dial_cases address timeout with ⟨server, -, -, -, out⟩ | ⟨fault, out⟩
  · obtain ⟨next, -, connects⟩ | ⟨fault, -, connects⟩ := net.connect_cases server
    · cases dialed.symm.trans (out.trans connects)
    · cases dialed.symm.trans (out.trans connects)
      exact ⟨⟨fault, rfl⟩, _, rfl⟩
  · cases dialed.symm.trans out
    exact ⟨⟨fault, rfl⟩, net.incidents, rfl⟩

theorem accepted_send (net : Network) (number : Nat) (bytes : Bytes) :
    (net.send number bytes).accepted = net.accepted := by
  unfold send
  split <;> rfl

theorem incidents_send (net : Network) (number : Nat) (bytes : Bytes) :
    (net.send number bytes).incidents = net.incidents := by
  unfold send
  split <;> rfl

/-- What was sent through a connection depends only on the pieces that were sent. -/
theorem sentThrough_congr (same : net'.sent = net.sent) (number : Nat) :
    net'.sentThrough number = net.sentThrough number := by
  unfold sentThrough
  rw [same]

/-- Bytes that are sent through a connection come after those sent before, and nothing else
changes. -/
theorem sentThrough_send (net : Network) (sender : Nat) (bytes : Bytes) (number : Nat) :
    (net.send sender bytes).sentThrough number =
      net.sentThrough number ++ if number = sender then bytes else [] := by
  unfold send
  split
  · next nothing =>
    rw [List.isEmpty_iff.1 nothing, ite_self, List.append_nil]
  · unfold sentThrough
    rw [Array.toList_push, List.filter_append, List.flatMap_append]
    by_cases same : number = sender
    · simp [same]
    · simp [same, Ne.symm same]

end Network

end RespClient.Tcp
