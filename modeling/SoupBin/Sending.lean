import SoupBin.Client
import SoupBin.Server
import SoupBin.SocketJournal

/-!
# What a call to send puts in the queue

The four calls that take a buffer of any size. The size is narrowed to 16 bits
on its way into the packet, so the packet is the one that was asked for exactly
if the payload and the type fit in the length field.
-/

namespace SoupBin

theorem ReadPacket.length_resizePayload (p : ReadPacket) :
    p.resizePayload.2.payload.length ≤ 65534 := by
  have hsize : p.packetSize < 65536 := Records.readBe16_lt p.header
  unfold resizePayload
  by_cases hzero : p.packetSize < packetTypeLength
  · simp [hzero]
  · by_cases hone : p.packetSize = packetTypeLength
    · simp [hone]
    · dsimp only
      rw [if_neg hzero, if_neg hone, List.length_replicate, packetTypeLength]
      omega

/-- The read loop never delivers more than a length field can announce. -/
theorem ReadPacket.length_receive {s rest : Bytes} {p : ReadPacket}
    (h : receive s = some (p, rest)) : p.payload.length ≤ 65534 := by
  have hlen := length_resizePayload { header := s.take packetHeaderLength }
  unfold receive at h
  split at h
  · cases h
  · generalize resizePayload { header := s.take packetHeaderLength } = r at h hlen
    obtain ⟨result, q⟩ := r
    cases result with
    | malformedHeader => cases h
    | emptyPayload =>
      cases h
      exact hlen
    | resized =>
      dsimp only at h
      split at h
      · cases h
      · cases h
        simp only [ReadPacket.payloadSize, List.length_take] at hlen ⊢
        omega

/-- The packet that is received is the one that was asked for. -/
def WritePacket.Received (packet : WritePacket) (type : UInt8) (payload : Bytes) : Prop :=
  ∀ rest, ReadPacket.receive (packet.wire ++ rest) = some (.of type payload, rest)

theorem WritePacket.received_iff (type : UInt8) (payload : Bytes) :
    (WritePacket.ofData type payload).Received type payload ↔ payload.length ≤ 65534 := by
  constructor
  · intro h
    exact ReadPacket.length_receive (h [])
  · intro h rest
    exact (WritePacket.encodes_ofData type h).receive_eq rest

/-! ## Queues -/

/-- Where `Takes` holds a packet is appended, and elsewhere it is refused. -/
structure Appends (Takes : Prop) (packet : WritePacket) (result : WriteError)
    (before after : List WritePacket) : Prop where
  taken : Takes → result = .none ∧ after = before ++ [packet]
  refused : ¬Takes → result ≠ .none ∧ after = before

theorem Socket.appends_asyncWrite (s : Socket) (packet : WritePacket) :
    Appends s.Takes packet (s.asyncWrite packet).1 s.writePackets
      (s.asyncWrite packet).2.writePackets := by
  constructor
  · intro ht
    obtain ⟨hr, hq, -⟩ := asyncWrite_taken ht packet
    exact ⟨hr, hq⟩
  · intro ht
    obtain ⟨hr, hq, -⟩ := asyncWrite_refused ht packet
    exact ⟨hr, hq⟩

/-- One more check before the packet is offered. -/
theorem Appends.guard {Takes Guard : Prop} {packet : WritePacket} {result : WriteError}
    {before after : List WritePacket} (h : Guard → Appends Takes packet result before after)
    (hrefused : ¬Guard → result ≠ .none ∧ after = before) :
    Appends (Guard ∧ Takes) packet result before after := by
  constructor
  · rintro ⟨hg, ht⟩
    exact (h hg).taken ht
  · intro hn
    by_cases hg : Guard
    · exact (h hg).refused fun ht => hn ⟨hg, ht⟩
    · exact hrefused hg

/-! ## Honest results -/

/-- What the caller may rely on. With `none` one packet has been appended, and
it is received as the type and the buffer that were given; otherwise the queue
is as it was. -/
structure Honest (type : UInt8) (data : Span) (result : WriteError)
    (before after : List WritePacket) : Prop where
  accepted : result = .none → ∃ payload packet, data = .bytes payload ∧
    after = before ++ [packet] ∧ packet.Received type payload
  refused : result ≠ .none → after = before

theorem Appends.honest_iff {Takes : Prop} {type : UInt8} {payload : Bytes} {result : WriteError}
    {before after : List WritePacket}
    (h : Appends Takes (.ofData type payload) result before after) :
    Honest type (.bytes payload) result before after ↔ (Takes → payload.length ≤ 65534) := by
  constructor
  · intro hh ht
    obtain ⟨hr, ha⟩ := h.taken ht
    obtain ⟨payload', packet, hp, ha', hreceived⟩ := hh.accepted hr
    cases hp
    rw [ha, List.append_cancel_left_eq] at ha'
    cases ha'
    exact (WritePacket.received_iff type payload).mp hreceived
  · intro hfits
    constructor
    · intro hr
      by_cases ht : Takes
      · exact ⟨payload, _, rfl, (h.taken ht).2,
          (WritePacket.received_iff type payload).mpr (hfits ht)⟩
      · exact absurd hr (h.refused ht).1
    · intro hr
      by_cases ht : Takes
      · exact absurd (h.taken ht).1 hr
      · exact (h.refused ht).2

theorem honest_of_refused {type : UInt8} {data : Span} {result : WriteError}
    {before after : List WritePacket} (hr : result ≠ .none) (ha : after = before) :
    Honest type data result before after :=
  ⟨fun h => absurd h hr, fun _ => ha⟩

/-! ## The client -/

namespace ClientSide

def TcpConnection.TakesData (t : TcpConnection) : Prop :=
  t.state.state = .loggedIn ∧ t.socket.Takes

def TcpConnection.TakesDebug (t : TcpConnection) : Prop :=
  ¬(t.state.state = .connecting ∨ t.state.isClosing = true) ∧ t.socket.Takes

theorem TcpConnection.appends_sendPacket (t : TcpConnection) (packet : WritePacket) :
    Appends t.TakesData packet (t.sendPacket packet).1 t.socket.writePackets
      (t.sendPacket packet).2.socket.writePackets := by
  apply Appends.guard
  · intro hs
    have h := t.socket.appends_asyncWrite packet
    unfold sendPacket
    rw [if_neg (fun hn => hn hs)]
    dsimp only
    split <;> exact h
  · intro hs
    unfold sendPacket
    rw [if_pos hs]
    exact ⟨by simp, rfl⟩

theorem TcpConnection.appends_sendDebugPacket (t : TcpConnection) (text : Bytes) :
    Appends t.TakesDebug (.ofData DebugPacket.packetType text) (t.sendDebugPacket text).1
      t.socket.writePackets (t.sendDebugPacket text).2.socket.writePackets := by
  apply Appends.guard
  · intro hs
    unfold sendDebugPacket
    rw [if_neg hs]
    exact t.socket.appends_asyncWrite _
  · intro hs
    unfold sendDebugPacket
    rw [if_pos (not_not.mp hs)]
    exact ⟨by simp, rfl⟩

namespace Connection

/-- The write queue of the connection's socket. -/
def queue (conn : Connection) : List WritePacket :=
  (conn.connection.map (·.socket.writePackets)).getD []

/-- There is a `Tcp_connection`, and it takes a packet. -/
def Takes (takes : TcpConnection → Prop) (conn : Connection) : Prop :=
  ∃ t, conn.connection = some t ∧ takes t

theorem appends_sendWith {takes : TcpConnection → Prop} {packet : WritePacket}
    {send : TcpConnection → WriteError × TcpConnection}
    (hsend : ∀ t, Appends (takes t) packet (send t).1 t.socket.writePackets
      (send t).2.socket.writePackets) (conn : Connection) :
    Appends (conn.Takes takes) packet (conn.sendWith send).1 conn.queue
      (conn.sendWith send).2.queue := by
  cases ht : conn.connection with
  | none =>
    constructor
    · rintro ⟨t, h, -⟩
      rw [ht] at h
      cases h
    · intro _
      simp [sendWith, ht]
  | some t =>
    have hiff : conn.Takes takes ↔ takes t := by
      constructor
      · rintro ⟨u, hu, h⟩
        rw [ht] at hu
        cases hu
        exact h
      · exact fun h => ⟨t, ht, h⟩
    have h := hsend t
    simp only [sendWith, queue, ht, Option.map_some, Option.getD_some]
    exact ⟨fun hc => h.taken (hiff.mp hc), fun hc => h.refused fun ht => hc (hiff.mpr ht)⟩

/-- `send_message` is honest unless a connection that takes data gets too much. -/
theorem honest_sendMessage (conn : Connection) (data : Span) :
    Honest UnsequencedDataPacket.packetType data (conn.sendMessage data).1 conn.queue
        (conn.sendMessage data).2.queue ↔
      ((∃ payload, data = .bytes payload) → conn.hasSessionEnded = false →
        conn.Takes TcpConnection.TakesData → data.size ≤ 65534) := by
  by_cases hz : data.size = 0
  · constructor
    · intro _ _ _ _
      omega
    · intro _
      apply honest_of_refused <;> simp [sendMessage, hz]
  · cases data with
    | null size =>
      constructor
      · rintro - ⟨payload, hp⟩
        cases hp
      · intro _
        apply honest_of_refused <;> simp [sendMessage, hz]
    | bytes payload =>
      have happends : Appends (conn.hasSessionEnded = false ∧ conn.Takes TcpConnection.TakesData)
          (.ofData UnsequencedDataPacket.packetType payload)
          (conn.sendMessage (.bytes payload)).1 conn.queue
          (conn.sendMessage (.bytes payload)).2.queue := by
        simp only [sendMessage, if_neg hz]
        apply Appends.guard
        · intro he
          simp only [Connection.sendPacket, he, Bool.false_eq_true, ↓reduceIte]
          exact conn.appends_sendWith fun t => t.appends_sendPacket _
        · intro he
          simp only [Bool.not_eq_false] at he
          simp [Connection.sendPacket, he]
      rw [happends.honest_iff]
      constructor
      · exact fun h _ he ht => h ⟨he, ht⟩
      · exact fun h ht => h ⟨payload, rfl⟩ ht.1 ht.2

theorem honest_sendDebug (conn : Connection) (text : Bytes) :
    Honest DebugPacket.packetType (.bytes text) (conn.sendDebug text).1 conn.queue
        (conn.sendDebug text).2.queue ↔
      (conn.Takes TcpConnection.TakesDebug → text.length ≤ 65534) := by
  by_cases hz : text = []
  · subst hz
    constructor
    · intro _ _
      simp
    · intro _
      apply honest_of_refused <;> simp [sendDebug]
  · have happends := conn.appends_sendWith fun t => t.appends_sendDebugPacket text
    rw [sendDebug, if_neg hz]
    exact happends.honest_iff

end Connection
end ClientSide

/-! ## The server -/

namespace ServerSide

def TcpConnection.TakesData (t : TcpConnection) : Prop :=
  t.state.state = .loggedIn ∧ t.socket.Takes

def TcpConnection.TakesDebug (t : TcpConnection) : Prop :=
  ¬(t.state.state = .connecting ∨ t.state.isClosing = true) ∧ t.socket.Takes

theorem TcpConnection.appends_sendPacket (t : TcpConnection) (packet : WritePacket) :
    Appends t.TakesData packet (t.sendPacket packet).1 t.socket.writePackets
      (t.sendPacket packet).2.socket.writePackets := by
  apply Appends.guard
  · intro hs
    have h := t.socket.appends_asyncWrite packet
    unfold sendPacket
    rw [if_neg (fun hn => hn hs)]
    dsimp only
    split <;> exact h
  · intro hs
    unfold sendPacket
    rw [if_pos hs]
    exact ⟨by simp, rfl⟩

theorem TcpConnection.appends_sendDebugPacket (t : TcpConnection) (text : Bytes) :
    Appends t.TakesDebug (.ofData DebugPacket.packetType text) (t.sendDebugPacket text).1
      t.socket.writePackets (t.sendDebugPacket text).2.socket.writePackets := by
  apply Appends.guard
  · intro hs
    unfold sendDebugPacket
    rw [if_neg hs]
    exact t.socket.appends_asyncWrite _
  · intro hs
    unfold sendDebugPacket
    rw [if_pos (not_not.mp hs)]
    exact ⟨by simp, rfl⟩

namespace Acceptor

/-- The write queue of the connection `k`. -/
def queue (k : Nat) (s : Acceptor) : List WritePacket :=
  ((s.tcp? k).map (·.socket.writePackets)).getD []

/-- The connection that the port points to. -/
def portConnection (p : Nat) (s : Acceptor) : Option Nat := s.ports[p]?.bind (·.connection)

/-- The write queue behind the port. -/
def portQueue (p : Nat) (s : Acceptor) : List WritePacket :=
  ((s.portConnection p).map (s.queue ·)).getD []

def portNumber (p : Nat) (s : Acceptor) : Option Nat := s.ports[p]?.map (·.nextSequenceNumber)

/-- The port points to a connection that takes a packet. -/
def Takes (takes : TcpConnection → Prop) (connection : Option Nat) (s : Acceptor) : Prop :=
  ∃ k t, connection = some k ∧ s.tcp? k = some t ∧ takes t

/-- A packet goes to the connection of the port and to no other. -/
structure SentTo (connection : Option Nat) (s s' : Acceptor) : Prop where
  ports : s'.ports = s.ports
  others : ∀ j, connection ≠ some j → s'.queue j = s.queue j

theorem sentTo_sendWith (send : TcpConnection → WriteError × TcpConnection)
    (connection : Option Nat) (s : Acceptor) :
    SentTo connection s (s.sendWith send connection).2 := by
  unfold sendWith
  split
  · exact ⟨rfl, fun _ _ => rfl⟩
  · split
    · exact ⟨rfl, fun _ _ => rfl⟩
    · constructor
      · rfl
      · intro j hj
        have hne : _ ≠ j := fun h => hj (congrArg some h)
        simp only [queue, tcp?_updateTcp, if_neg hne]

theorem appends_sendWith {takes : TcpConnection → Prop} {packet : WritePacket}
    {send : TcpConnection → WriteError × TcpConnection}
    (hsend : ∀ t, Appends (takes t) packet (send t).1 t.socket.writePackets
      (send t).2.socket.writePackets) (connection : Option Nat) (s : Acceptor) :
    Appends (s.Takes takes connection) packet (s.sendWith send connection).1
      ((connection.map (s.queue ·)).getD [])
      ((connection.map ((s.sendWith send connection).2.queue ·)).getD []) := by
  cases connection with
  | none =>
    constructor
    · rintro ⟨k, t, h, -⟩
      cases h
    · intro _
      exact ⟨by simp [sendWith], rfl⟩
  | some k =>
    cases ht : s.tcp? k with
    | none =>
      constructor
      · rintro ⟨j, t, h, htcp, -⟩
        cases h
        rw [ht] at htcp
        cases htcp
      · intro _
        simp [sendWith, ht]
    | some t =>
      have hiff : s.Takes takes (some k) ↔ takes t := by
        constructor
        · rintro ⟨j, u, h, hu, htakes⟩
          cases h
          rw [ht] at hu
          cases hu
          exact htakes
        · exact fun h => ⟨k, t, rfl, ht, h⟩
      have h := hsend t
      simp only [sendWith, ht, queue, Option.map_some, Option.getD_some, tcp?_updateTcp,
        ↓reduceIte]
      exact ⟨fun hc => h.taken (hiff.mp hc), fun hc => h.refused fun ht => hc (hiff.mpr ht)⟩

/-- What the caller may rely on: the queue behind the port is honest, no other
queue changes, and the port counts only what has been accepted. -/
structure Reliable (p : Nat) (type : UInt8) (data : Span) (result : WriteError) (s s' : Acceptor) :
    Prop where
  queue : Honest type data result (s.portQueue p) (s'.portQueue p)
  others : ∀ k, s.portConnection p ≠ some k → s'.queue k = s.queue k
  number : result ≠ .none → s'.portNumber p = s.portNumber p

theorem reliable_self {p : Nat} {type : UInt8} {data : Span} {result : WriteError} {s : Acceptor}
    (hr : result ≠ .none) : s.Reliable p type data result s :=
  ⟨honest_of_refused hr rfl, fun _ _ => rfl, fun _ => rfl⟩

/-- What is sent leaves the port pointing to the same connection. -/
theorem portQueue_eq {p : Nat} {s s' : Acceptor} (hc : s'.portConnection p = s.portConnection p) :
    s'.portQueue p = ((s.portConnection p).map (s'.queue ·)).getD [] := by
  rw [portQueue, hc]

theorem portConnection_countMessage (p : Nat) (s : Acceptor) :
    (s.updatePort p Port.countMessage).portConnection p = s.portConnection p := by
  simp only [portConnection, updatePort, List.getElem?_modify]
  cases s.ports[p]? <;> rfl

/-- `Port::send_message` is reliable unless a connection that takes data gets too much. -/
theorem reliable_sendMessage (p : Nat) (s : Acceptor) (data : Span) :
    s.Reliable p SequencedDataPacket.packetType data (s.sendMessage p data).1
        (s.sendMessage p data).2 ↔
      ((∃ payload, data = .bytes payload) → s.ports[p]?.map (·.hasSessionEnded) = some false →
        s.Takes TcpConnection.TakesData (s.portConnection p) → data.size ≤ 65534) := by
  by_cases hz : data.size = 0
  · have hr : s.sendMessage p data = (.emptyBuffer, s) := by simp [sendMessage, hz]
    rw [hr]
    constructor
    · intro _ _ _ _
      omega
    · exact fun _ => reliable_self (by simp)
  · cases data with
    | null size =>
      have hr : s.sendMessage p (.null size) = (.nullBuffer, s) := by simp [sendMessage, hz]
      rw [hr]
      constructor
      · rintro - ⟨payload, hp⟩
        cases hp
      · exact fun _ => reliable_self (by simp)
    | bytes payload =>
      cases hp : s.ports[p]? with
      | none =>
        have hr : s.sendMessage p (.bytes payload) = (.disconnected, s) := by
          simp [sendMessage, hz, Acceptor.sendPacket, hp]
        rw [hr]
        constructor
        · intro _ _ he
          cases he
        · exact fun _ => reliable_self (by simp)
      | some port =>
        cases he : port.hasSessionEnded with
        | true =>
          have hr : s.sendMessage p (.bytes payload) = (.sessionEnded, s) := by
            simp [sendMessage, hz, Acceptor.sendPacket, hp, he]
          rw [hr]
          constructor
          · intro _ _ h
            simp [he] at h
          · exact fun _ => reliable_self (by simp)
        | false =>
          have happends := s.appends_sendWith (fun t => t.appends_sendPacket
            (.ofData SequencedDataPacket.packetType payload)) port.connection
          have hsent := s.sentTo_sendWith
            (·.sendPacket (.ofData SequencedDataPacket.packetType payload)) port.connection
          have hconn : s.portConnection p = port.connection := by simp [portConnection, hp]
          have hr : s.sendMessage p (.bytes payload) =
              let r := s.sendWith
                (·.sendPacket (.ofData SequencedDataPacket.packetType payload)) port.connection
              (r.1, if r.1 = .none then r.2.updatePort p Port.countMessage else r.2) := by
            simp only [sendMessage, if_neg hz, Acceptor.sendPacket, hp, he, Bool.false_eq_true,
              ↓reduceIte]
            split <;> rfl
          rw [hr]
          dsimp only
          generalize s.sendWith
            (·.sendPacket (.ofData SequencedDataPacket.packetType payload)) port.connection = r
            at happends hsent ⊢
          have hsame : r.2.portConnection p = s.portConnection p := by
            rw [portConnection, hsent.ports, portConnection]
          have hafter : (if r.1 = .none then r.2.updatePort p Port.countMessage else
              r.2).portConnection p = s.portConnection p := by
            split
            · exact (portConnection_countMessage p r.2).trans hsame
            · exact hsame
          have hqueue (k : Nat) : (if r.1 = .none then r.2.updatePort p Port.countMessage else
              r.2).queue k = r.2.queue k := by
            split <;> rfl
          have hiff := happends.honest_iff
          constructor
          · intro h _ _ ht
            have hq := h.queue
            rw [portQueue_eq hafter, portQueue, hconn] at hq
            simp only [hqueue] at hq
            rw [hconn] at ht
            exact hiff.mp hq ht
          · intro h
            constructor
            · rw [portQueue_eq hafter, portQueue, hconn]
              simp only [hqueue]
              apply hiff.mpr
              intro ht
              exact h ⟨payload, rfl⟩ (by simp [he]) (by rw [hconn]; exact ht)
            · intro k hk
              rw [hqueue]
              exact hsent.others k (by rw [← hconn]; exact hk)
            · intro hn
              rw [if_neg hn, portNumber, hsent.ports, portNumber]

theorem reliable_sendDebug (p : Nat) (s : Acceptor) (text : Bytes) :
    s.Reliable p DebugPacket.packetType (.bytes text) (s.sendDebug p text).1
        (s.sendDebug p text).2 ↔
      (s.Takes TcpConnection.TakesDebug (s.portConnection p) → text.length ≤ 65534) := by
  by_cases hz : text = []
  · have hr : s.sendDebug p text = (.emptyBuffer, s) := by simp [sendDebug, hz]
    rw [hr]
    constructor
    · intro _ _
      simp [hz]
    · exact fun _ => reliable_self (by simp)
  · cases hp : s.ports[p]? with
    | none =>
      have hr : s.sendDebug p text = (.disconnected, s) := by simp [sendDebug, hz, hp]
      rw [hr]
      constructor
      · rintro - ⟨k, t, h, -⟩
        simp [portConnection, hp] at h
      · exact fun _ => reliable_self (by simp)
    | some port =>
      have happends := s.appends_sendWith (fun t => t.appends_sendDebugPacket text) port.connection
      have hsent := s.sentTo_sendWith (·.sendDebugPacket text) port.connection
      have hconn : s.portConnection p = port.connection := by simp [portConnection, hp]
      have hr : s.sendDebug p text = s.sendWith (·.sendDebugPacket text) port.connection := by
        simp [sendDebug, hz, hp]
      rw [hr, hconn]
      generalize s.sendWith (·.sendDebugPacket text) port.connection = r at happends hsent ⊢
      have hsame : r.2.portConnection p = s.portConnection p := by
        rw [portConnection, hsent.ports, portConnection]
      have hiff := happends.honest_iff
      constructor
      · intro h ht
        have hq := h.queue
        rw [portQueue_eq hsame, portQueue, hconn] at hq
        exact hiff.mp hq ht
      · intro h
        constructor
        · rw [portQueue_eq hsame, portQueue, hconn]
          exact hiff.mpr h
        · intro k hk
          exact hsent.others k (by rw [← hconn]; exact hk)
        · intro _
          rw [portNumber, hsent.ports, portNumber]

end Acceptor
end ServerSide

/-! ## The result -/

/-- **A call to send is honest exactly if the buffer fits in a packet.** For each
of the four calls, in every state: the queue gets one packet, which is received
as it was given, or nothing at all and the port counts nothing, if and only if
the call is refused or the size is at most 65534. -/
theorem send_is_honest_iff_fits (conn : ClientSide.Connection) (s : ServerSide.Acceptor) (p : Nat)
    (data : Span) (text : Bytes) :
    (s.Reliable p SequencedDataPacket.packetType data (s.sendMessage p data).1
        (s.sendMessage p data).2 ↔
      ((∃ payload, data = .bytes payload) → s.ports[p]?.map (·.hasSessionEnded) = some false →
        s.Takes ServerSide.TcpConnection.TakesData (s.portConnection p) → data.size ≤ 65534)) ∧
    (Honest UnsequencedDataPacket.packetType data (conn.sendMessage data).1 conn.queue
        (conn.sendMessage data).2.queue ↔
      ((∃ payload, data = .bytes payload) → conn.hasSessionEnded = false →
        conn.Takes ClientSide.TcpConnection.TakesData → data.size ≤ 65534)) ∧
    (s.Reliable p DebugPacket.packetType (.bytes text) (s.sendDebug p text).1
        (s.sendDebug p text).2 ↔
      (s.Takes ServerSide.TcpConnection.TakesDebug (s.portConnection p) → text.length ≤ 65534)) ∧
    (Honest DebugPacket.packetType (.bytes text) (conn.sendDebug text).1 conn.queue
        (conn.sendDebug text).2.queue ↔
      (conn.Takes ClientSide.TcpConnection.TakesDebug → text.length ≤ 65534)) :=
  ⟨s.reliable_sendMessage p data, conn.honest_sendMessage data, s.reliable_sendDebug p text,
    conn.honest_sendDebug text⟩

/-- A message of 65535 bytes is taken, but its length field is 0. -/
theorem message_too_long :
    let t : ClientSide.TcpConnection :=
      { handlerSet := true, socket := { isOpen := true }, state := { state := .loggedIn } }
    let conn : ClientSide.Connection := { endpoint := 1, connection := some t }
    let data : Bytes := List.replicate 65535 7
    (conn.sendMessage (.bytes data)).1 = .none ∧
      ¬Honest UnsequencedDataPacket.packetType (.bytes data) (conn.sendMessage (.bytes data)).1
        conn.queue (conn.sendMessage (.bytes data)).2.queue := by
  intro t conn data
  have htakes : conn.Takes ClientSide.TcpConnection.TakesData :=
    ⟨t, rfl, rfl, rfl, by simp [t]⟩
  have hlen : data.length = 65535 := List.length_replicate
  constructor
  · have hz : ¬(Span.bytes data).size = 0 := by simp [Span.size, hlen]
    have happends := conn.appends_sendWith fun t => t.appends_sendPacket
      (.ofData UnsequencedDataPacket.packetType data)
    have hr : conn.sendMessage (.bytes data) =
        conn.sendWith (·.sendPacket (.ofData UnsequencedDataPacket.packetType data)) := by
      simp [ClientSide.Connection.sendMessage, ClientSide.Connection.sendPacket, hz, conn]
    rw [hr]
    exact (happends.taken htakes).1
  · intro h
    have hfits := (conn.honest_sendMessage (.bytes data)).mp h ⟨data, rfl⟩ rfl htakes
    rw [Span.size, hlen] at hfits
    omega

end SoupBin
