import SoupBin.LogicalPackets
import SoupBin.Socket
import SoupBin.Timers

/-!
# The client: state

A `Client` owns its `Connection`s, and each of these has a slot for one
`Tcp_connection`. Functions that stay inside one object are functions of that
object. What reaches a handler goes through the whole client, since the user may
call the library again from inside a callback.
-/

namespace SoupBin.ClientSide

/-! ## Tcp_connection -/

structure TcpConnection where
  handlerSet : Bool
  socket : Socket
  state : ConnectionState := {}
  loginTimer : LoginTimer := {}
  heartbeatTimer : HeartbeatTimer := { timeout := serverHeartbeatTimeout }
  socketClosed : Bool := false
  loginTimerStopped : Bool := true
  heartbeatTimerStopped : Bool := true
  deriving DecidableEq, Repr

namespace TcpConnection

def disconnect (reason : DisconnectReason) (t : TcpConnection) : TcpConnection :=
  let (stateChanged, state) := t.state.disconnect reason
  if stateChanged then
    { t with
      state := state
      socket := t.socket.close
      loginTimer := t.loginTimer.stop
      heartbeatTimer := t.heartbeatTimer.stop }
  else t

def close (t : TcpConnection) : TcpConnection := t.disconnect .userInitiated

def updateSocket (f : Socket → Socket) (t : TcpConnection) : TcpConnection :=
  { t with socket := f t.socket }

def asyncWrite (packet : WritePacket) (t : TcpConnection) : WriteError × TcpConnection :=
  let (error, socket) := t.socket.asyncWrite packet
  (error, { t with socket := socket })

/-- A write whose result is discarded. -/
def writeBestEffort (packet : WritePacket) (t : TcpConnection) : TcpConnection :=
  (t.asyncWrite packet).2

def sendPacket (packet : WritePacket) (t : TcpConnection) : WriteError × TcpConnection :=
  if t.state.state ≠ .loggedIn then (.notLoggedIn, t)
  else
    let (error, t) := t.asyncWrite packet
    if packet.packetType = UnsequencedDataPacket.packetType ∧ error = .none then
      (error, { t with heartbeatTimer := t.heartbeatTimer.incrementSendCount })
    else (error, t)

def sendDebugPacket (text : Bytes) (t : TcpConnection) : WriteError × TcpConnection :=
  if t.state.state = .connecting ∨ t.state.isClosing then (.disconnected, t)
  else t.asyncWrite (.ofData DebugPacket.packetType text)

def setState (state : State) (t : TcpConnection) : TcpConnection :=
  { t with state := t.state.setState state }

def updateLoginTimer (f : LoginTimer → LoginTimer) (t : TcpConnection) : TcpConnection :=
  { t with loginTimer := f t.loginTimer }

def updateHeartbeatTimer (f : HeartbeatTimer → HeartbeatTimer) (t : TcpConnection) :
    TcpConnection :=
  { t with heartbeatTimer := f t.heartbeatTimer }

def setLoginTimerStopped (stopped : Bool) (t : TcpConnection) : TcpConnection :=
  { t with loginTimerStopped := stopped }

def setHeartbeatTimerStopped (stopped : Bool) (t : TcpConnection) : TcpConnection :=
  { t with heartbeatTimerStopped := stopped }

/-! The posted notifications, when they have come. -/

def noteClosed (t : TcpConnection) : TcpConnection :=
  { t with socketClosed := true, socket := t.socket.notified }

def noteLoginTimerStopped (t : TcpConnection) : TcpConnection :=
  { t with loginTimerStopped := true, loginTimer := t.loginTimer.notified }

def noteHeartbeatTimerStopped (t : TcpConnection) : TcpConnection :=
  { t with heartbeatTimerStopped := true, heartbeatTimer := t.heartbeatTimer.notified }

end TcpConnection

/-! ## Connection -/

structure Connection where
  handlerSet : Bool := true
  endpoint : Nat
  username : Bytes := []
  password : Bytes := []
  session : Bytes := []
  nextSequenceNumber : Nat := 1
  hasSessionEnded : Bool := false
  connection : Option TcpConnection := none
  reconnectTimer : ReconnectTimer := {}
  reconnectNextDelay : Nat := 0
  deriving DecidableEq, Repr

/-- In seconds. -/
def reconnectInitialDelay : Nat := 1
def reconnectMaxDelay : Nat := 30
def reconnectDelayMultiplier : Nat := 2

def isRetryable : DisconnectReason → Bool
  | .peerClosed | .connectFailure | .transportError | .loginTimeout | .heartbeatTimeout => true
  | .none | .userInitiated | .superseded | .logoutRequest | .accessDenied | .sessionMismatch
  | .sequenceNumberAheadOfSession | .sequenceNumberTooLow | .sequenceNumberTooHigh
  | .protocolViolation | .unmanagedAbort => false

namespace Connection

def setHandler (conn : Connection) : Connection := { conn with handlerSet := true }

def setUsername (username : Bytes) (conn : Connection) : Option Error × Connection :=
  match validateUsername username with
  | some ec => (some ec, conn)
  | none => (none, { conn with username := username })

def setPassword (password : Bytes) (conn : Connection) : Option Error × Connection :=
  match validatePassword password with
  | some ec => (some ec, conn)
  | none => (none, { conn with password := password })

def setSession (session : Bytes) (conn : Connection) : Option Error × Connection :=
  match validateSession session with
  | some ec => (some ec, conn)
  | none => (none, { conn with session := session })

/-- `if (connection_) connection_->f()`. -/
def updateTcp (f : TcpConnection → TcpConnection) (conn : Connection) : Connection :=
  { conn with connection := conn.connection.map f }

def updateReconnectTimer (f : ReconnectTimer → ReconnectTimer) (conn : Connection) : Connection :=
  { conn with reconnectTimer := f conn.reconnectTimer }

def close (conn : Connection) : Connection :=
  { (conn.updateTcp TcpConnection.close).updateReconnectTimer ReconnectTimer.stop with
    reconnectNextDelay := 0 }

/-- Let the `Tcp_connection` send something, if there is one. -/
def sendWith (send : TcpConnection → WriteError × TcpConnection) (conn : Connection) :
    WriteError × Connection :=
  match conn.connection with
  | none => (.disconnected, conn)
  | some t =>
    let (error, t) := send t
    (error, { conn with connection := some t })

def sendPacket (packet : WritePacket) (conn : Connection) : WriteError × Connection :=
  if conn.hasSessionEnded then (.sessionEnded, conn)
  else conn.sendWith (·.sendPacket packet)

def sendMessage (data : Span) (conn : Connection) : WriteError × Connection :=
  if data.size = 0 then (.emptyBuffer, conn)
  else
    match data with
    | .null _ => (.nullBuffer, conn)
    | .bytes data => conn.sendPacket (.ofData UnsequencedDataPacket.packetType data)

def sendLogoutRequest (conn : Connection) : WriteError × Connection :=
  conn.sendWith (·.sendPacket (.ofType LogoutRequestPacket.packetType))

def sendDebug (text : Bytes) (conn : Connection) : WriteError × Connection :=
  if text = [] then (.emptyBuffer, conn) else conn.sendWith (·.sendDebugPacket text)

/-- What the slot holds. -/
def setConnection (connection : Option TcpConnection) (conn : Connection) : Connection :=
  { conn with connection := connection }

def setNextSequenceNumber (nextSequenceNumber : Nat) (conn : Connection) : Connection :=
  { conn with nextSequenceNumber := nextSequenceNumber }

def setSessionEnded (conn : Connection) : Connection := { conn with hasSessionEnded := true }

/-- The end of `on_login_success`: the response is taken. -/
def accept (response : LoginAcceptedPacket) (conn : Connection) : Connection :=
  { conn with
    session := response.session
    nextSequenceNumber := response.nextSequenceNumber
    reconnectNextDelay := 0 }

/-- The delay for the next reconnect, and the one after it. -/
def nextDelay (conn : Connection) : Connection :=
  { conn with
    reconnectNextDelay :=
      if conn.reconnectNextDelay = 0 then reconnectInitialDelay
      else min (conn.reconnectNextDelay * reconnectDelayMultiplier) reconnectMaxDelay }

end Connection

/-! ## Client -/

/-- `Connection_handler`. -/
inductive ConnectionCallback where
  | connecting (endpoint : Nat)
  | connectFailure (ec : IoError) (operation : String)
  | connectSuccess
  | loggingIn (request : LoginRequestPacket)
  | loginFailure (reason : LoginRejectReason)
  | loginSuccess (response : LoginAcceptedPacket)
  | writeBufferEmpty
  | debug (text : Bytes)
  | transportError (ec : IoError) (operation : String)
  | protocolViolation (error : PacketError)
  | disconnect (reason : DisconnectReason)
  | reconnectScheduled (delay : Nat)
  deriving DecidableEq, Repr

/-- `Connection_handler` of the connection `i`, and `Client_handler`. -/
inductive Callback where
  | connection (i : Nat) (cb : ConnectionCallback)
  | sequencedData (sequenceNumber : Nat) (data : Bytes)
  | endOfSession
  deriving DecidableEq, Repr

/-- What is recorded of a run: the calls to handlers, the calls of `connect`, by
the user or by `start`, the returns of `close`, with the reason that is recorded
then, and steps inside the library that the handlers do not see. -/
inductive Entry where
  | called (handlerSet : Bool) (cb : Callback)
  | connectCalled (i : Nat)
  | closeReturned (i : Nat) (reason : Option DisconnectReason)
  | constructed (i : Nat)
  | onClosed (i : Nat)
  | accepted (i : Nat) (response : LoginAcceptedPacket)
  | arrived (sequenceNumber : Nat) (data : Bytes)
  | assertionFailed
  deriving DecidableEq, Repr

/-- The two functions that are posted to the executor. -/
inductive Posted where
  | start
  | stop
  deriving DecidableEq, Repr

structure Client where
  handlerSet : Bool := true
  writePacketsLimit : Nat := 100
  connections : List Connection := []
  nextSequenceNumber : Nat := 1
  hasSessionEnded : Bool := false
  started : Bool := false
  posted : List Posted := []
  trace : List Entry := []
  deriving DecidableEq, Repr

/-- What the user does when a callback comes. -/
abbrev User := Callback → Client → Client

namespace Client

def log (entry : Entry) (c : Client) : Client := { c with trace := c.trace ++ [entry] }

/-- Call a handler through a pointer that may be null. -/
def notify (user : User) (handlerSet : Bool) (cb : Callback) (c : Client) : Client :=
  let c := c.log (.called handlerSet cb)
  if handlerSet then user cb c else c

def updateConnection (i : Nat) (f : Connection → Connection) (c : Client) : Client :=
  { c with connections := c.connections.modify i f }

def updateTcp (i : Nat) (f : TcpConnection → TcpConnection) (c : Client) : Client :=
  c.updateConnection i (·.updateTcp f)

def tcp? (i : Nat) (c : Client) : Option TcpConnection :=
  c.connections[i]?.bind (·.connection)

section
variable (c : Client) (i : Nat) (f : Connection → Connection)

theorem getElem?_updateConnection (j : Nat) :
    (c.updateConnection i f).connections[j]? =
      if i = j then c.connections[j]?.map f else c.connections[j]? := by
  unfold updateConnection
  rw [List.getElem?_modify]
  split <;> simp

@[simp] theorem updateConnection_trace : (c.updateConnection i f).trace = c.trace := rfl

@[simp] theorem updateConnection_started : (c.updateConnection i f).started = c.started := rfl

@[simp] theorem updateConnection_nextSequenceNumber :
    (c.updateConnection i f).nextSequenceNumber = c.nextSequenceNumber := rfl

end

/-! ### Called by Connection -/

def setNextSequenceNumber (nextSequenceNumber : Nat) (c : Client) : Client :=
  { c with nextSequenceNumber := nextSequenceNumber }

def onSequencedData (user : User) (sequenceNumber : Nat) (data : Bytes) (c : Client) : Client :=
  let c := c.log (.arrived sequenceNumber data)
  if sequenceNumber < c.nextSequenceNumber then c
  else if sequenceNumber ≠ c.nextSequenceNumber then c.log .assertionFailed
  else
    let c := c.setNextSequenceNumber ((sequenceNumber + 1) % 2 ^ 64)
    c.notify user c.handlerSet (.sequencedData sequenceNumber data)

def onEndOfSession (user : User) (c : Client) : Client :=
  if c.hasSessionEnded then c
  else { c with hasSessionEnded := true }.notify user c.handlerSet .endOfSession

/-! ### Sending on all connections -/

def priorityError (errors : List WriteError) : WriteError :=
  if .none ∈ errors then .none
  else if .bufferFull ∈ errors then .bufferFull
  else if .notLoggedIn ∈ errors then .notLoggedIn
  else .disconnected

/-- Offer a packet to every connection in turn. -/
def offer (packet : WritePacket) : List Connection → List WriteError × List Connection
  | [] => ([], [])
  | conn :: rest =>
    let (error, conn) := conn.sendPacket packet
    let (errors, rest) := offer packet rest
    (error :: errors, conn :: rest)

def sendOne (packet : WritePacket) (c : Client) : WriteError × Client :=
  match c.connections with
  | [conn] =>
    let (error, conn) := conn.sendPacket packet
    (error, { c with connections := [conn] })
  | _ => (.disconnected, c.log .assertionFailed)

def sendTwo (packet : WritePacket) (c : Client) : WriteError × Client :=
  match c.connections with
  | [connection1, connection2] =>
    let copy := packet.clone
    let (error1, connection1) := connection1.sendPacket packet
    let (error2, connection2) := connection2.sendPacket copy
    (priorityError [error1, error2], { c with connections := [connection1, connection2] })
  | _ => (.disconnected, c.log .assertionFailed)

/-- All but the last connection are offered a copy. -/
def sendMultiple (packet : WritePacket) (c : Client) : WriteError × Client :=
  match c.connections.getLast? with
  | none => (.disconnected, c)
  | some back =>
    let (errors, front) := offer packet.clone c.connections.dropLast
    let (error, back) := back.sendPacket packet
    (priorityError (errors ++ [error]), { c with connections := front ++ [back] })

def sendPacket (packet : WritePacket) (c : Client) : WriteError × Client :=
  if c.hasSessionEnded then (.sessionEnded, c)
  else if c.connections.length = 1 then c.sendOne packet
  else if c.connections.length = 2 then c.sendTwo packet
  else c.sendMultiple packet

def sendMessage (data : Span) (c : Client) : WriteError × Client :=
  if data.size = 0 then (.emptyBuffer, c)
  else
    match data with
    | .null _ => (.nullBuffer, c)
    | .bytes data => c.sendPacket (.ofData UnsequencedDataPacket.packetType data)

def sendLogoutRequest (c : Client) : Client :=
  { c with connections := c.connections.map fun conn => conn.sendLogoutRequest.2 }

def sendDebug (text : Bytes) (c : Client) : Client :=
  { c with connections := c.connections.map fun conn => (conn.sendDebug text).2 }

theorem offer_eq (packet : WritePacket) (connections : List Connection) :
    offer packet connections =
      (connections.map fun conn => (conn.sendPacket packet).1,
        connections.map fun conn => (conn.sendPacket packet).2) := by
  induction connections with
  | nil => rfl
  | cons conn rest ih => simp [offer, ih]

/-- Whatever the number of connections, each of them is offered the packet. -/
theorem sendPacket_all (packet : WritePacket) {c : Client} (h : c.hasSessionEnded = false) :
    (c.sendPacket packet).2 =
      { c with connections := c.connections.map fun conn => (conn.sendPacket packet).2 } := by
  unfold sendPacket
  rw [if_neg (by simp [h])]
  split
  · rename_i h1
    obtain ⟨conn, hc⟩ := List.length_eq_one_iff.mp h1
    simp [sendOne, hc]
  · split
    · rename_i h2
      obtain ⟨conn1, conn2, hc⟩ := List.length_eq_two.mp h2
      simp [sendTwo, hc, WritePacket.clone]
    · unfold sendMultiple
      rcases List.eq_nil_or_concat c.connections with hn | ⟨front, back, hc⟩
      · simp [hn]
        rw [← hn]
      · simp [hc, offer_eq, WritePacket.clone]

/-! ### Set-up -/

def setHandler (c : Client) : Client := { c with handlerSet := true }

def setWritePacketsLimit (writePacketsLimit : Nat) (c : Client) : Client :=
  { c with writePacketsLimit := writePacketsLimit }

def addConnection (endpoint : Nat) (handlerSet : Bool) (c : Client) : Option Error × Client :=
  if c.connections.any fun conn => conn.endpoint = endpoint then (some .endpointInUse, c)
  else
    (none, { c with
      connections := c.connections ++ [{ endpoint := endpoint, handlerSet := handlerSet }] })

def start (c : Client) : Option Error × Client :=
  if !c.handlerSet then (some .handlerNotSet, c)
  else if c.connections.any fun conn => !conn.handlerSet then (some .handlerNotSet, c)
  else (none, { c with posted := c.posted ++ [.start] })

def stop (c : Client) : Client := { c with posted := c.posted ++ [.stop] }

end Client

end SoupBin.ClientSide
