import SoupBin.Client
import SoupBin.Transition

/-!
# The client: events

What a completion, a timer, a posted function or a call of the user does to the
client. Every function that reaches a handler takes the `user`, whose calls back
into the library are part of its effect.
-/

namespace SoupBin.ClientSide
namespace Client

/-- The calls into asio that failed during one event. -/
structure Faults where
  openSocket : Option IoError := none
  setNoDelay : Option IoError := none
  loginTimer : Option IoError := none
  heartbeatTimer : Option IoError := none
  heartbeatSchedule : Option IoError := none
  reconnectTimer : Option IoError := none

section
variable (user : User) (faults : Faults) (i : Nat)

/-! ## Connection -/

/-- A callback of the `Connection` itself. -/
def connectionCallback (cb : ConnectionCallback) (c : Client) : Client :=
  match c.connections[i]? with
  | none => c
  | some conn => c.notify user conn.handlerSet (.connection i cb)

/-- `connection_.emplace`, and the constructor of `Tcp_connection`. The slot is
not engaged before the constructor returns. -/
def emplace (c : Client) : Client :=
  match c.connections[i]? with
  | none => c
  | some conn =>
    let t : TcpConnection :=
      { handlerSet := conn.handlerSet, socket := { writePacketsLimit := c.writePacketsLimit } }
    let c := (c.updateConnection i (·.setConnection none)).log (.constructed i)
    let c := c.notify user conn.handlerSet (.connection i (.connecting conn.endpoint))
    let (t, c) :=
      match faults.openSocket with
      | some ec =>
        (t.disconnect .connectFailure,
          c.notify user conn.handlerSet (.connection i (.connectFailure ec "open")))
      | none =>
        let t := t.updateSocket Socket.openSocket
        match faults.setNoDelay with
        | some ec =>
          (t.disconnect .connectFailure,
            c.notify user conn.handlerSet (.connection i (.connectFailure ec "set_no_delay")))
        | none => (t.updateSocket Socket.asyncConnect, c)
    c.updateConnection i (·.setConnection (some t))

def connect (c : Client) : Client :=
  match c.connections[i]? with
  | none => c
  | some conn =>
    let c := c.log (.connectCalled i)
    if !c.started then c
    else if conn.connection.isSome then c
    else if conn.reconnectTimer.started then c
    else c.emplace user faults i

def reconnectTimerHandler : ReconnectTimer.Handler Client where
  timer c := (c.connections[i]?.map (·.reconnectTimer)).getD {}
  update f c := c.updateConnection i (·.updateReconnectTimer f)
  reconnectTimerError ec operation c := c.connectionCallback user i (.transportError ec operation)
  reconnectTimerExpired c := c.emplace user faults i

def scheduleReconnect (c : Client) : Client :=
  let delay := (c.connections[i]?.map (·.reconnectNextDelay)).getD 0
  let c := c.updateConnection i Connection.nextDelay
  let c := c.connectionCallback user i (.reconnectScheduled delay)
  (reconnectTimerHandler user faults i).start faults.reconnectTimer c

def onConnectSuccess (c : Client) : LoginRequestPacket × Client :=
  match c.connections[i]? with
  | none => ({}, c)
  | some conn =>
    let c := c.updateConnection i (·.setNextSequenceNumber c.nextSequenceNumber)
    (⟨conn.username, conn.password, conn.session, c.nextSequenceNumber⟩, c)

/-- The last part of `on_login_success`: the response is taken. -/
def acceptLogin (response : LoginAcceptedPacket) (c : Client) : Client :=
  (c.updateConnection i (·.accept response)).log (.accepted i response)

def onLoginSuccess (response : LoginAcceptedPacket) (c : Client) : DisconnectReason × Client :=
  match c.connections[i]? with
  | none => (.none, c)
  | some conn =>
    if conn.session ≠ [] ∧ response.session ≠ conn.session then (.sessionMismatch, c)
    else if conn.nextSequenceNumber ≠ 0 then
      if response.nextSequenceNumber < conn.nextSequenceNumber then (.sequenceNumberTooLow, c)
      else if response.nextSequenceNumber > conn.nextSequenceNumber then (.sequenceNumberTooHigh, c)
      else (.none, c.acceptLogin i response)
    else if c.nextSequenceNumber = 0 then
      (.none, (c.setNextSequenceNumber response.nextSequenceNumber).acceptLogin i response)
    else if response.nextSequenceNumber > c.nextSequenceNumber then
      (.sequenceNumberAheadOfSession, c)
    else (.none, c.acceptLogin i response)

/-- `Connection::on_sequenced_data`. -/
def connectionOnSequencedData (data : Bytes) (c : Client) : Client :=
  match c.connections[i]? with
  | none => c
  | some conn =>
    let sequenceNumber := conn.nextSequenceNumber
    let c := c.updateConnection i (·.setNextSequenceNumber ((sequenceNumber + 1) % 2 ^ 64))
    c.onSequencedData user sequenceNumber data

/-- `Connection::on_end_of_session`. -/
def connectionOnEndOfSession (c : Client) : Client :=
  match c.connections[i]? with
  | none => c
  | some conn =>
    if conn.hasSessionEnded then c
    else (c.updateConnection i Connection.setSessionEnded).onEndOfSession user

def onClosed (reason : DisconnectReason) (c : Client) : Client :=
  let c := (c.updateConnection i (·.setConnection none)).log (.onClosed i)
  let c := c.connectionCallback user i (.disconnect reason)
  if !c.started then c
  else if !isRetryable reason then c
  else c.scheduleReconnect user faults i

/-! ## Tcp_connection -/

/-- A callback of the `Tcp_connection`, which keeps the handler it was made with. -/
def tcpCallback (cb : ConnectionCallback) (c : Client) : Client :=
  match c.tcp? i with
  | none => c
  | some t => c.notify user t.handlerSet (.connection i cb)

def tcpState (c : Client) : ConnectionState := ((c.tcp? i).map (·.state)).getD {}

def tcpDisconnect (reason : DisconnectReason) (c : Client) : Client :=
  c.updateTcp i (·.disconnect reason)

def handleConnectFailure (ec : IoError) (operation : String) (c : Client) : Client :=
  (c.tcpCallback user i (.connectFailure ec operation)).tcpDisconnect i .connectFailure

def handleTransportError (ec : IoError) (operation : String) (c : Client) : Client :=
  (c.tcpCallback user i (.transportError ec operation)).tcpDisconnect i .transportError

def handleProtocolViolation (error : PacketError) (c : Client) : Client :=
  (c.tcpCallback user i (.protocolViolation error)).tcpDisconnect i .protocolViolation

def loginTimerHandler : LoginTimer.Handler Client where
  timer c := ((c.tcp? i).map (·.loginTimer)).getD {}
  update f c := c.updateTcp i (·.updateLoginTimer f)
  loginTimerError ec operation c := c.handleTransportError user i ec operation
  loginTimerExpired c := c.tcpDisconnect i .loginTimeout

def heartbeatTimerHandler : HeartbeatTimer.Handler Client where
  timer c := ((c.tcp? i).map (·.heartbeatTimer)).getD { timeout := serverHeartbeatTimeout }
  update f c := c.updateTcp i (·.updateHeartbeatTimer f)
  heartbeatTimerError ec operation c := c.handleTransportError user i ec operation
  heartbeatSendDue c :=
    c.updateTcp i (·.writeBestEffort (.ofType ClientHeartbeatPacket.packetType))
  heartbeatReceiveTimeout c := c.tcpDisconnect i .heartbeatTimeout

def connectSuccess (c : Client) : Client :=
  let c := c.updateTcp i (·.setState .connected)
  let c := c.tcpCallback user i .connectSuccess
  let (request, c) := c.onConnectSuccess i
  let c := c.tcpCallback user i (.loggingIn request)
  let c := c.updateTcp i (·.setLoginTimerStopped false)
  let c := (loginTimerHandler user i).start faults.loginTimer c
  let c := c.updateTcp i (·.updateSocket Socket.asyncRead)
  let packet := (WritePacket.ofSize LoginRequestPacket.packetType
    LoginRequestPacket.payloadSize).writePayload request.write
  c.updateTcp i (·.writeBestEffort packet)

def processLoginAccepted (data : Bytes) (c : Client) : PacketError × Client :=
  if data.length ≠ LoginAcceptedPacket.payloadSize then (.incorrectLength, c)
  else if (c.tcpState i).state ≠ .connected then (.unexpectedSequence, c)
  else
    let response := LoginAcceptedPacket.read data
    if response.nextSequenceNumber = 0 then (.invalidFieldValue, c)
    else
      let c := c.updateTcp i fun t => (t.updateLoginTimer LoginTimer.stop).setState .loggedIn
      let (reason, c) := c.onLoginSuccess i response
      if reason = .none then
        let c := c.tcpCallback user i (.loginSuccess response)
        let c := c.updateTcp i (·.setHeartbeatTimerStopped false)
        (.none, (heartbeatTimerHandler user i).start
          faults.heartbeatTimer faults.heartbeatSchedule c)
      else (.none, c.tcpDisconnect i reason)

/-- The reason for the user, from the one in the packet. -/
def convert (reason : LoginRejectedReason) : LoginRejectReason :=
  if reason = LoginRejectedReason.notAuthorized then .notAuthorized
  else if reason = LoginRejectedReason.sessionNotAvailable then .sessionNotAvailable
  else .invalidRejectReason

def processLoginRejected (data : Bytes) (c : Client) : PacketError × Client :=
  if data.length ≠ LoginRejectedPacket.payloadSize then (.incorrectLength, c)
  else if (c.tcpState i).state ≠ .connected then (.unexpectedSequence, c)
  else
    let response := LoginRejectedPacket.read data
    let c := c.updateTcp i (·.updateLoginTimer LoginTimer.stop)
    let c := c.tcpCallback user i (.loginFailure (convert response.reason))
    (.none, c.tcpDisconnect i .accessDenied)

def processSequencedData (data : Bytes) (c : Client) : PacketError × Client :=
  if (c.tcpState i).state ≠ .loggedIn then (.unexpectedSequence, c)
  else if (c.connections[i]?.map (·.hasSessionEnded)).getD false then (.unexpectedSequence, c)
  else (.none, (c.updateTcp i (·.updateHeartbeatTimer HeartbeatTimer.incrementReceiveCount)).connectionOnSequencedData user i data)

def processServerHeartbeat (size : Nat) (c : Client) : PacketError × Client :=
  if size ≠ ServerHeartbeatPacket.payloadSize then (.incorrectLength, c)
  else if (c.tcpState i).state ≠ .loggedIn then (.unexpectedSequence, c)
  else (.none, c.updateTcp i (·.updateHeartbeatTimer HeartbeatTimer.incrementReceiveCount))

def processEndOfSession (size : Nat) (c : Client) : PacketError × Client :=
  if size ≠ EndOfSessionPacket.payloadSize then (.incorrectLength, c)
  else if (c.tcpState i).state ≠ .loggedIn then (.unexpectedSequence, c)
  else (.none, (c.updateTcp i (·.updateHeartbeatTimer HeartbeatTimer.incrementReceiveCount)).connectionOnEndOfSession user i)

def processPacket (packet : ReadPacket) (c : Client) : PacketError × Client :=
  let data := packet.payload
  let size := packet.payloadSize
  let type := packet.packetType
  if type = DebugPacket.packetType then (.none, c.tcpCallback user i (.debug data))
  else if type = LoginAcceptedPacket.packetType then c.processLoginAccepted user faults i data
  else if type = LoginRejectedPacket.packetType then c.processLoginRejected user i data
  else if type = SequencedDataPacket.packetType then c.processSequencedData user i data
  else if type = ServerHeartbeatPacket.packetType then c.processServerHeartbeat i size
  else if type = EndOfSessionPacket.packetType then c.processEndOfSession user i size
  else (.invalidMessageType, c)

def readSuccess (packet : ReadPacket) (c : Client) : Client :=
  if (c.tcpState i).isClosing then c
  else
    let (error, c) := c.processPacket user faults i packet
    let c := if error ≠ .none then c.handleProtocolViolation user i error else c
    if (c.tcpState i).isClosing then c
    else c.updateTcp i (·.updateSocket Socket.asyncRead)

def socketHandler : Socket.Handler Client where
  socket c := ((c.tcp? i).map (·.socket)).getD {}
  update f c := c.updateTcp i (·.updateSocket f)
  connectFailure ec c := c.handleConnectFailure user i ec "async_connect"
  connectSuccess c := c.connectSuccess user faults i
  readFailure ec c := c.handleTransportError user i ec "socket async_read"
  readPacketFailure error c := c.handleProtocolViolation user i error
  readSuccess packet c := c.readSuccess user faults i packet
  readAborted c := c.tcpDisconnect i .unmanagedAbort
  readEndOfFile c := c.tcpDisconnect i .peerClosed
  writeFailure ec c := c.handleTransportError user i ec "socket async_write"
  writeSuccess _ c := c
  writeBufferEmpty c := c.tcpCallback user i .writeBufferEmpty

/-- `maybe_signal_closed` of the `Tcp_connection`. -/
def maybeSignalClosed (c : Client) : Client :=
  match c.tcp? i with
  | none => c
  | some t =>
    if t.socketClosed && t.loginTimerStopped && t.heartbeatTimerStopped then
      c.onClosed user faults i t.state.reason
    else c

/-! ## Posted notifications -/

def closed (c : Client) : Client :=
  (c.updateTcp i TcpConnection.noteClosed).maybeSignalClosed user faults i

def loginTimerStopped (c : Client) : Client :=
  (c.updateTcp i TcpConnection.noteLoginTimerStopped).maybeSignalClosed user faults i

def heartbeatTimerStopped (c : Client) : Client :=
  (c.updateTcp i TcpConnection.noteHeartbeatTimerStopped).maybeSignalClosed user faults i

end

/-! ## Posted start and stop -/

/-- The loop of `start` over the connections, those added meanwhile included:
`more` of them at most. -/
def connectFrom (user : User) (faults : Nat → Faults) : Nat → Nat → Client → Client
  | 0, _, c => c
  | more + 1, i, c => connectFrom user faults more (i + 1) (c.connect user (faults i) i)

def runPosted (user : User) (faults : Nat → Faults) (added : Nat) (posted : Posted) (c : Client) :
    Client :=
  match posted with
  | .start =>
    if c.started then c
    else
      connectFrom user faults (c.connections.length + added) 0 { c with started := true }
  | .stop =>
    if !c.started then c
    else
      let c := { c with started := false }
      { c with connections := c.connections.map Connection.close }

end Client

/-! ## The user -/

/-- The user closes the connection `i`. -/
def Client.close (i : Nat) (c : Client) : Client :=
  let c := c.updateConnection i Connection.close
  c.log (.closeReturned i ((c.tcp? i).map fun t => t.state.reason))

/-- A call of the user; the result it returns is left out. -/
inductive Call where
  | connect (i : Nat)
  | close (i : Nat)
  | sendMessage (i : Nat) (data : Span)
  | sendLogoutRequest (i : Nat)
  | sendDebug (i : Nat) (text : Bytes)
  | setConnectionHandler (i : Nat)
  | setUsername (i : Nat) (username : Bytes)
  | setPassword (i : Nat) (password : Bytes)
  | setSession (i : Nat) (session : Bytes)
  | start
  | stop
  | sendMessageToAll (data : Span)
  | sendLogoutRequestToAll
  | sendDebugToAll (text : Bytes)
  | setHandler
  | setWritePacketsLimit (writePacketsLimit : Nat)
  | addConnection (endpoint : Nat) (handlerSet : Bool)
  deriving DecidableEq, Repr

def Call.run (user : User) (faults : Nat → Client.Faults) (c : Client) : Call → Client
  | .connect i => c.connect user (faults i) i
  | .close i => c.close i
  | .sendMessage i data => c.updateConnection i fun conn => (conn.sendMessage data).2
  | .sendLogoutRequest i => c.updateConnection i fun conn => conn.sendLogoutRequest.2
  | .sendDebug i text => c.updateConnection i fun conn => (conn.sendDebug text).2
  | .setConnectionHandler i => c.updateConnection i Connection.setHandler
  | .setUsername i username => c.updateConnection i fun conn => (conn.setUsername username).2
  | .setPassword i password => c.updateConnection i fun conn => (conn.setPassword password).2
  | .setSession i session => c.updateConnection i fun conn => (conn.setSession session).2
  | .start => c.start.2
  | .stop => c.stop
  | .sendMessageToAll data => (c.sendMessage data).2
  | .sendLogoutRequestToAll => c.sendLogoutRequest
  | .sendDebugToAll text => c.sendDebug text
  | .setHandler => c.setHandler
  | .setWritePacketsLimit writePacketsLimit => c.setWritePacketsLimit writePacketsLimit
  | .addConnection endpoint handlerSet => (c.addConnection endpoint handlerSet).2

/-- What surrounds one event: the calls that the user makes from each callback,
what fails, and how deep callbacks can be nested and how many connections can be
added in the course of it. -/
structure Env where
  calls : Callback → List Call := fun _ => []
  faults : Nat → Client.Faults := fun _ => {}
  depth : Nat := 0
  added : Nat := 0

/-- The user, down to the given nesting of callbacks. -/
def Env.reaction (env : Env) : Nat → User
  | 0, _, c => c
  | depth + 1, cb, c => (env.calls cb).foldl (Call.run (env.reaction depth) env.faults) c

def Env.user (env : Env) : User := env.reaction env.depth

/-! ## The system -/

inductive Event where
  | call (call : Call)
  | posted (k : Nat)
  | connectCompleted (i : Nat) (ec : Option IoError)
  | headerCompleted (i : Nat) (result : Except IoError Bytes)
  | payloadCompleted (i : Nat) (result : Except IoError Bytes)
  | writeCompleted (i : Nat) (result : Except IoError Nat)
  | socketClosed (i : Nat)
  | loginTimerWait (i : Nat) (ec : Option IoError)
  | loginTimerStopped (i : Nat)
  | heartbeatTimerWait (i : Nat) (ec : Option IoError)
  | heartbeatTimerStopped (i : Nat)
  | reconnectTimerWait (i : Nat) (epoch : Nat) (ec : Option IoError)

namespace Client

/-- Whether the event can happen: asio holds what it completes. -/
def ready (c : Client) : Event → Bool
  | .call _ => true
  | .posted k => k < c.posted.length
  | .connectCompleted i _ => (c.tcp? i).any fun t => .connect ∈ t.socket.outstanding
  | .headerCompleted i _ => (c.tcp? i).any fun t => .readHeader ∈ t.socket.outstanding
  | .payloadCompleted i _ => (c.tcp? i).any fun t => .readPayload ∈ t.socket.outstanding
  | .writeCompleted i _ => (c.tcp? i).any fun t => .write ∈ t.socket.outstanding
  | .socketClosed i => (c.tcp? i).any fun t => 0 < t.socket.posted
  | .loginTimerWait i _ => (c.tcp? i).any fun t => 0 < t.loginTimer.waits
  | .loginTimerStopped i => (c.tcp? i).any fun t => 0 < t.loginTimer.posted
  | .heartbeatTimerWait i _ => (c.tcp? i).any fun t => 0 < t.heartbeatTimer.waits
  | .heartbeatTimerStopped i => (c.tcp? i).any fun t => 0 < t.heartbeatTimer.posted
  | .reconnectTimerWait i epoch _ =>
    (c.connections[i]?).any fun conn => epoch ∈ conn.reconnectTimer.waits

def handle (env : Env) (event : Event) (c : Client) : Client :=
  let user := env.user
  let faults := env.faults
  match event with
  | .call call => call.run user faults c
  | .posted k =>
    match c.posted[k]? with
    | none => c
    | some posted =>
      runPosted user faults env.added posted { c with posted := c.posted.eraseIdx k }
  | .connectCompleted i ec => (socketHandler user (faults i) i).connectCompleted ec c
  | .headerCompleted i result => (socketHandler user (faults i) i).headerCompleted result c
  | .payloadCompleted i result => (socketHandler user (faults i) i).payloadCompleted result c
  | .writeCompleted i result => (socketHandler user (faults i) i).writeCompleted result c
  | .socketClosed i => c.closed user (faults i) i
  | .loginTimerWait i ec => (loginTimerHandler user i).waitCompleted ec c
  | .loginTimerStopped i => c.loginTimerStopped user (faults i) i
  | .heartbeatTimerWait i ec =>
    (heartbeatTimerHandler user i).waitCompleted ec (faults i).heartbeatSchedule c
  | .heartbeatTimerStopped i => c.heartbeatTimerStopped user (faults i) i
  | .reconnectTimerWait i epoch ec =>
    (reconnectTimerHandler user (faults i) i).waitCompleted epoch ec c

end Client

/-- The client, event by event. -/
def system : System Client (Event × Env) where
  enabled input c := c.ready input.1 = true
  next input c := c.handle input.2 input.1

instance (input : Event × Env) (c : Client) : Decidable (system.enabled input c) :=
  inferInstanceAs (Decidable (c.ready input.1 = true))

/-- A user who calls nothing from inside callbacks, and nothing fails. -/
def Env.plain : Env := {}

end SoupBin.ClientSide
