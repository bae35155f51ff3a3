import SoupBin.Server
import SoupBin.Transition

/-!
# The server: events

What a completion, a timer, a posted function or a call of the user does to an
acceptor. Every function that reaches a handler takes the `script` of the calls
that the user makes from inside the callbacks.
-/

namespace SoupBin.ServerSide
namespace Acceptor

/-- The calls into asio that failed during one event. -/
structure Faults where
  openAcceptor : Option IoError := none
  setReuseAddress : Option IoError := none
  setNoDelay : Option IoError := none
  bind : Option IoError := none
  listen : Option IoError := none
  loginTimer : Option IoError := none
  heartbeatTimer : Option IoError := none
  heartbeatSchedule : Option IoError := none

section
variable (script : Script) (faults : Faults) (k : Nat)

/-! ## Tcp_connection -/

/-- A callback of the `Acceptor_handler` that the connection was made with. -/
def acceptorCallback (cb : AcceptorCallback) (s : Acceptor) : Acceptor :=
  match s.tcp? k with
  | none => s
  | some t => s.notify script t.acceptorHandlerSet (.acceptor cb)

/-- A callback of the `Port_handler` of the connection, taken to be there. -/
def portCallback (cb : PortCallback) (s : Acceptor) : Acceptor :=
  match s.tcp? k with
  | none => s
  | some t =>
    match t.port with
    | none => s.log .assertionFailed
    | some p => s.notify script t.handlerSet (.port p cb)

/-- `if (handler_) handler_->f() else acceptor_handler_->f()`. -/
def eitherCallback (portCb : PortCallback) (acceptorCb : AcceptorCallback) (s : Acceptor) :
    Acceptor :=
  match s.tcp? k with
  | none => s
  | some t =>
    if t.handlerSet then s.portCallback script k portCb
    else s.acceptorCallback script k acceptorCb

def tcpState (s : Acceptor) : ConnectionState := ((s.tcp? k).map (·.state)).getD {}

def tcpDisconnect (reason : DisconnectReason) (s : Acceptor) : Acceptor :=
  s.updateTcp k (·.disconnect reason)

def handleTransportError (ec : IoError) (operation : String) (s : Acceptor) : Acceptor :=
  (s.eitherCallback script k (.transportError ec operation)
    (.transportError ec operation)).tcpDisconnect k .transportError

def handleProtocolViolation (error : PacketError) (s : Acceptor) : Acceptor :=
  ((s.log (.violation k error)).eitherCallback script k (.protocolViolation error)
    (.protocolViolation error)).tcpDisconnect k .protocolViolation

def loginTimerHandler : LoginTimer.Handler Acceptor where
  timer s := ((s.tcp? k).map (·.loginTimer)).getD {}
  update f s := s.updateTcp k (·.updateLoginTimer f)
  loginTimerError ec operation s := s.handleTransportError script k ec operation
  loginTimerExpired s := s.tcpDisconnect k .loginTimeout

def heartbeatTimerHandler : HeartbeatTimer.Handler Acceptor where
  timer s := ((s.tcp? k).map (·.heartbeatTimer)).getD { timeout := clientHeartbeatTimeout }
  update f s := s.updateTcp k (·.updateHeartbeatTimer f)
  heartbeatTimerError ec operation s := s.handleTransportError script k ec operation
  heartbeatSendDue s :=
    s.updateTcp k (·.writeBestEffort (.ofType ServerHeartbeatPacket.packetType))
  heartbeatReceiveTimeout s := s.tcpDisconnect k .heartbeatTimeout

/-- The login has been accepted. -/
def acceptLogin (response : LoginAcceptedPacket) (s : Acceptor) : Acceptor :=
  let s := (s.log (.loginAccepted k response)).updateTcp k (·.setState .loggedIn)
  let s := s.portCallback script k (.loginSuccess response)
  let s := s.updateTcp k (·.setHeartbeatTimerStopped false)
  let s := (heartbeatTimerHandler script k).start faults.heartbeatTimer faults.heartbeatSchedule s
  let packet := (WritePacket.ofSize LoginAcceptedPacket.packetType
    LoginAcceptedPacket.payloadSize).writePayload response.write
  s.updateTcp k (·.writeBestEffort packet)

/-- The login has been rejected. -/
def rejectLogin (reject : LoginReject) (s : Acceptor) : Acceptor :=
  let s := s.acceptorCallback script k (.loginFailure reject.reason)
  let s := s.updateTcp k (·.prepareGracefulDisconnect .accessDenied)
  let packet := (WritePacket.ofSize LoginRejectedPacket.packetType
    LoginRejectedPacket.payloadSize).writePayload reject.packet.write
  s.updateTcp k (·.writeBestEffort packet)

/-- The first part of `process_login_request`, up to the answer. -/
def answerLogin (data : Bytes) (s : Acceptor) : Except LoginReject LoginAcceptedPacket × Acceptor :=
  let request := LoginRequestPacket.read data
  let s := s.updateTcp k (·.updateLoginTimer LoginTimer.stop)
  let s := s.acceptorCallback script k (.loginRequest request)
  s.onLoginRequest k request

def processLoginRequest (data : Bytes) (s : Acceptor) : PacketError × Acceptor :=
  if data.length ≠ LoginRequestPacket.payloadSize then (.incorrectLength, s)
  else if (s.tcpState k).state ≠ .connected then (.unexpectedSequence, s)
  else
    match s.answerLogin script k data with
    | (.ok response, s) => (.none, s.acceptLogin script faults k response)
    | (.error reject, s) => (.none, s.rejectLogin script k reject)

/-- `port_->has_session_ended()`. -/
def hasSessionEnded (s : Acceptor) : Bool :=
  (((s.tcp? k).bind (·.port)).bind fun p => s.ports[p]?.map (·.hasSessionEnded)).getD false

def countReceived (s : Acceptor) : Acceptor :=
  s.updateTcp k (·.updateHeartbeatTimer HeartbeatTimer.incrementReceiveCount)

def processUnsequencedData (data : Bytes) (s : Acceptor) : PacketError × Acceptor :=
  if (s.tcpState k).state ≠ .loggedIn then (.unexpectedSequence, s)
  else
    let s := s.countReceived k
    (.none, if s.hasSessionEnded k then s else s.portCallback script k (.unsequencedData data))

def processClientHeartbeat (size : Nat) (s : Acceptor) : PacketError × Acceptor :=
  if size ≠ ClientHeartbeatPacket.payloadSize then (.incorrectLength, s)
  else if (s.tcpState k).state ≠ .loggedIn then (.unexpectedSequence, s)
  else (.none, s.countReceived k)

def processLogoutRequest (size : Nat) (s : Acceptor) : PacketError × Acceptor :=
  if size ≠ LogoutRequestPacket.payloadSize then (.incorrectLength, s)
  else if (s.tcpState k).state ≠ .loggedIn then (.unexpectedSequence, s)
  else (.none, (s.portCallback script k .logoutRequest).tcpDisconnect k .logoutRequest)

def processPacket (packet : ReadPacket) (s : Acceptor) : PacketError × Acceptor :=
  let data := packet.payload
  let size := packet.payloadSize
  let type := packet.packetType
  if type = DebugPacket.packetType then
    (.none, s.eitherCallback script k (.debug data) (.debug data))
  else if type = LoginRequestPacket.packetType then s.processLoginRequest script faults k data
  else if type = UnsequencedDataPacket.packetType then s.processUnsequencedData script k data
  else if type = ClientHeartbeatPacket.packetType then s.processClientHeartbeat k size
  else if type = LogoutRequestPacket.packetType then s.processLogoutRequest script k size
  else (.invalidMessageType, s)

def readSuccess (packet : ReadPacket) (s : Acceptor) : Acceptor :=
  if (s.tcpState k).isClosing then s
  else
    let (error, s) := s.processPacket script faults k packet
    let s := if error ≠ .none then s.handleProtocolViolation script k error else s
    if (s.tcpState k).isClosing then s
    else s.updateTcp k (·.updateSocket Socket.asyncRead)

def writeSuccess (s : Acceptor) : Acceptor :=
  if (s.tcpState k).state = .disconnecting then s.tcpDisconnect k .unmanagedAbort else s

/-- Without a port handler `write_buffer_empty` is dropped. -/
def writeBufferEmpty (s : Acceptor) : Acceptor :=
  match s.tcp? k with
  | none => s
  | some t => if t.handlerSet then s.portCallback script k .writeBufferEmpty else s

/-- An accepted socket is connected, so the first two are never called. -/
def socketHandler : Socket.Handler Acceptor where
  socket s := ((s.tcp? k).map (·.socket)).getD {}
  update f s := s.updateTcp k (·.updateSocket f)
  connectFailure _ s := s.log .assertionFailed
  connectSuccess s := s.log .assertionFailed
  readFailure ec s := s.handleTransportError script k ec "socket async_read"
  readPacketFailure error s := s.handleProtocolViolation script k error
  readSuccess packet s := s.readSuccess script faults k packet
  readAborted s := s.tcpDisconnect k .unmanagedAbort
  readEndOfFile s := s.tcpDisconnect k .peerClosed
  writeFailure ec s := s.handleTransportError script k ec "socket async_write"
  writeSuccess _ s := s.writeSuccess k
  writeBufferEmpty s := s.writeBufferEmpty script k

/-- `Acceptor::on_closed`: the connection is destroyed, and its port handler or
the acceptor's is told. -/
def onClosed (t : TcpConnection) (s : Acceptor) : Acceptor :=
  let s := (s.updateSlot k fun _ => none).log (.onClosed k)
  match t.port, t.handlerSet with
  | some p, true => s.notify script true (.port p (.disconnect t.state.reason))
  | _, _ => s.notify script s.handlerSet (.acceptor (.disconnect t.state.reason))

/-- `maybe_signal_closed` of the `Tcp_connection`. -/
def maybeSignalClosed (s : Acceptor) : Acceptor :=
  match s.tcp? k with
  | none => s
  | some t =>
    if t.socketClosed && t.loginTimerStopped && t.heartbeatTimerStopped then
      let s :=
        match t.port with
        | none => s
        | some p => s.portOnClosed p k
      s.onClosed script k t
    else s

/-! ## Posted notifications -/

def closed (s : Acceptor) : Acceptor :=
  (s.updateTcp k TcpConnection.noteClosed).maybeSignalClosed script k

def loginTimerStopped (s : Acceptor) : Acceptor :=
  (s.updateTcp k TcpConnection.noteLoginTimerStopped).maybeSignalClosed script k

def heartbeatTimerStopped (s : Acceptor) : Acceptor :=
  (s.updateTcp k TcpConnection.noteHeartbeatTimerStopped).maybeSignalClosed script k

end

/-! ## Accepting -/

section
variable (script : Script) (faults : Faults)

/-- `connections_.emplace_back`, and the constructor of `Tcp_connection`. -/
def emplace (socket : Socket) (s : Acceptor) : Acceptor :=
  let k := s.connections.length
  let t : TcpConnection := { acceptorHandlerSet := s.handlerSet, socket := socket }
  let s := { s with connections := s.connections ++ [some t] }.log (.constructed k)
  let s := s.updateTcp k (·.setLoginTimerStopped false)
  let s := (loginTimerHandler script k).start faults.loginTimer s
  s.updateTcp k (·.updateSocket Socket.asyncRead)

def acceptFailure (ec : IoError) (s : Acceptor) : Acceptor :=
  (s.notify script s.handlerSet (.acceptor (.acceptFailure ec))).updateSocketAcceptor
    SocketAcceptor.asyncAccept

def acceptSuccess (s : Acceptor) : Acceptor :=
  let socket : Socket := { isOpen := true, writePacketsLimit := s.writePacketsLimit }
  let s := s.notify script s.handlerSet (.acceptor .acceptSuccess)
  let k := s.connections.length
  let s := s.emplace script faults socket
  let s :=
    if s.debugBanner ≠ [] then s.updateTcp k fun t => (t.sendDebugPacket s.debugBanner).2 else s
  s.updateSocketAcceptor SocketAcceptor.asyncAccept

/-- The completion of `async_accept`. -/
def acceptCompleted (ec : Option IoError) (s : Acceptor) : Acceptor :=
  let s := s.updateSocketAcceptor SocketAcceptor.acceptDone
  match ec with
  | none => s.acceptSuccess script faults
  | some .operationAborted => s
  | some ec => s.acceptFailure script ec

/-- What fails first in `Acceptor::start`, and where. -/
def setupFailure : Option (IoError × String) :=
  match faults.openAcceptor with
  | some ec => some (ec, "open")
  | none =>
    match faults.setReuseAddress with
    | some ec => some (ec, "set_reuse_address")
    | none =>
      match faults.setNoDelay with
      | some ec => some (ec, "set_no_delay")
      | none =>
        match faults.bind with
        | some ec => some (ec, "bind")
        | none =>
          match faults.listen with
          | some ec => some (ec, "listen")
          | none => none

/-- `Acceptor::start`. -/
def startAccepting (s : Acceptor) : Acceptor :=
  let s := if faults.openAcceptor = none then
    s.updateSocketAcceptor SocketAcceptor.openAcceptor else s
  match setupFailure faults with
  | some (ec, operation) =>
    s.notify script s.handlerSet (.acceptor (.listenSetupFailure ec operation))
  | none =>
    (s.notify script s.handlerSet (.acceptor .listenSetupSuccess)).updateSocketAcceptor
      SocketAcceptor.asyncAccept

/-! ## Posted functions -/

/-- `Acceptor::end_session`. -/
def endSessions (s : Acceptor) : Acceptor :=
  (List.range s.ports.length).foldl (fun s p => s.endSessionOf p) s

/-- `Acceptor::stop`. -/
def stopAccepting (s : Acceptor) : Acceptor :=
  let s := s.updateSocketAcceptor SocketAcceptor.close
  { s with connections := s.connections.map (·.map TcpConnection.close) }

def runPosted (posted : Posted) (s : Acceptor) : Acceptor :=
  match posted with
  | .start =>
    if s.started then s
    else { s with started := true }.startAccepting script faults
  | .endSession => if s.started then s.endSessions else s
  | .stop => if s.started then { s with started := false }.stopAccepting else s

end

end Acceptor

/-! ## The system -/

/-- What surrounds one event: the calls that the user makes from each callback,
and what fails. -/
structure Env where
  calls : Script := fun _ => []
  faults : Acceptor.Faults := {}

inductive Event where
  | call (call : Call)
  | posted (n : Nat)
  | acceptCompleted (ec : Option IoError)
  | headerCompleted (k : Nat) (result : Except IoError Bytes)
  | payloadCompleted (k : Nat) (result : Except IoError Bytes)
  | writeCompleted (k : Nat) (result : Except IoError Nat)
  | socketClosed (k : Nat)
  | loginTimerWait (k : Nat) (ec : Option IoError)
  | loginTimerStopped (k : Nat)
  | heartbeatTimerWait (k : Nat) (ec : Option IoError)
  | heartbeatTimerStopped (k : Nat)

namespace Acceptor

/-- Whether the event can happen: asio holds what it completes. -/
def ready (s : Acceptor) : Event → Bool
  | .call _ => true
  | .posted n => n < s.posted.length
  | .acceptCompleted _ => 0 < s.socketAcceptor.accepts
  | .headerCompleted k _ => (s.tcp? k).any fun t => .readHeader ∈ t.socket.outstanding
  | .payloadCompleted k _ => (s.tcp? k).any fun t => .readPayload ∈ t.socket.outstanding
  | .writeCompleted k _ => (s.tcp? k).any fun t => .write ∈ t.socket.outstanding
  | .socketClosed k => (s.tcp? k).any fun t => 0 < t.socket.posted
  | .loginTimerWait k _ => (s.tcp? k).any fun t => 0 < t.loginTimer.waits
  | .loginTimerStopped k => (s.tcp? k).any fun t => 0 < t.loginTimer.posted
  | .heartbeatTimerWait k _ => (s.tcp? k).any fun t => 0 < t.heartbeatTimer.waits
  | .heartbeatTimerStopped k => (s.tcp? k).any fun t => 0 < t.heartbeatTimer.posted

def handle (env : Env) (event : Event) (s : Acceptor) : Acceptor :=
  let script := env.calls
  let faults := env.faults
  match event with
  | .call call => call.run s
  | .posted n =>
    match s.posted[n]? with
    | none => s
    | some posted => runPosted script faults posted { s with posted := s.posted.eraseIdx n }
  | .acceptCompleted ec => s.acceptCompleted script faults ec
  | .headerCompleted k result => (socketHandler script faults k).headerCompleted result s
  | .payloadCompleted k result => (socketHandler script faults k).payloadCompleted result s
  | .writeCompleted k result => (socketHandler script faults k).writeCompleted result s
  | .socketClosed k => s.closed script k
  | .loginTimerWait k ec => (loginTimerHandler script k).waitCompleted ec s
  | .loginTimerStopped k => s.loginTimerStopped script k
  | .heartbeatTimerWait k ec =>
    (heartbeatTimerHandler script k).waitCompleted ec faults.heartbeatSchedule s
  | .heartbeatTimerStopped k => s.heartbeatTimerStopped script k

end Acceptor

/-- The acceptor, event by event. -/
def system : System Acceptor (Event × Env) where
  enabled input s := s.ready input.1 = true
  next input s := s.handle input.2 input.1

instance (input : Event × Env) (s : Acceptor) : Decidable (system.enabled input s) :=
  inferInstanceAs (Decidable (s.ready input.1 = true))

/-- A user who calls nothing from inside callbacks, and nothing fails. -/
def Env.plain : Env := {}

end SoupBin.ServerSide
