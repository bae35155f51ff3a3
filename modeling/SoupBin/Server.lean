import SoupBin.LogicalPackets
import SoupBin.Socket
import SoupBin.Timers

/-!
# The server: state

An `Acceptor` owns its `Port`s and the `Tcp_connection`s it has accepted; a
connection is known by its place in the order of acceptance, and its slot is
empty once it has been destroyed. Of the `Server` the acceptor shares the
session, the flag `started` and the functions that are posted.
-/

namespace SoupBin.ServerSide

/-! ## Tcp_connection -/

/-- `port` and `handlerSet` stand for the two pointers that a login sets, to the
port and to the handler which the port has then. -/
structure TcpConnection where
  acceptorHandlerSet : Bool
  port : Option Nat := none
  handlerSet : Bool := false
  socket : Socket
  state : ConnectionState := { state := .connected }
  loginTimer : LoginTimer := {}
  heartbeatTimer : HeartbeatTimer := { timeout := clientHeartbeatTimeout }
  socketClosed : Bool := false
  loginTimerStopped : Bool := true
  heartbeatTimerStopped : Bool := true
  deriving DecidableEq, Repr

namespace TcpConnection

def disconnect (reason : DisconnectReason) (t : TcpConnection) : TcpConnection :=
  let (stateChanged, state) := t.state.disconnect reason
  if stateChanged then
    { t with
      state := state
      socket := t.socket.close
      loginTimer := t.loginTimer.stop
      heartbeatTimer := t.heartbeatTimer.stop }
  else t

def close (t : TcpConnection) : TcpConnection := t.disconnect .userInitiated

def supersede (t : TcpConnection) : TcpConnection := t.disconnect .superseded

def prepareGracefulDisconnect (reason : DisconnectReason) (t : TcpConnection) : TcpConnection :=
  { t with state := (t.state.initiateDisconnect reason).2 }

def updateSocket (f : Socket → Socket) (t : TcpConnection) : TcpConnection :=
  { t with socket := f t.socket }

def asyncWrite (packet : WritePacket) (t : TcpConnection) : WriteError × TcpConnection :=
  let (error, socket) := t.socket.asyncWrite packet
  (error, { t with socket := socket })

/-- A write whose result is discarded. -/
def writeBestEffort (packet : WritePacket) (t : TcpConnection) : TcpConnection :=
  (t.asyncWrite packet).2

def sendPacket (packet : WritePacket) (t : TcpConnection) : WriteError × TcpConnection :=
  if t.state.state ≠ .loggedIn then (.notLoggedIn, t)
  else
    let (error, t) := t.asyncWrite packet
    if packet.packetType = SequencedDataPacket.packetType ∧ error = .none then
      (error, { t with heartbeatTimer := t.heartbeatTimer.incrementSendCount })
    else (error, t)

def sendDebugPacket (text : Bytes) (t : TcpConnection) : WriteError × TcpConnection :=
  if t.state.state = .connecting ∨ t.state.isClosing then (.disconnected, t)
  else t.asyncWrite (.ofData DebugPacket.packetType text)

def setState (state : State) (t : TcpConnection) : TcpConnection :=
  { t with state := t.state.setState state }

/-- The login has been accepted by the port `p`. -/
def setPort (p : Nat) (handlerSet : Bool) (t : TcpConnection) : TcpConnection :=
  { t with port := some p, handlerSet := handlerSet }

def updateLoginTimer (f : LoginTimer → LoginTimer) (t : TcpConnection) : TcpConnection :=
  { t with loginTimer := f t.loginTimer }

def updateHeartbeatTimer (f : HeartbeatTimer → HeartbeatTimer) (t : TcpConnection) :
    TcpConnection :=
  { t with heartbeatTimer := f t.heartbeatTimer }

def setLoginTimerStopped (stopped : Bool) (t : TcpConnection) : TcpConnection :=
  { t with loginTimerStopped := stopped }

def setHeartbeatTimerStopped (stopped : Bool) (t : TcpConnection) : TcpConnection :=
  { t with heartbeatTimerStopped := stopped }

/-! The posted notifications, when they have come. -/

def noteClosed (t : TcpConnection) : TcpConnection :=
  { t with socketClosed := true, socket := t.socket.notified }

def noteLoginTimerStopped (t : TcpConnection) : TcpConnection :=
  { t with loginTimerStopped := true, loginTimer := t.loginTimer.notified }

def noteHeartbeatTimerStopped (t : TcpConnection) : TcpConnection :=
  { t with heartbeatTimerStopped := true, heartbeatTimer := t.heartbeatTimer.notified }

end TcpConnection

/-! ## Port -/

/-- `connection` is the number of the connection that the port points to. -/
structure Port where
  handlerSet : Bool := true
  username : Bytes
  password : Bytes
  nextSequenceNumber : Nat := 1
  hasSessionEnded : Bool := false
  connection : Option Nat := none
  deriving DecidableEq, Repr

namespace Port

def setHandler (port : Port) : Port := { port with handlerSet := true }

def setNextSequenceNumber (nextSequenceNumber : Nat) (port : Port) : Port :=
  { port with nextSequenceNumber := nextSequenceNumber }

/-- `++next_sequence_number_`. -/
def countMessage (port : Port) : Port :=
  port.setNextSequenceNumber ((port.nextSequenceNumber + 1) % 2 ^ 64)

def setConnection (connection : Option Nat) (port : Port) : Port :=
  { port with connection := connection }

def setSessionEnded (port : Port) : Port := { port with hasSessionEnded := true }

/-- A request from further back rewinds the port. -/
def rewind (requested : Nat) (port : Port) : Port :=
  if requested ≠ 0 ∧ requested < port.nextSequenceNumber then
    port.setNextSequenceNumber requested
  else port

end Port

/-! ## Socket_acceptor -/

/-- `accepts` counts the operations that asio has not completed yet. -/
structure SocketAcceptor where
  isOpen : Bool := false
  accepts : Nat := 0
  deriving DecidableEq, Repr

namespace SocketAcceptor

def openAcceptor (a : SocketAcceptor) : SocketAcceptor := { a with isOpen := true }
def close (a : SocketAcceptor) : SocketAcceptor := { a with isOpen := false }
def asyncAccept (a : SocketAcceptor) : SocketAcceptor := { a with accepts := a.accepts + 1 }
def acceptDone (a : SocketAcceptor) : SocketAcceptor := { a with accepts := a.accepts - 1 }

end SocketAcceptor

/-! ## Acceptor -/

/-- `Acceptor_handler`. -/
inductive AcceptorCallback where
  | listenSetupFailure (ec : IoError) (operation : String)
  | listenSetupSuccess
  | acceptFailure (ec : IoError)
  | acceptSuccess
  | loginRequest (request : LoginRequestPacket)
  | loginFailure (reason : LoginRejectReason)
  | debug (text : Bytes)
  | transportError (ec : IoError) (operation : String)
  | protocolViolation (error : PacketError)
  | disconnect (reason : DisconnectReason)
  deriving DecidableEq, Repr

/-- `Port_handler`. -/
inductive PortCallback where
  | loginSuccess (response : LoginAcceptedPacket)
  | unsequencedData (data : Bytes)
  | logoutRequest
  | writeBufferEmpty
  | debug (text : Bytes)
  | transportError (ec : IoError) (operation : String)
  | protocolViolation (error : PacketError)
  | disconnect (reason : DisconnectReason)
  deriving DecidableEq, Repr

/-- A callback, and the port whose handler it comes to. -/
inductive Callback where
  | acceptor (cb : AcceptorCallback)
  | port (p : Nat) (cb : PortCallback)
  deriving DecidableEq, Repr

/-- What is recorded of a run: the calls to handlers, and steps inside the
library that the handlers do not see. -/
inductive Entry where
  | called (handlerSet : Bool) (cb : Callback)
  | constructed (k : Nat)
  | loginAccepted (k : Nat) (response : LoginAcceptedPacket)
  | violation (k : Nat) (error : PacketError)
  | onClosed (k : Nat)
  | assertionFailed
  deriving DecidableEq, Repr

/-- The functions that are posted to the executor. -/
inductive Posted where
  | start
  | endSession
  | stop
  deriving DecidableEq, Repr

structure Acceptor where
  session : Bytes := []
  started : Bool := false
  posted : List Posted := []
  handlerSet : Bool := true
  socketAcceptor : SocketAcceptor := {}
  ports : List Port := []
  writePacketsLimit : Nat := 100
  debugBanner : Bytes := []
  connections : List (Option TcpConnection) := []
  trace : List Entry := []
  deriving DecidableEq, Repr

namespace Acceptor

def log (entry : Entry) (s : Acceptor) : Acceptor := { s with trace := s.trace ++ [entry] }

def updatePort (p : Nat) (f : Port → Port) (s : Acceptor) : Acceptor :=
  { s with ports := s.ports.modify p f }

/-- The slot `k` changes. -/
def updateSlot (k : Nat) (f : Option TcpConnection → Option TcpConnection) (s : Acceptor) :
    Acceptor :=
  { s with connections := s.connections.modify k f }

def updateTcp (k : Nat) (f : TcpConnection → TcpConnection) (s : Acceptor) : Acceptor :=
  s.updateSlot k (·.map f)

def tcp? (k : Nat) (s : Acceptor) : Option TcpConnection := s.connections[k]?.join

theorem tcp?_updateTcp (s : Acceptor) (k j : Nat) (f : TcpConnection → TcpConnection) :
    (s.updateTcp k f).tcp? j = if k = j then (s.tcp? j).map f else s.tcp? j := by
  rw [tcp?, updateTcp, updateSlot, List.getElem?_modify]
  split
  · rename_i h
    subst h
    rw [tcp?]
    cases s.connections[k]? <;> simp
  · simp [tcp?]

def updateSocketAcceptor (f : SocketAcceptor → SocketAcceptor) (s : Acceptor) : Acceptor :=
  { s with socketAcceptor := f s.socketAcceptor }

/-! ### Called by the user -/

def setSession (session : Bytes) (s : Acceptor) : Option Error × Acceptor :=
  match validateSession session with
  | some ec => (some ec, s)
  | none => (none, { s with session := session })

def setHandler (s : Acceptor) : Acceptor := { s with handlerSet := true }

def setWritePacketsLimit (writePacketsLimit : Nat) (s : Acceptor) : Acceptor :=
  { s with writePacketsLimit := writePacketsLimit }

def setDebugBanner (debugBanner : Bytes) (s : Acceptor) : Acceptor :=
  { s with debugBanner := debugBanner }

def addPort (username password : Bytes) (handlerSet : Bool) (s : Acceptor) :
    Option Error × Acceptor :=
  match validateUsername username with
  | some ec => (some ec, s)
  | none =>
    match validatePassword password with
    | some ec => (some ec, s)
    | none =>
      if s.ports.any fun port => port.username = username then (some .usernameInUse, s)
      else
        (none, { s with
          ports := s.ports ++
            [{ handlerSet := handlerSet, username := username, password := password }] })

def isHandlerSet (s : Acceptor) : Bool := s.handlerSet && s.ports.all (·.handlerSet)

def start (s : Acceptor) : Option Error × Acceptor :=
  if s.isHandlerSet then (none, { s with posted := s.posted ++ [.start] })
  else (some .handlerNotSet, s)

def endSession (s : Acceptor) : Acceptor := { s with posted := s.posted ++ [.endSession] }

def stop (s : Acceptor) : Acceptor := { s with posted := s.posted ++ [.stop] }

/-! ### Sending through a port -/

/-- Let the connection of a port send something. -/
def sendWith (send : TcpConnection → WriteError × TcpConnection) (connection : Option Nat)
    (s : Acceptor) : WriteError × Acceptor :=
  match connection with
  | none => (.disconnected, s)
  | some k =>
    match s.tcp? k with
    | none => (.disconnected, s)
    | some t => ((send t).1, s.updateTcp k fun t => (send t).2)

/-- `Port::send_packet`. -/
def sendPacket (p : Nat) (packet : WritePacket) (s : Acceptor) : WriteError × Acceptor :=
  match s.ports[p]? with
  | none => (.disconnected, s)
  | some port =>
    if port.hasSessionEnded then (.sessionEnded, s)
    else s.sendWith (·.sendPacket packet) port.connection

/-- `Port::send_message`. -/
def sendMessage (p : Nat) (data : Span) (s : Acceptor) : WriteError × Acceptor :=
  if data.size = 0 then (.emptyBuffer, s)
  else
    match data with
    | .null _ => (.nullBuffer, s)
    | .bytes data =>
      let (error, s) := s.sendPacket p (.ofData SequencedDataPacket.packetType data)
      if error = .none then (error, s.updatePort p Port.countMessage) else (error, s)

/-- `Port::send_debug`. -/
def sendDebug (p : Nat) (text : Bytes) (s : Acceptor) : WriteError × Acceptor :=
  if text = [] then (.emptyBuffer, s)
  else
    match s.ports[p]? with
    | none => (.disconnected, s)
    | some port => s.sendWith (·.sendDebugPacket text) port.connection

/-- `Port::end_session`. -/
def endSessionOf (p : Nat) (s : Acceptor) : Acceptor :=
  match s.ports[p]? with
  | none => s
  | some port =>
    if port.hasSessionEnded then s
    else
      ((s.updatePort p Port.setSessionEnded).sendWith
        (·.sendPacket (.ofType EndOfSessionPacket.packetType)) port.connection).2

/-! ### Called by Tcp_connection -/

/-- `Port::on_login_request`, for the request of the connection `k`. -/
def onLoginRequestAt (p k : Nat) (port : Port) (request : LoginRequestPacket) (s : Acceptor) :
    Except LoginReject LoginAcceptedPacket × Acceptor :=
  if request.password ≠ port.password then
    (.error ⟨.incorrectPassword, ⟨LoginRejectedReason.notAuthorized⟩⟩, s)
  else if request.session ≠ [] ∧ request.session ≠ s.session then
    (.error ⟨.sessionNotAvailable, ⟨LoginRejectedReason.sessionNotAvailable⟩⟩, s)
  else
    let s :=
      match port.connection with
      | none => s
      | some old => s.updateTcp old TcpConnection.supersede
    let port := (port.setConnection (some k)).rewind request.nextSequenceNumber
    let s := (s.updatePort p fun _ => port).updateTcp k (·.setPort p port.handlerSet)
    (.ok ⟨s.session, port.nextSequenceNumber⟩, s)

/-- `Acceptor::on_login_request`. -/
def onLoginRequest (k : Nat) (request : LoginRequestPacket) (s : Acceptor) :
    Except LoginReject LoginAcceptedPacket × Acceptor :=
  match s.ports.findIdx? fun port => port.username = request.username with
  | none => (.error ⟨.userNotFound, ⟨LoginRejectedReason.notAuthorized⟩⟩, s)
  | some p =>
    match s.ports[p]? with
    | none => (.error ⟨.userNotFound, ⟨LoginRejectedReason.notAuthorized⟩⟩, s)
    | some port => s.onLoginRequestAt p k port request

/-- `Port::on_closed`. -/
def portOnClosed (p k : Nat) (s : Acceptor) : Acceptor :=
  s.updatePort p fun port => if port.connection = some k then port.setConnection none else port

end Acceptor

/-! ## The user -/

/-- A call of the user; the result it returns is left out. -/
inductive Call where
  | setSession (session : Bytes)
  | start
  | endSession
  | stop
  | setHandler
  | setWritePacketsLimit (writePacketsLimit : Nat)
  | setDebugBanner (debugBanner : Bytes)
  | addPort (username password : Bytes) (handlerSet : Bool)
  | setPortHandler (p : Nat)
  | setNextSequenceNumber (p nextSequenceNumber : Nat)
  | sendMessage (p : Nat) (data : Span)
  | sendDebug (p : Nat) (text : Bytes)
  deriving DecidableEq, Repr

def Call.run (s : Acceptor) : Call → Acceptor
  | .setSession session => (s.setSession session).2
  | .start => s.start.2
  | .endSession => s.endSession
  | .stop => s.stop
  | .setHandler => s.setHandler
  | .setWritePacketsLimit writePacketsLimit => s.setWritePacketsLimit writePacketsLimit
  | .setDebugBanner debugBanner => s.setDebugBanner debugBanner
  | .addPort username password handlerSet => (s.addPort username password handlerSet).2
  | .setPortHandler p => s.updatePort p Port.setHandler
  | .setNextSequenceNumber p nextSequenceNumber =>
    s.updatePort p (·.setNextSequenceNumber nextSequenceNumber)
  | .sendMessage p data => (s.sendMessage p data).2
  | .sendDebug p text => (s.sendDebug p text).2

/-- The calls that the user makes from inside each callback. None of them
reaches a handler in turn. -/
abbrev Script := Callback → List Call

/-- Call a handler through a pointer that may be null. -/
def Acceptor.notify (script : Script) (handlerSet : Bool) (cb : Callback) (s : Acceptor) :
    Acceptor :=
  let s := s.log (.called handlerSet cb)
  if handlerSet then (script cb).foldl Call.run s else s

end SoupBin.ServerSide
