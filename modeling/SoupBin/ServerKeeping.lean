import SoupBin.ServerConduct

/-!
# What an event keeps

Most of what an acceptor does to a connection is to send packets of its own and to
disconnect. What such steps keep, every event keeps, if the rest keeps it too: the
calls of the user, the logins, and what the sockets do for themselves.
-/

namespace SoupBin.ServerSide

/-! ## Tcp_connection -/

namespace TcpConnection

/-- The packets that the library sends on its own, a response to a login apart. -/
inductive OwnPacket : WritePacket → Prop where
  | heartbeat : OwnPacket (.ofType ServerHeartbeatPacket.packetType)
  | endOfSession : OwnPacket (.ofType EndOfSessionPacket.packetType)
  | rejected (packet : LoginRejectedPacket) : OwnPacket ((WritePacket.ofSize
      LoginRejectedPacket.packetType LoginRejectedPacket.payloadSize).writePayload packet.write)

/-- `M` relates a connection to what becomes of it when packets that satisfy `P` are
sent, and when it is disconnected. -/
structure Gentle (P : WritePacket → Prop) (M : TcpConnection → TcpConnection → Prop) : Prop where
  same : ∀ {t u}, u.port = t.port → u.state = t.state → u.socket = t.socket → M t u
  trans : ∀ {t u v}, M t u → M u v → M t v
  write : ∀ {packet}, P packet → ∀ t, M t (t.asyncWrite packet).2
  disconnect : ∀ reason t, M t (t.disconnect reason)
  reject : ∀ reason t, M t (t.prepareGracefulDisconnect reason)

variable {P : WritePacket → Prop} {M : TcpConnection → TcpConnection → Prop}

theorem Gentle.sendPacket (g : Gentle P M) {packet : WritePacket} (hp : P packet)
    (t : TcpConnection) : M t (t.sendPacket packet).2 := by
  unfold TcpConnection.sendPacket
  split
  · exact g.same rfl rfl rfl
  · have hwritten := g.write hp t
    dsimp only
    split
    · exact g.trans hwritten (g.same rfl rfl rfl)
    · exact hwritten

theorem Gentle.sendDebugPacket (g : Gentle P M) {text : Bytes}
    (hp : P (.ofData DebugPacket.packetType text)) (t : TcpConnection) :
    M t (t.sendDebugPacket text).2 := by
  unfold TcpConnection.sendDebugPacket
  split
  · exact g.same rfl rfl rfl
  · exact g.write hp t

end TcpConnection

/-! ## Acceptor -/

/-- The callback comes between the acceptance of a login and the response. -/
def Callback.isLogin : Callback → Bool
  | .port _ (.loginSuccess _) => true
  | _ => false

def Entry.isLogin : Entry → Bool
  | .loginAccepted _ _ => true
  | _ => false

/-- The connection whose socket takes steps of its own. -/
def Event.socket? : Event → Option Nat
  | .headerCompleted k _ | .payloadCompleted k _ | .writeCompleted k _ => some k
  | _ => none

namespace Acceptor

/-- What gentle steps keep, and the calls of the user from inside callbacks. -/
structure Steady (P : WritePacket → Prop) (M : TcpConnection → TcpConnection → Prop)
    (script : Script) (I : Acceptor → Prop) : Prop where
  gentle : TcpConnection.Gentle P M
  own : ∀ {packet}, TcpConnection.OwnPacket packet → P packet
  log : ∀ entry s, entry.isLogin = false → I s → I (s.log entry)
  tcp : ∀ k f s, (∀ t, M t (f t)) → I s → I (s.updateTcp k f)
  calls : ∀ cb, cb.isLogin = false → ∀ call ∈ script cb, ∀ s, I s → I (call.run s)

/-- The socket of the connection `k` takes a step of its own. -/
def Steps (k : Nat) (I : Acceptor → Prop) : Prop :=
  ∀ f, Socket.Handler.Internal f ∨ f = Socket.asyncRead → ∀ s, I s →
    I (s.updateTcp k (·.updateSocket f))

/-- A login request, too. -/
structure Serving (P : WritePacket → Prop) (M : TcpConnection → TcpConnection → Prop)
    (script : Script) (faults : Faults) (I : Acceptor → Prop) : Prop
    extends Steady P M script I where
  login : ∀ k data s, I s → I (s.processLoginRequest script faults k data).2

/-- Everything, if it comes from the library, the steps of the sockets and new
connections apart. -/
structure Enduring (P : WritePacket → Prop) (M : TcpConnection → TcpConnection → Prop)
    (script : Script) (faults : Faults) (I : Acceptor → Prop) : Prop
    extends Serving P M script faults I where
  aside : ∀ s s', s'.ports = s.ports → s'.connections = s.connections → s'.trace = s.trace →
    s'.debugBanner = s.debugBanner → I s → I s'
  ended : ∀ p s, I s → I (s.updatePort p Port.setSessionEnded)
  freed : ∀ k t s, s.tcp? k = some t → I s → I (s.free k t)

variable {P : WritePacket → Prop} {M : TcpConnection → TcpConnection → Prop}
  {I : Acceptor → Prop} {script : Script} {faults : Faults} {k : Nat} {s : Acceptor}

/-! ## Callbacks -/

theorem kept_notify (handlerSet : Bool) {cb : Callback}
    (hlog : ∀ entry s, entry.isLogin = false → I s → I (s.log entry))
    (hcalls : ∀ call ∈ script cb, ∀ s, I s → I (call.run s)) (h : I s) :
    I (s.notify script handlerSet cb) := by
  have hlogged : I (s.log (.called handlerSet cb)) := hlog _ s rfl h
  unfold Acceptor.notify
  dsimp only
  split
  · generalize s.log (.called handlerSet cb) = logged at hlogged
    generalize script cb = calls at hcalls
    induction calls generalizing logged with
    | nil => exact hlogged
    | cons call calls ih =>
      have hran := hcalls call List.mem_cons_self logged hlogged
      exact ih _ hran fun other ho => hcalls other (List.mem_cons_of_mem call ho)
  · exact hlogged

theorem kept_portCallback {cb : PortCallback}
    (hlog : ∀ entry s, entry.isLogin = false → I s → I (s.log entry))
    (hcalls : ∀ p, ∀ call ∈ script (.port p cb), ∀ s, I s → I (call.run s)) (h : I s) :
    I (s.portCallback script k cb) := by
  unfold Acceptor.portCallback
  split
  · exact h
  · split
    · exact hlog _ s rfl h
    · exact kept_notify _ hlog (hcalls _) h

/-! ## Logins -/

/-- What a request changes that is accepted. -/
theorem onLoginRequest_accepted {s' : Acceptor} {request : LoginRequestPacket}
    {response : LoginAcceptedPacket}
    (heq : s.onLoginRequest k request = (.ok response, s')) :
    ∃ (p : Nat) (port : Port) (freed : Acceptor) (port' : Port), s.ports[p]? = some port ∧
      (freed = s ∨ ∃ old, port.connection = some old ∧
        freed = s.updateTcp old TcpConnection.supersede) ∧
      port'.connection = some k ∧ port'.nextSequenceNumber ≤ port.nextSequenceNumber ∧
      response = ⟨s.session, port'.nextSequenceNumber⟩ ∧
      s' = (freed.updatePort p fun _ => port').updateTcp k (·.setPort p port'.handlerSet) := by
  unfold onLoginRequest at heq
  split at heq
  · cases heq
  · rename_i p _
    split at heq
    · cases heq
    · rename_i port hport
      unfold onLoginRequestAt at heq
      split at heq
      · cases heq
      · split at heq
        · cases heq
        · have hrewound : ((port.setConnection (some k)).rewind
              request.nextSequenceNumber).connection = some k ∧
              ((port.setConnection (some k)).rewind
                request.nextSequenceNumber).handlerSet = port.handlerSet ∧
              ((port.setConnection (some k)).rewind
                request.nextSequenceNumber).nextSequenceNumber ≤ port.nextSequenceNumber := by
            unfold Port.rewind
            split
            · rename_i hback
              exact ⟨rfl, rfl, Nat.le_of_lt hback.2⟩
            · exact ⟨rfl, rfl, Nat.le_refl _⟩
          dsimp only at heq
          cases hold : port.connection with
          | none =>
            rw [hold] at heq
            cases heq
            refine ⟨p, port, s, _, hport, Or.inl rfl, hrewound.1, hrewound.2.2, rfl, ?_⟩
            rw [hrewound.2.1]
          | some old =>
            rw [hold] at heq
            cases heq
            refine ⟨p, port, _, _, hport, Or.inr ⟨old, hold, rfl⟩, hrewound.1, hrewound.2.2, rfl, ?_⟩
            rw [hrewound.2.1]

/-! ## Events -/

namespace Steady

section
variable (a : Steady P M script I)
include a

/-- Only timers and flags change. -/
theorem same {f : TcpConnection → TcpConnection} (hport : ∀ t, (f t).port = t.port)
    (hstate : ∀ t, (f t).state = t.state) (hsocket : ∀ t, (f t).socket = t.socket) (h : I s) :
    I (s.updateTcp k f) :=
  a.tcp k f s (fun t => a.gentle.same (hport t) (hstate t) (hsocket t)) h

theorem tcpDisconnect (reason : DisconnectReason) (h : I s) : I (s.tcpDisconnect k reason) :=
  a.tcp _ _ _ (a.gentle.disconnect reason) h

theorem write {packet : WritePacket} (hpacket : P packet) (h : I s) :
    I (s.updateTcp k (·.writeBestEffort packet)) :=
  a.tcp _ _ _ (a.gentle.write hpacket) h

theorem notify (handlerSet : Bool) {cb : Callback} (hcb : cb.isLogin = false) (h : I s) :
    I (s.notify script handlerSet cb) := kept_notify handlerSet a.log (a.calls cb hcb) h

theorem acceptorCallback (cb : AcceptorCallback) (h : I s) :
    I (s.acceptorCallback script k cb) := by
  unfold Acceptor.acceptorCallback
  split
  · exact h
  · exact a.notify _ rfl h

theorem portCallback {cb : PortCallback} (hcb : ∀ p, (Callback.port p cb).isLogin = false)
    (h : I s) : I (s.portCallback script k cb) :=
  kept_portCallback a.log (fun p => a.calls _ (hcb p)) h

theorem eitherCallback {portCb : PortCallback} (acceptorCb : AcceptorCallback)
    (hcb : ∀ p, (Callback.port p portCb).isLogin = false) (h : I s) :
    I (s.eitherCallback script k portCb acceptorCb) := by
  unfold Acceptor.eitherCallback
  split
  · exact h
  · split
    · exact a.portCallback hcb h
    · exact a.acceptorCallback _ h

theorem handleTransportError (ec : IoError) (operation : String) (h : I s) :
    I (s.handleTransportError script k ec operation) :=
  a.tcpDisconnect _ (a.eitherCallback _ (fun _ => rfl) h)

theorem handleProtocolViolation (error : PacketError) (h : I s) :
    I (s.handleProtocolViolation script k error) :=
  a.tcpDisconnect _ (a.eitherCallback _ (fun _ => rfl) (a.log _ s rfl h))

theorem loginTimer : (loginTimerHandler script k).Keeps I where
  update _ _ h := a.same (fun _ => rfl) (fun _ => rfl) (fun _ => rfl) h
  loginTimerError ec operation _ h := a.handleTransportError ec operation h
  loginTimerExpired _ h := a.tcpDisconnect _ h

theorem heartbeatTimer : (heartbeatTimerHandler script k).Keeps I where
  update _ _ _ h := a.same (fun _ => rfl) (fun _ => rfl) (fun _ => rfl) h
  heartbeatTimerError ec operation _ h := a.handleTransportError ec operation h
  heartbeatSendDue _ h := a.write (a.own .heartbeat) h
  heartbeatReceiveTimeout _ h := a.tcpDisconnect _ h

theorem countReceived (h : I s) : I (s.countReceived k) :=
  a.same (fun _ => rfl) (fun _ => rfl) (fun _ => rfl) h

/-- A login is rejected. -/
theorem rejectLogin (reject : LoginReject) (h : I s) : I (s.rejectLogin script k reject) := by
  have htold := a.acceptorCallback (k := k) (.loginFailure reject.reason) h
  have hrejected := a.tcp k _ _ (a.gentle.reject .accessDenied) htold
  exact a.write (a.own (.rejected reject.packet)) hrejected

theorem processUnsequencedData (data : Bytes) (h : I s) :
    I (s.processUnsequencedData script k data).2 := by
  unfold Acceptor.processUnsequencedData
  split
  · exact h
  · dsimp only
    split
    · exact a.countReceived h
    · exact a.portCallback (fun _ => rfl) (a.countReceived h)

theorem processClientHeartbeat (size : Nat) (h : I s) : I (s.processClientHeartbeat k size).2 := by
  unfold Acceptor.processClientHeartbeat
  split
  · exact h
  · split
    · exact h
    · exact a.countReceived h

theorem processLogoutRequest (size : Nat) (h : I s) :
    I (s.processLogoutRequest script k size).2 := by
  unfold Acceptor.processLogoutRequest
  split
  · exact h
  · split
    · exact h
    · exact a.tcpDisconnect _ (a.portCallback (fun _ => rfl) h)

end

/-- A connection is made, begins to read, and then the banner is sent on it. -/
theorem acceptSuccess {J K : Acceptor → Prop} (a : Steady P M script I) (b : Steady P M script J)
    (c : Steady P M script K)
    (hmade : ∀ told limit, told.connections.length = s.connections.length → I told →
      J { told with connections := told.connections ++ [some (accepted told.handlerSet
        { isOpen := true, writePacketsLimit := limit })] })
    (hread : ∀ s', J s' → K (s'.updateTcp s.connections.length (·.updateSocket Socket.asyncRead)))
    (hbanner : ∀ s', K s' → s'.debugBanner ≠ [] → P (.ofData DebugPacket.packetType s'.debugBanner))
    (haside : ∀ s', K s' → K (s'.updateSocketAcceptor SocketAcceptor.asyncAccept)) (h : I s) :
    K (s.acceptSuccess script faults) := by
  have htold : I (s.notify script s.handlerSet (.acceptor .acceptSuccess)) :=
    a.notify s.handlerSet rfl h
  have hmoved : Moves Acceptor.calls s (s.notify script s.handlerSet (.acceptor .acceptSuccess)) :=
    moves_notify _ trivial
  have hlength := hmoved.calls_length
  unfold Acceptor.acceptSuccess
  dsimp only
  generalize s.notify script s.handlerSet (.acceptor .acceptSuccess) = told at htold hlength
  have hconstructed := b.log (.constructed told.connections.length) _ rfl
    (hmade told s.writePacketsLimit hlength htold)
  have hflagged := b.same (k := told.connections.length) (f := (·.setLoginTimerStopped false))
    (fun _ => rfl) (fun _ => rfl) (fun _ => rfl) hconstructed
  have hstarted := (b.loginTimer (k := told.connections.length)).start faults.loginTimer hflagged
  have hreads := hread _ hstarted
  rw [← hlength] at hreads
  have hemplaced : K (told.emplace script faults
    { isOpen := true, writePacketsLimit := s.writePacketsLimit }) := hreads
  generalize told.emplace script faults
    { isOpen := true, writePacketsLimit := s.writePacketsLimit } = made at hemplaced
  apply haside
  split
  · rename_i hne
    exact c.tcp _ _ _ (c.gentle.sendDebugPacket (hbanner _ hemplaced hne)) hemplaced
  · exact hemplaced

end Steady

namespace Serving

section
variable (a : Serving P M script faults I)
include a

theorem processPacket (packet : ReadPacket) (h : I s) :
    I (s.processPacket script faults k packet).2 := by
  unfold Acceptor.processPacket
  dsimp only
  split
  · exact a.eitherCallback _ (fun _ => rfl) h
  · split
    · exact a.login k _ s h
    · split
      · exact a.processUnsequencedData _ h
      · split
        · exact a.processClientHeartbeat _ h
        · split
          · exact a.processLogoutRequest _ h
          · exact h

/-- A packet is processed, and then the next read begins, if it does. -/
theorem readSuccess {J : Acceptor → Prop} (packet : ReadPacket) (h : I s) (hJ : ∀ s', I s' → J s')
    (hread : ∀ s', I s' → J (s'.updateTcp k (·.updateSocket Socket.asyncRead))) :
    J (s.readSuccess script faults k packet) := by
  have hagain {s' : Acceptor} (h : I s') : J (if (s'.tcpState k).isClosing then s'
      else s'.updateTcp k (·.updateSocket Socket.asyncRead)) := by
    split
    · exact hJ _ h
    · exact hread _ h
  have hprocessed : I (s.processPacket script faults k packet).2 := a.processPacket packet h
  have hreported : I (if (s.processPacket script faults k packet).1 ≠ .none then
      (s.processPacket script faults k packet).2.handleProtocolViolation script k
        (s.processPacket script faults k packet).1
      else (s.processPacket script faults k packet).2) := by
    split
    · exact a.handleProtocolViolation _ hprocessed
    · exact hprocessed
  unfold Acceptor.readSuccess
  split
  · exact hJ _ h
  · exact hagain hreported

theorem writeSuccess (h : I s) : I (s.writeSuccess k) := by
  unfold Acceptor.writeSuccess
  split
  · exact a.tcpDisconnect _ h
  · exact h

theorem writeBufferEmpty (h : I s) : I (s.writeBufferEmpty script k) := by
  unfold Acceptor.writeBufferEmpty
  split
  · exact h
  · split
    · exact a.portCallback (fun _ => rfl) h
    · exact h

theorem socket (hsteps : Steps k I) : (socketHandler script faults k).Keeps I where
  update _ hf _ h := hsteps _ (.inl hf) _ h
  connectFailure _ s h := a.log _ s rfl h
  connectSuccess s h := a.log _ s rfl h
  readFailure ec _ h := a.handleTransportError ec _ h
  readPacketFailure error _ h := a.handleProtocolViolation error h
  readSuccess packet _ h :=
    a.readSuccess packet h (fun _ h => h) fun _ h => hsteps _ (.inr rfl) _ h
  readAborted _ h := a.tcpDisconnect _ h
  readEndOfFile _ h := a.tcpDisconnect _ h
  writeFailure ec _ h := a.handleTransportError ec _ h
  writeSuccess _ _ h := a.writeSuccess h
  writeBufferEmpty _ h := a.writeBufferEmpty h

end
end Serving

namespace Enduring

section
variable (a : Enduring P M script faults I)
include a

theorem maybeSignalClosed (h : I s) : I (s.maybeSignalClosed script k) := by
  unfold Acceptor.maybeSignalClosed
  split
  · exact h
  · rename_i t ht
    split
    · have hgone : I ((s.free k t).log (.onClosed k)) := a.log _ _ rfl (a.freed k t s ht h)
      unfold onClosed
      dsimp only
      split
      · exact a.notify _ rfl hgone
      · exact a.notify _ rfl hgone
    · exact h

theorem noted {note : TcpConnection → TcpConnection} (hport : ∀ t, (note t).port = t.port)
    (hstate : ∀ t, (note t).state = t.state) (hsocket : ∀ t, (note t).socket = t.socket)
    (h : I s) : I ((s.updateTcp k note).maybeSignalClosed script k) :=
  a.maybeSignalClosed (a.same hport hstate hsocket h)

theorem updateSocketAcceptor (f : SocketAcceptor → SocketAcceptor) (h : I s) :
    I (s.updateSocketAcceptor f) := a.aside s _ rfl rfl rfl rfl h

/-- An accept that brings no connection. -/
theorem acceptCompleted {ec : Option IoError} (hec : ec ≠ none) (h : I s) :
    I (s.acceptCompleted script faults ec) := by
  have hdone : I (s.updateSocketAcceptor SocketAcceptor.acceptDone) :=
    a.updateSocketAcceptor _ h
  unfold Acceptor.acceptCompleted
  dsimp only
  split
  · exact absurd rfl hec
  · exact hdone
  · exact a.updateSocketAcceptor _ (a.notify _ rfl hdone)

theorem endSessionOf (p : Nat) (h : I s) : I (s.endSessionOf p) := by
  unfold Acceptor.endSessionOf
  split
  · exact h
  · rename_i port _
    split
    · exact h
    · have hended := a.ended p s h
      rcases (s.updatePort p Port.setSessionEnded).sendWith_eq
        (·.sendPacket (.ofType EndOfSessionPacket.packetType)) port.connection with
        heq | ⟨k, -, heq⟩
      · rw [heq]
        exact hended
      · rw [heq]
        exact a.tcp _ _ _ (a.gentle.sendPacket (a.own .endOfSession)) hended

theorem endSessions (h : I s) : I s.endSessions := by
  have hports (ports : List Nat) (s : Acceptor) (h : I s) :
      I (ports.foldl (fun s p => s.endSessionOf p) s) := by
    induction ports generalizing s with
    | nil => exact h
    | cons p ports ih => exact ih _ (a.endSessionOf p h)
  exact hports _ s h

theorem stopAccepting (h : I s) : I s.stopAccepting := by
  unfold Acceptor.stopAccepting
  dsimp only
  have hclosed : I (s.updateSocketAcceptor SocketAcceptor.close) := a.aside s _ rfl rfl rfl rfl h
  generalize s.updateSocketAcceptor SocketAcceptor.close = s at hclosed
  apply map_of_modify (P := fun slots => I { s with connections := slots })
  · intro k slots hslots
    exact a.tcp k _ _ (a.gentle.disconnect .userInitiated) hslots
  · exact hclosed

theorem startAccepting (h : I s) : I (s.startAccepting script faults) := by
  have hopened : I (if faults.openAcceptor = none then
      s.updateSocketAcceptor SocketAcceptor.openAcceptor else s) := by
    split
    · exact a.aside s _ rfl rfl rfl rfl h
    · exact h
  unfold Acceptor.startAccepting
  dsimp only
  split
  · exact a.notify _ rfl hopened
  · exact a.updateSocketAcceptor _ (a.notify _ rfl hopened)

theorem runPosted (posted : Posted) (h : I s) : I (Acceptor.runPosted script faults posted s) := by
  cases posted with
  | start =>
    simp only [Acceptor.runPosted]
    split
    · exact h
    · exact a.startAccepting (a.aside s _ rfl rfl rfl rfl h)
  | endSession =>
    simp only [Acceptor.runPosted]
    split
    · exact a.endSessions h
    · exact h
  | stop =>
    simp only [Acceptor.runPosted]
    split
    · exact a.stopAccepting (a.aside s _ rfl rfl rfl rfl h)
    · exact h

end

/-- Every event keeps it, if a call of the user does, a new connection, and the socket
itself. -/
theorem handle {env : Env} (a : Enduring P M env.calls env.faults I) (event : Event)
    (hcall : ∀ call, event = .call call → I (call.run s))
    (haccept : event = .acceptCompleted none → I (s.handle env event))
    (hsteps : ∀ k, event.socket? = some k → Steps k I)
    (hclosed : ∀ k, event = .socketClosed k → I (s.updateTcp k TcpConnection.noteClosed))
    (h : I s) : I (s.handle env event) := by
  cases event with
  | call call => exact hcall call rfl
  | posted n =>
    simp only [Acceptor.handle]
    split
    · exact h
    · exact a.runPosted _ (a.aside s _ rfl rfl rfl rfl h)
  | acceptCompleted ec =>
    cases ec with
    | none => exact haccept rfl
    | some ec => exact a.acceptCompleted (Option.some_ne_none ec) h
  | headerCompleted k result => exact (a.socket (hsteps k rfl)).headerCompleted result h
  | payloadCompleted k result => exact (a.socket (hsteps k rfl)).payloadCompleted result h
  | writeCompleted k result => exact (a.socket (hsteps k rfl)).writeCompleted result h
  | socketClosed k => exact a.maybeSignalClosed (hclosed k rfl)
  | loginTimerWait k ec => exact a.loginTimer.waitCompleted ec h
  | loginTimerStopped k => exact a.noted (fun _ => rfl) (fun _ => rfl) (fun _ => rfl) h
  | heartbeatTimerWait k ec => exact a.heartbeatTimer.waitCompleted ec _ h
  | heartbeatTimerStopped k => exact a.noted (fun _ => rfl) (fun _ => rfl) (fun _ => rfl) h

end Enduring

end Acceptor

end SoupBin.ServerSide
