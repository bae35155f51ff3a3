import SoupBin.ServerMoves

/-!
# Every event is made of moves

For each function of the acceptor, the moves it is made of, whatever the user
does from inside the callbacks.
-/

namespace SoupBin.ServerSide

/-- In these events a socket takes steps of its own. -/
def Event.usesSocket : Event → Bool
  | .acceptCompleted _ | .headerCompleted _ _ | .payloadCompleted _ _ | .writeCompleted _ _ => true
  | _ => false

namespace Acceptor

variable {R : Rules} {script : Script} {faults : Faults} {s : Acceptor} {k : Nat}

/-! ## Tcp_connection -/

theorem moves_acceptorCallback {cb : AcceptorCallback}
    (hcb : ∀ handlerSet, R.notes (.called handlerSet (.acceptor cb))) :
    Moves R s (s.acceptorCallback script k cb) := by
  unfold acceptorCallback
  split
  · exact .refl s
  · exact moves_notify _ (hcb _)

theorem moves_portCallback {cb : PortCallback}
    (hcb : ∀ handlerSet p, R.notes (.called handlerSet (.port p cb))) :
    Moves R s (s.portCallback script k cb) := by
  unfold portCallback
  split
  · exact .refl s
  · split
    · exact .log trivial
    · exact moves_notify _ (hcb _ _)

theorem moves_eitherCallback {portCb : PortCallback} {acceptorCb : AcceptorCallback}
    (hport : ∀ handlerSet p, R.notes (.called handlerSet (.port p portCb)))
    (hacceptor : ∀ handlerSet, R.notes (.called handlerSet (.acceptor acceptorCb))) :
    Moves R s (s.eitherCallback script k portCb acceptorCb) := by
  unfold eitherCallback
  split
  · exact .refl s
  · split
    · exact moves_portCallback hport
    · exact moves_acceptorCallback hacceptor

theorem tcp?_of_state {state : State} (hs : (s.tcpState k).state = state)
    (hstate : state ≠ .connecting) :
    ∃ t, s.tcp? k = some t ∧ t.state.state = state := by
  cases ht : s.tcp? k with
  | none =>
    simp only [tcpState, ht, Option.map_none, Option.getD_none] at hs
    exact absurd hs.symm hstate
  | some t => exact ⟨t, rfl, by simpa [tcpState, ht] using hs⟩

theorem tcpState_of_bearing {s' : Acceptor} (h : s'.bearing k = s.bearing k) :
    s'.tcpState k = s.tcpState k := by
  have hstate (s : Acceptor) : s.tcpState k = ((s.bearing k).map Prod.fst).getD {} := by
    rw [tcpState, bearing, Option.map_map]
    rfl
  rw [hstate, hstate, h]

/-- No event, only the calls of the user. -/
def calls : Rules where
  socket _ := False
  aborts := False
  ends := False
  active _ := False
  login _ _ := False
  errors := False
  tells _ := False

theorem Moves.calls_bearing {s' : Acceptor} (hm : Moves calls s s') (k : Nat) :
    s'.bearing k = s.bearing k :=
  hm.bearing (fun _ _ hl => hl) fun ha => ha

section
variable (hk : R.active k)
include hk

theorem moves_act {f : TcpConnection → TcpConnection}
    (hf : ∀ t, TcpConnection.Act R.toAllowed t (f t)) : Moves R s (s.updateTcp k f) :=
  .tcp hk fun t _ => hf t

theorem moves_tcpDisconnect {reason : DisconnectReason}
    (hreason : reason ≠ .none ∧ reason ≠ .unmanagedAbort) :
    Moves R s (s.tcpDisconnect k reason) :=
  moves_act hk (TcpConnection.act_disconnect hreason)

/-- A packet of another type than End of Session. -/
theorem moves_write {packet : WritePacket}
    (htype : packet.packetType ≠ EndOfSessionPacket.packetType) :
    Moves R s (s.updateTcp k (·.writeBestEffort packet)) :=
  moves_act hk (.write packet · fun h => absurd h htype)

theorem moves_handleTransportError (herrors : R.errors) (ec : IoError) (operation : String) :
    Moves R s (s.handleTransportError script k ec operation) := by
  have htold : Moves R s (s.eitherCallback script k (.transportError ec operation)
      (.transportError ec operation)) :=
    moves_eitherCallback (fun _ _ => herrors) fun _ => herrors
  exact htold.trans (moves_tcpDisconnect hk (by decide))

theorem moves_handleProtocolViolation (herrors : R.errors) (error : PacketError) :
    Moves R s (s.handleProtocolViolation script k error) := by
  have hlogged : Moves R s (s.log (.violation k error)) := .log trivial
  have htold {s : Acceptor} : Moves R s (s.eitherCallback script k (.protocolViolation error)
      (.protocolViolation error)) :=
    moves_eitherCallback (fun _ _ => herrors) fun _ => herrors
  exact (hlogged.trans htold).trans (moves_tcpDisconnect hk (by decide))

theorem moves_loginTimer (herrors : R.errors) :
    (loginTimerHandler script k).Keeps (Moves R s) where
  update f _ h := h.trans (moves_act hk (.loginTimer f))
  loginTimerError ec operation _ h := h.trans (moves_handleTransportError hk herrors ec operation)
  loginTimerExpired _ h := h.trans (moves_tcpDisconnect hk (by decide))

theorem moves_heartbeatTimer (herrors : R.errors) :
    (heartbeatTimerHandler script k).Keeps (Moves R s) where
  update _ hf _ h := h.trans (moves_act hk fun _ => .heartbeatTimer (Or.inl (hf.started _)))
  heartbeatTimerError ec operation _ h :=
    h.trans (moves_handleTransportError hk herrors ec operation)
  heartbeatSendDue _ h := h.trans (moves_write hk (by decide))
  heartbeatReceiveTimeout _ h := h.trans (moves_tcpDisconnect hk (by decide))

/-! ### Login requests -/

omit hk in
/-- The callback of a login finds the connection logged in, and leaves it so. -/
theorem loggedIn_told (response : LoginAcceptedPacket) {t : TcpConnection}
    (ht : (((s.log (.loginAccepted k response)).updateTcp k (·.setState .loggedIn)).portCallback
      script k (.loginSuccess response)).tcp? k = some t) : t.state.state = .loggedIn := by
  generalize hseated : (s.log (.loginAccepted k response)).updateTcp k (·.setState .loggedIn) =
    seated at ht
  have htold : Moves calls seated (seated.portCallback script k (.loginSuccess response)) :=
    moves_portCallback fun _ _ => trivial
  have hbearing := htold.calls_bearing k
  rw [bearing_of_tcp ht] at hbearing
  obtain ⟨u, hu, hstate, -⟩ := bearing_eq_some hbearing.symm
  rw [← hseated, tcp?_updateTcp, if_pos rfl] at hu
  obtain ⟨v, -, rfl⟩ := Option.map_eq_some_iff.mp hu
  rw [← hstate]
  rfl

/-- The heartbeat timer of a connection that has logged in is started. -/
theorem moves_setStarted (script : Script) (response : LoginAcceptedPacket) {flagged : Acceptor}
    (hflagged : flagged = (((s.log (.loginAccepted k response)).updateTcp k
      (·.setState .loggedIn)).portCallback script k (.loginSuccess response)).updateTcp k
        (·.setHeartbeatTimerStopped false)) :
    Moves R flagged ((heartbeatTimerHandler script k).update HeartbeatTimer.setStarted flagged) := by
  apply Moves.tcp hk
  intro t ht
  apply TcpConnection.Act.heartbeatTimer
  right
  rw [hflagged, tcp?_updateTcp, if_pos rfl] at ht
  obtain ⟨u, hu, rfl⟩ := Option.map_eq_some_iff.mp ht
  show u.state.state ≠ .connected
  rw [loggedIn_told response hu]
  decide

/-- What follows once the connection has its seat. -/
theorem moves_acceptLogin (herrors : R.errors) (response : LoginAcceptedPacket) :
    Moves R ((s.log (.loginAccepted k response)).updateTcp k (·.setState .loggedIn))
      (s.acceptLogin script faults k response) := by
  have htold : Moves R ((s.log (.loginAccepted k response)).updateTcp k (·.setState .loggedIn))
      (((s.log (.loginAccepted k response)).updateTcp k (·.setState .loggedIn)).portCallback
        script k (.loginSuccess response)) := moves_portCallback fun _ _ => trivial
  have htimer : (heartbeatTimerHandler script k).Keeps
      (Moves R ((s.log (.loginAccepted k response)).updateTcp k (·.setState .loggedIn))) :=
    moves_heartbeatTimer hk herrors
  have hstarted := htimer.start faults.heartbeatTimer faults.heartbeatSchedule
    (fun h => h.trans (moves_setStarted hk script response rfl))
    (htold.trans (moves_act hk (.heartbeatTimerStopped false)))
  refine hstarted.trans (moves_write hk ?_)
  rw [WritePacket.packetType_written]
  decide

theorem moves_rejectLogin (hs : (s.tcpState k).state = .connected) (reject : LoginReject) :
    Moves R s (s.rejectLogin script k reject) := by
  have htold (R : Rules) : Moves R s (s.acceptorCallback script k (.loginFailure reject.reason)) :=
    moves_acceptorCallback fun _ => trivial
  have hstate := tcpState_of_bearing ((htold calls).calls_bearing k)
  have hrejected : Moves R (s.acceptorCallback script k (.loginFailure reject.reason))
      ((s.acceptorCallback script k (.loginFailure reject.reason)).updateTcp k
        (·.prepareGracefulDisconnect .accessDenied)) := by
    apply Moves.tcp hk
    intro t ht
    apply TcpConnection.Act.reject
    · simp only [tcpState, ht, Option.map_some, Option.getD_some] at hstate hs
      rw [hstate]
      exact hs
    · decide
    · decide
  refine ((htold R).trans hrejected).trans (moves_write hk ?_)
  rw [WritePacket.packetType_written]
  decide

/-- The port takes the connection: it supersedes the one it had, and the two are joined. -/
theorem moves_onLoginRequestAt {p : Nat} {port : Port} {request : LoginRequestPacket}
    {response : LoginAcceptedPacket} {s' : Acceptor} (hlogin : R.login k request)
    (hs : (s.tcpState k).state = .connected) (hfree : s.Unpointed k)
    (hport : s.ports[p]? = some port) (husername : port.username = request.username)
    (heq : s.onLoginRequestAt p k port request = (.ok response, s')) :
    Moves R s ((s'.log (.loginAccepted k response)).updateTcp k (·.setState .loggedIn)) := by
  obtain ⟨t, ht, hconnected⟩ := tcp?_of_state hs (by decide)
  unfold onLoginRequestAt at heq
  split at heq
  · cases heq
  · rename_i hpassword
    have hpassword : request.password = port.password := not_not.mp hpassword
    split at heq
    · cases heq
    · dsimp only at heq
      have hrewound : ((port.setConnection (some k)).rewind request.nextSequenceNumber).connection =
          some k ∧ ((port.setConnection (some k)).rewind request.nextSequenceNumber).username =
            port.username ∧ ((port.setConnection (some k)).rewind
              request.nextSequenceNumber).password = port.password := by
        unfold Port.rewind
        split <;> exact ⟨rfl, rfl, rfl⟩
      have hended : ((port.setConnection (some k)).rewind request.nextSequenceNumber).hasSessionEnded =
          port.hasSessionEnded := by
        unfold Port.rewind
        split <;> rfl
      cases hold : port.connection with
      | none =>
        rw [hold] at heq
        cases heq
        refine .seat _ hk hlogin hport ⟨husername.symm, hpassword⟩ hrewound hended ht hconnected ?_
        rintro old u hu -
        rw [hold] at hu
        cases hu
      | some old =>
        rw [hold] at heq
        cases heq
        have hne : old ≠ k := by
          rintro rfl
          exact hfree p port hport hold
        have ht' : (s.updateTcp old TcpConnection.supersede).tcp? k = some t := by
          rw [tcp?_updateTcp, if_neg hne, ht]
        apply (Moves.supersede hlogin hport hold).trans
        refine .seat _ hk hlogin hport ⟨husername.symm, hpassword⟩ hrewound hended ht' hconnected ?_
        intro old' u hold' hu
        cases hold.symm.trans hold'
        rw [tcp?_updateTcp, if_pos rfl] at hu
        obtain ⟨v, -, rfl⟩ := Option.map_eq_some_iff.mp hu
        simp only [TcpConnection.supersede, TcpConnection.disconnect, ConnectionState.disconnect]
        by_cases hdown : v.state.state = .disconnected <;> simp [hdown]

theorem moves_onLoginRequest {request : LoginRequestPacket} {response : LoginAcceptedPacket}
    {s' : Acceptor} (hlogin : R.login k request) (hs : (s.tcpState k).state = .connected)
    (hfree : s.Unpointed k) (heq : s.onLoginRequest k request = (.ok response, s')) :
    Moves R s ((s'.log (.loginAccepted k response)).updateTcp k (·.setState .loggedIn)) := by
  unfold onLoginRequest at heq
  split at heq
  · cases heq
  · rename_i p hp
    split at heq
    · cases heq
    · rename_i port hport
      have husername : port.username = request.username := by
        obtain ⟨hlt, hfound, -⟩ := List.findIdx?_eq_some_iff_getElem.mp hp
        obtain ⟨hlt', rfl⟩ := List.getElem?_eq_some_iff.mp hport
        simpa using hfound
      exact moves_onLoginRequestAt hk hlogin hs hfree hport husername heq

omit hk in
/-- A request that is rejected changes nothing. -/
theorem onLoginRequest_rejected {request : LoginRequestPacket} {reject : LoginReject}
    {s' : Acceptor} (heq : s.onLoginRequest k request = (.error reject, s')) : s' = s := by
  unfold onLoginRequest at heq
  split at heq
  · cases heq
    rfl
  · split at heq
    · cases heq
      rfl
    · unfold onLoginRequestAt at heq
      split at heq
      · cases heq
        rfl
      · split at heq
        · cases heq
          rfl
        · cases heq

omit hk in
/-- The request is put to the acceptor, whatever it answers. -/
theorem answerLogin_eq (script : Script) (s : Acceptor) (data : Bytes) :
    s.answerLogin script k data = ((s.updateTcp k (·.updateLoginTimer LoginTimer.stop)
      ).acceptorCallback script k (.loginRequest (.read data))).onLoginRequest k (.read data) := rfl

/-- A login request is no packet to take, or it is accepted or rejected. -/
theorem processLoginRequest_cases (script : Script) (faults : Faults) (data : Bytes)
    (hfree : (s.tcpState k).state = .connected → s.Unpointed k)
    (hlogin : data.length = LoginRequestPacket.payloadSize → (s.tcpState k).state = .connected →
      ∀ response, (s.answerLogin script k data).1 = .ok response → R.login k (.read data)) :
    (∃ error, error ≠ .none ∧ s.processLoginRequest script faults k data = (error, s)) ∨
    (∃ (s' : Acceptor) (response : LoginAcceptedPacket), Moves R s
        ((s'.log (.loginAccepted k response)).updateTcp k (·.setState .loggedIn)) ∧
      s.processLoginRequest script faults k data =
        (.none, s'.acceptLogin script faults k response)) ∨
    ∃ (s' : Acceptor) (reject : LoginReject), Moves R s s' ∧ (s'.tcpState k).state = .connected ∧
      s.processLoginRequest script faults k data = (.none, s'.rejectLogin script k reject) := by
  unfold processLoginRequest
  split
  · exact Or.inl ⟨_, by decide, rfl⟩
  · rename_i hlength
    split
    · exact Or.inl ⟨_, by decide, rfl⟩
    · rename_i hs
      right
      have hs : (s.tcpState k).state = .connected := not_not.mp hs
      have hlogin := hlogin (not_not.mp hlength) hs
      rw [answerLogin_eq] at hlogin ⊢
      have hstopped : Moves R s (s.updateTcp k (·.updateLoginTimer LoginTimer.stop)) :=
        moves_act hk (.loginTimer _)
      have hasked (R : Rules) : Moves R (s.updateTcp k (·.updateLoginTimer LoginTimer.stop))
          ((s.updateTcp k (·.updateLoginTimer LoginTimer.stop)).acceptorCallback script k
            (.loginRequest (.read data))) := moves_acceptorCallback fun _ => trivial
      have hbearing : ((s.updateTcp k (·.updateLoginTimer LoginTimer.stop)).acceptorCallback script k
          (.loginRequest (.read data))).bearing k = s.bearing k :=
        ((hasked calls).calls_bearing k).trans (bearing_updateTcp k fun _ t _ => ⟨rfl, rfl⟩)
      have hfree := (hasked calls).unpointed (k := k) (fun _ hl => hl) (hfree hs)
      have hs := (congrArg ConnectionState.state (tcpState_of_bearing hbearing)).trans hs
      have hreached := hstopped.trans (hasked R)
      revert hs hfree hreached hlogin
      generalize (s.updateTcp k (·.updateLoginTimer LoginTimer.stop)).acceptorCallback script k
        (.loginRequest (.read data)) = asked
      intro hlogin hfree hs hreached
      split
      · rename_i response s' heq
        have hlogin := hlogin response (congrArg Prod.fst heq)
        exact Or.inl ⟨s', response,
          hreached.trans (moves_onLoginRequest hk hlogin hs hfree heq), rfl⟩
      · rename_i reject s' heq
        cases onLoginRequest_rejected heq
        exact Or.inr ⟨_, reject, hreached, hs, rfl⟩

theorem moves_processLoginRequest (herrors : R.errors) (data : Bytes)
    (hfree : (s.tcpState k).state = .connected → s.Unpointed k)
    (hlogin : data.length = LoginRequestPacket.payloadSize → (s.tcpState k).state = .connected →
      ∀ response, (s.answerLogin script k data).1 = .ok response → R.login k (.read data)) :
    Moves R s (s.processLoginRequest script faults k data).2 := by
  rcases processLoginRequest_cases hk script faults data hfree hlogin with
    ⟨error, -, heq⟩ | ⟨s', response, hmoves, heq⟩ | ⟨s', reject, hmoves, hs, heq⟩
  · rw [heq]
    exact .refl s
  · rw [heq]
    exact hmoves.trans (moves_acceptLogin hk herrors response)
  · rw [heq]
    exact hmoves.trans (moves_rejectLogin hk hs reject)

/-! ### Reading -/

omit hk in
/-- The connection `k` takes the packet for a login request. -/
def asks (k : Nat) (packet : ReadPacket) (s : Acceptor) : Prop :=
  (s.tcpState k).state = .connected ∧ packet.packetType = LoginRequestPacket.packetType ∧
    packet.payload.length = LoginRequestPacket.payloadSize

omit hk in
/-- The login request that a packet is, if it is accepted. -/
def admits (script : Script) (k : Nat) (packet : ReadPacket) (request : LoginRequestPacket)
    (s : Acceptor) : Prop :=
  s.asks k packet ∧ request = LoginRequestPacket.read packet.payload ∧
    ∃ response, (s.answerLogin script k packet.payload).1 = .ok response

theorem moves_countReceived : Moves R s (s.countReceived k) :=
  moves_act hk fun _ => .heartbeatTimer (Or.inl rfl)

theorem moves_processUnsequencedData (data : Bytes) :
    Moves R s (s.processUnsequencedData script k data).2 := by
  unfold processUnsequencedData
  split
  · exact .refl s
  · dsimp only
    split
    · exact moves_countReceived hk
    · exact (moves_countReceived hk).trans (moves_portCallback fun _ _ => trivial)

theorem moves_processClientHeartbeat (size : Nat) :
    Moves R s (s.processClientHeartbeat k size).2 := by
  unfold processClientHeartbeat
  split
  · exact .refl s
  · split
    · exact .refl s
    · exact moves_countReceived hk

theorem moves_processLogoutRequest (size : Nat) :
    Moves R s (s.processLogoutRequest script k size).2 := by
  unfold processLogoutRequest
  split
  · exact .refl s
  · split
    · exact .refl s
    · have htold : Moves R s (s.portCallback script k .logoutRequest) :=
        moves_portCallback fun _ _ => trivial
      exact htold.trans (moves_tcpDisconnect hk (by decide))

theorem moves_processPacket (herrors : R.errors) (packet : ReadPacket)
    (hfree : (s.tcpState k).state = .connected → s.Unpointed k)
    (hlogin : ∀ request, s.admits script k packet request → R.login k request) :
    Moves R s (s.processPacket script faults k packet).2 := by
  unfold processPacket
  dsimp only
  split
  · exact moves_eitherCallback (fun _ _ => trivial) fun _ => trivial
  · split
    · rename_i htype
      exact moves_processLoginRequest hk herrors _ hfree fun hlength hs response hok =>
        hlogin _ ⟨⟨hs, htype, hlength⟩, rfl, response, hok⟩
    · split
      · exact moves_processUnsequencedData hk _
      · split
        · exact moves_processClientHeartbeat hk _
        · split
          · exact moves_processLogoutRequest hk _
          · exact .refl s

/-- The packet has been processed, and what it did wrong reported. -/
theorem moves_packetProcessed (herrors : R.errors) (script : Script) (faults : Faults)
    (packet : ReadPacket)
    (hfree : (s.tcpState k).state = .connected → s.Unpointed k)
    (hlogin : ∀ request, s.admits script k packet request → R.login k request) :
    Moves R s (if (s.processPacket script faults k packet).1 ≠ .none then
      (s.processPacket script faults k packet).2.handleProtocolViolation script k
        (s.processPacket script faults k packet).1 else (s.processPacket script faults k packet).2) := by
  have hprocessed : Moves R s (s.processPacket script faults k packet).2 :=
    moves_processPacket hk herrors packet hfree hlogin
  split
  · exact hprocessed.trans (moves_handleProtocolViolation hk herrors _)
  · exact hprocessed

theorem moves_readSuccess (herrors : R.errors) (hread : R.socket Socket.asyncRead)
    (packet : ReadPacket)
    (hfree : (s.tcpState k).state = .connected → s.Unpointed k)
    (hlogin : ∀ request, s.admits script k packet request → R.login k request) :
    Moves R s (s.readSuccess script faults k packet) := by
  have hprocessed := moves_packetProcessed (s := s) hk herrors script faults packet hfree hlogin
  have hagain {s' : Acceptor} (h : Moves R s s') : Moves R s
      (if (s'.tcpState k).isClosing then s' else s'.updateTcp k (·.updateSocket Socket.asyncRead))
      := by
    split
    · exact h
    · exact h.trans (moves_act hk (.socket · hread))
  unfold readSuccess
  split
  · exact .refl s
  · exact hagain hprocessed

theorem moves_writeSuccess : Moves R s (s.writeSuccess k) := by
  unfold writeSuccess
  split
  · rename_i hs
    apply Moves.tcp hk
    intro t ht
    refine .disconnect _ t (by decide) fun _ => Or.inr (Or.inr ?_)
    simpa [tcpState, ht] using hs
  · exact .refl s

omit hk in
theorem moves_writeBufferEmpty : Moves R s (s.writeBufferEmpty script k) := by
  unfold writeBufferEmpty
  split
  · exact .refl s
  · split
    · exact moves_portCallback fun _ _ => trivial
    · exact .refl s

theorem moves_socket (herrors : R.errors) (hsocket : ∀ f, Socket.Handler.Internal f → R.socket f) :
    (socketHandler script faults k).KeepsUnread (Moves R s) where
  update f hf _ h := h.trans (moves_act hk (.socket · (hsocket f hf)))
  connectFailure _ _ h := h.trans (.log trivial)
  readFailure ec _ h := h.trans (moves_handleTransportError hk herrors ec _)
  readPacketFailure error _ h := h.trans (moves_handleProtocolViolation hk herrors error)
  readEndOfFile _ h := h.trans (moves_tcpDisconnect hk (by decide))
  writeFailure ec _ h := h.trans (moves_handleTransportError hk herrors ec _)
  writeSuccess _ _ h := h.trans (moves_writeSuccess hk)
  writeBufferEmpty _ h := h.trans moves_writeBufferEmpty

/-! ### Closed -/

theorem moves_maybeSignalClosed (htells : ∀ t, s.tcp? k = some t → t.socketClosed = true →
    R.tells t.state.reason) : Moves R s (s.maybeSignalClosed script k) := by
  unfold maybeSignalClosed
  split
  · exact .refl s
  · rename_i t ht
    split
    · rename_i hsignal
      have hclosed : t.socketClosed = true := by
        simp only [Bool.and_eq_true] at hsignal
        exact hsignal.1.1
      have hfreed : Moves R s (s.free k t) := .freed hk ht hclosed
      have hgone : Moves R s ((s.free k t).log (.onClosed k)) := hfreed.trans (.log trivial)
      have htells := htells t ht hclosed
      unfold onClosed
      dsimp only
      split
      · exact hgone.trans (moves_notify _ htells)
      · exact hgone.trans (moves_notify _ htells)
    · exact .refl s

/-- A notification has been noted, and the connection may be gone. -/
theorem moves_noted {note : TcpConnection → TcpConnection}
    (hnote : Moves R s (s.updateTcp k note)) (hstate : ∀ t, (note t).state = t.state)
    (htells : ∀ t, s.tcp? k = some t → (note t).socketClosed = true → R.tells t.state.reason) :
    Moves R s ((s.updateTcp k note).maybeSignalClosed script k) := by
  refine hnote.trans (moves_maybeSignalClosed hk ?_)
  intro u hu hclosed
  rw [tcp?_updateTcp, if_pos rfl] at hu
  obtain ⟨t, ht, rfl⟩ := Option.map_eq_some_iff.mp hu
  rw [hstate]
  exact htells t ht hclosed

theorem moves_closed (hready : ∀ t, s.tcp? k = some t → 0 < t.socket.posted)
    (htells : ∀ t, s.tcp? k = some t → 0 < t.socket.posted → R.tells t.state.reason) :
    Moves R s (s.closed script k) := by
  refine moves_noted hk (.tcp hk fun t ht => .noteClosed (hready t ht)) (fun _ => rfl) ?_
  exact fun t ht _ => htells t ht (hready t ht)

theorem moves_loginTimerStopped
    (htells : ∀ t, s.tcp? k = some t → t.socketClosed = true → R.tells t.state.reason) :
    Moves R s (s.loginTimerStopped script k) :=
  moves_noted hk (moves_act hk (TcpConnection.act_noteLoginTimerStopped R.toAllowed))
    (fun _ => rfl) htells

theorem moves_heartbeatTimerStopped
    (htells : ∀ t, s.tcp? k = some t → t.socketClosed = true → R.tells t.state.reason) :
    Moves R s (s.heartbeatTimerStopped script k) :=
  moves_noted hk (moves_act hk (TcpConnection.act_noteHeartbeatTimerStopped R.toAllowed))
    (fun _ => rfl) htells

end

/-! ## Accepting -/

/-- The calls of the user destroy no connection, and make none. -/
theorem Moves.calls_length {s' : Acceptor} (hm : Moves calls s s') :
    s'.connections.length = s.connections.length := by
  induction hm with
  | refl s => rfl
  | trans _ _ ih₁ ih₂ => exact ih₂.trans ih₁
  | aside ha => rw [ha.connections]
  | port _ _ => rfl
  | added _ _ => rfl
  | send _ _ _ => exact length_updateTcp _ _ _
  | tcp ha _ => exact ha.elim
  | supersede hl => exact hl.elim
  | seat _ ha => exact ha.elim
  | emplaced _ _ ha => exact ha.elim
  | freed ha _ _ => exact ha.elim

/-- A connection is constructed, and then begins to read. -/
theorem emplace_eq (script : Script) (faults : Faults) (s : Acceptor) (limit : Nat) :
    ∃ s', (∀ R : Rules, R.active s.connections.length → R.errors → Moves R s s') ∧
      s.emplace script faults { isOpen := true, writePacketsLimit := limit } =
        s'.updateTcp s.connections.length (·.updateSocket Socket.asyncRead) := by
  refine ⟨_, fun R hk herrors => ?_, rfl⟩
  have hconstructed {s : Acceptor} (j : Nat) : Moves R s (s.log (.constructed j)) := .log trivial
  have hmade := (Moves.emplaced s.handlerSet limit hk).trans (hconstructed s.connections.length)
  exact (moves_loginTimer hk herrors).start faults.loginTimer
    (hmade.trans (moves_act hk (.loginTimerStopped false)))

theorem moves_emplace (script : Script) (faults : Faults) (hk : R.active s.connections.length)
    (herrors : R.errors) (hread : R.socket Socket.asyncRead) (limit : Nat) :
    Moves R s (s.emplace script faults { isOpen := true, writePacketsLimit := limit }) := by
  obtain ⟨s', hmade, heq⟩ := emplace_eq script faults s limit
  rw [heq]
  exact (hmade R hk herrors).trans (moves_act hk (.socket · hread))

theorem moves_acceptSuccess (hk : R.active s.connections.length) (herrors : R.errors)
    (hread : R.socket Socket.asyncRead) : Moves R s (s.acceptSuccess script faults) := by
  unfold acceptSuccess
  dsimp only
  have htold (R : Rules) : Moves R s (s.notify script s.handlerSet (.acceptor .acceptSuccess)) :=
    moves_notify _ trivial
  have hlength := (htold calls).calls_length
  rw [← hlength] at hk
  have hmade := (htold R).trans (moves_emplace script faults hk herrors hread s.writePacketsLimit)
  have hagain {s' : Acceptor} (h : Moves R s s') :
      Moves R s (s'.updateSocketAcceptor SocketAcceptor.asyncAccept) := h.trans (.quiet rfl rfl rfl)
  apply hagain
  split
  · exact hmade.trans (moves_act hk (.debug _))
  · exact hmade

theorem moves_acceptCompleted (hk : R.active s.connections.length) (herrors : R.errors)
    (hread : R.socket Socket.asyncRead) (ec : Option IoError) :
    Moves R s (s.acceptCompleted script faults ec) := by
  have hdone : Moves R s (s.updateSocketAcceptor SocketAcceptor.acceptDone) := .quiet rfl rfl rfl
  unfold acceptCompleted
  dsimp only
  split
  · exact hdone.trans (moves_acceptSuccess hk herrors hread)
  · exact hdone
  · rename_i ec _
    have hfailed {s : Acceptor} : Moves R s (s.notify script s.handlerSet
        (.acceptor (.acceptFailure ec))) := moves_notify _ trivial
    exact hdone.trans (hfailed.trans (.quiet rfl rfl rfl))

theorem moves_startAccepting : Moves R s (s.startAccepting script faults) := by
  have hopened : Moves R s (if faults.openAcceptor = none then
      s.updateSocketAcceptor SocketAcceptor.openAcceptor else s) := by
    split
    · exact .quiet rfl rfl rfl
    · exact .refl s
  unfold startAccepting
  dsimp only
  split
  · exact hopened.trans (moves_notify _ trivial)
  · have htold {s : Acceptor} : Moves R s (s.notify script s.handlerSet
        (.acceptor .listenSetupSuccess)) := moves_notify _ trivial
    exact hopened.trans (htold.trans (.quiet rfl rfl rfl))

theorem moves_endSessionsOf (hends : R.ends) (ports : List Nat) :
    Moves R s (ports.foldl (fun s p => s.endSessionOf p) s) := by
  induction ports generalizing s with
  | nil => exact .refl s
  | cons p ports ih => exact (moves_endSessionOf hends p).trans ih

theorem moves_endSessions (hends : R.ends) : Moves R s s.endSessions :=
  moves_endSessionsOf hends _

/-- Every connection is closed. -/
theorem moves_stopAccepting (hall : ∀ k, R.active k) : Moves R s s.stopAccepting := by
  have hclosed : Moves R s (s.updateSocketAcceptor SocketAcceptor.close) := .quiet rfl rfl rfl
  apply map_of_modify (P := fun l =>
    Moves R s { s.updateSocketAcceptor SocketAcceptor.close with connections := l })
  · intro n l hl
    exact hl.trans (moves_act (hall n) (TcpConnection.act_disconnect (by decide)))
  · exact hclosed

/-! ## Events -/

/-- The packet whose payload has been read, and the state in which it is processed. -/
def payloadRead (k : Nat) (bytes : Bytes) (s : Acceptor) : ReadPacket × Acceptor :=
  let s := s.updateTcp k (·.updateSocket (Socket.readDone .readPayload))
  let packet := ((Option.map TcpConnection.socket (s.tcp? k)).getD {}).readPacket
  ({ packet with payload := bytes }, s.updateTcp k (·.updateSocket (Socket.setReadPacket {})))

/-- The connections that an event is about. -/
def isAbout (event : Event) (s : Acceptor) (k : Nat) : Prop :=
  match event with
  | .call _ => False
  | .posted n => s.posted[n]? = some .stop ∧ s.started = true
  | .acceptCompleted _ => k = s.connections.length
  | .headerCompleted j _ | .payloadCompleted j _ | .writeCompleted j _ | .socketClosed j
  | .loginTimerWait j _ | .loginTimerStopped j | .heartbeatTimerWait j _
  | .heartbeatTimerStopped j => k = j

/-- The packet that the connection `k` is reading. -/
def readPacket (k : Nat) (s : Acceptor) : ReadPacket :=
  ((s.tcp? k).map (·.socket.readPacket)).getD {}

/-- The login request that arrives with an event, and is accepted. -/
def Admits (input : Event × Env) (s : Acceptor) (k : Nat) (request : LoginRequestPacket) : Prop :=
  ∃ bytes, input.1 = .payloadCompleted k (.ok bytes) ∧ bytes.length = (s.readPacket k).payloadSize ∧
    (s.payloadRead k bytes).2.admits input.2.calls k (s.payloadRead k bytes).1 request

/-- The event aborts a read although the socket has not been closed. -/
def abortsRead (event : Event) (s : Acceptor) : Bool :=
  match event with
  | .headerCompleted k (.error .operationAborted)
  | .payloadCompleted k (.error .operationAborted) => (s.tcp? k).any fun t => !t.socket.closing
  | _ => false

/-- The reason for which the connection `k` is gone, if it is when the event has been noted. -/
def Tells (event : Event) (s : Acceptor) (k : Nat) (reason : DisconnectReason) : Prop :=
  ∃ t, s.tcp? k = some t ∧ t.state.reason = reason ∧
    match event with
    | .socketClosed j => k = j ∧ 0 < t.socket.posted
    | .loginTimerStopped j | .heartbeatTimerStopped j => k = j ∧ t.socketClosed = true
    | _ => False

def rules (env : Env) (event : Event) (s : Acceptor) : Rules where
  active := s.isAbout event
  socket f := event.usesSocket = true ∧ (Socket.Handler.Internal f ∨ f = Socket.asyncRead)
  aborts := s.abortsRead event = true
  ends := ∃ n, event = .posted n ∧ s.posted[n]? = some .endSession ∧ s.started = true
  login := s.Admits (event, env)
  errors := True
  tells reason := ∃ k, Tells event s k reason

theorem rules_internal (env : Env) {event : Event} (h : event.usesSocket = true)
    (f : Socket → Socket) (hf : Socket.Handler.Internal f) : (s.rules env event).socket f :=
  ⟨h, Or.inl hf⟩

theorem rules_asyncRead (env : Env) {event : Event} (h : event.usesSocket = true) :
    (s.rules env event).socket Socket.asyncRead := ⟨h, Or.inr rfl⟩

theorem tcpState_updateSocket (f : Socket → Socket) (s : Acceptor) :
    (s.updateTcp k (·.updateSocket f)).tcpState k = s.tcpState k := by
  rw [tcpState, tcp?_updateTcp, if_pos rfl, tcpState]
  cases s.tcp? k <;> rfl

theorem readPacket_readDone (script : Script) (faults : Faults) (op : SocketOp) :
    ((socketHandler script faults k).socket ((socketHandler script faults k).update
      (Socket.readDone op) s)).readPacket = s.readPacket k := by
  simp only [socketHandler, readPacket, tcp?_updateTcp, ↓reduceIte]
  cases s.tcp? k <;> rfl

/-- A read is aborted: its socket has been closed, or the event is to blame. -/
theorem moves_readAborted (env : Env) {event : Event} (op : SocketOp)
    (hk : (s.rules env event).active k)
    (hevent : ∀ t, s.tcp? k = some t → t.socket.closing = false → s.abortsRead event = true) :
    Moves (s.rules env event) (s.updateTcp k (·.updateSocket (Socket.readDone op)))
      ((s.updateTcp k (·.updateSocket (Socket.readDone op))).tcpDisconnect k .unmanagedAbort) := by
  apply Moves.tcp hk
  intro u hu
  rw [tcp?_updateTcp, if_pos rfl] at hu
  obtain ⟨t, ht, rfl⟩ := Option.map_eq_some_iff.mp hu
  refine .disconnect _ _ (by decide) fun _ => ?_
  cases hclosing : t.socket.closing with
  | true => exact Or.inr (Or.inl hclosing)
  | false => exact Or.inl (hevent t ht hclosing)

section
variable {env : Env} (hfree : (s.tcpState k).state = .connected → s.Unpointed k)
include hfree

theorem moves_headerCompleted (result : Except IoError Bytes) :
    Moves (s.rules env (.headerCompleted k result)) s
      ((socketHandler env.calls env.faults k).headerCompleted result s) := by
  have hsocket : (socketHandler env.calls env.faults k).KeepsUnread
      (Moves (s.rules env (.headerCompleted k result)) s) :=
    moves_socket rfl trivial (rules_internal env rfl)
  refine hsocket.headerCompleted result ?_ ?_ (.refl s)
  rotate_left
  · rintro rfl hmoves
    exact hmoves.trans (moves_readAborted env _ rfl fun t ht hopen => by
      simp [abortsRead, ht, hopen])
  intro bytes packet _ hempty hmoves
  apply hmoves.trans
  refine moves_readSuccess rfl trivial (rules_asyncRead env rfl) packet ?_ ?_
  · exact fun hs => hfree (by simpa only [socketHandler, tcpState_updateSocket] using hs)
  · rintro request ⟨⟨-, -, hlength⟩, -⟩
    have hpayload : packet.payload = [] := by
      have hresized := ReadPacket.payload_of_emptyPayload (congrArg Prod.fst hempty)
      exact (congrArg (fun read => read.2.payload) hempty).symm.trans hresized
    rw [hpayload] at hlength
    exact absurd hlength (by decide)

theorem moves_payloadCompleted (result : Except IoError Bytes) :
    Moves (s.rules env (.payloadCompleted k result)) s
      ((socketHandler env.calls env.faults k).payloadCompleted result s) := by
  have hsocket : (socketHandler env.calls env.faults k).KeepsUnread
      (Moves (s.rules env (.payloadCompleted k result)) s) :=
    moves_socket rfl trivial (rules_internal env rfl)
  refine hsocket.payloadCompleted result ?_ ?_ (.refl s)
  rotate_left
  · rintro rfl hmoves
    exact hmoves.trans (moves_readAborted env _ rfl fun t ht hopen => by
      simp [abortsRead, ht, hopen])
  intro bytes hresult hlength hmoves
  apply hmoves.trans
  refine moves_readSuccess rfl trivial (rules_asyncRead env rfl) _ ?_ ?_
  · exact fun hs => hfree (by simpa only [socketHandler, tcpState_updateSocket] using hs)
  · intro request hlogin
    rw [readPacket_readDone] at hlength
    exact ⟨bytes, by rw [hresult], hlength, hlogin⟩

end

/-- **Every event is made of moves**, as long as no port points to a connection
that has not logged in. -/
theorem moves_handle (env : Env) {event : Event} (hready : s.ready event = true)
    (hfree : ∀ k, (s.tcpState k).state = .connected → s.Unpointed k) :
    Moves (s.rules env event) s (s.handle env event) := by
  cases event with
  | call call => exact moves_call call
  | posted n =>
    have hn : n < s.posted.length := by simpa [ready] using hready
    have hposted := List.getElem?_eq_getElem hn
    have htaken (started : Bool) : Moves (s.rules env (.posted n)) s
        { s with posted := s.posted.eraseIdx n, started := started } := .quiet rfl rfl rfl
    simp only [handle, hposted]
    cases hp : s.posted[n] with
    | start =>
      simp only [runPosted]
      split
      · exact htaken _
      · exact (htaken true).trans moves_startAccepting
    | endSession =>
      simp only [runPosted]
      split
      · rename_i hstarted
        exact (htaken _).trans (moves_endSessions ⟨n, rfl, by rw [hposted, hp], hstarted⟩)
      · exact htaken _
    | stop =>
      simp only [runPosted]
      split
      · rename_i hstarted
        exact (htaken false).trans (moves_stopAccepting fun k => ⟨by rw [hposted, hp], hstarted⟩)
      · exact htaken _
  | acceptCompleted ec => exact moves_acceptCompleted rfl trivial (rules_asyncRead env rfl) ec
  | headerCompleted k result => exact moves_headerCompleted (hfree k) result
  | payloadCompleted k result => exact moves_payloadCompleted (hfree k) result
  | writeCompleted k result =>
    exact (moves_socket rfl trivial (rules_internal env rfl)).writeCompleted result (.refl s)
  | socketClosed k =>
    apply moves_closed rfl
    · intro t ht
      simpa [ready, ht] using hready
    · exact fun t ht hposted => ⟨k, t, ht, rfl, rfl, hposted⟩
  | loginTimerWait k ec => exact (moves_loginTimer rfl trivial).waitCompleted ec (.refl s)
  | loginTimerStopped k =>
    exact moves_loginTimerStopped rfl fun t ht hclosed => ⟨k, t, ht, rfl, rfl, hclosed⟩
  | heartbeatTimerWait k ec =>
    exact (moves_heartbeatTimer rfl trivial).waitCompleted ec env.faults.heartbeatSchedule (.refl s)
  | heartbeatTimerStopped k =>
    exact moves_heartbeatTimerStopped rfl fun t ht hclosed => ⟨k, t, ht, rfl, rfl, hclosed⟩

end Acceptor
end SoupBin.ServerSide
