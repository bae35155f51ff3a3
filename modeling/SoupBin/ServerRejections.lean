import SoupBin.ServerSockets

/-!
# A login that is rejected

The server means to close the socket once the Login Rejected packet has been
written. It closes it when any write completes after the rejection.
-/

namespace SoupBin.ServerSide

/-- The Login Rejected packet. -/
def rejection (reject : LoginReject) : WritePacket :=
  (WritePacket.ofSize LoginRejectedPacket.packetType LoginRejectedPacket.payloadSize).writePayload
    reject.packet.write

/-! ## Tcp_connection -/

namespace TcpConnection

/-- What a rejected login makes of its connection. -/
def rejected (reject : LoginReject) (t : TcpConnection) : TcpConnection :=
  (((((t.updateSocket (Socket.readDone .readPayload)).updateSocket (Socket.setReadPacket {})
    ).updateLoginTimer LoginTimer.stop).prepareGracefulDisconnect .accessDenied).writeBestEffort
      (rejection reject)).updateSocket Socket.maybeSignalClosed

/-- A connection whose login has been rejected, until its socket is closed. What
is being written is the packet that was accepted after `before`. -/
structure Leaving (packet : WritePacket) (before : List WritePacket) (t : TcpConnection) :
    Prop where
  state : t.state.state = .disconnecting
  closing : t.socket.closing = false
  posted : t.socket.posted = 0
  socketClosed : t.socketClosed = false
  loginTimer : t.loginTimer.started = false
  heartbeatTimer : t.heartbeatTimer.started = false
  reads : .readHeader ∉ t.socket.outstanding ∧ .readPayload ∉ t.socket.outstanding
  writing : .write ∈ t.socket.outstanding →
    t.socket.writePackets = [packet] ∧ t.socket.acceptedPackets = before ++ [packet]

variable {t : TcpConnection}

theorem Intact.open_of_connected (h : t.Intact) (hs : t.state.state = .connected) :
    t.socket.closing = false := by
  cases hclosing : t.socket.closing with
  | false => rfl
  | true =>
    rw [h.closed hclosing] at hs
    cases hs

/-- The socket of a connection whose login is rejected. -/
theorem rejected_socket (hopen : t.socket.closing = false) (reject : LoginReject) :
    (t.rejected reject).socket = (((t.socket.readDone .readPayload).setReadPacket {}).asyncWrite
      (rejection reject)).2 := by
  have hclosing : (((t.socket.readDone .readPayload).setReadPacket {}).asyncWrite
      (rejection reject)).2.closing = false :=
    (Socket.asyncWrite_closing _ _).trans hopen
  show Socket.maybeSignalClosed _ = _
  rw [Socket.maybeSignalClosed]
  exact if_neg (by
    show ¬(((((t.socket.readDone .readPayload).setReadPacket {}).asyncWrite
      (rejection reject)).2.closing && _ && _) = true)
    simp [hclosing])

/-- Only the packet that rejects the login can be on its way, if nothing was. -/
theorem Intact.leaving (h : t.Intact) (hs : t.state.state = .connected)
    (hread : .readPayload ∈ t.socket.outstanding) (hidle : .write ∉ t.socket.outstanding)
    (reject : LoginReject) :
    (t.rejected reject).Leaving (rejection reject) t.socket.acceptedPackets := by
  have hopen := h.open_of_connected hs
  have hsound := h.sound hopen
  have hsocket := rejected_socket hopen reject
  have hdone : (t.socket.readDone .readPayload).Sound := hsound.payloadDone hread
  have hreads : .readHeader ∉ t.socket.outstanding.erase .readPayload ∧
      .readPayload ∉ t.socket.outstanding.erase .readPayload := by
    have hcount := hdone.reads
    simp only [Socket.readDone, Bool.toNat_false, Nat.add_eq_zero_iff, List.count_eq_zero] at hcount
    exact hcount
  have hwrite : .write ∉ t.socket.outstanding.erase .readPayload :=
    fun hmem => hidle (List.mem_of_mem_erase hmem)
  have houtstanding := Socket.asyncWrite_outstanding
    ((t.socket.readDone .readPayload).setReadPacket {}) (rejection reject)
  have hfollows := Socket.follows_asyncWrite
    ((t.socket.readDone .readPayload).setReadPacket {}) (rejection reject)
  constructor
  · show (t.state.initiateDisconnect .accessDenied).2.state = _
    simp [ConnectionState.initiateDisconnect, ConnectionState.isClosing, hs]
  · rw [hsocket, hfollows.closing]
    exact hopen
  · rw [hsocket, hfollows.posted]
    exact (h.untold hopen).1
  · exact (h.untold hopen).2
  · show t.loginTimer.stop.started = false
    unfold LoginTimer.stop LoginTimer.maybeSignalStopped
    split
    · split <;> rfl
    · rename_i hstopped
      simpa using hstopped
  · exact h.heartbeat hs
  · rw [hsocket]
    rcases houtstanding with heq | ⟨-, -, heq⟩
    · rw [heq]
      exact hreads
    · rw [heq]
      constructor
      · intro hmem
        rcases List.mem_append.mp hmem with hmem | hmem
        · exact hreads.1 hmem
        · cases List.mem_singleton.mp hmem
      · intro hmem
        rcases List.mem_append.mp hmem with hmem | hmem
        · exact hreads.2 hmem
        · cases List.mem_singleton.mp hmem
  · rw [hsocket]
    intro hmem
    rcases houtstanding with heq | ⟨hempty, htakes, -⟩
    · rw [heq] at hmem
      exact absurd hmem hwrite
    · obtain ⟨-, hqueue, haccepted⟩ := Socket.asyncWrite_taken htakes (rejection reject)
      rw [hqueue, haccepted, hempty]
      exact ⟨rfl, rfl⟩

/-- A socket that is closing stays so. -/
theorem Act.closing {allowed : Allowed}
    (hsocket : ∀ f, allowed.socket f → ∀ x : Socket, x.closing = true → (f x).closing = true)
    {t u : TcpConnection} (ha : Act allowed t u) (h : t.socket.closing = true) :
    u.socket.closing = true := by
  induction ha with
  | refl t => exact h
  | trans _ _ ih₁ ih₂ => exact ih₂ (ih₁ h)
  | socket t hf => exact hsocket _ hf _ h
  | write packet t => exact (Socket.asyncWrite_closing _ _).trans h
  | debug text t =>
    unfold TcpConnection.sendDebugPacket
    split
    · exact h
    · exact (Socket.asyncWrite_closing _ _).trans h
  | disconnect reason t =>
    rcases t.disconnect_eq reason with ⟨heq, -⟩ | ⟨-, hsocket, -⟩
    · rw [heq]
      exact h
    · rw [hsocket]
      exact Socket.close_closing _
  | _ => exact h

/-- Timers that have been stopped do not matter to a connection that is left to its write. -/
theorem Leaving.update {packet : WritePacket} {before : List WritePacket}
    (h : t.Leaving packet before) {u : TcpConnection} (hstate : u.state = t.state)
    (hsocket : u.socket = t.socket) (hclosed : u.socketClosed = t.socketClosed)
    (hlogin : u.loginTimer.started = t.loginTimer.started)
    (hheartbeat : u.heartbeatTimer.started = t.heartbeatTimer.started) :
    u.Leaving packet before := by
  constructor
  · rw [hstate]
    exact h.state
  · rw [hsocket]
    exact h.closing
  · rw [hsocket]
    exact h.posted
  · exact hclosed.trans h.socketClosed
  · exact hlogin.trans h.loginTimer
  · exact hheartbeat.trans h.heartbeatTimer
  · rw [hsocket]
    exact h.reads
  · rw [hsocket]
    exact h.writing

end TcpConnection

namespace Acceptor

variable {s s' : Acceptor} {k : Nat} {t : TcpConnection}

/-- No call from inside a callback reaches a connection to which no port points. -/
theorem tcp_acceptorCallback (script : Script) (cb : AcceptorCallback)
    (hcb : ∀ handlerSet, calls.notes (.called handlerSet (.acceptor cb)))
    (ht : s.tcp? k = some t) (hfree : s.Unpointed k) :
    (s.acceptorCallback script k cb).tcp? k = some t ∧
      (s.acceptorCallback script k cb).Unpointed k := by
  have hmoves : Moves calls s (s.acceptorCallback script k cb) := moves_acceptorCallback hcb
  constructor
  · exact (hmoves.untouched (fun ha => ha) (fun _ hl => hl) (lt_of_tcp ht) hfree).trans ht
  · exact hmoves.unpointed (fun _ hl => hl) hfree

theorem tcp_updateTcp {f : TcpConnection → TcpConnection} (ht : s.tcp? k = some t) :
    (s.updateTcp k f).tcp? k = some (f t) := by
  rw [tcp?_updateTcp, if_pos rfl, ht]
  rfl

theorem tcp_answerLogin {script : Script} {data : Bytes} {reject : LoginReject}
    (ht : s.tcp? k = some t) (hfree : s.Unpointed k)
    (herror : (s.answerLogin script k data).1 = .error reject) :
    (s.answerLogin script k data).2.tcp? k = some (t.updateLoginTimer LoginTimer.stop) ∧
      (s.answerLogin script k data).2.Unpointed k := by
  have hasked := tcp_acceptorCallback script (.loginRequest (.read data)) (fun _ => trivial)
    (tcp_updateTcp (f := (·.updateLoginTimer LoginTimer.stop)) ht) hfree
  rw [answerLogin_eq] at herror
  have hsame : (s.answerLogin script k data).2 = _ :=
    onLoginRequest_rejected (Prod.ext herror rfl)
  rw [hsame]
  exact hasked

theorem tcp_rejectLogin (script : Script) (reject : LoginReject) (ht : s.tcp? k = some t)
    (hfree : s.Unpointed k) :
    (s.rejectLogin script k reject).tcp? k = some ((t.prepareGracefulDisconnect
        .accessDenied).writeBestEffort (rejection reject)) ∧
      (s.rejectLogin script k reject).Unpointed k := by
  obtain ⟨htold, hfree⟩ := tcp_acceptorCallback script
    (.loginFailure reject.reason) (fun _ => trivial) ht hfree
  exact ⟨tcp_updateTcp (tcp_updateTcp htold), hfree⟩

/-- The connection does not read on. -/
theorem tcp_readSuccess {script : Script} (faults : Faults) {packet : ReadPacket}
    {reject : LoginReject} (ht : s.tcp? k = some t) (hfree : s.Unpointed k)
    (hasks : s.asks k packet)
    (herror : (s.answerLogin script k packet.payload).1 = .error reject) :
    (s.readSuccess script faults k packet).tcp? k = some (((t.updateLoginTimer LoginTimer.stop
        ).prepareGracefulDisconnect .accessDenied).writeBestEffort (rejection reject)) ∧
      (s.readSuccess script faults k packet).Unpointed k := by
  have hs : t.state.state = .connected := by simpa [tcpState, ht] using hasks.1
  obtain ⟨hanswered, hfree'⟩ := tcp_answerLogin ht hfree herror
  obtain ⟨hrejected, hfree'⟩ := tcp_rejectLogin script reject hanswered hfree'
  have hclosing : (((s.answerLogin script k packet.payload).2.rejectLogin script k reject).tcpState
      k).isClosing = true := by
    rw [tcpState, hrejected]
    show (t.state.initiateDisconnect .accessDenied).2.isClosing = true
    simp [ConnectionState.initiateDisconnect, ConnectionState.isClosing, hs]
  unfold readSuccess
  rw [processPacket_rejected faults hasks (Prod.ext herror rfl),
    if_neg (by simp [ConnectionState.isClosing, hasks.1])]
  simp only [ne_eq, not_true_eq_false, ↓reduceIte, hclosing]
  exact ⟨hrejected, hfree'⟩

/-- The event that rejects the login of the connection `k`. -/
theorem tcp_rejected {env : Env} {bytes : Bytes} {reject : LoginReject} (ht : s.tcp? k = some t)
    (hfree : s.Unpointed k) (hrejects : s.Rejects env k bytes reject) :
    (s.handle env (.payloadCompleted k (.ok bytes))).tcp? k = some (t.rejected reject) ∧
      (s.handle env (.payloadCompleted k (.ok bytes))).Unpointed k := by
  obtain ⟨hlength, hasks, herror⟩ := hrejects
  have hread : (s.payloadRead k bytes).2.tcp? k = some ((t.updateSocket
      (Socket.readDone .readPayload)).updateSocket (Socket.setReadPacket {})) :=
    tcp_updateTcp (f := (·.updateSocket (Socket.setReadPacket {}))) (tcp_updateTcp ht)
  obtain ⟨hprocessed, hfree'⟩ := tcp_readSuccess env.faults hread hfree hasks herror
  show ((socketHandler env.calls env.faults k).payloadCompleted (.ok bytes) s).tcp? k = _ ∧
    ((socketHandler env.calls env.faults k).payloadCompleted (.ok bytes) s).Unpointed k
  rw [payloadCompleted_eq env.calls env.faults hlength]
  exact ⟨tcp_updateTcp hprocessed, hfree'⟩

/-! ## Closing -/

/-- The connection has a socket that has not been closed. -/
def openAt (k : Nat) (s : Acceptor) : Bool := (s.tcp? k).any fun t => !t.socket.closing

theorem openAt_eq_false : s.openAt k = false ↔ ∀ t, s.tcp? k = some t → t.socket.closing = true := by
  unfold openAt
  cases s.tcp? k <;> simp

/-- A socket that has been closed stays closed. -/
theorem Moves.closed {R : Rules}
    (hsocket : ∀ f, R.socket f → ∀ x : Socket, x.closing = true → (f x).closing = true)
    (hm : Moves R s s') (hk : k < s.connections.length) (h : s.openAt k = false) :
    s'.openAt k = false := by
  have heach : s.Each fun j t => j = k → t.socket.closing = true := by
    rintro j t ht rfl
    exact openAt_eq_false.mp h t ht
  have hkept := hm.each (n := k + 1) (P := fun j t => j = k → t.socket.closing = true) ?_ ?_ hk heach
  · exact openAt_eq_false.mpr fun t ht => hkept k t ht rfl
  · intro j
    exact ⟨fun ha hp hj => ha.closing hsocket (hp hj), fun _ _ _ hp hj => hp hj⟩
  · intro j hj _ _ hjk
    omega

theorem closed_update {f : Socket → Socket} (hf : Socket.Handler.Internal f)
    (h : s.openAt k = false) : (s.updateTcp k (·.updateSocket f)).openAt k = false := by
  apply openAt_eq_false.mpr
  intro u hu
  rw [tcp?_updateTcp, if_pos rfl] at hu
  obtain ⟨t, ht, rfl⟩ := Option.map_eq_some_iff.mp hu
  exact (hf.closing t.socket).trans (openAt_eq_false.mp h t ht)

/-- Any write that completes in the state `disconnecting` closes the socket. -/
theorem closed_writeCompleted (script : Script) (faults : Faults) {packet : WritePacket}
    {rest : List WritePacket} (ht : s.tcp? k = some t) (hs : t.state.state = .disconnecting)
    (hqueue : t.socket.writePackets = packet :: rest) :
    ((socketHandler script faults k).writeCompleted (.ok packet.size) s).openAt k = false := by
  have hdone : ((socketHandler script faults k).update Socket.writeDone s).tcp? k =
      some (t.updateSocket Socket.writeDone) := tcp_updateTcp ht
  have hsocket : ((socketHandler script faults k).socket
      ((socketHandler script faults k).update Socket.writeDone s)).writePackets = packet :: rest := by
    show ((Option.map TcpConnection.socket (((socketHandler script faults k).update
      Socket.writeDone s).tcp? k)).getD {}).writePackets = _
    rw [hdone]
    exact hqueue
  have hclosed : (((socketHandler script faults k).update Socket.writeDone s).writeSuccess
      k).openAt k = false := by
    unfold writeSuccess
    have hdisconnecting : (((socketHandler script faults k).update Socket.writeDone s).tcpState
        k).state = .disconnecting := by
      rw [tcpState, hdone]
      exact hs
    rw [if_pos hdisconnecting]
    apply openAt_eq_false.mpr
    intro u hu
    rw [tcpDisconnect, tcp_updateTcp hdone] at hu
    cases hu
    rcases (t.updateSocket Socket.writeDone).disconnect_eq .unmanagedAbort with
      ⟨-, hdown⟩ | ⟨-, hsocket, -⟩
    · have hsame : (t.updateSocket Socket.writeDone).state = t.state := rfl
      rw [hsame, hs] at hdown
      cases hdown
    · rw [hsocket]
      exact Socket.close_closing _
  have hpopped := closed_update .popPacket hclosed
  have hlength : k < (((((socketHandler script faults k).update Socket.writeDone s).writeSuccess
      k).updateTcp k (·.updateSocket Socket.popPacket)).updateTcp k
        (·.updateSocket Socket.clearWasFull)).connections.length := by
    rw [length_updateTcp, length_updateTcp]
    have hmoves : Moves (inside k) ((socketHandler script faults k).update Socket.writeDone s) _ :=
      moves_writeSuccess (k := k) rfl
    exact Nat.lt_of_lt_of_le (lt_of_tcp hdone) hmoves.known
  apply closed_update .maybeSignalClosed
  simp only [Socket.Handler.packetSent, hsocket, ne_eq, not_true_eq_false, ↓reduceIte]
  split
  · exact closed_update .startWritePacket hpopped
  · split
    · exact Moves.closed (R := calls) (fun _ hf => False.elim hf) moves_writeBufferEmpty hlength
        (closed_update .clearWasFull hpopped)
    · exact hpopped

/-! ## After the rejection -/

/-- The acceptor is not stopped, and no write of the connection `k` fails. -/
def Peaceful (k : Nat) (input : Event × Env) (s : Acceptor) : Prop :=
  (∀ n : Nat, input.1 = .posted n → s.posted[n]? = some .stop → s.started = false) ∧
    ∀ result, input.1 = .writeCompleted k result → ∃ t packet, s.tcp? k = some t ∧
      t.socket.writePackets.head? = some packet ∧ result = .ok packet.size

/-- The packet, which was accepted after `before`, is the only one left in the
queue, and has been written. -/
def Delivers (packet : WritePacket) (before : List WritePacket) (k : Nat) (input : Event × Env)
    (s : Acceptor) : Prop :=
  input.1 = .writeCompleted k (.ok packet.size) ∧ ∃ t, s.tcp? k = some t ∧
    t.socket.writePackets = [packet] ∧ t.socket.acceptedPackets = before ++ [packet]

/-- The connection `k` waits for its last write. -/
structure Departing (packet : WritePacket) (before : List WritePacket) (k : Nat) (s : Acceptor) :
    Prop where
  tcp : ∃ t, s.tcp? k = some t ∧ t.Leaving packet before
  unpointed : s.Unpointed k

section
variable {packet : WritePacket} {before : List WritePacket}
  {asked : Nat → LoginRequestPacket → Prop}

theorem Departing.open_ (h : s.Departing packet before k) : s.openAt k = true := by
  obtain ⟨t, ht, hleaving⟩ := h.tcp
  simp [openAt, ht, hleaving.closing]

theorem Departing.update (h : s.Departing packet before k) {f : TcpConnection → TcpConnection}
    (hf : ∀ t, t.Leaving packet before → (f t).Leaving packet before) :
    (s.updateTcp k f).Departing packet before k := by
  obtain ⟨t, ht, hleaving⟩ := h.tcp
  exact ⟨⟨f t, tcp_updateTcp ht, hf t hleaving⟩, h.unpointed⟩

/-- Its timers have been stopped. -/
theorem Departing.timers (h : s.Departing packet before k) (script : Script)
    (ec fault : Option IoError) :
    ((loginTimerHandler script k).waitCompleted ec s).Departing packet before k ∧
      ((heartbeatTimerHandler script k).waitCompleted ec fault s).Departing packet before k := by
  have hlogin (f : LoginTimer → LoginTimer) (hf : ∀ x, (f x).started = x.started) {s : Acceptor}
      (h : s.Departing packet before k) :
      ((loginTimerHandler script k).update f s).Departing packet before k :=
    h.update fun t ht => ht.update rfl rfl rfl (hf _) rfl
  have hheartbeat (f : HeartbeatTimer → HeartbeatTimer) (hf : ∀ x, (f x).started = x.started)
      {s : Acceptor} (h : s.Departing packet before k) :
      ((heartbeatTimerHandler script k).update f s).Departing packet before k :=
    h.update fun t ht => ht.update rfl rfl rfl rfl (hf _)
  have hwait : ∀ x : LoginTimer, x.waitDone.started = x.started := fun _ => rfl
  have hsignal (x : LoginTimer) : x.maybeSignalStopped.started = x.started := by
    unfold LoginTimer.maybeSignalStopped
    split <;> rfl
  constructor
  · have hdone := hlogin _ hwait h
    obtain ⟨t, ht, hleaving⟩ := hdone.tcp
    have hstopped : ((loginTimerHandler script k).timer ((loginTimerHandler script k).update
        LoginTimer.waitDone s)).started = false := by
      simp [loginTimerHandler] at ht ⊢
      simp [ht, hleaving.loginTimer]
    unfold LoginTimer.Handler.waitCompleted LoginTimer.Handler.onExpiry
    rw [if_neg (by simp [hstopped])]
    exact hlogin _ hsignal hdone
  · have hdone := hheartbeat _ HeartbeatTimer.Internal.waitDone.started h
    obtain ⟨t, ht, hleaving⟩ := hdone.tcp
    have hstopped : ((heartbeatTimerHandler script k).timer ((heartbeatTimerHandler script k).update
        HeartbeatTimer.waitDone s)).started = false := by
      simp [heartbeatTimerHandler] at ht ⊢
      simp [ht, hleaving.heartbeatTimer]
    unfold HeartbeatTimer.Handler.waitCompleted HeartbeatTimer.Handler.onExpiry
    rw [if_neg (by simp [hstopped])]
    exact hheartbeat _ HeartbeatTimer.Internal.maybeSignalStopped.started hdone

/-- It is not destroyed before its socket is closed. -/
theorem Departing.maybeSignalClosed (h : s.Departing packet before k) (script : Script) :
    (s.maybeSignalClosed script k).Departing packet before k := by
  obtain ⟨t, ht, hleaving⟩ := h.tcp
  unfold Acceptor.maybeSignalClosed
  rw [ht]
  simp only [hleaving.socketClosed, Bool.false_and]
  exact h

/-- The event of another connection. -/
theorem Departing.elsewhere (hjoined : s.Joined asked) (h : s.Departing packet before k) (env : Env)
    {event : Event} (hready : s.ready event = true) (habout : ¬s.isAbout event k) :
    (s.handle env event).Departing packet before k := by
  have hmoves := moves_handle env hready fun _ => hjoined.unpointed
  have hlogin (request : LoginRequestPacket) : ¬(s.rules env event).login k request := by
    rintro ⟨bytes, hevent, -⟩
    dsimp only at hevent
    subst hevent
    exact habout rfl
  obtain ⟨t, ht, hleaving⟩ := h.tcp
  refine ⟨⟨t, ?_, hleaving⟩, hmoves.unpointed hlogin h.unpointed⟩
  rw [hmoves.untouched habout hlogin (lt_of_tcp ht) h.unpointed, ht]

/-- Nothing but the completion of its write closes the socket. -/
theorem Departing.handle (hjoined : s.Joined asked) (h : s.Departing packet before k)
    {input : Event × Env} (hready : s.ready input.1 = true) (hpeaceful : Peaceful k input s) :
    (s.handle input.2 input.1).Departing packet before k ∨
      Delivers packet before k input s ∧ (s.handle input.2 input.1).openAt k = false := by
  obtain ⟨event, env⟩ := input
  dsimp only at hready ⊢
  by_cases habout : s.isAbout event k
  · obtain ⟨t, ht, hleaving⟩ := h.tcp
    cases event with
    | call call => exact habout.elim
    | posted n =>
      have hstopped := hpeaceful.1 n rfl habout.1
      exact absurd (hstopped.symm.trans habout.2) (by decide)
    | acceptCompleted ec => exact absurd habout (Nat.ne_of_lt (lt_of_tcp ht))
    | headerCompleted j result =>
      cases habout
      simp [ready, ht, hleaving.reads.1] at hready
    | payloadCompleted j result =>
      cases habout
      simp [ready, ht, hleaving.reads.2] at hready
    | writeCompleted j result =>
      cases habout
      have hwriting : .write ∈ t.socket.outstanding := by simpa [ready, ht] using hready
      obtain ⟨hqueue, haccepted⟩ := hleaving.writing hwriting
      obtain ⟨u, front, hu, hfront, rfl⟩ := hpeaceful.2 result rfl
      cases ht.symm.trans hu
      rw [hqueue] at hfront
      cases hfront
      right
      exact ⟨⟨rfl, t, ht, hqueue, haccepted⟩,
        closed_writeCompleted env.calls env.faults ht hleaving.state hqueue⟩
    | socketClosed j =>
      cases habout
      simp [ready, ht, hleaving.posted] at hready
    | loginTimerWait j ec =>
      cases habout
      exact Or.inl (h.timers env.calls ec none).1
    | loginTimerStopped j =>
      cases habout
      have hnoted := h.update (f := TcpConnection.noteLoginTimerStopped)
        fun t ht => ht.update rfl rfl rfl rfl rfl
      exact Or.inl (hnoted.maybeSignalClosed env.calls)
    | heartbeatTimerWait j ec =>
      cases habout
      exact Or.inl (h.timers env.calls ec env.faults.heartbeatSchedule).2
    | heartbeatTimerStopped j =>
      cases habout
      have hnoted := h.update (f := TcpConnection.noteHeartbeatTimerStopped)
        fun t ht => ht.update rfl rfl rfl rfl rfl
      exact Or.inl (hnoted.maybeSignalClosed env.calls)
  · exact Or.inl (h.elsewhere hjoined env hready habout)

end

/-! ## Runs -/

/-- Whatever happens, what closes the socket of `k` is the completion of the
write of the packet, which was accepted after `before`. -/
def WrittenFirst (packet : WritePacket) (before : List WritePacket) (k : Nat) (s : Acceptor) :
    Prop :=
  s.openAt k = true ∧ ∀ (after : List (Event × Env)) (s₁ : Acceptor),
    (system.restrict (Peaceful k)).Run s after s₁ → ∀ input : Event × Env,
      s₁.ready input.1 = true → Peaceful k input s₁ → s₁.openAt k = true →
        (s₁.handle input.2 input.1).openAt k = false → Delivers packet before k input s₁

theorem closed_handle {asked : Nat → LoginRequestPacket → Prop} (hjoined : s.Joined asked)
    (env : Env) {event : Event} (hready : s.ready event = true) (hk : k < s.connections.length)
    (h : s.openAt k = false) : (s.handle env event).openAt k = false := by
  apply (moves_handle env hready fun _ => hjoined.unpointed).closed _ hk h
  rintro f ⟨-, hf | rfl⟩ x hx
  · exact (hf.closing x).trans hx
  · exact (Socket.asyncRead_closing x).trans hx

theorem Departing.writtenFirst {packet : WritePacket} {before : List WritePacket}
    (hjoined : s.Joined fun _ _ => True) (h : s.Departing packet before k) :
    s.WrittenFirst packet before k := by
  refine ⟨h.open_, ?_⟩
  intro after s₁ hrun
  have hlt : k < s.connections.length := by
    obtain ⟨t, ht, -⟩ := h.tcp
    exact lt_of_tcp ht
  have hkept := hrun.keeps (I := fun s => (s.Joined fun _ _ => True) ∧ k < s.connections.length ∧
    (s.Departing packet before k ∨ s.openAt k = false)) ?_ ⟨hjoined, hlt, Or.inl h⟩
  · obtain ⟨hjoined, -, hdeparting⟩ := hkept
    intro input hready hpeaceful hopen hclosed
    rcases hdeparting with hdeparting | hshut
    · rcases hdeparting.handle hjoined hready hpeaceful with hstill | ⟨hdelivers, -⟩
      · rw [hstill.open_] at hclosed
        cases hclosed
      · exact hdelivers
    · rw [hshut] at hopen
      cases hopen
  · rintro input s ⟨hready, hpeaceful⟩ ⟨hjoined, hlt, hdeparting⟩
    have hmoves := moves_handle input.2 hready fun _ => hjoined.unpointed
    refine ⟨hmoves.joined (fun _ _ _ => trivial) hjoined, Nat.lt_of_lt_of_le hlt hmoves.known, ?_⟩
    rcases hdeparting with hdeparting | hshut
    · exact (hdeparting.handle hjoined hready hpeaceful).imp id fun h => h.2
    · exact Or.inr (closed_handle hjoined input.2 hready hlt hshut)

/-- The first write that completes closes the socket, and it is not the last one. -/
theorem not_writtenFirst {reject : LoginReject} (hintact : t.Intact)
    (hs : t.state.state = .connected) (ht : s.tcp? k = some (t.rejected reject))
    (hwriting : .write ∈ t.socket.outstanding) :
    ¬s.WrittenFirst (rejection reject) t.socket.acceptedPackets k := by
  rintro ⟨hopen, hfirst⟩
  have hclosing := hintact.open_of_connected hs
  have hsound := hintact.sound hclosing
  have hsocket := t.rejected_socket hclosing reject
  have hne : t.socket.writePackets ≠ [] := by
    apply hsound.queued
    have hcount := hsound.writes
    have hpos := List.count_pos_iff.mpr hwriting
    cases hpending : t.socket.writePending with
    | true => rfl
    | false =>
      rw [hpending, Bool.toNat_false] at hcount
      omega
  obtain ⟨front, rest, hfront⟩ := List.exists_cons_of_ne_nil hne
  have hstate : (t.rejected reject).state.state = .disconnecting := by
    show (t.state.initiateDisconnect .accessDenied).2.state = _
    simp [ConnectionState.initiateDisconnect, ConnectionState.isClosing, hs]
  have hqueue : (∃ rest', (t.rejected reject).socket.writePackets = front :: rest') ∧
      ¬((t.rejected reject).socket.writePackets = [rejection reject] ∧
        (t.rejected reject).socket.acceptedPackets = t.socket.acceptedPackets ++
          [rejection reject]) := by
    rw [hsocket]
    by_cases htakes : ((t.socket.readDone .readPayload).setReadPacket {}).Takes
    · obtain ⟨-, hpackets, -⟩ := Socket.asyncWrite_taken htakes (rejection reject)
      rw [hpackets]
      show (∃ rest', t.socket.writePackets ++ _ = front :: rest') ∧
        ¬(t.socket.writePackets ++ _ = _ ∧ _)
      rw [hfront]
      exact ⟨⟨_, rfl⟩, by simp⟩
    · obtain ⟨-, hpackets, haccepted⟩ := Socket.asyncWrite_refused htakes (rejection reject)
      rw [hpackets, haccepted]
      refine ⟨⟨rest, hfront⟩, ?_⟩
      rintro ⟨-, heq⟩
      have hlength := congrArg List.length heq
      simp [Socket.acceptedPackets, Socket.readDone, Socket.setReadPacket] at hlength
  have houtstanding : .write ∈ (t.rejected reject).socket.outstanding := by
    rw [hsocket]
    have hmem : .write ∈ t.socket.outstanding.erase .readPayload :=
      (List.mem_erase_of_ne (by decide)).mpr hwriting
    rcases Socket.asyncWrite_outstanding ((t.socket.readDone .readPayload).setReadPacket {})
      (rejection reject) with heq | ⟨-, -, heq⟩
    · rw [heq]
      exact hmem
    · rw [heq]
      exact List.mem_append_left _ hmem
  obtain ⟨⟨rest', hrest⟩, hnot⟩ := hqueue
  have hready : s.ready (.writeCompleted k (.ok front.size)) = true := by
    simp [ready, ht, houtstanding]
  obtain ⟨-, u, hu, hdelivered⟩ := hfirst [] s .refl (.writeCompleted k (.ok front.size), .plain)
    hready ⟨by rintro n ⟨⟩, by
      rintro result ⟨⟩
      exact ⟨_, front, ht, by rw [hrest]; rfl, rfl⟩⟩ hopen
    (closed_writeCompleted _ _ ht hstate hrest)
  cases ht.symm.trans hu
  exact hnot hdelivered

/-- **A Login Rejected packet is written before the socket is closed exactly if
no other packet is being written** when the login request is read. -/
theorem rejection_written_first_iff (s₀ : Acceptor) (h₀ : s₀.Idle) (inputs : List (Event × Env))
    (s : Acceptor) (hrun : system.Run s₀ inputs s) (env : Env) (k : Nat) (bytes : Bytes)
    (reject : LoginReject) (hready : s.ready (.payloadCompleted k (.ok bytes)) = true)
    (hrejects : s.Rejects env k bytes reject) (t : TcpConnection) (ht : s.tcp? k = some t) :
    (s.handle env (.payloadCompleted k (.ok bytes))).WrittenFirst (rejection reject)
      t.socket.acceptedPackets k ↔ .write ∉ t.socket.outstanding := by
  have hjoined : s.Joined fun _ _ => True := (joined_run h₀ hrun).mono fun _ _ _ => trivial
  have hintact := intact_run h₀ hrun k t ht
  have hs : t.state.state = .connected := by
    have hconnected := hrejects.2.1.1
    rw [payloadRead, tcpState_updateSocket, tcpState_updateSocket] at hconnected
    simpa [tcpState, ht] using hconnected
  have hfree : s.Unpointed k := hjoined.unpointed (by simpa [tcpState, ht] using hs)
  obtain ⟨hrejected, hunpointed⟩ := tcp_rejected ht hfree hrejects
  have hread : .readPayload ∈ t.socket.outstanding := by simpa [ready, ht] using hready
  constructor
  · intro hfirst hwriting
    exact not_writtenFirst hintact hs hrejected hwriting hfirst
  · intro hidle
    have hmoves := moves_handle env hready fun _ => hjoined.unpointed
    exact Departing.writtenFirst (hmoves.joined (fun _ _ _ => trivial) hjoined)
      ⟨⟨_, hrejected, hintact.leaving hs hread hidle reject⟩, hunpointed⟩

/-- A client connects, and begins to log in. -/
def beginsLogin : List Event :=
  [.call .start, .posted 0, .acceptCompleted none,
    .headerCompleted 0 (.ok [0, 47, LoginRequestPacket.packetType])]

/-- The password is wrong. -/
def wrongPassword : Bytes := LoginRequestPacket.write ⟨[117], [113], [], 0⟩

def incorrectPassword : LoginReject :=
  ⟨.incorrectPassword, ⟨LoginRejectedReason.notAuthorized⟩⟩

theorem rejects_wrongPassword (banner : Bytes) (hbanner : banner = [] ∨ banner = [104, 105]) :
    (system.final { onePort with debugBanner := banner }
      (beginsLogin.map fun event => (event, Env.plain))).Rejects .plain 0 wrongPassword
      incorrectPassword := by
  rcases hbanner with rfl | rfl
  · refine ⟨by decide +kernel, ⟨by decide +kernel, by decide +kernel, by decide +kernel⟩, ?_⟩
    rfl
  · refine ⟨by decide +kernel, ⟨by decide +kernel, by decide +kernel, by decide +kernel⟩, ?_⟩
    rfl

theorem rejection_written_first_iff_alone :
    let s := system.final onePort (beginsLogin.map fun event => (event, Env.plain))
    ∃ t, s.tcp? 0 = some t ∧ (s.handle .plain (.payloadCompleted 0 (.ok wrongPassword))
      ).WrittenFirst (rejection incorrectPassword) t.socket.acceptedPackets 0 := by
  intro s
  have hidle : onePort.Idle := ⟨rfl, rfl, by simp [onePort]⟩
  have hrun : system.Run onePort (beginsLogin.map fun event => (event, Env.plain)) s :=
    System.run_of_admits (by decide +kernel)
  have hs : (s.tcpState 0).state = .connected := by decide +kernel
  obtain ⟨t, ht, -⟩ := tcp?_of_state hs (by decide)
  have hnone : (s.tcp? 0).all (fun t => .write ∉ t.socket.outstanding) = true := by decide +kernel
  refine ⟨t, ht, (rejection_written_first_iff onePort hidle _ s hrun .plain 0 wrongPassword
    incorrectPassword (by decide +kernel) (rejects_wrongPassword [] (Or.inl rfl)) t ht).mpr ?_⟩
  simpa [ht] using hnone

/-- The banner is still being written when the login is rejected; its completion
closes the socket, with the Login Rejected packet in the queue. -/
theorem closed_by_banner :
    let s₀ := { onePort with debugBanner := [104, 105] }
    let inputs := beginsLogin.map fun event => (event, Env.plain)
    let s := system.final s₀ inputs
    let s' := s.handle .plain (.payloadCompleted 0 (.ok wrongPassword))
    let input : Event × Env := (.writeCompleted 0 (.ok 5), .plain)
    s₀.Idle ∧ system.Run s₀ inputs s ∧
      s.ready (.payloadCompleted 0 (.ok wrongPassword)) = true ∧
      s.Rejects .plain 0 wrongPassword incorrectPassword ∧ s'.ready input.1 = true ∧
      Peaceful 0 input s' ∧ s'.openAt 0 = true ∧ (s'.handle input.2 input.1).openAt 0 = false ∧
      ((s'.handle input.2 input.1).tcp? 0).any (fun t =>
        t.socket.writePackets = [rejection incorrectPassword]) = true ∧
      ∀ before, ¬s'.WrittenFirst (rejection incorrectPassword) before 0 := by
  intro s₀ inputs s s' input
  have hready : s'.ready input.1 = true := by decide +kernel
  have hopen : s'.openAt 0 = true := by decide +kernel
  have hclosed : (s'.handle input.2 input.1).openAt 0 = false := by decide +kernel
  have hqueue : (s'.tcp? 0).any (fun t => t.socket.writePackets.length = 2 ∧
      t.socket.writePackets.head?.map WritePacket.size = some 5) = true := by decide +kernel
  obtain ⟨t, ht, htwo⟩ := (Option.any_eq_true _ _).mp hqueue
  obtain ⟨hlength, hsize⟩ := of_decide_eq_true htwo
  have hpeaceful : Peaceful 0 input s' := by
    refine ⟨by rintro n ⟨⟩, ?_⟩
    rintro result ⟨⟩
    obtain ⟨packet, hfront, hpacket⟩ := Option.map_eq_some_iff.mp hsize
    exact ⟨t, packet, ht, hfront, by rw [hpacket]⟩
  refine ⟨⟨rfl, rfl, by simp [s₀, onePort]⟩, System.run_of_admits (by decide +kernel),
    by decide +kernel, rejects_wrongPassword [104, 105] (Or.inr rfl), hready, hpeaceful, hopen,
    hclosed, by decide +kernel, ?_⟩
  rintro before ⟨-, hfirst⟩
  obtain ⟨-, u, hu, hone, -⟩ := hfirst [] s' .refl input hready hpeaceful hopen hclosed
  cases ht.symm.trans hu
  rw [hone] at hlength
  exact absurd hlength (by decide)

end Acceptor

end SoupBin.ServerSide
