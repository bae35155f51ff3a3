import SoupBin.ClientTouched

/-!
# The slots of the client's connections

What each function of the client does to the `Tcp_connection` in its slot, with
the user calling back from inside the callbacks.
-/

namespace SoupBin.ClientSide

open TcpConnection

namespace Client

variable {closes : Nat → Prop}

/-! ## The slots -/

/-- The slot `i`: what it holds satisfies `P`, every `Tcp_connection` but that
one has been closed, and the reconnect timer runs only while it is empty. -/
structure Holds (P : TcpConnection → Prop) (i : Nat) (c : Client) : Prop where
  tcp : ∀ t, c.tcp? i = some t → P t
  counted : c.trace.count (.constructed i) =
    c.trace.count (.onClosed i) + (c.tcp? i).isSome.toNat
  idle : (c.tcp? i).isSome = true → c.reconnecting i = false

/-- In the middle of an event of the connection `i`. -/
structure Stage (i : Nat) (P : TcpConnection → Prop) (c : Client) : Prop where
  here : Holds P i c
  others : ∀ j, j ≠ i → Holds (Alive .idle) j c

/-- Between two events. -/
def Tidy (c : Client) : Prop := ∀ j, Holds (Alive .idle) j c

theorem Stage.tidy {i : Nat} {c : Client} (h : Stage i (Alive .idle) c) : Tidy c := by
  intro j
  by_cases hj : j = i
  · rw [hj]
    exact h.here
  · exact h.others j hj

theorem Tidy.stage {c : Client} (h : Tidy c) (i : Nat) : Stage i (Alive .idle) c :=
  ⟨h i, fun j _ => h j⟩

theorem Stage.mono {i : Nat} {P Q : TcpConnection → Prop} {c : Client} (h : Stage i P c)
    (hpq : ∀ t, c.tcp? i = some t → P t → Q t) : Stage i Q c :=
  ⟨⟨fun t ht => hpq t ht (h.here.tcp t ht), h.here.counted, h.here.idle⟩, h.others⟩

theorem Holds.same {P : TcpConnection → Prop} {i : Nat} {c c' : Client} (h : Holds P i c)
    (hc : c'.connections = c.connections) (ht : c'.trace = c.trace) : Holds P i c' := by
  have htcp : c'.tcp? i = c.tcp? i := by rw [tcp?, tcp?, hc]
  constructor
  · rw [htcp]
    exact h.tcp
  · rw [htcp, ht]
    exact h.counted
  · rw [htcp, Client.reconnecting, hc]
    exact h.idle

theorem Stage.same {P : TcpConnection → Prop} {i : Nat} {c c' : Client} (h : Stage i P c)
    (hc : c'.connections = c.connections) (ht : c'.trace = c.trace) : Stage i P c' :=
  ⟨h.here.same hc ht, fun j hj => (h.others j hj).same hc ht⟩

theorem Holds.touched {P : TcpConnection → Prop} {i : Nat} {c c' : Client} (h : Holds P i c)
    (ht : Touched closes c c') (hP : Stable (closes i) P) : Holds P i c' := by
  have hrel := ht.tcp i
  have hcounted := h.counted
  have hidle := h.idle
  have htcp := h.tcp
  constructor
  · intro u hu
    rw [hu] at hrel
    generalize c.tcp? i = t at hrel htcp
    cases hrel with
    | some hused => exact hP _ _ hused (htcp _ rfl)
  · rw [ht.made, ht.freed, hcounted]
    generalize c.tcp? i = t, c'.tcp? i = t' at hrel ⊢
    cases hrel <;> rfl
  · intro hsome
    apply ht.reconnecting i
    apply hidle
    generalize c.tcp? i = t, c'.tcp? i = t' at hrel hsome ⊢
    cases hrel with
    | none => exact hsome
    | some _ => rfl

theorem Stage.touched {P : TcpConnection → Prop} {i : Nat} {c c' : Client} (h : Stage i P c)
    (ht : Touched closes c c') (hP : Stable (closes i) P) : Stage i P c' :=
  ⟨h.here.touched ht hP, fun j hj => (h.others j hj).touched ht ((robust_alive .idle).stable _)⟩

theorem Holds.log {P : TcpConnection → Prop} {i : Nat} {c : Client} (h : Holds P i c)
    {entry : Entry} (hc : entry ≠ .constructed i) (ho : entry ≠ .onClosed i) :
    Holds P i (c.log entry) := by
  constructor
  · exact h.tcp
  · simp only [Client.log, List.count_append, List.count_singleton]
    rw [if_neg (by simpa using hc), if_neg (by simpa using ho)]
    exact h.counted
  · exact h.idle

theorem Stage.log {P : TcpConnection → Prop} {i : Nat} {c : Client} (h : Stage i P c)
    (entry : Entry) (hc : ∀ j, entry ≠ .constructed j) (ho : ∀ j, entry ≠ .onClosed j) :
    Stage i P (c.log entry) :=
  ⟨h.here.log (hc i) (ho i), fun j hj => (h.others j hj).log (hc j) (ho j)⟩

theorem tcp?_updateConnection (c : Client) (i j : Nat) (f : Connection → Connection) :
    (c.updateConnection i f).tcp? j =
      if i = j then c.connections[j]?.bind fun conn => (f conn).connection else c.tcp? j := by
  rw [tcp?, getElem?_updateConnection]
  split
  · cases c.connections[j]? <;> rfl
  · rfl

theorem reconnecting_updateConnection (c : Client) (i j : Nat) {f : Connection → Connection}
    (hf : ∀ conn : Connection, (f conn).reconnectTimer = conn.reconnectTimer) :
    (c.updateConnection i f).reconnecting j = c.reconnecting j := by
  rw [Client.reconnecting, getElem?_updateConnection]
  split
  · cases h : c.connections[j]? with
    | none => simp [Client.reconnecting, h]
    | some conn => simp [Client.reconnecting, h, hf]
  · rfl

/-- An update of the connection `i` is not seen by the others. -/
theorem Holds.elsewhere {P : TcpConnection → Prop} {i j : Nat} {c : Client} (h : Holds P j c)
    (hj : j ≠ i) (f : Connection → Connection) : Holds P j (c.updateConnection i f) := by
  have ht : (c.updateConnection i f).tcp? j = c.tcp? j := by
    rw [tcp?_updateConnection, if_neg (Ne.symm hj)]
  have hr : (c.updateConnection i f).reconnecting j = c.reconnecting j := by
    rw [Client.reconnecting, getElem?_updateConnection, if_neg (Ne.symm hj)]
    rfl
  constructor
  · rw [ht]
    exact h.tcp
  · rw [ht]
    exact h.counted
  · rw [ht, hr]
    exact h.idle

theorem tcp?_updateTcp (c : Client) (i : Nat) (f : TcpConnection → TcpConnection) :
    (c.updateTcp i f).tcp? i = (c.tcp? i).map f := by
  rw [updateTcp, tcp?_updateConnection, if_pos rfl, tcp?]
  cases c.connections[i]? <;> rfl

theorem Stage.updateTcp {P Q : TcpConnection → Prop} {i : Nat} {c : Client} (h : Stage i P c)
    {f : TcpConnection → TcpConnection} (hf : ∀ t, P t → Q (f t)) : Stage i Q (c.updateTcp i f) := by
  have ht := tcp?_updateTcp c i f
  have hr : (c.updateTcp i f).reconnecting i = c.reconnecting i :=
    reconnecting_updateConnection c i i fun _ => rfl
  constructor
  · constructor
    · intro u hu
      rw [ht] at hu
      obtain ⟨t, htcp, rfl⟩ := Option.map_eq_some_iff.mp hu
      exact hf t (h.here.tcp t htcp)
    · rw [ht, Option.isSome_map]
      exact h.here.counted
    · rw [ht, Option.isSome_map, hr]
      exact h.here.idle
  · exact fun j hj => (h.others j hj).elsewhere hj _

/-- The connection's own data may change. -/
theorem Stage.updateConnection {P : TcpConnection → Prop} {i : Nat} {c : Client} (h : Stage i P c)
    {f : Connection → Connection}
    (hf : ∀ conn, (f conn).connection = conn.connection ∧
      (f conn).reconnectTimer = conn.reconnectTimer) : Stage i P (c.updateConnection i f) := by
  have ht : (c.updateConnection i f).tcp? i = c.tcp? i := by
    rw [tcp?_updateConnection, if_pos rfl, tcp?]
    cases c.connections[i]? with
    | none => rfl
    | some conn => exact (hf conn).1
  have hr := reconnecting_updateConnection c i i fun conn => (hf conn).2
  constructor
  · constructor
    · rw [ht]
      exact h.here.tcp
    · rw [ht]
      exact h.here.counted
    · rw [ht, hr]
      exact h.here.idle
  · exact fun j hj => (h.others j hj).elsewhere hj f

/-! ## Functions of the client

`may cb j` says whether the user may close the connection `j` from inside `cb`. -/

section
variable {user : User} {may : Callback → Nat → Prop}
variable (hu : ∀ cb c, Touched (may cb) c (user cb c)) (faults : Faults) {i : Nat}
variable {P : TcpConnection → Prop} {c : Client}
include hu

theorem Stage.notify (h : Stage i P c) (handlerSet : Bool) (cb : Callback)
    (hP : Stable (may cb i) P) : Stage i P (c.notify user handlerSet cb) := by
  have hlog : Stage i P (c.log (.called handlerSet cb)) := h.log _ (by simp) (by simp)
  unfold Client.notify
  dsimp only
  split
  · exact hlog.touched (hu cb _) hP
  · exact hlog

theorem Stage.connectionCallback (h : Stage i P c) (cb : ConnectionCallback)
    (hP : Stable (may (.connection i cb) i) P) : Stage i P (c.connectionCallback user i cb) := by
  unfold Client.connectionCallback
  split
  · exact h
  · exact h.notify hu _ _ hP

theorem Stage.tcpCallback (h : Stage i P c) (cb : ConnectionCallback)
    (hP : Stable (may (.connection i cb) i) P) : Stage i P (c.tcpCallback user i cb) := by
  unfold Client.tcpCallback
  split
  · exact h
  · exact h.notify hu _ _ hP

omit hu in
theorem Stage.tcpDisconnect (h : Stage i P c) (hP : Robust P) (reason : DisconnectReason) :
    Stage i P (c.tcpDisconnect i reason) :=
  h.updateTcp fun t ht => hP.disconnect t reason ht

theorem Stage.handleTransportError (h : Stage i P c) (hP : Robust P) (ec : IoError)
    (operation : String) : Stage i P (c.handleTransportError user i ec operation) :=
  (h.tcpCallback hu _ (hP.stable _)).tcpDisconnect hP _

theorem Stage.handleConnectFailure (h : Stage i P c) (hP : Robust P) (ec : IoError)
    (operation : String) : Stage i P (c.handleConnectFailure user i ec operation) :=
  (h.tcpCallback hu _ (hP.stable _)).tcpDisconnect hP _

theorem Stage.handleProtocolViolation (h : Stage i P c) (hP : Robust P) (error : PacketError) :
    Stage i P (c.handleProtocolViolation user i error) :=
  (h.tcpCallback hu _ (hP.stable _)).tcpDisconnect hP _

/-! ### Reading -/

omit hu in
/-- In a state other than that of a new `Tcp_connection` there is one. -/
theorem state_of_tcp {t : TcpConnection} (ht : c.tcp? i = some t) {state : State}
    (hs : (c.tcpState i).state = state) : t.state.state = state := by
  simpa [tcpState, ht] using hs

theorem Stage.startLoginTimer (h : Stage i LoggingIn c) :
    Stage i Readable ((loginTimerHandler user i).start faults.loginTimer
      (c.updateTcp i (·.setLoginTimerStopped false))) := by
  have hfresh : ((loginTimerHandler user i).timer
      (c.updateTcp i (·.setLoginTimerStopped false))).started = false := by
    simp only [loginTimerHandler, tcp?_updateTcp]
    cases ht : c.tcp? i with
    | none => rfl
    | some t => exact congrArg Watch.started (h.here.tcp t ht).fresh
  have hstarted : Stage i Readable ((c.updateTcp i (·.setLoginTimerStopped false)).updateTcp i
      (·.updateLoginTimer LoginTimer.setStarted)) := by
    have hflag : Stage i (fun t => Readable (t.updateLoginTimer LoginTimer.setStarted))
        (c.updateTcp i (·.setLoginTimerStopped false)) := h.updateTcp fun t ht => ht.started
    exact hflag.updateTcp fun t ht => ht
  unfold LoginTimer.Handler.start
  rw [if_neg (by simp [hfresh])]
  cases faults.loginTimer with
  | some ec => exact hstarted.handleTransportError hu robust_readable ec _
  | none => exact hstarted.updateTcp fun t ht => ht.loginWait

theorem Stage.connectSuccess (h : Stage i Opening c)
    (hopen : ¬may (.connection i .connectSuccess) i)
    (hopen' : ∀ request, ¬may (.connection i (.loggingIn request)) i) :
    Stage i (Alive .socket) (c.connectSuccess user faults i) := by
  have stable {closes : Prop} (hc : ¬closes) : Stable closes LoggingIn :=
    stable_of_open hc fun _ _ ht hw => ht.wrote hw
  have hconnected := h.updateTcp (f := (·.setState .connected)) fun t ht => ht.connected
  have hcalled := hconnected.tcpCallback hu .connectSuccess (stable hopen)
  unfold Client.connectSuccess
  dsimp only
  have hnumbered : Stage i LoggingIn (((c.updateTcp i (·.setState .connected)).tcpCallback user i
      .connectSuccess).onConnectSuccess i).2 := by
    unfold onConnectSuccess
    split
    · exact hcalled
    · exact hcalled.updateConnection fun _ => ⟨rfl, rfl⟩
  have hlogging := hnumbered.tcpCallback hu
    (.loggingIn (((c.updateTcp i (·.setState .connected)).tcpCallback user i
      .connectSuccess).onConnectSuccess i).1) (stable (hopen' _))
  have hread := (hlogging.startLoginTimer hu faults).updateTcp
    (f := (·.updateSocket Socket.asyncRead)) fun t ht => ht.asyncRead
  exact hread.updateTcp fun t ht => ht.wrote (wrote_writeBestEffort _ t)

theorem Stage.startHeartbeatTimer (h : Stage i LoggedIn c) :
    Stage i Readable ((heartbeatTimerHandler user i).start faults.heartbeatTimer
      faults.heartbeatSchedule (c.updateTcp i (·.setHeartbeatTimerStopped false))) := by
  have hfresh : ((heartbeatTimerHandler user i).timer
      (c.updateTcp i (·.setHeartbeatTimerStopped false))).started = false := by
    simp only [heartbeatTimerHandler, tcp?_updateTcp]
    cases ht : c.tcp? i with
    | none => rfl
    | some t => exact congrArg Watch.started (h.here.tcp t ht).fresh
  have hstarted : Stage i (fun t => Readable t ∧ t.state.state = .loggedIn)
      ((c.updateTcp i (·.setHeartbeatTimerStopped false)).updateTcp i
        (·.updateHeartbeatTimer HeartbeatTimer.setStarted)) := by
    have hflag : Stage i (fun t =>
        Readable (t.updateHeartbeatTimer HeartbeatTimer.setStarted) ∧ t.state.state = .loggedIn)
        (c.updateTcp i (·.setHeartbeatTimerStopped false)) :=
      h.updateTcp fun t ht => ⟨ht.started, ht.state⟩
    exact hflag.updateTcp fun t ht => ht
  have hreadable := hstarted.mono fun t _ ht => ht.1
  unfold HeartbeatTimer.Handler.start
  rw [if_neg (by simp [hfresh])]
  cases faults.heartbeatTimer with
  | some ec => exact hreadable.handleTransportError hu robust_readable ec _
  | none =>
    unfold HeartbeatTimer.Handler.schedule
    cases faults.heartbeatSchedule with
    | some ec => exact hreadable.handleTransportError hu robust_readable ec _
    | none =>
      apply hstarted.updateTcp
      rintro t ⟨ht, hs⟩
      exact ⟨ht.toReached.heartbeatWait (by simp [hs]), ht.notReading⟩

omit hu in
theorem Stage.setNextSequenceNumber (h : Stage i P c) (n : Nat) :
    Stage i P (c.setNextSequenceNumber n) :=
  h.same rfl rfl

omit hu in
theorem Stage.acceptLogin (h : Stage i P c) (response : LoginAcceptedPacket) :
    Stage i P (c.acceptLogin i response) := by
  have hupdated := h.updateConnection (f := (·.accept response)) fun _ => ⟨rfl, rfl⟩
  exact hupdated.log (.accepted i response) (by simp) (by simp)

theorem Stage.processLoginAccepted (h : Stage i Readable c) (data : Bytes)
    (hopen : ∀ response, ¬may (.connection i (.loginSuccess response)) i) :
    Stage i Readable (c.processLoginAccepted user faults i data).2 := by
  unfold Client.processLoginAccepted
  split
  · exact h
  · split
    · exact h
    · rename_i hs
      dsimp only
      split
      · exact h
      · have hknown := h.mono fun t ht hr =>
          (⟨hr, state_of_tcp ht (not_not.mp hs)⟩ : Readable t ∧ t.state.state = .connected)
        have hlogged := hknown.updateTcp
          (f := fun t => (t.updateLoginTimer LoginTimer.stop).setState .loggedIn)
          fun t ht => ht.1.loggedIn ht.2
        have haccepted : Stage i LoggedIn ((c.updateTcp i fun t =>
            (t.updateLoginTimer LoginTimer.stop).setState .loggedIn).onLoginSuccess i
              (LoginAcceptedPacket.read data)).2 := by
          unfold onLoginSuccess
          split
          · exact hlogged
          · split
            · exact hlogged
            · split
              · split
                · exact hlogged
                · split
                  · exact hlogged
                  · exact hlogged.acceptLogin _
              · split
                · exact (hlogged.setNextSequenceNumber _).acceptLogin _
                · split
                  · exact hlogged
                  · exact hlogged.acceptLogin _
        split
        · have hcalled := haccepted.tcpCallback hu (.loginSuccess (LoginAcceptedPacket.read data))
            (stable_of_open (hopen _) fun _ _ ht hw => ht.wrote hw)
          exact hcalled.startHeartbeatTimer hu faults
        · exact (haccepted.mono fun _ _ ht => ht.toReadable).tcpDisconnect robust_readable _

theorem Stage.processLoginRejected (h : Stage i Readable c) (data : Bytes) :
    Stage i Readable (c.processLoginRejected user i data).2 := by
  unfold Client.processLoginRejected
  split
  · exact h
  · split
    · exact h
    · have hstopped := h.updateTcp (f := (·.updateLoginTimer LoginTimer.stop)) fun t ht =>
        (⟨ht.toReached.stopLogin, ht.notReading⟩ : Readable _)
      exact (hstopped.tcpCallback hu _ (robust_readable.stable _)).tcpDisconnect robust_readable _

omit hu in
theorem Stage.received (h : Stage i Readable c) :
    Stage i Readable (c.updateTcp i
      (·.updateHeartbeatTimer HeartbeatTimer.incrementReceiveCount)) :=
  h.updateTcp fun t ht => ht.wrote (wrote_count HeartbeatTimer.watch_incrementReceiveCount t)

theorem Stage.processSequencedData (h : Stage i Readable c) (data : Bytes) :
    Stage i Readable (c.processSequencedData user i data).2 := by
  unfold Client.processSequencedData
  split
  · exact h
  · split
    · exact h
    · have hreceived := h.received
      dsimp only
      unfold connectionOnSequencedData
      split
      · exact hreceived
      · rename_i conn _
        have hcounted := hreceived.updateConnection
          (f := (·.setNextSequenceNumber ((conn.nextSequenceNumber + 1) % 2 ^ 64)))
          fun _ => ⟨rfl, rfl⟩
        have harrived := hcounted.log (.arrived conn.nextSequenceNumber data)
          (by simp) (by simp)
        dsimp only
        unfold onSequencedData
        dsimp only
        split
        · exact harrived
        · split
          · exact harrived.log _ (by simp) (by simp)
          · exact (harrived.setNextSequenceNumber _).notify hu _ _ (robust_readable.stable _)

theorem Stage.processEndOfSession (h : Stage i Readable c) (size : Nat) :
    Stage i Readable (c.processEndOfSession user i size).2 := by
  unfold Client.processEndOfSession
  split
  · exact h
  · split
    · exact h
    · have hreceived := h.received
      dsimp only
      unfold connectionOnEndOfSession
      split
      · exact hreceived
      · split
        · exact hreceived
        · have hended := hreceived.updateConnection (f := Connection.setSessionEnded)
            fun _ => ⟨rfl, rfl⟩
          unfold onEndOfSession
          split
          · exact hended
          · have hknown : Stage i Readable { (c.updateTcp i (·.updateHeartbeatTimer
                HeartbeatTimer.incrementReceiveCount)).updateConnection i
                  Connection.setSessionEnded with hasSessionEnded := true } :=
              hended.same rfl rfl
            exact hknown.notify hu _ _ (robust_readable.stable _)

theorem Stage.processPacket (h : Stage i Readable c) (packet : ReadPacket)
    (hopen : ∀ response, ¬may (.connection i (.loginSuccess response)) i) :
    Stage i Readable (c.processPacket user faults i packet).2 := by
  unfold Client.processPacket
  dsimp only
  split
  · exact h.tcpCallback hu _ (robust_readable.stable _)
  · split
    · exact h.processLoginAccepted hu faults _ hopen
    · split
      · exact h.processLoginRejected hu _
      · split
        · exact h.processSequencedData hu _
        · split
          · unfold processServerHeartbeat
            split
            · exact h
            · split
              · exact h
              · exact h.received
          · split
            · exact h.processEndOfSession hu _
            · exact h

omit hu in
/-- The end of `read_success`. -/
theorem Stage.readOn (h : Stage i Readable c) :
    Stage i (Alive .socket) (if (c.tcpState i).isClosing then c
      else c.updateTcp i (·.updateSocket Socket.asyncRead)) := by
  split
  · exact h.mono fun _ _ ht => ht.toAlive
  · exact h.updateTcp fun t ht => ht.asyncRead

theorem Stage.readSuccess (h : Stage i Readable c) (packet : ReadPacket)
    (hopen : ∀ response, ¬may (.connection i (.loginSuccess response)) i) :
    Stage i (Alive .socket) (c.readSuccess user faults i packet) := by
  have hp := h.processPacket hu faults packet hopen
  unfold Client.readSuccess
  split
  · exact h.mono fun _ _ ht => ht.toAlive
  · dsimp only
    split
    · exact (hp.handleProtocolViolation hu robust_readable _).readOn
    · exact hp.readOn

/-! ### Completions -/

omit hu in
/-- The end of every completion of the socket. -/
theorem Stage.socketDone (h : Stage i (Alive .socket) c) :
    Tidy (c.updateTcp i (·.updateSocket Socket.maybeSignalClosed)) :=
  (h.updateTcp fun _ ht => ht.socketDone).tidy

theorem tidy_connectCompleted (h : Tidy c)
    (hready : ∀ t, c.tcp? i = some t → .connect ∈ t.socket.outstanding) (ec : Option IoError)
    (hopen : ¬may (.connection i .connectSuccess) i)
    (hopen' : ∀ request, ¬may (.connection i (.loggingIn request)) i) :
    Tidy ((socketHandler user faults i).connectCompleted ec c) := by
  have hknown := (h.stage i).mono fun t ht ha =>
    (⟨ha, hready t ht⟩ : Alive .idle t ∧ .connect ∈ t.socket.outstanding)
  have hdone := hknown.updateTcp (f := (·.updateSocket Socket.connectDone))
    fun t ht => ht.1.connectDone ht.2
  have halive := hdone.mono fun _ _ ht => ht.toAlive
  apply Stage.socketDone
  cases ec with
  | none => exact hdone.connectSuccess hu faults hopen hopen'
  | some ec =>
    cases ec with
    | operationAborted => exact halive
    | eof => exact halive.handleConnectFailure hu (robust_alive _) _ _
    | other code => exact halive.handleConnectFailure hu (robust_alive _) _ _

theorem Stage.readFailed (h : Stage i Readable c) (ec : IoError) :
    Stage i (Alive .socket) ((socketHandler user faults i).readFailed ec c) := by
  have halive := h.mono fun _ _ ht => ht.toAlive
  cases ec with
  | operationAborted => exact halive.tcpDisconnect (robust_alive _) _
  | eof => exact halive.tcpDisconnect (robust_alive _) _
  | other code => exact halive.handleTransportError hu (robust_alive _) _ _

omit hu in
theorem Stage.setReadPacket (h : Stage i Readable c) (packet : ReadPacket) :
    Stage i Readable (c.updateTcp i (·.updateSocket (Socket.setReadPacket packet))) :=
  h.updateTcp fun _ ht =>
    ht.updateSocket (ht.socket.setReadPacket packet) ⟨rfl, rfl, rfl, id⟩ ht.notReading

theorem tidy_headerCompleted (h : Tidy c)
    (hready : ∀ t, c.tcp? i = some t → .readHeader ∈ t.socket.outstanding)
    (result : Except IoError Bytes)
    (hopen : ∀ response, ¬may (.connection i (.loginSuccess response)) i) :
    Tidy ((socketHandler user faults i).headerCompleted result c) := by
  have hknown := (h.stage i).mono fun t ht ha =>
    (⟨ha, hready t ht⟩ : Alive .idle t ∧ .readHeader ∈ t.socket.outstanding)
  have hdone : Stage i (fun t => Readable t ∧ t.socket.closedSignaled = false) _ :=
    hknown.updateTcp (f := (·.updateSocket (Socket.readDone .readHeader)))
      fun t ht => ht.1.readDone ht.2 (Or.inl rfl)
  have hreadable := hdone.mono fun _ _ ht => ht.1
  have halive := hreadable.mono fun _ _ ht => ht.toAlive
  apply Stage.socketDone
  cases result with
  | error ec => exact hreadable.readFailed hu faults ec
  | ok bytes =>
    simp only [Socket.Handler.headerReceived]
    split
    · exact halive.handleTransportError hu (robust_alive _) _ _
    · split
      · -- the payload is read next, so `closed` must not have been posted
        have hset (packet : ReadPacket) :
            Stage i (fun t => Readable t ∧ t.socket.closedSignaled = false) _ :=
          hdone.updateTcp (f := (·.updateSocket (Socket.setReadPacket packet))) fun t ht =>
            ⟨ht.1.updateSocket (ht.1.socket.setReadPacket packet) ⟨rfl, rfl, rfl, id⟩
              ht.1.notReading, ht.2⟩
        exact (hset _).updateTcp fun t ht => ht.1.startReadPayload ht.2
      · exact ((hreadable.setReadPacket _).setReadPacket {}).readSuccess hu faults _ hopen
      · exact ((hreadable.setReadPacket _).mono fun _ _ ht => ht.toAlive).handleProtocolViolation
          hu (robust_alive _) _

theorem tidy_payloadCompleted (h : Tidy c)
    (hready : ∀ t, c.tcp? i = some t → .readPayload ∈ t.socket.outstanding)
    (result : Except IoError Bytes)
    (hopen : ∀ response, ¬may (.connection i (.loginSuccess response)) i) :
    Tidy ((socketHandler user faults i).payloadCompleted result c) := by
  have hknown := (h.stage i).mono fun t ht ha =>
    (⟨ha, hready t ht⟩ : Alive .idle t ∧ .readPayload ∈ t.socket.outstanding)
  have hdone := hknown.updateTcp (f := (·.updateSocket (Socket.readDone .readPayload)))
    fun t ht => (ht.1.readDone ht.2 (Or.inr rfl)).1
  have halive := hdone.mono fun _ _ ht => ht.toAlive
  apply Stage.socketDone
  cases result with
  | error ec => exact hdone.readFailed hu faults ec
  | ok bytes =>
    simp only [Socket.Handler.payloadReceived]
    split
    · exact halive.handleTransportError hu (robust_alive _) _ _
    · exact (hdone.setReadPacket {}).readSuccess hu faults _ hopen

theorem tidy_writeCompleted (h : Tidy c)
    (hready : ∀ t, c.tcp? i = some t → .write ∈ t.socket.outstanding)
    (result : Except IoError Nat) :
    Tidy ((socketHandler user faults i).writeCompleted result c) := by
  have hknown := (h.stage i).mono fun t ht ha =>
    (⟨ha, hready t ht⟩ : Alive .idle t ∧ .write ∈ t.socket.outstanding)
  have hdone : Stage i (fun t => Alive .socket t ∧ t.socket.writePending = false ∧
      t.socket.closedSignaled = false) _ :=
    hknown.updateTcp (f := (·.updateSocket Socket.writeDone))
      fun t ht => ⟨ht.1.writeDone ht.2, rfl, ht.1.socket.unsignaled_of_mem ht.2⟩
  have halive := hdone.mono fun _ _ ht => ht.1
  apply Stage.socketDone
  cases result with
  | error ec =>
    cases ec with
    | operationAborted => exact halive
    | eof => exact halive.handleTransportError hu (robust_alive _) _ _
    | other code => exact halive.handleTransportError hu (robust_alive _) _ _
  | ok n =>
    simp only [Socket.Handler.packetSent]
    split
    · exact halive
    · split
      · exact halive.handleTransportError hu (robust_alive _) _ _
      · have hpopped : Stage i (fun t => Alive .socket t ∧ t.socket.writePending = false ∧
            t.socket.closedSignaled = false) _ :=
          hdone.updateTcp (f := (·.updateSocket Socket.popPacket)) fun t ht =>
            ⟨ht.1.updateSocket (Or.inr rfl) (ht.1.socket.popPacket ht.2.1) ⟨rfl, rfl, rfl, id⟩
              fun hc => (ht.1.connecting hc).2.2, ht.2⟩
        split
        · exact hpopped.updateTcp fun t ht =>
            ht.1.updateSocket (Or.inr rfl) (ht.1.socket.startWritePacket ht.2.2 ht.2.1)
              (Socket.Follows.refl _).startWritePacket fun hc => by
                rw [Socket.startWritePacket_readPending]
                exact (ht.1.connecting
                  ((Socket.Follows.refl _).startWritePacket.connect hc)).2.2
        · have hend := hpopped.mono fun _ _ ht => ht.1
          split
          · have hcleared : Stage i (Alive .socket) _ :=
              hend.updateTcp (f := (·.updateSocket Socket.clearWasFull)) fun t ht =>
                ht.updateSocket (Or.inr rfl) ht.socket.clearWasFull ⟨rfl, rfl, rfl, id⟩
                  fun hc => (ht.connecting hc).2.2
            exact hcleared.tcpCallback hu _ ((robust_alive _).stable _)
          · exact hend

theorem tidy_loginTimerWait (h : Tidy c) (hready : ∀ t, c.tcp? i = some t → 0 < t.loginTimer.waits)
    (ec : Option IoError) : Tidy ((loginTimerHandler user i).waitCompleted ec c) := by
  have hknown := (h.stage i).mono fun t ht ha =>
    (⟨ha, hready t ht⟩ : Alive .idle t ∧ 0 < t.loginTimer.waits)
  have hdone := hknown.updateTcp (f := (·.updateLoginTimer LoginTimer.waitDone))
    fun t ht => ht.1.loginWaitDone ht.2
  have hexpired : Stage i (Reached .loginTimer) ((loginTimerHandler user i).onExpiry ec
      (c.updateTcp i (·.updateLoginTimer LoginTimer.waitDone))) := by
    unfold LoginTimer.Handler.onExpiry
    split
    · cases ec with
      | some ec => exact hdone.handleTransportError hu (robust_reached _) _ _
      | none => exact hdone.tcpDisconnect (robust_reached _) _
    · exact hdone
  exact (hexpired.updateTcp fun t ht => ht.loginDone).tidy

theorem Stage.sendOrSchedule (h : Stage i Beating c) (fault : Option IoError) :
    Stage i Beating ((heartbeatTimerHandler user i).sendOrSchedule fault c) := by
  have hsent : Stage i Beating ((heartbeatTimerHandler user i).checkSent c) := by
    unfold HeartbeatTimer.Handler.checkSent
    split
    · exact h.updateTcp fun t ht => ht.wrote (wrote_writeBestEffort _ t)
    · exact h.updateTcp fun t ht => ht.wrote (wrote_count HeartbeatTimer.watch_resetSent t)
  unfold HeartbeatTimer.Handler.sendOrSchedule
  dsimp only
  split
  · cases fault with
    | some ec => exact hsent.handleTransportError hu robust_beating _ _
    | none => exact hsent.updateTcp fun t ht => ht.schedule
  · exact hsent

theorem tidy_heartbeatTimerWait (h : Tidy c)
    (hready : ∀ t, c.tcp? i = some t → 0 < t.heartbeatTimer.waits) (ec fault : Option IoError) :
    Tidy ((heartbeatTimerHandler user i).waitCompleted ec fault c) := by
  have hknown := (h.stage i).mono fun t ht ha =>
    (⟨ha, hready t ht⟩ : Alive .idle t ∧ 0 < t.heartbeatTimer.waits)
  have hdone := hknown.updateTcp (f := (·.updateHeartbeatTimer HeartbeatTimer.waitDone))
    fun t ht => ht.1.heartbeatWaitDone ht.2
  have hexpired : Stage i Beating ((heartbeatTimerHandler user i).onExpiry ec fault
      (c.updateTcp i (·.updateHeartbeatTimer HeartbeatTimer.waitDone))) := by
    unfold HeartbeatTimer.Handler.onExpiry
    split
    · cases ec with
      | some ec => exact hdone.handleTransportError hu robust_beating _ _
      | none =>
        dsimp only
        split
        · have hcounted : Stage i Beating _ :=
            hdone.updateTcp (f := (·.updateHeartbeatTimer HeartbeatTimer.countSilence))
              fun t ht => ht.wrote (wrote_count HeartbeatTimer.watch_countSilence t)
          split
          · exact hcounted.tcpDisconnect robust_beating _
          · exact hcounted.sendOrSchedule hu _
        · have hreset : Stage i Beating _ :=
            hdone.updateTcp (f := (·.updateHeartbeatTimer HeartbeatTimer.resetReceived))
              fun t ht => ht.wrote (wrote_count HeartbeatTimer.watch_resetReceived t)
          exact hreset.sendOrSchedule hu _
    · exact hdone
  exact (hexpired.updateTcp fun t ht => ht.done).tidy

/-! ### A Tcp_connection is made and freed -/

/-- In the middle of `emplace` the new `Tcp_connection` is not in its slot yet. -/
structure Building (i : Nat) (c : Client) : Prop where
  vacant : c.tcp? i = none
  counted : c.trace.count (.constructed i) = c.trace.count (.onClosed i) + 1
  idle : c.reconnecting i = false
  known : i < c.connections.length
  others : ∀ j, j ≠ i → Holds (Alive .idle) j c

theorem Building.notify (h : Building i c) (handlerSet : Bool) (cb : Callback) :
    Building i (c.notify user handlerSet cb) := by
  have hlog : Building i (c.log (.called handlerSet cb)) := by
    constructor
    · exact h.vacant
    · simpa [Client.log, List.count_append] using h.counted
    · exact h.idle
    · exact h.known
    · exact fun j hj => (h.others j hj).log (by simp) (by simp)
  unfold Client.notify
  dsimp only
  split
  · have ht := hu cb (c.log (.called handlerSet cb))
    constructor
    · have hrel := ht.tcp i
      rw [hlog.vacant] at hrel
      generalize (user cb (c.log (.called handlerSet cb))).tcp? i = t at hrel ⊢
      cases hrel
      rfl
    · rw [ht.made, ht.freed]
      exact hlog.counted
    · exact ht.reconnecting i hlog.idle
    · exact Nat.lt_of_lt_of_le hlog.known ht.known
    · exact fun j hj => (hlog.others j hj).touched ht ((robust_alive .idle).stable _)
  · exact hlog

omit hu in
theorem Building.engage (h : Building i c) {t : TcpConnection} (ht : Alive .idle t) :
    Tidy (c.updateConnection i (·.setConnection (some t))) := by
  have htcp : (c.updateConnection i (·.setConnection (some t))).tcp? i = some t := by
    rw [tcp?_updateConnection, if_pos rfl, List.getElem?_eq_getElem h.known]
    rfl
  apply Stage.tidy (i := i)
  constructor
  · constructor
    · intro u hu
      rw [htcp] at hu
      cases hu
      exact ht
    · rw [htcp]
      exact h.counted
    · intro _
      exact (reconnecting_updateConnection c i i
        (f := (·.setConnection (some t))) fun _ => rfl).trans h.idle
  · exact fun j hj => (h.others j hj).elsewhere hj _

theorem tidy_emplace (h : Tidy c) (hv : c.tcp? i = none) (hr : c.reconnecting i = false) :
    Tidy (c.emplace user faults i) := by
  unfold Client.emplace
  split
  · exact h
  · rename_i conn hconn
    have hempty : (c.updateConnection i (·.setConnection none)).tcp? i = none := by
      rw [tcp?_updateConnection, if_pos rfl, hconn]
      rfl
    have hbuilding : Building i
        ((c.updateConnection i (·.setConnection none)).log (.constructed i)) := by
      constructor
      · exact hempty
      · have hcounted := (h i).counted
        rw [hv] at hcounted
        simpa [Client.log, List.count_append] using hcounted
      · exact (reconnecting_updateConnection c i i
          (f := (·.setConnection none)) fun _ => rfl).trans hr
      · obtain ⟨hi, -⟩ := List.getElem?_eq_some_iff.mp hconn
        simpa [Client.log, updateConnection] using hi
      · intro j hj
        have hne : (Entry.constructed i) ≠ .constructed j := by
          rintro ⟨rfl⟩
          exact hj rfl
        exact ((h j).elsewhere hj _).log hne (by simp)
    have hcalled := hbuilding.notify hu conn.handlerSet
      (.connection i (.connecting conn.endpoint))
    dsimp only
    split
    · exact (hcalled.notify hu _ _).engage ((alive_new _ false _).disconnect _)
    · split
      · exact (hcalled.notify hu _ _).engage ((alive_new _ true _).disconnect _)
      · exact hcalled.engage (alive_asyncConnect _ _)

theorem tidy_connect (h : Tidy c) : Tidy (c.connect user faults i) := by
  unfold Client.connect
  split
  · exact h
  · rename_i conn hconn
    have hcalled : Tidy (c.log (.connectCalled i)) :=
      fun j => (h j).log (by simp) (by simp)
    dsimp only
    split
    · exact hcalled
    · split
      · exact hcalled
      · rename_i hnone
        split
        · exact hcalled
        · rename_i hidle
          apply tidy_emplace hu faults hcalled
          · simpa [tcp?, Client.log, hconn] using hnone
          · simpa [Client.reconnecting, Client.log, hconn] using hidle

/-! ### The reconnect timer -/

omit hu in
/-- An empty slot allows any change of its reconnect timer. -/
theorem Tidy.updateReconnectTimer (h : Tidy c) (f : ReconnectTimer → ReconnectTimer)
    (hf : c.tcp? i = none ∨ ∀ timer, (f timer).started = true → timer.started = true) :
    Tidy (c.updateConnection i (·.updateReconnectTimer f)) := by
  have ht : (c.updateConnection i (·.updateReconnectTimer f)).tcp? i = c.tcp? i := by
    rw [tcp?_updateConnection, if_pos rfl]
    rfl
  apply Stage.tidy (i := i)
  constructor
  · constructor
    · rw [ht]
      exact (h i).tcp
    · rw [ht]
      exact (h i).counted
    · rw [ht]
      intro hsome
      rcases hf with hv | hf
      · simp [hv] at hsome
      · have hidle := (h i).idle hsome
        rw [Client.reconnecting, getElem?_updateConnection, if_pos rfl]
        cases hi : c.connections[i]? with
        | none => rfl
        | some conn =>
          have hs : conn.reconnectTimer.started = false := by
            simpa [Client.reconnecting, hi] using hidle
          show (f conn.reconnectTimer).started = false
          cases hfs : (f conn.reconnectTimer).started with
          | false => rfl
          | true =>
            rw [hf _ hfs] at hs
            cases hs
  · exact fun j hj => (h j).elsewhere hj _

/-- The slot `i` is empty. -/
theorem vacant_connectionCallback (h : c.tcp? i = none) (cb : ConnectionCallback) :
    (c.connectionCallback user i cb).tcp? i = none := by
  unfold Client.connectionCallback
  split
  · exact h
  · rename_i conn _
    unfold Client.notify
    dsimp only
    split
    · have hrel := (hu (.connection i cb) (c.log (.called conn.handlerSet (.connection i cb)))).tcp i
      have hlog : (c.log (.called conn.handlerSet (.connection i cb))).tcp? i = none := h
      rw [hlog] at hrel
      generalize (user (.connection i cb) (c.log (.called conn.handlerSet
        (.connection i cb)))).tcp? i = t at hrel ⊢
      cases hrel
      rfl
    · exact h

theorem Tidy.connectionCallback (h : Tidy c) (cb : ConnectionCallback) :
    Tidy (c.connectionCallback user i cb) :=
  ((h.stage i).connectionCallback hu cb ((robust_alive .idle).stable _)).tidy

theorem tidy_scheduleReconnect (h : Tidy c) (hv : c.tcp? i = none) :
    Tidy (c.scheduleReconnect user faults i) := by
  have hdelay : Tidy (c.updateConnection i Connection.nextDelay) :=
    ((h.stage i).updateConnection (f := Connection.nextDelay) fun _ => ⟨rfl, rfl⟩).tidy
  have hvdelay : (c.updateConnection i Connection.nextDelay).tcp? i = none := by
    rw [← hv, tcp?_updateConnection, if_pos rfl]
    rfl
  have hcalled := hdelay.connectionCallback hu (i := i)
    (.reconnectScheduled ((c.connections[i]?.map (·.reconnectNextDelay)).getD 0))
  have hvcalled := vacant_connectionCallback hu hvdelay
    (.reconnectScheduled ((c.connections[i]?.map (·.reconnectNextDelay)).getD 0))
  unfold Client.scheduleReconnect
  dsimp only
  unfold ReconnectTimer.Handler.start
  split
  · exact hcalled
  · cases faults.reconnectTimer with
    | some ec =>
      have hstopped := hcalled.updateReconnectTimer (ReconnectTimer.setStarted false)
        (Or.inl hvcalled)
      exact hstopped.connectionCallback hu _
    | none =>
      have hstarted := hcalled.updateReconnectTimer (ReconnectTimer.setStarted true)
        (Or.inl hvcalled)
      exact hstarted.updateReconnectTimer ReconnectTimer.startWait (Or.inr fun _ ht => ht)

theorem tidy_reconnectTimerWait (h : Tidy c) (epoch : Nat) (ec : Option IoError) :
    Tidy ((reconnectTimerHandler user faults i).waitCompleted epoch ec c) := by
  have hdone := h.updateReconnectTimer (i := i) (ReconnectTimer.waitDone epoch)
    (Or.inr fun _ ht => ht)
  have hdone : Tidy ((reconnectTimerHandler user faults i).update
    (ReconnectTimer.waitDone epoch) c) := hdone
  unfold ReconnectTimer.Handler.waitCompleted
  dsimp only
  generalize (reconnectTimerHandler user faults i).update (ReconnectTimer.waitDone epoch) c = c
    at hdone ⊢
  split
  · unfold ReconnectTimer.Handler.onExpiry
    split
    · rename_i hs
      have hrunning : c.reconnecting i = true := by
        simp only [reconnectTimerHandler] at hs
        cases hi : c.connections[i]? with
        | none => simp [hi] at hs
        | some conn => simpa [Client.reconnecting, hi] using hs
      have hv : c.tcp? i = none := by
        cases ht : c.tcp? i with
        | none => rfl
        | some t =>
          have := (hdone i).idle (by simp [ht])
          rw [hrunning] at this
          cases this
      have hstopped := hdone.updateReconnectTimer (i := i) (ReconnectTimer.setStarted false)
        (Or.inl hv)
      cases ec with
      | some ec => exact hstopped.connectionCallback hu _
      | none =>
        apply tidy_emplace hu faults hstopped
        · rw [← hv, tcp?_updateConnection, if_pos rfl]
          rfl
        · rw [Client.reconnecting, getElem?_updateConnection, if_pos rfl]
          cases c.connections[i]? <;> rfl
    · exact hdone
  · exact hdone

/-! ### Notifications and posted functions -/

theorem tidy_onClosed (h : Stage i (fun _ => True) c) (he : (c.tcp? i).isSome = true)
    (reason : DisconnectReason) : Tidy (c.onClosed user faults i reason) := by
  have hv : ((c.updateConnection i (·.setConnection none)).log (.onClosed i)).tcp? i = none := by
    show (c.updateConnection i (·.setConnection none)).tcp? i = none
    rw [tcp?_updateConnection, if_pos rfl]
    cases c.connections[i]? <;> rfl
  have hfreed : Tidy ((c.updateConnection i (·.setConnection none)).log (.onClosed i)) := by
    apply Stage.tidy (i := i)
    constructor
    · constructor
      · intro t ht
        rw [hv] at ht
        cases ht
      · have hcounted := h.here.counted
        rw [he] at hcounted
        rw [hv]
        simpa [Client.log, List.count_append] using hcounted
      · intro hsome
        rw [hv] at hsome
        cases hsome
    · intro j hj
      have hne : (Entry.onClosed i) ≠ .onClosed j := by
        rintro ⟨rfl⟩
        exact hj rfl
      exact ((h.others j hj).elsewhere hj _).log (by simp) hne
  have hcalled := hfreed.connectionCallback hu (i := i) (.disconnect reason)
  have hvcalled := vacant_connectionCallback hu hv (.disconnect reason)
  unfold Client.onClosed
  dsimp only
  split
  · exact hcalled
  · split
    · exact hcalled
    · exact tidy_scheduleReconnect hu faults hcalled hvcalled

/-- A notification that is noted: either the third of three, or not. -/
theorem tidy_noted (h : Tidy c) (note : TcpConnection → TcpConnection)
    (hnote : ∀ t, c.tcp? i = some t → Alive .idle t → ¬(note t).Finished →
      Alive .idle (note t)) : Tidy ((c.updateTcp i note).maybeSignalClosed user faults i) := by
  have hknown := (h.stage i).mono fun t ht ha =>
    (fun hf => hnote t ht ha hf : ¬(note t).Finished → Alive .idle (note t))
  have hnoted : Stage i (fun t => ¬t.Finished → Alive .idle t) (c.updateTcp i note) :=
    hknown.updateTcp fun t ht => ht
  unfold Client.maybeSignalClosed
  split
  · rename_i hnone
    exact (hnoted.mono fun t ht => by rw [hnone] at ht; cases ht).tidy
  · rename_i t ht
    split
    · exact tidy_onClosed hu faults (hnoted.mono fun _ _ _ => trivial) (by rw [ht]; rfl) _
    · rename_i hf
      apply Stage.tidy (i := i)
      apply hnoted.mono
      intro u hu ha
      rw [ht] at hu
      cases hu
      exact ha hf

theorem tidy_connectFrom (faults : Nat → Faults) (more : Nat) :
    ∀ (i : Nat) {c : Client}, Tidy c → Tidy (connectFrom user faults more i c) := by
  induction more with
  | zero => exact fun _ _ h => h
  | succ more ih =>
    intro i c h
    exact ih (i + 1) (tidy_connect hu (faults i) h)

omit hu in
theorem Tidy.touched {c c' : Client} (h : Tidy c) (ht : Touched closes c c') : Tidy c' :=
  fun j => (h j).touched ht ((robust_alive .idle).stable _)

omit hu in
theorem Tidy.same {c c' : Client} (h : Tidy c) (hc : c'.connections = c.connections)
    (ht : c'.trace = c.trace) : Tidy c' :=
  fun j => (h j).same hc ht

theorem tidy_runPosted (faults : Nat → Faults) (added : Nat) (posted : Posted) (h : Tidy c) :
    Tidy (runPosted user faults added posted c) := by
  cases posted with
  | start =>
    simp only [runPosted]
    split
    · exact h
    · have hstarted : Tidy { c with started := true } := h.same rfl rfl
      exact tidy_connectFrom hu faults _ 0 hstarted
  | stop =>
    simp only [runPosted]
    split
    · exact h
    · have hstopped : Tidy { c with started := false } := h.same rfl rfl
      have hclosed : Touched (fun _ => True) { c with started := false } { c with
          started := false
          connections := c.connections.map Connection.close } :=
        touched_map { c with started := false } fun _ conn => conn.touched_close trivial
      exact hstopped.touched hclosed

end

end Client
end SoupBin.ClientSide
