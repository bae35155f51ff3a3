import SoupBin.Client
import SoupBin.SocketSettled
import SoupBin.TimerStops

/-!
# What keeps a client's Tcp_connection alive

A `Tcp_connection` is gone once its socket is closed and both timers have
stopped. A timer that is running, or that has a notification on its way, keeps
it alive.
-/

namespace SoupBin.ClientSide.TcpConnection

/-! ## A Tcp_connection that is still needed -/

/-- The part whose completion is being handled. -/
inductive Busy where
  | idle
  | socket
  | loginTimer
  | heartbeatTimer

/-- What keeps a `Tcp_connection` alive: one of its three flags is not set, and
while one is not set something is outstanding that sets it, once the connection
is down. What the completion being handled has taken off the books is given
back at its end. -/
structure Alive (busy : Busy) (t : TcpConnection) : Prop where
  socket : t.socket.Sound
  down : t.state.state = .disconnected →
    t.socket.closing = true ∧ t.loginTimer.watch.started = false ∧
      t.heartbeatTimer.watch.started = false
  early : t.state.state = .connecting ∨ t.state.state = .connected → t.heartbeatTimer.watch = {}
  connecting : .connect ∈ t.socket.outstanding →
    t.loginTimer.watch = {} ∧ t.heartbeatTimer.watch = {} ∧ t.socket.readPending = false
  told : t.socket.closedSignaled = true → 0 < t.socket.posted ∨ t.socketClosed = true
  login : t.loginTimer.watch.Sound t.loginTimerStopped
  heartbeat : t.heartbeatTimer.watch.Sound t.heartbeatTimerStopped
  unfinished : (t.socketClosed && t.loginTimerStopped && t.heartbeatTimerStopped) = false
  settled : busy ≠ .socket → t.socket.Settled
  loginDue : busy ≠ .loginTimer → t.loginTimer.watch.Due t.loginTimerStopped
  heartbeatDue : busy ≠ .heartbeatTimer → t.heartbeatTimer.watch.Due t.heartbeatTimerStopped

/-- No socket operation, no timer wait and no posted notification is outstanding. -/
def Quiescent (t : TcpConnection) : Prop :=
  t.socket.outstanding = [] ∧ t.socket.posted = 0 ∧
    t.loginTimer.waits = 0 ∧ t.loginTimer.posted = 0 ∧
    t.heartbeatTimer.waits = 0 ∧ t.heartbeatTimer.posted = 0

instance (t : TcpConnection) : Decidable t.Quiescent := by
  unfold Quiescent
  infer_instance

/-- A `Tcp_connection` that is down has something outstanding. -/
theorem Alive.not_quiescent {t : TcpConnection} (h : Alive .idle t)
    (hdown : t.state.state = .disconnected) : ¬t.Quiescent := by
  rintro ⟨hout, hposted, hlw, hlp, hhw, hhp⟩
  obtain ⟨hclosing, hl, hh⟩ := h.down hdown
  have hsocket : t.socketClosed = true := by
    rcases h.settled (by simp) hclosing with hs | hne
    · rcases h.told hs with hp | hf
      · omega
      · exact hf
    · exact absurd hout hne
  have hlogin := (h.loginDue (by simp)).flag_set h.login hl hlw hlp
  have hheartbeat := (h.heartbeatDue (by simp)).flag_set h.heartbeat hh hhw hhp
  have := h.unfinished
  simp [hsocket, hlogin, hheartbeat] at this

/-! ## Writing -/

/-- A packet may have been queued, and the heartbeat timer may have counted it. -/
structure Wrote (t u : TcpConnection) : Prop where
  follows : t.socket.Follows u.socket
  readPending : u.socket.readPending = t.socket.readPending
  sound : t.socket.Sound → u.socket.Sound
  settled : t.socket.Settled → u.socket.Settled
  state : u.state = t.state
  loginTimer : u.loginTimer = t.loginTimer
  heartbeatTimer : u.heartbeatTimer.watch = t.heartbeatTimer.watch
  socketClosed : u.socketClosed = t.socketClosed
  loginTimerStopped : u.loginTimerStopped = t.loginTimerStopped
  heartbeatTimerStopped : u.heartbeatTimerStopped = t.heartbeatTimerStopped

theorem wrote_writeBestEffort (packet : WritePacket) (t : TcpConnection) :
    Wrote t (t.writeBestEffort packet) := by
  constructor
  · exact Socket.follows_asyncWrite _ packet
  · exact Socket.asyncWrite_readPending _ packet
  · exact fun hs => hs.asyncWrite packet
  · exact fun hs => hs.asyncWrite packet
  all_goals rfl

theorem wrote_count {f : HeartbeatTimer → HeartbeatTimer}
    (hf : ∀ timer, (f timer).watch = timer.watch) (t : TcpConnection) :
    Wrote t (t.updateHeartbeatTimer f) :=
  ⟨.refl _, rfl, id, id, rfl, rfl, hf _, rfl, rfl, rfl⟩

theorem Wrote.trans {t u v : TcpConnection} (h : Wrote t u) (h' : Wrote u v) : Wrote t v := by
  constructor
  · have hf := h.follows
    have hf' := h'.follows
    exact ⟨hf'.closing.trans hf.closing, hf'.closedSignaled.trans hf.closedSignaled,
      hf'.posted.trans hf.posted, hf.connect ∘ hf'.connect⟩
  · exact h'.readPending.trans h.readPending
  · exact h'.sound ∘ h.sound
  · exact h'.settled ∘ h.settled
  · exact h'.state.trans h.state
  · exact h'.loginTimer.trans h.loginTimer
  · exact h'.heartbeatTimer.trans h.heartbeatTimer
  · exact h'.socketClosed.trans h.socketClosed
  · exact h'.loginTimerStopped.trans h.loginTimerStopped
  · exact h'.heartbeatTimerStopped.trans h.heartbeatTimerStopped

theorem Wrote.refl (t : TcpConnection) : Wrote t t :=
  ⟨.refl _, rfl, id, id, rfl, rfl, rfl, rfl, rfl, rfl⟩

theorem wrote_sendPacket (packet : WritePacket) (t : TcpConnection) :
    Wrote t (t.sendPacket packet).2 := by
  unfold TcpConnection.sendPacket
  split
  · exact .refl t
  · dsimp only
    split
    · exact (wrote_writeBestEffort packet t).trans
        (wrote_count HeartbeatTimer.watch_incrementSendCount _)
    · exact wrote_writeBestEffort packet t

theorem wrote_sendDebugPacket (text : Bytes) (t : TcpConnection) :
    Wrote t (t.sendDebugPacket text).2 := by
  unfold TcpConnection.sendDebugPacket
  split
  · exact .refl t
  · exact wrote_writeBestEffort _ t

/-! ## What keeps a Tcp_connection alive -/

variable {busy : Busy} {t u : TcpConnection}

theorem Alive.wrote (h : Alive busy t) (hw : Wrote t u) : Alive busy u := by
  constructor
  · exact hw.sound h.socket
  · rw [hw.state, hw.follows.closing, hw.loginTimer, hw.heartbeatTimer]
    exact h.down
  · rw [hw.state, hw.heartbeatTimer]
    exact h.early
  · intro hc
    rw [hw.loginTimer, hw.heartbeatTimer, hw.readPending]
    exact h.connecting (hw.follows.connect hc)
  · rw [hw.follows.closedSignaled, hw.follows.posted, hw.socketClosed]
    exact h.told
  · rw [hw.loginTimer, hw.loginTimerStopped]
    exact h.login
  · rw [hw.heartbeatTimer, hw.heartbeatTimerStopped]
    exact h.heartbeat
  · rw [hw.socketClosed, hw.loginTimerStopped, hw.heartbeatTimerStopped]
    exact h.unfinished
  · intro hb
    exact hw.settled (h.settled hb)
  · rw [hw.loginTimer, hw.loginTimerStopped]
    exact h.loginDue
  · rw [hw.heartbeatTimer, hw.heartbeatTimerStopped]
    exact h.heartbeatDue

/-- In the middle of a completion of the socket its notification may be owed. -/
theorem Alive.updateSocket (h : Alive busy t) (hb : busy = .idle ∨ busy = .socket)
    {f : Socket → Socket} (hs : (f t.socket).Sound) (hf : t.socket.Follows (f t.socket))
    (hr : .connect ∈ (f t.socket).outstanding → (f t.socket).readPending = false) :
    Alive .socket (t.updateSocket f) := by
  have hlogin : busy ≠ .loginTimer := by rintro rfl; simp at hb
  have hheartbeat : busy ≠ .heartbeatTimer := by rintro rfl; simp at hb
  constructor
  · exact hs
  · intro hd
    obtain ⟨hc, ht⟩ := h.down hd
    exact ⟨hf.closing.trans hc, ht⟩
  · exact h.early
  · intro hm
    obtain ⟨hl, hh, -⟩ := h.connecting (hf.connect hm)
    exact ⟨hl, hh, hr hm⟩
  · intro ht
    have hposted : (t.updateSocket f).socket.posted = t.socket.posted := hf.posted
    rw [hposted]
    exact h.told (hf.closedSignaled.symm.trans ht)
  · exact h.login
  · exact h.heartbeat
  · exact h.unfinished
  · exact fun hb => absurd rfl hb
  · exact fun _ => h.loginDue hlogin
  · exact fun _ => h.heartbeatDue hheartbeat

/-- The end of every completion of the socket. -/
theorem Alive.socketDone (h : Alive .socket t) :
    Alive .idle (t.updateSocket Socket.maybeSignalClosed) := by
  constructor
  · exact h.socket.maybeSignalClosed
  · intro hd
    obtain ⟨hc, ht⟩ := h.down hd
    exact ⟨(Socket.maybeSignalClosed_closing _).trans hc, ht⟩
  · exact h.early
  · intro hm
    obtain ⟨hl, hh, hr⟩ := h.connecting (by simpa [TcpConnection.updateSocket] using hm)
    exact ⟨hl, hh, (Socket.maybeSignalClosed_readPending _).trans hr⟩
  · intro hs
    rcases Socket.told_maybeSignalClosed _ hs with ⟨hs, hp⟩ | hp
    · have hposted :
          (t.updateSocket Socket.maybeSignalClosed).socket.posted = t.socket.posted := hp
      rw [hposted]
      exact h.told hs
    · exact Or.inl hp
  · exact h.login
  · exact h.heartbeat
  · exact h.unfinished
  · exact fun _ => h.socket.settled_maybeSignalClosed
  · exact fun _ => h.loginDue (by simp)
  · exact fun _ => h.heartbeatDue (by simp)

theorem Alive.disconnect (h : Alive busy t) (reason : DisconnectReason) :
    Alive busy (t.disconnect reason) := by
  unfold TcpConnection.disconnect ConnectionState.disconnect
  by_cases hd : t.state.state = .disconnected
  · simp only [if_pos hd]
    exact h
  · simp only [if_neg hd, if_true]
    constructor
    · exact h.socket.close
    · intro _
      simp [Socket.close, Watch.stop_started]
    · simp
    · intro hm
      simp only [Socket.close, Socket.maybeSignalClosed_outstanding] at hm
      obtain ⟨hl, hh, hr⟩ := h.connecting hm
      simp [hl, hh, hr, Watch.stop_fresh, Socket.close]
    · intro hs
      rcases Socket.told_maybeSignalClosed _ hs with ⟨hs, hp⟩ | hp
      · have hposted : t.socket.close.posted = t.socket.posted := hp
        rw [hposted]
        exact h.told hs
      · exact Or.inl hp
    · rw [LoginTimer.watch_stop]
      exact h.login.stop
    · rw [HeartbeatTimer.watch_stop]
      exact h.heartbeat.stop
    · exact h.unfinished
    · intro _
      have closing : Socket.Sound { t.socket with closing := true, isOpen := false } :=
        { h.socket with signaled := fun hs => ⟨rfl, (h.socket.signaled hs).2⟩ }
      exact closing.settled_maybeSignalClosed
    · intro hb
      rw [LoginTimer.watch_stop]
      exact (h.loginDue hb).stop
    · intro hb
      rw [HeartbeatTimer.watch_stop]
      exact (h.heartbeatDue hb).stop

/-! ### The middle of a completion -/

/-- The connect is over. -/
structure Reached (busy : Busy) (t : TcpConnection) : Prop extends Alive busy t where
  connectOver : .connect ∉ t.socket.outstanding

/-- In a completion of the socket, a read may begin. -/
structure Readable (t : TcpConnection) : Prop extends Reached .socket t where
  notReading : t.socket.readPending = false

/-- The connect has just been completed. -/
structure Opening (t : TcpConnection) : Prop extends Readable t where
  loginFresh : t.loginTimer.watch = {}
  heartbeatFresh : t.heartbeatTimer.watch = {}

/-- In `connect_success`, before the login timer is started. -/
structure LoggingIn (t : TcpConnection) : Prop extends Readable t where
  state : t.state.state = .connected
  fresh : t.loginTimer.watch = {}

/-- In `process_login_accepted`, before the heartbeat timer is started. -/
structure LoggedIn (t : TcpConnection) : Prop extends Readable t where
  state : t.state.state = .loggedIn
  fresh : t.heartbeatTimer.watch = {}

/-- In a completion of the heartbeat timer. -/
structure Beating (t : TcpConnection) : Prop extends Reached .heartbeatTimer t where
  late : ¬(t.state.state = .connecting ∨ t.state.state = .connected)

theorem Reached.wrote (h : Reached busy t) (hw : Wrote t u) : Reached busy u :=
  ⟨h.toAlive.wrote hw, fun hc => h.connectOver (hw.follows.connect hc)⟩

theorem Readable.wrote (h : Readable t) (hw : Wrote t u) : Readable u :=
  ⟨h.toReached.wrote hw, hw.readPending.trans h.notReading⟩

theorem LoggingIn.wrote (h : LoggingIn t) (hw : Wrote t u) : LoggingIn u := by
  constructor
  · exact h.toReadable.wrote hw
  · rw [hw.state]
    exact h.state
  · rw [hw.loginTimer]
    exact h.fresh

theorem LoggedIn.wrote (h : LoggedIn t) (hw : Wrote t u) : LoggedIn u := by
  constructor
  · exact h.toReadable.wrote hw
  · rw [hw.state]
    exact h.state
  · exact hw.heartbeatTimer.trans h.fresh

theorem Beating.wrote (h : Beating t) (hw : Wrote t u) : Beating u := by
  constructor
  · exact h.toReached.wrote hw
  · rw [hw.state]
    exact h.late

theorem disconnect_outstanding (reason : DisconnectReason) (t : TcpConnection) :
    (t.disconnect reason).socket.outstanding = t.socket.outstanding := by
  unfold TcpConnection.disconnect
  dsimp only
  split
  · exact Socket.maybeSignalClosed_outstanding _
  · rfl

theorem disconnect_readPending (reason : DisconnectReason) (t : TcpConnection) :
    (t.disconnect reason).socket.readPending = t.socket.readPending := by
  unfold TcpConnection.disconnect
  dsimp only
  split
  · exact Socket.maybeSignalClosed_readPending _
  · rfl

theorem disconnect_state (reason : DisconnectReason) (t : TcpConnection) :
    (t.disconnect reason).state.state = .disconnected := by
  unfold TcpConnection.disconnect ConnectionState.disconnect
  by_cases h : t.state.state = .disconnected <;> simp [h]

theorem Reached.disconnect (h : Reached busy t) (reason : DisconnectReason) :
    Reached busy (t.disconnect reason) := by
  constructor
  · exact h.toAlive.disconnect reason
  · rw [disconnect_outstanding]
    exact h.connectOver

theorem Readable.disconnect (h : Readable t) (reason : DisconnectReason) :
    Readable (t.disconnect reason) := by
  constructor
  · exact h.toReached.disconnect reason
  · rw [disconnect_readPending]
    exact h.notReading

theorem Beating.disconnect (h : Beating t) (reason : DisconnectReason) :
    Beating (t.disconnect reason) := by
  constructor
  · exact h.toReached.disconnect reason
  · simp [disconnect_state]

/-! ### Completions of the socket -/

theorem Alive.connectDone (h : Alive .idle t) (hc : .connect ∈ t.socket.outstanding) :
    Opening (t.updateSocket Socket.connectDone) := by
  have hsound := h.socket.connectDone hc
  have hover : .connect ∉ t.socket.connectDone.outstanding := by
    have hcount : t.socket.connectDone.outstanding.count .connect = 0 := hsound.connects
    exact List.count_eq_zero.mp hcount
  obtain ⟨hl, hh, hr⟩ := h.connecting hc
  have hfollows : t.socket.Follows t.socket.connectDone :=
    ⟨rfl, rfl, rfl, fun hm => absurd hm hover⟩
  have halive := h.updateSocket (Or.inl rfl) hsound hfollows fun hm => absurd hm hover
  exact ⟨⟨⟨halive, hover⟩, hr⟩, hl, hh⟩

theorem Alive.readDone (h : Alive .idle t) {op : SocketOp} (ho : op ∈ t.socket.outstanding)
    (hop : op = .readHeader ∨ op = .readPayload) :
    Readable (t.updateSocket (Socket.readDone op)) ∧
      (t.updateSocket (Socket.readDone op)).socket.closedSignaled = false := by
  have hsound : (t.socket.readDone op).Sound := by
    rcases hop with rfl | rfl
    · exact h.socket.headerDone ho
    · exact h.socket.payloadDone ho
  have hover : .connect ∉ t.socket.outstanding := by
    intro hc
    have hr := (h.connecting hc).2.2
    have hreads := h.socket.reads
    have hpos := List.count_pos_iff.mpr ho
    rw [hr] at hreads
    rcases hop with rfl | rfl <;> simp at hreads <;> omega
  have hover' : .connect ∉ (t.socket.readDone op).outstanding :=
    fun hm => hover (List.mem_of_mem_erase hm)
  have hfollows : t.socket.Follows (t.socket.readDone op) :=
    ⟨rfl, rfl, rfl, List.mem_of_mem_erase⟩
  exact ⟨⟨⟨h.updateSocket (Or.inl rfl) hsound hfollows fun _ => rfl, hover'⟩, rfl⟩,
    h.socket.unsignaled_of_mem ho⟩

theorem Alive.writeDone (h : Alive .idle t) (ho : .write ∈ t.socket.outstanding) :
    Alive .socket (t.updateSocket Socket.writeDone) := by
  apply h.updateSocket (Or.inl rfl) (h.socket.writeDone ho)
    ⟨rfl, rfl, rfl, List.mem_of_mem_erase⟩
  intro hc
  exact (h.connecting (List.mem_of_mem_erase hc)).2.2

/-- An update of the socket that begins no read. -/
theorem Readable.updateSocket (h : Readable t) {f : Socket → Socket} (hs : (f t.socket).Sound)
    (hf : t.socket.Follows (f t.socket)) (hr : (f t.socket).readPending = false) :
    Readable (t.updateSocket f) :=
  ⟨⟨h.toAlive.updateSocket (Or.inr rfl) hs hf fun _ => hr,
    fun hc => h.connectOver (hf.connect hc)⟩, hr⟩

theorem Readable.asyncRead (h : Readable t) : Alive .socket (t.updateSocket Socket.asyncRead) := by
  have hf := Socket.follows_asyncRead t.socket
  apply h.toAlive.updateSocket (Or.inr rfl) (h.socket.asyncRead h.notReading) hf
  intro hc
  exact absurd (hf.connect hc) h.connectOver

theorem Readable.startReadPayload (h : Readable t) (hs : t.socket.closedSignaled = false) :
    Alive .socket (t.updateSocket Socket.startReadPayload) := by
  have flagged : t.socket.Follows { t.socket with readPending := true } := ⟨rfl, rfl, rfl, id⟩
  have hf := flagged.begin .readPayload .readPayload (by decide)
  apply h.toAlive.updateSocket (Or.inr rfl) (h.socket.startReadPayload hs h.notReading) hf
  intro hc
  exact absurd (hf.connect hc) h.connectOver

/-! ### Starting and stopping the timers -/

theorem Opening.connected (h : Opening t) : LoggingIn (t.setState .connected) := by
  constructor
  · constructor
    · constructor
      · exact { h.toAlive with
          down := by simp [TcpConnection.setState, ConnectionState.setState]
          early := fun _ => h.heartbeatFresh }
      · exact h.connectOver
    · exact h.notReading
  · rfl
  · exact h.loginFresh

/-- The flag goes down and the timer starts. -/
theorem LoggingIn.started (h : LoggingIn t) :
    Readable ((t.setLoginTimerStopped false).updateLoginTimer LoginTimer.setStarted) := by
  constructor
  · constructor
    · exact { h.toAlive with
        down := fun hd => by
          have hs : t.state.state = .disconnected := hd
          rw [h.state] at hs
          cases hs
        connecting := fun hc => absurd hc h.connectOver
        login := by
          show (t.loginTimer.watch.setStarted).Sound false
          rw [h.fresh]
          constructor <;> simp [Watch.setStarted]
        unfinished := by simp [setLoginTimerStopped, updateLoginTimer]
        loginDue := fun _ _ => Or.inl rfl }
    · exact h.connectOver
  · exact h.notReading

theorem Readable.loginWait (h : Readable t) :
    Readable (t.updateLoginTimer LoginTimer.startWait) := by
  constructor
  · constructor
    · exact { h.toAlive with
        connecting := fun hc => absurd hc h.connectOver
        login := h.login.startWait
        loginDue := fun _ _ => Or.inr (Or.inl rfl) }
    · exact h.connectOver
  · exact h.notReading

theorem Reached.stopLogin (h : Reached busy t) :
    Reached busy (t.updateLoginTimer LoginTimer.stop) := by
  constructor
  · exact { h.toAlive with
      down := fun hd => by
        obtain ⟨hc, -, hh⟩ := h.down hd
        refine ⟨hc, ?_, hh⟩
        show (t.loginTimer.stop).watch.started = false
        rw [LoginTimer.watch_stop, Watch.stop_started]
      connecting := fun hc => absurd hc h.connectOver
      login := by
        show (t.loginTimer.stop).watch.Sound t.loginTimerStopped
        rw [LoginTimer.watch_stop]
        exact h.login.stop
      loginDue := fun hb => by
        show (t.loginTimer.stop).watch.Due t.loginTimerStopped
        rw [LoginTimer.watch_stop]
        exact (h.loginDue hb).stop }
  · exact h.connectOver

theorem Readable.loggedIn (h : Readable t) (hs : t.state.state = .connected) :
    LoggedIn ((t.updateLoginTimer LoginTimer.stop).setState .loggedIn) := by
  have hstop := h.toReached.stopLogin
  constructor
  · constructor
    · constructor
      · exact { hstop.toAlive with
          down := by simp [TcpConnection.setState, ConnectionState.setState]
          early := by simp [TcpConnection.setState, ConnectionState.setState] }
      · exact hstop.connectOver
    · exact h.notReading
  · rfl
  · exact h.early (Or.inr hs)

theorem LoggedIn.started (h : LoggedIn t) :
    Readable ((t.setHeartbeatTimerStopped false).updateHeartbeatTimer
      HeartbeatTimer.setStarted) := by
  constructor
  · constructor
    · exact { h.toAlive with
        down := fun hd => by
          have hs : t.state.state = .disconnected := hd
          rw [h.state] at hs
          cases hs
        early := fun he => by
          have hs : t.state.state = .connecting ∨ t.state.state = .connected := he
          rw [h.state] at hs
          simp at hs
        connecting := fun hc => absurd hc h.connectOver
        heartbeat := by
          show (t.heartbeatTimer.watch.setStarted).Sound false
          rw [h.fresh]
          constructor <;> simp [Watch.setStarted]
        unfinished := by simp [setHeartbeatTimerStopped, updateHeartbeatTimer]
        heartbeatDue := fun _ _ => Or.inl rfl }
    · exact h.connectOver
  · exact h.notReading

theorem Reached.heartbeatWait (h : Reached busy t)
    (hlate : ¬(t.state.state = .connecting ∨ t.state.state = .connected)) :
    Reached busy (t.updateHeartbeatTimer HeartbeatTimer.startWait) := by
  constructor
  · exact { h.toAlive with
      early := fun he => absurd he hlate
      connecting := fun hc => absurd hc h.connectOver
      heartbeat := h.heartbeat.startWait
      heartbeatDue := fun _ _ => Or.inr (Or.inl rfl) }
  · exact h.connectOver

/-! ### Completions of the timers -/

theorem Alive.loginWaitDone (h : Alive .idle t) (hw : 0 < t.loginTimer.waits) :
    Reached .loginTimer (t.updateLoginTimer LoginTimer.waitDone) := by
  have hover : .connect ∉ t.socket.outstanding := by
    intro hc
    have hz := congrArg Watch.waits (h.connecting hc).1
    have hz : t.loginTimer.waits = 0 := hz
    omega
  constructor
  · exact { h with
      connecting := fun hc => absurd hc hover
      login := h.login.waitDone
      settled := fun _ => h.settled (by simp)
      loginDue := fun hb => absurd rfl hb
      heartbeatDue := fun _ => h.heartbeatDue (by simp) }
  · exact hover

theorem Reached.loginDone (h : Reached .loginTimer t) :
    Alive .idle (t.updateLoginTimer LoginTimer.maybeSignalStopped) :=
  { h.toAlive with
    down := fun hd => by
      obtain ⟨hc, hl, hh⟩ := h.down hd
      refine ⟨hc, ?_, hh⟩
      show (t.loginTimer.maybeSignalStopped).watch.started = false
      rw [LoginTimer.watch_maybeSignalStopped, Watch.maybeSignalStopped_started]
      exact hl
    connecting := fun hc => absurd hc h.connectOver
    login := by
      show (t.loginTimer.maybeSignalStopped).watch.Sound t.loginTimerStopped
      rw [LoginTimer.watch_maybeSignalStopped]
      exact h.login.maybeSignalStopped
    settled := fun _ => h.settled (by simp)
    loginDue := fun _ => by
      show (t.loginTimer.maybeSignalStopped).watch.Due t.loginTimerStopped
      rw [LoginTimer.watch_maybeSignalStopped]
      exact Watch.due_maybeSignalStopped _ _
    heartbeatDue := fun _ => h.heartbeatDue (by simp) }

theorem Alive.heartbeatWaitDone (h : Alive .idle t) (hw : 0 < t.heartbeatTimer.waits) :
    Beating (t.updateHeartbeatTimer HeartbeatTimer.waitDone) := by
  have hbegun : t.heartbeatTimer.watch ≠ {} := by
    intro he
    have hz : t.heartbeatTimer.waits = 0 := congrArg Watch.waits he
    omega
  constructor
  · constructor
    · exact { h with
        early := fun he => absurd (h.early he) hbegun
        connecting := fun hc => absurd (h.connecting hc).2.1 hbegun
        heartbeat := h.heartbeat.waitDone
        settled := fun _ => h.settled (by simp)
        loginDue := fun _ => h.loginDue (by simp)
        heartbeatDue := fun hb => absurd rfl hb }
    · exact fun hc => hbegun (h.connecting hc).2.1
  · exact fun he => hbegun (h.early he)

theorem Beating.schedule (h : Beating t) :
    Beating (t.updateHeartbeatTimer HeartbeatTimer.startWait) :=
  ⟨h.toReached.heartbeatWait h.late, h.late⟩

theorem Beating.done (h : Beating t) :
    Alive .idle (t.updateHeartbeatTimer HeartbeatTimer.maybeSignalStopped) :=
  { h.toAlive with
    down := fun hd => by
      obtain ⟨hc, hl, hh⟩ := h.down hd
      refine ⟨hc, hl, ?_⟩
      show (t.heartbeatTimer.maybeSignalStopped).watch.started = false
      rw [HeartbeatTimer.watch_maybeSignalStopped, Watch.maybeSignalStopped_started]
      exact hh
    early := fun he => absurd he h.late
    connecting := fun hc => absurd hc h.connectOver
    heartbeat := by
      show (t.heartbeatTimer.maybeSignalStopped).watch.Sound t.heartbeatTimerStopped
      rw [HeartbeatTimer.watch_maybeSignalStopped]
      exact h.heartbeat.maybeSignalStopped
    settled := fun _ => h.settled (by simp)
    loginDue := fun _ => h.loginDue (by simp)
    heartbeatDue := fun _ => by
      show (t.heartbeatTimer.maybeSignalStopped).watch.Due t.heartbeatTimerStopped
      rw [HeartbeatTimer.watch_maybeSignalStopped]
      exact Watch.due_maybeSignalStopped _ _ }

/-! ### Notifications -/

/-- All three parts have said that they are done. -/
def Finished (t : TcpConnection) : Prop :=
  (t.socketClosed && t.loginTimerStopped && t.heartbeatTimerStopped) = true

theorem Alive.noteClosed (h : Alive .idle t) (hf : ¬t.noteClosed.Finished) :
    Alive .idle t.noteClosed :=
  { h with
    socket := { h.socket with }
    told := fun _ => Or.inr rfl
    unfinished := by simpa [Finished] using hf }

theorem Alive.noteLoginTimerStopped (h : Alive .idle t) (hw : 0 < t.loginTimer.posted)
    (hf : ¬t.noteLoginTimerStopped.Finished) : Alive .idle t.noteLoginTimerStopped := by
  have hbegun : t.loginTimer.watch ≠ {} := by
    intro he
    have hz : t.loginTimer.posted = 0 := congrArg Watch.posted he
    omega
  exact { h with
    connecting := fun hc => absurd (h.connecting hc).1 hbegun
    login := ⟨h.login.waiting, fun _ => Or.inr rfl⟩
    unfinished := by simpa [Finished] using hf
    loginDue := fun _ hs => absurd hs (by simp [TcpConnection.noteLoginTimerStopped]) }

theorem Alive.noteHeartbeatTimerStopped (h : Alive .idle t) (hw : 0 < t.heartbeatTimer.posted)
    (hf : ¬t.noteHeartbeatTimerStopped.Finished) : Alive .idle t.noteHeartbeatTimerStopped := by
  have hbegun : t.heartbeatTimer.watch ≠ {} := by
    intro he
    have hz : t.heartbeatTimer.posted = 0 := congrArg Watch.posted he
    omega
  exact { h with
    early := fun he => absurd (h.early he) hbegun
    connecting := fun hc => absurd (h.connecting hc).2.1 hbegun
    heartbeat := ⟨h.heartbeat.waiting, fun _ => Or.inr rfl⟩
    unfinished := by simpa [Finished] using hf
    heartbeatDue := fun _ hs => absurd hs (by simp [TcpConnection.noteHeartbeatTimerStopped]) }

/-! ### A new Tcp_connection -/

theorem alive_new (handlerSet isOpen : Bool) (limit : Nat) :
    Alive .idle { handlerSet := handlerSet, socket := Socket.fresh isOpen limit } := by
  constructor
  · exact Socket.sound_fresh isOpen limit
  · intro hd
    cases hd
  · exact fun _ => rfl
  · intro hc
    cases hc
  · intro hs
    cases hs
  · exact .fresh true
  · exact .fresh true
  · rfl
  · intro _ hc
    cases hc
  · intro _ hs
    cases hs
  · intro _ hs
    cases hs

theorem alive_asyncConnect (handlerSet : Bool) (limit : Nat) :
    Alive .idle (TcpConnection.updateSocket Socket.asyncConnect
      { handlerSet := handlerSet, socket := Socket.fresh true limit }) := by
  have h := alive_new handlerSet true limit
  exact { h with
    socket := (Socket.sound_fresh true limit).asyncConnect rfl
    connecting := fun _ => ⟨rfl, rfl, rfl⟩
    settled := fun _ hc => by cases hc }

end SoupBin.ClientSide.TcpConnection
