import SoupBin.ClientMoves

/-!
# Every event is made of moves

For each function of the client, the moves it is made of, whatever the user does
from inside the callbacks.
-/

namespace SoupBin.ClientSide

/-- A callback that comes while a `Tcp_connection` of `i` is made. -/
def Callback.opens (i : Nat) : Callback → Bool
  | .connection j (.connecting _) | .connection j (.connectFailure _ _) => i == j
  | _ => false

/-- The user makes the call from inside `cb`, or from inside a callback that
comes in the course of it. -/
inductive Env.Makes (env : Env) : Nat → Callback → Call → Prop where
  | here {depth : Nat} {cb : Callback} {call : Call} :
      call ∈ env.calls cb → Makes env (depth + 1) cb call
  | nested {depth i : Nat} {cb cb' : Callback} {call : Call} : .connect i ∈ env.calls cb →
      cb'.opens i = true → Makes env depth cb' call → Makes env (depth + 1) cb call

namespace Client

variable {R : Rules} {user : User} {faults : Faults} {i : Nat} {c : Client}

theorem moves_updateTcp {f : TcpConnection → TcpConnection}
    (hf : ∀ t, c.tcp? i = some t → t.Act R.aborts (f t)) : Moves R c (c.updateTcp i f) := by
  apply Moves.connection
  intro conn hconn
  apply Connection.Act.tcp
  intro t ht
  apply hf
  simp [tcp?, hconn, ht]

theorem moves_asideTcp {f : TcpConnection → TcpConnection}
    (hf : ∀ t, TcpConnection.Aside t (f t)) : Moves R c (c.updateTcp i f) :=
  moves_updateTcp fun t _ => .aside (hf t)

theorem moves_tcpDisconnect {reason : DisconnectReason}
    (hr : TcpConnection.observed reason = true)
    (ha : reason = .unmanagedAbort → ∀ t, c.tcp? i = some t →
      R.aborts ∨ t.socket.closing = true) : Moves R c (c.tcpDisconnect i reason) :=
  moves_updateTcp fun t ht => TcpConnection.act_disconnect hr t fun hu => ha hu t ht

/-! ## Calls -/

theorem moves_sendToAll (packet : WritePacket) : Moves R c (c.sendPacket packet).2 := by
  cases h : c.hasSessionEnded with
  | true =>
    simp only [sendPacket, h, ↓reduceIte]
    exact .refl c
  | false =>
    rw [sendPacket_all packet h]
    exact moves_map fun i conn => Connection.act_sendPacket _ i conn packet

theorem moves_closeReturned (c : Client) (i : Nat) :
    Moves R (c.updateConnection i Connection.close) (c.close i) := by
  apply Moves.returned
  · rw [Client.reconnecting, getElem?_updateConnection, if_pos rfl]
    cases c.connections[i]? <;> rfl
  · intro t ht
    rw [tcp?, getElem?_updateConnection, if_pos rfl] at ht
    obtain ⟨conn', hconn', ht⟩ := Option.bind_eq_some_iff.mp ht
    obtain ⟨conn, -, rfl⟩ := Option.map_eq_some_iff.mp hconn'
    obtain ⟨u, -, rfl⟩ := Option.map_eq_some_iff.mp ht
    exact TcpConnection.disconnect_state _ _

/-- A call other than `connect`. -/
theorem moves_call {call : Call} (hcall : R.call call) (hconnect : ∀ i, call ≠ .connect i)
    (user : User) (faults : Nat → Faults) : Moves R c (call.run user faults c) := by
  cases call with
  | connect i => exact absurd rfl (hconnect i)
  | close i =>
    have hclosed : Moves R c (c.updateConnection i Connection.close) :=
      .connection fun _ _ => .close hcall
    exact hclosed.trans (moves_closeReturned c i)
  | sendMessage i data => exact .connection fun conn _ => Connection.act_sendMessage _ i conn data
  | sendLogoutRequest i =>
    exact .connection fun conn _ => Connection.act_sendLogoutRequest _ i conn
  | sendDebug i text => exact .connection fun conn _ => Connection.act_sendDebug _ i conn text
  | setConnectionHandler i => exact .connection fun _ _ => .configure rfl rfl rfl rfl
  | setUsername i username =>
    apply Moves.connection
    intro conn _
    unfold Connection.setUsername
    split <;> exact .configure rfl rfl rfl rfl
  | setPassword i password =>
    apply Moves.connection
    intro conn _
    unfold Connection.setPassword
    split <;> exact .configure rfl rfl rfl rfl
  | setSession i session =>
    apply Moves.connection
    intro conn _
    unfold Connection.setSession
    split
    · exact .refl _ _ _
    · exact .setSession session hcall
  | start =>
    simp only [Call.run, start]
    split
    · exact .refl c
    · split
      · exact .refl c
      · exact .aside ⟨rfl, rfl, rfl, rfl, rfl⟩
  | stop => exact .aside ⟨rfl, rfl, rfl, rfl, rfl⟩
  | sendMessageToAll data =>
    simp only [Call.run, sendMessage]
    split
    · exact .refl c
    · cases data with
      | null size => exact .refl c
      | bytes data => exact moves_sendToAll _
  | sendLogoutRequestToAll =>
    exact moves_map fun i conn => Connection.act_sendLogoutRequest _ i conn
  | sendDebugToAll text => exact moves_map fun i conn => Connection.act_sendDebug _ i conn text
  | setHandler => exact .aside ⟨rfl, rfl, rfl, rfl, rfl⟩
  | setWritePacketsLimit limit => exact .aside ⟨rfl, rfl, rfl, rfl, rfl⟩
  | addConnection endpoint handlerSet =>
    simp only [Call.run, addConnection]
    split
    · exact .refl c
    · exact .added _ rfl rfl rfl rfl

/-! ## A Tcp_connection is made -/

theorem moves_notify (handlerSet : Bool) {cb : Callback} (hu : ∀ c, Moves R c (user cb c))
    (hplain : (Entry.called handlerSet cb).plain = true)
    (hfails : (Entry.called handlerSet cb).fails = true → R.errors) :
    Moves R c (c.notify user handlerSet cb) := by
  have hlog : Moves R c (c.log (.called handlerSet cb)) := .note hplain hfails
  unfold Client.notify
  dsimp only
  split
  · exact hlog.trans (hu _)
  · exact hlog

theorem fresh_new (handlerSet : Bool) (limit : Nat) :
    TcpConnection.Fresh (TcpConnection.updateSocket Socket.asyncConnect (TcpConnection.updateSocket
      Socket.openSocket { handlerSet := handlerSet, socket := { writePacketsLimit := limit } })) := by
  constructor
  · exact Or.inl ⟨rfl, rfl⟩
  · intro hs
    simp [TcpConnection.Signaled, TcpConnection.updateSocket, Socket.openSocket,
      Socket.asyncConnect, Socket.begin] at hs

theorem fresh_failed {t : TcpConnection} (hs : t.state = {}) :
    TcpConnection.Fresh (t.disconnect .connectFailure) := by
  have hclosing : (t.disconnect .connectFailure).socket.closing = true := by
    simp only [TcpConnection.disconnect, ConnectionState.disconnect, hs]
    exact Socket.close_closing _
  constructor
  · right
    refine ⟨?_, hclosing⟩
    simp [TcpConnection.disconnect, ConnectionState.disconnect, hs]
  · exact fun _ => hclosing

/-- `emplace` in two halves: the callbacks come between them. -/
theorem emplace_halves (faults : Faults)
    (hu : ∀ cb : Callback, cb.opens i = true → ∀ c, Moves R c (user cb c))
    (hi : i < c.connections.length) :
    ∃ c' t, Moves R (c.vacate i) c' ∧ t.Fresh ∧ c.emplace user faults i = c'.install i t := by
  have hconn := List.getElem?_eq_getElem hi
  unfold Client.emplace
  rw [hconn]
  dsimp only
  have hcalled := moves_notify (c := c.vacate i) c.connections[i].handlerSet
    (hu (.connection i (.connecting c.connections[i].endpoint)) (by simp [Callback.opens])) rfl
    nofun
  have hfailed (ec : IoError) (operation : String) :
      Moves R (c.vacate i) (((c.vacate i).notify user c.connections[i].handlerSet
        (.connection i (.connecting c.connections[i].endpoint))).notify user
          c.connections[i].handlerSet (.connection i (.connectFailure ec operation))) :=
    hcalled.trans (moves_notify _ (hu _ (by simp [Callback.opens])) rfl nofun)
  split
  · rename_i ec _
    refine ⟨_, _, hfailed ec "open", ?_, rfl⟩
    dsimp only
    exact fresh_failed rfl
  · split
    · rename_i ec _
      refine ⟨_, _, hfailed ec "set_no_delay", ?_, rfl⟩
      dsimp only
      exact fresh_failed rfl
    · exact ⟨_, _, hcalled, fresh_new _ _, rfl⟩

theorem moves_connect (hu : ∀ cb : Callback, cb.opens i = true → ∀ c, Moves R c (user cb c))
    (hcall : R.call (.connect i)) : Moves R c (c.connect user faults i) := by
  unfold Client.connect
  split
  · exact .refl c
  · rename_i conn hconn
    have hi : i < c.connections.length := (List.getElem?_eq_some_iff.mp hconn).1
    have hcalled : Moves R c (c.log (.connectCalled i)) := .note rfl nofun
    dsimp only
    split
    · exact hcalled
    · rename_i hstarted
      split
      · exact hcalled
      · rename_i hvacant
        split
        · exact hcalled
        · rename_i hidle
          obtain ⟨c', t, hmoves, ht, heq⟩ := emplace_halves (c := c.log (.connectCalled i)) faults
            hu hi
          rw [heq]
          have hlast : (c.log (.connectCalled i)).trace.getLast? = some (.connectCalled i) := by
            simp [Client.log]
          have htcp : (c.log (.connectCalled i)).tcp? i = none := by
            simpa [tcp?, Client.log, hconn] using hvacant
          have hrunning : (c.log (.connectCalled i)).reconnecting i = false := by
            simpa [Client.reconnecting, Client.log, hconn] using hidle
          exact hcalled.trans (.opened hcall hlast hi (by simpa using hstarted) htcp hrunning
            hmoves ht)

/-- What the user does from inside a callback, other callbacks included. -/
theorem moves_reaction (env : Env) (depth : Nat) : ∀ cb : Callback,
    (∀ call, env.Makes depth cb call → R.call call) → ∀ c, Moves R c (env.reaction depth cb c) := by
  induction depth with
  | zero => exact fun _ _ c => .refl c
  | succ depth ih =>
    intro cb hmakes
    have hcalls (calls : List Call) (hsub : ∀ call ∈ calls, call ∈ env.calls cb) (c : Client) :
        Moves R c (calls.foldl (Call.run (env.reaction depth) env.faults) c) := by
      induction calls generalizing c with
      | nil => exact .refl c
      | cons call calls ihc =>
        have hmem := hsub call List.mem_cons_self
        have hhead : Moves R c (call.run (env.reaction depth) env.faults c) := by
          by_cases hconnect : ∃ i, call = .connect i
          · obtain ⟨i, rfl⟩ := hconnect
            apply moves_connect
            · intro cb' hopens
              exact ih cb' fun call hc => hmakes call (.nested hmem hopens hc)
            · exact hmakes _ (.here hmem)
          · exact moves_call (hmakes call (.here hmem)) (fun i hi => hconnect ⟨i, hi⟩) _ _
        exact hhead.trans (ihc (fun call hc => hsub call (List.mem_cons_of_mem _ hc)) _)
    exact fun c => hcalls (env.calls cb) (fun _ hc => hc) c

/-! ## Functions of the client -/

section
variable (hu : ∀ cb c, Moves R c (user cb c))
include hu

theorem moves_connectionCallback (cb : ConnectionCallback) (hcb : cb.isDisconnect = false)
    (hfails : cb.fails = true → R.errors) : Moves R c (c.connectionCallback user i cb) := by
  unfold Client.connectionCallback
  split
  · exact .refl c
  · exact moves_notify _ (hu _) (by simp [Entry.plain, hcb]) hfails

theorem moves_tcpCallback (cb : ConnectionCallback) (hcb : cb.isDisconnect = false)
    (hfails : cb.fails = true → R.errors) : Moves R c (c.tcpCallback user i cb) := by
  unfold Client.tcpCallback
  split
  · exact .refl c
  · exact moves_notify _ (hu _) (by simp [Entry.plain, hcb]) hfails

theorem moves_handleTransportError (herrors : R.errors) (ec : IoError) (operation : String) :
    Moves R c (c.handleTransportError user i ec operation) :=
  (moves_tcpCallback hu (.transportError ec operation) rfl fun _ => herrors).trans
    (moves_tcpDisconnect rfl (by simp))

theorem moves_handleConnectFailure (ec : IoError) (operation : String) :
    Moves R c (c.handleConnectFailure user i ec operation) :=
  (moves_tcpCallback hu (.connectFailure ec operation) rfl nofun).trans
    (moves_tcpDisconnect rfl (by simp))

theorem moves_handleProtocolViolation (herrors : R.errors) (error : PacketError) :
    Moves R c (c.handleProtocolViolation user i error) :=
  (moves_tcpCallback hu (.protocolViolation error) rfl fun _ => herrors).trans
    (moves_tcpDisconnect rfl (by simp))

theorem moves_loginTimer (herrors : R.errors) : (loginTimerHandler user i).Keeps (Moves R c) where
  update f _ h := h.trans (moves_asideTcp (TcpConnection.aside_updateLoginTimer f))
  loginTimerError ec operation _ h := h.trans (moves_handleTransportError hu herrors ec operation)
  loginTimerExpired _ h := h.trans (moves_tcpDisconnect rfl (by simp))

theorem moves_heartbeatTimer (herrors : R.errors) :
    (heartbeatTimerHandler user i).Keeps (Moves R c) where
  update f _ _ h := h.trans (moves_asideTcp (TcpConnection.aside_updateHeartbeatTimer f))
  heartbeatTimerError ec operation _ h :=
    h.trans (moves_handleTransportError hu herrors ec operation)
  heartbeatSendDue _ h := h.trans (moves_asideTcp fun t => TcpConnection.aside_asyncWrite _ t)
  heartbeatReceiveTimeout _ h := h.trans (moves_tcpDisconnect rfl (by simp))

omit hu in
theorem moves_configure_at {f : Connection → Connection}
    (hf : ∀ conn, c.connections[i]? = some conn → (f conn).connection = conn.connection ∧
      (f conn).reconnectTimer.started = conn.reconnectTimer.started ∧
      (f conn).session = conn.session ∧ (f conn).hasSessionEnded = conn.hasSessionEnded) :
    Moves R c (c.updateConnection i f) := by
  apply Moves.connection
  intro conn hconn
  obtain ⟨htcp, htimer, hsession, hended⟩ := hf conn hconn
  exact .configure htcp htimer hsession hended

omit hu in
theorem moves_configure {f : Connection → Connection}
    (hf : ∀ conn, (f conn).connection = conn.connection ∧
      (f conn).reconnectTimer.started = conn.reconnectTimer.started ∧
      (f conn).session = conn.session ∧ (f conn).hasSessionEnded = conn.hasSessionEnded) :
    Moves R c (c.updateConnection i f) :=
  moves_configure_at fun conn _ => hf conn

/-- What follows once the state is `connected`. -/
theorem moves_connectSuccess (herrors : R.errors) :
    Moves R (c.updateTcp i (·.setState .connected)) (c.connectSuccess user faults i) := by
  have hnumbered (c : Client) : Moves R c (c.onConnectSuccess i).2 := by
    unfold onConnectSuccess
    split
    · exact .refl c
    · exact moves_configure fun _ => ⟨rfl, rfl, rfl, rfl⟩
  have hflagged (c : Client) : Moves R c (c.updateTcp i (·.setLoginTimerStopped false)) :=
    moves_asideTcp fun t => ⟨rfl, rfl, rfl, Or.inl⟩
  have htold := (moves_tcpCallback (c := c.updateTcp i (·.setState .connected)) (i := i) hu
    .connectSuccess rfl nofun).trans (hnumbered _)
  have hlogging (request : LoginRequestPacket) :=
    (htold.trans (moves_tcpCallback (i := i) hu (.loggingIn request) rfl nofun)).trans (hflagged _)
  unfold Client.connectSuccess
  dsimp only
  refine Moves.trans ?_ (moves_asideTcp fun t => TcpConnection.aside_asyncWrite _ t)
  refine Moves.trans ?_ (moves_asideTcp TcpConnection.aside_asyncRead)
  exact (moves_loginTimer hu herrors).start faults.loginTimer (hlogging _)

/-! ### Login -/

omit hu in
theorem tcp_of_state {state : State} (hs : (c.tcpState i).state = state)
    (hstate : state ≠ .connecting) :
    ∃ conn t, c.connections[i]? = some conn ∧ conn.connection = some t ∧ t.state.state = state := by
  cases hconn : c.connections[i]? with
  | none =>
    simp only [tcpState, tcp?, hconn, Option.bind_none, Option.map_none, Option.getD_none] at hs
    exact absurd hs.symm hstate
  | some conn =>
    cases ht : conn.connection with
    | none =>
      simp only [tcpState, tcp?, hconn, ht, Option.bind_some, Option.map_none,
        Option.getD_none] at hs
      exact absurd hs.symm hstate
    | some t => exact ⟨conn, t, rfl, ht, by simpa [tcpState, tcp?, hconn, ht] using hs⟩

omit hu in
/-- A login is refused, or it is taken, and then the session is the one asked for. -/
theorem onLoginSuccess_cases {conn : Connection} (hconn : c.connections[i]? = some conn)
    (response : LoginAcceptedPacket) :
    (∃ reason, reason ≠ .none ∧ TcpConnection.observed reason = true ∧
        reason ≠ .unmanagedAbort ∧ c.onLoginSuccess i response = (reason, c)) ∨
      (conn.session = [] ∨ response.session = conn.session) ∧
        ∃ c', (c' = c ∨ c' = c.setNextSequenceNumber response.nextSequenceNumber) ∧
          c.onLoginSuccess i response = (.none, c'.acceptLogin i response) := by
  unfold onLoginSuccess
  rw [hconn]
  dsimp only
  split
  · exact Or.inl ⟨_, by decide, rfl, by decide, rfl⟩
  · rename_i hsession
    have hsession : conn.session = [] ∨ response.session = conn.session := by
      by_cases hblank : conn.session = []
      · exact Or.inl hblank
      · exact Or.inr (by_contra fun hne => hsession ⟨hblank, hne⟩)
    split
    · split
      · exact Or.inl ⟨_, by decide, rfl, by decide, rfl⟩
      · split
        · exact Or.inl ⟨_, by decide, rfl, by decide, rfl⟩
        · exact Or.inr ⟨hsession, c, Or.inl rfl, rfl⟩
    · split
      · exact Or.inr ⟨hsession, _, Or.inr rfl, rfl⟩
      · split
        · exact Or.inl ⟨_, by decide, rfl, by decide, rfl⟩
        · exact Or.inr ⟨hsession, c, Or.inl rfl, rfl⟩

omit hu in
theorem updateTcp_updateTcp (c : Client) (i : Nat) (f g : TcpConnection → TcpConnection) :
    (c.updateTcp i f).updateTcp i g = c.updateTcp i fun t => g (f t) := by
  simp only [Client.updateTcp, Client.updateConnection, List.modify_modify_eq]
  congr 2
  funext conn
  simp only [Function.comp_apply, Connection.updateTcp, Option.map_map]
  rfl

omit hu in
/-- The packet is a Login Accepted that is taken. -/
def logsIn (i : Nat) (data : Bytes) (c : Client) : Bool :=
  let response := LoginAcceptedPacket.read data
  let loggedIn := c.updateTcp i fun t => (t.updateLoginTimer LoginTimer.stop).setState .loggedIn
  data.length = LoginAcceptedPacket.payloadSize && (c.tcpState i).state = .connected &&
    response.nextSequenceNumber ≠ 0 && (loggedIn.onLoginSuccess i response).1 = .none

omit hu in
/-- The client as it is when the heartbeat timer is started. -/
def welcomed (user : User) (i : Nat) (response : LoginAcceptedPacket) (c : Client) : Client :=
  let c := c.updateTcp i fun t => (t.updateLoginTimer LoginTimer.stop).setState .loggedIn
  (c.onLoginSuccess i response).2.tcpCallback user i (.loginSuccess response)

/-- A Login Accepted is no packet to take, or the login is refused, or it is taken
and the heartbeat timer started. -/
theorem processLoginAccepted_cases (faults : Faults) (data : Bytes) :
    (∃ error, error ≠ .none ∧ c.processLoginAccepted user faults i data = (error, c)) ∨
    (∃ c', Moves R c c' ∧ c.processLoginAccepted user faults i data = (.none, c')) ∨
    c.logsIn i data = true ∧ Moves R c (c.welcomed user i (.read data)) ∧
      c.processLoginAccepted user faults i data = (.none, (heartbeatTimerHandler user i).start
        faults.heartbeatTimer faults.heartbeatSchedule ((c.welcomed user i (.read data)).updateTcp i
          (·.setHeartbeatTimerStopped false))) := by
  unfold Client.processLoginAccepted
  split
  · exact Or.inl ⟨_, by decide, rfl⟩
  · rename_i hlength
    split
    · exact Or.inl ⟨_, by decide, rfl⟩
    · rename_i hs
      obtain ⟨conn, t, hconn, ht, hs'⟩ := tcp_of_state (not_not.mp hs) (by decide)
      dsimp only
      split
      · exact Or.inl ⟨_, by decide, rfl⟩
      · rename_i hnumber
        right
        have htaken (hreason : ((c.updateTcp i fun t => (t.updateLoginTimer LoginTimer.stop).setState
            .loggedIn).onLoginSuccess i (.read data)).1 = .none) : c.logsIn i data = true := by
          simp [logsIn, not_not.mp hlength, not_not.mp hs, hnumber, hreason]
        unfold welcomed
        dsimp only
        generalize LoginAcceptedPacket.read data = response at htaken ⊢
        have hconn' : (c.updateTcp i fun t => (t.updateLoginTimer LoginTimer.stop).setState
            .loggedIn).connections[i]? = some (conn.updateTcp fun t =>
              (t.updateLoginTimer LoginTimer.stop).setState .loggedIn) := by
          rw [Client.updateTcp, getElem?_updateConnection, if_pos rfl, hconn]
          rfl
        rcases onLoginSuccess_cases hconn' response with
          ⟨reason, hr, hobserved, hna, heq⟩ | ⟨hsession, c', hc', heq⟩
        · left
          rw [heq]
          dsimp only
          rw [if_neg hr]
          refine ⟨_, ?_, rfl⟩
          dsimp only [tcpDisconnect]
          rw [updateTcp_updateTcp]
          apply moves_updateTcp
          intro u hu
          have htu : u = t := by
            simpa [tcp?, hconn, ht] using hu.symm
          subst htu
          apply TcpConnection.Act.disconnect reason hobserved (fun ha => absurd ha hna)
          exact ⟨by simp [hs'], rfl, rfl, Socket.close_closing _⟩
        · right
          rw [heq] at htaken ⊢
          dsimp only
          rw [if_pos rfl]
          refine ⟨htaken rfl, ?_, rfl⟩
          have haccepted : Moves R c (c'.acceptLogin i response) := by
            rcases hc' with rfl | rfl
            · exact .login hconn ht hs' hsession
            · have hlogin : Moves R (c.setNextSequenceNumber response.nextSequenceNumber)
                  ((c.setNextSequenceNumber response.nextSequenceNumber).takeLogin i response) :=
                .login hconn ht hs' hsession
              exact (Moves.next response.nextSequenceNumber).trans hlogin
          exact haccepted.trans (moves_tcpCallback (i := i) hu (.loginSuccess response) rfl
            (absurd · Bool.false_ne_true))

theorem moves_processLoginAccepted (herrors : R.errors) (data : Bytes) :
    Moves R c (c.processLoginAccepted user faults i data).2 := by
  rcases processLoginAccepted_cases (R := R) (c := c) (i := i) hu faults data with
    ⟨error, -, heq⟩ | ⟨c', hmoves, heq⟩ | ⟨-, hmoves, heq⟩
  · rw [heq]
    exact .refl c
  · rw [heq]
    exact hmoves
  · rw [heq]
    have htold := hmoves.trans (moves_asideTcp (i := i)
      (f := (·.setHeartbeatTimerStopped false)) fun t => ⟨rfl, rfl, rfl, Or.inl⟩)
    exact (moves_heartbeatTimer hu herrors).start _ _
      (·.trans (moves_asideTcp (TcpConnection.aside_updateHeartbeatTimer _))) htold

theorem moves_processLoginRejected (data : Bytes) :
    Moves R c (c.processLoginRejected user i data).2 := by
  unfold Client.processLoginRejected
  split
  · exact .refl c
  · split
    · exact .refl c
    · have hstopped : Moves R c (c.updateTcp i (·.updateLoginTimer LoginTimer.stop)) :=
        moves_asideTcp (TcpConnection.aside_updateLoginTimer _)
      exact (hstopped.trans (moves_tcpCallback hu (.loginFailure _) rfl nofun)).trans
        (moves_tcpDisconnect rfl (by simp))

/-! ### Reading -/

omit hu in
/-- A packet that the connection `i` would pass on as sequenced data with the
client's next number, although the session has ended. -/
def passesLate (i : Nat) (packet : ReadPacket) (c : Client) : Bool :=
  c.hasSessionEnded && packet.packetType == SequencedDataPacket.packetType &&
    (c.tcpState i).state == .loggedIn &&
      c.connections[i]?.any fun conn =>
        !conn.hasSessionEnded && conn.nextSequenceNumber == c.nextSequenceNumber

omit hu in
theorem moves_countReceived : Moves R c (c.updateTcp i
    (·.updateHeartbeatTimer HeartbeatTimer.incrementReceiveCount)) :=
  moves_asideTcp (TcpConnection.aside_updateHeartbeatTimer _)

theorem moves_onSequencedData (n : Nat) (data : Bytes)
    (hlate : c.hasSessionEnded = true → n = c.nextSequenceNumber → R.late) :
    Moves R c (c.onSequencedData user n data) := by
  have harrived : Moves R c (c.log (.arrived n data)) := .note rfl nofun
  unfold Client.onSequencedData
  dsimp only
  split
  · exact harrived
  · split
    · exact harrived.trans (.note rfl nofun)
    · rename_i hn
      have hn : n = c.nextSequenceNumber := not_not.mp hn
      have hdelivered : Moves R c ((((c.log (.arrived n data)).setNextSequenceNumber
          ((n + 1) % 2 ^ 64))).log (.called c.handlerSet (.sequencedData n data))) :=
        harrived.trans (.deliver hn.symm fun he => hlate he hn)
      unfold Client.notify
      dsimp only
      split
      · exact hdelivered.trans (hu _ _)
      · exact hdelivered

theorem moves_processSequencedData (data : Bytes)
    (hlate : c.hasSessionEnded = true → (c.tcpState i).state = .loggedIn →
      (∃ conn, c.connections[i]? = some conn ∧ conn.hasSessionEnded = false ∧
        conn.nextSequenceNumber = c.nextSequenceNumber) → R.late) :
    Moves R c (c.processSequencedData user i data).2 := by
  unfold Client.processSequencedData
  split
  · exact .refl c
  · rename_i hs
    split
    · exact .refl c
    · rename_i hended
      dsimp only
      have hcounted : Moves R c _ := moves_countReceived (i := i)
      unfold connectionOnSequencedData
      cases hconn : c.connections[i]? with
      | none =>
        have hnone : (c.updateTcp i (·.updateHeartbeatTimer
            HeartbeatTimer.incrementReceiveCount)).connections[i]? = none := by
          rw [Client.updateTcp, getElem?_updateConnection, if_pos rfl, hconn]
          rfl
        rw [hnone]
        exact hcounted
      | some conn =>
        have hsome : (c.updateTcp i (·.updateHeartbeatTimer
            HeartbeatTimer.incrementReceiveCount)).connections[i]? = some (conn.updateTcp
              (·.updateHeartbeatTimer HeartbeatTimer.incrementReceiveCount)) := by
          rw [Client.updateTcp, getElem?_updateConnection, if_pos rfl, hconn]
          rfl
        rw [hsome]
        dsimp only
        refine (hcounted.trans (moves_configure (i := i) (f := (·.setNextSequenceNumber
          ((conn.nextSequenceNumber + 1) % 2 ^ 64))) fun _ => ⟨rfl, rfl, rfl, rfl⟩)).trans ?_
        apply moves_onSequencedData hu
        intro he hn
        apply hlate he (not_not.mp hs)
        exact ⟨conn, hconn, by simpa [hconn] using hended, hn⟩

omit hu in
theorem moves_processServerHeartbeat (size : Nat) :
    Moves R c (c.processServerHeartbeat i size).2 := by
  unfold Client.processServerHeartbeat
  split
  · exact .refl c
  · split
    · exact .refl c
    · exact moves_countReceived

theorem moves_processEndOfSession (size : Nat) :
    Moves R c (c.processEndOfSession user i size).2 := by
  have hended (c : Client) : Moves R c (c.onEndOfSession user) := by
    unfold Client.onEndOfSession
    split
    · exact .refl c
    · rename_i hopen
      have hlog := Moves.endSession (R := R) (c := c) (by simpa using hopen)
      unfold Client.notify
      dsimp only
      split
      · exact hlog.trans (hu _ _)
      · exact hlog
  unfold Client.processEndOfSession
  split
  · exact .refl c
  · split
    · exact .refl c
    · have hcounted : Moves R c _ := moves_countReceived (i := i)
      unfold connectionOnEndOfSession
      dsimp only
      split
      · exact hcounted
      · split
        · exact hcounted
        · exact (hcounted.trans (.connection fun _ _ => .ended)).trans (hended _)

theorem moves_processPacket (herrors : R.errors) (packet : ReadPacket)
    (hlate : c.passesLate i packet = true → R.late) :
    Moves R c (c.processPacket user faults i packet).2 := by
  unfold Client.processPacket
  dsimp only
  split
  · exact moves_tcpCallback hu (.debug _) rfl nofun
  · split
    · exact moves_processLoginAccepted hu herrors _
    · split
      · exact moves_processLoginRejected hu _
      · split
        · rename_i htype
          apply moves_processSequencedData hu
          rintro he hs ⟨conn, hconn, hopen, hn⟩
          apply hlate
          simp [passesLate, he, htype, hs, hconn, hopen, hn]
        · split
          · exact moves_processServerHeartbeat _
          · split
            · exact moves_processEndOfSession hu _
            · exact .refl c

theorem moves_readSuccess (herrors : R.errors) (packet : ReadPacket)
    (hlate : c.passesLate i packet = true → R.late) :
    Moves R c (c.readSuccess user faults i packet) := by
  unfold Client.readSuccess
  split
  · exact .refl c
  · have hprocessed : Moves R c (c.processPacket user faults i packet).2 :=
      moves_processPacket hu herrors packet hlate
    have hagain {c' : Client} (h : Moves R c c') : Moves R c
        (if (c'.tcpState i).isClosing then c' else c'.updateTcp i (·.updateSocket Socket.asyncRead))
        := by
      split
      · exact h
      · exact h.trans (moves_asideTcp TcpConnection.aside_asyncRead)
    dsimp only
    split
    · exact hagain (hprocessed.trans (moves_handleProtocolViolation hu herrors _))
    · exact hagain hprocessed

theorem moves_socket (herrors : R.errors) : (socketHandler user faults i).KeepsUnread (Moves R c) where
  update _ hf _ h := h.trans (moves_asideTcp (TcpConnection.aside_internal hf))
  connectFailure ec _ h := h.trans (moves_handleConnectFailure hu ec _)
  readFailure ec _ h := h.trans (moves_handleTransportError hu herrors ec _)
  readPacketFailure error _ h := h.trans (moves_handleProtocolViolation hu herrors error)
  readEndOfFile _ h := h.trans (moves_tcpDisconnect rfl (by simp))
  writeFailure ec _ h := h.trans (moves_handleTransportError hu herrors ec _)
  writeSuccess _ _ h := h
  writeBufferEmpty _ h := h.trans (moves_tcpCallback hu .writeBufferEmpty rfl nofun)

end

end Client
end SoupBin.ClientSide
