import SoupBin.ClientSteps

/-!
# The feed of the client

Every connection counts its own sequence numbers, and the client merges what
arrives into one feed. A connection that is logged in is never ahead of the
client, so the feed has no gap.
-/

namespace SoupBin.ClientSide

/-- Whether an entry says something about the feed. -/
def Entry.tells : Entry → Bool
  | .called _ (.sequencedData _ _) | .arrived _ _ | .accepted _ _ | .assertionFailed => true
  | _ => false

def Entry.passed? : Entry → Option (Nat × Bytes)
  | .called _ (.sequencedData sequenceNumber data) => some (sequenceNumber, data)
  | _ => none

def Entry.arrived? : Entry → Option (Nat × Bytes)
  | .arrived sequenceNumber data => some (sequenceNumber, data)
  | _ => none

def Entry.login? : Entry → Option Nat
  | .accepted _ response => some response.nextSequenceNumber
  | _ => none

/-- The state and the number of a connection that has been connected. -/
def Connection.live (conn : Connection) : Option (State × Nat) :=
  match conn.connection with
  | none => none
  | some t =>
    if t.state.state = .connected ∨ t.state.state = .loggedIn then
      some (t.state.state, conn.nextSequenceNumber)
    else none

namespace Client

/-! ## What the feed is made of -/

/-- What the trace tells about the feed. -/
def story (c : Client) : List Entry := c.trace.filter Entry.tells

/-- The calls of `Client_handler::sequenced_data`. -/
def passed (c : Client) : List (Nat × Bytes) := c.trace.filterMap Entry.passed?

/-- The calls of `Client::on_sequenced_data`. -/
def arrivals (c : Client) : List (Nat × Bytes) := c.trace.filterMap Entry.arrived?

/-- The numbers in the Login Accepted packets that were taken. -/
def logins (c : Client) : List Nat := c.trace.filterMap Entry.login?

def live (c : Client) (j : Nat) : Option (State × Nat) := c.connections[j]?.bind Connection.live

theorem live_updateConnection (c : Client) (i j : Nat) (f : Connection → Connection) :
    (c.updateConnection i f).live j =
      if i = j then c.connections[j]?.bind fun conn => (f conn).live else c.live j := by
  rw [live, getElem?_updateConnection]
  split
  · cases c.connections[j]? <;> rfl
  · rfl

/-- A live connection is numbered by its counter alone. -/
theorem live_number (conn : Connection) (n : Nat) :
    (conn.setNextSequenceNumber n).live = conn.live.map fun l => (l.1, n) := by
  unfold Connection.live
  rw [show (conn.setNextSequenceNumber n).connection = conn.connection from rfl]
  cases conn.connection with
  | none => rfl
  | some t =>
    dsimp only
    split <;> rfl

/-! ## Steps that leave the feed alone -/

/-- The numbers and the story are the same, and a connection is live as before
or not at all. -/
structure Quiet (c c' : Client) : Prop where
  next : c'.nextSequenceNumber = c.nextSequenceNumber
  story : c'.story = c.story
  live : ∀ j, c'.live j = none ∨ c'.live j = c.live j

theorem Quiet.refl (c : Client) : Quiet c c := ⟨rfl, rfl, fun _ => Or.inr rfl⟩

theorem Quiet.trans {a b c : Client} (h : Quiet a b) (h' : Quiet b c) : Quiet a c := by
  constructor
  · exact h'.next.trans h.next
  · exact h'.story.trans h.story
  · intro j
    rcases h'.live j with hn | he
    · exact Or.inl hn
    · rw [he]
      exact h.live j

theorem quiet_log {c : Client} {entry : Entry} (he : entry.tells = false) :
    Quiet c (c.log entry) :=
  ⟨rfl, by simp [story, log, he], fun _ => Or.inr rfl⟩

/-- An update of one connection, which stays live as it was or is no longer live. -/
theorem quiet_updateConnection (c : Client) (i : Nat) {f : Connection → Connection}
    (hf : ∀ conn, (f conn).live = none ∨ (f conn).live = conn.live) :
    Quiet c (c.updateConnection i f) := by
  refine ⟨rfl, rfl, fun j => ?_⟩
  rw [live, getElem?_updateConnection]
  split
  · cases hj : c.connections[j]? with
    | none => exact Or.inl rfl
    | some conn =>
      rcases hf conn with hn | he
      · exact Or.inl hn
      · exact Or.inr (by simp [live, hj, he])
  · exact Or.inr rfl

/-- An update of a `Tcp_connection` that keeps its state or closes it. -/
def Calm (f : TcpConnection → TcpConnection) : Prop :=
  ∀ t, (f t).state.state = t.state.state ∨ (f t).state.isClosing = true

theorem live_updateTcp {f : TcpConnection → TcpConnection} (hf : Calm f) (conn : Connection) :
    (conn.updateTcp f).live = none ∨ (conn.updateTcp f).live = conn.live := by
  cases ht : conn.connection with
  | none => exact Or.inr (by simp [Connection.live, Connection.updateTcp, ht])
  | some t =>
    rcases hf t with hs | hc
    · exact Or.inr (by simp [Connection.live, Connection.updateTcp, ht, hs])
    · left
      simp only [ConnectionState.isClosing, Bool.or_eq_true, beq_iff_eq] at hc
      rcases hc with hc | hc <;> simp [Connection.live, Connection.updateTcp, ht, hc]

/-- A `Tcp_connection` in the same state makes its connection live as before. -/
theorem live_updateTcp_same (c : Client) (i : Nat) {f : TcpConnection → TcpConnection}
    (hf : ∀ t, (f t).state = t.state) : (c.updateTcp i f).live i = c.live i := by
  rw [updateTcp, live_updateConnection, if_pos rfl, live]
  cases c.connections[i]? with
  | none => rfl
  | some conn =>
    cases ht : conn.connection with
    | none => simp [Connection.live, Connection.updateTcp, ht]
    | some t => simp [Connection.live, Connection.updateTcp, ht, hf t]

theorem quiet_updateTcp (c : Client) (i : Nat) {f : TcpConnection → TcpConnection} (hf : Calm f) :
    Quiet c (c.updateTcp i f) :=
  quiet_updateConnection c i (live_updateTcp hf)

theorem calm_disconnect (reason : DisconnectReason) : Calm (TcpConnection.disconnect reason) := by
  intro t
  unfold TcpConnection.disconnect ConnectionState.disconnect
  by_cases h : t.state.state = .disconnected
  · simp [h]
  · simp [h, ConnectionState.isClosing]

/-- A `Tcp_connection` that is told to disconnect is no longer live. -/
theorem live_disconnect (c : Client) (i : Nat) (reason : DisconnectReason) :
    (c.tcpDisconnect i reason).live i = none := by
  rw [tcpDisconnect, updateTcp, live_updateConnection, if_pos rfl]
  cases c.connections[i]? with
  | none => rfl
  | some conn =>
    cases ht : conn.connection with
    | none => simp [Connection.live, Connection.updateTcp, ht]
    | some t =>
      have hs : (t.disconnect reason).state.state = .disconnected := by
        unfold TcpConnection.disconnect ConnectionState.disconnect
        by_cases h : t.state.state = .disconnected <;> simp [h]
      simp [Connection.live, Connection.updateTcp, ht, hs]

theorem calm_write (packet : WritePacket) : Calm (TcpConnection.writeBestEffort packet) :=
  fun _ => Or.inl rfl

theorem calm_socket (f : Socket → Socket) : Calm (TcpConnection.updateSocket f) :=
  fun _ => Or.inl rfl

theorem sendPacket_state (packet : WritePacket) (t : TcpConnection) :
    (t.sendPacket packet).2.state = t.state := by
  unfold TcpConnection.sendPacket
  split
  · rfl
  · dsimp only
    split <;> rfl

theorem sendDebugPacket_state (text : Bytes) (t : TcpConnection) :
    (t.sendDebugPacket text).2.state = t.state := by
  unfold TcpConnection.sendDebugPacket
  split <;> rfl

/-- Sending leaves everything about a connection but its queue and its timer alone. -/
theorem live_sendWith {send : TcpConnection → WriteError × TcpConnection}
    (h : ∀ t, (send t).2.state = t.state) (conn : Connection) :
    (conn.sendWith send).2.live = conn.live := by
  cases ht : conn.connection with
  | none => simp [Connection.sendWith, ht]
  | some t => simp [Connection.sendWith, Connection.live, ht, h t]

theorem live_sendPacket (packet : WritePacket) (conn : Connection) :
    (conn.sendPacket packet).2.live = conn.live := by
  unfold Connection.sendPacket
  split
  · rfl
  · exact live_sendWith (sendPacket_state packet) conn

theorem live_sendMessage (data : Span) (conn : Connection) :
    (conn.sendMessage data).2.live = conn.live := by
  unfold Connection.sendMessage
  split
  · rfl
  · cases data with
    | null size => rfl
    | bytes data => exact live_sendPacket _ conn

theorem live_sendLogoutRequest (conn : Connection) :
    conn.sendLogoutRequest.2.live = conn.live :=
  live_sendWith (sendPacket_state _) conn

theorem live_sendDebug (text : Bytes) (conn : Connection) :
    (conn.sendDebug text).2.live = conn.live := by
  unfold Connection.sendDebug
  split
  · rfl
  · exact live_sendWith (sendDebugPacket_state text) conn

theorem live_close (conn : Connection) : conn.close.live = none ∨ conn.close.live = conn.live :=
  live_updateTcp (calm_disconnect .userInitiated) conn

/-- Every connection stays live as it was or is no longer live. -/
theorem quiet_map (c : Client) {f : Connection → Connection}
    (hf : ∀ conn, (f conn).live = none ∨ (f conn).live = conn.live) :
    Quiet c { c with connections := c.connections.map f } := by
  refine ⟨rfl, rfl, fun j => ?_⟩
  cases hj : c.connections[j]? with
  | none => exact Or.inl (by simp [live, hj])
  | some conn =>
    rcases hf conn with hn | he
    · exact Or.inl (by simp [live, hj, hn])
    · exact Or.inr (by simp [live, hj, he])

theorem quiet_sendPacket (packet : WritePacket) (c : Client) : Quiet c (c.sendPacket packet).2 := by
  cases h : c.hasSessionEnded with
  | true =>
    simp only [sendPacket, h, ↓reduceIte]
    exact .refl c
  | false =>
    rw [sendPacket_all packet h]
    exact quiet_map c fun conn => Or.inr (live_sendPacket packet conn)

theorem quiet_addConnection (endpoint : Nat) (handlerSet : Bool) (c : Client) :
    Quiet c (c.addConnection endpoint handlerSet).2 := by
  unfold addConnection
  split
  · exact .refl c
  · refine ⟨rfl, rfl, fun j => ?_⟩
    simp only [live, List.getElem?_append]
    split
    · exact Or.inr rfl
    · left
      cases j - c.connections.length <;> simp [Connection.live]

/-! ### Quiet functions

The calls that the user makes from inside callbacks are quiet as well. -/

section
variable {user : User} (hu : ∀ cb c, Quiet c (user cb c)) (faults : Faults) (i : Nat)
include hu

theorem quiet_notify (handlerSet : Bool) {cb : Callback} (c : Client)
    (hcb : (Entry.called handlerSet cb).tells = false) :
    Quiet c (c.notify user handlerSet cb) := by
  unfold notify
  dsimp only
  split
  · exact (quiet_log hcb).trans (hu _ _)
  · exact quiet_log hcb

theorem quiet_connectionCallback (cb : ConnectionCallback) (c : Client) :
    Quiet c (c.connectionCallback user i cb) := by
  unfold connectionCallback
  split
  · exact .refl c
  · exact quiet_notify hu _ c rfl

theorem quiet_tcpCallback (cb : ConnectionCallback) (c : Client) :
    Quiet c (c.tcpCallback user i cb) := by
  unfold tcpCallback
  split
  · exact .refl c
  · exact quiet_notify hu _ c rfl

omit hu in
/-- A slot that is engaged anew holds a connection that is not live. -/
theorem quiet_engage (c : Client) {t : Option TcpConnection}
    (ht : ∀ conn : Connection, (conn.setConnection t).live = none) :
    Quiet c (c.updateConnection i (·.setConnection t)) :=
  quiet_updateConnection c i fun conn => Or.inl (ht conn)

theorem quiet_emplace (c : Client) : Quiet c (c.emplace user faults i) := by
  unfold emplace
  split
  · exact .refl c
  · rename_i conn _
    have hcleared : Quiet c
        ((c.updateConnection i (·.setConnection none)).log (.constructed i)) :=
      (quiet_engage i c fun _ => rfl).trans (quiet_log rfl)
    have hcalled := hcleared.trans
      (quiet_notify hu conn.handlerSet _ (rfl :
        (Entry.called conn.handlerSet (.connection i (.connecting conn.endpoint))).tells = false))
    dsimp only
    split
    · rename_i ec _
      refine (hcalled.trans (quiet_notify hu _ _ rfl)).trans (quiet_engage i _ fun _ => ?_)
      rfl
    · split
      · refine (hcalled.trans (quiet_notify hu _ _ rfl)).trans (quiet_engage i _ fun _ => ?_)
        rfl
      · refine hcalled.trans (quiet_engage i _ fun _ => ?_)
        rfl

theorem quiet_connect (c : Client) : Quiet c (c.connect user faults i) := by
  unfold connect
  split
  · exact .refl c
  · have hcalled : Quiet c (c.log (.connectCalled i)) := quiet_log rfl
    dsimp only
    split
    · exact hcalled
    · split
      · exact hcalled
      · split
        · exact hcalled
        · exact hcalled.trans (quiet_emplace hu faults i _)

theorem quiet_reconnectTimer (c₀ : Client) :
    (reconnectTimerHandler user faults i).Keeps (Quiet c₀) where
  update _ c h := h.trans (quiet_updateConnection c i fun _ => Or.inr rfl)
  reconnectTimerError _ _ c h := h.trans (quiet_connectionCallback hu i _ c)
  reconnectTimerExpired c h := h.trans (quiet_emplace hu faults i c)

theorem quiet_scheduleReconnect (c : Client) : Quiet c (c.scheduleReconnect user faults i) := by
  have hdelay : Quiet c (c.updateConnection i Connection.nextDelay) :=
    quiet_updateConnection c i fun _ => Or.inr rfl
  exact (quiet_reconnectTimer hu faults i c).start _
    (hdelay.trans (quiet_connectionCallback hu i _ _))

theorem quiet_onClosed (reason : DisconnectReason) (c : Client) :
    Quiet c (c.onClosed user faults i reason) := by
  have hdropped : Quiet c
      ((c.updateConnection i (·.setConnection none)).log (.onClosed i)) :=
    (quiet_engage i c fun _ => rfl).trans (quiet_log rfl)
  have hcalled := hdropped.trans (quiet_connectionCallback hu i (.disconnect reason) _)
  unfold onClosed
  dsimp only
  split
  · exact hcalled
  · split
    · exact hcalled
    · exact hcalled.trans (quiet_scheduleReconnect hu faults i _)

omit hu in
theorem quiet_tcpDisconnect (reason : DisconnectReason) (c : Client) :
    Quiet c (c.tcpDisconnect i reason) :=
  quiet_updateTcp c i (calm_disconnect reason)

theorem quiet_handleTransportError (ec : IoError) (operation : String) (c : Client) :
    Quiet c (c.handleTransportError user i ec operation) :=
  (quiet_tcpCallback hu i _ c).trans (quiet_tcpDisconnect i _ _)

theorem quiet_handleConnectFailure (ec : IoError) (operation : String) (c : Client) :
    Quiet c (c.handleConnectFailure user i ec operation) :=
  (quiet_tcpCallback hu i _ c).trans (quiet_tcpDisconnect i _ _)

theorem quiet_handleProtocolViolation (error : PacketError) (c : Client) :
    Quiet c (c.handleProtocolViolation user i error) :=
  (quiet_tcpCallback hu i _ c).trans (quiet_tcpDisconnect i _ _)

theorem quiet_loginTimer (c₀ : Client) : (loginTimerHandler user i).Keeps (Quiet c₀) where
  update _ c h := h.trans (quiet_updateTcp c i fun _ => Or.inl rfl)
  loginTimerError ec operation c h := h.trans (quiet_handleTransportError hu i ec operation c)
  loginTimerExpired c h := h.trans (quiet_tcpDisconnect i _ c)

theorem quiet_heartbeatTimer (c₀ : Client) : (heartbeatTimerHandler user i).Keeps (Quiet c₀) where
  update _ _ c h := h.trans (quiet_updateTcp c i fun _ => Or.inl rfl)
  heartbeatTimerError ec operation c h := h.trans (quiet_handleTransportError hu i ec operation c)
  heartbeatSendDue c h := h.trans (quiet_updateTcp c i (calm_write _))
  heartbeatReceiveTimeout c h := h.trans (quiet_tcpDisconnect i _ c)

theorem quiet_maybeSignalClosed (c : Client) : Quiet c (c.maybeSignalClosed user faults i) := by
  unfold maybeSignalClosed
  split
  · exact .refl c
  · split
    · exact quiet_onClosed hu faults i _ c
    · exact .refl c

theorem quiet_connectFrom (faults : Nat → Faults) (more : Nat) :
    ∀ (i : Nat) (c : Client), Quiet c (connectFrom user faults more i c) := by
  induction more with
  | zero => exact fun _ c => .refl c
  | succ more ih =>
    intro i c
    exact (quiet_connect hu (faults i) i c).trans (ih (i + 1) _)

theorem quiet_runPosted (faults : Nat → Faults) (added : Nat) (posted : Posted) (c : Client) :
    Quiet c (runPosted user faults added posted c) := by
  cases posted with
  | start =>
    simp only [runPosted]
    split
    · exact .refl c
    · have hstarted : Quiet c { c with started := true } := ⟨rfl, rfl, fun _ => Or.inr rfl⟩
      exact hstarted.trans (quiet_connectFrom hu faults _ 0 _)
  | stop =>
    simp only [runPosted]
    split
    · exact .refl c
    · have hstopped : Quiet c { c with started := false } := ⟨rfl, rfl, fun _ => Or.inr rfl⟩
      exact hstopped.trans (quiet_map _ live_close)

theorem quiet_call (faults : Nat → Faults) (call : Call) (c : Client) :
    Quiet c (call.run user faults c) := by
  cases call with
  | connect i => exact quiet_connect hu (faults i) i c
  | close i => exact (quiet_updateConnection c i live_close).trans (quiet_log rfl)
  | sendMessage i data => exact quiet_updateConnection c i fun _ => Or.inr (live_sendMessage data _)
  | sendLogoutRequest i => exact quiet_updateConnection c i fun _ => Or.inr (live_sendLogoutRequest _)
  | sendDebug i text => exact quiet_updateConnection c i fun _ => Or.inr (live_sendDebug text _)
  | setConnectionHandler i => exact quiet_updateConnection c i fun _ => Or.inr rfl
  | setUsername i username =>
    apply quiet_updateConnection
    intro conn
    unfold Connection.setUsername
    split <;> exact Or.inr rfl
  | setPassword i password =>
    apply quiet_updateConnection
    intro conn
    unfold Connection.setPassword
    split <;> exact Or.inr rfl
  | setSession i session =>
    apply quiet_updateConnection
    intro conn
    unfold Connection.setSession
    split <;> exact Or.inr rfl
  | start =>
    simp only [Call.run, start]
    split
    · exact .refl c
    · split
      · exact .refl c
      · exact ⟨rfl, rfl, fun _ => Or.inr rfl⟩
  | stop => exact ⟨rfl, rfl, fun _ => Or.inr rfl⟩
  | sendMessageToAll data =>
    simp only [Call.run, sendMessage]
    split
    · exact .refl c
    · cases data with
      | null size => exact .refl c
      | bytes data => exact quiet_sendPacket _ c
  | sendLogoutRequestToAll => exact quiet_map c fun _ => Or.inr (live_sendLogoutRequest _)
  | sendDebugToAll text => exact quiet_map c fun _ => Or.inr (live_sendDebug text _)
  | setHandler => exact ⟨rfl, rfl, fun _ => Or.inr rfl⟩
  | setWritePacketsLimit limit => exact ⟨rfl, rfl, fun _ => Or.inr rfl⟩
  | addConnection endpoint handlerSet => exact quiet_addConnection endpoint handlerSet c

theorem quiet_calls (faults : Nat → Faults) (calls : List Call) (c : Client) :
    Quiet c (calls.foldl (Call.run user faults) c) := by
  induction calls generalizing c with
  | nil => exact .refl c
  | cons call calls ih => exact (quiet_call hu faults call c).trans (ih _)

end

/-- However deep the callbacks are nested, the user is quiet. -/
theorem quiet_user (env : Env) (cb : Callback) (c : Client) : Quiet c (env.user cb c) := by
  unfold Env.user
  induction env.depth generalizing cb c with
  | zero => exact .refl c
  | succ depth ih => exact quiet_calls ih env.faults _ c

/-! ## The merged feed -/

/-- What has been passed on are the numbers from `start` up to `next`, each with
what was first to arrive under it, and nothing from `next` on has arrived. -/
structure Merged (start next : Nat) (passed arrivals : List (Nat × Bytes)) : Prop where
  le : start ≤ next
  numbers : passed.map Prod.fst = List.range' start (next - start)
  earlier : ∀ a ∈ arrivals, a.1 < next
  first : ∀ p ∈ passed, arrivals.find? (·.1 = p.1) = some p

theorem Merged.stale {start next : Nat} {passed arrivals : List (Nat × Bytes)}
    (h : Merged start next passed arrivals) {n : Nat} (hn : n < next) (data : Bytes) :
    Merged start next passed (arrivals ++ [(n, data)]) := by
  constructor
  · exact h.le
  · exact h.numbers
  · intro a ha
    rcases List.mem_append.mp ha with ha | ha
    · exact h.earlier a ha
    · rw [List.mem_singleton.mp ha]
      exact hn
  · intro p hp
    simp [List.find?_append, h.first p hp]

/-- What arrives under the number that is next is the first under that number. -/
theorem Merged.fresh {start next : Nat} {passed arrivals : List (Nat × Bytes)}
    (h : Merged start next passed arrivals) (data : Bytes) :
    Merged start (next + 1) (passed ++ [(next, data)]) (arrivals ++ [(next, data)]) := by
  have hle := h.le
  constructor
  · omega
  · have hlen : next + 1 - start = next - start + 1 := by omega
    rw [List.map_append, h.numbers, hlen, List.range'_concat]
    simp
    omega
  · intro a ha
    rcases List.mem_append.mp ha with ha | ha
    · exact Nat.lt_succ_of_lt (h.earlier a ha)
    · rw [List.mem_singleton.mp ha]
      exact Nat.lt_succ_self next
  · intro p hp
    rcases List.mem_append.mp hp with hp | hp
    · simp [List.find?_append, h.first p hp]
    · rw [List.mem_singleton.mp hp]
      have hnone : arrivals.find? (fun a => decide (a.1 = next)) = none := by
        apply List.find?_eq_none.mpr
        intro a ha
        have := h.earlier a ha
        simp
        omega
      simp [List.find?_append, hnone]

/-- The first number of the feed: the one that was set, or else that of the first login. -/
def firstNumber (n₀ : Nat) (c : Client) : Nat := if n₀ = 0 then c.logins.headD 0 else n₀

/-- The invariant. A live connection is never ahead of the client; only `skip` may
be, in the middle of a login. -/
structure Feeding (n₀ : Nat) (skip : Option Nat) (c : Client) : Prop where
  behind : ∀ j, skip ≠ some j → ∀ state n, c.live j = some (state, n) →
    n ≤ c.nextSequenceNumber ∧ (state = .loggedIn → 1 ≤ n)
  sound : Entry.assertionFailed ∉ c.trace
  unset : c.nextSequenceNumber = 0 → n₀ = 0 ∧ c.logins = []
  set : c.nextSequenceNumber ≠ 0 → n₀ = 0 → c.logins ≠ []
  merged : Merged (c.firstNumber n₀) c.nextSequenceNumber c.passed c.arrivals

/-- The highest sequence number has arrived, so that a counter has wrapped. -/
def Exhausted (c : Client) : Prop := ∃ a ∈ c.arrivals, 2 ^ 64 - 1 ≤ a.1

def Fed (n₀ : Nat) (skip : Option Nat) (c : Client) : Prop := Feeding n₀ skip c ∨ Exhausted c

theorem filterMap_story {α : Type} {f : Entry → Option α} (hf : ∀ e, e.tells = false → f e = none)
    (c : Client) : c.story.filterMap f = c.trace.filterMap f := by
  unfold story
  induction c.trace with
  | nil => rfl
  | cons e trace ih =>
    cases he : e.tells with
    | true => simp [he, List.filterMap_cons, ih]
    | false => simp [he, hf e he, ih]

theorem Quiet.filterMap {c c' : Client} (h : Quiet c c') {α : Type} {f : Entry → Option α}
    (hf : ∀ e, e.tells = false → f e = none) : c'.trace.filterMap f = c.trace.filterMap f := by
  rw [← filterMap_story hf, ← filterMap_story hf, h.story]

theorem Quiet.passed {c c' : Client} (h : Quiet c c') : c'.passed = c.passed := by
  apply h.filterMap
  intro e he
  unfold Entry.passed?
  split
  · cases he
  · rfl

theorem Quiet.arrivals {c c' : Client} (h : Quiet c c') : c'.arrivals = c.arrivals := by
  apply h.filterMap
  intro e he
  unfold Entry.arrived?
  split
  · cases he
  · rfl

theorem Quiet.logins {c c' : Client} (h : Quiet c c') : c'.logins = c.logins := by
  apply h.filterMap
  intro e he
  unfold Entry.login?
  split
  · cases he
  · rfl

theorem Quiet.feeding {c c' : Client} (h : Quiet c c') {n₀ : Nat} {skip : Option Nat}
    (hf : Feeding n₀ skip c) : Feeding n₀ skip c' := by
  constructor
  · intro j hj state n hl
    rcases h.live j with hn | he
    · rw [hn] at hl
      cases hl
    · rw [h.next]
      exact hf.behind j hj state n (he ▸ hl)
  · intro hm
    have htold : Entry.assertionFailed ∈ c'.story := List.mem_filter.mpr ⟨hm, rfl⟩
    rw [h.story] at htold
    exact hf.sound (List.mem_filter.mp htold).1
  · rw [h.next, h.logins]
    exact hf.unset
  · rw [h.next, h.logins]
    exact hf.set
  · rw [firstNumber, h.next, h.logins, h.passed, h.arrivals]
    exact hf.merged

theorem Quiet.fed {c c' : Client} (h : Quiet c c') {n₀ : Nat} {skip : Option Nat}
    (hf : Fed n₀ skip c) : Fed n₀ skip c' := by
  rcases hf with hf | he
  · exact Or.inl (h.feeding hf)
  · right
    unfold Exhausted
    rw [h.arrivals]
    exact he

section
variable {n₀ i : Nat} {c : Client}

theorem Feeding.skip (h : Feeding n₀ none c) (i : Nat) : Feeding n₀ (some i) c :=
  { h with behind := fun j _ => h.behind j (by simp) }

/-- Whatever is done to the connection that is skipped. -/
theorem Feeding.updateSkipped (h : Feeding n₀ (some i) c) (f : Connection → Connection) :
    Feeding n₀ (some i) (c.updateConnection i f) := by
  refine { h with behind := fun j hj state n hl => ?_ }
  have hij : i ≠ j := fun hij => hj (by rw [hij])
  rw [live_updateConnection, if_neg hij] at hl
  exact h.behind j hj state n hl

/-- The skipped connection is behind as well. -/
theorem Feeding.rejoin (h : Feeding n₀ (some i) c)
    (hi : ∀ state n, c.live i = some (state, n) →
      n ≤ c.nextSequenceNumber ∧ (state = .loggedIn → 1 ≤ n)) : Feeding n₀ none c := by
  refine { h with behind := fun j _ state n hl => ?_ }
  by_cases hj : i = j
  · exact hi state n (hj ▸ hl)
  · exact h.behind j (by simpa using hj) state n hl

theorem Fed.skip (h : Fed n₀ none c) (i : Nat) : Fed n₀ (some i) c :=
  h.imp_left fun hf => hf.skip i

theorem Fed.updateSkipped (h : Fed n₀ (some i) c) (f : Connection → Connection) :
    Fed n₀ (some i) (c.updateConnection i f) :=
  h.imp_left fun hf => hf.updateSkipped f

theorem Fed.rejoin (h : Fed n₀ (some i) c)
    (hi : ∀ state n, c.live i = some (state, n) →
      n ≤ c.nextSequenceNumber ∧ (state = .loggedIn → 1 ≤ n)) : Fed n₀ none c :=
  h.imp_left fun hf => hf.rejoin hi

theorem acceptLogin_logins (c : Client) (i : Nat) (response : LoginAcceptedPacket) :
    (c.acceptLogin i response).logins = c.logins ++ [response.nextSequenceNumber] := by
  simp [logins, acceptLogin, log, Entry.login?]

theorem acceptLogin_passed (c : Client) (i : Nat) (response : LoginAcceptedPacket) :
    (c.acceptLogin i response).passed = c.passed := by
  simp [passed, acceptLogin, log, Entry.passed?]

theorem acceptLogin_arrivals (c : Client) (i : Nat) (response : LoginAcceptedPacket) :
    (c.acceptLogin i response).arrivals = c.arrivals := by
  simp [arrivals, acceptLogin, log, Entry.arrived?]

theorem acceptLogin_live_other {i j : Nat} (hij : i ≠ j) (c : Client)
    (response : LoginAcceptedPacket) : (c.acceptLogin i response).live j = c.live j :=
  (live_updateConnection c i j _).trans (if_neg hij)

/-- The connection takes the number of the response. -/
theorem acceptLogin_live {response : LoginAcceptedPacket} {state : State} {n : Nat}
    (hl : (c.acceptLogin i response).live i = some (state, n)) :
    n = response.nextSequenceNumber := by
  have hl' : (c.updateConnection i (·.accept response)).live i = some (state, n) := hl
  rw [live_updateConnection, if_pos rfl] at hl'
  cases hc : c.connections[i]? with
  | none => simp [hc] at hl'
  | some conn =>
    simp only [hc, Option.bind_some] at hl'
    change (conn.setNextSequenceNumber response.nextSequenceNumber).live = _ at hl'
    rw [live_number, Option.map_eq_some_iff] at hl'
    obtain ⟨l, -, hl'⟩ := hl'
    cases hl'
    rfl

/-- A login is taken with a number that the client has reached. -/
theorem Feeding.acceptLogin (h : Feeding n₀ (some i) c) {response : LoginAcceptedPacket}
    (hzero : response.nextSequenceNumber ≠ 0)
    (hle : response.nextSequenceNumber ≤ c.nextSequenceNumber) :
    Feeding n₀ none (c.acceptLogin i response) := by
  have hfirst : (c.acceptLogin i response).firstNumber n₀ = c.firstNumber n₀ := by
    unfold firstNumber
    rw [acceptLogin_logins]
    split
    · rename_i hz
      have hne := h.set (by omega) hz
      cases hl : c.logins with
      | nil => exact absurd hl hne
      | cons a rest => rfl
    · rfl
  have hskipped : Feeding n₀ (some i) (c.acceptLogin i response) := by
    constructor
    · intro j hj state n hl
      rw [acceptLogin_live_other (fun hij => hj (by rw [hij]))] at hl
      exact h.behind j hj state n hl
    · simpa [Client.acceptLogin, log] using h.sound
    · intro hz
      have hz' : c.nextSequenceNumber = 0 := hz
      omega
    · intro _ _
      simp [acceptLogin_logins]
    · rw [hfirst, acceptLogin_passed, acceptLogin_arrivals]
      exact h.merged
  apply hskipped.rejoin
  intro state n hl
  rw [acceptLogin_live hl]
  exact ⟨hle, fun _ => Nat.one_le_iff_ne_zero.mpr hzero⟩

/-- The first login of a client without a number: the feed starts there. -/
theorem Feeding.firstLogin (h : Feeding n₀ (some i) c) (hnext : c.nextSequenceNumber = 0)
    {response : LoginAcceptedPacket} (hzero : response.nextSequenceNumber ≠ 0) :
    Feeding n₀ none
      ((c.setNextSequenceNumber response.nextSequenceNumber).acceptLogin i response) := by
  let c' := (c.setNextSequenceNumber response.nextSequenceNumber).acceptLogin i response
  obtain ⟨hn₀, hlogins⟩ := h.unset hnext
  have hlogins' : c'.logins = [response.nextSequenceNumber] := by
    rw [acceptLogin_logins]
    simp [show (c.setNextSequenceNumber response.nextSequenceNumber).logins = c.logins from rfl,
      hlogins]
  have hm := h.merged
  rw [hnext] at hm
  have hpassed : c.passed = [] := by
    have := hm.numbers
    rw [Nat.zero_sub, List.range'_zero] at this
    exact List.map_eq_nil_iff.mp this
  have harrivals : c.arrivals = [] := by
    apply List.eq_nil_iff_forall_not_mem.mpr
    intro a ha
    exact absurd (hm.earlier a ha) (Nat.not_lt_zero _)
  have hskipped : Feeding n₀ (some i) c' := by
    constructor
    · intro j hj state n hl
      rw [acceptLogin_live_other (fun hij => hj (by rw [hij]))] at hl
      obtain ⟨hle, hone⟩ := h.behind j hj state n hl
      rw [hnext] at hle
      exact ⟨Nat.le_trans hle (Nat.zero_le _), hone⟩
    · simpa [c', Client.acceptLogin, log, setNextSequenceNumber] using h.sound
    · intro hz
      exact absurd hz hzero
    · intro _ _
      simp [hlogins']
    · have hfirst : c'.firstNumber n₀ = response.nextSequenceNumber := by
        simp [firstNumber, hn₀, hlogins']
      have hp : c'.passed = [] := (acceptLogin_passed _ i response).trans hpassed
      have ha : c'.arrivals = [] := (acceptLogin_arrivals _ i response).trans harrivals
      have hn : c'.nextSequenceNumber = response.nextSequenceNumber := rfl
      rw [hfirst, hp, ha, hn]
      constructor <;> simp
  apply hskipped.rejoin
  intro state n hl
  rw [acceptLogin_live hl]
  exact ⟨Nat.le_refl _, fun _ => Nat.one_le_iff_ne_zero.mpr hzero⟩

end

/-! ## Connecting -/

theorem live_of_tcp {c : Client} {i : Nat} {state : State} {n : Nat}
    (h : c.live i = some (state, n)) :
    ∃ conn t, c.connections[i]? = some conn ∧ conn.connection = some t ∧ t.state.state = state ∧
      conn.nextSequenceNumber = n := by
  cases hc : c.connections[i]? with
  | none => simp [live, hc] at h
  | some conn =>
    cases ht : conn.connection with
    | none => simp [live, hc, Connection.live, ht] at h
    | some t =>
      simp only [live, hc, Option.bind_some, Connection.live, ht] at h
      split at h
      · simp only [Option.some.injEq, Prod.mk.injEq] at h
        exact ⟨conn, t, rfl, ht, h.1, h.2⟩
      · cases h

section
variable {user : User} (hu : ∀ cb c, Quiet c (user cb c)) (faults : Faults) (i : Nat)
include hu

/-- Once it is connected, a connection asks for the client's own number. -/
theorem fed_connectSuccess {n₀ : Nat} {c : Client} (h : Fed n₀ none c) :
    Fed n₀ none (c.connectSuccess user faults i) := by
  let c₁ := c.updateTcp i (·.setState .connected)
  let c₂ := c₁.tcpCallback user i .connectSuccess
  have hcon : ∀ state n, c₂.live i = some (state, n) → state = .connected := by
    intro state n hl
    rcases (quiet_tcpCallback hu i .connectSuccess c₁).live i with hn | he
    · rw [show c₂.live i = none from hn] at hl
      cases hl
    · rw [show c₂.live i = c₁.live i from he] at hl
      obtain ⟨conn, t, hc, ht, hs, -⟩ := live_of_tcp hl
      simp only [c₁, updateTcp, getElem?_updateConnection, ↓reduceIte, Option.map_eq_some_iff] at hc
      obtain ⟨conn₀, -, rfl⟩ := hc
      simp only [Connection.updateTcp, Option.map_eq_some_iff] at ht
      obtain ⟨t₀, -, rfl⟩ := ht
      exact hs.symm
  have h₂ : Fed n₀ (some i) c₂ :=
    (quiet_tcpCallback hu i .connectSuccess c₁).fed ((h.skip i).updateSkipped _)
  have h₃ : Fed n₀ none (c₂.onConnectSuccess i).2 := by
    unfold onConnectSuccess
    split
    · rename_i hnone
      apply h₂.rejoin
      simp [live, hnone]
    · rename_i conn hconn
      apply (h₂.updateSkipped (·.setNextSequenceNumber c₂.nextSequenceNumber)).rejoin
      intro state n hl
      rw [live_updateConnection, if_pos rfl, hconn, Option.bind_some] at hl
      rw [live_number, Option.map_eq_some_iff] at hl
      obtain ⟨⟨state', m⟩, hl', heq⟩ := hl
      cases heq
      have hstate := hcon state' m (by rw [live, hconn]; exact hl')
      exact ⟨Nat.le_refl _, fun hlogged => by rw [hstate] at hlogged; cases hlogged⟩
  have h₄ := (quiet_tcpCallback hu i (.loggingIn (c₂.onConnectSuccess i).1) _).fed h₃
  have h₅ := (quiet_updateTcp _ i (f := (·.setLoginTimerStopped false))
    fun _ => Or.inl rfl).fed h₄
  have h₆ := ((quiet_loginTimer hu i _).start faults.loginTimer (.refl _)).fed h₅
  have h₇ := (quiet_updateTcp _ i (calm_socket Socket.asyncRead)).fed h₆
  exact (quiet_updateTcp _ i (calm_write _)).fed h₇

/-! ## Packets -/

omit hu in
@[simp] theorem arrivals_log_arrived (c : Client) (n : Nat) (data : Bytes) :
    (c.log (.arrived n data)).arrivals = c.arrivals ++ [(n, data)] := by
  simp [arrivals, log, Entry.arrived?]

theorem arrivals_notify {handlerSet : Bool} {cb : Callback} (c : Client) :
    (c.notify user handlerSet cb).arrivals = c.arrivals := by
  have hlog : (c.log (.called handlerSet cb)).arrivals = c.arrivals := by
    simp [arrivals, log, Entry.arrived?]
  unfold notify
  dsimp only
  split
  · rw [(hu _ _).arrivals, hlog]
  · exact hlog

/-- Whatever happens to it, the packet has arrived. -/
theorem arrivals_onSequencedData (c : Client) (n : Nat) (data : Bytes) :
    (c.onSequencedData user n data).arrivals = c.arrivals ++ [(n, data)] := by
  unfold onSequencedData
  dsimp only
  split
  · exact arrivals_log_arrived c n data
  · split
    · simp [arrivals, log, Entry.arrived?]
    · rw [arrivals_notify hu]
      exact arrivals_log_arrived c n data

omit hu in
/-- The packet is a repetition. -/
theorem Feeding.stale {n₀ n : Nat} {skip : Option Nat} {c : Client} (h : Feeding n₀ skip c)
    (hn : n < c.nextSequenceNumber) (data : Bytes) : Feeding n₀ skip (c.log (.arrived n data)) := by
  have hlogins : (c.log (.arrived n data)).logins = c.logins := by
    simp [logins, log, Entry.login?]
  have hpassed : (c.log (.arrived n data)).passed = c.passed := by
    simp [passed, log, Entry.passed?]
  constructor
  · exact h.behind
  · simpa [log] using h.sound
  · rw [hlogins]
    exact h.unset
  · rw [hlogins]
    exact h.set
  · rw [firstNumber, hlogins, hpassed, arrivals_log_arrived]
    exact h.merged.stale hn data

omit hu in
/-- The packet is the next one, and is passed on. -/
theorem Feeding.fresh {n₀ : Nat} {skip : Option Nat} {c : Client} (h : Feeding n₀ skip c)
    (hn : c.nextSequenceNumber ≠ 0) (handlerSet : Bool) (data : Bytes) :
    Feeding n₀ skip (((c.log (.arrived c.nextSequenceNumber data)).setNextSequenceNumber
      (c.nextSequenceNumber + 1)).log
        (.called handlerSet (.sequencedData c.nextSequenceNumber data))) := by
  let c' := ((c.log (.arrived c.nextSequenceNumber data)).setNextSequenceNumber
      (c.nextSequenceNumber + 1)).log
        (.called handlerSet (.sequencedData c.nextSequenceNumber data))
  have hlogins : c'.logins = c.logins := by
    simp [c', logins, log, setNextSequenceNumber, Entry.login?, List.filterMap_cons]
  have hpassed : c'.passed = c.passed ++ [(c.nextSequenceNumber, data)] := by
    simp [c', passed, log, setNextSequenceNumber, Entry.passed?, List.filterMap_cons]
  have harrivals : c'.arrivals = c.arrivals ++ [(c.nextSequenceNumber, data)] := by
    simp [c', arrivals, log, setNextSequenceNumber, Entry.arrived?, List.filterMap_cons]
  have hnext : c'.nextSequenceNumber = c.nextSequenceNumber + 1 := rfl
  change Feeding n₀ skip c'
  constructor
  · intro j hj state n hl
    obtain ⟨hle, hone⟩ := h.behind j hj state n hl
    exact ⟨hnext ▸ Nat.le_succ_of_le hle, hone⟩
  · simpa [c', log, setNextSequenceNumber] using h.sound
  · intro hz
    omega
  · rw [hlogins]
    intro _ hz
    exact h.set hn hz
  · rw [firstNumber, hlogins, hpassed, harrivals, hnext]
    exact h.merged.fresh data

omit hu in
theorem onSequencedData_stale {n : Nat} (c : Client) (hn : n < c.nextSequenceNumber) (data : Bytes) :
    c.onSequencedData user n data = c.log (.arrived n data) := by
  have hn' : n < (c.log (.arrived n data)).nextSequenceNumber := hn
  rw [onSequencedData, if_pos hn']

omit hu in
theorem onSequencedData_next (c : Client) (data : Bytes) :
    c.onSequencedData user c.nextSequenceNumber data =
      ((c.log (.arrived c.nextSequenceNumber data)).setNextSequenceNumber
        ((c.nextSequenceNumber + 1) % 2 ^ 64)).notify user c.handlerSet
          (.sequencedData c.nextSequenceNumber data) := by
  have hnext : (c.log (.arrived c.nextSequenceNumber data)).nextSequenceNumber =
      c.nextSequenceNumber := rfl
  rw [onSequencedData, hnext, if_neg (Nat.lt_irrefl _), if_neg (not_not.mpr rfl)]
  rfl

/-- A call of a handler is its entry in the trace, and then the user. -/
theorem quiet_called (handlerSet : Bool) (cb : Callback) (c : Client) :
    Quiet (c.log (.called handlerSet cb)) (c.notify user handlerSet cb) := by
  unfold notify
  dsimp only
  split
  · exact hu _ _
  · exact .refl _

theorem fed_connectionOnSequencedData {n₀ n : Nat} {c : Client} (h : Fed n₀ none c)
    (hl : c.live i = some (.loggedIn, n)) (data : Bytes) :
    Fed n₀ none (c.connectionOnSequencedData user i data) := by
  obtain ⟨conn, t, hc, ht, hs, rfl⟩ := live_of_tcp hl
  let c₁ := c.updateConnection i
    (·.setNextSequenceNumber ((conn.nextSequenceNumber + 1) % 2 ^ 64))
  have hrun : c.connectionOnSequencedData user i data =
      c₁.onSequencedData user conn.nextSequenceNumber data := by
    simp only [connectionOnSequencedData, hc, c₁]
  rw [hrun]
  have harr := arrivals_onSequencedData hu c₁ conn.nextSequenceNumber data
  rcases h with hf | ⟨a, ha, hmax⟩
  · by_cases hmax : 2 ^ 64 - 1 ≤ conn.nextSequenceNumber
    · exact Or.inr ⟨_, harr ▸ List.mem_append_right _ List.mem_cons_self, hmax⟩
    · obtain ⟨hle, hone⟩ := hf.behind i (by simp) _ _ hl
      have hone := hone rfl
      have hwrap : (conn.nextSequenceNumber + 1) % 2 ^ 64 = conn.nextSequenceNumber + 1 := by omega
      have h₁ : Feeding n₀ (some i) c₁ := (hf.skip i).updateSkipped _
      have hl₁ : c₁.live i = some (.loggedIn, conn.nextSequenceNumber + 1) := by
        rw [live, hc] at hl
        rw [live_updateConnection, if_pos rfl, hc, Option.bind_some, live_number,
          show conn.live = _ from hl, hwrap]
        rfl
      have hrejoin {c₂ : Client} (hq : c₂.live i = none ∨ c₂.live i = c₁.live i)
          (h₂ : Feeding n₀ (some i) c₂) (hle : conn.nextSequenceNumber + 1 ≤ c₂.nextSequenceNumber) :
          Feeding n₀ none c₂ := by
        apply h₂.rejoin
        intro state n hl₂
        rcases hq with hn | he
        · rw [hn] at hl₂
          cases hl₂
        · rw [he, hl₁] at hl₂
          cases hl₂
          exact ⟨hle, fun _ => Nat.le_add_left 1 _⟩
      left
      rcases Nat.lt_or_eq_of_le hle with hlt | heq
      · rw [onSequencedData_stale c₁ hlt]
        exact hrejoin (Or.inr rfl) (h₁.stale hlt data) hlt
      · have hnext : conn.nextSequenceNumber = c₁.nextSequenceNumber := heq
        have hnz : c₁.nextSequenceNumber ≠ 0 := by omega
        rw [← hnext] at hnz
        rw [hnext, onSequencedData_next, ← hnext, hwrap, hnext]
        have hq := quiet_called hu c₁.handlerSet (.sequencedData c₁.nextSequenceNumber data)
          ((c₁.log (.arrived c₁.nextSequenceNumber data)).setNextSequenceNumber
            (c₁.nextSequenceNumber + 1))
        apply hrejoin (hq.live i) (hq.feeding (h₁.fresh (hnext ▸ hnz) c₁.handlerSet data))
        rw [hq.next, hnext]
        exact Nat.le_refl _
  · exact Or.inr ⟨a, harr ▸ List.mem_append_left _ ha, hmax⟩

omit hu in
/-- A response is taken only with a number that the client has reached. -/
theorem fed_onLoginSuccess {n₀ : Nat} {c : Client} {conn : Connection}
    (h : (Feeding n₀ (some i) c ∧ conn.nextSequenceNumber ≤ c.nextSequenceNumber) ∨ c.Exhausted)
    (hc : c.connections[i]? = some conn) {response : LoginAcceptedPacket} (hzero : response.nextSequenceNumber ≠ 0) :
    ((c.onLoginSuccess i response).1 = .none ∧ Fed n₀ none (c.onLoginSuccess i response).2) ∨
      ((c.onLoginSuccess i response).1 ≠ .none ∧ (c.onLoginSuccess i response).2 = c) := by
  have exhausted {c' : Client} (he : c.Exhausted) (hs : c'.arrivals = c.arrivals) :
      Fed n₀ none c' := by
    right
    unfold Exhausted
    rw [hs]
    exact he
  unfold onLoginSuccess
  simp only [hc]
  split
  · exact Or.inr ⟨by simp, rfl⟩
  · split
    · split
      · exact Or.inr ⟨by simp, rfl⟩
      · split
        · exact Or.inr ⟨by simp, rfl⟩
        · -- the response has the number that was asked for
          refine Or.inl ⟨rfl, ?_⟩
          rcases h with ⟨hf, hle⟩ | he
          · exact Or.inl (hf.acceptLogin hzero (by omega))
          · exact exhausted he (acceptLogin_arrivals c i response)
    · split
      · rename_i hnext
        refine Or.inl ⟨rfl, ?_⟩
        rcases h with ⟨hf, -⟩ | he
        · exact Or.inl (hf.firstLogin hnext hzero)
        · exact exhausted he (acceptLogin_arrivals _ i response)
      · split
        · exact Or.inr ⟨by simp, rfl⟩
        · refine Or.inl ⟨rfl, ?_⟩
          rcases h with ⟨hf, -⟩ | he
          · exact Or.inl (hf.acceptLogin hzero (by omega))
          · exact exhausted he (acceptLogin_arrivals c i response)

omit hu in
/-- A `Tcp_connection` in state connected or logged in makes its connection live. -/
theorem live_of_state {c : Client} {state : State} (hs : (c.tcpState i).state = state)
    (hstate : state = .connected ∨ state = .loggedIn) :
    ∃ conn, c.connections[i]? = some conn ∧ c.live i = some (state, conn.nextSequenceNumber) := by
  cases hc : c.connections[i]? with
  | none =>
    simp only [tcpState, tcp?, hc, Option.bind_none, Option.map_none, Option.getD_none] at hs
    subst hs
    simp at hstate
  | some conn =>
    cases ht : conn.connection with
    | none =>
      simp only [tcpState, tcp?, hc, Option.bind_some, ht, Option.map_none, Option.getD_none] at hs
      subst hs
      simp at hstate
    | some t =>
      simp only [tcpState, tcp?, hc, Option.bind_some, ht, Option.map_some, Option.getD_some] at hs
      subst hs
      exact ⟨conn, rfl, by simp [live, hc, Connection.live, ht, hstate]⟩

theorem fed_processLoginAccepted {n₀ : Nat} {c : Client} (h : Fed n₀ none c) (data : Bytes) :
    Fed n₀ none (c.processLoginAccepted user faults i data).2 := by
  unfold processLoginAccepted
  split
  · exact h
  · split
    · exact h
    · rename_i hs
      obtain ⟨conn, hc, hl⟩ := live_of_state i (not_not.mp hs) (Or.inl rfl)
      dsimp only
      split
      · exact h
      · rename_i hzero
        let c₁ := c.updateTcp i fun t => (t.updateLoginTimer LoginTimer.stop).setState .loggedIn
        have h₁ : Fed n₀ (some i) c₁ := (h.skip i).updateSkipped _
        let conn₁ := conn.updateTcp fun t => (t.updateLoginTimer LoginTimer.stop).setState .loggedIn
        have hc₁ : c₁.connections[i]? = some conn₁ := by
          simp [c₁, conn₁, updateTcp, getElem?_updateConnection, hc]
        have h₁' : (Feeding n₀ (some i) c₁ ∧ conn₁.nextSequenceNumber ≤ c₁.nextSequenceNumber) ∨
            c₁.Exhausted :=
          h.imp_left fun hf =>
            ⟨(hf.skip i).updateSkipped _, (hf.behind i (by simp) _ _ hl).1⟩
        rcases fed_onLoginSuccess i h₁' hc₁ hzero with ⟨hr, h₂⟩ | ⟨hr, h₂⟩
        · rw [if_pos hr]
          have h₃ := (quiet_tcpCallback hu i (.loginSuccess (.read data)) _).fed h₂
          have h₄ := (quiet_updateTcp _ i (f := (·.setHeartbeatTimerStopped false))
            fun _ => Or.inl rfl).fed h₃
          exact ((quiet_heartbeatTimer hu i _).start _ _
            (·.trans (quiet_updateTcp _ i fun _ => Or.inl rfl)) (.refl _)).fed h₄
        · rw [if_neg hr, show (c₁.onLoginSuccess i (.read data)).2 = c₁ from h₂]
          apply (h₁.updateSkipped _).rejoin
          intro state n hl'
          rw [show (c₁.updateConnection i _).live i = _ from live_disconnect c₁ i _] at hl'
          cases hl'

theorem quiet_processLoginRejected (data : Bytes) (c : Client) :
    Quiet c (c.processLoginRejected user i data).2 := by
  unfold processLoginRejected
  split
  · exact .refl c
  · split
    · exact .refl c
    · have h₁ := quiet_updateTcp c i (f := (·.updateLoginTimer LoginTimer.stop)) fun _ => Or.inl rfl
      have h₂ := h₁.trans (quiet_tcpCallback hu i
        (.loginFailure (convert (LoginRejectedPacket.read data).reason)) _)
      exact h₂.trans (quiet_tcpDisconnect i .accessDenied _)

theorem quiet_onEndOfSession (c : Client) : Quiet c (c.connectionOnEndOfSession user i) := by
  unfold connectionOnEndOfSession
  split
  · exact .refl c
  · split
    · exact .refl c
    · have h₁ := quiet_updateConnection c i (f := Connection.setSessionEnded) fun _ => Or.inr rfl
      apply h₁.trans
      unfold onEndOfSession
      split
      · exact .refl _
      · have h₂ (c : Client) : Quiet c { c with hasSessionEnded := true } :=
          ⟨rfl, rfl, fun _ => Or.inr rfl⟩
        exact (h₂ _).trans (quiet_notify hu _ _ rfl)

theorem fed_processSequencedData {n₀ : Nat} {c : Client} (h : Fed n₀ none c) (data : Bytes) :
    Fed n₀ none (c.processSequencedData user i data).2 := by
  unfold processSequencedData
  split
  · exact h
  · rename_i hs
    split
    · exact h
    · obtain ⟨conn, -, hl⟩ := live_of_state i (not_not.mp hs) (Or.inr rfl)
      have hq := quiet_updateTcp c i
        (f := (·.updateHeartbeatTimer HeartbeatTimer.incrementReceiveCount)) fun _ => Or.inl rfl
      apply fed_connectionOnSequencedData hu i (hq.fed h)
      rw [← hl]
      exact live_updateTcp_same c i fun _ => rfl

theorem fed_processPacket {n₀ : Nat} {c : Client} (h : Fed n₀ none c) (packet : ReadPacket) :
    Fed n₀ none (c.processPacket user faults i packet).2 := by
  have hcount : Quiet c (c.updateTcp i
      (·.updateHeartbeatTimer HeartbeatTimer.incrementReceiveCount)) :=
    quiet_updateTcp c i fun _ => Or.inl rfl
  unfold processPacket
  dsimp only
  split
  · exact (quiet_tcpCallback hu i _ c).fed h
  · split
    · exact fed_processLoginAccepted hu faults i h _
    · split
      · exact (quiet_processLoginRejected hu i _ c).fed h
      · split
        · exact fed_processSequencedData hu i h _
        · split
          · unfold processServerHeartbeat
            split
            · exact h
            · split
              · exact h
              · exact hcount.fed h
          · split
            · unfold processEndOfSession
              split
              · exact h
              · split
                · exact h
                · exact (hcount.trans (quiet_onEndOfSession hu i _)).fed h
            · exact h

theorem fed_readSuccess {n₀ : Nat} {c : Client} (h : Fed n₀ none c) (packet : ReadPacket) :
    Fed n₀ none (c.readSuccess user faults i packet) := by
  have hp := fed_processPacket hu faults i h packet
  unfold readSuccess
  split
  · exact h
  · have hv : Fed n₀ none
        (if (c.processPacket user faults i packet).1 ≠ .none then
          (c.processPacket user faults i packet).2.handleProtocolViolation user i
            (c.processPacket user faults i packet).1
        else (c.processPacket user faults i packet).2) := by
      split
      · exact (quiet_handleProtocolViolation hu i _ _).fed hp
      · exact hp
    dsimp only
    revert hv
    generalize (if (c.processPacket user faults i packet).1 ≠ .none then
      (c.processPacket user faults i packet).2.handleProtocolViolation user i
        (c.processPacket user faults i packet).1
      else (c.processPacket user faults i packet).2) = c'
    intro hv
    split
    · exact hv
    · exact (quiet_updateTcp c' i (calm_socket Socket.asyncRead)).fed hv

theorem quiet_socket (c : Client) : (socketHandler user faults i).KeepsUnread (Quiet c) where
  update f _ c' h := h.trans (quiet_updateTcp c' i (calm_socket f))
  connectFailure ec c' h := h.trans (quiet_handleConnectFailure hu i ec _ c')
  readFailure ec c' h := h.trans (quiet_handleTransportError hu i ec _ c')
  readPacketFailure error c' h := h.trans (quiet_handleProtocolViolation hu i error c')
  readEndOfFile c' h := h.trans (quiet_tcpDisconnect i _ c')
  writeFailure ec c' h := h.trans (quiet_handleTransportError hu i ec _ c')
  writeSuccess _ _ h := h
  writeBufferEmpty c' h := h.trans (quiet_tcpCallback hu i _ c')

theorem fed_socket (n₀ : Nat) : (socketHandler user faults i).Keeps (Fed n₀ none) where
  update f _ c h := (quiet_updateTcp c i (calm_socket f)).fed h
  connectFailure ec c h := (quiet_handleConnectFailure hu i ec _ c).fed h
  connectSuccess _ h := fed_connectSuccess hu faults i h
  readFailure ec c h := (quiet_handleTransportError hu i ec _ c).fed h
  readPacketFailure error c h := (quiet_handleProtocolViolation hu i error c).fed h
  readSuccess packet _ h := fed_readSuccess hu faults i h packet
  readAborted c h := (quiet_tcpDisconnect i _ c).fed h
  readEndOfFile c h := (quiet_tcpDisconnect i _ c).fed h
  writeFailure ec c h := (quiet_handleTransportError hu i ec _ c).fed h
  writeSuccess _ _ h := h
  writeBufferEmpty c h := (quiet_tcpCallback hu i _ c).fed h

end

/-! ## The result -/

/-- Most events have nothing to do with the feed: they connect no socket and read nothing. -/
theorem quiet_handle (env : Env) {event : Event} (c : Client)
    (hconnect : ∀ i, event ≠ .connectCompleted i none)
    (hheader : ∀ i result, event ≠ .headerCompleted i result)
    (hpayload : ∀ i result, event ≠ .payloadCompleted i result) :
    Quiet c (c.handle env event) := by
  have hu := quiet_user env
  cases event with
  | call call => exact quiet_call hu env.faults call c
  | posted k =>
    simp only [handle]
    split
    · exact .refl c
    · have htaken : Quiet c { c with posted := c.posted.eraseIdx k } :=
        ⟨rfl, rfl, fun _ => Or.inr rfl⟩
      exact htaken.trans (quiet_runPosted hu env.faults env.added _ _)
  | connectCompleted i ec =>
    cases ec with
    | none => exact absurd rfl (hconnect i)
    | some ec =>
      exact (quiet_socket hu (env.faults i) i c).connectCompleted (some ec)
        (fun h => (by cases h)) (.refl c)
  | headerCompleted i result => exact absurd rfl (hheader i result)
  | payloadCompleted i result => exact absurd rfl (hpayload i result)
  | writeCompleted i result =>
    exact (quiet_socket hu (env.faults i) i c).writeCompleted result (.refl c)
  | socketClosed i =>
    have hnoted := quiet_updateTcp c i (f := TcpConnection.noteClosed) fun _ => Or.inl rfl
    exact hnoted.trans (quiet_maybeSignalClosed hu (env.faults i) i _)
  | loginTimerWait i ec => exact (quiet_loginTimer hu i c).waitCompleted ec (.refl c)
  | loginTimerStopped i =>
    have hnoted := quiet_updateTcp c i (f := TcpConnection.noteLoginTimerStopped)
      fun _ => Or.inl rfl
    exact hnoted.trans (quiet_maybeSignalClosed hu (env.faults i) i _)
  | heartbeatTimerWait i ec => exact (quiet_heartbeatTimer hu i c).waitCompleted ec _ (.refl c)
  | heartbeatTimerStopped i =>
    have hnoted := quiet_updateTcp c i (f := TcpConnection.noteHeartbeatTimerStopped)
      fun _ => Or.inl rfl
    exact hnoted.trans (quiet_maybeSignalClosed hu (env.faults i) i _)
  | reconnectTimerWait i epoch ec =>
    exact (quiet_reconnectTimer hu (env.faults i) i c).waitCompleted epoch ec (.refl c)

theorem fed_handle (env : Env) (event : Event) {n₀ : Nat} {c : Client} (h : Fed n₀ none c) :
    Fed n₀ none (c.handle env event) := by
  have hu := quiet_user env
  cases event with
  | connectCompleted i ec => exact (fed_socket hu (env.faults i) i n₀).connectCompleted ec h
  | headerCompleted i result => exact (fed_socket hu (env.faults i) i n₀).headerCompleted result h
  | payloadCompleted i result => exact (fed_socket hu (env.faults i) i n₀).payloadCompleted result h
  | _ => exact (quiet_handle env c (by simp) (by simp) (by simp)).fed h

/-- A client that has been set up and not been started. -/
structure Idle (c : Client) : Prop where
  started : c.started = false
  posted : c.posted = []
  trace : c.trace = []
  connections : ∀ conn ∈ c.connections, conn.connection = none ∧ conn.reconnectTimer = {}

theorem Idle.live {c : Client} (h : Idle c) (j : Nat) : c.live j = none := by
  cases hc : c.connections[j]? with
  | none => simp [Client.live, hc]
  | some conn =>
    have hnone := (h.connections conn (List.mem_of_getElem? hc)).1
    simp [Client.live, hc, Connection.live, hnone]

theorem Idle.feeding {c : Client} (h : Idle c) : Feeding c.nextSequenceNumber none c := by
  have hlogins : c.logins = [] := by simp [logins, h.trace]
  constructor
  · intro j _ state n hl
    rw [h.live] at hl
    cases hl
  · simp [h.trace]
  · exact fun hz => ⟨hz, hlogins⟩
  · exact fun hnz hz => absurd hz hnz
  · have hfirst : c.firstNumber c.nextSequenceNumber = c.nextSequenceNumber := by
      unfold firstNumber
      split
      · rename_i hz
        rw [hlogins, hz]
        rfl
      · rfl
    have hp : c.passed = [] := by simp [passed, h.trace]
    have ha : c.arrivals = [] := by simp [arrivals, h.trace]
    rw [hfirst, hp, ha]
    constructor <;> simp

/-- **The client merges its connections into one feed.** In every run in which
the highest sequence number does not arrive: the numbers passed to
`Client_handler::sequenced_data` are consecutive and start at the number that
was set before, or at that of the first login; each comes with the payload that
was first to arrive under it, every payload from the first number on has been
passed, and the assertion of `Client::on_sequenced_data` holds. -/
theorem feed_is_consecutive (c₀ : Client) (h₀ : Idle c₀) (inputs : List (Event × Env)) (c : Client)
    (hrun : system.Run c₀ inputs c) (hmax : ∀ a ∈ c.arrivals, a.1 < 2 ^ 64 - 1) :
    let first := if c₀.nextSequenceNumber = 0 then c.logins.headD 0 else c₀.nextSequenceNumber
    c.passed.map Prod.fst = List.range' first c.passed.length ∧
      (∀ p ∈ c.passed, c.arrivals.find? (·.1 = p.1) = some p) ∧
      (∀ a ∈ c.arrivals, first ≤ a.1 → a.1 ∈ c.passed.map Prod.fst) ∧
      Entry.assertionFailed ∉ c.trace := by
  have hfed : Fed c₀.nextSequenceNumber none c :=
    hrun.keeps (I := Fed c₀.nextSequenceNumber none)
      (fun input c _ h => fed_handle input.2 input.1 h) (Or.inl h₀.feeding)
  rcases hfed with hf | ⟨a, ha, hle⟩
  · have hm := hf.merged
    have hlen : c.passed.length = c.nextSequenceNumber - c.firstNumber c₀.nextSequenceNumber := by
      have := congrArg List.length hm.numbers
      simpa using this
    refine ⟨?_, hm.first, ?_, hf.sound⟩
    · rw [hlen]
      exact hm.numbers
    · intro a ha hfirst
      have hlt := hm.earlier a ha
      have hfirst : c.firstNumber c₀.nextSequenceNumber ≤ a.1 := hfirst
      rw [hm.numbers, List.mem_range'_1]
      omega
  · exact absurd (hmax a ha) (by omega)

/-- A client with one connection, and a run that ends with a packet in the feed. -/
def single : Client := { connections := [{ endpoint := 1 }] }

def receivesOne : List (Event × Env) :=
  [(.call .start, .plain), (.posted 0, .plain), (.connectCompleted 0 none, .plain),
    (.headerCompleted 0 (.ok [0, 31, 65]), .plain),
    (.payloadCompleted 0 (.ok (LoginAcceptedPacket.write ⟨[83], 1⟩)), .plain),
    (.headerCompleted 0 (.ok [0, 2, 83]), .plain), (.payloadCompleted 0 (.ok [7]), .plain)]

theorem feed_is_consecutive_one :
    let c := system.final single receivesOne
    c.passed = [(1, [7])] ∧ c.passed.map Prod.fst = List.range' 1 c.passed.length ∧
      (∀ p ∈ c.passed, c.arrivals.find? (·.1 = p.1) = some p) ∧
      (∀ a ∈ c.arrivals, 1 ≤ a.1 → a.1 ∈ c.passed.map Prod.fst) ∧
      Entry.assertionFailed ∉ c.trace :=
  ⟨by decide +kernel, feed_is_consecutive single ⟨rfl, rfl, rfl, by simp [single]⟩ receivesOne _
    (System.run_of_admits (by decide +kernel)) (by decide +kernel)⟩

end Client
end SoupBin.ClientSide
