import SoupBin.ClientSteps
import SoupBin.HandlerRelations

/-!
# Two users of a client

Two users are indistinguishable if they do the same whenever a callback reaches
them. What is known of the client at every callback is thus found by running it
for two users who differ only where that does not hold.
-/

namespace SoupBin.ClientSide

/-- The library changes a connection, but not what it has seen of the session. A
handler stays set, and a `Tcp_connection` that is made calls one that is `ok`. -/
structure Connection.Works (ok : Bool → Prop) (conn conn' : Connection) : Prop where
  handlerSet : conn.handlerSet = true → conn'.handlerSet = true
  hasSessionEnded : conn'.hasSessionEnded = conn.hasSessionEnded
  tcp : ∀ t', conn'.connection = some t' →
    ok t'.handlerSet ∨ ∃ t, conn.connection = some t ∧ t'.handlerSet = t.handlerSet

/-- The user changes it: nothing is started. -/
structure Connection.TakesCall (conn conn' : Connection) : Prop
    extends conn.Works (fun _ => False) conn' where
  reconnecting : conn'.reconnectTimer.started = true → conn.reconnectTimer.started = true

def TcpConnection.KeepsHandler (f : TcpConnection → TcpConnection) : Prop :=
  ∀ t, (f t).handlerSet = t.handlerSet

theorem Connection.works_updateTcp {ok : Bool → Prop} {f : TcpConnection → TcpConnection}
    (hf : TcpConnection.KeepsHandler f) (conn : Connection) : conn.Works ok (conn.updateTcp f) := by
  refine ⟨id, rfl, ?_⟩
  intro t' ht'
  obtain ⟨t, ht, rfl⟩ := Option.map_eq_some_iff.mp ht'
  exact Or.inr ⟨t, ht, hf t⟩

theorem Connection.works_same {ok : Bool → Prop} {conn conn' : Connection}
    (hh : conn'.handlerSet = conn.handlerSet) (he : conn'.hasSessionEnded = conn.hasSessionEnded)
    (ht : conn'.connection = conn.connection) : conn.Works ok conn' :=
  ⟨fun h => hh.trans h, he, fun t' ht' => Or.inr ⟨t', ht ▸ ht', rfl⟩⟩

theorem Connection.works_free {ok : Bool → Prop} (conn : Connection) :
    conn.Works ok (conn.setConnection none) := by
  refine ⟨id, rfl, ?_⟩
  rintro t' ⟨⟩

theorem Connection.works_setConnection {ok : Bool → Prop} {t : TcpConnection} (ht : ok t.handlerSet)
    (conn : Connection) : conn.Works ok (conn.setConnection (some t)) := by
  refine ⟨id, rfl, ?_⟩
  rintro t' ⟨⟩
  exact Or.inl ht

namespace TcpConnection

theorem keepsHandler_disconnect (reason : DisconnectReason) : KeepsHandler (·.disconnect reason) := by
  intro t
  unfold TcpConnection.disconnect
  dsimp only
  split <;> rfl

theorem keepsHandler_sendPacket (packet : WritePacket) :
    KeepsHandler fun t => (t.sendPacket packet).2 := by
  intro t
  dsimp only
  unfold TcpConnection.sendPacket
  split
  · rfl
  · dsimp only
    split <;> rfl

theorem keepsHandler_sendDebugPacket (text : Bytes) :
    KeepsHandler fun t => (t.sendDebugPacket text).2 := by
  intro t
  dsimp only
  unfold TcpConnection.sendDebugPacket
  split <;> rfl

end TcpConnection

namespace Connection
variable (conn : Connection)

theorem takesCall_refl : conn.TakesCall conn := ⟨works_same rfl rfl rfl, id⟩

theorem takesCall_sendWith {send : TcpConnection → WriteError × TcpConnection}
    (hs : TcpConnection.KeepsHandler fun t => (send t).2) : conn.TakesCall (conn.sendWith send).2 := by
  unfold sendWith
  split
  · exact conn.takesCall_refl
  · rename_i t ht
    refine ⟨⟨id, rfl, ?_⟩, id⟩
    rintro t' ⟨⟩
    exact Or.inr ⟨t, ht, hs t⟩

theorem takesCall_sendPacket (packet : WritePacket) : conn.TakesCall (conn.sendPacket packet).2 := by
  unfold Connection.sendPacket
  split
  · exact conn.takesCall_refl
  · exact conn.takesCall_sendWith (TcpConnection.keepsHandler_sendPacket packet)

theorem takesCall_sendMessage (data : Span) : conn.TakesCall (conn.sendMessage data).2 := by
  unfold sendMessage
  split
  · exact conn.takesCall_refl
  · cases data with
    | null size => exact conn.takesCall_refl
    | bytes data => exact conn.takesCall_sendPacket _

theorem takesCall_sendLogoutRequest : conn.TakesCall conn.sendLogoutRequest.2 :=
  conn.takesCall_sendWith (TcpConnection.keepsHandler_sendPacket _)

theorem takesCall_sendDebug (text : Bytes) : conn.TakesCall (conn.sendDebug text).2 := by
  unfold sendDebug
  split
  · exact conn.takesCall_refl
  · exact conn.takesCall_sendWith (TcpConnection.keepsHandler_sendDebugPacket text)

theorem takesCall_close : conn.TakesCall conn.close := by
  have hworks : conn.Works (fun _ => False) (conn.updateTcp (·.disconnect .userInitiated)) :=
    works_updateTcp (TcpConnection.keepsHandler_disconnect .userInitiated) conn
  refine ⟨⟨id, rfl, fun t' ht' => ?_⟩, nofun⟩
  exact hworks.tcp t' ht'

theorem takesCall_setHandler : conn.TakesCall conn.setHandler :=
  ⟨⟨fun _ => rfl, rfl, fun t' ht' => Or.inr ⟨t', ht', rfl⟩⟩, id⟩

theorem takesCall_setUsername (username : Bytes) : conn.TakesCall (conn.setUsername username).2 := by
  unfold setUsername
  split
  · exact conn.takesCall_refl
  · exact ⟨works_same rfl rfl rfl, id⟩

theorem takesCall_setPassword (password : Bytes) : conn.TakesCall (conn.setPassword password).2 := by
  unfold setPassword
  split
  · exact conn.takesCall_refl
  · exact ⟨works_same rfl rfl rfl, id⟩

theorem takesCall_setSession (session : Bytes) : conn.TakesCall (conn.setSession session).2 := by
  unfold setSession
  split
  · exact conn.takesCall_refl
  · exact ⟨works_same rfl rfl rfl, id⟩

end Connection

namespace Client

/-- The client serves both users alike, and `P` holds. -/
def Same (P : Client → Prop) (c d : Client) : Prop := d = c ∧ P c

theorem Same.mono {P Q : Client → Prop} (hPQ : ∀ c, P c → Q c) {c d : Client} (h : Same P c d) :
    Same Q c d := ⟨h.1, hPQ c h.2⟩

theorem Same.refl {P : Client → Prop} {c : Client} (h : P c) : Same P c c := ⟨rfl, h⟩

def Entry.isCall : Entry → Bool
  | .called _ _ => true
  | _ => false

/-- What the library does on behalf of the connection `i` sustains `P`, as long
as the handlers it calls are `ok`. -/
structure Sustains (ok : Bool → Prop) (i : Nat) (P : Client → Prop) : Prop where
  handler : ∀ {c}, P c → ok c.handlerSet
  owner : ∀ {c : Client} {conn}, P c → c.connections[i]? = some conn → ok conn.handlerSet
  tcp : ∀ {c : Client} {t}, P c → c.tcp? i = some t → ok t.handlerSet
  called : ∀ {c : Client} {handlerSet cb}, ok handlerSet → P c → P (c.log (.called handlerSet cb))
  log : ∀ {c : Client} {entry}, Entry.isCall entry = false → P c → P (c.log entry)
  connection : ∀ {c : Client} {f}, (∀ conn, c.connections[i]? = some conn → conn.Works ok (f conn)) →
    P c → P (c.updateConnection i f)
  next : ∀ {c : Client} n, P c → P (c.setNextSequenceNumber n)
  ended : ∀ {c : Client} {conn}, c.connections[i]? = some conn → P c →
    P { c.updateConnection i Connection.setSessionEnded with hasSessionEnded := true }

section
variable {ok : Bool → Prop} {i : Nat} {P : Client → Prop} (k : Sustains ok i P) {u v : User}
  (huv : ∀ cb {c d}, Same P c d → Same P (u cb c) (v cb d)) (faults : Faults) {c d : Client}

include k

theorem Sustains.updateTcp {f : TcpConnection → TcpConnection} (hf : TcpConnection.KeepsHandler f)
    (h : P c) : P (c.updateTcp i f) :=
  k.connection (fun conn _ => Connection.works_updateTcp hf conn) h

theorem same_updateTcp {f : TcpConnection → TcpConnection} (hf : TcpConnection.KeepsHandler f)
    (h : Same P c d) : Same P (c.updateTcp i f) (d.updateTcp i f) := by
  obtain ⟨rfl, hp⟩ := h
  exact .refl (k.updateTcp hf hp)

theorem same_tcpDisconnect (reason : DisconnectReason) (h : Same P c d) :
    Same P (c.tcpDisconnect i reason) (d.tcpDisconnect i reason) :=
  same_updateTcp k (TcpConnection.keepsHandler_disconnect reason) h

include huv

theorem same_notify {handlerSet : Bool} (hok : ok handlerSet) (cb : Callback) (h : Same P c d) :
    Same P (c.notify u handlerSet cb) (d.notify v handlerSet cb) := by
  obtain ⟨rfl, hp⟩ := h
  have hlogged : Same P (d.log (.called handlerSet cb)) (d.log (.called handlerSet cb)) :=
    .refl (k.called hok hp)
  unfold notify
  dsimp only
  split
  · exact huv cb hlogged
  · exact hlogged

/-! ## Connection -/

theorem same_connectionCallback (cb : ConnectionCallback) (h : Same P c d) :
    Same P (c.connectionCallback u i cb) (d.connectionCallback v i cb) := by
  obtain ⟨rfl, hp⟩ := h
  unfold connectionCallback
  split
  · exact .refl hp
  · rename_i conn hconn
    exact same_notify k huv (k.owner hp hconn) _ (.refl hp)

theorem same_emplace (h : Same P c d) :
    Same P (c.emplace u faults i) (d.emplace v faults i) := by
  obtain ⟨rfl, hp⟩ := h
  unfold emplace
  split
  · exact .refl hp
  · rename_i conn hconn
    have hok := k.owner hp hconn
    have hvacated : P ((d.updateConnection i (·.setConnection none)).log (.constructed i)) :=
      k.log rfl (k.connection (fun conn _ => conn.works_free) hp)
    have hconnecting := same_notify k huv hok (.connection i (.connecting conn.endpoint))
      (.refl hvacated)
    have hinstall {t : TcpConnection} (ht : t.handlerSet = conn.handlerSet) {c' d' : Client}
        (h : Same P c' d') : Same P (c'.updateConnection i (·.setConnection (some t)))
          (d'.updateConnection i (·.setConnection (some t))) := by
      obtain ⟨rfl, hp'⟩ := h
      exact .refl (k.connection (fun conn _ => conn.works_setConnection (ht ▸ hok)) hp')
    dsimp only
    cases faults.openSocket with
    | some ec =>
      exact hinstall (TcpConnection.keepsHandler_disconnect .connectFailure _)
        (same_notify k huv hok _ hconnecting)
    | none =>
      cases faults.setNoDelay with
      | some ec =>
        exact hinstall (TcpConnection.keepsHandler_disconnect .connectFailure _)
          (same_notify k huv hok _ hconnecting)
      | none => exact hinstall rfl hconnecting

theorem same_reconnectTimer :
    ReconnectTimer.Handler.Relates (reconnectTimerHandler u faults i)
      (reconnectTimerHandler v faults i) (Same P) where
  timer h := by
    obtain ⟨rfl, -⟩ := h
    rfl
  update f _ _ h := by
    obtain ⟨rfl, hp⟩ := h
    exact .refl (k.connection (fun _ _ => Connection.works_same rfl rfl rfl) hp)
  reconnectTimerError _ _ _ _ h := same_connectionCallback k huv _ h
  reconnectTimerExpired h := same_emplace k huv faults h

theorem same_scheduleReconnect (h : Same P c d) :
    Same P (c.scheduleReconnect u faults i) (d.scheduleReconnect v faults i) := by
  obtain ⟨rfl, hp⟩ := h
  have hdelay := k.connection (f := Connection.nextDelay)
    (fun _ _ => Connection.works_same rfl rfl rfl) hp
  apply (same_reconnectTimer k huv faults).start
  exact same_connectionCallback k huv _ (.refl hdelay)

omit huv

theorem same_onConnectSuccess (h : Same P c d) :
    (d.onConnectSuccess i).1 = (c.onConnectSuccess i).1 ∧
      Same P (c.onConnectSuccess i).2 (d.onConnectSuccess i).2 := by
  obtain ⟨rfl, hp⟩ := h
  refine ⟨rfl, .refl ?_⟩
  unfold onConnectSuccess
  split
  · exact hp
  · exact k.connection (fun _ _ => Connection.works_same rfl rfl rfl) hp

theorem Sustains.acceptLogin (response : LoginAcceptedPacket) (h : P c) :
    P (c.acceptLogin i response) :=
  k.log rfl (k.connection (fun _ _ => Connection.works_same rfl rfl rfl) h)

theorem same_onLoginSuccess (response : LoginAcceptedPacket) (h : Same P c d) :
    (d.onLoginSuccess i response).1 = (c.onLoginSuccess i response).1 ∧
      Same P (c.onLoginSuccess i response).2 (d.onLoginSuccess i response).2 := by
  obtain ⟨rfl, hp⟩ := h
  refine ⟨rfl, .refl ?_⟩
  unfold onLoginSuccess
  split
  · exact hp
  · split
    · exact hp
    · split
      · split
        · exact hp
        · split
          · exact hp
          · exact k.acceptLogin response hp
      · split
        · exact k.acceptLogin response (k.next _ hp)
        · split
          · exact hp
          · exact k.acceptLogin response hp

include huv

theorem same_onSequencedData (sequenceNumber : Nat) (data : Bytes) (h : Same P c d) :
    Same P (c.onSequencedData u sequenceNumber data) (d.onSequencedData v sequenceNumber data) := by
  obtain ⟨rfl, hp⟩ := h
  have harrived : P (d.log (.arrived sequenceNumber data)) := k.log rfl hp
  unfold onSequencedData
  dsimp only
  split
  · exact .refl harrived
  · split
    · exact .refl (k.log rfl harrived)
    · have hnext := k.next ((sequenceNumber + 1) % 2 ^ 64) harrived
      exact same_notify k huv (k.handler hnext) _ (.refl hnext)

theorem same_connectionOnSequencedData (data : Bytes) (h : Same P c d) :
    Same P (c.connectionOnSequencedData u i data) (d.connectionOnSequencedData v i data) := by
  obtain ⟨rfl, hp⟩ := h
  unfold connectionOnSequencedData
  split
  · exact .refl hp
  · apply same_onSequencedData k huv
    exact .refl (k.connection (fun _ _ => Connection.works_same rfl rfl rfl) hp)

/-- The flags of the connection and of the client are set before the user learns
of it. -/
theorem same_connectionOnEndOfSession (h : Same P c d) :
    Same P (c.connectionOnEndOfSession u i) (d.connectionOnEndOfSession v i) := by
  obtain ⟨rfl, hp⟩ := h
  unfold connectionOnEndOfSession
  split
  · exact .refl hp
  · rename_i hconn
    split
    · exact .refl hp
    · have hended := k.ended hconn hp
      unfold onEndOfSession
      split
      · rename_i hflag
        have heq : ({ d.updateConnection i Connection.setSessionEnded with
            hasSessionEnded := true } : Client) = d.updateConnection i Connection.setSessionEnded := by
          rw [← hflag]
        exact .refl (heq ▸ hended)
      · exact same_notify k huv (k.handler hended) _ (.refl hended)

theorem same_onClosed (reason : DisconnectReason) (h : Same P c d) :
    Same P (c.onClosed u faults i reason) (d.onClosed v faults i reason) := by
  obtain ⟨rfl, hp⟩ := h
  have hfreed : P ((d.updateConnection i (·.setConnection none)).log (.onClosed i)) :=
    k.log rfl (k.connection (fun conn _ => conn.works_free) hp)
  have htold := same_connectionCallback k huv (.disconnect reason) (.refl hfreed)
  unfold onClosed
  dsimp only
  rw [htold.1]
  split
  · exact .refl htold.2
  · split
    · exact .refl htold.2
    · exact same_scheduleReconnect k huv faults (.refl htold.2)

/-! ## Tcp_connection -/

theorem same_tcpCallback (cb : ConnectionCallback) (h : Same P c d) :
    Same P (c.tcpCallback u i cb) (d.tcpCallback v i cb) := by
  obtain ⟨rfl, hp⟩ := h
  unfold tcpCallback
  split
  · exact .refl hp
  · rename_i t ht
    exact same_notify k huv (k.tcp hp ht) _ (.refl hp)

theorem same_handleTransportError (ec : IoError) (operation : String) (h : Same P c d) :
    Same P (c.handleTransportError u i ec operation) (d.handleTransportError v i ec operation) :=
  same_tcpDisconnect k _ (same_tcpCallback k huv _ h)

theorem same_handleProtocolViolation (error : PacketError) (h : Same P c d) :
    Same P (c.handleProtocolViolation u i error) (d.handleProtocolViolation v i error) :=
  same_tcpDisconnect k _ (same_tcpCallback k huv _ h)

theorem same_loginTimer :
    LoginTimer.Handler.Relates (loginTimerHandler u i) (loginTimerHandler v i) (Same P) where
  timer h := by
    obtain ⟨rfl, -⟩ := h
    rfl
  update f _ _ h := same_updateTcp k (fun _ => rfl) h
  loginTimerError _ _ _ _ h := same_handleTransportError k huv _ _ h
  loginTimerExpired h := same_tcpDisconnect k _ h

theorem same_heartbeatTimer :
    HeartbeatTimer.Handler.Relates (heartbeatTimerHandler u i) (heartbeatTimerHandler v i)
      (Same P) where
  timer h := by
    obtain ⟨rfl, -⟩ := h
    rfl
  update f _ _ h := same_updateTcp k (fun _ => rfl) h
  heartbeatTimerError _ _ _ _ h := same_handleTransportError k huv _ _ h
  heartbeatSendDue h := same_updateTcp k (fun _ => rfl) h
  heartbeatReceiveTimeout h := same_tcpDisconnect k _ h

theorem same_connectSuccess (h : Same P c d) :
    Same P (c.connectSuccess u faults i) (d.connectSuccess v faults i) := by
  have h := same_updateTcp k (f := (·.setState .connected)) (fun _ => rfl) h
  have h := same_tcpCallback k huv .connectSuccess h
  obtain ⟨hrequest, h⟩ := same_onConnectSuccess k h
  unfold connectSuccess
  dsimp only
  rw [hrequest]
  refine same_updateTcp k (fun _ => rfl) (same_updateTcp k (fun _ => rfl) ?_)
  apply (same_loginTimer k huv).start
  exact same_updateTcp k (fun _ => rfl) (same_tcpCallback k huv _ h)

/-- Both users see the same error. -/
def SameResult (P : Client → Prop) (r r' : PacketError × Client) : Prop :=
  r'.1 = r.1 ∧ Same P r.2 r'.2

omit k huv in
theorem Same.result (error : PacketError) (h : Same P c d) :
    SameResult P (error, c) (error, d) := ⟨rfl, h⟩

theorem same_processLoginAccepted (data : Bytes) (h : Same P c d) :
    SameResult P (c.processLoginAccepted u faults i data)
      (d.processLoginAccepted v faults i data) := by
  obtain ⟨rfl, hp⟩ := h
  unfold processLoginAccepted
  split
  · exact Same.result _ (.refl hp)
  · split
    · exact Same.result _ (.refl hp)
    · dsimp only
      split
      · exact Same.result _ (.refl hp)
      · obtain ⟨hreason, h⟩ := same_onLoginSuccess k (LoginAcceptedPacket.read data)
          (same_updateTcp k (f := fun t => (t.updateLoginTimer LoginTimer.stop).setState .loggedIn)
            (fun _ => rfl) (.refl hp))
        split
        · apply Same.result
          apply (same_heartbeatTimer k huv).start
          exact same_updateTcp k (fun _ => rfl) (same_tcpCallback k huv _ h)
        · exact Same.result _ (same_tcpDisconnect k _ h)

theorem same_processLoginRejected (data : Bytes) (h : Same P c d) :
    SameResult P (c.processLoginRejected u i data) (d.processLoginRejected v i data) := by
  obtain ⟨rfl, hp⟩ := h
  unfold processLoginRejected
  split
  · exact Same.result _ (.refl hp)
  · split
    · exact Same.result _ (.refl hp)
    · apply Same.result
      apply same_tcpDisconnect k
      apply same_tcpCallback k huv
      exact same_updateTcp k (fun _ => rfl) (.refl hp)

theorem same_processSequencedData (data : Bytes) (h : Same P c d) :
    SameResult P (c.processSequencedData u i data) (d.processSequencedData v i data) := by
  obtain ⟨rfl, hp⟩ := h
  unfold processSequencedData
  split
  · exact Same.result _ (.refl hp)
  · split
    · exact Same.result _ (.refl hp)
    · apply Same.result
      apply same_connectionOnSequencedData k huv
      exact same_updateTcp k (fun _ => rfl) (.refl hp)

theorem same_processEndOfSession (size : Nat) (h : Same P c d) :
    SameResult P (c.processEndOfSession u i size) (d.processEndOfSession v i size) := by
  obtain ⟨rfl, hp⟩ := h
  unfold processEndOfSession
  split
  · exact Same.result _ (.refl hp)
  · split
    · exact Same.result _ (.refl hp)
    · apply Same.result
      apply same_connectionOnEndOfSession k huv
      exact same_updateTcp k (fun _ => rfl) (.refl hp)

omit huv in
theorem same_processServerHeartbeat (size : Nat) (h : Same P c d) :
    SameResult P (c.processServerHeartbeat i size) (d.processServerHeartbeat i size) := by
  obtain ⟨rfl, hp⟩ := h
  unfold processServerHeartbeat
  split
  · exact Same.result _ (.refl hp)
  · split
    · exact Same.result _ (.refl hp)
    · exact Same.result _ (same_updateTcp k (fun _ => rfl) (.refl hp))

theorem same_processPacket (packet : ReadPacket) (h : Same P c d) :
    SameResult P (c.processPacket u faults i packet) (d.processPacket v faults i packet) := by
  unfold processPacket
  dsimp only
  split
  · exact Same.result _ (same_tcpCallback k huv _ h)
  · split
    · exact same_processLoginAccepted k huv faults _ h
    · split
      · exact same_processLoginRejected k huv _ h
      · split
        · exact same_processSequencedData k huv _ h
        · split
          · exact same_processServerHeartbeat k _ h
          · split
            · exact same_processEndOfSession k huv _ h
            · exact Same.result _ h

omit huv in
/-- The end of `read_success`. -/
theorem same_readOn (h : Same P c d) :
    Same P
      (if (c.tcpState i).isClosing then c else c.updateTcp i (·.updateSocket Socket.asyncRead))
      (if (d.tcpState i).isClosing then d else d.updateTcp i (·.updateSocket Socket.asyncRead)) := by
  obtain ⟨rfl, hp⟩ := h
  split
  · exact .refl hp
  · exact same_updateTcp k (fun _ => rfl) (.refl hp)

theorem same_reported {r r' : PacketError × Client} (h : SameResult P r r') :
    Same P (if r.1 ≠ .none then r.2.handleProtocolViolation u i r.1 else r.2)
      (if r'.1 ≠ .none then r'.2.handleProtocolViolation v i r'.1 else r'.2) := by
  obtain ⟨herror, h⟩ := h
  rw [herror]
  split
  · exact same_handleProtocolViolation k huv _ h
  · exact h

theorem same_readSuccess (packet : ReadPacket) (h : Same P c d) :
    Same P (c.readSuccess u faults i packet) (d.readSuccess v faults i packet) := by
  obtain ⟨rfl, hp⟩ := h
  unfold readSuccess
  split
  · exact .refl hp
  · have hresult := same_processPacket k huv faults packet (.refl hp)
    exact same_readOn k (same_reported k huv hresult)

theorem same_socket :
    Socket.Handler.Relates (socketHandler u faults i) (socketHandler v faults i) (Same P) where
  socket h := by
    obtain ⟨rfl, -⟩ := h
    rfl
  update f _ _ h := same_updateTcp k (fun _ => rfl) h
  connectFailure _ _ _ h := same_tcpDisconnect k _ (same_tcpCallback k huv _ h)
  connectSuccess h := same_connectSuccess k huv faults h
  readFailure _ _ _ h := same_handleTransportError k huv _ _ h
  readPacketFailure _ _ _ h := same_handleProtocolViolation k huv _ h
  readSuccess packet _ _ h := same_readSuccess k huv faults packet h
  readAborted h := same_tcpDisconnect k _ h
  readEndOfFile h := same_tcpDisconnect k _ h
  writeFailure _ _ _ h := same_handleTransportError k huv _ _ h
  writeSuccess _ _ _ h := h
  writeBufferEmpty h := same_tcpCallback k huv _ h

theorem same_maybeSignalClosed (h : Same P c d) :
    Same P (c.maybeSignalClosed u faults i) (d.maybeSignalClosed v faults i) := by
  obtain ⟨rfl, hp⟩ := h
  unfold maybeSignalClosed
  split
  · exact .refl hp
  · split
    · exact same_onClosed k huv faults _ (.refl hp)
    · exact .refl hp

/-- A posted notification. -/
theorem same_noted {f : TcpConnection → TcpConnection} (hf : TcpConnection.KeepsHandler f)
    (h : Same P c d) :
    Same P ((c.updateTcp i f).maybeSignalClosed u faults i)
      ((d.updateTcp i f).maybeSignalClosed v faults i) :=
  same_maybeSignalClosed k huv faults (same_updateTcp k hf h)

theorem same_connect (h : Same P c d) : Same P (c.connect u faults i) (d.connect v faults i) := by
  obtain ⟨rfl, hp⟩ := h
  unfold connect
  split
  · exact .refl hp
  · have hlogged : P (d.log (.connectCalled i)) := k.log rfl hp
    dsimp only
    split
    · exact .refl hlogged
    · split
      · exact .refl hlogged
      · split
        · exact .refl hlogged
        · exact same_emplace k huv faults (.refl hlogged)

end

/-! ## Calls of the user -/

/-- What the user does, `connect` apart, leaves `P` as it is. -/
structure Tolerates (may : Call → Prop) (P : Client → Prop) : Prop where
  connection : ∀ {c : Client} {i f}, (∀ conn, Connection.TakesCall conn (f conn)) → P c →
    P (c.updateConnection i f)
  closed : ∀ {c : Client} {i reason}, P c → P (c.log (.closeReturned i reason))
  added : ∀ {c : Client} {endpoint handlerSet}, may (.addConnection endpoint handlerSet) → P c →
    P { c with connections := c.connections ++ [{ endpoint := endpoint, handlerSet := handlerSet }] }
  started : ∀ {c : Client}, c.handlerSet = true →
    (∀ conn ∈ c.connections, conn.handlerSet = true) → P c →
      P { c with posted := c.posted ++ [.start] }
  stopped : ∀ {c : Client}, P c → P { c with posted := c.posted ++ [.stop] }
  handled : ∀ {c : Client}, P c → P c.setHandler
  limited : ∀ {c : Client} {limit}, P c → P (c.setWritePacketsLimit limit)

section
variable {may : Call → Prop} {P : Client → Prop} (k : Tolerates may P) {c : Client}
include k

theorem Tolerates.connections {f : Connection → Connection}
    (hf : ∀ conn : Connection, conn.TakesCall (f conn))
    (h : P c) : P { c with connections := c.connections.map f } :=
  map_of_modify (P := fun l => P { c with connections := l })
    (fun n _ hl => k.connection (i := n) hf hl) c.connections h

theorem Tolerates.sendPacket (packet : WritePacket) (h : P c) : P (c.sendPacket packet).2 := by
  cases hended : c.hasSessionEnded with
  | true => simpa [Client.sendPacket, hended] using h
  | false =>
    rw [sendPacket_all packet hended]
    exact k.connections (fun conn => conn.takesCall_sendPacket packet) h

theorem Tolerates.run (user : User) (faults : Nat → Faults) {call : Call} (hcall : may call)
    (hconnect : ∀ i, call ≠ .connect i) (h : P c) : P (call.run user faults c) := by
  cases call with
  | connect i => exact absurd rfl (hconnect i)
  | close i => exact k.closed (k.connection (fun conn => conn.takesCall_close) h)
  | sendMessage i data => exact k.connection (fun conn => conn.takesCall_sendMessage data) h
  | sendLogoutRequest i => exact k.connection (fun conn => conn.takesCall_sendLogoutRequest) h
  | sendDebug i text => exact k.connection (fun conn => conn.takesCall_sendDebug text) h
  | setConnectionHandler i => exact k.connection (fun conn => conn.takesCall_setHandler) h
  | setUsername i username => exact k.connection (fun conn => conn.takesCall_setUsername username) h
  | setPassword i password => exact k.connection (fun conn => conn.takesCall_setPassword password) h
  | setSession i session => exact k.connection (fun conn => conn.takesCall_setSession session) h
  | start =>
    simp only [Call.run, Client.start]
    split
    · exact h
    · rename_i hset
      split
      · exact h
      · rename_i hall
        exact k.started (by simpa using hset) (by simpa using hall) h
  | stop => exact k.stopped h
  | sendMessageToAll data =>
    simp only [Call.run, Client.sendMessage]
    split
    · exact h
    · cases data with
      | null size => exact h
      | bytes data => exact k.sendPacket _ h
  | sendLogoutRequestToAll => exact k.connections (fun conn => conn.takesCall_sendLogoutRequest) h
  | sendDebugToAll text => exact k.connections (fun conn => conn.takesCall_sendDebug text) h
  | setHandler => exact k.handled h
  | setWritePacketsLimit limit => exact k.limited h
  | addConnection endpoint handlerSet =>
    simp only [Call.run, Client.addConnection]
    split
    · exact h
    · exact k.added hcall h

end

theorem same_foldl {α : Type} {P : Client → Prop} {f g : Client → α → Client} (l : List α)
    (hstep : ∀ a ∈ l, ∀ {c d}, Same P c d → Same P (f c a) (g d a)) {c d : Client}
    (h : Same P c d) : Same P (l.foldl f c) (l.foldl g d) := by
  induction l generalizing c d with
  | nil => exact h
  | cons a l ih =>
    exact ih (fun b hb => hstep b (List.mem_cons_of_mem a hb)) (hstep a List.mem_cons_self h)

/-- A call other than `connect` does not reach the user. -/
theorem run_user (u v : User) (faults : Nat → Faults) {call : Call}
    (hconnect : ∀ i, call ≠ .connect i) (c : Client) :
    call.run v faults c = call.run u faults c := by
  cases call with
  | connect i => exact absurd rfl (hconnect i)
  | _ => rfl

theorem same_call {may : Call → Prop} {P : Client → Prop} (k : Tolerates may P) {u v : User}
    {faults : Nat → Faults}
    (hconnects : ∀ i, may (.connect i) → ∀ {c d}, Same P c d →
      Same P (c.connect u (faults i) i) (d.connect v (faults i) i))
    {call : Call} (hcall : may call) {c d : Client} (h : Same P c d) :
    Same P (call.run u faults c) (call.run v faults d) := by
  by_cases hconnect : ∃ i, call = .connect i
  · obtain ⟨i, rfl⟩ := hconnect
    exact hconnects i hcall h
  · have hconnect : ∀ i, call ≠ .connect i := fun i hi => hconnect ⟨i, hi⟩
    obtain ⟨rfl, hp⟩ := h
    rw [run_user u v faults hconnect]
    exact .refl (k.run u faults hcall hconnect hp)

/-! ## Events -/

/-- `handle`, with any user. -/
def handleAs (user : User) (env : Env) (event : Event) (c : Client) : Client :=
  let faults := env.faults
  match event with
  | .call call => call.run user faults c
  | .posted k =>
    match c.posted[k]? with
    | none => c
    | some posted =>
      runPosted user faults env.added posted { c with posted := c.posted.eraseIdx k }
  | .connectCompleted i ec => (socketHandler user (faults i) i).connectCompleted ec c
  | .headerCompleted i result => (socketHandler user (faults i) i).headerCompleted result c
  | .payloadCompleted i result => (socketHandler user (faults i) i).payloadCompleted result c
  | .writeCompleted i result => (socketHandler user (faults i) i).writeCompleted result c
  | .socketClosed i => c.closed user (faults i) i
  | .loginTimerWait i ec => (loginTimerHandler user i).waitCompleted ec c
  | .loginTimerStopped i => c.loginTimerStopped user (faults i) i
  | .heartbeatTimerWait i ec =>
    (heartbeatTimerHandler user i).waitCompleted ec (faults i).heartbeatSchedule c
  | .heartbeatTimerStopped i => c.heartbeatTimerStopped user (faults i) i
  | .reconnectTimerWait i epoch ec =>
    (reconnectTimerHandler user (faults i) i).waitCompleted epoch ec c

theorem handle_eq (env : Env) (event : Event) (c : Client) :
    c.handle env event = c.handleAs env.user env event := rfl

end Client

/-- The connection whose operation, timer or notification it is. -/
def Event.of : Event → Option Nat
  | .call _ | .posted _ => none
  | .connectCompleted i _ | .headerCompleted i _ | .payloadCompleted i _ | .writeCompleted i _
  | .socketClosed i | .loginTimerWait i _ | .loginTimerStopped i | .heartbeatTimerWait i _
  | .heartbeatTimerStopped i | .reconnectTimerWait i _ _ => some i

namespace Client

section
variable {ok : Bool → Prop} {P : Client → Prop} {u v : User}
  (huv : ∀ cb {c d}, Same P c d → Same P (u cb c) (v cb d)) {env : Env} {c d : Client}
include huv

theorem same_completed {i : Nat} (k : Sustains ok i P) {event : Event} (hi : event.of = some i)
    (h : Same P c d) : Same P (c.handleAs u env event) (d.handleAs v env event) := by
  cases event <;> cases hi
  case connectCompleted ec => exact (same_socket k huv _).connectCompleted ec h
  case headerCompleted result => exact (same_socket k huv _).headerCompleted result h
  case payloadCompleted result => exact (same_socket k huv _).payloadCompleted result h
  case writeCompleted result => exact (same_socket k huv _).writeCompleted result h
  case socketClosed => exact same_noted k huv _ (fun _ => rfl) h
  case loginTimerWait ec => exact (same_loginTimer k huv).waitCompleted ec h
  case loginTimerStopped => exact same_noted k huv _ (fun _ => rfl) h
  case heartbeatTimerWait ec => exact (same_heartbeatTimer k huv).waitCompleted ec _ h
  case heartbeatTimerStopped => exact same_noted k huv _ (fun _ => rfl) h
  case reconnectTimerWait epoch ec => exact (same_reconnectTimer k huv _).waitCompleted epoch ec h

end

/-- The loop of a posted `start`. -/
theorem same_connectFrom {P : Client → Prop} {u v : User} {faults : Nat → Faults}
    (hconnects : ∀ i {c d}, Same P c d →
      Same P (c.connect u (faults i) i) (d.connect v (faults i) i))
    (more i : Nat) {c d : Client} (h : Same P c d) :
    Same P (connectFrom u faults more i c) (connectFrom v faults more i d) := by
  induction more generalizing i c d with
  | zero => exact h
  | succ more ih => exact ih (i + 1) (hconnects i h)

/-- A posted `start` or `stop`. -/
theorem same_runPosted {may : Call → Prop} {P : Client → Prop} (k : Tolerates may P) {u v : User}
    {faults : Nat → Faults} {posted : Posted}
    (hset : ∀ {c : Client} started, P c → P { c with started := started })
    (hconnects : posted = .start → ∀ i {c d}, Same P c d →
      Same P (c.connect u (faults i) i) (d.connect v (faults i) i))
    (added : Nat) {c d : Client} (h : Same P c d) :
    Same P (runPosted u faults added posted c) (runPosted v faults added posted d) := by
  obtain ⟨rfl, hp⟩ := h
  cases posted with
  | start =>
    unfold runPosted
    dsimp only
    split
    · exact .refl hp
    · exact same_connectFrom (hconnects rfl) _ _ (.refl (hset true hp))
  | stop =>
    unfold runPosted
    dsimp only
    split
    · exact .refl hp
    · exact .refl (k.connections (fun conn => conn.takesCall_close) (hset false hp))

end Client
end SoupBin.ClientSide
