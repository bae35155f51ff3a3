import SoupBin.ClientFeed
import SoupBin.ClientStages
import SoupBin.SocketOwners

/-!
# The sockets of a client

A connection of the client makes a socket each time it connects, and is its owner
until it is gone. Every run of the client takes each of these sockets through a run
of its own.
-/

namespace SoupBin.ClientSide
open Socket (Uses Does Mirrors Sees Completion)

/-- The packets that a call offers satisfy `P`. -/
def Call.Offers (P : WritePacket → Prop) : Call → Prop
  | .sendMessage _ (.bytes data) | .sendMessageToAll (.bytes data) =>
    P (.ofData UnsequencedDataPacket.packetType data)
  | .sendDebug _ text | .sendDebugToAll text => P (.ofData DebugPacket.packetType text)
  | _ => True

/-- So do the packets of the library. -/
structure Allows (P : WritePacket → Prop) : Prop where
  heartbeat : P (.ofType ClientHeartbeatPacket.packetType)
  logout : P (.ofType LogoutRequestPacket.packetType)
  request : ∀ request : LoginRequestPacket, P ((WritePacket.ofSize LoginRequestPacket.packetType
    LoginRequestPacket.payloadSize).writePayload request.write)

variable {P : WritePacket → Prop}

/-! ## Tcp_connection -/

namespace TcpConnection
variable (t : TcpConnection)

theorem uses_disconnect (reason : DisconnectReason) :
    Uses P t.socket (t.disconnect reason).socket := by
  unfold TcpConnection.disconnect
  dsimp only
  split
  · exact .close .refl
  · exact .refl

theorem uses_write {packet : WritePacket} (hp : P packet) :
    Uses P t.socket (t.writeBestEffort packet).socket := .write packet hp .refl

theorem uses_sendPacket {packet : WritePacket} (hp : P packet) :
    Uses P t.socket (t.sendPacket packet).2.socket := by
  unfold TcpConnection.sendPacket
  split
  · exact .refl
  · dsimp only
    split <;> exact .write packet hp .refl

theorem uses_sendDebugPacket {text : Bytes} (hp : P (.ofData DebugPacket.packetType text)) :
    Uses P t.socket (t.sendDebugPacket text).2.socket := by
  unfold TcpConnection.sendDebugPacket
  split
  · exact .refl
  · exact .write _ hp .refl

end TcpConnection

/-! ## Connection -/

namespace Connection

/-- The slot holds what it held, or nothing if it held nothing. -/
structure Drives (P : WritePacket → Prop) (conn conn' : Connection) : Prop where
  vacant : conn.connection = none → conn'.connection = none
  engaged : ∀ t, conn.connection = some t →
    ∃ u, conn'.connection = some u ∧ Uses P t.socket u.socket

variable (conn : Connection)

theorem drives_same {conn' : Connection} (h : conn'.connection = conn.connection) :
    Drives P conn conn' :=
  ⟨fun hnone => h.trans hnone, fun t ht => ⟨t, h.trans ht, .refl⟩⟩

theorem drives_updateTcp {f : TcpConnection → TcpConnection}
    (hf : ∀ t, Uses P t.socket (f t).socket) : Drives P conn (conn.updateTcp f) := by
  constructor
  · intro hnone
    simp [Connection.updateTcp, hnone]
  · intro t ht
    exact ⟨f t, by simp [Connection.updateTcp, ht], hf t⟩

theorem drives_sendWith {send : TcpConnection → WriteError × TcpConnection}
    (hsend : ∀ t, Uses P t.socket (send t).2.socket) : Drives P conn (conn.sendWith send).2 := by
  unfold Connection.sendWith
  split
  · exact drives_same conn rfl
  · rename_i t ht
    refine ⟨fun hnone => ?_, fun u hu => ?_⟩
    · cases ht.symm.trans hnone
    · cases ht.symm.trans hu
      exact ⟨_, rfl, hsend t⟩

theorem drives_sendPacket {packet : WritePacket} (hp : P packet) :
    Drives P conn (conn.sendPacket packet).2 := by
  unfold Connection.sendPacket
  split
  · exact drives_same conn rfl
  · exact drives_sendWith conn fun t => t.uses_sendPacket hp

theorem drives_sendMessage {data : Span}
    (hp : ∀ bytes, data = .bytes bytes → P (.ofData UnsequencedDataPacket.packetType bytes)) :
    Drives P conn (conn.sendMessage data).2 := by
  unfold Connection.sendMessage
  split
  · exact drives_same conn rfl
  · cases data with
    | null size => exact drives_same conn rfl
    | bytes bytes => exact drives_sendPacket conn (hp bytes rfl)

theorem drives_sendLogoutRequest (hP : Allows P) : Drives P conn conn.sendLogoutRequest.2 :=
  drives_sendWith conn fun t => t.uses_sendPacket hP.logout

theorem drives_sendDebug {text : Bytes} (hp : P (.ofData DebugPacket.packetType text)) :
    Drives P conn (conn.sendDebug text).2 := by
  unfold Connection.sendDebug
  split
  · exact drives_same conn rfl
  · exact drives_sendWith conn fun t => t.uses_sendDebugPacket hp

theorem drives_close : Drives P conn conn.close := by
  have hclosed : Drives P conn (conn.updateTcp TcpConnection.close) :=
    drives_updateTcp conn fun t => t.uses_disconnect .userInitiated
  exact ⟨hclosed.vacant, hclosed.engaged⟩

end Connection

namespace Client

/-! ## What is done to a socket from inside callbacks -/

/-- How often the connection `i` has made a socket. -/
def made (i : Nat) (c : Client) : Nat := c.trace.count (.constructed i)

/-- A socket that has just been made: it is being connected, unless it could not be. -/
def Begun (P : WritePacket → Prop) (v : Socket) : Prop :=
  ∃ isOpen limit, Uses P (Socket.fresh isOpen limit) v ∨
    Uses P (Socket.fresh isOpen limit).asyncConnect v

/-- While the connection `i` is there, it keeps its socket. Once it is gone, it may
have another one. -/
structure KeepsSocket (P : WritePacket → Prop) (i : Nat) (c c' : Client) : Prop where
  engaged : ∀ t, c.tcp? i = some t → c'.made i = c.made i ∧
    ∃ u, c'.tcp? i = some u ∧ Uses P t.socket u.socket
  vacant : c.tcp? i = none → c'.made i = c.made i ∧ c'.tcp? i = none ∨
    c.made i < c'.made i ∧ ∀ u, c'.tcp? i = some u → Begun P u.socket

variable {i : Nat} {c c' c'' : Client}

theorem Begun.uses {u v : Socket} (h : Begun P u) (hu : Uses P u v) : Begun P v := by
  obtain ⟨isOpen, limit, h | h⟩ := h
  · exact ⟨isOpen, limit, Or.inl (h.trans hu)⟩
  · exact ⟨isOpen, limit, Or.inr (h.trans hu)⟩

theorem KeepsSocket.made_le (h : KeepsSocket P i c c') : c.made i ≤ c'.made i := by
  cases ht : c.tcp? i with
  | some t => exact Nat.le_of_eq (h.engaged t ht).1.symm
  | none =>
    rcases h.vacant ht with ⟨heq, -⟩ | ⟨hlt, -⟩
    · exact Nat.le_of_eq heq.symm
    · exact Nat.le_of_lt hlt

theorem keepsSocket_same (hc : c'.tcp? i = c.tcp? i) (hm : c'.made i = c.made i) :
    KeepsSocket P i c c' :=
  ⟨fun t ht => ⟨hm, t, hc.trans ht, .refl⟩, fun hnone => Or.inl ⟨hm, hc.trans hnone⟩⟩

theorem KeepsSocket.refl (c : Client) : KeepsSocket P i c c := keepsSocket_same rfl rfl

/-- A socket that has just been made is used. -/
theorem KeepsSocket.begun (h : KeepsSocket P i c c')
    (hb : ∀ u, c.tcp? i = some u → Begun P u.socket) :
    (c.made i < c'.made i ∨ c'.made i = c.made i) ∧ ∀ u, c'.tcp? i = some u → Begun P u.socket := by
  cases ht : c.tcp? i with
  | some t =>
    obtain ⟨hm, u, hu, huses⟩ := h.engaged t ht
    refine ⟨Or.inr hm, fun v hv => ?_⟩
    cases hu.symm.trans hv
    exact (hb t ht).uses huses
  | none =>
    rcases h.vacant ht with ⟨hm, hnone⟩ | ⟨hlt, hbegun⟩
    · refine ⟨Or.inr hm, fun v hv => ?_⟩
      cases hnone.symm.trans hv
    · exact ⟨Or.inl hlt, hbegun⟩

theorem KeepsSocket.trans (h : KeepsSocket P i c c') (h' : KeepsSocket P i c' c'') :
    KeepsSocket P i c c'' := by
  constructor
  · intro t ht
    obtain ⟨hm, u, hu, huses⟩ := h.engaged t ht
    obtain ⟨hm', v, hv, huses'⟩ := h'.engaged u hu
    exact ⟨hm'.trans hm, v, hv, huses.trans huses'⟩
  · intro hnone
    rcases h.vacant hnone with ⟨hm, hnone'⟩ | ⟨hlt, hbegun⟩
    · rcases h'.vacant hnone' with ⟨hm', hnone''⟩ | ⟨hlt', hbegun'⟩
      · exact Or.inl ⟨hm'.trans hm, hnone''⟩
      · exact Or.inr ⟨hm ▸ hlt', hbegun'⟩
    · exact Or.inr ⟨Nat.lt_of_lt_of_le hlt h'.made_le, (h'.begun hbegun).2⟩

theorem keepsSocket_log {entry : Entry} (he : entry ≠ .constructed i) (c : Client) :
    KeepsSocket P i c (c.log entry) := by
  refine keepsSocket_same rfl ?_
  simp only [made, log, List.count_append, List.count_singleton]
  rw [if_neg (by simpa using he), Nat.add_zero]

/-- Every connection drives its socket, or is as it was. -/
theorem keepsSocket_each {f : Nat → Connection → Connection}
    (hc : ∀ j, c'.connections[j]? = (c.connections[j]?).map (f j)) (hm : c'.trace = c.trace)
    (hf : ∀ conn : Connection, conn.Drives P (f i conn)) : KeepsSocket P i c c' := by
  have hmade : c'.made i = c.made i := by rw [made, hm, made]
  have htcp : c'.tcp? i = (c.connections[i]?.map (f i)).bind (·.connection) := by rw [tcp?, hc i]
  cases hconn : c.connections[i]? with
  | none => exact keepsSocket_same (by rw [htcp, hconn, tcp?, hconn]; rfl) hmade
  | some conn =>
    have hslot : c.tcp? i = conn.connection := by rw [tcp?, hconn]; rfl
    have hslot' : c'.tcp? i = (f i conn).connection := by rw [htcp, hconn]; rfl
    constructor
    · intro t ht
      obtain ⟨u, hu, huses⟩ := (hf conn).engaged t (hslot.symm.trans ht)
      exact ⟨hmade, u, hslot'.trans hu, huses⟩
    · intro hnone
      exact Or.inl ⟨hmade, hslot'.trans ((hf conn).vacant (hslot.symm.trans hnone))⟩

theorem keepsSocket_updateConnection {f : Connection → Connection} (j : Nat) (c : Client)
    (hf : ∀ conn : Connection, conn.Drives P (f conn)) :
    KeepsSocket P i c (c.updateConnection j f) := by
  refine keepsSocket_each (f := fun n => if j = n then f else id) (fun n => ?_) rfl fun conn => ?_
  · rw [getElem?_updateConnection]
    split <;> simp
  · by_cases hj : j = i
    · simpa [hj] using hf conn
    · simpa [hj] using conn.drives_same rfl

theorem keepsSocket_other {f : Connection → Connection} {j : Nat} (hj : j ≠ i) (c : Client) :
    KeepsSocket P i c (c.updateConnection j f) := by
  refine keepsSocket_same ?_ rfl
  rw [tcp?_updateConnection, if_neg hj]

theorem keepsSocket_map {f : Connection → Connection} (c : Client)
    (hf : ∀ conn : Connection, conn.Drives P (f conn)) :
    KeepsSocket P i c { c with connections := c.connections.map f } :=
  keepsSocket_each (f := fun _ => f) (fun _ => List.getElem?_map) rfl hf

theorem keepsSocket_updateTcp {f : TcpConnection → TcpConnection} (j : Nat) (c : Client)
    (hf : ∀ t, Uses P t.socket (f t).socket) : KeepsSocket P i c (c.updateTcp j f) :=
  keepsSocket_updateConnection j c fun conn => conn.drives_updateTcp hf

/-- Only timers and flags change. -/
theorem keepsSocket_aside {f : TcpConnection → TcpConnection} (j : Nat) (c : Client)
    (hf : ∀ t, (f t).socket = t.socket) : KeepsSocket P i c (c.updateTcp j f) :=
  keepsSocket_updateTcp j c fun t => (hf t).symm ▸ .refl

/-! ## Functions -/

/-- The socket of the connection `i` is `D`-related to the one that it had, or has been
made meanwhile. -/
def Grown (P : WritePacket → Prop) (D : Socket → Socket → Prop) (i : Nat) (c c' : Client) : Prop :=
  c'.made i = c.made i ∧ (∀ u, c'.tcp? i = some u → ∃ t, c.tcp? i = some t ∧ D t.socket u.socket) ∨
    c.made i < c'.made i ∧ ∀ u, c'.tcp? i = some u → Begun P u.socket

/-- The connection `i` is there, and has made `n` sockets. -/
def There (i n : Nat) (c : Client) : Prop := (c.tcp? i).isSome = true ∧ c.made i = n

/-- What is done to a socket from inside callbacks may come after `D`. -/
def Lasting (P : WritePacket → Prop) (D : Socket → Socket → Prop) : Prop :=
  ∀ ⦃s u v⦄, D s u → Uses P u v → D s v

variable {D : Socket → Socket → Prop}

theorem Grown.made_le (h : Grown P D i c c') : c.made i ≤ c'.made i := by
  rcases h with ⟨hm, -⟩ | ⟨hlt, -⟩
  · exact Nat.le_of_eq hm.symm
  · exact Nat.le_of_lt hlt

theorem Grown.keepsSocket (hD : Lasting P D) (h : Grown P D i c c') (hk : KeepsSocket P i c' c'') :
    Grown P D i c c'' := by
  rcases h with ⟨hm, hsocket⟩ | ⟨hlt, hbegun⟩
  · cases ht : c'.tcp? i with
    | some t =>
      obtain ⟨hm', u, hu, huses⟩ := hk.engaged t ht
      refine Or.inl ⟨hm'.trans hm, fun v hv => ?_⟩
      cases hu.symm.trans hv
      obtain ⟨s, hs, hd⟩ := hsocket t ht
      exact ⟨s, hs, hD hd huses⟩
    | none =>
      rcases hk.vacant ht with ⟨hm', hnone⟩ | ⟨hlt, hbegun⟩
      · refine Or.inl ⟨hm'.trans hm, fun v hv => ?_⟩
        cases hnone.symm.trans hv
      · exact Or.inr ⟨hm ▸ hlt, hbegun⟩
  · exact Or.inr ⟨Nat.lt_of_lt_of_le hlt hk.made_le, (hk.begun hbegun).2⟩

section
variable {user : User} (hu : ∀ cb c, KeepsSocket P i c (user cb c)) (hP : Allows P)
  (faults : Faults)
include hu

theorem keepsSocket_notify (handlerSet : Bool) (cb : Callback) (c : Client) :
    KeepsSocket P i c (c.notify user handlerSet cb) := by
  have hlogged : KeepsSocket P i c (c.log (.called handlerSet cb)) := keepsSocket_log (by simp) c
  unfold notify
  dsimp only
  split
  · exact hlogged.trans (hu cb _)
  · exact hlogged

theorem keepsSocket_connectionCallback (j : Nat) (cb : ConnectionCallback) (c : Client) :
    KeepsSocket P i c (c.connectionCallback user j cb) := by
  unfold connectionCallback
  split
  · exact .refl c
  · exact keepsSocket_notify hu _ _ c

theorem keepsSocket_tcpCallback (j : Nat) (cb : ConnectionCallback) (c : Client) :
    KeepsSocket P i c (c.tcpCallback user j cb) := by
  unfold tcpCallback
  split
  · exact .refl c
  · exact keepsSocket_notify hu _ _ c

omit hu in
theorem keepsSocket_tcpDisconnect (j : Nat) (reason : DisconnectReason) (c : Client) :
    KeepsSocket P i c (c.tcpDisconnect j reason) :=
  keepsSocket_updateTcp j c fun t => t.uses_disconnect reason

theorem keepsSocket_handleConnectFailure (j : Nat) (ec : IoError) (operation : String)
    (c : Client) : KeepsSocket P i c (c.handleConnectFailure user j ec operation) :=
  (keepsSocket_tcpCallback hu j _ c).trans (keepsSocket_tcpDisconnect j _ _)

theorem keepsSocket_handleTransportError (j : Nat) (ec : IoError) (operation : String)
    (c : Client) : KeepsSocket P i c (c.handleTransportError user j ec operation) :=
  (keepsSocket_tcpCallback hu j _ c).trans (keepsSocket_tcpDisconnect j _ _)

theorem keepsSocket_handleProtocolViolation (j : Nat) (error : PacketError) (c : Client) :
    KeepsSocket P i c (c.handleProtocolViolation user j error) :=
  (keepsSocket_tcpCallback hu j _ c).trans (keepsSocket_tcpDisconnect j _ _)

theorem keepsSocket_loginTimer (j : Nat) (c₀ : Client) :
    (loginTimerHandler user j).Keeps (KeepsSocket P i c₀) where
  update _ c h := h.trans (keepsSocket_aside j c fun _ => rfl)
  loginTimerError ec operation c h := h.trans (keepsSocket_handleTransportError hu j ec operation c)
  loginTimerExpired c h := h.trans (keepsSocket_tcpDisconnect j _ c)

theorem keepsSocket_heartbeatTimer (hP : Allows P) (j : Nat) (c₀ : Client) :
    (heartbeatTimerHandler user j).Keeps (KeepsSocket P i c₀) where
  update _ _ c h := h.trans (keepsSocket_aside j c fun _ => rfl)
  heartbeatTimerError ec operation c h :=
    h.trans (keepsSocket_handleTransportError hu j ec operation c)
  heartbeatSendDue c h := h.trans (keepsSocket_updateTcp j c fun t => t.uses_write hP.heartbeat)
  heartbeatReceiveTimeout c h := h.trans (keepsSocket_tcpDisconnect j _ c)

/-! ### Connecting -/

/-- Another connection makes a socket. -/
theorem keepsSocket_emplace_other {j : Nat} (hj : j ≠ i) (c : Client) :
    KeepsSocket P i c (c.emplace user faults j) := by
  unfold emplace
  split
  · exact .refl c
  · rename_i conn _
    have hmade : KeepsSocket P i c
        ((c.updateConnection j (·.setConnection none)).log (.constructed j)) :=
      (keepsSocket_other hj c).trans (keepsSocket_log (by simpa using hj) _)
    have hcalled := hmade.trans
      (keepsSocket_notify hu conn.handlerSet (.connection j (.connecting conn.endpoint)) _)
    dsimp only
    split
    · exact (hcalled.trans (keepsSocket_notify hu _ _ _)).trans (keepsSocket_other hj _)
    · split
      · exact (hcalled.trans (keepsSocket_notify hu _ _ _)).trans (keepsSocket_other hj _)
      · exact hcalled.trans (keepsSocket_other hj _)

/-- The connection `i` makes one: while it does, the slot is empty. -/
theorem begun_emplace {conn : Connection} (hconn : c.connections[i]? = some conn) :
    c.made i < (c.emplace user faults i).made i ∧
      ∀ u, (c.emplace user faults i).tcp? i = some u → Begun P u.socket := by
  have hengaged (t : TcpConnection) (ht : Begun P t.socket) (c' : Client) (u : TcpConnection)
      (hu : (c'.updateConnection i (·.setConnection (some t))).tcp? i = some u) :
      Begun P u.socket := by
    rw [tcp?_updateConnection, if_pos rfl] at hu
    obtain ⟨conn', -, hconn'⟩ := Option.bind_eq_some_iff.mp hu
    cases hconn'
    exact ht
  have hcalled (c' : Client) (cb : Callback) :
      c'.made i ≤ (c'.notify user conn.handlerSet cb).made i :=
    (keepsSocket_notify hu _ cb c').made_le
  have hlogged : c.made i < (((c.updateConnection i (·.setConnection none)).log
      (.constructed i)).notify user conn.handlerSet
        (.connection i (.connecting conn.endpoint))).made i := by
    refine Nat.lt_of_lt_of_le ?_ (hcalled _ _)
    simp [made, log, List.count_append]
  have hclosed (t : TcpConnection) (isOpen : Bool)
      (ht : t.socket = Socket.fresh isOpen c.writePacketsLimit) :
      Begun P (t.disconnect .connectFailure).socket :=
    ⟨isOpen, c.writePacketsLimit, Or.inl (ht ▸ t.uses_disconnect _)⟩
  have hconnecting : Begun P (Socket.fresh true c.writePacketsLimit).asyncConnect :=
    ⟨true, c.writePacketsLimit, Or.inr .refl⟩
  simp only [emplace, hconn]
  split
  · refine ⟨Nat.lt_of_lt_of_le hlogged (hcalled _ _), fun u hu => ?_⟩
    refine hengaged _ ?_ _ u hu
    exact hclosed _ false rfl
  · split
    · refine ⟨Nat.lt_of_lt_of_le hlogged (hcalled _ _), fun u hu => ?_⟩
      refine hengaged _ ?_ _ u hu
      exact hclosed _ true rfl
    · refine ⟨hlogged, fun u hu => ?_⟩
      exact hengaged _ hconnecting _ u hu

/-- The connection `i` makes a socket, if there is such a connection. -/
theorem Grown.emplace (h : Grown P D i c c') : Grown P D i c (c'.emplace user faults i) := by
  cases hconn : c'.connections[i]? with
  | none =>
    simp only [Client.emplace, hconn]
    exact h
  | some conn =>
    obtain ⟨hlt, hbegun⟩ := begun_emplace hu faults hconn
    exact Or.inr ⟨Nat.lt_of_le_of_lt h.made_le hlt, hbegun⟩

/-- A connection that has a socket makes no other. -/
theorem keepsSocket_connect (j : Nat) (c : Client) :
    KeepsSocket P i c (c.connect user faults j) := by
  unfold connect
  split
  · exact .refl c
  · rename_i conn hconn
    have hcalled : KeepsSocket P i c (c.log (.connectCalled j)) := keepsSocket_log (by simp) c
    dsimp only
    split
    · exact hcalled
    · split
      · exact hcalled
      · rename_i hvacant
        split
        · exact hcalled
        · by_cases hj : j = i
          · subst hj
            obtain ⟨hlt, hbegun⟩ := begun_emplace hu faults
              (c := c.log (.connectCalled j)) (P := P) hconn
            have hnone : c.tcp? j = none := by
              rw [tcp?, hconn, Option.bind_some]
              simpa using hvacant
            refine ⟨fun t ht => ?_, fun _ => Or.inr ⟨?_, hbegun⟩⟩
            · cases hnone.symm.trans ht
            · exact Nat.lt_of_le_of_lt hcalled.made_le hlt
          · exact hcalled.trans (keepsSocket_emplace_other hu faults hj _)

/-! ### Calls -/

omit hu in
theorem keepsSocket_sendPacket {packet : WritePacket} (hp : P packet) (c : Client) :
    KeepsSocket P i c (c.sendPacket packet).2 := by
  cases h : c.hasSessionEnded with
  | true =>
    simp only [sendPacket, h, ↓reduceIte]
    exact .refl c
  | false =>
    rw [sendPacket_all packet h]
    exact keepsSocket_map c fun conn => conn.drives_sendPacket hp

theorem keepsSocket_call (hP : Allows P) (faults : Nat → Faults) {call : Call}
    (hcall : call.Offers P) (c : Client) : KeepsSocket P i c (call.run user faults c) := by
  have hset {f : Connection → Option Error × Connection}
      (hf : ∀ conn, (f conn).2.connection = conn.connection) (j : Nat) :
      KeepsSocket P i c (c.updateConnection j fun conn => (f conn).2) :=
    keepsSocket_updateConnection j c fun conn => conn.drives_same (hf conn)
  cases call with
  | connect j => exact keepsSocket_connect hu (faults j) j c
  | close j =>
    exact (keepsSocket_updateConnection j c (·.drives_close)).trans (keepsSocket_log (by simp) _)
  | sendMessage j data =>
    refine keepsSocket_updateConnection j c fun conn =>
      conn.drives_sendMessage fun bytes hbytes => ?_
    subst hbytes
    exact hcall
  | sendLogoutRequest j => exact keepsSocket_updateConnection j c (·.drives_sendLogoutRequest hP)
  | sendDebug j text => exact keepsSocket_updateConnection j c (·.drives_sendDebug hcall)
  | setConnectionHandler j => exact keepsSocket_updateConnection j c (·.drives_same rfl)
  | setUsername j username =>
    refine hset (fun conn => ?_) j
    unfold Connection.setUsername
    split <;> rfl
  | setPassword j password =>
    refine hset (fun conn => ?_) j
    unfold Connection.setPassword
    split <;> rfl
  | setSession j session =>
    refine hset (fun conn => ?_) j
    unfold Connection.setSession
    split <;> rfl
  | start =>
    simp only [Call.run, start]
    split
    · exact .refl c
    · split
      · exact .refl c
      · exact keepsSocket_same rfl rfl
  | stop => exact keepsSocket_same rfl rfl
  | sendMessageToAll data =>
    simp only [Call.run, sendMessage]
    split
    · exact .refl c
    · cases data with
      | null size => exact .refl c
      | bytes data => exact keepsSocket_sendPacket hcall c
  | sendLogoutRequestToAll => exact keepsSocket_map c (·.drives_sendLogoutRequest hP)
  | sendDebugToAll text => exact keepsSocket_map c (·.drives_sendDebug hcall)
  | setHandler => exact keepsSocket_same rfl rfl
  | setWritePacketsLimit limit => exact keepsSocket_same rfl rfl
  | addConnection endpoint handlerSet =>
    simp only [Call.run, addConnection]
    split
    · exact .refl c
    · refine keepsSocket_same ?_ rfl
      simp only [tcp?, List.getElem?_append]
      split
      · rfl
      · rename_i hi
        rw [List.getElem?_eq_none (Nat.not_lt.mp hi)]
        cases i - c.connections.length <;> rfl

end

/-- However deep the callbacks are nested. -/
theorem keepsSocket_user (hP : Allows P) {env : Env}
    (henv : ∀ cb, ∀ call ∈ env.calls cb, call.Offers P) (cb : Callback) (c : Client) :
    KeepsSocket P i c (env.user cb c) := by
  unfold Env.user
  induction env.depth generalizing cb c with
  | zero => exact .refl c
  | succ depth ih =>
    have hcalls (calls : List Call) (hoffers : ∀ call ∈ calls, call.Offers P) (c : Client) :
        KeepsSocket P i c (calls.foldl (Call.run (env.reaction depth) env.faults) c) := by
      induction calls generalizing c with
      | nil => exact .refl c
      | cons call calls ih' =>
        have hran := keepsSocket_call ih hP env.faults (hoffers call List.mem_cons_self) c
        exact hran.trans (ih' (fun other ho => hoffers other (List.mem_cons_of_mem call ho)) _)
    exact hcalls _ (henv cb) c

/-! ### Packets -/

section
variable {user : User} (hu : ∀ cb c, KeepsSocket P i c (user cb c)) (hP : Allows P)
  (faults : Faults)
include hu

omit hu in
theorem keepsSocket_onLoginSuccess (j : Nat) (response : LoginAcceptedPacket) (c : Client) :
    KeepsSocket P i c (c.onLoginSuccess j response).2 := by
  have haccepted (c : Client) : KeepsSocket P i c (c.acceptLogin j response) :=
    (keepsSocket_updateConnection j c (f := (·.accept response)) (·.drives_same rfl)).trans
      (keepsSocket_log (by simp) _)
  unfold onLoginSuccess
  split
  · exact .refl c
  · split
    · exact .refl c
    · split
      · split
        · exact .refl c
        · split
          · exact .refl c
          · exact haccepted c
      · split
        · have hset : KeepsSocket P i c (c.setNextSequenceNumber response.nextSequenceNumber) :=
            keepsSocket_same rfl rfl
          exact hset.trans (haccepted _)
        · split
          · exact .refl c
          · exact haccepted c

theorem keepsSocket_processLoginAccepted (hP : Allows P) (j : Nat) (data : Bytes) (c : Client) :
    KeepsSocket P i c (c.processLoginAccepted user faults j data).2 := by
  unfold processLoginAccepted
  split
  · exact .refl c
  · split
    · exact .refl c
    · dsimp only
      split
      · exact .refl c
      · have hlogged := (keepsSocket_aside (P := P) (i := i) j c
          (f := fun t => (t.updateLoginTimer LoginTimer.stop).setState .loggedIn)
          fun _ => rfl).trans (keepsSocket_onLoginSuccess j (LoginAcceptedPacket.read data) _)
        split
        · have htold := hlogged.trans (keepsSocket_tcpCallback hu j
            (.loginSuccess (LoginAcceptedPacket.read data)) _)
          have hflagged := htold.trans (keepsSocket_aside j _
            (f := (·.setHeartbeatTimerStopped false))
            fun _ => rfl)
          exact (keepsSocket_heartbeatTimer hu hP j c).start _ _
            (fun h => h.trans (keepsSocket_aside j _ fun _ => rfl)) hflagged
        · exact hlogged.trans (keepsSocket_tcpDisconnect j _ _)

theorem keepsSocket_processLoginRejected (j : Nat) (data : Bytes) (c : Client) :
    KeepsSocket P i c (c.processLoginRejected user j data).2 := by
  unfold processLoginRejected
  split
  · exact .refl c
  · split
    · exact .refl c
    · have hstopped := keepsSocket_aside (P := P) (i := i) j c
        (f := (·.updateLoginTimer LoginTimer.stop))
        fun _ => rfl
      exact (hstopped.trans (keepsSocket_tcpCallback hu j _ _)).trans
        (keepsSocket_tcpDisconnect j _ _)

theorem keepsSocket_onSequencedData (n : Nat) (data : Bytes) (c : Client) :
    KeepsSocket P i c (c.onSequencedData user n data) := by
  have harrived : KeepsSocket P i c (c.log (.arrived n data)) := keepsSocket_log (by simp) c
  have hset (m : Nat) : KeepsSocket P i c ((c.log (.arrived n data)).setNextSequenceNumber m) :=
    harrived.trans (keepsSocket_same rfl rfl)
  unfold onSequencedData
  dsimp only
  split
  · exact harrived
  · split
    · exact harrived.trans (keepsSocket_log (by simp) _)
    · exact (hset _).trans (keepsSocket_notify hu _ _ _)

theorem keepsSocket_connectionOnSequencedData (j : Nat) (data : Bytes) (c : Client) :
    KeepsSocket P i c (c.connectionOnSequencedData user j data) := by
  unfold connectionOnSequencedData
  split
  · exact .refl c
  · refine KeepsSocket.trans ?_ (keepsSocket_onSequencedData hu _ data _)
    exact keepsSocket_updateConnection j c (·.drives_same rfl)

theorem keepsSocket_processSequencedData (j : Nat) (data : Bytes) (c : Client) :
    KeepsSocket P i c (c.processSequencedData user j data).2 := by
  unfold processSequencedData
  split
  · exact .refl c
  · split
    · exact .refl c
    · refine KeepsSocket.trans ?_ (keepsSocket_connectionOnSequencedData hu j data _)
      exact keepsSocket_aside j c fun _ => rfl

theorem keepsSocket_onEndOfSession (c : Client) : KeepsSocket P i c (c.onEndOfSession user) := by
  have hended : KeepsSocket P i c { c with hasSessionEnded := true } := keepsSocket_same rfl rfl
  unfold onEndOfSession
  split
  · exact .refl c
  · exact hended.trans (keepsSocket_notify hu _ _ _)

theorem keepsSocket_connectionOnEndOfSession (j : Nat) (c : Client) :
    KeepsSocket P i c (c.connectionOnEndOfSession user j) := by
  unfold connectionOnEndOfSession
  split
  · exact .refl c
  · split
    · exact .refl c
    · refine KeepsSocket.trans ?_ (keepsSocket_onEndOfSession hu _)
      exact keepsSocket_updateConnection j c (·.drives_same rfl)

theorem keepsSocket_processEndOfSession (j : Nat) (size : Nat) (c : Client) :
    KeepsSocket P i c (c.processEndOfSession user j size).2 := by
  unfold processEndOfSession
  split
  · exact .refl c
  · split
    · exact .refl c
    · refine KeepsSocket.trans ?_ (keepsSocket_connectionOnEndOfSession hu j _)
      exact keepsSocket_aside j c fun _ => rfl

omit hu in
theorem keepsSocket_processServerHeartbeat (j : Nat) (size : Nat) (c : Client) :
    KeepsSocket P i c (c.processServerHeartbeat j size).2 := by
  unfold processServerHeartbeat
  split
  · exact .refl c
  · split
    · exact .refl c
    · exact keepsSocket_aside j c fun _ => rfl

theorem keepsSocket_processPacket (hP : Allows P) (j : Nat) (packet : ReadPacket) (c : Client) :
    KeepsSocket P i c (c.processPacket user faults j packet).2 := by
  unfold processPacket
  dsimp only
  split
  · exact keepsSocket_tcpCallback hu j _ c
  · split
    · exact keepsSocket_processLoginAccepted hu faults hP j _ c
    · split
      · exact keepsSocket_processLoginRejected hu j _ c
      · split
        · exact keepsSocket_processSequencedData hu j _ c
        · split
          · exact keepsSocket_processServerHeartbeat j _ c
          · split
            · exact keepsSocket_processEndOfSession hu j _ c
            · exact .refl c

/-- A packet is processed, and then the next read begins, if it does. -/
theorem readSuccess_eq (hP : Allows P) (j : Nat) (packet : ReadPacket) (c : Client) :
    ∃ c', KeepsSocket P i c c' ∧ (c.readSuccess user faults j packet = c' ∨
      c.readSuccess user faults j packet = c'.updateTcp j (·.updateSocket Socket.asyncRead)) := by
  have hprocessed := keepsSocket_processPacket hu faults hP (i := i) j packet c
  have hreported : KeepsSocket P i c (if (c.processPacket user faults j packet).1 ≠ .none then
      (c.processPacket user faults j packet).2.handleProtocolViolation user j
        (c.processPacket user faults j packet).1
      else (c.processPacket user faults j packet).2) := by
    split
    · exact hprocessed.trans (keepsSocket_handleProtocolViolation hu j _ _)
    · exact hprocessed
  unfold readSuccess
  split
  · exact ⟨c, .refl c, Or.inl rfl⟩
  · refine ⟨_, hreported, ?_⟩
    dsimp only
    generalize (if (c.processPacket user faults j packet).1 ≠ .none then
      (c.processPacket user faults j packet).2.handleProtocolViolation user j
        (c.processPacket user faults j packet).1
      else (c.processPacket user faults j packet).2) = c'
    split
    · exact Or.inl rfl
    · exact Or.inr rfl

/-- Before a connection begins to read, and after it. -/
theorem connectSuccess_eq (j : Nat) (c : Client) : ∃ request c', KeepsSocket P i c c' ∧
    c.connectSuccess user faults j = (c'.updateTcp j (·.updateSocket Socket.asyncRead)).updateTcp j
      (·.writeBestEffort ((WritePacket.ofSize LoginRequestPacket.packetType
        LoginRequestPacket.payloadSize).writePayload (LoginRequestPacket.write request))) := by
  have hasked (c : Client) : KeepsSocket P i c (c.onConnectSuccess j).2 := by
    unfold onConnectSuccess
    split
    · exact .refl c
    · exact keepsSocket_updateConnection j c (·.drives_same rfl)
  have hconnected : KeepsSocket P i c (c.updateTcp j (·.setState .connected)) :=
    keepsSocket_aside j c fun _ => rfl
  have htold := (hconnected.trans (keepsSocket_tcpCallback hu j .connectSuccess _)).trans (hasked _)
  refine ⟨_, _, (keepsSocket_loginTimer hu j c).start faults.loginTimer ?_, rfl⟩
  refine KeepsSocket.trans ?_ (keepsSocket_aside j _ fun _ => rfl)
  exact htold.trans (keepsSocket_tcpCallback hu j _ _)

/-- The socket of another connection. -/
theorem keepsSocket_socket {j : Nat} (hj : j ≠ i) (hP : Allows P) (c₀ : Client) :
    (socketHandler user faults j).Keeps (KeepsSocket P i c₀) where
  update _ _ c h := h.trans (keepsSocket_other hj c)
  connectFailure ec c h := h.trans (keepsSocket_handleConnectFailure hu j ec _ c)
  connectSuccess c h := by
    obtain ⟨request, c', hkeeps, heq⟩ := connectSuccess_eq hu faults (i := i) j c
    change KeepsSocket P i c₀ (c.connectSuccess user faults j)
    rw [heq]
    exact ((h.trans hkeeps).trans (keepsSocket_other hj _)).trans (keepsSocket_other hj _)
  readFailure ec c h := h.trans (keepsSocket_handleTransportError hu j ec _ c)
  readPacketFailure error c h := h.trans (keepsSocket_handleProtocolViolation hu j error c)
  readSuccess packet c h := by
    obtain ⟨c', hkeeps, heq⟩ := readSuccess_eq hu faults (i := i) hP j packet c
    change KeepsSocket P i c₀ (c.readSuccess user faults j packet)
    rcases heq with heq | heq
    · rw [heq]
      exact h.trans hkeeps
    · rw [heq]
      exact (h.trans hkeeps).trans (keepsSocket_other hj _)
  readAborted c h := h.trans (keepsSocket_tcpDisconnect j _ c)
  readEndOfFile c h := h.trans (keepsSocket_tcpDisconnect j _ c)
  writeFailure ec c h := h.trans (keepsSocket_handleTransportError hu j ec _ c)
  writeSuccess _ _ h := h
  writeBufferEmpty c h := h.trans (keepsSocket_tcpCallback hu j _ c)

/-! ### The owner -/

omit hu in
theorem There.tcp {n : Nat} (h : There i n c) : ∃ t, c.tcp? i = some t :=
  Option.isSome_iff_exists.mp h.1

omit hu in
theorem socket_of_tcp {t : TcpConnection} (ht : c.tcp? i = some t) :
    (socketHandler user faults i).socket c = t.socket := by
  simp [socketHandler, ht]

omit hu in
theorem There.keepsSocket (user : User) {n : Nat} (h : There i n c) (hk : KeepsSocket P i c c') :
    There i n c' ∧ Uses P ((socketHandler user faults i).socket c)
      ((socketHandler user faults i).socket c') := by
  obtain ⟨t, ht⟩ := h.tcp
  obtain ⟨hm, u, hu, huses⟩ := hk.engaged t ht
  rw [socket_of_tcp faults ht, socket_of_tcp faults hu]
  exact ⟨⟨by rw [hu]; rfl, hm.trans h.2⟩, huses⟩

theorem owns_socket (hP : Allows P) (n : Nat) :
    (socketHandler user faults i).Owns P (There i n) := by
  have hacts {c c' : Client} (h : There i n c) (hk : KeepsSocket P i c c') :
      (socketHandler user faults i).Acts P (There i n) false c c' := by
    obtain ⟨hthere, huses⟩ := h.keepsSocket faults user hk
    exact ⟨hthere, huses.does⟩
  have hupdate (f : Socket → Socket) (c : Client) (h : There i n c) :
      There i n (c.updateTcp i (·.updateSocket f)) ∧
        (socketHandler user faults i).socket (c.updateTcp i (·.updateSocket f)) =
          f ((socketHandler user faults i).socket c) := by
    obtain ⟨t, ht⟩ := h.tcp
    have ht' : (c.updateTcp i (·.updateSocket f)).tcp? i = some (t.updateSocket f) := by
      rw [tcp?_updateTcp, ht]
      rfl
    rw [socket_of_tcp faults ht, socket_of_tcp faults ht']
    exact ⟨⟨by rw [ht']; rfl, h.2⟩, rfl⟩
  -- the next read begins once the callbacks are done with the socket
  have hreads {c c' : Client} (h : There i n c) (hk : KeepsSocket P i c c')
      (hidle : ((socketHandler user faults i).socket c).readPending = false) :
      (socketHandler user faults i).Acts P (There i n) true c
        (c'.updateTcp i (·.updateSocket Socket.asyncRead)) := by
    obtain ⟨hthere, huses⟩ := h.keepsSocket faults user hk
    obtain ⟨hreading, hsocket⟩ := hupdate Socket.asyncRead c' hthere
    refine ⟨hreading, ?_⟩
    rw [hsocket]
    exact huses.does.trans (Socket.does_asyncRead (huses.readPending.trans hidle))
  constructor
  · exact hupdate
  · exact fun ec c h => hacts h (keepsSocket_handleConnectFailure hu i ec _ c)
  · intro c h hidle
    obtain ⟨request, c', hkeeps, heq⟩ := connectSuccess_eq hu faults i c
    obtain ⟨hreading, hdoes⟩ := hreads h hkeeps hidle
    obtain ⟨hwritten, huses⟩ := hreading.keepsSocket faults user
      (keepsSocket_updateTcp i _ fun t => t.uses_write (hP.request request))
    change (socketHandler user faults i).Acts P (There i n) true c (c.connectSuccess user faults i)
    rw [heq]
    exact ⟨hwritten, hdoes.trans huses.does⟩
  · exact fun ec c h => hacts h (keepsSocket_handleTransportError hu i ec _ c)
  · exact fun error c h => hacts h (keepsSocket_handleProtocolViolation hu i error c)
  · intro packet c h hidle
    obtain ⟨c', hkeeps, heq⟩ := readSuccess_eq hu faults hP i packet c
    obtain ⟨hthere, huses⟩ := h.keepsSocket faults user hkeeps
    change (socketHandler user faults i).Acts P (There i n) true c
      (c.readSuccess user faults i packet)
    rcases heq with heq | heq
    · rw [heq]
      exact ⟨hthere, huses.does⟩
    · rw [heq]
      exact hreads h hkeeps hidle
  · exact fun c h => hacts h (keepsSocket_tcpDisconnect i _ c)
  · exact fun c h => hacts h (keepsSocket_tcpDisconnect i _ c)
  · exact fun ec c h => hacts h (keepsSocket_handleTransportError hu i ec _ c)
  · exact fun packet c h => hacts h (.refl c)
  · exact fun c h => hacts h (keepsSocket_tcpCallback hu i _ c)

/-! ### Closing -/

omit hu in
/-- The slot of a connection is emptied. -/
theorem Grown.vacated (hD : Lasting P D) (h : Grown P D i c c') (j : Nat) :
    Grown P D i c (c'.updateConnection j (·.setConnection none)) := by
  by_cases hj : j = i
  · have hnone : (c'.updateConnection j (·.setConnection none)).tcp? i = none := by
      rw [tcp?_updateConnection, if_pos hj]
      cases c'.connections[i]? <;> rfl
    rcases h with ⟨hm, -⟩ | ⟨hlt, -⟩
    · refine Or.inl ⟨hm, fun u hu => ?_⟩
      rw [hnone] at hu
      cases hu
    · refine Or.inr ⟨hlt, fun u hu => ?_⟩
      rw [hnone] at hu
      cases hu
  · exact h.keepsSocket hD (keepsSocket_other hj c')

theorem grown_reconnectTimer (hD : Lasting P D) (j : Nat) (c₀ : Client) :
    (reconnectTimerHandler user faults j).Keeps (Grown P D i c₀) where
  update _ c h := h.keepsSocket hD (keepsSocket_updateConnection j c (·.drives_same rfl))
  reconnectTimerError _ _ c h := h.keepsSocket hD (keepsSocket_connectionCallback hu j _ c)
  reconnectTimerExpired c h := by
    change Grown P D i c₀ (c.emplace user faults j)
    by_cases hj : j = i
    · subst hj
      exact h.emplace hu faults
    · exact h.keepsSocket hD (keepsSocket_emplace_other hu faults hj c)

theorem Grown.onClosed (hD : Lasting P D) (h : Grown P D i c c') (j : Nat)
    (reason : DisconnectReason) : Grown P D i c (c'.onClosed user faults j reason) := by
  have hgone : Grown P D i c ((c'.updateConnection j (·.setConnection none)).log (.onClosed j)) :=
    (h.vacated hD j).keepsSocket hD (keepsSocket_log (by simp) _)
  have htold := hgone.keepsSocket hD (keepsSocket_connectionCallback hu j (.disconnect reason) _)
  unfold Client.onClosed
  dsimp only
  split
  · exact htold
  · split
    · exact htold
    · have hdelayed := htold.keepsSocket hD (keepsSocket_updateConnection j _
        (f := Connection.nextDelay)
        (·.drives_same rfl))
      exact (grown_reconnectTimer hu faults hD j c).start _
        (hdelayed.keepsSocket hD (keepsSocket_connectionCallback hu j _ _))

theorem Grown.maybeSignalClosed (hD : Lasting P D) (h : Grown P D i c c') (j : Nat) :
    Grown P D i c (c'.maybeSignalClosed user faults j) := by
  unfold Client.maybeSignalClosed
  split
  · exact h
  · split
    · exact h.onClosed hu faults hD j _
    · exact h

end

end Client

/-! ## Events -/

/-- What the event completes on the socket of the connection `i`. -/
def Event.completion (i : Nat) : Event → Option Completion
  | .connectCompleted j ec => if j = i then some (.connect ec) else none
  | .headerCompleted j result => if j = i then some (.header result) else none
  | .payloadCompleted j result => if j = i then some (.payload result) else none
  | .writeCompleted j result => if j = i then some (.write result) else none
  | .socketClosed j => if j = i then some .closed else none
  | _ => none

/-- What the user offers satisfies `P`. -/
def Offering (P : WritePacket → Prop) (input : Event × Env) : Prop :=
  (∀ cb, ∀ call ∈ input.2.calls cb, call.Offers P) ∧ ∀ call, input.1 = .call call → call.Offers P

namespace Client

variable {i : Nat} {c c' : Client} {D : Socket → Socket → Prop}

theorem Grown.mono {E : Socket → Socket → Prop} (h : Grown P D i c c')
    (hDE : ∀ s u, D s u → E s u) :
    Grown P E i c c' := by
  rcases h with ⟨hm, hsocket⟩ | hbegun
  · refine Or.inl ⟨hm, fun u hu => ?_⟩
    obtain ⟨t, ht, hd⟩ := hsocket u hu
    exact ⟨t, ht, hDE _ _ hd⟩
  · exact Or.inr hbegun

theorem lasting_none : Lasting P (Mirrors P none) := fun _ _ _ h h' => h.trans h'.does

theorem KeepsSocket.grown (h : KeepsSocket P i c c') : Grown P (Mirrors P none) i c c' := by
  have hstart : Grown P (Mirrors P none) i c c :=
    Or.inl ⟨rfl, fun t ht => ⟨t, ht, .refl P false t.socket⟩⟩
  exact hstart.keepsSocket lasting_none h

/-- The owner has been told that the socket is closed. -/
def Notified (P : WritePacket → Prop) (s v : Socket) : Prop := Does P false s.notified v

theorem lasting_notified : Lasting P (Notified P) := fun _ _ _ h h' => h.trans h'.does

theorem keepsSocket_connectFrom {user : User} (hu : ∀ cb c, KeepsSocket P i c (user cb c))
    (faults : Nat → Faults) (more : Nat) :
    ∀ (j : Nat) (c : Client), KeepsSocket P i c (connectFrom user faults more j c) := by
  induction more with
  | zero => exact fun _ c => .refl c
  | succ more ih =>
    intro j c
    exact (keepsSocket_connect hu (faults j) j c).trans (ih (j + 1) _)

theorem keepsSocket_runPosted {user : User} (hu : ∀ cb c, KeepsSocket P i c (user cb c))
    (faults : Nat → Faults) (added : Nat) (posted : Posted) (c : Client) :
    KeepsSocket P i c (runPosted user faults added posted c) := by
  cases posted with
  | start =>
    simp only [runPosted]
    split
    · exact .refl c
    · have hstarted : KeepsSocket P i c { c with started := true } := keepsSocket_same rfl rfl
      exact hstarted.trans (keepsSocket_connectFrom hu faults _ 0 _)
  | stop =>
    simp only [runPosted]
    split
    · exact .refl c
    · have hstopped : KeepsSocket P i c { c with started := false } := keepsSocket_same rfl rfl
      exact hstopped.trans (keepsSocket_map _ fun conn => conn.drives_close)

/-- A completion on the socket of the connection `i`. -/
theorem grown_of_passes {user : User} {faults : Faults} {completion : Completion}
    (hthere : (c.tcp? i).isSome = true) (hpasses : (socketHandler user faults i).Passes P
      (There i (c.made i)) completion c c') : Grown P (Mirrors P (some completion)) i c c' := by
  obtain ⟨t, ht⟩ := Option.isSome_iff_exists.mp hthere
  obtain ⟨hthere', hmirrors⟩ := hpasses
  refine Or.inl ⟨hthere'.2, fun u hu => ⟨t, ht, ?_⟩⟩
  rw [socket_of_tcp faults ht, socket_of_tcp faults hu] at hmirrors
  exact hmirrors

/-- **An event takes the socket of a connection one step**, or lets its owner make
some calls, or has made a new one. -/
theorem grown_handle {env : Env} {event : Event} (hP : Allows P) (hoffers : Offering P (event, env))
    (hready : c.ready event = true) (hearly : ∀ t, c.tcp? i = some t → t.socket.Early) :
    Grown P (Mirrors P (event.completion i)) i c (c.handle env event) := by
  obtain ⟨henv, hcall⟩ := hoffers
  have hu (j : Nat) : ∀ cb c, KeepsSocket P j c (env.user cb c) := keepsSocket_user hP henv
  have hself (c : Client) : Grown P (Mirrors P none) i c c := (KeepsSocket.refl c).grown
  have howns := owns_socket (hu i) (env.faults i) hP (c.made i)
  have hthere (h : (c.tcp? i).isSome = true) : There i (c.made i) c := ⟨h, rfl⟩
  have hnoted (note : TcpConnection → TcpConnection) (hf : ∀ t, (note t).socket = t.socket)
      (j : Nat) : Grown P (Mirrors P none) i c
        ((c.updateTcp j note).maybeSignalClosed env.user (env.faults j) j) :=
    (keepsSocket_aside j c hf).grown.maybeSignalClosed (hu i) (env.faults j) lasting_none j
  cases event with
  | call call => exact (keepsSocket_call (hu i) hP env.faults (hcall call rfl) c).grown
  | posted k =>
    simp only [handle]
    split
    · exact hself c
    · have htaken : KeepsSocket P i c { c with posted := c.posted.eraseIdx k } :=
        keepsSocket_same rfl rfl
      exact (htaken.trans (keepsSocket_runPosted (hu i) env.faults env.added _ _)).grown
  | connectCompleted j ec =>
    by_cases hj : j = i
    · subst hj
      have hsome := Option.isSome_of_any hready
      obtain ⟨t, ht⟩ := Option.isSome_iff_exists.mp hsome
      have hidle : ((socketHandler env.user (env.faults j) j).socket c).readPending = false := by
        rw [socket_of_tcp (env.faults j) ht]
        exact ((hearly t ht).idle (by simpa [ready, ht] using hready)).1
      have hgrown := grown_of_passes hsome (howns.connectCompleted ec (hthere hsome) hidle)
      simp only [Event.completion, if_true]
      exact hgrown
    · have hkeeps :=
        (keepsSocket_socket (hu i) (env.faults j) hj hP c).connectCompleted ec (.refl c)
      simp only [Event.completion, hj, if_false]
      exact hkeeps.grown
  | headerCompleted j result =>
    by_cases hj : j = i
    · subst hj
      have hsome := Option.isSome_of_any hready
      have hgrown := grown_of_passes hsome (howns.headerCompleted result (hthere hsome))
      simp only [Event.completion, if_true]
      exact hgrown
    · have hkeeps :=
        (keepsSocket_socket (hu i) (env.faults j) hj hP c).headerCompleted result (.refl c)
      simp only [Event.completion, hj, if_false]
      exact hkeeps.grown
  | payloadCompleted j result =>
    by_cases hj : j = i
    · subst hj
      have hsome := Option.isSome_of_any hready
      have hgrown := grown_of_passes hsome (howns.payloadCompleted result (hthere hsome))
      simp only [Event.completion, if_true]
      exact hgrown
    · have hkeeps :=
        (keepsSocket_socket (hu i) (env.faults j) hj hP c).payloadCompleted result (.refl c)
      simp only [Event.completion, hj, if_false]
      exact hkeeps.grown
  | writeCompleted j result =>
    by_cases hj : j = i
    · subst hj
      have hsome := Option.isSome_of_any hready
      have hgrown := grown_of_passes hsome (howns.writeCompleted result (hthere hsome))
      simp only [Event.completion, if_true]
      exact hgrown
    · have hkeeps :=
        (keepsSocket_socket (hu i) (env.faults j) hj hP c).writeCompleted result (.refl c)
      simp only [Event.completion, hj, if_false]
      exact hkeeps.grown
  | socketClosed j =>
    by_cases hj : j = i
    · subst hj
      have hnotified : Grown P (Notified P) j c (c.updateTcp j TcpConnection.noteClosed) := by
        refine Or.inl ⟨rfl, fun u hu => ?_⟩
        rw [tcp?_updateTcp] at hu
        obtain ⟨t, ht, rfl⟩ := Option.map_eq_some_iff.mp hu
        exact ⟨t, ht, .refl P false t.socket.notified⟩
      have htold := hnotified.maybeSignalClosed (hu j) (env.faults j) lasting_notified j
      apply htold.mono
      rintro s v ⟨ops, hops, hv⟩
      simp only [Event.completion, if_true]
      exact .of_noticed (Socket.minds_replying hops) hv
    · have hnoted := (keepsSocket_other (P := P) hj c
        (f := (·.updateTcp TcpConnection.noteClosed))).grown
      have htold := hnoted.maybeSignalClosed (hu i) (env.faults j) lasting_none j
      simp only [Event.completion, hj, if_false]
      exact htold
  | loginTimerWait j ec =>
    exact ((keepsSocket_loginTimer (hu i) j c).waitCompleted ec (.refl c)).grown
  | loginTimerStopped j => exact hnoted TcpConnection.noteLoginTimerStopped (fun _ => rfl) j
  | heartbeatTimerWait j ec =>
    exact ((keepsSocket_heartbeatTimer (hu i) hP j c).waitCompleted ec _ (.refl c)).grown
  | heartbeatTimerStopped j => exact hnoted TcpConnection.noteHeartbeatTimerStopped (fun _ => rfl) j
  | reconnectTimerWait j epoch ec =>
    exact (grown_reconnectTimer (hu i) (env.faults j) lasting_none j c).waitCompleted epoch ec
      (hself c)

end Client

/-! ## Runs -/

/-- The client, and what has completed on the socket that the connection `i` has made last. -/
structure Watcher where
  client : Client
  seen : List Completion := []

namespace Watcher

def next (i : Nat) (input : Event × Env) (w : Watcher) : Watcher :=
  let client := w.client.handle input.2 input.1
  { client
    seen := if w.client.made i < client.made i then []
      else w.seen ++ (input.1.completion i).toList }

/-- The client, with an eye on the connection `i`. -/
def watching (i : Nat) : System Watcher (Event × Env) where
  enabled input w := system.enabled input w.client
  next := next i

/-- The socket that the connection `i` has now. -/
def Drives (P : WritePacket → Prop) (i : Nat) (w : Watcher) : Prop :=
  ∀ t, w.client.tcp? i = some t → ∃ isOpen limit first,
    (first = Socket.fresh isOpen limit ∨ first = (Socket.fresh isOpen limit).asyncConnect) ∧
      Sees P w.seen first t.socket

variable {i : Nat} {w : Watcher}

/-- What the socket of the connection `i` can complete. -/
theorem enabled_of_ready {c : Client} {event : Event} (hready : c.ready event = true)
    {t : TcpConnection} (ht : c.tcp? i = some t) {completion : Completion}
    (h : event.completion i = some completion) (script : Socket.Script) :
    Socket.system.enabled (completion.input script) t.socket := by
  cases event <;> simp only [Event.completion, Option.ite_none_right_eq_some, Option.some.injEq,
    reduceCtorEq] at h <;> obtain ⟨rfl, rfl⟩ := h <;>
    simpa [Client.ready, ht, Completion.input, Socket.system] using hready

theorem early_first {isOpen : Bool} {limit : Nat} {first : Socket}
    (h : first = Socket.fresh isOpen limit ∨ first = (Socket.fresh isOpen limit).asyncConnect) :
    first.Early := by
  have hidle : (Socket.fresh isOpen limit).Early := Socket.Connected.early rfl
  rcases h with rfl | rfl
  · exact hidle
  · refine ⟨Nat.le_refl _, fun _ => ⟨rfl, ?_, ?_⟩⟩
    · exact of_decide_eq_false rfl
    · exact of_decide_eq_false rfl

theorem Drives.next (h : Drives P i w) (hP : Allows P) {input : Event × Env}
    (hoffers : Offering P input) (hready : w.client.ready input.1 = true) :
    Drives P i (Watcher.next i input w) := by
  have hearly (t : TcpConnection) (ht : w.client.tcp? i = some t) : t.socket.Early := by
    obtain ⟨isOpen, limit, first, hfirst, hsees⟩ := h t ht
    exact hsees.early (early_first hfirst)
  intro u hu
  rcases Client.grown_handle hP hoffers hready hearly with ⟨hm, hsocket⟩ | ⟨hlt, hbegun⟩
  · obtain ⟨t, ht, hmirrors⟩ := hsocket u hu
    obtain ⟨isOpen, limit, first, hfirst, hsees⟩ := h t ht
    refine ⟨isOpen, limit, first, hfirst, ?_⟩
    simp only [Watcher.next, hm, Nat.lt_irrefl, if_false]
    exact hsees.mirrors hmirrors fun c hc => enabled_of_ready hready ht hc
  · simp only [Watcher.next, hlt, if_true]
    obtain ⟨isOpen, limit, hbegun | hbegun⟩ := hbegun u hu
    · exact ⟨isOpen, limit, _, Or.inl rfl, (Sees.refl P _).does hbegun.does⟩
    · exact ⟨isOpen, limit, _, Or.inr rfl, (Sees.refl P _).does hbegun.does⟩

end Watcher

namespace Client
open Watcher

theorem Idle.vacant {c : Client} (h : Idle c) (i : Nat) : c.tcp? i = none := by
  cases hconn : c.connections[i]? with
  | none => simp [Client.tcp?, hconn]
  | some conn => simp [Client.tcp?, hconn, (h.connections conn (List.mem_of_getElem? hconn)).1]

/-- **Each connection drives the sockets that it makes, one after the other.** In every
run of the client the socket that a connection has now was made open or not, has been
connected or not, and has then gone through a run of its own: what has completed on it
since it was made, in the same order, and the calls that its owner made. -/
theorem connecting_drives_sockets (P : WritePacket → Prop) (hP : Allows P) (c₀ : Client)
    (h₀ : Idle c₀) (inputs : List (Event × Env)) (c : Client)
    (hrun : (system.restrict fun input _ => Offering P input).Run c₀ inputs c) (i : Nat) :
    let w := (watching i).final { client := c₀ } inputs
    w.client = c ∧ ∀ t, c.tcp? i = some t → ∃ isOpen limit first,
      (first = Socket.fresh isOpen limit ∨ first = (Socket.fresh isOpen limit).asyncConnect) ∧
        Sees P w.seen first t.socket := by
  obtain ⟨hwatches, hclient⟩ := System.Run.observed (t := { client := c₀ }) client
    (T := (watching i).restrict fun input _ => Offering P input) (fun _ _ hi => hi)
    (fun _ _ => rfl) hrun
  have heq := hwatches.of_restrict.eq_final
  rw [heq] at hwatches hclient
  have hfirst : Drives P i { client := c₀ } := by
    intro t ht
    cases (h₀.vacant i).symm.trans ht
  refine ⟨hclient, hclient ▸ hwatches.keeps (I := Drives P i) ?_ hfirst⟩
  intro input w hi h
  exact h.next hP hi.2 hi.1

theorem allows_any : Allows fun _ => True := ⟨trivial, trivial, fun _ => trivial⟩

theorem connecting_drives_sockets_one :
    let c := system.final single receivesOne
    ∃ t, c.tcp? 0 = some t ∧ ∃ isOpen limit first,
      (first = Socket.fresh isOpen limit ∨ first = (Socket.fresh isOpen limit).asyncConnect) ∧
        Sees (fun _ => True) [.connect none, .header (.ok [0, 31, 65]),
          .payload (.ok (LoginAcceptedPacket.write ⟨[83], 1⟩)), .header (.ok [0, 2, 83]),
          .payload (.ok [7])] first t.socket := by
  intro c
  have hidle : Idle single := ⟨rfl, rfl, rfl, by simp [single]⟩
  have hthere : (c.tcp? 0).isSome = true := by decide +kernel
  obtain ⟨t, ht⟩ := Option.isSome_iff_exists.mp hthere
  have hoffering (event : Event) : Offering (fun _ => True) (event, Env.plain) := by
    have hany (call : Call) : call.Offers fun _ => True := by
      unfold Call.Offers
      split <;> trivial
    exact ⟨fun _ call _ => hany call, fun call _ => hany call⟩
  have hrun : (system.restrict fun input _ => Offering (fun _ => True) input).Run single receivesOne
      c := by
    apply (System.run_of_admits (by decide +kernel)).restrict
    intro input hinput _
    have hplain : input.2 = Env.plain := by
      simp only [receivesOne, List.mem_cons, List.not_mem_nil, or_false] at hinput
      rcases hinput with rfl | rfl | rfl | rfl | rfl | rfl | rfl <;> rfl
    obtain ⟨event, env⟩ := input
    cases hplain
    exact hoffering event
  obtain ⟨-, hdrives⟩ := connecting_drives_sockets (fun _ => True) allows_any single hidle
    receivesOne c hrun 0
  exact ⟨t, ht, hdrives t ht⟩

end Client

end SoupBin.ClientSide
