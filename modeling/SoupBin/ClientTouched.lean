import SoupBin.ClientAlive
import SoupBin.ClientSteps

/-!
# What the user does to the connections

From inside a callback, and between events, the user queues packets and closes
connections. No call but `connect` makes a `Tcp_connection`.
-/

namespace SoupBin.ClientSide

/-! ## What the user does to a Tcp_connection -/

/-- Packets are queued, and the connection is closed if `closes` allows it. -/
inductive TcpConnection.Used (closes : Prop) (t : TcpConnection) : TcpConnection → Prop where
  | refl : Used closes t t
  | close {u : TcpConnection} : closes → Used closes t u → Used closes t u.close
  | wrote {u v : TcpConnection} : Used closes t u → u.Wrote v → Used closes t v

open TcpConnection

theorem TcpConnection.Used.trans {closes : Prop} {t u v : TcpConnection} (h : Used closes t u)
    (h' : Used closes u v) : Used closes t v := by
  induction h' with
  | refl => exact h
  | close hc _ ih => exact .close hc ih
  | wrote _ hw ih => exact .wrote ih hw

theorem TcpConnection.Used.mono {p q : Prop} (hpq : p → q) {t u : TcpConnection} (h : Used p t u) :
    Used q t u := by
  induction h with
  | refl => exact .refl
  | close hc _ ih => exact .close (hpq hc) ih
  | wrote _ hw ih => exact .wrote ih hw

/-- `P` survives what the user does, closing included if `closes` allows it. -/
def Stable (closes : Prop) (P : TcpConnection → Prop) : Prop :=
  ∀ t u, Used closes t u → P t → P u

/-- `P` survives packets and a disconnect. -/
structure Robust (P : TcpConnection → Prop) : Prop where
  disconnect : ∀ t reason, P t → P (t.disconnect reason)
  wrote : ∀ t u, P t → Wrote t u → P u

theorem Robust.stable {P : TcpConnection → Prop} (h : Robust P) (closes : Prop) :
    Stable closes P := by
  intro t u hu ht
  induction hu with
  | refl => exact ht
  | close _ _ ih => exact h.disconnect _ _ ih
  | wrote _ hw ih => exact h.wrote _ _ ih hw

theorem stable_of_open {closes : Prop} {P : TcpConnection → Prop} (hc : ¬closes)
    (hwrote : ∀ t u, P t → Wrote t u → P u) : Stable closes P := by
  intro t u hu ht
  induction hu with
  | refl => exact ht
  | close h _ _ => exact absurd h hc
  | wrote _ hw ih => exact hwrote _ _ ih hw

theorem robust_alive (busy : Busy) : Robust (Alive busy) :=
  ⟨fun _ reason h => h.disconnect reason, fun _ _ h hw => h.wrote hw⟩

theorem robust_reached (busy : Busy) : Robust (Reached busy) :=
  ⟨fun _ reason h => h.disconnect reason, fun _ _ h hw => h.wrote hw⟩

theorem robust_readable : Robust Readable :=
  ⟨fun _ reason h => h.disconnect reason, fun _ _ h hw => h.wrote hw⟩

theorem robust_beating : Robust Beating :=
  ⟨fun _ reason h => h.disconnect reason, fun _ _ h hw => h.wrote hw⟩

/-- The same for a connection, whose reconnect timer is not started. -/
structure Connection.Touched (closes : Prop) (conn conn' : Connection) : Prop where
  tcp : Option.Rel (Used closes) conn.connection conn'.connection
  reconnecting : conn.reconnectTimer.started = false → conn'.reconnectTimer.started = false

namespace Connection
variable {closes : Prop} (conn : Connection)

theorem Touched.same {conn conn' : Connection} (ht : conn'.connection = conn.connection)
    (hr : conn'.reconnectTimer = conn.reconnectTimer) : Touched closes conn conn' := by
  constructor
  · rw [ht]
    cases conn.connection with
    | none => exact .none
    | some t => exact .some .refl
  · rw [hr]
    exact id

theorem touched_sendWith {send : TcpConnection → WriteError × TcpConnection}
    (hs : ∀ t, Wrote t (send t).2) : Touched closes conn (conn.sendWith send).2 := by
  unfold sendWith
  split
  · exact .same rfl rfl
  · rename_i t ht
    constructor
    · rw [ht]
      exact .some (.wrote .refl (hs t))
    · exact id

theorem touched_sendPacket (packet : WritePacket) : Touched closes conn (conn.sendPacket packet).2 := by
  unfold Connection.sendPacket
  split
  · exact .same rfl rfl
  · exact touched_sendWith conn (wrote_sendPacket packet)

theorem touched_sendMessage (data : Span) : Touched closes conn (conn.sendMessage data).2 := by
  unfold sendMessage
  split
  · exact .same rfl rfl
  · cases data with
    | null size => exact .same rfl rfl
    | bytes data => exact touched_sendPacket conn _

theorem touched_sendLogoutRequest : Touched closes conn conn.sendLogoutRequest.2 :=
  touched_sendWith conn (wrote_sendPacket _)

theorem touched_sendDebug (text : Bytes) : Touched closes conn (conn.sendDebug text).2 := by
  unfold sendDebug
  split
  · exact .same rfl rfl
  · exact touched_sendWith conn (wrote_sendDebugPacket text)

theorem touched_close (hc : closes) : Touched closes conn conn.close := by
  constructor
  · show Option.Rel _ conn.connection (conn.connection.map TcpConnection.close)
    cases conn.connection with
    | none => exact .none
    | some t => exact .some (.close hc .refl)
  · exact fun _ => rfl

end Connection

namespace Client

/-! ## What the user does to a client -/

def reconnecting (i : Nat) (c : Client) : Bool :=
  (c.connections[i]?.map (·.reconnectTimer.started)).getD false

/-- No `Tcp_connection` is made or destroyed, and no reconnect timer started. -/
structure Touched (closes : Nat → Prop) (c c' : Client) : Prop where
  tcp : ∀ i, Option.Rel (Used (closes i)) (c.tcp? i) (c'.tcp? i)
  reconnecting : ∀ i, c.reconnecting i = false → c'.reconnecting i = false
  known : c.connections.length ≤ c'.connections.length
  made : ∀ i, c'.trace.count (.constructed i) = c.trace.count (.constructed i)
  freed : ∀ i, c'.trace.count (.onClosed i) = c.trace.count (.onClosed i)

variable {closes : Nat → Prop}

theorem Touched.same {c c' : Client} (hc : c'.connections = c.connections)
    (ht : c'.trace = c.trace) : Touched closes c c' := by
  constructor
  · intro i
    rw [tcp?, tcp?, hc]
    cases c.connections[i]?.bind (·.connection) with
    | none => exact .none
    | some t => exact .some .refl
  · intro i
    rw [Client.reconnecting, Client.reconnecting, hc]
    exact id
  · exact Nat.le_of_eq (congrArg List.length hc).symm
  · simp [ht]
  · simp [ht]

theorem touched_log {c : Client} {entry : Entry} (hc : ∀ i, entry ≠ .constructed i)
    (ho : ∀ i, entry ≠ .onClosed i) : Touched closes c (c.log entry) := by
  constructor
  · intro i
    show Option.Rel _ (c.tcp? i) (c.tcp? i)
    cases c.tcp? i with
    | none => exact .none
    | some t => exact .some .refl
  · exact fun i hi => hi
  · exact Nat.le_refl _
  · intro i
    rw [Client.log, List.count_append, List.count_singleton, if_neg (by simpa using hc i)]
    rfl
  · intro i
    rw [Client.log, List.count_append, List.count_singleton, if_neg (by simpa using ho i)]
    rfl

theorem Touched.refl (c : Client) : Touched closes c c := .same rfl rfl

theorem Touched.trans {a b c : Client} (h : Touched closes a b) (h' : Touched closes b c) :
    Touched closes a c := by
  constructor
  · intro i
    have hab := h.tcp i
    have hbc := h'.tcp i
    generalize a.tcp? i = ta, b.tcp? i = tb, c.tcp? i = tc at hab hbc ⊢
    cases hab with
    | none => exact hbc
    | some hu =>
      cases hbc with
      | some hu' => exact .some (hu.trans hu')
  · exact fun i hi => h'.reconnecting i (h.reconnecting i hi)
  · exact Nat.le_trans h.known h'.known
  · exact fun i => (h'.made i).trans (h.made i)
  · exact fun i => (h'.freed i).trans (h.freed i)

theorem Touched.mono {p q : Nat → Prop} (hpq : ∀ i, p i → q i) {c c' : Client}
    (h : Touched p c c') : Touched q c c' := by
  constructor
  · intro i
    have hi := h.tcp i
    generalize c.tcp? i = t, c'.tcp? i = t' at hi ⊢
    cases hi with
    | none => exact .none
    | some hu => exact .some (hu.mono (hpq i))
  · exact h.reconnecting
  · exact h.known
  · exact h.made
  · exact h.freed

/-- Each connection is touched, and others may be added that are not in use. -/
theorem touched_of {c c' : Client} (ht : c'.trace = c.trace)
    (hl : c.connections.length ≤ c'.connections.length)
    (hconn : ∀ (i : Nat) (conn' : Connection), c'.connections[i]? = some conn' →
      (∃ conn, c.connections[i]? = some conn ∧ conn.Touched (closes i) conn') ∨
        (c.connections[i]? = none ∧ conn'.connection = none ∧
          conn'.reconnectTimer.started = false)) : Touched closes c c' := by
  have hnone {i : Nat} (hi : c'.connections[i]? = none) : c.connections[i]? = none := by
    rw [List.getElem?_eq_none_iff] at hi ⊢
    omega
  constructor
  · intro i
    cases hi : c'.connections[i]? with
    | none =>
      simp only [tcp?, hi, hnone hi]
      exact .none
    | some conn' =>
      rcases hconn i conn' hi with ⟨conn, hc, htouched⟩ | ⟨hc, hn, -⟩
      · simpa only [tcp?, hi, hc, Option.bind_some] using htouched.tcp
      · simp only [tcp?, hi, hc, Option.bind_none, Option.bind_some, hn]
        exact .none
  · intro i hr
    cases hi : c'.connections[i]? with
    | none => simp [Client.reconnecting, hi]
    | some conn' =>
      rcases hconn i conn' hi with ⟨conn, hc, htouched⟩ | ⟨hc, -, hs⟩
      · have hr : conn.reconnectTimer.started = false := by simpa [Client.reconnecting, hc] using hr
        simpa [Client.reconnecting, hi] using htouched.reconnecting hr
      · simpa [Client.reconnecting, hi] using hs
  · exact hl
  · simp [ht]
  · simp [ht]

theorem touched_updateConnection (c : Client) (i : Nat) {f : Connection → Connection}
    (hf : ∀ conn : Connection, conn.Touched (closes i) (f conn)) :
    Touched closes c (c.updateConnection i f) := by
  apply touched_of
  · rfl
  · simp [updateConnection]
  · intro j conn' hj
    left
    rw [getElem?_updateConnection] at hj
    split at hj
    · rename_i hij
      subst hij
      obtain ⟨conn, hc, rfl⟩ := Option.map_eq_some_iff.mp hj
      exact ⟨conn, hc, hf conn⟩
    · exact ⟨conn', hj, .same rfl rfl⟩

theorem touched_map (c : Client) {f : Connection → Connection}
    (hf : ∀ i (conn : Connection), conn.Touched (closes i) (f conn)) :
    Touched closes c { c with connections := c.connections.map f } := by
  apply touched_of
  · rfl
  · simp
  · intro j conn' hj
    left
    rw [List.getElem?_map] at hj
    obtain ⟨conn, hc, rfl⟩ := Option.map_eq_some_iff.mp hj
    exact ⟨conn, hc, hf j conn⟩

theorem touched_sendToAll (packet : WritePacket) (c : Client) :
    Touched closes c (c.sendPacket packet).2 := by
  cases h : c.hasSessionEnded with
  | true =>
    simp only [sendPacket, h, ↓reduceIte]
    exact .refl c
  | false =>
    rw [sendPacket_all packet h]
    exact touched_map c fun _ conn => conn.touched_sendPacket packet

theorem touched_addConnection (endpoint : Nat) (handlerSet : Bool) (c : Client) :
    Touched closes c (c.addConnection endpoint handlerSet).2 := by
  unfold addConnection
  split
  · exact .refl c
  · apply touched_of
    · rfl
    · simp
    · intro j conn' hj
      simp only [List.getElem?_append] at hj
      split at hj
      · exact Or.inl ⟨conn', hj, .same rfl rfl⟩
      · rename_i hlt
        right
        rw [List.getElem?_singleton] at hj
        split at hj
        · cases hj
          exact ⟨List.getElem?_eq_none_iff.mpr (by omega), rfl, rfl⟩
        · cases hj

/-- A call other than `connect`. -/
theorem touched_call (user : User) (faults : Nat → Faults) {call : Call}
    (hcall : ∀ i, call ≠ .connect i) (c : Client) :
    Touched (fun i => call = .close i) c (call.run user faults c) := by
  cases call with
  | connect i => exact absurd rfl (hcall i)
  | close i =>
    have hclosed : Touched (fun j => Call.close i = .close j) c
        (c.updateConnection i Connection.close) :=
      touched_updateConnection c i fun conn => conn.touched_close rfl
    exact hclosed.trans (touched_log (by simp) (by simp))
  | sendMessage i data => exact touched_updateConnection c i fun conn => conn.touched_sendMessage data
  | sendLogoutRequest i =>
    exact touched_updateConnection c i fun conn => conn.touched_sendLogoutRequest
  | sendDebug i text => exact touched_updateConnection c i fun conn => conn.touched_sendDebug text
  | setConnectionHandler i => exact touched_updateConnection c i fun _ => .same rfl rfl
  | setUsername i username =>
    apply touched_updateConnection
    intro conn
    unfold Connection.setUsername
    split <;> exact .same rfl rfl
  | setPassword i password =>
    apply touched_updateConnection
    intro conn
    unfold Connection.setPassword
    split <;> exact .same rfl rfl
  | setSession i session =>
    apply touched_updateConnection
    intro conn
    unfold Connection.setSession
    split <;> exact .same rfl rfl
  | start =>
    simp only [Call.run, start]
    split
    · exact .refl c
    · split
      · exact .refl c
      · exact .same rfl rfl
  | stop => exact .same rfl rfl
  | sendMessageToAll data =>
    simp only [Call.run, sendMessage]
    split
    · exact .refl c
    · cases data with
      | null size => exact .refl c
      | bytes data => exact touched_sendToAll _ c
  | sendLogoutRequestToAll => exact touched_map c fun _ conn => conn.touched_sendLogoutRequest
  | sendDebugToAll text => exact touched_map c fun _ conn => conn.touched_sendDebug text
  | setHandler => exact .same rfl rfl
  | setWritePacketsLimit limit => exact .same rfl rfl
  | addConnection endpoint handlerSet => exact touched_addConnection endpoint handlerSet c

end Client

/-- The user calls no `connect` from inside a callback. -/
def Env.ConnectsOutside (env : Env) : Prop := ∀ cb i, .connect i ∉ env.calls cb

/-- No connection is closed from inside its own `connect_success`, `logging_in`
or `login_success`. -/
def Env.KeepsOpen (env : Env) : Prop :=
  ∀ i, .close i ∉ env.calls (.connection i .connectSuccess) ∧
    (∀ request, .close i ∉ env.calls (.connection i (.loggingIn request))) ∧
    ∀ response, .close i ∉ env.calls (.connection i (.loginSuccess response))

namespace Client

theorem touched_user {env : Env} (henv : env.ConnectsOutside) (cb : Callback) (c : Client) :
    Touched (fun i => .close i ∈ env.calls cb) c (env.user cb c) := by
  unfold Env.user
  cases env.depth with
  | zero => exact .refl c
  | succ depth =>
    have hcalls (calls : List Call) (hconnect : ∀ i, .connect i ∉ calls) (c : Client) :
        Touched (fun i => .close i ∈ calls) c
          (calls.foldl (Call.run (env.reaction depth) env.faults) c) := by
      induction calls generalizing c with
      | nil => exact .refl c
      | cons call calls ih =>
        have hcall : ∀ i, call ≠ .connect i := by
          rintro i rfl
          exact hconnect i List.mem_cons_self
        have hhead := touched_call (env.reaction depth) env.faults hcall c
        have htail := ih (fun i hi => hconnect i (List.mem_cons_of_mem _ hi))
          (Call.run (env.reaction depth) env.faults c call)
        exact (hhead.mono fun i hi => hi ▸ List.mem_cons_self).trans
          (htail.mono fun i hi => List.mem_cons_of_mem _ hi)
    exact hcalls (env.calls cb) (henv cb) c

end Client
end SoupBin.ClientSide
