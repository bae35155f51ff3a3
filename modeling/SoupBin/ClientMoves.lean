import SoupBin.ClientTouched
import SoupBin.SocketJournal
import SoupBin.SocketSettled

/-!
# What a client can do

Every event is a sequence of small moves, made by the library and by the user
from inside callbacks. A move says what it changes and what is known when it is
made. Properties of every run are proved of the moves, and of the few steps that
are none: a connection is established, torn down or opened again, the client is
started or stopped.
-/

namespace SoupBin.ClientSide

/-! ## Tcp_connection -/

namespace TcpConnection

/-- The socket has posted `closed`, which may have come. -/
def Signaled (t : TcpConnection) : Prop := 0 < t.socket.posted ∨ t.socketClosed = true

/-- `u` differs from `t` in what does not concern its state. -/
structure Aside (t u : TcpConnection) : Prop where
  state : u.state = t.state
  handlerSet : u.handlerSet = t.handlerSet
  closing : u.socket.closing = t.socket.closing
  signaled : u.Signaled → t.Signaled ∨ t.socket.closing = true

/-- A disconnect that changes the state. -/
structure Disconnected (reason : DisconnectReason) (t u : TcpConnection) : Prop where
  before : t.state.state ≠ .disconnected
  state : u.state = ⟨.disconnected, if t.state.reason = .none then reason else t.state.reason,
    t.state.causes ++ [reason]⟩
  handlerSet : u.handlerSet = t.handlerSet
  closing : u.socket.closing = true

/-- The reasons that the client observes. -/
def observed : DisconnectReason → Bool
  | .none | .userInitiated | .superseded | .logoutRequest => false
  | _ => true

/-- What the library does. A read that is aborted although the socket is open is
allowed if `aborts` holds. -/
inductive Act (aborts : Prop) (t : TcpConnection) : TcpConnection → Prop where
  | aside {u : TcpConnection} : Aside t u → Act aborts t u
  | disconnect {u : TcpConnection} (reason : DisconnectReason) : observed reason = true →
      (reason = .unmanagedAbort → aborts ∨ t.socket.closing = true) →
      Disconnected reason t u → Act aborts t u

theorem Aside.refl (t : TcpConnection) : Aside t t := ⟨rfl, rfl, rfl, Or.inl⟩

theorem disconnect_cases (reason : DisconnectReason) (t : TcpConnection) :
    t.disconnect reason = t ∨ Disconnected reason t (t.disconnect reason) := by
  unfold TcpConnection.disconnect ConnectionState.disconnect
  by_cases h : t.state.state = .disconnected
  · left
    simp [h]
  · right
    simp only [h, ↓reduceIte]
    exact ⟨h, rfl, rfl, Socket.close_closing _⟩

theorem act_disconnect {aborts : Prop} {reason : DisconnectReason} (hr : observed reason = true)
    (t : TcpConnection) (ha : reason = .unmanagedAbort → aborts ∨ t.socket.closing = true) :
    Act aborts t (t.disconnect reason) := by
  rcases t.disconnect_cases reason with heq | hd
  · rw [heq]
    exact .aside (.refl t)
  · exact .disconnect reason hr ha hd

theorem aside_asyncWrite (packet : WritePacket) (t : TcpConnection) :
    Aside t (t.asyncWrite packet).2 := by
  have hf := Socket.follows_asyncWrite t.socket packet
  refine ⟨rfl, rfl, hf.closing, ?_⟩
  intro hs
  left
  simpa only [Signaled, TcpConnection.asyncWrite, hf.posted] using hs

theorem aside_updateHeartbeatTimer (f : HeartbeatTimer → HeartbeatTimer) (t : TcpConnection) :
    Aside t (t.updateHeartbeatTimer f) := ⟨rfl, rfl, rfl, Or.inl⟩

theorem aside_updateLoginTimer (f : LoginTimer → LoginTimer) (t : TcpConnection) :
    Aside t (t.updateLoginTimer f) := ⟨rfl, rfl, rfl, Or.inl⟩

theorem Aside.trans {t u v : TcpConnection} (h : Aside t u) (h' : Aside u v) : Aside t v := by
  refine ⟨h'.state.trans h.state, h'.handlerSet.trans h.handlerSet, h'.closing.trans h.closing, ?_⟩
  intro hs
  rcases h'.signaled hs with hs | hc
  · exact h.signaled hs
  · exact Or.inr (h.closing ▸ hc)

theorem aside_sendPacket (packet : WritePacket) (t : TcpConnection) :
    Aside t (t.sendPacket packet).2 := by
  unfold TcpConnection.sendPacket
  split
  · exact .refl t
  · dsimp only
    split
    · exact (aside_asyncWrite packet t).trans (aside_updateHeartbeatTimer _ _)
    · exact aside_asyncWrite packet t

theorem aside_sendDebugPacket (text : Bytes) (t : TcpConnection) :
    Aside t (t.sendDebugPacket text).2 := by
  unfold TcpConnection.sendDebugPacket
  split
  · exact .refl t
  · exact aside_asyncWrite _ t

theorem aside_internal {f : Socket → Socket} (hf : Socket.Handler.Internal f) (t : TcpConnection) :
    Aside t (t.updateSocket f) := by
  refine ⟨rfl, rfl, hf.closing t.socket, ?_⟩
  intro hs
  cases hopen : t.socket.closing with
  | true => exact Or.inr rfl
  | false => exact Or.inl (by simpa only [Signaled, TcpConnection.updateSocket, hf.posted hopen] using hs)

theorem aside_asyncRead (t : TcpConnection) : Aside t (t.updateSocket Socket.asyncRead) := by
  have hf := Socket.follows_asyncRead t.socket
  refine ⟨rfl, rfl, hf.closing, ?_⟩
  intro hs
  left
  simpa only [Signaled, TcpConnection.updateSocket, hf.posted] using hs

theorem aside_noteClosed {t : TcpConnection} (h : 0 < t.socket.posted) : Aside t t.noteClosed :=
  ⟨rfl, rfl, rfl, fun _ => Or.inl (Or.inl h)⟩

/-- A `Tcp_connection` that has just been made. -/
structure Fresh (t : TcpConnection) : Prop where
  state : t.state = {} ∧ t.socket.closing = false ∨
    t.state = ⟨.disconnected, .connectFailure, [.connectFailure]⟩ ∧ t.socket.closing = true
  signaled : t.Signaled → t.socket.closing = true

theorem Fresh.not_loggedIn {t : TcpConnection} (h : Fresh t) : t.state.state ≠ .loggedIn := by
  rcases h.state with ⟨hs, -⟩ | ⟨hs, -⟩ <;> simp [hs]

end TcpConnection

/-- What is left open of an event: whether sequenced data is passed on when the
session has ended, and whether a read is aborted although its socket is open. -/
structure Facts where
  late : Prop
  aborts : Prop

/-- The same, the calls that the user makes, and whether a handler may be told that
something failed. -/
structure Rules extends Facts where
  call : Call → Prop
  errors : Prop

/-! ## Connection -/

/-- What is done to a connection, with the calls of the user it takes. -/
inductive Connection.Act (R : Rules) (i : Nat) (conn : Connection) : Connection → Prop where
  | tcp {f : TcpConnection → TcpConnection} :
      (∀ t, conn.connection = some t → t.Act R.aborts (f t)) → Act R i conn (conn.updateTcp f)
  | close : R.call (.close i) → Act R i conn conn.close
  | configure {conn' : Connection} : conn'.connection = conn.connection →
      conn'.reconnectTimer.started = conn.reconnectTimer.started → conn'.session = conn.session →
      conn'.hasSessionEnded = conn.hasSessionEnded → Act R i conn conn'
  | setSession (session : Bytes) : R.call (.setSession i session) →
      Act R i conn { conn with session := session }
  | ended : Act R i conn conn.setSessionEnded

theorem Connection.Act.refl (R : Rules) (i : Nat) (conn : Connection) :
    Connection.Act R i conn conn := .configure rfl rfl rfl rfl

theorem Connection.sendWith_eq (send : TcpConnection → WriteError × TcpConnection)
    (conn : Connection) : (conn.sendWith send).2 = conn.updateTcp fun t => (send t).2 := by
  unfold sendWith updateTcp
  obtain ⟨_, _, _, _, _, _, _, connection, _, _⟩ := conn
  cases connection <;> rfl

section
variable (R : Rules) (i : Nat) (conn : Connection)

theorem Connection.act_sendWith {send : TcpConnection → WriteError × TcpConnection}
    (hs : ∀ t, TcpConnection.Aside t (send t).2) :
    Connection.Act R i conn (conn.sendWith send).2 := by
  rw [sendWith_eq]
  exact .tcp fun t _ => .aside (hs t)

theorem Connection.act_sendPacket (packet : WritePacket) :
    Connection.Act R i conn (conn.sendPacket packet).2 := by
  unfold Connection.sendPacket
  split
  · exact .refl _ _ _
  · exact act_sendWith _ _ _ (TcpConnection.aside_sendPacket packet)

theorem Connection.act_sendMessage (data : Span) :
    Connection.Act R i conn (conn.sendMessage data).2 := by
  unfold Connection.sendMessage
  split
  · exact .refl _ _ _
  · cases data with
    | null size => exact .refl _ _ _
    | bytes data => exact act_sendPacket _ _ _ _

theorem Connection.act_sendLogoutRequest :
    Connection.Act R i conn conn.sendLogoutRequest.2 :=
  act_sendWith _ _ _ (TcpConnection.aside_sendPacket _)

theorem Connection.act_sendDebug (text : Bytes) :
    Connection.Act R i conn (conn.sendDebug text).2 := by
  unfold Connection.sendDebug
  split
  · exact .refl _ _ _
  · exact act_sendWith _ _ _ (TcpConnection.aside_sendDebugPacket text)

end

/-! ## Client -/

def ConnectionCallback.isDisconnect : ConnectionCallback → Bool
  | .disconnect _ => true
  | _ => false

def ConnectionCallback.fails : ConnectionCallback → Bool
  | .transportError _ _ | .protocolViolation _ => true
  | _ => false

/-- Entries that may come at any time. -/
def Entry.plain : Entry → Bool
  | .called _ (.connection _ cb) => !cb.isDisconnect
  | .connectCalled _ | .arrived _ _ | .assertionFailed => true
  | _ => false

def Entry.fails : Entry → Bool
  | .called _ (.connection _ cb) => cb.fails
  | _ => false

def Entry.isDisconnect : Entry → Bool
  | .called _ (.connection _ cb) => cb.isDisconnect
  | _ => false

namespace Client

/-- `connection_.emplace`, first half. -/
def vacate (i : Nat) (c : Client) : Client :=
  (c.updateConnection i (·.setConnection none)).log (.constructed i)

/-- `connection_.emplace`, second half. -/
def install (i : Nat) (t : TcpConnection) (c : Client) : Client :=
  c.updateConnection i (·.setConnection (some t))

/-- A login is taken: the state, then the rest. -/
def takeLogin (i : Nat) (response : LoginAcceptedPacket) (c : Client) : Client :=
  (c.updateTcp i fun t => (t.updateLoginTimer LoginTimer.stop).setState .loggedIn).acceptLogin
    i response

/-- What else changes. -/
structure Aside (c c' : Client) : Prop where
  connections : c'.connections = c.connections
  nextSequenceNumber : c'.nextSequenceNumber = c.nextSequenceNumber
  hasSessionEnded : c'.hasSessionEnded = c.hasSessionEnded
  started : c'.started = c.started
  trace : c'.trace = c.trace

/-- Some moves, one after the other. A `Tcp_connection` is made in one of them,
which the user's calls from inside its callbacks are part of. -/
inductive Moves (R : Rules) : Client → Client → Prop where
  | refl (c : Client) : Moves R c c
  | trans {a b c : Client} : Moves R a b → Moves R b c → Moves R a c
  | note {c : Client} {entry : Entry} : entry.plain = true → (entry.fails = true → R.errors) →
      Moves R c (c.log entry)
  | returned {c : Client} {i : Nat} : c.reconnecting i = false →
      (∀ t, c.tcp? i = some t → t.state.state = .disconnected) →
      Moves R c (c.log (.closeReturned i ((c.tcp? i).map fun t => t.state.reason)))
  | aside {c c' : Client} : Aside c c' → Moves R c c'
  | added {c : Client} (conn : Connection) : conn.connection = none →
      conn.reconnectTimer.started = false → conn.session = [] → conn.hasSessionEnded = false →
      Moves R c { c with connections := c.connections ++ [conn] }
  | next {c : Client} (n : Nat) : Moves R c (c.setNextSequenceNumber n)
  | connection {c : Client} {i : Nat} {f : Connection → Connection} :
      (∀ conn, c.connections[i]? = some conn → Connection.Act R i conn (f conn)) →
      Moves R c (c.updateConnection i f)
  | login {c : Client} {i : Nat} {conn : Connection} {t : TcpConnection}
      {response : LoginAcceptedPacket} : c.connections[i]? = some conn →
      conn.connection = some t → t.state.state = .connected →
      conn.session = [] ∨ response.session = conn.session → Moves R c (c.takeLogin i response)
  | deliver {c : Client} {n : Nat} {data : Bytes} : c.nextSequenceNumber = n →
      (c.hasSessionEnded = true → R.late) →
      Moves R c ((c.setNextSequenceNumber ((n + 1) % 2 ^ 64)).log
        (.called c.handlerSet (.sequencedData n data)))
  | endSession {c : Client} : c.hasSessionEnded = false →
      Moves R c ({ c with hasSessionEnded := true }.log (.called c.handlerSet .endOfSession))
  | opened {c c' : Client} {i : Nat} {t : TcpConnection} : R.call (.connect i) →
      c.trace.getLast? = some (.connectCalled i) → i < c.connections.length → c.started = true → c.tcp? i = none → c.reconnecting i = false →
      Moves R (c.vacate i) c' → t.Fresh → Moves R c (c'.install i t)

/-- The connection `i`, if there is one, satisfies `P`. -/
def At (i : Nat) (P : Connection → Prop) (c : Client) : Prop :=
  ∀ conn, c.connections[i]? = some conn → P conn

theorem At.update {i j : Nat} {P Q : Connection → Prop} {c : Client} (h : c.At i P)
    {f : Connection → Connection} (hsame : ∀ conn, P conn → Q conn)
    (hf : j = i → ∀ conn, c.connections[i]? = some conn → P conn → Q (f conn)) :
    (c.updateConnection j f).At i Q := by
  intro conn' hconn'
  rw [getElem?_updateConnection] at hconn'
  split at hconn'
  · rename_i hj
    obtain ⟨conn, hconn, rfl⟩ := Option.map_eq_some_iff.mp hconn'
    exact hf hj conn hconn (h conn hconn)
  · exact hsame conn' (h conn' hconn')

/-- What is done to any connection keeps `P`. -/
theorem At.map {i : Nat} {P : Connection → Prop} {c : Client} (h : c.At i P) (j : Nat)
    {f : Connection → Connection} (hf : ∀ conn, P conn → P (f conn)) :
    (c.updateConnection j f).At i P :=
  h.update (fun _ hp => hp) fun _ conn _ hp => hf conn hp

theorem at_updated {i : Nat} {P : Connection → Prop} {c : Client} {f : Connection → Connection}
    (hf : ∀ conn, P (f conn)) : (c.updateConnection i f).At i P := by
  intro conn' hconn'
  rw [getElem?_updateConnection, if_pos rfl] at hconn'
  obtain ⟨conn, _, rfl⟩ := Option.map_eq_some_iff.mp hconn'
  exact hf conn

theorem At.same {i : Nat} {P : Connection → Prop} {c c' : Client} (h : c.At i P)
    (hc : c'.connections = c.connections) : c'.At i P := by
  rw [At, hc]
  exact h

theorem At.takeLogin {i : Nat} {P : Connection → Prop} {c : Client} (h : c.At i P) (j : Nat)
    (response : LoginAcceptedPacket)
    (htcp : ∀ conn, P conn → P (conn.updateTcp fun t =>
      (t.updateLoginTimer LoginTimer.stop).setState .loggedIn))
    (haccept : ∀ conn, P conn → P (conn.accept response)) : (c.takeLogin j response).At i P := by
  have hupdated := (h.map j htcp).map j haccept
  exact hupdated.same rfl

theorem At.added {i : Nat} {P : Connection → Prop} {c : Client} (h : c.At i P) {conn : Connection}
    (hP : P conn) : ({ c with connections := c.connections ++ [conn] } : Client).At i P := by
  intro conn' hconn'
  dsimp only at hconn'
  rw [List.getElem?_append] at hconn'
  split at hconn'
  · exact h conn' hconn'
  · have hmem := List.mem_of_getElem? hconn'
    rw [List.mem_singleton] at hmem
    rw [hmem]
    exact hP

theorem Moves.mono {R S : Rules} (hcall : ∀ call, R.call call → S.call call)
    (hfacts : R.toFacts = S.toFacts) (herrors : R.errors → S.errors) {c c' : Client} (h : Moves R c c') : Moves S c c' := by
  have hact {i : Nat} {conn conn' : Connection} (ha : Connection.Act R i conn conn') :
      Connection.Act S i conn conn' := by
    cases ha with
    | tcp ht => exact .tcp (hfacts ▸ ht)
    | close hc => exact .close (hcall _ hc)
    | configure h₁ h₂ h₃ h₄ => exact .configure h₁ h₂ h₃ h₄
    | setSession session hc => exact .setSession session (hcall _ hc)
    | ended => exact .ended
  induction h with
  | refl c => exact .refl c
  | trans _ _ ih₁ ih₂ => exact ih₁.trans ih₂
  | note he hf => exact .note he fun h => herrors (hf h)
  | returned hr ht => exact .returned hr ht
  | aside ha => exact .aside ha
  | added conn h₁ h₂ h₃ h₄ => exact .added conn h₁ h₂ h₃ h₄
  | next n => exact .next n
  | connection hf => exact .connection fun conn hconn => hact (hf conn hconn)
  | login hi ht hs hsession => exact .login hi ht hs hsession
  | deliver hn hl => exact .deliver hn (hfacts ▸ hl)
  | endSession he => exact .endSession he
  | opened hc hl hi hs hv hr _ ht ih => exact .opened (hcall _ hc) hl hi hs hv hr ih ht

/-- Moves tell no one that a connection is gone. -/
theorem Moves.adds {R : Rules} {c c' : Client} (h : Moves R c c') :
    Adds (fun entry => entry.isDisconnect = false ∧ (entry.fails = true → R.errors))
      c.trace c'.trace := by
  induction h with
  | refl c => exact .refl _ _
  | trans _ _ ih₁ ih₂ => exact ih₁.trans ih₂
  | @note c entry hplain hfails =>
    refine .one _ ⟨?_, hfails⟩
    cases entry with
    | called _ cb =>
      cases cb with
      | connection _ cb => simpa [Entry.plain, Entry.isDisconnect] using hplain
      | _ => rfl
    | _ => rfl
  | returned _ _ => exact .one _ ⟨rfl, nofun⟩
  | aside ha =>
    rw [ha.trace]
    exact .refl _ _
  | login _ _ _ _ => exact .one _ ⟨rfl, nofun⟩
  | deliver _ _ => exact .one _ ⟨rfl, nofun⟩
  | endSession _ => exact .one _ ⟨rfl, nofun⟩
  | opened _ _ _ _ _ _ _ _ ih => exact (Adds.one _ ⟨rfl, nofun⟩).trans ih
  | _ => exact .refl _ _

/-- Every connection takes a step of its own. -/
theorem moves_map {R : Rules} {c : Client} {f : Connection → Connection}
    (hf : ∀ i conn, Connection.Act R i conn (f conn)) :
    Moves R c { c with connections := c.connections.map f } := by
  apply map_of_modify (P := fun l => Moves R c { c with connections := l })
  · intro n l hl
    exact hl.trans (.connection fun conn _ => hf n conn)
  · exact .refl c

end Client

end SoupBin.ClientSide
