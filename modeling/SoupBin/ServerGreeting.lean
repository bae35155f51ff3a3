import SoupBin.ServerConduct
import SoupBin.SocketJournal
import SoupBin.TimerStops

/-!
# The first packet after a login

After a login has been accepted the first packet on the connection, debug
packets apart, should be the response. It is queued last: after the state has
become `logged_in` and after `login_success`.
-/

namespace SoupBin.ServerSide

namespace TcpConnection

/-! ## What a connection has enqueued -/

def enqueued (t : TcpConnection) : List WritePacket := t.socket.acceptedPackets

def OnlyDebug (t : TcpConnection) : Prop :=
  ∀ packet ∈ t.enqueued, packet.packetType = DebugPacket.packetType

/-- The response is there, with nothing but debug packets before it. -/
def Greeted (t : TcpConnection) : Prop :=
  ∃ before packet after, t.enqueued = before ++ packet :: after ∧
    (∀ q ∈ before, q.packetType = DebugPacket.packetType) ∧
    packet.packetType = LoginAcceptedPacket.packetType

/-- The first packet enqueued, debug packets apart, is a Login Accepted packet. -/
def GreetsFirst (t : TcpConnection) : Prop :=
  ∀ packet, t.enqueued.find? (·.packetType ≠ DebugPacket.packetType) = some packet →
    packet.packetType = LoginAcceptedPacket.packetType

theorem OnlyDebug.greetsFirst {t : TcpConnection} (h : t.OnlyDebug) : t.GreetsFirst := by
  intro packet hp
  have hne := List.find?_some hp
  simp only [ne_eq, decide_eq_true_eq] at hne
  exact absurd (h packet (List.mem_of_find?_eq_some hp)) hne

theorem Greeted.greetsFirst {t : TcpConnection} (h : t.Greeted) : t.GreetsFirst := by
  obtain ⟨before, response, after, heq, hbefore, hresponse⟩ := h
  intro packet hp
  have hnone : before.find? (·.packetType ≠ DebugPacket.packetType) = none := by
    apply List.find?_eq_none.mpr
    intro q hq
    simp [hbefore q hq]
  rw [heq, List.find?_append, hnone, Option.none_or, List.find?_cons, hresponse] at hp
  have hdec : decide (LoginAcceptedPacket.packetType ≠ DebugPacket.packetType) = true := by decide
  rw [hdec] at hp
  cases hp
  exact hresponse

/-- What every connection keeps; `logged` says whether its login was accepted. -/
structure Polite (logged : Prop) (t : TcpConnection) : Prop where
  begun : t.state.state ≠ .connecting
  connected : t.state.state = .connected → ¬logged ∧ t.OnlyDebug ∧ t.port = none ∧
    t.socket.closing = false ∧ t.heartbeatTimer.watch = {}
  loggedIn : t.state.state = .loggedIn → t.Greeted
  disconnecting : t.state.state = .disconnecting → ¬logged
  disconnected : t.state.state = .disconnected → t.socket.closing = true
  first : logged → t.OnlyDebug ∨ t.Greeted

/-- The login is accepted, and the response is still to come. With `room` the
queue has space for it and for `n` packets more. The port and the handlers are
those of `t₀`, and so is whether the timer runs. -/
structure Greeting (t₀ : TcpConnection) (room : Prop) (n : Nat) (t : TcpConnection) : Prop where
  state : t.state.state = .loggedIn
  port : t.port = t₀.port
  handlers : t.handlerSet = t₀.handlerSet ∧ t.acceptorHandlerSet = t₀.acceptorHandlerSet
  timer : t.heartbeatTimer.started = t₀.heartbeatTimer.started
  onlyDebug : t.OnlyDebug
  closing : t.socket.closing = false
  space : room → t.socket.writePackets.length + n < t.socket.writePacketsLimit

variable {logged : Prop} {t : TcpConnection}

/-- An update that neither enqueues nor closes. -/
theorem Polite.update (h : Polite logged t) {u : TcpConnection} (hs : u.state = t.state)
    (hp : u.port = t.port) (he : u.enqueued = t.enqueued)
    (hc : u.socket.closing = t.socket.closing)
    (hw : t.state.state = .connected → u.heartbeatTimer.watch = t.heartbeatTimer.watch) :
    Polite logged u := by
  have honly : u.OnlyDebug ↔ t.OnlyDebug := by rw [OnlyDebug, OnlyDebug, he]
  have hgreeted : u.Greeted ↔ t.Greeted := by rw [Greeted, Greeted, he]
  constructor
  · rw [hs]
    exact h.begun
  · intro hst
    rw [hs] at hst
    obtain ⟨hl, ho, hn, hcl, hwatch⟩ := h.connected hst
    exact ⟨hl, honly.mpr ho, hp.trans hn, hc.trans hcl, (hw hst).trans hwatch⟩
  · rw [hs, hgreeted]
    exact h.loggedIn
  · rw [hs]
    exact h.disconnecting
  · rw [hs, hc]
    exact h.disconnected
  · rw [honly, hgreeted]
    exact h.first

theorem enqueued_asyncWrite (t : TcpConnection) (packet : WritePacket) :
    (t.asyncWrite packet).2.enqueued =
      if t.socket.Takes then t.enqueued ++ [packet] else t.enqueued := by
  split
  · rename_i h
    exact (Socket.asyncWrite_taken h packet).2.2
  · rename_i h
    exact (Socket.asyncWrite_refused h packet).2.2

theorem Greeted.append {u : TcpConnection} (h : t.Greeted) {packet : WritePacket}
    (he : u.enqueued = t.enqueued ++ [packet]) : u.Greeted := by
  obtain ⟨before, response, after, heq, hbefore, hresponse⟩ := h
  exact ⟨before, response, after ++ [packet], by simp [he, heq], hbefore, hresponse⟩

theorem OnlyDebug.append {u : TcpConnection} (h : t.OnlyDebug) {packet : WritePacket}
    (he : u.enqueued = t.enqueued ++ [packet])
    (hp : packet.packetType = DebugPacket.packetType) : u.OnlyDebug := by
  intro q hq
  rw [he, List.mem_append, List.mem_singleton] at hq
  rcases hq with hq | rfl
  · exact h q hq
  · exact hp

/-- Before the login only debug packets may be enqueued. -/
theorem Polite.asyncWrite (h : Polite logged t) {packet : WritePacket}
    (hp : packet.packetType = DebugPacket.packetType ∨ t.state.state ≠ .connected) :
    Polite logged (t.asyncWrite packet).2 := by
  have he := t.enqueued_asyncWrite packet
  have hc : (t.asyncWrite packet).2.socket.closing = t.socket.closing :=
    Socket.asyncWrite_closing _ _
  by_cases ht : t.socket.Takes
  · rw [if_pos ht] at he
    constructor
    · exact h.begun
    · intro hs
      obtain ⟨hl, ho, hn, hcl, hw⟩ := h.connected hs
      have hdebug := hp.resolve_right (not_not.mpr hs)
      exact ⟨hl, ho.append he hdebug, hn, hc.trans hcl, hw⟩
    · intro hs
      exact (h.loggedIn hs).append he
    · exact h.disconnecting
    · rw [hc]
      exact h.disconnected
    · intro hl
      cases hs : t.state.state with
      | connecting => exact absurd hs h.begun
      | connected => exact absurd hl (h.connected hs).1
      | loggedIn => exact Or.inr ((h.loggedIn hs).append he)
      | disconnecting => exact absurd hl (h.disconnecting hs)
      | disconnected =>
        have hclosing := h.disconnected hs
        rw [ht.1] at hclosing
        cases hclosing
  · rw [if_neg ht] at he
    exact h.update rfl rfl he hc fun _ => rfl

theorem Polite.count (h : Polite logged t) {f : HeartbeatTimer → HeartbeatTimer}
    (hf : ∀ timer, (f timer).watch = timer.watch) : Polite logged (t.updateHeartbeatTimer f) :=
  h.update rfl rfl rfl rfl fun _ => hf _

theorem Polite.sendPacket (h : Polite logged t) (packet : WritePacket) :
    Polite logged (t.sendPacket packet).2 := by
  unfold TcpConnection.sendPacket
  split
  · exact h
  · rename_i hs
    have hwritten : Polite logged (t.asyncWrite packet).2 :=
      h.asyncWrite (Or.inr (by simp [not_not.mp hs]))
    dsimp only
    split
    · exact hwritten.count HeartbeatTimer.watch_incrementSendCount
    · exact hwritten

theorem Polite.sendDebugPacket (h : Polite logged t) (text : Bytes) :
    Polite logged (t.sendDebugPacket text).2 := by
  unfold TcpConnection.sendDebugPacket
  split
  · exact h
  · exact h.asyncWrite (Or.inl (WritePacket.packetType_ofData _ _))

theorem Polite.down {u : TcpConnection} (hs : u.state.state = .disconnected)
    (hc : u.socket.closing = true) (hf : logged → u.OnlyDebug ∨ u.Greeted) : Polite logged u := by
  constructor
  · simp [hs]
  · simp [hs]
  · simp [hs]
  · simp [hs]
  · exact fun _ => hc
  · exact hf

theorem Polite.disconnect (h : Polite logged t) (reason : DisconnectReason) :
    Polite logged (t.disconnect reason) := by
  rcases t.disconnect_eq reason with ⟨heq, -⟩ | ⟨hs, hsocket, -⟩
  · rw [heq]
    exact h
  · have he : (t.disconnect reason).enqueued = t.enqueued := by
      rw [enqueued, hsocket]
      exact Socket.close_accepted _
    apply Polite.down hs
    · rw [hsocket]
      exact Socket.close_closing _
    · rw [OnlyDebug, Greeted, he]
      exact h.first

/-- A login that is not accepted. -/
theorem Polite.prepareGracefulDisconnect (h : Polite logged t) (hs : t.state.state = .connected)
    (reason : DisconnectReason) : Polite logged (t.prepareGracefulDisconnect reason) := by
  obtain ⟨hl, -⟩ := h.connected hs
  have hstate : (t.prepareGracefulDisconnect reason).state.state = .disconnecting := by
    simp [TcpConnection.prepareGracefulDisconnect, ConnectionState.initiateDisconnect,
      ConnectionState.isClosing, hs]
  constructor
  · simp [hstate]
  · simp [hstate]
  · simp [hstate]
  · exact fun _ => hl
  · simp [hstate]
  · exact fun h => absurd h hl

/-! ### Between the acceptance and the response -/

variable {t₀ : TcpConnection} {n : Nat} {room : Prop}

theorem Greeting.mono (h : Greeting t₀ room (n + 1) t) :
    Greeting t₀ room n t :=
  { h with space := fun hr => by have := h.space hr; omega }

theorem Greeting.without_room {m : Nat} (h : Greeting t₀ room n t) (hr : ¬room) :
    Greeting t₀ room m t :=
  { h with space := fun hroom => absurd hroom hr }

theorem Greeting.sendDebugPacket (h : Greeting t₀ room (n + 1) t) (text : Bytes) :
    Greeting t₀ room n (t.sendDebugPacket text).2 := by
  have hopen : ¬(t.state.state = .connecting ∨ t.state.isClosing = true) := by
    simp [ConnectionState.isClosing, h.state]
  unfold TcpConnection.sendDebugPacket
  rw [if_neg hopen]
  have he := t.enqueued_asyncWrite (.ofData DebugPacket.packetType text)
  by_cases ht : t.socket.Takes
  · rw [if_pos ht] at he
    have hq := (Socket.asyncWrite_taken ht (.ofData DebugPacket.packetType text)).2.1
    constructor
    · exact h.state
    · exact h.port
    · exact h.handlers
    · exact h.timer
    · exact h.onlyDebug.append he (WritePacket.packetType_ofData _ _)
    · exact (Socket.asyncWrite_closing _ _).trans h.closing
    · intro hr
      have hspace := h.space hr
      show ((t.socket.asyncWrite _).2.writePackets).length + n <
        (t.socket.asyncWrite _).2.writePacketsLimit
      rw [hq, Socket.asyncWrite_limit, List.length_append, List.length_singleton]
      omega
  · rw [if_neg ht] at he
    have hq := (Socket.asyncWrite_refused ht (.ofData DebugPacket.packetType text)).2.1
    constructor
    · exact h.state
    · exact h.port
    · exact h.handlers
    · exact h.timer
    · rw [OnlyDebug, he]
      exact h.onlyDebug
    · exact (Socket.asyncWrite_closing _ _).trans h.closing
    · intro hr
      have hspace := h.space hr
      show ((t.socket.asyncWrite _).2.writePackets).length + n <
        (t.socket.asyncWrite _).2.writePacketsLimit
      rw [hq, Socket.asyncWrite_limit]
      omega

/-- The response finds room. -/
theorem Greeting.respond (h : Greeting t₀ True n t) {packet : WritePacket}
    (hp : packet.packetType = LoginAcceptedPacket.packetType) :
    Polite logged (t.writeBestEffort packet) := by
  have ht : t.socket.Takes := by
    have hspace := h.space trivial
    exact ⟨h.closing, by omega⟩
  have he := t.enqueued_asyncWrite packet
  rw [if_pos ht] at he
  have hgreeted : (t.writeBestEffort packet).Greeted :=
    ⟨t.enqueued, packet, [], he, h.onlyDebug, hp⟩
  have hs : (t.writeBestEffort packet).state.state = .loggedIn := h.state
  constructor
  · simp [hs]
  · simp [hs]
  · exact fun _ => hgreeted
  · simp [hs]
  · simp [hs]
  · exact fun _ => Or.inr hgreeted

/-- The heartbeat timer failed to start. -/
theorem Greeting.disconnect (h : Greeting t₀ room n t) (reason : DisconnectReason)
    (logged : Prop) :
    Polite logged (t.disconnect reason) ∧ (t.disconnect reason).state.state = .disconnected := by
  rcases t.disconnect_eq reason with ⟨-, hs⟩ | ⟨hs, hsocket, -⟩
  · rw [h.state] at hs
    cases hs
  · have he : (t.disconnect reason).enqueued = t.enqueued := by
      rw [enqueued, hsocket]
      exact Socket.close_accepted _
    refine ⟨Polite.down hs ?_ ?_, hs⟩
    · rw [hsocket]
      exact Socket.close_closing _
    · intro _
      left
      rw [OnlyDebug, he]
      exact h.onlyDebug

end TcpConnection

/-! ## What the user may do before the response -/

/-- A `send_message` on the port `p` that is not refused for its arguments. -/
def Call.disturbs (p : Nat) : Call → Bool
  | .sendMessage q (.bytes payload) => q == p && payload != []
  | _ => false

def Call.sends : Call → Bool
  | .sendMessage _ _ => true
  | .sendDebug _ _ => true
  | _ => false

/-- A `send_debug` on the port `p` that is not refused for its arguments. -/
def Call.debugs (p : Nat) : Call → Bool
  | .sendDebug q text => q == p && text != []
  | _ => false

namespace Acceptor

def LoggedIn (k : Nat) (s : Acceptor) : Prop := ∃ response, .loginAccepted k response ∈ s.trace

def sessionEnded (p : Nat) (s : Acceptor) : Bool := (s.ports[p]?.map (·.hasSessionEnded)).getD false

/-- The error with which the heartbeat timer fails to start. -/
def Faults.heartbeat (faults : Faults) : Option IoError :=
  faults.heartbeatTimer <|> faults.heartbeatSchedule

/-- The calls from inside `login_success`. -/
def callsAtLogin (script : Script) (response : LoginAcceptedPacket) (p : Nat) (t : TcpConnection) :
    List Call :=
  if t.handlerSet then script (.port p (.loginSuccess response)) else []

/-- The calls from inside `transport_error`, if the heartbeat timer fails to start. -/
def callsAtFault (script : Script) (faults : Faults) (p : Nat) (t : TcpConnection) : List Call :=
  match faults.heartbeat with
  | none => []
  | some ec =>
    if t.handlerSet then script (.port p (.transportError ec "timer expires_at"))
    else if t.acceptorHandlerSet then script (.acceptor (.transportError ec "timer expires_at"))
    else []

/-- Before the response is queued the user sends no message on the port, or its
session has ended, and the queue has room for the debug texts that the user
sends and for the response. -/
def responseFirst (script : Script) (faults : Faults) (k : Nat) (response : LoginAcceptedPacket)
    (s : Acceptor) : Bool :=
  match s.tcp? k with
  | none => true
  | some t =>
    match t.port with
    | none => true
    | some p =>
      (s.sessionEnded p ||
        (callsAtLogin script response p t ++ callsAtFault script faults p t).all
          (!·.disturbs p)) &&
      (faults.heartbeat.isSome ||
        t.socket.writePackets.length + (callsAtLogin script response p t).countP (·.debugs p) <
          t.socket.writePacketsLimit)

/-- The packet is a login request that will be accepted: the response, and the
state in which it is accepted. -/
def accepting (script : Script) (k : Nat) (packet : ReadPacket) (s : Acceptor) :
    Option (LoginAcceptedPacket × Acceptor) :=
  if packet.packetType = LoginRequestPacket.packetType ∧
      packet.payload.length = LoginRequestPacket.payloadSize ∧
      (s.tcpState k).state = .connected then
    match s.answerLogin script k packet.payload with
    | (.ok response, s) => some (response, s)
    | (.error _, _) => none
  else none

/-- If the packet is a login request that will be accepted, the response comes first. -/
def answersFirst (script : Script) (faults : Faults) (k : Nat) (packet : ReadPacket)
    (s : Acceptor) : Bool :=
  (s.accepting script k packet).all fun (response, s) =>
    s.responseFirst script faults k response

/-- A login request that the event completes is answered first. -/
def AnswersFirst (input : Event × Env) (s : Acceptor) : Prop :=
  match input with
  | (.payloadCompleted k (.ok bytes), env) =>
    let (packet, s) := s.payloadRead k bytes
    s.answersFirst env.calls env.faults k packet = true
  | _ => True

instance (input : Event × Env) (s : Acceptor) : Decidable (AnswersFirst input s) := by
  unfold AnswersFirst
  split <;> infer_instance

/-! ## The ports and their connections -/

/-- A port points to a connection that points back to it. -/
structure Linked (s : Acceptor) : Prop where
  port : ∀ (p k : Nat) (port : Port), s.ports[p]? = some port → port.connection = some k →
    ∃ t, s.tcp? k = some t ∧ t.port = some p
  known : ∀ k, s.LoggedIn k → k < s.connections.length

/-- In the middle of an event of the connection `k`. -/
structure Stage (k : Nat) (P : Prop → TcpConnection → Prop) (s : Acceptor) : Prop where
  linked : s.Linked
  here : ∀ t, s.tcp? k = some t → P (s.LoggedIn k) t
  others : ∀ j, j ≠ k → ∀ t, s.tcp? j = some t → t.Polite (s.LoggedIn j)

/-- Between two events. -/
structure Courteous (s : Acceptor) : Prop where
  linked : s.Linked
  polite : ∀ j t, s.tcp? j = some t → t.Polite (s.LoggedIn j)

open TcpConnection

theorem Courteous.stage {s : Acceptor} (h : s.Courteous) (k : Nat) : Stage k Polite s :=
  ⟨h.linked, h.polite k, fun j _ => h.polite j⟩

theorem Stage.courteous {k : Nat} {s : Acceptor} (h : Stage k Polite s) : s.Courteous := by
  constructor
  · exact h.linked
  · intro j t ht
    by_cases hj : j = k
    · subst hj
      exact h.here t ht
    · exact h.others j hj t ht

theorem Stage.mono {k : Nat} {P Q : Prop → TcpConnection → Prop} {s : Acceptor} (h : Stage k P s)
    (hpq : ∀ t, s.tcp? k = some t → P (s.LoggedIn k) t → Q (s.LoggedIn k) t) : Stage k Q s :=
  ⟨h.linked, fun t ht => hpq t ht (h.here t ht), h.others⟩

variable {k : Nat} {P Q : Prop → TcpConnection → Prop} {s s' : Acceptor}

/-- A step that leaves the connections alone, and points no port elsewhere. -/
theorem Stage.same (h : Stage k P s) (hc : s'.connections = s.connections)
    (hp : ∀ (p j : Nat) (port' : Port), s'.ports[p]? = some port' → port'.connection = some j →
      ∃ port, s.ports[p]? = some port ∧ port.connection = some j)
    (hl : ∀ j, s'.LoggedIn j ↔ s.LoggedIn j) : Stage k P s' := by
  have ht (j : Nat) : s'.tcp? j = s.tcp? j := by rw [tcp?, tcp?, hc]
  have hlogged (j : Nat) : s'.LoggedIn j = s.LoggedIn j := propext (hl j)
  constructor
  · constructor
    · intro p j port' hport' hconn'
      obtain ⟨port, hport, hconn⟩ := hp p j port' hport' hconn'
      rw [ht]
      exact h.linked.port p j port hport hconn
    · intro j hj
      rw [hc]
      exact h.linked.known j ((hl j).mp hj)
  · intro t hj
    rw [hlogged]
    exact h.here t (by rw [← ht, hj])
  · intro j hne t hj
    rw [hlogged]
    exact h.others j hne t (by rw [← ht, hj])

/-- A step that concerns neither the connections nor the ports. -/
theorem Stage.aside (h : Stage k P s) (hc : s'.connections = s.connections)
    (hp : s'.ports = s.ports) (ht : s'.trace = s.trace) : Stage k P s' := by
  apply h.same hc
  · intro p j port' hport' hconn'
    exact ⟨port', hp ▸ hport', hconn'⟩
  · intro j
    rw [LoggedIn, LoggedIn, ht]

theorem Stage.updatePort (h : Stage k P s) (p : Nat) {f : Port → Port}
    (hf : ∀ port j, (f port).connection = some j → port.connection = some j) :
    Stage k P (s.updatePort p f) := by
  apply h.same (show (s.updatePort p f).connections = s.connections from rfl)
  · intro q j port' hport' hconn'
    simp only [Acceptor.updatePort, List.getElem?_modify] at hport'
    obtain ⟨port, hport, rfl⟩ := Option.map_eq_some_iff.mp hport'
    refine ⟨port, hport, ?_⟩
    split at hconn'
    · exact hf _ _ hconn'
    · exact hconn'
  · intro j
    exact Iff.rfl

theorem loggedIn_log {entry : Entry} (he : ∀ j response, entry ≠ .loginAccepted j response)
    (s : Acceptor) (j : Nat) : (s.log entry).LoggedIn j ↔ s.LoggedIn j := by
  constructor
  · rintro ⟨response, hr⟩
    simp only [Acceptor.log, List.mem_append, List.mem_singleton] at hr
    rcases hr with hr | hr
    · exact ⟨response, hr⟩
    · exact absurd hr.symm (he j response)
  · rintro ⟨response, hr⟩
    exact ⟨response, List.mem_append_left _ hr⟩

theorem Stage.log (h : Stage k P s) {entry : Entry}
    (he : ∀ j response, entry ≠ .loginAccepted j response) : Stage k P (s.log entry) :=
  h.same rfl (fun _ _ port hp hc => ⟨port, hp, hc⟩) (loggedIn_log he s)

/-- An update of the connection `j` that stays with its port. -/
theorem Stage.updateTcp_at (h : Stage k P s) (j : Nat) {f : TcpConnection → TcpConnection}
    (hport : ∀ t, (f t).port = t.port)
    (hhere : ∀ t, s.tcp? k = some t → P (s.LoggedIn k) t →
      Q (s.LoggedIn k) (if j = k then f t else t))
    (hother : j ≠ k → ∀ t, s.tcp? j = some t → t.Polite (s.LoggedIn j) →
      (f t).Polite (s.LoggedIn j)) : Stage k Q (s.updateTcp j f) := by
  constructor
  · constructor
    · intro p i port hp hc
      obtain ⟨t, ht, htp⟩ := h.linked.port p i port hp hc
      rw [tcp?_updateTcp, ht]
      split
      · exact ⟨f t, rfl, (hport t).trans htp⟩
      · exact ⟨t, rfl, htp⟩
    · intro i hi
      have hlen : (s.updateTcp j f).connections.length = s.connections.length :=
        List.length_modify _ _ _
      rw [hlen]
      exact h.linked.known i hi
  · intro t ht
    rw [tcp?_updateTcp] at ht
    split at ht
    · rename_i hjk
      obtain ⟨u, hu, rfl⟩ := Option.map_eq_some_iff.mp ht
      have hq := hhere u hu (h.here u hu)
      rw [if_pos hjk] at hq
      exact hq
    · rename_i hjk
      have hq := hhere t ht (h.here t ht)
      rw [if_neg hjk] at hq
      exact hq
  · intro i hi t ht
    rw [tcp?_updateTcp] at ht
    split at ht
    · rename_i hji
      subst hji
      obtain ⟨u, hu, rfl⟩ := Option.map_eq_some_iff.mp ht
      exact hother hi u hu (h.others j hi u hu)
    · exact h.others i hi t ht

theorem Stage.updateTcp (h : Stage k P s) {f : TcpConnection → TcpConnection}
    (hport : ∀ t, (f t).port = t.port) (hf : ∀ logged t, P logged t → Q logged (f t)) :
    Stage k Q (s.updateTcp k f) := by
  apply h.updateTcp_at k hport
  · intro t _ hp
    rw [if_pos rfl]
    exact hf _ t hp
  · intro hne
    exact absurd rfl hne

end Acceptor

end SoupBin.ServerSide
