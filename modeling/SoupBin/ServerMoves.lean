import SoupBin.ServerSteps

/-!
# What an acceptor can do

Every event is a sequence of small moves, made by the library and by the user
from inside callbacks. A move says which connection it is about and what is
known when it is made. Properties of every run are proved of the moves.
-/

namespace SoupBin.ServerSide

/-! ## Tcp_connection -/

namespace TcpConnection

/-- The steps that a socket takes outside callbacks. A read may be aborted although
the socket is open if `aborts` holds, and End of Session packets are written if
`ends` does. -/
structure Allowed where
  socket : (Socket → Socket) → Prop
  aborts : Prop
  ends : Prop

/-- What is sent through the port. -/
inductive Sent (ends : Prop) (t : TcpConnection) : TcpConnection → Prop where
  | packet (packet : WritePacket) :
      (packet.packetType = EndOfSessionPacket.packetType → ends) → Sent ends t (t.sendPacket packet).2
  | debug (text : Bytes) : Sent ends t (t.sendDebugPacket text).2

/-- What the library does to the connection whose event it is. -/
inductive Act (allowed : Allowed) : TcpConnection → TcpConnection → Prop where
  | refl (t : TcpConnection) : Act allowed t t
  | trans {t u v : TcpConnection} : Act allowed t u → Act allowed u v → Act allowed t v
  | socket {f : Socket → Socket} (t : TcpConnection) : allowed.socket f →
      Act allowed t (t.updateSocket f)
  | write (packet : WritePacket) (t : TcpConnection) :
      (packet.packetType = EndOfSessionPacket.packetType → allowed.ends) →
      Act allowed t (t.writeBestEffort packet)
  | debug (text : Bytes) (t : TcpConnection) : Act allowed t (t.sendDebugPacket text).2
  | disconnect (reason : DisconnectReason) (t : TcpConnection) : reason ≠ .none →
      (reason = .unmanagedAbort → allowed.aborts ∨ t.socket.closing = true ∨
        t.state.state = .disconnecting) → Act allowed t (t.disconnect reason)
  | reject (reason : DisconnectReason) {t : TcpConnection} : t.state.state = .connected →
      reason ≠ .none → reason ≠ .unmanagedAbort →
      Act allowed t (t.prepareGracefulDisconnect reason)
  | loginTimer (f : LoginTimer → LoginTimer) (t : TcpConnection) :
      Act allowed t (t.updateLoginTimer f)
  | heartbeatTimer {f : HeartbeatTimer → HeartbeatTimer} {t : TcpConnection} :
      (f t.heartbeatTimer).started = t.heartbeatTimer.started ∨ t.state.state ≠ .connected →
      Act allowed t (t.updateHeartbeatTimer f)
  | loginTimerStopped (stopped : Bool) (t : TcpConnection) :
      Act allowed t (t.setLoginTimerStopped stopped)
  | heartbeatTimerStopped (stopped : Bool) (t : TcpConnection) :
      Act allowed t (t.setHeartbeatTimerStopped stopped)
  | noteClosed {t : TcpConnection} : 0 < t.socket.posted → Act allowed t t.noteClosed

/-- A disconnect for a reason that is observed, or given by the user. -/
theorem act_disconnect {allowed : Allowed} {reason : DisconnectReason}
    (hreason : reason ≠ .none ∧ reason ≠ .unmanagedAbort) (t : TcpConnection) :
    Act allowed t (t.disconnect reason) :=
  .disconnect reason t hreason.1 fun h => absurd h hreason.2

theorem disconnect_eq (reason : DisconnectReason) (t : TcpConnection) :
    t.disconnect reason = t ∧ t.state.state = .disconnected ∨
      (t.disconnect reason).state.state = .disconnected ∧
        (t.disconnect reason).socket = t.socket.close ∧ (t.disconnect reason).port = t.port := by
  unfold TcpConnection.disconnect ConnectionState.disconnect
  by_cases h : t.state.state = .disconnected
  · simp [h]
  · simp [h]

theorem port_disconnect (reason : DisconnectReason) (t : TcpConnection) :
    (t.disconnect reason).port = t.port := by
  rcases t.disconnect_eq reason with ⟨heq, -⟩ | ⟨-, -, hport⟩
  · rw [heq]
  · exact hport

theorem act_noteLoginTimerStopped (allowed : Allowed) (t : TcpConnection) :
    Act allowed t t.noteLoginTimerStopped :=
  (Act.loginTimer LoginTimer.notified t).trans (.loginTimerStopped true _)

theorem act_noteHeartbeatTimerStopped (allowed : Allowed) (t : TcpConnection) :
    Act allowed t t.noteHeartbeatTimerStopped :=
  (Act.heartbeatTimer (f := HeartbeatTimer.notified) (Or.inl rfl)).trans
    (.heartbeatTimerStopped true _)

end TcpConnection

/-! ## Acceptor -/

/-- The connections whose event it is, the login requests that arrive, and what the
handlers may be told: that something failed, and that a connection is gone. -/
structure Rules extends TcpConnection.Allowed where
  active : Nat → Prop
  login : Nat → LoginRequestPacket → Prop
  errors : Prop
  tells : DisconnectReason → Prop

/-- The entries that may be recorded. -/
def Rules.notes (R : Rules) : Entry → Prop
  | .called _ (.acceptor (.transportError _ _)) | .called _ (.acceptor (.protocolViolation _))
  | .called _ (.port _ (.transportError _ _)) | .called _ (.port _ (.protocolViolation _)) =>
    R.errors
  | .called _ (.acceptor (.disconnect reason)) | .called _ (.port _ (.disconnect reason)) =>
    R.tells reason
  | _ => True

namespace Acceptor

/-- An acceptor that has not been started. -/
structure Idle (s : Acceptor) : Prop where
  connections : s.connections = []
  trace : s.trace = []
  ports : ∀ port ∈ s.ports, port.connection = none

/-- What else changes. -/
structure Aside (R : Rules) (s s' : Acceptor) : Prop where
  ports : s'.ports = s.ports
  connections : s'.connections = s.connections
  trace : s'.trace = s.trace ∨ ∃ entry, R.notes entry ∧ s'.trace = s.trace ++ [entry]

/-- A port and a connection are joined, and the connection is logged in. -/
def seat (p k : Nat) (port : Port) (response : LoginAcceptedPacket) (s : Acceptor) : Acceptor :=
  (((s.updatePort p fun _ => port).updateTcp k (·.setPort p port.handlerSet)).log
    (.loginAccepted k response)).updateTcp k (·.setState .loggedIn)

/-- The port of a connection gives it up, and it is destroyed. -/
def free (k : Nat) (t : TcpConnection) (s : Acceptor) : Acceptor :=
  (match t.port with
    | none => s
    | some p => s.portOnClosed p k).updateSlot k fun _ => none

/-- A connection as it is constructed. -/
def accepted (handlerSet : Bool) (socket : Socket) : TcpConnection :=
  { acceptorHandlerSet := handlerSet, socket := socket }

/-- Some moves, one after the other. -/
inductive Moves (R : Rules) : Acceptor → Acceptor → Prop where
  | refl (s : Acceptor) : Moves R s s
  | trans {a b c : Acceptor} : Moves R a b → Moves R b c → Moves R a c
  | aside {s s' : Acceptor} : Aside R s s' → Moves R s s'
  | port {s : Acceptor} {p : Nat} {f : Port → Port} :
      (∀ port, (f port).connection = port.connection ∧ (f port).username = port.username ∧
        (f port).password = port.password) →
      (∀ port, port.hasSessionEnded = true → (f port).hasSessionEnded = true) →
      Moves R s (s.updatePort p f)
  | added {s : Acceptor} (port : Port) : port.connection = none →
      Moves R s { s with ports := s.ports ++ [port] }
  | send {s : Acceptor} {p k : Nat} {port : Port} {f : TcpConnection → TcpConnection} :
      s.ports[p]? = some port → port.connection = some k →
      (∀ t, TcpConnection.Sent R.ends t (f t)) → Moves R s (s.updateTcp k f)
  | tcp {s : Acceptor} {k : Nat} {f : TcpConnection → TcpConnection} : R.active k →
      (∀ t, s.tcp? k = some t → TcpConnection.Act R.toAllowed t (f t)) →
      Moves R s (s.updateTcp k f)
  | supersede {s : Acceptor} {p k old : Nat} {port : Port} {request : LoginRequestPacket} :
      R.login k request → s.ports[p]? = some port → port.connection = some old →
      Moves R s (s.updateTcp old TcpConnection.supersede)
  | seat {s : Acceptor} {p k : Nat} {port port' : Port} {t : TcpConnection}
      {request : LoginRequestPacket} (response : LoginAcceptedPacket) : R.active k →
      R.login k request → s.ports[p]? = some port →
      request.username = port.username ∧ request.password = port.password →
      port'.connection = some k ∧ port'.username = port.username ∧
        port'.password = port.password → port'.hasSessionEnded = port.hasSessionEnded →
      s.tcp? k = some t → t.state.state = .connected →
      (∀ old u, port.connection = some old → s.tcp? old = some u →
        u.state.state = .disconnected) → Moves R s (s.seat p k port' response)
  | emplaced {s : Acceptor} (handlerSet : Bool) (limit : Nat) : R.active s.connections.length →
      Moves R s { s with connections := s.connections ++
        [some (accepted handlerSet { isOpen := true, writePacketsLimit := limit })] }
  | freed {s : Acceptor} {k : Nat} {t : TcpConnection} : R.active k → s.tcp? k = some t →
      t.socketClosed = true → Moves R s (s.free k t)

variable {R : Rules} {s : Acceptor} {k : Nat}

theorem Moves.log {entry : Entry} (he : R.notes entry) : Moves R s (s.log entry) :=
  .aside ⟨rfl, rfl, Or.inr ⟨entry, he, rfl⟩⟩

theorem Moves.quiet {s' : Acceptor} (hp : s'.ports = s.ports) (hc : s'.connections = s.connections)
    (ht : s'.trace = s.trace) : Moves R s s' := .aside ⟨hp, hc, Or.inl ht⟩

/-! ## Calls of the user -/

theorem sendWith_eq (send : TcpConnection → WriteError × TcpConnection) (connection : Option Nat)
    (s : Acceptor) : (s.sendWith send connection).2 = s ∨ ∃ k, connection = some k ∧
      (s.sendWith send connection).2 = s.updateTcp k fun t => (send t).2 := by
  unfold sendWith
  cases connection with
  | none => exact Or.inl rfl
  | some k =>
    dsimp only
    split
    · exact Or.inl rfl
    · exact Or.inr ⟨k, rfl, rfl⟩

theorem moves_sendWith {p : Nat} {port : Port} (hport : s.ports[p]? = some port)
    {send : TcpConnection → WriteError × TcpConnection}
    (hsend : ∀ t, TcpConnection.Sent R.ends t (send t).2) :
    Moves R s (s.sendWith send port.connection).2 := by
  rcases s.sendWith_eq send port.connection with heq | ⟨k, hk, heq⟩
  · rw [heq]
    exact .refl s
  · rw [heq]
    exact .send hport hk hsend

theorem moves_sendPacket (p : Nat) {packet : WritePacket}
    (hpacket : packet.packetType = EndOfSessionPacket.packetType → R.ends) :
    Moves R s (s.sendPacket p packet).2 := by
  unfold sendPacket
  split
  · exact .refl s
  · rename_i port hport
    split
    · exact .refl s
    · exact moves_sendWith hport fun t => .packet packet hpacket

theorem moves_sendMessage (p : Nat) (data : Span) : Moves R s (s.sendMessage p data).2 := by
  unfold sendMessage
  split
  · exact .refl s
  · cases data with
    | null size => exact .refl s
    | bytes data =>
      have hsent : Moves R s (s.sendPacket p (.ofData SequencedDataPacket.packetType data)).2 := by
        apply moves_sendPacket
        rw [WritePacket.packetType_ofData]
        exact fun htype => absurd htype (by decide)
      dsimp only
      split
      · exact hsent.trans (.port (fun port => ⟨rfl, rfl, rfl⟩) fun _ => id)
      · exact hsent

theorem moves_sendDebug (p : Nat) (text : Bytes) : Moves R s (s.sendDebug p text).2 := by
  unfold sendDebug
  split
  · exact .refl s
  · split
    · exact .refl s
    · rename_i port hport
      exact moves_sendWith hport fun t => .debug text

theorem moves_endSessionOf (hends : R.ends) (p : Nat) : Moves R s (s.endSessionOf p) := by
  unfold endSessionOf
  split
  · exact .refl s
  · rename_i port hport
    split
    · exact .refl s
    · have hended : (s.updatePort p Port.setSessionEnded).ports[p]? = some port.setSessionEnded := by
        simp [updatePort, hport]
      have hmarked : Moves R s (s.updatePort p Port.setSessionEnded) :=
        .port (fun port => ⟨rfl, rfl, rfl⟩) fun _ _ => rfl
      exact hmarked.trans (moves_sendWith hended fun t => .packet _ fun _ => hends)

theorem moves_call (call : Call) : Moves R s (call.run s) := by
  cases call with
  | setSession session =>
    simp only [Call.run, setSession]
    split <;> exact .quiet rfl rfl rfl
  | start =>
    simp only [Call.run, start]
    split <;> exact .quiet rfl rfl rfl
  | endSession => exact .quiet rfl rfl rfl
  | stop => exact .quiet rfl rfl rfl
  | setHandler => exact .quiet rfl rfl rfl
  | setWritePacketsLimit limit => exact .quiet rfl rfl rfl
  | setDebugBanner debugBanner => exact .quiet rfl rfl rfl
  | addPort username password handlerSet =>
    simp only [Call.run, addPort]
    split
    · exact .refl s
    · split
      · exact .refl s
      · split
        · exact .refl s
        · exact .added _ rfl
  | setPortHandler p => exact .port (fun port => ⟨rfl, rfl, rfl⟩) fun _ => id
  | setNextSequenceNumber p nextSequenceNumber => exact .port (fun port => ⟨rfl, rfl, rfl⟩) fun _ => id
  | sendMessage p data => exact moves_sendMessage p data
  | sendDebug p text => exact moves_sendDebug p text

theorem moves_notify (script : Script) {handlerSet : Bool} {cb : Callback}
    (hcb : R.notes (.called handlerSet cb)) : Moves R s (s.notify script handlerSet cb) := by
  have hcalls (calls : List Call) (s : Acceptor) : Moves R s (calls.foldl Call.run s) := by
    induction calls generalizing s with
    | nil => exact .refl s
    | cons call calls ih => exact (moves_call call).trans (ih _)
  unfold notify
  dsimp only
  split
  · exact (Moves.log hcb).trans (hcalls _ _)
  · exact .log hcb

/-! ## Connections whose event it is not -/

/-- The state of a connection, and its port. -/
def bearing (k : Nat) (s : Acceptor) : Option (ConnectionState × Option Nat) :=
  (s.tcp? k).map fun t => (t.state, t.port)

theorem bearing_updateTcp {f : TcpConnection → TcpConnection} (j : Nat)
    (hf : j = k → ∀ t, s.tcp? k = some t → (f t).state = t.state ∧ (f t).port = t.port) :
    (s.updateTcp j f).bearing k = s.bearing k := by
  rw [bearing, tcp?_updateTcp]
  split
  · rename_i hj
    cases ht : s.tcp? k with
    | none => simp [bearing, ht]
    | some t =>
      obtain ⟨hstate, hport⟩ := hf hj t ht
      simp [bearing, ht, hstate, hport]
  · rfl

theorem bearing_same {s' : Acceptor} (hc : s'.connections = s.connections) (k : Nat) :
    s'.bearing k = s.bearing k := by
  rw [bearing, bearing, tcp?, tcp?, hc]

end Acceptor

theorem TcpConnection.bearing_sendPacket (packet : WritePacket) (t : TcpConnection) :
    (t.sendPacket packet).2.state = t.state ∧ (t.sendPacket packet).2.port = t.port := by
  unfold TcpConnection.sendPacket
  split
  · exact ⟨rfl, rfl⟩
  · dsimp only
    split <;> exact ⟨rfl, rfl⟩

theorem TcpConnection.bearing_sendDebugPacket (text : Bytes) (t : TcpConnection) :
    (t.sendDebugPacket text).2.state = t.state ∧ (t.sendDebugPacket text).2.port = t.port := by
  unfold TcpConnection.sendDebugPacket
  split <;> exact ⟨rfl, rfl⟩

theorem TcpConnection.Sent.act {allowed : Allowed} {t u : TcpConnection}
    (h : Sent allowed.ends t u) : Act allowed t u := by
  cases h with
  | debug text => exact .debug text t
  | packet packet hpacket =>
    unfold TcpConnection.sendPacket
    split
    · exact .refl t
    · have hwritten : Act allowed t (t.asyncWrite packet).2 := .write packet t hpacket
      dsimp only
      split
      · exact hwritten.trans (.heartbeatTimer (Or.inl rfl))
      · exact hwritten

theorem TcpConnection.Sent.bearing {ends : Prop} {t u : TcpConnection} (h : Sent ends t u) :
    u.state = t.state ∧ u.port = t.port := by
  cases h with
  | packet packet _ => exact t.bearing_sendPacket packet
  | debug text => exact t.bearing_sendDebugPacket text

namespace Acceptor

variable {R : Rules} {s s' : Acceptor} {k : Nat}

/-- Only a login supersedes a connection whose event it is not. -/
theorem Moves.bearing (hlogin : ∀ j request, ¬R.login j request) (hk : ¬R.active k)
    (hm : Moves R s s') : s'.bearing k = s.bearing k := by
  induction hm with
  | refl s => rfl
  | trans _ _ ih₁ ih₂ => rw [ih₂, ih₁]
  | aside ha => exact bearing_same ha.connections k
  | port _ _ => rfl
  | added _ _ => rfl
  | send _ _ hsent => exact bearing_updateTcp _ fun _ t _ => (hsent t).bearing
  | tcp hactive _ =>
    apply bearing_updateTcp
    rintro rfl
    exact absurd hactive hk
  | supersede hl => exact absurd hl (hlogin _ _)
  | seat _ _ hl => exact absurd hl (hlogin _ _)
  | @emplaced s _ _ hactive =>
    have hne : k ≠ s.connections.length := by
      rintro rfl
      exact hk hactive
    simp only [Acceptor.bearing, tcp?, List.getElem?_append]
    split
    · rfl
    · rw [List.getElem?_eq_none (by simp; omega), List.getElem?_eq_none (by omega)]
  | @freed s j t hactive _ _ =>
    have hne : j ≠ k := by
      rintro rfl
      exact hk hactive
    have hslot (s : Acceptor) : (s.updateSlot j fun _ => none).bearing k = s.bearing k := by
      simp [Acceptor.bearing, tcp?, updateSlot, hne]
    unfold free
    rw [hslot]
    cases t.port <;> rfl

theorem bearing_eq_some {state : ConnectionState} {port : Option Nat}
    (h : s.bearing k = some (state, port)) :
    ∃ t, s.tcp? k = some t ∧ t.state = state ∧ t.port = port := by
  obtain ⟨t, ht, heq⟩ := Option.map_eq_some_iff.mp h
  exact ⟨t, ht, congrArg Prod.fst heq, congrArg Prod.snd heq⟩

theorem bearing_of_tcp {t : TcpConnection} (ht : s.tcp? k = some t) :
    s.bearing k = some (t.state, t.port) := by
  rw [bearing, ht]
  rfl

/-- No port points to the connection. -/
def Unpointed (k : Nat) (s : Acceptor) : Prop :=
  ∀ (p : Nat) (port : Port), s.ports[p]? = some port → port.connection ≠ some k

theorem Unpointed.updatePort (h : s.Unpointed k) (p : Nat) {f : Port → Port}
    (hf : ∀ port, port.connection ≠ some k → (f port).connection ≠ some k) :
    (s.updatePort p f).Unpointed k := by
  intro q port' hport'
  simp only [Acceptor.updatePort, List.getElem?_modify] at hport'
  obtain ⟨port, hport, rfl⟩ := Option.map_eq_some_iff.mp hport'
  have hne := h q port hport
  split
  · exact hf port hne
  · exact hne

/-- Only the login of the connection itself points a port to it. -/
theorem Moves.unpointed (hlogin : ∀ request, ¬R.login k request) (hm : Moves R s s')
    (h : s.Unpointed k) : s'.Unpointed k := by
  induction hm with
  | refl s => exact h
  | trans _ _ ih₁ ih₂ => exact ih₂ (ih₁ h)
  | aside ha =>
    intro p port hport
    exact h p port (ha.ports ▸ hport)
  | port hf _ => exact h.updatePort _ fun port hne => (hf port).1 ▸ hne
  | added port hnone =>
    intro p port' hport'
    dsimp only at hport'
    rw [List.getElem?_append] at hport'
    split at hport'
    · exact h p port' hport'
    · have hmem := List.mem_of_getElem? hport'
      rw [List.mem_singleton] at hmem
      subst hmem
      simp [hnone]
  | send _ _ _ => exact h
  | tcp _ _ => exact h
  | supersede _ _ _ => exact h
  | @seat s p j port port' t request response _ hl _ _ hport' _ _ _ _ =>
    apply h.updatePort
    intro _ _ heq
    rw [hport'.1] at heq
    cases heq
    exact hlogin request hl
  | emplaced _ _ _ => exact h
  | @freed s j t _ _ _ =>
    unfold free
    cases t.port with
    | none => exact h
    | some p =>
      apply h.updatePort
      intro port hne
      split
      · simp [Port.setConnection]
      · exact hne

/-! ## Each connection on its own -/

theorem length_updateTcp (s : Acceptor) (k : Nat) (f : TcpConnection → TcpConnection) :
    (s.updateTcp k f).connections.length = s.connections.length := List.length_modify _ _ _

theorem length_free (t : TcpConnection) :
    (s.free k t).connections.length = s.connections.length := by
  unfold free
  cases t.port <;> exact List.length_modify _ _ _

theorem lt_of_tcp {t : TcpConnection} (ht : s.tcp? k = some t) : k < s.connections.length := by
  by_contra hge
  rw [tcp?, List.getElem?_eq_none (Nat.not_lt.mp hge)] at ht
  cases ht

theorem tcp?_emplaced (t : TcpConnection) (j : Nat) :
    ({ s with connections := s.connections ++ [some t] } : Acceptor).tcp? j =
      if j = s.connections.length then some t else s.tcp? j := by
  simp only [tcp?, List.getElem?_append]
  split
  · rw [if_neg (by omega)]
  · split
    · rename_i hj
      simp [hj]
    · rw [List.getElem?_eq_none (by simp; omega), List.getElem?_eq_none (by omega)]

theorem tcp?_free (t : TcpConnection) (j : Nat) :
    (s.free k t).tcp? j = if k = j then none else s.tcp? j := by
  have hslot (s : Acceptor) : (s.updateSlot k fun _ => none).tcp? j =
      if k = j then none else s.tcp? j := by
    simp only [tcp?, updateSlot, List.getElem?_modify]
    split
    · cases s.connections[j]? <;> rfl
    · simp
  unfold free
  rw [hslot]
  cases t.port <;> rfl

/-- The slots are numbered in the order of acceptance. -/
theorem Moves.known (hm : Moves R s s') : s.connections.length ≤ s'.connections.length := by
  induction hm with
  | refl s => exact Nat.le_refl _
  | trans _ _ ih₁ ih₂ => exact Nat.le_trans ih₁ ih₂
  | aside ha => exact Nat.le_of_eq (congrArg List.length ha.connections.symm)
  | port _ _ => exact Nat.le_refl _
  | added _ _ => exact Nat.le_refl _
  | send _ _ _ => exact Nat.le_of_eq (length_updateTcp _ _ _).symm
  | tcp _ _ => exact Nat.le_of_eq (length_updateTcp _ _ _).symm
  | supersede _ _ _ => exact Nat.le_of_eq (length_updateTcp _ _ _).symm
  | seat _ _ _ _ _ _ _ _ _ _ => simp [Acceptor.seat, length_updateTcp, Acceptor.log, updatePort]
  | emplaced _ _ _ => simp
  | freed _ _ _ => exact Nat.le_of_eq (length_free _).symm

/-- Nothing but what may be noted is recorded. -/
theorem Moves.adds (hm : Moves R s s') : Adds R.notes s.trace s'.trace := by
  induction hm with
  | refl s => exact .refl _ _
  | trans _ _ ih₁ ih₂ => exact ih₁.trans ih₂
  | aside ha =>
    rcases ha.trace with heq | ⟨entry, hnotes, heq⟩
    · rw [heq]
      exact .refl _ _
    · rw [heq]
      exact .one _ hnotes
  | seat response _ _ _ _ _ _ _ _ _ => exact .one _ trivial
  | @freed s k t _ _ _ =>
    have heq : (s.free k t).trace = s.trace := by
      unfold free
      cases t.port <;> rfl
    rw [heq]
    exact .refl _ _
  | _ => exact .refl _ _

/-- What every step of a connection keeps. -/
structure Robust (allowed : TcpConnection.Allowed) (P : TcpConnection → Prop) : Prop where
  act : ∀ {t u}, TcpConnection.Act allowed t u → P t → P u
  seated : ∀ {t : TcpConnection} p handlerSet, t.state.state = .connected → P t →
    P ((t.setPort p handlerSet).setState .loggedIn)

/-- The connection `j` satisfies `P j`. -/
def Each (P : Nat → TcpConnection → Prop) (s : Acceptor) : Prop := ∀ j t, s.tcp? j = some t → P j t

theorem Each.updateTcp {P : Nat → TcpConnection → Prop} (h : s.Each P) (k : Nat)
    {f : TcpConnection → TcpConnection} (hf : ∀ t, s.tcp? k = some t → P k t → P k (f t)) :
    (s.updateTcp k f).Each P := by
  intro j u hu
  rw [tcp?_updateTcp] at hu
  split at hu
  · rename_i hk
    subst hk
    obtain ⟨t, ht, rfl⟩ := Option.map_eq_some_iff.mp hu
    exact hf t ht (h k t ht)
  · exact h j u hu

theorem Each.same {P : Nat → TcpConnection → Prop} (h : s.Each P)
    (hc : s'.connections = s.connections) : s'.Each P := by
  intro j t ht
  rw [tcp?, hc] at ht
  exact h j t ht

theorem Moves.each {P : Nat → TcpConnection → Prop} {n : Nat} (hP : ∀ j, Robust R.toAllowed (P j))
    (hfresh : ∀ j, n ≤ j → ∀ handlerSet limit,
      P j (accepted handlerSet { isOpen := true, writePacketsLimit := limit }))
    (hm : Moves R s s') (hn : n ≤ s.connections.length) (h : s.Each P) : s'.Each P := by
  induction hm with
  | refl s => exact h
  | trans hm₁ _ ih₁ ih₂ => exact ih₂ (Nat.le_trans hn hm₁.known) (ih₁ hn h)
  | aside ha => exact h.same ha.connections
  | port _ _ => exact h
  | added _ _ => exact h
  | send _ _ hsent => exact h.updateTcp _ fun t _ hp => (hP _).act (hsent t).act hp
  | tcp _ hact => exact h.updateTcp _ fun t ht hp => (hP _).act (hact t ht) hp
  | supersede _ _ _ => exact h.updateTcp _ fun t _ hp => (hP _).act (TcpConnection.act_disconnect (by decide) t) hp
  | @seat s p k port port' t request response _ _ _ _ _ _ ht hs _ =>
    intro j u hu
    have htcp : (s.seat p k port' response).tcp? j = if k = j then
        ((s.tcp? j).map (·.setPort p port'.handlerSet)).map (·.setState .loggedIn)
          else s.tcp? j := by
      rw [Acceptor.seat, tcp?_updateTcp]
      have hset : (((s.updatePort p fun _ => port').updateTcp k
          (·.setPort p port'.handlerSet)).log (.loginAccepted k response)).tcp? j =
            if k = j then (s.tcp? j).map (·.setPort p port'.handlerSet) else s.tcp? j :=
        tcp?_updateTcp _ _ _ _
      rw [hset]
      split <;> rfl
    rw [htcp] at hu
    split at hu
    · rename_i hj
      subst hj
      rw [ht] at hu
      cases hu
      exact (hP k).seated p _ hs (h k t ht)
    · exact h j u hu
  | @emplaced s handlerSet limit _ =>
    intro j u hu
    rw [tcp?_emplaced] at hu
    split at hu
    · rename_i hj
      cases hu
      exact hfresh j (hj ▸ hn) handlerSet limit
    · exact h j u hu
  | freed _ _ _ =>
    intro j u hu
    rw [tcp?_free] at hu
    split at hu
    · cases hu
    · exact h j u hu

/-- A connection to which no port points is left alone when the event is another's. -/
theorem Moves.untouched (hk : ¬R.active k) (hlogin : ∀ request, ¬R.login k request)
    (hm : Moves R s s') (hlt : k < s.connections.length) (h : s.Unpointed k) :
    s'.tcp? k = s.tcp? k := by
  induction hm with
  | refl s => rfl
  | trans hm₁ _ ih₁ ih₂ =>
    rw [ih₂ (Nat.lt_of_lt_of_le hlt hm₁.known) (hm₁.unpointed hlogin h), ih₁ hlt h]
  | aside ha => rw [tcp?, tcp?, ha.connections]
  | port _ _ => rfl
  | added _ _ => rfl
  | @send s p j port f hp hj _ =>
    rw [tcp?_updateTcp, if_neg]
    rintro rfl
    exact h p port hp hj
  | tcp ha _ =>
    rw [tcp?_updateTcp, if_neg]
    rintro rfl
    exact hk ha
  | @supersede s p j old port request _ hp hold =>
    rw [tcp?_updateTcp, if_neg]
    rintro rfl
    exact h p port hp hold
  | seat _ ha hl _ _ _ _ _ _ _ =>
    have hne {j : Nat} {request : LoginRequestPacket} (hl : R.login j request) : j ≠ k := by
      rintro rfl
      exact hlogin request hl
    rw [Acceptor.seat, tcp?_updateTcp, if_neg (hne hl)]
    exact (tcp?_updateTcp _ _ _ _).trans (if_neg (hne hl))
  | emplaced _ _ _ => rw [tcp?_emplaced, if_neg (Nat.ne_of_lt hlt)]
  | freed ha _ _ =>
    rw [tcp?_free, if_neg]
    rintro rfl
    exact hk ha

end Acceptor

end SoupBin.ServerSide
