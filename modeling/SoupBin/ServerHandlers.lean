import SoupBin.ServerConduct

/-!
# The handlers of a server

`Server::start` looks at the handlers once. From then on every connection can tell
its acceptor, and its port once it is logged in, provided that no login names a
port that has no handler.
-/

namespace SoupBin.ServerSide

/-- What is done to a connection leaves its handlers as they are, and does not log
it in. -/
def TcpConnection.KeepsHandlers (f : TcpConnection → TcpConnection) : Prop :=
  ∀ t, (f t).acceptorHandlerSet = t.acceptorHandlerSet ∧ (f t).port = t.port ∧
    (f t).handlerSet = t.handlerSet ∧ ((f t).state.state = .loggedIn → t.state.state = .loggedIn)

namespace TcpConnection

theorem keepsHandlers_disconnect (reason : DisconnectReason) :
    KeepsHandlers (·.disconnect reason) := by
  intro t
  dsimp only
  unfold TcpConnection.disconnect ConnectionState.disconnect
  by_cases h : t.state.state = .disconnected
  · simp [h]
  · simp [h]

theorem keepsHandlers_sendPacket (packet : WritePacket) :
    KeepsHandlers fun t => (t.sendPacket packet).2 := by
  intro t
  dsimp only
  unfold TcpConnection.sendPacket
  split
  · exact ⟨rfl, rfl, rfl, id⟩
  · dsimp only
    split <;> exact ⟨rfl, rfl, rfl, id⟩

theorem keepsHandlers_sendDebugPacket (text : Bytes) :
    KeepsHandlers fun t => (t.sendDebugPacket text).2 := by
  intro t
  dsimp only
  unfold TcpConnection.sendDebugPacket
  split <;> exact ⟨rfl, rfl, rfl, id⟩

end TcpConnection

theorem Port.handlerSet_rewind (n : Nat) (port : Port) :
    (port.rewind n).handlerSet = port.handlerSet := by
  unfold Port.rewind
  split <;> rfl

/-- What a login request is compared with, and whether a handler is set. -/
def Port.entry (port : Port) : Bytes × Bytes × Bool :=
  (port.username, port.password, port.handlerSet)

namespace Acceptor

/-- Nothing has been accepted, and no start is posted. -/
structure Dormant (s : Acceptor) : Prop where
  posted : Posted.start ∉ s.posted
  accepts : s.socketAcceptor.accepts = 0
  tcp : ∀ k, s.tcp? k = none
  trace : ∀ handlerSet cb, Entry.called handlerSet cb ∈ s.trace → handlerSet = true
  sound : Entry.assertionFailed ∉ s.trace

/-- Every handler that may be called is set. -/
structure Armed (s : Acceptor) : Prop where
  handler : s.handlerSet = true
  trace : ∀ handlerSet cb, Entry.called handlerSet cb ∈ s.trace → handlerSet = true
  sound : Entry.assertionFailed ∉ s.trace
  acceptor : ∀ k t, s.tcp? k = some t → t.acceptorHandlerSet = true
  port : ∀ k t p, s.tcp? k = some t → t.port = some p →
    t.handlerSet = true ∧ ∃ port : Port, s.ports[p]? = some port ∧ port.handlerSet = true
  linked : ∀ k t, s.tcp? k = some t → t.handlerSet = true ∨ t.state.state = .loggedIn → t.port ≠ none

section
variable {s : Acceptor} {k : Nat}

theorem Armed.log (h : s.Armed) {entry : Entry}
    (he : ∀ handlerSet cb, entry = .called handlerSet cb → handlerSet = true)
    (hsound : entry ≠ .assertionFailed) : (s.log entry).Armed where
  handler := h.handler
  sound hmem := by
    rcases List.mem_append.mp hmem with hmem | hmem
    · exact h.sound hmem
    · exact hsound (List.mem_singleton.mp hmem).symm
  trace handlerSet cb hmem := by
    rcases List.mem_append.mp hmem with hmem | hmem
    · exact h.trace handlerSet cb hmem
    · exact he handlerSet cb (List.mem_singleton.mp hmem).symm
  acceptor := h.acceptor
  port := h.port
  linked := h.linked

theorem Armed.aside (h : s.Armed) {s' : Acceptor} (hh : s'.handlerSet = true)
    (hp : s'.ports = s.ports) (hc : s'.connections = s.connections) (ht : s'.trace = s.trace) :
    s'.Armed := by
  have htcp (k : Nat) : s'.tcp? k = s.tcp? k := by rw [tcp?, tcp?, hc]
  refine ⟨hh, ht ▸ h.trace, ht ▸ h.sound, fun k t hk => h.acceptor k t (htcp k ▸ hk),
    fun k t p hk => ?_, fun k t hk => h.linked k t (htcp k ▸ hk)⟩
  rw [hp]
  exact h.port k t p (htcp k ▸ hk)

theorem Armed.updateTcp (h : s.Armed) {f : TcpConnection → TcpConnection}
    (hf : TcpConnection.KeepsHandlers f) : (s.updateTcp k f).Armed where
  handler := h.handler
  trace := h.trace
  sound := h.sound
  acceptor j u hu := by
    rw [tcp?_updateTcp] at hu
    split at hu
    · obtain ⟨t, ht, rfl⟩ := Option.map_eq_some_iff.mp hu
      exact (hf t).1.trans (h.acceptor j t ht)
    · exact h.acceptor j u hu
  linked j u hu hlinked := by
    rw [tcp?_updateTcp] at hu
    split at hu
    · obtain ⟨t, ht, rfl⟩ := Option.map_eq_some_iff.mp hu
      obtain ⟨-, hport, hset, hstate⟩ := hf t
      rw [hport]
      exact h.linked j t ht (hlinked.imp (fun hs => hset ▸ hs) hstate)
    · exact h.linked j u hu hlinked
  port j u p hu hport := by
    rw [tcp?_updateTcp] at hu
    split at hu
    · obtain ⟨t, ht, rfl⟩ := Option.map_eq_some_iff.mp hu
      obtain ⟨hset, hmanned⟩ := h.port j t p ht ((hf t).2.1 ▸ hport)
      exact ⟨(hf t).2.2.1.trans hset, hmanned⟩
    · exact h.port j u p hu hport

theorem Armed.updatePort (h : s.Armed) (p : Nat) {f : Port → Port}
    (hf : ∀ port, s.ports[p]? = some port → port.handlerSet = true → (f port).handlerSet = true) :
    (s.updatePort p f).Armed where
  handler := h.handler
  trace := h.trace
  sound := h.sound
  acceptor := h.acceptor
  linked := h.linked
  port j t q ht hq := by
    obtain ⟨hset, port, hport, hmanned⟩ := h.port j t q ht hq
    refine ⟨hset, if p = q then f port else port, ?_, ?_⟩
    · simp only [Acceptor.updatePort, List.getElem?_modify, hport]
      split <;> rfl
    · split
      · rename_i hpq
        subst hpq
        exact hf port hport hmanned
      · exact hmanned

theorem Armed.sendWith (h : s.Armed) {send : TcpConnection → WriteError × TcpConnection}
    (hsend : TcpConnection.KeepsHandlers fun t => (send t).2) (connection : Option Nat) :
    (s.sendWith send connection).2.Armed := by
  rcases s.sendWith_eq send connection with heq | ⟨k, -, heq⟩
  · rw [heq]
    exact h
  · rw [heq]
    exact h.updateTcp hsend

theorem Armed.sendPacket (h : s.Armed) (p : Nat) (packet : WritePacket) :
    (s.sendPacket p packet).2.Armed := by
  unfold Acceptor.sendPacket
  split
  · exact h
  · split
    · exact h
    · exact h.sendWith (TcpConnection.keepsHandlers_sendPacket packet) _

theorem Armed.endSessionOf (h : s.Armed) (p : Nat) : (s.endSessionOf p).Armed := by
  unfold Acceptor.endSessionOf
  split
  · exact h
  · split
    · exact h
    · have hended : (s.updatePort p Port.setSessionEnded).Armed := h.updatePort p fun _ _ => id
      exact hended.sendWith (TcpConnection.keepsHandlers_sendPacket _) _

/-- The calls of the user, who may add ports without a handler. -/
theorem Armed.run (h : s.Armed) (call : Call) : (call.run s).Armed := by
  cases call with
  | setSession session =>
    simp only [Call.run, setSession]
    split
    · exact h
    · exact h.aside h.handler rfl rfl rfl
  | start =>
    simp only [Call.run, start]
    split
    · exact h.aside h.handler rfl rfl rfl
    · exact h
  | endSession => exact h.aside h.handler rfl rfl rfl
  | stop => exact h.aside h.handler rfl rfl rfl
  | setHandler => exact h.aside rfl rfl rfl rfl
  | setWritePacketsLimit limit => exact h.aside h.handler rfl rfl rfl
  | setDebugBanner debugBanner => exact h.aside h.handler rfl rfl rfl
  | addPort username password handlerSet =>
    simp only [Call.run, addPort]
    split
    · exact h
    · split
      · exact h
      · split
        · exact h
        · refine ⟨h.handler, h.trace, h.sound, h.acceptor, fun j t p ht hp => ?_, h.linked⟩
          obtain ⟨hset, port, hport, hmanned⟩ := h.port j t p ht hp
          exact ⟨hset, port, (List.getElem?_append_left
            (List.getElem?_eq_some_iff.mp hport).1).trans hport, hmanned⟩
  | setPortHandler p => exact h.updatePort p fun _ _ _ => rfl
  | setNextSequenceNumber p n => exact h.updatePort p fun _ _ => id
  | sendMessage p data =>
    simp only [Call.run, sendMessage]
    split
    · exact h
    · cases data with
      | null size => exact h
      | bytes data =>
        have hsent := h.sendPacket p (.ofData SequencedDataPacket.packetType data)
        dsimp only
        split
        · exact hsent.updatePort p fun _ _ => id
        · exact hsent
  | sendDebug p text =>
    simp only [Call.run, sendDebug]
    split
    · exact h
    · split
      · exact h
      · exact h.sendWith (TcpConnection.keepsHandlers_sendDebugPacket text) _

theorem Armed.calls (h : s.Armed) (calls : List Call) : (calls.foldl Call.run s).Armed := by
  induction calls generalizing s with
  | nil => exact h
  | cons call calls ih => exact ih (h.run call)

variable (script : Script) (faults : Faults)

theorem Armed.notify (h : s.Armed) (cb : Callback) : (s.notify script true cb).Armed := by
  have hlogged : (s.log (.called true cb)).Armed := by
    refine h.log ?_ nofun
    rintro handlerSet cb ⟨⟩
    rfl
  exact hlogged.calls (script cb)

/-! ## Tcp_connection -/

theorem Armed.acceptorCallback (h : s.Armed) (cb : AcceptorCallback) :
    (s.acceptorCallback script k cb).Armed := by
  unfold Acceptor.acceptorCallback
  split
  · exact h
  · rename_i t ht
    rw [h.acceptor k t ht]
    exact h.notify script _

theorem Armed.portCallback (h : s.Armed) (hport : ∀ t, s.tcp? k = some t → t.port ≠ none)
    (cb : PortCallback) : (s.portCallback script k cb).Armed := by
  unfold Acceptor.portCallback
  split
  · exact h
  · rename_i t ht
    split
    · rename_i hnone
      exact absurd hnone (hport t ht)
    · rename_i p hp
      rw [(h.port k t p ht hp).1]
      exact h.notify script _

theorem Armed.eitherCallback (h : s.Armed) (portCb : PortCallback) (acceptorCb : AcceptorCallback) :
    (s.eitherCallback script k portCb acceptorCb).Armed := by
  unfold Acceptor.eitherCallback
  split
  · exact h
  · rename_i t ht
    split
    · rename_i hset
      apply h.portCallback script _ portCb
      intro u hu
      rw [ht] at hu
      cases hu
      exact h.linked k t ht (Or.inl hset)
    · exact h.acceptorCallback script acceptorCb

theorem Armed.tcpDisconnect (h : s.Armed) (reason : DisconnectReason) :
    (s.tcpDisconnect k reason).Armed := h.updateTcp (TcpConnection.keepsHandlers_disconnect reason)

theorem Armed.handleTransportError (h : s.Armed) (ec : IoError) (operation : String) :
    (s.handleTransportError script k ec operation).Armed :=
  (h.eitherCallback script _ _).tcpDisconnect _

theorem Armed.handleProtocolViolation (h : s.Armed) (error : PacketError) :
    (s.handleProtocolViolation script k error).Armed := by
  have hlogged : (s.log (.violation k error)).Armed := h.log nofun nofun
  exact (hlogged.eitherCallback script _ _).tcpDisconnect _

theorem armed_loginTimer : (loginTimerHandler script k).Keeps Armed where
  update _ _ h := h.updateTcp fun _ => ⟨rfl, rfl, rfl, id⟩
  loginTimerError _ _ _ h := h.handleTransportError script _ _
  loginTimerExpired _ h := h.tcpDisconnect _

theorem armed_heartbeatTimer : (heartbeatTimerHandler script k).Keeps Armed where
  update _ _ _ h := h.updateTcp fun _ => ⟨rfl, rfl, rfl, id⟩
  heartbeatTimerError _ _ _ h := h.handleTransportError script _ _
  heartbeatSendDue _ h := h.updateTcp fun _ => ⟨rfl, rfl, rfl, id⟩
  heartbeatReceiveTimeout _ h := h.tcpDisconnect _

/-- A connection that has a port is logged in. -/
theorem Armed.logIn (h : s.Armed) (hport : ∀ t, s.tcp? k = some t → t.port ≠ none) :
    (s.updateTcp k (·.setState .loggedIn)).Armed := by
  have hold {j : Nat} {u : TcpConnection}
      (hu : (s.updateTcp k (·.setState .loggedIn)).tcp? j = some u) :
      ∃ t, s.tcp? j = some t ∧ u.acceptorHandlerSet = t.acceptorHandlerSet ∧ u.port = t.port ∧
        u.handlerSet = t.handlerSet ∧ (k = j ∨ u.state = t.state) := by
    rw [tcp?_updateTcp] at hu
    split at hu
    · rename_i hk
      obtain ⟨t, ht, rfl⟩ := Option.map_eq_some_iff.mp hu
      exact ⟨t, ht, rfl, rfl, rfl, Or.inl hk⟩
    · exact ⟨u, hu, rfl, rfl, rfl, Or.inr rfl⟩
  refine ⟨h.handler, h.trace, h.sound, fun j u hu => ?_, fun j u p hu hp => ?_,
    fun j u hu hlinked => ?_⟩
  · obtain ⟨t, ht, hacceptor, -⟩ := hold hu
    exact hacceptor.trans (h.acceptor j t ht)
  · obtain ⟨t, ht, -, hport, hset, -⟩ := hold hu
    obtain ⟨htset, hmanned⟩ := h.port j t p ht (hport ▸ hp)
    exact ⟨hset.trans htset, hmanned⟩
  · obtain ⟨t, ht, -, htport, hset, rfl | hstate⟩ := hold hu
    · exact htport ▸ hport t ht
    · rw [htport]
      rw [hset, hstate] at hlinked
      exact h.linked j t ht hlinked

theorem Armed.acceptLogin (h : s.Armed) (hport : ∀ t, s.tcp? k = some t → t.port ≠ none)
    (response : LoginAcceptedPacket) : (s.acceptLogin script faults k response).Armed := by
  have hlogged : (s.log (.loginAccepted k response)).Armed := h.log nofun nofun
  have hseated := hlogged.logIn hport
  have hport' : ∀ u, ((s.log (.loginAccepted k response)).updateTcp k (·.setState .loggedIn)).tcp? k =
      some u → u.port ≠ none := by
    intro u hu
    rw [tcp?_updateTcp, if_pos rfl] at hu
    obtain ⟨t, ht, rfl⟩ := Option.map_eq_some_iff.mp hu
    exact hport t ht
  have htold := hseated.portCallback script hport' (.loginSuccess response)
  unfold Acceptor.acceptLogin
  refine updateTcp ?_ fun _ => ⟨rfl, rfl, rfl, id⟩
  apply (armed_heartbeatTimer script).start
  · exact fun h => h.updateTcp fun _ => ⟨rfl, rfl, rfl, id⟩
  · exact htold.updateTcp fun _ => ⟨rfl, rfl, rfl, id⟩

theorem Armed.rejectLogin (h : s.Armed) (reject : LoginReject) :
    (s.rejectLogin script k reject).Armed := by
  have htold := h.acceptorCallback (k := k) script (.loginFailure reject.reason)
  unfold Acceptor.rejectLogin
  refine updateTcp (updateTcp htold ?_) ?_
  · intro t
    refine ⟨rfl, rfl, rfl, ?_⟩
    simp only [TcpConnection.prepareGracefulDisconnect, ConnectionState.initiateDisconnect]
    split
    · exact id
    · exact nofun
  · exact fun _ => ⟨rfl, rfl, rfl, id⟩

/-- The port that a login request names, with the right password and for the
right session, has a handler. -/
def Names (request : LoginRequestPacket) (s : Acceptor) (port : Port) : Prop :=
  port.username = request.username ∧ port.password = request.password ∧
    (request.session = [] ∨ request.session = s.session)

def Manned (request : LoginRequestPacket) (s : Acceptor) : Prop :=
  ∀ port ∈ s.ports, s.Names request port → port.handlerSet = true

/-- A port that has a handler is taken. -/
theorem Armed.seated (h : s.Armed) {p : Nat} {port port' : Port} (hport : s.ports[p]? = some port)
    (hset : port'.handlerSet = true) :
    ((s.updatePort p fun _ => port').updateTcp k (·.setPort p port'.handlerSet)).Armed := by
  have htaken : (s.updatePort p fun _ => port').Armed := h.updatePort p fun _ _ _ => hset
  have hp : (s.updatePort p fun _ => port').ports[p]? = some port' := by
    simp [Acceptor.updatePort, hport]
  refine ⟨htaken.handler, htaken.trace, htaken.sound, fun j u hu => ?_, fun j u q hu hq => ?_,
    fun j u hu hlinked => ?_⟩
  · rw [tcp?_updateTcp] at hu
    split at hu
    · obtain ⟨t, ht, rfl⟩ := Option.map_eq_some_iff.mp hu
      exact htaken.acceptor j t ht
    · exact htaken.acceptor j u hu
  · rw [tcp?_updateTcp] at hu
    split at hu
    · obtain ⟨t, ht, rfl⟩ := Option.map_eq_some_iff.mp hu
      cases hq
      exact ⟨hset, port', hp, hset⟩
    · exact htaken.port j u q hu hq
  · rw [tcp?_updateTcp] at hu
    split at hu
    · obtain ⟨t, ht, rfl⟩ := Option.map_eq_some_iff.mp hu
      intro hnone
      cases hnone
    · exact htaken.linked j u hu hlinked

theorem Armed.onLoginRequestAt (h : s.Armed) {p : Nat} {port : Port} {request : LoginRequestPacket}
    (hport : s.ports[p]? = some port) (husername : port.username = request.username)
    (hmanned : s.Manned request) : (s.onLoginRequestAt p k port request).2.Armed := by
  unfold Acceptor.onLoginRequestAt
  split
  · exact h
  · rename_i hpassword
    split
    · exact h
    · rename_i hsession
      have hset : port.handlerSet = true := by
        apply hmanned port (List.mem_of_getElem? hport)
        refine ⟨husername, (not_not.mp hpassword).symm, ?_⟩
        by_cases hnone : request.session = []
        · exact Or.inl hnone
        · exact Or.inr (not_not.mp fun hne => hsession ⟨hnone, hne⟩)
      have hset' : ((port.setConnection (some k)).rewind request.nextSequenceNumber).handlerSet =
          true := (Port.handlerSet_rewind _ _).trans hset
      cases hold : port.connection with
      | none => exact h.seated hport hset'
      | some old =>
        have hfreed : (s.updateTcp old TcpConnection.supersede).Armed := h.tcpDisconnect .superseded
        exact hfreed.seated hport hset'

theorem Armed.onLoginRequest (h : s.Armed) {request : LoginRequestPacket}
    (hmanned : s.Manned request) : (s.onLoginRequest k request).2.Armed := by
  unfold Acceptor.onLoginRequest
  split
  · exact h
  · rename_i p hp
    split
    · exact h
    · rename_i port hport
      apply h.onLoginRequestAt hport _ hmanned
      obtain ⟨hlt, hfound, -⟩ := List.findIdx?_eq_some_iff_getElem.mp hp
      obtain ⟨hlt', rfl⟩ := List.getElem?_eq_some_iff.mp hport
      simpa using hfound

/-- A login that is accepted gives the connection a port. -/
theorem onLoginRequest_port {request : LoginRequestPacket} {response : LoginAcceptedPacket}
    {s' : Acceptor} (heq : s.onLoginRequest k request = (.ok response, s')) {t : TcpConnection}
    (ht : s'.tcp? k = some t) : t.port ≠ none := by
  unfold Acceptor.onLoginRequest at heq
  split at heq
  · cases heq
  · split at heq
    · cases heq
    · unfold Acceptor.onLoginRequestAt at heq
      split at heq
      · cases heq
      · split at heq
        · cases heq
        · cases heq
          rw [tcp?_updateTcp, if_pos rfl] at ht
          obtain ⟨u, -, rfl⟩ := Option.map_eq_some_iff.mp ht
          exact nofun

/-! ### What the user's calls do to the ports -/

/-- No login request can tell the two apart. -/
def Alike (s s' : Acceptor) : Prop :=
  s'.session = s.session ∧ s'.ports.map Port.entry = s.ports.map Port.entry

theorem Alike.manned {s' : Acceptor} (h : Alike s s') {request : LoginRequestPacket}
    (hmanned : s.Manned request) : s'.Manned request := by
  intro port' hport' hnames
  have hentry : port'.entry ∈ s.ports.map Port.entry := h.2 ▸ List.mem_map_of_mem hport'
  obtain ⟨port, hport, heq⟩ := List.mem_map.mp hentry
  simp only [Port.entry, Prod.mk.injEq] at heq
  obtain ⟨husername, hpassword, hset⟩ := heq
  rw [Names, ← husername, ← hpassword, h.1] at hnames
  exact hset.symm.trans (hmanned port hport hnames)

theorem alike_updatePort (p : Nat) {f : Port → Port} (hf : ∀ port, (f port).entry = port.entry) :
    Alike s (s.updatePort p f) := by
  refine ⟨rfl, ?_⟩
  apply List.ext_getElem?
  intro q
  simp only [Acceptor.updatePort, List.getElem?_map, List.getElem?_modify]
  cases s.ports[q]? with
  | none => rfl
  | some port => by_cases hpq : p = q <;> simp [hpq, hf]

theorem alike_sendPacket (p : Nat) (packet : WritePacket) : Alike s (s.sendPacket p packet).2 := by
  unfold Acceptor.sendPacket
  split
  · exact ⟨rfl, rfl⟩
  · rename_i port _
    split
    · exact ⟨rfl, rfl⟩
    · rcases s.sendWith_eq (·.sendPacket packet) port.connection with heq | ⟨k, -, heq⟩
      · rw [heq]
        exact ⟨rfl, rfl⟩
      · rw [heq]
        exact ⟨rfl, rfl⟩

theorem alike_sendMessage (p : Nat) (data : Span) : Alike s (s.sendMessage p data).2 := by
  unfold sendMessage
  split
  · exact ⟨rfl, rfl⟩
  · cases data with
    | null size => exact ⟨rfl, rfl⟩
    | bytes data =>
      have hsent := alike_sendPacket (s := s) p (.ofData SequencedDataPacket.packetType data)
      dsimp only
      split
      · have hcounted := alike_updatePort (s := (s.sendPacket p
          (.ofData SequencedDataPacket.packetType data)).2) p (f := Port.countMessage) fun _ => rfl
        exact ⟨hcounted.1.trans hsent.1, hcounted.2.trans hsent.2⟩
      · exact hsent

theorem alike_sendDebug (p : Nat) (text : Bytes) : Alike s (s.sendDebug p text).2 := by
  unfold sendDebug
  split
  · exact ⟨rfl, rfl⟩
  · split
    · exact ⟨rfl, rfl⟩
    · rename_i port _
      rcases s.sendWith_eq (·.sendDebugPacket text) port.connection with heq | ⟨k, -, heq⟩
      · rw [heq]
        exact ⟨rfl, rfl⟩
      · rw [heq]
        exact ⟨rfl, rfl⟩

theorem Alike.trans {s' s'' : Acceptor} (h : Alike s s') (h' : Alike s' s'') : Alike s s'' :=
  ⟨h'.1.trans h.1, h'.2.trans h.2⟩

theorem Alike.symm {s' : Acceptor} (h : Alike s s') : Alike s' s := ⟨h.1.symm, h.2.symm⟩

/-- The same call makes no difference. -/
theorem Alike.run {s' : Acceptor} (h : Alike s s') (call : Call) :
    Alike (call.run s) (call.run s') := by
  cases call with
  | setSession session =>
    simp only [Call.run, setSession]
    split
    · exact h
    · exact ⟨rfl, h.2⟩
  | start =>
    simp only [Call.run, start]
    split <;> split <;> exact h
  | endSession => exact h
  | stop => exact h
  | setHandler => exact h
  | setWritePacketsLimit limit => exact h
  | setDebugBanner debugBanner => exact h
  | addPort username password handlerSet =>
    have hany : (s'.ports.any fun port => port.username = username) =
        s.ports.any fun port => port.username = username := by
      have hknown (s : Acceptor) : (s.ports.any fun port => port.username = username) = true ↔
          ∃ entry ∈ s.ports.map Port.entry, entry.1 = username := by
        simp [Port.entry]
      rw [Bool.eq_iff_iff, hknown, hknown, h.2]
    simp only [Call.run, addPort, hany]
    split
    · exact h
    · split
      · exact h
      · split
        · exact h
        · refine ⟨h.1, ?_⟩
          simp only [List.map_append, h.2]
  | setPortHandler p =>
    refine ⟨h.1, ?_⟩
    apply List.ext_getElem?
    intro q
    have hq := congrArg (·[q]?) h.2
    simp only [List.getElem?_map] at hq
    simp only [Call.run, Acceptor.updatePort, List.getElem?_map, List.getElem?_modify]
    cases hs : s.ports[q]? with
    | none =>
      cases hs' : s'.ports[q]? with
      | none => rfl
      | some port' => simp [hs, hs'] at hq
    | some port =>
      cases hs' : s'.ports[q]? with
      | none => simp [hs, hs'] at hq
      | some port' =>
        simp only [hs, hs', Option.map_some, Option.some.injEq, Port.entry, Prod.mk.injEq] at hq
        by_cases hpq : p = q
        · simp [hpq, Port.entry, Port.setHandler, hq.1, hq.2.1]
        · simp [hpq, Port.entry, hq.1, hq.2.1, hq.2.2]
  | setNextSequenceNumber p n =>
    have hset (s : Acceptor) : Alike s (s.updatePort p (·.setNextSequenceNumber n)) :=
      alike_updatePort p fun _ => rfl
    exact ((hset s).symm.trans h).trans (hset s')
  | sendMessage p data =>
    exact ((alike_sendMessage p data).symm.trans h).trans (alike_sendMessage p data)
  | sendDebug p text =>
    exact ((alike_sendDebug p text).symm.trans h).trans (alike_sendDebug p text)

theorem Alike.calls {s' : Acceptor} (h : Alike s s') (calls : List Call) :
    Alike (calls.foldl Call.run s) (calls.foldl Call.run s') := by
  induction calls generalizing s s' with
  | nil => exact h
  | cons call calls ih => exact ih (h.run call)

/-! ### Reading -/

variable (script : Script) (faults : Faults)

theorem Armed.processLoginRequest (h : s.Armed) (data : Bytes)
    (hmanned : (s.tcpState k).state = .connected → data.length = LoginRequestPacket.payloadSize →
      ((script (.acceptor (.loginRequest (.read data)))).foldl Call.run s).Manned (.read data)) :
    (s.processLoginRequest script faults k data).2.Armed := by
  unfold Acceptor.processLoginRequest
  split
  · exact h
  · rename_i hlength
    split
    · exact h
    · rename_i hstate
      have hstate : (s.tcpState k).state = .connected := not_not.mp hstate
      obtain ⟨t, ht, -⟩ := tcp?_of_state hstate (by decide)
      have hstopped : (s.updateTcp k (·.updateLoginTimer LoginTimer.stop)).Armed :=
        h.updateTcp fun _ => ⟨rfl, rfl, rfl, id⟩
      have hasked := hstopped.acceptorCallback (k := k) script (.loginRequest (.read data))
      have hmanned : ((s.updateTcp k (·.updateLoginTimer LoginTimer.stop)).acceptorCallback script k
          (.loginRequest (.read data))).Manned (.read data) := by
        apply Alike.manned _ (hmanned hstate (not_not.mp hlength))
        have hfound : (s.updateTcp k (·.updateLoginTimer LoginTimer.stop)).tcp? k =
            some (t.updateLoginTimer LoginTimer.stop) := by
          rw [tcp?_updateTcp, if_pos rfl, ht]
          rfl
        have hset : (t.updateLoginTimer LoginTimer.stop).acceptorHandlerSet = true :=
          h.acceptor k t ht
        simp only [Acceptor.acceptorCallback, hfound, Acceptor.notify, hset, ↓reduceIte]
        have hsame : Alike s ((s.updateTcp k (·.updateLoginTimer LoginTimer.stop)).log
            (.called true (.acceptor (.loginRequest (.read data))))) := ⟨rfl, rfl⟩
        exact hsame.calls _
      have hanswered := hasked.onLoginRequest (k := k) hmanned
      rw [answerLogin_eq]
      split
      · rename_i response s' heq
        rw [heq] at hanswered
        exact hanswered.acceptLogin script faults (fun t ht => onLoginRequest_port heq ht) response
      · rename_i reject s' heq
        rw [heq] at hanswered
        exact hanswered.rejectLogin script reject

/-- A connection that is logged in has a port. -/
theorem Armed.port_of_state (h : s.Armed) (hstate : (s.tcpState k).state = .loggedIn)
    {t : TcpConnection} (ht : s.tcp? k = some t) : t.port ≠ none := by
  apply h.linked k t ht
  right
  simpa [tcpState, ht] using hstate

theorem Armed.countReceived (h : s.Armed) : (s.countReceived k).Armed :=
  h.updateTcp fun _ => ⟨rfl, rfl, rfl, id⟩

theorem Armed.processUnsequencedData (h : s.Armed) (data : Bytes) :
    (s.processUnsequencedData script k data).2.Armed := by
  unfold Acceptor.processUnsequencedData
  split
  · exact h
  · rename_i hstate
    have hstate : ((s.countReceived k).tcpState k).state = .loggedIn := by
      rw [tcpState, Acceptor.countReceived, tcp?_updateTcp, if_pos rfl]
      rw [tcpState] at hstate
      cases ht : s.tcp? k with
      | none => simp [ht] at hstate
      | some t => simpa [ht, TcpConnection.updateHeartbeatTimer] using hstate
    dsimp only
    split
    · exact h.countReceived
    · exact h.countReceived.portCallback script (fun t ht => h.countReceived.port_of_state hstate ht) _

theorem Armed.processClientHeartbeat (h : s.Armed) (size : Nat) :
    (s.processClientHeartbeat k size).2.Armed := by
  unfold Acceptor.processClientHeartbeat
  split
  · exact h
  · split
    · exact h
    · exact h.countReceived

theorem Armed.processLogoutRequest (h : s.Armed) (size : Nat) :
    (s.processLogoutRequest script k size).2.Armed := by
  unfold Acceptor.processLogoutRequest
  split
  · exact h
  · split
    · exact h
    · rename_i hstate
      have hport := fun t ht => h.port_of_state (not_not.mp hstate) (t := t) ht
      exact (h.portCallback script hport _).tcpDisconnect _

/-- The login request that a packet is, if its connection takes it for one, names
a port with a handler once the user has made the calls of `login_request`. -/
def AsksManned (script : Script) (k : Nat) (packet : ReadPacket) (s : Acceptor) : Prop :=
  s.asks k packet →
    ((script (.acceptor (.loginRequest (.read packet.payload)))).foldl Call.run s).Manned
      (.read packet.payload)

theorem Armed.processPacket (h : s.Armed) {packet : ReadPacket}
    (hmanned : s.AsksManned script k packet) :
    (s.processPacket script faults k packet).2.Armed := by
  unfold Acceptor.processPacket
  dsimp only
  split
  · exact h.eitherCallback script _ _
  · split
    · rename_i htype
      exact h.processLoginRequest script faults _ fun hstate hlength =>
        hmanned ⟨hstate, htype, hlength⟩
    · split
      · exact h.processUnsequencedData script _
      · split
        · exact h.processClientHeartbeat _
        · split
          · exact h.processLogoutRequest script _
          · exact h

theorem Armed.readSuccess (h : s.Armed) {packet : ReadPacket}
    (hmanned : s.AsksManned script k packet) : (s.readSuccess script faults k packet).Armed := by
  unfold Acceptor.readSuccess
  split
  · exact h
  · have hprocessed := h.processPacket script faults hmanned
    dsimp only
    split
    · have hreported := hprocessed.handleProtocolViolation (k := k) script
        (s.processPacket script faults k packet).1
      split
      · exact hreported
      · exact hreported.updateTcp fun _ => ⟨rfl, rfl, rfl, id⟩
    · split
      · exact hprocessed
      · exact hprocessed.updateTcp fun _ => ⟨rfl, rfl, rfl, id⟩

/-- An accepted socket is connected, and completes no connect. -/
def acceptedHandler (script : Script) (faults : Faults) (k : Nat) : Socket.Handler Acceptor :=
  { socketHandler script faults k with
    connectFailure := fun _ s => s
    connectSuccess := id }

theorem armed_socket : (acceptedHandler script faults k).KeepsUnread Armed where
  update _ _ _ h := h.updateTcp fun _ => ⟨rfl, rfl, rfl, id⟩
  connectFailure _ _ h := h
  readFailure _ _ h := h.handleTransportError script _ _
  readPacketFailure _ _ h := h.handleProtocolViolation script _
  readEndOfFile _ h := h.tcpDisconnect _
  writeFailure _ _ h := h.handleTransportError script _ _
  writeSuccess _ s h := by
    show (s.writeSuccess k).Armed
    unfold Acceptor.writeSuccess
    split
    · exact h.tcpDisconnect _
    · exact h
  writeBufferEmpty s h := by
    show (s.writeBufferEmpty script k).Armed
    unfold Acceptor.writeBufferEmpty
    split
    · exact h
    · rename_i t ht
      split
      · rename_i hset
        apply h.portCallback script
        intro u hu
        rw [ht] at hu
        cases hu
        exact h.linked k t ht (Or.inl hset)
      · exact h

theorem Armed.onClosed (h : s.Armed) (t : TcpConnection) : (s.onClosed script k t).Armed := by
  have hfreed : (s.updateSlot k fun _ => none).Armed := by
    have hslot (j : Nat) (u : TcpConnection) (hu : (s.updateSlot k fun _ => none).tcp? j = some u) :
        s.tcp? j = some u := by
      simp only [tcp?, updateSlot, List.getElem?_modify] at hu ⊢
      split at hu
      · cases hj : s.connections[j]? <;> simp [hj] at hu
      · simpa using hu
    exact ⟨h.handler, h.trace, h.sound, fun j u hu => h.acceptor j u (hslot j u hu),
      fun j u p hu => h.port j u p (hslot j u hu), fun j u hu => h.linked j u (hslot j u hu)⟩
  have hlogged : ((s.updateSlot k fun _ => none).log (.onClosed k)).Armed :=
    hfreed.log (by rintro _ _ ⟨⟩) (by rintro ⟨⟩)
  unfold Acceptor.onClosed
  dsimp only
  split
  · exact hlogged.notify script _
  · rw [hlogged.handler]
    exact hlogged.notify script _

theorem Armed.maybeSignalClosed (h : s.Armed) : (s.maybeSignalClosed script k).Armed := by
  unfold Acceptor.maybeSignalClosed
  split
  · exact h
  · rename_i t _
    split
    · dsimp only
      split
      · exact h.onClosed script t
      · have hleft (p : Nat) : (s.portOnClosed p k).Armed := by
          apply h.updatePort p
          intro port _ hmanned
          split <;> exact hmanned
        exact (hleft _).onClosed script t
    · exact h

/-! ### Accepting -/

theorem Armed.emplace (h : s.Armed) (socket : Socket) : (s.emplace script faults socket).Armed := by
  have hmade : ({ s with connections := s.connections ++
      [some { acceptorHandlerSet := s.handlerSet, socket := socket }] } : Acceptor).Armed := by
    refine ⟨h.handler, h.trace, h.sound, fun j t ht => ?_, fun j t p ht hp => ?_,
      fun j t ht hlinked => ?_⟩
    · rw [tcp?_emplaced] at ht
      split at ht
      · cases ht
        exact h.handler
      · exact h.acceptor j t ht
    · rw [tcp?_emplaced] at ht
      split at ht
      · cases ht
        cases hp
      · exact h.port j t p ht hp
    · rw [tcp?_emplaced] at ht
      split at ht
      · cases ht
        simp at hlinked
      · exact h.linked j t ht hlinked
  have hlogged := @Armed.log _ hmade (.constructed s.connections.length) nofun nofun
  unfold Acceptor.emplace
  refine updateTcp ?_ fun _ => ⟨rfl, rfl, rfl, id⟩
  apply (armed_loginTimer script).start
  exact hlogged.updateTcp fun _ => ⟨rfl, rfl, rfl, id⟩

theorem Armed.acceptSuccess (h : s.Armed) : (s.acceptSuccess script faults).Armed := by
  unfold Acceptor.acceptSuccess
  rw [h.handler]
  have hmade := (h.notify script (.acceptor .acceptSuccess)).emplace script faults
    { isOpen := true, writePacketsLimit := s.writePacketsLimit }
  dsimp only
  split
  · have hgreeted := hmade.updateTcp (k := (s.notify script true
      (.acceptor .acceptSuccess)).connections.length)
      (TcpConnection.keepsHandlers_sendDebugPacket ((s.notify script true
        (.acceptor .acceptSuccess)).emplace script faults
          { isOpen := true, writePacketsLimit := s.writePacketsLimit }).debugBanner)
    exact hgreeted.aside hgreeted.handler rfl rfl rfl
  · exact hmade.aside hmade.handler rfl rfl rfl

theorem Armed.acceptCompleted (h : s.Armed) (ec : Option IoError) :
    (s.acceptCompleted script faults ec).Armed := by
  have hdone : (s.updateSocketAcceptor SocketAcceptor.acceptDone).Armed :=
    h.aside h.handler rfl rfl rfl
  unfold Acceptor.acceptCompleted
  dsimp only
  split
  · exact hdone.acceptSuccess script faults
  · exact hdone
  · rename_i ec _
    unfold Acceptor.acceptFailure
    rw [hdone.handler]
    have htold := hdone.notify script (.acceptor (.acceptFailure ec))
    exact htold.aside htold.handler rfl rfl rfl

theorem Armed.startAccepting (h : s.Armed) : (s.startAccepting script faults).Armed := by
  have hopened : (if faults.openAcceptor = none then
      s.updateSocketAcceptor SocketAcceptor.openAcceptor else s).Armed := by
    split
    · exact h.aside h.handler rfl rfl rfl
    · exact h
  unfold Acceptor.startAccepting
  dsimp only
  rw [hopened.handler]
  split
  · exact hopened.notify script _
  · have htold := hopened.notify script (.acceptor .listenSetupSuccess)
    exact htold.aside htold.handler rfl rfl rfl

theorem Armed.endSessions (h : s.Armed) : s.endSessions.Armed := by
  unfold Acceptor.endSessions
  generalize List.range s.ports.length = ports
  induction ports generalizing s with
  | nil => exact h
  | cons p ports ih => exact ih (h.endSessionOf p)

theorem Armed.stopAccepting (h : s.Armed) : s.stopAccepting.Armed := by
  have hclosed : (s.updateSocketAcceptor SocketAcceptor.close).Armed := h.aside h.handler rfl rfl rfl
  refine map_of_modify (P := fun l => Armed { s.updateSocketAcceptor SocketAcceptor.close with
    connections := l }) ?_ _ hclosed
  intro n l hl
  exact hl.updateTcp (k := n) (TcpConnection.keepsHandlers_disconnect .userInitiated)

theorem Armed.runPosted (h : s.Armed) (posted : Posted) :
    (runPosted script faults posted s).Armed := by
  unfold Acceptor.runPosted
  cases posted with
  | start =>
    dsimp only
    split
    · exact h
    · have hstarted : ({ s with started := true } : Acceptor).Armed := h.aside h.handler rfl rfl rfl
      exact hstarted.startAccepting script faults
  | endSession =>
    dsimp only
    split
    · exact h.endSessions
    · exact h
  | stop =>
    dsimp only
    split
    · have hstopped : ({ s with started := false } : Acceptor).Armed := h.aside h.handler rfl rfl rfl
      exact hstopped.stopAccepting
    · exact h

end

/-! ## One event -/

/-- A login request that arrives with the event names a port with a handler, as
the ports are once the user has made the calls of `login_request`. -/
def LoginsManned (input : Event × Env) (s : Acceptor) : Prop :=
  ∀ k bytes, input.1 = .payloadCompleted k (.ok bytes) → (s.tcpState k).state = .connected →
    (s.readPacket k).packetType = LoginRequestPacket.packetType →
    (s.readPacket k).payloadSize = LoginRequestPacket.payloadSize →
    bytes.length = LoginRequestPacket.payloadSize →
    ((input.2.calls (.acceptor (.loginRequest (.read bytes)))).foldl Call.run s).Manned (.read bytes)

section
variable {s : Acceptor} {event : Event} {env : Env}

theorem Armed.step (h : s.Armed) (hmanned : LoginsManned (event, env) s) :
    (s.handle env event).Armed := by
  cases event with
  | call call => exact h.run call
  | posted n =>
    unfold handle
    dsimp only
    split
    · exact h
    · rename_i posted _
      have herased : ({ s with posted := s.posted.eraseIdx n } : Acceptor).Armed :=
        h.aside h.handler rfl rfl rfl
      exact herased.runPosted env.calls env.faults posted
  | acceptCompleted ec => exact h.acceptCompleted env.calls env.faults ec
  | headerCompleted k result =>
    refine (armed_socket env.calls env.faults).headerCompleted result ?_
      (fun _ hi => hi.tcpDisconnect _) h
    intro bytes packet _ hempty hi
    apply hi.readSuccess env.calls env.faults
    rintro ⟨-, -, hlength⟩
    have hresized := ReadPacket.payload_of_emptyPayload (congrArg Prod.fst hempty)
    have hpayload : packet.payload = [] :=
      (congrArg (fun read => read.2.payload) hempty).symm.trans hresized
    rw [hpayload] at hlength
    exact absurd hlength (by decide)
  | payloadCompleted k result =>
    refine (armed_socket env.calls env.faults).payloadCompleted result ?_
      (fun _ hi => hi.tcpDisconnect _) h
    rintro bytes rfl hlength hi
    apply hi.readSuccess env.calls env.faults
    rintro ⟨hstate, htype, hsize⟩
    have hread : ((acceptedHandler env.calls env.faults k).socket
        ((acceptedHandler env.calls env.faults k).update (Socket.readDone .readPayload) s)).readPacket =
          s.readPacket k := readPacket_readDone env.calls env.faults .readPayload
    rw [hread] at hlength htype
    have hstate : (s.tcpState k).state = .connected := by
      simpa only [acceptedHandler, socketHandler, tcpState_updateSocket] using hstate
    have hasked := hmanned k bytes rfl hstate htype (hlength.symm.trans hsize) hsize
    have hsame : Alike s ((acceptedHandler env.calls env.faults k).update (Socket.setReadPacket {})
        ((acceptedHandler env.calls env.faults k).update (Socket.readDone .readPayload) s)) :=
      ⟨rfl, rfl⟩
    exact (hsame.calls _).manned hasked
  | writeCompleted k result => exact (armed_socket env.calls env.faults).writeCompleted result h
  | socketClosed k =>
    have hnoted : (s.updateTcp k TcpConnection.noteClosed).Armed :=
      h.updateTcp fun _ => ⟨rfl, rfl, rfl, id⟩
    exact hnoted.maybeSignalClosed env.calls
  | loginTimerWait k ec => exact (armed_loginTimer env.calls).waitCompleted ec h
  | loginTimerStopped k =>
    have hnoted : (s.updateTcp k TcpConnection.noteLoginTimerStopped).Armed :=
      h.updateTcp fun _ => ⟨rfl, rfl, rfl, id⟩
    exact hnoted.maybeSignalClosed env.calls
  | heartbeatTimerWait k ec => exact (armed_heartbeatTimer env.calls).waitCompleted ec _ h
  | heartbeatTimerStopped k =>
    have hnoted : (s.updateTcp k TcpConnection.noteHeartbeatTimerStopped).Armed :=
      h.updateTcp fun _ => ⟨rfl, rfl, rfl, id⟩
    exact hnoted.maybeSignalClosed env.calls

/-! ### Before the start -/

theorem Dormant.aside (h : s.Dormant) {s' : Acceptor} (hposted : .start ∉ s'.posted)
    (ha : s'.socketAcceptor.accepts = s.socketAcceptor.accepts)
    (hc : s'.connections = s.connections) (ht : s'.trace = s.trace) : s'.Dormant := by
  refine ⟨hposted, ha.trans h.accepts, fun k => ?_, ht ▸ h.trace, ht ▸ h.sound⟩
  have hk := h.tcp k
  rw [tcp?] at hk ⊢
  rw [hc, hk]

theorem Dormant.sendWith (h : s.Dormant) (send : TcpConnection → WriteError × TcpConnection)
    (connection : Option Nat) : s.sendWith send connection = (.disconnected, s) := by
  unfold Acceptor.sendWith
  cases connection with
  | none => rfl
  | some k => simp only [h.tcp k]

theorem Dormant.endSessionOf (h : s.Dormant) (p : Nat) : (s.endSessionOf p).Dormant := by
  unfold Acceptor.endSessionOf
  split
  · exact h
  · split
    · exact h
    · have hended : (s.updatePort p Port.setSessionEnded).Dormant := h.aside h.posted rfl rfl rfl
      rw [hended.sendWith]
      exact hended

theorem Dormant.stopAccepting (h : s.Dormant) : s.stopAccepting.Dormant := by
  refine ⟨h.posted, h.accepts, fun k => ?_, h.trace, h.sound⟩
  have hk := h.tcp k
  simp only [tcp?, Acceptor.stopAccepting, updateSocketAcceptor, List.getElem?_map] at hk ⊢
  cases hslot : s.connections[k]? with
  | none => rfl
  | some slot =>
    rw [hslot] at hk
    cases slot with
    | none => rfl
    | some t => cases hk

/-- A `start` that succeeds finds every handler set. -/
theorem Dormant.armed (h : s.Dormant) (hset : s.isHandlerSet = true) :
    ({ s with posted := s.posted ++ [.start] } : Acceptor).Armed := by
  simp only [isHandlerSet, Bool.and_eq_true] at hset
  have hnone {k : Nat} {t : TcpConnection} (ht : s.tcp? k = some t) : False := by
    rw [h.tcp k] at ht
    cases ht
  exact ⟨hset.1, h.trace, h.sound, fun _ _ ht => (hnone ht).elim, fun _ _ _ ht _ => (hnone ht).elim,
    fun _ _ ht => (hnone ht).elim⟩

theorem Dormant.run (h : s.Dormant) (call : Call) : (call.run s).Dormant ∨ (call.run s).Armed := by
  cases call with
  | start =>
    simp only [Call.run, start]
    split
    · exact Or.inr (h.armed ‹_›)
    · exact Or.inl h
  | setSession session =>
    left
    simp only [Call.run, setSession]
    split
    · exact h
    · exact h.aside h.posted rfl rfl rfl
  | endSession => exact Or.inl (h.aside (by simpa [Call.run, endSession] using h.posted) rfl rfl rfl)
  | stop => exact Or.inl (h.aside (by simpa [Call.run, stop] using h.posted) rfl rfl rfl)
  | setHandler => exact Or.inl (h.aside h.posted rfl rfl rfl)
  | setWritePacketsLimit limit => exact Or.inl (h.aside h.posted rfl rfl rfl)
  | setDebugBanner debugBanner => exact Or.inl (h.aside h.posted rfl rfl rfl)
  | addPort username password handlerSet =>
    left
    simp only [Call.run, addPort]
    split
    · exact h
    · split
      · exact h
      · split
        · exact h
        · exact h.aside h.posted rfl rfl rfl
  | setPortHandler p => exact Or.inl (h.aside h.posted rfl rfl rfl)
  | setNextSequenceNumber p n => exact Or.inl (h.aside h.posted rfl rfl rfl)
  | sendMessage p data =>
    left
    have hsent (packet : WritePacket) : (s.sendPacket p packet).2 = s := by
      unfold Acceptor.sendPacket
      split
      · rfl
      · split
        · rfl
        · rw [h.sendWith]
    simp only [Call.run, sendMessage]
    split
    · exact h
    · cases data with
      | null size => exact h
      | bytes data =>
        dsimp only
        rw [hsent]
        split
        · exact h.aside h.posted rfl rfl rfl
        · exact h
  | sendDebug p text =>
    left
    simp only [Call.run, sendDebug]
    split
    · exact h
    · split
      · exact h
      · rw [h.sendWith]
        exact h

theorem Dormant.step (h : s.Dormant) (hready : s.ready event = true) :
    (s.handle env event).Dormant ∨ (s.handle env event).Armed := by
  cases event with
  | call call => exact h.run call
  | posted n =>
    left
    unfold handle
    dsimp only
    split
    · exact h
    · rename_i posted hposted
      have herased : ({ s with posted := s.posted.eraseIdx n } : Acceptor).Dormant :=
        h.aside (fun hmem => h.posted (List.mem_of_mem_eraseIdx hmem)) rfl rfl rfl
      cases posted with
      | start => exact absurd (List.mem_of_getElem? hposted) h.posted
      | endSession =>
        simp only [Acceptor.runPosted]
        split
        · unfold Acceptor.endSessions
          generalize List.range _ = ports
          have hall (s : Acceptor) (h : s.Dormant) :
              (ports.foldl (fun s p => s.endSessionOf p) s).Dormant := by
            induction ports generalizing s with
            | nil => exact h
            | cons p ports ih => exact ih _ (h.endSessionOf p)
          exact hall _ herased
        · exact herased
      | stop =>
        simp only [Acceptor.runPosted]
        split
        · have hstopped : ({ s with posted := s.posted.eraseIdx n, started := false } :
              Acceptor).Dormant := herased.aside herased.posted rfl rfl rfl
          exact hstopped.stopAccepting
        · exact herased
  | acceptCompleted ec => simp [ready, h.accepts] at hready
  | _ => simp [ready, h.tcp] at hready

end

/-- Every handler is set that an acceptor may call. -/
theorem guarded_run {s₀ s : Acceptor} {inputs : List (Event × Env)} (h₀ : s₀.Dormant ∨ s₀.Armed)
    (hrun : (system.restrict LoginsManned).Run s₀ inputs s) : s.Dormant ∨ s.Armed := by
  refine hrun.keeps (I := fun s => s.Dormant ∨ s.Armed) ?_ h₀
  rintro input s ⟨hready, hmanned⟩ (h | h)
  · exact h.step hready
  · exact Or.inr (h.step hmanned)

end Acceptor
end SoupBin.ServerSide
