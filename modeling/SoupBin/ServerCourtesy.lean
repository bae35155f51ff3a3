import SoupBin.ServerGreeting

/-!
# The first packet after a login: the server

Every event keeps the connections courteous, if each response is queued before
anything that must come after it.
-/

namespace SoupBin.ServerSide.Acceptor

open TcpConnection

variable {k : Nat} {P Q : Prop → TcpConnection → Prop} {s : Acceptor}

/-! ## The calls of the user -/

/-- What the calls of the user keep. -/
structure Steadfast (P : Prop → TcpConnection → Prop) : Prop where
  sendPacket : ∀ logged t packet, P logged t → P logged (t.sendPacket packet).2
  sendDebugPacket : ∀ logged t text, P logged t → P logged (t.sendDebugPacket text).2

theorem port_sendPacket (packet : WritePacket) (t : TcpConnection) :
    (t.sendPacket packet).2.port = t.port := by
  unfold TcpConnection.sendPacket
  split
  · rfl
  · dsimp only
    split <;> rfl

theorem port_sendDebugPacket (text : Bytes) (t : TcpConnection) :
    (t.sendDebugPacket text).2.port = t.port := by
  unfold TcpConnection.sendDebugPacket
  split <;> rfl

/-- A send through a port that may point to the connection `k`. -/
theorem Stage.sendWith (h : Stage k P s) {send : TcpConnection → WriteError × TcpConnection}
    {connection : Option Nat} (hport : ∀ t, (send t).2.port = t.port)
    (hpolite : ∀ logged t, t.Polite logged → (send t).2.Polite logged)
    (hhere : connection = some k → ∀ t, s.tcp? k = some t → P (s.LoggedIn k) t →
      Q (s.LoggedIn k) (send t).2)
    (hsame : ∀ logged t, P logged t → Q logged t) :
    Stage k Q (s.sendWith send connection).2 := by
  have hq : Stage k Q s := h.mono fun t _ hp => hsame _ t hp
  unfold Acceptor.sendWith
  split
  · exact hq
  · rename_i j
    split
    · exact hq
    · apply h.updateTcp_at j hport
      · intro t ht hp
        split
        · rename_i hj
          exact hhere (congrArg some hj) t ht hp
        · exact hsame _ t hp
      · intro _ t _ ht
        exact hpolite _ t ht

theorem Stage.sendPacket (h : Stage k P s) (hP : Steadfast P) (p : Nat) (packet : WritePacket) :
    Stage k P (s.sendPacket p packet).2 := by
  unfold Acceptor.sendPacket
  split
  · exact h
  · split
    · exact h
    · apply h.sendWith (port_sendPacket packet)
      · exact fun _ _ ht => ht.sendPacket packet
      · exact fun _ _ _ hp => hP.sendPacket _ _ packet hp
      · exact fun _ _ hp => hp

theorem Stage.sendMessage (h : Stage k P s) (hP : Steadfast P) (p : Nat) (data : Span) :
    Stage k P (s.sendMessage p data).2 := by
  unfold Acceptor.sendMessage
  split
  · exact h
  · cases data with
    | null size => exact h
    | bytes payload =>
      have hsent := h.sendPacket hP p (.ofData SequencedDataPacket.packetType payload)
      dsimp only
      split
      · exact hsent.updatePort p fun _ _ hc => hc
      · exact hsent

theorem Stage.sendDebug (h : Stage k P s) (hP : Steadfast P) (p : Nat) (text : Bytes) :
    Stage k P (s.sendDebug p text).2 := by
  unfold Acceptor.sendDebug
  split
  · exact h
  · split
    · exact h
    · apply h.sendWith (port_sendDebugPacket text)
      · exact fun _ _ ht => ht.sendDebugPacket text
      · exact fun _ _ _ hp => hP.sendDebugPacket _ _ text hp
      · exact fun _ _ hp => hp

theorem Stage.endSessionOf (h : Stage k P s) (hP : Steadfast P) (p : Nat) :
    Stage k P (s.endSessionOf p) := by
  unfold Acceptor.endSessionOf
  split
  · exact h
  · split
    · exact h
    · have hended := h.updatePort p (f := Port.setSessionEnded) fun _ _ hc => hc
      apply hended.sendWith (port_sendPacket _)
      · exact fun _ _ ht => ht.sendPacket _
      · exact fun _ _ _ hp => hP.sendPacket _ _ _ hp
      · exact fun _ _ hp => hp

theorem Stage.addPort (h : Stage k P s) (username password : Bytes) (handlerSet : Bool) :
    Stage k P (s.addPort username password handlerSet).2 := by
  unfold Acceptor.addPort
  split
  · exact h
  · split
    · exact h
    · split
      · exact h
      · refine h.same ?_ ?_ ?_
        · rfl
        · intro p j port' hport' hconn'
          dsimp only at hport'
          rw [List.getElem?_append] at hport'
          split at hport'
          · exact ⟨port', hport', hconn'⟩
          · have hmem := List.mem_of_getElem? hport'
            rw [List.mem_singleton] at hmem
            rw [hmem] at hconn'
            cases hconn'
        · exact fun _ => Iff.rfl

/-- The calls that do not send set something. -/
theorem Stage.set (h : Stage k P s) {call : Call} (hc : call.sends = false) :
    Stage k P (call.run s) := by
  cases call with
  | setSession session =>
    simp only [Call.run, Acceptor.setSession]
    split
    · exact h
    · exact h.aside rfl rfl rfl
  | start =>
    simp only [Call.run, Acceptor.start]
    split
    · exact h.aside rfl rfl rfl
    · exact h
  | endSession => exact h.aside rfl rfl rfl
  | stop => exact h.aside rfl rfl rfl
  | setHandler => exact h.aside rfl rfl rfl
  | setWritePacketsLimit limit => exact h.aside rfl rfl rfl
  | setDebugBanner banner => exact h.aside rfl rfl rfl
  | addPort username password handlerSet => exact h.addPort username password handlerSet
  | setPortHandler p => exact h.updatePort p fun _ _ hc => hc
  | setNextSequenceNumber p n => exact h.updatePort p fun _ _ hc => hc
  | sendMessage p data => cases hc
  | sendDebug p text => cases hc

theorem Stage.call (h : Stage k P s) (hP : Steadfast P) (call : Call) :
    Stage k P (call.run s) := by
  cases call with
  | sendMessage p data => exact h.sendMessage hP p data
  | sendDebug p text => exact h.sendDebug hP p text
  | _ => exact h.set rfl

theorem Stage.notify (h : Stage k P s) (hP : Steadfast P) (script : Script) (handlerSet : Bool)
    (cb : Callback) : Stage k P (s.notify script handlerSet cb) := by
  have hlog : Stage k P (s.log (.called handlerSet cb)) := h.log (by simp)
  unfold Acceptor.notify
  dsimp only
  split
  · generalize s.log (.called handlerSet cb) = s at hlog
    induction script cb generalizing s with
    | nil => exact hlog
    | cons call calls ih => exact ih _ (hlog.call hP call)
  · exact hlog

/-! ### Before the response -/

theorem sessionEnded_updatePort (s : Acceptor) (p q : Nat) {f : Port → Port}
    (hf : ∀ port : Port, port.hasSessionEnded = true → (f port).hasSessionEnded = true)
    (h : s.sessionEnded p = true) : (s.updatePort q f).sessionEnded p = true := by
  simp only [sessionEnded, Acceptor.updatePort, List.getElem?_modify] at h ⊢
  cases hport : s.ports[p]? with
  | none => simp [hport] at h
  | some port =>
    simp only [hport, Option.map_some, Option.getD_some] at h
    simp only [Option.map_eq_map, Option.map_some, Option.getD_some]
    split
    · exact hf port h
    · exact h

theorem ports_sendWith (s : Acceptor) (send : TcpConnection → WriteError × TcpConnection)
    (connection : Option Nat) : (s.sendWith send connection).2.ports = s.ports := by
  unfold Acceptor.sendWith
  split
  · rfl
  · split <;> rfl

theorem ports_sendPacket (s : Acceptor) (p : Nat) (packet : WritePacket) :
    (s.sendPacket p packet).2.ports = s.ports := by
  unfold Acceptor.sendPacket
  split
  · rfl
  · split
    · rfl
    · exact ports_sendWith _ _ _

/-- A session that has ended stays so. -/
theorem sessionEnded_call {p : Nat} (call : Call) (h : s.sessionEnded p = true) :
    (call.run s).sessionEnded p = true := by
  have hports {s' : Acceptor} (he : s'.ports = s.ports) : s'.sessionEnded p = true := by
    rw [sessionEnded, he]
    exact h
  cases call with
  | setSession session =>
    simp only [Call.run, Acceptor.setSession]
    split <;> exact h
  | start =>
    simp only [Call.run, Acceptor.start]
    split <;> exact h
  | endSession => exact h
  | stop => exact h
  | setHandler => exact h
  | setWritePacketsLimit limit => exact h
  | setDebugBanner banner => exact h
  | addPort username password handlerSet =>
    have hlt : p < s.ports.length := by
      by_contra hp
      simp [sessionEnded, List.getElem?_eq_none (by omega : s.ports.length ≤ p)] at h
    simp only [Call.run, Acceptor.addPort]
    split
    · exact h
    · split
      · exact h
      · split
        · exact h
        · simpa [sessionEnded, List.getElem?_append_left hlt] using h
  | setPortHandler q => exact sessionEnded_updatePort s p q (fun _ he => he) h
  | setNextSequenceNumber q n => exact sessionEnded_updatePort s p q (fun _ he => he) h
  | sendMessage q data =>
    simp only [Call.run, Acceptor.sendMessage]
    split
    · exact h
    · cases data with
      | null size => exact h
      | bytes payload =>
        have hsent := hports (ports_sendPacket s q (.ofData SequencedDataPacket.packetType payload))
        dsimp only
        split
        · exact sessionEnded_updatePort _ p q (fun _ he => he) hsent
        · exact hsent
  | sendDebug q text =>
    simp only [Call.run, Acceptor.sendDebug]
    split
    · exact h
    · split
      · exact h
      · exact hports (ports_sendWith _ _ _)

variable {t₀ : TcpConnection} {p n : Nat} {room : Prop}

/-- The connection that is waiting for its response. -/
abbrev Awaiting (t₀ : TcpConnection) (room : Prop) (n : Nat) : Prop → TcpConnection → Prop :=
  fun _ t => Greeting t₀ room n t

/-- Another port does not reach the connection. -/
theorem Stage.unreached {q j : Nat} {port : Port} (h : Stage k (Awaiting t₀ room n) s)
    (ht₀ : t₀.port = some p) (hq : q ≠ p) (hport : s.ports[q]? = some port)
    (hj : port.connection = some j) : ∀ t, s.tcp? k = some t → j ≠ k := by
  rintro t ht rfl
  obtain ⟨u, hu, hup⟩ := h.linked.port q j port hport hj
  rw [hu] at ht
  cases ht
  have hhere := (h.here _ hu).port
  rw [hup, ht₀] at hhere
  cases hhere
  exact hq rfl

/-- A message that is not for the port, or is refused. -/
theorem Stage.awaiting_sendMessage (h : Stage k (Awaiting t₀ room n) s) (ht₀ : t₀.port = some p)
    {q : Nat} {data : Span}
    (hquiet : s.sessionEnded p = true ∨ (Call.sendMessage q data).disturbs p = false) :
    Stage k (Awaiting t₀ room n) (s.sendMessage q data).2 := by
  unfold Acceptor.sendMessage
  split
  · exact h
  · rename_i hsize
    cases data with
    | null size => exact h
    | bytes payload =>
      have hsent : Stage k (Awaiting t₀ room n)
          (s.sendPacket q (.ofData SequencedDataPacket.packetType payload)).2 := by
        unfold Acceptor.sendPacket
        split
        · exact h
        · rename_i port hport
          split
          · exact h
          · rename_i hended
            have hq : q ≠ p := by
              rintro rfl
              rcases hquiet with hquiet | hquiet
              · simp [sessionEnded, hport, hended] at hquiet
              · simp only [Call.disturbs, beq_self_eq_true, Bool.true_and, bne_eq_false_iff_eq]
                  at hquiet
                exact hsize (by simp [hquiet, Span.size])
            apply h.sendWith (port_sendPacket _)
            · exact fun _ _ ht => ht.sendPacket _
            · intro hj t ht
              exact absurd rfl (h.unreached ht₀ hq hport hj t ht)
            · exact fun _ _ hp => hp
      dsimp only
      split
      · exact hsent.updatePort q fun _ _ hc => hc
      · exact hsent

theorem Stage.awaiting_call {call : Call}
    (h : Stage k (Awaiting t₀ room (n + if call.debugs p then 1 else 0)) s)
    (ht₀ : t₀.port = some p)
    (hquiet : s.sessionEnded p = true ∨ call.disturbs p = false) :
    Stage k (Awaiting t₀ room n) (call.run s) := by
  cases call with
  | sendMessage q data => exact h.awaiting_sendMessage ht₀ hquiet
  | sendDebug q text =>
    have hspare : Stage k (Awaiting t₀ room n) s := by
      apply h.mono
      intro t _ hg
      split at hg
      · exact hg.mono
      · exact hg
    simp only [Call.run, Acceptor.sendDebug]
    split
    · exact hspare
    · rename_i htext
      split
      · exact hspare
      · rename_i port hport
        by_cases hq : q = p
        · have hdebugs : (Call.sendDebug q text).debugs p = true := by
            simp [Call.debugs, hq, htext]
          rw [if_pos hdebugs] at h
          apply h.sendWith (port_sendDebugPacket text)
          · exact fun _ _ ht => ht.sendDebugPacket text
          · exact fun _ t _ hg => hg.sendDebugPacket text
          · exact fun _ _ hg => hg.mono
        · apply hspare.sendWith (port_sendDebugPacket text)
          · exact fun _ _ ht => ht.sendDebugPacket text
          · intro hj t ht
            exact absurd rfl (hspare.unreached ht₀ hq hport hj t ht)
          · exact fun _ _ hg => hg
  | _ => exact h.set rfl

/-- The calls of a callback, one after the other. -/
theorem Stage.awaiting_calls {calls : List Call}
    (h : Stage k (Awaiting t₀ room (n + calls.countP (·.debugs p))) s) (ht₀ : t₀.port = some p)
    (hquiet : s.sessionEnded p = true ∨ ∀ call ∈ calls, call.disturbs p = false) :
    Stage k (Awaiting t₀ room n) (calls.foldl Call.run s) := by
  induction calls generalizing s with
  | nil => exact h
  | cons call calls ih =>
    rw [List.countP_cons, ← Nat.add_assoc] at h
    apply ih
    · exact h.awaiting_call ht₀ (hquiet.imp_right fun hq => hq call List.mem_cons_self)
    · rcases hquiet with hquiet | hquiet
      · exact Or.inl (sessionEnded_call call hquiet)
      · exact Or.inr fun call hcall => hquiet call (List.mem_cons_of_mem _ hcall)

/-- A session that has ended stays so through a callback. -/
theorem sessionEnded_calls {calls : List Call} (h : s.sessionEnded p = true) :
    (calls.foldl Call.run s).sessionEnded p = true := by
  induction calls generalizing s with
  | nil => exact h
  | cons call calls ih => exact ih (sessionEnded_call call h)

/-! ## Tcp_connection -/

section
variable {script : Script} {faults : Faults}

/-- What the connection keeps through everything but a login. -/
structure Settles (P : Prop → TcpConnection → Prop) : Prop extends Steadfast P where
  disconnect : ∀ logged t reason, P logged t → P logged (t.disconnect reason)

theorem settles_polite : Settles Polite where
  sendPacket _ _ packet h := h.sendPacket packet
  sendDebugPacket _ _ text h := h.sendDebugPacket text
  disconnect _ _ reason h := h.disconnect reason

theorem Stage.tcpDisconnect (h : Stage k P s) (hP : Settles P) (reason : DisconnectReason) :
    Stage k P (s.tcpDisconnect k reason) :=
  h.updateTcp (port_disconnect reason) fun _ _ hp => hP.disconnect _ _ reason hp

theorem Stage.acceptorCallback (h : Stage k P s) (hP : Steadfast P) (cb : AcceptorCallback) :
    Stage k P (s.acceptorCallback script k cb) := by
  unfold Acceptor.acceptorCallback
  split
  · exact h
  · exact h.notify hP _ _ _

theorem Stage.portCallback (h : Stage k P s) (hP : Steadfast P) (cb : PortCallback) :
    Stage k P (s.portCallback script k cb) := by
  unfold Acceptor.portCallback
  split
  · exact h
  · split
    · exact h.log (by simp)
    · exact h.notify hP _ _ _

theorem Stage.eitherCallback (h : Stage k P s) (hP : Steadfast P) (portCb : PortCallback)
    (acceptorCb : AcceptorCallback) :
    Stage k P (s.eitherCallback script k portCb acceptorCb) := by
  unfold Acceptor.eitherCallback
  split
  · exact h
  · split
    · exact h.portCallback hP _
    · exact h.acceptorCallback hP _

theorem Stage.handleTransportError (h : Stage k P s) (hP : Settles P) (ec : IoError)
    (operation : String) : Stage k P (s.handleTransportError script k ec operation) :=
  (h.eitherCallback hP.toSteadfast _ _).tcpDisconnect hP _

theorem Stage.handleProtocolViolation (h : Stage k P s) (hP : Settles P) (error : PacketError) :
    Stage k P (s.handleProtocolViolation script k error) := by
  have hlog : Stage k P (s.log (.violation k error)) := h.log (by simp)
  exact (hlog.eitherCallback hP.toSteadfast _ _).tcpDisconnect hP _

/-! ### Timers -/

theorem loginTimer_keeps : (loginTimerHandler script k).Keeps (Stage k Polite) where
  update f s h := by
    apply h.updateTcp
    · exact fun _ => rfl
    · exact fun _ _ ht => ht.update rfl rfl rfl rfl fun _ => rfl
  loginTimerError ec operation s h := h.handleTransportError settles_polite ec operation
  loginTimerExpired s h := h.tcpDisconnect settles_polite .loginTimeout

/-- Not before the answer to a login request. -/
abbrev Answered : Prop → TcpConnection → Prop :=
  fun logged t => t.Polite logged ∧ t.state.state ≠ .connected

theorem state_sendPacket (packet : WritePacket) (t : TcpConnection) :
    (t.sendPacket packet).2.state = t.state := by
  unfold TcpConnection.sendPacket
  split
  · rfl
  · dsimp only
    split <;> rfl

theorem state_sendDebugPacket (text : Bytes) (t : TcpConnection) :
    (t.sendDebugPacket text).2.state = t.state := by
  unfold TcpConnection.sendDebugPacket
  split <;> rfl

theorem settles_answered : Settles Answered where
  sendPacket _ t packet h := ⟨h.1.sendPacket packet, by rw [state_sendPacket]; exact h.2⟩
  sendDebugPacket _ t text h := ⟨h.1.sendDebugPacket text, by rw [state_sendDebugPacket]; exact h.2⟩
  disconnect _ t reason h := by
    refine ⟨h.1.disconnect reason, ?_⟩
    rcases t.disconnect_eq reason with ⟨heq, -⟩ | ⟨hs, -⟩
    · rw [heq]
      exact h.2
    · simp [hs]

theorem heartbeatTimer_keeps : (heartbeatTimerHandler script k).Keeps (Stage k Answered) where
  update f _ s h := by
    apply h.updateTcp
    · exact fun _ => rfl
    · intro logged t ht
      exact ⟨ht.1.update rfl rfl rfl rfl fun hs => absurd hs ht.2, ht.2⟩
  heartbeatTimerError ec operation s h := h.handleTransportError settles_answered ec operation
  heartbeatSendDue s h := by
    apply h.updateTcp
    · exact fun _ => rfl
    · exact fun _ _ ht => ⟨ht.1.asyncWrite (Or.inr ht.2), ht.2⟩
  heartbeatReceiveTimeout s h := h.tcpDisconnect settles_answered .heartbeatTimeout

/-! ### The answer to a login request -/

theorem Stage.awaiting_notify {handlerSet : Bool} {cb : Callback} {calls : List Call}
    (h : Stage k (Awaiting t₀ room (n + calls.countP (·.debugs p))) s) (ht₀ : t₀.port = some p)
    (hcalls : calls = if handlerSet then script cb else [])
    (hquiet : s.sessionEnded p = true ∨ ∀ call ∈ calls, call.disturbs p = false) :
    Stage k (Awaiting t₀ room n) (s.notify script handlerSet cb) := by
  have hlog : Stage k (Awaiting t₀ room (n + calls.countP (·.debugs p)))
      (s.log (.called handlerSet cb)) := h.log (by simp)
  unfold Acceptor.notify
  dsimp only
  split
  · rename_i hset
    rw [if_pos hset] at hcalls
    subst hcalls
    exact hlog.awaiting_calls ht₀ hquiet
  · rename_i hset
    rw [if_neg hset] at hcalls
    subst hcalls
    exact hlog

theorem sessionEnded_notify (script : Script) (handlerSet : Bool) (cb : Callback)
    (h : s.sessionEnded p = true) : (s.notify script handlerSet cb).sessionEnded p = true := by
  unfold Acceptor.notify
  dsimp only
  split
  · exact sessionEnded_calls (s := s.log (.called handlerSet cb)) h
  · exact h

/-- A callback of the port handler. -/
theorem Stage.awaiting_portCallback {cb : PortCallback} {calls : List Call}
    (h : Stage k (Awaiting t₀ room (n + calls.countP (·.debugs p))) s) (ht₀ : t₀.port = some p)
    (hcalls : calls = if t₀.handlerSet then script (.port p cb) else [])
    (hquiet : s.sessionEnded p = true ∨ ∀ call ∈ calls, call.disturbs p = false) :
    Stage k (Awaiting t₀ room n) (s.portCallback script k cb) := by
  unfold Acceptor.portCallback
  cases ht : s.tcp? k with
  | none =>
    apply h.mono
    intro t hsome
    rw [ht] at hsome
    cases hsome
  | some t =>
    have hg := h.here t ht
    dsimp only
    rw [hg.port, ht₀]
    dsimp only
    apply h.awaiting_notify ht₀ _ hquiet
    rw [hcalls, hg.handlers.1]

theorem sessionEnded_portCallback (script : Script) (k : Nat) (cb : PortCallback)
    (h : s.sessionEnded p = true) : (s.portCallback script k cb).sessionEnded p = true := by
  unfold Acceptor.portCallback
  split
  · exact h
  · split
    · exact h
    · exact sessionEnded_notify script _ _ h

/-- The heartbeat timer fails to start. -/
theorem Stage.awaiting_transportError {ec : IoError} {operation : String} {calls : List Call}
    (h : Stage k (Awaiting t₀ False n) s) (ht₀ : t₀.port = some p)
    (hcalls : calls = if t₀.handlerSet then script (.port p (.transportError ec operation))
      else if t₀.acceptorHandlerSet then script (.acceptor (.transportError ec operation)) else [])
    (hquiet : s.sessionEnded p = true ∨ ∀ call ∈ calls, call.disturbs p = false) :
    Stage k Answered (s.handleTransportError script k ec operation) := by
  have hroom (m : Nat) : Stage k (Awaiting t₀ False m) s :=
    h.mono fun _ _ hg => hg.without_room id
  have htold : Stage k (Awaiting t₀ False 0) (s.eitherCallback script k
      (.transportError ec operation) (.transportError ec operation)) := by
    unfold Acceptor.eitherCallback
    split
    · exact hroom 0
    · rename_i t ht
      have hg := h.here t ht
      by_cases hset : t.handlerSet = true
      · rw [if_pos hset]
        rw [← hg.handlers.1, if_pos hset] at hcalls
        apply (hroom _).awaiting_portCallback ht₀ _ hquiet
        rw [← hg.handlers.1, if_pos hset, hcalls]
      · rw [if_neg hset]
        rw [← hg.handlers.1, if_neg hset, ← hg.handlers.2] at hcalls
        simp only [Acceptor.acceptorCallback, ht]
        exact (hroom _).awaiting_notify ht₀ hcalls hquiet
  apply htold.updateTcp (port_disconnect _)
  intro logged t hg
  obtain ⟨hpolite, hs⟩ := hg.disconnect .transportError logged
  exact ⟨hpolite, by simp [hs]⟩

/-- A port has taken the connection. -/
structure Seated (t₀ t : TcpConnection) : Prop where
  same : t = t₀
  connected : t.state.state = .connected
  onlyDebug : t.OnlyDebug
  closing : t.socket.closing = false
  timer : t.heartbeatTimer.started = false

theorem loggedIn_accepted {k j : Nat} (hj : j ≠ k) (s : Acceptor) (response : LoginAcceptedPacket) :
    (s.log (.loginAccepted k response)).LoggedIn j ↔ s.LoggedIn j := by
  constructor
  · rintro ⟨other, hother⟩
    rw [Acceptor.log, List.mem_append, List.mem_singleton] at hother
    rcases hother with hother | hother
    · exact ⟨other, hother⟩
    · cases hother
      exact absurd rfl hj
  · rintro ⟨other, hother⟩
    exact ⟨other, List.mem_append_left _ hother⟩

theorem Stage.accepted {R : TcpConnection → Prop} (h : Stage k (fun _ => R) s)
    (hk : k < s.connections.length) (response : LoginAcceptedPacket) :
    Stage k (fun _ => R) (s.log (.loginAccepted k response)) := by
  constructor
  · constructor
    · exact h.linked.port
    · intro j hj
      by_cases hjk : j = k
      · rw [hjk]
        exact hk
      · exact h.linked.known j ((loggedIn_accepted hjk s response).mp hj)
  · exact h.here
  · intro j hj t ht
    rw [propext (loggedIn_accepted hj s response)]
    exact h.others j hj t ht

/-- The timer that is started after `login_success`. -/
theorem Stage.awaiting_start {calls : List Call}
    (h : Stage k (Awaiting t₀ (faults.heartbeat = none) 0) s) (ht₀ : t₀.port = some p)
    (hstarted : t₀.heartbeatTimer.started = false)
    (hcalls : calls = callsAtFault script faults p t₀)
    (hquiet : s.sessionEnded p = true ∨ ∀ call ∈ calls, call.disturbs p = false) :
    Stage k (Awaiting (t₀.updateHeartbeatTimer .setStarted) True 0)
        ((heartbeatTimerHandler script k).start faults.heartbeatTimer faults.heartbeatSchedule s) ∨
      Stage k Answered
        ((heartbeatTimerHandler script k).start faults.heartbeatTimer faults.heartbeatSchedule s)
      := by
  have hidle : ((heartbeatTimerHandler script k).timer s).started = false := by
    show ((Option.map TcpConnection.heartbeatTimer (s.tcp? k)).getD _).started = false
    cases ht : s.tcp? k with
    | none => rfl
    | some t => exact (h.here t ht).timer.trans hstarted
  have hset : Stage k (Awaiting (t₀.updateHeartbeatTimer .setStarted)
      (faults.heartbeat = none) 0)
      ((heartbeatTimerHandler script k).update HeartbeatTimer.setStarted s) := by
    apply h.updateTcp
    · exact fun _ => rfl
    · intro _ t hg
      exact { hg with timer := rfl }
  have hfault {ec : IoError} (hec : faults.heartbeat = some ec) : Stage k Answered
      (((heartbeatTimerHandler script k).update HeartbeatTimer.setStarted s).handleTransportError
        script k ec "timer expires_at") := by
    have hclosed := hset.mono (Q := Awaiting (t₀.updateHeartbeatTimer .setStarted) False 0)
      fun _ _ hg => { hg with space := fun hf => hf.elim }
    apply hclosed.awaiting_transportError ht₀ _ hquiet
    rw [hcalls, callsAtFault, hec]
    rfl
  unfold HeartbeatTimer.Handler.start
  rw [if_neg (by simp [hidle])]
  dsimp only
  cases hf : faults.heartbeatTimer with
  | some ec => exact Or.inr (hfault (by simp [Faults.heartbeat, hf]))
  | none =>
    cases hs : faults.heartbeatSchedule with
    | some ec => exact Or.inr (hfault (by simp [Faults.heartbeat, hf, hs]))
    | none =>
      left
      apply hset.updateTcp
      · exact fun _ => rfl
      · intro _ t hg
        exact { hg with space := fun _ => hg.space (by simp [Faults.heartbeat, hf, hs]) }

theorem Stage.acceptLogin {response : LoginAcceptedPacket} (h : Stage k (fun _ => Seated t₀) s)
    (ht : s.tcp? k = some t₀) (ht₀ : t₀.port = some p)
    (hfirst : responseFirst script faults k response s = true) :
    Stage k Polite (s.acceptLogin script faults k response) := by
  simp only [responseFirst, ht, ht₀, Bool.and_eq_true, Bool.or_eq_true, List.all_append,
    List.all_eq_true, Bool.not_eq_true', decide_eq_true_eq] at hfirst
  obtain ⟨hquiet, hspace⟩ := hfirst
  have hk : k < s.connections.length := by
    by_contra hk
    simp [tcp?, List.getElem?_eq_none (Nat.le_of_not_lt hk)] at ht
  have hlog := h.accepted hk response
  have hset : Stage k (Awaiting (t₀.setState .loggedIn) (faults.heartbeat = none)
      (0 + (callsAtLogin script response p t₀).countP (·.debugs p)))
      ((s.log (.loginAccepted k response)).updateTcp k (·.setState .loggedIn)) := by
    apply hlog.updateTcp
    · exact fun _ => rfl
    · rintro _ t ⟨rfl, hconnected, honly, hclosing, htimer⟩
      refine ⟨rfl, rfl, ⟨rfl, rfl⟩, rfl, honly, hclosing, ?_⟩
      intro hr
      rcases hspace with hspace | hspace
      · rw [hr] at hspace
        cases hspace
      · rw [Nat.zero_add]
        exact hspace
  have htold := hset.awaiting_portCallback ht₀ rfl
    (hquiet.imp_right (·.1))
  have hflagged : Stage k (Awaiting (t₀.setState .loggedIn) (faults.heartbeat = none) 0)
      ((((s.log (.loginAccepted k response)).updateTcp k (·.setState .loggedIn)).portCallback
        script k (.loginSuccess response)).updateTcp k (·.setHeartbeatTimerStopped false)) := by
    apply htold.updateTcp
    · exact fun _ => rfl
    · exact fun _ _ hg => { hg with }
  have hseated := (h.here t₀ ht).timer
  have hstarted := hflagged.awaiting_start ht₀ hseated rfl
    (hquiet.imp (fun hended => sessionEnded_portCallback script k _ hended)
      (·.2))
  rcases hstarted with hstarted | hstarted
  · apply hstarted.updateTcp
    · exact fun _ => rfl
    · intro logged t hg
      exact hg.respond (WritePacket.packetType_written _ _ _)
  · apply hstarted.updateTcp
    · exact fun _ => rfl
    · exact fun _ _ ha => ha.1.asyncWrite (Or.inr ha.2)

/-! ### Login requests -/

theorem isSome_updateTcp (s : Acceptor) (k j : Nat) (f : TcpConnection → TcpConnection) :
    ((s.updateTcp j f).tcp? k).isSome = (s.tcp? k).isSome := by
  rw [tcp?_updateTcp]
  split
  · rw [Option.isSome_map]
  · rfl

theorem isSome_sendWith (s : Acceptor) (k : Nat)
    (send : TcpConnection → WriteError × TcpConnection) (connection : Option Nat) :
    ((s.sendWith send connection).2.tcp? k).isSome = (s.tcp? k).isSome := by
  unfold Acceptor.sendWith
  split
  · rfl
  · split
    · rfl
    · exact isSome_updateTcp _ _ _ _

theorem isSome_call (s : Acceptor) (k : Nat) (call : Call) :
    ((call.run s).tcp? k).isSome = (s.tcp? k).isSome := by
  cases call with
  | setSession session =>
    simp only [Call.run, Acceptor.setSession]
    split <;> rfl
  | start =>
    simp only [Call.run, Acceptor.start]
    split <;> rfl
  | addPort username password handlerSet =>
    simp only [Call.run, Acceptor.addPort]
    split
    · rfl
    · split
      · rfl
      · split <;> rfl
  | sendMessage p data =>
    simp only [Call.run, Acceptor.sendMessage]
    split
    · rfl
    · cases data with
      | null size => rfl
      | bytes payload =>
        have hsent : ((s.sendPacket p (.ofData SequencedDataPacket.packetType payload)).2.tcp?
            k).isSome = (s.tcp? k).isSome := by
          unfold Acceptor.sendPacket
          split
          · rfl
          · split
            · rfl
            · exact isSome_sendWith _ _ _ _
        dsimp only
        split
        · exact hsent
        · exact hsent
  | sendDebug p text =>
    simp only [Call.run, Acceptor.sendDebug]
    split
    · rfl
    · split
      · rfl
      · exact isSome_sendWith _ _ _ _
  | _ => rfl

theorem isSome_notify (s : Acceptor) (k : Nat) (handlerSet : Bool) (cb : Callback) :
    ((s.notify script handlerSet cb).tcp? k).isSome = (s.tcp? k).isSome := by
  have hcalls (calls : List Call) (s : Acceptor) :
      ((calls.foldl Call.run s).tcp? k).isSome = (s.tcp? k).isSome := by
    induction calls generalizing s with
    | nil => rfl
    | cons call calls ih => exact (ih _).trans (isSome_call s k call)
  unfold Acceptor.notify
  dsimp only
  split
  · exact hcalls _ _
  · rfl

/-- Before the answer to a login request. -/
abbrev Asking : Prop → TcpConnection → Prop :=
  fun logged t => t.Polite logged ∧ t.state.state = .connected

theorem steadfast_asking : Steadfast Asking where
  sendPacket _ t packet h := ⟨h.1.sendPacket packet, by rw [state_sendPacket]; exact h.2⟩
  sendDebugPacket _ t text h := ⟨h.1.sendDebugPacket text, by rw [state_sendDebugPacket]; exact h.2⟩

/-- The port and the connection point to each other. -/
theorem Stage.seat {u : TcpConnection} (h : Stage k Asking s) (hu : s.tcp? k = some u) (p : Nat)
    {f : Port → Port} (hf : ∀ port, (f port).connection = some k) (handlerSet : Bool) :
    Stage k (fun _ => Seated (u.setPort p handlerSet))
      ((s.updatePort p f).updateTcp k (·.setPort p handlerSet)) := by
  obtain ⟨hpolite, hconnected⟩ := h.here u hu
  obtain ⟨-, honly, hnone, hclosing, hwatch⟩ := hpolite.connected hconnected
  have ht (j : Nat) : ((s.updatePort p f).updateTcp k (·.setPort p handlerSet)).tcp? j =
      if k = j then (s.tcp? j).map (·.setPort p handlerSet) else s.tcp? j :=
    tcp?_updateTcp _ _ _ _
  constructor
  · constructor
    · intro q j port hport hconn
      simp only [Acceptor.updateTcp, Acceptor.updateSlot, Acceptor.updatePort,
        List.getElem?_modify] at hport
      obtain ⟨old, hold, rfl⟩ := Option.map_eq_some_iff.mp hport
      by_cases hq : p = q
      · subst hq
        rw [if_pos rfl, hf] at hconn
        cases hconn
        rw [ht, if_pos rfl, hu]
        exact ⟨_, rfl, rfl⟩
      · rw [if_neg hq] at hconn
        obtain ⟨t, htj, hport⟩ := h.linked.port q j old hold hconn
        have hj : k ≠ j := by
          rintro rfl
          rw [hu] at htj
          cases htj
          rw [hnone] at hport
          cases hport
        rw [ht, if_neg hj]
        exact ⟨t, htj, hport⟩
    · intro j hj
      simp only [Acceptor.updateTcp, Acceptor.updateSlot, Acceptor.updatePort, List.length_modify]
      exact h.linked.known j hj
  · intro t htk
    rw [ht, if_pos rfl, hu] at htk
    cases htk
    exact ⟨rfl, hconnected, honly, hclosing, congrArg Watch.started hwatch⟩
  · intro j hj t htj
    rw [ht, if_neg (Ne.symm hj)] at htj
    exact h.others j hj t htj

/-- A port takes the connection, and gives up the one it had. -/
theorem Stage.onLoginRequestAt {request : LoginRequestPacket} {port : Port}
    {response : LoginAcceptedPacket} {s' : Acceptor} (h : Stage k Asking s)
    (hk : (s.tcp? k).isSome = true) (hport : s.ports[p]? = some port)
    (heq : s.onLoginRequestAt p k port request = (.ok response, s')) :
    ∃ t₀, s'.tcp? k = some t₀ ∧ t₀.port = some p ∧ Stage k (fun _ => Seated t₀) s' := by
  have hsuperseded : ∀ old, port.connection = some old →
      Stage k Asking (s.updateTcp old TcpConnection.supersede) := by
    intro old hold
    obtain ⟨t, ht, htp⟩ := h.linked.port p old port hport hold
    apply h.updateTcp_at old (port_disconnect _)
    · intro u hu hasking
      have hne : old ≠ k := by
        rintro rfl
        rw [hu] at ht
        cases ht
        rw [(hasking.1.connected hasking.2).2.2.1] at htp
        cases htp
      rw [if_neg hne]
      exact hasking
    · exact fun _ _ _ hpolite => hpolite.disconnect _
  have hconn : ((port.setConnection (some k)).rewind request.nextSequenceNumber).connection =
      some k := by
    unfold Port.rewind
    split <;> rfl
  have hseat {s₁ : Acceptor} (h₁ : Stage k Asking s₁) (hk₁ : (s₁.tcp? k).isSome = true)
      (handlerSet : Bool) : ∃ t₀, ((s₁.updatePort p fun _ =>
        (port.setConnection (some k)).rewind request.nextSequenceNumber).updateTcp k
          (·.setPort p handlerSet)).tcp? k = some t₀ ∧ t₀.port = some p ∧
        Stage k (fun _ => Seated t₀) ((s₁.updatePort p fun _ =>
          (port.setConnection (some k)).rewind request.nextSequenceNumber).updateTcp k
            (·.setPort p handlerSet)) := by
    obtain ⟨u, hu⟩ := Option.isSome_iff_exists.mp hk₁
    refine ⟨u.setPort p handlerSet, ?_, rfl, h₁.seat hu p (fun _ => hconn) handlerSet⟩
    rw [tcp?_updateTcp, if_pos rfl]
    exact congrArg (Option.map _) hu
  unfold Acceptor.onLoginRequestAt at heq
  split at heq
  · cases heq
  · split at heq
    · cases heq
    · dsimp only at heq
      split at heq
      · cases heq
        exact hseat h hk _
      · rename_i old hold
        cases heq
        exact hseat (hsuperseded old hold) (by rw [isSome_updateTcp]; exact hk) _

theorem Stage.onLoginRequest {request : LoginRequestPacket} {response : LoginAcceptedPacket}
    {s' : Acceptor} (h : Stage k Asking s) (hk : (s.tcp? k).isSome = true)
    (heq : s.onLoginRequest k request = (.ok response, s')) :
    ∃ t₀ p, s'.tcp? k = some t₀ ∧ t₀.port = some p ∧ Stage k (fun _ => Seated t₀) s' := by
  unfold Acceptor.onLoginRequest at heq
  split at heq
  · cases heq
  · rename_i p _
    split at heq
    · cases heq
    · rename_i port hport
      obtain ⟨t₀, ht, hp, hseated⟩ := h.onLoginRequestAt hk hport heq
      exact ⟨t₀, p, ht, hp, hseated⟩

theorem Stage.rejectLogin (h : Stage k Asking s) (reject : LoginReject) :
    Stage k Polite (s.rejectLogin script k reject) := by
  have htold : Stage k Asking (s.acceptorCallback script k (.loginFailure reject.reason)) :=
    h.acceptorCallback steadfast_asking _
  have hclosing : Stage k Answered ((s.acceptorCallback script k
      (.loginFailure reject.reason)).updateTcp k (·.prepareGracefulDisconnect .accessDenied)) := by
    apply htold.updateTcp
    · exact fun _ => rfl
    · rintro _ t ⟨hpolite, hconnected⟩
      refine ⟨hpolite.prepareGracefulDisconnect hconnected _, ?_⟩
      simp [TcpConnection.prepareGracefulDisconnect, ConnectionState.initiateDisconnect,
        ConnectionState.isClosing, hconnected]
  apply hclosing.updateTcp
  · exact fun _ => rfl
  · exact fun _ _ ha => ha.1.asyncWrite (Or.inr ha.2)

variable (script) in
theorem Stage.answerLogin (h : Stage k Polite s) (hs : (s.tcpState k).state = .connected)
    (data : Bytes) :
    match s.answerLogin script k data with
    | (.ok _, s') => ∃ t₀ p, s'.tcp? k = some t₀ ∧ t₀.port = some p ∧
        Stage k (fun _ => Seated t₀) s'
    | (.error _, s') => Stage k Asking s' := by
  have hk : (s.tcp? k).isSome = true := by
    by_contra hk
    rw [Bool.not_eq_true, Option.isSome_eq_false_iff, Option.isNone_iff_eq_none] at hk
    rw [tcpState, hk] at hs
    cases hs
  have hasking : Stage k Asking (s.updateTcp k (·.updateLoginTimer LoginTimer.stop)) := by
    have hconnected : Stage k Asking s := by
      apply h.mono
      intro t ht hpolite
      rw [tcpState, ht] at hs
      exact ⟨hpolite, hs⟩
    apply hconnected.updateTcp
    · exact fun _ => rfl
    · exact fun _ _ ha => ⟨ha.1.update rfl rfl rfl rfl fun _ => rfl, ha.2⟩
  have htold : Stage k Asking ((s.updateTcp k (·.updateLoginTimer LoginTimer.stop)).acceptorCallback
      script k (.loginRequest (LoginRequestPacket.read data))) :=
    hasking.acceptorCallback steadfast_asking _
  have hpresent : (((s.updateTcp k (·.updateLoginTimer LoginTimer.stop)).acceptorCallback
      script k (.loginRequest (LoginRequestPacket.read data))).tcp? k).isSome = true := by
    unfold Acceptor.acceptorCallback
    split
    · rw [isSome_updateTcp]
      exact hk
    · rw [isSome_notify, isSome_updateTcp]
      exact hk
  split
  · rename_i heq
    exact htold.onLoginRequest hpresent heq
  · rename_i heq
    rw [onLoginRequest_rejected heq]
    exact htold

theorem Stage.processLoginRequest (h : Stage k Polite s) {packet : ReadPacket}
    (htype : packet.packetType = LoginRequestPacket.packetType)
    (hfirst : s.answersFirst script faults k packet = true) :
    Stage k Polite (s.processLoginRequest script faults k packet.payload).2 := by
  unfold Acceptor.processLoginRequest
  split
  · exact h
  · rename_i hlength
    split
    · exact h
    · rename_i hs
      rw [not_not] at hlength hs
      have hanswer := h.answerLogin script hs packet.payload
      rw [answersFirst, accepting, if_pos ⟨htype, hlength, hs⟩] at hfirst
      split
      · rename_i response s' heq
        rw [heq] at hanswer hfirst
        obtain ⟨t₀, p, ht, hp, hseated⟩ := hanswer
        exact hseated.acceptLogin ht hp hfirst
      · rename_i reject s' heq
        rw [heq] at hanswer
        exact hanswer.rejectLogin reject

/-! ### Packets and completions -/

theorem Stage.countReceived (h : Stage k Polite s) : Stage k Polite (s.countReceived k) := by
  apply h.updateTcp
  · exact fun _ => rfl
  · exact fun _ _ ht => ht.count HeartbeatTimer.watch_incrementReceiveCount

theorem Stage.updateSocket (h : Stage k Polite s) {f : Socket → Socket}
    (ha : ∀ socket, (f socket).acceptedPackets = socket.acceptedPackets)
    (hc : ∀ socket, (f socket).closing = socket.closing) :
    Stage k Polite (s.updateTcp k (·.updateSocket f)) := by
  apply h.updateTcp
  · exact fun _ => rfl
  · exact fun _ t ht => ht.update rfl rfl (ha t.socket) (hc t.socket) fun _ => rfl

theorem Stage.processPacket (h : Stage k Polite s) {packet : ReadPacket}
    (hfirst : s.answersFirst script faults k packet = true) :
    Stage k Polite (s.processPacket script faults k packet).2 := by
  have hpolite := settles_polite.toSteadfast
  unfold Acceptor.processPacket
  dsimp only
  split
  · exact h.eitherCallback hpolite _ _
  · split
    · rename_i htype
      exact h.processLoginRequest htype hfirst
    · split
      · unfold Acceptor.processUnsequencedData
        split
        · exact h
        · dsimp only
          split
          · exact h.countReceived
          · exact h.countReceived.portCallback hpolite _
      · split
        · unfold Acceptor.processClientHeartbeat
          split
          · exact h
          · split
            · exact h
            · exact h.countReceived
        · split
          · unfold Acceptor.processLogoutRequest
            split
            · exact h
            · split
              · exact h
              · exact (h.portCallback hpolite _).tcpDisconnect settles_polite _
          · exact h

theorem Stage.readSuccess (h : Stage k Polite s) {packet : ReadPacket}
    (hfirst : s.answersFirst script faults k packet = true) :
    Stage k Polite (s.readSuccess script faults k packet) := by
  unfold Acceptor.readSuccess
  split
  · exact h
  · have hprocessed := h.processPacket hfirst
    have goOn {s' : Acceptor} (h' : Stage k Polite s') : Stage k Polite
        (if (s'.tcpState k).isClosing then s'
          else s'.updateTcp k (·.updateSocket Socket.asyncRead)) := by
      split
      · exact h'
      · exact h'.updateSocket Socket.asyncRead_accepted Socket.asyncRead_closing
    dsimp only
    split
    · exact goOn (hprocessed.handleProtocolViolation settles_polite _)
    · exact goOn hprocessed

theorem answersFirst_of_length {packet : ReadPacket}
    (hlength : packet.payload.length ≠ LoginRequestPacket.payloadSize) :
    s.answersFirst script faults k packet = true := by
  rw [answersFirst, accepting, if_neg fun h => hlength h.2.1]
  rfl

theorem socket_keeps : (socketHandler script faults k).KeepsUnread (Stage k Polite) where
  update f hf s h := h.updateSocket hf.accepted hf.closing
  connectFailure _ s h := h.log (by simp)
  readFailure ec s h := h.handleTransportError settles_polite ec _
  readPacketFailure error s h := h.handleProtocolViolation settles_polite error
  readEndOfFile s h := h.tcpDisconnect settles_polite _
  writeFailure ec s h := h.handleTransportError settles_polite ec _
  writeSuccess packet s h := by
    show Stage k Polite (s.writeSuccess k)
    unfold Acceptor.writeSuccess
    split
    · exact h.tcpDisconnect settles_polite _
    · exact h
  writeBufferEmpty s h := by
    show Stage k Polite (s.writeBufferEmpty script k)
    unfold Acceptor.writeBufferEmpty
    split
    · exact h
    · split
      · exact h.portCallback settles_polite.toSteadfast _
      · exact h

theorem Stage.headerCompleted (h : Stage k Polite s) (result : Except IoError Bytes) :
    Stage k Polite ((socketHandler script faults k).headerCompleted result s) := by
  apply socket_keeps.headerCompleted result _ (fun _ h => h.tcpDisconnect settles_polite _) h
  intro bytes packet _ hempty hw
  apply hw.readSuccess
  apply answersFirst_of_length
  have hpayload : packet.payload = [] := by
    have hresized := ReadPacket.payload_of_emptyPayload (congrArg Prod.fst hempty)
    exact (congrArg (fun read => read.2.payload) hempty).symm.trans hresized
  rw [hpayload]
  decide

theorem Stage.payloadCompleted (h : Stage k Polite s) (result : Except IoError Bytes)
    (hfirst : ∀ bytes, result = .ok bytes →
      (s.payloadRead k bytes).2.answersFirst script faults k (s.payloadRead k bytes).1 = true) :
    Stage k Polite ((socketHandler script faults k).payloadCompleted result s) := by
  apply socket_keeps.payloadCompleted result _ (fun _ h => h.tcpDisconnect settles_polite _) h
  intro bytes hresult _ hw
  exact hw.readSuccess (hfirst bytes hresult)

end

/-! ## The acceptor -/

section
variable {script : Script} {faults : Faults}

theorem Courteous.call (h : s.Courteous) (call : Call) : (call.run s).Courteous :=
  ((h.stage 0).call settles_polite.toSteadfast call).courteous

theorem Courteous.notify (h : s.Courteous) (handlerSet : Bool) (cb : Callback) :
    (s.notify script handlerSet cb).Courteous :=
  ((h.stage 0).notify settles_polite.toSteadfast script handlerSet cb).courteous

theorem Courteous.aside {s' : Acceptor} (h : s.Courteous) (hc : s'.connections = s.connections)
    (hp : s'.ports = s.ports) (ht : s'.trace = s.trace) : s'.Courteous :=
  ((h.stage 0).aside hc hp ht).courteous

/-- A connection is destroyed; its port no longer points to it. -/
theorem Courteous.destroy (h : s.Courteous)
    (hports : ∀ (p : Nat) (port : Port), s.ports[p]? = some port → port.connection ≠ some k) :
    (s.updateSlot k fun _ => none).Courteous := by
  have ht (j : Nat) : (s.updateSlot k fun _ => none).tcp? j =
      if k = j then none else s.tcp? j := by
    rw [tcp?, updateSlot, List.getElem?_modify]
    split
    · cases s.connections[j]? <;> rfl
    · simp [tcp?]
  constructor
  · constructor
    · intro p j port hport hconn
      have hj : k ≠ j := by
        rintro rfl
        exact hports p port hport hconn
      rw [ht, if_neg hj]
      exact h.linked.port p j port hport hconn
    · intro j hj
      simp only [updateSlot, List.length_modify]
      exact h.linked.known j hj
  · intro j t htj
    rw [ht] at htj
    split at htj
    · cases htj
    · exact h.polite j t htj

theorem Courteous.onClosed (h : s.Courteous) (t : TcpConnection)
    (hports : ∀ (p : Nat) (port : Port), s.ports[p]? = some port → port.connection ≠ some k) :
    (s.onClosed script k t).Courteous := by
  have hlogged : ((s.updateSlot k fun _ => none).log (.onClosed k)).Courteous :=
    (((h.destroy hports).stage 0).log (by simp)).courteous
  unfold Acceptor.onClosed
  dsimp only
  split
  · exact hlogged.notify _ _
  · exact hlogged.notify _ _

theorem Courteous.maybeSignalClosed (h : s.Courteous) : (s.maybeSignalClosed script k).Courteous := by
  unfold Acceptor.maybeSignalClosed
  cases ht : s.tcp? k with
  | none => exact h
  | some t =>
    have hpoints : ∀ (p : Nat) (port : Port), s.ports[p]? = some port →
        port.connection = some k → t.port = some p := by
      intro p port hport hconn
      obtain ⟨u, hu, hup⟩ := h.linked.port p k port hport hconn
      rw [ht] at hu
      cases hu
      exact hup
    dsimp only
    split
    · cases htp : t.port with
      | none =>
        apply h.onClosed
        intro p port hport hconn
        have hp := hpoints p port hport hconn
        rw [htp] at hp
        cases hp
      | some p =>
        have hcleared : (s.portOnClosed p k).Courteous := by
          apply Stage.courteous (k := 0)
          apply (h.stage 0).updatePort p
          intro port j hconn
          split at hconn
          · cases hconn
          · exact hconn
        apply hcleared.onClosed
        intro q port hport hconn
        simp only [portOnClosed, Acceptor.updatePort, List.getElem?_modify] at hport
        obtain ⟨old, hold, rfl⟩ := Option.map_eq_some_iff.mp hport
        split at hconn
        · split at hconn
          · cases hconn
          · rename_i hne
            exact hne hconn
        · rename_i hpq
          have hq := hpoints q old hold hconn
          rw [htp] at hq
          cases hq
          exact hpq rfl
    · exact h

/-! ### Posted notifications -/

theorem Courteous.closed (h : s.Courteous) : (s.closed script k).Courteous := by
  have hnoted : Stage k Polite (s.updateTcp k TcpConnection.noteClosed) :=
    (h.stage k).updateTcp (fun _ => rfl) fun _ _ ht => ht.update rfl rfl rfl rfl fun _ => rfl
  exact hnoted.courteous.maybeSignalClosed

theorem Courteous.loginTimerStopped (h : s.Courteous) : (s.loginTimerStopped script k).Courteous := by
  have hnoted : Stage k Polite (s.updateTcp k TcpConnection.noteLoginTimerStopped) :=
    (h.stage k).updateTcp (fun _ => rfl) fun _ _ ht => ht.update rfl rfl rfl rfl fun _ => rfl
  exact hnoted.courteous.maybeSignalClosed

theorem Courteous.heartbeatTimerStopped (h : s.Courteous) :
    (s.heartbeatTimerStopped script k).Courteous := by
  have hnoted : Stage k Polite (s.updateTcp k TcpConnection.noteHeartbeatTimerStopped) := by
    apply (h.stage k).updateTcp
    · exact fun _ => rfl
    · intro logged t ht
      refine ht.update (u := t.noteHeartbeatTimerStopped) rfl rfl rfl rfl ?_
      intro hs
      obtain ⟨-, -, -, -, hwatch⟩ := ht.connected hs
      show t.heartbeatTimer.notified.watch = t.heartbeatTimer.watch
      rw [HeartbeatTimer.watch_notified, hwatch]
      rfl
  exact hnoted.courteous.maybeSignalClosed

/-! ### Accepting -/

theorem TcpConnection.Polite.fresh (acceptorHandlerSet : Bool) {socket : Socket}
    (he : socket.acceptedPackets = []) (hc : socket.closing = false) {logged : Prop}
    (hl : ¬logged) :
    Polite logged { acceptorHandlerSet := acceptorHandlerSet, socket := socket } := by
  constructor
  · simp
  · intro _
    refine ⟨hl, ?_, rfl, hc, rfl⟩
    intro packet hp
    rw [enqueued, he] at hp
    cases hp
  · simp
  · simp
  · simp
  · exact fun h => absurd h hl

theorem Courteous.emplace (h : s.Courteous) {socket : Socket}
    (he : socket.acceptedPackets = []) (hc : socket.closing = false) :
    Stage s.connections.length Polite (s.emplace script faults socket) := by
  have htcp (t : TcpConnection) (j : Nat) :
      ({ s with connections := s.connections ++ [some t] } : Acceptor).tcp? j =
        if j = s.connections.length then some t else s.tcp? j := by
    rw [tcp?, tcp?]
    split
    · rename_i hj
      simp [hj]
    · rename_i hj
      rcases Nat.lt_or_gt_of_ne hj with hj | hj
      · rw [List.getElem?_append_left hj]
      · rw [List.getElem?_eq_none (by simp; omega), List.getElem?_eq_none (by omega)]
  have hnew : ({ s with connections := s.connections ++ [some
      { acceptorHandlerSet := s.handlerSet, socket := socket }] } : Acceptor).Courteous := by
    constructor
    · constructor
      · intro p j port hport hconn
        obtain ⟨t, ht, hp⟩ := h.linked.port p j port hport hconn
        rw [htcp, if_neg]
        · exact ⟨t, ht, hp⟩
        · rintro rfl
          simp [tcp?] at ht
      · intro j hj
        have hlt := h.linked.known j hj
        simp only [List.length_append, List.length_singleton]
        omega
    · intro j t ht
      rw [htcp] at ht
      split at ht
      · rename_i hj
        cases ht
        apply TcpConnection.Polite.fresh _ he hc
        intro hlogged
        have hlt := h.linked.known j hlogged
        omega
      · exact h.polite j t ht
  have hlog := (hnew.stage s.connections.length).log
    (show ∀ j response, Entry.constructed s.connections.length ≠ .loginAccepted j response by simp)
  have hflag := hlog.updateTcp (f := (·.setLoginTimerStopped false)) (Q := Polite) (fun _ => rfl)
    fun _ _ ht => ht.update rfl rfl rfl rfl fun _ => rfl
  exact (loginTimer_keeps.start faults.loginTimer hflag).updateSocket Socket.asyncRead_accepted
    Socket.asyncRead_closing

theorem Courteous.acceptSuccess (h : s.Courteous) : (s.acceptSuccess script faults).Courteous := by
  have htold : (s.notify script s.handlerSet (.acceptor .acceptSuccess)).Courteous :=
    h.notify _ _
  have hmade : Stage _ Polite ((s.notify script s.handlerSet (.acceptor .acceptSuccess)).emplace
      script faults { isOpen := true, writePacketsLimit := s.writePacketsLimit }) :=
    htold.emplace rfl rfl
  have hgreeted (text : Bytes) := hmade.updateTcp (Q := Polite) (port_sendDebugPacket text)
    fun _ _ ht => ht.sendDebugPacket text
  unfold Acceptor.acceptSuccess
  dsimp only
  split
  · exact (hgreeted _).courteous.aside rfl rfl rfl
  · exact hmade.courteous.aside rfl rfl rfl

theorem Courteous.acceptCompleted (h : s.Courteous) (ec : Option IoError) :
    (s.acceptCompleted script faults ec).Courteous := by
  have hdone : (s.updateSocketAcceptor SocketAcceptor.acceptDone).Courteous :=
    h.aside rfl rfl rfl
  unfold Acceptor.acceptCompleted
  dsimp only
  split
  · exact hdone.acceptSuccess
  · exact hdone
  · exact (hdone.notify _ _).aside rfl rfl rfl

theorem Courteous.startAccepting (h : s.Courteous) : (s.startAccepting script faults).Courteous := by
  have hopen : (if faults.openAcceptor = none then
      s.updateSocketAcceptor SocketAcceptor.openAcceptor else s).Courteous := by
    split
    · exact h.aside rfl rfl rfl
    · exact h
  unfold Acceptor.startAccepting
  dsimp only
  split
  · exact hopen.notify _ _
  · exact (hopen.notify _ _).aside rfl rfl rfl

theorem Courteous.endSessions (h : s.Courteous) : s.endSessions.Courteous := by
  unfold Acceptor.endSessions
  induction List.range s.ports.length generalizing s with
  | nil => exact h
  | cons p ports ih =>
    exact ih ((h.stage 0).endSessionOf settles_polite.toSteadfast p).courteous

theorem Courteous.stopAccepting (h : s.Courteous) : s.stopAccepting.Courteous := by
  have ht (j : Nat) : s.stopAccepting.tcp? j = (s.tcp? j).map TcpConnection.close := by
    simp only [Acceptor.stopAccepting, updateSocketAcceptor, tcp?, List.getElem?_map]
    cases s.connections[j]? <;> rfl
  constructor
  · constructor
    · intro p j port hport hconn
      obtain ⟨t, htj, hp⟩ := h.linked.port p j port hport hconn
      rw [ht, htj]
      exact ⟨_, rfl, (port_disconnect _ t).trans hp⟩
    · intro j hj
      simp only [Acceptor.stopAccepting, List.length_map]
      exact h.linked.known j hj
  · intro j t htj
    rw [ht] at htj
    obtain ⟨u, hu, rfl⟩ := Option.map_eq_some_iff.mp htj
    exact (h.polite j u hu).disconnect _

theorem Courteous.runPosted (h : s.Courteous) (posted : Posted) :
    (s.runPosted script faults posted).Courteous := by
  unfold Acceptor.runPosted
  cases posted with
  | start =>
    dsimp only
    split
    · exact h
    · have hstarted : ({ s with started := true } : Acceptor).Courteous := h.aside rfl rfl rfl
      exact hstarted.startAccepting
  | endSession =>
    dsimp only
    split
    · exact h.endSessions
    · exact h
  | stop =>
    dsimp only
    split
    · have hstopped : ({ s with started := false } : Acceptor).Courteous := h.aside rfl rfl rfl
      exact hstopped.stopAccepting
    · exact h

end

/-! ## Runs -/

theorem Idle.courteous (h : s.Idle) : s.Courteous := by
  have ht (j : Nat) : s.tcp? j = none := by simp [tcp?, h.connections]
  constructor
  · constructor
    · intro p j port hport hconn
      rw [h.ports port (List.mem_of_getElem? hport)] at hconn
      cases hconn
    · rintro j ⟨response, hr⟩
      rw [h.trace] at hr
      cases hr
  · intro j t htj
    rw [ht] at htj
    cases htj

theorem Courteous.handle (h : s.Courteous) {event : Event} {env : Env}
    (hready : s.ready event = true) (hfirst : AnswersFirst (event, env) s) :
    (s.handle env event).Courteous := by
  cases event with
  | call call => exact h.call call
  | posted n =>
    simp only [Acceptor.handle]
    split
    · exact h
    · apply Courteous.runPosted
      exact h.aside rfl rfl rfl
  | acceptCompleted ec => exact h.acceptCompleted ec
  | headerCompleted k result => exact ((h.stage k).headerCompleted result).courteous
  | payloadCompleted k result =>
    apply Stage.courteous
    apply (h.stage k).payloadCompleted result
    rintro bytes rfl
    exact hfirst
  | writeCompleted k result => exact (socket_keeps.writeCompleted result (h.stage k)).courteous
  | socketClosed k => exact h.closed
  | loginTimerWait k ec => exact (loginTimer_keeps.waitCompleted ec (h.stage k)).courteous
  | loginTimerStopped k => exact h.loginTimerStopped
  | heartbeatTimerWait k ec =>
    have hanswered : Stage k Answered s := by
      apply (h.stage k).mono
      intro t ht hpolite
      refine ⟨hpolite, ?_⟩
      intro hs
      -- before the answer the heartbeat timer has never been started
      obtain ⟨-, -, -, -, hwatch⟩ := hpolite.connected hs
      have hwaits : t.heartbeatTimer.waits = 0 := congrArg Watch.waits hwatch
      simp [ready, ht, hwaits] at hready
    have hwaited : Stage k Answered (s.handle env (.heartbeatTimerWait k ec)) :=
      heartbeatTimer_keeps.waitCompleted ec env.faults.heartbeatSchedule hanswered
    exact (hwaited.mono fun _ _ ha => ha.1).courteous
  | heartbeatTimerStopped k => exact h.heartbeatTimerStopped

/-- In every run in which each login request that is accepted is answered before
anything else is queued, the first packet of every connection whose login was
accepted is the Login Accepted packet, debug packets apart. -/
theorem greets_first_when_answered {s₀ : Acceptor} {inputs : List (Event × Env)}
    (h₀ : s₀.Idle) (h : (system.restrict AnswersFirst).Run s₀ inputs s) {t : TcpConnection}
    (ht : s.tcp? k = some t) (hlogged : s.LoggedIn k) : t.GreetsFirst := by
  have hcourteous : s.Courteous := by
    apply System.Run.keeps _ h h₀.courteous
    intro input s hi hs
    exact hs.handle hi.1 hi.2
  rcases (hcourteous.polite k t ht).first hlogged with honly | hgreeted
  · exact honly.greetsFirst
  · exact hgreeted.greetsFirst

/-- One port, and a text that greets every connection. -/
def bannered : Acceptor :=
  { session := [115], ports := [{ username := [117], password := [112] }], debugBanner := [98] }

/-- A client connects, and logs in. -/
def logsIn : List Event :=
  [.call .start, .posted 0, .acceptCompleted none,
    .headerCompleted 0 (.ok [0, 47, LoginRequestPacket.packetType]),
    .payloadCompleted 0 (.ok (LoginRequestPacket.write ⟨[117], [112], [], 0⟩))]

theorem greets_first_when_answered_banner :
    let inputs := logsIn.map fun event => (event, Env.plain)
    let s := system.final bannered inputs
    (s.tcp? 0).any (fun t => t.enqueued.map (·.packetType) =
        [DebugPacket.packetType, LoginAcceptedPacket.packetType]) = true ∧
      ∀ t, s.tcp? 0 = some t → t.GreetsFirst := by
  intro inputs s
  have hrun : (system.restrict AnswersFirst).Run bannered inputs s :=
    System.run_of_admits (S := system.restrict AnswersFirst) (by decide +kernel)
  have hidle : bannered.Idle := ⟨rfl, rfl, by simp [bannered]⟩
  have hlogged : s.LoggedIn 0 := by
    refine ⟨⟨[115], 1⟩, ?_⟩
    decide +kernel
  exact ⟨by decide +kernel, fun t ht => greets_first_when_answered hidle hrun ht hlogged⟩

/-- The user sends a message from inside `login_success`. -/
def sendsAtLogin : Env where
  calls
    | .port 0 (.loginSuccess _) => [.sendMessage 0 (.bytes [104, 105])]
    | _ => []

/-- The message is queued before the Login Accepted packet. -/
theorem message_before_login_accepted :
    let inputs := logsIn.map fun event => (event, sendsAtLogin)
    let s := system.final bannered inputs
    bannered.Idle ∧ 1 ≤ bannered.writePacketsLimit ∧ system.Run bannered inputs s ∧
      s.LoggedIn 0 ∧
      (s.tcp? 0).any (fun t => t.enqueued.map (·.packetType) = [DebugPacket.packetType,
        SequencedDataPacket.packetType, LoginAcceptedPacket.packetType]) = true ∧
      ∃ t, s.tcp? 0 = some t ∧ ¬t.GreetsFirst := by
  intro inputs s
  have hrun : system.Run bannered inputs s := System.run_of_admits (by decide +kernel)
  have hlogged : s.LoggedIn 0 := by
    refine ⟨⟨[115], 1⟩, ?_⟩
    decide +kernel
  have hpackets : (s.tcp? 0).any (fun t => t.enqueued.map (·.packetType) =
      [DebugPacket.packetType, SequencedDataPacket.packetType,
        LoginAcceptedPacket.packetType]) = true := by
    decide +kernel
  refine ⟨⟨rfl, rfl, by simp [bannered]⟩, by decide, hrun, hlogged, hpackets, ?_⟩
  cases ht : s.tcp? 0 with
  | none => simp [ht] at hpackets
  | some t =>
    refine ⟨t, rfl, ?_⟩
    intro hgreets
    rw [ht] at hpackets
    have hmap : t.enqueued.map (·.packetType) = [DebugPacket.packetType,
        SequencedDataPacket.packetType, LoginAcceptedPacket.packetType] :=
      of_decide_eq_true hpackets
    obtain ⟨debug, rest, heq, hdebug, hrest⟩ := List.map_eq_cons_iff.mp hmap
    obtain ⟨data, rest, rfl, hdata, -⟩ := List.map_eq_cons_iff.mp hrest
    have hfirst := hgreets data (by
      rw [heq, List.find?_cons_of_neg (by simp [hdebug]),
        List.find?_cons_of_pos (by rw [hdata]; decide)])
    rw [hdata] at hfirst
    revert hfirst
    decide

end SoupBin.ServerSide.Acceptor
