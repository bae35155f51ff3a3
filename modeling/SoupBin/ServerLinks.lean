import SoupBin.ServerConduct

/-!
# Ports and their connections

A port and the connection that is logged in through it point to each other, and
the login request named the port. Two connections are never logged in through
one port.
-/

namespace SoupBin.ServerSide

/-! ## Tcp_connection -/

namespace TcpConnection

/-- What a step may do to the state: it stays, it is rejected, or it ends. -/
theorem Act.state {allowed : Allowed} {t u : TcpConnection} (ha : Act allowed t u) :
    u.state.state = t.state.state ∨ u.state.state = .disconnected ∨
      t.state.state = .connected ∧ u.state.state = .disconnecting := by
  induction ha with
  | trans _ _ ih₁ ih₂ => grind
  | debug text t => exact Or.inl (congrArg _ (t.bearing_sendDebugPacket text).1)
  | disconnect reason t =>
    rcases t.disconnect_eq reason with ⟨heq, -⟩ | ⟨hs, -, -⟩
    · exact Or.inl (by rw [heq])
    · exact Or.inr (Or.inl hs)
  | reject reason hs =>
    refine Or.inr (Or.inr ⟨hs, ?_⟩)
    simp [prepareGracefulDisconnect, ConnectionState.initiateDisconnect,
      ConnectionState.isClosing, hs]
  | _ => exact Or.inl rfl

theorem Act.port {allowed : Allowed} {t u : TcpConnection} (ha : Act allowed t u) :
    u.port = t.port := by
  induction ha with
  | trans _ _ ih₁ ih₂ => exact ih₂.trans ih₁
  | debug text t => exact (t.bearing_sendDebugPacket text).2
  | disconnect reason t => exact port_disconnect reason t
  | _ => rfl

theorem Act.precedes {allowed : Allowed} {t u : TcpConnection} (ha : Act allowed t u) :
    t.state.state.Precedes u.state.state := by
  rcases ha.state with hs | hs | ⟨ht, hu⟩
  · rw [hs]
    exact .refl _
  · rw [hs]
    exact State.precedes_disconnected _
  · rw [ht, hu]
    decide

end TcpConnection

namespace Acceptor

/-! ## The invariant -/

/-- `asked` says which login requests a connection has made. -/
structure Joined (asked : Nat → LoginRequestPacket → Prop) (s : Acceptor) : Prop where
  port : ∀ (p k : Nat) (port : Port), s.ports[p]? = some port → port.connection = some k →
    ∃ t, s.tcp? k = some t ∧ t.port = some p
  loggedIn : ∀ (k : Nat) (t : TcpConnection), s.tcp? k = some t → t.state.state = .loggedIn →
    ∃ (p : Nat) (port : Port) (request : LoginRequestPacket), t.port = some p ∧
      s.ports[p]? = some port ∧ port.connection = some k ∧ asked k request ∧
        request.username = port.username ∧ request.password = port.password
  connected : ∀ (k : Nat) (t : TcpConnection), s.tcp? k = some t → t.state.state = .connected →
    t.port = none

variable {R : Rules} {asked : Nat → LoginRequestPacket → Prop} {s s' : Acceptor} {k : Nat}

theorem Joined.mono (h : s.Joined asked) {asked' : Nat → LoginRequestPacket → Prop}
    (hmono : ∀ k request, asked k request → asked' k request) : s.Joined asked' := by
  refine ⟨h.port, ?_, h.connected⟩
  intro k t ht hs
  obtain ⟨p, port, request, htp, hp, hk, hasked, hrequest⟩ := h.loggedIn k t ht hs
  exact ⟨p, port, request, htp, hp, hk, hmono k request hasked, hrequest⟩

theorem Joined.unpointed (h : s.Joined asked) (hs : (s.tcpState k).state = .connected) :
    s.Unpointed k := by
  intro p port hport hk
  obtain ⟨t, ht, hp⟩ := h.port p k port hport hk
  have hnone := h.connected k t ht (by simpa [tcpState, ht] using hs)
  rw [hnone] at hp
  cases hp

/-- The connections keep their ports; of the states those that end a login change. -/
theorem Joined.update (h : s.Joined asked) (j : Nat) {f : TcpConnection → TcpConnection}
    (hport : ∀ t, s.tcp? j = some t → (f t).port = t.port)
    (hstate : ∀ t, s.tcp? j = some t → (f t).state.state = t.state.state ∨
      (f t).state.state ≠ .connected ∧ (f t).state.state ≠ .loggedIn) :
    (s.updateTcp j f).Joined asked := by
  constructor
  · intro p k port hp hk
    obtain ⟨t, ht, htp⟩ := h.port p k port hp hk
    rw [tcp?_updateTcp, ht]
    split
    · rename_i hj
      exact ⟨f t, rfl, (hport t (hj ▸ ht)).trans htp⟩
    · exact ⟨t, rfl, htp⟩
  · intro k u hu hs
    rw [tcp?_updateTcp] at hu
    split at hu
    · rename_i hj
      subst hj
      obtain ⟨t, ht, rfl⟩ := Option.map_eq_some_iff.mp hu
      have hs' : t.state.state = .loggedIn := by
        rcases hstate t ht with heq | hne
        · rw [← heq, hs]
        · exact absurd hs hne.2
      rw [hport t ht]
      exact h.loggedIn _ t ht hs'
    · exact h.loggedIn k u hu hs
  · intro k u hu hs
    rw [tcp?_updateTcp] at hu
    split at hu
    · rename_i hj
      subst hj
      obtain ⟨t, ht, rfl⟩ := Option.map_eq_some_iff.mp hu
      have hs' : t.state.state = .connected := by
        rcases hstate t ht with heq | hne
        · rw [← heq, hs]
        · exact absurd hs hne.1
      rw [hport t ht]
      exact h.connected _ t ht hs'
    · exact h.connected k u hu hs

/-- The ports keep their connections, and new ones have none. -/
theorem Joined.ports (h : s.Joined asked) (hc : s'.connections = s.connections)
    (hkept : ∀ (p : Nat) (port : Port), s.ports[p]? = some port →
      ∃ port', s'.ports[p]? = some port' ∧ port'.connection = port.connection ∧
        port'.username = port.username ∧ port'.password = port.password)
    (hnew : ∀ (p : Nat) (port' : Port), s'.ports[p]? = some port' → s.ports[p]? = none →
      port'.connection = none) : s'.Joined asked := by
  have htcp (k : Nat) : s'.tcp? k = s.tcp? k := by rw [tcp?, tcp?, hc]
  constructor
  · intro p k port' hp' hk
    rw [htcp]
    cases hp : s.ports[p]? with
    | none =>
      rw [hnew p port' hp' hp] at hk
      cases hk
    | some port =>
      obtain ⟨port'', hp'', heq, -⟩ := hkept p port hp
      cases hp'.symm.trans hp''
      exact h.port p k port hp (heq ▸ hk)
  · intro k t ht hs
    rw [htcp] at ht
    obtain ⟨p, port, request, htp, hp, hk, hasked, husername, hpassword⟩ := h.loggedIn k t ht hs
    obtain ⟨port', hp', heq, husername', hpassword'⟩ := hkept p port hp
    exact ⟨p, port', request, htp, hp', heq.trans hk, hasked, husername.trans husername'.symm,
      hpassword.trans hpassword'.symm⟩
  · intro k t ht hs
    rw [htcp] at ht
    exact h.connected k t ht hs

theorem Joined.seat (h : s.Joined asked) {p : Nat} {port port' : Port} {t : TcpConnection}
    {request : LoginRequestPacket} (response : LoginAcceptedPacket) (hasked : asked k request)
    (hport : s.ports[p]? = some port)
    (hrequest : request.username = port.username ∧ request.password = port.password)
    (hport' : port'.connection = some k ∧ port'.username = port.username ∧
      port'.password = port.password) (ht : s.tcp? k = some t)
    (hs : t.state.state = .connected)
    (hold : ∀ old u, port.connection = some old → s.tcp? old = some u →
      u.state.state = .disconnected) : (s.seat p k port' response).Joined asked := by
  have hports (q : Nat) : (s.seat p k port' response).ports[q]? =
      if p = q then some port' else s.ports[q]? := by
    show (s.ports.modify p fun _ => port')[q]? = _
    rw [List.getElem?_modify]
    split
    · rename_i hq
      rw [← hq, hport]
      rfl
    · simp
  have htcp (j : Nat) : (s.seat p k port' response).tcp? j =
      if k = j then some ((t.setPort p port'.handlerSet).setState .loggedIn) else s.tcp? j := by
    rw [Acceptor.seat, tcp?_updateTcp]
    have hset : (((s.updatePort p fun _ => port').updateTcp k
        (·.setPort p port'.handlerSet)).log (.loginAccepted k response)).tcp? j =
          if k = j then (s.tcp? j).map (·.setPort p port'.handlerSet) else s.tcp? j :=
      tcp?_updateTcp _ _ _ _
    rw [hset]
    split
    · rename_i hj
      subst hj
      rw [ht]
      rfl
    · rfl
  constructor
  · intro q j other hq hj
    rw [hports] at hq
    rw [htcp]
    by_cases hpq : p = q
    · rw [if_pos hpq] at hq
      cases hq
      rw [hport'.1] at hj
      cases hj
      rw [if_pos rfl]
      exact ⟨_, rfl, by rw [← hpq]; rfl⟩
    · rw [if_neg hpq] at hq
      obtain ⟨u, hu, hup⟩ := h.port q j other hq hj
      have hne : k ≠ j := by
        rintro rfl
        cases ht.symm.trans hu
        rw [h.connected k t ht hs] at hup
        cases hup
      rw [if_neg hne]
      exact ⟨u, hu, hup⟩
  · intro j u hu hloggedIn
    rw [htcp] at hu
    by_cases hj : k = j
    · rw [if_pos hj] at hu
      cases hu
      refine ⟨p, port', request, rfl, ?_, by rw [hport'.1, hj], hj ▸ hasked,
        hrequest.1.trans hport'.2.1.symm, hrequest.2.trans hport'.2.2.symm⟩
      rw [hports, if_pos rfl]
    · rw [if_neg hj] at hu
      obtain ⟨q, other, request', huq, hq, hother, hrequest'⟩ := h.loggedIn j u hu hloggedIn
      have hne : p ≠ q := by
        rintro rfl
        cases hport.symm.trans hq
        rw [hold j u hother hu] at hloggedIn
        cases hloggedIn
      refine ⟨q, other, request', huq, ?_, hother, hrequest'⟩
      rw [hports, if_neg hne, hq]
  · intro j u hu hconnected
    rw [htcp] at hu
    by_cases hj : k = j
    · rw [if_pos hj] at hu
      cases hu
      cases hconnected
    · rw [if_neg hj] at hu
      exact h.connected j u hu hconnected

theorem Joined.emplaced (h : s.Joined asked) {t : TcpConnection} (hs : t.state.state = .connected)
    (hp : t.port = none) :
    ({ s with connections := s.connections ++ [some t] } : Acceptor).Joined asked := by
  constructor
  · intro p k port hport hk
    obtain ⟨u, hu, hup⟩ := h.port p k port hport hk
    have hne : k ≠ s.connections.length := by
      rintro rfl
      simp [tcp?] at hu
    rw [tcp?_emplaced, if_neg hne]
    exact ⟨u, hu, hup⟩
  · intro k u hu hloggedIn
    rw [tcp?_emplaced] at hu
    split at hu
    · cases hu
      rw [hs] at hloggedIn
      cases hloggedIn
    · exact h.loggedIn k u hu hloggedIn
  · intro k u hu hconnected
    rw [tcp?_emplaced] at hu
    split at hu
    · cases hu
      exact hp
    · exact h.connected k u hu hconnected

/-- When a connection is destroyed no port points to it any longer. -/
theorem Joined.ports_free (h : s.Joined asked) {t : TcpConnection} (ht : s.tcp? k = some t) (q : Nat) :
    (s.free k t).ports[q]? = (s.ports[q]?).map fun port =>
      if port.connection = some k then port.setConnection none else port := by
  have hother (port : Port) (hport : s.ports[q]? = some port) (hp : t.port ≠ some q) :
      port.connection ≠ some k := by
    intro hk
    obtain ⟨u, hu, hup⟩ := h.port q k port hport hk
    cases ht.symm.trans hu
    exact hp hup
  have hsame (hp : t.port ≠ some q) : s.ports[q]? = (s.ports[q]?).map fun port =>
      if port.connection = some k then port.setConnection none else port := by
    cases hport : s.ports[q]? with
    | none => rfl
    | some port =>
      rw [Option.map_some, if_neg (hother port hport hp)]
  unfold free
  cases hp : t.port with
  | none => exact hsame (by simp [hp])
  | some p =>
    by_cases hpq : p = q
    · subst hpq
      simp only [updateSlot, portOnClosed, updatePort, List.getElem?_modify, ↓reduceIte]
      rfl
    · refine Eq.trans ?_ (hsame (by simpa [hp] using hpq))
      simp [updateSlot, portOnClosed, updatePort, hpq]

theorem Joined.freed (h : s.Joined asked) {t : TcpConnection} (ht : s.tcp? k = some t) :
    (s.free k t).Joined asked := by
  constructor
  · intro p j port' hport' hj
    rw [h.ports_free ht] at hport'
    obtain ⟨port, hport, rfl⟩ := Option.map_eq_some_iff.mp hport'
    split at hj
    · cases hj
    · rename_i hne
      obtain ⟨u, hu, hup⟩ := h.port p j port hport hj
      have hkj : k ≠ j := by
        rintro rfl
        exact hne hj
      rw [tcp?_free, if_neg hkj]
      exact ⟨u, hu, hup⟩
  · intro j u hu hloggedIn
    rw [tcp?_free] at hu
    split at hu
    · cases hu
    · rename_i hkj
      obtain ⟨p, port, request, hup, hport, hj, hrequest⟩ := h.loggedIn j u hu hloggedIn
      have hne : port.connection ≠ some k := by
        rw [hj]
        simpa using Ne.symm hkj
      refine ⟨p, port, request, hup, ?_, hj, hrequest⟩
      rw [h.ports_free ht, hport, Option.map_some, if_neg hne]
  · intro j u hu hconnected
    rw [tcp?_free] at hu
    split at hu
    · cases hu
    · exact h.connected j u hu hconnected

theorem Moves.joined (hasked : ∀ k request, R.login k request → asked k request)
    (hm : Moves R s s') (h : s.Joined asked) : s'.Joined asked := by
  induction hm with
  | refl s => exact h
  | trans _ _ ih₁ ih₂ => exact ih₂ (ih₁ h)
  | aside ha =>
    apply h.ports ha.connections
    · exact fun p port hp => ⟨port, ha.ports ▸ hp, rfl, rfl, rfl⟩
    · intro p port' hp' hnone
      rw [← ha.ports, hp'] at hnone
      cases hnone
  | @port s q f hf _ =>
    have hports (p : Nat) : (s.updatePort q f).ports[p]? =
        (s.ports[p]?).map fun port => if q = p then f port else port :=
      List.getElem?_modify _ _ _ _
    have hc : (s.updatePort q f).connections = s.connections := rfl
    apply h.ports hc
    · intro p port hp
      rw [hports, hp]
      refine ⟨_, rfl, ?_⟩
      split
      · exact hf port
      · exact ⟨rfl, rfl, rfl⟩
    · intro p port' hp' hnone
      rw [hports, hnone] at hp'
      cases hp'
  | @added s port hnone =>
    have hc : ({ s with ports := s.ports ++ [port] } : Acceptor).connections = s.connections := rfl
    apply h.ports hc
    · intro p other hp
      have hlt := (List.getElem?_eq_some_iff.mp hp).1
      exact ⟨other, (List.getElem?_append_left hlt).trans hp, rfl, rfl, rfl⟩
    · intro p port' hp' hp
      dsimp only at hp'
      rw [List.getElem?_append_right (List.getElem?_eq_none_iff.mp hp)] at hp'
      have hmem := List.mem_of_getElem? hp'
      rw [List.mem_singleton] at hmem
      rw [hmem]
      exact hnone
  | send _ _ hsent =>
    apply h.update
    · exact fun t _ => (hsent t).bearing.2
    · exact fun t _ => Or.inl (congrArg _ (hsent t).bearing.1)
  | tcp _ hact =>
    apply h.update
    · exact fun t ht => (hact t ht).port
    · intro t ht
      rcases (hact t ht).state with hs | hs | ⟨-, hs⟩
      · exact Or.inl hs
      · exact Or.inr ⟨by simp [hs], by simp [hs]⟩
      · exact Or.inr ⟨by simp [hs], by simp [hs]⟩
  | supersede _ _ _ =>
    apply h.update
    · exact fun t _ => TcpConnection.port_disconnect _ t
    · intro t _
      rcases t.disconnect_eq .superseded with ⟨heq, -⟩ | ⟨hs, -, -⟩
      · exact Or.inl (by rw [TcpConnection.supersede, heq])
      · exact Or.inr ⟨by simp [TcpConnection.supersede, hs], by simp [TcpConnection.supersede, hs]⟩
  | seat response _ hlogin hport hrequest hport' _ ht hs hold =>
    exact h.seat response (hasked _ _ hlogin) hport hrequest hport' ht hs hold
  | emplaced _ _ _ => exact h.emplaced rfl rfl
  | freed _ ht _ => exact h.freed ht

/-! ## A login that is rejected -/

/-- The event is a login request of the connection `k` that is rejected. -/
def Rejects (env : Env) (k : Nat) (bytes : Bytes) (reject : LoginReject) (s : Acceptor) : Prop :=
  bytes.length = (s.readPacket k).payloadSize ∧
    (s.payloadRead k bytes).2.asks k (s.payloadRead k bytes).1 ∧
      ((s.payloadRead k bytes).2.answerLogin env.calls k bytes).1 = .error reject

theorem Rejects.not_admits {env : Env} {bytes : Bytes} {reject : LoginReject}
    (h : s.Rejects env k bytes reject) (j : Nat) (request : LoginRequestPacket) :
    ¬s.Admits (.payloadCompleted k (.ok bytes), env) j request := by
  rintro ⟨bytes', heq, -, -, -, response, hok⟩
  cases heq
  rw [show (s.payloadRead k bytes).1.payload = bytes from rfl, h.2.2] at hok
  cases hok

/-- Without a login, and with nobody to be freed, the ports keep what they point to. -/
theorem Moves.kept_ports (hlogin : ∀ j request, ¬R.login j request)
    (hfree : ∀ j, R.active j → s.Unpointed j) (hm : Moves R s s') (p : Nat) (port : Port)
    (hp : s.ports[p]? = some port) :
    ∃ port', s'.ports[p]? = some port' ∧ port'.connection = port.connection ∧
      port'.username = port.username ∧ port'.password = port.password := by
  induction hm generalizing port with
  | refl s => exact ⟨port, hp, rfl, rfl, rfl⟩
  | trans hm₁ _ ih₁ ih₂ =>
    obtain ⟨port', hp', hc', hu', hw'⟩ := ih₁ hfree port hp
    obtain ⟨port'', hp'', hc'', hu'', hw''⟩ := ih₂
      (fun j hj => hm₁.unpointed (hlogin j) (hfree j hj)) port' hp'
    exact ⟨port'', hp'', hc''.trans hc', hu''.trans hu', hw''.trans hw'⟩
  | aside ha => exact ⟨port, ha.ports ▸ hp, rfl, rfl, rfl⟩
  | @port s q f hf _ =>
    refine ⟨if q = p then f port else port, ?_, ?_⟩
    · simp [updatePort, List.getElem?_modify, hp]
    · split
      · exact hf port
      · exact ⟨rfl, rfl, rfl⟩
  | added _ _ =>
    have hlt := (List.getElem?_eq_some_iff.mp hp).1
    exact ⟨port, (List.getElem?_append_left hlt).trans hp, rfl, rfl, rfl⟩
  | send _ _ _ => exact ⟨port, hp, rfl, rfl, rfl⟩
  | tcp _ _ => exact ⟨port, hp, rfl, rfl, rfl⟩
  | supersede _ _ _ => exact ⟨port, hp, rfl, rfl, rfl⟩
  | seat _ _ hl _ _ _ _ _ _ _ => exact absurd hl (hlogin _ _)
  | emplaced _ _ _ => exact ⟨port, hp, rfl, rfl, rfl⟩
  | @freed s j t ha _ _ =>
    have hne := hfree j ha p port hp
    unfold free
    cases t.port with
    | none => exact ⟨port, hp, rfl, rfl, rfl⟩
    | some q =>
      refine ⟨port, ?_, rfl, rfl, rfl⟩
      simp only [updateSlot, portOnClosed, updatePort, List.getElem?_modify, hp]
      split
      · simp [hne]
      · rfl

/-- What a rejected login request leaves as it was. -/
structure Unmoved (k : Nat) (s s' : Acceptor) : Prop where
  ports : ∀ (p : Nat) (port : Port), s.ports[p]? = some port →
    ∃ port', s'.ports[p]? = some port' ∧ port'.connection = port.connection ∧
      port'.username = port.username ∧ port'.password = port.password
  others : ∀ j, j ≠ k → s'.bearing j = s.bearing j

theorem Joined.unmoved (h : s.Joined asked) {env : Env} {bytes : Bytes} {reject : LoginReject}
    (hready : s.ready (.payloadCompleted k (.ok bytes)) = true)
    (hrejects : s.Rejects env k bytes reject) :
    Unmoved k s (s.handle env (.payloadCompleted k (.ok bytes))) := by
  have hmoves := moves_handle env hready fun _ => h.unpointed
  have hs : (s.tcpState k).state = .connected := by
    have hconnected := hrejects.2.1.1
    rwa [payloadRead, tcpState_updateSocket, tcpState_updateSocket] at hconnected
  constructor
  · apply hmoves.kept_ports hrejects.not_admits
    rintro j rfl
    exact h.unpointed hs
  · exact fun j hj => hmoves.bearing hrejects.not_admits hj

theorem payloadCompleted_eq (script : Script) (faults : Faults) {bytes : Bytes}
    (hlength : bytes.length = (s.readPacket k).payloadSize) :
    (socketHandler script faults k).payloadCompleted (.ok bytes) s =
      ((s.payloadRead k bytes).2.readSuccess script faults k (s.payloadRead k bytes).1).updateTcp k
        (·.updateSocket Socket.maybeSignalClosed) := by
  rw [← readPacket_readDone script faults .readPayload] at hlength
  simp only [Socket.Handler.payloadCompleted, Socket.Handler.payloadReceived, hlength, ne_eq,
    not_true_eq_false, ↓reduceIte]
  rfl

theorem processPacket_rejected {script : Script} (faults : Faults) {packet : ReadPacket}
    {reject : LoginReject} (hasks : s.asks k packet)
    (heq : s.answerLogin script k packet.payload = (.error reject, s')) :
    s.processPacket script faults k packet = (.none, s'.rejectLogin script k reject) := by
  obtain ⟨hs, htype, hlength⟩ := hasks
  unfold processPacket processLoginRequest
  dsimp only
  rw [htype, if_neg (by decide), if_pos rfl, if_neg (by simp [hlength]), if_neg (by simp [hs]), heq]

theorem ports_acceptorCallback {script : Script} (hcalls : ∀ cb, script cb = [])
    (cb : AcceptorCallback) : (s.acceptorCallback script k cb).ports = s.ports := by
  unfold acceptorCallback
  split
  · rfl
  · unfold notify
    simp [hcalls, Acceptor.log]

/-- Without calls of the user from inside callbacks, no port is touched. -/
theorem ports_rejected {env : Env} {bytes : Bytes} {reject : LoginReject}
    (hrejects : s.Rejects env k bytes reject) (hcalls : ∀ cb, env.calls cb = []) :
    (s.handle env (.payloadCompleted k (.ok bytes))).ports = s.ports := by
  obtain ⟨hlength, hasks, herror⟩ := hrejects
  have hread : (s.payloadRead k bytes).2.ports = s.ports := rfl
  have hopen : ((s.payloadRead k bytes).2.tcpState k).isClosing = false := by
    simp [ConnectionState.isClosing, hasks.1]
  have hanswered : ((s.payloadRead k bytes).2.answerLogin env.calls k bytes).2.ports = s.ports := by
    have hrequest := answerLogin_eq (k := k) env.calls (s.payloadRead k bytes).2 bytes
    rw [hrequest] at herror ⊢
    have hsame := congrArg Acceptor.ports (onLoginRequest_rejected (Prod.ext herror rfl))
    exact hsame.trans ((ports_acceptorCallback hcalls _).trans hread)
  have hprocessed := processPacket_rejected env.faults hasks (Prod.ext herror rfl)
  have hrejected : (((s.payloadRead k bytes).2.answerLogin env.calls k bytes).2.rejectLogin
      env.calls k reject).ports = s.ports :=
    (ports_acceptorCallback hcalls _).trans hanswered
  have hagain {s' : Acceptor} (h : s'.ports = s.ports) : (if (s'.tcpState k).isClosing then s' else
      s'.updateTcp k (·.updateSocket Socket.asyncRead)).ports = s.ports := by
    split <;> exact h
  show ((socketHandler env.calls env.faults k).payloadCompleted (.ok bytes) s).ports = s.ports
  rw [payloadCompleted_eq env.calls env.faults hlength]
  show ((s.payloadRead k bytes).2.readSuccess env.calls env.faults k
    (s.payloadRead k bytes).1).ports = s.ports
  unfold readSuccess
  rw [hopen, hprocessed]
  exact hagain hrejected

/-! ## Runs -/

theorem Idle.joined (h : s.Idle) : s.Joined asked := by
  have hnone (k : Nat) : s.tcp? k = none := by simp [tcp?, h.connections]
  constructor
  · intro p k port hport hk
    rw [h.ports port (List.mem_of_getElem? hport)] at hk
    cases hk
  · intro k t ht
    rw [hnone] at ht
    cases ht
  · intro k t ht
    rw [hnone] at ht
    cases ht

/-- In the course of the inputs the connection `k` has made the login request,
and it has been accepted. -/
def Asked (s₀ : Acceptor) (inputs : List (Event × Env)) (k : Nat) (request : LoginRequestPacket) :
    Prop :=
  ∃ before input after s, inputs = before ++ input :: after ∧ system.Run s₀ before s ∧
    s.Admits input k request

theorem joined_run {s₀ : Acceptor} (h₀ : s₀.Idle) {inputs : List (Event × Env)}
    (hrun : system.Run s₀ inputs s) : s.Joined (Asked s₀ inputs) := by
  induction hrun with
  | refl => exact h₀.joined
  | @step inputs s input hrun hready ih =>
    have hearlier (k : Nat) (request : LoginRequestPacket) (h : Asked s₀ inputs k request) :
        Asked s₀ (inputs ++ [input]) k request := by
      obtain ⟨before, input', after, s', rfl, hbefore, hadmits⟩ := h
      exact ⟨before, input', after ++ [input], s', by simp, hbefore, hadmits⟩
    have hjoined := ih.mono hearlier
    apply (moves_handle input.2 hready fun _ => ih.unpointed).joined _ hjoined
    exact fun k request hadmits => ⟨inputs, input, [], s, rfl, hrun, hadmits⟩

/-- **Ports and connections point to each other.** A port points to a connection
of its own, a connection that is logged in has a port that points to it and was
named by its login request, and no two are logged in through one port. A request
that is rejected changes no port, and supersedes no connection. -/
theorem ports_and_connections_joined (s₀ : Acceptor) (h₀ : s₀.Idle) (inputs : List (Event × Env))
    (s : Acceptor) (hrun : system.Run s₀ inputs s) :
    (∀ (p k : Nat) (port : Port), s.ports[p]? = some port → port.connection = some k →
      ∃ t, s.tcp? k = some t ∧ t.port = some p) ∧
    (∀ (k : Nat) (t : TcpConnection), s.tcp? k = some t → t.state.state = .loggedIn →
      ∃ (p : Nat) (port : Port) (request : LoginRequestPacket), t.port = some p ∧
        s.ports[p]? = some port ∧ port.connection = some k ∧ Asked s₀ inputs k request ∧
          request.username = port.username ∧ request.password = port.password) ∧
    (∀ (j k : Nat) (t u : TcpConnection), s.tcp? j = some t → s.tcp? k = some u →
      t.state.state = .loggedIn → u.state.state = .loggedIn → t.port = u.port → j = k) ∧
    ∀ (env : Env) (k : Nat) (bytes : Bytes) (reject : LoginReject),
      s.ready (.payloadCompleted k (.ok bytes)) = true → s.Rejects env k bytes reject →
        Unmoved k s (s.handle env (.payloadCompleted k (.ok bytes))) ∧
          ((∀ cb, env.calls cb = []) →
            (s.handle env (.payloadCompleted k (.ok bytes))).ports = s.ports) := by
  have hjoined := joined_run h₀ hrun
  refine ⟨hjoined.port, hjoined.loggedIn, ?_, ?_⟩
  · intro j k t u ht hu hts hus hport
    obtain ⟨p, port, -, htp, hp, hj, -⟩ := hjoined.loggedIn j t ht hts
    obtain ⟨q, other, -, huq, hq, hk, -⟩ := hjoined.loggedIn k u hu hus
    rw [htp, huq] at hport
    cases hport
    cases hp.symm.trans hq
    rw [hj] at hk
    exact Option.some.inj hk
  · intro env k bytes reject hready hrejects
    exact ⟨hjoined.unmoved hready hrejects, ports_rejected hrejects⟩

def onePort : Acceptor :=
  { session := [115], ports := [{ username := [117], password := [112] }] }

/-- Two clients log in one after the other, with the same username. -/
def logInTwice : List Event :=
  let request := LoginRequestPacket.write ⟨[117], [112], [], 0⟩
  [.call .start, .posted 0, .acceptCompleted none, .acceptCompleted none,
    .headerCompleted 0 (.ok [0, 47, LoginRequestPacket.packetType]),
    .payloadCompleted 0 (.ok request),
    .headerCompleted 1 (.ok [0, 47, LoginRequestPacket.packetType]),
    .payloadCompleted 1 (.ok request)]

theorem ports_and_connections_joined_twice :
    let inputs := logInTwice.map fun event => (event, Env.plain)
    let s := system.final onePort inputs
    (s.tcpState 0).state = .disconnected ∧ (s.tcpState 1).state = .loggedIn ∧
      ∃ (p : Nat) (port : Port) (request : LoginRequestPacket), s.ports[p]? = some port ∧
        port.connection = some 1 ∧ Asked onePort inputs 1 request ∧
          request.username = port.username ∧ request.password = port.password := by
  intro inputs s
  have hidle : onePort.Idle := ⟨rfl, rfl, by simp [onePort]⟩
  have hrun : system.Run onePort inputs s := System.run_of_admits (by decide +kernel)
  have hs : (s.tcpState 1).state = .loggedIn := by decide +kernel
  obtain ⟨t, ht, hloggedIn⟩ := tcp?_of_state hs (by decide)
  obtain ⟨p, port, request, -, hport⟩ :=
    (ports_and_connections_joined onePort hidle inputs s hrun).2.1 1 t ht hloggedIn
  exact ⟨by decide +kernel, hs, p, port, request, hport⟩

end Acceptor
end SoupBin.ServerSide
