import SoupBin.ServerSteady

/-!
# The numbers a port counts

A port counts the messages that its connection accepts, and its peer counts the
packets that come. Both count from the response to the login.
-/

namespace SoupBin.ServerSide

/-- The call sets a sequence number. -/
def Call.sets : Call → Bool
  | .setNextSequenceNumber _ _ => true
  | _ => false

/-- The call is a `send_message`. -/
def Call.isMessage : Call → Bool
  | .sendMessage _ _ => true
  | _ => false

namespace TcpConnection

/-- A packet is refused, or it is the last one in the stream. -/
theorem sendPacket_cases (packet : WritePacket) (t : TcpConnection) :
    (t.sendPacket packet).1 ≠ .none ∧ Minor t (t.sendPacket packet).2 ∨
      (t.sendPacket packet).1 = .none ∧ t.state.state = .loggedIn ∧
        (t.sendPacket packet).2.stream = t.stream ++ [Socket.carried packet] := by
  by_cases hs : t.state.state = .loggedIn
  · have hsend : (t.sendPacket packet).1 = (t.asyncWrite packet).1 ∧
        (t.sendPacket packet).2.stream = (t.asyncWrite packet).2.stream := by
      unfold TcpConnection.sendPacket
      rw [if_neg (not_not.mpr hs)]
      dsimp only
      split <;> exact ⟨rfl, rfl⟩
    by_cases htakes : t.socket.Takes
    · right
      refine ⟨hsend.1.trans (Socket.asyncWrite_taken htakes packet).1, hs, ?_⟩
      rw [hsend.2, stream_asyncWrite, if_pos htakes]
    · left
      refine ⟨?_, ?_⟩
      · rw [hsend.1]
        exact (Socket.asyncWrite_refused htakes packet).1
      · refine ⟨(t.bearing_sendPacket packet).2, Or.inl ?_, [], ?_, ?_⟩
        · exact congrArg _ (t.bearing_sendPacket packet).1
        · rw [hsend.2, stream_asyncWrite, if_neg htakes, List.append_nil]
        · exact fun _ h => absurd h List.not_mem_nil
  · left
    unfold TcpConnection.sendPacket
    rw [if_pos hs]
    exact ⟨by simp, .refl t⟩

end TcpConnection

namespace Acceptor

/-- What a port counts is what the stream of its connection implies. -/
structure Counted (s : Acceptor) : Prop where
  small : ∀ port ∈ s.ports, port.nextSequenceNumber < 2 ^ 64
  linked : ∀ (p k : Nat) (port : Port), s.ports[p]? = some port → port.connection = some k →
    ∃ t, s.tcp? k = some t ∧ t.port = some p
  fresh : ∀ k t, s.tcp? k = some t → t.state.state = .connected →
    t.port = none ∧ implied t.stream = none
  counted : ∀ (p k : Nat) (port : Port) (t : TcpConnection), s.ports[p]? = some port →
    port.connection = some k → s.tcp? k = some t → t.state.state = .loggedIn →
      ∀ n, implied t.stream = some n → port.nextSequenceNumber = n

variable {s s' : Acceptor} {k p : Nat}

theorem getElem?_updatePort (s : Acceptor) (p q : Nat) (f : Port → Port) :
    (s.updatePort p f).ports[q]? = if p = q then s.ports[q]?.map f else s.ports[q]? := by
  rw [updatePort, List.getElem?_modify]
  split <;> simp

/-! ## Steps that count nothing -/

theorem Counted.same (h : s.Counted) (hp : s'.ports = s.ports)
    (hc : s'.connections = s.connections) : s'.Counted := by
  have ht (j : Nat) : s'.tcp? j = s.tcp? j := by rw [tcp?, tcp?, hc]
  constructor
  · rw [hp]
    exact h.small
  · intro p k port hport hconn
    rw [ht]
    exact h.linked p k port (hp ▸ hport) hconn
  · intro k t hk
    exact h.fresh k t (ht k ▸ hk)
  · intro p k port t hport hconn hk
    exact h.counted p k port t (hp ▸ hport) hconn (ht k ▸ hk)

/-- A minor step of one connection. -/
theorem Counted.minor (h : s.Counted) (k : Nat) {f : TcpConnection → TcpConnection}
    (hf : ∀ t, s.tcp? k = some t → t.Minor (f t)) : (s.updateTcp k f).Counted := by
  -- whatever a connection is now, it was before, up to a minor step
  have hback (j : Nat) (u : TcpConnection) (hu : (s.updateTcp k f).tcp? j = some u) :
      ∃ t, s.tcp? j = some t ∧ t.Minor u := by
    rw [tcp?_updateTcp] at hu
    split at hu
    · rename_i hkj
      subst hkj
      obtain ⟨t, ht, rfl⟩ := Option.map_eq_some_iff.mp hu
      exact ⟨t, ht, hf t ht⟩
    · exact ⟨u, hu, .refl u⟩
  constructor
  · exact h.small
  · intro p j port hport hconn
    obtain ⟨t, ht, hp⟩ := h.linked p j port hport hconn
    rw [tcp?_updateTcp, ht]
    split
    · rename_i hkj
      subst hkj
      exact ⟨f t, rfl, (hf t ht).port.trans hp⟩
    · exact ⟨t, rfl, hp⟩
  · intro j u hu hs
    obtain ⟨t, ht, hm⟩ := hback j u hu
    rw [hm.port, hm.counts.1]
    exact h.fresh j t ht (hm.of_connected hs)
  · intro p j port u hport hconn hu hs
    obtain ⟨t, ht, hm⟩ := hback j u hu
    rw [hm.counts.1]
    exact h.counted p j port t hport hconn ht (hm.of_loggedIn hs)

/-- A port is given another number while nobody is logged in through it, or none. -/
theorem Counted.updatePort (h : s.Counted) (p : Nat) {f : Port → Port}
    (hf : ∀ port : Port, (f port).connection = port.connection)
    (hsmall : ∀ port : Port, port.nextSequenceNumber < 2 ^ 64 →
      (f port).nextSequenceNumber < 2 ^ 64)
    (hnumber : ∀ port k t, s.ports[p]? = some port → port.connection = some k →
      s.tcp? k = some t → t.state.state = .loggedIn →
        (f port).nextSequenceNumber = port.nextSequenceNumber) : (s.updatePort p f).Counted := by
  have hback (q : Nat) (port' : Port) (hq : (s.updatePort p f).ports[q]? = some port') :
      ∃ port, s.ports[q]? = some port ∧ port'.connection = port.connection ∧
        (port' = port ∨ p = q ∧ port' = f port) := by
    rw [getElem?_updatePort] at hq
    split at hq
    · rename_i hpq
      obtain ⟨port, hport, rfl⟩ := Option.map_eq_some_iff.mp hq
      exact ⟨port, hport, hf port, Or.inr ⟨hpq, rfl⟩⟩
    · exact ⟨port', hq, rfl, Or.inl rfl⟩
  constructor
  · intro port' hmem
    obtain ⟨q, hq⟩ := List.mem_iff_getElem?.mp hmem
    obtain ⟨port, hport, -, heq⟩ := hback q port' hq
    have hlt := h.small port (List.mem_of_getElem? hport)
    rcases heq with rfl | ⟨-, rfl⟩
    · exact hlt
    · exact hsmall port hlt
  · intro q k port' hq hconn
    obtain ⟨port, hport, hsame, -⟩ := hback q port' hq
    exact h.linked q k port hport (hsame ▸ hconn)
  · exact h.fresh
  · intro q k port' t hq hconn ht hs n hn
    obtain ⟨port, hport, hsame, heq⟩ := hback q port' hq
    have hwas := h.counted q k port t hport (hsame ▸ hconn) ht hs n hn
    rcases heq with rfl | ⟨rfl, rfl⟩
    · exact hwas
    · rw [hnumber port k t hport (hsame ▸ hconn) ht hs]
      exact hwas

theorem Counted.emplaced (h : s.Counted) (handlerSet : Bool) (limit : Nat) :
    ({ s with connections := s.connections ++
      [some (accepted handlerSet { isOpen := true, writePacketsLimit := limit })] }
        : Acceptor).Counted := by
  have hfresh : implied (accepted handlerSet
      { isOpen := true, writePacketsLimit := limit }).stream = none := rfl
  constructor
  · exact h.small
  · intro p k port hport hconn
    obtain ⟨t, ht, hp⟩ := h.linked p k port hport hconn
    rw [tcp?_emplaced, if_neg (Nat.ne_of_lt (lt_of_tcp ht))]
    exact ⟨t, ht, hp⟩
  · intro k t ht hs
    rw [tcp?_emplaced] at ht
    split at ht
    · cases ht
      exact ⟨rfl, hfresh⟩
    · exact h.fresh k t ht hs
  · intro p k port t hport hconn ht hs n hn
    rw [tcp?_emplaced] at ht
    split at ht
    · cases ht
      rw [hfresh] at hn
      cases hn
    · exact h.counted p k port t hport hconn ht hs n hn

/-- A connection is gone, and no port points to it any more. -/
theorem Counted.freed (h : s.Counted) {t : TcpConnection} (ht : s.tcp? k = some t) :
    (s.free k t).Counted := by
  have hback (q : Nat) (port' : Port) (hq : (s.free k t).ports[q]? = some port') :
      ∃ port, s.ports[q]? = some port ∧ port'.nextSequenceNumber = port.nextSequenceNumber ∧
        (port'.connection = port.connection ∨ port'.connection = none) ∧
        (t.port = some q → port'.connection ≠ some k) := by
    unfold free at hq
    cases hp : t.port with
    | none =>
      rw [hp] at hq
      exact ⟨port', hq, rfl, Or.inl rfl, by simp⟩
    | some p =>
      rw [hp] at hq
      have hq' : (s.portOnClosed p k).ports[q]? = some port' := hq
      rw [portOnClosed, getElem?_updatePort] at hq'
      split at hq'
      · obtain ⟨port, hport, rfl⟩ := Option.map_eq_some_iff.mp hq'
        refine ⟨port, hport, ?_⟩
        by_cases hconn : port.connection = some k
        · rw [if_pos hconn]
          exact ⟨rfl, Or.inr rfl, by simp [Port.setConnection]⟩
        · rw [if_neg hconn]
          exact ⟨rfl, Or.inl rfl, fun _ => hconn⟩
      · rename_i hpq
        exact ⟨port', hq', rfl, Or.inl rfl, by simpa using fun hne => absurd hne hpq⟩
  have hother (q j : Nat) (port' : Port) (hq : (s.free k t).ports[q]? = some port')
      (hconn : port'.connection = some j) :
      ∃ port, s.ports[q]? = some port ∧ port.connection = some j ∧
        port'.nextSequenceNumber = port.nextSequenceNumber ∧ k ≠ j := by
    obtain ⟨port, hport, hnumber, hsame, hgone⟩ := hback q port' hq
    have hwas : port.connection = some j := by
      rcases hsame with hsame | hnone
      · exact hsame ▸ hconn
      · rw [hnone] at hconn
        cases hconn
    refine ⟨port, hport, hwas, hnumber, ?_⟩
    rintro rfl
    obtain ⟨u, hu, hp⟩ := h.linked q k port hport hwas
    cases ht.symm.trans hu
    exact hgone hp hconn
  constructor
  · intro port' hmem
    obtain ⟨q, hq⟩ := List.mem_iff_getElem?.mp hmem
    obtain ⟨port, hport, hnumber, -⟩ := hback q port' hq
    rw [hnumber]
    exact h.small port (List.mem_of_getElem? hport)
  · intro q j port' hq hconn
    obtain ⟨port, hport, hwas, -, hne⟩ := hother q j port' hq hconn
    rw [tcp?_free, if_neg hne]
    exact h.linked q j port hport hwas
  · intro j u hu
    rw [tcp?_free] at hu
    split at hu
    · cases hu
    · exact h.fresh j u hu
  · intro q j port' u hq hconn hu
    obtain ⟨port, hport, hwas, hnumber, hne⟩ := hother q j port' hq hconn
    rw [tcp?_free, if_neg hne] at hu
    rw [hnumber]
    exact h.counted q j port u hport hwas hu

/-! ## Calls -/

/-- The packet that `send_message` makes. -/
def messagePacket (data : Bytes) : WritePacket := .ofData SequencedDataPacket.packetType data

/-- The connection that takes a message, and the number that the port counts. -/
structure Sends (p : Nat) (data : Bytes) (s s' : Acceptor) (k : Nat) (port : Port)
    (t : TcpConnection) : Prop where
  found : s.ports[p]? = some port
  connection : port.connection = some k
  tcp : s.tcp? k = some t
  loggedIn : t.state.state = .loggedIn
  stream : (t.sendPacket (messagePacket data)).2.stream =
    t.stream ++ [Socket.carried (messagePacket data)]
  after : s' = (s.updateTcp k fun t => (t.sendPacket (messagePacket data)).2).updatePort p
    Port.countMessage

/-- A message is refused, and nothing counts, or the connection of the port takes it. -/
theorem sendMessage_cases (s : Acceptor) (p : Nat) (data : Span) :
    ((s.sendMessage p data).1 ≠ .none ∧ ((s.sendMessage p data).2 = s ∨
      ∃ k f, (s.sendMessage p data).2 = s.updateTcp k f ∧
        ∀ t, s.tcp? k = some t → TcpConnection.Minor t (f t))) ∨
    ((s.sendMessage p data).1 = .none ∧ ∃ bytes k port t, data = .bytes bytes ∧
      Sends p bytes s (s.sendMessage p data).2 k port t) := by
  unfold sendMessage
  split
  · exact Or.inl ⟨by simp, Or.inl rfl⟩
  · cases data with
    | null size => exact Or.inl ⟨by simp, Or.inl rfl⟩
    | bytes data =>
      dsimp only
      cases hport : s.ports[p]? with
      | none => simp [sendPacket, hport]
      | some port =>
        by_cases hended : port.hasSessionEnded = true
        · simp [sendPacket, hport, hended]
        · cases hconn : port.connection with
          | none => simp [sendPacket, hport, hended, hconn, sendWith]
          | some k =>
            cases ht : s.tcp? k with
            | none => simp [sendPacket, hport, hended, hconn, sendWith, ht]
            | some t =>
              have heq : s.sendPacket p (.ofData SequencedDataPacket.packetType data) =
                  ((t.sendPacket (messagePacket data)).1,
                    s.updateTcp k fun t => (t.sendPacket (messagePacket data)).2) := by
                simp [sendPacket, hport, hended, hconn, sendWith, ht, messagePacket]
              rw [heq]
              rcases t.sendPacket_cases (messagePacket data) with ⟨herror, hminor⟩ | ⟨hnone, hs, hstream⟩
              · left
                dsimp only
                rw [if_neg herror]
                refine ⟨herror, Or.inr ⟨k, _, rfl, fun u hu => ?_⟩⟩
                cases ht.symm.trans hu
                exact hminor
              · right
                dsimp only
                rw [if_pos hnone]
                exact ⟨hnone, data, k, port, t, rfl, hport, hconn, ht, hs, hstream, rfl⟩

/-- A message that is taken has the number that the port counted. -/
theorem Sends.counts {data : Bytes} {port : Port} {t : TcpConnection}
    (h : Sends p data s s' k port t) :
    s'.ports[p]? = some port.countMessage ∧
      ∃ t', s'.tcp? k = some t' ∧ t'.port = t.port ∧ t'.state = t.state ∧
        t'.stream = t.stream ++
          [(SequencedDataPacket.packetType, (messagePacket data).payloadData)] := by
  rw [h.after]
  constructor
  · rw [getElem?_updatePort, if_pos rfl]
    exact congrArg _ h.found
  · refine ⟨(t.sendPacket (messagePacket data)).2, ?_, (t.bearing_sendPacket _).2,
      (t.bearing_sendPacket _).1, ?_⟩
    · show (s.updateTcp k _).tcp? k = _
      rw [tcp?_updateTcp, if_pos rfl, h.tcp]
      rfl
    · rw [h.stream, Socket.carried, messagePacket, WritePacket.packetType_ofData]

theorem Counted.message (h : s.Counted) {data : Bytes} {port : Port} {t : TcpConnection}
    (hsends : Sends p data s s' k port t) : s'.Counted := by
  obtain ⟨hport', t', ht', hp', hstate', hstream'⟩ := hsends.counts
  obtain ⟨u, hu, hlinked⟩ := h.linked p k port hsends.found hsends.connection
  cases hsends.tcp.symm.trans hu
  have hports (q : Nat) : s'.ports[q]? =
      if p = q then s.ports[q]?.map Port.countMessage else s.ports[q]? := by
    rw [hsends.after]
    exact getElem?_updatePort _ p q _
  have htcp (j : Nat) (hne : k ≠ j) : s'.tcp? j = s.tcp? j := by
    rw [hsends.after]
    exact (tcp?_updateTcp s k j _).trans (if_neg hne)
  have hback (q : Nat) (port' : Port) (hq : s'.ports[q]? = some port') :
      ∃ was, s.ports[q]? = some was ∧ port'.connection = was.connection ∧
        (p ≠ q ∧ port' = was ∨ p = q ∧ port' = was.countMessage) := by
    rw [hports] at hq
    split at hq
    · obtain ⟨was, hwas, rfl⟩ := Option.map_eq_some_iff.mp hq
      exact ⟨was, hwas, rfl, Or.inr ⟨‹p = q›, rfl⟩⟩
    · exact ⟨port', hq, rfl, Or.inl ⟨‹¬p = q›, rfl⟩⟩
  constructor
  · intro port' hmem
    obtain ⟨q, hq⟩ := List.mem_iff_getElem?.mp hmem
    obtain ⟨was, hwas, -, heq⟩ := hback q port' hq
    rcases heq with ⟨-, rfl⟩ | ⟨-, rfl⟩
    · exact h.small port' (List.mem_of_getElem? hwas)
    · exact Nat.mod_lt _ (by decide)
  · intro q j port' hq hconn
    obtain ⟨was, hwas, hsame, -⟩ := hback q port' hq
    obtain ⟨v, hv, hvq⟩ := h.linked q j was hwas (hsame ▸ hconn)
    by_cases hj : k = j
    · subst hj
      cases hsends.tcp.symm.trans hv
      exact ⟨t', ht', hp'.trans hvq⟩
    · rw [htcp j hj]
      exact ⟨v, hv, hvq⟩
  · intro j v hv hs
    by_cases hj : k = j
    · subst hj
      cases ht'.symm.trans hv
      rw [hstate', hsends.loggedIn] at hs
      cases hs
    · rw [htcp j hj] at hv
      exact h.fresh j v hv hs
  · intro q j port' v hq hconn hv hs n hn
    obtain ⟨was, hwas, hsame, heq⟩ := hback q port' hq
    have hconn : was.connection = some j := hsame ▸ hconn
    by_cases hj : k = j
    · subst hj
      cases ht'.symm.trans hv
      -- the port that counts is the one the connection is logged in through
      obtain ⟨w, hw, hwq⟩ := h.linked q k was hwas hconn
      cases hsends.tcp.symm.trans hw
      cases hlinked.symm.trans hwq
      cases hsends.found.symm.trans hwas
      have hport : port' = port.countMessage := by
        rcases heq with ⟨hne, -⟩ | ⟨-, heq⟩
        · exact absurd rfl hne
        · exact heq
      rw [hstream'] at hn
      cases hwas : implied t.stream with
      | none =>
        rw [(unnumbered_append hwas _).1] at hn
        cases hn
      | some m =>
        rw [(data_append hwas _).1] at hn
        cases hn
        rw [hport, ← h.counted p k port t hsends.found hsends.connection hsends.tcp
          hsends.loggedIn m hwas]
        rfl
    · rw [htcp j hj] at hv
      have hne : p ≠ q := by
        rintro rfl
        cases hsends.found.symm.trans hwas
        exact hj (Option.some.inj (hsends.connection.symm.trans hconn))
      rcases heq with ⟨-, rfl⟩ | ⟨heq, -⟩
      · exact h.counted q j port' v hwas hconn hv hs n hn
      · exact absurd heq hne

theorem Counted.sendMessage (h : s.Counted) (p : Nat) (data : Span) :
    (s.sendMessage p data).2.Counted := by
  rcases s.sendMessage_cases p data with ⟨-, hsame | ⟨k, f, heq, hf⟩⟩ | ⟨-, bytes, k, port, t, -, hsends⟩
  · rw [hsame]
    exact h
  · rw [heq]
    exact h.minor k hf
  · exact h.message hsends

theorem sendDebug_eq (s : Acceptor) (p : Nat) (text : Bytes) :
    (s.sendDebug p text).2 = s ∨
      ∃ k, (s.sendDebug p text).2 = s.updateTcp k fun t => (t.sendDebugPacket text).2 := by
  unfold sendDebug
  split
  · exact Or.inl rfl
  · split
    · exact Or.inl rfl
    · rename_i port _
      rcases s.sendWith_eq (·.sendDebugPacket text) port.connection with heq | ⟨k, -, heq⟩
      · exact Or.inl heq
      · exact Or.inr ⟨k, heq⟩

/-- Nobody is logged in through the port. -/
def Vacant (p : Nat) (s : Acceptor) : Prop :=
  ∀ port k t, s.ports[p]? = some port → port.connection = some k → s.tcp? k = some t →
    t.state.state ≠ .loggedIn

theorem Counted.addPort (h : s.Counted) (username password : Bytes) (handlerSet : Bool) :
    (s.addPort username password handlerSet).2.Counted := by
  unfold Acceptor.addPort
  split
  · exact h
  · split
    · exact h
    · split
      · exact h
      · have hback (q k : Nat) (port : Port)
            (hq : (s.ports ++ [(⟨handlerSet, username, password, 1, false, none⟩ : Port)])[q]? =
              some port) (hconn : port.connection = some k) : s.ports[q]? = some port := by
          rw [List.getElem?_append] at hq
          split at hq
          · exact hq
          · have hmem := List.mem_of_getElem? hq
            rw [List.mem_singleton] at hmem
            rw [hmem] at hconn
            cases hconn
        constructor
        · intro port hmem
          rcases List.mem_append.mp hmem with hmem | hmem
          · exact h.small port hmem
          · rw [List.mem_singleton.mp hmem]
            show 1 < 2 ^ 64
            decide
        · intro q k port hq hconn
          exact h.linked q k port (hback q k port hq hconn) hconn
        · exact h.fresh
        · intro q k port t hq hconn
          exact h.counted q k port t (hback q k port hq hconn) hconn

/-- Every call, if it sets no number, or only of a port that is not in use. -/
theorem Counted.call (h : s.Counted) {call : Call}
    (hsets : ∀ p n, call = .setNextSequenceNumber p n → n < 2 ^ 64 ∧ s.Vacant p) :
    (call.run s).Counted := by
  cases call with
  | setSession session =>
    simp only [Call.run, setSession]
    split
    · exact h
    · exact h.same rfl rfl
  | start =>
    simp only [Call.run, start]
    split
    · exact h.same rfl rfl
    · exact h
  | endSession => exact h.same rfl rfl
  | stop => exact h.same rfl rfl
  | setHandler => exact h.same rfl rfl
  | setWritePacketsLimit limit => exact h.same rfl rfl
  | setDebugBanner banner => exact h.same rfl rfl
  | addPort username password handlerSet => exact h.addPort username password handlerSet
  | setPortHandler p =>
    exact h.updatePort p (fun _ => rfl) (fun _ hlt => hlt) fun _ _ _ _ _ _ _ => rfl
  | setNextSequenceNumber p n =>
    obtain ⟨hlt, hvacant⟩ := hsets p n rfl
    refine h.updatePort p (f := (·.setNextSequenceNumber n)) (fun _ => rfl) (fun _ _ => hlt) ?_
    intro port k t hport hconn ht hs
    exact absurd hs (hvacant port k t hport hconn ht)
  | sendMessage p data => exact h.sendMessage p data
  | sendDebug p text =>
    simp only [Call.run]
    rcases s.sendDebug_eq p text with heq | ⟨k, heq⟩
    · rw [heq]
      exact h
    · rw [heq]
      exact h.minor k fun t _ => TcpConnection.minor_sendDebugPacket text t

/-! ## Logins -/

/-- The login of the connection `k` through the port `p` has been accepted, and the
response, which has the number `n`, is still to come. -/
structure Owed (p k n : Nat) (s : Acceptor) : Prop extends Counted s where
  past : ∀ t, s.tcp? k = some t → t.state.state ≠ .connected
  waits : ∀ t, s.tcp? k = some t → t.state.state = .loggedIn →
    t.port = some p ∧ implied t.stream = none ∧
      ∃ port, s.ports[p]? = some port ∧ port.nextSequenceNumber = n

variable {n : Nat}

theorem Owed.minor (h : s.Owed p k n) (j : Nat) {f : TcpConnection → TcpConnection}
    (hf : ∀ t, TcpConnection.Minor t (f t)) : (s.updateTcp j f).Owed p k n := by
  have hback (u : TcpConnection) (hu : (s.updateTcp j f).tcp? k = some u) :
      ∃ t, s.tcp? k = some t ∧ t.Minor u := by
    rw [tcp?_updateTcp] at hu
    split at hu
    · obtain ⟨t, ht, rfl⟩ := Option.map_eq_some_iff.mp hu
      exact ⟨t, ht, hf t⟩
    · exact ⟨u, hu, .refl u⟩
  refine ⟨h.toCounted.minor j fun t _ => hf t, ?_, ?_⟩
  · intro u hu hs
    obtain ⟨t, ht, hm⟩ := hback u hu
    exact h.past t ht (hm.of_connected hs)
  · intro u hu hs
    obtain ⟨t, ht, hm⟩ := hback u hu
    rw [hm.port, hm.counts.1]
    exact h.waits t ht (hm.of_loggedIn hs)

/-- The connection is left alone, and so is the number of its port. -/
theorem Owed.keep (h : s.Owed p k n) (hcounted : s'.Counted) (ht : s'.tcp? k = s.tcp? k)
    (hports : ∀ port, s.ports[p]? = some port → ∃ port', s'.ports[p]? = some port' ∧
      port'.nextSequenceNumber = port.nextSequenceNumber) : s'.Owed p k n := by
  refine ⟨hcounted, ?_, ?_⟩
  · rw [ht]
    exact h.past
  · intro t hk hs
    obtain ⟨hp, hnone, port, hport, hn⟩ := h.waits t (ht ▸ hk) hs
    obtain ⟨port', hport', hsame⟩ := hports port hport
    exact ⟨hp, hnone, port', hport', hsame.trans hn⟩

theorem Owed.same (h : s.Owed p k n) (hp : s'.ports = s.ports)
    (hc : s'.connections = s.connections) : s'.Owed p k n := by
  apply h.keep (h.toCounted.same hp hc)
  · rw [tcp?, tcp?, hc]
  · intro port hport
    exact ⟨port, hp ▸ hport, rfl⟩

/-- The calls that neither set a number nor send a message. -/
theorem Owed.call (h : s.Owed p k n) {call : Call} (hsets : call.sets = false)
    (hmessage : call.isMessage = false) : (call.run s).Owed p k n := by
  cases call with
  | setSession session =>
    simp only [Call.run, setSession]
    split
    · exact h
    · exact h.same rfl rfl
  | start =>
    simp only [Call.run, start]
    split
    · exact h.same rfl rfl
    · exact h
  | endSession => exact h.same rfl rfl
  | stop => exact h.same rfl rfl
  | setHandler => exact h.same rfl rfl
  | setWritePacketsLimit limit => exact h.same rfl rfl
  | setDebugBanner banner => exact h.same rfl rfl
  | addPort username password handlerSet =>
    apply h.keep (h.toCounted.addPort username password handlerSet)
    · simp only [Acceptor.addPort]
      split
      · rfl
      · split
        · rfl
        · split <;> rfl
    · intro port hport
      obtain ⟨hlt, -⟩ := List.getElem?_eq_some_iff.mp hport
      refine ⟨port, ?_, rfl⟩
      simp only [Acceptor.addPort]
      split
      · exact hport
      · split
        · exact hport
        · split
          · exact hport
          · rw [List.getElem?_append_left hlt]
            exact hport
  | setPortHandler q =>
    have hcounted : (s.updatePort q Port.setHandler).Counted :=
      h.toCounted.updatePort q (fun _ => rfl) (fun _ hlt => hlt) fun _ _ _ _ _ _ _ => rfl
    apply h.keep hcounted rfl
    intro port hport
    rw [getElem?_updatePort, hport]
    split
    · exact ⟨port.setHandler, rfl, rfl⟩
    · exact ⟨port, rfl, rfl⟩
  | setNextSequenceNumber q m => cases hsets
  | sendMessage q data => cases hmessage
  | sendDebug q text =>
    simp only [Call.run]
    rcases s.sendDebug_eq q text with heq | ⟨j, heq⟩
    · rw [heq]
      exact h
    · rw [heq]
      exact h.minor j (TcpConnection.minor_sendDebugPacket text)

/-- The callback that comes before the response. -/
theorem Owed.portCallback (h : s.Owed p k n) {script : Script} {cb : PortCallback}
    (hcalls : ∀ q, ∀ call ∈ script (.port q cb), call.sets = false ∧ call.isMessage = false) :
    (s.portCallback script k cb).Owed p k n := by
  apply kept_portCallback (I := Owed p k n) _ _ h
  · intro entry s _ h
    exact h.same rfl rfl
  · intro q call hcall s h
    obtain ⟨hsets, hmessage⟩ := hcalls q call hcall
    exact h.call hsets hmessage

/-- What the user may do from inside the callbacks. -/
def Restrained (script : Script) : Prop :=
  ∀ cb, ∀ call ∈ script cb, call.sets = false ∧ (cb.isLogin = true → call.isMessage = false)

variable {script : Script} {faults : Faults}

theorem steady_counted (hscript : Restrained script) :
    Steady TcpConnection.Uncounting TcpConnection.Minor script Counted where
  gentle := TcpConnection.gentle_minor
  own h := h.uncounting
  log _ _ _ h := h.same rfl rfl
  tcp k _ _ hf h := h.minor k fun t _ => hf t
  calls cb _ call hcall s h := by
    obtain ⟨hsets, -⟩ := hscript cb call hcall
    apply h.call
    rintro p n rfl
    cases hsets

/-- When the heartbeat timer fails to start, no response is to come any more. -/
theorem Owed.handleTransportError (h : s.Owed p k n) (hscript : Restrained script)
    (ec : IoError) (operation : String) :
    (s.handleTransportError script k ec operation).Owed p k n := by
  have hdown (t : TcpConnection)
      (ht : (s.handleTransportError script k ec operation).tcp? k = some t) :
      t.state.state = .disconnected := by
    rw [Acceptor.handleTransportError, tcpDisconnect, tcp?_updateTcp, if_pos rfl] at ht
    obtain ⟨u, -, rfl⟩ := Option.map_eq_some_iff.mp ht
    rcases u.disconnect_eq .transportError with ⟨heq, hs⟩ | ⟨hs, -⟩
    · rw [heq]
      exact hs
    · exact hs
  refine ⟨(steady_counted hscript).handleTransportError ec operation h.toCounted, ?_, ?_⟩
  · intro t ht hs
    rw [hdown t ht] at hs
    cases hs
  · intro t ht hs
    rw [hdown t ht] at hs
    cases hs

theorem owed_heartbeatTimer (hscript : Restrained script) :
    (heartbeatTimerHandler script k).Keeps (Owed p k n) where
  update _ _ _ h := h.minor k fun _ => TcpConnection.minor_same rfl rfl rfl
  heartbeatTimerError ec operation _ h := h.handleTransportError hscript ec operation
  heartbeatSendDue _ h := h.minor k (TcpConnection.minor_asyncWrite
    (TcpConnection.uncounted_of_type (WritePacket.packetType_ofSize _ _) (by decide)))
  heartbeatReceiveTimeout _ h := h.minor k (TcpConnection.minor_disconnect .heartbeatTimeout)

/-- The response has the number that the port counts. -/
theorem Owed.respond {response : LoginAcceptedPacket}
    (h : s.Owed p k response.nextSequenceNumber)
    (hsmall : response.nextSequenceNumber < 2 ^ 64) {packet : WritePacket}
    (hpacket : Socket.carried packet = (LoginAcceptedPacket.packetType, response.write)) :
    (s.updateTcp k (·.writeBestEffort packet)).Counted := by
  have hnumber := LoginAcceptedPacket.read_write_number response hsmall
  have hback (j : Nat) (u : TcpConnection)
      (hu : (s.updateTcp k (·.writeBestEffort packet)).tcp? j = some u) :
      ∃ t, s.tcp? j = some t ∧ u.port = t.port ∧ u.state = t.state ∧
        (u.stream = t.stream ∨ k = j ∧ u.stream = t.stream ++ [Socket.carried packet]) := by
    rw [tcp?_updateTcp] at hu
    split at hu
    · rename_i hkj
      obtain ⟨t, ht, rfl⟩ := Option.map_eq_some_iff.mp hu
      refine ⟨t, ht, rfl, rfl, ?_⟩
      have hstream := t.stream_asyncWrite packet
      by_cases htakes : t.socket.Takes
      · rw [if_pos htakes] at hstream
        exact Or.inr ⟨hkj, hstream⟩
      · rw [if_neg htakes] at hstream
        exact Or.inl hstream
    · exact ⟨u, hu, rfl, rfl, Or.inl rfl⟩
  constructor
  · exact h.small
  · intro q j port hport hconn
    obtain ⟨t, ht, hq⟩ := h.linked q j port hport hconn
    rw [tcp?_updateTcp, ht]
    split
    · exact ⟨t.writeBestEffort packet, rfl, hq⟩
    · exact ⟨t, rfl, hq⟩
  · intro j u hu hs
    obtain ⟨t, ht, hp, hstate, hstream⟩ := hback j u hu
    rw [hstate] at hs
    rw [hp]
    rcases hstream with hstream | ⟨rfl, -⟩
    · rw [hstream]
      exact h.fresh j t ht hs
    · exact absurd hs (h.past t ht)
  · intro q j port u hport hconn hu hs m hm
    obtain ⟨t, ht, hp, hstate, hstream⟩ := hback j u hu
    rw [hstate] at hs
    rcases hstream with hstream | ⟨rfl, hstream⟩
    · rw [hstream] at hm
      exact h.counted q j port t hport hconn ht hs m hm
    · obtain ⟨htp, hnone, port', hport', hn⟩ := h.waits t ht hs
      obtain ⟨v, hv, hvq⟩ := h.linked q k port hport hconn
      cases ht.symm.trans hv
      cases htp.symm.trans hvq
      cases hport'.symm.trans hport
      rw [hstream, hpacket, (login_append hnone _).1, hnumber] at hm
      cases hm
      exact hn

theorem counted_acceptLogin (hscript : Restrained script) {response : LoginAcceptedPacket}
    (hsmall : response.nextSequenceNumber < 2 ^ 64)
    (h : ((s.log (.loginAccepted k response)).updateTcp k (·.setState .loggedIn)).Owed p k
      response.nextSequenceNumber) : (s.acceptLogin script faults k response).Counted := by
  have hcalls (q : Nat) (call : Call) (hcall : call ∈ script (.port q (.loginSuccess response))) :
      call.sets = false ∧ call.isMessage = false :=
    ⟨(hscript _ call hcall).1, (hscript _ call hcall).2 rfl⟩
  have htold := h.portCallback hcalls
  have hflagged := htold.minor k (f := (·.setHeartbeatTimerStopped false))
    fun _ => TcpConnection.minor_same rfl rfl rfl
  have hstarted := (owed_heartbeatTimer hscript).start faults.heartbeatTimer
    faults.heartbeatSchedule (fun h => h.minor k fun _ => TcpConnection.minor_same rfl rfl rfl)
    hflagged
  refine hstarted.respond hsmall ?_
  have hbuilt := Receiving.Built.filled LoginAcceptedPacket.packetType response.write
    (by rw [response.length_write]; decide)
  rw [response.length_write] at hbuilt
  exact Socket.carried_of_built hbuilt

theorem tcp?_seat (s : Acceptor) (p k j : Nat) (port : Port) (response : LoginAcceptedPacket) :
    (s.seat p k port response).tcp? j = if k = j then
      (s.tcp? j).map fun t => (t.setPort p port.handlerSet).setState .loggedIn else s.tcp? j := by
  have hset : (((s.updatePort p fun _ => port).updateTcp k (·.setPort p port.handlerSet)).log
      (.loginAccepted k response)).tcp? j =
        if k = j then (s.tcp? j).map (·.setPort p port.handlerSet) else s.tcp? j :=
    tcp?_updateTcp _ _ _ _
  rw [seat, tcp?_updateTcp, hset]
  split
  · rw [Option.map_map]
    rfl
  · rfl

/-- A port takes a connection that has not sent anything which counts. -/
theorem Counted.seat (h : s.Counted) {port port' : Port} {t : TcpConnection}
    (response : LoginAcceptedPacket) (ht : s.tcp? k = some t) (hs : t.state.state = .connected)
    (hport : s.ports[p]? = some port) (hconn : port'.connection = some k)
    (hsmall : port'.nextSequenceNumber < 2 ^ 64) :
    (s.seat p k port' response).Owed p k port'.nextSequenceNumber := by
  obtain ⟨hnoport, hnone⟩ := h.fresh k t ht hs
  have hports (q : Nat) : (s.seat p k port' response).ports[q]? =
      if p = q then s.ports[q]?.map fun _ => port' else s.ports[q]? := getElem?_updatePort s p q _
  have hseated (u : TcpConnection) (hu : (s.seat p k port' response).tcp? k = some u) :
      u.port = some p ∧ u.state.state = .loggedIn ∧ u.stream = t.stream := by
    rw [tcp?_seat, if_pos rfl, ht] at hu
    cases hu
    exact ⟨rfl, rfl, rfl⟩
  have hother (j : Nat) (hj : k ≠ j) : (s.seat p k port' response).tcp? j = s.tcp? j := by
    rw [tcp?_seat, if_neg hj]
  -- no other port points to it
  have hpointed (q j : Nat) (found : Port)
      (hq : (s.seat p k port' response).ports[q]? = some found) (hj : found.connection = some j) :
      p = q ∧ found = port' ∧ k = j ∨ p ≠ q ∧ k ≠ j ∧ s.ports[q]? = some found := by
    rw [hports] at hq
    split at hq
    · obtain ⟨was, -, rfl⟩ := Option.map_eq_some_iff.mp hq
      exact Or.inl ⟨‹p = q›, rfl, Option.some.inj (hconn.symm.trans hj)⟩
    · refine Or.inr ⟨‹¬p = q›, ?_, hq⟩
      rintro rfl
      obtain ⟨u, hu, huq⟩ := h.linked q k found hq hj
      cases ht.symm.trans hu
      rw [hnoport] at huq
      cases huq
  refine ⟨⟨?_, ?_, ?_, ?_⟩, ?_, ?_⟩
  · intro found hmem
    obtain ⟨q, hq⟩ := List.mem_iff_getElem?.mp hmem
    rw [hports] at hq
    split at hq
    · obtain ⟨was, -, rfl⟩ := Option.map_eq_some_iff.mp hq
      exact hsmall
    · exact h.small found (List.mem_of_getElem? hq)
  · intro q j found hq hj
    rcases hpointed q j found hq hj with ⟨rfl, -, rfl⟩ | ⟨-, hne, hfound⟩
    · rw [tcp?_seat, if_pos rfl, ht]
      exact ⟨_, rfl, rfl⟩
    · rw [hother j hne]
      exact h.linked q j found hfound hj
  · intro j u hu hstate
    by_cases hj : k = j
    · subst hj
      rw [(hseated u hu).2.1] at hstate
      cases hstate
    · rw [hother j hj] at hu
      exact h.fresh j u hu hstate
  · intro q j found u hq hj hu hstate m hm
    rcases hpointed q j found hq hj with ⟨rfl, -, rfl⟩ | ⟨-, hne, hfound⟩
    · rw [(hseated u hu).2.2, hnone] at hm
      cases hm
    · rw [hother j hne] at hu
      exact h.counted q j found u hfound hj hu hstate m hm
  · intro u hu
    rw [(hseated u hu).2.1]
    decide
  · intro u hu _
    obtain ⟨hup, -, hustream⟩ := hseated u hu
    rw [hustream]
    refine ⟨hup, hnone, port', ?_, rfl⟩
    rw [hports, if_pos rfl, hport]
    rfl

theorem counted_processLoginRequest (hscript : Restrained script) (data : Bytes)
    (h : s.Counted) : (s.processLoginRequest script faults k data).2.Counted := by
  have a := steady_counted hscript
  unfold processLoginRequest
  split
  · exact h
  · split
    · exact h
    · rename_i hs
      have hs : (s.tcpState k).state = .connected := not_not.mp hs
      rw [answerLogin_eq]
      have hstopped : (s.updateTcp k (·.updateLoginTimer LoginTimer.stop)).Counted :=
        h.minor k fun t _ => TcpConnection.minor_same rfl rfl rfl
      have hasked := a.acceptorCallback (k := k) (.loginRequest (.read data)) hstopped
      have hmoved : Moves calls (s.updateTcp k (·.updateLoginTimer LoginTimer.stop))
          ((s.updateTcp k (·.updateLoginTimer LoginTimer.stop)).acceptorCallback script k
            (.loginRequest (.read data))) := moves_acceptorCallback fun _ => trivial
      have hbearing := (hmoved.calls_bearing k).trans
        (bearing_updateTcp (k := k) k fun _ t _ => ⟨rfl, rfl⟩)
      have hs := (congrArg ConnectionState.state (tcpState_of_bearing hbearing)).trans hs
      clear hbearing hmoved hstopped h
      generalize (s.updateTcp k (·.updateLoginTimer LoginTimer.stop)).acceptorCallback script k
        (.loginRequest (.read data)) = asked at hasked hs
      split
      · rename_i response s' heq
        obtain ⟨p, port, freed, port', hport, hfreed, hconn, hle, rfl, rfl⟩ :=
          onLoginRequest_accepted heq
        obtain ⟨t, ht, hstate⟩ := tcp?_of_state hs (by decide)
        have hsmall : port'.nextSequenceNumber < 2 ^ 64 :=
          Nat.lt_of_le_of_lt hle (hasked.small port (List.mem_of_getElem? hport))
        apply counted_acceptLogin hscript (p := p) hsmall
        rcases hfreed with rfl | ⟨old, hold, rfl⟩
        · exact hasked.seat _ ht hstate hport hconn hsmall
        · -- the old connection is another one: this one is at no port yet
          have hne : old ≠ k := by
            rintro rfl
            obtain ⟨u, hu, hup⟩ := hasked.linked p old port hport hold
            cases ht.symm.trans hu
            rw [(hasked.fresh old t ht hstate).1] at hup
            cases hup
          have ht' : (asked.updateTcp old TcpConnection.supersede).tcp? k = some t := by
            rw [tcp?_updateTcp, if_neg hne, ht]
          have hsuperseded : (asked.updateTcp old TcpConnection.supersede).Counted :=
            hasked.minor old fun u _ => TcpConnection.minor_disconnect .superseded u
          exact hsuperseded.seat _ ht' hstate hport hconn hsmall
      · rename_i reject s' heq
        rw [onLoginRequest_rejected heq]
        exact a.rejectLogin reject hasked

/-! ## Runs -/

theorem steps_counted (k : Nat) : Steps k Counted :=
  fun _ hf _ h => h.minor k fun t _ => TcpConnection.minor_steps hf t

theorem enduring_counted (hscript : Restrained script) :
    Enduring TcpConnection.Uncounting TcpConnection.Minor script faults Counted where
  toSteady := steady_counted hscript
  aside _ _ hp hc _ _ h := h.same hp hc
  ended p _ h := h.updatePort p (fun _ => rfl) (fun _ hlt => hlt) fun _ _ _ _ _ _ _ => rfl
  freed _ _ _ ht h := h.freed ht
  login _ data _ h := counted_processLoginRequest hscript data h

theorem counted_acceptSuccess (hscript : Restrained script) (h : s.Counted) :
    (s.acceptSuccess script faults).Counted := by
  have a := steady_counted hscript
  apply a.acceptSuccess a a _ _ _ _ h
  · intro told limit _ h
    exact h.emplaced told.handlerSet limit
  · exact fun s' h => steps_counted _ _ (.inr rfl) s' h
  · exact fun _ _ _ =>
      TcpConnection.uncounted_of_type (WritePacket.packetType_ofData _ _) (by decide)
  · exact fun _ h => h.same rfl rfl

/-- From inside callbacks the user sets no number and sends no message between a login
and its response, and sets the number of a port only while nobody is logged in. -/
def Considerate (input : Event × Env) (s : Acceptor) : Prop :=
  Restrained input.2.calls ∧
    ∀ p n, input.1 = .call (.setNextSequenceNumber p n) → n < 2 ^ 64 ∧ s.Vacant p

theorem Idle.counted (h : s.Idle) (hsmall : ∀ port ∈ s.ports, port.nextSequenceNumber < 2 ^ 64) :
    s.Counted := by
  have hnone (k : Nat) (t : TcpConnection) : s.tcp? k ≠ some t := by
    simp [tcp?, h.connections]
  constructor
  · exact hsmall
  · intro p k port hport hconn
    rw [h.ports port (List.mem_of_getElem? hport)] at hconn
    cases hconn
  · intro k t ht
    exact absurd ht (hnone k t)
  · intro p k port t _ _ ht
    exact absurd ht (hnone k t)

theorem counted_run {s₀ : Acceptor} (h₀ : s₀.Idle)
    (hsmall : ∀ port ∈ s₀.ports, port.nextSequenceNumber < 2 ^ 64) {inputs : List (Event × Env)}
    (hrun : (system.restrict Considerate).Run s₀ inputs s) : s.Counted := by
  apply hrun.keeps (I := Counted) _ (h₀.counted hsmall)
  rintro ⟨event, env⟩ s ⟨-, hscript, hsets⟩ h
  apply (enduring_counted hscript).handle event _ _ (fun k _ => steps_counted k) _ h
  · rintro call rfl
    exact h.call fun p n hcall => hsets p n (hcall ▸ rfl)
  · rintro rfl
    exact counted_acceptSuccess hscript (h.same rfl rfl)
  · intro k _
    exact h.minor k fun _ _ => TcpConnection.minor_same rfl rfl rfl

/-- **A port numbers the messages that its connection accepts.** While somebody is
logged in through it, its next number is the one that follows from the packets
sent before; a message that is accepted then gets that number. -/
theorem port_counts_its_stream (s₀ : Acceptor) (h₀ : s₀.Idle)
    (hsmall : ∀ port ∈ s₀.ports, port.nextSequenceNumber < 2 ^ 64)
    (inputs : List (Event × Env)) (s : Acceptor)
    (hrun : (system.restrict Considerate).Run s₀ inputs s) (p k : Nat) (port : Port)
    (t : TcpConnection) (hport : s.ports[p]? = some port) (hconn : port.connection = some k)
    (ht : s.tcp? k = some t) (hs : t.state.state = .loggedIn) (n : Nat)
    (hn : implied t.stream = some n) :
    port.nextSequenceNumber = n ∧
      ∀ data : Bytes, data.length ≤ 65534 → (s.sendMessage p (.bytes data)).1 = .none →
        ∃ t', (s.sendMessage p (.bytes data)).2.tcp? k = some t' ∧
          numbered t'.stream = numbered t.stream ++ [(n, data)] ∧
          (s.sendMessage p (.bytes data)).2.ports[p]? =
            some { port with nextSequenceNumber := (n + 1) % 2 ^ 64 } := by
  have hcounted := counted_run h₀ hsmall hrun
  have hnumber := hcounted.counted p k port t hport hconn ht hs n hn
  refine ⟨hnumber, fun data hlength hnone => ?_⟩
  rcases s.sendMessage_cases p (.bytes data) with ⟨herror, -⟩ | ⟨-, bytes, j, found, u, heq, hsends⟩
  · exact absurd hnone herror
  cases heq
  -- the connection that takes the message is the one of the port
  cases hport.symm.trans hsends.found
  cases hconn.symm.trans hsends.connection
  cases ht.symm.trans hsends.tcp
  obtain ⟨hport', t', ht', -, -, hstream⟩ := hsends.counts
  have hdata : (messagePacket data).payloadData = data := by
    have hbuilt := Receiving.Built.ofData SequencedDataPacket.packetType data hlength
    exact congrArg Prod.snd (Socket.carried_of_built hbuilt)
  refine ⟨t', ht', ?_, ?_⟩
  · rw [hstream, hdata]
    exact (data_append hn data).2
  · rw [hport', ← hnumber]
    rfl

def userPort : Port := { username := [117], password := [112] }

def oneUser : Acceptor := { session := [115], ports := [userPort] }

/-- Somebody logs in, and is sent two messages. -/
def logsInAndHears : List Event :=
  [.call .start, .posted 0, .acceptCompleted none,
    .headerCompleted 0 (.ok [0, 47, LoginRequestPacket.packetType]),
    .payloadCompleted 0 (.ok (LoginRequestPacket.write ⟨[117], [112], [], 0⟩)),
    .call (.sendMessage 0 (.bytes [104])), .call (.sendMessage 0 (.bytes [105]))]

theorem port_counts_its_stream_two :
    let inputs := logsInAndHears.map fun event => (event, Env.plain)
    let s := system.final oneUser inputs
    ∃ t, s.tcp? 0 = some t ∧ numbered t.stream = [(1, [104]), (2, [105])] ∧
      ∃ t', (s.sendMessage 0 (.bytes [106])).2.tcp? 0 = some t' ∧
        numbered t'.stream = [(1, [104]), (2, [105])] ++ [(3, [106])] := by
  intro inputs s
  have hidle : oneUser.Idle := ⟨rfl, rfl, by simp [oneUser, userPort]⟩
  have hrun : (system.restrict Considerate).Run oneUser inputs s := by
    apply (System.run_of_admits (by decide +kernel)).restrict
    intro input hinput u
    obtain ⟨event, hevent, rfl⟩ := List.mem_map.mp hinput
    refine ⟨fun cb call hcall => ?_, ?_⟩
    · cases hcall
    · rintro p n rfl
      simp [logsInAndHears] at hevent
  have hs : (s.tcpState 0).state = .loggedIn := by decide +kernel
  obtain ⟨t, ht, hloggedIn⟩ := tcp?_of_state hs (by decide)
  have hheard : (s.tcp? 0).map (fun t => (numbered t.stream, implied t.stream)) =
      some ([(1, [104]), (2, [105])], some 3) := by
    decide +kernel
  rw [ht, Option.map_some, Option.some.injEq, Prod.mk.injEq] at hheard
  have hport : s.ports[0]? = some { userPort with
      nextSequenceNumber := 3
      connection := some 0 } := by
    decide +kernel
  obtain ⟨-, hsent⟩ := port_counts_its_stream oneUser hidle (by simp [oneUser, userPort]) inputs s hrun 0 0 _
    t hport rfl ht hloggedIn 3 hheard.2
  obtain ⟨t', ht', hnumbered, -⟩ := hsent [106] (by decide) (by decide +kernel)
  refine ⟨t, ht, hheard.1, t', ht', ?_⟩
  rw [hnumbered, hheard.1]

end Acceptor

end SoupBin.ServerSide
