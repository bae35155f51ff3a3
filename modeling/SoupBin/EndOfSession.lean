import SoupBin.ServerSockets

/-!
# The End of Session packet

When the session of a port ends, the packet is offered to the connection of the
port, once.
-/

namespace SoupBin

/-- The packet tells the client that the session has ended. -/
def WritePacket.endsSession (packet : WritePacket) : Bool :=
  packet.packetType == EndOfSessionPacket.packetType

namespace Socket

variable {s : Socket} {packet : WritePacket}

/-- The End of Session packets that are queued or have been sent. -/
def endings (s : Socket) : Nat := s.acceptedPackets.countP WritePacket.endsSession

theorem endings_taken (h : s.Takes) (hends : packet.endsSession = true) :
    (s.asyncWrite packet).2.endings = s.endings + 1 := by
  rw [endings, (asyncWrite_taken h packet).2.2, List.countP_append, endings]
  simp [hends]

theorem endings_refused (h : ¬s.Takes) (packet : WritePacket) :
    (s.asyncWrite packet).2.endings = s.endings := by
  rw [endings, (asyncWrite_refused h packet).2.2, endings]

/-- Other packets are not counted. -/
theorem endings_other (s : Socket) (hends : packet.endsSession = false) :
    (s.asyncWrite packet).2.endings = s.endings := by
  by_cases h : s.Takes
  · rw [endings, (asyncWrite_taken h packet).2.2, List.countP_append, endings]
    simp [hends]
  · exact endings_refused h packet

end Socket

namespace ServerSide

/-! ## Tcp_connection -/

namespace TcpConnection

variable {allowed : Allowed} {t u : TcpConnection} {n : Nat}

/-- What the connection of the port is sent when the session ends. -/
def offerEnd (t : TcpConnection) : TcpConnection :=
  (t.sendPacket (.ofType EndOfSessionPacket.packetType)).2

/-- `n` End of Session packets have been taken for a connection that has logged in on `p`. -/
structure Settled (p n : Nat) (t : TcpConnection) : Prop where
  passed : t.state.state ≠ .connected
  port : t.port = some p
  endings : t.socket.endings = n

theorem Act.endings (hends : ¬allowed.ends)
    (hsocket : ∀ f, allowed.socket f → Socket.Handler.Internal f ∨ f = Socket.asyncRead)
    (ha : Act allowed t u) : u.socket.endings = t.socket.endings := by
  induction ha with
  | trans _ _ ih₁ ih₂ => exact ih₂.trans ih₁
  | @socket f t hf =>
    show ((f t.socket).acceptedPackets.countP _) = _
    rcases hsocket _ hf with hf | rfl
    · rw [hf.accepted, Socket.endings]
    · rw [Socket.asyncRead_accepted, Socket.endings]
  | write packet t hpacket =>
    apply Socket.endings_other
    exact beq_eq_false_iff_ne.mpr fun htype => hends (hpacket htype)
  | debug text t =>
    unfold TcpConnection.sendDebugPacket
    split
    · rfl
    · apply Socket.endings_other
      rw [WritePacket.endsSession, WritePacket.packetType_ofData]
      decide
  | disconnect reason t =>
    rcases t.disconnect_eq reason with ⟨heq, -⟩ | ⟨-, hsocket, -⟩
    · rw [heq]
    · rw [hsocket, Socket.endings, Socket.close_accepted, Socket.endings]
  | _ => rfl

theorem Settled.act {p : Nat} (h : t.Settled p n) (hends : ¬allowed.ends)
    (hsocket : ∀ f, allowed.socket f → Socket.Handler.Internal f ∨ f = Socket.asyncRead)
    (ha : Act allowed t u) : u.Settled p n := by
  refine ⟨?_, ha.port.trans h.port, (ha.endings hends hsocket).trans h.endings⟩
  rcases ha.state with hs | hs | ⟨hs, -⟩
  · rw [hs]
    exact h.passed
  · simp [hs]
  · exact absurd hs h.passed

theorem offerEnd_loggedIn (hs : t.state.state = .loggedIn) :
    t.offerEnd.socket = (t.socket.asyncWrite (.ofType EndOfSessionPacket.packetType)).2 := by
  unfold offerEnd sendPacket
  rw [if_neg (by simp [hs])]
  dsimp only
  split <;> rfl

theorem offerEnd_other (hs : t.state.state ≠ .loggedIn) : t.offerEnd = t := by
  unfold offerEnd sendPacket
  rw [if_pos hs]

theorem offerEnd_bearing (t : TcpConnection) :
    t.offerEnd.state = t.state ∧ t.offerEnd.port = t.port := t.bearing_sendPacket _

theorem endings_offerEnd (t : TcpConnection) :
    t.offerEnd.socket.endings = t.socket.endings +
      if t.state.state = .loggedIn ∧ t.socket.Takes then 1 else 0 := by
  by_cases hs : t.state.state = .loggedIn
  · rw [t.offerEnd_loggedIn hs]
    by_cases htakes : t.socket.Takes
    · rw [if_pos ⟨hs, htakes⟩, Socket.endings_taken htakes rfl]
    · rw [if_neg fun h => htakes h.2, Socket.endings_refused htakes]
      rfl
  · rw [if_neg fun h => hs h.1, t.offerEnd_other hs]
    rfl

end TcpConnection

/-! ## Acceptor -/

namespace Acceptor

variable {R : Rules} {asked : Nat → LoginRequestPacket → Prop} {s s' : Acceptor}
  {t : TcpConnection} {p q k n : Nat}

/-- The session of the port `p` has ended. -/
def Ended (p : Nat) (s : Acceptor) : Prop :=
  ∃ port, s.ports[p]? = some port ∧ port.hasSessionEnded = true

theorem Ended.updatePort (h : s.Ended p) {f : Port → Port}
    (hf : ∀ port, s.ports[q]? = some port → port.hasSessionEnded = true →
      (f port).hasSessionEnded = true) : (s.updatePort q f).Ended p := by
  obtain ⟨port, hport, hended⟩ := h
  refine ⟨if q = p then f port else port, ?_, ?_⟩
  · simp [Acceptor.updatePort, List.getElem?_modify, hport]
  · split
    · rename_i hq
      exact hf port (hq ▸ hport) hended
    · exact hended

/-- No session is taken up again. -/
theorem Moves.ended (hm : Moves R s s') (h : s.Ended p) : s'.Ended p := by
  induction hm with
  | refl s => exact h
  | trans _ _ ih₁ ih₂ => exact ih₂ (ih₁ h)
  | aside ha =>
    rw [Ended, ha.ports]
    exact h
  | port _ hf => exact h.updatePort fun port _ => hf port
  | added port _ =>
    obtain ⟨port', hport', hended⟩ := h
    have hlt := (List.getElem?_eq_some_iff.mp hport').1
    exact ⟨port', (List.getElem?_append_left hlt).trans hport', hended⟩
  | @seat s q _ port port' _ _ _ _ _ hport _ _ hsame _ _ _ =>
    have hseated : (s.updatePort q fun _ => port').Ended p := by
      apply h.updatePort
      intro other hother hended
      cases hport.symm.trans hother
      exact hsame.trans hended
    exact hseated
  | @freed s j t _ _ _ =>
    unfold free
    cases t.port with
    | none => exact h
    | some q =>
      have hclosed : (s.portOnClosed q j).Ended p := by
        apply h.updatePort
        intro port _ hended
        split
        · exact hended
        · exact hended
      exact hclosed
  | _ => exact h

/-- No End of Session packet has been taken for the connection, or one has been and
the session of its port has ended. -/
def Fair (s : Acceptor) (t : TcpConnection) : Prop :=
  t.socket.endings = 0 ∨ ∃ p, s.Ended p ∧ t.Settled p 1

/-- The event ends no session. -/
theorem fair_moves (hends : ¬R.ends)
    (hsocket : ∀ f, R.socket f → Socket.Handler.Internal f ∨ f = Socket.asyncRead)
    (hm : Moves R s s') (h : s.Each fun _ => s.Fair) : s'.Each fun _ => s'.Fair := by
  apply hm.each (n := 0) (P := fun _ => s'.Fair)
  · intro _
    constructor
    · intro t u ha ht
      rcases ht with hnone | ⟨p, hp, hsettled⟩
      · exact Or.inl ((ha.endings hends hsocket).trans hnone)
      · exact Or.inr ⟨p, hp, hsettled.act hends hsocket ha⟩
    · intro t p handlerSet hs ht
      rcases ht with hnone | ⟨_, _, hsettled⟩
      · exact Or.inl hnone
      · exact absurd hs hsettled.passed
  · exact fun _ _ _ _ => Or.inl rfl
  · exact Nat.zero_le _
  · intro j t ht
    rcases h j t ht with hnone | ⟨p, hp, hsettled⟩
    · exact Or.inl hnone
    · exact Or.inr ⟨p, hm.ended hp, hsettled⟩

/-- The event ends no session. -/
theorem settled_moves (hends : ¬R.ends)
    (hsocket : ∀ f, R.socket f → Socket.Handler.Internal f ∨ f = Socket.asyncRead)
    (hm : Moves R s s') (hk : k < s.connections.length)
    (h : ∀ t, s.tcp? k = some t → t.Settled p n) : ∀ t, s'.tcp? k = some t → t.Settled p n := by
  have heach : s'.Each fun j t => j = k → t.Settled p n := by
    apply hm.each (n := s.connections.length) (P := fun j t => j = k → t.Settled p n)
    · intro j
      constructor
      · exact fun ha hsettled hj => (hsettled hj).act hends hsocket ha
      · exact fun _ _ hs hsettled hj => absurd hs (hsettled hj).passed
    · rintro j hj _ _ rfl
      exact absurd hk (by omega)
    · exact Nat.le_refl _
    · rintro j t ht rfl
      exact h t ht
  exact fun t ht => heach k t ht rfl

/-! ### Ending a session -/

/-- The port `p` offers the connection `k` an End of Session packet when its session ends. -/
def offers (p k : Nat) (s : Acceptor) : Bool :=
  s.ports[p]?.any fun port => !port.hasSessionEnded && port.connection == some k

theorem offers_eq_true : s.offers p k = true ↔ ∃ port, s.ports[p]? = some port ∧
    port.hasSessionEnded = false ∧ port.connection = some k := by
  cases hport : s.ports[p]? <;> simp [offers, hport]

theorem ports_endSessionOf (q : Nat) (s : Acceptor) :
    (s.endSessionOf q).ports = s.ports.modify q Port.setSessionEnded := by
  unfold endSessionOf
  cases hport : s.ports[q]? with
  | none =>
    dsimp only
    rw [List.modify_eq_self (List.getElem?_eq_none_iff.mp hport)]
  | some port =>
    dsimp only
    split
    · rename_i hended
      have hsame : port.setSessionEnded = port := by
        cases port
        cases hended
        rfl
      apply List.ext_getElem?
      intro j
      rw [List.getElem?_modify]
      split
      · rename_i hj
        rw [← hj, hport]
        exact congrArg some hsame.symm
      · simp
    · rcases sendWith_eq (·.sendPacket (.ofType EndOfSessionPacket.packetType)) port.connection
        (s.updatePort q Port.setSessionEnded) with heq | ⟨k, -, heq⟩
      · rw [heq]
        rfl
      · rw [heq]
        rfl

theorem ended_endSessionOf {port : Port} (hport : s.ports[q]? = some port) :
    (s.endSessionOf q).Ended q := by
  refine ⟨port.setSessionEnded, ?_, rfl⟩
  rw [ports_endSessionOf, List.getElem?_modify, hport]
  simp

theorem tcp?_endSessionOf (q : Nat) (s : Acceptor) (k : Nat) : (s.endSessionOf q).tcp? k =
    (s.tcp? k).map fun t => if s.offers q k = true then t.offerEnd else t := by
  unfold endSessionOf
  cases hport : s.ports[q]? with
  | none => simp [offers, hport]
  | some port =>
    dsimp only
    split
    · rename_i hended
      simp [offers, hport, hended]
    · rename_i hended
      have hoffers (j : Nat) : s.offers q j = (port.connection == some j) := by
        simp [offers, hport, Bool.eq_false_iff.mpr hended]
      have hmarked (j : Nat) : (s.updatePort q Port.setSessionEnded).tcp? j = s.tcp? j := rfl
      rw [hoffers]
      cases port.connection with
      | none => simp [sendWith, hmarked]
      | some j =>
        unfold sendWith
        by_cases hj : j = k
        · subst hj
          cases ht : s.tcp? j <;> simp [hmarked, ht, tcp?_updateTcp, TcpConnection.offerEnd]
        · dsimp only
          split
          · simp [hj, hmarked]
          · simp [tcp?_updateTcp, hj, hmarked]

theorem offers_endSessionOf (q : Nat) (s : Acceptor) :
    (s.endSessionOf q).offers p k = (decide (q ≠ p) && s.offers p k) := by
  rw [offers, offers, ports_endSessionOf, List.getElem?_modify]
  by_cases hq : q = p
  · cases s.ports[p]? <;> simp [hq, Port.setSessionEnded]
  · simp [hq]

/-- The user calls nothing, and sessions end. -/
def ending : Rules := { calls with ends := True }

theorem Moves.ending_joined (hm : Moves ending s s') (h : s.Joined asked) : s'.Joined asked := by
  apply hm.joined _ h
  exact fun _ _ hl => hl.elim

theorem Joined.endSessionOf (h : s.Joined asked) (q : Nat) : (s.endSessionOf q).Joined asked :=
  (moves_endSessionOf trivial q).ending_joined h

/-- Only the port of a connection offers it anything. -/
theorem Joined.offers (h : s.Joined asked) (ht : s.tcp? k = some t) (hq : s.offers q k = true) :
    t.port = some q := by
  obtain ⟨port, hport, -, hk⟩ := offers_eq_true.mp hq
  obtain ⟨u, hu, huq⟩ := h.port q k port hport hk
  cases ht.symm.trans hu
  exact huq

/-- The sessions of some ports end, one after the other. -/
theorem Joined.endSessionsOf (hjoined : s.Joined asked) (k : Nat) (ports : List Nat) :
    (ports.foldl (fun s q => s.endSessionOf q) s).tcp? k =
      (s.tcp? k).map fun t => if ports.any (s.offers · k) = true then t.offerEnd else t := by
  induction ports generalizing s with
  | nil => simp
  | cons q ports ih =>
    rw [List.foldl_cons, ih (hjoined.endSessionOf q), tcp?_endSessionOf]
    cases ht : s.tcp? k with
    | none => rfl
    | some t =>
      simp only [Option.map_some, List.any_cons]
      by_cases hq : s.offers q k = true
      · have hno : ports.any ((s.endSessionOf q).offers · k) = false := by
          rw [List.any_eq_false]
          intro p _ hp
          simp only [offers_endSessionOf, Bool.and_eq_true, decide_eq_true_eq] at hp
          have heq := (hjoined.offers ht hq).symm.trans (hjoined.offers ht hp.2)
          exact hp.1 (Option.some.inj heq)
        simp [hq, hno]
      · have hsame (p : Nat) : (s.endSessionOf q).offers p k = s.offers p k := by
          rw [offers_endSessionOf]
          by_cases hqp : q = p
          · simp [← hqp, hq]
          · simp [hqp]
        simp [hq, hsame]

theorem ended_endSessionsOf {ports : List Nat} (hp : p ∈ ports) (hlt : p < s.ports.length) :
    (ports.foldl (fun s q => s.endSessionOf q) s).Ended p := by
  induction ports generalizing s with
  | nil => cases hp
  | cons q ports ih =>
    rw [List.foldl_cons]
    by_cases hq : q = p
    · have hended := ended_endSessionOf (List.getElem?_eq_getElem (hq ▸ hlt))
      exact (moves_endSessionsOf (R := ending) trivial ports).ended (hq ▸ hended)
    · have hmem : p ∈ ports := by
        rcases List.mem_cons.mp hp with heq | hmem
        · exact absurd heq.symm hq
        · exact hmem
      apply ih hmem
      rw [ports_endSessionOf, List.length_modify]
      exact hlt

theorem ended_endSessions (hlt : p < s.ports.length) : s.endSessions.Ended p :=
  ended_endSessionsOf (List.mem_range.mpr hlt) hlt

/-- The session of every port ends. -/
theorem Joined.endSessions (hjoined : s.Joined asked) {t' : TcpConnection}
    (ht' : s.endSessions.tcp? k = some t') : ∃ t, s.tcp? k = some t ∧
      ((∃ p, s.offers p k = true ∧ t.port = some p) ∧ t' = t.offerEnd ∨
        (∀ p, s.offers p k = false) ∧ t' = t) := by
  rw [Acceptor.endSessions, hjoined.endSessionsOf] at ht'
  obtain ⟨t, ht, rfl⟩ := Option.map_eq_some_iff.mp ht'
  refine ⟨t, ht, ?_⟩
  split
  · rename_i hany
    obtain ⟨p, -, hp⟩ := List.any_eq_true.mp hany
    exact Or.inl ⟨⟨p, hp, hjoined.offers ht hp⟩, rfl⟩
  · rename_i hany
    refine Or.inr ⟨fun p => ?_, rfl⟩
    by_contra hp
    have hp : s.offers p k = true := by simpa using hp
    obtain ⟨port, hport, -⟩ := offers_eq_true.mp hp
    have hlt := (List.getElem?_eq_some_iff.mp hport).1
    exact hany (List.any_eq_true.mpr ⟨p, List.mem_range.mpr hlt, hp⟩)

theorem Ended.not_offers (h : s.Ended p) (k : Nat) : s.offers p k = false := by
  obtain ⟨port, hport, hended⟩ := h
  simp [offers, hport, hended]

theorem Ended.fair_offerEnd (h : s.Ended p) (hp : t.port = some p)
    (hnone : t.socket.endings = 0) : s.Fair t.offerEnd := by
  by_cases htaken : t.state.state = .loggedIn ∧ t.socket.Takes
  · refine Or.inr ⟨p, h, ?_, t.offerEnd_bearing.2.trans hp, ?_⟩
    · rw [t.offerEnd_bearing.1, htaken.1]
      decide
    · rw [t.endings_offerEnd, hnone, if_pos htaken]
  · left
    rw [t.endings_offerEnd, hnone, if_neg htaken]

/-! ### Events -/

theorem handle_endSession {i : Nat} (hi : s.posted[i]? = some .endSession)
    (hstarted : s.started = true) (env : Env) : s.handle env (.posted i) =
      ({ s with posted := s.posted.eraseIdx i } : Acceptor).endSessions := by
  simp only [handle, hi, runPosted, hstarted, ↓reduceIte]

theorem Joined.handle_endSession (hjoined : s.Joined asked) {i : Nat}
    (hi : s.posted[i]? = some .endSession) (hstarted : s.started = true) (env : Env)
    {t' : TcpConnection} (ht' : (s.handle env (.posted i)).tcp? k = some t') :
    ∃ t, s.tcp? k = some t ∧
      ((∃ p, s.offers p k = true ∧ t.port = some p) ∧ t' = t.offerEnd ∨
        (∀ p, s.offers p k = false) ∧ t' = t) := by
  rw [Acceptor.handle_endSession hi hstarted] at ht'
  have hmoves : Moves ending s { s with posted := s.posted.eraseIdx i } := .quiet rfl rfl rfl
  exact (hmoves.ending_joined hjoined).endSessions ht'

section
variable (hjoined : s.Joined asked) (env : Env) {event : Event} (hready : s.ready event = true)
include hjoined hready

theorem Joined.fair_handle (h : s.Each fun _ => s.Fair) :
    (s.handle env event).Each fun _ => (s.handle env event).Fair := by
  have hmoves := moves_handle env hready fun _ => hjoined.unpointed
  by_cases hends : (s.rules env event).ends
  · obtain ⟨i, rfl, hi, hstarted⟩ := hends
    intro k t' ht'
    obtain ⟨t, ht, ⟨⟨p, hoffers, hp⟩, rfl⟩ | ⟨-, rfl⟩⟩ :=
      hjoined.handle_endSession hi hstarted env ht'
    · rcases h k t ht with hnone | ⟨q, hq, hsettled⟩
      · obtain ⟨port, hport, -⟩ := offers_eq_true.mp hoffers
        apply Ended.fair_offerEnd _ hp hnone
        rw [Acceptor.handle_endSession hi hstarted]
        exact ended_endSessions (List.getElem?_eq_some_iff.mp hport).1
      · have heq : q = p := Option.some.inj (hsettled.port.symm.trans hp)
        rw [← heq, hq.not_offers] at hoffers
        cases hoffers
    · rcases h k t' ht with hnone | ⟨q, hq, hsettled⟩
      · exact Or.inl hnone
      · exact Or.inr ⟨q, hmoves.ended hq, hsettled⟩
  · exact fair_moves hends (fun f hf => hf.2) hmoves h

theorem Joined.settled_handle (hended : s.Ended p) (hk : k < s.connections.length)
    (h : ∀ t, s.tcp? k = some t → t.Settled p n) :
    ∀ t, (s.handle env event).tcp? k = some t → t.Settled p n := by
  have hmoves := moves_handle env hready fun _ => hjoined.unpointed
  by_cases hends : (s.rules env event).ends
  · obtain ⟨i, rfl, hi, hstarted⟩ := hends
    intro t' ht'
    obtain ⟨t, ht, ⟨⟨q, hoffers, hq⟩, rfl⟩ | ⟨-, rfl⟩⟩ :=
      hjoined.handle_endSession hi hstarted env ht'
    · have heq : p = q := Option.some.inj ((h t ht).port.symm.trans hq)
      rw [← heq, hended.not_offers] at hoffers
      cases hoffers
    · exact h t' ht
  · exact settled_moves hends (fun f hf => hf.2) hmoves hk h

end

/-! ## Every run -/

theorem fair_run {s₀ : Acceptor} (h₀ : s₀.Idle) {inputs : List (Event × Env)}
    (hrun : system.Run s₀ inputs s) : s.Each fun _ => s.Fair := by
  induction hrun with
  | refl =>
    intro k t ht
    simp [tcp?, h₀.connections] at ht
  | step input hrun hready ih => exact (joined_run h₀ hrun).fair_handle input.2 hready ih

/-- Once the session of its port has ended a connection is offered no other packet. -/
theorem Joined.settled_run (hjoined : s.Joined asked) {later : List (Event × Env)}
    (hlater : system.Run s later s') (hended : s.Ended p) (hk : k < s.connections.length)
    (h : ∀ t, s.tcp? k = some t → t.Settled p n) : ∀ t, s'.tcp? k = some t → t.Settled p n := by
  have hkept : s'.Joined (fun _ _ => True) ∧ s'.Ended p ∧ k < s'.connections.length ∧
      ∀ t, s'.tcp? k = some t → t.Settled p n := by
    apply hlater.keeps (I := fun s => s.Joined (fun _ _ => True) ∧ s.Ended p ∧
      k < s.connections.length ∧ ∀ t, s.tcp? k = some t → t.Settled p n)
    · rintro input s hready ⟨hjoined, hended, hk, h⟩
      have hmoves := moves_handle input.2 hready fun _ => hjoined.unpointed
      exact ⟨hmoves.joined (fun _ _ _ => trivial) hjoined, hmoves.ended hended,
        Nat.lt_of_lt_of_le hk hmoves.known, hjoined.settled_handle input.2 hready hended hk h⟩
    · exact ⟨hjoined.mono fun _ _ _ => trivial, hended, hk, h⟩
  exact hkept.2.2.2

/-- **At most one End of Session packet, at one attempt.** In every run no connection
has more than one that is queued or has been sent. When the session of a port
ends, the queue of the connection that is logged in on it has room for the packet
or has none: from then on, whatever follows, the connection has exactly one that
is queued or has been sent, or none. -/
theorem one_end_of_session (s₀ : Acceptor) (h₀ : s₀.Idle) (inputs : List (Event × Env))
    (s : Acceptor) (hrun : system.Run s₀ inputs s) :
    (∀ (k : Nat) (t : TcpConnection), s.tcp? k = some t → t.socket.endings ≤ 1) ∧
    ∀ (i : Nat) (env : Env) (p k : Nat) (port : Port) (t : TcpConnection),
      s.posted[i]? = some .endSession → s.started = true → s.ports[p]? = some port →
      port.hasSessionEnded = false → s.tcp? k = some t → t.port = some p →
      t.state.state = .loggedIn →
      ∀ (later : List (Event × Env)) (s' : Acceptor) (t' : TcpConnection),
        system.Run (s.handle env (.posted i)) later s' → s'.tcp? k = some t' →
        t'.socket.endings =
          if t.socket.writePackets.length = t.socket.writePacketsLimit then 0 else 1 := by
  constructor
  · intro k t ht
    rcases fair_run h₀ hrun k t ht with hnone | ⟨p, -, hsettled⟩
    · omega
    · exact Nat.le_of_eq hsettled.endings
  · intro i env p k port t hi hstarted hport hopen ht hp hs later s' t' hlater ht'
    have hjoined := joined_run h₀ hrun
    have hready : s.ready (.posted i) = true := by
      simpa [ready] using (List.getElem?_eq_some_iff.mp hi).1
    have hmoves := moves_handle env hready fun _ => hjoined.unpointed
    have hended : (s.handle env (.posted i)).Ended p := by
      rw [handle_endSession hi hstarted]
      exact ended_endSessions (List.getElem?_eq_some_iff.mp hport).1
    have hnone : t.socket.endings = 0 := by
      rcases fair_run h₀ hrun k t ht with hnone | ⟨q, ⟨port', hport', hended'⟩, hsettled⟩
      · exact hnone
      · cases hsettled.port.symm.trans hp
        cases hport.symm.trans hport'
        exact absurd (hopen.symm.trans hended') (by decide)
    have hoffers : s.offers p k = true := by
      obtain ⟨q, port', _, hq, hport', hk, -⟩ := hjoined.loggedIn k t ht hs
      cases hq.symm.trans hp
      cases hport.symm.trans hport'
      exact offers_eq_true.mpr ⟨port, hport, hopen, hk⟩
    have hlt := lt_of_tcp ht
    have hsettled : ∀ u, (s.handle env (.posted i)).tcp? k = some u → u.Settled p
        (if t.socket.writePackets.length = t.socket.writePacketsLimit then 0 else 1) := by
      intro u hu
      obtain ⟨t₀, ht₀, ⟨-, rfl⟩ | ⟨hno, -⟩⟩ := hjoined.handle_endSession hi hstarted env hu
      · cases ht.symm.trans ht₀
        refine ⟨?_, t.offerEnd_bearing.2.trans hp, ?_⟩
        · rw [t.offerEnd_bearing.1, hs]
          decide
        · have htakes : t.socket.Takes ↔
              ¬t.socket.writePackets.length = t.socket.writePacketsLimit := by
            refine ⟨And.right, fun hroom => ⟨?_, hroom⟩⟩
            by_contra hclosing
            have hdown := (intact_run h₀ hrun k t ht).closed (by simpa using hclosing)
            rw [hs] at hdown
            cases hdown
          rw [t.endings_offerEnd, hnone]
          simp only [hs, htakes, true_and, Nat.zero_add]
          split <;> simp_all
      · rw [hno p] at hoffers
        cases hoffers
    have hafter : (s.handle env (.posted i)).Joined fun _ _ => True :=
      hmoves.joined (fun _ _ _ => trivial) (hjoined.mono fun _ _ _ => trivial)
    exact (hafter.settled_run hlater hended (Nat.lt_of_lt_of_le hlt hmoves.known) hsettled
      t' ht').endings

/-- A client logs in, and the session is ended before its login has been answered. -/
def endAtLogin (limit : Nat) : List (Event × Env) :=
  let events : List Event := [.call (.setWritePacketsLimit limit), .call .start, .posted 0,
    .acceptCompleted none, .headerCompleted 0 (.ok [0, 47, LoginRequestPacket.packetType]),
    .payloadCompleted 0 (.ok (LoginRequestPacket.write ⟨[117], [112], [], 0⟩)), .call .endSession]
  events.map fun event => (event, .plain)

theorem one_end_of_session_sent :
    let s := system.final onePort (endAtLogin 100)
    let s' := system.final (s.handle .plain (.posted 0)) [(.writeCompleted 0 (.ok 33), .plain)]
    (s'.tcp? 0).map (·.socket.endings) = some 1 := by
  intro s s'
  have hidle : onePort.Idle := ⟨rfl, rfl, by simp [onePort]⟩
  have hrun : system.Run onePort (endAtLogin 100) s := System.run_of_admits (by decide +kernel)
  have hlater : system.Run (s.handle .plain (.posted 0))
      [(.writeCompleted 0 (.ok 33), .plain)] s' := System.run_of_admits (by decide +kernel)
  have hport : s.ports[0]? =
      some { username := [117], password := [112], connection := some 0 } := by decide +kernel
  have hs : (s.tcpState 0).state = .loggedIn := by decide +kernel
  have hs' : (s'.tcpState 0).state = .loggedIn := by decide +kernel
  obtain ⟨t, ht, hstate⟩ := tcp?_of_state hs (by decide)
  obtain ⟨t', ht', -⟩ := tcp?_of_state hs' (by decide)
  have hsame : (s.tcp? 0).map (·.port) = some (some 0) ∧ (s.tcp? 0).map (fun t =>
      decide (t.socket.writePackets.length = t.socket.writePacketsLimit)) = some false := by
    decide +kernel
  simp only [ht, Option.map_some, Option.some.injEq] at hsame
  have hone := (one_end_of_session onePort hidle _ s hrun).2 0 .plain 0 0 _ t (by decide +kernel)
    (by decide +kernel) hport rfl ht hsame.1 hstate _ s' t' hlater ht'
  rw [if_neg (of_decide_eq_false hsame.2)] at hone
  rw [ht', Option.map_some, hone]

/-- The packet is lost when the queue is full. -/
theorem end_of_session_lost :
    ∃ s t, system.Run onePort (endAtLogin 1 ++ [(.posted 0, .plain),
        (.writeCompleted 0 (.ok 33), .plain)]) s ∧ s.Ended 0 ∧ s.tcp? 0 = some t ∧
      t.port = some 0 ∧ t.state.state = .loggedIn ∧ t.socket.writePackets = [] ∧
        t.socket.endings = 0 := by
  have hports : (system.final onePort (endAtLogin 1 ++ [(.posted 0, .plain),
      (.writeCompleted 0 (.ok 33), .plain)])).ports[0]?.any (·.hasSessionEnded) = true := by
    decide +kernel
  have htcp : ((system.final onePort (endAtLogin 1 ++ [(.posted 0, .plain),
      (.writeCompleted 0 (.ok 33), .plain)])).tcp? 0).any (fun t => t.port = some 0 ∧
        t.state.state = .loggedIn ∧ t.socket.writePackets = [] ∧ t.socket.endings = 0) = true := by
    decide +kernel
  obtain ⟨t, ht, hfacts⟩ := (Option.any_eq_true _ _).mp htcp
  obtain ⟨port, hport, hended⟩ := (Option.any_eq_true _ _).mp hports
  exact ⟨_, t, System.run_of_admits (by decide +kernel), ⟨port, hport, hended⟩, ht,
    of_decide_eq_true hfacts⟩

end Acceptor
end ServerSide
end SoupBin
