import SoupBin.Lifetimes
import SoupBin.ServerLinks
import SoupBin.SocketSettled

/-!
# Failures of an acceptor's connections

A `Tcp_connection` tells the handler that something has failed, and then is
disconnected, without a look whether it has been before. What a handler is told
does not name the connection, so failures are counted by the events they come from.
-/

namespace SoupBin.ServerSide

open Lifetimes

/-- The handler of a connection is told that something has failed. -/
def Entry.fails : Entry → Bool
  | .called _ (.acceptor (.transportError _ _)) | .called _ (.acceptor (.protocolViolation _))
  | .called _ (.port _ (.transportError _ _)) | .called _ (.port _ (.protocolViolation _)) => true
  | _ => false

/-- What the entries say of the connection whose event it is: that it fails. -/
def reading : Reading Entry := ⟨Entry.fails, fun _ => false, fun _ => false⟩

/-- Whatever the user does, no failure is told from inside a callback. -/
def quietly : Rules where
  socket f := Socket.Handler.Internal f ∨ f = Socket.asyncRead
  aborts := True
  ends := True
  active _ := True
  login _ _ := True
  errors := False
  tells _ := True

theorem quietly_notes {entry : Entry} : quietly.notes entry ↔ entry.fails = false := by
  cases entry with
  | called handlerSet cb =>
    cases cb with
    | acceptor cb => cases cb <;> simp [Rules.notes, quietly, Entry.fails]
    | port p cb => cases cb <;> simp [Rules.notes, quietly, Entry.fails]
  | _ => simp [Rules.notes, Entry.fails]

/-- The socket of a connection is closed when it is disconnected, and not before. -/
def TcpConnection.Downed (t : TcpConnection) : Prop :=
  t.socket.closing = true ↔ t.state.state = .disconnected

/-- The steps of a socket leave it open, or closed. -/
theorem closing_of_internal {f : Socket → Socket}
    (hf : Socket.Handler.Internal f ∨ f = Socket.asyncRead) (socket : Socket) :
    (f socket).closing = socket.closing := by
  rcases hf with hf | rfl
  · exact hf.closing socket
  · exact (Socket.follows_asyncRead socket).closing

theorem TcpConnection.closing_sendDebugPacket (text : Bytes) (t : TcpConnection) :
    (t.sendDebugPacket text).2.socket.closing = t.socket.closing := by
  unfold TcpConnection.sendDebugPacket
  split
  · rfl
  · exact (Socket.follows_asyncWrite _ _).closing

theorem TcpConnection.Downed.disconnect {t : TcpConnection} (h : t.Downed)
    (reason : DisconnectReason) : (t.disconnect reason).Downed ∧
      (t.disconnect reason).socket.closing = true := by
  rcases t.disconnect_eq reason with ⟨heq, hs⟩ | ⟨hs, hsocket, -⟩
  · rw [heq]
    exact ⟨h, h.mpr hs⟩
  · have hclosing : (t.disconnect reason).socket.closing = true := by
      rw [hsocket]
      exact Socket.close_closing _
    exact ⟨⟨fun _ => hs, fun _ => hclosing⟩, hclosing⟩

namespace Acceptor

section
variable {allowed : TcpConnection.Allowed}
  (hsocket : ∀ f, allowed.socket f → Socket.Handler.Internal f ∨ f = Socket.asyncRead)
include hsocket

theorem robust_downed : Robust allowed TcpConnection.Downed where
  act ha h := by
    induction ha with
    | refl t => exact h
    | trans _ _ ih₁ ih₂ => exact ih₂ (ih₁ h)
    | socket t hf => exact Iff.trans (by rw [← closing_of_internal (hsocket _ hf) t.socket]; rfl) h
    | write packet t =>
      have hclosing := (Socket.follows_asyncWrite t.socket packet).closing
      exact Iff.trans (by rw [← hclosing]; rfl) h
    | debug text t =>
      unfold TcpConnection.Downed
      rw [TcpConnection.closing_sendDebugPacket, (t.bearing_sendDebugPacket text).1]
      exact h
    | disconnect reason t => exact (h.disconnect reason).1
    | @reject reason t hs _ _ =>
      have hopen : t.socket.closing ≠ true := fun hclosing => by
        rw [h.mp hclosing] at hs
        cases hs
      refine ⟨fun hclosing => absurd hclosing hopen, fun hdown => ?_⟩
      simp [TcpConnection.prepareGracefulDisconnect, ConnectionState.initiateDisconnect,
        ConnectionState.isClosing, hs] at hdown
    | _ => exact h
  seated p handlerSet hs h := by
    refine ⟨fun hclosing => ?_, fun hdown => ?_⟩
    · rw [h.mp hclosing] at hs
      cases hs
    · cases hdown

/-- The sockets that are closed stay so. -/
theorem robust_closing : Robust allowed (·.socket.closing = true) where
  act ha h := by
    induction ha with
    | refl t => exact h
    | trans _ _ ih₁ ih₂ => exact ih₂ (ih₁ h)
    | socket t hf => exact (closing_of_internal (hsocket _ hf) t.socket).trans h
    | write packet t => exact (Socket.follows_asyncWrite t.socket packet).closing.trans h
    | debug text t => exact (t.closing_sendDebugPacket text).trans h
    | disconnect reason t =>
      rcases t.disconnect_eq reason with ⟨heq, -⟩ | ⟨-, hsocket, -⟩
      · rw [heq]
        exact h
      · rw [hsocket]
        exact Socket.close_closing _
    | _ => exact h
  seated p handlerSet _ h := h

end

/-- Each connection is disconnected if and only if its socket is closed. -/
def Sane (s : Acceptor) : Prop := s.Each fun _ => TcpConnection.Downed

/-- The connection has been accepted, and its socket has been closed. -/
def shut (k : Nat) (s : Acceptor) : Bool :=
  k < s.connections.length && (s.tcp? k).all (·.socket.closing)

def phase (k : Nat) (s : Acceptor) : Phase := if s.shut k then .shut else .live

/-- The socket of the connection, if it is there, is open. -/
def Open (k : Nat) (s : Acceptor) : Prop := ∀ t, s.tcp? k = some t → t.socket.closing = false

/-- From `a` to `b`, in an event of the connection `k`, it tells of one failure at most. -/
def Reports (k : Nat) (a b : Acceptor) : Prop :=
  ∃ added, b.trace = a.trace ++ added ∧ Lives reading (a.phase k) added (b.phase k)

/-- The same, and connections are disconnected if and only if their sockets are closed. -/
def Orderly (k : Nat) (a b : Acceptor) : Prop := a.Sane → b.Sane ∧ Reports k a b

variable {R : Rules} {a b c s : Acceptor} {k : Nat}

theorem phase_shut : s.phase k = .shut ↔ s.shut k = true := by
  unfold phase
  cases s.shut k <;> simp

theorem Reports.refl (k : Nat) (s : Acceptor) : Reports k s s := ⟨[], by simp, .refl⟩

theorem Reports.trans (h : Reports k a b) (h' : Reports k b c) : Reports k a c := by
  obtain ⟨added, hb, hadded⟩ := h
  obtain ⟨more, hc, hmore⟩ := h'
  refine ⟨added ++ more, ?_, hadded.trans hmore⟩
  rw [hc, hb, List.append_assoc]

theorem Orderly.refl (k : Nat) (s : Acceptor) : Orderly k s s := fun hs => ⟨hs, .refl k s⟩

/-- What comes second may build on what the first has left. -/
theorem Orderly.then (h : Orderly k a b) (h' : b.Sane → Orderly k b c) : Orderly k a c := by
  intro hs
  obtain ⟨hb, hab⟩ := h hs
  obtain ⟨hc, hbc⟩ := h' hb hb
  exact ⟨hc, hab.trans hbc⟩

theorem Orderly.trans (h : Orderly k a b) (h' : Orderly k b c) : Orderly k a c :=
  h.then fun _ => h'

theorem Sane.open (h : s.Sane) (hs : ∀ t, s.tcp? k = some t → t.state.state ≠ .disconnected) :
    s.Open k := by
  intro t ht
  rw [Bool.eq_false_iff]
  exact fun hclosing => hs t ht ((h k t ht).mp hclosing)

/-! ## Steps that tell of no failure -/

section
variable (hsocket : ∀ f, R.socket f → Socket.Handler.Internal f ∨ f = Socket.asyncRead)
include hsocket

theorem Moves.sane (hm : Moves R a b) (hs : a.Sane) : b.Sane := by
  apply hm.each (n := 0) (P := fun _ => TcpConnection.Downed) (fun _ => robust_downed hsocket) _
    (Nat.zero_le _) hs
  intro _ _ _ _
  constructor <;> intro h <;> cases h

/-- A connection that has been accepted and is shut stays so. -/
theorem Moves.shut (hm : Moves R a b) (h : a.shut k = true) : b.shut k = true := by
  simp only [Acceptor.shut, Bool.and_eq_true, decide_eq_true_eq, Option.all_eq_true] at h ⊢
  refine ⟨Nat.lt_of_lt_of_le h.1 hm.known, fun t ht => ?_⟩
  apply hm.each (n := k + 1) (P := fun j t => j = k → t.socket.closing = true) _ _ h.1 _ k t ht rfl
  · intro j
    exact ⟨fun ha h hj => (robust_closing hsocket).act ha (h hj),
      fun p handlerSet hs h hj => (robust_closing hsocket).seated p handlerSet hs (h hj)⟩
  · intro j hj handlerSet limit heq
    omega
  · rintro j u hu rfl
    exact h.2 u hu

end

/-- What is recorded tells of no failure. -/
def Untold (a b : Acceptor) : Prop := Adds (fun entry => entry.fails = false) a.trace b.trace

theorem Moves.untold (hm : Moves quietly a b) : Untold a b :=
  hm.adds.mono fun _ => quietly_notes.mp

theorem Moves.orderly (hm : Moves quietly a b) : Orderly k a b := by
  refine fun hs => ⟨hm.sane (fun _ => id) hs, ?_⟩
  obtain ⟨added, hadded, huntold⟩ := hm.untold
  have hlives (p : Phase) : Lives reading p added p :=
    lives_untold fun e he => ⟨huntold e he, rfl, rfl⟩
  refine ⟨added, hadded, ?_⟩
  unfold phase
  cases hb : b.shut k with
  | true =>
    split
    · exact hlives _
    · exact (hlives _).shut
  | false =>
    have ha : a.shut k = false := by
      rw [Bool.eq_false_iff]
      exact fun ha => absurd (hb.symm.trans (hm.shut (fun _ => id) ha)) (by decide)
    rw [ha]
    exact hlives _

/-! ## A failure -/

theorem tcp?_of_bearing (h : b.bearing k = a.bearing k) {t : TcpConnection}
    (ht : a.tcp? k = some t) : ∃ u, b.tcp? k = some u := by
  rw [bearing_of_tcp ht] at h
  obtain ⟨u, hu, -⟩ := bearing_eq_some h
  exact ⟨u, hu⟩

/-- A callback to the handler of a connection that is there is one entry, and then
what the user does. -/
theorem either_told (script : Script) (portCb : PortCallback) (acceptorCb : AcceptorCallback)
    {t : TcpConnection} (ht : s.tcp? k = some t) :
    ∃ entry, ∀ R, Moves R (s.log entry) (s.eitherCallback script k portCb acceptorCb) := by
  have hnotified (handlerSet : Bool) (cb : Callback) (R : Rules) :
      Moves R (s.log (.called handlerSet cb)) (s.notify script handlerSet cb) := by
    have hcalls (calls : List Call) (s : Acceptor) : Moves R s (calls.foldl Call.run s) := by
      induction calls generalizing s with
      | nil => exact .refl s
      | cons call calls ih => exact (moves_call call).trans (ih _)
    unfold notify
    dsimp only
    split
    · exact hcalls _ _
    · exact .refl _
  simp only [eitherCallback, portCallback, acceptorCallback, ht]
  split
  · split
    · exact ⟨.assertionFailed, fun R => .refl _⟩
    · exact ⟨_, hnotified _ _⟩
  · exact ⟨_, hnotified _ _⟩

/-- Something is told of a connection whose socket is open, and it is disconnected. -/
theorem orderly_failed {script : Script} {portCb : PortCallback} {acceptorCb : AcceptorCallback}
    {reason : DisconnectReason} (hreason : reason ≠ .none ∧ reason ≠ .unmanagedAbort)
    (hopen : s.Open k) :
    Orderly k s ((s.eitherCallback script k portCb acceptorCb).tcpDisconnect k reason) := by
  cases ht : s.tcp? k with
  | none =>
    simp only [eitherCallback, ht]
    exact (moves_tcpDisconnect trivial hreason).orderly
  | some t =>
    obtain ⟨entry, htold⟩ := either_told script portCb acceptorCb ht
    have hm := htold quietly
    have hbearing : (s.eitherCallback script k portCb acceptorCb).bearing k = s.bearing k :=
      (htold calls).calls_bearing k
    obtain ⟨u, hu⟩ := tcp?_of_bearing hbearing ht
    have hlt := lt_of_tcp hu
    revert hm hu hlt
    generalize s.eitherCallback script k portCb acceptorCb = told
    intro hm hu hlt hs
    have hsane : told.Sane := hm.sane (fun _ => id) hs
    have hend : Moves quietly told (told.tcpDisconnect k reason) :=
      moves_tcpDisconnect trivial hreason
    refine ⟨hend.sane (fun _ => id) hsane, ?_⟩
    have hshut : (told.tcpDisconnect k reason).phase k = .shut := by
      rw [phase_shut]
      simp only [shut, tcpDisconnect, length_updateTcp, tcp?_updateTcp, hu, ↓reduceIte,
        Option.map_some, Option.all_some, Bool.and_eq_true, decide_eq_true_eq]
      exact ⟨hlt, ((hsane k u hu).disconnect reason).2⟩
    have hlive : s.phase k = .live := by
      simp [phase, shut, ht, hopen t ht]
    obtain ⟨added, hadded, huntold⟩ := hm.untold
    refine ⟨entry :: added, ?_, ?_⟩
    · show told.trace = _
      rw [hadded]
      simp [Acceptor.log]
    · rw [hlive, hshut]
      have hlives (p : Phase) : Lives reading p added p :=
        lives_untold fun e he => ⟨huntold e he, rfl, rfl⟩
      cases hfails : entry.fails with
      | true => exact (Lives.refl.failed hfails).cons (hlives _)
      | false =>
        have hfirst : Lives reading .live [entry] .live :=
          Lives.refl.told hfails rfl fun hshuts => absurd hshuts Bool.false_ne_true
        exact (hfirst.cons (hlives _)).shut

theorem orderly_handleTransportError (script : Script) (hopen : s.Open k) (ec : IoError)
    (operation : String) : Orderly k s (s.handleTransportError script k ec operation) :=
  orderly_failed (by decide) hopen

theorem orderly_handleProtocolViolation (script : Script) (hopen : s.Open k)
    (error : PacketError) : Orderly k s (s.handleProtocolViolation script k error) := by
  have hlogged : Moves quietly s (s.log (.violation k error)) := .log trivial
  exact hlogged.orderly.trans (orderly_failed (by decide) hopen)

/-! ## Timers -/

/-- Everything has been orderly, and the socket of the connection is still open if it was. -/
def Untroubled (k : Nat) (a b : Acceptor) : Prop := Orderly k a b ∧ (a.Open k → b.Open k)

theorem Open.updateTcp (h : s.Open k) {f : TcpConnection → TcpConnection}
    (hf : ∀ t, (f t).socket.closing = t.socket.closing) : (s.updateTcp k f).Open k := by
  intro u hu
  rw [tcp?_updateTcp, if_pos rfl] at hu
  obtain ⟨t, ht, rfl⟩ := Option.map_eq_some_iff.mp hu
  exact (hf t).trans (h t ht)

theorem Untroubled.failed {script : Script} (h : Untroubled k a b) (hopen : a.Open k)
    (ec : IoError) (operation : String) :
    Orderly k a (b.handleTransportError script k ec operation) :=
  h.1.trans (orderly_handleTransportError script (h.2 hopen) ec operation)

theorem leads_loginTimer (script : Script) (k : Nat) (s : Acceptor) :
    (loginTimerHandler script k).Leads (Untroubled k s) (Orderly k s) where
  still _ h := h.1
  update f s' h := by
    have hm : Moves quietly s' (s'.updateTcp k (·.updateLoginTimer f)) :=
      moves_act trivial (.loginTimer f)
    exact ⟨h.1.trans hm.orderly, fun hopen => (h.2 hopen).updateTcp fun _ => rfl⟩
  updateAfter f _ h := h.trans (moves_act trivial (.loginTimer f)).orderly
  loginTimerExpired _ h := h.1.trans (moves_tcpDisconnect trivial (by decide)).orderly

theorem leads_heartbeatTimer (script : Script) (k : Nat) (s : Acceptor) :
    (heartbeatTimerHandler script k).Leads (Untroubled k s) (Orderly k s) where
  still _ h := h.1
  update f hf s' h := by
    have hm : Moves quietly s' (s'.updateTcp k (·.updateHeartbeatTimer f)) :=
      moves_act trivial fun _ => .heartbeatTimer (Or.inl (hf.started _))
    exact ⟨h.1.trans hm.orderly, fun hopen => (h.2 hopen).updateTcp fun _ => rfl⟩
  signal _ h := h.trans (moves_act trivial fun _ => .heartbeatTimer
    (Or.inl (HeartbeatTimer.Internal.maybeSignalStopped.started _))).orderly
  heartbeatSendDue s' h := by
    have hm : Moves quietly s'
        (s'.updateTcp k (·.writeBestEffort (.ofType ServerHeartbeatPacket.packetType))) :=
      moves_write trivial (by decide)
    refine ⟨h.1.trans hm.orderly, fun hopen => (h.2 hopen).updateTcp fun t => ?_⟩
    exact (Socket.follows_asyncWrite t.socket _).closing
  heartbeatReceiveTimeout _ h := h.1.trans (moves_tcpDisconnect trivial (by decide)).orderly

/-! ## Packets -/

section
variable {script : Script} {faults : Faults}

/-- A connection that has just logged in is open. -/
theorem orderly_acceptLogin (response : LoginAcceptedPacket) :
    Orderly k ((s.log (.loginAccepted k response)).updateTcp k (·.setState .loggedIn))
      (s.acceptLogin script faults k response) := by
  have htold : Moves quietly
      ((s.log (.loginAccepted k response)).updateTcp k (·.setState .loggedIn))
      (((s.log (.loginAccepted k response)).updateTcp k (·.setState .loggedIn)).portCallback
        script k (.loginSuccess response)) := moves_portCallback fun _ _ => trivial
  have hset := moves_setStarted (R := quietly) (s := s) (k := k) trivial script response rfl
  have hlogged (hs : (((s.log (.loginAccepted k response)).updateTcp k
      (·.setState .loggedIn)).portCallback script k (.loginSuccess response)).Sane) :=
    hs.open (k := k) fun t ht => by
      rw [loggedIn_told response ht]
      decide
  have hwritten {s : Acceptor} (packet : WritePacket) :
      Moves quietly s (s.updateTcp k (·.writeBestEffort packet)) :=
    moves_act trivial (.write packet · fun _ => trivial)
  refine Orderly.trans ?_ (hwritten _).orderly
  refine htold.orderly.then fun hs => ?_
  have hopen : Open k _ :=
    (hlogged hs).updateTcp (f := (·.setHeartbeatTimerStopped false)) fun _ => rfl
  have hflagged := moves_act (R := quietly) (k := k) (s := ((s.log
    (.loginAccepted k response)).updateTcp k (·.setState .loggedIn)).portCallback script k
      (.loginSuccess response)) trivial (.heartbeatTimerStopped false)
  apply hflagged.orderly.trans
  apply (leads_heartbeatTimer script k _).start faults.heartbeatTimer faults.heartbeatSchedule
  · rintro -
    exact ⟨hset.orderly, fun h => h.updateTcp fun _ => rfl⟩
  · exact fun _ ec operation _ h => h.failed hopen ec operation
  · exact ⟨.refl k _, id⟩

variable (hfree : (s.tcpState k).state = .connected → s.Unpointed k)
include hfree

theorem orderly_processLoginRequest (data : Bytes) :
    Orderly k s (s.processLoginRequest script faults k data).2 := by
  rcases processLoginRequest_cases (R := quietly) trivial script faults data hfree
    (fun _ _ _ _ => trivial) with
      ⟨error, -, heq⟩ | ⟨s', response, hm, heq⟩ | ⟨s', reject, hm, hs, heq⟩
  · rw [heq]
    exact .refl k s
  · rw [heq]
    exact hm.orderly.trans (orderly_acceptLogin response)
  · rw [heq]
    exact (hm.trans (moves_rejectLogin trivial hs reject)).orderly

theorem orderly_processPacket (packet : ReadPacket) :
    Orderly k s (s.processPacket script faults k packet).2 := by
  unfold processPacket
  dsimp only
  split
  · have htold : Moves quietly s (s.eitherCallback script k (.debug packet.payload)
        (.debug packet.payload)) := moves_eitherCallback (fun _ _ => trivial) fun _ => trivial
    exact htold.orderly
  · split
    · exact orderly_processLoginRequest hfree _
    · split
      · exact (moves_processUnsequencedData trivial _).orderly
      · split
        · exact (moves_processClientHeartbeat trivial _).orderly
        · split
          · exact (moves_processLogoutRequest trivial _).orderly
          · exact .refl k s

/-- A packet that is no good changes nothing. -/
theorem processPacket_unchanged (packet : ReadPacket) :
    (s.processPacket script faults k packet).1 ≠ .none →
      (s.processPacket script faults k packet).2 = s := by
  have hgood {s' : Acceptor} : (PacketError.none, s').1 ≠ .none → (PacketError.none, s').2 = s :=
    fun h => absurd rfl h
  unfold processPacket
  dsimp only
  split
  · exact hgood
  · split
    · rcases processLoginRequest_cases (R := quietly) trivial script faults
        packet.payload hfree (fun _ _ _ _ => trivial) with
          ⟨error, -, heq⟩ | ⟨s', response, -, heq⟩ | ⟨s', reject, -, -, heq⟩
      · rw [heq]
        exact fun _ => rfl
      · rw [heq]
        exact hgood
      · rw [heq]
        exact hgood
    · split
      · unfold processUnsequencedData
        split
        · exact fun _ => rfl
        · exact hgood
      · split
        · unfold processClientHeartbeat
          split
          · exact fun _ => rfl
          · split
            · exact fun _ => rfl
            · exact hgood
        · split
          · unfold processLogoutRequest
            split
            · exact fun _ => rfl
            · split
              · exact fun _ => rfl
              · exact hgood
          · exact fun _ => rfl

theorem orderly_readSuccess (packet : ReadPacket) :
    Orderly k s (s.readSuccess script faults k packet) := by
  unfold readSuccess
  split
  · exact .refl k s
  · rename_i hnot
    have hagain {s' : Acceptor} (h : Orderly k s s') : Orderly k s
        (if (s'.tcpState k).isClosing then s' else s'.updateTcp k (·.updateSocket Socket.asyncRead))
        := by
      split
      · exact h
      · have hread : Moves quietly s' (s'.updateTcp k (·.updateSocket Socket.asyncRead)) :=
          moves_act trivial (.socket · (Or.inr rfl))
        exact h.trans hread.orderly
    dsimp only
    apply hagain
    split
    · rename_i herror
      rw [processPacket_unchanged hfree packet herror]
      intro hs
      refine orderly_handleProtocolViolation script (hs.open fun t ht hdown => hnot ?_) _ hs
      simp [tcpState, ht, ConnectionState.isClosing, hdown]
    · exact orderly_processPacket hfree packet

end

/-! ## Completions -/

/-- The packets that wait to be written. -/
def writePackets (k : Nat) (s : Acceptor) : List WritePacket :=
  ((s.tcp? k).map (·.socket.writePackets)).getD []

theorem open_of_shut (h : s.shut k = false) : s.Open k := by
  intro t ht
  rw [Bool.eq_false_iff]
  intro hclosing
  apply Bool.eq_false_iff.mp h
  simp [shut, ht, hclosing, lt_of_tcp ht]

theorem open_updateSocket {f : Socket → Socket} (hf : Socket.Handler.Internal f) (h : s.Open k) :
    (s.updateTcp k (·.updateSocket f)).Open k :=
  h.updateTcp fun t => hf.closing t.socket

section
variable {script : Script} {faults : Faults}

theorem untold_socket : (socketHandler script faults k).KeepsUntold (Orderly k s) where
  update _ hf _ h := h.trans (moves_act trivial (.socket · (Or.inl hf))).orderly
  readEndOfFile _ h := h.trans (moves_tcpDisconnect trivial (by decide)).orderly
  writeSuccess _ _ h := h.trans (moves_writeSuccess trivial).orderly
  writeBufferEmpty _ h := h.trans moves_writeBufferEmpty.orderly

theorem orderly_readAborted : Orderly k s (s.tcpDisconnect k .unmanagedAbort) :=
  (moves_act trivial fun t => .disconnect _ t (by decide) fun _ => Or.inl trivial).orderly

theorem orderly_headerCompleted {result : Except IoError Bytes}
    (hfree : (s.tcpState k).state = .connected → s.Unpointed k)
    (hlate : s.shut k = true → Socket.Handler.headerFails (s.readPacket k) result = false) :
    Orderly k s ((socketHandler script faults k).headerCompleted result s) := by
  have hopen (hfails : Socket.Handler.headerFails ((socketHandler script faults k).socket
      ((socketHandler script faults k).update (Socket.readDone .readHeader) s)).readPacket result =
        true) : (s.updateTcp k (·.updateSocket (Socket.readDone .readHeader))).Open k := by
    rw [readPacket_readDone] at hfails
    apply open_updateSocket (.readDone _)
    apply open_of_shut
    rw [Bool.eq_false_iff]
    exact fun hshut => absurd (hfails.symm.trans (hlate hshut)) (by decide)
  refine untold_socket.headerCompleted result ?_ ?_ ?_ ?_ (.refl k s)
  · exact fun hfails ec h => h.trans (orderly_handleTransportError script (hopen hfails) ec _)
  · intro hfails packet h
    have hopen := open_updateSocket (.setReadPacket packet) (hopen hfails)
    exact h.trans (orderly_handleProtocolViolation script hopen _)
  · intro bytes packet _ _ h
    apply h.trans
    apply orderly_readSuccess
    exact fun hs => hfree (by simpa only [socketHandler, tcpState_updateSocket] using hs)
  · exact fun _ h => h.trans orderly_readAborted

theorem orderly_payloadCompleted {result : Except IoError Bytes}
    (hfree : (s.tcpState k).state = .connected → s.Unpointed k)
    (hlate : s.shut k = true → Socket.Handler.payloadFails (s.readPacket k) result = false) :
    Orderly k s ((socketHandler script faults k).payloadCompleted result s) := by
  refine untold_socket.payloadCompleted result ?_ ?_ ?_ (.refl k s)
  · intro hfails ec h
    refine h.trans (orderly_handleTransportError script ?_ ec _)
    apply open_updateSocket (.readDone _)
    apply open_of_shut
    rw [readPacket_readDone] at hfails
    rw [Bool.eq_false_iff]
    exact fun hshut => absurd (hfails.symm.trans (hlate hshut)) (by decide)
  · intro bytes _ _ h
    apply h.trans
    apply orderly_readSuccess
    exact fun hs => hfree (by simpa only [socketHandler, tcpState_updateSocket] using hs)
  · exact fun _ h => h.trans orderly_readAborted

theorem orderly_writeCompleted {result : Except IoError Nat}
    (hlate : s.shut k = true → Socket.Handler.writeFails (s.writePackets k) result = false) :
    Orderly k s ((socketHandler script faults k).writeCompleted result s) := by
  apply untold_socket.writeCompleted result _ (.refl k s)
  intro hfails ec h
  refine h.trans (orderly_handleTransportError script ?_ ec _)
  apply open_updateSocket .writeDone
  apply open_of_shut
  have hqueue : ((socketHandler script faults k).socket ((socketHandler script faults k).update
      Socket.writeDone s)).writePackets = s.writePackets k := by
    simp only [socketHandler, writePackets, tcp?_updateTcp, ↓reduceIte]
    cases s.tcp? k <;> rfl
  rw [hqueue] at hfails
  rw [Bool.eq_false_iff]
  exact fun hshut => absurd (hfails.symm.trans (hlate hshut)) (by decide)

/-! ## Waits -/

theorem orderly_loginTimerWait {ec : Option IoError}
    (hlate : ∀ t, s.tcp? k = some t → t.socket.closing = true → t.loginTimer.started = true →
      ec.isSome = false) : Orderly k s ((loginTimerHandler script k).waitCompleted ec s) := by
  apply (leads_loginTimer script k s).waitCompleted ec _ ⟨.refl k s, id⟩
  intro hstarted hec ec' operation _ h
  refine h.failed (fun t ht => ?_) ec' operation
  rw [Bool.eq_false_iff]
  intro hclosing
  have hstarted : t.loginTimer.started = true := by
    simpa [loginTimerHandler, tcp?_updateTcp, ht, TcpConnection.updateLoginTimer,
      LoginTimer.waitDone] using hstarted
  exact absurd (hec.symm.trans (hlate t ht hclosing hstarted)) (by decide)

theorem orderly_heartbeatTimerWait {ec fault : Option IoError}
    (hlate : ∀ t, s.tcp? k = some t → t.socket.closing = true → t.heartbeatTimer.started = true →
      ec.isSome = false ∧ (t.heartbeatTimer.expires = false → fault.isSome = false)) :
    Orderly k s ((heartbeatTimerHandler script k).waitCompleted ec fault s) := by
  apply (leads_heartbeatTimer script k s).waitCompleted ec fault _ ⟨.refl k s, id⟩
  intro hstarted hfault ec' operation _ h
  refine h.failed (fun t ht => ?_) ec' operation
  rw [Bool.eq_false_iff]
  intro hclosing
  have hstarted : t.heartbeatTimer.started = true := by
    simpa [heartbeatTimerHandler, tcp?_updateTcp, ht, TcpConnection.updateHeartbeatTimer,
      HeartbeatTimer.waitDone] using hstarted
  obtain ⟨hec, hnone⟩ := hlate t ht hclosing hstarted
  rcases hfault with hfault | ⟨hfault, hheard⟩
  · exact absurd (hfault.symm.trans hec) (by decide)
  · have hexpires : t.heartbeatTimer.expires = false := by
      simpa [HeartbeatTimer.Handler.Hears, heartbeatTimerHandler, tcp?_updateTcp, ht,
        TcpConnection.updateHeartbeatTimer, HeartbeatTimer.waitDone, HeartbeatTimer.countSilence,
        HeartbeatTimer.expires, or_iff_not_imp_left] using hheard
    exact absurd (hfault.symm.trans (hnone hexpires)) (by decide)

/-! ## Accepting -/

/-- A connection that has just been made is open. -/
theorem orderly_emplace (script : Script) (faults : Faults) (s : Acceptor) (limit : Nat) :
    Orderly s.connections.length s
      (s.emplace script faults { isOpen := true, writePacketsLimit := limit }) := by
  have hemplaced : Moves quietly s { s with connections := s.connections ++
      [some (accepted s.handlerSet { isOpen := true, writePacketsLimit := limit })] } :=
    .emplaced s.handlerSet limit trivial
  have hconstructed {s : Acceptor} (j : Nat) : Moves quietly s (s.log (.constructed j)) :=
    .log trivial
  have hmade : Moves quietly s (({ s with connections := s.connections ++
      [some (accepted s.handlerSet { isOpen := true, writePacketsLimit := limit })] }.log
        (.constructed s.connections.length)).updateTcp s.connections.length
          (·.setLoginTimerStopped false)) :=
    (hemplaced.trans (hconstructed _)).trans (moves_act trivial (.loginTimerStopped false))
  have hread {s' : Acceptor} : Moves quietly s'
      (s'.updateTcp s.connections.length (·.updateSocket Socket.asyncRead)) :=
    moves_act trivial (.socket · (Or.inr rfl))
  refine Orderly.trans ?_ hread.orderly
  apply hmade.orderly.trans
  apply (leads_loginTimer script _ _).start faults.loginTimer _ ⟨.refl _ _, id⟩
  refine fun _ ec operation s' h => h.failed ?_ ec operation
  refine Open.updateTcp (f := (·.setLoginTimerStopped false)) (fun t ht => ?_) fun _ => rfl
  have htcp := tcp?_emplaced (s := s)
    (accepted s.handlerSet { isOpen := true, writePacketsLimit := limit }) s.connections.length
  rw [if_pos rfl] at htcp
  cases htcp.symm.trans ht
  rfl

theorem orderly_acceptCompleted (ec : Option IoError) :
    Orderly s.connections.length s (s.acceptCompleted script faults ec) := by
  have haside (s' : Acceptor) (f : SocketAcceptor → SocketAcceptor) :
      Moves quietly s' (s'.updateSocketAcceptor f) := .quiet rfl rfl rfl
  unfold acceptCompleted
  dsimp only
  split
  · have htold (R : Rules) : Moves R (s.updateSocketAcceptor SocketAcceptor.acceptDone)
        ((s.updateSocketAcceptor SocketAcceptor.acceptDone).notify script s.handlerSet
          (.acceptor .acceptSuccess)) := moves_notify _ trivial
    have hlength : ((s.updateSocketAcceptor SocketAcceptor.acceptDone).notify script s.handlerSet
        (.acceptor .acceptSuccess)).connections.length = s.connections.length :=
      (htold calls).calls_length
    have hmade := orderly_emplace script faults
      ((s.updateSocketAcceptor SocketAcceptor.acceptDone).notify script s.handlerSet
        (.acceptor .acceptSuccess)) s.writePacketsLimit
    rw [hlength] at hmade
    have hmade := ((haside s _).trans (htold quietly)).orderly.trans hmade
    refine Orderly.trans ?_ (haside _ _).orderly
    split
    · exact hmade.trans (moves_act trivial (.debug _)).orderly
    · exact hmade
  · exact (haside s _).orderly
  · rename_i ec _
    have hfailed {s : Acceptor} : Moves quietly s (s.notify script s.handlerSet
        (.acceptor (.acceptFailure ec))) := moves_notify _ trivial
    exact ((haside s _).trans (hfailed.trans (haside _ _))).orderly

end

/-! ## Events -/

/-- The connection whose event it is. -/
def subject (event : Event) (s : Acceptor) : Option Nat :=
  match event with
  | .call _ | .posted _ => none
  | .acceptCompleted _ => some s.connections.length
  | .headerCompleted k _ | .payloadCompleted k _ | .writeCompleted k _ | .socketClosed k
  | .loginTimerWait k _ | .loginTimerStopped k | .heartbeatTimerWait k _
  | .heartbeatTimerStopped k => some k

/-- With the event, an operation of a connection fails whose socket has been closed:
a read, otherwise than aborted or at the end of the stream, a write, otherwise than
aborted, or the wait or the start of a timer that is started. -/
def failsLate (input : Event × Env) (s : Acceptor) : Bool :=
  match input.1 with
  | .headerCompleted k result => s.shut k && Socket.Handler.headerFails (s.readPacket k) result
  | .payloadCompleted k result => s.shut k && Socket.Handler.payloadFails (s.readPacket k) result
  | .writeCompleted k result => s.shut k && Socket.Handler.writeFails (s.writePackets k) result
  | .loginTimerWait k ec =>
    (s.tcp? k).any fun t => t.socket.closing && t.loginTimer.started && ec.isSome
  | .heartbeatTimerWait k ec =>
    (s.tcp? k).any fun t => t.socket.closing && t.heartbeatTimer.started &&
      (ec.isSome || !t.heartbeatTimer.expires && input.2.faults.heartbeatSchedule.isSome)
  | _ => false

theorem moves_quietly (env : Env) {event : Event} (hready : s.ready event = true)
    (hnobody : s.subject event = none) : Moves quietly s (s.handle env event) := by
  cases event with
  | call call => exact moves_call call
  | posted n =>
    have hn : n < s.posted.length := by simpa [ready] using hready
    have htaken (started : Bool) : Moves quietly s
        { s with posted := s.posted.eraseIdx n, started := started } := .quiet rfl rfl rfl
    simp only [handle, List.getElem?_eq_getElem hn]
    cases s.posted[n] with
    | start =>
      simp only [runPosted]
      split
      · exact htaken _
      · exact (htaken true).trans moves_startAccepting
    | endSession =>
      simp only [runPosted]
      split
      · exact (htaken _).trans (moves_endSessions trivial)
      · exact htaken _
    | stop =>
      simp only [runPosted]
      split
      · exact (htaken false).trans (moves_stopAccepting fun _ => trivial)
      · exact htaken _
  | _ => cases hnobody

theorem orderly_handle {env : Env} {event : Event} (hready : s.ready event = true)
    (hfree : ∀ k, (s.tcpState k).state = .connected → s.Unpointed k)
    (hlate : s.failsLate (event, env) = false) (hk : s.subject event = some k) :
    Orderly k s (s.handle env event) := by
  cases event with
  | call call => cases hk
  | posted n => cases hk
  | acceptCompleted ec =>
    cases hk
    exact orderly_acceptCompleted ec
  | headerCompleted j result =>
    cases hk
    apply orderly_headerCompleted (hfree k)
    intro hshut
    simpa [failsLate, hshut] using hlate
  | payloadCompleted j result =>
    cases hk
    apply orderly_payloadCompleted (hfree k)
    intro hshut
    simpa [failsLate, hshut] using hlate
  | writeCompleted j result =>
    cases hk
    apply orderly_writeCompleted
    intro hshut
    simpa [failsLate, hshut] using hlate
  | socketClosed j =>
    cases hk
    apply Moves.orderly
    apply moves_closed trivial
    · intro t ht
      simpa [ready, ht] using hready
    · exact fun _ _ _ => trivial
  | loginTimerWait j ec =>
    cases hk
    apply orderly_loginTimerWait
    intro t ht hclosing hstarted
    simpa [failsLate, ht, hclosing, hstarted] using hlate
  | loginTimerStopped j =>
    cases hk
    exact (moves_loginTimerStopped trivial fun _ _ _ => trivial).orderly
  | heartbeatTimerWait j ec =>
    cases hk
    apply orderly_heartbeatTimerWait
    intro t ht hclosing hstarted
    simpa [failsLate, ht, hclosing, hstarted] using hlate
  | heartbeatTimerStopped j =>
    cases hk
    exact (moves_heartbeatTimerStopped trivial fun _ _ _ => trivial).orderly

/-! ## Runs -/

/-- The failures that the handlers are told of with the input, if it is about `of`. -/
def told (of : Option Nat) (input : Event × Env) (s : Acceptor) : Nat :=
  if s.subject input.1 = of then
    ((system.next input s).trace.drop s.trace.length).countP Entry.fails
  else 0

/-- The failures that the handlers are told of in the course of the inputs about `of`,
which is a connection, or nobody. -/
def failures (of : Option Nat) (s : Acceptor) : List (Event × Env) → Nat
  | [] => 0
  | input :: inputs => s.told of input + failures of (system.next input s) inputs

theorem failures_concat (of : Option Nat) (s : Acceptor) (inputs : List (Event × Env))
    (input : Event × Env) : s.failures of (inputs ++ [input]) =
      s.failures of inputs + (system.final s inputs).told of input := by
  induction inputs generalizing s with
  | nil => exact Nat.add_comm _ _
  | cons first inputs ih =>
    show s.told of first + (system.next first s).failures of (inputs ++ [input]) = _
    rw [ih, ← Nat.add_assoc]
    rfl

/-- What the inputs after `s` tell of failures: of one at most of each connection, of
none once it is disconnected, and of none with inputs that are about no connection. -/
structure TellsOnce (s : Acceptor) (inputs : List (Event × Env)) : Prop where
  once : ∀ k, s.failures (some k) inputs ≤ 1
  down : ∀ k, k < s.connections.length →
    (∀ t, s.tcp? k = some t → t.state.state = .disconnected) → s.failures (some k) inputs = 0
  nobody : s.failures none inputs = 0

theorem sane_handle (env : Env) {event : Event} (hready : s.ready event = true)
    (hfree : ∀ k, (s.tcpState k).state = .connected → s.Unpointed k) (hs : s.Sane) :
    (s.handle env event).Sane :=
  Moves.sane (R := s.rules env event) (fun _ hf => hf.2) (moves_handle env hready hfree) hs

/-- The place of the connection after a step, and what the step has told. -/
theorem told_step {env : Env} {event : Event} (hready : s.ready event = true)
    (hfree : ∀ k, (s.tcpState k).state = .connected → s.Unpointed k) (hs : s.Sane)
    (hlate : s.failsLate (event, env) = false) (k : Nat) :
    (s.told (some k) (event, env) = 0 ∨
      s.told (some k) (event, env) = 1 ∧ (s.handle env event).shut k = true) ∧
    (s.shut k = true →
      s.told (some k) (event, env) = 0 ∧ (s.handle env event).shut k = true) := by
  unfold told
  split
  · rename_i hk
    obtain ⟨-, added, hadded, hlives⟩ := orderly_handle hready hfree hlate hk hs
    have hdrop : ((system.next (event, env) s).trace.drop s.trace.length) = added := by
      show (s.handle env event).trace.drop _ = _
      rw [hadded, List.drop_left]
    obtain ⟨honce, hshut, -⟩ := hlives.frugal fun _ _ => rfl
    rw [hdrop]
    rw [phase_shut] at honce
    exact ⟨honce, fun h => (hshut (phase_shut.mpr h)).imp_right phase_shut.mp⟩
  · refine ⟨Or.inl rfl, fun h => ⟨rfl, ?_⟩⟩
    exact Moves.shut (R := s.rules env event) (fun _ hf => hf.2) (moves_handle env hready hfree) h

theorem told_nobody {env : Env} {event : Event} (hready : s.ready event = true) :
    s.told none (event, env) = 0 := by
  unfold told
  split
  · rename_i hnobody
    obtain ⟨added, hadded, huntold⟩ := (moves_quietly env hready hnobody).untold
    have hdrop : ((system.next (event, env) s).trace.drop s.trace.length) = added := by
      show (s.handle env event).trace.drop _ = _
      rw [hadded, List.drop_left]
    rw [hdrop, List.countP_eq_zero]
    exact fun e he => by simp [huntold e he]
  · rfl

theorem sane_run {s₀ : Acceptor} (h₀ : s₀.Idle) {inputs : List (Event × Env)}
    (hrun : system.Run s₀ inputs s) : s.Sane := by
  induction hrun with
  | refl =>
    intro k t ht
    simp [tcp?, h₀.connections] at ht
  | step input hrun hready ih =>
    exact sane_handle input.2 hready (fun _ => (joined_run h₀ hrun).unpointed) ih

/-- As long as nothing fails late, one failure at most is told of each connection. -/
theorem tellsOnce_run {s₀ s' : Acceptor} (h₀ : s₀.Idle) {before inputs : List (Event × Env)}
    (hbefore : system.Run s₀ before s)
    (hrun : (system.restrict fun input s => s.failsLate input = false).Run s inputs s') :
    s.TellsOnce inputs := by
  have hkept (k : Nat) : (s.failures (some k) inputs = 0 ∨
      s.failures (some k) inputs = 1 ∧ s'.shut k = true) ∧
        (s.shut k = true → s.failures (some k) inputs = 0 ∧ s'.shut k = true) := by
    induction hrun with
    | refl => exact ⟨Or.inl rfl, fun h => ⟨rfl, h⟩⟩
    | @step inputs t input hrun hinput ih =>
      have hall := hbefore.append hrun.of_restrict
      have hstep := told_step hinput.1 (fun _ => (joined_run h₀ hall).unpointed)
        (sane_run h₀ hall) hinput.2 k
      rw [failures_concat, ← hrun.of_restrict.eq_final]
      change _ ∧ (_ → _ ∧ (t.handle input.2 input.1).shut k = true)
      refine ⟨?_, fun h => ?_⟩
      · rcases ih.1 with hnone | ⟨hone, hshut⟩
        · rw [hnone, Nat.zero_add]
          exact hstep.1
        · obtain ⟨htold, hshut⟩ := hstep.2 hshut
          exact Or.inr ⟨by rw [hone, htold], hshut⟩
      · obtain ⟨hnone, hshut⟩ := ih.2 h
        obtain ⟨htold, hshut⟩ := hstep.2 hshut
        exact ⟨by rw [hnone, htold], hshut⟩
  constructor
  · intro k
    rcases (hkept k).1 with hnone | ⟨hone, -⟩ <;> omega
  · intro k hk hdown
    refine ((hkept k).2 ?_).1
    simp only [shut, Bool.and_eq_true, decide_eq_true_eq, Option.all_eq_true]
    exact ⟨hk, fun t ht => ((sane_run h₀ hbefore) k t ht).mpr (hdown t ht)⟩
  · clear hkept
    induction hrun with
    | refl => rfl
    | step input hrun hinput ih =>
      rw [failures_concat, ← hrun.of_restrict.eq_final, ih, told_nobody hinput.1]

end Acceptor
end SoupBin.ServerSide
