import SoupBin.ServerLinks
import SoupBin.SocketSettled

/-!
# The sockets of a server

As long as a socket is open the operations outstanding are those its flags tell
of, and nothing is posted. A connection that is closed is disconnected.
-/

namespace SoupBin.ServerSide

/-! ## Tcp_connection -/

namespace TcpConnection

structure Intact (t : TcpConnection) : Prop where
  sound : t.socket.closing = false → t.socket.Sound
  untold : t.socket.closing = false → t.socket.posted = 0 ∧ t.socketClosed = false
  closed : t.socket.closing = true → t.state.state = .disconnected
  heartbeat : t.state.state = .connected → t.heartbeatTimer.started = false

variable {t u : TcpConnection}

/-- Nothing but the operations of the socket changes. -/
theorem Intact.update (h : t.Intact) (hstate : u.state = t.state)
    (hheartbeat : u.heartbeatTimer.started = t.heartbeatTimer.started)
    (hclosed : u.socketClosed = t.socketClosed) (hclosing : u.socket.closing = t.socket.closing)
    (hposted : u.socket.posted = t.socket.posted)
    (hsound : t.socket.closing = false → t.socket.Sound → u.socket.Sound) : u.Intact := by
  constructor
  · intro hopen
    rw [hclosing] at hopen
    exact hsound hopen (h.sound hopen)
  · rw [hclosing, hposted, hclosed]
    exact h.untold
  · rw [hclosing, hstate]
    exact h.closed
  · rw [hstate, hheartbeat]
    exact h.heartbeat

theorem Intact.asyncWrite (h : t.Intact) (packet : WritePacket) : (t.asyncWrite packet).2.Intact := by
  have hfollows := Socket.follows_asyncWrite t.socket packet
  exact h.update rfl rfl rfl hfollows.closing hfollows.posted fun _ hs => hs.asyncWrite packet

theorem Intact.disconnect (h : t.Intact) (reason : DisconnectReason) :
    (t.disconnect reason).Intact := by
  rcases t.disconnect_eq reason with ⟨heq, -⟩ | ⟨hs, hsocket, -⟩
  · rw [heq]
    exact h
  · have hclosing : (t.disconnect reason).socket.closing = true := by
      rw [hsocket]
      exact Socket.close_closing _
    constructor
    · simp [hclosing]
    · simp [hclosing]
    · exact fun _ => hs
    · simp [hs]

theorem Intact.act {allowed : Allowed} (hno : ∀ f, ¬allowed.socket f) (ha : Act allowed t u)
    (h : t.Intact) : u.Intact := by
  induction ha with
  | refl t => exact h
  | trans _ _ ih₁ ih₂ => exact ih₂ (ih₁ h)
  | socket t hf => exact absurd hf (hno _)
  | write packet t => exact h.asyncWrite packet
  | debug text t =>
    unfold TcpConnection.sendDebugPacket
    split
    · exact h
    · exact h.asyncWrite _
  | disconnect reason t => exact h.disconnect reason
  | reject reason hs =>
    refine ⟨h.sound, h.untold, ?_, ?_⟩
    · intro hclosing
      rw [h.closed hclosing] at hs
      cases hs
    · simp [prepareGracefulDisconnect, ConnectionState.initiateDisconnect,
        ConnectionState.isClosing, hs]
  | loginTimer f t => exact h.update rfl rfl rfl rfl rfl fun _ hs => hs
  | @heartbeatTimer f t hf =>
    refine ⟨h.sound, h.untold, h.closed, ?_⟩
    intro hs
    rcases hf with hf | hf
    · exact hf.trans (h.heartbeat hs)
    · exact absurd hs hf
  | loginTimerStopped stopped t => exact h.update rfl rfl rfl rfl rfl fun _ hs => hs
  | heartbeatTimerStopped stopped t => exact h.update rfl rfl rfl rfl rfl fun _ hs => hs
  | @noteClosed t hposted =>
    have hclosing : t.socket.closing = true := by
      by_contra hopen
      rw [(h.untold (by simpa using hopen)).1] at hposted
      cases hposted
    refine ⟨?_, ?_, h.closed, h.heartbeat⟩
    · intro hopen
      exact absurd (hclosing.symm.trans hopen) (by decide)
    · intro hopen
      exact absurd (hclosing.symm.trans hopen) (by decide)

/-- In the middle of an event that completes a read. -/
structure Resting (t : TcpConnection) : Prop extends Intact t where
  idle : t.socket.closing = false → t.socket.readPending = false

theorem Resting.act {allowed : Allowed} (hno : ∀ f, ¬allowed.socket f) (ha : Act allowed t u)
    (h : t.Resting) : u.Resting := by
  refine ⟨h.toIntact.act hno ha, ?_⟩
  have hidle := h.idle
  clear h
  induction ha with
  | refl t => exact hidle
  | trans _ _ ih₁ ih₂ => exact ih₂ (ih₁ hidle)
  | socket t hf => exact absurd hf (hno _)
  | write packet t =>
    intro hopen
    have hsame := (Socket.follows_asyncWrite t.socket packet).closing
    exact (Socket.asyncWrite_readPending t.socket packet).trans (hidle (hsame ▸ hopen))
  | debug text t =>
    unfold TcpConnection.sendDebugPacket
    split
    · exact hidle
    · intro hopen
      have hsame := (Socket.follows_asyncWrite t.socket (.ofData DebugPacket.packetType text)).closing
      exact (Socket.asyncWrite_readPending t.socket _).trans (hidle (hsame ▸ hopen))
  | disconnect reason t =>
    rcases t.disconnect_eq reason with ⟨heq, -⟩ | ⟨-, hsocket, -⟩
    · rw [heq]
      exact hidle
    · rw [hsocket, Socket.close_closing]
      intro hopen
      cases hopen
  | _ => exact hidle

end TcpConnection

namespace TcpConnection

/-! ### Completions -/

theorem Intact.readDone {t : TcpConnection} (h : t.Intact) {op : SocketOp}
    (hop : op = .readHeader ∨ op = .readPayload) (hmem : op ∈ t.socket.outstanding) :
    (t.updateSocket (Socket.readDone op)).Resting := by
  refine ⟨h.update rfl rfl rfl rfl rfl fun _ hs => ?_, fun _ => rfl⟩
  rcases hop with rfl | rfl
  · exact hs.headerDone hmem
  · exact hs.payloadDone hmem

theorem Resting.setReadPacket {t : TcpConnection} (h : t.Resting) (packet : ReadPacket) :
    (t.updateSocket (Socket.setReadPacket packet)).Resting :=
  ⟨h.toIntact.update rfl rfl rfl rfl rfl fun _ hs => hs.setReadPacket packet, h.idle⟩

theorem Resting.startReadPayload {t : TcpConnection} (h : t.Resting) :
    (t.updateSocket Socket.startReadPayload).Intact := by
  apply h.toIntact.update (u := t.updateSocket Socket.startReadPayload) rfl rfl rfl rfl rfl
  intro hopen hs
  exact hs.startReadPayload (hs.unsignaled (by simp [hopen])) (h.idle hopen)

theorem Resting.asyncRead {t : TcpConnection} (h : t.Resting) :
    (t.updateSocket Socket.asyncRead).Intact := by
  have hfollows := Socket.follows_asyncRead t.socket
  apply h.toIntact.update (u := t.updateSocket Socket.asyncRead) rfl rfl rfl hfollows.closing
    hfollows.posted
  intro hopen hs
  exact hs.asyncRead (h.idle hopen)

theorem Intact.maybeSignalClosed {t : TcpConnection} (h : t.Intact) :
    (t.updateSocket Socket.maybeSignalClosed).Intact := by
  cases hclosing : t.socket.closing with
  | false =>
    have hsame : t.updateSocket Socket.maybeSignalClosed = t := by
      simp [updateSocket, Socket.maybeSignalClosed, hclosing]
    rw [hsame]
    exact h
  | true =>
    have hclosed : (t.updateSocket Socket.maybeSignalClosed).socket.closing = true :=
      (Socket.maybeSignalClosed_closing t.socket).trans hclosing
    refine ⟨?_, ?_, fun _ => h.closed hclosing, h.heartbeat⟩
    · simp [hclosed]
    · simp [hclosed]

/-- In the middle of an event that completes a write. -/
structure Written (t : TcpConnection) : Prop extends Intact t where
  idle : t.socket.closing = false → t.socket.writePending = false

theorem Intact.writeDone {t : TcpConnection} (h : t.Intact)
    (hmem : .write ∈ t.socket.outstanding) : (t.updateSocket Socket.writeDone).Written :=
  ⟨h.update rfl rfl rfl rfl rfl fun _ hs => hs.writeDone hmem, fun _ => rfl⟩

theorem Written.disconnect {t : TcpConnection} (h : t.Written) (reason : DisconnectReason) :
    (t.disconnect reason).Written := by
  refine ⟨h.toIntact.disconnect reason, ?_⟩
  rcases t.disconnect_eq reason with ⟨heq, -⟩ | ⟨-, hsocket, -⟩
  · rw [heq]
    exact h.idle
  · rw [hsocket, Socket.close_closing]
    intro hopen
    cases hopen

theorem Written.popPacket {t : TcpConnection} (h : t.Written) :
    (t.updateSocket Socket.popPacket).Written :=
  ⟨h.toIntact.update rfl rfl rfl rfl rfl fun hopen hs => hs.popPacket (h.idle hopen), h.idle⟩

theorem Written.startWritePacket {t : TcpConnection} (h : t.Written) :
    (t.updateSocket Socket.startWritePacket).Intact := by
  have hposted : t.socket.startWritePacket.posted = t.socket.posted := by
    unfold Socket.startWritePacket
    split <;> rfl
  apply h.toIntact.update (u := t.updateSocket Socket.startWritePacket) rfl rfl rfl
    (Socket.startWritePacket_closing _) hposted
  intro hopen hs
  exact hs.startWritePacket (hs.unsignaled (by simp [hopen])) (h.idle hopen)

theorem Intact.clearWasFull {t : TcpConnection} (h : t.Intact) :
    (t.updateSocket Socket.clearWasFull).Intact :=
  h.update rfl rfl rfl rfl rfl fun _ hs => hs.clearWasFull

end TcpConnection

namespace Acceptor

open TcpConnection

variable {R : Rules} {s s' : Acceptor} {k : Nat}

/-- In the middle of an event of the connection `k`, which satisfies `Q`. -/
def During (Q : TcpConnection → Prop) (k : Nat) (s : Acceptor) : Prop :=
  s.Each fun j t => t.Intact ∧ (j = k → Q t)

theorem robust_intact {allowed : Allowed} (hno : ∀ f, ¬allowed.socket f) :
    Robust allowed Intact where
  act ha h := h.act hno ha
  seated p handlerSet hs h := by
    refine ⟨h.sound, h.untold, ?_, ?_⟩
    · intro hclosing
      rw [h.closed hclosing] at hs
      cases hs
    · rintro ⟨⟩

theorem robust_resting {allowed : Allowed} (hno : ∀ f, ¬allowed.socket f) :
    Robust allowed Resting where
  act ha h := h.act hno ha
  seated p handlerSet hs h := ⟨(robust_intact hno).seated p handlerSet hs h.toIntact, h.idle⟩

theorem intact_accepted (handlerSet : Bool) (limit : Nat) :
    (accepted handlerSet { isOpen := true, writePacketsLimit := limit }).Intact := by
  constructor
  · exact fun _ => Socket.sound_fresh true limit
  · exact fun _ => ⟨rfl, rfl⟩
  · rintro ⟨⟩
  · exact fun _ => rfl

/-- Callbacks keep the sockets as they are. -/
theorem Moves.intact (hR : ∀ f, ¬R.socket f) (hm : Moves R s s')
    (h : s.Each fun _ => Intact) : s'.Each fun _ => Intact :=
  hm.each (fun _ => robust_intact hR) (fun _ _ => intact_accepted) (Nat.zero_le _) h

theorem Moves.resting (hR : ∀ f, ¬R.socket f) (hm : Moves R s s')
    (h : s.During Resting k) : s'.During Resting k := by
  apply hm.each _ _ (Nat.zero_le _) h
  · intro j
    refine ⟨fun ha hp => ⟨hp.1.act hR ha, fun hj => (hp.2 hj).act hR ha⟩, ?_⟩
    intro t p handlerSet hs hp
    exact ⟨(robust_intact hR).seated p handlerSet hs hp.1,
      fun hj => (robust_resting hR).seated p handlerSet hs (hp.2 hj)⟩
  · intro j _ handlerSet limit
    exact ⟨intact_accepted handlerSet limit, fun _ =>
      ⟨intact_accepted handlerSet limit, fun _ => rfl⟩⟩

theorem During.intact {Q : TcpConnection → Prop} (h : s.During Q k) : s.Each fun _ => Intact :=
  fun j t ht => (h j t ht).1

theorem Each.during {Q : TcpConnection → Prop} (h : s.Each fun _ => Intact)
    {f : TcpConnection → TcpConnection}
    (hf : ∀ t, s.tcp? k = some t → t.Intact → (f t).Intact ∧ Q (f t)) :
    (s.updateTcp k f).During Q k := by
  intro j u hu
  rw [tcp?_updateTcp] at hu
  split at hu
  · rename_i hj
    subst hj
    obtain ⟨t, ht, rfl⟩ := Option.map_eq_some_iff.mp hu
    obtain ⟨hintact, hq⟩ := hf t ht (h _ t ht)
    exact ⟨hintact, fun _ => hq⟩
  · rename_i hj
    exact ⟨h j u hu, fun hjk => absurd hjk.symm hj⟩

theorem During.update {P Q : TcpConnection → Prop} (h : s.During P k)
    {f : TcpConnection → TcpConnection} (hf : ∀ t, P t → (f t).Intact ∧ Q (f t)) :
    (s.updateTcp k f).During Q k :=
  h.intact.during fun t ht _ => hf t ((h k t ht).2 rfl)

theorem During.finish {P : TcpConnection → Prop} (h : s.During P k)
    {f : TcpConnection → TcpConnection} (hf : ∀ t, P t → (f t).Intact) :
    (s.updateTcp k f).Each fun _ => Intact :=
  h.intact.updateTcp k fun t ht _ => hf t ((h k t ht).2 rfl)

/-- What happens in an event of the connection `k` outside its socket. -/
def inside (k : Nat) : Rules where
  socket _ := False
  aborts := True
  ends := True
  active := (· = k)
  login _ _ := True
  errors := True
  tells _ := True

theorem inside_socket (f : Socket → Socket) : ¬(inside k).socket f := fun hf => hf

theorem During.setReadPacket (h : s.During Resting k) (packet : ReadPacket) :
    (s.updateTcp k (·.updateSocket (Socket.setReadPacket packet))).During Resting k :=
  h.update fun _ ht =>
    have hset := ht.setReadPacket packet
    ⟨hset.toIntact, hset⟩

section
variable {script : Script} {faults : Faults}

theorem intact_handleTransportError (ec : IoError) (operation : String)
    (h : s.Each fun _ => Intact) :
    (s.handleTransportError script k ec operation).Each fun _ => Intact := by
  have hmoves : Moves (inside k) s (s.handleTransportError script k ec operation) :=
    moves_handleTransportError rfl trivial ec operation
  exact hmoves.intact inside_socket h

theorem During.readFailed {Q : TcpConnection → Prop} (h : s.During Q k) (ec : IoError) :
    ((socketHandler script faults k).readFailed ec s).Each fun _ => Intact := by
  cases ec with
  | operationAborted => exact h.intact.updateTcp k fun t _ ht => ht.disconnect .unmanagedAbort
  | eof => exact h.intact.updateTcp k fun t _ ht => ht.disconnect .peerClosed
  | other code => exact intact_handleTransportError _ _ h.intact

theorem During.readSuccess (h : s.During Resting k) (packet : ReadPacket)
    (hfree : (s.tcpState k).state = .connected → s.Unpointed k) :
    (s.readSuccess script faults k packet).Each fun _ => Intact := by
  have hprocessed : Moves (inside k) s _ := moves_packetProcessed rfl trivial script
    faults packet hfree fun _ _ => trivial
  have hagain {s' : Acceptor} (h : s'.During Resting k) : (if (s'.tcpState k).isClosing then s' else
      s'.updateTcp k (·.updateSocket Socket.asyncRead)).Each fun _ => Intact := by
    split
    · exact h.intact
    · exact h.finish fun t ht => ht.asyncRead
  unfold Acceptor.readSuccess
  split
  · exact h.intact
  · exact hagain (hprocessed.resting inside_socket h)

variable (h : s.Each fun _ => Intact)
include h

theorem intact_maybeSignalClosed :
    ((socketHandler script faults k).update Socket.maybeSignalClosed s).Each fun _ => Intact :=
  h.updateTcp k fun _ _ ht => ht.maybeSignalClosed

theorem intact_headerCompleted (hfree : (s.tcpState k).state = .connected → s.Unpointed k)
    (hready : ∀ t, s.tcp? k = some t → .readHeader ∈ t.socket.outstanding)
    (result : Except IoError Bytes) :
    ((socketHandler script faults k).headerCompleted result s).Each fun _ => Intact := by
  apply intact_maybeSignalClosed
  have hdone : ((socketHandler script faults k).update (Socket.readDone .readHeader) s).During
      Resting k := h.during fun t ht hi =>
    have hresting := hi.readDone (Or.inl rfl) (hready t ht)
    ⟨hresting.toIntact, hresting⟩
  cases result with
  | error ec => exact hdone.readFailed ec
  | ok bytes =>
    have hset (packet : ReadPacket) := hdone.setReadPacket packet
    simp only [Socket.Handler.headerReceived]
    split
    · exact intact_handleTransportError _ _ hdone.intact
    · split
      · exact (hset _).finish fun t ht => ht.startReadPayload
      · refine During.readSuccess ((hset _).setReadPacket {}) _ ?_
        exact fun hs => hfree (by simpa only [socketHandler, tcpState_updateSocket] using hs)
      · have hmoves {s : Acceptor} : Moves (inside k) s
            (s.handleProtocolViolation script k .malformedHeader) :=
          moves_handleProtocolViolation rfl trivial .malformedHeader
        exact hmoves.intact inside_socket (hset _).intact

theorem intact_payloadCompleted (hfree : (s.tcpState k).state = .connected → s.Unpointed k)
    (hready : ∀ t, s.tcp? k = some t → .readPayload ∈ t.socket.outstanding)
    (result : Except IoError Bytes) :
    ((socketHandler script faults k).payloadCompleted result s).Each fun _ => Intact := by
  apply intact_maybeSignalClosed
  have hdone : ((socketHandler script faults k).update (Socket.readDone .readPayload) s).During
      Resting k := h.during fun t ht hi =>
    have hresting := hi.readDone (Or.inr rfl) (hready t ht)
    ⟨hresting.toIntact, hresting⟩
  cases result with
  | error ec => exact hdone.readFailed ec
  | ok bytes =>
    simp only [Socket.Handler.payloadReceived]
    split
    · exact intact_handleTransportError _ _ hdone.intact
    · refine During.readSuccess (hdone.setReadPacket {}) _ ?_
      exact fun hs => hfree (by simpa only [socketHandler, tcpState_updateSocket] using hs)

theorem intact_writeCompleted
    (hready : ∀ t, s.tcp? k = some t → .write ∈ t.socket.outstanding)
    (result : Except IoError Nat) :
    ((socketHandler script faults k).writeCompleted result s).Each fun _ => Intact := by
  apply intact_maybeSignalClosed
  have hdone : ((socketHandler script faults k).update Socket.writeDone s).During Written k :=
    h.during fun t ht hi =>
      have hwritten := hi.writeDone (hready t ht)
      ⟨hwritten.toIntact, hwritten⟩
  cases result with
  | error ec =>
    cases ec with
    | operationAborted => exact hdone.intact
    | eof => exact intact_handleTransportError _ _ hdone.intact
    | other code => exact intact_handleTransportError _ _ hdone.intact
  | ok n =>
    simp only [Socket.Handler.packetSent]
    split
    · exact hdone.intact
    · split
      · exact intact_handleTransportError _ _ hdone.intact
      · have hsent : (((socketHandler script faults k).update Socket.writeDone s).writeSuccess
            k).During Written k := by
          unfold writeSuccess
          split
          · exact hdone.update fun t ht =>
              have hclosed := ht.disconnect .unmanagedAbort
              ⟨hclosed.toIntact, hclosed⟩
          · exact hdone
        have hpopped := hsent.update (f := (·.updateSocket Socket.popPacket)) fun t ht =>
          have hp := ht.popPacket
          ⟨hp.toIntact, hp⟩
        split
        · exact hpopped.finish fun t ht => ht.startWritePacket
        · split
          · have hcleared := hpopped.intact.updateTcp k (f := (·.updateSocket Socket.clearWasFull))
              fun t _ ht => ht.clearWasFull
            exact (moves_writeBufferEmpty (R := inside k)).intact inside_socket hcleared
          · exact hpopped.intact

omit h in
theorem intact_emplace (script : Script) (faults : Faults) (h : s.Each fun _ => Intact) (limit : Nat) :
    (s.emplace script faults { isOpen := true, writePacketsLimit := limit }).Each
      fun _ => Intact := by
  obtain ⟨s', hmade, heq⟩ := emplace_eq script faults s limit
  rw [heq]
  have hnew : s.During Resting s.connections.length := by
    refine fun j t ht => ⟨h j t ht, ?_⟩
    rintro rfl
    simp [tcp?] at ht
  have hresting := (hmade (inside s.connections.length) rfl trivial).resting inside_socket hnew
  exact hresting.finish fun t ht => ht.asyncRead

omit h in
theorem intact_acceptSuccess (h : s.Each fun _ => Intact) :
    (s.acceptSuccess script faults).Each fun _ => Intact := by
  have hmoves : Moves (inside 0) s (s.notify script s.handlerSet (.acceptor .acceptSuccess)) :=
    moves_notify _ trivial
  have htold := hmoves.intact inside_socket h
  have hmade := intact_emplace script faults htold s.writePacketsLimit
  have hagain {s' : Acceptor} (h : s'.Each fun _ => Intact) :
      (s'.updateSocketAcceptor SocketAcceptor.asyncAccept).Each fun _ => Intact := h.same rfl
  unfold acceptSuccess
  dsimp only
  apply hagain
  split
  · refine hmade.updateTcp _ fun t _ ht => ?_
    have hsent (text : Bytes) : Act (inside 0).toAllowed t (t.sendDebugPacket text).2 :=
      .debug text t
    exact ht.act inside_socket (hsent _)
  · exact hmade

omit h in
/-- A connection is made, and begins to read. -/
theorem intact_acceptCompleted (h : s.Each fun _ => Intact) (ec : Option IoError) :
    (s.acceptCompleted script faults ec).Each fun _ => Intact := by
  have hdone : (s.updateSocketAcceptor SocketAcceptor.acceptDone).Each fun _ => Intact := h.same rfl
  unfold acceptCompleted
  dsimp only
  split
  · exact intact_acceptSuccess hdone
  · exact hdone
  · rename_i ec _
    have hfailed {s : Acceptor} : Moves (inside 0) s (s.notify script s.handlerSet
        (.acceptor (.acceptFailure ec))) := moves_notify _ trivial
    exact (hfailed.intact inside_socket hdone).same rfl

end

/-! ## Events -/

theorem Joined.intact_handle {asked : Nat → LoginRequestPacket → Prop} (hjoined : s.Joined asked)
    (h : s.Each fun _ => Intact) (env : Env) {event : Event} (hready : s.ready event = true) :
    (s.handle env event).Each fun _ => Intact := by
  have hmoves (hevent : event.usesSocket = false) : (s.handle env event).Each fun _ => Intact := by
    apply (moves_handle env hready fun _ => hjoined.unpointed).intact _ h
    intro f hf
    exact absurd hf.1 (by simp [hevent])
  cases event with
  | acceptCompleted ec => exact intact_acceptCompleted h ec
  | headerCompleted k result =>
    apply intact_headerCompleted h hjoined.unpointed
    intro t ht
    simpa [ready, ht] using hready
  | payloadCompleted k result =>
    apply intact_payloadCompleted h hjoined.unpointed
    intro t ht
    simpa [ready, ht] using hready
  | writeCompleted k result =>
    apply intact_writeCompleted h
    intro t ht
    simpa [ready, ht] using hready
  | _ => exact hmoves rfl

/-- In every run each connection is intact. -/
theorem intact_run {s₀ : Acceptor} (h₀ : s₀.Idle) {inputs : List (Event × Env)}
    (hrun : system.Run s₀ inputs s) : s.Each fun _ => Intact := by
  induction hrun with
  | refl =>
    intro j t ht
    simp [tcp?, h₀.connections] at ht
  | step input hrun hready ih => exact (joined_run h₀ hrun).intact_handle ih input.2 hready

end Acceptor
end SoupBin.ServerSide
