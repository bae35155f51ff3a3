import SoupBin.ClientConduct

/-!
# The course of an event

An event is made of moves, with at most one step between them that is none: a
connection is established, freed or opened again, or the client is started or
stopped.
-/

namespace SoupBin.ClientSide

/-- The calls that the user makes from inside callbacks. -/
def Env.during (env : Env) (facts : Facts) : Rules :=
  { facts with call := fun call => ∃ cb, env.Makes env.depth cb call, errors := True }

/-- The calls that the user makes from inside `cb`. -/
def Env.inside (env : Env) (facts : Facts) (cb : Callback) : Rules :=
  { facts with call := env.Makes env.depth cb, errors := False }

theorem Env.Makes.called {env : Env} {depth : Nat} {cb : Callback} {call : Call}
    (h : env.Makes depth cb call) : ∃ cb, call ∈ env.calls cb := by
  induction h with
  | here hc => exact ⟨_, hc⟩
  | nested _ _ _ ih => exact ih

/-- More calls. -/
def Rules.with (R : Rules) (p : Call → Prop) : Rules := { R with call call := p call ∨ R.call call }

namespace Client

/-- The packet that the connection `i` is reading. -/
def readPacket (i : Nat) (c : Client) : ReadPacket :=
  match c.tcp? i with
  | none => {}
  | some t => t.socket.readPacket

/-- The packet that is complete with the event, and the connection that reads it. -/
def packetRead (c : Client) : Event → Option (Nat × ReadPacket)
  | .headerCompleted i (.ok bytes) =>
    match { c.readPacket i with header := bytes }.resizePayload with
    | (.emptyPayload, packet) => some (i, packet)
    | _ => none
  | .payloadCompleted i (.ok bytes) => some (i, { c.readPacket i with payload := bytes })
  | _ => none

/-- The event would pass on sequenced data after the end of the session. -/
def late (event : Event) (c : Client) : Bool :=
  (c.packetRead event).any fun read => c.passesLate read.1 read.2

/-- The event aborts a read although the socket has not been closed. -/
def abortsRead (event : Event) (c : Client) : Bool :=
  match event with
  | .headerCompleted i (.error .operationAborted)
  | .payloadCompleted i (.error .operationAborted) => (c.tcp? i).any fun t => !t.socket.closing
  | _ => false

def facts (event : Event) (c : Client) : Facts where
  late := c.late event = true
  aborts := c.abortsRead event = true

/-- The slot is emptied before `disconnect` is called. -/
def freed (i : Nat) (c : Client) : Client :=
  (c.updateConnection i (·.setConnection none)).log (.onClosed i)

/-- The end of `schedule_reconnect`. -/
inductive Scheduled (R : Rules) (faults : Faults) (i : Nat) (c : Client) : Client → Prop where
  | running : c.reconnecting i = true → Scheduled R faults i c c
  | failed {c' : Client} : c.reconnecting i = false → faults.reconnectTimer ≠ none → Moves R c c' →
      Scheduled R faults i c c'
  | begun : c.reconnecting i = false → faults.reconnectTimer = none → Scheduled R faults i c
      ((c.updateConnection i (·.updateReconnectTimer (ReconnectTimer.setStarted true))
        ).updateConnection i (·.updateReconnectTimer ReconnectTimer.startWait))

/-- `on_closed`. -/
inductive Closes (env : Env) (facts : Facts) (i : Nat) (reason : DisconnectReason) (c : Client) :
    Client → Prop where
  | idle {handlerSet : Bool} {c' : Client} :
      Moves (env.inside facts (.connection i (.disconnect reason)))
        ((c.freed i).log (.called handlerSet (.connection i (.disconnect reason)))) c' →
      c.started = false ∨ isRetryable reason = false → Closes env facts i reason c c'
  | rescheduled {handlerSet : Bool} {delay : Nat} {c' c'' c''' : Client} :
      c.started = true → isRetryable reason = true →
      Moves (env.inside facts (.connection i (.disconnect reason)))
        ((c.freed i).log (.called handlerSet (.connection i (.disconnect reason)))) c' →
      Moves (env.inside facts (.connection i (.reconnectScheduled delay)))
        (c'.updateConnection i Connection.nextDelay) c'' →
      Scheduled (env.during facts) (env.faults i) i c'' c''' → Closes env facts i reason c c'''

/-- The reconnect timer of `i` is stopped by its own expiry. -/
def stopReconnect (i : Nat) (c : Client) : Client :=
  c.updateConnection i (·.updateReconnectTimer (ReconnectTimer.setStarted false))

inductive Course (env : Env) (c : Client) (event : Event) : Client → Prop where
  | moves {c' : Client} : Moves ((env.during (c.facts event)).with (event = .call ·)) c c' →
      Course env c event c'
  | connected {i : Nat} {c' c'' : Client} : event = .connectCompleted i none →
      c'.tcpState i = c.tcpState i → Moves (env.during (c.facts event)) c c' →
      Moves (env.during (c.facts event)) (c'.updateTcp i (·.setState .connected)) c'' →
      Course env c event c''
  | closed {i : Nat} {t : TcpConnection} {c' c'' : Client} :
      Moves (env.during (c.facts event)) c c' → c'.tcp? i = some t → t.socketClosed = true →
      Closes env (c.facts event) i t.state.reason c' c'' → c'.tcpState i = c.tcpState i →
      Course env c event c''
  | reopened {i epoch : Nat} {t : TcpConnection} {c' c'' : Client} :
      event = .reconnectTimerWait i epoch none →
      Moves (env.during (c.facts event)) c c' → c'.reconnecting i = true →
      Moves (env.during (c.facts event)) ((c'.stopReconnect i).vacate i) c'' → t.Fresh →
      Course env c event (c''.install i t)
  | failed {i epoch : Nat} {ec : IoError} {c' c'' : Client} :
      event = .reconnectTimerWait i epoch (some ec) →
      (c.connections[i]?.any fun conn => conn.reconnectTimer.epoch == epoch) = true →
      Moves (env.during (c.facts event)) c c' → c'.reconnecting i = true →
      Moves (env.during (c.facts event)) (c'.stopReconnect i) c'' → Course env c event c''
  | started {k : Nat} {c' : Client} : event = .posted k → c.posted[k]? = some .start →
      c.started = false →
      Moves ((env.during (c.facts event)).with fun call => ∃ i, call = .connect i)
        { c with posted := c.posted.eraseIdx k, started := true } c' → Course env c event c'
  | stopped {k : Nat} {c' : Client} : event = .posted k → c.posted[k]? = some .stop →
      c.started = true →
      Moves ((env.during (c.facts event)).with fun call => ∃ i, call = .close i)
        { c with posted := c.posted.eraseIdx k, started := false } c' → Course env c event c'

/-! ## Every event takes its course -/

theorem Moves.with {R : Rules} {c c' : Client} (h : Moves R c c') (p : Call → Prop) :
    Moves (R.with p) c c' :=
  h.mono (S := R.with p) (fun _ => Or.inr) rfl id

section
variable {env : Env} {c : Client} {i : Nat} {l : Facts}

theorem moves_user (cb : Callback) (c : Client) : Moves (env.inside l cb) c (env.user cb c) :=
  moves_reaction env env.depth cb (fun _ hc => hc) c

theorem moves_during (cb : Callback) (c : Client) : Moves (env.during l) c (env.user cb c) :=
  Moves.mono (R := env.inside l cb) (S := env.during l) (fun _ hc => ⟨cb, hc⟩) rfl
    False.elim (moves_user cb c)

theorem Moves.started {R : Rules} {c c' : Client} (h : Moves R c c') : c'.started = c.started := by
  induction h with
  | refl c => rfl
  | trans _ _ ih₁ ih₂ => exact ih₂.trans ih₁
  | aside ha => exact ha.started
  | opened _ _ _ _ _ _ _ _ ih => exact ih
  | _ => rfl

theorem Moves.known {R : Rules} {c c' : Client} (h : Moves R c c') :
    c.connections.length ≤ c'.connections.length := by
  induction h with
  | refl c => exact Nat.le_refl _
  | trans _ _ ih₁ ih₂ => exact Nat.le_trans ih₁ ih₂
  | aside ha => exact Nat.le_of_eq (congrArg List.length ha.connections).symm
  | opened _ _ _ _ _ _ _ _ ih =>
    simpa [vacate, install, updateConnection, Client.log] using ih
  | _ => simp [Client.log, setNextSequenceNumber, updateConnection, takeLogin, updateTcp, acceptLogin]

theorem course_scheduleReconnect (c : Client) (faults : Faults) :
    ∃ delay c', Moves (env.inside l (.connection i (.reconnectScheduled delay)))
        (c.updateConnection i Connection.nextDelay) c' ∧
      Scheduled (env.during l) faults i c' (c.scheduleReconnect env.user faults i) := by
  unfold Client.scheduleReconnect
  dsimp only
  generalize (c.connections[i]?.map (·.reconnectNextDelay)).getD 0 = delay
  have hcalled : Moves (env.inside l (.connection i (.reconnectScheduled delay)))
      (c.updateConnection i Connection.nextDelay)
      ((c.updateConnection i Connection.nextDelay).connectionCallback env.user i
        (.reconnectScheduled delay)) := by
    unfold Client.connectionCallback
    split
    · exact .refl _
    · exact moves_notify _ (moves_user _) rfl nofun
  refine ⟨delay, _, hcalled, ?_⟩
  generalize (c.updateConnection i Connection.nextDelay).connectionCallback env.user i
    (.reconnectScheduled delay) = c
  have htimer : ((reconnectTimerHandler env.user faults i).timer c).started =
      c.reconnecting i := by
    simp only [reconnectTimerHandler, Client.reconnecting]
    cases c.connections[i]? <;> rfl
  unfold ReconnectTimer.Handler.start
  rw [htimer]
  cases hr : c.reconnecting i with
  | true => exact .running hr
  | false =>
    cases hf : faults.reconnectTimer with
    | some ec =>
      apply Scheduled.failed hr (by simp [hf])
      apply Moves.trans _ (moves_connectionCallback moves_during (.transportError ec _) rfl
        fun _ => trivial)
      apply moves_configure_at
      intro conn hconn
      have hs : conn.reconnectTimer.started = false := by
        simpa [Client.reconnecting, hconn] using hr
      exact ⟨rfl, hs.symm, rfl, rfl⟩
    | none => exact .begun hr hf

theorem course_onClosed {c : Client} {conn : Connection} (hconn : c.connections[i]? = some conn)
    (reason : DisconnectReason) :
    Closes env l i reason c (c.onClosed env.user (env.faults i) i reason) := by
  obtain ⟨conn, hfreed⟩ : ∃ conn', (c.freed i).connections[i]? = some conn' := by
    refine ⟨conn.setConnection none, ?_⟩
    show (c.updateConnection i (·.setConnection none)).connections[i]? = _
    rw [getElem?_updateConnection, if_pos rfl, hconn]
    rfl
  have hcalled : Moves (env.inside l (.connection i (.disconnect reason)))
      ((c.freed i).log (.called conn.handlerSet (.connection i (.disconnect reason))))
      ((c.freed i).connectionCallback env.user i (.disconnect reason)) := by
    unfold Client.connectionCallback
    rw [hfreed]
    simp only [Client.notify]
    split
    · exact moves_user _ _
    · exact .refl _
  have hstarted : ((c.freed i).connectionCallback env.user i (.disconnect reason)).started =
      c.started := hcalled.started
  show Closes env l i reason c
    (if !((c.freed i).connectionCallback env.user i (.disconnect reason)).started then _ else _)
  rw [hstarted]
  split
  · rename_i hs
    exact .idle hcalled (Or.inl (by simpa using hs))
  · rename_i hs
    split
    · rename_i hr
      exact .idle hcalled (Or.inr (by simpa using hr))
    · rename_i hr
      obtain ⟨delay, c', hmoves, hscheduled⟩ := course_scheduleReconnect (l := l) (i := i)
        ((c.freed i).connectionCallback env.user i (.disconnect reason)) (env.faults i)
      exact .rescheduled (by simpa using hs) (by simpa using hr) hcalled hmoves hscheduled

variable {event : Event}

theorem tcpState_updateTcp {f : TcpConnection → TcpConnection}
    (hf : ∀ t, c.tcp? i = some t → (f t).state = t.state) :
    (c.updateTcp i f).tcpState i = c.tcpState i := by
  have hmap : (c.updateTcp i f).tcp? i = (c.tcp? i).map f := by
    simp only [tcp?, Client.updateTcp, getElem?_updateConnection]
    cases c.connections[i]? <;> rfl
  rw [tcpState, tcpState, hmap]
  cases ht : c.tcp? i with
  | none => rfl
  | some t => simp [hf t ht]

/-- A notification has been noted. -/
theorem course_noted {note : TcpConnection → TcpConnection}
    (hnote : ∀ t, c.tcp? i = some t → TcpConnection.Aside t (note t)) :
    Course env c event ((c.updateTcp i note).maybeSignalClosed env.user (env.faults i) i) := by
  have hnoted (R : Rules) : Moves R c (c.updateTcp i note) :=
    moves_updateTcp fun t ht => .aside (hnote t ht)
  unfold Client.maybeSignalClosed
  split
  · exact .moves (hnoted _)
  · rename_i t ht
    split
    · rename_i hf
      cases hconn : (c.updateTcp i note).connections[i]? with
      | none => simp [tcp?, hconn] at ht
      | some conn =>
        refine .closed (hnoted _) ht ?_ (course_onClosed hconn t.state.reason)
          (tcpState_updateTcp fun t ht => (hnote t ht).state)
        simp only [Bool.and_eq_true] at hf
        exact hf.1.1
    · exact .moves (hnoted _)

theorem course_reconnectTimerWait (epoch : Nat) (ec : Option IoError) :
    Course env c (.reconnectTimerWait i epoch ec)
      ((reconnectTimerHandler env.user (env.faults i) i).waitCompleted epoch ec c) := by
  have hwaited (R : Rules) : Moves R c ((reconnectTimerHandler env.user (env.faults i) i).update
      (ReconnectTimer.waitDone epoch) c) := moves_configure fun _ => ⟨rfl, rfl, rfl, rfl⟩
  have hepoch : ((reconnectTimerHandler env.user (env.faults i) i).timer
      ((reconnectTimerHandler env.user (env.faults i) i).update
        (ReconnectTimer.waitDone epoch) c)).epoch =
      ((c.connections[i]?.map Connection.reconnectTimer).getD {}).epoch := by
    simp only [reconnectTimerHandler, getElem?_updateConnection]
    cases c.connections[i]? <;> rfl
  unfold ReconnectTimer.Handler.waitCompleted
  dsimp only
  rw [hepoch]
  have hknown : i < c.connections.length ∨ c.connections[i]? = none := by
    by_cases hi : i < c.connections.length
    · exact Or.inl hi
    · exact Or.inr (List.getElem?_eq_none (by omega))
  generalize hw : (reconnectTimerHandler env.user (env.faults i) i).update
    (ReconnectTimer.waitDone epoch) c = w at hwaited ⊢
  have hlength : w.connections.length = c.connections.length := by
    rw [← hw]
    simp [reconnectTimerHandler, updateConnection]
  split
  · rename_i hcurrent
    unfold ReconnectTimer.Handler.onExpiry
    split
    · rename_i hs
      have hrunning : w.reconnecting i = true := by
        simp only [reconnectTimerHandler] at hs
        cases hi : w.connections[i]? with
        | none => simp [hi] at hs
        | some conn => simpa [Client.reconnecting, hi] using hs
      have hi : i < c.connections.length := by
        rcases hknown with hi | hnone
        · exact hi
        · have hw : w.connections[i]? = none := by
            rw [List.getElem?_eq_none_iff] at hnone ⊢
            omega
          simp [Client.reconnecting, hw] at hrunning
      have hconn := List.getElem?_eq_getElem hi
      cases ec with
      | some ec =>
        refine .failed rfl ?_ (hwaited _) hrunning
          (moves_connectionCallback moves_during (.transportError ec _) rfl fun _ => trivial)
        rw [hconn] at hcurrent ⊢
        exact beq_iff_eq.mpr hcurrent.symm
      | none =>
        have hlt : i < (w.stopReconnect i).connections.length := by
          simpa [stopReconnect, updateConnection, hlength] using hi
        obtain ⟨c', t, hmoves, ht, heq⟩ := emplace_halves (R := env.during (c.facts
          (.reconnectTimerWait i epoch none))) (env.faults i) (fun cb _ => moves_during cb) hlt
        have hopened : Course env c (.reconnectTimerWait i epoch none) (c'.install i t) :=
          .reopened rfl (hwaited _) hrunning hmoves ht
        rw [← heq] at hopened
        exact hopened
    · exact .moves (hwaited _)
  · exact .moves (hwaited _)

theorem moves_connectFrom {R : Rules} (hcall : ∀ i, R.call (.connect i))
    (hu : ∀ cb c, Moves R c (env.user cb c)) (more : Nat) :
    ∀ (i : Nat) (c : Client), Moves R c (connectFrom env.user env.faults more i c) := by
  induction more with
  | zero => exact fun _ c => .refl c
  | succ more ih =>
    intro i c
    exact (moves_connect (fun cb _ => hu cb) (hcall i)).trans (ih (i + 1) _)

theorem course_posted {k : Nat} {posted : Posted} (hk : c.posted[k]? = some posted) :
    Course env c (.posted k) (runPosted env.user env.faults env.added posted
      { c with posted := c.posted.eraseIdx k }) := by
  have htaken (R : Rules) : Moves R c { c with posted := c.posted.eraseIdx k } :=
    .aside ⟨rfl, rfl, rfl, rfl, rfl⟩
  cases posted with
  | start =>
    simp only [runPosted]
    split
    · exact .moves (htaken _)
    · rename_i hs
      refine .started rfl hk (by simpa using hs) (moves_connectFrom ?_ ?_ _ _ _)
      · exact fun i => Or.inl ⟨i, rfl⟩
      · exact fun cb c => (moves_during cb c).with _
  | stop =>
    simp only [runPosted]
    split
    · exact .moves (htaken _)
    · rename_i hs
      refine .stopped rfl hk (by simpa using hs) (moves_map ?_)
      exact fun i _ => .close (Or.inl ⟨i, rfl⟩)

/-- Reading a header or a payload begins with two steps that `late` does not see. -/
theorem passesLate_read {f : TcpConnection → TcpConnection} (hf : ∀ t, (f t).state = t.state)
    (packet : ReadPacket) : (c.updateTcp i f).passesLate i packet = c.passesLate i packet := by
  have hstate : (c.updateTcp i f).tcpState i = c.tcpState i := tcpState_updateTcp fun t _ => hf t
  have hany : ((c.updateTcp i f).connections[i]?.any fun conn => !conn.hasSessionEnded &&
      conn.nextSequenceNumber == c.nextSequenceNumber) = c.connections[i]?.any fun conn =>
        !conn.hasSessionEnded && conn.nextSequenceNumber == c.nextSequenceNumber := by
    rw [Client.updateTcp, getElem?_updateConnection, if_pos rfl]
    cases c.connections[i]? <;> rfl
  simp only [passesLate, hstate]
  exact congrArg _ hany

theorem passesLate_update (user : User) (faults : Faults) (f : Socket → Socket)
    (packet : ReadPacket) : ((socketHandler user faults i).update f c).passesLate i packet =
      c.passesLate i packet :=
  passesLate_read (f := (·.updateSocket f)) (fun _ => rfl) packet

theorem socket_socketHandler (user : User) (faults : Faults) :
    ((socketHandler user faults i).socket c).readPacket = c.readPacket i := by
  simp only [socketHandler, readPacket]
  cases c.tcp? i <;> rfl

/-- A step of the socket leaves what is being read alone, or says what it is. -/
theorem readPacket_readDone (user : User) (faults : Faults) (op : SocketOp) :
    ((socketHandler user faults i).socket ((socketHandler user faults i).update
      (Socket.readDone op) c)).readPacket = c.readPacket i := by
  rw [socket_socketHandler]
  simp only [readPacket, socketHandler, tcp?, Client.updateTcp, getElem?_updateConnection]
  cases c.connections[i]? with
  | none => rfl
  | some conn => cases hconn : conn.connection <;> simp [Connection.updateTcp, hconn,
      TcpConnection.updateSocket, Socket.readDone]

/-- A read is aborted on a socket that is open, or has been closed. -/
theorem closing_or_aborts (user : User) (faults : Faults) (op : SocketOp) {t : TcpConnection}
    (ht : ((socketHandler user faults i).update (Socket.readDone op) c).tcp? i = some t) :
    ((c.tcp? i).any fun t => !t.socket.closing) = true ∨ t.socket.closing = true := by
  have hmap : ((socketHandler user faults i).update (Socket.readDone op) c).tcp? i =
      (c.tcp? i).map (·.updateSocket (Socket.readDone op)) := by
    simp only [socketHandler, tcp?, Client.updateTcp, getElem?_updateConnection]
    cases c.connections[i]? <;> rfl
  rw [hmap] at ht
  obtain ⟨u, hu, rfl⟩ := Option.map_eq_some_iff.mp ht
  cases hc : u.socket.closing with
  | true => exact Or.inr hc
  | false =>
    left
    simp [hu, hc]

theorem moves_headerCompleted (result : Except IoError Bytes) :
    Moves (env.during (c.facts (.headerCompleted i result))) c
      ((socketHandler env.user (env.faults i) i).headerCompleted result c) := by
  refine (moves_socket moves_during trivial).headerCompleted result ?_ ?_ (.refl c)
  rotate_left
  · rintro rfl hmoves
    exact hmoves.trans (moves_tcpDisconnect rfl fun _ t ht => closing_or_aborts _ _ _ ht)
  intro bytes packet hresult hread hmoves
  apply hmoves.trans
  apply moves_readSuccess moves_during trivial
  intro hlate
  subst hresult
  have hread : { c.readPacket i with header := bytes }.resizePayload = (.emptyPayload, packet) := by
    rw [← hread]
    unfold Socket.Handler.headerRead
    rw [← readPacket_readDone env.user (env.faults i)]
  simp only [passesLate_update] at hlate
  show c.late (.headerCompleted i (.ok bytes)) = true
  rw [late, packetRead, hread]
  exact hlate

theorem moves_payloadCompleted (result : Except IoError Bytes) :
    Moves (env.during (c.facts (.payloadCompleted i result))) c
      ((socketHandler env.user (env.faults i) i).payloadCompleted result c) := by
  refine (moves_socket moves_during trivial).payloadCompleted result ?_ ?_ (.refl c)
  rotate_left
  · rintro rfl hmoves
    exact hmoves.trans (moves_tcpDisconnect rfl fun _ t ht => closing_or_aborts _ _ _ ht)
  intro bytes hresult _ hmoves
  apply hmoves.trans
  apply moves_readSuccess moves_during trivial
  intro hlate
  subst hresult
  rw [readPacket_readDone] at hlate
  simp only [passesLate_update] at hlate
  exact hlate

/-- **The course of an event.** -/
theorem course_handle (env : Env) {event : Event} (hready : c.ready event = true) :
    Course env c event (c.handle env event) := by
  cases event with
  | call call =>
    apply Course.moves
    by_cases hconnect : ∃ i, call = .connect i
    · obtain ⟨i, rfl⟩ := hconnect
      exact moves_connect (fun cb _ c => (moves_during cb c).with _) (Or.inl rfl)
    · exact moves_call (Or.inl rfl) (fun i hi => hconnect ⟨i, hi⟩) _ _
  | posted k =>
    have hk : k < c.posted.length := by simpa [ready] using hready
    have hposted := List.getElem?_eq_getElem hk
    simp only [handle, hposted]
    exact course_posted hposted
  | connectCompleted i ec =>
    cases ec with
    | some ec =>
      have hmoves : Moves (env.during (c.facts (.connectCompleted i (some ec)))) c
          ((socketHandler env.user (env.faults i) i).connectCompleted (some ec) c) :=
        (moves_socket moves_during trivial).connectCompleted (some ec) (by simp) (.refl c)
      exact .moves (hmoves.with _)
    | none =>
      have hdone : Moves (env.during (c.facts (.connectCompleted i none))) c
          (c.updateTcp i (·.updateSocket Socket.connectDone)) :=
        moves_asideTcp (TcpConnection.aside_internal .connectDone)
      refine .connected rfl ?_ hdone ?_
      · exact tcpState_updateTcp fun _ _ => rfl
      · exact (moves_connectSuccess moves_during trivial).trans
          (moves_asideTcp (TcpConnection.aside_internal .maybeSignalClosed))
  | headerCompleted i result => exact .moves ((moves_headerCompleted result).with _)
  | payloadCompleted i result => exact .moves ((moves_payloadCompleted result).with _)
  | writeCompleted i result =>
    have hmoves : Moves (env.during (c.facts (.writeCompleted i result))) c
        ((socketHandler env.user (env.faults i) i).writeCompleted result c) :=
      (moves_socket moves_during trivial).writeCompleted result (.refl c)
    exact .moves (hmoves.with _)
  | socketClosed i =>
    apply course_noted
    intro t ht
    exact TcpConnection.aside_noteClosed (by simpa [ready, ht] using hready)
  | loginTimerWait i ec =>
    have hmoves : Moves (env.during (c.facts (.loginTimerWait i ec))) c
        ((loginTimerHandler env.user i).waitCompleted ec c) :=
      (moves_loginTimer moves_during trivial).waitCompleted ec (.refl c)
    exact .moves (hmoves.with _)
  | loginTimerStopped i => exact course_noted fun t _ => ⟨rfl, rfl, rfl, Or.inl⟩
  | heartbeatTimerWait i ec =>
    have hmoves : Moves (env.during (c.facts (.heartbeatTimerWait i ec))) c
        ((heartbeatTimerHandler env.user i).waitCompleted ec (env.faults i).heartbeatSchedule c) :=
      (moves_heartbeatTimer moves_during trivial).waitCompleted ec _ (.refl c)
    exact .moves (hmoves.with _)
  | heartbeatTimerStopped i => exact course_noted fun t _ => ⟨rfl, rfl, rfl, Or.inl⟩
  | reconnectTimerWait i epoch ec => exact course_reconnectTimerWait epoch ec

end

/-! ## What every course keeps -/

/-- `I` is kept by all steps but that of a connection that is established. -/
structure Kept (ok : Rules → Prop) (I : Client → Prop) : Prop where
  moves : ∀ {R c c'}, ok R → Moves R c c' → I c → I c'
  freed : ∀ i handlerSet reason {c}, I c →
    I ((c.freed i).log (.called handlerSet (.connection i (.disconnect reason))))
  delayed : ∀ i {c}, I c → I (c.updateConnection i Connection.nextDelay)
  timer : ∀ i f {c}, I c → I (c.updateConnection i (·.updateReconnectTimer f))
  reopened : ∀ {R i t c c'}, ok R → Moves R (c.vacate i) c' → t.Fresh → I c → I (c'.install i t)
  flagged : ∀ posted started {c}, I c → I { c with posted := posted, started := started }

/-- The rules that hold during an event are all `ok`. -/
structure Permits (ok : Rules → Prop) (env : Env) (event : Event) (facts : Facts) : Prop where
  called : ok ((env.during facts).with (event = .call ·))
  during : ok (env.during facts)
  inside : ∀ cb, ok (env.inside facts cb)
  started : ok ((env.during facts).with fun call => ∃ i, call = .connect i)
  stopped : ok ((env.during facts).with fun call => ∃ i, call = .close i)

theorem Course.keeps {ok : Rules → Prop} {I : Client → Prop} (k : Kept ok I) {env : Env}
    {event : Event} {c c' : Client} (hrules : Permits ok env event (c.facts event))
    (hconnected : ∀ i c', event = .connectCompleted i none → c'.tcpState i = c.tcpState i →
      I c' → I (c'.updateTcp i (·.setState .connected)))
    (hcourse : Course env c event c') (h : I c) : I c' := by
  cases hcourse with
  | moves hm => exact k.moves hrules.called hm h
  | connected hevent hstate hm hm' =>
    exact k.moves hrules.during hm'
      (hconnected _ _ hevent hstate (k.moves hrules.during hm h))
  | closed hm _ _ hcloses =>
    have h := k.moves hrules.during hm h
    cases hcloses with
    | idle hm' _ => exact k.moves (hrules.inside _) hm' (k.freed _ _ _ h)
    | rescheduled _ _ hm' hm'' hscheduled =>
      have h := k.moves (hrules.inside _) hm' (k.freed _ _ _ h)
      have h := k.moves (hrules.inside _) hm'' (k.delayed _ h)
      cases hscheduled with
      | running _ => exact h
      | failed _ _ hm''' => exact k.moves hrules.during hm''' h
      | begun _ _ => exact k.timer _ _ (k.timer _ _ h)
  | reopened _ hm _ hm' ht =>
    exact k.reopened hrules.during hm' ht (k.timer _ _ (k.moves hrules.during hm h))
  | failed _ _ hm _ hm' =>
    exact k.moves hrules.during hm' (k.timer _ _ (k.moves hrules.during hm h))
  | started _ _ _ hm => exact k.moves hrules.started hm (k.flagged _ _ h)
  | stopped _ _ _ hm => exact k.moves hrules.stopped hm (k.flagged _ _ h)

end Client

/-! ## What every `Tcp_connection` keeps -/

/-- `Q` holds of every `Tcp_connection`, whatever is done to it. Reads are aborted on
open sockets only if `aborts` holds. -/
structure TcpConnection.Stays (aborts : Prop) (Q : TcpConnection → Prop) : Prop where
  fresh : ∀ {t}, TcpConnection.Fresh t → Q t
  act : ∀ {p t u}, (p → aborts) → TcpConnection.Act p t u → Q t → Q u
  close : ∀ {t}, Q t → Q t.close
  connected : ∀ {t}, Q t → Q (t.setState .connected)
  loggedIn : ∀ {t}, Q t → Q ((t.updateLoginTimer LoginTimer.stop).setState .loggedIn)

/-- The `Tcp_connection` in the slot, if there is one, satisfies `Q`. -/
def Connection.Slot (Q : TcpConnection → Prop) (conn : Connection) : Prop :=
  ∀ t, conn.connection = some t → Q t

namespace Connection

variable {aborts : Prop} {Q : TcpConnection → Prop} {conn : Connection}

theorem Slot.updateTcp (h : conn.Slot Q) {f : TcpConnection → TcpConnection}
    (hf : ∀ t, conn.connection = some t → Q t → Q (f t)) : (conn.updateTcp f).Slot Q := by
  intro u hu
  obtain ⟨t, ht, rfl⟩ := Option.map_eq_some_iff.mp hu
  exact hf t ht (h t ht)

theorem slot_empty (hc : conn.connection = none) : conn.Slot Q := by
  intro t ht
  rw [hc] at ht
  cases ht

theorem Act.slot {R : Rules} {i : Nat} {conn' : Connection} (hQ : TcpConnection.Stays aborts Q)
    (hR : R.aborts → aborts) (ha : Connection.Act R i conn conn') (h : conn.Slot Q) : conn'.Slot Q := by
  cases ha with
  | tcp hf => exact h.updateTcp fun t ht => hQ.act hR (hf t ht)
  | close _ => exact h.updateTcp fun _ _ => hQ.close
  | configure hc _ _ _ => exact fun t ht => h t (hc ▸ ht)
  | setSession _ _ => exact h
  | ended => exact h

end Connection

namespace Client

section
variable {aborts : Prop} {Q : TcpConnection → Prop} (hQ : TcpConnection.Stays aborts Q) {R : Rules}
  {i : Nat} {c c' : Client}
include hQ

theorem Moves.slot (hR : R.aborts → aborts) (hm : Moves R c c') :
    c.At i (Connection.Slot Q) → c'.At i (Connection.Slot Q) := by
  induction hm with
  | refl c => exact id
  | trans _ _ ih₁ ih₂ => exact fun h => ih₂ (ih₁ h)
  | aside ha => exact fun h => h.same ha.connections
  | added conn hc _ _ _ => exact fun h => h.added (Connection.slot_empty hc)
  | connection hf =>
    intro h
    apply h.update fun _ hq => hq
    rintro rfl conn hconn hq
    exact (hf conn hconn).slot hQ hR hq
  | login _ _ _ _ =>
    exact fun h => h.takeLogin _ _ (fun _ hq => hq.updateTcp fun _ _ => hQ.loggedIn) fun _ hq => hq
  | @opened _ _ j _ _ _ _ _ _ _ _ ht ih =>
    intro h
    have hvacant := h.map j (f := (·.setConnection none)) fun _ _ => Connection.slot_empty rfl
    refine (ih (hvacant.same rfl)).map j fun _ _ u hu => ?_
    cases hu
    exact hQ.fresh ht
  | _ => exact fun h => h.same rfl

theorem kept_slot (i : Nat) :
    Kept (fun R => R.aborts → aborts) (At i (Connection.Slot Q)) where
  moves hR hm h := hm.slot hQ hR h
  freed j handlerSet reason c h := by
    have hempty := h.map j (f := (·.setConnection none)) fun _ _ => Connection.slot_empty rfl
    exact hempty.same rfl
  delayed j _ h := h.map j fun _ hq => hq
  timer j _ _ h := h.map j fun _ hq => hq
  reopened {_ j _ c _} hR hm ht h := by
    have hempty := h.map j (f := (·.setConnection none)) fun _ _ => Connection.slot_empty rfl
    refine (hm.slot hQ hR (hempty.same rfl)).map j fun _ _ u hu => ?_
    cases hu
    exact hQ.fresh ht
  flagged _ _ _ h := h.same rfl

theorem slot_handle (env : Env) {event : Event} (hready : c.ready event = true)
    (habort : c.abortsRead event = true → aborts) (h : c.At i (Connection.Slot Q)) : (c.handle env event).At i (Connection.Slot Q) := by
  apply (course_handle env hready).keeps (kept_slot hQ i)
    ⟨habort, habort, fun _ => habort, habort, habort⟩ _ h
  exact fun j _ _ _ h => h.map j fun _ hq => hq.updateTcp fun _ _ => hQ.connected

end

end Client
end SoupBin.ClientSide
