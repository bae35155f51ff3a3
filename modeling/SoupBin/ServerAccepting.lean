import SoupBin.ServerConduct

/-!
# When an acceptor stops accepting

`stop` closes the socket acceptor; what asio then still holds are the accepts
that are in flight. Each completes with `operation_aborted`, unless it was
completed already when `stop` ran.
-/

namespace SoupBin.ServerSide
namespace Acceptor

/-! ## What the connections do not concern -/

/-- What is known of the rest of an acceptor, whatever becomes of its record, its
ports and its connections. -/
structure Apart (I : Acceptor → Prop) : Prop where
  log : ∀ entry s, I s → I (s.log entry)
  port : ∀ p f s, I s → I (s.updatePort p f)
  slot : ∀ k f s, I s → I (s.updateSlot k f)
  call : ∀ call s, I s → I (Call.run s call)

namespace Apart

variable {I : Acceptor → Prop} {script : Script} {faults : Faults} {k : Nat} {s : Acceptor}

section
variable (a : Apart I)
include a

theorem tcp (f : TcpConnection → TcpConnection) (h : I s) : I (s.updateTcp k f) := a.slot k _ s h

theorem notify (handlerSet : Bool) (cb : Callback) (h : I s) : I (s.notify script handlerSet cb) := by
  have hcalls (calls : List Call) (s : Acceptor) (h : I s) : I (calls.foldl Call.run s) := by
    induction calls generalizing s with
    | nil => exact h
    | cons call calls ih => exact ih _ (a.call call s h)
  have hlog := a.log (.called handlerSet cb) s h
  unfold Acceptor.notify
  dsimp only
  split
  · exact hcalls _ _ hlog
  · exact hlog

theorem acceptorCallback (cb : AcceptorCallback) (h : I s) :
    I (s.acceptorCallback script k cb) := by
  unfold Acceptor.acceptorCallback
  split
  · exact h
  · exact a.notify _ _ h

theorem portCallback (cb : PortCallback) (h : I s) : I (s.portCallback script k cb) := by
  unfold Acceptor.portCallback
  split
  · exact h
  · split
    · exact a.log _ _ h
    · exact a.notify _ _ h

theorem eitherCallback (portCb : PortCallback) (acceptorCb : AcceptorCallback) (h : I s) :
    I (s.eitherCallback script k portCb acceptorCb) := by
  unfold Acceptor.eitherCallback
  split
  · exact h
  · split
    · exact a.portCallback _ h
    · exact a.acceptorCallback _ h

theorem handleTransportError (ec : IoError) (operation : String) (h : I s) :
    I (s.handleTransportError script k ec operation) := a.tcp _ (a.eitherCallback _ _ h)

theorem handleProtocolViolation (error : PacketError) (h : I s) :
    I (s.handleProtocolViolation script k error) :=
  a.tcp _ (a.eitherCallback _ _ (a.log _ _ h))

theorem loginTimer : (loginTimerHandler script k).Keeps I where
  update _ _ h := a.tcp _ h
  loginTimerError ec operation _ h := a.handleTransportError ec operation h
  loginTimerExpired _ h := a.tcp _ h

theorem heartbeatTimer : (heartbeatTimerHandler script k).Keeps I where
  update _ _ _ h := a.tcp _ h
  heartbeatTimerError ec operation _ h := a.handleTransportError ec operation h
  heartbeatSendDue _ h := a.tcp _ h
  heartbeatReceiveTimeout _ h := a.tcp _ h

theorem acceptLogin (response : LoginAcceptedPacket) (h : I s) :
    I (s.acceptLogin script faults k response) := by
  have htold : I (((s.log (.loginAccepted k response)).updateTcp k (·.setState .loggedIn)
      ).portCallback script k (.loginSuccess response)) :=
    a.portCallback _ (a.tcp _ (a.log _ s h))
  have hflagged := a.tcp (k := k) (·.setHeartbeatTimerStopped false) htold
  exact a.tcp _ (a.heartbeatTimer.start faults.heartbeatTimer faults.heartbeatSchedule
    (fun h => a.tcp _ h) hflagged)

theorem rejectLogin (reject : LoginReject) (h : I s) : I (s.rejectLogin script k reject) :=
  a.tcp _ (a.tcp _ (a.acceptorCallback _ h))

theorem onLoginRequestAt (p : Nat) (port : Port) (request : LoginRequestPacket) (h : I s) :
    I (s.onLoginRequestAt p k port request).2 := by
  unfold Acceptor.onLoginRequestAt
  split
  · exact h
  · split
    · exact h
    · apply a.tcp
      apply a.port
      split
      · exact h
      · exact a.tcp _ h

theorem onLoginRequest (request : LoginRequestPacket) (h : I s) :
    I (s.onLoginRequest k request).2 := by
  unfold Acceptor.onLoginRequest
  split
  · exact h
  · split
    · exact h
    · exact a.onLoginRequestAt _ _ _ h

theorem processLoginRequest (data : Bytes) (h : I s) :
    I (s.processLoginRequest script faults k data).2 := by
  have hanswered : I (s.answerLogin script k data).2 :=
    a.onLoginRequest _ (a.acceptorCallback _ (a.tcp _ h))
  unfold Acceptor.processLoginRequest
  split
  · exact h
  · split
    · exact h
    · split
      · rename_i heq
        rw [heq] at hanswered
        exact a.acceptLogin _ hanswered
      · rename_i heq
        rw [heq] at hanswered
        exact a.rejectLogin _ hanswered

theorem processUnsequencedData (data : Bytes) (h : I s) :
    I (s.processUnsequencedData script k data).2 := by
  unfold Acceptor.processUnsequencedData
  split
  · exact h
  · dsimp only
    split
    · exact a.tcp _ h
    · exact a.portCallback _ (a.tcp _ h)

theorem processClientHeartbeat (size : Nat) (h : I s) :
    I (s.processClientHeartbeat k size).2 := by
  unfold Acceptor.processClientHeartbeat
  split
  · exact h
  · split
    · exact h
    · exact a.tcp _ h

theorem processLogoutRequest (size : Nat) (h : I s) :
    I (s.processLogoutRequest script k size).2 := by
  unfold Acceptor.processLogoutRequest
  split
  · exact h
  · split
    · exact h
    · exact a.tcp _ (a.portCallback _ h)

theorem processPacket (packet : ReadPacket) (h : I s) :
    I (s.processPacket script faults k packet).2 := by
  unfold Acceptor.processPacket
  dsimp only
  split
  · exact a.eitherCallback _ _ h
  · split
    · exact a.processLoginRequest _ h
    · split
      · exact a.processUnsequencedData _ h
      · split
        · exact a.processClientHeartbeat _ h
        · split
          · exact a.processLogoutRequest _ h
          · exact h

theorem readSuccess (packet : ReadPacket) (h : I s) : I (s.readSuccess script faults k packet) := by
  have hagain {s' : Acceptor} (h : I s') : I (if (s'.tcpState k).isClosing then s'
      else s'.updateTcp k (·.updateSocket Socket.asyncRead)) := by
    split
    · exact h
    · exact a.tcp _ h
  have hprocessed : I (s.processPacket script faults k packet).2 := a.processPacket packet h
  have hreported : I (if (s.processPacket script faults k packet).1 ≠ .none then
      (s.processPacket script faults k packet).2.handleProtocolViolation script k
        (s.processPacket script faults k packet).1
      else (s.processPacket script faults k packet).2) := by
    split
    · exact a.handleProtocolViolation _ hprocessed
    · exact hprocessed
  unfold Acceptor.readSuccess
  split
  · exact h
  · exact hagain hreported

theorem writeSuccess (h : I s) : I (s.writeSuccess k) := by
  unfold Acceptor.writeSuccess
  split
  · exact a.tcp _ h
  · exact h

theorem writeBufferEmpty (h : I s) : I (s.writeBufferEmpty script k) := by
  unfold Acceptor.writeBufferEmpty
  split
  · exact h
  · split
    · exact a.portCallback _ h
    · exact h

theorem socket : (socketHandler script faults k).Keeps I where
  update _ _ _ h := a.tcp _ h
  connectFailure _ _ h := a.log _ _ h
  connectSuccess _ h := a.log _ _ h
  readFailure ec _ h := a.handleTransportError ec _ h
  readPacketFailure error _ h := a.handleProtocolViolation error h
  readSuccess packet _ h := a.readSuccess packet h
  readAborted _ h := a.tcp _ h
  readEndOfFile _ h := a.tcp _ h
  writeFailure ec _ h := a.handleTransportError ec _ h
  writeSuccess _ _ h := a.writeSuccess h
  writeBufferEmpty _ h := a.writeBufferEmpty h

theorem maybeSignalClosed (h : I s) : I (s.maybeSignalClosed script k) := by
  unfold Acceptor.maybeSignalClosed
  split
  · exact h
  · rename_i t _
    split
    · dsimp only
      have hgone {s : Acceptor} (h : I s) : I (s.onClosed script k t) := by
        have hlogged := a.log (.onClosed k) _ (a.slot k (fun _ => none) _ h)
        unfold onClosed
        dsimp only
        split <;> exact a.notify _ _ hlogged
      split
      · exact hgone h
      · exact hgone (a.port _ _ _ h)
    · exact h

theorem endSessionOf (p : Nat) (h : I s) : I (s.endSessionOf p) := by
  unfold Acceptor.endSessionOf
  split
  · exact h
  · rename_i port _
    split
    · exact h
    · have hended := a.port p Port.setSessionEnded s h
      rcases (s.updatePort p Port.setSessionEnded).sendWith_eq
        (·.sendPacket (.ofType EndOfSessionPacket.packetType)) port.connection with
        heq | ⟨k, -, heq⟩
      · rw [heq]
        exact hended
      · rw [heq]
        exact a.tcp _ hended

theorem endSessions (h : I s) : I s.endSessions := by
  have hports (ports : List Nat) (s : Acceptor) (h : I s) :
      I (ports.foldl (fun s p => s.endSessionOf p) s) := by
    induction ports generalizing s with
    | nil => exact h
    | cons p ports ih => exact ih _ (a.endSessionOf p h)
  exact hports _ s h

end
end Apart

/-! ## What only accepting changes -/

/-- Accepting has made no difference. -/
structure SameDoor (s s' : Acceptor) : Prop where
  started : s'.started = s.started
  socketAcceptor : s'.socketAcceptor = s.socketAcceptor
  known : s'.connections.length = s.connections.length

variable {s s' : Acceptor} {script : Script} {faults : Faults}

theorem SameDoor.refl (s : Acceptor) : SameDoor s s := ⟨rfl, rfl, rfl⟩

theorem SameDoor.trans {s'' : Acceptor} (h : SameDoor s s') (h' : SameDoor s' s'') :
    SameDoor s s'' :=
  ⟨h'.started.trans h.started, h'.socketAcceptor.trans h.socketAcceptor, h'.known.trans h.known⟩

theorem sameDoor_slot (s : Acceptor) (k : Nat) (f : Option TcpConnection → Option TcpConnection) :
    SameDoor s (s.updateSlot k f) := ⟨rfl, rfl, List.length_modify _ _ _⟩

theorem sameDoor_sendWith (send : TcpConnection → WriteError × TcpConnection)
    (connection : Option Nat) (s : Acceptor) : SameDoor s (s.sendWith send connection).2 := by
  rcases s.sendWith_eq send connection with heq | ⟨k, -, heq⟩
  · rw [heq]
    exact .refl s
  · rw [heq]
    exact sameDoor_slot _ _ _

theorem sameDoor_sendMessage (p : Nat) (data : Span) (s : Acceptor) :
    SameDoor s (s.sendMessage p data).2 := by
  unfold sendMessage
  split
  · exact .refl s
  · cases data with
    | null size => exact .refl s
    | bytes data =>
      have hsent : SameDoor s
          (s.sendPacket p (.ofData SequencedDataPacket.packetType data)).2 := by
        unfold sendPacket
        split
        · exact .refl s
        · split
          · exact .refl s
          · exact sameDoor_sendWith _ _ s
      dsimp only
      split
      · exact hsent.trans ⟨rfl, rfl, rfl⟩
      · exact hsent

theorem sameDoor_call (call : Call) (s : Acceptor) : SameDoor s (call.run s) := by
  cases call with
  | setSession session =>
    simp only [Call.run, setSession]
    split <;> exact ⟨rfl, rfl, rfl⟩
  | start =>
    simp only [Call.run, start]
    split <;> exact ⟨rfl, rfl, rfl⟩
  | addPort username password handlerSet =>
    simp only [Call.run, addPort]
    split
    · exact .refl s
    · split
      · exact .refl s
      · split <;> exact ⟨rfl, rfl, rfl⟩
  | sendMessage p data => exact sameDoor_sendMessage p data s
  | sendDebug p text =>
    simp only [Call.run, sendDebug]
    split
    · exact .refl s
    · split
      · exact .refl s
      · exact sameDoor_sendWith _ _ s
  | endSession => exact ⟨rfl, rfl, rfl⟩
  | stop => exact ⟨rfl, rfl, rfl⟩
  | setHandler => exact ⟨rfl, rfl, rfl⟩
  | setWritePacketsLimit limit => exact ⟨rfl, rfl, rfl⟩
  | setDebugBanner debugBanner => exact ⟨rfl, rfl, rfl⟩
  | setPortHandler p => exact ⟨rfl, rfl, rfl⟩
  | setNextSequenceNumber p n => exact ⟨rfl, rfl, rfl⟩

theorem apart_sameDoor (s : Acceptor) : Apart (SameDoor s) where
  log _ _ h := h.trans ⟨rfl, rfl, rfl⟩
  port _ _ _ h := h.trans ⟨rfl, rfl, rfl⟩
  slot k f s' h := h.trans (sameDoor_slot s' k f)
  call call s' h := h.trans (sameDoor_call call s')

/-! ## Accepting -/

theorem sameDoor_emplace (socket : Socket) (s : Acceptor) :
    SameDoor { s with connections := s.connections ++ [some (accepted s.handlerSet socket)] }
      (s.emplace script faults socket) := by
  have a := apart_sameDoor
    { s with connections := s.connections ++ [some (accepted s.handlerSet socket)] }
  have hconstructed := a.log (.constructed s.connections.length) _ (.refl _)
  have hflagged := a.tcp (k := s.connections.length) (·.setLoginTimerStopped false) hconstructed
  have hkeeps : (loginTimerHandler script s.connections.length).Keeps (SameDoor
      { s with connections := s.connections ++ [some (accepted s.handlerSet socket)] }) :=
    a.loginTimer
  have hstarted := hkeeps.start faults.loginTimer hflagged
  exact a.tcp _ hstarted

/-- A connection is created and the next accept is initiated. -/
theorem acceptSuccess_counts (script : Script) (faults : Faults) (s : Acceptor) :
    (s.acceptSuccess script faults).started = s.started ∧
      (s.acceptSuccess script faults).socketAcceptor.accepts = s.socketAcceptor.accepts + 1 ∧
      (s.acceptSuccess script faults).connections.length = s.connections.length + 1 := by
  have htold : SameDoor s (s.notify script s.handlerSet (.acceptor .acceptSuccess)) :=
    (apart_sameDoor s).notify _ _ (.refl s)
  unfold acceptSuccess
  dsimp only
  generalize s.notify script s.handlerSet (.acceptor .acceptSuccess) = told at htold
  have hmade : SameDoor { told with connections := told.connections ++ [some (accepted
      told.handlerSet { isOpen := true, writePacketsLimit := s.writePacketsLimit })] }
      (told.emplace script faults { isOpen := true, writePacketsLimit := s.writePacketsLimit }) :=
    sameDoor_emplace _ told
  have hgreeted : SameDoor { told with connections := told.connections ++ [some (accepted
      told.handlerSet { isOpen := true, writePacketsLimit := s.writePacketsLimit })] }
      (if (told.emplace script faults { isOpen := true, writePacketsLimit := s.writePacketsLimit }
        ).debugBanner ≠ [] then (told.emplace script faults
          { isOpen := true, writePacketsLimit := s.writePacketsLimit }).updateTcp
            told.connections.length fun t => (t.sendDebugPacket (told.emplace script faults
              { isOpen := true, writePacketsLimit := s.writePacketsLimit }).debugBanner).2
        else told.emplace script faults
          { isOpen := true, writePacketsLimit := s.writePacketsLimit }) := by
    split
    · exact (apart_sameDoor _).tcp _ hmade
    · exact hmade
  refine ⟨hgreeted.started.trans htold.started, ?_, ?_⟩
  · exact congrArg (·.accepts + 1) (hgreeted.socketAcceptor.trans htold.socketAcceptor)
  · refine hgreeted.known.trans ?_
    rw [List.length_append, List.length_singleton, htold.known]

theorem acceptFailure_counts (script : Script) (ec : IoError) (s : Acceptor) :
    (s.acceptFailure script ec).started = s.started ∧
      (s.acceptFailure script ec).socketAcceptor.accepts = s.socketAcceptor.accepts + 1 ∧
      (s.acceptFailure script ec).connections.length = s.connections.length := by
  have htold : SameDoor s (s.notify script s.handlerSet (.acceptor (.acceptFailure ec))) :=
    (apart_sameDoor s).notify _ _ (.refl s)
  exact ⟨htold.started, congrArg (·.accepts + 1) htold.socketAcceptor, htold.known⟩

/-! ## Events -/

/-- An accept is completed. -/
def completesAccept (input : Event × Env) : Bool := input.1 matches .acceptCompleted _

/-- An accept is completed other than with `operation_aborted`. -/
def acceptsOrFails (input : Event × Env) : Bool :=
  match input.1 with
  | .acceptCompleted (some .operationAborted) => false
  | .acceptCompleted _ => true
  | _ => false

/-- A connection comes with it. -/
def accepts (input : Event × Env) : Bool := input.1 matches .acceptCompleted none

/-- The posted function of `start` runs. -/
def starts (input : Event × Env) (s : Acceptor) : Prop :=
  match input.1 with
  | .posted n => s.posted[n]? = some .start
  | _ => False

instance (input : Event × Env) (s : Acceptor) : Decidable (starts input s) := by
  unfold starts
  split <;> infer_instance

/-- What one event does to a stopped acceptor. -/
theorem handle_counts {input : Event × Env} (hready : s.ready input.1 = true)
    (hstopped : s.started = false) (hno : ¬starts input s) :
    (s.handle input.2 input.1).started = false ∧
      (s.handle input.2 input.1).socketAcceptor.accepts + (completesAccept input).toNat =
        s.socketAcceptor.accepts + (acceptsOrFails input).toNat ∧
      (s.handle input.2 input.1).connections.length =
        s.connections.length + (accepts input).toNat := by
  have a := apart_sameDoor s
  obtain ⟨event, env⟩ := input
  have hother {s' : Acceptor} (h : SameDoor s s') (hc : completesAccept (event, env) = false)
      (hr : acceptsOrFails (event, env) = false) (ha : accepts (event, env) = false) :
      s'.started = false ∧
        s'.socketAcceptor.accepts + (completesAccept (event, env)).toNat =
          s.socketAcceptor.accepts + (acceptsOrFails (event, env)).toNat ∧
        s'.connections.length = s.connections.length + (accepts (event, env)).toNat := by
    rw [hc, hr, ha]
    exact ⟨h.started.trans hstopped, congrArg (·.accepts) h.socketAcceptor, h.known⟩
  cases event with
  | call call => exact hother (sameDoor_call call s) rfl rfl rfl
  | posted n =>
    refine hother ?_ rfl rfl rfl
    have hn : n < s.posted.length := by simpa [ready] using hready
    simp only [starts, List.getElem?_eq_getElem hn, Option.some.injEq] at hno
    simp only [handle, List.getElem?_eq_getElem hn]
    cases hp : s.posted[n] with
    | start => exact absurd hp hno
    | endSession =>
      simp only [runPosted, hstopped, Bool.false_eq_true, ↓reduceIte]
      exact ⟨hstopped.symm, rfl, rfl⟩
    | stop =>
      simp only [runPosted, hstopped, Bool.false_eq_true, ↓reduceIte]
      exact ⟨hstopped.symm, rfl, rfl⟩
  | acceptCompleted ec =>
    have hflight : 0 < s.socketAcceptor.accepts := by simpa [ready] using hready
    have hdone : (s.updateSocketAcceptor SocketAcceptor.acceptDone).socketAcceptor.accepts =
        s.socketAcceptor.accepts - 1 := rfl
    cases ec with
    | none =>
      obtain ⟨h₁, h₂, h₃⟩ := acceptSuccess_counts env.calls env.faults
        (s.updateSocketAcceptor SocketAcceptor.acceptDone)
      refine ⟨h₁.trans hstopped, ?_, h₃⟩
      simp only [handle, acceptCompleted, h₂, hdone, completesAccept, acceptsOrFails,
        Bool.toNat_true]
      omega
    | some ec =>
      by_cases hec : ec = .operationAborted
      · subst hec
        refine ⟨hstopped, ?_, rfl⟩
        simp only [handle, acceptCompleted, hdone, completesAccept, acceptsOrFails,
          Bool.toNat_true, Bool.toNat_false]
        omega
      · obtain ⟨h₁, h₂, h₃⟩ := acceptFailure_counts env.calls ec
          (s.updateSocketAcceptor SocketAcceptor.acceptDone)
        have hfailed : s.handle env (.acceptCompleted (some ec)) =
            (s.updateSocketAcceptor SocketAcceptor.acceptDone).acceptFailure env.calls ec := by
          cases ec with
          | operationAborted => exact absurd rfl hec
          | eof => rfl
          | other code => rfl
        have hcounted : acceptsOrFails (.acceptCompleted (some ec), env) = true := by
          cases ec with
          | operationAborted => exact absurd rfl hec
          | eof => rfl
          | other code => rfl
        dsimp only
        rw [hfailed, hcounted]
        refine ⟨h₁.trans hstopped, ?_, h₃⟩
        rw [h₂, hdone]
        simp only [completesAccept, Bool.toNat_true]
        omega
  | headerCompleted k result =>
    exact hother (a.socket.headerCompleted result (.refl s)) rfl rfl rfl
  | payloadCompleted k result =>
    exact hother (a.socket.payloadCompleted result (.refl s)) rfl rfl rfl
  | writeCompleted k result =>
    exact hother (a.socket.toKeepsUnread.writeCompleted result (.refl s)) rfl rfl rfl
  | socketClosed k => exact hother (a.maybeSignalClosed (a.tcp _ (.refl s))) rfl rfl rfl
  | loginTimerWait k ec => exact hother (a.loginTimer.waitCompleted ec (.refl s)) rfl rfl rfl
  | loginTimerStopped k => exact hother (a.maybeSignalClosed (a.tcp _ (.refl s))) rfl rfl rfl
  | heartbeatTimerWait k ec =>
    exact hother (a.heartbeatTimer.waitCompleted ec env.faults.heartbeatSchedule (.refl s))
      rfl rfl rfl
  | heartbeatTimerStopped k => exact hother (a.maybeSignalClosed (a.tcp _ (.refl s))) rfl rfl rfl

/-! ## Runs -/

/-- Over `inputs`, from `s` to `s'`, no connection is created and no accept is
initiated: of those that were in flight, some have completed. -/
structure AcceptsNothing (inputs : List (Event × Env)) (s s' : Acceptor) : Prop where
  known : s'.connections.length = s.connections.length
  inFlight : s'.socketAcceptor.accepts + inputs.countP completesAccept = s.socketAcceptor.accepts

/-- Up to the next start, each accept that succeeds or fails is followed by another. -/
theorem accepts_counts {inputs : List (Event × Env)} (hstopped : s.started = false)
    (h : (system.restrict fun input s => ¬starts input s).Run s inputs s') :
    s'.started = false ∧
      s'.socketAcceptor.accepts + inputs.countP completesAccept =
        s.socketAcceptor.accepts + inputs.countP acceptsOrFails ∧
      s'.connections.length = s.connections.length + inputs.countP accepts := by
  induction h with
  | refl => exact ⟨hstopped, rfl, rfl⟩
  | @step inputs t input _ hi ih =>
    obtain ⟨hs, hflight, hknown⟩ := ih
    obtain ⟨hs', hflight', hknown'⟩ := handle_counts hi.1 hs hi.2
    have hcount (p : Event × Env → Bool) :
        (inputs ++ [input]).countP p = inputs.countP p + (p input).toNat := by
      rw [List.countP_append, List.countP_singleton]
      cases p input <;> rfl
    refine ⟨hs', ?_, ?_⟩
    · rw [hcount, hcount]
      change (t.handle input.2 input.1).socketAcceptor.accepts + _ = _
      omega
    · rw [hcount]
      change (t.handle input.2 input.1).connections.length = _
      omega

/-- Once an accept is initiated on the closed acceptor, asio completes it with
an error, and the next one too: there is no end to it. -/
theorem accept_loop_never_ends {inputs : List (Event × Env)} (hstopped : s.started = false)
    (h : (system.restrict fun input s => ¬starts input s).Run s inputs s')
    (hasio : ∀ input ∈ inputs, completesAccept input = true → acceptsOrFails input = true) :
    s'.socketAcceptor.accepts = s.socketAcceptor.accepts := by
  obtain ⟨-, hflight, -⟩ := accepts_counts hstopped h
  have hall : inputs.countP completesAccept = inputs.countP acceptsOrFails := by
    apply List.countP_congr
    intro input hmem
    refine ⟨hasio input hmem, ?_⟩
    intro hr
    obtain ⟨event, env⟩ := input
    cases event with
    | acceptCompleted ec => rfl
    | _ => cases hr
  omega

/-- **A stopped acceptor stays quiet exactly if nothing had been accepted yet.**
After `stop` and until the next start, no connection is created and no accept is
initiated if and only if the accepts that were in flight when it ran complete with
`operation_aborted`. -/
theorem stopped_is_quiet_iff {n : Nat} {env : Env} {inputs : List (Event × Env)}
    (hposted : s.posted[n]? = some .stop) (hstarted : s.started = true)
    (h : (system.restrict fun input s => ¬starts input s).Run (s.handle env (.posted n)) inputs s') :
    AcceptsNothing inputs (s.handle env (.posted n)) s' ↔
      ∀ input ∈ inputs, acceptsOrFails input = false := by
  have hstopped : (s.handle env (.posted n)).started = false := by
    simp only [handle, hposted, runPosted, hstarted, ↓reduceIte]
    rfl
  obtain ⟨-, hflight, hknown⟩ := accepts_counts hstopped h
  have hnone : (∀ input ∈ inputs, acceptsOrFails input = false) ↔
      inputs.countP acceptsOrFails = 0 := by
    simp only [List.countP_eq_zero, Bool.not_eq_true]
  rw [hnone]
  constructor
  · intro hquiet
    have := hquiet.inFlight
    omega
  · intro hz
    have hle : inputs.countP accepts ≤ inputs.countP acceptsOrFails := by
      apply List.countP_mono_left
      intro input _ ha
      obtain ⟨event, env⟩ := input
      cases event with
      | acceptCompleted ec =>
        cases ec with
        | none => rfl
        | some ec => cases ha
      | _ => cases ha
    exact ⟨by omega, by omega⟩

/-- A server that accepts, and is about to stop. -/
def aboutToStop : Acceptor := system.final {} [(.call .start, .plain), (.posted 0, .plain),
  (.call .stop, .plain)]

theorem stopped_is_quiet_iff_aborted :
    let stopped := aboutToStop.handle .plain (.posted 0)
    let s' := stopped.handle .plain (.acceptCompleted (some .operationAborted))
    AcceptsNothing [(.acceptCompleted (some .operationAborted), .plain)] stopped s' := by
  intro stopped s'
  have hrun : (system.restrict fun input s => ¬starts input s).Run stopped
      [(.acceptCompleted (some .operationAborted), .plain)] s' :=
    System.run_of_admits (by decide +kernel)
  exact (stopped_is_quiet_iff (by decide +kernel) (by decide +kernel) hrun).mpr (by decide +kernel)

/-- A client had been accepted when `stop` ran: a connection is created, and the
accepts that follow fail one after the other. -/
theorem accepts_after_stop :
    ∃ s s' : Acceptor, system.Run {} [(.call .start, .plain), (.posted 0, .plain),
        (.call .stop, .plain)] s ∧ s.posted[0]? = some .stop ∧ s.started = true ∧
      (system.restrict fun input s => ¬starts input s).Run (s.handle .plain (.posted 0))
        [(.acceptCompleted none, .plain), (.acceptCompleted (some (.other 9)), .plain),
          (.acceptCompleted (some (.other 9)), .plain)] s' ∧
      s'.connections.length = 1 ∧ s'.socketAcceptor.accepts = 1 ∧
      ¬AcceptsNothing [(.acceptCompleted none, .plain), (.acceptCompleted (some (.other 9)), .plain),
        (.acceptCompleted (some (.other 9)), .plain)] (s.handle .plain (.posted 0)) s' := by
  refine ⟨aboutToStop, _, System.run_of_admits (by decide +kernel), by decide +kernel,
    by decide +kernel, System.run_of_admits (by decide +kernel), by decide +kernel,
    by decide +kernel, ?_⟩
  intro h
  exact absurd h.known (by decide +kernel)

end Acceptor
end SoupBin.ServerSide
