import SoupBin.ClientCourse
import SoupBin.ClientFeed
import SoupBin.ServerLinks

/-!
# The cause of a disconnect

Connections are disconnected for a dozen reasons, on paths that may follow each
other. The handler is told one of them, once the connection is gone.
-/

namespace SoupBin

namespace ConnectionState

/-- `reason` is the first that was given when the state became `disconnecting`
or `disconnected`. -/
structure FirstCause (c : ConnectionState) (reason : DisconnectReason) : Prop where
  first : c.causes.head? = some reason
  given : reason ≠ .none
  managed : reason ≠ .unmanagedAbort

/-- No reason has been given. -/
structure Untouched (c : ConnectionState) : Prop where
  causes : c.causes = []
  reason : c.reason = .none

/-- The reason that is kept is the first. -/
def Caused (c : ConnectionState) : Prop := c.FirstCause c.reason

variable {c : ConnectionState}

theorem Untouched.initiateDisconnect (h : c.Untouched) (hc : c.isClosing = false)
    {pending : DisconnectReason} (hp : pending ≠ .none ∧ pending ≠ .unmanagedAbort) :
    (c.initiateDisconnect pending).2.Caused := by
  simp only [ConnectionState.initiateDisconnect, hc, Bool.false_eq_true, ↓reduceIte]
  exact ⟨by simp [h.causes], hp.1, hp.2⟩

theorem Untouched.disconnect (h : c.Untouched) (hc : c.state ≠ .disconnected)
    {observed : DisconnectReason} (ho : observed ≠ .none ∧ observed ≠ .unmanagedAbort) :
    (c.disconnect observed).2.Caused := by
  simp only [ConnectionState.disconnect, hc, ↓reduceIte, h.reason]
  exact ⟨by simp [h.causes], ho.1, ho.2⟩

/-- Whatever further causes follow. -/
theorem Caused.disconnect (h : c.Caused) (observed : DisconnectReason) :
    (c.disconnect observed).2.Caused := by
  unfold ConnectionState.disconnect
  split
  · exact h
  · simp only [h.given, ↓reduceIte]
    refine ⟨?_, h.given, h.managed⟩
    show (c.causes ++ [observed]).head? = some c.reason
    rw [List.head?_append, h.first]
    rfl

theorem Caused.setState (h : c.Caused) (state : State) : (c.setState state).Caused :=
  ⟨h.first, h.given, h.managed⟩

theorem Untouched.setState (h : c.Untouched) (state : State) : (c.setState state).Untouched :=
  ⟨h.causes, h.reason⟩

end ConnectionState

namespace ClientSide

/-! ## Client -/

namespace TcpConnection

variable {t u : TcpConnection}

theorem Disconnected.state_eq {reason : DisconnectReason} (h : Disconnected reason t u) :
    u.state = (t.state.disconnect reason).2 := by
  rw [h.state]
  simp only [ConnectionState.disconnect, h.before, ↓reduceIte]

/-- As long as no reason has been given the socket is open. -/
def Accountable (t : TcpConnection) : Prop :=
  (t.state.Untouched ∧ t.socket.closing = false ∧ ¬t.Signaled) ∨ t.state.Caused

theorem Disconnected.accountable {reason : DisconnectReason} (hd : Disconnected reason t u)
    (hreason : reason ≠ .none) (hopen : t.socket.closing = false → reason ≠ .unmanagedAbort)
    (h : t.Accountable) : u.Accountable := by
  right
  rw [hd.state_eq]
  rcases h with ⟨huntouched, hclosing, -⟩ | hcaused
  · exact huntouched.disconnect hd.before ⟨hreason, hopen hclosing⟩
  · exact hcaused.disconnect reason

theorem Fresh.accountable (h : Fresh t) : t.Accountable := by
  rcases h.state with ⟨hs, hopen⟩ | ⟨hs, -⟩
  · refine Or.inl ⟨by rw [hs]; exact ⟨rfl, rfl⟩, hopen, fun hsignaled => ?_⟩
    exact absurd (hopen.symm.trans (h.signaled hsignaled)) (by decide)
  · right
    rw [hs]
    exact ⟨rfl, by decide, by decide⟩

theorem stays_accountable : Stays False Accountable where
  fresh := Fresh.accountable
  act hno ha h := by
    cases ha with
    | aside ha =>
      rcases h with ⟨huntouched, hopen, hsignaled⟩ | hcaused
      · refine Or.inl ⟨ha.state ▸ huntouched, ha.closing.trans hopen, fun hs => ?_⟩
        rcases ha.signaled hs with hs | hclosing
        · exact hsignaled hs
        · exact absurd (hopen.symm.trans hclosing) (by decide)
      · exact Or.inr (ha.state ▸ hcaused)
    | disconnect reason hobserved habort hd =>
      apply hd.accountable _ _ h
      · rintro rfl
        cases hobserved
      · intro hopen haborted
        rcases habort haborted with hp | hclosing
        · exact hno hp
        · exact absurd (hopen.symm.trans hclosing) (by decide)
  close {t} h := by
    rcases t.disconnect_cases .userInitiated with heq | hd
    · rw [TcpConnection.close, heq]
      exact h
    · exact hd.accountable (by decide) (fun _ => by decide) h
  connected h := h.imp (fun h => ⟨h.1.setState _, h.2⟩) (·.setState _)
  loggedIn h := h.imp (fun h => ⟨h.1.setState _, h.2⟩) (·.setState _)

end TcpConnection

namespace Client

variable {R : Rules} {c c' : Client} {i : Nat}

/-- Who is told that a connection is gone is told the first reason that was given. -/
def TellsFirst (c : Client) (entry : Entry) : Prop :=
  ∀ handlerSet i reason, entry = .called handlerSet (.connection i (.disconnect reason)) →
    ∃ t, c.tcp? i = some t ∧ t.state.FirstCause reason

theorem tells_of_quiet (c : Client) {entry : Entry} (h : entry.isDisconnect = false) :
    c.TellsFirst entry := by
  rintro handlerSet i reason rfl
  cases h

theorem Moves.tells (hm : Moves R c c') (c₀ : Client) : Adds c₀.TellsFirst c.trace c'.trace :=
  hm.adds.mono fun _ h => c₀.tells_of_quiet h.1

theorem Closes.tells {env : Env} {facts : Facts} {reason : DisconnectReason}
    (hcloses : Closes env facts i reason c c') {c₀ : Client}
    (htold : ∀ handlerSet,
      c₀.TellsFirst (.called handlerSet (.connection i (.disconnect reason)))) :
    Adds c₀.TellsFirst c.trace c'.trace := by
  have hquiet : c₀.TellsFirst (.onClosed i) := c₀.tells_of_quiet rfl
  have hfreed (handlerSet : Bool) : Adds c₀.TellsFirst c.trace ((c.freed i).log
      (.called handlerSet (.connection i (.disconnect reason)))).trace :=
    (Adds.one _ hquiet).trans (.one _ (htold handlerSet))
  cases hcloses with
  | idle hm _ => exact (hfreed _).trans (hm.tells c₀)
  | rescheduled _ _ hm hm' hscheduled =>
    apply (((hfreed _).trans (hm.tells c₀)).trans (hm'.tells c₀)).trans
    cases hscheduled with
    | running _ => exact .refl _ _
    | failed _ _ hm => exact hm.tells c₀
    | begun _ _ => exact .refl _ _

/-- The state with a reason in it is that of a connection that is there. -/
theorem tcp_of_caused {state : ConnectionState} (hstate : state = c.tcpState i)
    (hcaused : state.Caused) : ∃ t, c.tcp? i = some t ∧ t.state.FirstCause state.reason := by
  cases ht : c.tcp? i with
  | none =>
    have hfirst := hcaused.first
    simp only [hstate, tcpState, ht] at hfirst
    cases hfirst
  | some t =>
    have heq : state = t.state := by rw [hstate, tcpState, ht]; rfl
    exact ⟨t, rfl, heq ▸ hcaused⟩

/-- Only the end of a connection tells that it is gone, and it tells the reason kept. -/
theorem Course.tells {env : Env} {event : Event} (hcourse : Course env c event c')
    (habort : c.abortsRead event = false)
    (h : ∀ i, c.At i (Connection.Slot TcpConnection.Accountable)) :
    Adds c.TellsFirst c.trace c'.trace := by
  cases hcourse with
  | moves hm => exact hm.tells c
  | connected _ _ hm hm' => exact (hm.tells c).trans (hm'.tells c)
  | @closed i t c' c'' hm ht hclosed hcloses hstate =>
    have hno : (env.during (c.facts event)).aborts → False := by
      intro ha
      exact absurd (habort.symm.trans ha) (by decide)
    have hcaused : t.state.Caused := by
      obtain ⟨conn, hconn, hslot⟩ := Option.bind_eq_some_iff.mp ht
      rcases hm.slot TcpConnection.stays_accountable hno (h i) conn hconn t hslot with
        ⟨-, -, hsignaled⟩ | hcaused
      · exact absurd (Or.inr hclosed) hsignaled
      · exact hcaused
    have htcp : t.state = c.tcpState i := by rw [← hstate, tcpState, ht]; rfl
    refine (hm.tells c).trans (hcloses.tells ?_)
    rintro _ _ _ _ ⟨⟩
    exact tcp_of_caused htcp hcaused
  | reopened _ hm _ hm' _ =>
    exact ((hm.tells c).trans (.one _ (c.tells_of_quiet rfl))).trans (hm'.tells c)
  | failed _ _ hm _ hm' => exact (hm.tells c).trans (hm'.tells c)
  | started _ _ _ hm => exact hm.tells c
  | stopped _ _ _ hm => exact hm.tells c

/-- As long as no read is aborted on an open socket, the reason that is told is the first. -/
theorem tells_handle {c₀ : Client} (h₀ : c₀.Idle) {inputs : List (Event × Env)}
    (hrun : (system.restrict fun input c => c.abortsRead input.1 = false).Run c₀ inputs c)
    (env : Env) {event : Event} (hready : c.ready event = true)
    (habort : c.abortsRead event = false) :
    Adds c.TellsFirst c.trace (c.handle env event).trace := by
  apply (course_handle env hready).tells habort
  intro i
  apply hrun.keeps (I := At i (Connection.Slot TcpConnection.Accountable))
  · intro input c hi h
    exact slot_handle TcpConnection.stays_accountable input.2 hi.1
      (fun ha => absurd (hi.2.symm.trans ha) (by decide)) h
  · intro conn hconn
    exact Connection.slot_empty (h₀.connections conn (List.mem_of_getElem? hconn)).1

end Client
end ClientSide

namespace ServerSide

/-! ## Server -/

namespace TcpConnection

variable {allowed : Allowed} {t u : TcpConnection}

/-- As long as no reason has been given the socket is open. -/
def Accountable (t : TcpConnection) : Prop :=
  (t.state.Untouched ∧ t.state.isClosing = false ∧ t.socket.closing = false ∧
    t.socket.posted = 0 ∧ t.socketClosed = false) ∨ t.state.isClosing = true ∧ t.state.Caused

/-- The state is left alone, and an open socket posts nothing. -/
theorem Accountable.update (h : t.Accountable) (hstate : u.state = t.state)
    (hclosed : u.socketClosed = t.socketClosed) (hclosing : u.socket.closing = t.socket.closing)
    (hposted : t.socket.closing = false → u.socket.posted = t.socket.posted) : u.Accountable := by
  unfold Accountable
  rw [hstate]
  refine h.imp_left ?_
  rintro ⟨huntouched, hnot, hopen, hnone, huntold⟩
  exact ⟨huntouched, hnot, hclosing.trans hopen, (hposted hopen).trans hnone,
    hclosed.trans huntold⟩

theorem Accountable.asyncWrite (h : t.Accountable) (packet : WritePacket) :
    (t.asyncWrite packet).2.Accountable := by
  have hfollows := Socket.follows_asyncWrite t.socket packet
  exact h.update rfl rfl hfollows.closing fun _ => hfollows.posted

theorem state_disconnect (reason : DisconnectReason) (t : TcpConnection) :
    (t.disconnect reason).state = (t.state.disconnect reason).2 := by
  unfold TcpConnection.disconnect ConnectionState.disconnect
  by_cases h : t.state.state = .disconnected
  · simp [h]
  · simp [h]

theorem Accountable.disconnect (h : t.Accountable) {reason : DisconnectReason}
    (hreason : reason ≠ .none)
    (hmanaged : t.state.isClosing = false → t.socket.closing = false →
      reason ≠ .unmanagedAbort) : (t.disconnect reason).Accountable := by
  rcases t.disconnect_eq reason with ⟨heq, -⟩ | ⟨hs, -, -⟩
  · rw [heq]
    exact h
  · refine Or.inr ⟨by simp [ConnectionState.isClosing, hs], ?_⟩
    rw [t.state_disconnect reason]
    rcases h with ⟨huntouched, hnot, hopen, -⟩ | ⟨-, hcaused⟩
    · refine huntouched.disconnect ?_ ⟨hreason, hmanaged hnot hopen⟩
      intro hdown
      simp [ConnectionState.isClosing, hdown] at hnot
    · exact hcaused.disconnect reason

end TcpConnection

/-- The entry tells that a connection is gone, and why. -/
def Entry.disconnect? : Entry → Option DisconnectReason
  | .called _ (.acceptor (.disconnect reason)) | .called _ (.port _ (.disconnect reason)) =>
    some reason
  | _ => none

namespace Acceptor

theorem robust_accountable {allowed : TcpConnection.Allowed} (haborts : ¬allowed.aborts)
    (hsocket : ∀ f, allowed.socket f → Socket.Handler.Internal f ∨ f = Socket.asyncRead) :
    Robust allowed TcpConnection.Accountable where
  act ha h := by
    induction ha with
    | refl t => exact h
    | trans _ _ ih₁ ih₂ => exact ih₂ (ih₁ h)
    | socket t hf =>
      rcases hsocket _ hf with hf | rfl
      · exact h.update rfl rfl (hf.closing _) hf.posted
      · have hfollows := Socket.follows_asyncRead t.socket
        exact h.update rfl rfl hfollows.closing fun _ => hfollows.posted
    | write packet t => exact h.asyncWrite packet
    | debug text t =>
      unfold TcpConnection.sendDebugPacket
      split
      · exact h
      · exact h.asyncWrite _
    | disconnect reason t hreason hmanaged =>
      refine h.disconnect hreason fun hnot hopen haborted => ?_
      rcases hmanaged haborted with ha | hclosing | hdisconnecting
      · exact haborts ha
      · exact absurd (hopen.symm.trans hclosing) (by decide)
      · simp [ConnectionState.isClosing, hdisconnecting] at hnot
    | reject reason hs hreason hmanaged =>
      rcases h with ⟨huntouched, hnot, -⟩ | ⟨hclosing, -⟩
      · refine Or.inr ⟨?_, huntouched.initiateDisconnect hnot ⟨hreason, hmanaged⟩⟩
        simp only [TcpConnection.prepareGracefulDisconnect, ConnectionState.initiateDisconnect,
          hnot]
        rfl
      · simp [ConnectionState.isClosing, hs] at hclosing
    | loginTimer f t => exact h.update rfl rfl rfl fun _ => rfl
    | heartbeatTimer _ => exact h.update rfl rfl rfl fun _ => rfl
    | loginTimerStopped stopped t => exact h.update rfl rfl rfl fun _ => rfl
    | heartbeatTimerStopped stopped t => exact h.update rfl rfl rfl fun _ => rfl
    | noteClosed hposted =>
      rcases h with ⟨-, -, -, hnone, -⟩ | hcaused
      · exact absurd hposted (by omega)
      · exact Or.inr hcaused
  seated p handlerSet hs h := by
    rcases h with ⟨huntouched, _, hopen⟩ | ⟨hclosing, -⟩
    · exact Or.inl ⟨huntouched.setState _, rfl, hopen⟩
    · simp [ConnectionState.isClosing, hs] at hclosing

variable {R : Rules} {s s' : Acceptor}

theorem accountable_handle (env : Env) {event : Event} (hready : s.ready event = true)
    (hfree : ∀ k, (s.tcpState k).state = .connected → s.Unpointed k)
    (habort : s.abortsRead event = false) (h : s.Each fun _ => TcpConnection.Accountable) :
    (s.handle env event).Each fun _ => TcpConnection.Accountable := by
  apply (moves_handle env hready hfree).each (n := 0) (P := fun _ => TcpConnection.Accountable)
  · intro _
    apply robust_accountable
    · exact fun ha => absurd (habort.symm.trans ha) (by decide)
    · exact fun f hf => hf.2
  · intro _ _ handlerSet limit
    exact Or.inl ⟨⟨rfl, rfl⟩, rfl, rfl, rfl, rfl⟩
  · exact Nat.zero_le _
  · exact h

theorem accountable_run {s₀ : Acceptor} (h₀ : s₀.Idle) {inputs : List (Event × Env)}
    (hrun : (system.restrict fun input s => s.abortsRead input.1 = false).Run s₀ inputs s) :
    s.Each fun _ => TcpConnection.Accountable := by
  induction hrun with
  | refl =>
    intro k t ht
    simp [tcp?, h₀.connections] at ht
  | step input hrun hinput ih =>
    have hjoined := joined_run h₀ hrun.of_restrict
    exact accountable_handle input.2 hinput.1 (fun _ => hjoined.unpointed) hinput.2 ih

/-- Who is told that a connection is gone is told the first reason that was given. -/
def TellsFirst (s : Acceptor) (event : Event) (entry : Entry) : Prop :=
  ∀ reason, entry.disconnect? = some reason →
    ∃ k t, s.isAbout event k ∧ s.tcp? k = some t ∧ t.state.FirstCause reason

/-- A connection that is gone has been given a reason. -/
theorem Tells.first {event : Event} {reason : DisconnectReason} {k : Nat}
    (htells : Tells event s k reason) (h : s.Each fun _ => TcpConnection.Accountable) :
    ∃ t, s.isAbout event k ∧ s.tcp? k = some t ∧ t.state.FirstCause reason := by
  obtain ⟨t, ht, rfl, hevent⟩ := htells
  rcases h k t ht with ⟨-, -, -, hnone, huntold⟩ | ⟨-, hcaused⟩
  · cases event with
    | socketClosed j => exact absurd hevent.2 (by omega)
    | loginTimerStopped j => exact absurd (huntold.symm.trans hevent.2) (by decide)
    | heartbeatTimerStopped j => exact absurd (huntold.symm.trans hevent.2) (by decide)
    | _ => exact hevent.elim
  · refine ⟨t, ?_, ht, hcaused⟩
    cases event with
    | socketClosed j => exact hevent.1
    | loginTimerStopped j => exact hevent.1
    | heartbeatTimerStopped j => exact hevent.1
    | _ => exact hevent.elim

/-- As long as no read is aborted on an open socket, the reason that is told is the first. -/
theorem tells_handle {s₀ : Acceptor} (h₀ : s₀.Idle) {inputs : List (Event × Env)}
    (hrun : (system.restrict fun input s => s.abortsRead input.1 = false).Run s₀ inputs s)
    (env : Env) {event : Event} (hready : s.ready event = true) :
    Adds (s.TellsFirst event) s.trace (s.handle env event).trace := by
  have haccountable := accountable_run h₀ hrun
  have hjoined := joined_run h₀ hrun.of_restrict
  apply (moves_handle env hready fun _ => hjoined.unpointed).adds.mono
  intro entry hnotes reason hreason
  have htells : ∃ k, Tells event s k reason := by
    cases entry with
    | called handlerSet cb =>
      cases cb with
      | acceptor cb =>
        cases cb with
        | disconnect _ =>
          cases hreason
          exact hnotes
        | _ => cases hreason
      | port p cb =>
        cases cb with
        | disconnect _ =>
          cases hreason
          exact hnotes
        | _ => cases hreason
    | _ => cases hreason
  obtain ⟨k, htells⟩ := htells
  exact ⟨k, htells.first haccountable⟩

end Acceptor
end ServerSide

/-- **The first cause is told.** In every run of a client and of a server in which no
read is aborted on a socket that is open: whatever causes follow, each
`disconnect` that a handler receives comes with the reason that was given when
its connection first became `disconnecting` or `disconnected`, and that is
neither `none` nor `unmanaged_abort`. -/
theorem first_cause_is_told :
    (∀ (c₀ : ClientSide.Client) (inputs : List (ClientSide.Event × ClientSide.Env))
      (c : ClientSide.Client), c₀.Idle →
      (ClientSide.system.restrict fun input c => c.abortsRead input.1 = false).Run c₀ inputs c →
      ∀ (env : ClientSide.Env) (event : ClientSide.Event), c.ready event = true →
        c.abortsRead event = false → Adds c.TellsFirst c.trace (c.handle env event).trace) ∧
    ∀ (s₀ : ServerSide.Acceptor) (inputs : List (ServerSide.Event × ServerSide.Env))
      (s : ServerSide.Acceptor), s₀.Idle →
      (ServerSide.system.restrict fun input s => s.abortsRead input.1 = false).Run s₀ inputs s →
      ∀ (env : ServerSide.Env) (event : ServerSide.Event), s.ready event = true →
        s.abortsRead event = false →
        Adds (s.TellsFirst event) s.trace (s.handle env event).trace := by
  constructor
  · intro c₀ inputs c h₀ hrun env event hready habort
    exact ClientSide.Client.tells_handle h₀ hrun env hready habort
  · intro s₀ inputs s h₀ hrun env event hready _
    exact ServerSide.Acceptor.tells_handle h₀ hrun env hready

/-- A read and then a write of the same socket fail. -/
def ClientSide.failsTwice : List ClientSide.Event :=
  [.call .start, .posted 0, .connectCompleted 0 none, .headerCompleted 0 (.error (.other 104)),
    .writeCompleted 0 (.error (.other 32)), .loginTimerWait 0 (some .operationAborted),
    .socketClosed 0]

/-- A connection is superseded, and then a write fails. -/
def ServerSide.supersededThenFails : List ServerSide.Event :=
  ServerSide.Acceptor.logInTwice ++ [.headerCompleted 0 (.error .operationAborted),
    .writeCompleted 0 (.error (.other 32)), .loginTimerWait 0 (some .operationAborted),
    .loginTimerStopped 0, .heartbeatTimerWait 0 (some .operationAborted), .socketClosed 0]

theorem first_cause_is_told_twice :
    let c := ClientSide.system.final ClientSide.Client.single
      (ClientSide.failsTwice.map fun event => (event, .plain))
    let s := ServerSide.system.final ServerSide.Acceptor.onePort
      (ServerSide.supersededThenFails.map fun event => (event, .plain))
    (Adds c.TellsFirst c.trace (c.handle .plain (.loginTimerStopped 0)).trace ∧
      .called true (.connection 0 (.disconnect .transportError)) ∈
        (c.handle .plain (.loginTimerStopped 0)).trace.drop c.trace.length) ∧
    Adds (s.TellsFirst (.heartbeatTimerStopped 0)) s.trace
        (s.handle .plain (.heartbeatTimerStopped 0)).trace ∧
      .called true (.port 0 (.disconnect .superseded)) ∈
        (s.handle .plain (.heartbeatTimerStopped 0)).trace.drop s.trace.length := by
  intro c s
  have hclient : (ClientSide.system.restrict fun input c => c.abortsRead input.1 = false).Run
      ClientSide.Client.single (ClientSide.failsTwice.map fun event => (event, .plain)) c :=
    System.run_of_admits (by decide +kernel)
  have hserver : (ServerSide.system.restrict fun input s => s.abortsRead input.1 = false).Run
      ServerSide.Acceptor.onePort
      (ServerSide.supersededThenFails.map fun event => (event, .plain)) s :=
    System.run_of_admits (by decide +kernel)
  have hidle : ClientSide.Client.single.Idle :=
    ⟨rfl, rfl, rfl, by simp [ClientSide.Client.single]⟩
  have htold := first_cause_is_told.1 _ _ c hidle hclient .plain (.loginTimerStopped 0)
    (by decide +kernel) (by decide +kernel)
  have htold' := first_cause_is_told.2 _ _ s ⟨rfl, rfl, by simp [ServerSide.Acceptor.onePort]⟩
    hserver .plain (.heartbeatTimerStopped 0) (by decide +kernel) (by decide +kernel)
  exact ⟨⟨htold, by decide +kernel⟩, htold', by decide +kernel⟩

end SoupBin
