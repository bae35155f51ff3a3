import SoupBin.ClientCourse
import SoupBin.ClientFeed
import SoupBin.ClientStages
import SoupBin.Lifetimes

/-!
# Failures of a client's connections

A `Tcp_connection` tells its handler that something has failed, and then is
disconnected. It does not look first whether it has been disconnected before, so
it tells of every operation that fails afterwards.
-/

namespace SoupBin.ClientSide

open Lifetimes

/-! ## What is told of a Tcp_connection -/

/-- The operations of a reconnect timer, which belongs to no `Tcp_connection`. -/
def ofReconnectTimer (operation : String) : Bool :=
  operation = "reconnect timer expires_after" || operation = "reconnect timer async_wait"

/-- The handler is told of a failure of the `Tcp_connection` of `i`. -/
def Entry.failureOf (i : Nat) : Entry → Bool
  | .called _ (.connection j (.transportError _ operation)) =>
    j = i && !ofReconnectTimer operation
  | .called _ (.connection j (.protocolViolation _)) => j = i
  | _ => false

/-- The user has closed the connection `i`. -/
def Entry.closeOf (i : Nat) : Entry → Bool
  | .closeReturned j _ => j = i
  | _ => false

/-- The `Tcp_connection` of `i` is told as closed, or another one is made. -/
def Entry.endOf (i : Nat) : Entry → Bool
  | .constructed j | .onClosed j => j = i
  | _ => false

/-- What the trace says of the slot of the connection `i`. -/
def reading (i : Nat) : Reading Entry := ⟨Entry.failureOf i, Entry.closeOf i, Entry.endOf i⟩

theorem Entry.fails_of_failureOf {i : Nat} {entry : Entry} (h : entry.failureOf i = true) :
    entry.fails = true := by
  cases entry with
  | called handlerSet cb =>
    cases cb with
    | connection j cb =>
      cases cb with
      | transportError ec operation => rfl
      | protocolViolation error => rfl
      | _ => cases h
    | _ => cases h
  | _ => cases h

theorem Entry.endOf_of_plain {entry : Entry} (h : entry.plain = true) (i : Nat) :
    entry.endOf i = false ∧ entry.closeOf i = false := by
  cases entry with
  | called handlerSet cb => exact ⟨rfl, rfl⟩
  | connectCalled j => exact ⟨rfl, rfl⟩
  | arrived n data => exact ⟨rfl, rfl⟩
  | assertionFailed => exact ⟨rfl, rfl⟩
  | _ => cases h

/-! ## Phases of a slot -/

/-- A socket is closed when its connection is first disconnected. -/
def TcpConnection.phase : Option TcpConnection → Phase
  | none => .vacant
  | some t => if t.socket.closing then .shut else .live

/-- A connection that is disconnected has closed its socket. -/
def TcpConnection.Downed (t : TcpConnection) : Prop :=
  t.state.state = .disconnected → t.socket.closing = true

theorem TcpConnection.stays_downed : Stays True Downed where
  fresh h hs := by
    rcases h.state with ⟨hstate, -⟩ | ⟨-, hclosing⟩
    · rw [hstate] at hs
      cases hs
    · exact hclosing
  act _ ha h hs := by
    cases ha with
    | aside ha => exact ha.closing.trans (h (ha.state ▸ hs))
    | disconnect _ _ _ hd => exact hd.closing
  close {t} h hs := by
    rcases t.disconnect_cases .userInitiated with heq | hd
    · rw [TcpConnection.close, heq] at hs ⊢
      exact h hs
    · exact hd.closing
  connected _ := nofun
  loggedIn _ := nofun

namespace Client

def phase (i : Nat) (c : Client) : Phase := TcpConnection.phase (c.tcp? i)

/-- The socket of the connection has been closed. -/
def shut (i : Nat) (c : Client) : Bool := (c.tcp? i).any (·.socket.closing)

theorem phase_same {i : Nat} {c c' : Client} (h : c'.tcp? i = c.tcp? i) :
    c'.phase i = c.phase i := by rw [phase, phase, h]

/-- Every connection that is disconnected has closed its socket. -/
def Sane (c : Client) : Prop := ∀ i, c.At i (Connection.Slot TcpConnection.Downed)

/-- From `a` to `b`, as the trace tells it, the slots are taken and vacated, and each
`Tcp_connection` tells of one failure at most. -/
def Reports (a b : Client) : Prop :=
  ∀ i, ∃ added, b.trace = a.trace ++ added ∧ Lives (reading i) (a.phase i) added (b.phase i)

/-- The same, and connections that are disconnected have closed their sockets. -/
def Orderly (a b : Client) : Prop := a.Sane → b.Sane ∧ Reports a b

theorem Reports.refl (c : Client) : Reports c c := fun _ => ⟨[], by simp, .refl⟩

theorem Reports.trans {a b c : Client} (h : Reports a b) (h' : Reports b c) : Reports a c := by
  intro i
  obtain ⟨added, hb, hadded⟩ := h i
  obtain ⟨more, hc, hmore⟩ := h' i
  refine ⟨added ++ more, ?_, hadded.trans hmore⟩
  rw [hc, hb, List.append_assoc]

theorem Orderly.refl (c : Client) : Orderly c c := fun hs => ⟨hs, .refl c⟩

theorem Orderly.trans {a b c : Client} (h : Orderly a b) (h' : Orderly b c) : Orderly a c := by
  intro hs
  obtain ⟨hb, hab⟩ := h hs
  obtain ⟨hc, hbc⟩ := h' hb
  exact ⟨hc, hab.trans hbc⟩

variable {R : Rules} {a b c : Client}

/-! ### Steps that tell of no failure -/

/-- Nothing is recorded, and the slots are as they were. -/
theorem reports_same (ht : b.trace = a.trace) (hp : ∀ i, b.tcp? i = a.tcp? i) : Reports a b := by
  intro i
  refine ⟨[], by simpa using ht, ?_⟩
  rw [phase_same (hp i)]
  exact .refl

theorem reports_log {entry : Entry} (hfails : ∀ i, entry.failureOf i = false)
    (hends : ∀ i, entry.endOf i = false)
    (hshuts : ∀ i, entry.closeOf i = true → c.phase i ≠ .live) : Reports c (c.log entry) :=
  fun i => ⟨[entry], rfl, Lives.refl.told (hfails i) (hends i) (hshuts i)⟩

theorem tcp?_updateConnection_other {i j : Nat} (hij : i ≠ j) (f : Connection → Connection) :
    (c.updateConnection i f).tcp? j = c.tcp? j := by
  rw [tcp?_updateConnection, if_neg hij]

/-- What a connection may do to its slot outside of the trace. -/
theorem reports_updateConnection {i : Nat} {f : Connection → Connection}
    (hf : ∀ conn, c.connections[i]? = some conn →
      TcpConnection.phase (f conn).connection = TcpConnection.phase conn.connection ∨
        TcpConnection.phase conn.connection = .live ∧
          TcpConnection.phase (f conn).connection = .shut) :
    Reports c (c.updateConnection i f) := by
  intro j
  refine ⟨[], by simp, ?_⟩
  by_cases hij : i = j
  · subst hij
    unfold phase
    rw [tcp?_updateConnection, if_pos rfl, tcp?]
    cases hconn : c.connections[i]? with
    | none => exact .refl
    | some conn =>
      simp only [Option.bind_some]
      rcases hf conn hconn with heq | ⟨hlive, hshut⟩
      · rw [heq]
        exact .refl
      · rw [hlive, hshut]
        exact Lives.refl.shut
  · rw [phase_same (tcp?_updateConnection_other hij f)]
    exact .refl

theorem phase_act {i : Nat} {conn conn' : Connection}
    (ha : Connection.Act R i conn conn') :
    TcpConnection.phase conn'.connection = TcpConnection.phase conn.connection ∨
      TcpConnection.phase conn.connection = .live ∧
        TcpConnection.phase conn'.connection = .shut := by
  have hclosed {t u : TcpConnection} (hu : u.socket.closing = true) :
      TcpConnection.phase (some u) = TcpConnection.phase (some t) ∨
        TcpConnection.phase (some t) = .live ∧ TcpConnection.phase (some u) = .shut := by
    cases ht : t.socket.closing <;> simp [TcpConnection.phase, ht, hu]
  cases ha with
  | @tcp f hf =>
    rw [Connection.updateTcp]
    cases hconn : conn.connection with
    | none => exact Or.inl rfl
    | some t =>
      simp only [Option.map_some]
      cases hf t hconn with
      | aside ha => exact Or.inl (by simp [TcpConnection.phase, ha.closing])
      | disconnect _ _ _ hd => exact hclosed hd.closing
  | close _ =>
    rw [show conn.close.connection = conn.connection.map TcpConnection.close from rfl]
    cases hconn : conn.connection with
    | none => exact Or.inl rfl
    | some t =>
      rcases t.disconnect_cases .userInitiated with heq | hd
      · exact Or.inl (congrArg (fun u => TcpConnection.phase (some u)) heq)
      · exact hclosed hd.closing
  | configure hc _ _ _ => exact Or.inl (by rw [hc])
  | setSession _ _ => exact Or.inl rfl
  | ended => exact Or.inl rfl

theorem Moves.sane (hm : Moves R a b) (hs : a.Sane) : b.Sane :=
  fun i => hm.slot TcpConnection.stays_downed (fun _ => trivial) (hs i)

theorem Moves.untold (herrors : ¬R.errors) (hm : Moves R a b) {added : List Entry}
    (hadded : b.trace = a.trace ++ added) (i : Nat) : ∀ e ∈ added, e.failureOf i = false := by
  obtain ⟨more, hmore, hquiet⟩ := hm.adds
  obtain rfl := List.append_cancel_left (hmore.symm.trans hadded)
  intro e he
  rw [Bool.eq_false_iff]
  exact fun hf => herrors ((hquiet e he).2 (Entry.fails_of_failureOf hf))

/-- A `Tcp_connection` is made, whatever was in the slot. -/
theorem reports_install {i : Nat} {t : TcpConnection} (herrors : ¬R.errors)
    (hm : Moves R (c.vacate i) b) (hr : Reports (c.vacate i) b) : Reports c (b.install i t) := by
  intro j
  obtain ⟨added, hadded, hlives⟩ := hr j
  refine ⟨.constructed i :: added, ?_, ?_⟩
  · show b.trace = _
    rw [hadded]
    simp [vacate, Client.log]
  · by_cases hij : i = j
    · subst hij
      have hvacated : Lives (reading i) (c.phase i) [.constructed i] .vacant :=
        Lives.refl.ended rfl (by simp [reading, Entry.endOf])
      exact (hvacated.cons (lives_vacant (hm.untold herrors hadded i))).taken _
    · have hconstructed : Lives (reading j) (c.phase j) [.constructed i] (c.phase j) :=
        Lives.refl.told rfl (by simp [reading, Entry.endOf, hij]) (absurd · Bool.false_ne_true)
      have hvacate : (c.vacate i).phase j = c.phase j :=
        phase_same (tcp?_updateConnection_other hij _)
      have hinstall : (b.install i t).phase j = b.phase j :=
        phase_same (tcp?_updateConnection_other hij _)
      rw [hinstall]
      exact hconstructed.cons (hvacate ▸ hlives)

/-- Moves that tell of no failure. -/
theorem Moves.reports (herrors : ¬R.errors) (hm : Moves R a b) (hs : a.Sane) : Reports a b := by
  induction hm with
  | refl c => exact .refl c
  | trans hm _ ih₁ ih₂ => exact (ih₁ hs).trans (ih₂ (hm.sane hs))
  | @note c entry hplain hfails =>
    apply reports_log
    · intro i
      rw [Bool.eq_false_iff]
      exact fun hf => herrors (hfails (Entry.fails_of_failureOf hf))
    · exact fun i => (Entry.endOf_of_plain hplain i).1
    · exact fun i hclose => absurd (hclose.symm.trans (Entry.endOf_of_plain hplain i).2) (by decide)
  | @returned c j _ hdown =>
    apply reports_log (fun _ => rfl) fun _ => rfl
    intro i hclose
    obtain rfl : j = i := by simpa [Entry.closeOf] using hclose
    unfold phase
    cases ht : c.tcp? j with
    | none => decide
    | some t =>
      obtain ⟨conn, hconn, htcp⟩ := Option.bind_eq_some_iff.mp ht
      simp [TcpConnection.phase, hs j conn hconn t htcp (hdown t ht)]
  | aside ha => exact reports_same ha.trace fun i => by rw [tcp?, tcp?, ha.connections]
  | @added c conn hnone _ _ _ =>
    refine reports_same (by rfl) fun i => ?_
    simp only [tcp?, List.getElem?_append]
    split
    · rfl
    · rename_i hge
      rw [List.getElem?_eq_none (Nat.not_lt.mp hge)]
      cases hi : [conn][i - c.connections.length]? with
      | none => rfl
      | some conn' =>
        obtain rfl := List.mem_singleton.mp (List.mem_of_getElem? hi)
        exact hnone
  | next n => exact reports_same rfl fun _ => rfl
  | connection hf => exact reports_updateConnection fun conn hconn => phase_act (hf conn hconn)
  | @login c i conn t response _ _ _ _ =>
    have hstate : Reports c (c.updateTcp i fun t =>
        (t.updateLoginTimer LoginTimer.stop).setState .loggedIn) := by
      apply reports_updateConnection
      intro conn _
      rw [Connection.updateTcp]
      cases conn.connection <;> exact Or.inl rfl
    have haccepted {c : Client} : Reports c (c.acceptLogin i response) := by
      have hconn : Reports c (c.updateConnection i (·.accept response)) :=
        reports_updateConnection fun _ _ => Or.inl rfl
      exact hconn.trans (reports_log (fun _ => rfl) (fun _ => rfl) fun _ => (absurd · Bool.false_ne_true))
    exact hstate.trans haccepted
  | @deliver c n data _ _ =>
    have hnext : Reports c (c.setNextSequenceNumber ((n + 1) % 2 ^ 64)) :=
      reports_same rfl fun _ => rfl
    exact hnext.trans (reports_log (fun _ => rfl) (fun _ => rfl) fun _ => (absurd · Bool.false_ne_true))
  | @endSession c _ =>
    have hended : Reports c { c with hasSessionEnded := true } := reports_same rfl fun _ => rfl
    exact hended.trans (reports_log (fun _ => rfl) (fun _ => rfl) fun _ => (absurd · Bool.false_ne_true))
  | opened _ _ _ _ _ _ hm _ ih =>
    refine reports_install herrors hm (ih ?_)
    intro j
    exact (Client.At.map (hs j) _ fun _ _ => Connection.slot_empty rfl).same rfl

/-! ### A failure -/

/-- Whatever the user does, no failure is told from inside a callback. -/
def quietly : Rules where
  late := True
  aborts := True
  call _ := True
  errors := False

theorem moves_quietly (env : Env) (cb : Callback) (c : Client) :
    Moves quietly c (env.user cb c) := moves_reaction env env.depth cb (fun _ _ => trivial) c

theorem Moves.orderly (hm : Moves quietly a b) : Orderly a b :=
  fun hs => ⟨hm.sane hs, hm.reports id hs⟩

theorem shut_updateTcp {i : Nat} {f : TcpConnection → TcpConnection}
    (hf : ∀ t, (f t).socket.closing = t.socket.closing) : (c.updateTcp i f).shut i = c.shut i := by
  rw [shut, shut, tcp?_updateTcp]
  cases c.tcp? i with
  | none => rfl
  | some t => exact hf t

theorem shut_eq_false {i : Nat} (h : ∀ t, c.tcp? i = some t → t.socket.closing = false) :
    c.shut i = false := by
  unfold shut
  cases ht : c.tcp? i with
  | none => rfl
  | some t => exact h t ht

theorem phase_tcpDisconnect {i : Nat} (hs : c.Sane) (reason : DisconnectReason) :
    (c.tcpDisconnect i reason).phase i = if c.phase i = .vacant then .vacant else .shut := by
  rw [phase, phase, tcpDisconnect, tcp?_updateTcp]
  cases ht : c.tcp? i with
  | none => rfl
  | some t =>
    obtain ⟨conn, hconn, htcp⟩ := Option.bind_eq_some_iff.mp ht
    have hclosing : (t.disconnect reason).socket.closing = true := by
      rcases t.disconnect_cases reason with heq | hd
      · rw [heq]
        apply hs i conn hconn t htcp
        rw [← heq]
        exact TcpConnection.disconnect_state reason t
      · exact hd.closing
    have hoccupied : TcpConnection.phase (some t) ≠ .vacant := by
      unfold TcpConnection.phase
      dsimp only
      split <;> decide
    rw [if_neg hoccupied]
    simp [TcpConnection.phase, hclosing]

section
variable {user : User} {i : Nat} (hu : ∀ cb c, Moves quietly c (user cb c))
include hu

/-- The handler is told of a failure, and the connection, whose socket is open,
is disconnected. -/
theorem orderly_failed {cb : ConnectionCallback} {reason : DisconnectReason}
    (hcb : cb.isDisconnect = false) (hr : TcpConnection.observed reason = true)
    (ha : reason ≠ .unmanagedAbort) (hopen : c.shut i = false) :
    Orderly c ((c.tcpCallback user i cb).tcpDisconnect i reason) := by
  intro hs
  have hdisconnect (c : Client) : Moves quietly c (c.tcpDisconnect i reason) :=
    moves_tcpDisconnect hr fun h => absurd h ha
  cases ht : c.tcp? i with
  | none =>
    simp only [tcpCallback, ht]
    exact (hdisconnect c).orderly hs
  | some t =>
    simp only [tcpCallback, ht]
    have hm : Moves quietly (c.log (.called t.handlerSet (.connection i cb)))
        (c.notify user t.handlerSet (.connection i cb)) := by
      unfold notify
      dsimp only
      split
      · exact hu _ _
      · exact .refl _
    have hb := hm.sane hs
    have hreports := hm.reports id hs
    have hlive : c.phase i = .live := by
      simpa [phase, shut, ht, TcpConnection.phase] using hopen
    revert hm hb hreports
    generalize c.notify user t.handlerSet (.connection i cb) = b
    intro hm hb hreports
    refine ⟨(hdisconnect b).sane hb, fun j => ?_⟩
    obtain ⟨added, hadded, hlives⟩ := hreports j
    refine ⟨.called t.handlerSet (.connection i cb) :: added, ?_, ?_⟩
    · show b.trace = _
      rw [hadded]
      simp [Client.log]
    · by_cases hij : i = j
      · subst hij
        rw [phase_tcpDisconnect hb]
        have hlives : Lives (reading i) .live added (b.phase i) := hlive ▸ hlives
        have hend {p : Phase} (h : Lives (reading i) p added (b.phase i)) :
            Lives (reading i) p added (if b.phase i = .vacant then .vacant else .shut) := by
          cases hp : b.phase i <;> rw [hp] at h
          case vacant => exact h
          case live => exact h.shut
          case shut => exact h
        rw [hlive]
        cases hfails : (Entry.called t.handlerSet (.connection i cb)).failureOf i with
        | false => exact Lives.cons (Lives.refl.told hfails rfl (absurd · Bool.false_ne_true)) (hend hlives)
        | true =>
          refine Lives.cons (Lives.refl.failed hfails) ?_
          rcases hlives.of_shut (by decide) (hm.untold id hadded i) with h | ⟨hq, h⟩
          · exact hend h
          · rw [hq]
            exact h
      · have htold : (Entry.called t.handlerSet (.connection i cb)).failureOf j = false := by
          cases cb <;> simp [Entry.failureOf, hij]
        have hother : (b.tcpDisconnect i reason).phase j = b.phase j :=
          phase_same (tcp?_updateConnection_other hij _)
        rw [hother]
        exact Lives.cons (Lives.refl.told htold rfl (absurd · Bool.false_ne_true)) hlives

theorem orderly_handleTransportError (hopen : c.shut i = false) (ec : IoError)
    (operation : String) : Orderly c (c.handleTransportError user i ec operation) :=
  orderly_failed hu rfl rfl (by decide) hopen

theorem orderly_handleProtocolViolation (hopen : c.shut i = false) (error : PacketError) :
    Orderly c (c.handleProtocolViolation user i error) :=
  orderly_failed hu rfl rfl (by decide) hopen

/-! ### Timers -/

/-- Everything has been orderly, and the socket of the connection is as open as it was. -/
def Untroubled (i : Nat) (a b : Client) : Prop := Orderly a b ∧ b.shut i = a.shut i

omit hu in
theorem leads_loginTimer (user : User) (i : Nat) (c : Client) :
    (loginTimerHandler user i).Leads (Untroubled i c) (Orderly c) where
  still _ h := h.1
  update f c' h := by
    have hm : Moves quietly c' (c'.updateTcp i (·.updateLoginTimer f)) :=
      moves_asideTcp (TcpConnection.aside_updateLoginTimer f)
    have hshut : (c'.updateTcp i (·.updateLoginTimer f)).shut i = c'.shut i :=
      shut_updateTcp fun _ => rfl
    exact ⟨h.1.trans hm.orderly, hshut.trans h.2⟩
  updateAfter f _ h := h.trans (moves_asideTcp (TcpConnection.aside_updateLoginTimer f)).orderly
  loginTimerExpired _ h := h.1.trans (moves_tcpDisconnect rfl (by simp)).orderly

omit hu in
theorem leads_heartbeatTimer (user : User) (i : Nat) (c : Client) :
    (heartbeatTimerHandler user i).Leads (Untroubled i c) (Orderly c) where
  still _ h := h.1
  update f _ c' h := by
    have hm : Moves quietly c' (c'.updateTcp i (·.updateHeartbeatTimer f)) :=
      moves_asideTcp (TcpConnection.aside_updateHeartbeatTimer f)
    have hshut : (c'.updateTcp i (·.updateHeartbeatTimer f)).shut i = c'.shut i :=
      shut_updateTcp fun _ => rfl
    exact ⟨h.1.trans hm.orderly, hshut.trans h.2⟩
  signal _ h := h.trans (moves_asideTcp (TcpConnection.aside_updateHeartbeatTimer _)).orderly
  heartbeatSendDue c' h := by
    have hm := moves_asideTcp (R := quietly) (c := c') (i := i) fun t =>
      TcpConnection.aside_asyncWrite (.ofType ClientHeartbeatPacket.packetType) t
    refine ⟨h.1.trans hm.orderly, (shut_updateTcp fun t => ?_).trans h.2⟩
    exact (TcpConnection.aside_asyncWrite _ t).closing
  heartbeatReceiveTimeout _ h := h.1.trans (moves_tcpDisconnect rfl (by simp)).orderly

theorem Untroubled.failed {c' : Client} (h : Untroubled i c c') (hopen : c.shut i = false)
    (ec : IoError) (operation : String) :
    Orderly c (c'.handleTransportError user i ec operation) :=
  h.1.trans (orderly_handleTransportError hu (h.2.trans hopen) ec operation)

theorem orderly_startLoginTimer {fault : Option IoError}
    (hopen : fault.isSome = true → c.shut i = false) :
    Orderly c ((loginTimerHandler user i).start fault c) :=
  (leads_loginTimer user i c).start fault
    (fun hf ec operation _ h => h.failed hu (hopen hf) ec operation) ⟨.refl c, rfl⟩

theorem orderly_startHeartbeatTimer {fault faultInSchedule : Option IoError}
    (hopen : fault.isSome = true ∨ faultInSchedule.isSome = true → c.shut i = false) :
    Orderly c ((heartbeatTimerHandler user i).start fault faultInSchedule c) := by
  refine (leads_heartbeatTimer user i c).start fault faultInSchedule ?_
    (fun hf ec operation _ h => h.failed hu (hopen hf) ec operation) ⟨.refl c, rfl⟩
  rintro -
  have hm : Moves quietly c (c.updateTcp i (·.updateHeartbeatTimer HeartbeatTimer.setStarted)) :=
    moves_asideTcp (TcpConnection.aside_updateHeartbeatTimer _)
  exact ⟨hm.orderly, shut_updateTcp fun _ => rfl⟩

/-! ### A connection is established -/

omit hu in
/-- The client as it is when the login timer is started. -/
def greeted (user : User) (i : Nat) (c : Client) : Client :=
  let c := c.updateTcp i (·.setState .connected)
  let c := c.tcpCallback user i .connectSuccess
  let (request, c) := c.onConnectSuccess i
  c.tcpCallback user i (.loggingIn request)

omit hu in
/-- The state of a connection changes, and not to `disconnected`. -/
theorem orderly_setState (c : Client) {state : State} (hstate : state ≠ .disconnected) :
    Orderly c (c.updateTcp i (·.setState state)) := by
  intro hs
  constructor
  · intro j
    apply (hs j).map
    exact fun _ hslot => hslot.updateTcp fun _ _ _ hdown => absurd hdown hstate
  · apply reports_updateConnection
    intro conn _
    rw [Connection.updateTcp]
    cases conn.connection <;> exact Or.inl rfl

theorem orderly_greeted (c : Client) : Orderly c (c.greeted user i) := by
  have hnumbered (c : Client) : Moves quietly c (c.onConnectSuccess i).2 := by
    unfold onConnectSuccess
    split
    · exact .refl c
    · exact moves_configure fun _ => ⟨rfl, rfl, rfl, rfl⟩
  have htold := (moves_tcpCallback (c := c.updateTcp i (·.setState .connected)) (i := i) hu
    .connectSuccess rfl nofun).trans (hnumbered _)
  have hlogging (request : LoginRequestPacket) :=
    htold.trans (moves_tcpCallback (i := i) hu (.loggingIn request) rfl nofun)
  exact (orderly_setState c (by decide)).trans (hlogging _).orderly

theorem orderly_connectSuccess {faults : Faults}
    (hopen : faults.loginTimer.isSome = true → (c.greeted user i).shut i = false) :
    Orderly c (c.connectSuccess user faults i) := by
  have hflagged (c : Client) : Moves quietly c (c.updateTcp i (·.setLoginTimerStopped false)) :=
    moves_asideTcp fun t => ⟨rfl, rfl, rfl, Or.inl⟩
  have hread (c : Client) : Moves quietly c (c.updateTcp i (·.updateSocket Socket.asyncRead)) :=
    moves_asideTcp TcpConnection.aside_asyncRead
  have hwritten (packet : WritePacket) (c : Client) :
      Moves quietly c (c.updateTcp i (·.writeBestEffort packet)) :=
    moves_asideTcp fun t => TcpConnection.aside_asyncWrite packet t
  have hstarted : Orderly ((c.greeted user i).updateTcp i (·.setLoginTimerStopped false))
      ((loginTimerHandler user i).start faults.loginTimer
        ((c.greeted user i).updateTcp i (·.setLoginTimerStopped false))) := by
    apply orderly_startLoginTimer hu
    intro hf
    exact (shut_updateTcp (f := (·.setLoginTimerStopped false)) fun _ => rfl).trans (hopen hf)
  exact (((orderly_greeted hu c).trans (hflagged _).orderly).trans hstarted).trans
    ((hread _).trans (hwritten _ _)).orderly

/-! ### Packets -/

theorem orderly_processLoginAccepted {faults : Faults} (data : Bytes)
    (hopen : c.logsIn i data = true →
      faults.heartbeatTimer.isSome = true ∨ faults.heartbeatSchedule.isSome = true →
        (c.welcomed user i (.read data)).shut i = false) :
    Orderly c (c.processLoginAccepted user faults i data).2 := by
  rcases processLoginAccepted_cases (R := quietly) (c := c) (i := i) hu faults data with
    ⟨error, -, heq⟩ | ⟨c', hmoves, heq⟩ | ⟨hlogin, hmoves, heq⟩
  · rw [heq]
    exact .refl c
  · rw [heq]
    exact hmoves.orderly
  · rw [heq]
    have hflagged := hmoves.trans (moves_asideTcp (i := i)
      (f := (·.setHeartbeatTimerStopped false)) fun t => ⟨rfl, rfl, rfl, Or.inl⟩)
    apply hflagged.orderly.trans
    apply orderly_startHeartbeatTimer hu
    exact fun hf => (shut_updateTcp (f := (·.setHeartbeatTimerStopped false)) fun _ => rfl).trans
      (hopen hlogin hf)

theorem orderly_processPacket {faults : Faults} (packet : ReadPacket)
    (hopen : packet.packetType = LoginAcceptedPacket.packetType →
      c.logsIn i packet.payload = true →
        faults.heartbeatTimer.isSome = true ∨ faults.heartbeatSchedule.isSome = true →
          (c.welcomed user i (.read packet.payload)).shut i = false) :
    Orderly c (c.processPacket user faults i packet).2 := by
  unfold Client.processPacket
  dsimp only
  split
  · exact (moves_tcpCallback hu (.debug _) rfl nofun).orderly
  · split
    · rename_i htype
      exact orderly_processLoginAccepted hu _ (hopen htype)
    · split
      · exact (moves_processLoginRejected hu _).orderly
      · split
        · exact (moves_processSequencedData hu _ fun _ _ _ => trivial).orderly
        · split
          · exact (moves_processServerHeartbeat _).orderly
          · split
            · exact (moves_processEndOfSession hu _).orderly
            · exact .refl c

/-- A packet that is no good changes nothing. -/
theorem processPacket_rejected {faults : Faults} (packet : ReadPacket) :
    (c.processPacket user faults i packet).1 ≠ .none →
      (c.processPacket user faults i packet).2 = c := by
  have hgood {c' : Client} : (PacketError.none, c').1 ≠ .none → (PacketError.none, c').2 = c :=
    fun h => absurd rfl h
  unfold Client.processPacket
  dsimp only
  split
  · exact hgood
  · split
    · rcases processLoginAccepted_cases (R := quietly) (c := c) (i := i) hu
        faults packet.payload with ⟨error, -, heq⟩ | ⟨c', -, heq⟩ | ⟨-, -, heq⟩
      · rw [heq]
        exact fun _ => rfl
      · rw [heq]
        exact hgood
      · rw [heq]
        exact hgood
    · split
      · unfold processLoginRejected
        split
        · exact fun _ => rfl
        · split
          · exact fun _ => rfl
          · exact hgood
      · split
        · unfold processSequencedData
          split
          · exact fun _ => rfl
          · split
            · exact fun _ => rfl
            · exact hgood
        · split
          · unfold processServerHeartbeat
            split
            · exact fun _ => rfl
            · split
              · exact fun _ => rfl
              · exact hgood
          · split
            · unfold processEndOfSession
              split
              · exact fun _ => rfl
              · split
                · exact fun _ => rfl
                · exact hgood
            · exact fun _ => rfl

theorem orderly_readSuccess {faults : Faults} (packet : ReadPacket)
    (hshut : c.shut i = true → (c.tcpState i).isClosing = true)
    (hopen : packet.packetType = LoginAcceptedPacket.packetType →
      c.logsIn i packet.payload = true →
        faults.heartbeatTimer.isSome = true ∨ faults.heartbeatSchedule.isSome = true →
          (c.welcomed user i (.read packet.payload)).shut i = false) :
    Orderly c (c.readSuccess user faults i packet) := by
  unfold Client.readSuccess
  split
  · exact .refl c
  · rename_i hnot
    have hlive : c.shut i = false := by
      rw [Bool.eq_false_iff]
      exact fun h => hnot (hshut h)
    have hagain {c' : Client} (h : Orderly c c') : Orderly c
        (if (c'.tcpState i).isClosing then c' else c'.updateTcp i (·.updateSocket Socket.asyncRead))
        := by
      split
      · exact h
      · have hread : Moves quietly c' (c'.updateTcp i (·.updateSocket Socket.asyncRead)) :=
          moves_asideTcp TcpConnection.aside_asyncRead
        exact h.trans hread.orderly
    dsimp only
    apply hagain
    split
    · rename_i herror
      rw [processPacket_rejected hu packet herror]
      exact orderly_handleProtocolViolation hu hlive _
    · exact orderly_processPacket hu packet hopen

/-! ### Completions -/

omit hu in
/-- The packets that wait to be written. -/
def writePackets (i : Nat) (c : Client) : List WritePacket :=
  ((c.tcp? i).map (·.socket.writePackets)).getD []

omit hu in
/-- A whole packet has been read that logs the connection in, and the connection has
been closed when its heartbeat timer fails to start. -/
def beatsLate (user : User) (faults : Faults) (i : Nat) (result : Except IoError Bytes)
    (c : Client) : Bool :=
  match result with
  | .error _ => false
  | .ok bytes =>
    let packet := c.readPacket i
    let c := c.updateTcp i (·.updateSocket (Socket.readDone .readPayload))
    let c := c.updateTcp i (·.updateSocket (Socket.setReadPacket {}))
    bytes.length = packet.payloadSize && packet.packetType = LoginAcceptedPacket.packetType &&
      c.logsIn i bytes && (faults.heartbeatTimer.isSome || faults.heartbeatSchedule.isSome) &&
        (c.welcomed user i (.read bytes)).shut i

omit hu in
theorem length_of_logsIn {data : Bytes} (h : c.logsIn i data = true) :
    data.length = LoginAcceptedPacket.payloadSize := by
  simp only [logsIn, Bool.and_eq_true, decide_eq_true_eq] at h
  exact h.1.1.1

variable {faults : Faults}

theorem untold_socket : (socketHandler user faults i).KeepsUntold (Orderly c) where
  update _ hf _ h := h.trans (moves_asideTcp (TcpConnection.aside_internal hf)).orderly
  readEndOfFile _ h := h.trans (moves_tcpDisconnect rfl (by simp)).orderly
  writeSuccess _ _ h := h
  writeBufferEmpty _ h := h.trans (moves_tcpCallback hu .writeBufferEmpty rfl nofun).orderly

omit hu in
theorem shut_updateSocket {f : Socket → Socket} (hf : Socket.Handler.Internal f) (c : Client) :
    (c.updateTcp i (·.updateSocket f)).shut i = c.shut i :=
  shut_updateTcp fun t => hf.closing t.socket

omit hu in
theorem tcpState_updateSocket (f : Socket → Socket) (c : Client) :
    (c.updateTcp i (·.updateSocket f)).tcpState i = c.tcpState i :=
  tcpState_updateTcp fun _ _ => rfl

omit hu in
theorem orderly_readAborted : Orderly c (c.tcpDisconnect i .unmanagedAbort) :=
  (moves_tcpDisconnect rfl fun _ _ _ => Or.inl trivial).orderly

theorem orderly_connectCompleted {ec : Option IoError}
    (hopen : ec = none → faults.loginTimer.isSome = true →
      ((c.updateTcp i (·.updateSocket Socket.connectDone)).greeted user i).shut i = false) :
    Orderly c ((socketHandler user faults i).connectCompleted ec c) := by
  have hupdate {f : Socket → Socket} (hf : Socket.Handler.Internal f) {c' : Client}
      (h : Orderly c c') : Orderly c (c'.updateTcp i (·.updateSocket f)) :=
    h.trans (moves_asideTcp (TcpConnection.aside_internal hf)).orderly
  have hdone := hupdate .connectDone (.refl c)
  apply hupdate .maybeSignalClosed
  cases ec with
  | none => exact hdone.trans (orderly_connectSuccess hu (hopen rfl))
  | some ec =>
    cases ec with
    | operationAborted => exact hdone
    | _ => exact hdone.trans (moves_handleConnectFailure hu _ _).orderly

theorem orderly_headerCompleted {result : Except IoError Bytes}
    (hlate : c.shut i = true → Socket.Handler.headerFails (c.readPacket i) result = false ∧
      (result.isOk = true → (c.tcpState i).isClosing = true)) :
    Orderly c ((socketHandler user faults i).headerCompleted result c) := by
  have hopen (hfails : Socket.Handler.headerFails ((socketHandler user faults i).socket
      ((socketHandler user faults i).update (Socket.readDone .readHeader) c)).readPacket result =
        true) : c.shut i = false := by
    rw [readPacket_readDone] at hfails
    rw [Bool.eq_false_iff]
    exact fun hshut => absurd (hfails.symm.trans (hlate hshut).1) (by decide)
  have hdone : (c.updateTcp i (·.updateSocket (Socket.readDone .readHeader))).shut i = c.shut i :=
    shut_updateSocket (.readDone _) c
  refine (untold_socket hu).headerCompleted result ?_ ?_ ?_ ?_ (.refl c)
  · exact fun hfails ec h =>
      h.trans (orderly_handleTransportError hu (hdone.trans (hopen hfails)) ec _)
  · intro hfails packet h
    refine h.trans (orderly_handleProtocolViolation hu ?_ _)
    exact (shut_updateSocket (.setReadPacket _) _).trans (hdone.trans (hopen hfails))
  · rintro bytes packet rfl hempty h
    apply h.trans
    apply orderly_readSuccess hu
    · intro hshut
      simp only [socketHandler, shut_updateSocket (.setReadPacket _), hdone] at hshut
      simpa only [socketHandler, tcpState_updateSocket] using (hlate hshut).2 rfl
    · intro _ hlogin
      have hpayload : packet.payload = [] := by
        have hresized := ReadPacket.payload_of_emptyPayload (congrArg Prod.fst hempty)
        exact (congrArg (fun read => read.2.payload) hempty).symm.trans hresized
      have hlength := length_of_logsIn hlogin
      rw [hpayload] at hlength
      exact absurd hlength (by decide)
  · exact fun _ h => h.trans orderly_readAborted

theorem orderly_payloadCompleted {result : Except IoError Bytes}
    (hlate : c.shut i = true → Socket.Handler.payloadFails (c.readPacket i) result = false ∧
      (result.isOk = true → (c.tcpState i).isClosing = true))
    (hbeats : c.beatsLate user faults i result = false) :
    Orderly c ((socketHandler user faults i).payloadCompleted result c) := by
  have hdone : (c.updateTcp i (·.updateSocket (Socket.readDone .readPayload))).shut i = c.shut i :=
    shut_updateSocket (.readDone _) c
  refine (untold_socket hu).payloadCompleted result ?_ ?_ ?_ (.refl c)
  · intro hfails ec h
    refine h.trans (orderly_handleTransportError hu (hdone.trans ?_) ec _)
    rw [readPacket_readDone] at hfails
    rw [Bool.eq_false_iff]
    exact fun hshut => absurd (hfails.symm.trans (hlate hshut).1) (by decide)
  · rintro bytes rfl hlength h
    rw [readPacket_readDone] at hlength ⊢
    apply h.trans
    apply orderly_readSuccess hu
    · intro hshut
      simp only [socketHandler, shut_updateSocket (.setReadPacket _), hdone] at hshut
      simpa only [socketHandler, tcpState_updateSocket] using (hlate hshut).2 rfl
    · intro htype hlogin hfault
      rw [Bool.eq_false_iff]
      intro hshut
      apply Bool.eq_false_iff.mp hbeats
      simp only [beatsLate, Bool.and_eq_true, Bool.or_eq_true, decide_eq_true_eq]
      exact ⟨⟨⟨⟨hlength, htype⟩, hlogin⟩, hfault⟩, hshut⟩
  · exact fun _ h => h.trans orderly_readAborted

theorem orderly_writeCompleted {result : Except IoError Nat}
    (hlate : c.shut i = true → Socket.Handler.writeFails (c.writePackets i) result = false) :
    Orderly c ((socketHandler user faults i).writeCompleted result c) := by
  apply (untold_socket hu).writeCompleted result _ (.refl c)
  intro hfails ec h
  refine h.trans (orderly_handleTransportError hu ?_ ec _)
  refine (shut_updateSocket .writeDone c).trans ?_
  have hqueue : ((socketHandler user faults i).socket ((socketHandler user faults i).update
      Socket.writeDone c)).writePackets = c.writePackets i := by
    simp only [socketHandler, writePackets, tcp?_updateTcp]
    cases c.tcp? i <;> rfl
  rw [hqueue] at hfails
  rw [Bool.eq_false_iff]
  exact fun hshut => absurd (hfails.symm.trans (hlate hshut)) (by decide)

/-! ### Waits -/

theorem orderly_loginTimerWait {ec : Option IoError}
    (hlate : ∀ t, c.tcp? i = some t → t.socket.closing = true → t.loginTimer.started = true →
      ec.isSome = false) : Orderly c ((loginTimerHandler user i).waitCompleted ec c) := by
  apply (leads_loginTimer user i c).waitCompleted ec _ ⟨.refl c, rfl⟩
  intro hstarted hec ec' operation _ h
  refine h.failed hu (shut_eq_false fun t ht => ?_) ec' operation
  rw [Bool.eq_false_iff]
  intro hclosing
  have hstarted : t.loginTimer.started = true := by
    simpa [loginTimerHandler, tcp?_updateTcp, ht, TcpConnection.updateLoginTimer,
      LoginTimer.waitDone] using hstarted
  exact absurd (hec.symm.trans (hlate t ht hclosing hstarted)) (by decide)

theorem orderly_heartbeatTimerWait {ec fault : Option IoError}
    (hlate : ∀ t, c.tcp? i = some t → t.socket.closing = true → t.heartbeatTimer.started = true →
      ec.isSome = false ∧ (t.heartbeatTimer.expires = false → fault.isSome = false)) :
    Orderly c ((heartbeatTimerHandler user i).waitCompleted ec fault c) := by
  apply (leads_heartbeatTimer user i c).waitCompleted ec fault _ ⟨.refl c, rfl⟩
  intro hstarted hfault ec' operation _ h
  refine h.failed hu (shut_eq_false fun t ht => ?_) ec' operation
  rw [Bool.eq_false_iff]
  intro hclosing
  have hstarted : t.heartbeatTimer.started = true := by
    simpa [heartbeatTimerHandler, tcp?_updateTcp, ht, TcpConnection.updateHeartbeatTimer,
      HeartbeatTimer.waitDone] using hstarted
  obtain ⟨hec, hnone⟩ := hlate t ht hclosing hstarted
  rcases hfault with hfault | ⟨hfault, hheard⟩
  · exact absurd (hfault.symm.trans hec) (by decide)
  · have hexpires : t.heartbeatTimer.expires = false := by
      simpa [HeartbeatTimer.Handler.Hears, heartbeatTimerHandler, tcp?_updateTcp, ht,
        TcpConnection.updateHeartbeatTimer, HeartbeatTimer.waitDone, HeartbeatTimer.countSilence,
        HeartbeatTimer.expires, or_iff_not_imp_left] using hheard
    exact absurd (hfault.symm.trans (hnone hexpires)) (by decide)

/-! ### The end of a connection, and the next -/

/-- A callback that tells of no failure. -/
theorem orderly_notify {handlerSet : Bool} {cb : Callback}
    (hcb : ∀ j, (Entry.called handlerSet cb).failureOf j = false) :
    Orderly c (c.notify user handlerSet cb) := by
  intro hs
  have htold : Reports c (c.log (.called handlerSet cb)) :=
    reports_log hcb (fun _ => rfl) fun _ => (absurd · Bool.false_ne_true)
  have hm : Moves quietly (c.log (.called handlerSet cb)) (c.notify user handlerSet cb) := by
    unfold notify
    dsimp only
    split
    · exact hu _ _
    · exact .refl _
  exact ⟨hm.sane hs, htold.trans (hm.reports id hs)⟩

theorem orderly_connectionCallback {cb : ConnectionCallback}
    (hcb : ∀ handlerSet j, (Entry.called handlerSet (.connection i cb)).failureOf j = false) :
    Orderly c (c.connectionCallback user i cb) := by
  unfold connectionCallback
  split
  · exact .refl c
  · exact orderly_notify hu (hcb _)

omit hu in
theorem orderly_updateReconnectTimer (f : ReconnectTimer → ReconnectTimer) (c : Client) :
    Orderly c (c.updateConnection i (·.updateReconnectTimer f)) :=
  fun hs => ⟨fun j => (hs j).map i fun _ h => h, reports_updateConnection fun _ _ => Or.inl rfl⟩

theorem orderly_scheduleReconnect : Orderly c (c.scheduleReconnect user faults i) := by
  have hdelayed : Moves quietly c (c.updateConnection i Connection.nextDelay) :=
    moves_configure fun _ => ⟨rfl, rfl, rfl, rfl⟩
  unfold scheduleReconnect
  dsimp only
  have htold (delay : Nat) (c : Client) :
      Orderly c (c.connectionCallback user i (.reconnectScheduled delay)) :=
    orderly_connectionCallback hu fun _ _ => rfl
  apply (hdelayed.orderly.trans (htold _ _)).trans
  unfold ReconnectTimer.Handler.start
  split
  · exact .refl _
  · cases faults.reconnectTimer with
    | some ec =>
      apply (orderly_updateReconnectTimer _ _).trans (orderly_connectionCallback hu _)
      simp [Entry.failureOf, ofReconnectTimer]
    | none => exact (orderly_updateReconnectTimer _ _).trans (orderly_updateReconnectTimer _ _)

theorem orderly_onClosed (reason : DisconnectReason) :
    Orderly c (c.onClosed user faults i reason) := by
  have hfreed : Orderly c (c.freed i) := by
    intro hs
    constructor
    · intro j
      exact ((hs j).map i fun _ _ => Connection.slot_empty rfl).same rfl
    · intro j
      refine ⟨[.onClosed i], rfl, ?_⟩
      by_cases hij : i = j
      · subst hij
        have hvacant : (c.freed i).phase i = .vacant := by
          have htcp : (c.freed i).tcp? i = none := by
            show (c.updateConnection i (·.setConnection none)).tcp? i = none
            rw [tcp?_updateConnection, if_pos rfl]
            cases c.connections[i]? <;> rfl
          rw [phase, htcp]
          rfl
        rw [hvacant]
        exact Lives.refl.ended rfl (by simp [reading, Entry.endOf])
      · have hother : (c.freed i).phase j = c.phase j :=
          phase_same (tcp?_updateConnection_other hij _)
        rw [hother]
        exact Lives.refl.told rfl (by simp [reading, Entry.endOf, hij]) (absurd · Bool.false_ne_true)
  have htold : Orderly c ((c.freed i).connectionCallback user i (.disconnect reason)) :=
    hfreed.trans (orderly_connectionCallback hu fun _ _ => rfl)
  show Orderly c (if !((c.freed i).connectionCallback user i (.disconnect reason)).started then _
    else _)
  split
  · exact htold
  · split
    · exact htold
    · exact htold.trans (orderly_scheduleReconnect hu)

/-- A notification has been noted. -/
theorem orderly_noted {note : TcpConnection → TcpConnection}
    (hnote : ∀ t, c.tcp? i = some t → TcpConnection.Aside t (note t)) :
    Orderly c ((c.updateTcp i note).maybeSignalClosed user faults i) := by
  have hnoted : Moves quietly c (c.updateTcp i note) :=
    moves_updateTcp fun t ht => .aside (hnote t ht)
  apply hnoted.orderly.trans
  unfold Client.maybeSignalClosed
  split
  · exact .refl _
  · split
    · exact orderly_onClosed hu _
    · exact .refl _

theorem orderly_emplace : Orderly c (c.emplace user faults i) := by
  intro hs
  cases hconn : c.connections[i]? with
  | none =>
    simp only [emplace, hconn]
    exact Orderly.refl c hs
  | some conn =>
    have hi : i < c.connections.length := (List.getElem?_eq_some_iff.mp hconn).1
    obtain ⟨c', t, hm, ht, heq⟩ := emplace_halves (R := quietly) faults (fun cb _ => hu cb) hi
    have hvacated : (c.vacate i).Sane :=
      fun j => ((hs j).map i fun _ _ => Connection.slot_empty rfl).same rfl
    rw [heq]
    constructor
    · intro j
      refine (hm.sane hvacated j).map i fun _ _ u hu => ?_
      cases hu
      exact TcpConnection.stays_downed.fresh ht
    · exact reports_install id hm (hm.reports id hvacated)

theorem orderly_reconnectTimerWait (epoch : Nat) (ec : Option IoError) :
    Orderly c ((reconnectTimerHandler user faults i).waitCompleted epoch ec c) := by
  unfold ReconnectTimer.Handler.waitCompleted
  dsimp only
  apply (orderly_updateReconnectTimer (ReconnectTimer.waitDone epoch) c).trans
  split
  · unfold ReconnectTimer.Handler.onExpiry
    split
    · apply (orderly_updateReconnectTimer (ReconnectTimer.setStarted false) _).trans
      cases ec with
      | some ec =>
        apply orderly_connectionCallback hu
        simp [Entry.failureOf, ofReconnectTimer]
      | none => exact orderly_emplace hu
    · exact .refl _
  · exact .refl _

end

/-! ## Failures that come late -/

/-- With the event, an operation of a connection fails whose socket has been closed:
a read, otherwise than aborted or at the end of the stream, a write, otherwise than
aborted, the wait of a timer that is started, or the start of a timer. A read that
succeeds counts if the connection has come back from `disconnected`. -/
def failsLate (input : Event × Env) (c : Client) : Bool :=
  let user := input.2.user
  match input.1 with
  | .connectCompleted i none =>
    (input.2.faults i).loginTimer.isSome &&
      ((c.updateTcp i (·.updateSocket Socket.connectDone)).greeted user i).shut i
  | .headerCompleted i result =>
    c.shut i && (Socket.Handler.headerFails (c.readPacket i) result ||
      result.isOk && !(c.tcpState i).isClosing)
  | .payloadCompleted i result =>
    c.shut i && (Socket.Handler.payloadFails (c.readPacket i) result ||
      result.isOk && !(c.tcpState i).isClosing) || c.beatsLate user (input.2.faults i) i result
  | .writeCompleted i result => c.shut i && Socket.Handler.writeFails (c.writePackets i) result
  | .loginTimerWait i ec =>
    (c.tcp? i).any fun t => t.socket.closing && t.loginTimer.started && ec.isSome
  | .heartbeatTimerWait i ec =>
    (c.tcp? i).any fun t => t.socket.closing && t.heartbeatTimer.started &&
      (ec.isSome || !t.heartbeatTimer.expires && (input.2.faults i).heartbeatSchedule.isSome)
  | _ => false

theorem orderly_handle {env : Env} {event : Event} (hready : c.ready event = true)
    (hlate : c.failsLate (event, env) = false) : Orderly c (c.handle env event) := by
  have hu := moves_quietly env
  cases event with
  | call call =>
    by_cases hconnect : ∃ i, call = .connect i
    · obtain ⟨i, rfl⟩ := hconnect
      exact (moves_connect (fun cb _ => hu cb) trivial).orderly
    · exact (moves_call trivial (fun i hi => hconnect ⟨i, hi⟩) _ _).orderly
  | posted k =>
    have hk : k < c.posted.length := by simpa [ready] using hready
    have hflagged (started : Bool) :
        Orderly c { c with posted := c.posted.eraseIdx k, started := started } :=
      fun hs => ⟨hs, reports_same (by rfl) fun _ => rfl⟩
    simp only [handle, List.getElem?_eq_getElem hk]
    cases c.posted[k] with
    | start =>
      simp only [runPosted]
      split
      · exact hflagged _
      · exact (hflagged true).trans (moves_connectFrom (fun _ => trivial) hu _ _ _).orderly
    | stop =>
      simp only [runPosted]
      split
      · exact hflagged _
      · refine (hflagged false).trans (Moves.orderly (moves_map ?_))
        exact fun i _ => .close trivial
  | connectCompleted i ec =>
    apply orderly_connectCompleted hu
    rintro rfl hf
    simpa [failsLate, hf] using hlate
  | headerCompleted i result =>
    apply orderly_headerCompleted hu
    intro hshut
    simpa [failsLate, hshut] using hlate
  | payloadCompleted i result =>
    simp only [failsLate, Bool.or_eq_false_iff] at hlate
    apply orderly_payloadCompleted hu _ hlate.2
    intro hshut
    simpa [hshut] using hlate.1
  | writeCompleted i result =>
    apply orderly_writeCompleted hu
    intro hshut
    simpa [failsLate, hshut] using hlate
  | socketClosed i =>
    apply orderly_noted hu
    intro t ht
    exact TcpConnection.aside_noteClosed (by simpa [ready, ht] using hready)
  | loginTimerWait i ec =>
    apply orderly_loginTimerWait hu
    intro t ht hclosing hstarted
    simpa [failsLate, ht, hclosing, hstarted] using hlate
  | loginTimerStopped i => exact orderly_noted hu fun t _ => ⟨rfl, rfl, rfl, Or.inl⟩
  | heartbeatTimerWait i ec =>
    apply orderly_heartbeatTimerWait hu
    intro t ht hclosing hstarted
    simpa [failsLate, ht, hclosing, hstarted] using hlate
  | heartbeatTimerStopped i => exact orderly_noted hu fun t _ => ⟨rfl, rfl, rfl, Or.inl⟩
  | reconnectTimerWait i epoch ec => exact orderly_reconnectTimerWait hu epoch ec

/-! ## Runs -/

/-- What comes after `c`, in `c'`, as far as it tells of failures: of one at most of
each `Tcp_connection`, and of none once it is disconnected, be it by the user from
inside a callback. -/
structure TellsOnce (c c' : Client) : Prop where
  once : ∀ i before life after, c'.trace = c.trace ++ before ++ life ++ after →
    (∀ e ∈ life, e.endOf i = false) → life.countP (Entry.failureOf i) ≤ 1
  down : ∀ i t life after, c.tcp? i = some t → t.state.state = .disconnected →
    c'.trace = c.trace ++ life ++ after → (∀ e ∈ life, e.endOf i = false) →
      life.countP (Entry.failureOf i) = 0
  closed : ∀ i before reason life after, c.tcp? i ≠ none →
    c'.trace = c.trace ++ (before ++ [.closeReturned i reason]) ++ life ++ after →
      (∀ e ∈ before ++ life, e.endOf i = false) → life.countP (Entry.failureOf i) = 0

theorem Reports.tellsOnce (h : Reports a b) (hs : a.Sane) : TellsOnce a b where
  once i before life after htrace hlife := by
    obtain ⟨added, hadded, hlives⟩ := h i
    have heq : added = before ++ (life ++ after) := by
      refine List.append_cancel_left (hadded.symm.trans ?_)
      rw [htrace]
      simp
    obtain ⟨q, -, hlives⟩ := hlives.split heq
    obtain ⟨s, hlives, -⟩ := hlives.split rfl
    rcases (hlives.frugal hlife).once with hnone | ⟨hone, -⟩
    · exact Nat.le_trans (Nat.le_of_eq hnone) (Nat.zero_le 1)
    · exact Nat.le_of_eq hone
  down i t life after ht hdown htrace hlife := by
    obtain ⟨added, hadded, hlives⟩ := h i
    have heq : added = life ++ after := by
      refine List.append_cancel_left (hadded.symm.trans ?_)
      rw [htrace, List.append_assoc]
    obtain ⟨q, hlives, -⟩ := hlives.split heq
    obtain ⟨conn, hconn, htcp⟩ := Option.bind_eq_some_iff.mp ht
    have hshut : a.phase i = .shut := by
      simp [phase, ht, TcpConnection.phase, hs i conn hconn t htcp hdown]
    exact ((hlives.frugal hlife).shut hshut).1
  closed i before reason life after hoccupied htrace hlife := by
    obtain ⟨added, hadded, hlives⟩ := h i
    have heq : added = (before ++ [.closeReturned i reason]) ++ (life ++ after) := by
      refine List.append_cancel_left (hadded.symm.trans ?_)
      rw [htrace]
      simp
    obtain ⟨q, hbefore, hlives⟩ := hlives.split heq
    obtain ⟨s, hlives, -⟩ := hlives.split rfl
    have hlife := (within_append (r := reading i)).mp hlife
    have hp : a.phase i ≠ .vacant := by
      unfold phase TcpConnection.phase
      cases ht : a.tcp? i with
      | none => exact absurd ht hoccupied
      | some t =>
        dsimp only
        split <;> decide
    have hshut : q = .shut := by
      refine hbefore.shut_of_shuts (within_append.mpr ⟨hlife.1, ?_⟩) hp
        ⟨.closeReturned i reason, by simp, by simp [reading, Entry.closeOf]⟩
      simp [Within, reading, Entry.endOf]
    exact ((hlives.frugal hlife.2).shut hshut).1

theorem orderly_run {c c' : Client} {inputs : List (Event × Env)}
    (hrun : (system.restrict fun input c => c.failsLate input = false).Run c inputs c') :
    Orderly c c' := by
  apply hrun.relates Orderly.refl Orderly.trans
  exact fun input c hi => orderly_handle hi.1 hi.2

theorem Idle.sane {c : Client} (h : c.Idle) : c.Sane :=
  fun _ _ hconn => Connection.slot_empty (h.connections _ (List.mem_of_getElem? hconn)).1

theorem sane_run {c₀ : Client} (h₀ : c₀.Idle) {inputs : List (Event × Env)}
    (hrun : system.Run c₀ inputs c) : c.Sane := by
  intro i
  apply hrun.keeps (I := At i (Connection.Slot TcpConnection.Downed)) _ (h₀.sane i)
  intro input c hready h
  exact slot_handle TcpConnection.stays_downed input.2 hready (fun _ => trivial) h

/-- As long as nothing fails late, one failure at most is told of each connection. -/
theorem tellsOnce_run {c₀ c' : Client} (h₀ : c₀.Idle) {before inputs : List (Event × Env)}
    (hbefore : system.Run c₀ before c)
    (hrun : (system.restrict fun input c => c.failsLate input = false).Run c inputs c') :
    c.TellsOnce c' := by
  have hs := sane_run h₀ hbefore
  exact (orderly_run hrun hs).2.tellsOnce hs

end Client
end SoupBin.ClientSide
