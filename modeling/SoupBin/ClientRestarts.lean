import SoupBin.ClientReconnects

/-!
# A client that is started

A connection of a started client has its `Tcp_connection` or waits to be opened
again, unless it has been refused or the user has closed it. This needs that no
teardown for another reason is under way when the client is started.
-/

namespace SoupBin.ClientSide

/-- The reasons for which a server, or what it sends, ends a connection for good. -/
def refuses : DisconnectReason → Bool
  | .accessDenied | .sessionMismatch | .sequenceNumberAheadOfSession | .sequenceNumberTooLow
  | .sequenceNumberTooHigh | .protocolViolation => true
  | _ => false

/-- The handler is told of a disconnect after which the connection stays down. -/
def Entry.tellsRefusal : Entry → Bool
  | .called _ (.connection _ (.disconnect reason)) => refuses reason
  | _ => false

theorem refuses_or_retryable {reason : DisconnectReason}
    (h : TcpConnection.observed reason = true) (ha : reason ≠ .unmanagedAbort) :
    isRetryable reason = true ∨ refuses reason = true := by
  cases reason <;> simp_all [TcpConnection.observed, isRetryable, refuses]

namespace TcpConnection

/-- A socket that has been closed was closed for a reason. -/
structure Marked (t : TcpConnection) : Prop where
  signaled : t.Signaled → t.socket.closing = true
  reason : t.socket.closing = true → t.state.reason ≠ .none

/-- No reason has been recorded, or one after which the connection is opened
again, or one for which it has been refused. -/
def Blameless (t : TcpConnection) : Prop :=
  t.state.reason = .none ∨ isRetryable t.state.reason = true ∨ refuses t.state.reason = true

theorem Fresh.marked {t : TcpConnection} (h : Fresh t) : t.Marked := by
  constructor
  · exact h.signaled
  · intro hc
    rcases h.state with ⟨-, hopen⟩ | ⟨hs, -⟩
    · rw [hopen] at hc
      cases hc
    · simp [hs]

theorem Fresh.blameless {t : TcpConnection} (h : Fresh t) : t.Blameless := by
  rcases h.state with ⟨hs, -⟩ | ⟨hs, -⟩ <;> simp [Blameless, hs, isRetryable]

theorem Disconnected.marked {t u : TcpConnection} {reason : DisconnectReason}
    (h : Disconnected reason t u) (hr : reason ≠ .none) : u.Marked := by
  constructor
  · exact fun _ => h.closing
  · intro _
    rw [h.state]
    dsimp only
    split
    · exact hr
    · assumption

theorem stays_marked : Stays True Marked where
  fresh := Fresh.marked
  act _ ha h := by
    cases ha with
    | aside ha =>
      constructor
      · intro hs
        rw [ha.closing]
        rcases ha.signaled hs with hs | hc
        · exact h.signaled hs
        · exact hc
      · intro hc
        rw [ha.state]
        exact h.reason (ha.closing ▸ hc)
    | disconnect reason hobserved _ hd =>
      apply hd.marked
      rintro rfl
      cases hobserved
  close {t} h := by
    rcases t.disconnect_cases .userInitiated with heq | hd
    · rw [TcpConnection.close, heq]
      exact h
    · exact hd.marked (by decide)
  connected h := ⟨h.signaled, h.reason⟩
  loggedIn h := ⟨h.signaled, h.reason⟩

theorem Act.blameless {aborts : Prop} (hopen : ¬aborts) {t u : TcpConnection} (ha : t.Act aborts u)
    (hm : t.Marked) (h : t.Blameless) : u.Blameless := by
  cases ha with
  | aside ha =>
    rw [Blameless, ha.state]
    exact h
  | disconnect reason hobserved habort hd =>
    rw [Blameless, hd.state]
    dsimp only
    split
    · rename_i hnone
      right
      apply refuses_or_retryable hobserved
      intro haborted
      rcases habort haborted with ha | hc
      · exact hopen ha
      · exact hm.reason hc hnone
    · exact h

end TcpConnection

namespace Connection

def Marked (conn : Connection) : Prop := conn.Slot TcpConnection.Marked

def Blameless (conn : Connection) : Prop := conn.Slot TcpConnection.Blameless

/-- There is a `Tcp_connection`, or there will be one when the timer expires. -/
def Running (conn : Connection) : Prop :=
  conn.connection.isSome = true ∨ conn.reconnectTimer.started = true

section
variable {R : Rules} {i : Nat} {conn conn' : Connection}

theorem Act.blameless (hclose : ¬R.call (.close i)) (hopen : ¬R.aborts)
    (ha : Connection.Act R i conn conn') (hm : conn.Marked) (h : conn.Blameless) :
    conn'.Blameless := by
  intro u hu
  cases ha with
  | tcp hf =>
    obtain ⟨t, ht, rfl⟩ := Option.map_eq_some_iff.mp hu
    exact (hf t ht).blameless hopen (hm t ht) (h t ht)
  | close hc => exact absurd hc hclose
  | configure hc _ _ _ => exact h u (hc ▸ hu)
  | setSession _ _ => exact h u hu
  | ended => exact h u hu

theorem Act.running (hclose : ¬R.call (.close i)) (ha : Connection.Act R i conn conn')
    (h : conn.Running) : conn'.Running := by
  cases ha with
  | tcp _ => simpa [Running, updateTcp] using h
  | close hc => exact absurd hc hclose
  | configure hc hr _ _ => simpa [Running, hc, hr] using h
  | setSession _ _ => exact h
  | ended => exact h

end

end Connection

namespace Client

/-- There is a connection `i`, and it satisfies `P`. -/
def Has (i : Nat) (P : Connection → Prop) (c : Client) : Prop :=
  ∃ conn, c.connections[i]? = some conn ∧ P conn

/-- Since the trace had `n` entries the connection `i` has been refused. -/
def Refused (i n : Nat) (c : Client) : Prop :=
  ∃ handlerSet reason, refuses reason = true ∧
    .called handlerSet (.connection i (.disconnect reason)) ∈ c.trace.drop n

/-- The connection `i` is open, waits to be opened, or has been refused. -/
def Live (i n : Nat) (c : Client) : Prop := c.Has i Connection.Running ∨ c.Refused i n

/-- What holds of the connection `i` from one start to the next stop. -/
structure Trying (i n : Nat) (c : Client) : Prop where
  since : n ≤ c.trace.length
  marked : c.At i Connection.Marked
  blameless : c.At i Connection.Blameless
  live : c.Live i n

section
variable {R : Rules} {i n : Nat} {c c' : Client}

theorem Has.update {P Q : Connection → Prop} (h : c.Has i P) (j : Nat)
    {f : Connection → Connection} (hsame : ∀ conn, P conn → Q conn)
    (hf : j = i → ∀ conn, c.connections[i]? = some conn → P conn → Q (f conn)) :
    (c.updateConnection j f).Has i Q := by
  obtain ⟨conn, hconn, hp⟩ := h
  rw [Has, getElem?_updateConnection]
  split
  · rename_i hj
    exact ⟨f conn, by rw [hconn]; rfl, hf hj conn hconn hp⟩
  · exact ⟨conn, hconn, hsame conn hp⟩

theorem Has.map {P : Connection → Prop} (h : c.Has i P) (j : Nat) {f : Connection → Connection}
    (hf : ∀ conn, P conn → P (f conn)) : (c.updateConnection j f).Has i P :=
  h.update j (fun _ hp => hp) fun _ conn _ hp => hf conn hp

theorem Has.same {P : Connection → Prop} (h : c.Has i P) (hc : c'.connections = c.connections) :
    c'.Has i P := by
  rw [Has, hc]
  exact h

theorem Has.known {P : Connection → Prop} (h : c.Has i P) : i < c.connections.length := by
  obtain ⟨conn, hconn, -⟩ := h
  exact (List.getElem?_eq_some_iff.mp hconn).1

theorem has_install (hi : i < c.connections.length) (t : TcpConnection) :
    (c.install i t).Has i Connection.Running := by
  refine ⟨c.connections[i].setConnection (some t), ?_, Or.inl rfl⟩
  rw [install, getElem?_updateConnection, if_pos rfl, List.getElem?_eq_getElem hi]
  rfl

theorem Refused.extend (h : c.Refused i n) (ht : c.trace <+: c'.trace) : c'.Refused i n := by
  obtain ⟨handlerSet, reason, hr, hmem⟩ := h
  obtain ⟨l, hl⟩ := ht
  refine ⟨handlerSet, reason, hr, ?_⟩
  rw [← hl, List.drop_append]
  exact List.mem_append_left _ hmem

/-- Moves only add to the trace. -/
theorem Moves.trace (hm : Moves R c c') : c.trace <+: c'.trace := hm.adds.isPrefix

theorem Moves.running (hclose : ¬R.call (.close i)) (hm : Moves R c c') :
    c.Has i Connection.Running → c'.Has i Connection.Running := by
  induction hm with
  | refl c => exact id
  | trans _ _ ih₁ ih₂ => exact fun h => ih₂ (ih₁ h)
  | aside ha => exact fun h => h.same ha.connections
  | added _ _ _ _ _ =>
    rintro ⟨conn, hconn, hr⟩
    have hi := (List.getElem?_eq_some_iff.mp hconn).1
    exact ⟨conn, by rw [List.getElem?_append_left hi]; exact hconn, hr⟩
  | @connection c j f hf =>
    intro h
    apply h.update j fun _ hr => hr
    rintro rfl conn hconn hr
    exact (hf conn hconn).running hclose hr
  | @login c j _ _ response _ _ _ _ =>
    intro h
    have hstate := h.map j (f := (·.updateTcp fun t =>
      (t.updateLoginTimer LoginTimer.stop).setState .loggedIn)) fun conn hr => by
        simpa [Connection.Running, Connection.updateTcp] using hr
    exact (hstate.map j (f := (·.accept response)) fun _ hr => hr).same rfl
  | @opened c c' j t _ _ hj _ _ _ hm _ ih =>
    intro h
    by_cases hji : j = i
    · subst hji
      apply has_install
      have hlt : j < (c.vacate j).connections.length := by
        simpa [vacate, updateConnection, Client.log] using hj
      exact Nat.lt_of_lt_of_le hlt hm.known
    · have hvacant := h.update (Q := Connection.Running) j (f := (·.setConnection none))
        (fun _ hr => hr) fun hj => absurd hj hji
      exact (ih (hvacant.same rfl)).update j (fun _ hr => hr) fun hj => absurd hj hji
  | _ => exact fun h => h.same rfl

theorem Moves.blameless (hclose : ¬R.call (.close i)) (hopen : ¬R.aborts) (hm : Moves R c c') :
    c.At i Connection.Marked → c.At i Connection.Blameless → c'.At i Connection.Blameless := by
  induction hm with
  | refl c => exact fun _ h => h
  | trans hm _ ih₁ ih₂ =>
    exact fun hmarked h => ih₂ (hm.slot TcpConnection.stays_marked (fun _ => trivial) hmarked) (ih₁ hmarked h)
  | aside ha => exact fun _ h => h.same ha.connections
  | added conn hc _ _ _ => exact fun _ h => h.added fun t ht => by rw [hc] at ht; cases ht
  | connection hf =>
    intro hmarked h
    apply h.update fun _ hb => hb
    rintro rfl conn hconn hb
    exact (hf conn hconn).blameless hclose hopen (hmarked conn hconn) hb
  | login _ _ _ _ =>
    intro _ h
    apply h.takeLogin
    · intro conn hb u hu
      obtain ⟨t, ht, rfl⟩ := Option.map_eq_some_iff.mp hu
      exact hb t ht
    · exact fun _ hb => hb
  | @opened _ _ j _ _ _ _ _ _ _ _ ht ih =>
    intro hmarked h
    have hvacant := h.map j (f := (·.setConnection none)) fun _ _ t ht => by cases ht
    have hmvacant := hmarked.map j (f := (·.setConnection none)) fun _ _ t ht => by cases ht
    refine (ih (hmvacant.same rfl) (hvacant.same rfl)).map j fun _ _ u hu => ?_
    cases hu
    exact ht.blameless
  | _ => exact fun _ h => h.same rfl

theorem Moves.live (hclose : ¬R.call (.close i)) (hm : Moves R c c') (h : c.Live i n) :
    c'.Live i n :=
  h.imp (hm.running hclose) fun hr => hr.extend hm.trace

theorem Moves.trying (hclose : ¬R.call (.close i)) (hopen : ¬R.aborts) (hm : Moves R c c')
    (h : Trying i n c) : Trying i n c' :=
  ⟨Nat.le_trans h.since hm.trace.length_le, hm.slot TcpConnection.stays_marked (fun _ => trivial) h.marked,
    hm.blameless hclose hopen h.marked h.blameless, hm.live hclose h.live⟩

/-- A step that leaves what is in the slot alone, or empties it, keeps the
connection clean; one that also leaves the timer alone keeps it running. -/
theorem Trying.quiet (h : Trying i n c) (j : Nat) {f : Connection → Connection}
    (hconn : ∀ conn, (f conn).connection = conn.connection)
    (htimer : j = i → ∀ conn, conn.reconnectTimer.started = true →
      (f conn).reconnectTimer.started = true) : Trying i n (c.updateConnection j f) := by
  constructor
  · exact h.since
  · exact h.marked.map j fun conn hm t ht => hm t (hconn conn ▸ ht)
  · exact h.blameless.map j fun conn hb t ht => hb t (hconn conn ▸ ht)
  · refine h.live.imp (fun hr => hr.update j (fun _ hr => hr) ?_) id
    intro hj conn _ hr
    exact hr.imp (fun hc => by rw [hconn]; exact hc) (htimer hj conn)

theorem Trying.log (h : Trying i n c) (entry : Entry) : Trying i n (c.log entry) :=
  ⟨Nat.le_trans h.since (by simp [Client.log]), h.marked.same rfl, h.blameless.same rfl,
    h.live.imp (fun hr => hr.same rfl) fun hr => hr.extend (List.prefix_append _ _)⟩

/-- The slot of another connection is emptied. -/
theorem Trying.emptied (h : Trying i n c) {j : Nat} (hj : j ≠ i) :
    Trying i n (c.updateConnection j (·.setConnection none)) := by
  constructor
  · exact h.since
  · exact h.marked.map j fun _ _ t ht => by cases ht
  · exact h.blameless.map j fun _ _ t ht => by cases ht
  · exact h.live.imp (fun hr => hr.update j (fun _ hr => hr) fun hji => absurd hji hj) id

/-- The slot of `i` is emptied for a while. -/
structure Idling (i n : Nat) (c : Client) : Prop where
  since : n ≤ c.trace.length
  marked : c.At i Connection.Marked
  blameless : c.At i Connection.Blameless
  known : i < c.connections.length

theorem Idling.moves (hclose : ¬R.call (.close i)) (hopen : ¬R.aborts) (h : Idling i n c)
    (hm : Moves R c c') : Idling i n c' :=
  ⟨Nat.le_trans h.since hm.trace.length_le, hm.slot TcpConnection.stays_marked (fun _ => trivial) h.marked,
    hm.blameless hclose hopen h.marked h.blameless, Nat.lt_of_lt_of_le h.known hm.known⟩

theorem Idling.timer (h : Idling i n c) (j : Nat) (f : ReconnectTimer → ReconnectTimer) :
    Idling i n (c.updateConnection j (·.updateReconnectTimer f)) :=
  ⟨h.since, h.marked.map j fun _ hp => hp, h.blameless.map j fun _ hp => hp, by
    simpa [updateConnection] using h.known⟩

theorem Trying.timer (h : Trying i n c) {j : Nat} (hj : j ≠ i)
    (f : ReconnectTimer → ReconnectTimer) :
    Trying i n (c.updateConnection j (·.updateReconnectTimer f)) :=
  h.quiet j (fun _ => rfl) fun hji => absurd hji hj

theorem Idling.trying (h : Idling i n c) (hl : c.Live i n) : Trying i n c :=
  ⟨h.since, h.marked, h.blameless, hl⟩

end

/-- The user closes the connection `i`, between events or from inside a callback. -/
def ClosedByUser (i : Nat) (input : Event × Env) : Prop :=
  input.1 = .call (.close i) ∨ ∃ cb, .close i ∈ input.2.calls cb

/-- Reconnect timers do not fail, asio aborts a read only after its socket has
been closed, and the client is not started afresh. -/
structure Undisturbed (input : Event × Env) (c : Client) : Prop where
  reconnectTimer : ∀ i, (input.2.faults i).reconnectTimer = none
  reconnectWait : ∀ i epoch ec, input.1 = .reconnectTimerWait i epoch (some ec) →
    c.reconnecting i = true →
      (c.connections[i]?.any fun conn => conn.reconnectTimer.epoch == epoch) = false
  abortsRead : c.abortsRead input.1 = false
  start : ∀ k, input.1 = .posted k → c.posted[k]? = some .start → c.started = true

section
variable {env : Env} {event : Event} {facts : Facts} {i n : Nat} {c c' : Client}

theorem running_of_reconnecting (h : c.reconnecting i = true) : c.Has i Connection.Running := by
  cases hconn : c.connections[i]? with
  | none => simp [Client.reconnecting, hconn] at h
  | some conn =>
    refine ⟨conn, hconn, Or.inr ?_⟩
    simpa [Client.reconnecting, hconn] using h

/-- The connection `i` is closed: it is refused, or waits to be opened again. -/
theorem Closes.trying {t : TcpConnection} (hclose : ∀ cb, .close i ∉ env.calls cb)
    (hopen : ¬facts.aborts) (htimer : (env.faults i).reconnectTimer = none)
    (hstarted : c.started = true) (ht : c.tcp? i = some t) (hs : t.socketClosed = true)
    (hcloses : Closes env facts i t.state.reason c c') (h : Trying i n c) : Trying i n c' := by
  obtain ⟨conn, hconn, hct⟩ : ∃ conn, c.connections[i]? = some conn ∧
      conn.connection = some t := by
    cases hconn : c.connections[i]? with
    | none => simp [tcp?, hconn] at ht
    | some conn => exact ⟨conn, rfl, by simpa [tcp?, hconn] using ht⟩
  have hcalls (cb : Callback) : ¬env.Makes env.depth cb (.close i) := by
    intro hmakes
    obtain ⟨cb, hmem⟩ := hmakes.called
    exact hclose cb hmem
  have hmarked := h.marked conn hconn t hct
  have hreason : t.state.reason ≠ .none := hmarked.reason (hmarked.signaled (Or.inr hs))
  have hfreed (b : Bool) : Idling i n
      ((c.freed i).log (.called b (.connection i (.disconnect t.state.reason)))) := by
    constructor
    · exact Nat.le_trans h.since (by simp [freed, Client.log, updateConnection])
    · have hempty := h.marked.map i (f := (·.setConnection none)) fun _ _ t ht => by cases ht
      exact hempty.same rfl
    · have hempty := h.blameless.map i (f := (·.setConnection none)) fun _ _ t ht => by cases ht
      exact hempty.same rfl
    · simpa [freed, updateConnection, Client.log] using (List.getElem?_eq_some_iff.mp hconn).1
  cases hcloses with
  | @idle b c' hm hidle =>
    have hrefuses : refuses t.state.reason = true := by
      rcases h.blameless conn hconn t hct with hnone | hretry | hrefuses
      · exact absurd hnone hreason
      · rcases hidle with hno | hno
        · rw [hstarted] at hno
          cases hno
        · rw [hretry] at hno
          cases hno
      · exact hrefuses
    have hrefused : ((c.freed i).log
        (.called b (.connection i (.disconnect t.state.reason)))).Refused i n := by
      refine ⟨b, _, hrefuses, ?_⟩
      have hle : n ≤ (c.freed i).trace.length :=
        Nat.le_trans h.since (by simp [freed, Client.log, updateConnection])
      rw [Client.log, List.drop_append_of_le_length hle]
      exact List.mem_append_right _ List.mem_cons_self
    exact ((hfreed b).moves (hcalls _) hopen hm).trying (Or.inr (hrefused.extend hm.trace))
  | @rescheduled b delay c₂ c₃ _ _ _ hm hm' hscheduled =>
    have hdelayed : Idling i n (c₂.updateConnection i Connection.nextDelay) := by
      have hfreed := (hfreed b).moves (hcalls _) hopen hm
      exact ⟨hfreed.since, hfreed.marked.map i fun _ hp => hp, hfreed.blameless.map i fun _ hp => hp,
        by simpa [updateConnection] using hfreed.known⟩
    have hready := hdelayed.moves (hcalls _) hopen hm'
    cases hscheduled with
    | running hr => exact hready.trying (Or.inl (running_of_reconnecting hr))
    | failed _ hfault _ => exact absurd htimer hfault
    | begun _ _ =>
      refine ((hready.timer i _).timer i _).trying (Or.inl (running_of_reconnecting ?_))
      have hconn := List.getElem?_eq_getElem hready.known
      rw [Client.reconnecting, getElem?_updateConnection, if_pos rfl, getElem?_updateConnection,
        if_pos rfl, hconn]
      rfl

/-- Another connection is closed. -/
theorem Closes.trying_other {j : Nat} {reason : DisconnectReason} (hj : j ≠ i)
    (hclose : ∀ cb, .close i ∉ env.calls cb) (hopen : ¬facts.aborts)
    (hcloses : Closes env facts j reason c c') (h : Trying i n c) : Trying i n c' := by
  have hcalls (cb : Callback) : ¬env.Makes env.depth cb (.close i) := by
    intro hmakes
    obtain ⟨cb, hmem⟩ := hmakes.called
    exact hclose cb hmem
  have hduring : ¬(env.during facts).call (.close i) := by
    rintro ⟨cb, hmakes⟩
    exact hcalls cb hmakes
  have hfreed (b : Bool) : Trying i n
      ((c.freed j).log (.called b (.connection j (.disconnect reason)))) :=
    ((h.emptied hj).log (.onClosed j)).log _
  cases hcloses with
  | idle hm _ => exact hm.trying (hcalls _) hopen (hfreed _)
  | @rescheduled _ _ c₂ _ _ _ _ hm hm' hscheduled =>
    have htold := hm.trying (hcalls _) hopen (hfreed _)
    have hdelayed := htold.quiet j (f := Connection.nextDelay) (fun _ => rfl) fun _ _ hs => hs
    have hready := hm'.trying (hcalls _) hopen hdelayed
    cases hscheduled with
    | running _ => exact hready
    | failed _ _ hm'' => exact hm''.trying hduring hopen hready
    | begun _ _ => exact (hready.timer hj _).timer hj _

theorem Course.trying (hcourse : Course env c event c') (hopen : ¬ClosedByUser i (event, env))
    (hfree : Undisturbed (event, env) c) (hstarted : c.started = true) (hstill : c'.started = true)
    (h : Trying i n c) (hi : i < c.connections.length) : Trying i n c' := by
  have hclose : ∀ cb, .close i ∉ env.calls cb := fun cb hmem => hopen (Or.inr ⟨cb, hmem⟩)
  have haborts : ¬(c.facts event).aborts := by
    intro ha
    have habort : c.abortsRead event = true := ha
    rw [hfree.abortsRead] at habort
    cases habort
  have hduring : ¬(env.during (c.facts event)).call (.close i) := by
    rintro ⟨cb, hmakes⟩
    obtain ⟨cb, hmem⟩ := hmakes.called
    exact hclose cb hmem
  cases hcourse with
  | moves hm =>
    refine hm.trying ?_ haborts h
    rintro (hcall | hcall)
    · exact hopen (Or.inl hcall)
    · exact hduring hcall
  | @connected j _ _ _ _ hm hm' =>
    have hbefore := hm.trying hduring haborts h
    refine hm'.trying hduring haborts ⟨hbefore.since, ?_, ?_, ?_⟩
    · refine hbefore.marked.map j fun conn hp u hu => ?_
      obtain ⟨t, ht, rfl⟩ := Option.map_eq_some_iff.mp hu
      exact ⟨(hp t ht).signaled, (hp t ht).reason⟩
    · refine hbefore.blameless.map j fun conn hp u hu => ?_
      obtain ⟨t, ht, rfl⟩ := Option.map_eq_some_iff.mp hu
      exact hp t ht
    · exact hbefore.live.imp (fun hr => hr.map j fun conn hr => by
        simpa [Connection.Running, Connection.updateTcp] using hr) id
  | @closed j t c₁ _ hm ht hs hcloses =>
    have hbefore := hm.trying hduring haborts h
    by_cases hj : j = i
    · subst hj
      exact Closes.trying hclose haborts (hfree.reconnectTimer j) (hm.started.trans hstarted) ht hs
        hcloses hbefore
    · exact Closes.trying_other hj hclose haborts hcloses hbefore
  | @reopened j _ t c₁ c₂ _ hm _ hm' ht =>
    have hbefore := hm.trying hduring haborts h
    have hlt : i < ((c₁.stopReconnect j).vacate j).connections.length := by
      simpa [stopReconnect, vacate, updateConnection, Client.log] using
        Nat.lt_of_lt_of_le hi hm.known
    have hstopped : Idling i n ((c₁.stopReconnect j).vacate j) := by
      constructor
      · exact Nat.le_trans hbefore.since (by
          simp [stopReconnect, vacate, updateConnection, Client.log])
      · have hempty := (hbefore.marked.map j
          (f := (·.updateReconnectTimer (ReconnectTimer.setStarted false))) fun _ hp => hp).map j
            (f := (·.setConnection none)) fun _ _ t ht => by cases ht
        exact hempty.same rfl
      · have hempty := (hbefore.blameless.map j
          (f := (·.updateReconnectTimer (ReconnectTimer.setStarted false))) fun _ hp => hp).map j
            (f := (·.setConnection none)) fun _ _ t ht => by cases ht
        exact hempty.same rfl
      · exact hlt
    have hready := hstopped.moves hduring haborts hm'
    refine Idling.trying ⟨hready.since, ?_, ?_, ?_⟩ ?_
    · refine hready.marked.map j fun _ _ u hu => ?_
      cases hu
      exact ht.marked
    · refine hready.blameless.map j fun _ _ u hu => ?_
      cases hu
      exact ht.blameless
    · simpa [install, updateConnection] using hready.known
    · by_cases hj : j = i
      · subst hj
        exact Or.inl (has_install hready.known t)
      · have hvacant := ((hbefore.quiet j (f := (·.updateReconnectTimer
          (ReconnectTimer.setStarted false))) (fun _ => rfl) fun hji => absurd hji hj).emptied hj
            ).log (.constructed j)
        exact ((hm'.trying hduring haborts hvacant).live).imp
          (fun hr => hr.update j (fun _ hr => hr) fun hji => absurd hji hj) id
  | @failed j epoch ec c₁ _ hevent hepoch hm hr hm' =>
    by_cases hj : j = i
    · subst hj
      exfalso
      have hrunning : c.reconnecting j = true := by
        by_contra hidle
        have hidle : c.At j (·.reconnectTimer.started = false) := by
          intro conn hconn
          simpa [Client.reconnecting, hconn] using hidle
        have hidle := hm.idle hidle
        cases hconn : c₁.connections[j]? with
        | none => simp [Client.reconnecting, hconn] at hr
        | some conn => simp [Client.reconnecting, hconn, hidle conn hconn] at hr
      have hnot := hfree.reconnectWait j epoch ec hevent hrunning
      rw [hepoch] at hnot
      cases hnot
    · exact hm'.trying hduring haborts ((hm.trying hduring haborts h).timer hj _)
  | started hevent hk hs _ =>
    rw [hfree.start _ hevent hk] at hs
    cases hs
  | stopped _ _ _ hm =>
    have hstopped := hm.started
    rw [hstill] at hstopped
    cases hstopped

end

/-! ## From a start on -/

section
variable {R : Rules} {user : User} {i n : Nat} {c : Client}

/-- A connection of a started client is open after `connect`, or waits for its timer. -/
theorem running_connect (hu : ∀ cb c, Moves R c (user cb c)) (faults : Faults)
    (hs : c.started = true) (hi : i < c.connections.length) :
    (c.connect user faults i).Has i Connection.Running := by
  have hconn := List.getElem?_eq_getElem hi
  unfold Client.connect
  rw [hconn]
  dsimp only
  have hcalled : (c.log (.connectCalled i)).started = true := hs
  rw [if_neg (by simp [hcalled])]
  split
  · rename_i hsome
    exact ⟨_, hconn, Or.inl hsome⟩
  · split
    · rename_i hr
      exact ⟨_, hconn, Or.inr hr⟩
    · obtain ⟨c', t, hmoves, _, heq⟩ := emplace_halves (c := c.log (.connectCalled i)) faults
        (fun cb _ => hu cb) hi
      rw [heq]
      apply has_install
      have hlt : i < ((c.log (.connectCalled i)).vacate i).connections.length := by
        simpa [vacate, updateConnection, Client.log] using hi
      exact Nat.lt_of_lt_of_le hlt hmoves.known

theorem trying_connectFrom (hu : ∀ cb c, Moves R c (user cb c)) (hcall : ∀ j, R.call (.connect j))
    (hclose : ¬R.call (.close i)) (hopen : ¬R.aborts) (faults : Nat → Faults) (more : Nat) :
    ∀ (j : Nat) {c : Client}, Idling i n c → c.started = true →
      c.Live i n ∨ j ≤ i ∧ i < j + more → Trying i n (connectFrom user faults more j c) := by
  induction more with
  | zero =>
    intro j c h _ hl
    rcases hl with hl | hl
    · exact h.trying hl
    · omega
  | succ more ih =>
    intro j c h hs hl
    have hm : Moves R c (c.connect user (faults j) j) :=
      moves_connect (fun cb _ => hu cb) (hcall j)
    apply ih (j + 1) (h.moves hclose hopen hm) (hm.started.trans hs)
    rcases hl with hl | hl
    · exact Or.inl (hm.live hclose hl)
    · by_cases hj : j = i
      · subst hj
        exact Or.inl (Or.inl (running_connect hu _ hs h.known))
      · right
        omega

end

/-- The connection `i` is not being torn down for a reason after which it is not
opened again. -/
def StartsAfresh (i : Nat) (c : Client) : Prop :=
  ∀ t, c.tcp? i = some t → t.state.reason = .none ∨ isRetryable t.state.reason = true

theorem trying_start {c : Client} {env : Env} {k i : Nat} (hk : c.posted[k]? = some .start)
    (hs : c.started = false) (hopen : ¬ClosedByUser i (.posted k, env)) (hafresh : c.StartsAfresh i)
    (hmarked : c.At i Connection.Marked) (hi : i < c.connections.length) :
    Trying i c.trace.length (c.handle env (.posted k)) := by
  simp only [handle, hk, runPosted, hs]
  have hblameless : c.At i Connection.Blameless := by
    intro conn hconn t ht
    have htcp : c.tcp? i = some t := by simp [tcp?, hconn, ht]
    exact (hafresh t htcp).imp_right Or.inl
  have hidling : Idling i c.trace.length
      { c with posted := c.posted.eraseIdx k, started := true } :=
    ⟨Nat.le_refl _, hmarked.same rfl, hblameless.same rfl, hi⟩
  have hclose : ¬((env.during (⟨False, False⟩ : SoupBin.ClientSide.Facts)).with fun call =>
      ∃ j, call = .connect j).call (.close i) := by
    rintro (⟨_, hcall⟩ | ⟨cb, hmakes⟩)
    · cases hcall
    · obtain ⟨cb, hmem⟩ := hmakes.called
      exact hopen (Or.inr ⟨cb, hmem⟩)
  refine trying_connectFrom (fun cb c => (moves_during cb c).with _) (fun j => Or.inl ⟨j, rfl⟩)
    hclose id env.faults _ 0 hidling rfl (Or.inr ⟨Nat.zero_le _, ?_⟩)
  omega

theorem kept_known (n : Nat) : Kept (fun _ => True) fun c => n ≤ c.connections.length where
  moves _ hm h := Nat.le_trans h hm.known
  freed _ _ _ _ h := by simpa [freed, updateConnection, Client.log] using h
  delayed _ _ h := by simpa [updateConnection] using h
  timer _ _ _ h := by simpa [updateConnection] using h
  reopened {_ j _ c _} _ hm _ h := by
    have hle : n ≤ (c.vacate j).connections.length := by
      simpa [vacate, updateConnection, Client.log] using h
    simpa [install, updateConnection] using Nat.le_trans hle hm.known
  flagged _ _ _ h := h

theorem known_handle (env : Env) {event : Event} {c : Client} (hready : c.ready event = true) :
    c.connections.length ≤ (c.handle env event).connections.length :=
  (course_handle env hready).keeps (kept_known _)
    ⟨trivial, trivial, fun _ => trivial, trivial, trivial⟩
    (fun _ _ _ _ h => by simpa [updateTcp, updateConnection] using h) (Nat.le_refl _)

/-- A client is started by `start`, or has been started before. -/
theorem Course.started_of {env : Env} {event : Event} {c c' : Client}
    (hcourse : Course env c event c') (hs : c'.started = true) :
    c.started = true ∨
      ∃ k, event = .posted k ∧ c.posted[k]? = some .start ∧ c.started = false := by
  cases hcourse with
  | moves hm => exact Or.inl (hm.started ▸ hs)
  | connected _ _ hm hm' => exact Or.inl (hm.started ▸ hm'.started ▸ hs)
  | closed hm _ _ hcloses =>
    left
    rw [← hm.started]
    cases hcloses with
    | idle hm' _ => exact hm'.started ▸ hs
    | rescheduled hstarted _ _ _ _ => exact hstarted
  | reopened _ hm _ hm' _ => exact Or.inl (hm.started ▸ hm'.started ▸ hs)
  | failed _ _ hm _ hm' => exact Or.inl (hm.started ▸ hm'.started ▸ hs)
  | started hevent hk hno _ => exact Or.inr ⟨_, hevent, hk, hno⟩
  | stopped _ _ _ hm =>
    rw [hm.started] at hs
    cases hs

theorem Undisturbed.trying {i n : Nat} {c₁ c : Client} {inputs : List (Event × Env)}
    (hrun : (system.restrict Undisturbed).Run c₁ inputs c)
    (hopen : ∀ input ∈ inputs, ¬ClosedByUser i input) (hi : i < c₁.connections.length)
    (hmarked : c₁.At i Connection.Marked) (h : c₁.started = true → Trying i n c₁) :
    i < c.connections.length ∧ c.At i Connection.Marked ∧ (c.started = true → Trying i n c) := by
  induction hrun with
  | refl => exact ⟨hi, hmarked, h⟩
  | @step inputs c input _ hinput ih =>
    obtain ⟨hi, hmarked, h⟩ := ih fun other hother => hopen other (List.mem_append_left _ hother)
    have hcourse := course_handle input.2 hinput.1
    refine ⟨?_, slot_handle TcpConnection.stays_marked input.2 hinput.1 (fun _ => trivial) hmarked, ?_⟩
    · exact Nat.lt_of_lt_of_le hi (known_handle input.2 hinput.1)
    · intro hstill
      have hstarted : c.started = true := by
        rcases hcourse.started_of hstill with hs | ⟨k, hevent, hk, hs⟩
        · exact hs
        · exact hinput.2.start k hevent hk
      exact hcourse.trying (hopen input (by simp)) hinput.2 hstarted hstill (h hstarted) hi

/-- **A started client keeps trying.** Let the client be started while the
connection `i` is not being torn down for a reason after which it is not opened
again. Then, for as long as the client is started, the connection has its
`Tcp_connection` or waits for its timer, unless it has been refused since, or
the user has closed it. -/
theorem started_connection_is_live (c₀ : Client) (h₀ : Idle c₀) (before : List (Event × Env))
    (c₁ : Client) (hbefore : system.Run c₀ before c₁) (k : Nat) (env : Env)
    (hstart : c₁.posted[k]? = some .start ∧ c₁.started = false) (i : Nat)
    (hi : i < c₁.connections.length) (hafresh : c₁.StartsAfresh i) (after : List (Event × Env))
    (c : Client)
    (hafter : (system.restrict Undisturbed).Run (c₁.handle env (.posted k)) after c)
    (hstarted : c.started = true) :
    (c.tcp? i).isSome = true ∨ c.reconnecting i = true ∨ c.Refused i c₁.trace.length ∨
      ∃ input ∈ (.posted k, env) :: after, ClosedByUser i input := by
  by_cases hclosed : ∃ input ∈ (.posted k, env) :: after, ClosedByUser i input
  · exact Or.inr (Or.inr (Or.inr hclosed))
  · have hmarked : c₁.At i Connection.Marked := by
      apply hbefore.keeps (I := At i Connection.Marked)
      · exact fun input c hinput h => slot_handle TcpConnection.stays_marked input.2 hinput
          (fun _ => trivial) h
      · intro conn hconn t ht
        rw [(h₀.connections conn (List.mem_of_getElem? hconn)).1] at ht
        cases ht
    have hk : k < c₁.posted.length := (List.getElem?_eq_some_iff.mp hstart.1).1
    have hready : c₁.ready (.posted k) = true := by simpa [ready] using hk
    have hopen : ¬ClosedByUser i (.posted k, env) :=
      fun hc => hclosed ⟨_, List.mem_cons_self, hc⟩
    have htrying := trying_start hstart.1 hstart.2 hopen hafresh hmarked hi
    obtain ⟨-, -, h⟩ := Undisturbed.trying hafter
      (fun input hinput hc => hclosed ⟨input, List.mem_cons_of_mem _ hinput, hc⟩)
      (Nat.lt_of_lt_of_le hi (known_handle env hready))
      (slot_handle TcpConnection.stays_marked env hready (fun _ => trivial) hmarked)
      fun _ => htrying
    rcases (h hstarted).live with ⟨conn, hconn, hr⟩ | hrefused
    · rcases hr with hsome | hrunning
      · exact Or.inl (by simpa [tcp?, hconn] using hsome)
      · exact Or.inr (Or.inl (by simpa [Client.reconnecting, hconn] using hrunning))
    · exact Or.inr (Or.inr (Or.inl hrefused))

/-- The client is started, stopped, and the connection is torn down. -/
def stopsFirst : List Event :=
  [.call .start, .posted 0, .connectCompleted 0 none, .call .stop, .posted 0,
    .headerCompleted 0 (.error .operationAborted), .writeCompleted 0 (.error .operationAborted),
    .loginTimerWait 0 (some .operationAborted), .socketClosed 0, .loginTimerStopped 0,
    .call .start]

/-- The client has been started again, and the server closes the connection. -/
def losesAgain : List Event :=
  [.connectCompleted 0 none, .headerCompleted 0 (.error .eof),
    .writeCompleted 0 (.error .operationAborted), .loginTimerWait 0 (some .operationAborted),
    .socketClosed 0, .loginTimerStopped 0]

theorem undisturbed_plain {event : Event} (c : Client)
    (hwait : ∀ i epoch ec, event ≠ .reconnectTimerWait i epoch (some ec))
    (habort : ∀ i, event ≠ .headerCompleted i (.error .operationAborted) ∧
      event ≠ .payloadCompleted i (.error .operationAborted))
    (hposted : ∀ k, event ≠ .posted k) : Undisturbed (event, Env.plain) c := by
  constructor
  · exact fun _ => rfl
  · exact fun i epoch ec hevent => absurd hevent (hwait i epoch ec)
  · show abortsRead event c = false
    unfold abortsRead
    split
    · exact absurd rfl (habort _).1
    · exact absurd rfl (habort _).2
    · rfl
  · exact fun k hevent => absurd hevent (hposted k)

theorem started_connection_is_live_again :
    let c₁ := system.final single (stopsFirst.map fun event => (event, Env.plain))
    let c := system.final (c₁.handle .plain (.posted 0))
      (losesAgain.map fun event => (event, Env.plain))
    c.started = true ∧ c.reconnecting 0 = true ∧
      ((c.tcp? 0).isSome = true ∨ c.reconnecting 0 = true ∨ c.Refused 0 c₁.trace.length ∨
        ∃ input ∈ (.posted 0, .plain) :: losesAgain.map (fun event => (event, Env.plain)),
          ClosedByUser 0 input) := by
  intro c₁ c
  have hidle : Idle single := ⟨rfl, rfl, rfl, by simp [single]⟩
  have hbefore : system.Run single (stopsFirst.map fun event => (event, Env.plain)) c₁ :=
    System.run_of_admits (by decide +kernel)
  have hafter : system.Run (c₁.handle .plain (.posted 0))
      (losesAgain.map fun event => (event, Env.plain)) c := System.run_of_admits (by decide +kernel)
  have hafresh : c₁.StartsAfresh 0 := by
    intro t ht
    have hnone : c₁.tcp? 0 = none := by decide +kernel
    rw [hnone] at ht
    cases ht
  refine ⟨by decide +kernel, by decide +kernel, started_connection_is_live single hidle _ c₁ hbefore
    0 .plain (by decide +kernel) 0 (by decide +kernel) hafresh _ c (hafter.restrict ?_)
    (by decide +kernel)⟩
  intro input hinput u
  obtain ⟨event, hevent, rfl⟩ := List.mem_map.mp hinput
  apply undisturbed_plain
  · rintro i epoch ec rfl
    simp [losesAgain] at hevent
  · intro i
    constructor <;> rintro rfl <;> simp [losesAgain] at hevent
  · rintro k rfl
    simp [losesAgain] at hevent

/-- The client is started again before the teardown has finished. -/
def restartsEarly : List Event :=
  [.call .start, .posted 0, .connectCompleted 0 none, .call .stop, .posted 0, .call .start,
    .posted 0, .headerCompleted 0 (.error .operationAborted),
    .writeCompleted 0 (.error .operationAborted), .loginTimerWait 0 (some .operationAborted),
    .socketClosed 0, .loginTimerStopped 0]

/-- The connection is idle for ever: nothing is posted, and no timer runs. -/
theorem idle_after_early_restart :
    let inputs := restartsEarly.map fun event => (event, Env.plain)
    let c := system.final single inputs
    system.Run single inputs c ∧ c.started = true ∧ c.tcp? 0 = none ∧ c.reconnecting 0 = false ∧
      c.posted = [] ∧ (c.connections.all fun conn => conn.reconnectTimer.waits = []) = true ∧
      ¬c.Refused 0 0 ∧ ∀ input ∈ inputs, ¬ClosedByUser 0 input := by
  intro inputs c
  refine ⟨System.run_of_admits (by decide +kernel), by decide +kernel, by decide +kernel,
    by decide +kernel, by decide +kernel, by decide +kernel, ?_, ?_⟩
  · rintro ⟨handlerSet, reason, hr, hmem⟩
    have hall : (c.trace.all (!·.tellsRefusal)) = true := by decide +kernel
    have hno := List.all_eq_true.mp hall _ (List.mem_of_mem_drop hmem)
    simp [Entry.tellsRefusal, hr] at hno
  · intro input hinput hclosed
    obtain ⟨event, hevent, rfl⟩ := List.mem_map.mp hinput
    rcases hclosed with hcall | ⟨cb, hmem⟩
    · simp only at hcall
      subst hcall
      simp [restartsEarly] at hevent
    · simp [Env.plain] at hmem

end Client
end SoupBin.ClientSide
