import SoupBin.ClientCourse
import SoupBin.ClientFeed

/-!
# The session of a client

The end of the session is reported once, and no sequenced data comes after it
unless a redundant connection still delivers some. Connections that are
configured with one and the same session are never logged in to different ones.
-/

namespace SoupBin.ClientSide

def Entry.endsSession : Entry → Bool
  | .called _ .endOfSession => true
  | _ => false

def Entry.delivers : Entry → Bool
  | .called _ (.sequencedData _ _) => true
  | _ => false

def Entry.acceptedBy (i : Nat) : Entry → Option Bytes
  | .accepted j response => if j = i then some response.session else none
  | _ => none

/-- What is done to a connection does not log it in. -/
theorem Connection.Act.loggedIn {R : Rules} {i : Nat} {conn conn' : Connection}
    (ha : Connection.Act R i conn conn') {u : TcpConnection} (hu : conn'.connection = some u)
    (hs : u.state.state = .loggedIn) : ∃ t, conn.connection = some t ∧ t.state.state = .loggedIn := by
  cases ha with
  | tcp hf =>
    obtain ⟨t, ht, rfl⟩ := Option.map_eq_some_iff.mp hu
    refine ⟨t, ht, ?_⟩
    cases hf t ht with
    | aside haside => rw [← haside.state, hs]
    | disconnect reason _ _ hd =>
      rw [hd.state] at hs
      cases hs
  | close _ =>
    obtain ⟨t, ht, rfl⟩ := Option.map_eq_some_iff.mp hu
    refine ⟨t, ht, ?_⟩
    rcases t.disconnect_cases .userInitiated with heq | hd
    · rwa [TcpConnection.close, heq] at hs
    · rw [TcpConnection.close, hd.state] at hs
      cases hs
  | configure hsame _ _ _ => exact ⟨u, hsame ▸ hu, hs⟩
  | setSession _ _ => exact ⟨u, hu, hs⟩
  | ended => exact ⟨u, hu, hs⟩

theorem Connection.Act.keepsSession {R : Rules} {i : Nat} {session : Bytes}
    {conn conn' : Connection} (ha : Connection.Act R i conn conn')
    (hset : ∀ other, R.call (.setSession i other) → other = session)
    (hconn : conn.session = session) : conn'.session = session := by
  cases ha with
  | setSession other hc => exact hset other hc
  | configure _ _ hsame _ => exact hsame.trans hconn
  | _ => exact hconn

namespace Client

/-! ## The end of the session -/

/-- `sequenced_data` is never called after `end_of_session`. -/
def EndsLast (c : Client) : Prop :=
  c.trace.Pairwise fun earlier later => earlier.endsSession = true → later.delivers = false

structure SessionKept (c : Client) : Prop where
  ended : ∀ entry ∈ c.trace, entry.endsSession = true → c.hasSessionEnded = true
  last : c.EndsLast

theorem SessionKept.log {c : Client} (h : SessionKept c) (c' : Client) (htrace : c'.trace = c.trace)
    (hstays : c.hasSessionEnded = true → c'.hasSessionEnded = true) (entry : Entry)
    (hdelivers : entry.delivers = true → c.hasSessionEnded = false)
    (hends : entry.endsSession = true → c'.hasSessionEnded = true) :
    SessionKept (c'.log entry) := by
  have hlog : (c'.log entry).trace = c.trace ++ [entry] := by
    rw [Client.log, htrace]
  constructor
  · intro e he
    rw [hlog, List.mem_append, List.mem_singleton] at he
    rcases he with he | rfl
    · exact fun hs => hstays (h.ended e he hs)
    · exact hends
  · rw [EndsLast, hlog, List.pairwise_append]
    refine ⟨h.last, List.pairwise_singleton _ _, ?_⟩
    intro e he e' he' hs
    rw [List.mem_singleton] at he'
    subst he'
    by_contra hd
    have hopen := hdelivers (by simpa using hd)
    rw [h.ended e he hs] at hopen
    cases hopen

theorem SessionKept.same {c c' : Client} (h : SessionKept c) (htrace : c'.trace = c.trace)
    (hended : c'.hasSessionEnded = c.hasSessionEnded) : SessionKept c' := by
  constructor
  · rw [htrace, hended]
    exact h.ended
  · rw [EndsLast, htrace]
    exact h.last

theorem SessionKept.plain {c : Client} (h : SessionKept c) {entry : Entry}
    (hdelivers : entry.delivers = false) (hends : entry.endsSession = false) :
    SessionKept (c.log entry) :=
  h.log c rfl id entry (by simp [hdelivers]) (by simp [hends])

theorem Moves.sessionKept {R : Rules} (hlate : ¬R.late) {c c' : Client} (hm : Moves R c c') :
    SessionKept c → SessionKept c' := by
  induction hm with
  | refl c => exact id
  | trans _ _ ih₁ ih₂ => exact fun h => ih₂ (ih₁ h)
  | @note c entry he =>
    intro h
    apply h.plain
    · cases entry with
      | called b cb => cases cb <;> simp_all [Entry.plain, Entry.delivers]
      | _ => rfl
    · cases entry with
      | called b cb => cases cb <;> simp_all [Entry.plain, Entry.endsSession]
      | _ => rfl
  | returned _ _ => exact fun h => h.plain rfl rfl
  | aside ha => exact fun h => h.same ha.trace ha.hasSessionEnded
  | @login c i _ _ response _ _ _ _ =>
    intro h
    have hupdated : SessionKept ((c.updateTcp i fun t =>
        (t.updateLoginTimer LoginTimer.stop).setState .loggedIn).updateConnection i
          (·.accept response)) := h.same rfl rfl
    exact hupdated.plain rfl rfl
  | @deliver c n data hn hl =>
    intro h
    refine h.log (c.setNextSequenceNumber ((n + 1) % 2 ^ 64)) rfl id _ ?_ ?_
    · intro _
      cases he : c.hasSessionEnded with
      | false => rfl
      | true => exact absurd (hl he) hlate
    · intro he
      cases he
  | @endSession c hopen =>
    intro h
    refine h.log { c with hasSessionEnded := true } rfl (fun _ => rfl) _ ?_ (fun _ => rfl)
    intro hd
    cases hd
  | @opened c c' i t _ _ _ _ _ _ _ _ ih =>
    intro h
    have hvacated : SessionKept (c.updateConnection i (·.setConnection none)) := h.same rfl rfl
    have hvacant : SessionKept (c.vacate i) := hvacated.plain rfl rfl
    exact (ih hvacant).same rfl rfl
  | _ => exact fun h => h.same rfl rfl

theorem kept_sessionKept : Kept (fun R => ¬R.late) SessionKept where
  moves hlate hm h := hm.sessionKept hlate h
  freed i handlerSet reason c h := by
    have hemptied : SessionKept (c.updateConnection i (·.setConnection none)) := h.same rfl rfl
    have hfreed : SessionKept (c.freed i) := hemptied.plain rfl rfl
    exact hfreed.plain rfl rfl
  delayed _ _ h := h.same rfl rfl
  timer _ _ _ h := h.same rfl rfl
  reopened {R i t c c'} hlate hm _ h := by
    have hemptied : SessionKept (c.updateConnection i (·.setConnection none)) := h.same rfl rfl
    have hvacant : SessionKept (c.vacate i) := hemptied.plain rfl rfl
    exact (hm.sessionKept hlate hvacant).same rfl rfl
  flagged _ _ _ h := h.same rfl rfl

/-- No redundant connection delivers the client's next message after the end of
the session. -/
def PromptEnd (input : Event × Env) (c : Client) : Prop := c.late input.1 = false

instance (input : Event × Env) (c : Client) : Decidable (PromptEnd input c) := by
  unfold PromptEnd
  infer_instance

/-- **The end of the session is the end.** In every run in which no connection
still delivers the next message once the session has ended, `sequenced_data` is
never called after `end_of_session`. -/
theorem session_end_is_last (c₀ : Client) (h₀ : Idle c₀) (inputs : List (Event × Env)) (c : Client)
    (hrun : (system.restrict PromptEnd).Run c₀ inputs c) : EndsLast c := by
  have hkept : SessionKept c := by
    apply hrun.keeps (I := SessionKept)
    · intro input c hi h
      have hlate : ¬(c.late input.1 = true) := by
        rw [show c.late input.1 = false from hi.2]
        decide
      exact (course_handle input.2 hi.1).keeps kept_sessionKept
        ⟨hlate, hlate, fun _ => hlate, hlate, hlate⟩ (fun _ _ _ _ h => h.same rfl rfl) h
    · constructor
      · simp [h₀.trace]
      · simp [EndsLast, h₀.trace]
  exact hkept.last

/-- A client with two connections to the same server. -/
def redundant : Client := { connections := [{ endpoint := 1 }, { endpoint := 2 }] }

/-- Both connections are opened and logged in, the next number being 1. -/
def bothLoggedIn : List Event :=
  [.call .start, .posted 0, .connectCompleted 0 none, .connectCompleted 1 none,
    .headerCompleted 0 (.ok [0, 31, LoginAcceptedPacket.packetType]),
    .payloadCompleted 0 (.ok (LoginAcceptedPacket.write ⟨[83], 1⟩)),
    .headerCompleted 1 (.ok [0, 31, LoginAcceptedPacket.packetType]),
    .payloadCompleted 1 (.ok (LoginAcceptedPacket.write ⟨[83], 1⟩))]

/-- The first connection delivers a message and sees the end of the session. -/
def endsTogether : List Event :=
  bothLoggedIn ++ [.headerCompleted 0 (.ok [0, 2, SequencedDataPacket.packetType]),
    .payloadCompleted 0 (.ok [7]), .headerCompleted 0 (.ok [0, 1, EndOfSessionPacket.packetType]),
    .headerCompleted 1 (.ok [0, 2, SequencedDataPacket.packetType]), .payloadCompleted 1 (.ok [7])]

theorem session_end_is_last_together :
    let inputs := endsTogether.map fun event => (event, Env.plain)
    let c := system.final redundant inputs
    .called true .endOfSession ∈ c.trace ∧ .called true (.sequencedData 1 [7]) ∈ c.trace ∧
      EndsLast c := by
  intro inputs c
  have hidle : Idle redundant := ⟨rfl, rfl, rfl, by simp [redundant]⟩
  exact ⟨by decide +kernel, by decide +kernel, session_end_is_last redundant hidle inputs c
    (System.run_of_admits (by decide +kernel))⟩

/-- The first connection sees the end of the session before the message that
the second still delivers. -/
def endsApart : List Event :=
  bothLoggedIn ++ [.headerCompleted 0 (.ok [0, 1, EndOfSessionPacket.packetType]),
    .headerCompleted 1 (.ok [0, 2, SequencedDataPacket.packetType]), .payloadCompleted 1 (.ok [7])]

theorem data_after_session_end :
    let inputs := endsApart.map fun event => (event, Env.plain)
    let c := system.final redundant inputs
    system.Run redundant inputs c ∧ ¬EndsLast c ∧ c.trace.getLast? =
      some (.called true (.sequencedData 1 [7])) ∧ .called true .endOfSession ∈ c.trace := by
  intro inputs c
  refine ⟨System.run_of_admits (by decide +kernel), ?_, by decide +kernel, by decide +kernel⟩
  unfold EndsLast
  decide +kernel

/-! ## One session for all -/

/-- The session of the login that the connection `i` accepted last. -/
def acceptedSession (i : Nat) (c : Client) : Option Bytes :=
  (c.trace.filterMap (Entry.acceptedBy i)).getLast?

theorem acceptedSession_log {i : Nat} {entry : Entry} (he : entry.acceptedBy i = none)
    (c : Client) : (c.log entry).acceptedSession i = c.acceptedSession i := by
  simp [acceptedSession, Client.log, he]

/-- The connection `i` has the session `session`, and is not logged in to another. -/
def Named (session : Bytes) (i : Nat) (c : Client) : Prop :=
  c.At i fun conn => conn.session = session ∧ ∀ t, conn.connection = some t →
    t.state.state = .loggedIn → c.acceptedSession i = some session

section
variable {session : Bytes} {i : Nat} {c : Client}

theorem Named.same (h : Named session i c) {c' : Client} (hc : c'.connections = c.connections)
    (ha : c'.acceptedSession i = c.acceptedSession i) : Named session i c' := by
  intro conn hconn
  rw [hc] at hconn
  rw [ha]
  exact h conn hconn

theorem Named.log (h : Named session i c) {entry : Entry} (he : entry.acceptedBy i = none) :
    Named session i (c.log entry) :=
  h.same rfl (acceptedSession_log he c)

theorem Named.update (h : Named session i c) {j : Nat} {f : Connection → Connection}
    (hf : j = i → ∀ conn, c.connections[i]? = some conn → conn.session = session →
      (f conn).session = session ∧ ∀ u, (f conn).connection = some u →
        u.state.state = .loggedIn → ∃ t, conn.connection = some t ∧ t.state.state = .loggedIn) :
    Named session i (c.updateConnection j f) := by
  apply At.update h (fun _ hconn => hconn)
  intro hj conn hi hconn
  obtain ⟨hsession, htcp⟩ := hf hj conn hi hconn.1
  refine ⟨hsession, ?_⟩
  intro u hu hs
  obtain ⟨t, ht, hs⟩ := htcp u hu hs
  exact hconn.2 t ht hs

theorem Moves.named {R : Rules} (hne : session ≠ [])
    (hset : ∀ other, R.call (.setSession i other) → other = session) {c c' : Client}
    (hm : Moves R c c') : i < c.connections.length → Named session i c → Named session i c' := by
  induction hm with
  | refl c => exact fun _ h => h
  | trans hm _ ih₁ ih₂ => exact fun hi h => ih₂ (Nat.lt_of_lt_of_le hi hm.known) (ih₁ hi h)
  | @note c entry he =>
    intro _ h
    apply h.log
    cases entry with
    | accepted j response => cases he
    | _ => rfl
  | returned _ _ => exact fun _ h => h.log rfl
  | aside ha => exact fun _ h => h.same ha.connections (by rw [acceptedSession, ha.trace]; rfl)
  | @added c conn _ _ _ _ =>
    intro hi h conn' hconn'
    dsimp only at hconn'
    rw [List.getElem?_append_left hi] at hconn'
    exact h conn' hconn'
  | next n => exact fun _ h => h.same rfl rfl
  | connection hf =>
    intro _ h
    apply h.update
    rintro rfl conn hconn hsession
    exact ⟨(hf conn hconn).keepsSession hset hsession, fun u hu hs => (hf conn hconn).loggedIn hu hs⟩
  | @login c j conn t response hconn ht hs hsession =>
    intro _ h
    by_cases hj : j = i
    · subst hj
      have hnamed := (h conn hconn).1
      have hresponse : response.session = session := by
        rcases hsession with hblank | hsame
        · rw [hnamed] at hblank
          exact absurd hblank hne
        · exact hsame.trans hnamed
      intro conn' hconn'
      have haccepted : (c.takeLogin j response).acceptedSession j = some session := by
        simp [acceptedSession, takeLogin, acceptLogin, Client.log, Entry.acceptedBy, hresponse]
      refine ⟨?_, fun _ _ _ => haccepted⟩
      simp only [takeLogin, acceptLogin, Client.log] at hconn'
      rw [getElem?_updateConnection, if_pos rfl] at hconn'
      obtain ⟨_, _, rfl⟩ := Option.map_eq_some_iff.mp hconn'
      exact hresponse
    · have hupdated : Named session i ((c.updateTcp j fun t =>
          (t.updateLoginTimer LoginTimer.stop).setState .loggedIn).updateConnection j
            (·.accept response)) :=
        (h.update fun hji => absurd hji hj).update fun hji => absurd hji hj
      exact hupdated.log (by simp [Entry.acceptedBy, hj])
  | @deliver c n data _ _ =>
    intro _ h
    have hcounted : Named session i (c.setNextSequenceNumber ((n + 1) % 2 ^ 64)) := h.same rfl rfl
    exact hcounted.log rfl
  | @endSession c _ =>
    intro _ h
    have hended : Named session i { c with hasSessionEnded := true } := h.same rfl rfl
    exact hended.log rfl
  | @opened c c' j t _ _ _ _ _ _ hm ht ih =>
    intro hi h
    have hvacated : Named session i (c.updateConnection j (·.setConnection none)) := by
      apply h.update
      rintro - conn - hsession
      exact ⟨hsession, fun u hu => by cases hu⟩
    have hvacant : Named session i (c.vacate j) := hvacated.log rfl
    have hknown : i < (c.vacate j).connections.length := by
      simpa [vacate, updateConnection, Client.log] using hi
    apply (ih hknown hvacant).update
    rintro - conn - hsession
    refine ⟨hsession, ?_⟩
    intro u hu hs
    cases hu
    rcases ht.state with ⟨hstate, -⟩ | ⟨hstate, -⟩ <;> rw [hstate] at hs <;> cases hs

/-- The user gives the connection `i` no other session. -/
def NamesOnly (session : Bytes) (i : Nat) (input : Event × Env) : Prop :=
  ∀ other, input.1 = .call (.setSession i other) ∨
    (∃ cb, .setSession i other ∈ input.2.calls cb) → other = session

/-- The update does not log the connection in, and leaves its session alone. -/
theorem Named.quiet (h : Named session i c) {j : Nat} {f : Connection → Connection}
    (hsession : ∀ conn, (f conn).session = conn.session)
    (htcp : ∀ conn, (f conn).connection = conn.connection ∨ ∀ u, (f conn).connection = some u →
      u.state.state ≠ .loggedIn) : Named session i (c.updateConnection j f) := by
  apply h.update
  intro _ conn _ hconn
  refine ⟨(hsession conn).trans hconn, ?_⟩
  intro u hu hs
  rcases htcp conn with hsame | hne
  · exact ⟨u, hsame ▸ hu, hs⟩
  · exact absurd hs (hne u hu)

theorem kept_named (hne : session ≠ []) :
    Kept (fun R => ∀ other, R.call (.setSession i other) → other = session)
      fun c => i < c.connections.length ∧ Named session i c where
  moves hset hm h := ⟨Nat.lt_of_lt_of_le h.1 hm.known, hm.named hne hset h.1 h.2⟩
  freed j handlerSet reason c h := by
    have hemptied : Named session i (c.updateConnection j (·.setConnection none)) :=
      h.2.quiet (fun _ => rfl) fun _ => Or.inr fun u hu => by cases hu
    have hfreed : Named session i (c.freed j) := hemptied.log rfl
    exact ⟨by simpa [freed, updateConnection, Client.log] using h.1, hfreed.log rfl⟩
  delayed j c h := ⟨by simpa [updateConnection] using h.1,
    h.2.quiet (fun _ => rfl) fun _ => Or.inl rfl⟩
  timer j f c h := ⟨by simpa [updateConnection] using h.1,
    h.2.quiet (fun _ => rfl) fun _ => Or.inl rfl⟩
  reopened {R j t c c'} hset hm ht h := by
    have hemptied : Named session i (c.updateConnection j (·.setConnection none)) :=
      h.2.quiet (fun _ => rfl) fun _ => Or.inr fun u hu => by cases hu
    have hvacant : Named session i (c.vacate j) := hemptied.log rfl
    have hlt : i < (c.vacate j).connections.length := by
      simpa [vacate, updateConnection, Client.log] using h.1
    have hopened := hm.named hne hset hlt hvacant
    refine ⟨by simpa [install, updateConnection] using Nat.lt_of_lt_of_le hlt hm.known, ?_⟩
    exact hopened.quiet (fun _ => rfl) fun _ => Or.inr fun u hu => by cases hu; exact ht.not_loggedIn
  flagged _ _ _ h := ⟨h.1, h.2.same rfl rfl⟩

theorem named_handle (hne : session ≠ []) {input : Event × Env}
    (hready : c.ready input.1 = true) (hnames : NamesOnly session i input)
    (h : i < c.connections.length ∧ Named session i c) :
    i < (c.handle input.2 input.1).connections.length ∧
      Named session i (c.handle input.2 input.1) := by
  have hcalls (other : Bytes) (cb : Callback)
      (hmakes : input.2.Makes input.2.depth cb (.setSession i other)) : other = session :=
    hnames other (Or.inr hmakes.called)
  apply (course_handle input.2 hready).keeps (kept_named hne) _ _ h
  · constructor
    · rintro other (hcall | ⟨cb, hmakes⟩)
      · exact hnames other (Or.inl hcall)
      · exact hcalls other cb hmakes
    · rintro other ⟨cb, hmakes⟩
      exact hcalls other cb hmakes
    · exact fun cb other hmakes => hcalls other cb hmakes
    · rintro other (⟨_, hcall⟩ | ⟨cb, hmakes⟩)
      · cases hcall
      · exact hcalls other cb hmakes
    · rintro other (⟨_, hcall⟩ | ⟨cb, hmakes⟩)
      · cases hcall
      · exact hcalls other cb hmakes
  · intro j c' _ _ h
    refine ⟨by simpa [updateTcp, updateConnection] using h.1, h.2.quiet (fun _ => rfl) ?_⟩
    refine fun conn => Or.inr fun u hu => ?_
    obtain ⟨t, _, rfl⟩ := Option.map_eq_some_iff.mp hu
    simp [TcpConnection.setState, ConnectionState.setState]

/-- The connection `i` has been configured with `session` before it logged in,
and has been given no other since. -/
def ConfiguredWith (session : Bytes) (i : Nat) (c₀ : Client) (inputs : List (Event × Env))
    (c : Client) : Prop :=
  ∃ before after c₁ conn, inputs = before ++ after ∧ system.Run c₀ before c₁ ∧
    system.Run c₁ after c ∧ c₁.connections[i]? = some conn ∧ conn.session = session ∧
    (c₁.tcpState i).state ≠ .loggedIn ∧ ∀ input ∈ after, NamesOnly session i input

theorem ConfiguredWith.named (hne : session ≠ []) {c₀ : Client} {inputs : List (Event × Env)}
    (h : ConfiguredWith session i c₀ inputs c) : Named session i c := by
  obtain ⟨before, after, c₁, conn, -, -, hrun, hconn, hsession, hs, hnames⟩ := h
  have hrestricted := hrun.restrict (G := fun input _ => NamesOnly session i input)
    fun input hi _ => hnames input hi
  have hkept : i < c.connections.length ∧ Named session i c := by
    apply hrestricted.keeps (I := fun c => i < c.connections.length ∧ Named session i c)
    · intro input c hi h
      exact named_handle hne hi.1 hi.2 h
    · refine ⟨(List.getElem?_eq_some_iff.mp hconn).1, ?_⟩
      intro conn' hconn'
      rw [hconn] at hconn'
      cases hconn'
      refine ⟨hsession, ?_⟩
      intro t ht hlogged
      exact absurd hlogged (by simpa [tcpState, tcp?, hconn, ht] using hs)
  exact hkept.2

theorem Named.accepted (h : Named session i c) (hs : (c.tcpState i).state = .loggedIn) :
    c.acceptedSession i = some session := by
  obtain ⟨conn, t, hconn, ht, hs⟩ := tcp_of_state hs (by decide)
  exact (h conn hconn).2 t ht hs

/-- **One session for all that are configured with it.** Two connections that
have been configured with the same named session before they logged in are
accepted into that session, whatever the servers answer. -/
theorem logged_in_to_one_session (c₀ : Client) (inputs : List (Event × Env)) (c : Client)
    (session : Bytes) (hne : session ≠ []) (i j : Nat)
    (hi : ConfiguredWith session i c₀ inputs c) (hj : ConfiguredWith session j c₀ inputs c)
    (hs : (c.tcpState i).state = .loggedIn ∧ (c.tcpState j).state = .loggedIn) :
    c.acceptedSession i = some session ∧ c.acceptedSession j = some session :=
  ⟨(hi.named hne).accepted hs.1, (hj.named hne).accepted hs.2⟩

end

/-- Both connections are configured with the session `S`. -/
def namesFirst : List Event :=
  [.call (.setSession 0 [83]), .call (.setSession 1 [83])]

theorem logged_in_to_one_session_named :
    let before := namesFirst.map fun event => (event, Env.plain)
    let after := bothLoggedIn.map fun event => (event, Env.plain)
    let c := system.final (system.final redundant before) after
    ((c.tcpState 0).state = .loggedIn ∧ (c.tcpState 1).state = .loggedIn) ∧
      c.acceptedSession 0 = some [83] ∧ c.acceptedSession 1 = some [83] := by
  intro before after c
  have hnames (i : Nat) : ∀ input ∈ after, NamesOnly [83] i input := by
    intro input hinput other hother
    obtain ⟨event, hevent, rfl⟩ := List.mem_map.mp hinput
    rcases hother with hcall | ⟨cb, hmem⟩
    · simp only at hcall
      subst hcall
      simp [bothLoggedIn] at hevent
    · simp [Env.plain] at hmem
  have hconfigured (i : Nat) (conn : Connection)
      (hconn : (system.final redundant before).connections[i]? = some conn)
      (hsession : conn.session = [83])
      (hs : ((system.final redundant before).tcpState i).state ≠ .loggedIn) :
      ConfiguredWith [83] i redundant (before ++ after) c :=
    ⟨before, after, _, conn, rfl, System.run_of_admits (by decide +kernel),
      System.run_of_admits (by decide +kernel), hconn, hsession, hs, hnames i⟩
  have hfirst := hconfigured 0 { endpoint := 1, session := [83] } (by decide +kernel) rfl
    (by decide +kernel)
  have hsecond := hconfigured 1 { endpoint := 2, session := [83] } (by decide +kernel) rfl
    (by decide +kernel)
  have hlogged : (c.tcpState 0).state = .loggedIn ∧ (c.tcpState 1).state = .loggedIn := by
    decide +kernel
  exact ⟨hlogged, logged_in_to_one_session redundant (before ++ after) c [83] (by decide) 0 1
    hfirst hsecond hlogged⟩

/-- Two servers accept the connections into the sessions `A` and `B`, and send
one and two messages. -/
def twoSessions : List Event :=
  [.call .start, .posted 0, .connectCompleted 0 none, .connectCompleted 1 none,
    .headerCompleted 0 (.ok [0, 31, LoginAcceptedPacket.packetType]),
    .payloadCompleted 0 (.ok (LoginAcceptedPacket.write ⟨[65], 1⟩)),
    .headerCompleted 1 (.ok [0, 31, LoginAcceptedPacket.packetType]),
    .payloadCompleted 1 (.ok (LoginAcceptedPacket.write ⟨[66], 1⟩)),
    .headerCompleted 0 (.ok [0, 2, SequencedDataPacket.packetType]),
    .payloadCompleted 0 (.ok [7]),
    .headerCompleted 1 (.ok [0, 2, SequencedDataPacket.packetType]),
    .payloadCompleted 1 (.ok [8]),
    .headerCompleted 1 (.ok [0, 2, SequencedDataPacket.packetType]),
    .payloadCompleted 1 (.ok [9])]

/-- Connections with a blank session are not compared with each other. -/
theorem logged_in_to_two_sessions :
    let inputs := twoSessions.map fun event => (event, Env.plain)
    let c := system.final redundant inputs
    system.Run redundant inputs c ∧ (c.tcpState 0).state = .loggedIn ∧
      (c.tcpState 1).state = .loggedIn ∧ c.acceptedSession 0 = some [65] ∧
      c.acceptedSession 1 = some [66] ∧
      c.trace.filter Entry.delivers =
        [.called true (.sequencedData 1 [7]), .called true (.sequencedData 2 [9])] := by
  intro inputs c
  exact ⟨System.run_of_admits (by decide +kernel), by decide +kernel, by decide +kernel,
    by decide +kernel, by decide +kernel, by decide +kernel⟩

end Client
end SoupBin.ClientSide
