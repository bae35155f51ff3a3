import SoupBin.ClientUsers

/-!
# The handlers of a client

`Client::start` looks at the handlers once. From then on every connection that is
at work has one, provided that no step connects one that has none.
-/

namespace SoupBin.ClientSide
namespace Client

/-! ## Before the start -/

/-- Nothing is under way, and no start is posted. -/
structure Dormant (c : Client) : Prop where
  stopped : c.started = false
  posted : Posted.start ∉ c.posted
  tcp : ∀ i, c.tcp? i = none
  reconnecting : ∀ (i : Nat) (conn : Connection), c.connections[i]? = some conn → conn.reconnectTimer.started = false
  trace : ∀ handlerSet cb, Entry.called handlerSet cb ∈ c.trace → handlerSet = true

/-! ## After it -/

/-- Every handler that may be called is set, those of the connections in `named`
and of the ones that `may` be connected included. -/
structure Manned (live : Prop) (may : Nat → Prop) (known : Nat) (named : Nat → Prop)
    (c : Client) : Prop where
  handler : c.handlerSet = true
  trace : ∀ handlerSet cb, Entry.called handlerSet cb ∈ c.trace → handlerSet = true
  tcp : ∀ i t, c.tcp? i = some t → t.handlerSet = true
  working : ∀ (i : Nat) (conn : Connection), c.connections[i]? = some conn →
    conn.connection ≠ none ∨ conn.reconnectTimer.started = true → conn.handlerSet = true
  connectable : ∀ (i : Nat) (conn : Connection), may i → c.connections[i]? = some conn → conn.handlerSet = true
  known : known ≤ c.connections.length
  started : c.started = true → live
  named : ∀ i, named i → ∃ conn : Connection, c.connections[i]? = some conn ∧ conn.handlerSet = true

/-- What is so between events. -/
def Armed (c : Client) : Prop := Manned True (fun _ => False) 0 (fun _ => False) c

section
variable {live : Prop} {may named : Nat → Prop} {known : Nat} {c : Client}

theorem Manned.armed (h : Manned live may known named c) : c.Armed :=
  ⟨h.handler, h.trace, h.tcp, h.working, fun _ _ hno => hno.elim, Nat.zero_le _, fun _ => trivial,
    fun _ hno => hno.elim⟩

theorem Manned.log (h : Manned live may known named c) {entry : Entry}
    (he : ∀ handlerSet cb, entry = .called handlerSet cb → handlerSet = true) :
    Manned live may known named (c.log entry) where
  handler := h.handler
  trace handlerSet cb hmem := by
    rcases List.mem_append.mp hmem with hmem | hmem
    · exact h.trace handlerSet cb hmem
    · exact he handlerSet cb (List.mem_singleton.mp hmem).symm
  tcp := h.tcp
  working := h.working
  connectable := h.connectable
  known := h.known
  started := h.started
  named := h.named

theorem Manned.aside (h : Manned live may known named c) {c' : Client}
    (hh : c'.handlerSet = true) (hc : c'.connections = c.connections) (ht : c'.trace = c.trace)
    (hs : c'.started = true → live) : Manned live may known named c' := by
  have htcp (i : Nat) : c'.tcp? i = c.tcp? i := by rw [tcp?, tcp?, hc]
  refine ⟨hh, ht ▸ h.trace, ?_, hc ▸ h.working, hc ▸ h.connectable, hc ▸ h.known, hs, hc ▸ h.named⟩
  intro i t hi
  exact h.tcp i t (htcp i ▸ hi)

/-- A connection changes: its handler stays set, and what is at work has one. -/
theorem Manned.modify (h : Manned live may known named c) {i : Nat} {f : Connection → Connection}
    (hset : ∀ conn, c.connections[i]? = some conn → conn.handlerSet = true →
      (f conn).handlerSet = true)
    (htcp : ∀ conn, c.connections[i]? = some conn → ∀ t', (f conn).connection = some t' →
      t'.handlerSet = true)
    (hworking : ∀ conn, c.connections[i]? = some conn →
      (f conn).connection ≠ none ∨ (f conn).reconnectTimer.started = true →
        conn.handlerSet = true) :
    Manned live may known named (c.updateConnection i f) where
  handler := h.handler
  trace := h.trace
  tcp j t ht := by
    rw [tcp?, getElem?_updateConnection] at ht
    split at ht
    · rename_i hij
      subst hij
      obtain ⟨conn', hconn', ht⟩ := Option.bind_eq_some_iff.mp ht
      obtain ⟨conn, hconn, rfl⟩ := Option.map_eq_some_iff.mp hconn'
      exact htcp conn hconn t ht
    · exact h.tcp j t ht
  working j conn' hconn' hw := by
    rw [getElem?_updateConnection] at hconn'
    split at hconn'
    · rename_i hij
      subst hij
      obtain ⟨conn, hconn, rfl⟩ := Option.map_eq_some_iff.mp hconn'
      exact hset conn hconn (hworking conn hconn hw)
    · exact h.working j conn' hconn' hw
  connectable j conn' hj hconn' := by
    rw [getElem?_updateConnection] at hconn'
    split at hconn'
    · rename_i hij
      subst hij
      obtain ⟨conn, hconn, rfl⟩ := Option.map_eq_some_iff.mp hconn'
      exact hset conn hconn (h.connectable i conn hj hconn)
    · exact h.connectable j conn' hj hconn'
  known := by
    have hlength : (c.updateConnection i f).connections.length = c.connections.length :=
      List.length_modify _ _ _
    rw [hlength]
    exact h.known
  started := h.started
  named j hj := by
    obtain ⟨conn, hconn, hconnset⟩ := h.named j hj
    rw [getElem?_updateConnection]
    split
    · rename_i hij
      subst hij
      exact ⟨f conn, by rw [hconn]; rfl, hset conn hconn hconnset⟩
    · exact ⟨conn, hconn, hconnset⟩

/-- The `Tcp_connection` of a connection that has one. -/
theorem Manned.slot (h : Manned live may known named c) {i : Nat} {conn : Connection}
    {t : TcpConnection} (hconn : c.connections[i]? = some conn) (ht : conn.connection = some t) :
    t.handlerSet = true := by
  apply h.tcp i
  rw [tcp?, hconn]
  exact ht

theorem sustains_manned {i : Nat} (named : Nat → Prop) (hi : named i) :
    Sustains (· = true) i (Manned live may known named) where
  handler h := h.handler
  owner h hconn := by
    obtain ⟨conn, hconn', hset⟩ := h.named i hi
    rw [hconn] at hconn'
    cases hconn'
    exact hset
  tcp h ht := h.tcp i _ ht
  called hok h := by
    apply h.log
    rintro handlerSet cb ⟨⟩
    exact hok
  log he h := by
    apply h.log
    rintro handlerSet cb rfl
    cases he
  connection {c f} hf h := by
    obtain ⟨owner, howner, hset⟩ := h.named i hi
    refine h.modify (fun conn hconn => (hf conn hconn).handlerSet) ?_ ?_
    · intro conn hconn t' ht'
      rcases (hf conn hconn).tcp t' ht' with hok | ⟨t, ht, heq⟩
      · exact hok
      · exact heq.trans (h.slot hconn ht)
    · intro conn hconn _
      rw [howner] at hconn
      cases hconn
      exact hset
  next _ h := h.aside h.handler rfl rfl h.started
  ended {c conn} _ h := by
    have hmarked : Manned live may known named (c.updateConnection i Connection.setSessionEnded) :=
      h.modify (fun _ _ => id) (fun _ hconn _ ht => h.slot hconn ht) fun _ hconn hw =>
        h.working i _ hconn hw
    exact hmarked.aside hmarked.handler rfl rfl hmarked.started

/-- The calls of the user, who adds no connection without a handler that may be
connected at once. -/
theorem tolerates_manned (calls : Call → Prop)
    (hcalls : ∀ i endpoint, may i → known ≤ i → ¬calls (.addConnection endpoint false)) :
    Tolerates calls (Manned live may known named) where
  connection {c i f} hf h := by
    refine h.modify (fun conn _ => (hf conn).handlerSet) ?_ ?_
    · intro conn hconn t' ht'
      rcases (hf conn).tcp t' ht' with hno | ⟨t, ht, heq⟩
      · exact hno.elim
      · exact heq.trans (h.slot hconn ht)
    · intro conn hconn hw
      apply h.working i conn hconn
      rcases hw with hw | hw
      · obtain ⟨t', ht'⟩ := Option.ne_none_iff_exists'.mp hw
        rcases (hf conn).tcp t' ht' with hno | ⟨t, ht, -⟩
        · exact hno.elim
        · exact Or.inl (by simp [ht])
      · exact Or.inr ((hf conn).reconnecting hw)
  closed h := h.log nofun
  added {c endpoint handlerSet} hcall h := by
    have hadded {P : Connection → Prop} {j : Nat} {conn : Connection}
        (hold : ∀ conn, c.connections[j]? = some conn → P conn)
        (hnew : j = c.connections.length → P { endpoint := endpoint, handlerSet := handlerSet })
        (hconn : (c.connections ++
          [({ endpoint := endpoint, handlerSet := handlerSet } : Connection)])[j]? = some conn) :
        P conn := by
      rw [List.getElem?_append] at hconn
      split at hconn
      · exact hold conn hconn
      · have hj := (List.getElem?_eq_some_iff.mp hconn).1
        rw [List.length_singleton] at hj
        have hmem := List.mem_of_getElem? hconn
        rw [List.mem_singleton] at hmem
        rw [hmem]
        exact hnew (by omega)
    refine ⟨h.handler, h.trace, ?_, ?_, ?_, ?_, h.started, ?_⟩
    · intro j t ht
      obtain ⟨conn, hconn, hslot⟩ := Option.bind_eq_some_iff.mp ht
      refine hadded (P := fun conn => conn.connection = some t → t.handlerSet = true)
        (fun conn hconn ht => h.slot hconn ht) (fun _ => nofun) hconn hslot
    · intro j conn hconn
      refine hadded (P := fun conn => conn.connection ≠ none ∨ conn.reconnectTimer.started = true →
        conn.handlerSet = true) (fun conn hconn => h.working j conn hconn) ?_ hconn
      rintro - (hno | hno)
      · exact absurd rfl hno
      · cases hno
    · intro j conn hj hconn
      refine hadded (P := fun conn => conn.handlerSet = true)
        (fun conn hconn => h.connectable j conn hj hconn) ?_ hconn
      rintro rfl
      cases handlerSet with
      | true => rfl
      | false => exact absurd hcall (hcalls _ _ hj h.known)
    · dsimp only
      rw [List.length_append]
      have := h.known
      omega
    · intro j hj
      obtain ⟨conn, hconn, hset⟩ := h.named j hj
      exact ⟨conn, List.getElem?_append_left (List.getElem?_eq_some_iff.mp hconn).1 ▸ hconn, hset⟩
  started _ _ h := h.aside h.handler rfl rfl h.started
  stopped h := h.aside h.handler rfl rfl h.started
  handled h := h.aside rfl rfl rfl h.started
  limited h := h.aside h.handler rfl rfl h.started

theorem connect_stopped (user : User) (faults : Faults) {i : Nat} {conn : Connection}
    (hconn : c.connections[i]? = some conn) (hstopped : c.started = false) :
    c.connect user faults i = c.log (.connectCalled i) := by
  simp [connect, hconn, Client.log, hstopped]

/-- `connect`, where what `may` be connected has a handler. -/
theorem same_connect_manned {u v : User}
    (huv : ∀ named cb {c d}, Same (Manned live may known named) c d →
      Same (Manned live may known named) (u cb c) (v cb d))
    (faults : Faults) {i : Nat} (hmay : live → may i) {d : Client}
    (h : Same (Manned live may known named) c d) :
    Same (Manned live may known named) (c.connect u faults i) (d.connect v faults i) := by
  obtain ⟨rfl, hp⟩ := h
  cases hconn : d.connections[i]? with
  | none =>
    simp only [connect, hconn]
    exact .refl hp
  | some conn =>
    cases hstarted : d.started with
    | false =>
      rw [connect_stopped u faults hconn hstarted, connect_stopped v faults hconn hstarted]
      exact .refl (hp.log nofun)
    | true =>
      have hset := hp.connectable i conn (hmay (hp.started hstarted)) hconn
      have hnamed : Manned live may known (fun j => named j ∨ j = i) d := by
        refine ⟨hp.handler, hp.trace, hp.tcp, hp.working, hp.connectable, hp.known, hp.started, ?_⟩
        rintro j (hj | rfl)
        · exact hp.named j hj
        · exact ⟨conn, hconn, hset⟩
      have hconnected := same_connect (sustains_manned _ (Or.inr rfl)) (huv _) faults (.refl hnamed)
      refine hconnected.mono fun c hc => ?_
      exact ⟨hc.handler, hc.trace, hc.tcp, hc.working, hc.connectable, hc.known, hc.started,
        fun j hj => hc.named j (Or.inl hj)⟩

theorem same_reaction_manned (env : Env)
    (hconnects : ∀ i cb, .connect i ∈ env.calls cb → live → may i)
    (hadds : ∀ i endpoint cb, may i → known ≤ i → .addConnection endpoint false ∉ env.calls cb)
    (depth : Nat) (named : Nat → Prop) (cb : Callback) {c d : Client}
    (h : Same (Manned live may known named) c d) :
    Same (Manned live may known named) (env.reaction depth cb c) (env.reaction depth cb d) := by
  induction depth generalizing named cb c d with
  | zero => exact h
  | succ depth ih =>
    apply same_foldl _ _ h
    intro call hcall c d h
    refine same_call (tolerates_manned (· ∈ env.calls cb) fun i endpoint hi hknown =>
      hadds i endpoint cb hi hknown) ?_ hcall h
    intro i hi c d h
    exact same_connect_manned ih (env.faults i) (hconnects i cb hi) h

end

/-! ## One event -/

/-- A posted `start` runs, and takes effect. -/
def starts (event : Event) (c : Client) : Prop :=
  c.started = false ∧ ∃ k, event = .posted k ∧ c.posted[k]? = some .start

/-- The event connects the connection `i`, or the user may from inside a callback. -/
def MayConnect (input : Event × Env) (c : Client) (i : Nat) : Prop :=
  starts input.1 c ∨ c.started = true ∧
    (input.1 = .call (.connect i) ∨ ∃ cb, .connect i ∈ input.2.calls cb)

/-- What may be connected has a handler, or is added with one before. -/
def ConnectsManned (input : Event × Env) (c : Client) : Prop :=
  ∀ i, MayConnect input c i →
    (∀ conn, c.connections[i]? = some conn → conn.handlerSet = true) ∧
      (c.connections.length ≤ i → ∀ cb endpoint, .addConnection endpoint false ∉ input.2.calls cb)

section
variable {c : Client} {event : Event} {env : Env}

/-- What is known at the beginning of an event. -/
theorem Armed.manned (h : c.Armed) (hmanned : ConnectsManned (event, env) c) (named : Nat → Prop)
    (hnamed : ∀ i, named i → ∃ conn, c.connections[i]? = some conn ∧ conn.handlerSet = true) :
    Manned (starts event c ∨ c.started = true) (MayConnect (event, env) c) c.connections.length
      named c :=
  ⟨h.handler, h.trace, h.tcp, h.working, fun i conn hi => (hmanned i hi).1 conn, Nat.le_refl _,
    Or.inr, hnamed⟩

/-- The user, in the course of the event. -/
theorem same_user_manned (hmanned : ConnectsManned (event, env) c) (named : Nat → Prop)
    (cb : Callback) {c₁ c₂ : Client}
    (h : Same (Manned (starts event c ∨ c.started = true) (MayConnect (event, env) c)
      c.connections.length named) c₁ c₂) :
    Same (Manned (starts event c ∨ c.started = true) (MayConnect (event, env) c)
      c.connections.length named) (env.user cb c₁) (env.user cb c₂) := by
  apply same_reaction_manned env _ _ env.depth named cb h
  · rintro i cb hcall (hstarts | hstarted)
    · exact Or.inl hstarts
    · exact Or.inr ⟨hstarted, Or.inr ⟨cb, hcall⟩⟩
  · intro i endpoint cb hi hknown
    exact (hmanned i hi).2 hknown cb endpoint

theorem Armed.completed (h : c.Armed) (hmanned : ConnectsManned (event, env) c) {i : Nat}
    (hi : event.of = some i)
    (hset : ∃ conn, c.connections[i]? = some conn ∧ conn.handlerSet = true) :
    (c.handle env event).Armed := by
  have hp := h.manned hmanned (· = i) (by rintro j rfl; exact hset)
  rw [handle_eq]
  exact (same_completed (same_user_manned hmanned _) (sustains_manned (· = i) rfl) hi
    (.refl hp)).2.armed

theorem Armed.call (h : c.Armed) (call : Call)
    (hmanned : ConnectsManned (.call call, env) c) : (c.handle env (.call call)).Armed := by
  by_cases hconnect : ∃ i, call = .connect i
  · obtain ⟨i, rfl⟩ := hconnect
    have hp := h.manned hmanned (fun _ => False) fun _ => False.elim
    refine (same_connect_manned (same_user_manned hmanned) (env.faults i) ?_ (.refl hp)).2.armed
    rintro (hstarts | hstarted)
    · exact Or.inl hstarts
    · exact Or.inr ⟨hstarted, Or.inl rfl⟩
  · have hconnect : ∀ i, call ≠ .connect i := fun i hi => hconnect ⟨i, hi⟩
    exact (tolerates_manned (fun _ => True) fun _ _ hno _ => hno.elim).run env.user
      env.faults trivial hconnect h

theorem Armed.posted (h : c.Armed) (k : Nat) (hmanned : ConnectsManned (.posted k, env) c) :
    (c.handle env (.posted k)).Armed := by
  unfold handle
  dsimp only
  cases hposted : c.posted[k]? with
  | none => exact h
  | some posted =>
    have herased : ({ c with posted := c.posted.eraseIdx k } : Client).Armed :=
      h.aside h.handler rfl rfl h.started
    cases posted with
    | stop =>
      refine (same_runPosted (u := env.user) (v := env.user)
        (tolerates_manned (fun _ => False) fun _ _ hno _ => hno.elim)
        (fun started h => ?_) (fun hno => by cases hno) _ (.refl herased)).2
      exact h.aside h.handler rfl rfl fun _ => trivial
    | start =>
      cases hstarted : c.started with
      | true =>
        simp only [runPosted, if_pos]
        rw [← hstarted]
        exact herased
      | false =>
        have hstarts : starts (.posted k) c := ⟨hstarted, k, rfl, hposted⟩
        have hbefore := h.manned hmanned (fun _ => False) fun _ => False.elim
        have hp : Manned _ _ _ _ { c with posted := c.posted.eraseIdx k } :=
          hbefore.aside h.handler rfl rfl fun _ => Or.inl hstarts
        rw [← hstarted]
        refine (same_runPosted (u := env.user) (v := env.user)
          (tolerates_manned (fun _ => False) fun _ _ _ _ => id)
          (fun started h => ?_) ?_ _ (.refl hp)).2.armed
        · exact h.aside h.handler rfl rfl fun _ => Or.inl hstarts
        · intro _ i c₁ c₂ h
          exact same_connect_manned (same_user_manned hmanned) (env.faults i)
            (fun _ => Or.inl hstarts) h

/-- A wait completes after the timer has been stopped. -/
theorem wait_stale (user : User) (faults : Faults) {i : Nat}
    (hidle : ∀ conn, c.connections[i]? = some conn → conn.reconnectTimer.started = false)
    (epoch : Nat) (ec : Option IoError) :
    (reconnectTimerHandler user faults i).waitCompleted epoch ec c =
      c.updateConnection i (·.updateReconnectTimer (ReconnectTimer.waitDone epoch)) := by
  have hstopped : ((reconnectTimerHandler user faults i).timer
      ((reconnectTimerHandler user faults i).update (ReconnectTimer.waitDone epoch) c)).started =
        false := by
    simp only [reconnectTimerHandler, getElem?_updateConnection]
    cases hconn : c.connections[i]? with
    | none => rfl
    | some conn => exact hidle conn hconn
  simp only [ReconnectTimer.Handler.waitCompleted, ReconnectTimer.Handler.onExpiry, hstopped]
  split <;> rfl

/-- A connection that has no handler is not at work. -/
theorem Armed.waited (h : c.Armed) {i : Nat}
    (hidle : ∀ conn, c.connections[i]? = some conn →
      conn.connection = none ∧ conn.reconnectTimer.started = false)
    (hready : c.ready event = true) (hof : event.of = some i) : (c.handle env event).Armed := by
  have hnone : c.tcp? i = none := by
    cases hconn : c.connections[i]? with
    | none => simp [tcp?, hconn]
    | some conn => simp [tcp?, hconn, (hidle conn hconn).1]
  cases event <;> cases hof
  case reconnectTimerWait epoch ec =>
    simp only [handle, wait_stale _ _ fun conn hconn => (hidle conn hconn).2]
    refine h.modify (fun _ _ => id) ?_ ?_
    · intro conn hconn t' ht'
      exact h.slot hconn ht'
    · intro conn hconn hw
      exact h.working i conn hconn hw
  all_goals simp [ready, hnone] at hready

theorem Armed.step (h : c.Armed) (hready : c.ready event = true)
    (hmanned : ConnectsManned (event, env) c) : (c.handle env event).Armed := by
  cases hof : event.of with
  | none =>
    cases event <;> cases hof
    case none.call call => exact h.call call hmanned
    case none.posted k => exact h.posted k hmanned
  | some i =>
    by_cases hworking : ∃ conn, c.connections[i]? = some conn ∧
        (conn.connection ≠ none ∨ conn.reconnectTimer.started = true)
    · obtain ⟨conn, hconn, hw⟩ := hworking
      exact h.completed hmanned hof ⟨conn, hconn, h.working i conn hconn hw⟩
    · apply h.waited ?_ hready hof
      intro conn hconn
      constructor
      · by_contra hne
        exact hworking ⟨conn, hconn, Or.inl hne⟩
      · by_contra hne
        exact hworking ⟨conn, hconn, Or.inr (by simpa using hne)⟩

/-! ### Before the start -/

theorem Dormant.modify (h : c.Dormant) {i : Nat} {f : Connection → Connection}
    (htcp : ∀ conn, conn.connection = none → (f conn).connection = none)
    (hreconnecting : ∀ conn, conn.reconnectTimer.started = false →
      (f conn).reconnectTimer.started = false) : (c.updateConnection i f).Dormant where
  stopped := h.stopped
  posted := h.posted
  tcp j := by
    have hj := h.tcp j
    rw [tcp?] at hj ⊢
    rw [getElem?_updateConnection]
    split
    · cases hconn : c.connections[j]? with
      | none => rfl
      | some conn =>
        rw [hconn] at hj
        exact htcp conn hj
    · exact hj
  reconnecting j conn' hconn' := by
    rw [getElem?_updateConnection] at hconn'
    split at hconn'
    · obtain ⟨conn, hconn, rfl⟩ := Option.map_eq_some_iff.mp hconn'
      exact hreconnecting conn (h.reconnecting j conn hconn)
    · exact h.reconnecting j conn' hconn'
  trace := h.trace

theorem Dormant.log (h : c.Dormant) {entry : Entry} (he : Entry.isCall entry = false) :
    (c.log entry).Dormant where
  stopped := h.stopped
  posted := h.posted
  tcp := h.tcp
  reconnecting := h.reconnecting
  trace handlerSet cb hmem := by
    rcases List.mem_append.mp hmem with hmem | hmem
    · exact h.trace handlerSet cb hmem
    · rw [← List.mem_singleton.mp hmem] at he
      cases he

/-- A `start` that succeeds finds every handler set. -/
theorem Dormant.armed (h : c.Dormant) (hhandler : c.handlerSet = true)
    (hall : ∀ conn ∈ c.connections, conn.handlerSet = true) :
    ({ c with posted := c.posted ++ [.start] } : Client).Armed where
  handler := hhandler
  trace := h.trace
  tcp i t ht := by
    have hi : c.tcp? i = none := h.tcp i
    exact absurd ht (by rw [show ({ c with posted := c.posted ++ [.start] } : Client).tcp? i =
      c.tcp? i from rfl, hi]; exact nofun)
  working i conn hconn _ := hall conn (List.mem_of_getElem? hconn)
  connectable _ _ hno := hno.elim
  known := Nat.zero_le _
  started _ := trivial
  named _ hno := hno.elim

/-- The calls of the user, before and after the start. -/
theorem tolerates_guarded : Tolerates (fun _ => True) fun c => c.Dormant ∨ c.Armed := by
  have k : Tolerates (fun _ => True) Armed := tolerates_manned _ fun _ _ hno _ => hno.elim
  constructor
  case connection =>
    rintro c i f hf (h | h)
    · refine Or.inl (h.modify (fun conn hnone => ?_) fun conn hs => ?_)
      · by_contra hne
        obtain ⟨t', ht'⟩ := Option.ne_none_iff_exists'.mp hne
        rcases (hf conn).tcp t' ht' with hno | ⟨t, ht, -⟩
        · exact hno
        · simp [hnone] at ht
      · by_contra hne
        have := (hf conn).reconnecting (by simpa using hne)
        simp [hs] at this
    · exact Or.inr (k.connection hf h)
  case closed =>
    rintro c i reason (h | h)
    · exact Or.inl (h.log rfl)
    · exact Or.inr (k.closed h)
  case added =>
    rintro c endpoint handlerSet - (h | h)
    · left
      have hnew {j : Nat} {conn : Connection} (hconn : (c.connections ++
          [({ endpoint := endpoint, handlerSet := handlerSet } : Connection)])[j]? = some conn) :
          c.connections[j]? = some conn ∨ conn = { endpoint := endpoint, handlerSet := handlerSet } := by
        rw [List.getElem?_append] at hconn
        split at hconn
        · exact Or.inl hconn
        · exact Or.inr (List.mem_singleton.mp (List.mem_of_getElem? hconn))
      refine ⟨h.stopped, h.posted, fun j => ?_, fun j conn hconn => ?_, h.trace⟩
      · by_contra hne
        obtain ⟨t, ht⟩ := Option.ne_none_iff_exists'.mp hne
        obtain ⟨conn, hconn, hslot⟩ := Option.bind_eq_some_iff.mp ht
        rcases hnew hconn with hold | rfl
        · have hj := h.tcp j
          rw [tcp?, hold] at hj
          exact absurd (hj.symm.trans hslot) nofun
        · cases hslot
      · rcases hnew hconn with hold | rfl
        · exact h.reconnecting j conn hold
        · rfl
    · exact Or.inr (k.added trivial h)
  case started =>
    rintro c hhandler hall (h | h)
    · exact Or.inr (h.armed hhandler hall)
    · exact Or.inr (k.started hhandler hall h)
  case stopped =>
    rintro c (h | h)
    · refine Or.inl ⟨h.stopped, ?_, h.tcp, h.reconnecting, h.trace⟩
      simpa using h.posted
    · exact Or.inr (k.stopped h)
  case handled =>
    rintro c (h | h)
    · exact Or.inl ⟨h.stopped, h.posted, h.tcp, h.reconnecting, h.trace⟩
    · exact Or.inr (k.handled h)
  case limited =>
    rintro c limit (h | h)
    · exact Or.inl ⟨h.stopped, h.posted, h.tcp, h.reconnecting, h.trace⟩
    · exact Or.inr (k.limited h)

theorem Dormant.step (h : c.Dormant) (hready : c.ready event = true) :
    (c.handle env event).Dormant ∨ (c.handle env event).Armed := by
  cases event with
  | call call =>
    by_cases hconnect : ∃ i, call = .connect i
    · obtain ⟨i, rfl⟩ := hconnect
      left
      simp only [handle, Call.run]
      cases hconn : c.connections[i]? with
      | none =>
        simp only [connect, hconn]
        exact h
      | some conn =>
        rw [connect_stopped env.user _ hconn h.stopped]
        exact h.log rfl
    · have hconnect : ∀ i, call ≠ .connect i := fun i hi => hconnect ⟨i, hi⟩
      exact tolerates_guarded.run env.user env.faults trivial hconnect (Or.inl h)
  | posted k =>
    left
    unfold handle
    dsimp only
    cases hposted : c.posted[k]? with
    | none => exact h
    | some posted =>
      cases posted with
      | start => exact absurd (List.mem_of_getElem? hposted) h.posted
      | stop =>
        simp only [runPosted, h.stopped]
        refine ⟨rfl, fun hmem => h.posted (List.mem_of_mem_eraseIdx hmem), h.tcp, h.reconnecting,
          h.trace⟩
  | reconnectTimerWait i epoch ec =>
    left
    simp only [handle, wait_stale _ _ fun conn hconn => h.reconnecting i conn hconn]
    exact h.modify (fun _ => id) fun _ => id
  | _ => simp [ready, h.tcp] at hready

end

/-- Every handler is set that a client at work may call. -/
theorem guarded_run {c₀ c : Client} {inputs : List (Event × Env)} (h₀ : c₀.Dormant)
    (hrun : (system.restrict ConnectsManned).Run c₀ inputs c) : c.Dormant ∨ c.Armed := by
  refine hrun.keeps (I := fun c => c.Dormant ∨ c.Armed) ?_ (Or.inl h₀)
  rintro input c ⟨hready, hmanned⟩ (h | h)
  · exact h.step hready
  · exact Or.inr (h.step hready hmanned)

end Client
end SoupBin.ClientSide
