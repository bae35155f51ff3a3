import SoupBin.ClientStates
import SoupBin.ServerLinks

/-!
# The states of a connection

The state of a connection only advances: on the server always, and on the client
if no connect is reported as successful after the connection has been closed.
-/

namespace SoupBin.ServerSide.Acceptor

/-! ## The server -/

/-- From `s` to `s'` the state of the connection `k` advances, if `s` has such a connection. -/
structure Advances (k : Nat) (s s' : Acceptor) : Prop where
  known : s.connections.length ≤ s'.connections.length
  state : k < s.connections.length → ∀ u, s'.tcp? k = some u →
    ∃ t, s.tcp? k = some t ∧ t.state.state.Precedes u.state.state

section
variable {R : Rules} {k : Nat} {s s' : Acceptor}

theorem Advances.refl (k : Nat) (s : Acceptor) : Advances k s s :=
  ⟨Nat.le_refl _, fun _ u hu => ⟨u, hu, .refl _⟩⟩

theorem Advances.trans {s'' : Acceptor} (h : Advances k s s') (h' : Advances k s' s'') :
    Advances k s s'' := by
  constructor
  · exact Nat.le_trans h.known h'.known
  · intro hk v hv
    obtain ⟨u, hu, hadvance'⟩ := h'.state (Nat.lt_of_lt_of_le hk h.known) v hv
    obtain ⟨t, ht, hadvance⟩ := h.state hk u hu
    exact ⟨t, ht, hadvance.trans hadvance'⟩

theorem Advances.same (hc : s'.connections = s.connections) : Advances k s s' := by
  constructor
  · exact Nat.le_of_eq (congrArg List.length hc.symm)
  · intro _ u hu
    rw [tcp?, hc] at hu
    exact ⟨u, hu, .refl _⟩

theorem advances_updateTcp (j : Nat) {f : TcpConnection → TcpConnection}
    (hf : ∀ t, s.tcp? j = some t → t.state.state.Precedes (f t).state.state) :
    Advances k s (s.updateTcp j f) := by
  refine ⟨Nat.le_of_eq (length_updateTcp s j f).symm, ?_⟩
  intro _ u hu
  rw [tcp?_updateTcp] at hu
  split at hu
  · rename_i hj
    subst hj
    obtain ⟨t, ht, rfl⟩ := Option.map_eq_some_iff.mp hu
    exact ⟨t, ht, hf t ht⟩
  · exact ⟨u, hu, .refl _⟩

/-- A login is taken while the state is `connected`. -/
theorem advances_seat {p : Nat} {port : Port} {t : TcpConnection} {j : Nat}
    (response : LoginAcceptedPacket) (ht : s.tcp? j = some t) (hs : t.state.state = .connected) :
    Advances k s (s.seat p j port response) := by
  have hset : Advances k s (((s.updatePort p fun _ => port).updateTcp j
      (·.setPort p port.handlerSet)).log (.loginAccepted j response)) := by
    have hported : Advances k s (s.updatePort p fun _ => port) := .same rfl
    have hpointed := hported.trans (advances_updateTcp j (f := (·.setPort p port.handlerSet))
      fun u _ => .refl u.state.state)
    exact hpointed.trans (.same rfl)
  apply hset.trans
  apply advances_updateTcp
  intro u hu
  have hset : (((s.updatePort p fun _ => port).updateTcp j (·.setPort p port.handlerSet)).log
      (.loginAccepted j response)).tcp? j = (s.tcp? j).map (·.setPort p port.handlerSet) :=
    (tcp?_updateTcp _ _ _ _).trans (if_pos rfl)
  rw [hset, ht] at hu
  cases hu
  show t.state.state.Precedes .loggedIn
  rw [hs]
  decide

theorem Moves.advances (hm : Moves R s s') : Advances k s s' := by
  induction hm with
  | refl s => exact .refl k s
  | trans _ _ ih₁ ih₂ => exact ih₁.trans ih₂
  | aside ha => exact .same ha.connections
  | port _ => exact .same rfl
  | added _ _ => exact .same rfl
  | send _ _ hsent =>
    apply advances_updateTcp
    intro t _
    rw [(hsent t).bearing.1]
    exact .refl _
  | tcp _ hact => exact advances_updateTcp _ fun t ht => (hact t ht).precedes
  | supersede _ _ _ =>
    have hact (t : TcpConnection) : TcpConnection.Act calls.toAllowed t t.supersede :=
      TcpConnection.act_disconnect (by decide) t
    exact advances_updateTcp _ fun t _ => (hact t).precedes
  | seat response _ _ _ _ _ _ ht hs _ => exact advances_seat response ht hs
  | @emplaced s _ _ _ =>
    refine ⟨by simp, ?_⟩
    intro hk u hu
    rw [tcp?_emplaced, if_neg (Nat.ne_of_lt hk)] at hu
    exact ⟨u, hu, .refl _⟩
  | @freed s j t _ _ _ =>
    refine ⟨Nat.le_of_eq (length_free t).symm, ?_⟩
    intro _ u hu
    rw [tcp?_free] at hu
    split at hu
    · cases hu
    · exact ⟨u, hu, .refl _⟩

end

theorem Joined.advances_run {s₀ s : Acceptor} (h : s₀.Joined fun _ _ => True) (k : Nat)
    {inputs : List (Event × Env)} (hrun : system.Run s₀ inputs s) : Advances k s₀ s := by
  have hkept := hrun.keeps (I := fun s => (s.Joined fun _ _ => True) ∧ Advances k s₀ s) ?_
    ⟨h, .refl k s₀⟩
  · exact hkept.2
  · rintro input s hready ⟨hjoined, hadvances⟩
    have hmoves := moves_handle input.2 hready fun _ => hjoined.unpointed
    exact ⟨hmoves.joined (fun _ _ _ => trivial) hjoined, hadvances.trans hmoves.advances⟩

theorem Advances.precedes {s s' : Acceptor} {k : Nat} (h : Advances k s s') {t u : TcpConnection}
    (ht : s.tcp? k = some t) (hu : s'.tcp? k = some u) : t.state.state.Precedes u.state.state := by
  have hk : k < s.connections.length := by
    by_contra hge
    rw [tcp?, List.getElem?_eq_none (Nat.not_lt.mp hge)] at ht
    cases ht
  obtain ⟨t', ht', hprecedes⟩ := h.state hk u hu
  cases ht.symm.trans ht'
  exact hprecedes

end SoupBin.ServerSide.Acceptor

namespace SoupBin

/-! ## Both -/

open ClientSide ServerSide in
/-- **States only advance.** Once a connection is disconnected it stays so, and
from `disconnecting` it goes nowhere else: on the server in every run, and on
the client in every run in which a connect succeeds only while the connection is
still connecting. That holds between events, and of the states that each event
passes while it is handled. -/
theorem states_only_advance (i : Nat) :
    ((∀ (c c' : Client) (inputs : List (ClientSide.Event × ClientSide.Env)),
      (ClientSide.system.restrict Client.ConnectsInTime).Run c inputs c' →
        ∀ t u : ClientSide.TcpConnection, c.tcp? i = some t → c'.tcp? i = some u →
          c'.trace.count (.constructed i) = c.trace.count (.constructed i) →
            t.state.state.Precedes u.state.state) ∧
      ∀ (c : Client) (event : ClientSide.Event) (env : ClientSide.Env), c.ready event = true →
        Client.ConnectsInTime (event, env) c → Client.Passes c event c (c.handle env event) ∧
          ∀ b b', Client.Passes c event c b → Client.Passes c event b b' →
            ∀ t u : ClientSide.TcpConnection, b.tcp? i = some t → b'.tcp? i = some u →
              b'.trace.count (.constructed i) = b.trace.count (.constructed i) →
                t.state.state.Precedes u.state.state) ∧
    ∀ (s₀ s : Acceptor) (before : List (ServerSide.Event × ServerSide.Env)), s₀.Idle →
      ServerSide.system.Run s₀ before s →
        (∀ (s' : Acceptor) (after : List (ServerSide.Event × ServerSide.Env)),
          ServerSide.system.Run s after s' →
            ∀ t u : ServerSide.TcpConnection, s.tcp? i = some t → s'.tcp? i = some u →
              t.state.state.Precedes u.state.state) ∧
        ∀ (event : ServerSide.Event) (env : ServerSide.Env), s.ready event = true →
          Acceptor.Moves (s.rules env event) s (s.handle env event) ∧
            ∀ b b', Acceptor.Moves (s.rules env event) s b →
              Acceptor.Moves (s.rules env event) b b' →
                ∀ t u : ServerSide.TcpConnection, b.tcp? i = some t → b'.tcp? i = some u →
                  t.state.state.Precedes u.state.state := by
  refine ⟨⟨?_, ?_⟩, ?_⟩
  · intro c c' inputs hrun t u ht hu hcount
    exact (Client.advances_run i hrun).precedes hcount ht hu
  · intro c event env hready hintime
    refine ⟨Client.passes_handle env hready, fun b b' _ hpasses t u ht hu hcount => ?_⟩
    exact (hpasses.advances i _ hintime).precedes hcount ht hu
  · intro s₀ s before hidle hbefore
    have hjoined : s.Joined fun _ _ => True :=
      (Acceptor.joined_run hidle hbefore).mono fun _ _ _ => trivial
    constructor
    · intro s' after hafter t u ht hu
      exact (hjoined.advances_run i hafter).precedes ht hu
    · intro event env hready
      refine ⟨Acceptor.moves_handle env hready fun _ => hjoined.unpointed, ?_⟩
      intro b b' _ hmoves t u ht hu
      exact hmoves.advances.precedes ht hu

/-- The client connects, and is closed. -/
def connectsAndCloses : List (ClientSide.Event × ClientSide.Env) :=
  [(.connectCompleted 0 none, .plain), (.call (.close 0), .plain)]

open ClientSide ServerSide in
theorem states_only_advance_closed :
    let c := ClientSide.system.final Client.single [(.call .start, .plain), (.posted 0, .plain)]
    let c' := ClientSide.system.final c connectsAndCloses
    let s := ServerSide.system.final Acceptor.onePort
      ((Acceptor.logInTwice.take 6).map fun event => (event, .plain))
    let s' := ServerSide.system.final s
      ((Acceptor.logInTwice.drop 6).map fun event => (event, .plain))
    ((c.tcpState 0).state = .connecting ∧ (c'.tcpState 0).state = .disconnected ∧
      (∀ t u, c.tcp? 0 = some t → c'.tcp? 0 = some u → t.state.state.Precedes u.state.state) ∧
      Client.Passes c (.connectCompleted 0 none) c (c.handle .plain (.connectCompleted 0 none))) ∧
    (s.tcpState 0).state = .loggedIn ∧ (s'.tcpState 0).state = .disconnected ∧
      ∀ t u, s.tcp? 0 = some t → s'.tcp? 0 = some u → t.state.state.Precedes u.state.state := by
  intro c c' s s'
  have hintime : Client.ConnectsInTime (.connectCompleted 0 none, .plain) c := by
    intro i heq
    cases heq
    decide +kernel
  have hrun : (ClientSide.system.restrict Client.ConnectsInTime).Run c connectsAndCloses c' := by
    have hrefl : (ClientSide.system.restrict Client.ConnectsInTime).Run c [] c := .refl
    refine (hrefl.step (.connectCompleted 0 none, .plain) ⟨by decide +kernel, hintime⟩).step
      (.call (.close 0), .plain) ⟨by decide +kernel, ?_⟩
    intro i heq
    cases heq
  have hidle : Acceptor.onePort.Idle := ⟨rfl, rfl, by simp [Acceptor.onePort]⟩
  have hbefore : ServerSide.system.Run Acceptor.onePort _ s :=
    System.run_of_admits (by decide +kernel)
  have hafter : ServerSide.system.Run s _ s' := System.run_of_admits (by decide +kernel)
  refine ⟨⟨by decide +kernel, by decide +kernel, ?_, ?_⟩, by decide +kernel, by decide +kernel, ?_⟩
  · intro t u ht hu
    exact (states_only_advance 0).1.1 c c' _ hrun t u ht hu (by decide +kernel)
  · exact ((states_only_advance 0).1.2 c _ .plain (by decide +kernel) hintime).1
  · exact ((states_only_advance 0).2 _ s _ hidle hbefore).1 s' _ hafter

open ClientSide in
/-- The connect had succeeded when the connection was closed; its success is
delivered afterwards, and the connection is connected again. -/
theorem connected_after_close :
    let inputs : List (ClientSide.Event × ClientSide.Env) :=
      [(.call .start, .plain), (.posted 0, .plain), (.call (.close 0), .plain)]
    let c := ClientSide.system.final Client.single inputs
    let c' := ClientSide.system.final c [(.connectCompleted 0 none, .plain)]
    ClientSide.system.Run Client.single inputs c ∧
      ClientSide.system.Run c [(.connectCompleted 0 none, .plain)] c' ∧
      c'.trace.count (.constructed 0) = c.trace.count (.constructed 0) ∧
      (c.tcpState 0).state = .disconnected ∧ (c'.tcpState 0).state = .connected ∧
      ¬(c.tcpState 0).state.Precedes (c'.tcpState 0).state := by
  intro inputs c c'
  exact ⟨System.run_of_admits (by decide +kernel), System.run_of_admits (by decide +kernel),
    by decide +kernel, by decide +kernel, by decide +kernel, by decide +kernel⟩

end SoupBin
