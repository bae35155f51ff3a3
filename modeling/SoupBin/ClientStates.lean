import SoupBin.ClientCourse
import SoupBin.ClientFeed

/-!
# The states of a client connection

The state of a `Tcp_connection` only advances, if a connect is not reported as
successful after the connection has been closed.
-/

namespace SoupBin.ClientSide

theorem TcpConnection.Act.precedes {aborts : Prop} {t u : TcpConnection} (h : t.Act aborts u) :
    t.state.state.Precedes u.state.state := by
  cases h with
  | aside ha =>
    rw [ha.state]
    exact .refl _
  | disconnect reason _ _ hd =>
    rw [hd.state]
    exact State.precedes_disconnected _

theorem Connection.Act.precedes {R : Rules} {i : Nat} {conn conn' : Connection}
    (ha : Connection.Act R i conn conn') {u : TcpConnection} (hu : conn'.connection = some u) :
    ∃ t, conn.connection = some t ∧ t.state.state.Precedes u.state.state := by
  cases ha with
  | tcp hf =>
    obtain ⟨t, ht, rfl⟩ := Option.map_eq_some_iff.mp hu
    exact ⟨t, ht, (hf t ht).precedes⟩
  | close _ =>
    obtain ⟨t, ht, rfl⟩ := Option.map_eq_some_iff.mp hu
    refine ⟨t, ht, ?_⟩
    rcases t.disconnect_cases .userInitiated with heq | hd
    · rw [TcpConnection.close, heq]
      exact .refl _
    · rw [TcpConnection.close, hd.state]
      exact State.precedes_disconnected _
  | configure hsame _ _ _ => exact ⟨u, hsame ▸ hu, .refl _⟩
  | setSession _ _ => exact ⟨u, hu, .refl _⟩
  | ended => exact ⟨u, hu, .refl _⟩

namespace Client

/-- From `c` to `c'` the `Tcp_connection` of `i` is another one, or its state advances. -/
structure Advances (i : Nat) (c c' : Client) : Prop where
  constructed : c.trace.count (.constructed i) ≤ c'.trace.count (.constructed i)
  state : c'.trace.count (.constructed i) = c.trace.count (.constructed i) →
    ∀ u, c'.tcp? i = some u → ∃ t, c.tcp? i = some t ∧ t.state.state.Precedes u.state.state

section
variable {i : Nat} {c c' : Client}

theorem Advances.refl (i : Nat) (c : Client) : Advances i c c :=
  ⟨Nat.le_refl _, fun _ u hu => ⟨u, hu, .refl _⟩⟩

theorem Advances.trans {c'' : Client} (h : Advances i c c') (h' : Advances i c' c'') :
    Advances i c c'' := by
  constructor
  · exact Nat.le_trans h.constructed h'.constructed
  · intro hcount v hv
    have hle := h.constructed
    have hle' := h'.constructed
    obtain ⟨u, hu, hadvance'⟩ := h'.state (by omega) v hv
    obtain ⟨t, ht, hadvance⟩ := h.state (by omega) u hu
    exact ⟨t, ht, hadvance.trans hadvance'⟩

theorem Advances.precedes (h : Advances i c c')
    (hcount : c'.trace.count (.constructed i) = c.trace.count (.constructed i))
    {t u : TcpConnection} (ht : c.tcp? i = some t) (hu : c'.tcp? i = some u) :
    t.state.state.Precedes u.state.state := by
  obtain ⟨t', ht', hprecedes⟩ := h.state hcount u hu
  cases ht.symm.trans ht'
  exact hprecedes

/-- What is no step of `i`. -/
theorem Advances.same (htcp : c'.tcp? i = c.tcp? i)
    (hcount : c'.trace.count (.constructed i) = c.trace.count (.constructed i)) :
    Advances i c c' := by
  constructor
  · exact Nat.le_of_eq hcount.symm
  · intro _ u hu
    exact ⟨u, htcp ▸ hu, .refl _⟩

theorem advances_log (entry : Entry) (he : entry ≠ .constructed i) :
    Advances i c (c.log entry) := by
  have hcount : (c.log entry).trace.count (.constructed i) = c.trace.count (.constructed i) := by
    simp only [Client.log, List.count_append, List.count_singleton]
    rw [if_neg (by simpa using he)]
    rfl
  exact .same rfl hcount

/-- What is done to the connection `j` advances the state of its `Tcp_connection`. -/
theorem advances_update {j : Nat} {f : Connection → Connection}
    (hf : j = i → ∀ conn, c.connections[i]? = some conn → ∀ u, (f conn).connection = some u →
      ∃ t, conn.connection = some t ∧ t.state.state.Precedes u.state.state) :
    Advances i c (c.updateConnection j f) := by
  refine ⟨Nat.le_refl _, ?_⟩
  intro _ u hu
  simp only [tcp?, getElem?_updateConnection] at hu ⊢
  split at hu
  · rename_i hj
    cases hconn : c.connections[i]? with
    | none => simp [hconn] at hu
    | some conn =>
      rw [hconn] at hu
      exact hf hj conn hconn u hu
  · exact ⟨u, hu, .refl _⟩

/-- Nothing else about a connection matters. -/
theorem advances_quiet {j : Nat} {f : Connection → Connection}
    (hf : ∀ conn, (f conn).connection = conn.connection ∨ (f conn).connection = none) :
    Advances i c (c.updateConnection j f) := by
  apply advances_update
  intro _ conn _ u hu
  rcases hf conn with hsame | hnone
  · exact ⟨u, hsame ▸ hu, .refl _⟩
  · rw [hnone] at hu
    cases hu

theorem advances_opened {j : Nat} {t : TcpConnection}
    (h : Advances i (c.vacate j) c') : Advances i c (c'.install j t) := by
  by_cases hj : j = i
  · subst hj
    have hcount : c.trace.count (.constructed j) + 1 =
        (c.vacate j).trace.count (.constructed j) := by
      simp [vacate, Client.log, List.count_append]
    have hle := h.constructed
    have hinstalled : (c'.install j t).trace = c'.trace := rfl
    constructor
    · rw [hinstalled]
      omega
    · intro hsame
      rw [hinstalled] at hsame
      omega
  · have hemptied : Advances i c (c.updateConnection j (·.setConnection none)) :=
      advances_update fun hji => absurd hji hj
    have hvacant := hemptied.trans (advances_log (.constructed j) (by simp [hj]))
    exact (hvacant.trans h).trans (advances_update fun hji => absurd hji hj)

theorem Moves.advances {R : Rules} (i : Nat) {c c' : Client} (hm : Moves R c c') :
    Advances i c c' := by
  induction hm with
  | refl c => exact .refl i c
  | trans _ _ ih₁ ih₂ => exact ih₁.trans ih₂
  | @note c entry he =>
    apply advances_log
    rintro rfl
    cases he
  | aside ha =>
    apply Advances.same
    · rw [tcp?, tcp?, ha.connections]
    · rw [ha.trace]
  | @added c conn hnone _ _ _ =>
    refine ⟨Nat.le_refl _, ?_⟩
    intro _ u hu
    simp only [tcp?, List.getElem?_append] at hu
    split at hu
    · exact ⟨u, hu, .refl _⟩
    · rw [List.getElem?_singleton] at hu
      split at hu
      · simp [hnone] at hu
      · cases hu
  | connection hf =>
    apply advances_update
    rintro rfl conn hconn u hu
    exact (hf conn hconn).precedes hu
  | @login c j conn t response hconn ht hs _ =>
    have hlogged : Advances i c (c.updateTcp j fun t =>
        (t.updateLoginTimer LoginTimer.stop).setState .loggedIn) := by
      apply advances_update
      rintro rfl conn' hconn' u hu
      rw [hconn] at hconn'
      cases hconn'
      obtain ⟨t', ht', rfl⟩ := Option.map_eq_some_iff.mp hu
      rw [ht] at ht'
      cases ht'
      exact ⟨t, ht, by simp [State.Precedes, hs]⟩
    have haccepted := hlogged.trans (advances_quiet (j := j) (f := (·.accept response))
      fun _ => Or.inl rfl)
    exact haccepted.trans (advances_log (.accepted j response) (by simp))
  | @deliver c n data _ _ =>
    have hcounted : Advances i c (c.setNextSequenceNumber ((n + 1) % 2 ^ 64)) := .same rfl rfl
    exact hcounted.trans (advances_log _ (by simp))
  | @endSession c _ =>
    have hended : Advances i c { c with hasSessionEnded := true } := .same rfl rfl
    exact hended.trans (advances_log _ (by simp))
  | returned _ _ => exact advances_log _ (by simp)
  | opened _ _ _ _ _ _ _ _ ih => exact advances_opened ih
  | _ => exact .same rfl rfl

end

/-! ## Within an event -/

/-- While `c` handles the event, the client goes from one state to another. -/
inductive Passes (c : Client) (event : Event) : Client → Client → Prop where
  | refl (b : Client) : Passes c event b b
  | trans {b b' b'' : Client} : Passes c event b b' → Passes c event b' b'' → Passes c event b b''
  | moves {R : Rules} {b b' : Client} : Moves R b b' → Passes c event b b'
  | connected {i : Nat} {b : Client} : event = .connectCompleted i none →
      b.tcpState i = c.tcpState i → Passes c event b (b.updateTcp i (·.setState .connected))
  | freed (i : Nat) (handlerSet : Bool) (reason : DisconnectReason) (b : Client) :
      Passes c event b ((b.freed i).log (.called handlerSet (.connection i (.disconnect reason))))
  | delayed (i : Nat) (b : Client) : Passes c event b (b.updateConnection i Connection.nextDelay)
  | timer (i : Nat) (f : ReconnectTimer → ReconnectTimer) (b : Client) :
      Passes c event b (b.updateConnection i (·.updateReconnectTimer f))
  | reopened {R : Rules} {i : Nat} {t : TcpConnection} {b b' : Client} : Moves R (b.vacate i) b' →
      t.Fresh → Passes c event b (b'.install i t)
  | flagged (posted : List Posted) (started : Bool) (b : Client) :
      Passes c event b { b with posted := posted, started := started }

section
variable {c : Client} {event : Event}

theorem kept_passes (b : Client) : Kept (fun _ => True) (Passes c event b) where
  moves _ hm h := h.trans (.moves hm)
  freed _ _ _ _ h := h.trans (.freed _ _ _ _)
  delayed _ _ h := h.trans (.delayed _ _)
  timer _ _ _ h := h.trans (.timer _ _ _)
  reopened _ hm ht h := h.trans (.reopened hm ht)
  flagged _ _ _ h := h.trans (.flagged _ _ _)

/-- Every event is handled in such steps. -/
theorem passes_handle (env : Env) (hready : c.ready event = true) :
    Passes c event c (c.handle env event) :=
  (course_handle env hready).keeps (kept_passes c)
    ⟨trivial, trivial, fun _ => trivial, trivial, trivial⟩
    (fun _ _ hevent hstate h => h.trans (.connected hevent hstate)) (.refl c)

/-- A connect is reported as successful only while the connection is being opened. -/
def ConnectsInTime (input : Event × Env) (c : Client) : Prop :=
  ∀ i, input.1 = .connectCompleted i none → (c.tcpState i).state = .connecting

theorem Passes.advances {b b' : Client} (i : Nat) (env : Env)
    (hintime : ConnectsInTime (event, env) c) (h : Passes c event b b') : Advances i b b' := by
  induction h with
  | refl b => exact .refl i b
  | trans _ _ ih ih' => exact ih.trans ih'
  | moves hm => exact hm.advances i
  | @connected j b hevent hstate =>
    apply advances_update
    rintro rfl conn hconn u hu
    obtain ⟨t, ht, rfl⟩ := Option.map_eq_some_iff.mp hu
    refine ⟨t, ht, ?_⟩
    have hconnecting := hintime j hevent
    rw [← hstate] at hconnecting
    have hs : t.state.state = .connecting := by
      simpa [tcpState, tcp?, hconn, ht] using hconnecting
    simp [State.Precedes, hs]
  | freed j handlerSet reason b =>
    have hemptied : Advances i b (b.updateConnection j (·.setConnection none)) :=
      advances_quiet fun _ => Or.inr rfl
    have hfreed := hemptied.trans (advances_log (.onClosed j) (by simp))
    exact hfreed.trans (advances_log _ (by simp))
  | delayed _ _ => exact advances_quiet fun _ => Or.inl rfl
  | timer _ _ _ => exact advances_quiet fun _ => Or.inl rfl
  | reopened hm _ => exact advances_opened (hm.advances i)
  | flagged _ _ _ => exact .same rfl rfl

end

/-! ## Runs -/

/-- In a run of such events every state advances. -/
theorem advances_run (i : Nat) {c₀ c : Client} {inputs : List (Event × Env)}
    (hrun : (system.restrict ConnectsInTime).Run c₀ inputs c) : Advances i c₀ c := by
  apply hrun.keeps (I := Advances i c₀) _ (.refl i c₀)
  intro input c hi h
  exact h.trans ((passes_handle input.2 hi.1).advances i input.2 hi.2)

end Client
end SoupBin.ClientSide
