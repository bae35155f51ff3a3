import SoupBin.ClientFeed
import SoupBin.ClientStages

/-!
# Teardown of a client connection

Every `Tcp_connection` that is made is closed again: once it is disconnected and
nothing is outstanding, `on_closed` has freed the slot. This needs that no timer
is started after the disconnect.
-/

namespace SoupBin.ClientSide

open TcpConnection

namespace Client

/-! ## The result -/

theorem tidy_handle {env : Env} (henv : env.ConnectsOutside) (hopen : env.KeepsOpen) (event : Event)
    {c : Client} (hready : c.ready event = true) (h : Tidy c) : Tidy (c.handle env event) := by
  have hu := touched_user henv
  cases event with
  | call call =>
    by_cases hc : ∃ i, call = .connect i
    · obtain ⟨i, rfl⟩ := hc
      exact tidy_connect hu (env.faults i) h
    · exact h.touched (touched_call env.user env.faults (fun i hi => hc ⟨i, hi⟩) c)
  | posted k =>
    simp only [handle]
    split
    · exact h
    · have htaken : Tidy { c with posted := c.posted.eraseIdx k } := h.same rfl rfl
      exact tidy_runPosted hu env.faults env.added _ htaken
  | connectCompleted i ec =>
    apply tidy_connectCompleted hu (env.faults i) h _ ec (hopen i).1 (hopen i).2.1
    intro t ht
    simpa [ready, ht] using hready
  | headerCompleted i result =>
    apply tidy_headerCompleted hu (env.faults i) h _ result (hopen i).2.2
    intro t ht
    simpa [ready, ht] using hready
  | payloadCompleted i result =>
    apply tidy_payloadCompleted hu (env.faults i) h _ result (hopen i).2.2
    intro t ht
    simpa [ready, ht] using hready
  | writeCompleted i result =>
    apply tidy_writeCompleted hu (env.faults i) h _ result
    intro t ht
    simpa [ready, ht] using hready
  | socketClosed i =>
    exact tidy_noted hu (env.faults i) h _ fun t _ ha hf => ha.noteClosed hf
  | loginTimerWait i ec =>
    apply tidy_loginTimerWait hu h
    intro t ht
    simpa [ready, ht] using hready
  | loginTimerStopped i =>
    apply tidy_noted hu (env.faults i) h
    intro t ht ha hf
    exact ha.noteLoginTimerStopped (by simpa [ready, ht] using hready) hf
  | heartbeatTimerWait i ec =>
    apply tidy_heartbeatTimerWait hu h
    intro t ht
    simpa [ready, ht] using hready
  | heartbeatTimerStopped i =>
    apply tidy_noted hu (env.faults i) h
    intro t ht ha hf
    exact ha.noteHeartbeatTimerStopped (by simpa [ready, ht] using hready) hf
  | reconnectTimerWait i epoch ec => exact tidy_reconnectTimerWait hu (env.faults i) h epoch ec

theorem Idle.tidy {c : Client} (h : Idle c) : Tidy c := by
  intro i
  have hv : c.tcp? i = none := by
    cases hi : c.connections[i]? with
    | none => simp [tcp?, hi]
    | some conn => simp [tcp?, hi, (h.connections conn (List.mem_of_getElem? hi)).1]
  constructor
  · intro t ht
    rw [hv] at ht
    cases ht
  · simp [hv, h.trace]
  · intro hs
    rw [hv] at hs
    cases hs

/-- Whatever is down has something outstanding, and every `Tcp_connection` that
was made has been told to its `Connection` as closed, but for the one in the slot. -/
def TornDown (c : Client) : Prop :=
  ∀ i, (∀ t, c.tcp? i = some t → t.state.state = .disconnected → ¬t.Quiescent) ∧
    c.trace.count (.constructed i) = c.trace.count (.onClosed i) + (c.tcp? i).isSome.toNat

theorem Tidy.tornDown {c : Client} (h : Tidy c) : TornDown c :=
  fun i => ⟨fun t ht hs => ((h i).tcp t ht).not_quiescent hs, (h i).counted⟩

/-- **Every connection is torn down.** In every run in which no connection is
closed from inside its own `connect_success`, `logging_in` or `login_success`: a
`Tcp_connection` that is disconnected with nothing outstanding is no longer in
its slot, since `on_closed` has been called for it, once. From inside callbacks
the user may make any other call but `connect`. -/
theorem torn_down_when_kept_open (c₀ : Client) (h₀ : Idle c₀) (inputs : List (Event × Env))
    (c : Client) (hrun : system.Run c₀ inputs c)
    (henv : ∀ input ∈ inputs, input.2.ConnectsOutside ∧ input.2.KeepsOpen) : TornDown c := by
  have hrestricted := hrun.restrict (G := fun input _ =>
    input.2.ConnectsOutside ∧ input.2.KeepsOpen) fun input hi _ => henv input hi
  have htidy : Tidy c := by
    apply hrestricted.keeps (I := Tidy) _ h₀.tidy
    intro input t hi ht
    exact tidy_handle hi.2.1 hi.2.2 input.1 hi.1 ht
  exact htidy.tornDown

/-- The user closes the connection after the login request has been sent. -/
def closesLater : List Event :=
  [.call .start, .posted 0, .connectCompleted 0 none, .call (.close 0),
    .headerCompleted 0 (.error .operationAborted), .writeCompleted 0 (.error .operationAborted),
    .loginTimerWait 0 (some .operationAborted), .socketClosed 0, .loginTimerStopped 0]

theorem torn_down_when_kept_open_later :
    let inputs := closesLater.map fun event => (event, Env.plain)
    let c := system.final single inputs
    c.tcp? 0 = none ∧ c.trace.count (.onClosed 0) = 1 ∧ TornDown c := by
  intro inputs c
  have hrun : system.Run single inputs c := System.run_of_admits (by decide +kernel)
  have hidle : Idle single := ⟨rfl, rfl, rfl, by simp [single]⟩
  refine ⟨by decide +kernel, by decide +kernel, torn_down_when_kept_open single hidle inputs c hrun ?_⟩
  intro input hi
  obtain ⟨event, -, rfl⟩ := List.mem_map.mp hi
  exact ⟨by simp [Env.ConnectsOutside, Env.plain], by simp [Env.KeepsOpen, Env.plain]⟩

/-- The user closes the connection from inside `connect_success`. -/
def closesAtOnce : Env where
  calls
    | .connection 0 .connectSuccess => [.close 0]
    | _ => []
  depth := 1

/-- The connection is down and nothing is outstanding, since the login timer was
started after the disconnect, but `on_closed` has not been called. -/
theorem stuck_after_close_in_connect_success :
    let inputs := [(.call .start, .plain), (.posted 0, .plain),
      (.connectCompleted 0 none, closesAtOnce), (.socketClosed 0, .plain),
      (.loginTimerWait 0 none, .plain)]
    let c := system.final single inputs
    system.Run single inputs c ∧ c.trace.count (.onClosed 0) = 0 ∧
      (c.tcp? 0).any (fun t => t.state.state = .disconnected ∧ t.Quiescent) = true ∧
      ¬TornDown c := by
  intro inputs c
  have hrun : system.Run single inputs c := System.run_of_admits (by decide +kernel)
  have hstuck : (c.tcp? 0).any (fun t => t.state.state = .disconnected ∧ t.Quiescent) = true := by
    decide +kernel
  refine ⟨hrun, by decide +kernel, hstuck, ?_⟩
  intro htorn
  cases ht : c.tcp? 0 with
  | none => simp [ht] at hstuck
  | some t =>
    rw [ht] at hstuck
    obtain ⟨hdown, hquiet⟩ := of_decide_eq_true hstuck
    exact (htorn 0).1 t ht hdown hquiet

end Client
end SoupBin.ClientSide
