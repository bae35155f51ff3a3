import SoupBin.ClientCourse
import SoupBin.ClientFeed

/-!
# The reconnect timer

The timer runs only while the slot is empty, if the user opens no connection
from inside the callbacks that come just before the timer is started.
-/

namespace SoupBin.ClientSide

/-- The timer runs only while the slot is empty. -/
def Connection.Apart (conn : Connection) : Prop :=
  conn.reconnectTimer.started = true → conn.connection = none

section
variable {R : Rules} {i : Nat} {conn conn' : Connection}

/-- Nothing that is done to a connection starts its timer. -/
theorem Connection.Act.idle (ha : Connection.Act R i conn conn')
    (h : conn.reconnectTimer.started = false) : conn'.reconnectTimer.started = false := by
  cases ha with
  | tcp _ => exact h
  | close _ => rfl
  | configure _ hr _ _ => rw [hr, h]
  | setSession _ _ => exact h
  | ended => exact h

/-- Nothing that is done to a connection fills its slot. -/
theorem Connection.Act.vacant (ha : Connection.Act R i conn conn')
    (h : conn.connection = none) : conn'.connection = none := by
  cases ha with
  | tcp _ => simp [Connection.updateTcp, h]
  | close _ => simp [Connection.close, Connection.updateTcp, Connection.updateReconnectTimer, h]
  | configure hc _ _ _ => rw [hc, h]
  | setSession _ _ => exact h
  | ended => exact h

theorem Connection.Act.apart (ha : Connection.Act R i conn conn') (h : conn.Apart) :
    conn'.Apart := by
  intro hs
  apply ha.vacant
  apply h
  by_contra hidle
  rw [ha.idle (by simpa using hidle)] at hs
  cases hs

end

namespace Client

section
variable {R : Rules} {i : Nat} {c c' : Client}

/-- No move starts the timer. -/
theorem Moves.idle (hm : Moves R c c') :
    c.At i (·.reconnectTimer.started = false) → c'.At i (·.reconnectTimer.started = false) := by
  induction hm with
  | refl c => exact id
  | trans _ _ ih₁ ih₂ => exact fun h => ih₂ (ih₁ h)
  | aside ha => exact fun h => h.same ha.connections
  | added conn _ hr _ _ => exact fun h => h.added hr
  | connection hf =>
    intro h
    apply h.update fun _ hs => hs
    rintro rfl conn hconn hs
    exact (hf conn hconn).idle hs
  | login _ _ _ _ => exact fun h => h.takeLogin _ _ (fun _ hs => hs) fun _ hs => hs
  | @opened _ _ j _ _ _ _ _ _ _ _ _ ih =>
    intro h
    have hvacant := h.map j (f := (·.setConnection none)) fun _ hs => hs
    exact (ih (hvacant.same rfl)).map j fun _ hs => hs
  | _ => exact fun h => h.same rfl

/-- No move fills the slot, if the user does not call `connect`. -/
theorem Moves.vacant (hconnect : ¬R.call (.connect i)) (hm : Moves R c c') :
    c.At i (·.connection = none) → c'.At i (·.connection = none) := by
  induction hm with
  | refl c => exact id
  | trans _ _ ih₁ ih₂ => exact fun h => ih₂ (ih₁ h)
  | aside ha => exact fun h => h.same ha.connections
  | added conn hc _ _ _ => exact fun h => h.added hc
  | connection hf =>
    intro h
    apply h.update fun _ hc => hc
    rintro rfl conn hconn hc
    exact (hf conn hconn).vacant hc
  | login _ _ _ _ =>
    intro h
    apply h.takeLogin
    · exact fun conn hc => by simp [Connection.updateTcp, hc]
    · exact fun _ hc => hc
  | @opened c c' j t hcall _ _ _ _ _ _ _ ih =>
    intro h
    by_cases hj : j = i
    · exact absurd (hj ▸ hcall) hconnect
    · have hvacant := h.update (j := j) (f := (·.setConnection none)) (fun _ hc => hc)
        fun hji => absurd hji hj
      exact (ih (hvacant.same rfl)).update (fun _ hc => hc) fun hji => absurd hji hj
  | _ => exact fun h => h.same rfl

/-- Once opened, a connection is there and its timer is not running. -/
theorem apart_install {t : TcpConnection} {j : Nat}
    (hidle : j = i → c.At i (·.reconnectTimer.started = false)) (h : j ≠ i → c.At i Connection.Apart) :
    (c.install j t).At i Connection.Apart := by
  by_cases hj : j = i
  · have hopened := (hidle hj).map j (f := (·.setConnection (some t))) fun _ hs => hs
    intro conn hconn hrunning
    rw [hopened conn hconn] at hrunning
    cases hrunning
  · exact (h hj).update (fun _ ha => ha) fun hji => absurd hji hj

theorem apart_vacate (j : Nat) (h : c.At i Connection.Apart) :
    (c.vacate j).At i Connection.Apart := by
  have hemptied := h.map j (f := (·.setConnection none)) fun _ _ _ => rfl
  exact hemptied.same rfl

theorem Moves.apart (hm : Moves R c c') : c.At i Connection.Apart → c'.At i Connection.Apart := by
  induction hm with
  | refl c => exact id
  | trans _ _ ih₁ ih₂ => exact fun h => ih₂ (ih₁ h)
  | aside ha => exact fun h => h.same ha.connections
  | added conn hc _ _ _ => exact fun h => h.added fun _ => hc
  | connection hf =>
    intro h
    apply h.update fun _ ha => ha
    rintro rfl conn hconn ha
    exact (hf conn hconn).apart ha
  | login _ _ _ _ =>
    intro h
    apply h.takeLogin
    · exact fun conn ha hs => by simp [Connection.updateTcp, ha hs]
    · exact fun _ ha => ha
  | @opened c c' j t _ _ hj _ _ hr hm _ ih =>
    intro h
    apply apart_install
    · rintro rfl
      apply hm.idle
      have hidle : c.At j (·.reconnectTimer.started = false) := by
        intro conn hconn
        simpa [Client.reconnecting, hconn] using hr
      exact (hidle.map j (f := (·.setConnection none)) fun _ hs => hs).same rfl
    · exact fun _ => ih (apart_vacate j h)
  | _ => exact fun h => h.same rfl

end

/-- From inside the callbacks that come just before its timer is started, no
connection is opened. -/
def ConnectsApart (input : Event × Env) (c : Client) : Prop :=
  c.started = true → ∀ i, (input.2.faults i).reconnectTimer = none →
    (∀ reason, isRetryable reason = true →
      ¬input.2.Makes input.2.depth (.connection i (.disconnect reason)) (.connect i)) ∧
    ∀ delay, ¬input.2.Makes input.2.depth (.connection i (.reconnectScheduled delay)) (.connect i)

section
variable {env : Env} {event : Event} {i : Nat} {c c' : Client}

theorem apart_timer {j : Nat} {f : ReconnectTimer → ReconnectTimer}
    (h : c.At i Connection.Apart)
    (hf : j = i → c.At i (·.connection = none) ∨
      ∀ timer, (f timer).started = true → timer.started = true) :
    (c.updateConnection j (·.updateReconnectTimer f)).At i Connection.Apart := by
  apply h.update fun _ ha => ha
  intro hj conn hconn ha hs
  rcases hf hj with hv | hf
  · exact hv conn hconn
  · exact ha (hf _ hs)

theorem Course.apart (hcourse : Course env c event c') (hapart : ConnectsApart (event, env) c)
    (h : c.At i Connection.Apart) : c'.At i Connection.Apart := by
  cases hcourse with
  | moves hm => exact hm.apart h
  | connected _ _ hm hm' =>
    apply hm'.apart
    apply (hm.apart h).map
    intro conn ha hs
    rw [Connection.updateTcp, ha hs]
    rfl
  | @closed j t c₁ _ hm _ _ hcloses =>
    have hstarted := hm.started
    have hfreed (b : Bool) : ((c₁.freed j).log (.called b (.connection j
        (.disconnect t.state.reason)))).At i Connection.Apart := by
      have hemptied := (hm.apart h).map j (f := (·.setConnection none)) fun _ _ _ => rfl
      exact hemptied.same rfl
    cases hcloses with
    | idle hm' _ => exact hm'.apart (hfreed _)
    | @rescheduled b _ c₂ c₃ _ hs hretry hm' hm'' hscheduled =>
      have htold := (hm'.apart (hfreed _)).map j (f := Connection.nextDelay) fun _ ha => ha
      have hready := hm''.apart htold
      cases hscheduled with
      | running _ => exact hready
      | failed _ _ hm''' => exact hm'''.apart hready
      | begun _ hfault =>
        -- The slot has been empty since `on_closed`.
        obtain ⟨hdisconnect, hscheduled⟩ := hapart (hstarted ▸ hs) j hfault
        have hempty : ((c₁.freed j).log (.called b (.connection j
            (.disconnect t.state.reason)))).At j (·.connection = none) := by
          have hemptied : (c₁.updateConnection j (·.setConnection none)).At j
              (·.connection = none) := at_updated fun _ => rfl
          exact hemptied.same rfl
        have hvacant := (hm'.vacant (hdisconnect _ hretry) hempty).map j
          (f := Connection.nextDelay) fun _ hc => hc
        have hvacant := hm''.vacant (hscheduled _) hvacant
        have hrunning := apart_timer (f := ReconnectTimer.setStarted true) hready
          fun hj => Or.inl (hj ▸ hvacant)
        exact apart_timer hrunning fun _ => Or.inr fun _ hs => hs
  | @reopened j _ _ c₁ _ _ hm _ hm' _ =>
    have hstopped := apart_timer (j := j) (f := ReconnectTimer.setStarted false) (hm.apart h)
      fun _ => Or.inr fun _ hs => by cases hs
    apply apart_install
    · rintro rfl
      apply hm'.idle
      have hidle : (c₁.stopReconnect j).At j (·.reconnectTimer.started = false) :=
        at_updated fun _ => rfl
      exact (hidle.map j (f := (·.setConnection none)) fun _ hs => hs).same rfl
    · exact fun _ => hm'.apart (apart_vacate j hstopped)
  | failed _ _ hm _ hm' =>
    apply hm'.apart
    exact apart_timer (hm.apart h) fun _ => Or.inr fun _ hs => by cases hs
  | started _ _ _ hm => exact hm.apart (h.same rfl)
  | stopped _ _ _ hm => exact hm.apart (h.same rfl)

end

/-- **The timer and a connection exclude each other.** In every run in which no
connection is opened from inside its own `disconnect` or `reconnect_scheduled`
just before its timer is started: while the timer of a connection runs, its slot
is empty, so `reconnect_timer_expired` destroys nothing. -/
theorem timer_excludes_connection (c₀ : Client) (h₀ : Idle c₀) (inputs : List (Event × Env))
    (c : Client) (hrun : (system.restrict ConnectsApart).Run c₀ inputs c) (i : Nat)
    (hs : c.reconnecting i = true) : c.tcp? i = none := by
  have hapart : c.At i Connection.Apart := by
    apply hrun.keeps (I := At i Connection.Apart)
    · intro input c hi h
      exact (course_handle input.2 hi.1).apart hi.2 h
    · intro conn hconn _
      exact (h₀.connections conn (List.mem_of_getElem? hconn)).1
  cases hconn : c.connections[i]? with
  | none => simp [tcp?, hconn]
  | some conn =>
    have hs : conn.reconnectTimer.started = true := by simpa [Client.reconnecting, hconn] using hs
    simpa [tcp?, hconn] using hapart conn hconn hs

/-- The server closes the connection while the login request is being answered. -/
def losesConnection : List Event :=
  [.call .start, .posted 0, .connectCompleted 0 none, .headerCompleted 0 (.error .eof),
    .writeCompleted 0 (.error .operationAborted), .loginTimerWait 0 (some .operationAborted),
    .socketClosed 0]

theorem not_makes_plain {cb : Callback} {call : Call} : ¬Env.plain.Makes 0 cb call := by
  intro h
  cases h

theorem timer_excludes_connection_lost :
    let inputs := (losesConnection ++ [Event.loginTimerStopped 0]).map fun event => (event, Env.plain)
    let c := system.final single inputs
    c.reconnecting 0 = true ∧ c.tcp? 0 = none := by
  intro inputs c
  have hrun : system.Run single inputs c := System.run_of_admits (by decide +kernel)
  have hidle : Idle single := ⟨rfl, rfl, rfl, by simp [single]⟩
  have hs : c.reconnecting 0 = true := by decide +kernel
  refine ⟨hs, timer_excludes_connection single hidle inputs c (hrun.restrict ?_) 0 hs⟩
  intro input hi c _ i _
  obtain ⟨event, -, rfl⟩ := List.mem_map.mp hi
  exact ⟨fun _ _ => not_makes_plain, fun _ => not_makes_plain⟩

/-- The user opens the connection again from inside `disconnect`. -/
def connectsAtOnce : Env where
  calls
    | .connection 0 (.disconnect _) => [.connect 0]
    | _ => []
  depth := 1

/-- The timer is started although the slot has been filled, and its expiry
replaces a `Tcp_connection` that was never closed. -/
theorem timer_beside_connection :
    let inputs := losesConnection.map (fun event => (event, Env.plain)) ++
      [(.loginTimerStopped 0, connectsAtOnce)]
    let c := system.final single inputs
    let c' := system.final c [(.reconnectTimerWait 0 1 none, Env.plain)]
    system.Run single inputs c ∧ c.reconnecting 0 = true ∧
      (c.tcp? 0).any (fun t => .connect ∈ t.socket.outstanding) = true ∧
      system.Run c [(.reconnectTimerWait 0 1 none, Env.plain)] c' ∧
      c'.trace.count (.constructed 0) = 3 ∧ c'.trace.count (.onClosed 0) = 1 := by
  intro inputs c c'
  exact ⟨System.run_of_admits (by decide +kernel), by decide +kernel, by decide +kernel,
    System.run_of_admits (by decide +kernel), by decide +kernel, by decide +kernel⟩

end Client
end SoupBin.ClientSide
