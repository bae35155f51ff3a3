import SoupBin.Timers
import Mathlib.Data.List.Induction

/-!
# Heartbeats over whole runs

A heartbeat timer that runs is told of packets, and expires once in a period. What
it does at an expiry depends on the packets of the windows between the
expiries alone: of the last one for what is sent, of the last ones, as many as the
timeout has periods, for what is received.
-/

namespace SoupBin.HeartbeatTimer

/-- What happens to a timer that runs. -/
inductive Beat where
  | receive
  | send
  | tick
  deriving DecidableEq, Repr

/-- The calls of the handler. -/
inductive Alarm where
  | error
  | sendDue
  | receiveTimeout
  deriving DecidableEq, Repr

/-- A timer, the calls that it makes during one expiry, and those of every expiry so
far. -/
structure Monitor where
  timer : HeartbeatTimer
  alarms : List Alarm := []
  history : List (List Alarm) := []

namespace Monitor

def raise (alarm : Alarm) (m : Monitor) : Monitor := { m with alarms := m.alarms ++ [alarm] }

def handler : Handler Monitor where
  timer := timer
  update f m := { m with timer := f m.timer }
  heartbeatTimerError _ _ := raise .error
  heartbeatSendDue := raise .sendDue
  heartbeatReceiveTimeout := raise .receiveTimeout

@[simp] theorem handler_timer (m : Monitor) : handler.timer m = m.timer := rfl

@[simp] theorem handler_update (f : HeartbeatTimer → HeartbeatTimer) (m : Monitor) :
    handler.update f m = { m with timer := f m.timer } := rfl

@[simp] theorem handler_sendDue (m : Monitor) : handler.heartbeatSendDue m = m.raise .sendDue := rfl

@[simp] theorem handler_receiveTimeout (m : Monitor) :
    handler.heartbeatReceiveTimeout m = m.raise .receiveTimeout := rfl

@[simp] theorem handler_schedule (m : Monitor) :
    handler.schedule none m = { m with timer := m.timer.startWait } := rfl

/-- A fresh timer, just started. -/
def started (T : Nat) : Monitor := handler.start none none { timer := { timeout := T } }

/-- The wait that asio holds completes. -/
def tick (m : Monitor) : Option Monitor :=
  if m.timer.waits = 0 then none
  else
    let m := handler.waitCompleted none none { m with alarms := [] }
    some { m with history := m.history ++ [m.alarms] }

def step (m : Monitor) : Beat → Option Monitor
  | .receive => some { m with timer := m.timer.incrementReceiveCount }
  | .send => some { m with timer := m.timer.incrementSendCount }
  | .tick => m.tick

def run (beats : List Beat) (m : Monitor) : Option Monitor := beats.foldlM step m

theorem run_concat (beats : List Beat) (b : Beat) (m : Monitor) :
    run (beats ++ [b]) m = (run beats m).bind (·.step b) := by
  rw [run, List.foldlM_append]
  simp [run, Option.bind_eq_bind]

end Monitor

/-! ## Windows -/

/-- What has been counted between two ticks. -/
structure Window where
  receives : Nat := 0
  sends : Nat := 0
  deriving DecidableEq, Repr

/-- The windows that have ended, and the one that has not. -/
def windowsStep (ws : List Window × Window) : Beat → List Window × Window
  | .receive => (ws.1, { ws.2 with receives := ws.2.receives + 1 })
  | .send => (ws.1, { ws.2 with sends := ws.2.sends + 1 })
  | .tick => (ws.1 ++ [ws.2], {})

def windows (beats : List Beat) : List Window × Window := beats.foldl windowsStep ([], {})

theorem windows_concat (beats : List Beat) (b : Beat) :
    windows (beats ++ [b]) = windowsStep (windows beats) b := by
  simp [windows, List.foldl_append]

/-- No counter wraps around within a window. -/
def Few (beats : List Beat) : Prop :=
  ∀ w ∈ (windows beats).1 ++ [(windows beats).2], w.receives + w.sends < 2 ^ 32

instance (beats : List Beat) : Decidable (Few beats) :=
  inferInstanceAs (Decidable (∀ w ∈ _, _))

theorem Few.front {beats : List Beat} {b : Beat} (h : Few (beats ++ [b])) : Few beats := by
  intro w hw
  rw [Few, windows_concat] at h
  rcases List.mem_append.mp hw with hw | hw
  · apply h w
    cases b <;> simp [windowsStep, hw]
  · rw [List.mem_singleton] at hw
    cases b with
    | tick => exact h w (by simp [windowsStep, hw])
    | receive | send =>
      have := h _ (List.mem_append_right _ List.mem_cons_self)
      simp only [windowsStep] at this
      rw [hw]
      omega

/-- Nothing has been received in the last `T` windows. -/
def Silent (T : Nat) (ended : List Window) : Prop :=
  T ≤ ended.length ∧ ∀ w ∈ ended.drop (ended.length - T), w.receives = 0

instance (T : Nat) (ended : List Window) : Decidable (Silent T ended) :=
  inferInstanceAs (Decidable (_ ∧ _))

/-- How many windows in a row have passed without a packet from the peer. -/
def silence (ended : List Window) : Nat :=
  ended.foldl (fun n w => if w.receives = 0 then n + 1 else 0) 0

theorem silence_concat (ended : List Window) (w : Window) :
    silence (ended ++ [w]) = if w.receives = 0 then silence ended + 1 else 0 := by
  simp [silence, List.foldl_append]

theorem silent_concat (T : Nat) (ended : List Window) (w : Window) :
    Silent (T + 1) (ended ++ [w]) ↔ w.receives = 0 ∧ Silent T ended := by
  have hdrop : (ended ++ [w]).drop (ended.length + 1 - (T + 1)) =
      ended.drop (ended.length - T) ++ [w] := by
    rw [Nat.add_sub_add_right, List.drop_append_of_le_length (Nat.sub_le _ _)]
  rw [Silent, Silent, List.length_append, List.length_singleton, Nat.add_le_add_iff_right, hdrop]
  constructor
  · rintro ⟨hT, hall⟩
    exact ⟨hall w (by simp), hT, fun v hv => hall v (List.mem_append_left _ hv)⟩
  · rintro ⟨hw, hT, hall⟩
    refine ⟨hT, fun v hv => ?_⟩
    rcases List.mem_append.mp hv with hv | hv
    · exact hall v hv
    · rw [List.mem_singleton.mp hv, hw]

theorem silent_iff (ended : List Window) : ∀ T, Silent T ended ↔ T ≤ silence ended := by
  induction ended using List.reverseRecOn with
  | nil =>
    intro T
    simp [Silent, silence]
  | append_singleton ended w ih =>
    intro T
    cases T with
    | zero => simp [Silent]
    | succ T =>
      rw [silent_concat, ih, silence_concat]
      by_cases hw : w.receives = 0
      · rw [if_pos hw, Nat.add_le_add_iff_right]
        exact and_iff_right hw
      · rw [if_neg hw]
        exact iff_of_false (fun h => hw h.1) (Nat.not_succ_le_zero T)

/-! ## One tick -/

/-- What a tick calls, after the windows `ended`. -/
def expected (T : Nat) (ended : List Window) : List Alarm :=
  if Silent T ended then [.receiveTimeout]
  else
    match ended.getLast? with
    | some w => if w.sends = 0 then [.sendDue] else []
    | none => []

/-- What a timer has counted, and what it has called. -/
structure Follows (T : Nat) (ended : List Window) (w : Window) (m : Monitor) : Prop where
  started : m.timer.started = true
  timeout : m.timer.timeout = T
  receives : m.timer.receiveCount = w.receives
  sends : Silent T ended ∨ m.timer.sendCount = w.sends
  quiet : m.timer.noReceivePeriod = silence ended
  waits : m.timer.waits = if Silent T ended then 0 else 1
  history : m.history = (List.range ended.length).map fun k => expected T (ended.take (k + 1))
  earlier : ∀ k < ended.length, ¬Silent T (ended.take k)

theorem Follows.start {T : Nat} (hT : 1 ≤ T) : Follows T [] {} (Monitor.started T) := by
  have hsilent : ¬Silent T [] := fun h => by
    have := h.1
    simp at this
    omega
  refine ⟨rfl, rfl, rfl, Or.inr rfl, rfl, ?_, rfl, by simp⟩
  rw [if_neg hsilent]
  rfl

variable {T : Nat} {ended : List Window} {w : Window} {m m' : Monitor}

theorem onExpiry_silent {m : Monitor} (hstarted : m.timer.started = true)
    (hzero : m.timer.receiveCount = 0) (htimeout : m.timer.timeout ≤ m.timer.noReceivePeriod + 1) :
    Monitor.handler.onExpiry none none m =
      { m with
        timer := m.timer.countSilence
        alarms := m.alarms ++ [.receiveTimeout] } := by
  have hle : m.timer.countSilence.timeout ≤ m.timer.countSilence.noReceivePeriod := htimeout
  simp only [Handler.onExpiry, Monitor.handler_timer, Monitor.handler_update,
    Monitor.handler_receiveTimeout, hstarted, hzero, hle, ↓reduceIte]
  rfl

theorem checkSent_monitor (m : Monitor) :
    Monitor.handler.checkSent m =
      { m with
        timer := m.timer.resetSent
        alarms := m.alarms ++ if m.timer.sendCount = 0 then [.sendDue] else [] } := by
  rw [Handler.checkSent, Monitor.handler_timer]
  by_cases h : m.timer.sendCount = 0
  · have hsame : m.timer.resetSent = m.timer := by rw [resetSent, ← h]
    rw [if_pos h, if_pos h, hsame]
    rfl
  · rw [if_neg h, if_neg h, List.append_nil]
    rfl

theorem sendOrSchedule_monitor {m : Monitor} (hstarted : m.timer.started = true) :
    Monitor.handler.sendOrSchedule none m =
      { m with
        timer := m.timer.resetSent.startWait
        alarms := m.alarms ++ if m.timer.sendCount = 0 then [.sendDue] else [] } := by
  have hstill : m.timer.resetSent.started = true := hstarted
  simp only [Handler.sendOrSchedule, checkSent_monitor, Monitor.handler_timer, hstill,
    ↓reduceIte, Monitor.handler_schedule]

/-- What the check for silence leaves, unless it ends the run. -/
def receiveChecked (t : HeartbeatTimer) : HeartbeatTimer :=
  if t.receiveCount = 0 then t.countSilence else t.resetReceived

theorem receiveChecked_watch (t : HeartbeatTimer) :
    t.receiveChecked.started = t.started ∧ t.receiveChecked.timeout = t.timeout ∧
      t.receiveChecked.waits = t.waits := by
  unfold receiveChecked
  split <;> exact ⟨rfl, rfl, rfl⟩

theorem receiveChecked_counts (t : HeartbeatTimer) :
    t.receiveChecked.receiveCount = 0 ∧ t.receiveChecked.noReceivePeriod =
      if t.receiveCount = 0 then t.noReceivePeriod + 1 else 0 := by
  unfold receiveChecked
  split
  · rename_i h
    exact ⟨h, rfl⟩
  · exact ⟨rfl, rfl⟩

theorem onExpiry_going {m : Monitor} (hstarted : m.timer.started = true)
    (h : m.timer.receiveCount ≠ 0 ∨ m.timer.noReceivePeriod + 1 < m.timer.timeout) :
    Monitor.handler.onExpiry none none m =
      { m with
        timer := m.timer.receiveChecked.resetSent.startWait
        alarms := m.alarms ++ if m.timer.sendCount = 0 then [.sendDue] else [] } := by
  rw [Handler.onExpiry, Monitor.handler_timer, if_pos hstarted]
  dsimp only
  by_cases hzero : m.timer.receiveCount = 0
  · have hlt : ¬m.timer.countSilence.timeout ≤ m.timer.countSilence.noReceivePeriod :=
      Nat.not_le.mpr (h.resolve_left (not_not.mpr hzero))
    rw [if_pos hzero, Monitor.handler_update, Monitor.handler_timer, if_neg hlt,
      sendOrSchedule_monitor (m := { m with timer := m.timer.countSilence }) hstarted,
      receiveChecked, if_pos hzero]
    rfl
  · rw [if_neg hzero, Monitor.handler_update,
      sendOrSchedule_monitor (m := { m with timer := m.timer.resetReceived }) hstarted,
      receiveChecked, if_neg hzero]
    rfl

/-- A wait completes, and the timer stays started. -/
theorem tick_eq (hwaits : m.timer.waits ≠ 0) (hstarted : m'.timer.started = true)
    (h : Monitor.handler.onExpiry none none { m with timer := m.timer.waitDone, alarms := [] } =
      m') : m.tick = some { m' with history := m'.history ++ [m'.alarms] } := by
  have hsignal : m'.timer.maybeSignalStopped = m'.timer := by
    rw [maybeSignalStopped, hstarted]
    rfl
  simp only [Monitor.tick, hwaits, ↓reduceIte, Handler.waitCompleted, Monitor.handler_update, h,
    hsignal]

/-! ## Whole runs -/

theorem expected_concat (T : Nat) (ended : List Window) (w : Window) :
    expected T (ended ++ [w]) =
      if Silent T (ended ++ [w]) then [.receiveTimeout]
      else if w.sends = 0 then [.sendDue] else [] := by
  rw [expected, List.getLast?_concat]

/-- One more window has ended. -/
theorem history_concat (T : Nat) (ended : List Window) (w : Window) :
    (List.range (ended ++ [w]).length).map (fun k => expected T ((ended ++ [w]).take (k + 1))) =
      (List.range ended.length).map (fun k => expected T (ended.take (k + 1))) ++
        [expected T (ended ++ [w])] := by
  rw [List.length_append, List.length_singleton, List.range_succ, List.map_append,
    List.map_singleton, List.take_of_length_le (by simp)]
  congr 1
  apply List.map_congr_left
  intro k hk
  rw [List.take_append_of_le_length (List.mem_range.mp hk)]

theorem earlier_concat (h : ∀ k < ended.length, ¬Silent T (ended.take k))
    (hlast : ¬Silent T ended) :
    ∀ k < (ended ++ [w]).length, ¬Silent T ((ended ++ [w]).take k) := by
  intro k hk
  rw [List.length_append, List.length_singleton, Nat.lt_succ_iff] at hk
  rw [List.take_append_of_le_length hk]
  rcases Nat.lt_or_eq_of_le hk with hlt | rfl
  · exact h k hlt
  · rwa [List.take_length]

theorem Follows.tick (h : Follows T ended w m) (htick : m.tick = some m') :
    Follows T (ended ++ [w]) {} m' := by
  have hwaits : m.timer.waits ≠ 0 := by
    intro hz
    rw [Monitor.tick, if_pos hz] at htick
    cases htick
  have hlast : ¬Silent T ended := fun hs => hwaits (by rw [h.waits, if_pos hs])
  have hone : m.timer.waits = 1 := by rw [h.waits, if_neg hlast]
  have hsends : m.timer.sendCount = w.sends := h.sends.resolve_left hlast
  have hearlier := earlier_concat (w := w) h.earlier hlast
  have hsilence := silence_concat ended w
  by_cases htimeout : m.timer.receiveCount = 0 ∧ m.timer.timeout ≤ m.timer.noReceivePeriod + 1
  · obtain ⟨hzero, hle⟩ := htimeout
    rw [← h.receives, if_pos hzero] at hsilence
    have hsilent : Silent T (ended ++ [w]) := by
      rw [silent_iff, hsilence, ← h.quiet, ← h.timeout]
      exact hle
    rw [tick_eq hwaits (by exact h.started) (onExpiry_silent (by exact h.started)
      (by exact hzero) (by exact hle))] at htick
    cases htick
    refine ⟨h.started, h.timeout, hzero, Or.inl hsilent, ?_, ?_, ?_, hearlier⟩
    · rw [hsilence, ← h.quiet]
      rfl
    · rw [if_pos hsilent]
      change m.timer.waits - 1 = 0
      rw [hone]
    · rw [history_concat, expected_concat, if_pos hsilent, ← h.history]
      rfl
  · have hgoing : m.timer.receiveCount ≠ 0 ∨ m.timer.noReceivePeriod + 1 < m.timer.timeout := by
      omega
    have hshort : silence ended < T := by
      rw [silent_iff] at hlast
      omega
    have hsilent : ¬Silent T (ended ++ [w]) := by
      rw [silent_iff, hsilence, ← h.receives]
      rw [h.timeout, h.quiet] at hgoing
      split <;> omega
    obtain ⟨hstarted, htime, hwait⟩ := receiveChecked_watch m.timer.waitDone
    obtain ⟨hreceive, hperiod⟩ := receiveChecked_counts m.timer.waitDone
    rw [tick_eq hwaits (hstarted.trans h.started) (onExpiry_going (by exact h.started)
      (by exact hgoing))] at htick
    cases htick
    refine ⟨hstarted.trans h.started, htime.trans h.timeout, hreceive, Or.inr rfl, ?_, ?_, ?_,
      hearlier⟩
    · rw [hsilence, ← h.receives, ← h.quiet]
      exact hperiod
    · rw [if_neg hsilent]
      change m.timer.waitDone.receiveChecked.waits + 1 = 1
      rw [hwait]
      change m.timer.waits - 1 + 1 = 1
      rw [hone]
    · rw [history_concat, expected_concat, if_neg hsilent, ← h.history, ← hsends]
      rfl

/-- What has been counted is what the windows hold. -/
theorem run_follows (hT : 1 ≤ T) (beats : List Beat) :
    ∀ m, Monitor.run beats (Monitor.started T) = some m → Few beats →
      Follows T (windows beats).1 (windows beats).2 m := by
  induction beats using List.reverseRecOn with
  | nil =>
    intro m hrun _
    cases hrun
    exact Follows.start hT
  | append_singleton beats b ih =>
    intro m hrun hfew
    rw [Monitor.run_concat, Option.bind_eq_some_iff] at hrun
    obtain ⟨m₀, hrun, hstep⟩ := hrun
    have h := ih m₀ hrun hfew.front
    have hsmall := hfew _ (List.mem_append_right _ List.mem_cons_self)
    rw [windows_concat] at hsmall ⊢
    cases b with
    | tick => exact h.tick hstep
    | receive =>
      cases hstep
      refine ⟨h.started, h.timeout, ?_, h.sends, h.quiet, h.waits, h.history, h.earlier⟩
      change (m₀.timer.receiveCount + 1) % 2 ^ 32 = _
      rw [h.receives]
      simp only [windowsStep] at hsmall ⊢
      omega
    | send =>
      cases hstep
      refine ⟨h.started, h.timeout, h.receives, h.sends.imp_right fun hs => ?_, h.quiet,
        h.waits, h.history, h.earlier⟩
      change (m₀.timer.sendCount + 1) % 2 ^ 32 = _
      rw [hs]
      simp only [windowsStep] at hsmall ⊢
      omega

/-- **Heartbeats and timeouts.** In every run of a timer with a timeout of `T` periods, a tick
calls `heartbeat_receive_timeout` alone if the last `T` windows hold no packet from the
peer, else `heartbeat_send_due` alone if the last window holds none to it, else
nothing. So of any two windows in a row that have ended, one holds a packet to the peer, or
a heartbeat was due between them. -/
theorem heartbeat_ticks (T : Nat) (hT : 1 ≤ T) (beats : List Beat) (hfew : Few beats)
    (m : Monitor) (hrun : Monitor.run beats (Monitor.started T) = some m) :
    let ended := (windows beats).1
    m.history.length = ended.length ∧
    (∀ k (hk : k < ended.length), m.history[k]? = some
      (if Silent T (ended.take (k + 1)) then [.receiveTimeout]
      else if ended[k].sends = 0 then [.sendDue] else [])) ∧
    ∀ k (hk : k + 1 < ended.length),
      0 < ended[k].sends ∨ 0 < ended[k + 1].sends ∨ m.history[k]? = some [.sendDue] := by
  intro ended
  have h := run_follows hT beats m hrun hfew
  have hall (k : Nat) (hk : k < ended.length) : m.history[k]? = some
      (if Silent T (ended.take (k + 1)) then [.receiveTimeout]
      else if ended[k].sends = 0 then [.sendDue] else []) := by
    rw [h.history, List.getElem?_map, List.getElem?_range hk, Option.map_some,
      ← List.take_append_getElem hk, expected_concat]
  refine ⟨by rw [h.history, List.length_map, List.length_range], hall, ?_⟩
  intro k hk
  have hgoing := h.earlier (k + 1) hk
  have hk' : k < ended.length := by omega
  by_cases hsent : ended[k].sends = 0
  · right; right
    rw [hall k hk', if_neg hgoing, if_pos hsent]
  · exact Or.inl (Nat.pos_of_ne_zero hsent)

theorem heartbeat_ticks_two :
    ∃ m, Monitor.run [.send, .tick, .receive, .tick, .tick, .tick] (Monitor.started 2) = some m ∧
      m.history[3]? = some [.receiveTimeout] := by
  refine ⟨_, rfl, ?_⟩
  obtain ⟨-, hticks, -⟩ := heartbeat_ticks 2 (by decide)
    [.send, .tick, .receive, .tick, .tick, .tick] (by decide) _ rfl
  exact (hticks 3 (by decide)).trans (by decide)

end SoupBin.HeartbeatTimer
