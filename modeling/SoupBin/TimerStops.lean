import SoupBin.Timers

/-!
# When a timer has stopped

What the login timer and the heartbeat timer have in common: they are started
and stopped, asio holds their waits, and `stopped` is posted once the timer is
neither started nor waiting. Their owner keeps a flag that the notification sets.
-/

namespace SoupBin

/-- A timer without its counters. -/
structure Watch where
  started : Bool := false
  waitPending : Bool := false
  stoppedSignaled : Bool := false
  waits : Nat := 0
  posted : Nat := 0

namespace Watch

def setStarted (w : Watch) : Watch := { w with started := true }

def startWait (w : Watch) : Watch := { w with waitPending := true, waits := w.waits + 1 }

def waitDone (w : Watch) : Watch := { w with waitPending := false, waits := w.waits - 1 }

def notified (w : Watch) : Watch := { w with posted := w.posted - 1 }

def maybeSignalStopped (w : Watch) : Watch :=
  if !w.started && !w.stoppedSignaled && !w.waitPending then
    { w with stoppedSignaled := true, posted := w.posted + 1 }
  else w

def stop (w : Watch) : Watch :=
  if w.started then maybeSignalStopped { w with started := false } else w

/-- A wait that is pending is held by asio, and a notification that was posted
is still on its way or has set the flag. -/
structure Sound (w : Watch) (stopped : Bool) : Prop where
  waiting : w.waitPending = true → 0 < w.waits
  told : w.stoppedSignaled = true → 0 < w.posted ∨ stopped = true

/-- While the flag is not set, something will still set it. -/
def Due (w : Watch) (stopped : Bool) : Prop :=
  stopped = false → w.started = true ∨ w.waitPending = true ∨ w.stoppedSignaled = true

variable {w : Watch} {stopped : Bool}

theorem Sound.fresh (stopped : Bool) : Sound {} stopped := by
  constructor <;> simp

theorem Sound.maybeSignalStopped (h : w.Sound stopped) : w.maybeSignalStopped.Sound stopped := by
  unfold Watch.maybeSignalStopped
  split
  · exact ⟨h.waiting, fun _ => Or.inl (Nat.succ_pos _)⟩
  · exact h

theorem due_maybeSignalStopped (w : Watch) (stopped : Bool) : w.maybeSignalStopped.Due stopped := by
  intro _
  obtain ⟨started, waitPending, stoppedSignaled, waits, posted⟩ := w
  cases started <;> cases waitPending <;> cases stoppedSignaled <;> simp [Watch.maybeSignalStopped]

theorem maybeSignalStopped_started (w : Watch) : w.maybeSignalStopped.started = w.started := by
  unfold Watch.maybeSignalStopped
  split <;> rfl

theorem Sound.stop (h : w.Sound stopped) : w.stop.Sound stopped := by
  unfold Watch.stop
  split
  · have hstopped : Sound { w with started := false } stopped := ⟨h.waiting, h.told⟩
    exact hstopped.maybeSignalStopped
  · exact h

theorem Due.stop (h : w.Due stopped) : w.stop.Due stopped := by
  unfold Watch.stop
  split
  · exact due_maybeSignalStopped _ _
  · exact h

theorem stop_started (w : Watch) : w.stop.started = false := by
  unfold Watch.stop
  split
  · exact maybeSignalStopped_started _
  · rename_i h
    simpa using h

theorem stop_fresh : ({} : Watch).stop = {} := rfl

theorem Sound.startWait (h : w.Sound stopped) : w.startWait.Sound stopped :=
  ⟨fun _ => Nat.succ_pos _, h.told⟩

theorem Sound.waitDone (h : w.Sound stopped) : w.waitDone.Sound stopped := by
  constructor
  · intro hw
    cases hw
  · exact h.told

/-- Nothing is on its way any more, so the flag is set. -/
theorem Due.flag_set (h : w.Due stopped) (hs : w.Sound stopped) (hstarted : w.started = false)
    (hwaits : w.waits = 0) (hposted : w.posted = 0) : stopped = true := by
  cases hf : stopped with
  | true => rfl
  | false =>
    rcases h hf with h | h | h
    · rw [hstarted] at h
      cases h
    · have := hs.waiting h
      omega
    · rcases hs.told h with h | h
      · omega
      · rw [hf] at h
        cases h

end Watch

/-! ## The two timers -/

namespace LoginTimer

def watch (t : LoginTimer) : Watch :=
  ⟨t.started, t.waitPending, t.stoppedSignaled, t.waits, t.posted⟩

@[simp] theorem watch_setStarted (t : LoginTimer) : t.setStarted.watch = t.watch.setStarted := rfl

@[simp] theorem watch_startWait (t : LoginTimer) : t.startWait.watch = t.watch.startWait := rfl

@[simp] theorem watch_waitDone (t : LoginTimer) : t.waitDone.watch = t.watch.waitDone := rfl

@[simp] theorem watch_notified (t : LoginTimer) : t.notified.watch = t.watch.notified := rfl

@[simp] theorem watch_maybeSignalStopped (t : LoginTimer) :
    t.maybeSignalStopped.watch = t.watch.maybeSignalStopped :=
  apply_ite watch _ _ _

@[simp] theorem watch_stop (t : LoginTimer) : t.stop.watch = t.watch.stop := by
  unfold stop Watch.stop
  split
  · rename_i h
    rw [watch_maybeSignalStopped, if_pos (show t.watch.started = true from h)]
    rfl
  · rename_i h
    rw [if_neg (show ¬t.watch.started = true from h)]

end LoginTimer

namespace HeartbeatTimer

def watch (t : HeartbeatTimer) : Watch :=
  ⟨t.started, t.waitPending, t.stoppedSignaled, t.waits, t.posted⟩

@[simp] theorem watch_setStarted (t : HeartbeatTimer) :
    t.setStarted.watch = t.watch.setStarted := rfl

@[simp] theorem watch_startWait (t : HeartbeatTimer) : t.startWait.watch = t.watch.startWait := rfl

@[simp] theorem watch_waitDone (t : HeartbeatTimer) : t.waitDone.watch = t.watch.waitDone := rfl

@[simp] theorem watch_notified (t : HeartbeatTimer) : t.notified.watch = t.watch.notified := rfl

@[simp] theorem watch_incrementReceiveCount (t : HeartbeatTimer) :
    t.incrementReceiveCount.watch = t.watch := rfl

@[simp] theorem watch_incrementSendCount (t : HeartbeatTimer) :
    t.incrementSendCount.watch = t.watch := rfl

@[simp] theorem watch_countSilence (t : HeartbeatTimer) : t.countSilence.watch = t.watch := rfl

@[simp] theorem watch_resetReceived (t : HeartbeatTimer) : t.resetReceived.watch = t.watch := rfl

@[simp] theorem watch_resetSent (t : HeartbeatTimer) : t.resetSent.watch = t.watch := rfl

@[simp] theorem watch_maybeSignalStopped (t : HeartbeatTimer) :
    t.maybeSignalStopped.watch = t.watch.maybeSignalStopped :=
  apply_ite watch _ _ _

@[simp] theorem watch_stop (t : HeartbeatTimer) : t.stop.watch = t.watch.stop := by
  unfold stop Watch.stop
  split
  · rename_i h
    rw [watch_maybeSignalStopped, if_pos (show t.watch.started = true from h)]
    rfl
  · rename_i h
    rw [if_neg (show ¬t.watch.started = true from h)]

end HeartbeatTimer

end SoupBin
