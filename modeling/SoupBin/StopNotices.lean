import SoupBin.TimerStops
import SoupBin.Traces
import Mathlib.Data.List.Induction

/-!
# One notice for each timer

The owner of a login timer or a heartbeat timer waits for the notice that it has
stopped before it goes away. Here the waits, the calls and the notices of a timer are
written down in their order, for every run that starts the timer once.
-/

namespace SoupBin

inductive TimerCallback where
  | error
  | expired
  | sendDue
  | receiveTimeout
  deriving DecidableEq, Repr

/-- What is written down: a wait begins or completes, the timer is told to stop, it calls its
handler, or it posts the notice. -/
inductive TimerEntry where
  | wait
  | completed
  | stop
  | callback (c : TimerCallback)
  | posted
  deriving DecidableEq, Repr

namespace Watch

/-- What a change of a timer shows. -/
def shown (w w' : Watch) : List TimerEntry :=
  (if w.waits < w'.waits then [.wait] else []) ++ (if w.posted < w'.posted then [.posted] else [])

@[simp] theorem shown_self (w : Watch) : shown w w = [] := by simp [shown]

theorem shown_startWait (w : Watch) : shown w w.startWait = [.wait] := by simp [shown, startWait]

theorem shown_waitDone (w : Watch) : shown w w.waitDone = [] := by
  have hno : ¬w.waits < w.waits - 1 := by omega
  simp [shown, waitDone, hno]

theorem shown_maybeSignalStopped (w : Watch) :
    shown w w.maybeSignalStopped =
      if !w.started && !w.stoppedSignaled && !w.waitPending then [.posted] else [] := by
  unfold maybeSignalStopped
  split <;> simp [shown]

/-- No wait is outstanding behind these entries. -/
def Balanced (trace : List TimerEntry) : Prop := trace.count .wait = trace.count .completed

/-- Where the notice stands: behind a stop, while no wait is outstanding. -/
def Notices (trace : List TimerEntry) : Prop :=
  ∀ before after, trace = before ++ .posted :: after → .stop ∈ before ∧ Balanced before

/-- Behind a stop no wait is begun, and the handler is not called. -/
def Silent (trace : List TimerEntry) : Prop :=
  ∀ before after, trace = before ++ .stop :: after →
    .wait ∉ after ∧ ∀ c, .callback c ∉ after

/-- A timer that was started once, and what has been written down of it. -/
structure Course (w : Watch) (trace : List TimerEntry) : Prop where
  stopped : w.started = false ↔ .stop ∈ trace
  waits : trace.count .wait = trace.count .completed + w.waits
  pending : w.waits = if w.waitPending then 1 else 0
  posted : trace.count .posted = if w.stoppedSignaled then 1 else 0
  signaled : w.stoppedSignaled = true → w.started = false ∧ w.waitPending = false
  notices : Notices trace
  silent : Silent trace

variable {w : Watch} {trace : List TimerEntry}

theorem count_other {e x : TimerEntry} (h : x ≠ e) : (trace ++ [x]).count e = trace.count e := by
  rw [List.count_append, List.count_singleton, beq_false_of_ne h]
  rfl

theorem count_self (e : TimerEntry) : (trace ++ [e]).count e = trace.count e + 1 := by
  rw [List.count_append, List.count_singleton, beq_self_eq_true]
  rfl

theorem Notices.concat (h : Notices trace) {entry : TimerEntry}
    (hentry : entry = .posted → .stop ∈ trace ∧ Balanced trace) : Notices (trace ++ [entry]) := by
  intro before after heq
  rcases Traces.split_concat heq with ⟨rfl, rfl, -⟩ | ⟨rest, -, htrace⟩
  · exact hentry rfl
  · exact h before rest htrace

theorem Silent.concat (h : Silent trace) {entry : TimerEntry}
    (hentry : .stop ∈ trace → entry ≠ .wait ∧ ∀ c, entry ≠ .callback c) :
    Silent (trace ++ [entry]) := by
  intro before after heq
  rcases Traces.split_concat heq with ⟨-, -, rfl⟩ | ⟨rest, rfl, htrace⟩
  · simp
  · obtain ⟨hwait, hcallback⟩ := h before rest htrace
    obtain ⟨hwait', hcallback'⟩ := hentry (by rw [htrace]; simp)
    simp only [List.mem_append, List.mem_singleton, not_or]
    exact ⟨⟨hwait, hwait'.symm⟩, fun c => ⟨hcallback c, (hcallback' c).symm⟩⟩

namespace Course

/-- A timer that has been started, and has not begun its wait. -/
theorem fresh : Course ({} : Watch).setStarted [] := by
  constructor <;> simp [setStarted, Notices, Silent]

theorem startWait (h : Course w trace) (hstarted : w.started = true)
    (hpending : w.waitPending = false) : Course w.startWait (trace ++ [.wait]) := by
  have hwaits : w.waits = 0 := by simpa [hpending] using h.pending
  have hsignaled : w.stoppedSignaled = false := by
    cases hs : w.stoppedSignaled with
    | false => rfl
    | true => exact absurd (h.signaled hs).1 (by simp [hstarted])
  have hnostop : .stop ∉ trace := fun hs => by
    have := h.stopped.mpr hs
    simp [hstarted] at this
  refine ⟨?_, ?_, ?_, ?_, ?_, h.notices.concat (by simp), h.silent.concat fun hs => absurd hs hnostop⟩
  · simpa [Watch.startWait] using h.stopped
  · rw [count_self, count_other (by decide), h.waits]
    rfl
  · simp [Watch.startWait, hwaits]
  · exact (count_other (by decide)).trans h.posted
  · simp [Watch.startWait, hsignaled]

theorem waitDone (h : Course w trace) (hwaits : w.waits ≠ 0) :
    Course w.waitDone (trace ++ [.completed]) := by
  have hpending : w.waitPending = true := by
    cases hp : w.waitPending with
    | true => rfl
    | false => exact absurd (by simpa [hp] using h.pending) hwaits
  have hone : w.waits = 1 := by simpa [hpending] using h.pending
  refine ⟨?_, ?_, ?_, ?_, fun hs => ⟨(h.signaled hs).1, rfl⟩, h.notices.concat (by simp),
    h.silent.concat (by simp)⟩
  · simpa [Watch.waitDone] using h.stopped
  · rw [count_self, count_other (by decide), h.waits, Watch.waitDone, hone]
    rfl
  · simp [Watch.waitDone, hone]
  · exact (count_other (by decide)).trans h.posted

theorem callback (h : Course w trace) (hstarted : w.started = true) (c : TimerCallback) :
    Course w (trace ++ [.callback c]) := by
  have hnostop : .stop ∉ trace := fun hs => by
    have := h.stopped.mpr hs
    simp [hstarted] at this
  refine ⟨?_, ?_, h.pending, ?_, h.signaled, h.notices.concat (by simp),
    h.silent.concat fun hs => absurd hs hnostop⟩
  · simpa using h.stopped
  · rw [count_other (by simp), count_other (by simp)]
    exact h.waits
  · exact (count_other (by simp)).trans h.posted

theorem maybeSignalStopped (h : Course w trace) :
    Course w.maybeSignalStopped (trace ++ shown w w.maybeSignalStopped) := by
  rw [shown_maybeSignalStopped]
  unfold Watch.maybeSignalStopped
  split
  · rename_i hsignal
    simp only [Bool.and_eq_true, Bool.not_eq_true'] at hsignal
    obtain ⟨⟨hstarted, hsignaled⟩, hpending⟩ := hsignal
    have hbalanced : Balanced trace := by simpa [hpending, Balanced, h.pending] using h.waits
    refine ⟨?_, ?_, h.pending, ?_, fun _ => ⟨hstarted, hpending⟩,
      h.notices.concat fun _ => ⟨h.stopped.mp hstarted, hbalanced⟩, h.silent.concat (by simp)⟩
    · simpa using h.stopped
    · rw [count_other (by decide), count_other (by decide)]
      exact h.waits
    · rw [count_self, h.posted, hsignaled]
      rfl
  · rw [List.append_nil]
    exact h

/-- The first stop ends the timer, and every later one changes nothing. -/
theorem stop (h : Course w trace) :
    Course w.stop (trace ++ .stop :: shown w w.stop) := by
  have hstopped : Course { w with started := false } (trace ++ [.stop]) := by
    refine ⟨by simp, ?_, h.pending, ?_, fun hs => ⟨rfl, (h.signaled hs).2⟩,
      h.notices.concat (by simp), h.silent.concat (by simp)⟩
    · rw [count_other (by decide), count_other (by decide)]
      exact h.waits
    · exact (count_other (by decide)).trans h.posted
  unfold Watch.stop
  split
  · have hsignal := hstopped.maybeSignalStopped
    rw [List.append_assoc] at hsignal
    exact hsignal
  · rename_i hstarted
    have hsame : { w with started := false } = w := by
      rw [Bool.not_eq_true] at hstarted
      rw [← hstarted]
    rw [hsame] at hstopped
    rw [shown_self]
    exact hstopped

end Course

theorem stop_waitPending (w : Watch) : w.stop.waitPending = w.waitPending := by
  unfold Watch.stop Watch.maybeSignalStopped
  split
  · split <;> rfl
  · rfl

end Watch

/-! ## A timer and what is written down of it -/

structure Diary (T : Type) where
  timer : T
  trace : List TimerEntry := []

namespace Diary
variable {T : Type} (watch : T → Watch)

def log (entry : TimerEntry) (d : Diary T) : Diary T := { d with trace := d.trace ++ [entry] }

def update (f : T → T) (d : Diary T) : Diary T where
  timer := f d.timer
  trace := d.trace ++ Watch.shown (watch d.timer) (watch (f d.timer))

/-- The timer is told to stop, any number of times. -/
def stops (stop : T → T) : Nat → Diary T → Diary T
  | 0, d => d
  | n + 1, d => stops stop n ((d.log .stop).update watch stop)

def Kept (d : Diary T) : Prop := Watch.Course (watch d.timer) d.trace

/-- While nothing completes, a timer that has ended has posted its notice. -/
def Settled (d : Diary T) : Prop := (watch d.timer).Due false

variable {watch} {d : Diary T}

theorem Kept.same (h : d.Kept watch) {f : T → T} (hf : watch (f d.timer) = watch d.timer) :
    (d.update watch f).Kept watch := by
  rw [Kept, update, hf, Watch.shown_self, List.append_nil]
  exact h

theorem Kept.startWait (h : d.Kept watch) {f : T → T}
    (hf : watch (f d.timer) = (watch d.timer).startWait) (hstarted : (watch d.timer).started = true)
    (hpending : (watch d.timer).waitPending = false) : (d.update watch f).Kept watch := by
  rw [Kept, update, hf, Watch.shown_startWait]
  exact Watch.Course.startWait h hstarted hpending

theorem Kept.waitDone (h : d.Kept watch) {f : T → T}
    (hf : watch (f d.timer) = (watch d.timer).waitDone) (hwaits : (watch d.timer).waits ≠ 0) :
    ((d.log .completed).update watch f).Kept watch := by
  rw [Kept, update, log, hf, Watch.shown_waitDone, List.append_nil]
  exact Watch.Course.waitDone h hwaits

theorem Kept.maybeSignalStopped (h : d.Kept watch) {f : T → T}
    (hf : watch (f d.timer) = (watch d.timer).maybeSignalStopped) :
    (d.update watch f).Kept watch ∧ (d.update watch f).Settled watch := by
  rw [Kept, Settled, update, hf]
  exact ⟨Watch.Course.maybeSignalStopped h, Watch.due_maybeSignalStopped _ _⟩

theorem Kept.stop (h : d.Kept watch) {stop : T → T}
    (hstop : ∀ t, watch (stop t) = (watch t).stop) :
    ((d.log .stop).update watch stop).Kept watch := by
  rw [Kept, update, hstop, log, List.append_assoc]
  exact Watch.Course.stop h

theorem Settled.stop (h : d.Settled watch) {stop : T → T}
    (hstop : ∀ t, watch (stop t) = (watch t).stop) :
    ((d.log .stop).update watch stop).Settled watch := by
  rw [Settled, update, hstop]
  exact Watch.Due.stop h

/-- The handler is called, and may tell the timer to stop from inside the call. -/
theorem Kept.callback (h : d.Kept watch) (hstarted : (watch d.timer).started = true)
    (c : TimerCallback) {stop : T → T} (hstop : ∀ t, watch (stop t) = (watch t).stop) (n : Nat) :
    ((d.log (.callback c)).stops watch stop n).Kept watch := by
  have hcalled : (d.log (.callback c)).Kept watch := Watch.Course.callback h hstarted c
  generalize d.log (.callback c) = d' at hcalled
  induction n generalizing d' with
  | zero => exact hcalled
  | succ n ih => exact ih _ (hcalled.stop hstop)

theorem stops_waitPending {stop : T → T} (hstop : ∀ t, watch (stop t) = (watch t).stop) (n : Nat) :
    ∀ d : Diary T, (watch (d.stops watch stop n).timer).waitPending =
      (watch d.timer).waitPending := by
  induction n with
  | zero => exact fun _ => rfl
  | succ n ih =>
    intro d
    rw [stops, ih]
    change (watch (stop d.timer)).waitPending = _
    rw [hstop, Watch.stop_waitPending]

end Diary

/-- What the owner of a timer relies on. -/
structure StopsOnce (trace : List TimerEntry) : Prop where
  once : .stop ∈ trace → Watch.Balanced trace → trace.count .posted = 1
  atMost : trace.count .posted ≤ 1
  notices : Watch.Notices trace
  silent : Watch.Silent trace

theorem Diary.Kept.stopsOnce {T : Type} {watch : T → Watch} {d : Diary T} (h : d.Kept watch)
    (hs : d.Settled watch) : StopsOnce d.trace := by
  have hposted := Watch.Course.posted h
  refine ⟨fun hstop hbalanced => ?_, by rw [hposted]; split <;> omega, Watch.Course.notices h,
    Watch.Course.silent h⟩
  have hstarted : (watch d.timer).started = false := (Watch.Course.stopped h).mpr hstop
  have hpending : (watch d.timer).waitPending = false := by
    cases hp : (watch d.timer).waitPending with
    | false => rfl
    | true =>
      have hwaits := Watch.Course.waits h
      rw [Watch.Course.pending h, hp, hbalanced] at hwaits
      exact absurd hwaits (by simp)
  have hsignaled : (watch d.timer).stoppedSignaled = true := by
    rcases hs rfl with h | h | h
    · rw [hstarted] at h
      cases h
    · rw [hpending] at h
      cases h
    · exact h
  rw [hposted, if_pos hsignaled]

/-! ## The two timers -/

namespace LoginTimer

inductive Event where
  | stop
  | completed (ec : Option IoError) (inside : Nat)

/-- `inside` is how often the timer is told to stop from inside a call of the handler. -/
def diary (inside : Nat) : Handler (Diary LoginTimer) where
  timer := Diary.timer
  update := Diary.update watch
  loginTimerError _ _ d := (d.log (.callback .error)).stops watch stop inside
  loginTimerExpired d := (d.log (.callback .expired)).stops watch stop inside

def begun : Diary LoginTimer := (diary 0).start none { timer := {} }

def step (d : Diary LoginTimer) : Event → Option (Diary LoginTimer)
  | .stop => some ((d.log .stop).update watch stop)
  | .completed ec inside =>
    if d.timer.waits = 0 then none else some ((diary inside).waitCompleted ec (d.log .completed))

def run (events : List Event) : Option (Diary LoginTimer) := events.foldlM step begun

theorem step_kept {d d' : Diary LoginTimer} {e : Event} (h : d.Kept watch)
    (hs : d.Settled watch) (hstep : step d e = some d') : d'.Kept watch ∧ d'.Settled watch := by
  cases e with
  | stop =>
    cases hstep
    exact ⟨h.stop watch_stop, hs.stop watch_stop⟩
  | completed ec inside =>
    rw [step] at hstep
    split at hstep
    · cases hstep
    · rename_i hwaits
      cases hstep
      have hdone : ((d.log .completed).update watch waitDone).Kept watch := h.waitDone rfl hwaits
      refine Diary.Kept.maybeSignalStopped (f := maybeSignalStopped) ?_
        (watch_maybeSignalStopped _)
      unfold Handler.onExpiry
      split
      · rename_i hstarted
        cases ec with
        | none => exact hdone.callback hstarted _ watch_stop inside
        | some ec => exact hdone.callback hstarted _ watch_stop inside
      · exact hdone

theorem run_kept (events : List Event) :
    ∀ d, run events = some d → d.Kept watch ∧ d.Settled watch := by
  induction events using List.reverseRecOn with
  | nil =>
    intro d h
    cases h
    exact ⟨Watch.Course.fresh.startWait rfl rfl, fun _ => Or.inl rfl⟩
  | append_singleton events e ih =>
    intro d h
    rw [run, List.foldlM_append, Option.bind_eq_bind, Option.bind_eq_some_iff] at h
    obtain ⟨d₀, hrun, hstep⟩ := h
    rw [List.foldlM_cons, Option.bind_eq_bind, Option.bind_eq_some_iff] at hstep
    obtain ⟨d₁, hstep, hd⟩ := hstep
    cases hd
    exact step_kept (ih d₀ hrun).1 (ih d₀ hrun).2 hstep

end LoginTimer

namespace HeartbeatTimer

inductive Event where
  | receive
  | send
  | stop
  | completed (ec : Option IoError) (inside : Nat)

def diary (inside : Nat) : Handler (Diary HeartbeatTimer) where
  timer := Diary.timer
  update := Diary.update watch
  heartbeatTimerError _ _ d := (d.log (.callback .error)).stops watch stop inside
  heartbeatSendDue d := (d.log (.callback .sendDue)).stops watch stop inside
  heartbeatReceiveTimeout d := (d.log (.callback .receiveTimeout)).stops watch stop inside

def begun (timeout : Nat) : Diary HeartbeatTimer :=
  (diary 0).start none none { timer := { timeout := timeout } }

def stepEvent (d : Diary HeartbeatTimer) : Event → Option (Diary HeartbeatTimer)
  | .receive => some { d with timer := d.timer.incrementReceiveCount }
  | .send => some { d with timer := d.timer.incrementSendCount }
  | .stop => some ((d.log .stop).update watch stop)
  | .completed ec inside =>
    if d.timer.waits = 0 then none
    else some ((diary inside).waitCompleted ec none (d.log .completed))

def run (timeout : Nat) (events : List Event) : Option (Diary HeartbeatTimer) :=
  events.foldlM stepEvent (begun timeout)

theorem sendOrSchedule_kept {d : Diary HeartbeatTimer} (h : d.Kept watch)
    (hstarted : d.timer.started = true) (hpending : d.timer.waitPending = false) (inside : Nat) :
    ((diary inside).sendOrSchedule none d).Kept watch := by
  have hsent : ((diary inside).checkSent d).Kept watch ∧
      ((diary inside).checkSent d).timer.waitPending = false := by
    unfold Handler.checkSent
    split
    · exact ⟨h.callback hstarted _ watch_stop inside,
        (Diary.stops_waitPending watch_stop inside _).trans hpending⟩
    · exact ⟨h.same (watch_resetSent _), hpending⟩
  unfold Handler.sendOrSchedule
  dsimp only
  split
  · rename_i hstill
    exact hsent.1.startWait (watch_startWait _) hstill hsent.2
  · exact hsent.1

theorem step_kept {d d' : Diary HeartbeatTimer} {e : Event} (h : d.Kept watch)
    (hs : d.Settled watch) (hstep : stepEvent d e = some d') :
    d'.Kept watch ∧ d'.Settled watch := by
  cases e with
  | receive | send =>
    cases hstep
    exact ⟨h, hs⟩
  | stop =>
    cases hstep
    exact ⟨h.stop watch_stop, hs.stop watch_stop⟩
  | completed ec inside =>
    rw [stepEvent] at hstep
    split at hstep
    · cases hstep
    · rename_i hwaits
      cases hstep
      have hdone : ((d.log .completed).update watch waitDone).Kept watch := h.waitDone rfl hwaits
      refine Diary.Kept.maybeSignalStopped (f := maybeSignalStopped) ?_
        (watch_maybeSignalStopped _)
      unfold Handler.onExpiry
      split
      · rename_i hstarted
        cases ec with
        | some ec => exact hdone.callback hstarted _ watch_stop inside
        | none =>
          dsimp only
          split
          · have hsilent :
                (((d.log .completed).update watch waitDone).update watch countSilence).Kept watch :=
              hdone.same (watch_countSilence _)
            split
            · exact hsilent.callback hstarted _ watch_stop inside
            · exact sendOrSchedule_kept hsilent hstarted rfl inside
          · exact sendOrSchedule_kept (hdone.same (watch_resetReceived _)) hstarted rfl inside
      · exact hdone

theorem run_kept (timeout : Nat) (events : List Event) :
    ∀ d, run timeout events = some d → d.Kept watch ∧ d.Settled watch := by
  induction events using List.reverseRecOn with
  | nil =>
    intro d h
    cases h
    exact ⟨Watch.Course.fresh.startWait rfl rfl, fun _ => Or.inl rfl⟩
  | append_singleton events e ih =>
    intro d h
    rw [run, List.foldlM_append, Option.bind_eq_bind, Option.bind_eq_some_iff] at h
    obtain ⟨d₀, hrun, hstep⟩ := h
    rw [List.foldlM_cons, Option.bind_eq_bind, Option.bind_eq_some_iff] at hstep
    obtain ⟨d₁, hstep, hd⟩ := hstep
    cases hd
    exact step_kept (ih d₀ hrun).1 (ih d₀ hrun).2 hstep

end HeartbeatTimer

/-- **One notice.** In every run that starts a login timer or a heartbeat timer once, whenever
it is told to stop and however its waits complete: once it has been told to stop and no wait
is outstanding, the notice has been posted exactly once; it is posted behind a stop and
while no wait is outstanding; behind the first stop no wait is begun and the handler is
not called. -/
theorem timers_stop_once (timeout : Nat) :
    (∀ events d, LoginTimer.run events = some d → StopsOnce d.trace) ∧
    ∀ events d, HeartbeatTimer.run timeout events = some d → StopsOnce d.trace :=
  ⟨fun events d h => (LoginTimer.run_kept events d h).1.stopsOnce (LoginTimer.run_kept events d h).2,
    fun events d h => (HeartbeatTimer.run_kept timeout events d h).1.stopsOnce
      (HeartbeatTimer.run_kept timeout events d h).2⟩

/-- Either timer is told to stop twice, from inside its first call. -/
theorem timers_stop_once_inside :
    (∃ d, LoginTimer.run [.completed none 2, .stop] = some d ∧
      d.trace = [.wait, .completed, .callback .expired, .stop, .posted, .stop, .stop] ∧
      StopsOnce d.trace) ∧
    ∃ d, HeartbeatTimer.run 5 [.send, .completed none 0, .completed none 2, .stop] = some d ∧
      d.trace = [.wait, .completed, .wait, .completed, .callback .sendDue, .stop, .posted, .stop,
        .stop] ∧ StopsOnce d.trace :=
  ⟨⟨_, rfl, rfl, (timers_stop_once 5).1 [.completed none 2, .stop] _ rfl⟩,
    _, rfl, rfl, (timers_stop_once 5).2 [.send, .completed none 0, .completed none 2, .stop] _ rfl⟩

end SoupBin
