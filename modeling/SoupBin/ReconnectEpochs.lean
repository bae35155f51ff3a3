import SoupBin.Timers
import SoupBin.Traces
import Mathlib.Data.List.Induction
import Mathlib.Data.List.Nodup

/-!
# Late completions of the reconnect timer

A wait that was cancelled may complete at any later time, as if it had expired,
and after the timer was started again. Here every call, every completion and every
callback is written down, and a callback is traced back to the start that it
answers.
-/

namespace SoupBin.ReconnectTimer

/-- The calls of the user, from outside or from inside a callback. -/
inductive Call where
  | start
  | stop
  deriving DecidableEq, Repr

/-- What is written down: a start that takes effect, with the epoch of its wait. -/
inductive Entry where
  | start (epoch : Nat)
  | stop
  | completed (epoch : Nat) (ec : Option IoError)
  | expired
  | error
  deriving DecidableEq, Repr

structure Journal where
  timer : ReconnectTimer := {}
  trace : List Entry := []

inductive Event where
  | call (c : Call)
  | completed (epoch : Nat) (ec : Option IoError) (inside : List Call)

namespace Journal

def log (entry : Entry) (j : Journal) : Journal := { j with trace := j.trace ++ [entry] }

/-- `inside` is what the user does from inside a callback. -/
def handler (inside : Journal → Journal) : Handler Journal where
  timer := timer
  update f j := { j with timer := f j.timer }
  reconnectTimerError _ _ j := inside (j.log .error)
  reconnectTimerExpired j := inside (j.log .expired)

def start (j : Journal) : Journal :=
  let j' := (handler id).start none j
  if j.timer.started then j' else j'.log (.start j'.timer.epoch)

def stop (j : Journal) : Journal := { j with timer := j.timer.stop }.log .stop

def call (j : Journal) : Call → Journal
  | .start => j.start
  | .stop => j.stop

def calls (cs : List Call) (j : Journal) : Journal := cs.foldl call j

/-- Only a wait that asio holds can complete. -/
def step (j : Journal) : Event → Option Journal
  | .call c => some (j.call c)
  | .completed epoch ec inside =>
    if epoch ∈ j.timer.waits then
      some ((handler (calls inside)).waitCompleted epoch ec (j.log (.completed epoch ec)))
    else none

def run (events : List Event) (j : Journal) : Option Journal := events.foldlM step j

theorem run_concat (events : List Event) (e : Event) (j : Journal) :
    run (events ++ [e]) j = (run events j).bind (·.step e) := by
  rw [run, List.foldlM_append]
  simp [run, Option.bind_eq_bind]

end Journal

/-! ## What is said of a trace -/

def Entry.epoch? : Entry → Option Nat
  | .start epoch => some epoch
  | _ => none

def Entry.completed? : Entry → Option Nat
  | .completed epoch _ => some epoch
  | _ => none

def starts (trace : List Entry) : List Nat := trace.filterMap Entry.epoch?

def completions (trace : List Entry) : List Nat := trace.filterMap Entry.completed?

@[simp] theorem starts_append (trace more : List Entry) :
    starts (trace ++ more) = starts trace ++ starts more := List.filterMap_append

@[simp] theorem completions_append (trace more : List Entry) :
    completions (trace ++ more) = completions trace ++ completions more := List.filterMap_append

def Entry.IsCallback (e : Entry) : Prop := e = .expired ∨ e = .error

/-- Completions alone: no start, no stop and no callback. -/
def Quiet (between : List Entry) : Prop := ∀ e ∈ between, ∃ epoch ec, e = .completed epoch ec

/-- A callback answers the start `n`: it is made by the completion of the wait of that start,
and since then there has been no stop, no other start and no callback. -/
structure Answers (n : Nat) (before : List Entry) (callback : Entry) : Prop where
  since : ∃ front between ec, before = front ++ .start n :: between ++ [.completed n ec] ∧
    Quiet between ∧ callback = if ec.isSome then .error else .expired

/-- A started timer runs on behalf of the last start. -/
structure Filed (t : ReconnectTimer) (trace : List Entry) : Prop where
  epochs : starts trace = List.range' 1 t.epoch
  waits : t.waits.Nodup
  begun : ∀ e ∈ t.waits, e ≤ t.epoch
  ended : ∀ e ∈ completions trace, e ≤ t.epoch
  pending : ∀ e ∈ t.waits, e ∉ completions trace
  completions : (completions trace).Nodup
  live : t.started = true → ∃ front between,
    trace = front ++ .start t.epoch :: between ∧ Quiet between
  answered : ∀ before callback after, trace = before ++ callback :: after →
    callback.IsCallback → ∃ n, Answers n before callback

/-- The counter of the epochs has not wrapped around. -/
def Few (j : Journal) : Prop := (starts j.trace).length < 2 ^ 32

instance (j : Journal) : Decidable (Few j) := inferInstanceAs (Decidable (_ < _))

theorem Few.mono {j j' : Journal} (h : Few j') (hfront : j.trace <+: j'.trace) : Few j := by
  obtain ⟨more, hmore⟩ := hfront
  rw [Few, ← hmore, starts_append, List.length_append] at h
  exact Nat.lt_of_le_of_lt (Nat.le_add_right _ _) h

/-- A callback in a longer trace is one of the shorter one, or the new entry. -/
theorem answered_concat {trace : List Entry} {entry : Entry}
    (h : ∀ before callback after, trace = before ++ callback :: after → callback.IsCallback →
      ∃ n, Answers n before callback)
    (hentry : entry.IsCallback → ∃ n, Answers n trace entry) :
    ∀ before callback after, trace ++ [entry] = before ++ callback :: after →
      callback.IsCallback → ∃ n, Answers n before callback := by
  intro before callback after heq hcallback
  rcases Traces.split_concat heq with ⟨rfl, rfl, -⟩ | ⟨rest, -, htrace⟩
  · exact hentry hcallback
  · exact h before callback rest htrace hcallback

theorem filed_fresh : Filed {} [] := by
  constructor <;> simp [starts, ReconnectTimer.completions]

/-! ## What each step keeps -/

theorem starts_concat {e : Entry} (trace : List Entry) (he : e.epoch? = none) :
    starts (trace ++ [e]) = starts trace := by
  rw [starts_append, starts, starts, List.filterMap_cons_none he]
  simp

theorem completions_concat {e : Entry} (trace : List Entry) (he : e.completed? = none) :
    completions (trace ++ [e]) = completions trace := by
  rw [completions_append, completions, completions, List.filterMap_cons_none he]
  simp

namespace Filed
variable {t : ReconnectTimer} {trace : List Entry}

/-- The timer is no longer started, and a stop or a callback is written down. -/
theorem note (h : Filed t trace) {entry : Entry} (hs : entry.epoch? = none)
    (hc : entry.completed? = none)
    (hentry : entry.IsCallback → ∃ n, Answers n trace entry) :
    Filed (t.setStarted false) (trace ++ [entry]) := by
  have hcompletions := completions_concat trace hc
  refine ⟨(starts_concat trace hs).trans h.epochs, h.waits, h.begun, ?_, ?_, ?_, ?_,
    answered_concat h.answered hentry⟩
  · exact hcompletions ▸ h.ended
  · exact hcompletions ▸ h.pending
  · exact hcompletions ▸ h.completions
  · intro hstarted
    cases hstarted

theorem stop (h : Filed t trace) : Filed t.stop (trace ++ [.stop]) :=
  h.note rfl rfl fun hcallback => by rcases hcallback with h | h <;> cases h

/-- A start begins a wait in an epoch of its own. -/
theorem startWait (h : Filed t trace) (hfew : t.epoch + 1 < 2 ^ 32) :
    Filed (t.setStarted true).startWait (trace ++ [.start (t.epoch + 1)]) := by
  have hepoch : (t.setStarted true).startWait.epoch = t.epoch + 1 := Nat.mod_eq_of_lt hfew
  have hwaits : (t.setStarted true).startWait.waits = t.waits ++ [t.epoch + 1] := by
    rw [← hepoch]
    rfl
  have hcompletions : ReconnectTimer.completions (trace ++ [.start (t.epoch + 1)]) =
      ReconnectTimer.completions trace := completions_concat trace rfl
  refine ⟨?_, ?_, ?_, ?_, ?_, ?_, ?_, ?_⟩
  · rw [starts_append, h.epochs, hepoch, List.range'_concat, Nat.one_mul, Nat.add_comm 1]
    rfl
  · rw [hwaits, List.nodup_append]
    refine ⟨h.waits, List.nodup_singleton _, ?_⟩
    intro e he e' he'
    rw [List.mem_singleton] at he'
    have := h.begun e he
    omega
  · rw [hwaits, hepoch]
    intro e he
    rcases List.mem_append.mp he with he | he
    · exact Nat.le_succ_of_le (h.begun e he)
    · exact Nat.le_of_eq (List.mem_singleton.mp he)
  · rw [hcompletions, hepoch]
    exact fun e he => Nat.le_succ_of_le (h.ended e he)
  · rw [hcompletions, hwaits]
    intro e he hmem
    rcases List.mem_append.mp he with he | he
    · exact h.pending e he hmem
    · have := h.ended e hmem
      rw [List.mem_singleton] at he
      omega
  · exact hcompletions ▸ h.completions
  · intro _
    exact ⟨trace, [], by rw [hepoch], by simp [Quiet]⟩
  · exact answered_concat h.answered fun hcallback => by rcases hcallback with h | h <;> cases h

/-- A completion uses up its wait. -/
theorem waitDone (h : Filed t trace) {epoch : Nat} (ec : Option IoError)
    (hwait : epoch ∈ t.waits) :
    Filed (t.waitDone epoch) (trace ++ [.completed epoch ec]) := by
  have hcompletions : ReconnectTimer.completions (trace ++ [.completed epoch ec]) =
      ReconnectTimer.completions trace ++ [epoch] := completions_append _ _
  refine ⟨(starts_concat trace rfl).trans h.epochs, h.waits.erase epoch, ?_, ?_, ?_, ?_, ?_, ?_⟩
  · exact fun e he => h.begun e (List.mem_of_mem_erase he)
  · rw [hcompletions]
    intro e he
    rcases List.mem_append.mp he with he | he
    · exact h.ended e he
    · exact List.mem_singleton.mp he ▸ h.begun epoch hwait
  · rw [hcompletions]
    intro e he hmem
    have he : e ≠ epoch ∧ e ∈ t.waits := h.waits.mem_erase_iff.mp he
    rcases List.mem_append.mp hmem with hmem | hmem
    · exact h.pending e he.2 hmem
    · exact he.1 (List.mem_singleton.mp hmem)
  · rw [hcompletions, List.nodup_append]
    refine ⟨h.completions, List.nodup_singleton _, ?_⟩
    rintro e he e' he' rfl
    exact h.pending epoch hwait (List.mem_singleton.mp he' ▸ he)
  · intro hstarted
    obtain ⟨front, between, htrace, hquiet⟩ := h.live hstarted
    refine ⟨front, between ++ [.completed epoch ec], by rw [htrace]; simp [ReconnectTimer.waitDone], ?_⟩
    intro e he
    rcases List.mem_append.mp he with he | he
    · exact hquiet e he
    · exact ⟨epoch, ec, List.mem_singleton.mp he⟩
  · exact answered_concat h.answered fun hcallback => by rcases hcallback with h | h <;> cases h

end Filed

/-! ## Whole runs -/

/-- What is written down stays, and the journal stays in order. -/
structure Onward (j j' : Journal) : Prop where
  grows : j.trace <+: j'.trace
  filed : Few j' → Filed j.timer j.trace → Filed j'.timer j'.trace

theorem Onward.refl (j : Journal) : Onward j j := ⟨List.prefix_refl _, fun _ h => h⟩

theorem Onward.trans {a b c : Journal} (h : Onward a b) (h' : Onward b c) : Onward a c :=
  ⟨h.grows.trans h'.grows, fun hfew hfiled => h'.filed hfew (h.filed (hfew.mono h'.grows) hfiled)⟩

theorem onward_start (j : Journal) : Onward j j.start := by
  by_cases hs : j.timer.started = true
  · have hsame : j.start = j := by
      simp [Journal.start, Handler.start, Journal.handler, hs]
    rw [hsame]
    exact .refl j
  · have hstart : j.start = Journal.log (.start ((j.timer.epoch + 1) % 2 ^ 32))
        { j with timer := (j.timer.setStarted true).startWait } := by
      simp [Journal.start, Handler.start, Journal.handler, hs, ReconnectTimer.startWait, setStarted]
    rw [hstart]
    refine ⟨List.prefix_append _ _, fun hfew h => ?_⟩
    have hlength : (starts j.trace).length = j.timer.epoch := by
      rw [h.epochs, List.length_range']
    have hfew : j.timer.epoch + 1 < 2 ^ 32 := by
      rw [Few] at hfew
      simpa [Journal.log, starts, Entry.epoch?, ← hlength] using hfew
    have hnext := h.startWait hfew
    rw [← Nat.mod_eq_of_lt hfew] at hnext
    exact hnext

theorem onward_call (j : Journal) (c : Call) : Onward j (j.call c) := by
  cases c with
  | start => exact onward_start j
  | stop => exact ⟨List.prefix_append _ _, fun _ h => h.stop⟩

theorem onward_calls (cs : List Call) : ∀ j : Journal, Onward j (j.calls cs) := by
  induction cs with
  | nil => exact .refl
  | cons c cs ih => exact fun j => (onward_call j c).trans (ih (j.call c))

/-- The completion of the wait of the last start makes the callback that answers it. -/
theorem answers_last {j : Journal} (h : Filed j.timer j.trace) (hs : j.timer.started = true)
    (ec : Option IoError) :
    Answers j.timer.epoch (j.trace ++ [.completed j.timer.epoch ec])
      (if ec.isSome then .error else .expired) := by
  obtain ⟨front, between, htrace, hquiet⟩ := h.live hs
  exact ⟨front, between, ec, by rw [← htrace], hquiet, rfl⟩

theorem onward_step {j j' : Journal} {e : Event} (hstep : j.step e = some j') : Onward j j' := by
  cases e with
  | call c =>
    cases hstep
    exact onward_call j c
  | completed epoch ec inside =>
    by_cases hwait : epoch ∈ j.timer.waits
    · let done : Journal :=
        Journal.log (.completed epoch ec) { j with timer := j.timer.waitDone epoch }
      have hdone : Onward j done :=
        ⟨List.prefix_append _ _, fun _ h => h.waitDone ec hwait⟩
      let told : Journal := Journal.log (if ec.isSome then .error else .expired)
        { done with timer := done.timer.setStarted false }
      have hj' : j' = if epoch = j.timer.epoch ∧ j.timer.started = true then told.calls inside
          else done := by
        rw [Journal.step, if_pos hwait, Option.some.injEq] at hstep
        rw [← hstep]
        by_cases hlast : epoch = j.timer.epoch
        · by_cases hs : j.timer.started = true
          · cases ec <;> simp [Handler.waitCompleted, Handler.onExpiry, Journal.handler,
              Journal.log, ReconnectTimer.waitDone, setStarted, hlast, hs, told, done]
          · simp [Handler.waitCompleted, Handler.onExpiry, Journal.handler, Journal.log,
              ReconnectTimer.waitDone, hlast, hs, done]
        · simp [Handler.waitCompleted, Journal.handler, Journal.log, ReconnectTimer.waitDone,
            hlast, done]
      rw [hj']
      split
      · rename_i hlast
        obtain ⟨rfl, hs⟩ := hlast
        have htold : Onward j told := by
          refine ⟨hdone.grows.trans (List.prefix_append _ _), fun _ h => ?_⟩
          refine (h.waitDone ec hwait).note ?_ ?_ fun _ => ⟨_, answers_last h hs ec⟩
          · cases ec <;> rfl
          · cases ec <;> rfl
        exact htold.trans (onward_calls inside told)
      · exact hdone
    · rw [Journal.step, if_neg hwait] at hstep
      cases hstep

theorem run_filed (events : List Event) :
    ∀ j, Journal.run events {} = some j → Few j → Filed j.timer j.trace := by
  have hrun : ∀ j, Journal.run events {} = some j → Onward {} j := by
    induction events using List.reverseRecOn with
    | nil =>
      intro j h
      cases h
      exact .refl _
    | append_singleton events e ih =>
      intro j h
      rw [Journal.run_concat, Option.bind_eq_some_iff] at h
      obtain ⟨j₀, hrun, hstep⟩ := h
      exact (ih j₀ hrun).trans (onward_step hstep)
  exact fun j h hfew => (hrun j h).filed hfew filed_fresh

/-! ## Callbacks -/

/-- A stop in front of a callback stands in front of the start that it answers. -/
theorem Answers.behind_stop {n : Nat} {front mid : List Entry} {callback : Entry}
    (h : Answers n (front ++ .stop :: mid) callback) :
    ∃ between ec, .start n :: between ++ [.completed n ec] <:+ mid := by
  obtain ⟨front', between, ec, heq, hquiet, -⟩ := h.since
  have hnot : Entry.stop ∉ .start n :: between ++ [.completed n ec] := by
    intro hmem
    simp only [List.cons_append, List.mem_cons, reduceCtorEq, List.mem_append, List.not_mem_nil,
      or_false, false_or] at hmem
    obtain ⟨_, _, he⟩ := hquiet _ hmem
    cases he
  refine ⟨between, ec, ?_⟩
  rw [List.append_assoc] at heq
  rcases List.append_eq_append_iff.mp heq with ⟨c, -, hc⟩ | ⟨c, -, hc⟩
  · cases c with
    | nil => cases hc
    | cons d c =>
      obtain ⟨-, rfl⟩ := List.cons.inj hc
      exact ⟨c, rfl⟩
  · refine absurd ?_ hnot
    rw [hc]
    simp

/-- **Every callback answers one start.** Whatever is started and stopped, from inside the
callbacks too, and whenever and however the waits complete: a callback is made by the
completion of the wait of a start, with no stop, start or callback since then; the starts
and the completions are all different, so that no start is answered twice; a stop
silences all the starts before it. A start while the timer is started does nothing. -/
theorem callbacks_answer_starts (events : List Event) (j : Journal)
    (hrun : Journal.run events {} = some j) (hfew : Few j) :
    (∀ before callback after, j.trace = before ++ callback :: after → callback.IsCallback →
      ∃ n, Answers n before callback) ∧
    (∀ n before before' callback callback' after after',
      j.trace = before ++ callback :: after → j.trace = before' ++ callback' :: after' →
      Answers n before callback → Answers n before' callback' → before = before') ∧
    (starts j.trace).Nodup ∧
    (∀ front mid callback after, j.trace = front ++ .stop :: mid ++ callback :: after →
      callback.IsCallback →
      ∃ n between ec, .start n :: between ++ [.completed n ec] <:+ mid) ∧
    ∀ (W : Type) (h : Handler W) (fault : Option IoError) (w : W),
      (h.timer w).started = true → h.start fault w = w := by
  have hfiled := run_filed events j hrun hfew
  refine ⟨hfiled.answered, ?_, ?_, ?_, fun _ _ _ _ hs => if_pos hs⟩
  · intro n before before' callback callback' after after' heq heq' h h'
    obtain ⟨front, between, ec, rfl, -, -⟩ := h.since
    obtain ⟨front', between', ec', rfl, -, -⟩ := h'.since
    rw [List.append_assoc, List.singleton_append] at heq heq'
    have hfront := Traces.split_unique (f := Entry.completed?) hfiled.completions heq heq' rfl rfl
    rw [hfront] at heq ⊢
    rw [heq] at heq'
    cases List.append_cancel_left heq'
    rfl
  · rw [hfiled.epochs]
    exact List.nodup_range' 1
  · intro front mid callback after heq hcallback
    obtain ⟨n, hn⟩ := hfiled.answered _ _ _ heq hcallback
    exact ⟨n, hn.behind_stop⟩

/-- The wait that was cancelled completes as if it had expired, and is passed over. -/
theorem callbacks_answer_starts_late :
    ∃ j n, Journal.run [.call .start, .call .stop, .call .start, .completed 1 none [],
        .completed 2 none [.start]] {} = some j ∧
      j.trace = [.start 1, .stop, .start 2, .completed 1 none, .completed 2 none] ++
        .expired :: [.start 3] ∧
      Answers n [.start 1, .stop, .start 2, .completed 1 none, .completed 2 none] .expired := by
  obtain ⟨hanswered, -⟩ := callbacks_answer_starts
    [.call .start, .call .stop, .call .start, .completed 1 none [], .completed 2 none [.start]]
    _ rfl (by decide)
  obtain ⟨n, hn⟩ := hanswered
    [.start 1, .stop, .start 2, .completed 1 none, .completed 2 none] .expired [.start 3] rfl
    (Or.inl rfl)
  exact ⟨_, n, rfl, rfl, hn⟩

end SoupBin.ReconnectTimer
