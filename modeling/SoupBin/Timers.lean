import SoupBin.Types

/-!
# Timers

`Login_timer`, `Heartbeat_timer` and `Reconnect_timer`. asio completes a wait at
any later time, with or without an error, cancelled or not; the waits it still
holds and the `stopped` notifications that are posted are kept beside the
members. Setting the expiry may throw: `fault` is the error it throws with.
-/

namespace SoupBin

/-! ## Login timer -/

structure LoginTimer where
  started : Bool := false
  waitPending : Bool := false
  stoppedSignaled : Bool := false
  waits : Nat := 0
  posted : Nat := 0
  deriving DecidableEq, Repr

namespace LoginTimer

def setStarted (t : LoginTimer) : LoginTimer := { t with started := true }

def startWait (t : LoginTimer) : LoginTimer := { t with waitPending := true, waits := t.waits + 1 }

def waitDone (t : LoginTimer) : LoginTimer := { t with waitPending := false, waits := t.waits - 1 }

/-- A posted notification runs. -/
def notified (t : LoginTimer) : LoginTimer := { t with posted := t.posted - 1 }

def maybeSignalStopped (t : LoginTimer) : LoginTimer :=
  if !t.started && !t.stoppedSignaled && !t.waitPending then
    { t with stoppedSignaled := true, posted := t.posted + 1 }
  else t

def stop (t : LoginTimer) : LoginTimer :=
  if t.started then maybeSignalStopped { t with started := false } else t

structure Handler (W : Type) where
  timer : W → LoginTimer
  update : (LoginTimer → LoginTimer) → W → W
  loginTimerError : IoError → String → W → W
  loginTimerExpired : W → W

namespace Handler
variable {W : Type} (h : Handler W)

def start (fault : Option IoError) (w : W) : W :=
  if (h.timer w).started then w
  else
    let w := h.update setStarted w
    match fault with
    | some ec => h.loginTimerError ec "timer expires_after" w
    | none => h.update startWait w

def onExpiry (ec : Option IoError) (w : W) : W :=
  if (h.timer w).started then
    match ec with
    | some ec => h.loginTimerError ec "timer async_wait" w
    | none => h.loginTimerExpired w
  else w

/-- The completion of `async_wait`. -/
def waitCompleted (ec : Option IoError) (w : W) : W :=
  h.update maybeSignalStopped (h.onExpiry ec (h.update waitDone w))

/-- `I` holds until a wait is over or something fails, and from then on `J`. -/
structure Leads (I J : W → Prop) : Prop where
  still : ∀ w, I w → J w
  update : ∀ f w, I w → I (h.update f w)
  updateAfter : ∀ f w, J w → J (h.update f w)
  loginTimerExpired : ∀ w, I w → J (h.loginTimerExpired w)

structure Keeps (I : W → Prop) : Prop where
  update : ∀ f w, I w → I (h.update f w)
  loginTimerError : ∀ ec operation w, I w → I (h.loginTimerError ec operation w)
  loginTimerExpired : ∀ w, I w → I (h.loginTimerExpired w)

variable {h} {I J : W → Prop}

theorem Leads.start (k : h.Leads I J) (fault : Option IoError) {w : W}
    (hfailed : fault.isSome = true →
      ∀ ec operation w', I w' → J (h.loginTimerError ec operation w'))
    (hw : I w) : J (h.start fault w) := by
  unfold Handler.start
  split
  · exact k.still _ hw
  · have hw := k.update setStarted _ hw
    cases fault with
    | some ec => exact hfailed rfl _ _ _ hw
    | none => exact k.still _ (k.update _ _ hw)

theorem Leads.waitCompleted (k : h.Leads I J) (ec : Option IoError) {w : W}
    (hfailed : (h.timer (h.update waitDone w)).started = true → ec.isSome = true →
      ∀ ec operation w', I w' → J (h.loginTimerError ec operation w'))
    (hw : I w) : J (h.waitCompleted ec w) := by
  have hw := k.update waitDone _ hw
  apply k.updateAfter
  unfold onExpiry
  split
  · rename_i hstarted
    cases ec with
    | some ec => exact hfailed hstarted rfl _ _ _ hw
    | none => exact k.loginTimerExpired _ hw
  · exact k.still _ hw

theorem Keeps.leads (k : h.Keeps I) : h.Leads I I where
  still _ hw := hw
  update := k.update
  updateAfter := k.update
  loginTimerExpired := k.loginTimerExpired

theorem Keeps.start (k : h.Keeps I) (fault : Option IoError) {w : W} (hw : I w) :
    I (h.start fault w) :=
  k.leads.start fault (fun _ => k.loginTimerError) hw

theorem Keeps.waitCompleted (k : h.Keeps I) (ec : Option IoError) {w : W} (hw : I w) :
    I (h.waitCompleted ec w) :=
  k.leads.waitCompleted ec (fun _ _ => k.loginTimerError) hw

end Handler

end LoginTimer

/-! ## Heartbeat timer -/

/-- In seconds. -/
def heartbeatPeriod : Nat := 1
def clientHeartbeatTimeout : Nat := 15
def serverHeartbeatTimeout : Nat := 5

structure HeartbeatTimer where
  timeout : Nat
  noReceivePeriod : Nat := 0
  receiveCount : Nat := 0
  sendCount : Nat := 0
  started : Bool := false
  waitPending : Bool := false
  stoppedSignaled : Bool := false
  waits : Nat := 0
  posted : Nat := 0
  deriving DecidableEq, Repr

namespace HeartbeatTimer

/-- The counters have 32 bits. -/
def incrementReceiveCount (t : HeartbeatTimer) : HeartbeatTimer :=
  { t with receiveCount := (t.receiveCount + 1) % 2 ^ 32 }

def incrementSendCount (t : HeartbeatTimer) : HeartbeatTimer :=
  { t with sendCount := (t.sendCount + 1) % 2 ^ 32 }

def setStarted (t : HeartbeatTimer) : HeartbeatTimer := { t with started := true }

def startWait (t : HeartbeatTimer) : HeartbeatTimer :=
  { t with waitPending := true, waits := t.waits + 1 }

def waitDone (t : HeartbeatTimer) : HeartbeatTimer :=
  { t with waitPending := false, waits := t.waits - 1 }

def notified (t : HeartbeatTimer) : HeartbeatTimer := { t with posted := t.posted - 1 }

def maybeSignalStopped (t : HeartbeatTimer) : HeartbeatTimer :=
  if !t.started && !t.stoppedSignaled && !t.waitPending then
    { t with stoppedSignaled := true, posted := t.posted + 1 }
  else t

def stop (t : HeartbeatTimer) : HeartbeatTimer :=
  if t.started then maybeSignalStopped { t with started := false } else t

/-- With the period that ends now, the peer has been silent for the whole timeout. -/
def expires (t : HeartbeatTimer) : Bool :=
  t.receiveCount = 0 && t.timeout ≤ t.noReceivePeriod + heartbeatPeriod

/-- One more period without a packet from the peer. -/
def countSilence (t : HeartbeatTimer) : HeartbeatTimer :=
  { t with noReceivePeriod := t.noReceivePeriod + heartbeatPeriod }

def resetReceived (t : HeartbeatTimer) : HeartbeatTimer :=
  { t with noReceivePeriod := 0, receiveCount := 0 }

def resetSent (t : HeartbeatTimer) : HeartbeatTimer := { t with sendCount := 0 }

/-- What is done to a timer that runs. -/
inductive Internal : (HeartbeatTimer → HeartbeatTimer) → Prop where
  | startWait : Internal startWait
  | waitDone : Internal waitDone
  | countSilence : Internal countSilence
  | resetReceived : Internal resetReceived
  | resetSent : Internal resetSent
  | maybeSignalStopped : Internal maybeSignalStopped

theorem Internal.started {f : HeartbeatTimer → HeartbeatTimer} (hf : Internal f)
    (t : HeartbeatTimer) : (f t).started = t.started := by
  cases hf with
  | maybeSignalStopped =>
    unfold HeartbeatTimer.maybeSignalStopped
    split <;> rfl
  | _ => rfl

structure Handler (W : Type) where
  timer : W → HeartbeatTimer
  update : (HeartbeatTimer → HeartbeatTimer) → W → W
  heartbeatTimerError : IoError → String → W → W
  heartbeatSendDue : W → W
  heartbeatReceiveTimeout : W → W

namespace Handler
variable {W : Type} (h : Handler W)

def schedule (fault : Option IoError) (w : W) : W :=
  match fault with
  | some ec => h.heartbeatTimerError ec "timer expires_at" w
  | none => h.update startWait w

/-- Two calls may throw: the one here, and the one in `schedule`. -/
def start (fault faultInSchedule : Option IoError) (w : W) : W :=
  if (h.timer w).started then w
  else
    let w := h.update setStarted w
    match fault with
    | some ec => h.heartbeatTimerError ec "timer expires_at" w
    | none => h.schedule faultInSchedule w

/-- The check of `send_count_` in `on_expiry`. -/
def checkSent (w : W) : W :=
  if (h.timer w).sendCount = 0 then h.heartbeatSendDue w else h.update resetSent w

/-- The part of `on_expiry` that follows the check for silence. -/
def sendOrSchedule (fault : Option IoError) (w : W) : W :=
  let w := h.checkSent w
  if (h.timer w).started then h.schedule fault w else w

def onExpiry (ec fault : Option IoError) (w : W) : W :=
  if (h.timer w).started then
    match ec with
    | some ec => h.heartbeatTimerError ec "timer async_wait" w
    | none =>
      if (h.timer w).receiveCount = 0 then
        let w := h.update countSilence w
        if (h.timer w).timeout ≤ (h.timer w).noReceivePeriod then h.heartbeatReceiveTimeout w
        else h.sendOrSchedule fault w
      else h.sendOrSchedule fault (h.update resetReceived w)
  else w

/-- The completion of `async_wait`. -/
def waitCompleted (ec fault : Option IoError) (w : W) : W :=
  h.update maybeSignalStopped (h.onExpiry ec fault (h.update waitDone w))

/-- With the period that ends now, the peer has not been silent for the whole timeout. -/
def Hears (w : W) : Prop :=
  (h.timer w).receiveCount ≠ 0 ∨
    (h.timer (h.update countSilence w)).noReceivePeriod <
      (h.timer (h.update countSilence w)).timeout

/-- `I` holds until the peer has been silent for too long or something fails, and
from then on `J`. -/
structure Leads (I J : W → Prop) : Prop where
  still : ∀ w, I w → J w
  update : ∀ f, Internal f → ∀ w, I w → I (h.update f w)
  signal : ∀ w, J w → J (h.update maybeSignalStopped w)
  heartbeatSendDue : ∀ w, I w → I (h.heartbeatSendDue w)
  heartbeatReceiveTimeout : ∀ w, I w → J (h.heartbeatReceiveTimeout w)

structure Keeps (I : W → Prop) : Prop where
  update : ∀ f, Internal f → ∀ w, I w → I (h.update f w)
  heartbeatTimerError : ∀ ec operation w, I w → I (h.heartbeatTimerError ec operation w)
  heartbeatSendDue : ∀ w, I w → I (h.heartbeatSendDue w)
  heartbeatReceiveTimeout : ∀ w, I w → I (h.heartbeatReceiveTimeout w)

variable {h} {I J : W → Prop}

theorem Leads.schedule (k : h.Leads I J) (fault : Option IoError) {w : W}
    (hfailed : fault.isSome = true →
      ∀ ec operation w', I w' → J (h.heartbeatTimerError ec operation w'))
    (hw : I w) : J (h.schedule fault w) := by
  cases fault with
  | some ec => exact hfailed rfl _ _ _ hw
  | none => exact k.still _ (k.update _ .startWait _ hw)

theorem Leads.start (k : h.Leads I J) (fault faultInSchedule : Option IoError) {w : W}
    (hset : I w → I (h.update setStarted w))
    (hfailed : fault.isSome = true ∨ faultInSchedule.isSome = true →
      ∀ ec operation w', I w' → J (h.heartbeatTimerError ec operation w'))
    (hw : I w) : J (h.start fault faultInSchedule w) := by
  unfold Handler.start
  split
  · exact k.still _ hw
  · have hw := hset hw
    cases fault with
    | some ec => exact hfailed (Or.inl rfl) _ _ _ hw
    | none => exact k.schedule _ (fun hf => hfailed (Or.inr hf)) hw

theorem Leads.sendOrSchedule (k : h.Leads I J) (fault : Option IoError) {w : W}
    (hfailed : fault.isSome = true →
      ∀ ec operation w', I w' → J (h.heartbeatTimerError ec operation w'))
    (hw : I w) : J (h.sendOrSchedule fault w) := by
  have hsent : I (h.checkSent w) := by
    unfold checkSent
    split
    · exact k.heartbeatSendDue _ hw
    · exact k.update _ .resetSent _ hw
  unfold Handler.sendOrSchedule
  dsimp only
  split
  · exact k.schedule _ hfailed hsent
  · exact k.still _ hsent

theorem Leads.waitCompleted (k : h.Leads I J) (ec fault : Option IoError) {w : W}
    (hfailed : (h.timer (h.update waitDone w)).started = true →
      ec.isSome = true ∨ fault.isSome = true ∧ h.Hears (h.update waitDone w) →
        ∀ ec operation w', I w' → J (h.heartbeatTimerError ec operation w'))
    (hw : I w) : J (h.waitCompleted ec fault w) := by
  have hw := k.update _ .waitDone _ hw
  apply k.signal
  unfold onExpiry
  split
  · rename_i hstarted
    cases ec with
    | some ec => exact hfailed hstarted (Or.inl rfl) _ _ _ hw
    | none =>
      have hlate (hheard : h.Hears _) (hf : fault.isSome = true) :=
        hfailed hstarted (Or.inr ⟨hf, hheard⟩)
      dsimp only
      split
      · have hw := k.update _ .countSilence _ hw
        split
        · exact k.heartbeatReceiveTimeout _ hw
        · rename_i hsoon
          exact k.sendOrSchedule _ (hlate (Or.inr (Nat.not_le.mp hsoon))) hw
      · rename_i hheard
        exact k.sendOrSchedule _ (hlate (Or.inl hheard)) (k.update _ .resetReceived _ hw)
  · exact k.still _ hw

theorem Keeps.leads (k : h.Keeps I) : h.Leads I I where
  still _ hw := hw
  update := k.update
  signal := k.update _ .maybeSignalStopped
  heartbeatSendDue := k.heartbeatSendDue
  heartbeatReceiveTimeout := k.heartbeatReceiveTimeout

theorem Keeps.start (k : h.Keeps I) (fault faultInSchedule : Option IoError) {w : W}
    (hset : I w → I (h.update setStarted w)) (hw : I w) :
    I (h.start fault faultInSchedule w) :=
  k.leads.start fault faultInSchedule hset (fun _ => k.heartbeatTimerError) hw

theorem Keeps.waitCompleted (k : h.Keeps I) (ec fault : Option IoError) {w : W} (hw : I w) :
    I (h.waitCompleted ec fault w) :=
  k.leads.waitCompleted ec fault (fun _ _ => k.heartbeatTimerError) hw

end Handler

end HeartbeatTimer

/-! ## Reconnect timer -/

/-- Each outstanding wait remembers the epoch in which it was begun. -/
structure ReconnectTimer where
  started : Bool := false
  epoch : Nat := 0
  waits : List Nat := []
  deriving DecidableEq, Repr

namespace ReconnectTimer

def setStarted (started : Bool) (t : ReconnectTimer) : ReconnectTimer := { t with started := started }

def startWait (t : ReconnectTimer) : ReconnectTimer :=
  let epoch := (t.epoch + 1) % 2 ^ 32
  { t with epoch := epoch, waits := t.waits ++ [epoch] }

def waitDone (epoch : Nat) (t : ReconnectTimer) : ReconnectTimer :=
  { t with waits := t.waits.erase epoch }

def stop (t : ReconnectTimer) : ReconnectTimer := t.setStarted false

structure Handler (W : Type) where
  timer : W → ReconnectTimer
  update : (ReconnectTimer → ReconnectTimer) → W → W
  reconnectTimerError : IoError → String → W → W
  reconnectTimerExpired : W → W

namespace Handler
variable {W : Type} (h : Handler W)

/-- `start`; the delay concerns asio only. -/
def start (fault : Option IoError) (w : W) : W :=
  if (h.timer w).started then w
  else
    match fault with
    | some ec => h.reconnectTimerError ec "reconnect timer expires_after" (h.update (setStarted false) w)
    | none => h.update startWait (h.update (setStarted true) w)

def onExpiry (ec : Option IoError) (w : W) : W :=
  if (h.timer w).started then
    let w := h.update (setStarted false) w
    match ec with
    | some ec => h.reconnectTimerError ec "reconnect timer async_wait" w
    | none => h.reconnectTimerExpired w
  else w

/-- The completion of an `async_wait` begun in `epoch`. -/
def waitCompleted (epoch : Nat) (ec : Option IoError) (w : W) : W :=
  let w := h.update (waitDone epoch) w
  if epoch = (h.timer w).epoch then h.onExpiry ec w else w

structure Keeps (I : W → Prop) : Prop where
  update : ∀ f w, I w → I (h.update f w)
  reconnectTimerError : ∀ ec operation w, I w → I (h.reconnectTimerError ec operation w)
  reconnectTimerExpired : ∀ w, I w → I (h.reconnectTimerExpired w)

variable {h} {I : W → Prop}

theorem Keeps.start (k : h.Keeps I) (fault : Option IoError) {w : W} (hw : I w) :
    I (h.start fault w) := by
  unfold Handler.start
  split
  · exact hw
  · cases fault with
    | some ec => exact k.reconnectTimerError _ _ _ (k.update _ _ hw)
    | none => exact k.update _ _ (k.update _ _ hw)

theorem Keeps.waitCompleted (k : h.Keeps I) (epoch : Nat) (ec : Option IoError) {w : W}
    (hw : I w) : I (h.waitCompleted epoch ec w) := by
  have hw := k.update (waitDone epoch) _ hw
  unfold Handler.waitCompleted
  dsimp only
  split
  · unfold onExpiry
    split
    · have hw := k.update (setStarted false) _ hw
      cases ec with
      | some ec => exact k.reconnectTimerError _ _ _ hw
      | none => exact k.reconnectTimerExpired _ hw
    · exact hw
  · exact hw

end Handler

end ReconnectTimer

end SoupBin
