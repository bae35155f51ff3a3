import SoupBin.Socket
import SoupBin.Timers

/-!
# Two owners side by side

A timer or a socket does not know its owner. What relates two owners, and is kept
by everything they are asked to do, is kept by every completion: an invariant is
the case of one owner taken twice.
-/

namespace SoupBin

/-! ## Timers -/

namespace LoginTimer.Handler
variable {W W' : Type} (h : Handler W) (h' : Handler W') (R : W → W' → Prop)

/-- The owners have the same login timer, and what they do keeps them related. -/
structure Relates : Prop where
  timer : ∀ {w w'}, R w w' → h'.timer w' = h.timer w
  update : ∀ f {w w'}, R w w' → R (h.update f w) (h'.update f w')
  loginTimerError : ∀ ec operation {w w'}, R w w' →
    R (h.loginTimerError ec operation w) (h'.loginTimerError ec operation w')
  loginTimerExpired : ∀ {w w'}, R w w' → R (h.loginTimerExpired w) (h'.loginTimerExpired w')

variable {h h' R}

theorem Relates.start (k : Relates h h' R) (fault : Option IoError) {w : W} {w' : W'}
    (hw : R w w') : R (h.start fault w) (h'.start fault w') := by
  unfold Handler.start
  rw [k.timer hw]
  split
  · exact hw
  · have hw := k.update setStarted hw
    cases fault with
    | some ec => exact k.loginTimerError _ _ hw
    | none => exact k.update _ hw

theorem Relates.waitCompleted (k : Relates h h' R) (ec : Option IoError) {w : W} {w' : W'}
    (hw : R w w') : R (h.waitCompleted ec w) (h'.waitCompleted ec w') := by
  have hw := k.update waitDone hw
  apply k.update
  unfold onExpiry
  rw [k.timer hw]
  split
  · cases ec with
    | some ec => exact k.loginTimerError _ _ hw
    | none => exact k.loginTimerExpired hw
  · exact hw

end LoginTimer.Handler

namespace HeartbeatTimer.Handler
variable {W W' : Type} (h : Handler W) (h' : Handler W') (R : W → W' → Prop)

/-- The owners have the same heartbeat timer, and what they do keeps them related. -/
structure Relates : Prop where
  timer : ∀ {w w'}, R w w' → h'.timer w' = h.timer w
  update : ∀ f {w w'}, R w w' → R (h.update f w) (h'.update f w')
  heartbeatTimerError : ∀ ec operation {w w'}, R w w' →
    R (h.heartbeatTimerError ec operation w) (h'.heartbeatTimerError ec operation w')
  heartbeatSendDue : ∀ {w w'}, R w w' → R (h.heartbeatSendDue w) (h'.heartbeatSendDue w')
  heartbeatReceiveTimeout : ∀ {w w'}, R w w' →
    R (h.heartbeatReceiveTimeout w) (h'.heartbeatReceiveTimeout w')

variable {h h' R}

theorem Relates.schedule (k : Relates h h' R) (fault : Option IoError) {w : W} {w' : W'}
    (hw : R w w') : R (h.schedule fault w) (h'.schedule fault w') := by
  cases fault with
  | some ec => exact k.heartbeatTimerError _ _ hw
  | none => exact k.update _ hw

theorem Relates.start (k : Relates h h' R) (fault faultInSchedule : Option IoError) {w : W}
    {w' : W'} (hw : R w w') :
    R (h.start fault faultInSchedule w) (h'.start fault faultInSchedule w') := by
  unfold Handler.start
  rw [k.timer hw]
  split
  · exact hw
  · have hw := k.update setStarted hw
    cases fault with
    | some ec => exact k.heartbeatTimerError _ _ hw
    | none => exact k.schedule _ hw

theorem Relates.checkSent (k : Relates h h' R) {w : W} {w' : W'} (hw : R w w') :
    R (h.checkSent w) (h'.checkSent w') := by
  unfold Handler.checkSent
  rw [k.timer hw]
  split
  · exact k.heartbeatSendDue hw
  · exact k.update _ hw

theorem Relates.sendOrSchedule (k : Relates h h' R) (fault : Option IoError) {w : W} {w' : W'}
    (hw : R w w') : R (h.sendOrSchedule fault w) (h'.sendOrSchedule fault w') := by
  have hsent := k.checkSent hw
  unfold Handler.sendOrSchedule
  dsimp only
  rw [k.timer hsent]
  split
  · exact k.schedule _ hsent
  · exact hsent

theorem Relates.waitCompleted (k : Relates h h' R) (ec fault : Option IoError) {w : W} {w' : W'}
    (hw : R w w') : R (h.waitCompleted ec fault w) (h'.waitCompleted ec fault w') := by
  have hw := k.update waitDone hw
  apply k.update
  unfold onExpiry
  rw [k.timer hw]
  split
  · cases ec with
    | some ec => exact k.heartbeatTimerError _ _ hw
    | none =>
      dsimp only
      split
      · have hw := k.update countSilence hw
        rw [k.timer hw]
        split
        · exact k.heartbeatReceiveTimeout hw
        · exact k.sendOrSchedule _ hw
      · exact k.sendOrSchedule _ (k.update resetReceived hw)
  · exact hw

end HeartbeatTimer.Handler

namespace ReconnectTimer.Handler
variable {W W' : Type} (h : Handler W) (h' : Handler W') (R : W → W' → Prop)

/-- The owners have the same reconnect timer, and what they do keeps them related. -/
structure Relates : Prop where
  timer : ∀ {w w'}, R w w' → h'.timer w' = h.timer w
  update : ∀ f {w w'}, R w w' → R (h.update f w) (h'.update f w')
  reconnectTimerError : ∀ ec operation {w w'}, R w w' →
    R (h.reconnectTimerError ec operation w) (h'.reconnectTimerError ec operation w')
  reconnectTimerExpired : ∀ {w w'}, R w w' →
    R (h.reconnectTimerExpired w) (h'.reconnectTimerExpired w')

variable {h h' R}

theorem Relates.start (k : Relates h h' R) (fault : Option IoError) {w : W} {w' : W'}
    (hw : R w w') : R (h.start fault w) (h'.start fault w') := by
  unfold Handler.start
  rw [k.timer hw]
  split
  · exact hw
  · cases fault with
    | some ec => exact k.reconnectTimerError _ _ (k.update _ hw)
    | none => exact k.update _ (k.update _ hw)

theorem Relates.waitCompleted (k : Relates h h' R) (epoch : Nat) (ec : Option IoError) {w : W}
    {w' : W'} (hw : R w w') : R (h.waitCompleted epoch ec w) (h'.waitCompleted epoch ec w') := by
  have hw := k.update (waitDone epoch) hw
  unfold Handler.waitCompleted
  dsimp only
  rw [k.timer hw]
  split
  · unfold onExpiry
    rw [k.timer hw]
    split
    · have hw := k.update (setStarted false) hw
      cases ec with
      | some ec => exact k.reconnectTimerError _ _ hw
      | none => exact k.reconnectTimerExpired hw
    · exact hw
  · exact hw

end ReconnectTimer.Handler

/-! ## Socket -/

namespace Socket.Handler
variable {W W' : Type} (h : Handler W) (h' : Handler W') (R : W → W' → Prop)

/-- The owners have the same socket, and each callback keeps them related. -/
structure Relates : Prop where
  socket : ∀ {w w'}, R w w' → h'.socket w' = h.socket w
  update : ∀ f {w w'}, R w w' → R (h.update f w) (h'.update f w')
  connectFailure : ∀ ec {w w'}, R w w' → R (h.connectFailure ec w) (h'.connectFailure ec w')
  connectSuccess : ∀ {w w'}, R w w' → R (h.connectSuccess w) (h'.connectSuccess w')
  readFailure : ∀ ec {w w'}, R w w' → R (h.readFailure ec w) (h'.readFailure ec w')
  readPacketFailure : ∀ error {w w'}, R w w' →
    R (h.readPacketFailure error w) (h'.readPacketFailure error w')
  readSuccess : ∀ packet {w w'}, R w w' → R (h.readSuccess packet w) (h'.readSuccess packet w')
  readAborted : ∀ {w w'}, R w w' → R (h.readAborted w) (h'.readAborted w')
  readEndOfFile : ∀ {w w'}, R w w' → R (h.readEndOfFile w) (h'.readEndOfFile w')
  writeFailure : ∀ ec {w w'}, R w w' → R (h.writeFailure ec w) (h'.writeFailure ec w')
  writeSuccess : ∀ packet {w w'}, R w w' → R (h.writeSuccess packet w) (h'.writeSuccess packet w')
  writeBufferEmpty : ∀ {w w'}, R w w' → R (h.writeBufferEmpty w) (h'.writeBufferEmpty w')

variable {h h' R}

theorem Relates.connectCompleted (k : Relates h h' R) (ec : Option IoError) {w : W} {w' : W'}
    (hw : R w w') : R (h.connectCompleted ec w) (h'.connectCompleted ec w') := by
  have hw := k.update connectDone hw
  apply k.update
  split
  · exact k.connectSuccess hw
  · exact hw
  · exact k.connectFailure _ hw

theorem Relates.readFailed (k : Relates h h' R) (ec : IoError) {w : W} {w' : W'} (hw : R w w') :
    R (h.readFailed ec w) (h'.readFailed ec w') := by
  cases ec with
  | operationAborted => exact k.readAborted hw
  | eof => exact k.readEndOfFile hw
  | other code => exact k.readFailure _ hw

theorem Relates.headerCompleted (k : Relates h h' R) (result : Except IoError Bytes) {w : W}
    {w' : W'} (hw : R w w') : R (h.headerCompleted result w) (h'.headerCompleted result w') := by
  have hw := k.update (readDone .readHeader) hw
  apply k.update
  cases result with
  | error ec => exact k.readFailed ec hw
  | ok bytes =>
    simp only [headerReceived, k.socket hw]
    split
    · exact k.readFailure _ hw
    · have hw := k.update (setReadPacket { (h.socket (h.update (readDone .readHeader) w)).readPacket
        with header := bytes }.resizePayload.2) hw
      split
      · exact k.update _ hw
      · exact k.readSuccess _ (k.update _ hw)
      · exact k.readPacketFailure _ hw

theorem Relates.payloadCompleted (k : Relates h h' R) (result : Except IoError Bytes) {w : W}
    {w' : W'} (hw : R w w') : R (h.payloadCompleted result w) (h'.payloadCompleted result w') := by
  have hw := k.update (readDone .readPayload) hw
  apply k.update
  cases result with
  | error ec => exact k.readFailed ec hw
  | ok bytes =>
    simp only [payloadReceived, k.socket hw]
    split
    · exact k.readFailure _ hw
    · exact k.readSuccess _ (k.update _ hw)

theorem Relates.writeCompleted (k : Relates h h' R) (result : Except IoError Nat) {w : W}
    {w' : W'} (hw : R w w') : R (h.writeCompleted result w) (h'.writeCompleted result w') := by
  have hw := k.update writeDone hw
  apply k.update
  cases result with
  | error ec =>
    cases ec with
    | operationAborted => exact hw
    | eof => exact k.writeFailure _ hw
    | other code => exact k.writeFailure _ hw
  | ok n =>
    simp only [packetSent, k.socket hw]
    split
    · exact hw
    · rename_i packet _ _
      split
      · exact k.writeFailure _ hw
      · have hw := k.update popPacket (k.writeSuccess packet hw)
        simp only [k.socket hw]
        split
        · exact k.update _ hw
        · split
          · exact k.writeBufferEmpty (k.update _ hw)
          · exact hw

end Socket.Handler

end SoupBin
