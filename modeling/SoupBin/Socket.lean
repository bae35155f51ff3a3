import SoupBin.RwPackets
import SoupBin.Types

/-!
# The socket

`Socket` reads and writes whole packets over an asio socket and posts
`Handler::closed` once it is closed and idle. What asio holds is kept beside
the members: the operations whose completion is still to come, the
notifications that are posted, and a journal of what the socket has done.
-/

namespace SoupBin

/-- An operation that asio has not completed yet. -/
inductive SocketOp where
  | connect
  | readHeader
  | readPayload
  | write
  deriving DecidableEq, Repr

/-- What a socket does that can be seen from outside: accept a packet for
writing, begin an operation, post `closed` while some operations are
outstanding. -/
inductive SocketAction where
  | accepted (packet : WritePacket)
  | connect
  | readHeader
  | readPayload
  | write (packet : WritePacket)
  | closed (outstanding : List SocketOp)
  deriving DecidableEq, Repr

/-- The operation that an action begins. -/
def SocketAction.begins : SocketAction → Option SocketOp
  | .connect => some .connect
  | .readHeader => some .readHeader
  | .readPayload => some .readPayload
  | .write _ => some .write
  | _ => none

structure Socket where
  isOpen : Bool := false
  readPacket : ReadPacket := {}
  writePackets : List WritePacket := []
  writePacketsLimit : Nat := 100
  writeBufferWasFull : Bool := false
  connectPending : Bool := false
  readPending : Bool := false
  writePending : Bool := false
  closing : Bool := false
  closedSignaled : Bool := false
  outstanding : List SocketOp := []
  posted : Nat := 0
  journal : List SocketAction := []
  deriving DecidableEq, Repr

namespace Socket

def setWritePacketsLimit (writePacketsLimit : Nat) (s : Socket) : Socket :=
  { s with writePacketsLimit := writePacketsLimit }

/-- `open`, when asio reports no error. -/
def openSocket (s : Socket) : Socket := { s with isOpen := true }

/-- Hand an operation to asio. -/
def begin (op : SocketOp) (action : SocketAction) (s : Socket) : Socket :=
  { s with outstanding := s.outstanding ++ [op], journal := s.journal ++ [action] }

/-! The first statement of each completion, when asio has taken the operation
off its books. -/

def connectDone (s : Socket) : Socket :=
  { s with connectPending := false, outstanding := s.outstanding.erase .connect }

def readDone (op : SocketOp) (s : Socket) : Socket :=
  { s with readPending := false, outstanding := s.outstanding.erase op }

def writeDone (s : Socket) : Socket :=
  { s with writePending := false, outstanding := s.outstanding.erase .write }

def isIdle (s : Socket) : Bool := !s.connectPending && !s.readPending && !s.writePending

def maybeSignalClosed (s : Socket) : Socket :=
  if s.closing && !s.closedSignaled && s.isIdle then
    { s with
      closedSignaled := true
      posted := s.posted + 1
      journal := s.journal ++ [.closed s.outstanding] }
  else s

def close (s : Socket) : Socket :=
  maybeSignalClosed { s with closing := true, isOpen := false }

def asyncConnect (s : Socket) : Socket :=
  if s.closing then s
  else begin .connect .connect { s with connectPending := true, isOpen := true }

def startReadHeader (s : Socket) : Socket :=
  begin .readHeader .readHeader { s with readPending := true }

def startReadPayload (s : Socket) : Socket :=
  begin .readPayload .readPayload { s with readPending := true }

def asyncRead (s : Socket) : Socket :=
  if s.closing then s else startReadHeader { s with readPacket := {} }

/-- `write_packet`: the packet at the front goes to asio. -/
def startWritePacket (s : Socket) : Socket :=
  match s.writePackets with
  | [] => s
  | packet :: _ => begin .write (.write packet) { s with writePending := true }

def asyncWrite (packet : WritePacket) (s : Socket) : WriteError × Socket :=
  if s.closing then (.disconnected, s)
  else
    let size := s.writePackets.length
    if size = s.writePacketsLimit then (.bufferFull, { s with writeBufferWasFull := true })
    else
      let s := { s with
        writePackets := s.writePackets ++ [packet]
        journal := s.journal ++ [.accepted packet] }
      (.none, if size = 0 then startWritePacket s else s)

/-- The posted `closed` runs. -/
def notified (s : Socket) : Socket := { s with posted := s.posted - 1 }

def setReadPacket (packet : ReadPacket) (s : Socket) : Socket := { s with readPacket := packet }

/-- `write_packets_.pop_front()`. -/
def popPacket (s : Socket) : Socket := { s with writePackets := s.writePackets.tail }

def clearWasFull (s : Socket) : Socket := { s with writeBufferWasFull := false }

/-- `Socket::Handler`, over the state `W` of its owner, with the place of the
socket in that state. -/
structure Handler (W : Type) where
  socket : W → Socket
  update : (Socket → Socket) → W → W
  connectFailure : IoError → W → W
  connectSuccess : W → W
  readFailure : IoError → W → W
  readPacketFailure : PacketError → W → W
  readSuccess : ReadPacket → W → W
  readAborted : W → W
  readEndOfFile : W → W
  writeFailure : IoError → W → W
  writeSuccess : WritePacket → W → W
  writeBufferEmpty : W → W

namespace Handler
variable {W : Type} (h : Handler W)

/-- The completion of `async_connect`. -/
def connectCompleted (ec : Option IoError) (w : W) : W :=
  let w := h.update connectDone w
  let w :=
    match ec with
    | none => h.connectSuccess w
    | some .operationAborted => w
    | some ec => h.connectFailure ec w
  h.update maybeSignalClosed w

def readFailed (ec : IoError) (w : W) : W :=
  match ec with
  | .operationAborted => h.readAborted w
  | .eof => h.readEndOfFile w
  | ec => h.readFailure ec w

/-- The bytes read are `n` many when there is no error. Too few would be
reported as `ECANCELED`. -/
def headerReceived (result : Except IoError Bytes) (w : W) : W :=
  match result with
  | .error ec => h.readFailed ec w
  | .ok bytes =>
    if bytes.length ≠ packetHeaderLength then h.readFailure .operationAborted w
    else
      let packet := { (h.socket w).readPacket with header := bytes }.resizePayload
      let w := h.update (setReadPacket packet.2) w
      match packet.1 with
      | .resized => h.update startReadPayload w
      | .emptyPayload => h.readSuccess packet.2 (h.update (setReadPacket {}) w)
      | .malformedHeader => h.readPacketFailure .malformedHeader w

def payloadReceived (result : Except IoError Bytes) (w : W) : W :=
  match result with
  | .error ec => h.readFailed ec w
  | .ok bytes =>
    let packet := (h.socket w).readPacket
    if bytes.length ≠ packet.payloadSize then h.readFailure .operationAborted w
    else h.readSuccess { packet with payload := bytes } (h.update (setReadPacket {}) w)

def packetSent (result : Except IoError Nat) (w : W) : W :=
  match result with
  | .error .operationAborted => w
  | .error ec => h.writeFailure ec w
  | .ok n =>
    match (h.socket w).writePackets with
    | [] => w
    | packet :: _ =>
      if n ≠ packet.size then h.writeFailure .operationAborted w
      else
        let w := h.writeSuccess packet w
        let w := h.update popPacket w
        if (h.socket w).writePackets ≠ [] then h.update startWritePacket w
        else if (h.socket w).writeBufferWasFull then
          h.writeBufferEmpty (h.update clearWasFull w)
        else w

/-- The completion of `read_header`. -/
def headerCompleted (result : Except IoError Bytes) (w : W) : W :=
  h.update maybeSignalClosed (h.headerReceived result (h.update (readDone .readHeader) w))

/-- The completion of `read_payload`. -/
def payloadCompleted (result : Except IoError Bytes) (w : W) : W :=
  h.update maybeSignalClosed (h.payloadReceived result (h.update (readDone .readPayload) w))

/-- The completion of `write_packet`. -/
def writeCompleted (result : Except IoError Nat) (w : W) : W :=
  h.update maybeSignalClosed (h.packetSent result (h.update writeDone w))

/-- The header has been read: what `resize_payload` makes of the packet. -/
def headerRead (w : W) (bytes : Bytes) : ReadPacket.ResizeResult × ReadPacket :=
  { (h.socket (h.update (readDone .readHeader) w)).readPacket with header := bytes }.resizePayload

section
variable {w : W} {bytes : Bytes} {packet : ReadPacket}

/-- The payload is read next. -/
theorem headerReceived_resized (hlength : bytes.length = packetHeaderLength)
    (hpacket : ({ (h.socket w).readPacket with header := bytes } : ReadPacket).resizePayload =
      (.resized, packet)) :
    h.headerReceived (.ok bytes) w =
      h.update startReadPayload (h.update (setReadPacket packet) w) := by
  simp only [headerReceived, hlength, hpacket, ne_eq, not_true_eq_false, if_false]

/-- The header is the packet. -/
theorem headerReceived_empty (hlength : bytes.length = packetHeaderLength)
    (hpacket : ({ (h.socket w).readPacket with header := bytes } : ReadPacket).resizePayload =
      (.emptyPayload, packet)) :
    h.headerReceived (.ok bytes) w =
      h.readSuccess packet (h.update (setReadPacket {}) (h.update (setReadPacket packet) w)) := by
  simp only [headerReceived, hlength, hpacket, ne_eq, not_true_eq_false, if_false]

theorem headerReceived_malformed (hlength : bytes.length = packetHeaderLength)
    (hpacket : ({ (h.socket w).readPacket with header := bytes } : ReadPacket).resizePayload =
      (.malformedHeader, packet)) :
    h.headerReceived (.ok bytes) w =
      h.readPacketFailure .malformedHeader (h.update (setReadPacket packet) w) := by
  simp only [headerReceived, hlength, hpacket, ne_eq, not_true_eq_false, if_false]

theorem headerReceived_short (hlength : bytes.length ≠ packetHeaderLength) :
    h.headerReceived (.ok bytes) w = h.readFailure .operationAborted w :=
  if_pos hlength

theorem payloadReceived_whole (hlength : bytes.length = (h.socket w).readPacket.payloadSize) :
    h.payloadReceived (.ok bytes) w =
      h.readSuccess { (h.socket w).readPacket with payload := bytes }
        (h.update (setReadPacket {}) w) :=
  if_neg (not_not.mpr hlength)

theorem payloadReceived_short (hlength : bytes.length ≠ (h.socket w).readPacket.payloadSize) :
    h.payloadReceived (.ok bytes) w = h.readFailure .operationAborted w :=
  if_pos hlength

/-- The packet at the front has been written. -/
theorem packetSent_whole {front : WritePacket}
    (hfront : (h.socket w).writePackets.head? = some front) :
    h.packetSent (.ok front.size) w =
      let w := h.update popPacket (h.writeSuccess front w)
      if (h.socket w).writePackets ≠ [] then h.update startWritePacket w
      else if (h.socket w).writeBufferWasFull then h.writeBufferEmpty (h.update clearWasFull w)
      else w := by
  obtain ⟨rest, hqueue⟩ := List.head?_eq_some_iff.mp hfront
  simp only [packetSent, hqueue, ne_eq, not_true_eq_false, if_false]

theorem packetSent_short {front : WritePacket} {n : Nat}
    (hfront : (h.socket w).writePackets.head? = some front) (hn : n ≠ front.size) :
    h.packetSent (.ok n) w = h.writeFailure .operationAborted w := by
  obtain ⟨rest, hqueue⟩ := List.head?_eq_some_iff.mp hfront
  simp only [packetSent, hqueue, ne_eq, hn, not_false_eq_true, if_true]

end

/-! ### Failures

Which completions report one. -/

/-- A read reports every error but an abort and the end of the stream. -/
def readFails : IoError → Bool
  | .operationAborted | .eof => false
  | .other _ => true

/-- The packet is the one that is being read. -/
def headerFails (packet : ReadPacket) : Except IoError Bytes → Bool
  | .error ec => readFails ec
  | .ok bytes =>
    bytes.length ≠ packetHeaderLength ||
      ({ packet with header := bytes } : ReadPacket).resizePayload.1 = .malformedHeader

def payloadFails (packet : ReadPacket) : Except IoError Bytes → Bool
  | .error ec => readFails ec
  | .ok bytes => bytes.length ≠ packet.payloadSize

/-- The packet at the front of the queue is the one that is being written. -/
def writeFails (writePackets : List WritePacket) : Except IoError Nat → Bool
  | .error ec => ec ≠ .operationAborted
  | .ok n => writePackets.head?.any (n ≠ ·.size)

/-! ### Invariants of the owner

What every statement about the socket and every callback keeps, every completion keeps. -/

/-- What completions do to the socket outside callbacks. -/
inductive Internal : (Socket → Socket) → Prop where
  | connectDone : Internal connectDone
  | readDone (op : SocketOp) : Internal (readDone op)
  | writeDone : Internal writeDone
  | setReadPacket (packet : ReadPacket) : Internal (setReadPacket packet)
  | startReadPayload : Internal startReadPayload
  | popPacket : Internal popPacket
  | startWritePacket : Internal startWritePacket
  | clearWasFull : Internal clearWasFull
  | maybeSignalClosed : Internal maybeSignalClosed

/-- All but `connect_success`, `read_success`, `read_aborted` and the failures. -/
structure KeepsUntold (I : W → Prop) : Prop where
  update : ∀ f, Internal f → ∀ w, I w → I (h.update f w)
  readEndOfFile : ∀ w, I w → I (h.readEndOfFile w)
  writeSuccess : ∀ packet w, I w → I (h.writeSuccess packet w)
  writeBufferEmpty : ∀ w, I w → I (h.writeBufferEmpty w)

/-- All but `connect_success`, `read_success` and `read_aborted`. -/
structure KeepsUnread (I : W → Prop) : Prop where
  update : ∀ f, Internal f → ∀ w, I w → I (h.update f w)
  connectFailure : ∀ ec w, I w → I (h.connectFailure ec w)
  readFailure : ∀ ec w, I w → I (h.readFailure ec w)
  readPacketFailure : ∀ error w, I w → I (h.readPacketFailure error w)
  readEndOfFile : ∀ w, I w → I (h.readEndOfFile w)
  writeFailure : ∀ ec w, I w → I (h.writeFailure ec w)
  writeSuccess : ∀ packet w, I w → I (h.writeSuccess packet w)
  writeBufferEmpty : ∀ w, I w → I (h.writeBufferEmpty w)

structure Keeps (I : W → Prop) : Prop extends KeepsUnread h I where
  connectSuccess : ∀ w, I w → I (h.connectSuccess w)
  readSuccess : ∀ packet w, I w → I (h.readSuccess packet w)
  readAborted : ∀ w, I w → I (h.readAborted w)

variable {h} {I : W → Prop}

theorem KeepsUnread.connectCompleted (k : h.KeepsUnread I) (ec : Option IoError) {w : W}
    (hsuccess : ec = none → I (h.update connectDone w) →
      I (h.connectSuccess (h.update connectDone w)))
    (hw : I w) : I (h.connectCompleted ec w) := by
  have hw := k.update _ .connectDone w hw
  apply k.update _ .maybeSignalClosed
  split
  · exact hsuccess rfl hw
  · exact hw
  · exact k.connectFailure _ _ hw

theorem KeepsUntold.readFailed (k : h.KeepsUntold I) (ec : IoError) {w : W}
    (hfailed : readFails ec = true → I w → I (h.readFailure ec w))
    (habort : ec = .operationAborted → I w → I (h.readAborted w)) (hw : I w) :
    I (h.readFailed ec w) := by
  cases ec with
  | operationAborted => exact habort rfl hw
  | eof => exact k.readEndOfFile _ hw
  | other code => exact hfailed rfl hw

/-- A packet without payload is delivered when its header has been read. -/
theorem KeepsUntold.headerCompleted (k : h.KeepsUntold I) (result : Except IoError Bytes) {w : W}
    (hfailed : headerFails (h.socket (h.update (readDone .readHeader) w)).readPacket result = true →
      ∀ ec, I (h.update (readDone .readHeader) w) →
        I (h.readFailure ec (h.update (readDone .readHeader) w)))
    (hmalformed : headerFails (h.socket (h.update (readDone .readHeader) w)).readPacket result =
        true → ∀ packet,
      I (h.update (setReadPacket packet) (h.update (readDone .readHeader) w)) →
      I (h.readPacketFailure .malformedHeader
        (h.update (setReadPacket packet) (h.update (readDone .readHeader) w))))
    (hread : ∀ bytes packet, result = .ok bytes →
      headerRead h w bytes = (.emptyPayload, packet) →
      I (h.update (setReadPacket {}) (h.update (setReadPacket packet)
        (h.update (readDone .readHeader) w))) →
      I (h.readSuccess packet (h.update (setReadPacket {}) (h.update (setReadPacket packet)
        (h.update (readDone .readHeader) w)))))
    (habort : result = .error .operationAborted → I (h.update (readDone .readHeader) w) →
      I (h.readAborted (h.update (readDone .readHeader) w)))
    (hw : I w) : I (h.headerCompleted result w) := by
  have hw := k.update _ (.readDone .readHeader) w hw
  apply k.update _ .maybeSignalClosed
  cases result with
  | error ec =>
    exact k.readFailed ec (fun hec => hfailed hec ec) (fun hec => habort (hec ▸ rfl)) hw
  | ok bytes =>
    simp only [headerReceived]
    split
    · rename_i hshort
      exact hfailed (by simp [headerFails, hshort]) _ hw
    · have hw := k.update _ (.setReadPacket
        { (h.socket (h.update (readDone .readHeader) w)).readPacket with header := bytes
          }.resizePayload.2) _ hw
      split
      · exact k.update _ .startReadPayload _ hw
      · rename_i hempty
        exact hread bytes _ rfl (Prod.ext hempty rfl) (k.update _ (.setReadPacket _) _ hw)
      · rename_i hmal
        exact hmalformed (by simp [headerFails, hmal]) _ hw

/-- The packet whose payload has been read is delivered. -/
theorem KeepsUntold.payloadCompleted (k : h.KeepsUntold I) (result : Except IoError Bytes) {w : W}
    (hfailed : payloadFails (h.socket (h.update (readDone .readPayload) w)).readPacket result =
        true → ∀ ec, I (h.update (readDone .readPayload) w) →
      I (h.readFailure ec (h.update (readDone .readPayload) w)))
    (hread : ∀ bytes, result = .ok bytes → bytes.length =
        (h.socket (h.update (readDone .readPayload) w)).readPacket.payloadSize →
      I (h.update (setReadPacket {}) (h.update (readDone .readPayload) w)) →
      I (h.readSuccess { (h.socket (h.update (readDone .readPayload) w)).readPacket with
          payload := bytes } (h.update (setReadPacket {}) (h.update (readDone .readPayload) w))))
    (habort : result = .error .operationAborted → I (h.update (readDone .readPayload) w) →
      I (h.readAborted (h.update (readDone .readPayload) w)))
    (hw : I w) : I (h.payloadCompleted result w) := by
  have hw := k.update _ (.readDone .readPayload) w hw
  apply k.update _ .maybeSignalClosed
  cases result with
  | error ec =>
    exact k.readFailed ec (fun hec => hfailed hec ec) (fun hec => habort (hec ▸ rfl)) hw
  | ok bytes =>
    simp only [payloadReceived]
    split
    · rename_i hshort
      exact hfailed (by simpa [payloadFails] using hshort) _ hw
    · rename_i hlength
      exact hread bytes rfl (not_not.mp hlength) (k.update _ (.setReadPacket _) _ hw)

theorem KeepsUntold.writeCompleted (k : h.KeepsUntold I) (result : Except IoError Nat) {w : W}
    (hfailed : writeFails (h.socket (h.update writeDone w)).writePackets result = true →
      ∀ ec, I (h.update writeDone w) → I (h.writeFailure ec (h.update writeDone w)))
    (hw : I w) : I (h.writeCompleted result w) := by
  have hw := k.update _ .writeDone w hw
  apply k.update _ .maybeSignalClosed
  cases result with
  | error ec =>
    cases ec with
    | operationAborted => exact hw
    | eof => exact hfailed rfl _ hw
    | other code => exact hfailed rfl _ hw
  | ok n =>
    simp only [packetSent]
    split
    · exact hw
    · rename_i packet _ hqueue
      split
      · rename_i hshort
        exact hfailed (by simpa [writeFails, hqueue] using hshort) _ hw
      · have hw := k.update _ .popPacket _ (k.writeSuccess packet _ hw)
        split
        · exact k.update _ .startWritePacket _ hw
        · split
          · exact k.writeBufferEmpty _ (k.update _ .clearWasFull _ hw)
          · exact hw

/-! Failures included. -/

theorem KeepsUnread.untold (k : h.KeepsUnread I) : h.KeepsUntold I where
  update := k.update
  readEndOfFile := k.readEndOfFile
  writeSuccess := k.writeSuccess
  writeBufferEmpty := k.writeBufferEmpty

theorem KeepsUnread.headerCompleted (k : h.KeepsUnread I) (result : Except IoError Bytes) {w : W}
    (hread : ∀ bytes packet, result = .ok bytes →
      headerRead h w bytes = (.emptyPayload, packet) →
      I (h.update (setReadPacket {}) (h.update (setReadPacket packet)
        (h.update (readDone .readHeader) w))) →
      I (h.readSuccess packet (h.update (setReadPacket {}) (h.update (setReadPacket packet)
        (h.update (readDone .readHeader) w)))))
    (habort : result = .error .operationAborted → I (h.update (readDone .readHeader) w) →
      I (h.readAborted (h.update (readDone .readHeader) w)))
    (hw : I w) : I (h.headerCompleted result w) :=
  k.untold.headerCompleted result (fun _ ec hw => k.readFailure ec _ hw)
    (fun _ _ hw => k.readPacketFailure _ _ hw) hread habort hw

theorem KeepsUnread.payloadCompleted (k : h.KeepsUnread I) (result : Except IoError Bytes) {w : W}
    (hread : ∀ bytes, result = .ok bytes → bytes.length =
        (h.socket (h.update (readDone .readPayload) w)).readPacket.payloadSize →
      I (h.update (setReadPacket {}) (h.update (readDone .readPayload) w)) →
      I (h.readSuccess { (h.socket (h.update (readDone .readPayload) w)).readPacket with
          payload := bytes } (h.update (setReadPacket {}) (h.update (readDone .readPayload) w))))
    (habort : result = .error .operationAborted → I (h.update (readDone .readPayload) w) →
      I (h.readAborted (h.update (readDone .readPayload) w)))
    (hw : I w) : I (h.payloadCompleted result w) :=
  k.untold.payloadCompleted result (fun _ ec hw => k.readFailure ec _ hw) hread habort hw

theorem KeepsUnread.writeCompleted (k : h.KeepsUnread I) (result : Except IoError Nat) {w : W}
    (hw : I w) : I (h.writeCompleted result w) :=
  k.untold.writeCompleted result (fun _ ec hw => k.writeFailure ec _ hw) hw

theorem Keeps.connectCompleted (k : h.Keeps I) (ec : Option IoError) {w : W} (hw : I w) :
    I (h.connectCompleted ec w) :=
  k.toKeepsUnread.connectCompleted ec (fun _ hw => k.connectSuccess _ hw) hw

theorem Keeps.headerCompleted (k : h.Keeps I) (result : Except IoError Bytes) {w : W} (hw : I w) :
    I (h.headerCompleted result w) :=
  k.toKeepsUnread.headerCompleted result (fun _ _ _ _ hw => k.readSuccess _ _ hw)
    (fun _ hw => k.readAborted _ hw) hw

theorem Keeps.payloadCompleted (k : h.Keeps I) (result : Except IoError Bytes) {w : W} (hw : I w) :
    I (h.payloadCompleted result w) :=
  k.toKeepsUnread.payloadCompleted result (fun _ _ _ hw => k.readSuccess _ _ hw)
    (fun _ hw => k.readAborted _ hw) hw

end Handler

end Socket

end SoupBin
