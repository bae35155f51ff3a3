import SoupBin.Socket

/-!
# The read loop over a stream of bytes

A receiver reads packet after packet, as both kinds of `Tcp_connection` do: it
reads on after each packet, and closes the socket when a header is malformed or
the stream ends. asio completes a read when all the bytes asked for have come,
however they were cut up on the way.
-/

namespace SoupBin.Receiving
open Records

structure Receiver where
  socket : Socket := {}
  delivered : List ReadPacket := []
  reported : List PacketError := []
  ended : Bool := false
  deriving DecidableEq, Repr

namespace Receiver

def updateSocket (f : Socket → Socket) (r : Receiver) : Receiver := { r with socket := f r.socket }

def deliver (packet : ReadPacket) (r : Receiver) : Receiver :=
  { r with delivered := r.delivered ++ [packet] }

def report (error : PacketError) (r : Receiver) : Receiver :=
  { r with reported := r.reported ++ [error] }

def endOfFile (r : Receiver) : Receiver := { r with ended := true }

end Receiver

/-- Nothing is connected and nothing written here. -/
def handler : Socket.Handler Receiver where
  socket := Receiver.socket
  update := Receiver.updateSocket
  connectFailure _ r := r
  connectSuccess r := r
  readFailure _ r := r.updateSocket Socket.close
  readPacketFailure error r := (r.report error).updateSocket Socket.close
  readSuccess packet r := (r.deliver packet).updateSocket Socket.asyncRead
  readAborted r := r.updateSocket Socket.close
  readEndOfFile r := r.endOfFile.updateSocket Socket.close
  writeFailure _ r := r
  writeSuccess _ r := r
  writeBufferEmpty r := r

/-- The bytes of one read, or the end of the stream. -/
def take (nbyte : Nat) (s : Bytes) : Except IoError Bytes × Bytes :=
  if s.length < nbyte then (.error .eof, []) else (.ok (s.take nbyte), s.drop nbyte)

/-- asio completes the read that is outstanding, if there is one. -/
def advance (r : Receiver) (s : Bytes) : Receiver × Bytes :=
  if .readHeader ∈ r.socket.outstanding then
    let (result, s) := take packetHeaderLength s
    (handler.headerCompleted result r, s)
  else if .readPayload ∈ r.socket.outstanding then
    let (result, s) := take r.socket.readPacket.payloadSize s
    (handler.payloadCompleted result r, s)
  else (r, s)

def loop : Nat → Receiver → Bytes → Receiver
  | 0, r, _ => r
  | fuel + 1, r, s => loop fuel (advance r s).1 (advance r s).2

/-- A receiver that has begun to read. -/
def opened : Receiver := { socket := ({ isOpen := true } : Socket).asyncRead }

/-- Read all of a stream. Every read takes a byte at least, or is the last. -/
def receiveAll (s : Bytes) : Receiver := loop (s.length + 1) opened s

/-! ## One completion -/

/-- The header of the next packet is being read. -/
structure Waiting (r : Receiver) : Prop where
  outstanding : r.socket.outstanding = [.readHeader]
  closing : r.socket.closing = false
  fresh : r.socket.readPacket = {}

/-- The payload that belongs to a header is being read. -/
structure Filling (header : Bytes) (nbyte : Nat) (r : Receiver) : Prop where
  outstanding : r.socket.outstanding = [.readPayload]
  closing : r.socket.closing = false
  packet : r.socket.readPacket.header = header
  size : r.socket.readPacket.payloadSize = nbyte

/-- Nothing is read any more. -/
def Over (r : Receiver) : Prop := r.socket.outstanding = []

theorem maybeSignalClosed_open {s : Socket} (h : s.closing = false) : s.maybeSignalClosed = s := by
  simp [Socket.maybeSignalClosed, h]

theorem maybeSignalClosed_outstanding (s : Socket) :
    s.maybeSignalClosed.outstanding = s.outstanding := by
  unfold Socket.maybeSignalClosed
  split <;> rfl

theorem close_outstanding (s : Socket) : s.close.outstanding = s.outstanding :=
  maybeSignalClosed_outstanding _

/-- The next read begins. -/
theorem waiting_asyncRead {r : Receiver} (ho : r.socket.outstanding = [])
    (hc : r.socket.closing = false) : Waiting ((r.updateSocket Socket.asyncRead).updateSocket
      Socket.maybeSignalClosed) := by
  have hread : r.socket.asyncRead =
      Socket.startReadHeader { r.socket with readPacket := {} } := by
    simp [Socket.asyncRead, hc]
  have hopen : r.socket.asyncRead.maybeSignalClosed = r.socket.asyncRead :=
    maybeSignalClosed_open (by rw [hread]; exact hc)
  have heq : (r.updateSocket Socket.asyncRead).updateSocket Socket.maybeSignalClosed =
      r.updateSocket fun _ => Socket.startReadHeader { r.socket with readPacket := {} } := by
    simp only [Receiver.updateSocket, hopen]
    rw [hread]
  rw [heq]
  constructor
  · simp [Receiver.updateSocket, Socket.startReadHeader, Socket.begin, ho]
  · exact hc
  · rfl

theorem waiting_opened : Waiting opened := ⟨rfl, rfl, rfl⟩

section
variable {r : Receiver}

/-- A header without a length ends the loop. -/
theorem Waiting.malformed (h : Waiting r) {header : Bytes} (hl : header.length = packetHeaderLength)
    (hn : readBe16 header = 0) :
    let r' := handler.headerCompleted (.ok header) r
    Over r' ∧ r'.delivered = r.delivered ∧ r'.reported = r.reported ++ [.malformedHeader] ∧
      r'.ended = r.ended := by
  have hless : readBe16 header < packetTypeLength := by
    rw [hn]
    exact Nat.one_pos
  have hsize : (⟨header, []⟩ : ReadPacket).resizePayload = (.malformedHeader, ⟨header, []⟩) :=
    ReadPacket.resizePayload_malformed hless
  have hfresh : ((r.updateSocket (Socket.readDone .readHeader)).socket).readPacket = {} := h.fresh
  simp only [Socket.Handler.headerCompleted, Socket.Handler.headerReceived, handler, hl, hfresh,
    hsize, ne_eq, not_true_eq_false, ↓reduceIte]
  refine ⟨?_, rfl, rfl, rfl⟩
  simp only [Over, Receiver.updateSocket, Receiver.report, maybeSignalClosed_outstanding,
    close_outstanding, Socket.setReadPacket, Socket.readDone, h.outstanding]
  rfl

/-- A header that announces no payload is a packet. -/
theorem Waiting.empty (h : Waiting r) {header : Bytes} (hl : header.length = packetHeaderLength)
    (hn : readBe16 header = packetTypeLength) :
    let r' := handler.headerCompleted (.ok header) r
    Waiting r' ∧ r'.delivered = r.delivered ++ [⟨header, []⟩] ∧ r'.reported = r.reported ∧
      r'.ended = r.ended := by
  have hsize : (⟨header, []⟩ : ReadPacket).resizePayload = (.emptyPayload, ⟨header, []⟩) :=
    ReadPacket.resizePayload_empty hn
  have hfresh : ((r.updateSocket (Socket.readDone .readHeader)).socket).readPacket = {} := h.fresh
  simp only [Socket.Handler.headerCompleted, Socket.Handler.headerReceived, handler, hl, hfresh,
    hsize, ne_eq, not_true_eq_false, ↓reduceIte]
  refine ⟨waiting_asyncRead ?_ h.closing, rfl, rfl, rfl⟩
  simp only [Receiver.updateSocket, Receiver.deliver, Socket.setReadPacket, Socket.readDone,
    h.outstanding]
  rfl

/-- After any other header the payload is read. -/
theorem Waiting.resized (h : Waiting r) {header : Bytes} (hl : header.length = packetHeaderLength)
    (hn : packetTypeLength < readBe16 header) :
    let r' := handler.headerCompleted (.ok header) r
    Filling header (readBe16 header - packetTypeLength) r' ∧ r'.delivered = r.delivered ∧
      r'.reported = r.reported ∧ r'.ended = r.ended := by
  have hsize : (⟨header, []⟩ : ReadPacket).resizePayload =
      (.resized, ⟨header, List.replicate (readBe16 header - packetTypeLength) 0⟩) :=
    ReadPacket.resizePayload_resized hn
  have hfresh : ((r.updateSocket (Socket.readDone .readHeader)).socket).readPacket = {} := h.fresh
  simp only [Socket.Handler.headerCompleted, Socket.Handler.headerReceived, handler, hl, hfresh,
    hsize, ne_eq, not_true_eq_false, ↓reduceIte]
  have hopen (s : Socket) (hs : s.closing = false) :
      s.startReadPayload.maybeSignalClosed = s.startReadPayload := maybeSignalClosed_open hs
  refine ⟨?_, rfl, rfl, rfl⟩
  simp only [Receiver.updateSocket, Socket.setReadPacket, Socket.readDone]
  rw [hopen]
  · constructor
    · simp [Socket.startReadPayload, Socket.begin, h.outstanding]
    · exact h.closing
    · rfl
    · simp [Socket.startReadPayload, Socket.begin, ReadPacket.payloadSize]
  · exact h.closing

/-- The payload completes the packet. -/
theorem Filling.filled {header payload : Bytes} (h : Filling header payload.length r) :
    let r' := handler.payloadCompleted (.ok payload) r
    Waiting r' ∧ r'.delivered = r.delivered ++ [⟨header, payload⟩] ∧ r'.reported = r.reported ∧
      r'.ended = r.ended := by
  have hpacket : ((r.updateSocket (Socket.readDone .readPayload)).socket).readPacket =
      r.socket.readPacket := rfl
  have heq : { r.socket.readPacket with payload := payload } =
      (⟨header, payload⟩ : ReadPacket) := by
    rw [← h.packet]
  simp only [Socket.Handler.payloadCompleted, Socket.Handler.payloadReceived, handler, hpacket,
    h.size, ne_eq, not_true_eq_false, ↓reduceIte, heq]
  refine ⟨waiting_asyncRead ?_ h.closing, rfl, rfl, rfl⟩
  simp only [Receiver.updateSocket, Receiver.deliver, Socket.setReadPacket, Socket.readDone,
    h.outstanding]
  rfl

/-- The stream ends in the middle of a header, or before it. -/
theorem Waiting.eof (h : Waiting r) :
    let r' := handler.headerCompleted (.error .eof) r
    Over r' ∧ r'.delivered = r.delivered ∧ r'.reported = r.reported ∧ r'.ended = true := by
  refine ⟨?_, rfl, rfl, rfl⟩
  simp only [Over, Socket.Handler.headerCompleted, Socket.Handler.headerReceived,
    Socket.Handler.readFailed, handler, Receiver.updateSocket, Receiver.endOfFile,
    maybeSignalClosed_outstanding, close_outstanding, Socket.readDone, h.outstanding]
  rfl

/-- The stream ends in the middle of a payload. -/
theorem Filling.eof {header : Bytes} {nbyte : Nat} (h : Filling header nbyte r) :
    let r' := handler.payloadCompleted (.error .eof) r
    Over r' ∧ r'.delivered = r.delivered ∧ r'.reported = r.reported ∧ r'.ended = true := by
  refine ⟨?_, rfl, rfl, rfl⟩
  simp only [Over, Socket.Handler.payloadCompleted, Socket.Handler.payloadReceived,
    Socket.Handler.readFailed, handler, Receiver.updateSocket, Receiver.endOfFile,
    maybeSignalClosed_outstanding, close_outstanding, Socket.readDone, h.outstanding]
  rfl

end

/-! ## The loop -/

/-- The bytes a packet was read from. -/
def bytesOf (packet : ReadPacket) : Bytes := packet.header ++ packet.payload

/-- All that the header announces is there. -/
structure Complete (packet : ReadPacket) : Prop where
  header : packet.header.length = packetHeaderLength
  payload : readBe16 packet.header = packetTypeLength + packet.payload.length

/-- A complete header with the length 0. -/
def Malformed (rest : Bytes) : Prop := packetHeaderLength ≤ rest.length ∧ readBe16 rest = 0

instance (rest : Bytes) : Decidable (Malformed rest) := by
  unfold Malformed
  infer_instance

/-- Less than one packet. -/
def Torn (rest : Bytes) : Prop :=
  rest.length < packetHeaderLength ∨
    0 < readBe16 rest ∧ rest.length < packetSizeLength + readBe16 rest

theorem readBe16_header {s : Bytes} (h : packetHeaderLength ≤ s.length) :
    readBe16 (s.take packetHeaderLength) = readBe16 s := by
  match s, h with
  | _ :: _ :: _ :: _, _ => rfl

theorem loop_over (fuel : Nat) {r : Receiver} (h : Over r) (s : Bytes) : loop fuel r s = r := by
  induction fuel with
  | zero => rfl
  | succ fuel ih =>
    have hadvance : advance r s = (r, s) := by
      rw [advance, if_neg (by rw [h]; simp), if_neg (by rw [h]; simp)]
    rw [loop, hadvance]
    exact ih

/-! ### One turn -/

section
variable {r : Receiver} {s rest : Bytes} {packet : ReadPacket}

theorem receive_eq (hlen : packetHeaderLength ≤ s.length) :
    ReadPacket.receive s =
      let nbyte := readBe16 s - packetTypeLength
      let payload := s.drop packetHeaderLength
      if readBe16 s < packetTypeLength ∨ payload.length < nbyte then none
      else some (⟨s.take packetHeaderLength, payload.take nbyte⟩, payload.drop nbyte) := by
  have hsize : ({ header := s.take packetHeaderLength } : ReadPacket).packetSize = readBe16 s :=
    readBe16_header hlen
  have hthere := Nat.not_lt_of_le hlen
  rcases Nat.lt_trichotomy (readBe16 s) packetTypeLength with hn | hn | hn
  · have hread := ReadPacket.resizePayload_malformed (hsize.symm ▸ hn)
    simp [ReadPacket.receive, hthere, hread, hn]
  · have hread := ReadPacket.resizePayload_empty (hsize.trans hn)
    simp [ReadPacket.receive, hthere, hread, hn]
  · have hread := ReadPacket.resizePayload_resized (hsize.symm ▸ hn)
    rw [hsize] at hread
    simp [ReadPacket.receive, hthere, hread, ReadPacket.payloadSize, Nat.not_lt_of_lt hn]

theorem Waiting.advance_eq (h : Waiting r) (hlen : packetHeaderLength ≤ s.length) :
    advance r s = (handler.headerCompleted (.ok (s.take packetHeaderLength)) r,
      s.drop packetHeaderLength) := by
  rw [advance, if_pos (by rw [h.outstanding]; simp), take, if_neg (Nat.not_lt_of_le hlen)]

theorem Waiting.advance_eof (h : Waiting r) (hshort : s.length < packetHeaderLength) :
    advance r s = (handler.headerCompleted (.error .eof) r, []) := by
  rw [advance, if_pos (by rw [h.outstanding]; simp), take, if_pos hshort]

theorem Filling.advance_eq {header : Bytes} {nbyte : Nat} (h : Filling header nbyte r)
    (hlen : nbyte ≤ s.length) :
    advance r s = (handler.payloadCompleted (.ok (s.take nbyte)) r, s.drop nbyte) := by
  rw [advance, if_neg (by rw [h.outstanding]; simp), if_pos (by rw [h.outstanding]; simp), h.size,
    take, if_neg (Nat.not_lt_of_le hlen)]

theorem Filling.advance_eof {header : Bytes} {nbyte : Nat} (h : Filling header nbyte r)
    (hshort : s.length < nbyte) :
    advance r s = (handler.payloadCompleted (.error .eof) r, []) := by
  rw [advance, if_neg (by rw [h.outstanding]; simp), if_pos (by rw [h.outstanding]; simp), h.size,
    take, if_pos hshort]

/-- `receive` takes a whole packet off the stream. -/
theorem receive_complete (hs : ReadPacket.receive s = some (packet, rest)) :
    Complete packet ∧ s = bytesOf packet ++ rest := by
  have hlen : packetHeaderLength ≤ s.length := by
    by_contra hshort
    rw [ReadPacket.receive, if_pos (Nat.lt_of_not_le hshort)] at hs
    cases hs
  rw [receive_eq hlen] at hs
  dsimp only at hs
  split at hs
  · cases hs
  · rename_i hwhole
    cases hs
    obtain ⟨hpos, hnbyte⟩ := not_or.mp hwhole
    refine ⟨⟨?_, ?_⟩, ?_⟩
    · exact List.length_take_of_le hlen
    · rw [readBe16_header hlen, List.length_take_of_le (Nat.le_of_not_lt hnbyte)]
      omega
    · rw [bytesOf, List.append_assoc, List.take_append_drop, List.take_append_drop]

/-- A packet that `receive` gives is delivered, after one read or two. -/
theorem Waiting.receives (h : Waiting r) (hs : ReadPacket.receive s = some (packet, rest)) :
    ∃ n r', 0 < n ∧ n ≤ 2 ∧ (∀ fuel, loop (n + fuel) r s = loop fuel r' rest) ∧ Waiting r' ∧
      r'.delivered = r.delivered ++ [packet] ∧ r'.reported = r.reported := by
  obtain ⟨hcomplete, hstream⟩ := receive_complete hs
  obtain ⟨header, payload⟩ := packet
  obtain ⟨hl, hsize⟩ := hcomplete
  have hheader : advance r s =
      (handler.headerCompleted (.ok header) r, payload ++ rest) := by
    have hlen : packetHeaderLength ≤ s.length := by
      rw [hstream, ← hl]
      simp [bytesOf]
    rw [h.advance_eq hlen, hstream, bytesOf, List.append_assoc, List.take_left' hl,
      List.drop_left' hl]
  rcases Nat.eq_zero_or_pos payload.length with hempty | hpos
  · -- the packet has no payload
    obtain rfl := List.eq_nil_of_length_eq_zero hempty
    obtain ⟨hw, hd, hr, -⟩ := h.empty hl hsize
    refine ⟨1, _, by decide, by decide, fun fuel => ?_, hw, hd, hr⟩
    rw [Nat.add_comm, loop, hheader, List.nil_append]
  · -- the payload is read too
    obtain ⟨hfill, hd, hr, -⟩ := h.resized hl (by rw [hsize]; exact Nat.lt_add_of_pos_right hpos)
    rw [hsize, Nat.add_sub_cancel_left] at hfill
    generalize handler.headerCompleted (.ok header) r = r₁ at hfill hd hr hheader
    have hpayload := hfill.advance_eq (s := payload ++ rest) (by simp)
    rw [List.take_left, List.drop_left] at hpayload
    obtain ⟨hw, hd', hr', -⟩ := hfill.filled
    refine ⟨2, _, by decide, by decide, fun fuel => ?_, hw, hd'.trans (congrArg (· ++ _) hd),
      hr'.trans hr⟩
    rw [Nat.add_comm 2 fuel, loop, hheader, loop, hpayload]

/-- Where `receive` gives none the loop ends. -/
theorem Waiting.stops (h : Waiting r) (hs : ReadPacket.receive s = none) {fuel : Nat}
    (hf : s.length < fuel) :
    Over (loop fuel r s) ∧ (loop fuel r s).delivered = r.delivered ∧
      (Torn s ∧ (loop fuel r s).reported = r.reported ∨
        Malformed s ∧ (loop fuel r s).reported = r.reported ++ [.malformedHeader]) := by
  obtain ⟨fuel, rfl⟩ : ∃ n, fuel = n + 1 := ⟨fuel - 1, by omega⟩
  by_cases hshort : s.length < packetHeaderLength
  · obtain ⟨hover, hd, hr, -⟩ := h.eof
    rw [loop, h.advance_eof hshort, loop_over fuel hover]
    exact ⟨hover, hd, Or.inl ⟨Or.inl hshort, hr⟩⟩
  · have hlen := Nat.le_of_not_lt hshort
    have hl : (s.take packetHeaderLength).length = packetHeaderLength := by
      rw [List.length_take, Nat.min_eq_left hlen]
    have hsize := readBe16_header hlen
    rw [loop, h.advance_eq hlen]
    by_cases hzero : readBe16 s = 0
    · -- the header has no length
      obtain ⟨hover, hd, hr, -⟩ := h.malformed hl (hsize.trans hzero)
      rw [loop_over fuel hover]
      exact ⟨hover, hd, Or.inr ⟨⟨hlen, hzero⟩, hr⟩⟩
    · -- the payload is cut off
      have hone : packetTypeLength = 1 := rfl
      have htorn : (s.drop packetHeaderLength).length < readBe16 s - packetTypeLength := by
        rw [receive_eq hlen] at hs
        by_contra hwhole
        simp only [hone, Nat.lt_one_iff, hzero, false_or] at hs hwhole
        rw [if_neg hwhole] at hs
        cases hs
      obtain ⟨hfill, hd, hr, -⟩ := h.resized hl (by rw [hsize]; omega)
      rw [hsize] at hfill
      generalize handler.headerCompleted (.ok (s.take packetHeaderLength)) r = r₁ at hfill hd hr
      obtain ⟨hover, hd', hr', -⟩ := hfill.eof
      have hthree : packetHeaderLength = 3 := rfl
      obtain ⟨fuel, rfl⟩ : ∃ n, fuel = n + 1 := ⟨fuel - 1, by omega⟩
      rw [loop, hfill.advance_eof htorn, loop_over fuel hover]
      refine ⟨hover, hd'.trans hd, Or.inl ⟨Or.inr ?_, hr'.trans hr⟩⟩
      rw [List.length_drop] at htorn
      simp only [packetSizeLength, packetTypeLength, packetHeaderLength] at *
      omega

end

/-! ### The whole stream -/

/-- From `r` on the loop has read `s`, and come to `r'`. -/
structure Reads (s : Bytes) (r r' : Receiver) (packets : List ReadPacket) (rest : Bytes) :
    Prop where
  stream : s = (packets.map bytesOf).flatten ++ rest
  complete : ∀ packet ∈ packets, Complete packet
  delivered : r'.delivered = r.delivered ++ packets
  ended : Over r'
  stopped : Torn rest ∧ r'.reported = r.reported ∨
    Malformed rest ∧ r'.reported = r.reported ++ [.malformedHeader]

/-- A packet more, in front of what is read from then on. -/
theorem Reads.cons {s : Bytes} {r r₁ r' : Receiver} {packets : List ReadPacket} {rest : Bytes}
    {packet : ReadPacket} (h : Reads s r₁ r' packets rest) (hp : Complete packet)
    (hd : r₁.delivered = r.delivered ++ [packet]) (hr : r₁.reported = r.reported) :
    Reads (bytesOf packet ++ s) r r' (packet :: packets) rest := by
  constructor
  · rw [List.map_cons, List.flatten_cons, List.append_assoc, ← h.stream]
  · intro q hq
    rcases List.mem_cons.mp hq with rfl | hq
    · exact hp
    · exact h.complete q hq
  · rw [h.delivered, hd, List.append_assoc, List.singleton_append]
  · exact h.ended
  · rw [← hr]
    exact h.stopped

/-- By induction on the fuel, which is more than the bytes that are left. -/
theorem loop_reads (fuel : Nat) : ∀ (r : Receiver) (s : Bytes), Waiting r → s.length < fuel →
    ∃ packets rest, Reads s r (loop fuel r s) packets rest := by
  induction fuel using Nat.strongRecOn with
  | ind fuel ih =>
    intro r s hw hf
    cases hs : ReadPacket.receive s with
    | none =>
      obtain ⟨hover, hd, hstopped⟩ := hw.stops hs hf
      exact ⟨[], s, rfl, by simp, by simpa using hd, hover, hstopped⟩
    | some received =>
      obtain ⟨packet, rest⟩ := received
      obtain ⟨n, r₁, hpos, hn, hloop, hw₁, hd, hr⟩ := hw.receives hs
      obtain ⟨hcomplete, rfl⟩ := receive_complete hs
      have hheader : packetHeaderLength ≤ (bytesOf packet).length := by
        rw [bytesOf, List.length_append, hcomplete.header]
        exact Nat.le_add_right _ _
      have hthree : packetHeaderLength = 3 := rfl
      rw [List.length_append] at hf
      obtain ⟨left, rfl⟩ := Nat.exists_eq_add_of_le (show n ≤ fuel by omega)
      obtain ⟨packets, rest', hreads⟩ := ih left (by omega) r₁ rest hw₁ (by omega)
      rw [hloop]
      exact ⟨packet :: packets, rest', hreads.cons hcomplete hd hr⟩

/-! ## What is delivered -/

/-- The packets that the constructors of `Write_packet` build. -/
inductive Built : WritePacket → UInt8 × Bytes → Prop where
  | ofType (t : UInt8) : Built (.ofType t) (t, [])
  | ofSize (t : UInt8) (payloadSize : Nat) : payloadSize ≤ 65534 →
      Built (.ofSize t payloadSize) (t, List.replicate payloadSize 0)
  | ofData (t : UInt8) (payload : Bytes) : payload.length ≤ 65534 →
      Built (.ofData t payload) (t, payload)
  | filled (t : UInt8) (payload : Bytes) : payload.length ≤ 65534 →
      Built ((WritePacket.ofSize t payload.length).writePayload payload) (t, payload)

/-- What a packet carries. -/
def content (packet : ReadPacket) : UInt8 × Bytes := (packet.packetType, packet.payload)

/-- A type and a payload on the wire. -/
def encoding (c : UInt8 × Bytes) : Bytes := (WritePacket.ofData c.1 c.2).wire

theorem encoding_eq {c : UInt8 × Bytes} (h : c.2.length ≤ 65534) :
    encoding c = be16 (packetTypeLength + c.2.length) ++ c.1 :: c.2 :=
  (WritePacket.encodes_ofData c.1 h).wire_eq

theorem Built.encoding {packet : WritePacket} {c : UInt8 × Bytes} (h : Built packet c) :
    c.2.length ≤ 65534 ∧ packet.wire = encoding c := by
  cases h with
  | ofType t =>
    exact ⟨by simp, by rw [(WritePacket.encodes_ofType t).wire_eq, encoding_eq (by simp)]⟩
  | ofSize t payloadSize hn =>
    have hlen : (List.replicate payloadSize (0 : UInt8)).length ≤ 65534 := by simpa using hn
    have hencodes : (WritePacket.ofSize t payloadSize).Encodes t (List.replicate payloadSize 0) :=
      ⟨hlen, by simp [WritePacket.ofSize]⟩
    exact ⟨hlen, by rw [hencodes.wire_eq, encoding_eq hlen]⟩
  | ofData t payload hn => exact ⟨hn, rfl⟩
  | filled t payload hn =>
    exact ⟨hn, by rw [(WritePacket.encodes_writePayload t hn).wire_eq, encoding_eq hn]⟩

theorem Complete.encoding {packet : ReadPacket} (h : Complete packet) :
    packet.payload.length ≤ 65534 ∧ bytesOf packet = encoding (content packet) := by
  obtain ⟨header, payload⟩ := packet
  obtain ⟨hl, hp⟩ := h
  match header, hl with
  | [hi, lo, t], _ =>
    have hhi := hi.toNat_lt
    have hlo := lo.toNat_lt
    simp only [readBe16, packetTypeLength] at hp
    have hlen : payload.length ≤ 65534 := by omega
    refine ⟨hlen, ?_⟩
    have hbe : be16 (packetTypeLength + payload.length) = [hi, lo] := by
      rw [be16, packetTypeLength, ← hp]
      congr 1
      · apply UInt8.toNat_inj.mp
        rw [UInt8.toNat_ofNat']
        omega
      · congr 1
        apply UInt8.toNat_inj.mp
        rw [UInt8.toNat_ofNat']
        omega
    rw [encoding_eq hlen]
    show [hi, lo, t] ++ payload = be16 (packetTypeLength + payload.length) ++ t :: payload
    rw [hbe]
    rfl

theorem encoding_isFrame {c : UInt8 × Bytes} (h : c.2.length ≤ 65534) :
    packetFormat.IsFrame (encoding c) :=
  (WritePacket.encodes_ofData c.1 h).isFrame

/-- Two contents are told apart on the wire. -/
theorem encoding_inj {c d : UInt8 × Bytes} (hc : c.2.length ≤ 65534) (hd : d.2.length ≤ 65534)
    (h : encoding c = encoding d) : c = d := by
  rw [encoding_eq hc, encoding_eq hd] at h
  have hcons := (List.append_inj h rfl).2
  simp only [List.cons.injEq] at hcons
  exact Prod.ext hcons.1 hcons.2

theorem not_short_encoding {c : UInt8 × Bytes} (h : c.2.length ≤ 65534) (s : Bytes) :
    ¬Malformed (encoding c ++ s) ∧ ¬Torn (encoding c ++ s) := by
  have hsize : readBe16 (encoding c ++ s) = packetTypeLength + c.2.length := by
    rw [encoding_eq h, List.append_assoc, readBe16_be16]
    simp only [packetTypeLength]
    omega
  have hlen : (encoding c ++ s).length = packetHeaderLength + c.2.length + s.length := by
    rw [encoding_eq h, List.length_append, List.length_append, length_be16, List.length_cons]
    simp only [packetHeaderLength, packetSizeLength, packetTypeLength]
    omega
  simp only [Malformed, Torn, hsize, hlen, packetHeaderLength, packetSizeLength, packetTypeLength]
  omega

/-- A stream of whole packets is read in one way only, and to its end. -/
theorem contents_unique : ∀ {cs ds : List (UInt8 × Bytes)} {rest : Bytes},
    (∀ c ∈ cs, c.2.length ≤ 65534) → (∀ d ∈ ds, d.2.length ≤ 65534) →
    Torn rest ∨ Malformed rest → (cs.map encoding).flatten ++ rest = (ds.map encoding).flatten →
    cs = ds ∧ rest = []
  | [], [], rest, _, _, _, h => ⟨rfl, by simpa using h⟩
  | [], d :: ds, rest, _, hd, hrest, h => by
    have hshort := not_short_encoding (hd d List.mem_cons_self) (ds.map encoding).flatten
    simp only [List.map_nil, List.flatten_nil, List.nil_append, List.map_cons,
      List.flatten_cons] at h
    rw [← h] at hshort
    exact (hrest.elim hshort.2 hshort.1).elim
  | c :: cs, [], rest, hc, _, _, h => by
    have hne := (encoding_isFrame (hc c List.mem_cons_self)).ne_nil
    simp only [List.map_cons, List.flatten_cons, List.map_nil, List.flatten_nil,
      List.append_eq_nil_iff] at h
    exact absurd h.1.1 hne
  | c :: cs, d :: ds, rest, hc, hd, hrest, h => by
    have hcl := hc c List.mem_cons_self
    have hdl := hd d List.mem_cons_self
    simp only [List.map_cons, List.flatten_cons, List.append_assoc] at h
    have hnext := Format.next_append (encoding_isFrame hcl) ((cs.map encoding).flatten ++ rest)
    rw [h, Format.next_append (encoding_isFrame hdl)] at hnext
    simp only [Option.some.injEq, Prod.mk.injEq] at hnext
    obtain ⟨rfl, rfl⟩ := contents_unique (fun x hx => hc x (List.mem_cons_of_mem _ hx))
      (fun x hx => hd x (List.mem_cons_of_mem _ hx)) hrest hnext.2.symm
    exact ⟨by rw [encoding_inj hcl hdl hnext.1.symm], rfl⟩

theorem Reads.short {s rest : Bytes} {r r' : Receiver} {packets : List ReadPacket}
    (h : Reads s r r' packets rest) : ∀ c ∈ packets.map content, c.2.length ≤ 65534 := by
  intro c hc
  obtain ⟨packet, hp, rfl⟩ := List.mem_map.mp hc
  exact (h.complete packet hp).encoding.1

/-- The stream, as it is written. -/
theorem Reads.parsed {s rest : Bytes} {r r' : Receiver} {packets : List ReadPacket}
    (h : Reads s r r' packets rest) :
    s = ((packets.map content).map encoding).flatten ++ rest := by
  have hmap : packets.map bytesOf = (packets.map content).map encoding := by
    rw [List.map_map]
    exact List.map_congr_left fun packet hp => (h.complete packet hp).encoding.2
  rw [← hmap]
  exact h.stream

theorem wires_of_built {packets : List WritePacket} {contents : List (UInt8 × Bytes)}
    (h : List.Forall₂ Built packets contents) :
    packets.map WritePacket.wire = contents.map encoding ∧
      ∀ c ∈ contents, c.2.length ≤ 65534 := by
  induction h with
  | nil => simp
  | cons hb _ ih =>
    obtain ⟨hwires, hshort⟩ := ih
    refine ⟨by rw [List.map_cons, List.map_cons, hb.encoding.2, hwires], fun c hc => ?_⟩
    rcases List.mem_cons.mp hc with rfl | hc
    · exact hb.encoding.1
    · exact hshort c hc

/-- What a stream gives is in front of the rest, which is less than a packet or
begins with a malformed header. -/
theorem receiveAll_reads (s : Bytes) :
    ∃ rest, Reads s opened (receiveAll s) (receiveAll s).delivered rest := by
  obtain ⟨packets, rest, h⟩ :=
    loop_reads (s.length + 1) opened s waiting_opened (Nat.lt_succ_self _)
  have hd : (receiveAll s).delivered = packets := h.delivered
  exact ⟨rest, hd ▸ h⟩

/-- **The read loop gives back what was written.** Packets built by the
constructors are delivered exactly, in order. Of any other stream the packets
delivered are a prefix, whole, after which less than a packet is left or a
header of length 0; this is when, and only when, the header is reported. -/
theorem read_loop_exact :
    (∀ packets contents, List.Forall₂ Built packets contents →
      let r := receiveAll (packets.map WritePacket.wire).flatten
      r.delivered.map content = contents ∧ r.reported = []) ∧
    ∀ s, ∃ rest, let r := receiveAll s
      s = ((r.delivered.map content).map encoding).flatten ++ rest ∧ Over r ∧
      (Torn rest ∨ Malformed rest) ∧
      r.reported = if Malformed rest then [.malformedHeader] else [] := by
  constructor
  · intro packets contents hbuilt
    obtain ⟨hwires, hshort⟩ := wires_of_built hbuilt
    rw [hwires]
    obtain ⟨rest, h⟩ := receiveAll_reads (contents.map encoding).flatten
    have hdone := contents_unique h.short hshort (h.stopped.imp And.left And.left) h.parsed.symm
    refine ⟨hdone.1, ?_⟩
    rcases h.stopped with ⟨-, hr⟩ | ⟨hm, -⟩
    · exact hr
    · rw [hdone.2] at hm
      exact absurd hm.1 (by decide)
  · intro s
    obtain ⟨rest, h⟩ := receiveAll_reads s
    refine ⟨rest, h.parsed, h.ended, h.stopped.imp And.left And.left, ?_⟩
    rcases h.stopped with ⟨htorn, hr⟩ | ⟨hm, hr⟩
    · have hnot : ¬Malformed rest := by
        rintro ⟨hlen, hzero⟩
        rcases htorn with htorn | ⟨hpos, -⟩
        · omega
        · omega
      rw [if_neg hnot]
      exact hr
    · rw [if_pos hm]
      exact hr

/-- A message, and a heartbeat behind it. -/
def twoPackets : List WritePacket := [.ofData 83 [104, 105], .ofType 72]

theorem read_loop_exact_two :
    let r := receiveAll (twoPackets.map WritePacket.wire).flatten
    r.delivered.map content = [(83, [104, 105]), (72, [])] ∧ r.reported = [] := by
  have hbuilt : List.Forall₂ Built twoPackets [(83, [104, 105]), (72, [])] :=
    .cons (.ofData 83 [104, 105] (by simp)) (.cons (.ofType 72) .nil)
  exact read_loop_exact.1 twoPackets _ hbuilt

end SoupBin.Receiving
