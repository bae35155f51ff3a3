import Mathlib.Logic.Function.Basic
import SoupBin.SocketStream

/-!
# Two sockets on one connection

Both ends of a TCP connection, whatever their owners do, and the bytes that are on
the way. The network takes the bytes of a write in pieces of any size and keeps
their order. A read that fails is the last one.
-/

namespace SoupBin.Socket
open Records Receiving

/-- A socket, and what its owner has been told of the packets it reads. -/
structure Endpoint where
  socket : Socket
  delivered : List ReadPacket := []
  reported : List PacketError := []
  deriving DecidableEq, Repr

namespace Endpoint

def perform (e : Endpoint) (op : Operation) : Endpoint :=
  { e with socket := Socket.perform e.socket op }

def update (f : Socket → Socket) (e : Endpoint) : Endpoint := { e with socket := f e.socket }

def deliver (packet : ReadPacket) (e : Endpoint) : Endpoint :=
  { e with delivered := e.delivered ++ [packet] }

def report (error : PacketError) (e : Endpoint) : Endpoint :=
  { e with reported := e.reported ++ [error] }

/-- The owner that follows `script`. -/
def scripted (script : Script) : Handler Endpoint where
  socket := socket
  update := update
  connectFailure ec e := (script (.connectFailure ec)).foldl perform e
  connectSuccess e := (script .connectSuccess).foldl perform e
  readFailure ec e := (script (.readFailure ec)).foldl perform e
  readPacketFailure error e := (script (.readPacketFailure error)).foldl perform (e.report error)
  readSuccess packet e := (script (.readSuccess packet)).foldl perform (e.deliver packet)
  readAborted e := (script .readAborted).foldl perform e
  readEndOfFile e := (script .readEndOfFile).foldl perform e
  writeFailure ec e := (script (.writeFailure ec)).foldl perform e
  writeSuccess packet e := (script (.writeSuccess packet)).foldl perform e
  writeBufferEmpty e := (script .writeBufferEmpty).foldl perform e

def next (i : Input) (e : Endpoint) : Endpoint :=
  match i with
  | .call op => perform e op
  | .connectCompleted ec script => (scripted script).connectCompleted ec e
  | .headerCompleted result script => (scripted script).headerCompleted result e
  | .payloadCompleted result script => (scripted script).payloadCompleted result e
  | .writeCompleted result script => (scripted script).writeCompleted result e
  | .closed script => (script .closed).foldl perform (e.update notified)

end Endpoint

/-! ## The connection -/

inductive Side where
  | left
  | right
  deriving DecidableEq, Repr

def Side.other : Side → Side
  | .left => .right
  | .right => .left

/-- One direction of the stream. Of the packet that is being written `taken` bytes
have left, and `flying` have not been read yet. -/
structure Pipe where
  taken : Nat := 0
  flying : Bytes := []
  broken : Bool := false
  deriving DecidableEq, Repr

/-- A write that is complete makes room for the next one. -/
def Pipe.afterWrite (p : Pipe) : Input → Pipe
  | .writeCompleted (.ok _) _ => { p with taken := 0 }
  | _ => p

/-- A read takes its bytes, or is the last one. -/
def Pipe.afterRead (p : Pipe) : Input → Pipe
  | .headerCompleted (.ok bytes) _ | .payloadCompleted (.ok bytes) _ =>
    { p with flying := p.flying.drop bytes.length }
  | .headerCompleted (.error _) _ | .payloadCompleted (.error _) _ => { p with broken := true }
  | _ => p

/-- The sockets, and what is on its way from each of them. -/
structure Link where
  ends : Side → Endpoint
  pipes : Side → Pipe

inductive LinkInput where
  | socket (side : Side) (input : Input)
  | transmit (side : Side) (nbyte : Nat)

/-- The buffer that asio has been handed last. -/
def beingWritten (s : Socket) : Bytes :=
  if .write ∈ s.outstanding then (s.writtenPackets.getLast?.map WritePacket.wire).getD [] else []

namespace Link

/-- A read gives bytes that have arrived, all that it asks for. A write is complete
when all its bytes have left. -/
def Transfers (side : Side) (l : Link) : Input → Prop
  | .headerCompleted (.ok bytes) _ =>
    (l.pipes side.other).broken = false ∧ bytes.length = packetHeaderLength ∧
      bytes <+: (l.pipes side.other).flying
  | .payloadCompleted (.ok bytes) _ =>
    (l.pipes side.other).broken = false ∧
      bytes.length = (l.ends side).socket.readPacket.payloadSize ∧
      bytes <+: (l.pipes side.other).flying
  | .writeCompleted (.ok n) _ =>
    n = (l.pipes side).taken ∧ n = (l.ends side).socket.beingWritten.length
  | _ => True

instance (side : Side) (l : Link) (i : Input) : Decidable (l.Transfers side i) := by
  unfold Transfers
  split <;> infer_instance

def step (side : Side) (i : Input) (l : Link) : Link where
  ends := Function.update l.ends side (Endpoint.next i (l.ends side))
  pipes d := if d = side then (l.pipes d).afterWrite i else (l.pipes d).afterRead i

/-- Some more bytes of the packet that is being written leave. -/
def transmit (side : Side) (nbyte : Nat) (l : Link) : Link :=
  let p := l.pipes side
  let bytes := ((l.ends side).socket.beingWritten.drop p.taken).take nbyte
  let p := { p with taken := p.taken + nbyte, flying := p.flying ++ bytes }
  { l with pipes := Function.update l.pipes side p }

def system : System Link LinkInput where
  enabled
    | .socket side i, l => Socket.system.enabled i (l.ends side).socket ∧ l.Transfers side i
    | .transmit side nbyte, l =>
      (l.pipes side).taken + nbyte ≤ (l.ends side).socket.beingWritten.length
  next
    | .socket side i, l => l.step side i
    | .transmit side nbyte, l => l.transmit side nbyte

instance (i : LinkInput) (l : Link) : Decidable (system.enabled i l) :=
  match i with
  | .socket side i =>
    inferInstanceAs (Decidable (Socket.system.enabled i (l.ends side).socket ∧ l.Transfers side i))
  | .transmit side nbyte => inferInstanceAs (Decidable
      ((l.pipes side).taken + nbyte ≤ (l.ends side).socket.beingWritten.length))

/-- Two sockets that have not been used yet. -/
def start (isOpen : Side → Bool) (limit : Side → Nat) : Link where
  ends side := { socket := fresh (isOpen side) (limit side) }
  pipes _ := {}

end Link

/-- A type and a payload, as they are queued. -/
def carried (packet : WritePacket) : UInt8 × Bytes := (packet.packetType, packet.payloadData)

/-- A packet as the constructors build it. -/
def IsBuilt (packet : WritePacket) : Prop := ∃ c, Built packet c

/-- Every packet that an owner offers in this step is built by a constructor. -/
def LinkInput.Builds : LinkInput → Prop
  | .socket _ i => i.Offers IsBuilt
  | .transmit _ _ => True

/-- In this step an owner begins a read while one is outstanding. -/
def LinkInput.Rereads : LinkInput → Link → Prop
  | .socket side i, l => i.Makes rereads (l.ends side).socket
  | .transmit _ _, _ => False

instance (i : LinkInput) (l : Link) : Decidable (i.Rereads l) :=
  match i with
  | .socket side i => inferInstanceAs (Decidable (i.Makes rereads (l.ends side).socket))
  | .transmit _ _ => isFalse id

/-- What the owners of both ends are asked for. -/
structure LinkInput.Proper (i : LinkInput) (l : Link) : Prop where
  builds : i.Builds
  apart : ¬i.Rereads l

/-! ## What an owner is told -/

namespace Endpoint

theorem performs_eq (ops : List Operation) (e : Endpoint) :
    ops.foldl perform e = e.update (ops.foldl Socket.perform ·) := by
  induction ops generalizing e with
  | nil => rfl
  | cons op ops ih => exact ih (e.perform op)

theorem performs_socket (ops : List Operation) (e : Endpoint) :
    (ops.foldl perform e).socket = ops.foldl Socket.perform e.socket := by
  rw [performs_eq]
  rfl

/-- What is written down changes nothing. -/
theorem scripted_projects (script : Script) :
    (scripted script).Projects (Socket.scripted script) socket where
  socket _ := rfl
  update _ _ := rfl
  connectFailure _ e := performs_socket _ e
  connectSuccess e := performs_socket _ e
  readFailure _ e := performs_socket _ e
  readPacketFailure error e := performs_socket _ (e.report error)
  readSuccess packet e := performs_socket _ (e.deliver packet)
  readAborted e := performs_socket _ e
  readEndOfFile e := performs_socket _ e
  writeFailure _ e := performs_socket _ e
  writeSuccess _ e := performs_socket _ e
  writeBufferEmpty e := performs_socket _ e

theorem next_socket (i : Input) (e : Endpoint) :
    (next i e).socket = Socket.system.next i e.socket := by
  cases i with
  | call op => rfl
  | connectCompleted ec script => exact (scripted_projects script).connectCompleted ec e
  | headerCompleted result script => exact (scripted_projects script).headerCompleted result e
  | payloadCompleted result script => exact (scripted_projects script).payloadCompleted result e
  | writeCompleted result script => exact (scripted_projects script).writeCompleted result e
  | closed script => exact performs_socket _ (e.update notified)

/-- The owner has been told of the same packets. -/
def SameTold (e e' : Endpoint) : Prop := e'.delivered = e.delivered ∧ e'.reported = e.reported

theorem sameTold_performs (ops : List Operation) (e : Endpoint) :
    SameTold e (ops.foldl perform e) := by
  rw [performs_eq]
  exact ⟨rfl, rfl⟩

theorem sameTold_readFailed (script : Script) (ec : IoError) (e : Endpoint) :
    SameTold e ((scripted script).readFailed ec e) := by
  cases ec with
  | operationAborted | eof | other code => exact sameTold_performs _ e

/-- Only a read tells the owner of a packet. -/
theorem sameTold_next {i : Input} (hi : i.received = none) (e : Endpoint) :
    SameTold e (next i e) := by
  match i with
  | .call op => exact ⟨rfl, rfl⟩
  | .connectCompleted none script => exact sameTold_performs _ (e.update connectDone)
  | .connectCompleted (some .operationAborted) script => exact ⟨rfl, rfl⟩
  | .connectCompleted (some .eof) script => exact sameTold_performs _ (e.update connectDone)
  | .connectCompleted (some (.other code)) script =>
    exact sameTold_performs _ (e.update connectDone)
  | .headerCompleted (.error ec) script =>
    exact sameTold_readFailed script ec (e.update (readDone .readHeader))
  | .payloadCompleted (.error ec) script =>
    exact sameTold_readFailed script ec (e.update (readDone .readPayload))
  | .writeCompleted (.error .operationAborted) script => exact ⟨rfl, rfl⟩
  | .writeCompleted (.error .eof) script => exact sameTold_performs _ (e.update writeDone)
  | .writeCompleted (.error (.other code)) script => exact sameTold_performs _ (e.update writeDone)
  | .writeCompleted (.ok n) script =>
    change SameTold e ((scripted script).packetSent (.ok n) (e.update writeDone))
    simp only [Handler.packetSent]
    split
    · exact ⟨rfl, rfl⟩
    · split
      · exact sameTold_performs _ (e.update writeDone)
      · obtain ⟨hd, hr⟩ := sameTold_performs (script (.writeSuccess _)) (e.update writeDone)
        split
        · exact ⟨hd, hr⟩
        · split
          · obtain ⟨hd', hr'⟩ := sameTold_performs (script .writeBufferEmpty)
              ((((script (.writeSuccess _)).foldl perform (e.update writeDone)).update
                popPacket).update clearWasFull)
            exact ⟨hd'.trans hd, hr'.trans hr⟩
          · exact ⟨hd, hr⟩
  | .closed script => exact sameTold_performs _ (e.update notified)

/-! ### Packets -/

section
variable {e : Endpoint} {part bytes : Bytes}

/-- A header that announces no payload is a packet. -/
theorem next_empty_eq (e : Endpoint) (hl : bytes.length = packetHeaderLength)
    (hsize : readBe16 bytes = packetTypeLength) (script : Script) :
    next (.headerCompleted (.ok bytes) script) e =
      update maybeSignalClosed ((script (.readSuccess ⟨bytes, []⟩)).foldl perform
        ((((e.update (readDone .readHeader)).update (setReadPacket ⟨bytes, []⟩)).update
          (setReadPacket {})).deliver ⟨bytes, []⟩)) := by
  have hresize : ({ (readDone .readHeader e.socket).readPacket with header := bytes } :
      ReadPacket).resizePayload = (.emptyPayload, ⟨bytes, []⟩) :=
    ReadPacket.resizePayload_empty hsize
  exact congrArg (update maybeSignalClosed) ((scripted script).headerReceived_empty hl hresize)

/-- Any other header is followed by the payload. -/
theorem next_resized_eq (e : Endpoint) (hl : bytes.length = packetHeaderLength)
    (hsize : packetTypeLength < readBe16 bytes) (script : Script) :
    next (.headerCompleted (.ok bytes) script) e =
      update maybeSignalClosed (((e.update (readDone .readHeader)).update (setReadPacket
        ⟨bytes, List.replicate (readBe16 bytes - packetTypeLength) 0⟩)).update
          startReadPayload) := by
  have hresize : ({ (readDone .readHeader e.socket).readPacket with header := bytes } :
      ReadPacket).resizePayload =
        (.resized, ⟨bytes, List.replicate (readBe16 bytes - packetTypeLength) 0⟩) :=
    ReadPacket.resizePayload_resized hsize
  exact congrArg (update maybeSignalClosed)
    ((scripted script).headerReceived_resized hl hresize)

/-- The payload completes the packet. -/
theorem next_filled_eq (e : Endpoint) (hl : bytes.length = e.socket.readPacket.payloadSize)
    (script : Script) :
    next (.payloadCompleted (.ok bytes) script) e =
      update maybeSignalClosed
        ((script (.readSuccess { e.socket.readPacket with payload := bytes })).foldl perform
          (((e.update (readDone .readPayload)).update (setReadPacket {})).deliver
            { e.socket.readPacket with payload := bytes })) :=
  congrArg (update maybeSignalClosed)
    ((scripted script).payloadReceived_whole (w := e.update (readDone .readPayload)) hl)

theorem next_empty (h : Reading e.socket part) (hop : .readHeader ∈ e.socket.outstanding)
    (hl : bytes.length = packetHeaderLength) (hsize : readBe16 bytes = packetTypeLength)
    {script : Script}
    (hrereads : ¬(Input.headerCompleted (.ok bytes) script).Makes rereads e.socket) :
    let e' := next (.headerCompleted (.ok bytes) script) e
    Reading e'.socket [] ∧ e'.delivered = e.delivered ++ [⟨bytes, []⟩] ∧
      e'.reported = e.reported := by
  refine ⟨next_socket _ e ▸ h.empty hop hl hsize hrereads, ?_⟩
  rw [next_empty_eq e hl hsize, performs_eq]
  exact ⟨rfl, rfl⟩

theorem next_resized (h : Reading e.socket part) (hop : .readHeader ∈ e.socket.outstanding)
    (hl : bytes.length = packetHeaderLength) (hsize : packetTypeLength < readBe16 bytes)
    (script : Script) :
    let e' := next (.headerCompleted (.ok bytes) script) e
    Reading e'.socket bytes ∧ e'.delivered = e.delivered ∧ e'.reported = e.reported := by
  refine ⟨next_socket _ e ▸ h.resized hop hl hsize script, ?_⟩
  rw [next_resized_eq e hl hsize]
  exact ⟨rfl, rfl⟩

theorem next_filled (h : Reading e.socket part) (hop : .readPayload ∈ e.socket.outstanding)
    (hl : bytes.length = e.socket.readPacket.payloadSize) {script : Script}
    (hrereads : ¬(Input.payloadCompleted (.ok bytes) script).Makes rereads e.socket) :
    let e' := next (.payloadCompleted (.ok bytes) script) e
    Reading e'.socket [] ∧ e'.delivered = e.delivered ++ [⟨part, bytes⟩] ∧
      e'.reported = e.reported := by
  obtain ⟨⟨hpart, -, -⟩, -⟩ := h.payloadDone hop
  refine ⟨next_socket _ e ▸ h.filled hop hl hrereads, ?_⟩
  rw [next_filled_eq e hl, performs_eq, hpart]
  exact ⟨rfl, rfl⟩

end

end Endpoint

/-! ## One direction -/

theorem encodes_of_built {packet : WritePacket} {c : UInt8 × Bytes} (h : Built packet c) :
    packet.Encodes c.1 c.2 := by
  cases h with
  | ofType t => exact WritePacket.encodes_ofType t
  | ofSize t payloadSize hn =>
    have hlen : (List.replicate payloadSize (0 : UInt8)).length ≤ 65534 := by simpa using hn
    exact ⟨hlen, by simp [WritePacket.ofSize]⟩
  | ofData t payload hn => exact WritePacket.encodes_ofData t hn
  | filled t payload hn => exact WritePacket.encodes_writePayload t hn

theorem carried_of_built {packet : WritePacket} {c : UInt8 × Bytes} (h : Built packet c) :
    carried packet = c := by
  have hencodes := encodes_of_built h
  apply Prod.ext
  · exact hencodes.packetType_eq
  · simp [carried, WritePacket.payloadData, hencodes.2, packetHeaderLength, packetSizeLength,
      packetTypeLength, be16]

/-- What is queued is what goes out. -/
theorem wire_of_built {packet : WritePacket} (h : IsBuilt packet) :
    (carried packet).2.length ≤ 65534 ∧ packet.wire = encoding (carried packet) ∧
      packet.wire.length = packet.size := by
  obtain ⟨c, hc⟩ := h
  have hencodes := encodes_of_built hc
  have hcarried := carried_of_built hc
  refine ⟨hcarried ▸ hc.encoding.1, hcarried ▸ hc.encoding.2, ?_⟩
  rw [hencodes.wire_eq, WritePacket.size, hencodes.packetSize_eq, List.length_append,
    List.length_cons, length_be16, packetSizeLength, packetTypeLength]
  omega

/-- The bytes of the packet at the front of the queue. -/
def front (s : Socket) : Bytes := (s.writePackets.head?.toList.map WritePacket.wire).flatten

/-- The network has all of the packets `before`, a piece of the next one, and nothing
else. What has been read of it is what was delivered, and `part` of one packet more. -/
structure Carries (before : List WritePacket) (part : Bytes) (s : Socket) (p : Pipe)
    (r : Endpoint) : Prop extends InLine IsBuilt before s where
  taken : p.taken ≤ (front s).length
  reading : Reading r.socket part
  complete : ∀ packet ∈ r.delivered, Complete packet
  delivered : r.delivered.map content <+: s.acceptedPackets.map carried
  reported : r.reported = []
  stream : p.broken = false → (r.delivered.map bytesOf).flatten ++ part ++ p.flying =
    (before.map WritePacket.wire).flatten ++ (front s).take p.taken

section
variable {before : List WritePacket} {part : Bytes} {s s' : Socket} {p : Pipe} {r r' : Endpoint}

theorem Carries.idle (h : Carries before part s p r) (hempty : s.writePackets = []) :
    p.taken = 0 := by
  have htaken := h.taken
  rw [front, hempty] at htaken
  exact Nat.le_zero.mp htaken

theorem Carries.beingWritten_eq (h : Carries before part s p r) (hw : .write ∈ s.outstanding) :
    s.beingWritten = front s := by
  have hwrites := h.writes
  have hpos := List.count_pos_iff.mpr hw
  rw [beingWritten, if_pos hw, h.written, front]
  cases hq : s.writePackets with
  | nil =>
    rw [hq, List.head?_nil, Option.toList_none, List.length_nil] at hwrites
    omega
  | cons packet rest => simp

/-- Bytes leave. -/
theorem Carries.transmit (h : Carries before part s p r) {nbyte : Nat}
    (hn : p.taken + nbyte ≤ s.beingWritten.length) :
    Carries before part s { p with
      taken := p.taken + nbyte
      flying := p.flying ++ (s.beingWritten.drop p.taken).take nbyte } r := by
  by_cases hw : .write ∈ s.outstanding
  · have hwriting := h.beingWritten_eq hw
    refine { h with taken := hwriting ▸ hn, stream := fun hopen => ?_ }
    · dsimp only
      rw [← List.append_assoc, h.stream hopen, hwriting, List.append_assoc, List.take_add]
  · have hnone : s.beingWritten = [] := by rw [beingWritten, if_neg hw]
    have hzero : nbyte = 0 := by
      rw [hnone, List.length_nil] at hn
      omega
    subst hzero
    simpa using h

/-- Packets are queued. The front packet, if there was one, stays. -/
theorem Carries.queues (h : Carries before part s p r) (hs : QueuesOnly IsBuilt s s') :
    Carries before part s' p r := by
  have hline := h.toInLine.queues hs
  obtain ⟨new, hnew, -⟩ := hs
  have hfront : p.taken = 0 ∨ front s' = front s := by
    by_cases hempty : s.writePackets = []
    · exact Or.inl (h.idle hempty)
    · obtain ⟨packet, rest, hcons⟩ := List.exists_cons_of_ne_nil hempty
      right
      rw [front, front, hnew.queue, hcons]
      rfl
  refine { h with toInLine := hline, taken := ?_, delivered := ?_, stream := ?_ }
  · rcases hfront with hzero | hsame
    · rw [hzero]
      exact Nat.zero_le _
    · rw [hsame]
      exact h.taken
  · rw [hnew.accepted, List.map_append]
    exact h.delivered.trans (List.prefix_append _ _)
  · intro hopen
    rw [h.stream hopen]
    rcases hfront with hzero | hsame
    · rw [hzero, List.take_zero, List.take_zero]
    · rw [hsame]

/-- The front packet has left in full, and the next one is written. -/
theorem Carries.popped (h : Carries before part s p r) {new : List WritePacket}
    (hs : Popped s s' new) (hnew : ∀ packet ∈ new, IsBuilt packet)
    (hqueue : s.writePackets ≠ []) (htaken : p.taken = (front s).length) :
    Carries (before ++ s.writePackets.head?.toList) part s' { p with taken := 0 } r := by
  refine { h with
    toInLine := h.toInLine.popped hs hnew hqueue, taken := Nat.zero_le _, delivered := ?_,
    stream := ?_ }
  · rw [hs.accepted, List.map_append]
    exact h.delivered.trans (List.prefix_append _ _)
  · intro hopen
    rw [h.stream hopen, htaken, List.take_length, List.take_zero, List.append_nil, List.map_append,
      List.flatten_append]
    rfl

/-- Nothing is read. -/
theorem Carries.unread (h : Carries before part s p r) (ht : Endpoint.SameTold r r')
    (hr : Reading r'.socket part) : Carries before part s p r' :=
  { h with
    reading := hr
    complete := ht.1 ▸ h.complete
    delivered := ht.1 ▸ h.delivered
    reported := ht.2.trans h.reported
    stream := ht.1 ▸ h.stream }

/-- A read has failed. -/
theorem Carries.cut (h : Carries before part s p r) (ht : Endpoint.SameTold r r')
    (hr : Reading r'.socket []) : Carries before [] s { p with broken := true } r' :=
  { h with
    reading := hr
    complete := ht.1 ▸ h.complete
    delivered := ht.1 ▸ h.delivered
    reported := ht.2.trans h.reported
    stream := fun hopen => by cases hopen }

theorem Carries.wires (h : Carries before part s p r) :
    s.acceptedPackets.map WritePacket.wire = (s.acceptedPackets.map carried).map encoding := by
  rw [List.map_map]
  exact List.map_congr_left fun packet hp => (wire_of_built (h.offered packet hp)).2.1

theorem Carries.bytes (h : Carries before part s p r) :
    r.delivered.map bytesOf = (r.delivered.map content).map encoding := by
  rw [List.map_map]
  exact List.map_congr_left fun packet hp => (h.complete packet hp).encoding.2

/-- What is not delivered yet, and what has arrived of it. -/
theorem Carries.ahead (h : Carries before part s p r) (hopen : p.broken = false) :
    ∃ rest, s.acceptedPackets.map carried = r.delivered.map content ++ rest ∧
      (∀ c ∈ rest, c.2.length ≤ 65534) ∧ part ++ p.flying <+: (rest.map encoding).flatten := by
  obtain ⟨rest, hrest⟩ := h.delivered
  have hshort : ∀ c ∈ rest, c.2.length ≤ 65534 := by
    intro c hc
    have hmem : c ∈ s.acceptedPackets.map carried := hrest ▸ List.mem_append_right _ hc
    obtain ⟨packet, hp, rfl⟩ := List.mem_map.mp hmem
    exact (wire_of_built (h.offered packet hp)).1
  refine ⟨rest, hrest.symm, hshort, ?_⟩
  have hstream := h.stream hopen
  have hall : (before.map WritePacket.wire).flatten ++ (front s).take p.taken <+:
      (s.acceptedPackets.map WritePacket.wire).flatten := by
    rw [h.accepted, List.map_append, List.flatten_append, List.prefix_append_right_inj, front]
    refine (List.take_prefix _ _).trans ?_
    cases s.writePackets with
    | nil => exact List.nil_prefix
    | cons packet rest => simp
  rw [← hstream, h.wires, h.bytes, ← hrest, List.map_append, List.flatten_append,
    List.append_assoc, List.prefix_append_right_inj] at hall
  exact hall

theorem complete_of {t : UInt8} {payload : Bytes} (h : payload.length ≤ 65534) :
    Complete (.of t payload) := by
  refine ⟨rfl, ?_⟩
  simp only [ReadPacket.of, readBe16_be16, packetTypeLength]
  omega

theorem bytesOf_of {c : UInt8 × Bytes} (h : c.2.length ≤ 65534) :
    bytesOf (.of c.1 c.2) = encoding c :=
  (complete_of h).encoding.2

/-- The packet `c` is delivered. -/
theorem Carries.deliver (h : Carries before part s p r) (hopen : p.broken = false)
    {c : UInt8 × Bytes} {rest : List (UInt8 × Bytes)} {bytes flying : Bytes}
    (hrest : s.acceptedPackets.map carried = r.delivered.map content ++ c :: rest)
    (hc : c.2.length ≤ 65534) (hbytes : part ++ bytes = encoding c)
    (hflying : p.flying = bytes ++ flying) (hr : Reading r'.socket [])
    (hd : r'.delivered = r.delivered ++ [.of c.1 c.2]) (hreported : r'.reported = r.reported) :
    Carries before [] s { p with flying := flying } r' := by
  refine { h with
    reading := hr, complete := ?_, delivered := ?_, reported := hreported.trans h.reported,
    stream := fun _ => ?_ }
  · intro packet hp
    rw [hd, List.mem_append, List.mem_singleton] at hp
    rcases hp with hp | rfl
    · exact h.complete packet hp
    · exact complete_of hc
  · rw [hd, hrest, List.map_append]
    exact ⟨rest, by simp [content]⟩
  · rw [← h.stream hopen, hd, hflying, List.map_append, List.flatten_append]
    simp only [List.map_cons, List.map_nil, List.flatten_cons, List.flatten_nil, List.append_nil]
    rw [bytesOf_of hc, ← hbytes]
    simp only [List.append_assoc]

/-- The header that arrives is that of the packet that comes next. -/
theorem Carries.next_header (h : Carries before part s p r) (hopen : p.broken = false)
    (hop : .readHeader ∈ r.socket.outstanding) {bytes : Bytes}
    (hl : bytes.length = packetHeaderLength) (harrived : bytes <+: p.flying) :
    ∃ c rest, s.acceptedPackets.map carried = r.delivered.map content ++ c :: rest ∧
      c.2.length ≤ 65534 ∧ bytes = be16 (packetTypeLength + c.2.length) ++ [c.1] ∧
      readBe16 bytes = packetTypeLength + c.2.length := by
  obtain ⟨flying, hflying⟩ := harrived
  obtain ⟨rest, hrest, hshort, hahead⟩ := h.ahead hopen
  rw [(h.reading.headerDone hop).1, List.nil_append, ← hflying] at hahead
  obtain ⟨g, gs, hmap, hheader⟩ := Format.header_of_prefix (F := packetFormat) hl (by
    intro g hg
    obtain ⟨c, hc, rfl⟩ := List.mem_map.mp hg
    exact encoding_isFrame (hshort c hc)) hahead
  obtain ⟨c, rest, rfl, rfl, -⟩ := List.map_eq_cons_iff.mp hmap
  have hc := hshort c List.mem_cons_self
  have hbytes : bytes = be16 (packetTypeLength + c.2.length) ++ [c.1] := by
    rw [hheader, encoding_eq hc]
    rfl
  refine ⟨c, rest, hrest, hc, hbytes, ?_⟩
  rw [hbytes, readBe16_be16, packetTypeLength]
  omega

/-- A header has been read. -/
theorem Carries.header (h : Carries before part s p r) (hopen : p.broken = false)
    (hop : .readHeader ∈ r.socket.outstanding) {bytes : Bytes}
    (hl : bytes.length = packetHeaderLength) (harrived : bytes <+: p.flying) {script : Script}
    (hrereads : ¬(Input.headerCompleted (.ok bytes) script).Makes rereads r.socket) :
    ∃ part', Carries before part' s { p with flying := p.flying.drop bytes.length }
      (Endpoint.next (.headerCompleted (.ok bytes) script) r) := by
  obtain ⟨c, rest, hrest, hc, hbytes, hsize⟩ := h.next_header hopen hop hl harrived
  obtain ⟨flying, hflying⟩ := harrived
  have hdrop : p.flying.drop bytes.length = flying := by rw [← hflying, List.drop_left]
  have hpart : part = [] := (h.reading.headerDone hop).1
  subst hpart
  rw [hdrop]
  by_cases hempty : c.2 = []
  · obtain ⟨hr, hd, hreported⟩ := Endpoint.next_empty h.reading hop hl
      (by rw [hsize, hempty]; rfl) hrereads
    refine ⟨[], h.deliver hopen hrest hc ?_ hflying.symm hr (hd.trans ?_) hreported⟩
    · rw [hbytes, encoding_eq hc, hempty]
      rfl
    · rw [hbytes, hempty]
      rfl
  · have hpos := List.length_pos_iff.mpr hempty
    obtain ⟨hr, hd, hreported⟩ := Endpoint.next_resized h.reading hop hl
      (by rw [hsize]; omega) script
    refine ⟨bytes, { h with
      reading := hr, complete := hd.symm ▸ h.complete, delivered := hd.symm ▸ h.delivered
      reported := hreported.trans h.reported, stream := fun _ => ?_ }⟩
    rw [← h.stream hopen, hd, ← hflying, List.append_nil]
    simp only [List.append_assoc]

/-- The payload has been read. -/
theorem Carries.payload (h : Carries before part s p r) (hopen : p.broken = false)
    (hop : .readPayload ∈ r.socket.outstanding) {bytes : Bytes}
    (hl : bytes.length = r.socket.readPacket.payloadSize) (harrived : bytes <+: p.flying)
    {script : Script}
    (hrereads : ¬(Input.payloadCompleted (.ok bytes) script).Makes rereads r.socket) :
    Carries before [] s { p with flying := p.flying.drop bytes.length }
      (Endpoint.next (.payloadCompleted (.ok bytes) script) r) := by
  obtain ⟨flying, hflying⟩ := harrived
  have hdrop : p.flying.drop bytes.length = flying := by rw [← hflying, List.drop_left]
  obtain ⟨rest, hrest, hshort, hahead⟩ := h.ahead hopen
  obtain ⟨⟨-, hheader, hsize⟩, -⟩ := h.reading.payloadDone hop
  -- with its header it is the packet that comes next
  rw [← hflying, ← List.append_assoc] at hahead
  have hframe : packetFormat.IsFrame (part ++ bytes) := by
    have htake : (part ++ bytes).take packetHeaderLength = part := by
      rw [List.take_append_of_le_length (Nat.le_of_eq hheader.symm),
        List.take_of_length_le (Nat.le_of_eq hheader)]
    show (part ++ bytes).length = packetHeaderLength +
      (readBe16 ((part ++ bytes).take packetHeaderLength) - packetTypeLength)
    rw [htake, List.length_append, hheader, hl, hsize]
    omega
  obtain ⟨gs, hmap⟩ := Format.frame_of_prefix hframe (by
    intro g hg
    obtain ⟨c, hc, rfl⟩ := List.mem_map.mp hg
    exact encoding_isFrame (hshort c hc)) hahead
  obtain ⟨c, rest, rfl, hencoding, -⟩ := List.map_eq_cons_iff.mp hmap
  have hc := hshort c List.mem_cons_self
  have hsplit : part ++ bytes = (be16 (packetTypeLength + c.2.length) ++ [c.1]) ++ c.2 := by
    rw [← hencoding, encoding_eq hc]
    simp
  obtain ⟨hpart, hbytes⟩ := List.append_inj hsplit (by rw [hheader]; rfl)
  obtain ⟨hr, hd, hreported⟩ := Endpoint.next_filled h.reading hop hl hrereads
  rw [hdrop]
  refine h.deliver hopen hrest hc hencoding.symm hflying.symm hr (hd.trans ?_) hreported
  rw [hpart, hbytes]
  rfl

end

/-! ## Both directions -/

@[simp] theorem Side.other_other (side : Side) : side.other.other = side := by
  cases side <;> rfl

theorem Side.other_ne (side : Side) : side.other ≠ side := by
  cases side <;> decide

theorem Side.eq_or_eq_other (side d : Side) : d = side ∨ d = side.other := by
  cases side <;> cases d <;> decide

namespace Link

/-- Either direction, in any state that is reached. -/
def Flows (l : Link) : Prop :=
  ∀ side, ∃ before part, Carries before part (l.ends side).socket (l.pipes side)
    (l.ends side.other)

theorem flows_start (isOpen : Side → Bool) (limit : Side → Nat) : (start isOpen limit).Flows := by
  intro side
  refine ⟨[], [], ?_⟩
  constructor
  · exact ⟨fun _ h => absurd h List.not_mem_nil, rfl, rfl, Nat.zero_le _⟩
  · exact Nat.zero_le _
  · exact ⟨rfl, Or.inl ⟨List.not_mem_nil, rfl⟩⟩
  · exact fun _ h => absurd h List.not_mem_nil
  · exact List.nil_prefix
  · rfl
  · exact fun _ => rfl

/-- The direction in which the socket sends. -/
theorem sends_step {l : Link} (h : l.Flows) {side : Side} {i : Input}
    (henabled : Socket.system.enabled i (l.ends side).socket) (htransfers : l.Transfers side i)
    (hi : i.Offers IsBuilt) : ∃ before part, Carries before part
      (Endpoint.next i (l.ends side)).socket ((l.pipes side).afterWrite i) (l.ends side.other) := by
  obtain ⟨before, part, hc⟩ := h side
  rw [Endpoint.next_socket]
  by_cases hdone : i.Completes (l.ends side).socket
  · obtain ⟨new, hnew, hall⟩ := popped_next hi hdone hc.one_write
    match i, hdone with
    | .writeCompleted (.ok n) script, ⟨packet, hpacket, _⟩ =>
      obtain ⟨rest, hqueue⟩ := List.head?_eq_some_iff.mp hpacket
      have hne : (l.ends side).socket.writePackets ≠ [] := by
        rw [hqueue]
        exact List.cons_ne_nil _ _
      have htaken : (l.pipes side).taken = (front (l.ends side).socket).length := by
        rw [← hc.beingWritten_eq henabled]
        exact htransfers.1.symm.trans htransfers.2
      exact ⟨_, part, hc.popped hnew hall hne htaken⟩
  · refine ⟨before, part, ?_⟩
    have hpipe : (l.pipes side).afterWrite i = l.pipes side := by
      match i with
      | .writeCompleted (.ok n) script =>
        -- a write of the right size is complete
        exfalso
        apply hdone
        have hwriting := hc.beingWritten_eq henabled
        have hpos := List.count_pos_iff.mpr henabled
        have hwrites := hc.writes
        cases hhead : (l.ends side).socket.writePackets.head? with
        | none =>
          rw [hhead, Option.toList_none, List.length_nil] at hwrites
          omega
        | some packet =>
          refine ⟨packet, hhead, ?_⟩
          have hmem : packet ∈ (l.ends side).socket.acceptedPackets := by
            rw [hc.accepted]
            exact List.mem_append_right _ (List.mem_of_head? hhead)
          rw [htransfers.2, hwriting, front, hhead, ← (wire_of_built (hc.offered packet hmem)).2.2]
          simp
      | .writeCompleted (.error ec) script => rfl
      | .call op => rfl
      | .connectCompleted ec script => rfl
      | .headerCompleted result script => rfl
      | .payloadCompleted result script => rfl
      | .closed script => rfl
    rw [hpipe]
    exact hc.queues (queuesOnly_next hi hdone)

/-- The direction in which the socket receives. -/
theorem receives_step {l : Link} (h : l.Flows) {side : Side} {i : Input}
    (henabled : Socket.system.enabled i (l.ends side).socket) (htransfers : l.Transfers side i)
    (hrereads : ¬i.Makes rereads (l.ends side).socket) :
    ∃ before part, Carries before part (l.ends side.other).socket
      ((l.pipes side.other).afterRead i) (Endpoint.next i (l.ends side)) := by
  obtain ⟨before, part, hc⟩ := h side.other
  rw [Side.other_other] at hc
  have hreading := hc.reading
  have unread (hi : i.received = none) (hread : i.isRead = false) :
      Carries before part (l.ends side.other).socket (l.pipes side.other)
        (Endpoint.next i (l.ends side)) := by
    refine hc.unread (Endpoint.sameTold_next hi _) ?_
    rw [Endpoint.next_socket]
    exact hreading.next hread hrereads
  have cut (hi : i.received = none) (hread : i.isRead = true) :
      Carries before [] (l.ends side.other).socket { l.pipes side.other with broken := true }
        (Endpoint.next i (l.ends side)) := by
    refine hc.cut (Endpoint.sameTold_next hi _) ?_
    rw [Endpoint.next_socket]
    exact hreading.failed hread hi henabled hrereads
  match i with
  | .headerCompleted (.ok bytes) script =>
    obtain ⟨part', hc'⟩ := hc.header htransfers.1 henabled htransfers.2.1 htransfers.2.2 hrereads
    exact ⟨before, part', hc'⟩
  | .payloadCompleted (.ok bytes) script =>
    exact ⟨before, [], hc.payload htransfers.1 henabled htransfers.2.1 htransfers.2.2 hrereads⟩
  | .headerCompleted (.error ec) script => exact ⟨before, [], cut rfl rfl⟩
  | .payloadCompleted (.error ec) script => exact ⟨before, [], cut rfl rfl⟩
  | .call op => exact ⟨before, part, unread rfl rfl⟩
  | .connectCompleted ec script => exact ⟨before, part, unread rfl rfl⟩
  | .writeCompleted result script => exact ⟨before, part, unread rfl rfl⟩
  | .closed script => exact ⟨before, part, unread rfl rfl⟩

theorem flows_next {l : Link} (h : l.Flows) {i : LinkInput} (henabled : system.enabled i l)
    (hi : i.Proper l) : (system.next i l).Flows := by
  intro d
  cases i with
  | socket side i =>
    simp only [system, step]
    rcases side.eq_or_eq_other d with rfl | rfl
    · rw [Function.update_self, Function.update_of_ne d.other_ne, if_pos rfl]
      exact sends_step h henabled.1 henabled.2 hi.builds
    · rw [Function.update_of_ne side.other_ne, Side.other_other, Function.update_self,
        if_neg side.other_ne]
      exact receives_step h henabled.1 henabled.2 hi.apart
  | transmit side nbyte =>
    obtain ⟨before, part, hc⟩ := h d
    refine ⟨before, part, ?_⟩
    simp only [system, Link.transmit]
    by_cases hd : d = side
    · subst hd
      rw [Function.update_self]
      exact hc.transmit henabled
    · rwa [Function.update_of_ne hd]

theorem flows_run {isOpen : Side → Bool} {limit : Side → Nat} {inputs : List LinkInput} {l : Link}
    (h : (system.restrict LinkInput.Proper).Run (start isOpen limit) inputs l) : l.Flows := by
  apply System.Run.keeps _ h (flows_start isOpen limit)
  intro i l hi hl
  exact flows_next hl hi.1 hi.2

/-- **What one end accepts for writing is what the other is told of, in order.** Over
every order of calls, completions and transmissions at both ends in which no owner begins
a read beside another, however the bytes are cut up on the way, and whatever fails or is
closed: the packets that an owner has been told of are the first of those that the other
owner's `async_write` accepted, none lost, doubled or altered, and no header is ever found
malformed. -/
theorem delivered_in_order (isOpen : Side → Bool) (limit : Side → Nat) {inputs : List LinkInput}
    {l : Link} (h : (system.restrict LinkInput.Proper).Run (start isOpen limit) inputs l)
    (side : Side) :
    (l.ends side.other).delivered.map content <+:
        (l.ends side).socket.acceptedPackets.map carried ∧
      (l.ends side.other).reported = [] := by
  obtain ⟨before, part, hc⟩ := flows_run h side
  exact ⟨hc.delivered, hc.reported⟩

/-- A packet that leaves in two pieces and is read in two. -/
def twoPieces : List LinkInput :=
  [.socket .right (.call .asyncRead), .socket .left (.call (.asyncWrite (.ofData 83 [104, 105]))),
    .transmit .left 4, .socket .right (.headerCompleted (.ok [0, 3, 83]) fun _ => []),
    .transmit .left 1, .socket .left (.writeCompleted (.ok 5) fun _ => []),
    .socket .right (.payloadCompleted (.ok [104, 105]) fun _ => [])]

theorem delivered_in_order_two_pieces :
    let l := system.final (start (fun _ => true) fun _ => 100) twoPieces
    ((l.ends .right).delivered.map content <+: (l.ends .left).socket.acceptedPackets.map carried ∧
      (l.ends .right).reported = []) ∧
      (l.ends .right).delivered.map content = [(83, [104, 105])] := by
  have hsilent : Script.Offers IsBuilt fun _ => [] :=
    fun _ _ hp => absurd hp List.not_mem_nil
  have hread : Input.Offers IsBuilt (.call .asyncRead) := by
    intro packet hp
    simp at hp
  have hwrite : Input.Offers IsBuilt (.call (.asyncWrite (.ofData 83 [104, 105]))) := by
    intro packet hp
    rw [List.mem_singleton, Operation.asyncWrite.injEq] at hp
    exact ⟨(83, [104, 105]), hp ▸ .ofData 83 [104, 105] (by decide)⟩
  have hadmits : (system.restrict LinkInput.Proper).Admits
      (start (fun _ => true) fun _ => 100) twoPieces :=
    ⟨⟨by decide, hread, by decide⟩, ⟨by decide, hwrite, by decide⟩, ⟨by decide, trivial, id⟩,
      ⟨by decide, hsilent, by decide⟩, ⟨by decide, trivial, id⟩, ⟨by decide, hsilent, by decide⟩,
      ⟨by decide, hsilent, by decide⟩, trivial⟩
  exact ⟨delivered_in_order _ _ (System.run_of_admits hadmits) .left, by decide +kernel⟩

end Link

end SoupBin.Socket
