import SoupBin.Records

/-!
# Packets on the wire

`Write_packet` and `Read_packet`: two bytes of length, one of type, payload.
The length counts the type, so it is never 0 in a well-formed packet.
-/

namespace SoupBin
open Records

def packetSizeLength : Nat := 2
def packetTypeLength : Nat := 1
def packetHeaderLength : Nat := packetSizeLength + packetTypeLength

/-- Unsigned subtraction of `std::size_t`. -/
def sizeSub (a b : Nat) : Nat := (a + 2 ^ 64 - b) % 2 ^ 64

/-! ## Packets to be written -/

/-- `Write_packet`; an empty buffer stands for the null pointer. -/
structure WritePacket where
  packet : Bytes := []
  deriving DecidableEq, Repr

namespace WritePacket

/-- `Write_packet(char, std::uint16_t)`: the buffer is zeroed. -/
def ofSize (packetType : UInt8) (payloadSize : Nat) : WritePacket :=
  ⟨be16 (packetTypeLength + payloadSize) ++ packetType :: List.replicate payloadSize 0⟩

/-- `Write_packet(char)`. -/
def ofType (packetType : UInt8) : WritePacket := ofSize packetType 0

/-- What `write(packet, packet.payload_data())` does. -/
def writePayload (p : WritePacket) (payload : Bytes) : WritePacket :=
  ⟨p.packet.take packetHeaderLength ++ payload ++
    p.packet.drop (packetHeaderLength + payload.length)⟩

/-- `Write_packet(char, const void*, std::uint16_t)`, given a `std::size_t`:
the size is narrowed first. -/
def ofData (packetType : UInt8) (payload : Bytes) : WritePacket :=
  let payloadSize := payload.length % 65536
  (ofSize packetType payloadSize).writePayload (payload.take payloadSize)

def packetSize (p : WritePacket) : Nat := readBe16 p.packet
def packetType (p : WritePacket) : UInt8 := p.packet.getD packetSizeLength 0
def payloadSize (p : WritePacket) : Nat := sizeSub p.packetSize packetTypeLength
def payloadData (p : WritePacket) : Bytes := p.packet.drop packetHeaderLength
def size (p : WritePacket) : Nat := packetSizeLength + p.packetSize

/-- The buffer `(data(), size())` that is handed to the socket. -/
def wire (p : WritePacket) : Bytes := p.packet.take p.size

def clone (p : WritePacket) : WritePacket := ⟨p.packet⟩

end WritePacket

/-! ## Packets being read -/

structure ReadPacket where
  header : Bytes := List.replicate packetHeaderLength 0
  payload : Bytes := []
  deriving DecidableEq, Repr

namespace ReadPacket

inductive ResizeResult where
  | resized
  | emptyPayload
  | malformedHeader
  deriving DecidableEq, Repr

def packetSize (p : ReadPacket) : Nat := readBe16 p.header
def packetType (p : ReadPacket) : UInt8 := p.header.getD packetSizeLength 0
def payloadSize (p : ReadPacket) : Nat := p.payload.length

def resizePayload (p : ReadPacket) : ResizeResult × ReadPacket :=
  let packetSize := p.packetSize
  if packetSize < packetTypeLength then (.malformedHeader, { p with payload := [] })
  else if packetSize = packetTypeLength then (.emptyPayload, { p with payload := [] })
  else (.resized, { p with payload := List.replicate (packetSize - packetTypeLength) 0 })

/-- One turn of the read loop over bytes that are all there: the header, then
as much payload as it announces. -/
def receive (s : Bytes) : Option (ReadPacket × Bytes) :=
  if s.length < packetHeaderLength then none
  else
    let rest := s.drop packetHeaderLength
    match resizePayload { header := s.take packetHeaderLength } with
    | (.malformedHeader, _) => none
    | (.emptyPayload, p) => some (p, rest)
    | (.resized, p) =>
      if rest.length < p.payloadSize then none
      else some ({ p with payload := rest.take p.payloadSize }, rest.drop p.payloadSize)

end ReadPacket

/-! ## Well-formed packets -/

namespace ReadPacket

/-- The packet of this type and payload, as it is read. -/
def of (packetType : UInt8) (payload : Bytes) : ReadPacket :=
  ⟨be16 (packetTypeLength + payload.length) ++ [packetType], payload⟩

@[simp] theorem packetType_of (packetType : UInt8) (payload : Bytes) :
    (of packetType payload).packetType = packetType := rfl

@[simp] theorem payload_of (packetType : UInt8) (payload : Bytes) :
    (of packetType payload).payload = payload := rfl

theorem resizePayload_malformed {p : ReadPacket} (h : p.packetSize < packetTypeLength) :
    p.resizePayload = (.malformedHeader, { p with payload := [] }) := by
  rw [resizePayload, if_pos h]

theorem resizePayload_empty {p : ReadPacket} (h : p.packetSize = packetTypeLength) :
    p.resizePayload = (.emptyPayload, { p with payload := [] }) := by
  rw [resizePayload, if_neg (Nat.not_lt_of_ge (Nat.le_of_eq h.symm)), if_pos h]

theorem resizePayload_resized {p : ReadPacket} (h : packetTypeLength < p.packetSize) :
    p.resizePayload =
      (.resized, { p with payload := List.replicate (p.packetSize - packetTypeLength) 0 }) := by
  rw [resizePayload, if_neg (Nat.not_lt_of_gt h), if_neg (Nat.ne_of_gt h)]

/-- What a header makes the read loop do next. -/
theorem resizePayload_header {packetType : UInt8} {payload old : Bytes}
    (h : payload.length ≤ 65534) :
    resizePayload ⟨be16 (packetTypeLength + payload.length) ++ [packetType], old⟩ =
      (if payload = [] then .emptyPayload else .resized,
        ⟨be16 (packetTypeLength + payload.length) ++ [packetType],
          List.replicate payload.length 0⟩) := by
  have hsize : (packetTypeLength + payload.length) % 65536 = packetTypeLength + payload.length := by
    simp only [packetTypeLength]
    omega
  cases payload with
  | nil => simp [resizePayload, packetSize, packetTypeLength]
  | cons b payload =>
    simp only [resizePayload, packetSize, readBe16_be16, hsize]
    simp [packetTypeLength]

theorem payload_of_emptyPayload {p : ReadPacket} (h : p.resizePayload.1 = .emptyPayload) :
    p.resizePayload.2.payload = [] := by
  unfold resizePayload at h ⊢
  dsimp only at h ⊢
  split
  · rfl
  · rw [if_neg ‹_›] at h
    split
    · rfl
    · rw [if_neg ‹_›] at h
      cases h

end ReadPacket

/-- The wire format as records. -/
def packetFormat : Format where
  header := packetHeaderLength
  body := fun header => readBe16 header - packetTypeLength
  header_pos := by decide

namespace WritePacket

/-- The packet with this type and payload, which fits in its length field. -/
def Encodes (p : WritePacket) (packetType : UInt8) (payload : Bytes) : Prop :=
  payload.length ≤ 65534 ∧
    p.packet = be16 (packetTypeLength + payload.length) ++ packetType :: payload

theorem packetType_writePayload {packet : WritePacket} (payload : Bytes)
    (h : packetHeaderLength ≤ packet.packet.length) :
    (packet.writePayload payload).packetType = packet.packetType := by
  have hlen : packetSizeLength < (packet.packet.take packetHeaderLength).length := by
    rw [List.length_take, Nat.min_eq_left h]
    decide
  simp only [packetType, writePayload, List.append_assoc,
    List.getD_eq_getElem?_getD]
  rw [List.getElem?_append_left hlen, List.getElem?_take_of_lt (by decide)]

theorem packetType_ofSize (type : UInt8) (payloadSize : Nat) :
    (ofSize type payloadSize).packetType = type := by
  simp [packetType, ofSize, be16, packetSizeLength]

theorem packetType_written (type : UInt8) (payloadSize : Nat) (payload : Bytes) :
    ((ofSize type payloadSize).writePayload payload).packetType = type := by
  rw [packetType_writePayload, packetType_ofSize]
  simp only [ofSize, be16, List.length_append, List.length_cons, List.length_nil,
    packetHeaderLength, packetSizeLength, packetTypeLength]
  omega

theorem packetType_ofData (type : UInt8) (payload : Bytes) :
    (ofData type payload).packetType = type :=
  packetType_written _ _ _

theorem encodes_ofData (packetType : UInt8) {payload : Bytes} (h : payload.length ≤ 65534) :
    (ofData packetType payload).Encodes packetType payload := by
  have hn : payload.length % 65536 = payload.length := by omega
  refine ⟨h, ?_⟩
  simp [ofData, hn, ofSize, writePayload, be16, packetHeaderLength, packetSizeLength,
    packetTypeLength]
  omega

theorem encodes_writePayload (packetType : UInt8) {payload : Bytes} (h : payload.length ≤ 65534) :
    ((ofSize packetType payload.length).writePayload payload).Encodes packetType payload := by
  refine ⟨h, ?_⟩
  simp [ofSize, writePayload, be16, packetHeaderLength, packetSizeLength, packetTypeLength]
  omega

theorem encodes_ofType (packetType : UInt8) : (ofType packetType).Encodes packetType [] :=
  ⟨by simp, by simp [ofType, ofSize]⟩

variable {p : WritePacket} {t : UInt8} {payload : Bytes}

theorem Encodes.packetType_eq (h : p.Encodes t payload) : p.packetType = t := by
  simp [packetType, h.2, be16, packetSizeLength]

theorem Encodes.packetSize_eq (h : p.Encodes t payload) :
    p.packetSize = packetTypeLength + payload.length := by
  have hl := h.1
  rw [packetSize, h.2, readBe16_be16]
  simp only [packetTypeLength]
  omega

/-- The whole buffer goes out. -/
theorem Encodes.wire_eq (h : p.Encodes t payload) :
    p.wire = be16 (packetTypeLength + payload.length) ++ t :: payload := by
  rw [wire, h.2]
  apply List.take_of_length_le
  rw [size, h.packetSize_eq, List.length_append, List.length_cons, length_be16]
  simp only [packetSizeLength, packetTypeLength]
  omega

theorem Encodes.isFrame (h : p.Encodes t payload) : packetFormat.IsFrame p.wire := by
  have hl := h.1
  have hb : readBe16 ((be16 (packetTypeLength + payload.length) ++ t :: payload).take 3) =
      (packetTypeLength + payload.length) % 65536 := by
    rw [be16]
    simp [readBe16, packetTypeLength]
    omega
  simp only [Format.IsFrame, packetFormat, h.wire_eq, packetHeaderLength, packetSizeLength,
    packetTypeLength, hb, List.length_append, length_be16, List.length_cons] at *
  omega

/-- The read loop gives the packet back and stops right behind it. -/
theorem Encodes.receive_eq (h : p.Encodes t payload) (rest : Bytes) :
    ReadPacket.receive (p.wire ++ rest) = some (.of t payload, rest) := by
  have hs : (p.wire ++ rest).take packetHeaderLength =
      be16 (packetTypeLength + payload.length) ++ [t] := by
    simp [h.wire_eq, be16, packetHeaderLength, packetSizeLength, packetTypeLength]
  have hd : (p.wire ++ rest).drop packetHeaderLength = payload ++ rest := by
    simp [h.wire_eq, be16, packetHeaderLength, packetSizeLength, packetTypeLength]
  have hlen : ¬(p.wire ++ rest).length < packetHeaderLength := by
    simp [h.wire_eq, packetHeaderLength, packetSizeLength, packetTypeLength]
    omega
  simp only [ReadPacket.receive, if_neg hlen, hs, hd, ReadPacket.resizePayload_header h.1]
  cases payload with
  | nil => simp [ReadPacket.of]
  | cons b payload => simp [ReadPacket.of, ReadPacket.payloadSize]

end WritePacket

end SoupBin
