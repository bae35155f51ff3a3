import SoupBin.Sending

/-!
# Messages

`client::Message` and `server::Message` own the packet they will become. It
keeps its length in its own first bytes, so a message without a packet has no
length to look at, and one with 65535 bytes of payload has a length that does
not fit. Here every access to the buffer is checked, and `none` is an access
outside of it.
-/

namespace SoupBin
open Records

/-! ## The buffer of a packet -/

namespace WritePacket

/-- The `n` bytes at `off`. -/
def load (off n : Nat) (p : WritePacket) : Option Bytes :=
  if off + n ≤ p.packet.length then some ((p.packet.drop off).take n) else none

def store (off : Nat) (data : Bytes) (p : WritePacket) : Option WritePacket :=
  if off + data.length ≤ p.packet.length then
    some ⟨p.packet.take off ++ data ++ p.packet.drop (off + data.length)⟩
  else none

/-- `packet_size`. -/
def loadPacketSize (p : WritePacket) : Option Nat := (p.load 0 packetSizeLength).map readBe16

/-- `payload_size`. -/
def loadPayloadSize (p : WritePacket) : Option Nat :=
  p.loadPacketSize.map (sizeSub · packetTypeLength)

def payloadCapacity (p : WritePacket) : Nat := sizeSub p.packet.length packetHeaderLength

inductive ResizeResult where
  | resized
  | noCapacity
  deriving DecidableEq, Repr

def resizePayload (payloadSize : UInt16) (p : WritePacket) : Option (ResizeResult × WritePacket) :=
  if payloadSize.toNat > p.payloadCapacity then some (.noCapacity, p)
  else (p.store 0 (be16 (packetTypeLength + payloadSize.toNat))).map (.resized, ·)

/-- The bytes that the socket is told to write, `data()` and `size()`. -/
def loadWire (p : WritePacket) : Option Bytes :=
  p.loadPacketSize.bind fun packetSize => p.load 0 (packetSizeLength + packetSize)

/-- A packet of `room` bytes of payload, of which the first `size` count. -/
structure Sized (p : WritePacket) (packetType : UInt8) (size : Nat) (room : Bytes) : Prop where
  packet : p.packet = be16 (packetTypeLength + size) ++ packetType :: room
  fits : size ≤ room.length
  short : room.length ≤ 65534

variable {p : WritePacket} {packetType : UInt8} {size : Nat} {room : Bytes}

theorem sized_ofSize (packetType : UInt8) {payloadSize : Nat} (h : payloadSize ≤ 65534) :
    (ofSize packetType payloadSize).Sized packetType payloadSize (List.replicate payloadSize 0) :=
  ⟨rfl, Nat.le_of_eq List.length_replicate.symm, by rwa [List.length_replicate]⟩

theorem packet_ofData (packetType : UInt8) (payload : Bytes) :
    (ofData packetType payload).packet = be16 (packetTypeLength + payload.length % 65536) ++
      packetType :: payload.take (payload.length % 65536) := by
  have hlen : (payload.take (payload.length % 65536)).length = payload.length % 65536 := by
    rw [List.length_take]
    exact Nat.min_eq_left (Nat.mod_le _ _)
  have hrest : (List.replicate (payload.length % 65536) (0 : UInt8)).drop
      (payload.length % 65536) = [] :=
    List.drop_eq_nil_of_le (Nat.le_of_eq List.length_replicate)
  simp only [ofData, ofSize, WritePacket.writePayload, be16, packetHeaderLength, packetSizeLength,
    packetTypeLength, hlen]
  simp only [List.cons_append, List.nil_append, List.take_succ_cons, List.take_zero]
  rw [Nat.add_comm (2 + 1)]
  simp only [List.drop_succ_cons, hrest, List.append_nil]

theorem sized_ofData (packetType : UInt8) {payload : Bytes} (h : payload.length % 65536 ≤ 65534) :
    (ofData packetType payload).Sized packetType (payload.length % 65536)
      (payload.take (payload.length % 65536)) := by
  have hlen : (payload.take (payload.length % 65536)).length = payload.length % 65536 := by
    rw [List.length_take]
    exact Nat.min_eq_left (Nat.mod_le _ _)
  exact ⟨packet_ofData packetType payload, Nat.le_of_eq hlen.symm, by rwa [hlen]⟩

theorem Sized.length (h : p.Sized packetType size room) :
    p.packet.length = packetHeaderLength + room.length := by
  rw [h.packet, List.length_append, length_be16, List.length_cons, packetHeaderLength,
    packetSizeLength, packetTypeLength]
  omega

theorem Sized.loadPacketSize_eq (h : p.Sized packetType size room) :
    p.loadPacketSize = some (packetTypeLength + size) := by
  have hfits := h.fits
  have hshort := h.short
  have hlen := h.length
  simp only [packetHeaderLength, packetSizeLength, packetTypeLength] at hlen
  rw [loadPacketSize, load, packetSizeLength, if_pos (by omega), h.packet, Option.map_some,
    List.drop_zero]
  have hsize : readBe16 (be16 (packetTypeLength + size)) = (packetTypeLength + size) % 65536 := by
    have := readBe16_be16 (packetTypeLength + size) []
    rwa [List.append_nil] at this
  rw [show (be16 (packetTypeLength + size) ++ packetType :: room).take 2 =
    be16 (packetTypeLength + size) from rfl, hsize, packetTypeLength, Nat.mod_eq_of_lt (by omega)]

theorem Sized.loadPayloadSize_eq (h : p.Sized packetType size room) :
    p.loadPayloadSize = some size := by
  have hfits := h.fits
  have hshort := h.short
  rw [loadPayloadSize, h.loadPacketSize_eq, Option.map_some, sizeSub, packetTypeLength]
  exact congrArg some (by omega)

theorem Sized.payloadCapacity_eq (h : p.Sized packetType size room) :
    p.payloadCapacity = room.length := by
  have hshort := h.short
  rw [payloadCapacity, h.length, sizeSub]
  omega

/-- The socket is told to write bytes of the buffer. -/
theorem Sized.loadWire_eq (h : p.Sized packetType size room) :
    p.loadWire = some (be16 (packetTypeLength + size) ++ packetType :: room.take size) := by
  have hfits := h.fits
  have hlen := h.length
  simp only [packetHeaderLength, packetSizeLength, packetTypeLength] at hlen
  have hin : 0 + (packetSizeLength + (packetTypeLength + size)) ≤ p.packet.length := by
    simp only [packetSizeLength, packetTypeLength]
    omega
  have hcount : packetSizeLength + (packetTypeLength + size) = size + 1 + 1 + 1 := by
    simp only [packetSizeLength, packetTypeLength]
    omega
  rw [loadWire, h.loadPacketSize_eq, Option.bind_some, load, if_pos hin, hcount, List.drop_zero,
    h.packet]
  rfl

theorem Sized.resizePayload_eq (h : p.Sized packetType size room) {n : UInt16}
    (hn : n.toNat ≤ room.length) :
    ∃ p', p.resizePayload n = some (.resized, p') ∧ p'.Sized packetType n.toNat room := by
  have hlen := h.length
  simp only [packetHeaderLength, packetSizeLength, packetTypeLength] at hlen
  refine ⟨⟨be16 (packetTypeLength + n.toNat) ++ packetType :: room⟩, ?_, ⟨rfl, hn, h.short⟩⟩
  rw [resizePayload, h.payloadCapacity_eq, if_neg (by omega), store, length_be16,
    if_pos (by omega), h.packet]
  rfl

theorem Sized.resizePayload_refused (h : p.Sized packetType size room) {n : UInt16}
    (hn : room.length < n.toNat) : p.resizePayload n = some (.noCapacity, p) := by
  rw [resizePayload, h.payloadCapacity_eq, if_pos hn]

theorem Sized.writePayload (h : p.Sized packetType size room) {payload : Bytes}
    (hfits : payload.length ≤ room.length) :
    (p.writePayload payload).Sized packetType size (payload ++ room.drop payload.length) := by
  have hlen : (payload ++ room.drop payload.length).length = room.length := by
    rw [List.length_append, List.length_drop]
    omega
  refine ⟨?_, hlen ▸ h.fits, hlen ▸ h.short⟩
  rw [WritePacket.writePayload, h.packet, packetHeaderLength, packetSizeLength, packetTypeLength,
    be16]
  simp only [List.cons_append, List.nil_append, List.take_succ_cons, List.take_zero]
  rw [Nat.add_comm (2 + 1)]
  simp only [List.drop_succ_cons]

end WritePacket

/-! ## Messages -/

/-- `client::Message` and `server::Message`, which differ in the type of their
packets only. -/
structure Message where
  packet : WritePacket := {}
  deriving DecidableEq, Repr

namespace Message

def ofSize (packetType : UInt8) (payloadSize : UInt16) : Message :=
  ⟨.ofSize packetType payloadSize.toNat⟩

def ofData (packetType : UInt8) (payload : Bytes) : Message := ⟨.ofData packetType payload⟩

def releasePacket (m : Message) : WritePacket × Message := (m.packet, {})

/-- `send_message(Message&&)` of a class whose `send_packet` is `send`. The pointer
`payload_data()` lies behind the header and is never null. -/
def sendWith (send : WritePacket → σ → WriteError × σ) (s : σ) (m : Message) :
    Option (WriteError × σ × Message) :=
  match m.packet.loadPayloadSize with
  | none => none
  | some payloadSize =>
    if payloadSize = 0 then some (.emptyBuffer, s, m)
    else
      let (packet, m) := m.releasePacket
      let (error, s) := send packet s
      some (error, s, m)

/-- The message has a packet: it was made with a payload, and has not been moved
from, released or sent since. -/
def HoldsPacket (m : Message) : Prop := m.packet.packet ≠ []

/-- The payload lies within the buffer. -/
def PayloadInside (m : Message) : Prop :=
  ∃ size, m.packet.loadPayloadSize = some size ∧ packetHeaderLength + size ≤ m.packet.packet.length

/-- `resize_payload(n)` refuses and changes nothing, or the packet on the wire is
the length, the type and the first `n` bytes of the payload. -/
def Resizes (packetType : UInt8) (n : UInt16) (m : Message) : Prop :=
  m.packet.resizePayload n = some (.noCapacity, m.packet) ∨
  ∃ p, m.packet.resizePayload n = some (.resized, p) ∧ PayloadInside ⟨p⟩ ∧
    p.loadWire = some (be16 (packetTypeLength + n.toNat) ++
      packetType :: m.packet.payloadData.take n.toNat)

/-- Whatever the message is sent with, only its own bytes are looked at, now and
when it is written; and one without a packet is refused. -/
def SendsSafely (m : Message) : Prop :=
  ∀ {σ : Type} (send : WritePacket → σ → WriteError × σ) (s : σ),
    ∃ error s' m', m.sendWith send s = some (error, s', m') ∧ m.packet.loadWire.isSome ∧
      (¬m.HoldsPacket → error ≠ .none)

theorem not_payloadInside_wrapped (packetType : UInt8) {room : Bytes} (h : room.length = 65535) :
    ¬PayloadInside ⟨⟨be16 (packetTypeLength + room.length) ++ packetType :: room⟩⟩ := by
  rintro ⟨size, hsize, hle⟩
  have hlength : (be16 (packetTypeLength + room.length) ++ packetType :: room).length = 65538 := by
    rw [List.length_append, length_be16, List.length_cons, h]
  have hzero : (be16 (packetTypeLength + room.length) ++ packetType :: room).take 2 = [0, 0] := by
    rw [h]
    rfl
  simp only [WritePacket.loadPayloadSize, WritePacket.loadPacketSize, WritePacket.load, hlength,
    packetSizeLength, List.drop_zero, hzero] at hsize
  simp only [Nat.zero_add, Nat.reduceLeDiff, ↓reduceIte, Option.map_some, Option.some.injEq] at hsize
  rw [hlength] at hle
  have hwrapped : size = 2 ^ 64 - 1 := hsize.symm
  omega

theorem payloadInside_of_sized {m : Message} {packetType : UInt8} {size : Nat} {room : Bytes}
    (h : m.packet.Sized packetType size room) : m.PayloadInside := by
  refine ⟨size, h.loadPayloadSize_eq, ?_⟩
  have := h.fits
  rw [h.length]
  omega

theorem payloadInside_ofSize (packetType : UInt8) (n : UInt16) :
    (ofSize packetType n).PayloadInside ↔ n.toNat ≤ 65534 := by
  constructor
  · intro h
    by_contra hlong
    have hn : n.toNat = 65535 := by
      have := n.toNat_lt
      omega
    have hroom : (List.replicate n.toNat (0 : UInt8)).length = n.toNat := List.length_replicate
    refine not_payloadInside_wrapped packetType (hroom.trans hn) ?_
    rw [hroom]
    exact h
  · intro h
    exact payloadInside_of_sized (WritePacket.sized_ofSize packetType h)

theorem payloadInside_ofData (packetType : UInt8) (payload : Bytes) :
    (ofData packetType payload).PayloadInside ↔ payload.length % 65536 ≤ 65534 := by
  constructor
  · intro h
    by_contra hlong
    have hroom : (payload.take (payload.length % 65536)).length = 65535 := by
      rw [List.length_take]
      omega
    refine not_payloadInside_wrapped packetType hroom ?_
    rw [hroom, show 65535 = payload.length % 65536 by omega, ← WritePacket.packet_ofData]
    exact h
  · intro h
    exact payloadInside_of_sized (WritePacket.sized_ofData packetType h)

/-- The user writes to `payload_data()`, as many bytes as there is room for. -/
def writePayload (payload : Bytes) (m : Message) : Message :=
  if packetHeaderLength + payload.length ≤ m.packet.packet.length then
    ⟨m.packet.writePayload payload⟩
  else m

/-! ## Any use of any messages -/

/-- One operation on one of the messages `0, 1, ...`. None is moved onto itself. -/
inductive Op where
  | default (i : Nat)
  | ofSize (i : Nat) (payloadSize : UInt16)
  | ofData (i : Nat) (payload : Bytes)
  | writePayload (i : Nat) (payload : Bytes)
  | move (source target : Nat) (distinct : source ≠ target)
  | releasePacket (i : Nat)
  | payloadSize (i : Nat)
  | resizePayload (i : Nat) (payloadSize : UInt16)
  | sendMessage (i : Nat)

/-- What becomes of the messages, `none` if an access goes astray. -/
def step (packetType : UInt8) (s : Nat → Message) : Op → Option (Nat → Message)
  | .default i => some (Function.update s i {})
  | .ofSize i payloadSize => some (Function.update s i (ofSize packetType payloadSize))
  | .ofData i payload => some (Function.update s i (ofData packetType payload))
  | .writePayload i payload => some (Function.update s i ((s i).writePayload payload))
  | .move source target _ => some (Function.update (Function.update s target (s source)) source {})
  | .releasePacket i => some (Function.update s i (s i).releasePacket.2)
  | .payloadSize i => (s i).packet.loadPayloadSize.map fun _ => s
  | .resizePayload i payloadSize =>
    ((s i).packet.resizePayload payloadSize).map fun r => Function.update s i ⟨r.2⟩
  | .sendMessage i =>
    ((s i).sendWith (fun _ sent => (.none, sent)) ()).map fun r => Function.update s i r.2.2

/-- What the operation should do. -/
def Right (packetType : UInt8) (s : Nat → Message) : Op → Prop
  | .ofSize _ payloadSize => (ofSize packetType payloadSize).PayloadInside
  | .ofData _ payload => (ofData packetType payload).PayloadInside
  | .payloadSize i => (s i).PayloadInside
  | .resizePayload i payloadSize => (s i).Resizes packetType payloadSize
  | .sendMessage i => (s i).SendsSafely
  | _ => True

/-- No message is made with 65535 bytes of payload, and one without a packet is not
asked for its size, resized or sent. -/
def Fit (s : Nat → Message) : Op → Prop
  | .ofSize _ payloadSize => payloadSize.toNat ≤ 65534
  | .ofData _ payload => payload.length % 65536 ≤ 65534
  | .payloadSize i | .resizePayload i _ | .sendMessage i => (s i).HoldsPacket
  | _ => True

/-- `P` holds of every operation and the messages it meets. -/
def EveryOp (packetType : UInt8) (P : (Nat → Message) → Op → Prop) :
    (Nat → Message) → List Op → Prop
  | _, [] => True
  | s, op :: ops => P s op ∧
    match step packetType s op with
    | none => True
    | some s' => EveryOp packetType P s' ops

/-- Every message is empty, or its packet has a length that fits. -/
def AllSized (packetType : UInt8) (s : Nat → Message) : Prop :=
  ∀ i, (s i).HoldsPacket → ∃ size room, (s i).packet.Sized packetType size room

theorem AllSized.update {packetType : UInt8} {s : Nat → Message} (h : AllSized packetType s)
    (i : Nat) {m : Message} (hm : m.HoldsPacket → ∃ size room, m.packet.Sized packetType size room) :
    AllSized packetType (Function.update s i m) := by
  intro j
  by_cases hj : j = i
  · rw [hj, Function.update_self]
    exact hm
  · rw [Function.update_of_ne hj]
    exact h j

theorem not_holdsPacket_empty : ¬HoldsPacket {} := fun h => h rfl

theorem loads_nothing {m : Message} (h : ¬m.HoldsPacket) : m.packet.loadPayloadSize = none := by
  have hnil : m.packet.packet = [] := not_not.mp h
  simp [WritePacket.loadPayloadSize, WritePacket.loadPacketSize, WritePacket.load, hnil,
    packetSizeLength]

theorem resizes_astray {m : Message} (h : ¬m.HoldsPacket) (n : UInt16) :
    m.packet.resizePayload n = none := by
  have hnil : m.packet.packet = [] := not_not.mp h
  have hcapacity : m.packet.payloadCapacity = 2 ^ 64 - 3 := by
    rw [WritePacket.payloadCapacity, hnil]
    rfl
  have hn := n.toNat_lt
  rw [WritePacket.resizePayload, hcapacity, if_neg (by omega), WritePacket.store, hnil,
    if_neg (by rw [length_be16, List.length_nil]; omega), Option.map_none]

theorem right_iff_fit {packetType : UInt8} {s : Nat → Message} (h : AllSized packetType s) (op : Op) :
    Right packetType s op ↔ Fit s op := by
  cases op with
  | ofSize i n => exact payloadInside_ofSize packetType n
  | ofData i payload => exact payloadInside_ofData packetType payload
  | payloadSize i =>
    constructor
    · rintro ⟨size, hsize, -⟩
      by_contra hempty
      rw [loads_nothing hempty] at hsize
      cases hsize
    · intro hholds
      obtain ⟨size, room, hs⟩ := h i hholds
      exact payloadInside_of_sized hs
  | resizePayload i n =>
    constructor
    · intro hright
      by_contra hempty
      rcases hright with hr | ⟨p, hr, -⟩
      · cases (resizes_astray hempty n).symm.trans hr
      · cases (resizes_astray hempty n).symm.trans hr
    · intro hholds
      obtain ⟨size, room, hs⟩ := h i hholds
      by_cases hn : n.toNat ≤ room.length
      · obtain ⟨p', hr, hs'⟩ := hs.resizePayload_eq hn
        have hdata : (s i).packet.payloadData = room := by
          rw [WritePacket.payloadData, hs.packet]
          rfl
        refine Or.inr ⟨p', hr, payloadInside_of_sized hs', ?_⟩
        rw [hdata]
        exact hs'.loadWire_eq
      · exact Or.inl (hs.resizePayload_refused (Nat.lt_of_not_le hn))
  | sendMessage i =>
    constructor
    · intro hright
      by_contra hempty
      obtain ⟨error, s', m', hr, -⟩ := hright (fun _ sent => (.none, sent)) ()
      rw [sendWith, loads_nothing hempty] at hr
      cases hr
    · intro hholds σ send sent
      obtain ⟨size, room, hs⟩ := h i hholds
      have hwire : (s i).packet.loadWire.isSome := by rw [hs.loadWire_eq]; rfl
      by_cases hzero : size = 0
      · refine ⟨.emptyBuffer, sent, s i, ?_, hwire, by simp⟩
        simp only [sendWith, hs.loadPayloadSize_eq, hzero, ↓reduceIte]
      · refine ⟨(send (s i).packet sent).1, (send (s i).packet sent).2, {}, ?_, hwire,
          fun hempty => absurd hholds hempty⟩
        simp only [sendWith, hs.loadPayloadSize_eq, hzero, ↓reduceIte, releasePacket]
  | default | writePayload | move | releasePacket => exact Iff.rfl

theorem AllSized.step {packetType : UInt8} {s s' : Nat → Message} (h : AllSized packetType s)
    {op : Op} (hfit : Fit s op) (hstep : step packetType s op = some s') :
    AllSized packetType s' := by
  cases op with
  | default i =>
    cases hstep
    exact h.update i fun hm => absurd hm not_holdsPacket_empty
  | ofSize i n =>
    cases hstep
    exact h.update i fun _ => ⟨_, _, WritePacket.sized_ofSize packetType hfit⟩
  | ofData i payload =>
    cases hstep
    exact h.update i fun _ => ⟨_, _, WritePacket.sized_ofData packetType hfit⟩
  | writePayload i payload =>
    cases hstep
    refine h.update i fun hm => ?_
    unfold writePayload at hm ⊢
    split at hm
    · rename_i hle
      have hholds : (s i).HoldsPacket := fun hnil => by
        simp only [hnil, List.length_nil, packetHeaderLength, packetSizeLength,
          packetTypeLength] at hle
        omega
      obtain ⟨size, room, hs⟩ := h i hholds
      rw [if_pos hle]
      exact ⟨size, _, hs.writePayload (by rw [hs.length] at hle; omega)⟩
    · rename_i hle
      rw [if_neg hle]
      exact h i hm
  | move source target distinct =>
    cases hstep
    exact (h.update target (h source)).update source fun hm => absurd hm not_holdsPacket_empty
  | releasePacket i =>
    cases hstep
    exact h.update i fun hm => absurd hm not_holdsPacket_empty
  | payloadSize i =>
    obtain ⟨size, -, rfl⟩ := Option.map_eq_some_iff.mp hstep
    exact h
  | resizePayload i n =>
    obtain ⟨⟨result, p⟩, hr, rfl⟩ := Option.map_eq_some_iff.mp hstep
    obtain ⟨size, room, hs⟩ := h i hfit
    refine h.update i fun _ => ?_
    by_cases hn : n.toNat ≤ room.length
    · obtain ⟨p', hr', hs'⟩ := hs.resizePayload_eq hn
      cases hr.symm.trans hr'
      exact ⟨_, _, hs'⟩
    · cases hr.symm.trans (hs.resizePayload_refused (by omega))
      exact ⟨_, _, hs⟩
  | sendMessage i =>
    obtain ⟨⟨error, sent, m'⟩, hr, rfl⟩ := Option.map_eq_some_iff.mp hstep
    obtain ⟨size, room, hs⟩ := h i hfit
    refine h.update i fun hm => ?_
    simp only [sendWith, hs.loadPayloadSize_eq] at hr
    split at hr
    · cases hr
      exact ⟨_, _, hs⟩
    · cases hr
      exact absurd hm not_holdsPacket_empty

theorem everyOp_right_iff_fit (packetType : UInt8) (ops : List Op) :
    ∀ {s : Nat → Message}, AllSized packetType s →
      (EveryOp packetType (Right packetType) s ops ↔ EveryOp packetType Fit s ops) := by
  induction ops with
  | nil => exact fun _ => Iff.rfl
  | cons op ops ih =>
    intro s h
    unfold EveryOp
    rw [right_iff_fit h op]
    refine and_congr_right fun hfit => ?_
    cases hstep : step packetType s op with
    | none => exact Iff.rfl
    | some s' => exact ih (h.step hfit hstep)

/-- **Messages are safe as long as they have a packet with a length that fits.** In
every run of operations on messages that begin empty: all of them stay inside the
buffers, every payload counts as many bytes as there are at most, and every resize
refuses or leaves the packet that was asked for, if and only if no message is made
with 65535 bytes of payload and none without a packet is asked for its size, resized
or sent. -/
theorem messages_safe_iff (packetType : UInt8) (ops : List Op) :
    EveryOp packetType (Right packetType) (fun _ => {}) ops ↔
      EveryOp packetType Fit (fun _ => {}) ops :=
  everyOp_right_iff_fit packetType ops fun _ h => absurd h not_holdsPacket_empty

/-- A message that was sent once is sent again: its length is looked for in a buffer
it does not have any more. -/
theorem sent_again_astray :
    ¬EveryOp UnsequencedDataPacket.packetType (Right UnsequencedDataPacket.packetType)
      (fun _ => {}) [.ofData 0 [7], .sendMessage 0, .sendMessage 0] := by
  rintro ⟨-, -, hright, -⟩
  obtain ⟨error, s', m', hr, -⟩ := hright (fun _ sent => (.none, sent)) ()
  cases hr

/-! ## Refused messages -/

/-- A message that is not sent still has its packet. -/
def KeptWhenRefused (m : Message) (result : Option (WriteError × σ × Message)) : Prop :=
  ∀ error s' m', result = some (error, s', m') → error ≠ .none → m' = m

/-- The message has a payload, so that its packet is moved out of it. -/
def HasPayload (m : Message) : Prop := ∃ size, m.packet.loadPayloadSize = some size ∧ size ≠ 0

theorem kept_iff {Taken : Prop} {send : WritePacket → σ → WriteError × σ} {s : σ} (m : Message)
    (htaken : (send m.packet s).1 = .none ↔ Taken) :
    KeptWhenRefused m (m.sendWith send s) ↔ (m.HasPayload → Taken) := by
  cases hsize : m.packet.loadPayloadSize with
  | none =>
    constructor
    · rintro - ⟨size, h, -⟩
      rw [hsize] at h
      cases h
    · intro _ error s' m' h
      rw [sendWith, hsize] at h
      cases h
  | some size =>
    by_cases hzero : size = 0
    · constructor
      · rintro - ⟨n, h, hn⟩
        rw [hsize] at h
        cases h
        exact absurd hzero hn
      · intro _ error s' m' h _
        simp only [sendWith, hsize, hzero, ↓reduceIte] at h
        cases h
        rfl
    · have hr : m.sendWith send s = some ((send m.packet s).1, (send m.packet s).2, {}) := by
        simp only [sendWith, hsize, hzero, ↓reduceIte, releasePacket]
      rw [hr]
      constructor
      · intro hkept _
        by_contra hrefused
        have hm := hkept _ _ _ rfl fun hnone => hrefused (htaken.mp hnone)
        rw [← hm] at hsize
        cases hsize
      · intro htakes error s' m' h herror
        cases h
        exact absurd (htaken.mpr (htakes ⟨size, hsize, hzero⟩)) herror

end Message

theorem Appends.none_iff {Takes : Prop} {packet : WritePacket} {result : WriteError}
    {before after : List WritePacket} (h : Appends Takes packet result before after) :
    result = .none ↔ Takes := by
  constructor
  · intro hr
    by_contra ht
    exact (h.refused ht).1 hr
  · exact fun ht => (h.taken ht).1

namespace ClientSide

/-- `Connection::send_message(Message&&)`. -/
def Connection.moveMessage (m : Message) (conn : Connection) :
    Option (WriteError × Connection × Message) := m.sendWith Connection.sendPacket conn

/-- `Client::send_message(Message&&)`. -/
def Client.moveMessage (m : Message) (c : Client) : Option (WriteError × Client × Message) :=
  m.sendWith Client.sendPacket c

/-- The session has not ended, and a connection is logged in and has room for a
packet. -/
def Connection.TakesPacket (conn : Connection) : Prop :=
  conn.hasSessionEnded = false ∧ conn.Takes TcpConnection.TakesData

def Client.TakesPacket (c : Client) : Prop :=
  c.hasSessionEnded = false ∧ ∃ conn ∈ c.connections, conn.TakesPacket

theorem Connection.sendPacket_none_iff (packet : WritePacket) (conn : Connection) :
    (conn.sendPacket packet).1 = .none ↔ conn.TakesPacket := by
  unfold sendPacket TakesPacket
  cases conn.hasSessionEnded with
  | true => simp
  | false =>
    have happends := conn.appends_sendWith fun t => t.appends_sendPacket packet
    simpa using happends.none_iff

theorem Client.priorityError_none_iff (errors : List WriteError) :
    priorityError errors = .none ↔ .none ∈ errors := by
  unfold priorityError
  constructor
  · intro h
    by_contra hnone
    rw [if_neg hnone] at h
    split at h
    · cases h
    · split at h <;> cases h
  · exact fun h => if_pos h

theorem Client.sendPacket_none_iff (packet : WritePacket) (c : Client) :
    (c.sendPacket packet).1 = .none ↔ c.TakesPacket := by
  unfold sendPacket TakesPacket
  cases c.hasSessionEnded with
  | true => simp
  | false =>
    have hall (connections : List Connection) :
        .none ∈ connections.map (fun conn => (conn.sendPacket packet).1) ↔
          ∃ conn ∈ connections, conn.TakesPacket := by
      simp only [List.mem_map, Connection.sendPacket_none_iff]
    simp only [Bool.false_eq_true, ↓reduceIte, true_and, ← hall]
    split
    · rename_i hone
      obtain ⟨conn, hc⟩ := List.length_eq_one_iff.mp hone
      simp [sendOne, hc, eq_comm]
    · split
      · rename_i htwo
        obtain ⟨conn1, conn2, hc⟩ := List.length_eq_two.mp htwo
        simp [sendTwo, hc, WritePacket.clone, priorityError_none_iff]
      · unfold sendMultiple
        rcases List.eq_nil_or_concat c.connections with hn | ⟨front, back, hc⟩
        · simp [hn]
        · simp [hc, offer_eq, WritePacket.clone, priorityError_none_iff]

end ClientSide

namespace ServerSide.Acceptor

/-- `Port::send_packet` and the count of the messages sent. -/
def sendCounted (p : Nat) (packet : WritePacket) (s : Acceptor) : WriteError × Acceptor :=
  let (error, s) := s.sendPacket p packet
  if error = .none then (error, s.updatePort p Port.countMessage) else (error, s)

/-- `Port::send_message(Message&&)`. -/
def moveMessage (p : Nat) (m : Message) (s : Acceptor) :
    Option (WriteError × Acceptor × Message) := m.sendWith (sendCounted p) s

/-- The session has not ended, and the port's connection is logged in and has room
for a packet. -/
def TakesPacket (p : Nat) (s : Acceptor) : Prop :=
  ∃ port, s.ports[p]? = some port ∧ port.hasSessionEnded = false ∧
    s.Takes TcpConnection.TakesData port.connection

theorem sendCounted_none_iff (p : Nat) (packet : WritePacket) (s : Acceptor) :
    (s.sendCounted p packet).1 = .none ↔ s.TakesPacket p := by
  have hsame : (s.sendCounted p packet).1 = (s.sendPacket p packet).1 := by
    unfold sendCounted
    dsimp only
    split <;> rfl
  rw [hsame]
  unfold sendPacket TakesPacket
  cases s.ports[p]? with
  | none => simp
  | some port =>
    cases hended : port.hasSessionEnded with
    | true => simp [hended]
    | false =>
      have happends := s.appends_sendWith (fun t => t.appends_sendPacket packet) port.connection
      simpa [hended] using happends.none_iff

end ServerSide.Acceptor

/-- **A refused message is lost.** `send_message(Message&&)` of a client, a connection
and a port, in every state: a message that is not sent still has its packet, if and
only if it had no payload or the packet was taken. -/
theorem message_kept_iff (m : Message) (c : ClientSide.Client) (conn : ClientSide.Connection)
    (s : ServerSide.Acceptor) (p : Nat) :
    (m.KeptWhenRefused (c.moveMessage m) ↔ (m.HasPayload → c.TakesPacket)) ∧
    (m.KeptWhenRefused (conn.moveMessage m) ↔ (m.HasPayload → conn.TakesPacket)) ∧
    (m.KeptWhenRefused (s.moveMessage p m) ↔ (m.HasPayload → s.TakesPacket p)) :=
  ⟨m.kept_iff (c.sendPacket_none_iff m.packet), m.kept_iff (conn.sendPacket_none_iff m.packet),
    m.kept_iff (s.sendCounted_none_iff p m.packet)⟩

/-- A connection that is not there refuses a message of one byte, and the message is
empty afterwards. -/
theorem refused_message_lost :
    let m : Message := .ofData UnsequencedDataPacket.packetType [7]
    let conn : ClientSide.Connection := { endpoint := 1 }
    conn.moveMessage m = some (.disconnected, conn, {}) ∧
      ¬m.KeptWhenRefused (conn.moveMessage m) := by
  intro m conn
  have hr : conn.moveMessage m = some (.disconnected, conn, {}) := by decide +kernel
  refine ⟨hr, fun hkept => ?_⟩
  exact absurd (hkept _ _ _ hr (by decide)) (by decide +kernel)

end SoupBin
