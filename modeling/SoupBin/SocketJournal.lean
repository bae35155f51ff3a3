import SoupBin.Socket

/-!
# What a socket accepts and writes

The packets accepted for writing, in order, and those handed to asio. Only
`async_write` accepts a packet.
-/

namespace SoupBin

def SocketAction.accepted? : SocketAction → Option WritePacket
  | .accepted packet => some packet
  | _ => none

def SocketAction.written? : SocketAction → Option WritePacket
  | .write packet => some packet
  | _ => none

namespace Socket

def acceptedPackets (s : Socket) : List WritePacket := s.journal.filterMap SocketAction.accepted?

def writtenPackets (s : Socket) : List WritePacket := s.journal.filterMap SocketAction.written?

/-- A socket that accepts a packet. -/
def Takes (s : Socket) : Prop :=
  s.closing = false ∧ s.writePackets.length ≠ s.writePacketsLimit

instance (s : Socket) : Decidable s.Takes := by
  unfold Takes
  infer_instance

theorem startWritePacket_writePackets (s : Socket) :
    s.startWritePacket.writePackets = s.writePackets := by
  unfold startWritePacket
  split <;> rfl

theorem startWritePacket_closing (s : Socket) : s.startWritePacket.closing = s.closing := by
  unfold startWritePacket
  split <;> rfl

theorem startWritePacket_limit (s : Socket) :
    s.startWritePacket.writePacketsLimit = s.writePacketsLimit := by
  unfold startWritePacket
  split <;> rfl

theorem startWritePacket_accepted (s : Socket) :
    s.startWritePacket.acceptedPackets = s.acceptedPackets := by
  unfold startWritePacket
  split
  · rfl
  · simp [acceptedPackets, begin, SocketAction.accepted?]

/-! ### async_write -/

/-- A packet that is taken. -/
theorem asyncWrite_taken {s : Socket} (h : s.Takes) (packet : WritePacket) :
    (s.asyncWrite packet).1 = .none ∧
      (s.asyncWrite packet).2.writePackets = s.writePackets ++ [packet] ∧
      (s.asyncWrite packet).2.acceptedPackets = s.acceptedPackets ++ [packet] := by
  unfold asyncWrite
  rw [if_neg (by simp [h.1])]
  dsimp only
  rw [if_neg h.2]
  refine ⟨rfl, ?_, ?_⟩
  · dsimp only
    split
    · exact startWritePacket_writePackets _
    · rfl
  · dsimp only
    split
    · rw [startWritePacket_accepted]
      simp [acceptedPackets, SocketAction.accepted?]
    · simp [acceptedPackets, SocketAction.accepted?]

/-- A packet that is refused. -/
theorem asyncWrite_refused {s : Socket} (h : ¬s.Takes) (packet : WritePacket) :
    (s.asyncWrite packet).1 ≠ .none ∧
      (s.asyncWrite packet).2.writePackets = s.writePackets ∧
      (s.asyncWrite packet).2.acceptedPackets = s.acceptedPackets := by
  unfold asyncWrite
  by_cases hc : s.closing = true
  · rw [if_pos hc]
    exact ⟨by simp, rfl, rfl⟩
  · rw [if_neg hc]
    by_cases hl : s.writePackets.length = s.writePacketsLimit
    · dsimp only
      rw [if_pos hl]
      exact ⟨by simp, rfl, rfl⟩
    · exact absurd ⟨by simpa using hc, hl⟩ h

theorem asyncWrite_closing (s : Socket) (packet : WritePacket) :
    (s.asyncWrite packet).2.closing = s.closing := by
  unfold asyncWrite
  split
  · rfl
  · dsimp only
    split
    · rfl
    · split
      · exact startWritePacket_closing _
      · rfl

theorem asyncWrite_limit (s : Socket) (packet : WritePacket) :
    (s.asyncWrite packet).2.writePacketsLimit = s.writePacketsLimit := by
  unfold asyncWrite
  split
  · rfl
  · dsimp only
    split
    · rfl
    · split
      · exact startWritePacket_limit _
      · rfl

/-- An operation that `async_write` begins. -/
theorem asyncWrite_outstanding (s : Socket) (packet : WritePacket) :
    (s.asyncWrite packet).2.outstanding = s.outstanding ∨
      s.writePackets = [] ∧ s.Takes ∧
        (s.asyncWrite packet).2.outstanding = s.outstanding ++ [.write] := by
  by_cases htakes : s.Takes
  · by_cases hempty : s.writePackets = []
    · right
      refine ⟨hempty, htakes, ?_⟩
      have hlimit : ¬0 = s.writePacketsLimit := by
        have hne := htakes.2
        rwa [hempty] at hne
      simp [asyncWrite, htakes.1, hempty, hlimit, startWritePacket, begin]
    · left
      have hlength : ¬s.writePackets.length = 0 := by simpa using hempty
      unfold asyncWrite
      rw [if_neg (by simp [htakes.1])]
      dsimp only
      rw [if_neg htakes.2, if_neg hlength]
  · left
    unfold asyncWrite
    by_cases hclosing : s.closing = true
    · rw [if_pos hclosing]
    · rw [if_neg hclosing]
      dsimp only
      rw [if_pos]
      by_contra hroom
      exact htakes ⟨by simpa using hclosing, hroom⟩

/-! ### Everything else -/

theorem maybeSignalClosed_accepted (s : Socket) :
    s.maybeSignalClosed.acceptedPackets = s.acceptedPackets := by
  unfold maybeSignalClosed
  split
  · simp [acceptedPackets, SocketAction.accepted?]
  · rfl

@[simp] theorem maybeSignalClosed_closing (s : Socket) : s.maybeSignalClosed.closing = s.closing := by
  unfold maybeSignalClosed
  split <;> rfl

theorem close_accepted (s : Socket) : s.close.acceptedPackets = s.acceptedPackets :=
  maybeSignalClosed_accepted _

theorem close_closing (s : Socket) : s.close.closing = true := by
  rw [close, maybeSignalClosed_closing]

theorem asyncRead_accepted (s : Socket) : s.asyncRead.acceptedPackets = s.acceptedPackets := by
  unfold asyncRead
  split
  · rfl
  · simp [startReadHeader, begin, acceptedPackets, SocketAction.accepted?]

theorem asyncRead_closing (s : Socket) : s.asyncRead.closing = s.closing := by
  unfold asyncRead
  split <;> rfl

theorem Handler.Internal.accepted {f : Socket → Socket} (hf : Handler.Internal f) (s : Socket) :
    (f s).acceptedPackets = s.acceptedPackets := by
  cases hf with
  | startReadPayload =>
    simp [Socket.startReadPayload, Socket.begin, acceptedPackets, SocketAction.accepted?]
  | startWritePacket => exact startWritePacket_accepted s
  | maybeSignalClosed => exact maybeSignalClosed_accepted s
  | _ => rfl

theorem Handler.Internal.closing {f : Socket → Socket} (hf : Handler.Internal f) (s : Socket) :
    (f s).closing = s.closing := by
  cases hf with
  | startWritePacket => exact startWritePacket_closing s
  | maybeSignalClosed => exact maybeSignalClosed_closing s
  | _ => rfl

/-- Nothing is posted as long as the socket is open. -/
theorem Handler.Internal.posted {f : Socket → Socket} (hf : Handler.Internal f) {s : Socket}
    (hopen : s.closing = false) : (f s).posted = s.posted := by
  cases hf with
  | startWritePacket =>
    unfold Socket.startWritePacket
    split <;> rfl
  | maybeSignalClosed => simp [Socket.maybeSignalClosed, hopen]
  | _ => rfl

end Socket
end SoupBin
