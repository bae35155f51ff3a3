import SoupBin.SocketClosing
import SoupBin.SocketJournal

/-!
# A socket that is on its way to being closed

Between two events a socket that is closing has posted `closed`, or has an
operation outstanding whose completion posts it.
-/

namespace SoupBin

namespace Socket

/-- A socket that is closing has posted `closed`, or will when it is idle. -/
def Settled (s : Socket) : Prop :=
  s.closing = true → s.closedSignaled = true ∨ s.outstanding ≠ []

theorem Sound.settled_maybeSignalClosed {s : Socket} (h : s.Sound) :
    s.maybeSignalClosed.Settled := by
  intro hc
  unfold Socket.maybeSignalClosed at hc ⊢
  split
  · exact Or.inl rfl
  · rename_i hno
    rw [if_neg hno] at hc
    cases hs : s.closedSignaled with
    | true => exact Or.inl rfl
    | false =>
      right
      intro hnil
      have hconnect := h.connects
      have hread := h.reads
      have hwrite := h.writes
      rw [hnil] at hconnect hread hwrite
      simp [hc, hs, isIdle] at hno
      cases hcp : s.connectPending <;> cases hrp : s.readPending <;> cases hwp : s.writePending <;>
        simp_all

@[simp] theorem maybeSignalClosed_outstanding (s : Socket) :
    s.maybeSignalClosed.outstanding = s.outstanding := by
  unfold maybeSignalClosed
  split <;> rfl

@[simp] theorem maybeSignalClosed_readPending (s : Socket) :
    s.maybeSignalClosed.readPending = s.readPending := by
  unfold maybeSignalClosed
  split <;> rfl

/-- A signal that is set now was set before, or its notification is posted. -/
theorem told_maybeSignalClosed (s : Socket) (h : s.maybeSignalClosed.closedSignaled = true) :
    s.closedSignaled = true ∧ s.maybeSignalClosed.posted = s.posted ∨
      0 < s.maybeSignalClosed.posted := by
  unfold maybeSignalClosed at h ⊢
  split
  · exact Or.inr (Nat.succ_pos _)
  · rename_i hno
    rw [if_neg hno] at h
    exact Or.inl ⟨h, rfl⟩

/-- What reading and writing leave alone. -/
structure Follows (s s' : Socket) : Prop where
  closing : s'.closing = s.closing
  closedSignaled : s'.closedSignaled = s.closedSignaled
  posted : s'.posted = s.posted
  connect : .connect ∈ s'.outstanding → .connect ∈ s.outstanding

theorem Follows.refl (s : Socket) : Follows s s := ⟨rfl, rfl, rfl, id⟩

theorem Follows.begin {s s' : Socket} (h : Follows s s') (op : SocketOp) (action : SocketAction)
    (hop : op ≠ .connect) : Follows s (begin op action s') := by
  constructor
  · exact h.closing
  · exact h.closedSignaled
  · exact h.posted
  · intro hm
    simp only [Socket.begin, List.mem_append, List.mem_singleton] at hm
    rcases hm with hm | rfl
    · exact h.connect hm
    · exact absurd rfl hop

theorem Follows.startWritePacket {s s' : Socket} (h : Follows s s') :
    Follows s s'.startWritePacket := by
  unfold Socket.startWritePacket
  split
  · exact h
  · have flagged : Follows s { s' with writePending := true } :=
      ⟨h.closing, h.closedSignaled, h.posted, h.connect⟩
    exact flagged.begin .write _ (by decide)

theorem follows_asyncWrite (s : Socket) (packet : WritePacket) :
    Follows s (s.asyncWrite packet).2 := by
  unfold asyncWrite
  split
  · exact .refl s
  · dsimp only
    split
    · exact ⟨rfl, rfl, rfl, id⟩
    · have accepted : Follows s { s with
          writePackets := s.writePackets ++ [packet]
          journal := s.journal ++ [.accepted packet] } := ⟨rfl, rfl, rfl, id⟩
      split
      · exact accepted.startWritePacket
      · exact accepted

theorem startWritePacket_readPending (s : Socket) :
    s.startWritePacket.readPending = s.readPending := by
  unfold startWritePacket
  split <;> rfl

theorem asyncWrite_readPending (s : Socket) (packet : WritePacket) :
    (s.asyncWrite packet).2.readPending = s.readPending := by
  unfold asyncWrite
  split
  · rfl
  · dsimp only
    split
    · rfl
    · split
      · exact startWritePacket_readPending _
      · rfl

theorem Settled.asyncWrite {s : Socket} (h : s.Settled) (packet : WritePacket) :
    (s.asyncWrite packet).2.Settled := by
  by_cases hc : s.closing = true
  · unfold Socket.asyncWrite
    rw [if_pos hc]
    exact h
  · intro hc'
    rw [(follows_asyncWrite s packet).closing] at hc'
    exact absurd hc' hc

theorem follows_asyncRead (s : Socket) : Follows s s.asyncRead := by
  unfold asyncRead
  split
  · exact .refl s
  · have flagged : Follows s { s with readPacket := {}, readPending := true } :=
      ⟨rfl, rfl, rfl, id⟩
    exact flagged.begin .readHeader _ (by decide)

end Socket

end SoupBin
