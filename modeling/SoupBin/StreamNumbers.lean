import SoupBin.LogicalPackets
import SoupBin.Traces
import Mathlib.Data.List.Induction

/-!
# Sequence numbers

No packet of data carries its sequence number. The Login Accepted packet has the
first, and both ends count from there.
-/

namespace SoupBin

/-- The Sequenced Data packets of a stream, each with its number. The state is the
number of the next one, once a login has been accepted. -/
def numbering : Traces.Machine (Option Nat) (UInt8 × Bytes) (Nat × Bytes) where
  next number packet :=
    match number with
    | none =>
      if packet.1 = LoginAcceptedPacket.packetType then
        some (LoginAcceptedPacket.read packet.2).nextSequenceNumber
      else none
    | some n => if packet.1 = SequencedDataPacket.packetType then some ((n + 1) % 2 ^ 64) else some n
  out number packet :=
    match number with
    | none => []
    | some n => if packet.1 = SequencedDataPacket.packetType then [(n, packet.2)] else []

def implied (packets : List (UInt8 × Bytes)) : Option Nat := numbering.state none packets

def numbered (packets : List (UInt8 × Bytes)) : List (Nat × Bytes) := numbering.output none packets

/-- Packets that do not count. -/
def Uncounted (packet : UInt8 × Bytes) : Prop :=
  packet.1 ≠ LoginAcceptedPacket.packetType ∧ packet.1 ≠ SequencedDataPacket.packetType

variable {packets : List (UInt8 × Bytes)}

theorem uncounted_append {more : List (UInt8 × Bytes)} (h : ∀ packet ∈ more, Uncounted packet) :
    implied (packets ++ more) = implied packets ∧ numbered (packets ++ more) = numbered packets := by
  apply numbering.skips
  intro packet hpacket
  obtain ⟨hlogin, hdata⟩ := h packet hpacket
  cases numbering.state none packets with
  | none => exact ⟨if_neg hlogin, rfl⟩
  | some n => exact ⟨if_neg hdata, if_neg hdata⟩

theorem login_append (h : implied packets = none) (payload : Bytes) :
    implied (packets ++ [(LoginAcceptedPacket.packetType, payload)]) =
        some (LoginAcceptedPacket.read payload).nextSequenceNumber ∧
      numbered (packets ++ [(LoginAcceptedPacket.packetType, payload)]) = numbered packets := by
  have hstate : numbering.state none packets = none := h
  rw [implied, numbered, numbering.state_concat, numbering.output_concat, hstate]
  exact ⟨rfl, List.append_nil _⟩

theorem data_append {n : Nat} (h : implied packets = some n) (data : Bytes) :
    implied (packets ++ [(SequencedDataPacket.packetType, data)]) = some ((n + 1) % 2 ^ 64) ∧
      numbered (packets ++ [(SequencedDataPacket.packetType, data)]) =
        numbered packets ++ [(n, data)] := by
  have hstate : numbering.state none packets = some n := h
  rw [implied, numbered, numbering.state_concat, numbering.output_concat, hstate]
  exact ⟨rfl, rfl⟩

/-- Data before a login has no number. -/
theorem unnumbered_append (h : implied packets = none) (data : Bytes) :
    implied (packets ++ [(SequencedDataPacket.packetType, data)]) = none ∧
      numbered (packets ++ [(SequencedDataPacket.packetType, data)]) = numbered packets := by
  have hstate : numbering.state none packets = none := h
  rw [implied, numbered, numbering.state_concat, numbering.output_concat, hstate]
  exact ⟨rfl, List.append_nil _⟩

/-- Nothing has a number before a login is accepted. -/
theorem numbered_nil (h : implied packets = none) : numbered packets = [] := by
  induction packets using List.reverseRecOn with
  | nil => rfl
  | append_singleton packets packet ih =>
    rw [implied, numbering.state_concat] at h
    rw [numbered, numbering.output_concat]
    cases hstate : numbering.state none packets with
    | none =>
      rw [show numbering.output none packets = [] from ih hstate]
      rfl
    | some n =>
      rw [hstate] at h
      simp only [numbering] at h
      split at h <;> cases h

/-- A number is never taken back. -/
theorem numbered_stays {packets' : List (UInt8 × Bytes)} (h : packets <+: packets') :
    numbered packets <+: numbered packets' := numbering.output_stays none h

/-- How many packets of data there are. -/
def dataPackets (packets : List (UInt8 × Bytes)) : Nat :=
  packets.countP fun packet => packet.1 = SequencedDataPacket.packetType

/-- Every packet of data moves the number on by one. -/
theorem implied_more {n : Nat} (h : implied packets = some n) (more : List (UInt8 × Bytes)) :
    ∃ m, implied (packets ++ more) = some m ∧ m % 2 ^ 64 = (n + dataPackets more) % 2 ^ 64 := by
  induction more using List.reverseRecOn with
  | nil => exact ⟨n, by rwa [List.append_nil], rfl⟩
  | append_singleton more packet ih =>
    obtain ⟨m, hm, hcount⟩ := ih
    have hstate : numbering.state none (packets ++ more) = some m := hm
    rw [← List.append_assoc, implied, numbering.state_concat, hstate, dataPackets,
      List.countP_append, List.countP_singleton]
    by_cases htype : packet.1 = SequencedDataPacket.packetType
    · refine ⟨(m + 1) % 2 ^ 64, if_pos htype, ?_⟩
      simp only [htype, decide_true, if_true]
      rw [dataPackets] at hcount
      omega
    · refine ⟨m, if_neg htype, ?_⟩
      simpa [htype, dataPackets] using hcount

end SoupBin
