import SoupBin.Receiving
import SoupBin.SocketQueue

/-!
# What a step does to the two streams of a socket

On one side the queue: packets are added at its end, and the one at the front
leaves it once it has been written. On the other side the packet that is being
read. Everything an owner may do between two completions is covered.
-/

namespace SoupBin.Socket
open Records

/-! ## Writing -/

/-- `new` has been queued. The packets before the queue are those that have been
written in full, and asio has been handed the one at the front too. -/
structure Queues (s s' : Socket) (new : List WritePacket) : Prop where
  accepted : s'.acceptedPackets = s.acceptedPackets ++ new
  queue : s'.writePackets = s.writePackets ++ new
  written : ∀ before, s.writtenPackets = before ++ s.writePackets.head?.toList →
    s'.writtenPackets = before ++ s'.writePackets.head?.toList
  writes : s'.outstanding.count .write + s.writePackets.head?.toList.length ≤
    s.outstanding.count .write + s'.writePackets.head?.toList.length

/-- The packet at the front has left the queue, and `new` has been queued. -/
structure Popped (s s' : Socket) (new : List WritePacket) : Prop where
  accepted : s'.acceptedPackets = s.acceptedPackets ++ new
  queue : s'.writePackets = s.writePackets.tail ++ new
  written : ∀ before, s.writtenPackets = before ++ s.writePackets.head?.toList →
    s'.writtenPackets = before ++ s.writePackets.head?.toList ++ s'.writePackets.head?.toList
  writes : s'.outstanding.count .write ≤ s'.writePackets.head?.toList.length

section
variable {a b c s s' : Socket} {new more : List WritePacket}

theorem Queues.same (h : Watched.SameQueue s s') : Queues s s' [] := by
  refine ⟨?_, ?_, ?_, ?_⟩
  · rw [h.accepted, List.append_nil]
  · rw [h.queue, List.append_nil]
  · intro before hbefore
    rw [h.written, h.queue]
    exact hbefore
  · rw [h.queue]
    exact Nat.add_le_add_right h.writes _

theorem Queues.trans (h : Queues a b new) (h' : Queues b c more) : Queues a c (new ++ more) := by
  refine ⟨?_, ?_, fun before hbefore => h'.written before (h.written before hbefore), ?_⟩
  · rw [h'.accepted, h.accepted, List.append_assoc]
  · rw [h'.queue, h.queue, List.append_assoc]
  · have h₁ := h.writes
    have h₂ := h'.writes
    omega

/-- The packet waits behind others, or is written at once. -/
theorem queues_asyncWrite (htakes : s.Takes) (packet : WritePacket) :
    Queues s (s.asyncWrite packet).2 [packet] := by
  obtain ⟨-, hqueue, haccepted⟩ := asyncWrite_taken htakes packet
  refine ⟨haccepted, hqueue, ?_, ?_⟩
  · intro before hbefore
    by_cases hempty : s.writePackets = []
    · have hroom : s.writePacketsLimit ≠ 0 := by
        have hne := htakes.2
        rw [hempty, List.length_nil] at hne
        exact Ne.symm hne
      rw [hempty, List.head?_nil, Option.toList_none, List.append_nil] at hbefore
      rw [Watched.asyncWrite_empty htakes.1 hempty hroom, ← hbefore]
      simp [writtenPackets, begin, List.filterMap_cons, SocketAction.written?]
    · obtain ⟨front, rest, hfront⟩ := List.exists_cons_of_ne_nil hempty
      rw [Watched.asyncWrite_behind htakes.1 hempty htakes.2]
      simpa [writtenPackets, SocketAction.written?, hfront, List.filterMap_cons] using hbefore
  · rw [hqueue]
    rcases asyncWrite_outstanding s packet with hout | ⟨hempty, -, hout⟩
    · rw [hout]
      cases s.writePackets with
      | nil => simp
      | cons front rest => simp
    · rw [hout, hempty]
      simp

/-- What a call of the owner queues. -/
theorem queues_perform (s : Socket) (op : Operation) :
    ∃ new, Queues s (perform s op) new ∧ ∀ packet ∈ new, op = .asyncWrite packet := by
  by_cases hwrite : ∃ packet, op = .asyncWrite packet
  · obtain ⟨packet, rfl⟩ := hwrite
    change ∃ new, Queues s (s.asyncWrite packet).2 new ∧ _
    by_cases htakes : s.Takes
    · refine ⟨[packet], queues_asyncWrite htakes packet, fun p hp => ?_⟩
      rw [List.mem_singleton.mp hp]
    · refine ⟨[], ?_, fun p hp => absurd hp List.not_mem_nil⟩
      obtain ⟨-, hqueue, haccepted⟩ := asyncWrite_refused htakes packet
      have hrefused : (s.asyncWrite packet).2.journal = s.journal ∧
          (s.asyncWrite packet).2.outstanding = s.outstanding := by
        unfold asyncWrite
        split
        · exact ⟨rfl, rfl⟩
        · dsimp only
          split
          · exact ⟨rfl, rfl⟩
          · exact absurd ⟨by simpa using ‹¬s.closing = true›, ‹_›⟩ htakes
      refine ⟨by rw [haccepted, List.append_nil], by rw [hqueue, List.append_nil], ?_, ?_⟩
      · intro before hbefore
        rw [hqueue, writtenPackets, hrefused.1]
        exact hbefore
      · exact Nat.le_of_eq (by rw [hqueue, hrefused.2])
  · have hother (packet : WritePacket) : op ≠ .asyncWrite packet := fun hop => hwrite ⟨packet, hop⟩
    refine ⟨[], ?_, fun p hp => absurd hp List.not_mem_nil⟩
    cases hlimit : op.setsLimit with
    | false => exact .same (Watched.sameQueue_perform s hother hlimit)
    | true =>
      cases op with
      | setWritePacketsLimit limit =>
        exact ⟨(List.append_nil _).symm, (List.append_nil _).symm, fun _ h => h, Nat.le_refl _⟩
      | _ => cases hlimit

/-- Every packet that the calls `ops` offer satisfies `P`. -/
def Offer (P : WritePacket → Prop) (ops : List Operation) : Prop :=
  ∀ packet, .asyncWrite packet ∈ ops → P packet

theorem queues_performs {P : WritePacket → Prop} {ops : List Operation} (hops : Offer P ops)
    (s : Socket) : ∃ new, Queues s (ops.foldl perform s) new ∧ ∀ packet ∈ new, P packet := by
  induction ops generalizing s with
  | nil => exact ⟨[], .same (.refl s), fun packet hp => absurd hp List.not_mem_nil⟩
  | cons op ops ih =>
    obtain ⟨new, hnew, hmem⟩ := queues_perform s op
    obtain ⟨more, hmore, hall⟩ := ih (fun packet hp => hops packet (List.mem_cons_of_mem _ hp))
      (perform s op)
    refine ⟨new ++ more, hnew.trans hmore, fun packet hp => ?_⟩
    rcases List.mem_append.mp hp with hp | hp
    · exact hops packet (hmem packet hp ▸ List.mem_cons_self)
    · exact hall packet hp

end

/-! ### Completions -/

/-- Whatever callback is made, the calls from inside it offer packets that satisfy `P`. -/
def Script.Offers (P : WritePacket → Prop) (script : Script) : Prop := ∀ cb, Offer P (script cb)

def Input.Offers (P : WritePacket → Prop) : Input → Prop
  | .call op => Offer P [op]
  | .connectCompleted _ script | .headerCompleted _ script | .payloadCompleted _ script
  | .writeCompleted _ script | .closed script => Script.Offers P script

/-- The packet at the front has been written in full. -/
def Input.Completes (s : Socket) : Input → Prop
  | .writeCompleted (.ok n) _ => ∃ packet ∈ s.writePackets.head?, n = packet.size
  | _ => False

/-- Packets that satisfy `P` have been queued, and nothing else happened to the queue. -/
def QueuesOnly (P : WritePacket → Prop) (s s' : Socket) : Prop :=
  ∃ new, Queues s s' new ∧ ∀ packet ∈ new, P packet

section
variable {P : WritePacket → Prop} {a b c s s' : Socket} {script : Script}

theorem QueuesOnly.same (h : Watched.SameQueue s s') : QueuesOnly P s s' :=
  ⟨[], .same h, fun _ hp => absurd hp List.not_mem_nil⟩

theorem QueuesOnly.trans (h : QueuesOnly P a b) (h' : QueuesOnly P b c) : QueuesOnly P a c := by
  obtain ⟨new, hnew, hall⟩ := h
  obtain ⟨more, hmore, hall'⟩ := h'
  refine ⟨new ++ more, hnew.trans hmore, fun packet hp => ?_⟩
  rcases List.mem_append.mp hp with hp | hp
  · exact hall packet hp
  · exact hall' packet hp

theorem queuesOnly_performs (hs : script.Offers P) (cb : Callback) (s : Socket) :
    QueuesOnly P s ((script cb).foldl perform s) := queues_performs (hs cb) s

theorem queuesOnly_readFailed (hs : script.Offers P) (ec : IoError) (s : Socket) :
    QueuesOnly P s ((scripted script).readFailed ec s) := by
  cases ec with
  | operationAborted | eof | other code => exact queuesOnly_performs hs _ s

theorem queuesOnly_connectCompleted (hs : script.Offers P) (ec : Option IoError) (s : Socket) :
    QueuesOnly P s ((scripted script).connectCompleted ec s) := by
  have hdone : QueuesOnly P s s.connectDone := .same (Watched.sameQueue_connectDone s)
  refine QueuesOnly.trans ?_ (.same (Watched.sameQueue_maybeSignalClosed _))
  match ec with
  | none => exact hdone.trans (queuesOnly_performs hs _ _)
  | some .operationAborted => exact hdone
  | some .eof => exact hdone.trans (queuesOnly_performs hs _ _)
  | some (.other code) => exact hdone.trans (queuesOnly_performs hs _ _)

theorem queuesOnly_headerCompleted (hs : script.Offers P) (result : Except IoError Bytes)
    (s : Socket) : QueuesOnly P s ((scripted script).headerCompleted result s) := by
  have hdone : QueuesOnly P s (readDone .readHeader s) := .same (Watched.sameQueue_readDone _ s)
  refine QueuesOnly.trans ?_ (.same (Watched.sameQueue_maybeSignalClosed _))
  cases result with
  | error ec => exact hdone.trans (queuesOnly_readFailed hs ec _)
  | ok bytes =>
    simp only [Handler.headerReceived]
    split
    · exact hdone.trans (queuesOnly_performs hs _ _)
    · have hread := hdone.trans (.same (P := P) (Watched.sameQueue_setReadPacket
        ((scripted script).headerRead s bytes).2 _))
      split
      · exact hread.trans (.same (Watched.sameQueue_startReadPayload _))
      · exact (hread.trans (.same (Watched.sameQueue_setReadPacket {} _))).trans
          (queuesOnly_performs hs _ _)
      · exact hread.trans (queuesOnly_performs hs _ _)

theorem queuesOnly_payloadCompleted (hs : script.Offers P) (result : Except IoError Bytes)
    (s : Socket) : QueuesOnly P s ((scripted script).payloadCompleted result s) := by
  have hdone : QueuesOnly P s (readDone .readPayload s) := .same (Watched.sameQueue_readDone _ s)
  refine QueuesOnly.trans ?_ (.same (Watched.sameQueue_maybeSignalClosed _))
  cases result with
  | error ec => exact hdone.trans (queuesOnly_readFailed hs ec _)
  | ok bytes =>
    simp only [Handler.payloadReceived]
    split
    · exact hdone.trans (queuesOnly_performs hs _ _)
    · exact (hdone.trans (.same (Watched.sameQueue_setReadPacket {} _))).trans
        (queuesOnly_performs hs _ _)

/-- A write that failed, or was short, stays at the front of the queue. -/
theorem queuesOnly_writeCompleted (hs : script.Offers P) {result : Except IoError Nat}
    (hshort : ¬(Input.writeCompleted result script).Completes s) :
    QueuesOnly P s ((scripted script).writeCompleted result s) := by
  have hdone : QueuesOnly P s s.writeDone := .same (Watched.sameQueue_writeDone s)
  refine QueuesOnly.trans ?_ (.same (Watched.sameQueue_maybeSignalClosed _))
  match result with
  | .error .operationAborted => exact hdone
  | .error .eof => exact hdone.trans (queuesOnly_performs hs _ _)
  | .error (.other code) => exact hdone.trans (queuesOnly_performs hs _ _)
  | .ok n =>
    simp only [Handler.packetSent]
    split
    · exact hdone
    · rename_i packet rest hqueue
      have hqueue : s.writePackets = packet :: rest := hqueue
      split
      · exact hdone.trans (queuesOnly_performs hs _ _)
      · rename_i hn
        exact absurd ⟨packet, by rw [hqueue]; rfl, not_not.mp hn⟩ hshort

/-- Every step but the completion of a whole packet. -/
theorem queuesOnly_next {i : Input} (hi : i.Offers P) (hshort : ¬i.Completes s) :
    QueuesOnly P s (system.next i s) := by
  cases i with
  | call op =>
    have hoffer : Offer P [op] := hi
    exact queues_performs hoffer s
  | connectCompleted ec script => exact queuesOnly_connectCompleted hi ec s
  | headerCompleted result script => exact queuesOnly_headerCompleted hi result s
  | payloadCompleted result script => exact queuesOnly_payloadCompleted hi result s
  | writeCompleted result script => exact queuesOnly_writeCompleted hi hshort
  | closed script =>
    have hnotified : QueuesOnly P s s.notified := .same ⟨rfl, rfl, rfl, rfl, rfl, Nat.le_refl _⟩
    exact hnotified.trans (queuesOnly_performs hi .closed s.notified)

/-- The next packet is written, if there is one. -/
theorem popped_startWritePacket (hidle : s.outstanding.count .write = 0) :
    Popped s s.popPacket.startWritePacket [] := by
  have hqueue : s.popPacket.startWritePacket.writePackets = s.writePackets.tail :=
    startWritePacket_writePackets _
  refine ⟨?_, by rw [hqueue, List.append_nil], ?_, ?_⟩
  · rw [startWritePacket_accepted, List.append_nil]
    rfl
  · intro before hbefore
    rw [hqueue, ← hbefore]
    unfold startWritePacket
    split
    · rename_i hlast
      have hlast : s.writePackets.tail = [] := hlast
      rw [hlast]
      exact (List.append_nil _).symm
    · rename_i next rest hmore
      have hmore : s.writePackets.tail = next :: rest := hmore
      rw [hmore]
      simp [writtenPackets, popPacket, begin, SocketAction.written?]
  · rw [hqueue]
    unfold startWritePacket
    split
    · exact Nat.le_trans (Nat.le_of_eq hidle) (Nat.zero_le _)
    · rename_i next rest hmore
      have hmore : s.writePackets.tail = next :: rest := hmore
      rw [hmore]
      simp [popPacket, begin, List.count_append, hidle]

/-- What is queued while the front packet is still there stands behind it. -/
theorem Queues.popped (h : Queues a b new) (hqueue : a.writePackets ≠ [])
    (h' : Popped b c more) : Popped a c (new ++ more) := by
  obtain ⟨front, rest, hfront⟩ := List.exists_cons_of_ne_nil hqueue
  have hhead : b.writePackets.head? = a.writePackets.head? := by
    rw [h.queue, hfront]
    rfl
  refine ⟨by rw [h'.accepted, h.accepted, List.append_assoc], ?_, ?_, h'.writes⟩
  · rw [h'.queue, h.queue, hfront]
    simp
  · intro before hbefore
    have hwritten := h'.written before (h.written before hbefore)
    rwa [hhead] at hwritten

theorem Popped.queues (h : Popped a b new) (h' : Queues b c more) : Popped a c (new ++ more) := by
  refine ⟨by rw [h'.accepted, h.accepted, List.append_assoc], ?_, ?_, ?_⟩
  · rw [h'.queue, h.queue, List.append_assoc]
  · intro before hbefore
    exact h'.written _ (h.written before hbefore)
  · have h₁ := h.writes
    have h₂ := h'.writes
    omega

/-- The packet at the front has been written in full. -/
theorem popped_packetSent (hs : script.Offers P) {front : WritePacket}
    (hfront : s.writePackets.head? = some front) (hidle : s.outstanding.count .write = 0) :
    ∃ new, Popped s ((scripted script).packetSent (.ok front.size) s) new ∧
      ∀ packet ∈ new, P packet := by
  obtain ⟨rest, hcons⟩ := List.head?_eq_some_iff.mp hfront
  have hne : s.writePackets ≠ [] := by
    rw [hcons]
    exact List.cons_ne_nil _ _
  rw [packetSent_eq script hfront]
  obtain ⟨new, hnew, hall⟩ := queues_performs (hs (.writeSuccess front)) s
  generalize (script (.writeSuccess front)).foldl perform s = w at hnew ⊢
  have hstill : w.outstanding.count .write = 0 := by
    have hwrites := hnew.writes
    rw [hnew.queue, hcons, hidle] at hwrites
    simpa using hwrites
  have hpopped := hnew.popped hne (popped_startWritePacket hstill)
  dsimp only
  split
  · exact ⟨_, hpopped, by simpa using hall⟩
  · rename_i hlast
    -- the queue is empty, so no write has begun
    have hstay : w.popPacket.startWritePacket = w.popPacket := by
      simp [startWritePacket, not_not.mp hlast]
    rw [hstay] at hpopped
    split
    · obtain ⟨more, hmore, hall'⟩ := queues_performs (hs .writeBufferEmpty)
        w.popPacket.clearWasFull
      have hclear : Queues w.popPacket w.popPacket.clearWasFull [] :=
        ⟨(List.append_nil _).symm, (List.append_nil _).symm, fun _ h => h, Nat.le_refl _⟩
      refine ⟨_, (hpopped.queues hclear).queues hmore, fun packet hp => ?_⟩
      rcases List.mem_append.mp hp with hp | hp
      · exact hall packet (by simpa using hp)
      · exact hall' packet hp
    · exact ⟨_, hpopped, by simpa using hall⟩

/-- The packet at the front leaves the queue once all of it has been written. -/
theorem popped_next {i : Input} (hi : i.Offers P) (hdone : i.Completes s)
    (hwrites : s.outstanding.count .write ≤ 1) :
    ∃ new, Popped s (system.next i s) new ∧ ∀ packet ∈ new, P packet := by
  match i, hdone with
  | .writeCompleted (.ok n) script, ⟨front, hfront, hn⟩ =>
    subst hn
    have hidle : s.writeDone.outstanding.count .write = 0 := by
      have herase : (s.outstanding.erase .write).count .write =
          s.outstanding.count .write - 1 := List.count_erase_self
      change (s.outstanding.erase .write).count .write = 0
      omega
    obtain ⟨new, hnew, hall⟩ := popped_packetSent hi (s := s.writeDone) hfront hidle
    have hsignal := hnew.queues (.same (Watched.sameQueue_maybeSignalClosed _))
    exact ⟨_, ⟨hsignal.accepted, hsignal.queue, hsignal.written, hsignal.writes⟩,
      by simpa using hall⟩

end

/-- The packets `before` have been written, and asio has the one at the front of the
queue. All of them satisfy `P`. -/
structure InLine (P : WritePacket → Prop) (before : List WritePacket) (s : Socket) : Prop where
  offered : ∀ packet ∈ s.acceptedPackets, P packet
  accepted : s.acceptedPackets = before ++ s.writePackets
  written : s.writtenPackets = before ++ s.writePackets.head?.toList
  writes : s.outstanding.count .write ≤ s.writePackets.head?.toList.length

section
variable {P : WritePacket → Prop} {before : List WritePacket} {s s' : Socket}

theorem InLine.queues (h : InLine P before s) (hs : QueuesOnly P s s') : InLine P before s' := by
  obtain ⟨new, hnew, hall⟩ := hs
  refine ⟨fun packet hp => ?_, ?_, hnew.written before h.written, ?_⟩
  · rw [hnew.accepted, List.mem_append] at hp
    exact hp.elim (h.offered packet) (hall packet)
  · rw [hnew.accepted, hnew.queue, h.accepted, List.append_assoc]
  · have h₁ := h.writes
    have h₂ := hnew.writes
    omega

theorem InLine.popped (h : InLine P before s) {new : List WritePacket} (hs : Popped s s' new)
    (hnew : ∀ packet ∈ new, P packet) (hqueue : s.writePackets ≠ []) :
    InLine P (before ++ s.writePackets.head?.toList) s' := by
  obtain ⟨packet, rest, hcons⟩ := List.exists_cons_of_ne_nil hqueue
  refine ⟨fun packet hp => ?_, ?_, hs.written before h.written, hs.writes⟩
  · rw [hs.accepted, List.mem_append] at hp
    exact hp.elim (h.offered packet) (hnew packet)
  · rw [hs.accepted, hs.queue, h.accepted, hcons]
    simp

/-- One write is outstanding at most. -/
theorem InLine.one_write (h : InLine P before s) : s.outstanding.count .write ≤ 1 := by
  have hwrites := h.writes
  have hone : s.writePackets.head?.toList.length ≤ 1 := by
    cases s.writePackets.head? <;> simp
  omega

end

/-! ## Reading

A call of the owner does not disturb the read that is outstanding. -/

/-- Of the packet that is being read `part` has come: the header, once it is known
how long the payload is. -/
structure Reading (s : Socket) (part : Bytes) : Prop where
  reads : s.outstanding.count .readHeader + s.outstanding.count .readPayload = s.readPending.toNat
  part : (.readPayload ∉ s.outstanding ∧ part = []) ∨
    .readPayload ∈ s.outstanding ∧ part = s.readPacket.header ∧
      part.length = packetHeaderLength ∧
      readBe16 part = packetTypeLength + s.readPacket.payloadSize

/-- Nothing has been read, and no read has begun. -/
structure SameReads (s s' : Socket) : Prop where
  header : s'.outstanding.count .readHeader = s.outstanding.count .readHeader
  payload : s'.outstanding.count .readPayload = s.outstanding.count .readPayload
  pending : s'.readPending = s.readPending
  packet : s'.readPacket = s.readPacket

section
variable {a b c s s' : Socket} {part : Bytes}

theorem SameReads.refl (s : Socket) : SameReads s s := ⟨rfl, rfl, rfl, rfl⟩

theorem SameReads.trans (h : SameReads a b) (h' : SameReads b c) : SameReads a c :=
  ⟨h'.header.trans h.header, h'.payload.trans h.payload, h'.pending.trans h.pending,
    h'.packet.trans h.packet⟩

theorem Reading.same (h : Reading s part) (hs : SameReads s s') : Reading s' part := by
  have hmem : .readPayload ∈ s'.outstanding ↔ .readPayload ∈ s.outstanding := by
    rw [← List.count_pos_iff, ← List.count_pos_iff, hs.payload]
  refine ⟨?_, ?_⟩
  · rw [hs.header, hs.payload, hs.pending]
    exact h.reads
  · rw [hmem, hs.packet]
    exact h.part

/-- An operation that is not a read. -/
theorem sameReads_begin {op : SocketOp} (hh : op ≠ .readHeader) (hp : op ≠ .readPayload)
    (action : SocketAction) (s : Socket) : SameReads s (begin op action s) := by
  refine ⟨?_, ?_, rfl, rfl⟩
  · simp [begin, List.count_append, hh]
  · simp [begin, List.count_append, hp]

theorem sameReads_connectDone (s : Socket) : SameReads s s.connectDone :=
  ⟨List.count_erase_of_ne (by decide), List.count_erase_of_ne (by decide), rfl, rfl⟩

theorem sameReads_writeDone (s : Socket) : SameReads s s.writeDone :=
  ⟨List.count_erase_of_ne (by decide), List.count_erase_of_ne (by decide), rfl, rfl⟩

theorem sameReads_startWritePacket (s : Socket) : SameReads s s.startWritePacket := by
  unfold startWritePacket
  split
  · exact .refl s
  · exact SameReads.trans (b := { s with writePending := true }) ⟨rfl, rfl, rfl, rfl⟩
      (sameReads_begin (by decide) (by decide) _ _)

theorem sameReads_maybeSignalClosed (s : Socket) : SameReads s s.maybeSignalClosed := by
  unfold maybeSignalClosed
  split
  · exact ⟨rfl, rfl, rfl, rfl⟩
  · exact .refl s

theorem sameReads_asyncWrite (s : Socket) (packet : WritePacket) :
    SameReads s (s.asyncWrite packet).2 := by
  unfold asyncWrite
  split
  · exact .refl s
  · dsimp only
    split
    · exact ⟨rfl, rfl, rfl, rfl⟩
    · have accepted : SameReads s { s with
          writePackets := s.writePackets ++ [packet]
          journal := s.journal ++ [.accepted packet] } := ⟨rfl, rfl, rfl, rfl⟩
      split
      · exact accepted.trans (sameReads_startWritePacket _)
      · exact accepted

theorem sameReads_asyncConnect (s : Socket) : SameReads s s.asyncConnect := by
  unfold asyncConnect
  split
  · exact .refl s
  · exact SameReads.trans (b := { s with connectPending := true, isOpen := true })
      ⟨rfl, rfl, rfl, rfl⟩ (sameReads_begin (by decide) (by decide) _ _)

theorem sameReads_close (s : Socket) : SameReads s s.close :=
  SameReads.trans (b := { s with closing := true, isOpen := false }) ⟨rfl, rfl, rfl, rfl⟩
    (sameReads_maybeSignalClosed _)

/-- No read is outstanding, and the next one begins. -/
theorem Reading.asyncRead (h : Reading s part) (hidle : s.readPending = false) :
    Reading s.asyncRead part := by
  unfold Socket.asyncRead
  split
  · exact h
  · have hreads := h.reads
    rw [hidle, Bool.toNat_false, Nat.add_eq_zero_iff] at hreads
    have hnot : .readPayload ∉ s.outstanding := List.count_eq_zero.mp hreads.2
    refine ⟨?_, Or.inl ⟨?_, ?_⟩⟩
    · simp [startReadHeader, begin, List.count_append, hreads]
    · simpa [startReadHeader, begin] using hnot
    · exact (h.part.resolve_right fun hp => hnot hp.1).2

theorem Reading.perform (h : Reading s part) {op : Operation} (hop : rereads s op = false) :
    Reading (perform s op) part := by
  cases op with
  | asyncRead =>
    by_cases hclosing : s.closing = true
    · simpa [Socket.perform, Socket.asyncRead, hclosing] using h
    · exact h.asyncRead (by simpa [rereads, hclosing] using hop)
  | asyncConnect => exact h.same (sameReads_asyncConnect s)
  | asyncWrite packet => exact h.same (sameReads_asyncWrite s packet)
  | close => exact h.same (sameReads_close s)
  | setWritePacketsLimit limit => exact h.same ⟨rfl, rfl, rfl, rfl⟩

theorem Reading.maybeSignalClosed (h : Reading s part) : Reading s.maybeSignalClosed part :=
  h.same (sameReads_maybeSignalClosed s)

/-! ### Completions -/

/-- One read is outstanding at most, and this was it. -/
theorem Reading.headerDone (h : Reading s part) (hop : .readHeader ∈ s.outstanding) :
    part = [] ∧ Reading (readDone .readHeader s) [] := by
  have hreads := h.reads
  have hpos := List.count_pos_iff.mpr hop
  have hle := s.readPending.toNat_le
  have hpayload : s.outstanding.count .readPayload = 0 := by omega
  have hnot : .readPayload ∉ s.outstanding := List.count_eq_zero.mp hpayload
  refine ⟨(h.part.resolve_right fun hp => hnot hp.1).2, ?_, Or.inl ⟨?_, rfl⟩⟩
  · simp [readDone, hpayload]
    omega
  · exact fun hm => hnot (List.mem_of_mem_erase hm)

theorem Reading.payloadDone (h : Reading s part) (hop : .readPayload ∈ s.outstanding) :
    (part = s.readPacket.header ∧ part.length = packetHeaderLength ∧
      readBe16 part = packetTypeLength + s.readPacket.payloadSize) ∧
      Reading (readDone .readPayload s) [] := by
  have hreads := h.reads
  have hpos := List.count_pos_iff.mpr hop
  have hle := s.readPending.toNat_le
  refine ⟨(h.part.resolve_left fun hp => hp.1 hop).2, ?_, Or.inl ⟨?_, rfl⟩⟩
  · simp [readDone]
    omega
  · intro hm
    have hcount := List.count_pos_iff.mpr hm
    simp [readDone] at hcount
    omega

/-- The header has been read, and a payload belongs to it. -/
theorem Reading.startReadPayload (h : Reading s []) (hidle : s.readPending = false)
    (hl : s.readPacket.header.length = packetHeaderLength)
    (hsize : readBe16 s.readPacket.header = packetTypeLength + s.readPacket.payloadSize) :
    Reading s.startReadPayload s.readPacket.header := by
  have hreads := h.reads
  rw [hidle, Bool.toNat_false, Nat.add_eq_zero_iff] at hreads
  refine ⟨?_, Or.inr ⟨?_, rfl, hl, hsize⟩⟩
  · simp [Socket.startReadPayload, begin, List.count_append, hreads]
  · simp [Socket.startReadPayload, begin]

theorem Reading.setReadPacket (h : Reading s []) (hidle : s.readPending = false)
    (packet : ReadPacket) : Reading (setReadPacket packet s) [] := by
  have hreads := h.reads
  rw [hidle, Bool.toNat_false, Nat.add_eq_zero_iff] at hreads
  have hnot : .readPayload ∉ s.outstanding := List.count_eq_zero.mp hreads.2
  exact ⟨h.reads, Or.inl ⟨hnot, rfl⟩⟩

/-- The bytes that this completion reads. -/
def Input.received : Input → Option Bytes
  | .headerCompleted (.ok bytes) _ | .payloadCompleted (.ok bytes) _ => some bytes
  | _ => none

/-- The completion of a read. -/
def Input.isRead : Input → Bool
  | .headerCompleted _ _ | .payloadCompleted _ _ => true
  | _ => false

end

/-- Of the packet that is being read `part` has come, unless a second read has begun
beside the first. -/
abbrev ReadingOnce (part : Bytes) : Noticed → Prop :=
  Noticed.Turns (Reading · part) fun _ => True

section
variable {s : Socket} {w : Noticed} {part : Bytes}

theorem Reading.once (h : Reading s part) : ReadingOnce part { socket := s } :=
  Noticed.turns_start h

theorem ReadingOnce.update (h : ReadingOnce part w) {f : Socket → Socket}
    (hf : ∀ s, SameReads s (f s)) : ReadingOnce part (w.update f) :=
  Noticed.Turns.update h (fun s hs => hs.same (hf s)) fun _ _ => trivial

theorem ReadingOnce.performs (h : ReadingOnce part w) (ops : List Operation) :
    ReadingOnce part (ops.foldl (Noticed.perform rereads) w) :=
  Noticed.Turns.performs (fun _ _ hs hop => hs.perform hop) (fun _ _ _ _ => trivial)
    (fun _ _ _ => trivial) h ops

theorem ReadingOnce.maybeSignalClosed (h : ReadingOnce part w) :
    ReadingOnce part (w.update Socket.maybeSignalClosed) := h.update sameReads_maybeSignalClosed

theorem ReadingOnce.packetSent (h : ReadingOnce part w) (script : Script)
    (result : Except IoError Nat) :
    ReadingOnce part ((Noticed.scripted rereads script).packetSent result w) := by
  match result with
  | .error .operationAborted => exact h
  | .error .eof => exact h.performs _
  | .error (.other code) => exact h.performs _
  | .ok n =>
    simp only [Handler.packetSent]
    split
    · exact h
    · rename_i front rest hqueue
      split
      · exact h.performs _
      · have hpop := (h.performs (script (.writeSuccess front))).update
          (f := popPacket) fun _ => ⟨rfl, rfl, rfl, rfl⟩
        split
        · exact hpop.update sameReads_startWritePacket
        · split
          · have hclear := hpop.update (f := clearWasFull) fun _ => ⟨rfl, rfl, rfl, rfl⟩
            exact hclear.performs _
          · exact hpop

theorem ReadingOnce.readFailed (h : ReadingOnce part w) (script : Script) (ec : IoError) :
    ReadingOnce part ((Noticed.scripted rereads script).readFailed ec w) := by
  cases ec with
  | operationAborted | eof | other code => exact h.performs _

/-- A step that begins no second read. -/
theorem ReadingOnce.reading {i : Input}
    (h : ReadingOnce part (Noticed.next rereads i { socket := s })) (hi : ¬i.Makes rereads s) :
    Reading (system.next i s) part := by
  have hreading := h.before (Bool.eq_false_iff.mpr hi)
  rwa [Noticed.next_socket] at hreading

/-- Every step but the completion of a read. -/
theorem Reading.next (h : Reading s part) {i : Input} (hi : i.isRead = false)
    (hrereads : ¬i.Makes rereads s) : Reading (system.next i s) part := by
  refine ReadingOnce.reading ?_ hrereads
  have hconnect := h.once.update sameReads_connectDone
  match i with
  | .call op => exact h.once.performs [op]
  | .connectCompleted none script => exact (hconnect.performs _).maybeSignalClosed
  | .connectCompleted (some .operationAborted) script => exact hconnect.maybeSignalClosed
  | .connectCompleted (some .eof) script => exact (hconnect.performs _).maybeSignalClosed
  | .connectCompleted (some (.other code)) script => exact (hconnect.performs _).maybeSignalClosed
  | .writeCompleted result script =>
    exact ((h.once.update sameReads_writeDone).packetSent script result).maybeSignalClosed
  | .closed script =>
    have hnotified := h.once.update (f := notified) fun _ => ⟨rfl, rfl, rfl, rfl⟩
    exact hnotified.performs _

/-- After a read that failed nothing is read any more. -/
theorem Reading.failed (h : Reading s part) {i : Input} (hread : i.isRead = true)
    (hi : i.received = none) (henabled : system.enabled i s) (hrereads : ¬i.Makes rereads s) :
    Reading (system.next i s) [] := by
  refine ReadingOnce.reading ?_ hrereads
  match i with
  | .headerCompleted (.error ec) script =>
    exact ((h.headerDone henabled).2.once.readFailed script ec).maybeSignalClosed
  | .payloadCompleted (.error ec) script =>
    exact ((h.payloadDone henabled).2.once.readFailed script ec).maybeSignalClosed

variable {bytes : Bytes} {script : Script}

/-- A header that announces no payload is a packet. -/
theorem Reading.empty (h : Reading s part) (hop : .readHeader ∈ s.outstanding)
    (hl : bytes.length = packetHeaderLength) (hsize : readBe16 bytes = packetTypeLength)
    (hrereads : ¬(Input.headerCompleted (.ok bytes) script).Makes rereads s) :
    Reading (system.next (.headerCompleted (.ok bytes) script) s) [] := by
  refine ReadingOnce.reading ?_ hrereads
  have hresize : ({ (readDone .readHeader s).readPacket with header := bytes } :
      ReadPacket).resizePayload = (.emptyPayload, ⟨bytes, []⟩) :=
    ReadPacket.resizePayload_empty hsize
  have hdone := (h.headerDone hop).2.setReadPacket rfl ⟨bytes, []⟩
  have hfresh := (hdone.setReadPacket rfl {}).once
  have hread := (Noticed.scripted rereads script).headerReceived_empty
    (w := { socket := readDone .readHeader s }) hl hresize
  change ReadingOnce [] (Noticed.update _ ((Noticed.scripted rereads script).headerReceived _
    { socket := readDone .readHeader s }))
  rw [hread]
  exact (hfresh.performs _).maybeSignalClosed

/-- Any other header is followed by the payload. -/
theorem Reading.resized (h : Reading s part) (hop : .readHeader ∈ s.outstanding)
    (hl : bytes.length = packetHeaderLength) (hsize : packetTypeLength < readBe16 bytes)
    (script : Script) : Reading (system.next (.headerCompleted (.ok bytes) script) s) bytes := by
  have hresize : ({ (readDone .readHeader s).readPacket with header := bytes } :
      ReadPacket).resizePayload =
        (.resized, ⟨bytes, List.replicate (readBe16 bytes - packetTypeLength) 0⟩) :=
    ReadPacket.resizePayload_resized hsize
  have hdone := (h.headerDone hop).2.setReadPacket rfl
    ⟨bytes, List.replicate (readBe16 bytes - packetTypeLength) 0⟩
  have hread := (scripted script).headerReceived_resized (w := readDone .readHeader s) hl hresize
  change Reading ((scripted script).headerReceived _ (readDone .readHeader s)).maybeSignalClosed _
  rw [hread]
  refine (hdone.startReadPayload rfl hl ?_).maybeSignalClosed
  simp only [Socket.setReadPacket, ReadPacket.payloadSize, List.length_replicate]
  omega

/-- The payload completes the packet. -/
theorem Reading.filled (h : Reading s part) (hop : .readPayload ∈ s.outstanding)
    (hl : bytes.length = s.readPacket.payloadSize)
    (hrereads : ¬(Input.payloadCompleted (.ok bytes) script).Makes rereads s) :
    Reading (system.next (.payloadCompleted (.ok bytes) script) s) [] := by
  refine ReadingOnce.reading ?_ hrereads
  have hfresh := ((h.payloadDone hop).2.setReadPacket rfl {}).once
  have hread := (Noticed.scripted rereads script).payloadReceived_whole
    (w := { socket := readDone .readPayload s }) hl
  change ReadingOnce [] (Noticed.update _ ((Noticed.scripted rereads script).payloadReceived _
    { socket := readDone .readPayload s }))
  rw [hread]
  exact (hfresh.performs _).maybeSignalClosed

end

end SoupBin.Socket
