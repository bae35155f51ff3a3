import SoupBin.SocketLink

/-!
# What has been accepted arrives

As long as neither end fails, closes or stops reading, everything that has been
accepted for writing gets through, within a number of steps that can be told from
the state.
-/

namespace SoupBin.Socket
open Records Receiving

/-! ## Left to themselves -/

/-- An owner that reads on after each packet. -/
def readOn : Script
  | .readSuccess _ => [.asyncRead]
  | _ => []

/-- A step that moves what `side` has accepted: bytes leave, a packet has been written,
or a packet or its header has been read. -/
def LinkInput.Moves (side : Side) : LinkInput → Prop
  | .transmit d nbyte => d = side ∧ 0 < nbyte
  | .socket d (.writeCompleted (.ok _) script) => d = side ∧ script = silent
  | .socket d (.headerCompleted (.ok _) script) | .socket d (.payloadCompleted (.ok _) script) =>
    d = side.other ∧ script = readOn
  | _ => False

namespace Link

/-- Neither end is closed, what is queued is being written, and the other end reads. -/
structure Ready (side : Side) (l : Link) : Prop where
  sender : (l.ends side).socket.closing = false
  writing : (l.ends side).socket.writePackets ≠ [] → .write ∈ (l.ends side).socket.outstanding
  receiver : (l.ends side.other).socket.closing = false
  reading : .readHeader ∈ (l.ends side.other).socket.outstanding ∨
    .readPayload ∈ (l.ends side.other).socket.outstanding
  whole : (l.pipes side).broken = false

instance (side : Side) (l : Link) : Decidable (l.Ready side) :=
  decidable_of_iff
    ((l.ends side).socket.closing = false ∧
      ((l.ends side).socket.writePackets ≠ [] → .write ∈ (l.ends side).socket.outstanding) ∧
      (l.ends side.other).socket.closing = false ∧
      (.readHeader ∈ (l.ends side.other).socket.outstanding ∨
        .readPayload ∈ (l.ends side.other).socket.outstanding) ∧
      (l.pipes side).broken = false)
    ⟨fun ⟨h₁, h₂, h₃, h₄, h₅⟩ => ⟨h₁, h₂, h₃, h₄, h₅⟩,
      fun ⟨h₁, h₂, h₃, h₄, h₅⟩ => ⟨h₁, h₂, h₃, h₄, h₅⟩⟩

/-- The bytes that have not left, twice, those that have not been read, and the packets
that are not written or not delivered. -/
def backlog (side : Side) (l : Link) : Nat :=
  let s := (l.ends side).socket
  2 * ((s.writePackets.map WritePacket.wire).flatten.length - (l.pipes side).taken) +
    (l.pipes side).flying.length + s.writePackets.length +
    (s.acceptedPackets.length - (l.ends side.other).delivered.length)

end Link

/-! ## One step -/

/-- A complete write, after which the owner does nothing. -/
theorem silent_writeCompleted {s : Socket} {packet : WritePacket} {rest : List WritePacket}
    (hqueue : s.writePackets = packet :: rest) (hwrites : s.outstanding.count .write ≤ 1) :
    let s' := system.next (.writeCompleted (.ok packet.size) silent) s
    s'.writePackets = rest ∧ s'.acceptedPackets = s.acceptedPackets ∧ s'.closing = s.closing ∧
      (rest ≠ [] → .write ∈ s'.outstanding) := by
  have hhead : s.writePackets.head? = some packet := by rw [hqueue]; rfl
  obtain ⟨new, hnew, hnone⟩ := popped_next (P := fun _ => False)
    (i := .writeCompleted (.ok packet.size) silent) (fun _ _ hp => List.not_mem_nil hp)
    ⟨packet, hhead, rfl⟩ hwrites
  have hnil : new = [] := List.eq_nil_iff_forall_not_mem.mpr hnone
  subst hnil
  have htail : s.writeDone.popPacket.writePackets = rest := congrArg List.tail hqueue
  refine ⟨by rw [hnew.queue, hqueue]; simp, by rw [hnew.accepted, List.append_nil], ?_, ?_⟩
  · change (maybeSignalClosed ((scripted silent).packetSent _ s.writeDone)).closing = _
    rw [packetSent_eq silent (s := s.writeDone) hhead, maybeSignalClosed_closing]
    dsimp only [silent, List.foldl_nil]
    split
    · exact startWritePacket_closing _
    · split <;> rfl
  · intro hne
    change _ ∈ (maybeSignalClosed ((scripted silent).packetSent _ s.writeDone)).outstanding
    rw [packetSent_eq silent (s := s.writeDone) hhead, maybeSignalClosed_outstanding]
    obtain ⟨next, later, hrest⟩ := List.exists_cons_of_ne_nil hne
    dsimp only [silent, List.foldl_nil]
    rw [if_pos (by rw [htail]; exact hne), startWritePacket, htail, hrest]
    simp [begin]

section
variable {e : Endpoint} {bytes : Bytes}

/-- The next read begins. -/
theorem reads_on {s : Socket} (hopen : s.closing = false) :
    let s' := (perform s .asyncRead).maybeSignalClosed
    s'.closing = false ∧ .readHeader ∈ s'.outstanding := by
  have hread : perform s .asyncRead = startReadHeader { s with readPacket := {} } := by
    simp [perform, asyncRead, hopen]
  dsimp only
  rw [maybeSignalClosed_closing, maybeSignalClosed_outstanding, hread]
  exact ⟨hopen, by simp [startReadHeader, begin]⟩

theorem readOn_header (hl : bytes.length = packetHeaderLength)
    (hsize : packetTypeLength ≤ readBe16 bytes) (hopen : e.socket.closing = false) :
    let e' := Endpoint.next (.headerCompleted (.ok bytes) readOn) e
    e'.socket.closing = false ∧
      (.readHeader ∈ e'.socket.outstanding ∨ .readPayload ∈ e'.socket.outstanding) := by
  rcases Nat.eq_or_lt_of_le hsize with heq | hlt
  · rw [Endpoint.next_empty_eq e hl heq.symm, Endpoint.performs_eq]
    obtain ⟨hc, hr⟩ := reads_on (s := setReadPacket {} (setReadPacket ⟨bytes, []⟩
      (readDone .readHeader e.socket))) hopen
    exact ⟨hc, Or.inl hr⟩
  · rw [Endpoint.next_resized_eq e hl hlt]
    dsimp only [Endpoint.update]
    rw [maybeSignalClosed_closing, maybeSignalClosed_outstanding]
    exact ⟨hopen, Or.inr (by simp [startReadPayload, begin])⟩

theorem readOn_payload (hl : bytes.length = e.socket.readPacket.payloadSize)
    (hopen : e.socket.closing = false) :
    let e' := Endpoint.next (.payloadCompleted (.ok bytes) readOn) e
    e'.socket.closing = false ∧
      (.readHeader ∈ e'.socket.outstanding ∨ .readPayload ∈ e'.socket.outstanding) := by
  rw [Endpoint.next_filled_eq e hl, Endpoint.performs_eq]
  obtain ⟨hc, hr⟩ := reads_on (s := setReadPacket {} (readDone .readPayload e.socket)) hopen
  exact ⟨hc, Or.inl hr⟩

/-- Who reads on once a packet is there has no other read pending. -/
theorem readOn_header_apart (bytes : Bytes) (s : Socket) :
    ¬(Input.headerCompleted (.ok bytes) readOn).Makes rereads s := by
  have hmade : ((Noticed.scripted rereads readOn).headerReceived (.ok bytes)
      { socket := readDone .readHeader s }).made = false := by
    simp only [Handler.headerReceived]
    split
    · rfl
    · split
      · rfl
      · exact Bool.and_false _
      · rfl
  exact Bool.eq_false_iff.mp hmade

theorem readOn_payload_apart (bytes : Bytes) (s : Socket) :
    ¬(Input.payloadCompleted (.ok bytes) readOn).Makes rereads s := by
  have hmade : ((Noticed.scripted rereads readOn).payloadReceived (.ok bytes)
      { socket := readDone .readPayload s }).made = false := by
    simp only [Handler.payloadReceived]
    split
    · rfl
    · exact Bool.and_false _
  exact Bool.eq_false_iff.mp hmade

theorem silent_written_apart (n : Nat) (s : Socket) :
    ¬(Input.writeCompleted (.ok n) silent).Makes rereads s :=
  Bool.eq_false_iff.mp (Noticed.keeps_silent.writeCompleted (.ok n) rfl)

end

namespace Link
variable {side : Side} {l : Link}

/-- Bytes leave: twice as many fewer are left, and they are in flight. -/
theorem moves_transmit (hl : l.Flows) (h : l.Ready side) {nbyte : Nat} (hpos : 0 < nbyte)
    (hn : (l.pipes side).taken + nbyte ≤ (l.ends side).socket.beingWritten.length) :
    (l.transmit side nbyte).Ready side ∧
      (l.transmit side nbyte).backlog side < l.backlog side := by
  obtain ⟨before, part, hc⟩ := hl side
  have hw : .write ∈ (l.ends side).socket.outstanding := by
    by_contra hnot
    rw [beingWritten, if_neg hnot, List.length_nil] at hn
    omega
  rw [hc.beingWritten_eq hw] at hn
  constructor
  · refine ⟨h.sender, h.writing, h.receiver, h.reading, ?_⟩
    simp only [transmit, Function.update_self]
    exact h.whole
  · have hfront : (front (l.ends side).socket).length ≤
        ((l.ends side).socket.writePackets.map WritePacket.wire).flatten.length := by
      rw [front]
      cases (l.ends side).socket.writePackets <;> simp
    simp only [backlog, transmit, Function.update_self, List.length_append, List.length_take,
      List.length_drop, hc.beingWritten_eq hw]
    omega

/-- A packet has been written: one fewer is queued. -/
theorem moves_written (hl : l.Flows) (h : l.Ready side) {n : Nat}
    (henabled : system.enabled (.socket side (.writeCompleted (.ok n) silent)) l) :
    (l.step side (.writeCompleted (.ok n) silent)).Ready side ∧
      (l.step side (.writeCompleted (.ok n) silent)).backlog side < l.backlog side := by
  obtain ⟨hw, hn, hlength⟩ := henabled
  obtain ⟨before, part, hc⟩ := hl side
  rw [hc.beingWritten_eq hw] at hlength
  have hpos := List.count_pos_iff.mpr hw
  have hwrites := hc.writes
  cases hqueue : (l.ends side).socket.writePackets with
  | nil =>
    rw [hqueue, List.head?_nil, Option.toList_none, List.length_nil] at hwrites
    omega
  | cons packet rest =>
    have hmem : packet ∈ (l.ends side).socket.acceptedPackets := by
      rw [hc.accepted, hqueue]
      simp
    have hfront : (front (l.ends side).socket).length = packet.size := by
      rw [front, hqueue, ← (wire_of_built (hc.offered packet hmem)).2.2]
      simp
    have hsize : n = packet.size := hlength.trans hfront
    have hone : (l.ends side).socket.outstanding.count .write ≤ 1 := by
      rw [hqueue] at hwrites
      exact hwrites
    obtain ⟨hrest, haccepted, hclosing, hwriting⟩ := silent_writeCompleted hqueue hone
    rw [← hsize] at hrest haccepted hclosing hwriting
    have hend : ((l.step side (.writeCompleted (.ok n) silent)).ends side).socket =
        Socket.system.next (.writeCompleted (.ok n) silent) (l.ends side).socket := by
      rw [← Endpoint.next_socket]
      simp only [step, Function.update_self]
    have hother : (l.step side (.writeCompleted (.ok n) silent)).ends side.other =
        l.ends side.other := Function.update_of_ne side.other_ne _ _
    have hpipe : (l.step side (.writeCompleted (.ok n) silent)).pipes side =
        { l.pipes side with taken := 0 } := if_pos rfl
    constructor
    · constructor
      · rw [hend, hclosing]
        exact h.sender
      · rw [hend, hrest]
        exact hwriting
      · rw [hother]
        exact h.receiver
      · rw [hother]
        exact h.reading
      · rw [hpipe]
        exact h.whole
    · have hwire := (wire_of_built (hc.offered packet hmem)).2.2
      simp only [backlog, hend, hother, hpipe, hrest, haccepted, hqueue, List.map_cons,
        List.flatten_cons, List.length_append, List.length_cons]
      omega

/-- The receiving end after a read. -/
theorem step_receiver (l : Link) (side : Side) (i : Input) :
    (l.step side.other i).ends side = l.ends side ∧
      (l.step side.other i).ends side.other = Endpoint.next i (l.ends side.other) ∧
      (l.step side.other i).pipes side = (l.pipes side).afterRead i := by
  refine ⟨Function.update_of_ne side.other_ne.symm _ _, Function.update_self _ _ _, ?_⟩
  exact if_neg side.other_ne.symm

/-- A read leaves fewer bytes in flight, or a packet more has been delivered. -/
theorem moves_read (h : l.Ready side) {i : Input} {before : List WritePacket}
    {part bytes : Bytes} (hc : Carries before part (l.ends side).socket
      { l.pipes side with flying := (l.pipes side).flying.drop bytes.length }
      (Endpoint.next i (l.ends side.other)))
    (hread : (l.pipes side).afterRead i =
      { l.pipes side with flying := (l.pipes side).flying.drop bytes.length })
    (hlive : (Endpoint.next i (l.ends side.other)).socket.closing = false ∧
      (.readHeader ∈ (Endpoint.next i (l.ends side.other)).socket.outstanding ∨
        .readPayload ∈ (Endpoint.next i (l.ends side.other)).socket.outstanding))
    (hbytes : bytes.length ≤ (l.pipes side).flying.length)
    (hless : 0 < bytes.length ∧ (l.ends side.other).delivered.length ≤
        (Endpoint.next i (l.ends side.other)).delivered.length ∨
      (l.ends side.other).delivered.length <
        (Endpoint.next i (l.ends side.other)).delivered.length) :
    (l.step side.other i).Ready side ∧ (l.step side.other i).backlog side < l.backlog side := by
  obtain ⟨hend, hother, hpipe⟩ := step_receiver l side i
  have hdelivered := hc.delivered.length_le
  rw [List.length_map, List.length_map] at hdelivered
  constructor
  · refine ⟨?_, ?_, ?_, ?_, ?_⟩
    · rw [hend]
      exact h.sender
    · rw [hend]
      exact h.writing
    · rw [hother]
      exact hlive.1
    · rw [hother]
      exact hlive.2
    · rw [hpipe, hread]
      exact h.whole
  · simp only [backlog, hend, hother, hpipe, hread, List.length_drop]
    omega

theorem moves_header (hl : l.Flows) (h : l.Ready side) {bytes : Bytes}
    (henabled : system.enabled (.socket side.other (.headerCompleted (.ok bytes) readOn)) l) :
    (l.step side.other (.headerCompleted (.ok bytes) readOn)).Ready side ∧
      (l.step side.other (.headerCompleted (.ok bytes) readOn)).backlog side <
        l.backlog side := by
  obtain ⟨hop, hopen, hlength, harrived⟩ := henabled
  rw [Side.other_other] at hopen harrived
  obtain ⟨before, part, hc⟩ := hl side
  have hapart := readOn_header_apart bytes (l.ends side.other).socket
  obtain ⟨part', hc'⟩ := hc.header hopen hop hlength harrived hapart
  obtain ⟨c, rest, -, -, -, hsize⟩ := hc.next_header hopen hop hlength harrived
  have hpos : packetTypeLength ≤ readBe16 bytes := by omega
  refine moves_read h hc' rfl (readOn_header hlength hpos h.receiver) harrived.length_le
    (Or.inl ⟨by rw [hlength]; decide, ?_⟩)
  rcases Nat.eq_or_lt_of_le hpos with heq | hlt
  · rw [(Endpoint.next_empty hc.reading hop hlength heq.symm hapart).2.1]
    simp
  · exact Nat.le_of_eq (congrArg List.length
      (Endpoint.next_resized hc.reading hop hlength hlt readOn).2.1).symm

theorem moves_payload (hl : l.Flows) (h : l.Ready side) {bytes : Bytes}
    (henabled : system.enabled (.socket side.other (.payloadCompleted (.ok bytes) readOn)) l) :
    (l.step side.other (.payloadCompleted (.ok bytes) readOn)).Ready side ∧
      (l.step side.other (.payloadCompleted (.ok bytes) readOn)).backlog side <
        l.backlog side := by
  obtain ⟨hop, hopen, hlength, harrived⟩ := henabled
  rw [Side.other_other] at hopen harrived
  obtain ⟨before, part, hc⟩ := hl side
  have hapart := readOn_payload_apart bytes (l.ends side.other).socket
  have hc' := hc.payload hopen hop hlength harrived hapart
  refine moves_read h hc' rfl (readOn_payload hlength h.receiver) harrived.length_le (Or.inr ?_)
  rw [(Endpoint.next_filled hc.reading hop hlength hapart).2.1]
  simp

/-- Every step that moves something leaves less to be moved. -/
theorem moves_next (hl : l.Flows) (h : l.Ready side) {i : LinkInput} (hi : i.Moves side)
    (henabled : system.enabled i l) :
    (system.next i l).Ready side ∧ (system.next i l).backlog side < l.backlog side := by
  match i, hi with
  | .transmit d nbyte, ⟨hd, hpos⟩ =>
    subst hd
    exact moves_transmit hl h hpos henabled
  | .socket d (.writeCompleted (.ok n) script), ⟨hd, hscript⟩ =>
    subst hd hscript
    exact moves_written hl h henabled
  | .socket d (.headerCompleted (.ok bytes) script), ⟨hd, hscript⟩ =>
    subst hd hscript
    exact moves_header hl h henabled
  | .socket d (.payloadCompleted (.ok bytes) script), ⟨hd, hscript⟩ =>
    subst hd hscript
    exact moves_payload hl h henabled

/-- Such steps queue nothing. -/
theorem moves_builds {i : LinkInput} (hi : i.Moves side) : i.Builds := by
  match i, hi with
  | .transmit d nbyte, _ => trivial
  | .socket d (.writeCompleted (.ok n) script), ⟨_, hscript⟩ =>
    subst hscript
    exact fun _ _ hp => absurd hp List.not_mem_nil
  | .socket d (.headerCompleted (.ok bytes) script), ⟨_, hscript⟩ =>
    subst hscript
    intro cb packet hp
    cases cb <;> simp [readOn] at hp
  | .socket d (.payloadCompleted (.ok bytes) script), ⟨_, hscript⟩ =>
    subst hscript
    intro cb packet hp
    cases cb <;> simp [readOn] at hp

/-- Such steps read one packet at a time. -/
theorem moves_apart {i : LinkInput} (hi : i.Moves side) (l : Link) : ¬i.Rereads l := by
  match i, hi with
  | .transmit d nbyte, _ => exact id
  | .socket d (.writeCompleted (.ok n) script), ⟨_, hscript⟩ =>
    subst hscript
    exact silent_written_apart n _
  | .socket d (.headerCompleted (.ok bytes) script), ⟨_, hscript⟩ =>
    subst hscript
    exact readOn_header_apart bytes _
  | .socket d (.payloadCompleted (.ok bytes) script), ⟨_, hscript⟩ =>
    subst hscript
    exact readOn_payload_apart bytes _

/-! ## When nothing moves -/

/-- While something is queued, bytes can leave or the write is complete. -/
theorem queue_empty_of_stuck (hl : l.Flows) (h : l.Ready side)
    (hstuck : ∀ i : LinkInput, i.Moves side → ¬system.enabled i l) :
    (l.ends side).socket.writePackets = [] := by
  by_contra hne
  obtain ⟨before, part, hc⟩ := hl side
  have hw := h.writing hne
  have hwriting := hc.beingWritten_eq hw
  have htaken := hc.taken
  rw [← hwriting] at htaken
  by_cases hleft : (l.pipes side).taken = (l.ends side).socket.beingWritten.length
  · exact hstuck (.socket side (.writeCompleted (.ok (l.pipes side).taken) silent)) ⟨rfl, rfl⟩
      ⟨hw, rfl, hleft⟩
  · exact hstuck (.transmit side 1) ⟨rfl, Nat.one_pos⟩
      (Nat.lt_of_le_of_ne htaken hleft)

/-- All that is left of the packets that are not delivered is in flight. -/
theorem flying_of_empty {before : List WritePacket} {part : Bytes}
    (hc : Carries before part (l.ends side).socket (l.pipes side) (l.ends side.other))
    (hopen : (l.pipes side).broken = false) (hempty : (l.ends side).socket.writePackets = [])
    {rest : List (UInt8 × Bytes)} (hrest : (l.ends side).socket.acceptedPackets.map carried =
      (l.ends side.other).delivered.map content ++ rest) :
    part ++ (l.pipes side).flying = (rest.map encoding).flatten := by
  have hstream := hc.stream hopen
  have haccepted := hc.accepted
  rw [hempty, List.append_nil] at haccepted
  rw [hc.idle hempty, List.take_zero, List.append_nil, ← haccepted, hc.wires, hc.bytes, hrest,
    List.map_append, List.flatten_append, List.append_assoc] at hstream
  exact List.append_cancel_left hstream

/-- As long as a packet is not delivered, there is something to read. -/
theorem delivered_of_stuck (hl : l.Flows) (h : l.Ready side)
    (hstuck : ∀ i : LinkInput, i.Moves side → ¬system.enabled i l) :
    (l.ends side.other).delivered.map content =
      (l.ends side).socket.acceptedPackets.map carried := by
  have hempty := queue_empty_of_stuck hl h hstuck
  obtain ⟨before, part, hc⟩ := hl side
  obtain ⟨rest, hrest, hshort, -⟩ := hc.ahead h.whole
  have hflying := flying_of_empty hc h.whole hempty hrest
  cases rest with
  | nil => rw [hrest, List.append_nil]
  | cons c rest =>
    exfalso
    have hlen := hshort c List.mem_cons_self
    have hnext : part ++ (l.pipes side).flying =
        (be16 (packetTypeLength + c.2.length) ++ [c.1]) ++
          (c.2 ++ (rest.map encoding).flatten) := by
      rw [hflying, List.map_cons, List.flatten_cons, encoding_eq hlen]
      simp
    rcases h.reading with hop | hop
    · -- its header
      rw [(hc.reading.headerDone hop).1, List.nil_append] at hnext
      refine hstuck (.socket side.other (.headerCompleted
        (.ok (be16 (packetTypeLength + c.2.length) ++ [c.1])) readOn)) ⟨rfl, rfl⟩ ⟨hop, ?_⟩
      simp only [Transfers, Side.other_other]
      exact ⟨h.whole, rfl, _, hnext.symm⟩
    · -- its payload
      obtain ⟨⟨-, hheader, hsize⟩, -⟩ := hc.reading.payloadDone hop
      obtain ⟨hpart, hpayload⟩ := List.append_inj hnext (by rw [hheader]; rfl)
      rw [hpart, readBe16_be16] at hsize
      refine hstuck (.socket side.other (.payloadCompleted (.ok c.2) readOn)) ⟨rfl, rfl⟩
        ⟨hop, ?_⟩
      simp only [Transfers, Side.other_other]
      refine ⟨h.whole, ?_, _, hpayload.symm⟩
      simp only [packetTypeLength] at hsize
      omega

/-! ## Runs -/

theorem moves_run (hl : l.Flows) (h : l.Ready side) {moves : List LinkInput} {l' : Link}
    (hmoves : (system.restrict fun i _ => i.Moves side).Run l moves l') :
    (l'.Flows ∧ l'.Ready side) ∧ moves.length + l'.backlog side ≤ l.backlog side := by
  refine hmoves.bounded (I := fun l => l.Flows ∧ l.Ready side) (μ := backlog side) ?_ ⟨hl, h⟩
  intro i l hi hl
  obtain ⟨hready, hless⟩ := moves_next hl.1 hl.2 hi.2 hi.1
  exact ⟨⟨flows_next hl.1 hi.1 ⟨moves_builds hi.2, moves_apart hi.2 l⟩, hready⟩, hless⟩

/-- Where nothing is left, nothing moves. -/
theorem stuck_of_backlog (hl : l.Flows) (h : l.Ready side) (hzero : l.backlog side = 0)
    (i : LinkInput) (hi : i.Moves side) : ¬system.enabled i l := by
  intro henabled
  have hless := (moves_next hl h hi henabled).2
  omega

/-- **What has been accepted arrives.** From any state that is reached in which neither end
is closed, the queue is being written and the other end reads: there is no end of such
steps as move bytes or packets on, and where there is none left the other owner has been
told of every packet that was accepted. -/
theorem accepted_arrives (isOpen : Side → Bool) (limit : Side → Nat) {inputs : List LinkInput}
    (h : (system.restrict LinkInput.Proper).Run (start isOpen limit) inputs l)
    (hready : l.Ready side) {moves : List LinkInput} {l' : Link}
    (hmoves : (system.restrict fun i _ => i.Moves side).Run l moves l') :
    moves.length + l'.backlog side ≤ l.backlog side ∧
      ((∀ i : LinkInput, i.Moves side → ¬system.enabled i l') →
        (l'.ends side.other).delivered.map content =
          (l'.ends side).socket.acceptedPackets.map carried) := by
  obtain ⟨⟨hflows, hready'⟩, hlength⟩ := moves_run (flows_run h) hready hmoves
  exact ⟨hlength, fun hstuck => delivered_of_stuck hflows hready' hstuck⟩

/-- A packet has been accepted, and the other end reads. -/
def onePacket : List LinkInput :=
  [.socket .right (.call .asyncRead), .socket .left (.call (.asyncWrite (.ofData 83 [104, 105])))]

def oneArrival : List LinkInput :=
  [.transmit .left 4, .socket .right (.headerCompleted (.ok [0, 3, 83]) readOn),
    .transmit .left 1, .socket .left (.writeCompleted (.ok 5) silent),
    .socket .right (.payloadCompleted (.ok [104, 105]) readOn)]

theorem accepted_arrives_one :
    let l := system.final (start (fun _ => true) fun _ => 100) onePacket
    let l' := system.final l oneArrival
    oneArrival.length + l'.backlog .left ≤ l.backlog .left ∧
      (l'.ends .right).delivered.map content =
        (l'.ends .left).socket.acceptedPackets.map carried := by
  intro l l'
  have hread : Input.Offers IsBuilt (.call .asyncRead) := by
    intro packet hp
    simp at hp
  have hwrite : Input.Offers IsBuilt (.call (.asyncWrite (.ofData 83 [104, 105]))) := by
    intro packet hp
    rw [List.mem_singleton, Operation.asyncWrite.injEq] at hp
    exact ⟨(83, [104, 105]), hp ▸ .ofData 83 [104, 105] (by decide)⟩
  have hadmits : (system.restrict LinkInput.Proper).Admits
      (start (fun _ => true) fun _ => 100) onePacket :=
    ⟨⟨by decide, hread, by decide⟩, ⟨by decide, hwrite, by decide⟩, trivial⟩
  have hmoves : (system.restrict fun i _ => i.Moves .left).Admits l oneArrival :=
    ⟨⟨by decide +kernel, rfl, by decide⟩, ⟨by decide +kernel, rfl, rfl⟩,
      ⟨by decide +kernel, rfl, by decide⟩, ⟨by decide +kernel, rfl, rfl⟩,
      ⟨by decide +kernel, rfl, rfl⟩, trivial⟩
  have hrun := System.run_of_admits hadmits
  have hmoved := System.run_of_admits hmoves
  have hready : l.Ready .left := by decide +kernel
  have harrives := accepted_arrives _ _ hrun hready hmoved
  have hend := (moves_run (flows_run hrun) hready hmoved).1
  exact ⟨harrives.1, harrives.2 (stuck_of_backlog hend.1 hend.2 (by decide +kernel))⟩

end Link

end SoupBin.Socket
