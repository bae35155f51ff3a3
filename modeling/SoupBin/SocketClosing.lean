import SoupBin.SocketCalls

/-!
# When a socket may say that it is closed

`Handler::closed` lets the owner destroy the socket, so it must come once, with
nothing outstanding and nothing begun after it. That takes an owner that does not start
a second connect or a second read, and does not close the socket in the middle of the
queue.
-/

namespace SoupBin.Socket

/-! ## Safety -/

/-- `closed` was posted at most once, with nothing outstanding, and nothing was
begun after it. -/
structure Orderly (journal : List SocketAction) : Prop where
  once : journal.countP (· matches .closed _) ≤ 1
  idle : ∀ ops, .closed ops ∈ journal → ops = []
  silent : ∀ before ops after, journal = before ++ .closed ops :: after →
    ∀ action ∈ after, action.begins = none

/-- All of it was orderly, and no completion is left that could run once the
owner has been told. -/
structure Safe (s : Socket) : Prop extends Orderly s.journal where
  finished : (∃ ops, .closed ops ∈ s.journal) → s.outstanding = []

/-- While the packet at the front of the queue has just been written, `ops`
closes the socket with no connect and no read pending, and another packet in
the queue. -/
def ClosesMidQueue : List Operation → Socket → Prop
  | [], _ => False
  | op :: ops, s =>
    (op = .close ∧ s.connectPending = false ∧ s.readPending = false ∧
      1 < s.writePackets.length) ∨ ClosesMidQueue ops (perform s op)

/-- The step is a complete write whose `write_success` closes the socket while
more packets are queued. -/
def InterruptsQueue : Input → Socket → Prop
  | .writeCompleted (.ok n) script, s =>
    ∃ packet ∈ s.writePackets.head?, n = packet.size ∧
      ClosesMidQueue (script (.writeSuccess packet)) s.writeDone
  | _, _ => False

/-- In this step the owner starts no connect while one is pending, no read while one is
pending, and does not interrupt the queue. -/
structure Mindful (i : Input) (s : Socket) : Prop where
  apart : ¬i.Makes overlaps s
  whole : ¬InterruptsQueue i s

instance : (ops : List Operation) → (s : Socket) → Decidable (ClosesMidQueue ops s)
  | [], _ => isFalse id
  | op :: ops, s =>
    have := instDecidableClosesMidQueue ops (perform s op)
    inferInstanceAs (Decidable ((_ ∧ _ ∧ _ ∧ _) ∨ _))

instance : (i : Input) → (s : Socket) → Decidable (InterruptsQueue i s)
  | .writeCompleted (.ok _) _, s => inferInstanceAs (Decidable (∃ _ ∈ s.writePackets.head?, _ ∧ _))
  | .writeCompleted (.error _) _, _ => isFalse id
  | .call _, _ => isFalse id
  | .connectCompleted _ _, _ => isFalse id
  | .headerCompleted _ _, _ => isFalse id
  | .payloadCompleted _ _, _ => isFalse id
  | .closed _, _ => isFalse id

instance (i : Input) (s : Socket) : Decidable (Mindful i s) :=
  decidable_of_iff (¬i.Makes overlaps s ∧ ¬InterruptsQueue i s)
    ⟨fun h => ⟨h.1, h.2⟩, fun h => ⟨h.apart, h.whole⟩⟩

/-! ## The invariant -/

/-- The flags count the outstanding operations; once `closed` is posted, which
is the last entry of the journal, the socket is closing and nothing is outstanding. -/
structure Sound (s : Socket) : Prop where
  connects : s.outstanding.count .connect = s.connectPending.toNat
  reads : s.outstanding.count .readHeader + s.outstanding.count .readPayload = s.readPending.toNat
  writes : s.outstanding.count .write = s.writePending.toNat
  queued : s.writePending = true → s.writePackets ≠ []
  signaled : s.closedSignaled = true → s.closing = true ∧ s.outstanding = []
  untold : s.closedSignaled = false → ∀ ops, .closed ops ∉ s.journal
  told : s.closedSignaled = true →
    ∃ before, s.journal = before ++ [.closed []] ∧ ∀ ops, .closed ops ∉ before

theorem sound_fresh (isOpen : Bool) (limit : Nat) : Sound (fresh isOpen limit) := by
  constructor <;> simp [fresh]

theorem countP_closed {journal : List SocketAction} (hno : ∀ ops, .closed ops ∉ journal) :
    journal.countP (· matches .closed _) = 0 := by
  apply List.countP_eq_zero.mpr
  intro action ha hc
  cases action with
  | closed ops => exact hno ops ha
  | _ => simp at hc

theorem Sound.safe {s : Socket} (h : Sound s) : Safe s := by
  cases hs : s.closedSignaled with
  | false =>
    have hno := h.untold hs
    refine ⟨⟨?_, ?_, ?_⟩, ?_⟩
    · have hz := countP_closed hno
      omega
    · intro ops ho
      exact absurd ho (hno ops)
    · intro before ops after hj
      exact absurd (by simp [hj]) (hno ops)
    · rintro ⟨ops, ho⟩
      exact absurd ho (hno ops)
  | true =>
    obtain ⟨before, hj, hno⟩ := h.told hs
    refine ⟨⟨?_, ?_, ?_⟩, ?_⟩
    · have hz := countP_closed hno
      simp [hj, hz]
    · intro ops ho
      rw [hj, List.mem_append, List.mem_singleton] at ho
      rcases ho with ho | ho
      · exact absurd ho (hno ops)
      · cases ho
        rfl
    · intro before' ops after hj'
      rcases List.eq_nil_or_concat after with rfl | ⟨init, last, rfl⟩
      · simp
      · have heq : before ++ [.closed []] = (before' ++ .closed ops :: init) ++ [last] := by
          rw [← hj, hj']
          simp
        have hbefore := (List.append_inj' heq rfl).1
        exact absurd (by simp [hbefore]) (hno ops)
    · intro _
      exact (h.signaled hs).2

/-! ## What keeps the invariant -/

theorem Sound.setWritePacketsLimit {s : Socket} (h : Sound s) (limit : Nat) :
    Sound (s.setWritePacketsLimit limit) :=
  { h with }

theorem Sound.setReadPacket {s : Socket} (h : Sound s) (packet : ReadPacket) :
    Sound (s.setReadPacket packet) :=
  { h with }

theorem Sound.clearWasFull {s : Socket} (h : Sound s) : Sound s.clearWasFull :=
  { h with }

theorem Sound.outstanding_nil {s : Socket} (h : Sound s) (hi : s.isIdle = true) :
    s.outstanding = [] := by
  simp only [isIdle, Bool.and_eq_true, Bool.not_eq_true'] at hi
  obtain ⟨⟨hc, hr⟩, hw⟩ := hi
  have hconnect := h.connects
  have hread := h.reads
  have hwrite := h.writes
  rw [hc, Bool.toNat_false, List.count_eq_zero] at hconnect
  rw [hr, Bool.toNat_false, Nat.add_eq_zero_iff, List.count_eq_zero, List.count_eq_zero] at hread
  rw [hw, Bool.toNat_false, List.count_eq_zero] at hwrite
  apply List.eq_nil_iff_forall_not_mem.mpr
  intro op hop
  cases op with
  | connect => exact hconnect hop
  | readHeader => exact hread.1 hop
  | readPayload => exact hread.2 hop
  | write => exact hwrite hop

theorem Sound.maybeSignalClosed {s : Socket} (h : Sound s) : Sound s.maybeSignalClosed := by
  unfold Socket.maybeSignalClosed
  split
  · rename_i hsig
    simp only [Bool.and_eq_true, Bool.not_eq_true'] at hsig
    obtain ⟨⟨hc, hn⟩, hi⟩ := hsig
    have hnil := h.outstanding_nil hi
    constructor
    · exact h.connects
    · exact h.reads
    · exact h.writes
    · exact h.queued
    · exact fun _ => ⟨hc, hnil⟩
    · intro hs
      cases hs
    · exact fun _ => ⟨s.journal, by rw [hnil], h.untold hn⟩
  · exact h

theorem Sound.close {s : Socket} (h : Sound s) : Sound s.close := by
  apply Sound.maybeSignalClosed
  exact { h with signaled := fun hs => ⟨rfl, (h.signaled hs).2⟩ }

/-- Before `closed` is posted an operation may begin, if its flag goes up with it. -/
theorem Sound.begin {s : Socket} (h : Sound s) (hs : s.closedSignaled = false)
    {op : SocketOp} {action : SocketAction} (ha : action.begins = some op)
    {connectPending readPending writePending : Bool}
    (hc : (s.outstanding ++ [op]).count .connect = connectPending.toNat)
    (hr : (s.outstanding ++ [op]).count .readHeader + (s.outstanding ++ [op]).count .readPayload =
      readPending.toNat)
    (hw : (s.outstanding ++ [op]).count .write = writePending.toNat)
    (hq : writePending = true → s.writePackets ≠ []) :
    Sound (begin op action { s with
      connectPending := connectPending, readPending := readPending,
      writePending := writePending }) := by
  constructor
  · exact hc
  · exact hr
  · exact hw
  · exact hq
  · intro ht
    simp [Socket.begin, hs] at ht
  · intro _ ops ho
    simp only [Socket.begin, List.mem_append, List.mem_singleton] at ho
    rcases ho with ho | rfl
    · exact h.untold hs ops ho
    · cases ha
  · intro ht
    simp [Socket.begin, hs] at ht

theorem Sound.unsignaled {s : Socket} (h : Sound s) (hc : ¬s.closing = true) :
    s.closedSignaled = false := by
  cases hs : s.closedSignaled
  · rfl
  · exact absurd (h.signaled hs).1 hc

theorem Sound.asyncConnect {s : Socket} (h : Sound s) (hc : s.connectPending = false) :
    Sound s.asyncConnect := by
  unfold Socket.asyncConnect
  split
  · exact h
  · rename_i hclosing
    have hs := h.unsignaled hclosing
    have hcon := h.connects
    have open_ : Sound { s with isOpen := true } := { h with }
    apply open_.begin hs rfl
    · simp [List.count_append, hcon, hc]
    · simpa [List.count_append] using h.reads
    · simpa [List.count_append] using h.writes
    · exact h.queued

theorem Sound.startReadHeader {s : Socket} (h : Sound s) (hs : s.closedSignaled = false)
    (hr : s.readPending = false) : Sound s.startReadHeader := by
  have hread := h.reads
  rw [hr] at hread
  apply h.begin hs rfl
  · simpa [List.count_append] using h.connects
  · simp at hread ⊢
    omega
  · simpa [List.count_append] using h.writes
  · exact h.queued

theorem Sound.startReadPayload {s : Socket} (h : Sound s) (hs : s.closedSignaled = false)
    (hr : s.readPending = false) : Sound s.startReadPayload := by
  have hread := h.reads
  rw [hr] at hread
  apply h.begin hs rfl
  · simpa [List.count_append] using h.connects
  · simp at hread ⊢
    omega
  · simpa [List.count_append] using h.writes
  · exact h.queued

theorem Sound.asyncRead {s : Socket} (h : Sound s) (hr : s.readPending = false) :
    Sound s.asyncRead := by
  unfold Socket.asyncRead
  split
  · exact h
  · rename_i hclosing
    have hs := h.unsignaled hclosing
    have reset : Sound { s with readPacket := {} } := { h with }
    exact reset.startReadHeader hs hr

theorem Sound.startWritePacket {s : Socket} (h : Sound s) (hs : s.closedSignaled = false)
    (hw : s.writePending = false) : Sound s.startWritePacket := by
  have hwrite := h.writes
  rw [hw] at hwrite
  unfold Socket.startWritePacket
  split
  · exact h
  · rename_i packet rest hq
    apply h.begin hs rfl
    · simpa [List.count_append] using h.connects
    · simpa [List.count_append] using h.reads
    · simp at hwrite ⊢
      exact hwrite
    · intro _
      rw [hq]
      exact List.cons_ne_nil _ _

theorem Sound.asyncWrite {s : Socket} (h : Sound s) (packet : WritePacket) :
    Sound (s.asyncWrite packet).2 := by
  unfold Socket.asyncWrite
  split
  · exact h
  · rename_i hclosing
    have hs := h.unsignaled hclosing
    dsimp only
    split
    · exact { h with }
    · have accepted : Sound { s with
          writePackets := s.writePackets ++ [packet]
          journal := s.journal ++ [.accepted packet] } := by
        constructor
        · exact h.connects
        · exact h.reads
        · exact h.writes
        · intro _
          simp
        · exact h.signaled
        · intro _ ops ho
          simp only [List.mem_append, List.mem_singleton] at ho
          rcases ho with ho | ho
          · exact h.untold hs ops ho
          · cases ho
        · intro ht
          rw [hs] at ht
          cases ht
      split
      · rename_i hempty
        have hw : s.writePending = false := by
          cases hw : s.writePending
          · rfl
          · exact absurd (List.eq_nil_of_length_eq_zero hempty) (h.queued hw)
        exact accepted.startWritePacket hs hw
      · exact accepted

theorem Sound.perform {s : Socket} (h : Sound s) {op : Operation} (hop : overlaps s op = false) :
    Sound (perform s op) := by
  cases op with
  | asyncConnect =>
    by_cases hclosing : s.closing = true
    · simpa [Socket.perform, Socket.asyncConnect, hclosing] using h
    · exact h.asyncConnect (by simpa [hclosing] using hop)
  | asyncRead =>
    by_cases hclosing : s.closing = true
    · simpa [Socket.perform, Socket.asyncRead, hclosing] using h
    · exact h.asyncRead (by simpa [hclosing] using hop)
  | asyncWrite packet => exact h.asyncWrite packet
  | close => exact h.close
  | setWritePacketsLimit limit => exact h.setWritePacketsLimit limit

/-! ## Overlaps -/

/-- Behind each flag that is up there is an operation outstanding. -/
structure Backed (s : Socket) : Prop where
  connects : s.connectPending = true → .connect ∈ s.outstanding
  reads : s.readPending = true → .readHeader ∈ s.outstanding ∨ .readPayload ∈ s.outstanding
  writes : s.writePending = true → .write ∈ s.outstanding

/-- How many flags are up. -/
def flagged (s : Socket) : Nat :=
  s.connectPending.toNat + s.readPending.toNat + s.writePending.toNat

/-- More operations are outstanding than the flags show. -/
structure Crowded (s : Socket) : Prop extends Backed s where
  hidden : s.flagged < s.outstanding.length
  unsignaled : s.closedSignaled = false

/-- Two of them share a flag that is still up. -/
structure Overlapped (s : Socket) : Prop extends Crowded s where
  busy : s.isIdle = false

theorem length_outstanding (ops : List SocketOp) :
    ops.length = ops.count .connect + (ops.count .readHeader + ops.count .readPayload) +
      ops.count .write := by
  induction ops with
  | nil => rfl
  | cons op ops ih => cases op <;> simp [ih] <;> omega

section
variable {s : Socket}

theorem Sound.backed (h : Sound s) : Backed s := by
  refine ⟨fun hc => ?_, fun hr => ?_, fun hw => ?_⟩
  · have hcount := h.connects
    rw [hc, Bool.toNat_true] at hcount
    exact List.count_pos_iff.mp (by omega)
  · have hcount := h.reads
    rw [hr, Bool.toNat_true] at hcount
    rw [← List.count_pos_iff, ← List.count_pos_iff]
    omega
  · have hcount := h.writes
    rw [hw, Bool.toNat_true] at hcount
    exact List.count_pos_iff.mp (by omega)

theorem Sound.length_eq (h : Sound s) : s.outstanding.length = s.flagged := by
  rw [length_outstanding, h.connects, h.reads, h.writes, flagged]

/-- An operation begins, and its flag goes up if it was not. -/
theorem Backed.begins (h : Backed s) {t : Socket} (op : SocketOp) (action : SocketAction)
    (hops : t.outstanding = s.outstanding)
    (hconnect : t.connectPending = true → s.connectPending = true ∨ op = .connect)
    (hread : t.readPending = true → s.readPending = true ∨ op = .readHeader)
    (hwrite : t.writePending = true → s.writePending = true ∨ op = .write) :
    Backed (begin op action t) := by
  have hmem {other : SocketOp} (ho : other ∈ s.outstanding) :
      other ∈ (begin op action t).outstanding := List.mem_append_left _ (hops ▸ ho)
  have hlast : op ∈ (begin op action t).outstanding :=
    List.mem_append_right _ (List.mem_singleton.mpr rfl)
  refine ⟨fun hc => ?_, fun hr => ?_, fun hw => ?_⟩
  · rcases hconnect hc with hc | rfl
    · exact hmem (h.connects hc)
    · exact hlast
  · rcases hread hr with hr | rfl
    · exact (h.reads hr).imp hmem hmem
    · exact Or.inl hlast
  · rcases hwrite hw with hw | rfl
    · exact hmem (h.writes hw)
    · exact hlast

theorem length_begin (op : SocketOp) (action : SocketAction) (s : Socket) :
    (begin op action s).outstanding.length = s.outstanding.length + 1 := by
  simp [begin]

/-- A connect begins, and its flag is up. -/
theorem overlapped_connect (h : Backed s) (hs : s.closedSignaled = false)
    (hhidden : s.readPending.toNat + s.writePending.toNat < s.outstanding.length) :
    Overlapped (begin .connect .connect { s with connectPending := true, isOpen := true }) := by
  have hbacked := h.begins (t := { s with connectPending := true, isOpen := true })
    .connect .connect
    rfl (fun _ => .inr rfl) .inl .inl
  refine ⟨⟨hbacked, ?_, hs⟩, by simp [isIdle, begin]⟩
  rw [length_begin]
  simp only [flagged, begin, Bool.toNat_true]
  omega

theorem overlapped_read (h : Backed s) (hs : s.closedSignaled = false)
    (hhidden : s.connectPending.toNat + s.writePending.toNat < s.outstanding.length) :
    Overlapped (startReadHeader { s with readPacket := {} }) := by
  have hbacked := h.begins (t := { s with readPacket := {}, readPending := true }) .readHeader
    .readHeader rfl .inl (fun _ => .inr rfl) .inl
  refine ⟨⟨hbacked, ?_, hs⟩, by simp [isIdle, startReadHeader, begin]⟩
  rw [startReadHeader, length_begin]
  simp only [flagged, begin, Bool.toNat_true]
  omega

theorem Overlapped.asyncConnect (h : Overlapped s) : Overlapped s.asyncConnect := by
  unfold Socket.asyncConnect
  split
  · exact h
  · have hhidden := h.hidden
    rw [flagged] at hhidden
    exact overlapped_connect h.toBacked h.unsignaled (by omega)

theorem Overlapped.asyncRead (h : Overlapped s) : Overlapped s.asyncRead := by
  unfold Socket.asyncRead
  split
  · exact h
  · have hhidden := h.hidden
    rw [flagged] at hhidden
    exact overlapped_read h.toBacked h.unsignaled (by omega)

theorem Overlapped.startWritePacket (h : Overlapped s) : Overlapped s.startWritePacket := by
  unfold Socket.startWritePacket
  split
  · exact h
  · rename_i packet rest hqueue
    have hbacked := h.begins (t := { s with writePending := true }) .write (.write packet)
      rfl .inl .inl (fun _ => .inr rfl)
    have hhidden := h.hidden
    refine ⟨⟨hbacked, ?_, h.unsignaled⟩, by simp [isIdle, begin]⟩
    rw [length_begin]
    simp only [flagged, begin, Bool.toNat_true] at hhidden ⊢
    omega

theorem Overlapped.asyncWrite (h : Overlapped s) (packet : WritePacket) :
    Overlapped (s.asyncWrite packet).2 := by
  unfold Socket.asyncWrite
  split
  · exact h
  · dsimp only
    split
    · exact { h with }
    · have accepted : Overlapped { s with
          writePackets := s.writePackets ++ [packet]
          journal := s.journal ++ [.accepted packet] } := { h with }
      split
      · exact accepted.startWritePacket
      · exact accepted

theorem Overlapped.maybeSignalClosed (h : Overlapped s) : Overlapped s.maybeSignalClosed := by
  simpa [Socket.maybeSignalClosed, h.busy] using h

theorem Overlapped.perform (h : Overlapped s) (op : Operation) :
    Overlapped (Socket.perform s op) := by
  cases op with
  | asyncConnect => exact h.asyncConnect
  | asyncRead => exact h.asyncRead
  | asyncWrite packet => exact h.asyncWrite packet
  | close =>
    have hclosing : Overlapped { s with closing := true, isOpen := false } := { h with }
    exact hclosing.maybeSignalClosed
  | setWritePacketsLimit limit => exact { h with }

/-- The call that overlaps: its flag is up already. -/
theorem Sound.overlapped (h : Sound s) {op : Operation} (hop : overlaps s op = true) :
    Overlapped (Socket.perform s op) := by
  have hlength := h.length_eq
  rw [flagged] at hlength
  cases op with
  | asyncConnect =>
    rw [overlaps_asyncConnect, Bool.and_eq_true, Bool.not_eq_true'] at hop
    obtain ⟨hclosing, hpending⟩ := hop
    have hopen := Bool.eq_false_iff.mp hclosing
    rw [hpending, Bool.toNat_true] at hlength
    rw [Socket.perform, Socket.asyncConnect, if_neg hopen]
    exact overlapped_connect h.backed (h.unsignaled hopen) (by omega)
  | asyncRead =>
    rw [overlaps_asyncRead, Bool.and_eq_true, Bool.not_eq_true'] at hop
    obtain ⟨hclosing, hpending⟩ := hop
    have hopen := Bool.eq_false_iff.mp hclosing
    rw [hpending, Bool.toNat_true] at hlength
    rw [Socket.perform, Socket.asyncRead, if_neg hopen]
    exact overlapped_read h.backed (h.unsignaled hopen) (by omega)
  | asyncWrite packet => cases hop
  | close => cases hop
  | setWritePacketsLimit limit => cases hop

end

/-! ## Completions -/

/-- An operation is outstanding, so `closed` has not been posted. -/
theorem Sound.unsignaled_of_mem {s : Socket} (h : Sound s) {op : SocketOp}
    (hop : op ∈ s.outstanding) : s.closedSignaled = false := by
  cases hs : s.closedSignaled
  · rfl
  · rw [(h.signaled hs).2] at hop
    cases hop

/-- A completion takes its operation off the books and its flag down. -/
theorem Sound.done {s : Socket} (h : Sound s) {op : SocketOp} (hop : op ∈ s.outstanding)
    {connectPending readPending writePending : Bool}
    (hc : (s.outstanding.erase op).count .connect = connectPending.toNat)
    (hr : (s.outstanding.erase op).count .readHeader + (s.outstanding.erase op).count .readPayload =
      readPending.toNat)
    (hw : (s.outstanding.erase op).count .write = writePending.toNat)
    (hq : writePending = true → s.writePackets ≠ []) :
    Sound { s with
      outstanding := s.outstanding.erase op
      connectPending := connectPending, readPending := readPending,
      writePending := writePending } := by
  have hs := h.unsignaled_of_mem hop
  constructor
  · exact hc
  · exact hr
  · exact hw
  · exact hq
  · intro ht
    simp [hs] at ht
  · exact h.untold
  · intro ht
    simp [hs] at ht

theorem Sound.connectDone {s : Socket} (h : Sound s) (hop : .connect ∈ s.outstanding) :
    Sound s.connectDone := by
  have hcount := h.connects
  have hpos := List.count_pos_iff.mpr hop
  have hle := s.connectPending.toNat_le
  apply h.done hop
  · simp
    omega
  · simpa using h.reads
  · simpa using h.writes
  · exact h.queued

theorem Sound.headerDone {s : Socket} (h : Sound s) (hop : .readHeader ∈ s.outstanding) :
    Sound (s.readDone .readHeader) := by
  have hcount := h.reads
  have hpos := List.count_pos_iff.mpr hop
  have hle := s.readPending.toNat_le
  apply h.done hop
  · simpa using h.connects
  · simp
    omega
  · simpa using h.writes
  · exact h.queued

theorem Sound.payloadDone {s : Socket} (h : Sound s) (hop : .readPayload ∈ s.outstanding) :
    Sound (s.readDone .readPayload) := by
  have hcount := h.reads
  have hpos := List.count_pos_iff.mpr hop
  have hle := s.readPending.toNat_le
  apply h.done hop
  · simpa using h.connects
  · simp
    omega
  · simpa using h.writes
  · exact h.queued

theorem Sound.writeDone {s : Socket} (h : Sound s) (hop : .write ∈ s.outstanding) :
    Sound s.writeDone := by
  have hcount := h.writes
  have hpos := List.count_pos_iff.mpr hop
  have hle := s.writePending.toNat_le
  apply h.done hop
  · simpa using h.connects
  · simpa using h.reads
  · simp
    omega
  · intro hw
    cases hw

/-- As long as nothing overlaps the socket is sound, and when something has its flag is up. -/
abbrev Tracked : Noticed → Prop := Noticed.Turns Sound Overlapped

theorem Tracked.performs {w : Noticed} (h : Tracked w) (ops : List Operation) :
    Tracked (ops.foldl (Noticed.perform Socket.overlaps) w) :=
  Noticed.Turns.performs (fun _ _ h hop => h.perform hop) (fun _ _ h hop => h.overlapped hop)
    (fun _ op h => h.perform op) h ops

theorem Tracked.maybeSignalClosed {w : Noticed} (h : Tracked w) :
    Tracked (w.update Socket.maybeSignalClosed) :=
  h.update (fun _ h => h.maybeSignalClosed) fun _ h => h.maybeSignalClosed

theorem Sound.tracked {s : Socket} (h : Sound s) : Tracked { socket := s } := Noticed.turns_start h

/-- After the completion, any callback at all; then `closed` is posted if it is time. -/
theorem tracked_connectCompleted {s : Socket} (h : Sound s) (hop : .connect ∈ s.outstanding)
    (ec : Option IoError) (script : Script) :
    Tracked ((Noticed.scripted overlaps script).connectCompleted ec { socket := s }) := by
  have hdone := (h.connectDone hop).tracked
  apply Tracked.maybeSignalClosed
  split
  · exact hdone.performs _
  · exact hdone
  · exact hdone.performs _

theorem tracked_readFailed {w : Noticed} (h : Tracked w) (ec : IoError) (script : Script) :
    Tracked ((Noticed.scripted overlaps script).readFailed ec w) := by
  cases ec <;> exact h.performs _

theorem tracked_headerCompleted {s : Socket} (h : Sound s) (hop : .readHeader ∈ s.outstanding)
    (result : Except IoError Bytes) (script : Script) :
    Tracked ((Noticed.scripted overlaps script).headerCompleted result { socket := s }) := by
  have hs := h.unsignaled_of_mem hop
  have hdone := h.headerDone hop
  apply Tracked.maybeSignalClosed
  cases result with
  | error ec => exact tracked_readFailed hdone.tracked ec script
  | ok bytes =>
    simp only [Handler.headerReceived]
    split
    · exact hdone.tracked.performs _
    · have hread (packet : ReadPacket) := hdone.setReadPacket packet
      split
      · exact ((hread _).startReadPayload hs rfl).tracked
      · exact ((hread _).setReadPacket {}).tracked.performs _
      · exact (hread _).tracked.performs _

theorem tracked_payloadCompleted {s : Socket} (h : Sound s) (hop : .readPayload ∈ s.outstanding)
    (result : Except IoError Bytes) (script : Script) :
    Tracked ((Noticed.scripted overlaps script).payloadCompleted result { socket := s }) := by
  have hdone := h.payloadDone hop
  apply Tracked.maybeSignalClosed
  cases result with
  | error ec => exact tracked_readFailed hdone.tracked ec script
  | ok bytes =>
    simp only [Handler.payloadReceived]
    split
    · exact hdone.tracked.performs _
    · exact (hdone.setReadPacket {}).tracked.performs _

/-! ## Closing in the middle of the queue -/

/-- A packet has been written and is still at the front of the queue. -/
structure Midway (s : Socket) : Prop where
  queue : s.writePackets ≠ []
  idle : s.writePending = false

theorem Midway.perform {s : Socket} (h : Midway s) (op : Operation) : Midway (perform s op) := by
  cases op with
  | asyncConnect =>
    simp only [Socket.perform, Socket.asyncConnect]
    split
    · exact h
    · exact ⟨h.queue, h.idle⟩
  | asyncRead =>
    simp only [Socket.perform, Socket.asyncRead]
    split
    · exact h
    · exact ⟨h.queue, h.idle⟩
  | asyncWrite packet =>
    have hlength : s.writePackets.length ≠ 0 := mt List.eq_nil_of_length_eq_zero h.queue
    simp only [Socket.perform, Socket.asyncWrite, hlength, if_false]
    split
    · exact h
    · split
      · exact ⟨h.queue, h.idle⟩
      · exact ⟨by simp, h.idle⟩
  | close =>
    simp only [Socket.perform, Socket.close, maybeSignalClosed]
    split <;> exact ⟨h.queue, h.idle⟩
  | setWritePacketsLimit limit => exact ⟨h.queue, h.idle⟩

theorem Midway.performs {s : Socket} (h : Midway s) (ops : List Operation) :
    Midway (ops.foldl Socket.perform s) := by
  induction ops generalizing s with
  | nil => exact h
  | cons op ops ih => exact ih (h.perform op)

/-- Only `close` signals. -/
theorem perform_closedSignaled {op : Operation} (s : Socket) (hop : op ≠ .close) :
    (perform s op).closedSignaled = s.closedSignaled := by
  cases op with
  | asyncConnect =>
    simp only [perform, asyncConnect]
    split <;> rfl
  | asyncRead =>
    simp only [perform, asyncRead]
    split <;> rfl
  | asyncWrite packet =>
    simp only [perform, asyncWrite]
    split
    · rfl
    · split
      · rfl
      · split
        · simp only [startWritePacket]
          split <;> rfl
        · rfl
  | close => exact absurd rfl hop
  | setWritePacketsLimit limit => rfl

/-- A socket that is closing does nothing that it is called for. -/
theorem perform_closing {op : Operation} {s : Socket} (hop : op ≠ .close) (h : s.closing = true) :
    (perform s op).closing = true ∧ (perform s op).writePackets = s.writePackets ∧
      (perform s op).journal = s.journal := by
  cases op with
  | close => exact absurd rfl hop
  | _ => simp [perform, asyncConnect, asyncRead, asyncWrite, setWritePacketsLimit, h]

theorem perform_close {s : Socket} (h : Midway s) :
    (perform s .close).writePackets = s.writePackets ∧
      ((perform s .close).closedSignaled = true ↔
        s.closedSignaled = true ∨ (s.connectPending = false ∧ s.readPending = false)) := by
  simp only [perform, close, maybeSignalClosed, isIdle, h.idle]
  cases s.closedSignaled <;> cases s.connectPending <;> cases s.readPending <;> simp

/-- A socket that has signaled is closing, and nothing has happened since. -/
def Silenced (s : Socket) : Prop :=
  s.closedSignaled = true → s.closing = true ∧ ∃ before ops, s.journal = before ++ [.closed ops]

theorem Sound.silenced {s : Socket} (h : Sound s) : Silenced s := by
  intro hs
  obtain ⟨before, hj, -⟩ := h.told hs
  exact ⟨(h.signaled hs).1, before, [], hj⟩

theorem Silenced.perform {s : Socket} (h : Silenced s) (op : Operation) :
    Silenced (perform s op) := by
  by_cases hop : op = .close
  · subst hop
    intro hs
    simp only [Socket.perform, Socket.close, maybeSignalClosed] at hs ⊢
    split
    · exact ⟨rfl, s.journal, s.outstanding, rfl⟩
    · rename_i hno
      rw [if_neg hno] at hs
      exact ⟨rfl, (h hs).2⟩
  · intro hs
    rw [perform_closedSignaled s hop] at hs
    obtain ⟨hclosing, before, ops, hj⟩ := h hs
    obtain ⟨hclosing', -, hj'⟩ := perform_closing hop hclosing
    exact ⟨hclosing', before, ops, hj'.trans hj⟩

theorem Silenced.performs {s : Socket} (h : Silenced s) (ops : List Operation) :
    Silenced (ops.foldl Socket.perform s) := by
  induction ops generalizing s with
  | nil => exact h
  | cons op ops ih => exact ih (h.perform op)

/-- `ClosesMidQueue` says when the calls of `write_success` leave the socket
signaled with another packet queued. -/
theorem closesMidQueue_iff (ops : List Operation) {s : Socket} (hs : Silenced s) (hm : Midway s) :
    ((ops.foldl perform s).closedSignaled = true ∧ 1 < (ops.foldl perform s).writePackets.length) ↔
      (s.closedSignaled = true ∧ 1 < s.writePackets.length) ∨ ClosesMidQueue ops s := by
  induction ops generalizing s with
  | nil => simp [ClosesMidQueue]
  | cons op ops ih =>
    rw [List.foldl_cons, ih (hs.perform op) (hm.perform op), ClosesMidQueue]
    by_cases hop : op = .close
    · subst hop
      obtain ⟨hq, hsig⟩ := perform_close hm
      rw [hq, hsig]
      tauto
    · rw [perform_closedSignaled s hop]
      cases hc : s.closedSignaled with
      | false => simp [hop]
      | true =>
        rw [(perform_closing hop (hs hc).1).2.1]
        simp [hop]

theorem Sound.popPacket {s : Socket} (h : Sound s) (hw : s.writePending = false) :
    Sound s.popPacket :=
  { h with queued := fun ht => by simp [Socket.popPacket, hw] at ht }

theorem packetSent_eq (script : Script) {s : Socket} {packet : WritePacket}
    (hp : s.writePackets.head? = some packet) :
    (scripted script).packetSent (.ok packet.size) s =
      let w := popPacket ((script (.writeSuccess packet)).foldl perform s)
      if w.writePackets ≠ [] then w.startWritePacket
      else if w.writeBufferWasFull then
        (script .writeBufferEmpty).foldl perform w.clearWasFull
      else w :=
  (scripted script).packetSent_whole (w := s) hp

theorem popPacket_ne_nil {s : Socket} :
    s.popPacket.writePackets ≠ [] ↔ 1 < s.writePackets.length := by
  rcases hq : s.writePackets with _ | ⟨a, _ | ⟨b, rest⟩⟩ <;> simp [popPacket, hq]

/-- The packet leaves the queue, and the next one is written if nothing has been signaled. -/
theorem tracked_drain {w : Noticed} (h : Tracked w) (hidle : w.socket.writePending = false)
    (hno : w.socket.closedSignaled = true → ¬1 < w.socket.writePackets.length) (script : Script) :
    Tracked (let w := w.update popPacket
      if w.socket.writePackets ≠ [] then w.update startWritePacket
      else if w.socket.writeBufferWasFull then
        (script .writeBufferEmpty).foldl (Noticed.perform overlaps) (w.update clearWasFull)
      else w) := by
  have hpopped : Tracked (w.update popPacket) :=
    ⟨fun hmade => (h.before hmade).popPacket hidle, fun hmade => { h.after hmade with }⟩
  dsimp only
  split
  · rename_i hmore
    have hunsignaled : w.socket.closedSignaled = false :=
      Bool.eq_false_iff.mpr fun hsig => hno hsig (popPacket_ne_nil.mp hmore)
    exact ⟨fun hmade => (hpopped.before hmade).startWritePacket hunsignaled hidle,
      fun hmade => (hpopped.after hmade).startWritePacket⟩
  · split
    · have hclear : Tracked ((w.update popPacket).update clearWasFull) :=
        hpopped.update (fun _ h => h.clearWasFull) fun _ h => { h with }
      exact hclear.performs _
    · exact hpopped

/-- The front packet has been written, and `write_success` does not close the socket with
more packets queued. -/
theorem tracked_packetSent {s : Socket} (h : Sound s) (hs : s.closedSignaled = false)
    {packet : WritePacket} (hp : s.writePackets.head? = some packet)
    (hidle : s.writePending = false) (script : Script) (hno : ¬ClosesMidQueue (script (.writeSuccess packet)) s) :
    Tracked ((Noticed.scripted overlaps script).packetSent (.ok packet.size) { socket := s }) := by
  obtain ⟨rest, hq⟩ := List.head?_eq_some_iff.mp hp
  have hm : Midway s := ⟨by rw [hq]; exact List.cons_ne_nil _ _, hidle⟩
  have hiff := closesMidQueue_iff (script (.writeSuccess packet)) h.silenced hm
  have hmidway := hm.performs (script (.writeSuccess packet))
  have hsocket : ((script (.writeSuccess packet)).foldl (Noticed.perform overlaps)
      { socket := s }).socket = (script (.writeSuccess packet)).foldl perform s :=
    Noticed.performs_socket _ _
  rw [← hsocket] at hiff hmidway
  rw [(Noticed.scripted overlaps script).packetSent_whole (w := { socket := s }) hp]
  refine tracked_drain (h.tracked.performs _) hmidway.idle (fun hsig hmore => ?_) script
  rcases hiff.mp ⟨hsig, hmore⟩ with ⟨hsig, -⟩ | hc
  · rw [hs] at hsig
    cases hsig
  · exact hno hc

theorem tracked_writeCompleted {s : Socket} (h : Sound s) (hop : .write ∈ s.outstanding)
    (result : Except IoError Nat) (script : Script)
    (hg : ¬InterruptsQueue (.writeCompleted result script) s) :
    Tracked ((Noticed.scripted overlaps script).writeCompleted result { socket := s }) := by
  have hdone := h.writeDone hop
  apply Tracked.maybeSignalClosed
  change Tracked ((Noticed.scripted overlaps script).packetSent result { socket := s.writeDone })
  cases result with
  | error ec =>
    cases ec with
    | operationAborted => exact hdone.tracked
    | eof => exact hdone.tracked.performs _
    | other code => exact hdone.tracked.performs _
  | ok n =>
    cases hp : s.writePackets.head? with
    | none =>
      rw [List.head?_eq_none_iff] at hp
      simpa [Handler.packetSent, Noticed.scripted, Socket.writeDone, hp] using hdone.tracked
    | some packet =>
      by_cases hn : n = packet.size
      · subst hn
        exact tracked_packetSent hdone (h.unsignaled_of_mem hop) hp rfl script
          fun hc => hg ⟨packet, hp, rfl, hc⟩
      · have hfailed := (Noticed.scripted overlaps script).packetSent_short
          (w := { socket := s.writeDone }) hp hn
        rw [hfailed]
        exact hdone.tracked.performs _

/-! ## The journal only grows -/

def Grows (s s' : Socket) : Prop := s.journal <+: s'.journal

theorem Grows.trans {a b c : Socket} (h : Grows a b) (h' : Grows b c) : Grows a c :=
  List.IsPrefix.trans h h'

theorem grows_maybeSignalClosed (s : Socket) : Grows s s.maybeSignalClosed := by
  unfold maybeSignalClosed
  split
  · exact List.prefix_append _ _
  · exact List.prefix_refl _

theorem grows_startWritePacket (s : Socket) : Grows s s.startWritePacket := by
  unfold startWritePacket
  split
  · exact List.prefix_refl _
  · exact List.prefix_append _ _

theorem grows_asyncWrite (s : Socket) (packet : WritePacket) :
    Grows s (s.asyncWrite packet).2 := by
  unfold asyncWrite
  split
  · exact List.prefix_refl _
  · dsimp only
    split
    · exact List.prefix_refl _
    · have accepted : Grows s { s with
          writePackets := s.writePackets ++ [packet]
          journal := s.journal ++ [.accepted packet] } := List.prefix_append _ _
      split
      · exact accepted.trans (grows_startWritePacket _)
      · exact accepted

theorem grows_perform (s : Socket) (op : Operation) : Grows s (perform s op) := by
  cases op with
  | asyncConnect =>
    simp only [perform, asyncConnect]
    split
    · exact List.prefix_refl _
    · exact List.prefix_append _ _
  | asyncRead =>
    simp only [perform, asyncRead]
    split
    · exact List.prefix_refl _
    · exact List.prefix_append _ _
  | asyncWrite packet => exact grows_asyncWrite s packet
  | close => exact grows_maybeSignalClosed { s with closing := true, isOpen := false }
  | setWritePacketsLimit limit => exact List.prefix_refl _

theorem grows_performs (s : Socket) (ops : List Operation) : Grows s (ops.foldl perform s) := by
  induction ops generalizing s with
  | nil => exact List.prefix_refl _
  | cons op ops ih => exact (grows_perform s op).trans (ih _)

theorem grows_readFailed (script : Script) (ec : IoError) (s : Socket) :
    Grows s ((scripted script).readFailed ec s) := by
  cases ec <;> exact grows_performs s _

theorem grows_packetSent (script : Script) (result : Except IoError Nat) (s : Socket) :
    Grows s ((scripted script).packetSent result s) := by
  cases result with
  | error ec =>
    cases ec with
    | operationAborted => exact List.prefix_refl _
    | eof => exact grows_performs s _
    | other code => exact grows_performs s _
  | ok n =>
    cases hp : s.writePackets.head? with
    | none =>
      rw [List.head?_eq_none_iff] at hp
      simp [Handler.packetSent, scripted, hp, Grows]
    | some packet =>
      by_cases hn : n = packet.size
      · subst hn
        rw [packetSent_eq script hp]
        dsimp only
        have hw : Grows s (popPacket ((script (.writeSuccess packet)).foldl perform s)) :=
          grows_performs s _
        split
        · exact hw.trans (grows_startWritePacket _)
        · split
          · have hclear : Grows s (clearWasFull
                (popPacket ((script (.writeSuccess packet)).foldl perform s))) := hw
            exact hclear.trans (grows_performs _ _)
          · exact hw
      · rw [(scripted script).packetSent_short (w := s) hp hn]
        exact grows_performs s _

theorem grows_next (i : Input) (s : Socket) : Grows s (system.next i s) := by
  cases i with
  | call op => exact grows_perform s op
  | connectCompleted ec script =>
    apply Grows.trans _ (grows_maybeSignalClosed _)
    change Grows s.connectDone _
    split
    · exact grows_performs _ _
    · exact List.prefix_refl _
    · exact grows_performs _ _
  | headerCompleted result script =>
    apply Grows.trans _ (grows_maybeSignalClosed _)
    cases result with
    | error ec => exact grows_readFailed script ec (s.readDone .readHeader)
    | ok bytes =>
      simp only [Handler.headerReceived]
      split
      · exact grows_performs (s.readDone .readHeader) _
      · split
        · exact List.prefix_append _ _
        · exact grows_performs (s.readDone .readHeader |>.setReadPacket {}) _
        · exact grows_performs (s.readDone .readHeader |>.setReadPacket _) _
  | payloadCompleted result script =>
    apply Grows.trans _ (grows_maybeSignalClosed _)
    cases result with
    | error ec => exact grows_readFailed script ec (s.readDone .readPayload)
    | ok bytes =>
      simp only [Handler.payloadReceived]
      split
      · exact grows_performs (s.readDone .readPayload) _
      · exact grows_performs (s.readDone .readPayload |>.setReadPacket {}) _
  | writeCompleted result script =>
    apply Grows.trans _ (grows_maybeSignalClosed _)
    exact grows_packetSent script result s.writeDone
  | closed script => exact grows_performs s.notified _

theorem Orderly.of_prefix {before after : List SocketAction} (h : Orderly after)
    (hp : before <+: after) : Orderly before := by
  obtain ⟨rest, rfl⟩ := hp
  constructor
  · have honce := h.once
    rw [List.countP_append] at honce
    omega
  · intro ops ho
    exact h.idle ops (List.mem_append_left _ ho)
  · intro first ops last hj action ha
    apply h.silent first ops (last ++ rest) _ action (List.mem_append_left _ ha)
    simp [hj]

/-! ## Steps -/

theorem tracked_next (i : Input) (s : Socket) (hi : system.enabled i s) (h : Sound s)
    (hg : ¬InterruptsQueue i s) : Tracked (Noticed.next overlaps i { socket := s }) := by
  cases i with
  | call op => exact h.tracked.performs [op]
  | connectCompleted ec script => exact tracked_connectCompleted h hi ec script
  | headerCompleted result script => exact tracked_headerCompleted h hi result script
  | payloadCompleted result script => exact tracked_payloadCompleted h hi result script
  | writeCompleted result script => exact tracked_writeCompleted h hi result script hg
  | closed script =>
    have hrun : Sound s.notified := { h with }
    exact hrun.tracked.performs _

theorem sound_next (i : Input) (s : Socket) (hi : system.enabled i s) (h : Sound s)
    (hm : Mindful i s) : Sound (system.next i s) := by
  have hsound := (tracked_next i s hi h hm.whole).before (Bool.eq_false_iff.mpr hm.apart)
  rwa [Noticed.next_socket] at hsound

theorem overlapped_next {i : Input} {s : Socket} (hi : system.enabled i s) (h : Sound s)
    (hg : ¬InterruptsQueue i s) (hmakes : i.Makes overlaps s) : Overlapped (system.next i s) := by
  have hoverlapped := (tracked_next i s hi h hg).after hmakes
  rwa [Noticed.next_socket] at hoverlapped

/-- After such a step a write has begun behind the posted `closed`. -/
theorem not_orderly_of_interrupts {i : Input} {s : Socket} (hi : system.enabled i s)
    (h : Sound s) (hb : InterruptsQueue i s) : ¬Orderly (system.next i s).journal := by
  match i, hb with
  | .writeCompleted (.ok _) script, ⟨packet, hp, rfl, hc⟩ =>
    have hp : s.writePackets.head? = some packet := hp
    obtain ⟨rest, hq⟩ := List.head?_eq_some_iff.mp hp
    have hdone := (h.writeDone hi).silenced
    have hm : Midway s.writeDone := ⟨by simp [writeDone, hq], rfl⟩
    obtain ⟨hsig, hlen⟩ := (closesMidQueue_iff _ hdone hm).mpr (Or.inr hc)
    obtain ⟨-, before, ops, hj⟩ := hdone.performs (script (.writeSuccess packet)) hsig
    have hmore := popPacket_ne_nil.mpr hlen
    obtain ⟨next, rest', hnext⟩ := List.exists_cons_of_ne_nil hmore
    intro ho
    have hstart := ho.of_prefix (grows_maybeSignalClosed
      ((scripted script).packetSent (.ok packet.size) s.writeDone))
    rw [packetSent_eq script (s := s.writeDone) hp] at hstart
    dsimp only at hstart
    rw [if_pos hmore, startWritePacket, hnext] at hstart
    have hsilent := hstart.silent before ops [.write next] (by simp [begin, popPacket, hj])
    have := hsilent (.write next) (by simp)
    cases this

/-! ## What an overlap leads to -/

/-- `closed` is posted while an operation is outstanding. -/
theorem Crowded.not_safe {s : Socket} (h : Crowded s) (hclosing : s.closing = true)
    (hidle : s.isIdle = true) : ¬Safe s.maybeSignalClosed := by
  intro hsafe
  have hj : s.maybeSignalClosed.journal = s.journal ++ [.closed s.outstanding] := by
    simp [maybeSignalClosed, hclosing, hidle, h.unsignaled]
  have hnil := hsafe.idle s.outstanding (by rw [hj]; simp)
  have hhidden := h.hidden
  rw [hnil] at hhidden
  exact absurd hhidden (Nat.not_lt_zero _)

/-- An operation completes, and its flag, which was up, goes down. -/
theorem Crowded.done {s t : Socket} (h : Crowded s) (ht : Backed t) {op : SocketOp}
    (hop : op ∈ s.outstanding) (hops : t.outstanding = s.outstanding.erase op)
    (hflag : t.flagged + 1 = s.flagged) (hsignaled : t.closedSignaled = s.closedSignaled) :
    Crowded t ∧ t.flagged < s.flagged := by
  have hhidden := h.hidden
  have hlength := List.length_erase_of_mem hop
  refine ⟨⟨ht, ?_, hsignaled.trans h.unsignaled⟩, by omega⟩
  rw [hops, hlength]
  omega

/-- Of the operations whose flags are up one is aborted, and the owner does nothing. -/
theorem Crowded.completes {s : Socket} (h : Crowded s) (hbusy : s.isIdle = false) :
    ∃ i t, system.enabled i s ∧ Mindful i s ∧ system.next i s = t.maybeSignalClosed ∧ Crowded t ∧
      t.flagged < s.flagged := by
  have stays {op other : SocketOp} (ho : other ∈ s.outstanding) (hne : other ≠ op) :
      other ∈ s.outstanding.erase op := (List.mem_erase_of_ne hne).mpr ho
  cases hc : s.connectPending with
  | true =>
    have hop := h.connects hc
    refine ⟨.connectCompleted (some .operationAborted) silent, s.connectDone, hop,
      ⟨Bool.false_ne_true, id⟩, rfl, h.done ⟨fun h => (by cases h), fun hr => ?_, fun hw => ?_⟩
        hop rfl ?_ rfl⟩
    · exact (h.reads hr).imp (stays · (by decide)) (stays · (by decide))
    · exact stays (h.writes hw) (by decide)
    · simp only [flagged, connectDone, hc, Bool.toNat_true, Bool.toNat_false]
      omega
  | false =>
    cases hr : s.readPending with
    | true =>
      have hbacked (op : SocketOp) (hne : .write ≠ op) : Backed (s.readDone op) := by
        refine ⟨fun hconnect => ?_, fun h => (by cases h), fun hw => stays (h.writes hw) hne⟩
        exact absurd (hc.symm.trans hconnect) Bool.false_ne_true
      have hflag (op : SocketOp) : (s.readDone op).flagged + 1 = s.flagged := by
        simp only [flagged, readDone, hr, Bool.toNat_true, Bool.toNat_false]
        omega
      rcases h.reads hr with hop | hop
      · exact ⟨.headerCompleted (.error .operationAborted) silent, s.readDone .readHeader, hop,
          ⟨Bool.false_ne_true, id⟩, rfl, h.done (hbacked _ (by decide)) hop rfl (hflag _) rfl⟩
      · exact ⟨.payloadCompleted (.error .operationAborted) silent, s.readDone .readPayload, hop,
          ⟨Bool.false_ne_true, id⟩, rfl, h.done (hbacked _ (by decide)) hop rfl (hflag _) rfl⟩
    | false =>
      have hw : s.writePending = true := by simpa [isIdle, hc, hr] using hbusy
      have hop := h.writes hw
      refine ⟨.writeCompleted (.error .operationAborted) silent, s.writeDone, hop,
        ⟨Bool.false_ne_true, id⟩, rfl, h.done ⟨fun hconnect => ?_, fun hread => ?_,
          fun h => (by cases h)⟩ hop rfl ?_ rfl⟩
      · exact absurd (hc.symm.trans hconnect) Bool.false_ne_true
      · exact absurd (hr.symm.trans hread) Bool.false_ne_true
      · simp only [flagged, writeDone, hw, Bool.toNat_true, Bool.toNat_false]

/-- The operations whose flags are up complete, one after the other, until the socket
believes that it is idle. -/
theorem Crowded.lost {s : Socket} (h : Crowded s) (hsettled : s.closing = true → s.isIdle = false) :
    ∃ more u, (system.restrict Mindful).Run s more u ∧ ¬Safe u := by
  induction hn : s.flagged using Nat.strongRecOn generalizing s with
  | ind n ih =>
    cases hidle : s.isIdle with
    | true =>
      have hclosed : Crowded { s with closing := true, isOpen := false } := { h with }
      have hmindful : Mindful (.call .close) s := ⟨Bool.false_ne_true, id⟩
      exact ⟨[.call .close], _, System.Run.refl.step (S := system.restrict Mindful) _
        ⟨trivial, hmindful⟩, hclosed.not_safe rfl hidle⟩
    | false =>
      obtain ⟨i, t, henabled, hmindful, hnext, ht, hless⟩ := h.completes hidle
      have hrun : (system.restrict Mindful).Run s [i] (system.next i s) :=
        System.Run.refl.step (S := system.restrict Mindful) i ⟨henabled, hmindful⟩
      by_cases hsignals : t.closing = true ∧ t.isIdle = true
      · exact ⟨[i], _, hrun, hnext ▸ ht.not_safe hsignals.1 hsignals.2⟩
      · have hsame : t.maybeSignalClosed = t := by
          simp only [maybeSignalClosed, ht.unsignaled]
          grind
        rw [hnext, hsame] at hrun
        obtain ⟨more, u, hmore, hunsafe⟩ := ih t.flagged (hn ▸ hless) ht
          (fun hc => Bool.eq_false_iff.mpr fun hi => hsignals ⟨hc, hi⟩) rfl
        exact ⟨i :: more, u, hrun.append hmore, hunsafe⟩

/-! ## The result -/

theorem Sound.run {s t : Socket} {inputs : List Input} (hs : Sound s)
    (h : (system.restrict Mindful).Run s inputs t) : Sound t :=
  h.keeps (S := system.restrict Mindful) (fun i u hi hu => sound_next i u hi.1 hu hi.2) hs

/-- **A socket closes safely as long as its owner is mindful.** Over every order of calls,
completions and calls from inside callbacks, the steps of a run are mindful exactly if at no
point of it the socket is lost: whatever mindful steps follow there, `closed` is posted once
at most, with nothing outstanding and nothing begun after it. Where nothing overlaps that
holds of the run itself if and only if no `write_success` closes the socket, idle but for the
write just done, while more packets are queued. -/
theorem safe_iff_mindful (isOpen : Bool) (limit : Nat) (inputs : List Input) (s : Socket)
    (h : system.Run (fresh isOpen limit) inputs s) :
    ((system.restrict Mindful).Run (fresh isOpen limit) inputs s ↔
      ∀ before t, before <+: inputs → system.Run (fresh isOpen limit) before t →
        ∀ more u, (system.restrict Mindful).Run t more u → Safe u) ∧
    ((system.restrict fun i s => ¬i.Makes overlaps s).Run (fresh isOpen limit) inputs s →
      (Safe s ↔ (system.restrict Mindful).Run (fresh isOpen limit) inputs s)) := by
  have hfresh := sound_fresh isOpen limit
  refine ⟨⟨fun hrun before t hbefore ht more u hmore => ?_, fun hsafe => ?_⟩,
    fun hapart => ⟨fun hs => ?_, fun hrun => (hfresh.run hrun).safe⟩⟩
  · obtain ⟨t', hrun'⟩ := hrun.before hbefore
    obtain rfl : t' = t := hrun'.of_restrict.eq_final.trans ht.eq_final.symm
    exact ((hfresh.run hrun').run hmore).safe
  · induction h with
    | refl => exact .refl
    | @step inputs t i hrun hi ih =>
      have hmindful := ih fun before u hbefore =>
        hsafe before u (hbefore.trans (List.prefix_append _ _))
      have ht := hfresh.run hmindful
      have hnext := hsafe (inputs ++ [i]) _ (List.prefix_refl _) (hrun.step i hi)
      have hwhole : ¬InterruptsQueue i t := fun hb =>
        not_orderly_of_interrupts hi ht hb (hnext [] _ .refl).toOrderly
      refine System.Run.step (S := system.restrict Mindful) i hmindful
        ⟨hi, fun hmakes => ?_, hwhole⟩
      -- once something overlaps, the socket can be lost
      have hover := overlapped_next hi ht hwhole hmakes
      obtain ⟨more, u, hmore, hunsafe⟩ := hover.toCrowded.lost fun _ => hover.busy
      exact hunsafe (hnext more u hmore)
  · have horderly : Orderly s.journal := hs.toOrderly
    clear hs h
    induction hapart with
    | refl => exact .refl
    | @step inputs t i hrun hi ih =>
      have hmindful := ih (horderly.of_prefix (grows_next i t))
      have hwhole : ¬InterruptsQueue i t := fun hb =>
        not_orderly_of_interrupts hi.1 (hfresh.run hmindful) hb horderly
      exact System.Run.step (S := system.restrict Mindful) i hmindful ⟨hi.1, hi.2, hwhole⟩

def whenWritten (ops : List Operation) : Script
  | .writeSuccess _ => ops
  | _ => []

/-- The owner closes the socket while the last packet of its queue is written and a read is
outstanding. -/
theorem safe_iff_mindful_last_write :
    let inputs := [.call .asyncRead, .call (.asyncWrite (.ofType 72)),
      .writeCompleted (.ok 3) (whenWritten [.close]),
      .headerCompleted (.error .operationAborted) silent, .closed silent]
    ∃ s, system.Run (fresh true 100) inputs s ∧
      SocketAction.closed [] ∈ s.journal ∧ Safe s := by
  intro inputs
  obtain ⟨s, hrun⟩ : ∃ s, (system.restrict Mindful).Run (fresh true 100) inputs s :=
    ⟨_, (((((System.Run.refl (S := system.restrict Mindful)).step _ ⟨by decide, by decide⟩).step _
      ⟨by decide, by decide⟩).step _ ⟨by decide, by decide⟩).step _ ⟨by decide, by decide⟩).step _
      ⟨by decide, by decide⟩⟩
  have happart := hrun.weaken fun _ _ h => h.apart
  exact ⟨s, hrun.of_restrict, hrun.eq_final ▸ (by decide),
    ((safe_iff_mindful true 100 inputs s hrun.of_restrict).2 happart).mpr hrun⟩

/-- Two packets are queued and the owner closes the socket as soon as the first
is written: `closed` is posted, and then the second write is begun. -/
theorem closed_in_the_middle :
    (∃ s, system.Run (fresh true 100)
        [.call (.asyncWrite (.ofType 43)), .call (.asyncWrite (.ofType 74)),
          .writeCompleted (.ok 3) (whenWritten [.close])] s ∧
      ¬Safe s) ∧
    ∃ s, system.Run (fresh false 100)
        [.call .asyncConnect, .call .asyncConnect, .call .close,
          .connectCompleted (some .operationAborted) silent] s ∧
      ¬Safe s := by
  refine ⟨⟨_, (((System.Run.refl.step _ trivial).step _ trivial).step _ (by decide)), fun h => ?_⟩,
    ⟨_, ((((System.Run.refl.step _ trivial).step _ trivial).step _ trivial).step _ (by decide)),
      fun h => ?_⟩⟩
  · have hj : ∀ action ∈ [SocketAction.write (.ofType 74)], action.begins = none :=
      h.silent [.accepted (.ofType 43), .write (.ofType 43), .accepted (.ofType 74)] [] _ rfl
    exact absurd (hj _ List.mem_cons_self) (by decide)
  · exact absurd (h.idle [.connect] (by decide)) (by decide)

end SoupBin.Socket
