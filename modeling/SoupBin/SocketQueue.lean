import SoupBin.SocketClosing
import SoupBin.SocketJournal

/-!
# The write queue

Packets are accepted as long as the queue has room, and the one at the front is
written. An owner whose packet is refused is told when the queue is empty again.
Here the owner is any handler that leaves the limit alone, and what it sees of the
queue is kept beside the socket.
-/

namespace SoupBin.Socket

/-! ## What the owner sees -/

inductive QueueEvent where
  | offered (size : Nat) (closing : Bool) (result : WriteError)
  | drained
  | writeBufferEmpty
  deriving DecidableEq, Repr

def Operation.setsLimit : Operation → Bool
  | .setWritePacketsLimit _ => true
  | _ => false

/-- A socket, and what its owner has seen of the queue. -/
structure Watched where
  socket : Socket
  events : List QueueEvent := []
  deriving DecidableEq, Repr

namespace Watched

def record (event : QueueEvent) (w : Watched) : Watched := { w with events := w.events ++ [event] }

/-- Something happens to the socket. Does it empty the queue? -/
def update (f : Socket → Socket) (w : Watched) : Watched where
  socket := f w.socket
  events :=
    if w.socket.writePackets ≠ [] ∧ (f w.socket).writePackets = [] then w.events ++ [.drained]
    else w.events

def perform (w : Watched) (op : Operation) : Watched :=
  match op with
  | .asyncWrite packet =>
    { socket := Socket.perform w.socket (.asyncWrite packet)
      events := w.events ++ [.offered w.socket.writePackets.length w.socket.closing
        (w.socket.asyncWrite packet).1] }
  | op => w.update (Socket.perform · op)

/-- The owner that follows `script`. -/
def scripted (script : Script) : Handler Watched where
  socket := socket
  update := update
  connectFailure ec w := (script (.connectFailure ec)).foldl perform w
  connectSuccess w := (script .connectSuccess).foldl perform w
  readFailure ec w := (script (.readFailure ec)).foldl perform w
  readPacketFailure error w := (script (.readPacketFailure error)).foldl perform w
  readSuccess packet w := (script (.readSuccess packet)).foldl perform w
  readAborted w := (script .readAborted).foldl perform w
  readEndOfFile w := (script .readEndOfFile).foldl perform w
  writeFailure ec w := (script (.writeFailure ec)).foldl perform w
  writeSuccess packet w := (script (.writeSuccess packet)).foldl perform w
  writeBufferEmpty w := (script .writeBufferEmpty).foldl perform (w.record .writeBufferEmpty)

def system : System Watched Input where
  enabled i w := Socket.system.enabled i w.socket
  next
    | .call op, w => perform w op
    | .connectCompleted ec script, w => (scripted script).connectCompleted ec w
    | .headerCompleted result script, w => (scripted script).headerCompleted result w
    | .payloadCompleted result script, w => (scripted script).payloadCompleted result w
    | .writeCompleted result script, w => (scripted script).writeCompleted result w
    | .closed script, w => (script .closed).foldl perform (w.update notified)

instance (i : Input) (w : Watched) : Decidable (system.enabled i w) :=
  inferInstanceAs (Decidable (Socket.system.enabled i w.socket))

theorem perform_socket (w : Watched) (op : Operation) :
    (w.perform op).socket = Socket.perform w.socket op := by
  cases op <;> rfl

theorem performs_socket (ops : List Operation) (w : Watched) :
    (ops.foldl perform w).socket = ops.foldl Socket.perform w.socket := by
  induction ops generalizing w with
  | nil => rfl
  | cons op ops ih =>
    rw [List.foldl_cons, ih, perform_socket]
    rfl

/-- Watching changes nothing: what the watched socket does is what a socket does. -/
theorem scripted_projects (script : Script) :
    (scripted script).Projects (Socket.scripted script) socket where
  socket _ := rfl
  update _ _ := rfl
  connectFailure _ w := performs_socket _ w
  connectSuccess w := performs_socket _ w
  readFailure _ w := performs_socket _ w
  readPacketFailure _ w := performs_socket _ w
  readSuccess _ w := performs_socket _ w
  readAborted w := performs_socket _ w
  readEndOfFile w := performs_socket _ w
  writeFailure _ w := performs_socket _ w
  writeSuccess _ w := performs_socket _ w
  writeBufferEmpty w := performs_socket _ (w.record .writeBufferEmpty)

theorem next_socket (i : Input) (w : Watched) :
    (system.next i w).socket = Socket.system.next i w.socket := by
  cases i with
  | call op => exact perform_socket w op
  | connectCompleted ec script => exact (scripted_projects script).connectCompleted ec w
  | headerCompleted result script => exact (scripted_projects script).headerCompleted result w
  | payloadCompleted result script => exact (scripted_projects script).payloadCompleted result w
  | writeCompleted result script => exact (scripted_projects script).writeCompleted result w
  | closed script => exact performs_socket _ (w.update notified)

/-- A run of the watched socket is a run of the socket. -/
theorem run_socket {inputs : List Input} {w w' : Watched} (h : system.Run w inputs w') :
    Socket.system.Run w.socket inputs w'.socket := by
  induction h with
  | refl => exact .refl
  | step i _ hi ih =>
    rw [next_socket]
    exact ih.step i hi

/-! ## What is promised -/

/-- `write_buffer_empty` is called once behind each drain before which, since the
last one, a packet was refused for a reason that counts, and it is not called
otherwise. `full`: such a packet has been refused. -/
def Announces (counts : WriteError → Bool) : Bool → List QueueEvent → Prop
  | _, [] => True
  | full, .offered _ _ result :: events => Announces counts (full || counts result) events
  | true, .drained :: .writeBufferEmpty :: events => Announces counts false events
  | false, .drained :: events => Announces counts false events
  | _, _ => False

/-- A packet has been refused since the queue last drained. -/
def fullAfter (counts : WriteError → Bool) : Bool → List QueueEvent → Bool
  | full, [] => full
  | full, .offered _ _ result :: events => fullAfter counts (full || counts result) events
  | _, .drained :: events => fullAfter counts false events
  | full, .writeBufferEmpty :: events => fullAfter counts full events

/-- A packet found room in a queue below the limit. Before the close it was refused
exactly if the queue was full. -/
def Offered (limit size : Nat) (closing : Bool) (result : WriteError) : Prop :=
  size ≤ limit ∧ (result = .none → size < limit) ∧
    (closing = false → (result ≠ .none ↔ size = limit))

/-- What an owner may rely on. -/
structure QueueKept (limit : Nat) (counts : WriteError → Bool) (w : Watched) : Prop where
  oneWrite : w.socket.outstanding.count .write ≤ 1
  inOrder : w.socket.writtenPackets <+: w.socket.acceptedPackets
  bounded : w.socket.writePackets.length ≤ limit
  offered : ∀ size closing result, .offered size closing result ∈ w.events →
    Offered limit size closing result
  announced : Announces counts false w.events

/-! ## The invariant -/

/-- The packets behind the front one have not been handed to asio, and it has been
handed all others. -/
def InOrder (s : Socket) : Prop :=
  (s.writePackets = [] ∧ s.outstanding.count .write = 0 ∧ s.writtenPackets = s.acceptedPackets) ∨
  ∃ before packet rest, s.writePackets = packet :: rest ∧
    s.acceptedPackets = before ++ packet :: rest ∧ s.writtenPackets = before ++ [packet]

def counts (result : WriteError) : Bool := result == .bufferFull

structure Lined (limit : Nat) (w : Watched) : Prop where
  limited : w.socket.writePacketsLimit = limit
  bounded : w.socket.writePackets.length ≤ limit
  writes : w.socket.outstanding.count .write ≤ 1
  inOrder : InOrder w.socket
  offered : ∀ size closing result, .offered size closing result ∈ w.events →
    Offered limit size closing result
  announced : Announces counts false w.events
  full : fullAfter counts false w.events = w.socket.writeBufferWasFull

theorem Lined.queueKept {limit : Nat} {w : Watched} (h : Lined limit w) :
    QueueKept limit counts w := by
  refine ⟨h.writes, ?_, h.bounded, h.offered, h.announced⟩
  rcases h.inOrder with ⟨-, -, hall⟩ | ⟨before, packet, rest, -, haccepted, hwritten⟩
  · exact hall ▸ List.prefix_refl _
  · have hsplit : before ++ packet :: rest = (before ++ [packet]) ++ rest := by simp
    rw [haccepted, hwritten, hsplit]
    exact List.prefix_append _ _

theorem lined_fresh (isOpen : Bool) (limit : Nat) :
    Lined limit { socket := fresh isOpen limit } :=
  ⟨rfl, Nat.zero_le _, Nat.zero_le _, Or.inl ⟨rfl, rfl, rfl⟩, by simp, trivial, rfl⟩

theorem announces_append {counts : WriteError → Bool} {full : Bool} {events more : List QueueEvent}
    (h : Announces counts full events)
    (hmore : Announces counts (fullAfter counts full events) more) :
    Announces counts full (events ++ more) := by
  fun_induction Announces counts full events with
  | case1 => exact hmore
  | case2 full _ _ result events ih => exact ih h hmore
  | case3 events ih => exact ih h hmore
  | case4 events ih =>
    rw [List.cons_append, Announces]
    exact ih h hmore
  | case5 => exact h.elim

theorem fullAfter_append (counts : WriteError → Bool) (full : Bool)
    (events more : List QueueEvent) :
    fullAfter counts full (events ++ more) =
      fullAfter counts (fullAfter counts full events) more := by
  fun_induction fullAfter counts full events with
  | case1 => rfl
  | case2 _ _ _ _ _ ih => exact ih
  | case3 _ _ ih => exact ih
  | case4 _ _ ih => exact ih

/-! ## What leaves the queue alone -/

/-- The queue is the same, and no write has begun. -/
structure SameQueue (s s' : Socket) : Prop where
  queue : s'.writePackets = s.writePackets
  limit : s'.writePacketsLimit = s.writePacketsLimit
  wasFull : s'.writeBufferWasFull = s.writeBufferWasFull
  accepted : s'.acceptedPackets = s.acceptedPackets
  written : s'.writtenPackets = s.writtenPackets
  writes : s'.outstanding.count .write ≤ s.outstanding.count .write

theorem SameQueue.refl (s : Socket) : SameQueue s s := ⟨rfl, rfl, rfl, rfl, rfl, Nat.le_refl _⟩

theorem SameQueue.trans {a b c : Socket} (h : SameQueue a b) (h' : SameQueue b c) : SameQueue a c :=
  ⟨h'.queue.trans h.queue, h'.limit.trans h.limit, h'.wasFull.trans h.wasFull,
    h'.accepted.trans h.accepted, h'.written.trans h.written, Nat.le_trans h'.writes h.writes⟩

/-- An operation that is not a write. -/
theorem sameQueue_begin (op : SocketOp) (action : SocketAction) (s : Socket) (hop : op ≠ .write)
    (haccepted : action.accepted? = none) (hwritten : action.written? = none) :
    SameQueue s (begin op action s) := by
  refine ⟨rfl, rfl, rfl, ?_, ?_, ?_⟩
  · simp [acceptedPackets, begin, haccepted]
  · simp [writtenPackets, begin, hwritten]
  · simp [begin, List.count_append, hop]

theorem sameQueue_connectDone (s : Socket) : SameQueue s s.connectDone :=
  ⟨rfl, rfl, rfl, rfl, rfl, List.Sublist.count_le _ List.erase_sublist⟩

theorem sameQueue_readDone (op : SocketOp) (s : Socket) : SameQueue s (readDone op s) :=
  ⟨rfl, rfl, rfl, rfl, rfl, List.Sublist.count_le _ List.erase_sublist⟩

theorem sameQueue_writeDone (s : Socket) : SameQueue s s.writeDone :=
  ⟨rfl, rfl, rfl, rfl, rfl, List.Sublist.count_le _ List.erase_sublist⟩

theorem sameQueue_setReadPacket (packet : ReadPacket) (s : Socket) :
    SameQueue s (setReadPacket packet s) := ⟨rfl, rfl, rfl, rfl, rfl, Nat.le_refl _⟩

theorem sameQueue_maybeSignalClosed (s : Socket) : SameQueue s s.maybeSignalClosed := by
  unfold maybeSignalClosed
  split
  · refine ⟨rfl, rfl, rfl, ?_, ?_, Nat.le_refl _⟩
    · simp [acceptedPackets, SocketAction.accepted?]
    · simp [writtenPackets, SocketAction.written?]
  · exact .refl s

theorem sameQueue_close (s : Socket) : SameQueue s s.close :=
  SameQueue.trans (b := { s with closing := true, isOpen := false })
    ⟨rfl, rfl, rfl, rfl, rfl, Nat.le_refl _⟩ (sameQueue_maybeSignalClosed _)

theorem sameQueue_asyncConnect (s : Socket) : SameQueue s s.asyncConnect := by
  unfold asyncConnect
  split
  · exact .refl s
  · exact SameQueue.trans (b := { s with connectPending := true, isOpen := true })
      ⟨rfl, rfl, rfl, rfl, rfl, Nat.le_refl _⟩
      (sameQueue_begin .connect .connect _ (by decide) rfl rfl)

theorem sameQueue_startReadHeader (s : Socket) : SameQueue s s.startReadHeader :=
  SameQueue.trans (b := { s with readPending := true }) ⟨rfl, rfl, rfl, rfl, rfl, Nat.le_refl _⟩
    (sameQueue_begin .readHeader .readHeader _ (by decide) rfl rfl)

theorem sameQueue_startReadPayload (s : Socket) : SameQueue s s.startReadPayload :=
  SameQueue.trans (b := { s with readPending := true }) ⟨rfl, rfl, rfl, rfl, rfl, Nat.le_refl _⟩
    (sameQueue_begin .readPayload .readPayload _ (by decide) rfl rfl)

theorem sameQueue_asyncRead (s : Socket) : SameQueue s s.asyncRead := by
  unfold asyncRead
  split
  · exact .refl s
  · exact SameQueue.trans (b := { s with readPacket := {} })
      ⟨rfl, rfl, rfl, rfl, rfl, Nat.le_refl _⟩ (sameQueue_startReadHeader _)

theorem InOrder.same {s s' : Socket} (h : InOrder s) (hs : SameQueue s s') : InOrder s' := by
  unfold InOrder
  rw [hs.queue, hs.accepted, hs.written]
  exact h.imp_left fun ⟨hempty, hidle, hall⟩ =>
    ⟨hempty, Nat.eq_zero_of_le_zero (hidle ▸ hs.writes), hall⟩

/-- Where the queue stays the same nothing is seen. -/
theorem update_same {f : Socket → Socket} {w : Watched} (hs : SameQueue w.socket (f w.socket)) :
    w.update f = { w with socket := f w.socket } := by
  have hdrain : ¬(w.socket.writePackets ≠ [] ∧ (f w.socket).writePackets = []) := by
    rw [hs.queue]
    exact fun h => h.1 h.2
  rw [update, if_neg hdrain]

theorem Lined.update {limit : Nat} {w : Watched} (h : Lined limit w) {f : Socket → Socket}
    (hs : SameQueue w.socket (f w.socket)) : Lined limit (w.update f) := by
  rw [update_same hs]
  exact ⟨hs.limit.trans h.limited, hs.queue ▸ h.bounded, Nat.le_trans hs.writes h.writes,
    h.inOrder.same hs, h.offered, h.announced, h.full.trans hs.wasFull.symm⟩

/-! ## Calls of the owner -/

theorem sameQueue_perform (s : Socket) {op : Operation} (hwrite : ∀ packet, op ≠ .asyncWrite packet)
    (hlimit : op.setsLimit = false) : SameQueue s (Socket.perform s op) := by
  cases op with
  | asyncConnect => exact sameQueue_asyncConnect s
  | asyncRead => exact sameQueue_asyncRead s
  | asyncWrite packet => exact absurd rfl (hwrite packet)
  | close => exact sameQueue_close s
  | setWritePacketsLimit limit => cases hlimit

theorem perform_eq_update (w : Watched) {op : Operation}
    (hwrite : ∀ packet, op ≠ .asyncWrite packet) :
    w.perform op = w.update (Socket.perform · op) := by
  cases op with
  | asyncWrite packet => exact absurd rfl (hwrite packet)
  | asyncConnect | asyncRead | close | setWritePacketsLimit => rfl

/-- The packet that finds the queue empty is written. -/
theorem asyncWrite_empty {s : Socket} (hclosing : s.closing = false) (hempty : s.writePackets = [])
    (hroom : s.writePacketsLimit ≠ 0) (packet : WritePacket) :
    s.asyncWrite packet = (.none, begin .write (.write packet) { s with
      writePending := true
      writePackets := [packet]
      journal := s.journal ++ [.accepted packet] }) := by
  simp [Socket.asyncWrite, hclosing, hempty, hroom.symm, startWritePacket]

/-- The others queue behind the one that is being written. -/
theorem asyncWrite_behind {s : Socket} (hclosing : s.closing = false) (hqueue : s.writePackets ≠ [])
    (hroom : s.writePackets.length ≠ s.writePacketsLimit) (packet : WritePacket) :
    s.asyncWrite packet = (.none, { s with
      writePackets := s.writePackets ++ [packet]
      journal := s.journal ++ [.accepted packet] }) := by
  simp [Socket.asyncWrite, hclosing, hroom, hqueue]

theorem Lined.asyncWrite {limit : Nat} {w : Watched} (h : Lined limit w) (packet : WritePacket) :
    Lined limit (w.perform (.asyncWrite packet)) := by
  obtain ⟨s, events⟩ := w
  have hbounded : s.writePackets.length ≤ limit := h.bounded
  have hlimited : s.writePacketsLimit = limit := h.limited
  have hfull : fullAfter counts false events = s.writeBufferWasFull := h.full
  -- the offer is written down, and counts if the queue is full
  have offer {s' : Socket} {result : WriteError} (hoffered : Offered limit s.writePackets.length
      s.closing result) (hlimited' : s'.writePacketsLimit = limit)
      (hbounded' : s'.writePackets.length ≤ limit) (hwrites' : s'.outstanding.count .write ≤ 1)
      (horder' : InOrder s')
      (hwas : s'.writeBufferWasFull = (s.writeBufferWasFull || counts result)) :
      Lined limit ⟨s', events ++ [.offered s.writePackets.length s.closing result]⟩ := by
    refine ⟨hlimited', hbounded', hwrites', horder', ?_, ?_, ?_⟩
    · intro size closing result' hmem
      rcases List.mem_append.mp hmem with hmem | hmem
      · exact h.offered _ _ _ hmem
      · cases List.mem_singleton.mp hmem
        exact hoffered
    · exact announces_append h.announced (by rw [hfull]; trivial)
    · rw [fullAfter_append, hfull, hwas]
      rfl
  change Lined limit ⟨(s.asyncWrite packet).2, _⟩
  cases hclosing : s.closing with
  | true =>
    have hr : s.asyncWrite packet = (.disconnected, s) := by simp [Socket.asyncWrite, hclosing]
    rw [hr, ← hclosing]
    refine offer ⟨hbounded, by simp, ?_⟩ hlimited hbounded h.writes h.inOrder (by simp [counts])
    simp [hclosing]
  | false =>
    by_cases hroom : s.writePackets.length = s.writePacketsLimit
    · have hr : s.asyncWrite packet = (.bufferFull, { s with writeBufferWasFull := true }) := by
        simp [Socket.asyncWrite, hclosing, hroom]
      rw [hr, ← hclosing]
      exact offer ⟨hbounded, by simp, fun _ => ⟨fun _ => hroom.trans hlimited, by simp⟩⟩
        hlimited hbounded h.writes h.inOrder (by simp [counts])
    · have hless : s.writePackets.length < limit := by omega
      have hoffered : Offered limit s.writePackets.length s.closing .none :=
        ⟨hbounded, fun _ => hless, fun _ => ⟨by simp, fun heq => absurd heq (by omega)⟩⟩
      rcases h.inOrder with ⟨hempty, hidle, hall⟩ | ⟨before, front, rest, hq, haccepted, hwritten⟩
      · have hpos : s.writePacketsLimit ≠ 0 := by
          rw [hempty, List.length_nil] at hroom
          exact fun hzero => hroom hzero.symm
        rw [asyncWrite_empty hclosing hempty hpos, ← hclosing]
        refine offer hoffered hlimited ?_ ?_
          (Or.inr ⟨s.acceptedPackets, packet, [], rfl, ?_, ?_⟩) ?_
        · exact Nat.pos_of_ne_zero (hlimited ▸ hpos)
        · simpa [begin, List.count_append] using hidle
        · simp [acceptedPackets, begin, SocketAction.accepted?]
        · rw [← hall]
          simp [writtenPackets, begin, List.filterMap_cons, SocketAction.written?]
        · simp [counts, begin]
      · have hne : s.writePackets ≠ [] := by
          rw [show s.writePackets = front :: rest from hq]
          exact List.cons_ne_nil _ _
        rw [asyncWrite_behind hclosing hne hroom, ← hclosing]
        refine offer hoffered hlimited ?_ h.writes
          (Or.inr ⟨before, front, rest ++ [packet], ?_, ?_, ?_⟩) (by simp [counts])
        · rw [List.length_append, List.length_singleton]
          exact hless
        · exact congrArg (· ++ [packet]) hq
        · rw [← List.cons_append, ← List.append_assoc, ← haccepted]
          simp [acceptedPackets, SocketAction.accepted?]
        · rw [← hwritten]
          simp [writtenPackets, SocketAction.written?]

theorem Lined.perform {limit : Nat} {w : Watched} (h : Lined limit w) {op : Operation}
    (hlimit : op.setsLimit = false) : Lined limit (w.perform op) := by
  by_cases hwrite : ∃ packet, op = .asyncWrite packet
  · obtain ⟨packet, rfl⟩ := hwrite
    exact h.asyncWrite packet
  · have hother (packet : WritePacket) : op ≠ .asyncWrite packet := fun hop => hwrite ⟨packet, hop⟩
    rw [perform_eq_update w hother]
    exact h.update (sameQueue_perform w.socket hother hlimit)

theorem Lined.performs {limit : Nat} {w : Watched} (h : Lined limit w) {ops : List Operation}
    (hlimit : ∀ op ∈ ops, op.setsLimit = false) : Lined limit (ops.foldl Watched.perform w) := by
  induction ops generalizing w with
  | nil => exact h
  | cons op ops ih =>
    exact ih (h.perform (hlimit op List.mem_cons_self))
      fun x hx => hlimit x (List.mem_cons_of_mem _ hx)

/-! ## Completions -/

/-- The packet at the front has been written. -/
structure Written (w : Watched) : Prop where
  queue : w.socket.writePackets ≠ []
  writes : w.socket.outstanding.count .write = 0

theorem Written.perform {w : Watched} (h : Written w) {op : Operation}
    (hlimit : op.setsLimit = false) : Written (w.perform op) := by
  by_cases hwrite : ∃ packet, op = .asyncWrite packet
  · obtain ⟨packet, rfl⟩ := hwrite
    change Written ⟨(w.socket.asyncWrite packet).2, _⟩
    constructor
    · by_cases htakes : w.socket.Takes
      · rw [(asyncWrite_taken htakes packet).2.1]
        simp
      · rw [(asyncWrite_refused htakes packet).2.1]
        exact h.queue
    · rcases asyncWrite_outstanding w.socket packet with hout | ⟨hempty, -⟩
      · rw [hout]
        exact h.writes
      · exact absurd hempty h.queue
  · have hother (packet : WritePacket) : op ≠ .asyncWrite packet := fun hop => hwrite ⟨packet, hop⟩
    have hs := sameQueue_perform w.socket hother hlimit
    rw [perform_eq_update w hother, update_same hs]
    exact ⟨hs.queue ▸ h.queue, Nat.eq_zero_of_le_zero (h.writes ▸ hs.writes)⟩

theorem Written.performs {w : Watched} (h : Written w) {ops : List Operation}
    (hlimit : ∀ op ∈ ops, op.setsLimit = false) : Written (ops.foldl Watched.perform w) := by
  induction ops generalizing w with
  | nil => exact h
  | cons op ops ih =>
    exact ih (h.perform (hlimit op List.mem_cons_self))
      fun x hx => hlimit x (List.mem_cons_of_mem _ hx)

/-- More packets are queued: the next one is written. -/
theorem Lined.startNext {limit : Nat} {w : Watched} (h : Lined limit w) (hw : Written w)
    (hmore : w.socket.popPacket.writePackets ≠ []) :
    Lined limit ((w.update popPacket).update startWritePacket) := by
  obtain ⟨s, events⟩ := w
  rcases h.inOrder with ⟨hempty, -, -⟩ | ⟨before, front, rest, hq, haccepted, hwritten⟩
  · exact absurd hempty hw.queue
  · have hpop : s.popPacket.writePackets = rest := congrArg List.tail hq
    obtain ⟨next, later, hrest⟩ := List.exists_cons_of_ne_nil hmore
    dsimp only at hq haccepted hwritten hmore hrest
    have hstart : s.popPacket.startWritePacket = begin .write (.write next)
        { s.popPacket with writePending := true } := by
      simp only [startWritePacket, hrest]
    have hkept : s.popPacket.startWritePacket.writePackets = rest := by
      rw [startWritePacket_writePackets, hpop]
    have hw₁ : (⟨s, events⟩ : Watched).update popPacket = ⟨s.popPacket, events⟩ := by
      rw [Watched.update, if_neg (fun hd => hmore hd.2)]
    have hw₂ : (⟨s.popPacket, events⟩ : Watched).update startWritePacket =
        ⟨s.popPacket.startWritePacket, events⟩ := by
      rw [Watched.update, if_neg (fun hd => hmore (hpop.trans (hkept.symm.trans hd.2)))]
    rw [hw₁, hw₂]
    have hlen : (front :: rest).length ≤ limit := hq ▸ h.bounded
    refine ⟨(startWritePacket_limit _).trans h.limited, ?_, ?_,
      Or.inr ⟨before ++ [front], next, later, ?_, ?_, ?_⟩, h.offered, h.announced, ?_⟩
    · dsimp only
      rw [hkept]
      exact Nat.le_of_succ_le hlen
    · have hidle : s.outstanding.count .write = 0 := hw.writes
      rw [hstart]
      simpa [begin, popPacket, List.count_append] using hidle
    · rw [hstart]
      exact hrest
    · rw [startWritePacket_accepted, List.append_assoc, List.singleton_append, ← hrest, hpop]
      exact haccepted
    · rw [hstart, ← hwritten]
      simp [writtenPackets, begin, popPacket, SocketAction.written?]
    · rw [hstart]
      exact h.full

/-- The last packet has been written: the queue drains. -/
theorem Lined.drains {limit : Nat} {w : Watched} (h : Lined limit w) (hw : Written w)
    (hlast : w.socket.popPacket.writePackets = []) :
    w.update popPacket = ⟨w.socket.popPacket, w.events ++ [.drained]⟩ ∧
      InOrder w.socket.popPacket := by
  rcases h.inOrder with ⟨hempty, -, -⟩ | ⟨before, front, rest, hq, haccepted, hwritten⟩
  · exact absurd hempty hw.queue
  · refine ⟨by rw [Watched.update, if_pos ⟨hw.queue, hlast⟩], Or.inl ⟨hlast, hw.writes, ?_⟩⟩
    have hrest : rest = [] := by
      rw [popPacket, hq] at hlast
      exact hlast
    rw [hrest] at haccepted
    exact hwritten.trans haccepted.symm

theorem Lined.drained_quiet {limit : Nat} {w : Watched} (h : Lined limit w) (hw : Written w)
    (hlast : w.socket.popPacket.writePackets = []) (hquiet : w.socket.writeBufferWasFull = false) :
    Lined limit (w.update popPacket) := by
  obtain ⟨hupdate, horder⟩ := h.drains hw hlast
  have hfull := h.full
  rw [hquiet] at hfull
  rw [hupdate]
  refine ⟨h.limited, by rw [hlast]; exact Nat.zero_le _, h.writes, horder, ?_, ?_, ?_⟩
  · intro size closing result hmem
    exact h.offered _ _ _ (by simpa using hmem)
  · exact announces_append h.announced (by rw [hfull]; trivial)
  · rw [fullAfter_append, hfull]
    exact hquiet.symm

/-- A packet was refused: the owner is told once that there is room again. -/
theorem Lined.drained_full {limit : Nat} {w : Watched} (h : Lined limit w) (hw : Written w)
    (hlast : w.socket.popPacket.writePackets = []) (hwas : w.socket.writeBufferWasFull = true) :
    Lined limit (((w.update popPacket).update clearWasFull).record .writeBufferEmpty) := by
  obtain ⟨hupdate, horder⟩ := h.drains hw hlast
  have hfull := h.full
  rw [hwas] at hfull
  have hclear : (⟨w.socket.popPacket, w.events ++ [.drained]⟩ : Watched).update clearWasFull =
      ⟨w.socket.popPacket.clearWasFull, w.events ++ [.drained]⟩ := by
    rw [Watched.update, if_neg (fun hd => hd.1 hlast)]
  rw [hupdate, hclear, record, List.append_assoc]
  refine ⟨h.limited, ?_, h.writes, horder, ?_, ?_, ?_⟩
  · have hempty : w.socket.popPacket.clearWasFull.writePackets = [] := hlast
    rw [hempty]
    exact Nat.zero_le _
  · intro size closing result hmem
    exact h.offered _ _ _ (by simpa using hmem)
  · exact announces_append h.announced (by rw [hfull]; trivial)
  · rw [fullAfter_append, hfull]
    rfl

/-- The calls that `script` makes leave the limit alone. -/
def LeavesLimit (script : Script) : Prop := ∀ cb, ∀ op ∈ script cb, op.setsLimit = false

theorem Lined.packetSent {limit : Nat} {w : Watched} (h : Lined limit w)
    (hidle : w.socket.outstanding.count .write = 0) {script : Script} (hs : LeavesLimit script)
    (result : Except IoError Nat) : Lined limit ((scripted script).packetSent result w) := by
  match result with
  | .error .operationAborted => exact h
  | .error .eof => exact h.performs (hs _)
  | .error (.other code) => exact h.performs (hs _)
  | .ok n =>
    simp only [Handler.packetSent]
    split
    · exact h
    · rename_i packet rest hq
      have hq : w.socket.writePackets = packet :: rest := hq
      split
      · exact h.performs (hs _)
      · have h₁ := h.performs (hs (.writeSuccess packet))
        have hw : Written w := ⟨by rw [hq]; exact List.cons_ne_nil _ _, hidle⟩
        have hw₁ := hw.performs (hs (.writeSuccess packet))
        split
        · rename_i hmore
          exact h₁.startNext hw₁ hmore
        · rename_i hlast
          have hlast := not_not.mp hlast
          split
          · rename_i hwas
            exact (h₁.drained_full hw₁ hlast hwas).performs (hs .writeBufferEmpty)
          · rename_i hwas
            exact h₁.drained_quiet hw₁ hlast (Bool.eq_false_iff.mpr hwas)

/-! ## Runs -/

end Watched

/-- Nothing that the owner does in this step sets the limit. -/
def Input.LeavesLimit : Input → Prop
  | .call op => op.setsLimit = false
  | .connectCompleted _ script | .headerCompleted _ script | .payloadCompleted _ script
  | .writeCompleted _ script | .closed script => Watched.LeavesLimit script

namespace Watched

theorem Lined.connectCompleted {limit : Nat} {w : Watched} (h : Lined limit w) {script : Script}
    (hs : LeavesLimit script) (ec : Option IoError) :
    Lined limit ((scripted script).connectCompleted ec w) := by
  have hdone := h.update (sameQueue_connectDone w.socket)
  refine Lined.update ?_ (sameQueue_maybeSignalClosed _)
  match ec with
  | none => exact hdone.performs (hs _)
  | some .operationAborted => exact hdone
  | some .eof => exact hdone.performs (hs _)
  | some (.other code) => exact hdone.performs (hs _)

theorem Lined.readFailed {limit : Nat} {w : Watched} (h : Lined limit w) {script : Script}
    (hs : LeavesLimit script) (ec : IoError) : Lined limit ((scripted script).readFailed ec w) := by
  cases ec with
  | operationAborted | eof | other code => exact h.performs (hs _)

theorem Lined.headerCompleted {limit : Nat} {w : Watched} (h : Lined limit w) {script : Script}
    (hs : LeavesLimit script) (result : Except IoError Bytes) :
    Lined limit ((scripted script).headerCompleted result w) := by
  have hdone := h.update (sameQueue_readDone .readHeader w.socket)
  refine Lined.update ?_ (sameQueue_maybeSignalClosed _)
  cases result with
  | error ec => exact hdone.readFailed hs ec
  | ok bytes =>
    simp only [Handler.headerReceived]
    split
    · exact hdone.performs (hs _)
    · have hread := hdone.update
        (sameQueue_setReadPacket ((scripted script).headerRead w bytes).2 _)
      split
      · exact hread.update (sameQueue_startReadPayload _)
      · exact (hread.update (sameQueue_setReadPacket {} _)).performs (hs _)
      · exact hread.performs (hs _)

theorem Lined.payloadCompleted {limit : Nat} {w : Watched} (h : Lined limit w) {script : Script}
    (hs : LeavesLimit script) (result : Except IoError Bytes) :
    Lined limit ((scripted script).payloadCompleted result w) := by
  have hdone := h.update (sameQueue_readDone .readPayload w.socket)
  refine Lined.update ?_ (sameQueue_maybeSignalClosed _)
  cases result with
  | error ec => exact hdone.readFailed hs ec
  | ok bytes =>
    simp only [Handler.payloadReceived]
    split
    · exact hdone.performs (hs _)
    · exact (hdone.update (sameQueue_setReadPacket {} _)).performs (hs _)

theorem Lined.writeCompleted {limit : Nat} {w : Watched} (h : Lined limit w) {script : Script}
    (hs : LeavesLimit script) (result : Except IoError Nat) :
    Lined limit ((scripted script).writeCompleted result w) := by
  have hdone := h.update (sameQueue_writeDone w.socket)
  refine Lined.update (hdone.packetSent ?_ hs result) (sameQueue_maybeSignalClosed _)
  -- it was the only one
  have hone := h.writes
  have herase : (w.socket.outstanding.erase .write).count .write =
      w.socket.outstanding.count .write - 1 := List.count_erase_self
  change (w.socket.outstanding.erase .write).count .write = 0
  omega

theorem Lined.next {limit : Nat} {w : Watched} (h : Lined limit w) {i : Input}
    (hlimit : i.LeavesLimit) : Lined limit (system.next i w) := by
  cases i with
  | call op => exact h.perform hlimit
  | connectCompleted ec script => exact h.connectCompleted hlimit ec
  | headerCompleted result script => exact h.headerCompleted hlimit result
  | payloadCompleted result script => exact h.payloadCompleted hlimit result
  | writeCompleted result script => exact h.writeCompleted hlimit result
  | closed script =>
    exact (h.update ⟨rfl, rfl, rfl, rfl, rfl, Nat.le_refl _⟩).performs (hlimit _)

/-- **The queue is kept in order, and back-pressure is reported once.** Over every
order of calls, also from inside callbacks, completions and closes, with the limit
left as it is: one write is outstanding at most; what asio has been handed is the
first part of what was accepted; the queue stays within the limit, and a packet is
refused before the close exactly if the queue is full; and behind each drain
`write_buffer_empty` is called once if a packet found the queue full since the last
one, and not otherwise. -/
theorem queue_kept (isOpen : Bool) (limit : Nat) {inputs : List Input} {w : Watched}
    (h : (system.restrict fun i _ => i.LeavesLimit).Run { socket := fresh isOpen limit } inputs w) :
    QueueKept limit counts w := by
  have hlined : Lined limit w := by
    apply System.Run.keeps _ h (lined_fresh isOpen limit)
    intro i w hi hw
    exact hw.next hi.2
  exact hlined.queueKept

/-- The calls `ops` from inside `write_buffer_empty`, none from other callbacks. -/
def whenEmpty (ops : List Operation) : Script
  | .writeBufferEmpty => ops
  | _ => []

/-- The second packet is refused, and offered again when the queue is empty. -/
theorem queue_kept_offered_again :
    let w := (system.restrict fun i _ => i.LeavesLimit).final { socket := fresh true 1 }
      [.call (.asyncWrite (.ofType 43)), .call (.asyncWrite (.ofType 74)),
        .writeCompleted (.ok 3) (whenEmpty [.asyncWrite (.ofType 74)])]
    QueueKept 1 counts w ∧
      w.events = [.offered 0 false .none, .offered 1 false .bufferFull, .drained,
        .writeBufferEmpty, .offered 0 false .none] := by
  have hscript : LeavesLimit (whenEmpty [.asyncWrite (.ofType 74)]) := by
    intro cb op hop
    cases cb with
    | writeBufferEmpty =>
      cases List.mem_singleton.mp hop
      rfl
    | _ => cases hop
  refine ⟨queue_kept true 1 (System.run_of_admits ?_), by decide +kernel⟩
  exact ⟨⟨trivial, rfl⟩, ⟨trivial, rfl⟩, ⟨by decide, hscript⟩, trivial⟩

/-- The socket is closed while its one packet is written, and a packet is offered: it
is refused. The queue drains, and `write_buffer_empty` is not called. -/
theorem refused_by_close :
    ∃ w, (system.restrict fun i _ => i.LeavesLimit).Run { socket := fresh true 1 }
        [.call (.asyncWrite (.ofType 43)), .call .close, .call (.asyncWrite (.ofType 74)),
          .writeCompleted (.ok 3) fun _ => []] w ∧
      ¬QueueKept 1 (· != .none) w := by
  refine ⟨_, System.run_of_admits ?_, ?_⟩
  · exact ⟨⟨trivial, rfl⟩, ⟨trivial, rfl⟩, ⟨trivial, rfl⟩,
      ⟨by decide, fun _ _ hop => absurd hop List.not_mem_nil⟩, trivial⟩
  · intro h
    exact h.announced

end Watched

end SoupBin.Socket
