import SoupBin.SocketSettled
import SoupBin.SocketStream

/-!
# The owner of a socket

An owner keeps its socket in a state of its own. All that matters of it to the
socket are the calls that it makes, between completions and from inside them: then
every completion is one that the socket alone could have seen.
-/

namespace SoupBin.Socket

/-- Packets that satisfy `P` are offered, and the socket may be closed. -/
inductive Uses (P : WritePacket → Prop) (s : Socket) : Socket → Prop where
  | refl : Uses P s s
  | write {u : Socket} (packet : WritePacket) : P packet → Uses P s u →
      Uses P s (u.asyncWrite packet).2
  | close {u : Socket} : Uses P s u → Uses P s u.close

/-- The calls that an owner makes, some of them reads if it `reads`. -/
inductive Duty (P : WritePacket → Prop) (reads : Bool) : Operation → Prop where
  | write (packet : WritePacket) : P packet → Duty P reads (.asyncWrite packet)
  | close : Duty P reads .close
  | read : reads = true → Duty P reads .asyncRead

/-- Some calls are made, none of them a read while another is pending. -/
def Does (P : WritePacket → Prop) (reads : Bool) (s s' : Socket) : Prop :=
  ∃ ops : List Operation, (∀ op ∈ ops, Duty P reads op) ∧
    ops.foldl (Noticed.perform rereads) { socket := s } = { socket := s' }

section
variable {P : WritePacket → Prop} {reads : Bool} {s u v : Socket}

theorem Uses.trans (h : Uses P s u) (h' : Uses P u v) : Uses P s v := by
  induction h' with
  | refl => exact h
  | write packet hp _ ih => exact .write packet hp ih
  | close _ ih => exact .close ih

theorem Duty.all {op : Operation} (h : Duty P false op) : Duty P reads op := by
  cases h with
  | write packet hp => exact .write packet hp
  | close => exact .close
  | read h => cases h

/-- Duties offer nothing but what satisfies `P`. -/
theorem offer_of_duty {ops : List Operation} (h : ∀ op ∈ ops, Duty P reads op) : Offer P ops := by
  intro packet hp
  cases h _ hp with
  | write packet hp => exact hp

theorem Does.refl (P : WritePacket → Prop) (reads : Bool) (s : Socket) : Does P reads s s :=
  ⟨[], fun _ h => absurd h List.not_mem_nil, rfl⟩

theorem Does.trans (h : Does P reads s u) (h' : Does P reads u v) : Does P reads s v := by
  obtain ⟨ops, hops, hu⟩ := h
  obtain ⟨more, hmore, hv⟩ := h'
  refine ⟨ops ++ more, ?_, ?_⟩
  · intro op hop
    rcases List.mem_append.mp hop with hop | hop
    · exact hops op hop
    · exact hmore op hop
  · rw [List.foldl_append, hu, hv]

/-- The socket that is left. -/
theorem performs_of_noticed {ops : List Operation}
    (h : ops.foldl (Noticed.perform rereads) { socket := s } = { socket := u }) :
    u = ops.foldl perform s := by
  have hsocket : (ops.foldl (Noticed.perform rereads) { socket := s }).socket =
      ops.foldl perform s := Noticed.performs_socket ops _
  rw [h] at hsocket
  exact hsocket

theorem does_perform {op : Operation} (hop : Duty P reads op) (hrereads : rereads s op = false) :
    Does P reads s (perform s op) := by
  refine ⟨[op], fun other ho => ?_, ?_⟩
  · rw [List.mem_singleton.mp ho]
    exact hop
  · simp [Noticed.perform, hrereads]

/-- Who does not read does not read twice. -/
theorem Duty.rereads {op : Operation} (h : Duty P false op) (s : Socket) :
    rereads s op = false := by
  cases h with
  | write packet hp => rfl
  | close => rfl
  | read h => cases h

theorem Uses.does (h : Uses P s u) : Does P reads s u := by
  induction h with
  | refl => exact .refl P reads s
  | @write u packet hp _ ih => exact ih.trans (does_perform (.write packet hp) rfl)
  | @close u _ ih => exact ih.trans (does_perform .close rfl)

theorem close_readPending (s : Socket) : s.close.readPending = s.readPending := by
  unfold close maybeSignalClosed
  split <;> rfl

/-- No read begins. -/
theorem Uses.readPending (h : Uses P s u) : u.readPending = s.readPending := by
  induction h with
  | refl => rfl
  | write packet _ _ ih => exact (asyncWrite_readPending _ packet).trans ih
  | close _ ih => exact (close_readPending _).trans ih

/-- A read begins when none is pending. -/
theorem does_asyncRead (hidle : s.readPending = false) : Does P true s s.asyncRead := by
  have hread : Duty P true .asyncRead := .read rfl
  exact does_perform hread (by simp [rereads, hidle])

end

/-! ## Completions -/

/-- What asio completes, or the library has posted. -/
inductive Completion where
  | connect (ec : Option IoError)
  | header (result : Except IoError Bytes)
  | payload (result : Except IoError Bytes)
  | write (result : Except IoError Nat)
  | closed

def Completion.input (script : Script) : Completion → Input
  | .connect ec => .connectCompleted ec script
  | .header result => .headerCompleted result script
  | .payload result => .payloadCompleted result script
  | .write result => .writeCompleted result script
  | .closed => .closed script

def Input.completion? : Input → Option Completion
  | .call _ => none
  | .connectCompleted ec _ => some (.connect ec)
  | .headerCompleted result _ => some (.header result)
  | .payloadCompleted result _ => some (.payload result)
  | .writeCompleted result _ => some (.write result)
  | .closed _ => some .closed

/-- The callbacks from inside which an owner may begin to read. -/
def Callback.reads : Callback → Bool
  | .connectSuccess | .readSuccess _ => true
  | _ => false

/-- Every call from inside a callback is one of the owner's duties. -/
def Script.Minds (P : WritePacket → Prop) (script : Script) : Prop :=
  ∀ cb, ∀ op ∈ script cb, Duty P cb.reads op

def Input.Minds (P : WritePacket → Prop) : Input → Prop
  | .call op => Duty P false op
  | .connectCompleted _ script | .headerCompleted _ script | .payloadCompleted _ script
  | .writeCompleted _ script | .closed script => script.Minds P

/-- The completion has been seen, or some calls have been made. No read begins while
another is pending. -/
def Mirrors (P : WritePacket → Prop) (completion : Option Completion) (s s' : Socket) : Prop :=
  match completion with
  | none => Does P false s s'
  | some completion => ∃ script : Script, script.Minds P ∧
      ¬(completion.input script).Makes rereads s ∧ s' = system.next (completion.input script) s

/-- The socket `s` has seen the completions, in this order, and become `s'`. No read began
while another was pending. -/
def Sees (P : WritePacket → Prop) (completions : List Completion) (s s' : Socket) : Prop :=
  ∃ inputs, (system.restrict fun i s => i.Minds P ∧ ¬i.Makes rereads s).Run s inputs s' ∧
    inputs.filterMap Input.completion? = completions

section
variable {P : WritePacket → Prop} {s u v : Socket} {completions : List Completion}

theorem Sees.refl (P : WritePacket → Prop) (s : Socket) : Sees P [] s s := ⟨[], .refl, rfl⟩

theorem Sees.does (h : Sees P completions s u) (hd : Does P false u v) :
    Sees P completions s v := by
  obtain ⟨ops, hops, hv⟩ := hd
  obtain rfl := performs_of_noticed hv
  clear hv
  induction ops generalizing u with
  | nil => exact h
  | cons op ops ih =>
    apply ih _ fun other ho => hops other (List.mem_cons_of_mem op ho)
    obtain ⟨inputs, hrun, hcompletions⟩ := h
    have hop : Duty P false op := hops op List.mem_cons_self
    have hapart : ¬(Input.call op).Makes rereads u := by
      simp [Input.Makes, Noticed.next, Noticed.perform, hop.rereads u]
    refine ⟨inputs ++ [.call op], hrun.step (Input.call op) ⟨trivial, hop, hapart⟩, ?_⟩
    rw [List.filterMap_append, hcompletions]
    exact List.append_nil _

theorem Completion.completion?_input (completion : Completion) (script : Script) :
    (completion.input script).completion? = some completion := by
  cases completion <;> rfl

theorem Completion.minds_input (completion : Completion) {script : Script}
    (h : script.Minds P) : (completion.input script).Minds P := by
  cases completion <;> exact h

theorem Mirrors.of_noticed {completion : Completion} {script : Script} (hscript : script.Minds P)
    (h : Noticed.next rereads (completion.input script) { socket := s } = { socket := u }) :
    Mirrors P (some completion) s u := by
  refine ⟨script, hscript, ?_, ?_⟩
  · rw [Input.Makes, h]
    exact Bool.false_ne_true
  · have hsocket : (Noticed.next rereads (completion.input script) { socket := s }).socket =
        system.next (completion.input script) s := Noticed.next_socket _ _
    rw [h] at hsocket
    exact hsocket

/-- One event more. -/
theorem Sees.mirrors {completion : Option Completion} (h : Sees P completions s u)
    (hm : Mirrors P completion u v)
    (henabled : ∀ c, completion = some c → ∀ script, system.enabled (c.input script) u) :
    Sees P (completions ++ completion.toList) s v := by
  cases completion with
  | none =>
    rw [Option.toList_none, List.append_nil]
    exact h.does hm
  | some c =>
    obtain ⟨script, hscript, hapart, rfl⟩ := hm
    obtain ⟨inputs, hrun, hcompletions⟩ := h
    refine ⟨inputs ++ [c.input script],
      hrun.step _ ⟨henabled c rfl script, c.minds_input hscript, hapart⟩, ?_⟩
    rw [List.filterMap_append, hcompletions, List.filterMap_cons_some (c.completion?_input script)]
    rfl

theorem Script.Minds.offers {script : Script} (h : script.Minds P) : script.Offers P :=
  fun cb => offer_of_duty (h cb)

theorem Input.Minds.offers {i : Input} (h : i.Minds P) : i.Offers P := by
  cases i with
  | call op =>
    intro packet hp
    cases List.mem_singleton.mp hp
    cases h with
    | write packet hp => exact hp
  | _ => exact Script.Minds.offers h

end

/-! ## Before the connect -/

/-- The connect has been completed, if there was one. -/
def Connected (s : Socket) : Prop := s.outstanding.count .connect = 0

/-- One connect is outstanding at most, and nothing is read before it completes. -/
structure Early (s : Socket) : Prop where
  once : s.outstanding.count .connect ≤ 1
  idle : .connect ∈ s.outstanding →
    s.readPending = false ∧ .readHeader ∉ s.outstanding ∧ .readPayload ∉ s.outstanding

/-- Nothing has been read, and no connect has begun or been completed. -/
structure Stays (s s' : Socket) : Prop extends SameReads s s' where
  connects : s'.outstanding.count .connect = s.outstanding.count .connect

section
variable {P : WritePacket → Prop} {a b s s' : Socket}

theorem Stays.refl (s : Socket) : Stays s s := ⟨.refl s, rfl⟩

theorem Stays.trans {c : Socket} (h : Stays a b) (h' : Stays b c) : Stays a c :=
  ⟨h.toSameReads.trans h'.toSameReads, h'.connects.trans h.connects⟩

theorem Connected.early (h : Connected s) : Early s := by
  refine ⟨Nat.le_trans (Nat.le_of_eq h) (Nat.zero_le 1), fun hc => ?_⟩
  exact absurd hc (List.count_eq_zero.mp h)

theorem Early.stays (h : Early s) (hs : Stays s s') : Early s' := by
  refine ⟨hs.connects ▸ h.once, fun hc => ?_⟩
  rw [← List.count_pos_iff, hs.connects, List.count_pos_iff] at hc
  obtain ⟨hidle, hheader, hpayload⟩ := h.idle hc
  refine ⟨hs.pending.trans hidle, ?_, ?_⟩
  · rwa [← List.count_eq_zero, hs.header, List.count_eq_zero]
  · rwa [← List.count_eq_zero, hs.payload, List.count_eq_zero]

theorem connects_startWritePacket (s : Socket) :
    s.startWritePacket.outstanding.count .connect = s.outstanding.count .connect := by
  unfold startWritePacket
  split
  · rfl
  · simp [begin, List.count_append]

theorem stays_perform {op : Operation} (hop : Duty P false op) (s : Socket) :
    Stays s (perform s op) := by
  cases hop with
  | write packet _ =>
    refine ⟨sameReads_asyncWrite s packet, ?_⟩
    change (s.asyncWrite packet).2.outstanding.count .connect = _
    rcases asyncWrite_outstanding s packet with heq | ⟨-, -, heq⟩
    · rw [heq]
    · rw [heq]
      simp
  | close =>
    refine ⟨sameReads_close s, ?_⟩
    change s.close.outstanding.count .connect = _
    rw [close, maybeSignalClosed_outstanding]
  | read h => cases h

theorem stays_performs {ops : List Operation} (hops : ∀ op ∈ ops, Duty P false op) (s : Socket) :
    Stays s (ops.foldl perform s) := by
  induction ops generalizing s with
  | nil => exact .refl s
  | cons op ops ih =>
    exact (stays_perform (hops op List.mem_cons_self) s).trans
      (ih (fun other ho => hops other (List.mem_cons_of_mem op ho)) _)

theorem stays_packetSent {script : Script} (h : script.Minds P) (result : Except IoError Nat)
    (s : Socket) : Stays s ((scripted script).packetSent result s) := by
  match result with
  | .error .operationAborted => exact .refl s
  | .error .eof => exact stays_performs (h (.writeFailure .eof)) s
  | .error (.other code) => exact stays_performs (h (.writeFailure (.other code))) s
  | .ok n =>
    simp only [Handler.packetSent]
    split
    · exact .refl s
    · rename_i front rest hqueue
      split
      · exact stays_performs (h (.writeFailure .operationAborted)) s
      · have htold := stays_performs (h (.writeSuccess front)) s
        have hpop : Stays s ((script (.writeSuccess front)).foldl perform s).popPacket :=
          htold.trans ⟨⟨rfl, rfl, rfl, rfl⟩, rfl⟩
        split
        · exact hpop.trans ⟨sameReads_startWritePacket _, connects_startWritePacket _⟩
        · split
          · have hclear : Stays s
                ((script (.writeSuccess front)).foldl perform s).popPacket.clearWasFull :=
              hpop.trans ⟨⟨rfl, rfl, rfl, rfl⟩, rfl⟩
            exact hclear.trans (stays_performs (h .writeBufferEmpty) _)
          · exact hpop

/-- Nothing begins a connect. -/
theorem connected_perform {reads : Bool} {op : Operation} (hop : Duty P reads op)
    (h : Connected s) : Connected (perform s op) := by
  cases hop with
  | write packet hp => exact (stays_perform (.write packet hp) s).connects.trans h
  | close => exact (stays_perform (P := P) .close s).connects.trans h
  | read _ =>
    change Connected s.asyncRead
    unfold asyncRead
    split
    · exact h
    · simpa [Connected, startReadHeader, begin, List.count_append] using h

theorem connected_performs {reads : Bool} {ops : List Operation}
    (hops : ∀ op ∈ ops, Duty P reads op)
    (h : Connected s) : Connected (ops.foldl perform s) := by
  induction ops generalizing s with
  | nil => exact h
  | cons op ops ih =>
    exact ih (fun other ho => hops other (List.mem_cons_of_mem op ho))
      (connected_perform (hops op List.mem_cons_self) h)

theorem keeps_connected {script : Script} (hs : script.Minds P) :
    (scripted script).Keeps Connected where
  update f hf s h := by
    have herase (op : SocketOp) : Connected { s with outstanding := s.outstanding.erase op } :=
      Nat.le_zero.mp (h ▸ (List.erase_sublist).count_le _)
    cases hf with
    | connectDone => exact herase .connect
    | readDone op => exact herase op
    | writeDone => exact herase .write
    | setReadPacket packet => exact h
    | startReadPayload =>
      simpa [Connected, scripted, startReadPayload, begin, List.count_append] using h
    | popPacket => exact h
    | startWritePacket => exact (connects_startWritePacket s).trans h
    | clearWasFull => exact h
    | maybeSignalClosed => exact (congrArg _ (maybeSignalClosed_outstanding s)).trans h
  connectFailure ec _ h := connected_performs (hs (.connectFailure ec)) h
  connectSuccess _ h := connected_performs (hs .connectSuccess) h
  readFailure ec _ h := connected_performs (hs (.readFailure ec)) h
  readPacketFailure error _ h := connected_performs (hs (.readPacketFailure error)) h
  readSuccess packet _ h := connected_performs (hs (.readSuccess packet)) h
  readAborted _ h := connected_performs (hs .readAborted) h
  readEndOfFile _ h := connected_performs (hs .readEndOfFile) h
  writeFailure ec _ h := connected_performs (hs (.writeFailure ec)) h
  writeSuccess packet _ h := connected_performs (hs (.writeSuccess packet)) h
  writeBufferEmpty _ h := connected_performs (hs .writeBufferEmpty) h

theorem Early.next (h : Early s) {i : Input} (hi : i.Minds P) (henabled : system.enabled i s) :
    Early (system.next i s) := by
  have hread {op : SocketOp} (hop : op ∈ s.outstanding)
      (hne : op = .readHeader ∨ op = .readPayload) :
      Connected s := by
    apply List.count_eq_zero.mpr
    intro hc
    obtain ⟨-, hheader, hpayload⟩ := h.idle hc
    rcases hne with rfl | rfl
    · exact hheader hop
    · exact hpayload hop
  match i with
  | .call op => exact h.stays (stays_perform hi s)
  | .connectCompleted ec script =>
    have hdone : Connected s.connectDone := by
      have herase : (s.outstanding.erase .connect).count .connect =
          s.outstanding.count .connect - 1 := List.count_erase_self
      have honce := h.once
      change (s.outstanding.erase .connect).count .connect = 0
      omega
    have k := keeps_connected hi
    apply Connected.early
    apply k.update _ .maybeSignalClosed
    match ec with
    | none => exact k.connectSuccess _ hdone
    | some .operationAborted => exact hdone
    | some .eof => exact k.connectFailure _ _ hdone
    | some (.other code) => exact k.connectFailure _ _ hdone
  | .headerCompleted result script =>
    exact ((keeps_connected hi).headerCompleted result (hread henabled (.inl rfl))).early
  | .payloadCompleted result script =>
    exact ((keeps_connected hi).payloadCompleted result (hread henabled (.inr rfl))).early
  | .writeCompleted result script =>
    have hdone : Stays s s.writeDone :=
      ⟨sameReads_writeDone s, List.count_erase_of_ne (by decide)⟩
    have hsignal (u : Socket) : Stays u u.maybeSignalClosed :=
      ⟨sameReads_maybeSignalClosed u, congrArg _ (maybeSignalClosed_outstanding u)⟩
    exact h.stays ((hdone.trans (stays_packetSent hi result _)).trans (hsignal _))
  | .closed script =>
    have hnotified : Stays s s.notified := ⟨⟨rfl, rfl, rfl, rfl⟩, rfl⟩
    exact h.stays (hnotified.trans (stays_performs (hi .closed) _))

theorem Sees.early {completions : List Completion} (h : Early s) (hsees : Sees P completions s s') :
    Early s' := by
  obtain ⟨inputs, hrun, -⟩ := hsees
  apply hrun.keeps (I := Early) _ h
  intro i s hi h
  exact h.next hi.2.1 hi.1

end

/-- The same calls from inside each callback, or from inside those that may read. -/
def replying (reads : Bool) (ops : List Operation) : Script
  | .connectSuccess | .readSuccess _ => ops
  | _ => if reads then [] else ops

theorem minds_replying {P : WritePacket → Prop} {reads : Bool} {ops : List Operation}
    (h : ∀ op ∈ ops, Duty P reads op) : (replying reads ops).Minds P := by
  cases reads with
  | false =>
    intro cb op hop
    cases cb <;> exact (h op hop).all
  | true =>
    intro cb op hop
    cases cb with
    | connectSuccess | readSuccess packet => exact h op hop
    | _ => exact absurd hop List.not_mem_nil

/-- The calls of one callback, and those of the other that may follow it. -/
def inTurn (ops drained : List Operation) : Script
  | .writeBufferEmpty => drained
  | _ => ops

namespace Handler
variable {W : Type} (h : Handler W) (P : WritePacket → Prop) (E : W → Prop)

/-- A callback leaves a socket there, and makes some calls. -/
def Acts (reads : Bool) (w w' : W) : Prop := E w' ∧ Does P reads (h.socket w) (h.socket w')

/-- The socket is there as long as `E` holds. What the owner does from inside a
callback are its duties; it reads on when it is connected, or has been delivered a packet. -/
structure Owns : Prop where
  update : ∀ f w, E w → E (h.update f w) ∧ h.socket (h.update f w) = f (h.socket w)
  connectFailure : ∀ ec w, E w → h.Acts P E false w (h.connectFailure ec w)
  connectSuccess : ∀ w, E w → (h.socket w).readPending = false →
    h.Acts P E true w (h.connectSuccess w)
  readFailure : ∀ ec w, E w → h.Acts P E false w (h.readFailure ec w)
  readPacketFailure : ∀ error w, E w → h.Acts P E false w (h.readPacketFailure error w)
  readSuccess : ∀ packet w, E w → (h.socket w).readPending = false →
    h.Acts P E true w (h.readSuccess packet w)
  readAborted : ∀ w, E w → h.Acts P E false w (h.readAborted w)
  readEndOfFile : ∀ w, E w → h.Acts P E false w (h.readEndOfFile w)
  writeFailure : ∀ ec w, E w → h.Acts P E false w (h.writeFailure ec w)
  writeSuccess : ∀ packet w, E w → h.Acts P E false w (h.writeSuccess packet w)
  writeBufferEmpty : ∀ w, E w → h.Acts P E false w (h.writeBufferEmpty w)

/-- The socket sees the completion. -/
def Passes (completion : Completion) (w w' : W) : Prop :=
  E w' ∧ Mirrors P (some completion) (h.socket w) (h.socket w')

variable {h P E} {w : W}

theorem Owns.readFailed (o : h.Owns P E) (ec : IoError) (hw : E w) :
    h.Acts P E false w (h.readFailed ec w) := by
  cases ec with
  | operationAborted => exact o.readAborted w hw
  | eof => exact o.readEndOfFile w hw
  | other code => exact o.readFailure _ w hw

theorem scripted_readFailed (ops : List Operation) (ec : IoError) (w : Noticed) :
    (Noticed.scripted rereads (replying false ops)).readFailed ec w =
      ops.foldl (Noticed.perform rereads) w := by
  cases ec <;> rfl

/-- The calls of one callback, before the last statement of a completion. -/
theorem Owns.passes (o : h.Owns P E) {reads : Bool} {completion : Completion} {w₁ w' : W}
    (hacts : h.Acts P E reads w₁ w')
    (hscripted : ∀ ops,
      Noticed.next rereads (completion.input (replying reads ops)) { socket := h.socket w } =
        (ops.foldl (Noticed.perform rereads) { socket := h.socket w₁ }).update maybeSignalClosed) :
    h.Passes P E completion w (h.update maybeSignalClosed w') := by
  obtain ⟨hE, ops, hops, hsocket⟩ := hacts
  obtain ⟨hsignaled, hlast⟩ := o.update maybeSignalClosed w' hE
  refine ⟨hsignaled, .of_noticed (minds_replying hops) ?_⟩
  rw [hlast, hscripted, hsocket]
  rfl

/-- A completion without a callback. -/
theorem Owns.passes_untold (o : h.Owns P E) {completion : Completion} {w' : W} (hE : E w')
    (hscripted :
      Noticed.next rereads (completion.input (replying false [])) { socket := h.socket w } =
        Noticed.update maybeSignalClosed { socket := h.socket w' }) :
    h.Passes P E completion w (h.update maybeSignalClosed w') := by
  obtain ⟨hsignaled, hlast⟩ := o.update maybeSignalClosed w' hE
  have hminds : Script.Minds P (replying false []) :=
    minds_replying fun _ hop => absurd hop List.not_mem_nil
  refine ⟨hsignaled, .of_noticed hminds ?_⟩
  rw [hlast, hscripted]
  rfl

theorem Owns.connectCompleted (o : h.Owns P E) (ec : Option IoError) (hw : E w)
    (hidle : (h.socket w).readPending = false) :
    h.Passes P E (.connect ec) w (h.connectCompleted ec w) := by
  obtain ⟨hE, hdone⟩ := o.update connectDone w hw
  have hidle : (h.socket (h.update connectDone w)).readPending = false := by
    rw [hdone]
    exact hidle
  match ec with
  | none =>
    apply o.passes (o.connectSuccess _ hE hidle)
    rw [hdone]
    exact fun _ => rfl
  | some .operationAborted =>
    apply o.passes_untold hE
    rw [hdone]
    rfl
  | some .eof =>
    apply o.passes (o.connectFailure _ _ hE)
    rw [hdone]
    exact fun _ => rfl
  | some (.other code) =>
    apply o.passes (o.connectFailure _ _ hE)
    rw [hdone]
    exact fun _ => rfl

theorem Owns.headerCompleted (o : h.Owns P E) (result : Except IoError Bytes) (hw : E w) :
    h.Passes P E (.header result) w (h.headerCompleted result w) := by
  obtain ⟨hE, hdone⟩ := o.update (readDone .readHeader) w hw
  cases result with
  | error ec =>
    apply o.passes (o.readFailed ec hE)
    intro ops
    rw [hdone]
    exact congrArg (Noticed.update maybeSignalClosed) (scripted_readFailed ops ec _)
  | ok bytes =>
    unfold Handler.headerCompleted
    by_cases hlength : bytes.length = packetHeaderLength
    · rcases hpacket : ({ (h.socket w).readPacket with header := bytes } : ReadPacket).resizePayload
        with ⟨outcome, packet⟩
      have hread : ({ (h.socket (h.update (readDone .readHeader) w)).readPacket with
          header := bytes } : ReadPacket).resizePayload = (outcome, packet) := by
        rw [hdone]
        exact hpacket
      obtain ⟨hset, hfilled⟩ := o.update (setReadPacket packet) _ hE
      rw [hdone] at hfilled
      -- the socket on its own reads the same packet
      cases outcome with
      | resized =>
        obtain ⟨hbegun, hstarted⟩ := o.update startReadPayload _ hset
        rw [h.headerReceived_resized hlength hread]
        apply o.passes_untold hbegun
        rw [hstarted, hfilled]
        exact congrArg (Noticed.update maybeSignalClosed)
          ((Noticed.scripted rereads (replying false [])).headerReceived_resized
            (w := { socket := readDone .readHeader (h.socket w) }) hlength hpacket)
      | emptyPayload =>
        obtain ⟨hcleared, hfresh⟩ := o.update (setReadPacket {}) _ hset
        rw [hfilled] at hfresh
        have hidle : (h.socket (h.update (setReadPacket {}) (h.update (setReadPacket packet)
            (h.update (readDone .readHeader) w)))).readPending = false := by
          rw [hfresh]
          rfl
        rw [h.headerReceived_empty hlength hread]
        apply o.passes (o.readSuccess packet _ hcleared hidle)
        intro ops
        rw [hfresh]
        exact congrArg (Noticed.update maybeSignalClosed)
          ((Noticed.scripted rereads (replying true ops)).headerReceived_empty
            (w := { socket := readDone .readHeader (h.socket w) }) hlength hpacket)
      | malformedHeader =>
        rw [h.headerReceived_malformed hlength hread]
        apply o.passes (o.readPacketFailure _ _ hset)
        intro ops
        rw [hfilled]
        exact congrArg (Noticed.update maybeSignalClosed)
          ((Noticed.scripted rereads (replying false ops)).headerReceived_malformed
            (w := { socket := readDone .readHeader (h.socket w) }) hlength hpacket)
    · rw [h.headerReceived_short hlength]
      apply o.passes (o.readFailure .operationAborted _ hE)
      intro ops
      rw [hdone]
      exact congrArg (Noticed.update maybeSignalClosed)
        ((Noticed.scripted rereads (replying false ops)).headerReceived_short
          (w := { socket := readDone .readHeader (h.socket w) }) hlength)

theorem Owns.payloadCompleted (o : h.Owns P E) (result : Except IoError Bytes) (hw : E w) :
    h.Passes P E (.payload result) w (h.payloadCompleted result w) := by
  obtain ⟨hE, hdone⟩ := o.update (readDone .readPayload) w hw
  cases result with
  | error ec =>
    apply o.passes (o.readFailed ec hE)
    intro ops
    rw [hdone]
    exact congrArg (Noticed.update maybeSignalClosed) (scripted_readFailed ops ec _)
  | ok bytes =>
    unfold Handler.payloadCompleted
    have hpacket : (h.socket (h.update (readDone .readPayload) w)).readPacket =
        (h.socket w).readPacket := by
      rw [hdone]
      rfl
    by_cases hlength : bytes.length = (h.socket w).readPacket.payloadSize
    · obtain ⟨hcleared, hfresh⟩ := o.update (setReadPacket {}) _ hE
      rw [hdone] at hfresh
      have hidle : (h.socket (h.update (setReadPacket {})
          (h.update (readDone .readPayload) w))).readPending = false := by
        rw [hfresh]
        rfl
      rw [h.payloadReceived_whole (hpacket ▸ hlength), hpacket]
      apply o.passes (o.readSuccess _ _ hcleared hidle)
      intro ops
      rw [hfresh]
      exact congrArg (Noticed.update maybeSignalClosed)
        ((Noticed.scripted rereads (replying true ops)).payloadReceived_whole
          (w := { socket := readDone .readPayload (h.socket w) }) hlength)
    · rw [h.payloadReceived_short (hpacket ▸ hlength)]
      apply o.passes (o.readFailure .operationAborted _ hE)
      intro ops
      rw [hdone]
      exact congrArg (Noticed.update maybeSignalClosed)
        ((Noticed.scripted rereads (replying false ops)).payloadReceived_short
          (w := { socket := readDone .readPayload (h.socket w) }) hlength)

/-- The packet at the front has been written. The owner may be told that the queue is
empty now. -/
theorem Owns.packetSent (o : h.Owns P E) {n : Nat} {packet : WritePacket} {rest : List WritePacket}
    (hw : E w) (hqueue : (h.socket w).writePackets = packet :: rest) (hsize : n = packet.size) :
    h.Passes P E (.write (.ok n)) w
      (h.update maybeSignalClosed (h.packetSent (.ok n) (h.update writeDone w))) := by
  obtain ⟨hE, hdone⟩ := o.update writeDone w hw
  have hsame : (h.socket (h.update writeDone w)).writePackets = packet :: rest := by
    rw [hdone]
    exact hqueue
  obtain ⟨hE₁, ops, hops, htold⟩ := o.writeSuccess packet _ hE
  obtain ⟨hE₂, hpopped⟩ := o.update popPacket _ hE₁
  rw [hdone] at htold
  generalize h.socket (h.writeSuccess packet (h.update writeDone w)) = s at htold hpopped
  have hscripted (drained : List Operation) : Noticed.next rereads
      ((Completion.write (.ok n)).input (inTurn ops drained)) { socket := h.socket w } =
        Noticed.update maybeSignalClosed
          (if s.popPacket.writePackets ≠ [] then { socket := s.popPacket.startWritePacket }
          else if s.popPacket.writeBufferWasFull then
            drained.foldl (Noticed.perform rereads) { socket := s.popPacket.clearWasFull }
          else { socket := s.popPacket }) := by
    have hfront : (writeDone (h.socket w)).writePackets.head? = some packet :=
      List.head?_eq_some_iff.mpr ⟨rest, hqueue⟩
    have hwhole := (Noticed.scripted rereads (inTurn ops drained)).packetSent_whole
      (w := { socket := writeDone (h.socket w) }) hfront
    have hsuccess : (Noticed.scripted rereads (inTurn ops drained)).writeSuccess packet
        { socket := writeDone (h.socket w) } = { socket := s } := htold
    rw [hsuccess] at hwhole
    rw [hsize]
    exact congrArg (Noticed.update maybeSignalClosed) hwhole
  have hminds {drained : List Operation} (hdrained : ∀ op ∈ drained, Duty P false op) :
      (inTurn ops drained).Minds P := by
    intro cb op hop
    cases cb with
    | writeBufferEmpty => exact (hdrained op hop).all
    | _ => exact (hops op hop).all
  have hnone : ∀ op ∈ ([] : List Operation), Duty P false op :=
    fun _ hop => absurd hop List.not_mem_nil
  simp only [Handler.packetSent, hsame, hsize, ne_eq, not_true_eq_false, if_false, hpopped]
  by_cases hmore : s.popPacket.writePackets = []
  · by_cases hfull : s.popPacket.writeBufferWasFull = true
    · obtain ⟨hE₃, hcleared⟩ := o.update clearWasFull _ hE₂
      obtain ⟨hE₄, drained, hdrained, hlast⟩ := o.writeBufferEmpty _ hE₃
      obtain ⟨hsignaled, hclosed⟩ := o.update maybeSignalClosed _ hE₄
      simp only [hmore, hfull, not_true_eq_false, if_false, if_true]
      refine ⟨hsignaled, .of_noticed (hminds hdrained) ?_⟩
      rw [hcleared, hpopped] at hlast
      rw [← hsize, hscripted, hclosed]
      simp [hmore, hfull, hlast, Noticed.update]
    · obtain ⟨hsignaled, hclosed⟩ := o.update maybeSignalClosed _ hE₂
      simp only [hmore, hfull, not_true_eq_false, if_false, Bool.false_eq_true]
      refine ⟨hsignaled, .of_noticed (hminds hnone) ?_⟩
      rw [← hsize, hscripted, hclosed, hpopped]
      simp [hmore, hfull, Noticed.update]
  · obtain ⟨hE₃, hstarted⟩ := o.update startWritePacket _ hE₂
    obtain ⟨hsignaled, hclosed⟩ := o.update maybeSignalClosed _ hE₃
    simp only [hmore, not_false_eq_true, if_true]
    refine ⟨hsignaled, .of_noticed (hminds hnone) ?_⟩
    rw [← hsize, hscripted, hclosed, hstarted, hpopped]
    simp [hmore, Noticed.update]

theorem Owns.writeCompleted (o : h.Owns P E) (result : Except IoError Nat) (hw : E w) :
    h.Passes P E (.write result) w (h.writeCompleted result w) := by
  obtain ⟨hE, hdone⟩ := o.update writeDone w hw
  unfold Handler.writeCompleted
  match result with
  | .error .operationAborted =>
    apply o.passes_untold hE
    rw [hdone]
    rfl
  | .error .eof =>
    apply o.passes (o.writeFailure _ _ hE)
    rw [hdone]
    exact fun _ => rfl
  | .error (.other code) =>
    apply o.passes (o.writeFailure _ _ hE)
    rw [hdone]
    exact fun _ => rfl
  | .ok n =>
    have hsame : (h.socket (h.update writeDone w)).writePackets = (h.socket w).writePackets := by
      rw [hdone]
      rfl
    cases hqueue : (h.socket w).writePackets with
    | nil =>
      rw [hqueue] at hsame
      simp only [Handler.packetSent, hsame]
      apply o.passes_untold hE
      rw [hdone]
      have hempty : (writeDone (h.socket w)).writePackets = [] := hqueue
      simp [Completion.input, Noticed.next, Handler.writeCompleted, Handler.packetSent,
        Noticed.scripted, Noticed.update, hempty]
    | cons packet rest =>
      rw [hqueue] at hsame
      by_cases hsize : n = packet.size
      · exact o.packetSent hw hqueue hsize
      · simp only [Handler.packetSent, hsame, hsize, ne_eq, not_false_eq_true, if_true]
        apply o.passes (o.writeFailure .operationAborted _ hE)
        intro ops
        rw [hdone]
        have hfront : (writeDone (h.socket w)).writePackets.head? = some packet :=
          List.head?_eq_some_iff.mpr ⟨rest, hqueue⟩
        exact congrArg (Noticed.update maybeSignalClosed)
          ((Noticed.scripted rereads (replying false ops)).packetSent_short
            (w := { socket := writeDone (h.socket w) }) hfront hsize)

end Handler
end SoupBin.Socket
