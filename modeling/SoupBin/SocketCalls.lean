import SoupBin.Socket
import SoupBin.Transition

/-!
# The calls of an owner

The owner of a socket is any handler whatsoever: each input brings the calls that it
makes from each callback. What an owner keeps beside its socket, the socket does not
notice.
-/

namespace SoupBin.Socket

/-! ## Any owner -/

/-- A call of the owner. -/
inductive Operation where
  | asyncConnect
  | asyncRead
  | asyncWrite (packet : WritePacket)
  | close
  | setWritePacketsLimit (writePacketsLimit : Nat)
  deriving DecidableEq, Repr

def perform (s : Socket) : Operation → Socket
  | .asyncConnect => asyncConnect s
  | .asyncRead => asyncRead s
  | .asyncWrite packet => (asyncWrite packet s).2
  | .close => close s
  | .setWritePacketsLimit writePacketsLimit => setWritePacketsLimit writePacketsLimit s

inductive Callback where
  | connectFailure (ec : IoError)
  | connectSuccess
  | readFailure (ec : IoError)
  | readPacketFailure (error : PacketError)
  | readSuccess (packet : ReadPacket)
  | readAborted
  | readEndOfFile
  | writeFailure (ec : IoError)
  | writeSuccess (packet : WritePacket)
  | writeBufferEmpty
  | closed
  deriving DecidableEq, Repr

/-- What the owner does from inside its callbacks. -/
abbrev Script := Callback → List Operation

/-- An owner that does nothing. -/
def silent : Script := fun _ => []

/-- The owner that follows `script`. -/
def scripted (script : Script) : Handler Socket where
  socket := id
  update f := f
  connectFailure ec s := (script (.connectFailure ec)).foldl perform s
  connectSuccess s := (script .connectSuccess).foldl perform s
  readFailure ec s := (script (.readFailure ec)).foldl perform s
  readPacketFailure error s := (script (.readPacketFailure error)).foldl perform s
  readSuccess packet s := (script (.readSuccess packet)).foldl perform s
  readAborted s := (script .readAborted).foldl perform s
  readEndOfFile s := (script .readEndOfFile).foldl perform s
  writeFailure ec s := (script (.writeFailure ec)).foldl perform s
  writeSuccess packet s := (script (.writeSuccess packet)).foldl perform s
  writeBufferEmpty s := (script .writeBufferEmpty).foldl perform s

/-- A call from outside, a completion, or the posted `closed`. -/
inductive Input where
  | call (op : Operation)
  | connectCompleted (ec : Option IoError) (script : Script)
  | headerCompleted (result : Except IoError Bytes) (script : Script)
  | payloadCompleted (result : Except IoError Bytes) (script : Script)
  | writeCompleted (result : Except IoError Nat) (script : Script)
  | closed (script : Script)

/-- Completions come one at a time, in any order, for what is outstanding. -/
def system : System Socket Input where
  enabled
    | .call _, _ => True
    | .connectCompleted _ _, s => .connect ∈ s.outstanding
    | .headerCompleted _ _, s => .readHeader ∈ s.outstanding
    | .payloadCompleted _ _, s => .readPayload ∈ s.outstanding
    | .writeCompleted _ _, s => .write ∈ s.outstanding
    | .closed _, s => 0 < s.posted
  next
    | .call op, s => perform s op
    | .connectCompleted ec script, s => (scripted script).connectCompleted ec s
    | .headerCompleted result script, s => (scripted script).headerCompleted result s
    | .payloadCompleted result script, s => (scripted script).payloadCompleted result s
    | .writeCompleted result script, s => (scripted script).writeCompleted result s
    | .closed script, s => (script .closed).foldl perform s.notified

instance (i : Input) (s : Socket) : Decidable (system.enabled i s) :=
  match i with
  | .call _ => isTrue trivial
  | .connectCompleted _ _ => inferInstanceAs (Decidable (.connect ∈ s.outstanding))
  | .headerCompleted _ _ => inferInstanceAs (Decidable (.readHeader ∈ s.outstanding))
  | .payloadCompleted _ _ => inferInstanceAs (Decidable (.readPayload ∈ s.outstanding))
  | .writeCompleted _ _ => inferInstanceAs (Decidable (.write ∈ s.outstanding))
  | .closed _ => inferInstanceAs (Decidable (0 < s.posted))

/-- A socket that has been opened or accepted, or neither, and not used yet. -/
def fresh (isOpen : Bool) (writePacketsLimit : Nat) : Socket :=
  { isOpen := isOpen, writePacketsLimit := writePacketsLimit }

/-! ## Two owners -/

/-- The owner `k` does to `π w` what the owner `h` does to `w`. -/
structure Handler.Projects {W V : Type} (h : Handler W) (k : Handler V) (π : W → V) : Prop where
  socket : ∀ w, h.socket w = k.socket (π w)
  update : ∀ f w, π (h.update f w) = k.update f (π w)
  connectFailure : ∀ ec w, π (h.connectFailure ec w) = k.connectFailure ec (π w)
  connectSuccess : ∀ w, π (h.connectSuccess w) = k.connectSuccess (π w)
  readFailure : ∀ ec w, π (h.readFailure ec w) = k.readFailure ec (π w)
  readPacketFailure : ∀ error w, π (h.readPacketFailure error w) = k.readPacketFailure error (π w)
  readSuccess : ∀ packet w, π (h.readSuccess packet w) = k.readSuccess packet (π w)
  readAborted : ∀ w, π (h.readAborted w) = k.readAborted (π w)
  readEndOfFile : ∀ w, π (h.readEndOfFile w) = k.readEndOfFile (π w)
  writeFailure : ∀ ec w, π (h.writeFailure ec w) = k.writeFailure ec (π w)
  writeSuccess : ∀ packet w, π (h.writeSuccess packet w) = k.writeSuccess packet (π w)
  writeBufferEmpty : ∀ w, π (h.writeBufferEmpty w) = k.writeBufferEmpty (π w)

section
variable {W V : Type} {h : Handler W} {k : Handler V} {π : W → V}

theorem Handler.Projects.connectCompleted (p : h.Projects k π) (ec : Option IoError) (w : W) :
    π (h.connectCompleted ec w) = k.connectCompleted ec (π w) := by
  match ec with
  | none => simp only [Handler.connectCompleted, p.update, p.connectSuccess]
  | some .operationAborted => simp only [Handler.connectCompleted, p.update]
  | some .eof => simp only [Handler.connectCompleted, p.update, p.connectFailure]
  | some (.other code) => simp only [Handler.connectCompleted, p.update, p.connectFailure]

theorem Handler.Projects.readFailed (p : h.Projects k π) (ec : IoError) (w : W) :
    π (h.readFailed ec w) = k.readFailed ec (π w) := by
  cases ec with
  | operationAborted => exact p.readAborted w
  | eof => exact p.readEndOfFile w
  | other code => exact p.readFailure _ w

theorem Handler.Projects.headerReceived (p : h.Projects k π) (result : Except IoError Bytes)
    (w : W) : π (h.headerReceived result w) = k.headerReceived result (π w) := by
  cases result with
  | error ec => exact p.readFailed ec w
  | ok bytes =>
    simp only [Handler.headerReceived, ← p.socket, ← p.update]
    split
    · exact p.readFailure _ w
    · split
      · rfl
      · exact p.readSuccess _ _
      · exact p.readPacketFailure _ _

theorem Handler.Projects.headerCompleted (p : h.Projects k π) (result : Except IoError Bytes)
    (w : W) : π (h.headerCompleted result w) = k.headerCompleted result (π w) := by
  simp only [Handler.headerCompleted, p.update, p.headerReceived]

theorem Handler.Projects.payloadReceived (p : h.Projects k π) (result : Except IoError Bytes)
    (w : W) : π (h.payloadReceived result w) = k.payloadReceived result (π w) := by
  cases result with
  | error ec => exact p.readFailed ec w
  | ok bytes =>
    simp only [Handler.payloadReceived, ← p.socket, ← p.update]
    split
    · exact p.readFailure _ w
    · exact p.readSuccess _ _

theorem Handler.Projects.payloadCompleted (p : h.Projects k π) (result : Except IoError Bytes)
    (w : W) : π (h.payloadCompleted result w) = k.payloadCompleted result (π w) := by
  simp only [Handler.payloadCompleted, p.update, p.payloadReceived]

theorem Handler.Projects.packetSent (p : h.Projects k π) (result : Except IoError Nat) (w : W) :
    π (h.packetSent result w) = k.packetSent result (π w) := by
  match result with
  | .error .operationAborted => rfl
  | .error .eof => exact p.writeFailure _ w
  | .error (.other code) => exact p.writeFailure _ w
  | .ok n =>
    simp only [Handler.packetSent, p.socket]
    split
    · rfl
    · rename_i packet _ _
      split
      · exact p.writeFailure _ w
      · simp only [p.writeSuccess, p.update]
        split
        · rw [p.update, p.update, p.writeSuccess]
        · split
          · rw [p.writeBufferEmpty, p.update, p.update, p.writeSuccess]
          · rw [p.update, p.writeSuccess]

theorem Handler.Projects.writeCompleted (p : h.Projects k π) (result : Except IoError Nat)
    (w : W) : π (h.writeCompleted result w) = k.writeCompleted result (π w) := by
  simp only [Handler.writeCompleted, p.update, p.packetSent]

end

/-! ## Calls of a kind -/

/-- A second connect begins while one is pending. -/
def reconnects (s : Socket) : Operation → Bool
  | .asyncConnect => !s.closing && s.connectPending
  | _ => false

/-- A second read begins while one is pending. asio leaves it open what becomes of the two. -/
def rereads (s : Socket) : Operation → Bool
  | .asyncRead => !s.closing && s.readPending
  | _ => false

/-- Two operations share one flag. -/
def overlaps (s : Socket) (op : Operation) : Bool := reconnects s op || rereads s op

@[simp] theorem overlaps_asyncConnect (s : Socket) :
    overlaps s .asyncConnect = (!s.closing && s.connectPending) := Bool.or_false _

@[simp] theorem overlaps_asyncRead (s : Socket) :
    overlaps s .asyncRead = (!s.closing && s.readPending) := Bool.false_or _

/-- A socket, and whether its owner has made a call of the kind. -/
structure Noticed where
  socket : Socket
  made : Bool := false
  deriving DecidableEq, Repr

namespace Noticed

section
variable (kind : Socket → Operation → Bool)

def perform (w : Noticed) (op : Operation) : Noticed where
  socket := Socket.perform w.socket op
  made := w.made || kind w.socket op

def update (f : Socket → Socket) (w : Noticed) : Noticed := { w with socket := f w.socket }

/-- The owner that follows `script`. -/
def scripted (script : Script) : Handler Noticed where
  socket := socket
  update := update
  connectFailure ec w := (script (.connectFailure ec)).foldl (perform kind) w
  connectSuccess w := (script .connectSuccess).foldl (perform kind) w
  readFailure ec w := (script (.readFailure ec)).foldl (perform kind) w
  readPacketFailure error w := (script (.readPacketFailure error)).foldl (perform kind) w
  readSuccess packet w := (script (.readSuccess packet)).foldl (perform kind) w
  readAborted w := (script .readAborted).foldl (perform kind) w
  readEndOfFile w := (script .readEndOfFile).foldl (perform kind) w
  writeFailure ec w := (script (.writeFailure ec)).foldl (perform kind) w
  writeSuccess packet w := (script (.writeSuccess packet)).foldl (perform kind) w
  writeBufferEmpty w := (script .writeBufferEmpty).foldl (perform kind) w

def next (i : Input) (w : Noticed) : Noticed :=
  match i with
  | .call op => perform kind w op
  | .connectCompleted ec script => (scripted kind script).connectCompleted ec w
  | .headerCompleted result script => (scripted kind script).headerCompleted result w
  | .payloadCompleted result script => (scripted kind script).payloadCompleted result w
  | .writeCompleted result script => (scripted kind script).writeCompleted result w
  | .closed script => (script .closed).foldl (perform kind) (w.update notified)

end

section
variable {kind : Socket → Operation → Bool}

theorem performs_socket (ops : List Operation) (w : Noticed) :
    (ops.foldl (perform kind) w).socket = ops.foldl Socket.perform w.socket := by
  induction ops generalizing w with
  | nil => rfl
  | cons op ops ih => exact ih (w.perform kind op)

/-- What is noticed changes nothing. -/
theorem scripted_projects (script : Script) :
    (scripted kind script).Projects (Socket.scripted script) socket where
  socket _ := rfl
  update _ _ := rfl
  connectFailure _ w := performs_socket _ w
  connectSuccess w := performs_socket _ w
  readFailure _ w := performs_socket _ w
  readPacketFailure _ w := performs_socket _ w
  readSuccess _ w := performs_socket _ w
  readAborted w := performs_socket _ w
  readEndOfFile w := performs_socket _ w
  writeFailure _ w := performs_socket _ w
  writeSuccess _ w := performs_socket _ w
  writeBufferEmpty w := performs_socket _ w

theorem next_socket (i : Input) (w : Noticed) :
    (next kind i w).socket = system.next i w.socket := by
  cases i with
  | call op => rfl
  | connectCompleted ec script => exact (scripted_projects script).connectCompleted ec w
  | headerCompleted result script => exact (scripted_projects script).headerCompleted result w
  | payloadCompleted result script => exact (scripted_projects script).payloadCompleted result w
  | writeCompleted result script => exact (scripted_projects script).writeCompleted result w
  | closed script => exact performs_socket _ (w.update notified)

/-- Who does nothing makes no call of the kind. -/
theorem keeps_silent : (scripted kind silent).Keeps fun w => w.made = false where
  update _ _ _ h := h
  connectFailure _ _ h := h
  connectSuccess _ h := h
  readFailure _ _ h := h
  readPacketFailure _ _ h := h
  readSuccess _ _ h := h
  readAborted _ h := h
  readEndOfFile _ h := h
  writeFailure _ _ h := h
  writeSuccess _ _ h := h
  writeBufferEmpty _ h := h

/-- `I` holds as long as no such call has been made, and `J` from then on. -/
structure Turns (I J : Socket → Prop) (w : Noticed) : Prop where
  before : w.made = false → I w.socket
  after : w.made = true → J w.socket

variable {I J : Socket → Prop} {w : Noticed}

theorem turns_start {s : Socket} (h : I s) : Turns I J { socket := s } :=
  ⟨fun _ => h, fun hmade => by cases hmade⟩

theorem Turns.update {f : Socket → Socket} (h : Turns I J w) (hI : ∀ s, I s → I (f s))
    (hJ : ∀ s, J s → J (f s)) : Turns I J (w.update f) :=
  ⟨fun hmade => hI _ (h.before hmade), fun hmade => hJ _ (h.after hmade)⟩

theorem Turns.performs (hI : ∀ s op, I s → kind s op = false → I (Socket.perform s op))
    (hIJ : ∀ s op, I s → kind s op = true → J (Socket.perform s op))
    (hJ : ∀ s op, J s → J (Socket.perform s op)) (h : Turns I J w) (ops : List Operation) :
    Turns I J (ops.foldl (perform kind) w) := by
  induction ops generalizing w with
  | nil => exact h
  | cons op ops ih =>
    apply ih
    cases hmade : w.made with
    | true => exact ⟨fun hno => by simp [perform, hmade] at hno, fun _ => hJ _ op (h.after hmade)⟩
    | false =>
      have hnow : (w.perform kind op).made = kind w.socket op := by
        rw [perform, hmade, Bool.false_or]
      exact ⟨fun hno => hI _ op (h.before hmade) (hnow.symm.trans hno),
        fun hyes => hIJ _ op (h.before hmade) (hnow.symm.trans hyes)⟩

end

end Noticed

/-- In this step the owner makes a call of the kind. -/
def Input.Makes (kind : Socket → Operation → Bool) (i : Input) (s : Socket) : Prop :=
  (Noticed.next kind i { socket := s }).made = true

instance (kind : Socket → Operation → Bool) (i : Input) (s : Socket) : Decidable (i.Makes kind s) :=
  inferInstanceAs (Decidable (_ = true))

end SoupBin.Socket
