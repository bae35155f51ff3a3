import Mathlib.Algebra.Group.Nat.Defs
import Mathlib.Tactic.Common

/-!
# Result and reason codes
-/

namespace SoupBin

/-- `Packet_error`. -/
inductive PacketError where
  | none
  | malformedHeader
  | invalidMessageType
  | incorrectLength
  | invalidFieldValue
  | unexpectedSequence
  deriving DecidableEq, Repr

/-- `Login_reject_reason`. -/
inductive LoginRejectReason where
  | none
  | notAuthorized
  | userNotFound
  | incorrectPassword
  | sessionNotAvailable
  | invalidRejectReason
  deriving DecidableEq, Repr

/-- `Write_error`. -/
inductive WriteError where
  | none
  | emptyBuffer
  | nullBuffer
  | sessionEnded
  | disconnected
  | notLoggedIn
  | bufferFull
  deriving DecidableEq, Repr

/-- `Disconnect_reason`. -/
inductive DisconnectReason where
  | none
  | userInitiated
  | superseded
  | logoutRequest
  | peerClosed
  | connectFailure
  | transportError
  | loginTimeout
  | heartbeatTimeout
  | accessDenied
  | sessionMismatch
  | sequenceNumberAheadOfSession
  | sequenceNumberTooLow
  | sequenceNumberTooHigh
  | protocolViolation
  | unmanagedAbort
  deriving DecidableEq, Repr

/-- `Error`. -/
inductive Error where
  | usernameTooLong
  | invalidUsername
  | passwordTooLong
  | invalidPassword
  | sessionTooLong
  | invalidSession
  | endpointInUse
  | usernameInUse
  | handlerNotSet
  deriving DecidableEq, Repr

/-- `asio::error_code` of a failed operation: `operation_aborted`, `eof`, or
any other value. -/
inductive IoError where
  | operationAborted
  | eof
  | other (code : Nat)
  deriving DecidableEq, Repr

/-! ## Connection state -/

/-- `Connection_state::State`. -/
inductive State where
  | connecting
  | connected
  | loggedIn
  | disconnecting
  | disconnected
  deriving DecidableEq, Repr

/-- `disconnected` is final, and `disconnecting` leads nowhere else. -/
def State.Precedes (s s' : State) : Prop :=
  (s = .disconnected → s' = .disconnected) ∧
    (s = .disconnecting → s' = .disconnecting ∨ s' = .disconnected)

instance (s s' : State) : Decidable (s.Precedes s') := by
  unfold State.Precedes
  infer_instance

theorem State.Precedes.refl (s : State) : s.Precedes s := ⟨id, Or.inl⟩

theorem State.Precedes.trans {s s' s'' : State} (h : s.Precedes s') (h' : s'.Precedes s'') :
    s.Precedes s'' := by
  constructor
  · exact fun hs => h'.1 (h.1 hs)
  · intro hs
    rcases h.2 hs with hs' | hs'
    · exact h'.2 hs'
    · exact Or.inr (h'.1 hs')

theorem State.precedes_disconnected (s : State) : s.Precedes .disconnected :=
  ⟨fun _ => rfl, fun _ => Or.inr rfl⟩

/-- `Connection_state`. The reasons that were given each time the state became
`disconnecting` or `disconnected` are kept beside the members, in `causes`. -/
structure ConnectionState where
  state : State := .connecting
  reason : DisconnectReason := .none
  causes : List DisconnectReason := []
  deriving DecidableEq, Repr

namespace ConnectionState

def setState (c : ConnectionState) (state : State) : ConnectionState := { c with state := state }

def isClosing (c : ConnectionState) : Bool :=
  c.state == .disconnecting || c.state == .disconnected

/-- `initiate_disconnect`; its result says whether the state changed. -/
def initiateDisconnect (c : ConnectionState) (pending : DisconnectReason) : Bool × ConnectionState :=
  if c.isClosing then (false, c) else (true, ⟨.disconnecting, pending, c.causes ++ [pending]⟩)

/-- `disconnect`: a reason that is there already is kept. -/
def disconnect (c : ConnectionState) (observed : DisconnectReason) : Bool × ConnectionState :=
  if c.state = .disconnected then (false, c)
  else
    let reason := if c.reason = .none then observed else c.reason
    (true, ⟨.disconnected, reason, c.causes ++ [observed]⟩)

end ConnectionState

end SoupBin
