import SoupBin.Packing
import SoupBin.RwPackets
import SoupBin.Types

/-!
# Logical packets

The ten packet types, the three payloads that have fields, the buffers which the
user sends, and the checks on the texts the fields can hold.
-/

namespace SoupBin
open Packing

/-! ## Either side -/

def DebugPacket.packetType : UInt8 := 43

/-! ## Sent by the server -/

structure LoginAcceptedPacket where
  session : Bytes := []
  nextSequenceNumber : Nat := 1
  deriving DecidableEq, Repr

namespace LoginAcceptedPacket

def packetType : UInt8 := 65
def payloadSize : Nat := sessionLength + sequenceNumberLength

/-- `read`, into a fresh packet. -/
def read (data : Bytes) : LoginAcceptedPacket where
  session := unpackSession [] data
  nextSequenceNumber := unpackSequenceNumber (data.drop sessionLength)

def write (packet : LoginAcceptedPacket) : Bytes :=
  packSession packet.session ++ packSequenceNumber packet.nextSequenceNumber

end LoginAcceptedPacket

/-- `Login_rejected_reason` is a `char`: any value can come in. -/
abbrev LoginRejectedReason := UInt8

namespace LoginRejectedReason

def notAuthorized : LoginRejectedReason := 65
def sessionNotAvailable : LoginRejectedReason := 83

end LoginRejectedReason

structure LoginRejectedPacket where
  reason : LoginRejectedReason := LoginRejectedReason.notAuthorized
  deriving DecidableEq, Repr

namespace LoginRejectedPacket

def packetType : UInt8 := 74
def payloadSize : Nat := 1

def read (data : Bytes) : LoginRejectedPacket := ⟨data.getD 0 0⟩
def write (packet : LoginRejectedPacket) : Bytes := [packet.reason]

end LoginRejectedPacket

def SequencedDataPacket.packetType : UInt8 := 83

def ServerHeartbeatPacket.packetType : UInt8 := 72
def ServerHeartbeatPacket.payloadSize : Nat := 0

def EndOfSessionPacket.packetType : UInt8 := 90
def EndOfSessionPacket.payloadSize : Nat := 0

/-! ## Sent by the client -/

structure LoginRequestPacket where
  username : Bytes := []
  password : Bytes := []
  session : Bytes := []
  nextSequenceNumber : Nat := 0
  deriving DecidableEq, Repr

namespace LoginRequestPacket

def packetType : UInt8 := 76
def payloadSize : Nat := usernameLength + passwordLength + sessionLength + sequenceNumberLength

/-- `read`, into a fresh packet. -/
def read (data : Bytes) : LoginRequestPacket where
  username := unpackUsername [] data
  password := unpackPassword [] (data.drop usernameLength)
  session := unpackSession [] (data.drop (usernameLength + passwordLength))
  nextSequenceNumber :=
    unpackSequenceNumber (data.drop (usernameLength + passwordLength + sessionLength))

def write (packet : LoginRequestPacket) : Bytes :=
  packUsername packet.username ++ packPassword packet.password ++ packSession packet.session ++
    packSequenceNumber packet.nextSequenceNumber

end LoginRequestPacket

def UnsequencedDataPacket.packetType : UInt8 := 85

def ClientHeartbeatPacket.packetType : UInt8 := 82
def ClientHeartbeatPacket.payloadSize : Nat := 0

def LogoutRequestPacket.packetType : UInt8 := 79
def LogoutRequestPacket.payloadSize : Nat := 0

/-- `Login_reject`: the reason for the log, and the packet for the peer. -/
structure LoginReject where
  reason : LoginRejectReason
  packet : LoginRejectedPacket
  deriving DecidableEq, Repr

/-! ## Lengths and numbers of the payloads -/

@[simp] theorem LoginAcceptedPacket.length_write (packet : LoginAcceptedPacket) :
    packet.write.length = LoginAcceptedPacket.payloadSize := by
  rw [write, List.length_append, packSession, length_packLeft, packSequenceNumber,
    length_packNumeric, payloadSize]

@[simp] theorem LoginRequestPacket.length_write (packet : LoginRequestPacket) :
    packet.write.length = LoginRequestPacket.payloadSize := by
  simp only [write, List.length_append, packUsername, packPassword, packSession,
    packSequenceNumber, length_packRight, length_packLeft, length_packNumeric, payloadSize]

@[simp] theorem LoginRejectedPacket.length_write (packet : LoginRejectedPacket) :
    packet.write.length = LoginRejectedPacket.payloadSize := rfl

/-- The number in a response is read as it was written, whatever the session. -/
theorem LoginAcceptedPacket.read_write_number (packet : LoginAcceptedPacket)
    (h : packet.nextSequenceNumber < 2 ^ 64) :
    (read packet.write).nextSequenceNumber = packet.nextSequenceNumber := by
  have hs : (packSession packet.session).length = sessionLength := length_packLeft _ _
  have := unpack_packSequenceNumber h []
  rw [read, write, List.drop_append_of_le_length (Nat.le_of_eq hs.symm),
    List.drop_of_length_le (Nat.le_of_eq hs), List.nil_append]
  simpa using this

/-! ## What the user sends -/

/-- A pointer and a size: no pointer, or one to as many bytes as the size says. -/
inductive Span where
  | null (size : Nat)
  | bytes (data : Bytes)
  deriving DecidableEq, Repr

def Span.size : Span → Nat
  | .null size => size
  | .bytes data => data.length

/-! ## Validation -/

def isValidString (str : Bytes) : Bool := str.all isAlnum

/-- `validate_username`, `validate_password` and `validate_session` differ in
the length they allow and in the errors. -/
def validate (length : Nat) (tooLong invalid : Error) (str : Bytes) : Option Error :=
  if str.length > length then some tooLong
  else if isValidString str then none
  else some invalid

def validateUsername : Bytes → Option Error :=
  validate usernameLength .usernameTooLong .invalidUsername

def validatePassword : Bytes → Option Error :=
  validate passwordLength .passwordTooLong .invalidPassword

def validateSession : Bytes → Option Error :=
  validate sessionLength .sessionTooLong .invalidSession

end SoupBin
