import SoupBin.LoginPayloads
import SoupBin.Server

/-!
# Which requests are taken as wildcards

A blank session asks for any session, and the number 0 for the current one. The
decoders read on from the right end of a field and stop at what they do not know, so
that other fields than blank ones are taken for these.
-/

namespace SoupBin.Packing
open Records

theorem LongestSuffix.unique {p : UInt8 → Bool} {field text other : Bytes}
    (h : LongestSuffix p field text) (h' : LongestSuffix p field other) : text = other := by
  have hle := h.longest other h'.back h'.all
  have hge := h'.longest text h.back h.all
  have hlength : text.length = other.length := by omega
  rw [List.suffix_iff_eq_drop.mp h.back, List.suffix_iff_eq_drop.mp h'.back, hlength]

/-- Nothing is found behind a last byte that fails the test. -/
theorem takeRightWhile_eq_nil_iff (p : UInt8 → Bool) (b : Bytes) :
    takeRightWhile p b = [] ↔ ∀ c ∈ b.getLast?, p c = false := by
  rcases List.eq_nil_or_concat' b with rfl | ⟨front, last, rfl⟩
  · simp [takeRightWhile]
  · by_cases h : p last = true
    · simp [takeRightWhile, h]
    · simp [takeRightWhile, h]

/-- The last byte is a letter or a digit. -/
def EndsAlnum (field : Bytes) : Prop := ∃ c ∈ field.getLast?, isAlnum c = true

/-- The digits at the end of a field stand for 0, as far as 64 bits tell. -/
def WrapsToZero (field : Bytes) : Prop :=
  ∃ digits, LongestSuffix isDigit field digits ∧ 2 ^ 64 ∣ decimal digits

end SoupBin.Packing

namespace SoupBin
open Packing Records ServerSide

namespace LoginRequestPacket

theorem session_blank_iff (data : Bytes) :
    (read data).session = [] ↔ ¬EndsAlnum (sessionField data) := by
  have hread : (read data).session = takeRightWhile isAlnum (sessionField data) :=
    List.append_nil _
  rw [hread, takeRightWhile_eq_nil_iff]
  simp [EndsAlnum]

theorem number_zero_iff (data : Bytes) :
    (read data).nextSequenceNumber = 0 ↔ WrapsToZero (sequenceNumberField data) := by
  obtain ⟨digits, hdigits, hvalue⟩ := (decoded data).nextSequenceNumber
  rw [hvalue, ← Nat.dvd_iff_mod_eq_zero]
  constructor
  · exact fun h => ⟨digits, hdigits, h⟩
  · rintro ⟨other, hother, h⟩
    rwa [hdigits.unique hother]

end LoginRequestPacket

namespace ServerSide.Acceptor
variable {s : Acceptor} {p k : Nat} {port : Port} {request : LoginRequestPacket}

/-- A port refuses a request for its password or its session, and for nothing else. -/
theorem onLoginRequestAt_error_iff :
    (∃ reject, (s.onLoginRequestAt p k port request).1 = .error reject) ↔
      request.password ≠ port.password ∨ request.session ≠ [] ∧ request.session ≠ s.session := by
  unfold onLoginRequestAt
  split
  · rename_i hpassword
    exact iff_of_true ⟨_, rfl⟩ (Or.inl hpassword)
  · rename_i hpassword
    split
    · rename_i hsession
      exact iff_of_true ⟨_, rfl⟩ (Or.inr hsession)
    · rename_i hsession
      exact iff_of_false (by simp) fun h => h.elim hpassword hsession

/-- An accepted request is answered with the server's session, and with the number of the
port unless it asks for an earlier one. -/
theorem onLoginRequestAt_ok {response : LoginAcceptedPacket}
    (h : (s.onLoginRequestAt p k port request).1 = .ok response) :
    response.session = s.session ∧ response.nextSequenceNumber =
      if request.nextSequenceNumber = 0 then port.nextSequenceNumber
      else min request.nextSequenceNumber port.nextSequenceNumber := by
  unfold onLoginRequestAt at h
  split at h
  · cases h
  · split at h
    · cases h
    · simp only [Except.ok.injEq] at h
      subst h
      refine ⟨by cases port.connection <;> rfl, ?_⟩
      unfold Port.rewind
      by_cases hz : request.nextSequenceNumber = 0
      · simp [hz, Port.setConnection]
      · by_cases hlt : request.nextSequenceNumber < port.nextSequenceNumber
        · simp [hz, hlt, Port.setConnection, Port.setNextSequenceNumber, Nat.min_eq_left hlt.le]
        · have hge := Nat.le_of_not_lt hlt
          simp [hz, hlt, Port.setConnection, Nat.min_eq_right hge]

/-- **What is taken as a wildcard.** Whatever payload comes in and whatever the port: the
session is blank for the server exactly if the last byte of its field is no letter or digit,
the number is 0 exactly if the digits at the end of its field stand for a multiple of 2^64,
or there are none. A request is refused for its password, or because it names another
session, and never for the form of its fields; it starts at the current number if its
number is 0 or not below that. -/
theorem login_wildcards (s : Acceptor) (p k : Nat) (port : Port) (data : Bytes) :
    let request := LoginRequestPacket.read data
    let outcome := (s.onLoginRequestAt p k port request).1
    (request.session = [] ↔ ¬EndsAlnum (LoginRequestPacket.sessionField data)) ∧
    (request.nextSequenceNumber = 0 ↔
      WrapsToZero (LoginRequestPacket.sequenceNumberField data)) ∧
    ((∃ reject, outcome = .error reject) ↔ request.password ≠ port.password ∨
      EndsAlnum (LoginRequestPacket.sessionField data) ∧ request.session ≠ s.session) ∧
    ∀ response, outcome = .ok response → response.session = s.session ∧
      (WrapsToZero (LoginRequestPacket.sequenceNumberField data) →
        response.nextSequenceNumber = port.nextSequenceNumber) ∧
      (¬WrapsToZero (LoginRequestPacket.sequenceNumberField data) →
        response.nextSequenceNumber = min request.nextSequenceNumber port.nextSequenceNumber) := by
  intro request outcome
  have hblank := LoginRequestPacket.session_blank_iff data
  have hzero := LoginRequestPacket.number_zero_iff data
  refine ⟨hblank, hzero, ?_, fun response hok => ?_⟩
  · rw [onLoginRequestAt_error_iff, ne_eq, ne_eq, hblank, not_not]
  · obtain ⟨hsession, hnumber⟩ := onLoginRequestAt_ok hok
    refine ⟨hsession, fun h => ?_, fun h => ?_⟩
    · rw [hnumber, if_pos (hzero.mpr h)]
    · rw [hnumber, if_neg fun hz => h (hzero.mp hz)]

/-- The session `abcde` and the number 7, each padded on the wrong side. -/
def misplacedRequest : Bytes :=
  [117] ++ List.replicate 5 space ++ ([112] ++ List.replicate 9 space) ++
    ([97, 98, 99, 100, 101] ++ List.replicate 5 space) ++ ([55] ++ List.replicate 19 space)

/-- They are taken for wildcards by a server of the session `z`, at the number 9. -/
theorem misplaced_request_accepted :
    misplacedRequest.length = LoginRequestPacket.payloadSize ∧
      LoginRequestPacket.sessionField misplacedRequest ≠ List.replicate 10 space ∧
      55 ∈ LoginRequestPacket.sequenceNumberField misplacedRequest ∧
      (onLoginRequest 0 (LoginRequestPacket.read misplacedRequest)
        { session := [122]
          ports := [{ username := [117], password := [112], nextSequenceNumber := 9 }] }).1 =
          .ok ⟨[122], 9⟩ := by
  decide +kernel

end ServerSide.Acceptor

end SoupBin
