import SoupBin.Decimals
import SoupBin.LoginFields

/-!
# What any payload is read as

A peer may send any bytes as a login request or response. Each field is read as
the longest text or number that stands where it should, and what was read is
written as the same bytes only if they are in canonical form.
-/

namespace SoupBin.Packing
open Records

/-- The longest front part of a field whose bytes all satisfy `p`. -/
structure LongestPrefix (p : UInt8 → Bool) (field text : Bytes) : Prop where
  front : text <+: field
  all : ∀ c ∈ text, p c = true
  longest : ∀ other, other <+: field → (∀ c ∈ other, p c = true) → other.length ≤ text.length

/-- The longest end of a field whose bytes all satisfy `p`. -/
structure LongestSuffix (p : UInt8 → Bool) (field text : Bytes) : Prop where
  back : text <:+ field
  all : ∀ c ∈ text, p c = true
  longest : ∀ other, other <:+ field → (∀ c ∈ other, p c = true) → other.length ≤ text.length

theorem takeWhile_longest (p : UInt8 → Bool) (field : Bytes) :
    LongestPrefix p field (field.takeWhile p) := by
  refine ⟨List.takeWhile_prefix p, List.all_eq_true.mp List.all_takeWhile, ?_⟩
  rintro other ⟨rest, rfl⟩ hall
  rw [List.takeWhile_append_of_pos hall, List.length_append]
  exact Nat.le_add_right _ _

theorem takeRightWhile_longest (p : UInt8 → Bool) (field : Bytes) :
    LongestSuffix p field (takeRightWhile p field) := by
  have h := takeWhile_longest p field.reverse
  refine ⟨takeRightWhile_suffix p field, fun c hc => h.all c (List.mem_reverse.mp hc), ?_⟩
  intro other hother hall
  have hle := h.longest other.reverse (List.reverse_prefix.mpr hother)
    fun c hc => hall c (List.mem_reverse.mp hc)
  rw [List.length_reverse] at hle
  rwa [takeRightWhile, List.length_reverse]

/-! ## Canonical fields -/

/-- A text, and spaces behind it. -/
def CanonicalRight (field : Bytes) : Prop :=
  ∃ text spaces, field = text ++ List.replicate spaces space ∧ ∀ c ∈ text, isAlnum c = true

/-- A text, and spaces in front of it. -/
def CanonicalLeft (field : Bytes) : Prop :=
  ∃ text spaces, field = List.replicate spaces space ++ text ∧ ∀ c ∈ text, isAlnum c = true

/-- A number of 64 bits in its shortest form, and spaces in front of it. -/
def CanonicalNumber (field : Bytes) : Prop :=
  ∃ n digits spaces, n < 2 ^ 64 ∧ ShortestDecimal n digits ∧
    field = List.replicate spaces space ++ digits

theorem mem_replicate_space {p : UInt8 → Bool} (hp : p space = false) {n : Nat} :
    ∀ c ∈ List.replicate n space, p c = false := by
  intro c hc
  rw [(List.mem_replicate.mp hc).2, hp]

/-- Packing a text that fits is padding it. -/
theorem packRight_text {length : Nat} {text : Bytes} (hle : text.length ≤ length)
    (htext : ∀ c ∈ text, isAlnum c = true) :
    packAlphanumericRightPadded length text =
      text ++ List.replicate (length - text.length) space := by
  simp only [packAlphanumericRightPadded]
  rw [List.take_of_length_le hle, List.takeWhile_eq_self_iff.mpr htext]

theorem packLeft_text {length : Nat} {text : Bytes} (hle : text.length ≤ length)
    (htext : ∀ c ∈ text, isAlnum c = true) :
    packAlphanumericLeftPadded length text =
      List.replicate (length - text.length) space ++ text := by
  simp only [packAlphanumericLeftPadded]
  rw [List.take_of_length_le hle, (takeRightWhile_eq_self_iff isAlnum text).mpr htext]

theorem right_exact_iff (field : Bytes) :
    packAlphanumericRightPadded field.length (field.takeWhile isAlnum) = field ↔
      CanonicalRight field := by
  have h := takeWhile_longest isAlnum field
  constructor
  · intro heq
    rw [packRight_text h.front.length_le h.all] at heq
    exact ⟨_, _, heq.symm, h.all⟩
  · rintro ⟨text, spaces, rfl, htext⟩
    have hread : (text ++ List.replicate spaces space).takeWhile isAlnum = text := by
      rw [List.takeWhile_append_of_pos htext]
      cases spaces <;> simp [List.replicate_succ, show isAlnum space = false from rfl]
    rw [hread, packRight_text (by simp) htext]
    simp

theorem left_exact_iff (field : Bytes) :
    packAlphanumericLeftPadded field.length (takeRightWhile isAlnum field) = field ↔
      CanonicalLeft field := by
  have h := takeRightWhile_longest isAlnum field
  constructor
  · intro heq
    rw [packLeft_text h.back.length_le h.all] at heq
    exact ⟨_, _, heq.symm, h.all⟩
  · rintro ⟨text, spaces, rfl, htext⟩
    rw [takeRightWhile_append (mem_replicate_space rfl) htext, packLeft_text (by simp) htext]
    simp

theorem number_exact_iff {field : Bytes} (hlength : field.length = sequenceNumberLength) :
    packSequenceNumber (digitsValue (takeRightWhile isDigit field)) = field ↔
      CanonicalNumber field := by
  have hshortest {n : Nat} (hn : n < 2 ^ 64) :
      ShortestDecimal n (packDigits sequenceNumberLength n []) :=
    packDigits_shortest (by decide) (Nat.lt_trans hn (by decide))
  constructor
  · intro heq
    have hn : digitsValue (takeRightWhile isDigit field) < 2 ^ 64 := by
      rw [digitsValue_eq]
      exact Nat.mod_lt _ (by decide)
    rw [packSequenceNumber, packNumeric] at heq
    exact ⟨_, _, _, hn, hshortest hn, heq.symm⟩
  · rintro ⟨n, digits, spaces, hn, hdigits, rfl⟩
    rw [takeRightWhile_append (mem_replicate_space rfl) hdigits.isDigits, digitsValue_eq,
      hdigits.value, Nat.mod_eq_of_lt hn, packSequenceNumber, packNumeric,
      (hshortest hn).unique hdigits]
    rw [List.length_append, List.length_replicate] at hlength
    rw [← hlength, Nat.add_sub_cancel]

end SoupBin.Packing

namespace SoupBin
open Packing Records

/-! ## The fields of the payloads -/

namespace LoginRequestPacket

def usernameField (b : Bytes) : Bytes := b.take usernameLength
def passwordField (b : Bytes) : Bytes := (b.drop usernameLength).take passwordLength

def sessionField (b : Bytes) : Bytes :=
  (b.drop (usernameLength + passwordLength)).take sessionLength

def sequenceNumberField (b : Bytes) : Bytes :=
  (b.drop (usernameLength + passwordLength + sessionLength)).take sequenceNumberLength

/-- What `packet` holds is what stands in `b`. -/
structure Decoded (b : Bytes) (packet : LoginRequestPacket) : Prop where
  username : LongestPrefix isAlnum (usernameField b) packet.username
  password : LongestPrefix isAlnum (passwordField b) packet.password
  session : LongestSuffix isAlnum (sessionField b) packet.session
  nextSequenceNumber : ∃ digits, LongestSuffix isDigit (sequenceNumberField b) digits ∧
    packet.nextSequenceNumber = decimal digits % 2 ^ 64

structure Canonical (b : Bytes) : Prop where
  username : CanonicalRight (usernameField b)
  password : CanonicalRight (passwordField b)
  session : CanonicalLeft (sessionField b)
  nextSequenceNumber : CanonicalNumber (sequenceNumberField b)

end LoginRequestPacket

namespace LoginAcceptedPacket

def sessionField (b : Bytes) : Bytes := b.take sessionLength
def sequenceNumberField (b : Bytes) : Bytes := (b.drop sessionLength).take sequenceNumberLength

structure Decoded (b : Bytes) (packet : LoginAcceptedPacket) : Prop where
  session : LongestSuffix isAlnum (sessionField b) packet.session
  nextSequenceNumber : ∃ digits, LongestSuffix isDigit (sequenceNumberField b) digits ∧
    packet.nextSequenceNumber = decimal digits % 2 ^ 64

structure Canonical (b : Bytes) : Prop where
  session : CanonicalLeft (sessionField b)
  nextSequenceNumber : CanonicalNumber (sequenceNumberField b)

end LoginAcceptedPacket

theorem unpackRight_longest (length : Nat) (data : Bytes) :
    LongestPrefix isAlnum (data.take length) (unpackAlphanumericRightPadded length [] data) := by
  rw [unpackAlphanumericRightPadded, List.append_nil]
  exact takeWhile_longest isAlnum _

theorem unpackLeft_longest (length : Nat) (data : Bytes) :
    LongestSuffix isAlnum (data.take length) (unpackAlphanumericLeftPadded length [] data) := by
  rw [unpackAlphanumericLeftPadded, List.append_nil]
  exact takeRightWhile_longest isAlnum _

theorem unpackNumber_longest (data : Bytes) : ∃ digits,
    LongestSuffix isDigit (data.take sequenceNumberLength) digits ∧
      unpackSequenceNumber data = decimal digits % 2 ^ 64 :=
  ⟨_, takeRightWhile_longest isDigit _, digitsValue_eq _⟩

theorem LoginRequestPacket.decoded (b : Bytes) : Decoded b (read b) :=
  ⟨unpackRight_longest _ _, unpackRight_longest _ _, unpackLeft_longest _ _,
    unpackNumber_longest _⟩

theorem LoginAcceptedPacket.decoded (b : Bytes) : Decoded b (read b) :=
  ⟨unpackLeft_longest _ _, unpackNumber_longest _⟩

/-! ## Reading what was written -/

theorem unpackNumber_lt (data : Bytes) : unpackSequenceNumber data < 2 ^ 64 := by
  rw [unpackSequenceNumber, unpackNumeric, digitsValue_eq]
  exact Nat.mod_lt _ (by decide)

/-- A text that was read survives being written. -/
theorem right_again {length : Nat} (data after : Bytes) :
    unpackAlphanumericRightPadded length []
        (packAlphanumericRightPadded length (unpackAlphanumericRightPadded length [] data) ++
          after) = unpackAlphanumericRightPadded length [] data := by
  have h := unpackRight_longest length data
  have hle := h.front.length_le
  rw [List.length_take] at hle
  exact (right_comes_back_iff length _ after).mpr
    ⟨by omega, (isValidString_iff _).mpr h.all⟩

theorem left_again {length : Nat} (data after : Bytes) :
    unpackAlphanumericLeftPadded length []
        (packAlphanumericLeftPadded length (unpackAlphanumericLeftPadded length [] data) ++
          after) = unpackAlphanumericLeftPadded length [] data := by
  have h := unpackLeft_longest length data
  have hle := h.back.length_le
  rw [List.length_take] at hle
  exact (left_comes_back_iff length _ after).mpr
    ⟨by omega, (isValidString_iff _).mpr h.all⟩

theorem LoginRequestPacket.read_again (b : Bytes) : read (read b).write = read b := by
  obtain ⟨after, after', after'', after''', h⟩ := LoginRequestPacket.read_write (read b)
  rw [h]
  simp only [read, unpackUsername, packUsername, unpackPassword, packPassword, unpackSession,
    packSession, right_again, left_again, unpack_packSequenceNumber (unpackNumber_lt _)]

theorem LoginAcceptedPacket.read_again (b : Bytes) : read (read b).write = read b := by
  obtain ⟨after, after', h⟩ := LoginAcceptedPacket.read_write (read b)
  rw [h]
  simp only [read, unpackSession, packSession, left_again,
    unpack_packSequenceNumber (unpackNumber_lt _)]

/-! ## Writing what was read -/

theorem right_written_iff {length : Nat} {data : Bytes} (h : length ≤ data.length) :
    packAlphanumericRightPadded length (unpackAlphanumericRightPadded length [] data) =
      data.take length ↔ CanonicalRight (data.take length) := by
  have hexact := right_exact_iff (data.take length)
  rw [List.length_take, Nat.min_eq_left h] at hexact
  rwa [unpackAlphanumericRightPadded, List.append_nil]

theorem left_written_iff {length : Nat} {data : Bytes} (h : length ≤ data.length) :
    packAlphanumericLeftPadded length (unpackAlphanumericLeftPadded length [] data) =
      data.take length ↔ CanonicalLeft (data.take length) := by
  have hexact := left_exact_iff (data.take length)
  rw [List.length_take, Nat.min_eq_left h] at hexact
  rwa [unpackAlphanumericLeftPadded, List.append_nil]

theorem number_written_iff {data : Bytes} (h : sequenceNumberLength ≤ data.length) :
    packSequenceNumber (unpackSequenceNumber data) = data.take sequenceNumberLength ↔
      CanonicalNumber (data.take sequenceNumberLength) :=
  number_exact_iff (by rw [List.length_take, Nat.min_eq_left h])

/-- One field behind the other. -/
theorem append_eq_iff {field rest b : Bytes} {length : Nat} (hfield : field.length = length)
    (hlength : length ≤ b.length) :
    field ++ rest = b ↔ field = b.take length ∧ rest = b.drop length := by
  constructor
  · rintro rfl
    rw [← hfield, List.take_left, List.drop_left]
    exact ⟨rfl, rfl⟩
  · rintro ⟨rfl, rfl⟩
    exact List.take_append_drop _ _

theorem LoginAcceptedPacket.write_read_iff {b : Bytes}
    (h : b.length = LoginAcceptedPacket.payloadSize) : (read b).write = b ↔ Canonical b := by
  have hlength : b.length = sessionLength + sequenceNumberLength := h
  have hs : (packSession (read b).session).length = sessionLength := length_packLeft _ _
  have hrest : (b.drop sessionLength).length = sequenceNumberLength := by
    rw [List.length_drop, hlength, Nat.add_sub_cancel_left]
  have hwhole : b.drop sessionLength = sequenceNumberField b := by
    rw [sequenceNumberField, ← hrest, List.take_length]
  rw [write, append_eq_iff hs (by omega)]
  constructor
  · rintro ⟨hsession, hnumber⟩
    exact ⟨(left_written_iff (by omega)).mp hsession,
      (number_written_iff (Nat.le_of_eq hrest.symm)).mp (hnumber.trans hwhole)⟩
  · intro hb
    exact ⟨(left_written_iff (by omega)).mpr hb.session,
      ((number_written_iff (Nat.le_of_eq hrest.symm)).mpr hb.nextSequenceNumber).trans
        hwhole.symm⟩

theorem LoginRequestPacket.write_read_iff {b : Bytes}
    (h : b.length = LoginRequestPacket.payloadSize) : (read b).write = b ↔ Canonical b := by
  have hlength : b.length =
      usernameLength + passwordLength + sessionLength + sequenceNumberLength := h
  have hu : (packUsername (read b).username).length = usernameLength := length_packRight _ _
  have hp : (packPassword (read b).password).length = passwordLength := length_packRight _ _
  have hs : (packSession (read b).session).length = sessionLength := length_packLeft _ _
  have hrest : (b.drop (usernameLength + passwordLength + sessionLength)).length =
      sequenceNumberLength := by
    rw [List.length_drop, hlength, Nat.add_sub_cancel_left]
  have hwhole : b.drop (usernameLength + passwordLength + sessionLength) =
      sequenceNumberField b := by
    rw [sequenceNumberField, ← hrest, List.take_length]
  have hpassword : (b.drop usernameLength).length =
      passwordLength + sessionLength + sequenceNumberLength := by
    rw [List.length_drop]
    omega
  have hsession : (b.drop (usernameLength + passwordLength)).length =
      sessionLength + sequenceNumberLength := by
    rw [List.length_drop]
    omega
  rw [write, List.append_assoc, List.append_assoc, append_eq_iff hu (by omega),
    append_eq_iff hp (by omega), append_eq_iff hs (by rw [List.drop_drop]; omega), List.drop_drop,
    List.drop_drop, hwhole]
  constructor
  · rintro ⟨huser, hpass, hsess, hnumber⟩
    exact ⟨(right_written_iff (by omega)).mp huser, (right_written_iff (by omega)).mp hpass,
      (left_written_iff (by omega)).mp hsess,
      (number_written_iff (Nat.le_of_eq hrest.symm)).mp hnumber⟩
  · intro hb
    exact ⟨(right_written_iff (by omega)).mpr hb.username,
      (right_written_iff (by omega)).mpr hb.password, (left_written_iff (by omega)).mpr hb.session,
      (number_written_iff (Nat.le_of_eq hrest.symm)).mpr hb.nextSequenceNumber⟩

/-- **Any payload.** Whatever bytes come in as a request or a response, each field is
read as the longest text or number that stands where it should; what was read is read
again once it is written; and it is written as the same bytes exactly if they were
canonical. -/
theorem login_payloads_read (request response : Bytes)
    (hrequest : request.length = LoginRequestPacket.payloadSize)
    (hresponse : response.length = LoginAcceptedPacket.payloadSize) :
    (LoginRequestPacket.Decoded request (LoginRequestPacket.read request) ∧
      LoginRequestPacket.read (LoginRequestPacket.read request).write =
        LoginRequestPacket.read request ∧
      ((LoginRequestPacket.read request).write = request ↔
        LoginRequestPacket.Canonical request)) ∧
    LoginAcceptedPacket.Decoded response (LoginAcceptedPacket.read response) ∧
      LoginAcceptedPacket.read (LoginAcceptedPacket.read response).write =
        LoginAcceptedPacket.read response ∧
      ((LoginAcceptedPacket.read response).write = response ↔
        LoginAcceptedPacket.Canonical response) :=
  ⟨⟨LoginRequestPacket.decoded request, LoginRequestPacket.read_again request,
      LoginRequestPacket.write_read_iff hrequest⟩,
    LoginAcceptedPacket.decoded response, LoginAcceptedPacket.read_again response,
    LoginAcceptedPacket.write_read_iff hresponse⟩

/-- A request and a response of spaces alone: blank numbers are read, and not written. -/
theorem login_payloads_read_blank :
    (LoginRequestPacket.read (List.replicate 46 space)).nextSequenceNumber = 0 ∧
      ¬LoginRequestPacket.Canonical (List.replicate 46 space) ∧
      ¬LoginAcceptedPacket.Canonical (List.replicate 30 space) := by
  obtain ⟨⟨-, -, hrequest⟩, -, -, hresponse⟩ :=
    login_payloads_read (List.replicate 46 space) (List.replicate 30 space) rfl rfl
  refine ⟨by decide, ?_, ?_⟩
  · rw [← hrequest]
    decide +kernel
  · rw [← hresponse]
    decide +kernel

end SoupBin
