import SoupBin.LoginPayloads

/-!
# What the character tests are asked

`std::isalnum` and `std::isdigit` take an `int`, and are defined for the values of
an `unsigned char` and for `EOF`. The decoders and the validators give them a
`char`, which is signed. Here the scans keep the arguments of these calls
beside their result.
-/

namespace SoupBin.Packing
open Records

/-- A `char` as an `int`. -/
def widened (c : UInt8) : Int := c.toInt8.toInt

def eof : Int := -1

/-- The arguments for which the tests are defined. -/
def InDomain (i : Int) : Prop := 0 ≤ i ∧ i ≤ 255 ∨ i = eof

instance (i : Int) : Decidable (InDomain i) := inferInstanceAs (Decidable (_ ∨ _))

inductive CharacterTest where
  | isalnum
  | isdigit
  deriving DecidableEq, Repr

def CharacterTest.holds : CharacterTest → UInt8 → Bool
  | .isalnum => isAlnum
  | .isdigit => isDigit

structure TestCall where
  test : CharacterTest
  argument : Int
  deriving DecidableEq, Repr

/-- `std::ranges::find_if_not`: how many bytes come before the one found. -/
def findIfNot (test : CharacterTest) : Bytes → Nat × List TestCall
  | [] => (0, [])
  | c :: rest =>
    let call : TestCall := ⟨test, widened c⟩
    if test.holds c then
      let (n, calls) := findIfNot test rest
      (n + 1, call :: calls)
    else (0, [call])

/-! ## The decoders and the validators, with their calls -/

def unpackAlphanumericRightPaddedCalls (length : Nat) (str data : Bytes) :
    Bytes × List TestCall :=
  let s := data.take length
  let (n, calls) := findIfNot .isalnum s
  (s.take n ++ str, calls)

def unpackAlphanumericLeftPaddedCalls (length : Nat) (str data : Bytes) :
    Bytes × List TestCall :=
  let s := data.take length
  let (n, calls) := findIfNot .isalnum s.reverse
  (s.drop (s.length - n) ++ str, calls)

def unpackNumericCalls (length : Nat) (data : Bytes) : Nat × List TestCall :=
  let s := data.take length
  let (n, calls) := findIfNot .isdigit s.reverse
  (digitsValue (s.drop (s.length - n)), calls)

/-- `is_valid_string` returns at the first character that fails the test. -/
def isValidStringCalls (str : Bytes) : Bool × List TestCall :=
  let (n, calls) := findIfNot .isalnum str
  (n = str.length, calls)

end SoupBin.Packing

namespace SoupBin
open Packing Records

def LoginRequestPacket.readCalls (data : Bytes) : LoginRequestPacket × List TestCall :=
  let (username, forUsername) := unpackAlphanumericRightPaddedCalls usernameLength [] data
  let (password, forPassword) :=
    unpackAlphanumericRightPaddedCalls passwordLength [] (data.drop usernameLength)
  let (session, forSession) :=
    unpackAlphanumericLeftPaddedCalls sessionLength [] (data.drop (usernameLength + passwordLength))
  let (nextSequenceNumber, forNumber) := unpackNumericCalls sequenceNumberLength
    (data.drop (usernameLength + passwordLength + sessionLength))
  (⟨username, password, session, nextSequenceNumber⟩,
    forUsername ++ forPassword ++ forSession ++ forNumber)

def LoginAcceptedPacket.readCalls (data : Bytes) : LoginAcceptedPacket × List TestCall :=
  let (session, forSession) := unpackAlphanumericLeftPaddedCalls sessionLength [] data
  let (nextSequenceNumber, forNumber) :=
    unpackNumericCalls sequenceNumberLength (data.drop sessionLength)
  (⟨session, nextSequenceNumber⟩, forSession ++ forNumber)

def validateCalls (length : Nat) (tooLong invalid : Error) (str : Bytes) :
    Option Error × List TestCall :=
  if str.length > length then (some tooLong, [])
  else
    let (valid, calls) := isValidStringCalls str
    (if valid then none else some invalid, calls)

def validateUsernameCalls : Bytes → Option Error × List TestCall :=
  validateCalls usernameLength .usernameTooLong .invalidUsername

def validatePasswordCalls : Bytes → Option Error × List TestCall :=
  validateCalls passwordLength .passwordTooLong .invalidPassword

def validateSessionCalls : Bytes → Option Error × List TestCall :=
  validateCalls sessionLength .sessionTooLong .invalidSession

/-! ## The results are those of the model -/

theorem findIfNot_fst (test : CharacterTest) (b : Bytes) :
    (findIfNot test b).1 = (b.takeWhile test.holds).length := by
  induction b with
  | nil => rfl
  | cons c rest ih =>
    by_cases h : test.holds c = true
    · simp only [findIfNot, h, if_true, List.takeWhile_cons_of_pos, List.length_cons, ih]
    · simp [findIfNot, h]

/-- What lies in front of the byte found. -/
theorem take_findIfNot (test : CharacterTest) (b : Bytes) :
    b.take (findIfNot test b).1 = b.takeWhile test.holds := by
  rw [findIfNot_fst]
  exact (List.prefix_iff_eq_take.mp (List.takeWhile_prefix _)).symm

/-- What lies behind the byte found from the end. -/
theorem drop_findIfNot (test : CharacterTest) (b : Bytes) :
    b.drop (b.length - (findIfNot test b.reverse).1) = takeRightWhile test.holds b := by
  rw [findIfNot_fst, takeRightWhile]
  have h := takeRightWhile_suffix test.holds b
  have hlength : (takeRightWhile test.holds b).length = (b.reverse.takeWhile test.holds).length :=
    List.length_reverse
  rw [← hlength]
  exact (List.suffix_iff_eq_drop.mp h).symm

theorem LoginRequestPacket.readCalls_fst (data : Bytes) : (readCalls data).1 = read data := by
  simp only [readCalls, read, unpackAlphanumericRightPaddedCalls, unpackAlphanumericLeftPaddedCalls,
    unpackNumericCalls, take_findIfNot, drop_findIfNot]
  rfl

theorem LoginAcceptedPacket.readCalls_fst (data : Bytes) : (readCalls data).1 = read data := by
  simp only [readCalls, read, unpackAlphanumericLeftPaddedCalls, unpackNumericCalls,
    drop_findIfNot]
  rfl

theorem validateCalls_fst (length : Nat) (tooLong invalid : Error) (str : Bytes) :
    (validateCalls length tooLong invalid str).1 = validate length tooLong invalid str := by
  have hvalid : (isValidStringCalls str).1 = isValidString str := by
    simp only [isValidStringCalls, findIfNot_fst]
    rw [Bool.eq_iff_iff, isValidString_iff, decide_eq_true_eq, ← List.takeWhile_eq_self_iff]
    exact ⟨fun h => (List.takeWhile_prefix _).eq_of_length h, fun h => congrArg List.length h⟩
  unfold validateCalls validate
  split
  · rfl
  · simp only [hvalid]

/-! ## The arguments -/

/-- Widened, the byte is one of the values that the tests are defined for. -/
def Widens (c : UInt8) : Prop := c < 128 ∨ c = 255

instance (c : UInt8) : Decidable (Widens c) := inferInstanceAs (Decidable (_ ∨ _))

theorem inDomain_widened_iff (c : UInt8) : InDomain (widened c) ↔ Widens c := by
  have h : ∀ b : BitVec 8, InDomain (widened ⟨b⟩) ↔ Widens ⟨b⟩ := by decide +kernel
  exact h c.toBitVec

/-- The first byte that fails the test, if any does, widens. -/
def FirstOtherWidens (test : CharacterTest) (b : Bytes) : Prop :=
  ∀ c ∈ b.find? fun c => !test.holds c, Widens c

instance (test : CharacterTest) (b : Bytes) : Decidable (FirstOtherWidens test b) :=
  inferInstanceAs (Decidable (∀ c ∈ b.find? _, _))

/-- A byte that passes a test is one of ASCII. -/
theorem CharacterTest.holds_widens {test : CharacterTest} {c : UInt8} (h : test.holds c = true) :
    Widens c := by
  have hall : ∀ b : BitVec 8, (isAlnum ⟨b⟩ = true ∨ isDigit ⟨b⟩ = true) → Widens ⟨b⟩ := by
    decide +kernel
  cases test with
  | isalnum => exact hall c.toBitVec (Or.inl h)
  | isdigit => exact hall c.toBitVec (Or.inr h)

def CallsDefined (calls : List TestCall) : Prop := ∀ call ∈ calls, InDomain call.argument

instance (calls : List TestCall) : Decidable (CallsDefined calls) :=
  inferInstanceAs (Decidable (∀ call ∈ calls, _))

theorem callsDefined_append {calls more : List TestCall} :
    CallsDefined (calls ++ more) ↔ CallsDefined calls ∧ CallsDefined more := by
  simp only [CallsDefined, List.mem_append, or_imp, forall_and]

/-- A scan leaves the domain at the byte where it ends, or not at all. -/
theorem findIfNot_defined_iff (test : CharacterTest) (b : Bytes) :
    CallsDefined (findIfNot test b).2 ↔ FirstOtherWidens test b := by
  induction b with
  | nil => simp [findIfNot, CallsDefined, FirstOtherWidens]
  | cons c rest ih =>
    by_cases h : test.holds c = true
    · have hc : InDomain (widened c) := (inDomain_widened_iff c).mpr (CharacterTest.holds_widens h)
      have hfind : (c :: rest).find? (fun c => !test.holds c) =
          rest.find? fun c => !test.holds c := by simp [h]
      rw [FirstOtherWidens, hfind, ← FirstOtherWidens, ← ih]
      simp [findIfNot, h, CallsDefined, hc]
    · simp [findIfNot, h, CallsDefined, FirstOtherWidens, inDomain_widened_iff]

/-- **The domain of the character tests.** The arguments are those for which the tests are
defined exactly if, in each field that is scanned, the first byte from that side that
fails its test, if any does, is below 128 or is 255. -/
theorem character_tests_defined_iff (request response username password session : Bytes) :
    (CallsDefined (LoginRequestPacket.readCalls request).2 ↔
      FirstOtherWidens .isalnum (LoginRequestPacket.usernameField request) ∧
      FirstOtherWidens .isalnum (LoginRequestPacket.passwordField request) ∧
      FirstOtherWidens .isalnum (LoginRequestPacket.sessionField request).reverse ∧
      FirstOtherWidens .isdigit (LoginRequestPacket.sequenceNumberField request).reverse) ∧
    (CallsDefined (LoginAcceptedPacket.readCalls response).2 ↔
      FirstOtherWidens .isalnum (LoginAcceptedPacket.sessionField response).reverse ∧
      FirstOtherWidens .isdigit (LoginAcceptedPacket.sequenceNumberField response).reverse) ∧
    (CallsDefined (validateUsernameCalls username).2 ↔
      username.length > usernameLength ∨ FirstOtherWidens .isalnum username) ∧
    (CallsDefined (validatePasswordCalls password).2 ↔
      password.length > passwordLength ∨ FirstOtherWidens .isalnum password) ∧
    (CallsDefined (validateSessionCalls session).2 ↔
      session.length > sessionLength ∨ FirstOtherWidens .isalnum session) := by
  have hvalidate (length : Nat) (tooLong invalid : Error) (str : Bytes) :
      CallsDefined (validateCalls length tooLong invalid str).2 ↔
        str.length > length ∨ FirstOtherWidens .isalnum str := by
    unfold validateCalls
    split
    · rename_i hlong
      exact iff_of_true (by simp [CallsDefined]) (Or.inl hlong)
    · rename_i hfits
      rw [or_iff_right hfits, ← findIfNot_defined_iff]
      rfl
  refine ⟨?_, ?_, hvalidate _ _ _ _, hvalidate _ _ _ _, hvalidate _ _ _ _⟩
  · simp only [LoginRequestPacket.readCalls, unpackAlphanumericRightPaddedCalls,
      unpackAlphanumericLeftPaddedCalls, unpackNumericCalls, callsDefined_append,
      findIfNot_defined_iff, and_assoc]
    rfl
  · simp only [LoginAcceptedPacket.readCalls, unpackAlphanumericLeftPaddedCalls,
      unpackNumericCalls, callsDefined_append, findIfNot_defined_iff]
    rfl

/-- A user name that begins with a letter beyond ASCII. -/
def accentedRequest : Bytes := 195 :: List.replicate 45 space

theorem accented_request_undefined :
    accentedRequest.length = LoginRequestPacket.payloadSize ∧
      ¬CallsDefined (LoginRequestPacket.readCalls accentedRequest).2 ∧
      ¬CallsDefined (validateUsernameCalls [195]).2 := by
  decide +kernel

end SoupBin
