import SoupBin.Records

/-!
# Text and number fields of the login packets

`pack_*` writes a field of fixed length, `unpack_*` reads it back: user name
and password padded on the right with spaces, session and sequence number
padded on the left.
-/

namespace SoupBin.Packing
open Records

def usernameLength : Nat := 6
def passwordLength : Nat := 10
def sessionLength : Nat := 10
def sequenceNumberLength : Nat := 20

def space : UInt8 := 32

/-- `std::isdigit` in the C locale. -/
def isDigit (c : UInt8) : Bool := 48 ≤ c && c ≤ 57

/-- `std::isalnum` in the C locale. -/
def isAlnum (c : UInt8) : Bool := isDigit c || (65 ≤ c && c ≤ 90) || (97 ≤ c && c ≤ 122)

/-- The longest suffix whose bytes all satisfy `p`. -/
def takeRightWhile (p : UInt8 → Bool) (b : Bytes) : Bytes := (b.reverse.takeWhile p).reverse

def packAlphanumericRightPadded (length : Nat) (str : Bytes) : Bytes :=
  let str := (str.take length).takeWhile isAlnum
  str ++ List.replicate (length - str.length) space

/-- The text found is put in front of what `str` holds already. -/
def unpackAlphanumericRightPadded (length : Nat) (str data : Bytes) : Bytes :=
  (data.take length).takeWhile isAlnum ++ str

def packAlphanumericLeftPadded (length : Nat) (str : Bytes) : Bytes :=
  let str := takeRightWhile isAlnum (str.take length)
  List.replicate (length - str.length) space ++ str

def unpackAlphanumericLeftPadded (length : Nat) (str data : Bytes) : Bytes :=
  takeRightWhile isAlnum (data.take length) ++ str

/-- The digit loop of `pack_numeric`: `room` bytes are left in front of `written`. -/
def packDigits : Nat → Nat → Bytes → Bytes
  | 0, _, written => written
  | room + 1, i, written =>
    let written := UInt8.ofNat (48 + i % 10) :: written
    if i / 10 = 0 then written else packDigits room (i / 10) written

def packNumeric (length i : Nat) : Bytes :=
  let digits := packDigits length i []
  List.replicate (length - digits.length) space ++ digits

/-- The value of a string of digits, modulo 2^64. -/
def digitsValue (digits : Bytes) : Nat :=
  digits.foldl (fun i c => (i * 10 + (c.toNat - 48)) % 2 ^ 64) 0

def unpackNumeric (length : Nat) (data : Bytes) : Nat :=
  digitsValue (takeRightWhile isDigit (data.take length))

def packUsername (str : Bytes) : Bytes := packAlphanumericRightPadded usernameLength str
def unpackUsername (str data : Bytes) : Bytes := unpackAlphanumericRightPadded usernameLength str data
def packPassword (str : Bytes) : Bytes := packAlphanumericRightPadded passwordLength str
def unpackPassword (str data : Bytes) : Bytes := unpackAlphanumericRightPadded passwordLength str data
def packSession (str : Bytes) : Bytes := packAlphanumericLeftPadded sessionLength str
def unpackSession (str data : Bytes) : Bytes := unpackAlphanumericLeftPadded sessionLength str data
def packSequenceNumber (i : Nat) : Bytes := packNumeric sequenceNumberLength i
def unpackSequenceNumber (data : Bytes) : Nat := unpackNumeric sequenceNumberLength data

/-! ## What a field of the right length holds -/

theorem length_packRight (length : Nat) (str : Bytes) :
    (packAlphanumericRightPadded length str).length = length := by
  have h := (List.takeWhile_prefix (p := isAlnum) (l := str.take length)).length_le
  rw [List.length_take] at h
  simp only [packAlphanumericRightPadded, List.length_append, List.length_replicate]
  omega

theorem takeRightWhile_suffix (p : UInt8 → Bool) (b : Bytes) : takeRightWhile p b <:+ b := by
  have h := List.takeWhile_prefix (p := p) (l := b.reverse)
  simpa [takeRightWhile] using List.reverse_suffix.mpr h

theorem length_packLeft (length : Nat) (str : Bytes) :
    (packAlphanumericLeftPadded length str).length = length := by
  have h := (takeRightWhile_suffix isAlnum (str.take length)).length_le
  rw [List.length_take] at h
  simp only [packAlphanumericLeftPadded, List.length_append, List.length_replicate]
  omega

/-- A run of bytes that satisfy `p`, behind a byte that does not, is found. -/
theorem takeRightWhile_append {p : UInt8 → Bool} {pad text : Bytes} (hpad : ∀ c ∈ pad, p c = false)
    (htext : ∀ c ∈ text, p c = true) : takeRightWhile p (pad ++ text) = text := by
  have hpad' : pad.reverse.takeWhile p = [] := by
    cases h : pad.reverse with
    | nil => rfl
    | cons c rest =>
      have hc : c ∈ pad := List.mem_reverse.mp (h ▸ List.mem_cons_self)
      simp [hpad c hc]
  rw [takeRightWhile, List.reverse_append, List.takeWhile_append_of_pos
    (fun c hc => htext c (List.mem_reverse.mp hc)), hpad', List.append_nil, List.reverse_reverse]

/-! ## Sequence numbers -/

/-- Reading on: `digits` behind a number `i`. -/
def readOn (i : Nat) (digits : Bytes) : Nat :=
  digits.foldl (fun i c => (i * 10 + (c.toNat - 48)) % 2 ^ 64) i

theorem digit_toNat (i : Nat) : (UInt8.ofNat (48 + i % 10)).toNat - 48 = i % 10 := by
  rw [UInt8.toNat_ofNat']
  omega

theorem isDigit_digit (i : Nat) : isDigit (UInt8.ofNat (48 + i % 10)) = true := by
  have h : ∀ d : Fin 10, isDigit (UInt8.ofNat (48 + d.val)) = true := by decide
  exact h ⟨i % 10, Nat.mod_lt _ (by decide)⟩

/-- With room for all its digits, a number below 2^64 is written in full, and
is read back before what was written behind it. -/
theorem readOn_packDigits (room : Nat) :
    ∀ (i : Nat) (written : Bytes), i < 10 ^ room → i < 2 ^ 64 →
      readOn 0 (packDigits room i written) = readOn i written := by
  induction room with
  | zero =>
    intro i written hi _
    have : i = 0 := by simpa using hi
    rw [this, packDigits]
  | succ room ih =>
    intro i written hi hlt
    have hlast : readOn (i / 10) (UInt8.ofNat (48 + i % 10) :: written) = readOn i written := by
      have hval : (i / 10 * 10 + i % 10) % 2 ^ 64 = i := by omega
      simp only [readOn, List.foldl_cons, digit_toNat, hval]
    simp only [packDigits]
    split
    · rename_i hz
      rw [← hlast, hz]
    · rw [ih _ _ (by rw [Nat.pow_succ] at hi; omega) (by omega), hlast]

theorem packDigits_digits (room : Nat) :
    ∀ (i : Nat) (written : Bytes), (∀ c ∈ written, isDigit c = true) →
      ∀ c ∈ packDigits room i written, isDigit c = true := by
  induction room with
  | zero => intro _ _ hw; exact hw
  | succ room ih =>
    intro i written hw
    have hw' : ∀ c ∈ UInt8.ofNat (48 + i % 10) :: written, isDigit c = true := by
      intro c hc
      rcases List.mem_cons.mp hc with rfl | hc
      · exact isDigit_digit i
      · exact hw c hc
    simp only [packDigits]
    split
    · exact hw'
    · exact ih _ _ hw'

theorem length_packDigits_le (room : Nat) :
    ∀ (i : Nat) (written : Bytes), (packDigits room i written).length ≤ room + written.length := by
  induction room with
  | zero => intro _ written; simp [packDigits]
  | succ room ih =>
    intro i written
    simp only [packDigits]
    split
    · simp only [List.length_cons]; omega
    · have := ih (i / 10) (UInt8.ofNat (48 + i % 10) :: written)
      simp only [List.length_cons] at this
      omega

theorem length_packNumeric (length i : Nat) : (packNumeric length i).length = length := by
  have := length_packDigits_le length i []
  simp only [packNumeric, List.length_append, List.length_replicate, List.length_nil] at this ⊢
  omega

/-- Every 64-bit number survives the trip through its field. -/
theorem unpack_packSequenceNumber {i : Nat} (hi : i < 2 ^ 64) (after : Bytes) :
    unpackSequenceNumber (packSequenceNumber i ++ after) = i := by
  have hlen : (packNumeric sequenceNumberLength i).length = sequenceNumberLength :=
    length_packNumeric _ _
  have hpad : ∀ c ∈ List.replicate
      (sequenceNumberLength - (packDigits sequenceNumberLength i []).length) space,
      isDigit c = false := by
    intro c hc
    rw [(List.mem_replicate.mp hc).2]
    decide
  have hdigits := packDigits_digits sequenceNumberLength i [] (by simp)
  have hread := readOn_packDigits sequenceNumberLength i []
    (Nat.lt_trans hi (by decide)) hi
  rw [unpackSequenceNumber, packSequenceNumber, unpackNumeric,
    List.take_append_of_le_length (Nat.le_of_eq hlen.symm),
    List.take_of_length_le (Nat.le_of_eq hlen)]
  simp only [packNumeric]
  rw [takeRightWhile_append hpad hdigits]
  exact hread

end SoupBin.Packing
