import SoupBin.Packing
import Mathlib.Data.List.Induction

/-!
# Decimal numbers

What a string of digits stands for, and the shortest string that stands for a
number. `pack_numeric` writes that one.
-/

namespace SoupBin.Packing
open Records

/-- The number that a string of digits stands for. -/
def decimal (digits : Bytes) : Nat := digits.foldl (fun i c => i * 10 + (c.toNat - 48)) 0

@[simp] theorem decimal_nil : decimal [] = 0 := rfl

@[simp] theorem decimal_concat (digits : Bytes) (c : UInt8) :
    decimal (digits ++ [c]) = decimal digits * 10 + (c.toNat - 48) := by
  simp [decimal, List.foldl_append]

/-- Reading wraps around where the number does not fit. -/
theorem digitsValue_eq (digits : Bytes) : digitsValue digits = decimal digits % 2 ^ 64 := by
  induction digits using List.reverseRecOn with
  | nil => rfl
  | append_singleton digits c ih =>
    have hstep : digitsValue (digits ++ [c]) =
        (digitsValue digits * 10 + (c.toNat - 48)) % 2 ^ 64 := by
      simp [digitsValue, List.foldl_append]
    rw [hstep, ih, decimal_concat]
    omega

theorem isDigit_iff (c : UInt8) : isDigit c = true ↔ 48 ≤ c.toNat ∧ c.toNat ≤ 57 := by
  simp only [isDigit, Bool.and_eq_true, decide_eq_true_eq, UInt8.le_iff_toNat_le]
  rfl

/-- A string of digits. -/
def Digits (digits : Bytes) : Prop := ∀ c ∈ digits, isDigit c = true

theorem digits_concat {digits : Bytes} {c : UInt8} :
    Digits (digits ++ [c]) ↔ Digits digits ∧ isDigit c = true := by
  simp only [Digits, List.mem_append, List.mem_singleton]
  constructor
  · exact fun h => ⟨fun d hd => h d (Or.inl hd), h c (Or.inr rfl)⟩
  · rintro ⟨h, hc⟩ d (hd | rfl)
    · exact h d hd
    · exact hc

theorem decimal_lt {digits : Bytes} (h : Digits digits) : decimal digits < 10 ^ digits.length := by
  induction digits using List.reverseRecOn with
  | nil => exact Nat.one_pos
  | append_singleton digits c ih =>
    obtain ⟨h, hc⟩ := digits_concat.mp h
    have hlt := ih h
    obtain ⟨-, hc⟩ := (isDigit_iff c).mp hc
    rw [decimal_concat, List.length_append, List.length_singleton, Nat.pow_succ]
    omega

/-- Strings of digits of the same length and value are the same. -/
theorem decimal_inj {digits other : Bytes} (h : Digits digits) (hother : Digits other)
    (hlength : digits.length = other.length) (hvalue : decimal digits = decimal other) :
    digits = other := by
  induction digits using List.reverseRecOn generalizing other with
  | nil => exact (List.eq_nil_of_length_eq_zero hlength.symm).symm
  | append_singleton digits c ih =>
    rcases List.eq_nil_or_concat' other with rfl | ⟨other, d, rfl⟩
    · simp at hlength
    · obtain ⟨h, hc⟩ := digits_concat.mp h
      obtain ⟨hother, hd⟩ := digits_concat.mp hother
      obtain ⟨hc₁, hc₂⟩ := (isDigit_iff c).mp hc
      obtain ⟨hd₁, hd₂⟩ := (isDigit_iff d).mp hd
      simp only [List.length_append, List.length_singleton, Nat.add_right_cancel_iff] at hlength
      rw [decimal_concat, decimal_concat] at hvalue
      rw [ih h hother hlength (by omega), UInt8.toNat_inj.mp (by omega : c.toNat = d.toNat)]

/-- The shortest decimal form of a number: no other string of digits that stands for it
is shorter, and it is not blank. -/
structure ShortestDecimal (n : Nat) (digits : Bytes) : Prop where
  isDigits : Digits digits
  nonempty : digits ≠ []
  value : decimal digits = n
  shortest : ∀ other, Digits other → other ≠ [] → decimal other = n →
    digits.length ≤ other.length

theorem ShortestDecimal.unique {n : Nat} {digits other : Bytes} (h : ShortestDecimal n digits)
    (h' : ShortestDecimal n other) : digits = other := by
  apply decimal_inj h.isDigits h'.isDigits
  · have hle := h.shortest other h'.isDigits h'.nonempty h'.value
    have hge := h'.shortest digits h.isDigits h.nonempty h.value
    omega
  · rw [h.value, h'.value]

/-! ## What `pack_numeric` writes -/

theorem packDigits_append (room : Nat) : ∀ (i : Nat) (written : Bytes),
    packDigits room i written = packDigits room i [] ++ written := by
  induction room with
  | zero => exact fun _ _ => rfl
  | succ room ih =>
    intro i written
    simp only [packDigits]
    split
    · rfl
    · rw [ih (i / 10) [_], ih (i / 10) (_ :: written), List.append_assoc]
      rfl

/-- The last digit is written first. -/
theorem packDigits_concat (room i : Nat) :
    packDigits (room + 1) i [] =
      (if i / 10 = 0 then [] else packDigits room (i / 10) []) ++ [UInt8.ofNat (48 + i % 10)] := by
  simp only [packDigits]
  split
  · rfl
  · exact packDigits_append room (i / 10) _

theorem decimal_packDigits (room : Nat) :
    ∀ i, i < 10 ^ room → decimal (packDigits room i []) = i := by
  induction room with
  | zero =>
    intro i hi
    have : i = 0 := by simpa using hi
    rw [this]
    rfl
  | succ room ih =>
    intro i hi
    rw [packDigits_concat, decimal_concat, digit_toNat]
    split
    · rw [decimal_nil]
      omega
    · rw [ih (i / 10) (by rw [Nat.pow_succ] at hi; omega)]
      omega

theorem length_packDigits_shortest (room : Nat) :
    ∀ i k, 0 < k → i < 10 ^ k → (packDigits room i []).length ≤ k := by
  induction room with
  | zero => exact fun _ _ _ _ => Nat.zero_le _
  | succ room ih =>
    intro i k hk hi
    rw [packDigits_concat, List.length_append, List.length_singleton]
    obtain ⟨k, rfl⟩ := Nat.exists_eq_succ_of_ne_zero (Nat.pos_iff_ne_zero.mp hk)
    split
    · rw [List.length_nil]
      omega
    · rename_i hmore
      rw [Nat.pow_succ] at hi
      have hrest : i / 10 < 10 ^ k := by omega
      have hpos : 0 < k := by
        rcases Nat.eq_zero_or_pos k with rfl | hpos
        · rw [Nat.pow_zero] at hrest
          omega
        · exact hpos
      have := ih (i / 10) k hpos hrest
      omega

/-- With room for all its digits, a number is written in its shortest form. -/
theorem packDigits_shortest {room i : Nat} (hroom : 0 < room) (hi : i < 10 ^ room) :
    ShortestDecimal i (packDigits room i []) := by
  refine ⟨packDigits_digits room i [] (by simp), ?_, decimal_packDigits room i hi, ?_⟩
  · obtain ⟨room, rfl⟩ := Nat.exists_eq_succ_of_ne_zero (Nat.pos_iff_ne_zero.mp hroom)
    rw [packDigits_concat]
    simp
  · intro other hdigits hother hvalue
    apply length_packDigits_shortest room i other.length (List.length_pos_iff.mpr hother)
    rw [← hvalue]
    exact decimal_lt hdigits

end SoupBin.Packing
