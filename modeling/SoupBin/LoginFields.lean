import SoupBin.LogicalPackets
import Mathlib.Data.List.TakeWhile

/-!
# Texts and numbers through the login packets

The validators, the packers and the unpackers are written apart from each
other. They agree: a text is valid exactly when its field gives it back, and the
number comes back whatever the texts are.
-/

namespace SoupBin.Packing

/-! ## What a field gives back -/

theorem takeRightWhile_eq_self_iff (p : UInt8 → Bool) (b : Bytes) :
    takeRightWhile p b = b ↔ ∀ c ∈ b, p c = true := by
  have h : takeRightWhile p b = b ↔ b.reverse.takeWhile p = b.reverse := by
    rw [takeRightWhile]
    exact List.reverse_eq_iff
  rw [h, List.takeWhile_eq_self_iff]
  simp only [List.mem_reverse]

/-- Reading finds what packing left of the text, and stops at the padding. -/
theorem unpack_packRight (length : Nat) (str after : Bytes) :
    unpackAlphanumericRightPadded length [] (packAlphanumericRightPadded length str ++ after) =
      (str.take length).takeWhile isAlnum := by
  have hlen := length_packRight length str
  have htext : ∀ c ∈ (str.take length).takeWhile isAlnum, isAlnum c = true :=
    List.all_eq_true.mp List.all_takeWhile
  have hpad : ∀ k, (List.replicate k space).takeWhile isAlnum = [] := by
    intro k
    cases k with
    | zero => rfl
    | succ k => rfl
  rw [unpackAlphanumericRightPadded, List.take_append_of_le_length (Nat.le_of_eq hlen.symm),
    List.take_of_length_le (Nat.le_of_eq hlen), List.append_nil]
  simp only [packAlphanumericRightPadded]
  rw [List.takeWhile_append_of_pos htext, hpad, List.append_nil]

theorem unpack_packLeft (length : Nat) (str after : Bytes) :
    unpackAlphanumericLeftPadded length [] (packAlphanumericLeftPadded length str ++ after) =
      takeRightWhile isAlnum (str.take length) := by
  have hlen := length_packLeft length str
  have htext : ∀ c ∈ takeRightWhile isAlnum (str.take length), isAlnum c = true := by
    intro c hc
    exact List.all_eq_true.mp List.all_takeWhile c (List.mem_reverse.mp hc)
  have hpad : ∀ c ∈ List.replicate
      (length - (takeRightWhile isAlnum (str.take length)).length) space, isAlnum c = false := by
    intro c hc
    rw [(List.mem_replicate.mp hc).2]
    decide
  rw [unpackAlphanumericLeftPadded, List.take_append_of_le_length (Nat.le_of_eq hlen.symm),
    List.take_of_length_le (Nat.le_of_eq hlen), List.append_nil]
  simp only [packAlphanumericLeftPadded]
  exact takeRightWhile_append hpad htext

end SoupBin.Packing

namespace SoupBin
open Packing

/-! ## Valid texts are those that come back -/

theorem isValidString_iff (str : Bytes) :
    isValidString str = true ↔ ∀ c ∈ str, isAlnum c = true := List.all_eq_true

theorem validate_eq_none_iff (length : Nat) (tooLong invalid : Error) (str : Bytes) :
    validate length tooLong invalid str = none ↔
      str.length ≤ length ∧ isValidString str = true := by
  rw [validate]
  by_cases hlen : str.length > length
  · simp only [hlen, if_true, reduceCtorEq, false_iff, not_and]
    omega
  · by_cases hvalid : isValidString str = true
    · simp only [hlen, hvalid, if_true, if_false, and_true, true_iff]
      omega
    · simp only [hlen, hvalid, if_false, reduceCtorEq, and_false]

/-- What does not fit is cut off, and what is not alphanumeric is not read. -/
theorem comes_back_iff {length : Nat} {str kept : Bytes}
    (hle : kept.length ≤ (str.take length).length)
    (hself : str.length ≤ length → (kept = str ↔ ∀ c ∈ str, isAlnum c = true)) :
    kept = str ↔ str.length ≤ length ∧ isValidString str = true := by
  rw [List.length_take] at hle
  by_cases hlen : str.length ≤ length
  · rw [hself hlen, isValidString_iff]
    exact ⟨fun h => ⟨hlen, h⟩, fun h => h.2⟩
  · constructor
    · intro h
      have := congrArg List.length h
      omega
    · intro h
      exact absurd h.1 hlen

theorem right_comes_back_iff (length : Nat) (str after : Bytes) :
    unpackAlphanumericRightPadded length [] (packAlphanumericRightPadded length str ++ after) =
      str ↔ str.length ≤ length ∧ isValidString str = true := by
  rw [unpack_packRight]
  refine comes_back_iff (List.takeWhile_prefix isAlnum).length_le ?_
  intro hlen
  rw [List.take_of_length_le hlen]
  exact List.takeWhile_eq_self_iff

theorem left_comes_back_iff (length : Nat) (str after : Bytes) :
    unpackAlphanumericLeftPadded length [] (packAlphanumericLeftPadded length str ++ after) =
      str ↔ str.length ≤ length ∧ isValidString str = true := by
  rw [unpack_packLeft]
  refine comes_back_iff (takeRightWhile_suffix isAlnum _).length_le ?_
  intro hlen
  rw [List.take_of_length_le hlen]
  exact takeRightWhile_eq_self_iff isAlnum str

theorem validateUsername_iff (str after : Bytes) :
    validateUsername str = none ↔ unpackUsername [] (packUsername str ++ after) = str :=
  (validate_eq_none_iff ..).trans (right_comes_back_iff usernameLength str after).symm

theorem validatePassword_iff (str after : Bytes) :
    validatePassword str = none ↔ unpackPassword [] (packPassword str ++ after) = str :=
  (validate_eq_none_iff ..).trans (right_comes_back_iff passwordLength str after).symm

theorem validateSession_iff (str after : Bytes) :
    validateSession str = none ↔ unpackSession [] (packSession str ++ after) = str :=
  (validate_eq_none_iff ..).trans (left_comes_back_iff sessionLength str after).symm

/-! ## Whole payloads -/

theorem drop_front {front after : Bytes} {length : Nat} (h : front.length = length) :
    (front ++ after).drop length = after := by
  rw [← h]
  exact List.drop_left

/-- Each field of a request is read from where it was written. -/
theorem LoginRequestPacket.read_write (packet : LoginRequestPacket) :
    ∃ after after' after'' after''',
      read packet.write =
        { username := unpackUsername [] (packUsername packet.username ++ after)
          password := unpackPassword [] (packPassword packet.password ++ after')
          session := unpackSession [] (packSession packet.session ++ after'')
          nextSequenceNumber :=
            unpackSequenceNumber (packSequenceNumber packet.nextSequenceNumber ++ after''') } := by
  have hu : (packUsername packet.username).length = usernameLength := length_packRight _ _
  have hp : (packPassword packet.password).length = passwordLength := length_packRight _ _
  have hs : (packSession packet.session).length = sessionLength := length_packLeft _ _
  have hup : (packUsername packet.username ++ packPassword packet.password).length =
      usernameLength + passwordLength := by rw [List.length_append, hu, hp]
  have hups : (packUsername packet.username ++ packPassword packet.password ++
      packSession packet.session).length = usernameLength + passwordLength + sessionLength := by
    rw [List.length_append, hup, hs]
  have hwrite : packet.write = packUsername packet.username ++ (packPassword packet.password ++
      (packSession packet.session ++ packSequenceNumber packet.nextSequenceNumber)) := by
    simp only [write, List.append_assoc]
  refine ⟨packPassword packet.password ++ (packSession packet.session ++
    packSequenceNumber packet.nextSequenceNumber), packSession packet.session ++
    packSequenceNumber packet.nextSequenceNumber, packSequenceNumber packet.nextSequenceNumber,
    [], ?_⟩
  have h₁ : packet.write.drop usernameLength = packPassword packet.password ++
      (packSession packet.session ++ packSequenceNumber packet.nextSequenceNumber) := by
    rw [hwrite, drop_front hu]
  have h₂ : packet.write.drop (usernameLength + passwordLength) = packSession packet.session ++
      packSequenceNumber packet.nextSequenceNumber := by
    rw [hwrite, ← List.append_assoc, drop_front hup]
  have h₃ : packet.write.drop (usernameLength + passwordLength + sessionLength) =
      packSequenceNumber packet.nextSequenceNumber ++ [] := by
    rw [write, drop_front hups, List.append_nil]
  rw [read, h₁, h₂, h₃, hwrite]

theorem LoginAcceptedPacket.read_write (packet : LoginAcceptedPacket) :
    ∃ after after',
      read packet.write =
        { session := unpackSession [] (packSession packet.session ++ after)
          nextSequenceNumber :=
            unpackSequenceNumber (packSequenceNumber packet.nextSequenceNumber ++ after') } := by
  have hs : (packSession packet.session).length = sessionLength := length_packLeft _ _
  refine ⟨packSequenceNumber packet.nextSequenceNumber, [], ?_⟩
  rw [read, write, drop_front hs, List.append_nil]

/-- The three checks pass exactly when the texts of a request survive the trip,
and the check of the session exactly when that of a response does. Numbers of
64 bits always survive. -/
theorem login_texts_survive_iff_valid (u p s : Bytes) (n : UInt64) :
    let request := LoginRequestPacket.write ⟨u, p, s, n.toNat⟩
    let response := LoginAcceptedPacket.write ⟨s, n.toNat⟩
    (request.length = 46 ∧
      ((validateUsername u = none ∧ validatePassword p = none ∧ validateSession s = none) ↔
        ((LoginRequestPacket.read request).username = u ∧
          (LoginRequestPacket.read request).password = p ∧
          (LoginRequestPacket.read request).session = s)) ∧
      (LoginRequestPacket.read request).nextSequenceNumber = n.toNat) ∧
    response.length = 30 ∧
      (validateSession s = none ↔ (LoginAcceptedPacket.read response).session = s) ∧
      (LoginAcceptedPacket.read response).nextSequenceNumber = n.toNat := by
  intro request response
  have hn : n.toNat < 2 ^ 64 := n.toNat_lt
  obtain ⟨after, after', after'', after''', hrequest⟩ :=
    LoginRequestPacket.read_write ⟨u, p, s, n.toNat⟩
  obtain ⟨rest, rest', hresponse⟩ := LoginAcceptedPacket.read_write ⟨s, n.toNat⟩
  refine ⟨⟨LoginRequestPacket.length_write _, ?_, ?_⟩, LoginAcceptedPacket.length_write _, ?_, ?_⟩
  · rw [validateUsername_iff u after, validatePassword_iff p after', validateSession_iff s after'',
      hrequest]
  · rw [hrequest]
    exact unpack_packSequenceNumber hn after'''
  · rw [validateSession_iff s rest, hresponse]
  · rw [hresponse]
    exact unpack_packSequenceNumber hn rest'

end SoupBin
