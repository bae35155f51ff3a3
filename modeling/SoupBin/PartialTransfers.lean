import SoupBin.FileStoreCalls
import SoupBin.Traces
import Mathlib.Algebra.Ring.Nat

/-!
# Short transfers

`read_partial_handling` and `write_partial_handling` over the buffer that they
are given: where each call starts, how many bytes it asks for and what it
returns. The loops of the store, which keep the bytes themselves, are these.
-/

namespace SoupBin.Detail
open FileStore (RwResult ReadStatus WriteStatus Os Fd whileInterrupted)

/-- `std::span`: `size` bytes of the buffer, from the byte `data` on. -/
structure Span where
  data : Nat
  size : Nat
  deriving DecidableEq, Repr

/-- `std::span::last`. -/
def Span.last (n : Nat) (s : Span) : Span := ⟨s.data + (s.size - n), n⟩

/-- A loop that has returned, or is about to look at what is left. -/
inductive Progress (Status σ : Type) where
  | returned (result : RwResult Status) (w : σ)
  | going (s : Span) (w : σ)

variable {Status σ : Type}

/-- The loop that both functions are. A call moves some of the bytes in front of it
and returns their number, or -1; `atZero` is what 0 means, if it means anything. -/
def partialHandling (success failure : Status) (atZero : Option Status)
    (call : Span → σ → Int × σ) (nbyte : Nat) : Nat → Span → σ → Progress Status σ
  | 0, s, w => .going s w
  | fuel + 1, s, w =>
    if s.size = 0 then .returned ⟨success, nbyte⟩ w
    else
      let (n, w) := call s w
      if n = -1 then .returned ⟨failure, nbyte - s.size⟩ w
      else
        match if n = 0 then atZero else none with
        | some status => .returned ⟨status, nbyte - s.size⟩ w
        | none =>
          partialHandling success failure atZero call nbyte fuel (s.last (s.size - n.toNat)) w

def readPartialHandling (read : Span → σ → Int × σ) (nbyte fuel : Nat) (w : σ) :
    Progress ReadStatus σ :=
  partialHandling .success .failure (some .endOfFile) read nbyte fuel ⟨0, nbyte⟩ w

def writePartialHandling (write : Span → σ → Int × σ) (nbyte fuel : Nat) (w : σ) :
    Progress WriteStatus σ :=
  partialHandling .success .failure none write nbyte fuel ⟨0, nbyte⟩ w

/-! ## What the calls transfer -/

/-- What the system promises of `read` and `write`. -/
def Conforms (call : Span → σ → Int × σ) : Prop :=
  ∀ s w, (call s w).1 = -1 ∨ 0 ≤ (call s w).1 ∧ (call s w).1 ≤ s.size

/-- A call that has been made, and its result. -/
structure Transfer where
  span : Span
  result : Int
  deriving DecidableEq, Repr

namespace Transfer

def moved (c : Transfer) : Nat := c.result.toNat

/-- The bytes of the buffer that have been moved. -/
def bytes (c : Transfer) : List Nat := List.range' c.span.data c.moved

end Transfer

/-- The same calls, and a list of them. -/
def recorded (call : Span → σ → Int × σ) (s : Span) (w : σ × List Transfer) :
    Int × (σ × List Transfer) :=
  ((call s w.1).1, (call s w.1).2, w.2 ++ [⟨s, (call s w.1).1⟩])

def total (calls : List Transfer) : Nat := (calls.map Transfer.moved).sum

@[simp] theorem total_nil : total [] = 0 := rfl

@[simp] theorem total_append (calls more : List Transfer) :
    total (calls ++ more) = total calls + total more := by simp [total]

@[simp] theorem total_one (c : Transfer) : total [c] = c.moved := by simp [total]

/-- Every call starts at the first byte that has not been moved, and is offered all
the rest. No byte is left out or moved twice. -/
structure InOrder (nbyte : Nat) (calls : List Transfer) : Prop where
  continues : ∀ before c after, calls = before ++ c :: after →
    c.span = ⟨total before, nbyte - total before⟩
  chunks : calls.flatMap Transfer.bytes = List.range (total calls)
  within : total calls ≤ nbyte

theorem inOrder_nil (nbyte : Nat) : InOrder nbyte [] := by
  refine ⟨?_, rfl, Nat.zero_le _⟩
  intro before c after h
  simp at h

theorem InOrder.next {nbyte : Nat} {calls : List Transfer} (h : InOrder nbyte calls) {c : Transfer}
    (hspan : c.span = ⟨total calls, nbyte - total calls⟩) (hmoved : c.moved ≤ c.span.size) :
    InOrder nbyte (calls ++ [c]) := by
  have hwithin := h.within
  have hsize : c.moved ≤ nbyte - total calls := by simpa [hspan] using hmoved
  constructor
  · intro before d after heq
    rcases Traces.split_concat heq with ⟨rfl, rfl, -⟩ | ⟨rest, -, hcalls⟩
    · exact hspan
    · exact h.continues before d rest hcalls
  · rw [List.flatMap_append, h.chunks, total_append, total_one, List.range_add]
    simp [Transfer.bytes, hspan, List.range'_eq_map_range]
  · rw [total_append, total_one]
    omega

/-- The loop goes on after the call. -/
def Transfer.Continues (atZero : Option Status) (c : Transfer) : Prop :=
  0 ≤ c.result ∧ (c.result = 0 → atZero = none)

/-- The loop is about to look at `s`. -/
structure Going (atZero : Option Status) (nbyte : Nat) (s : Span) (calls : List Transfer) :
    Prop where
  inOrder : InOrder nbyte calls
  span : s = ⟨total calls, nbyte - total calls⟩
  continues : ∀ c ∈ calls, c.Continues atZero

/-- The call after which the loop has returned `status`. -/
structure Stopped (failure : Status) (atZero : Option Status) (nbyte : Nat) (status : Status)
    (before : List Transfer) (c : Transfer) : Prop where
  left : total before < nbyte
  moved : c.moved = 0
  continues : ∀ d ∈ before, d.Continues atZero
  status : c.result = -1 ∧ status = failure ∨ c.result = 0 ∧ atZero = some status

structure Returned (success failure : Status) (atZero : Option Status) (nbyte : Nat)
    (result : RwResult Status) (calls : List Transfer) : Prop where
  inOrder : InOrder nbyte calls
  moved : result.nbyte = total calls
  status : (result.status = success ∧ total calls = nbyte ∧ ∀ c ∈ calls, c.Continues atZero) ∨
    ∃ before c, calls = before ++ [c] ∧ Stopped failure atZero nbyte result.status before c

/-- Whatever the loop is up to, the calls that it has made are in order. -/
def Accounted (success failure : Status) (atZero : Option Status) (nbyte : Nat) :
    Progress Status (σ × List Transfer) → Prop
  | .going s w => Going atZero nbyte s w.2
  | .returned result w => Returned success failure atZero nbyte result w.2

section
variable {success failure : Status} {atZero : Option Status} {call : Span → σ → Int × σ}
  {nbyte : Nat}

theorem accounted (hcall : Conforms call) (fuel : Nat) :
    ∀ (s : Span) (w : σ) (calls : List Transfer), Going atZero nbyte s calls →
      Accounted success failure atZero nbyte
        (partialHandling success failure atZero (recorded call) nbyte fuel s (w, calls)) := by
  induction fuel with
  | zero => exact fun _ _ _ h => h
  | succ fuel ih =>
    intro s w calls h
    have hspan := h.span
    have hwithin := h.inOrder.within
    have hsize : s.size = nbyte - total calls := by rw [hspan]
    have hleft : nbyte - s.size = total calls := by omega
    by_cases hz : s.size = 0
    · have hall : total calls = nbyte := by omega
      simp only [partialHandling, hz, ↓reduceIte]
      exact ⟨h.inOrder, hall.symm, Or.inl ⟨rfl, hall, h.continues⟩⟩
    · obtain ⟨n, hn⟩ : ∃ n, (call s w).1 = n := ⟨_, rfl⟩
      have hmade : InOrder nbyte (calls ++ [⟨s, n⟩]) := by
        apply h.inOrder.next hspan
        rcases hcall s w with hfail | ⟨_, hle⟩
        · simp [Transfer.moved, ← hn, hfail]
        · simp only [Transfer.moved, ← hn]
          omega
      -- a call after which the loop returns has moved nothing
      have hstopped (status : Status) (hmoved : n.toNat = 0)
          (hstatus : n = -1 ∧ status = failure ∨ n = 0 ∧ atZero = some status) :
          Returned success failure atZero nbyte ⟨status, nbyte - s.size⟩
            (calls ++ [⟨s, n⟩]) := by
        refine ⟨hmade, ?_, Or.inr ⟨calls, ⟨s, n⟩, rfl, by omega, hmoved, h.continues, hstatus⟩⟩
        rw [total_append, total_one, hleft, Transfer.moved, hmoved]
        rfl
      simp only [partialHandling, hz, ↓reduceIte, recorded, hn]
      by_cases hfail : n = -1
      · rw [if_pos hfail]
        exact hstopped failure (by omega) (Or.inl ⟨hfail, rfl⟩)
      · rw [if_neg hfail]
        cases hzero : if n = 0 then atZero else none with
        | some status =>
          by_cases h0 : n = 0
          · rw [if_pos h0] at hzero
            exact hstopped status (by omega) (Or.inr ⟨h0, hzero⟩)
          · rw [if_neg h0] at hzero
            cases hzero
        | none =>
          have hresult : 0 ≤ n ∧ n ≤ s.size := by
            rcases hcall s w with hbad | hgood
            · exact absurd (hn.symm.trans hbad) hfail
            · exact hn ▸ hgood
          apply ih
          refine ⟨hmade, ?_, ?_⟩
          · have hdata : s.data = total calls := by rw [hspan]
            rw [total_append, total_one, Span.last, Transfer.moved]
            dsimp only
            congr 1 <;> omega
          · intro c hc
            rcases List.mem_append.mp hc with hc | hc
            · exact h.continues c hc
            · rw [List.mem_singleton] at hc
              rw [hc]
              refine ⟨hresult.1, fun h0 => ?_⟩
              rwa [if_pos h0] at hzero

/-! ## When the loops return -/

/-- One loop after the other. -/
theorem partialHandling_add (fuel more : Nat) (s : Span) (w : σ) :
    partialHandling success failure atZero call nbyte (fuel + more) s w =
      match partialHandling success failure atZero call nbyte fuel s w with
      | .going s w => partialHandling success failure atZero call nbyte more s w
      | .returned result w => .returned result w := by
  induction fuel generalizing s w with
  | zero => rw [Nat.zero_add]; rfl
  | succ fuel ih =>
    rw [Nat.succ_add]
    simp only [partialHandling]
    split
    · rfl
    · split
      · rfl
      · split
        · rfl
        · exact ih _ _

def Progress.isReturned : Progress Status σ → Bool
  | .returned _ _ => true
  | .going _ _ => false

theorem isReturned_add {fuel : Nat} {s : Span} {w : σ}
    (h : (partialHandling success failure atZero call nbyte fuel s w).isReturned = true)
    (more : Nat) :
    (partialHandling success failure atZero call nbyte (fuel + more) s w).isReturned = true := by
  rw [partialHandling_add]
  split
  · rename_i hgoing
    rw [hgoing] at h
    cases h
  · rfl

/-- The first `k` calls at `s` return 0. -/
def zeros (call : Span → σ → Int × σ) (s : Span) : Nat → σ → Prop
  | 0, _ => True
  | k + 1, w => (call s w).1 = 0 ∧ zeros call s k (call s w).2

theorem last_size (s : Span) : s.last s.size = s := by
  rw [Span.last, Nat.sub_self]
  rfl

/-- Sooner or later the loop returns, or gets on. -/
theorem gets_on (hcall : Conforms call) {s : Span} (hleft : 0 < s.size) {k : Nat} :
    ∀ w : σ, ¬zeros call s k w → ∃ fuel,
      (partialHandling success failure atZero call nbyte fuel s w).isReturned = true ∨
        ∃ s' w', partialHandling success failure atZero call nbyte fuel s w = .going s' w' ∧
          s'.size < s.size := by
  induction k with
  | zero => exact fun _ h => absurd trivial h
  | succ k ih =>
    intro w h
    have hz : ¬s.size = 0 := by omega
    by_cases hzero : (call s w).1 = 0
    · obtain ⟨fuel, hfuel⟩ := ih _ fun hk => h ⟨hzero, hk⟩
      cases atZero with
      | some status =>
        refine ⟨1, Or.inl ?_⟩
        simp [partialHandling, hz, hzero, Progress.isReturned]
      | none =>
        refine ⟨fuel + 1, ?_⟩
        have hsame : partialHandling success failure none call nbyte (fuel + 1) s w =
            partialHandling success failure none call nbyte fuel s (call s w).2 := by
          simp [partialHandling, hz, hzero, last_size]
        rw [hsame]
        exact hfuel
    · refine ⟨1, ?_⟩
      rcases hcall s w with hfail | ⟨hnonneg, hle⟩
      · left
        simp [partialHandling, hz, hfail, Progress.isReturned]
      · right
        have hgood : ¬(call s w).1 = -1 := by omega
        refine ⟨_, (call s w).2, by simp [partialHandling, hz, hgood, hzero]; rfl, ?_⟩
        simp only [Span.last]
        omega

/-- The loop returns if it never comes to a place where 0 is returned for ever. -/
theorem returns (hcall : Conforms call) (n : Nat) : ∀ (s : Span) (w : σ), s.size = n →
    (∀ fuel s' w', partialHandling success failure atZero call nbyte fuel s w = .going s' w' →
      0 < s'.size → ∃ k, ¬zeros call s' k w') →
    ∃ fuel, (partialHandling success failure atZero call nbyte fuel s w).isReturned = true := by
  induction n using Nat.strongRecOn with
  | ind n ih =>
    intro s w hn hlive
    rcases Nat.eq_zero_or_pos s.size with hz | hleft
    · exact ⟨1, by simp [partialHandling, hz, Progress.isReturned]⟩
    · obtain ⟨k, hk⟩ := hlive 0 s w rfl hleft
      obtain ⟨fuel, hreturned | ⟨s', w', hgoing, hless⟩⟩ : ∃ fuel,
          (partialHandling success failure atZero call nbyte fuel s w).isReturned = true ∨
            ∃ s' w', partialHandling success failure atZero call nbyte fuel s w = .going s' w' ∧
              s'.size < s.size := gets_on hcall hleft w hk
      · exact ⟨fuel, hreturned⟩
      · have hadd (more : Nat) :
            partialHandling success failure atZero call nbyte (fuel + more) s w =
              partialHandling success failure atZero call nbyte more s' w' := by
          rw [partialHandling_add, hgoing]
        obtain ⟨more, hmore⟩ := ih s'.size (hn ▸ hless) s' w' rfl fun m s'' w'' hm =>
          hlive (fuel + m) s'' w'' (by rw [hadd, hm])
        exact ⟨fuel + more, by rw [hadd, hmore]⟩

/-- A loop that 0 does not end goes on for ever where 0 is returned for ever. -/
theorem stalls {s : Span} (hleft : 0 < s.size) (fuel : Nat) :
    ∀ w : σ, (∀ k, zeros call s k w) → ∃ w',
      partialHandling success failure none call nbyte fuel s w = .going s w' := by
  induction fuel with
  | zero => exact fun w _ => ⟨w, rfl⟩
  | succ fuel ih =>
    intro w h
    have hzero : (call s w).1 = 0 := (h 1).1
    obtain ⟨w', hw'⟩ := ih (call s w).2 fun k => (h (k + 1)).2
    refine ⟨w', ?_⟩
    have hz : ¬s.size = 0 := by omega
    simpa [partialHandling, hz, hzero, last_size] using hw'

/-- A read that returns 0 ends the loop, and every other gets on. -/
theorem read_returns (hcall : Conforms call) {status : Status} (fuel : Nat) :
    ∀ (s : Span) (w : σ), s.size < fuel →
      (partialHandling success failure (some status) call nbyte fuel s w).isReturned = true := by
  induction fuel with
  | zero => exact fun _ _ h => absurd h (Nat.not_lt_zero _)
  | succ fuel ih =>
    intro s w hlt
    by_cases hz : s.size = 0
    · simp [partialHandling, hz, Progress.isReturned]
    · rcases hcall s w with hfail | ⟨hnonneg, hle⟩
      · simp [partialHandling, hz, hfail, Progress.isReturned]
      · by_cases hzero : (call s w).1 = 0
        · simp [partialHandling, hz, hzero, Progress.isReturned]
        · have hgood : ¬(call s w).1 = -1 := by omega
          simp only [partialHandling, hz, hgood, hzero, ↓reduceIte]
          apply ih
          simp only [Span.last]
          omega

end

/-! ## What is returned -/

/-- The last call returned `n`, and all before it something `ok`. -/
def EndsWith (n : Int) (ok : Int → Prop) (calls : List Transfer) : Prop :=
  ∃ before c, calls = before ++ [c] ∧ c.result = n ∧ ∀ d ∈ before, ok d.result

section
variable {success failure : Status} {atZero : Option Status} {nbyte : Nat}
  {result : RwResult Status} {calls : List Transfer}

theorem Returned.success_iff (h : Returned success failure atZero nbyte result calls)
    (hfailure : success ≠ failure) (hzero : atZero ≠ some success) :
    result.status = success ↔ total calls = nbyte := by
  rcases h.status with ⟨hstatus, hall, -⟩ | ⟨before, c, rfl, hstopped⟩
  · simp [hstatus, hall]
  · have hleft := hstopped.left
    have hmoved := hstopped.moved
    constructor
    · intro hs
      rcases hstopped.status with ⟨-, hstatus⟩ | ⟨-, hstatus⟩
      · exact absurd (hs.symm.trans hstatus) hfailure
      · exact absurd (hs ▸ hstatus) hzero
    · intro hall
      rw [total_append, total_one] at hall
      omega

theorem Returned.failure_iff (h : Returned success failure atZero nbyte result calls)
    (hfailure : success ≠ failure) (hzero : atZero ≠ some failure) {ok : Int → Prop}
    (hok : ∀ c : Transfer, c.Continues atZero ↔ ok c.result) :
    result.status = failure ↔ EndsWith (-1) ok calls := by
  rcases h.status with ⟨hstatus, -, hcontinues⟩ | ⟨before, c, rfl, hstopped⟩
  · constructor
    · exact fun hf => absurd (hstatus.symm.trans hf) hfailure
    · rintro ⟨before, c, rfl, hc, -⟩
      have := (hcontinues c (by simp)).1
      omega
  · constructor
    · intro hf
      rcases hstopped.status with ⟨hc, -⟩ | ⟨-, hstatus⟩
      · exact ⟨before, c, rfl, hc, fun d hd => (hok d).mp (hstopped.continues d hd)⟩
      · exact absurd (hf ▸ hstatus) hzero
    · rintro ⟨before', c', heq, hc', -⟩
      obtain ⟨-, hlast⟩ := List.append_inj' heq rfl
      cases hlast
      rcases hstopped.status with ⟨-, hstatus⟩ | ⟨hc, -⟩
      · exact hstatus
      · omega

theorem Returned.zero_iff {status : Status}
    (h : Returned success failure (some status) nbyte result calls)
    (hsuccess : success ≠ status) (hfailure : failure ≠ status) {ok : Int → Prop}
    (hok : ∀ c : Transfer, c.Continues (some status) ↔ ok c.result) :
    result.status = status ↔ EndsWith 0 ok calls := by
  rcases h.status with ⟨hstatus, -, hcontinues⟩ | ⟨before, c, rfl, hstopped⟩
  · constructor
    · exact fun hz => absurd (hstatus.symm.trans hz) hsuccess
    · rintro ⟨before, c, rfl, hc, -⟩
      exact absurd ((hcontinues c (by simp)).2 hc) (by simp)
  · constructor
    · intro hz
      rcases hstopped.status with ⟨-, hstatus⟩ | ⟨hc, -⟩
      · exact absurd (hstatus.symm.trans hz) hfailure
      · exact ⟨before, c, rfl, hc, fun d hd => (hok d).mp (hstopped.continues d hd)⟩
    · rintro ⟨before', c', heq, hc', -⟩
      obtain ⟨-, hlast⟩ := List.append_inj' heq rfl
      cases hlast
      rcases hstopped.status with ⟨hc, -⟩ | ⟨-, hstatus⟩
      · omega
      · exact (Option.some.inj hstatus).symm

end

/-- What can be said of a loop, at any moment: of the calls made so far, and of the
result. -/
structure ReadCalls (nbyte : Nat) (result : RwResult ReadStatus) (calls : List Transfer) :
    Prop where
  moved : result.nbyte = total calls
  success : result.status = .success ↔ total calls = nbyte
  failure : result.status = .failure ↔ EndsWith (-1) (0 < ·) calls
  endOfFile : result.status = .endOfFile ↔ EndsWith 0 (0 < ·) calls

structure WriteCalls (nbyte : Nat) (result : RwResult WriteStatus) (calls : List Transfer) :
    Prop where
  moved : result.nbyte = total calls
  success : result.status = .success ↔ total calls = nbyte
  failure : result.status = .failure ↔ EndsWith (-1) (0 ≤ ·) calls

def Progress.state : Progress Status σ → σ
  | .returned _ w => w
  | .going _ w => w

theorem accounted_first (nbyte : Nat) (atZero : Option Status) :
    Going atZero nbyte ⟨0, nbyte⟩ [] := ⟨inOrder_nil nbyte, rfl, by simp⟩

theorem Accounted.inOrder {success failure : Status} {atZero : Option Status} {nbyte : Nat}
    {progress : Progress Status (σ × List Transfer)}
    (h : Accounted success failure atZero nbyte progress) : InOrder nbyte progress.state.2 := by
  cases progress with
  | returned result w => exact Returned.inOrder h
  | going s w => exact Going.inOrder h

/-- **Short transfers lose nothing.** For every buffer size, and whatever each call
returns, -1 or at most the bytes it was offered: each call starts at the first byte
that has not been moved and is offered all the rest, so that what has been moved
is a front part of the buffer; success means that it is all of it, a failure that
the last call returned -1 and no other, the end of the file that a read returned
0 for the first time. Reading comes to an end, and writing does unless it comes
to a place where 0 is returned for ever. -/
theorem transfers_in_order (call : Span → σ → Int × σ) (hcall : Conforms call) (nbyte : Nat) (w : σ) :
    (∀ fuel, InOrder nbyte (readPartialHandling (recorded call) nbyte fuel (w, [])).state.2) ∧
    (∀ fuel, InOrder nbyte (writePartialHandling (recorded call) nbyte fuel (w, [])).state.2) ∧
    (∀ fuel result calls w',
      readPartialHandling (recorded call) nbyte fuel (w, []) = .returned result (w', calls) →
        ReadCalls nbyte result calls) ∧
    (∀ fuel result calls w',
      writePartialHandling (recorded call) nbyte fuel (w, []) = .returned result (w', calls) →
        WriteCalls nbyte result calls) ∧
    (readPartialHandling call nbyte (nbyte + 1) w).isReturned = true ∧
    ((∃ fuel, (writePartialHandling call nbyte fuel w).isReturned = true) ↔
      ∀ fuel s w', writePartialHandling call nbyte fuel w = .going s w' → 0 < s.size →
        ∃ k, ¬zeros call s k w') := by
  have hread (fuel : Nat) : Accounted .success .failure (some .endOfFile) nbyte
      (readPartialHandling (recorded call) nbyte fuel (w, [])) :=
    accounted hcall fuel _ w [] (accounted_first nbyte _)
  have hwrite (fuel : Nat) : Accounted .success .failure none nbyte
      (writePartialHandling (recorded call) nbyte fuel (w, [])) :=
    accounted hcall fuel _ w [] (accounted_first nbyte _)
  refine ⟨fun fuel => (hread fuel).inOrder, fun fuel => (hwrite fuel).inOrder, ?_, ?_, ?_, ?_⟩
  · intro fuel result calls w' heq
    have h := hread fuel
    rw [heq] at h
    have h : Returned .success .failure (some .endOfFile) nbyte result calls := h
    have hok (c : Transfer) : c.Continues (some ReadStatus.endOfFile) ↔ 0 < c.result := by
      simp only [Transfer.Continues, reduceCtorEq, imp_false]
      omega
    exact ⟨h.moved, h.success_iff (by decide) (by decide), h.failure_iff (by decide) (by decide) hok,
      h.zero_iff (by decide) (by decide) hok⟩
  · intro fuel result calls w' heq
    have h := hwrite fuel
    rw [heq] at h
    have h : Returned .success .failure none nbyte result calls := h
    have hok (c : Transfer) : c.Continues (none : Option WriteStatus) ↔ 0 ≤ c.result := by
      simp [Transfer.Continues]
    exact ⟨h.moved, h.success_iff (by decide) (by decide), h.failure_iff (by decide) (by decide) hok⟩
  · exact read_returns hcall (nbyte + 1) _ w (Nat.lt_succ_self nbyte)
  · constructor
    · rintro ⟨fuel, hreturned⟩ fuel' s w' hgoing hleft
      by_contra hstall
      have hzeros : ∀ k, zeros call s k w' := fun k => not_not.mp fun h => hstall ⟨k, h⟩
      obtain ⟨w'', hw''⟩ : ∃ w'', partialHandling WriteStatus.success .failure none call nbyte
          fuel s w' = .going s w'' := stalls hleft fuel w' hzeros
      have hgoing : partialHandling WriteStatus.success .failure none call nbyte fuel'
          ⟨0, nbyte⟩ w = .going s w' := hgoing
      have hboth := isReturned_add hreturned fuel'
      rw [Nat.add_comm, partialHandling_add, hgoing] at hboth
      dsimp only at hboth
      rw [hw''] at hboth
      cases hboth
    · intro hlive
      exact returns hcall nbyte ⟨0, nbyte⟩ w rfl hlive

/-- A call that never moves more than `limit` bytes. -/
def atMost (limit : Nat) (s : Span) (w : Unit) : Int × Unit :=
  ((min limit s.size : Nat), w)

theorem atMost_conforms (limit : Nat) : Conforms (atMost limit) := by
  intro s w
  right
  simp only [atMost]
  omega

theorem transfers_in_order_by_two :
    ∃ calls, calls = [⟨⟨0, 5⟩, 2⟩, ⟨⟨2, 3⟩, 2⟩, ⟨⟨4, 1⟩, 1⟩] ∧
      writePartialHandling (recorded (atMost 2)) 5 4 ((), []) =
        .returned ⟨.success, 5⟩ ((), calls) ∧
      WriteCalls 5 ⟨.success, 5⟩ calls := by
  refine ⟨_, rfl, rfl, ?_⟩
  obtain ⟨-, -, -, hwrite, -, -⟩ := transfers_in_order (atMost 2) (atMost_conforms 2) 5 ()
  exact hwrite 4 _ _ () rfl

/-! ## The loops of the store -/

section
variable {success failure : Status} {atZero : Option Status} {call : Span → σ → Int × σ}
  {nbyte fuel : Nat} {s : Span} {w w' : σ}

theorem partialHandling_empty (hz : s.size = 0) :
    partialHandling success failure atZero call nbyte (fuel + 1) s w =
      .returned ⟨success, nbyte⟩ w := by
  rw [partialHandling, if_pos hz]

theorem partialHandling_failed (hz : ¬s.size = 0) (hcall : call s w = (-1, w')) :
    partialHandling success failure atZero call nbyte (fuel + 1) s w =
      .returned ⟨failure, nbyte - s.size⟩ w' := by
  rw [partialHandling, if_neg hz, hcall]
  rfl

theorem partialHandling_ended {status : Status} (hz : ¬s.size = 0) (hcall : call s w = (0, w')) :
    partialHandling success failure (some status) call nbyte (fuel + 1) s w =
      .returned ⟨status, nbyte - s.size⟩ w' := by
  rw [partialHandling, if_neg hz, hcall]
  rfl

theorem partialHandling_moved {n : Nat} (hz : ¬s.size = 0) (hcall : call s w = ((n : Int), w'))
    (hn : n = 0 → atZero = none) (hle : n ≤ s.size) :
    partialHandling success failure atZero call nbyte (fuel + 1) s w =
      partialHandling success failure atZero call nbyte fuel ⟨s.data + n, s.size - n⟩ w' := by
  have hgood : ¬(n : Int) = -1 := by omega
  have hnone : (if (n : Int) = 0 then atZero else none) = none := by
    split
    · exact hn (by omega)
    · rfl
  have hlast : s.last (s.size - (n : Int).toNat) = ⟨s.data + n, s.size - n⟩ := by
    rw [Span.last, Int.toNat_natCast]
    congr 1
    omega
  rw [partialHandling, if_neg hz, hcall]
  dsimp only
  rw [if_neg hgood, hnone, hlast]

end

def Progress.toOption : Progress Status σ → Option (RwResult Status × σ)
  | .returned result w => some (result, w)
  | .going _ _ => none

/-- Write from the buffer `data`. -/
def fromBuffer (write : Bytes → σ → Option Nat × σ) (data : Bytes) (s : Span) (w : σ) : Int × σ :=
  match write ((data.drop s.data).take s.size) w with
  | (none, w) => (-1, w)
  | (some n, w) => (n, w)

/-- Read into the buffer that is kept beside the state. -/
def intoBuffer (read : Nat → σ → Option Bytes × σ) (s : Span) (w : σ × Bytes) :
    Int × (σ × Bytes) :=
  match read s.size w.1 with
  | (none, w') => (-1, (w', w.2))
  | (some bytes, w') =>
    (bytes.length, (w', w.2.take s.data ++ bytes ++ w.2.drop (s.data + bytes.length)))

theorem store_writes {write : Bytes → σ → Option (Option Nat × σ)}
    {write' : Bytes → σ → Option Nat × σ} (hwrite : ∀ d w, write d w = some (write' d w))
    (hmoved : ∀ d w n, (write' d w).1 = some n → n ≤ d.length) (data : Bytes) (fuel : Nat) (w : σ) :
    FileStore.writePartialHandling write fuel 0 data w =
      (writePartialHandling (fromBuffer write' data) data.length fuel w).toOption := by
  have hloop : ∀ done w, done ≤ data.length →
      FileStore.writePartialHandling write fuel done (data.drop done) w =
        (partialHandling .success .failure none (fromBuffer write' data) data.length fuel
          ⟨done, data.length - done⟩ w).toOption := by
    induction fuel with
    | zero => exact fun _ _ _ => rfl
    | succ fuel ih =>
      intro done w hdone
      have hleft : (data.drop done).take (data.length - done) = data.drop done :=
        List.take_of_length_le (Nat.le_of_eq List.length_drop)
      by_cases hz : data.length - done = 0
      · have hall : done = data.length := by omega
        rw [partialHandling_empty hz, FileStore.writePartialHandling, List.length_drop, if_pos hz,
          hall]
        rfl
      · obtain ⟨r, w', hr⟩ : ∃ r w', write' (data.drop done) w = (r, w') := ⟨_, _, rfl⟩
        rw [FileStore.writePartialHandling, List.length_drop, if_neg hz, hwrite, hr]
        cases r with
        | none =>
          have hcall : fromBuffer write' data ⟨done, data.length - done⟩ w = (-1, w') := by
            simp only [fromBuffer, hleft, hr]
          rw [partialHandling_failed hz hcall]
          dsimp only [Progress.toOption]
          rw [Nat.sub_sub_self hdone]
        | some n =>
          have hcall : fromBuffer write' data ⟨done, data.length - done⟩ w = ((n : Int), w') := by
            simp only [fromBuffer, hleft, hr]
          have hle : n ≤ data.length - done := by
            rw [← List.length_drop]
            exact hmoved _ w n (congrArg Prod.fst hr)
          rw [partialHandling_moved hz hcall (fun _ => rfl) hle]
          dsimp only
          rw [List.drop_drop, ih (done + n) w' (by omega), Nat.sub_sub]
  exact hloop 0 w (Nat.zero_le _)

/-- What has been read stands at the front of the buffer. -/
theorem store_reads {read : Nat → σ → Option (Option Bytes × σ)}
    {read' : Nat → σ → Option Bytes × σ} (hread : ∀ n w, read n w = some (read' n w))
    (hmoved : ∀ n w bytes, (read' n w).1 = some bytes → bytes.length ≤ n) (buffer : Bytes)
    (fuel : Nat) (w : σ) :
    FileStore.readPartialHandling read fuel [] buffer.length w =
      (readPartialHandling (intoBuffer read') buffer.length fuel (w, buffer)).toOption.map
        fun (result, w) => (result, w.2.take result.nbyte, w.1) := by
  have hloop : ∀ (got rest : Bytes) (w : σ), got.length + rest.length = buffer.length →
      FileStore.readPartialHandling read fuel got rest.length w =
        (partialHandling .success .failure (some .endOfFile) (intoBuffer read') buffer.length fuel
          ⟨got.length, rest.length⟩ (w, got ++ rest)).toOption.map
            fun (result, w) => (result, w.2.take result.nbyte, w.1) := by
    induction fuel with
    | zero => exact fun _ _ _ _ => rfl
    | succ fuel ih =>
      intro got rest w hlength
      have hleft : buffer.length - rest.length = got.length := by omega
      by_cases hz : rest.length = 0
      · have hall : buffer.length = got.length := by omega
        rw [partialHandling_empty hz, FileStore.readPartialHandling, if_pos hz, hall]
        simp [Progress.toOption]
      · obtain ⟨r, w', hr⟩ : ∃ r w', read' rest.length w = (r, w') := ⟨_, _, rfl⟩
        rw [FileStore.readPartialHandling, if_neg hz, hread, hr]
        cases r with
        | none =>
          have hcall : intoBuffer read' ⟨got.length, rest.length⟩ (w, got ++ rest) =
              (-1, (w', got ++ rest)) := by simp only [intoBuffer, hr]
          rw [partialHandling_failed hz hcall]
          simp [Progress.toOption, hleft]
        | some bytes =>
          have hle := hmoved _ w bytes (congrArg Prod.fst hr)
          have hcall : intoBuffer read' ⟨got.length, rest.length⟩ (w, got ++ rest) =
              ((bytes.length : Int), (w', (got ++ bytes) ++ rest.drop bytes.length)) := by
            simp [intoBuffer, hr]
          by_cases hempty : bytes.length = 0
          · have hnil : bytes = [] := List.eq_nil_of_length_eq_zero hempty
            rw [hempty] at hcall
            rw [partialHandling_ended hz hcall]
            simp [Progress.toOption, hleft, hnil]
          · have hlength' : (got ++ bytes).length + (rest.drop bytes.length).length =
                buffer.length := by
              rw [List.length_append, List.length_drop]
              omega
            rw [partialHandling_moved hz hcall (fun h => absurd h hempty) hle]
            have hnext := ih (got ++ bytes) (rest.drop bytes.length) w' hlength'
            rw [List.length_append, List.length_drop] at hnext
            dsimp only
            rw [if_neg hempty, hnext]
  exact hloop [] buffer w (Nat.zero_add _)

/-- `::read`, made again as long as it is interrupted. -/
def readCall (fd : Fd) (n : Nat) (os : Os) : Option Bytes × Os :=
  (whileInterrupted (Os.read fd n) (os.schedule.length + 1) os).getD (none, os)

/-- `::write`, made again as long as it is interrupted. -/
def writeCall (fd : Fd) (data : Bytes) (os : Os) : Option Nat × Os :=
  (whileInterrupted (Os.write fd data) (os.schedule.length + 1) os).getD (none, os)

theorem readCall_returns (fd : Fd) (n : Nat) (os : Os) :
    whileInterrupted (Os.read fd n) (os.schedule.length + 1) os = some (readCall fd n os) ∧
      ∀ bytes, (readCall fd n os).1 = some bytes → bytes.length ≤ n := by
  have hmade : ∃ r, whileInterrupted (Os.read fd n) (os.schedule.length + 1) os = some r ∧
      ∀ bytes, r.1 = some bytes → bytes.length ≤ n := by
    rcases FileStore.whileInterrupted_returns (Os.read fd n) (fun _ => rfl)
      (fun _ _ h => by
        cases fd with
        | none => exact (by decide : FileStore.EBADF ≠ FileStore.EINTR)
        | some path => cases h) _ os (Nat.lt_succ_self _) with ⟨os', -, hr⟩ | ⟨limit, os₁, -, hr⟩
    · exact ⟨_, hr, fun _ h => by cases h⟩
    · refine ⟨_, hr, fun bytes h => ?_⟩
      cases fd with
      | none => cases h
      | some path =>
        cases h
        apply Nat.le_trans (List.length_take_le _ _)
        cases limit with
        | none => exact Nat.le_refl n
        | some l => exact Nat.min_le_left _ _
  obtain ⟨r, hr, hle⟩ := hmade
  have heq : readCall fd n os = r := by rw [readCall, hr]; rfl
  exact ⟨by rw [hr, heq], heq ▸ hle⟩

theorem writeCall_returns (fd : Fd) (data : Bytes) (os : Os) :
    whileInterrupted (Os.write fd data) (os.schedule.length + 1) os =
        some (writeCall fd data os) ∧
      ∀ n, (writeCall fd data os).1 = some n → n ≤ data.length := by
  have hmade : ∃ r, whileInterrupted (Os.write fd data) (os.schedule.length + 1) os = some r ∧
      ∀ n, r.1 = some n → n ≤ data.length := by
    rcases FileStore.whileInterrupted_returns (Os.write fd data) (fun _ => rfl)
      (fun _ _ h => by
        cases fd with
        | none => exact (by decide : FileStore.EBADF ≠ FileStore.EINTR)
        | some path => cases h) _ os (Nat.lt_succ_self _) with ⟨os', -, hr⟩ | ⟨limit, os₁, -, hr⟩
    · exact ⟨_, hr, fun _ h => by cases h⟩
    · refine ⟨_, hr, fun n h => ?_⟩
      cases fd with
      | none => cases h
      | some path =>
        cases h
        exact List.length_take_le' _ _
  obtain ⟨r, hr, hle⟩ := hmade
  have heq : writeCall fd data os = r := by rw [writeCall, hr]; rfl
  exact ⟨by rw [hr, heq], heq ▸ hle⟩

/-- The reads and writes of the store are these loops. -/
theorem store_read_write (fd : Fd) (data : Bytes) (os : Os) :
    FileStore.read fd data.length os =
        ((readPartialHandling (intoBuffer (readCall fd)) data.length (data.length + 1)
          (os, data)).toOption.map fun (result, w) => (result, w.2.take result.nbyte, w.1)) ∧
      FileStore.write fd data os =
        (writePartialHandling (fromBuffer (writeCall fd) data) data.length
          (os.schedule.length + data.length + 1) os).toOption := by
  constructor
  · exact store_reads (fun n os => (readCall_returns fd n os).1)
      (fun n os => (readCall_returns fd n os).2) data _ os
  · exact store_writes (fun d os => (writeCall_returns fd d os).1)
      (fun d os => (writeCall_returns fd d os).2) data _ os

end SoupBin.Detail
