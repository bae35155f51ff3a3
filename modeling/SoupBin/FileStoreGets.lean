import SoupBin.FileStoreRecords

/-!
# What `get` leaves in the result

`get` appends each message to the result as soon as it has been read. Whether a
record can be read is decided by the bytes of the file and by what the calls
meet; the first record of a range alone leaves nothing behind when it fails.
-/

namespace SoupBin.FileStore
open Records

/-- What is left of the schedule when `left` bytes that are there have been read,
unless a call fails before. -/
def readServed : List Outcome → Nat → Option (List Outcome)
  | schedule, 0 => some schedule
  | [], _ + 1 => some []
  | .interrupted :: rest, left + 1 => readServed rest (left + 1)
  | .failed e :: rest, left + 1 => if e = EINTR then readServed rest (left + 1) else none
  | .short limit :: rest, left + 1 => readServed rest (left - limit)

theorem readServed_pastInterrupts (schedule : List Outcome) (left : Nat) :
    readServed (pastInterrupts schedule) (left + 1) = readServed schedule (left + 1) := by
  induction schedule with
  | nil => rfl
  | cons o rest ih =>
    cases o with
    | interrupted => exact ih
    | failed e =>
      simp only [pastInterrupts, readServed]
      split
      · exact ih
      · rename_i he
        simp [readServed, he]
    | short limit => rfl

/-- One record in front of `avail`: what is left of the schedule and of the file behind
it, if all of it is there and no call fails. -/
def recordServed (schedule : List Outcome) (avail : Bytes) : Option (List Outcome × Bytes) :=
  if avail.length < 2 then none
  else
    match readServed schedule 2 with
    | none => none
    | some schedule =>
      if avail.length < 2 + readBe16 avail then none
      else
        match readServed schedule (readBe16 avail) with
        | none => none
        | some schedule => some (schedule, avail.drop (2 + readBe16 avail))

/-- The next `count` records can be read. -/
def rangeServed : Nat → List Outcome → Bytes → Prop
  | 0, _, _ => True
  | count + 1, schedule, avail =>
    ∃ rest avail', recordServed schedule avail = some (rest, avail') ∧
      rangeServed count rest avail'

instance decidableRangeServed :
    ∀ count schedule avail, Decidable (rangeServed count schedule avail)
  | 0, _, _ => isTrue trivial
  | count + 1, schedule, avail =>
    match h : recordServed schedule avail with
    | none => isFalse fun ⟨_, _, h', _⟩ => by rw [h] at h'; cases h'
    | some (rest, avail') =>
      have := decidableRangeServed count rest avail'
      decidable_of_iff (rangeServed count rest avail') ⟨fun hr => ⟨rest, avail', h, hr⟩,
        fun ⟨_, _, h', hr⟩ => by rw [h] at h'; cases h'; exact hr⟩

/-- What lies in front of the offset. -/
def Os.ahead (os : Os) (path : String) : Bytes := (os.contents path).drop os.offset

/-! ## Reading one record -/

/-- A read is made again until it fails, or moves some of what is there. -/
theorem whileInterrupted_readServed (path : String) {left : Nat} (hleft : 0 < left) (os : Os)
    (hthere : left ≤ (os.ahead path).length) :
    (∃ os', readServed os.schedule left = none ∧
        whileInterrupted (Os.read (some path) left) (os.schedule.length + 1) os =
          some (none, os')) ∨
      ∃ bytes os', whileInterrupted (Os.read (some path) left) (os.schedule.length + 1) os =
          some (some bytes, os') ∧ 0 < bytes.length ∧ bytes.length ≤ left ∧
        os'.ahead path = (os.ahead path).drop bytes.length ∧
        readServed os.schedule left = readServed os'.schedule (left - bytes.length) := by
  obtain ⟨l, rfl⟩ := Nat.exists_eq_succ_of_ne_zero hleft.ne'
  rw [← readServed_pastInterrupts]
  rcases whileInterrupted_returns (Os.read (some path) (l + 1)) (fun _ => rfl)
    (fun _ _ h => by cases h) _ os (Nat.lt_succ_self _) with
    ⟨os', hfail, hr⟩ | ⟨limit, os₁, hserve, hr⟩
  · obtain ⟨e, he, hp⟩ := hfail.schedule
    refine Or.inl ⟨os', ?_, hr⟩
    rw [hp, readServed, if_neg he]
  · have hahead : (os₁.contents path).drop os₁.offset = os.ahead path := by
      rw [hserve.later.contents, hserve.offset, Os.ahead]
    have hlength (n : Nat) (hn : n ≤ l + 1) : ((os.ahead path).take n).length = n := by
      rw [List.length_take]
      omega
    refine Or.inr ⟨_, _, hr, ?_⟩
    dsimp only
    rw [hahead]
    rcases hserve.schedule with ⟨rfl, hp, hnil⟩ | ⟨limit', rfl, hp⟩
    · rw [hlength _ (Nat.le_refl _)]
      refine ⟨hleft, Nat.le_refl _, ?_, ?_⟩
      · rw [← hahead, List.drop_drop]
        rfl
      · rw [hp, hnil, Nat.sub_self]
        rfl
    · dsimp only
      rw [hlength _ (Nat.min_le_left _ _)]
      refine ⟨by omega, by omega, ?_, ?_⟩
      · rw [← hahead, List.drop_drop]
        rfl
      · rw [hp, readServed]
        congr 1
        omega

/-- As long as the bytes are there, the calls alone decide whether they are read. -/
theorem read_served (path : String) (nbyte : Nat) (os : Os)
    (hthere : nbyte ≤ (os.ahead path).length) :
    ∃ res bytes os', read (some path) nbyte os = some (res, bytes, os') ∧
      readServed os.schedule nbyte = if res.status = .success then some os'.schedule else none := by
  have loop : ∀ (fuel left : Nat) (got : Bytes) (os : Os), left < fuel →
      left ≤ (os.ahead path).length →
      ∃ res bytes os', readPartialHandling
          (fun n os => whileInterrupted (Os.read (some path) n) (os.schedule.length + 1) os)
          fuel got left os = some (res, bytes, os') ∧
        readServed os.schedule left =
          if res.status = .success then some os'.schedule else none := by
    intro fuel
    induction fuel with
    | zero => exact fun _ _ _ h => absurd h (Nat.not_lt_zero _)
    | succ fuel ih =>
      intro left got os hfuel hthere
      by_cases hz : left = 0
      · refine ⟨_, _, os, by simp only [readPartialHandling, hz, ↓reduceIte]; rfl, ?_⟩
        rw [hz, if_pos rfl]
        cases os.schedule <;> rfl
      · rcases whileInterrupted_readServed path (Nat.pos_of_ne_zero hz) os hthere with
          ⟨os', hnone, hr⟩ | ⟨bytes, os', hr, hpos, hle, hahead, hserved⟩
        · refine ⟨⟨.failure, got.length⟩, got, os', ?_, hnone⟩
          simp only [readPartialHandling, hz, ↓reduceIte, hr]
        · obtain ⟨res, bytes', os'', hloop, hres⟩ := ih (left - bytes.length) (got ++ bytes) os'
            (by omega) (by rw [hahead, List.length_drop]; omega)
          refine ⟨res, bytes', os'', ?_, hserved.trans hres⟩
          have hb : ¬bytes.length = 0 := by omega
          simp only [readPartialHandling, hz, ↓reduceIte, hr, hb]
          exact hloop
  exact loop (nbyte + 1) nbyte [] os (Nat.lt_succ_self _) hthere

/-- What a read succeeds with: all the bytes are there and no call has failed. -/
theorem read_success (path : String) (nbyte : Nat) (os : Os) :
    ∃ res bytes os', read (some path) nbyte os = some (res, bytes, os') ∧
      (res.status = .success ↔
        nbyte ≤ (os.ahead path).length ∧ ∃ rest, readServed os.schedule nbyte = some rest) ∧
      (res.status = .success → readServed os.schedule nbyte = some os'.schedule ∧
        bytes = (os.ahead path).take nbyte ∧ os'.ahead path = (os.ahead path).drop nbyte) := by
  obtain ⟨res, bytes, os', hr, h⟩ := read_returns path nbyte os
  have hserved (hthere : nbyte ≤ (os.ahead path).length) : readServed os.schedule nbyte =
      if res.status = .success then some os'.schedule else none := by
    obtain ⟨res', bytes', os'', hr', h'⟩ := read_served path nbyte os hthere
    rw [hr] at hr'
    cases hr'
    exact h'
  refine ⟨res, bytes, os', hr, ⟨fun hs => ?_, fun ⟨hthere, rest, hrest⟩ => ?_⟩, fun hs => ?_⟩
  · have hthere := (h.success hs).1
    exact ⟨hthere, os'.schedule, by rw [hserved hthere, if_pos hs]⟩
  · rw [hserved hthere] at hrest
    split at hrest
    · assumption
    · cases hrest
  · obtain ⟨hthere, hbytes, hoffset⟩ := h.success hs
    refine ⟨by rw [hserved hthere, if_pos hs], hbytes, ?_⟩
    rw [Os.ahead, h.later.contents, hoffset, ← List.drop_drop]
    rfl

theorem getMessage_served {s : FileStore} {path : String} (hfd : s.fd = some path) (os : Os) :
    ∃ r os', s.getMessage os = some (r, os') ∧
      recordServed os.schedule (os.ahead path) =
        match r with
        | .ok _ => some (os'.schedule, os'.ahead path)
        | .error _ => none := by
  obtain ⟨⟨status₁, n₁⟩, sz, os₁, hr₁, hiff₁, hdone₁⟩ := read_success path 2 os
  cases status₁ with
  | success =>
    obtain ⟨hthere₁, -⟩ := hiff₁.mp rfl
    obtain ⟨hserved₁, hsz, hahead₁⟩ := hdone₁ rfl
    have hsize : readBe16 sz = readBe16 (os.ahead path) := by rw [hsz, readBe16_take]
    obtain ⟨⟨status₂, n₂⟩, message, os₂, hr₂, hiff₂, hdone₂⟩ := read_success path (readBe16 sz) os₁
    rw [hahead₁, hsize, List.length_drop] at hiff₂
    have hlong : ¬(os.ahead path).length < 2 := by omega
    cases status₂ with
    | success =>
      obtain ⟨hthere₂, -⟩ := hiff₂.mp rfl
      obtain ⟨hserved₂, -, hahead₂⟩ := hdone₂ rfl
      have hfull : ¬(os.ahead path).length < 2 + readBe16 (os.ahead path) := by omega
      refine ⟨.ok message, os₂, by simp only [getMessage, hfd, hr₁, hr₂], ?_⟩
      rw [hahead₁, List.drop_drop] at hahead₂
      rw [hsize] at hserved₂ hahead₂
      rw [recordServed, if_neg hlong, hserved₁, hahead₂]
      dsimp only
      rw [if_neg hfull, hserved₂]
    | endOfFile | failure =>
      refine ⟨.error _, os₂, by simp only [getMessage, hfd, hr₁, hr₂]; rfl, ?_⟩
      rw [recordServed, if_neg hlong, hserved₁]
      dsimp only
      split
      · rfl
      · cases hrest : readServed os₁.schedule (readBe16 (os.ahead path)) with
        | none => rfl
        | some rest => cases hiff₂.mpr ⟨by omega, rest, hrest⟩
  | endOfFile | failure =>
    refine ⟨.error _, os₁, by simp only [getMessage, hfd, hr₁]; rfl, ?_⟩
    unfold recordServed
    split
    · rfl
    · cases hrest : readServed os.schedule 2 with
      | none => rfl
      | some rest => cases hiff₁.mpr ⟨by omega, rest, hrest⟩

/-! ## Reading a range -/

/-- The messages in front of the first record that cannot be read are kept. -/
theorem getLoop_served {s : FileStore} {path : String} (hfd : s.fd = some path) (count : Nat) :
    ∀ (messages : List Bytes) (os : Os), ∃ ec ms os',
      s.getLoop count messages os = some (ec, messages ++ ms, os') ∧
        (ec = none ↔ rangeServed count os.schedule (os.ahead path)) ∧
        (ec = none → ms.length = count) ∧
        (ms = [] → rangeServed 1 os.schedule (os.ahead path) → count = 0) ∧
        (¬rangeServed 1 os.schedule (os.ahead path) → ms = []) := by
  induction count with
  | zero => exact fun messages os => ⟨none, [], os, by simp [getLoop], by simp [rangeServed], by simp⟩
  | succ count ih =>
    intro messages os
    obtain ⟨r, os₁, hr, hserved⟩ := getMessage_served hfd os
    cases r with
    | error e =>
      refine ⟨some e, [], os₁, by simp only [getLoop, hr, List.append_nil], ?_⟩
      simp [rangeServed, hserved]
    | ok message =>
      obtain ⟨ec, ms, os₂, hloop, hiff, hall, -, -⟩ := ih (messages ++ [message]) os₁
      refine ⟨ec, message :: ms, os₂, ?_, ?_, ?_, by simp, ?_⟩
      · simp only [getLoop, hr, hloop, List.append_assoc, List.singleton_append]
      · simp [rangeServed, hserved, hiff]
      · intro hec
        rw [List.length_cons, hall hec]
      · simp [rangeServed, hserved]

/-- The result holds all the messages more, or as many as before. -/
def AllOrNothing (first last : Nat) (messages : List Bytes) (ec : ErrorCode) (got : List Bytes) :
    Prop :=
  ec = none ∧ (∃ ms, got = messages ++ ms ∧ ms.length = last + 1 - first) ∨
    ec ≠ none ∧ got = messages

instance : Decidable (AllOrNothing first last messages ec got) :=
  decidable_of_iff
    (ec = none ∧ (messages <+: got ∧ got.length = messages.length + (last + 1 - first)) ∨
      ec ≠ none ∧ got = messages) (by
    refine or_congr (and_congr_right' ⟨?_, ?_⟩) Iff.rfl
    · rintro ⟨⟨ms, rfl⟩, hlength⟩
      rw [List.length_append] at hlength
      exact ⟨ms, rfl, by omega⟩
    · rintro ⟨ms, rfl, hlength⟩
      exact ⟨List.prefix_append _ _, by rw [List.length_append, hlength]⟩)

/-- The first record of the range can be read, and a later one cannot. -/
def CutShort (s : FileStore) (path : String) (first last : Nat) (os : Os) : Prop :=
  (1 ≤ first ∧ first ≤ last ∧ last ≤ s.offsets.length) ∧
    rangeServed 1 os.schedule ((os.contents path).drop (s.offsets.getD (first - 1) 0)) ∧
    ¬rangeServed (last - first + 1) os.schedule
      ((os.contents path).drop (s.offsets.getD (first - 1) 0))

instance : Decidable (CutShort s path first last os) := inferInstanceAs (Decidable (_ ∧ _ ∧ _))

/-- **All the messages or none.** `get` reads everything that was asked for, or returns
an error and leaves the result as it was, unless the range is cut short behind its
first record: then the messages in front of the cut stay in the result. -/
theorem get_all_or_nothing {s : FileStore} {path : String} (hfd : s.fd = some path) (os : Os)
    (first last : Nat) (messages : List Bytes) :
    ∃ ec got os', s.get first last messages os = some (ec, got, os') ∧
      (AllOrNothing first last messages ec got ↔ ¬CutShort s path first last os) := by
  unfold get CutShort
  split
  · refine ⟨_, _, _, rfl, iff_of_true (Or.inr ⟨by simp, rfl⟩) ?_⟩
    omega
  · split
    · refine ⟨_, _, _, rfl, iff_of_true (Or.inr ⟨by simp, rfl⟩) ?_⟩
      omega
    · rename_i hfirst hlast
      have hrange : 1 ≤ first ∧ first ≤ last ∧ last ≤ s.offsets.length := by omega
      obtain ⟨ec, ms, os', hloop, hiff, hall, hsome, hnone⟩ := getLoop_served hfd
        (last - first + 1) messages { os with offset := s.offsets.getD (first - 1) 0 }
      refine ⟨ec, messages ++ ms, os', ?_, ?_⟩
      · simp only [hfd, Os.seekSet, Os.seek]
        exact hloop
      · have hahead : Os.ahead { os with offset := s.offsets.getD (first - 1) 0 } path =
            (os.contents path).drop (s.offsets.getD (first - 1) 0) := rfl
        simp only [hahead] at hiff hsome hnone
        constructor
        · rintro (⟨hec, -⟩ | ⟨hec, hsame⟩) ⟨-, hone, hnot⟩
          · exact hnot (hiff.mp hec)
          · have hms : ms = [] := List.append_right_eq_self.mp hsame
            have := hsome hms hone
            omega
        · intro hcut
          by_cases hec : ec = none
          · exact Or.inl ⟨hec, ms, rfl, by rw [hall hec]; omega⟩
          · refine Or.inr ⟨hec, ?_⟩
            rw [hnone fun hone => hcut ⟨hrange, hone, fun h => hec (hiff.mpr h)⟩,
              List.append_nil]

/-- A file of two records: the second lacks four of its five bytes. -/
def tornFile : Bytes := [0, 1, 97, 0, 5, 98]

def tornOs : Os where
  files path := if path = "store" then some tornFile else none

/-- What is left in the result by `get` right after `open`. -/
def openedGet (os : Os) (first last : Nat) : Option (ErrorCode × List Bytes) :=
  match openStore { filename := "store" } os with
  | some (none, s, os) => (s.get first last [] os).map fun (ec, got, _) => (ec, got)
  | _ => none

theorem get_keeps_the_first :
    ∃ ec got, openedGet tornOs 1 2 = some (ec, got) ∧ ¬AllOrNothing 1 2 [] ec got :=
  ⟨some EIO, [[97]], by decide +kernel, by decide⟩

theorem get_all_or_nothing_torn :
    ∃ ec got os', ({ fd := some "store", offsets := [0, 3] } : FileStore).get 2 2 [] tornOs =
        some (ec, got, os') ∧ AllOrNothing 2 2 [] ec got := by
  obtain ⟨ec, got, os', hget, hiff⟩ :=
    get_all_or_nothing (s := { fd := some "store", offsets := [0, 3] }) rfl tornOs 2 2 []
  exact ⟨ec, got, os', hget, hiff.mpr (by decide +kernel)⟩

end SoupBin.FileStore
