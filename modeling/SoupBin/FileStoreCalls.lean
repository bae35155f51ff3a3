import SoupBin.FileStore
import Mathlib.Data.List.Infix

/-!
# The store's system calls

Interruptions and short transfers may occur at every call, and a call may fail.
Each wrapper then returns, and the schedule decides what: an interrupted call is
made again, and after that it fails or is served. As long as no call fails,
`read_spec` reads what is there and `write_spec` appends everything.
-/

namespace SoupBin.FileStore
open Records

/-- The schedule holds interruptions and short transfers, but no failure. -/
def Os.NoFailure (os : Os) : Prop := ∀ e, Outcome.failed e ∉ os.schedule

/-- Some calls later: the same files, and no outcome that was not due before. -/
structure Os.Later (os os' : Os) : Prop where
  files : os'.files = os.files
  schedule : os'.schedule <:+ os.schedule

theorem Os.NoFailure.suffix {os os' : Os} (h : os.NoFailure)
    (hs : os'.schedule <:+ os.schedule) : os'.NoFailure :=
  fun e he => h e (hs.subset he)

theorem Os.Later.refl (os : Os) : os.Later os := ⟨rfl, List.suffix_refl _⟩

theorem Os.Later.trans {a b c : Os} (h : a.Later b) (h' : b.Later c) : a.Later c :=
  ⟨h'.files.trans h.files, h'.schedule.trans h.schedule⟩

theorem Os.Later.contents {os os' : Os} (h : os.Later os') (path : String) :
    os'.contents path = os.contents path := by
  rw [Os.contents, h.files, Os.contents]

/-! ## Interruptions -/

/-- The schedule behind the interruptions in front of it. -/
def pastInterrupts : List Outcome → List Outcome
  | .interrupted :: rest => pastInterrupts rest
  | .failed e :: rest => if e = EINTR then pastInterrupts rest else .failed e :: rest
  | schedule => schedule

theorem pastInterrupts_suffix (schedule : List Outcome) :
    pastInterrupts schedule <:+ schedule := by
  induction schedule with
  | nil => exact List.suffix_refl _
  | cons o rest ih =>
    have hrest := ih.trans (List.suffix_cons o rest)
    cases o with
    | interrupted => exact hrest
    | failed e =>
      unfold pastInterrupts
      split
      · exact hrest
      · exact List.suffix_refl _
    | short limit => exact List.suffix_refl _

/-- The next call that is not interrupted fails. -/
structure Os.Fails (os os' : Os) : Prop where
  files : os'.files = os.files
  offset : os'.offset = os.offset
  schedule : ∃ e, e ≠ EINTR ∧ pastInterrupts os.schedule = .failed e :: os'.schedule

/-- The next call that is not interrupted is served in the state `os'`. -/
structure Os.Serves (os : Os) (limit : Option Nat) (os' : Os) : Prop where
  files : os'.files = os.files
  offset : os'.offset = os.offset
  schedule : limit = none ∧ pastInterrupts os.schedule = [] ∧ os'.schedule = [] ∨
    ∃ l, limit = some l ∧ pastInterrupts os.schedule = .short l :: os'.schedule

theorem Os.Fails.later {os os' : Os} (h : os.Fails os') : os.Later os' := by
  obtain ⟨e, -, hp⟩ := h.schedule
  exact ⟨h.files, (List.suffix_cons _ _).trans (hp ▸ pastInterrupts_suffix _)⟩

theorem Os.Fails.failure {os os' : Os} (h : os.Fails os') : ¬os.NoFailure := by
  obtain ⟨e, -, hp⟩ := h.schedule
  exact fun hok => hok e ((pastInterrupts_suffix _).subset (hp ▸ List.mem_cons_self))

theorem Os.Serves.later {os os' : Os} {limit : Option Nat} (h : os.Serves limit os') :
    os.Later os' := by
  refine ⟨h.files, ?_⟩
  rcases h.schedule with ⟨-, -, hnil⟩ | ⟨l, -, hp⟩
  · rw [hnil]
    exact List.nil_suffix
  · exact (List.suffix_cons _ _).trans (hp ▸ pastInterrupts_suffix _)

/-- An interrupted call is made again until it fails or is served. -/
theorem whileInterrupted_returns {α : Type} (callable : Os → Option α × Os)
    {serve : Option Nat → Os → Option α × Os} (hc : ∀ os, callable os = os.call serve)
    (hs : ∀ limit os, (serve limit os).1 = none → (serve limit os).2.errno ≠ EINTR) (fuel : Nat) :
    ∀ os : Os, os.schedule.length < fuel →
      (∃ os', os.Fails os' ∧ whileInterrupted callable fuel os = some (none, os')) ∨
        ∃ limit os₁, os.Serves limit os₁ ∧
          whileInterrupted callable fuel os = some (serve limit os₁) := by
  induction fuel with
  | zero => intro os hf; omega
  | succ fuel ih =>
    intro os hf
    have served (limit : Option Nat) (os₁ : Os) (h : callable os = serve limit os₁) :
        whileInterrupted callable (fuel + 1) os = some (serve limit os₁) := by
      rw [whileInterrupted, h]
      rcases hr : serve limit os₁ with ⟨_ | a, os'⟩
      · have hne : os'.errno ≠ EINTR := by simpa [hr] using hs limit os₁
        simp [hne]
      · rfl
    cases hsched : os.schedule with
    | nil =>
      refine Or.inr ⟨none, os, ⟨rfl, rfl, Or.inl ⟨rfl, by rw [hsched]; rfl, hsched⟩⟩, ?_⟩
      exact served none os (by rw [hc, Os.call, hsched])
    | cons o rest =>
      have hlen : rest.length < fuel := by
        rw [hsched, List.length_cons] at hf
        omega
      -- an error with `EINTR` is an interruption
      have again (hcall : callable os = (none, { os with schedule := rest, errno := EINTR }))
          (hpast : pastInterrupts os.schedule = pastInterrupts rest) :
          (∃ os', os.Fails os' ∧ whileInterrupted callable (fuel + 1) os = some (none, os')) ∨
            ∃ limit os₁, os.Serves limit os₁ ∧
              whileInterrupted callable (fuel + 1) os = some (serve limit os₁) := by
        rw [whileInterrupted, hcall]
        rcases ih { os with schedule := rest, errno := EINTR } hlen with
          ⟨os', hfail, hr⟩ | ⟨limit, os₁, hserve, hr⟩
        · exact Or.inl ⟨os', ⟨hfail.files, hfail.offset, hpast ▸ hfail.schedule⟩, hr⟩
        · exact Or.inr ⟨limit, os₁, ⟨hserve.files, hserve.offset, hpast ▸ hserve.schedule⟩, hr⟩
      cases o with
      | interrupted => exact again (by rw [hc, Os.call, hsched]; rfl) (by rw [hsched]; rfl)
      | failed e =>
        have hcall : callable os = (none, { os with schedule := rest, errno := e }) := by
          rw [hc, Os.call, hsched]; rfl
        by_cases he : e = EINTR
        · exact again (he ▸ hcall) (by rw [hsched, pastInterrupts, if_pos he])
        · refine Or.inl ⟨{ os with schedule := rest, errno := e }, ⟨rfl, rfl, e, he, ?_⟩, ?_⟩
          · rw [hsched, pastInterrupts, if_neg he]
          · simp only [whileInterrupted, hcall, if_neg he]
      | short limit =>
        refine Or.inr ⟨some limit, { os with schedule := rest },
          ⟨rfl, rfl, Or.inr ⟨limit, rfl, by rw [hsched]; rfl⟩⟩, ?_⟩
        exact served _ _ (by rw [hc, Os.call, hsched])

/-! ## Reading -/

theorem whileInterrupted_read (path : String) (n : Nat) (os : Os) :
    (∃ os', os.Fails os' ∧
        whileInterrupted (Os.read (some path) n) (os.schedule.length + 1) os = some (none, os')) ∨
      ∃ bytes os', whileInterrupted (Os.read (some path) n) (os.schedule.length + 1) os =
          some (some bytes, os') ∧ os.Later os' ∧ os'.offset = os.offset + bytes.length ∧
        bytes <+: ((os.contents path).drop os.offset).take n ∧
        (bytes = [] → ((os.contents path).drop os.offset).take n = []) := by
  rcases whileInterrupted_returns (Os.read (some path) n) (fun _ => rfl) (fun _ _ h => by cases h)
    _ os (Nat.lt_succ_self _) with ⟨os', hfail, hr⟩ | ⟨limit, os₁, hserve, hr⟩
  · exact Or.inl ⟨os', hfail, hr⟩
  · have hl := hserve.later
    refine Or.inr ⟨_, _, hr, ⟨hl.files, hl.schedule⟩, by rw [hserve.offset], ?_, ?_⟩
    · rw [hl.contents, hserve.offset]
      cases limit with
      | none => exact List.prefix_refl _
      | some l => exact List.take_prefix_take_left (Nat.min_le_left _ _)
    · rw [hl.contents, hserve.offset]
      cases limit with
      | none => exact id
      | some l =>
        intro h
        rw [List.take_eq_nil_iff] at h ⊢
        exact h.imp_left fun (h : min n (l + 1) = 0) => by omega

/-- What a read of `nbyte` bytes has returned, with `avail` in front of it: the
bytes that are there, unless a call failed. -/
structure ReadReturns (avail : Bytes) (nbyte : Nat) (os : Os) (res : RwResult ReadStatus)
    (bytes : Bytes) (os' : Os) : Prop where
  later : os.Later os'
  bytes : res.status ≠ .failure → bytes = avail.take nbyte
  result : res.status ≠ .failure →
    res = ⟨if nbyte ≤ avail.length then .success else .endOfFile, (avail.take nbyte).length⟩
  offset : res.status ≠ .failure → os'.offset = os.offset + (avail.take nbyte).length
  failed : res.status = .failure → ¬os.NoFailure

theorem ReadReturns.success {avail : Bytes} {nbyte : Nat} {os os' : Os}
    {res : RwResult ReadStatus} {bytes : Bytes} (h : ReadReturns avail nbyte os res bytes os')
    (hs : res.status = .success) :
    nbyte ≤ avail.length ∧ bytes = avail.take nbyte ∧ os'.offset = os.offset + nbyte := by
  have hne : res.status ≠ .failure := by simp [hs]
  have hle : nbyte ≤ avail.length := by
    by_contra hgt
    rw [h.result hne, if_neg hgt] at hs
    cases hs
  refine ⟨hle, h.bytes hne, ?_⟩
  rw [h.offset hne, List.length_take, Nat.min_eq_left hle]

theorem read_returns (path : String) (nbyte : Nat) (os : Os) :
    ∃ res bytes os', read (some path) nbyte os = some (res, bytes, os') ∧
      ReadReturns ((os.contents path).drop os.offset) nbyte os res bytes os' := by
  generalize havail : (os.contents path).drop os.offset = avail
  -- `got` has been read: `left` is what is still wanted of `avail`
  have loop : ∀ (fuel left : Nat) (got : Bytes) (os₁ : Os), left < fuel →
      os.Later os₁ → got.length + left = nbyte → avail.take got.length = got →
      got.length ≤ avail.length → os₁.offset = os.offset + got.length →
      ∃ res bytes os', readPartialHandling
          (fun n os => whileInterrupted (Os.read (some path) n) (os.schedule.length + 1) os)
          fuel got left os₁ = some (res, bytes, os') ∧
        ReadReturns avail nbyte os res bytes os' := by
    intro fuel
    induction fuel with
    | zero => intro left _ _ h; omega
    | succ fuel ih =>
      intro left got os₁ hf hl hn hg hle ho
      by_cases hz : left = 0
      · have hgn : got.length = nbyte := by omega
        refine ⟨_, _, os₁, by simp only [readPartialHandling, hz, ↓reduceIte]; rfl, hl, ?_, ?_, ?_, ?_⟩
        · intro _
          rw [← hgn, hg]
        · intro _
          rw [← hgn, if_pos hle, hg]
        · intro _
          rw [ho, ← hgn, hg]
        · simp
      · have hav : ((os₁.contents path).drop os₁.offset) = avail.drop got.length := by
          rw [hl.contents, ho, ← List.drop_drop, havail]
        rcases whileInterrupted_read path left os₁ with
          ⟨os₂, hfail, hr⟩ | ⟨bytes, os₂, hr, hl₂, ho₂, hpre, hnil⟩
        · refine ⟨⟨.failure, got.length⟩, got, os₂, ?_, hl.trans hfail.later, ?_, ?_, ?_, ?_⟩
          · simp only [readPartialHandling, hz, ↓reduceIte, hr]
          · simp
          · simp
          · simp
          · exact fun _ hok => hfail.failure (hok.suffix hl.schedule)
        · rw [hav] at hpre hnil
          by_cases hb : bytes.length = 0
          · have hend : avail.length ≤ got.length := by
              have := hnil (List.eq_nil_of_length_eq_zero hb)
              simp only [List.take_eq_nil_iff, List.drop_eq_nil_iff] at this
              omega
            have htake : avail.take nbyte = got := by
              rw [List.take_of_length_le (by omega), ← List.take_of_length_le hend, hg]
            refine ⟨⟨.endOfFile, got.length⟩, got, os₂, ?_, hl.trans hl₂, ?_, ?_, ?_, ?_⟩
            · simp only [readPartialHandling, hz, ↓reduceIte, hr, hb]
            · exact fun _ => htake.symm
            · intro _
              rw [if_neg (by omega), htake]
            · intro _
              rw [ho₂, ho, hb, htake]
              rfl
            · simp
          · have hbl : bytes.length ≤ left := by
              have := hpre.length_le
              rw [List.length_take] at this
              omega
            have hbd : bytes.length ≤ avail.length - got.length := by
              have := hpre.length_le
              rw [List.length_take, List.length_drop] at this
              omega
            have hg' : avail.take (got ++ bytes).length = got ++ bytes := by
              rw [List.length_append, List.take_add, hg]
              congr 1
              have := List.prefix_iff_eq_take.mp hpre
              rw [List.take_take, Nat.min_eq_left hbl] at this
              exact this.symm
            obtain ⟨res, bytes', os', hr', hfin⟩ := ih (left - bytes.length) (got ++ bytes) os₂
              (by omega) (hl.trans hl₂) (by rw [List.length_append]; omega) hg'
              (by rw [List.length_append]; omega) (by rw [ho₂, ho, List.length_append]; omega)
            refine ⟨res, bytes', os', ?_, hfin⟩
            simp only [readPartialHandling, hz, ↓reduceIte, hr, hb]
            exact hr'
  exact loop (nbyte + 1) nbyte [] os (by omega) (.refl os) (by simp) rfl (Nat.zero_le _) rfl

/-- A read that never fails returns the bytes that are there, up to `nbyte`,
and reports the end of the file exactly when there are fewer. -/
theorem read_spec (path : String) (nbyte : Nat) (os : Os) (hok : os.NoFailure) :
    let avail := (os.contents path).drop os.offset
    ∃ os', read (some path) nbyte os =
        some (⟨if nbyte ≤ avail.length then .success else .endOfFile, (avail.take nbyte).length⟩,
          avail.take nbyte, os') ∧
      os.Later os' ∧ os'.offset = os.offset + (avail.take nbyte).length := by
  intro avail
  obtain ⟨res, bytes, os', hr, h⟩ := read_returns path nbyte os
  have hs : res.status ≠ .failure := fun hf => h.failed hf hok
  exact ⟨os', by rw [hr, h.result hs, h.bytes hs], h.later, h.offset hs⟩

/-! ## Writing at the end of a file -/

/-- Some calls later: `data` has been appended to the file at `path`, and the
offset stands at its end again. -/
structure Os.Appended (os : Os) (path : String) (data : Bytes) (os' : Os) : Prop where
  files : os'.files = Function.update os.files path (some (os.contents path ++ data))
  offset : os'.offset = os.offset + data.length
  schedule : os'.schedule <:+ os.schedule

theorem Os.Appended.contents {os os' : Os} {path : String} {data : Bytes}
    (h : os.Appended path data os') : os'.contents path = os.contents path ++ data := by
  simp [Os.contents, h.files]

theorem Os.Appended.trans {a b c : Os} {path : String} {d d' : Bytes}
    (h : a.Appended path d b) (h' : b.Appended path d' c) : a.Appended path (d ++ d') c := by
  refine ⟨?_, ?_, h'.schedule.trans h.schedule⟩
  · rw [h'.files, h.contents, h.files, Function.update_idem, List.append_assoc]
  · rw [h'.offset, h.offset, List.length_append]
    omega

/-- What a write that is served does at the end of a file. -/
theorem Os.appended_write {os os₁ : Os} {path : String}
    (hend : os.offset = (os.contents path).length) (hl : os.Later os₁) (ho : os₁.offset = os.offset)
    (moved : Bytes) : os.Appended path moved { os₁ with
      files := Function.update os₁.files path
        (some (Os.overwrite (os₁.contents path) os₁.offset moved))
      offset := os₁.offset + moved.length } := by
  have happ : Os.overwrite (os₁.contents path) os₁.offset moved = os.contents path ++ moved := by
    rw [hl.contents, ho, hend]
    simp [Os.overwrite]
  refine ⟨?_, ?_, hl.schedule⟩
  · rw [happ, hl.files]
  · rw [ho]

/-- What is left of the schedule when `left` bytes have been written, unless a
call fails before. -/
def served : List Outcome → Nat → Option (List Outcome)
  | schedule, 0 => some schedule
  | [], _ + 1 => some []
  | .interrupted :: rest, left + 1 => served rest (left + 1)
  | .failed e :: rest, left + 1 => if e = EINTR then served rest (left + 1) else none
  | .short limit :: rest, left + 1 => served rest (left + 1 - limit)

theorem served_pastInterrupts (schedule : List Outcome) (left : Nat) :
    served (pastInterrupts schedule) (left + 1) = served schedule (left + 1) := by
  induction schedule with
  | nil => rfl
  | cons o rest ih =>
    cases o with
    | interrupted => exact ih
    | failed e =>
      simp only [pastInterrupts, served]
      split
      · exact ih
      · rename_i he
        simp [served, he]
    | short limit => rfl

/-- As long as no call fails, everything is written. -/
theorem served_isSome {schedule : List Outcome} (hok : ∀ e, Outcome.failed e ∉ schedule)
    (left : Nat) : (served schedule left).isSome := by
  induction schedule generalizing left with
  | nil => cases left <;> rfl
  | cons o rest ih =>
    have hrest : ∀ e, Outcome.failed e ∉ rest := fun e he => hok e (List.mem_cons_of_mem _ he)
    cases left with
    | zero => rfl
    | succ left =>
      cases o with
      | interrupted => exact ih hrest _
      | failed e => exact absurd List.mem_cons_self (hok e)
      | short limit => exact ih hrest _

theorem served_suffix {schedule rest : List Outcome} {left : Nat}
    (h : served schedule left = some rest) : rest <:+ schedule := by
  induction schedule generalizing left with
  | nil => cases left <;> cases h <;> exact List.suffix_refl _
  | cons o later ih =>
    cases left with
    | zero =>
      cases h
      exact List.suffix_refl _
    | succ left =>
      apply List.IsSuffix.trans _ (List.suffix_cons o later)
      cases o with
      | interrupted => exact ih h
      | failed e =>
        unfold served at h
        split at h
        · exact ih h
        · cases h
      | short limit => exact ih h

/-- A write is made again until it fails, or appends some of the data. -/
theorem whileInterrupted_write (path : String) {data : Bytes} (hne : data ≠ []) (os : Os)
    (hend : os.offset = (os.contents path).length) :
    (∃ os', os.Fails os' ∧ served os.schedule data.length = none ∧
        whileInterrupted (Os.write (some path) data) (os.schedule.length + 1) os =
          some (none, os')) ∨
      ∃ n os', whileInterrupted (Os.write (some path) data) (os.schedule.length + 1) os =
          some (some n, os') ∧ os.Appended path (data.take n) os' ∧ n ≤ data.length ∧
        served os.schedule data.length = served os'.schedule (data.length - n) ∧
        (n = 0 → os'.schedule.length < os.schedule.length) := by
  obtain ⟨left, hleft⟩ := Nat.exists_eq_succ_of_ne_zero (List.length_pos_iff.mpr hne).ne'
  have hserved : served os.schedule data.length =
      served (pastInterrupts os.schedule) data.length := by rw [hleft, served_pastInterrupts]
  rcases whileInterrupted_returns (Os.write (some path) data) (fun _ => rfl)
    (fun _ _ h => by cases h) _ os (Nat.lt_succ_self _) with
    ⟨os', hfail, hr⟩ | ⟨limit, os₁, hserve, hr⟩
  · obtain ⟨e, he, hp⟩ := hfail.schedule
    refine Or.inl ⟨os', hfail, ?_, hr⟩
    rw [hserved, hp, hleft, served, if_neg he]
  · have htake : data.take (data.take (limit.getD data.length)).length =
        data.take (limit.getD data.length) := by
      rw [List.length_take, ← List.take_eq_take_min]
    have happ := Os.appended_write hend hserve.later hserve.offset
      (data.take (limit.getD data.length))
    refine Or.inr ⟨_, _, hr, by rw [htake]; exact happ, List.length_take_le' _ _, ?_, ?_⟩
    · rw [hserved]
      rcases hserve.schedule with ⟨rfl, hp, hnil⟩ | ⟨l, rfl, hp⟩
      · rw [hp, Option.getD_none, List.take_length, Nat.sub_self, hleft, hnil]
        rfl
      · rw [hp, Option.getD_some, List.length_take, hleft, served]
        congr 1
        omega
    · rcases hserve.schedule with ⟨rfl, -, -⟩ | ⟨l, rfl, hp⟩
      · rw [Option.getD_none, List.take_length, hleft]
        intro hz
        cases hz
      · intro _
        have := (hp ▸ pastInterrupts_suffix os.schedule).length_le
        rw [List.length_cons] at this
        exact this

/-- What a write of `data` at the end of the file at `path` has done: some of the
data is appended, and the schedule decides whether it is all of it. -/
structure WriteReturns (path : String) (data : Bytes) (os : Os) (res : RwResult WriteStatus)
    (os' : Os) : Prop where
  appended : os.Appended path (data.take res.nbyte) os'
  success : res.status = .success →
    data.length = res.nbyte ∧ served os.schedule data.length = some os'.schedule
  failed : res.status = .failure → served os.schedule data.length = none

theorem write_returns (path : String) (data : Bytes) (os : Os)
    (hend : os.offset = (os.contents path).length) (hfile : (os.files path).isSome) :
    ∃ res os', write (some path) data os = some (res, os') ∧ WriteReturns path data os res os' := by
  -- `wrote` has been written, `left` is what is left of the data
  have loop : ∀ (fuel : Nat) (wrote left : Bytes) (os₁ : Os),
      os₁.schedule.length + left.length < fuel → wrote ++ left = data →
      os.Appended path wrote os₁ →
      served os.schedule data.length = served os₁.schedule left.length →
      ∃ res os', writePartialHandling
          (fun d os => whileInterrupted (Os.write (some path) d) (os.schedule.length + 1) os)
          fuel wrote.length left os₁ = some (res, os') ∧ WriteReturns path data os res os' := by
    intro fuel
    induction fuel with
    | zero => intro _ _ _ h; omega
    | succ fuel ih =>
      intro wrote left os₁ hf hd ha hserved
      have hwrote : data.take wrote.length = wrote := by rw [← hd, List.take_left]
      by_cases hz : left = []
      · subst hz
        rw [List.append_nil] at hd
        refine ⟨⟨.success, wrote.length⟩, os₁, rfl, by rw [hwrote]; exact ha, ?_, by simp⟩
        intro _
        refine ⟨by rw [hd], ?_⟩
        rw [hserved, List.length_nil]
        cases os₁.schedule <;> rfl
      · have hz' : left.length ≠ 0 := fun h => hz (List.eq_nil_of_length_eq_zero h)
        rcases whileInterrupted_write path hz os₁
          (by rw [ha.offset, ha.contents, List.length_append, hend]) with
          ⟨os₂, hfail, hnone, hr⟩ | ⟨n, os₂, hr, ha₂, hn, hserved₂, hless⟩
        · refine ⟨⟨.failure, wrote.length⟩, os₂, ?_, ?_, by simp, fun _ => hserved.trans hnone⟩
          · simp only [writePartialHandling, hz', ↓reduceIte, hr]
          · rw [hwrote]
            exact ⟨hfail.files.trans ha.files, hfail.offset.trans ha.offset,
              hfail.later.schedule.trans ha.schedule⟩
        · have hlen : (wrote ++ left.take n).length = wrote.length + n := by
            rw [List.length_append, List.length_take, Nat.min_eq_left hn]
          have hdec : os₂.schedule.length + (left.drop n).length < fuel := by
            have hs := ha₂.schedule.length_le
            rw [List.length_drop]
            rcases Nat.eq_zero_or_pos n with h0 | h0
            · have := hless h0
              omega
            · omega
          obtain ⟨res, os', hr', hfin⟩ := ih (wrote ++ left.take n) (left.drop n) os₂ hdec
            (by rw [List.append_assoc, List.take_append_drop, hd]) (ha.trans ha₂)
            (by rw [hserved, hserved₂, List.length_drop])
          refine ⟨res, os', ?_, hfin⟩
          rw [hlen] at hr'
          simpa only [writePartialHandling, hz', ↓reduceIte, hr] using hr'
  obtain ⟨file, hf⟩ := Option.isSome_iff_exists.mp hfile
  refine loop _ [] data os (Nat.lt_succ_self _) rfl ⟨?_, rfl, List.suffix_refl _⟩ rfl
  simp [Os.contents, hf]

/-! ## Opening and closing -/

/-- What an open that is served finds. -/
def Os.opened (path : String) (create : Bool) (os : Os) : Option String × Os :=
  match os.files path with
  | some _ => (some path, { os with offset := 0 })
  | none =>
    if create then
      (some path, { os with files := Function.update os.files path (some []), offset := 0 })
    else os.fail ENOENT

theorem openFd_returns (path : String) (create : Bool) (os : Os) :
    (∃ os', os.Fails os' ∧ openFd path create os = some (none, os')) ∨
      ∃ limit os₁, os.Serves limit os₁ ∧ openFd path create os = some (os₁.opened path create) := by
  apply whileInterrupted_returns (Os.openFile path create) (fun _ => rfl) _ _ os
    (Nat.lt_succ_self _)
  intro _ os h
  cases hfile : os.files path with
  | some _ => simp [hfile] at h
  | none => cases create <;> simp [hfile, Os.fail, ENOENT, EINTR] at h ⊢

/-- What `openFd` returns: a descriptor at offset 0, or -1 for a file that is
not there and is not to be created. -/
theorem openFd_spec (path : String) (create : Bool) (os : Os) (hok : os.NoFailure) :
    ∃ os₁, os.Later os₁ ∧ openFd path create os = some
      (match os.files path with
        | some _ => (some path, { os₁ with offset := 0 })
        | none =>
          if create then
            (some path, { os₁ with files := Function.update os.files path (some []), offset := 0 })
          else os₁.fail ENOENT) := by
  rcases openFd_returns path create os with ⟨os', hfail, -⟩ | ⟨limit, os₁, hserve, hr⟩
  · exact absurd hok hfail.failure
  · exact ⟨os₁, hserve.later, by rw [hr, Os.opened, hserve.files]⟩

theorem closeFd_returns (path : String) (os : Os) :
    ∃ r os', closeFd (some path) os = some (r, os') ∧ os.Later os' ∧
      (r = none → ¬os.NoFailure) := by
  rcases whileInterrupted_returns (Os.closeFile (some path)) (fun _ => rfl)
    (fun _ _ h => by cases h) _ os (Nat.lt_succ_self _) with
    ⟨os', hfail, hr⟩ | ⟨limit, os₁, hserve, hr⟩
  · exact ⟨none, os', hr, hfail.later, fun _ => hfail.failure⟩
  · exact ⟨some (), os₁, hr, hserve.later, by simp⟩

theorem closeFd_spec (path : String) (os : Os) (hok : os.NoFailure) :
    ∃ os', closeFd (some path) os = some (some (), os') ∧ os.Later os' := by
  obtain ⟨r, os', hr, hl, hfail⟩ := closeFd_returns path os
  cases r with
  | none => exact absurd hok (hfail rfl)
  | some u => exact ⟨os', hr, hl⟩

end SoupBin.FileStore
