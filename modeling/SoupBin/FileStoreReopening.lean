import SoupBin.FileStoreSizes

/-!
# One store, opened again and again

`set_filename`, `open`, `add` and `close` may be called on one store in any
order. Every `open` should show the file it has opened. The scan appends what it
finds to the offsets the store holds already, so only an `open` of a store
without offsets does.
-/

namespace SoupBin.FileStore
open Records

/-! ## What opening does -/

theorem closeStore_returns (s : FileStore) (os : Os) :
    ∃ ec os', s.close os = some (ec, { s with fd := none }, os') ∧ os.Later os' := by
  obtain ⟨filename, fd, offsets⟩ := s
  cases fd with
  | none => exact ⟨none, os, rfl, .refl os⟩
  | some path =>
    obtain ⟨r, os', hr, hl, -⟩ := closeFd_returns path os
    cases r with
    | none => exact ⟨some os'.errno, os', by simp only [close, hr], hl⟩
    | some u => exact ⟨none, os', by simp only [close, hr], hl⟩

/-- What `open` has done: it reports an error and holds no descriptor, or the
file is open, and there if it was not. -/
structure Opens (s : FileStore) (os : Os) (offsets : List Nat) (ec : ErrorCode) (s' : FileStore)
    (os' : Os) : Prop where
  failed : ec ≠ none → s'.fd = none ∧ os'.files = os.files
  opened : ec = none → s' = ⟨s.filename, some s.filename, offsets⟩ ∧
    os'.files = Function.update os.files s.filename (some (os.contents s.filename))

theorem openAppend_returns (s : FileStore) (os : Os) :
    ∃ ec s' os', s.openAppend os = some (ec, s', os') ∧ Opens s os s.offsets ec s' os' := by
  rcases openFd_returns s.filename true os with ⟨os', hfail, hr⟩ | ⟨limit, os₁, hserve, hr⟩
  · exact ⟨some os'.errno, { s with fd := none }, os', by simp only [openAppend, hr],
      ⟨fun _ => ⟨rfl, hfail.files⟩, by simp⟩⟩
  · cases hfile : os₁.files s.filename with
    | some file =>
      rw [Os.opened, hfile] at hr
      rw [hserve.files] at hfile
      refine ⟨none, { s with fd := some s.filename }, { os₁ with offset := 0 },
        by simp only [openAppend, hr], by simp, fun _ => ⟨rfl, ?_⟩⟩
      have hself : os.files s.filename = some (os.contents s.filename) := by simp [Os.contents, hfile]
      rw [← hself, Function.update_eq_self, ← hserve.files]
    | none =>
      rw [Os.opened, hfile] at hr
      rw [hserve.files] at hfile
      refine ⟨none, { s with fd := some s.filename }, { os₁ with
          files := Function.update os₁.files s.filename (some []), offset := 0 },
        by simp only [openAppend, hr, ↓reduceIte], by simp, fun _ => ⟨rfl, ?_⟩⟩
      rw [Os.contents, hfile, Option.getD_none, ← hserve.files]

/-- The first `::open` of `open` finds the file, so that it is scanned. -/
def scans (s : FileStore) (os : Os) : Bool :=
  (os.files s.filename).isSome &&
    match pastInterrupts os.schedule with
    | .failed _ :: _ => false
    | _ => true

/-- The offsets of a store that `open` has opened. -/
def offsetsOpened (s : FileStore) (os : Os) : List Nat :=
  if s.scans os then
    s.offsets ++ scan (os.contents s.filename) ((os.contents s.filename).length + 1) 0
  else s.offsets

theorem openStore_returns (s : FileStore) (os : Os) :
    ∃ ec s' os', s.openStore os = some (ec, s', os') ∧
      Opens s os (s.offsetsOpened os) ec s' os' := by
  rcases openFd_returns s.filename false os with ⟨os₁, hfail, hr₁⟩ | ⟨limit, os₁, hserve, hr₁⟩
  · obtain ⟨e, he, hp⟩ := hfail.schedule
    have hscans : s.scans os = false := by simp [scans, hp]
    obtain ⟨ec, s', os', hr, h⟩ := openAppend_returns { s with fd := none } os₁
    refine ⟨ec, s', os', by simp only [openStore, hr₁, hr], ?_, ?_⟩
    · exact fun hec => ⟨(h.failed hec).1, (h.failed hec).2.trans hfail.files⟩
    · intro hec
      rw [offsetsOpened, hscans, if_neg (by simp)]
      have hc : os₁.contents s.filename = os.contents s.filename := hfail.later.contents _
      have hopened := h.opened hec
      dsimp only at hopened
      rwa [hc, hfail.files] at hopened
  · have hnofail : ∀ e rest, pastInterrupts os.schedule ≠ .failed e :: rest := by
      intro e rest hp
      rcases hserve.schedule with ⟨-, hnil, -⟩ | ⟨l, -, hshort⟩
      · rw [hnil] at hp
        cases hp
      · rw [hshort] at hp
        cases hp
    cases hfile : os₁.files s.filename with
    | none =>
      rw [Os.opened, hfile] at hr₁
      rw [hserve.files] at hfile
      simp only [Bool.false_eq_true, ↓reduceIte, Os.fail] at hr₁
      have hscans : s.scans os = false := by simp [scans, hfile]
      obtain ⟨ec, s', os', hr, h⟩ := openAppend_returns { s with fd := none }
        { os₁ with errno := ENOENT }
      refine ⟨ec, s', os', by simp only [openStore, hr₁, hr], ?_, ?_⟩
      · exact fun hec => ⟨(h.failed hec).1, (h.failed hec).2.trans hserve.files⟩
      · intro hec
        rw [offsetsOpened, hscans, if_neg (by simp)]
        have hc : ({ os₁ with errno := ENOENT } : Os).contents s.filename =
            os.contents s.filename := hserve.later.contents _
        have hopened := h.opened hec
        dsimp only at hopened
        rwa [hc, hserve.files] at hopened
    | some file =>
      rw [Os.opened, hfile] at hr₁
      rw [hserve.files] at hfile
      dsimp only at hr₁
      have hscans : s.scans os = true := by
        rw [scans, hfile, Option.isSome_some, Bool.true_and]
        split
        · rename_i e rest hp
          exact absurd hp (hnofail e rest)
        · rfl
      have hl₁ : os.Later { os₁ with offset := 0 } := ⟨hserve.later.files, hserve.later.schedule⟩
      have hc : ({ os₁ with offset := 0 } : Os).contents s.filename = os.contents s.filename :=
        hl₁.contents _
      obtain ⟨ec₂, found, os₂, hr₂, hl₂, hfound, -⟩ := setOffsetsLoop_returns s.filename
        ((os.contents s.filename).length + 1) s.offsets { os₁ with offset := 0 } (Nat.succ_pos _)
        (by rw [hc]; simp only; omega)
      rw [hc] at hfound
      have hset : setOffsets { s with fd := some s.filename } { os₁ with offset := 0 } =
          some (ec₂, ⟨s.filename, some s.filename, found⟩, os₂) := by
        simp only [setOffsets, Option.getD_some, hc, hr₂]
      obtain ⟨ec₃, os₃, hr₃, hl₃⟩ := closeStore_returns ⟨s.filename, some s.filename, found⟩ os₂
      have hl := (hl₁.trans hl₂).trans hl₃
      cases ec₂ with
      | some e =>
        exact ⟨some e, ⟨s.filename, none, found⟩, os₃, by simp only [openStore, hr₁, hset, hr₃],
          fun _ => ⟨rfl, hl.files⟩, by simp⟩
      | none =>
        obtain ⟨ec, s', os', hr, h⟩ := openAppend_returns ⟨s.filename, none, found⟩ os₃
        refine ⟨ec, s', os', by simp only [openStore, hr₁, hset, hr₃, hr], ?_, ?_⟩
        · exact fun hec => ⟨(h.failed hec).1, (h.failed hec).2.trans hl.files⟩
        · intro hec
          rw [offsetsOpened, hscans, if_pos rfl, ← hfound rfl]
          have hopened := h.opened hec
          dsimp only at hopened
          rwa [hl.contents, hl.files] at hopened

/-! ## What the offsets say -/

/-- There are as many offsets as records, and from each one on the file goes on
with the records from that one on. -/
structure PointTo (offsets : List Nat) (ms : List Bytes) : Prop where
  length : offsets.length = ms.length
  starts : ∀ i < ms.length, stored (ms.drop i) <+: (stored ms).drop (offsets.getD i 0)

/-- The store counts `ms`, and gives them back as long as no call fails. -/
def Returns (s : FileStore) (os : Os) (ms : List Bytes) : Prop :=
  s.nextSequenceNumber = ms.length + 1 ∧
  ∀ schedule, (∀ e, Outcome.failed e ∉ schedule) → ∀ first last wanted messages,
    slice ms first last = some wanted →
    ∃ os', s.get first last messages { os with schedule := schedule } =
      some (none, messages ++ wanted, os')

theorem pointTo_starts (ms : List Bytes) : PointTo (starts 0 ms) ms := by
  refine ⟨length_starts 0 ms, fun i hi => ?_⟩
  have hsplit : stored ms = stored (ms.take i) ++ stored (ms.drop i) := by
    rw [← stored_append, List.take_append_drop]
  rw [starts_getD 0 ms hi, Nat.zero_add, hsplit, List.drop_left]

theorem PointTo.returns {s : FileStore} {os : Os} {ms : List Bytes} (h : PointTo s.offsets ms)
    (hfd : s.fd = some s.filename) (hfile : os.contents s.filename = stored ms)
    (hms : ∀ m ∈ ms, Short m) : Returns s os ms := by
  refine ⟨by rw [FileStore.nextSequenceNumber, h.length], ?_⟩
  intro schedule hok first last wanted messages hslice
  unfold slice at hslice
  split at hslice
  · rename_i hrange
    cases hslice
    have hlen := h.length
    obtain ⟨rest, hrest⟩ := h.starts (first - 1) (by omega)
    generalize hoff : s.offsets.getD (first - 1) 0 = off at hrest
    -- the messages wanted, and what comes behind them
    have hsplit : ms.drop (first - 1) = (ms.drop (first - 1)).take (last - first + 1) ++
        (ms.drop (first - 1)).drop (last - first + 1) := (List.take_append_drop _ _).symm
    have hcount : ((ms.drop (first - 1)).take (last - first + 1)).length = last - first + 1 := by
      rw [List.length_take, List.length_drop]
      omega
    generalize hwanted : (ms.drop (first - 1)).take (last - first + 1) = wanted at hsplit hcount
    generalize (ms.drop (first - 1)).drop (last - first + 1) = behind at hsplit
    have hshort : ∀ m ∈ wanted, Short m := fun m hm => hms m (List.mem_of_mem_drop
      (by rw [hsplit]; exact List.mem_append_left behind hm))
    rw [hsplit, stored_append, List.append_assoc] at hrest
    have hne : stored wanted ≠ [] := by
      obtain ⟨m, tail, rfl⟩ := List.exists_cons_of_length_pos (l := wanted) (by omega)
      rw [stored_cons, record]
      simp [be16]
    have hin : off ≤ (stored ms).length := by
      by_contra hout
      rw [List.drop_eq_nil_of_le (by omega), List.append_eq_nil_iff] at hrest
      exact hne hrest.1
    obtain ⟨os', hr, -, -⟩ := getLoop_records hfd wanted hshort 0 ((stored ms).take off)
      (stored behind ++ rest) messages { os with schedule := schedule, offset := off } hok
      (by rw [hrest, List.take_append_drop]; exact hfile)
      (by rw [List.length_take, Nat.min_eq_left hin])
    refine ⟨os', ?_⟩
    rw [get, if_neg (by omega), if_neg (by omega)]
    rw [hcount] at hr
    simp only [hfd, Os.seekSet, Os.seek, hoff]
    exact hr
  · cases hslice

theorem Returns.pointTo {s : FileStore} {os : Os} {ms : List Bytes} (h : Returns s os ms)
    (hfd : s.fd = some s.filename) (hfile : os.contents s.filename = stored ms) :
    PointTo s.offsets ms := by
  have hlen : s.offsets.length = ms.length := Nat.succ.inj h.1
  refine ⟨hlen, fun i hi => ?_⟩
  -- all the messages from the `i`-th on
  obtain ⟨os', hget⟩ := h.2 [] (by simp) (i + 1) ms.length (ms.drop i) []
    (by rw [slice, if_pos (by omega), Nat.add_sub_cancel, List.take_of_length_le
      (by rw [List.length_drop]; omega)])
  rw [get, if_neg (by omega), if_neg (by omega)] at hget
  simp only [hfd, Os.seekSet, Os.seek, Nat.add_sub_cancel, List.nil_append] at hget
  obtain ⟨got, hgot, -, -, hpre⟩ := getLoop_reads hfd _ _ _ _ _ hget
  rw [List.nil_append] at hgot
  subst hgot
  have hc : ({ os with schedule := [], offset := s.offsets.getD i 0 } : Os).contents s.filename =
      stored ms := hfile
  rw [hc] at hpre
  exact hpre

/-! ## One open -/

/-- The store shows the file it has opened, if that is made of records. -/
def ShowsFile (s : FileStore) (os : Os) : Prop :=
  ∀ ms, (∀ m ∈ ms, Short m) → os.contents s.filename = stored ms → Returns s os ms

/-- Before an `open` that scans the file, the store holds no offsets; before one
that does not, the offsets it holds belong to the file. -/
def FitToOpen (s : FileStore) (os : Os) : Prop :=
  ∀ ms, (∀ m ∈ ms, Short m) → os.contents s.filename = stored ms →
    if s.scans os then s.offsets = [] else PointTo s.offsets ms

theorem pointTo_offsetsOpened {s : FileStore} {os : Os} {ms : List Bytes} (hms : ∀ m ∈ ms, Short m)
    (hfile : os.contents s.filename = stored ms) :
    PointTo (s.offsetsOpened os) ms ↔ if s.scans os then s.offsets = [] else PointTo s.offsets ms := by
  unfold offsetsOpened
  split
  · rw [hfile, scan_stored hms]
    constructor
    · intro h
      have hlen := h.length
      rw [List.length_append, length_starts] at hlen
      exact List.eq_nil_of_length_eq_zero (by omega)
    · intro h
      rw [h, List.nil_append]
      exact pointTo_starts ms
  · exact Iff.rfl

/-- An `open` that succeeds shows the file exactly if the store was fit for it. -/
theorem openStore_showsFile {s s' : FileStore} {os os' : Os}
    (h : s.openStore os = some (none, s', os')) : ShowsFile s' os' ↔ FitToOpen s os := by
  obtain ⟨ec, s₁, os₁, hr, hopens⟩ := openStore_returns s os
  rw [h] at hr
  cases hr
  obtain ⟨rfl, hfiles⟩ := hopens.opened rfl
  have hc : os'.contents s.filename = os.contents s.filename := by
    rw [Os.contents, hfiles, Function.update_self, Option.getD_some]
  unfold ShowsFile FitToOpen
  refine forall_congr' fun ms => forall_congr' fun hms => ?_
  dsimp only
  rw [hc]
  refine forall_congr' fun hfile => ?_
  rw [← pointTo_offsetsOpened hms hfile]
  exact ⟨fun h => h.pointTo rfl (hc.trans hfile), fun h => h.returns rfl (hc.trans hfile) hms⟩

/-! ## Any calls in any order -/

/-- One call on the store. -/
inductive Call where
  | setFilename (filename : String)
  | openStore
  | add (m : Bytes)
  | close

def call (s : FileStore) (os : Os) : Call → Option (ErrorCode × FileStore × Os)
  | .setFilename filename => some (none, s.setFilename filename, os)
  | .openStore => s.openStore os
  | .add m => s.add m os
  | .close => s.close os

def runCalls : FileStore → Os → List Call → Option (FileStore × Os)
  | s, os, [] => some (s, os)
  | s, os, c :: calls =>
    match s.call os c with
    | none => none
    | some (_, s, os) => runCalls s os calls

/-- Of every `open` that succeeds, `P` holds of the states before and behind it. -/
def EveryOpen (P : FileStore → Os → FileStore → Os → Prop) : FileStore → Os → List Call → Prop
  | _, _, [] => True
  | s, os, c :: calls =>
    match s.call os c with
    | none => True
    | some (ec, s', os') => (c = .openStore → ec = none → P s os s' os') ∧ EveryOpen P s' os' calls

/-- The file a store holds open is there. -/
def FileThere (s : FileStore) (os : Os) : Prop := ∀ path, s.fd = some path → (os.files path).isSome

/-- Every call returns, and the file that is open stays. -/
theorem call_returns {s : FileStore} {os : Os} (h : FileThere s os) (c : Call) :
    ∃ ec s' os', s.call os c = some (ec, s', os') ∧ FileThere s' os' := by
  cases c with
  | setFilename filename => exact ⟨none, s.setFilename filename, os, rfl, h⟩
  | openStore =>
    obtain ⟨ec, s', os', hr, hopens⟩ := openStore_returns s os
    refine ⟨ec, s', os', hr, fun path hpath => ?_⟩
    cases ec with
    | some e =>
      rw [(hopens.failed (by simp)).1] at hpath
      cases hpath
    | none =>
      obtain ⟨rfl, hfiles⟩ := hopens.opened rfl
      cases hpath
      rw [hfiles, Function.update_self, Option.isSome_some]
  | add m =>
    cases hfd : s.fd with
    | none =>
      refine ⟨some EBADF, s, { os with errno := EBADF }, ?_, fun path hpath => ?_⟩
      · simp only [call, add, Os.seekEnd, Os.seek, hfd, Os.fail]
      · rw [hfd] at hpath
        cases hpath
    | some path =>
      obtain ⟨file, hf⟩ := Option.isSome_iff_exists.mp (h path hfd)
      obtain ⟨ec, n, os', hr, hfiles, -⟩ := add_returns hfd hf m
      refine ⟨ec, _, os', hr, fun path' hpath' => ?_⟩
      cases hfd.symm.trans hpath'
      rw [hfiles, Function.update_self, Option.isSome_some]
  | close =>
    obtain ⟨ec, os', hr, -⟩ := closeStore_returns s os
    exact ⟨ec, _, os', hr, fun path hpath => by cases hpath⟩

theorem runCalls_returns (calls : List Call) :
    ∀ {s : FileStore} {os : Os}, FileThere s os → (runCalls s os calls).isSome := by
  induction calls with
  | nil => exact fun _ => rfl
  | cons c calls ih =>
    intro s os h
    obtain ⟨ec, s', os', hr, h'⟩ := call_returns h c
    rw [runCalls, hr]
    exact ih h'

theorem everyOpen_iff {P Q : FileStore → Os → FileStore → Os → Prop}
    (hpq : ∀ {s s' os os'}, s.openStore os = some (none, s', os') → (P s os s' os' ↔ Q s os s' os'))
    (calls : List Call) : ∀ (s : FileStore) (os : Os),
      EveryOpen P s os calls ↔ EveryOpen Q s os calls := by
  induction calls with
  | nil => exact fun _ _ => Iff.rfl
  | cons c calls ih =>
    intro s os
    unfold EveryOpen
    split
    · exact Iff.rfl
    · rename_i ec s' os' hr
      refine and_congr ⟨?_, ?_⟩ (ih s' os')
      · rintro h rfl rfl
        exact (hpq hr).mp (h rfl rfl)
      · rintro h rfl rfl
        exact (hpq hr).mpr (h rfl rfl)

/-- **A store shows the file it has opened when it had no offsets before.** Any
calls on a store return, whatever they meet. In a run of them every `open` that
succeeds shows its file exactly if each one found the store without offsets, or
could not scan the file and found offsets that belong to it. -/
theorem every_open_shows_iff (path : String) (os : Os) (calls : List Call) :
    (runCalls { filename := path } os calls).isSome ∧
      (EveryOpen (fun _ _ s' os' => ShowsFile s' os') { filename := path } os calls ↔
        EveryOpen (fun s os _ _ => FitToOpen s os) { filename := path } os calls) :=
  ⟨runCalls_returns calls (fun _ h => by cases h), everyOpen_iff openStore_showsFile calls _ _⟩

/-- One message is added to a new store. The store is closed and opened again: it
counts two. -/
theorem reopened_counts_twice :
    ¬EveryOpen (fun _ _ s' os' => ShowsFile s' os') { filename := "store" }
      { files := fun _ => none } [.openStore, .add [7], .close, .openStore] := by
  intro h
  have hshows := h.2.2.2.1 rfl rfl
  have hreturns := hshows [[7]] (by simp [Short]) rfl
  exact absurd hreturns.1 (by decide)

end SoupBin.FileStore
