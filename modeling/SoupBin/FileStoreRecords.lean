import SoupBin.FileStoreCalls

/-!
# The store as a list of messages

`Stores s os ms`: `s` is open on a file that holds exactly the messages `ms`,
and its offsets are where they start. Opening establishes it, `add` appends to
`ms`, `get` reads a slice of `ms`.
-/

namespace SoupBin.FileStore
open Records

/-- A message as it lies in the file. -/
def record (m : Bytes) : Bytes := be16 m.length ++ m

def recordFormat : Format := ⟨2, readBe16, by decide⟩

/-- The file of a store holding `ms`. -/
def stored (ms : List Bytes) : Bytes := (ms.map record).flatten

/-- Where the messages `ms` start in a file in which they follow `off` bytes. -/
def starts : Nat → List Bytes → List Nat
  | _, [] => []
  | off, m :: ms => off :: starts (off + (2 + m.length)) ms

/-- A message whose length the prefix can hold. -/
def Short (m : Bytes) : Prop := m.length < 65536

@[simp] theorem length_record (m : Bytes) : (record m).length = 2 + m.length := by
  simp [record]

theorem record_isFrame {m : Bytes} (h : Short m) : recordFormat.IsFrame (record m) := by
  have hh : (record m).take 2 = be16 m.length ++ [] := rfl
  simp only [Format.IsFrame, recordFormat, hh, readBe16_be16, length_record, Nat.mod_eq_of_lt h]

theorem record_inj : Function.Injective record := by
  intro m n h
  have hdrop := congrArg (List.drop 2) h
  rwa [record, record, List.drop_left' (length_be16 _), List.drop_left' (length_be16 _)] at hdrop

/-- The file tells which messages the store holds. -/
theorem stored_inj {ms ns : List Bytes} (hms : ∀ m ∈ ms, Short m) (hns : ∀ n ∈ ns, Short n)
    (h : stored ms = stored ns) : ms = ns := by
  have hframes {ms : List Bytes} (hms : ∀ m ∈ ms, Short m) :
      ∀ f ∈ ms.map record, recordFormat.IsFrame f := by
    intro f hf
    obtain ⟨m, hm, rfl⟩ := List.mem_map.mp hf
    exact record_isFrame (hms m hm)
  have hmap := Format.flatten_inj (hframes hms) (hframes hns) h
  exact List.map_injective_iff.mpr record_inj hmap

@[simp] theorem stored_nil : stored [] = [] := rfl

theorem stored_cons (m : Bytes) (ms : List Bytes) : stored (m :: ms) = record m ++ stored ms := rfl

theorem stored_append (ms ns : List Bytes) : stored (ms ++ ns) = stored ms ++ stored ns := by
  simp [stored]

@[simp] theorem length_starts (off : Nat) (ms : List Bytes) : (starts off ms).length = ms.length := by
  induction ms generalizing off with
  | nil => rfl
  | cons m ms ih => simp [starts, ih]

theorem starts_append (off : Nat) (ms : List Bytes) (m : Bytes) :
    starts off (ms ++ [m]) = starts off ms ++ [off + (stored ms).length] := by
  induction ms generalizing off with
  | nil => simp [starts]
  | cons a ms ih =>
    simp only [List.cons_append, starts, ih, stored_cons, List.length_append, length_record]
    simp only [List.cons.injEq, true_and, List.append_cancel_left_eq, and_true]
    omega

/-- The `i`-th offset is the length of the messages before it. -/
theorem starts_getD (off : Nat) (ms : List Bytes) {i : Nat} (hi : i < ms.length) :
    (starts off ms).getD i 0 = off + (stored (ms.take i)).length := by
  induction ms generalizing off i with
  | nil => simp at hi
  | cons m ms ih =>
    cases i with
    | zero => simp [starts]
    | succ i =>
      have := ih (off + (2 + m.length)) (Nat.lt_of_succ_lt_succ hi)
      simp only [starts, List.getD_cons_succ, List.take_succ_cons, stored_cons, this,
        List.length_append, length_record]
      omega

/-! ## The scan of `open` -/

/-- The offsets the scan finds in `file` from `off` on: it reads a length and
jumps over as many bytes, whether they are there or not. -/
def scan (file : Bytes) : Nat → Nat → List Nat
  | 0, _ => []
  | fuel + 1, off =>
    if (file.drop off).length < 2 then []
    else off :: scan file fuel (off + (2 + readBe16 (file.drop off)))

theorem readBe16_take (b : Bytes) : readBe16 (b.take 2) = readBe16 b := by
  match b with
  | [] => rfl
  | [_] => rfl
  | _ :: _ :: _ => rfl

/-- The loop of `open` finds what the scan finds, unless a call fails. -/
theorem setOffsetsLoop_returns (path : String) (fuel : Nat) :
    ∀ (offsets : List Nat) (os : Os), 0 < fuel → (os.contents path).length < os.offset + 2 * fuel →
      ∃ ec found os', setOffsetsLoop (some path) fuel os.offset offsets os = some (ec, found, os') ∧
        os.Later os' ∧ (ec = none → found = offsets ++ scan (os.contents path) fuel os.offset) ∧
        (ec ≠ none → ¬os.NoFailure) := by
  induction fuel with
  | zero => intro _ _ h; omega
  | succ fuel ih =>
    intro offsets os _ hlen
    obtain ⟨⟨status, n⟩, bytes, os₁, hr, h⟩ := read_returns path 2 os
    have hl := h.later
    by_cases hfail : status = .failure
    · subst hfail
      refine ⟨some os₁.errno, offsets, os₁, by simp only [setOffsetsLoop, hr], hl, by simp, ?_⟩
      exact fun _ => h.failed rfl
    have hbytes := h.bytes hfail
    have hres := h.result hfail
    have ho := h.offset hfail
    subst hbytes
    by_cases hend : ((os.contents path).drop os.offset).length < 2
    · have hge : ¬ 2 ≤ ((os.contents path).drop os.offset).length := by omega
      rw [hres, if_neg hge] at hr
      refine ⟨none, offsets, os₁, by simp only [setOffsetsLoop, hr], hl, ?_, by simp⟩
      intro _
      rw [scan, if_pos hend, List.append_nil]
    · have hle : 2 ≤ ((os.contents path).drop os.offset).length := by omega
      have htwo : (((os.contents path).drop os.offset).take 2).length = 2 := by
        rw [List.length_take]; omega
      rw [htwo] at ho
      rw [hres, if_pos hle] at hr
      rw [List.length_drop] at hle
      have hseek (size : Nat) : os₁.seekCur (some path) size =
          (some (os.offset + (2 + size)), { os₁ with offset := os.offset + (2 + size) }) := by
        simp only [Os.seekCur, Os.seek, ho, Nat.add_assoc]
      have hc (off : Nat) : ({ os₁ with offset := off } : Os).contents path = os.contents path :=
        hl.contents path
      obtain ⟨ec, found, os₂, hr₂, hl₂, hfound, hfailed⟩ := ih (offsets ++ [os.offset])
        { os₁ with offset := os.offset + (2 + readBe16 ((os.contents path).drop os.offset)) }
        (by omega) (by rw [hc]; simp only; omega)
      refine ⟨ec, found, os₂, ?_, ⟨hl₂.files.trans hl.files, hl₂.schedule.trans hl.schedule⟩, ?_, ?_⟩
      · simp only [setOffsetsLoop, hr, readBe16_take, hseek]
        exact hr₂
      · intro hec
        rw [hfound hec, hc, scan, if_neg hend, List.append_assoc, List.singleton_append]
      · exact fun hec hok => hfailed hec (hok.suffix hl.schedule)

theorem setOffsetsLoop_spec (path : String) (fuel : Nat) (offsets : List Nat) (os : Os)
    (hok : os.NoFailure) (hpos : 0 < fuel) (hlen : (os.contents path).length < os.offset + 2 * fuel) :
    ∃ os', setOffsetsLoop (some path) fuel os.offset offsets os =
      some (none, offsets ++ scan (os.contents path) fuel os.offset, os') ∧ os.Later os' := by
  obtain ⟨ec, found, os', hr, hl, hfound, hfailed⟩ :=
    setOffsetsLoop_returns path fuel offsets os hpos hlen
  cases ec with
  | some e => exact absurd hok (hfailed (by simp))
  | none => exact ⟨os', by rw [hr, hfound rfl], hl⟩

/-- In front of whole records the scan finds their starts, and goes on behind them. -/
theorem scan_records (ms : List Bytes) (hms : ∀ m ∈ ms, Short m) (before after : Bytes) (fuel : Nat) :
    scan (before ++ stored ms ++ after) (ms.length + fuel) before.length =
      starts before.length ms ++
        scan (before ++ stored ms ++ after) fuel (before.length + (stored ms).length) := by
  induction ms generalizing before with
  | nil => simp [starts]
  | cons m ms ih =>
    have hm : Short m := hms m List.mem_cons_self
    have hdrop : (before ++ stored (m :: ms) ++ after).drop before.length =
        be16 m.length ++ (m ++ (stored ms ++ after)) := by
      simp [stored_cons, record]
    have hfuel : (m :: ms).length + fuel = ms.length + fuel + 1 := by
      rw [List.length_cons]; omega
    have := ih (fun x hx => hms x (List.mem_cons_of_mem _ hx)) (before ++ record m)
    simp only [List.length_append, length_record, List.append_assoc] at this
    rw [hfuel, scan, hdrop]
    simp only [List.length_append, length_be16, readBe16_be16, Nat.mod_eq_of_lt hm]
    rw [if_neg (by omega)]
    simp only [starts, List.cons_append, stored_cons, List.append_assoc, List.length_append,
      length_record, this, Nat.add_assoc]

theorem scan_end (file : Bytes) (fuel off : Nat) (h : file.length < off + 2) :
    scan file fuel off = [] := by
  cases fuel with
  | zero => rfl
  | succ fuel =>
    rw [scan, if_pos]
    rw [List.length_drop]
    omega

theorem length_le_stored (ms : List Bytes) : ms.length ≤ (stored ms).length := by
  induction ms with
  | nil => simp
  | cons m ms ih =>
    rw [stored_cons, List.length_append, length_record, List.length_cons]
    omega

/-- In a file of whole records the scan finds where each one starts. -/
theorem scan_stored {ms : List Bytes} (hms : ∀ m ∈ ms, Short m) :
    scan (stored ms) ((stored ms).length + 1) 0 = starts 0 ms := by
  obtain ⟨fuel, hfuel⟩ := Nat.exists_eq_add_of_le (length_le_stored ms)
  have hscan := scan_records ms hms [] [] (fuel + 1)
  simp only [List.nil_append, List.append_nil, List.length_nil, Nat.zero_add] at hscan
  rw [hfuel, Nat.add_assoc, hscan, scan_end _ _ _ (by omega), List.append_nil]

/-! ## Each operation, when no call fails -/

/-- `s` is open on a file holding exactly `ms`. -/
structure Stores (s : FileStore) (os : Os) (ms : List Bytes) : Prop where
  fd : s.fd = some s.filename
  file : os.files s.filename = some (stored ms)
  offsets : s.offsets = starts 0 ms
  short : ∀ m ∈ ms, Short m

theorem Stores.contents {s : FileStore} {os : Os} {ms : List Bytes} (h : Stores s os ms) :
    os.contents s.filename = stored ms := by
  simp [Os.contents, h.file]

theorem Stores.nextSequenceNumber {s : FileStore} {os : Os} {ms : List Bytes} (h : Stores s os ms) :
    s.nextSequenceNumber = ms.length + 1 := by
  simp [FileStore.nextSequenceNumber, h.offsets]

theorem Stores.later {s : FileStore} {os os' : Os} {ms : List Bytes} (h : Stores s os ms)
    (hl : os.Later os') : Stores s os' ms :=
  ⟨h.fd, by rw [hl.files, h.file], h.offsets, h.short⟩

theorem closeStore_spec (s : FileStore) (os : Os) (hok : os.NoFailure) :
    ∃ os', s.close os = some (none, { s with fd := none }, os') ∧ os.Later os' := by
  obtain ⟨filename, fd, offsets⟩ := s
  cases fd with
  | none => exact ⟨os, rfl, .refl os⟩
  | some path =>
    obtain ⟨os', hr, hl⟩ := closeFd_spec path os hok
    exact ⟨os', by simp only [close, hr], hl⟩

/-- Opening a file that is there: the scan, and the file is open. -/
theorem openStore_existing (s : FileStore) (os : Os) (hok : os.NoFailure) {file : Bytes}
    (hf : os.files s.filename = some file) :
    ∃ os', s.openStore os =
        some (none, ⟨s.filename, some s.filename, s.offsets ++ scan file (file.length + 1) 0⟩, os') ∧
      os.Later os' := by
  obtain ⟨os₁, hl₁, hr₁⟩ := openFd_spec s.filename false os hok
  rw [hf] at hr₁
  have hl₁' : os.Later { os₁ with offset := 0 } := ⟨hl₁.files, hl₁.schedule⟩
  have hc : ({ os₁ with offset := 0 } : Os).contents s.filename = file := by
    rw [hl₁'.contents, Os.contents, hf, Option.getD_some]
  obtain ⟨os₂, hr₂, hl₂⟩ := setOffsetsLoop_spec s.filename (file.length + 1) s.offsets
    { os₁ with offset := 0 } (hok.suffix hl₁.schedule) (Nat.succ_pos _) (by rw [hc]; simp only; omega)
  rw [hc] at hr₂
  have hset : setOffsets { s with fd := some s.filename } { os₁ with offset := 0 } =
      some (none, ⟨s.filename, some s.filename, s.offsets ++ scan file (file.length + 1) 0⟩, os₂) := by
    simp only [setOffsets, Option.getD_some, hc, hr₂]
  have hl₁₂ := hl₁'.trans hl₂
  obtain ⟨os₃, hr₃, hl₃⟩ := closeStore_spec
    ⟨s.filename, some s.filename, s.offsets ++ scan file (file.length + 1) 0⟩ os₂
    (hok.suffix hl₁₂.schedule)
  have hl₁₃ := hl₁₂.trans hl₃
  obtain ⟨os₄, hl₄, hr₄⟩ := openFd_spec s.filename true os₃ (hok.suffix hl₁₃.schedule)
  rw [hl₁₃.files, hf] at hr₄
  have hl₁₄ := hl₁₃.trans hl₄
  exact ⟨{ os₄ with offset := 0 }, by simp only [openStore, hr₁, hset, hr₃, openAppend, hr₄],
    ⟨hl₁₄.files, hl₁₄.schedule⟩⟩

/-- Opening a file that is not there creates an empty store. -/
theorem openStore_missing (path : String) (os : Os) (hok : os.NoFailure)
    (hf : os.files path = none) :
    ∃ s os', openStore { filename := path } os = some (none, s, os') ∧ Stores s os' [] ∧
      s.filename = path ∧ os'.schedule <:+ os.schedule := by
  obtain ⟨os₁, hl₁, hr₁⟩ := openFd_spec path false os hok
  simp only [hf, Bool.false_eq_true, ↓reduceIte] at hr₁
  obtain ⟨os₂, hl₂, hr₂⟩ := openFd_spec path true { os₁ with errno := ENOENT }
    (hok.suffix hl₁.schedule)
  have hf₁ : ({ os₁ with errno := ENOENT } : Os).files path = none := by rw [← hf, ← hl₁.files]
  rw [hf₁] at hr₂
  refine ⟨⟨path, some path, []⟩, { os₂ with
      files := Function.update os₁.files path (some []), offset := 0 },
    ?_, ⟨rfl, by simp, rfl, by simp⟩, rfl, hl₂.schedule.trans hl₁.schedule⟩
  simp only [openStore, hr₁, Os.fail, openAppend, hr₂, ↓reduceIte]

/-- Opening a file of whole records. -/
theorem openStore_stores (path : String) (os : Os) (hok : os.NoFailure) {ms : List Bytes}
    (hms : ∀ m ∈ ms, Short m) (hf : os.files path = some (stored ms)) :
    ∃ s os', openStore { filename := path } os = some (none, s, os') ∧ Stores s os' ms ∧
      s.filename = path ∧ os.Later os' := by
  obtain ⟨os', hr, hl⟩ := openStore_existing { filename := path } os hok hf
  refine ⟨_, os', hr, ⟨rfl, by rw [hl.files]; exact hf, ?_, hms⟩, rfl, hl⟩
  exact scan_stored hms

/-- Nothing fails while `add` writes the length and then the message. -/
def addServed (schedule : List Outcome) (m : Bytes) : Bool :=
  ((served schedule 2).bind (served · m.length)).isSome

/-- Whatever `add` meets, it enters an offset, and some of the record is written:
all of it, if no error is reported. -/
theorem add_returns {s : FileStore} {os : Os} {path : String} {file : Bytes}
    (hfd : s.fd = some path) (hf : os.files path = some file) (m : Bytes) :
    ∃ ec n os', s.add m os = some (ec, { s with offsets := s.offsets ++ [file.length] }, os') ∧
      os'.files = Function.update os.files path (some (file ++ (record m).take n)) ∧
      os'.schedule <:+ os.schedule ∧
      (ec = none → (record m).length ≤ n) ∧ (ec = none ↔ addServed os.schedule m = true) := by
  have hc : os.contents path = file := by simp [Os.contents, hf]
  have hseek : os.seekEnd (some path) =
      (some file.length, { os with offset := file.length }) := by
    simp only [Os.seekEnd, Os.seek, Option.getD_some, hc]
  have hc' : ({ os with offset := file.length } : Os).contents path = file := hc
  obtain ⟨⟨status₁, n₁⟩, os₁, hr₁, h₁⟩ := write_returns path (be16 m.length)
    { os with offset := file.length } (by rw [hc']) (by simp [hf])
  have ha₁ := h₁.appended
  have hfile₁ : os₁.files = Function.update os.files path
      (some (file ++ (be16 m.length).take n₁)) := by rw [ha₁.files, hc']
  cases status₁ with
  | failure =>
    have hnone : served os.schedule 2 = none := h₁.failed rfl
    refine ⟨some os₁.errno, min n₁ (be16 m.length).length, os₁, ?_, ?_, ha₁.schedule, by simp, ?_⟩
    · simp only [add, hfd, hseek, hr₁]
    · rw [hfile₁, record, List.take_append_of_le_length (Nat.min_le_right _ _),
        ← List.take_eq_take_min]
    · simp [addServed, hnone]
  | success =>
    obtain ⟨hn₁, hserved₁⟩ := h₁.success rfl
    have hserved₁ : served os.schedule 2 = some os₁.schedule := hserved₁
    have hall : (be16 m.length).take n₁ = be16 m.length := List.take_of_length_le (Nat.le_of_eq hn₁)
    simp only [hall] at ha₁ hfile₁
    have hend₁ : os₁.offset = (os₁.contents path).length := by
      rw [ha₁.offset, ha₁.contents, hc', List.length_append]
    obtain ⟨⟨status₂, n₂⟩, os₂, hr₂, h₂⟩ := write_returns path m os₁ hend₁ (by simp [hfile₁])
    have ha₂ := h₂.appended
    have hfile₂ : os₂.files = Function.update os.files path
        (some (file ++ (record m).take (2 + n₂))) := by
      rw [ha₂.files, Os.contents, hfile₁, Function.update_self, Option.getD_some,
        Function.update_idem, record, List.append_assoc, List.take_append, length_be16,
        Nat.add_sub_cancel_left,
        List.take_of_length_le (show (be16 m.length).length ≤ 2 + n₂ from Nat.le_add_right _ _)]
    cases status₂ with
    | failure =>
      refine ⟨some os₂.errno, 2 + n₂, os₂, by simp only [add, hfd, hseek, hr₁, hr₂], hfile₂,
        (ha₁.trans ha₂).schedule, by simp, ?_⟩
      have hnone := h₂.failed rfl
      simp [addServed, hserved₁, hnone]
    | success =>
      obtain ⟨hn₂, hserved₂⟩ := h₂.success rfl
      refine ⟨none, 2 + n₂, os₂, by simp only [add, hfd, hseek, hr₁, hr₂], hfile₂,
        (ha₁.trans ha₂).schedule, ?_, ?_⟩
      · have hlen : m.length = n₂ := hn₂
        rw [length_record]
        omega
      · simp [addServed, hserved₁, hserved₂]

theorem addServed_noFailure {os : Os} (hok : os.NoFailure) (m : Bytes) :
    addServed os.schedule m = true := by
  obtain ⟨rest, hrest⟩ := Option.isSome_iff_exists.mp (served_isSome hok 2)
  have hsuffix := served_suffix hrest
  simp only [addServed, hrest, Option.bind_some]
  exact served_isSome (fun e he => hok e (hsuffix.subset he)) m.length

/-- `add` writes behind whatever the file holds, and records the old end. -/
theorem add_appends {s : FileStore} {os : Os} {file : Bytes} (hfd : s.fd = some s.filename)
    (hf : os.files s.filename = some file) (hok : os.NoFailure) (m : Bytes) :
    ∃ os', s.add m os = some (none, { s with offsets := s.offsets ++ [file.length] }, os') ∧
      os'.files s.filename = some (file ++ record m) ∧ os'.schedule <:+ os.schedule := by
  obtain ⟨ec, n, os', hr, hfile, hsched, hall, hserved⟩ := add_returns hfd hf m
  cases hserved.mpr (addServed_noFailure hok m)
  refine ⟨os', hr, ?_, hsched⟩
  rw [hfile, Function.update_self, List.take_of_length_le (hall rfl)]

theorem add_spec {s : FileStore} {os : Os} {ms : List Bytes} (h : Stores s os ms)
    (hok : os.NoFailure) {m : Bytes} (hm : Short m) :
    ∃ s' os', s.add m os = some (none, s', os') ∧ Stores s' os' (ms ++ [m]) ∧
      s'.filename = s.filename ∧ os'.schedule <:+ os.schedule := by
  obtain ⟨os', hr, hf, hsched⟩ := add_appends h.fd h.file hok m
  refine ⟨_, os', hr, ⟨h.fd, ?_, ?_, ?_⟩, rfl, hsched⟩
  · rw [hf, stored_append]
    simp [stored]
  · simp only [h.offsets, starts_append, Nat.zero_add]
  · intro x hx
    rcases List.mem_append.mp hx with hx | hx
    · exact h.short x hx
    · rw [List.mem_singleton.mp hx]
      exact hm

/-- Reading the message at the current offset moves to the one behind it. -/
theorem getMessage_spec {s : FileStore} {os : Os} {before after m : Bytes}
    (hfd : s.fd = some s.filename) (hok : os.NoFailure) (hm : Short m)
    (hc : os.contents s.filename = before ++ (record m ++ after)) (ho : os.offset = before.length) :
    ∃ os', s.getMessage os = some (.ok m, os') ∧ os.Later os' ∧
      os'.offset = (before ++ record m).length := by
  have hdrop : (os.contents s.filename).drop os.offset = be16 m.length ++ (m ++ after) := by
    rw [hc, ho, List.drop_left, record, List.append_assoc]
  obtain ⟨os₁, hr₁, hl₁, ho₁⟩ := read_spec s.filename 2 os hok
  have htwo : (be16 m.length ++ (m ++ after)).take 2 = be16 m.length := rfl
  rw [hdrop, htwo, if_pos (by simp)] at hr₁
  rw [hdrop, htwo, ho, length_be16] at ho₁
  have hdrop₁ : (os₁.contents s.filename).drop os₁.offset = m ++ after := by
    rw [hl₁.contents, ho₁, ← List.drop_drop, ← ho, hdrop]
    rfl
  obtain ⟨os₂, hr₂, hl₂, ho₂⟩ := read_spec s.filename m.length os₁ (hok.suffix hl₁.schedule)
  rw [hdrop₁, List.take_left, if_pos (by simp)] at hr₂
  rw [hdrop₁, List.take_left, ho₁] at ho₂
  have hsize : readBe16 (be16 m.length) = m.length := by
    have := readBe16_be16 m.length []
    rwa [List.append_nil, Nat.mod_eq_of_lt hm] at this
  refine ⟨os₂, ?_, hl₁.trans hl₂, ?_⟩
  · simp only [getMessage, hfd, hr₁, hsize, hr₂]
  · rw [ho₂, List.length_append, length_record]
    omega

/-- A record whose length goes beyond the end of the file cannot be read. -/
theorem getMessage_torn {s : FileStore} {os : Os} {before tail : Bytes}
    (hfd : s.fd = some s.filename) (hok : os.NoFailure)
    (hc : os.contents s.filename = before ++ tail) (ho : os.offset = before.length)
    (htwo : 2 ≤ tail.length) (htorn : tail.length < 2 + readBe16 tail) :
    ∃ os', s.getMessage os = some (.error EIO, os') := by
  have hdrop : (os.contents s.filename).drop os.offset = tail := by rw [hc, ho, List.drop_left]
  obtain ⟨os₁, hr₁, hl₁, ho₁⟩ := read_spec s.filename 2 os hok
  rw [hdrop, if_pos htwo] at hr₁
  rw [hdrop, List.length_take, Nat.min_eq_left htwo, ho] at ho₁
  have hdrop₁ : (os₁.contents s.filename).drop os₁.offset = tail.drop 2 := by
    rw [hl₁.contents, ho₁, ← List.drop_drop, ← ho, hdrop]
  obtain ⟨os₂, hr₂, -, -⟩ := read_spec s.filename (readBe16 tail) os₁ (hok.suffix hl₁.schedule)
  rw [hdrop₁, if_neg (by rw [List.length_drop]; omega)] at hr₂
  exact ⟨os₂, by simp only [getMessage, hfd, hr₁, readBe16_take, hr₂]⟩

/-- The loop of `get` reads the records in front of it, and goes on behind them. -/
theorem getLoop_records {s : FileStore} (hfd : s.fd = some s.filename) (ms : List Bytes)
    (hms : ∀ m ∈ ms, Short m) (count : Nat) :
    ∀ (before after : Bytes) (messages : List Bytes) (os : Os), os.NoFailure →
      os.contents s.filename = before ++ (stored ms ++ after) → os.offset = before.length →
      ∃ os', s.getLoop (ms.length + count) messages os = s.getLoop count (messages ++ ms) os' ∧
        os.Later os' ∧ os'.offset = (before ++ stored ms).length := by
  induction ms with
  | nil =>
    intro before _ messages os _ _ ho
    exact ⟨os, by simp, .refl os, by simpa using ho⟩
  | cons m ms ih =>
    intro before after messages os hok hc ho
    rw [stored_cons, List.append_assoc] at hc
    obtain ⟨os₁, hr₁, hl₁, ho₁⟩ := getMessage_spec hfd hok (hms m List.mem_cons_self) hc ho
    obtain ⟨os₂, hr₂, hl₂, ho₂⟩ := ih (fun x hx => hms x (List.mem_cons_of_mem _ hx))
      (before ++ record m) after (messages ++ [m]) os₁ (hok.suffix hl₁.schedule)
      (by rw [hl₁.contents, hc, List.append_assoc]) ho₁
    refine ⟨os₂, ?_, hl₁.trans hl₂, by rw [ho₂, stored_cons, List.append_assoc]⟩
    rw [List.append_assoc, List.singleton_append] at hr₂
    rw [List.length_cons, Nat.succ_add_eq_add_succ, Nat.add_succ]
    simp only [getLoop, hr₁, hr₂]

/-- A message that is read lies at the current offset as a record. -/
theorem getMessage_reads {s : FileStore} {os os' : Os} {m : Bytes} (hfd : s.fd = some s.filename)
    (h : s.getMessage os = some (.ok m, os')) :
    record m <+: (os.contents s.filename).drop os.offset ∧ Short m ∧ os.Later os' ∧
      os'.offset = os.offset + (record m).length := by
  obtain ⟨⟨status₁, n₁⟩, sz, os₁, hr₁, h₁⟩ := read_returns s.filename 2 os
  cases status₁ with
  | failure => simp [getMessage, hfd, hr₁] at h
  | endOfFile => simp [getMessage, hfd, hr₁] at h
  | success =>
    obtain ⟨⟨status₂, n₂⟩, message, os₂, hr₂, h₂⟩ := read_returns s.filename (readBe16 sz) os₁
    cases status₂ with
    | failure => simp [getMessage, hfd, hr₁, hr₂] at h
    | endOfFile => simp [getMessage, hfd, hr₁, hr₂] at h
    | success =>
      simp only [getMessage, hfd, hr₁, hr₂, Option.some.injEq, Prod.mk.injEq,
        Except.ok.injEq] at h
      obtain ⟨rfl, rfl⟩ := h
      obtain ⟨hle₁, hsz, ho₁⟩ := h₁.success rfl
      obtain ⟨hle₂, hm, ho₂⟩ := h₂.success rfl
      rw [h₁.later.contents, ho₁, ← List.drop_drop] at hle₂ hm
      generalize (os.contents s.filename).drop os.offset = avail at hle₁ hsz hle₂ hm ⊢
      have hlen : message.length = readBe16 sz := by
        rw [hm, List.length_take, Nat.min_eq_left hle₂]
      have hheader : be16 message.length = sz := by
        rw [hlen, be16_readBe16]
        rw [hsz, List.length_take, Nat.min_eq_left hle₁]
      refine ⟨⟨(avail.drop 2).drop (readBe16 sz), ?_⟩, ?_, h₁.later.trans h₂.later, ?_⟩
      · rw [record, hheader, hm, List.append_assoc, List.take_append_drop, hsz,
          List.take_append_drop]
      · rw [Short, hlen]
        exact readBe16_lt sz
      · rw [ho₂, ho₁, length_record, hlen, Nat.add_assoc]

/-- So do all messages that `get` reads, one behind the other. -/
theorem getLoop_reads {s : FileStore} (hfd : s.fd = some s.filename) (count : Nat) :
    ∀ (messages got : List Bytes) (os os' : Os),
      s.getLoop count messages os = some (none, got, os') →
      ∃ ms, got = messages ++ ms ∧ ms.length = count ∧ (∀ m ∈ ms, Short m) ∧
        stored ms <+: (os.contents s.filename).drop os.offset := by
  induction count with
  | zero =>
    intro messages got os os' h
    cases h
    exact ⟨[], by simp, rfl, by simp, List.nil_prefix⟩
  | succ count ih =>
    intro messages got os os' h
    rw [getLoop] at h
    split at h
    · cases h
    · cases h
    · rename_i m os₁ hm
      obtain ⟨hpre, hshort, hl, ho⟩ := getMessage_reads hfd hm
      obtain ⟨ms, hgot, hlen, hms, hpres⟩ := ih _ _ _ _ h
      refine ⟨m :: ms, by rw [hgot, List.append_assoc]; rfl, by rw [List.length_cons, hlen],
        fun x hx => ?_, ?_⟩
      · rcases List.mem_cons.mp hx with rfl | hx
        · exact hshort
        · exact hms x hx
      · obtain ⟨rest, hrest⟩ := hpre
        rw [hl.contents, ho, ← List.drop_drop, ← hrest, List.drop_left] at hpres
        rw [stored_cons, ← hrest]
        exact (List.prefix_append_right_inj _).mpr hpres

/-- `get` reads a slice of the messages. -/
theorem get_spec {s : FileStore} {os : Os} {ms : List Bytes} (h : Stores s os ms)
    (hok : os.NoFailure) {first last : Nat} (hf : 1 ≤ first) (hl : first ≤ last)
    (hn : last ≤ ms.length) (messages : List Bytes) :
    ∃ os', s.get first last messages os =
        some (none, messages ++ (ms.drop (first - 1)).take (last - first + 1), os') ∧ os.Later os' := by
  have hoff : s.offsets.length = ms.length := by rw [h.offsets, length_starts]
  let wanted := (ms.drop (first - 1)).take (last - first + 1)
  let rest := (ms.drop (first - 1)).drop (last - first + 1)
  have hlen : wanted.length = last - first + 1 := by
    simp only [wanted, List.length_take, List.length_drop]
    omega
  have hsplit : ms = ms.take (first - 1) ++ (wanted ++ rest) := by
    simp only [wanted, rest, List.take_append_drop]
  have hstart : s.offsets.getD (first - 1) 0 = (stored (ms.take (first - 1))).length := by
    rw [h.offsets, starts_getD 0 ms (by omega), Nat.zero_add]
  obtain ⟨os', hr, hl', -⟩ := getLoop_records h.fd wanted
    (fun m hm => h.short m (List.mem_of_mem_drop (List.mem_of_mem_take hm))) 0
    (stored (ms.take (first - 1))) (stored rest) messages
    { os with offset := (stored (ms.take (first - 1))).length } hok
    (by rw [← stored_append, ← stored_append, ← hsplit]; exact h.contents) rfl
  refine ⟨os', ?_, ⟨hl'.files, hl'.schedule⟩⟩
  rw [hlen, Nat.add_zero] at hr
  rw [get, if_neg (by omega), if_neg (by omega)]
  simp only [h.fd, Os.seekSet, Os.seek, hstart, hr]
  rfl

theorem get_out_of_range {s : FileStore} {ms : List Bytes} {os : Os} (h : Stores s os ms)
    {first last : Nat} (hr : ¬(1 ≤ first ∧ first ≤ last ∧ last ≤ ms.length)) (messages : List Bytes) :
    s.get first last messages os = some (some EINVAL, messages, os) := by
  have hoff : s.offsets.length = ms.length := by rw [h.offsets, length_starts]
  unfold get
  split
  · rfl
  · rw [if_pos (by omega)]

end SoupBin.FileStore
