import SoupBin.FileStoreFailures

/-!
# Messages of any size

`add` writes the length of a message in two bytes, and all of the message behind
it. A message of 65536 bytes or more is taken, but not given back.
-/

namespace SoupBin.FileStore
open Records

/-! ## Reading changes nothing -/

theorem getMessage_later {s : FileStore} (hfd : s.fd = some s.filename) (os : Os) :
    ∃ r os', s.getMessage os = some (r, os') ∧ os.Later os' := by
  obtain ⟨⟨status₁, n₁⟩, sz, os₁, hr₁, h₁⟩ := read_returns s.filename 2 os
  cases status₁ with
  | failure => exact ⟨.error os₁.errno, os₁, by simp only [getMessage, hfd, hr₁], h₁.later⟩
  | endOfFile => exact ⟨.error EIO, os₁, by simp only [getMessage, hfd, hr₁], h₁.later⟩
  | success =>
    obtain ⟨⟨status₂, n₂⟩, message, os₂, hr₂, h₂⟩ := read_returns s.filename (readBe16 sz) os₁
    have hl := h₁.later.trans h₂.later
    cases status₂ with
    | failure => exact ⟨.error os₂.errno, os₂, by simp only [getMessage, hfd, hr₁, hr₂], hl⟩
    | endOfFile => exact ⟨.error EIO, os₂, by simp only [getMessage, hfd, hr₁, hr₂], hl⟩
    | success => exact ⟨.ok message, os₂, by simp only [getMessage, hfd, hr₁, hr₂], hl⟩

theorem getLoop_later {s : FileStore} (hfd : s.fd = some s.filename) (count : Nat) :
    ∀ (messages : List Bytes) (os : Os),
      ∃ ec got os', s.getLoop count messages os = some (ec, got, os') ∧ os.Later os' := by
  induction count with
  | zero => exact fun messages os => ⟨none, messages, os, rfl, .refl os⟩
  | succ count ih =>
    intro messages os
    obtain ⟨r, os₁, hr, hl⟩ := getMessage_later hfd os
    cases r with
    | error e => exact ⟨some e, messages, os₁, by simp only [getLoop, hr], hl⟩
    | ok m =>
      obtain ⟨ec, got, os₂, hr₂, hl₂⟩ := ih (messages ++ [m]) os₁
      exact ⟨ec, got, os₂, by simp only [getLoop, hr, hr₂], hl.trans hl₂⟩

/-- `get` returns, and leaves the file alone. -/
theorem get_later {s : FileStore} (hfd : s.fd = some s.filename) (first last : Nat)
    (messages : List Bytes) (os : Os) :
    ∃ ec got os', s.get first last messages os = some (ec, got, os') ∧ os.Later os' := by
  unfold get
  split
  · exact ⟨_, _, os, rfl, .refl os⟩
  · split
    · exact ⟨_, _, os, rfl, .refl os⟩
    · obtain ⟨ec, got, os', hr, hl⟩ := getLoop_later hfd (last - first + 1) messages
        { os with offset := s.offsets.getD (first - 1) 0 }
      refine ⟨ec, got, os', ?_, ⟨hl.files, hl.schedule⟩⟩
      simp only [hfd, Os.seekSet, Os.seek] at hr ⊢
      exact hr

/-! ## What becomes of a message -/

def runTo : FileStore → Os → List Op → Option (FileStore × Os)
  | s, os, [] => some (s, os)
  | s, os, op :: ops =>
    match perform s os op with
    | none => none
    | some (_, s, os) => runTo s os ops

/-- The message `n` is `m`. -/
def Found (s : FileStore) (os : Os) (n : Nat) (m : Bytes) : Prop :=
  ∃ os', s.get n n [] os = some (none, [m], os')

/-- The message `n` is `m` whatever messages are added, of any size, and however
often the file is opened again, as long as no call fails. -/
def Kept (s : FileStore) (os : Os) (n : Nat) (m : Bytes) : Prop :=
  ∀ schedule, (∀ e, Outcome.failed e ∉ schedule) → ∀ ops,
    ∃ s' os', runTo s { os with schedule := schedule } ops = some (s', os') ∧ Found s' os' n m

/-- An add that succeeds keeps the message under the next number, and one that
does not changes neither the file nor the offsets. -/
def AddsOrRefuses (s : FileStore) (os : Os) (m : Bytes) : Prop :=
  match s.add m os with
  | none => False
  | some (none, s', os') => Kept s' os' s.nextSequenceNumber m
  | some (some _, s', os') => os'.files = os.files ∧ s'.offsets = s.offsets

/-- The store is open on a file that begins with the records of `ms` and `m`, and
knows where they start. -/
structure Holds (s : FileStore) (os : Os) (ms : List Bytes) (m : Bytes) : Prop where
  fd : s.fd = some s.filename
  file : ∃ after, os.files s.filename = some (stored (ms ++ [m]) ++ after)
  offsets : ∃ more, s.offsets = starts 0 (ms ++ [m]) ++ more
  short : ∀ x ∈ ms ++ [m], Short x

theorem Holds.found {s : FileStore} {os : Os} {ms : List Bytes} {m : Bytes} (h : Holds s os ms m)
    (hok : os.NoFailure) : Found s os (ms.length + 1) m := by
  obtain ⟨after, hfile⟩ := h.file
  obtain ⟨more, hoff⟩ := h.offsets
  have hlen : s.offsets.length = ms.length + 1 + more.length := by
    rw [hoff, List.length_append, length_starts, List.length_append, List.length_singleton]
  have hstart : s.offsets.getD ms.length 0 = (stored ms).length := by
    rw [hoff, List.getD_eq_getElem?_getD, List.getElem?_append_left
      (by rw [length_starts, List.length_append, List.length_singleton]; omega),
      ← List.getD_eq_getElem?_getD, starts_getD 0 _
        (by rw [List.length_append, List.length_singleton]; omega), List.take_left, Nat.zero_add]
  have hc : os.contents s.filename = stored ms ++ (stored [m] ++ after) := by
    rw [Os.contents, hfile, Option.getD_some, stored_append, List.append_assoc]
  obtain ⟨os', hr, -, -⟩ := getLoop_records h.fd [m]
    (fun x hx => h.short x (List.mem_append_right _ hx)) 0 (stored ms) after []
    { os with offset := (stored ms).length } hok hc rfl
  refine ⟨os', ?_⟩
  rw [get, if_neg (by omega), if_neg (by omega)]
  simp only [h.fd, Os.seekSet, Os.seek, Nat.add_sub_cancel, hstart, Nat.sub_self]
  exact hr

theorem Holds.later {s : FileStore} {os os' : Os} {ms : List Bytes} {m : Bytes}
    (h : Holds s os ms m) (hl : os.Later os') : Holds s os' ms m :=
  ⟨h.fd, by rw [hl.files]; exact h.file, h.offsets, h.short⟩

/-- Whatever lies behind them, the scan finds the records in front. -/
theorem Holds.scan {ms : List Bytes} (hms : ∀ m ∈ ms, Short m) (after : Bytes) :
    ∃ more, scan (stored ms ++ after) ((stored ms ++ after).length + 1) 0 = starts 0 ms ++ more := by
  have hle : ms.length ≤ (stored ms ++ after).length + 1 := by
    have := length_le_stored ms
    rw [List.length_append]
    omega
  obtain ⟨fuel, hfuel⟩ := Nat.exists_eq_add_of_le hle
  have hscan := scan_records ms hms [] after fuel
  simp only [List.nil_append, List.length_nil, Nat.zero_add] at hscan
  exact ⟨_, by rw [hfuel, hscan]⟩

theorem Holds.perform {s : FileStore} {os : Os} {ms : List Bytes} {m : Bytes}
    (h : Holds s os ms m) (hok : os.NoFailure) (op : Op) :
    ∃ r s' os', perform s os op = some (r, s', os') ∧ Holds s' os' ms m ∧ os'.NoFailure := by
  obtain ⟨after, hfile⟩ := h.file
  obtain ⟨more, hoff⟩ := h.offsets
  cases op with
  | add x =>
    obtain ⟨os', hr, hf, hsched⟩ := add_appends h.fd hfile hok x
    refine ⟨_, { s with offsets := s.offsets ++ [(stored (ms ++ [m]) ++ after).length] }, os',
      by simp only [FileStore.perform, hr]; rfl, ⟨h.fd, ?_, ?_, h.short⟩, hok.suffix hsched⟩
    · exact ⟨after ++ record x, by rw [hf, List.append_assoc]⟩
    · exact ⟨more ++ [_], by rw [hoff, List.append_assoc]⟩
  | get first last messages =>
    obtain ⟨ec, got, os', hr, hl⟩ := get_later h.fd first last messages os
    exact ⟨_, s, os', by simp only [FileStore.perform, hr]; rfl, h.later hl, hok.suffix hl.schedule⟩
  | reopen =>
    obtain ⟨os₁, hr₁, hl₁⟩ := closeStore_spec s os hok
    have hfile₁ : os₁.files s.filename = some (stored (ms ++ [m]) ++ after) := by
      rw [hl₁.files]; exact hfile
    obtain ⟨os₂, hr₂, hl₂⟩ := openStore_existing { filename := s.filename } os₁
      (hok.suffix hl₁.schedule) hfile₁
    have hl := hl₁.trans hl₂
    refine ⟨_, _, os₂, by simp only [FileStore.perform, reopen, hr₁, hr₂]; rfl,
      ⟨rfl, ⟨after, by rw [hl.files]; exact hfile⟩, ?_, h.short⟩, hok.suffix hl.schedule⟩
    simpa using Holds.scan h.short after

theorem Holds.kept {s : FileStore} {os : Os} {ms : List Bytes} {m : Bytes} (h : Holds s os ms m) :
    Kept s os (ms.length + 1) m := by
  have run (ops : List Op) : ∀ {s : FileStore} {os : Os}, Holds s os ms m → os.NoFailure →
      ∃ s' os', runTo s os ops = some (s', os') ∧ Found s' os' (ms.length + 1) m := by
    induction ops with
    | nil => exact fun h hok => ⟨_, _, rfl, h.found hok⟩
    | cons op ops ih =>
      intro s os h hok
      obtain ⟨r, s₁, os₁, hr, h₁, hok₁⟩ := h.perform hok op
      obtain ⟨s', os', hr', hfound⟩ := ih h₁ hok₁
      exact ⟨s', os', by simp only [runTo, hr, hr'], hfound⟩
  intro schedule hschedule ops
  exact run ops ⟨h.fd, h.file, h.offsets, h.short⟩ hschedule

/-! ## Long messages -/

/-- What is found under the number of an added message is as long as two bytes
can say. -/
theorem found_short {s : FileStore} {os : Os} {before m x : Bytes} {offsets : List Nat}
    (hfd : s.fd = some s.filename) (hoff : s.offsets = offsets ++ [before.length])
    (hfile : os.files s.filename = some (before ++ record m))
    (h : Found s os (offsets.length + 1) x) : x.length = m.length % 65536 := by
  obtain ⟨os', hget⟩ := h
  have hstart : s.offsets.getD offsets.length 0 = before.length := by
    rw [hoff, List.getD_eq_getElem?_getD, List.getElem?_concat_length, Option.getD_some]
  have hlen : s.offsets.length = offsets.length + 1 := by
    rw [hoff, List.length_append, List.length_singleton]
  rw [get, if_neg (by omega), if_neg (by omega)] at hget
  simp only [hfd, Os.seekSet, Os.seek, Nat.add_sub_cancel, hstart, Nat.sub_self] at hget
  obtain ⟨ms, hms, -, hshort, hpre⟩ := getLoop_reads hfd _ _ _ _ _ hget
  rw [List.nil_append] at hms
  subst hms
  have hsize : x.length < 65536 := hshort x List.mem_cons_self
  obtain ⟨rest, hrest⟩ : record x <+: record m := by
    rw [Os.contents, hfile, Option.getD_some, List.drop_left, stored_cons, stored_nil,
      List.append_nil] at hpre
    exact hpre
  have hheader := congrArg readBe16 hrest
  rw [record, record, List.append_assoc, readBe16_be16, readBe16_be16,
    Nat.mod_eq_of_lt hsize] at hheader
  exact hheader

theorem AddsOrRefuses.fits {s : FileStore} {os : Os} {file : Bytes}
    (hfd : s.fd = some s.filename) (hf : os.files s.filename = some file) {m : Bytes}
    (h : AddsOrRefuses s os m) : m.length ≤ 65535 ∧ addServed os.schedule m = true := by
  obtain ⟨ec, n, os', hr, hfile, -, hall, hserved⟩ := add_returns hfd hf m
  rw [AddsOrRefuses, hr] at h
  cases ec with
  | some e =>
    have hoff := congrArg List.length h.2
    rw [List.length_append, List.length_singleton] at hoff
    omega
  | none =>
    -- No further call is needed: the message is looked for at once.
    obtain ⟨s₁, os₁, hrun, hfound⟩ := h [] (by simp) []
    cases hrun
    rw [List.take_of_length_le (hall rfl)] at hfile
    have hfile' : ({ os' with schedule := [] } : Os).files s.filename =
        some (file ++ record m) := by
      dsimp only
      rw [hfile, Function.update_self]
    have hlong := found_short (s := { s with offsets := s.offsets ++ [file.length] })
      hfd rfl hfile' hfound
    exact ⟨by omega, hserved.mp rfl⟩

theorem Stores.addsOrRefuses {s : FileStore} {os : Os} {ms : List Bytes} (h : Stores s os ms)
    {m : Bytes} (hfits : m.length ≤ 65535) (hok : addServed os.schedule m = true) :
    AddsOrRefuses s os m := by
  obtain ⟨ec, n, os', hr, hfile, -, hall, hserved⟩ := add_returns h.fd h.file m
  rw [AddsOrRefuses, hr]
  cases hserved.mpr hok
  rw [List.take_of_length_le (hall rfl)] at hfile
  have hholds : Holds { s with offsets := s.offsets ++ [(stored ms).length] } os' ms m := by
    refine ⟨h.fd, ⟨[], ?_⟩, ⟨[], ?_⟩, ?_⟩
    · rw [hfile, Function.update_self, stored_append, List.append_nil]
      simp [stored]
    · simp only [h.offsets, starts_append, Nat.zero_add, List.append_nil]
    · intro x hx
      rcases List.mem_append.mp hx with hx | hx
      · exact h.short x hx
      · rw [List.mem_singleton.mp hx]
        exact Nat.lt_succ_of_le hfits
  rw [h.nextSequenceNumber]
  exact hholds.kept

/-- **`add` takes every size, and keeps those that two bytes can say.** On any
file, an add that keeps its message or changes nothing had at most 65535 bytes to
add, and none of its calls failed. On a file of whole records such an add does. -/
theorem adds_or_refuses_iff {s : FileStore} {os : Os} {file : Bytes}
    (hfd : s.fd = some s.filename) (hf : os.files s.filename = some file) (m : Bytes) :
    (AddsOrRefuses s os m → m.length ≤ 65535 ∧ addServed os.schedule m = true) ∧
      ((∃ ms, Stores s os ms) → m.length ≤ 65535 ∧ addServed os.schedule m = true →
        AddsOrRefuses s os m) :=
  ⟨fun h => h.fits hfd hf, fun ⟨_, h⟩ hcond => h.addsOrRefuses hcond.1 hcond.2⟩

/-- An empty file, open. -/
def emptyDisk : Os := { files := fun path => if path = "store" then some [] else none }

theorem adds_or_refuses_iff_empty :
    AddsOrRefuses emptyStore emptyDisk [7] ∧ ¬AddsOrRefuses emptyStore fullDisk [7] := by
  have hempty : Stores emptyStore emptyDisk [] := ⟨rfl, rfl, rfl, by simp⟩
  constructor
  · exact (adds_or_refuses_iff rfl rfl [7]).2 ⟨[], hempty⟩ (by decide)
  · intro h
    exact absurd ((adds_or_refuses_iff rfl rfl [7]).1 h) (by decide)

theorem long_taken {m : Bytes} (hlong : 65535 < m.length) :
    (∃ s' os', emptyStore.add m emptyDisk = some (none, s', os')) ∧
      ¬AddsOrRefuses emptyStore emptyDisk m := by
  constructor
  · have hok : emptyDisk.NoFailure := fun e h => by cases h
    obtain ⟨os', hr, -, -⟩ := add_appends (s := emptyStore) rfl rfl hok m
    exact ⟨_, os', hr⟩
  · intro h
    have hle := (h.fits rfl rfl).1
    omega

/-- A message of 65536 bytes is added to an empty store. No error is reported,
and the message is not found. -/
theorem long_message_lost :
    ∃ m : Bytes, m.length = 65536 ∧
      (∃ s' os', emptyStore.add m emptyDisk = some (none, s', os')) ∧
      ¬AddsOrRefuses emptyStore emptyDisk m :=
  ⟨List.replicate 65536 7, List.length_replicate,
    long_taken (Nat.lt_of_lt_of_eq (by decide) List.length_replicate.symm)⟩

end SoupBin.FileStore
