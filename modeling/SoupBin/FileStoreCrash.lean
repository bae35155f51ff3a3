import SoupBin.FileStoreRuns

/-!
# A store cut short by a crash

The file of a store may be cut at any byte, as by a crash in the middle of an
`add`. `Recovered` is what a user of the store then needs. The scan of `open`
does not look whether the bytes it jumps over are there, and `add` writes
behind whatever the crash left, so the store recovers exactly from cuts
between two records.
-/

namespace SoupBin.FileStore
open Records

/-- Add `ms` one after another; `none` if an `add` reports an error. -/
def addAll (s : FileStore) : List Bytes → Os → Option (FileStore × Os)
  | [], os => some (s, os)
  | m :: ms, os =>
    match s.add m os with
    | some (none, s, os) => addAll s ms os
    | _ => none

/-- Open a new store on `path` and add `ms`. -/
def fill (path : String) (ms : List Bytes) (os : Os) : Option Os :=
  match openStore { filename := path } os with
  | some (none, s, os) => (addAll s ms os).map Prod.snd
  | _ => none

/-- After a crash: the file at `path` is cut off, and calls meet `schedule`. -/
def crash (os : Os) (path : String) (cut : Nat) (schedule : List Outcome) : Os :=
  { os with
    files := Function.update os.files path (some ((os.contents path).take cut))
    schedule := schedule }

/-- How many of the records of `ms` lie completely within the first `cut` bytes. -/
def complete : List Bytes → Nat → Nat
  | [], _ => 0
  | m :: ms, cut => if 2 + m.length ≤ cut then complete ms (cut - (2 + m.length)) + 1 else 0

/-- The store shows exactly the messages `ms`. -/
def Shows (s : FileStore) (os : Os) (ms : List Bytes) : Prop :=
  s.nextSequenceNumber = ms.length + 1 ∧
  ∀ messages, ms ≠ [] → ∃ os', s.get 1 ms.length messages os = some (none, messages ++ ms, os')

/-- A new store on `path` shows `ms`; and after any successful adds and another
reopening, it shows `ms` followed by what was added. -/
def Recovered (path : String) (os : Os) (ms : List Bytes) : Prop :=
  ∃ s os₁, openStore { filename := path } os = some (none, s, os₁) ∧ Shows s os₁ ms ∧
    ∀ added s₂ os₂, (∀ m ∈ added, m.length ≤ 65535) → addAll s added os₁ = some (s₂, os₂) →
      ∃ s₃ os₃, reopen s₂ os₂ = some (none, s₃, os₃) ∧ Shows s₃ os₃ (ms ++ added)

/-- The cut lies between two records, or at either end of the file. -/
def BetweenRecords (ms : List Bytes) (cut : Nat) : Prop :=
  ∃ k ≤ ms.length, cut = (stored (ms.take k)).length

theorem Stores.shows {s : FileStore} {os : Os} {ms : List Bytes} (h : Stores s os ms)
    (hok : os.NoFailure) : Shows s os ms := by
  refine ⟨h.nextSequenceNumber, fun messages hne => ?_⟩
  have hpos : 1 ≤ ms.length := List.length_pos_iff.mpr hne
  obtain ⟨os', hr, -⟩ := get_spec h hok (Nat.le_refl 1) hpos (Nat.le_refl _) messages
  refine ⟨os', ?_⟩
  rw [hr, Nat.sub_self, List.drop_zero, List.take_of_length_le (by omega)]

theorem addAll_spec (ms : List Bytes) (hms : ∀ m ∈ ms, Short m) :
    ∀ {s : FileStore} {os : Os} {before : List Bytes}, Stores s os before → os.NoFailure →
      ∃ s' os', addAll s ms os = some (s', os') ∧ Stores s' os' (before ++ ms) ∧ os'.NoFailure ∧
        s'.filename = s.filename := by
  induction ms with
  | nil =>
    intro s os before h hok
    exact ⟨s, os, rfl, by simpa using h, hok, rfl⟩
  | cons m ms ih =>
    intro s os before h hok
    obtain ⟨s₁, os₁, hr₁, hs₁, hn₁, hsched⟩ := add_spec h hok (hms m List.mem_cons_self)
    obtain ⟨s₂, os₂, hr₂, hs₂, hok₂, hn₂⟩ :=
      ih (fun x hx => hms x (List.mem_cons_of_mem _ hx)) hs₁ (hok.suffix hsched)
    refine ⟨s₂, os₂, by simp only [addAll, hr₁, hr₂], ?_, hok₂, hn₂.trans hn₁⟩
    rwa [List.append_assoc, List.singleton_append] at hs₂

/-- Filling a new store always succeeds. -/
theorem fill_spec (path : String) (ms : List Bytes) (hms : ∀ m ∈ ms, Short m) (os : Os)
    (hok : os.NoFailure) (hnew : os.files path = none) :
    ∃ os', fill path ms os = some os' ∧ os'.files path = some (stored ms) := by
  obtain ⟨s, os₁, hr₁, hs₁, hn, hsched⟩ := openStore_missing path os hok hnew
  obtain ⟨s₂, os₂, hr₂, hs₂, -, hn₂⟩ := addAll_spec ms hms hs₁ (hok.suffix hsched)
  refine ⟨os₂, by simp only [fill, hr₁, hr₂, Option.map_some], ?_⟩
  rw [← hn, ← hn₂]
  exact hs₂.file

/-! ## Where the cut falls -/

/-- What a cut leaves: the complete records, and what is torn off the next one. -/
theorem stored_take (ms : List Bytes) :
    ∀ cut, cut ≤ (stored ms).length → ∃ torn,
      (stored ms).take cut = stored (ms.take (complete ms cut)) ++ torn ∧
      cut = (stored (ms.take (complete ms cut))).length + torn.length := by
  induction ms with
  | nil => intro cut hc; exact ⟨[], by simp, by simpa using hc⟩
  | cons m ms ih =>
    intro cut hc
    rw [stored_cons, List.length_append, length_record] at hc
    by_cases hfit : 2 + m.length ≤ cut
    · obtain ⟨torn, htake, hlen⟩ := ih (cut - (2 + m.length)) (by omega)
      refine ⟨torn, ?_, ?_⟩
      · simp only [complete, hfit, ↓reduceIte, List.take_succ_cons, stored_cons, List.take_append,
          length_record, htake, List.append_assoc]
        rw [List.take_of_length_le (by rw [length_record]; exact hfit)]
      · simp only [complete, hfit, ↓reduceIte, List.take_succ_cons, stored_cons, List.length_append,
          length_record]
        omega
    · refine ⟨(record m).take cut, ?_, ?_⟩
      · simp only [complete, hfit, ↓reduceIte, List.take_zero, stored_nil, List.nil_append, stored_cons]
        rw [List.take_append_of_le_length (by rw [length_record]; omega)]
      · simp [complete, hfit, Nat.min_eq_left (show cut ≤ 2 + m.length by omega)]

theorem complete_le (ms : List Bytes) (cut : Nat) : complete ms cut ≤ ms.length := by
  induction ms generalizing cut with
  | nil => exact Nat.le_refl 0
  | cons m ms ih =>
    unfold complete
    split
    · exact Nat.succ_le_succ (ih _)
    · exact Nat.zero_le _

theorem complete_stored_take (ms : List Bytes) :
    ∀ k, k ≤ ms.length → complete ms (stored (ms.take k)).length = k := by
  induction ms with
  | nil => intro k hk; simpa [complete, eq_comm] using hk
  | cons m ms ih =>
    intro k hk
    cases k with
    | zero => simp [complete]
    | succ k =>
      have := ih k (Nat.le_of_succ_le_succ hk)
      simp only [List.take_succ_cons, stored_cons, List.length_append, length_record, complete]
      rw [if_pos (by omega), Nat.add_sub_cancel_left, this]

/-! ## Recovery -/

/-- Between two records the store recovers: the file is that of a smaller store. -/
theorem recovered_of_stored (path : String) (os : Os) (hok : os.NoFailure) {ms : List Bytes}
    (hms : ∀ m ∈ ms, Short m) (hf : os.files path = some (stored ms)) : Recovered path os ms := by
  obtain ⟨s, os₁, hr₁, hs₁, -, hl₁⟩ := openStore_stores path os hok hms hf
  have hok₁ := hok.suffix hl₁.schedule
  refine ⟨s, os₁, hr₁, hs₁.shows hok₁, ?_⟩
  intro added s₂ os₂ hadded hadd
  obtain ⟨s₂', os₂', hr₂, hs₂, hok₂, -⟩ :=
    addAll_spec added (fun m hm => Nat.lt_succ_of_le (hadded m hm)) hs₁ hok₁
  rw [hadd] at hr₂
  cases hr₂
  obtain ⟨s₃, os₃, hr₃, hs₃, -, hl₃⟩ := reopen_spec hs₂ hok₂
  exact ⟨s₃, os₃, hr₃, hs₃.shows (hok₂.suffix hl₃.schedule)⟩

/-- `s` was opened on a file with `tail` behind the records of `ms`: besides
the messages it counts what the scan makes of `tail`. -/
structure OpenBehind (s : FileStore) (os : Os) (ms : List Bytes) (tail : Bytes) : Prop where
  fd : s.fd = some s.filename
  file : os.files s.filename = some (stored ms ++ tail)
  offsets : ∃ fuel, s.offsets = starts 0 ms ++
    scan (stored ms ++ tail) (fuel + tail.length + 1) (stored ms).length

theorem openStore_behind (path : String) (os : Os) (hok : os.NoFailure) {ms : List Bytes}
    (hms : ∀ m ∈ ms, Short m) {tail : Bytes} (hf : os.files path = some (stored ms ++ tail)) :
    ∃ s os₁, openStore { filename := path } os = some (none, s, os₁) ∧ s.filename = path ∧
      OpenBehind s os₁ ms tail ∧ os.Later os₁ := by
  obtain ⟨os₁, hr, hl⟩ := openStore_existing { filename := path } os hok hf
  refine ⟨_, os₁, hr, rfl, ⟨rfl, by rw [hl.files]; exact hf, ?_⟩, hl⟩
  obtain ⟨fuel, hfuel⟩ := Nat.exists_eq_add_of_le (length_le_stored ms)
  have hscan := scan_records ms hms [] tail (fuel + tail.length + 1)
  simp only [List.nil_append, List.length_nil, Nat.zero_add] at hscan
  have hlen : (stored ms ++ tail).length + 1 = ms.length + (fuel + tail.length + 1) := by
    rw [List.length_append]
    omega
  exact ⟨fuel, by rw [hlen, List.nil_append, hscan]⟩

theorem length_scan_pos (file : Bytes) (fuel off : Nat) (h : off + 2 ≤ file.length) :
    0 < (scan file (fuel + 1) off).length := by
  rw [scan, if_neg (by rw [List.length_drop]; omega)]
  exact Nat.succ_pos _

/-- A whole length is left behind the records: one message too many is counted. -/
theorem OpenBehind.counts_torn {s : FileStore} {os : Os} {ms : List Bytes} {tail : Bytes}
    (h : OpenBehind s os ms tail) (htwo : 2 ≤ tail.length) : ¬ Shows s os ms := by
  rintro ⟨hnext, -⟩
  obtain ⟨fuel, hoff⟩ := h.offsets
  have hpos := length_scan_pos (stored ms ++ tail) (fuel + tail.length) (stored ms).length
    (by rw [List.length_append]; omega)
  rw [FileStore.nextSequenceNumber, hoff, List.length_append, length_starts] at hnext
  omega

/-- The first message counted starts the file. -/
theorem OpenBehind.first {s : FileStore} {os : Os} {ms : List Bytes} {tail : Bytes}
    (h : OpenBehind s os ms tail) (htwo : 2 ≤ tail.length) : s.offsets.getD 0 0 = 0 := by
  obtain ⟨fuel, hoff⟩ := h.offsets
  cases ms with
  | nil =>
    rw [hoff, stored_nil, starts, List.nil_append, List.nil_append, scan,
      if_neg (by rw [List.length_nil, List.drop_zero]; omega)]
    rfl
  | cons m ms => rw [hoff]; rfl

/-- A byte `b` was left behind the records, and the message `[0]` was added
behind it. The length is then read one byte too early. -/
theorem OpenBehind.misreads {s : FileStore} {os : Os} {ms : List Bytes} {b : UInt8}
    (h : OpenBehind s os ms [b, 0, 1, 0]) (hok : os.NoFailure) (hms : ∀ m ∈ ms, Short m) :
    ¬ Shows s os (ms ++ [[0]]) := by
  rintro ⟨hnext, hget⟩
  by_cases hb : b = 0
  · -- `b` and the high byte of the new length make an empty message, and a third follows
    subst hb
    obtain ⟨fuel, hoff⟩ := h.offsets
    have hdrop : (stored ms ++ [0, 0, 1, 0]).drop (stored ms).length = [0, 0, 1, 0] := List.drop_left
    have hpos := length_scan_pos (stored ms ++ [0, 0, 1, 0]) (fuel + 3) ((stored ms).length + 2)
      (by simp)
    have hscan : scan (stored ms ++ [0, 0, 1, 0]) (fuel + 4 + 1) (stored ms).length =
        (stored ms).length ::
          scan (stored ms ++ [0, 0, 1, 0]) (fuel + 3 + 1) ((stored ms).length + 2) := by
      rw [scan, hdrop]
      rfl
    rw [FileStore.nextSequenceNumber, hoff, List.length_append, length_starts] at hnext
    simp only [List.length_append, List.length_cons, List.length_nil] at hnext
    rw [hscan, List.length_cons] at hnext
    omega
  · -- `b` is the high byte of a length that goes beyond the end of the file
    have hbig : 256 ≤ readBe16 [b, 0, 1, 0] := by
      have hb' : b.toNat ≠ 0 := fun h => hb (UInt8.toNat_inj.mp h)
      simp only [readBe16]
      omega
    obtain ⟨os₁, hg⟩ := hget [] (by simp)
    have hc : os.contents s.filename = stored ms ++ [b, 0, 1, 0] := by simp [Os.contents, h.file]
    obtain ⟨os₂, hg₂, hl₂, ho₂⟩ := getLoop_records h.fd ms hms 1 [] [b, 0, 1, 0] []
      { os with offset := 0 } hok hc rfl
    obtain ⟨os₃, hg₃⟩ := getMessage_torn h.fd ((hok : Os.NoFailure { os with offset := 0 }).suffix
      hl₂.schedule) (by rw [hl₂.contents]; exact hc) ho₂ (by simp)
      (by simp only [List.length_cons, List.length_nil]; omega)
    have hlen : (ms ++ [[0]]).length = ms.length + 1 := by simp
    have hoff : s.offsets.length = ms.length + 1 := by
      rw [FileStore.nextSequenceNumber, hlen] at hnext
      omega
    rw [get, hlen, if_neg (by omega), if_neg (by omega)] at hg
    simp only [h.fd, Os.seekSet, Os.seek, Nat.sub_self, h.first (by simp), Nat.add_sub_cancel] at hg
    rw [hg₂] at hg
    simp only [getLoop, hg₃, Option.some.injEq, Prod.mk.injEq, reduceCtorEq, false_and] at hg

theorem not_recovered_of_torn_payload (path : String) (os : Os) (hok : os.NoFailure)
    {ms : List Bytes} (hms : ∀ m ∈ ms, Short m) {torn : Bytes} (htwo : 2 ≤ torn.length)
    (hf : os.files path = some (stored ms ++ torn)) : ¬ Recovered path os ms := by
  rintro ⟨s, os₁, hr, hshow, -⟩
  obtain ⟨s', os₁', hr', -, hb, -⟩ := openStore_behind path os hok hms hf
  rw [hr'] at hr
  cases hr
  exact hb.counts_torn htwo hshow

/-- One byte of a length is left: the store opens as it should, but the next
message is written behind that byte. -/
theorem not_recovered_of_torn_length (path : String) (os : Os) (hok : os.NoFailure)
    {ms : List Bytes} (hms : ∀ m ∈ ms, Short m) (b : UInt8)
    (hf : os.files path = some (stored ms ++ [b])) : ¬ Recovered path os ms := by
  rintro ⟨s, os₁, hr, -, hadd⟩
  obtain ⟨s', os₁', hr', hn, hb, hl₁⟩ := openStore_behind path os hok hms hf
  rw [hr'] at hr
  cases hr
  obtain ⟨os₂, hr₂, hf₂, hsched₂⟩ := add_appends hb.fd hb.file (hok.suffix hl₁.schedule) [0]
  have hok₂ := (hok.suffix hl₁.schedule).suffix hsched₂
  obtain ⟨s₃, os₃, hr₃, hshow⟩ := hadd [[0]]
    { s with offsets := s.offsets ++ [(stored ms ++ [b]).length] } os₂ (by simp)
    (by simp only [addAll, hr₂])
  obtain ⟨os₂', hc, hlc⟩ :=
    closeStore_spec { s with offsets := s.offsets ++ [(stored ms ++ [b]).length] } os₂ hok₂
  have hok₂' := hok₂.suffix hlc.schedule
  have hf₂' : os₂'.files s.filename = some (stored ms ++ [b, 0, 1, 0]) := by
    rw [hlc.files, hf₂, List.append_assoc]
    rfl
  obtain ⟨s₃', os₃', hr₃', -, hb₃, hl₃⟩ := openStore_behind s.filename os₂' hok₂' hms hf₂'
  simp only [reopen, hc, hr₃', Option.some.injEq, Prod.mk.injEq, true_and] at hr₃
  obtain ⟨rfl, rfl⟩ := hr₃
  exact hb₃.misreads (hok₂'.suffix hl₃.schedule) hms hshow

/-- **A store recovers exactly from a cut between two records.** Fill a new
store with any messages and cut its file anywhere; interruptions and short
transfers may occur throughout. -/
theorem recovers_iff_cut_between_records (path : String) (ms : List Bytes)
    (hms : ∀ m ∈ ms, m.length ≤ 65535) (os : Os) (hok : os.NoFailure) (hnew : os.files path = none) :
    ∃ os₁, fill path ms os = some os₁ ∧
      ∀ cut ≤ (os₁.contents path).length, ∀ schedule, (∀ e, Outcome.failed e ∉ schedule) →
        (Recovered path (crash os₁ path cut schedule) (ms.take (complete ms cut)) ↔
          BetweenRecords ms cut) := by
  have hshort : ∀ m ∈ ms, Short m := fun m hm => Nat.lt_succ_of_le (hms m hm)
  obtain ⟨os₁, hfill, hfile⟩ := fill_spec path ms hshort os hok hnew
  refine ⟨os₁, hfill, fun cut hcut schedule hsched => ?_⟩
  have hc : os₁.contents path = stored ms := by simp [Os.contents, hfile]
  rw [hc] at hcut
  obtain ⟨torn, htake, hlen⟩ := stored_take ms cut hcut
  have hok₁ : (crash os₁ path cut schedule).NoFailure := hsched
  have hdone : ∀ m ∈ ms.take (complete ms cut), Short m :=
    fun m hm => hshort m (List.mem_of_mem_take hm)
  have hf : (crash os₁ path cut schedule).files path =
      some (stored (ms.take (complete ms cut)) ++ torn) := by
    simp [crash, hc, htake]
  constructor
  · intro hrec
    by_cases hnil : torn = []
    · refine ⟨complete ms cut, complete_le ms cut, ?_⟩
      rwa [hnil, List.length_nil, Nat.add_zero] at hlen
    · exfalso
      cases torn with
      | nil => exact hnil rfl
      | cons b torn =>
        cases torn with
        | nil => exact not_recovered_of_torn_length path _ hok₁ hdone b hf hrec
        | cons a torn => exact not_recovered_of_torn_payload path _ hok₁ hdone (by simp) hf hrec
  · rintro ⟨k, hk, rfl⟩
    rw [complete_stored_take ms k hk] at hlen hf hdone ⊢
    have hnil : torn = [] := List.eq_nil_of_length_eq_zero (by omega)
    rw [hnil, List.append_nil] at hf
    exact recovered_of_stored path _ hok₁ hdone hf

theorem recovers_iff_cut_between_records_two :
    ∃ os₁, fill "store" [[7], [8, 9]] (blankDisk [.interrupted, .short 1]) = some os₁ ∧
      ∀ cut ≤ (os₁.contents "store").length, ∀ schedule, (∀ e, Outcome.failed e ∉ schedule) →
        (Recovered "store" (crash os₁ "store" cut schedule)
            (([[7], [8, 9]] : List Bytes).take (complete [[7], [8, 9]] cut)) ↔
          BetweenRecords [[7], [8, 9]] cut) :=
  recovers_iff_cut_between_records "store" [[7], [8, 9]] (by simp) _
    (by intro e he; simp [blankDisk] at he) rfl

/-- One message `[7, 9]`, cut off inside its payload: no record is complete, and
yet the reopened store says that the next message will be its second. -/
theorem torn_message_counted :
    ∃ os₁, fill "store" [[7, 9]] (blankDisk []) = some os₁ ∧
      complete [[7, 9]] 3 = 0 ∧ ¬ Recovered "store" (crash os₁ "store" 3 []) [] := by
  refine ⟨_, rfl, rfl, ?_⟩
  rintro ⟨s, os, hr, hshow, -⟩
  cases hr
  exact absurd hshow.1 (by decide)

end SoupBin.FileStore
