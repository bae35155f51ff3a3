import SoupBin.FileStoreRecords

/-!
# Runs of the store

A store is used for any number of `add` and `get` calls, and may be closed at
any point and its file opened again by a new object. `session_refines_list`:
every such run returns, and answers exactly as a list of messages would.
-/

namespace SoupBin.FileStore

/-- One use of a store by its owner. `reopen` closes the store and opens its
file again as a new `File_store`. -/
inductive Op where
  | add (m : Bytes)
  | get (first last : Nat) (messages : List Bytes)
  | reopen

/-- What the owner sees of one use: the error code, the result vector of a
`get`, and `next_sequence_number` afterwards. -/
structure Response where
  ec : ErrorCode
  messages : List Bytes
  next : Nat
  deriving DecidableEq, Repr

def reopen (s : FileStore) (os : Os) : Option (ErrorCode × FileStore × Os) :=
  match s.close os with
  | none => none
  | some (_, _, os) => openStore { filename := s.filename } os

def perform (s : FileStore) (os : Os) : Op → Option (Response × FileStore × Os)
  | .add m =>
    match s.add m os with
    | none => none
    | some (ec, s, os) => some (⟨ec, [], s.nextSequenceNumber⟩, s, os)
  | .get first last messages =>
    match s.get first last messages os with
    | none => none
    | some (ec, messages, os) => some (⟨ec, messages, s.nextSequenceNumber⟩, s, os)
  | .reopen =>
    match reopen s os with
    | none => none
    | some (ec, s, os) => some (⟨ec, [], s.nextSequenceNumber⟩, s, os)

def runOps : FileStore → Os → List Op → Option (List Response)
  | _, _, [] => some []
  | s, os, op :: ops =>
    match perform s os op with
    | none => none
    | some (r, s, os) => (runOps s os ops).map (r :: ·)

/-- Open a store on `path` and use it. -/
def session (path : String) (os : Os) (ops : List Op) : Option (List Response) :=
  match openStore { filename := path } os with
  | none => none
  | some (ec, s, os) => (runOps s os ops).map (⟨ec, [], s.nextSequenceNumber⟩ :: ·)

/-! ## The store as it is meant: a list of messages -/

/-- The messages `first` to `last`, counted from 1, if there are such. -/
def slice (ms : List Bytes) (first last : Nat) : Option (List Bytes) :=
  if 1 ≤ first ∧ first ≤ last ∧ last < ms.length + 1 then
    some ((ms.drop (first - 1)).take (last - first + 1))
  else none

def meant (ms : List Bytes) : Op → Response × List Bytes
  | .add m => (⟨none, [], ms.length + 2⟩, ms ++ [m])
  | .get first last messages =>
    match slice ms first last with
    | some found => (⟨none, messages ++ found, ms.length + 1⟩, ms)
    | none => (⟨some EINVAL, messages, ms.length + 1⟩, ms)
  | .reopen => (⟨none, [], ms.length + 1⟩, ms)

def meantRun : List Bytes → List Op → List Response
  | _, [] => []
  | ms, op :: ops => (meant ms op).1 :: meantRun (meant ms op).2 ops

/-- An added message has a length that fits the two bytes of its prefix. -/
def Op.Fits : Op → Prop
  | .add m => m.length ≤ 65535
  | _ => True

theorem reopen_spec {s : FileStore} {os : Os} {ms : List Bytes} (h : Stores s os ms)
    (hok : os.NoFailure) :
    ∃ s' os', reopen s os = some (none, s', os') ∧ Stores s' os' ms ∧
      s'.filename = s.filename ∧ os.Later os' := by
  obtain ⟨os₁, hr₁, hl₁⟩ := closeStore_spec s os hok
  obtain ⟨s₂, os₂, hr₂, hs₂, hn₂, hl₂⟩ := openStore_stores s.filename os₁ (hok.suffix hl₁.schedule)
    h.short (by rw [hl₁.files, h.file])
  exact ⟨s₂, os₂, by simp only [reopen, hr₁, hr₂], hs₂, hn₂, hl₁.trans hl₂⟩

/-- One use of the store answers as the list does, and leaves it holding the list. -/
theorem perform_spec {s : FileStore} {os : Os} {ms : List Bytes} (h : Stores s os ms)
    (hok : os.NoFailure) (op : Op) (hop : op.Fits) :
    ∃ s' os', perform s os op = some ((meant ms op).1, s', os') ∧ Stores s' os' (meant ms op).2 ∧
      os'.NoFailure := by
  cases op with
  | add m =>
    obtain ⟨s', os', hr, hs, -, hsched⟩ := add_spec h hok (Nat.lt_succ_of_le hop)
    refine ⟨s', os', ?_, hs, hok.suffix hsched⟩
    simp only [perform, hr, meant, hs.nextSequenceNumber, List.length_append, List.length_singleton]
  | get first last messages =>
    by_cases hr : 1 ≤ first ∧ first ≤ last ∧ last < ms.length + 1
    · obtain ⟨os', hg, hl⟩ :=
        get_spec h hok hr.1 hr.2.1 (Nat.le_of_lt_succ hr.2.2) messages
      refine ⟨s, os', ?_, ?_, hok.suffix hl.schedule⟩
      · simp only [perform, hg, meant, slice, hr, and_self, ↓reduceIte, h.nextSequenceNumber]
      · simpa only [meant, slice, hr, and_self, ↓reduceIte] using h.later hl
    · have hout : ¬(1 ≤ first ∧ first ≤ last ∧ last ≤ ms.length) := by omega
      have hg := get_out_of_range h hout messages
      refine ⟨s, os, ?_, ?_, hok⟩
      · simp only [perform, hg, meant, slice, hr, ↓reduceIte, h.nextSequenceNumber]
      · simpa only [meant, slice, hr, ↓reduceIte] using h
  | reopen =>
    obtain ⟨s', os', hr, hs, -, hl⟩ := reopen_spec h hok
    refine ⟨s', os', ?_, hs, hok.suffix hl.schedule⟩
    simp only [perform, hr, meant, hs.nextSequenceNumber]

/-- A run of uses answers as the same run on the list. -/
theorem runOps_spec (ops : List Op) (hops : ∀ op ∈ ops, op.Fits) :
    ∀ {s : FileStore} {os : Os} {ms : List Bytes}, Stores s os ms → os.NoFailure →
      runOps s os ops = some (meantRun ms ops) := by
  induction ops with
  | nil => intro _ _ _ _ _; rfl
  | cons op ops ih =>
    intro s os ms h hok
    obtain ⟨s', os', hr, hs, hok'⟩ := perform_spec h hok op (hops op List.mem_cons_self)
    have htail := ih (fun x hx => hops x (List.mem_cons_of_mem _ hx)) hs hok'
    simp only [runOps, hr, htail, meantRun, Option.map_some]

/-- **The store is a list of messages.** Started on a file that does not exist,
and with no failing call but any interruptions and short transfers, every run
of `add`, `get` and reopening returns, and every answer is the list's. -/
theorem session_refines_list (path : String) (os : Os) (hok : os.NoFailure)
    (hnew : os.files path = none) (ops : List Op) (hops : ∀ op ∈ ops, op.Fits) :
    session path os ops = some (⟨none, [], 1⟩ :: meantRun [] ops) := by
  obtain ⟨s, os', hr, hs, -, hsched⟩ := openStore_missing path os hok hnew
  have hrun := runOps_spec ops hops hs (hok.suffix hsched)
  simp only [session, hr, hrun, Option.map_some, hs.nextSequenceNumber, List.length_nil]

/-- A disk on which nothing exists, and calls cut short or interrupted. -/
def blankDisk (schedule : List Outcome) : Os := { files := fun _ => none, schedule := schedule }

theorem session_refines_list_interrupted :
    session "store" (blankDisk [.interrupted, .short 0, .interrupted, .short 1])
        [.add [7, 8, 9], .add [], .reopen, .get 1 2 [], .get 0 1 []] =
      some (⟨none, [], 1⟩ :: meantRun [] [.add [7, 8, 9], .add [], .reopen, .get 1 2 [], .get 0 1 []]) :=
  session_refines_list "store" _ (by intro e he; simp [blankDisk] at he) rfl _
    (by simp [Op.Fits])

end SoupBin.FileStore
