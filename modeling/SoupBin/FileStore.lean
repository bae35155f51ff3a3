import SoupBin.Records
import Mathlib.Logic.Function.Basic

/-!
# The message store

`File_store` appends messages to one file, each behind its length in two
bytes, and keeps the offset at which every message starts. The operating
system is a state too: the files, the offset of the open descriptor, `errno`,
and a schedule of what the next calls will meet. After the schedule runs out
every call is served at once and in full.
-/

namespace SoupBin.FileStore
open Records

abbrev Errno := Nat

def EINTR : Errno := 4
def ENOENT : Errno := 2
def EIO : Errno := 5
def EBADF : Errno := 9
def EINVAL : Errno := 22

/-- What one call to `open`, `close`, `read` or `write` meets. -/
inductive Outcome where
  | interrupted
  | failed (errno : Errno)
  | short (limit : Nat)
  deriving DecidableEq, Repr

/-- The store holds one descriptor at a time, so the file offset of that
descriptor is kept beside the files. -/
structure Os where
  files : String → Option Bytes
  offset : Nat := 0
  errno : Errno := 0
  schedule : List Outcome := []

/-- A file descriptor: the path it was opened on, `none` for -1. -/
abbrev Fd := Option String

namespace Os

def contents (os : Os) (path : String) : Bytes := (os.files path).getD []

def fail (os : Os) (e : Errno) : Option α × Os := (none, { os with errno := e })

/-- Serve one call, as far as the schedule lets it: `serve` is told how many
bytes the call may move at most, if there is a limit. -/
def call (os : Os) (serve : Option Nat → Os → Option α × Os) : Option α × Os :=
  match os.schedule with
  | [] => serve none os
  | .interrupted :: rest => { os with schedule := rest }.fail EINTR
  | .failed e :: rest => { os with schedule := rest }.fail e
  | .short limit :: rest => serve (some limit) { os with schedule := rest }

/-- `::open`, with or without `O_CREAT`. -/
def openFile (path : String) (create : Bool) (os : Os) : Option String × Os :=
  os.call fun _ os =>
    match os.files path with
    | some _ => (some path, { os with offset := 0 })
    | none =>
      if create then
        (some path, { os with files := Function.update os.files path (some []), offset := 0 })
      else os.fail ENOENT

/-- `::close`. -/
def closeFile (fd : Fd) (os : Os) : Option Unit × Os :=
  os.call fun _ os =>
    match fd with
    | none => os.fail EBADF
    | some _ => (some (), os)

/-- `::read`: at least one byte unless the offset is at or past the end. -/
def read (fd : Fd) (nbyte : Nat) (os : Os) : Option Bytes × Os :=
  os.call fun limit os =>
    match fd with
    | none => os.fail EBADF
    | some path =>
      let bytes := ((os.contents path).drop os.offset).take
        (match limit with
          | none => nbyte
          | some l => min nbyte (l + 1))
      (some bytes, { os with offset := os.offset + bytes.length })

/-- The bytes of a file after `data` is written at `off`. -/
def overwrite (file : Bytes) (off : Nat) (data : Bytes) : Bytes :=
  file.take off ++ List.replicate (off - file.length) 0 ++ data ++ file.drop (off + data.length)

/-- `::write`: any number of bytes, none included. -/
def write (fd : Fd) (data : Bytes) (os : Os) : Option Nat × Os :=
  os.call fun limit os =>
    match fd with
    | none => os.fail EBADF
    | some path =>
      let moved := data.take (limit.getD data.length)
      (some moved.length,
        { os with
          files := Function.update os.files path
            (some (overwrite (os.contents path) os.offset moved))
          offset := os.offset + moved.length })

/-- `lseek` to an absolute offset. -/
def seek (fd : Fd) (target : Os → Nat) (os : Os) : Option Nat × Os :=
  match fd with
  | none => os.fail EBADF
  | some _ => (some (target os), { os with offset := target os })

def seekSet (fd : Fd) (off : Nat) (os : Os) : Option Nat × Os := os.seek fd fun _ => off

def seekCur (fd : Fd) (size : Nat) (os : Os) : Option Nat × Os := os.seek fd fun os => os.offset + size

def seekEnd (fd : Fd) (os : Os) : Option Nat × Os :=
  os.seek fd fun os => (os.contents (fd.getD "")).length

end Os

/-! ## `detail`: calls that are interrupted or cut short -/

/-- `while_interrupted`. `none`: still looping when the fuel is used up. -/
def whileInterrupted (callable : Os → Option α × Os) : Nat → Os → Option (Option α × Os)
  | 0, _ => none
  | fuel + 1, os =>
    match callable os with
    | (some a, os) => some (some a, os)
    | (none, os) =>
      if os.errno = EINTR then whileInterrupted callable fuel os else some (none, os)

inductive ReadStatus where
  | success
  | endOfFile
  | failure
  deriving DecidableEq, Repr

inductive WriteStatus where
  | success
  | failure
  deriving DecidableEq, Repr

/-- `Rw_result`. -/
structure RwResult (Status : Type) where
  status : Status
  nbyte : Nat
  deriving DecidableEq, Repr

/-- `read_partial_handling`: the bytes read so far are in `got`, `left` more
are wanted. The callable returns the bytes it put in the buffer, `none` for -1. -/
def readPartialHandling {σ : Type} (read : Nat → σ → Option (Option Bytes × σ)) :
    Nat → Bytes → Nat → σ → Option (RwResult ReadStatus × Bytes × σ)
  | 0, _, _, _ => none
  | fuel + 1, got, left, s =>
    if left = 0 then some (⟨.success, got.length⟩, got, s)
    else
      match read left s with
      | none => none
      | some (none, s) => some (⟨.failure, got.length⟩, got, s)
      | some (some bytes, s) =>
        if bytes.length = 0 then some (⟨.endOfFile, got.length⟩, got, s)
        else readPartialHandling read fuel (got ++ bytes) (left - bytes.length) s

/-- `write_partial_handling`: `done` bytes are written, `data` is left. -/
def writePartialHandling {σ : Type} (write : Bytes → σ → Option (Option Nat × σ)) :
    Nat → Nat → Bytes → σ → Option (RwResult WriteStatus × σ)
  | 0, _, _, _ => none
  | fuel + 1, done, data, s =>
    if data.length = 0 then some (⟨.success, done⟩, s)
    else
      match write data s with
      | none => none
      | some (none, s) => some (⟨.failure, done⟩, s)
      | some (some n, s) => writePartialHandling write fuel (done + n) (data.drop n) s

/-! ## The file-local wrappers

An interruption or an empty write uses up one entry of the schedule, and every
other round of a loop moves at least one byte: that bounds the fuel. -/

def openFd (path : String) (create : Bool) (os : Os) : Option (Option String × Os) :=
  whileInterrupted (Os.openFile path create) (os.schedule.length + 1) os

def closeFd (fd : Fd) (os : Os) : Option (Option Unit × Os) :=
  whileInterrupted (Os.closeFile fd) (os.schedule.length + 1) os

def read (fd : Fd) (nbyte : Nat) (os : Os) : Option (RwResult ReadStatus × Bytes × Os) :=
  readPartialHandling
    (fun n os => whileInterrupted (Os.read fd n) (os.schedule.length + 1) os) (nbyte + 1) [] nbyte os

def write (fd : Fd) (data : Bytes) (os : Os) : Option (RwResult WriteStatus × Os) :=
  writePartialHandling
    (fun d os => whileInterrupted (Os.write fd d) (os.schedule.length + 1) os)
    (os.schedule.length + data.length + 1) 0 data os

end SoupBin.FileStore

namespace SoupBin
open Records FileStore

/-- `File_store`. `fd = none` is -1. -/
structure FileStore where
  filename : String := ""
  fd : Fd := none
  offsets : List Nat := []

namespace FileStore

/-- `std::error_code`: the `errno` value, `none` for success. -/
abbrev ErrorCode := Option Errno

/-- `File_store::close`. -/
def close (s : FileStore) (os : Os) : Option (ErrorCode × FileStore × Os) :=
  match s.fd with
  | none => some (none, s, os)
  | some _ =>
    match closeFd s.fd os with
    | none => none
    | some (none, os) => some (some os.errno, { s with fd := none }, os)
    | some (some (), os) => some (none, { s with fd := none }, os)

/-- The loop of `File_store::set_offsets`. Every round reads two bytes, so the
length of the file bounds the number of rounds. -/
def setOffsetsLoop (fd : Fd) : Nat → Nat → List Nat → Os → Option (ErrorCode × List Nat × Os)
  | 0, _, _, _ => none
  | fuel + 1, off, offsets, os =>
    match FileStore.read fd 2 os with
    | none => none
    | some (res, sz, os) =>
      match res.status with
      | .failure => some (some os.errno, offsets, os)
      | .endOfFile => some (none, offsets, os)
      | .success =>
        let size := readBe16 sz
        match os.seekCur fd size with
        | (none, os) => some (some os.errno, offsets ++ [off], os)
        | (some off', os) => setOffsetsLoop fd fuel off' (offsets ++ [off]) os

/-- `File_store::set_offsets`. -/
def setOffsets (s : FileStore) (os : Os) : Option (ErrorCode × FileStore × Os) :=
  match setOffsetsLoop s.fd ((os.contents (s.fd.getD "")).length + 1) 0 s.offsets os with
  | none => none
  | some (ec, offsets, os) => some (ec, { s with offsets := offsets }, os)

/-- The second half of `File_store::open`: open to read and append. -/
def openAppend (s : FileStore) (os : Os) : Option (ErrorCode × FileStore × Os) :=
  match openFd s.filename true os with
  | none => none
  | some (none, os) => some (some os.errno, { s with fd := none }, os)
  | some (some path, os) => some (none, { s with fd := some path }, os)

/-- `File_store::open`. -/
def openStore (s : FileStore) (os : Os) : Option (ErrorCode × FileStore × Os) :=
  match openFd s.filename false os with
  | none => none
  | some (none, os) => openAppend { s with fd := none } os
  | some (some path, os) =>
    match setOffsets { s with fd := some path } os with
    | none => none
    | some (ec, s, os) =>
      match s.close os with
      | none => none
      | some (_, s, os) =>
        match ec with
        | some e => some (some e, s, os)
        | none => openAppend s os

/-- `File_store::add`. The offset is recorded before anything is written. -/
def add (s : FileStore) (data : Bytes) (os : Os) : Option (ErrorCode × FileStore × Os) :=
  match os.seekEnd s.fd with
  | (none, os) => some (some os.errno, s, os)
  | (some off, os) =>
    let s := { s with offsets := s.offsets ++ [off] }
    match FileStore.write s.fd (be16 data.length) os with
    | none => none
    | some (⟨.failure, _⟩, os) => some (some os.errno, s, os)
    | some (⟨.success, _⟩, os) =>
      match FileStore.write s.fd data os with
      | none => none
      | some (⟨.failure, _⟩, os) => some (some os.errno, s, os)
      | some (⟨.success, _⟩, os) => some (none, s, os)

/-- `File_store::get(Message&)`: the message at the current offset. -/
def getMessage (s : FileStore) (os : Os) : Option (Except Errno Bytes × Os) :=
  match FileStore.read s.fd 2 os with
  | none => none
  | some (⟨.failure, _⟩, _, os) => some (.error os.errno, os)
  | some (⟨.endOfFile, _⟩, _, os) => some (.error EIO, os)
  | some (⟨.success, _⟩, sz, os) =>
    match FileStore.read s.fd (readBe16 sz) os with
    | none => none
    | some (⟨.failure, _⟩, _, os) => some (.error os.errno, os)
    | some (⟨.endOfFile, _⟩, _, os) => some (.error EIO, os)
    | some (⟨.success, _⟩, message, os) => some (.ok message, os)

/-- The loop of `File_store::get`: `count` messages more, appended to `messages`. -/
def getLoop (s : FileStore) : Nat → List Bytes → Os → Option (ErrorCode × List Bytes × Os)
  | 0, messages, os => some (none, messages, os)
  | count + 1, messages, os =>
    match s.getMessage os with
    | none => none
    | some (.error e, os) => some (some e, messages, os)
    | some (.ok message, os) => getLoop s count (messages ++ [message]) os

/-- `File_store::get(first, last, messages)`. -/
def get (s : FileStore) (first last : Nat) (messages : List Bytes) (os : Os) :
    Option (ErrorCode × List Bytes × Os) :=
  if first < 1 ∨ first > s.offsets.length then some (some EINVAL, messages, os)
  else if last < first ∨ last > s.offsets.length then some (some EINVAL, messages, os)
  else
    match os.seekSet s.fd (s.offsets.getD (first - 1) 0) with
    | (none, os) => some (some os.errno, messages, os)
    | (some _, os) => s.getLoop (last - first + 1) messages os

/-- `File_store::next_sequence_number`. -/
def nextSequenceNumber (s : FileStore) : Nat := s.offsets.length + 1

/-- `File_store::set_filename`. -/
def setFilename (s : FileStore) (filename : String) : FileStore := { s with filename := filename }

end FileStore

end SoupBin
