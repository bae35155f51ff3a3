import SoupBin.FileStoreCrash

/-!
# An add that fails

A write may fail after any number of bytes, in the length or in the message.
The record of the message is then cut short in the file, but `add` has entered
its offset already, so the store counts a message it does not hold.
-/

namespace SoupBin.FileStore
open Records

/-- The store shows `ms`; and the next message that is added is found under the
next number, at once and after reopening. Calls meet no failure meanwhile. -/
def Unharmed (s : FileStore) (os : Os) (ms : List Bytes) : Prop :=
  ∀ schedule, (∀ e, Outcome.failed e ∉ schedule) →
    Shows s { os with schedule := schedule } ms ∧
    ∀ m s₁ os₁, m.length ≤ 65535 →
      s.add m { os with schedule := schedule } = some (none, s₁, os₁) →
      (∃ os₂, s₁.get (ms.length + 1) (ms.length + 1) [] os₁ = some (none, [m], os₂)) ∧
      ∃ s₂ os₂ os₃, reopen s₁ os₁ = some (none, s₂, os₂) ∧
        s₂.get (ms.length + 1) (ms.length + 1) [] os₂ = some (none, [m], os₃)

/-- The messages that were there can still be read. -/
theorem failed_add_keeps_messages {s s' : FileStore} {os os' : Os} {ms : List Bytes}
    (h : Stores s os ms) {m : Bytes} {e : Errno} (hadd : s.add m os = some (some e, s', os'))
    (hok : os'.NoFailure) {first last : Nat} (hf : 1 ≤ first) (hl : first ≤ last)
    (hn : last ≤ ms.length) (messages : List Bytes) :
    ∃ os₁, s'.get first last messages os' =
      some (none, messages ++ (ms.drop (first - 1)).take (last - first + 1), os₁) := by
  obtain ⟨ec, n, os'', hr, hfile, -⟩ := add_returns h.fd h.file m
  rw [hr] at hadd
  cases hadd
  let wanted := (ms.drop (first - 1)).take (last - first + 1)
  let rest := (ms.drop (first - 1)).drop (last - first + 1)
  have hlen : wanted.length = last - first + 1 := by
    simp only [wanted, List.length_take, List.length_drop]
    omega
  have hsplit : ms = ms.take (first - 1) ++ (wanted ++ rest) := by
    simp only [wanted, rest, List.take_append_drop]
  have hoff : s.offsets.length = ms.length := by rw [h.offsets, length_starts]
  have hstart : (s.offsets ++ [(stored ms).length]).getD (first - 1) 0 =
      (stored (ms.take (first - 1))).length := by
    rw [List.getD_eq_getElem?_getD, List.getElem?_append_left (by omega),
      ← List.getD_eq_getElem?_getD, h.offsets, starts_getD 0 ms (by omega), Nat.zero_add]
  have hc : os'.contents s.filename =
      stored (ms.take (first - 1)) ++ (stored wanted ++ (stored rest ++ (record m).take n)) := by
    rw [← List.append_assoc (stored wanted), ← List.append_assoc, ← stored_append, ← stored_append,
      ← hsplit]
    rw [Os.contents, hfile, Function.update_self, Option.getD_some]
  obtain ⟨os₁, hr₁, -, -⟩ := getLoop_records (s := { s with
      offsets := s.offsets ++ [(stored ms).length] }) h.fd wanted
    (fun x hx => h.short x (List.mem_of_mem_drop (List.mem_of_mem_take hx))) 0
    (stored (ms.take (first - 1))) _ messages
    { os' with offset := (stored (ms.take (first - 1))).length } hok hc rfl
  refine ⟨os₁, ?_⟩
  rw [hlen, Nat.add_zero] at hr₁
  rw [get, if_neg (by simp only [List.length_append, List.length_singleton]; omega),
    if_neg (by simp only [List.length_append, List.length_singleton]; omega)]
  simp only [h.fd] at hr₁
  simp only [h.fd, Os.seekSet, Os.seek, hstart, hr₁]
  rfl

/-- **No failed add leaves the store as it was.** The store counts one message
more than it holds, however many bytes were written. -/
theorem failed_add_harms {s s' : FileStore} {os os' : Os} {ms : List Bytes} (h : Stores s os ms)
    {m : Bytes} {e : Errno} (hadd : s.add m os = some (some e, s', os')) :
    s'.nextSequenceNumber = ms.length + 2 ∧ ¬Unharmed s' os' ms := by
  obtain ⟨ec, n, os'', hr, -⟩ := add_returns h.fd h.file m
  rw [hr] at hadd
  cases hadd
  have hnext : ({ s with offsets := s.offsets ++ [(stored ms).length] } :
      FileStore).nextSequenceNumber = ms.length + 2 := by
    rw [FileStore.nextSequenceNumber, List.length_append, h.offsets, length_starts,
      List.length_singleton]
  refine ⟨hnext, ?_⟩
  intro hunharmed
  obtain ⟨⟨hshown, -⟩, -⟩ := hunharmed [] (by simp)
  rw [hnext] at hshown
  omega

/-- An empty store, and a write that fails at once. -/
def emptyStore : FileStore := { filename := "store", fd := some "store" }

def fullDisk : Os :=
  { files := fun path => if path = "store" then some [] else none, schedule := [.failed EIO] }

/-- Two messages, and room for three bytes more. -/
def twoMessages : List Bytes := [[1], [2, 3]]

def twoStore : FileStore := { emptyStore with offsets := starts 0 twoMessages }

def fillingDisk : Os :=
  { files := fun path => if path = "store" then some (stored twoMessages) else none
    schedule := [.short 2, .short 1, .failed EIO] }

theorem failed_add_harms_cut_short :
    (∃ s' os', emptyStore.add [7] fullDisk = some (some EIO, s', os') ∧
      s'.nextSequenceNumber = 2 ∧ ¬Unharmed s' os' []) ∧
    ∃ s' os', twoStore.add [7, 8] fillingDisk = some (some EIO, s', os') ∧
      os'.contents "store" = stored twoMessages ++ [0, 2, 7] ∧
      s'.nextSequenceNumber = 4 ∧ ¬Unharmed s' os' twoMessages := by
  have hempty : Stores emptyStore fullDisk [] := ⟨rfl, rfl, rfl, by simp⟩
  have htwo : Stores twoStore fillingDisk twoMessages := by
    refine ⟨rfl, rfl, rfl, fun m hm => ?_⟩
    simp only [twoMessages, List.mem_cons, List.not_mem_nil, or_false] at hm
    rcases hm with rfl | rfl <;> simp [Short]
  exact ⟨⟨_, _, rfl, failed_add_harms (m := [7]) hempty rfl⟩,
    _, _, rfl, rfl, failed_add_harms (m := [7, 8]) htwo rfl⟩

/-- The first add fails before it has written a byte: the next message is called
the second. -/
theorem failed_add_counted :
    ∃ s os s' os', Stores s os [] ∧ s.add [7] os = some (some EIO, s', os') ∧
      s'.nextSequenceNumber = 2 ∧ ¬Unharmed s' os' [] := by
  refine ⟨emptyStore, fullDisk, { emptyStore with offsets := [0] }, _,
    ⟨rfl, rfl, rfl, by simp⟩, rfl, rfl, ?_⟩
  intro hunharmed
  have hshown := (hunharmed [] (by simp)).1.1
  exact absurd hshown (by decide)

end SoupBin.FileStore
