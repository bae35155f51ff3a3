import Mathlib.Data.List.Basic

/-!
# Lists that grow at their end

Places in such a list, and machines that read it.
-/

namespace SoupBin.Traces
variable {α β : Type}

/-! ## Places -/

/-- A place in a longer list is its end, or a place in the shorter one. -/
theorem split_concat {l before after : List α} {e x : α}
    (h : l ++ [e] = before ++ x :: after) :
    (before = l ∧ x = e ∧ after = []) ∨ ∃ rest, after = rest ++ [e] ∧ l = before ++ x :: rest := by
  rcases List.eq_nil_or_concat' after with rfl | ⟨rest, last, rfl⟩
  · obtain ⟨rfl, hlast⟩ := List.append_inj' h rfl
    cases hlast
    exact Or.inl ⟨rfl, rfl, rfl⟩
  · have h' : l ++ [e] = (before ++ x :: rest) ++ [last] := by
      rw [h]
      simp
    obtain ⟨rfl, hlast⟩ := List.append_inj' h' rfl
    cases hlast
    exact Or.inr ⟨rest, rfl, rfl⟩

/-- Where each of a list comes once, it stands in one place. -/
theorem split_unique {f : α → Option β} {l before before' after after' : List α} {a a' : α}
    {b : β} (hnodup : (l.filterMap f).Nodup) (h : l = before ++ a :: after)
    (h' : l = before' ++ a' :: after') (ha : f a = some b) (ha' : f a' = some b) :
    before = before' := by
  have hnot {front between rest : List α} {a a' : α} (heq : l = front ++ a :: between ++ a' :: rest)
      (ha : f a = some b) (ha' : f a' = some b) : False := by
    rw [heq, List.filterMap_append, List.filterMap_append, List.filterMap_cons_some ha,
      List.filterMap_cons_some ha', List.nodup_append] at hnodup
    exact hnodup.2.2 b (by simp) b (by simp) rfl
  rcases List.append_eq_append_iff.mp (h.symm.trans h') with ⟨c, rfl, hc⟩ | ⟨c, rfl, hc⟩
  · cases c with
    | nil => rw [List.append_nil]
    | cons d c =>
      obtain ⟨rfl, rfl⟩ := List.cons.inj hc
      exact (hnot h' ha ha').elim
  · cases c with
    | nil => rw [List.append_nil]
    | cons d c =>
      obtain ⟨rfl, rfl⟩ := List.cons.inj hc
      exact (hnot h ha' ha).elim

/-! ## Machines -/

/-- A machine with states `σ`, and what it puts out for each element that it reads. -/
structure Machine (σ α β : Type) where
  next : σ → α → σ
  out : σ → α → List β

namespace Machine
variable {σ : Type} (M : Machine σ α β)

def state (s : σ) (l : List α) : σ := l.foldl M.next s

def output (s : σ) : List α → List β
  | [] => []
  | a :: l => M.out s a ++ output (M.next s a) l

theorem state_append (s : σ) (l more : List α) :
    M.state s (l ++ more) = M.state (M.state s l) more := List.foldl_append

theorem output_append (s : σ) (l more : List α) :
    M.output s (l ++ more) = M.output s l ++ M.output (M.state s l) more := by
  induction l generalizing s with
  | nil => rfl
  | cons a l ih =>
    rw [List.cons_append, output, ih, output, List.append_assoc]
    rfl

theorem state_concat (s : σ) (l : List α) (a : α) :
    M.state s (l ++ [a]) = M.next (M.state s l) a := M.state_append s l [a]

theorem output_concat (s : σ) (l : List α) (a : α) :
    M.output s (l ++ [a]) = M.output s l ++ M.out (M.state s l) a := by
  rw [output_append, output, output, List.append_nil]

/-- What has been put out is not taken back. -/
theorem output_stays (s : σ) {l l' : List α} (h : l <+: l') : M.output s l <+: M.output s l' := by
  obtain ⟨more, rfl⟩ := h
  rw [output_append]
  exact List.prefix_append _ _

/-- Elements that mean nothing in the state in which they are read. -/
theorem skips {s : σ} {l more : List α}
    (h : ∀ a ∈ more, M.next (M.state s l) a = M.state s l ∧ M.out (M.state s l) a = []) :
    M.state s (l ++ more) = M.state s l ∧ M.output s (l ++ more) = M.output s l := by
  rw [state_append, output_append]
  generalize M.state s l = u at h
  induction more with
  | nil => exact ⟨rfl, List.append_nil _⟩
  | cons a more ih =>
    obtain ⟨hnext, hout⟩ := h a List.mem_cons_self
    obtain ⟨hstate, houtput⟩ := ih fun b hb => h b (List.mem_cons_of_mem a hb)
    constructor
    · rw [state, List.foldl_cons, hnext]
      exact hstate
    · rw [output, hnext, hout, List.nil_append]
      exact houtput

end Machine

end SoupBin.Traces
