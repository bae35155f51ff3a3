import Mathlib.Data.List.Basic

/-!
# Lifetimes in a log

A place is taken by one thing after the other. Whatever is in it may fail once,
which shuts it, or is shut without a failure; from then on it is silent. A log
says when that happens, and when the place is vacated.
-/

namespace SoupBin.Lifetimes

/-- Nothing is in the place, or something that has not been shut, or something that has. -/
inductive Phase where
  | vacant
  | live
  | shut
  deriving DecidableEq, Repr

/-- What the entries of a log say of the place. -/
structure Reading (α : Type) where
  fails : α → Bool
  shuts : α → Bool
  ends : α → Bool

variable {α : Type}

/-- While the log `l` is written, the place goes from `p` to another phase. -/
inductive Lives (r : Reading α) (p : Phase) : List α → Phase → Prop where
  | refl : Lives r p [] p
  | taken {l : List α} (q : Phase) : Lives r p l .vacant → Lives r p l q
  | shut {l : List α} : Lives r p l .live → Lives r p l .shut
  | told {l : List α} {q : Phase} {e : α} : Lives r p l q → r.fails e = false →
      r.ends e = false → (r.shuts e = true → q ≠ .live) → Lives r p (l ++ [e]) q
  | failed {l : List α} {e : α} : Lives r p l .live → r.fails e = true →
      Lives r p (l ++ [e]) .shut
  | ended {l : List α} {q : Phase} {e : α} : Lives r p l q → r.fails e = false →
      r.ends e = true → Lives r p (l ++ [e]) .vacant

variable {r : Reading α} {p q s : Phase} {l l' : List α}

theorem Lives.trans (h : Lives r p l q) (h' : Lives r q l' s) : Lives r p (l ++ l') s := by
  induction h' with
  | refl => simpa using h
  | taken s _ ih => exact ih.taken s
  | shut _ ih => exact ih.shut
  | told _ hf he hs ih => simpa using ih.told hf he hs
  | failed _ hf ih => simpa using ih.failed hf
  | ended _ hf he ih => simpa using ih.ended hf he

theorem Lives.cons {e : α} (h : Lives r p [e] q) (h' : Lives r q l s) : Lives r p (e :: l) s :=
  h.trans h'

/-- Nothing fails in a place that is vacant. -/
theorem lives_vacant (hl : ∀ e ∈ l, r.fails e = false) : Lives r .vacant l .vacant := by
  induction l with
  | nil => exact .refl
  | cons e l ih =>
    have hf := hl e List.mem_cons_self
    refine Lives.cons ?_ (ih fun e he => hl e (List.mem_cons_of_mem _ he))
    cases he : r.ends e with
    | true => exact Lives.refl.ended hf he
    | false => exact Lives.refl.told hf he fun _ => nofun

/-- Entries that say nothing of the place leave it as it is. -/
theorem lives_untold (hl : ∀ e ∈ l, r.fails e = false ∧ r.ends e = false ∧ r.shuts e = false) :
    Lives r p l p := by
  induction l with
  | nil => exact .refl
  | cons e l ih =>
    obtain ⟨hf, he, hs⟩ := hl e List.mem_cons_self
    refine Lives.cons (Lives.refl.told hf he ?_) (ih fun e he => hl e (List.mem_cons_of_mem _ he))
    exact fun h => absurd (h.symm.trans hs) (by decide)

/-- A place in the log has a phase of its own. -/
theorem Lives.split (h : Lives r p l s) {before after : List α} (hl : l = before ++ after) :
    ∃ q, Lives r p before q ∧ Lives r q after s := by
  have hcut {l before after : List α} {e : α} (hl : l ++ [e] = before ++ after) :
      before = l ++ [e] ∧ after = [] ∨ ∃ rest, after = rest ++ [e] ∧ l = before ++ rest := by
    rcases List.eq_nil_or_concat' after with rfl | ⟨rest, last, rfl⟩
    · exact Or.inl ⟨by simpa using hl.symm, rfl⟩
    · rw [← List.append_assoc] at hl
      obtain ⟨rfl, hlast⟩ := List.append_inj' hl rfl
      cases hlast
      exact Or.inr ⟨rest, rfl, rfl⟩
  induction h generalizing before after with
  | refl =>
    obtain ⟨rfl, rfl⟩ := List.append_eq_nil_iff.mp hl.symm
    exact ⟨p, .refl, .refl⟩
  | taken s _ ih =>
    obtain ⟨q, hbefore, hafter⟩ := ih hl
    exact ⟨q, hbefore, hafter.taken s⟩
  | shut _ ih =>
    obtain ⟨q, hbefore, hafter⟩ := ih hl
    exact ⟨q, hbefore, hafter.shut⟩
  | told h hf he hs ih =>
    rcases hcut hl with ⟨rfl, rfl⟩ | ⟨rest, rfl, rfl⟩
    · exact ⟨_, h.told hf he hs, .refl⟩
    · obtain ⟨q, hbefore, hafter⟩ := ih rfl
      exact ⟨q, hbefore, hafter.told hf he hs⟩
  | failed h hf ih =>
    rcases hcut hl with ⟨rfl, rfl⟩ | ⟨rest, rfl, rfl⟩
    · exact ⟨_, h.failed hf, .refl⟩
    · obtain ⟨q, hbefore, hafter⟩ := ih rfl
      exact ⟨q, hbefore, hafter.failed hf⟩
  | ended h hf he ih =>
    rcases hcut hl with ⟨rfl, rfl⟩ | ⟨rest, rfl, rfl⟩
    · exact ⟨_, h.ended hf he, .refl⟩
    · obtain ⟨q, hbefore, hafter⟩ := ih rfl
      exact ⟨q, hbefore, hafter.ended hf he⟩

/-! ## One lifetime -/

/-- No lifetime ends in `l`. -/
def Within (r : Reading α) (l : List α) : Prop := ∀ e ∈ l, r.ends e = false

theorem within_append : Within r (l ++ l') ↔ Within r l ∧ Within r l' := by
  simp only [Within, List.mem_append]
  constructor
  · exact fun h => ⟨fun e he => h e (Or.inl he), fun e he => h e (Or.inr he)⟩
  · rintro ⟨h, h'⟩ e (he | he)
    · exact h e he
    · exact h' e he

/-- What may be told in one lifetime: one failure, which shuts the place, and none
of a place that is shut already. -/
structure Frugal (r : Reading α) (p : Phase) (l : List α) (q : Phase) : Prop where
  once : l.countP r.fails = 0 ∨ l.countP r.fails = 1 ∧ q = .shut
  shut : p = .shut → l.countP r.fails = 0 ∧ q = .shut
  kept : p ≠ .vacant → q ≠ .vacant

theorem Lives.frugal (h : Lives r p l q) (hl : Within r l) : Frugal r p l q := by
  induction h with
  | refl => exact ⟨Or.inl rfl, fun hp => ⟨rfl, hp⟩, id⟩
  | taken q _ ih =>
    have hf := ih hl
    refine ⟨Or.inl ?_, fun hp => (nomatch (hf.shut hp).2), fun hp => absurd rfl (hf.kept hp)⟩
    rcases hf.once with hnone | ⟨-, hq⟩
    · exact hnone
    · cases hq
  | shut _ ih =>
    have hf := ih hl
    refine ⟨?_, fun hp => (nomatch (hf.shut hp).2), fun _ => nofun⟩
    rcases hf.once with hnone | ⟨-, hq⟩
    · exact Or.inl hnone
    · cases hq
  | told _ hfails _ _ ih =>
    have hf := ih (within_append.mp hl).1
    refine ⟨?_, ?_, hf.kept⟩ <;> rw [List.countP_append, List.countP_singleton, hfails]
    · exact hf.once
    · exact hf.shut
  | @failed l e _ hfails ih =>
    have hf := ih (within_append.mp hl).1
    have hnone : l.countP r.fails = 0 := by
      rcases hf.once with hnone | ⟨-, hq⟩
      · exact hnone
      · cases hq
    refine ⟨Or.inr ⟨?_, rfl⟩, fun hp => (nomatch (hf.shut hp).2), fun _ => nofun⟩
    rw [List.countP_append, List.countP_singleton, hnone, hfails]
    rfl
  | ended _ _ he _ =>
    have hno := (within_append.mp hl).2 _ List.mem_cons_self
    exact absurd (he.symm.trans hno) (by decide)

/-- Whatever has been shut by an entry is still shut. -/
theorem Lives.shut_of_shuts (h : Lives r p l q) (hl : Within r l) (hp : p ≠ .vacant)
    (hs : ∃ e ∈ l, r.shuts e = true) : q = .shut := by
  induction h with
  | refl =>
    obtain ⟨e, he, -⟩ := hs
    cases he
  | taken q _ ih => exact nomatch ih hl hs
  | shut _ _ => rfl
  | @told l q e h _ _ hshut ih =>
    have hwithin := (within_append.mp hl).1
    obtain ⟨e', he', hs⟩ := hs
    rcases List.mem_append.mp he' with he' | he'
    · exact ih hwithin ⟨e', he', hs⟩
    · obtain rfl := List.mem_singleton.mp he'
      have hkept := (h.frugal hwithin).kept hp
      cases q with
      | vacant => exact absurd rfl hkept
      | live => exact absurd rfl (hshut hs)
      | shut => rfl
  | failed _ _ _ => rfl
  | ended _ _ he _ =>
    have hno := (within_append.mp hl).2 _ List.mem_cons_self
    exact absurd (he.symm.trans hno) (by decide)

/-- A log without failures is as good for a place that is shut. -/
theorem Lives.of_shut (h : Lives r p l q) (hp : p ≠ .vacant) (hl : ∀ e ∈ l, r.fails e = false) :
    Lives r .shut l q ∨ q = .live ∧ Lives r .shut l .shut := by
  induction h with
  | refl =>
    cases p with
    | vacant => exact absurd rfl hp
    | live => exact Or.inr ⟨rfl, .refl⟩
    | shut => exact Or.inl .refl
  | taken q _ ih =>
    rcases ih hl with h | ⟨hq, -⟩
    · exact Or.inl (h.taken q)
    · cases hq
  | shut _ ih =>
    rcases ih hl with h | ⟨-, h⟩
    · exact Or.inl h.shut
    · exact Or.inl h
  | told _ hf he hs ih =>
    rcases ih fun e he => hl e (List.mem_append_left _ he) with h | ⟨hq, h⟩
    · exact Or.inl (h.told hf he hs)
    · exact Or.inr ⟨hq, h.told hf he fun _ => nofun⟩
  | @failed l e _ hf _ =>
    have hno := hl e (List.mem_append_right _ List.mem_cons_self)
    exact absurd (hf.symm.trans hno) (by decide)
  | ended _ hf he ih =>
    rcases ih fun e he => hl e (List.mem_append_left _ he) with h | ⟨-, h⟩
    · exact Or.inl (h.ended hf he)
    · exact Or.inl (h.ended hf he)

end SoupBin.Lifetimes
