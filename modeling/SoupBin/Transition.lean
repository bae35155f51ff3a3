import Mathlib.Tactic.Common

/-!
# Runs of a system driven by inputs

A system takes one step for each input it is offered, if the input is enabled.
A property of every run is proved one step at a time.
-/

namespace SoupBin

/-- To do `f` to each element of a list is to do it to one after the other. -/
theorem map_of_modify {α : Type} {P : List α → Prop} {f : α → α}
    (hstep : ∀ n l, P l → P (l.modify n f)) (l : List α) (h : P l) : P (l.map f) := by
  have hfirst (n : Nat) : P ((l.take n).map f ++ l.drop n) := by
    induction n with
    | zero => simpa using h
    | succ n ih =>
      have hnext := hstep n _ ih
      have heq : ((l.take n).map f ++ l.drop n).modify n f =
          (l.take (n + 1)).map f ++ l.drop (n + 1) := by
        apply List.ext_getElem?
        intro j
        rw [List.getElem?_modify]
        simp only [List.getElem?_append, List.length_map, List.length_take, List.getElem?_map,
          List.getElem?_take, List.getElem?_drop]
        grind
      rwa [heq] at hnext
  simpa using hfirst l.length

/-! ## Logs -/

/-- `after` is `before` and then entries that satisfy `P`. -/
def Adds {α : Type} (P : α → Prop) (before after : List α) : Prop :=
  ∃ added, after = before ++ added ∧ ∀ a ∈ added, P a

section
variable {α : Type} {P Q : α → Prop} {l l' l'' : List α}

theorem Adds.refl (P : α → Prop) (l : List α) : Adds P l l :=
  ⟨[], (List.append_nil l).symm, fun _ h => absurd h List.not_mem_nil⟩

theorem Adds.trans (h : Adds P l l') (h' : Adds P l' l'') : Adds P l l'' := by
  obtain ⟨added, rfl, hadded⟩ := h
  obtain ⟨more, rfl, hmore⟩ := h'
  refine ⟨added ++ more, List.append_assoc _ _ _, ?_⟩
  intro a ha
  rcases List.mem_append.mp ha with ha | ha
  · exact hadded a ha
  · exact hmore a ha

theorem Adds.mono (hPQ : ∀ a, P a → Q a) (h : Adds P l l') : Adds Q l l' := by
  obtain ⟨added, heq, hadded⟩ := h
  exact ⟨added, heq, fun a ha => hPQ a (hadded a ha)⟩

theorem Adds.one (l : List α) {a : α} (ha : P a) : Adds P l (l ++ [a]) := by
  refine ⟨[a], rfl, fun b hb => ?_⟩
  rw [List.mem_singleton] at hb
  exact hb ▸ ha

theorem Adds.isPrefix (h : Adds P l l') : l <+: l' := by
  obtain ⟨added, rfl, -⟩ := h
  exact List.prefix_append _ _

end

/-! ## Runs -/

structure System (σ ι : Type) where
  enabled : ι → σ → Prop
  next : ι → σ → σ

namespace System
variable {σ ι : Type} (S : System σ ι)

/-- `S.Run s inputs t`: offered `inputs` one after the other, `S` goes from `s` to `t`. -/
inductive Run (s : σ) : List ι → σ → Prop where
  | refl : Run s [] s
  | step {inputs : List ι} {t : σ} (i : ι) :
      Run s inputs t → S.enabled i t → Run s (inputs ++ [i]) (S.next i t)

/-- The system that takes only the steps `G` allows. -/
def restrict (G : ι → σ → Prop) : System σ ι where
  enabled i s := S.enabled i s ∧ G i s
  next := S.next

instance {G : ι → σ → Prop} (i : ι) (s : σ) [Decidable (S.enabled i s)] [Decidable (G i s)] :
    Decidable ((S.restrict G).enabled i s) :=
  inferInstanceAs (Decidable (S.enabled i s ∧ G i s))

variable {S}

theorem Run.of_restrict {G : ι → σ → Prop} {s t : σ} {inputs : List ι}
    (h : (S.restrict G).Run s inputs t) : S.Run s inputs t := by
  induction h with
  | refl => exact .refl
  | step i _ hi ih => exact ih.step i hi.1

theorem Run.weaken {G H : ι → σ → Prop} (hGH : ∀ i s, G i s → H i s) {s t : σ} {inputs : List ι}
    (h : (S.restrict G).Run s inputs t) : (S.restrict H).Run s inputs t := by
  induction h with
  | refl => exact .refl
  | step i _ hi ih => exact ih.step (S := S.restrict H) i ⟨hi.1, hGH i _ hi.2⟩

theorem Run.restrict {G : ι → σ → Prop} {s t : σ} {inputs : List ι} (h : S.Run s inputs t)
    (hG : ∀ i ∈ inputs, ∀ u, G i u) : (S.restrict G).Run s inputs t := by
  induction h with
  | refl => exact .refl
  | step i _ hi ih =>
    have hr := ih fun j hj => hG j (List.mem_append_left _ hj)
    exact Run.step (S := S.restrict G) i hr ⟨hi, hG i (by simp) _⟩

/-- A run has come through every prefix of its inputs. -/
theorem Run.before {s t : σ} {inputs before : List ι} (h : S.Run s inputs t)
    (hbefore : before <+: inputs) : ∃ u, S.Run s before u := by
  induction h with
  | refl => exact ⟨s, List.prefix_nil.mp hbefore ▸ .refl⟩
  | step i hrun hi ih =>
    rcases List.prefix_concat_iff.mp hbefore with rfl | hbefore
    · exact ⟨_, hrun.step i hi⟩
    · exact ih hbefore

/-- What every enabled step keeps, every run keeps. -/
theorem Run.keeps {I : σ → Prop} (hstep : ∀ i s, S.enabled i s → I s → I (S.next i s))
    {s t : σ} {inputs : List ι} (h : S.Run s inputs t) (hs : I s) : I t := by
  induction h with
  | refl => exact hs
  | step i _ hi ih => exact hstep i _ hi ih

/-- A preorder that every enabled step respects relates the ends of every run. -/
theorem Run.relates {R : σ → σ → Prop} (refl : ∀ s, R s s)
    (trans : ∀ {a b c}, R a b → R b c → R a c)
    (hstep : ∀ i s, S.enabled i s → R s (S.next i s))
    {s t : σ} {inputs : List ι} (h : S.Run s inputs t) : R s t := by
  induction h with
  | refl => exact refl s
  | step i _ hi ih => exact trans ih (hstep i _ hi)

/-- Where every enabled step makes `μ` smaller no run is longer than `μ` was. -/
theorem Run.bounded {I : σ → Prop} {μ : σ → Nat}
    (hstep : ∀ i s, S.enabled i s → I s → I (S.next i s) ∧ μ (S.next i s) < μ s)
    {s t : σ} {inputs : List ι} (h : S.Run s inputs t) (hs : I s) :
    I t ∧ inputs.length + μ t ≤ μ s := by
  induction h with
  | refl => exact ⟨hs, Nat.le_of_eq (Nat.zero_add _)⟩
  | step i _ hi ih =>
    obtain ⟨ht, hle⟩ := ih
    obtain ⟨hnext, hless⟩ := hstep i _ hi ht
    refine ⟨hnext, ?_⟩
    rw [List.length_append, List.length_singleton]
    omega

/-! ### Running on given inputs -/

variable (S)

def final (s : σ) : List ι → σ
  | [] => s
  | i :: inputs => final (S.next i s) inputs

/-- Every input is enabled when its turn comes. -/
def Admits (s : σ) : List ι → Prop
  | [] => True
  | i :: inputs => S.enabled i s ∧ Admits (S.next i s) inputs

instance decidableAdmits [∀ i s, Decidable (S.enabled i s)] :
    (inputs : List ι) → (s : σ) → Decidable (S.Admits s inputs)
  | [], _ => isTrue trivial
  | i :: inputs, s =>
    have := decidableAdmits inputs (S.next i s)
    inferInstanceAs (Decidable (S.enabled i s ∧ S.Admits (S.next i s) inputs))

variable {S}

theorem Run.cons {s t : σ} {inputs : List ι} {i : ι} (hi : S.enabled i s)
    (h : S.Run (S.next i s) inputs t) : S.Run s (i :: inputs) t := by
  induction h with
  | refl => exact Run.refl.step i hi
  | step j _ hj ih => exact ih.step j hj

theorem Run.append {s t u : σ} {inputs more : List ι} (h : S.Run s inputs t)
    (h' : S.Run t more u) : S.Run s (inputs ++ more) u := by
  induction h' with
  | refl => rwa [List.append_nil]
  | step i _ hi ih =>
    rw [← List.append_assoc]
    exact ih.step i hi

theorem final_concat (s : σ) (inputs : List ι) (i : ι) :
    S.final s (inputs ++ [i]) = S.next i (S.final s inputs) := by
  induction inputs generalizing s with
  | nil => rfl
  | cons j inputs ih => exact ih (S.next j s)

theorem Run.eq_final {s t : σ} {inputs : List ι} (h : S.Run s inputs t) : t = S.final s inputs := by
  induction h with
  | refl => rfl
  | step i _ _ ih => rw [final_concat, ← ih]

theorem run_of_admits {inputs : List ι} {s : σ} (h : S.Admits s inputs) :
    S.Run s inputs (S.final s inputs) := by
  induction inputs generalizing s with
  | nil => exact .refl
  | cons i inputs ih => exact (ih h.2).cons h.1

/-- A system that takes the steps of `S`, and writes down what it sees on the way. -/
theorem Run.observed {τ : Type} {T : System τ ι} (π : τ → σ)
    (enabled : ∀ i t, S.enabled i (π t) → T.enabled i t)
    (next : ∀ i t, π (T.next i t) = S.next i (π t)) {t : τ} {s : σ} {inputs : List ι}
    (h : S.Run (π t) inputs s) :
    T.Run t inputs (T.final t inputs) ∧ π (T.final t inputs) = s := by
  induction h with
  | refl => exact ⟨.refl, rfl⟩
  | step i _ hi ih =>
    obtain ⟨hrun, rfl⟩ := ih
    rw [final_concat]
    exact ⟨hrun.step i (enabled i _ hi), next i _⟩

end System

end SoupBin
