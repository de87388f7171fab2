import Mathlib.Logic.Function.Iterate

/-!
# Runs of a step function

A system given by `step : σ → α → σ` runs through `List.foldl step`. `EachStep`
says that a relation between the state before a step and the action taken holds
at every step of a run: it states which steps a run may take, and also what a run
must satisfy at every step. The invariant and simulation rules below package the
induction on the run once.
-/

namespace Run

variable {σ τ α β : Type}

/-- `Q` holds of the state before and the action of every step of the run of `as`
    from `s`. -/
def EachStep (step : σ → α → σ) (Q : σ → α → Prop) : σ → List α → Prop
  | _, [] => True
  | s, a :: as => Q s a ∧ EachStep step Q (step s a) as

instance decidableEachStep (step : σ → α → σ) (Q : σ → α → Prop) [∀ s a, Decidable (Q s a)] :
    (s : σ) → (as : List α) → Decidable (EachStep step Q s as)
  | _, [] => isTrue trivial
  | s, a :: as =>
    have := decidableEachStep step Q (step s a) as
    inferInstanceAs (Decidable (Q s a ∧ EachStep step Q (step s a) as))

variable {step : σ → α → σ} {Q R : σ → α → Prop} {s : σ}

/-- The steps of a longer run are the steps of its two parts. -/
theorem eachStep_append (as bs : List α) :
    EachStep step Q s (as ++ bs) ↔
      EachStep step Q s as ∧ EachStep step Q (as.foldl step s) bs := by
  induction as generalizing s with
  | nil => simp [EachStep]
  | cons a as ih => simp only [List.cons_append, EachStep, ih, List.foldl_cons, and_assoc]

/-- `EachStep` as a statement about every way of cutting the run at a step. -/
theorem eachStep_iff (as : List α) :
    EachStep step Q s as ↔
      ∀ pre a post, as = pre ++ a :: post → Q (pre.foldl step s) a := by
  constructor
  · rintro h pre a post rfl
    exact ((eachStep_append pre (a :: post)).mp h).2.1
  · intro h
    induction as generalizing s with
    | nil => trivial
    | cons a as ih =>
      -- the first step, and the rest seen from the state after it
      refine ⟨h [] a as rfl, ih fun pre b post hsplit => ?_⟩
      exact h (a :: pre) b post (by rw [hsplit, List.cons_append])

/-- A weaker relation holds at every step too. -/
theorem EachStep.mono {as : List α} (h : EachStep step Q s as)
    (himp : ∀ s a, Q s a → R s a) : EachStep step R s as := by
  induction as generalizing s with
  | nil => trivial
  | cons a as ih => exact ⟨himp _ _ h.1, ih h.2⟩

/-- Two relations hold at every step together or one after the other. -/
theorem eachStep_and (as : List α) :
    EachStep step (fun s a => Q s a ∧ R s a) s as ↔
      EachStep step Q s as ∧ EachStep step R s as := by
  induction as generalizing s with
  | nil => simp [EachStep]
  | cons a as ih =>
    simp only [EachStep, ih]
    exact and_and_and_comm

/-- Invariant rule: what every step that satisfies `Q` preserves holds at the end. -/
theorem EachStep.inv {P : σ → Prop} {as : List α} (h : EachStep step Q s as) (h0 : P s)
    (hstep : ∀ s a, P s → Q s a → P (step s a)) : P (as.foldl step s) := by
  induction as generalizing s with
  | nil => exact h0
  | cons a as ih => exact ih h.2 (hstep s a h0 h.1)

/-- Invariant rule for steps without a side condition. -/
theorem inv {P : σ → Prop} (as : List α) (h0 : P s)
    (hstep : ∀ s a, P s → P (step s a)) : P (as.foldl step s) := by
  induction as generalizing s with
  | nil => exact h0
  | cons a as ih => exact ih (hstep s a h0)

/-- What the actions of a run guarantee in the states that satisfy an invariant holds at
    every step. -/
theorem eachStep_of_inv {P : σ → Prop} {as : List α} (h0 : P s)
    (hstep : ∀ s, ∀ a ∈ as, P s → P (step s a)) (hQ : ∀ s, ∀ a ∈ as, P s → Q s a) :
    EachStep step Q s as := by
  induction as generalizing s with
  | nil => trivial
  | cons a as ih =>
    refine ⟨hQ s a List.mem_cons_self h0, ih (hstep s a List.mem_cons_self h0) ?_ ?_⟩
    · exact fun s b hb => hstep s b (List.mem_cons_of_mem a hb)
    · exact fun s b hb => hQ s b (List.mem_cons_of_mem a hb)

/-- What the relation guarantees in the states that satisfy an invariant holds at every
    step. -/
theorem EachStep.strengthen {P : σ → Prop} {as : List α} (h : EachStep step Q s as) (h0 : P s)
    (hstep : ∀ s, ∀ a ∈ as, P s → Q s a → R s a ∧ P (step s a)) : EachStep step R s as := by
  induction as generalizing s with
  | nil => trivial
  | cons a as ih =>
    obtain ⟨hR, hnext⟩ := hstep s a List.mem_cons_self h0 h.1
    exact ⟨hR, ih h.2 hnext fun s b hb => hstep s b (List.mem_cons_of_mem a hb)⟩

/-- Simulation rule: two systems that take corresponding steps from related states
    to related states are related at the end of every run. -/
theorem EachStep.sim {step' : τ → α → τ} {S : σ → τ → Prop} {as : List α} {t : τ}
    (h : EachStep step Q s as) (h0 : S s t)
    (hstep : ∀ s t a, S s t → Q s a → S (step s a) (step' t a)) :
    S (as.foldl step s) (as.foldl step' t) := by
  induction as generalizing s t with
  | nil => exact h0
  | cons a as ih => exact ih h.2 (hstep s t a h0 h.1)

/-! ## Actions without effect -/

/-- `bs` is `as` with actions that satisfy `P` inserted. -/
inductive Inserting (P : α → Prop) : List α → List α → Prop where
  | nil : Inserting P [] []
  | keep (a : α) {as bs : List α} (h : Inserting P as bs) : Inserting P (a :: as) (a :: bs)
  | insert (a : α) {as bs : List α} (ha : P a) (h : Inserting P as bs) :
    Inserting P as (a :: bs)

/-- Stuttering rule: if common steps keep a relation and inserted steps keep it on the
    side on which they are taken, both runs end in related states. -/
theorem Inserting.sim {P : α → Prop} {S : σ → σ → Prop} {as bs : List α} {t : σ}
    (h : Inserting P as bs) (h0 : S s t)
    (hstep : ∀ s t a, S s t → S (step s a) (step t a))
    (hskip : ∀ s t a, S s t → P a → S s (step t a)) :
    S (as.foldl step s) (bs.foldl step t) := by
  induction h generalizing s t with
  | nil => exact h0
  | keep a _ ih => exact ih (hstep s t a h0)
  | insert a ha _ ih => exact ih (hskip s t a h0 ha)

/-! ## Coming to rest -/

/-- A system whose every step reduces its work, or changes nothing, comes to rest. -/
theorem comes_to_rest {f : σ → σ} {P : σ → Prop} (work : σ → Nat)
    (hP : ∀ s, P s → P (f s)) (hwork : ∀ s, P s → f s = s ∨ work (f s) < work s)
    (h : P s) : ∃ k, f (f^[k] s) = f^[k] s ∧ P (f^[k] s) ∧ ∀ n ≥ k, f^[n] s = f^[k] s := by
  -- by induction on the work that is left
  induction hw : work s using Nat.strongRecOn generalizing s with
  | _ w ih =>
    subst hw
    rcases hwork s h with hrest | hless
    · refine ⟨0, hrest, h, fun n _ => ?_⟩
      exact Function.iterate_fixed hrest n
    · obtain ⟨k, hrest, hk, hstays⟩ := ih _ hless (hP s h) rfl
      refine ⟨k + 1, hrest, hk, fun n hn => ?_⟩
      obtain ⟨m, rfl⟩ := Nat.exists_eq_add_of_le' (show 1 ≤ n by omega)
      exact hstays m (by omega)

end Run
