import Mathlib.Logic.Function.Basic
import Go2Sensors.ForStd.Run

/-!
# Objects that share a variable

Several objects take steps in any order, and a part of the state of each of them is one
variable that they all share. An object runs as if it were alone as long as it uses the
shared variable only while the variable is idle for all others: the variable is handed
from one object to the next. `Handover` collects what has to be shown about a single step,
where this step is defined; `Handover.sound` is the rule for whole runs. A run is compared
with the runs of the objects alone, step by step (`Compared`).
-/

namespace Sharing

open Run

/-- A part of a state that can be replaced. -/
structure Part (σ τ : Type) where
  get : σ → τ
  put : σ → τ → σ
  get_put : ∀ s t, get (put s t) = t
  put_put : ∀ s t t', put (put s t) t' = put s t'
  put_get : ∀ s, put s (get s) = s

variable {ι σ τ α : Type} [DecidableEq ι]

/-- The objects, each with an outdated value of the shared variable, and the variable. -/
structure System (ι σ τ : Type) where
  objects : ι → σ
  shared : τ

/-- A step of one object, which finds the variable as the last step left it. -/
def System.step (part : Part σ τ) (act : ι → σ → α → σ) (s : System ι σ τ) (e : ι × α) :
    System ι σ τ :=
  let next := act e.1 (part.put (s.objects e.1) s.shared) e.2
  ⟨Function.update s.objects e.1 next, part.get next⟩

/-- The steps of one object. -/
def stepsOf (i : ι) (steps : List (ι × α)) : List α :=
  (steps.filter (·.1 = i)).map Prod.snd

theorem stepsOf_append (i : ι) (steps steps' : List (ι × α)) :
    stepsOf i (steps ++ steps') = stepsOf i steps ++ stepsOf i steps' := by
  simp [stepsOf]

/-- Steps of one object are its own, and no steps of another. -/
theorem stepsOf_map (i j : ι) (as : List α) :
    stepsOf i (as.map (j, ·)) = if j = i then as else [] := by
  induction as with
  | nil => simp [stepsOf]
  | cons a as ih =>
    rw [List.map_cons, ← List.singleton_append, stepsOf_append, ih]
    by_cases hj : j = i <;> simp [stepsOf, hj]

/-- A system next to its objects when each of them runs alone. -/
structure Compared (ι σ τ : Type) where
  system : System ι σ τ
  alone : ι → σ

namespace Compared

variable (part : Part σ τ) (act : ι → σ → α → σ)

/-- Both sides take the step. -/
def step (c : Compared ι σ τ) (e : ι × α) : Compared ι σ τ :=
  ⟨c.system.step part act e, Function.update c.alone e.1 (act e.1 (c.alone e.1) e.2)⟩

/-- One side is the run of the system. -/
theorem foldl_system (steps : List (ι × α)) (c : Compared ι σ τ) :
    (steps.foldl (Compared.step part act) c).system =
      steps.foldl (System.step part act) c.system := by
  induction steps generalizing c with
  | nil => rfl
  | cons e steps ih => exact ih (c.step part act e)

/-- The other side is the run of each object on its own steps. -/
theorem foldl_alone (steps : List (ι × α)) (c : Compared ι σ τ) (i : ι) :
    (steps.foldl (Compared.step part act) c).alone i =
      (stepsOf i steps).foldl (act i) (c.alone i) := by
  induction steps generalizing c with
  | nil => rfl
  | cons e steps ih =>
    rw [List.foldl_cons, ih]
    by_cases hi : e.1 = i
    · subst hi
      simp [stepsOf, Compared.step]
    · simp [stepsOf, Compared.step, hi, Ne.symm hi]

end Compared

/-- What makes it safe to hand the variable over. -/
structure Handover (part : Part σ τ) (act : ι → σ → α → σ) where
  /-- the two values are the same to the object -/
  Same : ι → τ → τ → Prop
  /-- the value says nothing to any object -/
  Idle : τ → Prop
  /-- the step uses the variable -/
  Uses : ι → σ → α → Prop
  /-- the step is defined -/
  Defined : ι → σ → α → Prop
  not_uses : ∀ i s t a, ¬ Uses i s a → act i (part.put s t) a = part.put (act i s a) t
  same_act : ∀ i s t t' a, Same i t t' → Defined i (part.put s t') a → ∃ next u u',
    act i (part.put s t) a = part.put next u ∧ act i (part.put s t') a = part.put next u' ∧
      Same i u u'
  handover : ∀ i j t t' u, Same i t t' → Idle t' → Idle u → Same j t u

namespace Handover

variable {part : Part σ τ} {act : ι → σ → α → σ} (h : Handover part act)

/-- A step that uses the variable is taken only while it is idle for the others. -/
def OthersIdle (c : Compared ι σ τ) (e : ι × α) : Prop :=
  h.Uses e.1 (c.alone e.1) e.2 → ∀ j, j ≠ e.1 → h.Idle (part.get (c.alone j))

/-- The step of the object alone is defined, and it does not find what another one left. -/
structure Safe (c : Compared ι σ τ) (e : ι × α) : Prop where
  defined : h.Defined e.1 (c.alone e.1) e.2
  idle : h.OthersIdle c e

/-- The objects are as they are alone, apart from the variable, and the variable is the
    same to an object as long as it is idle for all others. -/
structure Related (c : Compared ι σ τ) : Prop where
  objects : ∀ i t, part.put (c.system.objects i) t = part.put (c.alone i) t
  shared : ∀ i, (∀ j, j ≠ i → h.Idle (part.get (c.alone j))) →
    h.Same i c.system.shared (part.get (c.alone i))

variable {h}

/-- A step that does not use the variable changes the object only. -/
theorem Related.step_of_not_uses {c : Compared ι σ τ} (hc : h.Related c) {e : ι × α}
    (huses : ¬ h.Uses e.1 (c.alone e.1) e.2) : h.Related (c.step part act e) := by
  obtain ⟨i, a⟩ := e
  have halone := h.not_uses i (c.alone i) (part.get (c.alone i)) a huses
  rw [part.put_get] at halone
  have hget : part.get (act i (c.alone i) a) = part.get (c.alone i) := by
    rw [halone, part.get_put]
  -- the values of the variable seen from all objects are what they were
  have hgets : ∀ j, part.get ((c.step part act (i, a)).alone j) = part.get (c.alone j) := by
    intro j
    by_cases hj : j = i
    · subst hj
      simpa [Compared.step] using hget
    · simp [Compared.step, hj]
  have hobject : act i (part.put (c.system.objects i) c.system.shared) a =
      part.put (act i (c.alone i) a) c.system.shared := by
    rw [hc.objects, h.not_uses i (c.alone i) c.system.shared a huses]
  have hshared : (c.step part act (i, a)).system.shared = c.system.shared := by
    simp only [Compared.step, System.step, hobject, part.get_put]
  refine ⟨fun j t => ?_, fun j hidle => ?_⟩
  · by_cases hj : j = i
    · subst hj
      simp [Compared.step, System.step, hobject, part.put_put]
    · simpa [Compared.step, System.step, hj] using hc.objects j t
  · rw [hshared, hgets]
    exact hc.shared j fun k hk => hgets k ▸ hidle k hk

/-- A step that uses the variable does so as if the object were alone. -/
theorem Related.step_of_idle {c : Compared ι σ τ} (hc : h.Related c) {e : ι × α}
    (hdefined : h.Defined e.1 (c.alone e.1) e.2)
    (hidle : ∀ j, j ≠ e.1 → h.Idle (part.get (c.alone j))) :
    h.Related (c.step part act e) := by
  obtain ⟨i, a⟩ := e
  obtain ⟨next, u, u', hsystem, halone, hsame⟩ :=
    h.same_act i (c.alone i) c.system.shared (part.get (c.alone i)) a (hc.shared i hidle)
      (by rwa [part.put_get])
  rw [← hc.objects] at hsystem
  rw [part.put_get] at halone
  have hself : (c.step part act (i, a)).alone i = part.put next u' := by
    simp [Compared.step, halone]
  have hother : ∀ j, j ≠ i → (c.step part act (i, a)).alone j = c.alone j := by
    intro j hj
    simp [Compared.step, hj]
  have hshared : (c.step part act (i, a)).system.shared = u := by
    simp only [Compared.step, System.step, hsystem, part.get_put]
  refine ⟨fun j t => ?_, fun j hothers => ?_⟩
  · by_cases hj : j = i
    · subst hj
      simp [Compared.step, System.step, hsystem, halone, part.put_put]
    · simpa [Compared.step, System.step, hj] using hc.objects j t
  · rw [hshared]
    by_cases hj : j = i
    · subst hj
      rw [hself, part.get_put]
      exact hsame
    · -- nothing is left in the variable: it goes over to `j`
      have hdone := hothers i (Ne.symm hj)
      rw [hself, part.get_put] at hdone
      rw [hother j hj]
      exact h.handover i j u u' _ hsame hdone (hidle j hj)

/-- If the variable is handed over only when it is idle, each object runs as if it were
    alone. -/
theorem sound {c : Compared ι σ τ} {steps : List (ι × α)} (hc : h.Related c)
    (hsteps : EachStep (Compared.step part act) h.Safe c steps) :
    h.Related (steps.foldl (Compared.step part act) c) := by
  refine hsteps.inv hc fun c e hc hsafe => ?_
  by_cases huses : h.Uses e.1 (c.alone e.1) e.2
  · exact hc.step_of_idle hsafe.defined (hsafe.idle huses)
  · exact hc.step_of_not_uses huses

end Handover

end Sharing
