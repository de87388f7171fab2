/-!
# Computations that record what they touch

`Traced ε α` is a value of type `α` together with the list of events of type `ε`
that computing it caused, oldest first. A total function on memory that records
its accesses can be reasoned about twice: its value as if there were no record
(`val_bind`), and its record as a list built up in program order (`log_bind`). Where the
record has everything that the value depends on, the computation is `Local`.
-/

/-- A value and the events that computing it caused. -/
structure Traced (ε α : Type) where
  val : α
  log : List ε

namespace Traced

variable {ε α β : Type}

/-- Record one event. -/
def tell (e : ε) : Traced ε Unit := ⟨(), [e]⟩

/-- Compute `x` if the flag is set, otherwise return `a` and cause no event. -/
def onlyIf (flag : Bool) (x : Traced ε α) (a : α) : Traced ε α :=
  if flag then x else ⟨a, []⟩

instance : Monad (Traced ε) where
  pure a := ⟨a, []⟩
  bind x f := ⟨(f x.val).val, x.log ++ (f x.val).log⟩

@[simp] theorem val_pure (a : α) : (pure a : Traced ε α).val = a := rfl

@[simp] theorem val_bind (x : Traced ε α) (f : α → Traced ε β) :
    (x >>= f).val = (f x.val).val := rfl

@[simp] theorem log_bind (x : Traced ε α) (f : α → Traced ε β) :
    (x >>= f).log = x.log ++ (f x.val).log := rfl

@[simp] theorem log_tell (e : ε) : (tell e).log = [e] := rfl

/-- Every recorded event satisfies `P`. -/
def All (P : ε → Prop) (x : Traced ε α) : Prop := ∀ e ∈ x.log, P e

variable {P : ε → Prop}

theorem All.pure (a : α) : All P (pure a : Traced ε α) :=
  fun _ he => absurd he (List.not_mem_nil)

theorem all_tell {e : ε} : All P (Traced.tell e) ↔ P e := by
  simp only [All, log_tell, List.mem_singleton, forall_eq]

theorem all_onlyIf {flag : Bool} {x : Traced ε α} {a : α} :
    All P (onlyIf flag x a) ↔ (flag = true → All P x) := by
  cases flag
  · exact ⟨fun _ h => absurd h Bool.false_ne_true, fun _ => All.pure a⟩
  · exact ⟨fun h _ => h, fun h => h rfl⟩

/-- The events of a sequence are those of its two parts. -/
theorem all_bind {x : Traced ε α} {f : α → Traced ε β} :
    All P (x >>= f) ↔ All P x ∧ All P (f x.val) := by
  simp only [All, log_bind, List.mem_append, or_imp, forall_and]

/-- Weaker events are recorded too. -/
theorem All.mono {Q : ε → Prop} {x : Traced ε α} (h : All P x) (himp : ∀ e, P e → Q e) : All Q x :=
  fun e he => himp e (h e he)

/-! ## Computations on a memory -/

section Local

variable {μ : Type} {agree : ε → μ → μ → Prop}

/-- On a second memory that agrees with the first one on the recorded events, the
    computation is the same. -/
def Local (agree : ε → μ → μ → Prop) (f : μ → Traced ε α) : Prop :=
  ∀ m m', All (fun e => agree e m m') (f m) → f m' = f m

/-- What does not look at the memory is local. -/
theorem Local.const (x : Traced ε α) : Local agree fun _ => x :=
  fun _ _ _ => rfl

/-- A sequence of two local parts is local. -/
theorem Local.bind {f : μ → Traced ε α} {g : μ → α → Traced ε β} (hf : Local agree f)
    (hg : ∀ a, Local agree fun m => g m a) : Local agree fun m => f m >>= g m := by
  intro m m' h
  obtain ⟨hfirst, hrest⟩ := all_bind.mp h
  -- the second part starts from the value of the first one, which is the same
  have hsecond : g m' (f m).val = g m (f m).val := hg (f m).val m m' hrest
  have hvalue : f m' = f m := hf m m' hfirst
  show Traced.mk (g m' (f m').val).val ((f m').log ++ (g m' (f m').val).log) = f m >>= g m
  rw [hvalue, hsecond]
  rfl

/-- A choice that does not look at the memory. -/
theorem Local.ite {c : Prop} [Decidable c] {f g : μ → Traced ε α} (hf : Local agree f)
    (hg : Local agree g) : Local agree fun m => if c then f m else g m := by
  by_cases h : c
  · simpa only [if_pos h] using hf
  · simpa only [if_neg h] using hg

theorem Local.onlyIf {flag : Bool} {f : μ → Traced ε α} (hf : Local agree f) (a : α) :
    Local agree fun m => onlyIf flag (f m) a := by
  cases flag with
  | false => exact Local.const ⟨a, []⟩
  | true => exact hf

end Local

end Traced
