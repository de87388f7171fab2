import Mathlib.Data.List.Forall2

/-!
# Following a run

A system that takes the actions of a script, and another one that takes corresponding
actions in the same order, in its own time, while the script may still be getting longer.
`Following` says where the second one stands. Whatever only grows in the first system, the
second one has a prefix of (`Following.prefix_of`).
-/

variable {σ τ α β γ : Type}

/-- Every element on the right has one on the left. -/
theorem List.Forall₂.exists_of_mem {R : α → β → Prop} {as : List α} {bs : List β}
    (h : List.Forall₂ R as bs) {b : β} (hb : b ∈ bs) : ∃ a ∈ as, R a b := by
  induction h with
  | nil => exact absurd hb List.not_mem_nil
  | @cons a b' as bs hab _ ih =>
    rcases List.mem_cons.mp hb with rfl | hb
    · exact ⟨a, List.mem_cons_self, hab⟩
    · obtain ⟨a', ha', hab'⟩ := ih hb
      exact ⟨a', List.mem_cons_of_mem a ha', hab'⟩

/-- The system in state `t`, with the actions `turn` before it, has taken those of `script`
    that come before the ones for `turn`. -/
def Following (step : σ → α → σ) (s₀ : σ) (Same : α → β → Prop) (Rel : σ → τ → Prop)
    (script : List α) (turn : List β) (t : τ) : Prop :=
  ∃ done rest, done ++ rest = script ∧ List.Forall₂ Same rest turn ∧ Rel (done.foldl step s₀) t

namespace Following

variable {step : σ → α → σ} {s₀ : σ} {Same : α → β → Prop} {Rel : σ → τ → Prop}
  {script : List α} {turn : List β} {t t' : τ}

/-- Before the first action. -/
theorem init (h : Rel s₀ t) : Following step s₀ Same Rel [] ([] : List β) t :=
  ⟨[], [], rfl, List.Forall₂.nil, h⟩

/-- The next action is taken. -/
theorem next {b : β} (h : Following step s₀ Same Rel script (b :: turn) t)
    (hstep : ∀ s a, Rel s t → Same a b → Rel (step s a) t') :
    Following step s₀ Same Rel script turn t' := by
  obtain ⟨done, rest, hscript, hrest, hrel⟩ := h
  cases hrest with
  | @cons a _ rest _ hsame hrest =>
    -- the action moves from the rest to what is done
    refine ⟨done ++ [a], rest, ?_, hrest, ?_⟩
    · rw [List.append_assoc, List.singleton_append, hscript]
    · rw [List.foldl_append, List.foldl_cons, List.foldl_nil]
      exact hstep _ a hrel hsame

/-- The script gets longer while nothing is left to do. -/
theorem extend {more : List α} (h : Following step s₀ Same Rel script [] t)
    (hmore : List.Forall₂ Same more turn) :
    Following step s₀ Same Rel (script ++ more) turn t := by
  obtain ⟨done, rest, hscript, hrest, hrel⟩ := h
  obtain rfl := List.forall₂_nil_right_iff.mp hrest
  rw [List.append_nil] at hscript
  exact ⟨done, more, by rw [hscript], hmore, hrel⟩

/-- The script gets longer while nothing is left to do, and the action is taken at once. -/
theorem together {a : α} (h : Following step s₀ Same Rel script ([] : List β) t)
    (hstep : ∀ s, Rel s t → Rel (step s a) t') :
    Following step s₀ Same Rel (script ++ [a]) ([] : List β) t' := by
  obtain ⟨done, rest, hscript, hrest, hrel⟩ := h
  obtain rfl := List.forall₂_nil_right_iff.mp hrest
  rw [List.append_nil] at hscript
  subst hscript
  refine ⟨done ++ [a], [], List.append_nil _, List.Forall₂.nil, ?_⟩
  rw [List.foldl_append, List.foldl_cons, List.foldl_nil]
  exact hstep _ hrel

/-- Every action that is left to do is one of the script. -/
theorem exists_of_mem {b : β} (h : Following step s₀ Same Rel script turn t) (hb : b ∈ turn) :
    ∃ a ∈ script, Same a b := by
  obtain ⟨done, rest, rfl, hrest, -⟩ := h
  obtain ⟨a, ha, hsame⟩ := hrest.exists_of_mem hb
  exact ⟨a, List.mem_append_right done ha, hsame⟩

/-- What only grows is a prefix of what it is later. -/
theorem prefix_foldl {obs : σ → List γ} (hgrows : ∀ s a, obs s <+: obs (step s a))
    (actions : List α) (s : σ) : obs s <+: obs (actions.foldl step s) := by
  induction actions generalizing s with
  | nil => exact List.prefix_rfl
  | cons a actions ih => exact (hgrows s a).trans (ih (step s a))

/-- What only grows in the first system, and is the same in related states, the second one
    has a prefix of, however long the script becomes. -/
theorem prefix_of (h : Following step s₀ Same Rel script turn t) (obs : σ → List γ)
    (obs' : τ → List γ) (hgrows : ∀ s a, obs s <+: obs (step s a))
    (hobs : ∀ s, Rel s t → obs s = obs' t) {whole : List α} (hwhole : script <+: whole) :
    obs' t <+: obs (whole.foldl step s₀) := by
  obtain ⟨done, rest, rfl, -, hrel⟩ := h
  obtain ⟨more, rfl⟩ := hwhole
  rw [← hobs _ hrel, List.append_assoc, List.foldl_append]
  exact prefix_foldl hgrows (rest ++ more) (done.foldl step s₀)

end Following
