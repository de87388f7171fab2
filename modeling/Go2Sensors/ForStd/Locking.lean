import Mathlib.Data.List.Induction
import Mathlib.Logic.Function.Basic
import Go2Sensors.ForStd.Run

/-!
# Callers that share a lock

A program acts on a shared state, takes and gives back one lock, and ends with a result
(`Program`). Several callers run a program each, one step at a time and in any order
(`System`); who asks for the lock while another caller has it stays where it is. Programs
that act only while they have the lock (`Leads`) are serializable: once the caller that has
the lock is let through, the state is the one of a run in which every section between
taking the lock and giving it back is a single step.

## Key results

- `serializable`: sections are atomic
- `ensures_run`: what a caller relies on, and what it promises
- `Guarded.can_finish`: there is no deadlock
-/

namespace Locking

/-- A program with the actions it takes on a state of type `σ`, and a result. -/
inductive Program (σ ρ : Type) where
  | ret (r : ρ)
  | lock (next : Program σ ρ)
  | unlock (next : Program σ ρ)
  /-- an action, after which the program goes on with what it found -/
  | act (effect : σ → σ) (next : σ → Program σ ρ)

variable {ι σ ρ ρ' : Type}

namespace Program

/-- One program after the other. -/
def bind : Program σ ρ → (ρ → Program σ ρ') → Program σ ρ'
  | .ret r, f => f r
  | .lock p, f => .lock (p.bind f)
  | .unlock p, f => .unlock (p.bind f)
  | .act effect next, f => .act effect fun s => (next s).bind f

instance : Monad (Program σ) where
  pure := .ret
  bind := bind

/-- An action with a result. -/
def perform (f : σ → ρ × σ) : Program σ ρ := .act (fun s => (f s).2) fun s => .ret (f s).1

/-- Take the lock. -/
def acquire : Program σ Unit := .lock (.ret ())

/-- Give the lock back. -/
def release : Program σ Unit := .unlock (.ret ())

/-! ## One caller -/

/-- The result and the state if nobody else takes a step. -/
def exec : Program σ ρ → σ → ρ × σ
  | .ret r, s => (r, s)
  | .lock p, s => p.exec s
  | .unlock p, s => p.exec s
  | .act effect next, s => (next s).exec (effect s)

@[simp] theorem exec_pure (r : ρ) (s : σ) : (pure r : Program σ ρ).exec s = (r, s) := rfl

@[simp] theorem exec_perform (f : σ → ρ × σ) (s : σ) : (perform f).exec s = f s := rfl

@[simp] theorem exec_acquire (s : σ) : (acquire : Program σ Unit).exec s = ((), s) := rfl

@[simp] theorem exec_release (s : σ) : (release : Program σ Unit).exec s = ((), s) := rfl

@[simp] theorem exec_ite {c : Prop} [Decidable c] (p q : Program σ ρ) (s : σ) :
    (if c then p else q).exec s = if c then p.exec s else q.exec s := by
  split <;> rfl

@[simp] theorem exec_bind (p : Program σ ρ) (f : ρ → Program σ ρ') (s : σ) :
    (p >>= f).exec s = (f (p.exec s).1).exec (p.exec s).2 := by
  show (p.bind f).exec s = _
  induction p generalizing s with
  | ret r => rfl
  | lock p ih => exact ih s
  | unlock p ih => exact ih s
  | act effect next ih => exact ih s (effect s)

/-! ## Programs that respect the lock -/

/-- On every way through the program the caller acts only while it has the lock, does not
    take it twice, and has it at the end as `after` says. -/
def Leads : (before after : Bool) → Program σ ρ → Prop
  | before, after, .ret _ => before = after
  | before, after, .lock p => before = false ∧ Leads true after p
  | before, after, .unlock p => before = true ∧ Leads false after p
  | before, after, .act _ next => before = true ∧ ∀ s, Leads before after (next s)

theorem leads_pure (b : Bool) (r : ρ) : Leads b b (pure r : Program σ ρ) := rfl

theorem Leads.bind {p : Program σ ρ} {f : ρ → Program σ ρ'} {before between after : Bool}
    (hp : Leads before between p) (hf : ∀ r, Leads between after (f r)) :
    Leads before after (p >>= f) := by
  show Leads before after (p.bind f)
  induction p generalizing before with
  | ret r =>
    obtain rfl : before = between := hp
    exact hf r
  | lock p ih => exact ⟨hp.1, ih hp.2⟩
  | unlock p ih => exact ⟨hp.1, ih hp.2⟩
  | act effect next ih => exact ⟨hp.1, fun s => ih s (hp.2 s)⟩

/-! ## Sections -/

/-- Run until the lock has been given back. -/
def toUnlock : Program σ ρ → σ → Program σ ρ × σ
  | .ret r, s => (.ret r, s)
  | .lock p, s => (.lock p, s)
  | .unlock p, s => (p, s)
  | .act effect next, s => (next s).toUnlock (effect s)

/-- The rest of a call that has taken the lock: actions, then the lock is given back and the
    call returns. -/
def Section : Program σ ρ → Prop
  | .ret _ | .lock _ => False
  | .unlock p => ∃ r, p = .ret r
  | .act _ next => ∀ s, Section (next s)

/-- Actions only. -/
def Acts : Program σ ρ → Prop
  | .ret _ => True
  | .lock _ | .unlock _ => False
  | .act _ next => ∀ s, Acts (next s)

theorem acts_pure (r : ρ) : Acts (pure r : Program σ ρ) := trivial

theorem acts_perform (f : σ → ρ × σ) : Acts (perform f) := fun _ => trivial

theorem Acts.bind {p : Program σ ρ} {f : ρ → Program σ ρ'} (hp : Acts p)
    (hf : ∀ r, Acts (f r)) : Acts (p >>= f) := by
  show Acts (p.bind f)
  induction p with
  | ret r => exact hf r
  | lock p => exact hp.elim
  | unlock p => exact hp.elim
  | act effect next ih => exact fun s => ih s (hp s)

theorem Acts.ite {c : Prop} [Decidable c] {p q : Program σ ρ} (hp : Acts p) (hq : Acts q) :
    Acts (if c then p else q) := by
  by_cases h : c
  · rwa [if_pos h]
  · rwa [if_neg h]

theorem section_release (r : ρ) : Section (release >>= fun _ => pure r : Program σ ρ) := ⟨r, rfl⟩

/-- Actions before the rest of a section. -/
theorem Acts.section_bind {p : Program σ ρ} {f : ρ → Program σ ρ'} (hp : Acts p)
    (hf : ∀ r, Section (f r)) : Section (p >>= f) := by
  show Section (p.bind f)
  induction p with
  | ret r => exact hf r
  | lock p => exact hp.elim
  | unlock p => exact hp.elim
  | act effect next ih => exact fun s => ih s (hp s)

/-- A choice between two ways to go on. -/
theorem Section.ite {c : Prop} [Decidable c] {p q : Program σ ρ} (hp : Section p)
    (hq : Section q) : Section (if c then p else q) := by
  by_cases h : c
  · rwa [if_pos h]
  · rwa [if_neg h]

theorem Section.leads {p : Program σ ρ} (h : Section p) : Leads true false p := by
  induction p with
  | ret r => exact h.elim
  | lock p => exact h.elim
  | unlock p =>
    obtain ⟨r, rfl⟩ := h
    exact ⟨rfl, rfl⟩
  | act effect next ih => exact ⟨rfl, fun s => ih s (h s)⟩

/-! ## A rule for the lock -/

/-- Whatever other callers do to the state while the lock is free, as long as it stays
    `Good`: the program leaves it `Good` whenever it gives the lock back, and its result
    satisfies `post`. The first argument is the state while the caller has the lock. -/
def Ensures (Good : σ → Prop) (post : ρ → Prop) : Option σ → Program σ ρ → Prop
  | none, .ret r => post r
  | none, .lock p => ∀ s, Good s → Ensures Good post (some s) p
  | some s, .unlock p => Good s ∧ Ensures Good post none p
  | some s, .act effect next => Ensures Good post (some (effect s)) (next s)
  | _, _ => False

variable {Good : σ → Prop} {post : ρ → Prop} {post' : ρ' → Prop}

theorem ensures_pure {r : ρ} (h : post r) : Ensures Good post none (pure r) := h

/-- A program after another one. -/
theorem Ensures.bind {p : Program σ ρ} {f : ρ → Program σ ρ'} {held : Option σ}
    (hp : Ensures Good post held p) (hf : ∀ r, post r → Ensures Good post' none (f r)) :
    Ensures Good post' held (p >>= f) := by
  show Ensures Good post' held (p.bind f)
  induction p generalizing held with
  -- only a program without the lock returns
  | ret r =>
    cases held with
    | none => exact hf r hp
    | some s => exact hp.elim
  | lock p ih =>
    cases held with
    | none => exact fun s hs => ih (hp s hs)
    | some s => exact hp.elim
  | unlock p ih =>
    cases held with
    | none => exact hp.elim
    | some s => exact ⟨hp.1, ih hp.2⟩
  | act effect next ih =>
    cases held with
    | none => exact hp.elim
    | some s => exact ih s hp

/-- A call is judged by what it does if nobody else takes a step. -/
theorem Section.ensures {p : Program σ ρ} (h : Section p) {s : σ} (hgood : Good (p.exec s).2)
    (hpost : post (p.exec s).1) : Ensures Good post (some s) p := by
  induction p generalizing s with
  | ret r => exact h.elim
  | lock p => exact h.elim
  | unlock p =>
    obtain ⟨r, rfl⟩ := h
    exact ⟨hgood, hpost⟩
  | act effect next ih => exact ih s (h s) hgood hpost

end Program

open Program

/-! ## Several callers -/

/-- The shared state, who has the lock, and what every caller still has to do. -/
structure System (ι σ ρ : Type) where
  shared : σ
  owner : Option ι
  rest : ι → Program σ ρ

namespace System

variable [DecidableEq ι]

/-- The next step of caller `i`. -/
def step (s : System ι σ ρ) (i : ι) : System ι σ ρ :=
  match s.rest i with
  | .ret _ => s
  -- the caller waits while somebody has the lock
  | .lock p => if s.owner = none then { s with owner := some i, rest := Function.update s.rest i p }
    else s
  | .unlock p => { s with owner := none, rest := Function.update s.rest i p }
  | .act effect next =>
    { s with shared := effect s.shared, rest := Function.update s.rest i (next s.shared) }

/-- Caller `i` takes the lock and runs until it has given it back. -/
def sectionStep (s : System ι σ ρ) (i : ι) : System ι σ ρ :=
  match s.rest i with
  | .lock p =>
    { s with
      shared := (p.toUnlock s.shared).2
      rest := Function.update s.rest i (p.toUnlock s.shared).1 }
  | _ => s

/-- The state after the caller that has the lock has been let through. -/
def letThrough (s : System ι σ ρ) : System ι σ ρ :=
  match s.owner with
  | none => s
  | some i => ⟨((s.rest i).toUnlock s.shared).2, none,
      Function.update s.rest i ((s.rest i).toUnlock s.shared).1⟩

/-- Every caller respects the lock. -/
def Guarded (s : System ι σ ρ) : Prop :=
  ∀ i, Leads (decide (s.owner = some i)) false (s.rest i)

variable {s : System ι σ ρ}

/-- A caller that is about to take the lock does not have it. -/
theorem Guarded.not_owner {i : ι} {p : Program σ ρ} (h : s.Guarded) (hi : s.rest i = .lock p) :
    s.owner ≠ some i := by
  have hleads := h i
  rw [hi] at hleads
  simpa using hleads.1

/-- A caller that gives the lock back or acts has it. -/
theorem Guarded.owner_of_unlock {i : ι} {p : Program σ ρ} (h : s.Guarded)
    (hi : s.rest i = .unlock p) : s.owner = some i := by
  have hleads := h i
  rw [hi] at hleads
  simpa using hleads.1

theorem Guarded.owner_of_act {i : ι} {effect : σ → σ} {next : σ → Program σ ρ} (h : s.Guarded)
    (hi : s.rest i = .act effect next) : s.owner = some i := by
  have hleads := h i
  rw [hi] at hleads
  simpa using hleads.1

/-- What has to be shown of the caller of a step, and of the others. -/
theorem guarded_update {i : ι} {p : Program σ ρ} {owner : Option ι} {shared : σ}
    (hi : Leads (decide (owner = some i)) false p)
    (hothers : ∀ j, j ≠ i → Leads (decide (owner = some j)) false (s.rest j)) :
    Guarded ⟨shared, owner, Function.update s.rest i p⟩ := by
  intro j
  by_cases hj : j = i
  · subst hj
    simpa using hi
  · simpa [hj] using hothers j hj

/-- A step keeps the discipline. -/
theorem Guarded.step (h : s.Guarded) (i : ι) : (s.step i).Guarded := by
  have hleads := h i
  unfold System.step
  cases hi : s.rest i with
  | ret r => exact h
  | lock p =>
    rw [hi] at hleads
    -- the lock is free, or the caller waits
    by_cases hfree : s.owner = none
    · simp only [hfree, ↓reduceIte]
      refine guarded_update (by simpa using hleads.2) fun j hj => ?_
      have hother := h j
      rw [hfree] at hother
      simpa [Ne.symm hj] using hother
    · simpa only [hfree, ↓reduceIte] using h
  | unlock p =>
    rw [hi] at hleads
    -- nobody has the lock afterwards
    have howner := h.owner_of_unlock hi
    refine guarded_update (by simpa using hleads.2) fun j hj => ?_
    have hother := h j
    rw [howner] at hother
    simpa [Ne.symm hj] using hother
  | act effect next =>
    rw [hi] at hleads
    have hnext := hleads.2 s.shared
    exact guarded_update hnext fun j _ => h j

/-- A step is taken inside of a section, or it begins one. -/
theorem Guarded.letThrough_step (h : s.Guarded) (i : ι) :
    (s.step i).letThrough = s.letThrough ∨
      (s.owner = none ∧ (s.step i).letThrough = s.letThrough.sectionStep i) := by
  unfold System.step
  cases hi : s.rest i with
  | ret r => exact Or.inl rfl
  | lock p =>
    by_cases hfree : s.owner = none
    · -- a section begins
      right
      simp [letThrough, sectionStep, hfree, hi]
    · left
      simp only [hfree, ↓reduceIte]
  | unlock p =>
    left
    have howner := h.owner_of_unlock hi
    simp [letThrough, howner, hi, toUnlock]
  | act effect next =>
    left
    have howner := h.owner_of_act hi
    simp [letThrough, howner, hi, toUnlock]

/-- In every run of callers that respect the lock, the state after the one that has it was
    let through is the state of a run in which every section is one step. -/
theorem serializable (h : s.Guarded) (hfree : s.owner = none) (schedule : List ι) :
    (schedule.foldl step s).Guarded ∧ ∃ order : List ι, order.Sublist schedule ∧
      (schedule.foldl step s).letThrough = order.foldl sectionStep s := by
  have hstart : s.letThrough = s := by
    unfold letThrough
    rw [hfree]
  induction schedule using List.reverseRecOn with
  | nil => exact ⟨h, [], List.Sublist.refl _, hstart⟩
  | append_singleton schedule i ih =>
    obtain ⟨hguarded, order, hsublist, horder⟩ := ih
    simp only [List.foldl_append, List.foldl_cons, List.foldl_nil]
    refine ⟨hguarded.step i, ?_⟩
    -- inside of a section nothing changes, and a new one is one step more
    rcases hguarded.letThrough_step i with hinside | ⟨-, hbegins⟩
    · exact ⟨order, hsublist.trans (List.sublist_append_left _ _), hinside.trans horder⟩
    · refine ⟨order ++ [i], hsublist.append (List.Sublist.refl _), ?_⟩
      rw [hbegins, horder, List.foldl_append, List.foldl_cons, List.foldl_nil]

/-! ## Results -/

/-- Where a run stands that keeps to the rule for the lock. -/
structure Promised (Good : σ → Prop) (post : ι → ρ → Prop) (s : System ι σ ρ) : Prop where
  free : s.owner = none → Good s.shared
  rest : ∀ i, Ensures Good (post i) (if s.owner = some i then some s.shared else none) (s.rest i)

variable {Good : σ → Prop} {post : ι → ρ → Prop}

/-- Where the lock is, as the program of a caller sees it. -/
theorem Promised.rest_of_owner {i : ι} (h : s.Promised Good post) (hi : s.owner = some i) :
    Ensures Good (post i) (some s.shared) (s.rest i) := by
  have hrest := h.rest i
  rwa [if_pos hi] at hrest

theorem Promised.rest_of_ne {i : ι} (h : s.Promised Good post) (hi : s.owner ≠ some i) :
    Ensures Good (post i) none (s.rest i) := by
  have hrest := h.rest i
  rwa [if_neg hi] at hrest

/-- A caller whose program has not got the lock is not the owner, and the other way round. -/
theorem Promised.owner_eq_iff {i : ι} (h : s.Promised Good post) :
    s.owner = some i ↔ (∃ p, s.rest i = .unlock p) ∨ ∃ e next, s.rest i = .act e next := by
  constructor
  · intro hi
    have hrest := h.rest_of_owner hi
    cases hp : s.rest i with
    | ret r => exact (hp ▸ hrest).elim
    | lock p => exact (hp ▸ hrest).elim
    | unlock p => exact Or.inl ⟨p, rfl⟩
    | act e next => exact Or.inr ⟨e, next, rfl⟩
  · intro hi
    -- a caller without the lock would not get there
    by_contra hne
    have hrest := h.rest_of_ne hne
    rcases hi with ⟨p, hp⟩ | ⟨e, next, hp⟩
    · exact (hp ▸ hrest).elim
    · exact (hp ▸ hrest).elim

/-- What has to be shown of the caller of a step. The others do not notice it. -/
theorem Promised.update {i : ι} (h : s.Promised Good post) {p : Program σ ρ}
    {owner : Option ι} {shared : σ} (hfree : owner = none → Good shared)
    (hothers : ∀ j, j ≠ i → s.owner ≠ some j ∧ owner ≠ some j)
    (hi : Ensures Good (post i) (if owner = some i then some shared else none) p) :
    Promised Good post ⟨shared, owner, Function.update s.rest i p⟩ := by
  refine ⟨hfree, fun j => ?_⟩
  by_cases hj : j = i
  · subst hj
    simpa using hi
  · obtain ⟨hbefore, hafter⟩ := hothers j hj
    simpa [hj, hafter] using h.rest_of_ne hbefore

/-- A step keeps to the rule. -/
theorem Promised.step (h : s.Promised Good post) (i : ι) : (s.step i).Promised Good post := by
  unfold System.step
  cases hp : s.rest i with
  | ret r => exact h
  | lock p =>
    by_cases hfree : s.owner = none
    · simp only [hfree, ↓reduceIte]
      -- the state is good, as the lock was free
      have hrest := h.rest_of_ne (i := i) (by simp [hfree])
      rw [hp] at hrest
      refine h.update (by simp) (fun j hj => by simp [hfree, Ne.symm hj]) ?_
      simpa using hrest s.shared (h.free hfree)
    · simpa only [hfree, ↓reduceIte] using h
  | unlock p =>
    -- it gives the lock back in a good state
    have howner := h.owner_eq_iff.mpr (Or.inl ⟨p, hp⟩)
    have hrest := h.rest_of_owner howner
    rw [hp] at hrest
    refine h.update (fun _ => hrest.1) (fun j hj => by simp [howner, Ne.symm hj]) ?_
    simpa using hrest.2
  | act effect next =>
    have howner := h.owner_eq_iff.mpr (Or.inr ⟨effect, next, hp⟩)
    have hrest := h.rest_of_owner howner
    rw [hp] at hrest
    refine h.update (fun hfree => absurd (howner.symm.trans hfree) (by simp))
      (fun j hj => by simp [howner, Ne.symm hj]) ?_
    rw [if_pos howner]
    exact hrest

/-- The rule for the lock: in every run the results are as promised, and the state is good
    whenever the lock is free. -/
theorem ensures_run (hfree : s.owner = none) (hgood : Good s.shared)
    (hrest : ∀ i, Ensures Good (post i) none (s.rest i)) (schedule : List ι) :
    let t := schedule.foldl step s
    (t.owner = none → Good t.shared) ∧ ∀ i r, t.rest i = .ret r → post i r := by
  intro t
  have hstart : s.Promised Good post := ⟨fun _ => hgood, fun i => by simpa [hfree] using hrest i⟩
  have hend : t.Promised Good post := Run.inv schedule hstart fun _ i h => h.step i
  refine ⟨hend.free, fun i r hi => ?_⟩
  -- nobody returns while it has the lock
  have hne : t.owner ≠ some i := by
    rw [ne_eq, hend.owner_eq_iff, hi]
    simp
  have hret := hend.rest_of_ne hne
  rwa [hi] at hret

/-! ## Progress -/

/-- The steps of caller `i` alone up to the end of its program. -/
def Finishes (s : System ι σ ρ) (i : ι) (k : Nat) : Prop :=
  let t := (List.replicate k i).foldl System.step s
  t.Guarded ∧ t.owner = none ∧ (∃ r, t.rest i = .ret r) ∧ ∀ j, j ≠ i → t.rest j = s.rest j

/-- One step before. -/
theorem Finishes.succ {i : ι} {k : Nat} (h : (s.step i).Finishes i k)
    (hothers : ∀ j, j ≠ i → (s.step i).rest j = s.rest j) : s.Finishes i (k + 1) := by
  obtain ⟨hguarded, hfree, hdone, hsame⟩ := h
  exact ⟨hguarded, hfree, hdone, fun j hj => (hsame j hj).trans (hothers j hj)⟩

/-- A step changes the program of nobody else. -/
theorem rest_step_of_ne (s : System ι σ ρ) {i j : ι} (hj : j ≠ i) :
    (s.step i).rest j = s.rest j := by
  unfold System.step
  split
  · rfl
  · split
    · exact Function.update_of_ne hj _ _
    · rfl
  · exact Function.update_of_ne hj _ _
  · exact Function.update_of_ne hj _ _

/-- A caller can go on until its program has ended, unless another one has the lock. -/
theorem Guarded.finish (h : s.Guarded) {i : ι} (howner : s.owner = none ∨ s.owner = some i) :
    ∃ k, s.Finishes i k := by
  generalize hp : s.rest i = p
  induction p generalizing s with
  | ret r =>
    refine ⟨0, h, howner.resolve_right fun hi => ?_, ⟨r, hp⟩, fun _ _ => rfl⟩
    have hleads := h i
    simp [hp, hi, Leads] at hleads
  | lock p ih =>
    have hfree := howner.resolve_right (h.not_owner hp)
    have hstep : s.step i = { s with owner := some i, rest := Function.update s.rest i p } := by
      simp [System.step, hp, hfree]
    obtain ⟨k, hk⟩ := ih (s := s.step i) (h.step i) (Or.inr (by rw [hstep]))
      (by rw [hstep]; exact Function.update_self i p s.rest)
    exact ⟨k + 1, hk.succ fun _ hj => rest_step_of_ne s hj⟩
  | unlock p ih =>
    have hstep : s.step i = { s with owner := none, rest := Function.update s.rest i p } := by
      simp [System.step, hp]
    obtain ⟨k, hk⟩ := ih (s := s.step i) (h.step i) (Or.inl (by rw [hstep]))
      (by rw [hstep]; exact Function.update_self i p s.rest)
    exact ⟨k + 1, hk.succ fun _ hj => rest_step_of_ne s hj⟩
  | act effect next ih =>
    have hstep : s.step i = { s with
        shared := effect s.shared, rest := Function.update s.rest i (next s.shared) } := by
      simp [System.step, hp]
    obtain ⟨k, hk⟩ := ih s.shared (s := s.step i) (h.step i)
      (Or.inr (by rw [hstep]; exact h.owner_of_act hp))
      (by rw [hstep]; exact Function.update_self i _ s.rest)
    exact ⟨k + 1, hk.succ fun _ hj => rest_step_of_ne s hj⟩

/-- With a free lock all callers can finish, one after the other. -/
theorem Guarded.finish_all (h : s.Guarded) (hfree : s.owner = none) (callers : List ι) :
    ∃ schedule : List ι, let t := schedule.foldl System.step s
      t.Guarded ∧ t.owner = none ∧ ∀ i ∈ callers, ∃ r, t.rest i = .ret r := by
  induction callers with
  | nil => exact ⟨[], h, hfree, fun i hi => absurd hi List.not_mem_nil⟩
  | cons c callers ih =>
    obtain ⟨schedule, hguarded, hnone, hdone⟩ := ih
    obtain ⟨k, hlast, hnone', hc, hsame⟩ := hguarded.finish (i := c) (Or.inl hnone)
    refine ⟨schedule ++ List.replicate k c, ?_⟩
    simp only [List.foldl_append]
    refine ⟨hlast, hnone', fun i hi => ?_⟩
    by_cases hic : i = c
    · exact hic ▸ hc
    · rw [hsame i hic]
      exact hdone i ((List.mem_cons.mp hi).resolve_left hic)

/-- There is no deadlock: from every state of a run all callers can still finish. -/
theorem Guarded.can_finish (h : s.Guarded) (callers : List ι) :
    ∃ schedule : List ι, ∀ i ∈ callers, ∃ r, (schedule.foldl System.step s).rest i = .ret r := by
  -- first the caller that has the lock
  have hfirst : ∃ schedule : List ι, (schedule.foldl System.step s).Guarded ∧
      (schedule.foldl System.step s).owner = none := by
    cases howner : s.owner with
    | none => exact ⟨[], h, howner⟩
    | some j =>
      obtain ⟨k, hguarded, hfree, -, -⟩ := h.finish (Or.inr howner)
      exact ⟨List.replicate k j, hguarded, hfree⟩
  obtain ⟨first, hguarded, hfree⟩ := hfirst
  obtain ⟨schedule, -, -, hdone⟩ := hguarded.finish_all hfree callers
  refine ⟨first ++ schedule, fun i hi => ?_⟩
  rw [List.foldl_append]
  exact hdone i hi

end System

end Locking
