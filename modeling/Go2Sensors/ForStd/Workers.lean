import Mathlib.Algebra.Order.BigOperators.Group.Finset
import Mathlib.Data.Fintype.Card
import Go2Sensors.ForStd.Run

/-!
# Worker threads of one owner

An owner creates worker threads, switches them off by flags and joins them. A worker looks at
its flag between two turns of its loop, and ends when it finds it off; some workers end on
their own. A join waits for the end of its worker. Which workers may be running after each
command can be told from the commands alone (`Disciplined`, `runningAfter`), and then it holds
whenever the workers take their steps.

## Key results

- `Disciplined.step`: no worker is created while it runs, or joined while it is switched on
- `runningAfter_step`: which workers may run once all commands are done
- `Pool.Stays.step`: which workers do
- `todo_eq_nil_of_rounds`: all commands get done if everybody takes steps
-/

namespace Workers

/-- What the owner does. -/
inductive Command (W : Type) where
  | enable (w : W) (on : Bool)
  | join (w : W)
  | create (w : W)
deriving DecidableEq

/-- An owner and its workers. -/
structure Pool (W : Type) where
  running : W → Bool
  /-- the flags -/
  enabled : W → Bool
  /-- the number of steps after which a worker looks at its flag, at most -/
  left : W → Nat
  /-- the commands that are not done yet -/
  todo : List (Command W)

/-- A step of the owner, or of a worker. The latter says how many steps may follow before the
    worker looks at its flag, or that it is done. -/
inductive Event (W : Type) where
  | owner
  | work (w : W) (next : Option Nat)

variable {W : Type} [DecidableEq W]

namespace Pool

/-- The next command. A join waits while its worker runs. -/
def owner (p : Pool W) : Pool W :=
  match p.todo with
  | [] => p
  | .enable w on :: todo => { p with enabled := Function.update p.enabled w on, todo }
  | .join w :: todo => if p.running w then p else { p with todo }
  | .create w :: todo =>
    { p with
      running := Function.update p.running w true
      left := Function.update p.left w 0
      todo }

/-- The end of a worker. -/
def finish (p : Pool W) (w : W) : Pool W :=
  { p with running := Function.update p.running w false }

/-- A step of a worker. `lone` are those that end on their own after a turn. -/
def work (lone : W → Bool) (p : Pool W) (w : W) (next : Option Nat) : Pool W :=
  if p.running w then
    if p.left w = 0 then
      -- this is where it looks at the flag
      match next with
      | some n =>
        if p.enabled w && !lone w then { p with left := Function.update p.left w n }
        else p.finish w
      | none => p.finish w
    else { p with left := Function.update p.left w (min (p.left w - 1) (next.getD 0)) }
  else p

/-- A step. -/
def step (lone : W → Bool) (p : Pool W) : Event W → Pool W
  | .owner => p.owner
  | .work w next => p.work lone w next

end Pool

/-! ## Commands in good order -/

/-- The commands create no worker that may be running, and join none that may be running unless
    it is switched off or ends on its own. -/
def Disciplined (lone : W → Bool) : List (Command W) → (enabled running : W → Bool) → Prop
  | [], _, _ => True
  | .enable w on :: todo, enabled, running =>
    Disciplined lone todo (Function.update enabled w on) running
  | .join w :: todo, enabled, running =>
    (running w = true → lone w = true ∨ enabled w = false) ∧
      Disciplined lone todo enabled (Function.update running w false)
  | .create w :: todo, enabled, running =>
    running w = false ∧ Disciplined lone todo enabled (Function.update running w true)

/-- The workers that may be running when all commands are done. -/
def runningAfter : List (Command W) → (W → Bool) → W → Bool
  | [], running => running
  | .enable _ _ :: todo, running => runningAfter todo running
  | .join w :: todo, running => runningAfter todo (Function.update running w false)
  | .create w :: todo, running => runningAfter todo (Function.update running w true)

variable {lone : W → Bool} {p : Pool W}

/-- Fewer workers are running. -/
def Fewer (running running' : W → Bool) : Prop := ∀ w, running w = true → running' w = true

theorem Fewer.update {running running' : W → Bool} (h : Fewer running running') (w : W)
    (on : Bool) : Fewer (Function.update running w on) (Function.update running' w on) := by
  intro w'
  by_cases hw : w' = w
  · subst hw
    simp
  · simpa [hw] using h w'

/-- When fewer workers run the order is still good. -/
theorem Disciplined.mono {todo : List (Command W)} {enabled running running' : W → Bool}
    (h : Disciplined lone todo enabled running) (hfewer : Fewer running' running) :
    Disciplined lone todo enabled running' := by
  induction todo generalizing enabled running running' with
  | nil => trivial
  | cons c todo ih =>
    cases c with
    | enable w on => exact ih h hfewer
    | join w => exact ⟨fun hw => h.1 (hfewer w hw), ih h.2 (hfewer.update w false)⟩
    | create w =>
      refine ⟨?_, ih h.2 (hfewer.update w true)⟩
      -- who runs among the fewer runs among all
      by_contra hw
      have hrunning := hfewer w (by simpa using hw)
      rw [h.1] at hrunning
      exact Bool.false_ne_true hrunning

theorem runningAfter_mono {running running' : W → Bool} (hfewer : Fewer running' running)
    (todo : List (Command W)) : Fewer (runningAfter todo running') (runningAfter todo running) := by
  induction todo generalizing running running' with
  | nil => exact hfewer
  | cons c todo ih =>
    cases c with
    | enable w on => exact ih hfewer
    | join w => exact ih (hfewer.update w false)
    | create w => exact ih (hfewer.update w true)

/-! ## Steps -/

theorem fewer_finish (p : Pool W) (w : W) : Fewer (p.finish w).running p.running := by
  intro w' hw'
  by_cases hw : w' = w
  · subst hw
    simp [Pool.finish] at hw'
  · simpa [Pool.finish, hw] using hw'

/-- What a worker does: nothing, the end of its work, or a step of it. A worker that is switched
    off comes closer to its end. -/
theorem Pool.work_cases (lone : W → Bool) (p : Pool W) (w : W) (next : Option Nat) :
    (p.running w = false ∧ p.work lone w next = p) ∨
      (p.running w = true ∧ p.left w = 0 ∧ p.work lone w next = p.finish w) ∨
      (p.running w = true ∧ ∃ n ≤ next.getD 0,
        p.work lone w next = { p with left := Function.update p.left w n } ∧
        (lone w = true ∨ p.enabled w = false → n < p.left w)) := by
  unfold Pool.work
  cases hrunning : p.running w with
  | false => exact Or.inl ⟨rfl, rfl⟩
  | true =>
    right
    by_cases hleft : p.left w = 0
    · simp only [hleft, ↓reduceIte, true_and]
      cases next with
      | none => exact Or.inl rfl
      | some n =>
        cases hon : p.enabled w && !lone w with
        | false => exact Or.inl rfl
        | true =>
          right
          obtain ⟨hen, hlone⟩ : p.enabled w = true ∧ lone w = false := by simpa using hon
          -- it is switched on, so there is nothing to show about its end
          refine ⟨n, Nat.le_refl n, rfl, fun hoff => ?_⟩
          simp [hen, hlone] at hoff
    · simp only [hleft, ↓reduceIte, true_and]
      -- in the middle of a turn it only goes on
      exact Or.inr ⟨_, Nat.min_le_right _ _, rfl, fun _ => by omega⟩

/-- What the owner does. -/
theorem Pool.owner_cases (p : Pool W) :
    (p.todo = [] ∧ p.owner = p) ∨
      (∃ w on todo, p.todo = .enable w on :: todo ∧
        p.owner = { p with enabled := Function.update p.enabled w on, todo }) ∨
      (∃ w todo, p.todo = .join w :: todo ∧ p.running w = true ∧ p.owner = p) ∨
      (∃ w todo, p.todo = .join w :: todo ∧ p.running w = false ∧ p.owner = { p with todo }) ∨
      (∃ w todo, p.todo = .create w :: todo ∧
        p.owner = { p with
          running := Function.update p.running w true
          left := Function.update p.left w 0
          todo }) := by
  unfold Pool.owner
  cases htodo : p.todo with
  | nil => exact Or.inl ⟨rfl, rfl⟩
  | cons c todo =>
    right
    cases c with
    | enable w on => exact Or.inl ⟨w, on, todo, rfl, rfl⟩
    | join w =>
      right
      cases hrunning : p.running w with
      | true => exact Or.inl ⟨w, todo, rfl, hrunning, by simp [hrunning]⟩
      | false => exact Or.inr (Or.inl ⟨w, todo, rfl, hrunning, by simp [hrunning]⟩)
    | create w => exact Or.inr (Or.inr (Or.inr ⟨w, todo, rfl, rfl⟩))

/-- A worker leaves the flags and the commands alone. -/
theorem Pool.work_same (lone : W → Bool) (p : Pool W) (w : W) (next : Option Nat) :
    (p.work lone w next).enabled = p.enabled ∧ (p.work lone w next).todo = p.todo ∧
      Fewer (p.work lone w next).running p.running := by
  rcases p.work_cases lone w next with ⟨-, hsame⟩ | ⟨-, -, hend⟩ | ⟨-, n, -, hturn, -⟩
  · rw [hsame]
    exact ⟨rfl, rfl, fun _ hw => hw⟩
  · rw [hend]
    exact ⟨rfl, rfl, fewer_finish p w⟩
  · rw [hturn]
    exact ⟨rfl, rfl, fun _ hw => hw⟩

/-- Every step keeps the commands in good order. -/
theorem Disciplined.step (h : Disciplined lone p.todo p.enabled p.running) (e : Event W) :
    Disciplined lone (p.step lone e).todo (p.step lone e).enabled (p.step lone e).running := by
  cases e with
  | work w next =>
    obtain ⟨henabled, htodo, hfewer⟩ := p.work_same lone w next
    simp only [Pool.step, henabled, htodo]
    exact h.mono hfewer
  | owner =>
    simp only [Pool.step]
    rcases p.owner_cases with ⟨-, hsame⟩ | ⟨w, on, todo, htodo, hnext⟩ | ⟨w, todo, -, -, hsame⟩ |
      ⟨w, todo, htodo, hended, hnext⟩ | ⟨w, todo, htodo, hnext⟩
    · rwa [hsame]
    · rw [htodo] at h
      rw [hnext]
      exact h
    · rwa [hsame]
    · rw [htodo] at h
      rw [hnext]
      -- it was not running, so it is the same set of workers
      have hjoined := h.2
      rwa [← hended, Function.update_eq_self] at hjoined
    · rw [htodo] at h
      rw [hnext]
      exact h.2

/-- A step never adds to the workers that may be running in the end. -/
theorem runningAfter_step (lone : W → Bool) (p : Pool W) (e : Event W) :
    Fewer (runningAfter (p.step lone e).todo (p.step lone e).running)
      (runningAfter p.todo p.running) := by
  cases e with
  | work w next =>
    obtain ⟨-, htodo, hfewer⟩ := p.work_same lone w next
    simp only [Pool.step, htodo]
    exact runningAfter_mono hfewer p.todo
  | owner =>
    simp only [Pool.step]
    rcases p.owner_cases with ⟨-, hsame⟩ | ⟨w, on, todo, htodo, hnext⟩ | ⟨w, todo, -, -, hsame⟩ |
      ⟨w, todo, htodo, hended, hnext⟩ | ⟨w, todo, htodo, hnext⟩
    · rw [hsame]
      exact fun _ hw => hw
    · rw [hnext, htodo]
      exact fun _ hw => hw
    · rw [hsame]
      exact fun _ hw => hw
    · rw [hnext, htodo, runningAfter, ← hended, Function.update_eq_self]
      exact fun _ hw => hw
    · rw [hnext, htodo]
      exact fun _ hw => hw

/-- A worker that does not run is not in the middle of a turn. -/
theorem left_eq_zero_step (h : ∀ w, p.running w = false → p.left w = 0) (e : Event W) (w : W)
    (hrest : (p.step lone e).running w = false) : (p.step lone e).left w = 0 := by
  cases e with
  | owner =>
    simp only [Pool.step] at hrest ⊢
    rcases p.owner_cases with ⟨-, hsame⟩ | ⟨w', on, todo, -, hnext⟩ | ⟨w', todo, -, -, hsame⟩ |
      ⟨w', todo, -, -, hnext⟩ | ⟨w', todo, -, hnext⟩
    · rw [hsame] at hrest ⊢
      exact h w hrest
    · rw [hnext] at hrest ⊢
      exact h w hrest
    · rw [hsame] at hrest ⊢
      exact h w hrest
    · rw [hnext] at hrest ⊢
      exact h w hrest
    · rw [hnext] at hrest ⊢
      simp only [Function.update_apply] at hrest ⊢
      split at hrest
      · exact absurd hrest.symm Bool.false_ne_true
      · rename_i hw
        rw [if_neg hw]
        exact h w hrest
  | work w' next =>
    simp only [Pool.step] at hrest ⊢
    rcases p.work_cases lone w' next with ⟨-, hsame⟩ | ⟨-, hleft, hend⟩ | ⟨hrunning, n, -, hturn, -⟩
    · rw [hsame] at hrest ⊢
      exact h w hrest
    · -- it ends at the head of its loop
      rw [hend] at hrest ⊢
      show p.left w = 0
      by_cases hw : w = w'
      · rwa [hw]
      · exact h w (by simpa [Pool.finish, hw] using hrest)
    · rw [hturn] at hrest ⊢
      -- the worker that took the step is running
      have hw : w ≠ w' := by
        rintro rfl
        exact Bool.false_ne_true (hrest.symm.trans hrunning)
      simpa [hw] using h w hrest

/-- There are never more commands left. -/
theorem length_todo_step_le (lone : W → Bool) (p : Pool W) (e : Event W) :
    (p.step lone e).todo.length ≤ p.todo.length := by
  cases e with
  | work w next => exact Nat.le_of_eq (congrArg _ (p.work_same lone w next).2.1)
  | owner =>
    simp only [Pool.step]
    rcases p.owner_cases with ⟨-, hsame⟩ | ⟨w, on, todo, htodo, hnext⟩ | ⟨w, todo, -, -, hsame⟩ |
      ⟨w, todo, htodo, -, hnext⟩ | ⟨w, todo, htodo, hnext⟩
    · rw [hsame]
    · rw [hnext, htodo]
      exact Nat.le_succ _
    · rw [hsame]
    · rw [hnext, htodo]
      exact Nat.le_succ _
    · rw [hnext, htodo]
      exact Nat.le_succ _

/-! ## Workers that are there in the end -/

/-- The worker will be running when all commands are done. `up` says that it is running now and
    switched on. -/
def staysAfter (w : W) : List (Command W) → (on up : Bool) → Bool
  | [], on, up => on && up
  | .enable w' b :: todo, on, up =>
    if w' = w then staysAfter w todo b (up && b) else staysAfter w todo on up
  | .join w' :: todo, on, up => staysAfter w todo on (up && w' != w)
  | .create w' :: todo, on, up => staysAfter w todo on (if w' = w then on else up)

/-- The commands leave the worker running. -/
def Pool.Stays (p : Pool W) (w : W) : Prop :=
  staysAfter w p.todo (p.enabled w) (p.running w && p.enabled w) = true

theorem staysAfter_mono (w : W) (todo : List (Command W)) {on up up' : Bool}
    (h : staysAfter w todo on up = true) (hup : up = true → up' = true) :
    staysAfter w todo on up' = true := by
  induction todo generalizing on up up' with
  | nil =>
    simp only [staysAfter, Bool.and_eq_true] at h ⊢
    exact ⟨h.1, hup h.2⟩
  | cons c todo ih =>
    cases c with
    | enable w' b =>
      simp only [staysAfter] at h ⊢
      split
      · rename_i hw
        rw [if_pos hw] at h
        exact ih h (by simpa using fun hu hb => ⟨hup hu, hb⟩)
      · rename_i hw
        rw [if_neg hw] at h
        exact ih h hup
    | join w' => exact ih h (by simpa using fun hu hw => ⟨hup hu, hw⟩)
    | create w' =>
      refine ih h ?_
      split
      · exact id
      · exact hup

/-- It still will after a step, unless it ends on its own. -/
theorem Pool.Stays.step {w : W} (h : p.Stays w) (hlone : lone w = false) {e : Event W}
    (he : e ≠ .work w none) : (p.step lone e).Stays w := by
  unfold Pool.Stays at h ⊢
  cases e with
  | owner =>
    simp only [Pool.step]
    rcases p.owner_cases with ⟨-, hsame⟩ | ⟨w', on, todo, htodo, hnext⟩ | ⟨w', todo, -, -, hsame⟩ |
      ⟨w', todo, htodo, hended, hnext⟩ | ⟨w', todo, htodo, hnext⟩
    · rwa [hsame]
    · rw [htodo, staysAfter] at h
      rw [hnext]
      by_cases hw : w' = w
      · subst hw
        rw [if_pos rfl] at h
        refine staysAfter_mono _ _ (by simpa using h) ?_
        simpa using fun hr _ ho => ⟨hr, ho⟩
      · rw [if_neg hw] at h
        simpa [Function.update_of_ne (Ne.symm hw)] using h
    · rwa [hsame]
    · rw [htodo, staysAfter] at h
      rw [hnext]
      exact staysAfter_mono _ _ h (by simp +contextual)
    · rw [htodo, staysAfter] at h
      rw [hnext]
      by_cases hw : w' = w
      · subst hw
        simpa using h
      · simpa [hw, Function.update_of_ne (Ne.symm hw)] using h
  | work w' next =>
    obtain ⟨henabled, htodo, -⟩ := p.work_same lone w' next
    simp only [Pool.step, henabled, htodo]
    -- the commands are the same; what is to show is that the worker is still up
    refine staysAfter_mono _ _ h fun hup => ?_
    obtain ⟨hrunning, hon⟩ : p.running w = true ∧ p.enabled w = true := by simpa using hup
    by_cases hw : w' = w
    · subst hw
      cases next with
      | none => exact absurd rfl he
      | some n =>
        simp only [Pool.work, hrunning, hon, hlone, ↓reduceIte, Bool.not_false, Bool.and_self]
        split <;> simp [hrunning]
    · rcases p.work_cases lone w' next with ⟨-, hsame⟩ | ⟨-, -, hend⟩ | ⟨-, n, -, hturn, -⟩
      · rwa [hsame]
      · rw [hend]
        simpa [Pool.finish, Function.update_of_ne (Ne.symm hw)] using ⟨hrunning, hon⟩
      · rwa [hturn]

/-! ## All commands get done -/

variable [Fintype W]

/-- How far a worker is from its end, if it is going to end. -/
def Pool.toEnd (lone : W → Bool) (p : Pool W) (w : W) : Nat :=
  if p.running w && (lone w || !p.enabled w) then p.left w + 1 else 0

/-- What is left to do, if no turn takes more than `bound` steps. -/
def Pool.measure (lone : W → Bool) (bound : Nat) (p : Pool W) : Nat :=
  (bound + 2) * p.todo.length + ∑ w, p.toEnd lone w

omit [DecidableEq W] in
/-- A bound for what is left to do. -/
theorem measure_le {bound : Nat} (hbound : ∀ w, p.left w ≤ bound) :
    p.measure lone bound ≤ (bound + 2) * p.todo.length + Fintype.card W * (bound + 1) := by
  -- no worker is further from its end than a whole turn
  have hsum : ∑ w, p.toEnd lone w ≤ (Finset.univ : Finset W).card • (bound + 1) := by
    apply Finset.sum_le_card_nsmul
    intro w _
    have hw := hbound w
    unfold Pool.toEnd
    split <;> omega
  rw [Finset.card_univ, Nat.nsmul_eq_mul] at hsum
  exact Nat.add_le_add_left hsum _

/-- The measure changes by what changes for one worker, and by the commands that are done. -/
theorem measure_add_eq (lone : W → Bool) (bound : Nat) {p q : Pool W} (w : W)
    (h : ∀ w', w' ≠ w → q.toEnd lone w' = p.toEnd lone w') :
    q.measure lone bound + (bound + 2) * p.todo.length + p.toEnd lone w =
      p.measure lone bound + (bound + 2) * q.todo.length + q.toEnd lone w := by
  -- in the sum only the term of the worker differs
  have hrest : ∑ w' ∈ Finset.univ.erase w, q.toEnd lone w' =
      ∑ w' ∈ Finset.univ.erase w, p.toEnd lone w' :=
    Finset.sum_congr rfl fun w' hw' => h w' (Finset.ne_of_mem_erase hw')
  have hp := Finset.add_sum_erase Finset.univ (p.toEnd lone) (Finset.mem_univ w)
  have hq := Finset.add_sum_erase Finset.univ (q.toEnd lone) (Finset.mem_univ w)
  unfold Pool.measure
  omega

/-- No turn of a worker takes more than `bound` steps. -/
def Event.Bounded (bound : Nat) : Event W → Prop
  | .owner => True
  | .work _ next => next.getD 0 ≤ bound

omit [Fintype W] in
/-- The bound holds from step to step. -/
theorem left_le_step {bound : Nat} (h : ∀ w, p.left w ≤ bound) {e : Event W}
    (he : e.Bounded bound) (w : W) : (p.step lone e).left w ≤ bound := by
  cases e with
  | owner =>
    simp only [Pool.step]
    rcases p.owner_cases with ⟨-, hsame⟩ | ⟨w', on, todo, -, hnext⟩ | ⟨w', todo, -, -, hsame⟩ |
      ⟨w', todo, -, -, hnext⟩ | ⟨w', todo, -, hnext⟩
    · rw [hsame]
      exact h w
    · rw [hnext]
      exact h w
    · rw [hsame]
      exact h w
    · rw [hnext]
      exact h w
    · rw [hnext]
      simp only [Function.update_apply]
      split
      · exact Nat.zero_le bound
      · exact h w
  | work w' next =>
    simp only [Pool.step]
    rcases p.work_cases lone w' next with ⟨-, hsame⟩ | ⟨-, -, hend⟩ | ⟨-, n, hn, hturn, -⟩
    · rw [hsame]
      exact h w
    · rw [hend]
      exact h w
    · rw [hturn]
      simp only [Function.update_apply]
      split
      · exact Nat.le_trans hn he
      · exact h w

/-- A step of a worker brings nobody further away from the end, and itself closer if it is
    switched off. -/
theorem measure_work (lone : W → Bool) (bound : Nat) (p : Pool W) (w : W) (next : Option Nat) :
    (p.work lone w next).measure lone bound ≤ p.measure lone bound ∧
      (p.running w = true → lone w = true ∨ p.enabled w = false →
        (p.work lone w next).measure lone bound < p.measure lone bound) := by
  have hoff : p.running w = true → lone w = true ∨ p.enabled w = false →
      p.toEnd lone w = p.left w + 1 := by
    intro hrunning hoff
    rw [Pool.toEnd, if_pos]
    simpa [hrunning] using hoff
  rcases p.work_cases lone w next with ⟨hnot, hsame⟩ | ⟨-, -, hend⟩ | ⟨hrunning, n, -, hturn, hless⟩
  · rw [hsame]
    exact ⟨Nat.le_refl _, fun hrunning => by simp [hnot] at hrunning⟩
  · have hdiff := measure_add_eq lone bound (p := p) (q := p.finish w) w fun w' hw' => by
      simp [Pool.toEnd, Pool.finish, hw']
    have hzero : (p.finish w).toEnd lone w = 0 := by simp [Pool.toEnd, Pool.finish]
    rw [hend]
    have htodo : (p.finish w).todo = p.todo := rfl
    rw [hzero, htodo] at hdiff
    exact ⟨by omega, fun hrunning hno => by have := hoff hrunning hno; omega⟩
  · have hdiff := measure_add_eq lone bound (p := p)
      (q := { p with left := Function.update p.left w n }) w fun w' hw' => by
        simp [Pool.toEnd, hw']
    rw [hturn]
    simp only at hdiff
    by_cases hno : lone w = true ∨ p.enabled w = false
    · have hbefore := hoff hrunning hno
      have hlt := hless hno
      have hafter : ({ p with left := Function.update p.left w n } : Pool W).toEnd lone w =
          n + 1 := by
        rw [Pool.toEnd, if_pos]
        · simp
        · simpa [hrunning] using hno
      exact ⟨by omega, fun _ _ => by omega⟩
    · -- a worker that is switched on does not count, neither before nor after
      have hon : (lone w || !p.enabled w) = false := by simpa using hno
      have hbefore : p.toEnd lone w = 0 := by simp [Pool.toEnd, hon]
      have hafter : ({ p with left := Function.update p.left w n } : Pool W).toEnd lone w = 0 := by
        simp [Pool.toEnd, hon]
      exact ⟨by omega, fun _ h => absurd h hno⟩

/-- The owner waits. -/
def Pool.Blocked (p : Pool W) (w : W) : Prop :=
  ∃ todo, p.todo = .join w :: todo ∧ p.running w = true

/-- A step of the owner adds nothing to what is left to do, and takes from it unless there is
    nothing or the owner waits. -/
theorem measure_owner (lone : W → Bool) {bound : Nat} (hbound : ∀ w, p.left w ≤ bound) :
    p.owner.measure lone bound < p.measure lone bound ∨
      p.owner = p ∧ (p.todo = [] ∨ ∃ w, p.Blocked w) := by
  have htoEnd : ∀ (q : Pool W) (w : W), q.left w ≤ bound → q.toEnd lone w ≤ bound + 1 := by
    intro q w hle
    unfold Pool.toEnd
    split <;> omega
  rcases p.owner_cases with ⟨hnone, hsame⟩ | ⟨w, on, todo, htodo, hnext⟩ |
    ⟨w, todo, htodo, hrunning, hsame⟩ | ⟨w, todo, htodo, -, hnext⟩ | ⟨w, todo, htodo, hnext⟩
  · exact Or.inr ⟨hsame, Or.inl hnone⟩
  · left
    have hdiff := measure_add_eq lone bound (p := p) (q := p.owner) w fun w' hw' => by
      simp [hnext, Pool.toEnd, hw']
    -- the command that is done outweighs a turn that counts from now on
    have hle := htoEnd p.owner w (by rw [hnext]; exact hbound w)
    rw [htodo, hnext, List.length_cons, Nat.mul_succ] at hdiff
    rw [hnext] at hle ⊢
    simp only at hdiff
    omega
  · exact Or.inr ⟨hsame, Or.inr ⟨w, todo, htodo, hrunning⟩⟩
  · left
    have hdiff := measure_add_eq lone bound (p := p) (q := p.owner) w fun w' hw' => by
      simp [hnext, Pool.toEnd]
    -- a join changes nothing for the workers
    have hsame : p.owner.toEnd lone w = p.toEnd lone w := by simp [hnext, Pool.toEnd]
    rw [hsame, htodo, hnext, List.length_cons, Nat.mul_succ] at hdiff
    rw [hnext]
    simp only at hdiff
    omega
  · left
    have hdiff := measure_add_eq lone bound (p := p) (q := p.owner) w fun w' hw' => by
      simp [hnext, Pool.toEnd, hw']
    have hle := htoEnd p.owner w (by rw [hnext]; simp)
    rw [htodo, hnext, List.length_cons, Nat.mul_succ] at hdiff
    rw [hnext] at hle ⊢
    simp only at hdiff
    omega

/-- No step adds to what is left to do. -/
theorem measure_step_le {bound : Nat} (hbound : ∀ w, p.left w ≤ bound) (e : Event W) :
    (p.step lone e).measure lone bound ≤ p.measure lone bound := by
  cases e with
  | work w next => exact (measure_work lone bound p w next).1
  | owner =>
    rcases measure_owner lone hbound with hless | ⟨hsame, -⟩
    · exact Nat.le_of_lt hless
    · exact Nat.le_of_eq (congrArg _ hsame)

/-- Everybody takes a step. -/
structure IsRound (bound : Nat) (events : List (Event W)) : Prop where
  owner : .owner ∈ events
  work : ∀ w, ∃ next, .work w next ∈ events
  bounded : ∀ e ∈ events, e.Bounded bound

theorem measure_foldl_le {bound : Nat} (events : List (Event W))
    (hbound : ∀ w, p.left w ≤ bound) (hevents : ∀ e ∈ events, e.Bounded bound) :
    (events.foldl (Pool.step lone) p).measure lone bound ≤ p.measure lone bound := by
  induction events generalizing p with
  | nil => exact Nat.le_refl _
  | cons e events ih =>
    have hrest := ih (p := p.step lone e)
      (fun w => left_le_step hbound (hevents e List.mem_cons_self) w)
      fun e' he' => hevents e' (List.mem_cons_of_mem e he')
    exact Nat.le_trans hrest (measure_step_le hbound e)

/-- An owner that does not wait does a command. -/
theorem measure_lt_of_free {bound : Nat} {events : List (Event W)}
    (hbound : ∀ w, p.left w ≤ bound) (hevents : ∀ e ∈ events, e.Bounded bound)
    (hmem : .owner ∈ events) (htodo : p.todo ≠ []) (hfree : ∀ w, ¬ p.Blocked w) :
    (events.foldl (Pool.step lone) p).measure lone bound < p.measure lone bound := by
  induction events generalizing p with
  | nil => exact absurd hmem List.not_mem_nil
  | cons e events ih =>
    have hbound' : ∀ w, (p.step lone e).left w ≤ bound :=
      left_le_step hbound (hevents e List.mem_cons_self)
    have hevents' := fun e' he' => hevents e' (List.mem_cons_of_mem e he')
    cases e with
    | owner =>
      have hless := (measure_owner lone hbound).resolve_right fun ⟨_, hnot⟩ =>
        hnot.elim htodo fun ⟨w, hw⟩ => hfree w hw
      exact Nat.lt_of_le_of_lt (measure_foldl_le events hbound' hevents') hless
    | work w next =>
      obtain ⟨-, hsame, hfewer⟩ := p.work_same lone w next
      -- a step of a worker makes nobody run, so the owner is still free
      have hrest := ih (p := p.work lone w next) hbound' hevents' (by simpa using hmem)
        (by rwa [hsame]) fun w' ⟨todo, hjoin, hrunning⟩ =>
          hfree w' ⟨todo, hsame ▸ hjoin, hfewer w' hrunning⟩
      exact Nat.lt_of_lt_of_le hrest (measure_work lone bound p w next).1

/-- A worker that is waited for comes closer to its end. -/
theorem measure_lt_of_blocked {bound : Nat} {events : List (Event W)} {w : W}
    (hbound : ∀ w, p.left w ≤ bound) (hevents : ∀ e ∈ events, e.Bounded bound)
    (hmem : ∃ next, .work w next ∈ events) (hblocked : p.Blocked w)
    (hoff : lone w = true ∨ p.enabled w = false) :
    (events.foldl (Pool.step lone) p).measure lone bound < p.measure lone bound := by
  induction events generalizing p with
  | nil =>
    obtain ⟨next, hnext⟩ := hmem
    exact absurd hnext List.not_mem_nil
  | cons e events ih =>
    have hbound' : ∀ w, (p.step lone e).left w ≤ bound :=
      left_le_step hbound (hevents e List.mem_cons_self)
    have hevents' := fun e' he' => hevents e' (List.mem_cons_of_mem e he')
    obtain ⟨todo, hjoin, hrunning⟩ := hblocked
    cases e with
    | owner =>
      -- the owner waits
      have hsame : p.step lone .owner = p := by
        simp [Pool.step, Pool.owner, hjoin, hrunning]
      rw [List.foldl_cons, hsame]
      exact ih hbound hevents' (by simpa using hmem) ⟨todo, hjoin, hrunning⟩ hoff
    | work w' next =>
      by_cases hw : w' = w
      · subst hw
        have hless := (measure_work lone bound p w' next).2 hrunning hoff
        exact Nat.lt_of_le_of_lt (measure_foldl_le events hbound' hevents') hless
      · -- the step of another worker: ours runs on, and is still waited for
        have hle := (measure_work lone bound p w' next).1
        have hother : (p.work lone w' next).running w = p.running w := by
          rcases p.work_cases lone w' next with ⟨-, h⟩ | ⟨-, -, h⟩ | ⟨-, n, -, h, -⟩
          · rw [h]
          · rw [h]
            exact Function.update_of_ne (Ne.symm hw) _ _
          · rw [h]
        obtain ⟨henabled, hsame, -⟩ := p.work_same lone w' next
        have hrest := ih (p := p.work lone w' next) hbound' hevents'
          (by simpa [Ne.symm hw] using hmem) ⟨todo, hsame ▸ hjoin, hother ▸ hrunning⟩
          (by rwa [henabled])
        exact Nat.lt_of_lt_of_le hrest hle

/-- In a round something gets done. -/
theorem measure_lt_of_round {bound : Nat} {events : List (Event W)}
    (h : Disciplined lone p.todo p.enabled p.running) (hbound : ∀ w, p.left w ≤ bound)
    (hround : IsRound bound events) (htodo : p.todo ≠ []) :
    (events.foldl (Pool.step lone) p).measure lone bound < p.measure lone bound := by
  by_cases hblocked : ∃ w, p.Blocked w
  · obtain ⟨w, todo, hjoin, hrunning⟩ := hblocked
    rw [hjoin] at h
    -- in good order, who is waited for is switched off or ends alone
    exact measure_lt_of_blocked hbound hround.bounded (hround.work w) ⟨todo, hjoin, hrunning⟩
      (h.1 hrunning)
  · exact measure_lt_of_free hbound hround.bounded hround.owner htodo
      fun w hw => hblocked ⟨w, hw⟩

omit [Fintype W] in
/-- What is done stays done. -/
theorem todo_step_of_nil (htodo : p.todo = []) (e : Event W) : (p.step lone e).todo = [] := by
  cases e with
  | owner => simp [Pool.step, Pool.owner, htodo]
  | work w next => exact (p.work_same lone w next).2.1.trans htodo

/-- After as many rounds as the measure says all commands are done. -/
theorem todo_eq_nil_of_rounds {bound : Nat} {rounds : List (List (Event W))}
    (h : Disciplined lone p.todo p.enabled p.running) (hbound : ∀ w, p.left w ≤ bound)
    (hrounds : ∀ events ∈ rounds, IsRound bound events)
    (hmany : p.measure lone bound ≤ rounds.length) :
    (rounds.flatten.foldl (Pool.step lone) p).todo = [] := by
  induction rounds generalizing p with
  | nil =>
    have hnone : (bound + 2) * p.todo.length = 0 := by
      unfold Pool.measure at hmany
      rw [List.length_nil] at hmany
      omega
    exact List.length_eq_zero_iff.mp ((Nat.mul_eq_zero.mp hnone).resolve_left (by omega))
  | cons events rounds ih =>
    rw [List.flatten_cons, List.foldl_append]
    have hround := hrounds events List.mem_cons_self
    by_cases htodo : p.todo = []
    · rw [← List.foldl_append]
      exact Run.inv (P := fun p : Pool W => p.todo = []) _ htodo fun _ e ht => todo_step_of_nil ht e
    · have hless := measure_lt_of_round h hbound hround htodo
      rw [List.length_cons] at hmany
      apply ih
      · exact Run.inv (P := fun p : Pool W => Disciplined lone p.todo p.enabled p.running) _ h
          fun _ e hp => hp.step e
      · have hall : Run.EachStep (Pool.step lone) (fun _ e => e.Bounded bound) p events :=
          Run.eachStep_of_inv (P := fun _ => True) trivial (fun _ _ _ _ => trivial)
            fun _ e he _ => hround.bounded e he
        exact hall.inv (P := fun p : Pool W => ∀ w, p.left w ≤ bound) hbound
          fun _ e hp he => left_le_step hp he
      · exact fun events' he' => hrounds events' (List.mem_cons_of_mem events he')
      · omega

end Workers
