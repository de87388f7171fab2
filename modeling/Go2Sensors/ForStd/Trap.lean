import Go2Sensors.ForStd.Run

/-!
# Scripts with a trap

A shell runs the commands of a script one after the other; a command may leave further
commands to be run next, such as the body of a loop. A signal is handled between two
commands: the handler runs, and unless it exits the script goes on where it was. At the end
of the script the handler runs once more. Signals may also arrive while the handler runs.

## Key results

- `nothingAfter_of_late`, `late_of_nothingAfter`: when nothing is started after the handler
- `Ensures.at_exit`: what the handler leaves behind
-/

namespace Trap

open Run

/-- A script with a handler. Commands have an effect on a state, which may depend on an
    input, and leave commands to be run next. -/
structure Script (σ κ ι : Type) where
  exec : σ → κ → ι → σ × List κ
  handler : List κ

/-- A shell that runs a script. -/
structure Shell (σ κ : Type) where
  state : σ
  /-- the commands that are still to be run -/
  todo : List κ
  /-- the commands that were run, oldest first -/
  trace : List κ
  /-- does the handler run for the last time? -/
  exiting : Bool

/-- What happens next. -/
inductive Event (ι : Type) where
  | signal
  | command (input : ι)

variable {σ κ ι : Type}

namespace Shell

/-- The script has ended. -/
def terminated (s : Shell σ κ) : Bool := s.todo.isEmpty && s.exiting

/-- A signal puts the handler in front of the commands, the end of the script starts it. -/
def step (p : Script σ κ ι) (s : Shell σ κ) : Event ι → Shell σ κ
  | .signal => if s.terminated then s else { s with todo := p.handler ++ s.todo }
  | .command input =>
    match s.todo with
    | c :: todo =>
      let next := p.exec s.state c input
      { s with state := next.1, todo := next.2 ++ todo, trace := s.trace ++ [c] }
    | [] => if s.exiting then s else { s with todo := p.handler, exiting := true }

end Shell

variable {p : Script σ κ ι} {s : Shell σ κ}

theorem step_command {c : κ} {todo : List κ} (htodo : s.todo = c :: todo) (input : ι) :
    s.step p (.command input) = { s with
      state := (p.exec s.state c input).1
      todo := (p.exec s.state c input).2 ++ todo
      trace := s.trace ++ [c] } := by
  simp only [Shell.step, htodo]

theorem step_end (htodo : s.todo = []) (input : ι) :
    s.step p (.command input) =
      if s.exiting then s else { s with todo := p.handler, exiting := true } := by
  simp only [Shell.step, htodo]

/-- A property of the shell that is kept by signals, by each command and by the end of the
    script is kept by every step. -/
theorem step_inv {P : Shell σ κ → Prop} (h : P s)
    (hsignal : P { s with todo := p.handler ++ s.todo })
    (hcommand : ∀ c todo input, s.todo = c :: todo → P { s with
      state := (p.exec s.state c input).1
      todo := (p.exec s.state c input).2 ++ todo
      trace := s.trace ++ [c] })
    (hend : s.todo = [] → P { s with todo := p.handler, exiting := true }) (e : Event ι) :
    P (s.step p e) := by
  cases e with
  | signal =>
    rw [Shell.step]
    split
    · exact h
    · exact hsignal
  | command input =>
    cases htodo : s.todo with
    | nil =>
      rw [step_end htodo]
      split
      · exact h
      · exact hend htodo
    | cons c todo =>
      rw [step_command htodo]
      exact hcommand c todo input htodo

/-! ## What is started after the handler -/

/-- After the first `mark` no command of a kind is run. -/
def NothingAfter (Start : κ → Prop) (mark : κ) (trace : List κ) : Prop :=
  ∀ pre post, trace = pre ++ mark :: post → ∀ c ∈ post, ¬ Start c

/-- A signal arrives when no command of this kind is still to be run. -/
def Late (Start : κ → Prop) (s : Shell σ κ) : Event ι → Prop
  | .signal => ∀ c ∈ s.todo, ¬ Start c
  | .command _ => True

instance (Start : κ → Prop) [DecidablePred Start] (s : Shell σ κ) :
    (e : Event ι) → Decidable (Late Start s e)
  | .signal => inferInstanceAs (Decidable (∀ c ∈ s.todo, ¬ Start c))
  | .command _ => isTrue trivial

/-- The handler runs `mark` and starts nothing, and commands leave neither of both. -/
structure Quiet (p : Script σ κ ι) (Start : κ → Prop) (mark : κ) : Prop where
  handler : ∀ c ∈ p.handler, ¬ Start c
  mark_mem : mark ∈ p.handler
  exec : ∀ s c input, ∀ c' ∈ (p.exec s c input).2, ¬ Start c' ∧ c' ≠ mark

section Quiet

variable {Start : κ → Prop} {mark : κ}

/-- As soon as the handler has started nothing is to be started any more. -/
structure QuietInv (Start : κ → Prop) (mark : κ) (s : Shell σ κ) : Prop where
  trace : NothingAfter Start mark s.trace
  todo : mark ∈ s.todo ∨ mark ∈ s.trace → ∀ c ∈ s.todo, ¬ Start c

/-- A command goes to the end of the trace. -/
theorem NothingAfter.concat {trace : List κ} {c : κ} (h : NothingAfter Start mark trace)
    (hc : mark ∈ trace → ¬ Start c) : NothingAfter Start mark (trace ++ [c]) := by
  intro pre post hsplit
  rcases List.eq_nil_or_concat post with rfl | ⟨post', last, rfl⟩
  · intro c' hc'
    exact absurd hc' List.not_mem_nil
  · rw [List.concat_eq_append, ← List.cons_append, ← List.append_assoc] at hsplit
    -- the mark stands before the new command
    obtain ⟨htrace, hlast⟩ := List.append_inj' hsplit rfl
    obtain rfl : c = last := by simpa using hlast
    intro c' hc'
    rw [List.concat_eq_append] at hc'
    rcases List.mem_append.mp hc' with hold | hnew
    · exact h pre post' htrace c' hold
    · rw [List.mem_singleton.mp hnew]
      exact hc (by simp [htrace])

/-- Such a step. -/
theorem QuietInv.step (hp : Quiet p Start mark) (h : QuietInv Start mark s) {e : Event ι}
    (he : Late Start s e) : QuietInv Start mark (s.step p e) := by
  cases e with
  | signal =>
    -- nothing is to be started, neither by the script nor by the handler
    have hlate : ∀ c ∈ s.todo, ¬ Start c := he
    rw [Shell.step]
    split
    · exact h
    · refine ⟨h.trace, fun _ c hc => ?_⟩
      rcases List.mem_append.mp hc with hc | hc
      · exact hp.handler c hc
      · exact hlate c hc
  | command input =>
    cases htodo : s.todo with
    | nil =>
      rw [step_end htodo]
      split
      · exact h
      · exact ⟨h.trace, fun _ => hp.handler⟩
    | cons c todo =>
      rw [step_command htodo]
      -- the next command of the script
      have hquiet := h.todo
      rw [htodo] at hquiet
      refine ⟨h.trace.concat fun hmark => hquiet (Or.inr hmark) c List.mem_cons_self,
        fun hmark c' hc' => ?_⟩
      rcases List.mem_append.mp hc' with hnext | hrest
      · exact (hp.exec _ _ _ c' hnext).1
      · refine hquiet ?_ c' (List.mem_cons_of_mem c hrest)
        -- where the mark is now, and where it was
        rcases hmark with hmark | hmark
        · rcases List.mem_append.mp hmark with hnext | hold
          · exact absurd rfl (hp.exec _ _ _ mark hnext).2
          · exact Or.inl (List.mem_cons_of_mem c hold)
        · rcases List.mem_append.mp hmark with hold | hnew
          · exact Or.inr hold
          · exact Or.inl (List.mem_singleton.mp hnew ▸ List.mem_cons_self)

/-- If all signals are late, nothing is started after the handler has run. -/
theorem nothingAfter_of_late (hp : Quiet p Start mark) {events : List (Event ι)}
    (hmark : mark ∉ s.todo) (htrace : s.trace = [])
    (h : EachStep (Shell.step p) (Late Start) s events) :
    NothingAfter Start mark (events.foldl (Shell.step p) s).trace := by
  have hinit : QuietInv Start mark s := by
    refine ⟨fun pre post hsplit => ?_, fun hmem => ?_⟩
    · rw [htrace] at hsplit
      simp at hsplit
    · rw [htrace] at hmem
      exact absurd (hmem.resolve_right List.not_mem_nil) hmark
  exact (h.inv hinit fun s e hs he => hs.step hp he).trace

/-- The handler is run, or is going to be run, before something is started. -/
def Loud (Start : κ → Prop) (mark : κ) (s : Shell σ κ) : Prop :=
  ∃ c, Start c ∧ [mark, c].Sublist (s.trace ++ s.todo)

/-- No step takes this back: what was run and what is to be run only grows. -/
theorem Loud.step (h : Loud Start mark s) (e : Event ι) : Loud Start mark (s.step p e) := by
  obtain ⟨c, hc, hsub⟩ := h
  refine ⟨c, hc, hsub.trans ?_⟩
  refine step_inv (P := fun s' : Shell σ κ => (s.trace ++ s.todo).Sublist (s'.trace ++ s'.todo))
    (List.Sublist.refl _) ?_ (fun c todo input htodo => ?_) (fun htodo => ?_) e
  · exact (List.Sublist.refl _).append (List.sublist_append_right _ _)
  · rw [htodo, List.append_assoc, List.singleton_append]
    exact (List.Sublist.refl _).append ((List.sublist_append_right _ _).cons_cons c)
  · rw [htodo, List.append_nil]
    exact List.sublist_append_left _ _

/-- What comes after the mark in a list. -/
theorem not_nothingAfter {trace : List κ} {c : κ} (hc : Start c)
    (h : [mark, c].Sublist trace) : ¬ NothingAfter Start mark trace := by
  obtain ⟨front, back, htrace, hmark, hback⟩ := List.cons_sublist_iff.mp h
  -- the first part has the mark, and what is started comes later
  obtain ⟨pre, post, hfront⟩ := List.append_of_mem hmark
  intro hnothing
  refine hnothing pre (post ++ back) ?_ c ?_ hc
  · rw [htrace, hfront, List.append_assoc, List.cons_append]
  · exact List.mem_append_right _ (List.singleton_sublist.mp hback)

/-- If nothing was started up to the end of the script, all signals were late. -/
theorem late_of_nothingAfter (hmark : mark ∈ p.handler) {events : List (Event ι)}
    (hend : (events.foldl (Shell.step p) s).terminated = true)
    (h : NothingAfter Start mark (events.foldl (Shell.step p) s).trace) :
    EachStep (Shell.step p) (Late Start) s events := by
  induction events generalizing s with
  | nil => trivial
  | cons e events ih =>
    refine ⟨?_, ih hend h⟩
    cases e with
    | command input => trivial
    | signal =>
      intro c hc hstart
      -- the signal puts the handler before the command that starts something
      have hrunning : s.terminated = false := by
        cases htodo : s.todo with
        | nil => simp [htodo] at hc
        | cons c' todo => simp [Shell.terminated, htodo]
      have hloud : Loud Start mark (s.step p (.signal : Event ι)) := by
        refine ⟨c, hstart, ?_⟩
        simp only [Shell.step, hrunning, Bool.false_eq_true, ↓reduceIte]
        exact List.sublist_append_of_sublist_right
          ((List.singleton_sublist.mpr hmark).append (List.singleton_sublist.mpr hc))
      obtain ⟨c', hstart', hsub⟩ := inv events hloud fun s e hs => hs.step e
      -- at the end everything has been run
      have htodo : (events.foldl (Shell.step p) (s.step p .signal)).todo = [] := by
        simpa using (Bool.and_eq_true_iff.mp hend).1
      rw [htodo, List.append_nil] at hsub
      exact not_nothingAfter hstart' hsub h

end Quiet

/-! ## What the handler leaves behind -/

/-- Commands of the kind `Cleanup` are those that the handler runs. Some of them, of the
    kind `Effect`, bring about `Goal`, and none takes it back. -/
structure Ensures (p : Script σ κ ι) (P : Shell σ κ → Prop) (Cleanup Effect : κ → Prop)
    (Goal : σ → List κ → Prop) : Prop where
  handler : ∀ c ∈ p.handler, Cleanup c
  effect : ∃ c ∈ p.handler, Effect c
  exec : ∀ s c input, Cleanup c → ∀ c' ∈ (p.exec s c input).2, Cleanup c'
  keeps : ∀ s c input trace, Cleanup c → Goal s trace →
    Goal (p.exec s c input).1 (trace ++ [c])
  brings : ∀ (s : Shell σ κ) (c : κ) (todo : List κ) (input : ι), P s → s.todo = c :: todo →
    (∀ c' ∈ s.todo, Cleanup c') → Effect c →
    Goal (p.exec s.state c input).1 (s.trace ++ [c]) ∨ ∃ c' ∈ (p.exec s.state c input).2, Effect c'

/-- While the handler runs for the last time, only its commands are to be run, and the goal
    is reached or will be. -/
structure Exiting (Cleanup Effect : κ → Prop) (Goal : σ → List κ → Prop) (s : Shell σ κ) :
    Prop where
  cleanup : s.exiting = true → ∀ c ∈ s.todo, Cleanup c
  goal : s.exiting = true → Goal s.state s.trace ∨ ∃ c ∈ s.todo, Effect c

namespace Ensures

variable {P : Shell σ κ → Prop} {Cleanup Effect : κ → Prop} {Goal : σ → List κ → Prop}

theorem step (h : Ensures p P Cleanup Effect Goal) (hP : P s)
    (hs : Exiting Cleanup Effect Goal s) (e : Event ι) :
    Exiting Cleanup Effect Goal (s.step p e) := by
  refine step_inv (P := Exiting Cleanup Effect Goal) hs ?_ (fun c todo input htodo => ?_)
    (fun _ => ?_) e
  · refine ⟨fun hexit c hc => ?_, fun hexit => ?_⟩
    · rcases List.mem_append.mp hc with hc | hc
      · exact h.handler c hc
      · exact hs.cleanup hexit c hc
    · obtain ⟨c, hc, heffect⟩ := h.effect
      exact Or.inr ⟨c, List.mem_append_left _ hc, heffect⟩
  · have hfirst : s.exiting = true → Cleanup c := fun hexit =>
      hs.cleanup hexit c (htodo ▸ List.mem_cons_self)
    refine ⟨fun hexit c' hc' => ?_, fun hexit => ?_⟩
    · rcases List.mem_append.mp hc' with hnext | hrest
      · exact h.exec _ _ _ (hfirst hexit) c' hnext
      · exact hs.cleanup hexit c' (htodo ▸ List.mem_cons_of_mem c hrest)
    · rcases hs.goal hexit with hgoal | ⟨c', hc', heffect⟩
      · exact Or.inl (h.keeps _ _ _ _ (hfirst hexit) hgoal)
      · rw [htodo] at hc'
        rcases List.mem_cons.mp hc' with rfl | hrest
        · -- this is the command that brings it about
          rcases h.brings s c' todo input hP htodo (hs.cleanup hexit) heffect with
            hgoal | ⟨next, hnext, heffect'⟩
          · exact Or.inl hgoal
          · exact Or.inr ⟨next, List.mem_append_left _ hnext, heffect'⟩
        · exact Or.inr ⟨c', List.mem_append_right _ hrest, heffect⟩
  · exact ⟨fun _ => h.handler, fun _ => Or.inr h.effect⟩

/-- When the script has ended, the goal is reached. -/
theorem at_exit (h : Ensures p P Cleanup Effect Goal) (events : List (Event ι)) (hP : P s)
    (hstep : ∀ s (e : Event ι), P s → P (s.step p e)) (hstart : s.exiting = false)
    (hend : (events.foldl (Shell.step p) s).terminated = true) :
    Goal (events.foldl (Shell.step p) s).state (events.foldl (Shell.step p) s).trace := by
  have hinit : Exiting Cleanup Effect Goal s :=
    ⟨fun hexit => absurd hexit (by simp [hstart]), fun hexit => absurd hexit (by simp [hstart])⟩
  have hrun := inv (P := fun s => P s ∧ Exiting Cleanup Effect Goal s) events ⟨hP, hinit⟩
    fun s e hs => ⟨hstep s e hs.1, h.step hs.1 hs.2 e⟩
  obtain ⟨htodo, hexit⟩ := Bool.and_eq_true_iff.mp hend
  rcases hrun.2.goal hexit with hgoal | ⟨c, hc, -⟩
  · exact hgoal
  · rw [List.isEmpty_iff.mp htodo] at hc
    exact absurd hc List.not_mem_nil

end Ensures

end Trap
