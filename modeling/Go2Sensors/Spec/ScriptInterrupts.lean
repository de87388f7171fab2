import Go2Sensors.Native.Scripts

/-!
# Interrupted scripts

`cleanup` serves `INT` and `TERM` without exiting, so that a script that is interrupted
cleans up and then goes on: whatever it has not started yet is started afterwards. Only at
the end of the script does nothing follow any more. What `cleanup` removes at the end is
what the script has generated, whenever signals arrived.

## Key results

- `scripts_stop`: what holds whenever signals arrive, and when nothing is started afterwards
- `interrupted_scripts_continue`: both scripts start programs after the first `cleanup`
-/

namespace Scripts

open Run Trap

/-! ## What is started -/

/-- No command leaves one that starts something, nor the last command of `cleanup`. -/
theorem launchExec_quiet (args : LaunchArgs) (s : LaunchState) (c : LaunchCommand) (ok : Bool) :
    (launchExec args s c ok).2.all (fun c' => !c'.starts && c' != .echoDone) = true := by
  cases c with
  | attempt left => cases left <;> rfl
  | ifPublishing left => cases ok <;> rfl
  | ifNotReady =>
    simp only [launchExec]
    split <;> rfl
  | ifStatic =>
    simp only [launchExec]
    split <;> rfl
  | mktemp => cases ok <;> rfl
  | writeConfig | rm =>
    simp only [launchExec]
    split <;> rfl
  | ifTemp =>
    simp only [launchExec]
    split
    · split <;> rfl
    · rfl
  -- none of the other commands leaves anything
  | echo | sleep | assign | ifWifi | composeUp | listTopics | setReady | useStatic | setIsTemp
  | sourceEnv | rviz2 | composeDown | echoDone => rfl

/-- The launch script starts nothing but by its own commands. -/
theorem quiet_launch (args : LaunchArgs) :
    Quiet (launchScript args) (fun c => c.starts = true) .echoDone := by
  refine ⟨?_, ?_, fun s c ok c' hc' => ?_⟩
  · show ∀ c ∈ launchCleanup, ¬ c.starts = true
    decide
  · show .echoDone ∈ launchCleanup
    decide
  · simpa using List.all_eq_true.mp (launchExec_quiet args s c ok) c' hc'

/-- The playback script starts nothing but by its own commands. -/
theorem quiet_play : Quiet playScript (fun c => c.starts = true) .echoDone := by
  refine ⟨by decide, by decide, fun s c ok c' hc' => ?_⟩
  -- only the loop of cleanup leaves commands
  have hleft : c' ∈ (playExec s c ok).2 := hc'
  cases c with
  | forKill force =>
    obtain ⟨program, -, rfl⟩ := List.mem_map.mp hleft
    simp [PlayCommand.starts]
  | echo | sleep | start | setPid | wait | kill | pkillPlayer | echoDone =>
    exact absurd hleft List.not_mem_nil

/-! ## The configuration of domain 0 -/

/-- The commands that choose and generate the configuration. -/
def LaunchCommand.configures : LaunchCommand → Bool
  | ifStatic | useStatic _ | mktemp | setIsTemp | writeConfig => true
  | _ => false

/-- A generated configuration is in the file that the variable names. -/
def Named (config : Option ConfigFile) (generated : Bool) : Prop :=
  config = some .cycloneDomain0 ∨ config = none ∧ generated = false

/-- How far the configuration is: the variables, whether there is a generated file, and the
    commands that configure and are still to be run. -/
inductive ConfigPhase : (config : Option ConfigFile) → (isTemp generated : Bool) →
    (commands : List LaunchCommand) → Prop where
  | before : ConfigPhase none false false [.ifStatic]
  | static {file : ConfigFile} (hfile : file ≠ .cycloneDomain0) :
    ConfigPhase none false false [.useStatic file]
  | staticDone {file : ConfigFile} (hfile : file ≠ .cycloneDomain0) :
    ConfigPhase (some file) false false []
  | generate : ConfigPhase none false false [.mktemp, .setIsTemp, .writeConfig]
  | created {config : Option ConfigFile} {generated : Bool} (hnamed : Named config generated) :
    ConfigPhase config false generated [.setIsTemp, .writeConfig]
  | flagged {config : Option ConfigFile} {generated : Bool} (hnamed : Named config generated) :
    ConfigPhase config true generated [.writeConfig]
  | written {config : Option ConfigFile} {generated : Bool} (hnamed : Named config generated) :
    ConfigPhase config true generated []

/-- The shell is in one of these phases, only a generated file is to be removed, and the
    files that are checked in are there. -/
structure ConfigInv (s : Shell LaunchState LaunchCommand) : Prop where
  phase : ConfigPhase s.state.domain0Config s.state.domain0ConfigIsTemp
    (s.state.files .cycloneDomain0) (s.todo.filter (·.configures))
  rm : .rm ∈ s.todo → s.state.domain0ConfigIsTemp = true
  checkedIn : ∀ file, file ≠ .cycloneDomain0 → s.state.files file = true

/-- A static configuration is one that is checked in. -/
theorem staticConfig_ne {args : LaunchArgs} {file : ConfigFile}
    (h : staticConfig args = some file) : file ≠ .cycloneDomain0 := by
  unfold staticConfig at h
  split at h
  · -- over Ethernet
    cases h
    decide
  · split at h
    · cases h
      decide
    · cases h

/-- A flagged configuration is the generated one, or there is none. -/
theorem ConfigPhase.named {config : Option ConfigFile} {generated : Bool}
    {commands : List LaunchCommand} (h : ConfigPhase config true generated commands) :
    Named config generated := by
  cases h with
  | flagged hnamed => exact hnamed
  | written hnamed => exact hnamed

/-- The other commands leave the variables alone and leave no command that configures. -/
theorem launchExec_of_not_configures (args : LaunchArgs) (s : LaunchState) {c : LaunchCommand}
    (ok : Bool) (hc : c.configures = false) (hrm : c ≠ .rm) :
    (launchExec args s c ok).1.domain0Config = s.domain0Config ∧
    (launchExec args s c ok).1.domain0ConfigIsTemp = s.domain0ConfigIsTemp ∧
    (launchExec args s c ok).1.files = s.files ∧
    (launchExec args s c ok).2.filter (·.configures) = [] ∧
    (.rm ∈ (launchExec args s c ok).2 → s.domain0ConfigIsTemp = true) := by
  cases c with
  | ifTemp =>
    simp only [launchExec]
    split
    · split
      · -- the test of cleanup succeeds, so that it leaves rm
        next htemp => exact ⟨rfl, rfl, rfl, rfl, fun _ => (Bool.and_eq_true_iff.mp htemp).1⟩
      · exact ⟨rfl, rfl, rfl, rfl, fun h => absurd h List.not_mem_nil⟩
    · exact ⟨rfl, rfl, rfl, rfl, fun h => absurd h List.not_mem_nil⟩
  | attempt left => cases left <;> simp [launchExec, LaunchCommand.configures]
  | ifPublishing left => cases ok <;> simp [launchExec, LaunchCommand.configures]
  | ifNotReady => cases hready : s.ready <;> simp [launchExec, LaunchCommand.configures, hready]
  | rm => exact absurd rfl hrm
  -- excluded: these configure
  | ifStatic | useStatic | mktemp | setIsTemp | writeConfig => cases hc
  | echo | sleep | assign | ifWifi | composeUp | listTopics | setReady | sourceEnv | rviz2
  | composeDown | echoDone => simp [launchExec, LaunchCommand.configures]

/-- Commands that do not configure may be put in front. -/
theorem ConfigInv.prepend {s : Shell LaunchState LaunchCommand} (h : ConfigInv s)
    {cs : List LaunchCommand} (hconf : cs.filter (·.configures) = []) (hrm : .rm ∉ cs)
    (exiting : Bool) : ConfigInv { s with todo := cs ++ s.todo, exiting } := by
  refine ⟨?_, fun hmem => ?_, h.checkedIn⟩
  · rw [List.filter_append, hconf]
    exact h.phase
  · exact h.rm ((List.mem_append.mp hmem).resolve_left hrm)

/-- A command that configures takes the configuration to its next phase. -/
theorem ConfigInv.configure (args : LaunchArgs) {s : Shell LaunchState LaunchCommand}
    (h : ConfigInv s) {c : LaunchCommand} {todo : List LaunchCommand} (htodo : s.todo = c :: todo)
    (hc : c.configures = true) (ok : Bool) :
    ConfigInv { s with
      state := (launchExec args s.state c ok).1
      todo := (launchExec args s.state c ok).2 ++ todo
      trace := s.trace ++ [c] } := by
  obtain ⟨hphase, hrm, hchecked⟩ := h
  rw [htodo, List.filter_cons, if_pos hc] at hphase
  rw [htodo] at hrm
  have hrm' : .rm ∈ todo → s.state.domain0ConfigIsTemp = true := fun hmem =>
    hrm (List.mem_cons_of_mem c hmem)
  -- the phase is known from the command that stands first
  generalize hrest : todo.filter (·.configures) = rest at hphase
  generalize hconfig : s.state.domain0Config = config at hphase
  generalize htemp : s.state.domain0ConfigIsTemp = isTemp at hphase hrm'
  generalize hgenerated : s.state.files .cycloneDomain0 = generated at hphase
  cases hphase with
  | before =>
    simp only [launchExec]
    cases hstatic : staticConfig args with
    | some file =>
      refine ⟨?_, fun hmem => ?_, hchecked⟩
      · simp only [hconfig, htemp, hgenerated, List.filter_append, hrest]
        exact .static (staticConfig_ne hstatic)
      · simp only [List.cons_append, List.nil_append, List.mem_cons, reduceCtorEq,
          false_or] at hmem
        rw [htemp, hrm' hmem]
    | none =>
      refine ⟨?_, fun hmem => ?_, hchecked⟩
      · simp only [hconfig, htemp, hgenerated, List.filter_append, hrest]
        exact .generate
      · simp only [List.cons_append, List.nil_append, List.mem_cons, reduceCtorEq,
          false_or] at hmem
        rw [htemp, hrm' hmem]
  | static hfile =>
    refine ⟨?_, fun hmem => ?_, hchecked⟩
    · simp only [launchExec, List.nil_append, htemp, hgenerated, hrest]
      exact .staticDone hfile
    · exact htemp.trans (hrm' hmem)
  | generate =>
    -- mktemp may fail, and then the variable stays empty
    cases ok with
    | true =>
      refine ⟨?_, fun hmem => htemp.trans (hrm' hmem), fun file hfile => ?_⟩
      · simp only [launchExec, ↓reduceIte, List.nil_append, htemp, hrest, Function.update_self]
        exact .created (Or.inl rfl)
      · simp only [launchExec, ↓reduceIte, Function.update_of_ne hfile]
        exact hchecked file hfile
    | false =>
      refine ⟨?_, fun hmem => htemp.trans (hrm' hmem), hchecked⟩
      simp only [launchExec, Bool.false_eq_true, ↓reduceIte, List.nil_append, htemp, hgenerated,
        hrest]
      exact .created (Or.inr ⟨rfl, rfl⟩)
  | created hnamed =>
    refine ⟨?_, fun _ => rfl, hchecked⟩
    simp only [launchExec, List.nil_append, hconfig, hgenerated, hrest]
    exact .flagged hnamed
  | flagged hnamed =>
    -- the configuration is written to the file that mktemp has created, if there is one
    rcases hnamed with rfl | ⟨rfl, rfl⟩
    · refine ⟨?_, fun _ => ?_, fun file hfile => ?_⟩
      · simp only [launchExec, hconfig, List.nil_append, htemp, hrest, Function.update_self]
        exact .written (Or.inl rfl)
      · simp only [launchExec, hconfig, htemp]
      · simp only [launchExec, hconfig, Function.update_of_ne hfile]
        exact hchecked file hfile
    · refine ⟨?_, fun _ => ?_, ?_⟩
      · simp only [launchExec, hconfig, List.nil_append, htemp, hgenerated, hrest]
        exact .written (Or.inr ⟨rfl, rfl⟩)
      · simp only [launchExec, hconfig, htemp]
      · simp only [launchExec, hconfig]
        exact hchecked

/-- Whether there is a generated configuration when `rm` is run. -/
theorem ConfigInv.named {s : Shell LaunchState LaunchCommand} (h : ConfigInv s)
    (htemp : s.state.domain0ConfigIsTemp = true) :
    Named s.state.domain0Config (s.state.files .cycloneDomain0) := by
  have hphase := h.phase
  rw [htemp] at hphase
  exact hphase.named

/-- After `rm` there is no generated configuration. -/
theorem launchExec_rm {args : LaunchArgs} {s : LaunchState}
    (h : Named s.domain0Config (s.files .cycloneDomain0)) (ok : Bool) :
    launchExec args s .rm ok =
      ({ s with files := Function.update s.files .cycloneDomain0 false }, []) := by
  rcases h with hconfig | ⟨hconfig, hgenerated⟩
  · -- the file that the variable names is removed
    simp only [launchExec, hconfig]
  · -- there is no file, and nothing changes
    have hexec : launchExec args s .rm ok = (s, []) := by simp only [launchExec, hconfig]
    rw [hexec, ← hgenerated, Function.update_eq_self]

/-- The phase does not depend on a generated file that is named. -/
theorem ConfigPhase.remove {config : Option ConfigFile} {generated : Bool}
    {commands : List LaunchCommand} (h : ConfigPhase config true generated commands) :
    ConfigPhase config true false commands := by
  cases h with
  | flagged hnamed => exact .flagged (hnamed.imp id fun hnone => ⟨hnone.1, rfl⟩)
  | written hnamed => exact .written (hnamed.imp id fun hnone => ⟨hnone.1, rfl⟩)

/-- Only a generated configuration is removed. -/
theorem ConfigInv.remove (args : LaunchArgs) {s : Shell LaunchState LaunchCommand}
    (h : ConfigInv s) {todo : List LaunchCommand} (htodo : s.todo = .rm :: todo) (ok : Bool) :
    ConfigInv { s with
      state := (launchExec args s.state .rm ok).1
      todo := (launchExec args s.state .rm ok).2 ++ todo
      trace := s.trace ++ [.rm] } := by
  -- rm is only left when the flag is set
  have htemp : s.state.domain0ConfigIsTemp = true := h.rm (htodo ▸ List.mem_cons_self)
  have hphase := h.phase
  rw [htodo, List.filter_cons, if_neg (by decide), htemp] at hphase
  rw [launchExec_rm (h.named htemp)]
  refine ⟨?_, fun _ => htemp, fun file hfile => ?_⟩
  · simp only [List.nil_append, htemp, Function.update_self]
    exact hphase.remove
  · simp only [Function.update_of_ne hfile]
    exact h.checkedIn file hfile

/-- Every step keeps the configuration in one of its phases. -/
theorem ConfigInv.step (args : LaunchArgs) {s : Shell LaunchState LaunchCommand}
    (h : ConfigInv s) (e : Event Bool) : ConfigInv (s.step (launchScript args) e) := by
  have hcleanup : launchCleanup.filter (·.configures) = [] ∧ .rm ∉ launchCleanup := by decide
  refine step_inv h (h.prepend hcleanup.1 hcleanup.2 s.exiting) (fun c todo ok htodo => ?_)
    (fun htodo => ?_) e
  · -- a command of the script
    by_cases hconf : c.configures = true
    · exact h.configure args htodo hconf ok
    by_cases hrm : c = .rm
    · subst hrm
      exact h.remove args htodo ok
    -- everything else leaves the phase as it is
    obtain ⟨hconfig, htemp, hfiles, hleft, hleftRm⟩ := launchExec_of_not_configures args s.state
      ok (Bool.eq_false_iff.mpr hconf) hrm
    obtain ⟨hphase, hrmTodo, hchecked⟩ := h
    rw [htodo, List.filter_cons, if_neg hconf] at hphase
    rw [htodo] at hrmTodo
    refine ⟨?_, fun hmem => ?_, ?_⟩
    · simp only [launchScript, hconfig, htemp, hfiles, List.filter_append, hleft, List.nil_append]
      exact hphase
    · refine htemp.trans ?_
      rcases List.mem_append.mp hmem with hnext | hrest
      · exact hleftRm hnext
      · exact hrmTodo (List.mem_cons_of_mem c hrest)
    · simp only [launchScript, hfiles]
      exact hchecked
  · -- the end of the script runs cleanup once more
    have hend := h.prepend hcleanup.1 hcleanup.2 true
    rw [htodo, List.append_nil] at hend
    exact hend

/-- The configuration when the trap is installed. -/
theorem configInv_start : ConfigInv launchStart :=
  ⟨.before, by decide, fun file hfile => by simpa [launchStart] using hfile⟩

/-! ## What `cleanup` leaves behind -/

/-- The commands of `cleanup`. -/
def LaunchCommand.cleansUp : LaunchCommand → Bool
  | echo | ifTemp | rm | composeDown | echoDone => true
  | _ => false

/-- They leave nothing but themselves. -/
theorem launchExec_cleansUp (args : LaunchArgs) (s : LaunchState) {c : LaunchCommand} (ok : Bool)
    (hc : c.cleansUp = true) : ∀ c' ∈ (launchExec args s c ok).2, c'.cleansUp = true := by
  cases c with
  | ifTemp =>
    simp only [launchExec]
    split
    · split <;> simp [LaunchCommand.cleansUp]
    · simp
  | rm =>
    simp only [launchExec]
    split <;> simp
  | echo | composeDown | echoDone => simp [launchExec]
  | sleep | assign | ifWifi | composeUp | attempt | listTopics | ifPublishing | setReady
  | ifNotReady | ifStatic | useStatic | mktemp | setIsTemp | writeConfig | sourceEnv
  | rviz2 => cases hc

/-- No command of `cleanup` configures or generates. -/
theorem launchExec_files (args : LaunchArgs) (s : LaunchState) {c : LaunchCommand} (ok : Bool)
    (hc : c.cleansUp = true) (hfile : s.files .cycloneDomain0 = false) :
    (launchExec args s c ok).1.files .cycloneDomain0 = false := by
  cases c with
  | ifTemp =>
    simp only [launchExec]
    split <;> exact hfile
  | rm =>
    simp only [launchExec]
    split
    · next file _ => by_cases h : file = .cycloneDomain0 <;> simp [h, Ne.symm, hfile]
    · exact hfile
  | echo | composeDown | echoDone => exact hfile
  | sleep | assign | ifWifi | composeUp | attempt | listTopics | ifPublishing | setReady
  | ifNotReady | ifStatic | useStatic | mktemp | setIsTemp | writeConfig | sourceEnv
  | rviz2 => cases hc

/-- While only `cleanup` is to be run, a generated configuration is flagged and named. -/
theorem ConfigInv.cleanup {s : Shell LaunchState LaunchCommand} (h : ConfigInv s)
    (hcleanup : ∀ c ∈ s.todo, c.cleansUp = true)
    (hfile : s.state.files .cycloneDomain0 = true) :
    s.state.domain0Config = some .cycloneDomain0 ∧ s.state.domain0ConfigIsTemp = true := by
  -- no command that configures is left, so the phase is the last one
  have hnone : s.todo.filter (·.configures) = [] := by
    rw [List.filter_eq_nil_iff]
    intro c hc
    have hcleans := hcleanup c hc
    cases c with
    | echo | ifTemp | rm | composeDown | echoDone => exact Bool.false_ne_true
    | sleep | assign | ifWifi | composeUp | attempt | listTopics | ifPublishing | setReady
    | ifNotReady | ifStatic | useStatic | mktemp | setIsTemp | writeConfig | sourceEnv
    | rviz2 => cases hcleans
  have hphase := h.phase
  rw [hnone, hfile] at hphase
  generalize htemp : s.state.domain0ConfigIsTemp = isTemp at hphase
  generalize hconfig : s.state.domain0Config = config at hphase
  cases hphase with
  | written hnamed => exact ⟨hnamed.resolve_right fun hnone => by simp at hnone, rfl⟩

/-- `cleanup` removes a generated configuration. -/
theorem ensures_removed (args : LaunchArgs) :
    Ensures (launchScript args) ConfigInv (·.cleansUp = true)
      (fun c => c = .ifTemp ∨ c = .rm) fun s _ => s.files .cycloneDomain0 = false where
  handler := by
    show ∀ c ∈ launchCleanup, c.cleansUp = true
    decide
  effect := by
    show ∃ c ∈ launchCleanup, c = .ifTemp ∨ c = .rm
    decide
  exec s c ok hc := launchExec_cleansUp args s ok hc
  keeps s c ok trace hc hgoal := launchExec_files args s ok hc hgoal
  brings s c todo ok hinv htodo hcleanup heffect := by
    show (launchExec args s.state c ok).1.files .cycloneDomain0 = false ∨
      ∃ c' ∈ (launchExec args s.state c ok).2, c' = .ifTemp ∨ c' = .rm
    -- either the file is gone already, or it is flagged and named
    cases hfile : s.state.files .cycloneDomain0 with
    | false => exact Or.inl (launchExec_files args s.state ok (hcleanup c (htodo ▸ by simp)) hfile)
    | true =>
      obtain ⟨hconfig, htemp⟩ := hinv.cleanup hcleanup hfile
      rcases heffect with rfl | rfl
      · -- the test succeeds
        exact Or.inr ⟨.rm, by simp [launchExec, hconfig, htemp, hfile], Or.inr rfl⟩
      · -- rm removes it
        rw [launchExec_rm (Or.inl hconfig)]
        exact Or.inl (by simp)

/-- `cleanup` stops the container. -/
theorem ensures_composeDown (args : LaunchArgs) :
    Ensures (launchScript args) (fun _ => True) (·.cleansUp = true) (· = .composeDown)
      fun _ trace => (trace.filter (·.toDock)).getLast? = some .composeDown where
  handler := by
    show ∀ c ∈ launchCleanup, c.cleansUp = true
    decide
  effect := by
    show ∃ c ∈ launchCleanup, c = .composeDown
    decide
  exec s c ok hc := launchExec_cleansUp args s ok hc
  keeps s c ok trace hc hgoal := by
    rw [List.filter_append]
    cases c with
    | composeDown => simp [LaunchCommand.toDock]
    | echo | ifTemp | rm | echoDone => simpa [LaunchCommand.toDock] using hgoal
    | sleep | assign | ifWifi | composeUp | attempt | listTopics | ifPublishing | setReady
    | ifNotReady | ifStatic | useStatic | mktemp | setIsTemp | writeConfig | sourceEnv
    | rviz2 => cases hc
  brings s c todo ok _ htodo hcleanup heffect := by
    subst heffect
    exact Or.inl (by simp [LaunchCommand.toDock])

/-! ## Both scripts -/

/-- Whenever signals arrive, the last command to the dock is `docker compose down`, no
    generated configuration is left and the two that are checked in are never removed. And
    after the first `cleanup` nothing is started, if and only if no signal arrives while a
    program is still to be started. -/
theorem scripts_stop (args : LaunchArgs) (events : List (Event Bool)) :
    (let shell := events.foldl (Shell.step (launchScript args)) launchStart
      let late := EachStep (Shell.step (launchScript args)) (Late fun c => c.starts = true)
        launchStart events
      (late → NothingAfter (fun c => c.starts = true) .echoDone shell.trace) ∧
      (shell.terminated = true →
        (NothingAfter (fun c => c.starts = true) .echoDone shell.trace → late) ∧
        (shell.trace.filter (·.toDock)).getLast? = some .composeDown ∧
        shell.state.files .cycloneDomain0 = false) ∧
      shell.state.files .cycloneEthernet = true ∧ shell.state.files .cycloneWifi = true) ∧
    (let shell := events.foldl (Shell.step playScript) playStart
      let late := EachStep (Shell.step playScript) (Late fun c => c.starts = true) playStart events
      (late → NothingAfter (fun c => c.starts = true) .echoDone shell.trace) ∧
      (shell.terminated = true →
        NothingAfter (fun c => c.starts = true) .echoDone shell.trace → late)) := by
  constructor
  · intro shell late
    -- one invariant gives the files that are checked in
    have hinv : ConfigInv shell := inv events configInv_start fun s e hs => hs.step args e
    refine ⟨nothingAfter_of_late (quiet_launch args) (by decide) rfl, fun hend => ⟨?_, ?_, ?_⟩,
      hinv.checkedIn _ (by decide), hinv.checkedIn _ (by decide)⟩
    · -- a signal before the last start is followed by it
      exact late_of_nothingAfter (quiet_launch args).mark_mem hend
    · exact (ensures_composeDown args).at_exit events trivial (fun _ _ _ => trivial) rfl hend
    · exact (ensures_removed args).at_exit events configInv_start (fun s e hs => hs.step args e)
        rfl hend
  · intro shell late
    exact ⟨nothingAfter_of_late quiet_play (by decide) rfl,
      fun hend => late_of_nothingAfter quiet_play.mark_mem hend⟩

/-- A signal after the last start, here of a script that takes `commands` steps up to there. -/
def interruptedLate (commands : Nat) : List (Event Bool) :=
  List.replicate commands (.command true) ++ .signal :: List.replicate 20 (.command true)

/-- Both scripts, interrupted after the last start. -/
theorem scripts_stop_interruptedLate :
    let launch := (interruptedLate 20).foldl
      (Shell.step (launchScript ⟨.ethernet, "enp3s0"⟩)) launchStart
    let play := (interruptedLate 4).foldl (Shell.step playScript) playStart
    NothingAfter (fun c => c.starts = true) .echoDone launch.trace ∧
      (launch.trace.filter (·.toDock)).getLast? = some .composeDown ∧
      NothingAfter (fun c => c.starts = true) .echoDone play.trace := by
  obtain ⟨⟨hquiet, hend, -⟩, -⟩ := scripts_stop ⟨.ethernet, "enp3s0"⟩ (interruptedLate 20)
  have hplay := (scripts_stop ⟨.ethernet, "enp3s0"⟩ (interruptedLate 4)).2
  exact ⟨hquiet (by decide), (hend (by decide)).2.1, hplay.1 (by decide)⟩

/-- A signal at the first command, and enough commands to the end. -/
def interruptedAtOnce : List (Event Bool) := .signal :: List.replicate 20 (.command true)

/-- Interrupted at once, each script cleans up and then starts its programs. -/
theorem interrupted_scripts_continue :
    (∃ args, ¬ NothingAfter (fun c : LaunchCommand => c.starts = true) .echoDone
      (interruptedAtOnce.foldl (Shell.step (launchScript args)) launchStart).trace) ∧
    ¬ NothingAfter (fun c : PlayCommand => c.starts = true) .echoDone
      (interruptedAtOnce.foldl (Shell.step playScript) playStart).trace := by
  constructor
  · refine ⟨⟨.ethernet, "enp3s0"⟩, not_nothingAfter (c := .composeUp) rfl ?_⟩
    decide
  · exact not_nothingAfter (c := .start .player) rfl (by decide)

end Scripts
