import Mathlib.Logic.Function.Basic
import Go2Sensors.ForStd.Trap

/-!
# The launch and playback scripts

`launch_all_sensors_docker.sh` and `play_and_visualize_bag.sh` from the line on that
installs the trap. Each simple command is a command of the script; an `if` or a loop leaves
the commands that it runs next. Both scripts have one `cleanup` for `EXIT`, `INT` and
`TERM`, which does not exit.
-/

namespace Scripts

open Trap

/-! ## `launch_all_sensors_docker.sh` -/

/-- `MODE`. -/
inductive Mode where
  | ethernet
  | wifi
deriving DecidableEq

/-- The options of the script. -/
structure LaunchArgs where
  /-- `MODE` -/
  mode : Mode
  /-- `IFACE` -/
  iface : String

/-- The CycloneDDS configurations: the two that are checked in, and the one that is
    generated. -/
inductive ConfigFile where
  | cycloneEthernet
  | cycloneWifi
  | cycloneDomain0
deriving DecidableEq

/-- The variables that are looked at, and the files. -/
structure LaunchState where
  /-- is `ready` equal to `1`? -/
  ready : Bool
  /-- `DOMAIN0_CONFIG`, `none` if it is empty -/
  domain0Config : Option ConfigFile
  /-- is `DOMAIN0_CONFIG_IS_TEMP` set? -/
  domain0ConfigIsTemp : Bool
  files : ConfigFile → Bool

/-- The commands of the script. `assign` sets an option or a variable that only goes into
    the arguments of commands. -/
inductive LaunchCommand where
  | echo
  | sleep
  | assign
  /-- `if [[ "$MODE" == "wifi" ]]` -/
  | ifWifi
  /-- `docker compose down; docker compose up -d` on the dock -/
  | composeUp
  /-- the head of `for attempt in $(seq 1 20)`, with the attempts that are left -/
  | attempt (left : Nat)
  /-- `topics=$(ssh .. docker exec ..)` -/
  | listTopics
  /-- `if grep -q ..` -/
  | ifPublishing (left : Nat)
  /-- `ready=0` or `ready=1` -/
  | setReady (ready : Bool)
  /-- `if [[ "$ready" -ne 1 ]]` -/
  | ifNotReady
  /-- `if [[ "$MODE" == "ethernet" && "$IFACE" == "enp3s0" ]]` -/
  | ifStatic
  /-- `DOMAIN0_CONFIG="$SCRIPT_DIR/.."` -/
  | useStatic (file : ConfigFile)
  /-- `DOMAIN0_CONFIG="$(mktemp ..)"` -/
  | mktemp
  /-- `DOMAIN0_CONFIG_IS_TEMP=1` -/
  | setIsTemp
  /-- `cat > "$DOMAIN0_CONFIG"` -/
  | writeConfig
  /-- `source "$SCRIPT_DIR/ros2_env.sh"` -/
  | sourceEnv
  | rviz2
  /-- `if [[ -n "$DOMAIN0_CONFIG_IS_TEMP" && -f "$DOMAIN0_CONFIG" ]]` -/
  | ifTemp
  /-- `rm -f "$DOMAIN0_CONFIG"` -/
  | rm
  /-- `docker compose down` on the dock -/
  | composeDown
  /-- `echo "Done."` -/
  | echoDone
deriving DecidableEq

/-- The checked-in configuration for the mode and the interface, if there is one. -/
def staticConfig (args : LaunchArgs) : Option ConfigFile :=
  if args.mode = .ethernet ∧ args.iface = "enp3s0" then some .cycloneEthernet
  else if args.mode = .wifi ∧ args.iface = "wlp2s0" then some .cycloneWifi
  else none

/-- What a command does. The input is the outcome of a command that can fail. -/
def launchExec (args : LaunchArgs) (s : LaunchState) :
    LaunchCommand → (ok : Bool) → LaunchState × List LaunchCommand
  | .echo, _ | .sleep, _ | .assign, _ | .sourceEnv, _ | .composeUp, _ | .listTopics, _
  | .rviz2, _ | .composeDown, _ | .echoDone, _ => (s, [])
  | .ifWifi, _ => (s, [.assign])
  | .attempt 0, _ => (s, [])
  | .attempt (left + 1), _ => (s, [.listTopics, .ifPublishing left])
  -- on success the loop ends
  | .ifPublishing left, ok => (s, if ok then [.setReady true] else [.sleep, .attempt left])
  | .setReady ready, _ => ({ s with ready }, [])
  | .ifNotReady, _ => (s, if s.ready then [.echo] else [.echo, .echo])
  | .ifStatic, _ =>
    match staticConfig args with
    | some file => (s, [.useStatic file])
    | none => (s, [.mktemp, .setIsTemp, .echo, .writeConfig])
  | .useStatic file, _ => ({ s with domain0Config := some file }, [])
  | .mktemp, ok =>
    if ok then
      ({ s with
        domain0Config := some .cycloneDomain0
        files := Function.update s.files .cycloneDomain0 true }, [])
    else ({ s with domain0Config := none }, [])
  | .setIsTemp, _ => ({ s with domain0ConfigIsTemp := true }, [])
  | .writeConfig, _ =>
    match s.domain0Config with
    | some file => ({ s with files := Function.update s.files file true }, [])
    | none => (s, [])
  | .ifTemp, _ =>
    match s.domain0Config with
    | some file => (s, if s.domain0ConfigIsTemp && s.files file then [.rm] else [])
    | none => (s, [])
  | .rm, _ =>
    match s.domain0Config with
    | some file => ({ s with files := Function.update s.files file false }, [])
    | none => (s, [])

/-- `cleanup`. -/
def launchCleanup : List LaunchCommand :=
  [.echo, .echo, .ifTemp, .echo, .composeDown, .echoDone]

/-- The script. -/
def launchScript (args : LaunchArgs) : Script LaunchState LaunchCommand Bool :=
  ⟨launchExec args, launchCleanup⟩

/-- The commands after the trap is installed. -/
def launchCommands : List LaunchCommand :=
  [.ifWifi, .echo, .composeUp, .echo, .setReady false, .attempt 20, .ifNotReady, .echo, .ifStatic,
    .assign, .sourceEnv, .assign, .assign, .rviz2]

/-- The shell when the trap is installed. The script has checked that the configurations
    exist, and `mktemp` makes a new file. -/
def launchStart : Shell LaunchState LaunchCommand where
  state := ⟨false, none, false, fun file => file ≠ .cycloneDomain0⟩
  todo := launchCommands
  trace := []
  exiting := false

/-- The commands that start something. -/
def LaunchCommand.starts : LaunchCommand → Bool
  | composeUp | rviz2 => true
  | _ => false

/-- The commands that are sent to the dock. -/
def LaunchCommand.toDock : LaunchCommand → Bool
  | composeUp | listTopics | composeDown => true
  | _ => false

/-! ## `play_and_visualize_bag.sh` -/

/-- The two programs of the script. -/
inductive Program where
  | player
  | rviz2
deriving DecidableEq

/-- `PLAYER_PID` and `RVIZ_PID`, and which programs are running. -/
structure PlayState where
  pidSet : Program → Bool
  running : Program → Bool

/-- The commands of the script. -/
inductive PlayCommand where
  | echo
  | sleep
  /-- start a program in the background -/
  | start (program : Program)
  /-- `PLAYER_PID=$!` or `RVIZ_PID=$!` -/
  | setPid (program : Program)
  /-- `wait -n "$PLAYER_PID" "$RVIZ_PID"` -/
  | wait
  /-- the head of `for pid in "$PLAYER_PID" "$RVIZ_PID"`, with or without `-9` -/
  | forKill (force : Bool)
  /-- `[[ -n "$pid" ]] && kill "$pid"`, with or without `-9` -/
  | kill (program : Program) (force : Bool)
  /-- `pkill -9 -f "ros2 bag play.*$BAG_PATH"` -/
  | pkillPlayer
  /-- `echo "Done."` -/
  | echoDone
deriving DecidableEq

/-- What a command does. The input is whether a program obeys `SIGTERM`. -/
def playExec (s : PlayState) : PlayCommand → (ok : Bool) → PlayState × List PlayCommand
  | .echo, _ | .sleep, _ | .wait, _ | .echoDone, _ => (s, [])
  | .start program, _ => ({ s with running := Function.update s.running program true }, [])
  | .setPid program, _ => ({ s with pidSet := Function.update s.pidSet program true }, [])
  -- the loop goes over the values that the variables have at its head
  | .forKill force, _ =>
    (s, ([.player, .rviz2].filter s.pidSet).map fun program => .kill program force)
  | .kill program force, ok =>
    (if force || ok then { s with running := Function.update s.running program false } else s, [])
  | .pkillPlayer, _ => ({ s with running := Function.update s.running .player false }, [])

/-- `cleanup`. -/
def playCleanup : List PlayCommand :=
  [.echo, .echo, .forKill false, .sleep, .forKill true, .pkillPlayer, .echoDone]

/-- The script. -/
def playScript : Script PlayState PlayCommand Bool := ⟨playExec, playCleanup⟩

/-- The shell when the trap is installed. -/
def playStart : Shell PlayState PlayCommand where
  state := ⟨fun _ => false, fun _ => false⟩
  todo := [.start .player, .setPid .player, .sleep, .start .rviz2, .setPid .rviz2, .wait]
  trace := []
  exiting := false

/-- The commands that start something. -/
def PlayCommand.starts : PlayCommand → Bool
  | start _ => true
  | _ => false

end Scripts
