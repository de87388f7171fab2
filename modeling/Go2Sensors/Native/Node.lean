import Go2Sensors.Native.Live

/-!
# `main_ros2.cc`

A node publishes what its SDK object calls it back with: the cloud of a frame on
`rslidar_points`, and its packets on `pandar_packets`. With `data_type` `rosbag` it gets its own
packets from `pandar_packets`. Below, one node records and another one plays what arrives. The
history of the subscription is a part of the middleware and a parameter.
-/

namespace Hesai

open CFloat (ofRat toInt)

variable {F : Type} [CFloat F]

/-- `PandarScan`. -/
abbrev PandarScan := List PandarPacketMsg

/-- The parameters that decide what a node is and what it publishes. -/
structure NodeParams where
  pcapFile : String
  dataType : String
  publishType : String

/-- Which SDK object `timer_callback` creates. -/
inductive NodeSource where
  | pcap
  | rosbag
  | lidar
deriving DecidableEq

/-- `timer_callback`. There is a subscription to `pandar_packets` in the second case only. -/
def NodeParams.source (params : NodeParams) : NodeSource :=
  if params.pcapFile ≠ "" then .pcap
  else if "rosbag" = params.dataType then .rosbag
  else .lidar

/-- `PointCloud2`, with the cloud that it is made of. -/
structure PointCloud2 (F : Type) where
  stampSec : Int
  stampNanosec : Int
  cloud : PPointCloud F

/-- What a node publishes for a frame. -/
structure NodeOutput (F : Type) where
  points : Option (PointCloud2 F)
  scan : Option PandarScan

/-- `lidarCallback`. There is a timestamp for every cloud with a first point. -/
def lidarCallback (params : NodeParams) (f : Frame F) : NodeOutput F where
  points :=
    if params.publishType = "both" ∨ params.publishType = "points" then
      f.timestamp.map fun timestamp =>
        let sec := toInt timestamp
        ⟨sec, toInt ((timestamp - ofRat sec) * ofRat 1000000000), f.cloud⟩
    else none
  scan :=
    if params.publishType = "both" ∨ params.publishType = "raw" then some f.scan else none

/-- The messages of a node on `pandar_packets` so far. -/
def scansOf (params : NodeParams) (s : ReplayState F) : List PandarScan :=
  s.driver.published.filterMap fun f => (lidarCallback params f).scan

/-- Two nodes, and the topic between them. -/
structure NodesState (F : Type) where
  recorder : ReplayState F
  player : ReplayState F
  /-- how many scans of the recording node, and of the playing node itself, have left it -/
  sent : Nat
  echoed : Nat
  /-- the history of the subscription -/
  waiting : List PandarScan
  /-- what has arrived, and what `scanCallback` was called with -/
  arrived : List PandarScan
  calls : List PandarScan

/-- Two constructed nodes. -/
def NodesState.init (recorderTables playerTables : CalibrationTables F) : NodesState F :=
  ⟨ReplayState.init recorderTables [], ReplayState.init playerTables [], 0, 0, [], [], []⟩

/-- A step of one of the nodes or of the topic. -/
inductive NodesOp (F : Type) where
  /-- a step of the recording node -/
  | record (op : LiveOp F)
  /-- the next scan of the recording node arrives, or is lost on its way -/
  | arrive
  | lose
  /-- the next scan of the playing node arrives at its own subscription -/
  | echo
  /-- the executor of the playing node calls `scanCallback` -/
  | spin
  /-- a step of the playing node -/
  | play (op : ReplayOp)

/-- A scan arrives. -/
def NodesState.put (history : Nat → List PandarScan → PandarScan → List PandarScan)
    (s : NodesState F) (scan : PandarScan) : NodesState F :=
  { s with waiting := history 10 s.waiting scan, arrived := s.arrived ++ [scan] }

/-- A step of the two nodes. -/
def nodesStep (history : Nat → List PandarScan → PandarScan → List PandarScan)
    (recordParams playParams : NodeParams) (cfg : Config F) (env : LoadEnv F)
    (s : NodesState F) : NodesOp F → NodesState F
  | .record op => { s with recorder := liveStep cfg env s.recorder op }
  | .arrive =>
    match (scansOf recordParams s.recorder)[s.sent]? with
    | none => s
    | some scan =>
      let s := { s with sent := s.sent + 1 }
      if playParams.source = .rosbag then s.put history scan else s
  | .lose =>
    if s.sent < (scansOf recordParams s.recorder).length then { s with sent := s.sent + 1 } else s
  | .echo =>
    match (scansOf playParams s.player)[s.echoed]? with
    | none => s
    | some scan =>
      let s := { s with echoed := s.echoed + 1 }
      if playParams.source = .rosbag then s.put history scan else s
  | .spin =>
    -- `PushScanPacket` has returned from the call before
    match s.player.todo, s.waiting with
    | [], scan :: waiting =>
      { s with player := { s.player with todo := scan }, waiting, calls := s.calls ++ [scan] }
    | _, _ => s
  | .play op => { s with player := replayStep cfg env s.player op }

end Hesai
