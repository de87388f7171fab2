import Go2Sensors.Native.Correction

/-!
# The tables that the constructor fills

`Init` resizes the elevation maps and copies the angles of the lidar type, and it assigns
the time offsets of blocks and lasers, most of them entry by entry in long lists. A type
that it does not know gets no angles at all. The members that `Init` does not assign keep
whatever the memory of the instance holds (`stale`).

The loops that fill the azimuth tables assign every entry and are left out.
-/

namespace Hesai

open CFloat (ofRat toFloat)

/-! ## Constant expressions -/

/-- A constant expression of type `float`. -/
inductive FloatExpr where
  | lit (q : Rat)
  | add (a b : FloatExpr)
  | sub (a b : FloatExpr)
  | mul (a b : FloatExpr)

namespace FloatExpr

instance : OfScientific FloatExpr := ⟨fun m s e => lit (OfScientific.ofScientific m s e)⟩
instance : NatCast FloatExpr := ⟨fun n => lit n⟩
instance : Add FloatExpr := ⟨add⟩
instance : Sub FloatExpr := ⟨sub⟩
instance : Mul FloatExpr := ⟨mul⟩

/-- Each operation is rounded. -/
def eval {F : Type} [CFloat F] : FloatExpr → F
  | lit q => toFloat (ofRat q)
  | add a b => toFloat (a.eval + b.eval)
  | sub a b => toFloat (a.eval - b.eval)
  | mul a b => toFloat (a.eval * b.eval)

end FloatExpr

/-! ## Angles -/

/-- `pandar40p_elev_angle_map`. -/
def pandar40pElevAngleMap : List Rat :=
  [15, 11, 8, 5, 3, 2, 1.67, 1.33, 1, 0.67, 0.33, 0, -0.33, -0.67, -1, -1.33, -1.66, -2, -2.33,
   -2.67, -3, -3.33, -3.67, -4, -4.33, -4.67, -5, -5.33, -5.67, -6, -7, -8, -9, -10, -11, -12,
   -13, -14, -19, -25]

/-- `pandar40p_horizatal_azimuth_offset_map`. -/
def pandar40pHorizatalAzimuthOffsetMap : List Rat :=
  [-1.042, -1.042, -1.042, -1.042, -1.042, -1.042, 3.125, -5.208, -1.042, 3.125, -5.208, -1.042,
   3.125, -5.208, -1.042, 3.125, -5.208, -1.042, 3.125, -5.208, -1.042, 3.125, -5.208, -1.042,
   3.125, -5.208, -1.042, 3.125, -5.208, -1.042, -1.042, -1.042, -1.042, -1.042, -1.042, -1.042,
   -1.042, -1.042, -1.042, -1.042]

/-- `pandarGeneral_elev_angle_map`. -/
def pandarGeneralElevAngleMap : List Rat :=
  [14.882, 11.032, 8.059, 5.057, 3.04, 2.028, 1.86, 1.688, 1.522, 1.351, 1.184, 1.013, 0.846,
   0.675, 0.508, 0.337, 0.169, 0, -0.169, -0.337, -0.508, -0.675, -0.845, -1.013, -1.184,
   -1.351, -1.522, -1.688, -1.86, -2.028, -2.198, -2.365, -2.536, -2.7, -2.873, -3.04, -3.21,
   -3.375, -3.548, -3.712, -3.884, -4.05, -4.221, -4.385, -4.558, -4.72, -4.892, -5.057, -5.229,
   -5.391, -5.565, -5.726, -5.898, -6.061, -7.063, -8.059, -9.06, -9.885, -11.032, -12.006,
   -12.974, -13.93, -18.889, -24.897]

/-- `pandarGeneral_horizatal_azimuth_offset_map`. -/
def pandarGeneralHorizatalAzimuthOffsetMap : List Rat :=
  [-1.042, -1.042, -1.042, -1.042, -1.042, -1.042, 1.042, 3.125, 5.208, -5.208, -3.125, -1.042,
   1.042, 3.125, 5.208, -5.208, -3.125, -1.042, 1.042, 3.125, 5.208, -5.208, -3.125, -1.042,
   1.042, 3.125, 5.208, -5.208, -3.125, -1.042, 1.042, 3.125, 5.208, -5.208, -3.125, -1.042,
   1.042, 3.125, 5.208, -5.208, -3.125, -1.042, 1.042, 3.125, 5.208, -5.208, -3.125, -1.042,
   1.042, 3.125, 5.208, -5.208, -3.125, -1.042, -1.042, -1.042, -1.042, -1.042, -1.042, -1.042,
   -1.042, -1.042, -1.042, -1.042]

/-- `pandar20_elev_angle_map`. -/
def pandar20ElevAngleMap : List Rat :=
  [8, 5, 3, 2, 1.67, 1, 0.33, -0.33, -1, -2, -3, -4, -5, -6, -8, -10, -12, -14, -19, -25]

/-- `pandar20_horizatal_azimuth_offset_map`. -/
def pandar20HorizatalAzimuthOffsetMap : List Rat :=
  [-1.042, -1.042, -1.042, -1.042, 3.125, -1.042, -5.208, 3.125, -1.042, -1.042, -1.042, -1.042,
   -1.042, -1.042, -1.042, -1.042, -1.042, -1.042, -1.042, -1.042]

/-- `pandarQT_elev_angle_map`. -/
def pandarQTElevAngleMap : List Rat :=
  [-52.121, -49.785, -47.577, -45.477, -43.465, -41.528, -39.653, -37.831, -36.055, -34.320,
   -32.619, -30.950, -29.308, -27.690, -26.094, -24.517, -22.964, -21.420, -19.889, -18.372,
   -16.865, -15.368, -13.880, -12.399, -10.925, -9.457, -7.994, -6.535, -5.079, -3.626, -2.175,
   -0.725, 0.725, 2.175, 3.626, 5.079, 6.534, 7.993, 9.456, 10.923, 12.397, 13.877, 15.365,
   16.861, 18.368, 19.885, 21.415, 22.959, 24.524, 26.101, 27.697, 29.315, 30.957, 32.627,
   34.328, 36.064, 37.840, 39.662, 41.537, 43.475, 45.487, 47.587, 49.795, 52.133]

/-- `pandarQT_horizatal_azimuth_offset_map`. -/
def pandarQTHorizatalAzimuthOffsetMap : List Rat :=
  [8.736, 8.314, 7.964, 7.669, 7.417, 7.198, 7.007, 6.838, 6.688, 6.554, 6.434, 6.326, 6.228,
   6.140, 6.059, 5.987, -5.270, -5.216, -5.167, -5.123, -5.083, -5.047, -5.016, -4.988, -4.963,
   -4.942, -4.924, -4.910, -4.898, -4.889, -4.884, -4.881, 5.493, 5.496, 5.502, 5.512, 5.525,
   5.541, 5.561, 5.584, 5.611, 5.642, 5.676, 5.716, 5.759, 5.808, 5.862, 5.921, -5.330, -5.396,
   -5.469, -5.550, -5.640, -5.740, -5.850, -5.974, -6.113, -6.269, -6.447, -6.651, -6.887,
   -7.163, -7.493, -7.892]

/-- `pandarXT_elev_angle_map`. -/
def pandarXTElevAngleMap : List Rat :=
  [15, 14, 13, 12, 11, 10, 9, 8, 7, 6, 5, 4, 3, 2, 1, 0, -1, -2, -3, -4, -5, -6, -7, -8, -9,
   -10, -11, -12, -13, -14, -15, -16]

/-- `pandarXT_horizatal_azimuth_offset_map`. -/
def pandarXTHorizatalAzimuthOffsetMap : List Rat := List.replicate 32 0

/-- `pandarXTM_elev_angle_map`. -/
def pandarXTMElevAngleMap : List Rat :=
  [19.5, 18.2, 16.9, 15.6, 14.3, 13, 11.7, 10.4, 9.1, 7.8, 6.5, 5.2, 3.9, 2.6, 1.3, 0, -1.3,
   -2.6, -3.9, -5.2, -6.5, -7.8, -9.1, -10.4, -11.7, -13, -14.3, -15.6, -16.9, -18.2, -19.5,
   -20.8]

/-- `pandarXTM_horizatal_azimuth_offset_map`. -/
def pandarXTMHorizatalAzimuthOffsetMap : List Rat := List.replicate 32 0

/-- `count` rows of an elevation and an azimuth offset, every `stride`-th of two arrays. -/
def angleRows (count stride : Nat) (elev azimuth : List Rat) : List (Rat × Rat) :=
  (List.range count).map fun i => (elev.getD (i * stride) 0, azimuth.getD (i * stride) 0)

/-- The angles of a lidar type, laser by laser. -/
def initAngles (lidarType : String) : List (Rat × Rat) :=
  if lidarType = "Pandar40P" ∨ lidarType = "Pandar40M" then
    angleRows laserCount 1 pandar40pElevAngleMap pandar40pHorizatalAzimuthOffsetMap
  else if lidarType = "Pandar64" then
    angleRows hsLidarL64UnitNum 1 pandarGeneralElevAngleMap
      pandarGeneralHorizatalAzimuthOffsetMap
  else if lidarType = "Pandar20A" ∨ lidarType = "Pandar20B" then
    angleRows hsLidarL20UnitNum 1 pandar20ElevAngleMap pandar20HorizatalAzimuthOffsetMap
  else if lidarType = "PandarQT" then
    angleRows hsLidarQTUnitNum 1 pandarQTElevAngleMap pandarQTHorizatalAzimuthOffsetMap
  else if lidarType = "PandarXT-32" then
    angleRows hsLidarXTUnitNum 1 pandarXTElevAngleMap pandarXTHorizatalAzimuthOffsetMap
  else if lidarType = "PandarXT-16" then
    angleRows 16 2 pandarXTElevAngleMap pandarXTHorizatalAzimuthOffsetMap
  else if lidarType = "PandarXTM" then
    angleRows hsLidarXTUnitNum 1 pandarXTMElevAngleMap pandarXTMHorizatalAzimuthOffsetMap
  else []

/-- The number of lasers of a lidar type: the size of the elevation maps after `Init`. -/
def initLasers (lidarType : String) : Nat := (initAngles lidarType).length

/-- The tables of an instance after `Init`. -/
def initCalibration {F : Type} [CFloat F] (env : LoadEnv F) (stale : CalibrationTables F)
    (lidarType : String) : CalibrationTables F where
  elevAngleMap i := match (initAngles lidarType)[i]? with
    | some row => toFloat (ofRat row.1)
    | none => stale.elevAngleMap i
  horizatalAzimuthOffsetMap i := match (initAngles lidarType)[i]? with
    | some row => toFloat (ofRat row.2)
    | none => stale.horizatalAzimuthOffsetMap i
  sinElevationMap i := match (initAngles lidarType)[i]? with
    | some row => env.sinDegree (toFloat (ofRat row.1))
    | none => stale.sinElevationMap i
  cosElevationMap i := match (initAngles lidarType)[i]? with
    | some row => env.cosDegree (toFloat (ofRat row.1))
    | none => stale.cosElevationMap i
  elevationSize := initLasers lidarType

/-! ## Time offsets -/

/-- The tables that the `Calc` functions index by the number of a block or of a laser. -/
inductive LookupTable where
  | sinElevationMap
  | cosElevationMap
  | horizatalAzimuthOffsetMap
  | block40OffsetSingle
  | block40OffsetDual
  | laser40Offset
  | block64OffsetSingle
  | block64OffsetDual
  | laser64Offset
  | block20OffsetSingle
  | block20OffsetDual
  | laser20AOffset
  | laser20BOffset
  | blockQTOffsetSingle
  | blockQTOffsetDual
  | laserQTOffset
  | blockXTOffsetSingle
  | blockXTOffsetDual
  | blockXTOffsetTriple
  | laserXTOffset
deriving DecidableEq

/-- `MAX_LASER_NUM`. -/
def maxLaserNum : Nat := 256

/-- The number of entries of a table. -/
def LookupTable.size (lidarType : String) : LookupTable → Nat
  | sinElevationMap | cosElevationMap => initLasers lidarType
  | horizatalAzimuthOffsetMap => maxLaserNum
  | block40OffsetSingle | block40OffsetDual => blocksPerPacket
  | laser40Offset => laserCount
  -- the tables have six entries, a packet up to seven blocks
  | block64OffsetSingle | block64OffsetDual => hsLidarL64BlockNumber6
  | laser64Offset => hsLidarL64UnitNum
  | block20OffsetSingle | block20OffsetDual => hsLidarL20BlockNumber
  | laser20AOffset | laser20BOffset => hsLidarL20UnitNum
  | blockQTOffsetSingle | blockQTOffsetDual => hsLidarQTBlockNumber
  | laserQTOffset => hsLidarQTUnitNum
  | blockXTOffsetSingle | blockXTOffsetDual | blockXTOffsetTriple => hsLidarXTBlockNumber
  | laserXTOffset => hsLidarXTUnitNum

/-- A multiple of a period, and a constant. -/
def firing (period : FloatExpr) (k : Nat) (base : FloatExpr) : FloatExpr := period * k + base

/-- The time of a laser shot, in the tables of Pandar64 and Pandar20. -/
def shot (a b : Nat) : FloatExpr := 1.304 * (a : FloatExpr) + 1.968 * (b : FloatExpr) + 3.62

/-- The assignments to `laser40Offset_`. -/
def initLaser40Offset : List (Nat × FloatExpr) :=
  [(3, 3.62), (39, 3.62), (35, 4.92), (27, 6.23), (11, 8.19), (15, 8.19), (31, 9.5),
   (23, 11.47), (28, 12.77), (16, 14.74), (2, 16.04), (38, 16.04), (34, 17.35), (24, 18.65),
   (8, 20.62), (12, 20.62), (30, 21.92), (20, 23.89), (25, 25.19), (13, 27.16), (1, 28.47),
   (37, 28.47), (33, 29.77), (5, 31.74), (21, 31.7447), (9, 33.71), (29, 35.01), (17, 36.98),
   (22, 38.95), (10, 40.91), (0, 42.22), (36, 42.22), (32, 43.52), (4, 45.49), (18, 45.49),
   (6, 47.46), (26, 48.76), (14, 50.73), (19, 52.7), (9, 54.67)]

/-- The assignments to `laser64Offset_`. -/
def initLaser64Offset : List (Nat × FloatExpr) :=
  [(50, shot 0 0), (60, shot 0 0), (44, shot 1 0), (59, shot 1 0), (38, shot 2 0),
   (56, shot 2 0), (8, shot 3 0), (54, shot 3 0), (48, shot 4 0), (62, shot 4 0),
   (42, shot 5 0), (58, shot 5 0), (6, shot 6 0), (55, shot 6 0), (52, shot 7 0),
   (63, shot 7 0), (46, shot 8 0), (61, shot 8 0), (40, shot 9 0), (57, shot 9 0),
   (5, shot 10 0), (53, shot 10 0), (4, shot 11 0), (47, shot 11 0), (3, shot 12 0),
   (49, shot 12 0), (2, shot 13 0), (51, shot 13 0), (1, shot 14 0), (45, shot 14 0),
   (0, shot 15 0), (43, shot 15 0), (23, shot 15 1), (32, shot 15 1), (26, shot 15 2),
   (41, shot 15 2), (20, shot 15 3), (35, shot 15 3), (14, shot 15 4), (29, shot 15 4),
   (21, shot 15 5), (36, shot 15 5), (15, shot 15 6), (30, shot 15 6), (9, shot 15 7),
   (24, shot 15 7), (18, shot 15 8), (33, shot 15 8), (12, shot 15 9), (27, shot 15 9),
   (19, shot 15 10), (34, shot 15 10), (13, shot 15 11), (28, shot 15 11), (7, shot 15 12),
   (22, shot 15 12), (16, shot 15 13), (31, shot 15 13), (10, shot 15 14), (25, shot 15 14),
   (17, shot 15 15), (37, shot 15 15), (11, shot 15 16), (39, shot 15 16)]

/-- The assignments to `laser20AOffset_`. -/
def initLaser20AOffset : List (Nat × FloatExpr) :=
  [(1, shot 0 0), (19, shot 0 0), (16, shot 1 0), (14, shot 3 1), (11, shot 3 2), (0, shot 5 3),
   (18, shot 5 3), (5, shot 7 4), (7, shot 7 4), (10, shot 8 5), (17, shot 10 6),
   (15, shot 11 6), (3, shot 11 7), (13, shot 12 8), (9, shot 12 9), (6, shot 12 11),
   (2, shot 14 12), (4, shot 14 13), (12, shot 15 13), (8, shot 15 14)]

/-- The assignments to `laser20BOffset_`. -/
def initLaser20BOffset : List (Nat × FloatExpr) :=
  [(17, shot 1 0), (5, shot 2 1), (15, shot 3 1), (11, shot 3 2), (8, shot 4 3), (19, shot 5 3),
   (3, shot 7 4), (6, shot 7 4), (14, shot 8 4), (10, shot 8 5), (18, shot 10 6),
   (16, shot 11 6), (1, shot 11 7), (13, shot 12 8), (4, shot 12 11), (0, shot 14 12),
   (9, shot 14 12), (2, shot 14 13), (12, shot 15 13), (7, shot 15 14)]

/-- The second term of each entry of `laserQTOffset_`. -/
def laserQTOffsets : List FloatExpr :=
  [2.31, 4.37, 6.43, 8.49, 10.54, 12.60, 14.66, 16.71, 19.16, 21.22, 23.28, 25.34, 27.39, 29.45,
   31.50, 33.56, 36.61, 38.67, 40.73, 42.78, 44.84, 46.90, 48.95, 51.01, 53.45, 55.52, 57.58,
   59.63, 61.69, 63.74, 65.80, 67.86, 70.90, 72.97, 75.02, 77.08, 79.14, 81.19, 83.25, 85.30,
   87.75, 89.82, 91.87, 93.93, 95.98, 98.04, 100.10, 102.15, 105.20, 107.26, 109.32, 111.38,
   113.43, 115.49, 117.54, 119.60, 122.05, 124.11, 126.17, 128.22, 130.28, 132.34, 134.39,
   136.45]

/-- The assignments of time offsets, in the order of the source. An entry that is assigned
    twice has the last value. -/
def initOffsets (lidarType : String) : LookupTable → List (Nat × FloatExpr)
  | .sinElevationMap | .cosElevationMap | .horizatalAzimuthOffsetMap => []
  | .block40OffsetSingle => (List.range 10).map fun k => (9 - k, firing 55.56 k 28.58)
  | .block40OffsetDual => (List.range 10).map fun k => (9 - k, firing 55.56 (k / 2) 28.58)
  | .laser40Offset => initLaser40Offset
  | .block64OffsetSingle => (List.range 6).map fun k => (5 - k, firing 55.56 k 42.58)
  | .block64OffsetDual => (List.range 6).map fun k => (5 - k, firing 55.56 (k / 2) 42.58)
  | .laser64Offset => initLaser64Offset
  | .block20OffsetSingle => (List.range hsLidarL20BlockNumber).map fun i =>
      (i, 28.58 + ((hsLidarL20BlockNumber - 1 - i : Nat) : FloatExpr) * 55.56)
  | .block20OffsetDual => (List.range hsLidarL20BlockNumber).map fun i =>
      (i, 28.58 + (((hsLidarL20BlockNumber - 1 - i) / 2 : Nat) : FloatExpr) * 55.56)
  | .laser20AOffset => initLaser20AOffset
  | .laser20BOffset => initLaser20BOffset
  | .blockQTOffsetSingle =>
      [(0, 25.71), (1, 25.71 + 166.67), (2, 25.71 + 333.33), (3, 25.71 + 500.00)]
  | .blockQTOffsetDual => [(0, 25.71), (1, 25.71), (2, 25.71 + 166.67), (3, 25.71 + 166.67)]
  | .laserQTOffset => laserQTOffsets.zipIdx.map fun (offset, i) => (i, 10.0 + offset)
  | .blockXTOffsetSingle =>
      blockXT [7, 6, 5, 4, 3, 2, 1, 0] ++ onlyXTM (blockXT [5, 4, 3, 2, 1, 0, 0, 0])
  | .blockXTOffsetDual =>
      blockXT [3, 3, 2, 2, 1, 1, 0, 0] ++ onlyXTM (blockXT [2, 2, 1, 1, 0, 0, 0, 0])
  | .blockXTOffsetTriple => onlyXTM (blockXT [1, 1, 1, 0, 0, 0, 0, 0])
  | .laserXTOffset =>
    if lidarType = "PandarXT-32" then (List.range 32).map fun i => (i, firing 1.512 i 0.368)
    else if lidarType = "PandarXT-16" then
      (List.range 16).map fun i => (i, firing 1.512 (i * 2) 0.368)
    else onlyXTM ((List.range 32).map fun i => (i, firing 2.856 (i % 16) 0.368))
where
  /-- `5.632f - 50.0f * k` for each block. -/
  blockXT (ks : List Nat) : List (Nat × FloatExpr) :=
    ks.zipIdx.map fun (k, i) => (i, 5.632 - 50.0 * (k : FloatExpr))
  /-- Only for this type. -/
  onlyXTM (entries : List (Nat × FloatExpr)) : List (Nat × FloatExpr) :=
    if lidarType = "PandarXTM" then entries else []

/-- The entries of a table that `Init` assigns. -/
def LookupTable.assigned (lidarType : String) : LookupTable → List Nat
  | sinElevationMap | cosElevationMap | horizatalAzimuthOffsetMap =>
    List.range (initLasers lidarType)
  | table => (initOffsets lidarType table).map Prod.fst

/-- A table after a sequence of assignments. -/
def assignAll {F : Type} [CFloat F] (stale : Nat → F) (entries : List (Nat × FloatExpr)) :
    Nat → F :=
  entries.foldl (fun table e => Function.update table e.1 e.2.eval) stale

/-- The time offsets of an instance after `Init`. -/
def initTables {F : Type} [CFloat F] (stale : Tables F) (lidarType : String) : Tables F :=
  let init := fun (table : LookupTable) (stale : Nat → F) =>
    assignAll stale (initOffsets lidarType table)
  { stale with
    block40OffsetSingle := init .block40OffsetSingle stale.block40OffsetSingle
    block40OffsetDual := init .block40OffsetDual stale.block40OffsetDual
    laser40Offset := init .laser40Offset stale.laser40Offset
    block64OffsetSingle := init .block64OffsetSingle stale.block64OffsetSingle
    block64OffsetDual := init .block64OffsetDual stale.block64OffsetDual
    laser64Offset := init .laser64Offset stale.laser64Offset
    block20OffsetSingle := init .block20OffsetSingle stale.block20OffsetSingle
    block20OffsetDual := init .block20OffsetDual stale.block20OffsetDual
    laser20AOffset := init .laser20AOffset stale.laser20AOffset
    laser20BOffset := init .laser20BOffset stale.laser20BOffset
    blockQTOffsetSingle := init .blockQTOffsetSingle stale.blockQTOffsetSingle
    blockQTOffsetDual := init .blockQTOffsetDual stale.blockQTOffsetDual
    laserQTOffset := init .laserQTOffset stale.laserQTOffset
    blockXTOffsetSingle := init .blockXTOffsetSingle stale.blockXTOffsetSingle
    blockXTOffsetDual := init .blockXTOffsetDual stale.blockXTOffsetDual
    blockXTOffsetTriple := init .blockXTOffsetTriple stale.blockXTOffsetTriple
    laserXTOffset := init .laserXTOffset stale.laserXTOffset }

end Hesai
