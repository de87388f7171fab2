import Go2Sensors.ForStd.Traced
import Go2Sensors.Native.Packet

/-!
# The packet parsers

`parseRawData` (Pandar40) has a fixed layout. The other four parsers take the
number of blocks and of lasers from two header bytes and walk the packet with a
running byte index. They share their code up to the constants collected in a
`Format`: `parseL64Data`, `parseL20Data`, `parseQTData` and `parseXTData` are
`parseData` at the values of their headers. Every byte read and every block and
unit written is recorded as an `Access`, in or out of range. A parser returns
`none` where the driver returns `-1`.
-/

namespace Hesai

/-- What a parser touches: a byte of `recvbuf`, `packet->blocks[block]`, or
    `packet->blocks[block].units[unit]`. -/
inductive Access where
  | read (index : Nat)
  | block (block : Nat)
  | unit (block unit : Nat)
deriving DecidableEq, Repr

/-! ## Reading bytes -/

/-- `recvbuf[index] & 0xff`. -/
def readByte (recvbuf : Nat → UInt8) (index : Nat) : Traced Access Nat := do
  Traced.tell (.read index)
  pure (recvbuf index).toNat

/-- Two bytes, low byte first. -/
def readUInt16LE (recvbuf : Nat → UInt8) (index : Nat) : Traced Access Nat := do
  let b0 ← readByte recvbuf index
  let b1 ← readByte recvbuf (index + 1)
  pure (b0 ||| b1 <<< 8)

/-- Two bytes, high byte first. -/
def readUInt16BE (recvbuf : Nat → UInt8) (index : Nat) : Traced Access Nat := do
  let b0 ← readByte recvbuf index
  let b1 ← readByte recvbuf (index + 1)
  pure (b0 <<< 8 ||| b1)

/-- Four bytes, low byte first. -/
def readUInt32LE (recvbuf : Nat → UInt8) (index : Nat) : Traced Access Nat := do
  let b0 ← readByte recvbuf index
  let b1 ← readByte recvbuf (index + 1)
  let b2 ← readByte recvbuf (index + 2)
  let b3 ← readByte recvbuf (index + 3)
  pure (b0 ||| b1 <<< 8 ||| b2 <<< 16 ||| b3 <<< 24)

/-- The six bytes of the UTC time. -/
def readAddtime (recvbuf : Nat → UInt8) (index : Nat) : Traced Access (List Nat) := do
  let b0 ← readByte recvbuf index
  let b1 ← readByte recvbuf (index + 1)
  let b2 ← readByte recvbuf (index + 2)
  let b3 ← readByte recvbuf (index + 3)
  let b4 ← readByte recvbuf (index + 4)
  let b5 ← readByte recvbuf (index + 5)
  pure [b0, b1, b2, b3, b4, b5]

/-! ## The block and unit loops -/

/-- The unit loop of block number `block`, from unit `unit` on, with the byte index
    after the loop. -/
def parseUnits (readUnit : Nat → Traced Access LidarUnit) (unitSize block : Nat) :
    (remaining unit index : Nat) → Traced Access (List LidarUnit × Nat)
  | 0, _, index => pure ([], index)
  | remaining + 1, unit, index => do
    let u ← readUnit index
    Traced.tell (.unit block unit)
    let rest ← parseUnits readUnit unitSize block remaining (unit + 1) (index + unitSize)
    pure (u :: rest.1, rest.2)

/-- The block loop, from block `block` on: the azimuth, then the units. -/
def parseBlocks (readAzimuth : Nat → Traced Access Nat)
    (readUnit : Nat → Traced Access LidarUnit) (headerSize unitSize unitNum : Nat) :
    (remaining block index : Nat) → Traced Access (List LidarBlock × Nat)
  | 0, _, index => pure ([], index)
  | remaining + 1, block, index => do
    let azimuth ← readAzimuth index
    Traced.tell (.block block)
    let units ← parseUnits readUnit unitSize block unitNum 0 (index + headerSize)
    let rest ← parseBlocks readAzimuth readUnit headerSize unitSize unitNum remaining
      (block + 1) units.2
    pure (⟨azimuth, units.1⟩ :: rest.1, rest.2)

/-! ## The header-driven families -/

/-- The constants in which the header-driven parsers differ. -/
structure Format where
  /-- the lengths the parser admits -/
  lengths : List Nat
  headSize : Nat
  /-- does the header carry the two protocol bytes? -/
  protocol : Bool
  laserNumberIndex : Nat
  blockHeaderAzimuth : Nat
  unitSize : Nat
  /-- does a unit carry the confidence byte? -/
  confidence : Bool
  /-- byte offsets after the last block -/
  timestampOffset : Nat
  echoOffset : Nat
  utcOffset : Nat
  /-- array bounds of the packet structure -/
  blockNumber : Nat
  unitNum : Nat
  /-- each part of the packet covers the bytes that are read from it -/
  head_le : laserNumberIndex + 4 ≤ headSize
  azimuth_le : 2 ≤ blockHeaderAzimuth
  unit_le : (if confidence then 4 else 3) ≤ unitSize

/-- Number of bytes after the last block that the parser reads or skips. -/
def Format.tailSize (fmt : Format) : Nat :=
  max (fmt.timestampOffset + 4) (max (fmt.echoOffset + 1) (fmt.utcOffset + 6))

/-- A member of type `char` of the header. -/
def readChar (charSigned : Bool) (recvbuf : Nat → UInt8) (index : Nat) : Traced Access Int := do
  let byte ← readByte recvbuf index
  pure (toChar charSigned byte)

/-- The header. The block count, the return type and the distance unit follow the
    laser count. -/
def parseHeader (fmt : Format) (charSigned : Bool) (recvbuf : Nat → UInt8) :
    Traced Access LidarHeader := do
  let sob ← readUInt16BE recvbuf 0
  let major ← Traced.onlyIf fmt.protocol (readChar charSigned recvbuf 2) 0
  let minor ← Traced.onlyIf fmt.protocol (readChar charSigned recvbuf 3) 0
  let laserNumber ← readChar charSigned recvbuf fmt.laserNumberIndex
  let blockNumber ← readChar charSigned recvbuf (fmt.laserNumberIndex + 1)
  let returnType ← readChar charSigned recvbuf (fmt.laserNumberIndex + 2)
  let disUnit ← readChar charSigned recvbuf (fmt.laserNumberIndex + 3)
  pure ⟨sob, major, minor, laserNumber, blockNumber, returnType, disUnit⟩

/-- One unit: `unRange * chDisUnit` is an unsigned product, in millimetres. -/
def parseUnit (fmt : Format) (recvbuf : Nat → UInt8) (disUnit : Int) (index : Nat) :
    Traced Access LidarUnit := do
  let unRange ← readUInt16LE recvbuf index
  let intensity ← readByte recvbuf (index + 2)
  let confidence ← Traced.onlyIf fmt.confidence (readByte recvbuf (index + 3)) 0
  pure ⟨(toUInt32 (unRange * disUnit) : Rat) / 1000, intensity, confidence⟩

/-- The code that `ParseL64Data`, `ParseL20Data`, `ParseQTData` and `ParseXTData` share. -/
def parseData (fmt : Format) (charSigned : Bool) (recvbuf : Nat → UInt8) (len : Nat) :
    Traced Access (Option LidarPacket) :=
  if len ∉ fmt.lengths then
    -- "packet size mismatch"
    pure none
  else do
    let header ← parseHeader fmt charSigned recvbuf
    if header.sob != 0xEEFF then
      -- "Error Start of Packet!"
      pure none
    else
      let blocks ← parseBlocks (readUInt16LE recvbuf) (parseUnit fmt recvbuf header.chDisUnit)
        fmt.blockHeaderAzimuth fmt.unitSize header.chLaserNumber.toNat
        header.chBlockNumber.toNat 0 fmt.headSize
      let timestamp ← readUInt32LE recvbuf (blocks.2 + fmt.timestampOffset)
      let echo ← readByte recvbuf (blocks.2 + fmt.echoOffset)
      let addtime ← readAddtime recvbuf (blocks.2 + fmt.utcOffset)
      pure (some ⟨header, blocks.1, timestamp, echo, addtime⟩)

/-! ### Pandar64 -/

def hsLidarL64HeadSize : Nat := 8
def hsLidarL64BlockNumber6 : Nat := 6
def hsLidarL64BlockNumber7 : Nat := 7
def hsLidarL64BlockHeaderAzimuth : Nat := 2
def hsLidarL64UnitNum : Nat := 64
def hsLidarL64UnitSize : Nat := 3
def hsLidarL64BlockSize : Nat :=
  hsLidarL64UnitSize * hsLidarL64UnitNum + hsLidarL64BlockHeaderAzimuth
def hsLidarL64TimestampSize : Nat := 4
def hsLidarL64EchoSize : Nat := 1
def hsLidarL64FactorySize : Nat := 1
def hsLidarL64ReservedSize : Nat := 8
def hsLidarL64EngineVelocity : Nat := 2
def hsLidarL64PacketTailSize : Nat := 26
def hsLidarL64PacketTailWithoutUDPSeqSize : Nat := 22
def hsLidarL64Packet6Size : Nat :=
  hsLidarL64HeadSize + hsLidarL64BlockSize * hsLidarL64BlockNumber6 + hsLidarL64PacketTailSize
def hsLidarL64Packet7Size : Nat :=
  hsLidarL64HeadSize + hsLidarL64BlockSize * hsLidarL64BlockNumber7 + hsLidarL64PacketTailSize
def hsLidarL64Packet6WithoutUDPSeqSize : Nat :=
  hsLidarL64HeadSize + hsLidarL64BlockSize * hsLidarL64BlockNumber6 +
    hsLidarL64PacketTailWithoutUDPSeqSize
def hsLidarL64Packet7WithoutUDPSeqSize : Nat :=
  hsLidarL64HeadSize + hsLidarL64BlockSize * hsLidarL64BlockNumber7 +
    hsLidarL64PacketTailWithoutUDPSeqSize

/-- The constants of `ParseL64Data`. -/
def l64Format : Format where
  lengths := [hsLidarL64Packet6Size, hsLidarL64Packet7Size,
    hsLidarL64Packet6WithoutUDPSeqSize, hsLidarL64Packet7WithoutUDPSeqSize, 1270]
  headSize := hsLidarL64HeadSize
  protocol := false
  laserNumberIndex := 2
  blockHeaderAzimuth := hsLidarL64BlockHeaderAzimuth
  unitSize := hsLidarL64UnitSize
  confidence := false
  timestampOffset := hsLidarL64ReservedSize + hsLidarL64EngineVelocity
  echoOffset := hsLidarL64ReservedSize + hsLidarL64EngineVelocity + hsLidarL64TimestampSize
  utcOffset := hsLidarL64ReservedSize + hsLidarL64EngineVelocity + hsLidarL64TimestampSize +
    hsLidarL64EchoSize + hsLidarL64FactorySize
  blockNumber := hsLidarL64BlockNumber7
  unitNum := hsLidarL64UnitNum
  head_le := by decide
  azimuth_le := by decide
  unit_le := by decide

/-- `ParseL64Data`. -/
def parseL64Data : Bool → (Nat → UInt8) → Nat → Traced Access (Option LidarPacket) :=
  parseData l64Format

/-! ### Pandar20A and Pandar20B -/

def hsLidarL20HeadSize : Nat := 8
def hsLidarL20BlockNumber : Nat := 20
def hsLidarL20BlockHeaderAzimuth : Nat := 2
def hsLidarL20UnitNum : Nat := 20
def hsLidarL20UnitSize : Nat := 3
def hsLidarL20BlockSize : Nat :=
  hsLidarL20UnitSize * hsLidarL20UnitNum + hsLidarL20BlockHeaderAzimuth
def hsLidarL20TimestampSize : Nat := 4
def hsLidarL20EchoSize : Nat := 1
def hsLidarL20FactorySize : Nat := 1
def hsLidarL20ReservedSize : Nat := 8
def hsLidarL20EngineVelocity : Nat := 2
def hsLidarL20PacketTailSize : Nat := 22
def hsLidarL20PacketSize : Nat :=
  hsLidarL20HeadSize + hsLidarL20BlockSize * hsLidarL20BlockNumber + hsLidarL20PacketTailSize

/-- The constants of `ParseL20Data`. -/
def l20Format : Format where
  lengths := [hsLidarL20PacketSize]
  headSize := hsLidarL20HeadSize
  protocol := false
  laserNumberIndex := 2
  blockHeaderAzimuth := hsLidarL20BlockHeaderAzimuth
  unitSize := hsLidarL20UnitSize
  confidence := false
  timestampOffset := hsLidarL20ReservedSize + hsLidarL20EngineVelocity
  echoOffset := hsLidarL20ReservedSize + hsLidarL20EngineVelocity + hsLidarL20TimestampSize
  utcOffset := hsLidarL20ReservedSize + hsLidarL20EngineVelocity + hsLidarL20TimestampSize +
    hsLidarL20EchoSize + hsLidarL20FactorySize
  blockNumber := hsLidarL20BlockNumber
  unitNum := hsLidarL20UnitNum
  head_le := by decide
  azimuth_le := by decide
  unit_le := by decide

/-- `ParseL20Data`. -/
def parseL20Data : Bool → (Nat → UInt8) → Nat → Traced Access (Option LidarPacket) :=
  parseData l20Format

/-! ### PandarQT -/

def hsLidarQTHeadSize : Nat := 12
def hsLidarQTBlockNumber : Nat := 4
def hsLidarQTBlockHeaderAzimuth : Nat := 2
def hsLidarQTUnitNum : Nat := 64
def hsLidarQTUnitSize : Nat := 4
def hsLidarQTBlockSize : Nat :=
  hsLidarQTUnitSize * hsLidarQTUnitNum + hsLidarQTBlockHeaderAzimuth
def hsLidarQTBodySize : Nat := hsLidarQTBlockSize * hsLidarQTBlockNumber
def hsLidarQTReservedSize : Nat := 10
def hsLidarQTEngineVelocity : Nat := 2
def hsLidarQTTimestampSize : Nat := 4
def hsLidarQTEchoSize : Nat := 1
def hsLidarQTFactorySize : Nat := 1
def hsLidarQTPacketTailSize : Nat := 28
def hsLidarQTPacketTailWithoutUDPSeqSize : Nat := 24
def hsLidarQTPacketSize : Nat :=
  hsLidarQTHeadSize + hsLidarQTBodySize + hsLidarQTPacketTailSize
def hsLidarQTPacketWithoutUDPSeqSize : Nat :=
  hsLidarQTHeadSize + hsLidarQTBodySize + hsLidarQTPacketTailWithoutUDPSeqSize

/-- The constants of `ParseQTData`. -/
def qtFormat : Format where
  lengths := [hsLidarQTPacketSize, hsLidarQTPacketWithoutUDPSeqSize]
  headSize := hsLidarQTHeadSize
  protocol := true
  laserNumberIndex := 6
  blockHeaderAzimuth := hsLidarQTBlockHeaderAzimuth
  unitSize := hsLidarQTUnitSize
  confidence := true
  timestampOffset := hsLidarQTReservedSize + hsLidarQTEngineVelocity
  echoOffset := hsLidarQTReservedSize + hsLidarQTEngineVelocity + hsLidarQTTimestampSize
  utcOffset := hsLidarQTReservedSize + hsLidarQTEngineVelocity + hsLidarQTTimestampSize +
    hsLidarQTEchoSize + hsLidarQTFactorySize
  blockNumber := hsLidarQTBlockNumber
  unitNum := hsLidarQTUnitNum
  head_le := by decide
  azimuth_le := by decide
  unit_le := by decide

/-- `ParseQTData`. -/
def parseQTData : Bool → (Nat → UInt8) → Nat → Traced Access (Option LidarPacket) :=
  parseData qtFormat

/-! ### PandarXT-32, PandarXT-16 and PandarXTM -/

def hsLidarXTHeadSize : Nat := 12
def hsLidarXTBlockNumber : Nat := 8
def hsLidarXTBlockHeaderAzimuth : Nat := 2
def hsLidarXTUnitNum : Nat := 32
def hsLidarXTUnitSize : Nat := 4
def hsLidarXTBlockSize : Nat :=
  hsLidarXTUnitSize * hsLidarXTUnitNum + hsLidarXTBlockHeaderAzimuth
def hsLidarXTBodySize : Nat := hsLidarXTBlockSize * hsLidarXTBlockNumber
def hsLidarXTReservedSize : Nat := 10
def hsLidarXTEngineVelocity : Nat := 2
def hsLidarXTEchoSize : Nat := 1
def hsLidarXTUTCSize : Nat := 6
def hsLidarXTPacketTailSize : Nat := 28
def hsLidarXTPacketSize : Nat :=
  hsLidarXTHeadSize + hsLidarXTBodySize + hsLidarXTPacketTailSize
def hsLidarXT16PacketSize : Nat := 568
def hsLidarXTMPacketSize : Nat := 820

/-- The constants of `ParseXTData`, whose tail has another order: the echo byte comes
    first and the timestamp after the UTC time. -/
def xtFormat : Format where
  lengths := [hsLidarXTPacketSize, hsLidarXT16PacketSize, hsLidarXTMPacketSize]
  headSize := hsLidarXTHeadSize
  protocol := true
  laserNumberIndex := 6
  blockHeaderAzimuth := hsLidarXTBlockHeaderAzimuth
  unitSize := hsLidarXTUnitSize
  confidence := true
  timestampOffset := hsLidarXTReservedSize + hsLidarXTEchoSize + hsLidarXTEngineVelocity +
    hsLidarXTUTCSize
  echoOffset := hsLidarXTReservedSize
  utcOffset := hsLidarXTReservedSize + hsLidarXTEchoSize + hsLidarXTEngineVelocity
  blockNumber := hsLidarXTBlockNumber
  unitNum := hsLidarXTUnitNum
  head_le := by decide
  azimuth_le := by decide
  unit_le := by decide

/-- `ParseXTData`. -/
def parseXTData : Bool → (Nat → UInt8) → Nat → Traced Access (Option LidarPacket) :=
  parseData xtFormat

/-! ## Pandar40P and Pandar40M -/

def laserCount : Nat := 40
def blocksPerPacket : Nat := 10
def sobAngleSize : Nat := 4
def rawMeasureSize : Nat := 3
def blockSize : Nat := rawMeasureSize * laserCount + sobAngleSize
def timestampSize : Nat := 4
def factoryInfoSize : Nat := 1
def echoSize : Nat := 1
def reserveSize : Nat := 8
def revolutionSize : Nat := 2
def infoSize : Nat := timestampSize + factoryInfoSize + echoSize + reserveSize + revolutionSize
def utcTime : Nat := 6
def packetSize : Nat := blockSize * blocksPerPacket + infoSize + utcTime
def seqNumSize : Nat := 4

/-- The azimuth of a block, after its two start bytes. -/
def parseRawAzimuth (recvbuf : Nat → UInt8) (index : Nat) : Traced Access Nat := do
  -- the start bytes of the block are read and not checked
  let _ ← readUInt16LE recvbuf index
  readUInt16LE recvbuf (index + 2)

/-- One unit, with the filter for wrong data. -/
def parseRawUnit (recvbuf : Nat → UInt8) (index : Nat) : Traced Access LidarUnit := do
  let range ← readUInt16LE recvbuf index
  let intensity ← readByte recvbuf (index + 2)
  let distance : Rat := range * 4 / 1000
  -- the test on the raw value is made after the conversion to metres
  pure <| if (distance == 0x010101 && intensity == 0x0101) || distance > 200 * 1000 / 2
    then ⟨0, 0, 0⟩ else ⟨distance, intensity, 0⟩

/-- `tm_year`, with the correction "in case of time error". -/
def toTmYear (byte : Nat) : Int :=
  if (byte : Int) + 100 ≥ 200 then byte else byte + 100

/-- The calendar fields from the six UTC bytes. -/
def toTm (addtime : List Nat) : Tm where
  tmYear := toTmYear (addtime.getD 0 0)
  tmMon := (addtime.getD 1 0 : Int) - 1
  tmMday := addtime.getD 2 0
  tmHour := addtime.getD 3 0
  tmMin := addtime.getD 4 0
  tmSec := addtime.getD 5 0

/-- `ParseRawData`. -/
def parseRawData (buf : Nat → UInt8) (len : Nat) : Traced Access (Option Pandar40PPacket) :=
  if len != packetSize && len != packetSize + seqNumSize then
    -- "packet size mismatch"
    pure none
  else do
    let blocks ← parseBlocks (parseRawAzimuth buf) (parseRawUnit buf) sobAngleSize rawMeasureSize
      laserCount blocksPerPacket 0 0
    let index := blocks.2 + reserveSize + revolutionSize
    let usec ← readUInt32LE buf index
    let echo ← readByte buf (index + timestampSize)
    let addtime ← readAddtime buf (index + timestampSize + factoryInfoSize + echoSize)
    pure (some ⟨blocks.1, toTm addtime, usec % 1000000, echo⟩)

end Hesai
