import Go2Sensors.ForStd.BigEndian
import Go2Sensors.ForStd.Buffer
import Go2Sensors.ForStd.PieceStream
import Go2Sensors.Native.Packet

/-!
# The command protocol

The calibration is read from the lidar over TCP: a command and its answer are a header
of eight bytes (two magic bytes, command, return code, length) and a payload. The
writer is `tcpCommandBuildHeader`; the reader is `tcpCommandReadCommand`, which reads
through `sysReadn`. Reads that ask for `n` bytes may get fewer, or be interrupted.
-/

namespace Hesai

open BigEndian (ofBytesBE)
open Buffer (overlay)

/-- `TcpCommandHeader`, with `len` below `2 ^ 32`. -/
@[ext] structure TcpCommandHeader where
  cmd : UInt8
  retCode : UInt8
  len : Nat
deriving DecidableEq

/-- `TC_Command`, with the `len` bytes at `data`. -/
structure TCCommand where
  header : TcpCommandHeader
  data : List UInt8
deriving DecidableEq

/-! ## Writing -/

/-- `TcpCommand_buildHeader`. -/
def tcpCommandBuildHeader (cmd : TCCommand) : List UInt8 :=
  [0x47, 0x74, cmd.header.cmd, cmd.header.retCode,
    UInt8.ofNat (cmd.header.len >>> 24), UInt8.ofNat (cmd.header.len >>> 16),
    UInt8.ofNat (cmd.header.len >>> 8), UInt8.ofNat cmd.header.len]

/-- What `tcpCommandClient_SendCmd` writes before it waits for the answer. -/
def tcpCommandClientSendCmd (cmd : TCCommand) : List UInt8 :=
  tcpCommandBuildHeader cmd ++
    if cmd.header.len > 0 then cmd.data.take cmd.header.len else []

/-! ## Reading -/

/-- The return value of `sys_readn`, the bytes it has stored, and the connection
    afterwards. -/
structure ReadN where
  ret : Int
  stored : List UInt8
  conn : PieceStream UInt8

/-- The loop of `sys_readn`. -/
def sysReadnLoop (n nleft : Int) (stored : List UInt8) (conn : PieceStream UInt8) : ReadN :=
  if nleft > 0 then
    match hread : conn.read nleft.toNat with
    -- `errno == EINTR`
    | (.interrupted, conn') => sysReadnLoop n nleft stored conn'
    | (.failed, conn') => ⟨-1, stored, conn'⟩
    -- end of file
    | (.items [], conn') => ⟨n - nleft, stored, conn'⟩
    | (.items (b :: bs), conn') =>
      sysReadnLoop n (nleft - (b :: bs).length) (stored ++ b :: bs) conn'
  else ⟨n - nleft, stored, conn⟩
termination_by nleft.toNat + conn.schedule.length
decreasing_by
  · have := (PieceStream.read_interrupted hread).2.1
    omega
  · have := (PieceStream.read_items hread).2.2.2.1
    rw [List.length_cons]
    omega

/-- `sys_readn`. -/
def sysReadn (conn : PieceStream UInt8) (n : Int) : ReadN := sysReadnLoop n n [] conn

/-- `tcpCommandHeaderParser`. -/
def tcpCommandHeaderParser (buffer : Nat → UInt8) : TcpCommandHeader where
  cmd := buffer 0
  retCode := buffer 1
  len := ofBytesBE (buffer 2) (buffer 3) (buffer 4) (buffer 5)

/-- `tcpCommandReadCommand`: the command and the connection afterwards, `none` for the
    return value `-1`. `stale` is what the array on the stack holds before. -/
def tcpCommandReadCommand (stale : Nat → UInt8) (conn : PieceStream UInt8) :
    Option TCCommand × PieceStream UInt8 :=
  let magic := sysReadn conn 2
  let buffer := overlay stale magic.stored
  -- a single byte gets this far: the second one is then not from the stream
  if magic.ret ≤ 0 ∨ buffer 0 ≠ 0x47 ∨ buffer 1 ≠ 0x74 then (none, magic.conn)
  else
    let rest := sysReadn magic.conn 6
    if rest.ret ≠ 6 then (none, rest.conn)
    else
      let header := tcpCommandHeaderParser (overlay (fun i => buffer (i + 2)) rest.stored)
      -- the length goes to an `int` parameter, and is compared without sign
      let payload := sysReadn rest.conn (Int.bmod header.len (2 ^ 32))
      if toUInt32 payload.ret ≠ header.len then (none, payload.conn)
      else (some ⟨header, payload.stored⟩, payload.conn)

end Hesai
