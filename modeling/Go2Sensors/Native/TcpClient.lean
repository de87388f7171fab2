import Go2Sensors.ForStd.Locking
import Go2Sensors.Native.TcpCommand

/-!
# The command client

`tcpCommandClient_SendCmd` takes the lock of the client, opens a connection to the lidar,
writes the command, reads the answer, and closes the connection. The functions of the
interface (`TcpCommandGetCalibration` and the others) fill in a command and take the answer
apart. The shared state is the table of descriptors of the process (`Net`); `malloc` does
not fail. `connect`, `read` and `write` have no timeout: a lidar that takes the connection and
then never answers, and the `SIGPIPE` of a write to a closed connection, are not among the
behaviours of a `Peer`.
-/

namespace Hesai

open Locking Program

/-! ## Sockets -/

/-- The other side of a connection. -/
structure Peer where
  /-- what one `write` after the other takes at most, `none` for an error. After the last
      entry everything is taken. -/
  writes : List (Option Nat)
  /-- how the answer arrives to the bytes that were sent -/
  answer : List UInt8 → PieceStream UInt8

/-- An open connection. -/
structure Socket where
  peer : Peer
  sent : List UInt8
  /-- what is left of the answer, once the first byte was asked for -/
  incoming : Option (PieceStream UInt8)

namespace Socket

/-- `write`: the return value, and the connection afterwards. -/
def write (socket : Socket) (data : List UInt8) : Int × Socket :=
  let peer := { socket.peer with writes := socket.peer.writes.tail }
  match socket.peer.writes.head? with
  | none => (data.length, { socket with sent := socket.sent ++ data })
  | some none => (-1, { socket with peer })
  | some (some k) =>
    ((data.take k).length, { socket with peer, sent := socket.sent ++ data.take k })

/-- The answer, or what is left of it. -/
def stream (socket : Socket) : PieceStream UInt8 :=
  socket.incoming.getD (socket.peer.answer socket.sent)

/-- `sys_readn`, and the connection afterwards. -/
def sysReadn (socket : Socket) (n : Int) : ReadN × Socket :=
  let read := Hesai.sysReadn socket.stream n
  (read, { socket with incoming := some read.conn })

end Socket

/-- The descriptors of the process, and the lidar. -/
structure Net where
  /-- the greatest number of open descriptors -/
  limit : Nat
  fds : Nat → Option Socket
  /-- what the next attempts to connect meet, `none` where no connection comes about -/
  peers : Nat → Option Peer
  /-- what was sent on the connections that are closed, oldest first -/
  closed : List (List UInt8)

namespace Net

/-- The free descriptor with the least number. -/
def freeFd (net : Net) : Option Nat :=
  (List.range net.limit).find? fun fd => (net.fds fd).isNone

/-- The same descriptors but for one. -/
def setFd (net : Net) (fd : Nat) (socket : Option Socket) : Net :=
  { net with fds := Function.update net.fds fd socket }

/-- `tcp_open`. A socket that cannot be connected is closed again. -/
def tcpOpen (net : Net) : Int × Net :=
  match net.freeFd with
  -- socket fails
  | none => (-1, net)
  | some fd =>
    let next := { net with peers := fun n => net.peers (n + 1) }
    match net.peers 0 with
    -- connect fails
    | none => (-1, next)
    | some peer => (fd, next.setFd fd (some ⟨peer, [], none⟩))

/-- A system call on a descriptor, with the value it returns for one that is not open. -/
def onSocket {ρ : Type} (net : Net) (fd : Nat) (bad : ρ) (call : Socket → ρ × Socket) : ρ × Net :=
  match net.fds fd with
  | none => (bad, net)
  | some socket => ((call socket).1, net.setFd fd (some (call socket).2))

/-- `write`. -/
def write (net : Net) (fd : Nat) (data : List UInt8) : Int × Net :=
  net.onSocket fd (-1) (·.write data)

/-- `sys_readn`. -/
def sysReadn (net : Net) (fd : Nat) (n : Int) : ReadN × Net :=
  net.onSocket fd ⟨-1, [], ⟨[], []⟩⟩ (·.sysReadn n)

/-- `close`. -/
def close (net : Net) (fd : Nat) : Net :=
  match net.fds fd with
  | none => net
  | some socket => { net.setFd fd none with closed := net.closed ++ [socket.sent] }

end Net

/-! ## A call -/

/-- `PTC_ErrCode`. -/
def ptcErrorNoError : Nat := 0
def ptcErrorBadParameter : Nat := 1
def ptcErrorConnectServerFailed : Nat := 2
def ptcErrorTransferFailed : Nat := 3

/-- `tcpCommandReadCommand` on a descriptor. -/
def readCommand (stale : Nat → UInt8) (fd : Nat) : Program Net (Option TCCommand) := do
  let magic ← perform (·.sysReadn fd 2)
  let buffer := Buffer.overlay stale magic.stored
  -- the two bytes at the start of an answer
  if magic.ret ≤ 0 ∨ buffer 0 ≠ 0x47 ∨ buffer 1 ≠ 0x74 then pure none
  else
    let rest ← perform (·.sysReadn fd 6)
    if rest.ret ≠ 6 then pure none
    else
      let header := tcpCommandHeaderParser (Buffer.overlay (fun i => buffer (i + 2)) rest.stored)
      -- the length is an int for sys_readn
      let payload ← perform (·.sysReadn fd (Int.bmod header.len (2 ^ 32)))
      if toUInt32 payload.ret ≠ header.len then pure none
      else pure (some ⟨header, payload.stored⟩)

/-- What `tcpCommandClient_SendCmd` returns, and the answer it leaves in the command. -/
structure SendResult where
  errorCode : Nat
  feedBack : Option TCCommand
deriving DecidableEq

/-- The end of a call that has a connection. -/
def hangUp (fd : Nat) (result : SendResult) : Program Net SendResult := do
  perform fun net => ((), net.close fd)
  release
  pure result

/-- Write the payload, if there is one. Was all of it taken? -/
def writePayload (fd : Nat) (cmd : TCCommand) : Program Net Bool :=
  if cmd.header.len > 0 then do
    let ret ← perform (·.write fd (cmd.data.take cmd.header.len))
    pure (toUInt32 ret == cmd.header.len)
  else pure true

/-- `tcpCommandClient_SendCmd`, for a command whose data is not `NULL`. -/
def sendCmd (stale : Nat → UInt8) (cmd : TCCommand) : Program Net SendResult := do
  acquire
  let fd ← perform Net.tcpOpen
  -- no connection
  if fd < 0 then do
    release
    pure ⟨ptcErrorConnectServerFailed, none⟩
  else
    let ret ← perform (·.write fd.toNat (tcpCommandBuildHeader cmd))
    if ret ≠ (tcpCommandBuildHeader cmd).length then hangUp fd.toNat ⟨ptcErrorTransferFailed, none⟩
    else
      let written ← writePayload fd.toNat cmd
      if written = false then hangUp fd.toNat ⟨ptcErrorTransferFailed, none⟩
      else
        match ← readCommand stale fd.toNat with
        | none => hangUp fd.toNat ⟨ptcErrorTransferFailed, none⟩
        | some feedBack => hangUp fd.toNat ⟨ptcErrorNoError, some feedBack⟩

/-! ## The interface

A call fills in a command, sends it, and returns the return code of the lidar as its own
error code. Two of the functions hand out the answer with a zero byte behind it. -/

/-- What a call returns, and the bytes at `*buffer` where it sets it. -/
structure CallResult where
  ret : Nat
  buffer : Option (List UInt8)
deriving DecidableEq

/-- What a call makes of the answer. -/
def SendResult.toCallResult (result : SendResult) (keep : Bool) : CallResult :=
  match result.feedBack with
  | none => ⟨result.errorCode, none⟩
  | some feedBack =>
    ⟨feedBack.header.retCode.toNat, if keep then some (feedBack.data ++ [0]) else none⟩

/-- The code that the four functions share. -/
def callCommand (stale : Nat → UInt8) (cmd : TCCommand) (keep : Bool) :
    Program Net CallResult := do
  let result ← sendCmd stale cmd
  pure (result.toCallResult keep)

/-- `TcpCommandGetCalibration`. -/
def tcpCommandGetCalibration (stale : Nat → UInt8) : Program Net CallResult :=
  callCommand stale ⟨⟨0, 0, 0⟩, []⟩ true

/-- `TcpCommandSetCalibration`: `strdup` copies up to the zero byte, and `heap` is what
    follows the copy. -/
def tcpCommandSetCalibration (stale : Nat → UInt8) (buffer heap : List UInt8) (len : Nat) :
    Program Net CallResult :=
  if len = 0 then pure ⟨ptcErrorBadParameter, none⟩
  else callCommand stale ⟨⟨1, 0, len⟩, buffer.takeWhile (· != 0) ++ 0 :: heap⟩ false

/-- `TcpCommandResetCalibration`. -/
def tcpCommandResetCalibration (stale : Nat → UInt8) : Program Net CallResult :=
  callCommand stale ⟨⟨3, 0, 0⟩, []⟩ false

/-- `TcpCommandGetLidarCalibration`. -/
def tcpCommandGetLidarCalibration (stale : Nat → UInt8) : Program Net CallResult :=
  callCommand stale ⟨⟨5, 0, 0⟩, []⟩ true

/-! ## Callers -/

/-- A call of the interface. `stale` is what the stack of the caller holds. -/
inductive ClientCall where
  | getCalibration (stale : Nat → UInt8)
  | setCalibration (stale : Nat → UInt8) (buffer heap : List UInt8) (len : Nat)
  | resetCalibration (stale : Nat → UInt8)
  | getLidarCalibration (stale : Nat → UInt8)

/-- Make the call. -/
def ClientCall.run : ClientCall → Program Net CallResult
  | getCalibration stale => tcpCommandGetCalibration stale
  | setCalibration stale buffer heap len => tcpCommandSetCalibration stale buffer heap len
  | resetCalibration stale => tcpCommandResetCalibration stale
  | getLidarCalibration stale => tcpCommandGetLidarCalibration stale

/-- Make one call after the other. -/
def runCalls : List ClientCall → Program Net (List CallResult)
  | [] => pure []
  | call :: calls => do
    let result ← call.run
    let results ← runCalls calls
    pure (result :: results)

/-- Callers with their calls, on one client. -/
def clientSystem {ι : Type} (net : Net) (calls : ι → List ClientCall) :
    System ι Net (List CallResult) :=
  ⟨net, none, fun i => runCalls (calls i)⟩

end Hesai
