import Mathlib.Data.List.Forall2
import Go2Sensors.Native.TcpClient
import Go2Sensors.Spec.TcpCommandCorrect

/-!
# Calls on one client

A call closes the connection it has opened and gives the lock back on every path
(`sendCmd_spec`), so that calls of several threads do not meet on a connection: each of
them is a section of the lock. With a lidar that answers every request in the same way,
every thread gets the answers to its own requests (`clients_get_own_answers`).
-/

namespace Hesai

open Locking Program

/-! ## Sections -/

theorem section_hangUp (fd : Nat) (result : SendResult) : Section (hangUp fd result) :=
  (acts_perform _).section_bind fun _ => section_release result

theorem acts_readCommand (stale : Nat → UInt8) (fd : Nat) : Acts (readCommand stale fd) := by
  refine (acts_perform _).bind fun magic => (acts_pure none).ite ?_
  refine (acts_perform _).bind fun rest => (acts_pure none).ite ?_
  exact (acts_perform _).bind fun payload => (acts_pure none).ite (acts_pure _)

theorem acts_writePayload (fd : Nat) (cmd : TCCommand) : Acts (writePayload fd cmd) :=
  ((acts_perform _).bind fun _ => acts_pure _).ite (acts_pure true)

/-- What `sendCmd` does once it has the lock. -/
theorem sendCmd_eq_lock (stale : Nat → UInt8) (cmd : TCCommand) :
    ∃ body, sendCmd stale cmd = .lock body ∧ Section body := by
  refine ⟨_, rfl, ?_⟩
  -- no connection, a header or payload cut off, and the answer
  refine (acts_perform _).section_bind fun fd => (section_release _).ite ?_
  refine (acts_perform _).section_bind fun ret => (section_hangUp _ _).ite ?_
  refine (acts_writePayload _ cmd).section_bind fun written => (section_hangUp _ _).ite ?_
  refine (acts_readCommand stale _).section_bind fun feedBack => ?_
  cases feedBack with
  | none => exact section_hangUp _ _
  | some feedBack => exact section_hangUp _ _

/-! ## A call alone -/

namespace Net

/-- A system call on the descriptor that was set. -/
theorem onSocket_setFd {ρ : Type} (net : Net) (fd : Nat) (socket : Socket) (bad : ρ)
    (call : Socket → ρ × Socket) :
    (net.setFd fd (some socket)).onSocket fd bad call =
      ((call socket).1, net.setFd fd (some (call socket).2)) := by
  simp [onSocket, setFd]

theorem close_setFd (net : Net) (fd : Nat) (socket : Socket) :
    (net.setFd fd (some socket)).close fd =
      { net.setFd fd none with closed := net.closed ++ [socket.sent] } := by
  simp [close, setFd]

/-- A descriptor that was free is free again. -/
theorem setFd_none {net : Net} {fd : Nat} (h : net.fds fd = none) : net.setFd fd none = net := by
  simp [setFd, ← h]

theorem fds_freeFd {net : Net} {fd : Nat} (h : net.freeFd = some fd) : net.fds fd = none := by
  have hfree := List.find?_some h
  simpa using hfree

end Net

/-- Reading from the descriptor that was set. -/
theorem exec_sysReadn_bind {ρ : Type} (net : Net) (fd : Nat) (socket : Socket) (n : Int)
    (f : ReadN → Program Net ρ) :
    (perform (·.sysReadn fd n) >>= f).exec (net.setFd fd (some socket)) =
      (f (sysReadn socket.stream n)).exec
        (net.setFd fd (some { socket with incoming := some (sysReadn socket.stream n).conn })) := by
  rw [exec_bind, exec_perform, Net.sysReadn, Net.onSocket_setFd]
  rfl

/-- Reading on. -/
theorem exec_sysReadn_bind_incoming {ρ : Type} (net : Net) (fd : Nat) (peer : Peer)
    (sent : List UInt8) (conn : PieceStream UInt8) (n : Int) (f : ReadN → Program Net ρ) :
    (perform (·.sysReadn fd n) >>= f).exec (net.setFd fd (some ⟨peer, sent, some conn⟩)) =
      (f (sysReadn conn n)).exec
        (net.setFd fd (some ⟨peer, sent, some (sysReadn conn n).conn⟩)) :=
  exec_sysReadn_bind net fd ⟨peer, sent, some conn⟩ n f

/-- The end of the reading, with a pair in place of the result and the stream. -/
theorem exec_pure_pair {ρ : Type} (net : Net) (fd : Nat) (peer : Peer) (sent : List UInt8)
    (r : ρ) (conn : PieceStream UInt8) :
    (pure r : Program Net ρ).exec (net.setFd fd (some ⟨peer, sent, some conn⟩)) =
      ((r, conn).1, net.setFd fd (some ⟨peer, sent, some (r, conn).2⟩)) := rfl

/-- Reading from a descriptor reads from its connection. -/
theorem exec_readCommand (stale : Nat → UInt8) (net : Net) (fd : Nat) (socket : Socket) :
    (readCommand stale fd).exec (net.setFd fd (some socket)) =
      ((tcpCommandReadCommand stale socket.stream).1, net.setFd fd (some { socket with
        incoming := some (tcpCommandReadCommand stale socket.stream).2 })) := by
  unfold readCommand tcpCommandReadCommand
  -- the magic bytes, the rest of the header, and the payload
  rw [exec_sysReadn_bind]
  dsimp only
  split
  · exact exec_pure_pair _ _ _ _ _ _
  rw [exec_sysReadn_bind_incoming]
  split
  · exact exec_pure_pair _ _ _ _ _ _
  rw [exec_sysReadn_bind_incoming]
  split
  · exact exec_pure_pair _ _ _ _ _ _
  · exact exec_pure_pair _ _ _ _ _ _

/-- Writing to the descriptor that was set. -/
theorem exec_write_bind {ρ : Type} (net : Net) (fd : Nat) (socket : Socket) (data : List UInt8)
    (f : Int → Program Net ρ) :
    (perform (·.write fd data) >>= f).exec (net.setFd fd (some socket)) =
      (f (socket.write data).1).exec (net.setFd fd (some (socket.write data).2)) := by
  rw [exec_bind, exec_perform, Net.write, Net.onSocket_setFd]

/-- The connection is closed, and nothing else has changed. -/
theorem exec_hangUp {net : Net} {fd : Nat} (hfree : net.fds fd = none) (socket : Socket)
    (result : SendResult) :
    (hangUp fd result).exec (net.setFd fd (some socket)) =
      (result, { net with closed := net.closed ++ [socket.sent] }) := by
  simp only [hangUp, exec_bind, exec_perform, exec_release, exec_pure, Net.close_setFd,
    Net.setFd_none hfree]

/-! ## What a connection makes of a command -/

/-- The other side takes the bytes. -/
def Peer.Takes (peer : Peer) (data : List UInt8) : Prop :=
  ∀ w ∈ peer.writes.head?, ∃ k, w = some k ∧ data.length ≤ k

/-- The other side after one `write`. -/
def Peer.next (peer : Peer) : Peer := { peer with writes := peer.writes.tail }

/-- The other side takes a command. -/
def Peer.TakesCommand (peer : Peer) (cmd : TCCommand) : Prop :=
  peer.Takes (tcpCommandBuildHeader cmd) ∧
    (cmd.header.len > 0 → peer.next.Takes (cmd.data.take cmd.header.len))

/-- One `write` sends a prefix, and all of it where the other side takes it. -/
theorem Socket.write_spec (socket : Socket) (data : List UInt8) :
    ∃ part, part <+: data ∧ (socket.write data).2 = ⟨socket.peer.next, socket.sent ++ part,
        socket.incoming⟩ ∧
      ((socket.peer.Takes data ∧ (socket.write data).1 = data.length ∧ part = data) ∨
        (¬socket.peer.Takes data ∧ -1 ≤ (socket.write data).1 ∧
          (socket.write data).1 < data.length)) := by
  obtain ⟨⟨writes, answer⟩, sent, incoming⟩ := socket
  rcases writes with - | ⟨_ | k, writes⟩
  · -- the other side takes everything
    exact ⟨data, List.prefix_rfl, rfl, Or.inl ⟨by simp [Peer.Takes], rfl, rfl⟩⟩
  · -- the call fails
    refine ⟨[], List.nil_prefix, by simp [write, Peer.next], Or.inr ⟨by simp [Peer.Takes], ?_⟩⟩
    exact ⟨Int.le_refl (-1), Int.lt_of_lt_of_le (by decide : (-1 : Int) < 0)
      (Int.natCast_nonneg _)⟩
  · refine ⟨data.take k, List.take_prefix k data, rfl, ?_⟩
    have hret : ((Socket.mk ⟨some k :: writes, answer⟩ sent incoming).write data).1 =
        ((data.take k).length : Int) := rfl
    -- the other side takes k bytes
    by_cases hk : data.length ≤ k
    · refine Or.inl ⟨by simpa [Peer.Takes] using hk, ?_, List.take_of_length_le hk⟩
      rw [hret, List.take_of_length_le hk]
    · refine Or.inr ⟨by simpa [Peer.Takes] using hk, ?_⟩
      rw [hret, List.length_take]
      omega

/-- The result of a call whose command was taken. -/
def SendResult.ofAnswer : Option TCCommand → SendResult
  | none => ⟨ptcErrorTransferFailed, none⟩
  | some feedBack => ⟨ptcErrorNoError, some feedBack⟩

theorem SendResult.ofAnswer_eq_iff {answer : Option TCCommand} {feedBack : TCCommand} :
    ofAnswer answer = ⟨ptcErrorNoError, some feedBack⟩ ↔ answer = some feedBack := by
  cases answer <;> simp [ofAnswer]

theorem SendResult.ofAnswer_ne (answer : Option TCCommand) :
    ofAnswer answer ≠ ⟨ptcErrorConnectServerFailed, none⟩ := by
  cases answer <;> simp [ofAnswer, ptcErrorTransferFailed, ptcErrorConnectServerFailed]

theorem SendResult.ofAnswer_of_none {answer : Option TCCommand} {result : SendResult}
    (h : result = ofAnswer answer) (hnone : result.feedBack = none) :
    result = ⟨ptcErrorTransferFailed, none⟩ := by
  subst h
  cases answer with
  | none => rfl
  | some feedBack => exact absurd hnone (by simp [ofAnswer])

/-- The number of written bytes is compared without sign. -/
theorem toUInt32_eq_iff {ret : Int} {len : Nat} (hlen : len < 2 ^ 31) (hlow : -1 ≤ ret)
    (hhigh : ret ≤ len) : toUInt32 ret = len ↔ ret = len := by
  unfold toUInt32
  omega

/-- The payload is written, or there is none. -/
theorem exec_writePayload {cmd : TCCommand} (hlen : cmd.header.len < 2 ^ 31)
    (hdata : cmd.header.len ≤ cmd.data.length) (net : Net) (fd : Nat) (peer : Peer)
    (sent : List UInt8) :
    ∃ (written : Bool) (part : List UInt8) (peer' : Peer),
      (writePayload fd cmd).exec (net.setFd fd (some ⟨peer, sent, none⟩)) =
        (written, net.setFd fd (some ⟨peer', sent ++ part, none⟩)) ∧
      part <+: cmd.data.take cmd.header.len ∧ peer'.answer = peer.answer ∧
      (written = true ↔ (cmd.header.len > 0 → peer.Takes (cmd.data.take cmd.header.len))) ∧
      (written = true → part = cmd.data.take cmd.header.len) := by
  unfold writePayload
  -- the buffer holds as many bytes as the length says
  have hcount : (cmd.data.take cmd.header.len).length = cmd.header.len :=
    List.length_take_of_le hdata
  by_cases hpos : cmd.header.len > 0
  · obtain ⟨part, hpart, hsocket, htaken⟩ :=
      (Socket.mk peer sent none).write_spec (cmd.data.take cmd.header.len)
    rw [if_pos hpos, exec_write_bind, exec_pure, hsocket]
    refine ⟨_, part, peer.next, rfl, hpart, rfl, ?_, ?_⟩
    · rw [beq_iff_eq]
      rcases htaken with ⟨htakes, hret, -⟩ | ⟨htakes, hlow, hhigh⟩
      · rw [hret, hcount]
        simp only [toUInt32_eq_iff hlen (by omega : (-1 : Int) ≤ cmd.header.len) (Int.le_refl _),
          true_iff]
        exact fun _ => htakes
      · rw [hcount] at hhigh
        rw [toUInt32_eq_iff hlen hlow (Int.le_of_lt hhigh)]
        exact ⟨fun h => absurd h (Int.ne_of_lt hhigh), fun h => absurd (h hpos) htakes⟩
    · intro hwritten
      rcases htaken with ⟨-, -, hall⟩ | ⟨-, hlow, hhigh⟩
      · exact hall
      · rw [hcount] at hhigh
        rw [beq_iff_eq, toUInt32_eq_iff hlen hlow (Int.le_of_lt hhigh)] at hwritten
        exact absurd hwritten (Int.ne_of_lt hhigh)
  · -- nothing is written, and the stream stays as it is
    have hzero : cmd.header.len = 0 := by omega
    rw [if_neg hpos, exec_pure]
    refine ⟨true, [], peer, by rw [List.append_nil], List.nil_prefix, rfl, ?_, fun _ => ?_⟩
    · simp [hzero]
    · rw [hzero, List.take_zero]

theorem sendCmd_request (cmd : TCCommand) : tcpCommandClientSendCmd cmd =
    tcpCommandBuildHeader cmd ++ cmd.data.take cmd.header.len := by
  unfold tcpCommandClientSendCmd
  by_cases hpos : cmd.header.len > 0
  · rw [if_pos hpos]
  · rw [if_neg hpos, show cmd.header.len = 0 by omega, List.take_zero]

/-- A call without a connection. -/
theorem exec_sendCmd_unconnected {net : Net} (h : net.freeFd = none ∨ net.peers 0 = none)
    (stale : Nat → UInt8) (cmd : TCCommand) :
    ∃ peers, (sendCmd stale cmd).exec net =
      (⟨ptcErrorConnectServerFailed, none⟩, { net with peers }) := by
  have hopen : ∃ peers, net.tcpOpen = (-1, { net with peers }) := by
    unfold Net.tcpOpen
    split
    -- no descriptor is free, and the other side is not asked
    next => exact ⟨net.peers, rfl⟩
    next fd hfd =>
      rw [h.resolve_left (by simp [hfd])]
      exact ⟨_, rfl⟩
  obtain ⟨peers, hopen⟩ := hopen
  refine ⟨peers, ?_⟩
  rw [sendCmd, exec_bind, exec_acquire, exec_bind, exec_perform, hopen,
    if_pos (show (-1 : Int) < 0 by decide), exec_bind, exec_release, exec_pure]

/-- A call that gets a connection. -/
theorem exec_sendCmd_connected {net : Net} {fd : Nat} {peer : Peer} (hfd : net.freeFd = some fd)
    (hpeer : net.peers 0 = some peer) (stale : Nat → UInt8) {cmd : TCCommand}
    (hlen : cmd.header.len < 2 ^ 31) (hdata : cmd.header.len ≤ cmd.data.length) :
    ∃ (result : SendResult) (sent : List UInt8), (sendCmd stale cmd).exec net =
        (result, { net with
          peers := fun n => net.peers (n + 1)
          closed := net.closed ++ [sent] }) ∧
      sent <+: tcpCommandClientSendCmd cmd ∧
      (peer.TakesCommand cmd → sent = tcpCommandClientSendCmd cmd ∧
        result = .ofAnswer (tcpCommandReadCommand stale
          (peer.answer (tcpCommandClientSendCmd cmd))).1) ∧
      (¬peer.TakesCommand cmd → result = ⟨ptcErrorTransferFailed, none⟩) := by
  have hopen : net.tcpOpen = ((fd : Int), { net with peers := fun n => net.peers (n + 1) }.setFd fd
      (some ⟨peer, [], none⟩)) := by
    simp only [Net.tcpOpen, hfd, hpeer]
  have hfree : { net with peers := fun n => net.peers (n + 1) }.fds fd = none := Net.fds_freeFd hfd
  rw [sendCmd_request, sendCmd, exec_bind, exec_acquire, exec_bind, exec_perform, hopen,
    if_neg (by omega), Int.toNat_natCast, exec_write_bind]
  obtain ⟨part, hpart, hsocket, htaken⟩ :=
    (Socket.mk peer [] none).write_spec (tcpCommandBuildHeader cmd)
  rw [hsocket, List.nil_append]
  -- the header is taken as a whole, or the connection is closed
  rcases htaken with ⟨htakes, hret, rfl⟩ | ⟨htakes, -, hhigh⟩
  · rw [hret, if_neg (by simp), exec_bind]
    obtain ⟨written, body, peer', hexec, hbody, hanswer, hwritten, hall⟩ :=
      exec_writePayload hlen hdata { net with peers := fun n => net.peers (n + 1) } fd peer.next
        (tcpCommandBuildHeader cmd)
    rw [hexec]
    cases written with
    | false =>
      -- the payload is cut off
      rw [if_pos rfl, exec_hangUp hfree]
      have hnot : ¬peer.TakesCommand cmd := fun h => Bool.false_ne_true (hwritten.mpr h.2)
      exact ⟨_, _, rfl, (List.prefix_append_right_inj _).mpr hbody, fun h => absurd h hnot,
        fun _ => rfl⟩
    | true =>
      obtain rfl := hall rfl
      have hcommand : peer.TakesCommand cmd := ⟨htakes, hwritten.mp rfl⟩
      rw [if_neg (by simp), exec_bind, exec_readCommand]
      -- the whole request was sent, and the answer is the one to it
      have hstream : (Socket.mk peer' (tcpCommandBuildHeader cmd ++ cmd.data.take cmd.header.len)
          none).stream = peer.answer (tcpCommandBuildHeader cmd ++
            cmd.data.take cmd.header.len) := congrFun hanswer _
      rw [hstream]
      -- the answer decides
      cases (tcpCommandReadCommand stale (peer.answer (tcpCommandBuildHeader cmd ++
          cmd.data.take cmd.header.len))).1 with
      | none =>
        rw [exec_hangUp hfree]
        exact ⟨_, _, rfl, List.prefix_rfl, fun _ => ⟨rfl, rfl⟩, fun h => absurd hcommand h⟩
      | some feedBack =>
        rw [exec_hangUp hfree]
        exact ⟨_, _, rfl, List.prefix_rfl, fun _ => ⟨rfl, rfl⟩, fun h => absurd hcommand h⟩
  · have hshort : (Socket.mk peer [] none |>.write (tcpCommandBuildHeader cmd)).1 ≠
        (tcpCommandBuildHeader cmd).length := Int.ne_of_lt hhigh
    rw [if_pos hshort, exec_hangUp hfree]
    exact ⟨_, _, rfl, hpart.trans (List.prefix_append _ _), fun h => absurd h.1 htakes,
      fun _ => rfl⟩

/-- Exactly when a call succeeds and when it does not get a connection. Whatever happens, the
    descriptors are those from before, and nothing but a part of the request was sent. -/
theorem sendCmd_spec (net : Net) (stale : Nat → UInt8) (cmd : TCCommand)
    (hlen : cmd.header.len < 2 ^ 31) (hdata : cmd.header.len ≤ cmd.data.length) :
    let request := tcpCommandClientSendCmd cmd
    let r := (sendCmd stale cmd).exec net
    (∀ feedBack, r.1 = ⟨ptcErrorNoError, some feedBack⟩ ↔ net.freeFd ≠ none ∧
      ∃ peer, net.peers 0 = some peer ∧ peer.TakesCommand cmd ∧
        (tcpCommandReadCommand stale (peer.answer request)).1 = some feedBack) ∧
    (r.1 = ⟨ptcErrorConnectServerFailed, none⟩ ↔ net.freeFd = none ∨ net.peers 0 = none) ∧
    (r.1.feedBack = none → r.1 = ⟨ptcErrorConnectServerFailed, none⟩ ∨
      r.1 = ⟨ptcErrorTransferFailed, none⟩) ∧
    r.2.fds = net.fds ∧
    (r.2.closed = net.closed ∨ ∃ sent, sent <+: request ∧ r.2.closed = net.closed ++ [sent]) := by
  intro request r
  by_cases hopen : net.freeFd = none ∨ net.peers 0 = none
  · obtain ⟨peers, hexec⟩ := exec_sendCmd_unconnected hopen stale cmd
    have hr : r = (⟨ptcErrorConnectServerFailed, none⟩, { net with peers }) := hexec
    rw [hr]
    refine ⟨fun feedBack => ⟨fun h => by simp at h, ?_⟩, by simp [hopen], fun _ => Or.inl rfl,
      rfl, Or.inl rfl⟩
    rintro ⟨hfd, peer, hpeer, -⟩
    rcases hopen with hnone | hnone
    · exact absurd hnone hfd
    · rw [hnone] at hpeer
      exact absurd hpeer (by simp)
  · have hboth := not_or.mp hopen
    obtain ⟨fd, hfd⟩ := Option.ne_none_iff_exists'.mp hboth.1
    obtain ⟨peer, hpeer⟩ := Option.ne_none_iff_exists'.mp hboth.2
    obtain ⟨result, sent, hexec, hsent, htaken, hrefused⟩ :=
      exec_sendCmd_connected hfd hpeer stale hlen hdata
    have hr : r = _ := hexec
    rw [hr]
    -- there is one peer behind the connection
    have hboth' : net.freeFd ≠ none ∧ ∀ peer', net.peers 0 = some peer' ↔ peer' = peer := by
      rw [hpeer]
      exact ⟨hboth.1, fun peer' => by simp [eq_comm]⟩
    refine ⟨fun feedBack => ?_, ?_, ?_, rfl, Or.inr ⟨sent, hsent, rfl⟩⟩
    · -- success
      rw [and_iff_right hboth'.1]
      simp only [hboth'.2, exists_eq_left]
      by_cases htakes : peer.TakesCommand cmd
      · rw [(htaken htakes).2, and_iff_right htakes]
        exact SendResult.ofAnswer_eq_iff
      · rw [hrefused htakes]
        simp [htakes]
    · -- no failure to connect
      simp only [hopen, iff_false]
      by_cases htakes : peer.TakesCommand cmd
      · rw [(htaken htakes).2]
        exact SendResult.ofAnswer_ne _
      · rw [hrefused htakes]
        simp [ptcErrorTransferFailed, ptcErrorConnectServerFailed]
    · -- without an answer the transfer has failed
      intro hnone
      right
      by_cases htakes : peer.TakesCommand cmd
      · exact SendResult.ofAnswer_of_none (htaken htakes).2 hnone
      · exact hrefused htakes

/-! ## The interface -/

/-- The command of a call. -/
def ClientCall.command : ClientCall → TCCommand
  | getCalibration _ => ⟨⟨0, 0, 0⟩, []⟩
  | setCalibration _ buffer heap len => ⟨⟨1, 0, len⟩, buffer.takeWhile (· != 0) ++ 0 :: heap⟩
  | resetCalibration _ => ⟨⟨3, 0, 0⟩, []⟩
  | getLidarCalibration _ => ⟨⟨5, 0, 0⟩, []⟩

/-- Does the caller get the answer? -/
def ClientCall.keeps : ClientCall → Bool
  | getCalibration _ | getLidarCalibration _ => true
  | setCalibration .. | resetCalibration _ => false

/-- The lengths that a caller may pass: what is sent lies in the copied string. -/
def ClientCall.Fits : ClientCall → Prop
  | setCalibration _ buffer _ len => len < 2 ^ 31 ∧ len ≤ (buffer.takeWhile (· != 0)).length + 1
  | _ => True

/-- A call with nothing to set. -/
def ClientCall.isBad : ClientCall → Bool
  | setCalibration _ _ _ len => len == 0
  | _ => false

/-- A call is refused at once, or it sends its command. -/
theorem ClientCall.run_cases (call : ClientCall) :
    (call.isBad = true ∧ call.run = pure ⟨ptcErrorBadParameter, none⟩) ∨
      (call.isBad = false ∧ ∃ stale, call.run = callCommand stale call.command call.keeps) := by
  cases call with
  | setCalibration stale buffer heap len =>
    by_cases hlen : len = 0
    · exact Or.inl ⟨beq_iff_eq.mpr hlen, if_pos hlen⟩
    · exact Or.inr ⟨beq_eq_false_iff_ne.mpr hlen, stale, if_neg hlen⟩
  | getCalibration stale => exact Or.inr ⟨rfl, stale, rfl⟩
  | resetCalibration stale => exact Or.inr ⟨rfl, stale, rfl⟩
  | getLidarCalibration stale => exact Or.inr ⟨rfl, stale, rfl⟩

theorem ClientCall.Fits.command {call : ClientCall} (h : call.Fits) :
    call.command.header.len < 2 ^ 31 ∧ call.command.header.len ≤ call.command.data.length := by
  cases call with
  | setCalibration stale buffer heap len =>
    obtain ⟨hsmall, hstring⟩ := h
    refine ⟨hsmall, Nat.le_trans hstring ?_⟩
    simp only [ClientCall.command, List.length_append, List.length_cons]
    omega
  | getCalibration | resetCalibration | getLidarCalibration =>
    exact ⟨Nat.two_pow_pos 31, Nat.le_refl 0⟩

/-! ## Callers -/

theorem leads_callCommand (stale : Nat → UInt8) (cmd : TCCommand) (keep : Bool) :
    Leads false false (callCommand stale cmd keep) := by
  obtain ⟨body, hbody, hsection⟩ := sendCmd_eq_lock stale cmd
  -- the lock is taken first and given back last
  have hsend : Leads false false (sendCmd stale cmd) := by
    rw [hbody]
    exact ⟨rfl, hsection.leads⟩
  exact hsend.bind fun _ => leads_pure false _

theorem leads_run (call : ClientCall) : Leads false false call.run := by
  rcases call.run_cases with ⟨-, hrun⟩ | ⟨-, stale, hrun⟩
  · rw [hrun]
    exact leads_pure false _
  · rw [hrun]
    exact leads_callCommand stale _ _

theorem leads_runCalls (calls : List ClientCall) : Leads false false (runCalls calls) := by
  induction calls with
  | nil => exact leads_pure false _
  | cons call calls ih => exact (leads_run call).bind fun _ => ih.bind fun _ => leads_pure false _

/-- A call is judged by the result and by the state that is left. -/
theorem ensures_run_call {Good : Net → Prop} {post : CallResult → Prop} (call : ClientCall)
    (hbad : call.isBad = true → post ⟨ptcErrorBadParameter, none⟩)
    (hsend : call.isBad = false → ∀ stale net, Good net →
      Good ((sendCmd stale call.command).exec net).2 ∧
        post (((sendCmd stale call.command).exec net).1.toCallResult call.keeps)) :
    Ensures Good post none call.run := by
  rcases call.run_cases with ⟨hcase, hrun⟩ | ⟨hcase, stale, hrun⟩
  · rw [hrun]
    exact ensures_pure (hbad hcase)
  · rw [hrun]
    obtain ⟨body, hbody, hsection⟩ := sendCmd_eq_lock stale call.command
    have hexec : ∀ net, (sendCmd stale call.command).exec net = body.exec net := by
      intro net
      rw [hbody]
      rfl
    have hbodyEnsures : Ensures Good (fun result => post (result.toCallResult call.keeps)) none
        (sendCmd stale call.command) := by
      rw [hbody]
      intro net hnet
      -- what the call does alone is what it does between taking the lock and giving it back
      have hcall := hsend hcase stale net hnet
      rw [hexec] at hcall
      exact hsection.ensures hcall.1 hcall.2
    exact hbodyEnsures.bind fun result hresult => ensures_pure hresult

/-- One call after the other. -/
theorem ensures_runCalls {Good : Net → Prop} {post : ClientCall → CallResult → Prop}
    {calls : List ClientCall} (h : ∀ call ∈ calls, Ensures Good (post call) none call.run) :
    Ensures Good (List.Forall₂ post calls) none (runCalls calls) := by
  induction calls with
  | nil => exact ensures_pure List.Forall₂.nil
  | cons call calls ih =>
    have hrest := ih fun call' hcall' => h call' (List.mem_cons_of_mem call hcall')
    refine (h call List.mem_cons_self).bind fun result hresult => ?_
    exact hrest.bind fun results hresults => ensures_pure (List.Forall₂.cons hresult hresults)

/-- No descriptor is left open, and what was sent on the closed connections are requests of
    the callers, whole or cut off. -/
def Tidy {ι : Type} (net : Net) (calls : ι → List ClientCall) (net' : Net) : Prop :=
  net'.limit = net.limit ∧ net'.fds = net.fds ∧ ∃ more, net'.closed = net.closed ++ more ∧
    ∀ sent ∈ more, ∃ i, ∃ call ∈ calls i, sent <+: tcpCommandClientSendCmd call.command

/-- A call leaves the descriptors as it has found them. -/
theorem Tidy.sendCmd {ι : Type} {net net' : Net} {calls : ι → List ClientCall}
    (h : Tidy net calls net') {i : ι} {call : ClientCall} (hcall : call ∈ calls i)
    (hfits : call.Fits) (stale : Nat → UInt8) :
    Tidy net calls ((Hesai.sendCmd stale call.command).exec net').2 := by
  obtain ⟨hlimit, hfds, more, hclosed, hmore⟩ := h
  by_cases hopen : net'.freeFd = none ∨ net'.peers 0 = none
  · obtain ⟨peers, hexec⟩ := exec_sendCmd_unconnected hopen stale call.command
    rw [hexec]
    exact ⟨hlimit, hfds, more, hclosed, hmore⟩
  · rw [not_or] at hopen
    obtain ⟨fd, hfd⟩ := Option.ne_none_iff_exists'.mp hopen.1
    obtain ⟨peer, hpeer⟩ := Option.ne_none_iff_exists'.mp hopen.2
    obtain ⟨result, sent, hexec, hsent, -, -⟩ :=
      exec_sendCmd_connected hfd hpeer stale hfits.command.1 hfits.command.2
    rw [hexec]
    -- one more connection, with a part of this request
    refine ⟨hlimit, hfds, more ++ [sent], ?_, fun s hs => ?_⟩
    · rw [hclosed, List.append_assoc]
    · rcases List.mem_append.mp hs with hs | hs
      · exact hmore s hs
      · rw [List.mem_singleton.mp hs]
        exact ⟨i, call, hcall, hsent⟩

/-- However the steps of any number of callers are interleaved: the calls are atomic, in the
    order in which they get the lock; whenever the lock is free no descriptor is left open
    and nothing was sent but the requests of the callers, one for each connection; and all
    callers can still finish. -/
theorem clients_serializable {ι : Type} [DecidableEq ι] (net : Net) (calls : ι → List ClientCall)
    (hcalls : ∀ i, ∀ call ∈ calls i, call.Fits) (schedule : List ι) :
    let s := schedule.foldl System.step (clientSystem net calls)
    (∃ order : List ι, order.Sublist schedule ∧
      s.letThrough = order.foldl System.sectionStep (clientSystem net calls)) ∧
    (s.owner = none → Tidy net calls s.shared) ∧
    ∀ callers : List ι, ∃ later : List ι, ∀ i ∈ callers, ∃ results,
      (later.foldl System.step s).rest i = .ret results := by
  intro s
  have hguarded : (clientSystem net calls).Guarded := fun i => leads_runCalls (calls i)
  obtain ⟨hend, horder⟩ := System.serializable hguarded rfl schedule
  -- no connection was made yet
  have hstart : Tidy net calls (clientSystem net calls).shared :=
    ⟨rfl, rfl, [], (List.append_nil _).symm, fun _ h => absurd h List.not_mem_nil⟩
  -- every call keeps the descriptors tidy
  have hcallers : ∀ i, Ensures (Tidy net calls) (List.Forall₂ (fun _ _ => True) (calls i)) none
      ((clientSystem net calls).rest i) := by
    intro i
    apply ensures_runCalls
    intro call hcall
    apply ensures_run_call call (fun _ => trivial)
    intro _ stale net' h
    exact ⟨h.sendCmd hcall (hcalls i call hcall) stale, trivial⟩
  have htidy := System.ensures_run rfl hstart hcallers schedule
  exact ⟨horder, htidy.1, fun callers => hend.can_finish callers⟩

/-! ## A lidar that answers -/

/-- The result of a call to this lidar. -/
def ClientCall.answered (lidar : List UInt8 → UInt8 × List UInt8) (call : ClientCall) :
    CallResult :=
  if call.isBad then ⟨ptcErrorBadParameter, none⟩
  else
    let reply := lidar (tcpCommandClientSendCmd call.command)
    ⟨reply.1.toNat, if call.keeps then some (reply.2 ++ [0]) else none⟩

/-- The other side of every connection is a lidar that takes all of a request and sends the
    bytes of its answer, in pieces of any size. -/
structure Answers (lidar : List UInt8 → UInt8 × List UInt8) (peer : Peer) : Prop where
  writes : peer.writes = []
  length : ∀ request, (lidar request).2.length < 2 ^ 31
  items : ∀ request, ∃ cmd rest, (peer.answer request).items =
    tcpCommandClientSendCmd (.ofPayload cmd (lidar request).1 (lidar request).2) ++ rest
  arrives : ∀ request, (peer.answer request).NeverFails

/-- A free descriptor, and the lidar behind every connection. -/
structure Reaches (peer : Peer) (net : Net) : Prop where
  peers : ∀ n, net.peers n = some peer
  free : ∃ fd, net.freeFd = some fd

/-- A call to a lidar that answers. -/
theorem exec_sendCmd_answered {lidar : List UInt8 → UInt8 × List UInt8} {peer : Peer} {net : Net}
    (hlidar : Answers lidar peer) (hnet : Reaches peer net) (stale : Nat → UInt8)
    {call : ClientCall} (hfits : call.Fits) (hbad : call.isBad = false) :
    Reaches peer ((sendCmd stale call.command).exec net).2 ∧
      call.answered lidar = ((sendCmd stale call.command).exec net).1.toCallResult call.keeps := by
  obtain ⟨fd, hfd⟩ := hnet.free
  obtain ⟨result, sent, hexec, -, htaken, -⟩ :=
    exec_sendCmd_connected hfd (hnet.peers 0) stale hfits.command.1 hfits.command.2
  -- this lidar takes every request
  have htakes : peer.TakesCommand call.command := by
    simp [Peer.TakesCommand, Peer.Takes, Peer.next, hlidar.writes]
  obtain ⟨cmd, rest, hitems⟩ := hlidar.items (tcpCommandClientSendCmd call.command)
  have hlength := hlidar.length (tcpCommandClientSendCmd call.command)
  rw [sendCmd_ofPayload, List.append_assoc] at hitems
  obtain ⟨conn', hread, -⟩ := readCommand_of_header (hlidar.arrives _) _ hlength _ hitems stale
  -- the payload of the answer arrives as a whole
  have hcount : ¬((lidar (tcpCommandClientSendCmd call.command)).2 ++ rest).length <
      (lidar (tcpCommandClientSendCmd call.command)).2.length := by
    rw [List.length_append]
    omega
  simp only [TCCommand.ofPayload, if_neg hcount, List.take_left] at hread
  rw [hexec]
  refine ⟨⟨fun n => hnet.peers (n + 1), fd, hfd⟩, ?_⟩
  rw [(htaken htakes).2, hread, ClientCall.answered, hbad]
  rfl

/-- With a lidar that answers, every caller gets the answers to its own requests in the order
    of its calls, whatever other callers do in between. -/
theorem clients_get_own_answers {ι : Type} [DecidableEq ι]
    (lidar : List UInt8 → UInt8 × List UInt8) (peer : Peer) (net : Net)
    (hlidar : Answers lidar peer) (hnet : Reaches peer net) (calls : ι → List ClientCall)
    (hcalls : ∀ i, ∀ call ∈ calls i, call.Fits) (schedule : List ι) (i : ι)
    (results : List CallResult)
    (hdone : (schedule.foldl System.step (clientSystem net calls)).rest i = .ret results) :
    results = (calls i).map (ClientCall.answered lidar) := by
  -- each caller, by the invariant that the lidar stays reachable
  have hcallers : ∀ i, Ensures (Reaches peer)
      (List.Forall₂ (fun call result => ClientCall.answered lidar call = result) (calls i)) none
      ((clientSystem net calls).rest i) := by
    intro i
    apply ensures_runCalls
    intro call hcall
    apply ensures_run_call call
    · intro hbad
      rw [ClientCall.answered, hbad]
      rfl
    · intro hbad stale net' h
      exact exec_sendCmd_answered hlidar h stale (hcalls i call hcall) hbad
  have hpost := (System.ensures_run rfl hnet hcallers schedule).2 i results hdone
  rw [← List.forall₂_map_left_iff, List.forall₂_eq_eq_eq] at hpost
  exact hpost.symm

/-! ## Two callers and a lidar that sends back the command byte -/

/-- The answer is a successful return code and the command byte of the request. -/
def echoReply (request : List UInt8) : UInt8 × List UInt8 := (0, [request.getD 2 0])

/-- The answer arrives in pieces, with an interruption. -/
def echoPeer : Peer where
  writes := []
  answer request := ⟨tcpCommandClientSendCmd (.ofPayload 0 0 [request.getD 2 0]),
    [.upTo 0, .interrupted, .upTo 2]⟩

/-- A process with four descriptors, of which the first three are taken. -/
def echoNet : Net where
  limit := 4
  fds fd := if fd < 3 then some ⟨echoPeer, [], none⟩ else none
  peers _ := some echoPeer
  closed := []

/-- One thread reads the calibration of the lidar, the other one replaces it and reads it
    back. -/
def echoCalls : Bool → List ClientCall
  | true => [.getLidarCalibration fun _ => 0]
  | false => [.setCalibration (fun _ => 0) [0x31, 0x2c] [] 2, .getCalibration fun _ => 0]

theorem echo_answers : Answers echoReply echoPeer where
  writes := rfl
  length _ := (by decide : 1 < 2 ^ 31)
  items _ := ⟨0, [], (List.append_nil _).symm⟩
  arrives _ := (by decide : Arrival.failed ∉ [.upTo 0, .interrupted, .upTo 2])

theorem echo_reaches : Reaches echoPeer echoNet := ⟨fun _ => rfl, 3, rfl⟩

theorem echo_fits : ∀ i, ∀ call ∈ echoCalls i, call.Fits := by
  intro i call hcall
  cases i with
  | false =>
    rcases List.mem_cons.mp hcall with rfl | hcall
    · exact ⟨(by decide : 2 < 2 ^ 31), by decide⟩
    · obtain rfl := List.mem_singleton.mp hcall
      trivial
  | true =>
    obtain rfl := List.mem_singleton.mp hcall
    trivial

/-- The request of the first thread. -/
theorem sendCmd_spec_echo :
    let cmd : TCCommand := ⟨⟨5, 0, 0⟩, []⟩
    let request := tcpCommandClientSendCmd cmd
    let r := (sendCmd (fun _ => 0) cmd).exec echoNet
    (∀ feedBack, r.1 = ⟨ptcErrorNoError, some feedBack⟩ ↔ echoNet.freeFd ≠ none ∧
      ∃ peer, echoNet.peers 0 = some peer ∧ peer.TakesCommand cmd ∧
        (tcpCommandReadCommand (fun _ => 0) (peer.answer request)).1 = some feedBack) ∧
    (r.1 = ⟨ptcErrorConnectServerFailed, none⟩ ↔
      echoNet.freeFd = none ∨ echoNet.peers 0 = none) ∧
    (r.1.feedBack = none → r.1 = ⟨ptcErrorConnectServerFailed, none⟩ ∨
      r.1 = ⟨ptcErrorTransferFailed, none⟩) ∧
    r.2.fds = echoNet.fds ∧
    (r.2.closed = echoNet.closed ∨
      ∃ sent, sent <+: request ∧ r.2.closed = echoNet.closed ++ [sent]) :=
  sendCmd_spec echoNet (fun _ => 0) ⟨⟨5, 0, 0⟩, []⟩ (by decide) (Nat.le_refl 0)

/-- Both threads, in a run in which both finish. -/
theorem clients_get_own_answers_echo : ∃ schedule : List Bool,
    (schedule.foldl System.step (clientSystem echoNet echoCalls)).rest true =
      .ret [⟨0, some [5, 0]⟩] ∧
    (schedule.foldl System.step (clientSystem echoNet echoCalls)).rest false =
      .ret [⟨0, none⟩, ⟨0, some [0, 0]⟩] := by
  have hguarded : (clientSystem echoNet echoCalls).Guarded := fun i => leads_runCalls (echoCalls i)
  obtain ⟨schedule, hdone⟩ := hguarded.can_finish [true, false]
  obtain ⟨left, hleft⟩ := hdone true (by decide)
  obtain ⟨right, hright⟩ := hdone false (by decide)
  have hown := clients_get_own_answers echoReply echoPeer echoNet echo_answers echo_reaches
    echoCalls echo_fits schedule
  refine ⟨schedule, ?_, ?_⟩
  · rw [hleft, hown true left hleft]
    rfl
  · rw [hright, hown false right hright]
    rfl

/-- The same threads at any point of any run. -/
theorem clients_serializable_echo :
    let s := [true, false, true, true, false].foldl System.step (clientSystem echoNet echoCalls)
    (∃ order : List Bool, order.Sublist [true, false, true, true, false] ∧
      s.letThrough = order.foldl System.sectionStep (clientSystem echoNet echoCalls)) ∧
    (s.owner = none → Tidy echoNet echoCalls s.shared) ∧
    ∀ callers : List Bool, ∃ later : List Bool, ∀ i ∈ callers, ∃ results,
      (later.foldl System.step s).rest i = .ret results :=
  clients_serializable echoNet echoCalls echo_fits [true, false, true, true, false]

end Hesai
