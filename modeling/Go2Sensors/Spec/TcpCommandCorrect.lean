import Go2Sensors.Native.TcpCommand

/-!
# What is written is read back

The reader of the command protocol against its writer. However the bytes arrive,
`sysReadn` gets the bytes it asks for as long as the stream has them
(`sysReadn_eq`), so the reader only depends on the bytes: it is a function of the
stream (`readCommand_eq`).

## Key results

- `sysReadn_eq`: the result of a read does not depend on how the bytes arrive
- `readCommand_of_header`: the reader at a header of the writer
- `command_framing`: a command is read back, a truncated one is refused
-/

namespace Hesai

open BigEndian (ofBytesBE)
open Buffer (overlay)

/-! ## Reading -/

/-- The loop gets what it asks for, or all that is left. -/
theorem sysReadnLoop_eq (n nleft : Int) (stored : List UInt8) (conn : PieceStream UInt8)
    (hconn : conn.NeverFails) (hleft : 0 ≤ nleft) :
    ∃ conn', sysReadnLoop n nleft stored conn =
        ⟨n - nleft + (conn.items.take nleft.toNat).length,
          stored ++ conn.items.take nleft.toNat, conn'⟩ ∧
      conn'.items = conn.items.drop nleft.toNat ∧ conn'.NeverFails := by
  fun_induction sysReadnLoop n nleft stored conn with
  | case1 nleft stored conn hpos conn' hread ih =>
    obtain ⟨hitems, -, hnever⟩ := PieceStream.read_interrupted hread
    rw [← hitems]
    exact ih (hnever hconn) hleft
  | case2 nleft stored conn hpos conn' hread =>
    exact absurd hconn (PieceStream.read_failed hread)
  | case3 nleft stored conn hpos conn' hread =>
    obtain ⟨hitems, -, hend, -, hnever⟩ := PieceStream.read_items hread
    -- no byte for a call that asks for some: the stream is at its end
    have hend : conn.items = [] := hend (by omega) rfl
    have hend' : conn'.items = [] := by rw [← hend, hitems, List.nil_append]
    exact ⟨conn', by simp [hend], by simp [hend, hend'], hnever hconn⟩
  | case4 nleft stored conn hpos b bs conn' hread ih =>
    obtain ⟨hitems, hlength, -, -, hnever⟩ := PieceStream.read_items hread
    obtain ⟨conn'', hloop, hrest, hconn''⟩ := ih (hnever hconn) (by omega)
    -- what is still asked for of the rest of the stream
    have hleft : (nleft - (b :: bs).length).toNat = nleft.toNat - (b :: bs).length := by omega
    rw [hleft] at hloop hrest
    refine ⟨conn'', ?_, ?_, hconn''⟩
    · rw [hloop, hitems, List.take_append, List.take_of_length_le hlength, List.length_append,
        ← List.append_assoc]
      congr 1
      omega
    · rw [hrest, hitems, List.drop_append, List.drop_of_length_le hlength, List.nil_append]
  | case5 nleft stored conn hpos =>
    have hzero : nleft = 0 := by omega
    exact ⟨conn, by simp [hzero], by simp [hzero], hconn⟩

/-- The result of a read of `n` bytes does not depend on how the bytes arrive: the first
    `n` bytes of the stream, or all if there are fewer. -/
theorem sysReadn_eq {conn : PieceStream UInt8} (hconn : conn.NeverFails) (n : Nat) :
    ∃ conn', sysReadn conn n =
        ⟨(conn.items.take n).length, conn.items.take n, conn'⟩ ∧
      conn'.items = conn.items.drop n ∧ conn'.NeverFails := by
  obtain ⟨conn', hread, hitems, hnever⟩ :=
    sysReadnLoop_eq n n [] conn hconn (Int.natCast_nonneg n)
  rw [Int.toNat_natCast] at hread hitems
  refine ⟨conn', ?_, hitems, hnever⟩
  rw [sysReadn, hread, Int.sub_self, Int.zero_add, List.nil_append]

/-! ## Reading a command -/

/-- The header parser inverts the header builder. -/
theorem headerParser_buildHeader (cmd : TCCommand) (hlen : cmd.header.len < 2 ^ 32)
    (stale : Nat → UInt8) :
    tcpCommandHeaderParser (overlay stale ((tcpCommandBuildHeader cmd).drop 2)) =
      cmd.header := by
  apply TcpCommandHeader.ext
  · rfl
  · rfl
  · exact BigEndian.ofBytesBE_shiftRight hlen

/-- A stream that ends inside the header is refused. After one byte the second byte of the
    magic comes from the stack, and may be right. -/
theorem readCommand_of_short {conn : PieceStream UInt8} (hconn : conn.NeverFails)
    (hshort : conn.items.length < 8) (stale : Nat → UInt8) :
    (tcpCommandReadCommand stale conn).1 = none := by
  obtain ⟨conn₁, hread₁, hitems₁, hconn₁⟩ := sysReadn_eq hconn 2
  obtain ⟨conn₂, hread₂, -, -⟩ := sysReadn_eq hconn₁ 6
  have hrest : ((conn₁.items.take 6).length : Int) ≠ 6 := by
    rw [hitems₁, List.length_take, List.length_drop]
    omega
  unfold tcpCommandReadCommand
  simp only [Nat.cast_ofNat] at hread₁ hread₂
  simp only [hread₁, hread₂]
  split
  · rfl
  · -- fewer than six bytes follow, whatever the first two were
    rfl

/-- At a header of the writer, the reader returns what follows, or refuses if too little
    follows. -/
theorem readCommand_of_header {conn : PieceStream UInt8} (hconn : conn.NeverFails)
    (cmd : TCCommand) (hlen : cmd.header.len < 2 ^ 31) (body : List UInt8)
    (hitems : conn.items = tcpCommandBuildHeader cmd ++ body) (stale : Nat → UInt8) :
    ∃ conn', tcpCommandReadCommand stale conn =
        (if body.length < cmd.header.len then none
          else some ⟨cmd.header, body.take cmd.header.len⟩, conn') ∧
      conn'.items = body.drop cmd.header.len := by
  obtain ⟨conn₁, hread₁, hitems₁, hconn₁⟩ := sysReadn_eq hconn 2
  obtain ⟨conn₂, hread₂, hitems₂, hconn₂⟩ := sysReadn_eq hconn₁ 6
  obtain ⟨conn₃, hread₃, hitems₃, -⟩ := sysReadn_eq hconn₂ cmd.header.len
  -- two bytes, six bytes, and the body is left
  have hmagic : conn.items.take 2 = [0x47, 0x74] := by
    rw [hitems]
    rfl
  have hfields : conn₁.items.take 6 = (tcpCommandBuildHeader cmd).drop 2 := by
    rw [hitems₁, hitems]
    rfl
  have hbody : conn₂.items = body := by
    rw [hitems₂, hitems₁, hitems]
    rfl
  have hheader := headerParser_buildHeader cmd (by omega)
    (fun i => overlay stale [0x47, 0x74] (i + 2))
  -- a length below `2 ^ 31` survives its conversion to `int`
  have hint : Int.bmod cmd.header.len (2 ^ 32) = cmd.header.len := by
    rw [Int.bmod_def]
    omega
  simp only [Nat.cast_ofNat, hmagic, hfields] at hread₁ hread₂
  rw [hbody] at hread₃ hitems₃
  refine ⟨conn₃, ?_, hitems₃⟩
  unfold tcpCommandReadCommand
  simp only [hread₁, hread₂, hheader, hint, hread₃]
  -- the magic and the count of six are as they should be
  have hok : ¬(((([0x47, 0x74] : List UInt8).length : Nat) : Int) ≤ 0 ∨
      overlay stale [0x47, 0x74] 0 ≠ 0x47 ∨ overlay stale [0x47, 0x74] 1 ≠ 0x74) := by
    simp [overlay]
  have hsix : ¬((((tcpCommandBuildHeader cmd).drop 2).length : Int) ≠ 6) := fun h => h rfl
  rw [if_neg hok, if_neg hsix]
  have hret : toUInt32 (body.take cmd.header.len).length = min cmd.header.len body.length := by
    rw [List.length_take, toUInt32]
    omega
  rw [hret]
  by_cases htruncated : body.length < cmd.header.len
  · rw [if_pos htruncated, if_pos (by omega)]
  · rw [if_neg htruncated, if_neg (by omega)]

/-- The command with this payload. -/
def TCCommand.ofPayload (cmd retCode : UInt8) (payload : List UInt8) : TCCommand :=
  ⟨⟨cmd, retCode, payload.length⟩, payload⟩

/-- The writer sends a header and the payload. -/
theorem sendCmd_ofPayload (cmd retCode : UInt8) (payload : List UInt8) :
    tcpCommandClientSendCmd (.ofPayload cmd retCode payload) =
      tcpCommandBuildHeader (.ofPayload cmd retCode payload) ++ payload := by
  have hsent : (if payload.length > 0 then payload.take payload.length else []) = payload := by
    cases payload with
    | nil => rfl
    | cons b bs =>
      rw [if_pos (List.length_pos_iff.mpr (List.cons_ne_nil b bs)), List.take_length]
  rw [tcpCommandClientSendCmd, TCCommand.ofPayload, hsent]

/-- A part of what the writer sends, without its end, is refused. -/
theorem readCommand_of_truncated {command : TCCommand} {part payload : List UInt8}
    (hlen : command.header.len < 2 ^ 31) (hpayload : payload.length = command.header.len)
    (hpart : part <+: tcpCommandBuildHeader command ++ payload)
    (hproper : part ≠ tcpCommandBuildHeader command ++ payload) {conn : PieceStream UInt8}
    (hconn : conn.NeverFails) (hitems : conn.items = part) (stale : Nat → UInt8) :
    (tcpCommandReadCommand stale conn).1 = none := by
  have hheader : (tcpCommandBuildHeader command).length = 8 := rfl
  by_cases hshort : part.length < 8
  · exact readCommand_of_short hconn (hitems ▸ hshort) stale
  · -- the header is complete, and the end of the payload is missing
    have hbody : part = tcpCommandBuildHeader command ++ payload.take (part.length - 8) := by
      have htake := List.prefix_iff_eq_take.mp hpart
      rw [List.take_append, List.take_of_length_le (by omega), hheader] at htake
      exact htake
    have hmissing : part.length < 8 + payload.length := by
      have hle := hpart.length_le
      rw [List.length_append, hheader] at hle
      have hne : part.length ≠ 8 + payload.length :=
        fun heq => hproper (hpart.eq_of_length (by rw [List.length_append, hheader, heq]))
      omega
    obtain ⟨conn', hread, -⟩ := readCommand_of_header hconn command hlen _
      (hitems.trans hbody) stale
    rw [hread, if_pos (by rw [List.length_take]; omega)]

/-- However the bytes arrive and whatever is on the stack: what the writer sends is read
    back, and what follows is left in the stream; and if the stream ends before, the
    command is refused. -/
theorem command_framing (cmd retCode : UInt8) (payload : List UInt8)
    (hlen : payload.length < 2 ^ 31) (stale : Nat → UInt8) (schedule : List Arrival)
    (hschedule : .failed ∉ schedule) :
    let command := TCCommand.ofPayload cmd retCode payload
    let sent := tcpCommandClientSendCmd command
    sent.length = 8 + payload.length ∧
      (∀ rest, ∃ conn, tcpCommandReadCommand stale ⟨sent ++ rest, schedule⟩ =
        (some command, conn) ∧ conn.items = rest) ∧
      ∀ part, part <+: sent → part ≠ sent →
        (tcpCommandReadCommand stale ⟨part, schedule⟩).1 = none := by
  intro command sent
  have hsent : sent = tcpCommandBuildHeader command ++ payload :=
    sendCmd_ofPayload cmd retCode payload
  have hcount : command.header.len = payload.length := rfl
  rw [hsent]
  refine ⟨?_, fun rest => ?_, fun part hpart hproper => ?_⟩
  · rw [List.length_append]
    rfl
  · -- the payload and what follows are the body
    have hconn : PieceStream.NeverFails
      ⟨tcpCommandBuildHeader command ++ payload ++ rest, schedule⟩ := hschedule
    obtain ⟨conn, hread, hitems⟩ := readCommand_of_header hconn command hlen (payload ++ rest)
      (List.append_assoc _ _ _) stale
    rw [hcount, List.take_left] at hread
    rw [hcount, List.drop_left] at hitems
    rw [if_neg (by rw [List.length_append]; omega)] at hread
    exact ⟨conn, hread, hitems⟩
  · have hconn : PieceStream.NeverFails ⟨part, schedule⟩ := hschedule
    exact readCommand_of_truncated hlen hcount.symm hpart hproper hconn rfl stale

/-- The answer to a request for the calibration, in pieces and with an interruption. -/
theorem command_framing_calibration :
    let command := TCCommand.ofPayload 5 0 [0x4c, 0x61]
    let sent := tcpCommandClientSendCmd command
    let schedule := [.upTo 0, .interrupted, .upTo 3, .upTo 0, .interrupted, .upTo 7]
    sent.length = 8 + 2 ∧
      (∀ rest, ∃ conn, tcpCommandReadCommand (fun _ => 0) ⟨sent ++ rest, schedule⟩ =
        (some command, conn) ∧ conn.items = rest) ∧
      ∀ part, part <+: sent → part ≠ sent →
        (tcpCommandReadCommand (fun _ => 0) ⟨part, schedule⟩).1 = none :=
  command_framing 5 0 [0x4c, 0x61] (by decide) (fun _ => 0) _ (by decide)

end Hesai
