import Go2Sensors.ForStd.Layout
import Go2Sensors.Native.Gps
import Go2Sensors.Spec.Ingestion
import Go2Sensors.Spec.Live
import Go2Sensors.Spec.WireFormat

/-!
# GPS datagrams are read back

The date in a GPS datagram is the one that the callback gets, in the same clock as the points
of a packet with that date. `RecvTask` tells the two kinds of datagrams apart by their length:
each one goes where it belongs, in the order of arrival.

## Key results

- `parseGPS_eq`: a datagram that spells a date is parsed to that date
- `gps_times_of_datagrams`: the calls of the callback, and the packets for the ring
-/

namespace Hesai

open Layout

/-! ## Dates -/

/-- What a GPS datagram says. -/
structure GpsTime where
  flag : UInt16
  year : Fin 100
  month : Fin 100
  day : Fin 100
  second : Fin 100
  minute : Fin 100
  hour : Fin 100
  fineTime : UInt32

/-- Two ASCII digits, low digit first. -/
def asciiDigits (n : Fin 100) : List UInt8 :=
  [UInt8.ofNat (0x30 + n % 10), UInt8.ofNat (0x30 + n / 10)]

/-- The bytes of the datagram, up to the ones that nobody reads. -/
def GpsTime.body (t : GpsTime) : List (Option UInt8) :=
  (bytesLE 2 t.flag.toNat ++ asciiDigits t.year ++ asciiDigits t.month ++ asciiDigits t.day ++
    asciiDigits t.second ++ asciiDigits t.minute ++ asciiDigits t.hour ++
    bytesLE 4 t.fineTime.toNat).map some

/-- The message. -/
def GpsTime.message (t : GpsTime) : PandarGPS where
  flag := t.flag.toNat
  year := t.year
  month := t.month
  day := t.day
  second := t.second
  minute := t.minute
  hour := t.hour
  fineTime := t.fineTime.toNat

/-- The date in the six UTC fields of a packet of the lidar. -/
def GpsTime.utc (t : GpsTime) : List Nat := [t.year, t.month, t.day, t.hour, t.minute, t.second]

variable {data : Nat → UInt8} {index : Nat}

@[simp] theorem length_asciiDigits (n : Fin 100) : (asciiDigits n).length = 2 := rfl

/-- Masking a digit takes `0x30` off it. -/
theorem gpsField_eq {n : Fin 100} (h : At data index ((asciiDigits n).map some)) :
    gpsField data index = n := by
  have hmask : ∀ n : Fin 100, ((UInt8.ofNat (0x30 + n % 10)).toNat &&& (0xff - 0x30)) +
      ((UInt8.ofNat (0x30 + n / 10)).toNat &&& (0xff - 0x30)) * 10 = n := by
    decide
  simp only [asciiDigits, List.map_cons, List.map_nil, at_cons_some, at_nil, and_true] at h
  rw [gpsField, h.1, h.2, hmask]

/-- A datagram that spells a date is parsed to that date. -/
theorem parseGPS_eq {t : GpsTime} (h : At data 0 t.body) :
    parseGPS data gpsPacketSize = some t.message := by
  simp only [GpsTime.body, List.map_append, at_append, List.length_append, List.length_map,
    length_bytesLE, length_asciiDigits, Nat.zero_add, Nat.reduceAdd] at h
  -- field by field, in the order of the datagram
  obtain ⟨⟨⟨⟨⟨⟨⟨hflag, hyear⟩, hmonth⟩, hday⟩, hsecond⟩, hminute⟩, hhour⟩, hfine⟩ := h
  have hflag' : (data 0).toNat ||| (data 1).toNat <<< 8 = t.flag.toNat :=
    val_readUInt16LE hflag t.flag.toNat_lt
  have hfine' : (data 14).toNat ||| (data 15).toNat <<< 8 ||| (data 16).toNat <<< 16 |||
      (data 17).toNat <<< 24 = t.fineTime.toNat :=
    val_readUInt32LE hfine t.fineTime.toNat_lt
  -- the length is right, so that every field is read
  rw [parseGPS, if_neg (by simp), hflag', hfine', gpsField_eq hyear, gpsField_eq hmonth,
    gpsField_eq hday, gpsField_eq hsecond, gpsField_eq hminute, gpsField_eq hhour]
  rfl

/-- The callback gets the second that the points of a packet with this date are stamped with. -/
theorem toTm_message (t : GpsTime) : t.message.toTm = toTm t.utc := by
  have hyear : toTmYear t.year = (t.year : Int) + 100 := by
    have hlt := t.year.isLt
    unfold toTmYear
    -- a year of two digits is never taken for one before 2000
    rw [if_neg (by omega)]
  simp [PandarGPS.toTm, GpsTime.message, toTm, GpsTime.utc, hyear]

/-! ## Every date can be spelt -/

/-- An ASCII digit. -/
def IsDigit (b : UInt8) : Prop := 0x30 ≤ b.toNat ∧ b.toNat ≤ 0x39

/-- Two digits are the ones of a number. -/
theorem exists_asciiDigits {b0 b1 : UInt8} (h0 : IsDigit b0) (h1 : IsDigit b1) :
    ∃ n, [b0, b1] = asciiDigits n := by
  obtain ⟨hlow0, hhigh0⟩ := h0
  obtain ⟨hlow1, hhigh1⟩ := h1
  -- the second byte is the digit of the tens
  refine ⟨⟨(b1.toNat - 0x30) * 10 + (b0.toNat - 0x30), by omega⟩, ?_⟩
  simp only [asciiDigits, List.cons.injEq, and_true]
  constructor
  · apply UInt8.toNat_inj.mp
    rw [UInt8.toNat_ofNat']
    omega
  · apply UInt8.toNat_inj.mp
    rw [UInt8.toNat_ofNat']
    omega

/-- A datagram with digits where the date stands spells one. -/
theorem exists_gpsTime {payload : List UInt8} (hlength : payload.length = gpsPacketSize)
    (hdigits : ∀ k b, 2 ≤ k → k < 14 → payload[k]? = some b → IsDigit b) :
    ∃ t : GpsTime, Fits payload t.body := by
  let d : Nat → UInt8 := fun k => payload.getD k 0
  -- every byte up to the fields that are not read stands in the datagram
  have hget : ∀ k < 18, payload[k]? = some (d k) := by
    intro k hk
    have hlt : k < payload.length := by
      rw [hlength]
      exact Nat.lt_trans hk (by decide)
    simp only [d, List.getD_eq_getElem?_getD, List.getElem?_eq_getElem hlt, Option.getD_some]
  have htake : payload.take 18 = [d 0, d 1, d 2, d 3, d 4, d 5, d 6, d 7, d 8, d 9, d 10, d 11,
      d 12, d 13, d 14, d 15, d 16, d 17] := by
    show payload.take 18 = (List.range 18).map d
    apply List.ext_getElem?
    intro k
    by_cases hk : k < 18
    · rw [List.getElem?_take_of_lt hk, hget k hk, List.getElem?_map, List.getElem?_range hk,
        Option.map_some]
    · rw [List.getElem?_eq_none (by rw [List.length_take]; omega),
        List.getElem?_eq_none (by rw [List.length_map, List.length_range]; omega)]
  -- two digits in a row spell a number
  have hfield : ∀ k, 2 ≤ k → k + 1 < 14 → ∃ n, [d k, d (k + 1)] = asciiDigits n := by
    intro k hlow hhigh
    exact exists_asciiDigits (hdigits k _ hlow (by omega) (hget k (by omega)))
      (hdigits (k + 1) _ (by omega) hhigh (hget (k + 1) (by omega)))
  obtain ⟨year, hyear⟩ := hfield 2 (by decide) (by decide)
  obtain ⟨month, hmonth⟩ := hfield 4 (by decide) (by decide)
  obtain ⟨day, hday⟩ := hfield 6 (by decide) (by decide)
  obtain ⟨second, hsecond⟩ := hfield 8 (by decide) (by decide)
  obtain ⟨minute, hminute⟩ := hfield 10 (by decide) (by decide)
  obtain ⟨hour, hhour⟩ := hfield 12 (by decide) (by decide)
  -- the flag and the fine time may be any bytes
  have hflag : bytesLE 2 (UInt16.ofNat (ofBytesLE [d 0, d 1])).toNat = [d 0, d 1] := by
    have hlt : ofBytesLE [d 0, d 1] < UInt16.size := by simpa using ofBytesLE_lt [d 0, d 1]
    rw [UInt16.toNat_ofNat_of_lt' hlt]
    exact bytesLE_ofBytesLE [d 0, d 1]
  have hfine : bytesLE 4 (UInt32.ofNat (ofBytesLE [d 14, d 15, d 16, d 17])).toNat =
      [d 14, d 15, d 16, d 17] := by
    have hlt : ofBytesLE [d 14, d 15, d 16, d 17] < UInt32.size := by
      simpa using ofBytesLE_lt [d 14, d 15, d 16, d 17]
    rw [UInt32.toNat_ofNat_of_lt' hlt]
    exact bytesLE_ofBytesLE [d 14, d 15, d 16, d 17]
  -- the date of these numbers is spelt by the same bytes
  refine ⟨⟨UInt16.ofNat (ofBytesLE [d 0, d 1]), year, month, day, second, minute, hour,
    UInt32.ofNat (ofBytesLE [d 14, d 15, d 16, d 17])⟩, fun k x hk => ?_⟩
  have hbody : ((payload.take 18).map some)[k]? = some (some x) := by
    rw [htake, ← hk, GpsTime.body, hflag, hfine, ← hyear, ← hmonth, ← hday, ← hsecond, ← hminute,
      ← hhour]
    rfl
  have hlt := (List.getElem?_eq_some_iff.mp hbody).1
  rw [List.length_map, List.length_take] at hlt
  rw [List.getElem?_map, List.getElem?_take_of_lt (by omega), Option.map_eq_some_iff] at hbody
  obtain ⟨b, hb, hbx⟩ := hbody
  rw [hb, Option.some.inj hbx]

/-! ## What `RecvTask` receives -/

variable {F : Type} [CFloat F]

/-- A turn of `RecvTask`. -/
structure RecvTurn (F : Type) where
  time : F
  stale : Nat → UInt8
  outcome : PollOutcome

/-- What a turn receives. -/
inductive Received (F : Type) where
  | gps (t : GpsTime)
  | packet (time : F) (payload : List UInt8)

/-- What comes in with a turn. -/
inductive RecvTurn.Brings : RecvTurn F → List (Received F) → Prop
  /-- a timeout or an error -/
  | quiet {turn : RecvTurn F}
    (hnothing : (getPacket turn.time turn.stale turn.outcome) = .nothing) : Brings turn []
  | gps {turn : RecvTurn F} {fd : PollFd} {payload : List UInt8} {t : GpsTime}
    (hok : ¬ turn.outcome.failed) (hready : turn.outcome.ready = some fd)
    (hrecv : fd.recv = .datagram payload) (hlength : payload.length = gpsPacketSize)
    (hfits : Fits payload t.body) : Brings turn [.gps t]
  | packet {turn : RecvTurn F} {fd : PollFd} {payload : List UInt8}
    (hok : ¬ turn.outcome.failed) (hready : turn.outcome.ready = some fd)
    (hrecv : fd.recv = .datagram payload) (hle : payload.length ≤ ethernetMTU)
    (hnot : payload.length ≠ gpsPacketSize) : Brings turn [.packet turn.time payload]

/-- The call of the callback. -/
def RecvTurn.gpsCall (cfg : Config F) (turn : RecvTurn F) : Option F :=
  recvTaskGps cfg true turn.time turn.stale turn.outcome

/-- The packet for the ring. -/
def RecvTurn.packets (turn : RecvTurn F) : List (PandarPacket F) :=
  (recvTask turn.time turn.stale turn.outcome).packets

/-- The seconds that GPS datagrams tell, in the clock of the points. -/
def Received.seconds (cfg : Config F) : Received F → Option F
  | .gps t => some (unixSecond cfg (toTm t.utc))
  | .packet _ _ => none

/-- The other datagrams. -/
def Received.datagram : Received F → Option (F × List UInt8)
  | .gps _ => none
  | .packet time payload => some (time, payload)

/-- A turn. -/
theorem RecvTurn.Brings.eq {turn : RecvTurn F} {received : List (Received F)}
    (h : turn.Brings received) (cfg : Config F) :
    (turn.gpsCall cfg).toList = received.filterMap (Received.seconds cfg) ∧
      turn.packets.map (fun pkt => (pkt.stamp, bytes pkt.data pkt.size)) =
        received.filterMap Received.datagram := by
  cases h with
  | quiet hnothing => simp [gpsCall, packets, recvTaskGps, recvTask, hnothing, Ingested.packets]
  | @gps fd payload t hok hready hrecv hlength hfits =>
    have hle : payload.length ≤ ethernetMTU := by
      rw [hlength]
      decide
    have hsize : toUInt32 payload.length = gpsPacketSize := (toUInt32_natCast hle).trans hlength
    -- a datagram of 512 bytes goes to the callback
    have hget : getPacket turn.time turn.stale turn.outcome =
        .pushed ⟨turn.time, Buffer.overlay turn.stale payload, gpsPacketSize⟩ := by
      rw [getPacket_of_not_failed hok, hready]
      simp only [hrecv, List.take_of_length_le hle, hsize]
    have hparse := parseGPS_eq (hfits.at_overlay turn.stale)
    constructor
    · simp only [gpsCall, recvTaskGps, hget, ↓reduceIte, hparse, Option.bind_some, processGps,
        toTm_message, Option.toList_some, List.filterMap_cons, Received.seconds,
        List.filterMap_nil]
      rfl
    · simp [packets, recvTask, hget, Ingested.packets, Received.datagram]
  | @packet fd payload hok hready hrecv hle hnot =>
    -- any other datagram goes to the ring
    have hget : getPacket turn.time turn.stale turn.outcome =
        .pushed ⟨turn.time, Buffer.overlay turn.stale payload, payload.length⟩ := by
      rw [getPacket_of_not_failed hok, hready]
      simp only [hrecv, List.take_of_length_le hle, toUInt32_natCast hle]
    constructor
    · simp [gpsCall, recvTaskGps, hget, hnot, Received.seconds]
    · have hbytes : bytes (Buffer.overlay turn.stale payload) payload.length = payload :=
        Buffer.map_overlay turn.stale payload
      simp only [packets, recvTask, hget, if_neg hnot, Ingested.packets, List.map_singleton, hbytes]
      rfl

/-- Turns in a row. -/
theorem received_turns (cfg : Config F) {turns : List (RecvTurn F)}
    {received : List (List (Received F))} (h : List.Forall₂ RecvTurn.Brings turns received) :
    turns.flatMap (fun turn => (turn.gpsCall cfg).toList) =
        received.flatten.filterMap (Received.seconds cfg) ∧
      (turns.flatMap RecvTurn.packets).map (fun pkt => (pkt.stamp, bytes pkt.data pkt.size)) =
        received.flatten.filterMap Received.datagram := by
  induction h with
  | nil => exact ⟨rfl, rfl⟩
  | @cons turn brought turns received hturn _ ih =>
    -- the first turn, and then the others
    obtain ⟨hcalls, hpackets⟩ := hturn.eq cfg
    simp only [List.flatMap_cons, List.map_append, List.flatten_cons, List.filterMap_append,
      hcalls, hpackets, ih.1, ih.2, and_self]

/-- Datagrams arrive at the sockets. Those of the GPS go to the callback, one call for each in
    their order, with the time of their date in the clock of the points; all others go to the
    ring as they came. A GPS datagram with digits where the date stands spells a date. -/
theorem gps_times_of_datagrams (cfg : Config F) (turns : List (RecvTurn F))
    (received : List (List (Received F))) (h : List.Forall₂ RecvTurn.Brings turns received) :
    turns.flatMap (fun turn => (turn.gpsCall cfg).toList) =
        received.flatten.filterMap (Received.seconds cfg) ∧
      (turns.flatMap RecvTurn.packets).map (fun pkt => (pkt.stamp, bytes pkt.data pkt.size)) =
        received.flatten.filterMap Received.datagram ∧
      ∀ payload : List UInt8, payload.length = gpsPacketSize →
        (∀ k b, 2 ≤ k → k < 14 → payload[k]? = some b → IsDigit b) →
        ∃ t : GpsTime, Fits payload t.body := by
  obtain ⟨hcalls, hpackets⟩ := received_turns cfg h
  exact ⟨hcalls, hpackets, fun payload => exists_gpsTime⟩

/-! ## A date and a packet -/

/-- The first of October 2026. -/
def gpsTime : GpsTime := ⟨0xffee, 26, 10, 1, 59, 30, 12, 0⟩

/-- Its datagram. -/
def gpsPayload : List UInt8 := (pad gpsPacketSize gpsTime.body).map (·.getD 0)

/-- A datagram on the only socket. -/
def recvDatagram (payload : List UInt8) : RecvTurn Rat :=
  ⟨0, fun _ => 0, ⟨1, ⟨true, false, false, false, .datagram payload⟩, none⟩⟩

theorem brings_gps_and_packet :
    List.Forall₂ RecvTurn.Brings [recvDatagram gpsPayload, recvDatagram [1, 2, 3]]
      [[.gps gpsTime], [.packet 0 [1, 2, 3]]] := by
  have hok : ∀ payload, ¬ (recvDatagram payload).outcome.failed := by
    intro payload
    simp [recvDatagram, PollOutcome.failed]
  have hbody : gpsTime.body.length ≤ gpsPacketSize := by decide
  have hfits : Fits gpsPayload gpsTime.body := fits_pad gpsPacketSize gpsTime.body 0
  refine .cons (.gps (hok _) rfl rfl ?_ hfits) (.cons (.packet (hok _) rfl rfl ?_ ?_) .nil)
  · rw [gpsPayload, List.length_map, length_pad hbody]
  · decide
  · decide

theorem gps_times_of_datagrams_gps_and_packet :
    [recvDatagram gpsPayload, recvDatagram [1, 2, 3]].flatMap
        (fun turn => (turn.gpsCall launchConfig).toList) =
      [unixSecond launchConfig ⟨126, 9, 1, 12, 30, 59⟩] ∧
    ([recvDatagram gpsPayload, recvDatagram [1, 2, 3]].flatMap RecvTurn.packets).map
        (fun pkt => (pkt.stamp, bytes pkt.data pkt.size)) = [(0, [1, 2, 3])] := by
  obtain ⟨hcalls, hpackets, -⟩ :=
    gps_times_of_datagrams launchConfig _ _ brings_gps_and_packet
  exact ⟨hcalls, hpackets⟩

end Hesai
