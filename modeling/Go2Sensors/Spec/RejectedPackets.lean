import Go2Sensors.Native.Launch
import Go2Sensors.Spec.Definedness
import Go2Sensors.Spec.Ingestion

/-!
# Rejected packets leave no trace

A packet that the thread rejects has already been written to `rawpacket` and to
`m_dPktTimestamp`. The next packet overwrites both before they are read, so two states
that differ in nothing else (`SameButStamp`) have the same future. But the packet is copied
before it is rejected, with its own size: what `RecvTask` pushes when the socket has nothing
to read is larger than the buffer from which it is copied.

## Key results

- `rejected_packets_no_effect_iff`: when inserted rejected packets change nothing that is read
- `wouldBlock_packet_undefined`: a rejected packet that is not even processed
-/

namespace Hesai

open Run

variable {F : Type} [CFloat F]

/-- The thread goes on to the next packet: the length is not dispatched for the lidar
    type, or the parser returns `-1`. -/
def Rejected (cfg : Config F) (packet : PandarPacket F) : Prop :=
  parsePacket cfg packet = none

instance (cfg : Config F) (packet : PandarPacket F) : Decidable (Rejected cfg packet) :=
  inferInstanceAs (Decidable (parsePacket cfg packet = none))

/-! ## The noted stamp -/

/-- The states differ at most in `m_dPktTimestamp`. -/
def SameButStamp (s t : DriverState F) : Prop :=
  t = { s with dPktTimestamp := t.dPktTimestamp }

variable {cfg : Config F} {s t : DriverState F}

omit [CFloat F] in
theorem SameButStamp.refl (s : DriverState F) : SameButStamp s s := rfl

/-- The noted stamp is overwritten before it is read. -/
theorem processLiarPacket_stamp (cfg : Config F) (s : DriverState F) (stamp : F)
    (packet : PandarPacket F) :
    processLiarPacket cfg { s with dPktTimestamp := stamp } packet =
      processLiarPacket cfg s packet := rfl

/-- The same packet on both sides leaves the states the same. -/
theorem SameButStamp.turn (h : SameButStamp s t) (packet : PandarPacket F) :
    SameButStamp (processLiarPacket cfg s packet) (processLiarPacket cfg t packet) := by
  rw [h, processLiarPacket_stamp]
  exact .refl _

/-- A rejected packet on one side only changes the stamp. -/
theorem SameButStamp.rejected (h : SameButStamp s t) {packet : PandarPacket F}
    (hrejected : Rejected cfg packet) : SameButStamp s (processLiarPacket cfg t packet) := by
  have hturn : processLiarPacket cfg t packet = { t with dPktTimestamp := packet.stamp } := by
    rw [processLiarPacket, hrejected]
  rw [SameButStamp, hturn, h]

/-- Rejected packets anywhere in a run. -/
theorem sameButStamp_run (s : DriverState F) {packets packets' : List (PandarPacket F)}
    (h : Inserting (Rejected cfg) packets packets') :
    SameButStamp (run cfg s packets) (run cfg s packets') :=
  h.sim (SameButStamp.refl s) (fun _ _ packet hst => hst.turn packet)
    (fun _ _ _ hst hrejected => hst.rejected hrejected)

/-! ## Insertion -/

/-- The run of the second sequence is defined if the run of the first one is, and then
    neither the calls of the callback nor the last azimuth, the pending points and the pending
    packet messages tell them apart. -/
def NoEffect (cfg : Config F) (s : LoopState F) (packets packets' : List (PandarPacket F)) :
    Prop :=
  ∀ t, runTurns cfg s packets = some t → ∃ t', runTurns cfg s packets' = some t' ∧
    t'.published = t.published ∧ t'.lastAzimuth = t.lastAzimuth ∧ t'.store = t.store ∧
      t'.scan = t.scan

/-- From any state, inserting rejected packets anywhere in a sequence of packets has no effect
    exactly if they fit into the buffer, as those of the sequence do. -/
theorem rejected_packets_no_effect_iff (cfg : Config F) (s : LoopState F)
    {packets packets' : List (PandarPacket F)}
    (h : Inserting (Rejected cfg) packets packets') :
    NoEffect cfg s packets packets' ↔ (AllFit packets → AllFit packets') := by
  have hturns := map_runTurns cfg s packets
  have hturns' := map_runTurns cfg s packets'
  have hsame := sameButStamp_run s.toDriverState h
  constructor
  · -- the run with the insertions is defined only if they fit
    intro heffect hfit
    rw [if_pos hfit, Option.map_eq_some_iff] at hturns
    obtain ⟨t, ht, -⟩ := hturns
    obtain ⟨t', ht', -⟩ := heffect t ht
    by_contra hnot
    rw [if_neg hnot, ht'] at hturns'
    exact absurd hturns' (Option.some_ne_none _)
  · intro hfits t ht
    have hfit : AllFit packets := by
      by_contra hnot
      rw [if_neg hnot, ht] at hturns
      exact absurd hturns (Option.some_ne_none _)
    rw [if_pos (hfits hfit), Option.map_eq_some_iff] at hturns'
    obtain ⟨t', ht', hstate'⟩ := hturns'
    -- what is compared does not see the stamp
    rw [← hstate', ← runTurns_toDriverState ht] at hsame
    exact ⟨t', ht', by rw [hsame], by rw [hsame], by rw [hsame], by rw [hsame]⟩

/-- A packet of no known length between and after two packets of the launched lidar. -/
theorem rejected_packets_no_effect_iff_launch :
    let s : LoopState Rat := ⟨DriverState.init Calibration.zero, ⟨0, 0, [], 0⟩⟩
    let p := xt16Packet (fun block => 35000 + 100 * block) (fun _ => 1000)
    let q := xt16Packet (fun block => 100 * block) (fun _ => 1000)
    let r := { p with stamp := 7, size := 100 }
    NoEffect launchConfig s [p, q] [p, r, q, r] ↔ (AllFit [p, q] → AllFit [p, r, q, r]) :=
  rejected_packets_no_effect_iff launchConfig _
    (.keep _ (.insert _ (by decide) (.keep _ (.insert _ (by decide) .nil))))

/-- The packet that `RecvTask` pushes when the socket has nothing to read. -/
def wouldBlockPacket : PandarPacket Rat := ⟨0, fun _ => 0, 2 ^ 32 - 1⟩

/-- It is rejected because of its length, after `memcpy` has read past the end of its data. -/
theorem wouldBlock_packet_undefined :
    ¬ ∀ (s : LoopState Rat) (packets packets' : List (PandarPacket Rat)),
      (∀ packet ∈ packets', ∃ time stale outcome,
        recvTask time stale outcome = .pushed packet) →
      Inserting (Rejected launchConfig) packets packets' →
      NoEffect launchConfig s packets packets' := by
  intro hclaim
  let s : LoopState Rat := ⟨DriverState.init Calibration.zero, ⟨0, 0, [], 0⟩⟩
  have hreceived : ∀ packet ∈ [wouldBlockPacket], ∃ time stale outcome,
      recvTask time stale outcome = .pushed packet := by
    intro packet hpacket
    rw [List.mem_singleton.mp hpacket]
    exact ⟨0, fun _ => 0, wouldBlock, rfl⟩
  obtain ⟨t, ht, -⟩ := hclaim s [] [wouldBlockPacket] hreceived
    (.insert _ (by decide) .nil) s rfl
  have hnone : runTurns launchConfig s [wouldBlockPacket] = none := rfl
  rw [hnone] at ht
  exact absurd ht.symm (Option.some_ne_none _)

end Hesai
