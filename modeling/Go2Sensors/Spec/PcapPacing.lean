import Mathlib.Algebra.Order.Ring.Int
import Go2Sensors.ForStd.Run
import Go2Sensors.ForStd.Schedule
import Go2Sensors.Native.PcapReader

/-!
# The pace does not drift

At a pacing point the reader waits for what is left of the time between the packets, and
notes as `last_time` not when it came there but when it should have come (`OnSchedule`). So
`last_time` is the due time of the last pacing point, and lateness at one of them is not
carried over to the next.

## Key results

- `OnSchedule.pcapTurn`: the invariant of the loop
- `pacing_does_not_drift`: the two variables after a pacing point, and when the packets after
  it are released
-/

namespace Hesai

open Run

variable {mktime : Tm → Int} {reader : PcapReader} {s : PcapState} {turn : PcapTurn}

/-! ## Pacing points -/

/-- The turn is a pacing point. -/
def Paces (reader : PcapReader) (s : PcapState) : Prop := s.count + 1 ≥ gap ∧ reader.utcIndex ≠ 0

instance (reader : PcapReader) (s : PcapState) : Decidable (Paces reader s) :=
  inferInstanceAs (Decidable (_ ∧ _))

/-- The pacing points of a run: the time in the packet and the clock of the host. -/
def pacingPoints (mktime : Tm → Int) (reader : PcapReader) :
    PcapState → List PcapTurn → List (Int × Int)
  | _, [] => []
  | s, turn :: turns =>
    let points := pacingPoints mktime reader (pcapTurn mktime reader s turn) turns
    if Paces reader s then (reader.pktTs mktime turn.packet, turn.currentTime) :: points
    else points

theorem pcapTurn_of_paces (h : Paces reader s) :
    pcapTurn mktime reader s turn =
      { s with count := 0, resumed := turn.released }.pace (reader.pktTs mktime turn.packet)
        turn.currentTime := by
  have h' : s.count + 1 ≥ gap ∧ reader.utcIndex ≠ 0 := h
  simp only [pcapTurn, if_pos h']

theorem pcapTurn_of_not_paces (h : ¬ Paces reader s) :
    pcapTurn mktime reader s turn =
      { s with count := s.count + 1, resumed := turn.released } := by
  have h' : ¬ (s.count + 1 ≥ gap ∧ reader.utcIndex ≠ 0) := h
  simp only [pcapTurn, if_neg h']

/-- The pacing points of a run are those of its two parts. -/
theorem pacingPoints_append (turns turns' : List PcapTurn) :
    pacingPoints mktime reader s (turns ++ turns') =
      pacingPoints mktime reader s turns ++
        pacingPoints mktime reader (turns.foldl (pcapTurn mktime reader) s) turns' := by
  induction turns generalizing s with
  | nil => rfl
  | cons turn turns ih =>
    simp only [List.cons_append, pacingPoints, List.foldl_cons, ih]
    split
    · rw [List.cons_append]
    · rfl

/-! ## The schedule -/

/-- The schedule that the first pacing point fixes. -/
def scheduleOf (point : Int × Int) : Schedule Int := ⟨point.2, point.1⟩

/-- `last_time` is the time at which the last pacing point was due. Before the first pacing
    point there is no schedule. -/
def OnSchedule (first : Option (Int × Int)) (s : PcapState) : Prop :=
  match first with
  | none => s.lastPktTs = 0
  | some point => s.lastPktTs ≠ 0 ∧ s.lastTime = (scheduleOf point).due s.lastPktTs

/-- The time that is asked for is the time that is missing. -/
theorem timeval_usec (t : Int) : (Timeval.mk (t / 1000000) (t % 1000000)).usec = t :=
  Int.ediv_mul_add_emod t 1000000

/-- The first pacing point. -/
theorem pace_first (h : s.lastPktTs = 0) (pktTs currentTime : Int) :
    s.pace pktTs currentTime =
      { s with lastPktTs := pktTs, lastTime := currentTime, resumed := currentTime } := by
  rw [PcapState.pace, if_pos h]

/-- Every other pacing point, on schedule. -/
theorem pace_next {point : Int × Int} (h : OnSchedule (some point) s) (pktTs currentTime : Int) :
    s.pace pktTs currentTime =
      { s with
        lastPktTs := pktTs
        lastTime := (scheduleOf point).due pktTs
        resumed := (scheduleOf point).release currentTime pktTs } := by
  obtain ⟨hnonzero, htime⟩ := h
  -- the time that is missing does not depend on the earlier pacing points
  have hsleep : pktTs - s.lastPktTs - (currentTime - s.lastTime) =
      (scheduleOf point).due pktTs - currentTime := by
    rw [htime, ← Schedule.due_sub_eq]
  rw [PcapState.pace, if_neg hnonzero]
  simp only [hsleep, timeval_usec, gt_iff_lt, add_sub_cancel, Schedule.release_eq_ite]

/-- After a pacing point: on the schedule that it fixes itself if it is the first one. -/
theorem pcapTurn_onSchedule (mktime : Tm → Int) (turn : PcapTurn) {first : Option (Int × Int)}
    (h : OnSchedule first s) (hpaces : Paces reader s) :
    let pktTs := reader.pktTs mktime turn.packet
    let c := scheduleOf (first.getD (pktTs, turn.currentTime))
    pcapTurn mktime reader s turn =
      ⟨0, pktTs, c.due pktTs, c.release turn.currentTime pktTs⟩ := by
  intro pktTs c
  rw [pcapTurn_of_paces hpaces]
  cases first with
  | none =>
    -- the packet is due at the time that the host reads
    have hdue : c.due pktTs = turn.currentTime := Schedule.due_first
    have hzero : { s with count := 0, resumed := turn.released }.lastPktTs = 0 := h
    rw [pace_first hzero, Schedule.release_of_le (ge_of_eq hdue), hdue]
  | some point =>
    have hnext : OnSchedule (some point) { s with count := 0, resumed := turn.released } := h
    rw [pace_next hnext]
    rfl

/-- Every turn keeps the schedule, and the first pacing point fixes it. -/
theorem OnSchedule.pcapTurn {first : Option (Int × Int)} (h : OnSchedule first s)
    (hnonzero : Paces reader s → reader.pktTs mktime turn.packet ≠ 0) :
    OnSchedule (first.or (pacingPoints mktime reader s [turn]).head?)
      (Hesai.pcapTurn mktime reader s turn) := by
  by_cases hpaces : Paces reader s
  · rw [pcapTurn_onSchedule mktime turn h hpaces]
    simp only [pacingPoints, if_pos hpaces, List.head?_cons]
    cases first with
    | none => exact ⟨hnonzero hpaces, rfl⟩
    | some point => exact ⟨hnonzero hpaces, rfl⟩
  · -- between pacing points only the count changes
    rw [pcapTurn_of_not_paces hpaces]
    simp only [pacingPoints, if_neg hpaces, List.head?_nil, Option.or_none]
    cases first with
    | none => exact h
    | some point => exact h

/-- So does a run. -/
theorem OnSchedule.run {first : Option (Int × Int)} (h : OnSchedule first s)
    (turns : List PcapTurn) (hnonzero : ∀ point ∈ pacingPoints mktime reader s turns, point.1 ≠ 0) :
    OnSchedule (first.or (pacingPoints mktime reader s turns).head?)
      (turns.foldl (Hesai.pcapTurn mktime reader) s) := by
  induction turns generalizing s first with
  | nil => simpa only [pacingPoints, List.head?_nil, Option.or_none, List.foldl_nil] using h
  | cons turn turns ih =>
    have hsplit : pacingPoints mktime reader s (turn :: turns) =
        pacingPoints mktime reader s [turn] ++
          pacingPoints mktime reader (Hesai.pcapTurn mktime reader s turn) turns :=
      pacingPoints_append [turn] turns
    rw [hsplit] at hnonzero ⊢
    rw [List.head?_append, ← Option.or_assoc, List.foldl_cons]
    -- the schedule after the first turn is the one for the others
    apply ih (h.pcapTurn ?_)
    · exact fun point hpoint => hnonzero point (List.mem_append_right _ hpoint)
    · intro hpaces
      apply hnonzero (reader.pktTs mktime turn.packet, turn.currentTime)
      simp only [pacingPoints, if_pos hpaces, List.mem_append, List.mem_singleton, true_or]

/-! ## When packets are released -/

/-- The clock of the host does not go back, and `select` sleeps for the time it was asked
    for: the next packet is not released before the last turn has come to its end. -/
def TimePasses (s : PcapState) (turn : PcapTurn) : Prop :=
  s.resumed ≤ turn.released ∧ turn.released ≤ turn.currentTime

theorem le_resumed_pace (s : PcapState) (pktTs currentTime : Int) :
    currentTime ≤ (s.pace pktTs currentTime).resumed := by
  unfold PcapState.pace
  split
  · exact le_refl _
  · simp only [timeval_usec]
    -- select sleeps for a time that is not negative
    split <;> omega

/-- A turn does not end before its packet is released. -/
theorem released_le_resumed (mktime : Tm → Int) (reader : PcapReader) (s : PcapState)
    (h : turn.released ≤ turn.currentTime) :
    turn.released ≤ (pcapTurn mktime reader s turn).resumed := by
  by_cases hpaces : Paces reader s
  · rw [pcapTurn_of_paces hpaces]
    exact le_trans h (le_resumed_pace _ _ _)
  · rw [pcapTurn_of_not_paces hpaces]

/-- No packet of a run is released before the turn that it follows has come to its end. -/
theorem resumed_le_released {turns : List PcapTurn}
    (h : EachStep (pcapTurn mktime reader) TimePasses s turns) :
    ∀ turn ∈ turns, s.resumed ≤ turn.released := by
  induction turns generalizing s with
  | nil => exact fun _ hturn => absurd hturn List.not_mem_nil
  | cons turn turns ih =>
    obtain ⟨⟨hresumed, hcurrent⟩, hrest⟩ := h
    intro later hlater
    rcases List.mem_cons.mp hlater with rfl | hlater
    · exact hresumed
    · -- the loop has come to its end before the next packet
      have hend := released_le_resumed mktime reader s hcurrent
      exact le_trans hresumed (le_trans hend (ih hrest later hlater))

/-! ## No drift -/

/-- After every pacing point `last_pkt_ts` is the time in the packet and `last_time` is the
    time at which it was due, counted from the first pacing point. The loop goes on at this
    time or, if the reader was late, at once, and no packet after it is released before. -/
theorem pacing_does_not_drift (mktime : Tm → Int) (reader : PcapReader) (count lastTime now : Int)
    (turns : List PcapTurn)
    (hnonzero : ∀ point ∈ pacingPoints mktime reader (PcapState.init count lastTime now) turns,
      point.1 ≠ 0)
    (pre : List PcapTurn) (turn : PcapTurn) (post : List PcapTurn)
    (hsplit : turns = pre ++ turn :: post)
    (hpaces : Paces reader
      (pre.foldl (pcapTurn mktime reader) (PcapState.init count lastTime now)))
    (first : Int × Int)
    (hfirst : (pacingPoints mktime reader (PcapState.init count lastTime now) turns).head? =
      some first) :
    let start := PcapState.init count lastTime now
    let s := (pre ++ [turn]).foldl (pcapTurn mktime reader) start
    let pktTs := reader.pktTs mktime turn.packet
    let due := first.2 + (pktTs - first.1)
    s.lastPktTs = pktTs ∧ s.lastTime = due ∧
      (due ≤ s.resumed ∧ (turn.currentTime ≤ due → s.resumed = due)) ∧
      (EachStep (pcapTurn mktime reader) TimePasses start turns →
        ∀ later ∈ post, due ≤ later.released) := by
  intro start s pktTs due
  subst hsplit
  rw [pacingPoints_append, List.head?_append] at hfirst
  have hpre : OnSchedule (pacingPoints mktime reader start pre).head?
      (pre.foldl (pcapTurn mktime reader) start) := by
    have hstart : OnSchedule none start := rfl
    refine hstart.run pre fun point hpoint => hnonzero point ?_
    rw [pacingPoints_append]
    exact List.mem_append_left _ hpoint
  -- the first pacing point is one of those before this turn, or this one
  have hpoint : (pacingPoints mktime reader start pre).head?.getD
      (reader.pktTs mktime turn.packet, turn.currentTime) = first := by
    simp only [pacingPoints, if_pos hpaces, List.head?_cons] at hfirst
    rw [Option.or_some] at hfirst
    exact Option.some.inj hfirst
  have hafter : s = ⟨0, pktTs, due, (scheduleOf first).release turn.currentTime pktTs⟩ := by
    have hturn := pcapTurn_onSchedule mktime turn hpre hpaces
    simp only [hpoint] at hturn
    show (pre ++ [turn]).foldl (pcapTurn mktime reader) start = _
    rw [List.foldl_append, List.foldl_cons, List.foldl_nil, hturn]
    rfl
  have hrelease : due ≤ s.resumed := by
    rw [hafter]
    exact (scheduleOf first).due_le_release
  refine ⟨by rw [hafter], by rw [hafter], ⟨hrelease, fun hearly => ?_⟩, ?_⟩
  · rw [hafter]
    exact (scheduleOf first).release_of_le hearly
  · intro htime later hlater
    have hpost := (eachStep_append (pre ++ [turn]) post).mp (by simpa using htime)
    exact le_trans hrelease (resumed_le_released hpost.2 later hlater)

/-- A turn with a packet of a PandarXT-16 of the given second, at the given time. -/
def secondTurn (second : UInt8) (time : Int) : PcapTurn where
  packet i := if i = 558 then second else 0
  released := time
  currentTime := time

/-- A pacing point at once, as `count` happens to be `99`, and `99` packets after it. -/
def hundredTurns : List PcapTurn := secondTurn 1 5000000 :: List.replicate 99 (secondTurn 1 5000000)

/-- The next pacing point is reached half a second early, and waits for it. -/
theorem pacing_does_not_drift_xt16 :
    let reader := PcapReader.new "PandarXT-16"
    let s := (hundredTurns ++ [secondTurn 2 5500000]).foldl (pcapTurn Tm.tmSec reader)
      (PcapState.init 99 0 0)
    s.lastPktTs = 2000000 ∧ s.lastTime = 6000000 ∧ s.resumed = 6000000 := by
  obtain ⟨hts, htime, ⟨-, hontime⟩, -⟩ := pacing_does_not_drift Tm.tmSec
    (PcapReader.new "PandarXT-16") 99 0 0 (hundredTurns ++ [secondTurn 2 5500000])
    (by decide +kernel) hundredTurns (secondTurn 2 5500000) [] rfl (by decide +kernel)
    (1000000, 5000000) (by decide +kernel)
  exact ⟨hts, htime, hontime (by decide)⟩

end Hesai
