import Go2Sensors.ForStd.Ascii
import Go2Sensors.Spec.CorrectionText

/-!
# The calibration that a scan carries

`SaveCorrectionFile` against `PushScanPacket`: the text that is written is the text of a
table (`rows_of_saved`), and it is read from an array that is not terminated, so the
reader goes on into the memory after it. It stops there at a zero byte or at the end of
the line, and takes a line of five bytes or more for one more row.

## Key results

- `correctionContent_toList`: what is written
- `linesOf_saved`: the lines that are read
- `correction_roundTrip_iff`: what is written is read back exactly if the line in the
  memory after it is too short for a row
-/

namespace Hesai

open BigEndian (ofBytesBE_shiftRight)
open CFloat (ofRat toFloat)
open Decimal (scanInt scanDouble)
open IStringStream (linesOf)

variable {F : Type} [CFloat F]

/-! ## What is written -/

/-- An entry of the tables that is printed exactly: a decimal of at most six digits in the
    range of `float`. -/
def PrintsExactly (x : F) : Prop :=
  ∃ d : Decimal, d.SixDigits ∧ d.exponent.natAbs ≤ 50 ∧ x = toFloat (ofRat d.value) ∧
    CFloat.print x = String.ofList d.format

/-- The line of laser `i`. -/
def savedLine (calib : Calibration F) (i : Nat) : List Char :=
  (toString (i + 1)).toList ++ ',' :: ((CFloat.print (calib.elevAngleMap i)).toList ++
    ',' :: (CFloat.print (calib.horizatalAzimuthOffsetMap i)).toList)

/-- The first line. -/
def savedHeader : List Char := "Laser id,Elevation,Azimuth".toList

/-- The text is a header and a line for each laser. -/
theorem correctionContent_toList (calib : Calibration F) (n : Nat) :
    (correctionContent calib n).toList =
      (savedHeader :: (List.range n).map (savedLine calib)).flatMap (· ++ ['\n']) := by
  have hheader : "Laser id,Elevation,Azimuth\n".toList = savedHeader ++ ['\n'] := by
    decide +kernel
  unfold correctionContent
  rw [Int.toNat_natCast]
  induction n with
  | zero => rw [List.range_zero, List.foldl_nil, hheader, List.map_nil, List.flatMap_singleton]
  -- the loop appends the line of laser n
  | succ n ih =>
    rw [List.range_succ, List.foldl_append, List.foldl_cons, List.foldl_nil, List.map_append,
      ← List.cons_append, List.flatMap_append, ← ih]
    simp only [String.toList_append, List.map_cons, List.map_nil, List.flatMap_singleton,
      savedLine, List.append_assoc, List.cons_append]
    rfl

/-- The characters of a number are ASCII, and none of them separates fields or lines. -/
theorem of_isNumberChar {c : Char} (h : Decimal.isNumberChar c = true) :
    Ascii.IsText c ∧ c ≠ ',' ∧ c ≠ '\n' := by
  by_cases hdigit : c.isDigit = true
  · -- a digit
    have hrange : 48 ≤ c.toNat ∧ c.toNat ≤ 57 := by
      rw [Char.isDigit, Bool.and_eq_true, decide_eq_true_eq, decide_eq_true_eq] at hdigit
      exact ⟨UInt32.le_iff_toNat_le.mp hdigit.1, UInt32.le_iff_toNat_le.mp hdigit.2⟩
    refine ⟨⟨?_, by omega⟩, ?_, ?_⟩ <;>
    · rintro rfl
      exact absurd hrange (by decide)
  · -- a point, a sign, or the e of an exponent
    have hothers : c = '.' ∨ c = 'e' ∨ c = '+' ∨ c = '-' := by
      simpa [Decimal.isNumberChar, hdigit, or_assoc] using h
    rcases hothers with rfl | rfl | rfl | rfl <;> decide

/-! ## What is read -/

/-- A number is printed in its own characters. -/
theorem PrintsExactly.isNumberChar {x : F} (h : PrintsExactly x) :
    ∀ c ∈ (CFloat.print x).toList, Decimal.isNumberChar c = true := by
  obtain ⟨d, -, -, -, hprint⟩ := h
  rw [hprint, String.toList_ofList]
  exact fun c hc => Decimal.isNumberChar_of_mem_format hc

/-- The tables can be printed exactly up to laser `n`. -/
def Savable (calib : Calibration F) (n : Nat) : Prop :=
  ∀ i < n, PrintsExactly (calib.elevAngleMap i) ∧
    PrintsExactly (calib.horizatalAzimuthOffsetMap i)

/-- The number of a row is short and is read back. -/
theorem scanInt_toString : ∀ i < 64, scanInt (toString (i + 1)).toList = .read (i + 1 : Nat) ∧
    (toString (i + 1)).toList.length ≤ 2 ∧
    ∀ c ∈ (toString (i + 1)).toList, Decimal.isNumberChar c = true := by
  have hrun : ∀ i < 64, scanInt (toString (i + 1)).toList = .read (i + 1 : Nat) ∧
      (toString (i + 1)).toList.length ≤ 2 ∧
      (toString (i + 1)).toList.all Decimal.isNumberChar = true := by
    decide +kernel
  intro i hi
  obtain ⟨hread, hlength, hall⟩ := hrun i hi
  exact ⟨hread, hlength, List.all_eq_true.mp hall⟩

/-- A line is a row of a table, with the values that were printed. -/
theorem savedLine_isRow {calib : Calibration F} {i : Nat} (hi : i < 64)
    (helev : PrintsExactly (calib.elevAngleMap i))
    (hazimuth : PrintsExactly (calib.horizatalAzimuthOffsetMap i)) :
    ∃ elev azimuth, IsRow (i + 1) (savedLine calib i) elev azimuth ∧
      calib.elevAngleMap i = toFloat (ofRat elev) ∧
      calib.horizatalAzimuthOffsetMap i = toFloat (ofRat azimuth) := by
  -- the fields end at the commas, as the numbers have none
  have hcomma : ∀ text : List Char, (∀ c ∈ text, Decimal.isNumberChar c = true) → ',' ∉ text :=
    fun text htext hmem => (of_isNumberChar (htext _ hmem)).2.1 rfl
  have helevText := hcomma _ helev.isNumberChar
  have hazimuthText := hcomma _ hazimuth.isNumberChar
  obtain ⟨hid, -, hidText⟩ := scanInt_toString i hi
  obtain ⟨d, hdigits, hrange, hd, hprint⟩ := helev
  obtain ⟨e, hdigits', hrange', he, hprint'⟩ := hazimuth
  refine ⟨d.value, e.value, ⟨_, _, _, [], by rw [List.append_nil]; rfl, hcomma _ hidText,
    helevText, hazimuthText, Or.inl rfl, hid, ?_, ?_⟩, hd, he⟩
  -- both numbers are far inside the range of `double`
  · rw [hprint, String.toList_ofList,
      Decimal.scanDouble_format (Decimal.scale_lt_doubleOverflow hdigits.1 hrange)]
  · rw [hprint', String.toList_ofList,
      Decimal.scanDouble_format (Decimal.scale_lt_doubleOverflow hdigits'.1 hrange')]

/-- The lines are the rows of a table with the values of the tables. -/
theorem rows_of_saved {calib : Calibration F} {n : Nat} (hn : n ≤ 64) (h : Savable calib n) :
    ∃ rows, IsRows 1 ((List.range n).map (savedLine calib)) rows ∧ rows.length = n ∧
      ∀ i (hi : i < rows.length),
        calib.elevAngleMap i = toFloat (ofRat rows[i].1) ∧
        calib.horizatalAzimuthOffsetMap i = toFloat (ofRat rows[i].2) := by
  -- from row `k` on, by induction on the number of rows that are left
  have hfrom : ∀ m k, k + m = n →
      ∃ rows, IsRows (k + 1) ((List.range' k m).map (savedLine calib)) rows ∧ rows.length = m ∧
        ∀ i (hi : i < rows.length),
          calib.elevAngleMap (k + i) = toFloat (ofRat rows[i].1) ∧
          calib.horizatalAzimuthOffsetMap (k + i) = toFloat (ofRat rows[i].2) := by
    intro m
    induction m with
    | zero => exact fun k _ => ⟨[], IsRows.nil, rfl, fun i hi => absurd hi (Nat.not_lt_zero i)⟩
    | succ m ih =>
      intro k hk
      obtain ⟨helev, hazimuth⟩ := h k (by omega)
      obtain ⟨elev, azimuth, hrow, hvalues⟩ := savedLine_isRow (by omega) helev hazimuth
      -- the row of laser k, and those after it
      obtain ⟨rows, hrows, hlength, hrest⟩ := ih (k + 1) (by omega)
      refine ⟨(elev, azimuth) :: rows, ?_, by rw [List.length_cons, hlength], ?_⟩
      · rw [List.range'_succ, List.map_cons]
        exact IsRows.cons hrow hrows
      · intro i hi
        cases i with
        | zero => exact hvalues
        | succ i =>
          rw [← Nat.add_assoc, Nat.add_right_comm]
          exact hrest i (Nat.lt_of_succ_lt_succ hi)
  obtain ⟨rows, hrows, hlength, hvalues⟩ := hfrom n 0 (Nat.zero_add n)
  rw [← List.range_eq_range'] at hrows
  exact ⟨rows, hrows, hlength, fun i hi => by simpa only [Nat.zero_add] using hvalues i hi⟩

/-- The characters of a line: those of numbers, and commas. -/
theorem of_mem_savedLine {calib : Calibration F} {i : Nat} (hi : i < 64)
    (helev : PrintsExactly (calib.elevAngleMap i))
    (hazimuth : PrintsExactly (calib.horizatalAzimuthOffsetMap i)) :
    ∀ c ∈ savedLine calib i, Ascii.IsText c ∧ c ≠ '\n' := by
  have hnumber : ∀ c, Decimal.isNumberChar c = true → Ascii.IsText c ∧ c ≠ '\n' :=
    fun c hc => ⟨(of_isNumberChar hc).1, (of_isNumberChar hc).2.2⟩
  intro c hc
  -- number, comma, number, comma, number
  rcases List.mem_append.mp hc with hid | hc
  · exact hnumber c ((scanInt_toString i hi).2.2 c hid)
  rcases List.mem_cons.mp hc with rfl | hc
  · decide
  rcases List.mem_append.mp hc with hc | hc
  · exact hnumber c (helev.isNumberChar c hc)
  rcases List.mem_cons.mp hc with rfl | hc
  · decide
  · exact hnumber c (hazimuth.isNumberChar c hc)

/-- The lines that are written: ASCII text without a newline. -/
theorem of_mem_savedLines {calib : Calibration F} {n : Nat} (hn : n ≤ 64) (h : Savable calib n) :
    ∀ line ∈ savedHeader :: (List.range n).map (savedLine calib),
      ∀ c ∈ line, Ascii.IsText c ∧ c ≠ '\n' := by
  intro line hline
  rcases List.mem_cons.mp hline with rfl | hline
  · have hall : savedHeader.all (fun c => decide (Ascii.IsText c ∧ c ≠ '\n')) = true := by
      decide +kernel
    exact fun c hc => of_decide_eq_true (List.all_eq_true.mp hall c hc)
  · obtain ⟨i, hi, rfl⟩ := List.mem_map.mp hline
    rw [List.mem_range] at hi
    exact of_mem_savedLine (by omega) (h i hi).1 (h i hi).2

/-- The text is ASCII. -/
theorem isText_of_saved {calib : Calibration F} {n : Nat} (hn : n ≤ 64) (h : Savable calib n) :
    ∀ c ∈ (correctionContent calib n).toList, Ascii.IsText c := by
  intro c hc
  rw [correctionContent_toList] at hc
  obtain ⟨line, hline, hc⟩ := List.mem_flatMap.mp hc
  rcases List.mem_append.mp hc with hc | hc
  · exact (of_mem_savedLines hn h line hline c hc).1
  · rw [List.mem_singleton.mp hc]
    decide

/-- The text in the memory after an array, up to the first zero byte. -/
def memoryText (memory : List UInt8) : List Char := cString [] memory

/-- What the reader gets: the lines that were written, and those in the memory after
    them. -/
theorem linesOf_saved {calib : Calibration F} {n : Nat} (hn : n ≤ 64) (h : Savable calib n)
    (memory : List UInt8) :
    linesOf (cString (correctionContent calib n).toUTF8.data.toList memory) =
      savedHeader :: ((List.range n).map (savedLine calib) ++ linesOf (memoryText memory)) := by
  have htext := isText_of_saved hn h
  have hlines : ∀ line ∈ savedHeader :: (List.range n).map (savedLine calib), '\n' ∉ line :=
    fun line hline hmem => (of_mem_savedLines hn h line hline _ hmem).2 rfl
  rw [cString, Ascii.takeWhile_toUTF8_append htext, List.map_append,
    Ascii.chars_toUTF8 fun c hc => (htext c hc).2, correctionContent_toList,
    IStringStream.linesOf_flatMap hlines, List.cons_append]
  rfl

/-- A line is short. -/
theorem length_savedLine_le {calib : Calibration F} {i : Nat} (hi : i < 64)
    (helev : PrintsExactly (calib.elevAngleMap i))
    (hazimuth : PrintsExactly (calib.horizatalAzimuthOffsetMap i)) :
    (savedLine calib i).length ≤ 132 := by
  have hid := (scanInt_toString i hi).2.1
  have hnumber : ∀ x : F, PrintsExactly x → (CFloat.print x).toList.length ≤ 64 := by
    rintro x ⟨d, hdigits, hexponent, -, hprint⟩
    rw [hprint, String.toList_ofList]
    exact Decimal.length_format_le hdigits.1 hexponent
  have helevLength := hnumber _ helev
  have hazimuthLength := hnumber _ hazimuth
  rw [savedLine, List.length_append, List.length_cons, List.length_append, List.length_cons]
  omega

/-- The length of the text fits the four bytes of the header. -/
theorem length_saved_lt {calib : Calibration F} {n : Nat} (hn : n ≤ 64) (h : Savable calib n) :
    (correctionContent calib n).toUTF8.data.toList.length < 2 ^ 31 := by
  -- at most 65 lines of at most 133 characters
  have hlines : ∀ line ∈ savedHeader :: (List.range n).map (savedLine calib),
      (line ++ ['\n']).length ≤ 133 := by
    intro line hline
    rw [List.length_append, List.length_singleton]
    rcases List.mem_cons.mp hline with rfl | hline
    · decide +kernel
    · obtain ⟨i, hi, rfl⟩ := List.mem_map.mp hline
      rw [List.mem_range] at hi
      have hlength := length_savedLine_le (by omega) (h i hi).1 (h i hi).2
      omega
  rw [Ascii.toUTF8_eq_map fun c hc => (isText_of_saved hn h c hc).2, List.length_map,
    correctionContent_toList]
  have hlength := IStringStream.length_flatMap_le hlines
  rw [List.length_cons, List.length_map, List.length_range] at hlength
  omega

/-! ## The memory after the text -/

/-- The line in the memory after an array is too short for a row: a zero byte or a newline
    is among the first five bytes. -/
def EndsEarly (memory : List UInt8) : Prop :=
  (memory.takeWhile fun b => b != 0 && b != 10).length < 5

/-- A byte is a newline as a character. -/
theorem ofNat_eq_newline_iff (b : UInt8) : Char.ofNat b.toNat = '\n' ↔ b = 10 := by
  have hall : ∀ n < 256, Char.ofNat n = '\n' → n = 10 := by decide +kernel
  constructor
  · intro h
    exact UInt8.toNat_inj.mp (hall b.toNat b.toNat_lt h)
  · rintro rfl
    rfl

/-- The text in the memory ends the table if its first line is too short. -/
theorem endsTable_memoryText_iff (memory : List UInt8) :
    EndsTable (linesOf (memoryText memory)) ↔ EndsEarly memory := by
  -- the first line of the text, as bytes
  have hfirst : ((memoryText memory).takeWhile (· != '\n')).length =
      (memory.takeWhile fun b => b != 0 && b != 10).length := by
    have hbyte : ((· != '\n') ∘ fun b : UInt8 => Char.ofNat b.toNat) = (· != 10) := by
      funext b
      rw [Function.comp_apply, Bool.eq_iff_iff, bne_iff_ne, bne_iff_ne, ne_eq,
        ofNat_eq_newline_iff]
    have hboth : (fun b : UInt8 => b != 0 && b != 10) =
        fun b => decide ((b != 10) = true ∧ (b != 0) = true) := by
      funext b
      rw [Bool.decide_and, Bool.decide_eq_true, Bool.decide_eq_true, Bool.and_comm]
    rw [memoryText, cString, List.nil_append, List.takeWhile_map, hbyte, List.length_map,
      List.takeWhile_takeWhile, hboth]
  rw [EndsEarly, ← hfirst, EndsTable]
  by_cases hnil : memoryText memory = []
  · simp [hnil, linesOf]
  · simp [IStringStream.head?_linesOf hnil]

/-! ## Loading what was saved -/

/-- A line that does not end the table is counted, whatever becomes of it. -/
theorem lt_lineCounter_foldRows (env : LoadEnv F) {line : List Char} (hline : 5 ≤ line.length)
    (lines : List (List Char)) (rows : RowArrays F) :
    rows.lineCounter < (foldRows env (line :: lines) rows).lineCounter := by
  rw [foldRows, if_neg (by omega)]
  dsimp only
  -- a row out of turn ends the loop after it was counted
  split
  · exact Nat.lt_succ_self _
  · refine Nat.lt_of_lt_of_le ?_ (foldRows_keeps env lines _).1
    exact Nat.lt_succ_self _

/-- The number of rows is that of the lines that were written exactly if the memory ends
    the table. -/
theorem elevationSize_saved_iff (env : LoadEnv F) (tables : CalibrationTables F)
    {calib : Calibration F} {n : Nat} (hn : n ≤ 64) (h : Savable calib n)
    (memory : List UInt8) :
    (loadCorrectionFile env tables
        (cString (correctionContent calib n).toUTF8.data.toList memory)).tables.elevationSize = n ↔
      EndsEarly memory := by
  obtain ⟨rows, hrows, hlength, -⟩ := rows_of_saved hn h
  obtain ⟨happend, hcounter, -, -⟩ :=
    foldRows_of_rows env hrows ⟨0, env.elevAngle, env.azimuthOffset, []⟩ rfl
  rw [loadCorrectionFile_eq, linesOf_saved hn h, List.tail_cons, happend,
    ← endsTable_memoryText_iff]
  simp only [copyRows]
  rw [hlength, Nat.zero_add] at hcounter
  constructor
  · intro hsize line hline
    obtain ⟨lines, hlines⟩ := List.head?_eq_some_iff.mp hline
    -- a line that is long enough would be one row more
    by_contra hlong
    have hlt := lt_lineCounter_foldRows env (Nat.le_of_not_lt hlong) lines
      (foldRows env ((List.range n).map (savedLine calib))
        ⟨0, env.elevAngle, env.azimuthOffset, []⟩)
    rw [← hlines, hsize, hcounter] at hlt
    exact absurd hlt (Nat.lt_irrefl _)
  · intro hend
    rw [foldRows_of_endsTable hend, hcounter]

/-- With a line too short for a row in the memory, what was written is loaded. -/
theorem load_saved (env : LoadEnv F) (tables : CalibrationTables F) {calib : Calibration F}
    {n : Nat} (hn : 1 ≤ n ∧ n ≤ 64) (h : Savable calib n) {memory : List UInt8}
    (hmemory : EndsEarly memory) :
    let loaded := loadCorrectionFile env tables
      (cString (correctionContent calib n).toUTF8.data.toList memory)
    ∀ i < n, loaded.tables.elevAngleMap i = calib.elevAngleMap i ∧
      loaded.tables.horizatalAzimuthOffsetMap i = calib.horizatalAzimuthOffsetMap i := by
  intro loaded i hi
  obtain ⟨rows, hrows, rfl, hvalues⟩ := rows_of_saved hn.2 h
  have htable : IsTable (cString (correctionContent calib rows.length).toUTF8.data.toList memory)
      rows :=
    ⟨_, _, _, linesOf_saved hn.2 h memory, hrows, (endsTable_memoryText_iff memory).mpr hmemory,
      hn⟩
  obtain ⟨⟨-, hholds⟩, -⟩ := loadCorrectionFile_of_isTable env tables htable
  obtain ⟨helev, hazimuth, -⟩ := hholds i hi
  exact ⟨helev.trans (hvalues i hi).1.symm, hazimuth.trans (hvalues i hi).2.symm⟩

/-! ## The scan -/

/-- Packets that are no correction files leave the tables alone. -/
theorem pushScanCorrection_append_of_others (env : LoadEnv F) (memory : List UInt8)
    (localFile : LocalFile) (s : CorrectionState F) {before : List PandarPacketMsg}
    (hbefore : ∀ msg ∈ before, isCorrectionFile msg.data = some false)
    (scan : List PandarPacketMsg) :
    pushScanCorrection env memory localFile s (before ++ scan) =
      pushScanCorrection env memory localFile s scan := by
  induction before with
  | nil => rfl
  | cons msg before ih =>
    rw [List.cons_append, pushScanCorrection, hbefore msg List.mem_cons_self]
    exact ih fun msg hmsg => hbefore msg (List.mem_cons_of_mem _ hmsg)

/-- With the flag set no packet changes anything. -/
theorem pushScanCorrection_of_flag (env : LoadEnv F) (memory : List UInt8)
    (localFile : LocalFile) {s : CorrectionState F} (hflag : s.gotLidarCorrectionFlag = true)
    {scan : List PandarPacketMsg} (hscan : ∀ msg ∈ scan, (isCorrectionFile msg.data).isSome) :
    pushScanCorrection env memory localFile s scan = some s := by
  induction scan with
  | nil => rfl
  | cons msg scan ih =>
    have hrest := ih fun msg hmsg => hscan msg (List.mem_cons_of_mem _ hmsg)
    obtain ⟨isCorrection, hmsg⟩ := Option.isSome_iff_exists.mp (hscan msg List.mem_cons_self)
    rw [pushScanCorrection, hmsg]
    cases isCorrection with
    | false => exact hrest
    -- the flag keeps it from being loaded
    | true =>
      simp only [pushCorrection, hflag, ↓reduceIte, Option.bind_some]
      exact hrest

/-- A packet with the length of its text in the header is read from the text and the memory
    after the copy of it. -/
theorem loadFromPacket_of_text (env : LoadEnv F) (memory : List UInt8) (s : CorrectionState F)
    {text : List UInt8} (hlength : text.length < 2 ^ 31) (msg : PandarPacketMsg)
    (hsize : msg.size = text.length)
    (hdata : msg.data = [0x47, 0x74, 0x05, 0x00, UInt8.ofNat (text.length >>> 24),
      UInt8.ofNat (text.length >>> 16), UInt8.ofNat (text.length >>> 8),
      UInt8.ofNat text.length] ++ text) :
    loadFromPacket env memory s msg =
      some ⟨(loadCorrectionFile env s.tables (cString text memory)).tables, true⟩ := by
  have hbytes := ofBytesBE_shiftRight (Nat.lt_trans hlength (by decide : 2 ^ 31 < 2 ^ 32))
  -- the copy is as long as the data behind the header
  have hfits : ¬ (text.length < text.length ∨ 2 ^ 31 ≤ text.length) := by omega
  simp only [loadFromPacket, hdata, hsize, List.cons_append, List.nil_append, hbytes, hfits,
    List.take_length, ↓reduceIte]
  rfl

/-- The saved packet is loaded. -/
theorem pushCorrection_saved (env : LoadEnv F) (memory : List UInt8) (localFile : LocalFile)
    {s : CorrectionState F} (hflag : s.gotLidarCorrectionFlag = false) {calib : Calibration F}
    {n : Nat} (hn : n ≤ 64) (h : Savable calib n) :
    pushCorrection env memory localFile s (saveCorrectionFile calib n) =
      some ⟨(loadCorrectionFile env s.tables
        (cString (correctionContent calib n).toUTF8.data.toList memory)).tables, true⟩ := by
  rw [pushCorrection, if_neg (by rw [hflag]; decide),
    loadFromPacket_of_text env memory s (length_saved_lt hn h) _ rfl rfl]
  rfl

/-- A scan whose only correction file is the saved packet. -/
theorem pushScanCorrection_saved (env : LoadEnv F) (memory : List UInt8) (localFile : LocalFile)
    {s : CorrectionState F} (hflag : s.gotLidarCorrectionFlag = false) {calib : Calibration F}
    {n : Nat} (hn : n ≤ 64) (h : Savable calib n) {before after : List PandarPacketMsg}
    (hothers : ∀ msg ∈ before ++ after, isCorrectionFile msg.data = some false) :
    pushScanCorrection env memory localFile s (before ++ saveCorrectionFile calib n :: after) =
      some ⟨(loadCorrectionFile env s.tables
        (cString (correctionContent calib n).toUTF8.data.toList memory)).tables, true⟩ := by
  have hsaved : isCorrectionFile (saveCorrectionFile calib n).data = some true := rfl
  -- the packets after it find the flag set
  have hafter : ∀ msg ∈ after, (isCorrectionFile msg.data).isSome := by
    intro msg hmsg
    rw [hothers msg (List.mem_append_right _ hmsg)]
    rfl
  rw [pushScanCorrection_append_of_others env memory localFile s fun msg hmsg =>
    hothers msg (List.mem_append_left _ hmsg), pushScanCorrection, hsaved]
  simp only [pushCorrection_saved env memory localFile hflag hn h, Option.bind_some]
  exact pushScanCorrection_of_flag env memory localFile rfl hafter

/-- The round trip: the entries are those that were saved, the maps have their number, the
    flag is set, and no later scan changes anything. -/
def RoundTrips (env : LoadEnv F) (memory : List UInt8) (localFile : LocalFile)
    (s : CorrectionState F) (scan : List PandarPacketMsg) (calib : Calibration F) (n : Nat) :
    Prop :=
  ∃ s', pushScanCorrection env memory localFile s scan = some s' ∧
    s'.tables.elevationSize = n ∧
    (∀ i < n, s'.tables.elevAngleMap i = calib.elevAngleMap i ∧
      s'.tables.horizatalAzimuthOffsetMap i = calib.horizatalAzimuthOffsetMap i) ∧
    s'.gotLidarCorrectionFlag = true ∧
    ∀ env memory localFile (later : List PandarPacketMsg),
      (∀ msg ∈ later, (isCorrectionFile msg.data).isSome) →
      pushScanCorrection env memory localFile s' later = some s'

/-- If what was saved is loaded, the line in the memory after it is too short for a row. -/
theorem RoundTrips.endsEarly {env : LoadEnv F} {memory : List UInt8} {localFile : LocalFile}
    {s : CorrectionState F} (hflag : s.gotLidarCorrectionFlag = false) {calib : Calibration F}
    {n : Nat} (hn : n ≤ 64) (h : Savable calib n) {before after : List PandarPacketMsg}
    (hothers : ∀ msg ∈ before ++ after, isCorrectionFile msg.data = some false)
    (hround : RoundTrips env memory localFile s (before ++ saveCorrectionFile calib n :: after)
      calib n) : EndsEarly memory := by
  obtain ⟨s', hs', hsize, -⟩ := hround
  rw [pushScanCorrection_saved env memory localFile hflag hn h hothers,
    Option.some.injEq] at hs'
  rw [← hs'] at hsize
  exact (elevationSize_saved_iff env s.tables hn h memory).mp hsize

/-- What was saved is loaded exactly if a zero byte or a newline is among the first five
    bytes of the memory after the copied text. -/
theorem correction_roundTrip_iff (env : LoadEnv F) (memory : List UInt8) (localFile : LocalFile)
    (s : CorrectionState F) (hflag : s.gotLidarCorrectionFlag = false) (calib : Calibration F)
    (n : Nat) (hn : 1 ≤ n ∧ n ≤ 64) (h : Savable calib n) (before after : List PandarPacketMsg)
    (hothers : ∀ msg ∈ before ++ after, isCorrectionFile msg.data = some false) :
    RoundTrips env memory localFile s (before ++ saveCorrectionFile calib n :: after) calib n ↔
      EndsEarly memory := by
  constructor
  · exact RoundTrips.endsEarly hflag hn.2 h hothers
  · intro hmemory
    exact ⟨_, pushScanCorrection_saved env memory localFile hflag hn.2 h hothers,
      (elevationSize_saved_iff env s.tables hn.2 h memory).mpr hmemory,
      load_saved env s.tables hn h hmemory, rfl,
      fun env memory localFile later => pushScanCorrection_of_flag env memory localFile rfl⟩

/-! ## A calibration of sixteen lasers -/

/-- Elevations of `8` and offsets of `0.5` degrees. -/
def sixteenLasers : Calibration Rat := ⟨fun _ => 8, fun _ => 1 / 2, fun _ => 0, fun _ => 1⟩

theorem savable_sixteenLasers : Savable sixteenLasers 16 := by
  have helev : PrintsExactly (8 : Rat) := by
    refine ⟨⟨false, 8, 0⟩, ⟨by decide, by decide⟩, by decide, by decide +kernel, ?_⟩
    exact congrArg String.ofList (by decide +kernel : (Decimal.ofRat 8).format = _)
  have hazimuth : PrintsExactly (1 / 2 : Rat) := by
    refine ⟨⟨false, 5, -1⟩, ⟨by decide, by decide⟩, by decide, by decide +kernel, ?_⟩
    exact congrArg String.ofList (by decide +kernel : (Decimal.ofRat (1 / 2)).format = _)
  exact fun i _ => ⟨helev, hazimuth⟩

/-- With a zero byte after the text the calibration is read back. -/
theorem correction_roundTrip_sixteenLasers :
    RoundTrips LoadEnv.launch [0] none ⟨⟨Calibration.zero, 16⟩, false⟩
      ([] ++ saveCorrectionFile sixteenLasers (16 : Nat) :: []) sixteenLasers 16 :=
  (correction_roundTrip_iff LoadEnv.launch [0] none ⟨⟨Calibration.zero, 16⟩, false⟩ rfl
    sixteenLasers 16 (by decide) savable_sixteenLasers [] []
    (fun _ hmsg => absurd hmsg List.not_mem_nil)).mpr (by decide : [].length < 5)

/-- With five letters there the maps get one entry more. -/
theorem trailing_memory_counted :
    ¬ RoundTrips LoadEnv.launch [65, 65, 65, 65, 65] none ⟨⟨Calibration.zero, 16⟩, false⟩
      ([] ++ saveCorrectionFile sixteenLasers (16 : Nat) :: []) sixteenLasers 16 := by
  intro hround
  have hearly := hround.endsEarly rfl (by decide) savable_sixteenLasers
    fun _ hmsg => absurd hmsg List.not_mem_nil
  exact absurd hearly (by unfold EndsEarly; decide)

end Hesai
