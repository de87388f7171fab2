import Go2Sensors.Native.Launch

/-!
# When the calibration is loaded

`LoadCorrectionFile` against the description of a calibration table: a header and rows
that are numbered from `1`. The loop over the lines is a fold over the lines of the text
(`rowLoop_eq_foldRows`), and on the rows of a table each of its steps stores one row
(`foldRows_of_rows`). A text that is no table is not refused: the function knows only the
return value `0`, and whatever it has read up to there replaces the tables.

## Key results

- `loadCorrectionFile_of_isTable`: a table is loaded
- `load_allOrNothing_iff`: loading is all or nothing exactly for tables
-/

namespace Hesai

open CFloat (ofRat toFloat)
open Decimal (scanInt scanDouble)

/-! ## Tables as texts -/

/-- The line of row `k`: three fields that can be read, the numbers in the range of `double`.
    What follows the third is ignored. -/
def IsRow (k : Nat) (line : List Char) (elev azimuth : Rat) : Prop :=
  ∃ id elevText azimuthText more,
    line = id ++ ',' :: (elevText ++ ',' :: (azimuthText ++ more)) ∧
    ',' ∉ id ∧ ',' ∉ elevText ∧ ',' ∉ azimuthText ∧ (more = [] ∨ more.head? = some ',') ∧
    scanInt id = .read k ∧ scanDouble elevText = .read elev ∧
    scanDouble azimuthText = .read azimuth

/-- The lines are rows, the first of which is row `k`. -/
inductive IsRows : (k : Nat) → (lines : List (List Char)) → (rows : List (Rat × Rat)) → Prop where
  | nil {k : Nat} : IsRows k [] []
  | cons {k : Nat} {line : List Char} {lines : List (List Char)} {elev azimuth : Rat}
    {rows : List (Rat × Rat)} (hrow : IsRow k line elev azimuth)
    (hrows : IsRows (k + 1) lines rows) : IsRows k (line :: lines) ((elev, azimuth) :: rows)

/-- The rows of a table end with the text, or with a line that is too short for a row. -/
def EndsTable (rest : List (List Char)) : Prop := ∀ line, rest.head? = some line → line.length < 5

/-- The text of a table: a header and the rows `1` to `k` with `1 ≤ k ≤ 64`. -/
def IsTable (content : List Char) (rows : List (Rat × Rat)) : Prop :=
  ∃ header lines rest, IStringStream.linesOf content = header :: (lines ++ rest) ∧
    IsRows 1 lines rows ∧ EndsTable rest ∧ 1 ≤ rows.length ∧ rows.length ≤ 64

/-- The tables hold these rows, and the maps have their number. -/
def Holds {F : Type} [CFloat F] (env : LoadEnv F) (tables : CalibrationTables F)
    (rows : List (Rat × Rat)) : Prop :=
  tables.elevationSize = rows.length ∧
  ∀ i (hi : i < rows.length),
    tables.elevAngleMap i = toFloat (ofRat rows[i].1) ∧
    tables.horizatalAzimuthOffsetMap i = toFloat (ofRat rows[i].2) ∧
    tables.sinElevationMap i = env.sinDegree (tables.elevAngleMap i) ∧
    tables.cosElevationMap i = env.cosDegree (tables.elevAngleMap i)

/-- Loading a text is all or nothing: a table is loaded, anything else is refused, no row
    is stored outside of the arrays and no row is copied that was not stored. -/
def AllOrNothing {F : Type} [CFloat F] (env : LoadEnv F) (tables : CalibrationTables F)
    (content : List Char) : Prop :=
  let loaded := loadCorrectionFile env tables content
  ((loaded.ret = 0 ∧ ∃ rows, IsTable content rows ∧ Holds env loaded.tables rows) ∨
    (loaded.ret ≠ 0 ∧ loaded.tables = tables)) ∧
  (∀ i ∈ loaded.stored, i < 64) ∧ ∀ i ∈ loaded.copied, i ∈ loaded.stored

variable {F : Type} [CFloat F]

/-! ## The loop over the lines -/

/-- The loop of `rowLoop` over a list of lines. -/
def foldRows (env : LoadEnv F) : List (List Char) → RowArrays F → RowArrays F
  | [], rows => rows
  | line :: lines, rows =>
    if line.length < 5 then rows
    else
      let rows := { rows with lineCounter := rows.lineCounter + 1 }
      let row := parseRow env rows.lineCounter line
      if row.lineId ≠ rows.lineCounter then rows
      else foldRows env lines (rows.store (row.lineId - 1).toNat row.elev row.azimuth)

/-- The stream is read line by line. -/
theorem rowLoop_eq_foldRows (env : LoadEnv F) (ifs : IStringStream) (line : List Char)
    (rows : RowArrays F) : rowLoop env ifs line rows = foldRows env ifs.lines rows := by
  induction hlines : ifs.lines generalizing ifs line rows with
  | nil =>
    have hread := IStringStream.getline_end hlines line
    rw [rowLoop, foldRows]
    split
    · rfl
    · next hnext => simp [hnext] at hread
  -- getline reads the next line, and the loop goes on with it
  | cons next lines ih =>
    obtain ⟨ifs', hread, hlines'⟩ := IStringStream.getline_line hlines line
    rw [rowLoop, foldRows]
    split
    · next hend => simp [hend] at hread
    · next hnext =>
      obtain ⟨rfl, rfl⟩ : _ = next ∧ _ = ifs' := by simpa [hread] using hnext.symm
      simp only [ih _ _ _ hlines']

/-- `LoadCorrectionFile` in terms of the lines of the text: the first is not looked at. -/
theorem loadCorrectionFile_eq (env : LoadEnv F) (tables : CalibrationTables F)
    (content : List Char) :
    let rows := foldRows env (IStringStream.linesOf content).tail
      ⟨0, env.elevAngle, env.azimuthOffset, []⟩
    loadCorrectionFile env tables content =
      ⟨0, copyRows env tables rows, rows.stored, List.range rows.lineCounter⟩ := by
  intro rows
  unfold loadCorrectionFile
  simp only [rowLoop_eq_foldRows, IStringStream.lines_getline]
  rfl

/-! ## Rows -/

/-- A row is parsed into its three fields, whatever the variables held. -/
theorem parseRow_of_isRow {k : Nat} {line : List Char} {elev azimuth : Rat}
    (h : IsRow k line elev azimuth) (env : LoadEnv F) (row : Nat) :
    parseRow env row line = ⟨k, ofRat elev, ofRat azimuth⟩ := by
  obtain ⟨id, elevText, azimuthText, more, rfl, hid, helev, hazimuth, hmore, hreadId, hreadElev,
    hreadAzimuth⟩ := h
  -- the third field ends at a comma or with the line
  have hthird : (IStringStream.getline ⟨azimuthText ++ more, true⟩ ',' elevText).2.1 =
      azimuthText := by
    rcases hmore with rfl | hcomma
    · rw [List.append_nil, IStringStream.getline_last hazimuth]
    · obtain ⟨more', rfl⟩ := List.head?_eq_some_iff.mp hcomma
      rw [IStringStream.getline_append hazimuth]
  unfold parseRow
  simp only [IStringStream.getline_append hid, IStringStream.getline_append helev, hthird,
    hreadId, hreadElev, hreadAzimuth, Decimal.Scan.map, Decimal.Scan.store]

/-- An empty field cannot be read. -/
theorem ne_nil_of_scanDouble {text : List Char} {q : Rat} (h : scanDouble text = .read q) :
    text ≠ [] := by
  rintro rfl
  simp [scanDouble] at h

/-- An empty field cannot be read. -/
theorem ne_nil_of_scanInt {text : List Char} {n : Int} (h : scanInt text = .read n) :
    text ≠ [] := by
  rintro rfl
  simp [scanInt] at h

/-- A row has the minimum length. -/
theorem IsRow.length_le {k : Nat} {line : List Char} {elev azimuth : Rat}
    (h : IsRow k line elev azimuth) : 5 ≤ line.length := by
  obtain ⟨id, elevText, azimuthText, more, rfl, -, -, -, -, hreadId, hreadElev, hreadAzimuth⟩ := h
  -- two commas and three fields that are not empty
  have hid := List.length_pos_iff.mpr (ne_nil_of_scanInt hreadId)
  have helev := List.length_pos_iff.mpr (ne_nil_of_scanDouble hreadElev)
  have hazimuth := List.length_pos_iff.mpr (ne_nil_of_scanDouble hreadAzimuth)
  simp only [List.length_append, List.length_cons]
  omega

/-- A line that is stored as row `k`: it is long enough and has this number. -/
def Numbered (env : LoadEnv F) (k : Nat) (line : List Char) : Prop :=
  5 ≤ line.length ∧ (parseRow env k line).lineId = k

/-- The lines are stored as the rows from row `k` on. -/
def NumberedFrom (env : LoadEnv F) (k : Nat) (lines : List (List Char)) : Prop :=
  ∀ i (hi : i < lines.length), Numbered env (k + i) lines[i]

/-- The row arrays after a row was stored in its cell. -/
def RowArrays.next (env : LoadEnv F) (rows : RowArrays F) (line : List Char) : RowArrays F :=
  let row := parseRow env (rows.lineCounter + 1) line
  RowArrays.store { rows with lineCounter := rows.lineCounter + 1 } rows.lineCounter row.elev
    row.azimuth

/-- A step of the loop at such a line stores it in the next cell. -/
theorem foldRows_cons_of_numbered {env : LoadEnv F} {line : List Char} {rows : RowArrays F}
    (h : Numbered env (rows.lineCounter + 1) line) (lines : List (List Char)) :
    foldRows env (line :: lines) rows = foldRows env lines (rows.next env line) := by
  obtain ⟨hlength, hid⟩ := h
  have hindex : ((rows.lineCounter + 1 : Nat) - 1 : Int).toNat = rows.lineCounter := by omega
  rw [foldRows, if_neg (by omega)]
  simp only [hid, ne_eq, not_true_eq_false, ↓reduceIte, hindex]
  rfl

/-- Whatever the lines are, the loop counts upwards and leaves the rows that it has. -/
theorem foldRows_keeps (env : LoadEnv F) (lines : List (List Char)) (rows : RowArrays F) :
    rows.lineCounter ≤ (foldRows env lines rows).lineCounter ∧
    ∀ i < rows.lineCounter, (foldRows env lines rows).elevAngle i = rows.elevAngle i ∧
      (foldRows env lines rows).azimuthOffset i = rows.azimuthOffset i := by
  induction lines generalizing rows with
  | nil => exact ⟨Nat.le_refl _, fun _ _ => ⟨rfl, rfl⟩⟩
  | cons line lines ih =>
    by_cases hshort : line.length < 5
    · -- a short line ends the loop
      rw [foldRows, if_pos hshort]
      exact ⟨Nat.le_refl _, fun _ _ => ⟨rfl, rfl⟩⟩
    by_cases hid : (parseRow env (rows.lineCounter + 1) line).lineId = (rows.lineCounter + 1 : Nat)
    · -- the row goes to the cell behind those that are there
      rw [foldRows_cons_of_numbered ⟨Nat.le_of_not_lt hshort, hid⟩]
      obtain ⟨hcounter, hcells⟩ := ih (rows.next env line)
      refine ⟨Nat.le_trans (Nat.le_succ _) hcounter, fun i hi => ?_⟩
      obtain ⟨helev, hazimuth⟩ := hcells i (Nat.lt_succ_of_lt hi)
      rw [helev, hazimuth]
      exact ⟨Function.update_of_ne (Nat.ne_of_lt hi) _ _,
        Function.update_of_ne (Nat.ne_of_lt hi) _ _⟩
    · -- the counter is advanced, and nothing is stored
      rw [foldRows, if_neg hshort]
      dsimp only
      rw [if_pos hid]
      exact ⟨Nat.le_succ _, fun _ _ => ⟨rfl, rfl⟩⟩

/-- The loop on such lines goes on from the row where it stands and stores each row in its
    own cell. -/
theorem foldRows_of_numbered (env : LoadEnv F) (lines : List (List Char)) (rows : RowArrays F)
    (h : NumberedFrom env (rows.lineCounter + 1) lines) :
    let final := foldRows env lines rows
    (∀ rest, foldRows env (lines ++ rest) rows = foldRows env rest final) ∧
    final.lineCounter = rows.lineCounter + lines.length ∧
    final.stored = rows.stored ++ List.range' rows.lineCounter lines.length ∧
    ∀ i (hi : i < lines.length),
      let row := parseRow env (rows.lineCounter + 1 + i) lines[i]
      final.elevAngle (rows.lineCounter + i) = row.elev ∧
      final.azimuthOffset (rows.lineCounter + i) = row.azimuth := by
  induction lines generalizing rows with
  | nil => simp [foldRows]
  | cons line lines ih =>
    intro final
    have hfirst : Numbered env (rows.lineCounter + 1) line := h 0 (Nat.succ_pos _)
    -- the other lines go on with the next number
    have hrest : NumberedFrom env ((rows.next env line).lineCounter + 1) lines := by
      intro i hi
      have hline := h (i + 1) (Nat.succ_lt_succ hi)
      rwa [← Nat.add_assoc, Nat.add_right_comm] at hline
    obtain ⟨happend, hcounter, hstored, hcells⟩ := ih (rows.next env line) hrest
    -- the cell just stored is left alone by the later rows
    have hfirstCell := (foldRows_keeps env lines (rows.next env line)).2 rows.lineCounter
      (Nat.lt_succ_self _)
    rw [← foldRows_cons_of_numbered hfirst] at hcounter hstored hcells happend hfirstCell
    simp only [RowArrays.next, RowArrays.store] at hcounter hstored hcells hfirstCell
    refine ⟨?_, ?_, ?_, ?_⟩
    · intro rest
      rw [← happend rest, List.cons_append, foldRows_cons_of_numbered hfirst]
    · rw [hcounter, List.length_cons]
      omega
    · rw [hstored, List.length_cons, List.range'_succ, List.append_assoc, List.singleton_append]
    · intro i hi
      cases i with
      | zero =>
        rw [Function.update_self, Function.update_self] at hfirstCell
        exact hfirstCell
      | succ i =>
        have hindex : rows.lineCounter + (i + 1) = rows.lineCounter + 1 + i := by omega
        have hnumber : rows.lineCounter + 1 + (i + 1) = rows.lineCounter + 1 + 1 + i := by omega
        rw [hindex, hnumber]
        exact hcells i (Nat.lt_of_succ_lt_succ hi)

/-- Rows of a table are such lines, with the values of the table. -/
theorem IsRows.numberedFrom {k : Nat} {lines : List (List Char)} {rows : List (Rat × Rat)}
    (h : IsRows k lines rows) (env : LoadEnv F) :
    NumberedFrom env k lines ∧ lines.length = rows.length ∧
      ∀ i (hi : i < lines.length) (hi' : i < rows.length),
        (parseRow env (k + i) lines[i]).elev = ofRat rows[i].1 ∧
        (parseRow env (k + i) lines[i]).azimuth = ofRat rows[i].2 := by
  induction h with
  | nil => simp [NumberedFrom]
  | @cons k line lines elev azimuth rows hrow hrows ih =>
    obtain ⟨hnumbered, hlength, hvalues⟩ := ih
    refine ⟨fun i hi => ?_, by simp [hlength], fun i hi hi' => ?_⟩
    · cases i with
      | zero =>
        refine ⟨hrow.length_le, ?_⟩
        rw [Nat.add_zero, List.getElem_cons_zero, parseRow_of_isRow hrow]
      | succ i =>
        rw [← Nat.add_assoc, Nat.add_right_comm]
        exact hnumbered i (Nat.lt_of_succ_lt_succ hi)
    · cases i with
      | zero =>
        rw [Nat.add_zero, List.getElem_cons_zero, List.getElem_cons_zero, parseRow_of_isRow hrow]
        exact ⟨rfl, rfl⟩
      | succ i =>
        rw [← Nat.add_assoc, Nat.add_right_comm]
        exact hvalues i (Nat.lt_of_succ_lt_succ hi) (Nat.lt_of_succ_lt_succ hi')

/-- The loop on the rows of a table. -/
theorem foldRows_of_rows (env : LoadEnv F) {k : Nat} {lines : List (List Char)}
    {table : List (Rat × Rat)} (h : IsRows k lines table) (rows : RowArrays F)
    (hk : k = rows.lineCounter + 1) :
    let final := foldRows env lines rows
    (∀ rest, foldRows env (lines ++ rest) rows = foldRows env rest final) ∧
    final.lineCounter = rows.lineCounter + table.length ∧
    final.stored = rows.stored ++ List.range' rows.lineCounter table.length ∧
    ∀ i (hi : i < table.length),
      final.elevAngle (rows.lineCounter + i) = ofRat table[i].1 ∧
      final.azimuthOffset (rows.lineCounter + i) = ofRat table[i].2 := by
  subst hk
  intro final
  obtain ⟨hnumbered, hlength, hvalues⟩ := h.numberedFrom env
  obtain ⟨happend, hcounter, hstored, hcells⟩ := foldRows_of_numbered env lines rows hnumbered
  refine ⟨happend, hlength ▸ hcounter, hlength ▸ hstored, fun i hi => ?_⟩
  have hi' : i < lines.length := by omega
  rw [← (hvalues i hi' hi).1, ← (hvalues i hi' hi).2]
  exact hcells i hi'

/-- A short line or the end of the text ends the loop. -/
theorem foldRows_of_endsTable {rest : List (List Char)} (h : EndsTable rest) (env : LoadEnv F)
    (rows : RowArrays F) : foldRows env rest rows = rows := by
  cases rest with
  | nil => rfl
  | cons line lines => rw [foldRows, if_pos (h line rfl)]

/-! ## Loading -/

/-- A table is loaded, from cells that were stored, all of them inside the arrays. -/
theorem loadCorrectionFile_of_isTable (env : LoadEnv F) (tables : CalibrationTables F)
    {content : List Char} {rows : List (Rat × Rat)} (h : IsTable content rows) :
    let loaded := loadCorrectionFile env tables content
    Holds env loaded.tables rows ∧ loaded.stored = List.range rows.length ∧
      loaded.copied = List.range rows.length := by
  obtain ⟨header, lines, rest, hlines, hrows, hend, -, -⟩ := h
  obtain ⟨happend, hcounter, hstored, hcells⟩ :=
    foldRows_of_rows env hrows ⟨0, env.elevAngle, env.azimuthOffset, []⟩ rfl
  simp only [Nat.zero_add, List.nil_append] at hcounter hstored hcells
  rw [loadCorrectionFile_eq, hlines, List.tail_cons, happend, foldRows_of_endsTable hend]
  simp only [hstored, hcounter]
  refine ⟨⟨hcounter, fun i hi => ?_⟩, List.range_eq_range'.symm, trivial⟩
  obtain ⟨helev, hazimuth⟩ := hcells i hi
  simp only [copyRows, hcounter, hi, ↓reduceIte, helev, hazimuth, and_self]

/-- A text whose second row has the number `3`. -/
def misnumberedText : List Char := "Laser id,Elevation,Azimuth\n1,8,0.5\n3,6,0.5\n".toList

end Hesai
