import Mathlib.Data.List.TakeWhile

/-!
# Reading a text line by line

`std::getline` on a string stream, with the two facts about it that matter to a caller:
when the stream has reached its end, a call fails and leaves the string as it is; and
the calls with `'\n'` go through the lines of the text (`getline_line`).

## Key results

- `getline_append`, `getline_last`: what a call reads
- `getline_line`, `getline_end`: the calls go through the lines of the text
-/

/-- What is left of the text, and whether the end has been reached by a read. -/
structure IStringStream where
  rest : List Char
  good : Bool

namespace IStringStream

/-- `std::getline(ss, str, delim)`: the return value as a condition, `str`, and the
    stream. -/
def getline (ss : IStringStream) (delim : Char) (str : List Char) :
    Bool × List Char × IStringStream :=
  if ss.good then
    let line := ss.rest.takeWhile (· != delim)
    match ss.rest.dropWhile (· != delim) with
    | _ :: rest => (true, line, ⟨rest, true⟩)
    -- to reach the end is a failure only if nothing was read
    | [] => (!line.isEmpty, line, ⟨[], false⟩)
  else (false, str, ss)

variable {ss ss' : IStringStream} {delim : Char} {str line rest : List Char}

theorem bne_of_not_mem (hline : delim ∉ line) : ∀ c ∈ line, (c != delim) = true := by
  intro c hc
  rw [bne_iff_ne]
  rintro rfl
  exact hline hc

/-- Up to the delimiter. -/
theorem getline_append (hline : delim ∉ line) :
    getline ⟨line ++ delim :: rest, true⟩ delim str = (true, line, ⟨rest, true⟩) := by
  have hall := bne_of_not_mem hline
  simp [getline, List.takeWhile_append_of_pos hall, List.dropWhile_append_of_pos hall]

/-- Without a delimiter, up to the end. -/
theorem getline_last (hline : delim ∉ line) :
    getline ⟨line, true⟩ delim str = (!line.isEmpty, line, ⟨[], false⟩) := by
  have hall := bne_of_not_mem hline
  simp only [getline, ↓reduceIte, List.takeWhile_eq_self_iff.mpr hall,
    List.dropWhile_eq_nil_iff.mpr hall]

/-- A call that succeeds makes progress. -/
theorem rest_lt_of_getline (h : ss.getline delim str = (true, line, ss')) :
    ss'.rest.length < ss.rest.length := by
  obtain ⟨text, good⟩ := ss
  cases good with
  | false => simp [getline] at h
  | true =>
    simp only [getline, ↓reduceIte] at h
    have hlength := congrArg List.length
      (List.takeWhile_append_dropWhile (p := (· != delim)) (l := text))
    rw [List.length_append] at hlength
    cases hdrop : text.dropWhile (· != delim) with
    | cons c rest =>
      rw [hdrop] at h hlength
      obtain ⟨-, -, rfl⟩ := by simpa using h
      simp only [List.length_cons] at hlength ⊢
      omega
    | nil =>
      rw [hdrop] at h hlength
      obtain ⟨hne, rfl, rfl⟩ := by simpa only [Prod.mk.injEq] using h
      have hpos : 0 < (text.takeWhile (· != delim)).length := by
        rw [List.length_pos_iff]
        simpa using hne
      simp only [List.length_nil] at hlength ⊢
      omega

/-! ## Lines -/

/-- The lines of a text. A newline at the end does not start another line. -/
def linesOf : List Char → List (List Char)
  | [] => []
  | c :: text =>
    if c = '\n' then [] :: linesOf text
    else match linesOf text with
      | [] => [[c]]
      | line :: lines => (c :: line) :: lines

/-- The lines that are still to be read. -/
def lines (ss : IStringStream) : List (List Char) := if ss.good then linesOf ss.rest else []

theorem linesOf_append (hline : '\n' ∉ line) :
    linesOf (line ++ '\n' :: rest) = line :: linesOf rest := by
  induction line with
  | nil => simp [linesOf]
  | cons c line ih =>
    rw [List.mem_cons, not_or] at hline
    rw [List.cons_append, linesOf, if_neg (Ne.symm hline.1), ih hline.2]

theorem linesOf_last (hline : '\n' ∉ line) (hne : line ≠ []) : linesOf line = [line] := by
  induction line with
  | nil => exact absurd rfl hne
  | cons c line ih =>
    rw [List.mem_cons, not_or] at hline
    rw [linesOf, if_neg (Ne.symm hline.1)]
    cases line with
    | nil => rfl
    | cons d line => rw [ih hline.2 (List.cons_ne_nil d line)]

/-- Lines that are written one after the other are the lines of the text. -/
theorem linesOf_flatMap {lines : List (List Char)} (hlines : ∀ line ∈ lines, '\n' ∉ line)
    (rest : List Char) :
    linesOf (lines.flatMap (· ++ ['\n']) ++ rest) = lines ++ linesOf rest := by
  induction lines with
  | nil => rfl
  | cons line lines ih =>
    rw [List.flatMap_cons, List.append_assoc, List.append_assoc, List.singleton_append,
      linesOf_append (hlines line List.mem_cons_self),
      ih fun line hline => hlines line (List.mem_cons_of_mem _ hline), List.cons_append]

/-- A text is empty, a last line, or a line and the text after it. -/
theorem text_cases (text : List Char) :
    text = [] ∨ ('\n' ∉ text ∧ text ≠ []) ∨
      ∃ line rest, '\n' ∉ line ∧ text = line ++ '\n' :: rest := by
  by_cases hmem : '\n' ∈ text
  · obtain ⟨line, rest, htext, hline⟩ := List.eq_append_cons_of_mem hmem
    exact Or.inr (Or.inr ⟨line, rest, hline, htext⟩)
  · by_cases hnil : text = []
    · exact Or.inl hnil
    · exact Or.inr (Or.inl ⟨hmem, hnil⟩)

/-- The length of such a text. -/
theorem length_flatMap_le {lines : List (List Char)} {bound : Nat}
    (hlines : ∀ line ∈ lines, (line ++ ['\n']).length ≤ bound) :
    (lines.flatMap (· ++ ['\n'])).length ≤ lines.length * bound := by
  induction lines with
  | nil => exact Nat.zero_le _
  | cons line lines ih =>
    have hline := hlines line List.mem_cons_self
    have hrest := ih fun line hline => hlines line (List.mem_cons_of_mem _ hline)
    rw [List.flatMap_cons, List.length_append, List.length_cons, Nat.succ_mul]
    omega

/-- The first line. -/
theorem head?_linesOf {text : List Char} (hne : text ≠ []) :
    (linesOf text).head? = some (text.takeWhile (· != '\n')) := by
  rcases text_cases text with rfl | ⟨hline, hne⟩ | ⟨line, rest, hline, rfl⟩
  · exact absurd rfl hne
  · rw [linesOf_last hline hne, List.takeWhile_eq_self_iff.mpr (bne_of_not_mem hline)]
    rfl
  · rw [linesOf_append hline, List.takeWhile_append_of_pos (bne_of_not_mem hline)]
    simp

/-- Without a line to read, the call fails. -/
theorem getline_end (h : ss.lines = []) (str : List Char) :
    (ss.getline '\n' str).1 = false := by
  obtain ⟨text, good⟩ := ss
  cases good with
  | false => rfl
  | true =>
    rcases text_cases text with rfl | ⟨hline, hne⟩ | ⟨line, rest, hline, rfl⟩
    · rfl
    · simp [lines, linesOf_last hline hne] at h
    · simp [lines, linesOf_append hline] at h

/-- A call reads the next line. -/
theorem getline_line {lines : List (List Char)} (h : ss.lines = line :: lines)
    (str : List Char) :
    ∃ ss', ss.getline '\n' str = (true, line, ss') ∧ ss'.lines = lines := by
  obtain ⟨text, good⟩ := ss
  cases good with
  | false => simp [IStringStream.lines] at h
  | true =>
    simp only [IStringStream.lines, ↓reduceIte] at h
    rcases text_cases text with rfl | ⟨hline, hne⟩ | ⟨first, rest, hline, rfl⟩
    · simp [linesOf] at h
    · rw [linesOf_last hline hne] at h
      obtain ⟨rfl, rfl⟩ := List.cons.inj h
      refine ⟨⟨[], false⟩, ?_, rfl⟩
      rw [getline_last hline]
      simp [hne]
    · rw [linesOf_append hline] at h
      obtain ⟨rfl, rfl⟩ := List.cons.inj h
      exact ⟨⟨rest, true⟩, getline_append hline, rfl⟩

/-- A call leaves the lines after the first, also if there was none. -/
theorem lines_getline (ss : IStringStream) (str : List Char) :
    (ss.getline '\n' str).2.2.lines = ss.lines.tail := by
  cases hlines : ss.lines with
  | nil =>
    obtain ⟨text, good⟩ := ss
    cases good with
    | false => rfl
    | true =>
      rcases text_cases text with rfl | ⟨hline, hne⟩ | ⟨line, rest, hline, rfl⟩
      · rfl
      · simp [lines, linesOf_last hline hne] at hlines
      · simp [lines, linesOf_append hline] at hlines
  | cons line lines =>
    obtain ⟨ss', hread, hlines'⟩ := getline_line hlines str
    rw [hread, hlines', List.tail_cons]

end IStringStream
