import Mathlib
import Switchboard.Outcome.Table
import Switchboard.Proofs.Trimming

/-!
# Where the cells of a table stand

The rows of a table may differ in length, and its lines lose the blanks at their ends. Still every
cell stands where its column begins, in every row. `Table.widest` and `Table.offset` say where that
is without a look at how tables are set, and `Table.Placed` says what it means for a line that its
cells stand there.

Two loops lead there. The widths come from one over the rows (`columnWidths_eq`), the places in a
line from one over its cells: what stands from the beginning of a column on is the cell, spaces up
to its width, and the rest of the row (`drop_untrimmed`). Trimming then only takes blanks off the
end.

Columns are also numbers, by which widths are looked up and written. `alignedByNumber?` sets a table
in that way and fails where a number has no column; it never does.

Widths are natural numbers here, and a cell is padded to any of them. A formatter may have a
greatest width that it pads to; no such limit is modelled, and what is shown holds for tables below
it.
-/

namespace Switchboard.Table

/-! ## Columns -/

/-- The number of columns. -/
def columns (rows : List (List String)) : Nat := (rows.map List.length).foldr max 0

/-- The largest number of characters in a column. -/
def widest (rows : List (List String)) (j : Nat) : Nat :=
  (rows.map fun row => (row[j]?.map String.length).getD 0).foldr max 0

/-- Where a column begins. -/
def offset (rows : List (List String)) (i : Nat) : Nat :=
  ((List.range i).map fun j => widest rows j + 2).sum

theorem offset_succ (rows : List (List String)) (i : Nat) :
    offset rows (i + 1) = offset rows i + (widest rows i + 2) := by
  unfold offset
  rw [List.range_succ, List.map_append, List.sum_append, List.map_singleton, List.sum_singleton]

theorem length_widen (a b : List Nat) : (widen a b).length = max a.length b.length := by
  fun_induction widen a b with
  | case1 b => simp
  | case2 a h => simp
  | case3 w a w' b ih => simp [ih]

theorem getD_widen (a b : List Nat) (j : Nat) :
    (widen a b)[j]?.getD 0 = max (a[j]?.getD 0) (b[j]?.getD 0) := by
  fun_induction widen a b generalizing j with
  | case1 b => simp
  | case2 a h => simp
  | case3 w a w' b ih => cases j <;> simp [ih]

/-- **The widths after some rows**, from widths that there were before. -/
theorem foldl_widen (rows : List (List String)) (widths : List Nat) :
    rows.foldl (fun widths row => widen widths (row.map String.length)) widths
      = (List.range (max widths.length (columns rows))).map fun j =>
          max (widths[j]?.getD 0) (widest rows j) := by
  induction rows generalizing widths with
  | nil =>
    refine List.ext_getElem (by simp [columns]) fun j hj _ => ?_
    simp only [List.foldl_nil] at hj ⊢
    simp [widest, hj]
  | cons row rows ih =>
    rw [List.foldl_cons, ih, length_widen, List.length_map, columns, columns, List.map_cons,
      List.foldr_cons, Nat.max_assoc]
    refine List.map_congr_left fun j _ => ?_
    rw [getD_widen, widest, widest, List.map_cons, List.foldr_cons, List.getElem?_map,
      Nat.max_assoc]

theorem columnWidths_eq (rows : List (List String)) :
    columnWidths rows = (List.range (columns rows)).map (widest rows) := by
  unfold columnWidths
  rw [foldl_widen]
  simp

theorem le_foldr_max {l : List Nat} {n : Nat} (h : n ∈ l) : n ≤ l.foldr max 0 := by
  induction l with
  | nil => cases h
  | cons m l ih =>
    rw [List.foldr_cons]
    rcases List.mem_cons.1 h with rfl | h
    · exact Nat.le_max_left _ _
    · exact (ih h).trans (Nat.le_max_right _ _)

theorem length_le_columns {rows : List (List String)} {row : List String} (h : row ∈ rows) :
    row.length ≤ columns rows :=
  le_foldr_max (List.mem_map_of_mem h)

theorem length_le_widest {rows : List (List String)} {row : List String} (h : row ∈ rows)
    {j : Nat} {cell : String} (hcell : row[j]? = some cell) : cell.length ≤ widest rows j := by
  refine le_foldr_max (List.mem_map.2 ⟨row, h, ?_⟩)
  rw [hcell]
  rfl

/-- The cells of a row stand in the text of a line where their columns begin. -/
structure Placed (rows : List (List String)) (row : List String) (text : List Char) : Prop where
  /-- A line does not end in a blank. -/
  trimmed : ∀ c ∈ text.getLast?, Text.isBlank c = false
  /-- A character of a cell stands in its column, unless only blanks come in the row from there on;
  then the line has ended. -/
  cells : ∀ (i : Nat) (cell : String) (k : Nat) (c : Char), row[i]? = some cell →
    cell.toList[k]? = some c →
    text[offset rows i + k]?
      = if (((row.drop i).flatMap String.toList).drop k).all Text.isBlank then none else some c
  /-- With spaces behind the line, there are only spaces from the end of a cell to the next column,
  and from the end of the last cell on. -/
  spaces : ∀ (i : Nat) (cell : String) (p : Nat), row[i]? = some cell →
    offset rows i + cell.length ≤ p → (i + 1 < row.length → p < offset rows (i + 1)) →
    text[p]?.getD ' ' = ' '
  /-- Without cells there is nothing. -/
  empty : row = [] → text = []

/-! ## A line before trimming -/

/-- A row set in columns, with all its blanks. -/
def untrimmed (widths : List Nat) (row : List String) : List Char :=
  Text.joinWith [' ', ' '] (List.zipWith (fun w cell => pad w cell.toList) widths row)

theorem line_eq (widths : List Nat) (row : List String) :
    line widths row = Text.trimEnd (untrimmed widths row) := rfl

/-- A row has its columns, each wide enough for its cell. -/
inductive Fits : List Nat → List String → Prop where
  | nil {widths : List Nat} : Fits widths []
  | cons {w : Nat} {widths : List Nat} {cell : String} {row : List String} :
      cell.length ≤ w → Fits widths row → Fits (w :: widths) (cell :: row)

theorem fits_of_widths {widths : List Nat} {row : List String}
    (h : ∀ (j : Nat) (cell : String), row[j]? = some cell →
      ∃ w, widths[j]? = some w ∧ cell.length ≤ w) : Fits widths row := by
  induction row generalizing widths with
  | nil => exact .nil
  | cons cell row ih =>
    obtain ⟨w, hw, hcell⟩ := h 0 cell rfl
    cases widths with
    | nil => cases hw
    | cons w' widths =>
      cases hw
      exact .cons hcell (ih fun j cell' h' => h (j + 1) cell' h')

/-- The rows of a table fit its columns. -/
theorem fits_columnWidths {rows : List (List String)} {row : List String} (h : row ∈ rows) :
    Fits (columnWidths rows) row := by
  refine fits_of_widths fun j cell hcell => ⟨widest rows j, ?_, length_le_widest h hcell⟩
  have hj : j < columns rows :=
    (List.getElem?_eq_some_iff.1 hcell).1.trans_le (length_le_columns h)
  rw [columnWidths_eq, List.getElem?_map, List.getElem?_range hj]
  rfl

theorem length_pad {w : Nat} {cell : String} (h : cell.length ≤ w) :
    (pad w cell.toList).length = w := by
  rw [pad, List.length_append, List.length_replicate, String.length_toList]
  omega

/-- A padded cell is blank if the cell is. -/
theorem all_isBlank_pad (w : Nat) (cell : List Char) :
    (pad w cell).all Text.isBlank = cell.all Text.isBlank := by
  have hspaces : (List.replicate (w - cell.length) ' ').all Text.isBlank = true :=
    List.all_eq_true.2 fun c hc => by rw [List.eq_of_mem_replicate hc]; rfl
  rw [pad, List.all_append, hspaces, Bool.and_true]

/-- Behind a cell there are only spaces up to its width. -/
theorem getElem?_pad {w q : Nat} {cell : List Char} (hq : cell.length ≤ q) (hw : q < w) :
    (pad w cell)[q]? = some ' ' := by
  rw [pad, List.getElem?_append_right hq, List.getElem?_replicate_of_lt (by omega)]

/-- What stands behind a cell: nothing, or the rest of the row behind a gap. -/
def behind (widths : List Nat) (row : List String) : List Char :=
  if row = [] then [] else ' ' :: ' ' :: untrimmed widths row

theorem untrimmed_cons {widths : List Nat} {row : List String} (h : Fits widths row) (w : Nat)
    (cell : String) :
    untrimmed (w :: widths) (cell :: row) = pad w cell.toList ++ behind widths row := by
  cases h with
  | nil => simp [untrimmed, behind, Text.joinWith]
  | cons hcell h => simp [untrimmed, behind, Text.joinWith]

/-- The gap to the next cell, or nothing. -/
theorem getD_behind {widths : List Nat} {row : List String} {q : Nat} (h : row ≠ [] → q < 2) :
    (behind widths row)[q]?.getD ' ' = ' ' := by
  unfold behind
  split
  · rfl
  · rename_i hrow
    match q, h hrow with
    | 0, _ => rfl
    | 1, _ => rfl

theorem all_isBlank_behind (widths : List Nat) (row : List String) :
    (behind widths row).all Text.isBlank = (untrimmed widths row).all Text.isBlank := by
  unfold behind
  split
  · rename_i hrow
    rw [hrow, untrimmed, List.zipWith_nil_right]
    rfl
  · rfl

/-- A row is blank before trimming if all its cells are. -/
theorem all_isBlank_untrimmed {widths : List Nat} {row : List String} (h : Fits widths row) :
    (untrimmed widths row).all Text.isBlank = row.all fun cell => cell.toList.all Text.isBlank := by
  induction h with
  | nil => simp [untrimmed, Text.joinWith]
  | cons hcell h ih =>
    rw [untrimmed_cons h, List.all_append, all_isBlank_pad, all_isBlank_behind, ih, List.all_cons]

theorem Fits.drop {widths : List Nat} {row : List String} (h : Fits widths row) (i : Nat) :
    Fits (widths.drop i) (row.drop i) := by
  induction h generalizing i with
  | nil => simpa using Fits.nil
  | cons hcell h ih =>
    cases i with
    | zero => exact .cons hcell h
    | succ i => exact ih i

/-- Where a column begins, by the widths. -/
def offsetOf (widths : List Nat) (i : Nat) : Nat := ((widths.take i).map (· + 2)).sum

theorem offsetOf_columnWidths {rows : List (List String)} {i : Nat} (h : i ≤ columns rows) :
    offsetOf (columnWidths rows) i = offset rows i := by
  rw [offsetOf, columnWidths_eq, ← List.map_take, List.take_range, Nat.min_eq_left h, List.map_map]
  rfl

/-- **What stands from the beginning of a column on**: the cell, spaces up to its width, and the
rest of the row. -/
theorem drop_untrimmed {widths : List Nat} {row : List String} (h : Fits widths row) {i w : Nat}
    {cell : String} (hcell : row[i]? = some cell) (hw : widths[i]? = some w) :
    (untrimmed widths row).drop (offsetOf widths i)
      = pad w cell.toList ++ behind (widths.drop (i + 1)) (row.drop (i + 1)) := by
  induction h generalizing i with
  | nil => cases hcell
  | @cons w' widths cell' row hfits h ih =>
    rw [untrimmed_cons h]
    cases i with
    | zero =>
      cases hcell
      cases hw
      rfl
    | succ i =>
      -- the first cell and the gap behind it are as wide as its column and two
      have hrow : row ≠ [] := by
        rintro rfl
        cases hcell
      have hoffset : offsetOf (w' :: widths) (i + 1)
          = (pad w' cell'.toList).length + (offsetOf widths i + 2) := by
        rw [length_pad hfits]
        simp only [offsetOf, List.take_succ_cons, List.map_cons, List.sum_cons]
        omega
      rw [hoffset, List.drop_append, List.drop_eq_nil_of_le (Nat.le_add_right _ _),
        List.nil_append, Nat.add_sub_cancel_left, behind, if_neg hrow]
      exact ih hcell hw

/-- What stands in a row of a table from a column on. -/
theorem drop_offset {rows : List (List String)} {row : List String} (h : row ∈ rows) {i : Nat}
    {cell : String} (hcell : row[i]? = some cell) :
    (untrimmed (columnWidths rows) row).drop (offset rows i)
      = pad (widest rows i) cell.toList
        ++ behind ((columnWidths rows).drop (i + 1)) (row.drop (i + 1)) := by
  have hi : i < columns rows := (List.getElem?_eq_some_iff.1 hcell).1.trans_le (length_le_columns h)
  have hw : (columnWidths rows)[i]? = some (widest rows i) := by
    rw [columnWidths_eq, List.getElem?_map, List.getElem?_range hi]
    rfl
  rw [← offsetOf_columnWidths hi.le]
  exact drop_untrimmed (fits_columnWidths h) hcell hw

/-- From a character of a cell on a line is blank before trimming if the row is. -/
theorem all_isBlank_drop {rows : List (List String)} {row : List String} (h : row ∈ rows)
    {i k : Nat} {cell : String} (hcell : row[i]? = some cell) (hk : k ≤ cell.toList.length) :
    ((untrimmed (columnWidths rows) row).drop (offset rows i + k)).all Text.isBlank
      = (((row.drop i).flatMap String.toList).drop k).all Text.isBlank := by
  obtain ⟨hi, rfl⟩ := List.getElem?_eq_some_iff.1 hcell
  have hpad : (pad (widest rows i) row[i].toList).drop k
      = pad (widest rows i - k) (row[i].toList.drop k) := by
    rw [pad, pad, List.drop_append_of_le_length hk, List.length_drop]
    congr 2
    omega
  have hspaces : k ≤ (pad (widest rows i) row[i].toList).length := by
    rw [pad, List.length_append]
    omega
  rw [← List.drop_drop, drop_offset h hcell, List.drop_append_of_le_length hspaces, hpad,
    List.all_append, all_isBlank_pad, all_isBlank_behind,
    all_isBlank_untrimmed ((fits_columnWidths h).drop (i + 1)), List.drop_eq_getElem_cons hi,
    List.flatMap_cons, List.drop_append_of_le_length hk, List.all_append, List.all_flatMap]

/-- **The cells of every row stand where their columns begin.** -/
theorem placed_line {rows : List (List String)} {row : List String} (h : row ∈ rows) :
    Placed rows row (line (columnWidths rows) row) where
  trimmed c hc := Text.isBlank_getLast?_trimEnd hc
  cells i cell k c hcell hc := by
    have hk := (List.getElem?_eq_some_iff.1 hc).1
    have hchar : (untrimmed (columnWidths rows) row)[offset rows i + k]? = some c := by
      rw [← List.getElem?_drop, drop_offset h hcell, pad, List.append_assoc,
        List.getElem?_append_left hk, hc]
    rw [line_eq, Text.getElem?_trimEnd hchar, all_isBlank_drop h hcell hk.le]
  spaces i cell p hcell hp hnext := by
    rw [line_eq]
    refine Text.getD_trimEnd ?_
    obtain ⟨q, rfl⟩ := Nat.exists_eq_add_of_le ((Nat.le_add_right _ _).trans hp)
    have hlength := length_pad (length_le_widest h hcell)
    have hcellLength : cell.toList.length ≤ q := by
      rw [String.length_toList]
      omega
    rw [← List.getElem?_drop, drop_offset h hcell]
    by_cases hq : q < widest rows i
    · rw [List.getElem?_append_left (by omega), getElem?_pad hcellLength hq]
      rfl
    · rw [List.getElem?_append_right (by omega), hlength]
      refine getD_behind fun hrest => ?_
      rw [Ne, List.drop_eq_nil_iff, Nat.not_le] at hrest
      have hgap := hnext hrest
      rw [offset_succ] at hgap
      omega
  empty hrow := by
    rw [hrow, line_eq, untrimmed, List.zipWith_nil_right]
    rfl

/-! ## Columns by number -/

/-- Writes the widths of the cells of a row, each under the number of its column. -/
def widenByNumber? (widths : List Nat) (row : List (String × Nat)) : Option (List Nat) :=
  row.foldlM (fun widths cell =>
    widths[cell.2]?.map fun w => widths.set cell.2 (max w cell.1.length)) widths

/-- Sets a row, with the width of each cell looked up under the number of its column. -/
def padByNumber? (widths : List Nat) (row : List (String × Nat)) : Option (List (List Char)) :=
  row.mapM fun cell => widths[cell.2]?.map fun w => pad w cell.1.toList

/-- Sets a table with columns that are numbers. It fails where a number has no column. -/
def alignedByNumber? (rows : List (List String)) : Option String := do
  let widths ← rows.foldlM (fun widths row => widenByNumber? widths row.zipIdx)
    (List.replicate (columns rows) 0)
  let lines ← rows.mapM fun row =>
    (padByNumber? widths row.zipIdx).map fun cells =>
      Text.trimEnd (Text.joinWith [' ', ' '] cells)
  return String.ofList (Text.joinWith ['\n'] lines)

/-- Numbers that begin behind some columns find the columns behind these. -/
theorem widenByNumber?_eq {widths : List Nat} {row : List String}
    (h : row.length ≤ widths.length) (front : List Nat) :
    widenByNumber? (front ++ widths) (row.zipIdx front.length)
      = some (front ++ widen widths (row.map String.length)) := by
  induction row generalizing front widths with
  | nil => cases widths <;> rfl
  | cons cell row ih =>
    cases widths with
    | nil => exact absurd h (by simp)
    | cons w widths =>
      have hlookup : (front ++ w :: widths)[front.length]? = some w := by simp
      have hset : (front ++ w :: widths).set front.length (max w cell.length)
          = (front ++ [max w cell.length]) ++ widths := by simp
      have htail : row.length ≤ widths.length := by simpa using h
      have hstep := ih htail (front ++ [max w cell.length])
      rw [List.length_append, List.length_singleton] at hstep
      rw [widenByNumber?, List.zipIdx_cons, List.foldlM_cons, hlookup, Option.map_some, hset]
      refine hstep.trans ?_
      rw [List.map_cons, widen, List.append_assoc]
      rfl

theorem padByNumber?_eq {widths : List Nat} {row : List String}
    (h : row.length ≤ widths.length) (front : List Nat) :
    padByNumber? (front ++ widths) (row.zipIdx front.length)
      = some (List.zipWith (fun w cell => pad w cell.toList) widths row) := by
  induction row generalizing front widths with
  | nil => simp [padByNumber?]
  | cons cell row ih =>
    cases widths with
    | nil => exact absurd h (by simp)
    | cons w widths =>
      have hlookup : (front ++ w :: widths)[front.length]? = some w := by simp
      have htail : row.length ≤ widths.length := by simpa using h
      have hstep := ih htail (front ++ [w])
      rw [List.length_append, List.length_singleton, List.append_assoc, List.singleton_append,
        padByNumber?] at hstep
      rw [padByNumber?, List.zipIdx_cons, List.mapM_cons, hlookup, hstep]
      rfl

theorem foldlM_widenByNumber? {rows : List (List String)} {widths : List Nat}
    (h : columns rows ≤ widths.length) :
    rows.foldlM (fun widths row => widenByNumber? widths row.zipIdx) widths
      = some (rows.foldl (fun widths row => widen widths (row.map String.length)) widths) := by
  induction rows generalizing widths with
  | nil => rfl
  | cons row rows ih =>
    rw [columns, List.map_cons, List.foldr_cons] at h
    have hrow : row.length ≤ widths.length := (Nat.le_max_left _ _).trans h
    have hrows : columns rows ≤ (widen widths (row.map String.length)).length := by
      rw [length_widen]
      exact ((Nat.le_max_right _ _).trans h).trans (Nat.le_max_left _ _)
    have hstep := widenByNumber?_eq hrow []
    rw [List.nil_append, List.length_nil, List.nil_append] at hstep
    rw [List.foldlM_cons, hstep, List.foldl_cons]
    exact ih hrows

theorem mapM_padByNumber? {rows : List (List String)} {widths : List Nat}
    (h : columns rows ≤ widths.length) :
    (rows.mapM fun row => (padByNumber? widths row.zipIdx).map fun cells =>
        Text.trimEnd (Text.joinWith [' ', ' '] cells))
      = some (rows.map (line widths)) := by
  induction rows with
  | nil => rfl
  | cons row rows ih =>
    rw [columns, List.map_cons, List.foldr_cons] at h
    have hrow := padByNumber?_eq ((Nat.le_max_left _ _).trans h) []
    rw [List.nil_append, List.length_nil] at hrow
    rw [List.mapM_cons, hrow, ih ((Nat.le_max_right _ _).trans h)]
    rfl

/-- **No number is without a column**: a table set by numbers is the table. -/
theorem alignedByNumber?_eq (rows : List (List String)) :
    alignedByNumber? rows = some (aligned rows) := by
  have hzero : (List.replicate (columns rows) 0).length = columns rows := List.length_replicate
  have hwidths : rows.foldlM (fun widths row => widenByNumber? widths row.zipIdx)
      (List.replicate (columns rows) 0) = some (columnWidths rows) := by
    rw [foldlM_widenByNumber? hzero.ge, foldl_widen, hzero, Nat.max_self, columnWidths_eq]
    refine congrArg some (List.map_congr_left fun j hj => ?_)
    rw [List.getElem?_replicate_of_lt (List.mem_range.1 hj), Option.getD_some, Nat.zero_max]
  have hlength : (columnWidths rows).length = columns rows := by
    rw [columnWidths_eq, List.length_map, List.length_range]
  rw [alignedByNumber?, hwidths, Option.bind_eq_bind, Option.bind_some,
    mapM_padByNumber? hlength.ge]
  rfl

/-! ## Tables -/

/-- Setting a row brings no characters along but spaces. -/
theorem mem_line {widths : List Nat} {row : List String} {c : Char} (h : c ∈ line widths row) :
    c = ' ' ∨ ∃ cell ∈ row, c ∈ cell.toList := by
  obtain ⟨blanks, hline, -⟩ := Text.exists_trimEnd_append (untrimmed widths row)
  have hmem : c ∈ untrimmed widths row := by
    rw [hline]
    exact List.mem_append_left _ h
  rcases Text.mem_joinWith hmem with hgap | ⟨part, hpart, hc⟩
  · exact Or.inl (by simpa using hgap)
  · rw [← List.map_uncurry_zip_eq_zipWith] at hpart
    obtain ⟨⟨w, cell⟩, hzip, rfl⟩ := List.mem_map.1 hpart
    rcases List.mem_append.1 hc with hcell | hspace
    · exact Or.inr ⟨cell, (List.of_mem_zip hzip).2, hcell⟩
    · exact Or.inl (List.eq_of_mem_replicate hspace)

/--
**The columns of a table line up.**

A table whose cells have no line feeds is set in one line a row, and in the line of every row the
cells stand where their columns begin. No cell is without a column.
-/
theorem aligned_placed {rows : List (List String)} (hrows : rows ≠ [])
    (hcells : ∀ row ∈ rows, ∀ cell ∈ row, '\n' ∉ cell.toList) :
    List.Forall₂ (Placed rows) rows (Text.splitOn '\n' (aligned rows).toList)
      ∧ alignedByNumber? rows = some (aligned rows) := by
  have hlines : ∀ l ∈ rows.map (line (columnWidths rows)), '\n' ∉ l := by
    intro l hl hfeed
    obtain ⟨row, hrow, rfl⟩ := List.mem_map.1 hl
    rcases mem_line hfeed with hspace | ⟨cell, hcell, hc⟩
    · exact absurd hspace (by decide)
    · exact hcells row hrow cell hcell hc
  rw [aligned, String.toList_ofList,
    Text.splitOn_joinWith (List.map_eq_nil_iff.not.2 hrows) hlines, List.forall₂_map_right_iff,
    List.forall₂_same]
  exact ⟨fun row hrow => placed_line hrow, alignedByNumber?_eq rows⟩

/-- A table with a short row, a row without cells, a blank cell at the end of a row, and letters
that take more than one byte. -/
theorem aligned_placed_ragged :
    let rows := [["Straße", "é", "\u3000"], ["", "x"], []]
    (rows ≠ [] ∧ ∀ row ∈ rows, ∀ cell ∈ row, '\n' ∉ cell.toList)
      ∧ List.Forall₂ (Placed rows) rows ["Straße  é".toList, "        x".toList, []] := by
  intro rows
  have hcells : ∀ row ∈ rows, ∀ cell ∈ row, '\n' ∉ cell.toList := by decide +kernel
  have hlines : Text.splitOn '\n' (aligned rows).toList
      = ["Straße  é".toList, "        x".toList, []] := by decide +kernel
  have hplaced := (aligned_placed (List.cons_ne_nil _ _) hcells).1
  rw [hlines] at hplaced
  exact ⟨⟨List.cons_ne_nil _ _, hcells⟩, hplaced⟩

end Switchboard.Table
