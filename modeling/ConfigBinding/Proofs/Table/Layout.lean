import ConfigBinding.Proofs.Text.Pieces
import ConfigBinding.Proofs.Text.Trimming
import ConfigBinding.Table
import Mathlib.Algebra.BigOperators.Group.Finset.Basic
import Mathlib.Order.Bounds.Basic

/-!
# The layout of tables

A column begins where the widths and gaps of those before it end (`offset`), and every place of a
line lies in exactly one column. So a line is told by what stands in each column (`Aligned`): the
cell from the start of the column on, and spaces. Rows may end early, cells may be blank, and what
is written ends where the last ink does; none of it moves a cell, and the columns of a line still
hold the cells of its row (`Laid`, `render_layout`).
-/

set_option autoImplicit false

namespace ConfigBinding.Table

/-! ## Widths -/

section
variable {α : Type} {f : α → Nat} {as : List α}

theorem foldl_max_le_iff {a n : Nat} :
    as.foldl (fun m x => max m (f x)) a ≤ n ↔ a ≤ n ∧ ∀ x ∈ as, f x ≤ n := by
  induction as generalizing a with
  | nil => simp
  | cons x as ih => rw [List.foldl_cons, ih, max_le_iff, List.forall_mem_cons, and_assoc]

theorem foldl_max_eq_or_mem (f : α → Nat) (as : List α) (a : Nat) :
    as.foldl (fun m x => max m (f x)) a = a ∨
      ∃ x ∈ as, f x = as.foldl (fun m x => max m (f x)) a := by
  induction as generalizing a with
  | nil => exact .inl rfl
  | cons x as ih =>
    rw [List.foldl_cons]
    rcases ih (max a (f x)) with h | ⟨y, hy, h⟩
    · rw [h]
      rcases max_choice a (f x) with hmax | hmax
      · exact .inl hmax
      · exact .inr ⟨x, List.mem_cons_self, hmax.symm⟩
    · exact .inr ⟨y, List.mem_cons_of_mem _ hy, h⟩

end

section
variable {rows : List (List String)} {column : Nat}

theorem columnWidth_le_iff {n : Nat} :
    columnWidth rows column ≤ n ↔
      ∀ row ∈ rows, ∀ cell, row[column]? = some cell → cell.length ≤ n := by
  rw [columnWidth, foldl_max_le_iff, and_iff_right (Nat.zero_le n)]
  refine forall₂_congr fun row _ => ?_
  cases row[column]? <;> simp

/-- The width of a column is the greatest length of its cells, or zero if it has none. -/
theorem columnWidth_isGreatest :
    IsGreatest {n | n = 0 ∨ ∃ row ∈ rows, ∃ cell, row[column]? = some cell ∧ cell.length = n}
      (columnWidth rows column) := by
  refine ⟨?_, ?_⟩
  · rcases foldl_max_eq_or_mem (fun row : List String => (row[column]?).elim 0 String.length) rows 0
      with h | ⟨row, hrow, h⟩
    · exact .inl h
    · cases hcell : row[column]? with
      | none => exact .inl (by rw [columnWidth, ← h, hcell]; rfl)
      | some cell => exact .inr ⟨row, hrow, cell, hcell, by rw [columnWidth, ← h, hcell]; rfl⟩
  · rintro n (rfl | ⟨row, hrow, cell, hcell, rfl⟩)
    · exact Nat.zero_le _
    · exact columnWidth_le_iff.mp le_rfl row hrow cell hcell

/-- The widths that are counted up to the longest row are those of all columns. -/
theorem getD_widths :
    ((List.range ((rows.map List.length).foldl max 0)).map (columnWidth rows)).getD column 0 =
      columnWidth rows column := by
  rw [List.foldl_map]
  generalize hlongest : rows.foldl (fun m row => max m row.length) 0 = longest
  by_cases hcolumn : column < longest
  · simp [List.getD, hcolumn]
  · have hlengths := (foldl_max_le_iff.mp hlongest.le).2
    have hzero : columnWidth rows column ≤ 0 := by
      refine columnWidth_le_iff.mpr fun row hrow cell hcell => ?_
      have hlt := (List.getElem?_eq_some_iff.mp hcell).1
      have hle := hlengths row hrow
      omega
    simp [List.getD, hcolumn, Nat.le_zero.mp hzero]

end

theorem render_eq (header : List String) (rows : List (List String)) :
    render header rows =
      String.join
        (((header :: rows).map (line (columnWidth (header :: rows)))).map (· ++ "\n")) := by
  simp only [render, getD_widths, List.map_map, Function.comp_def]

/-! ## Columns -/

/-- Where a column starts. -/
def offset (width : Nat → Nat) (column : Nat) : Nat :=
  ∑ j ∈ Finset.range column, (width j + gap)

section
variable {width : Nat → Nat}

@[simp] theorem offset_zero : offset width 0 = 0 := rfl

theorem offset_succ (i : Nat) : offset width (i + 1) = offset width i + (width i + gap) :=
  Finset.sum_range_succ _ _

theorem offset_succ_shift (i : Nat) :
    offset width (i + 1) = width 0 + gap + offset (fun j => width (j + 1)) i := by
  rw [offset, Finset.sum_range_succ', Nat.add_comm]
  rfl

/-- Every place lies in a column. -/
theorem exists_offset (width : Nat → Nat) (p : Nat) :
    ∃ i k, p = offset width i + k ∧ k < width i + gap := by
  induction p with
  | zero => exact ⟨0, 0, rfl, by simp [gap]⟩
  | succ p ih =>
    obtain ⟨i, k, rfl, hk⟩ := ih
    by_cases hnext : k + 1 < width i + gap
    · exact ⟨i, k + 1, rfl, hnext⟩
    · exact ⟨i + 1, 0, by rw [offset_succ]; omega, by simp [gap]⟩

/-- In each column of a line stands the cell of the row, if it has one there, from the start of the
column on, and all else is spaces. -/
def Aligned (width : Nat → Nat) (row : List String) (cs : List Char) : Prop :=
  ∀ i k, k < width i + gap →
    cs.getD (offset width i + k) ' ' = (row.getD i "").toList.getD k ' '

/-- The cells are no wider than their columns. -/
def Fits (width : Nat → Nat) (row : List String) : Prop :=
  ∀ i cell, row[i]? = some cell → cell.length ≤ width i

theorem padCells_cons_cons (column : Nat) (cell next : String) (rest : List String) :
    padCells width column (cell :: next :: rest) =
      cell.toList ++ List.replicate (width column + gap - cell.length) ' ' ++
        padCells width (column + 1) (next :: rest) := rfl

theorem padCells_succ (column : Nat) (row : List String) :
    padCells width (column + 1) row = padCells (fun j => width (j + 1)) column row := by
  induction row generalizing column with
  | nil => rfl
  | cons cell rest ih =>
    cases rest with
    | nil => rfl
    | cons next rest => rw [padCells_cons_cons, padCells_cons_cons, ih]

theorem Fits.tail {cell : String} {rest : List String} (h : Fits width (cell :: rest)) :
    Fits (fun j => width (j + 1)) rest := fun i other hother => h (i + 1) other hother

/-- The padded cells of a row are aligned, by induction on the row, which shifts the widths. -/
theorem aligned_padCells {row : List String} (h : Fits width row) :
    Aligned width row (padCells width 0 row) := by
  induction row generalizing width with
  | nil =>
    intro i k _
    simp [padCells]
  | cons cell rest ih =>
    have hcell : cell.length ≤ width 0 := h 0 cell rfl
    cases rest with
    | nil =>
      rintro (_ | i) k hk
      · simp [padCells]
      · have hpast : (padCells width 0 [cell]).length ≤ offset width (i + 1) + k := by
          rw [offset_succ_shift, padCells, String.length_toList]
          omega
        rw [List.getD_eq_default _ _ hpast]
        rfl
    | cons next rest =>
      have hpad : (cell.toList ++ List.replicate (width 0 + gap - cell.length) ' ').length =
          width 0 + gap := by
        rw [List.length_append, List.length_replicate, String.length_toList]
        omega
      rw [padCells_cons_cons]
      rintro (_ | i) k hk
      · rw [offset_zero, Nat.zero_add k, List.getD_append _ _ _ _ (hpad.symm ▸ hk),
          Text.getD_append_spaces]
        rfl
      · rw [offset_succ_shift, List.getD_append_right _ _ _ _ (by rw [hpad]; omega), hpad,
          padCells_succ, Nat.add_assoc, Nat.add_sub_cancel_left]
        exact ih h.tail i k hk

/-- What stands in the columns determines a line up to spaces at its end. -/
theorem Aligned.dropBlankEnd_eq {row : List String} {cs ds : List Char} (hcs : Aligned width row cs)
    (hds : Aligned width row ds) : Text.dropBlankEnd cs = Text.dropBlankEnd ds := by
  refine Text.dropBlankEnd_congr fun p => ?_
  obtain ⟨i, k, rfl, hk⟩ := exists_offset width p
  rw [hcs i k hk, hds i k hk]

/-! ## Lines -/

/-- What stands in a column of a line, to the start of the next. -/
def cut (width : Nat → Nat) (column : Nat) (cs : List Char) : List Char :=
  (cs.drop (offset width column)).take (width column + gap)

theorem getD_cut {column k : Nat} (hk : k < width column + gap) (cs : List Char) :
    (cut width column cs).getD k ' ' = cs.getD (offset width column + k) ' ' := by
  rw [cut, List.getD_eq_getElem?_getD, List.getElem?_take_of_lt hk, List.getElem?_drop,
    List.getD_eq_getElem?_getD]

/-- In a column of an aligned line there is the cell, up to spaces after it. -/
theorem Aligned.dropBlankEnd_cut {row : List String} {cs : List Char} (h : Aligned width row cs)
    (hfits : Fits width row) (i : Nat) :
    Text.dropBlankEnd (cut width i cs) = Text.dropBlankEnd (row.getD i "").toList := by
  refine Text.dropBlankEnd_congr fun k => ?_
  rcases Nat.lt_or_ge k (width i + gap) with hk | hk
  · rw [getD_cut hk, h i k hk]
  · have hcell : (row.getD i "").length ≤ width i := by
      cases hcell : row[i]? with
      | none => simp [hcell]
      | some cell => simpa [hcell] using hfits i cell hcell
    rw [List.getD_eq_default _ _ (by simp [cut]; omega),
      List.getD_eq_default _ _ (by rw [String.length_toList]; omega)]

/-- Nothing is lost of a column when the blanks at the end of its line are cut off. -/
theorem dropBlankEnd_cut_dropBlankEnd (i : Nat) (cs : List Char) :
    Text.dropBlankEnd (cut width i (Text.dropBlankEnd cs)) =
      Text.dropBlankEnd (cut width i cs) := by
  obtain ⟨bs, hcs, hblank⟩ := Text.exists_blank_end cs
  rw [eq_comm]
  conv_lhs => rw [hcs]
  rw [cut, List.drop_append, List.take_append, Text.dropBlankEnd_append_of_blank]
  · rfl
  · exact fun c hc => hblank c (List.mem_of_mem_drop (List.mem_of_mem_take hc))

/-- Every ink of an aligned line is that of a cell. -/
theorem Aligned.mem {row : List String} {cs : List Char} (h : Aligned width row cs) {c : Char}
    (hc : c ∈ cs) : c = ' ' ∨ ∃ cell ∈ row, c ∈ cell.toList := by
  obtain ⟨p, hp, rfl⟩ := List.mem_iff_getElem.mp hc
  obtain ⟨i, k, rfl, hk⟩ := exists_offset width p
  have hplace := h i k hk
  rw [List.getD_eq_getElem _ _ hp] at hplace
  rw [hplace]
  rcases Nat.lt_or_ge k (row.getD i "").toList.length with hin | hpast
  · have hcell : row.getD i "" ∈ row := by
      rcases Nat.lt_or_ge i row.length with hi | hi
      · rw [List.getD_eq_getElem _ _ hi]
        exact List.getElem_mem hi
      · rw [List.getD_eq_default _ _ hi] at hin
        exact absurd hin (Nat.not_lt_zero k)
    rw [List.getD_eq_getElem _ _ hin]
    exact .inr ⟨_, hcell, List.getElem_mem hin⟩
  · exact .inl (List.getD_eq_default _ _ hpast)

/-- What is written for a row: the aligned line of its cells without the blanks at the end. The
padding after a cell is four spaces at least, what is not blank of a cell stands at the start of its
column, the line is broken by newlines of its cells only, and each column holds its cell, up to
blanks. -/
structure Laid (width : Nat → Nat) (row : List String) (line : String) : Prop where
  padding : ∀ i cell, row[i]? = some cell →
    cell.length ≤ width i ∧ 4 ≤ width i + gap - cell.length
  aligned : ∃ cs, Aligned width row cs
  trimmed : ∀ cs, Aligned width row cs → line = Text.trimEnd (String.ofList cs)
  ends : ∀ c, line.toList.getLast? = some c → Text.isBlank c = false
  starts : ∀ i cell, row[i]? = some cell →
    (Text.trimEnd cell).toList <+: line.toList.drop (offset width i)
  unbroken : (∀ cell ∈ row, '\n' ∉ cell.toList) → '\n' ∉ line.toList
  cells : ∀ i, Text.trim (String.ofList (cut width i line.toList)) = Text.trim (row.getD i "")

theorem laid_line {row : List String} (hfits : Fits width row) :
    Laid width row (line width row) := by
  have haligned : Aligned width row (padCells width 0 row) := aligned_padCells hfits
  have hline : (line width row).toList = Text.dropBlankEnd (padCells width 0 row) :=
    String.toList_ofList
  have hcut : ∀ i, Text.dropBlankEnd (cut width i (line width row).toList) =
      Text.dropBlankEnd (row.getD i "").toList := by
    intro i
    rw [hline, dropBlankEnd_cut_dropBlankEnd, haligned.dropBlankEnd_cut hfits]
  refine ⟨?padding, ⟨_, haligned⟩, ?trimmed, ?ends, ?starts, ?unbroken, ?cells⟩
  case padding =>
    intro i cell hcell
    have hle := hfits i cell hcell
    exact ⟨hle, by rw [gap]; omega⟩
  case trimmed =>
    intro cs hcs
    rw [line, Text.trimEnd, String.toList_ofList, haligned.dropBlankEnd_eq hcs]
  case ends => exact fun c hc => Text.isBlank_of_getLast?_dropBlankEnd (hline ▸ hc)
  case starts =>
    -- The ink of a cell is what its column is left with, so it begins the column.
    intro i cell hcell
    have hget : row.getD i "" = cell := by
      rw [List.getD_eq_getElem?_getD, hcell]
      rfl
    rw [Text.trimEnd, String.toList_ofList, ← hget, ← hcut]
    exact (Text.dropBlankEnd_prefix _).trans (List.take_prefix _ _)
  case unbroken =>
    intro hcells hnewline
    rw [hline] at hnewline
    rcases haligned.mem ((Text.dropBlankEnd_prefix _).subset hnewline) with h | ⟨cell, hcell, h⟩
    · cases h
    · exact hcells cell hcell h
  case cells =>
    intro i
    rw [Text.trim, Text.trim, String.toList_ofList, hcut]

end

/-- **Table layout.** The width of a column is that of its widest cell. A table has a line for each
row, the header first, and in each the cells stand at the starts of their columns, one after the
widths and gaps of those before it; only blanks at the end of a line are left out (`Laid`). Where no
cell has a newline or blanks at either end, the text is cut into its lines at the newlines, and each
line into the cells of its row at the starts of the columns. -/
theorem render_layout (header : List String) (rows : List (List String)) :
    let all := header :: rows
    let width := columnWidth all
    (∀ j, IsGreatest {n | n = 0 ∨ ∃ row ∈ all, ∃ cell, row[j]? = some cell ∧ cell.length = n}
      (width j)) ∧
      ∃ lines : List String,
        render header rows = String.join (lines.map (· ++ "\n")) ∧
        List.Forall₂ (Laid width) all lines ∧
        ((∀ row ∈ all, ∀ cell ∈ row, '\n' ∉ cell.toList ∧ Text.trim cell = cell) →
          Text.pieces '\n' (render header rows) = lines ++ [""] ∧
          List.Forall₂ (fun row line => ∀ i,
            Text.trim (String.ofList (cut width i line.toList)) = row.getD i "") all lines) := by
  intro all width
  have hlaid : ∀ row ∈ all, Laid width row (line width row) := fun row hrow =>
    laid_line fun i cell hcell => columnWidth_le_iff.mp le_rfl row hrow cell hcell
  refine ⟨fun j => columnWidth_isGreatest, all.map (line width), render_eq header rows, ?_,
    fun hclean => ⟨?_, ?_⟩⟩
  · rw [List.forall₂_map_right_iff, List.forall₂_same]
    exact hlaid
  · rw [render_eq]
    refine Text.pieces_lines fun l hl => ?_
    obtain ⟨row, hrow, rfl⟩ := List.mem_map.mp hl
    exact (hlaid row hrow).unbroken fun cell hcell => (hclean row hrow cell hcell).1
  · rw [List.forall₂_map_right_iff, List.forall₂_same]
    intro row hrow i
    rw [(hlaid row hrow).cells i]
    rcases Nat.lt_or_ge i row.length with hi | hi
    · rw [List.getD_eq_getElem _ _ hi]
      exact (hclean row hrow _ (List.getElem_mem hi)).2
    · rw [List.getD_eq_default _ _ hi]
      rfl

/-- A row that ends early leaves no padding behind. -/
example :
    render ["KEY", "TYPE", "DEFAULT"] [["PORT", "u16", "8080"], ["HOST", "String", ""], []] =
      "KEY     TYPE      DEFAULT\nPORT    u16       8080\nHOST    String\n\n" := by
  decide +kernel

end ConfigBinding.Table
