import Mathlib.Data.List.Forall2
import MiniSql.Proofs.Printing
import MiniSql.Relation.Grid

/-! A box of text and the relation it shows. All lines are of one length. The bar holds the width of each column, the
widths say where the cells of a line are, and a cell is its text up to the space at its end; so nothing is lost. -/

namespace MiniSql

namespace Value

private theorem repr_chars (number : Int) : ∀ char ∈ number.repr.toList, char = '-' ∨ char.isDigit = true := by
  cases number with
  | ofNat size => exact fun char member => .inr ((Grammar.digits_repr size).2 char member)
  | negSucc size =>
    have shown : (Int.negSucc size).repr.toList = '-' :: (size + 1).repr.toList := by simp [Int.repr]
    rw [shown]
    exact List.forall_mem_cons.mpr ⟨.inl rfl, fun char member => .inr ((Grammar.digits_repr (size + 1)).2 char member)⟩

private theorem repr_injective {first second : Int} (same : first.repr = second.repr) : first = second := by
  have read := Grammar.int?_repr first
  rw [same, Grammar.int?_repr second] at read
  exact (Option.some.inj read).symm

/-- What is shown of a number is read as one, unlike what is shown of a NULL or a text. -/
theorem repr_ne {number : Int} {text : String} (other : Text.Decimal.int? text.toList = none) : number.repr ≠ text := by
  intro same
  have read := Grammar.int?_repr number
  rw [same, other] at read
  cases read

private theorem int?_quoted (content : String) : Text.Decimal.int? ("'" ++ content ++ "'").toList = none := by
  simp [Text.Decimal.int?, Text.Decimal.nat?, Text.Decimal.unsigned?, Char.isDigit]

private theorem render_injective {first second : Value} (same : first.render = second.render) : first = second := by
  have chars := congrArg String.toList same
  cases first <;> cases second
  case null.null => rfl
  case null.int number => exact absurd same.symm (repr_ne (by decide))
  case null.text content => simp [render] at chars
  case int.null number => exact absurd same (repr_ne (by decide))
  case int.int number other => exact congrArg int (repr_injective same)
  case int.text number content => exact absurd same (repr_ne (int?_quoted content))
  case text.null content => simp [render] at chars
  case text.int content number => exact absurd same.symm (repr_ne (int?_quoted content))
  case text.text content other => exact congrArg text (String.toList_inj.mp (by simpa [render] using chars))

theorem render_trimmed (value : Value) : value.render.toList.getLast? ≠ some ' ' := by
  cases value with
  | null => decide
  | int number =>
    intro last
    rcases repr_chars number ' ' (List.mem_of_getLast? last) with impossible | impossible <;> cases impossible
  | text content =>
    have shown : (text content).render.toList = ('\'' :: content.toList) ++ ['\''] := by simp [render]
    rw [shown, List.getLast?_concat]
    decide

end Value

namespace Grid

variable {widths : List Nat} {cells others : List String}

private theorem toList_padded (width : Nat) (text : String) :
    (padded width text).toList = text.toList ++ List.replicate (width - text.length) ' ' := by
  rw [padded, String.toList_append, String.toList_ofList]

private theorem toList_bar (widths : List Nat) :
    (bar widths).toList = '+' :: widths.flatMap fun width => List.replicate (width + 2) '-' ++ ['+'] := by
  rw [bar, String.toList_append, String.toList_join, List.flatMap_map]
  simp

/-- A cell with its width, up to the bar on its right. -/
def box (cell : String) (width : Nat) : List Char := ' ' :: ((padded width cell).toList ++ [' ', '|'])

private theorem toList_line (widths : List Nat) (cells : List String) :
    (line widths cells).toList = '|' :: (cells.zipWith box widths).flatten := by
  rw [line, String.toList_append, String.toList_join, List.flatMap, List.map_zipWith]
  simp only [String.toList_append]
  rfl

def Fits (cells : List String) (widths : List Nat) : Prop :=
  List.Forall₂ (fun cell width => cell.length ≤ width) cells widths

private theorem length_box {cell : String} {width : Nat} (fits : cell.length ≤ width) : (box cell width).length = width + 3 := by
  simp only [box, toList_padded, List.length_cons, List.length_append, List.length_replicate, String.length_toList,
    List.length_nil]
  omega

private theorem length_line (fits : Fits cells widths) : (line widths cells).toList.length = 1 + (widths.map (· + 3)).sum := by
  rw [toList_line, List.length_cons, Nat.add_comm]
  refine congrArg _ ?_
  induction fits with
  | nil => rfl
  | cons first _ ih =>
    rw [List.zipWith_cons_cons, List.flatten_cons, List.length_append, ih, length_box first, List.map_cons, List.sum_cons]

private theorem length_bar (widths : List Nat) : (bar widths).toList.length = 1 + (widths.map (· + 3)).sum := by
  rw [toList_bar, List.length_cons, Nat.add_comm]
  refine congrArg _ ?_
  induction widths with
  | nil => rfl
  | cons width widths ih =>
    rw [List.flatMap_cons, List.length_append, ih, List.map_cons, List.sum_cons]
    simp

private theorem dashes_injective {first second : Nat} {rest more : List Char}
    (same : List.replicate first '-' ++ '+' :: rest = List.replicate second '-' ++ '+' :: more) :
    first = second ∧ rest = more := by
  induction first generalizing second with
  | zero =>
    cases second with
    | zero => exact ⟨rfl, (List.cons.inj same).2⟩
    | succ second => cases (List.cons.inj same).1
  | succ first ih =>
    cases second with
    | zero => cases (List.cons.inj same).1
    | succ second =>
      obtain ⟨rfl, behind⟩ := ih (List.cons.inj same).2
      exact ⟨rfl, behind⟩

private theorem bar_injective {first second : List Nat} (same : bar first = bar second) : first = second := by
  have chars := congrArg String.toList same
  rw [toList_bar, toList_bar] at chars
  replace chars := (List.cons.inj chars).2
  clear same
  induction first generalizing second with
  | nil => cases second <;> simp_all
  | cons width widths ih =>
    cases second with
    | nil => simp at chars
    | cons other others =>
      simp only [List.flatMap_cons, List.append_assoc, List.singleton_append] at chars
      obtain ⟨wide, behind⟩ := dashes_injective chars
      rw [ih behind, Nat.add_right_cancel wide]

private theorem unpadded {cell : String} (trimmed : cell.toList.getLast? ≠ some ' ') (width : Nat) :
    ((padded width cell).toList.reverse.dropWhile (· == ' ')).reverse = cell.toList := by
  have spaces : ∀ char ∈ List.replicate (width - cell.length) ' ', (char == ' ') = true := by
    intro char member
    rw [List.eq_of_mem_replicate member]
    rfl
  rw [toList_padded, List.reverse_append, List.reverse_replicate, List.dropWhile_append_of_pos spaces]
  rw [← List.head?_reverse] at trimmed
  cases shape : cell.toList.reverse with
  | nil => simpa using shape.symm
  | cons last front =>
    rw [shape] at trimmed
    have other : ¬ (last == ' ') = true := by simpa using trimmed
    rw [List.dropWhile_cons_of_neg (p := (· == ' ')) other, ← shape, List.reverse_reverse]

private theorem box_injective {cell other : String} {width : Nat} {rest more : List Char} (fits : cell.length ≤ width)
    (fitsOther : other.length ≤ width) (trimmed : cell.toList.getLast? ≠ some ' ')
    (trimmedOther : other.toList.getLast? ≠ some ' ') (same : box cell width ++ rest = box other width ++ more) :
    cell = other ∧ rest = more := by
  obtain ⟨boxes, behind⟩ := List.append_inj same (by rw [length_box fits, length_box fitsOther])
  have padding : (padded width cell).toList = (padded width other).toList :=
    List.append_cancel_right (List.cons.inj boxes).2
  refine ⟨String.toList_inj.mp ?_, behind⟩
  rw [← unpadded trimmed width, padding, unpadded trimmedOther]

private theorem line_injective (fits : Fits cells widths) (fitsOthers : Fits others widths)
    (trimmed : ∀ cell ∈ cells, cell.toList.getLast? ≠ some ' ')
    (trimmedOthers : ∀ cell ∈ others, cell.toList.getLast? ≠ some ' ') (same : line widths cells = line widths others) :
    cells = others := by
  have chars := congrArg String.toList same
  rw [toList_line, toList_line] at chars
  replace chars := (List.cons.inj chars).2
  clear same
  induction fits generalizing others with
  | nil =>
    cases fitsOthers
    rfl
  | cons first _ ih =>
    cases fitsOthers with
    | cons second fitsOthers =>
      obtain ⟨own, more⟩ := List.forall_mem_cons.mp trimmed
      obtain ⟨ownOther, moreOthers⟩ := List.forall_mem_cons.mp trimmedOthers
      simp only [List.zipWith_cons_cons, List.flatten_cons] at chars
      obtain ⟨rfl, behind⟩ := box_injective first second own ownOther chars
      rw [ih fitsOthers more moreOthers behind]

/-- The greatest of these lengths. -/
def Longest (lengths : List Nat) (width : Nat) : Prop := width ∈ lengths ∧ ∀ length ∈ lengths, length ≤ width

private theorem width_longest (header : String) (cells : List String) :
    Longest (header.length :: cells.map String.length) (width header cells) := by
  unfold width
  generalize header.length = start
  induction cells generalizing start with
  | nil => exact ⟨List.mem_singleton_self _, List.forall_mem_singleton.mpr (Nat.le_refl _)⟩
  | cons cell cells ih =>
    obtain ⟨member, above⟩ := ih (max start cell.length)
    obtain ⟨first, others⟩ := List.forall_mem_cons.mp above
    rw [List.foldl_cons, List.map_cons]
    constructor
    · rcases List.mem_cons.mp member with same | inside
      · rw [same]
        rcases Nat.le_total start cell.length with less | less
        · simp [Nat.max_eq_right less]
        · simp [Nat.max_eq_left less]
      · exact List.mem_cons_of_mem _ (List.mem_cons_of_mem _ inside)
    · exact List.forall_mem_cons.mpr ⟨by omega, List.forall_mem_cons.mpr ⟨by omega, others⟩⟩

variable {columns : List String} {rows : List Row}

private theorem row_eq_map {row : Row} (aligned : row.length = columns.length) :
    row = columns.zipIdx.map fun column => row.getD column.2 .null := by
  apply List.ext_getElem
  · simp [aligned]
  · intro index inside _
    simp [inside]

private theorem widths_longest (aligned : ∀ row ∈ rows, row.length = columns.length) :
    List.Forall₂ (fun column width =>
        Longest (column.1.length :: rows.map fun row => (row.getD column.2 .null).render.length) width)
      columns.zipIdx (Grid.widths columns (rows.map fun row => row.map Value.render)) := by
  rw [Grid.widths, List.forall₂_map_right_iff, List.forall₂_same]
  intro column member
  have inside : column.2 < columns.length := by
    have below := List.mem_zipIdx member
    omega
  have shown : ((rows.map fun row => row.map Value.render).filterMap fun row => row[column.2]?) =
      rows.map fun row => (row.getD column.2 .null).render := by
    calc
      _ = rows.filterMap (some ∘ fun row => (row.getD column.2 .null).render) := by
        rw [List.filterMap_map]
        refine List.filterMap_congr fun row present => ?_
        have within : column.2 < row.length := aligned row present ▸ inside
        simp [within]
      _ = _ := by rw [List.filterMap_eq_map]
  have longest := width_longest column.1 (rows.map fun row => (row.getD column.2 .null).render)
  rw [List.map_map] at longest
  rw [shown]
  exact longest

private theorem columns_fit (aligned : ∀ row ∈ rows, row.length = columns.length) :
    Fits columns (Grid.widths columns (rows.map fun row => row.map Value.render)) := by
  have names : columns.zipIdx.map Prod.fst = columns := List.zipIdx_map_fst 0 columns
  rw [Fits, ← names, List.forall₂_map_left_iff, names]
  exact (widths_longest aligned).imp fun column width longest => longest.2 _ List.mem_cons_self

private theorem row_fits {row : Row} (aligned : ∀ row ∈ rows, row.length = columns.length) (member : row ∈ rows) :
    Fits (row.map Value.render) (Grid.widths columns (rows.map fun row => row.map Value.render)) := by
  rw [Fits, row_eq_map (aligned row member), List.map_map, List.forall₂_map_left_iff]
  refine (widths_longest aligned).imp fun column width longest => longest.2 _ (List.mem_cons_of_mem _ ?_)
  exact List.mem_map_of_mem (f := fun row : Row => (row.getD column.2 .null).render.length) member

/-- Rows with a value for each column, and text that neither breaks a line nor, in a name, ends in a space. -/
structure Plain (columns : List String) (rows : List Row) : Prop where
  aligned : ∀ row ∈ rows, row.length = columns.length
  names : ∀ name ∈ columns, '\n' ∉ name.toList ∧ name.toList.getLast? ≠ some ' '
  texts : ∀ row ∈ rows, ∀ content, .text content ∈ row → '\n' ∉ content.toList

private theorem render_unbroken {value : Value} (plain : ∀ content, value = .text content → '\n' ∉ content.toList) :
    '\n' ∉ value.render.toList := by
  cases value with
  | null => decide
  | int number => exact fun feed => (Value.repr_chars number _ feed).elim (by decide) (by decide)
  | text content => simpa [Value.render] using plain content rfl

private theorem bar_unbroken (widths : List Nat) : '\n' ∉ (bar widths).toList := by
  rw [toList_bar]
  simp [List.mem_replicate]

private theorem line_unbroken (widths : List Nat) (unbroken : ∀ cell ∈ cells, '\n' ∉ cell.toList) :
    '\n' ∉ (line widths cells).toList := by
  rw [toList_line, List.mem_cons, List.mem_flatten, ← List.map_uncurry_zip_eq_zipWith]
  rintro (impossible | ⟨block, member, feed⟩)
  · cases impossible
  · obtain ⟨⟨cell, width⟩, paired, rfl⟩ := List.mem_map.mp member
    have own := unbroken cell (List.of_mem_zip paired).1
    rw [Function.uncurry_apply_pair] at feed
    simp [box, toList_padded, own, List.mem_replicate] at feed

private theorem mem_lines {text : String} (member : text ∈ lines columns rows) :
    let widths := Grid.widths columns (rows.map fun row => row.map Value.render)
    text = bar widths ∨ text = line widths columns ∨ ∃ row ∈ rows, text = line widths (row.map Value.render) := by
  simp only [lines, List.mem_append, List.mem_cons, List.not_mem_nil, or_false, List.mem_map, exists_exists_and_eq_and] at member
  obtain ((same | same | same) | ⟨row, inside, same⟩) | same := member
  · exact .inl same
  · exact .inr (.inl same)
  · exact .inl same
  · exact .inr (.inr ⟨row, inside, same.symm⟩)
  · exact .inl same

theorem splitOn_render (plain : Plain columns rows) :
    (render columns rows).toList.splitOn '\n' = (lines columns rows).map String.toList := by
  rw [render, String.toList_intercalate]
  refine List.splitOn_intercalate '\n' ?_ (by simp [lines])
  intro chars member
  obtain ⟨text, inside, rfl⟩ := List.mem_map.mp member
  rcases mem_lines inside with rfl | rfl | ⟨row, present, rfl⟩
  · exact bar_unbroken _
  · exact line_unbroken _ fun name known => (plain.names name known).1
  · refine line_unbroken _ fun cell shown => ?_
    obtain ⟨value, stored, rfl⟩ := List.mem_map.mp shown
    exact render_unbroken fun content same => plain.texts row present content (same ▸ stored)

private theorem length_lines (columns : List String) (rows : List Row) : (lines columns rows).length = rows.length + 4 := by
  simp [lines]

private theorem length_of_mem_lines (plain : Plain columns rows) {text : String} (member : text ∈ lines columns rows) :
    text.toList.length = 1 + ((Grid.widths columns (rows.map fun row => row.map Value.render)).map (· + 3)).sum := by
  rcases mem_lines member with rfl | rfl | ⟨row, present, rfl⟩
  · exact length_bar _
  · exact length_line (columns_fit plain.aligned)
  · exact length_line (row_fits plain.aligned present)

private theorem eq_of_map_eq {α β : Type} {f : α → β} {first second : List α}
    (injective : ∀ one ∈ first, ∀ other ∈ second, f one = f other → one = other) (same : first.map f = second.map f) :
    first = second := by
  induction first generalizing second with
  | nil => exact (List.map_eq_nil_iff.mp same.symm).symm
  | cons one first ih =>
    obtain ⟨other, second, rfl, own, behind⟩ := List.map_eq_cons_iff.mp same.symm
    have equal := injective one List.mem_cons_self other List.mem_cons_self own.symm
    rw [equal, ih (fun one member other present => injective one (List.mem_cons_of_mem _ member) other
      (List.mem_cons_of_mem _ present)) behind.symm]

/-- The bar gives the widths, these give the names, and all of them the rows one by one. -/
theorem lines_injective {otherColumns : List String} {otherRows : List Row} (plain : Plain columns rows)
    (plainOther : Plain otherColumns otherRows) (same : lines otherColumns otherRows = lines columns rows) :
    otherColumns = columns ∧ otherRows = rows := by
  have fits := columns_fit plain.aligned
  have fitsOther := columns_fit plainOther.aligned
  have rowFits (row : Row) (member : row ∈ rows) := row_fits plain.aligned member
  have rowFitsOther (row : Row) (member : row ∈ otherRows) := row_fits plainOther.aligned member
  unfold lines at same
  simp only [List.cons_append, List.nil_append, List.cons.injEq] at same
  obtain ⟨bars, names, _, body⟩ := same
  rw [bar_injective bars] at names body fitsOther rowFitsOther
  constructor
  · exact line_injective fitsOther fits (fun name known => (plainOther.names name known).2)
      (fun name known => (plain.names name known).2) names
  · have shown := List.append_cancel_right body
    rw [List.map_map, List.map_map] at shown
    refine eq_of_map_eq (fun row member other present same => ?_) shown
    have cells := line_injective (rowFitsOther row member) (rowFits other present) (by simp [Value.render_trimmed])
      (by simp [Value.render_trimmed]) same
    exact List.map_injective_iff.mpr (fun _ _ => Value.render_injective) cells

/-- All lines of a box are as long as its widths say, each width is that of the longest entry of its column, and the
box can be read back: it shows no other columns and rows. -/
theorem render_determines (plain : Plain columns rows) :
    let lines := (render columns rows).toList.splitOn '\n'
    lines.length = rows.length + 4 ∧
    (∃ widths, List.Forall₂ (fun column width =>
        Longest (column.1.length :: rows.map fun row => (row.getD column.2 .null).render.length) width)
          columns.zipIdx widths ∧
      ∀ line ∈ lines, line.length = 1 + (widths.map (· + 3)).sum) ∧
    ∀ otherColumns otherRows, Plain otherColumns otherRows → render otherColumns otherRows = render columns rows →
      otherColumns = columns ∧ otherRows = rows := by
  intro lines
  have split : lines = (Grid.lines columns rows).map String.toList := splitOn_render plain
  refine ⟨?_, ⟨_, widths_longest plain.aligned, fun line member => ?_⟩, fun otherColumns otherRows plainOther same => ?_⟩
  · rw [split, List.length_map, length_lines]
  · rw [split] at member
    obtain ⟨text, inside, rfl⟩ := List.mem_map.mp member
    exact length_of_mem_lines plain inside
  · have texts : (Grid.lines otherColumns otherRows).map String.toList = (Grid.lines columns rows).map String.toList := by
      rw [← splitOn_render plainOther, same, splitOn_render plain]
    exact lines_injective plain plainOther (List.map_injective_iff.mpr (fun _ _ => String.toList_inj.mp) texts)

/-- A text that looks like a number, like NULL or like the frame is told from them, and rows without columns are
counted. -/
theorem lookalikes_determined :
    let rows : List Row := [[.text "10", .null], [.int (-1), .text "' | "]]
    let others : List Row := [[.int 10, .text "NULL"], [.int (-1), .text "' | "]]
    Plain ["A", "B | C"] rows ∧ Plain ["A", "B | C"] others ∧ Plain [] [[], []] ∧ Plain [] [[]] ∧
      ((render ["A", "B | C"] rows).toList.splitOn '\n').length = 6 ∧
      render ["A", "B | C"] others ≠ render ["A", "B | C"] rows ∧ render [] [[], []] ≠ render [] [[]] := by
  intro rows others
  have plain : Plain ["A", "B | C"] rows := ⟨by decide, by decide, by simp [rows]⟩
  have plainOthers : Plain ["A", "B | C"] others := ⟨by decide, by decide, by simp [others]⟩
  have twoRows : Plain [] [[], []] := ⟨by decide, by decide, by simp⟩
  have oneRow : Plain [] [[]] := ⟨by decide, by decide, by simp⟩
  refine ⟨plain, plainOthers, twoRows, oneRow, (render_determines plain).1, fun same => ?_, fun same => ?_⟩
  · exact absurd ((render_determines plain).2.2 _ _ plainOthers same).2 (by decide)
  · exact absurd ((render_determines oneRow).2.2 _ _ twoRows same).2 (by decide)

end Grid

end MiniSql
