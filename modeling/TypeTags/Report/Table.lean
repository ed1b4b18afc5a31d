import TypeTags.Report.Markup
import TypeTags.Report.Wrap

/-!
# Tables

A table has a header, rows of cells and maybe a title. It is drawn as a box: a column is as wide as
the widest line in it, with a space on either side; the title is centred above. Where the columns
are too wide for the console, the widest of them are narrowed.

* `Table.render`: the drawing of a table, or what is wrong with the markup of a cell.
-/

namespace TypeTags

structure Table where
  title : Option String := none
  header : List String
  rows : List (List String)
  deriving DecidableEq, Repr

/-- The characters that a horizontal line of a box is made of. -/
structure Rule where
  left : Char
  fill : Char
  cross : Char
  right : Char

/-- The characters that a box is made of: its horizontal lines, and what stands between the cells of
the header and between those of the other rows. -/
structure BoxStyle where
  top : Rule
  middle : Rule
  bottom : Rule
  headerBar : Char
  bar : Char

/-- A box with heavy lines around its header. -/
def BoxStyle.heavyHead : BoxStyle where
  top := ⟨'┏', '━', '┳', '┓'⟩
  middle := ⟨'┡', '━', '╇', '┩'⟩
  bottom := ⟨'└', '─', '┴', '┘'⟩
  headerBar := '┃'
  bar := '│'

namespace Table

/-! ## Widths of columns -/

/-- The width of a text: that of its widest line. -/
def textWidth (text : List Char) : Nat := ((Text.breakLines text).map Cells.ofText).foldl max 0

/-- The spaces beside the text of a cell. -/
def padding : Nat := 2

/-- The widths that the columns, of which there are `count`, would have with enough room. -/
def naturalWidths (count : Nat) (rows : List (List (List Char))) : List Nat :=
  (List.range count).map fun i =>
    padding + (rows.map fun row => ((row[i]?).map textWidth).getD 0).foldl max 0

/-- A quotient, rounded to the nearest integer; a half goes to the even one. -/
def roundDiv (n d : Nat) : Nat :=
  let q := n / d
  let r := n % d
  if 2 * r > d ∨ (2 * r = d ∧ q % 2 = 1) then q + 1 else q

/-- Take a total away from the chosen widths, in equal parts of at most `limit` each; the number of
chosen ones is `parts`. -/
def reduce (limit : Nat) (chosen : Nat → Bool) (total parts : Nat) : List Nat → List Nat
  | [] => []
  | w :: ws =>
    if chosen w ∧ parts > 0 then
      let part := min limit (roundDiv total parts)
      (w - part) :: reduce limit chosen (total - part) (parts - 1) ws
    else w :: reduce limit chosen total parts ws

/-- Narrow the widest columns down to the next ones, until all fit into the room or nothing changes
any more; `n` bounds the number of steps. -/
def narrowed (room : Nat) : Nat → List Nat → List Nat
  | 0, widths => widths
  | n + 1, widths =>
    let excess := widths.foldl (· + ·) 0 - room
    let widest := widths.foldl max 0
    let second := (widths.filter (· != widest)).foldl max 0
    if excess = 0 ∨ widest = second then widths
    else
      narrowed room n
        (reduce (min excess (widest - second)) (· == widest) excess (widths.count widest) widths)

/-- Widths that fit into the room. -/
def fittedWidths (room : Nat) (widths : List Nat) : List Nat :=
  let total := widths.foldl (· + ·) 0
  if total ≤ room then widths
  else
    let after := narrowed room total widths
    let excess := after.foldl (· + ·) 0 - room
    if excess = 0 then after else reduce (after.foldl max 0) (· > 0) excess after.length after

/-! ## Drawing -/

def cellLines (width : Nat) (text : List Char) : List (List Char) :=
  Wrap.lines (width - padding) .ellipsis text

def ruleLine (rule : Rule) (widths : List Nat) : List Char :=
  rule.left :: [rule.cross].intercalate (widths.map fun w => List.replicate w rule.fill)
    ++ [rule.right]

/-- The line with the given number of a row of cells. -/
def rowLine (bar : Char) (widths : List Nat) (row : List (List (List Char))) (i : Nat) :
    List Char :=
  bar :: (widths.zip row).flatMap fun (w, lines) =>
    ' ' :: Cells.padded (w - padding) ((lines[i]?).getD []) ++ [' ', bar]

/-- The lines of a row, as many as its tallest cell has. -/
def rowLines (bar : Char) (widths : List Nat) (row : List (List Char)) : List (List Char) :=
  let cells := (widths.zip row).map fun (w, text) => cellLines w text
  (List.range ((cells.map List.length).foldl max 1)).map (rowLine bar widths cells)

/-- A title in the middle of a width; an odd space goes to the right. -/
def centred (width : Nat) (title : List Char) : List Char :=
  Cells.padded width (List.replicate ((width - Cells.ofText title) / 2) ' ' ++ title)

/-- The lines of a table's drawing in a width. -/
def lines (style : BoxStyle) (width : Nat) (title : Option String) (header : List (List Char))
    (rows : List (List (List Char))) : List (List Char) :=
  let count := header.length
  let widths := fittedWidths (width - (count + 1)) (naturalWidths count (header :: rows))
  let top := ruleLine style.top widths
  (title.toList.map fun title => centred top.length title.toList)
    ++ [top] ++ rowLines style.headerBar widths header ++ [ruleLine style.middle widths]
    ++ rows.flatMap (rowLines style.bar widths) ++ [ruleLine style.bottom widths]

/-- The texts of a table, column by column. -/
def columnTexts (table : Table) : List String :=
  (List.range table.header.length).flatMap fun i => (table.header :: table.rows).filterMap (·[i]?)

/-- The drawing of a table in a width, or what is wrong with the markup of a cell. Columns are
measured first, one after the other, and what is wrong with a tag is told then; what is wrong with a
style is told when the rows are drawn. -/
def render (width : Nat) (table : Table) : Except Markup.Problem String := do
  let _ ← table.columnTexts.mapM Markup.read
  let header ← table.header.mapM Markup.plain
  let rows ← table.rows.mapM (·.mapM Markup.plain)
  let drawn := lines .heavyHead width table.title header rows
  return String.ofList (drawn.flatMap (· ++ ['\n']))

end Table

end TypeTags
