import TypeTags.Report.Cells
import TypeTags.Text.Lines
import TypeTags.Text.Trim

/-!
# Text in a limited width

A report shows text in lines of a limited width. A line is broken between words; a word that fits on
no line is either folded over several lines or cut off with an ellipsis.

* `Wrap.expandTabs`: spaces in the places of tabulators.
* `Wrap.lines`: the lines of a text in a width.
-/

namespace TypeTags.Wrap

/-- The distance between tabulator stops. -/
def tabSize : Nat := 8

/-- Parts of a line, which tabulators separate, with spaces for these; `column` is where the line
starts. A tabulator takes one space and what is missing to the next stop. -/
def joinTabs (column : Nat) : List (List Char) → List Char
  | [] => []
  | [part] => part
  | part :: parts =>
    let reached := column + Cells.ofText (part ++ [' '])
    let gap := (tabSize - reached % tabSize) % tabSize
    part ++ ' ' :: List.replicate gap ' ' ++ joinTabs (reached + gap) parts

/-- A line with spaces for tabulators. -/
def expandTabs (line : List Char) : List Char := joinTabs 0 (Text.splitOnChar '\t' line)

/-- Add a character in front of chunks: it starts a new one if it is the last blank of a gap. -/
def consChunk (c : Char) : List (List Char) → List (List Char)
  | [] => [[c]]
  | chunk :: chunks =>
    if Text.isBlank c && !chunk.head?.any Text.isBlank then [c] :: chunk :: chunks
    else (c :: chunk) :: chunks

/-- The words of a line, each with the white space after it, and the first also with that before
it. A line of white space alone has no words. -/
def words (cs : List Char) : List (List Char) :=
  match cs.foldr consChunk [] with
  | [] => []
  | chunk :: chunks =>
    if chunk.head?.any Text.isBlank then
      match chunks with
      | [] => []
      | word :: words => (chunk ++ word) :: words
    else chunk :: chunks

/-- What happens to a word that fits on no line. -/
inductive Overflow where
  /-- It goes on over the next lines. -/
  | fold
  /-- It is cut off, with an ellipsis. -/
  | ellipsis
  deriving DecidableEq, Repr

/-- Signs in pieces that each fit into a width; `taken` cells of the first are taken. -/
def chopped (width taken : Nat) : List Cells.Sign → List (List Char)
  | [] => [[]]
  | s :: ss =>
    if taken + s.width > width then
      match chopped width s.width ss with
      | piece :: pieces => [] :: (s.chars ++ piece) :: pieces
      | [] => [[], s.chars]
    else
      match chopped width (taken + s.width) ss with
      | piece :: pieces => (s.chars ++ piece) :: pieces
      | [] => [s.chars]

/-- Lines while they are filled: those that are full, from the last on, and the pieces of the open
one, from the last on, with the number of cells they take. -/
structure Fill where
  full : List (List Char) := []
  current : List (List Char) := []
  taken : Nat := 0

def Fill.line (f : Fill) : List Char := f.current.reverse.flatten

/-- Go on with a piece on the next line, or on the open one if that is the first and empty. -/
def Fill.next (f : Fill) (piece : List Char) : Fill :=
  let full := if f.full.isEmpty ∧ f.current.isEmpty then [] else f.line :: f.full
  { full, current := [piece], taken := Cells.ofText piece }

def Fill.add (width : Nat) (overflow : Overflow) (f : Fill) (word : List Char) : Fill :=
  let length := Cells.ofText (Text.trimEnd word)
  if f.taken + length ≤ width then
    { f with current := word :: f.current, taken := f.taken + Cells.ofText word }
  else if length > width ∧ overflow = .fold then
    (chopped width 0 (Cells.signs word)).foldl Fill.next f
  else f.next word

def Fill.lines (f : Fill) : List (List Char) := (f.line :: f.full).reverse

/-- A line broken between words. -/
def broken (width : Nat) (overflow : Overflow) (line : List Char) : List (List Char) :=
  match words line with
  | [] => [line]
  | ws => (ws.foldl (Fill.add width overflow) {}).lines

/-- A line without the white space at its end that is beyond the width. -/
def withoutExcess (width : Nat) (line : List Char) : List Char :=
  let blank := (line.reverse.takeWhile Text.isBlank).length
  line.take (line.length - min blank (line.length - width))

def fitted (width : Nat) (overflow : Overflow) (line : List Char) : List Char :=
  if Cells.ofText line ≤ width then line
  else match overflow with
    | .fold => Cells.cropped width line
    | .ellipsis => Cells.cropped (width - 1) line ++ ['…']

def lines (width : Nat) (overflow : Overflow) (cs : List Char) : List (List Char) :=
  (Text.sourceLines cs).flatMap fun line =>
    (broken width overflow (expandTabs line)).map fun part =>
      fitted width overflow (withoutExcess width part)

end TypeTags.Wrap
