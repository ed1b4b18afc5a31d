import TypeTags.Text.CharClass
import TypeTags.Text.WidthTable

/-!
# Cells

A console shows text in cells. Most characters take one, some take none and some take two, so that
the place a text takes is not the number of its characters. Nor is it the sum over them: a character
without cells belongs to the sign before it, a joiner shows two characters as one sign, and a
selector turns a character into its pictograph, which may be wider.

* `Cells.ofChar`, `Cells.ofText`: how many cells a character takes, and a text.
* `Cells.signs`: the signs that a console shows for a text.
* `Cells.padded`, `Cells.cropped`: a text that fills a number of cells, or fits into it.
-/

namespace TypeTags.Cells

/-- How many cells a character takes. -/
def ofChar (c : Char) : Nat :=
  if 32 ≤ c.toNat ∧ c.toNat < 127 then 1
  else if Text.inRanges Text.zeroWidthRanges c then 0
  else if Text.inRanges Text.wideRanges c then 2
  else 1

/-- The character that joins the one after it to the sign before it. -/
def joiner : Char := '\u200d'

/-- The character that turns the one before it into a pictograph. -/
def selector : Char := '\ufe0f'

/-! ## Signs -/

/-- Characters that a console shows together, and the cells they take. -/
structure Sign where
  chars : List Char
  width : Nat
  deriving DecidableEq, Repr

/-- A text while it is put together to signs: the signs so far and the characters of each, both from
the last on, the character that a selector would turn into a pictograph, and whether the next
character is joined to the last sign. -/
structure Signs where
  signs : List Sign := []
  last : Option Char := none
  joining : Bool := false

/-- Add a character to the last sign, which becomes wider by `extra` cells. In front of all signs it
makes one without cells. -/
def Signs.attach (extra : Nat) (c : Char) (s : Signs) : List Sign :=
  match s.signs with
  | [] => [⟨[c], 0⟩]
  | sign :: before => ⟨c :: sign.chars, sign.width + extra⟩ :: before

/-- How many cells a selector adds. -/
def Signs.widening (s : Signs) : Nat :=
  if s.last.any (Text.inRanges Text.pictographRanges) then 1 else 0

/-- Add a character. A joiner in front of all signs joins nothing. -/
def Signs.add (s : Signs) (c : Char) : Signs :=
  if s.joining then { s with signs := s.attach 0 c, joining := false }
  else if c = joiner then { s with signs := s.attach 0 c, joining := !s.signs.isEmpty }
  else if c = selector then { s with signs := s.attach s.widening c, last := none }
  else if ofChar c = 0 then { s with signs := s.attach 0 c }
  else { s with signs := ⟨[c], ofChar c⟩ :: s.signs, last := some c }

def signs (cs : List Char) : List Sign :=
  (cs.foldl Signs.add {}).signs.reverse.map fun s => { s with chars := s.chars.reverse }

def ofSigns (ss : List Sign) : Nat := ss.foldl (fun n s => n + s.width) 0

/-! ## Texts -/

/-- A text without the joiners at its start and what they would join. -/
def withoutLeadingJoins : List Char → List Char
  | [] => []
  | c :: cs =>
    if c = joiner then
      match cs with
      | [] => []
      | _ :: rest => withoutLeadingJoins rest
    else c :: cs

/-- How many cells a text takes. A joiner at its start hides the character after it. -/
def ofText (cs : List Char) : Nat := ofSigns (signs (withoutLeadingJoins cs))

/-- A text with the spaces after it that are missing to a number of cells. -/
def spaced (width : Nat) (cs : List Char) : List Char :=
  cs ++ List.replicate (width - ofText cs) ' '

/-- A text with spaces after it up to a number of cells. A joiner at its end hides the first space,
so that one is missing again. -/
def padded (width : Nat) (cs : List Char) : List Char := spaced width (spaced width cs)

/-- The signs that fit into a number of cells. -/
def fitting (width : Nat) : List Sign → List Sign
  | [] => []
  | s :: ss => if width = 0 ∨ width < s.width then [] else s :: fitting (width - s.width) ss

/-- The first part of a text, in exactly that many cells if it takes at least as many: half of a
sign that does not fit becomes a space. -/
def cropped (width : Nat) (cs : List Char) : List Char :=
  if ofText cs ≤ width then cs
  else
    let fit := fitting width (signs cs)
    fit.flatMap Sign.chars ++ List.replicate (width - ofSigns fit) ' '

end TypeTags.Cells
