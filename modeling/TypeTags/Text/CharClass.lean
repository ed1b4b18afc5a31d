import TypeTags.Text.LetterTable
import TypeTags.Text.NumeralTable
import TypeTags.Text.UnprintableTable
import TypeTags.Text.UppercaseTable

/-!
# Character classes

The classes of characters that decide where names, numbers and gaps begin and end. ASCII is decided
by comparison; beyond it the Unicode 14.0 tables decide.

* `isBlank`: white space, the four information separators included.
* `isLetter`, `isDigit`, `isWordChar`: what names and numbers are made of.
* `decimal?`: the value of a digit that numbers are written with.
* `isUpper`: what tells a constant from an ordinary name.
* `isPrintable`: what a quoted text shows as itself.
-/

namespace TypeTags.Text

/-- Whether a closed range of the table holds the code point of `c`. -/
def inRanges (table : List (Nat × Nat)) (c : Char) : Bool :=
  table.any fun (first, last) => first ≤ c.toNat && c.toNat ≤ last

/-- Whether a stepped run of the table holds the code point of `c`. -/
def inRuns (table : List (Nat × Nat × Nat)) (c : Char) : Bool :=
  table.any fun (first, last, step) =>
    first ≤ c.toNat && c.toNat ≤ last && (c.toNat - first) % step == 0

/-- The code points of white space. -/
def blankRanges : List (Nat × Nat) :=
  [(0x9, 0xd), (0x1c, 0x20), (0x85, 0x85), (0xa0, 0xa0), (0x1680, 0x1680), (0x2000, 0x200a),
   (0x2028, 0x2029), (0x202f, 0x202f), (0x205f, 0x205f), (0x3000, 0x3000)]

/-- White space: the Unicode separators, the ASCII layout characters and U+001C to U+001F. -/
def isBlank (c : Char) : Bool := inRanges blankRanges c

/-- A letter of any script. -/
def isLetter (c : Char) : Bool :=
  if c.toNat < 128 then c.isAlpha else inRanges letterRanges c

/-- A character that stands for one digit, in any script and any position. -/
def isDigit (c : Char) : Bool :=
  if c.toNat < 128 then c.isDigit else inRanges digitRanges c

/-- A character with a numeric value that is not a letter. -/
def isNumeral (c : Char) : Bool :=
  if c.toNat < 128 then c.isDigit else inRanges numeralRanges c

/-- The value of a character that is a decimal digit, in any script. -/
def decimal? (c : Char) : Option Nat :=
  if c.toNat < 128 then if c.isDigit then some (c.toNat - '0'.toNat) else none
  else (decimalZeros.find? fun z => z ≤ c.toNat && c.toNat ≤ z + 9).map (c.toNat - ·)

/-- A letter or a numeral. -/
def isAlphanumeric (c : Char) : Bool := isLetter c || isNumeral c

/-- A character that a word may hold: a letter, a numeral or an underscore. -/
def isWordChar (c : Char) : Bool := isAlphanumeric c || c == '_'

/-- A character that a name may start with: a letter or an underscore. -/
def isNameStart (c : Char) : Bool := isLetter c || c == '_'

def isUpper (c : Char) : Bool :=
  if c.toNat < 128 then c.isUpper else inRuns uppercaseRuns c

/-- A character that a quoted text shows as itself. -/
def isPrintable (c : Char) : Bool :=
  if c.toNat < 128 then 32 ≤ c.toNat && c.toNat < 127 else !inRanges unprintableRanges c

end TypeTags.Text
