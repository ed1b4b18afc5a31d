import TypeTags.Report.ColourTable
import TypeTags.Text.Lowercase
import TypeTags.Text.Trim

/-!
# Styles

A style is described by words: attributes, of which some have short names, `not` before one that is
switched off, a colour, `on` before the colour of the ground, and `link` before an address. Two
descriptions of one style have the same normal form: long names, in a fixed order. A text that does
not describe a style is its own normal form, but for its case and the white space around it.

* `Style.parse`: the style that a text describes.
* `Style.normalForm`: the normal form of a description.
-/

namespace TypeTags

/-- A style, with its attributes in the order in which they were given. -/
structure Style where
  attributes : List (String × Bool) := []
  colour : Option String := none
  ground : Option String := none
  link : Option String := none
  deriving DecidableEq, Repr

namespace Style

/-- Why a text describes no style. -/
inductive Problem where
  /-- The text is not a description of a style. -/
  | unreadable
  /-- A part of a colour is missing, or has too many digits to be read. -/
  | badColourPart
  deriving DecidableEq, Repr

/-- The attributes, in the order of the normal form, each with its short name if it has one. -/
def attributeNames : List (String × Option String) :=
  [("bold", some "b"), ("dim", some "d"), ("italic", some "i"), ("underline", some "u"),
   ("blink", none), ("blink2", none), ("reverse", some "r"), ("conceal", some "c"),
   ("strike", some "s"), ("underline2", some "uu"), ("frame", none), ("encircle", none),
   ("overline", some "o")]

def attribute? (name : String) : Option String :=
  (attributeNames.find? fun (long, short) => long == name || short == some name).map (·.1)

/-- The greatest number of a colour, and the greatest value of a part of one. -/
def maxColour : Nat := 255

/-- The most digits that a number is read from. -/
def maxDigits : Nat := 4300

/-- The number that decimal digits stand for; there is none if there is no digit. -/
def number? (digits : List Char) : Option Nat :=
  if digits.isEmpty then none
  else digits.foldlM (fun n c => (Text.decimal? c).map (n * 10 + ·)) 0

/-- Whether a character is a digit in hexadecimal, in lower case. -/
def isHexDigit (c : Char) : Bool := c.isDigit || ('a' ≤ c && c ≤ 'f')

/-- The inside of brackets after a word, if a text is made of them. -/
def insideOf? (word : String) (cs : List Char) : Option (List Char) :=
  match List.isPrefixOf? (word.toList ++ ['(']) cs with
  | some rest => if rest.getLast? = some ')' then some rest.dropLast else none
  | none => none

/-- The parts of a text between commas. -/
def commaParts (cs : List Char) : List (List Char) :=
  cs.foldr (fun c parts =>
    match c, parts with
    | ',', parts => [] :: parts
    | c, part :: parts => (c :: part) :: parts
    | c, [] => [[c]]) [[]]

/-- Check a colour that is given by its parts of red, green and blue. -/
def checkParts (inside : List Char) : Except Problem Unit :=
  let parts := commaParts inside
  if inside.isEmpty ∨ parts.length ≠ 3 ∨
      !inside.all (fun c => (Text.decimal? c).isSome || c == ',') then
    .error .unreadable
  else if parts.any fun part => part.isEmpty || part.length > maxDigits then
    .error .badColourPart
  else if parts.all fun part => (number? part).any (· ≤ maxColour) then .ok ()
  else .error .unreadable

/-- Check a colour in lower case. -/
def checkColour (cs : List Char) : Except Problem Unit :=
  if String.ofList cs = "default" ∨ String.ofList cs ∈ colourNames then .ok ()
  else
    match cs with
    | '#' :: digits =>
      if digits.length = 6 ∧ digits.all isHexDigit then .ok () else .error .unreadable
    | _ =>
      match insideOf? "color" cs, insideOf? "rgb" cs with
      | some digits, _ =>
        if digits.length ≤ 3 ∧ digits.all Char.isDigit ∧ (number? digits).any (· ≤ maxColour) then
          .ok ()
        else .error .unreadable
      | none, some inside => checkParts inside
      | none, none => .error .unreadable

/-- The name of a colour, in lower case. -/
def readColour (word : String) : Except Problem String :=
  let name := Text.lowered word.toList
  (checkColour name).map fun _ => String.ofList name

/-- The style with an attribute switched on or off. -/
def withAttribute (s : Style) (name : String) (value : Bool) : Style :=
  { s with attributes := s.attributes.filter (·.1 != name) ++ [(name, value)] }

/-- Add what words describe to a style. -/
def readWords (s : Style) : List String → Except Problem Style
  | [] => .ok s
  | word :: words =>
    let lower := String.ofList (Text.lowered word.toList)
    if lower = "on" ∨ lower = "not" ∨ lower = "link" then
      match words with
      | [] => .error .unreadable
      | next :: words => do
        if lower = "on" then
          let ground ← readColour next
          readWords { s with ground := some ground } words
        else if lower = "link" then readWords { s with link := some next } words
        else
          match attribute? next with
          | some name => readWords (s.withAttribute name false) words
          | none => .error .unreadable
    else
      match attribute? lower with
      | some name => readWords (s.withAttribute name true) words
      | none => do
        let colour ← readColour lower
        readWords { s with colour := some colour } words

def words (cs : List Char) : List String :=
  ((cs.foldr (fun c parts =>
    match Text.isBlank c, parts with
    | true, parts => [] :: parts
    | false, part :: parts => (c :: part) :: parts
    | false, [] => [[c]]) [[]]).filter (!·.isEmpty)).map String.ofList

/-- The word for a style without any attribute. -/
def plainName : String := "none"

def parse (text : List Char) : Except Problem Style :=
  if words text = [plainName] then .ok {} else readWords {} (words text)

/-- The words of a style's normal form. -/
def normalWords (s : Style) : List String :=
  (attributeNames.flatMap fun (name, _) =>
    match s.attributes.lookup name with
    | some true => [name]
    | some false => ["not", name]
    | none => [])
    ++ s.colour.toList
    ++ (s.ground.toList.flatMap fun ground => ["on", ground])
    ++ (s.link.toList.flatMap fun link => ["link", link])

def toText (s : Style) : String :=
  let text := String.intercalate " " s.normalWords
  if text.isEmpty then plainName else text

/-- The normal form of a description. A colour with a part that is missing has none, nor has one
with a part that is too long. -/
def normalForm (text : List Char) : Except Problem String :=
  match parse text with
  | .ok s => .ok s.toText
  | .error .unreadable => .ok (String.ofList (Text.lowered (Text.trim text)))
  | .error .badColourPart => .error .badColourPart

/-- Whether reading a description ends at a colour with a part that is missing or too long. -/
def endsAtColourPart (text : List Char) : Bool :=
  match parse text with
  | .error .badColourPart => true
  | _ => false

end Style

end TypeTags
