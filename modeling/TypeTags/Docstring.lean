import TypeTags.Tag
import TypeTags.Text.Lines
import TypeTags.Text.Trim

/-!
# Docstrings

A documentation comment is free text with tags in it. Read line by line, each line plays one role:
it opens a tag, goes on with the text of the tag opened last, belongs to an `@!` directive and is
dropped, or is free text. An indented line goes on with what the line before it belongs to.

* `Docstring.roles`: the role of each line.
* `Docstring.parse`: the free text and the tags of a comment.
* `Docstring.stripMarker`: a comment line without its marker.
-/

namespace TypeTags

/-- The free text and the tags of a comment. -/
structure Docstring where
  text : String
  tags : List Tag
  deriving DecidableEq, Repr

namespace Docstring

/-- A comment line without its marker and one space after it; a line without a marker only loses the
white space at its end. -/
def stripMarker (line : List Char) : List Char :=
  match Text.trimStart line with
  | '#' :: ' ' :: body => Text.trimEnd body
  | '#' :: body => Text.trimEnd body
  | _ => Text.trimEnd line

/-! ## Types -/

/-- A bracket that opens inside a list of types. -/
def isOpening (c : Char) : Bool := c == '[' || c == '<' || c == '\x7b' || c == '('

/-- A bracket that closes inside a list of types. -/
def isClosing (c : Char) : Bool := c == ']' || c == '>' || c == '\x7d' || c == ')'

/-- Whether `c` after `previous` ends an arrow, and so closes nothing. -/
def endsArrow (previous c : Char) : Bool := c == '>' && previous == '='

/-- The pieces of a list of types between the commas outside all brackets, given the character
before and the number of open brackets. -/
def typePieces (previous : Char) (depth : Nat) : List Char → List (List Char)
  | [] => [[]]
  | c :: cs =>
    if c = ',' ∧ depth = 0 then [] :: typePieces c depth cs
    else
      let inner :=
        if endsArrow previous c then depth
        else if isOpening c then depth + 1
        else if isClosing c then depth - 1
        else depth
      match typePieces c inner cs with
      | [] => [[c]]
      | piece :: pieces => (c :: piece) :: pieces

/-- The types of a list, split at the commas outside all brackets. -/
def splitTypes (cs : List Char) : List String :=
  (((typePieces ' ' 0 cs).map Text.trim).filter (!·.isEmpty)).map String.ofList

/-- The characters up to the bracket that closes the outermost of `depth` open ones, and those after
it. -/
def closeBrackets (previous : Char) (depth : Nat) : List Char → Option (List Char × List Char)
  | [] => none
  | c :: cs =>
    let keep := Option.map fun (inside, after) => (c :: inside, after)
    if endsArrow previous c then keep (closeBrackets c depth cs)
    else if isOpening c then keep (closeBrackets c (depth + 1) cs)
    else if isClosing c then
      if depth ≤ 1 then some ([], cs) else keep (closeBrackets c (depth - 1) cs)
    else keep (closeBrackets c depth cs)

/-- A list of types in brackets at the head of a text, and the text after it. -/
def leadingTypes? : List Char → Option (List String × List Char)
  | '[' :: cs =>
    (closeBrackets '[' 1 cs).map fun (inside, after) => (splitTypes inside, Text.trim after)
  | _ => none

/-! ## Tags -/

/-- Tags that carry a name. -/
def namedTags : List String :=
  ["param", "yieldparam", "option", "attr", "attr_reader", "attr_writer"]

/-- Tags that carry types and no name. -/
def typedTags : List String := ["return", "yieldreturn", "raise"]

/-- The first word of a text and what follows the space after it. -/
def firstWord (cs : List Char) : List Char × List Char :=
  (cs.takeWhile (· != ' '), Text.trim ((cs.dropWhile (· != ' ')).drop 1))

def nameOf? (cs : List Char) : Option String := if cs.isEmpty then none else some (String.ofList cs)

/-- The tag that a tag name and the rest of its line make. The types of a named tag stand before or
after its name. -/
def buildTag (tagName : String) (rest : List Char) : Tag :=
  let rest := Text.trim rest
  if tagName ∈ namedTags then
    match leadingTypes? rest with
    | some (types, rest) =>
      let (name, text) := firstWord rest
      { tagName, name := nameOf? name, types, text := String.ofList text }
    | none =>
      let (name, text) := firstWord rest
      let (types, text) := (leadingTypes? text).getD ([], text)
      { tagName, name := nameOf? name, types, text := String.ofList text }
  else if tagName ∈ typedTags then
    let (types, text) := (leadingTypes? rest).getD ([], rest)
    { tagName, types, text := String.ofList text }
  else { tagName, text := String.ofList rest }

/-- A character that a tag name starts with. -/
def isTagStart (c : Char) : Bool := c.isAlpha || c == '_'

/-- The tag that a line opens, if it opens one. -/
def tagLine? : List Char → Option Tag
  | '@' :: c :: cs =>
    if isTagStart c then
      let tagName := String.ofList (c :: cs.takeWhile Text.isWordChar)
      match cs.dropWhile Text.isWordChar with
      | [] => some (buildTag tagName [])
      | d :: rest => if Text.isBlank d then some (buildTag tagName rest) else none
    else none
  | _ => none

/-! ## Lines -/

/-- What the lines so far leave open for an indented line. -/
inductive Opened where
  | nothing
  | tag
  | directive
  deriving DecidableEq, Repr

/-- What a line of a comment is. -/
inductive Role where
  /-- The line opens a tag. -/
  | opens (tag : Tag)
  /-- The line goes on with the text of the tag opened last. -/
  | continues (text : String)
  /-- The line belongs to a directive. -/
  | dropped
  /-- The line is free text. -/
  | free (line : List Char)
  deriving DecidableEq, Repr

def isDirective : List Char → Bool
  | '@' :: '!' :: _ => true
  | _ => false

/-- Whether a line is indented and holds something. -/
def isIndented (line : List Char) : Bool :=
  (line.head? == some ' ' || line.head? == some '\t') && !(Text.trim line).isEmpty

/-- The role of a line, and what it leaves open. -/
def roleOf (opened : Opened) (line : List Char) : Role × Opened :=
  if isDirective line then (.dropped, .directive)
  else match tagLine? line with
    | some tag => (.opens tag, .tag)
    | none =>
      if isIndented line then
        match opened with
        | .tag => (.continues (String.ofList (Text.trim line)), .tag)
        | .directive => (.dropped, .directive)
        | .nothing => (.free line, .nothing)
      else (.free line, .nothing)

def roles (opened : Opened) : List (List Char) → List Role
  | [] => []
  | line :: lines =>
    let (role, opened) := roleOf opened line
    role :: roles opened lines

/-- The tags that roles make, after the tag that is still open. -/
def gather (current : Option Tag) : List Role → List Tag
  | [] => current.toList
  | .opens tag :: rest => current.toList ++ gather (some tag) rest
  | .continues text :: rest => gather (current.map (·.extend text)) rest
  | .dropped :: rest => current.toList ++ gather none rest
  | .free _ :: rest => current.toList ++ gather none rest

/-- The lines of free text, in order. -/
def freeLines (roles : List Role) : List (List Char) :=
  roles.filterMap fun
    | .free line => some line
    | _ => none

/-- Lines with line feeds between them. -/
def joinLines (lines : List (List Char)) : List Char := List.intercalate ['\n'] lines

/-- The free text and the tags of a comment whose markers are stripped. -/
def parse (comment : List Char) : Docstring :=
  let roles := roles .nothing (Text.breakLines comment)
  { text := String.ofList (Text.trim (joinLines (freeLines roles)))
    tags := gather none roles }

end Docstring

end TypeTags
