import TypeTags.Settings.Reference
import TypeTags.Text.Trim

/-!
# Files of variables

A file of variables assigns one variable a line, as in `NAME=value`. A name may be quoted and may
follow the word `export`; a value may be quoted, with escapes inside the quotes; comments start with
`#`. Values may refer to variables that were assigned before and to those of the environment. A line
that cannot be read assigns nothing.

* `EnvFile.statements`: what the lines of a file say.
* `EnvFile.bindings`: the variables of a file, with their values.
-/

namespace TypeTags.EnvFile

def isLineEnd (c : Char) : Bool := c == '\n'

/-- White space inside a line. -/
def isInlineBlank (c : Char) : Bool := Text.isBlank c && !isLineEnd c

/-- A text whose lines all end with line feeds. -/
def withLineFeeds : List Char → List Char
  | '\r' :: '\n' :: cs => '\n' :: withLineFeeds cs
  | c :: cs => (if c = '\r' then '\n' else c) :: withLineFeeds cs
  | [] => []

/-- The characters of a file, without a byte order mark and with line feeds at the ends of lines. -/
def content (text : String) : List Char :=
  match withLineFeeds text.toList with
  | '\ufeff' :: cs => cs
  | cs => cs

/-- What one step of reading gives, with what is left; or where it could not go on. -/
abbrev Read (α : Type) : Type := Except (List Char) (α × List Char)

/-- What follows the line that `cs` is inside of. -/
def dropLine (cs : List Char) : List Char := (cs.dropWhile (!isLineEnd ·)).drop 1

/-- The text without a leading word `export`. -/
def dropExport (cs : List Char) : List Char :=
  match List.isPrefixOf? "export".toList cs with
  | some (c :: rest) => if isInlineBlank c then rest.dropWhile isInlineBlank else cs
  | _ => cs

/-- The name that is assigned; a comment assigns none. -/
def readName (cs : List Char) : Read (Option String) :=
  match cs with
  | '#' :: _ => .ok (none, cs)
  | '\'' :: inside =>
    match inside.span (· != '\'') with
    | (c :: name, _ :: rest) => .ok (some (String.ofList (c :: name)), rest)
    | _ => .error cs
  | _ =>
    match cs.span fun c => !(c == '=' || c == '#' || Text.isBlank c) with
    | ([], _) => .error cs
    | (name, rest) => .ok (some (String.ofList name), rest)

/-- The inside of a quoted value and what follows it. A backslash takes the next character along if
that is a backslash or the quote; such a quote ends the value only if no other does. -/
def quotedInside (quote : Char) : List Char → Option (List Char × List Char)
  | [] => none
  | '\\' :: c :: cs =>
    if c = '\\' then
      (quotedInside quote cs).map fun (inside, rest) => ('\\' :: c :: inside, rest)
    else if c = quote then
      match quotedInside quote cs with
      | some (inside, rest) => some ('\\' :: c :: inside, rest)
      | none => some (['\\'], cs)
    else (quotedInside quote (c :: cs)).map fun (inside, rest) => ('\\' :: inside, rest)
  | c :: cs =>
    if c = quote then some ([], cs)
    else (quotedInside quote cs).map fun (inside, rest) => (c :: inside, rest)

/-- What the escapes in single quotes stand for. -/
def singleEscapes : List (Char × Char) := [('\\', '\\'), ('\'', '\'')]

/-- What the escapes in double quotes stand for. -/
def doubleEscapes : List (Char × Char) :=
  [('\\', '\\'), ('\'', '\''), ('"', '"'), ('a', '\x07'), ('b', '\x08'), ('f', '\x0c'),
   ('n', '\n'), ('r', '\r'), ('t', '\t'), ('v', '\x0b')]

def unescape (escapes : List (Char × Char)) : List Char → List Char
  | [] => []
  | '\\' :: c :: cs =>
    match escapes.lookup c with
    | some meant => meant :: unescape escapes cs
    | none => '\\' :: unescape escapes (c :: cs)
  | c :: cs => c :: unescape escapes cs

/-- The text before a comment, which follows white space. -/
def beforeComment : List Char → List Char
  | [] => []
  | c :: cs => if Text.isBlank c && cs.head? == some '#' then [] else c :: beforeComment cs

def readQuoted (quote : Char) (escapes : List (Char × Char)) (cs inside : List Char) :
    Read (Option String) :=
  match quotedInside quote inside with
  | some (value, rest) => .ok (some (String.ofList (unescape escapes value)), rest)
  | none => .error cs

/-- The value after the equals sign. -/
def readValue (cs : List Char) : Read (Option String) :=
  match cs.dropWhile isInlineBlank with
  | '\'' :: inside => readQuoted '\'' singleEscapes cs inside
  | '"' :: inside => readQuoted '"' doubleEscapes cs inside
  | _ =>
    let (value, rest) := cs.span (!isLineEnd ·)
    .ok (some (String.ofList (Text.trim (beforeComment value))), rest)

/-- The equals sign and the value, if there are any. -/
def readAssigned (cs : List Char) : Read (Option String) :=
  match cs.dropWhile isInlineBlank with
  | '=' :: rest => readValue rest
  | rest => .ok (none, rest)

/-- What follows the end of the line, before which only a comment may stand. -/
def readLineEnd (cs : List Char) : Except (List Char) (List Char) :=
  let rest := match cs.dropWhile isInlineBlank with
    | '#' :: comment => comment.dropWhile (!isLineEnd ·)
    | rest => rest
  match rest with
  | c :: after => if isLineEnd c then .ok after else .error rest
  | [] => .ok []

inductive Statement where
  /-- A variable gets a value, or is only named. -/
  | assign (name : String) (value : Option String)
  | comment
  /-- A line that cannot be read; blank lines right before it are counted into it. -/
  | unreadable (line : Nat)
  deriving DecidableEq, Repr

/-- One statement and what follows its line. -/
def readStatement (cs : List Char) : Except (List Char) (Statement × List Char) := do
  let (name, rest) ← readName (dropExport cs)
  let (value, rest) ← readAssigned rest
  let rest ← readLineEnd rest
  match name with
  | some name => return (.assign name value, rest)
  | none => return (.comment, rest)

/-- The statements of a text that starts at the given line. -/
def statements (line : Nat) (cs : List Char) : List Statement :=
  match cs.dropWhile Text.isBlank with
  | [] => []
  | c :: text =>
    let (statement, rest) := match readStatement (c :: text) with
      | .ok (statement, rest) => (statement, rest)
      | .error rest => (.unreadable line, dropLine rest)
    if rest.length < cs.length then
      statement :: statements (line + (cs.take (cs.length - rest.length)).count '\n') rest
    else [statement]
termination_by cs.length

/-- The lines of a file that cannot be read. -/
def unreadableLines (text : String) : List Nat :=
  (statements 1 (content text)).filterMap fun statement => match statement with
    | .unreadable line => some line
    | _ => none

/-- Perform a statement: references in the value stand for what is assigned so far. -/
def assign (environment : Assoc String) (assigned : Assoc (Option String)) :
    Statement → Assoc (Option String)
  | .assign name value =>
    assigned.put name (value.map fun text => String.ofList
      (Reference.expand (Reference.meaning assigned environment) text.toList))
  | _ => assigned

/-- The variables of a file. The last assignment to a variable wins; a name without an equals sign
leaves it without a value. -/
def bindings (environment : Assoc String) (text : String) : Assoc (Option String) :=
  (statements 1 (content text)).foldl (assign environment) []

end TypeTags.EnvFile
