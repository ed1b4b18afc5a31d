import TypeTags.Report.Emoji
import TypeTags.Report.Literal
import TypeTags.Report.Style

/-!
# Marked up text

Text for a report may hold tags such as `[bold]` and `[/bold]`. A tag is a lower-case letter or one
of `#`, `/` and `@` after an opening bracket, and anything but an opening bracket up to the next
closing one. Tags are not printed. A backslash before a tag or a bracket makes it text. Names of
pictographs are replaced in each stretch of text.

* `Markup.pieces`: a text as plain stretches and tags.
* `Markup.read`: the text that is printed with its tags, or what is wrong with one of them.
* `Markup.plain`: the text that is printed, or what is wrong with its tags.
-/

namespace TypeTags.Markup

/-- A character that a report leaves out: it would move the cursor or ring the bell. -/
def isSilent (c : Char) : Bool := c ∈ ['\x07', '\x08', '\x0b', '\x0c', '\r']

/-- A text without the characters that a report leaves out. -/
def audible (cs : List Char) : List Char := cs.filter (!isSilent ·)

inductive Piece where
  /-- Text that is printed. -/
  | plain (text : List Char)
  /-- A tag, by what stands between its brackets. -/
  | tag (inside : List Char)
  deriving DecidableEq, Repr

/-- A character that a tag can start with. -/
def startsTag (c : Char) : Bool := c.isLower || c == '#' || c == '/' || c == '@'

/-- A character that can stand inside a tag. -/
def isTagChar (c : Char) : Bool := c != '[' && c != ']'

/-- The inside of the tag that starts here, and what follows the tag. -/
def tagAt? : List Char → Option (List Char × List Char)
  | '[' :: c :: cs =>
    if startsTag c then
      match cs.dropWhile isTagChar with
      | ']' :: rest => some (c :: cs.takeWhile isTagChar, rest)
      | _ => none
    else none
  | _ => none

theorem length_lt_of_tagAt? {cs inside rest : List Char} (h : tagAt? cs = some (inside, rest)) :
    rest.length < cs.length := by
  unfold tagAt? at h
  split at h
  · rename_i c cs
    split at h
    · split at h
      · rename_i tail hdrop
        have hle := (List.dropWhile_suffix (p := isTagChar) (l := cs)).length_le
        rw [hdrop] at hle
        simp only [List.length_cons, Option.some.injEq, Prod.mk.injEq] at hle h ⊢
        rw [← h.2]
        omega
      · simp at h
    · simp at h
  · simp at h

/-- The text before the first tag, and the inside of the tag with what follows it. -/
def toFirstTag : List Char → List Char × Option (List Char × List Char)
  | [] => ([], none)
  | c :: cs =>
    match tagAt? (c :: cs) with
    | some found => ([], some found)
    | none =>
      let (before, found) := toFirstTag cs
      (c :: before, found)

theorem length_lt_of_toFirstTag {cs before inside rest : List Char}
    (h : toFirstTag cs = (before, some (inside, rest))) : rest.length < cs.length := by
  induction cs generalizing before with
  | nil => simp [toFirstTag] at h
  | cons c cs ih =>
    rw [toFirstTag] at h
    split at h
    · rename_i found htag
      have hfound : found = (inside, rest) := by simpa using congrArg Prod.snd h
      exact length_lt_of_tagAt? (hfound ▸ htag)
    · have hfound : (toFirstTag cs).2 = some (inside, rest) := by
        simpa using congrArg Prod.snd h
      have := ih (Prod.ext rfl hfound : toFirstTag cs = ((toFirstTag cs).1, some (inside, rest)))
      simp only [List.length_cons]
      omega

/-- A text in which a bracket takes away a backslash before it. -/
def unescaped : List Char → List Char
  | '\\' :: '[' :: cs => '[' :: unescaped cs
  | c :: cs => c :: unescaped cs
  | [] => []

/-- The pieces of a tag after a number of backslashes: each pair of them stands for one, and one
that is left over makes the tag text. -/
def afterBackslashes (count : Nat) (inside : List Char) : List Piece :=
  [.plain (List.replicate (count / 2) '\\'),
    if count % 2 = 1 then .plain ('[' :: inside ++ [']']) else .tag inside]

def pieces (cs : List Char) : List Piece :=
  match h : toFirstTag cs with
  | (before, none) => [.plain (unescaped before)]
  | (before, some (inside, rest)) =>
    let backslashes := (before.reverse.takeWhile (· == '\\')).length
    have : rest.length < cs.length := length_lt_of_toFirstTag h
    .plain (unescaped (before.take (before.length - backslashes)))
      :: afterBackslashes backslashes inside ++ pieces rest
termination_by cs.length

/-- A tag that was opened: the normal form of its style, its parameters, which follow an equals
sign, and whether there is text in its reach. -/
structure OpenTag where
  name : String
  parameters : Option (List Char) := none
  covers : Bool := false
  deriving DecidableEq, Repr

def OpenTag.description (tag : OpenTag) : List Char :=
  match tag.parameters with
  | none => tag.name.toList
  | some parameters => tag.name.toList ++ ' ' :: parameters

inductive Problem where
  /-- The tag closes what is not open. -/
  | unopened
  /-- The tag that is closed has parameters that cannot be read. -/
  | badParameters
  /-- The tag names a colour of which a part is missing or too long. -/
  | badColour
  deriving DecidableEq, Repr

def Problem.message : Problem → String
  | unopened => "A closing tag has no opening tag"
  | badParameters => "The parameters of a tag cannot be read"
  | badColour => "A part of a colour cannot be read"

/-- The normal form of the style that a tag names. -/
def styleName (name : List Char) : Except Problem String :=
  match Style.normalForm name with
  | .ok name => .ok name
  | .error _ => .error .badColour

def isHandlerChar (c : Char) : Bool := Text.isWordChar c || c == '.'

/-- Whether the parameters of a tag can be read: they are a handler's name alone, or a literal, or a
literal in brackets on one line after a handler's name. -/
def readable (parameters : List Char) : Bool :=
  let cs := Text.trim parameters
  let rest := cs.dropWhile isHandlerChar
  if rest.isEmpty then true
  else if rest.length ≥ 2 ∧ rest.head? = some '(' ∧ rest.getLast? = some ')' ∧ '\n' ∉ rest then
    Literal.isLiteral rest
  else Literal.isLiteral cs

/-- Whether a tag is closed well: what starts with `@` is a handler, with parameters to be read. -/
def OpenTag.closesWell (tag : OpenTag) : Bool :=
  match tag.name.toList.head?, tag.parameters with
  | some '@', some (c :: cs) => readable (c :: cs)
  | _, _ => true

/-- A marked up text while it is read: the stretches of text and the tags that were closed, both
from the last on, and the tags that are open, the innermost first. -/
structure Reading where
  stretches : List (List Char) := []
  closed : List OpenTag := []
  isOpen : List OpenTag := []

/-- Add a stretch of text. Line feeds alone are not text in the reach of a tag. -/
def Reading.addText (r : Reading) (text : List Char) : Reading :=
  let covers := text.any (· != '\n')
  { r with
    stretches := text :: r.stretches
    isOpen := r.isOpen.map fun tag => { tag with covers := tag.covers || covers } }

def Reading.close (r : Reading) (tag : OpenTag) : Except Problem Reading :=
  if tag.closesWell then
    .ok { r with closed := tag :: r.closed, isOpen := r.isOpen.erase tag }
  else .error .badParameters

/-- Add a tag. A closing tag without a name closes the innermost, another one the innermost of its
name. -/
def Reading.addTag (r : Reading) (inside : List Char) : Except Problem Reading :=
  match inside.span (· != '=') with
  | ('/' :: name, _) => do
    let found ← if (Text.trim name).isEmpty then pure r.isOpen.head?
      else (styleName (Text.trim name)).map fun name => r.isOpen.find? (·.name == name)
    match found with
    | some tag => r.close tag
    | none => .error .unopened
  | (name, equals) => do
    let name ← styleName name
    let parameters := equals.head?.map fun _ => equals.tail
    return { r with isOpen := { name, parameters } :: r.isOpen }

def Reading.add (r : Reading) : Piece → Except Problem Reading
  | .plain text => .ok (r.addText (audible (Emoji.replaced text)))
  | .tag inside => r.addTag inside

/-- A text that was read: what is printed of it, and its tags. -/
structure Marked where
  text : List Char
  tags : List OpenTag
  deriving DecidableEq, Repr

/-- Read a marked up text, or tell what is wrong with the first tag that is wrong. -/
def read (text : String) : Except Problem Marked :=
  ((pieces text.toList).foldlM Reading.add {}).map fun r =>
    { text := r.stretches.reverse.flatten, tags := r.isOpen ++ r.closed }

/-- Whether the style of a tag is looked up. Without text in its reach it is, unless line feeds or
tabulators divide the text. -/
def Marked.isStyled (m : Marked) (tag : OpenTag) : Bool :=
  tag.covers || (!m.text.contains '\n' && !m.text.contains '\t')

/-- The text that is printed, unless a part of a colour in a style that is looked up is missing
or too long. -/
def Marked.printed (m : Marked) : Except Problem (List Char) :=
  if m.tags.any fun tag => m.isStyled tag && Style.endsAtColourPart tag.description then
    .error .badColour
  else .ok m.text

/-- The text that is printed, or what is wrong with the tags. -/
def plain (text : String) : Except Problem (List Char) := do (← read text).printed

end TypeTags.Markup
