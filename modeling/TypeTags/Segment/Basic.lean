import TypeTags.Segment.Extent
import TypeTags.Text.Lines
import TypeTags.Text.Trim

/-!
# Segments of source text

The source between two declarations, line by line: blank lines, comment lines, signature blocks,
which may take several lines, and other code. Lines inside a block comment and magic comments count
as blank. The first and the last line only count when they hold something, because they are the tail
and the head of lines that belong to something else.

* `segments`: the segments of a text whose first line has the given number.
-/

namespace TypeTags

/-- What a stretch of source is. -/
inductive SegmentKind where
  | blank
  | comment
  | sig
  | code
  deriving DecidableEq, Repr

/-- A stretch of source with its first and its last line. -/
structure Segment where
  kind : SegmentKind
  text : List Char
  line : Int
  lastLine : Int
  deriving DecidableEq, Repr

namespace Segment

/-- The words that make a comment a magic one when a colon follows. -/
def magicWords : List (List Char) :=
  ["typed", "frozen_string_literal", "encoding", "coding", "warn_indent",
   "shareable_constant_value"].map String.toList

/-- Whether a text holds `-*-`. -/
def holdsModeMark : List Char → Bool
  | [] => false
  | c :: cs => ['-', '*', '-'].isPrefixOf (c :: cs) || holdsModeMark cs

/-- Whether a word and a colon stand at the head of a text, with white space at most between. -/
def startsWithLabel (cs word : List Char) : Bool :=
  word.isPrefixOf cs && ((cs.drop word.length).dropWhile Text.isBlank).head? == some ':'

/-- Whether a comment line, without the white space around it, speaks to the interpreter. -/
def isMagic : List Char → Bool
  | '#' :: cs =>
    match cs.dropWhile Text.isBlank with
    | '-' :: '*' :: '-' :: rest => holdsModeMark rest
    | rest => magicWords.any (startsWithLabel rest)
  | _ => false

/-- Whether a line opens a block comment. -/
def opensBlockComment (line : List Char) : Bool := "=begin".toList.isPrefixOf line

/-- Whether a line closes a block comment. -/
def closesBlockComment (line : List Char) : Bool := "=end".toList.isPrefixOf line

/-- What a line outside a block comment is. -/
inductive LineClass where
  | blockComment
  | empty
  | magic
  | comment
  | sig
  | code
  deriving DecidableEq, Repr

/-- Classify a line outside a block comment. -/
def classify (line : List Char) : LineClass :=
  let stripped := Text.trim line
  if opensBlockComment line then .blockComment
  else if stripped.isEmpty then .empty
  else if stripped.head? == some '#' then if isMagic stripped then .magic else .comment
  else if (afterSigWord? stripped).isSome then .sig
  else .code

/-- The signature block that starts on the line in front of `rest`, where `rest` starts after the
white space of that line: its text and how many line feeds it holds. A block that does not close
takes the whole text, and counts as one line. -/
def sigBlock (rest : List Char) : List Char × Nat :=
  match afterSig rest with
  | some after =>
    let text := rest.take (rest.length - after.length)
    (text, text.count '\n')
  | none => (rest, 0)

/-- The segments of lines. `inBlock` tells whether a block comment is open, `skip` how many lines
belong to the segment before, `line` is the number of the first line and `rest` the text from it on.
-/
def fromLines (isFirst inBlock : Bool) (skip : Nat) (line : Int) (rest : List Char) :
    List (List Char) → List Segment
  | [] => []
  | piece :: pieces =>
    let after := rest.drop (piece.length + 1)
    match skip with
    | skip + 1 => fromLines false inBlock skip (line + 1) after pieces
    | 0 =>
      if inBlock then
        ⟨.blank, piece, line, line⟩
          :: fromLines false (!closesBlockComment piece) 0 (line + 1) after pieces
      else
        match classify piece with
        | .blockComment =>
          ⟨.blank, piece, line, line⟩ :: fromLines false true 0 (line + 1) after pieces
        | .empty =>
          let others := fromLines false false 0 (line + 1) after pieces
          if isFirst || pieces.isEmpty then others else ⟨.blank, piece, line, line⟩ :: others
        | .magic => ⟨.blank, piece, line, line⟩ :: fromLines false false 0 (line + 1) after pieces
        | .comment =>
          ⟨.comment, piece, line, line⟩ :: fromLines false false 0 (line + 1) after pieces
        | .code => ⟨.code, piece, line, line⟩ :: fromLines false false 0 (line + 1) after pieces
        | .sig =>
          let (text, feeds) := sigBlock (rest.dropWhile Text.isBlank)
          ⟨.sig, text, line, line + feeds⟩ :: fromLines false false feeds (line + 1) after pieces

end Segment

/-- The segments of a text whose first line has the given number. -/
def segments (text : List Char) (startLine : Int) : List Segment :=
  Segment.fromLines true false 0 startLine text (Text.sourceLines text)

end TypeTags
