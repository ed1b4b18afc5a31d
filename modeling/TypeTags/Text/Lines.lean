import TypeTags.Text.CharClass

/-!
# Lines

Source text is broken into lines at line feeds alone (`sourceLines`); comment text is broken at
every line separator, with a carriage return before a line feed counted into it (`breakLines`).
-/

namespace TypeTags.Text

/-- A character that ends a line of comment text. -/
def isLineBreak (c : Char) : Bool :=
  c ∈ ['\n', '\r', '\x0b', '\x0c', '\x1c', '\x1d', '\x1e', '\u0085', '\u2028', '\u2029']

/-- The lines of a comment text. A line break ends a line, so that the last line is not counted when
nothing follows its break. -/
def breakLines : List Char → List (List Char)
  | [] => []
  | '\r' :: '\n' :: cs => [] :: breakLines cs
  | c :: cs =>
    if isLineBreak c then [] :: breakLines cs
    else match breakLines cs with
      | [] => [[c]]
      | line :: lines => (c :: line) :: lines

/-- The pieces between the occurrences of `sep`; there is one more of them than of `sep`. -/
def splitOnChar (sep : Char) : List Char → List (List Char)
  | [] => [[]]
  | c :: cs =>
    if c == sep then [] :: splitOnChar sep cs
    else match splitOnChar sep cs with
      | [] => [[c]]
      | piece :: pieces => (c :: piece) :: pieces

/-- The lines of a source text, which line feeds separate. -/
def sourceLines (cs : List Char) : List (List Char) := splitOnChar '\n' cs

end TypeTags.Text
