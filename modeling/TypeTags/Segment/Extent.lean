import TypeTags.Text.CharClass

/-!
# How far a signature block reaches

In raw source text a signature block starts with the word `sig` and ends with the brace that matches
its own, or with the word `end` that matches its `do`. Both are found by a machine that reads one
character at a time and knows whether it is inside a string literal or a comment.

* `afterBrackets`: the text after a bracketed group.
* `afterEnd`: the text after a `do` block.
* `afterSig`: the text after a signature block.
* `sigExtent`: the offset where a signature block ends.
-/

namespace TypeTags.Segment

/-- Where a reader of brackets is. -/
inductive BracketMode where
  | code
  | comment
  /-- Inside a string literal with the given quote. -/
  | string (quote : Char)
  /-- After a backslash in such a literal. -/
  | escape (quote : Char)
  deriving DecidableEq, Repr

/-- The bracket that closes what a character opens. -/
def closing? : Char → Option Char
  | '(' => some ')'
  | '[' => some ']'
  | '\x7b' => some '\x7d'
  | _ => none

def isClosing (c : Char) : Bool := c == ')' || c == ']' || c == '\x7d'

/-- Whether the character starts a string literal. -/
def isQuote (c : Char) : Bool := c == '\'' || c == '"'

/-- Where reading a character of a string literal or of a comment leads. -/
def BracketMode.next (c : Char) : BracketMode → BracketMode
  | code => code
  | comment => if c = '\n' then code else comment
  | string quote => if c = quote then code else if c = '\\' then escape quote else string quote
  | escape quote => string quote

/-- The text after the bracket that closes the outermost of the groups that await `stack`; none if a
bracket does not match or the text ends. -/
def afterBrackets (mode : BracketMode) (stack : List Char) : List Char → Option (List Char)
  | [] => none
  | c :: cs =>
    if mode = .code then
      if isQuote c then afterBrackets (.string c) stack cs
      else if c = '#' then afterBrackets .comment stack cs
      else match closing? c with
        | some closer => afterBrackets .code (closer :: stack) cs
        | none =>
          if isClosing c then
            match stack with
            | [] => none
            | [closer] => if c = closer then some cs else none
            | closer :: outer => if c = closer then afterBrackets .code outer cs else none
          else afterBrackets .code stack cs
    else afterBrackets (mode.next c) stack cs

/-- Where a reader of words is. -/
inductive WordMode where
  /-- In code; `glued` tells whether a word may not start here. -/
  | code (glued : Bool)
  | comment
  /-- Inside a string literal with the given quote. -/
  | string (quote : Char)
  /-- After a backslash in such a literal. -/
  | escape (quote : Char)
  /-- Inside a word, of which these characters are read. -/
  | word (chars : List Char)
  deriving DecidableEq, Repr

/-- Where a character that is not part of a word leads. -/
def WordMode.between (c : Char) : WordMode :=
  if isQuote c then string c
  else if c = '#' then comment
  else code (Text.isWordChar c)

/-- Whether a word may start with the character. -/
def isWordStart (c : Char) : Bool := c.isAlpha || c == '_'

/-- How a word changes the number of open blocks. -/
def nesting (word : List Char) : Int :=
  if word = ['d', 'o'] then 1 else if word = ['e', 'n', 'd'] then -1 else 0

/-- Whether a word closes the last open block. -/
def closesBlock (depth : Int) (word : List Char) : Bool :=
  word == ['e', 'n', 'd'] && depth == 1

/-- The text after the word `end` that closes the last of `depth` open blocks. -/
def afterEnd (depth : Int) (mode : WordMode) : List Char → Option (List Char)
  | [] =>
    match mode with
    | .word chars => if closesBlock depth chars then some [] else none
    | _ => none
  | c :: cs =>
    match mode with
    | .code glued =>
      if isWordStart c ∧ !glued then afterEnd depth (.word [c]) cs
      else afterEnd depth (.between c) cs
    | .comment => afterEnd depth (if c = '\n' then .code false else .comment) cs
    | .string quote =>
      afterEnd depth
        (if c = quote then .code false else if c = '\\' then .escape quote else .string quote) cs
    | .escape quote => afterEnd depth (.string quote) cs
    | .word chars =>
      if Text.isWordChar c then afterEnd depth (.word (chars ++ [c])) cs
      else if c = '?' ∨ c = '!' then afterEnd depth (.code false) cs
      else if closesBlock depth chars then some (c :: cs)
      else afterEnd (depth + nesting chars) (.between c) cs

/-- Whether a text goes on with a character of a word. -/
def startsInWord : List Char → Bool
  | [] => false
  | c :: _ => Text.isWordChar c

/-- Whether a text starts with the word `do`. -/
def startsWithDo : List Char → Bool
  | 'd' :: 'o' :: cs => !startsInWord cs
  | _ => false

/-- The text after the word `sig` and the white space behind it, if it goes on with arguments or a
block. -/
def afterSigWord? : List Char → Option (List Char)
  | 's' :: 'i' :: 'g' :: cs =>
    if startsInWord cs then none
    else
      let rest := cs.dropWhile Text.isBlank
      match rest with
      | '(' :: _ => some rest
      | '\x7b' :: _ => some rest
      | _ => if startsWithDo rest then some rest else none
  | _ => none

/-- The text after a block in braces or from `do` to `end`. -/
def afterBlock : List Char → Option (List Char)
  | '\x7b' :: cs => afterBrackets .code [] ('\x7b' :: cs)
  | 'd' :: 'o' :: cs => afterEnd 0 (.code false) ('d' :: 'o' :: cs)
  | _ => none

/-- The text after a signature block that stands at the head of a text. -/
def afterSig (cs : List Char) : Option (List Char) :=
  match afterSigWord? cs with
  | some ('(' :: rest) =>
    (afterBrackets .code [] ('(' :: rest)).bind fun rest => afterBlock (rest.dropWhile Text.isBlank)
  | some rest => afterBlock rest
  | none => none

/-- The offset after the signature block that starts at an offset. -/
def sigExtent (text : List Char) (start : Nat) : Option Nat :=
  (afterSig (text.drop start)).map fun rest => text.length - rest.length

end TypeTags.Segment
