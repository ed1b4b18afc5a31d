import TypeTags.Fault
import TypeTags.Token.Piece

/-!
# Tokens

A token is a lexeme with its place in the text: the offsets of its first character and of the one
after its last, and the line on which it ends. The tokens of a text are its lexemes in order and one
last token that marks the end.

* `tokenize`: the tokens of a text, or the fault of a string literal that is never closed.
-/

namespace TypeTags

/-- A lexeme with its place in the text. -/
structure Token where
  kind : TokenKind
  value : String
  /-- Offset of the first character. -/
  start : Nat
  /-- Offset after the last character. -/
  stop : Nat
  /-- Line of the last character, counted from 1. -/
  line : Nat
  deriving DecidableEq, Repr

namespace Token

/-- Whether the token is the given plain name. -/
def isWord (t : Token) (word : String) : Bool := t.kind == .ident && t.value == word

/-- The mark for the end of a text at the given offset. -/
def endMark (offset line : Nat) : Token := ⟨.eof, "", offset, offset, line⟩

/-- The tokens of a list of pieces that starts at an offset on a line. -/
def locate (offset line : Nat) : List Piece → List Token
  | [] => [endMark offset line]
  | .gap cs :: pieces => locate (offset + cs.length) (line + (Piece.gap cs).lineFeeds) pieces
  | .lexeme kind cs :: pieces =>
    let stop := offset + cs.length
    let line := line + (Piece.lexeme kind cs).lineFeeds
    ⟨kind, String.ofList cs, offset, stop, line⟩ :: locate stop line pieces

end Token

def tokenize (text : List Char) : Except Fault (List Token) :=
  match cut false text with
  | ⟨pieces, []⟩ => .ok (Token.locate 0 1 pieces)
  | ⟨_, stuck⟩ => .error ⟨.unterminatedString, some (text.length - stuck.length)⟩

end TypeTags
