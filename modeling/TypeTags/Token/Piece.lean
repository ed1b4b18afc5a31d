import TypeTags.Text.CharClass

/-!
# Pieces of a signature text

A text is cut into pieces: gaps (white space, and comments that run to the end of their line) and
lexemes. The pieces in order, followed by what could not be cut, are the text itself; the only text
that cannot be cut starts with the quote of a string literal that is never closed.

* `firstPiece`: the piece at the head of a text.
* `cut`: all pieces of a text, with the rest that is stuck.
-/

namespace TypeTags

/-- The kinds of lexemes, and the mark for the end of the text. -/
inductive TokenKind where
  /-- A name with a small initial. -/
  | ident
  /-- A name with a capital initial. -/
  | const
  /-- A name with a colon before it. -/
  | symbol
  | string
  | number
  | dot
  /-- The double colon. -/
  | scope
  | comma
  | colon
  /-- The arrow between a key type and a value type. -/
  | arrow
  | lparen
  | rparen
  | lbrack
  | rbrack
  | lbrace
  | rbrace
  | lt
  | gt
  | other
  /-- The end of the text. -/
  | eof
  deriving DecidableEq, Repr

namespace TokenKind

/-- Whether lexemes of the kind are names; a colon right after a name labels it. -/
def isName : TokenKind → Bool
  | .ident | .const => true
  | _ => false

/-- The kind that closes a group opened by this one. -/
def closer? : TokenKind → Option TokenKind
  | .lparen => some .rparen
  | .lbrack => some .rbrack
  | .lbrace => some .rbrace
  | _ => none

def isCloser : TokenKind → Bool
  | .rparen | .rbrack | .rbrace => true
  | _ => false

/-- The kind of a lexeme of one character that no other rule reads. -/
def ofChar : Char → TokenKind
  | '.' => .dot
  | ',' => .comma
  | '(' => .lparen
  | ')' => .rparen
  | '[' => .lbrack
  | ']' => .rbrack
  | '{' => .lbrace
  | '}' => .rbrace
  | '<' => .lt
  | '>' => .gt
  | _ => .other

end TokenKind

/-- A piece of a text. -/
inductive Piece where
  /-- White space, or a comment up to the end of its line. -/
  | gap (chars : List Char)
  /-- A lexeme of some kind. -/
  | lexeme (kind : TokenKind) (chars : List Char)
  deriving DecidableEq, Repr

namespace Piece

def chars : Piece → List Char
  | gap cs => cs
  | lexeme _ cs => cs

def isName : Piece → Bool
  | gap _ => false
  | lexeme kind _ => kind.isName

/-- The line feeds in the body of a string literal; one after a backslash does not count. -/
def bareLineFeeds : List Char → Nat
  | [] => 0
  | '\\' :: _ :: cs => bareLineFeeds cs
  | c :: cs => bareLineFeeds cs + if c = '\n' then 1 else 0

/-- How many lines the piece moves on: the line feeds of a gap, the bare ones of a literal. -/
def lineFeeds : Piece → Nat
  | gap cs => cs.count '\n'
  | lexeme .string cs => bareLineFeeds cs
  | lexeme _ _ => 0

/-- A name may end in one question or exclamation mark, but no mark is taken from `!=`. -/
def nameMark : List Char → List Char × List Char
  | '?' :: cs => (['?'], cs)
  | '!' :: '=' :: cs => ([], '!' :: '=' :: cs)
  | '!' :: cs => (['!'], cs)
  | cs => ([], cs)

/-- The rest of a string literal up to and with its closing quote `q`, and what follows it. A
backslash takes the next character with it. -/
def stringTail (q : Char) : List Char → Option (List Char × List Char)
  | [] => none
  | c :: cs =>
    if c = q then some ([c], cs)
    else if c = '\\' then
      match cs with
      | [] => none
      | d :: cs => (stringTail q cs).map fun (tail, rest) => (c :: d :: tail, rest)
    else (stringTail q cs).map fun (tail, rest) => (c :: tail, rest)

/-- The name that starts with `c`, and what follows it. -/
def name (c : Char) (cs : List Char) : Piece × List Char :=
  let (mark, rest) := nameMark (cs.dropWhile Text.isWordChar)
  (lexeme (if Text.isUpper c then .const else .ident) (c :: cs.takeWhile Text.isWordChar ++ mark),
   rest)

/-- Whether a number goes on with `c`. -/
def isNumberChar (c : Char) : Bool := Text.isDigit c || c == '.' || c == '_'

/-- The lexeme that starts with a colon, and what follows the colon. A colon right after a name
(`glued`) labels that name and never starts a symbol. -/
def colonLexeme (glued : Bool) : List Char → Piece × List Char
  | [] => (lexeme .colon [':'], [])
  | c :: cs =>
    if c = ':' then (lexeme .scope [':', ':'], cs)
    else if !glued && Text.isNameStart c then
      (lexeme .symbol (':' :: c :: cs.takeWhile Text.isWordChar), cs.dropWhile Text.isWordChar)
    else (lexeme .colon [':'], c :: cs)

/-- The lexeme of one or two punctuation characters. -/
def punctuation (c : Char) : List Char → Piece × List Char
  | '>' :: cs => if c = '=' then (lexeme .arrow ['=', '>'], cs)
    else (lexeme (.ofChar c) [c], '>' :: cs)
  | cs => (lexeme (.ofChar c) [c], cs)

/-- The piece at the head of a text and what follows it; none if a string literal is not closed. -/
def firstPiece (glued : Bool) (c : Char) (cs : List Char) : Option (Piece × List Char) :=
  if Text.isBlank c then some (gap (c :: cs.takeWhile Text.isBlank), cs.dropWhile Text.isBlank)
  else if c = '#' then some (gap (c :: cs.takeWhile (· != '\n')), cs.dropWhile (· != '\n'))
  else if Text.isNameStart c then some (name c cs)
  else if Text.isDigit c then
    some (lexeme .number (c :: cs.takeWhile isNumberChar), cs.dropWhile isNumberChar)
  else if c = '\'' ∨ c = '"' then
    (stringTail c cs).map fun (tail, rest) => (lexeme .string (c :: tail), rest)
  else if c = ':' then some (colonLexeme glued cs)
  else some (punctuation c cs)

theorem nameMark_append (cs : List Char) : (nameMark cs).1 ++ (nameMark cs).2 = cs := by
  fun_cases nameMark cs <;> simp

theorem stringTail_append {q : Char} {cs tail rest : List Char}
    (h : stringTail q cs = some (tail, rest)) : tail ++ rest = cs := by
  fun_induction stringTail q cs generalizing tail rest with
  | case1 => simp at h
  | case2 => simp at h; obtain ⟨rfl, rfl⟩ := h; simp
  | case3 => simp at h
  | case4 d cs _ ih =>
    obtain ⟨⟨t, r⟩, ht, he⟩ := Option.map_eq_some_iff.1 h
    simp only [Prod.mk.injEq] at he
    obtain ⟨rfl, rfl⟩ := he
    simp [ih ht]
  | case5 c cs _ _ ih =>
    obtain ⟨⟨t, r⟩, ht, he⟩ := Option.map_eq_some_iff.1 h
    simp only [Prod.mk.injEq] at he
    obtain ⟨rfl, rfl⟩ := he
    simp [ih ht]

/-- Nothing is lost: a piece and what follows it are the text it was read from. -/
theorem firstPiece_append {glued : Bool} {c : Char} {cs rest : List Char} {p : Piece}
    (h : firstPiece glued c cs = some (p, rest)) : p.chars ++ rest = c :: cs := by
  unfold firstPiece at h
  split at h
  · simp at h; obtain ⟨rfl, rfl⟩ := h; simp [chars]
  split at h
  · simp at h; obtain ⟨rfl, rfl⟩ := h; simp [chars]
  split at h
  · simp only [name, Option.some.injEq, Prod.mk.injEq] at h
    obtain ⟨rfl, rfl⟩ := h
    simp [chars, nameMark_append]
  split at h
  · simp at h; obtain ⟨rfl, rfl⟩ := h; simp [chars]
  split at h
  · obtain ⟨⟨t, r⟩, ht, he⟩ := Option.map_eq_some_iff.1 h
    simp only [Prod.mk.injEq] at he
    obtain ⟨rfl, rfl⟩ := he
    simp [chars, stringTail_append ht]
  split at h
  · rename_i hc
    simp only [Option.some.injEq] at h
    unfold colonLexeme at h
    split at h
    · cases h; simp [chars, hc]
    · split at h
      · rename_i hd; cases h; simp [chars, hc, hd]
      · split at h <;> cases h <;> simp [chars, hc]
  · simp only [Option.some.injEq] at h
    unfold punctuation at h
    split at h
    · split at h
      · rename_i he; cases h; simp [chars, he]
      · cases h; simp [chars]
    · cases h; simp [chars]

/-- A piece is never empty. -/
theorem firstPiece_ne_nil {glued : Bool} {c : Char} {cs rest : List Char} {p : Piece}
    (h : firstPiece glued c cs = some (p, rest)) : p.chars ≠ [] := by
  unfold firstPiece at h
  split at h
  · simp at h; simp [← h.1, chars]
  split at h
  · simp at h; simp [← h.1, chars]
  split at h
  · simp [name] at h; simp [← h.1, chars]
  split at h
  · simp at h; simp [← h.1, chars]
  split at h
  · obtain ⟨⟨t, r⟩, -, he⟩ := Option.map_eq_some_iff.1 h
    simp at he; simp [← he.1, chars]
  split at h
  · simp only [Option.some.injEq] at h
    unfold colonLexeme at h
    split at h
    · cases h; simp [chars]
    · split at h
      · cases h; simp [chars]
      · split at h <;> cases h <;> simp [chars]
  · simp only [Option.some.injEq] at h
    unfold punctuation at h
    split at h
    · split at h <;> cases h <;> simp [chars]
    · cases h; simp [chars]

theorem firstPiece_length_lt {glued : Bool} {c : Char} {cs rest : List Char} {p : Piece}
    (h : firstPiece glued c cs = some (p, rest)) : rest.length < (c :: cs).length := by
  have hlen := congrArg List.length (firstPiece_append h)
  have hpos := List.length_pos_iff.2 (firstPiece_ne_nil h)
  rw [List.length_append] at hlen
  omega

end Piece

/-- A text cut into pieces, with the rest that starts an unclosed string literal (or nothing). -/
structure Cutting where
  /-- The pieces, in order. -/
  pieces : List Piece
  /-- What follows the pieces: empty, or a text that starts with an unclosed quote. -/
  stuck : List Char
  deriving DecidableEq, Repr

/-- Cut a text into pieces; `glued` tells whether a name stands right before the text. -/
def cut (glued : Bool) : List Char → Cutting
  | [] => ⟨[], []⟩
  | c :: cs =>
    match _h : Piece.firstPiece glued c cs with
    | none => ⟨[], c :: cs⟩
    | some (piece, rest) =>
      let after := cut piece.isName rest
      ⟨piece :: after.pieces, after.stuck⟩
termination_by cs => cs.length
decreasing_by exact Piece.firstPiece_length_lt _h

theorem cut_nil (glued : Bool) : cut glued [] = ⟨[], []⟩ := by rw [cut]

theorem cut_stuck {glued : Bool} {c : Char} {cs : List Char}
    (h : Piece.firstPiece glued c cs = none) : cut glued (c :: cs) = ⟨[], c :: cs⟩ := by
  rw [cut]
  split
  · rfl
  · rename_i heq; rw [h] at heq; cases heq

theorem cut_cons {glued : Bool} {c : Char} {cs rest : List Char} {piece : Piece}
    (h : Piece.firstPiece glued c cs = some (piece, rest)) :
    cut glued (c :: cs) =
      ⟨piece :: (cut piece.isName rest).pieces, (cut piece.isName rest).stuck⟩ := by
  rw [cut]
  split
  · rename_i heq; rw [h] at heq; cases heq
  · rename_i heq; rw [h] at heq; cases heq; rfl

end TypeTags
