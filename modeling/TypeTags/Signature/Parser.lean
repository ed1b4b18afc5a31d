import TypeTags.Token.Located

/-!
# Parsers over tokens

A parser reads from the front of a list of tokens and answers with a value and the tokens left, or
with a fault. Either way it also answers with the notes taken on the way: a procedure type that
never closes its parentheses is noted and reading goes on. The tokens end at a boundary, whose
offset stands for the end of the text in every fault.

* `Parser`: a parser, a monad that keeps the notes of a failed reading.
* `matchGroup`: how far a bracketed group reaches.
-/

namespace TypeTags

/-- The text that the tokens were cut from, and the offset where reading ends. -/
structure Source where
  text : List Char
  boundary : Nat
  deriving DecidableEq, Repr

def Source.slice (s : Source) (start stop : Nat) : List Char :=
  (s.text.drop start).take (stop - start)

/-- A procedure type whose parentheses were never closed. -/
structure UnclosedProc where
  /-- The token the type starts with. -/
  opening : Token
  /-- The text that stands for the type. -/
  raw : String
  deriving DecidableEq, Repr

/-- What a parser answers. -/
inductive Outcome (α : Type) where
  | ok (value : α) (rest : List Token) (notes : List UnclosedProc)
  | fail (fault : Fault) (notes : List UnclosedProc)
  deriving Repr

/-- The same answer with earlier notes put before its own. -/
def Outcome.after {α : Type} (earlier : List UnclosedProc) : Outcome α → Outcome α
  | ok value rest notes => ok value rest (earlier ++ notes)
  | fail fault notes => fail fault (earlier ++ notes)

/-- A reading of the tokens in front. -/
def Parser (α : Type) : Type := Source → List Token → Outcome α

namespace Parser

variable {α β : Type}

/-- Read nothing. -/
protected def pure (a : α) : Parser α := fun _ ts => .ok a ts []

/-- Read with `p`, then with what `f` makes of its value. -/
protected def bind (p : Parser α) (f : α → Parser β) : Parser β := fun s ts =>
  match p s ts with
  | .ok a rest notes => (f a s rest).after notes
  | .fail fault notes => .fail fault notes

instance : Monad Parser where
  pure := Parser.pure
  bind := Parser.bind

/-- Give up with a cause at an offset. -/
def fault (cause : Cause) (offset : Nat) : Parser α := fun _ _ => .fail ⟨cause, some offset⟩ []

def note (proc : UnclosedProc) : Parser Unit := fun _ ts => .ok () ts [proc]

def source : Parser Source := fun s ts => .ok s ts []

def tokens : Parser (List Token) := fun _ ts => .ok ts ts []

/-- Go on with these tokens instead. -/
def resume (rest : List Token) : Parser Unit := fun _ _ => .ok () rest []

/-- The token `n` places ahead, which is the end mark when there are not so many. -/
def peekAt (n : Nat) : Parser Token := fun s ts =>
  .ok ((ts.drop n).headD (.endMark s.boundary 0)) ts []

def peek : Parser Token := peekAt 0

def advance : Parser Token := do
  let t ← peek
  resume (← tokens).tail
  return t

def atEnd : Parser Bool := return (← tokens).isEmpty

/-- Read a token of the given kind, if one is in front. -/
def accept (kind : TokenKind) : Parser Bool := do
  if (← peek).kind = kind then
    let _ ← advance
    return true
  else return false

/-- Read a token of the given kind, or give up for want of it. -/
def expect (kind : TokenKind) (wanted : Wanted) : Parser Token := do
  let t ← peek
  if t.kind = kind then advance else fault (.expected wanted t.value) t.start

end Parser

/-- How far a bracketed group reaches. -/
inductive Group where
  /-- Up to a closing token, with the tokens after it. -/
  | closed (closer : Token) (rest : List Token)
  /-- It is still open where the tokens end. -/
  | unclosed
  /-- A closing token of another kind than the one awaited. -/
  | mismatched (found : Token)
  deriving DecidableEq, Repr

/-- Find the end of a group that awaits a closing kind, inside groups that await `outer` ones. -/
def matchGroup (awaited : TokenKind) (outer : List TokenKind) : List Token → Group
  | [] => .unclosed
  | t :: ts =>
    match t.kind.closer? with
    | some inner => matchGroup inner (awaited :: outer) ts
    | none =>
      if t.kind.isCloser then
        if t.kind = awaited then
          match outer with
          | [] => .closed t ts
          | next :: outer => matchGroup next outer ts
        else .mismatched t
      else matchGroup awaited outer ts

namespace Parser

/-- Read the group that the token in front opens, and answer with its closing token. -/
def group : Parser Token := do
  let opening ← advance
  match opening.kind.closer? with
  | none => fault (.noGroup opening.value) opening.start
  | some awaited =>
    match matchGroup awaited [] (← tokens) with
    | .closed closer rest =>
      resume rest
      return closer
    | .unclosed => fault .unbalancedBrackets opening.start
    | .mismatched found => fault (.mismatchedBracket found.value) found.start

end Parser

end TypeTags
