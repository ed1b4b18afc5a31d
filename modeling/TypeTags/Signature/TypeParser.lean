import TypeTags.Signature.Parser
import TypeTags.Text.Trim
import TypeTags.TypeExpr

/-!
# Reading types

The grammar of types: tuples in brackets, shapes in braces, the helpers `T.nilable`, `T.any` and so
on, and constant paths with an optional payload of arguments. Both the spelling of signatures
(`T::Array[String]`) and that of documentation (`Array<String>`) are read.

Every rule reads at least one token before it reads a type inside, so that the number of tokens
bounds the depth: `typeAt n` reads any type that `n` tokens can hold.

* `TypeExpr.parse`: read a text that is exactly one type.
-/

namespace TypeTags

namespace Parser

/-- Read the rest of a list after an item: a comma and another item, a comma and the closing token,
or the closing token. At most `n` more items are read. -/
def listTail (item : Parser TypeExpr) (closer : TokenKind) : Nat → Parser (List TypeExpr)
  | 0 => do
    let _ ← expect closer .closingBracket
    return []
  | n + 1 => do
    if ← accept .comma then
      if (← peek).kind = closer then
        let _ ← expect closer .closingBracket
        return []
      else
        let first ← item
        let others ← listTail item closer n
        return first :: others
    else
      let _ ← expect closer .closingBracket
      return []

/-- Read one or more items with commas between them, and the closing token. -/
def itemList (item : Parser TypeExpr) (closer : TokenKind) (n : Nat) : Parser (List TypeExpr) := do
  let first ← item
  let others ← listTail item closer n
  return first :: others

/-- Read one item between parentheses, the argument of a word. -/
def argument (item : Parser TypeExpr) (word : String) : Parser TypeExpr := do
  let _ ← expect .lparen (.parenAfter word)
  let inner ← item
  let _ ← expect .rparen (.parenClosing word)
  return inner

end Parser

/-- How far a chain of method calls reaches. -/
inductive CallChain where
  /-- Up to an offset, with the tokens after it. -/
  | closed (stop : Nat) (rest : List Token)
  /-- The parentheses of a call are still open where the tokens end. -/
  | unclosed
  /-- The parentheses of a call meet a closing token of another kind. -/
  | mismatched (found : Token)
  deriving DecidableEq, Repr

/-- Follow a chain of calls, each a dot, a name and maybe a parenthesised group, from the offset
where the chain ends so far. At most `n` calls are followed. -/
def callChain (stop : Nat) : Nat → List Token → CallChain
  | n + 1, dot :: word :: ts =>
    if dot.kind = .dot ∧ word.kind = .ident then
      match ts with
      | [] => .closed word.stop []
      | t :: rest =>
        if t.kind = .lparen then
          match matchGroup .rparen [] rest with
          | .closed closer rest => callChain closer.stop n rest
          | .unclosed => .unclosed
          | .mismatched found => .mismatched found
        else callChain word.stop n (t :: rest)
    else .closed stop (dot :: word :: ts)
  | _, ts => .closed stop ts

namespace Parser

/-- The text of a type from its first token up to an offset, on one line. -/
def verbatim (first : Token) (stop : Nat) : Parser String :=
  return String.ofList (Text.squeeze ((← source).slice first.start stop))

/-- Stand in for a procedure type that never closes: the rest of its first line, as a plain name.
Reading goes on with the first token of a later line. -/
def recoverProc (fromFirst : List Token) (first : Token) : Parser TypeExpr := do
  let s ← source
  let line := (s.slice first.start s.boundary).takeWhile (· != '\n')
  let raw := String.ofList (Text.trim line)
  note ⟨first, raw⟩
  resume (fromFirst.dropWhile (·.line ≤ first.line))
  return .simple raw

/-- Read the calls of a procedure type, of which the first token and the word `proc` are read. -/
def procType (fromFirst : List Token) (first word : Token) : Parser TypeExpr := do
  let ts ← tokens
  match callChain word.stop ts.length ts with
  | .closed stop rest =>
    resume rest
    return .proc (← verbatim first stop)
  | .unclosed => recoverProc fromFirst first
  | .mismatched found => fault (.mismatchedBracket found.value) found.start

/-- Keep a helper that has no rule of its own as it is written, with its arguments. -/
def opaqueHelper (first word : Token) : Parser TypeExpr := do
  if (← peek).kind = .lparen then
    let closer ← group
    return .simple (← verbatim first closer.stop)
  else return .simple (← verbatim first word.stop)

/-- Read a type that starts with `T` and a dot. -/
def helperType (item : Parser TypeExpr) (n : Nat) : Parser TypeExpr := do
  let fromFirst ← tokens
  let first ← advance
  let _ ← advance
  let word ← expect .ident .helperName
  if word.value = "nilable" then return .nilable (← argument item "T.nilable")
  else if word.value = "any" then
    let _ ← expect .lparen (.parenAfter "T.any")
    return .union (← itemList item .rparen n)
  else if word.value = "untyped" then return .untyped
  else if word.value = "self_type" then return .simple "self"
  else if word.value = "class_of" then return .generic "Class" [← argument item "T.class_of"]
  else if word.value = "proc" then procType fromFirst first word
  else opaqueHelper first word

/-- The further segments of a constant path, each after a double colon, and the tokens left. -/
def pathTail : List Token → List String × List Token
  | a :: b :: ts =>
    if a.kind = .scope ∧ b.kind = .const then
      let (segments, rest) := pathTail ts
      (b.value :: segments, rest)
    else ([], a :: b :: ts)
  | ts => ([], ts)

/-- Read the segments of a constant path; a path from the root starts with an empty segment. -/
def constantPath : Parser (List String) := do
  let rooted ← accept .scope
  let first ← expect .const .constant
  let (others, rest) := pathTail (← tokens)
  resume rest
  return (if rooted then ["", first.value] else [first.value]) ++ others

/-- The name a constant path goes by: a path of two segments that starts with `T` names what its
second segment does. -/
def pathName : List String → String
  | ["T", name] => name
  | segments => String.intercalate "::" segments

/-- A constant without arguments. -/
def bare (name : String) : TypeExpr := if name = "Hash" then .fixedHash else .simple name

/-- Read what may follow a constant: arguments in brackets, angles or braces, the elements of an
array, or nothing. The path starts at `offset`. -/
def payload (item : Parser TypeExpr) (n : Nat) (name : String) (offset : Nat) :
    Parser TypeExpr := do
  let next ← peek
  match next.kind with
  | .lbrack =>
    let _ ← advance
    let args ← itemList item .rbrack n
    if name = "Hash" then
      match args with
      | [key, value] => return .keyed name key value
      | _ => fault (.keyValueArity name args.length) offset
    else return .generic name args
  | .lt =>
    let _ ← advance
    return .generic name (← itemList item .gt n)
  | .lbrace =>
    let _ ← advance
    let key ← item
    let _ ← expect .arrow .arrow
    let value ← item
    let _ ← expect .rbrace .braceClosing
    return .keyed name key value
  | .lparen =>
    if name = "Array" then
      let _ ← advance
      return .tuple (← itemList item .rparen n)
    else return bare name
  | _ => return bare name

/-- Read a type that starts with a constant path. Two constants have spellings of their own and take
no payload. -/
def constantType (item : Parser TypeExpr) (n : Nat) : Parser TypeExpr := do
  let first ← peek
  let segments ← constantPath
  if segments = ["NilClass"] then return .simple "nil"
  else if segments = ["T", "Boolean"] then return .simple "Boolean"
  else payload item n (pathName segments) first.start

/-- The words that are types by themselves. -/
def wordTypes : List String := ["nil", "void", "self", "true", "false"]

def noType : Parser TypeExpr := do
  let t ← peek
  fault (.expected .type t.value) t.start

/-- Read a type, given a parser for the types inside it. -/
def typeStep (item : Parser TypeExpr) (n : Nat) : Parser TypeExpr := do
  let t ← peek
  match t.kind with
  | .lbrack =>
    let _ ← advance
    if (← peek).kind = .rbrack then fault .emptyTuple t.start
    else return .tuple (← itemList item .rbrack n)
  | .lbrace =>
    let _ ← group
    return .fixedHash
  | .const =>
    if t.value = "T" ∧ (← peekAt 1).kind = .dot then helperType item n else constantType item n
  | .scope => constantType item n
  | .ident =>
    if t.value ∈ wordTypes then
      let _ ← advance
      return .simple t.value
    else noType
  | _ => noType

/-- Read a type that is held by at most `n` tokens. -/
def typeAt : Nat → Parser TypeExpr
  | 0 => noType
  | n + 1 => typeStep (typeAt n) n

def type : Parser TypeExpr := fun s ts => typeAt ts.length s ts

end Parser

/-- Read a text that is exactly one type. -/
def TypeExpr.parse (text : String) : Except Fault TypeExpr :=
  let chars := text.toList
  match tokenize chars with
  | .error fault => .error fault
  | .ok tokens =>
    match Parser.type ⟨chars, chars.length⟩ tokens.dropLast with
    | .fail fault _ => .error fault
    | .ok t [] _ => .ok t
    | .ok _ (extra :: _) _ => .error ⟨.unexpected extra.value .type, some extra.start⟩

end TypeTags
