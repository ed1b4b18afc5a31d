import TypeTags.Signature.Basic
import TypeTags.Signature.TypeParser

/-!
# Reading signatures

A signature is a chain of calls: modifiers, `params(...)`, and at its end `returns(...)` or `void`.
It may stand alone or inside a block, `sig { ... }` or `sig do ... end`.

* `Parser.chain`: read a chain.
* `Signature.parse`: read a whole text, whose first line has the given number.
-/

namespace TypeTags

namespace Parser

/-- The string that is the only argument of the call in front, without its quotes. -/
def stringArgument : Parser (Option String) := do
  let value := (← peekAt 1).value
  if (← peek).kind = .lparen ∧ (← peekAt 1).kind = .string ∧ (← peekAt 2).kind = .rparen then
    return some (String.ofList value.toList.tail.dropLast)
  else return none

/-- Read the parameters after the opening parenthesis, up to and with the closing one; a comma may
stand before it. No name may be one of the `known` ones. At most `n` parameters are read. -/
def paramList (known : List String) : Nat → Parser (List (String × TypeExpr))
  | 0 => do
    let t ← peek
    fault (.expected .parameterName t.value) t.start
  | n + 1 => do
    if ← accept .rparen then return []
    let t ← peek
    if ¬ t.kind.isName then fault (.expected .parameterName t.value) t.start
    else
      let _ ← advance
      let _ ← expect .colon (.colonAfterParameter t.value)
      if t.value ∈ known then fault (.duplicateParameter t.value) t.start
      else
        let declared ← type
        if ← accept .comma then
          let others ← paramList (t.value :: known) n
          return (t.value, declared) :: others
        else
          let _ ← expect .rparen .commaOrParen
          return [(t.value, declared)]

/-- Read the parenthesised parameters of a `params` call, after those already declared. -/
def params (declared : List (String × TypeExpr)) : Parser (List (String × TypeExpr)) := do
  let _ ← expect .lparen (.parenAfter "params")
  paramList (declared.map (·.1)) (← tokens).length

/-- Read what follows a modifier: nothing, or arguments that are skipped. -/
def modifierArguments : Parser Unit := do
  if (← peek).kind = .lparen then
    let _ ← group

/-- Read the call in front whose name is read, and add what it says to the signature. -/
def call (sig : Signature) (name : String) : Parser Signature := do
  if name = "params" then
    return { sig with params := sig.params ++ (← params sig.params) }
  else if name = "returns" then
    return { sig with returns := some (← argument type "returns") }
  else if name = "void" then return { sig with isVoid := true }
  else if name = "abstract" then
    let text ← stringArgument
    modifierArguments
    return { sig with abstract := true, abstractText := text }
  else if name = "overridable" then
    modifierArguments
    return { sig with overridable := true }
  else if name = "override" then
    modifierArguments
    return { sig with override := true }
  else
    modifierArguments
    return sig

def isTerminator (name : String) : Bool := name == "returns" || name == "void"

/-- Read a chain of at most `n` calls, after the calls that gave `sig`. -/
def chain (sig : Signature) : Nat → Parser Signature
  | 0 => do
    let t ← peek
    fault (.expected .signatureMethod t.value) t.start
  | n + 1 => do
    let name := (← expect .ident .signatureMethod).value
    let sig ← call sig name
    if isTerminator name then
      if ← atEnd then return sig
      else
        let extra ← peek
        fault (.unexpected extra.value .terminator) extra.start
    else if ← atEnd then fun _ _ => .fail ⟨.unterminatedSignature, none⟩ []
    else
      let _ ← expect .dot .dotBetweenMethods
      chain sig n

end Parser

namespace Signature

/-- The tokens of a chain, and the offset where they end. -/
structure Body where
  tokens : List Token
  boundary : Nat
  deriving DecidableEq, Repr

/-- The tokens between the opening token of a block, which is read, and the last token, if that
one closes the block. -/
def blockBody (closes : Token → Bool) (inside : List Token) : Option Body :=
  match inside.getLast? with
  | some last => if closes last then some ⟨inside.dropLast, last.start⟩ else none
  | none => none

/-- The body of the block that follows the word `sig` and its arguments; `stop` is the end of the
text. A block in braces whose inside does not balance still ends at a last brace. -/
def unwrapBlock (stop : Nat) : List Token → Except Fault Body
  | [] => .error ⟨.missingBlock, some stop⟩
  | opening :: inside =>
    if opening.kind = .lbrace then
      match matchGroup .rbrace [] inside with
      | .closed _ (extra :: _) => .error ⟨.unexpected extra.value .block, some extra.start⟩
      | _ =>
        match blockBody (·.kind == .rbrace) inside with
        | some body => .ok body
        | none => .error ⟨.unclosedBlock, some opening.start⟩
    else if opening.isWord "do" then
      match blockBody (·.isWord "end") inside with
      | some body => .ok body
      | none => .error ⟨.missingEnd, some opening.start⟩
    else .error ⟨.missingBlock, some opening.start⟩

/-- The tokens of the chain in a text, given those before the end mark, out of their block if they
stand in one; `stop` is the end of the text. -/
def body (stop : Nat) : List Token → Except Fault Body
  | [] => .ok ⟨[], stop⟩
  | first :: rest =>
    if first.isWord "sig" then
      match rest with
      | [] => unwrapBlock stop []
      | t :: inner =>
        if t.kind = .lparen then
          match matchGroup .rparen [] inner with
          | .closed _ rest => unwrapBlock stop rest
          | .unclosed => .error ⟨.unbalancedBrackets, some t.start⟩
          | .mismatched found => .error ⟨.mismatchedBracket found.value, some found.start⟩
        else unwrapBlock stop (t :: inner)
    else .ok ⟨first :: rest, stop⟩

/-- The lines that tokens span when line 1 of the text has the given number. -/
def linesOf (startLine : Int) (tokens : List Token) : Option LineSpan :=
  match tokens.head?, tokens.getLast? with
  | some first, some last => some ⟨startLine + first.line - 1, startLine + last.line - 1⟩
  | _, _ => none

/-- Why no signature comes out of a text. -/
inductive Error where
  /-- The text is not a signature. -/
  | malformed (fault : Fault)
  /-- The text is a signature, but it would start or end before line 1. -/
  | lineBelowOne (span : LineSpan)
  deriving DecidableEq, Repr

/-- What a text was read as, with the procedure types left open on the way. -/
structure Reading where
  result : Except Error Signature
  notes : List UnclosedProc

def placed (sig : Signature) (span : Option LineSpan) : Except Error Signature :=
  match span with
  | some lines =>
    if lines.first < 1 ∨ lines.last < 1 then .error (.lineBelowOne lines)
    else .ok { sig with span := some lines }
  | none => .ok sig

/-- Read a signature from a text whose first line has the given number. -/
def parse (text : String) (startLine : Int) : Reading :=
  let chars := text.toList
  match tokenize chars with
  | .error fault => ⟨.error (.malformed fault), []⟩
  | .ok tokens =>
    match body chars.length tokens.dropLast with
    | .error fault => ⟨.error (.malformed fault), []⟩
    | .ok ⟨[], _⟩ => ⟨.error (.malformed ⟨.emptySignature, none⟩), []⟩
    | .ok ⟨tokens, boundary⟩ =>
      match Parser.chain {} tokens.length ⟨chars, boundary⟩ tokens with
      | .fail fault notes => ⟨.error (.malformed fault), notes⟩
      | .ok sig _ notes => ⟨placed sig (linesOf startLine tokens), notes⟩

end Signature

end TypeTags
