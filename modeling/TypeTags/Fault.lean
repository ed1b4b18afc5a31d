import TypeTags.Text.Quoted

/-!
# Faults in a signature text

Why a signature or a type cannot be read, and how each reason is worded. A fault is a cause with the
offset of the character it is about, where there is one.
-/

namespace TypeTags

/-- What a reader was looking for when it found something else. -/
inductive Wanted where
  | signatureMethod
  /-- The parenthesis that opens the argument of a word. -/
  | parenAfter (word : String)
  /-- The parenthesis that closes the argument of a word. -/
  | parenClosing (word : String)
  | dotBetweenMethods
  | parameterName
  | colonAfterParameter (name : String)
  | commaOrParen
  | closingBracket
  | type
  /-- The name after the dot of a type helper. -/
  | helperName
  | constant
  | arrow
  | braceClosing
  deriving DecidableEq, Repr

/-- How a message names what was wanted. -/
def Wanted.describe : Wanted → String
  | signatureMethod => "a signature method"
  | parenAfter word => "'(' after " ++ word
  | parenClosing word => "')' closing " ++ word
  | dotBetweenMethods => "'.' between signature methods"
  | parameterName => "parameter name"
  | colonAfterParameter name => "':' after parameter " ++ Text.quoted name
  | commaOrParen => "',' or ')' in params"
  | closingBracket => "closing bracket"
  | type => "a type"
  | helperName => "a T method"
  | constant => "a constant"
  | arrow => "'=>' in key/value type"
  | braceClosing => "'\x7d' closing key/value type"

/-- Where a text goes on although it should have ended. -/
inductive Ending where
  | terminator
  | type
  | block
  deriving DecidableEq, Repr

/-- How a message names the ending. -/
def Ending.describe : Ending → String
  | terminator => "signature terminator"
  | type => "type"
  | block => "sig block"

/-- Why a signature or a type cannot be read. -/
inductive Cause where
  | unterminatedString
  /-- Another lexeme stands where `wanted` should; an empty `found` is the end of the text. -/
  | expected (wanted : Wanted) (found : String)
  | unexpected (found : String) (after : Ending)
  | mismatchedBracket (found : String)
  | unbalancedBrackets
  /-- A group was to be read where a token stands that opens none. Every rule looks for the opening
  token first, so that no text is refused for this cause. -/
  | noGroup (found : String)
  | emptySignature
  | unterminatedSignature
  | emptyTuple
  | duplicateParameter (name : String)
  | keyValueArity (container : String) (count : Nat)
  | unclosedBlock
  | missingEnd
  | missingBlock
  deriving DecidableEq, Repr

def Cause.message : Cause → String
  | unterminatedString => "Unterminated string literal"
  | expected wanted found =>
    "Expected " ++ wanted.describe ++ ", found "
      ++ Text.quoted (if found.isEmpty then "end of signature" else found)
  | unexpected found after => "Unexpected " ++ Text.quoted found ++ " after " ++ after.describe
  | mismatchedBracket found => "Mismatched bracket " ++ Text.quoted found
  | unbalancedBrackets => "Unbalanced brackets"
  | noGroup found => "No bracket opens at " ++ Text.quoted found
  | emptySignature => "Empty signature"
  | unterminatedSignature => "Signature must end with returns(...) or void"
  | emptyTuple => "Empty tuple type"
  | duplicateParameter name => "Duplicate parameter " ++ Text.quoted name
  | keyValueArity container count =>
    container ++ " key/value type needs 2 arguments, got " ++ toString count
  | unclosedBlock => "Unclosed sig block"
  | missingEnd => "sig do-block is missing 'end'"
  | missingBlock => "Expected a block after sig"

/-- A cause with the offset of the character it is about. -/
structure Fault where
  cause : Cause
  /-- Code points before the character in question. -/
  offset : Option Nat
  deriving DecidableEq, Repr

def Fault.message (fault : Fault) : String := fault.cause.message

end TypeTags
