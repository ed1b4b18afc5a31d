import TypeTags.Json.Reader
import TypeTags.Json.Writer
import TypeTags.Schema.Models

/-!
# Registries as documents

A registry is stored as an indented JSON document and read back from one.

* `Registry.serialize`, `Registry.deserialize`: write and read a document.
-/

namespace TypeTags.Registry

/-- Why a registry has no document, or no registry comes out of one. -/
inductive DocumentError where
  /-- An integer in the registry has too many digits to be written. -/
  | unwritable
  /-- The document is not JSON. -/
  | invalidJson (fault : Json.Fault)
  /-- An integer in the document has too many digits to be read. -/
  | longInteger (digits : Nat)
  /-- The document is JSON but holds no registry. -/
  | invalidRegistry (flaws : List Flaw)
  deriving DecidableEq, Repr

def DocumentError.message : DocumentError → String
  | unwritable => "Failed to serialize registry"
  | invalidJson _ => "Invalid JSON format"
  | longInteger digits => (Json.Problem.longInteger digits).message
  | invalidRegistry _ => "Registry validation failed"

/-- Where it went wrong, in words, if that is told. -/
def DocumentError.details : DocumentError → Option String
  | unwritable => some (Json.limitMessage "")
  | invalidJson fault =>
    some ("Line " ++ toString fault.line ++ ", column " ++ toString fault.column ++ ": "
      ++ fault.problem.message)
  | longInteger _ => none
  | invalidRegistry flaws => some (flawsMessage flaws)

/-- The error for a document that could not be read. -/
def DocumentError.ofFault (fault : Json.Fault) : DocumentError :=
  match fault.problem with
  | .longInteger digits => longInteger digits
  | _ => invalidJson fault

/-- The document of a registry. -/
def serialize (r : Registry) : Except DocumentError String :=
  match r.toJson.dump? with
  | some text => .ok text
  | none => .error .unwritable

/-- The registry that a JSON value holds. -/
def ofJson (v : Json) : Except DocumentError Registry :=
  match check v with
  | .ok r => .ok r
  | .bad flaws => .error (.invalidRegistry flaws)

/-- The registry in a document. -/
def deserialize (text : String) : Except DocumentError Registry :=
  match Json.parse text with
  | .ok v => ofJson v
  | .error fault => .error (.ofFault fault)

end TypeTags.Registry
