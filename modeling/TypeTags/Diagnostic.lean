/-!
# Diagnostics

Problems that do not stop the work: a signature that cannot be read, a procedure type left open, a
signature that no declaration follows.
-/

namespace TypeTags

inductive DiagnosticKind where
  | malformedSignature
  | unresolvedProcSpan
  | unmatchedSignature
  deriving DecidableEq, Repr, Inhabited

def DiagnosticKind.names : List (String × DiagnosticKind) :=
  [("malformed_signature", .malformedSignature), ("unresolved_proc_span", .unresolvedProcSpan),
   ("unmatched_signature", .unmatchedSignature)]

def DiagnosticKind.name : DiagnosticKind → String
  | .malformedSignature => "malformed_signature"
  | .unresolvedProcSpan => "unresolved_proc_span"
  | .unmatchedSignature => "unmatched_signature"

/-- A problem and where it was met. -/
structure Diagnostic where
  kind : DiagnosticKind
  message : String
  file : Option String := none
  line : Option Int := none
  deriving DecidableEq, Repr, Inhabited

end TypeTags
