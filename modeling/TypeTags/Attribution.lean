import TypeTags.Declaration
import TypeTags.Diagnostic
import TypeTags.Docstring
import TypeTags.Segment.Basic
import TypeTags.Signature.Fold
import TypeTags.Signature.Parse

/-!
# Attributing signatures and comments to declarations

A machine that reads a source unit as a sequence of steps: declarations with the text before them,
stretches of text, and the borders of namespace bodies. Each open body is a scope, in which
signatures and the comments above them wait until the next declaration at the same level claims
them. A signature that cannot be read, or that no method or attribute claims, becomes a diagnostic.

* `Attribution`: the state of the machine; there is always an innermost scope.
* `Attribution.declare`, `closeScope`, `feed`, `finish`: the steps.
* `Attribution.step`, `Attribution.run`: steps and runs as data.

A stretch of text whose line number is below 1 may hold a signature that cannot be placed; the step
then answers with its lines and leaves what was read before it.
-/

namespace TypeTags

/-- A signature that waits for a declaration, with the line it starts on. -/
structure PendingSig where
  signature : Signature
  line : Int
  deriving Repr, Inhabited

/-- What waits in a namespace body. -/
structure Scope where
  /-- Signatures that no declaration has claimed, in order. -/
  pending : List PendingSig := []
  /-- The comments above them, in order. -/
  docRuns : List String := []
  deriving Repr, Inhabited

/-- The state of the machine for one source unit. -/
structure Attribution where
  /-- The name of the unit. -/
  file : Option String := none
  /-- The innermost open body. -/
  current : Scope := {}
  /-- The bodies around it, innermost first. -/
  outer : List Scope := []
  /-- The problems met so far. -/
  diagnostics : List Diagnostic := []
  deriving Repr, Inhabited

/-- What is known of a declaration once it is met. -/
structure Association where
  declaration : Declaration
  targets : List Target := []
  signature : Option Signature := none
  /-- Whether several signatures were folded. -/
  chained : Bool := false
  docstring : String := ""
  explicitTags : List Tag := []
  deriving Repr, Inhabited

namespace Attribution

/-- Strings with line feeds between them. -/
def joinRun (run : List String) : String := String.intercalate "\n" run

/-- The diagnostics of procedure types left open in a signature on a line. -/
def unclosedProcs (file : Option String) (line : Int) (notes : List UnclosedProc) :
    List Diagnostic :=
  notes.map fun note =>
    { kind := .unresolvedProcSpan, message := "Unbalanced parentheses in proc type: " ++ note.raw,
      file, line := some line }

/-- The diagnostic of a signature on a line that cannot be read. -/
def malformed (file : Option String) (line : Int) (fault : Fault) : Diagnostic :=
  { kind := .malformedSignature, message := fault.message, file, line := some line }

/-- Read a signature that starts on a line and let it wait in a scope, with the diagnostics this
gives. -/
def addSignature (file : Option String) (scope : Scope) (text : String) (line : Int) :
    Except LineSpan (Scope × List Diagnostic) :=
  let reading := Signature.parse text line
  let notes := unclosedProcs file line reading.notes
  match reading.result with
  | .ok sig => .ok ({ scope with pending := scope.pending ++ [⟨sig, line⟩] }, notes)
  | .error (.malformed fault) =>
    .ok (scope, notes ++ [malformed file line fault])
  | .error (.lineBelowOne span) => .error span

/-- What reading a text into a scope leaves. -/
structure Absorbed where
  scope : Scope
  /-- The diagnostics met on the way. -/
  diagnostics : List Diagnostic
  /-- The comment that ends the text, line by line; or the lines of a signature that cannot be
  placed. -/
  ending : Except LineSpan (List String)

/-- Read segments into a scope, after the comment lines `run`. -/
def absorbSegments (file : Option String) (scope : Scope) (found : List Diagnostic)
    (run : List String) : List Segment → Absorbed
  | [] => ⟨scope, found, .ok run⟩
  | segment :: segments =>
    match segment.kind with
    | .comment =>
      absorbSegments file scope found
        (run ++ [String.ofList (Docstring.stripMarker segment.text)]) segments
    | .sig =>
      let scope :=
        if run.isEmpty then scope else { scope with docRuns := scope.docRuns ++ [joinRun run] }
      match addSignature file scope (String.ofList segment.text) segment.line with
      | .ok (scope, more) => absorbSegments file scope (found ++ more) [] segments
      | .error span => ⟨scope, found, .error span⟩
    | .blank => absorbSegments file scope found [] segments
    | .code => absorbSegments file scope found [] segments

/-- Read a text that starts on a line into the innermost scope. The answer is the comment that ends
it. -/
def absorb (a : Attribution) (text : String) (line : Int) : Attribution × Except LineSpan String :=
  let absorbed := absorbSegments a.file a.current [] [] (segments text.toList line)
  ({ a with current := absorbed.scope, diagnostics := a.diagnostics ++ absorbed.diagnostics },
   absorbed.ending.map joinRun)

/-- The diagnostics of signatures that nothing claims, for a reason. -/
def unclaimed (file : Option String) (reason : String) (pending : List PendingSig) :
    List Diagnostic :=
  pending.map fun p =>
    { kind := .unmatchedSignature,
      message := "Signature has no following method declaration (" ++ reason ++ ")",
      file, line := some p.line }

/-- Report the signatures that wait in the innermost scope and empty it. -/
def dropPending (a : Attribution) (reason : String) : Attribution :=
  { a with
    current := {}
    diagnostics := a.diagnostics ++ unclaimed a.file reason a.current.pending }

def openScope (a : Attribution) : Attribution :=
  { a with current := {}, outer := a.current :: a.outer }

/-- Leave the innermost body; the outermost one is emptied instead. -/
def leaveScope (a : Attribution) : Attribution :=
  let a := a.dropPending "end of scope"
  match a.outer with
  | [] => a
  | scope :: outer => { a with current := scope, outer }

/-- Leave the innermost body after the text at its end. -/
def closeScope (a : Attribution) (text : String) (line : Int) :
    Attribution × Except LineSpan Unit :=
  match a.absorb text line with
  | (a, .ok _) => (a.leaveScope, .ok ())
  | (a, .error span) => (a, .error span)

/-- Read text before a construct that is no declaration. -/
def feed (a : Attribution) (text : String) (line : Int) : Attribution × Except LineSpan Unit :=
  match a.absorb text line with
  | (a, .ok _) => (a, .ok ())
  | (a, .error span) => (a, .error span)

/-- Leave all bodies, the outermost one after the text at the end of the unit. -/
def finish (a : Attribution) (text : String) (line : Int) : Attribution × Except LineSpan Unit :=
  (a.outer.foldl (fun a _ => a.leaveScope) a).closeScope text line

/-- The comments of a scope with one more, unless it is empty. -/
def withRun (docRuns : List String) (run : String) : List String :=
  if run.isEmpty then docRuns else docRuns ++ [run]

/-- A signature block met by itself, after a comment. -/
def declareSignature (a : Attribution) (d : Declaration) (run : String) :
    Attribution × Except LineSpan (Option Association) :=
  let scope := { a.current with docRuns := withRun a.current.docRuns run }
  match addSignature a.file scope d.source d.line with
  | .ok (scope, found) =>
    ({ a with current := scope, diagnostics := a.diagnostics ++ found }, .ok none)
  | .error span => ({ a with current := scope }, .error span)

/-- A class or module, a method or an attribute, after a comment. A class or module claims the
comments but no signature. -/
def claim (a : Attribution) (d : Declaration) (run : String) : Attribution × Association :=
  let doc := Docstring.parse (joinRun (withRun a.current.docRuns run)).toList
  let explicitTags := d.explicitTags ++ doc.tags
  if d.kind.isNamespace then
    (a.dropPending (d.kind.name ++ " " ++ d.name),
     { declaration := d, docstring := doc.text, explicitTags })
  else
    ({ a with current := {} },
     { declaration := d
       targets := d.targets explicitTags
       signature := Signature.fold? (a.current.pending.map (·.signature))
       chained := 1 < a.current.pending.length
       docstring := doc.text
       explicitTags })

/-- Meet a declaration. A signature block by itself gives no association. -/
def declare (a : Attribution) (d : Declaration) :
    Attribution × Except LineSpan (Option Association) :=
  match a.absorb d.precedingText d.precedingLine with
  | (a, .error span) => (a, .error span)
  | (a, .ok run) =>
    if d.kind = .signature then a.declareSignature d run
    else
      let (a, association) := a.claim d run
      (a, .ok (some association))

/-- A step of the machine. -/
inductive Step where
  | openScope
  | closeScope (text : String) (line : Int)
  | feed (text : String) (line : Int)
  | declare (declaration : Declaration)
  | finish (text : String) (line : Int)
  deriving Repr

/-- Take a step. Only a declaration answers with an association. -/
def step (a : Attribution) : Step → Attribution × Except LineSpan (Option Association)
  | .openScope => (a.openScope, .ok none)
  | .closeScope text line => (a.closeScope text line).map id (·.map fun _ => none)
  | .feed text line => (a.feed text line).map id (·.map fun _ => none)
  | .declare d => a.declare d
  | .finish text line => (a.finish text line).map id (·.map fun _ => none)

/-- Take steps in order, with all answers. -/
def run (a : Attribution) : List Step → Attribution × List (Except LineSpan (Option Association))
  | [] => (a, [])
  | s :: steps =>
    let (a, answer) := a.step s
    let (a, answers) := a.run steps
    (a, answer :: answers)

end Attribution

end TypeTags
