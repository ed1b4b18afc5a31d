import TypeTags.Command.Arguments
import TypeTags.Merge

/-!
# Commands

What the program can be asked to do, and how it is asked.

* `Invocation.parse?`: the command that arguments ask for; there is none if they are misused.
-/

namespace TypeTags

/-- A command with its operands and options. -/
inductive Command where
  /-- Document the sources at a path: as a report or as JSON, and maybe into a file. -/
  | scan (path : String) (json : Bool) (output : Option String) (policy : Option MergePolicy)
  /-- Show what is documented about one thing in the sources at a path. -/
  | inspect (path object : String) (policy : Option MergePolicy)
  /-- Show the tags that a signature gives. -/
  | parseSig (body : String)
  /-- Show the documentation types of a type. -/
  | renderType (type : String)
  deriving DecidableEq, Repr

/-- A command and how much to tell about its work. -/
structure Invocation where
  verbose : Bool := false
  command : Command
  deriving DecidableEq, Repr

namespace Invocation

def commonOptions : List OptionSpec := [⟨"verbose", "--verbose", some 'v', false⟩]

def policyOption : OptionSpec := ⟨"policy", "--policy", none, true⟩

def scanOptions : List OptionSpec :=
  [⟨"json", "--json", none, false⟩, ⟨"output", "--output", some 'o', true⟩, policyOption]

/-- The policy that is asked for; there may be none, but it must not be an unknown one. -/
def policy? (arguments : Arguments) : Option (Option MergePolicy) :=
  match arguments.option? "policy" with
  | none => some none
  | some name => (MergePolicy.names.lookup name).map some

def command? (name : String) (rest : List String) : Option Command :=
  if name = "scan" then do
    let arguments ← Arguments.parse? scanOptions true rest
    let policy ← policy? arguments
    match arguments.operands with
    | [path] => some (.scan path (arguments.flag "json") (arguments.option? "output") policy)
    | _ => none
  else if name = "show" then do
    let arguments ← Arguments.parse? [policyOption] true rest
    let policy ← policy? arguments
    match arguments.operands with
    | [path, object] => some (.inspect path object policy)
    | _ => none
  else if name = "parse-sig" then do
    let arguments ← Arguments.parse? [] true rest
    match arguments.operands with
    | [body] => some (.parseSig body)
    | _ => none
  else if name = "render-type" then do
    let arguments ← Arguments.parse? [] true rest
    match arguments.operands with
    | [type] => some (.renderType type)
    | _ => none
  else none

/-- The command that arguments ask for. -/
def parse? (arguments : List String) : Option Invocation := do
  let common ← Arguments.parse? commonOptions false arguments
  match common.operands with
  | [] => none
  | name :: rest =>
    let command ← command? name rest
    return { verbose := common.flag "verbose", command }

end Invocation

end TypeTags
