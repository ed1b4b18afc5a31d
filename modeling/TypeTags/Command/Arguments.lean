/-!
# Arguments of a command

Arguments are options, which start with a dash, and operands. A long option may have its value after
an equals sign, a short one right after its letter; flags may share a dash. Two dashes alone end the
options.

* `Arguments.parse?`: the options and operands among arguments, if all options are known.
-/

namespace TypeTags

structure OptionSpec where
  /-- What the option is called in the program. -/
  key : String
  /-- The long spelling, with its dashes. -/
  long : String
  /-- The letter of the short spelling. -/
  short : Option Char := none
  takesValue : Bool := false
  deriving DecidableEq, Repr

/-- Options with their values, in order, and operands. The value of a flag is empty. -/
structure Arguments where
  options : List (String × String) := []
  operands : List String := []
  deriving DecidableEq, Repr

namespace Arguments

/-- What a single argument says: options with their values, and the option whose value is the next
argument. -/
structure OptionArgument where
  given : List (String × String) := []
  awaiting : Option String := none
  deriving DecidableEq, Repr

/-- An option in its long spelling. -/
def readLong? (specs : List OptionSpec) (argument : List Char) : Option OptionArgument :=
  let (name, rest) := argument.span (· != '=')
  match specs.find? (·.long == String.ofList name), rest with
  | none, _ => none
  | some spec, [] =>
    if spec.takesValue then some { awaiting := some spec.key }
    else some { given := [(spec.key, "")] }
  | some spec, _ :: value =>
    if spec.takesValue then some { given := [(spec.key, String.ofList value)] } else none

/-- Options in their short spellings, without the dash. -/
def readShort? (specs : List OptionSpec) : List Char → Option OptionArgument
  | [] => some {}
  | c :: cs =>
    match specs.find? (·.short == some c) with
    | none => none
    | some spec =>
      if spec.takesValue then
        if cs.isEmpty then some { awaiting := some spec.key }
        else some { given := [(spec.key, String.ofList cs)] }
      else (readShort? specs cs).map fun more =>
        { more with given := (spec.key, "") :: more.given }

/-- The options in an argument that starts with a dash. -/
def readOption? (specs : List OptionSpec) (argument : List Char) : Option OptionArgument :=
  match argument with
  | '-' :: '-' :: _ => readLong? specs argument
  | _ => readShort? specs (argument.drop 1)

/-- Whether an argument is an option. A dash alone is an operand. -/
def isOption (argument : String) : Bool :=
  match argument.toList with
  | '-' :: _ :: _ => true
  | _ => false

/-- The arguments with more options in front. -/
def withOptions (given : List (String × String)) (arguments : Arguments) : Arguments :=
  { arguments with options := given ++ arguments.options }

/-- The arguments with an operand in front. -/
def withOperand (operand : String) (arguments : Arguments) : Arguments :=
  { arguments with operands := operand :: arguments.operands }

/-- The options and operands among arguments. If they may not be `mixed`, everything from the first
operand on is an operand. -/
def parse? (specs : List OptionSpec) (mixed : Bool) : List String → Option Arguments
  | [] => some {}
  | argument :: rest =>
    if argument = "--" then some { operands := rest }
    else if isOption argument then
      match readOption? specs argument.toList, rest with
      | none, _ => none
      | some ⟨given, none⟩, rest => (parse? specs mixed rest).map (withOptions given)
      | some ⟨_, some _⟩, [] => none
      | some ⟨given, some key⟩, value :: rest =>
        (parse? specs mixed rest).map (withOptions (given ++ [(key, value)]))
    else if mixed then (parse? specs mixed rest).map (withOperand argument)
    else some { operands := argument :: rest }

/-- The value of an option; the last that is given counts. -/
def option? (arguments : Arguments) (key : String) : Option String :=
  (arguments.options.filter (·.1 == key)).getLast?.map (·.2)

def flag (arguments : Arguments) (key : String) : Bool := (arguments.option? key).isSome

end Arguments

end TypeTags
