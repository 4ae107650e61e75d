import Migration.Timestamp.Text

namespace Migration.CommandLine

/-! What the command line asks for. -/

inductive Format where
  | text
  | json
  deriving DecidableEq, Repr

/-- What a command that makes migrations can be told beside its files. -/
structure Options where
  locale : Option String := none
  baseTimestamp : Option Timestamp := none
  format : Format := .text
  deriving DecidableEq

inductive Command where
  | plan (schema : String) (options : Options)
  | diff (changes schema : String) (options : Options)
  | validate (schema : String)
  deriving DecidableEq

structure Invocation where
  command : Command
  config : Option String := none
  verbose : Bool := false
  deriving DecidableEq

/-- Why there is nothing to run. -/
inductive Halt where
  | misuse
  | help
  | version
  deriving DecidableEq

/-! ## Switches -/

structure Switch where
  long : String
  short : Option Char
  takesValue : Bool

def sharedSwitches : List Switch :=
  [⟨"config", some 'c', true⟩, ⟨"verbose", some 'v', false⟩]

def migrationSwitches : List Switch :=
  sharedSwitches ++
    [⟨"locale", none, true⟩, ⟨"base-timestamp", none, true⟩, ⟨"format", some 'f', true⟩]

def diffSwitches : List Switch :=
  migrationSwitches ++ [⟨"schema", some 's', true⟩]

/-- The switches given, with their values, and the other arguments. -/
structure Scanned where
  switches : List (String × String) := []
  others : List String := []

def Scanned.add (scanned : Scanned) (switch : Switch) (value : String) : Except Halt Scanned :=
  if scanned.switches.any (·.1 = switch.long) then .error .misuse
  else .ok { scanned with switches := scanned.switches ++ [(switch.long, value)] }

/-- A lone minus sign is an argument like any other. -/
def looksLikeSwitch (argument : String) : Bool :=
  argument.startsWith "-" && argument ≠ "-"

/-- The value of a switch when it stands in an argument of its own. -/
def nextValue : List String → Except Halt (String × List String)
  | [] => .error .misuse
  | value :: rest => if looksLikeSwitch value then .error .misuse else .ok (value, rest)

def scanLong (switches : List Switch) (scanned : Scanned) (argument : List Char)
    (rest : List String) : Except Halt (Scanned × List String) := do
  let name := String.ofList (argument.takeWhile (· ≠ '='))
  let inline := argument.dropWhile (· ≠ '=')
  if name = "help" && inline.isEmpty then throw .help
  if name = "version" && inline.isEmpty then throw .version
  match switches.find? (·.long = name), inline with
  | none, _ => throw .misuse
  | some switch, [] =>
      if switch.takesValue then
        let (value, rest) ← nextValue rest
        return (← scanned.add switch value, rest)
      else return (← scanned.add switch "", rest)
  | some switch, _ :: value =>
      if switch.takesValue then return (← scanned.add switch (.ofList value), rest)
      else throw .misuse

/-- Short switches may share one argument; the rest of it is the value of one that takes a value,
with or without a sign of equality before it. -/
def scanShort (switches : List Switch) (scanned : Scanned) (rest : List String) :
    List Char → Except Halt (Scanned × List String)
  | [] => .ok (scanned, rest)
  | letter :: letters =>
      if letter = 'h' then .error .help
      else if letter = 'V' then .error .version
      else match switches.find? (·.short = some letter) with
        | none => .error .misuse
        | some switch =>
            if switch.takesValue then
              match letters with
              | [] => do
                  let (value, rest) ← nextValue rest
                  return (← scanned.add switch value, rest)
              | '=' :: value => do return (← scanned.add switch (.ofList value), rest)
              | value => do return (← scanned.add switch (.ofList value), rest)
            else do scanShort switches (← scanned.add switch "") rest letters

/-- The switches up to the first other argument, which is handed back with all after it; `steps`
is the number of arguments. -/
def scanSwitches (switches : List Switch) :
    (steps : Nat) → Scanned → List String → Except Halt (Scanned × List String)
  | 0, scanned, arguments => .ok (scanned, arguments)
  | _, scanned, [] => .ok (scanned, [])
  | steps + 1, scanned, argument :: rest =>
      match argument.toList with
      | '-' :: '-' :: [] => .ok (scanned, argument :: rest)
      | '-' :: '-' :: name => do
          let (scanned, rest) ← scanLong switches scanned name rest
          scanSwitches switches steps scanned rest
      | '-' :: letter :: letters => do
          let (scanned, rest) ← scanShort switches scanned rest (letter :: letters)
          scanSwitches switches steps scanned rest
      | _ => .ok (scanned, argument :: rest)

/-- Switches and other arguments in any order; after two minus signs there are no switches. `most`
is the number of other arguments that there can be. -/
def scanAll (switches : List Switch) (most : Nat) :
    (steps : Nat) → Scanned → List String → Except Halt Scanned
  | 0, scanned, _ => .ok scanned
  | steps + 1, scanned, arguments => do
      let (scanned, rest) ← scanSwitches switches arguments.length scanned arguments
      match rest with
      | [] => return scanned
      | argument :: rest =>
          if argument = "--" then
            let others := scanned.others ++ rest
            if most < others.length then throw .misuse
            return { scanned with others := others }
          else if scanned.others.length < most then
            scanAll switches most steps { scanned with others := scanned.others ++ [argument] } rest
          else throw .misuse

/-! ## Meaning -/

namespace Scanned

def value? (scanned : Scanned) (name : String) : Option String :=
  scanned.switches.lookup name

/-- A path is not empty. -/
def path? (scanned : Scanned) (name : String) : Except Halt (Option String) :=
  match scanned.value? name with
  | some "" => .error .misuse
  | path => .ok path

def options (scanned : Scanned) : Except Halt Options := do
  let baseTimestamp ← match scanned.value? "base-timestamp" with
    | none => pure none
    | some text => match Timestamp.ofText? text with
        | some timestamp => pure (some timestamp)
        | none => throw .misuse
  let format ← match scanned.value? "format" with
    | none | some "text" => pure .text
    | some "json" => pure .json
    | some _ => throw .misuse
  return { locale := scanned.value? "locale", baseTimestamp := baseTimestamp, format := format }

/-- The one argument that is no switch, which is a path. -/
def onlyPath (scanned : Scanned) : Except Halt String :=
  match scanned.others with
  | [path] => if path = "" then .error .misuse else .ok path
  | _ => .error .misuse

end Scanned

def commandOf (name : String) (arguments : List String) : Except Halt (Scanned × Command) := do
  let steps := arguments.length + 1
  match name with
  | "plan" =>
      let scanned ← scanAll migrationSwitches 1 steps {} arguments
      return (scanned, .plan (← scanned.onlyPath) (← scanned.options))
  | "diff" =>
      let scanned ← scanAll diffSwitches 1 steps {} arguments
      match ← scanned.path? "schema" with
      | some schema => return (scanned, .diff (← scanned.onlyPath) schema (← scanned.options))
      | none => throw .misuse
  | "validate" =>
      let scanned ← scanAll sharedSwitches 1 steps {} arguments
      return (scanned, .validate (← scanned.onlyPath))
  | "help" => throw .help
  | _ => throw .misuse

/-- The shared switches may stand before the name of the command or after it, where they take
precedence, and both come before the environment. What the environment gives has to be a path
unless the switch stands in both places. -/
def parse (configVariable : Option String) (arguments : List String) :
    Except Halt Invocation := do
  let (before, rest) ← scanSwitches sharedSwitches arguments.length {} arguments
  match rest with
  | [] => throw .misuse
  | name :: rest =>
      let (after, command) ← commandOf name rest
      let given (scanned : Scanned) : Bool := (scanned.value? "config").isSome
      if configVariable = some "" && !(given before && given after) then throw .misuse
      return {
        command := command
        config := ((← after.path? "config").or (← before.path? "config")).or configVariable
        verbose := (before.value? "verbose").isSome || (after.value? "verbose").isSome }

end Migration.CommandLine
