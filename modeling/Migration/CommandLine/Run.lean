import Migration.CommandLine.Arguments
import Migration.CommandLine.ConfigFile
import Migration.Disk.Loading
import Migration.Json.Writer
import Migration.Plan.Basic
import Migration.Revision

namespace Migration.CommandLine

open Json

/-! What a command does: a function from what it is asked and the files that it finds to what it
prints. -/

structure Outcome where
  exit : UInt8 := 0
  output : String := ""
  errors : String := ""
  deriving DecidableEq

def Outcome.ofError (output : String) (message : String) : Outcome :=
  { exit := 1, output := output, errors := "✖ " ++ message ++ "\n" }

/-- What there is beside the arguments: what stands under a path, the moment of the run, and the
path that the environment names for the settings. -/
structure Surroundings where
  find : String → Option Node
  now : Timestamp
  configVariable : Option String := none

/-! ## Printed text -/

def header (title : String) : String :=
  "\n" ++ title ++ "\n" ++ .ofList (List.replicate title.length '─') ++ "\n\n"

def fact (name value : String) : String :=
  "  " ++ name ++ ": " ++ value ++ "\n"

def line (text : String) : String :=
  text ++ "\n"

def success (text : String) : String :=
  "✔ " ++ text ++ "\n"

def item (text : String) : String :=
  "  • " ++ text ++ "\n"

def planText (source : String) (plan : Plan) : String :=
  let remark (kind : TableKind) : String := match kind with
    | .entity => ""
    | .pivot => " (pivot)"
    | .morphPivot => " (polymorphic pivot)"
  let tables := plan.tables.zipIdx.map fun (table, place) =>
    "  " ++ toString (place + 1) ++ ". " ++ table.fileStem ++ remark table.kind ++ "\n"
  let warnings :=
    if plan.warnings.isEmpty then []
    else "\n" :: line "Warnings" :: plan.warnings.map fun warning => "⚠ " ++ warning ++ "\n"
  header "Migration Plan" ++ fact "Schema" source
    ++ fact "Tables" (toString plan.tables.length) ++ fact "Pivots" (toString plan.pivotCount)
    ++ "\n" ++ String.join tables ++ String.join warnings ++ "\n"
    ++ success (toString plan.tables.length ++ " migrations planned")

def revisionText (revision : Revision) : String :=
  line revision.fileStem ++ String.join (revision.delta.forward.map (item ·.describe)) ++ "\n"

def revisionsText (revisions : List Revision) : String :=
  header "Diff Migrations" ++
    if revisions.isEmpty then success "No changes to migrate"
    else String.join (revisions.map revisionText)
      ++ success (toString revisions.length ++ " migrations built")

def documentText (value : Value) : String :=
  line (value.indented 0)

/-! ## Files -/

/-- Where the settings are looked for if no file is named. -/
def configName : String := "migrata.toml"

/-- Settings from the file that is named, which has to be there, or else from the one that stands
in the working directory, if one does. -/
def readSettings (surroundings : Surroundings) (config : Option String) :
    Except String Settings := do
  let read (path : String) : Except String Settings := do
    let unreadable (reason : String) : String :=
      "Failed to read config '" ++ path ++ "': " ++ reason
    let text ← match surroundings.find path with
      | none => throw (unreadable "No such file or directory (os error 2)")
      | some (.directory _) => throw (unreadable "Is a directory (os error 21)")
      | some (.file content) => match String.fromUTF8? content with
          | some text => pure text
          | none => throw (unreadable "stream did not contain valid UTF-8")
    match Settings.ofConfigText text with
    | .ok settings => return settings
    | .error fault => throw ("Invalid config '" ++ path ++ "': " ++ fault.message)
  match config, surroundings.find configName with
  | some path, _ => read path
  | none, some (.file _) => read configName
  | none, _ => return {}

def readSchema (surroundings : Surroundings) (path : String) : Except String Schema :=
  (Schema.load path (surroundings.find path)).mapError fun failure =>
    let hint :=
      if failure.isNotFound then " (expected a .json file or a directory of them)" else ""
    "Failed to load schema from '" ++ path ++ "'" ++ hint ++ ": " ++ failure.message

def readChanges (surroundings : Surroundings) (path : String) : Except String ChangeSet :=
  (ChangeSet.load path (surroundings.find path)).mapError fun failure =>
    "Failed to load changes from '" ++ path ++ "': " ++ failure.message

/-! ## Commands -/

private def outcomeOf (output : String) : Except String Outcome → Outcome
  | .ok outcome => { outcome with output := output ++ outcome.output }
  | .error message => .ofError output message

def validateOutcome (schema : Schema) : Outcome :=
  let findings := schema.findings
  if findings.isEmpty then
    { output := success ("Schema is valid (" ++ toString schema.entities.length ++ " entities)") }
  else
    .ofError (line "Findings" ++ String.join (findings.map (item ·.message)) ++ "\n")
      ("Schema has " ++ toString findings.length ++ " validation finding(s)")

def runCommand (surroundings : Surroundings) (settings : Settings) : Command → Outcome
  | .plan path options => outcomeOf "" do
      let settings := settings.overriddenBy options.locale options.baseTimestamp
      let schema ← readSchema surroundings path
      let plan := schema.plan settings surroundings.now
      return { output := match options.format with
        | .text => planText path plan
        | .json => documentText (encode plan) }
  | .diff changesPath schemaPath options => outcomeOf "" do
      let settings := settings.overriddenBy options.locale options.baseTimestamp
      let schema ← readSchema surroundings schemaPath
      let changes ← readChanges surroundings changesPath
      let revisions := schema.revisions settings changes surroundings.now
      return { output := match options.format with
        | .text => revisionsText revisions
        | .json => documentText (encode revisions) }
  | .validate path => outcomeOf (header "Validate Schema" ++ fact "Schema" path ++ "\n") do
      return validateOutcome (← readSchema surroundings path)

def usage : String :=
  "Usage: migrata [--config <CONFIG>] [--verbose] <COMMAND>\n\n"
    ++ "Commands:\n"
    ++ "  plan <SCHEMA>                       Plan every table of a schema in creation order\n"
    ++ "  diff <CHANGES> --schema <SCHEMA>    Build update and drop migrations from a change set\n"
    ++ "  validate <SCHEMA>                   Validate a schema and list its findings\n\n"
    ++ "Options of plan and diff:\n"
    ++ "  --locale <LOCALE>, --base-timestamp <YYYY_MM_DD_HHMMSS>, --format <text|json>\n"

def run (surroundings : Surroundings) (arguments : List String) : Outcome :=
  match parse surroundings.configVariable arguments with
  | .error .misuse => { exit := 2, errors := usage }
  | .error .help => { output := usage }
  | .error .version => { output := "migrata 0.1.0\n" }
  | .ok invocation =>
      match readSettings surroundings invocation.config with
      | .error message => .ofError "" message
      | .ok settings => runCommand surroundings settings invocation.command

end Migration.CommandLine
