import Migration.Change
import Migration.Disk.Node
import Migration.Schema.Basic

namespace Migration

open Json

/-! Loading schemas and change sets from files. -/

/-- The text of a file, if its bytes are UTF-8. -/
def fileText (path : String) (content : ByteArray) : Except Failure String :=
  match String.fromUTF8? content with
  | some text => .ok text
  | none => .error (.unreadableFile path "stream did not contain valid UTF-8")

def nodeText (path : String) : Node → Except Failure String
  | .file content => fileText path content
  | .directory _ => .error (.unreadableFile path "Is a directory (os error 21)")

def fromText {α : Type} [Decode α] (path text : String) : Except Failure α :=
  match decodeText α text with
  | .ok value => .ok value
  | .error misfit => .error (.malformedFile path misfit.message)

/-! ## Directories

Each file of a directory holds a whole document or a single entity. A file that is no document is
tried as an entity, which takes the stem of the file for its name if it has none. -/

inductive Fragment where
  | document (schema : Schema)
  | entity (entity : Entity)

instance : Decode Fragment where
  decode value :=
    match (decode value : Except Misfit Schema) with
    | .ok schema => .ok (.document schema)
    | .error _ => .entity <$> decode value

namespace Schema

def addUnique (schema : Schema) (entity : Entity) : Except Failure Schema :=
  if schema.entities.contains entity.name then .error (.duplicateEntity entity.name)
  else .ok (schema.addEntity entity)

/-- The entities of a document are added one by one. Its enumerations and its compound types,
among them the standard ones, take the place of those of the same name. -/
def addFragment (schema : Schema) (name : String) : Fragment → Except Failure Schema
  | .document document => do
      let schema ← document.entities.values.foldlM addUnique schema
      return { schema with
        enums := schema.enums.extend document.enums
        compounds := schema.compounds.extend document.compounds }
  | .entity entity => schema.addUnique (entity.namedOr (Node.stem name))

def addFile (schema : Schema) (found : Node.Found) : Except Failure Schema := do
  let text ← fileText found.path found.content
  let fragment ← fromText found.path text
  match schema.addFragment (found.names.getLast?.getD "") fragment with
  | .ok schema => return schema
  | .error failure => throw (failure.during ("Loading '" ++ found.path ++ "'"))

/-- Whatever the order in which files are listed, they are read in the order of their paths. -/
def ofFiles (files : List Node.Found) : Except Failure Schema :=
  let files := files.filter fun found =>
    (found.names.getLast?.bind Node.extension?) = some "json"
  (files.mergeSort fun left right => Node.namesUpTo left.names right.names).foldlM addFile {}

def loadDirectory (path : String) : Option Node → Except Failure Schema
  | some (.directory entries) => ofFiles (Node.filesOfEntries [] path entries)
  | _ => .error (.schemaNotFound path)

/-- `node` is what is found under the path. -/
def load (path : String) (node : Option Node) : Except Failure Schema :=
  match node with
  | none => .error (.schemaNotFound path)
  | some (.directory entries) => loadDirectory path (some (.directory entries))
  | some (.file content) => do fromText path (← fileText path content)

end Schema

def ChangeSet.load (path : String) : Option Node → Except Failure ChangeSet
  | none => .error (.schemaNotFound path)
  | some node => do fromText path (← nodeText path node)

end Migration
