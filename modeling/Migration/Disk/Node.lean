import Migration.Text.CodePoints

namespace Migration

/-! Files and directories. -/

inductive Node where
  | file (content : ByteArray)
  | directory (entries : List (String × Node))

namespace Node

def isDirectory : Node → Bool
  | directory _ => true
  | file _ => false

/-- A file below a directory: the names that lead to it, the path by which it is shown, and what
it holds. -/
structure Found where
  names : List String
  path : String
  content : ByteArray

/-- The path of an entry of a directory. -/
def entryPath (directory name : String) : String :=
  if directory.endsWith "/" then directory ++ name else directory ++ "/" ++ name

mutual
/-- Every file below a node that is shown by a path. -/
def files (names : List String) (path : String) : Node → List Found
  | file content => [⟨names, path, content⟩]
  | directory entries => filesOfEntries names path entries

def filesOfEntries (names : List String) (path : String) : List (String × Node) → List Found
  | [] => []
  | (name, node) :: rest =>
      node.files (names ++ [name]) (entryPath path name) ++ filesOfEntries names path rest
end

/-- Whether names come before others or are the same, name by name. -/
def namesUpTo : List String → List String → Bool
  | [], _ => true
  | _ :: _, [] => false
  | name :: names, other :: others => name < other || (name = other && namesUpTo names others)

/-! The extension of a name begins at its last point, unless the name begins there. -/

/-- What stands before the last point and what stands after it. -/
def splitName (name : String) : String × Option String :=
  let fields := Text.splitWhere (· = '.') name.toList
  let stem := ['.'].intercalate fields.dropLast
  if fields.length < 2 || stem.isEmpty then (name, none)
  else (.ofList stem, fields.getLast?.map .ofList)

def stem (name : String) : String :=
  (splitName name).1

def extension? (name : String) : Option String :=
  (splitName name).2

example : splitName "a.b.json" = ("a.b", some "json") ∧ splitName ".json" = (".json", none) := by
  decide +kernel

/-! ## Paths -/

/-- The node that further names lead to. A point stays where it is and two lead back, as far as
the first node, and only from a directory; `above` are the nodes passed on the way. -/
def follow (above : List Node) (node : Node) : List String → Option Node
  | [] => some node
  | name :: rest =>
      match node with
      | file _ => none
      | directory entries =>
          if name = "" || name = "." then follow above node rest
          else if name = ".." then
            match above with
            | [] => none
            | parent :: above => follow above parent rest
          else match entries.lookup name with
            | some entry => follow (node :: above) entry rest
            | none => none

/-- The node under a path that starts at this one. -/
def at? (node : Node) (path : String) : Option Node :=
  if path = "" || path.startsWith "/" then none
  else follow [] node ((Text.splitWhere (· = '/') path.toList).map .ofList)

/-- The directories on the way to a new node are made where they are missing. -/
def place (node : Node) : List String → Node → Node
  | [], new => new
  | name :: rest, new =>
      let entries := match node with
        | directory entries => entries
        | file _ => []
      if entries.any (·.1 = name) then
        directory (entries.map fun (known, entry) =>
          (known, if known = name then entry.place rest new else entry))
      else directory (entries ++ [(name, (directory []).place rest new)])

end Node

end Migration
