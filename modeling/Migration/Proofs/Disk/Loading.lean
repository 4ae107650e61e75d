import Mathlib.Data.List.Induction
import Migration.Disk.Loading
import Migration.Json.Writer
import Migration.Proofs.Json.Records

namespace Migration

open Json

/-! What the files of a directory come to: their entities one after the other, and their
enumerations and compound types put over each other in the order of the paths. -/

/-! ## One file -/

/-- The entities given in a file of that name, under the names that they come to have. -/
def Fragment.entities (name : String) : Fragment → List Entity
  | .document schema => schema.entities.values
  | .entity single => [single.namedOr (Node.stem name)]

def Fragment.enums : Fragment → Keyed (List String)
  | .document schema => schema.enums
  | .entity _ => []

def Fragment.compounds : Fragment → Keyed CompoundType
  | .document schema => schema.compounds
  | .entity _ => []

namespace Node.Found

/-- What the file holds, if its content is that of a file of a schema. -/
def read (found : Found) : Except Failure Fragment := do
  fromText found.path (← fileText found.path found.content)

/-- The document in the file, before the standard compound types are put under its own. -/
def document? (found : Found) : Option SchemaDocument :=
  match (do fromText found.path (← fileText found.path found.content) : Except Failure _) with
  | .ok document => some document
  | .error _ => none

def entities (found : Found) : List Entity :=
  match found.read with
  | .ok fragment => fragment.entities (found.names.getLast?.getD "")
  | .error _ => []

theorem addFile_eq (schema : Schema) {found : Found} {fragment : Fragment}
    (reads : found.read = .ok fragment) :
    schema.addFile found =
      match schema.addFragment (found.names.getLast?.getD "") fragment with
      | .ok schema => .ok schema
      | .error failure => .error (failure.during ("Loading '" ++ found.path ++ "'")) := by
  rcases bind_eq_ok.mp reads with ⟨text, isText, parsed⟩
  rw [Schema.addFile, isText]
  simp only [bind, Except.bind, parsed]
  rfl

end Node.Found

theorem exists_of_isOk {ε α : Type} {result : Except ε α} (isOk : result.isOk) :
    ∃ value, result = .ok value := by
  cases result with
  | ok value => exact ⟨value, rfl⟩
  | error failure => cases isOk

theorem fromText_eq_ok {α : Type} [Decode α] {path text : String} {value : α} :
    fromText path text = .ok value ↔
      ∃ document, Value.ofText? text = some document ∧ decode document = .ok value := by
  rw [fromText, decodeText]
  cases parsed : Value.ofText? text with
  | none => simp
  | some document => cases read : (decode document : Except Misfit α) <;> simp [read]

theorem decode_fragment_cases {value : Value} {fragment : Fragment}
    (reads : decode value = .ok fragment) :
    (∃ document : SchemaDocument,
        decode value = .ok document ∧ fragment = .document document.schema)
      ∨ (∃ misfit, (decode value : Except Misfit SchemaDocument) = .error misfit)
        ∧ ∃ entity : Entity, decode value = .ok entity ∧ fragment = .entity entity := by
  unfold instDecodeFragment at reads
  dsimp only at reads
  split at reads
  case h_1 schema isSchema =>
    cases reads
    rcases map_eq_ok.mp isSchema with ⟨document, isDocument, rfl⟩
    exact .inl ⟨document, isDocument, rfl⟩
  case h_2 misfit failed =>
    rcases map_eq_ok.mp reads with ⟨entity, isEntity, rfl⟩
    cases read : (decode value : Except Misfit SchemaDocument) with
    | ok document => cases failed.symm.trans (map_eq_ok.mpr ⟨document, read, rfl⟩)
    | error misfit => exact .inr ⟨⟨misfit, rfl⟩, entity, isEntity, rfl⟩

/-- A file that holds a document is read as that document with the standard types under its own,
and any other as an entity. -/
theorem Node.Found.read_cases {found : Found} {fragment : Fragment}
    (reads : found.read = .ok fragment) :
    (∃ document, found.document? = some document ∧ fragment = .document document.schema)
      ∨ found.document? = none ∧ ∃ entity, fragment = .entity entity := by
  rcases bind_eq_ok.mp reads with ⟨text, isText, parsed⟩
  rcases fromText_eq_ok.mp parsed with ⟨value, isValue, decoded⟩
  have asDocument : found.document? =
      match (decode value : Except Misfit SchemaDocument) with
      | .ok document => some document
      | .error _ => none := by
    simp only [document?, isText, bind, Except.bind, fromText, decodeText, isValue]
    cases (decode value : Except Misfit SchemaDocument) <;> rfl
  rcases decode_fragment_cases decoded with
    ⟨document, read, same⟩ | ⟨⟨misfit, failed⟩, entity, -, same⟩
  · exact .inl ⟨document, by rw [asDocument, read], same⟩
  · exact .inr ⟨by rw [asDocument, failed], entity, same⟩

/-! ## Files one after the other -/

namespace Schema

/-- Entities under their own names. -/
def keyedByName (entities : List Entity) : Keyed Entity :=
  entities.map fun entity => (entity.name, entity)

theorem foldlM_addUnique {schema : Schema} {entities : List Entity}
    (distinct : (schema.entities.keys ++ entities.map (·.name)).Nodup) :
    entities.foldlM addUnique schema =
      .ok { schema with entities := schema.entities ++ keyedByName entities } := by
  induction entities generalizing schema with
  | nil => simp [keyedByName, pure, Except.pure]
  | cons entity rest induction =>
      have absent : entity.name ∉ schema.entities.keys := by
        intro member
        exact (List.nodup_append.mp distinct).2.2 _ member _ List.mem_cons_self rfl
      have added : schema.addUnique entity = .ok
          { schema with entities := schema.entities ++ [(entity.name, entity)] } := by
        have unknown : schema.entities.contains entity.name = false := by
          rw [Keyed.contains, Keyed.get?_eq_none.mpr absent]
          rfl
        rw [addUnique, unknown, addEntity, Keyed.insert_of_not_mem absent]
        rfl
      rw [List.foldlM_cons, added]
      refine (induction ?_).trans ?_
      · simpa [Keyed.keys] using distinct
      · simp [keyedByName]

/-- A single entity is added as the only one of a document would be. -/
theorem addFragment_eq (schema : Schema) (name : String) (fragment : Fragment) :
    schema.addFragment name fragment =
      (fragment.entities name).foldlM addUnique schema >>= fun schema => pure { schema with
        enums := schema.enums.extend fragment.enums
        compounds := schema.compounds.extend fragment.compounds } := by
  cases fragment with
  | document document => rfl
  | entity entity =>
      rw [addFragment, Fragment.entities, List.foldlM_cons]
      cases schema.addUnique (entity.namedOr (Node.stem name)) <;> rfl

theorem addFragment_eq_ok {schema : Schema} {name : String} {fragment : Fragment}
    (distinct : (schema.entities.keys ++ (fragment.entities name).map (·.name)).Nodup) :
    schema.addFragment name fragment = .ok
      { entities := schema.entities ++ keyedByName (fragment.entities name)
        enums := schema.enums.extend fragment.enums
        compounds := schema.compounds.extend fragment.compounds } := by
  rw [addFragment_eq, foldlM_addUnique distinct]
  rfl

/-- The documents among the files. -/
def documents (files : List Node.Found) : List SchemaDocument :=
  files.filterMap (·.document?)

theorem documents_cons (found : Node.Found) (rest : List Node.Found) :
    documents (found :: rest) = found.document?.toList ++ documents rest := by
  cases isDocument : found.document? <;> simp [documents, isDocument]

/-- The compound types that each of the documents declares. -/
def declaredCompounds (files : List Node.Found) : List (Keyed CompoundType) :=
  (documents files).map (·.compounds)

/-- Whatever the files hold, as long as they can be read and no two entities come to have one name,
all of it is loaded. -/
theorem foldlM_addFile {schema : Schema} {files : List Node.Found}
    (readable : ∀ found ∈ files, found.read.isOk)
    (distinct : (schema.entities.keys ++ (files.flatMap (·.entities)).map (·.name)).Nodup) :
    files.foldlM addFile schema = .ok
      { entities := schema.entities ++ keyedByName (files.flatMap (·.entities))
        enums := schema.enums.extend ((documents files).flatMap (·.enums))
        compounds := schema.compounds.extend
          ((declaredCompounds files).flatMap CompoundType.standard.extend) } := by
  induction files generalizing schema with
  | nil => simp [keyedByName, documents, declaredCompounds, Keyed.extend, pure, Except.pure]
  | cons found rest induction =>
      rcases exists_of_isOk (readable found List.mem_cons_self) with ⟨fragment, reads⟩
      have given : found.entities = fragment.entities (found.names.getLast?.getD "") := by
        rw [Node.Found.entities, reads]
      rw [List.flatMap_cons, given, List.map_append, ← List.append_assoc] at distinct
      have added := addFragment_eq_ok (List.nodup_append.mp distinct).1
      have enums : fragment.enums = found.document?.toList.flatMap (·.enums) := by
        rcases found.read_cases reads with ⟨document, is, rfl⟩ | ⟨is, entity, rfl⟩ <;>
          simp [is, Fragment.enums, SchemaDocument.schema]
      have compounds : fragment.compounds = (found.document?.toList.map (·.compounds)).flatMap
          CompoundType.standard.extend := by
        rcases found.read_cases reads with ⟨document, is, rfl⟩ | ⟨is, entity, rfl⟩ <;>
          simp [is, Fragment.compounds, SchemaDocument.schema]
      rw [List.foldlM_cons, Node.Found.addFile_eq schema reads, added]
      have others : ∀ other ∈ rest, other.read.isOk := fun other member =>
        readable other (List.mem_cons_of_mem _ member)
      refine (induction others ?_).trans ?_
      · simpa [keyedByName, Keyed.keys, Function.comp_def] using distinct
      · simp [keyedByName, given, declaredCompounds, documents_cons, enums, compounds,
          Keyed.extend_append]

end Schema

/-! ## Enumerations and compound types -/

theorem SchemaDocument.nodup_of_decode {value : Value} {document : SchemaDocument}
    (reads : decode value = .ok document) :
    document.enums.keys.Nodup ∧ document.compounds.keys.Nodup := by
  rcases bind_eq_ok.mp reads with ⟨record, _, rest⟩
  rcases bind_eq_ok.mp rest with ⟨entities, _, rest⟩
  rcases bind_eq_ok.mp rest with ⟨enums, enumsGiven, rest⟩
  rcases bind_eq_ok.mp rest with ⟨compounds, compoundsGiven, same⟩
  cases same
  constructor
  · rcases Record.of_withDefault enumsGiven with rfl | ⟨given, read⟩
    · exact List.nodup_nil
    · exact (of_decodeEntries_eq_ok read).1
  · rcases Record.of_withDefault compoundsGiven with rfl | ⟨given, read⟩
    · exact List.nodup_nil
    · exact (of_decodeEntries_eq_ok read).1

theorem Node.Found.nodup_of_document? {found : Found} {document : SchemaDocument}
    (isDocument : found.document? = some document) :
    document.enums.keys.Nodup ∧ document.compounds.keys.Nodup := by
  rw [document?] at isDocument
  split at isDocument
  case h_1 read reads =>
    cases isDocument
    rcases bind_eq_ok.mp reads with ⟨text, _, parsed⟩
    rcases fromText_eq_ok.mp parsed with ⟨value, _, decoded⟩
    exact SchemaDocument.nodup_of_decode decoded
  case h_2 => cases isDocument

namespace CompoundType

/-! What each of several documents declares, the last of them at the end. -/

variable {declarations : List (Keyed CompoundType)}

/-- What the last document that declares a type of that name says about it. -/
def lastDeclared (declarations : List (Keyed CompoundType)) (name : String) :
    Option CompoundType :=
  declarations.reverse.findSome? (·.get? name)

/-- A standard type has been declared anew, but not in the last of the documents. -/
def PutBack (declarations : List (Keyed CompoundType)) (name : String) : Prop :=
  (standard.get? name).isSome ∧ (lastDeclared declarations name).isSome
    ∧ lastDeclared declarations name ≠ standard.get? name
    ∧ declarations.getLast?.bind (·.get? name) = none

instance (declarations : List (Keyed CompoundType)) (name : String) :
    Decidable (PutBack declarations name) :=
  inferInstanceAs (Decidable (_ ∧ _ ∧ _ ∧ _))

theorem lastDeclared_concat (declarations : List (Keyed CompoundType)) (last : Keyed CompoundType)
    (name : String) : lastDeclared (declarations ++ [last]) name =
      (last.get? name).or (lastDeclared declarations name) := by
  cases found : last.get? name <;> simp [lastDeclared, found]

/-- What the last document declares is what was declared last. -/
theorem lastDeclared_of_getLast? {name : String} {declared : CompoundType}
    (isLast : declarations.getLast?.bind (·.get? name) = some declared) :
    lastDeclared declarations name = some declared := by
  rcases Option.bind_eq_some_iff.mp isLast with ⟨last, found, declares⟩
  rcases List.getLast?_eq_some_iff.mp found with ⟨before, rfl⟩
  rw [lastDeclared_concat, declares, Option.some_or]

/-- Every document brings the standard types along, under its own. -/
theorem get?_extend_declarations (distinct : ∀ declared ∈ declarations, declared.keys.Nodup)
    (name : String) :
    (standard.extend (declarations.flatMap standard.extend)).get? name =
      if (standard.get? name).isSome then
        (declarations.getLast?.bind (·.get? name)).or (standard.get? name)
      else lastDeclared declarations name := by
  induction declarations using List.reverseRecOn with
  | nil => cases original : standard.get? name <;> simp [original, Keyed.extend, lastDeclared]
  | append_singleton before last induction =>
      have earlier := induction fun declared member =>
        distinct declared (List.mem_append_left _ member)
      have lastDistinct := distinct last (by simp)
      have whole : (standard.extend last).keys.Nodup := Keyed.nodup_extend (by decide) last
      rw [List.flatMap_append, Keyed.extend_append, List.flatMap_singleton,
        Keyed.get?_extend whole, Keyed.get?_extend lastDistinct, earlier, lastDeclared_concat,
        List.getLast?_concat, Option.bind_some, Option.or_assoc]
      cases standard.get? name <;> simp

/-- What is declared last stays in effect unless the standard type is put back. -/
theorem get?_extend_declarations_iff (distinct : ∀ declared ∈ declarations, declared.keys.Nodup)
    (name : String) :
    (standard.extend (declarations.flatMap standard.extend)).get? name =
        (lastDeclared declarations name).or (standard.get? name)
      ↔ ¬PutBack declarations name := by
  rw [get?_extend_declarations distinct, PutBack]
  cases standard.get? name with
  | none => simp
  | some original =>
      cases last : declarations.getLast?.bind (·.get? name) with
      | some declared => simp [lastDeclared_of_getLast? last]
      | none =>
          cases lastDeclared declarations name with
          | none => simp
          | some declared => simp [eq_comm]

end CompoundType

namespace Schema

theorem nodup_of_mem_declaredCompounds {files : List Node.Found} {declared : Keyed CompoundType}
    (member : declared ∈ declaredCompounds files) : declared.keys.Nodup := by
  rcases List.mem_map.mp member with ⟨document, isMember, rfl⟩
  rcases List.mem_filterMap.mp isMember with ⟨found, _, isDocument⟩
  exact (Node.Found.nodup_of_document? isDocument).2

/-- The files of a schema in a directory, in the order in which they are read. -/
def sourceFiles (path : String) (entries : List (String × Node)) : List Node.Found :=
  ((Node.filesOfEntries [] path entries).filter fun found =>
      (found.names.getLast?.bind Node.extension?) = some "json").mergeSort
    fun left right => Node.namesUpTo left.names right.names

/-- Each of the files is read, and no two of the entities in them come to have one name. -/
structure Loadable (files : List Node.Found) : Prop where
  readable : ∀ found ∈ files, found.read.isOk
  distinct : ((files.flatMap (·.entities)).map (·.name)).Nodup

theorem loadDirectory_eq_ok {path : String} {entries : List (String × Node)}
    (loadable : Loadable (sourceFiles path entries)) :
    loadDirectory path (some (.directory entries)) = .ok
      { entities := keyedByName ((sourceFiles path entries).flatMap (·.entities))
        enums := Keyed.ofList ((documents (sourceFiles path entries)).flatMap (·.enums))
        compounds := CompoundType.standard.extend
          ((declaredCompounds (sourceFiles path entries)).flatMap CompoundType.standard.extend) } :=
  @foldlM_addFile {} _ loadable.readable loadable.distinct

/-- A directory that can be loaded is. Each of its compound types is then as the last document that
declares it says, and the standard ones that no document declares are as they were, but for those
that are put back. -/
theorem get?_compounds_loadDirectory_iff {path : String} {entries : List (String × Node)}
    (loadable : Loadable (sourceFiles path entries)) : ∃ schema,
      loadDirectory path (some (.directory entries)) = .ok schema
        ∧ ∀ name, schema.compounds.get? name =
            (CompoundType.lastDeclared (declaredCompounds (sourceFiles path entries)) name).or
              (CompoundType.standard.get? name)
          ↔ ¬CompoundType.PutBack (declaredCompounds (sourceFiles path entries)) name :=
  ⟨_, loadDirectory_eq_ok loadable,
    CompoundType.get?_extend_declarations_iff fun _ => nodup_of_mem_declaredCompounds⟩

theorem sourceFiles_eq {path : String} {entries : List (String × Node)}
    (named : ∀ found ∈ Node.filesOfEntries [] path entries,
      (found.names.getLast?.bind Node.extension?) = some "json")
    (ordered : (Node.filesOfEntries [] path entries).Pairwise fun left right =>
      Node.namesUpTo left.names right.names) :
    sourceFiles path entries = Node.filesOfEntries [] path entries := by
  have all := List.filter_eq_self.mpr fun found member => decide_eq_true (named found member)
  rw [sourceFiles, all]
  exact List.mergeSort_of_pairwise ordered

end Schema

/-! ## Two directories -/

/-- A document with one entity of that name, and with compound types. -/
def documentFile (name : String) (compounds : Keyed CompoundType) : Node :=
  let document : Value := .object (field "entities" (.object [(name, .object [])] : Value)
    ++ entriesField "compound_types" compounds)
  .file document.compact.toUTF8

/-- Money in cents. -/
def wholeMoney : CompoundType := ⟨[{ suffix := "cents", typeName := "bigint" }]⟩

/-- Two documents and between them a single entity. The first document declares two types. -/
def shopEntries (last : Keyed CompoundType) : List (String × Node) :=
  [("a.json", documentFile "Invoice" [("money", wholeMoney), ("span", ⟨[]⟩)]),
   ("b.json", .file "\x7b\x7d".toUTF8),
   ("c.json", documentFile "User" last)]

def shopFiles (last : Keyed CompoundType) : List Node.Found :=
  Schema.sourceFiles "schema" (shopEntries last)

/-- What the files come to, apart from the order in which they are read. -/
theorem loadable_shopFiles (last : Keyed CompoundType) (declared : List (Keyed CompoundType))
    (files : shopFiles last = Node.filesOfEntries [] "schema" (shopEntries last))
    (read : (∀ found ∈ Node.filesOfEntries [] "schema" (shopEntries last), found.read.isOk)
      ∧ ((Node.filesOfEntries [] "schema" (shopEntries last)).flatMap (·.entities)).map (·.name) =
          ["Invoice", "b", "User"]
      ∧ Schema.declaredCompounds (Node.filesOfEntries [] "schema" (shopEntries last)) = declared) :
    Schema.Loadable (shopFiles last) ∧ Schema.declaredCompounds (shopFiles last) = declared := by
  rw [← files] at read
  exact ⟨⟨read.1, by rw [read.2.1]; decide⟩, read.2.2⟩

/-- The last document may say anew what money is. -/
theorem shopEntries_keep_money :
    Schema.Loadable (shopFiles [("money", ⟨[]⟩)]) ∧ ∃ schema,
      Schema.loadDirectory "schema" (some (.directory (shopEntries [("money", ⟨[]⟩)])))
          = .ok schema
        ∧ schema.compounds.get? "money" = some ⟨[]⟩
        ∧ schema.compounds.get? "span" = some ⟨[]⟩ := by
  have ⟨loadable, declared⟩ := loadable_shopFiles [("money", ⟨[]⟩)]
    [[("money", wholeMoney), ("span", ⟨[]⟩)], [("money", ⟨[]⟩)]]
    (Schema.sourceFiles_eq (by decide +kernel) (by decide +kernel)) (by decide +kernel)
  rcases Schema.get?_compounds_loadDirectory_iff loadable with ⟨schema, loaded, keeps⟩
  rw [← shopFiles, declared] at keeps
  exact ⟨loadable, schema, loaded, (keeps "money").mpr (by decide), (keeps "span").mpr (by decide)⟩

/-- If it says nothing of money, the standard type is back. -/
theorem shopEntries_put_money_back :
    Schema.Loadable (shopFiles [])
      ∧ CompoundType.lastDeclared (Schema.declaredCompounds (shopFiles [])) "money" =
          some wholeMoney
      ∧ ∃ schema, Schema.loadDirectory "schema" (some (.directory (shopEntries []))) = .ok schema
          ∧ schema.compounds.get? "money" ≠ some wholeMoney := by
  have ⟨loadable, declared⟩ := loadable_shopFiles [] [[("money", wholeMoney), ("span", ⟨[]⟩)], []]
    (Schema.sourceFiles_eq (by decide +kernel) (by decide +kernel)) (by decide +kernel)
  have last : CompoundType.lastDeclared (Schema.declaredCompounds (shopFiles [])) "money" =
      some wholeMoney := by
    rw [declared]
    decide
  refine ⟨loadable, last, _, Schema.loadDirectory_eq_ok loadable, ?_⟩
  intro kept
  have law := kept.trans (congrArg (·.or (CompoundType.standard.get? "money")) last).symm
  have inEffect : ¬CompoundType.PutBack (Schema.declaredCompounds (shopFiles [])) "money" :=
    (CompoundType.get?_extend_declarations_iff (fun _ => Schema.nodup_of_mem_declaredCompounds)
      "money").mp law
  rw [declared] at inEffect
  exact inEffect (by decide)

end Migration
