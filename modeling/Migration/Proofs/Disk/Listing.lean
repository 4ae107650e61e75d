import Mathlib.Data.List.Lex
import Mathlib.Data.String.Basic
import Migration.Proofs.Disk.Loading

namespace Migration

/-! What a directory comes to whose files can all be read. Either it is loaded as a whole, or some
entity comes to have a name that one before it has, and the first such entity is reported with its
file. The order in which the files are listed does not matter. -/

/-! ## The order of the files -/

theorem Node.namesUpTo_iff {left right : List String} :
    namesUpTo left right = true ↔ ¬right < left := by
  induction left generalizing right with
  | nil => simp [namesUpTo]
  | cons name names induction =>
      cases right with
      | nil => simp [namesUpTo]
      | cons other others =>
          have trichotomy := lt_trichotomy name other
          rw [namesUpTo, List.cons_lt_cons_iff, Bool.or_eq_true, Bool.and_eq_true, induction,
            decide_eq_true_iff, decide_eq_true_iff]
          rcases trichotomy with less | same | greater
          · simp [less, less.asymm, less.ne']
          · simp [same]
          · simp [greater, greater.asymm, greater.ne']

namespace Schema

/-- The files of a schema in a directory, as they are listed. -/
def listedFiles (path : String) (entries : List (String × Node)) : List Node.Found :=
  (Node.filesOfEntries [] path entries).filter fun found =>
    (found.names.getLast?.bind Node.extension?) = some "json"

variable {path : String} {entries others : List (String × Node)}

theorem sourceFiles_perm : (sourceFiles path entries).Perm (listedFiles path entries) :=
  List.mergeSort_perm _ _

theorem pairwise_sourceFiles (distinct : ((listedFiles path entries).map (·.names)).Nodup) :
    (sourceFiles path entries).Pairwise fun left right => left.names < right.names := by
  have sorted : (sourceFiles path entries).Pairwise fun left right =>
      ¬right.names < left.names := by
    refine (List.pairwise_mergeSort ?_ ?_ _).imp Node.namesUpTo_iff.mp
    · simp only [Node.namesUpTo_iff, not_lt]
      exact fun _ _ _ => le_trans
    · simp only [Bool.or_eq_true, Node.namesUpTo_iff, not_lt]
      exact fun left right => le_total left.names right.names
  have apart : (sourceFiles path entries).Pairwise fun left right => left.names ≠ right.names :=
    List.pairwise_map.mp ((sourceFiles_perm.map _).nodup_iff.mpr distinct)
  refine sorted.imp₂ (fun left right upTo differ => ?_) apart
  exact (lt_trichotomy left.names right.names).resolve_right (not_or.mpr ⟨differ, upTo⟩)

/-- Paths that differ can be put into one order only. -/
theorem sourceFiles_eq_of_perm (distinct : ((listedFiles path entries).map (·.names)).Nodup)
    (same : (listedFiles path others).Perm (listedFiles path entries)) :
    sourceFiles path others = sourceFiles path entries := by
  have othersDistinct := (same.map (·.names)).nodup_iff.mpr distinct
  refine List.Perm.eq_of_pairwise (fun _ _ _ _ less greater => (less.asymm greater).elim)
    (pairwise_sourceFiles othersDistinct) (pairwise_sourceFiles distinct) ?_
  exact sourceFiles_perm.trans (same.trans sourceFiles_perm.symm)

end Schema

/-! ## What stands in the files -/

/-- An entity as it stands in a file, and the name that it takes if it has none. -/
structure GivenEntity where
  fallback : String
  entity : Entity

namespace GivenEntity

def effectiveName (given : GivenEntity) : String :=
  if given.entity.name = "" then given.fallback else given.entity.name

/-- The entity under its effective name. -/
def named (given : GivenEntity) : Entity :=
  { given.entity with name := given.effectiveName }

theorem named_eq (given : GivenEntity) : given.named = given.entity.namedOr given.fallback := by
  rw [named, effectiveName, Entity.namedOr]
  split <;> rfl

end GivenEntity

namespace Node.Found

/-- The entities of a document may do without a name because of their keys, and an entity in a file
of its own because of the stem of that file. -/
def given (found : Found) : List GivenEntity :=
  match found.document?, found.read with
  | some document, _ => document.entities.map fun (key, entity) => ⟨key, entity⟩
  | none, .ok (.entity entity) => [⟨Node.stem (found.names.getLast?.getD ""), entity⟩]
  | none, _ => []

/-- The values of an enumeration, if the file is a document that declares it. -/
def enum? (found : Found) (name : String) : Option (List String) :=
  found.document?.bind (·.enums.get? name)

theorem entities_eq {found : Found} (readable : found.read.isOk) :
    found.entities = found.given.map (·.named) := by
  rcases exists_of_isOk readable with ⟨fragment, reads⟩
  rw [entities, reads, given]
  rcases found.read_cases reads with ⟨document, is, rfl⟩ | ⟨is, entity, rfl⟩
  · simp [is, Fragment.entities, SchemaDocument.schema, Keyed.values, GivenEntity.named_eq]
  · simp [is, reads, Fragment.entities, GivenEntity.named_eq]

end Node.Found

namespace Schema

variable {files : List Node.Found}

/-- The entities in the files, file by file. -/
def givenIn (files : List Node.Found) : List GivenEntity :=
  files.flatMap (·.given)

def effectiveNames (files : List Node.Found) : List String :=
  (givenIn files).map (·.effectiveName)

theorem flatMap_entities (readable : ∀ found ∈ files, found.read.isOk) :
    files.flatMap (·.entities) = (givenIn files).map (·.named) := by
  rw [givenIn, List.map_flatMap]
  exact List.flatMap_congr fun found member => found.entities_eq (readable found member)

theorem map_name_flatMap_entities (readable : ∀ found ∈ files, found.read.isOk) :
    (files.flatMap (·.entities)).map (·.name) = effectiveNames files := by
  rw [flatMap_entities readable, List.map_map]
  rfl

/-! ## The first entity whose name is taken -/

/-- Of values with known names the first whose name is taken. -/
theorem exists_split_at_repeated_key {α : Type} {key : α → String} {known : List String}
    {values : List α} (distinct : known.Nodup) (repeats : ¬(known ++ values.map key).Nodup) :
    ∃ earlier value later, values = earlier ++ value :: later
      ∧ (known ++ earlier.map key).Nodup ∧ key value ∈ known ++ earlier.map key := by
  induction values generalizing known with
  | nil => simp [distinct] at repeats
  | cons value rest induction =>
      by_cases taken : key value ∈ known
      · exact ⟨[], value, rest, rfl, by simpa using distinct, by simpa using taken⟩
      · have next : (known ++ [key value]).Nodup := by
          rw [List.nodup_append]
          refine ⟨distinct, List.nodup_singleton _, ?_⟩
          rintro name isKnown _ single rfl
          exact taken (List.mem_singleton.mp single ▸ isKnown)
        rw [List.map_cons, List.append_cons] at repeats
        rcases induction next repeats with ⟨earlier, again, later, rfl, apart, isTaken⟩
        rw [← List.append_cons, ← List.map_cons] at apart isTaken
        exact ⟨value :: earlier, again, later, rfl, apart, isTaken⟩

/-- The first entity of the files that comes to have a name that one before it has, and its file. -/
structure FirstTaken (files : List Node.Found) (found : Node.Found) (name : String) : Prop where
  first : ∃ before after earlier given later,
    files = before ++ found :: after ∧ found.given = earlier ++ given :: later
      ∧ given.effectiveName = name
      ∧ (effectiveNames before ++ earlier.map (·.effectiveName)).Nodup
      ∧ name ∈ effectiveNames before ++ earlier.map (·.effectiveName)

theorem exists_firstTaken (repeats : ¬(effectiveNames files).Nodup) :
    ∃ found name, FirstTaken files found name := by
  induction files using List.reverseRecOn with
  | nil => simp [effectiveNames, givenIn] at repeats
  | append_singleton before found induction =>
      -- If no name is taken before the last file, it is one in there.
      by_cases distinct : (effectiveNames before).Nodup
      · have names : effectiveNames (before ++ [found]) =
            effectiveNames before ++ found.given.map (·.effectiveName) := by
          simp [effectiveNames, givenIn]
        rw [names] at repeats
        rcases exists_split_at_repeated_key distinct repeats with
          ⟨earlier, given, later, whole, apart, taken⟩
        exact ⟨found, _, before, [], earlier, given, later, rfl, whole, rfl, apart, taken⟩
      · rcases induction distinct with
          ⟨first, name, before, after, earlier, given, later, rfl, rest⟩
        exact ⟨first, name, before, after ++ [found], earlier, given, later, by simp, rest⟩

theorem foldlM_addUnique_of_taken {schema : Schema} {earlier later : List Entity} {entity : Entity}
    (distinct : (schema.entities.keys ++ earlier.map (·.name)).Nodup)
    (taken : entity.name ∈ schema.entities.keys ++ earlier.map (·.name)) :
    (earlier ++ entity :: later).foldlM addUnique schema =
      .error (.duplicateEntity entity.name) := by
  have known : (schema.entities ++ keyedByName earlier).contains entity.name = true := by
    rw [Keyed.contains, Option.isSome_iff_ne_none, ne_eq, Keyed.get?_eq_none, not_not]
    simpa [Keyed.keys, keyedByName, Function.comp_def] using taken
  rw [List.foldlM_append, foldlM_addUnique distinct]
  simp only [bind, Except.bind, List.foldlM_cons, addUnique, known]
  rfl

theorem addFile_of_taken {schema : Schema} {found : Node.Found} {earlier later : List GivenEntity}
    {given : GivenEntity} (readable : found.read.isOk)
    (whole : found.given = earlier ++ given :: later)
    (distinct : (schema.entities.keys ++ earlier.map (·.effectiveName)).Nodup)
    (taken : given.effectiveName ∈ schema.entities.keys ++ earlier.map (·.effectiveName)) :
    schema.addFile found = .error
      ((Failure.duplicateEntity given.effectiveName).during ("Loading '" ++ found.path ++ "'")) := by
  rcases exists_of_isOk readable with ⟨fragment, reads⟩
  have entities : fragment.entities (found.names.getLast?.getD "") =
      earlier.map (·.named) ++ given.named :: later.map (·.named) := by
    have same := found.entities_eq readable
    rwa [Node.Found.entities, reads, whole, List.map_append, List.map_cons] at same
  have names : (earlier.map (·.named)).map (·.name) = earlier.map (·.effectiveName) := by
    rw [List.map_map]
    rfl
  rw [← names] at distinct taken
  rw [Node.Found.addFile_eq schema reads, addFragment_eq, entities,
    foldlM_addUnique_of_taken distinct taken]
  rfl

theorem foldlM_addFile_of_firstTaken {found : Node.Found} {name : String}
    (readable : ∀ found ∈ files, found.read.isOk) (taken : FirstTaken files found name) :
    files.foldlM addFile {} =
      .error ((Failure.duplicateEntity name).during ("Loading '" ++ found.path ++ "'")) := by
  rcases taken.first with ⟨before, after, earlier, given, later, rfl, whole, rfl, apart, isTaken⟩
  have beforeReadable : ∀ found ∈ before, found.read.isOk := fun found member =>
    readable found (List.mem_append_left _ member)
  have names := map_name_flatMap_entities beforeReadable
  have loaded := @foldlM_addFile {} before beforeReadable
    (by simpa [Keyed.keys, names] using (List.nodup_append.mp apart).1)
  have keys : Keyed.keys ([] ++ keyedByName (before.flatMap (·.entities))) =
      effectiveNames before := by
    rw [List.nil_append, Keyed.keys, keyedByName, List.map_map, ← names]
    rfl
  rw [List.foldlM_append, loaded]
  simp only [bind, Except.bind, List.foldlM_cons]
  rw [addFile_of_taken (readable found (by simp)) whole (by rwa [keys]) (by rwa [keys])]

/-! ## Enumerations -/

theorem get?_enums (files : List Node.Found) (name : String) :
    (Keyed.ofList ((documents files).flatMap (·.enums))).get? name =
      files.reverse.findSome? (·.enum? name) := by
  induction files using List.reverseRecOn with
  | nil => rfl
  | append_singleton before found induction =>
      -- What the last file declares is put over all that was there before.
      have split : documents (before ++ [found]) = documents before ++ found.document?.toList := by
        cases isDocument : found.document? <;> simp [documents, isDocument]
      rw [Keyed.ofList] at induction ⊢
      rw [List.reverse_append, List.reverse_singleton, List.singleton_append, List.findSome?_cons,
        ← induction, Node.Found.enum?, split, List.flatMap_append, Keyed.extend_append]
      cases isDocument : found.document? with
      | none => simp [Keyed.extend]
      | some document =>
          have distinct := (Node.Found.nodup_of_document? isDocument).1
          rw [Option.toList_some, List.flatMap_singleton, Keyed.get?_extend distinct,
            Option.bind_some]
          cases document.enums.get? name <;> rfl

/-! ## Whole directories -/

/-- What loading the files in that order comes to: a failure at the first entity whose name is
taken if there is one, and otherwise all the entities under their names, with the enumerations as
the last file that declares them says. -/
structure Loads (files : List Node.Found) (result : Except Failure Schema) : Prop where
  fails : (∃ failure, result = .error failure) ↔ ¬(effectiveNames files).Nodup
  reports : ∀ failure, result = .error failure → ∃ found name, FirstTaken files found name
    ∧ failure = (Failure.duplicateEntity name).during ("Loading '" ++ found.path ++ "'")
  entities : ∀ schema, result = .ok schema →
    schema.entities = (givenIn files).map fun given => (given.effectiveName, given.named)
  enums : ∀ schema, result = .ok schema →
    ∀ name, schema.enums.get? name = files.reverse.findSome? (·.enum? name)

theorem loads_of_nodup {path : String} {entries : List (String × Node)}
    (readable : ∀ found ∈ sourceFiles path entries, found.read.isOk)
    (distinct : (effectiveNames (sourceFiles path entries)).Nodup) :
    Loads (sourceFiles path entries) (loadDirectory path (some (.directory entries))) := by
  rw [loadDirectory_eq_ok ⟨readable, by rwa [map_name_flatMap_entities readable]⟩]
  constructor
  case fails => simp [distinct]
  case reports => exact fun _ => nofun
  case entities =>
    rintro _ ⟨⟩
    rw [flatMap_entities readable, keyedByName, List.map_map]
    rfl
  case enums =>
    rintro _ ⟨⟩ name
    exact get?_enums _ name

theorem loads_of_not_nodup {path : String} {entries : List (String × Node)}
    (readable : ∀ found ∈ sourceFiles path entries, found.read.isOk)
    (repeats : ¬(effectiveNames (sourceFiles path entries)).Nodup) :
    Loads (sourceFiles path entries) (loadDirectory path (some (.directory entries))) := by
  rcases exists_firstTaken repeats with ⟨found, name, taken⟩
  have failed : loadDirectory path (some (.directory entries)) = .error
      ((Failure.duplicateEntity name).during ("Loading '" ++ found.path ++ "'")) :=
    foldlM_addFile_of_firstTaken readable taken
  rw [failed]
  constructor
  case fails => simp [repeats]
  case reports =>
    rintro _ ⟨⟩
    exact ⟨found, name, taken, rfl⟩
  case entities => exact fun _ => nofun
  case enums => exact fun _ => nofun

/-- Readable files under different paths are loaded in the order of the paths. Another listing of
the same files comes to the same. -/
theorem exists_loads_and_loadDirectory_eq {path : String} {entries : List (String × Node)}
    (readable : ∀ found ∈ listedFiles path entries, found.read.isOk)
    (distinct : ((listedFiles path entries).map (·.names)).Nodup) : ∃ files,
      files.Perm (listedFiles path entries)
        ∧ (files.Pairwise fun left right => left.names < right.names)
        ∧ Loads files (loadDirectory path (some (.directory entries)))
        ∧ ∀ others, (listedFiles path others).Perm (listedFiles path entries) →
            loadDirectory path (some (.directory others)) =
              loadDirectory path (some (.directory entries)) := by
  have sourceReadable : ∀ found ∈ sourceFiles path entries, found.read.isOk :=
    fun found member => readable found (sourceFiles_perm.mem_iff.mp member)
  refine ⟨_, sourceFiles_perm, pairwise_sourceFiles distinct, ?_, fun others same => ?_⟩
  · by_cases repeats : (effectiveNames (sourceFiles path entries)).Nodup
    · exact loads_of_nodup sourceReadable repeats
    · exact loads_of_not_nodup sourceReadable repeats
  · exact congrArg (List.foldlM addFile {}) (sourceFiles_eq_of_perm distinct same)

/-! Two documents of which each has a user of its own. -/

def userEntries : List (String × Node) :=
  [("b.json", documentFile "User" []), ("a.json", documentFile "User" [])]

theorem userEntries_fail_alike :
    (∃ failure, loadDirectory "schema" (some (.directory userEntries)) = .error failure)
      ∧ loadDirectory "schema" (some (.directory userEntries.reverse)) =
          loadDirectory "schema" (some (.directory userEntries)) := by
  rcases exists_loads_and_loadDirectory_eq
    (show ∀ found ∈ listedFiles "schema" userEntries, found.read.isOk by decide +kernel)
    (by decide +kernel) with ⟨files, same, -, loads, alike⟩
  have repeats : ¬(effectiveNames (listedFiles "schema" userEntries)).Nodup := by decide +kernel
  refine ⟨loads.fails.mpr fun distinct => repeats ?_, alike _ ?_⟩
  · exact ((same.flatMap_right _).map _).nodup_iff.mp distinct
  · exact .swap _ _ []

end Schema

end Migration
