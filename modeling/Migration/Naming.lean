import Migration.Text.Words

namespace Migration

/-! English plurals and singulars of names whose words are joined by underscores. Only the last
word changes. -/

namespace Inflection

def irregular : List (List Char × List Char) :=
  [("person", "people"), ("child", "children"), ("man", "men"), ("woman", "women"),
   ("foot", "feet"), ("tooth", "teeth"), ("goose", "geese"), ("mouse", "mice")].map
    fun (singular, plural) => (singular.toList, plural.toList)

def uncountable : List (List Char) :=
  ["data", "equipment", "information", "media", "news", "series"].map String.toList

def isVowel (c : Char) : Bool :=
  ['a', 'e', 'i', 'o', 'u'].contains c

/-- What stands up to and including the last underscore, and the word after it. -/
def splitLastWord : List Char → List Char × List Char
  | [] => ([], [])
  | c :: rest =>
      let (head, last) := splitLastWord rest
      if head.isEmpty && c ≠ '_' then ([], c :: last) else (c :: head, last)

def endsWith (word : List Char) (ending : String) : Bool :=
  ending.toList.isSuffixOf word

/-- The word without an ending that it has, if something stands before the ending. -/
def stem? (word : List Char) (ending : String) : Option (List Char) :=
  let stem := word.take (word.length - ending.length)
  if endsWith word ending && !stem.isEmpty then some stem else none

def addsSyllable (word : List Char) : Bool :=
  ["s", "x", "z", "ch", "sh"].any (endsWith word)

def pluralWord (word : List Char) : List Char :=
  match irregular.lookup word with
  | some plural => plural
  | none =>
      if uncountable.contains word then word
      else if addsSyllable word then word ++ ['e', 's']
      else match stem? word "y" with
        | some stem =>
            if (stem.getLast?.map isVowel).getD true then word ++ ['s'] else stem ++ ['i', 'e', 's']
        | none => word ++ ['s']

def singularWord (word : List Char) : List Char :=
  match irregular.find? (·.2 = word) with
  | some (singular, _) => singular
  | none =>
      if uncountable.contains word then word
      else match stem? word "ies" with
        | some stem => stem ++ ['y']
        | none =>
            if ["ches", "shes", "sses", "xes", "zzes"].any (endsWith word) then
              word.take (word.length - 2)
            else if ["ss", "us", "is"].any (endsWith word) then word
            else (stem? word "s").getD word

def plural (name : List Char) : List Char :=
  if name.isEmpty then []
  else
    let (head, last) := splitLastWord name
    head ++ pluralWord last

def singular (name : List Char) : List Char :=
  let (head, last) := splitLastWord name
  head ++ singularWord last

example : plural "blog_category".toList = "blog_categories".toList
    ∧ singular "blog_branches".toList = "blog_branch".toList := by decide

end Inflection

def pluralize (name : String) : String :=
  .ofList (Inflection.plural name.toList)

def singularize (name : String) : String :=
  .ofList (Inflection.singular name.toList)

/-! Names of tables and columns. -/

def tableName (entity : String) : String :=
  pluralize (Text.snakeCase entity)

def foreignKeyColumn (name : String) : String :=
  Text.snakeCase name ++ "_id"

/-- The singulars of both tables, the lesser one first. -/
def joinTableName (first second : String) : String :=
  let first := singularize first
  let second := singularize second
  if first ≤ second then first ++ "_" ++ second else second ++ "_" ++ first

example : joinTableName "users" "branches" = "branch_user" := by decide +kernel

end Migration
