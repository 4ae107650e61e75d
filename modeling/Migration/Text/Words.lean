import Migration.Text.Alphanumeric
import Migration.Text.LetterCase

namespace Migration.Text

/-! The words of an identifier. Characters that are neither letters nor numbers separate words,
and inside a piece free of them the case of the letters does: a word ends where an upper-case
letter follows a lower-case one, and before the last upper-case letter of a run that a lower-case
letter follows. -/

inductive Stretch where
  | fresh
  | lower
  | upper
  deriving DecidableEq

/-- A character without case leaves the stretch as it is. -/
def Stretch.after (stretch : Stretch) (c : Char) : Stretch :=
  if isLowercase c then .lower else if isUppercase c then .upper else stretch

/-- The words of a piece, `word` being the letters already read of the first of them, the last
read first. -/
def wordsAfter (stretch : Stretch) (word : List Char) : List Char → List (List Char)
  | [] => if word.isEmpty then [] else [word.reverse]
  | [last] => [(last :: word).reverse]
  | c :: next :: rest =>
      if stretch.after c = .lower ∧ isUppercase next then
        (c :: word).reverse :: wordsAfter .fresh [] (next :: rest)
      else if stretch = .upper ∧ isUppercase c ∧ isLowercase next then
        word.reverse :: wordsAfter .fresh [c] (next :: rest)
      else
        wordsAfter (stretch.after c) (c :: word) (next :: rest)

def words (text : List Char) : List (List Char) :=
  (splitWhere (!isAlphanumeric ·) text).flatMap (wordsAfter .fresh [])

example : words "XMLHttp2Request-id".toList =
    ["XML".toList, "Http2".toList, "Request".toList, "id".toList] := by decide

/-! Words in one case. A capital sigma that ends a word becomes the final small sigma. -/

def lowerWord : List Char → List Char
  | [] => []
  | [c] => if c = 'Σ' then ['ς'] else lower c
  | c :: rest => lower c ++ lowerWord rest

def capitalWord : List Char → List Char
  | [] => []
  | c :: rest => upper c ++ lowerWord rest

/-! Three ways of writing the words as one identifier. -/

def snakeCase (text : String) : String :=
  .ofList (['_'].intercalate ((words text.toList).map lowerWord))

def pascalCase (text : String) : String :=
  .ofList ((words text.toList).flatMap capitalWord)

def camelCase (text : String) : String :=
  match words text.toList with
  | [] => ""
  | first :: rest => .ofList (lowerWord first ++ rest.flatMap capitalWord)

example : snakeCase "BlogPost" = "blog_post" := by decide +kernel

end Migration.Text
