import Migration.Toml.Scalar
import Migration.Toml.Table

namespace Migration.Toml

open Json (Reader Value)

/-! Reading a settings text as a document. -/

/-- Arrays and tables within a line nest at most this deep, and a key has at most as many names. -/
def nestingLimit : Nat := 79

/-! ## Values -/

/-- Space, comments and line breaks; `steps` is the length of the text. -/
def skipLines : (steps : Nat) → List Char → List Char
  | 0, text => text
  | steps + 1, text =>
      let rest := skipComment (skipSpace text)
      match readLineBreak rest with
      | some text => skipLines steps text
      | none => rest

def skipAllLines (text : List Char) : List Char :=
  skipLines text.length text

/-! `steps` bounds the values still to be read and `depth` their nesting. -/

mutual
def readValue : (steps depth : Nat) → Reader Value
  | 0, _, _ => none
  | steps + 1, depth, text =>
      match text with
      | [] => none
      | c :: rest =>
          if c = '"' || c = '\'' then
            (readString (c :: rest)).map fun (text, rest) => (.string text, rest)
          else if c = '[' then
            match depth with
            | 0 => none
            | depth + 1 => (readItems steps depth rest).map fun (items, rest) =>
                (.array items, rest)
          else if c = '\x7b' then
            match depth with
            | 0 => none
            | depth + 1 =>
                match skipSpace rest with
                | '\x7d' :: rest => some (.object [], rest)
                | rest => (readPairs steps depth [] rest).map fun (entries, rest) =>
                    (.object (valuesOf entries), rest)
          else readWord (c :: rest)

/-- Items with a comma between them and perhaps one after them, on any number of lines. -/
def readItems : (steps depth : Nat) → Reader (List Value)
  | 0, _, _ => none
  | steps + 1, depth, text =>
      match skipAllLines text with
      | ']' :: text => some ([], text)
      | text => do
          let (item, text) ← readValue steps depth text
          match skipAllLines text with
          | ']' :: text => some ([item], text)
          | ',' :: text => do
              let (items, text) ← readItems steps depth text
              some (item :: items, text)
          | _ => none

/-- Pairs on one line up to the closing brace, at least one. -/
def readPairs : (steps depth : Nat) → Entries → Reader Entries
  | 0, _, _, _ => none
  | steps + 1, depth, entries, text => do
      let (key, text) ← readKey nestingLimit text
      match text with
      | '=' :: text => do
          let (value, text) ← readValue steps depth (skipSpace text)
          let entries ← entries.insert value key
          match skipSpace text with
          | ',' :: text => readPairs steps depth entries text
          | '\x7d' :: text => some (entries, text)
          | _ => none
      | _ => none
end

/-! ## Lines -/

/-- What has been read, and the header that the next pairs belong under. -/
structure Progress where
  entries : Entries
  header : List String

def readHeader (progress : Progress) (text : List Char) : Option (Progress × List Char) :=
  match text with
  | '[' :: text => do
      let (names, text) ← readKey nestingLimit text
      match text with
      | ']' :: ']' :: text => some (⟨← progress.entries.openRepeated names, names⟩, text)
      | _ => none
  | text => do
      let (names, text) ← readKey nestingLimit text
      match text with
      | ']' :: text => some (⟨← progress.entries.openTable names, names⟩, text)
      | _ => none

def readPair (progress : Progress) (text : List Char) : Option (Progress × List Char) := do
  let (key, text) ← readKey nestingLimit text
  match text with
  | '=' :: text => do
      let (value, text) ← readValue (2 * text.length + 2) nestingLimit (skipSpace text)
      let entries ← progress.entries.within (Entries.insert value key) progress.header
      some ({ progress with entries := entries }, text)
  | _ => none

/-- Every line is read off the text; `steps` is more than their number. -/
def readDocument : (steps : Nat) → Progress → List Char → Option Entries
  | 0, _, _ => none
  | steps + 1, progress, text => do
      let (progress, text) ←
        match skipSpace text with
        | '[' :: text => readHeader progress text
        | text =>
            if (text.head?.map fun c => c = '#' || c = '\n' || c = '\r').getD true then
              some (progress, text)
            else readPair progress text
      match skipComment (skipSpace text) with
      | [] => some progress.entries
      | text => readDocument steps progress (← readLineBreak text)

def documentOfText? (text : String) : Option Value :=
  let characters := match text.toList with
    | '\uFEFF' :: characters => characters
    | characters => characters
  (readDocument (characters.length + 1) ⟨[], []⟩ characters).map fun entries =>
    .object (valuesOf entries)

end Migration.Toml
