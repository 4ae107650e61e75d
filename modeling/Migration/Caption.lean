import Migration.Json.Coding

namespace Migration

open Json

/-! Text shown to people, either the same everywhere or by locale. -/

inductive Caption where
  | plain (text : String)
  | localized (texts : Keyed String)
  deriving DecidableEq

/-- The locale to show texts in, and the one to turn to where a text lacks it. -/
structure Locales where
  preferred : String
  fallback : String
  deriving DecidableEq

namespace Caption

def get? (caption : Caption) (locale : String) : Option String :=
  match caption with
  | .plain _ => none
  | .localized texts => texts.get? locale

def isEmpty : Caption → Bool
  | .plain text => text = ""
  | .localized texts => texts.values.all (· = "")

/-- A text in neither locale is shown as it was given first. -/
def resolve (caption : Caption) (locales : Locales) : String :=
  match caption with
  | .plain text => text
  | .localized texts =>
      ((texts.get? locales.preferred).or (texts.get? locales.fallback)).or texts.values.head?
        |>.getD ""

/-- The order of the locales does not count here. -/
def same : Caption → Caption → Bool
  | .plain left, .plain right => left = right
  | .localized left, .localized right => Keyed.same (fun left right => left = right) left right
  | _, _ => false

example : (localized [("de", "Titel"), ("it", "Titolo")]).resolve ⟨"fr", "it"⟩ = "Titolo" := by
  decide

end Caption

instance : Encode Caption where
  encode
    | .plain text => .string text
    | .localized texts => encode texts

instance : Decode Caption where
  decode
    | .string text => .ok (.plain text)
    | .object members => .localized <$> decode (.object members)
    | _ => .error (.unexpected "a text")

end Migration
