import Migration.Settings
import Migration.Toml.Reader

namespace Migration

open Json

/-! The settings file: TOML with the settings in a table `generator`. -/

inductive ConfigFault where
  | malformed (misfit : Misfit)
  | invalid (failure : Failure)
  deriving DecidableEq

def ConfigFault.message : ConfigFault → String
  | .malformed .notJson => "not a TOML text"
  | .malformed misfit => misfit.message
  | .invalid failure => failure.message

namespace Settings

def ofTable (value : Value) : Except Misfit Settings := do
  (← decodeRecord ["generator"] value).orElse "generator" {}

def ofConfigText (text : String) : Except ConfigFault Settings := do
  let value ← match Toml.documentOfText? text with
    | some value => pure value
    | none => throw (.malformed .notJson)
  let settings ← (ofTable value).mapError .malformed
  match settings.fault? with
  | some failure => throw (.invalid failure)
  | none => return settings

/-- The settings with what the command line says in their place. -/
def overriddenBy (settings : Settings) (locale : Option String)
    (baseTimestamp : Option Timestamp) : Settings :=
  { settings with
    locale := locale.getD settings.locale
    baseTimestamp := baseTimestamp.or settings.baseTimestamp }

end Settings

end Migration
