import Migration.Caption
import Migration.Timestamp.Text

namespace Migration

open Json

/-! What a run can be told beside its schema. -/

structure Settings where
  locale : String := "en"
  fallbackLocale : String := "en"
  /-- The moment of the first migration; without it the current minute. -/
  baseTimestamp : Option Timestamp := none
  /-- The length of strings that are declared without one. -/
  stringLength : UInt32 := 255
  comments : Bool := true
  pivotTimestamps : Bool := true
  deriving DecidableEq

namespace Settings

def locales (settings : Settings) : Locales :=
  ⟨settings.locale, settings.fallbackLocale⟩

private def isBlankText (text : String) : Bool :=
  text.toList.all Text.isBlank

def fault? (settings : Settings) : Option Failure :=
  if settings.stringLength = 0 then
    some (.invalidSettings "default_string_length must be positive")
  else if isBlankText settings.locale || isBlankText settings.fallbackLocale then
    some (.invalidSettings "locale cannot be empty")
  else none

end Settings

instance : Encode Settings where
  encode settings := .object (
    field "locale" settings.locale ++ field "fallback_locale" settings.fallbackLocale
      ++ field "base_timestamp" settings.baseTimestamp
      ++ field "default_string_length" settings.stringLength
      ++ field "include_comments" settings.comments
      ++ field "pivot_timestamps" settings.pivotTimestamps)

instance : Decode Settings where
  decode value := do
    let record ← decodeRecord
      ["locale", "fallback_locale", "base_timestamp", "default_string_length", "include_comments",
       "pivot_timestamps"] value
    return {
      locale := ← record.orElse "locale" "en"
      fallbackLocale := ← record.orElse "fallback_locale" "en"
      baseTimestamp := ← record.optional "base_timestamp"
      stringLength := ← record.orElse "default_string_length" 255
      comments := ← record.orElse "include_comments" true
      pivotTimestamps := ← record.orElse "pivot_timestamps" true }

end Migration
