namespace Migration

/-! What can go wrong, and what is found wrong with a schema. -/

inductive Failure where
  | invalid (message : String)
  | invalidEntity (entity message : String)
  | invalidProperty (entity property message : String)
  | schemaNotFound (path : String)
  | duplicateEntity (name : String)
  | duplicateTable (table first second : String)
  | invalidTimestamp (text : String)
  | unreadableFile (path reason : String)
  | malformedText (reason : String)
  | malformedFile (path reason : String)
  | invalidSettings (message : String)
  | within (activity : String) (message : String)
  deriving DecidableEq

namespace Failure

def message : Failure → String
  | .invalid message => "Validation error: " ++ message
  | .invalidEntity entity message =>
      "Entity validation failed for '" ++ entity ++ "': " ++ message
  | .invalidProperty entity property message =>
      "Property validation failed for '" ++ entity ++ "." ++ property ++ "': " ++ message
  | .schemaNotFound path => "Schema not found at path: " ++ path
  | .duplicateEntity name => "Duplicate entity name: '" ++ name ++ "' already exists"
  | .duplicateTable table first second =>
      "Duplicate table name '" ++ table ++ "' (entities '" ++ first ++ "' and '" ++ second ++ "')"
  | .invalidTimestamp text =>
      "Invalid migration timestamp '" ++ text ++ "': expected YYYY_MM_DD_HHMMSS"
  | .unreadableFile path reason => "Failed to read file '" ++ path ++ "': " ++ reason
  | .malformedText reason => "JSON serialization error: " ++ reason
  | .malformedFile path reason => "Invalid schema format in '" ++ path ++ "': " ++ reason
  | .invalidSettings message => "Invalid configuration: " ++ message
  | .within activity message => activity ++ ": " ++ message

/-- The failure as it is reported by the activity in which it arose. -/
def during (failure : Failure) (activity : String) : Failure :=
  .within activity failure.message

def isValidation : Failure → Bool
  | .invalid _ | .invalidEntity .. | .invalidProperty .. | .duplicateEntity _
  | .duplicateTable .. => true
  | _ => false

def isNotFound : Failure → Bool
  | .schemaNotFound _ => true
  | _ => false

def isInputOutput : Failure → Bool
  | .unreadableFile .. => true
  | _ => false

end Failure

end Migration
