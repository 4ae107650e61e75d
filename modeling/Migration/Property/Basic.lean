import Migration.Caption
import Migration.KeyStrategy
import Migration.Literal
import Migration.Relation

namespace Migration

/-! The properties of an entity. -/

/-- The size asked for beside the name of a type. -/
structure TypeHints where
  length : Option UInt32 := none
  precision : Option UInt32 := none
  scale : Option UInt32 := none
  deriving DecidableEq

/-- One value of a named type. Names of types are an open vocabulary. -/
structure Scalar where
  typeName : String
  hints : TypeHints := {}
  nullable : Bool := false
  unique : Bool := false
  indexed : Bool := false
  primary : Bool := false
  default : Option Literal := none
  unsigned : Option Bool := none
  caption : Option Caption := none
  deriving DecidableEq

/-- One of the listed values. -/
structure Enumeration where
  values : List String
  nullable : Bool := false
  default : Option Literal := none
  caption : Option Caption := none
  deriving DecidableEq

/-- One of the values that the schema lists under a name. -/
structure EnumReference where
  enumName : String
  nullable : Bool := false
  default : Option Literal := none
  caption : Option Caption := none
  deriving DecidableEq

/-- What a use of a compound type changes in one of its fields. -/
structure FieldOverride where
  typeName : Option String := none
  hints : TypeHints := {}
  nullable : Option Bool := none
  deriving DecidableEq

/-- A value of a compound type, kept in one column for each field of the type. -/
structure CompoundUse where
  typeName : String
  nullable : Bool := false
  overrides : Keyed FieldOverride := []
  caption : Option Caption := none
  deriving DecidableEq

mutual
/-- A relation to the entity `target`, or for a polymorphic one to any of `morphTargets`.
`mappedBy` marks the inverse side and names the property at the other end, as `inversedBy` does
on the owning side. -/
structure Association where
  relation : Relation
  target : String := ""
  mappedBy : Option String := none
  inversedBy : Option String := none
  joinTable : Option String := none
  morphName : Option String := none
  onDelete : Option ReferentialAction := none
  onUpdate : Option ReferentialAction := none
  nullable : Option Bool := none
  owning : Option Bool := none
  primary : Bool := false
  pivotFields : List (String × Property) := []
  morphTargets : List String := []
  caption : Option Caption := none

inductive Property where
  | scalar (scalar : Scalar)
  | enumeration (enumeration : Enumeration)
  | enumReference (reference : EnumReference)
  | association (association : Association)
  | compound (compound : CompoundUse)
end

namespace Association

def isInverse (association : Association) : Bool :=
  association.mappedBy.isSome

def materializesColumn (association : Association) : Bool :=
  association.relation.isToOne && !association.isInverse

def isNullable (association : Association) : Bool :=
  association.nullable.getD false

end Association

namespace Property

def caption? : Property → Option Caption
  | scalar value => value.caption
  | enumeration value => value.caption
  | enumReference reference => reference.caption
  | association value => value.caption
  | compound value => value.caption

def association? : Property → Option Association
  | association value => some value
  | _ => none

def isAssociation (property : Property) : Bool :=
  property.association?.isSome

def isPrimary : Property → Bool
  | scalar value => value.primary
  | association value => value.primary
  | _ => false

end Property

/-! ## Sameness

Two definitions are the same if they differ at most in the order of the entries of a map and in
the sign of a zero. -/

private def sameOption {α : Type} (same : α → α → Bool) : Option α → Option α → Bool
  | none, none => true
  | some left, some right => same left right
  | _, _ => false

def Scalar.same (left right : Scalar) : Bool :=
  sameOption Literal.same left.default right.default
    && sameOption Caption.same left.caption right.caption
    && { left with default := none, caption := none }
      = { right with default := none, caption := none }

def Enumeration.same (left right : Enumeration) : Bool :=
  sameOption Literal.same left.default right.default
    && sameOption Caption.same left.caption right.caption
    && left.values = right.values && left.nullable = right.nullable

def EnumReference.same (left right : EnumReference) : Bool :=
  sameOption Literal.same left.default right.default
    && sameOption Caption.same left.caption right.caption
    && left.enumName = right.enumName && left.nullable = right.nullable

def CompoundUse.same (left right : CompoundUse) : Bool :=
  Keyed.same (fun left right => left = right) left.overrides right.overrides
    && sameOption Caption.same left.caption right.caption
    && left.typeName = right.typeName && left.nullable = right.nullable

/-- Without regard to pivot fields. -/
def Association.sameButFields (left right : Association) : Bool :=
  left.relation = right.relation && left.target = right.target
    && left.mappedBy = right.mappedBy && left.inversedBy = right.inversedBy
    && left.joinTable = right.joinTable && left.morphName = right.morphName
    && left.onDelete = right.onDelete && left.onUpdate = right.onUpdate
    && left.nullable = right.nullable && left.owning = right.owning
    && left.primary = right.primary && left.morphTargets = right.morphTargets
    && sameOption Caption.same left.caption right.caption

mutual
def Property.same : Property → Property → Bool
  | .scalar left, .scalar right => left.same right
  | .enumeration left, .enumeration right => left.same right
  | .enumReference left, .enumReference right => left.same right
  | .association left, .association right => left.same right
  | .compound left, .compound right => left.same right
  | _, _ => false

def Association.same : Association → Association → Bool
  | left@{ pivotFields, .. }, right =>
      left.sameButFields right && pivotFields.length = right.pivotFields.length
        && sameFields pivotFields right.pivotFields

/-- Each of the fields is the same in the other list. -/
def sameFields : List (String × Property) → Keyed Property → Bool
  | [], _ => true
  | (name, property) :: rest, others =>
      (match others.get? name with
        | some other => property.same other
        | none => false)
      && sameFields rest others
end

end Migration
