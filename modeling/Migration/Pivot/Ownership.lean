import Migration.Schema.Basic

namespace Migration

/-! Which of the two sides of a many-to-many association owns its join table. -/

/-- One side of an association: the property that declares it, and the property at the other end
that describes the same relation, if there is one. -/
structure Side where
  entity : String
  property : String
  association : Association
  counterpart : Option (String × Association)

namespace Side

/-! ## Rules

Each rule says whether the side owns the table, or leaves it to the rules after it. -/

def explicitFlag (side : Side) : Option Bool :=
  side.association.owning.or
    (side.counterpart.bind fun (_, other) => other.owning.map (! ·))

def inverseSide (side : Side) : Option Bool :=
  if side.association.isInverse then some false else none

def pivotFields (side : Side) : Option Bool :=
  if !side.association.pivotFields.isEmpty then some true
  else match side.counterpart with
    | some (_, other) => if other.pivotFields.isEmpty then none else some false
    | none => none

def counterpartMappedBy (side : Side) : Option Bool :=
  match side.counterpart with
  | some (_, other) => if other.mappedBy = some side.property then some true else none
  | none => none

def oneSided (side : Side) : Option Bool :=
  if side.counterpart.isNone then some true else none

/-- Within one entity the names of the two properties decide. -/
def alphabetical (side : Side) : Option Bool :=
  let target := side.association.target
  if side.entity ≠ target then some (side.entity < target)
  else match side.counterpart with
    | some (other, _) => some (side.property ≤ other)
    | none => some true

/-- In order of precedence. -/
def rules : List (String × (Side → Option Bool)) :=
  [("explicit_flag", explicitFlag),
   ("inverse_side", inverseSide),
   ("pivot_fields", pivotFields),
   ("counterpart_mapped_by", counterpartMappedBy),
   ("one_sided", oneSided),
   ("alphabetical", alphabetical)]

def owns (side : Side) : Bool :=
  (rules.findSome? fun (_, decide) => decide side).getD true

end Side

/-! ## Counterparts -/

/-- Whether a property leads back to an entity by the same kind of relation. It is not its own
counterpart. -/
def Association.pointsBack (association : Association) (entity : Entity) (property : String)
    (target : Entity) (name : String) (other : Association) : Bool :=
  other.relation = association.relation && other.target = entity.name
    && !(target.name = entity.name && name = property)

/-- The property at the other end that describes the same relation: the one that this side names,
or else the first that names this side, or else the first that names nothing. -/
def Schema.counterpart? (schema : Schema) (entity : Entity) (property : String)
    (association : Association) : Option (String × Association) := do
  let target ← schema.entity? association.target
  let candidates := target.associations.filter fun (name, other) =>
    association.pointsBack entity property target name other
  let named := (association.mappedBy.or association.inversedBy).bind fun name =>
    candidates.find? (·.1 = name)
  let naming := candidates.find? fun (_, other) =>
    other.mappedBy = some property || other.inversedBy = some property
  let silent := candidates.find? fun (_, other) =>
    other.mappedBy.isNone && other.inversedBy.isNone
  (named.or naming).or silent

def Schema.side (schema : Schema) (entity : Entity) (property : String)
    (association : Association) : Side where
  entity := entity.name
  property := property
  association := association
  counterpart := schema.counterpart? entity property association

end Migration
