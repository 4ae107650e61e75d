import Migration.Number.Binary64

namespace Migration.Json

/-! A document: what a JSON text says, with the members of an object in written order and a
repeated name kept as often as it is written. -/

inductive Value where
  | null
  | bool (value : Bool)
  | integer (value : Int)
  | float (value : Binary64)
  | string (text : String)
  | array (items : List Value)
  | object (members : List (String × Value))
  deriving Inhabited

namespace Value

/-! The nesting of a document, as a bound for what recurses into it. -/

mutual
def depth : Value → Nat
  | .array items => depthOfItems items + 1
  | .object members => depthOfMembers members + 1
  | _ => 1

def depthOfItems : List Value → Nat
  | [] => 0
  | item :: rest => max item.depth (depthOfItems rest)

def depthOfMembers : List (String × Value) → Nat
  | [] => 0
  | (_, value) :: rest => max value.depth (depthOfMembers rest)
end

theorem depth_lt_of_mem {name : String} {value : Value} {members : List (String × Value)}
    (member : (name, value) ∈ members) : value.depth < (object members).depth := by
  suffices within : value.depth ≤ depthOfMembers members by
    simp only [depth]; omega
  induction members with
  | nil => cases member
  | cons head rest induction =>
      rcases head with ⟨headName, headValue⟩
      simp only [depthOfMembers]
      cases member with
      | head => exact Nat.le_max_left _ _
      | tail _ member => exact Nat.le_trans (induction member) (Nat.le_max_right _ _)

end Value

end Migration.Json
