import Landscape.Session.Field

/-!
# Describing things

Every item has a description (`Landscape.Session.describe`). Things of most kinds are described by their fields,
and what a field holds is described in full at the place, unless that is inside its own description.
-/

namespace Landscape.Session

/-! ### Fields that are described -/

/-- The fields that the description of a thing shows, with what they hold. -/
def describedFields (s : Session) (t : Thing) : List (String × Item) :=
  ((s.kindOf t).fields.filter (·.isDescribed)).map fun f => (f.name, (s.keptField? t f.name).getD .null)

/-- What a thing is called that is not described by its fields. -/
def calledKind (k : ThingKind) : String :=
  "<" ++ k.place ++ "." ++ k.qualifiedName ++ " object>"

/-- What an ability is called in its description. -/
def calledAbility (s : Session) (holder : Item) (ability : String) : String :=
  match holder with
  | .thing t => (s.kindOf t).abilityName ability
  | _ => "Path." ++ ability

/-! ### Descriptions -/

mutual
/-- The description of an item, at most so many things deep, and inside those that are open. -/
def describeWithin (s : Session) (depth : Nat) (open' : List Thing) : Item → String
  | .value v => v.literal
  | .choice c => c.literal
  | .path p => p.literal
  | .kind k => "<class '" ++ k.place ++ "." ++ k.qualifiedName ++ "'>"
  | .list xs => describedList (describeAll s depth open' xs)
  | .record fs =>
    describedMapping (describeFields s depth open' fs)
  | .ability holder name =>
    "<bound method " ++ s.calledAbility holder name ++ " of " ++ describeWithin s depth open' holder ++ ">"
  | .call source format target =>
    described "RenderCall" [("source", describeWithin s depth open' source),
      ("format", describeWithin s depth open' format), ("output_file", target.literal)]
  | .thing t =>
    let kind := s.kindOf t
    match depth with
    | 0 => "..."
    | depth + 1 =>
      if open'.contains t then "..."
      else if kind.isDescribed then
        described kind.name (describeFields s depth (t :: open') (s.describedFields t))
      else calledKind kind
termination_by x => (depth, sizeOf x)

/-- The descriptions of some items. -/
def describeAll (s : Session) (depth : Nat) (open' : List Thing) : List Item → List String
  | [] => []
  | x :: xs => describeWithin s depth open' x :: describeAll s depth open' xs
termination_by xs => (depth, sizeOf xs)

/-- The descriptions of what some fields hold. -/
def describeFields (s : Session) (depth : Nat) (open' : List Thing) :
    List (String × Item) → List (String × String)
  | [] => []
  | (f, x) :: r => (f, describeWithin s depth open' x) :: describeFields s depth open' r
termination_by fs => (depth, sizeOf fs)
end

/-- **The description of an item.** No thing stands inside itself there, so no description is deeper than there are
things. -/
def describe (s : Session) (x : Item) : String :=
  s.describeWithin (s.size + 1) [] x

/-- The text of an item as it shows in a diagram. -/
def display (s : Session) : Item → Except Fault String
  | .value v => if v.hasLongNumber then .error .longNumber else .ok v.display
  | .choice c => .ok c.display
  | .path p => .ok p.toString
  | x => .ok (s.describe x)

end Landscape.Session
