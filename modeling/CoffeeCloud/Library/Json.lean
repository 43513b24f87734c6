/-!
JSON values as a dynamically typed program sees them: an object is its list of
members, a number is an integer or a finite float, and the two are different
types. Finite floats are kept as the rationals they denote.
-/
namespace Library

inductive Json where
  | null
  | bool (b : Bool)
  | int (n : Int)
  | float (q : Rat)
  | str (s : String)
  | arr (items : List Json)
  | obj (members : List (String × Json))
deriving Repr, Inhabited

namespace Json

/-- `value.get(key)` on an object; a missing member and one on another type both give `none`. -/
def get? (j : Json) (key : String) : Option Json :=
  match j with
  | .obj members => (members.find? fun m => m.1 = key).map (·.2)
  | _ => none

/-- `value.get(key)` with an explicit null read as absent. -/
def field? (j : Json) (key : String) : Option Json :=
  match j.get? key with
  | some .null => none
  | other => other

def isObj : Json → Bool
  | .obj _ => true
  | _ => false

def asStr? : Json → Option String
  | .str s => some s
  | _ => none

/-- A value of type `int` exactly: booleans are not integers here. -/
def asInt? : Json → Option Int
  | .int n => some n
  | _ => none

/-- The truth value of a JSON value: null, false, zero and the empty values are false. -/
def truthy : Json → Bool
  | .null => false
  | .bool b => b
  | .int n => n ≠ 0
  | .float q => q ≠ 0
  | .str s => s ≠ ""
  | .arr items => !items.isEmpty
  | .obj members => !members.isEmpty

def isArr : Json → Bool
  | .arr _ => true
  | _ => false

/-- `a or b`. -/
def orElse (a b : Json) : Json := if a.truthy then a else b

/-- `value.get(key)` with null where there is none. -/
def getD (j : Json) (key : String) : Json := (j.get? key).getD .null

/-- The object without one of its members. -/
def without (j : Json) (key : String) : Json :=
  match j with
  | .obj members => .obj (members.filter fun m => m.1 ≠ key)
  | other => other

end Json
end Library
