/-
# Json.Basic — JSON values

Numbers are kept as they were meant: whole numbers exactly, all others as the double they
denote.  An object is the list of its members in the order in which they are written, so a
record can fix the order of its fields; free-form objects are kept sorted by the code that
reads them.
-/
import WalletView.Number.Binary64

set_option autoImplicit false

namespace WalletView

/-- A JSON number. -/
inductive Number where
  | integer (value : Int)
  | double (value : Binary64)
deriving DecidableEq, Repr, Inhabited

/-- The same kind of number and the same value; the two zeros among the doubles are one. -/
def Number.same : Number → Number → Bool
  | .integer a, .integer b => a == b
  | .double a, .double b => a.same b
  | _, _ => false

/-- A JSON value, the members of an object in their written order. -/
inductive Json where
  | null
  | bool (value : Bool)
  | number (value : Number)
  | string (value : String)
  | array (items : List Json)
  | object (members : List (String × Json))
deriving Repr, Inhabited

namespace Json

def natural (n : Nat) : Json :=
  .number (.integer n)

/-- The items of an array; no other value has any. -/
def items? : Json → Option (List Json)
  | .array items => some items
  | _ => none

def text? : Json → Option String
  | .string s => some s
  | _ => none

/-- What an optional part is written as. -/
def ofOption {α : Type} (write : α → Json) : Option α → Json
  | none => .null
  | some a => write a

mutual

/-- Equality of values: numbers by value, objects member by member in order. -/
def same : Json → Json → Bool
  | .null, .null => true
  | .bool a, .bool b => a == b
  | .number a, .number b => a.same b
  | .string a, .string b => a == b
  | .array a, .array b => sameItems a b
  | .object a, .object b => sameMembers a b
  | _, _ => false

def sameItems : List Json → List Json → Bool
  | [], [] => true
  | a :: as, b :: bs => a.same b && sameItems as bs
  | _, _ => false

def sameMembers : List (String × Json) → List (String × Json) → Bool
  | [], [] => true
  | (k, a) :: as, (l, b) :: bs => k == l && a.same b && sameMembers as bs
  | _, _ => false

end

end Json

end WalletView
