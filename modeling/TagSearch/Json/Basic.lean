import TagSearch.Number.Binary64
import TagSearch.Text.Basic

/-!
# JSON values

Whole numbers and floating-point numbers are different values, and an object keeps its members in
the order they were written in.
-/

namespace TagSearch

/-- A JSON value. -/
inductive Json
  | null
  | bool (b : Bool)
  | int (n : Int)
  | float (x : Binary64)
  | str (t : Text)
  | arr (items : List Json)
  | obj (members : List (Text × Json))
  deriving Repr, Inhabited

namespace Json

/-- What an object holds: values under names. -/
abbrev Members := List (Text × Json)

/-- The name of a value's kind in messages. -/
def kindName : Json → String
  | .null => "NoneType"
  | .bool _ => "bool"
  | .int _ => "int"
  | .float _ => "float"
  | .str _ => "str"
  | .arr _ => "list"
  | .obj _ => "dict"

/-- Whether a value is the given text. -/
def isText : Json → String → Bool
  | .str t, s => t = s
  | _, _ => false

/-- The value under a name. -/
def lookup (name : Text) : Members → Option Json
  | [] => none
  | (key, value) :: rest => if key = name then some value else lookup name rest

/-- What is found stands among the members under that name. -/
theorem mem_of_lookup {name : Text} {value : Json} {members : Members}
    (h : lookup name members = some value) : (name, value) ∈ members := by
  induction members with
  | nil => cases h
  | cons member rest ih =>
      rw [lookup] at h
      split at h
      · rename_i hname
        obtain rfl := Option.some.inj h
        rw [← hname]
        exact List.mem_cons_self
      · exact List.mem_cons_of_mem member (ih h)

/-- Sets the value under a name: a name that is present keeps its position. -/
def setMember (name : Text) (value : Json) : Members → Members
  | [] => [(name, value)]
  | (key, old) :: rest =>
    if key = name then (name, value) :: rest else (key, old) :: setMember name value rest

/-- A value that was set is found. -/
@[simp] theorem lookup_setMember_self (name : Text) (value : Json) (members : Members) :
    lookup name (setMember name value members) = some value := by
  induction members with
  | nil => simp [setMember, lookup]
  | cons member rest ih =>
      by_cases h : member.1 = name
      · simp [setMember, lookup, h]
      · simp [setMember, lookup, h, ih]

/-- The values under other names stay. -/
theorem lookup_setMember_of_ne {name other : Text} (hne : other ≠ name) (value : Json)
    (members : Members) : lookup other (setMember name value members) = lookup other members := by
  induction members with
  | nil => simp [setMember, lookup, hne.symm]
  | cons member rest ih =>
      by_cases h : member.1 = name
      · simp [setMember, lookup, h, hne.symm]
      · simp [setMember, lookup, h, ih]

/-- An absent value as null. -/
def ofOption : Option Json → Json
  | some v => v
  | none => .null

/-- A list of whole numbers. -/
def ints (ns : List Int) : Json := .arr (ns.map .int)

/-- A list of texts. -/
def strs (ss : List String) : Json := .arr (ss.map fun s : String => .str s)

/-- The exact number that a value stands for where truth values count as 0 and 1. -/
def exactInt? : Json → Option Int
  | .bool b => some (if b then 1 else 0)
  | .int n => some n
  | .float x => x.toInt?
  | _ => none

mutual

/-- The whole numbers in a value, in the order they are written in. -/
def numbers : Json → List Int
  | .int n => [n]
  | .arr items => itemNumbers items
  | .obj members => memberNumbers members
  | _ => []

/-- The whole numbers in items. -/
def itemNumbers : List Json → List Int
  | [] => []
  | item :: rest => numbers item ++ itemNumbers rest

/-- The whole numbers in members. -/
def memberNumbers : Members → List Int
  | [] => []
  | (_, value) :: rest => numbers value ++ memberNumbers rest

end

mutual

/-- Whether two values are equal as data: numbers by value, truth values counting as 0 and 1,
lists in order, objects without regard to order. -/
def sameAs : Json → Json → Bool
  | .null, .null => true
  | .str a, .str b => a = b
  | .arr xs, .arr ys => sameItems xs ys
  | .obj xs, .obj ys => xs.length = ys.length && sameMembers xs ys
  | .float x, .float y =>
    match x.toInt?, y.toInt? with
    | some m, some n => m = n
    | _, _ => x = y && x != .nan
  | a, b =>
    match a.exactInt?, b.exactInt? with
    | some m, some n => m = n
    | _, _ => false

/-- The same, item by item. -/
def sameItems : List Json → List Json → Bool
  | [], [] => true
  | x :: xs, y :: ys => sameAs x y && sameItems xs ys
  | _, _ => false

/-- Whether every member has an equal one under its name. -/
def sameMembers : Members → Members → Bool
  | [], _ => true
  | (name, value) :: rest, others =>
    (match lookup name others with
      | some other => sameAs value other
      | none => false) && sameMembers rest others

end

end Json

end TagSearch
