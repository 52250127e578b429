import SessionHub.Json.Number

set_option autoImplicit false

/-! # JSON values

`Json` is the tree that a text spells: the members of an object stand in text order, and a name
may occur twice. `Json.canonical` gives the value meant: of equal names the last counts, and members
are sorted by name. Values that were built rather than read are canonical already. -/

namespace SessionHub

/-- A JSON tree. -/
inductive Json where
  | null
  | bool (b : Bool)
  | number (n : Json.Number)
  | string (s : String)
  | array (elements : List Json)
  | object (members : List (String × Json))
  deriving BEq

namespace Json

instance : Inhabited Json := ⟨null⟩

/-! ## Nesting -/

mutual

/-- How many brackets are open at the deepest place of the text of a value. -/
def nesting : Json → Nat
  | array elements => nestingElements elements + 1
  | object members => nestingMembers members + 1
  | _ => 0

/-- The greatest nesting among the elements of an array. -/
def nestingElements : List Json → Nat
  | [] => 0
  | v :: rest => max v.nesting (nestingElements rest)

/-- The greatest nesting among the members of an object. -/
def nestingMembers : List (String × Json) → Nat
  | [] => 0
  | (_, v) :: rest => max v.nesting (nestingMembers rest)

end

/-! ## Values without doubles -/

mutual

/-- Whether no number in the value is a double. -/
def floatFree : Json → Bool
  | number (.float _) => false
  | array elements => floatFreeElements elements
  | object members => floatFreeMembers members
  | _ => true

/-- Whether no number in the elements is a double. -/
def floatFreeElements : List Json → Bool
  | [] => true
  | v :: rest => v.floatFree && floatFreeElements rest

/-- Whether no number in the members is a double. -/
def floatFreeMembers : List (String × Json) → Bool
  | [] => true
  | (_, v) :: rest => v.floatFree && floatFreeMembers rest

end

/-! ## Canonical values -/

/-- Puts a member in front of the first member with a greater name. -/
def insertMember (name : String) (v : Json) : List (String × Json) → List (String × Json)
  | [] => [(name, v)]
  | (name', v') :: rest =>
    if name < name' then (name, v) :: (name', v') :: rest
    else (name', v') :: insertMember name v rest

mutual

/-- The value that a tree means: members sorted by name, of equal names the last. -/
def canonical : Json → Json
  | array elements => array (canonicalElements elements)
  | object members => object (canonicalMembers members)
  | v => v

/-- The values that the elements of an array mean. -/
def canonicalElements : List Json → List Json
  | [] => []
  | v :: rest => v.canonical :: canonicalElements rest

/-- The members that an object means: one that is followed by another of its name is dropped. -/
def canonicalMembers : List (String × Json) → List (String × Json)
  | [] => []
  | (name, v) :: rest =>
    let rest := canonicalMembers rest
    if rest.any (·.1 == name) then rest else insertMember name v.canonical rest

end

/-- Whether a tree has sorted and distinct names throughout. -/
def IsCanonical (v : Json) : Prop :=
  v.canonical = v

/-- The first member called `name`. -/
def member? (name : String) : Json → Option Json
  | object members => members.lookup name
  | _ => none

end Json

end SessionHub
