/-!
# Types as a Diagram Sees Them

A `Descriptor` is everything a class diagram knows about one declared type: its kind, the names of
its direct supertypes, and the members it declares. Types refer to one another by qualified name
only, so a descriptor may name supertypes that nobody defines.
-/

namespace ClassDiagram

/-- What a declared type is. -/
inductive TypeKind
  | classType
  | interfaceType
  | enumType
deriving DecidableEq

/-- The word that stands for a kind, in catalogs and in scripts. -/
def TypeKind.keyword : TypeKind → String
  | .classType => "class"
  | .interfaceType => "interface"
  | .enumType => "enum"

/-- Every kind, in the order in which error texts list them. -/
def TypeKind.all : List TypeKind := [.classType, .interfaceType, .enumType]

/-- An access or storage modifier of a member. -/
inductive Modifier
  | publicAccess
  | protectedAccess
  | privateAccess
  | abstract
  | static
  | final
  | transient
  | volatile
  | synchronized
  | native
deriving DecidableEq

/-- The word that stands for a modifier in catalogs. -/
def Modifier.word : Modifier → String
  | .publicAccess => "public"
  | .protectedAccess => "protected"
  | .privateAccess => "private"
  | .abstract => "abstract"
  | .static => "static"
  | .final => "final"
  | .transient => "transient"
  | .volatile => "volatile"
  | .synchronized => "synchronized"
  | .native => "native"

/-- Every modifier, in the order in which error texts list them. -/
def Modifier.all : List Modifier :=
  [.publicAccess, .protectedAccess, .privateAccess, .abstract, .static, .final, .transient,
    .volatile, .synchronized, .native]

/-- A declared field. -/
structure Field where
  name : String
  typeName : String
  modifiers : List Modifier := []
deriving DecidableEq

/-- A declared method; a parameter is known by the name of its type. -/
structure Method where
  name : String
  parameters : List String := []
  modifiers : List Modifier := []
deriving DecidableEq

/-- A declared type. -/
structure Descriptor where
  name : String
  kind : TypeKind := .classType
  superclass : Option String := none
  interfaces : List String := []
  fields : List Field := []
  methods : List Method := []
deriving DecidableEq

/-! ### The words of a closed vocabulary -/

theorem TypeKind.mem_all (k : TypeKind) : k ∈ TypeKind.all := by
  cases k <;> decide

theorem TypeKind.keyword_injective {k l : TypeKind} (h : k.keyword = l.keyword) : k = l := by
  cases k <;> cases l <;> first | rfl | exact absurd h (by decide)

theorem Modifier.mem_all (m : Modifier) : m ∈ Modifier.all := by
  cases m <;> decide

theorem Modifier.word_injective {m n : Modifier} (h : m.word = n.word) : m = n := by
  cases m <;> cases n <;> first | rfl | exact absurd h (by decide)

end ClassDiagram
