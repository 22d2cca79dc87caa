import ClassDiagram.Catalog
import ClassDiagram.Error
import ClassDiagram.Settings
import ClassDiagram.TypeGraph

/-!
# Collecting the Types of a Diagram

From each requested type two walks go up to its ancestors, one along superclasses and one along
interfaces (`Lineage`), and every step spends one unit of the depth. A walk remembers for each name
the largest remaining depth it has expanded that type with (`Budgets`), and expands it again only
with more. So diamonds stay cheap, and cyclic catalogs end at any depth, for on a chain of nested
expansions every name occurs once.

The walks keep a record of their steps; `Collection.steps` is that record for a whole collection.
-/

namespace ClassDiagram

/-- The two ways up from a type. -/
inductive Lineage
  | superclass
  | interface
deriving DecidableEq

/-- The names one step up from a type. Universal roots end the line of superclasses. -/
def Lineage.parents (s : Settings) : Lineage → Descriptor → List String
  | .superclass, t => t.superclass.toList.filter fun name => !s.isUniversalRoot name
  | .interface, t => t.interfaces

/-- The remaining depths with which types have been expanded, the latest first. -/
structure Budgets where
  spent : List (String × Nat) := []

namespace Budgets

/-- The remaining depth of the latest expansion of a type. -/
def latest (b : Budgets) (name : String) : Option Nat := b.spent.lookup name

/-- Whether an expansion with this much depth goes farther than the latest one. -/
def allows (b : Budgets) (name : String) (remaining : Nat) : Bool :=
  match b.latest name with
  | some spent => spent < remaining
  | none => true

/-- Records an expansion. -/
def spend (b : Budgets) (name : String) (remaining : Nat) : Budgets :=
  { spent := (name, remaining) :: b.spent }

end Budgets

/-- One thing that happens while types are collected. -/
inductive Step
  /-- A requested type has been found under this name. -/
  | requested (name : String)
  /-- An ancestor has been reached for the first time; its child had `remaining` depth left. -/
  | reached (lineage : Lineage) (name child : String) (remaining : Nat)
  /-- A parent of `child` cannot be resolved. -/
  | missing (lineage : Lineage) (name child : String)
  /-- The expansion of a type begins, with this much depth left for it. -/
  | entered (lineage : Lineage) (name : String) (remaining : Nat)
  /-- The latest expansion that is still going on ends. -/
  | left (lineage : Lineage) (name : String)
  /-- A type has been expanded before with at least the depth that is left for it now. -/
  | spared (lineage : Lineage) (name : String) (remaining : Nat)
deriving DecidableEq

/-- What the walks of one collection share. -/
structure Walk where
  graph : TypeGraph := .empty
  superclasses : Budgets := {}
  interfaces : Budgets := {}
  /-- The steps so far, the latest first. -/
  history : List Step := []

namespace Walk

/-- The budgets of one lineage. -/
def budgets (w : Walk) : Lineage → Budgets
  | .superclass => w.superclasses
  | .interface => w.interfaces

/-- Records a step. -/
def note (w : Walk) (step : Step) : Walk := { w with history := step :: w.history }

/-- Adds a requested type. -/
def request (w : Walk) (name : String) (t : Descriptor) : Walk :=
  { w with graph := w.graph.insert t }.note (.requested name)

/-- Adds an ancestor of `child`, which has `remaining` depth left. -/
def reach (w : Walk) (l : Lineage) (parent child : Descriptor) (remaining : Nat) : Walk :=
  if w.graph.contains parent.name then w
  else { w with graph := w.graph.insert parent }.note (.reached l parent.name child.name remaining)

/-- Begins an expansion. -/
def enter (w : Walk) (l : Lineage) (name : String) (remaining : Nat) : Walk :=
  match l with
  | .superclass =>
    { w with superclasses := w.superclasses.spend name remaining }.note (.entered l name remaining)
  | .interface =>
    { w with interfaces := w.interfaces.spend name remaining }.note (.entered l name remaining)

/-- Expands a type with `walk`, unless it has been expanded with at least as much depth. -/
def expand (l : Lineage) (t : Descriptor) (remaining : Nat) (walk : Walk → Walk) (w : Walk) :
    Walk :=
  if (w.budgets l).allows t.name remaining then
    (walk (w.enter l t.name remaining)).note (.left l t.name)
  else w.note (.spared l t.name remaining)

end Walk

namespace Collection

/-- One step up from `child` to the type called `name`, and on from there with `walk`. The child has
one unit of depth more than the `remaining` units that are left for the parent. -/
def visit (source : Source) (l : Lineage) (child : Descriptor) (remaining : Nat)
    (walk : Descriptor → Walk → Walk) (w : Walk) (name : String) : Walk :=
  match source name with
  | none => w.note (.missing l name child.name)
  | some parent =>
    (w.reach l parent child (remaining + 1)).expand l parent remaining (walk parent)

/-- The walk up from a type with the given depth left. -/
def ascend (source : Source) (s : Settings) (l : Lineage) : Nat → Descriptor → Walk → Walk
  | 0, _, w => w
  | remaining + 1, child, w =>
    (l.parents s child).foldl (visit source l child remaining (ascend source s l remaining)) w

/-- Begins a walk at a requested type; a walk that has already been there with the full depth is
left out. -/
def ascendRoot (source : Source) (s : Settings) (l : Lineage) (t : Descriptor) (w : Walk) : Walk :=
  if (w.budgets l).allows t.name s.depth then
    (ascend source s l s.depth t (w.enter l t.name s.depth)).note (.left l t.name)
  else w

/-- Adds a requested type and its ancestors. -/
def addRoot (source : Source) (s : Settings) (name : String) (t : Descriptor) (w : Walk) : Walk :=
  ascendRoot source s .interface t (ascendRoot source s .superclass t (w.request name t))

/-- Adds one requested type after another, up to the first that does not resolve: the walk so far
and the name of that type. -/
def addRoots (source : Source) (s : Settings) : List String → Walk → Walk × Option String
  | [], w => (w, none)
  | name :: names, w =>
    match source name with
    | none => (w, some name)
    | some t => addRoots source s names (addRoot source s name t w)

/-- The requested types and their ancestors up to the depth, in the order in which they are first
reached. Every requested type has to resolve; ancestors that do not are left out. -/
def collect (source : Source) (s : Settings) (roots : List String) : Except Error TypeGraph :=
  match addRoots source s roots {} with
  | (w, none) => .ok w.graph
  | (_, some name) => .error (.unresolvedType name)

/-- What happens during a collection, in order. -/
def steps (source : Source) (s : Settings) (roots : List String) : List Step :=
  (addRoots source s roots {}).1.history.reverse

end Collection

end ClassDiagram
