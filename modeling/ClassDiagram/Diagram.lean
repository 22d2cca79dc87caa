import ClassDiagram.Collection
import ClassDiagram.Request
import ClassDiagram.Script

/-!
# Diagrams

A diagram is made in two phases: the types are collected, then the script is written. There is no
script unless every requested type resolves.
-/

namespace ClassDiagram

/-- The diagram of the requested types. -/
def diagram (source : Source) (s : Settings) (roots : List String) : Except Error Script :=
  (Collection.collect source s roots).map (Script.ofGraph s)

theorem diagram_eq_ok_iff {source : Source} {s : Settings} {roots : List String}
    {script : Script} :
    diagram source s roots = .ok script ↔
      ∃ g, Collection.collect source s roots = .ok g ∧ Script.ofGraph s g = script := by
  unfold diagram
  cases Collection.collect source s roots with
  | error e => simp [Except.map]
  | ok g => simp [Except.map]

theorem diagram_eq_error_iff {source : Source} {s : Settings} {roots : List String} {e : Error} :
    diagram source s roots = .error e ↔ Collection.collect source s roots = .error e := by
  unfold diagram
  cases Collection.collect source s roots with
  | error e => simp [Except.map]
  | ok g => simp [Except.map]

/-- The diagram that a request asks for. -/
def Request.diagram (r : Request) (source : Source) : Except Error Script :=
  ClassDiagram.diagram source r.settings r.roots

end ClassDiagram
