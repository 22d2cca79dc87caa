import ClassDiagram.Catalog.Builtin
import ClassDiagram.Collection
import ClassDiagram.Files
import ClassDiagram.Log.Event
import ClassDiagram.Options
import ClassDiagram.Request
import ClassDiagram.Script
import ClassDiagram.Text.Quoted

/-!
# What a Run Logs

The log events of each stage of a run, as functions of what the stage is given: the switches that
are read, the catalog files, the steps of a collection and the members that a script shows. A stage
that fails logs what it did before it failed, and no later stage logs anything (`Journal.stages`).
Collecting types and writing a script are spans, in which all of their events happen.
-/

namespace ClassDiagram.Journal

open Log

/-- The events of stages that follow one another, each with whether it succeeds: up to and with the
first that does not. -/
def stages : List (List Event × Bool) → List Event
  | [] => []
  | (events, true) :: rest => events ++ stages rest
  | (events, false) :: _ => events

/-! ### Switches -/

/-- The events of reading an integer switch. -/
def integerRead (s : Switches) (switch : String) : List Event :=
  match s.rest? switch with
  | some (word :: _) =>
    [⟨.trace, .switches, "Parsing integer switch", [("switch", .text switch), ("raw", .text word)]⟩]
  | _ => []

/-- The events of reading a list switch. -/
def listRead (s : Switches) (switch : String) (bound : ListBound) : List Event :=
  match s.list switch bound with
  | .ok words =>
    [⟨.trace, .switches, "Parsed list switch",
      [("switch", .text switch), ("count", .number words.length)]⟩]
  | .error _ => []

/-- The events of reading a request, from its first switch to the first that cannot be read. -/
def requestRead (s : Switches) : List Event :=
  stages
    [(integerRead s Request.depthSwitch, (s.integer Request.depthSwitch 1).isOk),
      (integerRead s Request.verbositySwitch, (s.integer Request.verbositySwitch 0).isOk),
      (listRead s Request.typesSwitch .unbounded, true)]

/-- The event of a request that is understood. -/
def requestParsed (r : Request) : Event :=
  ⟨.debug, .command, "Parsed diagram request",
    [("depth", .number r.settings.depth), ("verbosity", .text r.settings.verbosity.display),
      ("roots", .text (Text.quotedList r.roots))]⟩

/-! ### Catalogs -/

/-- The event of a type that enters a catalog. -/
def entry (t : Descriptor) : Event :=
  ⟨.debug, .catalog, "Catalog entry", [("name", .text t.name), ("kind", .text t.kind.keyword)]⟩

/-- The events of loading a catalog file. Nothing enters a catalog from a file that cannot be
read. -/
def fileLoaded (files : Files) (path : String) : List Event :=
  match Catalog.read files path with
  | .ok ts =>
    ts.map entry ++
      [⟨.info, .catalog, "Loaded type catalog",
        [("path", .text path), ("count", .number ts.length)]⟩]
  | .error _ => []

/-- The events of loading catalog files one after another. -/
def filesLoaded (files : Files) (paths : List String) : List Event :=
  stages (paths.map fun path => (fileLoaded files path, (Catalog.read files path).isOk))

/-- The event of a catalog that is complete. -/
def catalogReady (c : Catalog) : Event :=
  ⟨.debug, .command, "Catalog ready", [("types", .number c.size)]⟩

/-! ### Collections -/

/-- The event of a step, if it is logged. -/
def stepEvent? : Step → Option Event
  | .requested name =>
    some ⟨.debug, .collector, "Adding root type", [("name", .text name)]⟩
  | .reached .superclass name child remaining =>
    some ⟨.debug, .collector, "Adding superclass",
      [("name", .text name), ("child", .text child), ("depth", .number remaining)]⟩
  | .reached .interface name child remaining =>
    some ⟨.debug, .collector, "Adding interface",
      [("name", .text name), ("implementor", .text child), ("depth", .number remaining)]⟩
  | .missing _ name child =>
    some ⟨.warn, .collector, "Skipping unresolvable ancestor",
      [("name", .text name), ("child", .text child)]⟩
  | .spared .superclass name remaining =>
    some ⟨.trace, .collector, "Superclass already expanded",
      [("name", .text name), ("depth", .number (remaining + 1))]⟩
  | .spared .interface name remaining =>
    some ⟨.trace, .collector, "Interface already expanded",
      [("name", .text name), ("depth", .number (remaining + 1))]⟩
  | .entered .. => none
  | .left .. => none

/-- The event of a collection that is complete. -/
def collected (g : TypeGraph) : Event :=
  ⟨.info, .collector, "Collected types", [("types", .number g.size)]⟩

/-! ### Scripts -/

/-- The events of writing the members of one type, the fields first. -/
def membersWritten (verbosity : Verbosity) (t : Descriptor) : List Event :=
  ((verbosity.memberLimit.shown t.fields).map fun f =>
      ⟨.trace, .renderer, "Field line", [("owner", .text t.name), ("field", .text f.name)]⟩) ++
    (verbosity.memberLimit.shown t.methods).map fun m =>
      ⟨.trace, .renderer, "Method line", [("owner", .text t.name), ("method", .text m.name)]⟩

/-- The events of writing the script of a graph. -/
def scriptWritten (s : Settings) (g : TypeGraph) : List Event :=
  g.types.flatMap (membersWritten s.verbosity) ++
    [⟨.info, .renderer, "Rendered PlantUML diagram",
      [("types", .number g.size),
        ("relationships", .number (Script.ofGraph s g).relations.length)]⟩]

/-! ### Spans -/

/-- The span of a collection. -/
def collection (s : Settings) (roots : List String) : Span :=
  ⟨"collect_types", .collector, [("roots", .number roots.length), ("depth", .number s.depth)]⟩

/-- The span of writing a script. -/
def writing (s : Settings) (g : TypeGraph) : Span :=
  ⟨"render_plantuml", .renderer,
    [("types", .number g.size), ("verbosity", .text s.verbosity.display)]⟩

/-- The events of making a diagram, in the spans of its two stages. -/
def diagramMade (source : Source) (s : Settings) (roots : List String) : List Occurrence :=
  let steps := (Collection.steps source s roots).filterMap stepEvent?
  match Collection.collect source s roots with
  | .ok g =>
    (steps ++ [collected g]).map (.within (collection s roots)) ++
      (scriptWritten s g).map (.within (writing s g))
  | .error _ => steps.map (.within (collection s roots))

end ClassDiagram.Journal
