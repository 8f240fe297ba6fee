import CodeGraph.Catalog
import CodeGraph.Edge

/-!
# The edge index

The index holds both edges of every reference, filed under the entity from which they are seen, and
the forward edges once more under the entity at which they arrive. Each list is in order of
location.

## Main definitions

* `EdgeIndex.ofReferences` — the index of references between known entities
* `EdgeIndex.leaving` — the edges seen from an entity
* `EdgeIndex.arriving` — the forward edges that arrive at an entity
-/

namespace CodeGraph

/-- The edges of a database by their ends. -/
structure EdgeIndex where
  byNear : Register EntityId Edge
  /-- The forward edges by their far end. -/
  byTarget : Register EntityId Edge

namespace EdgeIndex

/-- The entity that plays a role in the reference numbered `record`. -/
def resolve (c : Catalog) (record : Nat) (role : Role) (id : EntityId) : Except Error Entity :=
  match c.entity? id with
  | some e => .ok e
  | none => .error (.danglingReference role id record)

/-- The forward edge of the reference numbered `record`. -/
def forwardEdge (c : Catalog) (record : Nat) (r : Reference) : Except Error Edge := do
  let source ← resolve c record .source r.source
  let target ← resolve c record .target r.target
  let file ← resolve c record .file r.file
  return ⟨record, .forward, r.kind, source, target, file, r.position⟩

/-- The forward edges of references, the first of which is numbered `record`. -/
def forwardEdges (c : Catalog) : Nat → List Reference → Except Error (List Edge)
  | _, [] => .ok []
  | record, r :: rs => do
    let e ← forwardEdge c record r
    let es ← forwardEdges c (record + 1) rs
    return e :: es

/-- The index of forward edges and their inverses. -/
def ofForward (forward : List Edge) : EdgeIndex where
  byNear := Register.ofList (·.near.id)
    ((forward.flatMap fun e => [e, e.reversed]).mergeSort Edge.inOrder)
  byTarget := Register.ofList (·.far.id) (forward.mergeSort Edge.inOrder)

/-- The index of references, unless one of them names an unknown entity. -/
def ofReferences (c : Catalog) (rs : List Reference) : Except Error EdgeIndex :=
  (forwardEdges c 0 rs).map ofForward

/-- The edges seen from an entity, by location. -/
def leaving (i : EdgeIndex) (id : EntityId) : List Edge :=
  i.byNear.filed id

/-- The forward edges that arrive at an entity, by location. -/
def arriving (i : EdgeIndex) (id : EntityId) : List Edge :=
  i.byTarget.filed id

end EdgeIndex

end CodeGraph
