import CodeGraph.Sink

/-!
# Listings

A listing is printed line by line. It may fail on the way; the lines before that have been printed.

## Main definitions

* `Listing` — the lines of a listing and its failure
* `Listing.query`, `Listing.each` — listings of what is found
* `Listing.write` — print a listing to a sink
-/

namespace CodeGraph

/-- Lines in order, and the failure that ends them, if one does. -/
structure Listing where
  lines : List String
  failure : Option Error
  deriving DecidableEq, Repr

/-- Why a listing was not printed to its end. -/
inductive ListingFailure where
  /-- The listing itself failed. -/
  | query (e : Error)
  /-- The sink failed. -/
  | output (fault : IoFault)
  deriving DecidableEq, Repr

namespace Listing

/-- Lines without a failure. -/
def ofLines (lines : List String) : Listing :=
  ⟨lines, none⟩

/-- A failure before any line. -/
def fail (e : Error) : Listing :=
  ⟨[], some e⟩

/-- One listing, then another, unless the first fails. -/
def append (a b : Listing) : Listing :=
  match a.failure with
  | some _ => a
  | none => ⟨a.lines ++ b.lines, b.failure⟩

instance : Append Listing :=
  ⟨append⟩

/-- The listing of an answer, or the failure of its query. -/
def query {α : Type} (answer : Except Error α) (f : α → Listing) : Listing :=
  match answer with
  | .ok a => f a
  | .error e => fail e

/-- The listings of some things, one after another. -/
def each {α : Type} (xs : List α) (f : α → Listing) : Listing :=
  xs.foldr (fun x rest => f x ++ rest) (ofLines [])

/-- Print a listing. A failure of the sink comes first. -/
def write (l : Listing) (sink : Sink) : Sink × Option ListingFailure :=
  match sink.writeLines l.lines with
  | (sink, some fault) => (sink, some (.output fault))
  | (sink, none) => (sink, l.failure.map .query)

end Listing

end CodeGraph
