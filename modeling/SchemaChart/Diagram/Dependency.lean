-- Which tables depend on which: a table that holds a foreign key depends on the one it refers to.
import SchemaChart.Diagram.Basic

namespace SchemaChart.Diagram

/-! ## Graphs -/

/-- A graph whose nodes are the numbers below `size`. -/
structure Graph where
  size : Nat
  edges : List (Nat × Nat)
deriving Repr, DecidableEq

namespace Graph

/-- The nodes that an edge leads to from a node, in the order of the edges. -/
def successors (g : Graph) (u : Nat) : List Nat := (g.edges.filter (·.1 == u)).map (·.2)

/-- A walk through a graph: the nodes that were met, and those that are done, the last one
first. -/
structure Walk where
  met : List Nat := []
  done : List Nat := []
deriving Repr, DecidableEq

/-- Walks from a node to all that can be reached and was not met. The first argument bounds the
length of a path. -/
def visit (g : Graph) : Nat → Walk → Nat → Walk
  | 0, w, _ => w
  | n + 1, w, u =>
    if w.met.contains u then w
    else
      let below := (g.successors u).foldl (visit g n) { w with met := u :: w.met }
      { below with done := u :: below.done }

/-- Walks through the whole graph. -/
def walk (g : Graph) : Walk := (List.range g.size).foldl (g.visit (g.size + 1)) {}

/-- Does every edge lead to a later node of a list. -/
def ordered (g : Graph) (order : List Nat) : Bool :=
  g.edges.all (fun (u, v) => order.idxOf u < order.idxOf v)

/-- The nodes such that every edge leads to a later one, if there is such an order. -/
def order? (g : Graph) : Option (List Nat) :=
  let order := g.walk.done
  if g.ordered order then some order else none

/-- Can a node be reached from another one; every node can be reached from itself. -/
def reaches (g : Graph) (u v : Nat) : Bool := u == v || (g.visit (g.size + 1) {} u).met.contains v

/-- The nodes from which a node can be reached and back. -/
def component (g : Graph) (u : Nat) : List Nat :=
  (List.range g.size).filter (fun v => g.reaches u v && g.reaches v u)

/-- The groups of more than one node in which each can be reached from each. -/
def cycles (g : Graph) : List (List Nat) :=
  ((List.range g.size).filter (fun u => (g.component u).head? == some u)).filterMap (fun u =>
    let c := g.component u
    if c.length > 1 then some c else none)

end Graph

/-! ## The graph of a diagram -/

/-- The node of a table identifier; of several tables with the same one the last counts. -/
def node? (d : Diagram) (id : String) : Option Nat :=
  (d.tables.reverse.findIdx? (·.id == id)).map (fun i => d.tables.length - 1 - i)

/-- The edge of a relationship: from the table that is referred to, to the one that holds the
key. Tables that refer to themselves have none. -/
def edge? (d : Diagram) (r : Relationship) : Option (Nat × Nat) := do
  let (holder, referenced) ← r.key?
  if holder.tableId == referenced.tableId then none
  else return (← d.node? referenced.tableId, ← d.node? holder.tableId)

/-- The graph of the dependencies, with no edge twice. -/
def dependencies (d : Diagram) : Graph :=
  { size := d.tables.length
    edges := (d.relationships.filterMap d.edge?).foldl
      (fun es e => if es.contains e then es else es ++ [e]) [] }

/-- The tables, each after those it depends on; as they are declared if they depend on each other
in a circle. -/
def dependencyOrder (d : Diagram) : List Table :=
  match d.dependencies.order? with
  | some order =>
    order.filterMap (fun i => (d.tables[i]?).bind (fun t => d.tableById? t.id))
  | none => d.tables

/-- The groups of tables that depend on each other in a circle, by their identifiers. -/
def circles (d : Diagram) : List (List String) :=
  d.dependencies.cycles.map (fun c => c.filterMap (fun i => (d.tables[i]?).map (·.id)))

/-- Would a key from the holder to the referenced table close a circle. -/
def closesCircle (d : Diagram) (holder referenced : String) : Bool :=
  match d.node? holder, d.node? referenced with
  | some h, some r => d.dependencies.reaches h r
  | _, _ => false

/-- The relationships whose ends are in the same table, with that table. -/
def selfReferences (d : Diagram) : List (String × String) :=
  (d.relationships.filter (fun r => r.sourceTableId == r.targetTableId)).map
    (fun r => (r.id, r.sourceTableId))

end SchemaChart.Diagram
