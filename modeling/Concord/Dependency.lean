/-
Dependencies between contracts. A contract depends on every other contract that declares a name it
imports; the vocabulary takes no part. Cycles are found by a depth-first walk: whenever the walk comes
to a node of its own path, the part of the path from that node on is a cycle. A node that has been left
is not entered again.
-/

import Concord.Document
import Concord.Issue

namespace Concord

/-! ### The graph -/

/-- Nodes in order, each with the nodes it leads to. -/
structure DependencyGraph where
  entries : List (String × List String)
  deriving DecidableEq, Repr

namespace DependencyGraph

/-- An entry put in: a known node keeps its place and takes the new targets. -/
def putEntry (node : String) (targets : List String) :
    List (String × List String) → List (String × List String)
  | [] => [(node, targets)]
  | (known, old) :: entries =>
    if known = node then (known, targets) :: entries
    else (known, old) :: putEntry node targets entries

/-- The graph of entries put in one after another. -/
def ofEntries (entries : List (String × List String)) : DependencyGraph :=
  ⟨entries.foldl (fun known entry => putEntry entry.1 entry.2 known) []⟩

/-- The nodes that are listed. -/
def nodes (graph : DependencyGraph) : List String :=
  graph.entries.map (·.1)

/-- The nodes that a node leads to; none when it is not listed. -/
def targets (graph : DependencyGraph) (node : String) : List String :=
  (graph.entries.lookup node).getD []

/-- The contracts on which a contract depends, each once, in the order of the contracts. -/
def dependencies (contracts : List Document) (contract : Document) : List String :=
  firstOccurrences <| (contracts.filter fun other =>
    other.identifier != contract.identifier && contract.importedNames.any other.declares).map
      (·.identifier)

/-- The graph of the contracts. -/
def ofContracts (contracts : List Document) : DependencyGraph :=
  ofEntries (contracts.map fun contract => (contract.identifier, dependencies contracts contract))

/-! ### The walk -/

/-- What the walk has come by so far: the nodes it has left for good, and the cycles it has found. -/
structure Progress where
  left : List String
  cycles : List (List String)
  deriving DecidableEq, Repr

/-- The listed nodes that are not on a path. -/
def offPath (graph : DependencyGraph) (path : List String) : List String :=
  graph.nodes.filter fun node => !path.contains node

theorem mem_nodes_of_targets {graph : DependencyGraph} {node : String}
    (leads : graph.targets node ≠ []) : node ∈ graph.nodes := by
  unfold targets at leads
  unfold nodes
  cases found : graph.entries.lookup node with
  | none => simp [found] at leads
  | some list =>
    obtain ⟨before, after, same, -⟩ := List.lookup_eq_some_iff.1 found
    simp [same]

theorem length_offPath_lt {graph : DependencyGraph} {path : List String} {node : String}
    (listed : node ∈ graph.nodes) (fresh : path.contains node = false) :
    (graph.offPath (path ++ [node])).length < (graph.offPath path).length := by
  have narrower : graph.offPath (path ++ [node]) =
      (graph.offPath path).filter fun other => !([node].contains other) := by
    simp only [offPath, List.filter_filter]
    apply List.filter_congr
    intro other _
    simp [List.contains_eq_mem, List.mem_append, Bool.and_comm]
  rw [narrower]
  apply List.length_filter_lt_length_iff_exists.2
  refine ⟨node, ?_, by simp⟩
  simp only [offPath, List.mem_filter]
  exact ⟨listed, by simp only [fresh, Bool.not_false]⟩

/-- Goes to a node at the end of a path, and from there to every node it leads to. -/
def visit (graph : DependencyGraph) (path : List String) (node : String) (progress : Progress) :
    Progress :=
  if progress.left.contains node then progress
  else if _fresh : path.contains node = false then
    let inner :=
      if _leads : graph.targets node = [] then progress
      else
        (graph.targets node).foldl (fun progress next => graph.visit (path ++ [node]) next progress)
          progress
    { inner with left := node :: inner.left }
  else { progress with cycles := progress.cycles ++ [path.dropWhile (· != node) ++ [node]] }
termination_by (graph.offPath path).length
decreasing_by exact length_offPath_lt (mem_nodes_of_targets _leads) _fresh

/-- The cycles that a walk from every node in turn comes by. -/
def cycles (graph : DependencyGraph) : List (List String) :=
  (graph.nodes.foldl (fun progress node => graph.visit [] node progress) ⟨[], []⟩).cycles

/-! ### Issues -/

/-- The issue of one cycle. -/
def cycleIssue (cycle : List String) : Issue :=
  let path := " -> ".intercalate cycle
  .error .circularDependency s!"Circular dependency detected: {path}" (cycle.head?.getD "") none
    "Refactor to break the circular dependency, possibly by extracting shared types to primitives"

/-- The issues of cycles, in order. -/
def cycleIssues (cycles : List (List String)) : List Issue :=
  cycles.map cycleIssue

end DependencyGraph

end Concord
