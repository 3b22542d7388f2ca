/-
Where a walk finds its cycles. Two nodes are connected when each leads to the other. Every cycle of the
graph keeps to connected nodes, and at least one of its steps closes a reported cycle, which then keeps
to the same nodes. So no part of the graph that holds a cycle goes unreported.
-/

import Concord.Proofs.Dependency.Walk

namespace Concord.DependencyGraph

variable {graph : DependencyGraph}

/-! ### Connected nodes -/

/-- Two nodes of which each leads to the other, or which are one node. -/
structure Connected (graph : DependencyGraph) (node other : String) : Prop where
  there : Relation.ReflTransGen graph.Edge node other
  back : Relation.ReflTransGen graph.Edge other node

theorem Connected.symm {node other : String} (connected : graph.Connected node other) :
    graph.Connected other node :=
  ⟨connected.back, connected.there⟩

theorem Connected.trans {first second third : String} (near : graph.Connected first second)
    (far : graph.Connected second third) : graph.Connected first third :=
  ⟨near.there.trans far.there, far.back.trans near.back⟩

/-- The nodes of a cycle are connected. -/
theorem IsCycle.connected {cycle : List String} (isCycle : graph.IsCycle cycle) {first second : String}
    (isFirst : first ∈ cycle) (isSecond : second ∈ cycle) : graph.Connected first second := by
  obtain ⟨node, inner, rfl, -⟩ := isCycle.closed
  have fromNode : ∀ other ∈ node :: inner ++ [node], graph.Connected node other := by
    refine fun other member => ⟨?_, ?_⟩
    · exact isCycle.follows.induction (Relation.ReflTransGen graph.Edge node ·) _
        (fun _ _ leads reached => reached.tail leads) (fun _ => .refl) other member
    · exact isCycle.follows.backwards_induction (Relation.ReflTransGen graph.Edge · node) _
        (fun _ _ leads reached => reached.head leads) (fun _ => by rw [List.getLast_concat]) other member
  exact (fromNode first isFirst).symm.trans (fromNode second isSecond)

/-! ### Steps that close cycles -/

/-- A walk along edges either is open throughout, or one of its steps closes a reported cycle. -/
theorem transGen_openEdge_or_closesCycle {cycles : List (List String)} {node last : String}
    (leads : Relation.TransGen graph.Edge node last) :
    Relation.TransGen (graph.OpenEdge cycles) node last ∨
      ∃ before behind, ClosesCycle cycles before behind ∧
        Relation.ReflTransGen graph.Edge node before ∧
          Relation.ReflTransGen graph.Edge behind last := by
  induction leads using Relation.TransGen.head_induction_on with
  | @single node step =>
    by_cases closes : ClosesCycle cycles node last
    · exact .inr ⟨node, last, closes, .refl, .refl⟩
    · exact .inl (.single ⟨step, closes⟩)
  | @head node next step rest inductionHypothesis =>
    rcases inductionHypothesis with isOpen | ⟨before, behind, closes, reaches, comes⟩
    · by_cases closes : ClosesCycle cycles node next
      · exact .inr ⟨node, next, closes, .refl, rest.to_reflTransGen⟩
      · exact .inl (.head ⟨step, closes⟩ isOpen)
    · exact .inr ⟨before, behind, closes, reaches.head step, comes⟩

/-- Connected to every node that leads back to itself there is a reported cycle. -/
theorem exists_connected_cycle {node : String} (loop : Relation.TransGen graph.Edge node node) :
    ∃ cycle ∈ graph.cycles, ∀ member ∈ cycle, graph.Connected node member := by
  obtain ⟨before, behind, ⟨start, reported⟩, reaches, comes⟩ :=
    (transGen_openEdge_or_closesCycle loop).resolve_left (graph.not_transGen_openEdge node)
  have isCycle := isCycle_of_mem_cycles reported
  refine ⟨_, reported, fun member inside => ?_⟩
  have ahead : graph.Connected before member := isCycle.connected (by simp) inside
  have closing : graph.Connected member behind := isCycle.connected inside (by simp)
  exact ⟨reaches.trans ahead.there, closing.there.trans comes⟩

/-! ### What the walk reports -/

/-- The walk reports nothing but cycles; without the last steps of those it reports the graph has none;
so it reports nothing exactly when the graph is acyclic, which does not hang on the order of the nodes or
of what they lead to; and whatever leads back to itself is connected to a reported cycle. -/
theorem cycles_sound_and_complete (graph : DependencyGraph) :
    (∀ cycle ∈ graph.cycles, graph.IsCycle cycle) ∧
      (∀ node, ¬ Relation.TransGen (graph.OpenEdge graph.cycles) node node) ∧
      (graph.cycles = [] ↔ graph.IsAcyclic) ∧
      (∀ other : DependencyGraph, (∀ node next, other.Edge node next ↔ graph.Edge node next) →
        (other.cycles = [] ↔ graph.cycles = [])) ∧
      ∀ node, Relation.TransGen graph.Edge node node →
        ∃ cycle ∈ graph.cycles, ∀ member ∈ cycle, graph.Connected node member := by
  refine ⟨fun cycle member => isCycle_of_mem_cycles member, graph.not_transGen_openEdge,
    graph.cycles_eq_nil_iff, fun other same => ?_, fun node loop => exists_connected_cycle loop⟩
  have sameEdges : other.Edge = graph.Edge := funext fun node => funext fun next =>
    propext (same node next)
  rw [cycles_eq_nil_iff, cycles_eq_nil_iff, IsAcyclic, IsAcyclic, sameEdges]

/-- A ring of two nodes that is entered from outside, and a node that leads to itself. -/
def twoRings : DependencyGraph :=
  ⟨[("a", ["b"]), ("b", ["c", "d", "d"]), ("c", ["b"]), ("d", ["d", "e"])]⟩

/-- The same rings, the nodes and what they lead to in another order. -/
def twoRingsReordered : DependencyGraph :=
  ⟨[("d", ["e", "d"]), ("c", ["b"]), ("b", ["d", "c"]), ("a", ["b"])]⟩

theorem cycles_twoRings :
    (∀ node next, twoRingsReordered.Edge node next ↔ twoRings.Edge node next) ∧
      Relation.TransGen twoRings.Edge "c" "c" ∧
      twoRings.cycles = [["b", "c", "b"], ["d", "d"]] ∧
      (twoRingsReordered.cycles = [] ↔ twoRings.cycles = []) ∧
      ∃ cycle ∈ twoRings.cycles, ∀ member ∈ cycle, twoRings.Connected "c" member := by
  have sameEdges : ∀ node next, twoRingsReordered.Edge node next ↔ twoRings.Edge node next := by
    intro node next
    simp only [Edge, targets, twoRings, twoRingsReordered, List.lookup_cons, List.lookup_nil]
    grind
  have loop : Relation.TransGen twoRings.Edge "c" "c" :=
    .head (by decide : "b" ∈ twoRings.targets "c") (.single (by decide : "c" ∈ twoRings.targets "b"))
  obtain ⟨-, -, -, reordered, connected⟩ := cycles_sound_and_complete twoRings
  exact ⟨sameEdges, loop, by decide +kernel, reordered twoRingsReordered sameEdges,
    connected "c" loop⟩

end Concord.DependencyGraph
