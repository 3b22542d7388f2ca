/-
What the walk over a dependency graph comes by. A node is left for good only when every node it leads
to was left before, or stands on the path of the walk; in the second case the step to that node closes
a cycle that the walk reports. Take the steps that close reported cycles away, and the order in which
the nodes are left shows that no cycle is left over. Conversely every reported path follows edges and
comes back to where it began. So the walk reports nothing exactly when the graph is acyclic.
-/

import Concord.Dependency
import Mathlib.Data.List.Chain
import Mathlib.Data.List.TakeWhile
import Mathlib.Logic.Relation

namespace Concord.DependencyGraph

/-! ### Edges and cycles -/

/-- The graph leads from a node to the next one in a single step. -/
def Edge (graph : DependencyGraph) (node next : String) : Prop :=
  next ∈ graph.targets node

/-- No node leads back to itself. -/
def IsAcyclic (graph : DependencyGraph) : Prop :=
  ∀ node, ¬ Relation.TransGen graph.Edge node node

/-- A path along edges that comes back to its first node and meets no node twice before. -/
structure IsCycle (graph : DependencyGraph) (cycle : List String) : Prop where
  closed : ∃ node inner, cycle = node :: inner ++ [node] ∧ (node :: inner).Nodup
  follows : List.IsChain graph.Edge cycle

/-- The step from a node to the next one is the last of one of the cycles. -/
def ClosesCycle (cycles : List (List String)) (node next : String) : Prop :=
  ∃ before, before ++ [node, next] ∈ cycles

theorem ClosesCycle.mono {cycles more : List (List String)} {node next : String}
    (closes : ClosesCycle cycles node next) (kept : cycles <+: more) :
    ClosesCycle more node next := by
  obtain ⟨before, member⟩ := closes
  exact ⟨before, kept.subset member⟩

theorem transGen_of_isChain {graph : DependencyGraph} {node last : String} {inner : List String}
    (follows : List.IsChain graph.Edge (node :: inner ++ [last])) :
    Relation.TransGen graph.Edge node last := by
  induction inner generalizing node with
  | nil => exact .single (List.isChain_pair.1 follows)
  | cons next inner inductionHypothesis =>
    rw [List.cons_append, List.cons_append, List.isChain_cons_cons] at follows
    exact .head follows.1 (inductionHypothesis follows.2)

theorem IsCycle.transGen {graph : DependencyGraph} {cycle : List String}
    (isCycle : graph.IsCycle cycle) : ∃ node, Relation.TransGen graph.Edge node node := by
  obtain ⟨node, inner, rfl, -⟩ := isCycle.closed
  exact ⟨node, transGen_of_isChain isCycle.follows⟩

/-! ### The order in which nodes are left -/

/-- Every node of the list leads only to nodes behind it, except along steps that close cycles. -/
def Ordered (graph : DependencyGraph) (cycles : List (List String)) : List String → Prop
  | [] => True
  | node :: earlier =>
    (∀ next ∈ graph.targets node, next ∈ earlier ∨ ClosesCycle cycles node next) ∧
      Ordered graph cycles earlier

theorem Ordered.mono {graph : DependencyGraph} {cycles more : List (List String)}
    {left : List String} (ordered : graph.Ordered cycles left) (kept : cycles <+: more) :
    graph.Ordered more left := by
  induction left with
  | nil => trivial
  | cons node earlier inductionHypothesis =>
    refine ⟨fun next leads => ?_, inductionHypothesis ordered.2⟩
    exact (ordered.1 next leads).imp_right fun closes => closes.mono kept

/-- An edge that does not close one of the cycles. -/
def OpenEdge (graph : DependencyGraph) (cycles : List (List String)) (node next : String) : Prop :=
  graph.Edge node next ∧ ¬ ClosesCycle cycles node next

theorem Ordered.mem_of_edge {graph : DependencyGraph} {cycles : List (List String)}
    {left : List String} (ordered : graph.Ordered cycles left) {node next : String}
    (member : node ∈ left) (leads : graph.OpenEdge cycles node next) : next ∈ left := by
  induction left with
  | nil => exact absurd member List.not_mem_nil
  | cons first earlier inductionHypothesis =>
    rcases List.mem_cons.1 member with rfl | later
    · exact List.mem_cons_of_mem _ ((ordered.1 next leads.1).resolve_right leads.2)
    · exact List.mem_cons_of_mem _ (inductionHypothesis ordered.2 later)

theorem Ordered.mem_of_transGen {graph : DependencyGraph} {cycles : List (List String)}
    {left : List String} (ordered : graph.Ordered cycles left) {node last : String}
    (member : node ∈ left) (leads : Relation.TransGen (graph.OpenEdge cycles) node last) :
    last ∈ left := by
  induction leads with
  | single step => exact ordered.mem_of_edge member step
  | tail _ step inductionHypothesis => exact ordered.mem_of_edge inductionHypothesis step

/-- Along open edges no node of an ordered list comes back to itself: the first step would lead to a
node behind it, and from there nothing leads forward again. -/
theorem Ordered.not_transGen {graph : DependencyGraph} {cycles : List (List String)}
    {left : List String} (ordered : graph.Ordered cycles left) {node : String}
    (member : node ∈ left) : ¬ Relation.TransGen (graph.OpenEdge cycles) node node := by
  induction left with
  | nil => exact absurd member List.not_mem_nil
  | cons first earlier inductionHypothesis =>
    intro loop
    by_cases later : node ∈ earlier
    · exact inductionHypothesis ordered.2 later loop
    · obtain rfl : node = first := (List.mem_cons.1 member).resolve_right later
      obtain ⟨next, step, rest⟩ := Relation.TransGen.head'_iff.1 loop
      have behind : next ∈ earlier := (ordered.1 next step.1).resolve_right step.2
      rcases Relation.reflTransGen_iff_eq_or_transGen.1 rest with rfl | onward
      · exact later behind
      · exact later (ordered.2.mem_of_transGen behind onward)

/-! ### One visit -/

/-- What a walk from the end of a path to several nodes in turn does to its progress. -/
structure Visits (graph : DependencyGraph) (path nodes : List String)
    (start finish : Progress) : Prop where
  left : start.left <:+ finish.left
  cycles : start.cycles <+: finish.cycles
  ordered : graph.Ordered start.cycles start.left → graph.Ordered finish.cycles finish.left
  reached : ∀ node ∈ nodes, node ∈ finish.left ∨
    node ∈ path ∧ path.dropWhile (· != node) ++ [node] ∈ finish.cycles

theorem Visits.nil {graph : DependencyGraph} {path : List String} (progress : Progress) :
    graph.Visits path [] progress progress :=
  ⟨List.suffix_refl _, List.prefix_refl _, id, fun _ member => absurd member List.not_mem_nil⟩

theorem Visits.cons {graph : DependencyGraph} {path nodes : List String} {node : String}
    {start middle finish : Progress} (first : graph.Visits path [node] start middle)
    (others : graph.Visits path nodes middle finish) :
    graph.Visits path (node :: nodes) start finish := by
  refine ⟨first.left.trans others.left, first.cycles.trans others.cycles,
    others.ordered ∘ first.ordered, fun next member => ?_⟩
  rcases List.mem_cons.1 member with rfl | later
  · exact (first.reached next List.mem_cons_self).imp (others.left.subset ·) fun found =>
      ⟨found.1, others.cycles.subset found.2⟩
  · exact others.reached next later

theorem visits_foldl {graph : DependencyGraph} {path : List String}
    (visits : ∀ progress next, graph.Visits path [next] progress (graph.visit path next progress))
    (nodes : List String) (start : Progress) :
    graph.Visits path nodes start
      (nodes.foldl (fun progress next => graph.visit path next progress) start) := by
  induction nodes generalizing start with
  | nil => exact .nil start
  | cons node nodes inductionHypothesis => exact (visits start node).cons (inductionHypothesis _)

/-- The cycle that the walk closes when it comes from the last node of its path to one before. -/
theorem exists_dropWhile_eq {path : List String} {node next : String}
    (member : next ∈ path ++ [node]) :
    ∃ before, (path ++ [node]).dropWhile (· != next) = before ++ [node] := by
  induction path with
  | nil =>
    obtain rfl : next = node := by simpa using member
    exact ⟨[], by simp⟩
  | cons first path inductionHypothesis =>
    by_cases same : first = next
    · exact ⟨first :: path, by simp [same]⟩
    · have later : next ∈ path ++ [node] := by
        rw [List.cons_append, List.mem_cons] at member
        exact member.resolve_left fun equal => same equal.symm
      obtain ⟨before, found⟩ := inductionHypothesis later
      exact ⟨before, by simpa [List.dropWhile_cons, same] using found⟩

theorem visits_visit (graph : DependencyGraph) (path : List String) (node : String)
    (progress : Progress) :
    graph.Visits path [node] progress (graph.visit path node progress) := by
  induction path, node, progress using visit.induct graph with
  | case1 path node progress isLeft =>
    rw [visit, if_pos isLeft]
    refine ⟨List.suffix_refl _, List.prefix_refl _, id, fun next member => .inl ?_⟩
    rw [List.mem_singleton.1 member]
    simpa using isLeft
  | case2 path node progress notLeft fresh inductionHypothesis =>
    have inner : graph.Visits (path ++ [node]) (graph.targets node) progress
        (if graph.targets node = [] then progress
          else (graph.targets node).foldl
            (fun progress next => graph.visit (path ++ [node]) next progress) progress) := by
      split
      · rename_i leadsNowhere
        rw [leadsNowhere]
        exact .nil progress
      · rename_i leads
        exact visits_foldl (inductionHypothesis leads) _ _
    rw [visit, if_neg notLeft, dif_pos fresh]
    refine ⟨inner.left.trans (List.suffix_cons _ _), inner.cycles, fun ordered => ?_,
      fun next member => .inl (List.mem_singleton.1 member ▸ List.mem_cons_self)⟩
    refine ⟨fun next leads => ?_, inner.ordered ordered⟩
    refine (inner.reached next leads).imp_right fun found => ?_
    obtain ⟨before, ends⟩ := exists_dropWhile_eq found.1
    exact ⟨before, by simpa [ends] using found.2⟩
  | case3 path node progress notLeft onPath =>
    rw [visit, if_neg notLeft, dif_neg onPath]
    have kept : progress.cycles <+: progress.cycles ++ [path.dropWhile (· != node) ++ [node]] :=
      List.prefix_append _ _
    refine ⟨List.suffix_refl _, kept, fun ordered => ordered.mono kept, fun next member => .inr ?_⟩
    rw [List.mem_singleton.1 member]
    refine ⟨?_, ?_⟩
    · simpa using onPath
    · exact List.mem_append_right _ List.mem_cons_self

/-! ### Reported cycles are cycles -/

theorem isCycle_of_onPath {graph : DependencyGraph} {path : List String} {node : String}
    (member : node ∈ path) (distinct : path.Nodup)
    (follows : List.IsChain graph.Edge (path ++ [node])) :
    graph.IsCycle (path.dropWhile (· != node) ++ [node]) := by
  have suffix : path.dropWhile (· != node) <:+ path := List.dropWhile_suffix _
  have begins : ∃ inner, path.dropWhile (· != node) = node :: inner := by
    cases remaining : path.dropWhile (· != node) with
    | nil => simpa using List.dropWhile_eq_nil_iff.1 remaining node member
    | cons first inner =>
      have stops := List.head?_dropWhile_not (· != node) path
      rw [remaining] at stops
      exact ⟨inner, by simpa using stops⟩
  obtain ⟨inner, found⟩ := begins
  refine ⟨⟨node, inner, by rw [found], found ▸ distinct.sublist suffix.sublist⟩, ?_⟩
  obtain ⟨before, whole⟩ := suffix
  exact follows.suffix ⟨before, by rw [← List.append_assoc, whole]⟩

theorem isCycle_foldl {graph : DependencyGraph} {path nodes : List String}
    (visits : ∀ progress, ∀ next ∈ nodes, (∀ cycle ∈ progress.cycles, graph.IsCycle cycle) →
      ∀ cycle ∈ (graph.visit path next progress).cycles, graph.IsCycle cycle)
    {start : Progress} (known : ∀ cycle ∈ start.cycles, graph.IsCycle cycle) :
    ∀ cycle ∈ (nodes.foldl (fun progress next => graph.visit path next progress) start).cycles,
      graph.IsCycle cycle := by
  induction nodes generalizing start with
  | nil => exact known
  | cons node nodes inductionHypothesis =>
    refine inductionHypothesis (fun progress next member => ?_)
      (visits start node List.mem_cons_self known)
    exact visits progress next (List.mem_cons_of_mem _ member)

theorem isCycle_visit {graph : DependencyGraph} {path : List String} {node : String}
    {progress : Progress} (distinct : path.Nodup)
    (follows : List.IsChain graph.Edge (path ++ [node]))
    (known : ∀ cycle ∈ progress.cycles, graph.IsCycle cycle) :
    ∀ cycle ∈ (graph.visit path node progress).cycles, graph.IsCycle cycle := by
  induction path, node, progress using visit.induct graph with
  | case1 path node progress isLeft =>
    rw [visit, if_pos isLeft]
    exact known
  | case2 path node progress notLeft fresh inductionHypothesis =>
    rw [visit, if_neg notLeft, dif_pos fresh]
    show ∀ cycle ∈ Progress.cycles (if graph.targets node = [] then progress else _), _
    split
    · exact known
    · rename_i leads
      refine isCycle_foldl (fun progress next member known => ?_) known
      refine inductionHypothesis leads progress next ?_ ?_ known
      · refine List.nodup_append.2 ⟨distinct, (List.pairwise_singleton _ node), ?_⟩
        rintro first onPath second same rfl
        rw [List.mem_singleton.1 same] at onPath
        simp [onPath] at fresh
      · rw [List.append_assoc, List.singleton_append, List.isChain_append_cons_cons]
        exact ⟨follows, member, List.isChain_singleton _⟩
  | case3 path node progress notLeft onPath =>
    rw [visit, if_neg notLeft, dif_neg onPath]
    intro cycle member
    rcases List.mem_append.1 member with old | new
    · exact known cycle old
    · rw [List.mem_singleton.1 new]
      exact isCycle_of_onPath (by simpa using onPath) distinct follows

/-! ### The whole walk -/

theorem isCycle_of_mem_cycles {graph : DependencyGraph} {cycle : List String}
    (member : cycle ∈ graph.cycles) : graph.IsCycle cycle := by
  refine isCycle_foldl (fun progress node _ known => ?_) (fun _ absent => ?_) cycle member
  · exact isCycle_visit List.nodup_nil (List.isChain_singleton node) known
  · exact absurd absent List.not_mem_nil

/-- Without the steps that close reported cycles the graph has no cycle. -/
theorem not_transGen_openEdge (graph : DependencyGraph) (node : String) :
    ¬ Relation.TransGen (graph.OpenEdge graph.cycles) node node := by
  intro loop
  have walk := visits_foldl (fun progress next => graph.visits_visit [] next progress)
    graph.nodes ⟨[], []⟩
  obtain ⟨next, step, -⟩ := Relation.TransGen.head'_iff.1 loop
  have listed : node ∈ graph.nodes := mem_nodes_of_targets (List.ne_nil_of_mem step.1)
  have isLeft := (walk.reached node listed).resolve_right fun found => List.not_mem_nil found.1
  exact (walk.ordered trivial).not_transGen isLeft loop

/-- The walk reports nothing exactly when the graph is acyclic. -/
theorem cycles_eq_nil_iff (graph : DependencyGraph) : graph.cycles = [] ↔ graph.IsAcyclic := by
  constructor
  · intro nothing node loop
    have allOpen : graph.Edge ≤ graph.OpenEdge graph.cycles := by
      rintro first second leads
      refine ⟨leads, ?_⟩
      rintro ⟨before, member⟩
      rw [nothing] at member
      exact List.not_mem_nil member
    exact graph.not_transGen_openEdge node (Relation.TransGen.mono allOpen _ _ loop)
  · intro acyclic
    refine List.eq_nil_iff_forall_not_mem.2 fun cycle member => ?_
    obtain ⟨node, loop⟩ := (isCycle_of_mem_cycles member).transGen
    exact acyclic node loop

end Concord.DependencyGraph
