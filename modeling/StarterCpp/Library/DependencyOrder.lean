import Mathlib.Data.Finset.Card
import Mathlib.Data.List.Basic
import Mathlib.Data.List.Chain
import Mathlib.Data.List.Nodup
import Mathlib.Logic.Relation

/-!
# Dependency order

A depth-first search lists each node when it leaves it, which is after the nodes
that the node depends on.  The search returns for all dependencies, and lists each
node once, after those of its dependencies that it is not inside of when it enters
the node.  When no node depends on itself, by way of others or not, every node of the
list stands after all that it depends on.
-/

namespace StarterCpp

/-- A list of distinct nodes in which each stands after those it depends on. -/
inductive DependencyOrder {Node : Type*} (dependencies : Node → List Node) :
    List Node → Prop
  | nil : DependencyOrder dependencies []
  | snoc
      {order : List Node}
      {node : Node}
      (ordered : DependencyOrder dependencies order)
      (new : node ∉ order)
      (met : ∀ needed ∈ dependencies node, needed ∈ order) :
      DependencyOrder dependencies (order ++ [node])

namespace DependencyOrder

variable {Node : Type*}
variable {dependencies : Node → List Node}
variable {order : List Node}

theorem nodup (ordered : DependencyOrder dependencies order) : order.Nodup := by
  induction ordered with
  | nil => exact List.nodup_nil
  | snoc _ new _ inductionHypothesis =>
      exact List.nodup_append_comm.mp (List.nodup_cons.mpr ⟨new, inductionHypothesis⟩)

/-- An order for some dependencies is one for fewer. -/
theorem mono
    {fewer : Node → List Node}
    (subset : ∀ node ∈ order, fewer node ⊆ dependencies node)
    (ordered : DependencyOrder dependencies order) :
    DependencyOrder fewer order := by
  induction ordered with
  | nil => exact .nil
  | snoc _ new met inductionHypothesis =>
      refine .snoc (inductionHypothesis fun node member =>
        subset node (List.mem_append_left _ member)) new ?_
      intro needed member
      exact met needed (subset _ (by simp) member)

/-- A node stands after what it depends on. -/
theorem mem_before
    (ordered : DependencyOrder dependencies order)
    {before after : List Node}
    {node needed : Node}
    (split : order = before ++ node :: after)
    (depends : needed ∈ dependencies node) :
    needed ∈ before := by
  induction ordered generalizing after with
  | nil => simp at split
  | @snoc earlier last _ _ met inductionHypothesis =>
      cases after using List.reverseRecOn with
      | nil =>
          obtain ⟨rfl, same⟩ := List.append_inj' split rfl
          obtain rfl := List.singleton_inj.mp same
          exact met needed depends
      | append_singleton after other _ =>
          rw [← List.cons_append, ← List.append_assoc] at split
          exact inductionHypothesis (List.append_inj' split rfl).1

/-- A node stands after what it depends on by way of others. -/
theorem mem_before_of_transGen
    (ordered : DependencyOrder dependencies order)
    {before after : List Node}
    {node needed : Node}
    (split : order = before ++ node :: after)
    (depends : Relation.TransGen (fun user used => used ∈ dependencies user) node
      needed) :
    needed ∈ before := by
  induction depends with
  | single depends => exact ordered.mem_before split depends
  | tail _ depends inductionHypothesis =>
      obtain ⟨first, second, rfl⟩ := List.append_of_mem inductionHypothesis
      rw [List.append_assoc, List.cons_append] at split
      exact List.mem_append_left _ (ordered.mem_before split depends)

end DependencyOrder

/-- Nodes that lead to nodes of a smaller rank do not lead to themselves. -/
theorem acyclic_of_rank
    {Node : Type*}
    {leads : Node → Node → Prop}
    (rank : Node → ℕ)
    (descends : ∀ first second, leads first second → rank second < rank first)
    (node : Node) :
    ¬Relation.TransGen leads node node := by
  intro cycle
  have descent : Relation.TransGen (· > ·) (rank node) (rank node) :=
    cycle.lift rank descends
  rw [Relation.transGen_eq_self] at descent
  exact Nat.lt_irrefl _ descent

/-! ## Ways of a search -/

/-- A way down which a search may go from a root, after it has searched from earlier
nodes: it comes back to no node, and to none that the earlier nodes lead to. -/
structure SearchPath
    {Node : Type*}
    (leads : Node → Node → Prop)
    (earlier : List Node)
    (root : Node)
    (path : List Node) : Prop where
  start : path.head? = some root
  chain : path.IsChain leads
  nodup : path.Nodup
  fresh : ∀ node ∈ path, ∀ other ∈ earlier, ¬Relation.ReflTransGen leads other node

/-- A search from some nodes may be inside of one node when it enters another. -/
def EnteredInside
    {Node : Type*}
    (leads : Node → Node → Prop)
    (nodes : List Node)
    (inner outer : Node) : Prop :=
  ∃ earlier root later path, nodes = earlier ++ root :: later ∧
    SearchPath leads earlier root (path ++ [inner]) ∧ outer ∈ path ++ [inner]

section Ways

variable {Node : Type*}
variable {leads : Node → Node → Prop}

theorem SearchPath.root
    {earlier : List Node}
    {node : Node}
    (fresh : ∀ other ∈ earlier, ¬Relation.ReflTransGen leads other node) :
    SearchPath leads earlier node [node] where
  start := rfl
  chain := .singleton node
  nodup := List.nodup_singleton node
  fresh := by simpa using fresh

/-- A search goes on from the last node of its way. -/
theorem SearchPath.snoc
    {earlier path : List Node}
    {root node needed : Node}
    (searchPath : SearchPath leads earlier root (path ++ [node]))
    (step : leads node needed)
    (new : needed ∉ path ++ [node])
    (fresh : ∀ other ∈ earlier, ¬Relation.ReflTransGen leads other needed) :
    SearchPath leads earlier root (path ++ [node] ++ [needed]) where
  start := by
    rw [List.head?_append, searchPath.start]
    rfl
  chain := searchPath.chain.append (.singleton needed) (by simpa using step)
  nodup := searchPath.nodup.append (List.nodup_singleton needed) (by simpa using new)
  fresh := by
    intro other member
    rcases List.mem_append.mp member with before | last
    · exact searchPath.fresh other before
    · rwa [List.mem_singleton.mp last]

/-- The nodes of a way lead to its last node. -/
theorem SearchPath.leads_to_last
    {earlier path : List Node}
    {root node outer : Node}
    (searchPath : SearchPath leads earlier root (path ++ [node]))
    (member : outer ∈ path ++ [node]) :
    Relation.ReflTransGen leads outer node := by
  obtain ⟨before, after, split⟩ := List.append_of_mem member
  have chain := searchPath.chain
  rw [split] at chain
  have last : (outer :: after).getLast (by simp) = node := by
    have same : (path ++ [node]).getLast? = some node := by simp
    rw [split, List.getLast?_append, List.getLast?_eq_some_getLast (by simp)] at same
    exact Option.some.inj same
  rw [← last]
  exact List.relationReflTransGen_of_exists_isChain_cons after
    chain.right_of_append rfl

/-- A node that is outside of a node it depends on depends on itself. -/
theorem EnteredInside.transGen
    {nodes : List Node}
    {inner outer : Node}
    (inside : EnteredInside leads nodes inner outer)
    (step : leads inner outer) :
    Relation.TransGen leads outer outer := by
  obtain ⟨_, _, _, _, _, searchPath, member⟩ := inside
  exact .tail' (searchPath.leads_to_last member) step

end Ways

/-! ## The search -/

/-- The nodes that a search has entered, and those it has left in order. -/
structure DepthFirst (Node : Type*) where
  visited : List Node
  order : List Node

namespace DepthFirst

variable {Node : Type*}

/-- Enter a node, search what it depends on, and leave it; the search goes no
deeper than a bound. -/
def visit
    [DecidableEq Node]
    (dependencies : Node → List Node) :
    ℕ → DepthFirst Node → Node → DepthFirst Node
  | 0, search, _ => search
  | depth + 1, search, node =>
      if node ∈ search.visited then search
      else
        let entered := { search with visited := node :: search.visited }
        let left := (dependencies node).foldl (visit dependencies depth) entered
        { left with order := left.order ++ [node] }

/-- Search from each node of a list. -/
def sort
    [DecidableEq Node]
    (dependencies : Node → List Node)
    (depth : ℕ)
    (nodes : List Node) : List Node :=
  (nodes.foldl (visit dependencies depth) ⟨[], []⟩).order

/-- A node that has been entered. -/
def enter (search : DepthFirst Node) (node : Node) : DepthFirst Node :=
  { search with visited := node :: search.visited }

/-- A node that has been left. -/
def leave (search : DepthFirst Node) (node : Node) : DepthFirst Node :=
  { search with order := search.order ++ [node] }

/-- Searches from the nodes of a list, one after the other, return; each goes as
deep as it has to. -/
inductive Returns (dependencies : Node → List Node) :
    DepthFirst Node → List Node → DepthFirst Node → Prop
  | nil (search : DepthFirst Node) : Returns dependencies search [] search
  | visited
      {search after : DepthFirst Node}
      {node : Node}
      {nodes : List Node}
      (visited : node ∈ search.visited)
      (later : Returns dependencies search nodes after) :
      Returns dependencies search (node :: nodes) after
  | fresh
      {search left after : DepthFirst Node}
      {node : Node}
      {nodes : List Node}
      (unvisited : node ∉ search.visited)
      (deeper : Returns dependencies (search.enter node) (dependencies node) left)
      (later : Returns dependencies (left.leave node) nodes after) :
      Returns dependencies search (node :: nodes) after

/-- What holds while the nodes of a stack have been entered and not left. -/
structure Sound
    (dependencies : Node → List Node)
    (nodes stack : List Node)
    (search : DepthFirst Node) : Prop where
  ordered : DependencyOrder dependencies search.order
  visited : ∀ node, node ∈ search.visited ↔ node ∈ search.order ∨ node ∈ stack
  apart : ∀ node ∈ stack, node ∉ search.order
  within : ∀ node ∈ search.order, node ∈ nodes

section Search

variable {dependencies : Node → List Node}
variable {nodes stack : List Node}
variable {search : DepthFirst Node}
variable {node : Node}

/-- Entering a node puts it on the stack. -/
theorem Sound.enter
    (sound : Sound dependencies nodes stack search)
    (unvisited : node ∉ search.visited) :
    Sound dependencies nodes (node :: stack) (search.enter node) := by
  refine ⟨sound.ordered, ?_, ?_, sound.within⟩
  · intro other
    simp only [DepthFirst.enter, List.mem_cons, sound.visited other]
    tauto
  · intro other onStack
    rcases List.mem_cons.mp onStack with rfl | deeper
    · exact fun left => unvisited ((sound.visited other).mpr (.inl left))
    · exact sound.apart other deeper

/-- Leaving a node takes it off the stack. -/
theorem Sound.leave
    (sound : Sound dependencies nodes (node :: stack) search)
    (within : node ∈ nodes)
    (offStack : node ∉ stack)
    (met : ∀ needed ∈ dependencies node, needed ∈ search.order) :
    Sound dependencies nodes stack (search.leave node) := by
  have new := sound.apart node List.mem_cons_self
  refine ⟨sound.ordered.snoc new met, ?_, ?_, ?_⟩
  · intro other
    simp only [DepthFirst.leave, List.mem_append, sound.visited other, List.mem_cons,
      List.not_mem_nil, or_false]
    tauto
  · intro other onStack left
    rcases List.mem_append.mp left with earlier | last
    · exact sound.apart other (List.mem_cons_of_mem node onStack) earlier
    · rw [List.mem_singleton.mp last] at onStack
      exact offStack onStack
  · intro other member
    rcases List.mem_append.mp member with earlier | last
    · exact sound.within other earlier
    · rwa [List.mem_singleton.mp last]

end Search

namespace Returns

variable {Node : Type*}
variable {dependencies : Node → List Node}
variable {search after : DepthFirst Node}
variable {visiting : List Node}

/-- A search has one result. -/
theorem unique
    (returns : Returns dependencies search visiting after)
    {other : DepthFirst Node}
    (returnsOther : Returns dependencies search visiting other) :
    after = other := by
  induction returns generalizing other with
  | nil =>
      cases returnsOther
      rfl
  | visited visited _ inductionHypothesis =>
      cases returnsOther with
      | visited _ later => exact inductionHypothesis later
      | fresh unvisited _ _ => exact absurd visited unvisited
  | fresh unvisited _ _ deeperHypothesis laterHypothesis =>
      cases returnsOther with
      | visited visited _ => exact absurd visited unvisited
      | fresh _ deeper later =>
          obtain rfl := deeperHypothesis deeper
          exact laterHypothesis later

/-- A search forgets no node it has entered. -/
theorem grows
    (returns : Returns dependencies search visiting after) :
    search.visited ⊆ after.visited := by
  induction returns with
  | nil => exact List.Subset.refl _
  | visited _ _ inductionHypothesis => exact inductionHypothesis
  | fresh _ _ _ deeperHypothesis laterHypothesis =>
      intro node member
      exact laterHypothesis (deeperHypothesis (List.mem_cons_of_mem _ member))

/-- A search enters the nodes it starts from. -/
theorem visits
    (returns : Returns dependencies search visiting after) :
    ∀ node ∈ visiting, node ∈ after.visited := by
  induction returns with
  | nil => simp
  | visited visited later inductionHypothesis =>
      exact List.forall_mem_cons.mpr ⟨later.grows visited, inductionHypothesis⟩
  | fresh _ deeper later _ laterHypothesis =>
      exact List.forall_mem_cons.mpr
        ⟨later.grows (deeper.grows List.mem_cons_self), laterHypothesis⟩

/-- A search enters what the nodes it enters depend on. -/
theorem closes
    (returns : Returns dependencies search visiting after) :
    ∀ node ∈ after.visited, node ∉ search.visited →
      ∀ needed ∈ dependencies node, needed ∈ after.visited := by
  induction returns with
  | nil => exact fun _ entered new => absurd entered new
  | visited _ _ inductionHypothesis => exact inductionHypothesis
  | @fresh search left after first _ _ deeper later deeperHypothesis laterHypothesis =>
      intro node entered new needed depends
      by_cases early : node ∈ left.visited
      · apply later.grows
        by_cases same : node = first
        · exact deeper.visits needed (same ▸ depends)
        · exact deeperHypothesis node early (by simp [enter, same, new]) needed depends
      · exact laterHypothesis node entered early needed depends

/-- A search lists each node once, when it leaves it.  A node then stands after those
of its dependencies that are not on the way to it, since the nodes that have been
entered and not left are. -/
theorem sound
    {respected : Node → List Node}
    {earlier : List Node}
    {root : Node}
    (respects : ∀ node, ∀ needed ∈ respected node,
      needed ∈ dependencies node ∧
        ∀ path, SearchPath (fun user used => used ∈ dependencies user) earlier root
          (path ++ [node]) → needed ∉ path ++ [node])
    {nodes stack : List Node}
    (closed : ∀ node ∈ nodes, ∀ needed ∈ dependencies node, needed ∈ nodes)
    (returns : Returns dependencies search visiting after)
    (within : ∀ node ∈ visiting, node ∈ nodes)
    (behind : ∀ other ∈ earlier, ∀ node,
      Relation.ReflTransGen (fun user used => used ∈ dependencies user) other node →
        node ∈ search.visited)
    (way : ∀ node ∈ visiting, node ∉ search.visited →
      SearchPath (fun user used => used ∈ dependencies user) earlier root
        (stack.reverse ++ [node]))
    (sound : Sound respected nodes stack search) :
    Sound respected nodes stack after := by
  induction returns generalizing stack with
  | nil => exact sound
  | visited _ _ inductionHypothesis =>
      exact inductionHypothesis (List.forall_mem_cons.mp within).2 behind
        (List.forall_mem_cons.mp way).2 sound
  | @fresh search left after node rest unvisited deeper later deeperHypothesis
      laterHypothesis =>
      obtain ⟨here, withinLater⟩ := List.forall_mem_cons.mp within
      obtain ⟨wayHere, wayLater⟩ := List.forall_mem_cons.mp way
      have searchPath := wayHere unvisited
      have onWay : ∀ other, other ∈ node :: stack → other ∈ stack.reverse ++ [node] := by
        intro other
        simp [or_comm]
      have wayDeeper : ∀ needed ∈ dependencies node, needed ∉ (search.enter node).visited →
          SearchPath (fun user used => used ∈ dependencies user) earlier root
            ((node :: stack).reverse ++ [needed]) := by
        intro needed depends new
        rw [List.reverse_cons]
        refine searchPath.snoc depends ?_ ?_
        · intro member
          refine new (((sound.enter unvisited).visited needed).mpr (.inr ?_))
          simpa [or_comm] using member
        · intro other among leads
          exact new (List.mem_cons_of_mem node (behind other among needed leads))
      have soundLeft := deeperHypothesis (closed node here)
        (fun other among needed leads =>
          List.mem_cons_of_mem node (behind other among needed leads))
        wayDeeper (sound.enter unvisited)
      have offStack : node ∉ stack :=
        fun onStack => unvisited ((sound.visited node).mpr (.inr onStack))
      have met : ∀ needed ∈ respected node, needed ∈ left.order := by
        intro needed member
        obtain ⟨depends, apart⟩ := respects node needed member
        exact ((soundLeft.visited needed).mp (deeper.visits needed depends)).resolve_right
          fun onStack => apart stack.reverse searchPath (onWay needed onStack)
      have grown : ∀ other ∈ search.visited, other ∈ left.visited :=
        fun other member => deeper.grows (List.mem_cons_of_mem node member)
      exact laterHypothesis withinLater
        (fun other among needed leads => grown needed (behind other among needed leads))
        (fun other among new =>
          wayLater other among fun entered => new (grown other entered))
        (soundLeft.leave here offStack met)

/-- Searches from nodes, one after the other, when the nodes that have been entered
before lead to no others. -/
theorem sound_from
    {respected : Node → List Node}
    {starts earlier nodes : List Node}
    (split : starts = earlier ++ visiting)
    (respects : ∀ node, ∀ needed ∈ respected node,
      needed ∈ dependencies node ∧
        ¬EnteredInside (fun user used => used ∈ dependencies user) starts node needed)
    (closed : ∀ node ∈ nodes, ∀ needed ∈ dependencies node, needed ∈ nodes)
    (returns : Returns dependencies search visiting after)
    (within : ∀ node ∈ visiting, node ∈ nodes)
    (entered : ∀ node ∈ earlier, node ∈ search.visited)
    (shut : ∀ node ∈ search.visited, ∀ needed ∈ dependencies node,
      needed ∈ search.visited)
    (sound : Sound respected nodes [] search) :
    Sound respected nodes [] after := by
  induction visiting generalizing search earlier with
  | nil =>
      cases returns
      exact sound
  | cons root rest inductionHypothesis =>
      obtain ⟨here, withinLater⟩ := List.forall_mem_cons.mp within
      have splitLater := split.trans (List.append_cons earlier root rest)
      cases returns with
      | visited visited later =>
          refine inductionHypothesis splitLater later withinLater ?_ shut sound
          simpa [or_imp, forall_and, visited] using entered
      | @fresh _ left _ _ _ unvisited deeper later =>
          have behind : ∀ other ∈ earlier, ∀ node,
              Relation.ReflTransGen (fun user used => used ∈ dependencies user) other
                node → node ∈ search.visited := by
            intro other among node leads
            induction leads with
            | refl => exact entered other among
            | tail _ depends reached => exact shut _ reached _ depends
          have once : Returns dependencies search [root] (left.leave root) :=
            .fresh unvisited deeper (.nil _)
          have soundLeft : Sound respected nodes [] (left.leave root) := by
            have outside : ∀ node, ∀ needed ∈ respected node,
                needed ∈ dependencies node ∧
                  ∀ path, SearchPath (fun user used => used ∈ dependencies user) earlier
                    root (path ++ [node]) → needed ∉ path ++ [node] := by
              intro node needed member
              obtain ⟨depends, apart⟩ := respects node needed member
              exact ⟨depends, fun path searchPath among =>
                apart ⟨earlier, root, rest, path, split, searchPath, among⟩⟩
            refine once.sound outside closed (by simpa using here) behind ?_ sound
            intro node member new
            rw [List.mem_singleton.mp member] at new ⊢
            exact .root fun other among leads => new (behind other among root leads)
          refine inductionHypothesis splitLater later withinLater ?_ ?_ soundLeft
          · intro node member
            rcases List.mem_append.mp member with before | last
            · exact once.grows (entered node before)
            · exact once.visits node last
          · intro node reached needed depends
            by_cases before : node ∈ search.visited
            · exact once.grows (shut node before needed depends)
            · exact once.closes node reached before needed depends

end Returns

section Bound

variable [DecidableEq Node]
variable {dependencies : Node → List Node}
variable {nodes : List Node}

/-- The nodes that a search has not entered. -/
def unvisited (nodes : List Node) (search : DepthFirst Node) : Finset Node :=
  nodes.toFinset \ search.visited.toFinset

/-- Fewer nodes are left after one has been entered. -/
theorem card_unvisited_enter
    {search : DepthFirst Node}
    {node : Node}
    (member : node ∈ nodes)
    (fresh : node ∉ search.visited) :
    (unvisited nodes (search.enter node)).card < (unvisited nodes search).card := by
  apply Finset.card_lt_card
  rw [Finset.ssubset_iff_of_subset]
  · exact ⟨node, by simp [unvisited, member, fresh], by simp [unvisited, enter]⟩
  · intro other
    simp only [unvisited, enter, Finset.mem_sdiff, List.mem_toFinset,
      List.mem_cons, not_or]
    tauto

/-- No more nodes are left later. -/
theorem card_unvisited_le
    {search after : DepthFirst Node}
    (grows : search.visited ⊆ after.visited) :
    (unvisited nodes after).card ≤ (unvisited nodes search).card := by
  apply Finset.card_le_card
  intro node
  simp only [unvisited, Finset.mem_sdiff, List.mem_toFinset]
  exact fun left => ⟨left.1, fun visited => left.2 (grows visited)⟩

/-- A search whose bound is the number of nodes it has not entered returns, and is
not cut off by the bound. -/
theorem returns_foldl_visit
    (closed : ∀ node ∈ nodes, ∀ needed ∈ dependencies node, needed ∈ nodes)
    {depth : ℕ}
    {search : DepthFirst Node}
    {visiting : List Node}
    (within : ∀ node ∈ visiting, node ∈ nodes)
    (enough : (unvisited nodes search).card ≤ depth) :
    Returns dependencies search visiting
      (visiting.foldl (visit dependencies depth) search) := by
  induction depth generalizing search visiting with
  | zero =>
      induction visiting with
      | nil => exact .nil search
      | cons node rest inductionHypothesis =>
          obtain ⟨here, later⟩ := List.forall_mem_cons.mp within
          have visited : node ∈ search.visited := by
            by_contra fresh
            have fewer := card_unvisited_enter here fresh
            omega
          exact .visited visited (inductionHypothesis later)
  | succ depth depthHypothesis =>
      induction visiting generalizing search with
      | nil => exact .nil search
      | cons node rest inductionHypothesis =>
          obtain ⟨here, later⟩ := List.forall_mem_cons.mp within
          rw [List.foldl_cons, visit]
          split_ifs with visited
          · exact .visited visited (inductionHypothesis later enough)
          · have fewer := card_unvisited_enter here visited
            have deeper : Returns dependencies (search.enter node)
                (dependencies node) _ :=
              depthHypothesis (closed node here) (by omega)
            refine .fresh visited deeper (inductionHypothesis later ?_)
            have grows : search.visited ⊆
                (((dependencies node).foldl (visit dependencies depth)
                  (search.enter node)).leave node).visited :=
              fun other member => deeper.grows (List.mem_cons_of_mem node member)
            exact (card_unvisited_le grows).trans enough

/-- The search from all nodes returns, whatever they depend on. -/
theorem returns_sort
    (closed : ∀ node ∈ nodes, ∀ needed ∈ dependencies node, needed ∈ nodes) :
    ∃ search, Returns dependencies ⟨[], []⟩ nodes search ∧
      search.order = sort dependencies nodes.length nodes := by
  refine ⟨_, returns_foldl_visit closed (fun _ member => member) ?_, rfl⟩
  simpa [unvisited] using nodes.toFinset_card_le

/-- The search from all nodes ends soundly, with all of them entered. -/
theorem exists_sound
    {respected : Node → List Node}
    (respects : ∀ node, ∀ needed ∈ respected node,
      needed ∈ dependencies node ∧
        ¬EnteredInside (fun user used => used ∈ dependencies user) nodes node needed)
    (closed : ∀ node ∈ nodes, ∀ needed ∈ dependencies node, needed ∈ nodes) :
    ∃ search, search.order = sort dependencies nodes.length nodes ∧
      Sound respected nodes [] search ∧ ∀ node ∈ nodes, node ∈ search.visited := by
  obtain ⟨search, returns, same⟩ := returns_sort closed
  have start : Sound respected nodes [] ⟨[], []⟩ :=
    ⟨.nil, by simp, by simp, by simp⟩
  refine ⟨search, same, ?_, returns.visits⟩
  exact returns.sound_from (List.nil_append nodes).symm respects closed
    (fun _ member => member) (by simp) (by simp) start

/-- A search from all nodes lists them, each once, also when some nodes are given
more than once. -/
theorem sort_nodup_and_mem
    (closed : ∀ node ∈ nodes, ∀ needed ∈ dependencies node, needed ∈ nodes) :
    (sort dependencies nodes.length nodes).Nodup ∧
      ∀ node, node ∈ sort dependencies nodes.length nodes ↔ node ∈ nodes := by
  have respects : ∀ node, ∀ needed ∈ ([] : List Node),
      needed ∈ dependencies node ∧
        ¬EnteredInside (fun user used => used ∈ dependencies user) nodes node needed := by
    simp
  obtain ⟨search, same, sound, entered⟩ := exists_sound respects closed
  rw [← same]
  refine ⟨sound.ordered.nodup, fun node => ⟨sound.within node, fun member => ?_⟩⟩
  exact ((sound.visited node).mp (entered node member)).resolve_right (by simp)

/-- A search from distinct nodes puts them in another order. -/
theorem sort_perm
    (closed : ∀ node ∈ nodes, ∀ needed ∈ dependencies node, needed ∈ nodes)
    (distinct : nodes.Nodup) :
    (sort dependencies nodes.length nodes).Perm nodes := by
  obtain ⟨once, same⟩ := sort_nodup_and_mem closed
  exact (List.perm_ext_iff_of_nodup once distinct).mpr same

/-- A search from all nodes puts each after those of its dependencies that it cannot
be inside of when it enters the node. -/
theorem sort_ordered
    {respected : Node → List Node}
    (respects : ∀ node, ∀ needed ∈ respected node,
      needed ∈ dependencies node ∧
        ¬EnteredInside (fun user used => used ∈ dependencies user) nodes node needed)
    (closed : ∀ node ∈ nodes, ∀ needed ∈ dependencies node, needed ∈ nodes) :
    DependencyOrder respected (sort dependencies nodes.length nodes) := by
  obtain ⟨search, same, sound, _⟩ := exists_sound respects closed
  rw [← same]
  exact sound.ordered

/-- A search from all nodes puts each after what it depends on, when nothing depends
on itself. -/
theorem sort_ordered_of_acyclic
    (closed : ∀ node ∈ nodes, ∀ needed ∈ dependencies node, needed ∈ nodes)
    (acyclic : ∀ node,
      ¬Relation.TransGen (fun user used => used ∈ dependencies user) node node) :
    DependencyOrder dependencies (sort dependencies nodes.length nodes) :=
  sort_ordered (fun _ needed depends =>
    ⟨depends, fun inside => acyclic needed (inside.transGen depends)⟩) closed

end Bound

end DepthFirst
end StarterCpp
