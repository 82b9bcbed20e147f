import ImportDispatch.Proofs.Workflow.Order
import ImportDispatch.Workflow
/-!
# Building a workflow decides whether its graph is sound

`NodeList.Sound` says what a graph has to be, without a search and without an order of checks, and `FirstFault` says
what the first thing wrong with a draft is.  Building gives the workflow of the draft if its graph is sound, and
otherwise fails with the first fault; only where a cycle is reported the node that is told depends on the search.
-/
namespace ImportDispatch

open Relation (ReflTransGen TransGen)

/-- An error without the node that a cycle is reported at. -/
def DefinitionError.unplaced : DefinitionError → DefinitionError
  | cycle _ => cycle []
  | e => e

namespace NodeList

/-! ## Sound graphs -/

/-- A transition that some node declares. -/
def LeadsTo (nodes : List Node) (x y : Text) : Prop := ∃ node ∈ nodes, node.name = x ∧ y ∈ node.successors

/-- Some node leads to the name. -/
def Entered (nodes : List Node) (name : Text) : Prop := ∃ node ∈ nodes, name ∈ node.successors

/-- The name of a fixed node or of a listed one. -/
def Defined (nodes : List Node) (name : Text) : Prop := isFixedName name = true ∨ name ∈ nodes.map Node.name

/-- No transitions lead back to where they started. -/
def Acyclic (nodes : List Node) : Prop := ∀ x, ¬ TransGen (LeadsTo nodes) x x

structure WellNamed (nodes : List Node) : Prop where
  free : ∀ node ∈ nodes, isFixedName node.name = false
  distinct : (nodes.map Node.name).Nodup

/-- What a list of nodes has to be to become a workflow. -/
structure Sound (start : Text) (nodes : List Node) : Prop extends WellNamed nodes where
  start_listed : start ∈ nodes.map Node.name
  defined : ∀ node ∈ nodes, ∀ target ∈ node.successors, Defined nodes target
  acyclic : Acyclic nodes
  start_not_entered : ¬ Entered nodes start
  others_entered : ∀ node ∈ nodes, node.name ≠ start → Entered nodes node.name

/-- The first thing that is wrong with a list of nodes.  Each case states that everything that is looked at before is in
order: first the names, node by node, then the start, then the transitions, node by node and in the order of the
branches, then cycles, then whether the nodes are entered, node by node. -/
inductive FirstFault (start : Text) (nodes : List Node) : DefinitionError → Prop
  | reserved {front rest : List Node} {node : Node} (split : nodes = front ++ node :: rest) (before : WellNamed front)
    (h : isFixedName node.name = true) : FirstFault start nodes (.reservedName node.name)
  | duplicate {front rest : List Node} {node : Node} (split : nodes = front ++ node :: rest) (before : WellNamed front)
    (free : isFixedName node.name = false) (h : node.name ∈ front.map Node.name) :
    FirstFault start nodes (.duplicateNode node.name)
  | unknownStart (named : WellNamed nodes) (h : start ∉ nodes.map Node.name) :
    FirstFault start nodes (.unknownStart start)
  | dangling {front rest : List Node} {node : Node} {targets others : List Text} {target : Text}
    (named : WellNamed nodes) (listed : start ∈ nodes.map Node.name) (split : nodes = front ++ node :: rest)
    (before : ∀ earlier ∈ front, ∀ target ∈ earlier.successors, Defined nodes target)
    (branches : node.successors = targets ++ target :: others) (within : ∀ earlier ∈ targets, Defined nodes earlier)
    (h : ¬ Defined nodes target) : FirstFault start nodes (.danglingTransition node.name target)
  | cycle (named : WellNamed nodes) (listed : start ∈ nodes.map Node.name)
    (defined : ∀ node ∈ nodes, ∀ target ∈ node.successors, Defined nodes target) (h : ¬ Acyclic nodes) :
    FirstFault start nodes (.cycle [])
  | startEntered {front rest : List Node} {node : Node} (named : WellNamed nodes) (listed : start ∈ nodes.map Node.name)
    (defined : ∀ node ∈ nodes, ∀ target ∈ node.successors, Defined nodes target) (acyclic : Acyclic nodes)
    (split : nodes = front ++ node :: rest)
    (before : ∀ earlier ∈ front, Entered nodes earlier.name ↔ earlier.name ≠ start)
    (first : node.name = start) (h : Entered nodes start) : FirstFault start nodes (.startHasPredecessor start)
  | orphan {front rest : List Node} {node : Node} (named : WellNamed nodes) (listed : start ∈ nodes.map Node.name)
    (defined : ∀ node ∈ nodes, ∀ target ∈ node.successors, Defined nodes target) (acyclic : Acyclic nodes)
    (split : nodes = front ++ node :: rest)
    (before : ∀ earlier ∈ front, Entered nodes earlier.name ↔ earlier.name ≠ start)
    (other : node.name ≠ start) (h : ¬ Entered nodes node.name) : FirstFault start nodes (.orphan node.name)

/-! ## Names -/

theorem nameError?_append : ∀ (names : List Text) (front rest : List Node),
    nameError? names (front ++ rest) = (nameError? names front).or (nameError? (names ++ front.map Node.name) rest)
  | names, [], rest => by simp [nameError?]
  | names, node :: front, rest => by
    rw [List.cons_append, nameError?, nameError?]
    split
    · rfl
    · split
      · rfl
      · rw [nameError?_append, List.map_cons, List.append_assoc, List.singleton_append]

theorem nameError?_eq_none : ∀ (names : List Text) (nodes : List Node),
    nameError? names nodes = none ↔ WellNamed nodes ∧ ∀ node ∈ nodes, node.name ∉ names
  | names, [] => by simpa [nameError?] using ⟨by simp, by simp⟩
  | names, node :: rest => by
    rw [nameError?]
    constructor
    · intro h
      split at h
      · cases h
      split at h
      · cases h
      rename_i hfree hnew
      obtain ⟨hrest, hout⟩ := (nameError?_eq_none _ rest).1 h
      simp only [List.mem_append, List.mem_singleton, not_or] at hout
      refine ⟨⟨?_, ?_⟩, ?_⟩
      · rintro other (_ | ⟨_, ho⟩)
        · simpa using hfree
        · exact hrest.free other ho
      · rw [List.map_cons, List.nodup_cons]
        refine ⟨fun hm => ?_, hrest.distinct⟩
        obtain ⟨other, ho, he⟩ := List.mem_map.1 hm
        exact (hout other ho).2 he
      · rintro other (_ | ⟨_, ho⟩)
        · exact hnew
        · exact (hout other ho).1
    · rintro ⟨⟨hfree, hdistinct⟩, hnew⟩
      rw [List.map_cons, List.nodup_cons] at hdistinct
      rw [if_neg (by simp [hfree node List.mem_cons_self]), if_neg (hnew node List.mem_cons_self),
        nameError?_eq_none]
      refine ⟨⟨fun other ho => hfree other (List.mem_cons_of_mem _ ho), hdistinct.2⟩, fun other ho hm => ?_⟩
      rcases List.mem_append.1 hm with hm | hm
      · exact hnew other (List.mem_cons_of_mem _ ho) hm
      · exact hdistinct.1 (List.mem_singleton.1 hm ▸ List.mem_map_of_mem ho)

theorem wellNamed_iff (nodes : List Node) : nameError? [] nodes = none ↔ WellNamed nodes := by
  simp [nameError?_eq_none]

theorem nameError?_split : ∀ (names : List Text) (nodes : List Node) (e : DefinitionError),
    nameError? names nodes = some e → ∃ front node rest, nodes = front ++ node :: rest ∧ nameError? names front = none ∧
      nameError? (names ++ front.map Node.name) [node] = some e
  | names, [], e, h => by cases h
  | names, node :: rest, e, h => by
    cases hn : nameError? names [node] with
    | some e' =>
      rw [← List.singleton_append, nameError?_append, hn] at h
      exact ⟨[], node, rest, rfl, rfl, by simpa [hn] using h⟩
    | none =>
      rw [← List.singleton_append, nameError?_append, hn, Option.none_or] at h
      obtain ⟨front, other, back, rfl, hf, ho⟩ := nameError?_split _ rest e h
      refine ⟨node :: front, other, back, rfl, ?_, ?_⟩
      · rw [← List.singleton_append, nameError?_append, hn, hf]; rfl
      · rwa [List.append_assoc] at ho

theorem nameError?_eq_some {nodes : List Node} {e : DefinitionError} :
    nameError? [] nodes = some e ↔ ∃ front node rest, nodes = front ++ node :: rest ∧ WellNamed front ∧
      ((isFixedName node.name = true ∧ e = .reservedName node.name) ∨
        (isFixedName node.name = false ∧ node.name ∈ front.map Node.name ∧ e = .duplicateNode node.name)) := by
  have hone : ∀ (names : List Text) (node : Node), nameError? names [node] = some e ↔
      (isFixedName node.name = true ∧ e = .reservedName node.name) ∨
        (isFixedName node.name = false ∧ node.name ∈ names ∧ e = .duplicateNode node.name) := by
    intro names node
    rw [nameError?]
    by_cases hf : isFixedName node.name = true
    · simp [hf, eq_comm]
    · by_cases hm : node.name ∈ names <;> simp [hf, hm, nameError?, eq_comm]
  constructor
  · intro h
    obtain ⟨front, node, rest, hs, hf, hn⟩ := nameError?_split [] nodes e h
    exact ⟨front, node, rest, hs, (wellNamed_iff front).1 hf, (hone _ node).1 hn⟩
  · rintro ⟨front, node, rest, rfl, hf, hn⟩
    rw [nameError?_append, (wellNamed_iff front).2 hf, Option.none_or, List.nil_append, ← List.singleton_append,
      nameError?_append, (hone _ node).2 hn]
    rfl

/-! ## Transitions -/

theorem undefined_iff (nodes : List Node) (target : Text) :
    (!isFixedName target && !(nodes.map Node.name).elem target) = true ↔ ¬ Defined nodes target := by
  simp [Defined]

theorem danglingError?_eq_none {nodes : List Node} :
    danglingError? nodes = none ↔ ∀ node ∈ nodes, ∀ target ∈ node.successors, Defined nodes target := by
  unfold danglingError?
  simp only [List.findSome?_eq_none_iff, Option.map_eq_none_iff, List.find?_eq_none, undefined_iff, not_not]

theorem danglingError?_eq_some {nodes : List Node} {e : DefinitionError} :
    danglingError? nodes = some e ↔ ∃ front node rest targets target others, nodes = front ++ node :: rest ∧
      (∀ earlier ∈ front, ∀ target ∈ earlier.successors, Defined nodes target) ∧
      node.successors = targets ++ target :: others ∧ (∀ earlier ∈ targets, Defined nodes earlier) ∧
      ¬ Defined nodes target ∧ e = .danglingTransition node.name target := by
  unfold danglingError?
  simp only [List.findSome?_eq_some_iff, Option.map_eq_some_iff, List.find?_eq_some_iff_append, Option.map_eq_none_iff,
    List.find?_eq_none, undefined_iff, not_not, Bool.not_eq_true', ← Bool.not_eq_true]
  constructor
  · rintro ⟨front, node, rest, hs, ⟨target, ⟨hu, targets, others, hb, hw⟩, rfl⟩, hf⟩
    exact ⟨front, node, rest, targets, target, others, hs, hf, hb, hw, hu, rfl⟩
  · rintro ⟨front, node, rest, targets, target, others, hs, hf, hb, hw, hu, rfl⟩
    exact ⟨front, node, rest, hs, ⟨target, ⟨hu, targets, others, hb, hw⟩, rfl⟩, hf⟩

/-! ## Entries -/

theorem isEntered_iff (nodes : List Node) (name : Text) : isEntered nodes name = true ↔ Entered nodes name := by
  simp [isEntered, Entered]

/-- What is wrong with the entries of one node. -/
def entryFault? (start : Text) (nodes : List Node) (node : Node) : Option DefinitionError :=
  match node.name == start, isEntered nodes node.name with
  | true, true => some (.startHasPredecessor start)
  | false, false => some (.orphan node.name)
  | _, _ => none

theorem entryError?_eq (start : Text) (nodes : List Node) :
    entryError? start nodes = nodes.findSome? (entryFault? start nodes) := rfl

theorem entryFault?_eq_some {start : Text} {nodes : List Node} {node : Node} {e : DefinitionError} :
    entryFault? start nodes node = some e ↔
      (node.name = start ∧ Entered nodes start ∧ e = .startHasPredecessor start) ∨
        (node.name ≠ start ∧ ¬ Entered nodes node.name ∧ e = .orphan node.name) := by
  unfold entryFault?
  by_cases hs : node.name = start
  · rw [hs, beq_self_eq_true, ← isEntered_iff]
    cases isEntered nodes start <;> simp [eq_comm]
  · rw [beq_eq_false_iff_ne.2 hs, ← isEntered_iff nodes node.name]
    cases isEntered nodes node.name <;> simp [hs, eq_comm]

theorem entryFault?_eq_none {start : Text} {nodes : List Node} {node : Node} :
    entryFault? start nodes node = none ↔ (Entered nodes node.name ↔ node.name ≠ start) := by
  rw [← isEntered_iff]
  unfold entryFault?
  by_cases hs : node.name = start
  · rw [hs, beq_self_eq_true]
    cases isEntered nodes start <;> simp
  · rw [beq_eq_false_iff_ne.2 hs]
    cases isEntered nodes node.name <;> simp [hs]

theorem entryError?_eq_none {start : Text} {nodes : List Node} :
    entryError? start nodes = none ↔ ∀ node ∈ nodes, Entered nodes node.name ↔ node.name ≠ start := by
  simp only [entryError?_eq, List.findSome?_eq_none_iff, entryFault?_eq_none]

/-- The error of the first node that is entered though it is the start, or is not though it is another. -/
theorem entryError?_eq_some {start : Text} {nodes : List Node} {e : DefinitionError} :
    entryError? start nodes = some e ↔ ∃ front node rest, nodes = front ++ node :: rest ∧
      ((node.name = start ∧ Entered nodes start ∧ e = .startHasPredecessor start) ∨
        (node.name ≠ start ∧ ¬ Entered nodes node.name ∧ e = .orphan node.name)) ∧
      ∀ earlier ∈ front, Entered nodes earlier.name ↔ earlier.name ≠ start := by
  simp only [entryError?_eq, List.findSome?_eq_some_iff, entryFault?_eq_some, entryFault?_eq_none]

/-! ## Cycles -/

theorem mem_edges {nodes : List Node} {edge : Nat × Nat} :
    edge ∈ edges nodes ↔ ∃ node ∈ nodes, ∃ target ∈ node.successors, target ∈ nodes.map Node.name ∧
      edge = ((nodes.map Node.name).idxOf node.name, (nodes.map Node.name).idxOf target) := by
  have hfold : ∀ (all kept : List (Nat × Nat)),
      edge ∈ all.foldl (fun kept e => if e ∈ kept then kept else kept ++ [e]) kept ↔ edge ∈ kept ∨ edge ∈ all := by
    intro all
    induction all with
    | nil => simp
    | cons e all ih =>
      intro kept
      rw [List.foldl_cons, ih, List.mem_cons]
      split
      · constructor
        · exact Or.imp_right Or.inr
        · rintro (h | rfl | h)
          · exact Or.inl h
          · exact Or.inl (by assumption)
          · exact Or.inr h
      · rw [List.mem_append, List.mem_singleton, or_assoc]
  unfold edges
  rw [hfold]
  simp only [List.not_mem_nil, false_or, List.mem_flatMap, List.mem_map (f := fun target => (_, _)), List.mem_filter,
    List.elem_eq_mem, decide_eq_true_eq, and_assoc, eq_comm (a := edge)]

theorem mem_nextPlaces (edges : List (Nat × Nat)) (x y : Nat) : y ∈ nextPlaces edges x ↔ (x, y) ∈ edges := by
  simp [nextPlaces]

theorem mem_previousPlaces (edges : List (Nat × Nat)) (x y : Nat) : x ∈ previousPlaces edges y ↔ (x, y) ∈ edges := by
  simp [previousPlaces]

def nameAt (nodes : List Node) (place : Nat) : Text := (nodes.map Node.name)[place]?.getD []

theorem nameAt_idxOf {nodes : List Node} {name : Text} (h : name ∈ nodes.map Node.name) :
    nameAt nodes ((nodes.map Node.name).idxOf name) = name := by
  rw [nameAt, List.getElem?_idxOf h, Option.getD_some]

/-- An edge between places is a transition between the names there. -/
theorem leadsTo_of_edge {nodes : List Node} {x y : Nat} (h : Order.Edge (nextPlaces (edges nodes)) x y) :
    LeadsTo nodes (nameAt nodes x) (nameAt nodes y) := by
  obtain ⟨node, hn, target, ht, hl, he⟩ := mem_edges.1 ((mem_nextPlaces _ x y).1 h)
  rw [Prod.mk.injEq] at he
  rw [he.1, he.2, nameAt_idxOf (List.mem_map_of_mem hn), nameAt_idxOf hl]
  exact ⟨node, hn, rfl, ht⟩

theorem listed_of_leadsTo {nodes : List Node} {x y : Text} (h : LeadsTo nodes x y) : x ∈ nodes.map Node.name := by
  obtain ⟨node, hn, rfl, -⟩ := h
  exact List.mem_map_of_mem hn

/-- Transitions from name to name are a way from place to place, if they end at a listed name. -/
theorem places_of_transGen {nodes : List Node} {x y : Text} (h : TransGen (LeadsTo nodes) x y)
    (hy : y ∈ nodes.map Node.name) :
    TransGen (Order.Edge (nextPlaces (edges nodes))) ((nodes.map Node.name).idxOf x)
      ((nodes.map Node.name).idxOf y) := by
  have hedge : ∀ u v, LeadsTo nodes u v → v ∈ nodes.map Node.name →
      Order.Edge (nextPlaces (edges nodes)) ((nodes.map Node.name).idxOf u) ((nodes.map Node.name).idxOf v) := by
    rintro u v ⟨node, hn, rfl, hs⟩ hv
    exact (mem_nextPlaces _ _ _).2 (mem_edges.2 ⟨node, hn, v, hs, hv, rfl⟩)
  induction h with
  | single h => exact TransGen.single (hedge _ _ h hy)
  | tail _ h ih => exact TransGen.tail (ih (listed_of_leadsTo h)) (hedge _ _ h hy)

theorem edge_lt {nodes : List Node} {x y : Nat} (h : y ∈ nextPlaces (edges nodes) x) :
    x < nodes.length ∧ y < nodes.length := by
  obtain ⟨node, hn, target, -, hl, he⟩ := mem_edges.1 ((mem_nextPlaces _ x y).1 h)
  rw [Prod.mk.injEq] at he
  rw [he.1, he.2, ← @List.length_map _ _ nodes Node.name]
  exact ⟨List.idxOf_lt_length_of_mem (List.mem_map_of_mem hn), List.idxOf_lt_length_of_mem hl⟩

theorem cycleError?_eq (nodes : List Node) :
    cycleError? nodes = (Order.cycleNode? nodes.length (nextPlaces (edges nodes)) (previousPlaces (edges nodes))).map
      fun x => .cycle (nameAt nodes x) := by
  unfold cycleError? nameAt
  dsimp only
  cases Order.cycleNode? nodes.length (nextPlaces (edges nodes)) (previousPlaces (edges nodes)) <;> rfl

theorem previous_iff_next (nodes : List Node) (y z : Nat) :
    y ∈ previousPlaces (edges nodes) z ↔ z ∈ nextPlaces (edges nodes) y := by
  rw [mem_previousPlaces, mem_nextPlaces]

/-- The node that is told lies on a cycle of the transitions. -/
theorem cycleError?_eq_some {nodes : List Node} {e : DefinitionError} (h : cycleError? nodes = some e) :
    ∃ x, e = .cycle x ∧ TransGen (LeadsTo nodes) x x := by
  rw [cycleError?_eq, Option.map_eq_some_iff] at h
  obtain ⟨x, hx, rfl⟩ := h
  have hcycle := Order.transGen_of_cycleNode? (fun _ _ hz => (edge_lt hz).2) (previous_iff_next nodes) hx
  exact ⟨nameAt nodes x, rfl, hcycle.lift (nameAt nodes) (fun _ _ => leadsTo_of_edge)⟩

theorem cycleError?_eq_none {nodes : List Node} : cycleError? nodes = none ↔ Acyclic nodes := by
  constructor
  · intro h x hx
    rw [cycleError?_eq, Option.map_eq_none_iff] at h
    have hlisted : x ∈ nodes.map Node.name := by
      obtain ⟨y, hy, -⟩ := TransGen.head'_iff.1 hx
      exact listed_of_leadsTo hy
    exact Order.acyclic_of_cycleNode? (fun _ _ => edge_lt) (previous_iff_next nodes) h _
      (places_of_transGen hx hlisted)
  · intro h
    cases hc : cycleError? nodes with
    | none => rfl
    | some e =>
      obtain ⟨x, -, hx⟩ := cycleError?_eq_some hc
      exact absurd hx (h x)

/-! ## All checks -/

theorem startError?_eq_none {start : Text} {nodes : List Node} :
    (if (nodes.map Node.name).elem start then none else some (DefinitionError.unknownStart start)) = none ↔
      start ∈ nodes.map Node.name := by
  by_cases h : start ∈ nodes.map Node.name <;> simp [h]

theorem startError?_eq_some {start : Text} {nodes : List Node} {e : DefinitionError} :
    (if (nodes.map Node.name).elem start then none else some (DefinitionError.unknownStart start)) = some e ↔
      start ∉ nodes.map Node.name ∧ e = .unknownStart start := by
  by_cases h : start ∈ nodes.map Node.name
  · simp [h]
  · simp [h, eq_comm]

theorem error?_eq_none {start : Text} {nodes : List Node} : error? start nodes = none ↔ Sound start nodes := by
  unfold error?
  simp only [Option.or_eq_none_iff, wellNamed_iff, startError?_eq_none, danglingError?_eq_none, cycleError?_eq_none,
    entryError?_eq_none]
  constructor
  · rintro ⟨hn, hs, hd, hc, he⟩
    refine ⟨hn, hs, hd, hc, ?_, fun node hm hne => (he node hm).2 hne⟩
    obtain ⟨node, hm, rfl⟩ := List.mem_map.1 hs
    exact fun hentered => (he node hm).1 hentered rfl
  · rintro ⟨hn, hs, hd, hc, hstart, hothers⟩
    refine ⟨hn, hs, hd, hc, fun node hm => ⟨?_, hothers node hm⟩⟩
    rintro hentered rfl
    exact hstart hentered

/-- The checks one after the other, each after those before it found nothing. -/
theorem error?_eq_some {start : Text} {nodes : List Node} {e : DefinitionError} :
    error? start nodes = some e ↔ nameError? [] nodes = some e ∨ (WellNamed nodes ∧
      ((start ∉ nodes.map Node.name ∧ e = .unknownStart start) ∨ (start ∈ nodes.map Node.name ∧
        (danglingError? nodes = some e ∨ ((∀ node ∈ nodes, ∀ target ∈ node.successors, Defined nodes target) ∧
          (cycleError? nodes = some e ∨ (Acyclic nodes ∧ entryError? start nodes = some e))))))) := by
  unfold error?
  simp only [Option.or_eq_some_iff, wellNamed_iff, startError?_eq_some, startError?_eq_none, danglingError?_eq_none,
    cycleError?_eq_none]

theorem firstFault_of_error? {start : Text} {nodes : List Node} {e : DefinitionError}
    (h : error? start nodes = some e) : FirstFault start nodes e.unplaced := by
  rcases error?_eq_some.1 h with h | ⟨named, ⟨hs, rfl⟩ | ⟨listed, h | ⟨defined, h | ⟨acyclic, h⟩⟩⟩⟩
  · obtain ⟨front, node, rest, split, before, ⟨hf, rfl⟩ | ⟨free, hd, rfl⟩⟩ := nameError?_eq_some.1 h
    · exact .reserved split before hf
    · exact .duplicate split before free hd
  · exact .unknownStart named hs
  · obtain ⟨front, node, rest, targets, target, others, split, before, branches, within, hu, rfl⟩ :=
      danglingError?_eq_some.1 h
    exact .dangling named listed split before branches within hu
  · obtain ⟨x, rfl, hx⟩ := cycleError?_eq_some h
    exact .cycle named listed defined (fun hc => hc x hx)
  · obtain ⟨front, node, rest, split, ⟨hs, he, rfl⟩ | ⟨hs, he, rfl⟩, before⟩ := entryError?_eq_some.1 h
    · exact .startEntered named listed defined acyclic split before hs he
    · exact .orphan named listed defined acyclic split before hs he

theorem error?_of_firstFault {start : Text} {nodes : List Node} {e : DefinitionError} (h : FirstFault start nodes e) :
    ∃ e', error? start nodes = some e' ∧ e'.unplaced = e := by
  simp only [error?_eq_some]
  cases h with
  | reserved split before h =>
    exact ⟨_, Or.inl (nameError?_eq_some.2 ⟨_, _, _, split, before, Or.inl ⟨h, rfl⟩⟩), rfl⟩
  | duplicate split before free h =>
    exact ⟨_, Or.inl (nameError?_eq_some.2 ⟨_, _, _, split, before, Or.inr ⟨free, h, rfl⟩⟩), rfl⟩
  | unknownStart named h => exact ⟨_, Or.inr ⟨named, Or.inl ⟨h, rfl⟩⟩, rfl⟩
  | dangling named listed split before branches within h =>
    exact ⟨_, Or.inr ⟨named, Or.inr ⟨listed, Or.inl (danglingError?_eq_some.2
      ⟨_, _, _, _, _, _, split, before, branches, within, h, rfl⟩)⟩⟩, rfl⟩
  | cycle named listed defined h =>
    cases hc : cycleError? nodes with
    | none => exact absurd (cycleError?_eq_none.1 hc) h
    | some e =>
      obtain ⟨x, rfl, -⟩ := cycleError?_eq_some hc
      exact ⟨_, Or.inr ⟨named, Or.inr ⟨listed, Or.inr ⟨defined, Or.inl rfl⟩⟩⟩, rfl⟩
  | startEntered named listed defined acyclic split before first h =>
    exact ⟨_, Or.inr ⟨named, Or.inr ⟨listed, Or.inr ⟨defined, Or.inr ⟨acyclic, entryError?_eq_some.2
      ⟨_, _, _, split, Or.inl ⟨first, h, rfl⟩, before⟩⟩⟩⟩⟩, rfl⟩
  | orphan named listed defined acyclic split before other h =>
    exact ⟨_, Or.inr ⟨named, Or.inr ⟨listed, Or.inr ⟨defined, Or.inr ⟨acyclic, entryError?_eq_some.2
      ⟨_, _, _, split, Or.inr ⟨other, h, rfl⟩, before⟩⟩⟩⟩⟩, rfl⟩

end NodeList

/-! ## Drafts -/

namespace WorkflowDraft

open NodeList (Sound)

/-- The first thing that is wrong with a draft: a missing name, a missing start, or what is wrong with its nodes. -/
inductive FirstFault (draft : WorkflowDraft) : DefinitionError → Prop
  | noName (h : draft.name? = none) : FirstFault draft (.missingField "name".toList)
  | noStart {name : Text} (named : draft.name? = some name) (h : draft.start? = none) :
    FirstFault draft (.missingField "start".toList)
  | ofNodes {name start : Text} {e : DefinitionError} (named : draft.name? = some name)
    (started : draft.start? = some start) (h : NodeList.FirstFault start draft.nodes e) : FirstFault draft e

theorem build_eq_ok {draft : WorkflowDraft} {workflow : Workflow} :
    draft.build = .ok workflow ↔ ∃ name start, draft.name? = some name ∧ draft.start? = some start ∧
      Sound start draft.nodes ∧
      workflow = ⟨name, start, draft.killMessage?.getD standardKillMessage, draft.nodes⟩ := by
  unfold build
  cases hn : draft.name? with
  | none => simp
  | some name =>
    cases hs : draft.start? with
    | none => simp
    | some start =>
      simp only [Option.some.injEq, ← NodeList.error?_eq_none]
      cases he : NodeList.error? start draft.nodes with
      | some e => simp [he]
      | none => simp [he, eq_comm]

theorem build_eq_error {draft : WorkflowDraft} {e : DefinitionError} :
    (∃ e', draft.build = .error e' ∧ e'.unplaced = e) ↔ FirstFault draft e := by
  constructor
  · rintro ⟨e', h, rfl⟩
    unfold build at h
    split at h
    · cases h
      exact .noName (by assumption)
    · cases h
      exact .noStart (by assumption) (by assumption)
    · split at h
      · cases h
        exact .ofNodes (by assumption) (by assumption) (NodeList.firstFault_of_error? (by assumption))
      · cases h
  · intro h
    unfold build
    cases h with
    | noName h => rw [h]; exact ⟨_, rfl, rfl⟩
    | noStart named h => rw [named, h]; exact ⟨_, rfl, rfl⟩
    | ofNodes named started h =>
      obtain ⟨e', he, hu⟩ := NodeList.error?_of_firstFault h
      rw [named, started]
      dsimp only
      rw [he]
      exact ⟨e', rfl, hu⟩

/-- **Building succeeds exactly on a draft with a name, a start and a sound graph, and gives its workflow unchanged;
otherwise it fails with the first fault.** -/
theorem build_decides (draft : WorkflowDraft) :
    (∀ workflow, draft.build = .ok workflow ↔ ∃ name start, draft.name? = some name ∧ draft.start? = some start ∧
      Sound start draft.nodes ∧
      workflow = ⟨name, start, draft.killMessage?.getD standardKillMessage, draft.nodes⟩) ∧
    ∀ e, (∃ e', draft.build = .error e' ∧ e'.unplaced = e) ↔ FirstFault draft e :=
  ⟨fun _ => build_eq_ok, fun _ => build_eq_error⟩

end WorkflowDraft
end ImportDispatch
