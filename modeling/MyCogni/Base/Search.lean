import Mathlib.Data.Finset.Card
import Mathlib.Logic.Relation

/-! Depth-first search for cycles, with the nodes that are being visited and the nodes that have been
visited shared by all calls. It reports nothing just where the graph has no cycle. -/

namespace MyCogni.Search

variable {α ε : Type}

structure State (α ε : Type) where
  visiting : Finset α
  visited : Finset α
  errors : List ε

/-- The edges of the graph. -/
def Edge (next : α → List α) (a b : α) : Prop := b ∈ next a

/-! ### What no visit takes back -/

structure Grows (s s' : State α ε) : Prop where
  visiting : s'.visiting = s.visiting
  visited : s.visited ⊆ s'.visited
  errors : s.errors <+: s'.errors

theorem Grows.refl (s : State α ε) : Grows s s := ⟨rfl, subset_rfl, List.prefix_rfl⟩

theorem Grows.trans {a b c : State α ε} (h : Grows a b) (h' : Grows b c) : Grows a c :=
  ⟨h'.visiting.trans h.visiting, h.visited.trans h'.visited, h.errors.trans h'.errors⟩

/-- Errors that are the same in the end are the same in between. -/
theorem Grows.between {a b c : State α ε} (h : Grows a b) (h' : Grows b c) (heq : c.errors = a.errors) :
    b.errors = a.errors ∧ c.errors = b.errors := by
  have hle := h.errors.length_le
  have hle' := h'.errors.length_le
  rw [heq] at hle'
  have hb := h.errors.eq_of_length (le_antisymm hle hle')
  exact ⟨hb.symm, heq.trans hb⟩

/-- What has been visited is closed, free of cycles, and apart from what is being visited. -/
structure Explored (next : α → List α) (s : State α ε) : Prop where
  disjoint : Disjoint s.visiting s.visited
  closed : ∀ a ∈ s.visited, ∀ b ∈ next a, b ∈ s.visited
  acyclic : ∀ a ∈ s.visited, ¬Relation.TransGen (Edge next) a a

theorem Explored.reach {next : α → List α} {s : State α ε} (h : Explored next s) {a b : α}
    (ha : a ∈ s.visited) (hab : Relation.ReflTransGen (Edge next) a b) : b ∈ s.visited := by
  induction hab with
  | refl => exact ha
  | tail _ hbc ih => exact h.closed _ ih _ hbc

/-! ### Many visits, one after the other -/

section Fold
variable {f : State α ε → α → State α ε} (hf : ∀ s d, Grows s (f s d))
include hf

theorem grows_foldl (ds : List α) (s : State α ε) : Grows s (ds.foldl f s) := by
  induction ds generalizing s with
  | nil => exact Grows.refl s
  | cons d ds ih => exact (hf s d).trans (ih (f s d))

theorem foldl_congr {g : State α ε → α → State α ε} {visiting : Finset α} {ds : List α} {s : State α ε}
    (hds : ∀ d ∈ ds, ∀ s', s'.visiting = visiting → g s' d = f s' d) (hs : s.visiting = visiting) :
    ds.foldl g s = ds.foldl f s := by
  induction ds generalizing s with
  | nil => rfl
  | cons d ds ih =>
    rw [List.foldl_cons, List.foldl_cons, hds d List.mem_cons_self s hs]
    exact ih (fun x hx => hds x (List.mem_cons_of_mem d hx)) ((hf s d).visiting.trans hs)

end Fold

/-! ### The search -/

variable [DecidableEq α]

def State.enter (s : State α ε) (node : α) : State α ε := { s with visiting := insert node s.visiting }

def State.leave (s : State α ε) (node : α) : State α ε :=
  { s with visiting := s.visiting.erase node, visited := insert node s.visited }

/-- The visit of a node at the end of a chain, where `next` lists the successors and `report` makes an
error of a chain that has come back to one of its nodes; calls are nested so many deep at most. -/
def visit (next : α → List α) (report : List α → ε) : Nat → α → List α → State α ε → State α ε
  | 0, _, _, s => s
  | depth + 1, node, chain, s =>
    if node ∈ s.visiting then { s with errors := s.errors ++ [report (chain ++ [node])] }
    else if node ∈ s.visited then s
    else
      ((next node).foldl (fun s d => visit next report depth d (chain ++ [node]) s) (s.enter node)).leave node

/-- One visit from each of the roots. -/
def search (next : α → List α) (report : List α → ε) (depth : Nat) (roots : List α) (errors : List ε) :
    State α ε :=
  roots.foldl (fun s root => visit next report depth root [] s) { visiting := ∅, visited := ∅, errors }

variable {next : α → List α} {report : List α → ε}

theorem visit_grows (depth : Nat) (node : α) (chain : List α) (s : State α ε) :
    Grows s (visit next report depth node chain s) := by
  induction depth generalizing node chain s with
  | zero => exact Grows.refl s
  | succ depth ih =>
    rw [visit]
    split_ifs with hvisiting hvisited
    · exact ⟨rfl, subset_rfl, List.prefix_append _ _⟩
    · exact Grows.refl s
    · have hgrows := grows_foldl (fun s d => ih d (chain ++ [node]) s) (next node) (s.enter node)
      refine ⟨?_, hgrows.visited.trans (Finset.subset_insert _ _), hgrows.errors⟩
      rw [State.leave, hgrows.visiting, State.enter, Finset.erase_insert hvisiting]

/-- A node all of whose successors have been visited is on no cycle. -/
theorem Explored.leave {s : State α ε} {visiting : Finset α} {node : α} (h : Explored next s)
    (hs : s.visiting = insert node visiting) (hnode : node ∉ visiting)
    (hall : ∀ d ∈ next node, d ∈ s.visited) : Explored next (s.leave node) := by
  have hdisjoint : Disjoint (insert node visiting) s.visited := hs ▸ h.disjoint
  have hfresh : node ∉ s.visited := Finset.disjoint_left.mp hdisjoint (Finset.mem_insert_self _ _)
  refine ⟨?_, fun a ha b hb => ?_, fun a ha hcycle => ?_⟩
  · rw [State.leave, hs, Finset.erase_insert hnode, Finset.disjoint_insert_right]
    exact ⟨hnode, (Finset.disjoint_insert_left.mp hdisjoint).2⟩
  · rcases Finset.mem_insert.mp ha with rfl | ha
    · exact Finset.mem_insert_of_mem (hall b hb)
    · exact Finset.mem_insert_of_mem (h.closed a ha b hb)
  · rcases Finset.mem_insert.mp ha with rfl | ha
    · obtain ⟨d, hd, hback⟩ := Relation.TransGen.head'_iff.mp hcycle
      exact hfresh (h.reach (hall d hd) hback)
    · exact h.acyclic a ha hcycle

section Depth
variable {nodes : Finset α} (hnodes : ∀ a, next a ≠ [] → a ∈ nodes)
include hnodes

/-- One more node that is being visited leaves one less that is not. -/
theorem card_lt {visiting : Finset α} {node d : α} {depth : Nat} (hnode : node ∉ visiting)
    (hd : d ∈ next node) (h : (nodes \ visiting).card < depth + 1) :
    (nodes \ insert node visiting).card < depth := by
  have hmem : node ∈ nodes \ visiting :=
    Finset.mem_sdiff.mpr ⟨hnodes node (List.ne_nil_of_mem hd), hnode⟩
  have hlt : (nodes \ insert node visiting).card < (nodes \ visiting).card := by
    rw [Finset.sdiff_insert]
    exact Finset.card_erase_lt_of_mem hmem
  omega

/-- More depth changes nothing where there is enough. -/
theorem visit_depth {depth depth' : Nat} (node : α) (chain : List α) (s : State α ε)
    (hdepth : (nodes \ s.visiting).card < depth) (hle : depth ≤ depth') :
    visit next report depth' node chain s = visit next report depth node chain s := by
  induction depth generalizing depth' node chain s with
  | zero => exact absurd hdepth (Nat.not_lt_zero _)
  | succ depth ih =>
    obtain ⟨depth', rfl⟩ : ∃ n, depth' = n + 1 := ⟨depth' - 1, by omega⟩
    rw [visit, visit]
    split_ifs with hvisiting hvisited
    · rfl
    · rfl
    · congr 1
      refine foldl_congr (fun s d => visit_grows depth d (chain ++ [node]) s) (fun d hd s' hs' => ?_) rfl
      exact ih d _ s' (hs' ▸ card_lt hnodes hvisiting hd hdepth) (by omega)

/-- A search with enough depth is the search without a bound on the depth. -/
theorem search_depth {depth depth' : Nat} {roots : List α} {errors : List ε} (hdepth : nodes.card < depth)
    (hle : depth ≤ depth') :
    search next report depth' roots errors = search next report depth roots errors := by
  refine foldl_congr (fun s root => visit_grows depth root [] s) (fun root _ s' hs' => ?_) rfl
  refine visit_depth hnodes root [] s' ?_ hle
  rw [hs', Finset.sdiff_empty]
  exact hdepth

end Depth

end MyCogni.Search
