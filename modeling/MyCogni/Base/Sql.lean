import Mathlib.Data.Finset.Card
import Mathlib.Data.List.Nodup
import Mathlib.Order.Interval.Finset.Nat
import Mathlib.Data.Int.Interval
import Mathlib.Tactic.Linarith

/-! Conditions of SQL over columns that may be null. A condition is true, false or unknown: a `WHERE`
or a `CASE` takes a row where it is true, a `CHECK` accepts a row unless it is false. -/

namespace MyCogni.Sql

/-- Unknown where there is no value. -/
abbrev Truth := Option Bool

namespace Truth

def and : Truth → Truth → Truth
  | some false, _ | _, some false => some false
  | some true, some true => some true
  | _, _ => none

def or : Truth → Truth → Truth
  | some true, _ | _, some true => some true
  | some false, some false => some false
  | _, _ => none

/-- The row is taken. -/
def Holds (t : Truth) : Prop := t = some true

/-- The row is accepted. -/
def Passes (t : Truth) : Prop := t ≠ some false

instance (t : Truth) : Decidable t.Holds := inferInstanceAs (Decidable (t = some true))

instance (t : Truth) : Decidable t.Passes := inferInstanceAs (Decidable (t ≠ some false))

@[simp] theorem holds_and {s t : Truth} : (s.and t).Holds ↔ s.Holds ∧ t.Holds := by
  rcases s with _ | _ | _ <;> rcases t with _ | _ | _ <;> decide

@[simp] theorem holds_or {s t : Truth} : (s.or t).Holds ↔ s.Holds ∨ t.Holds := by
  rcases s with _ | _ | _ <;> rcases t with _ | _ | _ <;> decide

end Truth

/-! ### Comparisons -/

section Comparisons
variable {α : Type}

/-- A comparison with a null is unknown. -/
def compare (p : α → α → Bool) : Option α → Option α → Truth
  | some a, some b => some (p a b)
  | _, _ => none

def eq [DecidableEq α] (a b : Option α) : Truth := compare (fun a b => a = b) a b

def ne [DecidableEq α] (a b : Option α) : Truth := compare (fun a b => a ≠ b) a b

def ge (a b : Option Int) : Truth := compare (fun a b => b ≤ a) a b

def gt (a b : Option Int) : Truth := compare (fun a b => b < a) a b

def isNull (a : Option α) : Truth := some a.isNone

def isNotNull (a : Option α) : Truth := some a.isSome

@[simp] theorem holds_compare {p : α → α → Bool} {a b : Option α} :
    (compare p a b).Holds ↔ ∃ x y, a = some x ∧ b = some y ∧ p x y = true := by
  cases a <;> cases b <;> simp [compare, Truth.Holds]

@[simp] theorem passes_compare {p : α → α → Bool} {a b : Option α} :
    (compare p a b).Passes ↔ ∀ x y, a = some x → b = some y → p x y = true := by
  cases a <;> cases b <;> simp [compare, Truth.Passes]

@[simp] theorem holds_ne [DecidableEq α] {a b : Option α} :
    (ne a b).Holds ↔ ∃ x y, a = some x ∧ b = some y ∧ x ≠ y := by
  simp only [ne, holds_compare, decide_eq_true_eq]

@[simp] theorem holds_eq [DecidableEq α] {a b : Option α} :
    (eq a b).Holds ↔ ∃ x, a = some x ∧ b = some x := by
  simp only [eq, holds_compare, decide_eq_true_eq]
  constructor
  · rintro ⟨x, y, ha, hb, rfl⟩
    exact ⟨x, ha, hb⟩
  · rintro ⟨x, ha, hb⟩
    exact ⟨x, x, ha, hb, rfl⟩

/-- A column that is null is not unequal to anything. -/
theorem not_holds_ne [DecidableEq α] {a : Option α} {b : α} :
    ¬(ne a (some b)).Holds ↔ ∀ x, a = some x → x = b := by
  rw [holds_ne]
  constructor
  · intro h x hx
    by_contra hne
    exact h ⟨x, b, hx, rfl, hne⟩
  · rintro h ⟨x, y, hx, hy, hne⟩
    cases hy
    exact hne (h x hx)

theorem holds_eq_some [DecidableEq α] {a b : α} : (eq (some a) (some b)).Holds ↔ a = b := by
  rw [holds_eq]
  constructor
  · rintro ⟨x, ha, hb⟩
    exact (Option.some.inj ha).trans (Option.some.inj hb).symm
  · rintro rfl
    exact ⟨a, rfl, rfl⟩

@[simp] theorem holds_some {b : Bool} : Truth.Holds (some b) ↔ b = true := by
  simp [Truth.Holds]

@[simp] theorem passes_some {b : Bool} : Truth.Passes (some b) ↔ b = true := by
  simp [Truth.Passes]

end Comparisons

/-! ### Aggregates -/

/-- The sum of a `CASE` of one and zero; the sum over no rows is null. -/
def sumCase {α : Type} (rows : List α) (p : α → Truth) : Option Int :=
  if rows = [] then none else some (rows.countP fun r => (p r).Holds)

def count {α : Type} (rows : List α) (p : α → Truth) : Int := rows.countP fun r => (p r).Holds

/-- `LEFT JOIN`: a row that meets no row of the other table stands with a null. -/
def leftJoin {α β : Type} (rows : List α) (others : List β) (on : α → β → Truth) :
    List (α × Option β) :=
  rows.flatMap fun a =>
    match others.filter fun b => (on a b).Holds with
    | [] => [(a, none)]
    | hits => hits.map fun b => (a, some b)

theorem mem_leftJoin {α β : Type} {rows : List α} {others : List β} {on : α → β → Truth} {a : α}
    {o : Option β} : (a, o) ∈ leftJoin rows others on ↔ a ∈ rows ∧
      ((∃ b ∈ others, (on a b).Holds ∧ o = some b) ∨ o = none ∧ ∀ b ∈ others, ¬(on a b).Holds) := by
  unfold leftJoin
  rw [List.mem_flatMap]
  have hhits (x : α) : (a, o) ∈ (match others.filter fun b => (on x b).Holds with
      | [] => [(x, none)]
      | hits => hits.map fun b => (x, some b)) ↔ a = x ∧
        ((∃ b ∈ others, (on x b).Holds ∧ o = some b) ∨ o = none ∧ ∀ b ∈ others, ¬(on x b).Holds) := by
    split
    · next hnone =>
      have hno : ∀ b ∈ others, ¬(on x b).Holds := by simpa using hnone
      simp only [List.mem_singleton, Prod.mk.injEq]
      refine and_congr_right fun _ => ⟨fun ho => Or.inr ⟨ho, hno⟩, ?_⟩
      rintro (⟨b, hb, hon, -⟩ | ⟨ho, -⟩)
      · exact absurd hon (hno b hb)
      · exact ho
    · next hsome =>
      have hsome' : ∃ b ∈ others, (on x b).Holds := by
        by_contra hne
        refine hsome (List.filter_eq_nil_iff.mpr fun b hb hon => hne ⟨b, hb, by simpa using hon⟩)
      simp only [List.mem_map, List.mem_filter, decide_eq_true_eq, Prod.mk.injEq]
      constructor
      · rintro ⟨b, ⟨hb, hon⟩, rfl, rfl⟩
        exact ⟨rfl, Or.inl ⟨b, hb, hon, rfl⟩⟩
      · rintro ⟨rfl, ⟨b, hb, hon, rfl⟩ | ⟨-, hno⟩⟩
        · exact ⟨b, ⟨hb, hon⟩, rfl, rfl⟩
        · obtain ⟨b, hb, hon⟩ := hsome'
          exact absurd hon (hno b hb)
  constructor
  · rintro ⟨x, hx, h⟩
    obtain ⟨rfl, h⟩ := (hhits x).mp h
    exact ⟨hx, h⟩
  · rintro ⟨ha, h⟩
    exact ⟨a, ha, (hhits a).mpr ⟨rfl, h⟩⟩

/-- No row of the join is counted. -/
theorem count_leftJoin_eq_zero {α β : Type} {rows : List α} {others : List β} {on : α → β → Truth}
    {p : α × Option β → Truth} : count (leftJoin rows others on) p = 0 ↔
      ∀ a ∈ rows, (∀ b ∈ others, (on a b).Holds → ¬(p (a, some b)).Holds) ∧
        ((∀ b ∈ others, ¬(on a b).Holds) → ¬(p (a, none)).Holds) := by
  have hzero : count (leftJoin rows others on) p = 0 ↔
      ∀ x ∈ leftJoin rows others on, ¬(p x).Holds := by
    rw [count, Int.natCast_eq_zero, List.countP_eq_zero]
    simp only [decide_eq_true_eq]
  rw [hzero]
  constructor
  · intro h a ha
    refine ⟨fun b hb hon => h _ (mem_leftJoin.mpr ⟨ha, Or.inl ⟨b, hb, hon, rfl⟩⟩), fun hno => ?_⟩
    exact h _ (mem_leftJoin.mpr ⟨ha, Or.inr ⟨rfl, hno⟩⟩)
  · rintro h ⟨a, o⟩ hx
    obtain ⟨ha, ⟨b, hb, hon, rfl⟩ | ⟨rfl, hno⟩⟩ := mem_leftJoin.mp hx
    · exact (h a ha).1 b hb hon
    · exact (h a ha).2 hno

/-! ### Gapless sequences -/

/-- The aggregates of all numbers from one to `n`. -/
theorem bounds_of_mem_iff {ns : List Int} {n : Int} (hnodup : ns.Nodup) (hn : 1 ≤ n)
    (hmem : ∀ i, i ∈ ns ↔ 1 ≤ i ∧ i ≤ n) :
    (ns.length : Int) = n ∧ ns.min? = some 1 ∧ ns.max? = some n := by
  have hall : ns.toFinset = Finset.Icc 1 n := by
    ext i
    rw [List.mem_toFinset, hmem, Finset.mem_Icc]
  have hlength := List.toFinset_card_of_nodup hnodup
  rw [hall, Int.card_Icc] at hlength
  refine ⟨by omega, ?_, ?_⟩
  · exact List.min?_eq_some_iff.mpr ⟨(hmem 1).mpr ⟨le_refl 1, hn⟩, fun i hi => ((hmem i).mp hi).1⟩
  · exact List.max?_eq_some_iff.mpr ⟨(hmem n).mpr ⟨hn, le_refl n⟩, fun i hi => ((hmem i).mp hi).2⟩

/-- One row is counted: there is one, and no other. -/
theorem countP_eq_one {α : Type} {rows : List α} {p : α → Bool} (hnodup : rows.Nodup) :
    rows.countP p = 1 ↔ ∃ r ∈ rows, p r = true ∧ ∀ r' ∈ rows, p r' = true → r' = r := by
  rw [List.countP_eq_length_filter, List.length_eq_one_iff]
  constructor
  · rintro ⟨r, hr⟩
    have hmem : ∀ x, x ∈ rows.filter p ↔ x = r := fun x => by rw [hr, List.mem_singleton]
    obtain ⟨hr, hp⟩ := List.mem_filter.mp ((hmem r).mpr rfl)
    exact ⟨r, hr, hp, fun r' hr' hp' => (hmem r').mp (List.mem_filter.mpr ⟨hr', hp'⟩)⟩
  · rintro ⟨r, hr, hp, honly⟩
    refine ⟨r, ?_⟩
    have hperm : (rows.filter p).Perm [r] := by
      refine (List.perm_ext_iff_of_nodup (hnodup.filter p) (List.nodup_singleton r)).mpr fun x => ?_
      rw [List.mem_filter, List.mem_singleton]
      exact ⟨fun hx => honly x hx.1 hx.2, fun hx => hx ▸ ⟨hr, hp⟩⟩
    exact List.perm_singleton.mp hperm

end MyCogni.Sql
