import Mathlib.Data.List.Nodup
import Mathlib.Algebra.Order.Group.Int
import Mathlib.Data.List.Perm.Basic
import Mathlib.Data.List.Sort
import Mathlib.Algebra.Ring.Int.Defs
import Mathlib.Algebra.Order.BigOperators.Group.List

/-! Insertion-ordered dictionaries with unique keys. Assigning to a present key keeps its
position, assigning to a new key appends it, and deletion closes the gap. Two dictionaries are
compared through their lookups, so their order is visible only to `keys` and `values`. -/

namespace MyCogni

structure Dict (κ ν : Type) where
  entries : List (κ × ν)
  nodup : (entries.map Prod.fst).Nodup
deriving DecidableEq

namespace Dict
variable {κ ν μ : Type}

theorem ext_entries {d d' : Dict κ ν} (h : d.entries = d'.entries) : d = d' := by
  cases d
  cases d'
  simpa using h

def empty : Dict κ ν := ⟨[], List.nodup_nil⟩

def keys (d : Dict κ ν) : List κ := d.entries.map Prod.fst

def values (d : Dict κ ν) : List ν := d.entries.map Prod.snd

def size (d : Dict κ ν) : Nat := d.entries.length

def sum (d : Dict κ ν) (f : ν → Int) : Int := (d.entries.map fun e => f e.2).sum

def filter (d : Dict κ ν) (p : κ → ν → Bool) : Dict κ ν :=
  ⟨d.entries.filter fun e => p e.1 e.2, d.nodup.sublist (List.filter_sublist.map _)⟩

def mapValues (d : Dict κ ν) (f : ν → μ) : Dict κ μ :=
  ⟨d.entries.map fun e => (e.1, f e.2), by rw [List.map_map]; exact d.nodup⟩

@[simp] theorem length_keys (d : Dict κ ν) : d.keys.length = d.size := List.length_map ..

@[simp] theorem length_values (d : Dict κ ν) : d.values.length = d.size := List.length_map ..

@[simp] theorem keys_mapValues (d : Dict κ ν) (f : ν → μ) : (d.mapValues f).keys = d.keys := by
  simp [keys, mapValues, List.map_map, Function.comp_def]

@[simp] theorem size_mapValues (d : Dict κ ν) (f : ν → μ) : (d.mapValues f).size = d.size :=
  List.length_map ..

theorem size_filter_le (d : Dict κ ν) (p : κ → ν → Bool) : (d.filter p).size ≤ d.size :=
  List.length_filter_le ..

@[simp] theorem sum_empty (f : ν → Int) : (empty : Dict κ ν).sum f = 0 := rfl

@[simp] theorem mapValues_id (d : Dict κ ν) : d.mapValues (fun v => v) = d :=
  ext_entries (List.map_id _)

theorem sum_mapValues (d : Dict κ ν) (g : ν → μ) (f : μ → Int) :
    (d.mapValues g).sum f = d.sum fun v => f (g v) := by
  simp [sum, mapValues, List.map_map, Function.comp_def]

theorem sum_nonneg {d : Dict κ ν} {f : ν → Int} (h : ∀ v ∈ d.values, 0 ≤ f v) : 0 ≤ d.sum f := by
  refine List.sum_nonneg fun x hx => ?_
  obtain ⟨e, he, rfl⟩ := List.mem_map.mp hx
  exact h e.2 (List.mem_map_of_mem he)

theorem le_sum {d : Dict κ ν} {f : ν → Int} (h : ∀ v ∈ d.values, 0 ≤ f v) {v : ν}
    (hv : v ∈ d.values) : f v ≤ d.sum f := by
  have hsum : d.sum f = (d.values.map f).sum := by
    rw [sum, values, List.map_map]
    rfl
  rw [hsum]
  refine List.single_le_sum (fun x hx => ?_) _ (List.mem_map_of_mem hv)
  obtain ⟨w, hw, rfl⟩ := List.mem_map.mp hx
  exact h w hw

theorem eq_empty_of_size {d : Dict κ ν} (h : d.size = 0) : d = empty := by
  obtain ⟨es, hes⟩ := d
  obtain rfl : es = [] := List.length_eq_zero_iff.mp h
  rfl

theorem keys_perm {d : Dict κ ν} {d' : Dict κ μ} (h : ∀ k, k ∈ d.keys ↔ k ∈ d'.keys) :
    d.keys.Perm d'.keys := (List.perm_ext_iff_of_nodup d.nodup d'.nodup).mpr h

variable [DecidableEq κ]

/-! ### Lookup -/

def get? (d : Dict κ ν) (k : κ) : Option ν := (d.entries.find? fun e => e.1 = k).map Prod.snd

def contains (d : Dict κ ν) (k : κ) : Bool := (d.get? k).isSome

theorem get?_eq_some {d : Dict κ ν} {k : κ} {v : ν} :
    d.get? k = some v ↔ (k, v) ∈ d.entries := by
  unfold get?
  constructor
  · intro h
    obtain ⟨⟨a, b⟩, hf, rfl⟩ := Option.map_eq_some_iff.mp h
    have ha : a = k := by simpa using List.find?_some hf
    exact ha ▸ List.mem_of_find?_eq_some hf
  · intro h
    cases hf : d.entries.find? fun e => e.1 = k with
    | none => simpa using List.find?_eq_none.mp hf _ h
    | some e =>
      have ha : e.1 = k := by simpa using List.find?_some hf
      have hv := List.inj_on_of_nodup_map d.nodup (List.mem_of_find?_eq_some hf) h ha
      rw [hv, Option.map_some]

theorem get?_eq_none {d : Dict κ ν} {k : κ} : d.get? k = none ↔ k ∉ d.keys := by
  simp only [get?, keys, Option.map_eq_none_iff, List.find?_eq_none, decide_eq_true_eq,
    List.mem_map, not_exists, not_and]

theorem mem_keys {d : Dict κ ν} {k : κ} : k ∈ d.keys ↔ ∃ v, d.get? k = some v := by
  rw [← not_iff_not, ← get?_eq_none]
  cases d.get? k <;> simp

theorem contains_eq_false {d : Dict κ ν} {k : κ} : d.contains k = false ↔ d.get? k = none := by
  rw [contains, Option.isSome_eq_false_iff, Option.isNone_iff_eq_none]

theorem mem_values {d : Dict κ ν} {v : ν} : v ∈ d.values ↔ ∃ k, d.get? k = some v := by
  simp only [values, List.mem_map, get?_eq_some]
  exact ⟨fun ⟨⟨k, _⟩, h, he⟩ => ⟨k, he ▸ h⟩, fun ⟨k, h⟩ => ⟨(k, v), h, rfl⟩⟩

@[simp] theorem get?_empty (k : κ) : (empty : Dict κ ν).get? k = none := rfl

/-! ### Assignment -/

def assign (k : κ) (v : ν) : List (κ × ν) → List (κ × ν)
  | [] => [(k, v)]
  | e :: es => if e.1 = k then (k, v) :: es else e :: assign k v es

theorem map_fst_assign (k : κ) (v : ν) (es : List (κ × ν)) :
    (assign k v es).map Prod.fst =
      if k ∈ es.map Prod.fst then es.map Prod.fst else es.map Prod.fst ++ [k] := by
  induction es with
  | nil => simp [assign]
  | cons e es ih =>
    by_cases h : e.1 = k
    · simp [assign, h]
    · simp only [assign, if_neg h, List.map_cons, ih, List.mem_cons, Ne.symm h, false_or]
      split_ifs <;> rfl

theorem nodup_assign {es : List (κ × ν)} (h : (es.map Prod.fst).Nodup) (k : κ) (v : ν) :
    ((assign k v es).map Prod.fst).Nodup := by
  rw [map_fst_assign]
  split_ifs with hk
  · exact h
  · refine List.nodup_append.mpr ⟨h, List.nodup_singleton _, ?_⟩
    rintro a ha b hb rfl
    exact hk (List.mem_singleton.mp hb ▸ ha)

theorem mem_assign {es : List (κ × ν)} (h : (es.map Prod.fst).Nodup) (k : κ) (v : ν)
    (e : κ × ν) : e ∈ assign k v es ↔ e = (k, v) ∨ (e ∈ es ∧ e.1 ≠ k) := by
  induction es with
  | nil => simp [assign]
  | cons a es ih =>
    rw [List.map_cons, List.nodup_cons] at h
    by_cases ha : a.1 = k
    · have hes : ∀ e ∈ es, e.1 ≠ k := fun e he hk =>
        h.1 (List.mem_map.mpr ⟨e, he, hk.trans ha.symm⟩)
      simp only [assign, if_pos ha, List.mem_cons]
      constructor
      · rintro (he | he)
        · exact Or.inl he
        · exact Or.inr ⟨Or.inr he, hes e he⟩
      · rintro (he | ⟨rfl | he, hk⟩)
        · exact Or.inl he
        · exact absurd ha hk
        · exact Or.inr he
    · simp only [assign, if_neg ha, List.mem_cons, ih h.2]
      constructor
      · rintro (rfl | he | ⟨he, hk⟩)
        · exact Or.inr ⟨Or.inl rfl, ha⟩
        · exact Or.inl he
        · exact Or.inr ⟨Or.inr he, hk⟩
      · rintro (he | ⟨rfl | he, hk⟩)
        · exact Or.inr (Or.inl he)
        · exact Or.inl rfl
        · exact Or.inr (Or.inr ⟨he, hk⟩)

def set (d : Dict κ ν) (k : κ) (v : ν) : Dict κ ν :=
  ⟨assign k v d.entries, nodup_assign d.nodup k v⟩

theorem assign_of_not_mem {es : List (κ × ν)} {k : κ} (h : k ∉ es.map Prod.fst) (v : ν) :
    assign k v es = es ++ [(k, v)] := by
  induction es with
  | nil => rfl
  | cons e es ih =>
    rw [List.map_cons, List.mem_cons, not_or] at h
    rw [assign, if_neg (Ne.symm h.1), ih h.2, List.cons_append]

theorem entries_set_of_none {d : Dict κ ν} {k : κ} (h : d.get? k = none) (v : ν) :
    (d.set k v).entries = d.entries ++ [(k, v)] := assign_of_not_mem (get?_eq_none.mp h) v

theorem get?_set (d : Dict κ ν) (k : κ) (v : ν) (k' : κ) :
    (d.set k v).get? k' = if k' = k then some v else d.get? k' := by
  refine Option.ext fun w => ?_
  rw [get?_eq_some, set, mem_assign d.nodup]
  split_ifs with h
  · simp [h, eq_comm]
  · simp [h, get?_eq_some]

@[simp] theorem get?_set_self (d : Dict κ ν) (k : κ) (v : ν) : (d.set k v).get? k = some v := by
  rw [get?_set, if_pos rfl]

theorem get?_set_ne (d : Dict κ ν) {k k' : κ} (v : ν) (h : k' ≠ k) :
    (d.set k v).get? k' = d.get? k' := by
  rw [get?_set, if_neg h]

theorem size_set_of_some {d : Dict κ ν} {k : κ} {w : ν} (h : d.get? k = some w) (v : ν) :
    (d.set k v).size = d.size := by
  have hk : k ∈ d.entries.map Prod.fst := mem_keys.mpr ⟨w, h⟩
  rw [← length_keys, keys, set, map_fst_assign, if_pos hk]
  exact List.length_map ..

theorem size_set_of_none {d : Dict κ ν} {k : κ} (h : d.get? k = none) (v : ν) :
    (d.set k v).size = d.size + 1 := by
  rw [size, entries_set_of_none h, List.length_append]
  rfl

/-! ### Deletion and pointwise change -/

def erase (d : Dict κ ν) (k : κ) : Dict κ ν := d.filter fun k' _ => k' ≠ k

theorem get?_filter (d : Dict κ ν) (p : κ → ν → Bool) (k : κ) :
    (d.filter p).get? k = (d.get? k).filter (p k) := by
  refine Option.ext fun v => ?_
  rw [get?_eq_some, Option.filter_eq_some_iff, get?_eq_some]
  exact List.mem_filter

theorem get?_erase (d : Dict κ ν) (k k' : κ) :
    (d.erase k).get? k' = if k' = k then none else d.get? k' := by
  rw [erase, get?_filter]
  split_ifs with h
  · subst h
    cases d.get? k' <;> simp
  · cases d.get? k' <;> simp [h]

@[simp] theorem get?_mapValues (d : Dict κ ν) (f : ν → μ) (k : κ) :
    (d.mapValues f).get? k = (d.get? k).map f := by
  refine Option.ext fun v => ?_
  rw [get?_eq_some, Option.map_eq_some_iff]
  simp only [mapValues, List.mem_map, get?_eq_some, Prod.mk.injEq, Prod.exists]
  exact ⟨fun ⟨a, b, hab, ha, hb⟩ => ⟨b, ha ▸ hab, hb⟩, fun ⟨b, hb, he⟩ => ⟨k, b, hb, rfl, he⟩⟩

theorem size_erase_le (d : Dict κ ν) (k : κ) : (d.erase k).size ≤ d.size := size_filter_le ..

/-! ### Eviction -/

/-- The entries that are left once the oldest have been popped for room below the limit. -/
def popOldest (limit : Nat) : List (κ × ν) → List (κ × ν)
  | [] => []
  | e :: es => if limit ≤ (e :: es).length then popOldest limit es else e :: es

omit [DecidableEq κ] in
theorem popOldest_suffix (limit : Nat) (es : List (κ × ν)) : popOldest limit es <:+ es := by
  induction es with
  | nil => exact List.suffix_refl _
  | cons e es ih =>
    rw [popOldest]
    split
    · exact ih.trans (List.suffix_cons e es)
    · exact List.suffix_refl _

omit [DecidableEq κ] in
theorem length_popOldest_lt {limit : Nat} (h : 0 < limit) (es : List (κ × ν)) :
    (popOldest limit es).length < limit := by
  induction es with
  | nil => exact h
  | cons e es ih =>
    rw [popOldest]
    split
    · exact ih
    · omega

/-- `while len(d) >= limit: d.pop(next(iter(d)))` -/
def makeRoom (d : Dict κ ν) (limit : Nat) : Dict κ ν :=
  ⟨popOldest limit d.entries,
    d.nodup.sublist ((popOldest_suffix limit d.entries).sublist.map Prod.fst)⟩

omit [DecidableEq κ] in
theorem size_makeRoom_lt (d : Dict κ ν) {limit : Nat} (h : 0 < limit) :
    (d.makeRoom limit).size < limit := length_popOldest_lt h d.entries

omit [DecidableEq κ] in
theorem size_makeRoom_le (d : Dict κ ν) (limit : Nat) : (d.makeRoom limit).size ≤ d.size :=
  (popOldest_suffix limit d.entries).length_le

theorem get?_of_makeRoom {d : Dict κ ν} {limit : Nat} {k : κ} {v : ν}
    (h : (d.makeRoom limit).get? k = some v) : d.get? k = some v := by
  rw [get?_eq_some] at h ⊢
  exact (popOldest_suffix limit d.entries).subset h

theorem size_set_le (d : Dict κ ν) (k : κ) (v : ν) : (d.set k v).size ≤ d.size + 1 := by
  cases h : d.get? k with
  | none => exact (size_set_of_none h v).le
  | some w => exact (size_set_of_some h v).le.trans (Nat.le_succ _)

/-! ### Sums over the values -/

theorem sum_eq_keys (d : Dict κ ν) (f : ν → Int) :
    d.sum f = (d.keys.map fun k => ((d.get? k).map f).getD 0).sum := by
  unfold sum keys
  rw [List.map_map]
  refine congrArg List.sum (List.map_congr_left fun e he => ?_)
  simp [get?_eq_some.mpr (show (e.1, e.2) ∈ d.entries from he)]

theorem sum_congr {d : Dict κ ν} {d' : Dict κ μ} {f : ν → Int} {g : μ → Int}
    (h : ∀ k, (d.get? k).map f = (d'.get? k).map g) : d.sum f = d'.sum g := by
  have hk : ∀ k, k ∈ d.keys ↔ k ∈ d'.keys := by
    intro k
    have hk := h k
    simp only [mem_keys]
    cases hd : d.get? k <;> cases hd' : d'.get? k <;> simp [hd, hd'] at hk ⊢
  rw [sum_eq_keys, sum_eq_keys, ((keys_perm hk).map _).sum_eq]
  exact congrArg List.sum (List.map_congr_left fun k _ => by rw [h k])

theorem sum_assign_of_mem {es : List (κ × ν)} (hn : (es.map Prod.fst).Nodup) {k : κ} {w : ν}
    (h : (k, w) ∈ es) (v : ν) (f : ν → Int) : ((assign k v es).map fun e => f e.2).sum =
      (es.map fun e => f e.2).sum - f w + f v := by
  induction es with
  | nil => simp at h
  | cons e es ih =>
    rw [List.map_cons, List.nodup_cons] at hn
    by_cases he : e.1 = k
    · have hw : e.2 = w := by
        rcases List.mem_cons.mp h with rfl | h
        · rfl
        · exact absurd (List.mem_map.mpr ⟨(k, w), h, he.symm⟩) hn.1
      simp only [assign, if_pos he, List.map_cons, List.sum_cons, hw]
      omega
    · have hm : (k, w) ∈ es := by
        rcases List.mem_cons.mp h with rfl | h
        · exact absurd rfl he
        · exact h
      simp only [assign, if_neg he, List.map_cons, List.sum_cons, ih hn.2 hm]
      omega

theorem sum_set_of_none {d : Dict κ ν} {k : κ} (h : d.get? k = none) (v : ν) (f : ν → Int) :
    (d.set k v).sum f = d.sum f + f v := by
  unfold sum
  rw [entries_set_of_none h, List.map_append, List.sum_append, List.map_singleton,
    List.sum_singleton]

theorem sum_set_of_some {d : Dict κ ν} {k : κ} {w : ν} (h : d.get? k = some w) (v : ν)
    (f : ν → Int) : (d.set k v).sum f = d.sum f - f w + f v :=
  sum_assign_of_mem d.nodup (get?_eq_some.mp h) v f

theorem sum_eq_single {d : Dict κ ν} {k : κ} {v : ν} (h : d.get? k = some v)
    (hother : ∀ k' ≠ k, d.get? k' = none) (f : ν → Int) : d.sum f = f v := by
  have hsum : d.sum f = ((empty : Dict κ ν).set k v).sum f := by
    refine sum_congr fun k' => ?_
    rw [get?_set]
    split_ifs with hk
    · rw [hk, h]
    · rw [hother k' hk]
      rfl
  rw [hsum, sum_set_of_none rfl]
  exact Int.zero_add _

/-- Deleting a key and assigning a weightless value to it leave the same sum. -/
theorem sum_erase_of_some {d : Dict κ ν} {k : κ} {w : ν} (h : d.get? k = some w)
    (f : ν → Int) : (d.erase k).sum f = d.sum f - f w := by
  have hset : ((d.erase k).set k w).sum f = d.sum f := by
    refine sum_congr fun k' => ?_
    rw [get?_set, get?_erase]
    split_ifs with hk
    · rw [hk, h]
    · rfl
  rw [sum_set_of_none (by rw [get?_erase, if_pos rfl])] at hset
  omega

/-- The sum over a part of the dictionary, each value no heavier than the one it came from. -/
theorem sum_le_of_bind {d d' : Dict κ ν} {g : κ → ν → Option ν} {f : ν → Int}
    (hget : ∀ k, d'.get? k = (d.get? k).bind (g k)) (hnonneg : ∀ k v, d.get? k = some v → 0 ≤ f v)
    (hle : ∀ k v v', d.get? k = some v → g k v = some v' → f v' ≤ f v) : d'.sum f ≤ d.sum f := by
  have hweight : ∀ k, ((d'.get? k).map f).getD 0 ≤ ((d.get? k).map f).getD 0 := by
    intro k
    rw [hget]
    cases hk : d.get? k with
    | none => exact le_rfl
    | some v =>
      cases hg : g k v with
      | none => simpa [hg] using hnonneg k v hk
      | some v' => simpa [hg] using hle k v v' hk hg
  have hsub : ∀ k ∈ d'.keys, k ∈ d.keys := by
    intro k hk
    rw [mem_keys] at hk ⊢
    obtain ⟨v, hv⟩ := hk
    rw [hget] at hv
    obtain ⟨w, hw, -⟩ := Option.bind_eq_some_iff.mp hv
    exact ⟨w, hw⟩
  have hkeys : (d.keys.filter fun k => k ∈ d'.keys).Perm d'.keys := by
    refine (List.perm_ext_iff_of_nodup (List.Nodup.filter _ d.nodup) d'.nodup).mpr fun k => ?_
    rw [List.mem_filter, decide_eq_true_eq]
    exact ⟨fun h => h.2, fun h => ⟨hsub k h, h⟩⟩
  have hpart : ∀ ks : List κ, (∀ k ∈ ks, k ∈ d.keys) →
      ((ks.filter fun k => k ∈ d'.keys).map fun k => ((d'.get? k).map f).getD 0).sum ≤
        (ks.map fun k => ((d.get? k).map f).getD 0).sum := by
    intro ks hks
    induction ks with
    | nil => exact le_rfl
    | cons k ks ih =>
      have ih := ih fun k hk => hks k (List.mem_cons_of_mem _ hk)
      obtain ⟨v, hv⟩ := mem_keys.mp (hks k List.mem_cons_self)
      have hpos : 0 ≤ ((d.get? k).map f).getD 0 := by
        rw [hv]
        exact hnonneg k v hv
      have hk := hweight k
      rw [List.filter_cons]
      split_ifs
      · rw [List.map_cons, List.map_cons, List.sum_cons, List.sum_cons]
        omega
      · rw [List.map_cons, List.sum_cons]
        omega
  rw [sum_eq_keys d', sum_eq_keys d, ← (hkeys.map _).sum_eq]
  exact hpart d.keys fun _ h => h

end Dict
end MyCogni
