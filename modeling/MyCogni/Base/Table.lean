import Mathlib.Order.Defs.LinearOrder
import Mathlib.Data.List.Nodup
import Mathlib.Data.List.Sort

/-! Tables of rows with a primary key. The rows are kept in increasing order of their keys, so a
table is determined by its lookups, and no row can stand under the key of another. -/

namespace MyCogni
variable {κ ρ : Type} [LinearOrder κ]

structure Table (key : ρ → κ) where
  rows : List ρ
  sorted : rows.Pairwise fun a b => key a < key b

namespace Table
variable {key : ρ → κ}

instance [DecidableEq ρ] : DecidableEq (Table key) := fun s t =>
  decidable_of_iff (s.rows = t.rows) (by cases s; cases t; simp)

def empty : Table key := ⟨[], List.Pairwise.nil⟩

def get? (t : Table key) (k : κ) : Option ρ := t.rows.find? fun r => key r = k

def filter (t : Table key) (p : ρ → Bool) : Table key := ⟨t.rows.filter p, t.sorted.filter p⟩

/-- Change every row, keeping its key. -/
def map (t : Table key) (f : ρ → ρ) (hf : ∀ r, key (f r) = key r) : Table key :=
  ⟨t.rows.map f, List.pairwise_map.mpr (t.sorted.imp fun {a b} h => by rwa [hf a, hf b])⟩

def count (t : Table key) (p : ρ → Bool) : Nat := t.rows.countP p

/-! ### Writing a row -/

def insertRow (key : ρ → κ) (r : ρ) : List ρ → List ρ
  | [] => [r]
  | x :: xs =>
    if key r < key x then r :: x :: xs
    else if key r = key x then r :: xs
    else x :: insertRow key r xs

theorem mem_insertRow {r a : ρ} {rows : List ρ} (h : a ∈ insertRow key r rows) :
    a = r ∨ a ∈ rows := by
  induction rows with
  | nil => exact Or.inl (List.mem_singleton.mp h)
  | cons x xs ih =>
    rw [insertRow] at h
    split_ifs at h with hlt heq
    · exact List.mem_cons.mp h
    · rcases List.mem_cons.mp h with h | h
      · exact Or.inl h
      · exact Or.inr (List.mem_cons_of_mem _ h)
    · rcases List.mem_cons.mp h with rfl | h
      · exact Or.inr List.mem_cons_self
      · exact (ih h).imp_right (List.mem_cons_of_mem _)

theorem pairwise_insertRow (r : ρ) {rows : List ρ}
    (h : rows.Pairwise fun a b => key a < key b) :
    (insertRow key r rows).Pairwise fun a b => key a < key b := by
  induction rows with
  | nil => exact List.pairwise_singleton _ _
  | cons x xs ih =>
    obtain ⟨hx, hxs⟩ := List.pairwise_cons.mp h
    rw [insertRow]
    split_ifs with hlt heq
    · refine List.pairwise_cons.mpr ⟨fun a ha => ?_, h⟩
      rcases List.mem_cons.mp ha with rfl | ha
      · exact hlt
      · exact hlt.trans (hx a ha)
    · exact List.pairwise_cons.mpr ⟨fun a ha => heq ▸ hx a ha, hxs⟩
    · refine List.pairwise_cons.mpr ⟨fun a ha => ?_, ih hxs⟩
      rcases mem_insertRow ha with rfl | ha
      · exact lt_of_le_of_ne (not_lt.mp hlt) (Ne.symm heq)
      · exact hx a ha

/-- Write a row under its own key. -/
def put (t : Table key) (r : ρ) : Table key :=
  ⟨insertRow key r t.rows, pairwise_insertRow r t.sorted⟩

/-! ### Lookups -/

theorem nodup_keys (t : Table key) : (t.rows.map key).Nodup :=
  List.nodup_iff_pairwise_ne.mpr (List.pairwise_map.mpr (t.sorted.imp ne_of_lt))

theorem get?_eq_some {t : Table key} {k : κ} {r : ρ} :
    t.get? k = some r ↔ r ∈ t.rows ∧ key r = k := by
  constructor
  · intro h
    exact ⟨List.mem_of_find?_eq_some h, by simpa using List.find?_some h⟩
  · rintro ⟨hr, rfl⟩
    obtain ⟨r', hr'⟩ : ∃ r', t.get? (key r) = some r' :=
      Option.isSome_iff_exists.mp (List.find?_isSome.mpr ⟨r, hr, by simp⟩)
    have hkey : key r' = key r := by simpa using List.find?_some hr'
    rw [hr', List.inj_on_of_nodup_map t.nodup_keys (List.mem_of_find?_eq_some hr') hr hkey]

theorem get?_eq_none {t : Table key} {k : κ} : t.get? k = none ↔ ∀ r ∈ t.rows, key r ≠ k := by
  simp [get?]

theorem key_of_get? {t : Table key} {k : κ} {r : ρ} (h : t.get? k = some r) : key r = k :=
  (get?_eq_some.mp h).2

theorem get?_key {t : Table key} {k : κ} {r : ρ} (h : t.get? k = some r) :
    t.get? (key r) = some r := by
  rw [key_of_get? h]
  exact h

theorem mem_rows {t : Table key} {r : ρ} : r ∈ t.rows ↔ t.get? (key r) = some r := by
  rw [get?_eq_some, and_iff_left rfl]

@[simp] theorem get?_empty (k : κ) : (empty : Table key).get? k = none := rfl

theorem get?_put (t : Table key) (r : ρ) (k : κ) :
    (t.put r).get? k = if k = key r then some r else t.get? k := by
  obtain ⟨rows, hsorted⟩ := t
  simp only [get?, put]
  clear hsorted
  induction rows with
  | nil =>
    by_cases h : k = key r
    · simp [insertRow, h]
    · simp [insertRow, h, Ne.symm h]
  | cons x xs ih =>
    rw [insertRow]
    by_cases h : k = key r
    · subst h
      rw [if_pos rfl] at ih ⊢
      split_ifs with hlt heq
      · simp
      · simp
      · rw [List.find?_cons_of_neg (by simpa using Ne.symm heq), ih]
    · have hskip : ∀ y ys, key y = key r →
          List.find? (fun r => decide (key r = k)) (y :: ys) =
            List.find? (fun r => decide (key r = k)) ys :=
        fun y ys hy => List.find?_cons_of_neg (by simpa using fun h' => h (h'.symm.trans hy))
      rw [if_neg h] at ih ⊢
      split_ifs with hlt heq
      · exact hskip r _ rfl
      · rw [hskip r _ rfl, hskip x _ heq.symm]
      · rw [List.find?_cons, List.find?_cons, ih]

@[simp] theorem get?_put_self (t : Table key) (r : ρ) : (t.put r).get? (key r) = some r := by
  rw [get?_put, if_pos rfl]

theorem get?_put_of_eq (t : Table key) {r : ρ} {k : κ} (h : key r = k) :
    (t.put r).get? k = some r := by
  rw [get?_put, if_pos h.symm]

theorem get?_put_of_ne (t : Table key) {r : ρ} {k : κ} (h : k ≠ key r) :
    (t.put r).get? k = t.get? k := by
  rw [get?_put, if_neg h]

theorem eq_of_get?_put {t : Table key} {r r' : ρ} {k : κ} (h : (t.put r).get? k = some r')
    (hk : key r = k) : r' = r := by
  rw [get?_put_of_eq t hk] at h
  exact (Option.some.inj h).symm

@[simp] theorem get?_filter (t : Table key) (p : ρ → Bool) (k : κ) :
    (t.filter p).get? k = (t.get? k).filter p := by
  ext r
  rw [get?_eq_some, Option.filter_eq_some_iff, get?_eq_some]
  simp only [filter, List.mem_filter]
  exact and_right_comm

@[simp] theorem get?_map (t : Table key) (f : ρ → ρ) (hf : ∀ r, key (f r) = key r) (k : κ) :
    (t.map f hf).get? k = (t.get? k).map f := by
  ext r
  rw [get?_eq_some, Option.map_eq_some_iff]
  simp only [map, List.mem_map]
  constructor
  · rintro ⟨⟨a, ha, rfl⟩, hk⟩
    exact ⟨a, get?_eq_some.mpr ⟨ha, (hf a).symm.trans hk⟩, rfl⟩
  · rintro ⟨a, ha, rfl⟩
    obtain ⟨hmem, hkey⟩ := get?_eq_some.mp ha
    exact ⟨⟨a, hmem, rfl⟩, (hf a).trans hkey⟩

/-- A table is determined by its lookups. -/
theorem nodup_rows (t : Table key) : t.rows.Nodup := t.nodup_keys.of_map key

/-- The row that is written takes the place of the row under its key. -/
theorem put_perm (t : Table key) (r : ρ) :
    (t.put r).rows.Perm (r :: t.rows.filter fun a => key a ≠ key r) := by
  refine (List.perm_ext_iff_of_nodup (t.put r).nodup_rows ?_).mpr fun a => ?_
  · refine List.nodup_cons.mpr ⟨fun h => ?_, t.nodup_rows.filter _⟩
    simpa using (List.mem_filter.mp h).2
  · rw [mem_rows, get?_put, List.mem_cons, List.mem_filter, mem_rows]
    split_ifs with hkey
    · simp only [hkey, ne_eq, not_true_eq_false, decide_false, Bool.false_eq_true, and_false,
        or_false, Option.some.injEq]
      exact eq_comm
    · have hne : a ≠ r := fun h => hkey (congrArg key h)
      simp [hkey, hne]

theorem ext_get? {s t : Table key} (h : ∀ k, s.get? k = t.get? k) : s = t := by
  have hmem : ∀ r, r ∈ s.rows ↔ r ∈ t.rows := fun r => by rw [mem_rows, mem_rows, h]
  have hperm : s.rows.Perm t.rows :=
    (List.perm_ext_iff_of_nodup s.nodup_keys.of_map t.nodup_keys.of_map).mpr hmem
  have heq : s.rows = t.rows :=
    hperm.eq_of_pairwise (fun a b _ _ hab hba => absurd hab hba.asymm) s.sorted t.sorted
  obtain ⟨rows, _⟩ := s
  obtain ⟨rows', _⟩ := t
  simpa using heq

/-- Every row satisfies `p`. -/
def All (p : ρ → Prop) (t : Table key) : Prop := ∀ k r, t.get? k = some r → p r

section All
variable {p q : ρ → Prop} {t : Table key}

theorem all_empty : All p (empty : Table key) := fun _ _ h => nomatch h

theorem All.mono (h : All p t) (hpq : ∀ r, p r → q r) : All q t :=
  fun k r hget => hpq r (h k r hget)

theorem All.put (h : All p t) {r : ρ} (hr : p r) : All p (t.put r) := by
  intro k r' hget
  rw [get?_put] at hget
  split_ifs at hget with hk
  · exact Option.some.inj hget ▸ hr
  · exact h k r' hget

theorem All.map (h : All p t) {f : ρ → ρ} (hf : ∀ r, key (f r) = key r)
    (hq : ∀ r, p r → q (f r)) : All q (t.map f hf) := by
  intro k r' hget
  rw [get?_map, Option.map_eq_some_iff] at hget
  obtain ⟨r, hr, rfl⟩ := hget
  exact hq r (h k r hr)

theorem All.filter (h : All p t) (keep : ρ → Bool) : All p (t.filter keep) := by
  intro k r hget
  rw [get?_filter, Option.filter_eq_some_iff] at hget
  exact h k r hget.1

end All

/-! ### Tables that follow from another -/

/-- Every row of `t'` continues a row of `t`, or a row that was added since. -/
def Descends (ages : ρ → ρ → Prop) (added : ρ → Prop) (t t' : Table key) : Prop :=
  ∀ k r', t'.get? k = some r' →
    ∃ r, ages r r' ∧ key r = k ∧ (t.get? k = some r ∨ added r)

section Descends
variable {ages : ρ → ρ → Prop} {added : ρ → Prop} {t t₁ t₂ : Table key}

theorem Descends.mono {added' : ρ → Prop} (h : Descends ages added t t₁)
    (hadded : ∀ r, added r → added' r) : Descends ages added' t t₁ := by
  intro k r' hget
  obtain ⟨r, hages, hkey, hr⟩ := h k r' hget
  exact ⟨r, hages, hkey, hr.imp_right (hadded r)⟩

theorem Descends.trans (htrans : ∀ a b c, ages a b → ages b c → ages a c)
    (h₁ : Descends ages added t t₁) (h₂ : Descends ages added t₁ t₂) :
    Descends ages added t t₂ := by
  intro k r'' hget
  obtain ⟨r', hages', hkey', hr' | hr'⟩ := h₂ k r'' hget
  · obtain ⟨r, hages, hkey, hr⟩ := h₁ k r' hr'
    exact ⟨r, htrans _ _ _ hages hages', hkey, hr⟩
  · exact ⟨r', hages', hkey', Or.inr hr'⟩

theorem Descends.kept (h : Descends ages added t t₁) {k : κ} {r' : ρ}
    (hk : ∀ r, added r → key r ≠ k) (hget : t₁.get? k = some r') :
    ∃ r, t.get? k = some r ∧ ages r r' := by
  obtain ⟨r, hages, hkey, hr | hr⟩ := h k r' hget
  · exact ⟨r, hr, hages⟩
  · exact absurd hkey (hk r hr)

theorem descends_map {f : ρ → ρ} (hf : ∀ r, key (f r) = key r) (h : ∀ r, ages r (f r)) :
    Descends ages added t (t.map f hf) := by
  intro k r' hget
  rw [get?_map, Option.map_eq_some_iff] at hget
  obtain ⟨r, hr, rfl⟩ := hget
  exact ⟨r, h r, key_of_get? hr, Or.inl hr⟩

theorem descends_filter (hrefl : ∀ r, ages r r) (p : ρ → Bool) :
    Descends ages added t (t.filter p) := by
  intro k r hget
  rw [get?_filter, Option.filter_eq_some_iff] at hget
  exact ⟨r, hrefl r, key_of_get? hget.1, Or.inl hget.1⟩

theorem descends_refl (hrefl : ∀ r, ages r r) : Descends ages added t t :=
  fun _ r hget => ⟨r, hrefl r, key_of_get? hget, Or.inl hget⟩

theorem descends_put (hrefl : ∀ r, ages r r) {r r' : ρ} (hages : ages r r')
    (hkey : key r = key r') (hr : t.get? (key r) = some r ∨ added r) :
    Descends ages added t (t.put r') := by
  intro k r'' hget
  rw [get?_put] at hget
  split_ifs at hget with hk
  · obtain rfl := Option.some.inj hget
    refine ⟨r, hages, hkey.trans hk.symm, hr.imp_left fun h => ?_⟩
    rw [hk, ← hkey]
    exact h
  · exact descends_refl hrefl k r'' hget

end Descends

/-- Every row of `t` is continued by the row of `t'` under the same key. -/
def Keeps (ages : ρ → ρ → Prop) (t t' : Table key) : Prop :=
  ∀ k r, t.get? k = some r → ∃ r', t'.get? k = some r' ∧ ages r r'

section Keeps
variable {ages : ρ → ρ → Prop} {t t₁ t₂ : Table key}

theorem keeps_refl (hrefl : ∀ r, ages r r) : Keeps ages t t := fun _ r h => ⟨r, h, hrefl r⟩

theorem Keeps.trans (htrans : ∀ a b c, ages a b → ages b c → ages a c) (h₁ : Keeps ages t t₁)
    (h₂ : Keeps ages t₁ t₂) : Keeps ages t t₂ := by
  intro k r hget
  obtain ⟨r', hget', hages⟩ := h₁ k r hget
  obtain ⟨r'', hget'', hages'⟩ := h₂ k r' hget'
  exact ⟨r'', hget'', htrans _ _ _ hages hages'⟩

theorem keeps_put (hrefl : ∀ r, ages r r) {r' : ρ}
    (h : ∀ r, t.get? (key r') = some r → ages r r') : Keeps ages t (t.put r') := by
  intro k r hget
  rw [get?_put]
  split_ifs with hk
  · exact ⟨r', rfl, h r (hk ▸ hget)⟩
  · exact ⟨r, hget, hrefl r⟩

end Keeps

/-! ### Writing rows one after another -/

theorem descends_foldl_put {ages : ρ → ρ → Prop} {added : ρ → Prop} (hrefl : ∀ r, ages r r)
    (htrans : ∀ a b c, ages a b → ages b c → ages a c) (rs : List ρ) (t : Table key)
    (h : ∀ r ∈ rs, added r) : Descends ages added t (rs.foldl put t) := by
  induction rs generalizing t with
  | nil => exact descends_refl hrefl
  | cons r rs ih =>
    have hr : Descends ages added t (t.put r) :=
      descends_put hrefl (hrefl r) rfl (Or.inr (h r List.mem_cons_self))
    exact hr.trans htrans (ih _ fun r' hr' => h r' (List.mem_cons_of_mem _ hr'))

theorem All.foldl_put {p : ρ → Prop} {t : Table key} (h : All p t) {rs : List ρ}
    (hrs : ∀ r ∈ rs, p r) : All p (rs.foldl Table.put t) := by
  induction rs generalizing t with
  | nil => exact h
  | cons r rs ih =>
    exact ih (h.put (hrs r List.mem_cons_self)) fun r' hr' => hrs r' (List.mem_cons_of_mem _ hr')

theorem get?_foldl_put_of_notMem (rs : List ρ) (t : Table key) {k : κ} (h : k ∉ rs.map key) :
    (rs.foldl put t).get? k = t.get? k := by
  induction rs generalizing t with
  | nil => rfl
  | cons r rs ih =>
    rw [List.map_cons, List.mem_cons, not_or] at h
    rw [List.foldl_cons, ih _ h.2, get?_put_of_ne _ h.1]

theorem get?_foldl_put_of_mem {rs : List ρ} (t : Table key) (hnodup : (rs.map key).Nodup) {r : ρ}
    (h : r ∈ rs) : (rs.foldl put t).get? (key r) = some r := by
  induction rs generalizing t with
  | nil => exact nomatch h
  | cons x rs ih =>
    rw [List.map_cons, List.nodup_cons] at hnodup
    rw [List.foldl_cons]
    rcases List.mem_cons.mp h with rfl | h
    · rw [get?_foldl_put_of_notMem _ _ hnodup.1, get?_put_self]
    · exact ih _ hnodup.2 h

def ofRows (key : ρ → κ) (rows : List ρ) : Table key := rows.foldl put empty

theorem get?_ofRows {rows : List ρ} (hnodup : (rows.map key).Nodup) {k : κ} {r : ρ} :
    (ofRows key rows).get? k = some r ↔ r ∈ rows ∧ key r = k := by
  by_cases hk : k ∈ rows.map key
  · obtain ⟨r', hr', rfl⟩ := List.mem_map.mp hk
    rw [ofRows, get?_foldl_put_of_mem _ hnodup hr', Option.some.injEq]
    constructor
    · rintro rfl
      exact ⟨hr', rfl⟩
    · rintro ⟨hr, hkey⟩
      exact List.inj_on_of_nodup_map hnodup hr' hr hkey.symm
  · rw [ofRows, get?_foldl_put_of_notMem rows _ hk, get?_empty]
    constructor
    · intro h
      exact nomatch h
    · rintro ⟨hr, rfl⟩
      exact absurd (List.mem_map_of_mem hr) hk

theorem ofRows_rows (t : Table key) : ofRows key t.rows = t := by
  refine ext_get? fun k => Option.ext fun r => ?_
  rw [get?_ofRows t.nodup_keys, get?_eq_some]

theorem mem_ofRows {rows : List ρ} (hnodup : (rows.map key).Nodup) {r : ρ} :
    r ∈ (ofRows key rows).rows ↔ r ∈ rows := by
  rw [mem_rows, get?_ofRows hnodup, and_iff_left rfl]

end Table
end MyCogni
