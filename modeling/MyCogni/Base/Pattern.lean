import Mathlib.Computability.RegularExpressions

/-! Regular expressions over classes of letters with bounded repetitions, and words that a separator
joins. -/

namespace MyCogni.Pattern
open RegularExpression
variable {α : Type}

/-- A class of letters, `[...]`. -/
def oneOf (letters : List α) : RegularExpression α := (letters.map char).foldr (· + ·) 0

/-- `P?`. -/
def optional (P : RegularExpression α) : RegularExpression α := 1 + P

/-- `P{0,n}`. -/
def upTo (n : Nat) (P : RegularExpression α) : RegularExpression α := optional P ^ n

/-- `P+`. -/
def oneOrMore (P : RegularExpression α) : RegularExpression α := P * P.star

theorem mem_oneOf {letters : List α} {w : List α} :
    w ∈ (oneOf letters).matches' ↔ ∃ a ∈ letters, w = [a] := by
  induction letters with
  | nil => exact ⟨fun h => h.elim, fun ⟨_, h, _⟩ => nomatch h⟩
  | cons a letters ih =>
    have hcons : (oneOf (a :: letters)).matches' = (char a).matches' + (oneOf letters).matches' := rfl
    rw [hcons, Language.mem_add, ih, matches'_char, List.exists_mem_cons_iff]
    exact Iff.rfl

theorem mem_optional {P : RegularExpression α} {w : List α} :
    w ∈ (optional P).matches' ↔ w = [] ∨ w ∈ P.matches' := by
  rw [optional, matches'_add, Language.mem_add, matches'_epsilon, Language.mem_one]

theorem mem_mul {P Q : RegularExpression α} {w : List α} :
    w ∈ (P * Q).matches' ↔ ∃ u ∈ P.matches', ∃ v ∈ Q.matches', u ++ v = w := by
  rw [matches'_mul, Language.mem_mul]

theorem mem_upTo_oneOf {letters : List α} {n : Nat} {w : List α} :
    w ∈ (upTo n (oneOf letters)).matches' ↔ w.length ≤ n ∧ ∀ a ∈ w, a ∈ letters := by
  induction n generalizing w with
  | zero =>
    rw [upTo, matches'_pow, pow_zero, Language.mem_one, Nat.le_zero, List.length_eq_zero_iff]
    exact ⟨fun h => ⟨h, h ▸ nofun⟩, And.left⟩
  | succ n ih =>
    have hsucc : (upTo (n + 1) (oneOf letters)).matches' =
        (upTo n (oneOf letters)).matches' * (optional (oneOf letters)).matches' := by
      rw [upTo, upTo, matches'_pow, matches'_pow, pow_succ]
    rw [hsucc, Language.mem_mul]
    constructor
    · rintro ⟨u, hu, v, hv, rfl⟩
      obtain ⟨hlength, hall⟩ := ih.mp hu
      rcases mem_optional.mp hv with rfl | hv
      · rw [List.append_nil]
        exact ⟨Nat.le_succ_of_le hlength, hall⟩
      · obtain ⟨a, ha, rfl⟩ := mem_oneOf.mp hv
        refine ⟨by simpa using hlength, ?_⟩
        intro b hb
        rcases List.mem_append.mp hb with hb | hb
        · exact hall b hb
        · exact List.mem_singleton.mp hb ▸ ha
    · rintro ⟨hlength, hall⟩
      rcases List.eq_nil_or_concat w with rfl | ⟨u, a, rfl⟩
      · exact ⟨[], ih.mpr ⟨Nat.zero_le _, nofun⟩, [], mem_optional.mpr (Or.inl rfl), rfl⟩
      · rw [List.concat_eq_append] at hlength hall ⊢
        have hu : u.length ≤ n := by simpa using hlength
        refine ⟨u, ih.mpr ⟨hu, fun b hb => hall b (List.mem_append_left _ hb)⟩, [a], ?_, rfl⟩
        exact mem_optional.mpr (Or.inr (mem_oneOf.mpr ⟨a, hall a (by simp), rfl⟩))

theorem mem_oneOrMore {P : RegularExpression α} {w : List α} :
    w ∈ (oneOrMore P).matches' ↔ ∃ ws ≠ [], (∀ u ∈ ws, u ∈ P.matches') ∧ ws.flatten = w := by
  rw [oneOrMore, mem_mul]
  constructor
  · rintro ⟨u, hu, v, hv, rfl⟩
    rw [matches'_star, Language.mem_kstar] at hv
    obtain ⟨ws, rfl, hws⟩ := hv
    exact ⟨u :: ws, List.cons_ne_nil _ _, List.forall_mem_cons.mpr ⟨hu, hws⟩, rfl⟩
  · rintro ⟨ws, hne, hws, rfl⟩
    cases ws with
    | nil => exact absurd rfl hne
    | cons u ws =>
      obtain ⟨hu, hws⟩ := List.forall_mem_cons.mp hws
      refine ⟨u, hu, ws.flatten, ?_, rfl⟩
      rw [matches'_star]
      exact Language.join_mem_kstar hws

/-- Words that a separator joins. -/
theorem intercalate_concat (sep : α) (ws : List (List α)) (last : List α) :
    [sep].intercalate (ws ++ [last]) = (ws.map (· ++ [sep])).flatten ++ last := by
  induction ws with
  | nil => simp [List.intercalate]
  | cons w ws ih =>
    have hne : ws ++ [last] ≠ [] := by simp
    rw [List.cons_append, List.map_cons, List.flatten_cons, List.append_assoc, ← ih]
    obtain ⟨v, vs, hv⟩ := List.exists_cons_of_ne_nil hne
    rw [hv]
    simp [List.intercalate]

theorem mem_of_mem_intercalate {sep a : α} {ws : List (List α)} (h : a ∈ [sep].intercalate ws) :
    a = sep ∨ ∃ w ∈ ws, a ∈ w := by
  rcases List.eq_nil_or_concat ws with rfl | ⟨ws, last, rfl⟩
  · exact nomatch h
  · rw [List.concat_eq_append] at h ⊢
    rw [intercalate_concat, List.mem_append] at h
    rcases h with h | h
    · obtain ⟨v, hv, ha⟩ := List.mem_flatten.mp h
      obtain ⟨w, hw, rfl⟩ := List.mem_map.mp hv
      rcases List.mem_append.mp ha with ha | ha
      · exact Or.inr ⟨w, List.mem_append_left _ hw, ha⟩
      · exact Or.inl (List.mem_singleton.mp ha)
    · exact Or.inr ⟨last, by simp, h⟩

/-- `(P sep)+ Q` matches the words of `P`, one or more, and one of `Q`, with separators between. -/
theorem mem_joined {P Q : RegularExpression α} {sep : α} {w : List α} :
    w ∈ (oneOrMore (P * char sep) * Q).matches' ↔ ∃ ws ≠ [], ∃ last ∈ Q.matches',
      (∀ u ∈ ws, u ∈ P.matches') ∧ w = [sep].intercalate (ws ++ [last]) := by
  rw [mem_mul]
  constructor
  · rintro ⟨u, hu, last, hlast, rfl⟩
    obtain ⟨vs, hne, hvs, rfl⟩ := mem_oneOrMore.mp hu
    have hsplit : ∀ v ∈ vs, ∃ u ∈ P.matches', u ++ [sep] = v := by
      intro v hv
      obtain ⟨u, hu, s, hs, rfl⟩ := mem_mul.mp (hvs v hv)
      exact ⟨u, hu, hs ▸ rfl⟩
    choose! f hf using hsplit
    refine ⟨vs.map f, by simpa using hne, last, hlast, ?_, ?_⟩
    · intro u hu
      obtain ⟨v, hv, rfl⟩ := List.mem_map.mp hu
      exact (hf v hv).1
    · rw [intercalate_concat, List.map_map]
      congr 2
      refine (List.map_id vs).symm.trans (List.map_congr_left fun v hv => ?_)
      exact (hf v hv).2.symm
  · rintro ⟨ws, hne, last, hlast, hws, rfl⟩
    refine ⟨_, mem_oneOrMore.mpr ⟨ws.map (· ++ [sep]), by simpa using hne, ?_, rfl⟩, last, hlast,
      (intercalate_concat sep ws last).symm⟩
    intro v hv
    obtain ⟨u, hu, rfl⟩ := List.mem_map.mp hv
    exact mem_mul.mpr ⟨u, hws u hu, [sep], rfl, rfl⟩

end MyCogni.Pattern
