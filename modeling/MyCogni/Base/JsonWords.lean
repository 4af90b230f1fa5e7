import MyCogni.Base.Json
import Mathlib.Data.List.Infix

/-! Words in the text of a JSON value. A word without structural characters lies within one string
or one scalar of the value. -/

namespace MyCogni

/-- The characters that separate the strings and the scalars of a text. -/
def structural : Text := ['"', ',', ':', '[', ']', '\x7b', '\x7d']

/-- A word that no separator interrupts. -/
def Solid (word : Text) : Prop := word ≠ [] ∧ ∀ c ∈ structural, c ∉ word

mutual
/-- The word is in no string, no name and no scalar of the value. -/
def Json.lacks (word : Text) : Json → Bool
  | .null => !decide (word <:+: "null".toList)
  | .bool b => !decide (word <:+: if b then "true".toList else "false".toList)
  | .int i => !decide (word <:+: intText i)
  | .str t => !decide (word <:+: escape t)
  | .arr items => itemsLack word items
  | .obj fields => fieldsLack word fields

def itemsLack (word : Text) : List Json → Bool
  | [] => true
  | j :: js => j.lacks word && itemsLack word js

def fieldsLack (word : Text) : List (Text × Json) → Bool
  | [] => true
  | (k, j) :: fs => !decide (word <:+: escape k) && j.lacks word && fieldsLack word fs
end

section Words
variable {word : Text}

theorem prefix_of_not_mem {a b : Text} {c : Char} (hc : c ∉ word) (h : word <+: a ++ c :: b) :
    word <+: a := by
  induction a generalizing word with
  | nil =>
    cases word with
    | nil => exact List.nil_prefix
    | cons d word =>
      rw [List.nil_append, List.cons_prefix_cons] at h
      exact absurd h.1.symm (List.ne_of_not_mem_cons hc)
  | cons x a ih =>
    cases word with
    | nil => exact List.nil_prefix
    | cons d word =>
      rw [List.cons_append, List.cons_prefix_cons] at h
      exact List.cons_prefix_cons.mpr ⟨h.1, ih (List.not_mem_of_not_mem_cons hc) h.2⟩

/-- A word that lacks the separator lies before it or after it. -/
theorem infix_of_not_mem {a b : Text} {c : Char} (hne : word ≠ []) (hc : c ∉ word)
    (h : word <:+: a ++ c :: b) : word <:+: a ∨ word <:+: b := by
  induction a with
  | nil =>
    rcases List.infix_cons_iff.mp h with h | h
    · have := prefix_of_not_mem (a := []) hc h
      exact absurd (List.prefix_nil.mp this) hne
    · exact Or.inr h
  | cons x a ih =>
    rw [List.cons_append] at h
    rcases List.infix_cons_iff.mp h with h | h
    · exact Or.inl (prefix_of_not_mem (a := x :: a) hc h).isInfix
    · exact (ih h).imp_left List.infix_cons

theorem not_infix_separated {a b : Text} {c : Char} (hw : Solid word) (hc : c ∈ structural)
    (ha : ¬word <:+: a) (hb : ¬word <:+: b) : ¬word <:+: a ++ c :: b :=
  fun h => (infix_of_not_mem hw.1 (hw.2 c hc) h).elim ha hb

theorem not_infix_nil (hw : Solid word) : ¬word <:+: [] := fun h => hw.1 (List.infix_nil.mp h)

theorem not_infix_cons {b : Text} {c : Char} (hw : Solid word) (hc : c ∈ structural)
    (hb : ¬word <:+: b) : ¬word <:+: c :: b :=
  not_infix_separated (a := []) hw hc (not_infix_nil hw) hb

theorem not_infix_quote {t u : Text} (hw : Solid word) (ht : ¬word <:+: escape t)
    (hu : ¬word <:+: u) : ¬word <:+: quote t ++ u := by
  rw [quote, List.cons_append, List.cons_append, List.append_assoc]
  exact not_infix_cons hw (by decide) (not_infix_separated hw (by decide) ht hu)

theorem itemsLack_iff {items : List Json} :
    itemsLack word items = true ↔ ∀ j ∈ items, j.lacks word = true := by
  induction items with
  | nil => simp [itemsLack]
  | cons j js ih => rw [itemsLack, Bool.and_eq_true, ih, List.forall_mem_cons]

theorem fieldsLack_iff {fields : List (Text × Json)} :
    fieldsLack word fields = true ↔
      ∀ f ∈ fields, ¬word <:+: escape f.1 ∧ f.2.lacks word = true := by
  induction fields with
  | nil => simp [fieldsLack]
  | cons f fs ih =>
    rw [fieldsLack, Bool.and_eq_true, Bool.and_eq_true, ih, List.forall_mem_cons,
      Bool.not_eq_true', decide_eq_false_iff_not]

theorem lacks_sortKeys (j : Json) : j.sortKeys.lacks word = j.lacks word := by
  induction j using Json.induction with
  | null => rfl
  | bool b => rfl
  | int i => rfl
  | str t => rfl
  | arr items ih =>
    rw [Json.sortKeys, Json.lacks, Json.lacks, sortItems_eq, Bool.eq_iff_iff, itemsLack_iff,
      itemsLack_iff, List.forall_mem_map]
    exact forall₂_congr fun j hj => by rw [ih j hj]
  | obj fields ih =>
    rw [Json.sortKeys, Json.lacks, Json.lacks, Bool.eq_iff_iff, fieldsLack_iff, fieldsLack_iff]
    simp only [(perm_sortFields fields).mem_iff, List.forall_mem_map]
    exact forall₂_congr fun f hf => by rw [ih f hf]

/-- A word that the value lacks is not in its text. -/
theorem not_infix_text (hw : Solid word) {j : Json} (h : j.lacks word = true) :
    ¬word <:+: j.text := by
  induction j using Json.induction with
  | null | bool b | int i =>
    rw [Json.lacks, Bool.not_eq_true', decide_eq_false_iff_not] at h
    exact h
  | str t =>
    rw [Json.lacks, Bool.not_eq_true', decide_eq_false_iff_not] at h
    have hquote := not_infix_quote hw h (not_infix_nil hw)
    rwa [List.append_nil] at hquote
  | arr items ih =>
    rw [Json.lacks, itemsLack_iff] at h
    have htail : ∀ js : List Json, (∀ j ∈ js, ¬word <:+: j.text) →
        ∀ t, ¬word <:+: t → ¬word <:+: t ++ itemsTail js := by
      intro js hjs
      induction js with
      | nil => exact fun t ht => not_infix_separated hw (by decide) ht (not_infix_nil hw)
      | cons j js ih =>
        rw [List.forall_mem_cons] at hjs
        exact fun t ht => not_infix_separated hw (by decide) ht (ih hjs.2 _ hjs.1)
    refine not_infix_cons hw (by decide) ?_
    cases items with
    | nil => exact not_infix_cons hw (by decide) (not_infix_nil hw)
    | cons j js =>
      rw [List.forall_mem_cons] at ih h
      exact htail js (fun j hj => ih.2 j hj (h.2 j hj)) _ (ih.1 h.1)
  | obj fields ih =>
    rw [Json.lacks, fieldsLack_iff] at h
    have htail : ∀ fs : List (Text × Json),
        (∀ f ∈ fs, ¬word <:+: escape f.1 ∧ ¬word <:+: f.2.text) →
        ∀ t, ¬word <:+: t → ¬word <:+: t ++ fieldsTail fs := by
      intro fs hfs
      induction fs with
      | nil => exact fun t ht => not_infix_separated hw (by decide) ht (not_infix_nil hw)
      | cons f fs ih =>
        rw [List.forall_mem_cons] at hfs
        intro t ht
        rw [fieldsTail, List.append_assoc]
        refine not_infix_separated hw (by decide) ht (not_infix_quote hw hfs.1.1 ?_)
        exact not_infix_cons hw (by decide) (ih hfs.2 _ hfs.1.2)
    refine not_infix_cons hw (by decide) ?_
    cases fields with
    | nil => exact not_infix_cons hw (by decide) (not_infix_nil hw)
    | cons f fs =>
      rw [List.forall_mem_cons] at ih h
      rw [fieldsText, List.append_assoc]
      refine not_infix_quote hw h.1.1 (not_infix_cons hw (by decide) ?_)
      exact htail fs (fun f hf => ⟨(h.2 f hf).1, ih.2 f hf (h.2 f hf).2⟩) _ (ih.1 h.1.2)

theorem not_infix_render (hw : Solid word) {j : Json} (h : j.lacks word = true) {t : Text}
    (ht : j.render = some t) : ¬word <:+: t := by
  rw [Json.render, Option.ite_none_right_eq_some] at ht
  rw [← Option.some.inj ht.2]
  exact not_infix_text hw (by rw [lacks_sortKeys, h])

end Words

end MyCogni
