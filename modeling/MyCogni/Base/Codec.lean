import MyCogni.Base.Json
import MyCogni.Base.Outcome
import MyCogni.Base.Table

/-! Codecs between values and JSON, built from one another. Each carries its laws: what it writes
has no duplicate names, it reads back the values that fit and can be rendered, and it reads
nothing else. -/

namespace MyCogni

structure Codec (α : Type) where
  encode : α → Json
  decode : Json → Option α
  /-- The values that are read back. -/
  Fits : α → Prop
  unique : ∀ a, (encode a).uniqueKeys = true
  decode_encode : ∀ a, Fits a → (encode a).digitsOk = true → decode (encode a).sortKeys = some a
  fits : ∀ j a, decode j = some a → Fits a
  digits : ∀ j a, decode j = some a → (encode a).digitsOk = true

namespace Codec
variable {α β : Type}

def text : Codec Text where
  encode := .str
  decode
    | .str t => some t
    | _ => none
  Fits _ := True
  unique _ := rfl
  decode_encode _ _ _ := rfl
  fits _ _ _ := trivial
  digits _ _ _ := rfl

/-- One fixed text. -/
def constant (t : Text) : Codec Unit where
  encode _ := .str t
  decode
    | .str u => if u = t then some () else none
    | _ => none
  Fits _ := True
  unique _ := rfl
  decode_encode _ _ _ := if_pos rfl
  fits _ _ _ := trivial
  digits _ _ _ := rfl

def bool : Codec Bool where
  encode := .bool
  decode
    | .bool b => some b
    | _ => none
  Fits _ := True
  unique _ := rfl
  decode_encode _ _ _ := rfl
  fits _ _ _ := trivial
  digits _ _ _ := rfl

/-- Integers. The reader of the standard library converts no longer ones than its writer. -/
def int : Codec Int where
  encode := .int
  decode
    | .int i => if strDigitsOk i then some i else none
    | _ => none
  Fits _ := True
  unique _ := rfl
  decode_encode _ _ h := if_pos h
  fits _ _ _ := trivial
  digits j i h := by
    cases j with
    | int n =>
      simp only [Option.ite_none_right_eq_some] at h
      exact Option.some.inj h.2 ▸ h.1
    | null | bool | str | arr | obj => exact nomatch h

/-- A codec of other values, that are read from those of the first where `read` accepts them. -/
def refine (c : Codec α) (write : β → α) (read : α → Option β)
    (hfits : ∀ a b, c.Fits a → read a = some b → c.Fits (write b) ∧ read (write b) = some b)
    (hdigits : ∀ a b, (c.encode a).digitsOk = true → read a = some b →
      (c.encode (write b)).digitsOk = true) : Codec β where
  encode b := c.encode (write b)
  decode j := c.decode j >>= read
  Fits b := c.Fits (write b) ∧ read (write b) = some b
  unique b := c.unique (write b)
  decode_encode b h hb := by
    rw [c.decode_encode (write b) h.1 hb]
    exact h.2
  fits j b h := by
    obtain ⟨a, ha, hb⟩ := Option.bind_eq_some_iff.mp h
    exact hfits a b (c.fits j a ha) hb
  digits j b h := by
    obtain ⟨a, ha, hb⟩ := Option.bind_eq_some_iff.mp h
    exact hdigits a b (c.digits j a ha) hb

/-- A text that stands for a value. -/
def spelled (write : β → Text) (read : Text → Option β)
    (h : ∀ t b, read t = some b → read (write b) = some b) : Codec β :=
  text.refine write read (fun t b _ hb => ⟨trivial, h t b hb⟩) fun _ _ _ _ => rfl

/-- A value in another form, with a check on what is read. -/
def checked (c : Codec α) (write : β → α) (read : α → β) (valid : β → Prop)
    [DecidablePred valid] (h : ∀ a, write (read a) = a) : Codec β :=
  c.refine write (fun a => if valid (read a) then some (read a) else none)
    (fun a b ha hb => by
      rw [Option.ite_none_right_eq_some] at hb
      obtain rfl := Option.some.inj hb.2
      rw [h a, if_pos hb.1]
      exact ⟨ha, rfl⟩)
    fun a b ha hb => by
      rw [Option.ite_none_right_eq_some] at hb
      obtain rfl := Option.some.inj hb.2
      rw [h a]
      exact ha

theorem fits_checked {c : Codec α} {write : β → α} {read : α → β} {valid : β → Prop}
    {_ : DecidablePred valid} {h : ∀ a, write (read a) = a} {b : β} (hb : read (write b) = b) :
    (checked c write read valid h).Fits b ↔ c.Fits (write b) ∧ valid b := by
  refine and_congr_right fun _ => ?_
  change (if valid (read (write b)) then some (read (write b)) else none) = some b ↔ valid b
  rw [hb, Option.ite_none_right_eq_some, and_iff_left rfl]

/-- A value that may be missing. -/
def nullable (c : Codec α) (h : ∀ a, (c.encode a).sortKeys ≠ .null) : Codec (Option α) where
  encode
    | none => .null
    | some a => c.encode a
  decode
    | .null => some none
    | j => (c.decode j).map some
  Fits o := ∀ a ∈ o, c.Fits a
  unique
    | none => rfl
    | some a => c.unique a
  decode_encode
    | none, _, _ => rfl
    | some a, ha, hd => by
      have hne := h a
      have hread := c.decode_encode a (ha a rfl) hd
      generalize (c.encode a).sortKeys = j at hne hread
      cases j with
      | null => exact absurd rfl hne
      | bool | int | str | arr | obj => exact congrArg (Option.map some) hread
  fits j o h a ha := by
    cases j with
    | null =>
      obtain rfl := Option.some.inj h
      exact nomatch ha
    | bool | int | str | arr | obj =>
      obtain ⟨a', hread, rfl⟩ := Option.map_eq_some_iff.mp h
      obtain rfl := Option.some.inj ha
      exact c.fits _ _ hread
  digits j o h := by
    cases j with
    | null =>
      obtain rfl := Option.some.inj h
      rfl
    | bool | int | str | arr | obj =>
      obtain ⟨a', hread, rfl⟩ := Option.map_eq_some_iff.mp h
      exact c.digits _ _ hread

/-! ### Sequences -/

theorem mapM_map_eq_some {f : β → Option α} {g : α → β} {l : List α}
    (h : ∀ a ∈ l, f (g a) = some a) : (l.map g).mapM f = some l := by
  induction l with
  | nil => rfl
  | cons a l ih =>
    rw [List.forall_mem_cons] at h
    rw [List.map_cons, List.mapM_cons, h.1, ih h.2]
    rfl

theorem forall_mem_of_mapM {f : β → Option α} {p : α → Prop} (hf : ∀ b a, f b = some a → p a)
    {bs : List β} {l : List α} (h : bs.mapM f = some l) : ∀ a ∈ l, p a := by
  induction bs generalizing l with
  | nil =>
    obtain rfl := Option.some.inj h
    exact fun a ha => nomatch ha
  | cons b bs ih =>
    rw [List.mapM_cons] at h
    obtain ⟨a, ha, h⟩ := Option.bind_eq_some_iff.mp h
    obtain ⟨l', hl', h⟩ := Option.bind_eq_some_iff.mp h
    obtain rfl := Option.some.inj h
    exact List.forall_mem_cons.mpr ⟨hf b a ha, ih hl'⟩

def list (c : Codec α) : Codec (List α) where
  encode l := .arr (l.map c.encode)
  decode
    | .arr items => items.mapM c.decode
    | _ => none
  Fits l := ∀ a ∈ l, c.Fits a
  unique l := by
    rw [Json.uniqueKeys, itemsUnique_iff, List.forall_mem_map]
    exact fun a _ => c.unique a
  decode_encode l h hd := by
    rw [Json.digitsOk, itemsDigitsOk_iff, List.forall_mem_map] at hd
    rw [Json.sortKeys, sortItems_eq, List.map_map]
    exact mapM_map_eq_some fun a ha => c.decode_encode a (h a ha) (hd a ha)
  fits j l h := by
    cases j with
    | arr items => exact forall_mem_of_mapM c.fits h
    | null | bool | int | str | obj => exact nomatch h
  digits j l h := by
    cases j with
    | arr items =>
      rw [Json.digitsOk, itemsDigitsOk_iff, List.forall_mem_map]
      exact forall_mem_of_mapM c.digits h
    | null | bool | int | str | obj => exact nomatch h

/-- A list of exactly two items. -/
def pair (c : Codec α) (d : Codec β) : Codec (α × β) where
  encode p := .arr [c.encode p.1, d.encode p.2]
  decode
    | .arr [j, j'] => do
      let a ← c.decode j
      let b ← d.decode j'
      some (a, b)
    | _ => none
  Fits p := c.Fits p.1 ∧ d.Fits p.2
  unique p := by simp [Json.uniqueKeys, itemsUnique, c.unique, d.unique]
  decode_encode p h hd := by
    simp only [Json.digitsOk, itemsDigitsOk, Bool.and_true, Bool.and_eq_true] at hd
    simp [Json.sortKeys, sortItems, c.decode_encode _ h.1 hd.1, d.decode_encode _ h.2 hd.2]
  fits j p h := by
    split at h
    · obtain ⟨a, ha, h⟩ := Option.bind_eq_some_iff.mp h
      obtain ⟨b, hb, h⟩ := Option.bind_eq_some_iff.mp h
      obtain rfl := Option.some.inj h
      exact ⟨c.fits _ a ha, d.fits _ b hb⟩
    · exact nomatch h
  digits j p h := by
    split at h
    · obtain ⟨a, ha, h⟩ := Option.bind_eq_some_iff.mp h
      obtain ⟨b, hb, h⟩ := Option.bind_eq_some_iff.mp h
      obtain rfl := Option.some.inj h
      simp [Json.digitsOk, itemsDigitsOk, c.digits _ a ha, d.digits _ b hb]
    · exact nomatch h

/-! ### Tables -/

section Table
variable {κ ρ : Type} [LinearOrder κ] {key : ρ → κ}

/-- The table of rows that stand under their own keys, no two under one key. -/
def readRows (key : ρ → κ) (ps : List (κ × ρ)) : Option (Table key) :=
  if (ps.map Prod.fst).Nodup ∧ ∀ p ∈ ps, key p.2 = p.1 then
    some (Table.ofRows key (ps.map Prod.snd))
  else none

theorem readRows_rows (t : Table key) :
    readRows key (t.rows.map fun r => (key r, r)) = some t := by
  have hkeys : (t.rows.map fun r => (key r, r)).map Prod.fst = t.rows.map key := by
    rw [List.map_map]
    rfl
  have hrows : (t.rows.map fun r => (key r, r)).map Prod.snd = t.rows := by
    rw [List.map_map]
    exact List.map_id _
  rw [readRows, hkeys, hrows, Table.ofRows_rows, if_pos]
  refine ⟨t.nodup_keys, List.forall_mem_map.mpr fun r _ => rfl⟩

theorem mem_of_readRows {ps : List (κ × ρ)} {t : Table key} (h : readRows key ps = some t) {r : ρ}
    (hr : r ∈ t.rows) : (key r, r) ∈ ps := by
  unfold readRows at h
  split_ifs at h with hps
  obtain rfl := Option.some.inj h
  have hkeys : (ps.map Prod.snd).map key = ps.map Prod.fst := by
    rw [List.map_map]
    exact List.map_congr_left fun p hp => hps.2 p hp
  rw [Table.mem_ofRows (hkeys ▸ hps.1)] at hr
  obtain ⟨p, hp, rfl⟩ := List.mem_map.mp hr
  rw [hps.2 p hp]
  exact hp

/-- A table as a list of its rows, each next to its key. -/
def table (key : ρ → κ) (k : Codec κ) (c : Codec ρ) : Codec (Table key) :=
  (list (pair k c)).refine (fun t => t.rows.map fun r => (key r, r)) (readRows key)
    (fun _ t hps ht => ⟨List.forall_mem_map.mpr fun _ hr => hps _ (mem_of_readRows ht hr),
      readRows_rows t⟩)
    fun ps t hps ht => by
      simp only [list, Json.digitsOk, itemsDigitsOk_iff, List.forall_mem_map] at hps ⊢
      exact fun r hr => hps _ (mem_of_readRows ht hr)

theorem fits_table {k : Codec κ} {c : Codec ρ} {t : Table key} :
    (table key k c).Fits t ↔ ∀ r ∈ t.rows, k.Fits (key r) ∧ c.Fits r := by
  constructor
  · intro h r hr
    exact h.1 _ (List.mem_map_of_mem hr)
  · intro h
    exact ⟨List.forall_mem_map.mpr h, readRows_rows t⟩

end Table

end Codec

/-! ### Objects -/

/-- A codec of some fields of an object. -/
structure Fields (α : Type) where
  names : List String
  encode : α → List (Text × Json)
  decode : Json → Option α
  Fits : α → Prop
  named : ∀ a, (encode a).map Prod.fst = names.map String.toList
  unique : ∀ a, ∀ f ∈ encode a, f.2.uniqueKeys = true
  decode_encode : ∀ a j, Fits a → (∀ f ∈ encode a, f.2.digitsOk = true) →
    (∀ f ∈ encode a, j.get? f.1 = some f.2.sortKeys) → decode j = some a
  fits : ∀ j a, decode j = some a → Fits a
  digits : ∀ j a, decode j = some a → ∀ f ∈ encode a, f.2.digitsOk = true

namespace Fields
variable {α β : Type}

def field (name : String) (c : Codec α) : Fields α where
  names := [name]
  encode a := [(name.toList, c.encode a)]
  decode j := j.field name >>= c.decode
  Fits := c.Fits
  named _ := rfl
  unique a f hf := by
    obtain rfl := List.mem_singleton.mp hf
    exact c.unique a
  decode_encode a j h hd hget := by
    have hfield : j.field name = some (c.encode a).sortKeys := hget _ List.mem_cons_self
    rw [hfield]
    exact c.decode_encode a h (hd _ List.mem_cons_self)
  fits j a h := by
    obtain ⟨j', -, ha⟩ := Option.bind_eq_some_iff.mp h
    exact c.fits j' a ha
  digits j a h f hf := by
    obtain ⟨j', -, ha⟩ := Option.bind_eq_some_iff.mp h
    obtain rfl := List.mem_singleton.mp hf
    exact c.digits j' a ha

/-- The fields of the one and of the other. -/
def and (f : Fields α) (g : Fields β) : Fields (α × β) where
  names := f.names ++ g.names
  encode p := f.encode p.1 ++ g.encode p.2
  decode j := do
    let a ← f.decode j
    let b ← g.decode j
    some (a, b)
  Fits p := f.Fits p.1 ∧ g.Fits p.2
  named p := by rw [List.map_append, List.map_append, f.named, g.named]
  unique p := List.forall_mem_append.mpr ⟨f.unique p.1, g.unique p.2⟩
  decode_encode p j h hd hget := by
    rw [List.forall_mem_append] at hd hget
    rw [f.decode_encode p.1 j h.1 hd.1 hget.1, g.decode_encode p.2 j h.2 hd.2 hget.2]
    rfl
  fits j p h := by
    obtain ⟨a, ha, h⟩ := Option.bind_eq_some_iff.mp h
    obtain ⟨b, hb, h⟩ := Option.bind_eq_some_iff.mp h
    obtain rfl := Option.some.inj h
    exact ⟨f.fits j a ha, g.fits j b hb⟩
  digits j p h := by
    obtain ⟨a, ha, h⟩ := Option.bind_eq_some_iff.mp h
    obtain ⟨b, hb, h⟩ := Option.bind_eq_some_iff.mp h
    obtain rfl := Option.some.inj h
    exact List.forall_mem_append.mpr ⟨f.digits j a ha, g.digits j b hb⟩

/-- An object with exactly these fields, in any order. -/
def object (f : Fields α) (hnodup : f.names.Nodup) : Codec α where
  encode a := .obj (f.encode a)
  decode j := do
    j.exactMapping f.names
    f.decode j
  Fits := f.Fits
  unique a := by
    rw [Json.uniqueKeys, Bool.and_eq_true, decide_eq_true_eq, fieldsUnique_iff, f.named]
    exact ⟨hnodup.map fun _ _ => String.toList_injective, f.unique a⟩
  decode_encode a h hd := by
    have hkeys : ((f.encode a).map Prod.fst).Nodup := by
      rw [f.named]
      exact hnodup.map fun _ _ => String.toList_injective
    rw [Json.digitsOk, fieldsDigitsOk_iff] at hd
    rw [exactMapping_sortKeys (f.named a)]
    refine f.decode_encode a _ h hd fun x hx => ?_
    rw [get?_sortKeys hkeys, (lookup_eq_some_of_nodup hkeys).mpr hx]
    rfl
  fits j a h := by
    obtain ⟨-, -, ha⟩ := Option.bind_eq_some_iff.mp h
    exact f.fits j a ha
  digits j a h := by
    obtain ⟨-, -, ha⟩ := Option.bind_eq_some_iff.mp h
    rw [Json.digitsOk, fieldsDigitsOk_iff]
    exact f.digits j a ha

end Fields
end MyCogni
