import MyCogni.Base.Bytes

/-! The 128-bit identifiers of the standard library: raw bytes, version, canonical text and the
order of their texts. -/

namespace MyCogni

structure Uuid where
  bytes : Bytes
  length : bytes.length = 16
deriving DecidableEq

namespace Uuid

/-- Version 4 of the RFC 4122 variant. -/
def isV4 (u : Uuid) : Bool := (u.bytes.getD 8 0).toNat / 64 = 2 && (u.bytes.getD 6 0).toNat / 16 = 4

def str (u : Uuid) : Text :=
  hex (u.bytes.take 4) ++ '-' :: hex ((u.bytes.drop 4).take 2) ++
    '-' :: hex ((u.bytes.drop 6).take 2) ++ '-' :: hex ((u.bytes.drop 8).take 2) ++
    '-' :: hex (u.bytes.drop 10)

/-- Parse hexadecimal digits with any hyphens removed; other spellings of the constructor are
never equal to the canonical text that every caller demands next. -/
def parse (t : Text) : Option Uuid := do
  let bs ← unhex (t.filter fun c => c ≠ '-')
  if h : bs.length = 16 then some ⟨bs, h⟩ else none

theorem hyphen_not_mem_hex (bs : Bytes) : '-' ∉ hex bs := by
  intro h
  obtain ⟨b, _, hb⟩ := List.mem_flatMap.mp h
  have hdigit : ∀ n < 16, hexDigit n ≠ '-' := by decide
  have hlt : b.toNat < 256 := b.toNat_lt
  simp only [byteHex, List.mem_cons, List.not_mem_nil, or_false] at hb
  rcases hb with hb | hb
  · exact hdigit _ (by omega) hb.symm
  · exact hdigit _ (by omega) hb.symm

theorem filter_hex (bs : Bytes) : (hex bs).filter (fun c => c ≠ '-') = hex bs := by
  refine List.filter_eq_self.mpr fun c hc => ?_
  simpa using fun h : c = '-' => hyphen_not_mem_hex bs (h ▸ hc)

theorem filter_str (u : Uuid) : u.str.filter (fun c => c ≠ '-') = hex u.bytes := by
  have hsplit : u.bytes = u.bytes.take 4 ++ ((u.bytes.drop 4).take 2 ++ ((u.bytes.drop 6).take 2 ++
      ((u.bytes.drop 8).take 2 ++ u.bytes.drop 10))) := by
    conv_lhs => rw [← List.take_append_drop 4 u.bytes, ← List.take_append_drop 2 (u.bytes.drop 4),
      List.drop_drop, ← List.take_append_drop 2 (u.bytes.drop 6), List.drop_drop,
      ← List.take_append_drop 2 (u.bytes.drop 8), List.drop_drop]
  conv_rhs => rw [hsplit]
  have hcons : ∀ t : Text, ('-' :: t).filter (fun c => c ≠ '-') = t.filter fun c => c ≠ '-' :=
    fun t => by simp
  simp only [str, List.filter_append, hcons, List.cons_append, filter_hex, List.append_assoc]
  simp only [hex, List.flatMap_append]

theorem parse_str (u : Uuid) : parse u.str = some u := by
  rw [parse, filter_str, unhex_hex]
  simp [u.length]

theorem str_injective : Function.Injective str := by
  intro a b h
  have := congrArg parse h
  rwa [parse_str, parse_str, Option.some.injEq] at this

@[simp] theorem length_str (u : Uuid) : u.str.length = 36 := by
  simp only [str, List.length_append, List.length_cons, length_hex, List.length_take,
    List.length_drop, u.length]
  rfl

/-! ### The order of canonical texts -/

def leStr (a b : Uuid) : Prop := (a.str : List Char) ≤ b.str

instance : DecidableRel leStr := fun a b => inferInstanceAs (Decidable ((a.str : List Char) ≤ b.str))

theorem leStr_antisymm {a b : Uuid} (h : leStr a b) (h' : leStr b a) : a = b :=
  str_injective (le_antisymm (α := List Char) h h')

instance : Std.Total leStr := ⟨fun a b => le_total (α := List Char) a.str b.str⟩

instance : IsTrans Uuid leStr := ⟨fun _ _ _ => le_trans (α := List Char)⟩

/-- `sorted(ids, key=str)`. -/
def sorted (ids : List Uuid) : List Uuid := ids.insertionSort leStr

theorem sorted_perm (ids : List Uuid) : (sorted ids).Perm ids := List.perm_insertionSort _ _

/-- The sorted sequence of identifiers depends only on which identifiers there are. -/
theorem sorted_congr {ids ids' : List Uuid} (h : ids.Perm ids') : sorted ids = sorted ids' := by
  apply List.Perm.eq_of_pairwise (fun a b _ _ h h' => leStr_antisymm h h')
  · exact List.pairwise_insertionSort _ _
  · exact List.pairwise_insertionSort _ _
  · exact (sorted_perm ids).trans (h.trans (sorted_perm ids').symm)

end Uuid
end MyCogni
