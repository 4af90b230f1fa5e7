import MyCogni.Preview.Initialize

/-! What every file operation of the preview keeps of the state directory, as long as no call creates
a file beside a manifest, and every new file is written whole. -/

namespace MyCogni.Preview

/-! ### The directory -/

/-- What is written into a file that was created under this name. -/
def payloadOf : Name → Bytes
  | .marker => markerPayload
  | .temporary | .manifest => manifestPayload
  | .other _ => []

namespace Directory

/-- There is a file of this number, and it was created under this name. -/
def Has (d : Directory) (i : Nat) (n : Name) : Prop :=
  ∃ f, d.files[i]? = some f ∧ f.createdAs = n

/-- The file is as a reader wants it. -/
def Whole (d : Directory) (i : Nat) : Prop :=
  ∃ f, d.files[i]? = some f ∧ f.bytes = payloadOf f.createdAs ∧ f.mode = 0o600

structure Inv (d : Directory) : Prop where
  marker : ∀ i, d.marker = some i → d.Has i .marker
  temporary : ∀ i, d.temporary = some i → d.Has i .temporary ∧ d.manifest = none ∧ d.marker ≠ none
  manifest : ∀ i, d.manifest = some i → d.Has i .temporary ∧ d.Whole i
  contents : ∀ f ∈ d.files, f.bytes <+: payloadOf f.createdAs
  others : d.others = []

/-- What one call can rely on of the moves of all others. -/
structure Rely (d d' : Directory) : Prop where
  files : ∀ (i : Nat) (f : File), d.files[i]? = some f → ∃ f' : File, d'.files[i]? = some f' ∧
    f'.createdAs = f.createdAs ∧ f.bytes <+: f'.bytes ∧ (f.mode = 0o600 → f'.mode = 0o600)
  manifest : ∀ i, d.manifest = some i → d'.manifest = some i
  temporary : ∀ i, d.temporary = some i → d'.temporary = some i ∨ d'.manifest = some i
  marked : d.marker ≠ none ∨ d.manifest ≠ none → d'.marker ≠ none ∨ d'.manifest ≠ none
  settled : d.manifest ≠ none → d.marker = none → d'.marker = none

variable {d d' d'' : Directory} {i : Nat} {n : Name}

theorem Rely.refl (d : Directory) : Rely d d :=
  ⟨fun _ f hf => ⟨f, hf, rfl, List.prefix_rfl, id⟩, fun _ h => h, fun _ h => Or.inl h, id,
    fun _ h => h⟩

theorem Rely.manifest_ne (h : Rely d d') (hd : d.manifest ≠ none) : d'.manifest ≠ none := by
  obtain ⟨i, hi⟩ := Option.ne_none_iff_exists'.mp hd
  rw [h.manifest i hi]
  exact Option.some_ne_none i

theorem Rely.trans (h : Rely d d') (h' : Rely d' d'') : Rely d d'' where
  files := by
    intro i f hf
    obtain ⟨f', hf', hname, hbytes, hmode⟩ := h.files i f hf
    obtain ⟨f'', hf'', hname', hbytes', hmode'⟩ := h'.files i f' hf'
    exact ⟨f'', hf'', hname'.trans hname, hbytes.trans hbytes', fun hm => hmode' (hmode hm)⟩
  manifest := fun i hi => h'.manifest i (h.manifest i hi)
  temporary := by
    intro i hi
    rcases h.temporary i hi with hi' | hi'
    · exact h'.temporary i hi'
    · exact Or.inr (h'.manifest i hi')
  marked := fun hm => h'.marked (h.marked hm)
  settled := fun hm hn => h'.settled (h.manifest_ne hm) (h.settled hm hn)

theorem Rely.has (h : Rely d d') (hi : d.Has i n) : d'.Has i n := by
  obtain ⟨f, hf, rfl⟩ := hi
  obtain ⟨f', hf', hname, -⟩ := h.files i f hf
  exact ⟨f', hf', hname⟩

/-- A file that is whole stays so: it cannot get longer. -/
theorem Rely.whole (h : Rely d d') (hd' : d'.Inv) (hi : d.Whole i) : d'.Whole i := by
  obtain ⟨f, hf, hbytes, hmode⟩ := hi
  obtain ⟨f', hf', hname, hgrown, hmode'⟩ := h.files i f hf
  have hpart := hd'.contents f' (List.mem_of_getElem? hf')
  rw [hname, ← hbytes] at hpart
  refine ⟨f', hf', ?_, hmode' hmode⟩
  rw [hname, ← hbytes]
  exact (hpart.eq_of_length_le hgrown.length_le)

/-! ### Its moves -/

theorem getElem?_modify {g : File → File} {j : Nat} :
    (d.modify i g).files[j]? = if i = j then (d.files[j]?).map g else d.files[j]? := by
  simp only [modify, List.getElem?_modify]
  split_ifs <;> cases d.files[j]? <;> rfl

/-- A change of one file. -/
theorem Inv.modify (hd : d.Inv) {g : File → File} (hname : ∀ f, (g f).createdAs = f.createdAs)
    (hgrows : ∀ f, d.files[i]? = some f → f.bytes <+: (g f).bytes ∧
      (g f).bytes <+: payloadOf f.createdAs ∧ (f.mode = 0o600 → (g f).mode = 0o600)) :
    Rely d (d.modify i g) ∧ (d.modify i g).Inv := by
  have hfiles : ∀ (j : Nat) (f : File), d.files[j]? = some f → ∃ f' : File, (d.modify i g).files[j]? = some f' ∧
      f'.createdAs = f.createdAs ∧ f.bytes <+: f'.bytes ∧ (f.mode = 0o600 → f'.mode = 0o600) := by
    intro j f hf
    rw [getElem?_modify]
    split_ifs with hij
    · subst hij
      obtain ⟨hbytes, -, hmode⟩ := hgrows f hf
      exact ⟨g f, by rw [hf]; rfl, hname f, hbytes, hmode⟩
    · exact ⟨f, hf, rfl, List.prefix_rfl, id⟩
  have hrely : Rely d (d.modify i g) :=
    ⟨hfiles, fun _ h => h, fun _ h => Or.inl h, id, fun _ h => h⟩
  have hcontents : ∀ f ∈ (d.modify i g).files, f.bytes <+: payloadOf f.createdAs := by
    intro f hf
    obtain ⟨j, hj⟩ := List.getElem?_of_mem hf
    rw [getElem?_modify] at hj
    split_ifs at hj with hij
    · subst hij
      obtain ⟨f₀, hf₀, rfl⟩ := Option.map_eq_some_iff.mp hj
      rw [hname]
      exact (hgrows f₀ hf₀).2.1
    · exact hd.contents f (List.mem_of_getElem? hj)
  refine ⟨hrely, fun j hj => hrely.has (hd.marker j hj), fun j hj => ?_, fun j hj => ?_, hcontents,
    hd.others⟩
  · obtain ⟨hhas, hrest⟩ := hd.temporary j hj
    exact ⟨hrely.has hhas, hrest⟩
  · obtain ⟨hhas, f, hf, hbytes, hmode⟩ := hd.manifest j hj
    refine ⟨hrely.has hhas, ?_⟩
    obtain ⟨f', hf', hname', hgrown, hmode'⟩ := hfiles j f hf
    have hpart := hcontents f' (List.mem_of_getElem? hf')
    rw [hname', ← hbytes] at hpart
    refine ⟨f', hf', ?_, hmode' hmode⟩
    rw [hname', ← hbytes]
    exact hpart.eq_of_length_le hgrown.length_le

/-- A new file, under a name for which there is none. -/
theorem Inv.create (hd : d.Inv) (hn : n = .marker ∨ n = .temporary) (hfree : d.link n = none)
    (hmanifest : d.manifest = none) (hmarked : n = .temporary → d.marker ≠ none) {f : File}
    (hname : f.createdAs = n) (hbytes : f.bytes <+: payloadOf n) :
    let d' := { d.setLink n (some d.files.length) with files := d.files ++ [f] }
    Rely d d' ∧ d'.Inv ∧ d'.Has d.files.length n ∧ d'.link n = some d.files.length := by
  have hold : ∀ (i : Nat) (g : File), d.files[i]? = some g → (d.files ++ [f])[i]? = some g := by
    intro i g hf
    rw [List.getElem?_append_left (List.getElem?_eq_some_iff.mp hf).1]
    exact hf
  have hnew : (d.files ++ [f])[d.files.length]? = some f := by
    rw [List.getElem?_append_right le_rfl, Nat.sub_self]
    rfl
  have hhas : ∀ (i : Nat) (m : Name), d.Has i m →
      ∃ g, (d.files ++ [f])[i]? = some g ∧ g.createdAs = m := by
    rintro i m ⟨g, hg, hm⟩
    exact ⟨g, hold i g hg, hm⟩
  have hcontents : ∀ g ∈ d.files ++ [f], g.bytes <+: payloadOf g.createdAs := by
    intro g hg
    rcases List.mem_append.mp hg with hg | hg
    · exact hd.contents g hg
    · obtain rfl := List.mem_singleton.mp hg
      rw [hname]
      exact hbytes
  have hfiles : ∀ (i : Nat) (g : File), d.files[i]? = some g → ∃ g' : File,
      (d.files ++ [f])[i]? = some g' ∧ g'.createdAs = g.createdAs ∧ g.bytes <+: g'.bytes ∧
        (g.mode = 0o600 → g'.mode = 0o600) :=
    fun i g hg => ⟨g, hold i g hg, rfl, List.prefix_rfl, id⟩
  rcases hn with rfl | rfl
  · refine ⟨⟨hfiles, fun _ h => h, fun _ h => Or.inl h, fun _ => Or.inl (Option.some_ne_none _),
      fun hm => absurd hmanifest hm⟩, ⟨?_, ?_, ?_, hcontents, hd.others⟩, ⟨_, hnew, hname⟩, rfl⟩
    · intro i hi
      obtain rfl := Option.some.inj hi
      exact ⟨_, hnew, hname⟩
    · intro i hi
      obtain ⟨hi, -⟩ := hd.temporary i hi
      exact ⟨hhas i _ hi, hmanifest, Option.some_ne_none _⟩
    · intro i hi
      exact nomatch hmanifest.symm.trans hi
  · have hnone : d.temporary = none := hfree
    refine ⟨⟨hfiles, fun _ h => h, fun i hi => absurd (hnone.symm.trans hi) nofun,
      fun _ => Or.inl (hmarked rfl), fun hm => absurd hmanifest hm⟩,
      ⟨?_, ?_, ?_, hcontents, hd.others⟩, ⟨_, hnew, hname⟩, rfl⟩
    · exact fun i hi => hhas i _ (hd.marker i hi)
    · intro i hi
      obtain rfl := Option.some.inj hi
      exact ⟨⟨_, hnew, hname⟩, hmanifest, hmarked rfl⟩
    · intro i hi
      exact nomatch hmanifest.symm.trans hi

/-- The temporary manifest gets its final name. -/
theorem Inv.rename (hd : d.Inv) (hi : d.temporary = some i) (hwhole : d.Whole i) :
    Rely d { d with temporary := none, manifest := some i } ∧
      ({ d with temporary := none, manifest := some i } : Directory).Inv := by
  obtain ⟨hhas, hmanifest, hmarker⟩ := hd.temporary i hi
  refine ⟨⟨fun _ f hf => ⟨f, hf, rfl, List.prefix_rfl, id⟩, ?_, ?_, fun _ => Or.inl hmarker,
    fun hm => absurd hmanifest hm⟩, ⟨hd.marker, nofun, ?_, hd.contents, hd.others⟩⟩
  · intro j hj
    exact nomatch hmanifest.symm.trans hj
  · intro j hj
    exact Or.inr (hi.symm.trans hj)
  · intro j hj
    obtain rfl := Option.some.inj hj
    exact ⟨hhas, hwhole⟩

/-- The marker is taken away. -/
theorem Inv.unlink (hd : d.Inv) (hmanifest : d.manifest ≠ none) :
    Rely d { d with marker := none } ∧ ({ d with marker := none } : Directory).Inv := by
  refine ⟨⟨fun _ f hf => ⟨f, hf, rfl, List.prefix_rfl, id⟩, fun _ h => h, fun _ h => Or.inl h,
    fun _ => Or.inr hmanifest, fun _ _ => rfl⟩, ⟨nofun, ?_, hd.manifest, hd.contents, hd.others⟩⟩
  intro i hi
  exact absurd (hd.temporary i hi).2.1 hmanifest

theorem entries_eq_manifest : d.entries = [.manifest] ↔
    d.marker = none ∧ d.temporary = none ∧ d.manifest ≠ none ∧ d.others = [] := by
  obtain ⟨m, t, f, os, fs⟩ := d
  cases m <;> cases t <;> cases f <;> cases os <;> simp [entries, link]

end Directory

/-! ### What is expected of a call -/

/-- What has to be true of the directory when an operation comes. -/
def requires : Op → Directory → Prop
  | .write i payload, d => ∃ f, d.files[i]? = some f ∧ f.mode = 0o600 ∧ payload = payloadOf f.createdAs
  | _, _ => True

/-- A new file is written whole, and none is created beside a manifest. -/
def allowed : Op → Fate → Directory → Prop
  | .create n, .done _, d => d.manifest = none ∨ d.link n ≠ none
  | .chmod _, .fails _, _ => False
  | .write _ _, .fails _, _ => False
  | .write _ payload, .done bytes, _ => payload.length ≤ bytes
  | _, _, _ => True

instance (o : Op) (fate : Fate) (d : Directory) : Decidable (allowed o fate d) := by
  cases o <;> cases fate <;> unfold allowed <;> infer_instance

def discipline : Program.Discipline Op Fate Directory where
  rely := Directory.Rely
  guarantee := Directory.Rely
  inv := Directory.Inv
  requires := requires
  allowed := allowed
  refl := Directory.Rely.refl
  trans _ _ _ := Directory.Rely.trans

end MyCogni.Preview
