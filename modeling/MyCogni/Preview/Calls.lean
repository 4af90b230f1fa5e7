import MyCogni.Preview.Moves

/-! The calls keep to the discipline: whatever the others do between two operations of a call, it
moves the directory as the others rely on, and `health` finds the preview ready only where the
directory holds the manifest and nothing else. -/

namespace MyCogni.Preview

open Act Directory

variable {α β : Type} {host : Host} {d : Directory}

/-- The call keeps to the discipline, and what it returns is as it should be. -/
def Keeps (host : Host) (p : Act α) (post : α → Directory → Prop) (d : Directory) : Prop :=
  Program.Holds (exec host) discipline p.run (fun r d => ∀ a, r = .ok a → post a d) d

/-! ### The rules -/

theorem keeps_pure {a : α} {post : α → Directory → Prop} (h : post a d) : Keeps host (pure a) post d := by
  intro b hb
  obtain rfl := Except.ok.inj hb
  exact h

theorem keeps_throw (e : Fault) (post : α → Directory → Prop) : Keeps host (throw e) post d :=
  fun _ hb => nomatch hb

theorem keeps_bind {p : Act α} {f : α → Act β} {post : β → Directory → Prop}
    (h : Keeps host p (fun a d => Keeps host (f a) post d) d) : Keeps host (p >>= f) post d := by
  refine Program.Holds.bind (Program.Holds.mono h fun r d hr => ?_)
  cases r with
  | error e => exact keeps_throw e post
  | ok a => exact hr a rfl

theorem keeps_of_except {x : Except Fault α} {post : α → Directory → Prop}
    (h : ∀ a, x = .ok a → post a d) : Keeps host (ExceptT.mk (pure x)) post d := h

theorem keeps_demand {c : Prop} [Decidable c] {e : Fault} {post : Unit → Directory → Prop}
    (h : c → post () d) : Keeps host (demand c e) post d := by
  unfold demand
  split_ifs with hc
  · exact keeps_pure (h hc)
  · exact keeps_throw e post

theorem keeps_translating {f : Fault → Fault} {p : Act α} {post : α → Directory → Prop}
    (h : Keeps host p post d) : Keeps host (translating f p) post d := by
  refine Program.Holds.bind (Program.Holds.mono h fun r d hr => ?_)
  intro a ha
  cases r with
  | error e => exact nomatch ha
  | ok b => exact hr a ha

/-- The operation leaves the directory as it is. -/
def Op.looks : Op → Bool
  | .create _ | .chmod _ | .write _ _ | .rename _ _ | .unlink _ => false
  | _ => true

theorem exec_looks {o : Op} (ho : o.looks = true) (fate : Fate) (d : Directory) :
    (exec host o fate d).2 = d := by
  cases fate with
  | fails e => rfl
  | done bytes =>
    cases o <;> first | exact absurd ho Bool.false_ne_true | rfl | skip
    all_goals
      simp only [exec, execDone]
      split <;> rfl

theorem requires_looks {o : Op} (ho : o.looks = true) (d : Directory) : requires o d := by
  cases o <;> first | exact absurd ho Bool.false_ne_true | trivial

theorem keeps_look {o : Op} (ho : o.looks = true) {post : Value o → Directory → Prop}
    (h : ∀ d' fate a, Rely d d' → d'.Inv → (exec host o fate d').1 = .ok a → post a d') :
    Keeps host (sys o) post d := by
  intro d' hrely hinv
  refine ⟨requires_looks ho d', fun fate _ => ?_⟩
  have hsame : (exec host o fate d').2 = d' := exec_looks ho fate d'
  refine ⟨?_, fun a ha => ?_⟩
  · rw [hsame]
    exact ⟨Rely.refl d', hinv⟩
  · rw [hsame]
    exact h d' fate a hrely hinv ha

theorem keeps_closing {o : Op} (ho : o.looks = true) {p : Act α} {post : α → Directory → Prop}
    (h : Keeps host p (fun a d => ∀ d', Rely d d' → d'.Inv → post a d') d) :
    Keeps host (closing o p) post d := by
  refine Program.Holds.bind (Program.Holds.mono h fun r d hr => ?_)
  intro d' hrely hinv
  refine ⟨requires_looks ho d', fun fate _ => ?_⟩
  have hsame : (exec host o fate d').2 = d' := exec_looks ho fate d'
  refine ⟨?_, ?_⟩
  · rw [hsame]
    exact ⟨Rely.refl d', hinv⟩
  · rw [hsame]
    generalize (exec host o fate d').1 = c
    cases c with
    | error e => exact fun a ha => nomatch ha
    | ok u => exact fun a ha => hr a ha d' hrely hinv

/-! ### What a call knows of a file -/

/-- The file begins with these bytes. -/
def Directory.Contains (d : Directory) (i : Nat) (data : Bytes) : Prop :=
  ∃ f, d.files[i]? = some f ∧ data <+: f.bytes

/-- The file is for its owner only. -/
def Directory.Private (d : Directory) (i : Nat) : Prop :=
  ∃ f, d.files[i]? = some f ∧ f.mode = 0o600

/-- The file is the temporary manifest, or has become the manifest. -/
def Directory.Placed (d : Directory) (i : Nat) : Prop :=
  d.Has i .temporary ∧ (d.temporary = some i ∨ d.manifest = some i)

section Knowledge
variable {d' : Directory} {i : Nat} {n : Name} {data : Bytes}

theorem Directory.Rely.contains (h : Rely d d') (hi : d.Contains i data) : d'.Contains i data := by
  obtain ⟨f, hf, hdata⟩ := hi
  obtain ⟨f', hf', -, hbytes, -⟩ := h.files i f hf
  exact ⟨f', hf', hdata.trans hbytes⟩

theorem Directory.Rely.isPrivate (h : Rely d d') (hi : d.Private i) : d'.Private i := by
  obtain ⟨f, hf, hmode⟩ := hi
  obtain ⟨f', hf', -, -, hmode'⟩ := h.files i f hf
  exact ⟨f', hf', hmode' hmode⟩

theorem Directory.Rely.placed (h : Rely d d') (hi : d.Placed i) : d'.Placed i := by
  refine ⟨h.has hi.1, ?_⟩
  rcases hi.2 with ht | hm
  · exact h.temporary i ht
  · exact Or.inr (h.manifest i hm)

theorem Directory.Inv.exists_file (hd : d.Inv) (h : d.link n = some i) : ∃ f, d.files[i]? = some f := by
  cases n with
  | marker =>
    obtain ⟨f, hf, -⟩ := hd.marker i h
    exact ⟨f, hf⟩
  | temporary =>
    obtain ⟨⟨f, hf, -⟩, -⟩ := hd.temporary i h
    exact ⟨f, hf⟩
  | manifest =>
    obtain ⟨⟨f, hf, -⟩, -⟩ := hd.manifest i h
    exact ⟨f, hf⟩
  | other t => exact nomatch h

/-- A file with the bytes of a manifest has no others. -/
theorem Directory.Inv.whole (hd : d.Inv) (hn : d.Has i n) (hprivate : d.Private i)
    (hdata : d.Contains i (payloadOf n)) : d.Whole i := by
  obtain ⟨f, hf, rfl⟩ := hn
  obtain ⟨f', hf', hmode⟩ := hprivate
  obtain ⟨f'', hf'', hbytes⟩ := hdata
  obtain rfl := Option.some.inj (hf.symm.trans hf')
  obtain rfl := Option.some.inj (hf.symm.trans hf'')
  have hpart := hd.contents f (List.mem_of_getElem? hf)
  exact ⟨f, hf, hpart.eq_of_length_le hbytes.length_le, hmode⟩

theorem exec_openFile {fate : Fate} (h : (exec host (.openFile n) fate d).1 = .ok i) :
    d.link n = some i := by
  cases fate with
  | fails e => exact nomatch h
  | done bytes =>
    simp only [exec, execDone] at h
    split at h
    · next j hj => exact hj.trans (congrArg some (Except.ok.inj h))
    · exact nomatch h

theorem exec_stat {fate : Fate} {metadata : Stat} (h : (exec host (.stat i) fate d).1 = .ok metadata) :
    ∃ f, d.files[i]? = some f ∧ metadata = ⟨f.mode, d.links i, f.bytes.length⟩ := by
  cases fate with
  | fails e => exact nomatch h
  | done bytes =>
    simp only [exec, execDone] at h
    split at h
    · next f hf => exact ⟨f, hf, (Except.ok.inj h).symm⟩
    · exact nomatch h

theorem exec_read {fate : Fate} {wanted : Nat} {chunk : Bytes} (hi : d.Contains i data)
    (h : (exec host (.read i data.length wanted) fate d).1 = .ok chunk) :
    d.Contains i (data ++ chunk) := by
  obtain ⟨f, hf, rest, hrest⟩ := hi
  cases fate with
  | fails e => exact nomatch h
  | done bytes =>
    simp only [exec, execDone, hf] at h
    obtain rfl := Except.ok.inj h
    refine ⟨f, hf, ?_⟩
    rw [← hrest, List.drop_left, List.prefix_append_right_inj]
    exact List.take_prefix _ rest

end Knowledge

/-! ### Readers -/

section Readers
variable {i : Nat} {n : Name}

theorem keeps_readAll (rounds remaining : Nat) {data : Bytes} {post : Bytes → Directory → Prop}
    (hd : d.Inv) (hdata : d.Contains i data)
    (h : ∀ d' data', Rely d d' → d'.Inv → d'.Contains i data' → post data' d') :
    Keeps host (readAll i rounds remaining data) post d := by
  induction rounds generalizing remaining data d with
  | zero => cases remaining <;> exact keeps_pure (h d data (Rely.refl d) hd hdata)
  | succ rounds ih =>
    cases remaining with
    | zero => exact keeps_pure (h d data (Rely.refl d) hd hdata)
    | succ remaining =>
      refine keeps_bind (keeps_look rfl fun d' fate chunk hrely hinv hchunk => ?_)
      have hdata' := hrely.contains hdata
      split_ifs
      · exact keeps_pure (h d' data hrely hinv hdata')
      · refine ih _ hinv (exec_read hdata' hchunk) fun d'' data'' hrely' => ?_
        exact h d'' data'' (hrely.trans hrely')

/-- What a reader has seen: bytes of a private file, which it knows under the temporary name. -/
theorem keeps_managedFile {limit : Nat} {post : Bytes → Directory → Prop}
    (h : ∀ d' i data, Rely d d' → d'.Inv → (n = .temporary → d'.Placed i) → d'.Private i →
      d'.Contains i data → post data d') : Keeps host (managedFile n limit) post d := by
  refine keeps_bind (keeps_translating (keeps_look rfl fun d₁ _ i h₁ hd₁ hopen => ?_))
  have hlink := exec_openFile hopen
  have hplaced : n = .temporary → d₁.Placed i := by
    rintro rfl
    exact ⟨(hd₁.temporary i hlink).1, Or.inl hlink⟩
  refine keeps_closing rfl (keeps_translating ?_)
  refine keeps_bind (keeps_look rfl fun d₂ _ metadata h₂ hd₂ hstat => ?_)
  obtain ⟨f, hf, rfl⟩ := exec_stat hstat
  refine keeps_bind (keeps_demand fun ⟨hmode, _⟩ => ?_)
  have hprivate : d₂.Private i := ⟨f, hf, hmode⟩
  refine keeps_bind (keeps_readAll _ _ hd₂ ⟨f, hf, List.nil_prefix⟩ fun d₃ data h₃ hd₃ hdata => ?_)
  refine keeps_bind (keeps_demand fun _ => keeps_pure fun d₄ h₄ hd₄ => ?_)
  refine h d₄ i data (h₁.trans (h₂.trans (h₃.trans h₄))) hd₄ (fun hn => ?_) ?_ ?_
  · exact (h₂.trans (h₃.trans h₄)).placed (hplaced hn)
  · exact (h₃.trans h₄).isPrivate hprivate
  · exact h₄.contains hdata

/-- An exact manifest under the temporary name is whole. -/
theorem keeps_readExactManifest {post : Unit → Directory → Prop}
    (h : ∀ d', Rely d d' → d'.Inv → (n = .temporary → ∃ i, d'.Placed i ∧ d'.Whole i) → post () d') :
    Keeps host (readExactManifest host n) post d := by
  refine keeps_bind (keeps_managedFile fun d' i data hrely hinv hplaced hprivate hdata => ?_)
  refine keeps_bind (keeps_of_except fun same _ => keeps_demand fun ⟨_, hsame⟩ => ?_)
  refine h d' hrely hinv fun hn => ?_
  rw [hsame] at hdata
  exact ⟨i, hplaced hn, hinv.whole (hplaced hn).1 hprivate hdata⟩

end Readers

/-! ### Writers -/

/-- The directory is marked as one that is being set up, or has been. -/
def Directory.Marked (d : Directory) : Prop := d.marker ≠ none ∨ d.manifest ≠ none

section Writers
variable {i : Nat} {n : Name}

/-- An operation that fails leaves the directory to the others. -/
theorem keeps_sys {o : Op} {post : Value o → Directory → Prop}
    (h : ∀ d', Rely d d' → d'.Inv → requires o d' ∧ ∀ bytes, allowed o (.done bytes) d' →
      (Rely d' (execDone host bytes o d').2 ∧ (execDone host bytes o d').2.Inv) ∧
        ∀ a, (execDone host bytes o d').1 = .ok a → post a (execDone host bytes o d').2) :
    Keeps host (sys o) post d := by
  intro d' hrely hinv
  obtain ⟨hrequires, hdone⟩ := h d' hrely hinv
  refine ⟨hrequires, fun fate hallowed => ?_⟩
  cases fate with
  | fails e => exact ⟨⟨Rely.refl d', hinv⟩, fun a ha => nomatch ha⟩
  | done bytes => exact hdone bytes hallowed

theorem keeps_create (hn : n = .marker ∨ n = .temporary) (hmarked : n = .temporary → d.Marked)
    {post : Nat → Directory → Prop}
    (h : ∀ d' i, Rely d d' → d'.Inv → d'.Has i n → d'.link n = some i → post i d') :
    Keeps host (sys (.create n)) post d := by
  refine keeps_sys fun d' hrely hinv => ⟨trivial, fun bytes hallowed => ?_⟩
  cases hlink : d'.link n with
  | some j =>
    simp only [execDone, hlink]
    exact ⟨⟨Rely.refl d', hinv⟩, fun a ha => nomatch ha⟩
  | none =>
    have hmanifest : d'.manifest = none := by
      rcases hallowed with hmanifest | hlink'
      · exact hmanifest
      · exact absurd hlink hlink'
    have hmarker : n = .temporary → d'.marker ≠ none := by
      intro ht
      rcases hrely.marked (hmarked ht) with hmarker | hne
      · exact hmarker
      · exact absurd hmanifest hne
    obtain ⟨hmove, hinv', hhas, hplace⟩ := hinv.create hn hlink hmanifest hmarker
      (f := ⟨[], host.newMode, n⟩) rfl List.nil_prefix
    simp only [execDone, hlink]
    refine ⟨⟨hmove, hinv'⟩, fun a ha => ?_⟩
    obtain rfl := Except.ok.inj ha
    exact h _ _ (hrely.trans hmove) hinv' hhas hplace

theorem keeps_chmod {post : Unit → Directory → Prop} (hi : d.Has i n)
    (h : ∀ d', Rely d d' → d'.Inv → d'.Private i → post () d') :
    Keeps host (sys (.chmod i)) post d := by
  refine keeps_sys fun d' hrely hinv => ⟨trivial, fun bytes _ => ?_⟩
  have hmoves : Rely d' (d'.modify i fun f => { f with mode := 0o600 }) ∧
      (d'.modify i fun f => { f with mode := 0o600 }).Inv :=
    hinv.modify (fun _ => rfl) fun f hf =>
      ⟨List.prefix_rfl, hinv.contents f (List.mem_of_getElem? hf), fun _ => rfl⟩
  refine ⟨hmoves, fun _ _ => h _ (hrely.trans hmoves.1) hmoves.2 ?_⟩
  obtain ⟨f, hf, -⟩ := hrely.has hi
  refine ⟨{ f with mode := 0o600 }, ?_, rfl⟩
  rw [execDone, getElem?_modify, if_pos rfl, hf]
  rfl

/-- What is written whole is whole: the file had no other bytes. -/
theorem keeps_write {post : Nat → Directory → Prop} (hi : d.Has i n) (hprivate : d.Private i)
    (h : ∀ d', Rely d d' → d'.Inv → d'.Whole i → post (payloadOf n).length d') :
    Keeps host (sys (.write i (payloadOf n))) post d := by
  refine keeps_sys fun d' hrely hinv => ?_
  obtain ⟨f, hf, rfl⟩ := hrely.has hi
  obtain ⟨f', hf', hmode⟩ := hrely.isPrivate hprivate
  obtain rfl := Option.some.inj (hf.symm.trans hf')
  refine ⟨⟨f, hf, hmode, rfl⟩, fun bytes hlength => ?_⟩
  change (payloadOf f.createdAs).length ≤ bytes at hlength
  have hpart := hinv.contents f (List.mem_of_getElem? hf)
  have hwritten : (payloadOf f.createdAs).take bytes ++ f.bytes.drop bytes = payloadOf f.createdAs := by
    rw [List.take_of_length_le hlength, List.drop_eq_nil_of_le (hpart.length_le.trans hlength),
      List.append_nil]
  have hmoves := hinv.modify (i := i)
    (g := fun f' => { f' with
      bytes := (payloadOf f.createdAs).take bytes ++ f'.bytes.drop bytes }) (fun _ => rfl)
    fun f' hf' => by
      obtain rfl := Option.some.inj (hf.symm.trans hf')
      rw [hwritten]
      exact ⟨hpart, List.prefix_rfl, id⟩
  refine ⟨hmoves, fun a ha => ?_⟩
  obtain rfl := Except.ok.inj ha
  rw [List.take_of_length_le hlength]
  refine h _ (hrely.trans hmoves.1) hmoves.2 ⟨{ f with bytes := payloadOf f.createdAs }, ?_, rfl, hmode⟩
  rw [execDone, getElem?_modify, if_pos rfl, hf, Option.map_some, hwritten]

theorem keeps_rename {post : Unit → Directory → Prop} (hplaced : d.Placed i) (hwhole : d.Whole i)
    (h : ∀ d', Rely d d' → d'.Inv → d'.manifest ≠ none → post () d') :
    Keeps host (sys (.rename .temporary .manifest)) post d := by
  refine keeps_sys fun d' hrely hinv => ⟨trivial, fun bytes _ => ?_⟩
  cases hlink : d'.link .temporary with
  | none =>
    simp only [execDone, hlink]
    exact ⟨⟨Rely.refl d', hinv⟩, fun a ha => nomatch ha⟩
  | some j =>
    -- the temporary manifest is still the one that is known to be whole
    have hj : j = i := by
      rcases (hrely.placed hplaced).2 with ht | hm
      · exact Option.some.inj (hlink.symm.trans ht)
      · exact nomatch (hinv.temporary j hlink).2.1.symm.trans hm
    subst hj
    have hmoves := hinv.rename hlink (hrely.whole hinv hwhole)
    simp only [execDone, hlink]
    exact ⟨hmoves, fun _ _ => h _ (hrely.trans hmoves.1) hmoves.2 (Option.some_ne_none j)⟩

theorem keeps_unlink {post : Unit → Directory → Prop} (hmanifest : d.manifest ≠ none)
    (h : ∀ d', Rely d d' → d'.Inv → post () d') : Keeps host (sys (.unlink .marker)) post d := by
  refine keeps_sys fun d' hrely hinv => ⟨trivial, fun bytes _ => ?_⟩
  cases hlink : d'.link .marker with
  | none =>
    simp only [execDone, hlink]
    exact ⟨⟨Rely.refl d', hinv⟩, fun a ha => nomatch ha⟩
  | some j =>
    have hmoves := hinv.unlink (hrely.manifest_ne hmanifest)
    simp only [execDone, hlink]
    exact ⟨hmoves, fun _ _ => h _ (hrely.trans hmoves.1) hmoves.2⟩

theorem keeps_createFile (hn : n = .marker ∨ n = .temporary) (hmarked : n = .temporary → d.Marked)
    {post : Unit → Directory → Prop}
    (h : ∀ d', Rely d d' → d'.Inv → (n = .marker → d'.Marked) →
      (n = .temporary → ∃ i, d'.Placed i ∧ d'.Whole i) → post () d') :
    Keeps host (createFile n (payloadOf n)) post d := by
  refine keeps_bind (keeps_create hn hmarked fun d₁ i h₁ hd₁ hi hlink => ?_)
  have hmarker : n = .marker → d₁.Marked := by
    rintro rfl
    exact Or.inl fun hnone => nomatch hnone.symm.trans hlink
  have hplaced : n = .temporary → d₁.Placed i := by
    rintro rfl
    exact ⟨hi, Or.inl hlink⟩
  refine keeps_closing rfl ?_
  refine keeps_bind (keeps_chmod hi fun d₂ h₂ hd₂ hprivate => ?_)
  refine keeps_bind (keeps_write (h₂.has hi) hprivate fun d₃ h₃ hd₃ hwhole => ?_)
  refine keeps_bind (keeps_demand fun _ => keeps_look rfl fun d₄ _ _ h₄ hd₄ _ d₅ h₅ hd₅ => ?_)
  have hlater : Rely d₁ d₅ := h₂.trans (h₃.trans (h₄.trans h₅))
  refine h d₅ (h₁.trans hlater) hd₅ (fun ht => hlater.marked (hmarker ht)) fun ht => ?_
  exact ⟨i, hlater.placed (hplaced ht), (h₄.trans h₅).whole hd₅ hwhole⟩

end Writers

/-! ### Calls -/

section Entries
variable {d₀ : Directory}

theorem mem_entries {n : Name} (hn : n.owned = true) : n ∈ d.entries ↔ d.link n ≠ none := by
  have hothers : n ∉ d.others.map Name.other := by
    intro h
    obtain ⟨t, -, rfl⟩ := List.mem_map.mp h
    exact nomatch hn
  rw [entries, List.mem_append, or_iff_left hothers, List.mem_filter, Option.isSome_iff_ne_none,
    and_iff_right]
  cases n with
  | other t => exact nomatch hn
  | marker | temporary | manifest => simp

theorem keeps_ensureMarker {post : Unit → Directory → Prop} (hrely : Rely d₀ d)
    (h : ∀ d', Rely d d' → d'.Inv → d'.Marked → post () d') :
    Keeps host (ensureMarker d₀.entries) post d := by
  unfold ensureMarker
  split_ifs with hmarker
  · rw [mem_entries rfl] at hmarker
    refine keeps_bind (keeps_managedFile fun d' _ _ hrely' hinv _ _ _ => keeps_demand fun _ => ?_)
    exact h d' hrely' hinv ((hrely.trans hrely').marked (Or.inl hmarker))
  · refine keeps_bind (keeps_createFile (n := .marker) (Or.inl rfl) nofun fun d₁ h₁ hd₁ hmarked _ => ?_)
    refine keeps_look rfl fun d₂ _ _ h₂ hd₂ _ => ?_
    exact h d₂ (h₁.trans h₂) hd₂ (h₂.marked (hmarked rfl))

theorem keeps_ensureTemporary {post : Unit → Directory → Prop} (hmarked : d.Marked)
    (h : ∀ d' i, Rely d d' → d'.Inv → d'.Placed i → d'.Whole i → post () d') :
    Keeps host (ensureTemporary host d₀.entries) post d := by
  unfold ensureTemporary
  split_ifs
  · refine keeps_readExactManifest fun d' hrely hinv hready => ?_
    obtain ⟨i, hplaced, hwhole⟩ := hready rfl
    exact h d' i hrely hinv hplaced hwhole
  · refine keeps_createFile (n := .temporary) (Or.inr rfl) (fun _ => hmarked)
      fun d' hrely hinv _ hready => ?_
    obtain ⟨i, hplaced, hwhole⟩ := hready rfl
    exact h d' i hrely hinv hplaced hwhole

theorem keeps_ensureManifest {post : Unit → Directory → Prop} (hrely : Rely d₀ d) (hmarked : d.Marked)
    (h : ∀ d', Rely d d' → d'.Inv → d'.manifest ≠ none → post () d') :
    Keeps host (ensureManifest host d₀.entries) post d := by
  unfold ensureManifest
  split_ifs with hmanifest
  · rw [mem_entries rfl] at hmanifest
    refine keeps_bind (keeps_readExactManifest fun d' hrely' hinv _ => keeps_demand fun _ => ?_)
    exact h d' hrely' hinv ((hrely.trans hrely').manifest_ne hmanifest)
  · refine keeps_bind (keeps_ensureTemporary hmarked fun d₁ i h₁ hd₁ hplaced hwhole => ?_)
    refine keeps_bind (keeps_rename hplaced hwhole fun d₂ h₂ hd₂ hne => ?_)
    refine keeps_bind (keeps_look rfl fun d₃ _ _ h₃ hd₃ _ => ?_)
    refine keeps_readExactManifest fun d₄ h₄ hd₄ _ => ?_
    exact h d₄ (h₁.trans (h₂.trans (h₃.trans h₄))) hd₄ ((h₃.trans h₄).manifest_ne hne)

end Entries

/-- Where the preview is said to be ready, the directory holds the manifest only. -/
def Honest (r : PreviewReport) (d : Directory) : Prop :=
  r.overall = .syntheticReady → d.entries = [.manifest]

/-- A directory that holds the manifest only stays so. -/
theorem Honest.moved {r : PreviewReport} {d' : Directory} (hrely : Rely d d') (hinv : d'.Inv)
    (h : Honest r d) : Honest r d' := by
  intro hready
  obtain ⟨hmarker, -, hmanifest, -⟩ := entries_eq_manifest.mp (h hready)
  have hmanifest' := hrely.manifest_ne hmanifest
  refine entries_eq_manifest.mpr ⟨hrely.settled hmanifest hmarker, ?_, hmanifest', hinv.others⟩
  cases htemporary : d'.temporary with
  | none => rfl
  | some i => exact absurd (hinv.temporary i htemporary).2.1 hmanifest'

theorem exec_list {fate : Fate} {entries : List Name} (h : (exec host .list fate d).1 = .ok entries) :
    entries = d.entries := by
  cases fate with
  | fails e => exact nomatch h
  | done bytes => exact (Except.ok.inj h).symm

theorem keeps_initializeState : Keeps host (initializeState host) Honest d := by
  refine keeps_bind (keeps_translating (keeps_look rfl fun d₁ _ _ _ _ _ => ?_))
  refine keeps_closing rfl (keeps_translating ?_)
  refine keeps_bind (keeps_look rfl fun d₂ _ entries _ _ hlist => ?_)
  obtain rfl := exec_list hlist
  unfold initializeEntries
  split_ifs
  · exact keeps_bind (keeps_readExactManifest fun d₃ _ _ _ => keeps_pure fun d₄ _ _ => nofun)
  · refine keeps_bind (keeps_demand fun _ => ?_)
    refine keeps_bind (keeps_ensureMarker (Rely.refl d₂) fun d₃ h₃ hd₃ hmarked => ?_)
    refine keeps_bind (keeps_ensureManifest h₃ hmarked fun d₄ h₄ hd₄ hmanifest => ?_)
    refine keeps_bind (keeps_unlink hmanifest fun d₅ _ _ => ?_)
    exact keeps_bind (keeps_look rfl fun d₆ _ _ _ _ _ => keeps_pure fun d₇ _ _ => nofun)

theorem keeps_health : Keeps host (health host) Honest d := by
  refine keeps_bind (keeps_translating (keeps_look rfl fun d₁ _ _ _ _ _ => ?_))
  refine keeps_closing rfl ?_
  refine keeps_bind (keeps_look rfl fun d₂ _ entries _ _ hlist => ?_)
  obtain rfl := exec_list hlist
  refine keeps_bind (keeps_demand fun _ => keeps_bind (keeps_demand fun _ => ?_))
  refine keeps_bind (keeps_demand fun hentries => ?_)
  refine keeps_bind (keeps_readExactManifest fun d₃ h₃ _ _ => keeps_pure fun d₄ h₄ hd₄ => ?_)
  exact Honest.moved (h₃.trans h₄) hd₄ fun _ => hentries

theorem keeps_program (c : Command) :
    Program.Holds (exec host) discipline (c.program host)
      (fun r d => ∀ report, r = .ok report → Honest report d) d := by
  cases c with
  | initializeState => exact keeps_initializeState
  | health => exact keeps_health

end MyCogni.Preview
