import MyCogni.Preview.Tended

/-! Initialization can be taken up again: from a directory whose files are whole, a call that is not
disturbed leaves the manifest and nothing else. -/

namespace MyCogni.Preview

open Act Directory

/-! ### A call that is not disturbed -/

/-- The operation does not fail, and a write is not cut short. -/
def Undisturbed : Op → Fate → Prop
  | .write _ payload, fate => ∃ bytes, fate = .done bytes ∧ payload.length ≤ bytes
  | _, fate => ∃ bytes, fate = .done bytes

/-- Nobody else moves the directory. -/
def solitude : Program.Discipline Op Fate Directory where
  rely := Eq
  guarantee _ _ := True
  inv _ := True
  requires _ _ := True
  allowed o fate _ := Undisturbed o fate
  refl _ := rfl
  trans _ _ _ := Eq.trans

variable {α β : Type} {host : Host} {d : Directory}

/-- The call returns, and what it returns is as it should be. -/
def Gives (host : Host) (p : Act α) (post : α → Directory → Prop) (d : Directory) : Prop :=
  Program.Holds (exec host) solitude p.run (fun r d => ∃ a, r = .ok a ∧ post a d) d

theorem gives_pure {a : α} {post : α → Directory → Prop} (h : post a d) : Gives host (pure a) post d :=
  ⟨a, rfl, h⟩

theorem gives_bind {p : Act α} {f : α → Act β} {post : β → Directory → Prop}
    (h : Gives host p (fun a d => Gives host (f a) post d) d) : Gives host (p >>= f) post d := by
  refine Program.Holds.bind (Program.Holds.mono h fun r d hr => ?_)
  obtain ⟨a, rfl, ha⟩ := hr
  exact ha

theorem gives_of_except {x : Except Fault α} {a : α} {post : α → Directory → Prop} (hx : x = .ok a)
    (h : post a d) : Gives host (ExceptT.mk (pure x)) post d := ⟨a, hx, h⟩

theorem gives_demand {c : Prop} [Decidable c] {e : Fault} {post : Unit → Directory → Prop} (hc : c)
    (h : post () d) : Gives host (demand c e) post d := by
  rw [demand, if_pos hc]
  exact gives_pure h

theorem gives_translating {f : Fault → Fault} {p : Act α} {post : α → Directory → Prop}
    (h : Gives host p post d) : Gives host (translating f p) post d := by
  refine Program.Holds.bind (Program.Holds.mono h fun r d hr => ?_)
  obtain ⟨a, rfl, ha⟩ := hr
  exact ⟨a, rfl, ha⟩

theorem gives_sys {o : Op} {post : Value o → Directory → Prop}
    (h : ∀ bytes, Undisturbed o (.done bytes) → ∃ a, (execDone host bytes o d).1 = .ok a ∧
      post a (execDone host bytes o d).2) : Gives host (sys o) post d := by
  rintro d' rfl -
  refine ⟨trivial, fun fate hfate => ?_⟩
  have hdone : ∃ bytes, fate = .done bytes := by
    cases o with
    | write i payload =>
      obtain ⟨bytes, hbytes, -⟩ := hfate
      exact ⟨bytes, hbytes⟩
    | _ => exact hfate
  obtain ⟨bytes, rfl⟩ := hdone
  obtain ⟨a, ha, hpost⟩ := h bytes hfate
  exact ⟨⟨trivial, trivial⟩, a, ha, hpost⟩

/-- The operation only returns. -/
def Op.idle : Op → Bool
  | .openDirectory | .sync _ | .close _ | .syncDirectory | .closeDirectory => true
  | _ => false

theorem execDone_idle {o : Op} (ho : o.idle = true) (host : Host) (bytes : Nat) (d : Directory) :
    ∃ a, execDone host bytes o d = (.ok a, d) := by
  cases o <;> first | exact absurd ho Bool.false_ne_true | exact ⟨(), rfl⟩

theorem gives_idle {o : Op} (ho : o.idle = true) {post : Value o → Directory → Prop}
    (h : ∀ a, post a d) : Gives host (sys o) post d := by
  refine gives_sys fun bytes _ => ?_
  obtain ⟨a, ha⟩ := execDone_idle ho host bytes d
  exact ⟨a, by rw [ha], by rw [ha]; exact h a⟩

theorem gives_closing {o : Op} (ho : o.idle = true) {p : Act α} {post : α → Directory → Prop}
    (h : Gives host p post d) : Gives host (closing o p) post d := by
  refine Program.Holds.bind (Program.Holds.mono h fun r d hr => ?_)
  have hidle : Gives host (sys o) (fun _ d => ∃ a, r = .ok a ∧ post a d) d :=
    gives_idle ho fun _ => hr
  refine Program.Holds.bind (Program.Holds.mono hidle ?_)
  rintro c d ⟨a, rfl, hpost⟩
  exact hpost

/-! ### Reading a file that is whole -/

section Reading
variable {i : Nat} {n : Name}

/-- All files that have a name are whole. -/
structure Settled (d : Directory) : Prop where
  inv : d.Inv
  whole : ∀ n i, d.link n = some i → d.Whole i

theorem Settled.file (hd : Settled d) (hi : d.link n = some i) :
    ∃ f, d.files[i]? = some f ∧ f.bytes = payloadOf n ∧ f.mode = 0o600 := by
  obtain ⟨f, hf, hbytes, hmode⟩ := hd.whole n i hi
  refine ⟨f, hf, ?_, hmode⟩
  have hname : ∀ {m}, d.Has i m → f.createdAs = m := by
    rintro m ⟨f', hf', rfl⟩
    rw [Option.some.inj (hf.symm.trans hf')]
  cases n with
  | marker => rw [hbytes, hname (hd.inv.marker i hi)]
  | temporary => rw [hbytes, hname (hd.inv.temporary i hi).1]
  | manifest =>
    rw [hbytes, hname (hd.inv.manifest i hi).1]
    rfl
  | other t => exact nomatch hi

/-- No file has two names. -/
theorem Inv.links_eq_one (hd : d.Inv) (hi : d.link n = some i) : d.links i = 1 := by
  have hnames : d.Has i .marker → ¬d.Has i .temporary := by
    rintro ⟨f, hf, hmarker⟩ ⟨f', hf', htemporary⟩
    obtain rfl := Option.some.inj (hf.symm.trans hf')
    exact nomatch hmarker.symm.trans htemporary
  have hmarker : d.marker = some i → d.temporary ≠ some i ∧ d.manifest ≠ some i := fun h =>
    ⟨fun ht => hnames (hd.marker i h) (hd.temporary i ht).1,
      fun hm => hnames (hd.marker i h) (hd.manifest i hm).1⟩
  have htemporary : d.temporary = some i → d.manifest ≠ some i := by
    intro ht hm
    exact nomatch (hd.temporary i ht).2.1.symm.trans hm
  unfold links
  cases n with
  | marker =>
    obtain ⟨ht, hm⟩ := hmarker hi
    simp [show d.marker = some i from hi, ht, hm]
  | temporary =>
    have hnot : d.marker ≠ some i := fun h => (hmarker h).1 hi
    simp [show d.temporary = some i from hi, hnot, htemporary hi]
  | manifest =>
    have hnot : d.marker ≠ some i := fun h => (hmarker h).2 hi
    have hnot' : d.temporary ≠ some i := fun h => htemporary h hi
    simp [show d.manifest = some i from hi, hnot, hnot']
  | other t => exact nomatch hi

/-- As long as a byte is left there is a round for it. -/
theorem gives_readAll {f : File} (hf : d.files[i]? = some f) (rounds remaining : Nat) {data : Bytes}
    (hdata : data <+: f.bytes) (hremaining : f.bytes.length < data.length + remaining)
    (hrounds : remaining ≤ rounds) {post : Bytes → Directory → Prop} (h : post f.bytes d) :
    Gives host (readAll i rounds remaining data) post d := by
  have hlength := hdata.length_le
  induction rounds generalizing remaining data with
  | zero => omega
  | succ rounds ih =>
    cases remaining with
    | zero => omega
    | succ remaining =>
      obtain ⟨rest, hrest⟩ := hdata
      refine gives_bind (gives_sys fun bytes _ => ?_)
      simp only [execDone, hf]
      refine ⟨_, rfl, ?_⟩
      rw [← hrest, List.drop_left]
      split_ifs with hempty
      · have hrest' : rest = [] := by
          rcases List.take_eq_nil_iff.mp hempty with hzero | hnil
          · omega
          · exact hnil
        rw [hrest', List.append_nil] at hrest
        rw [hrest]
        exact gives_pure h
      · have hchunk : 0 < (rest.take (min (min (remaining + 1) 8192) (max 1 bytes))).length :=
          List.length_pos_iff.mpr hempty
        have hmost := List.length_take_le (min (min (remaining + 1) 8192) (max 1 bytes)) rest
        have hpart : data ++ rest.take (min (min (remaining + 1) 8192) (max 1 bytes)) <+: f.bytes := by
          rw [← hrest, List.prefix_append_right_inj]
          exact List.take_prefix _ rest
        refine ih _ hpart ?_ (by omega) hpart.length_le
        rw [List.length_append]
        omega

theorem gives_managedFile (hd : Settled d) (hi : d.link n = some i) {limit : Nat}
    (hlimit : (payloadOf n).length ≤ limit) {post : Bytes → Directory → Prop}
    (h : post (payloadOf n) d) : Gives host (managedFile n limit) post d := by
  obtain ⟨f, hf, hbytes, hmode⟩ := hd.file hi
  refine gives_bind (gives_translating (gives_sys fun _ _ => ?_))
  simp only [execDone, hi]
  refine ⟨i, rfl, gives_closing rfl (gives_translating ?_)⟩
  refine gives_bind (gives_sys fun _ _ => ?_)
  simp only [execDone, hf]
  refine ⟨_, rfl, gives_bind (gives_demand ⟨hmode, Inv.links_eq_one hd.inv hi, ?_⟩ ?_)⟩
  · rw [hbytes]
    exact hlimit
  · refine gives_bind (gives_readAll hf _ _ List.nil_prefix ?_ le_rfl ?_)
    · rw [hbytes, List.length_nil]
      omega
    · rw [hbytes]
      exact gives_bind (gives_demand hlimit (gives_pure h))

theorem gives_readExactManifest (hd : Settled d) (hi : d.link n = some i)
    (hn : payloadOf n = manifestPayload) (hloads : host.loadsManifest manifestPayload = .ok true)
    {post : Unit → Directory → Prop} (h : post () d) :
    Gives host (readExactManifest host n) post d := by
  have hlimit : (payloadOf n).length ≤ 4096 := by
    rw [hn]
    decide +kernel
  rw [← hn] at hloads
  refine gives_bind (gives_managedFile hd hi hlimit ?_)
  exact gives_bind (gives_of_except hloads (gives_demand ⟨rfl, hn⟩ h))

end Reading

/-! ### Creating a file -/

section Creating
variable {i : Nat} {n : Name}

/-- The directory with a new file that is written whole. -/
def Directory.withFile (d : Directory) (n : Name) (payload : Bytes) : Directory :=
  { d.setLink n (some d.files.length) with files := d.files ++ [⟨payload, 0o600, n⟩] }

theorem modify_last (fs : List File) (f : File) (g : File → File) :
    (fs ++ [f]).modify fs.length g = fs ++ [g f] := by
  induction fs with
  | nil => rfl
  | cons f' fs ih => rw [List.cons_append, List.length_cons, List.modify_succ_cons, ih, List.cons_append]

theorem gives_createFile (hfree : d.link n = none) (payload : Bytes) {post : Unit → Directory → Prop}
    (h : post () (d.withFile n payload)) : Gives host (createFile n payload) post d := by
  refine gives_bind (gives_sys fun _ _ => ?_)
  simp only [execDone, hfree]
  refine ⟨_, rfl, gives_closing rfl ?_⟩
  refine gives_bind (gives_sys fun _ _ => ⟨(), rfl, ?_⟩)
  simp only [execDone, Directory.modify, modify_last]
  refine gives_bind (gives_sys fun bytes hbytes => ⟨_, rfl, ?_⟩)
  obtain ⟨bytes', hdone, hlength⟩ := hbytes
  obtain rfl := Fate.done.inj hdone
  simp only [execDone, Directory.modify, modify_last, List.take_of_length_le hlength, List.drop_nil,
    List.append_nil]
  exact gives_bind (gives_demand trivial (gives_idle rfl fun _ => h))

theorem link_withFile (m : Name) (payload : Bytes) :
    (d.withFile n payload).link m = (d.setLink n (some d.files.length)).link m := by
  cases m <;> rfl

theorem Settled.withFile (hd : Settled d) (hn : n = .marker ∨ n = .temporary) (hfree : d.link n = none)
    (hmanifest : d.manifest = none) (hmarked : n = .temporary → d.marker ≠ none) :
    Settled (d.withFile n (payloadOf n)) := by
  obtain ⟨hrely, hinv, -, -⟩ := hd.inv.create hn hfree hmanifest hmarked
    (f := ⟨payloadOf n, 0o600, n⟩) rfl List.prefix_rfl
  refine ⟨hinv, fun m i hi => ?_⟩
  rw [link_withFile, link_setLink] at hi
  split_ifs at hi
  · obtain rfl := Option.some.inj hi
    refine ⟨⟨payloadOf n, 0o600, n⟩, ?_, rfl, rfl⟩
    rw [Directory.withFile, List.getElem?_append_right le_rfl, Nat.sub_self]
    rfl
  · exact hrely.whole hinv (hd.whole m i hi)

end Creating

/-! ### Initialization -/

section Initialization
variable {d₀ : Directory}

theorem gives_ensureMarker (hd : Settled d) (hentries : d.entries ≠ [.manifest])
    {post : Unit → Directory → Prop}
    (h : ∀ d', Settled d' → d'.marker ≠ none → d'.temporary = d.temporary → d'.manifest = d.manifest →
      post () d') : Gives host (ensureMarker d.entries) post d := by
  unfold ensureMarker
  split_ifs with hmarker
  · rw [mem_entries rfl] at hmarker
    obtain ⟨i, hi⟩ := Option.ne_none_iff_exists'.mp hmarker
    have hlimit : (payloadOf .marker).length ≤ 128 := by decide +kernel
    exact gives_bind (gives_managedFile hd hi hlimit (gives_demand rfl (h d hd hmarker rfl rfl)))
  · rw [mem_entries rfl, not_not] at hmarker
    have htemporary : d.temporary = none := by
      by_contra hne
      obtain ⟨i, hi⟩ := Option.ne_none_iff_exists'.mp hne
      exact (hd.inv.temporary i hi).2.2 hmarker
    have hmanifest : d.manifest = none := by
      by_contra hne
      exact hentries (entries_eq_manifest.mpr ⟨hmarker, htemporary, hne, hd.inv.others⟩)
    refine gives_bind (gives_createFile hmarker markerPayload (gives_idle rfl fun _ => ?_))
    exact h _ (hd.withFile (Or.inl rfl) hmarker hmanifest (fun h => by cases h)) (Option.some_ne_none _) rfl rfl

theorem gives_ensureTemporary (hd : Settled d) (hloads : host.loadsManifest manifestPayload = .ok true)
    (hmarker : d.marker ≠ none) (hmanifest : d.manifest = none) (hentries : d.temporary = d₀.temporary)
    {post : Unit → Directory → Prop}
    (h : ∀ d', Settled d' → d'.marker ≠ none → d'.temporary ≠ none → post () d') :
    Gives host (ensureTemporary host d₀.entries) post d := by
  unfold ensureTemporary
  split_ifs with htemporary
  · rw [mem_entries rfl] at htemporary
    have hne : d.temporary ≠ none := by
      rw [hentries]
      exact htemporary
    obtain ⟨i, hi⟩ := Option.ne_none_iff_exists'.mp hne
    exact gives_readExactManifest (n := .temporary) hd hi rfl hloads (h d hd hmarker hne)
  · rw [mem_entries rfl, not_not] at htemporary
    have hfree : d.temporary = none := hentries.trans htemporary
    refine gives_createFile (n := .temporary) hfree manifestPayload ?_
    exact h _ (hd.withFile (Or.inr rfl) hfree hmanifest fun _ => hmarker) hmarker (Option.some_ne_none _)

theorem gives_ensureManifest (hd : Settled d) (hloads : host.loadsManifest manifestPayload = .ok true)
    (hmarker : d.marker ≠ none) (htemporary : d.temporary = d₀.temporary)
    (hmanifest : d.manifest = d₀.manifest) {post : Unit → Directory → Prop}
    (h : ∀ d', Settled d' → d'.marker ≠ none → d'.manifest ≠ none → post () d') :
    Gives host (ensureManifest host d₀.entries) post d := by
  unfold ensureManifest
  split_ifs with hfound
  · rw [mem_entries rfl] at hfound
    have hne : d.manifest ≠ none := by
      rw [hmanifest]
      exact hfound
    obtain ⟨i, hi⟩ := Option.ne_none_iff_exists'.mp hne
    refine gives_bind (gives_readExactManifest (n := .manifest) hd hi rfl hloads
      (gives_demand ?_ (h d hd hmarker hne)))
    intro hboth
    rw [mem_entries rfl] at hboth
    obtain ⟨j, hj⟩ := Option.ne_none_iff_exists'.mp hboth
    exact hne (hd.inv.temporary j (htemporary.trans hj)).2.1
  · rw [mem_entries rfl, not_not] at hfound
    refine gives_bind (gives_ensureTemporary hd hloads hmarker (hmanifest.trans hfound) htemporary ?_)
    intro d₁ hd₁ hmarker₁ hne
    obtain ⟨i, hi⟩ := Option.ne_none_iff_exists'.mp hne
    refine gives_bind (gives_sys fun _ _ => ?_)
    have hlink : d₁.link .temporary = some i := hi
    simp only [execDone, hlink]
    obtain ⟨hrely, hinv⟩ := hd₁.inv.rename hi (hd₁.whole .temporary i hi)
    have hd₂ : Settled { d₁ with temporary := none, manifest := some i } := by
      refine ⟨hinv, fun n j hj => ?_⟩
      cases n with
      | marker => exact hrely.whole hinv (hd₁.whole .marker j hj)
      | temporary => cases hj
      | manifest => exact hrely.whole hinv (hd₁.whole .temporary j (hi.trans hj))
      | other t => cases hj
    refine ⟨(), trivial, gives_bind (gives_idle rfl fun _ => ?_)⟩
    exact gives_readExactManifest (n := .manifest) hd₂ rfl rfl hloads
      (h _ hd₂ hmarker₁ (Option.some_ne_none i))

/-- The directory holds the manifest and nothing else. -/
structure Initialized (d : Directory) : Prop where
  entries : d.entries = [.manifest]
  content : ∃ i f, d.manifest = some i ∧ d.files[i]? = some f ∧ f.bytes = manifestPayload

theorem Settled.initialized (hd : Settled d) (hmarker : d.marker = none) (hmanifest : d.manifest ≠ none) :
    Initialized d := by
  obtain ⟨i, hi⟩ := Option.ne_none_iff_exists'.mp hmanifest
  obtain ⟨f, hf, hbytes, -⟩ := hd.file (n := .manifest) hi
  refine ⟨entries_eq_manifest.mpr ⟨hmarker, ?_, hmanifest, hd.inv.others⟩, i, f, hi, hf, hbytes⟩
  by_contra hne
  obtain ⟨j, hj⟩ := Option.ne_none_iff_exists'.mp hne
  exact hmanifest (hd.inv.temporary j hj).2.1

/-- What is found in a directory that is settled is known, and the marker is there if anything is. -/
theorem Settled.entries_known (hd : Settled d) (hentries : d.entries ≠ [.manifest]) :
    d.entries.all Name.owned = true ∧ (d.entries = [] ∨ .marker ∈ d.entries) := by
  obtain ⟨marker, temporary, manifest, others, files⟩ := d
  obtain rfl : others = [] := hd.inv.others
  have hmarked : temporary ≠ none → marker ≠ none := by
    intro hne
    obtain ⟨i, hi⟩ := Option.ne_none_iff_exists'.mp hne
    exact (hd.inv.temporary i hi).2.2
  cases marker with
  | some i => cases temporary <;> cases manifest <;> simp [Directory.entries, Directory.link, Name.owned]
  | none =>
    cases temporary with
    | some i => exact absurd rfl (hmarked (Option.some_ne_none i))
    | none =>
      cases manifest with
      | some i => exact absurd rfl hentries
      | none => exact ⟨rfl, Or.inl rfl⟩

theorem gives_initializeState (hd : Settled d) (hloads : host.loadsManifest manifestPayload = .ok true) :
    Gives host (initializeState host) (fun _ d' => Initialized d') d := by
  refine gives_bind (gives_translating (gives_idle rfl fun _ => ?_))
  refine gives_closing rfl (gives_translating (gives_bind (gives_sys fun _ _ => ⟨d.entries, rfl, ?_⟩)))
  unfold initializeEntries
  split_ifs with hentries
  · obtain ⟨hmarker, -, hmanifest, -⟩ := entries_eq_manifest.mp hentries
    obtain ⟨i, hi⟩ := Option.ne_none_iff_exists'.mp hmanifest
    refine gives_bind (gives_readExactManifest (n := .manifest) hd hi rfl hloads (gives_pure ?_))
    exact hd.initialized hmarker hmanifest
  · refine gives_bind (gives_demand (hd.entries_known hentries) ?_)
    refine gives_bind (gives_ensureMarker hd hentries fun d₁ hd₁ hmarker htemporary hmanifest => ?_)
    refine gives_bind (gives_ensureManifest hd₁ hloads hmarker htemporary hmanifest ?_)
    intro d₂ hd₂ hmarker₂ hmanifest₂
    obtain ⟨i, hi⟩ := Option.ne_none_iff_exists'.mp hmarker₂
    refine gives_bind (gives_sys fun _ _ => ?_)
    have hlink : d₂.link .marker = some i := hi
    simp only [execDone, hlink]
    obtain ⟨hrely, hinv⟩ := hd₂.inv.unlink hmanifest₂
    have hd₃ : Settled { d₂ with marker := none } := by
      refine ⟨hinv, fun n j hj => ?_⟩
      cases n with
      | marker => cases hj
      | temporary => exact hrely.whole hinv (hd₂.whole .temporary j hj)
      | manifest => exact hrely.whole hinv (hd₂.whole .manifest j hj)
      | other t => cases hj
    refine ⟨(), trivial, gives_bind (gives_idle rfl fun _ => gives_pure ?_)⟩
    exact hd₃.initialized rfl hmanifest₂

end Initialization

/-! ### Every run -/

/-- Initialization is restartable in every run that nothing spoils: what has the final name is the
manifest, `health` finds the preview ready only where there is nothing else, and once no call runs,
one that is not disturbed completes the initialization. -/
theorem initialization_restartable (hloads : host.loadsManifest manifestPayload = .ok true)
    (turns : List (Turn Command Fate))
    (hnever : Never (System.step host) Spoils ⟨{}, []⟩ turns) :
    let s := run (System.step host) ⟨{}, []⟩ turns
    (∀ i, s.world.manifest = some i → ∃ f, s.world.files[i]? = some f ∧ f.bytes = manifestPayload) ∧
    (∀ report, .ended (.ok report) ∈ s.programs → report.overall = .syntheticReady →
      Initialized s.world) ∧
    (s.Quiet → ∀ fates : Nat → Op → Fate, (∀ n o, Undisturbed o (fates n o)) →
      (∃ report, ((initializeState host).run.alone (exec host) fates s.world).1 = .ok report) ∧
        Initialized ((initializeState host).run.alone (exec host) fates s.world).2) := by
  intro s
  have horder : InOrder host s := run_inOrder hnever
  have hinv : s.world.Inv := horder.1.1 0
  have hsound := horder.1.2
  have hcontent : ∀ i, s.world.manifest = some i →
      ∃ f, s.world.files[i]? = some f ∧ f.bytes = manifestPayload := by
    intro i hi
    obtain ⟨⟨f, hf, hname⟩, f', hf', hbytes, -⟩ := hinv.manifest i hi
    obtain rfl := Option.some.inj (hf.symm.trans hf')
    rw [hname] at hbytes
    exact ⟨f, hf, hbytes⟩
  refine ⟨hcontent, ?_, ?_⟩
  · intro report hended hready
    obtain ⟨n, hn⟩ := List.getElem?_of_mem hended
    have hentries : s.world.entries = [.manifest] := hsound n _ hn report rfl hready
    obtain ⟨i, hi⟩ := Option.ne_none_iff_exists'.mp (entries_eq_manifest.mp hentries).2.2.1
    obtain ⟨f, hf, hbytes⟩ := hcontent i hi
    exact ⟨hentries, i, f, hi, hf, hbytes⟩
  · intro hquiet fates hfates
    have hsettled : Settled s.world := ⟨hinv, fun n i hi => InOrder.whole horder hquiet hi⟩
    have hgives := gives_initializeState hsettled hloads
    obtain ⟨report, hreport, hinitialized⟩ := Program.Holds.alone (fun n o _ => hfates n o) trivial hgives
    exact ⟨⟨report, hreport⟩, hinitialized⟩

/-! ### Two runs that are spoiled -/

namespace Sample

def station : Host := ⟨0o600, fun raw => .ok (raw = manifestPayload)⟩

/-- Every write is whole. -/
def calm : Op → Fate
  | .write _ payload => .done payload.length
  | _ => .done 4096

theorem undisturbed_calm (o : Op) : Undisturbed o (calm o) := by
  cases o with
  | write i payload => exact ⟨payload.length, rfl, le_rfl⟩
  | _ => exact ⟨4096, rfl⟩

def acts (n k : Nat) : List (Turn Command Fate) := List.replicate k (.act n (.done 4096))

def system (turns : List (Turn Command Fate)) : System := run (System.step station) ⟨{}, []⟩ turns

/-- The write of the marker is cut short, and the call ends with an error. -/
def cut : List (Turn Command Fate) :=
  .start .initializeState :: acts 0 4 ++ [.act 0 (.done 3)] ++ acts 0 2

/-- One call has created the marker and the temporary manifest; a second one has found the marker
only; a third one has read both files. Now the first renames the temporary manifest, the second
creates another one, and the third renames that. -/
def race : List (Turn Command Fate) :=
  .start .initializeState :: acts 0 8 ++ .start .initializeState :: acts 1 7 ++ acts 0 5 ++
    .start .initializeState :: acts 2 12 ++ acts 0 1 ++ acts 1 1 ++ acts 2 1

/-- After a write that was cut short every further call is refused, and of three calls one gives the
final name to a file that another one is about to write. -/
theorem initialization_stuck :
    ((system cut).Quiet ∧
      (((initializeState station).run.alone (exec station) (fun _ => calm) (system cut).world).1 =
        .error incompatible)) ∧
    (system race).world.manifest = some 2 ∧
      ((system race).world.files[2]?).map File.bytes = some [] := by
  decide +kernel

/-- A call dies once it has created the marker; a second one completes the initialization, while
`health` finds the preview ready. -/
def resumed : List (Turn Command Fate) :=
  .start .initializeState :: acts 0 8 ++ .die 0 :: .start .initializeState :: acts 1 30 ++
    .start .health :: acts 2 10

theorem initialization_resumed :
    (station.loadsManifest manifestPayload = .ok true ∧
      Never (System.step station) Spoils ⟨{}, []⟩ resumed) ∧
    Initialized (system resumed).world ∧
      ∃ report, ((initializeState station).run.alone (exec station) (fun _ => calm)
        (system resumed).world).1 = .ok report := by
  have hloads : station.loadsManifest manifestPayload = .ok true := by decide +kernel
  have hnever : Never (System.step station) Spoils ⟨{}, []⟩ resumed := by decide +kernel
  have hquiet : (system resumed).Quiet := by decide +kernel
  have hentries : (system resumed).world.entries = [.manifest] := by decide +kernel
  have hrun := initialization_restartable hloads resumed hnever
  rw [show run (System.step station) ⟨{}, []⟩ resumed = system resumed from rfl] at hrun
  obtain ⟨hcontent, -, hagain⟩ := hrun
  obtain ⟨hreport, -⟩ := hagain hquiet (fun _ => calm) fun _ => undisturbed_calm
  refine ⟨⟨hloads, hnever⟩, ⟨hentries, ?_⟩, hreport⟩
  obtain ⟨i, hi⟩ := Option.ne_none_iff_exists'.mp (entries_eq_manifest.mp hentries).2.2.1
  obtain ⟨f, hf, hbytes⟩ := hcontent i hi
  exact ⟨i, f, hi, hf, hbytes⟩

end Sample

end MyCogni.Preview
