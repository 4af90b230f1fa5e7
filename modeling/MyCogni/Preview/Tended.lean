import MyCogni.Preview.Calls

/-! A file that is not whole is tended: the call that has created it is about to write it. So where
no call runs, every file of the directory is whole. -/

namespace MyCogni.Preview

open Act Directory

variable {α β : Type} {host : Host}

/-! ### The order of a call's operations -/

/-- A new file is changed next, and then written. -/
def Follows : (o : Op) → (Reply o → Program Op Reply α) → Prop
  | .create _, next => ∀ i, ∃ k, next (.ok i) = .call (.chmod i) k
  | .chmod i, next => ∃ payload k, next (.ok ()) = .call (.write i payload) k
  | _, _ => True

def Tidy : Program Op Reply α → Prop
  | .done _ => True
  | .call o next => Follows o next ∧ ∀ r, Tidy (next r)

theorem Follows.bind {o : Op} {next : Reply o → Program Op Reply α} (f : α → Program Op Reply β)
    (h : Follows o next) : Follows o fun r => next r >>= f := by
  cases o with
  | create n =>
    intro i
    obtain ⟨k, hk⟩ := h i
    exact ⟨_, congrArg (· >>= f) hk⟩
  | chmod i =>
    obtain ⟨payload, k, hk⟩ := h
    exact ⟨payload, _, congrArg (· >>= f) hk⟩
  | _ => trivial

theorem Tidy.bind {p : Program Op Reply α} {f : α → Program Op Reply β} (hp : Tidy p)
    (hf : ∀ a, Tidy (f a)) : Tidy (p >>= f) := by
  induction p with
  | done a => exact hf a
  | call o next ih => exact ⟨hp.1.bind f, fun r => ih r (hp.2 r)⟩

theorem tidy_bind {p : Act α} {f : α → Act β} (hp : Tidy p.run) (hf : ∀ a, Tidy (f a).run) :
    Tidy (p >>= f).run := by
  refine Tidy.bind hp fun r => ?_
  cases r with
  | error e => trivial
  | ok a => exact hf a

/-- Anything can come after the operation. -/
def Op.plain : Op → Bool
  | .create _ | .chmod _ => false
  | _ => true

theorem follows_plain {o : Op} (ho : o.plain = true) (next : Reply o → Program Op Reply α) :
    Follows o next := by
  cases o <;> first | exact absurd ho Bool.false_ne_true | trivial

theorem tidy_sys {o : Op} (ho : o.plain = true) : Tidy (sys o).run :=
  ⟨follows_plain ho _, fun _ => trivial⟩

theorem tidy_demand {c : Prop} [Decidable c] {e : Fault} : Tidy (demand c e).run := by
  unfold demand
  split_ifs <;> trivial

theorem tidy_translating {f : Fault → Fault} {p : Act α} (hp : Tidy p.run) :
    Tidy (translating f p).run := hp.bind fun _ => trivial

theorem tidy_closing {o : Op} (ho : o.plain = true) {p : Act α} (hp : Tidy p.run) :
    Tidy (closing o p).run := by
  refine hp.bind fun r => ⟨follows_plain ho _, fun c => ?_⟩
  cases c <;> trivial

theorem tidy_readAll (i rounds remaining : Nat) (data : Bytes) :
    Tidy (readAll i rounds remaining data).run := by
  induction rounds generalizing remaining data with
  | zero => cases remaining <;> trivial
  | succ rounds ih =>
    cases remaining with
    | zero => trivial
    | succ remaining =>
      refine tidy_bind (tidy_sys rfl) fun chunk => ?_
      split_ifs
      · trivial
      · exact ih _ _

theorem tidy_managedFile (n : Name) (limit : Nat) : Tidy (managedFile n limit).run := by
  refine tidy_bind (tidy_translating (tidy_sys rfl)) fun i => ?_
  refine tidy_closing rfl (tidy_translating ?_)
  refine tidy_bind (tidy_sys rfl) fun metadata => tidy_bind tidy_demand fun _ => ?_
  exact tidy_bind (tidy_readAll _ _ _ _) fun data => tidy_bind tidy_demand fun _ => trivial

theorem tidy_readExactManifest (n : Name) : Tidy (readExactManifest host n).run :=
  tidy_bind (tidy_managedFile n 4096) fun _ => tidy_bind trivial fun _ => tidy_demand

theorem tidy_createFile (n : Name) (payload : Bytes) : Tidy (createFile n payload).run := by
  refine ⟨fun i => ⟨_, rfl⟩, fun r => ?_⟩
  cases r with
  | error e => trivial
  | ok i =>
    refine tidy_closing rfl ⟨⟨payload, _, rfl⟩, fun r => ?_⟩
    cases r with
    | error e => trivial
    | ok u =>
      refine tidy_bind (tidy_sys rfl) fun written => ?_
      exact tidy_bind tidy_demand fun _ => tidy_sys rfl

theorem tidy_initializeEntries (entries : List Name) : Tidy (initializeEntries host entries).run := by
  unfold initializeEntries
  split_ifs
  · exact tidy_bind (tidy_readExactManifest _) fun _ => trivial
  · refine tidy_bind tidy_demand fun _ => tidy_bind ?_ fun _ => tidy_bind ?_ fun _ => ?_
    · unfold ensureMarker
      split_ifs
      · exact tidy_bind (tidy_managedFile _ _) fun _ => tidy_demand
      · exact tidy_bind (tidy_createFile _ _) fun _ => tidy_sys rfl
    · unfold ensureManifest ensureTemporary
      split_ifs
      · exact tidy_bind (tidy_readExactManifest _) fun _ => tidy_demand
      · refine tidy_bind (tidy_readExactManifest _) fun _ => tidy_bind (tidy_sys rfl) fun _ => ?_
        exact tidy_bind (tidy_sys rfl) fun _ => tidy_readExactManifest _
      · refine tidy_bind (tidy_createFile _ _) fun _ => tidy_bind (tidy_sys rfl) fun _ => ?_
        exact tidy_bind (tidy_sys rfl) fun _ => tidy_readExactManifest _
    · exact tidy_bind (tidy_sys rfl) fun _ =>
        tidy_bind (tidy_sys rfl) fun _ => trivial

theorem tidy_program (c : Command) : Tidy (c.program host) := by
  cases c with
  | initializeState =>
    refine tidy_bind (tidy_translating (tidy_sys rfl)) fun _ => ?_
    refine tidy_closing rfl (tidy_translating ?_)
    exact tidy_bind (tidy_sys rfl) fun entries => tidy_initializeEntries entries
  | health =>
    refine tidy_bind (tidy_translating (tidy_sys rfl)) fun _ => ?_
    refine tidy_closing rfl (tidy_bind (tidy_sys rfl) fun entries => ?_)
    refine tidy_bind tidy_demand fun _ => tidy_bind tidy_demand fun _ => tidy_bind tidy_demand fun _ => ?_
    exact tidy_bind (tidy_readExactManifest _) fun _ => trivial

/-! ### Files that are not whole -/

/-- The file that is changed or written. -/
def Op.writes : Op → Option Nat
  | .chmod i | .write i _ => some i
  | _ => none

/-- The call of this number makes this operation next. -/
def Makes (s : System) (m : Nat) (o : Op)
    (next : Reply o → Program Op Reply (Except Fault PreviewReport)) : Prop :=
  s.programs[m]? = some (.calling o next)

/-- A call is about to write the file. -/
def Tends (s : System) (i : Nat) : Prop := ∃ m o next, Makes s m o next ∧ o.writes = some i

structure Tended (s : System) : Prop where
  tidy : ∀ m o next, Makes s m o next → Tidy (.call o next)
  files : ∀ n i, s.world.link n = some i → s.world.Whole i ∨ Tends s i

/-- A call dies, fails or is cut short between the creation of a file and the end of its write, or it
creates a file beside a manifest. -/
def Spoils (s : System) : Turn Command Fate → Prop
  | .start _ => False
  | .act n fate => ∃ o ∈ s.next n, ¬allowed o fate s.world
  | .die n => ∃ o ∈ s.next n, o.writes ≠ none

instance (s : System) (t : Turn Command Fate) : Decidable (Spoils s t) :=
  match t with
  | .start _ => inferInstanceAs (Decidable False)
  | .act n fate => inferInstanceAs (Decidable (∃ o ∈ s.next n, ¬allowed o fate s.world))
  | .die n => inferInstanceAs (Decidable (∃ o ∈ s.next n, o.writes ≠ none))

section Steps
variable {s : System} {m n i : Nat} {o : Op}
  {next : Reply o → Program Op Reply (Except Fault PreviewReport)}

theorem Makes.mem_next (h : Makes s n o next) : o ∈ s.next n := by
  rw [Pool.next, h]
  rfl

theorem started_eq_calling {p : Program Op Reply (Except Fault PreviewReport)}
    (h : p.started = .calling o next) : p = .call o next := by
  cases p with
  | done a => exact nomatch h
  | call o' next' =>
    obtain ⟨rfl, hnext⟩ := Running.calling.inj h
    rw [eq_of_heq hnext]

theorem link_setLink (d : Directory) (n m : Name) (x : Option Nat) :
    (d.setLink n x).link m = if n = m ∧ n.owned = true then x else d.link m := by
  cases n <;> cases m <;> simp [setLink, link, Name.owned]

/-- An operation other than a creation gives no name to a file that had none. -/
theorem link_exec {fate : Fate} {d : Directory} (ho : ∀ m, o ≠ .create m) {n : Name}
    (h : (exec host o fate d).2.link n = some i) : ∃ m, d.link m = some i := by
  by_cases hlooks : o.looks = true
  · rw [exec_looks hlooks] at h
    exact ⟨n, h⟩
  · cases fate with
    | fails e => exact ⟨n, h⟩
    | done bytes =>
      cases o with
      | create m => exact absurd rfl (ho m)
      | chmod j => exact ⟨n, by cases n <;> exact h⟩
      | write j payload => exact ⟨n, by cases n <;> exact h⟩
      | rename source target =>
        simp only [exec, execDone] at h
        split at h
        · next j hj =>
          simp only [link_setLink] at h
          split_ifs at h
          · exact ⟨source, hj.trans h⟩
          · exact ⟨n, h⟩
        · exact ⟨n, h⟩
      | unlink m =>
        simp only [exec, execDone] at h
        split at h
        · simp only [link_setLink] at h
          split_ifs at h
          exact ⟨n, h⟩
        · exact ⟨n, h⟩
      | _ => exact absurd rfl hlooks

theorem Tends.set {p : Running Op Reply (Except Fault PreviewReport)} {world : Directory}
    (hn : Makes s n o next) (ho : o.writes ≠ some i) (h : Tends s i) :
    Tends ⟨world, s.programs.set n p⟩ i := by
  obtain ⟨m, o', next', hm, hwrites⟩ := h
  refine ⟨m, o', next', ?_, hwrites⟩
  rw [Makes, List.getElem?_set_ne, hm]
  rintro rfl
  obtain ⟨rfl, -⟩ := Running.calling.inj (Option.some.inj (hn.symm.trans hm))
  exact ho hwrites

theorem tends_of_started {p : Program Op Reply (Except Fault PreviewReport)} {world : Directory}
    (hn : n < s.programs.length) (hp : p = .call o next) (ho : o.writes = some i) :
    Tends ⟨world, s.programs.set n p.started⟩ i := by
  refine ⟨n, o, next, ?_, ho⟩
  rw [Makes, List.getElem?_set_self hn, hp]
  rfl

/-- What was whole or tended is so after a call of any program. -/
theorem Tended.act (h : Tended s) {fate : Fate} (hn : Makes s n o next)
    (hallowed : allowed o fate s.world) (hrequires : requires o s.world)
    (hmove : Rely s.world (exec host o fate s.world).2 ∧ (exec host o fate s.world).2.Inv)
    {m : Name} (hi : s.world.link m = some i) :
    (exec host o fate s.world).2.Whole i ∨ Tends ⟨(exec host o fate s.world).2,
      s.programs.set n (next (exec host o fate s.world).1).started⟩ i := by
  have hlength : n < s.programs.length := (List.getElem?_eq_some_iff.mp hn).1
  rcases h.files m i hi with hwhole | htends
  · exact Or.inl (hmove.1.whole hmove.2 hwhole)
  · by_cases ho : o.writes = some i
    · obtain ⟨hfollows, -⟩ := h.tidy n o next hn
      cases o with
      | chmod j =>
        obtain rfl := Option.some.inj ho
        obtain ⟨payload, k, hk⟩ := hfollows
        cases fate with
        | fails e => exact hallowed.elim
        | done bytes => exact Or.inr (tends_of_started hlength hk rfl)
      | write j payload =>
        obtain rfl := Option.some.inj ho
        obtain ⟨f, hf, hmode, rfl⟩ := hrequires
        obtain ⟨f', hf', hname, -, hmode'⟩ := hmove.1.files j f hf
        refine Or.inl ⟨f', hf', ?_, hmode' hmode⟩
        have hpart := hmove.2.contents f' (List.mem_of_getElem? hf')
        refine hpart.eq_of_length_le ?_
        rw [hname]
        cases fate with
        | fails e => exact hallowed.elim
        | done bytes =>
          simp only [exec, execDone] at hf'
          rw [getElem?_modify, if_pos rfl, hf] at hf'
          obtain rfl := Option.some.inj hf'
          rw [List.take_of_length_le hallowed, List.length_append]
          exact Nat.le_add_right _ _
      | _ => cases ho
    · exact Or.inr (htends.set hn ho)

/-- A file that a call has created is tended by the call. -/
theorem Tended.create (h : Tended s) {fate : Fate} {name : Name}
    {next : Reply (.create name) → Program Op Reply (Except Fault PreviewReport)}
    (hn : Makes s n (.create name) next) {m : Name}
    (hi : (exec host (.create name) fate s.world).2.link m = some i) :
    (∃ m, s.world.link m = some i) ∨ Tends ⟨(exec host (.create name) fate s.world).2,
      s.programs.set n (next (exec host (.create name) fate s.world).1).started⟩ i := by
  cases fate with
  | fails e => exact Or.inl ⟨m, hi⟩
  | done bytes =>
    cases hlink : s.world.link name with
    | some j =>
      simp only [exec, execDone, hlink] at hi
      exact Or.inl ⟨m, hi⟩
    | none =>
      simp only [exec, execDone, hlink] at hi ⊢
      have hset : ((s.world.setLink name (some s.world.files.length)).link m) = some i := by
        cases m <;> exact hi
      rw [link_setLink] at hset
      split_ifs at hset
      · obtain rfl := Option.some.inj hset
        obtain ⟨k, hk⟩ := (h.tidy n _ next hn).1 s.world.files.length
        exact Or.inr (tends_of_started (List.getElem?_eq_some_iff.mp hn).1 hk rfl)
      · exact Or.inl ⟨m, hset⟩

theorem Tended.step {post : Nat → Except Fault PreviewReport → Directory → Prop} (h : Tended s)
    (hsound : Pool.AllSound (exec host) (fun _ => discipline) post s) (t : Turn Command Fate)
    (hnot : ¬Spoils s t) : Tended (s.step host t).2 := by
  rcases Pool.step_cases (exec host) (fun c _ => Command.program host c) s t with ⟨c, -, hs⟩ |
    ⟨n, fate, o, next, rfl, hn, hs⟩ | ⟨n, o, next, rfl, hn, hs⟩ | hs
  · rw [hs]
    have hold : ∀ {m o next}, Makes s m o next →
        Makes { s with programs := s.programs ++ [(c.program host).started] } m o next := by
      intro m o next hm
      rw [Makes, List.getElem?_append_left (List.getElem?_eq_some_iff.mp hm).1]
      exact hm
    constructor
    · intro m o next hm
      rcases List.mem_append.mp (List.mem_of_getElem? hm) with hmem | hmem
      · obtain ⟨k, hk⟩ := List.getElem?_of_mem hmem
        exact h.tidy k o next hk
      · rw [← started_eq_calling (List.mem_singleton.mp hmem).symm]
        exact tidy_program c
    · intro n i hi
      rcases h.files n i hi with hwhole | ⟨m, o, next, hm, hwrites⟩
      · exact Or.inl hwhole
      · exact Or.inr ⟨m, o, next, hold hm, hwrites⟩
  · have hallowed : allowed o fate s.world := by
      by_contra hnone
      exact hnot ⟨o, Makes.mem_next hn, hnone⟩
    have hmove := hsound.move hn hallowed
    have hrequires := hsound.requires hn
    rw [hs]
    constructor
    · intro m o' next' hm
      rcases List.mem_or_eq_of_mem_set (List.mem_of_getElem? hm) with hmem | heq
      · obtain ⟨k, hk⟩ := List.getElem?_of_mem hmem
        exact h.tidy k o' next' hk
      · rw [← started_eq_calling heq.symm]
        exact (h.tidy n o next hn).2 _
    · intro m i hi
      by_cases ho : ∃ name, o = .create name
      · obtain ⟨name, rfl⟩ := ho
        rcases h.create hn hi with ⟨m', hi'⟩ | htends
        · exact h.act hn hallowed hrequires hmove hi'
        · exact Or.inr htends
      · obtain ⟨m', hi'⟩ := link_exec (fun name hname => ho ⟨name, hname⟩) hi
        exact h.act hn hallowed hrequires hmove hi'
  · have hwrites : o.writes = none := by
      by_contra hne
      exact hnot ⟨o, Makes.mem_next hn, hne⟩
    rw [hs]
    constructor
    · intro m o' next' hm
      rcases List.mem_or_eq_of_mem_set (List.mem_of_getElem? hm) with hmem | heq
      · obtain ⟨k, hk⟩ := List.getElem?_of_mem hmem
        exact h.tidy k o' next' hk
      · exact nomatch heq
    · intro m i hi
      rcases h.files m i hi with hwhole | htends
      · exact Or.inl hwhole
      · exact Or.inr (htends.set hn (by rw [hwrites]; exact nofun))
  · rw [hs]
    exact h

end Steps

/-! ### Runs -/

/-- Where a call has ended with a report, the report is honest. -/
def Reported (r : Except Fault PreviewReport) (d : Directory) : Prop :=
  ∀ report, r = .ok report → Honest report d

/-- All calls keep to the discipline, and all files are tended. -/
def InOrder (host : Host) (s : System) : Prop :=
  Pool.AllSound (exec host) (fun _ => discipline) (fun _ => Reported) s ∧ Tended s

theorem InOrder.step {s : System} (h : InOrder host s) (t : Turn Command Fate) :
    InOrder host (s.step host t).2 ∨ Spoils s t := by
  have hagree : Pool.Agree (fun _ => discipline) (fun _ => Reported) :=
    ⟨fun _ _ _ h => h, fun _ _ _ _ _ h => h,
      fun _ _ _ _ hrely hinv hr report hok => (hr report hok).moved hrely hinv⟩
  obtain ⟨hsound, htended⟩ := h
  by_cases hspoils : Spoils s t
  · exact Or.inr hspoils
  · refine Or.inl ⟨?_, htended.step hsound t hspoils⟩
    have hstep : Pool.AllSound (exec host) (fun _ => discipline) (fun _ => Reported) (s.step host t).2 ∨
        Pool.Breaks (fun _ => discipline) s t := hsound.step hagree t fun c _ => keeps_program c
    rcases hstep with hnext | hbreaks
    · exact hnext
    · cases t with
      | act n fate =>
        obtain ⟨o, next, hn, hnot⟩ := hbreaks
        exact absurd ⟨o, Makes.mem_next hn, hnot⟩ hspoils
      | start c => exact hbreaks.elim
      | die n => exact hbreaks.elim

theorem inOrder_empty : InOrder host ⟨{}, []⟩ := by
  refine ⟨⟨fun _ => ⟨nofun, nofun, nofun, nofun, rfl⟩, nofun⟩, nofun, fun n i hi => ?_⟩
  cases n <;> exact nomatch hi

/-- In a run that nothing spoils everything is in order. -/
theorem run_inOrder {turns : List (Turn Command Fate)}
    (hnever : Never (System.step host) Spoils ⟨{}, []⟩ turns) :
    InOrder host (run (System.step host) ⟨{}, []⟩ turns) :=
  run_of_never (v := fun _ => True) (fun _ _ _ => trivial) (fun _ t _ h => h.step t) trivial
    inOrder_empty hnever

/-- Where no call runs, every file is whole. -/
theorem InOrder.whole {s : System} (h : InOrder host s) (hquiet : s.Quiet) {n : Name} {i : Nat}
    (hi : s.world.link n = some i) : s.world.Whole i := by
  rcases h.2.files n i hi with hwhole | ⟨m, o, next, hm, -⟩
  · exact hwhole
  · exact nomatch hquiet _ (List.mem_of_getElem? hm)

end MyCogni.Preview
