import Mathlib.Data.List.Induction
import MyCogni.Mailbox.Capacity

/-! Whether a row that was written can be loaded again: always and with the same content, unless
the state retains an envelope that is longer than the decoder admits. -/

namespace MyCogni.Mailbox

variable {inst : Installation} {s : Repository} {generation : Int} {nonce : Nonce} {row : Row}

theorem writeRepository_eq_ok (h : writeRepository inst s generation nonce = .ok row) :
    ∃ serialized, encodeState s = some serialized ∧ 0 ≤ generation ∧
      generation < maxFrameGeneration ∧ serialized.length ≤ inst.limits.maxSerializedBytes ∧
      row = ⟨frameVersion, generation, nonce.bytes,
        inst.aead.encrypt inst.outerStorageKey nonce.bytes serialized (inst.aad generation),
        Sha256.digest (inst.aead.encrypt inst.outerStorageKey nonce.bytes serialized
          (inst.aad generation))⟩ := by
  unfold writeRepository at h
  simp only [bind_eq_ok_iff, ensure_eq_ok, exists_const] at h
  obtain ⟨⟨hpos, hmax⟩, -, -, h⟩ := h
  cases hencode : encodeState s with
  | none =>
    rw [hencode] at h
    exact nomatch h
  | some serialized =>
    rw [hencode] at h
    simp only [bind_eq_ok_iff, ensure_eq_ok, exists_const, pure_eq_ok_iff] at h
    exact ⟨serialized, rfl, hpos, hmax, h.1, h.2.symm⟩

theorem Coherent.authenticates {cfg : Config} (h : Coherent cfg s) :
    (s.records.values.forM fun r => (validatedRecordMaterial cfg r).map fun _ => ()) =
      .ok () := by
  have hall : ∀ rs : List Record, (∀ r ∈ rs, ∃ m, Authentic cfg r m) →
      (rs.forM fun r => (validatedRecordMaterial cfg r).map fun _ => ()) = .ok () := by
    intro rs hrs
    induction rs with
    | nil => rfl
    | cons r rs ih =>
      rw [List.forall_mem_cons] at hrs
      obtain ⟨m, hm⟩ := hrs.1
      have hstep : (validatedRecordMaterial cfg r).map (fun _ => ()) = .ok () := by
        rw [validatedRecordMaterial_eq_ok.mpr hm]
        rfl
      rw [List.forM, hstep, ok_bind]
      exact ih hrs.2
  refine hall _ fun r hr => ?_
  obtain ⟨id, hid⟩ := Dict.mem_values.mp hr
  exact (h.record id r hid).material

/-- What is made of a row that was just written. -/
theorem load_write (hs : Storable inst.config s)
    (hwrite : writeRepository inst s generation nonce = .ok row) :
    (ShortEnvelopes s → loadRepository inst row = .ok (generation, s.canonical)) ∧
      (¬ShortEnvelopes s → loadRepository inst row = .error uncertain) := by
  obtain ⟨serialized, hencode, hpos, hmax, hlength, rfl⟩ := writeRepository_eq_ok hwrite
  have hsame := same_repository_canonical s
  have hcanonical := hs.coherent.same hsame
  have hcipher := inst.aead.length_encrypt inst.outerStorageKey nonce.bytes serialized
    (inst.aad generation)
  have hchecks : frameVersion = frameVersion ∧ 0 ≤ generation ∧ generation < maxFrameGeneration ∧
      nonce.bytes.length = 12 ∧
      (Sha256.digest (inst.aead.encrypt inst.outerStorageKey nonce.bytes serialized
        (inst.aad generation))).length = 32 ∧
      inst.aead.encrypt inst.outerStorageKey nonce.bytes serialized (inst.aad generation) ≠ [] ∧
      (inst.aead.encrypt inst.outerStorageKey nonce.bytes serialized (inst.aad generation)).length ≤
        inst.maxCiphertextBytes := by
    refine ⟨rfl, hpos, hmax, nonce.length, Sha256.length_digest _, ?_, ?_⟩
    · intro hnil
      rw [hnil, List.length_nil] at hcipher
      omega
    · rw [hcipher]
      unfold Installation.maxCiphertextBytes
      omega
  have hdecode := fun s' => @decodeState_encodeState inst.limits s s' serialized
    hs.coherent.keyed hencode
  have hfits := hs.fits
  unfold loadRepository
  dsimp only
  rw [ensure_bind hchecks, ensure_bind rfl, inst.aead.decrypt_encrypt]
  dsimp only
  constructor
  · intro hshort
    have hread := (hdecode s.canonical).mpr ⟨hlength, hfits.mpr hshort, rfl⟩
    have hvalid := hcanonical.validate
    rw [hread]
    dsimp only
    rw [hcanonical.authenticates, ok_bind, hvalid, ok_bind,
      ensure_bind ((encodeState_same hsame).trans hencode)]
    rfl
  · intro hlong
    have hread : decodeState inst.limits serialized = none := by
      cases hcase : decodeState inst.limits serialized with
      | none => rfl
      | some s' => exact absurd (hfits.mp ((hdecode s').mp hcase).2.1) hlong
    rw [hread]

/-! ### Transactions -/

theorem commitThenReply_row (fate : Fate) (out : Outcome) (row : Option Row) (next : Row) :
    (commitThenReply fate out row next).row = row ∨
      (commitThenReply fate out row next).row = some next := by
  cases fate with
  | commitFails landed => cases landed <;> simp [commitThenReply, Answer.unknown]
  | _ => simp [commitThenReply, Answer.unknown, Answer.replied]

theorem transact_row (row : Option Row) (generation : Int) (s : Repository) (i : Call × Env)
    (nonce : Nonce) (fate : Fate) :
    (transact inst row generation s i nonce fate).row = row ∨
      ∃ next, writeRepository inst (apply inst.config s i).2 (generation + 1) nonce = .ok next ∧
        (transact inst row generation s i nonce fate).row = some next := by
  unfold transact
  dsimp only
  split_ifs with hvalue
  · exact Or.inl rfl
  · split
    · split_ifs with hequal
      · exact Or.inl rfl
      · split
        · exact Or.inl rfl
        · exact Or.inl rfl
        · next next hwrite =>
          rcases commitThenReply_row fate (apply inst.config s i).1 row next with h | h
          · exact Or.inl h
          · exact Or.inr ⟨next, hwrite, h⟩
    · exact Or.inl rfl

/-- A transaction leaves the row as it is, or writes what the machine makes of it. -/
theorem transition_row (inst : Installation) (row : Option Row) (i : Call × Env) (nonce : Nonce)
    (fate : Fate) :
    (transition inst row i nonce fate).row = row ∨
      ∃ current generation s next, row = some current ∧
        loadRepository inst current = .ok (generation, s) ∧
        writeRepository inst (apply inst.config s i).2 (generation + 1) nonce = .ok next ∧
        (transition inst row i nonce fate).row = some next := by
  unfold transition
  split
  · exact Or.inl rfl
  · exact Or.inl rfl
  · cases row with
    | none => exact Or.inl rfl
    | some current =>
      dsimp only
      cases hload : loadRepository inst current with
      | error e => exact Or.inl rfl
      | ok loaded =>
        obtain ⟨generation, s⟩ := loaded
        rcases @transact_row inst (some current) generation s i nonce fate with h | ⟨next, hwrite, h⟩
        · exact Or.inl h
        · exact Or.inr ⟨current, generation, s, next, rfl, hload, hwrite, h⟩

theorem openHandle_row (inst : Installation) (row : Option Row) (nonce : Nonce) (fate : Fate) :
    (openHandle inst row nonce fate).2 = row ∨
      ∃ first, row = none ∧ writeRepository inst .empty 0 nonce = .ok first ∧
        (openHandle inst row nonce fate).2 = some first := by
  unfold openHandle
  generalize writeRepository inst .empty 0 nonce = written
  split
  · exact Or.inl rfl
  · exact Or.inl rfl
  · cases row with
    | some current =>
      dsimp only
      cases loadRepository inst current with
      | error e => exact Or.inl rfl
      | ok loaded => exact Or.inl rfl
    | none =>
      cases written with
      | error e => exact Or.inl rfl
      | ok first =>
        rcases commitThenReply_row fate (.ok (.ids [])) none first with h | h
        · exact Or.inl h
        · exact Or.inr ⟨first, rfl, rfl, h⟩

/-! ### Runs -/

/-- The row holds a state which the service can bring about and of which `p` holds. -/
def Row.Holds (inst : Installation) (p : Repository → Prop) (row : Row) : Prop :=
  ∃ s generation nonce, Storable inst.config s ∧ p s ∧
    writeRepository inst s generation nonce = .ok row

theorem Row.Holds.load {p : Repository → Prop} (h : row.Holds inst p)
    (hsame : ∀ s s', s.Same s' → p s → p s')
    (hload : loadRepository inst row = .ok (generation, s)) : Storable inst.config s ∧ p s := by
  obtain ⟨s₀, _, _, hs, hp, hwrite⟩ := h
  obtain ⟨hshort, hlong⟩ := load_write hs hwrite
  by_cases hcase : ShortEnvelopes s₀
  · cases (hshort hcase).symm.trans hload
    have hcanonical := same_repository_canonical s₀
    exact ⟨hs.same hcanonical, hsame _ _ hcanonical hp⟩
  · exact nomatch (hlong hcase).symm.trans hload

theorem stored_append (inst : Installation) (es : List Event) (e : Event) :
    stored inst (es ++ [e]) = e.row inst (stored inst es) := List.foldl_concat ..

section
variable {p : Repository → Prop} {q : Event → Prop} (hempty : p .empty)
  (hsame : ∀ s s', s.Same s' → p s → p s')
  (happly : ∀ s request call env nonce fate, p s → q (.serves request env nonce fate) →
    request.call inst.config = .ok call → p (apply inst.config s (call, env)).2)
include hempty hsame happly

theorem Event.row_holds {row : Option Row} (h : ∀ r ∈ row, r.Holds inst p) {e : Event} (he : q e) :
    ∀ r ∈ e.row inst row, r.Holds inst p := by
  have hnext : ∀ {row' : Option Row} {next : Row}, row' = some next → next.Holds inst p →
      ∀ r ∈ row', r.Holds inst p := by
    rintro _ next rfl hholds r hr
    exact Option.some.inj hr ▸ hholds
  cases e with
  | opens nonce fate =>
    rw [Event.row]
    rcases openHandle_row inst row nonce fate with hrow | ⟨first, -, hwrite, hrow⟩
    · rw [hrow]
      exact h
    · exact hnext hrow ⟨_, _, _, storable_empty _, hempty, hwrite⟩
  | serves request env nonce fate =>
    rw [Event.row]
    cases hcall : request.call inst.config with
    | error e => exact h
    | ok call =>
      dsimp only
      rcases transition_row inst row (call, env) nonce fate with
        hrow | ⟨current, generation, s, next, hcurrent, hload, hwrite, hrow⟩
      · rw [hrow]
        exact h
      · obtain ⟨hs, hp⟩ := (h current hcurrent).load hsame hload
        exact hnext hrow ⟨_, _, _, hs.apply hcall env, happly _ _ _ _ _ _ hp he hcall, hwrite⟩

/-- What holds of the empty repository and of what a request makes of a repository, however it is
ordered, holds of every stored one. -/
theorem stored_holds (es : List Event) (hes : ∀ e ∈ es, q e) :
    ∀ r ∈ stored inst es, r.Holds inst p := by
  induction es using List.reverseRecOn with
  | nil => exact fun _ h => nomatch h
  | append_singleton es e ih =>
    rw [stored_append]
    have hlast : q e := hes e (by simp)
    exact Event.row_holds hempty hsame happly (ih fun e' he' => hes e' (by simp [he'])) hlast

end

/-- The states that a transaction comes to, after the events: the empty repository of a first
handle, and what the machine makes of a stored one. -/
inductive Reached (inst : Installation) : List Event → Repository → Prop
  | opened {es : List Event} (nonce : Nonce) (fate : Fate) (hrow : stored inst es = none) :
      Reached inst (es ++ [.opens nonce fate]) .empty
  | served {es : List Event} {row : Row} {generation : Int} {s : Repository} {request : Request}
      {call : Call} (env : Env) (nonce : Nonce) (fate : Fate) (hrow : stored inst es = some row)
      (hload : loadRepository inst row = .ok (generation, s))
      (hcall : request.call inst.config = .ok call) :
      Reached inst (es ++ [.serves request env nonce fate]) (apply inst.config s (call, env)).2

theorem storable_loaded {es : List Event} (hrow : stored inst es = some row)
    (hload : loadRepository inst row = .ok (generation, s)) : Storable inst.config s := by
  have hholds := stored_holds (p := fun _ => True) (q := fun _ => True) trivial
    (fun _ _ _ _ => trivial) (fun _ _ _ _ _ _ _ _ _ => trivial) es (fun _ _ => trivial) row hrow
  exact (hholds.load (fun _ _ _ _ => trivial) hload).1

theorem Reached.storable {es : List Event} (h : Reached inst es s) : Storable inst.config s := by
  cases h with
  | opened => exact storable_empty _
  | served env _ _ hrow hload hcall => exact (storable_loaded hrow hload).apply hcall env

/-! ### Envelopes -/

/-- The canonical text of an offered action is no longer than an envelope may be. -/
def Event.Short (cfg : Config) : Event → Prop
  | .serves (.offer _ actionJson _ _ _) _ _ _ => ∀ action,
      cfg.pydantic.validateAction actionJson = some action →
      (cfg.pydantic.dumpAction action).length ≤ maxActionEnvelopeBytes
  | _ => True

theorem shortEnvelopes_empty : ShortEnvelopes .empty := fun _ _ h => nomatch h

theorem ShortEnvelopes.same {s' : Repository} (h : s.Same s') (hs : ShortEnvelopes s) :
    ShortEnvelopes s' := by
  intro id r' hr' e he
  obtain ⟨r, hr, hsame⟩ := h.symm.found hr'
  obtain ⟨d, rfl, -⟩ := hsame.exists
  exact hs id _ hr e he

def Call.short : Call → Prop
  | .offer _ e _ _ _ _ _ => e.length ≤ maxActionEnvelopeBytes
  | _ => True

theorem Request.Makes.short {cfg : Config} {request : Request} {call : Call} {env : Env}
    {fate : Fate} (h : request.Makes cfg call)
    (hshort : (Event.serves request env nonce fate).Short cfg) : call.short := by
  cases h with
  | @offer _ _ _ _ _ _ action hparse =>
    obtain ⟨-, -, haction, hcanonical, -⟩ := parseAction_eq_ok hparse
    dsimp only at haction hcanonical
    subst hcanonical
    exact hshort action haction
  | _ => trivial

/-- A record keeps its envelope, or has none any more. -/
theorem ShortEnvelopes.set {s' : Repository} {id : Uuid} {r r' : Record} (hs : ShortEnvelopes s)
    (hfound : s.records.get? id = some r) (hrecords : s'.records = s.records.set id r')
    (hr' : r'.envelopeJson = r.envelopeJson ∨ r'.envelopeJson = none) : ShortEnvelopes s' := by
  intro id' r'' hr'' e he
  rw [hrecords, Dict.get?_set] at hr''
  split_ifs at hr''
  · obtain rfl := Option.some.inj hr''
    rcases hr' with hr' | hr'
    · exact hs id r hfound e (hr' ▸ he)
    · rw [hr'] at he
      cases he
  · exact hs id' r'' hr'' e he

theorem Lapse.envelope {now : Datetime} {r r' : Record} (h : Lapse now r r') :
    r'.envelopeJson = r.envelopeJson ∨ r'.envelopeJson = none := by
  cases h with
  | again => exact Or.inl rfl
  | due => exact Or.inr rfl

theorem Step.shortEnvelopes {cfg : Config} {s' : Repository} {i : Call × Env} {out : Outcome}
    (h : Step cfg s i out s') (hs : ShortEnvelopes s) (hcall : i.1.short) : ShortEnvelopes s' := by
  cases h with
  | refused => exact hs
  | created =>
    intro id r hr e he
    rw [Dict.get?_set] at hr
    split_ifs at hr
    · obtain rfl := Option.some.inj hr
      cases he
    · exact hs id r hr e he
  | lapsed _ _ access hlapse => exact hs.set access.found rfl hlapse.envelope
  | viewed access _ hr' =>
    rcases hr' with hlapse | ⟨rfl, -⟩
    · exact hs.set access.found rfl hlapse.envelope
    · exact hs.set access.found rfl (Or.inl rfl)
  | offered access =>
    intro id r hr e he
    rw [Dict.get?_set] at hr
    split_ifs at hr
    · obtain rfl := Option.some.inj hr
      obtain rfl := Option.some.inj he
      exact hcall
    · exact hs id r hr e he
  | claimed access => exact hs.set access.found rfl (Or.inr rfl)
  | staged access => exact hs.set access.found rfl (Or.inl rfl)
  | committed access => exact hs.set access.found rfl (Or.inl rfl)
  | delivered access => exact hs.set access.found rfl (Or.inl rfl)
  | acknowledgedAgain access => exact hs.set access.found rfl (Or.inl rfl)
  | acknowledged access => exact hs.set access.found rfl (Or.inl rfl)
  | abandoned access => exact hs.set access.found rfl (Or.inr rfl)
  | swept _ _ _ _ hswept =>
    intro id r' hr' e he
    rw [hswept.records] at hr'
    obtain ⟨r, hr, h⟩ := Option.bind_eq_some_iff.mp hr'
    obtain rfl := Option.some.inj h
    unfold Record.swept at he
    split_ifs at he
    · cases he
    · exact hs id r hr e he
  | collected _ _ _ _ _ _ hswept =>
    intro id r' hr' e he
    rw [hswept.records] at hr'
    obtain ⟨r, hr, h⟩ := Option.bind_eq_some_iff.mp hr'
    split_ifs at h
    obtain rfl := Option.some.inj h
    exact hs id r hr e he

theorem shortEnvelopes_apply {request : Request} {call : Call} {env : Env} {fate : Fate}
    (hs : ShortEnvelopes s) (hshort : (Event.serves request env nonce fate).Short inst.config)
    (hcall : request.call inst.config = .ok call) :
    ShortEnvelopes (apply inst.config s (call, env)).2 :=
  (apply_step inst.config s (call, env)).shortEnvelopes hs ((Request.call_makes hcall).short hshort)

theorem Reached.shortEnvelopes {es : List Event} (h : Reached inst es s)
    (hes : ∀ e ∈ es, e.Short inst.config) : ShortEnvelopes s := by
  cases h with
  | opened => exact shortEnvelopes_empty
  | @served es row _ _ _ _ env nonce fate hrow hload hcall =>
    rw [List.forall_mem_append] at hes
    have hsame : ∀ s s' : Repository, s.Same s' → ShortEnvelopes s → ShortEnvelopes s' :=
      fun _ _ => .same
    have hstored := stored_holds shortEnvelopes_empty hsame
      (fun _ _ _ _ _ _ hp hq hcall => shortEnvelopes_apply hp hq hcall) es hes.1 row hrow
    have hlast := hes.2 _ (List.mem_singleton_self _)
    exact shortEnvelopes_apply (hstored.load hsame hload).2 hlast hcall

/-! ### What is written is loaded -/

/-- A row that is written holds what its loading returns if and only if no retained envelope is
too long, and none is when every action that was offered is short in its canonical text. -/
theorem written_loads (inst : Installation) (es : List Event) (s : Repository)
    (hs : Reached inst es s) (generation : Int) (nonce : Nonce) (row : Row)
    (hwrite : writeRepository inst s generation nonce = .ok row) :
    ((∃ s', loadRepository inst row = .ok (generation, s') ∧ s.Same s') ↔ ShortEnvelopes s) ∧
      ((∀ e ∈ es, e.Short inst.config) → ShortEnvelopes s) := by
  obtain ⟨hshort, hlong⟩ := load_write hs.storable hwrite
  refine ⟨⟨fun ⟨s', hload, _⟩ => ?_, fun h => ?_⟩, hs.shortEnvelopes⟩
  · by_contra hcase
    exact nomatch (hlong hcase).symm.trans hload
  · exact ⟨_, hshort h, same_repository_canonical s⟩

/-! ### What the machine accepts is written -/

theorem writeRepository_of_coherent (hs : Coherent inst.config s)
    (hgeneration : 0 ≤ generation ∧ generation < maxFrameGeneration) {b : Bytes}
    (hb : encodeState s = some b) :
    (b.length ≤ inst.limits.maxSerializedBytes →
        ∃ row, writeRepository inst s generation nonce = .ok row) ∧
      (inst.limits.maxSerializedBytes < b.length →
        writeRepository inst s generation nonce = .error (.denied .oversize)) := by
  unfold writeRepository
  rw [ensure_bind hgeneration, hs.validate, ok_bind, hb]
  dsimp only
  constructor
  · intro hlength
    rw [ensure_bind hlength]
    exact ⟨_, rfl⟩
  · intro hlength
    rw [ensure, if_neg (not_le.mpr hlength)]
    rfl

theorem writeRepository_not_oversize (hroomy : inst.limits.Roomy) (hs : Storable inst.config s)
    (generation : Int) (nonce : Nonce) :
    writeRepository inst s generation nonce ≠ .error (.denied .oversize) := by
  intro h
  by_cases hgeneration : 0 ≤ generation ∧ generation < maxFrameGeneration
  · cases hb : encodeState s with
    | none =>
      unfold writeRepository at h
      rw [ensure_bind hgeneration, hs.coherent.validate, ok_bind, hb] at h
      cases h
    | some b =>
      have hlength : b.length ≤ inst.limits.maxSerializedBytes :=
        @MailboxLimits.Roomy.length_le inst.config s hroomy hs b hb
      obtain ⟨row, hrow⟩ := (writeRepository_of_coherent hs.coherent hgeneration hb).1 hlength
      cases hrow.symm.trans h
  · unfold writeRepository at h
    rw [ensure, if_neg hgeneration] at h
    cases h

theorem commitThenReply_reply {fate : Fate} {out : Outcome} {row : Option Row} {next : Row}
    {reply : Outcome} (h : (commitThenReply fate out row next).reply = some reply) :
    reply = out ∨ reply = .error uncertain := by
  cases fate with
  | diesBeforeCommit => exact nomatch h
  | diesAfterCommit => exact nomatch h
  | unwritable => exact Or.inr (Option.some.inj h).symm
  | commitFails landed => exact Or.inr (Option.some.inj h).symm
  | _ => exact Or.inl (Option.some.inj h).symm

/-- Under roomy limits the persistent adapter refuses nothing for its size that the machine
accepts, in no state that is ever stored. -/
theorem accepted_not_oversize (inst : Installation) (hroomy : inst.limits.Roomy) (es : List Event)
    (row : Row) (hrow : stored inst es = some row) (generation : Int) (s : Repository)
    (hload : loadRepository inst row = .ok (generation, s)) (request : Request) (call : Call)
    (hcall : request.call inst.config = .ok call) (env : Env) :
    (∀ b, encodeState (apply inst.config s (call, env)).2 = some b →
        b.length ≤ inst.limits.maxSerializedBytes) ∧
      ∀ nonce fate, (transition inst (some row) (call, env) nonce fate).reply =
          some (.error (.denied .oversize)) →
        (apply inst.config s (call, env)).1 = .error (.denied .oversize) := by
  have hs := (storable_loaded hrow hload).apply hcall env
  refine ⟨fun b hb => @MailboxLimits.Roomy.length_le inst.config _ hroomy hs b hb, ?_⟩
  intro nonce fate hreply
  unfold transition at hreply
  split at hreply
  · exact nomatch hreply
  · exact nomatch hreply
  · dsimp only at hreply
    rw [hload] at hreply
    dsimp only [transact] at hreply
    split_ifs at hreply with hvalue
    · exact nomatch hreply
    · split at hreply
      · split_ifs at hreply with hequal
        · exact Option.some.inj hreply
        · split at hreply
          · exact nomatch hreply
          · next e _ hwrite =>
            obtain rfl := Except.error.inj (Option.some.inj hreply)
            exact absurd hwrite (writeRepository_not_oversize hroomy hs _ _)
          · rcases commitThenReply_reply hreply with h | h
            · exact h.symm
            · exact nomatch h
      · exact nomatch hreply

end MyCogni.Mailbox
