import MyCogni.Simulator.Moves

/-! Deliveries that run beside one another: each commits its transition and its mail together or not at
all, calls the writer once or never, and leaves no reservation behind. -/

namespace MyCogni.Simulator

open Command

variable {s s' : Stores} {n : Nat} {lib : Library}

/-! ### What a delivery holds -/

/-- What belongs to the delivery of this number: at most this plan, this place for a mail, and these
events. -/
structure Mine (n : Nat) (plan? : Option EnginePlan) (mail? : Option MailReservation)
    (events : List Event) (s : Stores) : Prop where
  plans : ∀ token r, s.engine.reservations.get? token = some r → r.owner = n →
    plan? = some r.plan
  plan : ∀ plan, plan? = some plan → HasPlan n s plan
  mails : ∀ token m, s.mail.reservations.get? token = some m → m.owner = n → mail? = some m
  mail : ∀ m, mail? = some m → HasMail n s m
  events : s.history.filter (·.owner = n) = events

variable {plan? : Option EnginePlan} {mail? : Option MailReservation} {events : List Event}

theorem Mine.same (h : Mine n plan? mail? events s) (hsame : Same n s s') :
    Mine n plan? mail? events s' where
  plans := fun token r hr howner => h.plans token r ((hsame.plans token r howner).mp hr) howner
  plan := by
    intro plan hplan
    obtain ⟨r, hr, hrplan, howner⟩ := h.plan plan hplan
    exact ⟨r, (hsame.plans _ r howner).mpr hr, hrplan, howner⟩
  mails := fun token m hm howner => h.mails token m ((hsame.mails token m howner).mp hm) howner
  mail := by
    intro m hm
    obtain ⟨hholds, howner⟩ := h.mail m hm
    exact ⟨(hsame.mails _ m howner).mpr hholds, howner⟩
  events := hsame.events.trans h.events

/-- Each delivery relies on the others for what belongs to it. -/
def discipline (n : Nat) : Program.Discipline Op Fate Stores where
  rely := Same n
  guarantee := Guarantee n
  inv := Inv
  requires := Requires n
  allowed _ _ _ := True
  refl := Same.refl n
  trans _ _ _ h h' := h.trans h'

/-! ### The rules of its calls -/

section Rules
variable {α : Type} {post : α → Stores → Prop}

theorem holds_call {o : Op} {next : Reply o → Act α} (hmine : Mine n plan? mail? events s)
    (h : ∀ s', Mine n plan? mail? events s' → Inv s' → Requires n o s' ∧ ∀ fate,
      (Guarantee n s' (exec lib o fate s').2 ∧ Inv (exec lib o fate s').2) ∧
        (next (exec lib o fate s').1).Holds (exec lib) (discipline n) post (exec lib o fate s').2) :
    Program.Holds (exec lib) (discipline n) (.call o next) post s := by
  intro s' hsame hinv
  obtain ⟨hrequires, hcall⟩ := h s' (hmine.same hsame) hinv
  exact ⟨hrequires, fun fate _ => hcall fate⟩

theorem holds_compute {next : Except Fault Unit → Act α} (hmine : Mine n plan? mail? events s)
    (h : ∀ s' reply, Mine n plan? mail? events s' →
      (next reply).Holds (exec lib) (discipline n) post s') :
    Program.Holds (exec lib) (discipline n) (.call (.compute n) next) post s := by
  refine holds_call hmine fun s' hmine hinv => ⟨⟨rfl, trivial⟩, fun fate => ?_⟩
  have hstays : (exec lib (.compute n) fate s').2 = s' := by
    simp only [exec]
    split <;> rfl
  rw [hstays]
  exact ⟨⟨fun _ _ => Same.refl _ _, hinv⟩, h s' _ hmine⟩

theorem holds_reserve {scenario : ScenarioName} {session : Text} {expected : ScenarioState}
    {next : Except Fault EnginePlan → Act α} (hmine : Mine n none mail? events s)
    (hok : ∀ s' plan, Mine n (some plan) mail? events s' →
      (next (.ok plan)).Holds (exec lib) (discipline n) post s')
    (herror : ∀ s' fault, Mine n none mail? events s' →
      (next (.error fault)).Holds (exec lib) (discipline n) post s') :
    Program.Holds (exec lib) (discipline n) (.call (.reserve n scenario session expected) next) post
      s := by
  refine holds_call hmine fun s' hmine hinv => ⟨⟨rfl, trivial⟩, fun fate => ?_⟩
  simp only [exec, inEngine]
  cases fate.raised with
  | some fault => exact ⟨⟨fun _ _ => Same.refl _ _, hinv⟩, herror s' fault hmine⟩
  | none =>
    have hspec := wp_prepareLocked lib.timestamp n fate.instant scenario session expected s'.engine
    unfold wp at hspec
    dsimp only
    generalize Engine.prepareLocked lib.timestamp n fate.instant scenario session expected s'.engine =
      outcome at hspec ⊢
    rcases outcome with ⟨fault | plan, engine⟩
    · obtain rfl : engine = s'.engine := hspec
      exact ⟨⟨fun _ _ => Same.refl _ _, hinv⟩, herror s' fault hmine⟩
    · obtain ⟨r, hreserves⟩ := hspec
      obtain ⟨hinv', hguarantee, hget⟩ := hinv.reserving hreserves
      refine ⟨⟨hguarantee, hinv'⟩, hok _ plan ⟨fun token r' hr' howner => ?_, ?_, hmine.mails,
        hmine.mail, hmine.events⟩⟩
      · rcases (hget token r').mp hr' with ⟨-, rfl⟩ | hold
        · exact congrArg some hreserves.plan_eq.symm
        · exact nomatch hmine.plans token r' hold howner
      · rintro _ ⟨⟩
        exact ⟨r, (hget _ _).mpr (Or.inl ⟨rfl, rfl⟩), hreserves.plan_eq, hreserves.owner_eq⟩

theorem holds_reserveMail {message : MailFixture} {next : Except Fault MailReservation → Act α}
    (hmine : Mine n plan? none events s)
    (hok : ∀ s' m, m.message = message → Mine n plan? (some m) events s' →
      (next (.ok m)).Holds (exec lib) (discipline n) post s')
    (herror : ∀ s' fault, Mine n plan? none events s' →
      (next (.error fault)).Holds (exec lib) (discipline n) post s') :
    Program.Holds (exec lib) (discipline n) (.call (.reserveMail n message) next) post s := by
  refine holds_call hmine fun s' hmine hinv => ⟨⟨rfl, trivial⟩, fun fate => ?_⟩
  simp only [exec, inMail]
  cases fate.raised with
  | some fault => exact ⟨⟨fun _ _ => Same.refl _ _, hinv⟩, herror s' fault hmine⟩
  | none =>
    by_cases hroom : s'.mail.messages.length + s'.mail.reservations.size < maxMailMessages
    · have hreserve : MailCapture.reserve n message s'.mail =
          (.ok ⟨s'.mail.nextToken, message, n⟩, { s'.mail with
            reservations := s'.mail.reservations.set s'.mail.nextToken
              ⟨s'.mail.nextToken, message, n⟩
            nextToken := s'.mail.nextToken + 1 }) := by
        rw [MailCapture.reserve]
        have hread : (read : Command MailCapture Fault MailCapture) s'.mail = (.ok s'.mail, s'.mail) :=
          rfl
        rw [bind_ok hread, bind_ok (require_pos hroom _ _)]
        rfl
      obtain ⟨hinv', hguarantee, hget⟩ := hinv.reservingMail hroom
      dsimp only
      rw [hreserve]
      refine ⟨⟨hguarantee, hinv'⟩, hok _ _ rfl ⟨hmine.plans, hmine.plan, fun token m hm howner => ?_,
        ?_, hmine.events⟩⟩
      · rcases (hget token m).mp hm with ⟨-, rfl⟩ | hold
        · rfl
        · exact nomatch hmine.mails token m hold howner
      · rintro _ ⟨⟩
        exact ⟨(hget _ _).mpr (Or.inl ⟨rfl, rfl⟩), rfl⟩
    · have hrefused : MailCapture.reserve n message s'.mail = (.error .resourceLimit, s'.mail) := by
        rw [MailCapture.reserve]
        have hread : (read : Command MailCapture Fault MailCapture) s'.mail = (.ok s'.mail, s'.mail) :=
          rfl
        rw [bind_ok hread, bind_error (require_neg hroom _ _)]
      dsimp only
      rw [hrefused]
      exact ⟨⟨fun _ _ => Same.refl _ _, hinv⟩, herror s' _ hmine⟩

theorem holds_rollbackMail {m : MailReservation} {next : Except Fault Unit → Act α}
    (hmine : Mine n plan? (some m) events s)
    (hok : ∀ s', Mine n plan? none events s' →
      (next (.ok ())).Holds (exec lib) (discipline n) post s') :
    Program.Holds (exec lib) (discipline n) (.call (.rollbackMail n m) next) post s := by
  refine holds_call hmine fun s' hmine hinv => ⟨⟨rfl, hmine.mail m rfl⟩, fun fate => ?_⟩
  obtain ⟨hinv', hguarantee, hget⟩ := hinv.withoutMail (hmine.mail m rfl)
  simp only [exec, inMail]
  rw [MailCapture.rollback_eq (hmine.mail m rfl).1]
  refine ⟨⟨hguarantee, hinv'⟩, hok _ ⟨hmine.plans, hmine.plan, fun token m' hm' howner => ?_,
    fun m' hm' => (nomatch hm'), hmine.events⟩⟩
  obtain ⟨htoken, hold⟩ := (hget token m').mp hm'
  obtain rfl := Option.some.inj (hmine.mails token m' hold howner)
  exact absurd (hinv.mailTokens token _ hold).1.symm htoken

theorem holds_rollback {plan : EnginePlan} {next : Except Fault Unit → Act α}
    (hmine : Mine n (some plan) mail? events s)
    (hok : ∀ s', Mine n none mail? events s' →
      (next (.ok ())).Holds (exec lib) (discipline n) post s') :
    Program.Holds (exec lib) (discipline n) (.call (.rollback n plan) next) post s := by
  refine holds_call hmine fun s' hmine hinv => ⟨⟨rfl, hmine.plan plan rfl⟩, fun fate => ?_⟩
  obtain ⟨r, hr, rfl, howner⟩ := hmine.plan plan rfl
  obtain ⟨hinv', hguarantee, hget⟩ :=
    hinv.without (hmine.plan r.plan rfl) (Engine.undone_cancel r.plan s'.engine)
  simp only [exec, inEngine]
  rw [Engine.rollback_eq (hinv.holds hr)]
  refine ⟨⟨hguarantee, hinv'⟩, hok _ ⟨fun token r' hr' howner' => ?_, fun _ hplan => (nomatch hplan),
    hmine.mails, hmine.mail, hmine.events⟩⟩
  obtain ⟨htoken, hold⟩ := (hget token r').mp hr'
  have hplan := Option.some.inj (hmine.plans token r' hold howner')
  exact absurd ((hinv.tokens token r' hold).1.symm.trans (congrArg _ hplan.symm)) htoken

/-- The mail capture behind a commit of these mails. -/
theorem committed_mail {m? : Option MailReservation} (hinv : Inv s)
    (hmail : ∀ m, m? = some m → HasMail n s m) {plan : EnginePlan}
    (hplan : plan.result.mail = m?.map (·.message)) :
    let mail := Locked.mailCommitted m? s.mail
    mail.messages = s.mail.messages ++ plan.result.mail.toList ∧
      mail.messages.length + mail.reservations.size ≤ maxMailMessages ∧
      (∀ token m, mail.reservations.get? token = some m → m.token = token ∧ token < mail.nextToken) ∧
      (∀ token m, m.owner ≠ n →
        (mail.reservations.get? token = some m ↔ s.mail.reservations.get? token = some m)) ∧
      ∀ token m, mail.reservations.get? token = some m →
        s.mail.reservations.get? token = some m ∧ m? ≠ some m := by
  have hbound := hinv.mails_bounded
  cases m? with
  | none =>
    refine ⟨?_, hbound, hinv.mailTokens, fun _ _ _ => Iff.rfl, fun _ _ hm => ⟨hm, fun h => (by cases h)⟩⟩
    simp [Locked.mailCommitted, hplan]
  | some m =>
    obtain ⟨hholds, howner⟩ := hmail m rfl
    have hget : ∀ token m', (s.mail.reservations.erase m.token).get? token = some m' ↔
        token ≠ m.token ∧ s.mail.reservations.get? token = some m' := by
      intro token m'
      rw [Dict.get?_erase]
      split_ifs with htoken
      · exact ⟨fun he => (by cases he), fun he => absurd htoken he.1⟩
      · exact ⟨fun he => ⟨htoken, he⟩, fun he => he.2⟩
    have hsize : (s.mail.reservations.erase m.token).size + 1 = s.mail.reservations.size :=
      size_erase_add hholds
    refine ⟨?_, ?_, fun token m' hm' => ?_, fun token m' howner' => ?_, fun token m' hm' => ?_⟩
    · simp [Locked.mailCommitted, MailCapture.cancelReservationLocked, MailCapture.withMessage, hplan]
    · simp only [Locked.mailCommitted, MailCapture.cancelReservationLocked, MailCapture.withMessage,
        List.length_append, List.length_singleton]
      omega
    · exact hinv.mailTokens token m' ((hget token m').mp hm').2
    · refine (hget token m').trans ⟨fun he => he.2, fun he => ⟨?_, he⟩⟩
      rintro rfl
      obtain rfl := Option.some.inj (hholds.symm.trans he)
      exact howner' howner
    · obtain ⟨htoken, hold⟩ := (hget token m').mp hm'
      refine ⟨hold, fun he => htoken ?_⟩
      obtain rfl := Option.some.inj he
      exact (hinv.mailTokens token _ hold).1.symm

theorem holds_commitInternal {plan : EnginePlan} {next : Except Fault Unit → Act α}
    (hmine : Mine n (some plan) mail? events s) (hmail : plan.result.mail = mail?.map (·.message))
    (hok : ∀ s', Mine n none none (events ++ [.committed n plan]) s' →
      (next (.ok ())).Holds (exec lib) (discipline n) post s')
    (herror : ∀ s' fault, Mine n none none events s' →
      (next (.error fault)).Holds (exec lib) (discipline n) post s') :
    Program.Holds (exec lib) (discipline n) (.call (.commitInternal n plan mail?) next) post s := by
  refine holds_call hmine fun s' hmine hinv => ⟨⟨rfl, hmine.plan plan rfl, hmine.mail, hmail⟩,
    fun fate => ?_⟩
  obtain ⟨r, hr, hrplan, howner⟩ := hmine.plan plan rfl
  have hholds : s'.engine.Holds plan := hrplan ▸ hinv.holds hr
  have hmine_plan : ∀ token r', token ≠ plan.token → s'.engine.reservations.get? token = some r' →
      r'.owner ≠ n := by
    intro token r' htoken hr' howner'
    have he := Option.some.inj (hmine.plans token r' hr' howner')
    exact htoken ((hinv.tokens token r' hr').1.symm.trans (congrArg _ he.symm))
  simp only [exec]
  rcases commitInternal_cases fate.strike n hholds hr fun m hm => (hmine.mail m hm).1 with
    ⟨s'', hcommit, hs''⟩ | ⟨fault, s'', hcommit, hundone, hmailUndone, hhistory⟩
  · rw [hcommit]
    obtain ⟨hmessages, hbounded, htokens, hmails, hgone⟩ := committed_mail hinv hmine.mail hmail
    obtain ⟨hinv', hguarantee, hget⟩ :=
      hinv.committing hr hrplan howner hmessages hbounded htokens hmails
    rw [hs'']
    refine ⟨⟨hguarantee, hinv'⟩, hok _ ⟨fun token r' hr' howner' => ?_, fun _ he => (nomatch he),
      fun token m hm howner' => ?_, fun _ he => (nomatch he), ?_⟩⟩
    · obtain ⟨htoken, hold⟩ := (hget token r').mp hr'
      exact absurd howner' (hmine_plan token r' htoken hold)
    · obtain ⟨hold, hne⟩ := hgone token m hm
      exact absurd (hmine.mails token m hold howner') hne
    · have hnoted : (s'.history ++ [Event.committed n plan]).filter (·.owner = n) =
          s'.history.filter (·.owner = n) ++ [Event.committed n plan] := by
        simp [List.filter_append, Event.owner]
      exact hnoted.trans (congrArg (· ++ _) hmine.events)
  · rw [hcommit]
    -- first the plan goes, then the place for the mail
    obtain ⟨hinv₁, hguarantee₁, hget₁⟩ := hinv.without (hmine.plan plan rfl) hundone
    have hs'' : s'' = ⟨s''.engine, Locked.mailUndone mail? s'.mail, s'.history⟩ := by
      rw [← hmailUndone, ← hhistory]
    have hno_plan : ∀ token r', s''.engine.reservations.get? token = some r' → r'.owner ≠ n := by
      intro token r' hr'
      obtain ⟨htoken, hold⟩ := (hget₁ token r').mp hr'
      exact hmine_plan token r' htoken hold
    cases mail? with
    | none =>
      have hsame : s'' = { s' with engine := s''.engine } := hs''
      rw [hsame]
      exact ⟨⟨hguarantee₁, hinv₁⟩, herror _ fault ⟨fun token r' hr' howner' =>
        absurd howner' (hno_plan token r' hr'), fun _ he => (nomatch he), hmine.mails,
        fun _ he => (nomatch he), hmine.events⟩⟩
    | some m =>
      have hm₁ : HasMail n { s' with engine := s''.engine } m := hmine.mail m rfl
      obtain ⟨hinv₂, hguarantee₂, hget₂⟩ := hinv₁.withoutMail hm₁
      have hsame : s'' = { s' with engine := s''.engine, mail := s'.mail.cancelReservationLocked m } :=
        hs''
      rw [hsame]
      refine ⟨⟨fun k hk => (hguarantee₁ k hk).trans (hguarantee₂ k hk), hinv₂⟩, herror _ fault
        ⟨fun token r' hr' howner' => absurd howner' (hno_plan token r' hr'), fun _ he => (nomatch he),
        fun token m' hm' howner' => ?_, fun _ he => (nomatch he), hmine.events⟩⟩
      obtain ⟨htoken, hold⟩ := (hget₂ token m').mp hm'
      obtain rfl := Option.some.inj (hmine.mails token m' hold howner')
      exact absurd (hinv.mailTokens token _ hold).1.symm htoken

theorem holds_write {wire : Bytes} {next : Except Fault Unit → Act α}
    (hmine : Mine n plan? mail? events s)
    (hok : ∀ s', Mine n plan? mail? (events ++ [.written n wire]) s' →
      (next (.ok ())).Holds (exec lib) (discipline n) post s')
    (herror : ∀ s' fault, Mine n plan? mail? (events ++ [.writerRaised n wire]) s' →
      (next (.error fault)).Holds (exec lib) (discipline n) post s') :
    Program.Holds (exec lib) (discipline n) (.call (.write n wire) next) post s := by
  have hnoted : ∀ {s' : Stores} {event : Event}, event.owner = n → Mine n plan? mail? events s' →
      Mine n plan? mail? (events ++ [event]) { s' with history := s'.history ++ [event] } := by
    intro s' event howner hmine
    refine ⟨hmine.plans, hmine.plan, hmine.mails, hmine.mail, ?_⟩
    simp [List.filter_append, howner, hmine.events]
  refine holds_call hmine fun s' hmine hinv => ⟨⟨rfl, trivial⟩, fun fate => ?_⟩
  simp only [exec]
  cases fate.raised with
  | some fault =>
    obtain ⟨hinv', hguarantee⟩ := hinv.noting (show (Event.writerRaised n wire).owner = n from rfl)
      (fun _ => rfl) rfl
    exact ⟨⟨hguarantee, hinv'⟩, herror _ fault (hnoted rfl hmine)⟩
  | none =>
    obtain ⟨hinv', hguarantee⟩ := hinv.noting (show (Event.written n wire).owner = n from rfl)
      (fun _ => rfl) rfl
    exact ⟨⟨hguarantee, hinv'⟩, hok _ (hnoted rfl hmine)⟩

end Rules

end MyCogni.Simulator
