import MyCogni.Terminal.Posix

/-! What one step can do, whatever its fate. -/

namespace MyCogni.Terminal

open Command

variable {place : Place} {o : Op} {post : Reply o → Tty → Prop} {halt : Exn → Tty → Prop} {w : Tty}

theorem wp_perform {f : Fate}
    (hok : post (effect w o f).1 (effect w o f).2)
    (hos : ∀ e, f ≠ .returns → o.isSafe = false → halt (.osError e) (failedEffect w o))
    (htermios : o.isTermios = true → halt .termiosError (w.note .termiosError))
    (hcancel : ∀ w', f ≠ .returns → w' = w ∨ w' = (effect w o f).2 →
      halt .cancelled (w'.note (.cancelled place))) :
    wp (perform place o f) post halt w := by
  unfold wp perform
  cases f with
  | osError e =>
    dsimp only
    split_ifs with hsafe
    · exact hok
    · exact hos e nofun (Bool.eq_false_of_not_eq_true hsafe)
  | termiosError =>
    dsimp only
    split_ifs with h
    · exact htermios h
    · exact hok
  | cancelled i after =>
    dsimp only
    split_ifs
    · exact hcancel _ nofun (Or.inr rfl)
    · exact hcancel _ nofun (Or.inl rfl)
    · exact hok
  | _ => exact hok

/-- A step takes the next fate, and where there is none it returns. -/
theorem step_cases (place : Place) (o : Op) (w : Tty) :
    ∃ f, step place o w = perform place o f { w with fates := w.fates.tail } ∧
      (w.fates = [] → f = .returns) := by
  unfold step
  split
  · next h =>
    refine ⟨.returns, ?_, fun _ => rfl⟩
    rw [h, List.tail_nil, ← h]
  · next f fates h =>
    refine ⟨f, ?_, fun hnil => nomatch hnil.symm.trans h⟩
    rw [h, List.tail_cons]

/-- A step whose fate is any. -/
theorem wp_step
    (hok : ∀ fates f, post (effect { w with fates } o f).1 (effect { w with fates } o f).2)
    (hos : ∀ fates e, o.isSafe = false → halt (.osError e) (failedEffect { w with fates } o))
    (htermios : ∀ fates, o.isTermios = true →
      halt .termiosError (Tty.note { w with fates } .termiosError))
    (hcancel : ∀ w' fates f, w' = { w with fates } ∨ w' = (effect { w with fates } o f).2 →
      halt .cancelled (w'.note (.cancelled place))) :
    wp (step place o) post halt w := by
  obtain ⟨f, hstep, -⟩ := step_cases place o w
  have hperform : wp (perform place o f) post halt { w with fates := w.fates.tail } :=
    wp_perform (hok _ f) (fun e _ => hos _ e) (htermios _) fun w' _ hw' => hcancel w' _ f hw'
  unfold wp at hperform ⊢
  rw [hstep]
  exact hperform

end MyCogni.Terminal
