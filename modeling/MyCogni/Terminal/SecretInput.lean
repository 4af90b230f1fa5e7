import MyCogni.Terminal.Undisturbed

/-! The input of a secret where no call fails: what it ends with depends on the bytes that come alone,
however the terminal splits them into reads. -/

namespace MyCogni.Terminal

open Command

/-! ### The line -/

def carriageReturn : UInt8 := 0x0D

/-- The line is what comes before the first newline, without one carriage return at its end. -/
def LineOf (stream line : Bytes) : Prop :=
  ∃ before after, stream = before ++ newline :: after ∧ newline ∉ before ∧
    (before = line ++ [carriageReturn] ∨ before = line ∧ before.getLast? ≠ some carriageReturn)

theorem takeWhile_append {data : Bytes} (h : newline ∉ data) (rest : Bytes) :
    (data ++ rest).takeWhile (· != newline) = data ++ rest.takeWhile (· != newline) := by
  refine List.takeWhile_append_of_pos fun b hb => bne_iff_ne.mpr ?_
  rintro rfl
  exact h hb

theorem takeWhile_of_mem {data : Bytes} (h : newline ∈ data) (rest : Bytes) :
    (data ++ rest).takeWhile (· != newline) = data.takeWhile (· != newline) := by
  induction data with
  | nil => exact nomatch h
  | cons b data ih =>
    by_cases hb : b = newline
    · have hne : (b != newline) = false := by rw [hb]; exact bne_self_eq_false newline
      rw [List.cons_append, List.takeWhile_cons, List.takeWhile_cons, hne]
      rfl
    · have hmem : newline ∈ data := (List.mem_cons.mp h).resolve_left fun heq => hb heq.symm
      rw [List.cons_append, List.takeWhile_cons, List.takeWhile_cons, ih hmem]

theorem firstLine_eq {stream line : Bytes} (h : LineOf stream line) :
    newline ∈ stream ∧ firstLine stream = line := by
  obtain ⟨before, after, rfl, hbefore, hline⟩ := h
  have htake : (before ++ newline :: after).takeWhile (· != newline) = before := by
    rw [takeWhile_append hbefore, List.takeWhile_cons, bne_self_eq_false]
    exact List.append_nil before
  refine ⟨List.mem_append_right before (List.mem_cons_self ..), ?_⟩
  unfold firstLine
  rw [htake]
  rcases hline with rfl | ⟨rfl, hlast⟩
  · have hlast : (line ++ [carriageReturn]).getLast? = some carriageReturn := List.getLast?_concat
    rw [show (0x0D : UInt8) = carriageReturn from rfl, if_pos hlast, List.dropLast_concat]
  · exact if_neg hlast

/-- What stands after the newline is not looked at. -/
theorem firstLine_append {data : Bytes} (h : newline ∈ data) (rest : Bytes) :
    firstLine (data ++ rest) = firstLine data := by
  unfold firstLine
  rw [takeWhile_of_mem h]

theorem length_firstLine {data : Bytes} :
    (data.takeWhile (· != newline)).length ≤ (firstLine data).length + 1 := by
  unfold firstLine
  dsimp only
  split_ifs
  · rw [List.length_dropLast]
    omega
  · omega

theorem decodeUtf8_encode (value : Text) : decodeUtf8 value.encode = some value := by
  have hbytes : value.encode.toByteArray = List.utf8Encode value := rfl
  unfold decodeUtf8
  rw [hbytes, List.utf8Decode?_utf8Encode]
  rfl

theorem decodeUtf8_eq_some {b : Bytes} {value : Text} : decodeUtf8 b = some value ↔ value.encode = b := by
  constructor
  · intro h
    obtain ⟨decoded, hdecoded, rfl⟩ := Option.map_eq_some_iff.mp h
    have hsome : (b.toByteArray.utf8Decode?).isSome = true := by rw [hdecoded]; rfl
    have hget : (b.toByteArray.utf8Decode?).get hsome = decoded := by simp only [hdecoded, Option.get_some]
    have hbytes : List.utf8Encode decoded.toList = b.toByteArray := by
      rw [← hget]
      exact ByteArray.utf8Encode_get_utf8Decode?
    exact List.toByteArray_inj.mp hbytes
  · rintro rfl
    exact decodeUtf8_encode value

/-! ### The reads -/

/-- The reads between the two states, of which only the last has a newline, unless the input was over. -/
def Reads (w w' : Tty) : Prop :=
  ∃ (earlier : List Bytes) (last : Bytes), w'.chunks = last :: (earlier.reverse ++ w.chunks) ∧
    w.input = earlier.flatten ++ (last ++ w'.input) ∧ (∀ chunk ∈ earlier, newline ∉ chunk) ∧
      (newline ∈ last ∨ last = [] ∧ w'.input = [])

theorem Reads.congr {w w₁ w₂ w' : Tty} (h : Reads w₁ w₂) (hinput : w₁.input = w.input)
    (hchunks : w₁.chunks = w.chunks) (hinput' : w'.input = w₂.input) (hchunks' : w'.chunks = w₂.chunks) :
    Reads w w' := by
  unfold Reads at h ⊢
  rw [hinput', hchunks', ← hinput, ← hchunks]
  exact h

structure ReadsLine (w w' : Tty) : Prop where
  failure : w'.locals.failure = w.locals.failure
  reads : Reads w w'

theorem ReadsLine.aside {w w₁ w₂ w' : Tty} (h : ReadsLine w₁ w₂) (hbefore : Aside w w₁) (hafter : Aside w₂ w') :
    ReadsLine w w' :=
  ⟨(hafter.failure.trans h.failure).trans hbefore.failure,
    h.reads.congr hbefore.input hbefore.chunks hafter.input hafter.chunks⟩

/-- A read that returns a chunk. -/
structure Took (w w' : Tty) (chunk : Bytes) : Prop where
  undisturbed : w'.Undisturbed
  failure : w'.locals.failure = w.locals.failure
  chunks : w'.chunks = chunk :: w.chunks
  input : w.input = chunk ++ w'.input
  exhausted : chunk = [] → w.input = []

theorem wp_take {w : Tty} (hw : w.Undisturbed) {place : Place} {n : Nat} :
    wp (step place (.read n)) (fun chunk w' => Took w w' chunk ∧ w'.locals = w.locals)
      (fun _ _ => False) w := by
  obtain ⟨f, hf, hstep⟩ := step_benign hw place (.read n)
  have hpos : 0 < max 1 (moved n f) := Nat.lt_of_lt_of_le Nat.one_pos (le_max_left 1 _)
  unfold wp
  rw [hstep]
  refine ⟨⟨undisturbed_effect hw _ f, rfl, rfl, (List.take_append_drop _ w.input).symm, fun h => ?_⟩, rfl⟩
  rcases List.take_eq_nil_iff.mp h with hzero | hnil
  · exact absurd hzero hpos.ne'
  · exact hnil

/-- The last read. -/
theorem Took.readsLine {w w' : Tty} {chunk : Bytes} (h : Took w w' chunk)
    (hlast : chunk = [] ∨ newline ∈ chunk) : ReadsLine w w' := by
  refine ⟨h.failure, [], chunk, h.chunks, h.input, nofun, ?_⟩
  rcases hlast with rfl | hmem
  · exact Or.inr ⟨rfl, h.input.symm.trans (h.exhausted rfl)⟩
  · exact Or.inl hmem

/-- A read before them. -/
theorem ReadsLine.cons {w w₁ w' : Tty} {chunk : Bytes} (hfirst : Took w w₁ chunk) (hchunk : newline ∉ chunk)
    (h : ReadsLine w₁ w') : ReadsLine w w' := by
  obtain ⟨earlier, last, hchunks, hinput, hearlier, hlast⟩ := h.reads
  refine ⟨h.failure.trans hfirst.failure, chunk :: earlier, last, ?_, ?_, ?_, hlast⟩
  · rw [hchunks, hfirst.chunks, List.reverse_cons, List.append_assoc]
    rfl
  · rw [hfirst.input, hinput, List.flatten_cons, List.append_assoc]
  · exact List.forall_mem_cons.mpr ⟨hchunk, hearlier⟩

theorem Took.length_lt {w w' : Tty} {chunk : Bytes} (h : Took w w' chunk) (hne : chunk ≠ []) :
    w'.input.length < w.input.length := by
  have hpos : 0 < chunk.length := List.length_pos_iff.mpr hne
  rw [h.input, List.length_append]
  omega

theorem wp_drainLine {maxBytes reads : Nat} {w : Tty} (hw : w.Undisturbed) (hreads : w.input.length < reads) :
    wp (drainLine maxBytes reads) (fun _ w' => w'.Undisturbed ∧ ReadsLine w w') (fun _ _ => False) w := by
  induction reads generalizing w with
  | zero => exact absurd hreads (Nat.not_lt_zero _)
  | succ reads ih =>
    refine wp_seq (smooth_checkedFd w hw) (fun _ w₀ ⟨hw₀, haside, _⟩ => ?_) fun _ _ => id
    refine wp_seq (wp_take hw₀) (fun chunk w₁ ⟨htook, _⟩ => ?_) fun _ _ => id
    by_cases hlast : chunk = [] ∨ newline ∈ chunk
    · rw [if_pos hlast]
      exact ⟨htook.undisturbed, (htook.readsLine hlast).aside haside (Aside.refl w₁)⟩
    · rw [if_neg hlast]
      obtain ⟨hne, hmem⟩ := not_or.mp hlast
      have hlt : w₁.input.length < w.input.length := by
        rw [← haside.input]
        exact htook.length_lt hne
      refine wp_mono (ih htook.undisturbed (by omega)) (fun _ w' h => ⟨h.1, ?_⟩) fun _ _ => id
      exact (ReadsLine.cons htook hmem h.2).aside haside (Aside.refl w')

/-- How the reads of a line end that starts with `data`. -/
def StopsReading (maxBytes : Nat) (stream : Bytes) (e : Exn) : Prop :=
  e = .operator { failure := .eof } ∧ newline ∉ stream ∧ stream.length ≤ maxBytes + 1 ∨
    e = .operator { failure := .inputTooLong } ∧ maxBytes + 1 < (stream.takeWhile (· != newline)).length

theorem wp_readLine {maxBytes reads : Nat} {w : Tty} (hw : w.Undisturbed) (hreads : w.input.length < reads)
    (hdata : newline ∉ w.locals.data) (hlength : w.locals.data.length ≤ maxBytes + 1) :
    wp (readLine maxBytes reads)
      (fun _ w' => w'.Undisturbed ∧ ReadsLine w w' ∧ newline ∈ w'.locals.data ∧
        ∃ rest, w.locals.data ++ w.input = w'.locals.data ++ rest)
      (fun e w' => w'.Undisturbed ∧ ReadsLine w w' ∧
        StopsReading maxBytes (w.locals.data ++ w.input) e) w := by
  induction reads generalizing w with
  | zero => exact absurd hreads (Nat.not_lt_zero _)
  | succ reads ih =>
    refine wp_seq (wp_take hw) (fun chunk w₁ ⟨htook, hlocals⟩ => ?_) fun _ _ => False.elim
    by_cases hnil : chunk = []
    · rw [if_pos hnil]
      have hstream : w.locals.data ++ w.input = w.locals.data := by
        rw [htook.exhausted hnil, List.append_nil]
      refine ⟨htook.undisturbed, htook.readsLine (Or.inl hnil), ?_⟩
      rw [hstream]
      exact Or.inl ⟨rfl, hdata, hlength⟩
    rw [if_neg hnil]
    refine wp_writing ?_
    generalize hw₂ : { w₁ with locals := { w₁.locals with data := w₁.locals.data ++ chunk } } = w₂
    have hdata₂ : w₂.locals.data = w.locals.data ++ chunk := by rw [← hw₂, ← hlocals]
    have hinput₂ : w₂.input = w₁.input := by rw [← hw₂]
    have htook₂ : Took w w₂ chunk := by
      subst hw₂
      have hundisturbed := htook.undisturbed
      exact ⟨⟨hundisturbed.fd, hundisturbed.restoreFailed, hundisturbed.fates⟩, htook.failure, htook.chunks,
        htook.input, htook.exhausted⟩
    have hstream : w₂.locals.data ++ w₂.input = w.locals.data ++ w.input := by
      rw [hdata₂, hinput₂, htook.input, List.append_assoc]
    by_cases hmem : newline ∈ chunk
    · rw [if_pos hmem]
      refine ⟨htook₂.undisturbed, htook₂.readsLine (Or.inr hmem), ?_, w₂.input, hstream.symm⟩
      rw [hdata₂]
      exact List.mem_append_right w.locals.data hmem
    rw [if_neg hmem]
    refine wp_reading ?_
    have hnone : newline ∉ w₂.locals.data := by
      rw [hdata₂]
      exact List.not_mem_append hdata hmem
    have hfuel : w₂.input.length < reads := by
      have hlt := htook₂.length_lt hnil
      omega
    by_cases hlong : maxBytes + 1 < w₂.locals.data.length
    · rw [if_pos hlong]
      refine wp_seq (wp_drainLine htook₂.undisturbed hfuel) (fun _ w' h => ?_) fun _ _ => False.elim
      refine ⟨h.1, ReadsLine.cons htook₂ hmem h.2, Or.inr ⟨rfl, ?_⟩⟩
      -- no newline is among the bytes that were kept
      rw [← hstream, takeWhile_append hnone, List.length_append]
      omega
    · rw [if_neg hlong]
      refine wp_mono (ih htook₂.undisturbed hfuel hnone (Nat.le_of_not_lt hlong)) (fun _ w' h => ?_)
        fun e w' h => ?_
      · rw [← hstream]
        exact ⟨h.1, ReadsLine.cons htook₂ hmem h.2.1, h.2.2⟩
      · rw [← hstream]
        exact ⟨h.1, ReadsLine.cons htook₂ hmem h.2.1, h.2.2⟩

/-! ### The secret -/

/-- What the input of a secret ends with, by the bytes that come. -/
def secretOutcome (maxBytes : Nat) (stream : Bytes) : Except OperatorTerminalFailure Text :=
  if newline ∈ stream then
    if maxBytes < (firstLine stream).length then .error .inputTooLong
    else
      match decodeUtf8 (firstLine stream) with
      | none => .error .ioFailed
      | some value => if value.any isControl = true then .error .ioFailed else .ok value
  else if maxBytes + 1 < stream.length then .error .inputTooLong
  else .error .eof

/-- The error stands for the failure that it ends with. -/
def StandsFor (outcome : Except OperatorTerminalFailure Text) (e : Exn) : Prop :=
  (∃ failure, e = .operator { failure } ∧ outcome = .error failure) ∨
    e = .unicodeError ∧ outcome = .error .ioFailed

theorem wp_parseSecret {maxBytes : Nat} {data stream : Bytes} {w : Tty} (hmem : newline ∈ stream)
    (hline : firstLine data = firstLine stream) :
    wp (parseSecret maxBytes data) (fun value w' => w' = w ∧ secretOutcome maxBytes stream = .ok value)
      (fun e w' => w' = w ∧ StandsFor (secretOutcome maxBytes stream) e) w := by
  unfold parseSecret secretOutcome
  rw [if_pos hmem, hline]
  dsimp only
  by_cases hlong : maxBytes < (firstLine stream).length
  · rw [if_pos hlong, if_pos hlong]
    exact ⟨rfl, Or.inl ⟨_, rfl, rfl⟩⟩
  rw [if_neg hlong, if_neg hlong]
  cases decodeUtf8 (firstLine stream) with
  | none => exact ⟨rfl, Or.inr ⟨rfl, rfl⟩⟩
  | some value =>
    dsimp only
    by_cases hcontrol : value.any isControl = true
    · rw [if_pos hcontrol, if_pos hcontrol]
      exact ⟨rfl, Or.inl ⟨_, rfl, rfl⟩⟩
    · rw [if_neg hcontrol, if_neg hcontrol]
      exact ⟨rfl, rfl⟩

theorem StopsReading.standsFor {maxBytes : Nat} {stream : Bytes} {e : Exn} (h : StopsReading maxBytes stream e) :
    StandsFor (secretOutcome maxBytes stream) e := by
  unfold secretOutcome
  rcases h with ⟨rfl, hnone, hlength⟩ | ⟨rfl, hlong⟩
  · rw [if_neg hnone, if_neg (Nat.not_lt.mpr hlength)]
    exact Or.inl ⟨_, rfl, rfl⟩
  · have hfirst : maxBytes < (firstLine stream).length := by
      have hle := @length_firstLine stream
      omega
    have hstream : maxBytes + 1 < stream.length :=
      hlong.trans_le (List.takeWhile_prefix _).length_le
    refine Or.inl ⟨_, rfl, ?_⟩
    split_ifs
    · rfl
    · rfl

theorem wp_readHidden {session : CancelSession} {prompt : Bytes} {maxBytes : Nat} {hidden : Attributes} {w : Tty}
    (hw : w.Undisturbed) (hdata : w.locals.data = []) :
    wp (readHidden session prompt maxBytes hidden)
      (fun value w' => w'.Undisturbed ∧ ReadsLine w w' ∧ secretOutcome maxBytes w.input = .ok value)
      (fun e w' => w'.Undisturbed ∧ ReadsLine w w' ∧ StandsFor (secretOutcome maxBytes w.input) e) w := by
  refine wp_aside smooth_activateCancelSession hw (Aside.refl w) fun _ w₁ hw₁ h₁ _ => ?_
  refine wp_aside smooth_checkedFd hw₁ h₁ fun _ w₂ hw₂ h₂ _ => ?_
  refine wp_aside (smooth_step rfl) hw₂ h₂ fun _ w₃ hw₃ h₃ _ => ?_
  refine wp_aside smooth_writeUnlocked hw₃ h₃ fun _ w₄ hw₄ h₄ _ => ?_
  refine wp_aside smooth_checkedFd hw₄ h₄ fun _ w₅ hw₅ h₅ _ => ?_
  refine wp_reading ?_
  have hempty : w₅.locals.data = [] := h₅.data.trans hdata
  have hstream : w₅.locals.data ++ w₅.input = w.input := by rw [hempty, h₅.input, List.nil_append]
  have hread := @wp_readLine maxBytes _ _ hw₅ (Nat.lt_succ_self _) (hempty ▸ List.not_mem_nil)
    (hempty ▸ Nat.zero_le _)
  rw [hstream] at hread
  refine wp_seq hread (fun _ w₆ ⟨hw₆, hline, hmem, rest, hrest⟩ => ?_) fun e w₆ h => ?_
  · refine wp_reading (wp_aside smooth_tick hw₆ (Aside.refl w₆) fun _ w₇ hw₇ h₇ _ => ?_)
    have hsame : firstLine w₆.locals.data = firstLine w.input := by
      rw [hrest, firstLine_append hmem]
    have hmem' : newline ∈ w.input := hrest ▸ List.mem_append_left rest hmem
    refine wp_mono (wp_parseSecret hmem' hsame) (fun value w' h => ?_) fun e w' h => ?_
    · rw [h.1]
      exact ⟨hw₇, hline.aside h₅ h₇, h.2⟩
    · rw [h.1]
      exact ⟨hw₇, hline.aside h₅ h₇, h.2⟩
  · exact ⟨h.1, h.2.1.aside h₅ (Aside.refl w₆), h.2.2.standsFor⟩

/-- The failure that is kept for the end. -/
def keptFailure : Except OperatorTerminalFailure Text → Option OperatorTerminalError
  | .ok _ => none
  | .error failure => some { failure }

/-- The secret was read, or its failure is kept. -/
structure Obtained (outcome : Except OperatorTerminalFailure Text) (w w' : Tty) (value : Text) : Prop where
  undisturbed : w'.Undisturbed
  reads : Reads w w'
  failure : w'.locals.failure = keptFailure outcome
  value : ∀ v, outcome = .ok v → value = v

theorem obtained_setFailure {outcome : Except OperatorTerminalFailure Text} {w w₁ w₂ : Tty}
    (hw₂ : w₂.Undisturbed) (haside : Aside w₁ w₂) (hline : ReadsLine w w₁) {failure : OperatorTerminalFailure}
    (houtcome : outcome = .error failure) :
    wp (setFailure { failure } >>= fun _ => pure []) (fun value w' => Obtained outcome w w' value)
      (fun _ _ => False) w₂ := by
  refine wp_writing ⟨⟨hw₂.fd, hw₂.restoreFailed, hw₂.fates⟩, ?_, ?_, fun v hv => ?_⟩
  · exact hline.reads.congr rfl rfl haside.input haside.chunks
  · rw [houtcome]
    rfl
  · rw [houtcome] at hv
    exact nomatch hv

/-- The input with the clauses around it. -/
def readCaught (session : CancelSession) (prompt : Bytes) (maxBytes : Nat) (hidden : Attributes) : Method Text :=
  handle (readHidden session prompt maxBytes hidden) fun
    | .operator e => do
      tick .unguarded
      setFailure e
      pure []
    | .cancelled | .osError .interrupted => do
      tick .unguarded
      setFailure { failure := .cancelled }
      pure []
    | .osError _ | .unicodeError => do
      tick .unguarded
      setFailure { failure := .ioFailed }
      pure []
    | e => stop e

theorem wp_readCaught {session : CancelSession} {prompt : Bytes} {maxBytes : Nat} {hidden : Attributes} {w : Tty}
    (hw : w.Undisturbed) (hdata : w.locals.data = []) (hfailure : w.locals.failure = none) :
    wp (readCaught session prompt maxBytes hidden)
      (fun value w' => Obtained (secretOutcome maxBytes w.input) w w' value) (fun _ _ => False) w := by
  refine wp_try (wp_readHidden hw hdata) (fun value w' ⟨hw', hline, houtcome⟩ => ?_)
    fun e w₁ ⟨hw₁, hline, hstands⟩ => ?_
  · refine ⟨hw', hline.reads, ?_, fun v hv => Except.ok.inj (houtcome.symm.trans hv)⟩
    rw [houtcome, hline.failure, hfailure]
    rfl
  · rcases hstands with ⟨failure, rfl, houtcome⟩ | ⟨rfl, houtcome⟩
    · refine wp_aside smooth_tick hw₁ (Aside.refl w₁) fun _ w₂ hw₂ haside _ => ?_
      exact obtained_setFailure hw₂ haside hline houtcome
    · refine wp_aside smooth_tick hw₁ (Aside.refl w₁) fun _ w₂ hw₂ haside _ => ?_
      exact obtained_setFailure hw₂ haside hline houtcome

/-! ### The call -/

theorem smooth_restoreAttributes {original : Attributes} {attempts : Nat} :
    Smooth (fun _ => True) (restoreAttributes original (attempts + 1)) := by
  refine smooth_bind smooth_tick fun _ _ => smooth_bind (smooth_answered rfl) fun restored hrestored => ?_
  rw [if_pos hrestored]
  exact smooth_pure True.intro

theorem wp_showAgain {outcome : Except OperatorTerminalFailure Text} {session : CancelSession}
    {original : Attributes} {w w₁ : Tty} {value : Text} (h : Obtained outcome w w₁ value) :
    wp (showAgain session original) (fun _ w' => Obtained outcome w w' value) (fun _ _ => False) w₁ := by
  refine wp_reading ?_
  refine wp_aside smooth_restoreAttributes h.undisturbed (Aside.refl w₁) fun _ w₂ hw₂ h₂ _ => ?_
  refine wp_aside smooth_tick hw₂ h₂ fun _ w₃ hw₃ h₃ _ => ?_
  refine wp_aside (smooth_handle smooth_writeUnlocked) hw₃ h₃ fun _ w₄ hw₄ h₄ _ => ?_
  refine wp_aside smooth_tick hw₄ h₄ fun _ w₅ hw₅ h₅ _ => ?_
  refine wp_aside (smooth_handle smooth_endCancelSession) hw₅ h₅ fun _ w₆ hw₆ h₆ _ => ?_
  refine wp_aside smooth_tick hw₆ h₆ fun _ w₇ hw₇ h₇ _ => ?_
  exact ⟨⟨hw₇.fd, hw₇.restoreFailed, hw₇.fates⟩, h.reads.congr rfl rfl h₇.input h₇.chunks,
    h₇.failure.trans h.failure, h.value⟩

theorem wp_readSecretUnlocked {prompt : Text} {maxBytes : Nat} {w : Tty} (hw : w.Undisturbed)
    (hmax : 1 ≤ maxBytes ∧ maxBytes ≤ MAX_VALUE_BYTES) (hprompt : Smooth (fun _ => True) (publicBytes prompt)) :
    wp (readSecretUnlocked prompt maxBytes)
      (fun value w' => w'.Undisturbed ∧ Reads w w' ∧ secretOutcome maxBytes w.input = .ok value)
      (fun e w' => w'.Undisturbed ∧ Reads w w' ∧ ∃ failure, e = .operator { failure } ∧
        secretOutcome maxBytes w.input = .error failure) w := by
  unfold readSecretUnlocked
  rw [if_neg (not_not.mpr hmax)]
  refine wp_aside hprompt hw (Aside.refl w) fun promptBytes w₁ hw₁ h₁ _ => ?_
  refine wp_aside smooth_checkedFd hw₁ h₁ fun _ w₂ hw₂ h₂ _ => ?_
  have hattributes : Smooth (fun _ => True) (do
      let original ← step .unguarded .tcgetattr
      let other ← step .unguarded .tcgetattr
      pure (original, other)) :=
    smooth_bind (smooth_step rfl) fun _ _ => smooth_bind (smooth_step rfl) fun _ _ => smooth_pure True.intro
  refine wp_aside (smooth_handle hattributes) hw₂ h₂ fun ⟨original, other⟩ w₃ hw₃ h₃ _ => ?_
  refine wp_writing ?_
  generalize hw₄ : { w₃ with locals := { w₃.locals with failure := none, data := [] } } = w₄
  have hundisturbed : w₄.Undisturbed := hw₄ ▸ ⟨hw₃.fd, hw₃.restoreFailed, hw₃.fates⟩
  have hinput : w₄.input = w.input := by rw [← hw₄, ← h₃.input]
  have hchunks : w₄.chunks = w.chunks := by rw [← hw₄, ← h₃.chunks]
  have hdata : w₄.locals.data = [] := by rw [← hw₄]
  have hfailure : w₄.locals.failure = none := by rw [← hw₄]
  refine wp_aside smooth_beginCancelSession hundisturbed (Aside.refl w₄) fun session w₅ hw₅ h₅ _ => ?_
  have hread := @wp_readCaught session promptBytes maxBytes other.hidden w₅ hw₅ (h₅.data.trans hdata)
    (h₅.failure.trans hfailure)
  rw [h₅.input, hinput] at hread
  refine wp_seq (wp_last hread (fun value w₆ h₆ => wp_showAgain h₆) fun _ _ => False.elim)
    (fun value w₇ h₇ => ?_) fun _ _ => False.elim
  refine wp_aside smooth_tick h₇.undisturbed (Aside.refl w₇) fun _ w₈ hw₈ h₈ _ => wp_reading ?_
  have hreads : Reads w w₈ :=
    h₇.reads.congr (h₅.input.trans hinput) (h₅.chunks.trans hchunks) h₈.input h₈.chunks
  rw [h₈.failure, h₇.failure]
  cases houtcome : secretOutcome maxBytes w.input with
  | ok v =>
    have hvalue : value = v := h₇.value v houtcome
    rw [hvalue]
    exact ⟨hw₈, hreads, rfl⟩
  | error failure => exact ⟨hw₈, hreads, failure, rfl, rfl⟩

/-- The prompt may be shown. -/
def IsPublic (value : Text) : Prop :=
  value.length ≤ MAX_PUBLIC_CHARS ∧ value.any (fun c => isControl c && c != '\n') = false

theorem smooth_publicBytes {value : Text} (h : IsPublic value) : Smooth (fun _ => True) (publicBytes value) := by
  have hok : ¬(MAX_PUBLIC_CHARS < value.length ∨ value.any (fun c => isControl c && c != '\n') = true) := by
    rintro (hlong | hcontrol)
    · exact absurd h.1 (Nat.not_le.mpr hlong)
    · exact Bool.false_ne_true (h.2.symm.trans hcontrol)
  unfold publicBytes
  rw [if_neg hok]
  exact smooth_pure True.intro

theorem wp_readSecret {prompt : Text} {maxBytes : Nat} {w : Tty} (hw : w.Undisturbed)
    (hmain : w.mainThread = true) (hlock : w.operationLock = false) (hprompt : IsPublic prompt)
    (hmax : 1 ≤ maxBytes ∧ maxBytes ≤ MAX_VALUE_BYTES) :
    wp (readSecret prompt maxBytes)
      (fun value w' => Reads w w' ∧ secretOutcome maxBytes w.input = .ok value)
      (fun e w' => Reads w w' ∧ ∃ failure, e = .operator { failure } ∧
        secretOutcome maxBytes w.input = .error failure) w := by
  refine wp_aside smooth_checkedFd hw (Aside.refl w) fun _ w₁ hw₁ h₁ _ => wp_reading ?_
  have hmain₁ : ¬(true = true ∧ w₁.mainThread = false) := by
    rw [h₁.mainThread, hmain]
    decide
  have hlock₁ : ¬w₁.operationLock = true := by
    rw [h₁.operationLock, hlock]
    decide
  rw [if_neg hmain₁, if_neg hlock₁]
  refine wp_writing ?_
  have hlocked : Tty.Undisturbed { w₁ with operationLock := true } := ⟨hw₁.fd, hw₁.restoreFailed, hw₁.fates⟩
  refine wp_aside smooth_tick hlocked (Aside.refl _) fun _ w₂ hw₂ h₂ _ => ?_
  have hinput : w₂.input = w.input := h₂.input.trans h₁.input
  have hchunks : w₂.chunks = w.chunks := h₂.chunks.trans h₁.chunks
  have hread := wp_readSecretUnlocked hw₂ hmax (smooth_publicBytes hprompt)
  rw [hinput] at hread
  -- the `finally` puts the lock back
  have hlast : ∀ {post : Tty → Prop} {w₃ : Tty}, w₃.Undisturbed → Reads w₂ w₃ →
      (∀ w', Reads w w' → post w') →
      wp (tick .unguarded >>= fun _ => write fun w => { w with operationLock := false }) (fun _ => post)
        (fun _ _ => False) w₃ := by
    intro post w₃ hw₃ hreads hpost
    refine wp_aside smooth_tick hw₃ (Aside.refl w₃) fun _ w₄ _ h₄ _ => ?_
    exact hpost _ (hreads.congr hinput hchunks h₄.input h₄.chunks)
  refine wp_last hread (fun value w₃ ⟨hw₃, hreads, houtcome⟩ => ?_) fun e w₃ ⟨hw₃, hreads, houtcome⟩ => ?_
  · exact wp_mono (hlast hw₃ hreads fun _ h => h) (fun _ _ h => ⟨h, houtcome⟩) fun _ _ => False.elim
  · exact wp_mono (hlast hw₃ hreads fun _ h => h) (fun _ _ h => ⟨h, houtcome⟩) fun _ _ => False.elim

/-- What a call of `read_secret` returns where no call of the terminal fails, by the bytes that come and not
by the reads that bring them; and the reads stop at the first chunk with a newline. -/
theorem secret_by_stream {w : Tty} {prompt : Text} {maxBytes : Nat} (hw : w.Undisturbed)
    (hmain : w.mainThread = true) (hlock : w.operationLock = false) (hprompt : IsPublic prompt)
    (hmax : 1 ≤ maxBytes ∧ maxBytes ≤ MAX_VALUE_BYTES) :
    (∀ line, LineOf w.input line →
      (∀ value : Text, value.encode = line → line.length ≤ maxBytes → value.any isControl = false →
        (readSecret prompt maxBytes w).1 = .ok value) ∧
      (maxBytes < line.length →
        (readSecret prompt maxBytes w).1 = .error (.operator { failure := .inputTooLong })) ∧
      (line.length ≤ maxBytes → (∀ value : Text, value.encode = line → value.any isControl = true) →
        (readSecret prompt maxBytes w).1 = .error (.operator { failure := .ioFailed }))) ∧
    (newline ∉ w.input →
      (maxBytes + 1 < w.input.length →
        (readSecret prompt maxBytes w).1 = .error (.operator { failure := .inputTooLong })) ∧
      (w.input.length ≤ maxBytes + 1 →
        (readSecret prompt maxBytes w).1 = .error (.operator { failure := .eof }))) ∧
    Reads w (readSecret prompt maxBytes w).2 := by
  obtain ⟨hreturns, hraises⟩ := wp_iff.mp (wp_readSecret hw hmain hlock hprompt hmax)
  have hvalue : ∀ value, secretOutcome maxBytes w.input = .ok value →
      (readSecret prompt maxBytes w).1 = .ok value := by
    intro value houtcome
    cases hresult : (readSecret prompt maxBytes w).1 with
    | ok v =>
      have hv := (hreturns v hresult).2
      rw [Except.ok.inj (hv.symm.trans houtcome)]
    | error e =>
      obtain ⟨-, failure, -, hfailure⟩ := hraises e hresult
      exact nomatch hfailure.symm.trans houtcome
  have hfailure : ∀ failure, secretOutcome maxBytes w.input = .error failure →
      (readSecret prompt maxBytes w).1 = .error (.operator { failure }) := by
    intro failure houtcome
    cases hresult : (readSecret prompt maxBytes w).1 with
    | ok v => exact nomatch (hreturns v hresult).2.symm.trans houtcome
    | error e =>
      obtain ⟨-, failure', rfl, hfailure'⟩ := hraises e hresult
      rw [Except.error.inj (hfailure'.symm.trans houtcome)]
  refine ⟨fun line hline => ?_, fun hnone => ⟨fun hlong => hfailure _ ?_, fun hshort => hfailure _ ?_⟩, ?_⟩
  · obtain ⟨hmem, hfirst⟩ := firstLine_eq hline
    refine ⟨fun value hencode hlength hplain => hvalue value ?_, fun hlong => hfailure _ ?_,
      fun hlength hcontrol => hfailure _ ?_⟩
    · have hdecode : decodeUtf8 line = some value := decodeUtf8_eq_some.mpr hencode
      rw [secretOutcome, if_pos hmem, hfirst, if_neg (Nat.not_lt.mpr hlength), hdecode]
      exact if_neg (by rw [hplain]; decide)
    · rw [secretOutcome, if_pos hmem, hfirst, if_pos hlong]
    · rw [secretOutcome, if_pos hmem, hfirst, if_neg (Nat.not_lt.mpr hlength)]
      cases hdecode : decodeUtf8 line with
      | none => rfl
      | some value => exact if_pos (hcontrol value (decodeUtf8_eq_some.mp hdecode))
  · rw [secretOutcome, if_neg hnone, if_pos hlong]
  · rw [secretOutcome, if_neg hnone, if_neg (Nat.not_lt.mpr hshort)]
  · cases hresult : (readSecret prompt maxBytes w).1 with
    | ok value => exact (hreturns value hresult).1
    | error e => exact (hraises e hresult).1

namespace Sample

/-- A line that comes in two reads. -/
def typed : Tty where
  processLock := true
  handlers := fun _ => .other 0
  mask := fun _ => false
  attributes := ⟨true, false, 0⟩
  descriptorOpen := true
  input := [0x6F, 0x6B, carriageReturn, newline]
  fd := true
  ownsLock := true
  fates := List.replicate 30 (.moves 1)

theorem secret_typed : (readSecret ['?'] 2 typed).1 = .ok ['o', 'k'] := by
  have hundisturbed : typed.Undisturbed := ⟨rfl, rfl, by decide⟩
  have hline : LineOf typed.input [0x6F, 0x6B] :=
    ⟨[0x6F, 0x6B, carriageReturn], [], rfl, by decide, Or.inl rfl⟩
  have hsecret := (@secret_by_stream typed ['?'] 2 hundisturbed rfl rfl ⟨by decide, by decide⟩
    ⟨by decide, by decide⟩).1 _ hline
  exact hsecret.1 ['o', 'k'] (by decide) (by decide) (by decide)

end Sample

end MyCogni.Terminal
