import MyCogni.Auth.Code
import MyCogni.Base.Url

/-! The mount under a directory, as it is read from the mount table of the process. The table lists
mounts in the order in which they were made, and a mount over another one at the same place hides it;
the code takes the first entry among the deepest ones. -/

namespace MyCogni.Persistence
open Auth (isSpace)
open Url (lower)

/-! ### Splitting and replacing -/

/-- The pieces between separators that are not empty. -/
def words (p : Char → Bool) (t : Text) : List Text := (t.splitOnP p).filter (· ≠ [])

/-- `str.split()` -/
def split (t : Text) : List Text := words isSpace t

def isLineBreak (c : Char) : Bool :=
  let n := c.toNat
  10 ≤ n && n ≤ 13 || 0x1c ≤ n && n ≤ 0x1e || n = 0x85 || n = 0x2028 || n = 0x2029

/-- A carriage return before a line feed is part of it. -/
def joinReturns : Text → Text
  | [] => []
  | '\r' :: '\n' :: t => '\n' :: joinReturns t
  | c :: t => c :: joinReturns t

/-- `str.splitlines()` -/
def splitlines (t : Text) : List Text :=
  let pieces := (joinReturns t).splitOnP isLineBreak
  if pieces.getLast? = some [] then pieces.dropLast else pieces

/-- Replace from left to right, with so many characters to be skipped. -/
def replaceFrom (old new : Text) : Nat → Text → Text
  | _, [] => []
  | skip + 1, _ :: t => replaceFrom old new skip t
  | 0, c :: t =>
    if old.isPrefixOf (c :: t) then new ++ replaceFrom old new (old.length - 1) t
    else c :: replaceFrom old new 0 t

/-- `str.replace`, of a text that is not empty. -/
def replace (old new t : Text) : Text := replaceFrom old new 0 t

/-- `_decode_mount_path` -/
def decodeMountPath (value : Text) : Text :=
  [("\\040".toList, " ".toList), ("\\011".toList, "\t".toList), ("\\012".toList, "\n".toList),
    ("\\134".toList, "\\".toList)].foldl (fun t r => replace r.1 r.2 t) value

/-! ### Paths -/

structure Path where
  root : Text
  names : List Text
deriving DecidableEq

namespace Path

/-- Two leading slashes, and no more, are a root of their own. -/
def rootOf : Text → Text
  | '/' :: '/' :: '/' :: _ => "/".toList
  | '/' :: '/' :: _ => "//".toList
  | '/' :: _ => "/".toList
  | _ => []

/-- `Path(t)` -/
def parse (t : Text) : Path where
  root := rootOf t
  names := (words (· = '/') t).filter (· ≠ ".".toList)

def parts (p : Path) : List Text := if p.root = [] then p.names else p.root :: p.names

/-- `path.relative_to(p)` does not raise. -/
def Contains (p path : Path) : Prop := p.parts <+: path.parts

instance (p path : Path) : Decidable (p.Contains path) :=
  inferInstanceAs (Decidable (_ <+: _))

def absolute (names : List Text) : Path := ⟨"/".toList, names⟩

end Path

structure FilesystemMount where
  filesystemType : Text
  mountPoint : Path
deriving DecidableEq

/-! ### The probe -/

/-- One line of the table; `resolve` is `Path.resolve(strict=False)`. -/
def readLine (resolve : Path → Path) (path : Path) (line : Text) : Option FilesystemMount := do
  let fields := split line
  let separator ← fields.idxOf? "-".toList
  let field ← fields[4]?
  let filesystemType ← fields[separator + 1]?
  let mountPoint := resolve (Path.parse (decodeMountPath field))
  if mountPoint.Contains path then some ⟨lower filesystemType, mountPoint⟩ else none

/-- `max(candidates, key=...)`: the first of the greatest. -/
def maxBy {α : Type} (key : α → Nat) : List α → Option α
  | [] => none
  | a :: as => some (as.foldl (fun best b => if key best < key b then b else best) a)

/-- `_inspect_linux`; none where it raises. -/
def inspectLinux (resolve : Path → Path) (mountinfo : Text) (path : Path) : Option FilesystemMount :=
  maxBy (fun m => m.mountPoint.parts.length) ((splitlines mountinfo).filterMap (readLine resolve path))

/-! ### Words and lines of a text -/

section Words
variable {p : Char → Bool}

theorem words_append {c : Char} (hc : p c = true) (x y : Text) :
    words p (x ++ c :: y) = words p x ++ words p y := by
  unfold words
  rw [List.splitOnP_append_cons x y hc, List.filter_append]

theorem words_nil : words p [] = [] := by simp [words]

theorem words_cons {c : Char} (hc : p c = true) (t : Text) : words p (c :: t) = words p t := by
  have happend := words_append hc [] t
  rwa [words_nil, List.nil_append, List.nil_append] at happend

theorem words_word {w : Text} (hne : w ≠ []) (h : ∀ c ∈ w, p c = false) : words p w = [w] := by
  rw [words, List.splitOnP_eq_singleton h, List.filter_singleton]
  simp [hne]

/-- Words with a separator before each. -/
theorem words_flatMap {sep : Char} (hsep : p sep = true) {ws : List Text}
    (h : ∀ w ∈ ws, w ≠ [] ∧ ∀ c ∈ w, p c = false) : words p (ws.flatMap (sep :: ·)) = ws := by
  induction ws with
  | nil => exact words_nil
  | cons w ws ih =>
    obtain ⟨⟨hne, hw⟩, hws⟩ := List.forall_mem_cons.mp h
    rw [List.flatMap_cons, List.cons_append, words_cons hsep]
    cases ws with
    | nil => rw [List.flatMap_nil, List.append_nil, words_word hne hw]
    | cons w' ws =>
      rw [List.flatMap_cons, List.cons_append, words_append hsep, words_word hne hw,
        ← words_cons hsep, ← List.cons_append, ← List.flatMap_cons, ih hws, List.singleton_append]

end Words

theorem joinReturns_eq {t : Text} (h : '\r' ∉ t) : joinReturns t = t := by
  induction t with
  | nil => rfl
  | cons c t ih =>
    rw [List.mem_cons, not_or] at h
    rw [joinReturns, ih h.2]
    exact fun _ hc _ => h.1 hc.symm

/-- Lines that each end with a line feed. -/
theorem splitlines_lines {ls : List Text} (h : ∀ l ∈ ls, ∀ c ∈ l, isLineBreak c = false) :
    splitlines (ls.flatMap (· ++ ['\n'])) = ls := by
  have hreturn : '\r' ∉ ls.flatMap (· ++ ['\n']) := by
    intro hr
    obtain ⟨l, hl, hr⟩ := List.mem_flatMap.mp hr
    rcases List.mem_append.mp hr with hr | hr
    · exact absurd (h l hl _ hr) (by decide)
    · exact absurd (List.mem_singleton.mp hr) (by decide)
  have hpieces : (ls.flatMap (· ++ ['\n'])).splitOnP isLineBreak = ls ++ [[]] := by
    clear hreturn
    induction ls with
    | nil => exact List.splitOnP_nil
    | cons l ls ih =>
      obtain ⟨hl, hls⟩ := List.forall_mem_cons.mp h
      rw [List.flatMap_cons, List.append_assoc, List.singleton_append,
        List.splitOnP_append_cons_of_forall_mem hl '\n' (by decide), ih hls, List.cons_append]
  have hlast : (ls ++ [([] : Text)]).getLast? = some [] := List.getLast?_concat
  unfold splitlines
  rw [joinReturns_eq hreturn, hpieces]
  simp only [hlast, ↓reduceIte, List.dropLast_concat]

/-! ### Escapes -/

/-- The kernel escapes blanks, tabs, line feeds and backslashes. -/
def escapeChar (c : Char) : Text :=
  if c = ' ' then "\\040".toList
  else if c = '\t' then "\\011".toList
  else if c = '\n' then "\\012".toList
  else if c = '\\' then "\\134".toList
  else [c]

def escape (t : Text) : Text := t.flatMap escapeChar

/-- A character but a backslash, or a backslash and three characters but backslashes. -/
def Piece (x : Text) : Prop :=
  (∃ c, x = [c] ∧ c ≠ '\\') ∨ ∃ a b c, x = ['\\', a, b, c] ∧ a ≠ '\\' ∧ b ≠ '\\' ∧ c ≠ '\\'

theorem replaceFrom_plain {a b c x : Char} {new rest : Text} (hx : x ≠ '\\') :
    replaceFrom ['\\', a, b, c] new 0 (x :: rest) =
      x :: replaceFrom ['\\', a, b, c] new 0 rest := by
  have hhead : List.isPrefixOf ['\\', a, b, c] (x :: rest) = false := by
    simp [List.isPrefixOf, Ne.symm hx]
  rw [replaceFrom, hhead]
  rfl

/-- Replacing an escape replaces the pieces that are it. -/
theorem replace_flatten {a b c : Char} {new : Text} {xs : List Text} (h : ∀ x ∈ xs, Piece x) :
    replace ['\\', a, b, c] new xs.flatten =
      (xs.map fun x => if x = ['\\', a, b, c] then new else x).flatten := by
  induction xs with
  | nil => rfl
  | cons x xs ih =>
    obtain ⟨hx, hxs⟩ := List.forall_mem_cons.mp h
    have hrest := ih hxs
    unfold replace at hrest ⊢
    rw [List.flatten_cons, List.map_cons, List.flatten_cons]
    rcases hx with ⟨d, rfl, hd⟩ | ⟨a', b', c', rfl, ha, hb, hc⟩
    · have hne : [d] ≠ ['\\', a, b, c] := by simp
      rw [if_neg hne, List.singleton_append, replaceFrom_plain hd, hrest, List.singleton_append]
    · by_cases heq : (['\\', a', b', c'] : Text) = ['\\', a, b, c]
      · rw [if_pos heq]
        simp only [List.cons.injEq, true_and, and_true] at heq
        obtain ⟨rfl, rfl, rfl⟩ := heq
        have hstarts : List.isPrefixOf ['\\', a', b', c']
            ('\\' :: a' :: b' :: c' :: xs.flatten) = true := by simp [List.isPrefixOf]
        simp only [List.cons_append, List.nil_append]
        rw [replaceFrom, if_pos hstarts, ← hrest]
        rfl
      · rw [if_neg heq]
        have hstarts : List.isPrefixOf ['\\', a, b, c]
            ('\\' :: a' :: b' :: c' :: xs.flatten) = false := by
          simp only [List.cons.injEq, true_and, and_true] at heq
          simp only [List.isPrefixOf, Bool.and_eq_false_iff, beq_eq_false_iff_ne, beq_self_eq_true,
            Bool.true_and, Bool.and_true]
          grind
        simp only [List.cons_append, List.nil_append]
        rw [replaceFrom, hstarts]
        simp only [Bool.false_eq_true, ↓reduceIte]
        rw [replaceFrom_plain ha, replaceFrom_plain hb, replaceFrom_plain hc, hrest]

theorem piece_escapeChar (c : Char) : Piece (escapeChar c) := by
  unfold escapeChar
  split_ifs with h₁ h₂ h₃ h₄
  · exact Or.inr ⟨'0', '4', '0', rfl, by decide, by decide, by decide⟩
  · exact Or.inr ⟨'0', '1', '1', rfl, by decide, by decide, by decide⟩
  · exact Or.inr ⟨'0', '1', '2', rfl, by decide, by decide, by decide⟩
  · exact Or.inr ⟨'1', '3', '4', rfl, by decide, by decide, by decide⟩
  · exact Or.inl ⟨c, rfl, h₄⟩

theorem Piece.replaced {x old : Text} {d : Char} (h : Piece x) (hd : d ≠ '\\') :
    Piece (if x = old then [d] else x) := by
  split_ifs
  · exact Or.inl ⟨d, rfl, hd⟩
  · exact h

/-- Decoding undoes the escapes, the backslashes last. -/
theorem decodeMountPath_escape (t : Text) : decodeMountPath (escape t) = t := by
  have hflatten : escape t = (t.map escapeChar).flatten := List.flatMap_def
  have h₀ : ∀ x ∈ t.map escapeChar, Piece x := by
    intro x hx
    obtain ⟨c, -, rfl⟩ := List.mem_map.mp hx
    exact piece_escapeChar c
  have hstep {xs : List Text} (hxs : ∀ x ∈ xs, Piece x) (old : Text) {d : Char} (hd : d ≠ '\\') :
      ∀ x ∈ xs.map (fun x => if x = old then [d] else x), Piece x := by
    intro x hx
    obtain ⟨y, hy, rfl⟩ := List.mem_map.mp hx
    exact (hxs y hy).replaced hd
  have h₁ := hstep h₀ "\\040".toList (d := ' ') (by decide)
  have h₂ := hstep h₁ "\\011".toList (d := '\t') (by decide)
  have h₃ := hstep h₂ "\\012".toList (d := '\n') (by decide)
  have hdecode : decodeMountPath (escape t) = replace "\\134".toList "\\".toList
      (replace "\\012".toList "\n".toList (replace "\\011".toList "\t".toList
        (replace "\\040".toList " ".toList (escape t)))) := rfl
  rw [hdecode, hflatten]
  have e₀ := @replace_flatten '0' '4' '0' " ".toList _ h₀
  have e₁ := @replace_flatten '0' '1' '1' "\t".toList _ h₁
  have e₂ := @replace_flatten '0' '1' '2' "\n".toList _ h₂
  have e₃ := @replace_flatten '1' '3' '4' "\\".toList _ h₃
  refine (congrArg _ (congrArg _ (congrArg _ e₀))).trans ?_
  refine (congrArg _ (congrArg _ e₁)).trans ?_
  refine (congrArg _ e₂).trans (e₃.trans ?_)
  rw [List.map_map, List.map_map, List.map_map, List.map_map]
  have hback : ∀ c : Char, (fun x => if x = (['\\', '1', '3', '4'] : Text) then "\\".toList else x)
      ((fun x => if x = (['\\', '0', '1', '2'] : Text) then ['\n'] else x)
        ((fun x => if x = (['\\', '0', '1', '1'] : Text) then ['\t'] else x)
          ((fun x => if x = (['\\', '0', '4', '0'] : Text) then [' '] else x) (escapeChar c)))) =
      [c] := by
    intro c
    unfold escapeChar
    split_ifs with h₁ h₂ h₃ h₄
    · subst h₁
      decide
    · subst h₂
      decide
    · subst h₃
      decide
    · subst h₄
      decide
    · simp
  have hchars : (t.map fun c => [c]).flatten = t := by
    rw [← List.flatMap_def, List.flatMap_singleton']
  exact (congrArg List.flatten (List.map_congr_left fun c _ => hback c)).trans hchars

/-! ### The table -/

def renderNames (names : List Text) : Text :=
  if names = [] then "/".toList else names.flatMap ('/' :: ·)

theorem parse_renderNames {names : List Text}
    (h : ∀ n ∈ names, n ≠ [] ∧ n ≠ ".".toList ∧ '/' ∉ n) :
    Path.parse (renderNames names) = Path.absolute names := by
  have hslash : decide ('/' = '/') = true := by decide
  have hwords : ∀ n ∈ names, n ≠ [] ∧ ∀ c ∈ n, decide (c = '/') = false := by
    intro n hn
    refine ⟨(h n hn).1, fun c hc => decide_eq_false ?_⟩
    rintro rfl
    exact (h n hn).2.2 hc
  have hdots : names.filter (· ≠ ".".toList) = names :=
    List.filter_eq_self.mpr fun n hn => decide_eq_true (h n hn).2.1
  cases names with
  | nil => decide
  | cons n ns =>
    have htext : renderNames (n :: ns) = (n :: ns).flatMap ('/' :: ·) := if_neg nofun
    have hnames : (words (fun c => decide (c = '/')) (renderNames (n :: ns))).filter
        (· ≠ ".".toList) = n :: ns := by
      rw [htext, words_flatMap hslash hwords, hdots]
    have hroot : Path.rootOf (renderNames (n :: ns)) = "/".toList := by
      rw [htext]
      obtain ⟨hne, -, hn⟩ := h n List.mem_cons_self
      cases n with
      | nil => exact absurd rfl hne
      | cons c n =>
        have hc : c ≠ '/' := fun hc => hn (hc ▸ List.mem_cons_self)
        rw [List.flatMap_cons, List.cons_append, List.cons_append]
        unfold Path.rootOf
        split
        · next heq => exact absurd (List.cons.inj (List.cons.inj heq).2).1 hc
        · next heq => exact absurd (List.cons.inj (List.cons.inj heq).2).1 hc
        · rfl
        · next hother => exact absurd rfl (hother _)
    rw [Path.parse, Path.absolute, hroot, hnames]

/-- A line of the table, with the fields as they stand in it; the names of the mount point are those
that the kernel escapes. -/
structure Entry where
  mountId : Text
  parentId : Text
  device : Text
  root : Text
  mountPoint : List Text
  options : Text
  optional : List Text
  filesystemType : Text
  rest : List Text
deriving DecidableEq

def join : List Text → Text
  | [] => []
  | w :: ws => w ++ ws.flatMap (' ' :: ·)

namespace Entry
variable (e : Entry)

def before : List Text :=
  [e.mountId, e.parentId, e.device, e.root, escape (renderNames e.mountPoint), e.options] ++ e.optional

def fields : List Text := e.before ++ "-".toList :: e.filesystemType :: e.rest

def line : Text := join e.fields

def path : Path := .absolute e.mountPoint

structure WellFormed : Prop where
  nonempty : ∀ f ∈ e.fields, f ≠ []
  separator : "-".toList ∉ e.before
  names : ∀ n ∈ e.mountPoint, n ≠ [] ∧ n ≠ ".".toList ∧ n ≠ "..".toList ∧ '/' ∉ n
  blanks : ∀ f ∈ e.fields, ∀ c ∈ f, c ≠ ' ' ∧ c ≠ '\t' ∧ c ≠ '\n'

/-- No character that splits lines or fields is in a field. -/
def Plain : Prop := ∀ f ∈ e.fields, ∀ c ∈ f, isSpace c = false

end Entry

/-- `/proc/self/mountinfo` -/
def mountinfo (entries : List Entry) : Text := entries.flatMap fun e => e.line ++ ['\n']

/-- The first entry among those with the deepest mount point above the path. -/
def First (entries : List Entry) (path : Path) (e : Entry) : Prop :=
  ∃ before after, entries = before ++ e :: after ∧ e.path.Contains path ∧
    (∀ e' ∈ before, e'.path.Contains path → e'.mountPoint.length < e.mountPoint.length) ∧
      ∀ e' ∈ after, e'.path.Contains path → e'.mountPoint.length ≤ e.mountPoint.length

/-- The last of them, which hides the others. -/
def Visible (entries : List Entry) (path : Path) (e : Entry) : Prop :=
  ∃ before after, entries = before ++ e :: after ∧ e.path.Contains path ∧
    (∀ e' ∈ before, e'.path.Contains path → e'.mountPoint.length ≤ e.mountPoint.length) ∧
      ∀ e' ∈ after, e'.path.Contains path → e'.mountPoint.length < e.mountPoint.length

/-! ### Reading the table back -/

theorem isSpace_of_isLineBreak {c : Char} (h : isLineBreak c = true) : isSpace c = true := by
  unfold isLineBreak at h
  unfold isSpace
  simp only [Bool.or_eq_true, Bool.and_eq_true, decide_eq_true_eq] at h ⊢
  omega

theorem split_join {ws : List Text} (h : ∀ w ∈ ws, w ≠ [] ∧ ∀ c ∈ w, isSpace c = false) :
    split (join ws) = ws := by
  cases ws with
  | nil => exact words_nil
  | cons w ws =>
    have hflat : ' ' :: join (w :: ws) = (w :: ws).flatMap (' ' :: ·) := by
      rw [join, List.flatMap_cons, List.cons_append]
    rw [split, ← words_cons (show isSpace ' ' = true by decide), hflat,
      words_flatMap (by decide) h]

theorem join_noBreak {ws : List Text} (h : ∀ w ∈ ws, ∀ c ∈ w, isSpace c = false) :
    ∀ c ∈ join ws, isLineBreak c = false := by
  have hword {w : Text} (hw : w ∈ ws) {c : Char} (hc : c ∈ w) : isLineBreak c = false := by
    by_contra hne
    have hspace := isSpace_of_isLineBreak (Bool.eq_true_of_not_eq_false hne)
    exact absurd (h w hw c hc) (by rw [hspace]; decide)
  intro c hc
  cases ws with
  | nil => exact nomatch hc
  | cons w ws =>
    rcases List.mem_append.mp hc with hc | hc
    · exact hword List.mem_cons_self hc
    · obtain ⟨w', hw', hc⟩ := List.mem_flatMap.mp hc
      rcases List.mem_cons.mp hc with rfl | hc
      · decide
      · exact hword (List.mem_cons_of_mem _ hw') hc

theorem idxOf?_append {a : Text} {xs ys : List Text} (h : a ∉ xs) :
    (xs ++ a :: ys).idxOf? a = some xs.length := by
  induction xs with
  | nil => simp [List.idxOf?_cons]
  | cons x xs ih =>
    rw [List.mem_cons, not_or] at h
    rw [List.cons_append, List.idxOf?_cons]
    simp [Ne.symm h.1, ih h.2]

section Entries
variable {resolve : Path → Path} {path : Path}

theorem readLine_line {e : Entry} (hw : e.WellFormed) (hp : e.Plain) (hr : resolve e.path = e.path) :
    readLine resolve path e.line =
      if e.path.Contains path then some ⟨lower e.filesystemType, e.path⟩ else none := by
  have hfields : split e.line = e.fields := split_join fun f hf => ⟨hw.nonempty f hf, hp f hf⟩
  have hindex : e.fields.idxOf? "-".toList = some e.before.length := idxOf?_append hw.separator
  have hpoint : e.fields[4]? = some (escape (renderNames e.mountPoint)) := rfl
  have htype : e.fields[e.before.length + 1]? = some e.filesystemType := by
    rw [Entry.fields, List.getElem?_append_right (Nat.le_add_right _ _), Nat.add_sub_cancel_left]
    rfl
  have hparse : Path.parse (decodeMountPath (escape (renderNames e.mountPoint))) = e.path := by
    rw [decodeMountPath_escape]
    refine parse_renderNames fun n hn => ?_
    obtain ⟨hne, hdot, -, hslash⟩ := hw.names n hn
    exact ⟨hne, hdot, hslash⟩
  unfold readLine
  simp only [hfields, hindex, hpoint, htype, hparse, hr, Option.bind_eq_bind, Option.bind_some]

theorem candidates_entries {entries : List Entry} (hw : ∀ e ∈ entries, e.WellFormed)
    (hp : ∀ e ∈ entries, e.Plain) (hr : ∀ e ∈ entries, resolve e.path = e.path) :
    (splitlines (mountinfo entries)).filterMap (readLine resolve path) =
      (entries.filter fun e => e.path.Contains path).map
        fun e => ⟨lower e.filesystemType, e.path⟩ := by
  have hlines : splitlines (mountinfo entries) = entries.map Entry.line := by
    have htext : mountinfo entries = (entries.map Entry.line).flatMap (· ++ ['\n']) := by
      rw [mountinfo, List.flatMap_map]
    rw [htext]
    refine splitlines_lines fun l hl => ?_
    obtain ⟨e, he, rfl⟩ := List.mem_map.mp hl
    exact join_noBreak (hp e he)
  rw [hlines, List.filterMap_map]
  clear hlines
  induction entries with
  | nil => rfl
  | cons e entries ih =>
    obtain ⟨hwe, hw⟩ := List.forall_mem_cons.mp hw
    obtain ⟨hpe, hp⟩ := List.forall_mem_cons.mp hp
    obtain ⟨hre, hr⟩ := List.forall_mem_cons.mp hr
    have hline : (readLine resolve path ∘ Entry.line) e = _ := readLine_line hwe hpe hre
    by_cases hcontains : e.path.Contains path
    · rw [if_pos hcontains] at hline
      rw [List.filterMap_cons_some hline, List.filter_cons_of_pos (by simpa using hcontains),
        List.map_cons, ih hw hp hr]
    · rw [if_neg hcontains] at hline
      rw [List.filterMap_cons_none hline, ih hw hp hr, List.filter_cons_of_neg]
      exact fun h => hcontains (of_decide_eq_true h)

end Entries

/-! ### The first of the greatest -/

section Greatest
variable {α : Type} {key : α → Nat}

theorem foldl_max_mem (a : α) (as : List α) :
    as.foldl (fun best b => if key best < key b then b else best) a ∈ a :: as := by
  induction as generalizing a with
  | nil => exact List.mem_singleton_self a
  | cons b as ih =>
    rw [List.foldl_cons]
    split_ifs
    · exact List.mem_cons_of_mem a (ih b)
    · rcases List.mem_cons.mp (ih a) with h | h
      · rw [h]
        exact List.mem_cons_self
      · exact List.mem_cons_of_mem a (List.mem_cons_of_mem b h)

theorem foldl_max_eq {a : α} {as : List α} (h : ∀ b ∈ as, key b ≤ key a) :
    as.foldl (fun best b => if key best < key b then b else best) a = a := by
  induction as with
  | nil => rfl
  | cons b as ih =>
    obtain ⟨hb, has⟩ := List.forall_mem_cons.mp h
    rw [List.foldl_cons, if_neg (Nat.not_lt.mpr hb), ih has]

theorem maxBy_eq {a : α} {before after : List α} (hbefore : ∀ b ∈ before, key b < key a)
    (hafter : ∀ b ∈ after, key b ≤ key a) : maxBy key (before ++ a :: after) = some a := by
  cases before with
  | nil => exact congrArg some (foldl_max_eq hafter)
  | cons b before =>
    have hless : key (before.foldl (fun best b => if key best < key b then b else best) b) < key a :=
      hbefore _ (foldl_max_mem b before)
    rw [List.cons_append, maxBy, List.foldl_append, List.foldl_cons, if_pos hless, foldl_max_eq hafter]

end Greatest

/-! ### What the probe reports -/

section Probe
variable {resolve : Path → Path} {path : Path} {entries : List Entry} {e first visible : Entry}

theorem length_parts (e : Entry) : e.path.parts.length = e.mountPoint.length + 1 := rfl

theorem inspectLinux_first (hw : ∀ e ∈ entries, e.WellFormed) (hp : ∀ e ∈ entries, e.Plain)
    (hr : ∀ e ∈ entries, resolve e.path = e.path) (h : First entries path first) :
    inspectLinux resolve (mountinfo entries) path =
      some ⟨lower first.filesystemType, first.path⟩ := by
  obtain ⟨before, after, hsplit, hcontains, hbefore, hafter⟩ := h
  rw [inspectLinux, candidates_entries hw hp hr, hsplit, List.filter_append,
    List.filter_cons_of_pos (by simpa using hcontains), List.map_append, List.map_cons]
  refine maxBy_eq (fun m hm => ?_) fun m hm => ?_
  · obtain ⟨e, he, rfl⟩ := List.mem_map.mp hm
    obtain ⟨he, hc⟩ := List.mem_filter.mp he
    exact Nat.succ_lt_succ (hbefore e he (of_decide_eq_true hc))
  · obtain ⟨e, he, rfl⟩ := List.mem_map.mp hm
    obtain ⟨he, hc⟩ := List.mem_filter.mp he
    exact Nat.succ_le_succ (hafter e he (of_decide_eq_true hc))

/-- The first and the last of the deepest entries are at one place. -/
theorem First.path_eq (h : First entries path first) (h' : Visible entries path visible) :
    first.path = visible.path := by
  obtain ⟨before, after, hsplit, hcontains, hbefore, hafter⟩ := h
  obtain ⟨before', after', hsplit', hcontains', hbefore', hafter'⟩ := h'
  have hfirst : first ∈ before' ++ visible :: after' := by
    rw [← hsplit', hsplit]
    exact List.mem_append_right _ List.mem_cons_self
  have hvisible : visible ∈ before ++ first :: after := by
    rw [← hsplit, hsplit']
    exact List.mem_append_right _ List.mem_cons_self
  have hle : first.mountPoint.length ≤ visible.mountPoint.length := by
    rcases List.mem_append.mp hfirst with hm | hm
    · exact hbefore' _ hm hcontains
    · rcases List.mem_cons.mp hm with rfl | hm
      · exact le_refl _
      · exact (hafter' _ hm hcontains).le
  have hge : visible.mountPoint.length ≤ first.mountPoint.length := by
    rcases List.mem_append.mp hvisible with hm | hm
    · exact (hbefore _ hm hcontains').le
    · rcases List.mem_cons.mp hm with rfl | hm
      · exact le_refl _
      · exact hafter _ hm hcontains'
  have hlength : first.path.parts.length = visible.path.parts.length := by
    rw [length_parts, length_parts, le_antisymm hle hge]
  have hparts : first.path.parts = visible.path.parts :=
    (List.prefix_of_prefix_length_le hcontains hcontains' hlength.le).eq_of_length hlength
  exact congrArg Path.absolute (List.cons.inj hparts).2

/-- The probe reports the mount that is visible exactly when the first mount at its place has the
same type. -/
theorem inspect_linux_visible (hw : ∀ e ∈ entries, e.WellFormed) (hp : ∀ e ∈ entries, e.Plain)
    (hr : ∀ e ∈ entries, resolve e.path = e.path) (hfirst : First entries path first)
    (hvisible : Visible entries path visible) :
    inspectLinux resolve (mountinfo entries) path =
        some ⟨lower visible.filesystemType, visible.path⟩ ↔
      lower first.filesystemType = lower visible.filesystemType := by
  rw [inspectLinux_first hw hp hr hfirst, hfirst.path_eq hvisible]
  simp only [Option.some.injEq, FilesystemMount.mk.injEq, and_true]

end Probe

namespace Sample

def entry (mountPoint : List Text) (filesystemType : Text) : Entry where
  mountId := "36".toList
  parentId := "25".toList
  device := "98:0".toList
  root := "/".toList
  mountPoint
  options := "rw,noatime".toList
  optional := ["shared:1".toList]
  filesystemType
  rest := ["/dev/root".toList, "rw".toList]

/-- A network file system mounted over a local one. -/
def stacked (under upper : Text) : List Entry :=
  [entry [] "xfs".toList, entry ["my data".toList] under, entry ["my data".toList] upper]

def directory : Path := .absolute ["my data".toList, "db".toList]

theorem blanks_of_all {e : Entry}
    (h : ∀ f ∈ e.fields, f.all (fun c => decide (c ≠ ' ' ∧ c ≠ '\t' ∧ c ≠ '\n')) = true) :
    ∀ f ∈ e.fields, ∀ c ∈ f, c ≠ ' ' ∧ c ≠ '\t' ∧ c ≠ '\n' :=
  fun f hf => forall_mem_of_all (h f hf)

theorem plain_of_all {e : Entry} (h : ∀ f ∈ e.fields, f.all (fun c => decide (isSpace c = false)) = true) :
    e.Plain :=
  fun f hf => forall_mem_of_all (h f hf)

theorem stacked_wellFormed {upper : Text} (h : upper = "nfs".toList ∨ upper = "ext4".toList) :
    ∀ e ∈ stacked "ext4".toList upper, e.WellFormed ∧ e.Plain := by
  intro e he
  simp only [stacked, List.mem_cons, List.not_mem_nil, or_false] at he
  rcases h with rfl | rfl <;> rcases he with rfl | rfl | rfl <;>
    refine ⟨⟨?_, ?_, ?_, blanks_of_all ?_⟩, plain_of_all ?_⟩ <;> decide +kernel

theorem stacked_first (upper : Text) :
    First (stacked "ext4".toList upper) directory (entry ["my data".toList] "ext4".toList) := by
  refine ⟨[entry [] "xfs".toList], [entry ["my data".toList] upper], rfl, by decide +kernel, ?_, ?_⟩
  · intro e he _
    rw [List.mem_singleton.mp he]
    decide
  · intro e he _
    rw [List.mem_singleton.mp he]
    exact le_refl 1

theorem stacked_visible (upper : Text) :
    Visible (stacked "ext4".toList upper) directory (entry ["my data".toList] upper) := by
  refine ⟨[entry [] "xfs".toList, entry ["my data".toList] "ext4".toList], [], rfl, ?_, ?_, nofun⟩
  · change Path.Contains (.absolute ["my data".toList]) directory
    decide +kernel
  · intro e he _
    rcases List.mem_pair.mp he with rfl | rfl
    · exact Nat.zero_le 1
    · exact le_refl 1

/-- The network file system is reported as the local one under it. -/
theorem stacked_misreported :
    (∀ e ∈ stacked "ext4".toList "nfs".toList, e.WellFormed ∧ e.Plain) ∧
      Visible (stacked "ext4".toList "nfs".toList) directory (entry ["my data".toList] "nfs".toList) ∧
      inspectLinux id (mountinfo (stacked "ext4".toList "nfs".toList)) directory =
        some ⟨"ext4".toList, .absolute ["my data".toList]⟩ :=
  ⟨stacked_wellFormed (Or.inl rfl), stacked_visible _, by decide +kernel⟩

/-- So is a mount point with a blank that the kernel does not escape. -/
theorem blank_misreported :
    (entry ["a\u00a0b".toList] "nfs".toList).WellFormed ∧
      Visible [entry [] "xfs".toList, entry ["a\u00a0b".toList] "nfs".toList]
        (.absolute ["a\u00a0b".toList]) (entry ["a\u00a0b".toList] "nfs".toList) ∧
      inspectLinux id
        (mountinfo [entry [] "xfs".toList, entry ["a\u00a0b".toList] "nfs".toList])
        (.absolute ["a\u00a0b".toList]) = some ⟨"xfs".toList, .absolute []⟩ := by
  refine ⟨⟨?_, ?_, ?_, blanks_of_all ?_⟩, ⟨[entry [] "xfs".toList], [], rfl, ?_, ?_, nofun⟩, ?_⟩
  all_goals decide +kernel

theorem stacked_reported :
    inspectLinux id (mountinfo (stacked "ext4".toList "ext4".toList)) directory =
      some ⟨lower "ext4".toList, .absolute ["my data".toList]⟩ :=
  (inspect_linux_visible (fun e he => (stacked_wellFormed (Or.inr rfl) e he).1)
    (fun e he => (stacked_wellFormed (Or.inr rfl) e he).2) (fun _ _ => rfl) (stacked_first _)
    (stacked_visible _)).mpr rfl

end Sample

end MyCogni.Persistence
