import Mathlib.Data.List.TakeWhile
import MyCogni.Base.Bytes
import MyCogni.Base.Outcome

/-! `urllib.parse`: splitting a URL into its five components, reading the host and the port of an
authority, and putting the components together again. -/

namespace MyCogni.Url

/-! ### Partitions of a text -/

/-- `t.partition(sep)`, with whether the separator was found. -/
def partition (sep : Char) (t : Text) : Text × Bool × Text :=
  match t.dropWhile (· ≠ sep) with
  | [] => (t, false, [])
  | _ :: back => (t.takeWhile (· ≠ sep), true, back)

/-- `t.rpartition(sep)`, with whether the separator was found. -/
def rpartition (sep : Char) (t : Text) : Text × Bool × Text :=
  match partition sep t.reverse with
  | (_, false, _) => ([], false, t)
  | (back, true, front) => (front.reverse, true, back.reverse)

theorem dropWhile_ne_append {sep : Char} {a : Text} (h : sep ∉ a) (b : Text) :
    (a ++ sep :: b).dropWhile (· ≠ sep) = sep :: b := by
  induction a with
  | nil => simp
  | cons c a ih =>
    have hc : c ≠ sep := fun e => h (e ▸ List.mem_cons_self)
    rw [List.cons_append, List.dropWhile_cons_of_pos (by simpa using hc)]
    exact ih fun hmem => h (List.mem_cons_of_mem _ hmem)

theorem takeWhile_ne_append {sep : Char} {a : Text} (h : sep ∉ a) (b : Text) :
    (a ++ sep :: b).takeWhile (· ≠ sep) = a := by
  induction a with
  | nil => simp
  | cons c a ih =>
    have hc : c ≠ sep := fun e => h (e ▸ List.mem_cons_self)
    rw [List.cons_append, List.takeWhile_cons_of_pos (by simpa using hc)]
    exact congrArg _ (ih fun hmem => h (List.mem_cons_of_mem _ hmem))

theorem partition_of_not_mem {sep : Char} {t : Text} (h : sep ∉ t) :
    partition sep t = (t, false, []) := by
  have hdrop : t.dropWhile (· ≠ sep) = [] := by
    refine List.dropWhile_eq_nil_iff.mpr fun c hc => ?_
    simpa using fun e : c = sep => h (e ▸ hc)
  rw [partition, hdrop]

theorem partition_append {sep : Char} {a : Text} (h : sep ∉ a) (b : Text) :
    partition sep (a ++ sep :: b) = (a, true, b) := by
  rw [partition, dropWhile_ne_append h, takeWhile_ne_append h]

theorem rpartition_of_not_mem {sep : Char} {t : Text} (h : sep ∉ t) :
    rpartition sep t = ([], false, t) := by
  rw [rpartition, partition_of_not_mem (by simpa using h)]

/-! ### Splitting -/

/-- The checks of an authority that depend on `ipaddress` and on Unicode normalisation. -/
structure Checks where
  checkBracketedNetloc : Text → Except Text Unit
  checkNonAscii : Text → Except Text Unit

structure SplitResult where
  scheme : Text
  netloc : Text
  path : Text
  query : Text
  fragment : Text
deriving DecidableEq

def isC0OrSpace (c : Char) : Bool := c ≤ ' '

def isUnsafe (c : Char) : Bool := c = '\t' || c = '\r' || c = '\n'

def isSchemeChar (c : Char) : Bool :=
  c.isAlpha || c.isDigit || c = '+' || c = '-' || c = '.'

def isAscii (t : Text) : Bool := t.all fun c => c.toNat < 128

def lower (t : Text) : Text := t.map Char.toLower

/-- The scheme in front of the first colon, when there is one. -/
def splitScheme (url : Text) : Text × Text :=
  match partition ':' url with
  | (front, true, back) =>
    if front.head?.any Char.isAlpha && front.all isSchemeChar then (lower front, back) else ([], url)
  | (_, false, _) => ([], url)

def isDelimiter (c : Char) : Bool := c = '/' || c = '?' || c = '#'

/-- `_splitnetloc` behind two slashes. -/
def splitNetloc (url : Text) : Text × Text :=
  if url.take 2 = "//".toList then
    ((url.drop 2).takeWhile (!isDelimiter ·), (url.drop 2).dropWhile (!isDelimiter ·))
  else ([], url)

def checkBrackets (lib : Checks) (netloc : Text) : Except Text Unit := do
  ensure (('[' ∈ netloc ↔ ']' ∈ netloc)) "Invalid IPv6 URL".toList
  if '[' ∈ netloc then lib.checkBracketedNetloc netloc

def checkNetloc (lib : Checks) (netloc : Text) : Except Text Unit :=
  if isAscii netloc then .ok () else lib.checkNonAscii netloc

/-- `urlsplit(url)`. -/
def urlsplit (lib : Checks) (url : Text) : Except Text SplitResult := do
  let url := (url.dropWhile isC0OrSpace).filter (!isUnsafe ·)
  let (scheme, url) := splitScheme url
  let (netloc, url) := splitNetloc url
  checkBrackets lib netloc
  let (url, _, fragment) := partition '#' url
  let (path, _, query) := partition '?' url
  checkNetloc lib netloc
  return ⟨scheme, netloc, path, query, fragment⟩

/-! ### Authorities -/

namespace SplitResult

/-- The user name and the password. -/
def userinfo (r : SplitResult) : Option Text × Option Text :=
  match rpartition '@' r.netloc with
  | (_, false, _) => (none, none)
  | (front, true, _) =>
    match partition ':' front with
    | (username, true, password) => (some username, some password)
    | (username, false, _) => (some username, none)

/-- The host and the text of the port. -/
def hostinfo (r : SplitResult) : Text × Option Text :=
  let (_, _, hostinfo) := rpartition '@' r.netloc
  let (hostname, port) :=
    match partition '[' hostinfo with
    | (_, true, bracketed) =>
      let (hostname, _, port) := partition ']' bracketed
      let (_, _, port) := partition ':' port
      (hostname, port)
    | (_, false, _) =>
      let (hostname, _, port) := partition ':' hostinfo
      (hostname, port)
  (hostname, if port = [] then none else some port)

def hostname (r : SplitResult) : Option Text :=
  let host := r.hostinfo.1
  if host = [] then none
  else
    let (name, found, zone) := partition '%' host
    some (lower name ++ (if found then ['%'] else []) ++ zone)

def isDecimal (t : Text) : Bool := t.all Char.isDigit

/-- `int(t)` for a text of decimal digits. -/
def decimalValue (t : Text) : Nat := Nat.ofDigitChars 10 t 0

def port (r : SplitResult) : Except Text (Option Nat) :=
  match r.hostinfo.2 with
  | none => .ok none
  | some t => do
    ensure (isDecimal t = true) "Port could not be cast to integer value".toList
    ensure (t.length ≤ maxStrDigits) "Exceeds the limit for integer string conversion".toList
    ensure (decimalValue t ≤ 65535) "Port out of range 0-65535".toList
    return some (decimalValue t)

end SplitResult

/-- `urlunsplit` of a scheme and an authority. -/
def urlunsplit (scheme netloc : Text) : Text :=
  scheme ++ ':' :: "//".toList ++ netloc

/-! ### A URL that is a scheme and an authority -/

/-- What an authority is made of when nothing in it is removed, delimits or needs a check. -/
def isQuiet (c : Char) : Bool :=
  c.toNat < 128 && !isUnsafe c && !isDelimiter c && c ≠ '[' && c ≠ ']'

theorem isUnsafe_of_isSchemeChar {c : Char} (h : isSchemeChar c = true) : isUnsafe c = false := by
  by_contra hunsafe
  simp only [isUnsafe, Bool.not_eq_false, Bool.or_eq_true, decide_eq_true_eq] at hunsafe
  rcases hunsafe with (rfl | rfl) | rfl <;> exact absurd h (by decide)

theorem not_isC0OrSpace_of_isAlpha {c : Char} (h : c.isAlpha = true) : isC0OrSpace c = false := by
  by_contra hspace
  rw [Bool.not_eq_false, isC0OrSpace, decide_eq_true_eq] at hspace
  have hle : c.toNat ≤ 32 := hspace
  replace h : (decide (c.val ≥ 'A'.val ∧ c.val ≤ 'Z'.val) ||
      (c.val ≥ 'a'.val && c.val ≤ 'z'.val)) = true := h
  rw [Bool.or_eq_true] at h
  simp only [ge_iff_le, Bool.and_eq_true, decide_eq_true_eq, UInt32.le_iff_toNat_le] at h
  have hA : 'A'.val.toNat = 65 := rfl
  have ha : 'a'.val.toNat = 97 := rfl
  have hc : c.toNat = c.val.toNat := rfl
  omega

theorem splitScheme_urlunsplit {scheme netloc : Text} (halpha : scheme.head?.any Char.isAlpha = true)
    (hscheme : scheme.all isSchemeChar = true) (hlower : lower scheme = scheme) :
    splitScheme (urlunsplit scheme netloc) = (scheme, "//".toList ++ netloc) := by
  have hcolon : ':' ∉ scheme := fun h => absurd (List.all_eq_true.mp hscheme ':' h) (by decide)
  have hsplit : urlunsplit scheme netloc = scheme ++ ':' :: ("//".toList ++ netloc) := by
    simp [urlunsplit]
  rw [splitScheme, hsplit, partition_append hcolon]
  dsimp only
  rw [halpha, hscheme, hlower]
  rfl

theorem splitNetloc_authority {netloc : Text} (h : ∀ c ∈ netloc, isDelimiter c = false) :
    splitNetloc ("//".toList ++ netloc) = (netloc, []) := by
  have hdrop : ("//".toList ++ netloc).drop 2 = netloc := rfl
  have htake : ("//".toList ++ netloc).take 2 = "//".toList := rfl
  rw [splitNetloc, if_pos htake, hdrop, List.takeWhile_eq_self_iff.mpr, List.dropWhile_eq_nil_iff.mpr]
  · exact fun c hc => by simp [h c hc]
  · exact fun c hc => by simp [h c hc]

theorem urlsplit_urlunsplit (lib : Checks) {scheme netloc : Text}
    (halpha : scheme.head?.any Char.isAlpha = true) (hscheme : scheme.all isSchemeChar = true)
    (hlower : lower scheme = scheme) (hnetloc : ∀ c ∈ netloc, isQuiet c = true) :
    urlsplit lib (urlunsplit scheme netloc) = .ok ⟨scheme, netloc, [], [], []⟩ := by
  simp only [isQuiet, Bool.and_eq_true, decide_eq_true_eq, Bool.not_eq_true'] at hnetloc
  have hkeep : ((urlunsplit scheme netloc).dropWhile isC0OrSpace).filter (!isUnsafe ·) =
      urlunsplit scheme netloc := by
    obtain ⟨c, scheme, rfl⟩ : ∃ c rest, scheme = c :: rest := by
      cases scheme with
      | nil => exact nomatch halpha
      | cons c rest => exact ⟨c, rest, rfl⟩
    have hc : isC0OrSpace c = false := not_isC0OrSpace_of_isAlpha (by simpa using halpha)
    have hdrop : (urlunsplit (c :: scheme) netloc).dropWhile isC0OrSpace =
        urlunsplit (c :: scheme) netloc := by
      simp [urlunsplit, hc]
    rw [hdrop]
    refine List.filter_eq_self.mpr fun a ha => ?_
    simp only [urlunsplit, List.mem_append, List.mem_cons] at ha
    have hsafe : isUnsafe a = false := by
      rcases ha with (ha | rfl | ha) | ha
      · exact isUnsafe_of_isSchemeChar (List.all_eq_true.mp hscheme a (List.mem_cons.mpr ha))
      · decide
      · have hslash : a = '/' := by simpa using ha
        rw [hslash]
        decide
      · exact (hnetloc a ha).1.1.1.2
    simp [hsafe]
  have hbrackets : checkBrackets lib netloc = .ok () := by
    have hopen : '[' ∉ netloc := fun h => (hnetloc _ h).1.2 rfl
    have hclose : ']' ∉ netloc := fun h => (hnetloc _ h).2 rfl
    rw [checkBrackets, ensure_bind (iff_of_false hopen hclose), if_neg hopen]
    rfl
  have hascii : checkNetloc lib netloc = .ok () := by
    have hall : isAscii netloc = true :=
      List.all_eq_true.mpr fun c hc => decide_eq_true (hnetloc c hc).1.1.1.1
    rw [checkNetloc, if_pos hall]
  unfold urlsplit
  dsimp only
  rw [hkeep, splitScheme_urlunsplit halpha hscheme hlower]
  dsimp only
  rw [splitNetloc_authority fun c hc => (hnetloc c hc).1.1.2]
  dsimp only
  rw [hbrackets, ok_bind, hascii, ok_bind]
  rfl

/-- What a name of a host is made of. -/
def isHostChar (c : Char) : Bool := isQuiet c && c ≠ '@' && c ≠ ':' && c ≠ '%' && c.toLower = c

namespace SplitResult
variable {r : SplitResult} {host port : Text}

theorem not_mem_host (hhost : ∀ c ∈ host, isHostChar c = true) :
    '@' ∉ host ∧ ':' ∉ host ∧ '%' ∉ host ∧ '[' ∉ host :=
  ⟨fun h => absurd (hhost _ h) (by decide), fun h => absurd (hhost _ h) (by decide),
    fun h => absurd (hhost _ h) (by decide), fun h => absurd (hhost _ h) (by decide)⟩

theorem userinfo_eq_none (h : '@' ∉ r.netloc) : r.userinfo = (none, none) := by
  rw [userinfo, rpartition_of_not_mem h]

theorem hostinfo_host (hr : r.netloc = host) (hhost : ∀ c ∈ host, isHostChar c = true) :
    r.hostinfo = (host, none) := by
  obtain ⟨hat, hcolon, -, hopen⟩ := not_mem_host hhost
  rw [hostinfo, hr, rpartition_of_not_mem hat]
  dsimp only
  rw [partition_of_not_mem hopen]
  dsimp only
  rw [partition_of_not_mem hcolon]
  rfl

theorem hostinfo_port (hr : r.netloc = host ++ ':' :: port)
    (hhost : ∀ c ∈ host, isHostChar c = true) (hport : isDecimal port = true) (hne : port ≠ []) :
    r.hostinfo = (host, some port) := by
  obtain ⟨hat, hcolon, -, hopen⟩ := not_mem_host hhost
  have hdigit : ∀ c, c.isDigit = false → c ∉ port := fun c hc h =>
    absurd (List.all_eq_true.mp hport c h) (by simp [hc])
  have hat' : '@' ∉ host ++ ':' :: port := by
    simp [hat, hdigit '@' (by decide)]
  have hopen' : '[' ∉ host ++ ':' :: port := by
    simp [hopen, hdigit '[' (by decide)]
  rw [hostinfo, hr, rpartition_of_not_mem hat']
  dsimp only
  rw [partition_of_not_mem hopen']
  dsimp only
  rw [partition_append hcolon]
  dsimp only
  rw [if_neg hne]

theorem hostname_eq (hinfo : r.hostinfo.1 = host) (hne : host ≠ [])
    (hhost : ∀ c ∈ host, isHostChar c = true) : r.hostname = some host := by
  have hlower : lower host = host := by
    refine (List.map_congr_left fun c hc => ?_).trans (List.map_id host)
    have h := hhost c hc
    simp only [isHostChar, Bool.and_eq_true, decide_eq_true_eq] at h
    exact h.2
  rw [hostname, hinfo]
  dsimp only
  rw [if_neg hne, partition_of_not_mem (not_mem_host hhost).2.2.1]
  simp [hlower]

theorem port_le {p : Nat} (h : r.port = .ok (some p)) : p ≤ 65535 := by
  unfold SplitResult.port at h
  split at h
  · exact nomatch h
  · simp only [bind_eq_ok_iff, ensure_eq_ok, exists_const, pure_eq_ok_iff] at h
    obtain ⟨-, -, hle, hp⟩ := h
    exact Option.some.inj hp ▸ hle

theorem port_decimal (hinfo : r.hostinfo.2 = some port) (hdecimal : isDecimal port = true)
    (hle : decimalValue port ≤ 65535) (hcanonical : Nat.toDigits 10 (decimalValue port) = port) :
    r.port = .ok (some (decimalValue port)) := by
  have hshort : port.length ≤ maxStrDigits := by
    have hdigits : (Nat.toDigits 10 (decimalValue port)).length ≤ 5 :=
      (Nat.length_toDigits_le_iff (by decide) (by decide)).mpr (by omega)
    rw [hcanonical] at hdigits
    exact hdigits.trans (by decide)
  rw [SplitResult.port, hinfo]
  dsimp only
  rw [ensure_bind hdecimal, ensure_bind hshort, ensure_bind hle]
  rfl

end SplitResult

end MyCogni.Url
