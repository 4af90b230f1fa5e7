import MyCogni.Auth.Custody
import MyCogni.Base.Sha256

/-! The reader of the custody record. Whatever the file system shows at each of its looks is an input
of the call: nothing that one look shows holds for the next one. The first record that is read pins
the source, and a source that is found to be another one latches the reader. -/

namespace MyCogni.Auth

/-- `OSError`: a name is missing, a directory on the way is none, or anything else. -/
inductive OsError where
  | notFound
  | notDirectory
  | other
deriving DecidableEq

/-- `os.stat_result`, with the fields that `_identity` keeps. -/
structure Stat where
  device : Nat
  inode : Nat
  mode : Nat
  uid : Nat
  links : Nat
  size : Nat
  modifiedNs : Nat
  changedNs : Nat
deriving DecidableEq

/-- What ends a reading. -/
inductive CustodyHalt where
  | failed (fault : CustodyFault)
  /-- An error of the system that is caught nowhere. -/
  | osError
deriving DecidableEq

def CustodyHalt.custody (code : AuthCustodyFailureCode) : CustodyHalt := .failed (.custody code)

/-- An error of the system becomes a failure of the custody. -/
def orFail {α : Type} (code : OsError → AuthCustodyFailureCode) : Except OsError α → Except CustodyHalt α
  | .ok a => .ok a
  | .error e => .error (.custody (code e))

/-! ### What a look has to show -/

/-- A directory that nobody else can write to; the last one is private. -/
def Stat.SafeDirectory (euid : Nat) (final : Bool) (s : Stat) : Prop :=
  s.mode &&& 0o170000 = 0o040000 ∧ (s.uid = 0 ∨ s.uid = euid) ∧ s.mode &&& 0o022 = 0 ∧
    (final = true → s.uid = euid ∧ s.mode &&& 0o077 = 0)

instance (euid : Nat) (final : Bool) (s : Stat) : Decidable (s.SafeDirectory euid final) :=
  inferInstanceAs (Decidable (_ ∧ _ ∧ _ ∧ _))

/-- A regular file of the owner, for nobody else, under one name. -/
def Stat.SafeFile (euid : Nat) (s : Stat) : Prop :=
  s.mode &&& 0o170000 = 0o100000 ∧ s.uid = euid ∧
    (s.mode &&& 0o7777 = 0o400 ∨ s.mode &&& 0o7777 = 0o600) ∧ s.links = 1

instance (euid : Nat) (s : Stat) : Decidable (s.SafeFile euid) :=
  inferInstanceAs (Decidable (_ ∧ _ ∧ _ ∧ _))

/-- `_validate_directory` -/
def validateDirectory (euid : Nat) (final : Bool) (s : Stat) : Except CustodyHalt Unit :=
  ensure (s.SafeDirectory euid final) (.custody .unsafeStorage)

/-- `_validate_file` -/
def validateFile (euid : Nat) (s : Stat) : Except CustodyHalt Unit := do
  ensure (s.SafeFile euid) (.custody .unsafeStorage)
  ensure (s.size = Custody.fileBytes) (.custody .malformedRecord)

/-- What is kept of a directory on the way. -/
structure Ancestor where
  device : Nat
  inode : Nat
  mode : Nat
  uid : Nat
deriving DecidableEq

def Stat.ancestor (s : Stat) : Ancestor := ⟨s.device, s.inode, s.mode, s.uid⟩

structure Pin where
  ancestry : List Ancestor
  file : Stat
  digest : Bytes
deriving DecidableEq

/-- A walk from the root to the directory of the file, and a last look at it. -/
structure Traversal where
  directories : Nat → Except OsError Stat
  parent : Except OsError Stat

/-- A reading. -/
structure ReadInput where
  /-- `_validate_managed_root_ancestors` -/
  separation : Except AuthCustodyFailureCode Unit
  before : Traversal
  named : Except OsError Stat
  opens : Except OsError Unit
  opened : Except OsError Stat
  chunks : List (Except OsError Bytes)
  after : Except OsError Stat
  afterParent : Except OsError Stat
  live : Traversal
  liveNamed : Except OsError Stat
  /-- No descriptor fails to close. -/
  closes : Bool

/-- A look for the file. -/
structure MissingInput where
  separation : Except AuthCustodyFailureCode Unit
  before : Traversal
  named : Except OsError Stat
  closes : Bool

section Reading
variable (euid depth : Nat)

/-- An error of a `finally` takes the place of the result. -/
def closing {α : Type} (closes : Bool) (x : Except CustodyHalt α) : Except CustodyHalt α :=
  if closes then x else .error .osError

def separated (x : Except AuthCustodyFailureCode Unit) : Except CustodyHalt Unit :=
  match x with
  | .ok () => .ok ()
  | .error code => .error (.custody code)

def walkFailure : OsError → AuthCustodyFailureCode
  | .notDirectory => .unsafeStorage
  | _ => .unavailable

/-- `_open_parent`, where `depth` directories are under the root. -/
def openParent (t : Traversal) : Except CustodyHalt (List Stat × Stat) := do
  let directories ← (List.range (depth + 1)).mapM fun i => do
    let s ← orFail walkFailure (t.directories i)
    validateDirectory euid (i = depth) s
    pure s
  let parent ← orFail walkFailure t.parent
  pure (directories, parent)

/-- The loop of reads, of at most so many bytes. -/
def readChunks : Nat → List (Except OsError Bytes) → Except OsError Bytes
  | 0, _ | _, [] => .ok []
  | _ + 1, .error e :: _ => .error e
  | room + 1, .ok part :: rest =>
    if part = [] then .ok []
    else do
      let part := part.take (room + 1)
      let bytes ← readChunks (room + 1 - part.length) rest
      pure (part ++ bytes)

def liveFailure : OsError → AuthCustodyFailureCode
  | .notFound => .casMismatch
  | .notDirectory => .unsafeStorage
  | .other => .unavailable

/-- `_revalidate_live_name` -/
def revalidateLiveName (live : Traversal) (named : Except OsError Stat) (expectedFile : Stat)
    (expectedAncestry : List Ancestor) : Except CustodyHalt Unit := do
  let (directories, _) ← openParent euid depth live
  ensure (directories.map Stat.ancestor = expectedAncestry) (.custody .casMismatch)
  let named ← orFail liveFailure named
  validateFile euid named
  ensure (named = expectedFile) (.custody .casMismatch)

/-- `_read` -/
def ReadInput.read (i : ReadInput) : Except CustodyHalt (Bytes × Pin) := do
  separated i.separation
  let (directories, parent) ← openParent euid depth i.before
  closing i.closes do
    let named ← orFail (fun _ => .unavailable) i.named
    validateFile euid named
    orFail (fun _ => .unavailable) i.opens
    let opened ← orFail (fun _ => .unavailable) i.opened
    validateFile euid opened
    ensure (named = opened) (.custody .unsafeStorage)
    let payload ← orFail (fun _ => .unavailable) (readChunks Custody.fileBytes i.chunks)
    let after ← orFail (fun _ => .unavailable) i.after
    let afterParent ← orFail (fun _ => .unavailable) i.afterParent
    ensure (opened = after ∧ parent.device = afterParent.device ∧ parent.inode = afterParent.inode)
      (.custody .casMismatch)
    revalidateLiveName euid depth i.live i.liveNamed after (directories.map Stat.ancestor)
    ensure (payload.length = Custody.fileBytes) (.custody .malformedRecord)
    pure (payload, ⟨directories.map Stat.ancestor, after, Sha256.digest payload⟩)

/-- `_conclusively_missing` -/
def MissingInput.conclusivelyMissing (i : MissingInput) : Except CustodyHalt Bool := do
  separated i.separation
  let _ ← openParent euid depth i.before
  closing i.closes
    (match i.named with
    | .ok _ => .ok false
    | .error .notFound => .ok true
    | .error _ => .error (.custody .unavailable))

end Reading

/-! ### The reader -/

structure OwnerFileAuthCustody where
  pin : Option Pin := none
  latched : Bool := false
deriving DecidableEq

inductive AuthCustodyStatus where
  | unprovisioned
  | ready
  | recoveryRequired
deriving DecidableEq

inductive CustodyReply where
  | status (s : AuthCustodyStatus)
  | bundle (b : AuthCustodyBundle)
  | failed (fault : CustodyFault)
  | osError
deriving DecidableEq

inductive CustodyCall where
  | status (expected : AuthCustodyBinding) (missing : MissingInput) (i : ReadInput)
  | load (expected : AuthCustodyBinding) (i : ReadInput)

namespace OwnerFileAuthCustody
variable (euid depth : Nat)

/-- What both calls do with the file: read it, parse it, and compare it with the pin. -/
def readPinned (s : OwnerFileAuthCustody) (expected : AuthCustodyBinding) (i : ReadInput) :
    Except CustodyHalt (AuthCustodyBundle × Pin) := do
  let (payload, pin) ← i.read euid depth
  let bundle ← (Custody.parse payload expected).mapError .failed
  ensure (s.pin = none ∨ s.pin = some pin) (.custody .casMismatch)
  pure (bundle, pin)

def status (s : OwnerFileAuthCustody) (expected : AuthCustodyBinding) (missing : MissingInput)
    (i : ReadInput) : CustodyReply × OwnerFileAuthCustody :=
  if s.latched then (.status .recoveryRequired, s)
  else
    match missing.conclusivelyMissing euid depth with
    | .ok true => (.status .unprovisioned, s)
    | .error (.failed _) => (.status .recoveryRequired, { s with latched := true })
    | .error .osError => (.osError, s)
    | .ok false =>
      match s.readPinned euid depth expected i with
      | .ok (_, pin) => (.status .ready, { s with pin := some pin })
      | .error (.failed _) => (.status .recoveryRequired, { s with latched := true })
      | .error .osError => (.osError, s)

def load (s : OwnerFileAuthCustody) (expected : AuthCustodyBinding) (i : ReadInput) :
    CustodyReply × OwnerFileAuthCustody :=
  if s.latched then (.failed (.custody .recoveryRequired), s)
  else
    match s.readPinned euid depth expected i with
    | .ok (bundle, pin) => (.bundle bundle, { s with pin := some pin })
    | .error (.failed fault) => (.failed fault, { s with latched := true })
    | .error .osError => (.osError, s)

def step (s : OwnerFileAuthCustody) : CustodyCall → CustodyReply × OwnerFileAuthCustody
  | .status expected missing i => s.status euid depth expected missing i
  | .load expected i => s.load euid depth expected i

end OwnerFileAuthCustody

/-! ### What a reading has seen -/

section Reading
variable {euid depth : Nat}

/-- Every directory on the way is safe, and these are its ancestors. -/
def Traversal.Safe (euid depth : Nat) (t : Traversal) (ancestry : List Ancestor) : Prop :=
  ∃ directories, directories.map Stat.ancestor = ancestry ∧
    List.Forall₂ (fun k d => t.directories k = .ok d ∧ d.SafeDirectory euid (k = depth))
      (List.range (depth + 1)) directories

/-- All looks have shown the file of the pin, safe, under safe directories that are its ancestors. -/
structure ReadInput.Safe (euid depth : Nat) (i : ReadInput) (pin : Pin) : Prop where
  before : i.before.Safe euid depth pin.ancestry
  named : i.named = .ok pin.file
  opened : i.opened = .ok pin.file
  after : i.after = .ok pin.file
  live : i.live.Safe euid depth pin.ancestry
  liveNamed : i.liveNamed = .ok pin.file
  file : pin.file.SafeFile euid

end Reading

/-! ### What is caught -/

/-- Nothing but failures of the custody is raised. -/
def Caught {α : Type} (x : Except CustodyHalt α) : Prop := x ≠ .error .osError

section Caught
variable {α β : Type} {euid depth : Nat}

theorem Caught.bind {x : Except CustodyHalt α} {f : α → Except CustodyHalt β} (hx : Caught x)
    (hf : ∀ a, Caught (f a)) : Caught (x >>= f) := by
  intro h
  rcases bind_eq_error_iff.mp h with h | ⟨a, -, h⟩
  · exact hx h
  · exact hf a h

theorem caught_ok (a : α) : Caught (pure a : Except CustodyHalt α) := nofun

theorem caught_ensure (p : Prop) [Decidable p] (code : AuthCustodyFailureCode) :
    Caught (ensure p (CustodyHalt.custody code)) := by
  unfold ensure Caught
  split_ifs <;> exact nofun

theorem caught_orFail (code : OsError → AuthCustodyFailureCode) (x : Except OsError α) :
    Caught (orFail code x) := by
  cases x <;> exact nofun

theorem caught_separated (x : Except AuthCustodyFailureCode Unit) : Caught (separated x) := by
  rcases x with code | ⟨⟩ <;> exact nofun

theorem caught_mapM {f : α → Except CustodyHalt β} (hf : ∀ a, Caught (f a)) (as : List α) :
    Caught (as.mapM f) := by
  induction as with
  | nil => exact caught_ok []
  | cons a as ih =>
    rw [List.mapM_cons]
    exact (hf a).bind fun _ => ih.bind fun _ => caught_ok _

theorem caught_openParent (t : Traversal) : Caught (openParent euid depth t) := by
  unfold openParent
  refine (caught_mapM (fun i => ?_) _).bind fun _ => (caught_orFail _ _).bind fun _ => caught_ok _
  exact (caught_orFail _ _).bind fun _ => (caught_ensure _ _).bind fun _ => caught_ok _

theorem caught_validateFile (s : Stat) : Caught (validateFile euid s) :=
  (caught_ensure _ _).bind fun _ => caught_ensure _ _

theorem caught_read {i : ReadInput} (hi : i.closes = true) : Caught (i.read euid depth) := by
  unfold ReadInput.read revalidateLiveName closing
  rw [hi]
  simp only [↓reduceIte]
  refine (caught_separated _).bind fun _ => (caught_openParent _).bind fun _ => ?_
  refine (caught_orFail _ _).bind fun _ => (caught_validateFile _).bind fun _ => ?_
  refine (caught_orFail _ _).bind fun _ => (caught_orFail _ _).bind fun _ => ?_
  refine (caught_validateFile _).bind fun _ => (caught_ensure _ _).bind fun _ => ?_
  refine (caught_orFail _ _).bind fun _ => (caught_orFail _ _).bind fun _ => ?_
  refine (caught_orFail _ _).bind fun _ => (caught_ensure _ _).bind fun _ => ?_
  refine Caught.bind ?_ fun _ => (caught_ensure _ _).bind fun _ => caught_ok _
  refine (caught_openParent _).bind fun _ => (caught_ensure _ _).bind fun _ => ?_
  exact (caught_orFail _ _).bind fun _ => (caught_validateFile _).bind fun _ => caught_ensure _ _

theorem caught_conclusivelyMissing {i : MissingInput} (hi : i.closes = true) :
    Caught (i.conclusivelyMissing euid depth) := by
  unfold MissingInput.conclusivelyMissing closing
  rw [hi]
  simp only [↓reduceIte]
  refine (caught_separated _).bind fun _ => (caught_openParent _).bind fun _ => ?_
  split <;> exact nofun

theorem caught_readPinned {s : OwnerFileAuthCustody} {expected : AuthCustodyBinding} {i : ReadInput}
    (hi : i.closes = true) : Caught (s.readPinned euid depth expected i) := by
  unfold OwnerFileAuthCustody.readPinned
  refine (caught_read hi).bind fun _ => Caught.bind ?_ fun _ =>
    (caught_ensure _ _).bind fun _ => caught_ok _
  cases Custody.parse _ expected <;> exact nofun

end Caught

/-! ### Calls -/

/-- The reply tells of a source, or of its absence. -/
def CustodyReply.tells : CustodyReply → Bool
  | .status .ready | .status .unprovisioned | .bundle _ => true
  | _ => false

/-- A descriptor of the call fails to close. -/
def CustodyCall.unclosed : CustodyCall → Bool
  | .status _ missing i => !missing.closes || !i.closes
  | .load _ i => !i.closes

/-- The call finds no file under the name. -/
def CustodyCall.Absent (euid depth : Nat) : CustodyCall → Prop
  | .status _ missing _ => missing.conclusivelyMissing euid depth = .ok true
  | .load _ _ => False

instance (euid depth : Nat) (c : CustodyCall) : Decidable (c.Absent euid depth) :=
  match c with
  | .status _ missing _ => inferInstanceAs (Decidable (missing.conclusivelyMissing euid depth = .ok true))
  | .load _ _ => inferInstanceAs (Decidable False)

section Calls
variable {euid depth : Nat} {s : OwnerFileAuthCustody} {expected : AuthCustodyBinding} {i : ReadInput}
  {c : CustodyCall}

/-- What one call does: nothing after a latch; else it accepts the source and pins it, latches, tells
of an absent file, or ends with an error that it does not catch. -/
theorem step_cases (s : OwnerFileAuthCustody) (c : CustodyCall) :
    (s.latched = true ∧ (s.step euid depth c).1.tells = false ∧ (s.step euid depth c).2 = s) ∨
    (s.latched = false ∧ ∃ expected i b pin, s.readPinned euid depth expected i = .ok (b, pin) ∧
      (s.step euid depth c).2 = { s with pin := some pin } ∧
      ((s.step euid depth c).1 = .status .ready ∨
        c = .load expected i ∧ (s.step euid depth c).1 = .bundle b)) ∨
    (s.latched = false ∧ (s.step euid depth c).1.tells = false ∧
      (s.step euid depth c).2 = { s with latched := true }) ∨
    (s.latched = false ∧ c.Absent euid depth ∧ (s.step euid depth c).1 = .status .unprovisioned ∧
      (s.step euid depth c).2 = s) ∨
    s.latched = false ∧ c.unclosed = true ∧ (s.step euid depth c).1 = .osError ∧
      (s.step euid depth c).2 = s := by
  cases hlatched : s.latched with
  | true =>
    refine Or.inl ⟨rfl, ?_⟩
    cases c with
    | status expected missing i =>
      simp only [OwnerFileAuthCustody.step, OwnerFileAuthCustody.status, hlatched, ↓reduceIte]
      exact ⟨rfl, trivial⟩
    | load expected i =>
      simp only [OwnerFileAuthCustody.step, OwnerFileAuthCustody.load, hlatched, ↓reduceIte]
      exact ⟨rfl, trivial⟩
  | false =>
    refine Or.inr ?_
    cases c with
    | status expected missing i =>
      simp only [OwnerFileAuthCustody.step, OwnerFileAuthCustody.status, hlatched, Bool.false_eq_true,
        ↓reduceIte, true_and]
      split
      · next hmissing => exact Or.inr (Or.inr (Or.inl ⟨hmissing, rfl, rfl⟩))
      · exact Or.inr (Or.inl ⟨rfl, rfl⟩)
      · next hos =>
        refine Or.inr (Or.inr (Or.inr ⟨?_, rfl, rfl⟩))
        have hcloses : missing.closes = false := by
          by_contra hne
          exact caught_conclusivelyMissing (Bool.eq_true_of_not_eq_false hne) hos
        rw [CustodyCall.unclosed, hcloses]
        rfl
      · split
        · next b pin hread => exact Or.inl ⟨expected, i, b, pin, hread, rfl, Or.inl rfl⟩
        · exact Or.inr (Or.inl ⟨rfl, rfl⟩)
        · next hos =>
          refine Or.inr (Or.inr (Or.inr ⟨?_, rfl, rfl⟩))
          have hcloses : i.closes = false := by
            by_contra hne
            exact caught_readPinned (Bool.eq_true_of_not_eq_false hne) hos
          rw [CustodyCall.unclosed, hcloses, Bool.not_false, Bool.or_true]
    | load expected i =>
      simp only [OwnerFileAuthCustody.step, OwnerFileAuthCustody.load, hlatched, Bool.false_eq_true,
        ↓reduceIte, true_and]
      split
      · next b pin hread => exact Or.inl ⟨expected, i, b, pin, hread, rfl, Or.inr ⟨rfl, rfl⟩⟩
      · exact Or.inr (Or.inl ⟨rfl, rfl⟩)
      · next hos =>
        refine Or.inr (Or.inr (Or.inr ⟨?_, rfl, rfl⟩))
        have hcloses : i.closes = false := by
          by_contra hne
          exact caught_readPinned (Bool.eq_true_of_not_eq_false hne) hos
        rw [CustodyCall.unclosed, hcloses]
        rfl

end Calls

/-! ### Runs -/

section Runs
variable (euid depth : Nat)

/-- The digests of the contents that are read do not collide. -/
def NoCollision (calls : List CustodyCall) : Prop :=
  ∀ expected expected' i i' payload payload' pin pin', .load expected i ∈ calls →
    .load expected' i' ∈ calls → i.read euid depth = .ok (payload, pin) →
      i'.read euid depth = .ok (payload', pin') →
        Sha256.digest payload = Sha256.digest payload' → payload = payload'

variable {euid depth}

end Runs

/-! ### A source that is away for one look -/

namespace OwnerFileAuthCustody.Sample

def id (n : UInt8) : OpaqueId :=
  ⟨⟨List.replicate 6 n ++ [0x40, n, 0x80] ++ List.replicate 7 n, by simp⟩, by simp [Uuid.isV4]⟩

def binding : AuthCustodyBinding := ⟨id 1, id 2, id 3⟩

def payload : Bytes :=
  Custody.magic ++ [1, 5] ++ [0, 0, 0, 0, 0, 0, 0, 1] ++
    ([id 1, id 2, id 3].map fun i => i.value.bytes).flatten ++
    ([1, 2, 10, 11, 12].map fun tag => tag :: (id tag).value.bytes ++ List.replicate 32 tag).flatten

def directory : Stat := ⟨1, 2, 0o040700, 1000, 2, 4096, 0, 0⟩

def file : Stat := ⟨1, 3, 0o100600, 1000, 1, Custody.fileBytes, 0, 0⟩

def walk : Traversal := ⟨fun _ => .ok directory, .ok directory⟩

def reading : ReadInput where
  separation := .ok ()
  before := walk
  named := .ok file
  opens := .ok ()
  opened := .ok file
  chunks := [.ok payload, .ok []]
  after := .ok file
  afterParent := .ok directory
  live := walk
  liveNamed := .ok file
  closes := true

def custody (calls : List CustodyCall) : OwnerFileAuthCustody :=
  run (OwnerFileAuthCustody.step 1000 1) {} calls

/-- Another file stands under the name. -/
def replaced : CustodyCall :=
  let file' := { file with inode := 4 }
  .load binding { reading with
    named := .ok file'
    opened := .ok file'
    after := .ok file'
    liveNamed := .ok file' }

end OwnerFileAuthCustody.Sample

end MyCogni.Auth
