import MyCogni.Base.Json
import MyCogni.Base.Program

/-! The synthetic preview, as the calls it makes into its state directory. Any number of calls of
`initialize` and `health` share the directory; each file operation is one step of it, and has a fate
of its own. -/

namespace MyCogni.Preview

/-! ### The state directory -/

/-- `MARKER_NAME`, `TEMP_MANIFEST_NAME`, `MANIFEST_NAME`, and names the program does not own. -/
inductive Name where
  | marker
  | temporary
  | manifest
  | other (t : Text)
deriving DecidableEq

/-- A regular file of the effective user. -/
structure File where
  bytes : Bytes := []
  mode : Nat
  /-- A record that no function reads. -/
  createdAs : Name
deriving DecidableEq

/-- The files that the names stand for; a file stays as long as it is open. -/
structure Directory where
  marker : Option Nat := none
  temporary : Option Nat := none
  manifest : Option Nat := none
  others : List Text := []
  files : List File := []
deriving DecidableEq

namespace Directory

def link (d : Directory) : Name → Option Nat
  | .marker => d.marker
  | .temporary => d.temporary
  | .manifest => d.manifest
  | .other _ => none

def setLink (d : Directory) (n : Name) (i : Option Nat) : Directory :=
  match n with
  | .marker => { d with marker := i }
  | .temporary => { d with temporary := i }
  | .manifest => { d with manifest := i }
  | .other _ => d

def entries (d : Directory) : List Name :=
  ([.marker, .temporary, .manifest].filter fun n => (d.link n).isSome) ++ d.others.map .other

/-- `st_nlink` -/
def links (d : Directory) (i : Nat) : Nat :=
  ([d.marker, d.temporary, d.manifest].filter (· = some i)).length

def modify (d : Directory) (i : Nat) (f : File → File) : Directory :=
  { d with files := d.files.modify i f }

end Directory

/-! ### Its operations -/

inductive OsError where
  | fileExists
  | fileNotFound
  | exhausted
  | other
deriving DecidableEq

inductive PreviewReason where
  | notInitialized
  | initializationIncomplete
  | unsafeStorage
  | stateIncompatible
  | stateBusy
  | storageExhausted
  | storageIoFailure
deriving DecidableEq

inductive Fault where
  | preview (reason : PreviewReason)
  | osError (e : OsError)
  /-- An error of `json.loads` that is no `JSONDecodeError`. -/
  | valueError
deriving DecidableEq

structure Stat where
  mode : Nat
  links : Nat
  size : Nat
deriving DecidableEq

inductive Op where
  | openDirectory
  | list
  | create (n : Name)
  | openFile (n : Name)
  | stat (i : Nat)
  | chmod (i : Nat)
  | write (i : Nat) (payload : Bytes)
  | read (i : Nat) (offset wanted : Nat)
  | sync (i : Nat)
  | close (i : Nat)
  | rename (source target : Name)
  | unlink (n : Name)
  | syncDirectory
  | closeDirectory

abbrev Value : Op → Type
  | .list => List Name
  | .create _ | .openFile _ => Nat
  | .stat _ => Stat
  | .write _ _ => Nat
  | .read _ _ _ => Bytes
  | _ => Unit

/-- What an operation returns or raises. -/
abbrev Reply (o : Op) : Type := Except Fault (Value o)

/-- An operation fails, or it is done; a write is cut after so many bytes, and a read returns at most
so many, but at least one. -/
inductive Fate where
  | fails (e : OsError)
  | done (bytes : Nat)

/-- The mode that the `umask` leaves of `0o600`. -/
structure Host where
  newMode : Nat
  /-- `json.loads(raw) == MANIFEST`, where it does not raise `UnicodeDecodeError` or
  `JSONDecodeError`. -/
  loadsManifest : Bytes → Except Fault Bool

def execDone (host : Host) (bytes : Nat) : (o : Op) → Directory → Reply o × Directory
  | .list, d => (.ok d.entries, d)
  | .create n, d =>
    match d.link n with
    | some _ => (.error (.osError .fileExists), d)
    | none =>
      (.ok d.files.length, { d.setLink n (some d.files.length) with
        files := d.files ++ [⟨[], host.newMode, n⟩] })
  | .openFile n, d =>
    match d.link n with
    | some i => (.ok i, d)
    | none => (.error (.osError .fileNotFound), d)
  | .stat i, d =>
    match d.files[i]? with
    | some f => (.ok ⟨f.mode, d.links i, f.bytes.length⟩, d)
    | none => (.error (.osError .other), d)
  | .chmod i, d => (.ok (), d.modify i fun f => { f with mode := 0o600 })
  | .write i payload, d =>
    (.ok (payload.take bytes).length,
      d.modify i fun f => { f with bytes := payload.take bytes ++ f.bytes.drop bytes })
  | .read i offset wanted, d =>
    match d.files[i]? with
    | some f => (.ok ((f.bytes.drop offset).take (min wanted (max 1 bytes))), d)
    | none => (.error (.osError .other), d)
  | .rename source target, d =>
    match d.link source with
    | some i => (.ok (), (d.setLink source none).setLink target (some i))
    | none => (.error (.osError .fileNotFound), d)
  | .unlink n, d =>
    match d.link n with
    | some _ => (.ok (), d.setLink n none)
    | none => (.error (.osError .fileNotFound), d)
  | .openDirectory, d | .sync _, d | .close _, d | .syncDirectory, d | .closeDirectory, d =>
    (.ok (), d)

def exec (host : Host) (o : Op) (fate : Fate) (d : Directory) : Reply o × Directory :=
  match fate with
  | .fails e => (.error (.osError e), d)
  | .done bytes => execDone host bytes o d

/-! ### The program -/

abbrev Act (α : Type) : Type := ExceptT Fault (Program Op Reply) α

namespace Act

variable {α : Type}

def sys (o : Op) : Act (Value o) := ExceptT.mk (Program.lift o)

def demand (c : Prop) [Decidable c] (e : Fault) : Act Unit := if c then pure () else throw e

/-- `except ...: raise ...` -/
def translating (f : Fault → Fault) (p : Act α) : Act α :=
  ExceptT.mk (p.run >>= fun r => pure (r.mapError f))

/-- `finally: os.close(...)`: an error of it takes the place of the result. -/
def closing (o : Op) (p : Act α) : Act α :=
  ExceptT.mk (p.run >>= fun r => Program.lift o >>= fun c =>
    match c with
    | .error e => pure (.error e)
    | .ok _ => pure r)

end Act

open Act

def incompatible : Fault := .preview .stateIncompatible

/-- `_directory_fd` -/
def directoryFailure : Fault → Fault
  | .osError .exhausted => .preview .storageExhausted
  | .osError _ => .preview .unsafeStorage
  | e => e

def managedFailure : Fault → Fault
  | .osError .fileNotFound => .preview .notInitialized
  | .osError _ => incompatible
  | e => e

/-- The loop of reads: as long as bytes remain, of which each round takes at least one. -/
def readAll (i : Nat) : Nat → Nat → Bytes → Act Bytes
  | _, 0, data | 0, _, data => pure data
  | rounds + 1, remaining, data => do
    let chunk ← sys (.read i data.length (min remaining 8192))
    if chunk = [] then pure data
    else readAll i rounds (remaining - chunk.length) (data ++ chunk)

/-- `_managed_file`, once the file is open. -/
def readManaged (i limit : Nat) : Act Bytes := do
  let metadata ← sys (.stat i)
  demand (metadata.mode = 0o600 ∧ metadata.links = 1 ∧ metadata.size ≤ limit) incompatible
  let data ← readAll i (limit + 1) (limit + 1) []
  demand (data.length ≤ limit) incompatible
  pure data

/-- `_managed_file` -/
def managedFile (n : Name) (limit : Nat) : Act Bytes := do
  let i ← translating managedFailure (sys (.openFile n))
  closing (.close i) (translating managedFailure (readManaged i limit))

/-- `MANIFEST` -/
def manifest : Json :=
  .obj [("external_capabilities".toList, .str "absent".toList),
    ("fixture_profile".toList, .str "reserved-domain-simulator-v1".toList),
    ("format_version".toList, .int 1),
    ("profile".toList, .str "developer_preview_synthetic_only".toList)]

/-- `_canonical(MANIFEST) + b"\n"` -/
def manifestPayload : Bytes := manifest.sortKeys.text.encode ++ [10]

def markerPayload : Bytes := ascii "\x7b\"format_version\":1\x7d" ++ [10]

structure HealthCheck where
  id : String
  reason : String
  status : String
deriving DecidableEq

inductive Overall where
  | initialized
  | alreadyInitialized
  | syntheticReady
deriving DecidableEq

structure PreviewReport where
  command : String
  overall : Overall
  checks : List HealthCheck
deriving DecidableEq

/-- `_checks` -/
def checks : List HealthCheck :=
  [⟨"state_layout", "ready", "pass"⟩, ⟨"fixtures", "verified", "pass"⟩,
    ⟨"authentication", "not_composed", "not_applicable"⟩,
    ⟨"key_custody", "not_composed", "not_applicable"⟩,
    ⟨"external_actions", "unavailable_by_composition", "not_applicable"⟩,
    ⟨"runtime_network_containment", "not_proven", "not_applicable"⟩]

section Host
variable (host : Host)

/-- `_read_exact_manifest` -/
def readExactManifest (n : Name) : Act Unit := do
  let raw ← managedFile n 4096
  let same ← ExceptT.mk (pure (host.loadsManifest raw))
  demand (same = true ∧ raw = manifestPayload) incompatible

/-- A new file, with its content. -/
def createFile (n : Name) (payload : Bytes) : Act Unit := do
  let i ← sys (.create n)
  closing (.close i) do
    sys (.chmod i)
    let written ← sys (.write i payload)
    demand (written = payload.length) (.osError .other)
    sys (.sync i)

/-- The marker is there, as it is written here. -/
def ensureMarker (entries : List Name) : Act Unit :=
  if .marker ∉ entries then do
    createFile .marker markerPayload
    sys .syncDirectory
  else do
    let raw ← managedFile .marker 128
    demand (raw = markerPayload) incompatible

/-- The temporary manifest is there, as it is written here. -/
def ensureTemporary (entries : List Name) : Act Unit :=
  if .temporary ∉ entries then createFile .temporary manifestPayload
  else readExactManifest host .temporary

/-- The manifest is there, by a rename of the temporary one where it was not. -/
def ensureManifest (entries : List Name) : Act Unit :=
  if .manifest ∈ entries then do
    readExactManifest host .manifest
    demand (.temporary ∉ entries) incompatible
  else do
    ensureTemporary host entries
    sys (.rename .temporary .manifest)
    sys .syncDirectory
    readExactManifest host .manifest

def Name.owned : Name → Bool
  | .other _ => false
  | _ => true

/-- What `initialize` does on the entries it has found. The packaged fixtures verify. -/
def initializeEntries (entries : List Name) : Act PreviewReport :=
  if entries = [.manifest] then do
    readExactManifest host .manifest
    pure ⟨"synthetic.init", .alreadyInitialized, checks⟩
  else do
    demand (entries.all Name.owned ∧ (entries = [] ∨ .marker ∈ entries)) incompatible
    ensureMarker entries
    ensureManifest host entries
    sys (.unlink .marker)
    sys .syncDirectory
    pure ⟨"synthetic.init", .initialized, checks⟩

def storageFailure : Fault → Fault
  | .osError .fileExists => .preview .stateBusy
  | .osError .exhausted => .preview .storageExhausted
  | .osError _ => .preview .storageIoFailure
  | e => e

/-- `initialize` -/
def initializeState : Act PreviewReport := do
  translating directoryFailure (sys .openDirectory)
  closing .closeDirectory (translating storageFailure do
    let entries ← sys .list
    initializeEntries host entries)

/-- What `health` says on the entries it has found. -/
def healthEntries (entries : List Name) : Act PreviewReport := do
  demand (.marker ∉ entries ∧ .temporary ∉ entries) (.preview .initializationIncomplete)
  demand (entries ≠ []) (.preview .notInitialized)
  demand (entries = [.manifest]) incompatible
  readExactManifest host .manifest
  pure ⟨"synthetic.health", .syntheticReady, checks⟩

/-- The directory is there, so that a failure to open it is reported as it is. -/
def health : Act PreviewReport := do
  translating directoryFailure (sys .openDirectory)
  closing .closeDirectory do
    let entries ← sys .list
    healthEntries host entries

/-! ### Many calls -/

inductive Command where
  | initializeState
  | health
deriving DecidableEq

def Command.program : Command → Program Op Reply (Except Fault PreviewReport)
  | .initializeState => (Preview.initializeState host).run
  | .health => (Preview.health host).run

abbrev System := Pool Op Reply (Except Fault PreviewReport) Directory

abbrev System.step (s : System) (t : Turn Command Fate) : Unit × System :=
  Pool.step (exec host) (fun c _ => c.program host) s t

end Host

end MyCogni.Preview
