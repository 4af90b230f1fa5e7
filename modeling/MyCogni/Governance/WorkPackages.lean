import MyCogni.Base.Dict
import MyCogni.Base.Search
import MyCogni.Persistence.Mounts
import Mathlib.Data.Finset.Sort

/-! The tables of the work packages, as the guard of the repository reads them: their rows, the
dependencies in them and the search for cycles. -/

namespace MyCogni.Governance
open Auth (strip)
open Persistence (splitlines)

/-! ### Rows -/

def tableHeader : Text :=
  "| ID | Lane | Package | Depends on | Estimate | Acceptance evidence |".toList

def tableSeparator : Text := "| ---".toList

/-- `line.strip("|")` -/
def stripBars (line : Text) : Text := ((line.dropWhile (· = '|')).reverse.dropWhile (· = '|')).reverse

def cells (line : Text) : List Text := ((stripBars line).splitOn '|').map strip

def isUpper (c : Char) : Bool := 'A' ≤ c && c ≤ 'Z'

/-- `[A-Z][A-Z0-9-]+` -/
def isPackageId : Text → Bool
  | c :: d :: rest => isUpper c && (d :: rest).all fun c => isUpper c || '0' ≤ c && c ≤ '9' || c == '-'
  | _ => false

/-- The dependencies in a cell. -/
def dependencies (cell : Text) : Finset Text :=
  if cell = "—".toList then ∅ else ((cell.splitOn ',').map strip).toFinset

def rowId (line : Text) : Text := (cells line).getD 0 []

def rowDependencies (line : Text) : Finset Text := dependencies ((cells line).getD 3 [])

/-- A row has six cells, of which the first is an identifier. -/
def IsRow (line : Text) : Prop := (cells line).length = 6 ∧ isPackageId (rowId line) = true

instance (line : Text) : Decidable (IsRow line) := inferInstanceAs (Decidable (_ ∧ _))

/-! ### The lines of a document -/

structure Parsing where
  packages : Dict Text (Finset Text) := Dict.empty
  canonicalRows : Dict Text Text := Dict.empty
  errors : List Text := []
  inTable : Bool := false

/-- The names in order. -/
def sorted (names : Finset Text) : List Text := names.sort

def dependencyCycle (chain : List Text) : Text :=
  "work-package dependency cycle: ".toList ++ " -> ".toList.intercalate chain

/-- `sorted(packages.get(node, set()))` -/
def successors (packages : Dict Text (Finset Text)) (node : Text) : List Text :=
  sorted ((packages.get? node).getD ∅)

/-- `visit` from each of the packages; no chain has more packages than there are. -/
def visitAll (packages : Dict Text (Finset Text)) (errors : List Text) : List Text :=
  (Search.search (successors packages) dependencyCycle (packages.size + 1)
    (sorted packages.keys.toFinset) errors).errors

/-- The rows among the lines, where a table goes on or not. -/
def rowsFrom : Bool → List Text → List Text
  | _, [] => []
  | inTable, line :: lines =>
    if line = tableHeader then rowsFrom true lines
    else if inTable = false then rowsFrom false lines
    else if line.head? ≠ some '|' then rowsFrom false lines
    else if tableSeparator.isPrefixOf line = true then rowsFrom true lines
    else line :: rowsFrom true lines

/-- A line that may be a row: it starts with a bar, and is no header and no separator. -/
def MayBeRow (line : Text) : Prop :=
  line ≠ tableHeader ∧ line.head? = some '|' ∧ tableSeparator.isPrefixOf line = false

/-- The lines end in a table: only lines that start with a bar follow its header, or, where a table was
open, only such lines follow. -/
def Under (inTable : Bool) (lines : List Text) : Prop :=
  inTable = true ∧ (∀ line ∈ lines, line.head? = some '|') ∨
    ∃ above between, lines = above ++ tableHeader :: between ∧ ∀ line ∈ between, line.head? = some '|'

/-- Whether a table is open after one more line. -/
def staysIn (inTable : Bool) (line : Text) : Bool :=
  if line = tableHeader then true else inTable && decide (line.head? = some '|')

theorem under_nil {inTable : Bool} : Under inTable [] ↔ inTable = true := by
  simp [Under]

theorem under_cons {inTable : Bool} {line : Text} {lines : List Text} :
    Under inTable (line :: lines) ↔ Under (staysIn inTable line) lines := by
  constructor
  · rintro (⟨hin, hall⟩ | ⟨above, between, hsplit, hall⟩)
    · refine Or.inl ⟨?_, fun l hl => hall l (List.mem_cons_of_mem line hl)⟩
      rw [staysIn, hin, hall line List.mem_cons_self]
      simp
    · cases above with
      | nil =>
        obtain ⟨rfl, rfl⟩ := List.cons.inj hsplit
        exact Or.inl ⟨if_pos rfl, hall⟩
      | cons first above =>
        obtain ⟨-, rfl⟩ := List.cons.inj hsplit
        exact Or.inr ⟨above, between, rfl, hall⟩
  · rintro (⟨hin, hall⟩ | ⟨above, between, rfl, hall⟩)
    · by_cases hheader : line = tableHeader
      · exact Or.inr ⟨[], lines, by rw [hheader, List.nil_append], hall⟩
      · rw [staysIn, if_neg hheader, Bool.and_eq_true, decide_eq_true_eq] at hin
        refine Or.inl ⟨hin.1, fun l hl => ?_⟩
        rcases List.mem_cons.mp hl with rfl | hl
        · exact hin.2
        · exact hall l hl
    · exact Or.inr ⟨line :: above, between, rfl, hall⟩

theorem mem_rowsFrom_cons {inTable : Bool} {line row : Text} {lines : List Text} :
    row ∈ rowsFrom inTable (line :: lines) ↔
      (row = line ∧ MayBeRow line ∧ inTable = true) ∨ row ∈ rowsFrom (staysIn inTable line) lines := by
  rw [rowsFrom, MayBeRow, staysIn]
  split_ifs with hheader hin hbar hseparator
  · simp [hheader]
  · simp [hheader, hin]
  · simp [hheader, hbar]
  · simp [hheader, not_not.mp hbar, hseparator, hin]
  · simp [hheader, not_not.mp hbar, hseparator, hin]

/-- The rows are the lines under a header, with nothing but lines that start with a bar between. -/
theorem mem_rowsFrom {inTable : Bool} {lines : List Text} {row : Text} :
    row ∈ rowsFrom inTable lines ↔
      MayBeRow row ∧ ∃ before after, lines = before ++ row :: after ∧ Under inTable before := by
  induction lines generalizing inTable with
  | nil => simp [rowsFrom]
  | cons line lines ih =>
    rw [mem_rowsFrom_cons, ih]
    constructor
    · rintro (⟨rfl, hrow, hin⟩ | ⟨hrow, before, after, rfl, hunder⟩)
      · exact ⟨hrow, [], lines, rfl, under_nil.mpr hin⟩
      · exact ⟨hrow, line :: before, after, rfl, under_cons.mpr hunder⟩
    · rintro ⟨hrow, before, after, hsplit, hunder⟩
      cases before with
      | nil =>
        obtain ⟨rfl, rfl⟩ := List.cons.inj hsplit
        exact Or.inl ⟨rfl, hrow, under_nil.mp hunder⟩
      | cons first before =>
        obtain ⟨rfl, rfl⟩ := List.cons.inj hsplit
        exact Or.inr ⟨hrow, before, after, rfl, under_cons.mp hunder⟩

section Lines
variable {s : Parsing}

/-- Without errors, the packages so far are those of the rows so far. -/
structure Reads (rows : List Text) (s : Parsing) : Prop where
  errors : s.errors = [] ↔ (∀ row ∈ rows, IsRow row) ∧ (rows.map rowId).Nodup
  packages : s.errors = [] → s.packages.entries = rows.map fun row => (rowId row, rowDependencies row)

theorem Reads.keys {rows : List Text} (h : Reads rows s) (herrors : s.errors = []) :
    s.packages.keys = rows.map rowId := by
  rw [Dict.keys, h.packages herrors, List.map_map]
  rfl

end Lines

/-! ### What is reported -/

theorem mem_sorted {name : Text} {names : Finset Text} : name ∈ sorted names ↔ name ∈ names :=
  Finset.mem_sort _

theorem mem_successors {packages : Dict Text (Finset Text)} {p d : Text} :
    d ∈ successors packages p ↔ ∃ deps, (p, deps) ∈ packages.entries ∧ d ∈ deps := by
  rw [successors, mem_sorted]
  simp only [← Dict.get?_eq_some]
  cases packages.get? p with
  | none => simp
  | some deps => simp

theorem mem_keys_of_successors {packages : Dict Text (Finset Text)} (p : Text)
    (hp : successors packages p ≠ []) : p ∈ packages.keys.toFinset := by
  obtain ⟨d, hd⟩ := List.exists_mem_of_ne_nil _ hp
  obtain ⟨deps, hentry, -⟩ := mem_successors.mp hd
  exact List.mem_toFinset.mpr (List.mem_map.mpr ⟨_, hentry, rfl⟩)

theorem card_keys_lt {packages : Dict Text (Finset Text)} :
    packages.keys.toFinset.card < packages.size + 1 := by
  have hcard := packages.keys.toFinset_card_le
  rw [Dict.length_keys] at hcard
  omega

/-- The bound on the depth of the search is none. -/
theorem visitAll_depth {packages : Dict Text (Finset Text)} {depth : Nat} (h : packages.size < depth)
    (errors : List Text) : (Search.search (successors packages) dependencyCycle depth
      (sorted packages.keys.toFinset) errors).errors = visitAll packages errors := by
  rw [visitAll, Search.search_depth mem_keys_of_successors card_keys_lt h]

end MyCogni.Governance
