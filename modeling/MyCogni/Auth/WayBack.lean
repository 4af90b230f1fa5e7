import MyCogni.Auth.Durable
import MyCogni.Auth.Roots

/-! The offline way back. In every durable state each installation has one unconsumed root to
reprovision it, and only a reprovision that succeeds replaces it. -/

namespace MyCogni.Auth

/-- Setup registers roots that are not spent. -/
def Op.SetsUpUnspent : Op → Prop
  | initializeInstallation _ _ _ records _ _ _ => ∀ r ∈ records, r.Unspent
  | _ => True

def Input.SetsUpUnspent : Input → Prop
  | decision _ call _ => call.1.SetsUpUnspent
  | _ => True

section Store
variable {new : Issue → Prop} {s s' : Store} {op : Op}

theorem authorizes_unspent (hop : op.SetsUpUnspent) {r : RootCapabilityRecord}
    (h : Authorizes s op (.root r)) : r.Unspent := by
  cases op <;> try exact h.elim
  case initializeInstallation => exact hop r h
  case exchangeReprovisionBootstrap =>
    obtain ⟨_, _, _, _, _, _, rfl⟩ := h
    exact ⟨rfl, rfl⟩

theorem apply_moves_quiet (hraise : ¬Raises s op) :
    Moves (Issues s op) False s (apply s op).2 :=
  Moves.mono (fun _ => id) (fun h => hraise h) (apply_moves s op)

/-- A call that does not raise keeps the way back of every installation. -/
theorem Anchored.apply (hs : Anchored s) (hop : op.SetsUpUnspent) (hraise : ¬Raises s op) :
    Anchored (Auth.apply s op).2 :=
  Moves.preserves (fun _ _ h => Move.anchored (fun _ hr => authorizes_unspent hop hr.1) h)
    (apply_moves_quiet hraise) hs

/-- A denial, or a collection, keeps the root to reprovision an installation as it is. -/
theorem Anchor.apply {i : OpaqueId} {r : RootCapabilityRecord} (hr : Anchor s i r)
    (hraise : ¬Raises s op)
    (h : (∃ d, (Auth.apply s op).1 = .error (.denied d)) ∨ ∃ now n, op = .garbageCollect now n) :
    Anchor (Auth.apply s op).2 i r := by
  have hnew : ∀ r, ¬Issues s op (.root r) := by
    rintro r' ⟨hauth, hvalue⟩
    rcases h with ⟨d, hd⟩ | ⟨now, n, rfl⟩
    · rcases hvalue with ⟨v, hv⟩ | ⟨hv, -⟩
      · exact nomatch hd.symm.trans hv
      · exact nomatch hd.symm.trans hv
    · exact hauth
  exact Moves.preserves (fun _ _ h hr => Move.keeps_anchor hnew h hr) (apply_moves_quiet hraise) hr

end Store

/-! ### Durable states -/

section Durable
variable {R : Reader} {ops : List Op} {r : Runtime}

end Durable

/-- The one root to reprovision the installation, under a handle of its own. -/
structure Rooted (s : Store) (i : OpaqueId) (r : RootCapabilityRecord) : Prop where
  anchor : Anchor s i r
  only : ∀ r' ∈ s.roots.rows, r'.installationId = i → r'.purpose = .reprovision →
    r'.consumed = false → r' = r
  amongRoots : ∀ r' ∈ s.roots.rows, r' ≠ r → r'.handle ≠ r.handle
  amongIdentities : ∀ c ∈ s.compositionBindings.rows,
    r.handle ≠ c.operatorHandle ∧ r.handle ≠ c.serviceHandle

theorem Anchor.rooted {s : Store} {i : OpaqueId} {r : RootCapabilityRecord} (hr : Anchor s i r)
    (hsole : Sole s) (hauthorities : s.authorityHandles.Nodup) : Rooted s i r := by
  have hmem : r ∈ s.roots.rows := Table.mem_rows.mpr hr.found
  have heq : ∀ r' ∈ s.roots.rows, r'.handle = r.handle → r' = r := by
    intro r' hr' hsame
    have hget := Table.mem_rows.mp hr'
    rw [hsame, hr.found] at hget
    exact (Option.some.inj hget).symm
  refine ⟨hr, fun r' hr' hinst hpurpose hlive => ?_, fun r' hr' hne hsame => ?_, fun c hc => ?_⟩
  · refine heq r' hr' ?_
    exact hsole r'.handle r.handle r' r (Table.mem_rows.mp hr') hr.found hlive hr.unspent.1
      (hinst.trans hr.installation.symm) (hpurpose.trans hr.purpose.symm)
  · exact hne (heq r' hr' hsame)
  · have hdisjoint := (List.nodup_append.mp hauthorities).2.2
    have hroot : r.handle ∈ s.roots.rows.map (·.handle) := List.mem_map_of_mem hmem
    refine ⟨hdisjoint _ hroot _ ?_, hdisjoint _ hroot _ ?_⟩
    · exact List.mem_flatMap.mpr ⟨c, hc, by simp⟩
    · exact List.mem_flatMap.mpr ⟨c, hc, by simp⟩

section Run
variable {R : Reader} {is : List Input}

end Run

namespace Sample

end Sample

end MyCogni.Auth
