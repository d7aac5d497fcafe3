import Vokusz.Automod.Compatibility
import Vokusz.Automod.Denylist

namespace Vokusz.Automod

open Db Permissions
open Lib (Prog Task Pool Table.lookup)

section

variable {ι : Type} [DecidableEq ι] {m : Originals} {s t : AppState} {op : Operation}
  {held : Mutex → Prop} {id : String}

theorem Change.commit_of_status (h : Change op held s t) (hworker : op.worker = true)
    (hchanged : statusOf id (rowsOf t).uploads ≠ statusOf id (rowsOf s).uploads) :
    ∃ c result requested reason, Ruled c s result requested reason ∧ c.upload.id = id ∧
      Lib.Table.lookup AutomodUpload.id id (rowsOf t).uploads = some (c.decides c.upload) := by
  have hsame : (rowsOf t).uploads = (rowsOf s).uploads → False := by
    intro huploads
    rw [huploads] at hchanged
    exact hchanged rfl
  cases h with
  | aside hrows hfiles => exact (hsame (by rw [hrows])).elim
  | commits c hop hprocessing hpublication hrefusal hreleases hknown hruled hrows =>
    obtain ⟨result, requested, reason, hc⟩ := hruled hworker
    have huploads : (rowsOf t).uploads = (c.effect s.db).automodUploads := by
      rw [hrows]
      rfl
    have hlookup := lookup_effect c s.db id
    by_cases hid : c.upload.id = id
    · refine ⟨c, result, requested, reason, hc, hid, ?_⟩
      have hrow : Lib.Table.lookup AutomodUpload.id id s.db.automodUploads = some c.upload :=
        hid ▸ hc.row
      rw [huploads, hlookup, hrow]
      simp [Commit.current]
    · have hother : statusOf id (rowsOf t).uploads = statusOf id (rowsOf s).uploads := by
        unfold statusOf
        rw [huploads, hlookup]
        cases hfound : Lib.Table.lookup AutomodUpload.id id s.db.automodUploads with
        | none => simp [rowsOf, hfound]
        | some u =>
          have hu : u.id = id := Lib.Table.lookup_key hfound
          have hne : u.id ≠ c.upload.id := fun heq => hid (heq.symm.trans hu)
          simp [rowsOf, hfound, Commit.current, hne]
      exact absurd hother hchanged
  | configures hop hprocessing hother huploads hurls hdeletions hstorage => exact (hsame huploads).elim
  | notes f hop hheld hf hrows =>
    rw [hrows] at hchanged
    exact absurd (statusOf_map (fun u => ⟨(hf u).1, (hf u).2.2⟩) _) hchanged
  | removes keep deletions hop hkept hqueued hrows => exact (hsame (by rw [hrows])).elim
  | unlinks url path hop hurl hqueued hgone hpath hroot hrows hfiles => exact (hsame (by rw [hrows])).elim
  | unqueues url hop hpublication hrows hfiles => exact (hsame (by rw [hrows])).elim

end

def waiting (s : AppState) (m : Originals) :
    Pool Nat Operation Mutex AppState AppError (Option Bool) :=
  Pool.set { state := s } 0 (some (.process noScanner 2, Operation.program m (.process noScanner 2)))

def orphaned : AppState :=
  (chatUnder []).withDb { (chatUnder []).db with messages := [] }

end Vokusz.Automod
