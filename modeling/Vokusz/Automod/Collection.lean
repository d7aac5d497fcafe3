import Vokusz.Automod.Withholding

namespace Vokusz.Automod

open Db Permissions
open Lib (Prog Task Pool Table.lookup)
open Storage (PlainName StoredAs fileOf)

section

variable {op : Operation} {held : Mutex → Prop} {s t : AppState}

def Queued (s : AppState) : Prop :=
  ∀ url ∈ (rowsOf s).deletions, localUrl url = true → ∃ id, StoredAs id url

theorem Queued.of_rows (hq : Queued s) (h : Withholding s)
    (hqueued : ∀ url ∈ (rowsOf t).deletions,
      url ∈ (rowsOf s).deletions ∨ ∃ a ∈ (rowsOf s).attachments, a.url = url) : Queued t := by
  intro url hurl hlocal
  rcases hqueued url hurl with hold | ⟨a, ha, rfl⟩
  · exact hq url hold hlocal
  · exact ⟨a.id, h.stored a ha hlocal⟩

theorem Queued.same (hq : Queued s) (hdeletions : (rowsOf t).deletions = (rowsOf s).deletions) :
    Queued t := by
  unfold Queued
  rwa [hdeletions]

theorem Queued.change (hq : Queued s) (h : Withholding s) (hchange : Change op held s t) :
    Queued t := by
  cases hchange with
  | aside hrows hfiles => exact hq.same (by rw [hrows])
  | commits c hop hprocessing hpublication hrefusal hreleases hknown hruled hrows =>
    refine hq.of_rows h (fun url hurl => ?_)
    rw [hrows] at hurl
    change url ∈ (if withdraws c.upload c.status then c.withdrawn s.db else s.db).attachmentDeletions
      at hurl
    split at hurl
    · exact (queueDeletions_mem hurl).imp_right
        (fun ⟨a, ha, hsame⟩ => ⟨a, (List.mem_filter.mp ha).1, hsame⟩)
    · exact .inl hurl
  | configures hop hprocessing hworker huploads hurls hdeletions hstorage => exact hq.same hdeletions
  | notes f hop hheld hf hrows => exact hq.same (by rw [hrows])
  | removes keep deletions hop hkept hqueued hrows =>
    refine hq.of_rows h (fun url hurl => ?_)
    rw [hrows] at hurl
    exact hqueued url hurl
  | unlinks url path hop hurl hqueued hgone hpath hroot hrows hfiles => exact hq.same (by rw [hrows])
  | unqueues url hop hpublication hrows hfiles =>
    refine hq.of_rows h (fun u hu => ?_)
    rw [hrows] at hu
    exact .inl (List.mem_filter.mp hu).1

structure Collecting (s : AppState) : Prop where
  withholding : Withholding s
  queued : Queued s

theorem Collecting.change (h : Collecting s) (hchange : Change op held s t) : Collecting t :=
  ⟨h.withholding.change hchange, h.queued.change h.withholding hchange⟩

theorem Collecting.elsewhere (h : Collecting s) (helse : Elsewhere s t) : Collecting t :=
  ⟨h.withholding.elsewhere helse, h.queued.of_rows h.withholding helse.queued⟩

theorem Collecting.unlink (h : Collecting s) {url : String} {path : Storage.FilePath}
    {files : List Storage.FilePath} (hlocal : localUrl url = true)
    (hqueued : url ∈ (rowsOf s).deletions) (hgone : ∀ a ∈ (rowsOf s).attachments, a.url ≠ url)
    (hpath : Storage.canonicalTarget (rowsOf s).storagePath files url = .ok path)
    (hroot : (rowsOf s).storagePath.isPrefixOf path = true) :
    path = fileOf s.storagePath url ∧
      ∀ a ∈ (rowsOf s).attachments, localUrl a.url = true → fileOf s.storagePath a.url ≠ path := by
  obtain ⟨id, hstored⟩ := h.queued url hqueued hlocal
  have hfile : path = fileOf s.storagePath url := hstored.target hpath hroot
  refine ⟨hfile, fun a ha hlocal' hsame => hgone a ha ?_⟩
  exact (h.withholding.stored a ha hlocal').eq_of_file hstored (hsame.trans hfile)

end

section

variable {ι : Type} [DecidableEq ι] {m : Originals}
  {c : Pool ι Operation Mutex AppState AppError (Option Bool)} {s₀ : AppState}

theorem collecting_run (hslash : m.isAlphanumeric '/' = false) (h₀ : Collecting s₀)
    (hrun : Pool.Run (Operation.program m) Exclusive Elsewhere { state := s₀ } c) :
    Collecting c.state :=
  Pool.invariant (compatible hslash) (fun _ _ _ _ hchange h => h.change hchange)
    (fun _ _ helse h => h.elsewhere helse) h₀ hrun

theorem drain_spares_live_files (hslash : m.isAlphanumeric '/' = false) (h₀ : Collecting s₀)
    (hrun : Pool.Run (Operation.program m) Exclusive Elsewhere { state := s₀ } c) {i : ι}
    {p q : Work (Option Bool)} {t : AppState} (hi : c.threads i = some (.drain, p))
    (hmove : Task.Moves (p, c.state) (q, t)) (hfiles : t.files ≠ c.state.files) :
    ∃ url, localUrl url = true ∧ (∀ a ∈ c.state.db.attachments, a.url ≠ url) ∧
      t.files = c.state.files.filter (fun f => f ≠ fileOf c.state.storagePath url) ∧
      ∀ a ∈ c.state.db.attachments, localUrl a.url = true →
        fileOf c.state.storagePath a.url ∈ c.state.files →
        fileOf c.state.storagePath a.url ∈ t.files := by
  have h : Collecting c.state := collecting_run hslash h₀ hrun
  rcases Pool.guarantee (compatible hslash) hrun hi hmove with heq | hchange
  · exact absurd (by rw [heq]) hfiles
  · cases hchange with
    | aside hrows hkept => exact absurd (hkept rfl) hfiles
    | unlinks url path hop hlocal hqueued hgone hpath hroot hrows hunlinked =>
      obtain ⟨files, hpath⟩ := hpath
      obtain ⟨rfl, hspared⟩ := h.unlink hlocal hqueued hgone hpath hroot
      refine ⟨url, hlocal, hgone, hunlinked, fun a ha hlocal' hthere => ?_⟩
      rw [hunlinked]
      exact List.mem_filter.mpr ⟨hthere, by simpa using hspared a ha hlocal'⟩
    | unqueues url hop hpublication hrows hkept => exact absurd hkept hfiles
    | commits c hop hprocessing hpublication hrefusal hreleases hknown hruled hrows => exact absurd rfl hop
    | configures hop hprocessing hworker huploads hurls hdeletions hstorage => exact absurd rfl hop
    | notes f hop hheld hf hrows => exact absurd rfl hop
    | removes keep deletions hop hkept hqueued hrows => exact absurd rfl hop

end

def pictureUrl : String := cdnAttachments ++ picturePath

def withdrawn : AppState :=
  { released with
    db :=
      { released.db with
        automodUploads := [{ pendingPicture with status := "quarantined" }]
        attachments := []
        attachmentDeletions := [pictureUrl] } }

theorem withdrawn_collecting : Collecting withdrawn := by
  refine ⟨⟨by decide, by decide, (fun a ha => by cases ha), (fun a ha => by cases ha)⟩, ?_⟩
  intro url hurl _
  rw [List.mem_singleton.mp hurl]
  exact ⟨"1", by decide, "10", "cat.png", by decide, by decide, by decide⟩

def alone (op : Operation) (s : AppState) :
    Pool Nat Operation Mutex AppState AppError (Option Bool) :=
  Pool.set { state := s } 0 (some (op, op.program storedPicture))

theorem run_alone (op : Operation) (s : AppState) (outside : AppState → AppState → Prop) :
    Pool.Run (Operation.program storedPicture) Exclusive outside { state := s } (alone op s) :=
  .single (.start 0 op rfl (fun _ _ _ _ h => by cases h))

def counted : Work (Option Bool) × AppState :=
  (Operation.drain.program storedPicture).advance 1 withdrawn

def locking : Work (Option Bool) → Work (Option Bool)
  | .acquire _ rest => rest
  | p => p

def collector : Work (Option Bool) × AppState := (locking counted.1).advance 3 counted.2

theorem drain_spares_live_files_withdrawn :
    ∃ t : AppState, t.files = [] ∧ ∃ url, localUrl url = true ∧
      (∀ a ∈ withdrawn.db.attachments, a.url ≠ url) ∧
      t.files = withdrawn.files.filter (fun f => f ≠ fileOf withdrawn.storagePath url) ∧
      ∀ a ∈ withdrawn.db.attachments, localUrl a.url = true →
        fileOf withdrawn.storagePath a.url ∈ withdrawn.files →
        fileOf withdrawn.storagePath a.url ∈ t.files := by
  have hcounted := (run_alone .drain withdrawn Elsewhere).trans
    (Pool.run_moves (Pool.set_threads_self _ _ _)
      (Task.moves_advance 1 (Operation.drain.program storedPicture) withdrawn))
  have hlocked := hcounted.tail
    (.acquires 0 .drain .publication (locking counted.1) (Pool.set_threads_self _ _ _) rfl)
  have hrun := hlocked.trans (Pool.run_moves (Pool.set_threads_self _ _ _)
    (Task.moves_advance 3 (locking counted.1) counted.2))
  refine ⟨(collector.1.advance 1 collector.2).2, by decide +kernel, ?_⟩
  exact drain_spares_live_files (m := storedPicture) (by decide) withdrawn_collecting hrun
    (Pool.set_threads_self _ _ _) (Task.moves_running (p := collector.1) (by decide +kernel) _)
    (by decide +kernel)

def deletion : Operation := .deleteMessage "10" "20" { userId := "bob" } (.error AppError.rowNotFound)

def beforeUnlink : Work (Option Bool) × AppState :=
  (deletion.program storedPicture).advance 5 released

theorem deletion_unlinks_live_file :
    ∃ c : Pool Nat Operation Mutex AppState AppError (Option Bool), ∃ p q t,
      Pool.Run (Operation.program storedPicture) Exclusive (fun _ _ => False)
        { state := released } c ∧
      c.threads 0 = some (deletion, p) ∧ Task.Moves (p, c.state) (q, t) ∧
      picturePosted ∈ c.state.db.attachments ∧ picturePosted ∈ t.db.attachments ∧
      fileOf c.state.storagePath picturePosted.url ∈ c.state.files ∧
      fileOf c.state.storagePath picturePosted.url ∉ t.files := by
  have hrun := (run_alone deletion released (fun _ _ => False)).trans
    (Pool.run_moves (Pool.set_threads_self _ _ _)
      (Task.moves_advance 5 (deletion.program storedPicture) released))
  refine ⟨_, beforeUnlink.1, _, _, hrun, Pool.set_threads_self _ _ _,
    Task.moves_running (p := beforeUnlink.1) (by decide +kernel) _, ?_⟩
  decide +kernel

end Vokusz.Automod
