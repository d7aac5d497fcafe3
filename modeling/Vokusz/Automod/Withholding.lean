import Vokusz.Automod.Compatibility
import Vokusz.Automod.Denylist

namespace Vokusz.Automod

open Db Permissions
open Lib (Prog Task Pool Table.lookup)
open Storage (PlainName StoredAs carriedId)

section

variable {op : Operation} {held : Mutex → Prop} {s t : AppState}

structure Withholding (s : AppState) : Prop where
  distinct : ((rowsOf s).uploads.map AutomodUpload.id).Nodup
  plain : ∀ u ∈ (rowsOf s).uploads, PlainName u.id ∧ PlainName u.channelId
  stored : ∀ a ∈ (rowsOf s).attachments, localUrl a.url = true → StoredAs a.id a.url
  published : ∀ a ∈ (rowsOf s).attachments, ∀ u ∈ (rowsOf s).uploads, u.id = a.id →
    u.status = "published"

theorem Withholding.of_rows (h : Withholding s) (hrows : rowsOf t = rowsOf s) :
    Withholding t := by
  constructor
  · rw [hrows]
    exact h.distinct
  · rw [hrows]
    exact h.plain
  · rw [hrows]
    exact h.stored
  · rw [hrows]
    exact h.published

theorem Withholding.of_kept (h : Withholding s) {f : AutomodUpload → AutomodUpload}
    (hf : ∀ u, (f u).id = u.id ∧ (f u).channelId = u.channelId ∧ (f u).status = u.status)
    (huploads : (rowsOf t).uploads = (rowsOf s).uploads.map f)
    (hattachments : ∀ a ∈ (rowsOf t).attachments,
      ∃ b ∈ (rowsOf s).attachments, b.id = a.id ∧ b.url = a.url) : Withholding t := by
  have hid : AutomodUpload.id ∘ f = AutomodUpload.id := funext (fun u => (hf u).1)
  constructor
  · rw [huploads, List.map_map, hid]
    exact h.distinct
  · rw [huploads]
    intro u hu
    obtain ⟨v, hv, rfl⟩ := List.mem_map.mp hu
    rw [(hf v).1, (hf v).2.1]
    exact h.plain v hv
  · intro a ha
    obtain ⟨b, hb, hsame, hurl⟩ := hattachments a ha
    rw [← hurl, ← hsame]
    exact h.stored b hb
  · rw [huploads]
    intro a ha u hu hua
    obtain ⟨v, hv, rfl⟩ := List.mem_map.mp hu
    obtain ⟨b, hb, hsame, _⟩ := hattachments a ha
    rw [(hf v).1] at hua
    rw [(hf v).2.2]
    exact h.published b hb v hv (hua.trans hsame.symm)

theorem commit_accepted {c : Commit} {db : Tables} (h : c.refusal db = none) :
    ∃ u ∈ db.automodUploads, u.id = c.upload.id ∧ u.status = c.upload.status := by
  unfold Commit.refusal at h
  split at h
  · next hany =>
    obtain ⟨u, hu, hcurrent⟩ := List.any_eq_true.mp hany
    simp only [Commit.current, Bool.and_eq_true, decide_eq_true_eq] at hcurrent
    exact ⟨u, hu, hcurrent⟩
  · cases h

theorem mem_effect_attachments {c : Commit} {db : Tables} {a : AttachmentRow}
    (ha : a ∈ (c.effect db).attachments) :
    (a ∈ db.attachments ∧ (withdraws c.upload c.status = true → a.id ≠ c.upload.id)) ∨
      ∃ file, c.file = some file ∧ a = publicRow c.upload file := by
  rcases List.mem_append.mp ha with hold | hnew
  · left
    split at hold
    · have hmem := List.mem_filter.mp hold
      exact ⟨hmem.1, fun _ => by simpa using hmem.2⟩
    · next hkept => exact ⟨hold, fun hwithdraws => absurd hwithdraws hkept⟩
  · right
    obtain ⟨file, hfile, rfl⟩ := List.mem_map.mp hnew
    exact ⟨file, by simpa using hfile, rfl⟩

theorem Withholding.commit (h : Withholding s) {c : Commit} (hrefusal : c.refusal s.db = none)
    (hreleases : Releases c) (hknown : Known c.upload s) :
    Withholding (s.withDb (c.effect s.db)) := by
  have hid : ∀ u : AutomodUpload, (if c.current u then c.decides u else u).id = u.id := by
    intro u
    split <;> rfl
  have hchannel : ∀ u : AutomodUpload,
      (if c.current u then c.decides u else u).channelId = u.channelId := by
    intro u
    split <;> rfl
  obtain ⟨row, hrow, hrowId, hrowStatus⟩ := commit_accepted hrefusal
  have hunique : ∀ u ∈ s.db.automodUploads, u.id = c.upload.id → u = row :=
    fun u hu hu' => List.inj_on_of_nodup_map h.distinct hu hrow (hu'.trans hrowId.symm)
  constructor
  · change ((s.db.automodUploads.map _).map AutomodUpload.id).Nodup
    rw [List.map_map, show AutomodUpload.id ∘ _ = AutomodUpload.id from funext hid]
    exact h.distinct
  · intro u hu
    obtain ⟨v, hv, rfl⟩ := List.mem_map.mp hu
    rw [hid, hchannel]
    exact h.plain v hv
  · intro a ha hlocal
    rcases mem_effect_attachments ha with ⟨hold, _⟩ | ⟨file, hfile, rfl⟩
    · exact h.stored a hold hlocal
    · obtain ⟨v, hv, hvid, hvchannel⟩ := hknown
      obtain ⟨hplain, hplainChannel⟩ := h.plain v hv
      exact hreleases.url file hfile (hvchannel ▸ hplainChannel) (hvid ▸ hplain)
  · intro a ha u hu hua
    obtain ⟨v, hv, rfl⟩ := List.mem_map.mp hu
    rw [hid] at hua
    rcases mem_effect_attachments ha with ⟨hold, hwithdrawn⟩ | ⟨file, hfile, rfl⟩
    · have hpublished : v.status = "published" := h.published a hold v hv hua
      split
      · next hcurrent =>
        simp only [Commit.current, Bool.and_eq_true, decide_eq_true_eq] at hcurrent
        by_contra hstatus
        change ¬ c.status = "published" at hstatus
        refine hwithdrawn ?_ (hua.symm.trans hcurrent.1)
        simpa [withdraws, ← hcurrent.2, hpublished] using hstatus
      · exact hpublished
    · have hv' : v = row := hunique v hv hua
      have hcurrent : c.current v = true := by
        simp [Commit.current, hv', hrowId, hrowStatus]
      rw [if_pos hcurrent]
      exact hreleases.status (by rw [hfile]; rfl)

theorem Withholding.change (h : Withholding s) (hchange : Change op held s t) :
    Withholding t := by
  cases hchange with
  | aside hrows hfiles => exact h.of_rows hrows
  | commits c hop hprocessing hpublication hrefusal hreleases hknown hruled hrows =>
    exact (h.commit hrefusal hreleases hknown).of_rows hrows
  | configures hop hprocessing hworker huploads hurls hdeletions hstorage =>
    refine h.of_kept (f := id) (fun _ => ⟨rfl, rfl, rfl⟩) (by rw [huploads, List.map_id]) ?_
    intro a ha
    have hmem := List.mem_map_of_mem (f := fun a : AttachmentRow => (a.id, a.url)) ha
    rw [hurls] at hmem
    obtain ⟨b, hb, heq⟩ := List.mem_map.mp hmem
    exact ⟨b, hb, congrArg Prod.fst heq, congrArg Prod.snd heq⟩
  | notes f hop hheld hf hrows =>
    refine h.of_kept hf (by rw [hrows]) (fun a ha => ?_)
    rw [hrows] at ha
    exact ⟨a, ha, rfl, rfl⟩
  | removes keep deletions hop hkept hqueued hrows =>
    refine h.of_kept (f := id) (fun _ => ⟨rfl, rfl, rfl⟩) (by rw [hrows, List.map_id]) (fun a ha => ?_)
    rw [hrows] at ha
    exact ⟨a, (List.mem_filter.mp ha).1, rfl, rfl⟩
  | unlinks url path hop hurl hqueued hgone hpath hroot hrows hfiles => exact h.of_rows hrows
  | unqueues url hop hpublication hrows hfiles =>
    refine h.of_kept (f := id) (fun _ => ⟨rfl, rfl, rfl⟩) (by rw [hrows, List.map_id]) (fun a ha => ?_)
    rw [hrows] at ha
    exact ⟨a, ha, rfl, rfl⟩

theorem Withholding.elsewhere (h : Withholding s) (helse : Elsewhere s t) : Withholding t := by
  obtain ⟨added, hadded, hdistinct, hfresh⟩ := helse.uploads
  constructor
  · rw [hadded, List.map_append, List.nodup_append]
    refine ⟨h.distinct, hdistinct, ?_⟩
    intro x hx y hy
    obtain ⟨u, hu, rfl⟩ := List.mem_map.mp hx
    obtain ⟨v, hv, rfl⟩ := List.mem_map.mp hy
    exact (hfresh v hv).unused u hu
  · intro u hu
    rw [hadded] at hu
    rcases List.mem_append.mp hu with hold | hnew
    · exact h.plain u hold
    · exact (hfresh u hnew).plain
  · intro a ha hlocal
    rcases helse.attachments a ha with ⟨b, hb, hsame, hurl⟩ | hfreshRow
    · rw [← hurl] at hlocal ⊢
      rw [← hsame]
      exact h.stored b hb hlocal
    · exact hfreshRow.url
  · intro a ha u hu hua
    rcases helse.attachments a ha with ⟨b, hb, hsame, hurl⟩ | hfreshRow
    · rw [hadded] at hu
      rcases List.mem_append.mp hu with hold | hnew
      · exact h.published b hb u hold (hua.trans hsame.symm)
      · exact absurd hua.symm ((hfresh u hnew).unposted a ha)
    · exact absurd hua (hfreshRow.unused u hu)

theorem servable_of_served {path : String} {file : Option Storage.FilePath}
    (h : (serveAttachment path).exec s = (.ok file, t)) :
    servable (cdnAttachments ++ path) s.db = true := by
  obtain ⟨_, s₁, hplain, h⟩ := Prog.exec_bind_ok.mp h
  obtain ⟨_, rfl⟩ := Prog.exec_require_ok.mp hplain
  obtain ⟨accepted, s₂, hread, h⟩ := Prog.exec_bind_ok.mp h
  obtain ⟨hservable, rfl⟩ := App.exec_lift_ok.mp hread
  obtain ⟨_, s₃, haccepted, _⟩ := Prog.exec_bind_ok.mp h
  exact (Except.ok.inj hservable).trans (Prog.exec_require_ok.mp haccepted).1

theorem Withholding.servable (h : Withholding s) {url : String}
    (hlocal : localUrl url = true) (hservable : servable url s.db = true) {u : AutomodUpload} (hu : u ∈ (rowsOf s).uploads)
    (hcarried : carriedId url = some u.id) : u.status = "published" := by
  obtain ⟨a, ha, hgate⟩ := List.any_eq_true.mp hservable
  simp only [Bool.and_eq_true, decide_eq_true_eq] at hgate
  have hid : u.id = a.id := by
    have hown := (h.stored a ha (hgate.1 ▸ hlocal)).carried
    rw [hgate.1, hcarried] at hown
    exact Option.some.inj hown
  exact h.published a ha u hu hid

end

section

variable {ι : Type} [DecidableEq ι] {m : Originals}
  {c : Pool ι Operation Mutex AppState AppError (Option Bool)} {s₀ : AppState}

theorem withholding_run (hslash : m.isAlphanumeric '/' = false) (h₀ : Withholding s₀)
    (hrun : Pool.Run (Operation.program m) Exclusive Elsewhere { state := s₀ } c) :
    Withholding c.state :=
  Pool.invariant (compatible hslash) (fun _ _ _ _ hchange h => h.change hchange)
    (fun _ _ helse h => h.elsewhere helse) h₀ hrun

end

def releasedPicture : AutomodUpload := { pendingPicture with status := "published" }

def picturePath : String := "10/1/cat.png"

def picturePosted : AttachmentRow :=
  { id := "1"
    messageId := "20"
    filename := "cat.png"
    size := 1
    url := cdnAttachments ++ picturePath }

def released : AppState :=
  { chatUnder [] with
    db :=
      { (chatUnder []).db with
        automodUploads := [releasedPicture]
        attachments := [picturePosted] }
    files := [["data", "attachments", "10", "1", "cat.png"]] }

end Vokusz.Automod
