import Vokusz.Automod.Steps
import Mathlib.Data.List.Dedup

namespace Vokusz.Automod

open Db Permissions
open Lib (Prog Task Table.lookup)
open Lib.Task (Meets)

section

variable {m : Originals} {op : Operation} {held : Mutex → Prop} {s : AppState}
  {view : AppState → Rows}

theorem performs_seq {α β : Type} {p : Work α} {f : α → Work β}
    (h : Performs op held (fun _ => True) s p)
    (hf : ∀ a t, Lasting s t → Performs op held (fun _ => True) t (f a)) :
    Performs op held (fun _ => True) s (p >>= f) :=
  performs_then h (fun _ => trivial) (fun a t hlasting _ => hf a t hlasting)

theorem rowsOnly_true : RowsOnly (fun _ => True) := fun _ _ _ _ => trivial

theorem respects_rows {α : Type} {p : App α} (h : p.Preserves rowsOf) (hop : op ≠ .drain) :
    p.Respects (fun _ => True) (Change op held) (fun _ => True) :=
  respects_aside h hop rowsOnly_true

theorem known_rows (upload : AutomodUpload) : RowsOnly (Known upload) := by
  intro s t hrows h
  unfold Known
  rwa [hrows]

theorem stable_known (op : Operation) (held : Mutex → Prop) (upload : AutomodUpload) :
    Stable op held (Known upload) := by
  rintro s t hrely ⟨v, hv, hid, hchannel⟩
  obtain ⟨w, hw, hid', hchannel'⟩ := hrely.lasting v hv
  exact ⟨w, hw, hid'.trans hid, hchannel'.trans hchannel⟩

theorem performs_finish_asked {upload : AutomodUpload} {requested reason : String}
    {decision : Decision} (hslash : m.isAlphanumeric '/' = false) (hop : op ≠ .drain)
    (hworker : op.worker = false) (hprocessing : held .processing)
    (hpublication : ¬ held .publication) (hs : Known upload s) :
    Performs op held (fun _ => True) s (finish m upload requested reason decision) := by
  refine performs_finish hslash hop hprocessing hpublication (known_rows upload)
    (fun held' _ => stable_known op held' upload) (fun _ h => h) ?_ hs
  intro c s _ _ _ _ hruled
  rw [hworker] at hruled
  cases hruled

theorem preserves_recoverOriginal (id : String) : (recoverOriginal id).Preserves rowsOf := by
  refine (App.preserves_lift _).bind (fun url => ?_)
  refine (Prog.preserves_require _ _).bind (fun _ => ?_)
  refine (Prog.preserves_get _).bind (fun storagePath => ?_)
  refine (Prog.preserves_get _).bind (fun stored => ?_)
  refine (Prog.preserves_require _ _).bind (fun _ => ?_)
  exact Prog.preserves_statement (fun _ => rfl)

theorem Lasting.known {upload : AutomodUpload} {t : AppState} (h : Lasting s t)
    (hs : Known upload s) : Known upload t := by
  obtain ⟨v, hv, hid, hchannel⟩ := hs
  obtain ⟨w, hw, hid', hchannel'⟩ := h v hv
  exact ⟨w, hw, hid'.trans hid, hchannel'.trans hchannel⟩

theorem get_mem {id : String} {db : Tables} {upload : AutomodUpload}
    (h : get id db = .ok upload) : upload ∈ db.automodUploads := by
  unfold get at h
  split at h
  · next hfound =>
    cases h
    exact Lib.Table.lookup_mem hfound
  · cases h

theorem meets_reviewable (hop : op ≠ .drain) (id : String) (auth : AuthUser) (action : String)
    (s : AppState) :
    (Task.lift (reviewable id auth action)).Meets (Rely op) (Change op)
      (fun r h t => h = held ∧ ∀ x, r = .ok x → Known x.1 t) held s := by
  have henv := environment op
  have hfailed : ∀ (e : AppError) (t : AppState), held = held ∧
      ∀ x : AutomodUpload × String, Except.error e = .ok x → Known x.1 t :=
    fun e t => ⟨rfl, fun x hx => by cases hx⟩
  unfold reviewable
  rw [Task.lift_bind]
  refine Meets.bind henv ((Task.meets_query (fun s => .aside rfl (fun _ => rfl))).mono ?_)
  rintro r h t ⟨rfl, hread⟩
  cases r with
  | error e => exact hfailed e t
  | ok upload =>
    obtain ⟨s₁, _, hget, hrely⟩ := hread upload rfl
    have hknown : Known upload t := by
      exact hrely.lasting.known ⟨upload, get_mem hget, rfl, rfl⟩
    have hstep : ∀ {β : Type} {p : App β}, p.Preserves rowsOf →
        p.Respects (Known upload) (Change op h) (fun _ => True) :=
      fun hp => respects_aside hp hop (known_rows upload)
    have hstable := stable_known op h upload
    refine Task.meets_lift_bind henv (hstep (preserves_authorize _ _ _)) hstable hknown hfailed
      (fun _ _ _ h₁ => ?_)
    refine Task.meets_lift_bind henv (hstep (Prog.preserves_get _)) hstable h₁ hfailed
      (fun now _ _ h₂ => ?_)
    refine Task.meets_lift_bind henv (hstep (Prog.preserves_require _ _)) hstable h₂ hfailed
      (fun _ _ _ h₃ => ?_)
    refine Task.meets_lift_bind henv (hstep (App.preserves_liftExcept _)) hstable h₃ hfailed
      (fun next _ _ h₄ => ?_)
    refine Task.meets_lift_bind henv (hstep (Prog.preserves_require _ _)) hstable h₄ hfailed
      (fun _ _ _ h₅ => ?_)
    have hrecover : (whenever (upload.status = "published") (recoverOriginal id)).Preserves rowsOf :=
      Prog.preserves_ite (preserves_recoverOriginal _) (Prog.preserves_pure _)
    refine Task.meets_lift_bind henv (hstep hrecover) hstable h₅ hfailed (fun _ u _ h₆ => ?_)
    intro u' hu'
    refine ⟨rfl, fun x hx => ?_⟩
    cases hx
    exact hstable u u' hu' h₆

theorem respects_retryNow (hop : op ≠ .drain) (hprocessing : held .processing) (id : String) :
    (retryNow id).Respects (fun _ => True) (Change op held) (fun _ => True) := by
  refine (respects_rows (Prog.preserves_get _) hop).bind (fun now _ => ?_)
  refine respects_update (fun s => .notes _ hop (.inl hprocessing) (fun u => ?_) rfl (fun u => ?_))
  · split
    · exact ⟨rfl, rfl, rfl⟩
    · exact ⟨rfl, rfl, rfl⟩
  · split
    · rfl
    · rfl

theorem respects_unlinkOriginals (hop : op ≠ .drain) (hprocessing : held .processing)
    (ids : List String) :
    (unlinkOriginals ids).Respects (fun _ => True) (Change op held) (fun _ => True) := by
  induction ids with
  | nil => trivial
  | cons id ids ih =>
    refine Prog.Respects.bind (respects_rows (preserves_rows (touches_removeOriginal id)
      (by decide)) hop) (fun _ _ => ?_)
    refine Prog.Respects.bind (respects_update (fun s => ?_)) (fun _ _ => ih)
    refine .notes _ hop (.inl hprocessing) (fun u => ?_) rfl (fun u => ?_)
    · split
      · exact ⟨rfl, rfl, rfl⟩
      · exact ⟨rfl, rfl, rfl⟩
    · split
      · rfl
      · rfl

theorem performs_steps {α : Type} {P : α → Prop} {p : App α}
    (h : p.Respects (fun _ => True) (Change op held) P) :
    Performs op held (fun _ => True) s (MonadLiftT.monadLift p : Work α) :=
  (performs_program h).mono (fun _ _ => trivial)

theorem performs_answered {α : Type} {p : Work α}
    (h : Performs op noLock (fun _ => True) s p) :
    Performs op noLock (fun _ => True) s (Operation.answered p) :=
  performs_seq h (fun _ _ _ => performs_done trivial)

theorem performs_review (hslash : m.isAlphanumeric '/' = false) (hop : op ≠ .drain)
    (hworker : op.worker = false) (id : String) (auth : AuthUser) (request : Review)
    (s : AppState) :
    Performs op noLock (fun _ => True) s (review m id auth request) := by
  refine performs_seq (performs_aside (Prog.preserves_require _ _) hop) (fun _ t _ => ?_)
  refine performs_within (fun h => h) (fun t _ => ?_)
  have hheld : Task.hold noLock Mutex.processing .processing := .inl rfl
  refine ⟨Meets.bind (environment op) ((meets_reviewable hop id auth request.action t).mono ?_)⟩
  rintro r _ t ⟨rfl, hknown⟩
  cases r with
  | error e => exact ⟨rfl, trivial⟩
  | ok reviewed =>
  refine (performs_seq (performs_finish_asked hslash hop hworker hheld ?_ (hknown reviewed rfl))
    (fun _ t _ => ?_)).meets
  · rintro (h | h)
    · cases h
    · exact h
  have hretry : (whenever (reviewed.2 = "pending") (retryNow id)).Respects (fun _ => True)
      (Change op (Task.hold noLock Mutex.processing)) (fun _ => True) := by
    unfold whenever
    split
    · exact respects_retryNow hop hheld id
    · trivial
  refine performs_seq (performs_steps hretry) (fun _ t _ => ?_)
  exact performs_seq (performs_aside (App.preserves_lift _) hop)
    (fun _ _ _ => performs_done trivial)

theorem performs_cleanup (hslash : m.isAlphanumeric '/' = false) (hop : op ≠ .drain)
    (hworker : op.worker = false) (s : AppState) :
    Performs op noLock (fun _ => True) s (cleanup m) := by
  refine performs_within (fun h => h) (fun t _ => ?_)
  have hheld : Task.hold noLock Mutex.processing .processing := .inl rfl
  have hexpire : ∀ uploads t, (∀ upload ∈ uploads, Known upload t) →
      Performs op (Task.hold noLock Mutex.processing) (fun _ => True) t (expireAll m uploads) := by
    intro uploads
    induction uploads with
    | nil => exact fun t _ => performs_done trivial
    | cons upload uploads ih =>
      intro t hknown
      refine performs_seq (performs_finish_asked hslash hop hworker hheld ?_
        (hknown upload List.mem_cons_self)) (fun _ u hlasting => ?_)
      · rintro (h | h)
        · cases h
        · exact h
      · exact ih u (fun x hx => hlasting.known (hknown x (List.mem_cons_of_mem _ hx)))
  refine performs_seq (performs_aside (Prog.preserves_get _) hop) (fun now t _ => ?_)
  refine ⟨Meets.bind (environment op)
    ((Task.meets_query (fun s => .aside rfl (fun _ => rfl))).mono ?_)⟩
  rintro r _ t ⟨rfl, hread⟩
  cases r with
  | error e => exact ⟨rfl, trivial⟩
  | ok uploads =>
    obtain ⟨s₁, _, hexpired, hrely⟩ := hread uploads rfl
    have hknown : ∀ upload ∈ uploads, Known upload t := by
      intro upload hupload
      rw [← Except.ok.inj hexpired] at hupload
      have hmem := (List.mem_filter.mp (List.mem_of_mem_take hupload)).1
      exact hrely.lasting.known ⟨upload, hmem, rfl, rfl⟩
    refine (performs_seq (hexpire uploads t hknown) (fun _ t _ => ?_)).meets
    refine performs_seq (performs_aside (App.preserves_query _) hop) (fun ids t _ => ?_)
    exact performs_steps (respects_unlinkOriginals hop hheld ids)

theorem performs_configured {mutex : Mutex} {f : Tables → Tables}
    (hlock : ¬ held mutex) (h : ∀ s, Change op (Task.hold held mutex) s (s.withDb (f s.db))) :
    Performs op held (fun _ => True) s
      (Task.locked mutex (MonadLiftT.monadLift (App.update f)) : Work Unit) :=
  performs_within hlock (fun _ _ => performs_steps (respects_update h))

section

variable (hop : op ≠ .drain) (hworker : op.worker = false)

include hop hworker

theorem performs_setPolicy (scope : String) (auth : AuthUser) (policy : Policy) (s : AppState) :
    Performs op noLock (fun _ => True) s (setPolicy scope auth policy) := by
  refine performs_seq (performs_aside (preserves_authorize _ _ _) hop) (fun _ t _ => ?_)
  refine performs_seq (performs_aside (App.preserves_liftExcept _) hop) (fun _ t _ => ?_)
  exact performs_configured (fun h => h) (fun s => .configures hop (.inl rfl) hworker rfl rfl rfl rfl)

theorem performs_resetPolicy (scope : String) (auth : AuthUser) (s : AppState) :
    Performs op noLock (fun _ => True) s (resetPolicy scope auth) := by
  refine performs_seq (performs_aside (preserves_authorize _ _ _) hop) (fun _ t _ => ?_)
  exact performs_configured (fun h => h) (fun s => .configures hop (.inl rfl) hworker rfl rfl rfl rfl)

theorem performs_unblockHash (scope hash : String) (auth : AuthUser) (s : AppState) :
    Performs op noLock (fun _ => True) s (unblockHash scope hash auth) := by
  refine performs_seq (performs_aside (preserves_authorize _ _ _) hop) (fun _ t _ => ?_)
  refine performs_seq (performs_aside (App.preserves_liftExcept _) hop) (fun _ t _ => ?_)
  exact performs_configured (fun h => h) (fun s => .configures hop (.inl rfl) hworker rfl rfl rfl rfl)

theorem respects_storeBlock (hprocessing : held .processing) (scope hash reason actor : String)
    (attachment : Option String) :
    (storeBlock scope hash reason actor attachment).Respects (fun _ => True) (Change op held)
      (fun _ => True) := by
  refine (respects_rows (Prog.preserves_require _ _) hop).bind (fun _ _ => ?_)
  refine (respects_rows (Prog.preserves_get _) hop).bind (fun now _ => ?_)
  refine respects_update (fun s => .configures hop hprocessing hworker rfl ?_ rfl rfl)
  simp only [rowsOf, AppState.withDb, insertBlock, List.map_map]
  refine List.map_congr_left (fun a _ => ?_)
  simp only [Function.comp_apply]
  split <;> rfl

theorem performs_storeBlock (scope hash reason actor : String) (attachment : Option String)
    (s : AppState) :
    Performs op noLock (fun _ => True) s (Task.locked Mutex.processing (Task.locked .admission
      (MonadLiftT.monadLift (storeBlock scope hash reason actor attachment))) : Work Unit) := by
  refine performs_within (fun h => h) (fun t _ => performs_within ?_ (fun t _ => ?_))
  · rintro (h | h)
    · cases h
    · exact h
  · exact performs_steps (respects_storeBlock hop hworker (.inr (.inl rfl)) _ _ _ _ _)

theorem performs_blockHash (scope hash reason : String) (auth : AuthUser) (s : AppState) :
    Performs op noLock (fun _ => True) s (blockHash scope hash reason auth) := by
  refine performs_seq (performs_aside (preserves_authorize _ _ _) hop) (fun _ t _ => ?_)
  refine performs_seq (performs_aside (App.preserves_liftExcept _) hop) (fun _ t _ => ?_)
  exact performs_storeBlock hop hworker _ _ _ _ _ t

end

theorem preserves_authorizeBlock (scope : String) (auth : AuthUser) (message : MessageRow) :
    (authorizeBlock scope auth message).Preserves rowsOf := by
  refine Prog.preserves_ite (App.preserves_liftExcept _) ?_
  refine (Prog.preserves_require _ _).bind (fun _ => ?_)
  exact (App.preserves_lift _).bind (fun _ => Prog.preserves_pure _)

theorem performs_blockAttachment (hop : op ≠ .drain) (hworker : op.worker = false)
    (scope id reason : String) (auth : AuthUser) (legacy : Except AppError String)
    (s : AppState) :
    Performs op noLock (fun _ => True) s (blockAttachment scope id reason auth legacy) := by
  refine performs_seq (performs_aside (App.preserves_lift _) hop) (fun found t _ => ?_)
  refine performs_seq (performs_aside (preserves_authorizeBlock _ _ _) hop) (fun _ t _ => ?_)
  refine performs_seq (performs_aside (App.preserves_liftExcept _) hop) (fun hash t _ => ?_)
  exact performs_storeBlock hop hworker _ _ _ _ _ t

end

section

variable {op : Operation} {held : Mutex → Prop}

theorem mem_queueDeletions {rows : List AttachmentRow} {queue : List String} {url : String}
    (h : url ∈ queue) : url ∈ Tables.queueDeletions rows queue := by
  unfold Tables.queueDeletions
  induction rows.map AttachmentRow.url generalizing queue with
  | nil => exact h
  | cons u urls ih =>
    apply ih
    change url ∈ Lib.Table.insertNew id u queue
    unfold Lib.Table.insertNew
    split
    · exact h
    · exact List.mem_append_left _ h

theorem queueDeletions_mem {rows : List AttachmentRow} {queue : List String} {url : String}
    (h : url ∈ Tables.queueDeletions rows queue) : url ∈ queue ∨ ∃ a ∈ rows, a.url = url := by
  unfold Tables.queueDeletions at h
  induction rows generalizing queue with
  | nil => exact .inl h
  | cons a rows ih =>
    rcases ih h with hqueue | ⟨b, hb, hurl⟩
    · rcases Lib.Table.mem_insertNew hqueue with hold | rfl
      · exact .inl hold
      · exact .inr ⟨a, List.mem_cons_self, rfl⟩
    · exact .inr ⟨b, List.mem_cons_of_mem _ hb, hurl⟩

theorem change_removeMessages (hop : op ≠ .drain) (gone : List String) (s : AppState) :
    Change op held s (s.withDb (Tables.removeMessages gone s.db)) :=
  .removes (fun a => !gone.contains a.messageId) _ hop (fun _ h => mem_queueDeletions h)
    (fun _ h => (queueDeletions_mem h).imp_right
      (fun ⟨a, ha, hurl⟩ => ⟨a, (List.mem_filter.mp ha).1, hurl⟩)) rfl

theorem respects_deleteMessage (hop : op ≠ .drain) (id : String) :
    (Db.Messages.deleteMessage id).Respects (fun _ => True) (Change op held) (fun _ => True) :=
  respects_update (fun s => change_removeMessages hop _ s)

theorem preserves_unlink (url : String) : Prog.Preserves rowsOf (do
    let _ ← (Storage.deleteFile url).attempt
    return () : App Unit) :=
  (Storage.preserves_deleteFile url (fun _ _ => rfl)).attempt.bind (fun _ => Prog.preserves_pure _)

theorem respects_deleteLocal (hop : op ≠ .drain) (channelId messageId : String)
    (auth : AuthUser) (existing : MessageRow) :
    (Routes.Messages.deleteLocal channelId messageId auth existing).Respects (fun _ => True)
      (Change op held) (fun _ => True) := by
  refine (respects_rows (App.preserves_lift _) hop).bind (fun _ _ => ?_)
  refine (respects_rows (App.preserves_lift _) hop).bind (fun attachments _ => ?_)
  refine (respects_rows (Prog.preserves_forEach (fun a _ => preserves_unlink a.url)) hop).bind
    (fun _ _ => ?_)
  refine (respects_deleteMessage hop messageId).bind (fun _ _ => ?_)
  refine (respects_rows (App.preserves_lift _) hop).bind (fun channel _ => ?_)
  refine Prog.Respects.bind (respects_rows (preserves_rows
    (Federation.touches_broadcastSpace _ _ _ _) (by decide)) hop) (fun _ _ => ?_)
  refine Prog.Respects.bind (respects_rows (preserves_rows
    (Routes.Messages.touches_fanoutChange _ _ _) (by decide)) hop) (fun _ _ => ?_)
  trivial

theorem respects_routeDelete (hop : op ≠ .drain) (channelId messageId : String)
    (auth : AuthUser) (reply : Except AppError Response) :
    (Routes.Messages.deleteMessage channelId messageId auth reply).Respects (fun _ => True)
      (Change op held) (fun _ => True) := by
  refine (respects_rows (App.preserves_lift _) hop).bind (fun existing _ => ?_)
  refine (respects_rows (App.preserves_lift _) hop).bind (fun home _ => ?_)
  cases home with
  | none => exact respects_deleteLocal hop _ _ _ _
  | some home =>
    exact respects_rows (preserves_rows (Routes.Messages.touches_forwardDeletion _ _ _ _)
      (by decide)) hop

theorem respects_forEach {α : Type} {f : α → App Unit} (xs : List α)
    (h : ∀ x, (f x).Respects (fun _ => True) (Change op held) (fun _ => True)) :
    (Prog.forEach xs f).Respects (fun _ => True) (Change op held) (fun _ => True) := by
  induction xs with
  | nil => trivial
  | cons x xs ih => exact (h x).bind (fun _ _ => ih)

theorem respects_bulkDelete (hop : op ≠ .drain) (channelId : String) (auth : AuthUser)
    (messages : List String) :
    (Routes.Messages.bulkDeleteMessages channelId auth messages).Respects (fun _ => True)
      (Change op held) (fun _ => True) := by
  refine (respects_rows (App.preserves_lift _) hop).bind (fun _ _ => ?_)
  refine (respects_rows (Prog.preserves_require _ _) hop).bind (fun _ _ => ?_)
  refine Prog.Respects.bind (respects_forEach messages (fun id => respects_update (fun s => ?_)))
    (fun _ _ => trivial)
  split
  · exact change_removeMessages hop _ s
  · exact .aside rfl (fun hdrain => absurd hdrain hop)

theorem respects_purge (hop : op ≠ .drain) (spaceId userId : String) (seconds : Nat) :
    (Routes.Bans.purgeRecentMessages spaceId userId seconds).Respects (fun _ => True)
      (Change op held) (fun _ => True) := by
  unfold Routes.Bans.purgeRecentMessages
  split
  · trivial
  · refine (respects_rows (Prog.preserves_get _) hop).bind (fun cutoff _ => ?_)
    refine (respects_rows (App.preserves_lift _) hop).bind (fun messages _ => ?_)
    refine (respects_forEach messages (fun message => ?_)).bind (fun _ _ => trivial)
    refine (respects_rows (App.preserves_lift _) hop).bind (fun attachments _ => ?_)
    refine (respects_rows (Prog.preserves_forEach (fun a _ => preserves_unlink a.url)) hop).bind
      (fun _ _ => ?_)
    exact respects_deleteMessage hop message.1

end

section

variable {held : Mutex → Prop} {s t : AppState} {root : Storage.FilePath}
  {live urls : List String} {url : String}

structure Due (root : Storage.FilePath) (live urls : List String) (s : AppState) : Prop where
  root : (rowsOf s).storagePath = root
  gone : ∀ url ∈ urls, localUrl url = true → url ∉ live →
    url ∈ (rowsOf s).deletions ∧ ∀ a ∈ (rowsOf s).attachments, a.url ≠ url

theorem due_rows : RowsOnly (Due root live urls) := by
  intro s t hrows hdue
  constructor
  · rw [hrows]
    exact hdue.root
  · rw [hrows]
    exact hdue.gone

theorem Due.tail (h : Due root live (url :: urls) s) : Due root live urls s :=
  ⟨h.root, fun u hu => h.gone u (List.mem_cons_of_mem _ hu)⟩

theorem stable_due (hheld : held .publication) : Stable .drain held (Due root live urls) := by
  intro s t hrely hdue
  have hundrained : Undrained s t := hrely.collector rfl hheld
  refine ⟨hundrained.storagePath.trans hdue.root, fun u hu hlocal hlive => ?_⟩
  obtain ⟨hqueued, hgone⟩ := hdue.gone u hu hlocal hlive
  refine ⟨hundrained.deletions u hqueued, fun a ha hurl => ?_⟩
  rcases hundrained.attachments a ha with ⟨b, hb, hsame⟩ | hnew
  · exact hgone b hb (hsame.trans hurl)
  · rw [hurl] at hnew
    exact hnew hqueued

def rowsAndFiles (s : AppState) : Rows × List Storage.FilePath := (rowsOf s, s.files)

theorem respects_still {α : Type} {p : App α} (h : p.Preserves rowsAndFiles)
    {I : AppState → Prop} (hI : RowsOnly I) :
    p.Respects I (Change .drain held) (fun _ => True) := by
  refine h.respects (fun s t heq hs => ?_) (fun s t _ heq => ?_)
  · exact hI s t (congrArg Prod.fst heq) hs
  · exact .aside (congrArg Prod.fst heq) (fun _ => congrArg Prod.snd heq)

theorem respects_deleteFile (hlocal : localUrl url = true) (hlive : url ∉ live) :
    (Storage.deleteFile url).Respects (Due root live (url :: urls)) (Change .drain held)
      (fun _ => True) := by
  have hread : (Prog.get (fun s : AppState =>
      (Storage.canonicalTarget s.storagePath s.files url, s.storagePath, s.files)) : App _).Respects
      (Due root live (url :: urls)) (Change .drain held)
      (fun target => target.2.1 = root ∧
        target.1 = Storage.canonicalTarget root target.2.2 url) := by
    intro s hs
    have hroot : s.storagePath = root := hs.root
    exact ⟨hs, .aside rfl (fun _ => rfl), hroot, (by dsimp only; rw [hroot])⟩
  refine hread.bind ?_
  rintro ⟨found, storagePath, files⟩ ⟨rfl, hfound⟩
  cases found with
  | error e =>
    cases e with
    | notFound => trivial
    | notADirectory => trivial
  | ok path =>
    refine Prog.respects_require.bind (fun _ hprefix => ?_)
    refine Prog.respects_require.bind (fun _ _ => ?_)
    intro s hs
    obtain ⟨hqueued, hgone⟩ := hs.gone url List.mem_cons_self hlocal hlive
    refine ⟨due_rows s _ rfl hs, .unlinks url path rfl hlocal hqueued hgone ?_ ?_ rfl rfl, trivial⟩
    · rw [hs.root]
      exact ⟨files, hfound.symm⟩
    · rw [hs.root]
      exact hprefix

theorem respects_unqueue (hpublication : held .publication) (hnew : url ∉ urls) :
    (unqueue url).Respects (Due root live urls) (Change .drain held) (fun _ => True) := by
  refine Prog.respects_statement (fun s hs => ⟨?_, ?_⟩) (fun _ _ _ _ => trivial)
  · refine ⟨hs.root, fun u hu hlocal hlive => ?_⟩
    obtain ⟨hqueued, hgone⟩ := hs.gone u hu hlocal hlive
    have hne : u ≠ url := by
      rintro rfl
      exact hnew hu
    exact ⟨List.mem_filter.mpr ⟨hqueued, by simpa using hne⟩, hgone⟩
  · exact .unqueues url rfl hpublication rfl rfl

theorem performs_drainRows (hpublication : held .publication) (hdistinct : urls.Nodup)
    (hs : Due root live urls s) :
    Performs .drain held (fun _ => True) s (Task.lift (drainRows live urls)) := by
  induction urls generalizing s with
  | nil => exact ⟨fun _ _ => ⟨rfl, trivial⟩⟩
  | cons url urls ih =>
    obtain ⟨hnew, hrest⟩ := List.nodup_cons.mp hdistinct
    have hunlink : (whenever (localUrl url = true ∧ url ∉ live) (Storage.deleteFile url)).Respects
        (Due root live (url :: urls)) (Change .drain held) (fun _ => True) := by
      unfold whenever
      split
      · next hdue => exact respects_deleteFile hdue.1 hdue.2
      · trivial
    refine ⟨Task.meets_lift_bind (environment _) hunlink (stable_due hpublication) hs
      (fun _ _ => ⟨rfl, trivial⟩) (fun _ t _ ht => ?_)⟩
    refine Task.meets_lift_bind (environment _) (respects_unqueue hpublication hnew)
      (stable_due hpublication) ht.tail (fun _ _ => ⟨rfl, trivial⟩) (fun _ u _ hu => ?_)
    exact (ih hrest hu).meets

theorem due_read {rows : List String} (hqueued : ∀ url ∈ rows, url ∈ (rowsOf s).deletions)
    (hlive : ((s.db.attachments.map AttachmentRow.url).filter (rows.filter localUrl).contains) =
      live) : Due (rowsOf s).storagePath live rows s := by
  refine ⟨rfl, fun url hurl hlocal hnot => ?_⟩
  refine ⟨hqueued url hurl, fun a ha hsame => hnot ?_⟩
  rw [← hlive, List.mem_filter]
  refine ⟨List.mem_map.mpr ⟨a, ha, hsame⟩, ?_⟩
  simpa using ⟨hurl, hlocal⟩

theorem performs_drainQueue (hpublication : held .publication) (s : AppState) :
    Performs .drain held (fun _ => True) s (Task.lift drainQueue) := by
  have hstill : ∀ s, Change .drain held s s := fun s => .aside rfl (fun _ => rfl)
  unfold drainQueue
  rw [Task.lift_bind]
  refine ⟨Meets.bind (environment _) ((Task.meets_query hstill).mono ?_)⟩
  rintro r _ t ⟨rfl, hread⟩
  cases r with
  | error e => exact ⟨rfl, trivial⟩
  | ok rows =>
    obtain ⟨s₁, _, hrows, hrely⟩ := hread rows rfl
    have hrows : s₁.db.attachmentDeletions.dedup.take 100 = rows := Except.ok.inj hrows
    have hdistinct : rows.Nodup := by
      rw [← hrows]
      exact (List.nodup_dedup _).sublist (List.take_sublist _ _)
    have hqueued : ∀ url ∈ rows, url ∈ (rowsOf s₁).deletions := by
      intro url hurl
      rw [← hrows] at hurl
      exact List.mem_dedup.mp (List.mem_of_mem_take hurl)
    have hqueued : ∀ url ∈ rows, url ∈ (rowsOf t).deletions :=
      fun url hurl => (hrely.collector rfl hpublication).deletions url (hqueued url hurl)
    change (Task.lift (liveUrls (rows.filter localUrl) >>= fun live =>
      drainRows live rows)).Meets _ _ _ _ _
    rw [Task.lift_bind]
    unfold liveUrls
    split
    · next hempty =>
      refine (performs_drainRows hpublication hdistinct
        ⟨rfl, fun url hurl hlocal _ => ?_⟩).meets
      have hmem : url ∈ rows.filter localUrl := List.mem_filter.mpr ⟨hurl, hlocal⟩
      rw [List.isEmpty_iff.mp hempty] at hmem
      cases hmem
    · refine Meets.bind (environment _) ((Task.meets_query hstill).mono ?_)
      rintro r _ u ⟨rfl, hread⟩
      cases r with
      | error e => exact ⟨rfl, trivial⟩
      | ok live =>
        obtain ⟨s₂, hbefore, hlive, hafter⟩ := hread live rfl
        have hdue : Due (rowsOf s₂).storagePath live rows s₂ := by
          refine due_read (fun url hurl => ?_) (Except.ok.inj hlive)
          exact (hbefore.collector rfl hpublication).deletions url (hqueued url hurl)
        exact (performs_drainRows hpublication hdistinct
          (stable_due hpublication s₂ u hafter hdue)).meets

theorem performs_drain (s : AppState) :
    Performs .drain noLock (fun _ => True) s drainAttachmentDeletions := by
  have hcount : Performs .drain noLock (fun _ => True) s (MonadLiftT.monadLift queued : Work Nat) :=
    performs_steps (respects_still (Prog.preserves_query _ _) rowsOnly_true)
  refine performs_seq hcount (fun count t _ => ?_)
  split
  · exact performs_done trivial
  · exact performs_within (fun h => h) (fun t _ => performs_drainQueue (.inl rfl) t)

end

theorem performs_answeredSteps {α : Type} {op : Operation} {s : AppState} {p : App α}
    {P : α → Prop} (h : p.Respects (fun _ => True) (Change op noLock) P) :
    Performs op noLock (fun _ => True) s (Operation.answered (MonadLiftT.monadLift p : Work α)) :=
  performs_answered (performs_steps h)

def Finishes (op : Operation) (r : Except AppError (Option Bool)) (h : Mutex → Prop)
    (_ : AppState) : Prop :=
  h = noLock ∧ ∀ scan claims, op = .process scan claims → 2 ≤ claims → r ≠ .ok none

theorem meets_operation {m : Originals} (hslash : m.isAlphanumeric '/' = false) (op : Operation)
    (s : AppState) :
    (op.program m).Meets (Rely op) (Change op) (Finishes op) noLock s := by
  have hother : ∀ {p : Work (Option Bool)}, op.worker = false →
      Performs op noLock (fun _ => True) s p →
      p.Meets (Rely op) (Change op) (Finishes op) noLock s := by
    intro p hworker h
    refine h.meets.mono (fun r _ _ hr => ⟨hr.1, ?_⟩)
    rintro scan claims rfl
    cases hworker
  unfold Operation.program
  cases op with
  | process scan claims =>
    refine (performs_processOne hslash rfl claims s).meets.mono (fun r _ _ hr => ⟨hr.1, ?_⟩)
    rintro _ _ ⟨⟩
    exact hr.2
  | cleanup => exact hother rfl (performs_answered (performs_cleanup hslash (by simp) rfl s))
  | setPolicy scope auth policy =>
    exact hother rfl (performs_answered (performs_setPolicy (by simp) rfl scope auth policy s))
  | resetPolicy scope auth =>
    exact hother rfl (performs_answered (performs_resetPolicy (by simp) rfl scope auth s))
  | review id auth request =>
    exact hother rfl (performs_answered (performs_review hslash (by simp) rfl id auth request s))
  | blockHash scope hash reason auth =>
    exact hother rfl (performs_answered (performs_blockHash (by simp) rfl scope hash reason auth s))
  | blockAttachment scope id reason auth legacy =>
    exact hother rfl
      (performs_answered (performs_blockAttachment (by simp) rfl scope id reason auth legacy s))
  | unblockHash scope hash auth =>
    exact hother rfl (performs_answered (performs_unblockHash (by simp) rfl scope hash auth s))
  | deleteMessage channelId messageId auth reply =>
    exact hother rfl (performs_answeredSteps (respects_routeDelete (by simp) channelId messageId auth reply))
  | bulkDelete channelId auth messages =>
    exact hother rfl (performs_answeredSteps (respects_bulkDelete (by simp) channelId auth messages))
  | purge spaceId userId seconds =>
    exact hother rfl (performs_answeredSteps (respects_purge (by simp) spaceId userId seconds))
  | drain => exact hother rfl (performs_answered (performs_drain s))

theorem compatible {m : Originals} (hslash : m.isAlphanumeric '/' = false) :
    Lib.Pool.Compatible (Operation.program m) Exclusive Elsewhere Rely Change Finishes where
  env := environment
  meets := meets_operation hslash
  idle := by
    rintro op r held s ⟨rfl, _⟩ mutex h
    exact h
  others := fun _ _ _ _ _ _ => rely_change
  outer := fun _ _ _ _ => rely_elsewhere

end Vokusz.Automod
