import Vokusz.Automod.Collection

namespace Vokusz.Automod

open Db Permissions
open Lib (Prog Task Pool)
open Lib.Task (Meets)
open Db.Messages (CreateMessage)
open Routes.Reactions (requireNotTimedOutIn)
open Routes.Messages (UploadFile Uploads requireThreadPermission)

section

variable {u : AutomodUpload} {rows : List AutomodUpload} {k : Commit}

def totals (rows : List AutomodUpload) : Nat × Int :=
  ((rows.filter (fun u => withheld u.status)).length,
    ((rows.filter (fun u => withheld u.status)).map AutomodUpload.size).sum)

theorem totals_held (h : withheld u.status = true) :
    totals (u :: rows) = ((totals rows).1 + 1, u.size + (totals rows).2) := by
  unfold totals
  rw [List.filter_cons, if_pos h]
  rfl

theorem totals_free (h : withheld u.status = false) : totals (u :: rows) = totals rows := by
  unfold totals
  rw [List.filter_cons, if_neg (by simp [h])]

theorem totals_append (xs ys : List AutomodUpload) :
    totals (xs ++ ys) = ((totals xs).1 + (totals ys).1, (totals xs).2 + (totals ys).2) := by
  unfold totals
  rw [List.filter_append, List.length_append, List.map_append, List.sum_append]

theorem totals_of_held (h : ∀ u ∈ rows, withheld u.status = true) :
    totals rows = (rows.length, (rows.map AutomodUpload.size).sum) := by
  unfold totals
  rw [List.filter_eq_self.mpr h]

theorem totals_same {f : AutomodUpload → AutomodUpload}
    (h : ∀ u, (f u).status = u.status ∧ (f u).size = u.size) (rows : List AutomodUpload) :
    totals (rows.map f) = totals rows := by
  induction rows with
  | nil => rfl
  | cons u rows ih =>
    rw [List.map_cons]
    cases hheld : withheld u.status with
    | true =>
      have hnew : withheld (f u).status = true := by rw [(h u).1, hheld]
      rw [totals_held hheld, totals_held hnew, ih, (h u).2]
    | false =>
      have hnew : withheld (f u).status = false := by rw [(h u).1, hheld]
      rw [totals_free hheld, totals_free hnew, ih]

def decided (k : Commit) (rows : List AutomodUpload) : List AutomodUpload :=
  rows.map (fun u => if k.current u then k.decides u else u)

def taken (k : Commit) (rows : List AutomodUpload) : List AutomodUpload := rows.filter k.current

theorem status_of_current (h : k.current u = true) : u.status = k.upload.status := by
  unfold Commit.current at h
  simp only [Bool.and_eq_true, decide_eq_true_eq] at h
  exact h.2

theorem totals_decided_le (hk : withheld k.upload.status = true ∨ withheld k.status = false)
    (hsize : ∀ u ∈ rows, 0 ≤ u.size) :
    (totals (decided k rows)).1 ≤ (totals rows).1 ∧
      (totals (decided k rows)).2 ≤ (totals rows).2 := by
  induction rows with
  | nil => exact ⟨le_refl _, le_refl _⟩
  | cons u rows ih =>
    have hrest := ih (fun v hv => hsize v (List.mem_cons_of_mem _ hv))
    have hu := hsize u List.mem_cons_self
    unfold decided at hrest ⊢
    rw [List.map_cons]
    split
    · next hcurrent =>
      cases hnew : withheld k.status with
      | true =>
        have hold : withheld u.status = true := by
          rw [status_of_current hcurrent]
          exact hk.resolve_right (by simp [hnew])
        have hdecided : withheld (k.decides u).status = true := hnew
        rw [totals_held hold, totals_held hdecided]
        exact ⟨Nat.add_le_add_right hrest.1 1, Int.add_le_add_left hrest.2 _⟩
      | false =>
        have hdecided : withheld (k.decides u).status = false := hnew
        rw [totals_free hdecided]
        cases hold : withheld u.status with
        | true =>
          rw [totals_held hold]
          dsimp only
          omega
        | false =>
          rw [totals_free hold]
          exact hrest
    · cases hold : withheld u.status with
      | true =>
        rw [totals_held hold, totals_held hold]
        dsimp only
        omega
      | false =>
        rw [totals_free hold, totals_free hold]
        exact hrest

theorem totals_reheld (hold : withheld k.upload.status = false) (hnew : withheld k.status = true)
    (rows : List AutomodUpload) :
    totals (decided k rows) =
      ((totals rows).1 + (taken k rows).length,
        (totals rows).2 + ((taken k rows).map AutomodUpload.size).sum) := by
  induction rows with
  | nil => rfl
  | cons u rows ih =>
    unfold decided taken at ih ⊢
    rw [List.map_cons]
    split
    · next hcurrent =>
      have hfree : withheld u.status = false := by rw [status_of_current hcurrent, hold]
      have hdecided : withheld (k.decides u).status = true := hnew
      rw [totals_held hdecided, totals_free hfree, ih, List.filter_cons_of_pos hcurrent,
        List.length_cons, List.map_cons, List.sum_cons]
      have hsize : (k.decides u).size = u.size := rfl
      rw [hsize]
      refine Prod.ext ?_ ?_
      · dsimp only
        omega
      · dsimp only
        omega
    · next hcurrent =>
      rw [List.filter_cons_of_neg hcurrent]
      cases hu : withheld u.status with
      | true =>
        rw [totals_held hu, totals_held hu, ih]
        refine Prod.ext ?_ ?_
        · dsimp only
          omega
        · dsimp only
          omega
      | false => rw [totals_free hu, totals_free hu, ih]

end

structure UploadRequest where
  channelId : String
  auth : AuthUser
  input : CreateMessage
  files : List UploadFile

def prepare (request : UploadRequest) : App (ChannelRow × Int) := do
  let spaceId ← requireChannelPermission request.channelId request.auth "send_messages"
  requireNotTimedOutIn spaceId request.auth
  requireThreadPermission request.channelId request.auth request.input
  let channel ← Channels.getChannelRow request.channelId
  let cooldownMs ← slowmodeCooldownMs channel request.auth
  return (channel, cooldownMs)

def queueBatch (up : Uploads) (request : UploadRequest) (channel : ChannelRow) (msg : MessageRow)
    (policy : Policy) : App (MessageRow × List String) := do
  let queued ← (({ up with retentionDays := policy.retentionDays } : Uploads).enqueue channel msg.id
    request.auth.userId request.files).attempt
  match queued with
  | .ok ids => return (msg, ids)
  | .error e =>
    Db.Messages.deleteMessage msg.id
    Prog.fail e

def admitBatch (limits : Limits) (up : Uploads) (request : UploadRequest) (channel : ChannelRow)
    (cooldownMs : Int) : App (MessageRow × List String) := do
  let policy ← preflight limits channel request.auth request.files
  let msg ← Db.Messages.createMessage channel.id request.auth.userId channel.spaceId request.input
    cooldownMs
  match policy with
  | none => return (msg, [])
  | some policy => queueBatch up request channel msg policy

def uploadMessage (limits : Limits) (up : Uploads) (request : UploadRequest) :
    Work (MessageRow × List String) := do
  let (channel, cooldownMs) ← (prepare request : App (ChannelRow × Int))
  Task.locked .admission
    (admitBatch limits up request channel cooldownMs : App (MessageRow × List String))

def incoming (files : List UploadFile) : Int :=
  (files.map (fun f => (f.bytes.length : Int))).sum

def Fits (limits : Limits) (count : Nat) (size : Int) (s : AppState) : Prop :=
  (totals (rowsOf s).uploads).1 + count ≤ limits.maxHeld ∧
    (totals (rowsOf s).uploads).2 + size ≤ limits.maxHeldBytes

def FitsFiles (limits : Limits) (files : List UploadFile) (s : AppState) : Prop :=
  Fits limits files.length (incoming files) s

inductive Activity where
  | operation (op : Operation)
  | upload (request : UploadRequest)

namespace Activity

def program (m : Originals) (limits : Limits) (up : Uploads) : Activity → Work (Option Bool)
  | .operation op => op.program m
  | .upload request => Operation.answered (uploadMessage limits up request)

def Exclusive : Activity → Prop
  | .operation op => Automod.Exclusive op
  | .upload _ => False

def Relies (limits : Limits) : Activity → (Mutex → Prop) → AppState → AppState → Prop
  | .operation op => Rely op
  | .upload request => fun held s t =>
    held .admission → FitsFiles limits request.files s → FitsFiles limits request.files t

end Activity

structure Queues (limits : Limits) (files : List UploadFile) (s t : AppState) : Prop where
  room : FitsFiles limits files s
  rows : ∃ added : List AutomodUpload,
    rowsOf t = { rowsOf s with uploads := (rowsOf s).uploads ++ added } ∧
      added.length ≤ files.length ∧ (added.map AutomodUpload.size).sum ≤ incoming files ∧
      ∀ u ∈ added, u.status = "pending" ∧ 0 ≤ u.size

def Admits (limits : Limits) (files : List UploadFile) (held : Mutex → Prop) (s t : AppState) :
    Prop :=
  Change .cleanup noLock s t ∨ held .admission ∧ Queues limits files s t

namespace Activity

def Does (limits : Limits) : Activity → (Mutex → Prop) → AppState → AppState → Prop
  | .operation op => Change op
  | .upload request => Admits limits request.files

def Finishes : Activity → Except AppError (Option Bool) → (Mutex → Prop) → AppState → Prop
  | .operation op => Automod.Finishes op
  | .upload _ => fun _ held _ => held = noLock

end Activity

section

variable {limits : Limits} {up : Uploads} {request : UploadRequest} {channel : ChannelRow}
  {held : Mutex → Prop} {s t : AppState} {α : Type} {m : Originals}

theorem environment_upload (limits : Limits) (request : UploadRequest) :
    Task.Environment (Activity.Relies limits (.upload request)) := by
  constructor
  · exact fun _ _ _ h => h
  · exact fun _ _ _ _ hst htu hheld h => htu hheld (hst hheld h)
  · exact fun _ _ _ _ hfewer hst hheld h => hst (hfewer _ hheld) h

theorem stable_fits (hheld : held .admission) (s t : AppState)
    (h : Activity.Relies limits (.upload request) held s t)
    (hs : FitsFiles limits request.files s) : FitsFiles limits request.files t := h hheld hs

theorem fits_rows (hrows : rowsOf t = rowsOf s) (h : FitsFiles limits request.files s) :
    FitsFiles limits request.files t := by
  unfold FitsFiles Fits at h ⊢
  rwa [hrows]

theorem respects_reading {p : App α} (h : p.Preserves rowsOf) :
    p.Respects (FitsFiles limits request.files) (Admits limits request.files held)
      (fun _ => True) :=
  h.respects (fun _ _ hrows hs => fits_rows hrows hs)
    (fun _ _ _ hrows => .inl (.aside hrows (fun hdrain => by cases hdrain)))

theorem respects_freely {p : App α} (h : p.Preserves rowsOf) :
    p.Respects (fun _ => True) (Admits limits request.files held) (fun _ => True) :=
  h.respects (fun _ _ _ _ => trivial)
    (fun _ _ _ hrows => .inl (.aside hrows (fun hdrain => by cases hdrain)))

theorem meets_requireRoom (hheld : held .admission) (s : AppState) :
    (Task.lift (requireRoom limits request.files)).Meets
      (Activity.Relies limits (.upload request)) (Admits limits request.files)
      (fun r h t => h = held ∧ ∀ u, r = .ok u → FitsFiles limits request.files t) held s := by
  have henv := environment_upload limits request
  have hquiet : ∀ s, Admits limits request.files held s s :=
    fun s => .inl (.aside rfl (fun hdrain => by cases hdrain))
  unfold requireRoom
  rw [Task.lift_bind]
  refine Meets.bind henv ((Task.meets_query hquiet).mono ?_)
  rintro r h t ⟨rfl, hread⟩
  cases r with
  | error e => exact ⟨rfl, fun u hu => by cases hu⟩
  | ok found =>
    obtain ⟨s', _, hfound, hrely⟩ := hread found rfl
    cases hfound
    change (Task.lift (Prog.require _ _)).Meets _ _ _ h t
    unfold Prog.require
    split
    · next hroom =>
      intro t' ht'
      exact ⟨rfl, fun _ _ => stable_fits hheld t t' ht' (hrely hheld hroom)⟩
    · intro t' _
      exact ⟨rfl, fun u hu => by cases hu⟩

theorem preserves_preflightRules {view : AppState → α} (author hash : String)
    (rules : List Rule) : (preflightRules channel author hash rules).Preserves view := by
  induction rules with
  | nil => exact Prog.preserves_pure _
  | cons rule rules ih =>
    refine Prog.preserves_ite ?_ ih
    refine (preserves_nonMediaMatch _ _ _ _).bind (fun fires => ?_)
    exact (Prog.preserves_require _ _).bind (fun _ => ih)

theorem preserves_preflightFiles {view : AppState → α} (author : String) (rules : List Rule)
    (files : List UploadFile) : (preflightFiles channel author rules files).Preserves view := by
  induction files with
  | nil => exact Prog.preserves_pure _
  | cons file files ih => exact (preserves_preflightRules _ _ _).bind (fun _ => ih)

theorem meets_preflight (hheld : held .admission) (s : AppState) :
    (Task.lift (preflight limits channel request.auth request.files)).Meets
      (Activity.Relies limits (.upload request)) (Admits limits request.files)
      (fun r h t => h = held ∧ ∀ policy, r = .ok (some policy) → FitsFiles limits request.files t)
      held s := by
  have henv := environment_upload limits request
  have hfailed : ∀ (e : AppError) (t : AppState), held = held ∧ ∀ policy : Policy,
      (Except.error e : Except AppError (Option Policy)) = .ok (some policy) →
        FitsFiles limits request.files t :=
    fun e t => ⟨rfl, fun policy h => by cases h⟩
  have htrue : ∀ s t : AppState, Activity.Relies limits (.upload request) held s t →
      True → True := fun _ _ _ h => h
  have hnone : ∀ t : AppState, (Task.lift (pure none : App (Option Policy))).Meets
      (Activity.Relies limits (.upload request)) (Admits limits request.files)
      (fun r h t => h = held ∧ ∀ policy, r = .ok (some policy) → FitsFiles limits request.files t)
      held t :=
    fun t t' _ => ⟨rfl, fun policy h => by cases h⟩
  unfold preflight
  split
  · exact hnone s
  · refine Task.meets_lift_bind henv (respects_freely (App.preserves_lift _)) htrue trivial hfailed
      (fun policy _ _ _ => ?_)
    refine Task.meets_lift_bind henv (respects_freely (preserves_exemptUnder _ _ _)) htrue trivial
      hfailed (fun exempted _ _ _ => ?_)
    dsimp only
    refine Task.meets_lift_bind henv (respects_freely (Prog.preserves_ite
      (preserves_rejectBlocked _ _) (Prog.preserves_pure _))) htrue trivial hfailed
      (fun _ t _ _ => ?_)
    split
    · rw [Task.lift_bind]
      refine Meets.bind henv ((meets_requireRoom hheld t).mono ?_)
      rintro r h u ⟨rfl, hroom⟩
      cases r with
      | error e => exact hfailed e u
      | ok _ =>
        refine Task.meets_lift_bind henv (respects_reading (preserves_preflightFiles _ _ _))
          (stable_fits hheld) (hroom _ rfl) hfailed (fun _ v _ hfits => ?_)
        exact fun w hw => ⟨rfl, fun _ _ => stable_fits hheld v w hw hfits⟩
    · exact hnone t

theorem preserves_generateIds (files : List UploadFile) :
    (Uploads.enqueue.generateIds files).Preserves rowsOf := by
  induction files with
  | nil => exact Prog.preserves_pure _
  | cons file files ih =>
    exact (preserves_rows App.touches_generateId (by decide)).bind
      (fun id => ih.bind (fun ids => Prog.preserves_pure _))

def pendingRows (up : Uploads) (channel : ChannelRow) (messageId authorId : String) (now : Nat)
    (ids : List String) (files : List UploadFile) : List AutomodUpload :=
  List.zipWith (up.pendingUpload channel messageId authorId now) ids files

theorem pendingRows_size (up : Uploads) (channel : ChannelRow) (messageId authorId : String)
    (now : Nat) (ids : List String) (files : List UploadFile) :
    ((pendingRows up channel messageId authorId now ids files).map AutomodUpload.size).sum ≤
      incoming files := by
  induction ids generalizing files with
  | nil =>
    have hnonneg : ∀ files : List UploadFile, 0 ≤ incoming files := by
      intro files
      induction files with
      | nil => exact le_refl _
      | cons file files ih =>
        unfold incoming at ih ⊢
        rw [List.map_cons, List.sum_cons]
        omega
    exact hnonneg files
  | cons id ids ih =>
    cases files with
    | nil => exact le_refl _
    | cons file files => exact Int.add_le_add_left (ih files) _

theorem mem_pendingRows {channel : ChannelRow} {messageId authorId : String} {now : Nat}
    {ids : List String} {files : List UploadFile} {u : AutomodUpload}
    (h : u ∈ pendingRows up channel messageId authorId now ids files) :
    u.status = "pending" ∧ 0 ≤ u.size := by
  induction ids generalizing files with
  | nil => cases h
  | cons id ids ih =>
    cases files with
    | nil => cases h
    | cons file files =>
      rcases List.mem_cons.mp h with rfl | hrest
      · exact ⟨rfl, Int.natCast_nonneg _⟩
      · exact ih hrest

theorem queues_pendingRows {messageId authorId : String} {now : Nat} {ids : List String}
    (hs : FitsFiles limits request.files s) :
    Queues limits request.files s (s.withDb { s.db with
      automodUploads := s.db.automodUploads ++
        pendingRows up channel messageId authorId now ids request.files }) := by
  refine ⟨hs, pendingRows up channel messageId authorId now ids request.files, rfl, ?_, ?_, ?_⟩
  · unfold pendingRows
    rw [List.length_zipWith]
    exact Nat.min_le_right _ _
  · exact pendingRows_size up channel messageId authorId now ids request.files
  · exact fun u hu => mem_pendingRows hu

theorem meets_enqueue (hheld : held .admission) (hs : FitsFiles limits request.files s)
    (messageId authorId : String) :
    (Task.lift (up.enqueue channel messageId authorId request.files)).Meets
      (Activity.Relies limits (.upload request)) (Admits limits request.files)
      (fun _ h _ => h = held) held s := by
  have henv := environment_upload limits request
  have hstable : ∀ s t, Activity.Relies limits (.upload request) held s t →
      FitsFiles limits request.files s → FitsFiles limits request.files t := stable_fits hheld
  unfold Uploads.enqueue
  refine Task.meets_lift_bind henv (respects_reading (preserves_generateIds _)) hstable hs
    (fun _ _ => rfl) (fun ids s₁ _ h₁ => ?_)
  refine Task.meets_lift_bind henv (respects_reading (App.preserves_liftExcept _)) hstable h₁
    (fun _ _ => rfl) (fun _ s₂ _ h₂ => ?_)
  refine Task.meets_lift_bind henv (respects_reading (Prog.preserves_get _)) hstable h₂
    (fun _ _ => rfl) (fun now s₃ _ h₃ => ?_)
  rw [Task.lift_bind]
  refine Meets.bind henv ((Task.meets_statement (I := FitsFiles limits request.files)
    (fun s hs => .inr ⟨hheld, queues_pendingRows hs⟩) hstable h₃).mono ?_)
  rintro r h t rfl
  cases r with
  | error e => exact rfl
  | ok _ => exact fun _ _ => rfl

theorem meets_queueBatch (hheld : held .admission) (hs : FitsFiles limits request.files s)
    (msg : MessageRow) (policy : Policy) :
    (Task.lift (queueBatch up request channel msg policy)).Meets
      (Activity.Relies limits (.upload request)) (Admits limits request.files)
      (fun _ h _ => h = held) held s := by
  have henv := environment_upload limits request
  unfold queueBatch
  rw [Task.lift_bind, Task.lift_attempt]
  refine Meets.bind henv (Meets.attempt ((meets_enqueue hheld hs _ _).mono ?_))
  rintro r h t rfl
  cases r with
  | ok ids => exact fun _ _ => rfl
  | error e =>
    have hdeleted : (Db.Messages.deleteMessage msg.id).Respects (fun _ => True)
        (Admits limits request.files h) (fun _ => True) :=
      (respects_deleteMessage (by simp) msg.id).weaken (fun _ _ hchange => .inl hchange)
    exact Task.meets_lift_bind henv hdeleted (fun _ _ _ _ => trivial) trivial (fun _ _ => rfl)
      (fun _ _ _ _ _ _ => rfl)

theorem meets_admitBatch (hheld : held .admission) (cooldownMs : Int) (s : AppState) :
    (Task.lift (admitBatch limits up request channel cooldownMs)).Meets
      (Activity.Relies limits (.upload request)) (Admits limits request.files)
      (fun _ h _ => h = held) held s := by
  have henv := environment_upload limits request
  unfold admitBatch
  rw [Task.lift_bind]
  refine Meets.bind henv ((meets_preflight hheld s).mono ?_)
  rintro r h t ⟨rfl, hfits⟩
  cases r with
  | error e => exact rfl
  | ok policy =>
    have hcreate : (Db.Messages.createMessage channel.id request.auth.userId channel.spaceId
        request.input cooldownMs).Preserves rowsOf :=
      preserves_rows (Db.Messages.touches_createMessage _ _ _ _) (by decide)
    cases policy with
    | none =>
      exact Task.meets_lift_bind henv (respects_freely hcreate) (fun _ _ _ h => h) trivial
        (fun _ _ => rfl) (fun _ _ _ _ _ _ => rfl)
    | some policy =>
      exact Task.meets_lift_bind henv (respects_reading hcreate) (stable_fits hheld)
        (hfits policy rfl) (fun _ _ => rfl)
        (fun msg t _ ht => meets_queueBatch hheld ht msg policy)

theorem preserves_prepare (request : UploadRequest) : (prepare request).Preserves rowsOf := by
  refine (App.preserves_lift _).bind (fun spaceId => ?_)
  refine Prog.Preserves.bind ?_ (fun _ => ?_)
  · have htouches : App.Touches [] (requireNotTimedOutIn spaceId request.auth) :=
      Routes.Reactions.touches_requireNotTimedOutIn _ _
    exact preserves_rows htouches (by decide)
  refine (App.preserves_lift _).bind (fun _ => ?_)
  refine (App.preserves_lift _).bind (fun channel => ?_)
  exact (App.preserves_lift _).bind (fun _ => Prog.preserves_pure _)

theorem meets_uploadMessage (limits : Limits) (up : Uploads) (request : UploadRequest)
    (s : AppState) :
    (Activity.program m limits up (.upload request)).Meets
      (Activity.Relies limits (.upload request)) (Activity.Does limits (.upload request))
      (Activity.Finishes (.upload request)) noLock s := by
  have henv := environment_upload limits request
  have hupload : (uploadMessage limits up request).Meets
      (Activity.Relies limits (.upload request)) (Admits limits request.files)
      (fun _ h _ => h = noLock) noLock s := by
    unfold uploadMessage
    refine Meets.bind henv ((Task.meets_lift (respects_freely (preserves_prepare request))
      (fun _ _ _ h => h) trivial).mono ?_)
    rintro r h t ⟨rfl, _, _⟩
    cases r with
    | error e => exact rfl
    | ok prepared =>
      refine Task.meets_locked henv (fun h => h) (fun s' _ => ?_)
      refine (meets_admitBatch (.inl rfl) prepared.2 s').mono ?_
      rintro r h t rfl
      exact ⟨rfl, fun _ _ => rfl⟩
  refine Meets.bind henv (hupload.mono ?_)
  rintro r h t rfl
  cases r with
  | error e => exact rfl
  | ok _ => exact fun _ _ => rfl

end

section

variable {limits : Limits} {op : Operation} {held : Mutex → Prop} {s t : AppState} {k : Commit}
  {files : List UploadFile} {count : Nat} {size : Int}

structure Reholds (k : Commit) (s t : AppState) : Prop where
  accepted : k.refusal s.db = none
  rows : rowsOf t = rowsOf (s.withDb (k.effect s.db))
  before : withheld k.upload.status = false
  after : withheld k.status = true

def takenCount (k : Commit) (s : AppState) : Nat := (taken k (rowsOf s).uploads).length

def takenSize (k : Commit) (s : AppState) : Int :=
  ((taken k (rowsOf s).uploads).map AutomodUpload.size).sum

def Sized (s : AppState) : Prop := ∀ u ∈ (rowsOf s).uploads, 0 ≤ u.size

structure Budgeted (limits : Limits) (s : AppState) : Prop where
  fits : Fits limits 0 0 s
  sized : Sized s

theorem Fits.mono (h : Fits limits count size s)
    (hcount : (totals (rowsOf t).uploads).1 ≤ (totals (rowsOf s).uploads).1)
    (hsize : (totals (rowsOf t).uploads).2 ≤ (totals (rowsOf s).uploads).2) :
    Fits limits count size t := by
  unfold Fits at h ⊢
  omega

theorem Fits.of_uploads (h : Fits limits count size s)
    (huploads : (rowsOf t).uploads = (rowsOf s).uploads) : Fits limits count size t := by
  unfold Fits at h ⊢
  rwa [huploads]

theorem Reholds.fits_iff (h : Reholds k s t) :
    Fits limits count size t ↔
      Fits limits (takenCount k s + count) (takenSize k s + size) s := by
  have huploads : (rowsOf t).uploads = decided k (rowsOf s).uploads := by
    rw [h.rows]
    rfl
  unfold Fits takenCount takenSize
  rw [huploads, totals_reheld h.before h.after]
  dsimp only
  omega

theorem sized_map {f : AutomodUpload → AutomodUpload} (h : Sized s)
    (hf : ∀ u, (f u).size = u.size) (hrows : (rowsOf t).uploads = (rowsOf s).uploads.map f) :
    Sized t := by
  intro u hu
  rw [hrows] at hu
  obtain ⟨v, hv, rfl⟩ := List.mem_map.mp hu
  rw [hf v]
  exact h v hv

theorem Sized.of_uploads (h : Sized s) (huploads : (rowsOf t).uploads = (rowsOf s).uploads) :
    Sized t := by
  unfold Sized at h ⊢
  rwa [huploads]

theorem Change.budget (h : Change op held s t) (hsized : Sized s) :
    Sized t ∧ ((∃ k, Reholds k s t) ∨
      (totals (rowsOf t).uploads).1 ≤ (totals (rowsOf s).uploads).1 ∧
        (totals (rowsOf t).uploads).2 ≤ (totals (rowsOf s).uploads).2) := by
  have hsame : (rowsOf t).uploads = (rowsOf s).uploads →
      Sized t ∧ ((∃ k, Reholds k s t) ∨
        (totals (rowsOf t).uploads).1 ≤ (totals (rowsOf s).uploads).1 ∧
          (totals (rowsOf t).uploads).2 ≤ (totals (rowsOf s).uploads).2) := by
    intro huploads
    refine ⟨hsized.of_uploads huploads, .inr ?_⟩
    rw [huploads]
    exact ⟨le_refl _, le_refl _⟩
  cases h with
  | aside hrows hfiles => exact hsame (by rw [hrows])
  | commits k hop hprocessing hpublication hrefusal hreleases hknown hruled hrows =>
    have huploads : (rowsOf t).uploads = decided k (rowsOf s).uploads := by
      rw [hrows]
      rfl
    have hsizes : Sized t := by
      refine sized_map hsized (fun u => ?_) huploads
      split
      · rfl
      · rfl
    refine ⟨hsizes, ?_⟩
    by_cases hreheld : withheld k.upload.status = false ∧ withheld k.status = true
    · exact .inl ⟨k, hrefusal, hrows, hreheld.1, hreheld.2⟩
    · right
      rw [huploads]
      refine totals_decided_le ?_ hsized
      cases hbefore : withheld k.upload.status with
      | true => exact .inl rfl
      | false =>
        cases hafter : withheld k.status with
        | true => exact absurd ⟨hbefore, hafter⟩ hreheld
        | false => exact .inr rfl
  | configures hop hprocessing hworker huploads hurls hdeletions hstorage => exact hsame huploads
  | notes f hop hheld hf hrows hsize =>
    have huploads : (rowsOf t).uploads = (rowsOf s).uploads.map f := by rw [hrows]
    refine ⟨sized_map hsized hsize huploads, .inr ?_⟩
    rw [huploads, totals_same (fun u => ⟨(hf u).2.2, hsize u⟩)]
    exact ⟨le_refl _, le_refl _⟩
  | removes keep deletions hop hkept hqueued hrows => exact hsame (by rw [hrows])
  | unlinks url path hop hurl hqueued hgone hpath hroot hrows hfiles => exact hsame (by rw [hrows])
  | unqueues url hop hpublication hrows hfiles => exact hsame (by rw [hrows])

theorem quiet_uploads (h : Change .cleanup noLock s t) :
    (rowsOf t).uploads = (rowsOf s).uploads := by
  cases h with
  | aside hrows hfiles => rw [hrows]
  | commits k hop hprocessing => exact hprocessing.elim
  | configures hop hprocessing => exact hprocessing.elim
  | notes f hop hheld =>
    rcases hheld with hheld | hworker
    · exact hheld.elim
    · cases hworker
  | removes keep deletions hop hkept hqueued hrows => rw [hrows]
  | unlinks url path hop => cases hop
  | unqueues url hop => cases hop

theorem rely_queues (h : Queues limits files s t) : Rely op held s t := by
  obtain ⟨added, hrows, _⟩ := h.rows
  constructor
  · intro u hu
    refine ⟨u, ?_, rfl, rfl⟩
    rw [hrows]
    exact List.mem_append_left _ hu
  · refine fun _ _ => ⟨by rw [hrows], by rw [hrows], fun id row hrow => ?_⟩
    rw [hrows, Lib.Table.lookup, List.find?_append, show List.find? _ _ = some row from hrow]
    rfl
  · refine fun _ _ => ⟨by rw [hrows], fun url hurl => ?_, fun a ha => .inl ⟨a, ?_, rfl⟩⟩
    · rwa [hrows]
    · rwa [hrows] at ha

theorem Queues.budget (h : Queues limits files s t) (hsized : Sized s) : Budgeted limits t := by
  obtain ⟨added, hrows, hlength, hsum, hadded⟩ := h.rows
  have huploads : (rowsOf t).uploads = (rowsOf s).uploads ++ added := by rw [hrows]
  have hheld : ∀ u ∈ added, withheld u.status = true := by
    intro u hu
    rw [(hadded u hu).1]
    rfl
  have hroom := h.room
  constructor
  · unfold FitsFiles Fits at hroom
    unfold Fits
    rw [huploads, totals_append, totals_of_held hheld]
    dsimp only
    omega
  · intro u hu
    rw [huploads] at hu
    rcases List.mem_append.mp hu with hold | hnew
    · exact hsized u hold
    · exact (hadded u hnew).2

end

structure Outside (s t : AppState) : Prop where
  elsewhere : Elsewhere s t
  uploads : (rowsOf t).uploads = (rowsOf s).uploads

section

variable {ι : Type} [DecidableEq ι] {m : Originals} {limits : Limits} {up : Uploads}

abbrev Server (ι : Type) := Pool ι Activity Mutex AppState AppError (Option Bool)

structure Roomy (limits : Limits) (c : Server ι) (k : Commit) : Prop where
  held : Fits limits (takenCount k c.state) (takenSize k c.state) c.state
  admitted : ∀ i request p, c.threads i = some (.upload request, p) → c.owner .admission = some i →
    FitsFiles limits request.files c.state →
    Fits limits (takenCount k c.state + request.files.length)
      (takenSize k c.state + incoming request.files) c.state

def Careful (limits : Limits) (c d : Server ι) : Prop :=
  ∀ k, Reholds k c.state d.state → Roomy limits c k

abbrev Steps (m : Originals) (limits : Limits) (up : Uploads) : Server ι → Server ι → Prop :=
  Pool.Step (Activity.program m limits up) Activity.Exclusive Outside

abbrev Watched (limits : Limits) (c : Server ι) : Prop :=
  Pool.Keeping Activity.Exclusive (Activity.Relies limits) (Activity.Does limits)
    Activity.Finishes c

variable {c d : Server ι}

theorem environment_activity (limits : Limits) (a : Activity) :
    Task.Environment (Activity.Relies limits a) := by
  cases a with
  | operation op => exact environment op
  | upload request => exact environment_upload limits request

theorem meets_activity (hslash : m.isAlphanumeric '/' = false) (a : Activity) (s : AppState) :
    (a.program m limits up).Meets (Activity.Relies limits a) (Activity.Does limits a)
      (Activity.Finishes a) (fun _ => False) s := by
  cases a with
  | operation op => exact meets_operation hslash op s
  | upload request => exact meets_uploadMessage limits up request s

theorem finishes_idle (a : Activity) (r : Except AppError (Option Bool)) (held : Mutex → Prop)
    (s : AppState) (h : Activity.Finishes a r held s) (mutex : Mutex) : ¬ held mutex := by
  have hnone : held = noLock := by
    cases a with
    | operation op => exact h.1
    | upload request => exact h
  rw [hnone]
  exact fun hheld => hheld

theorem relies_step (hk : Watched limits c) (hb : Budgeted limits c.state)
    (hstep : Steps m limits up c d) (hcareful : Careful limits c d) {j : ι} {a : Activity}
    {p : Work (Option Bool)} (hj : c.threads j = some (a, p)) (hd : d.threads j = some (a, p)) :
    Activity.Relies limits a (c.held j) c.state d.state := by
  have henv := environment_activity limits
  rcases hk.moved henv hstep with heq | ⟨i, a', p', q, hi, hq, hne, hdoes⟩ | hout
  · exact heq ▸ (henv a).refl _ _
  · have hij : j ≠ i := by
      rintro rfl
      rw [hq] at hd
      rw [hi] at hj
      cases hd
      cases hj
      exact hne rfl
    have hdisjoint := Pool.held_disjoint (c := c) hij
    cases a' with
    | operation op' =>
      cases a with
      | operation op =>
        refine rely_change ?_ hdisjoint hdoes
        exact fun hboth => hk.others hi hboth.2 j _ p hij hj hboth.1
      | upload request =>
        intro hheld hfits
        rcases (Change.budget hdoes hb.sized).2 with ⟨k, hrehold⟩ | ⟨hcount, hsize⟩
        · exact hrehold.fits_iff.mpr ((hcareful k hrehold).admitted j request p hj hheld hfits)
        · exact Fits.mono hfits hcount hsize
    | upload request' =>
      rcases hdoes with hquiet | ⟨hadmission, hqueues⟩
      · cases a with
        | operation op =>
          refine rely_change ?_ (fun _ _ h => h) hquiet
          rintro ⟨_, hworker⟩
          cases hworker
        | upload request => exact fun _ hfits => Fits.of_uploads hfits (quiet_uploads hquiet)
      · cases a with
        | operation op => exact rely_queues hqueues
        | upload request => exact fun hheld => absurd hadmission (hdisjoint _ hheld)
  · cases a with
    | operation op => exact rely_elsewhere hout.elsewhere
    | upload request => exact fun _ hfits => Fits.of_uploads hfits hout.uploads

theorem budgeted_step (hk : Watched limits c) (hb : Budgeted limits c.state)
    (hstep : Steps m limits up c d) (hcareful : Careful limits c d) :
    Budgeted limits d.state := by
  rcases hk.moved (environment_activity limits) hstep with
    heq | ⟨i, a, p, q, _, _, _, hdoes⟩ | hout
  · exact heq ▸ hb
  · cases a with
    | operation op =>
      obtain ⟨hsized, hbudget⟩ := Change.budget hdoes hb.sized
      refine ⟨?_, hsized⟩
      rcases hbudget with ⟨k, hrehold⟩ | ⟨hcount, hsize⟩
      · exact hrehold.fits_iff.mpr (by simpa using (hcareful k hrehold).held)
      · exact hb.fits.mono hcount hsize
    | upload request =>
      rcases hdoes with hquiet | ⟨_, hqueues⟩
      · have huploads := quiet_uploads hquiet
        exact ⟨hb.fits.of_uploads huploads, hb.sized.of_uploads huploads⟩
      · exact hqueues.budget hb.sized
  · exact ⟨hb.fits.of_uploads hout.uploads, hb.sized.of_uploads hout.uploads⟩

theorem budgeted_run (hslash : m.isAlphanumeric '/' = false) {s₀ : AppState}
    (h₀ : Budgeted limits s₀)
    (hrun : Relation.ReflTransGen (fun c d => Steps m limits up c d ∧ Careful limits c d)
      ({ state := s₀ } : Server ι) c) :
    Watched limits c ∧ Budgeted limits c.state := by
  induction hrun with
  | refl =>
    refine ⟨⟨?_, ?_, ?_⟩, h₀⟩
    · intro i a p hp
      cases hp
    · intro i mutex _ hown
      cases hown
    · intro i j a a' p p' hp
      cases hp
  | tail _ hstep ih =>
    obtain ⟨hk, hb⟩ := ih
    obtain ⟨hmove, hcareful⟩ := hstep
    refine ⟨?_, budgeted_step hk hb hmove hcareful⟩
    exact hk.step_of_rely (environment_activity limits) (meets_activity hslash) finishes_idle hmove
      (fun _ _ _ hj hd => relies_step hk hb hmove hcareful hj hd)

theorem Reholds.taken_pos {k : Commit} {s t : AppState} (h : Reholds k s t) :
    0 < takenCount k s := by
  have haccepted := h.accepted
  unfold Commit.refusal at haccepted
  split at haccepted
  · next hcurrent =>
    obtain ⟨u, hu, hk⟩ := List.any_eq_true.mp hcurrent
    exact List.length_pos_of_mem (List.mem_filter.mpr ⟨hu, hk⟩)
  · cases haccepted

omit [DecidableEq ι] in
theorem careful_of_state (h : d.state = c.state) : Careful limits c d := by
  intro k hrehold
  have hpos := hrehold.taken_pos
  have huploads : (rowsOf d.state).uploads = decided k (rowsOf c.state).uploads := by
    rw [hrehold.rows]
    rfl
  rw [h] at huploads
  have htotals : (totals (rowsOf c.state).uploads).1 =
      (totals (decided k (rowsOf c.state).uploads)).1 := by rw [← huploads]
  rw [totals_reheld hrehold.before hrehold.after] at htotals
  unfold takenCount at hpos
  omega

end

def secondPicture : AutomodUpload := { pendingPicture with id := "2", messageId := "21" }

def fullHouse : AppState :=
  { released with
    db := { released.db with automodUploads := [releasedPicture, secondPicture] } }

def oneHeld : Limits := { maxHeld := 1 }

def forms : Uploads :=
  { maxAttachments := 10
    maxAttachmentSize := 10
    charge := fun _ => .ok ()
    parse := fun _ => .ok { content := "" }
    contentHash := fun _ => "h"
    isAlphanumeric := Char.isAlphanum
    dimensions := fun _ => (none, none)
    preflight := .ok true
    retentionDays := 7
    enqueued := .ok () }

theorem fullHouse_budgeted : Budgeted oneHeld fullHouse := by
  constructor
  · unfold Fits
    decide +kernel
  · intro u hu
    have hall : ∀ u ∈ (rowsOf fullHouse).uploads, 0 ≤ u.size := by decide +kernel
    exact hall u hu

def withdrawal : Activity :=
  .operation (.review "1" { userId := "ann", isAdmin := true }
    { action := "quarantine", reason := "a complaint" })

def reviewing : Server Nat :=
  Pool.set { state := fullHouse } 0
    (some (withdrawal, withdrawal.program storedPicture oneHeld forms))

theorem reviewing_run :
    Steps storedPicture oneHeld forms { state := fullHouse } reviewing :=
  .start 0 withdrawal rfl (fun h => by cases h)

def recovered : Work (Option Bool) × AppState :=
  (locking (withdrawal.program storedPicture oneHeld forms)).advance 20 fullHouse

end Vokusz.Automod
