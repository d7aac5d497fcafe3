import Vokusz.Automod.Operations

namespace Vokusz.Automod

open Db Permissions
open Lib (Prog Task Table.lookup)
open Lib.Task (Meets Environment)
open Storage (PlainName StoredAs)

section

variable {op : Operation} {held : Mutex → Prop} {s t u : AppState}

theorem Undisturbed.refl (s : AppState) : Undisturbed s s := ⟨rfl, rfl, fun _ _ h => h⟩

theorem Undisturbed.trans (h : Undisturbed s t) (h' : Undisturbed t u) : Undisturbed s u :=
  ⟨h'.policies.trans h.policies, h'.hashes.trans h.hashes,
    fun id row hrow => h'.uploads id row (h.uploads id row hrow)⟩

theorem Undisturbed.of_rows (h : rowsOf t = rowsOf s) : Undisturbed s t := by
  constructor
  · rw [h]
  · rw [h]
  · intro id row hrow
    rwa [h]

theorem Undrained.refl (s : AppState) : Undrained s s :=
  ⟨rfl, fun _ h => h, fun a ha => .inl ⟨a, ha, rfl⟩⟩

theorem Undrained.trans (h : Undrained s t) (h' : Undrained t u) : Undrained s u := by
  constructor
  · exact h'.storagePath.trans h.storagePath
  · exact fun url hurl => h'.deletions url (h.deletions url hurl)
  · intro a ha
    rcases h'.attachments a ha with ⟨b, hb, hurl⟩ | hnew
    · rw [← hurl]
      exact h.attachments b hb
    · exact .inr (fun hurl => hnew (h.deletions _ hurl))

theorem Undrained.of_rows (h : rowsOf t = rowsOf s) : Undrained s t := by
  constructor
  · rw [h]
  · intro url hurl
    rwa [h]
  · intro a ha
    rw [h] at ha
    exact .inl ⟨a, ha, rfl⟩

theorem Lasting.of_map {f : AutomodUpload → AutomodUpload}
    (hf : ∀ u, (f u).id = u.id ∧ (f u).channelId = u.channelId)
    (huploads : (rowsOf t).uploads = (rowsOf s).uploads.map f) : Lasting s t := by
  intro u hu
  refine ⟨f u, ?_, hf u⟩
  rw [huploads]
  exact List.mem_map_of_mem hu

theorem Lasting.of_uploads (huploads : (rowsOf t).uploads = (rowsOf s).uploads) : Lasting s t :=
  .of_map (f := id) (fun _ => ⟨rfl, rfl⟩) (by rw [huploads, List.map_id])

theorem Lasting.trans (h : Lasting s t) (h' : Lasting t u) : Lasting s u := by
  intro x hx
  obtain ⟨y, hy, hid, hchannel⟩ := h x hx
  obtain ⟨z, hz, hid', hchannel'⟩ := h' y hy
  exact ⟨z, hz, hid'.trans hid, hchannel'.trans hchannel⟩

theorem environment (op : Operation) : Environment (Rely op) := by
  constructor
  · exact fun held s => ⟨.of_uploads rfl, fun _ _ => .refl s, fun _ _ => .refl s⟩
  · intro held s t u hst htu
    constructor
    · exact hst.lasting.trans htu.lasting
    · exact fun hop hheld => (hst.worker hop hheld).trans (htu.worker hop hheld)
    · exact fun hop hheld => (hst.collector hop hheld).trans (htu.collector hop hheld)
  · intro held held' s t hfewer hst
    constructor
    · exact hst.lasting
    · exact fun hop hheld => hst.worker hop (hfewer _ hheld)
    · exact fun hop hheld => hst.collector hop (hfewer _ hheld)

theorem rely_elsewhere (h : Elsewhere s t) : Rely op held s t := by
  obtain ⟨added, hadded, _⟩ := h.uploads
  constructor
  · intro u hu
    refine ⟨u, ?_, rfl, rfl⟩
    rw [hadded]
    exact List.mem_append_left _ hu
  · refine fun _ _ => ⟨h.policies, h.hashes, fun id row hrow => ?_⟩
    rw [hadded, Lib.Table.lookup, List.find?_append, show List.find? _ _ = some row from hrow]
    rfl
  · refine fun _ _ => ⟨h.storagePath, h.deletions, fun a ha => ?_⟩
    rcases h.attachments a ha with ⟨b, hb, _, hurl⟩ | hfresh
    · exact .inl ⟨b, hb, hurl⟩
    · exact .inr (fun hurl => hfresh.undeleted _ hurl hfresh.url)

theorem Change.lasts (h : Change op held s t) : Lasting s t := by
  cases h with
  | aside hrows hfiles => exact .of_uploads (by rw [hrows])
  | commits c hop hprocessing hpublication hrefusal hreleases hknown hruled hrows =>
    refine .of_map (f := fun u => if c.current u then c.decides u else u) (fun u => ?_)
      (by rw [hrows]; rfl)
    split
    · exact ⟨rfl, rfl⟩
    · exact ⟨rfl, rfl⟩
  | configures hop hprocessing hworker huploads hurls hdeletions hstorage => exact .of_uploads huploads
  | notes f hop hheld hf hrows => exact .of_map (fun u => ⟨(hf u).1, (hf u).2.1⟩) (by rw [hrows])
  | removes keep deletions hop hkept hqueued hrows => exact .of_uploads (by rw [hrows])
  | unlinks url path hop hurl hqueued hgone hpath hroot hrows hfiles =>
    exact .of_uploads (by rw [hrows])
  | unqueues url hop hpublication hrows hfiles => exact .of_uploads (by rw [hrows])

theorem Change.disturbs_none {op' : Operation} (h : Change op' held s t)
    (hprocessing : ¬ held .processing) (hworker : op'.worker = false) : Undisturbed s t := by
  cases h with
  | aside hrows hfiles => exact .of_rows hrows
  | commits c hop hheld => exact absurd hheld hprocessing
  | configures hop hheld => exact absurd hheld hprocessing
  | notes f hop hheld hf hrows =>
    rcases hheld with hheld | hop
    · exact absurd hheld hprocessing
    · rw [hop] at hworker
      cases hworker
  | removes keep deletions hop hkept hqueued hrows =>
    constructor
    · rw [hrows]
    · rw [hrows]
    · intro id row hrow
      rwa [hrows]
  | unlinks url path hop hurl hqueued hgone hpath hroot hrows hfiles => exact .of_rows hrows
  | unqueues url hop hheld hrows hfiles =>
    constructor
    · rw [hrows]
    · rw [hrows]
    · intro id row hrow
      rwa [hrows]

theorem Change.drains_none {op' : Operation} (h : Change op' held s t)
    (hpublication : ¬ held .publication) : Undrained s t := by
  cases h with
  | aside hrows hfiles => exact .of_rows hrows
  | commits c hop hprocessing hheld => exact absurd hheld hpublication
  | configures hop hheld hworker huploads hurls hdeletions hstorage =>
    constructor
    · exact hstorage
    · intro url hurl
      rwa [hdeletions]
    · intro a ha
      have hmem := List.mem_map_of_mem (f := fun a : AttachmentRow => (a.id, a.url)) ha
      rw [hurls] at hmem
      obtain ⟨b, hb, heq⟩ := List.mem_map.mp hmem
      exact .inl ⟨b, hb, congrArg Prod.snd heq⟩
  | notes f hop hheld hf hrows =>
    constructor
    · rw [hrows]
    · intro url hurl
      rwa [hrows]
    · intro a ha
      rw [hrows] at ha
      exact .inl ⟨a, ha, rfl⟩
  | removes keep deletions hop hkept hqueued hrows =>
    constructor
    · rw [hrows]
    · intro url hurl
      rw [hrows]
      exact hkept url hurl
    · intro a ha
      rw [hrows] at ha
      exact .inl ⟨a, (List.mem_filter.mp ha).1, rfl⟩
  | unlinks url path hop hurl hqueued hgone hpath hroot hrows hfiles => exact .of_rows hrows
  | unqueues url hop hheld => exact absurd hheld hpublication

theorem rely_change {op' : Operation} {held' : Mutex → Prop}
    (hexclusive : ¬ (Exclusive op ∧ Exclusive op')) (hdisjoint : ∀ m, held m → ¬ held' m)
    (h : Change op' held' s t) : Rely op held s t := by
  constructor
  · exact h.lasts
  · intro hop hheld
    refine h.disturbs_none (hdisjoint _ hheld) ?_
    simpa [Exclusive, hop] using hexclusive
  · exact fun _ hheld => h.drains_none (hdisjoint _ hheld)

end

section

variable {m : Originals} {op : Operation} {held : Mutex → Prop} {I : AppState → Prop}
  {s : AppState} {upload : AutomodUpload}

abbrev rowSlots : List Slot :=
  [.automodPolicies, .automodHashes, .automodUploads, .attachments, .attachmentDeletions,
    .storagePath]

theorem preserves_rows {slots : List Slot} {α : Type} {p : App α} (h : App.Touches slots p)
    (hn : ∀ n ∈ rowSlots, n ∉ slots) : p.Preserves rowsOf := by
  have hpolicies := h .automodPolicies (hn _ (by decide))
  have hhashes := h .automodHashes (hn _ (by decide))
  have huploads := h .automodUploads (hn _ (by decide))
  have hattachments := h .attachments (hn _ (by decide))
  have hdeletions := h .attachmentDeletions (hn _ (by decide))
  have hstorage := h .storagePath (hn _ (by decide))
  have hfiles := hattachments.pair (hdeletions.pair hstorage)
  exact (hpolicies.pair (hhashes.pair (huploads.pair hfiles))).map
    (fun v => (⟨v.1, v.2.1, v.2.2.1, v.2.2.2.1, v.2.2.2.2.1, v.2.2.2.2.2⟩ : Rows))

def RowsOnly (I : AppState → Prop) : Prop := ∀ s t, rowsOf t = rowsOf s → I s → I t

def Stable (op : Operation) (held : Mutex → Prop) (I : AppState → Prop) : Prop :=
  ∀ s t, Rely op held s t → I s → I t

theorem respects_aside {α : Type} {p : App α} (h : p.Preserves rowsOf) (hop : op ≠ .drain)
    (hI : RowsOnly I) : p.Respects I (Change op held) (fun _ => True) :=
  h.respects hI (fun _ _ _ hrows => .aside hrows (fun hdrain => absurd hdrain hop))

inductive Settled (I : AppState → Prop) (upload : AutomodUpload) (requested reason : String) :
    String × String × Option PublicFile → Prop
  | asked (file : Option PublicFile) (hfile : file.isSome → requested = "published")
      (hurl : ∀ f, file = some f → PlainName upload.channelId → PlainName upload.id →
        StoredAs upload.id f.url) :
      Settled I upload requested reason (requested, reason, file)
  | unreleased (e : AppState) (hrequested : requested = "published") (he : I e)
      (hgone : messageStands upload e.db = .ok false) :
      Settled I upload requested reason ("quarantined", goneReason, none)

theorem Settled.releases {c : Commit} {requested reason : String}
    (h : Settled I c.upload requested reason (c.status, c.reason, c.file)) : Releases c := by
  generalize hsettled : (c.status, c.reason, c.file) = settled at h
  cases h with
  | asked file hfile hurl =>
    simp only [Prod.mk.injEq] at hsettled
    obtain ⟨hstatus, _, rfl⟩ := hsettled
    exact ⟨fun hsome => hstatus.trans (hfile hsome), hurl⟩
  | unreleased e hrequested he hgone =>
    simp only [Prod.mk.injEq] at hsettled
    obtain ⟨_, _, hfile⟩ := hsettled
    rw [← Option.isNone_iff_eq_none] at hfile
    constructor
    · intro hsome
      simp [Option.isNone_iff_eq_none.mp hfile] at hsome
    · intro f hf
      simp [hf] at hfile

theorem keeps_saveAttachment {isAlphanumeric : Char → Bool} (hslash : isAlphanumeric '/' = false)
    (hI : RowsOnly I) (channelId id filename : String) (size maxSize : Nat) :
    (Storage.saveAttachment isAlphanumeric channelId id filename size maxSize).Keeps I
      (fun url => PlainName channelId → PlainName id → StoredAs id url) := by
  refine Prog.keeps_require.bind (fun _ _ => ?_)
  refine (Prog.keeps_get (Q := fun _ => True) (fun _ _ => trivial)).bind (fun storagePath _ => ?_)
  have hwrite : ∀ fault path, (Storage.writeFile fault path).Maintains I :=
    fun fault path => Prog.keeps_statement (fun s hs => hI s _ rfl hs) (fun _ _ _ _ => trivial)
  refine (hwrite _ _).bind (fun _ _ => ?_)
  intro hchannel hid
  exact ⟨hid, channelId, _, hchannel, Storage.plain_sanitizeFilename hslash filename, rfl⟩

theorem keeps_publicCopy (hslash : m.isAlphanumeric '/' = false) (hI : RowsOnly I) :
    (publicCopy m upload).Keeps I (fun file =>
      (∀ f, file = some f → PlainName upload.channelId → PlainName upload.id →
        StoredAs upload.id f.url) ∧
        (file = none → ∃ e, I e ∧ messageStands upload e.db = .ok false)) := by
  have hstands : (App.query (messageStands upload)).Keeps I (fun stands =>
      stands = false → ∃ e, I e ∧ messageStands upload e.db = .ok false) := by
    apply Prog.keeps_query
    rintro e he stands hread rfl
    exact ⟨e, he, hread⟩
  refine Prog.Keeps.bind hstands (fun stands hgone => ?_)
  cases stands with
  | false => exact ⟨(fun f hf => by cases hf), fun _ => hgone rfl⟩
  | true =>
    refine (Prog.keeps_get (Q := fun _ => True) (fun _ _ => trivial)).bind (fun stored _ => ?_)
    refine Prog.keeps_require.bind (fun _ _ => ?_)
    refine Prog.keeps_require.bind (fun _ _ => ?_)
    refine (keeps_saveAttachment hslash hI _ _ _ _ _).bind (fun url hurl => ?_)
    refine ⟨?_, (fun hnone => by cases hnone)⟩
    rintro f ⟨⟩
    exact hurl

theorem keeps_settle (hslash : m.isAlphanumeric '/' = false) (hI : RowsOnly I)
    (requested reason : String) :
    (settle m upload requested reason).Keeps I (Settled I upload requested reason) := by
  unfold settle
  split
  · next hrequested =>
    refine (keeps_publicCopy hslash hI).bind (fun file hfile => ?_)
    cases file with
    | some f => exact .asked (some f) (fun _ => hrequested) hfile.1
    | none =>
      obtain ⟨e, he, hgone⟩ := hfile.2 rfl
      exact .unreleased e hrequested he hgone
  · exact .asked none (fun h => by cases h) (fun f hf => by cases hf)

theorem meets_store {actor status reason : String} {file : Option PublicFile}
    {decision : Decision} (hop : op ≠ .drain) (hI : RowsOnly I) (hstable : Stable op held I)
    (hcommit : ∀ (c : Commit) s, I s → c.upload = upload → c.status = status →
      c.reason = reason → c.file = file → c.decision = decision → c.refusal s.db = none →
      Change op held s (s.withDb (c.effect s.db))) (hs : I s) :
    (Task.lift (store upload actor status reason file decision)).Meets (Rely op) (Change op)
      (fun _ h _ => h = held) held s := by
  have henv := environment op
  refine Task.meets_lift_bind henv (respects_aside (preserves_newExpiry upload) hop hI) hstable hs
    (fun _ _ => rfl) (fun expiresAt s₁ _ hs₁ => ?_)
  refine Task.meets_lift_bind henv
    (respects_aside (preserves_rows (touches_flagged actor upload status decision.rule)
      (by decide)) hop hI) hstable hs₁ (fun _ _ => rfl) (fun report s₂ _ hs₂ => ?_)
  refine Task.meets_lift_bind henv
    (respects_aside (preserves_timeoutEnd decision.rule) hop hI) hstable hs₂
    (fun _ _ => rfl) (fun timedOutUntil s₃ _ hs₃ => ?_)
  refine Task.meets_statement (fun s' hs' => ?_) hstable hs₃
  dsimp only
  split
  · exact .aside rfl (fun hdrain => absurd hdrain hop)
  · next hrefusal => exact hcommit _ s' hs' rfl rfl rfl rfl rfl hrefusal

theorem meets_finishLocked {requested reason : String} {decision : Decision}
    (hslash : m.isAlphanumeric '/' = false) (hop : op ≠ .drain)
    (hprocessing : held .processing) (hpublication : held .publication)
    (hI : RowsOnly I) (hstable : Stable op held I) (hknown : ∀ s, I s → Known upload s)
    (hruled : ∀ (c : Commit) s, I s → c.upload = upload → c.decision = decision →
      Settled I upload requested reason (c.status, c.reason, c.file) → op.worker = true →
      ∃ result requested reason, Ruled c s result requested reason) (hs : I s) :
    (Task.lift (finishLocked m upload requested reason decision)).Meets (Rely op) (Change op)
      (fun _ h _ => h = held) held s := by
  have henv := environment op
  refine Task.meets_lift_bind henv
    (respects_aside (preserves_rows (touches_actorOf decision) (by decide)) hop hI) hstable hs
    (fun _ _ => rfl) (fun actor s₁ _ hs₁ => ?_)
  have hsettle : (settle m upload requested reason).Respects I (Change op held)
      (Settled I upload requested reason) :=
    (keeps_settle hslash hI requested reason).respects
      (preserves_rows (touches_settle m upload requested reason) (by decide))
      (fun _ _ _ hrows => .aside hrows (fun hdrain => absurd hdrain hop))
  refine Task.meets_lift_bind henv hsettle hstable hs₁ (fun _ _ => rfl) ?_
  rintro ⟨status, reason', file⟩ s₂ hsettled hs₂
  change (Task.lift (store upload actor status reason' file decision >>= fun _ =>
    announce upload status)).Meets _ _ _ _ _
  rw [Task.lift_bind]
  refine Meets.bind henv (Meets.mono (meets_store hop hI hstable ?_ hs₂) ?_)
  · intro c s' hs' hupload hstatus hreason hfile hdecision hrefusal
    refine .commits c hop hprocessing hpublication hrefusal ?_ ?_ ?_ rfl
    · subst hupload hstatus hreason hfile
      exact hsettled.releases
    · rw [hupload]
      exact hknown s' hs'
    · subst hupload hstatus hreason hfile
      exact hruled c s' hs' rfl hdecision hsettled
  · rintro r h t rfl
    cases r with
    | error e => rfl
    | ok u =>
      have hannounce : (announce upload status).Respects (fun _ => True) (Change op h)
          (fun _ => True) :=
        respects_aside (preserves_rows (touches_announce upload status) (by decide)) hop
          (fun _ _ _ _ => trivial)
      exact (Task.meets_lift hannounce (fun _ _ _ _ => trivial) trivial).mono
        (fun r h t hr => hr.1)

end

section

variable {m : Originals} {op : Operation} {held : Mutex → Prop} {I : AppState → Prop}
  {s t u : AppState} {id : String} {result : Option ScanResult}

theorem Alike.refl (id : String) (s : AppState) : Alike id s s := ⟨rfl, rfl, rfl⟩

theorem Alike.symm (h : Alike id s t) : Alike id t s :=
  ⟨h.policies.symm, h.hashes.symm, h.upload.symm⟩

theorem Alike.trans (h : Alike id s t) (h' : Alike id t u) : Alike id s u :=
  ⟨h'.policies.trans h.policies, h'.hashes.trans h.hashes, h'.upload.trans h.upload⟩

theorem alike_rows (id : String) (s : AppState) : RowsOnly (Alike id s) := by
  intro t u hrows h
  constructor
  · rw [hrows]
    exact h.policies
  · rw [hrows]
    exact h.hashes
  · rw [hrows]
    exact h.upload

theorem Undisturbed.alike {row : AutomodUpload} (h : Undisturbed s t)
    (hrow : Lib.Table.lookup AutomodUpload.id id (rowsOf s).uploads = some row) :
    Alike id s t :=
  ⟨h.policies, h.hashes, (h.uploads id row hrow).trans hrow.symm⟩

inductive Claimed (row : AutomodUpload) (result : Option ScanResult) : Turn → Prop
  | gone : Claimed row result .gone
  | decided (status reason : String) (decision : Decision) :
      Claimed row result (.decided row status reason decision)
  | scan (hresult : result = none) : Claimed row result (.scan row)

theorem keeps_quiet {α : Type} {p : App α} (h : p.Preserves (fun s => s)) :
    p.Maintains I := by
  apply h.keeps
  rintro s t rfl hs
  exact hs

theorem keeps_evaluate (upload : AutomodUpload) (channel : ChannelRow)
    (result : Option ScanResult) (rules : List Rule) :
    (evaluate upload channel result rules).Keeps I
      (fun v => v = .needsScan → result = none) := by
  induction rules with
  | nil => exact fun h => by cases h
  | cons rule rules ih =>
    have hnonMedia : ∀ fires : Bool, Prog.Keeps I (fun v => v = .needsScan → result = none)
        (if fires then return .matched rule else evaluate upload channel result rules :
          App Verdict) :=
      fun fires => Prog.keeps_ite (fun h => by cases h) ih
    unfold evaluate
    cases rule.trigger with
    | media categories threshold =>
      cases result with
      | none => exact fun _ => rfl
      | some scan =>
        refine Prog.keeps_ite (fun h => by cases h) ?_
        exact Prog.keeps_ite (fun h => by cases h) ih
    | _ => exact (keeps_quiet (preserves_nonMediaMatch _ _ _ _)).bind (fun fires _ => hnonMedia fires)

theorem keeps_judge (upload : AutomodUpload) (channel : ChannelRow) (policy : Policy)
    (result : Option ScanResult) :
    (judge upload channel policy result).Keeps I (Claimed upload result) := by
  refine (keeps_quiet (preserves_hold _ _ _)).bind (fun held _ => ?_)
  cases held with
  | some reason => exact .decided _ _ _
  | none =>
    refine (keeps_evaluate _ _ _ _).bind (fun v hv => ?_)
    cases v with
    | unmatched => exact .decided _ _ _
    | matched rule => exact .decided _ _ _
    | unsupported rule => exact .decided _ _ _
    | needsScan => exact .scan (hv rfl)

theorem keeps_turn {row : AutomodUpload}
    (hrow : ∀ s, I s → Lib.Table.lookup AutomodUpload.id id (rowsOf s).uploads = some row) :
    (turn id result).Keeps I (Claimed row result) := by
  have hread : (App.query (pendingUpload id)).Keeps I
      (fun upload => ∀ u, upload = some u → u = row) := by
    apply Prog.keeps_query
    rintro s hs _ ⟨⟩ u hu
    have hfound := (Option.filter_eq_some_iff.mp hu).1
    exact Option.some.inj (hfound.symm.trans (hrow s hs))
  refine Prog.Keeps.bind hread (fun upload hupload => ?_)
  cases upload with
  | none => exact .gone
  | some upload =>
    cases hupload upload rfl
    refine (keeps_quiet (App.preserves_lift _)).bind (fun channel _ => ?_)
    refine (keeps_quiet (App.preserves_lift _)).bind (fun policy _ => ?_)
    refine (Prog.keeps_get (Q := fun _ => True) (fun _ _ => trivial)).bind (fun now _ => ?_)
    refine Prog.keeps_ite (.decided _ _ _) ?_
    cases channel with
    | none => exact .decided _ _ _
    | some channel => exact keeps_judge _ _ _ _

theorem turn_reads (id : String) (result : Option ScanResult) :
    ∃ next : Option AutomodUpload → App Turn,
      turn id result = (App.query (pendingUpload id) >>= next) ∧ next none = return .gone :=
  ⟨_, rfl, rfl⟩

inductive Evaluated (id : String) (result : Option ScanResult) (t : AppState) : Turn → Prop
  | gone : Evaluated id result t .gone
  | read (s : AppState) (row : AutomodUpload) (T : Turn)
      (hrow : Lib.Table.lookup AutomodUpload.id id (rowsOf s).uploads = some row)
      (halike : Alike id s t) (hgives : (turn id result).Gives (Alike id s) (.ok T))
      (hclaimed : Claimed row result T) : Evaluated id result t T

theorem stable_alike (scan : AutomodUpload → Except String ScanResult) (claims : Nat)
    {row : AutomodUpload} (hheld : held .processing)
    (hrow : Lib.Table.lookup AutomodUpload.id id (rowsOf s).uploads = some row) :
    Stable (.process scan claims) held (Alike id s) := by
  intro t u hrely halike
  have hundisturbed : Undisturbed t u := hrely.worker rfl hheld
  exact halike.trans (hundisturbed.alike (halike.upload.trans hrow))

theorem meets_turn {scan : AutomodUpload → Except String ScanResult} {claims : Nat}
    (hop : op = .process scan claims) (hheld : held .processing) :
    (Task.lift (turn id result)).Meets (Rely op) (Change op)
      (fun r h t => h = held ∧ ∀ T, r = .ok T → Evaluated id result t T) held s := by
  have hdrain : op ≠ .drain := by
    rw [hop]
    exact fun h => by cases h
  obtain ⟨next, hturn, hnone⟩ := turn_reads id result
  have hquiet : (App.query (pendingUpload id) >>= next).Preserves (fun s => s) :=
    hturn ▸ preserves_turn id result
  rw [hturn, Task.lift_bind]
  refine Meets.bind (environment op)
    ((Task.meets_query (fun s => .aside rfl (fun _ => rfl))).mono ?_)
  rintro r h t ⟨rfl, hread⟩
  cases r with
  | error e => exact ⟨rfl, fun T hT => by cases hT⟩
  | ok upload =>
    obtain ⟨s₁, _, hs₁, hrely⟩ := hread upload rfl
    cases upload with
    | none =>
      change (Task.lift (next none)).Meets _ _ _ _ _
      rw [hnone]
      intro t' _
      refine ⟨rfl, fun T hT => ?_⟩
      cases hT
      exact .gone
    | some row =>
      have hrow : Lib.Table.lookup AutomodUpload.id id (rowsOf s₁).uploads = some row :=
        (Option.filter_eq_some_iff.mp (Except.ok.inj hs₁)).1
      subst hop
      have hstable := stable_alike scan claims hheld hrow
      have hnext : (next (some row)).Preserves (fun s => s) := hquiet.of_query hs₁
      have hgives : (next (some row)).Respects (Alike id s₁) (Change (.process scan claims) h)
          (fun T => (next (some row)).Gives (Alike id s₁) (.ok T)) :=
        (Prog.keeps_gives hnext).respects (hnext.map rowsOf)
          (fun _ _ _ hrows => .aside hrows (fun hd => absurd hd hdrain))
      refine (Task.meets_lift hgives hstable (hstable s₁ t hrely (.refl id s₁))).mono ?_
      rintro r h t ⟨rfl, halike, hT⟩
      refine ⟨rfl, fun T hok => ?_⟩
      have hturns : (turn id result).Gives (Alike id s₁) (.ok T) := by
        rw [hturn]
        refine Prog.Gives.bind ?_ (hT T hok)
        rw [← hs₁]
        exact Prog.gives_query (.refl id s₁)
      refine .read s₁ row T hrow halike hturns ?_
      exact (keeps_turn (fun e he => he.upload.trans hrow)).gives hturns

end

section

variable {m : Originals} {op : Operation} {held : Mutex → Prop} {I : AppState → Prop}
  {s : AppState} {α β : Type} {Q : Except AppError α → Prop}

def noLock : Mutex → Prop := fun _ => False

def Ends (held : Mutex → Prop) (Q : Except AppError α → Prop) (r : Except AppError α)
    (h : Mutex → Prop) (_ : AppState) : Prop := h = held ∧ Q r

structure Performs (op : Operation) (held : Mutex → Prop) (Q : Except AppError α → Prop)
    (s : AppState) (p : Work α) : Prop where
  meets : p.Meets (Rely op) (Change op) (Ends held Q) held s

theorem Performs.mono {Q' : Except AppError α → Prop} {p : Work α} (h : Performs op held Q s p)
    (hQ : ∀ r, Q r → Q' r) : Performs op held Q' s p :=
  ⟨h.meets.mono (fun r _ _ hr => ⟨hr.1, hQ r hr.2⟩)⟩

theorem performs_within {mutex : Mutex} {body : Work α} (hm : ¬ held mutex)
    (h : ∀ t, Rely op held s t → Performs op (Task.hold held mutex) Q t body) :
    Performs op held Q s (Task.locked mutex body) := by
  refine ⟨Task.meets_locked (environment op) hm (fun t ht => (h t ht).meets.mono ?_)⟩
  rintro r _ u ⟨rfl, hr⟩
  exact ⟨rfl, fun _ _ => ⟨rfl, hr⟩⟩

theorem Performs.lasting {p : Work α} (h : Performs op held Q s p) :
    p.Meets (Rely op) (Change op) (fun r h t => Ends held Q r h t ∧ Lasting s t) held s :=
  h.meets.reaches (L := Lasting) (fun _ => .of_uploads rfl) (fun _ _ _ => Lasting.trans)
    (fun _ _ _ hrely => hrely.lasting) (fun _ _ _ hchange => hchange.lasts)

theorem performs_then {p : Work α} {f : α → Work β} {Q : Except AppError α → Prop}
    {Q' : Except AppError β → Prop}
    (h : Performs op held Q s p)
    (hfail : ∀ e, Q' (.error e))
    (hf : ∀ a t, Lasting s t → Q (.ok a) → Performs op held Q' t (f a)) :
    Performs op held Q' s (p >>= f) := by
  refine ⟨Meets.bind (environment op) (h.lasting.mono ?_)⟩
  rintro r _ t ⟨⟨rfl, hr⟩, hlasting⟩
  cases r with
  | ok a => exact (hf a t hlasting hr).meets
  | error e => exact ⟨rfl, hfail e⟩

theorem performs_done {a : α} (h : Q (.ok a)) :
    Performs op held Q s (return a : Work α) :=
  ⟨fun _ _ => ⟨rfl, h⟩⟩

theorem performs_program {P : α → Prop} {p : App α}
    (h : p.Respects (fun _ => True) (Change op held) P) :
    Performs op held (fun r => ∀ a, r = .ok a → P a) s (MonadLiftT.monadLift p : Work α) :=
  ⟨(Task.meets_lift h (fun _ _ _ _ => trivial) trivial).mono (fun _ _ _ hr => ⟨hr.1, hr.2.2⟩)⟩

theorem performs_aside {p : App α} (h : p.Preserves rowsOf) (hop : op ≠ .drain) :
    Performs op held (fun _ => True) s (MonadLiftT.monadLift p : Work α) :=
  (performs_program (respects_aside h hop (fun _ _ _ _ => trivial))).mono
    (fun _ _ => trivial)

theorem performs_finish {upload : AutomodUpload} {requested reason : String} {decision : Decision}
    (hslash : m.isAlphanumeric '/' = false) (hop : op ≠ .drain)
    (hprocessing : held .processing) (hpublication : ¬ held .publication)
    (hI : RowsOnly I) (hstable : ∀ held', held' .processing → Stable op held' I)
    (hknown : ∀ s, I s → Known upload s)
    (hruled : ∀ (c : Commit) s, I s → c.upload = upload → c.decision = decision →
      Settled I upload requested reason (c.status, c.reason, c.file) → op.worker = true →
      ∃ result requested reason, Ruled c s result requested reason) (hs : I s) :
    Performs op held (fun _ => True) s (finish m upload requested reason decision) := by
  refine performs_within hpublication (fun t ht => ⟨?_⟩)
  have ht : I t := hstable held hprocessing s t ht hs
  have hheld : (Task.hold held .publication) .processing := .inr hprocessing
  refine (meets_finishLocked hslash hop hheld (.inl rfl) hI (hstable _ hheld) hknown hruled ht).mono ?_
  rintro r _ u rfl
  exact ⟨rfl, trivial⟩

theorem Settled.written {c : Commit} {row : AutomodUpload} {requested reason : String}
    (h : Settled I row requested reason (c.status, c.reason, c.file)) :
    (c.status = requested ∧ c.reason = reason) ∨
      (requested = "published" ∧ c.status = "quarantined" ∧ c.reason = goneReason ∧
        ∃ e, I e ∧ messageStands row e.db = .ok false) := by
  generalize hsettled : (c.status, c.reason, c.file) = settled at h
  cases h with
  | asked file hfile hurl =>
    simp only [Prod.mk.injEq] at hsettled
    exact .inl ⟨hsettled.1, hsettled.2.1⟩
  | unreleased e hrequested he hgone =>
    simp only [Prod.mk.injEq] at hsettled
    exact .inr ⟨hrequested, hsettled.1, hsettled.2.1, e, he, hgone⟩

variable {scan : AutomodUpload → Except String ScanResult} {claims : Nat} {id : String}

theorem not_drain (hop : op = .process scan claims) : op ≠ .drain := by
  rw [hop]
  exact fun h => by cases h

theorem ruled_of_alike {t : AppState} {c : Commit} {result : Option ScanResult}
    {requested reason : String}
    (hrow : Lib.Table.lookup AutomodUpload.id id (rowsOf s).uploads = some c.upload)
    (hgives : (turn id result).Gives (Alike id s)
      (.ok (.decided c.upload requested reason c.decision)))
    (halike : Alike id s t)
    (hsettled : Settled (Alike id s) c.upload requested reason (c.status, c.reason, c.file)) :
    Ruled c t result requested reason := by
  have hid : c.upload.id = id := Lib.Table.lookup_key hrow
  subst hid
  refine ⟨halike.upload.trans hrow, hgives.mono (fun e he => halike.symm.trans he), ?_⟩
  rcases hsettled.written with hasked | ⟨hpublished, hstatus, hreason, e, he, hgone⟩
  · exact .inl hasked
  · exact .inr ⟨hpublished, hstatus, hreason, e, halike.symm.trans he, hgone⟩

theorem performs_settled {t : AppState} {result : Option ScanResult} {T : Turn}
    (hslash : m.isAlphanumeric '/' = false) (hop : op = .process scan claims)
    (hprocessing : held .processing) (hpublication : ¬ held .publication)
    (h : Evaluated id result t T) :
    Performs op held (fun r => ∀ u, r = .ok (some u) → result = none) t (settled m T) := by
  have hnothing : ∀ s, Performs op held (fun r => ∀ u, r = .ok (some u) → result = none) s
      (return none : Work (Option AutomodUpload)) :=
    fun s => performs_done (fun u hu => by cases hu)
  cases h with
  | gone => exact hnothing t
  | read s row _ hrow halike hgives hclaimed =>
    cases hclaimed with
    | gone => exact hnothing t
    | scan hresult => exact performs_done (fun _ _ => hresult)
    | decided status reason decision =>
      refine performs_then (Q := fun _ => True) ?_ (fun e u hu => by cases hu)
        (fun _ t' _ _ => hnothing t')
      refine performs_finish hslash (not_drain hop) hprocessing hpublication (alike_rows id s) ?_ ?_
        ?_ halike
      · intro held' hheld'
        rw [hop]
        exact stable_alike _ _ hheld' hrow
      · exact fun e he => ⟨row, Lib.Table.lookup_mem (he.upload.trans hrow), rfl, rfl⟩
      · rintro c t' ht' rfl rfl hsettled _
        exact ⟨result, status, reason, ruled_of_alike hrow hgives ht' hsettled⟩

theorem performs_claimOnce {result : Option ScanResult} (hslash : m.isAlphanumeric '/' = false)
    (hop : op = .process scan claims) :
    Performs op noLock (fun r => ∀ u, r = .ok (some u) → result = none) s
      (claimOnce m id result) := by
  refine performs_within (fun h => h) (fun t _ => ?_)
  refine ⟨Meets.bind (environment op) ((meets_turn hop (.inl rfl)).mono ?_)⟩
  rintro r _ t ⟨rfl, hr⟩
  cases r with
  | error e => exact ⟨rfl, fun u hu => by cases hu⟩
  | ok T =>
    refine (performs_settled hslash hop (.inl rfl) ?_ (hr T rfl)).meets
    rintro (h | h)
    · cases h
    · exact h

theorem respects_update {f : Tables → Tables} (h : ∀ s, Change op held s (s.withDb (f s.db))) :
    (App.update f).Respects (fun _ => True) (Change op held) (fun _ => True) :=
  Prog.respects_statement (fun s _ => ⟨trivial, h s⟩) (fun _ _ _ _ => trivial)

theorem respects_scanFailed (hop : op = .process scan claims) (upload : AutomodUpload)
    (error : String) :
    (scanFailed upload error).Respects (fun _ => True) (Change op held) (fun _ => True) := by
  have hrows : RowsOnly (fun _ => True) := fun _ _ _ _ => trivial
  refine (respects_aside (Prog.preserves_get _) (not_drain hop) hrows).bind (fun now _ => ?_)
  refine Prog.Respects.bind (respects_update (fun s => ?_)) (fun _ _ => ?_)
  · refine .notes _ (not_drain hop) (.inr (by rw [hop]; rfl)) (fun u => ?_) rfl (fun u => ?_)
    · split
      · exact ⟨rfl, rfl, rfl⟩
      · exact ⟨rfl, rfl, rfl⟩
    · split
      · rfl
      · rfl
  · refine respects_aside ?_ (not_drain hop) hrows
    exact Prog.preserves_ite (preserves_rows (touches_notify _ _) (by decide))
      (Prog.preserves_pure _)

def claimsNeeded (result : Option ScanResult) : Nat := if result.isSome then 1 else 2

theorem performs_claim (hslash : m.isAlphanumeric '/' = false) (hop : op = .process scan claims)
    (n : Nat) (result : Option ScanResult) (s : AppState) :
    Performs op noLock (fun r => claimsNeeded result ≤ n → r ≠ .ok none) s
      (claim m scan id n result) := by
  induction n generalizing result s with
  | zero =>
    apply performs_done
    intro hneeded
    unfold claimsNeeded at hneeded
    split at hneeded <;> omega
  | succ n ih =>
    have hclaimed : ∀ t, Performs op noLock (fun r => claimsNeeded result ≤ n + 1 → r ≠ .ok none)
        t (return some true : Work (Option Bool)) :=
      fun t => performs_done (fun _ h => by cases h)
    refine performs_then (performs_claimOnce hslash hop) (fun e _ h => by cases h) ?_
    intro unscanned t _ hunscanned
    cases unscanned with
    | none => exact hclaimed t
    | some upload =>
      have hresult : result = none := hunscanned upload rfl
      subst hresult
      dsimp only
      cases scan upload with
      | error e =>
        refine performs_then (performs_program (respects_scanFailed hop upload e)) ?_
          (fun _ t' _ _ => hclaimed t')
        exact fun e _ h => by cases h
      | ok found =>
        refine (ih (some found) t).mono (fun r hr hneeded => hr ?_)
        simp only [claimsNeeded] at hneeded ⊢
        simp at hneeded ⊢
        omega

theorem performs_processOne (hslash : m.isAlphanumeric '/' = false)
    (hop : op = .process scan claims) (n : Nat) (s : AppState) :
    Performs op noLock (fun r => 2 ≤ n → r ≠ .ok none) s (processOne m scan n) := by
  have hfound : ∀ t, Performs op noLock (fun _ => True) t (Task.locked .processing
      (Task.locked .admission (candidate : App (Option String))) : Work _) := by
    intro t
    refine performs_within (fun h => h) (fun t _ => performs_within ?_ (fun t _ => ?_))
    · rintro (h | h)
      · cases h
      · exact h
    · exact performs_aside preserves_candidate (not_drain hop)
  refine performs_then (hfound s) (fun e _ h => by cases h) (fun found t _ _ => ?_)
  cases found with
  | none => exact performs_done (fun _ h => by cases h)
  | some id => exact performs_claim hslash hop n none t

end

end Vokusz.Automod
