import Vokusz.Automod.Footprint

namespace Vokusz.Automod

open Db Permissions
open Lib (Prog Task Table.lookup)
open Routes.Messages (UploadFile)

theorem exec_quiet {α : Type} {p : App α} (h : p.Preserves (fun s => s)) (s : AppState) :
    p.exec s = ((p.exec s).1, s) :=
  Prod.ext rfl (h.exec s)

section

variable (s : AppState) (channel : ChannelRow) (author hash : String)

def fires (rule : Rule) : Except AppError Bool :=
  ((nonMediaMatch rule channel author hash).exec s).1

theorem exec_nonMediaMatch (rule : Rule) :
    (nonMediaMatch rule channel author hash).exec s = (fires s channel author hash rule, s) :=
  exec_quiet (preserves_nonMediaMatch _ _ _ _) s

def answer (result : Option ScanResult) (rule : Rule) : Option (Except AppError Verdict) :=
  match rule.trigger with
  | .media categories threshold =>
    match result with
    | none => some (.ok .needsScan)
    | some scan =>
      if categories.any (fun c => (scan.score c).isNone) then some (.ok (.unsupported rule))
      else if mediaFires scan categories threshold then some (.ok (.matched rule))
      else none
  | _ =>
    match fires s channel author hash rule with
    | .ok true => some (.ok (.matched rule))
    | .ok false => none
    | .error e => some (.error e)

def refusal (rule : Rule) : Option AppError :=
  if rule.action = .reject then
    match fires s channel author hash rule with
    | .ok true => some (rejectedBy rule.id)
    | .ok false => none
    | .error e => some e
  else none

theorem exec_preflightRules (rules : List Rule) :
    (preflightRules channel author hash rules).exec s =
      (match rules.findSome? (refusal s channel author hash) with
        | none => .ok ()
        | some e => .error e, s) := by
  induction rules with
  | nil => rfl
  | cons rule rules ih =>
    unfold preflightRules
    rw [List.findSome?_cons]
    by_cases hreject : rule.action = .reject
    · rw [if_pos hreject, Prog.exec_bind, exec_nonMediaMatch]
      cases hfires : fires s channel author hash rule with
      | error e => simp [refusal, hreject, hfires]
      | ok b =>
        cases b with
        | true => simp [refusal, hreject, hfires, Prog.require_bind]
        | false => simpa [refusal, hreject, hfires, Prog.require_bind] using ih
    · rw [if_neg hreject]
      simpa [refusal, hreject] using ih

end

section

variable (s : AppState) (upload : AutomodUpload) (channel : ChannelRow)

abbrev answerTo (result : Option ScanResult) : Rule → Option (Except AppError Verdict) :=
  answer s channel upload.authorId upload.hash result

theorem exec_nonMedia_evaluate (result : Option ScanResult) (rule : Rule) (rules : List Rule)
    (rest : Except AppError Verdict × AppState)
    (hrest : (evaluate upload channel result rules).exec s = rest) :
    (nonMediaMatch rule channel upload.authorId upload.hash >>= fun fires =>
        if fires then return .matched rule else evaluate upload channel result rules).exec s =
      match fires s channel upload.authorId upload.hash rule with
      | .ok true => (.ok (.matched rule), s)
      | .ok false => rest
      | .error e => (.error e, s) := by
  rw [Prog.exec_bind, exec_nonMediaMatch]
  cases fires s channel upload.authorId upload.hash rule with
  | error e => rfl
  | ok b =>
    cases b with
    | true => rfl
    | false => exact hrest

theorem exec_evaluate (result : Option ScanResult) (rules : List Rule) :
    (evaluate upload channel result rules).exec s =
      ((rules.findSome? (answerTo s upload channel result)).getD (.ok .unmatched), s) := by
  induction rules with
  | nil => rfl
  | cons rule rules ih =>
    have hnonMedia := exec_nonMedia_evaluate s upload channel result rule rules _ ih
    unfold evaluate
    rw [List.findSome?_cons]
    unfold answerTo answer at ih hnonMedia ⊢
    cases htrigger : rule.trigger with
    | media categories threshold =>
      cases result with
      | none => rfl
      | some scan =>
        dsimp only
        split
        · rfl
        · split
          · rfl
          · exact ih
    | _ =>
      dsimp only
      rw [hnonMedia]
      cases fires s channel upload.authorId upload.hash rule with
      | error e => rfl
      | ok b => cases b <;> rfl

end

def NotRejection (e : AppError) : Prop := ∀ ruleId, e ≠ rejectedBy ruleId

theorem blocked_notRejection : NotRejection (.badRequest "attachment hash is blocked") := by
  intro ruleId h
  have htext := congrArg String.toList (AppError.badRequest.inj h)
  simp only [String.toList_append] at htext
  have hhead := congrArg (fun cs => cs[11]?) htext
  simp at hhead

theorem failsAs_lift {α : Type} {q : Query α}
    (h : ∀ db e, q db = .error e → NotRejection e) :
    (MonadLiftT.monadLift q : App α).FailsAs NotRejection :=
  Prog.failsAs_query (fun _ h => by cases h) (fun s e => h s.db e)

theorem getMemberRow_notFound {spaceId userId : String} {db : Tables} {e : AppError}
    (h : Members.getMemberRow spaceId userId db = .error e) : ∃ text, e = .notFound text := by
  unfold Members.getMemberRow at h
  split at h
  · cases h
  · cases h
    exact ⟨_, rfl⟩

theorem getMemberRow_error {spaceId userId : String} {db : Tables} {e : AppError}
    (h : Members.getMemberRow spaceId userId db = .error e) : NotRejection e := by
  obtain ⟨text, rfl⟩ := getMemberRow_notFound h
  exact fun _ h => by cases h

theorem getUser_error {userId : String} {db : Tables} {e : AppError}
    (h : Users.getUser userId db = .error e) : NotRejection e := by
  unfold Users.getUser at h
  split at h
  · cases h
  · cases h
    exact fun _ h => by cases h

theorem getSpaceRow_error {spaceId : String} {db : Tables} {e : AppError}
    (h : Spaces.getSpaceRow spaceId db = .error e) : NotRejection e := by
  unfold Spaces.getSpaceRow at h
  split at h
  · cases h
  · cases h
    exact fun _ h => by cases h

theorem resolve_error {spaceId userId : String} {isAdmin : Bool} {db : Tables} {e : AppError}
    (h : resolveMemberPermissionsWithAdmin spaceId userId isAdmin db = .error e) :
    NotRejection e := by
  unfold resolveMemberPermissionsWithAdmin resolveMemberPermissionsInner at h
  cases isAdmin with
  | true => cases h
  | false =>
    simp only [Bool.false_eq_true, if_false, Query.bind_apply] at h
    cases hspace : Spaces.getSpaceRow spaceId db with
    | error e' =>
      rw [hspace] at h
      cases h
      exact getSpaceRow_error hspace
    | ok space =>
      rw [hspace] at h
      dsimp only at h
      split at h
      · cases h
      · rw [Query.bind_apply] at h
        cases hmember : Members.getMemberRow spaceId userId db with
        | ok member =>
          simp only [hmember] at h
          cases h
        | error e' =>
          obtain ⟨text, rfl⟩ := getMemberRow_notFound hmember
          simp only [hmember] at h
          cases h
          exact fun _ h => by cases h

theorem failsAs_ageHours (value : String) : (ageHours value).FailsAs NotRejection :=
  (Prog.failsAs_get _).bind (fun _ => (Prog.failsAs_get _).bind (fun _ => Prog.failsAs_pure _))

theorem failsAs_lowTrust (a b : Nat) (requireRole : Bool) (channel : ChannelRow)
    (author : String) : (lowTrust a b requireRole channel author).FailsAs NotRejection := by
  refine (failsAs_lift (fun _ _ => getUser_error)).bind (fun user => ?_)
  refine (failsAs_ageHours _).bind (fun accountAge => ?_)
  cases channel.spaceId with
  | none => exact Prog.failsAs_pure _
  | some space =>
    refine (failsAs_lift (fun _ _ => getMemberRow_error)).bind (fun member => ?_)
    refine (failsAs_ageHours _).bind (fun spaceAge => ?_)
    refine Prog.failsAs_ite ?_ (Prog.failsAs_pure _)
    exact (failsAs_lift (fun _ _ h => by cases h)).bind (fun roles => Prog.failsAs_pure _)

theorem failsAs_nonMediaMatch (rule : Rule) (channel : ChannelRow) (author hash : String) :
    (nonMediaMatch rule channel author hash).FailsAs NotRejection := by
  refine Prog.failsAs_ite ?_ (Prog.failsAs_pure _)
  cases rule.trigger with
  | media categories threshold => exact Prog.failsAs_pure _
  | hashDenylist => exact failsAs_lift (fun _ _ h => by cases h)
  | lowTrust a b requireRole => exact failsAs_lowTrust _ _ _ _ _
  | nonNsfwAttachment => exact Prog.failsAs_pure _

theorem fires_error {s : AppState} {channel : ChannelRow} {author hash : String} {rule : Rule}
    {e : AppError} (h : fires s channel author hash rule = .error e) : NotRejection e := by
  have hexec := exec_nonMediaMatch s channel author hash rule
  rw [h] at hexec
  exact (failsAs_nonMediaMatch rule channel author hash).exec hexec

theorem failsAs_exemptUnder (policy : Policy) (channel : ChannelRow) (auth : AuthUser) :
    (exemptUnder policy channel auth).FailsAs NotRejection := by
  refine Prog.failsAs_ite ?_ (Prog.failsAs_pure _)
  unfold exempt
  cases channel.spaceId with
  | none => exact Prog.failsAs_pure _
  | some space =>
    refine (failsAs_lift (fun _ _ => resolve_error)).bind (fun perms => ?_)
    exact (failsAs_lift (fun _ _ h => by cases h)).bind (fun roles => Prog.failsAs_pure _)

theorem failsAs_rejectBlocked (channel : ChannelRow) (files : List UploadFile) :
    (rejectBlocked channel files).FailsAs NotRejection := by
  induction files with
  | nil => exact Prog.failsAs_pure _
  | cons file files ih =>
    refine (failsAs_lift (fun _ _ h => by cases h)).bind (fun blocked => ?_)
    exact (Prog.failsAs_require blocked_notRejection).bind (fun _ => ih)

theorem failsAs_requireRoom (limits : Limits) (files : List UploadFile) :
    (requireRoom limits files).FailsAs NotRejection := by
  refine Prog.FailsAs.bind (Prog.failsAs_query (fun _ h => by cases h)
    (fun _ _ h => by cases h)) (fun totals => ?_)
  exact Prog.failsAs_require (fun _ h => by cases h)

section

variable {s t : AppState} {channel : ChannelRow} {author hash : String} {upload : AutomodUpload}
  {policy : Policy}

def ruledStatus (s : AppState) (upload : AutomodUpload) (channel : ChannelRow) (policy : Policy)
    (result : Option ScanResult) : Option String :=
  match ((rule upload channel policy result).exec s).1 with
  | .ok (.decided _ status _ _) => some status
  | _ => none

def decidedStatus : Except AppError Verdict → Option String
  | .ok .unmatched => some "published"
  | .ok (.matched r) => some r.action.status
  | .ok (.unsupported _) => some "quarantined"
  | .ok .needsScan => none
  | .error _ => none

theorem ruledStatus_eq (result : Option ScanResult) :
    ruledStatus s upload channel policy result =
      decidedStatus (((policy.rules.filter (fun r => r.applies channel)).findSome?
        (answerTo s upload channel result)).getD (.ok .unmatched)) := by
  unfold ruledStatus rule
  rw [Prog.exec_bind, exec_evaluate]
  cases (List.findSome? (answerTo s upload channel result)
    (policy.rules.filter (fun r => r.applies channel))).getD (.ok .unmatched) with
  | error e => rfl
  | ok verdict => cases verdict <;> rfl

def PassedOver (s : AppState) (channel : ChannelRow) (author hash : String) (q : Rule) : Prop :=
  match q.trigger with
  | .media categories _ => categories = []
  | _ => fires s channel author hash q = .ok false

theorem answer_of_passedOver {q : Rule} (h : PassedOver s channel author hash q)
    (scan : ScanResult) : answer s channel author hash (some scan) q = none := by
  unfold PassedOver at h
  unfold answer
  cases htrigger : q.trigger with
  | media categories threshold =>
    rw [htrigger] at h
    subst h
    rfl
  | _ =>
    rw [htrigger] at h
    dsimp only at h ⊢
    rw [h]

def strangeScan (category : String) : ScanResult :=
  { modelVersion := "m", scores := [(if category = "A" then "B" else "A", 0)] }

theorem strangeScan_valid (category : String) : (strangeScan category).valid = true := by
  by_cases h : category = "A" <;> simp [strangeScan, h] <;> decide

theorem strangeScan_score (category : String) : (strangeScan category).score category = none := by
  by_cases h : category = "A"
  · simp [strangeScan, ScanResult.score, h]
  · simp [strangeScan, ScanResult.score, h, Ne.symm h]

theorem answer_of_not_passedOver {q : Rule} (h : ¬ PassedOver s channel author hash q)
    (hspared : refusal s channel author hash q = none) :
    ∃ scan : ScanResult, scan.valid = true ∧ ∃ r,
      answer s channel author hash (some scan) q = some r ∧ decidedStatus r ≠ some "rejected" := by
  unfold PassedOver at h
  unfold answer
  cases htrigger : q.trigger with
  | media categories threshold =>
    rw [htrigger] at h
    cases categories with
    | nil => exact absurd rfl h
    | cons c cs =>
      refine ⟨strangeScan c, strangeScan_valid c, .ok (.unsupported q), ?_, ?_⟩
      · simp [strangeScan_score]
      · simp [decidedStatus]
  | _ =>
    refine ⟨strangeScan "", strangeScan_valid "", ?_⟩
    rw [htrigger] at h
    dsimp only at h ⊢
    cases hfires : fires s channel author hash q with
    | error e => exact ⟨_, rfl, by simp [decidedStatus]⟩
    | ok b =>
      cases b with
      | false => exact absurd hfires h
      | true =>
        refine ⟨_, rfl, ?_⟩
        have haction : q.action ≠ .reject := by
          intro hreject
          simp [refusal, hreject, hfires] at hspared
        cases haction' : q.action with
        | reject => exact absurd haction' haction
        | _ => simp [decidedStatus, haction', Action.status]

theorem answer_of_rejects {r : Rule} (hfires : fires s channel author hash r = .ok true)
    (scan : ScanResult) : answer s channel author hash (some scan) r = some (.ok (.matched r)) := by
  unfold answer
  cases htrigger : r.trigger with
  | media categories threshold =>
    have happlies := hfires
    simp only [fires, nonMediaMatch, htrigger] at happlies
    split at happlies <;> simp at happlies
  | _ =>
    dsimp only
    rw [hfires]

theorem applies_of_fires {r : Rule} (hfires : fires s channel author hash r = .ok true) :
    r.applies channel = true := by
  by_contra happlies
  simp [fires, nonMediaMatch, happlies] at hfires

theorem first_failing {α : Type} {P : α → Prop} {xs : List α} (h : ¬ ∀ x ∈ xs, P x) :
    ∃ as x bs, xs = as ++ x :: bs ∧ (∀ a ∈ as, P a) ∧ ¬ P x := by
  induction xs with
  | nil => exact absurd (by simp) h
  | cons x xs ih =>
    by_cases hx : P x
    · have htail : ¬ ∀ y ∈ xs, P y := fun hall => h (by simpa [hx] using hall)
      obtain ⟨as, y, bs, rfl, has, hy⟩ := ih htail
      exact ⟨x :: as, y, bs, rfl, by simpa [hx] using has, hy⟩
    · exact ⟨[], x, xs, rfl, by simp, hx⟩

structure RejectsFirst (s : AppState) (channel : ChannelRow) (author hash : String)
    (before : List Rule) (r : Rule) : Prop where
  action : r.action = .reject
  fires : fires s channel author hash r = .ok true
  spared : ∀ q ∈ before, refusal s channel author hash q = none

theorem rejected_iff_passedOver {before after : List Rule} {r : Rule}
    (hrules : policy.rules = before ++ r :: after)
    (h : RejectsFirst s channel upload.authorId upload.hash before r) :
    (∀ scan : ScanResult, scan.valid = true →
        ruledStatus s upload channel policy (some scan) = some "rejected") ↔
      ∀ q ∈ before, q.applies channel = true →
        PassedOver s channel upload.authorId upload.hash q := by
  have hsplit : policy.rules.filter (fun q => q.applies channel) =
      before.filter (fun q => q.applies channel) ++
        r :: after.filter (fun q => q.applies channel) := by
    rw [hrules, List.filter_append,
      List.filter_cons_of_pos (p := fun q : Rule => q.applies channel) (applies_of_fires h.fires)]
  constructor
  · intro hall
    by_contra hsome
    obtain ⟨as, q, bs, has, hpassed, hq⟩ : ∃ as q bs,
        before.filter (fun q => q.applies channel) = as ++ q :: bs ∧
          (∀ a ∈ as, PassedOver s channel upload.authorId upload.hash a) ∧
          ¬ PassedOver s channel upload.authorId upload.hash q := by
      apply first_failing
      intro hforall
      exact hsome (fun q hq happlies => hforall q (List.mem_filter.mpr ⟨hq, happlies⟩))
    have hmem : q ∈ before := by
      have hin : q ∈ before.filter (fun q => q.applies channel) := by simp [has]
      exact (List.mem_filter.mp hin).1
    obtain ⟨scan, hvalid, answered, hanswer, hstatus⟩ :=
      answer_of_not_passedOver hq (h.spared q hmem)
    apply hstatus
    rw [← hall scan hvalid, ruledStatus_eq, hsplit, has, List.append_assoc,
      List.findSome?_append]
    have hnone : as.findSome? (answerTo s upload channel (some scan)) = none := by
      rw [List.findSome?_eq_none_iff]
      exact fun a ha => answer_of_passedOver (hpassed a ha) scan
    rw [hnone, Option.none_or, List.cons_append, List.findSome?_cons, answerTo, hanswer]
    rfl
  · intro hpassed scan _
    have hnone : (before.filter (fun q => q.applies channel)).findSome?
        (answerTo s upload channel (some scan)) = none := by
      rw [List.findSome?_eq_none_iff]
      intro q hq
      obtain ⟨hmem, happlies⟩ := List.mem_filter.mp hq
      exact answer_of_passedOver (hpassed q hmem happlies) scan
    rw [ruledStatus_eq, hsplit, List.findSome?_append, hnone, Option.none_or,
      List.findSome?_cons, answerTo, answer_of_rejects h.fires]
    simp [decidedStatus, h.action, Action.status]

theorem rejection_after {α β : Type} {p : App α} {f : α → App β} {ruleId : String}
    (hquiet : p.Preserves (fun s => s)) (hfails : p.FailsAs NotRejection)
    (h : (p >>= f).exec s = (.error (rejectedBy ruleId), t)) :
    ∃ a, (f a).exec s = (.error (rejectedBy ruleId), t) := by
  rw [Prog.exec_bind, exec_quiet hquiet] at h
  cases hp : (p.exec s).1 with
  | ok a =>
    rw [hp] at h
    exact ⟨a, h⟩
  | error e =>
    rw [hp] at h
    cases h
    exact absurd rfl (hfails.exec (Prod.ext hp rfl) ruleId)

theorem exec_preflightFiles_error {rules : List Rule} {files : List UploadFile} {e : AppError}
    (h : (preflightFiles channel author rules files).exec s = (.error e, t)) :
    ∃ file ∈ files, rules.findSome? (refusal s channel author file.hash) = some e := by
  induction files with
  | nil => cases h
  | cons file files ih =>
    unfold preflightFiles at h
    rw [Prog.exec_bind, exec_preflightRules] at h
    cases hfirst : rules.findSome? (refusal s channel author file.hash) with
    | some e' =>
      rw [hfirst] at h
      cases h
      exact ⟨file, List.mem_cons_self, hfirst⟩
    | none =>
      rw [hfirst] at h
      obtain ⟨file', hfile', hfound⟩ := ih h
      exact ⟨file', List.mem_cons_of_mem _ hfile', hfound⟩

theorem rejectsFirst_of_refusal {rules : List Rule} {ruleId : String}
    (h : rules.findSome? (refusal s channel author hash) = some (rejectedBy ruleId)) :
    ∃ before r after, rules = before ++ r :: after ∧ r.id = ruleId ∧
      RejectsFirst s channel author hash before r := by
  obtain ⟨before, r, after, hsplit, hrefused, hspared⟩ := List.findSome?_eq_some_iff.mp h
  unfold refusal at hrefused
  split at hrefused
  · rename_i haction
    cases hfires : fires s channel author hash r with
    | error e =>
      rw [hfires] at hrefused
      exact absurd (Option.some.inj hrefused) (fires_error hfires ruleId)
    | ok b =>
      cases b with
      | false => simp [hfires] at hrefused
      | true =>
        simp only [hfires, rejectedBy, Option.some.injEq, AppError.badRequest.injEq,
          String.append_assoc, String.append_right_inj] at hrefused
        have hid : r.id = ruleId := by simpa using hrefused
        exact ⟨before, r, after, hsplit, hid, haction, hfires, hspared⟩
  · cases hrefused

theorem rejectsFirst_of_preflight {limits : Limits} {auth : AuthUser} {files : List UploadFile}
    {ruleId : String}
    (h : (preflight limits channel auth files).exec s = (.error (rejectedBy ruleId), t)) :
    ∃ file ∈ files, ∃ before r after,
      (Policy.inForce s.db channel.spaceId).rules = before ++ r :: after ∧ r.id = ruleId ∧
        RejectsFirst s channel auth.userId file.hash before r := by
  unfold preflight at h
  split at h
  · cases h
  · rw [Prog.exec_bind, App.exec_lift] at h
    dsimp only [Policy.load] at h
    obtain ⟨exempted, h⟩ := rejection_after (preserves_exemptUnder _ _ _)
      (failsAs_exemptUnder _ _ _) h
    obtain ⟨_, h⟩ := rejection_after
      (Prog.preserves_ite (preserves_rejectBlocked _ _) (Prog.preserves_pure _))
      (Prog.failsAs_ite (failsAs_rejectBlocked _ _) (Prog.failsAs_pure _)) h
    split at h
    · obtain ⟨_, h⟩ := rejection_after (preserves_requireRoom _ _) (failsAs_requireRoom _ _) h
      rcases Prog.exec_bind_cases (preflightFiles channel auth.userId _ files) _ s with
        ⟨e, u, hfiles, hexec⟩ | ⟨_, u, _, hexec⟩
      · rw [hexec] at h
        cases h
        obtain ⟨file, hfile, hrefused⟩ := exec_preflightFiles_error hfiles
        exact ⟨file, hfile, rejectsFirst_of_refusal hrefused⟩
      · rw [hexec] at h
        cases h
    · cases h

end

def privateChat : ChannelRow := { id := "10", channelType := "dm" }

def picture : UploadFile :=
  { filename := "a.png", contentType := "image/png", bytes := [1], hash := "h" }

def pendingPicture : AutomodUpload :=
  { id := "1"
    messageId := "20"
    channelId := "10"
    spaceId := none
    authorId := "bob"
    filename := "a.png"
    contentType := "image/png"
    size := 1
    hash := "h"
    status := "pending"
    createdAt := 0
    expiresAt := 100
    nextAttempt := 0 }

def chatUnder (rules : List Rule) : AppState :=
  { db :=
      { users := [{ id := "ann", username := "ann" }, { id := "bob", username := "bob" },
          { id := "sys", username := "System", system := true }]
        channels := [privateChat]
        dmParticipants := [⟨"10", "ann"⟩, ⟨"10", "bob"⟩]
        messages := [{ id := "20", channelId := "10", authorId := "bob", content := "look" }]
        automodPolicies := [⟨"*", { enabled := true, rules := rules }⟩]
        automodUploads := [pendingPicture] }
    ext := Externals.fixed "2026-01-01 00:00:00"
    storagePath := ["data"]
    files := [["data", "automod", "1"]] }

def flagAll : Rule :=
  { id := "flag-all", trigger := .nonNsfwAttachment, scope := .all, action := .flag }

def rejectAll : Rule :=
  { id := "reject-all", trigger := .nonNsfwAttachment, scope := .all, action := .reject }

end Vokusz.Automod
