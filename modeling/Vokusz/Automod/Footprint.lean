import Vokusz.Automod.Routes
import Vokusz.Routes.Footprint

namespace Vokusz

open App Db
open Lib (Prog)

theorem Db.Users.touches_createUser (username displayName : String) :
    Touches [.users, .snowflake] (Users.createUser username displayName) := by
  refine (touches_generateId.mono (by decide)).bind (fun id => ?_)
  refine (Prog.touches_get _).bind (fun now => ?_)
  refine Prog.Touches.bind (touches_write ?_) (fun _ => touches_lift _)
  intro n hn s
  cases n <;> first | rfl | simp at hn

theorem Db.Users.touches_createSystemUser :
    Touches [.users, .snowflake] Users.createSystemUser := by
  refine (Users.touches_createUser _ _).attempt.bind (fun created => ?_)
  cases created with
  | ok user => exact Prog.touches_pure _
  | error e =>
    cases e with
    | conflict text =>
      refine (touches_generateId.mono (by decide)).bind (fun suffix => ?_)
      exact Users.touches_createUser _ _
    | _ => exact Prog.touches_fail _

theorem Db.Users.touches_getOrCreateSystemUser :
    Touches [.users, .snowflake] Users.getOrCreateSystemUser := by
  refine (touches_appQuery _).bind (fun found => ?_)
  cases found with
  | some user => exact Prog.touches_pure _
  | none =>
    refine Users.touches_createSystemUser.bind (fun user => ?_)
    refine Prog.Touches.bind (touches_update ?_) (fun _ => Prog.touches_pure _)
    intro n hn s
    cases n <;> first | rfl | simp at hn

theorem Storage.touches_removeFile (path : Storage.FilePath) :
    Touches [.files] (Storage.removeFile path) :=
  Prog.touches_modify (fun _ hn s => slot_files hn s _)

namespace Automod

section

variable {γ : Type} {view : AppState → γ}

theorem preserves_ageHours (value : String) : (ageHours value).Preserves view := by
  refine (Prog.preserves_get _).bind (fun ext => ?_)
  exact (Prog.preserves_get _).bind (fun now => Prog.preserves_pure _)

theorem preserves_lowTrust (a b : Nat) (requireRole : Bool) (channel : ChannelRow)
    (author : String) : (lowTrust a b requireRole channel author).Preserves view := by
  refine (preserves_lift _).bind (fun user => ?_)
  refine (preserves_ageHours _).bind (fun accountAge => ?_)
  cases channel.spaceId with
  | none => exact Prog.preserves_pure _
  | some space =>
    refine (preserves_lift _).bind (fun member => ?_)
    refine (preserves_ageHours _).bind (fun spaceAge => ?_)
    refine Prog.preserves_ite ?_ (Prog.preserves_pure _)
    exact (preserves_lift _).bind (fun roles => Prog.preserves_pure _)

theorem preserves_nonMediaMatch (rule : Rule) (channel : ChannelRow) (author hash : String) :
    (nonMediaMatch rule channel author hash).Preserves view := by
  refine Prog.preserves_ite ?_ (Prog.preserves_pure _)
  cases rule.trigger with
  | media categories threshold => exact Prog.preserves_pure _
  | hashDenylist => exact preserves_lift _
  | lowTrust a b requireRole => exact preserves_lowTrust _ _ _ _ _
  | nonNsfwAttachment => exact Prog.preserves_pure _

theorem preserves_evaluate (upload : AutomodUpload) (channel : ChannelRow)
    (result : Option ScanResult) (rules : List Rule) :
    (evaluate upload channel result rules).Preserves view := by
  induction rules with
  | nil => exact Prog.preserves_pure _
  | cons rule rules ih =>
    have hnonMedia : ∀ fires : Bool, Prog.Preserves view
        (if fires then return .matched rule else evaluate upload channel result rules :
          App Verdict) :=
      fun fires => Prog.preserves_ite (Prog.preserves_pure _) ih
    unfold evaluate
    cases rule.trigger with
    | media categories threshold =>
      cases result with
      | none => exact Prog.preserves_pure _
      | some scan =>
        refine Prog.preserves_ite (Prog.preserves_pure _) ?_
        exact Prog.preserves_ite (Prog.preserves_pure _) ih
    | _ => exact (preserves_nonMediaMatch _ _ _ _).bind hnonMedia

theorem preserves_standing (channel : ChannelRow) (author : Permissions.AuthUser) :
    (standing channel author).Preserves view := by
  refine (preserves_found? _).bind (fun allowed => ?_)
  cases channel.spaceId.filter (fun space => space ≠ "") with
  | none => exact Prog.preserves_pure _
  | some space =>
    refine Prog.Preserves.bind (Prog.Preserves.bind (Prog.Preserves.attempt ?_)
      (fun _ => Prog.preserves_pure _)) (fun spoken => Prog.preserves_pure _)
    refine Prog.preserves_ite (Prog.preserves_pure _) ?_
    refine (preserves_query _).bind (fun member => ?_)
    refine (Prog.preserves_get _).bind (fun ext => ?_)
    exact (Prog.preserves_get _).bind (fun now => Prog.preserves_require _ _)

section

variable (upload : AutomodUpload) (channel : ChannelRow)

include upload channel

theorem preserves_authorHold :
    (authorHold upload channel).Preserves view := by
  refine (preserves_query _).bind (fun author => ?_)
  cases author with
  | none => exact Prog.preserves_pure _
  | some user => exact (preserves_standing _ _).bind (fun allowed => Prog.preserves_pure _)

theorem preserves_hold (policy : Policy) :
    (hold upload channel policy).Preserves view := by
  refine Prog.preserves_ite ?_ (Prog.preserves_pure _)
  refine (preserves_lift _).bind (fun blocked => ?_)
  exact Prog.preserves_ite (Prog.preserves_pure _) (preserves_authorHold _ _)

theorem preserves_rule (policy : Policy) (result : Option ScanResult) :
    (rule upload channel policy result).Preserves view :=
  (preserves_evaluate _ _ _ _).bind (fun _ => Prog.preserves_pure _)

theorem preserves_judge (policy : Policy) (result : Option ScanResult) :
    (judge upload channel policy result).Preserves view := by
  refine (preserves_hold _ _ _).bind (fun held => ?_)
  cases held with
  | none => exact preserves_rule _ _ _ _
  | some reason => exact Prog.preserves_pure _

end

theorem preserves_turn (id : String) (result : Option ScanResult) :
    (turn id result).Preserves view := by
  refine (preserves_lift _).bind (fun upload => ?_)
  cases upload with
  | none => exact Prog.preserves_pure _
  | some upload =>
    refine (preserves_lift _).bind (fun channel => ?_)
    refine (preserves_lift _).bind (fun policy => ?_)
    refine (Prog.preserves_get _).bind (fun now => ?_)
    refine Prog.preserves_ite (Prog.preserves_pure _) ?_
    cases channel with
    | none => exact Prog.preserves_pure _
    | some channel => exact preserves_judge _ _ _ _

theorem preserves_candidate : candidate.Preserves view :=
  (Prog.preserves_get _).bind (fun _ => preserves_query _)

theorem preserves_exemptUnder (policy : Policy) (channel : ChannelRow)
    (auth : Permissions.AuthUser) : (exemptUnder policy channel auth).Preserves view := by
  refine Prog.preserves_ite ?_ (Prog.preserves_pure _)
  unfold exempt
  cases channel.spaceId with
  | none => exact Prog.preserves_pure _
  | some space =>
    refine (preserves_lift _).bind (fun perms => ?_)
    exact (preserves_lift _).bind (fun roles => Prog.preserves_pure _)

theorem preserves_rejectBlocked (channel : ChannelRow) (files : List Routes.Messages.UploadFile) :
    (rejectBlocked channel files).Preserves view := by
  induction files with
  | nil => exact Prog.preserves_pure _
  | cons file files ih =>
    refine (preserves_lift _).bind (fun blocked => ?_)
    exact (Prog.preserves_require _ _).bind (fun _ => ih)

theorem preserves_requireRoom (limits : Limits) (files : List Routes.Messages.UploadFile) :
    (requireRoom limits files).Preserves view :=
  (preserves_query _).bind (fun _ => Prog.preserves_require _ _)

theorem preserves_newExpiry (upload : AutomodUpload) : (newExpiry upload).Preserves view := by
  refine Prog.preserves_ite ?_ (Prog.preserves_pure _)
  refine (preserves_lift _).bind (fun policy => ?_)
  exact (Prog.preserves_get _).bind (fun now => Prog.preserves_pure _)

theorem preserves_timeoutEnd (rule : Option Rule) : (timeoutEnd rule).Preserves view := by
  unfold timeoutEnd
  split
  · refine (Prog.preserves_get _).bind (fun ext => ?_)
    exact (Prog.preserves_get _).bind (fun now => Prog.preserves_pure _)
  · exact Prog.preserves_pure _

theorem preserves_authorize (scope : String) (auth : Permissions.AuthUser) (configure : Bool) :
    (authorize scope auth configure).Preserves view :=
  Prog.preserves_ite (preserves_liftExcept _) (preserves_lift _)

end

variable {slots : List Slot}

theorem touches_actorOf (decision : Decision) :
    Touches [.users, .snowflake] (actorOf decision) := by
  unfold actorOf
  cases decision.reviewer with
  | none => exact Users.touches_getOrCreateSystemUser
  | some id => exact Prog.touches_pure _

theorem touches_publicCopy (m : Originals) (upload : AutomodUpload) :
    Touches [.files] (publicCopy m upload) := by
  refine (touches_lift _).bind (fun stands => ?_)
  refine Prog.touches_ite ?_ (Prog.touches_pure _)
  refine (Prog.touches_get _).bind (fun stored => ?_)
  refine (Prog.touches_require _ _).bind (fun _ => ?_)
  refine (Prog.touches_require _ _).bind (fun _ => ?_)
  exact (Storage.touches_saveAttachment _ _ _ _ _ _).bind (fun url => Prog.touches_pure _)

theorem touches_settle (m : Originals) (upload : AutomodUpload) (status reason : String) :
    Touches [.files] (settle m upload status reason) := by
  refine Prog.touches_ite ?_ (Prog.touches_pure _)
  refine (touches_publicCopy _ _).bind (fun file => ?_)
  cases file with
  | none => exact Prog.touches_pure _
  | some file => exact Prog.touches_pure _

theorem touches_flagged (actor : String) (upload : AutomodUpload) (status : String)
    (rule : Option Rule) : Touches [.snowflake] (flagged actor upload status rule) := by
  cases rule with
  | none => exact Prog.touches_pure _
  | some rule =>
    refine Prog.touches_ite ?_ (Prog.touches_pure _)
    refine touches_generateId.bind (fun id => ?_)
    exact (Prog.touches_get _).bind (fun createdAt => Prog.touches_pure _)

theorem touches_removeOriginal (id : String) : Touches [.files] (removeOriginal id) :=
  (Prog.touches_get _).bind (fun _ => Storage.touches_removeFile _)

theorem touches_notify (upload : AutomodUpload) (status : String) :
    Touches [.gatewayTx] (notify upload status) :=
  (touches_send _).bind (fun _ => touches_send _)

theorem touches_broadcastMessage (upload : AutomodUpload) :
    Touches [.gatewayTx] (broadcastMessage upload) := by
  refine (touches_found? _).bind (fun message => ?_)
  cases message with
  | none => exact Prog.touches_pure _
  | some message => exact (touches_lift _).bind (fun attachments => touches_send _)

theorem touches_announce (upload : AutomodUpload) (status : String) :
    Touches [.files, .gatewayTx] (announce upload status) := by
  refine Prog.Touches.bind ?_ (fun _ => Prog.Touches.bind ?_ (fun _ => ?_))
  · exact Prog.touches_ite ((touches_removeOriginal _).mono (by decide)) (Prog.touches_pure _)
  · exact Prog.touches_ite ((touches_broadcastMessage _).mono (by decide)) (Prog.touches_pure _)
  · exact (touches_notify _ _).mono (by decide)

end Automod

end Vokusz
