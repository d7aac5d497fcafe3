import Vokusz.Routes.Sending

namespace Vokusz.Automod

open Db Permissions
open Lib (Prog Table.orderBy)
open Routes.Messages (UploadFile)

def whenever (c : Prop) [Decidable c] (act : App Unit) : App Unit :=
  if c then act else return ()

def scopeKey (spaceId : Option String) : String := spaceId.getD "*"

def badPolicy : AppError :=
  .badRequest ("invalid automod policy: check rule IDs, thresholds, scopes, actions and " ++
    "retention limits")

namespace Trigger

def valid (action : Action) : Trigger → Bool
  | .media categories threshold =>
    0 ≤ threshold && threshold ≤ 1 && !categories.isEmpty && categories.length ≤ 64 &&
      categories.all (fun c => c ≠ "" && c.utf8ByteSize ≤ 64) &&
      (match action with
        | .timeout _ => false
        | _ => true)
  | _ => true

def allowsTimeout : Trigger → Bool
  | .hashDenylist => true
  | .lowTrust _ _ _ => true
  | _ => false

end Trigger

namespace Scope

def valid : Scope → Bool
  | .channels ids => !ids.isEmpty && ids.length ≤ 100
  | _ => true

end Scope

namespace Action

def valid (trigger : Trigger) : Action → Bool
  | .timeout seconds => seconds ≠ 0 && seconds ≤ 86400 && trigger.allowsTimeout
  | _ => true

end Action

namespace Rule

def valid (rule : Rule) : Bool :=
  rule.id ≠ "" && rule.id.utf8ByteSize ≤ 64 && rule.scope.valid &&
    rule.trigger.valid rule.action && rule.action.valid rule.trigger

def applies (rule : Rule) (channel : ChannelRow) : Bool :=
  match rule.scope with
  | .all => true
  | .nonNsfw => !channel.nsfw
  | .channels ids => ids.contains channel.id

end Rule

namespace Policy

def validateRules : List String → List Rule → Except AppError Unit
  | _, [] => .ok ()
  | ids, rule :: rules =>
    if rule.valid && !ids.contains rule.id then validateRules (rule.id :: ids) rules
    else .error badPolicy

def validate (policy : Policy) : Except AppError Unit :=
  if policy.rules.length ≤ 32 ∧ policy.retentionDays ≠ 0 ∧ policy.retentionDays ≤ 90 ∧
      policy.exemptRoles.length ≤ 100 ∧ policy.exemptPermissions.length ≤ 32 then
    validateRules [] policy.rules
  else .error badPolicy

def hasHashRule (policy : Policy) (channel : ChannelRow) : Bool :=
  policy.rules.any (fun r => r.trigger = .hashDenylist && r.applies channel)

def inForce (db : Tables) (space : Option String) : Policy :=
  let rows := db.automodPolicies.filter (fun p => p.scopeId = scopeKey space || p.scopeId = "*")
  match Table.orderBy (fun p => if p.scopeId = "*" then 1 else 0) rows with
  | row :: _ => row.policy
  | [] => {}

def load (space : Option String) : Query Policy := fun db => .ok (inForce db space)

end Policy

def exempt (policy : Policy) (channel : ChannelRow) (auth : AuthUser) : App Bool := do
  match channel.spaceId with
  | none => return false
  | some space =>
    let perms ← resolveMemberPermissionsWithAdmin space auth.userId auth.isAdmin
    let roles ← Members.getMemberRoleIds space auth.userId
    return policy.exemptPermissions.any (hasPermission perms) ||
      policy.exemptRoles.any roles.contains

def exemptUnder (policy : Policy) (channel : ChannelRow) (auth : AuthUser) : App Bool :=
  if policy.enabled then exempt policy channel auth else return false

def parseTime (ext : Externals) (value : String) : Option Nat :=
  (ext.parseRfc3339 value).or
    ((ext.parseNaive "%Y-%m-%d %H:%M:%S" value).or (ext.parseNaive "%Y-%m-%dT%H:%M:%S" value))

def ageHours (value : String) : App Nat := do
  let ext ← App.externals
  let now ← App.nowMillis
  return match parseTime ext value with
    | some t => (now - t) / 3600000
    | none => 0

def hashBlockedInScope (db : Tables) (spaceId : Option String) (hash : String) : Bool :=
  db.automodHashes.any (fun h =>
    h.hash = hash && (h.scopeId = "*" || h.scopeId = scopeKey spaceId))

def hashBlocked (channel : ChannelRow) (hash : String) : Query Bool :=
  fun db => .ok (hashBlockedInScope db channel.spaceId hash)

def lowTrust (minAccountAgeHours minSpaceAgeHours : Nat) (requireRole : Bool)
    (channel : ChannelRow) (author : String) : App Bool := do
  let user ← Users.getUser author
  let accountAge ← ageHours user.createdAt
  match channel.spaceId with
  | none => return accountAge < minAccountAgeHours
  | some space =>
    let member ← Members.getMemberRow space author
    let spaceAge ← ageHours member.joinedAt
    let low := accountAge < minAccountAgeHours || spaceAge < minSpaceAgeHours
    if requireRole then
      let roles ← Members.getMemberRoleIds space author
      return low || roles.isEmpty
    else return low

def nonMediaMatch (rule : Rule) (channel : ChannelRow) (author hash : String) : App Bool := do
  if rule.applies channel then
    match rule.trigger with
    | .media _ _ => return false
    | .nonNsfwAttachment => return !channel.nsfw
    | .hashDenylist => hashBlocked channel hash
    | .lowTrust minAccountAgeHours minSpaceAgeHours requireRole =>
      lowTrust minAccountAgeHours minSpaceAgeHours requireRole channel author
  else return false

structure Limits where
  maxHeld : Nat := 1000
  maxHeldBytes : Int := 1024 * 1024 * 1024

def withheld (status : String) : Bool := ["pending", "quarantined", "rejected"].contains status

def heldTotals (db : Tables) : Nat × Int :=
  let rows := db.automodUploads.filter (fun u => withheld u.status)
  (rows.length, (rows.map AutomodUpload.size).sum)

def rejectBlocked (channel : ChannelRow) : List UploadFile → App Unit
  | [] => return ()
  | file :: files => do
    let blocked ← hashBlocked channel file.hash
    Prog.require (¬ blocked) (.badRequest "attachment hash is blocked")
    rejectBlocked channel files

def rejectedBy (ruleId : String) : AppError :=
  .badRequest ("attachment rejected by automod rule '" ++ ruleId ++ "'")

def preflightRules (channel : ChannelRow) (author hash : String) : List Rule → App Unit
  | [] => return ()
  | rule :: rules => do
    if rule.action = .reject then
      let fires ← nonMediaMatch rule channel author hash
      Prog.require (¬ fires) (rejectedBy rule.id)
      preflightRules channel author hash rules
    else preflightRules channel author hash rules

def preflightFiles (channel : ChannelRow) (author : String) (rules : List Rule) :
    List UploadFile → App Unit
  | [] => return ()
  | file :: files => do
    preflightRules channel author file.hash rules
    preflightFiles channel author rules files

def requireRoom (limits : Limits) (files : List UploadFile) : App Unit := do
  let (count, size) ← App.query (fun db => .ok (heldTotals db))
  let incoming : Int := (files.map (fun f => (f.bytes.length : Int))).sum
  Prog.require (count + files.length ≤ limits.maxHeld ∧ size + incoming ≤ limits.maxHeldBytes)
    (.rateLimited 60)

def preflight (limits : Limits) (channel : ChannelRow) (auth : AuthUser)
    (files : List UploadFile) : App (Option Policy) := do
  if files.isEmpty then return none
  else
    let policy ← Policy.load channel.spaceId
    let exempted ← exemptUnder policy channel auth
    let enabled := policy.enabled && !exempted
    whenever (¬ (enabled && policy.hasHashRule channel)) (rejectBlocked channel files)
    if enabled then
      requireRoom limits files
      preflightFiles channel auth.userId policy.rules files
      return some policy
    else return none

end Vokusz.Automod
