import Vokusz.Db.Federation
import Vokusz.Federation.Authority

namespace Vokusz.Federation

open Db Mapping
open Lib (Prog)

structure ReactionAggregate where
  emojiName : String
  count : Nat
  includesMe : Bool
  deriving DecidableEq, Repr

def reactionsToJson (reactions : List ReactionAggregate) : Json :=
  if reactions.isEmpty then .null
  else .arr (reactions.map (fun r =>
    .obj [("emoji", .obj [("id", .null), ("name", .str r.emojiName)]),
      ("count", .num r.count), ("me", .bool r.includesMe)]))

def messageRowToJson (row : MessageRow) (attachments : List Json := [])
    (reactions : List ReactionAggregate := []) (replyCount : Nat := 0) : Json :=
  .obj [("id", .str row.id), ("channel_id", .str row.channelId),
    ("space_id", .ofOption row.spaceId), ("author_id", .str row.authorId),
    ("content", .str row.content), ("type", .str row.messageType),
    ("timestamp", .str row.createdAt), ("edited_at", .ofOption row.editedAt),
    ("tts", .bool row.tts), ("pinned", .bool row.pinned),
    ("mention_everyone", .bool row.mentionEveryone), ("mentions", .strings row.mentions),
    ("mention_roles", .strings row.mentionRoles), ("attachments", .arr attachments),
    ("embeds", if row.embeds.asArray?.isSome then row.embeds else .arr []),
    ("reactions", reactionsToJson reactions), ("reply_to", .ofOption row.replyTo),
    ("flags", .num row.flags), ("webhook_id", .ofOption row.webhookId),
    ("thread_id", .ofOption row.threadId), ("reply_count", .num replyCount),
    ("title", .ofOption row.title)]

def gatewayEvent (eventType : String) (data : Json) : Json :=
  .obj [("op", .num 0), ("type", .str eventType), ("data", data)]

def broadcastSpace (spaceId : Option String) (eventType : String) (data : Json)
    (intent : String) : App Unit :=
  App.send
    { spaceId := spaceId
      targetUserIds := none
      event := gatewayEvent eventType data
      intent := intent }

def homeOf (id authoritativeDomain : String) : String := (domainOf id).getD authoritativeDomain

def mirrorOwnUser (ourDomain id : String) : App Unit := do
  let found ← App.found? (Users.getUser (localPart id))
  match found with
  | none => Prog.fail (.forbidden "referenced local user does not exist")
  | some user =>
    if user.origin.isSome then
      Prog.fail (.forbidden "referenced id is not a local user")
    else
      Users.ensureRemoteUser id ourDomain (handle user.username ourDomain) user.displayName
        user.avatar

def mirrorForeignUser (authoritativeDomain id userHandle : String)
    (displayName avatar : Option String) : App Unit := do
  let domain := homeOf id authoritativeDomain
  if eqIgnoreAsciiCase domain authoritativeDomain then
    let _ ← Users.upsertRemoteUser id domain userHandle displayName avatar
    return ()
  else Users.ensureRemoteUser id domain userHandle displayName avatar

def mirrorUser (authoritativeDomain id userHandle : String) (displayName avatar : Option String) :
    App Unit := do
  let fed ← App.federation
  match fed with
  | some fed =>
    if eqIgnoreAsciiCase (homeOf id authoritativeDomain) fed.domain then
      mirrorOwnUser fed.domain id
    else mirrorForeignUser authoritativeDomain id userHandle displayName avatar
  | none => mirrorForeignUser authoritativeDomain id userHandle displayName avatar

def mirrorRef (authoritativeDomain : String) (user : RemoteUserRef) : App Unit :=
  mirrorUser authoritativeDomain user.id
    (handle user.usernameOrId (homeOf user.id authoritativeDomain)) user.displayName user.avatar

def mirrorsOwn (s : AppState) (domain id : String) : Option FederationContext :=
  s.federation.filter (fun fed => eqIgnoreAsciiCase (homeOf id domain) fed.domain)

def Mirrorable (domain : String) (user : RemoteUserRef) (s : AppState) : Prop :=
  match mirrorsOwn s domain user.id with
  | some fed =>
    ∃ own, Users.getUser (localPart user.id) s.db = .ok own ∧ own.origin = none ∧
      (s.db.hasUser user.id || s.db.usernameFree user.id (handle own.username fed.domain)) = true
  | none =>
    (!eqIgnoreAsciiCase (homeOf user.id domain) domain && s.db.hasUser user.id ||
      s.db.usernameFree user.id
        (handle user.usernameOrId (homeOf user.id domain))) = true

section

variable {domain ourDomain id userHandle : String} {displayName avatar : Option String}
  {user : RemoteUserRef} {s t : AppState}

theorem mirrorRef_of_own {fed : FederationContext} (h : mirrorsOwn s domain user.id = some fed) :
    (mirrorRef domain user).exec s = (mirrorOwnUser fed.domain user.id).exec s := by
  obtain ⟨hfed, hown⟩ := Option.filter_eq_some_iff.mp h
  unfold mirrorRef mirrorUser
  rw [Prog.exec_bind_of_ok App.exec_federation, hfed]
  simp only [hown, if_true]

theorem mirrorRef_of_foreign (h : mirrorsOwn s domain user.id = none) :
    (mirrorRef domain user).exec s =
      (mirrorForeignUser domain user.id (handle user.usernameOrId (homeOf user.id domain))
        user.displayName user.avatar).exec s := by
  unfold mirrorRef mirrorUser
  rw [Prog.exec_bind_of_ok App.exec_federation]
  cases hfed : s.federation with
  | none => rfl
  | some fed =>
    have hforeign := Option.filter_eq_none_iff.mp h fed hfed
    simp only [hforeign, Bool.false_eq_true, if_false]

theorem mirrorOwnUser_succeeds : (mirrorOwnUser ourDomain id).Succeeds s ↔
    ∃ own, Users.getUser (localPart id) s.db = .ok own ∧ own.origin = none ∧
      (s.db.hasUser id || s.db.usernameFree id (handle own.username ourDomain)) = true := by
  unfold Prog.Succeeds mirrorOwnUser
  rw [Prog.exec_bind_of_ok (App.exec_found? _)]
  cases hown : Users.getUser (localPart id) s.db with
  | error e => simp [Except.toOption]
  | ok own =>
    simp only [Except.toOption, Except.ok.injEq, exists_eq_left']
    cases horigin : own.origin with
    | some origin => simp
    | none =>
      simp only [Option.isSome_none, Bool.false_eq_true, if_false, true_and]
      exact Users.ensureRemoteUser_succeeds

theorem mirrorForeignUser_succeeds :
    (mirrorForeignUser domain id userHandle displayName avatar).Succeeds s ↔
      (!eqIgnoreAsciiCase (homeOf id domain) domain && s.db.hasUser id ||
        s.db.usernameFree id userHandle) = true := by
  unfold mirrorForeignUser
  dsimp only
  cases hhome : eqIgnoreAsciiCase (homeOf id domain) domain with
  | false =>
    simp only [Bool.false_eq_true, if_false, Bool.not_false, Bool.true_and]
    exact Users.ensureRemoteUser_succeeds
  | true =>
    rw [if_pos rfl]
    simp only [Bool.not_true, Bool.false_and, Bool.false_or]
    exact Prog.succeeds_bind_pure.trans Users.upsertRemoteUser_succeeds

theorem mirrorRef_succeeds : (mirrorRef domain user).Succeeds s ↔ Mirrorable domain user s := by
  unfold Mirrorable
  cases hown : mirrorsOwn s domain user.id with
  | some fed =>
    rw [Prog.Succeeds, mirrorRef_of_own hown]
    exact mirrorOwnUser_succeeds
  | none =>
    rw [Prog.Succeeds, mirrorRef_of_foreign hown]
    exact mirrorForeignUser_succeeds

theorem mirrorRef_hasUser {a : Unit} (h : (mirrorRef domain user).exec s = (.ok a, t)) :
    t.db.hasUser user.id = true := by
  cases hown : mirrorsOwn s domain user.id with
  | some fed =>
    rw [mirrorRef_of_own hown, mirrorOwnUser, Prog.exec_bind_of_ok (App.exec_found? _)] at h
    cases hfound : Users.getUser (localPart user.id) s.db with
    | error e => simp [hfound, Except.toOption] at h
    | ok own =>
      simp only [hfound, Except.toOption] at h
      split at h
      · cases h
      · exact Users.ensureRemoteUser_hasUser h
  | none =>
    rw [mirrorRef_of_foreign hown] at h
    unfold mirrorForeignUser at h
    dsimp only at h
    split at h
    · obtain ⟨u, t', hupsert, hrest⟩ := Prog.exec_bind_ok.mp h
      cases hrest
      exact Users.upsertRemoteUser_hasUser hupsert
    · exact Users.ensureRemoteUser_hasUser h

end

end Vokusz.Federation
