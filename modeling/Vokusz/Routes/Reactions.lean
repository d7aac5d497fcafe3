import Vokusz.Federation.Forward

namespace Vokusz.Routes.Reactions

open Db Permissions Federation
open Lib (Prog Table.has Table.lookup)

def spaceIdOpt (spaceId : String) : Option String := if spaceId = "" then none else some spaceId

def done : Json := .obj [("data", .null)]

def reactionEvent (spaceId eventType : String) (data : List (String × Json)) : App Unit :=
  broadcastSpace (spaceIdOpt spaceId) eventType (.obj data) "message_reactions"

def reactionFields (channelId messageId userId emoji : String) : List (String × Json) :=
  [("channel_id", .str channelId), ("message_id", .str messageId), ("user_id", .str userId),
    ("emoji", .str emoji)]

def fanoutReaction (spaceId eventType channelId messageId userId emoji : String) : App Unit := do
  let fed ← App.federation
  match fed with
  | none => return ()
  | some fed =>
    let _ ← (Outbound.fanoutIfSpace (spaceIdOpt spaceId) eventType
      (Outbound.reactionPayload fed.domain channelId messageId userId emoji)).attempt
    return ()

def homeOfSpace (spaceId : String) : Query (Option String) :=
  if spaceId = "" then return none else Federation.spaceOrigin spaceId

def forwardToHome (home channelId messageId emoji : String) (auth : AuthUser) (remove : Bool)
    (reply : Except AppError Response) : App Json := do
  let actor ← Users.getUser auth.userId
  Forward.forwardReaction home channelId messageId actor emoji remove reply
  return done

def requireNotTimedOutIn (spaceId : String) (auth : AuthUser) : App Unit :=
  if spaceId = "" then return () else requireNotTimedOut spaceId auth

def addReaction (channelId messageId emoji : String) (auth : AuthUser)
    (reply : Except AppError Response) : App Json := do
  let spaceId ← requireChannelPermission channelId auth "add_reactions"
  requireNotTimedOutIn spaceId auth
  let home ← homeOfSpace spaceId
  match home with
  | some home => forwardToHome home channelId messageId emoji auth false reply
  | none =>
    Messages.addReaction messageId auth.userId emoji
    reactionEvent spaceId "reaction.add" (reactionFields channelId messageId auth.userId emoji)
    fanoutReaction spaceId "m.reaction.add" channelId messageId auth.userId emoji
    return done

def removeOwnReaction (channelId messageId emoji : String) (auth : AuthUser)
    (reply : Except AppError Response) : App Json := do
  let spaceId ← requireChannelMembership channelId auth.userId
  let home ← homeOfSpace spaceId
  match home with
  | some home => forwardToHome home channelId messageId emoji auth true reply
  | none =>
    Messages.removeReaction messageId auth.userId emoji
    reactionEvent spaceId "reaction.remove" (reactionFields channelId messageId auth.userId emoji)
    fanoutReaction spaceId "m.reaction.remove" channelId messageId auth.userId emoji
    return done

def removeUserReaction (channelId messageId emoji userId : String) (auth : AuthUser) :
    App Json := do
  let spaceId ← requireChannelPermission channelId auth "manage_messages"
  Messages.removeReaction messageId userId emoji
  reactionEvent spaceId "reaction.remove" (reactionFields channelId messageId userId emoji)
  return done

def listReactions (channelId messageId emoji : String) (auth : AuthUser) : App Json := do
  let _ ← requireChannelMembership channelId auth.userId
  let userIds ← App.query (fun db =>
    .ok ((db.reactions.filter (fun r => r.messageId = messageId && r.emojiName = emoji)).map
      ReactionRow.userId))
  return .obj [("data", .strings userIds)]

def removeAllReactions (channelId messageId : String) (auth : AuthUser) : App Json := do
  let spaceId ← requireChannelPermission channelId auth "manage_messages"
  App.update (fun db =>
    { db with reactions := db.reactions.filter (fun r => r.messageId ≠ messageId) })
  reactionEvent spaceId "reaction.clear"
    [("channel_id", .str channelId), ("message_id", .str messageId)]
  return done

def removeAllReactionsEmoji (channelId messageId emoji : String) (auth : AuthUser) :
    App Json := do
  let spaceId ← requireChannelPermission channelId auth "manage_messages"
  App.update (fun db =>
    { db with
      reactions := db.reactions.filter (fun r =>
        !(r.messageId = messageId && r.emojiName = emoji)) })
  reactionEvent spaceId "reaction.clear_emoji"
    [("channel_id", .str channelId), ("message_id", .str messageId), ("emoji", .str emoji)]
  return done

inductive Operation where
  | add
  | removeOwn
  | list
  | removeUser (userId : String)
  | removeAll
  | removeAllEmoji
deriving DecidableEq, Repr

namespace Operation

def serve (op : Operation) (channelId messageId emoji : String) (auth : AuthUser)
    (reply : Except AppError Response) : App Json :=
  match op with
  | .add => addReaction channelId messageId emoji auth reply
  | .removeOwn => removeOwnReaction channelId messageId emoji auth reply
  | .list => listReactions channelId messageId emoji auth
  | .removeUser userId => removeUserReaction channelId messageId emoji userId auth
  | .removeAll => removeAllReactions channelId messageId auth
  | .removeAllEmoji => removeAllReactionsEmoji channelId messageId emoji auth

def demands (op : Operation) (auth : AuthUser) (channelId : String) : Query String :=
  match op with
  | .add => requireChannelPermission channelId auth "add_reactions"
  | .removeOwn | .list => requireChannelMembership channelId auth.userId
  | .removeUser _ | .removeAll | .removeAllEmoji =>
    requireChannelPermission channelId auth "manage_messages"

end Operation

theorem serve_demands {op : Operation} {channelId messageId emoji : String} {auth : AuthUser}
    {reply : Except AppError Response} {s s' : AppState} {j : Json}
    (h : (op.serve channelId messageId emoji auth reply).exec s = (.ok j, s')) :
    ∃ spaceId, op.demands auth channelId s.db = .ok spaceId := by
  cases op with
  | add | removeOwn | list | removeUser userId | removeAll | removeAllEmoji =>
    obtain ⟨spaceId, t, hchecked, _⟩ := Prog.exec_bind_ok.mp h
    exact ⟨spaceId, (App.exec_lift_ok.mp hchecked).1⟩

def holdsDemanded (op : Operation) (auth : AuthUser) (channelId : String) (s : AppState) : Prop :=
  ∃ spaceId, op.demands auth channelId s.db = .ok spaceId

def authorizes (op : Operation) (pathChannel ownChannel : String) : Prop :=
  ∀ messageId emoji auth reply s j s' message,
    Table.lookup MessageRow.id messageId s.db.messages = some message →
    message.channelId = ownChannel →
    (op.serve pathChannel messageId emoji auth reply).exec s = (.ok j, s') →
    holdsDemanded op auth ownChannel s

def reactOperation (remove : Bool) : Operation := if remove then .removeOwn else .add

def serveReactAuthorizes (ourDomain peer : String) : Prop :=
  ∀ (req : Forward.ReactRequest) s s' message,
    Table.lookup MessageRow.id req.messageId s.db.messages = some message →
    (Forward.serveReact ourDomain peer req).exec s = (.ok (), s') →
    holdsDemanded (reactOperation req.remove) (Forward.remoteActorAuth req.actor.id)
      message.channelId s

def strangerServer (pathChannel ownChannel : String) : AppState :=
  { db :=
      { users := [{ id := "u", username := "ann" }, { id := "v", username := "bob" }]
        spaces := [{ id := "s", name := "open", ownerId := "u" },
          { id := "t", name := "closed", ownerId := "v" }]
        channels := [{ id := pathChannel, spaceId := some "s" },
          { id := ownChannel, spaceId := some "t" }]
        messages :=
          [{ id := "m"
             channelId := ownChannel
             spaceId := some "t"
             authorId := "v"
             content := "hi"
             createdAt := "2025-01-01 00:00:00" }] }
    federation := none
    ext := Externals.fixed "2025-01-01 00:00:00"
    snowflake := 100 }

section

variable (spaceId eventType channelId messageId userId emoji : String)

theorem total_reactionEvent (data : List (String × Json)) :
    (reactionEvent spaceId eventType data).Total :=
  Prog.total_modify _

theorem total_fanoutReaction :
    (fanoutReaction spaceId eventType channelId messageId userId emoji).Total := by
  refine (Prog.total_get _).bind (fun fed => ?_)
  cases fed with
  | none => exact Prog.total_pure _
  | some fed => exact (Prog.total_attempt _).bind (fun _ => Prog.total_pure _)

theorem total_announce (data : List (String × Json)) (kind : String) :
    (do
      reactionEvent spaceId kind data
      fanoutReaction spaceId eventType channelId messageId userId emoji
      return done : App Json).Total := by
  refine (total_reactionEvent _ _ _).bind (fun _ => ?_)
  exact (total_fanoutReaction _ _ _ _ _ _).bind (fun _ => Prog.total_pure _)

end

section

variable (pathChannel ownChannel : String)

theorem stranger_permitted (perm : String) :
    requireChannelPermission pathChannel { userId := "u" } perm
      (strangerServer pathChannel ownChannel).db = .ok "s" := by
  simp [requireChannelPermission, Query.bind_apply, Channels.getChannelRow, strangerServer,
    Table.lookup, ChannelRow.isDm, resolveChannelPermissions, resolveMemberPermissions,
    resolveMemberPermissionsInner, Spaces.getSpaceRow, hasPermission, Except.map]

theorem stranger_refused (perm spaceId : String) (h : pathChannel ≠ ownChannel) :
    requireChannelPermission ownChannel { userId := "u" } perm
      (strangerServer pathChannel ownChannel).db ≠ .ok spaceId := by
  simp [requireChannelPermission, Query.bind_apply, Channels.getChannelRow, strangerServer,
    Table.lookup, ChannelRow.isDm, resolveChannelPermissions, resolveMemberPermissions,
    resolveMemberPermissionsInner, Spaces.getSpaceRow, hasPermission, h, Members.getMemberRow]

theorem stranger_checked {α : Type} {perm : String} {rest : String → App α}
    (h : ∃ a t, (rest "s").exec (strangerServer pathChannel ownChannel) = (.ok a, t)) :
    ∃ a t, (App.query (requireChannelPermission pathChannel { userId := "u" } perm) >>=
      rest).exec (strangerServer pathChannel ownChannel) = (.ok a, t) := by
  obtain ⟨a, t, hrest⟩ := h
  refine ⟨a, t, Prog.exec_bind_ok.mpr ⟨"s", _, ?_, hrest⟩⟩
  rw [App.exec_query, stranger_permitted]

theorem stranger_not_timed_out :
    (requireNotTimedOutIn "s" { userId := "u" }).exec (strangerServer pathChannel ownChannel) =
      (.ok (), strangerServer pathChannel ownChannel) := by
  simp [requireNotTimedOutIn, requireNotTimedOut, Prog.exec_bind, Members.getMemberRow,
    strangerServer, isTimedOut]

theorem stranger_at_home :
    homeOfSpace "s" (strangerServer pathChannel ownChannel).db = .ok none := by
  simp [homeOfSpace, Federation.spaceOrigin, strangerServer, Table.lookup]

theorem stranger_reacts (emoji : String) :
    (Messages.addReaction "m" "u" emoji).exec (strangerServer pathChannel ownChannel) =
      (.ok (), ((Messages.addReaction "m" "u" emoji).exec
        (strangerServer pathChannel ownChannel)).2) := by
  simp [Messages.addReaction, App.exec_write, App.foreignKey, Tables.hasMessage, Tables.hasUser,
    strangerServer, Table.has]

theorem stranger_served (op : Operation) (emoji : String) (reply : Except AppError Response) :
    ∃ j s', (op.serve pathChannel "m" emoji { userId := "u" } reply).exec
      (strangerServer pathChannel ownChannel) = (.ok j, s') := by
  cases op with
  | add =>
    apply stranger_checked
    rw [Prog.exec_bind_of_ok (stranger_not_timed_out _ _), Prog.exec_bind_of_ok
      ((App.exec_lift _).trans (by rw [stranger_at_home])),
      Prog.exec_bind_of_ok (stranger_reacts _ _ _)]
    exact total_announce _ _ _ _ _ _ _ _ _
  | removeOwn =>
    apply stranger_checked
    rw [Prog.exec_bind_of_ok ((App.exec_lift _).trans (by rw [stranger_at_home]))]
    exact ((App.total_update _).bind (fun _ => total_announce _ _ _ _ _ _ _ _)) _
  | list =>
    apply stranger_checked
    exact ⟨_, _, Prog.exec_bind_ok.mpr ⟨_, _, App.exec_query _, rfl⟩⟩
  | removeUser userId =>
    apply stranger_checked
    exact ((App.total_update _).bind (fun _ =>
      (total_reactionEvent _ _ _).bind (fun _ => Prog.total_pure _))) _
  | removeAll =>
    apply stranger_checked
    exact ((App.total_update _).bind (fun _ =>
      (total_reactionEvent _ _ _).bind (fun _ => Prog.total_pure _))) _
  | removeAllEmoji =>
    apply stranger_checked
    exact ((App.total_update _).bind (fun _ =>
      (total_reactionEvent _ _ _).bind (fun _ => Prog.total_pure _))) _

end

theorem authorizes_iff (op : Operation) (pathChannel ownChannel : String) :
    authorizes op pathChannel ownChannel ↔ pathChannel = ownChannel := by
  constructor
  · intro hauth
    by_contra hne
    obtain ⟨j, s', hserved⟩ := stranger_served pathChannel ownChannel op "x" (.error .rowNotFound)
    obtain ⟨spaceId, hheld⟩ := hauth "m" "x" { userId := "u" } (.error .rowNotFound)
      (strangerServer pathChannel ownChannel) j s' _ rfl rfl hserved
    cases op with
    | add | removeOwn | list | removeUser | removeAll | removeAllEmoji =>
      exact stranger_refused _ _ _ _ hne hheld
  · rintro rfl messageId emoji auth reply s j s' message _ _ hserved
    exact serve_demands hserved

theorem demands_users (op : Operation) (auth : AuthUser) (channelId : String) (users : List User)
    (db : Tables) : op.demands auth channelId (withUsers users db) = op.demands auth channelId db := by
  cases op with
  | add | removeOwn | list | removeUser | removeAll | removeAllEmoji =>
    exact requireChannelPermission_users users _ _ _ db

theorem react_demands (remove : Bool) (channelId actorId : String) :
    (reactOperation remove).demands (Forward.remoteActorAuth actorId) channelId =
      if remove then requireChannelMembership channelId actorId
      else requireChannelPermission channelId (Forward.remoteActorAuth actorId) "add_reactions" := by
  cases remove <;> rfl

theorem preserves_cached {γ : Type} (view : Tables → γ)
    (hview : ∀ users db, view (withUsers users db) = view db) (peer : String)
    (actor : RemoteUserRef) :
    (Forward.cacheActor peer actor).Preserves (fun s => view s.db) :=
  (Users.preserves_upsertRemoteUser _ _ _ _ _ (fun s users => hview users s.db)).bind
    (fun _ => Prog.preserves_pure _)

theorem serveReact_authorizes (ourDomain peer : String) : serveReactAuthorizes ourDomain peer := by
  intro req s s' message hmessage hserved
  obtain ⟨_, s₁, hhomed, hserved⟩ := Prog.exec_bind_ok.mp hserved
  obtain ⟨_, s₂, hcached, hserved⟩ := Prog.exec_bind_ok.mp hserved
  obtain ⟨spaceId, s₃, hchecked, hserved⟩ := Prog.exec_bind_ok.mp hserved
  obtain ⟨found, s₄, hfound, hserved⟩ := Prog.exec_bind_ok.mp hserved
  obtain ⟨_, s₅, hsame, _⟩ := Prog.exec_bind_ok.mp hserved
  obtain ⟨_, rfl⟩ := App.exec_liftExcept_ok.mp hhomed
  obtain ⟨hdemands, rfl⟩ := App.exec_lift_ok.mp hchecked
  obtain ⟨hrow, rfl⟩ := App.exec_lift_ok.mp hfound
  obtain ⟨hchannel, rfl⟩ := Prog.exec_require_ok.mp hsame
  have hframe := (preserves_cached (fun db => ((reactOperation req.remove).demands
    (Forward.remoteActorAuth req.actor.id) message.channelId db, db.messages))
    (fun users db => by rw [demands_users]; rfl) peer req.actor).of_exec hcached
  obtain ⟨hdemanded, hmessages⟩ := Prod.mk.inj hframe
  have hsame : found = message := by
    simp only [Messages.getMessageRow, hmessages, hmessage, Except.ok.injEq] at hrow
    exact hrow.symm
  subst hsame
  refine ⟨spaceId, hdemanded.symm.trans ?_⟩
  rw [hchannel, react_demands]
  exact hdemands

theorem reactions_authorized_iff_path_names_own_channel (op : Operation)
    (pathChannel ownChannel ourDomain peer : String) :
    (authorizes op pathChannel ownChannel ↔ pathChannel = ownChannel) ∧
      serveReactAuthorizes ourDomain peer :=
  ⟨authorizes_iff op pathChannel ownChannel, serveReact_authorizes ourDomain peer⟩

def annInOpenSpace : AuthUser := { userId := "u" }

theorem foreign_message_reacted :
    (strangerServer "20" "30").db.messages.map (fun m => (m.id, m.channelId)) = [("m", "30")] ∧
      ∀ op : Operation,
        (∃ j s', (op.serve "20" "m" "x" annInOpenSpace (.error .rowNotFound)).exec
          (strangerServer "20" "30") = (.ok j, s')) ∧
        ¬ holdsDemanded op annInOpenSpace "30" (strangerServer "20" "30") := by
  refine ⟨rfl, fun op => ⟨stranger_served "20" "30" op "x" (.error .rowNotFound), ?_⟩⟩
  rintro ⟨spaceId, hheld⟩
  cases op with
  | add | removeUser | removeAll | removeAllEmoji | removeOwn | list =>
    exact stranger_refused "20" "30" _ spaceId (by decide) hheld

end Vokusz.Routes.Reactions
