import Vokusz.Permissions
import Vokusz.Federation.Outbound

namespace Vokusz.Gateway

open Db Permissions
open Federation.Outbound (startsWith)

namespace Intents

def intentForEvent : String → Option String
  | "message.create" | "message.update" | "message.delete" | "message.delete_bulk" =>
    some "messages"
  | "member.join" | "member.leave" | "member.update" | "member.chunk" => some "members"
  | "space.create" | "space.update" | "space.delete" => some "spaces"
  | "channel.create" | "channel.update" | "channel.delete" | "channel.reorder"
  | "channel.pins_update" => some "spaces"
  | "role.create" | "role.update" | "role.delete" => some "spaces"
  | "reaction.add" | "reaction.remove" | "reaction.clear" | "reaction.clear_emoji" =>
    some "message_reactions"
  | "typing.start" => some "message_typing"
  | "presence.update" => some "presences"
  | "voice.state_update" | "voice.server_update" | "voice.signal" => some "voice_states"
  | "call.ring" | "call.accept" | "call.decline" | "call.cancel" | "call.end" =>
    some "voice_states"
  | "ban.create" | "ban.delete" | "audit_log.create" | "automod.upload_update" =>
    some "moderation"
  | "automod.upload_status" => some "messages"
  | "invite.create" | "invite.delete" => some "spaces"
  | "emoji.create" | "emoji.update" | "emoji.delete" => some "emojis"
  | "soundboard.create" | "soundboard.update" | "soundboard.delete" | "soundboard.play" =>
    some "soundboard"
  | "relationship.add" | "relationship.update" | "relationship.remove" => some "relationships"
  | "plugin.installed" | "plugin.uninstalled" | "plugin.event" | "plugin.session_state"
  | "plugin.role_changed" => some "plugins"
  | _ => none

def hasIntent (intents : List String) (eventType : String) : Bool :=
  match intentForEvent eventType with
  | some required => intents.contains required
  | none => true

end Intents

inductive Delivery where
  | skip
  | refreshMutes
  | refreshSpaces (payload : Option Json)
  | send (payload : Json)
  deriving DecidableEq, Repr

structure Recipient where
  userId : String
  spaceIds : List String
  intents : List String
  deriving DecidableEq, Repr

def eventType (event : Json) : String := (event.getStr? "type").getD ""

def membershipEventSubject (event : Json) : Option String := do
  let data ← event.field? "data"
  match data.getStr? "user_id" with
  | some id => some id
  | none => (data.field? "user").bind (Json.getStr? "id")

def recipientAuth (r : Recipient) : AuthUser :=
  let isGuest := startsWith "guest:" r.userId
  { userId := r.userId
    isGuest := isGuest
    guestSpaceId := if isGuest then r.spaceIds.head? else none }

def canReceiveChannel (db : Tables) (r : Recipient) (channelId : String) (history : Bool) : Bool :=
  match Channels.getChannelRow channelId db with
  | .error _ => false
  | .ok channel =>
    (requireChannelReadAccess channel (some (recipientAuth r)) history db).toBool

def isMemberOf (db : Tables) (spaceId : Option String) (userId : String) : Bool :=
  spaceId.all (fun sid => (requireMembership sid userId db).toBool)

def pluginChannel (db : Tables) (data : Json) : Option String :=
  match data.getStr? "channel_id" with
  | some id => some id
  | none => (data.getStr? "session_id").bind (fun id =>
      (Lib.Table.lookup PluginSession.id id db.pluginSessions).map PluginSession.channelId)

def pluginVisible (db : Tables) (b : GatewayBroadcast) (userId : String) : Bool :=
  isMemberOf db b.spaceId userId &&
    (pluginChannel db ((b.event.field? "data").getD .null)).all (fun channel =>
      (requireChannelMembership channel userId db).toBool)

def shouldReceive (b : GatewayBroadcast) (r : Recipient) : Bool :=
  match b.targetUserIds, b.spaceId with
  | some targets, _ => targets.contains r.userId
  | none, some sid => r.spaceIds.contains sid
  | none, none => true

def eventChannel (event : Json) : Option String :=
  if eventType event = "channel.delete" then none
  else (event.field? "data").bind (fun data =>
    match data.getStr? "channel_id" with
    | some id => some id
    | none => if startsWith "channel." (eventType event) then data.getStr? "id" else none)

def holdsRequired (db : Tables) (b : GatewayBroadcast) (userId perm : String) : Bool :=
  match Users.getUser userId db with
  | .error _ => false
  | .ok user =>
    !user.disabled &&
      match b.spaceId with
      | some space =>
        (requirePermission space
          { userId := userId, isAdmin := user.isAdmin, isBot := user.bot } perm db).toBool
      | none => user.isAdmin

def classifyBroadcast (db : Tables) (b : GatewayBroadcast) (r : Recipient) : Delivery :=
  let kind := eventType b.event
  if startsWith "plugin." kind && !pluginVisible db b r.userId then .skip
  else if (kind = "member.join" || kind = "member.leave") &&
      membershipEventSubject b.event = some r.userId then
    .refreshSpaces (if Intents.hasIntent r.intents kind then some b.event else none)
  else if !shouldReceive b r then .skip
  else if !(eventChannel b.event).all (fun channelId =>
      canReceiveChannel db r channelId (startsWith "message." kind)) then .skip
  else if kind = "channel_mute.create" || kind = "channel_mute.delete" then .refreshMutes
  else if !Intents.hasIntent r.intents kind then .skip
  else if !b.requiredPermission.all (holdsRequired db b r.userId) then .skip
  else .send b.event

theorem classify_skip_of_unknown_channel {db : Tables} {b : GatewayBroadcast} {r : Recipient}
    {channelId : String} (hkind : startsWith "plugin." (eventType b.event) = false)
    (hjoin : eventType b.event ≠ "member.join") (hleave : eventType b.event ≠ "member.leave")
    (hchannel : eventChannel b.event = some channelId)
    (hmissing : db.hasChannel channelId = false) :
    classifyBroadcast db b r = .skip := by
  have hlookup : Lib.Table.lookup ChannelRow.id channelId db.channels = none := by
    rw [← Option.not_isSome_iff_eq_none, Lib.Table.lookup_isSome]
    simpa [Tables.hasChannel] using hmissing
  have hreceive : ∀ history, canReceiveChannel db r channelId history = false := by
    intro history
    simp [canReceiveChannel, Channels.getChannelRow, hlookup]
  unfold classifyBroadcast
  simp only [hkind, hjoin, hleave, hchannel, Option.all_some, hreceive]
  cases shouldReceive b r <;> simp

end Vokusz.Gateway
