import Vokusz.Federation.Mirror

namespace Vokusz.Federation

open Db Mapping
open Lib (Prog)

def orBadRequest (what : String) (parsed : Option α) : App α :=
  match parsed with
  | some a => return a
  | none => Prog.fail (.badRequest ("invalid " ++ what))

namespace Apply

def maxContentChars : Nat := 4000
def maxEmbeds : Nat := 10
def maxMentions : Nat := 100
def maxEmojiNameChars : Nat := 64
def maxEmojiRoles : Nat := 100
def maxEmbedsBytes : Nat := 16 * 1024
def maxReactionEmojiChars : Nat := 128
def maxDisplayNameChars : Nat := 256
def maxUrlChars : Nat := 2048

def validateRemoteUrl (url what : String) : App Unit := do
  let ext ← App.externals
  Prog.require (url.length ≤ maxUrlChars) (.badRequest ("remote " ++ what ++ " url too long"))
  Prog.require (ext.urlScheme url = some "http" ∨ ext.urlScheme url = some "https")
    (.badRequest ("invalid remote " ++ what ++ " url"))

def validateOptionalUrl (url : Option String) (what : String) : App Unit :=
  match url with
  | some url => validateRemoteUrl url what
  | none => return ()

def validateDisplayName (name : Option String) : App Unit :=
  Prog.require (∀ n ∈ name, n.length ≤ maxDisplayNameChars)
    (.badRequest "remote display name too long")

inductive Applied where
  | ok
  | unsupported
  deriving DecidableEq, Repr

def applyTyping (env : FederationEnvelope) : App Unit :=
  broadcastSpace env.spaceId "typing.start" env.payload "message_typing"

structure RemoteMessagePayload where
  id : String
  channelId : String
  spaceId : Option String
  author : RemoteUserRef
  content : String
  mentions : List String
  mentionEveryone : Bool
  embeds : List Json
  replyTo : Option String
  createdAt : String
  deriving DecidableEq, Repr

def RemoteMessagePayload.ofJson (j : Json) : Option RemoteMessagePayload := do
  let id ← j.reqStr "id"
  let channelId ← j.reqStr "channel_id"
  let spaceId ← j.optStr "space_id"
  let author ← (j.field? "author").bind RemoteUserRef.ofJson
  let content ← j.reqStr "content"
  let mentions ← j.listOr Json.asStr? "mentions"
  let mentionEveryone ← j.boolOr false "mention_everyone"
  let embeds ← j.listOr some "embeds"
  let replyTo ← j.optStr "reply_to"
  let createdAt ← j.reqStr "created_at"
  return { id, channelId, spaceId, author, content, mentions, mentionEveryone, embeds, replyTo,
           createdAt }

def checkMessageCreate (peer : String) (payload : RemoteMessagePayload) : App Unit := do
  Authority.requireHomedOn payload.id peer "message"
  Authority.requireHomedOn payload.channelId peer "channel"
  Authority.requireSpaceHomedOn payload.spaceId peer
  Authority.requireRemoteTarget payload.author.id
  Prog.require (payload.content.length ≤ maxContentChars)
    (.badRequest "remote message content too long")
  Prog.require (payload.embeds.length ≤ maxEmbeds) (.badRequest "too many embeds")
  Prog.require (payload.mentions.length ≤ maxMentions) (.badRequest "too many mentions")
  validateDisplayName payload.author.displayName
  validateOptionalUrl payload.author.avatar "avatar"

structure CreateChecked (peer : String) (ext : Externals) (payload : RemoteMessagePayload) :
    Prop where
  id : Authority.homedOn payload.id peer = true
  channel : Authority.homedOn payload.channelId peer = true
  space : ∀ sid, payload.spaceId = some sid → Authority.homedOn sid peer = true
  author : containsAt payload.author.id = true
  content : payload.content.length ≤ maxContentChars
  embeds : payload.embeds.length ≤ maxEmbeds
  mentions : payload.mentions.length ≤ maxMentions
  displayName : ∀ n ∈ payload.author.displayName, n.length ≤ maxDisplayNameChars
  avatar : ∀ url ∈ payload.author.avatar, url.length ≤ maxUrlChars ∧
    (ext.urlScheme url = some "http" ∨ ext.urlScheme url = some "https")

theorem validateOptionalUrl_ok {url : Option String} {what : String} {s t : AppState} {u : Unit} :
    (validateOptionalUrl url what).exec s = (.ok u, t) ↔
      (∀ x ∈ url, x.length ≤ maxUrlChars ∧
        (s.ext.urlScheme x = some "http" ∨ s.ext.urlScheme x = some "https")) ∧ s = t := by
  cases url with
  | none => simp [validateOptionalUrl]
  | some url =>
    unfold validateOptionalUrl validateRemoteUrl
    rw [Prog.exec_bind_of_ok App.exec_externals, Prog.exec_bind_ok]
    simp only [Prog.exec_require_ok, Option.mem_def, Option.some.injEq, forall_eq']
    constructor
    · rintro ⟨_, _, ⟨hlength, rfl⟩, hscheme, rfl⟩
      exact ⟨⟨hlength, hscheme⟩, rfl⟩
    · rintro ⟨⟨hlength, hscheme⟩, rfl⟩
      exact ⟨(), s, ⟨hlength, rfl⟩, hscheme, rfl⟩

theorem checkMessageCreate_ok {peer : String} {payload : RemoteMessagePayload} {s t : AppState}
    {u : Unit} : (checkMessageCreate peer payload).exec s = (.ok u, t) ↔
      CreateChecked peer s.ext payload ∧ s = t := by
  unfold checkMessageCreate
  simp only [Prog.exec_bind_ok, App.exec_liftExcept_ok, validateDisplayName,
    Prog.exec_require_ok, validateOptionalUrl_ok]
  constructor
  · rintro ⟨_, _, ⟨hid, rfl⟩, _, _, ⟨hchannel, rfl⟩, _, _, ⟨hspace, rfl⟩, _, _, ⟨hauthor, rfl⟩,
      _, _, ⟨hcontent, rfl⟩, _, _, ⟨hembeds, rfl⟩, _, _, ⟨hmentions, rfl⟩, _, _, ⟨hname, rfl⟩,
      havatar, rfl⟩
    exact ⟨
      { id := Authority.requireHomedOn_ok.mp hid
        channel := Authority.requireHomedOn_ok.mp hchannel
        space := Authority.requireSpaceHomedOn_ok.mp hspace
        author := Authority.requireRemoteTarget_ok.mp hauthor
        content := hcontent
        embeds := hembeds
        mentions := hmentions
        displayName := hname
        avatar := havatar }, rfl⟩
  · rintro ⟨h, rfl⟩
    exact ⟨(), s, ⟨Authority.requireHomedOn_ok.mpr h.id, rfl⟩,
      (), s, ⟨Authority.requireHomedOn_ok.mpr h.channel, rfl⟩,
      (), s, ⟨Authority.requireSpaceHomedOn_ok.mpr h.space, rfl⟩,
      (), s, ⟨Authority.requireRemoteTarget_ok.mpr h.author, rfl⟩, (), s, ⟨h.content, rfl⟩,
      (), s, ⟨h.embeds, rfl⟩, (), s, ⟨h.mentions, rfl⟩, (), s, ⟨h.displayName, rfl⟩,
      h.avatar, rfl⟩

def remoteInsert (peer : String) (payload : RemoteMessagePayload) (spaceId : Option String) :
    Messages.RemoteMessageInsert :=
  { id := payload.id
    channelId := payload.channelId
    spaceId := spaceId
    authorId := payload.author.id
    content := payload.content
    createdAt := payload.createdAt
    mentionEveryone := payload.mentionEveryone
    mentions := payload.mentions
    embeds := .arr payload.embeds
    replyTo := payload.replyTo
    origin := peer }

def storeMessage (peer : String) (payload : RemoteMessagePayload) (channel : ChannelRow) :
    App Unit := do
  mirrorRef peer payload.author
  Prog.require ((Json.toText (.arr payload.embeds)).utf8ByteSize ≤ maxEmbedsBytes)
    (.badRequest "remote embeds too large")
  let row ← Messages.insertRemoteMessage (remoteInsert peer payload channel.spaceId)
  match row with
  | none => return ()
  | some row =>
    broadcastSpace channel.spaceId "message.create" (messageRowToJson row) "messages"

def applyMessageCreate (peer : String) (env : FederationEnvelope) : App Unit := do
  let payload ← orBadRequest "message payload" (RemoteMessagePayload.ofJson env.payload)
  checkMessageCreate peer payload
  let channel ← App.found? (Channels.getChannelRow payload.channelId)
  match channel with
  | none => return ()
  | some channel => storeMessage peer payload channel

structure RemoteMessageEdit where
  id : String
  content : Option String
  editedAt : Option String
  deriving DecidableEq, Repr

def RemoteMessageEdit.ofJson (j : Json) : Option RemoteMessageEdit := do
  let id ← j.reqStr "id"
  let content ← j.optStr "content"
  let editedAt ← j.optStr "edited_at"
  return { id, content, editedAt }

def rebroadcastUpdate (messageId : String) : App Unit := do
  let row ← App.found? (Messages.getMessageRow messageId)
  match row with
  | none => return ()
  | some row => broadcastSpace row.spaceId "message.update" (messageRowToJson row) "messages"

def applyMessageUpdate (peer : String) (env : FederationEnvelope) : App Unit := do
  let payload ← orBadRequest "update payload" (RemoteMessageEdit.ofJson env.payload)
  Authority.requireHomedOn payload.id peer "message"
  Prog.require (∀ content ∈ payload.content, content.length ≤ maxContentChars)
    (.badRequest "remote message content too long")
  let existing ← App.found? (Messages.getMessageRow payload.id)
  match existing with
  | none => return ()
  | some existing =>
    if existing.origin ≠ some peer then return ()
    else
      Messages.editRemoteMessage payload.id payload.content payload.editedAt
      rebroadcastUpdate payload.id

structure RemoteMessageDelete where
  id : String
  channelId : Option String
  deriving DecidableEq, Repr

def RemoteMessageDelete.ofJson (j : Json) : Option RemoteMessageDelete := do
  let id ← j.reqStr "id"
  let channelId ← j.optStr "channel_id"
  return { id, channelId }

def applyMessageDelete (peer : String) (env : FederationEnvelope) : App Unit := do
  let payload ← orBadRequest "delete payload" (RemoteMessageDelete.ofJson env.payload)
  Authority.requireHomedOn payload.id peer "message"
  let existing ← App.found? (Messages.getMessageRow payload.id)
  match existing with
  | none => return ()
  | some existing =>
    if existing.origin ≠ some peer then return ()
    else
      Messages.deleteMessage payload.id
      broadcastSpace existing.spaceId "message.delete"
        (.obj [("id", .str payload.id),
          ("channel_id", .str (payload.channelId.getD existing.channelId))]) "messages"

def memberEventJson (spaceId userId : String) : Json :=
  .obj [("space_id", .str spaceId), ("user_id", .str userId)]

def applyMemberJoin (peer : String) (env : FederationEnvelope) : App Unit := do
  match env.spaceId with
  | none => Prog.fail (.badRequest "member event missing space_id")
  | some spaceId =>
    let user ← orBadRequest "member.join payload"
      ((env.payload.field? "user").bind RemoteUserRef.ofJson)
    let space ← App.found? (Spaces.getSpaceRow spaceId)
    match space with
    | none => return ()
    | some _ =>
      Authority.requireRemoteTarget user.id
      mirrorRef peer user
      Federation.addMemberWithOrigin spaceId user.id (some (homeOf user.id peer))
      broadcastSpace (some spaceId) "member.join" (memberEventJson spaceId user.id) "members"

def applyMemberLeave (env : FederationEnvelope) : App Unit := do
  match env.spaceId with
  | none => Prog.fail (.badRequest "member event missing space_id")
  | some spaceId =>
    let userId ← orBadRequest "member.leave payload" (env.payload.reqStr "user_id")
    let space ← App.found? (Spaces.getSpaceRow spaceId)
    match space with
    | none => return ()
    | some _ =>
      Members.removeMember spaceId userId
      broadcastSpace (some spaceId) "member.leave" (memberEventJson spaceId userId) "members"

structure RemoteReaction where
  channelId : String
  messageId : String
  userId : String
  emoji : String
  deriving DecidableEq, Repr

def RemoteReaction.ofJson (j : Json) : Option RemoteReaction := do
  let channelId ← j.reqStr "channel_id"
  let messageId ← j.reqStr "message_id"
  let userId ← j.reqStr "user_id"
  let emoji ← j.reqStr "emoji"
  return { channelId, messageId, userId, emoji }

def RemoteReaction.toJson (r : RemoteReaction) : Json :=
  .obj [("channel_id", .str r.channelId), ("message_id", .str r.messageId),
    ("user_id", .str r.userId), ("emoji", .str r.emoji)]

def applyReaction (peer : String) (env : FederationEnvelope) (add : Bool) : App Unit := do
  let payload ← orBadRequest "reaction payload" (RemoteReaction.ofJson env.payload)
  Authority.requireHomedOn payload.messageId peer "message"
  Authority.requireHomedOn payload.channelId peer "channel"
  Authority.requireRemoteTarget payload.userId
  Prog.require (payload.emoji.length ≤ maxReactionEmojiChars)
    (.badRequest "reaction emoji too long")
  let msg ← App.found? (Messages.getMessageRow payload.messageId)
  match msg with
  | none => return ()
  | some msg =>
    Users.ensureRemoteUser payload.userId (homeOf payload.userId peer) payload.userId none none
    Messages.changeReaction add payload.messageId payload.userId payload.emoji
    broadcastSpace msg.spaceId (if add then "reaction.add" else "reaction.remove")
      payload.toJson "message_reactions"

structure RemoteEmoji where
  id : String
  spaceId : String
  name : String
  animated : Bool
  imageUrl : Option String
  roleIds : List String
  deriving DecidableEq, Repr

def RemoteEmoji.ofJson (j : Json) : Option RemoteEmoji := do
  let id ← j.reqStr "id"
  let spaceId ← j.reqStr "space_id"
  let name ← j.reqStr "name"
  let animated ← j.boolOr false "animated"
  let imageUrl ← j.optStr "image_url"
  let roleIds ← j.listOr Json.asStr? "role_ids"
  return { id, spaceId, name, animated, imageUrl, roleIds }

def emojiToJson (e : Emojis.Emoji) : Json :=
  .obj [("id", .ofOption e.id), ("name", .str e.name), ("animated", .bool e.animated),
    ("image_url", .ofOption e.imageUrl), ("role_ids", .strings e.roleIds)]

def applyEmojiUpsert (peer : String) (env : FederationEnvelope) (created : Bool) : App Unit := do
  let payload ← orBadRequest "emoji payload" (RemoteEmoji.ofJson env.payload)
  Authority.requireHomedOn payload.id peer "emoji"
  Authority.requireHomedOn payload.spaceId peer "space"
  Prog.require (payload.name.length ≤ maxEmojiNameChars) (.badRequest "emoji name too long")
  Prog.require (payload.roleIds.length ≤ maxEmojiRoles) (.badRequest "too many emoji roles")
  validateOptionalUrl payload.imageUrl "emoji image"
  let space ← App.found? (Spaces.getSpaceRow payload.spaceId)
  match space with
  | none => return ()
  | some _ =>
    Emojis.upsertRemoteEmoji payload.id peer payload.spaceId payload.name payload.animated
      payload.imageUrl payload.roleIds
    let emoji ← App.found? (Emojis.getEmoji payload.id)
    broadcastSpace (some payload.spaceId) (if created then "emoji.create" else "emoji.update")
      (.obj [("space_id", .str payload.spaceId), ("emoji", (emoji.map emojiToJson).getD .null)])
      "emojis"

def applyEmojiDelete (peer : String) (env : FederationEnvelope) : App Unit := do
  let id ← orBadRequest "emoji delete payload" (env.payload.reqStr "id")
  Authority.requireHomedOn id peer "emoji"
  let origin ← Emojis.emojiOrigin id
  if origin ≠ some peer then return ()
  else
    let spaceId ← Emojis.emojiSpaceId id
    let _ ← Emojis.deleteEmoji id
    broadcastSpace spaceId "emoji.delete"
      (.obj [("space_id", .ofOption spaceId), ("emoji_id", .str id)]) "emojis"

end Apply

end Vokusz.Federation
