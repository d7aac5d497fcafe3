import Vokusz.Routes.Members

namespace Vokusz.Routes.Bans

open Db Permissions Federation
open Lib (Prog)

def maxDeleteMessageSeconds : Int := 7 * 24 * 60 * 60

structure CreateBanBody where
  reason : Option String := none
  deleteMessageSeconds : Option Int := none
  deriving DecidableEq, Repr

def purgeWindow (body : CreateBanBody) : Nat :=
  (max 0 (min maxDeleteMessageSeconds (body.deleteMessageSeconds.getD 0))).toNat

def purgeMessage (messageId : String) : App Unit := do
  let attachments ← Attachments.getAttachmentsForMessage messageId
  Prog.forEach attachments (fun a => do
    let _ ← (Storage.deleteFile a.url).attempt
    return ())
  Db.Messages.deleteMessage messageId

def purgeCutoff (seconds : Nat) : App String :=
  Prog.get (fun s => s.ext.formatTime (s.clock / 1000 - seconds))

def purgeRecentMessages (spaceId userId : String) (seconds : Nat) :
    App (List (String × String)) := do
  if seconds = 0 then return []
  else
    let cutoff ← purgeCutoff seconds
    let messages ← Messages.listAuthorMessagesInSpaceSince spaceId userId cutoff
    Prog.forEach messages (fun m => purgeMessage m.1)
    return messages

def banFields (ban : BanRow) : List (String × Json) :=
  [("space_id", .str ban.spaceId), ("user_id", .str ban.userId),
    ("reason", .ofOption ban.reason), ("banned_by", .ofOption ban.bannedBy),
    ("created_at", .str ban.createdAt)]

def announceBan (spaceId userId : String) (ban : BanRow) (purged : List (String × String)) :
    App Unit := do
  Members.memberLeave spaceId userId
  broadcastSpace (some spaceId) "ban.create" (.obj (banFields ban)) "moderation"
  Prog.forEach purged (fun m =>
    broadcastSpace (some spaceId) "message.delete"
      (.obj [("id", .str m.1), ("channel_id", .str m.2), ("space_id", .str spaceId)]) "messages")

def fanoutPurged (spaceId : String) (purged : List (String × String)) : App Unit := do
  let fed ← App.federation
  match fed with
  | none => return ()
  | some fed =>
    Prog.forEach purged (fun m => do
      let _ ← (Outbound.fanoutToSpace spaceId "m.message.delete"
        (Outbound.messageDeletePayload fed.domain m.1 m.2)).attempt
      return ())

def createBan (spaceId userId : String) (auth : AuthUser) (body : CreateBanBody) : App Json := do
  requirePermission spaceId auth "ban_members"
  requireHierarchy spaceId auth userId
  let ban ← Db.Bans.createBan spaceId userId body.reason auth.userId
  let purged ← purgeRecentMessages spaceId userId (purgeWindow body)
  announceBan spaceId userId ban purged
  fanoutPurged spaceId purged
  return .obj [("data", .obj (banFields ban ++ [("deleted_message_count", .num purged.length)]))]

end Vokusz.Routes.Bans
