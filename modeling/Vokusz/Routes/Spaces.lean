import Vokusz.Federation.Mirror
import Vokusz.Permissions

namespace Vokusz.Routes.Spaces

open Db
open Lib (Prog)

def overwriteJson (o : PermissionOverwrite) : Json :=
  .obj [("id", .str o.id), ("type", .str o.overwriteType), ("allow", .strings o.allow),
    ("deny", .strings o.deny)]

def userToJson (u : User) : Json :=
  .obj ([("id", .str u.id), ("username", .str u.username),
    ("display_name", .ofOption u.displayName), ("avatar", .ofOption u.avatar),
    ("banner", .ofOption u.banner), ("accent_color", .ofOptionInt u.accentColor),
    ("bio", .ofOption u.bio), ("bot", .bool u.bot), ("system", .bool u.system),
    ("is_admin", .bool u.isAdmin), ("disabled", .bool u.disabled)] ++
    u.origin.toList.map (fun o => ("origin", .str o)))

def channelFields (row : ChannelRow) (overwrites : List PermissionOverwrite) :
    List (String × Json) :=
  [("id", .str row.id), ("type", .str row.channelType), ("space_id", .ofOption row.spaceId),
    ("name", .str row.name), ("topic", .ofOption row.topic), ("position", .num row.position),
    ("parent_id", .ofOption row.parentId), ("nsfw", .bool row.nsfw),
    ("rate_limit", .num row.rateLimit), ("bitrate", .ofOptionInt row.bitrate),
    ("user_limit", .ofOptionInt row.userLimit), ("owner_id", .ofOption row.ownerId),
    ("last_message_id", .ofOption row.lastMessageId),
    ("permission_overwrites", .arr (overwrites.map overwriteJson)),
    ("archived", .bool row.archived), ("auto_archive_after", .ofOptionInt row.autoArchiveAfter),
    ("allow_anonymous_read", .bool row.allowAnonymousRead), ("created_at", .str row.createdAt)]

def channelRowToJsonWithOverwrites (row : ChannelRow) (overwrites : List PermissionOverwrite) :
    Json :=
  .obj (channelFields row overwrites)

def channelRowToJsonPub (row : ChannelRow) : App Json := do
  let overwrites ← App.found? (PermissionOverwrites.listOverwrites row.id)
  if row.isDm then
    let users ← App.found? (DmParticipants.getParticipantUsers row.id)
    return .obj (channelFields row (overwrites.getD []) ++
      [("recipients", .arr ((users.getD []).map userToJson))])
  else return channelRowToJsonWithOverwrites row (overwrites.getD [])

def spaceFields (row : SpaceRow) : List (String × Json) :=
  [("id", .str row.id), ("name", .str row.name), ("slug", .str row.slug),
    ("description", .ofOption row.description), ("icon", .ofOption row.icon),
    ("banner", .ofOption row.banner), ("owner_id", .str row.ownerId),
    ("public", .bool row.isPublic), ("allow_guest_access", .bool row.allowGuestAccess)]

def spaceWithMetadata (row : SpaceRow) : App Json := do
  let memberCount ← Spaces.countMembers row.id
  let online ← Prog.get (fun s : AppState =>
    (s.presences.filter (fun p => p.2 ≠ "offline" && p.2 ≠ "invisible")).map Prod.fst)
  let presenceCount ← Spaces.countMemberships online row.id
  return .obj (spaceFields row ++
    [("member_count", .num memberCount), ("presence_count", .num presenceCount)])

section

variable {γ : Type} {view : AppState → γ}

theorem preserves_channelRowToJsonPub (row : ChannelRow) :
    (channelRowToJsonPub row).Preserves view := by
  refine (App.preserves_found? _).bind (fun overwrites => ?_)
  refine Prog.preserves_ite ?_ (Prog.preserves_pure _)
  exact (App.preserves_found? _).bind (fun _ => Prog.preserves_pure _)

theorem preserves_spaceWithMetadata (row : SpaceRow) :
    (spaceWithMetadata row).Preserves view := by
  refine (App.preserves_lift _).bind (fun _ => ?_)
  refine (Prog.preserves_get _).bind (fun _ => ?_)
  exact (App.preserves_lift _).bind (fun _ => Prog.preserves_pure _)

end

end Vokusz.Routes.Spaces
