import Vokusz.Plugins

namespace Vokusz.Plugins

open Lib Db Permissions Handler

def participantToJson (p : ParticipantRow) : Json :=
  .obj ([("user_id", .str p.userId), ("role", .str p.role)] ++
    (p.slotIndex.map (fun n => ("slot_index", Json.num n.toInt))).toList ++
    [("joined_at", .str p.joinedAt)])

def participantsToJson (participants : List ParticipantRow) : Json :=
  .arr (participants.map participantToJson)

def sessionStateJson (pluginId sessionId state spaceId : String) : Json :=
  .obj [("plugin_id", .str pluginId), ("session_id", .str sessionId), ("state", .str state),
    ("space_id", .str spaceId)]

def roleChangedJson (pluginId sessionId userId role : String)
    (participants : List ParticipantRow) : Json :=
  .obj [("plugin_id", .str pluginId), ("session_id", .str sessionId), ("user_id", .str userId),
    ("role", .str role), ("participants", participantsToJson participants)]

structure AssignRole where
  userId : String
  role : String
  slotIndex : Option Int64 := none
  deriving DecidableEq, Repr

def openSession (pluginId : String) (auth : AuthUser) (channelId : String) :
    Handler PluginSession := do
  let plugin ← getPlugin pluginId
  fetch (requireMembership plugin.spaceId auth.userId)
  let session ← createSession pluginId channelId auth.userId plugin.lobby
  broadcastPluginEvent (some plugin.spaceId) none "plugin.session_state"
    (.obj [("plugin_id", .str pluginId), ("session_id", .str session.id),
      ("state", .str session.state), ("channel_id", .str session.channelId),
      ("host_user_id", .str session.hostUserId),
      ("participants", participantsToJson session.participants),
      ("space_id", .str plugin.spaceId)])
  return session

def accessedSession (pluginId sessionId : String) (auth : AuthUser) :
    Handler (Plugin × PluginSession) := do
  let plugin ← getPlugin pluginId
  fetch (requireMembership plugin.spaceId auth.userId)
  let session ← getSession sessionId
  requireSessionAccess sessionId auth.userId
  Prog.require (session.pluginId = pluginId) (.notFound "session not found for this plugin")
  return (plugin, session)

def admitted {α : Type} (pluginId sessionId : String) (auth : AuthUser) (plugin : Plugin)
    (session : PluginSession) (rest : Plugin → PluginSession → Handler α) : Handler α := do
  requireSessionAccess sessionId auth.userId
  Prog.require (session.pluginId = pluginId) (.notFound "session not found for this plugin")
  rest plugin session

def afterRow {α : Type} (pluginId sessionId : String) (auth : AuthUser) (plugin : Plugin)
    (row : SessionRow) (rest : Plugin → PluginSession → Handler α) : Handler α := do
  let participants ← listParticipants sessionId
  admitted pluginId sessionId auth plugin (rowToSession row participants) rest

theorem accessedSession_bind {α : Type} (pluginId sessionId : String) (auth : AuthUser)
    (rest : Plugin → PluginSession → Handler α) :
    (accessedSession pluginId sessionId auth >>= fun found => rest found.1 found.2) =
      getPlugin pluginId >>= fun plugin =>
      fetch (requireMembership plugin.spaceId auth.userId) >>= fun _ =>
      getSessionRow sessionId >>= fun row =>
      afterRow pluginId sessionId auth plugin row rest := by
  simp only [accessedSession, getSession, afterRow, admitted, bind_assoc, pure_bind]

def legalTransition (stored asked : String) : Bool :=
  (stored = "lobby" && asked = "running") || (stored = "running" && asked = "ended") ||
    (stored = "lobby" && asked = "ended")

def announceState (plugin : Plugin) (sessionId : String) (session : PluginSession) :
    Handler PluginSession := do
  let participantIds ← getSessionUserIds sessionId
  broadcastPluginEvent (some plugin.spaceId) (some participantIds) "plugin.session_state"
    (sessionStateJson plugin.id sessionId session.state plugin.spaceId)
  return session

def finishUpdate (plugin : Plugin) (sessionId state : String) : Handler PluginSession := do
  let session ← updateState sessionId state
  announceState plugin sessionId session

def updateSessionState (pluginId sessionId : String) (auth : AuthUser) (state : String) :
    Handler PluginSession := do
  let (plugin, session) ← accessedSession pluginId sessionId auth
  Prog.require (session.hostUserId = auth.userId)
    (.forbidden "only the session host can change state")
  Prog.require (legalTransition session.state state)
    (.badRequest ("invalid state transition: " ++ session.state ++ " -> " ++ state))
  finishUpdate plugin sessionId state

def holdsRole (participants : List ParticipantRow) (userId role : String) : Bool :=
  participants.any (fun p => p.userId = userId && p.role = role)

def checkCapacity (plugin : Plugin) (session : PluginSession) (sessionId userId : String) :
    Handler Unit := do
  if 0 < plugin.maxParticipants then
    let currentPlayers ← countPlayers sessionId
    Prog.require (holdsRole session.participants userId "player" ∨
      currentPlayers < plugin.maxParticipants) (.badRequest "all player slots are full")
  else return ()

def chosenSlot (sessionId : String) : Option Int64 → Handler Int64
  | some idx => return idx
  | none => nextSlotIndex sessionId

def slotFor (plugin : Plugin) (session : PluginSession) (sessionId : String) (input : AssignRole) :
    Handler (Option Int64) := do
  if input.role = "player" then
    checkCapacity plugin session sessionId input.userId
    let slot ← chosenSlot sessionId input.slotIndex
    return some slot
  else return none

def writeParticipant (session : PluginSession) (sessionId : String) (input : AssignRole)
    (slotIndex : Option Int64) : Handler Unit :=
  if session.participants.any (fun p => p.userId = input.userId) then
    updateParticipantRole sessionId input.userId input.role slotIndex
  else addParticipant sessionId input.userId input.role slotIndex

def announceRole (plugin : Plugin) (sessionId : String) (input : AssignRole) :
    Handler PluginSession := do
  let participantIds ← getSessionUserIds sessionId
  let updated ← getSession sessionId
  broadcastPluginEvent (some plugin.spaceId) (some participantIds) "plugin.role_changed"
    (roleChangedJson plugin.id sessionId input.userId input.role updated.participants)
  return updated

def assignRole (pluginId sessionId : String) (auth : AuthUser) (input : AssignRole) :
    Handler PluginSession := do
  let (plugin, session) ← accessedSession pluginId sessionId auth
  Prog.require (input.role = "player" ∨ input.role = "spectator")
    (.badRequest "role must be 'player' or 'spectator'")
  let slotIndex ← slotFor plugin session sessionId input
  Prog.require (input.userId = auth.userId ∨ session.hostUserId = auth.userId)
    (.forbidden "only the host or the user themselves can change roles")
  writeParticipant session sessionId input slotIndex
  announceRole plugin sessionId input

def arcade : Server :=
  { app :=
      { db :=
          { users := [{ id := "1", username := "ann" }, { id := "2", username := "bob" },
              { id := "3", username := "cyd" }]
            spaces := [{ id := "20", ownerId := "1", name := "Arcade", slug := "arcade" }]
            channels := [{ id := "30", spaceId := some "20" }]
            roles := [{ id := "21", spaceId := "20", name := "everyone", position := 0
                        permissions := ["view_channel"] }]
            members := [{ spaceId := "20", userId := "1" }, { spaceId := "20", userId := "2" },
              { spaceId := "20", userId := "3" }] }
        ext := Externals.fixed "2025-01-01 00:00:00" }
    plugins := [{ id := "40", spaceId := "20", maxParticipants := 2, lobby := true }] }

def opened : Server := ((openSession "40" { userId := "1" } "30").exec arcade).2

section

variable {ν : Type} {view : Server → ν}

theorem preserves_getPlugin (pluginId : String) : (getPlugin pluginId).Preserves view :=
  preserves_read _

theorem preserves_getSession (sessionId : String) : (getSession sessionId).Preserves view :=
  (preserves_read _).bind fun _ => (preserves_read _).bind fun _ => Prog.preserves_pure _

theorem preserves_requireSessionAccess (sessionId userId : String) :
    (requireSessionAccess sessionId userId).Preserves view := by
  refine (preserves_getSession _).bind fun _ => (preserves_read _).bind fun _ => ?_
  refine (preserves_fetch _).bind fun _ => (Prog.preserves_require _ _).bind fun _ => ?_
  exact (preserves_fetch _).bind fun _ => Prog.preserves_pure _

theorem preserves_broadcastPluginEvent {spaceId : Option String}
    {targetUserIds : Option (List String)} {eventType : String} {data : Json}
    (h : ∀ s tx, view { s with app := { s.app with gatewayTx := tx } } = view s) :
    (broadcastPluginEvent spaceId targetUserIds eventType data).Preserves view :=
  Prog.preserves_modify (fun s => h s _)

theorem preserves_announceState {plugin : Plugin} {sessionId : String} {session : PluginSession}
    (h : ∀ s tx, view { s with app := { s.app with gatewayTx := tx } } = view s) :
    (announceState plugin sessionId session).Preserves view := by
  have hsend : ∀ ids, (broadcastPluginEvent (some plugin.spaceId) (some ids)
      "plugin.session_state" (sessionStateJson plugin.id sessionId session.state
        plugin.spaceId)).Preserves view :=
    fun _ => preserves_broadcastPluginEvent h
  exact (preserves_read _).bind fun ids => (hsend ids).bind fun _ => Prog.preserves_pure _

end

end Vokusz.Plugins
