import Vokusz.Federation.Mirror
import Vokusz.Permissions

namespace Vokusz.Plugins

open Lib Db Permissions

structure Plugin where
  id : String
  spaceId : String
  maxParticipants : Int := 0
  lobby : Bool := false
  deriving DecidableEq, Repr

structure SessionRow where
  id : String
  pluginId : String
  channelId : String
  hostUserId : String
  state : String := "lobby"
  createdAt : String := ""
  updatedAt : String := ""
  deriving DecidableEq, Repr

structure ParticipantRow where
  sessionId : String
  userId : String
  role : String := "spectator"
  slotIndex : Option Int64 := none
  joinedAt : String := ""
  deriving DecidableEq, Repr

structure LeaderboardRow where
  id : String
  pluginId : String
  spaceId : String
  boardId : String
  userId : String
  score : Rat
  metadata : Option String := none
  period : String := "current"
  updatedAt : String := ""
  deriving DecidableEq, Repr

structure Server where
  app : AppState
  plugins : List Plugin := []
  sessions : List SessionRow := []
  participants : List ParticipantRow := []
  leaderboard : List LeaderboardRow := []

structure PluginSession where
  id : String
  pluginId : String
  channelId : String
  hostUserId : String
  state : String
  participants : List ParticipantRow
  createdAt : String
  deriving DecidableEq, Repr

def participantKey (p : ParticipantRow) : String × String := (p.sessionId, p.userId)

def isPlayer (sessionId : String) (p : ParticipantRow) : Bool :=
  p.sessionId = sessionId && p.role = "player"

abbrev Handler := Prog Server AppError

namespace Handler

variable {α : Type}

def fetch (q : Query α) : Handler α := Prog.query App.databaseFault (fun s => q s.app.db)

def read (f : Server → Except AppError α) : Handler α := Prog.query App.databaseFault f

-- One writing statement; `check` is the constraint that the statement may violate.
def write (check : Server → Option AppError) (f : Server → Server) : Handler Unit :=
  Prog.statement App.databaseFault (fun s =>
    match check s with
    | some e => (.error e, s)
    | none => (.ok (), f s))

def writeCounted (affected : Server → Bool) (f : Server → Server) : Handler Bool :=
  Prog.statement App.databaseFault (fun s => (.ok (affected s), f s))

def generateId : Handler String :=
  .step (fun s => { s with app := { s.app with snowflake := s.app.snowflake + 1 } })
    (fun s => .ret (toString s.app.snowflake))

instance : MonadLift (Except AppError) Handler := ⟨Prog.ofExcept⟩

section

variable {ν : Type} {view : Server → ν}

theorem preserves_fetch (q : Query α) : (fetch q).Preserves view := Prog.preserves_query _ _

theorem preserves_read (f : Server → Except AppError α) : (read f).Preserves view :=
  Prog.preserves_query _ _

theorem preserves_write {check : Server → Option AppError} {f : Server → Server}
    (h : ∀ s, view (f s) = view s) : (write check f).Preserves view := by
  refine Prog.preserves_statement (fun s => ?_)
  cases check s with
  | none => exact h s
  | some e => rfl

theorem preserves_writeCounted {affected : Server → Bool} {f : Server → Server}
    (h : ∀ s, view (f s) = view s) : (writeCounted affected f).Preserves view :=
  Prog.preserves_statement h

end

end Handler

open Handler

def broadcastPluginEvent (spaceId : Option String) (targetUserIds : Option (List String))
    (eventType : String) (data : Json) : Handler Unit :=
  Prog.modify (fun s => { s with app := { s.app with gatewayTx := s.app.gatewayTx ++
    [{ spaceId := spaceId
       targetUserIds := targetUserIds
       event := Federation.gatewayEvent eventType data
       intent := "plugins" }] } })

def getPlugin (pluginId : String) : Handler Plugin :=
  read (fun s =>
    match Table.lookup Plugin.id pluginId s.plugins with
    | some p => .ok p
    | none => .error (.notFound "unknown_plugin"))

def getSessionRow (sessionId : String) : Handler SessionRow :=
  read (fun s =>
    match Table.lookup SessionRow.id sessionId s.sessions with
    | some row => .ok row
    | none => .error (.notFound "unknown_session"))

def listParticipants (sessionId : String) : Handler (List ParticipantRow) :=
  read (fun s => .ok (Table.orderBy ParticipantRow.joinedAt
    (s.participants.filter (fun p => p.sessionId = sessionId))))

def rowToSession (row : SessionRow) (participants : List ParticipantRow) : PluginSession :=
  { id := row.id
    pluginId := row.pluginId
    channelId := row.channelId
    hostUserId := row.hostUserId
    state := row.state
    participants := participants
    createdAt := row.createdAt }

def getSession (sessionId : String) : Handler PluginSession := do
  let row ← getSessionRow sessionId
  let participants ← listParticipants sessionId
  return rowToSession row participants

def getSessionUserIds (sessionId : String) : Handler (List String) :=
  read (fun s => .ok
    ((s.participants.filter (fun p => p.sessionId = sessionId)).map ParticipantRow.userId))

def requireSessionAccess (sessionId userId : String) : Handler Unit := do
  let session ← getSession sessionId
  let plugin ← getPlugin session.pluginId
  let channel ← fetch (Channels.getChannelRow session.channelId)
  Prog.require (channel.spaceId = some plugin.spaceId)
    (.forbidden "plugin session crosses space boundary")
  let _ ← fetch (requireChannelMembership session.channelId userId)
  return ()

def insertSession (id pluginId channelId hostUserId initialState : String) : Handler Unit :=
  Handler.write
    (fun s => App.foreignKey (Table.has Plugin.id pluginId s.plugins &&
      s.app.db.hasChannel channelId && s.app.db.hasUser hostUserId))
    (fun s =>
      { s with
        sessions := s.sessions ++
          [{ id := id
             pluginId := pluginId
             channelId := channelId
             hostUserId := hostUserId
             state := initialState
             createdAt := s.app.now
             updatedAt := s.app.now }]
        participants := s.participants ++
          [{ sessionId := id
             userId := hostUserId
             role := "player"
             slotIndex := some 0
             joinedAt := s.app.now }] })

def createSession (pluginId channelId hostUserId : String) (useLobby : Bool) :
    Handler PluginSession := do
  let plugin ← getPlugin pluginId
  let channel ← fetch (Channels.getChannelRow channelId)
  Prog.require (channel.spaceId = some plugin.spaceId)
    (.forbidden "plugin and channel must belong to the same space")
  let _ ← fetch (requireChannelMembership channelId hostUserId)
  let id ← generateId
  insertSession id pluginId channelId hostUserId (if useLobby then "lobby" else "running")
  getSession id

def writeState (sessionId state : String) : Handler Unit :=
  Handler.write (fun _ => none) (fun s =>
    { s with
      sessions := Table.update SessionRow.id sessionId
        (fun row => { row with state := state, updatedAt := s.app.now }) s.sessions })

def updateState (sessionId state : String) : Handler PluginSession := do
  writeState sessionId state
  getSession sessionId

def insertParticipant (sessionId userId role : String) (slotIndex : Option Int64) : Handler Unit :=
  Handler.write
    (fun s =>
      (App.unique (!Table.has participantKey (sessionId, userId) s.participants)).or
        (App.foreignKey (Table.has SessionRow.id sessionId s.sessions && s.app.db.hasUser userId)))
    (fun s =>
      { s with
        participants := s.participants ++
          [{ sessionId := sessionId
             userId := userId
             role := role
             slotIndex := slotIndex
             joinedAt := s.app.now }] })

def addParticipant (sessionId userId role : String) (slotIndex : Option Int64) : Handler Unit := do
  requireSessionAccess sessionId userId
  insertParticipant sessionId userId role slotIndex

def writeRole (sessionId userId role : String) (slotIndex : Option Int64) : Handler Bool :=
  writeCounted (fun s => Table.has participantKey (sessionId, userId) s.participants) (fun s =>
    { s with
      participants := Table.update participantKey (sessionId, userId)
        (fun p => { p with role := role, slotIndex := slotIndex }) s.participants })

def updateParticipantRole (sessionId userId role : String) (slotIndex : Option Int64) :
    Handler Unit := do
  requireSessionAccess sessionId userId
  let affected ← writeRole sessionId userId role slotIndex
  Prog.require affected (.notFound "participant not found in session")

def countPlayers (sessionId : String) : Handler Int :=
  read (fun s => .ok (s.participants.filter (isPlayer sessionId)).length)

def slotAfter (slots : List Int64) : Int64 :=
  match (slots.map Int64.toInt).max? with
  | some m => Int64.ofInt (m + 1)
  | none => 0

def nextSlotIndex (sessionId : String) : Handler Int64 :=
  read (fun s => .ok
    (slotAfter ((s.participants.filter (isPlayer sessionId)).filterMap ParticipantRow.slotIndex)))

end Vokusz.Plugins
