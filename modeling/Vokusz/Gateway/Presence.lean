import Vokusz.Gateway.Session

namespace Vokusz.Gateway

open Lib Resume
open Federation.Outbound (startsWith)

structure ClientStatus where
  desktop : Option String
  mobile : Option String
  web : Option String
deriving DecidableEq, Repr

structure Presence where
  userId : String
  status : String
  clientStatus : ClientStatus
  activities : List Json
  spaceId : Option String
deriving DecidableEq, Repr

structure GatewaySession where
  sessionId : String
  userId : String
deriving DecidableEq, Repr

structure ParkedSession where
  sessionId : String
  userId : String
  claimTx : Nat
deriving DecidableEq, Repr

def setPresence (presences : List Presence) (userId status : String) (activities : List Json) :
    List Presence :=
  let presence : Presence :=
    { userId := userId
      status := status
      clientStatus := { desktop := some status, mobile := none, web := none }
      activities := activities
      spaceId := none }
  Table.upsert Presence.userId presence (fun _ => presence) presences

def removePresence (presences : List Presence) (userId : String) : List Presence :=
  Table.delete Presence.userId userId presences

def getUserPresence (presences : List Presence) (userId : String) : Option Presence :=
  Table.lookup Presence.userId userId presences

def userHasOtherSessions (sessions : List GatewaySession) (userId excludeSessionId : String) :
    Bool :=
  sessions.any (fun g => g.userId = userId && g.sessionId ≠ excludeSessionId)

def isGuestUser (userId : String) : Bool := startsWith "guest:" userId

def VALID_STATUSES : List String := ["online", "idle", "dnd", "invisible"]

def parsePresencePayload (value : Json) : Option String × Option (List Json) :=
  let status := (value.getStr? "status").filter (fun s => s ∈ VALID_STATUSES)
  let activities :=
    match (value.field? "activities").bind Json.asArray? with
    | some list => some list
    | none =>
      match value.field? "activity" with
      | some a => if a.isNull then none else some [a]
      | none => none
  (status, activities)

structure PresenceUpdateData where
  status : String
  activity : Option Json
  activities : Option (List Json)

namespace PresenceUpdateData

variable (psu : PresenceUpdateData)

def published : String := if psu.status ∈ VALID_STATUSES then psu.status else "online"

def list : List Json :=
  match psu.activities with
  | some list => list
  | none => psu.activity.toList

end PresenceUpdateData

structure SessionTask where
  userId : String
  sessionId : String
  handover : Handover
deriving DecidableEq

inductive Opening where
  | identify (presence : Option Json)
  | resume
deriving DecidableEq

inductive Handshake where
  | identify (userId : String) (presence : Option Json)
  | resume (task : SessionTask)
deriving DecidableEq

inductive Socket where
  | handshake
  | claiming (userId sessionId : String) (afterSeq holder : Nat)
  | handedOver (task : SessionTask) (afterSeq : Nat)
  | accepted (handshake : Handshake)
  | entered (task : SessionTask) (opening : Opening)
  | observed (task : SessionTask) (opening : Opening) (prior : Option Presence)
  | published (task : SessionTask)
  | live (task : SessionTask)
  | unregistered (task : SessionTask) (resumable : Bool)
  | parked (task : SessionTask) (claim : Option Nat)
  | expired (task : SessionTask)
  | removing (task : SessionTask)
  | ended
deriving DecidableEq

inductive SocketAction where
  | reject
  | identify (userId : String) (presence : Option Json)
  | resume (userId sessionId : String) (afterSeq : Nat)
  | abandon
  | answer (authorized : Bool)
  | validate (spacesLoaded : Bool) (canReceive : String → Bool)
  | enter (granted : Bool)
  | observe
  | publish
  | register (sent : Bool)
  | dispatch (event : Json) (written : Bool)
  | presenceUpdate (psu : PresenceUpdateData)
  | leave (resumable : Bool)
  | park
  | expire
  | check
  | remove

inductive HubAction where
  | connect
  | socket (i : Nat) (a : SocketAction)

structure Hub where
  presences : List Presence := []
  sessions : List GatewaySession := []
  resumableSessions : List ParkedSession := []
  sockets : List Socket := []
  snowflake : Nat := 0
deriving DecidableEq

namespace SessionTask

variable (task : SessionTask)

def session : GatewaySession := { sessionId := task.sessionId, userId := task.userId }

def parkedBy (i : Nat) : ParkedSession :=
  { sessionId := task.sessionId, userId := task.userId, claimTx := i }

def stamp (event : Json) (retained : Bool) : SessionTask :=
  let seq := task.handover.seq + 1
  { task with
    handover :=
      { seq := seq
        buffer :=
          if retained then push task.handover.buffer seq (stampSeq event seq)
          else task.handover.buffer } }

end SessionTask

def replayAccepted (task : SessionTask) (afterSeq : Nat) (spacesLoaded : Bool)
    (canReceive : String → Bool) : Bool :=
  match missedEntries task.handover.buffer task.handover.seq afterSeq with
  | none => false
  | some missed => spacesLoaded && Session.replayable canReceive missed

def openingPresence (presence : Option Json) (prior : Option Presence) : String × List Json :=
  let wanted := (presence.map parsePresencePayload).getD (none, none)
  ((wanted.1.or (prior.map Presence.status)).getD "online",
    (wanted.2.or (prior.map Presence.activities)).getD [])

namespace Hub

variable (s : Hub)

def move (i : Nat) (socket : Socket) : Hub := { s with sockets := s.sockets.set i socket }

def withPresences (presences : List Presence) : Hub := { s with presences := presences }

def withSessions (sessions : List GatewaySession) : Hub := { s with sessions := sessions }

def withParked (parked : List ParkedSession) : Hub := { s with resumableSessions := parked }

def connect : Hub := { s with sockets := s.sockets ++ [.handshake] }

def sendClaim (holder i : Nat) : Hub :=
  match s.sockets[holder]? with
  | some (.parked task none) => s.move holder (.parked task (some i))
  | _ => s

def claimParkedSession (i : Nat) (userId sessionId : String) (afterSeq : Nat) : Hub :=
  match Table.lookup ParkedSession.sessionId sessionId s.resumableSessions with
  | some parked =>
    if parked.userId = userId then
      ((s.withParked (Table.delete ParkedSession.sessionId sessionId s.resumableSessions)).sendClaim
        parked.claimTx i).move i (.claiming userId sessionId afterSeq parked.claimTx)
    else s.move i .ended
  | none => s.move i .ended

def reply (c : Nat) (handover : Handover) : Hub :=
  match s.sockets[c]? with
  | some (.claiming userId sessionId afterSeq _) =>
    s.move c (.handedOver { userId := userId, sessionId := sessionId, handover := handover } afterSeq)
  | _ => s

def dropEntry (task : SessionTask) : Hub :=
  s.withParked (Table.delete ParkedSession.sessionId task.sessionId s.resumableSessions)

def openSession (i : Nat) (granted : Bool) : Handshake → Hub
  | .identify userId presence =>
    let task : SessionTask :=
      { userId := userId
        sessionId := toString s.snowflake
        handover := { seq := 1, buffer := [] } }
    { s with snowflake := s.snowflake + 1 }.move i
      (if granted then .entered task (.identify presence) else .ended)
  | .resume task => s.move i (if granted then .entered task .resume else .ended)

def publish (i : Nat) (task : SessionTask) (opening : Opening) (prior : Option Presence) : Hub :=
  if isGuestUser task.userId then s.move i (.published task)
  else
    match opening, prior with
    | .resume, some _ => s.move i (.published task)
    | .resume, none =>
      (s.withPresences (setPresence s.presences task.userId "online" [])).move i (.published task)
    | .identify presence, prior =>
      (s.withPresences (setPresence s.presences task.userId (openingPresence presence prior).1
        (openingPresence presence prior).2)).move i (.published task)

def teardown (i : Nat) (task : SessionTask) (resumable : Bool) : Hub :=
  (s.withSessions (Table.delete GatewaySession.sessionId task.sessionId s.sessions)).move i
    (if isGuestUser task.userId then .ended else .unregistered task resumable)

def register (i : Nat) (task : SessionTask) : Hub :=
  (s.withSessions (Table.upsert GatewaySession.sessionId task.session (fun _ => task.session)
    s.sessions)).move i (.live task)

def parkSession (i : Nat) (task : SessionTask) : Hub :=
  (s.withParked (Table.upsert ParkedSession.sessionId (task.parkedBy i) (fun _ => task.parkedBy i)
    s.resumableSessions)).move i (.parked task none)

def checkOthers (i : Nat) (task : SessionTask) : Hub :=
  s.move i (if userHasOtherSessions s.sessions task.userId task.sessionId then .ended
    else .removing task)

def act (i : Nat) : Socket → SocketAction → Option Hub
  | .handshake, .reject => some (s.move i .ended)
  | .handshake, .identify userId presence => some (s.move i (.accepted (.identify userId presence)))
  | .handshake, .resume userId sessionId afterSeq =>
    some (s.claimParkedSession i userId sessionId afterSeq)
  | .claiming _ _ _ _, .abandon => some (s.move i .ended)
  | .handedOver task afterSeq, .validate spacesLoaded canReceive =>
    some (s.move i (if replayAccepted task afterSeq spacesLoaded canReceive then
      .accepted (.resume task) else .ended))
  | .accepted handshake, .enter granted => some (s.openSession i granted handshake)
  | .entered task opening, .observe =>
    some (s.move i (.observed task opening (getUserPresence s.presences task.userId)))
  | .observed task opening prior, .publish => some (s.publish i task opening prior)
  | .published task, .register sent =>
    some (if sent then s.register i task else s.teardown i task false)
  | .live task, .dispatch event written =>
    some (if written then s.move i (.live (task.stamp event true))
      else s.teardown i (task.stamp event false) true)
  | .live task, .presenceUpdate psu =>
    some (s.withPresences (setPresence s.presences task.userId psu.published psu.list))
  | .live task, .leave resumable => some (s.teardown i task resumable)
  | .unregistered task true, .park => some (s.parkSession i task)
  | .unregistered task false, .check => some (s.checkOthers i task)
  | .parked task claim, .dispatch event _ => some (s.move i (.parked (task.stamp event true) claim))
  | .parked task (some c), .answer authorized =>
    some (if authorized then (s.move i .ended).reply c task.handover
      else (s.dropEntry task).move i (.expired task))
  | .parked task _, .expire => some ((s.dropEntry task).move i (.expired task))
  | .expired task, .check => some (s.checkOthers i task)
  | .removing task, .remove =>
    some ((s.withPresences (removePresence s.presences task.userId)).move i .ended)
  | _, _ => none

def step : HubAction → Option Hub
  | .connect => some s.connect
  | .socket i a => s.sockets[i]?.bind (fun socket => s.act i socket a)

def run (acts : List HubAction) : Option Hub := runFrom step {} acts

end Hub

end Vokusz.Gateway
