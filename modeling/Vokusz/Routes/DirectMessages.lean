import Vokusz.Federation.Dm
import Vokusz.Lib.Transition
import Vokusz.Routes.ChannelEdits

namespace Vokusz.Routes.DirectMessages

open Db Permissions Federation Mapping
open Lib (Prog)
open ChannelEdits (broadcastChannel)

structure CreateDmRequest where
  recipientId : Option String := none
  recipients : Option (List String) := none
  deriving DecidableEq, Repr

def requested (input : CreateDmRequest) : Except AppError (List String) :=
  match input.recipientId, input.recipients with
  | some rid, _ => .ok [rid]
  | none, some rids => .ok rids
  | none, none => .error (.badRequest "recipient_id or recipients is required")

def checkCount (ids : List String) (userId : String) : Query Unit := do
  Query.require (ids ≠ []) (.badRequest "at least one recipient is required")
  Query.require (ids.length ≤ 9) (.badRequest "group DMs cannot have more than 10 participants")
  Query.require (ids ≠ [userId]) (.badRequest "cannot create a DM with yourself")

def remoteRecipient (fed : Option FederationContext) (ids : List String) : Option String :=
  match fed, ids with
  | some fed, [rid] =>
    match domainOf rid with
    | some domain => if eqIgnoreAsciiCase domain fed.domain then none else some rid
    | none => none
  | _, _ => none

def refused : AppError := .forbidden "you cannot send a DM to this user"

def checkRecipients (userId : String) : List String → Query Unit
  | [] => return ()
  | rid :: rids => do
    let _ ← Users.getUser rid
    let blocked ← Relationships.isBlockedBy rid userId
    Query.require (blocked = false) refused
    checkRecipients userId rids

def openLocal (auth : AuthUser) (ids : List String) : App ChannelRow := do
  checkRecipients auth.userId ids
  DmParticipants.createDmChannel auth.userId ids

def announce (channel : ChannelRow) : App Json := do
  let json ← Spaces.channelRowToJsonPub channel
  let ids ← DmParticipants.listParticipantIds channel.id
  broadcastChannel none (some ids) "channel.create" json
  return .obj [("data", json)]

def createDmChannel (auth : AuthUser) (input : CreateDmRequest)
    (reply : Except AppError Response) : App Json := do
  let ids ← requested input
  checkCount ids auth.userId
  let fed ← App.federation
  match remoteRecipient fed ids with
  | some rid =>
    let opener ← Users.getUser auth.userId
    let channel ← Dm.openDm opener rid reply
    let json ← Spaces.channelRowToJsonPub channel
    return .obj [("data", json)]
  | none =>
    let channel ← openLocal auth ids
    announce channel

structure Pair where
  first : AuthUser
  second : AuthUser
  distinct : first.userId ≠ second.userId

inductive Party where
  | first
  | second
  deriving DecidableEq, Repr

def Party.other : Party → Party
  | .first => .second
  | .second => .first

def Pair.auth (pair : Pair) : Party → AuthUser
  | .first => pair.first
  | .second => pair.second

def Pair.id (pair : Pair) (p : Party) : String := (pair.auth p).userId

inductive DmRequest where
  | create (p : Party)
  | leave (p : Party) (channelId : String)
  deriving DecidableEq, Repr

structure Talk where
  app : AppState
  opened : List String := []
  last : Option (Except AppError ChannelRow) := none

def noted (opened : List String) : Except AppError ChannelRow → List String
  | .ok row => row.id :: opened
  | .error _ => opened

def Pair.serve (pair : Pair) (s : Talk) : DmRequest → Talk
  | .create p =>
    let result := (openLocal (pair.auth p) [pair.id p.other]).exec s.app
    { app := result.2
      opened := noted s.opened result.1
      last := some result.1 }
  | .leave p channelId =>
    { app := ((ChannelEdits.deleteChannel channelId (pair.auth p)).exec s.app).2
      opened := s.opened }

def Pair.serveOne (pair : Pair) (s : Talk) (req : DmRequest) : Option Talk := some (pair.serve s req)

def Pair.blocked (pair : Pair) (db : Tables) (p : Party) : Bool :=
  db.relationships.any (fun r =>
    r.userId = pair.id p.other && r.targetUserId = pair.id p && r.kind = 2)

def Pair.both (pair : Pair) (db : Tables) (channelId : String) : Bool :=
  db.isParticipant channelId (pair.id .first) && db.isParticipant channelId (pair.id .second)

def Pair.Returns (pair : Pair) (s t : Talk) : Prop :=
  ∀ result, t.last = some result →
    (result = .error refused ∧ ∃ p, pair.blocked s.app.db p = true) ∨
    ∃ row, result = .ok row ∧ row.channelType = "dm" ∧
      (∀ u, t.app.db.isParticipant row.id u = true ↔ u = pair.id .first ∨ u = pair.id .second) ∧
      ∀ id ∈ s.opened, s.app.db.hasChannel id = true → row.id = id

def Pair.undivided (pair : Pair) (s : Talk) : DmRequest → Bool
  | .create p =>
    pair.blocked s.app.db p ||
      s.opened.all (fun id => !s.app.db.hasChannel id || pair.both s.app.db id)
  | .leave _ _ => true

structure Talks (pair : Pair) (opened : List String) (db : Tables) : Prop where
  keys : Lib.Table.Distinct ChannelRow.id db.channels
  placed : ∀ p ∈ db.dmParticipants, db.hasChannel p.channelId = true
  users : ∀ p, db.hasUser (pair.id p) = true
  ours : ∀ c ∈ db.channels, c.id ∈ opened → c.channelType = "dm" ∧
    (∀ u, db.isParticipant c.id u = true → u = pair.id .first ∨ u = pair.id .second)
  known : ∀ c ∈ db.channels, c.channelType = "dm" → pair.both db c.id = true → c.id ∈ opened
  single : ∀ c ∈ db.channels, ∀ c' ∈ db.channels, pair.both db c.id = true →
    pair.both db c'.id = true → c.id ∈ opened → c'.id ∈ opened → c.id = c'.id

structure Talking (pair : Pair) (opened : List String) (s : AppState) : Prop where
  talks : Talks pair opened s.db
  fresh : ∀ n, s.snowflake ≤ n → s.db.hasChannel (toString n) = false

section

variable {pair : Pair} {s : AppState} {db db' : Tables} {opened : List String}

theorem isParticipant_iff {channelId userId : String} :
    db.isParticipant channelId userId = true ↔ ⟨channelId, userId⟩ ∈ db.dmParticipants := by
  unfold Tables.isParticipant
  rw [List.any_eq_true]
  constructor
  · rintro ⟨p, hp, hkey⟩
    rw [Bool.and_eq_true, decide_eq_true_eq, decide_eq_true_eq] at hkey
    obtain ⟨rfl, rfl⟩ := hkey
    exact hp
  · intro h
    exact ⟨_, h, by simp⟩

theorem both_iff {channelId : String} :
    pair.both db channelId = true ↔
      db.isParticipant channelId (pair.id .first) = true ∧
        db.isParticipant channelId (pair.id .second) = true := by
  rw [Pair.both, Bool.and_eq_true]

theorem both_of_party {channelId : String} {p : Party}
    (h : db.isParticipant channelId (pair.id p) = true)
    (hother : db.isParticipant channelId (pair.id p.other) = true) :
    pair.both db channelId = true := by
  rw [both_iff]
  cases p with
  | first => exact ⟨h, hother⟩
  | second => exact ⟨hother, h⟩

theorem checkRecipients_eq {p : Party} (huser : db.hasUser (pair.id p.other) = true) :
    checkRecipients (pair.auth p).userId [pair.id p.other] db =
      if pair.blocked db p then .error refused else .ok () := by
  obtain ⟨u, hu⟩ := Users.getUser_of_has huser
  have hblocked : Relationships.isBlockedBy (pair.id p.other) (pair.auth p).userId db =
      .ok (pair.blocked db p) := rfl
  rw [checkRecipients, Query.bind_apply, hu]
  dsimp only
  rw [Query.bind_apply, hblocked]
  cases pair.blocked db p with
  | true => rfl
  | false => rfl

theorem insertSeat_of_mem {channelId userId : String}
    (h : db.isParticipant channelId userId = true) :
    Lib.Table.insertNew (fun p : DmParticipant => (p.channelId, p.userId))
      { channelId := channelId, userId := userId } db.dmParticipants = db.dmParticipants :=
  Lib.Table.insertNew_of_has (Lib.Table.has_iff.mpr ⟨_, isParticipant_iff.mp h, rfl⟩)

theorem exec_openLocal_blocked {p : Party} (huser : s.db.hasUser (pair.id p.other) = true)
    (hblocked : pair.blocked s.db p = true) :
    (openLocal (pair.auth p) [pair.id p.other]).exec s = (.error refused, s) := by
  have hcheck := checkRecipients_eq huser
  rw [hblocked, if_pos rfl] at hcheck
  rw [openLocal, Prog.exec_bind, App.exec_lift, hcheck]

theorem exec_openLocal_allowed {p : Party} (huser : s.db.hasUser (pair.id p.other) = true)
    (hblocked : pair.blocked s.db p = false) :
    (openLocal (pair.auth p) [pair.id p.other]).exec s =
      (DmParticipants.createDmChannel (pair.id p) [pair.id p.other]).exec s := by
  have hcheck := checkRecipients_eq huser
  rw [hblocked, if_neg Bool.false_ne_true] at hcheck
  rw [openLocal, Prog.exec_bind, App.exec_lift, hcheck]
  rfl

theorem exec_createDm_found {u v : String} {row : ChannelRow}
    (hfound : DmParticipants.findExistingDm u v s.db = .ok (some row))
    (hseat : s.db.isParticipant row.id u = true) :
    (DmParticipants.createDmChannel u [v]).exec s = (.ok row, s) := by
  have hadd : (DmParticipants.addParticipant row.id u).exec s = (.ok (), s) := by
    rw [DmParticipants.addParticipant, App.exec_write, hseat]
    have hsame := insertSeat_of_mem hseat
    simp only [Bool.true_or, App.foreignKey, if_true, hsame]
    rfl
  rw [DmParticipants.createDmChannel, Prog.exec_bind_of_ok ((Prog.exec_require_ok (u := ())).mpr ⟨by simp, rfl⟩)]
  rw [Prog.exec_bind, App.exec_lift, DmParticipants.existingDmWith, hfound]
  dsimp only
  rw [Prog.exec_bind_of_ok hadd]
  rfl

def seat (channelId userId : String) (db : Tables) : Tables :=
  { db with
    dmParticipants := Lib.Table.insertNew (fun p : DmParticipant => (p.channelId, p.userId))
      { channelId := channelId, userId := userId } db.dmParticipants }

theorem exec_addParticipant {channelId userId : String}
    (hchannel : s.db.hasChannel channelId = true) (huser : s.db.hasUser userId = true) :
    (DmParticipants.addParticipant channelId userId).exec s =
      (.ok (), s.withDb (seat channelId userId s.db)) := by
  rw [DmParticipants.addParticipant, App.exec_write]
  simp only [hchannel, huser, Bool.and_self, Bool.or_true, App.foreignKey, if_true]
  rfl

def newDm (id ownerId : String) : ChannelRow :=
  { id := id
    channelType := "dm"
    ownerId := some ownerId }

def started (s : AppState) (ownerId : String) : AppState :=
  { s with
    snowflake := s.snowflake + 1
    db := { s.db with channels := s.db.channels ++ [newDm (toString s.snowflake) ownerId] } }

def seated (s : AppState) (channelId userId : String) : AppState :=
  s.withDb (seat channelId userId s.db)

theorem exec_insertDm {u : String} (hfresh : s.db.hasChannel (toString s.snowflake) = false)
    (hu : s.db.hasUser u = true) :
    (DmParticipants.insertDmChannel (toString s.snowflake) "dm" u).exec
      { s with snowflake := s.snowflake + 1 } = (.ok (), started s u) := by
  rw [DmParticipants.insertDmChannel, App.exec_write]
  simp only [hfresh, hu, Bool.not_false, App.unique, App.foreignKey, if_true]
  rfl

theorem getChannelRow_of_channels {db : Tables} {u : String} {rows : List ChannelRow} {id : String}
    (hfresh : Lib.Table.has ChannelRow.id id rows = false)
    (hdb : db.channels = rows ++ [newDm id u]) :
    Channels.getChannelRow id db = .ok (newDm id u) := by
  rw [Channels.getChannelRow, hdb, Lib.Table.lookup_append, Lib.Table.lookup_none_of_not_has hfresh]
  simp [newDm]

theorem exec_createDm_new {u v : String}
    (hnone : DmParticipants.findExistingDm u v s.db = .ok none)
    (hfresh : s.db.hasChannel (toString s.snowflake) = false) (hu : s.db.hasUser u = true)
    (hv : s.db.hasUser v = true) :
    (DmParticipants.createDmChannel u [v]).exec s =
      (.ok (newDm (toString s.snowflake) u),
        seated (seated (started s u) (toString s.snowflake) u) (toString s.snowflake) v) := by
  have hhas : (started s u).db.hasChannel (toString s.snowflake) = true :=
    Lib.Table.has_iff.mpr ⟨_, List.mem_append_right _ (List.mem_singleton_self _), rfl⟩
  have hfirst : (DmParticipants.addParticipant (toString s.snowflake) u).exec (started s u) =
      (.ok (), seated (started s u) (toString s.snowflake) u) :=
    exec_addParticipant hhas hu
  have hsecond : (DmParticipants.addParticipant (toString s.snowflake) v).exec
      (seated (started s u) (toString s.snowflake) u) =
      (.ok (), seated (seated (started s u) (toString s.snowflake) u) (toString s.snowflake) v) :=
    exec_addParticipant hhas hv
  rw [DmParticipants.createDmChannel, Prog.exec_bind_of_ok ((Prog.exec_require_ok (u := ())).mpr
    ⟨by simp, rfl⟩)]
  rw [Prog.exec_bind, App.exec_lift, DmParticipants.existingDmWith, hnone]
  dsimp only
  rw [Prog.exec_bind_of_ok App.exec_generateId]
  refine (Prog.exec_bind_of_ok (exec_insertDm hfresh hu)).trans ?_
  rw [Prog.exec_bind_of_ok hfirst, Prog.forEach_cons, bind_assoc, Prog.exec_bind_of_ok hsecond]
  have hrow : Channels.getChannelRow (toString s.snowflake)
      (seated (seated (started s u) (toString s.snowflake) u) (toString s.snowflake) v).db =
      .ok (newDm (toString s.snowflake) u) :=
    getChannelRow_of_channels hfresh rfl
  rw [Prog.exec_bind_of_ok (Prog.exec_forEach_nil _ _), App.exec_lift, hrow]

theorem isParticipant_seat {channelId userId id u : String} :
    (seat id u db).isParticipant channelId userId = true ↔
      db.isParticipant channelId userId = true ∨ channelId = id ∧ userId = u := by
  rw [isParticipant_iff, isParticipant_iff]
  refine (Lib.Table.mem_insertNew_iff (fun p hkey => ?_)).trans (or_congr_right ?_)
  · obtain ⟨hchannel, huser⟩ := Prod.mk.inj hkey
    cases p
    cases hchannel
    cases huser
    rfl
  · rw [DmParticipant.mk.injEq]

theorem Talks.shrink (h : Talks pair opened db)
    (hkeys : Lib.Table.Distinct ChannelRow.id db'.channels)
    (hchannels : ∀ c' ∈ db'.channels, ∃ c ∈ db.channels, c.id = c'.id ∧
      c.channelType = c'.channelType)
    (hseats : ∀ p ∈ db'.dmParticipants, p ∈ db.dmParticipants ∧ db'.hasChannel p.channelId = true)
    (husers : db'.users = db.users) : Talks pair opened db' := by
  have hseat : ∀ id u, db'.isParticipant id u = true → db.isParticipant id u = true := by
    intro id u hold
    exact isParticipant_iff.mpr (hseats _ (isParticipant_iff.mp hold)).1
  have hboth : ∀ id, pair.both db' id = true → pair.both db id = true := by
    intro id hfull
    obtain ⟨hfirst, hsecond⟩ := both_iff.mp hfull
    exact both_iff.mpr ⟨hseat _ _ hfirst, hseat _ _ hsecond⟩
  constructor
  · exact hkeys
  · exact fun p hp => (hseats p hp).2
  · intro p
    rw [Tables.hasUser, husers]
    exact h.users p
  · intro c' hc' hopened
    obtain ⟨c, hc, hid, htype⟩ := hchannels c' hc'
    rw [← hid] at hopened ⊢
    obtain ⟨hdm, honly⟩ := h.ours c hc hopened
    exact ⟨htype.symm.trans hdm, fun u hu => honly u (hseat _ _ hu)⟩
  · intro c' hc' hdm hfull
    obtain ⟨c, hc, hid, htype⟩ := hchannels c' hc'
    rw [← hid] at hfull ⊢
    exact h.known c hc (htype.trans hdm) (hboth _ hfull)
  · intro c' hc' d' hd' hfull hfull' hopened hopened'
    obtain ⟨c, hc, hid, -⟩ := hchannels c' hc'
    obtain ⟨d, hd, hid', -⟩ := hchannels d' hd'
    rw [← hid] at hfull hopened ⊢
    rw [← hid'] at hfull' hopened' ⊢
    exact h.single c hc d hd (hboth _ hfull) (hboth _ hfull') hopened hopened'

theorem not_seated (h : Talks pair opened db) {id userId : String}
    (hfresh : db.hasChannel id = false) : db.isParticipant id userId = false := by
  cases hseat : db.isParticipant id userId with
  | false => rfl
  | true =>
    have hplaced := h.placed _ (isParticipant_iff.mp hseat)
    rw [hfresh] at hplaced
    cases hplaced

def opening (id : String) (u v : String) (db : Tables) : Tables :=
  seat id v (seat id u { db with channels := db.channels ++ [newDm id u] })

theorem isParticipant_opening {channelId userId id u v : String} :
    (opening id u v db).isParticipant channelId userId = true ↔
      db.isParticipant channelId userId = true ∨ channelId = id ∧ (userId = u ∨ userId = v) := by
  unfold opening
  rw [isParticipant_seat, isParticipant_seat, and_or_left, or_assoc]
  rfl

theorem opening_self {p : Party} {id : String} (h : Talks pair opened db)
    (hfresh : db.hasChannel id = false) (u : String) :
    (opening id (pair.id p) (pair.id p.other) db).isParticipant id u = true ↔
      u = pair.id .first ∨ u = pair.id .second := by
  rw [isParticipant_opening, not_seated h hfresh]
  cases p with
  | first => simp [Party.other]
  | second => simp [Party.other, or_comm]

theorem opening_both {p : Party} {id channelId : String} (hne : channelId ≠ id) :
    pair.both (opening id (pair.id p) (pair.id p.other) db) channelId = pair.both db channelId := by
  rw [Bool.eq_iff_iff, both_iff, both_iff, isParticipant_opening, isParticipant_opening]
  simp [hne]

theorem mem_opening {id u v : String} {c : ChannelRow} (hc : c ∈ (opening id u v db).channels)
    (hfresh : db.hasChannel id = false) : c ∈ db.channels ∧ c.id ≠ id ∨ c = newDm id u := by
  rcases List.mem_append.mp hc with hc | hc
  · left
    refine ⟨hc, ?_⟩
    intro heq
    have hused : db.hasChannel id = true := Lib.Table.has_iff.mpr ⟨c, hc, heq⟩
    rw [hfresh] at hused
    cases hused
  · exact .inr (List.mem_singleton.mp hc)

theorem hasChannel_opening {id u v channelId : String} :
    (opening id u v db).hasChannel channelId = (db.hasChannel channelId || decide (id = channelId)) :=
  Lib.Table.has_append

theorem Talks.open {p : Party} {id : String} (h : Talks pair opened db)
    (hnone : ∀ c ∈ db.channels, c.channelType = "dm" → pair.both db c.id = false)
    (hfresh : db.hasChannel id = false) :
    Talks pair (id :: opened) (opening id (pair.id p) (pair.id p.other) db) := by
  have hempty : ∀ c ∈ db.channels, c.id ∈ opened → pair.both db c.id = false := by
    intro c hc hopened
    exact hnone c hc (h.ours c hc hopened).1
  have hfull : ∀ c ∈ db.channels, c.id ≠ id → c.id ∈ id :: opened →
      pair.both (opening id (pair.id p) (pair.id p.other) db) c.id = true → False := by
    intro c hc hne hopened hboth
    have hold := (List.mem_cons.mp hopened).resolve_left hne
    rw [opening_both hne, hempty c hc hold] at hboth
    cases hboth
  constructor
  · exact Lib.Table.Distinct.insert h.keys hfresh
  · intro q hq
    rw [hasChannel_opening]
    have hseat := isParticipant_opening.mp (isParticipant_iff.mpr hq)
    rcases hseat with hold | ⟨hid, -⟩
    · rw [h.placed _ (isParticipant_iff.mp hold), Bool.true_or]
    · rw [hid, decide_eq_true rfl, Bool.or_true]
  · exact h.users
  · intro c hc hopened
    rcases mem_opening hc hfresh with ⟨hc, hne⟩ | rfl
    · obtain ⟨hdm, honly⟩ := h.ours c hc ((List.mem_cons.mp hopened).resolve_left hne)
      refine ⟨hdm, fun u hu => honly u ?_⟩
      exact (isParticipant_opening.mp hu).resolve_right (fun hnew => hne hnew.1)
    · exact ⟨rfl, fun u hu => (opening_self h hfresh u).mp hu⟩
  · intro c hc hdm hboth
    rcases mem_opening hc hfresh with ⟨hc, hne⟩ | rfl
    · rw [opening_both hne, hnone c hc hdm] at hboth
      cases hboth
    · exact List.mem_cons_self
  · intro c hc c' hc' hboth hboth' hopened hopened'
    rcases mem_opening hc hfresh with ⟨hc, hne⟩ | rfl
    · exact (hfull c hc hne hopened hboth).elim
    · rcases mem_opening hc' hfresh with ⟨hc', hne'⟩ | rfl
      · exact (hfull c' hc' hne' hopened' hboth').elim
      · rfl

end

section

variable {α : Type} {pair : Pair} {opened : List String} {auth : AuthUser}

def rooms (s : AppState) : List ChannelRow × List DmParticipant × List User × Nat :=
  (s.db.channels, s.db.dmParticipants, s.db.users, s.snowflake)

theorem talking_of_view {p : App α} (h : p.Preserves rooms) :
    p.Maintains (Talking pair opened) := by
  refine h.keeps (fun s t hview hs => ?_)
  simp only [rooms, Prod.mk.injEq] at hview
  obtain ⟨hchannels, hseats, husers, hnext⟩ := hview
  have hhas : ∀ id, t.db.hasChannel id = s.db.hasChannel id := by
    intro id
    rw [Tables.hasChannel, Tables.hasChannel, hchannels]
  constructor
  · refine hs.talks.shrink ?_ (fun c hc => ⟨c, ?_, rfl, rfl⟩) (fun q hq => ⟨?_, ?_⟩) husers
    · rw [hchannels]
      exact hs.talks.keys
    · rwa [hchannels] at hc
    · rwa [hseats] at hq
    · rw [hseats] at hq
      rw [hhas]
      exact hs.talks.placed q hq
  · intro n hn
    rw [hnext] at hn
    rw [hhas]
    exact hs.fresh n hn

theorem talking_update {s : AppState} {db' : Tables} (h : Talking pair opened s)
    (hkeys : Lib.Table.Distinct ChannelRow.id db'.channels)
    (hchannels : ∀ c' ∈ db'.channels, ∃ c ∈ s.db.channels, c.id = c'.id ∧
      c.channelType = c'.channelType)
    (hseats : ∀ p ∈ db'.dmParticipants, p ∈ s.db.dmParticipants ∧
      db'.hasChannel p.channelId = true)
    (husers : db'.users = s.db.users) : Talking pair opened (s.withDb db') := by
  refine ⟨h.talks.shrink hkeys hchannels hseats husers, fun n hn => ?_⟩
  have hold := h.fresh n hn
  cases hnew : db'.hasChannel (toString n) with
  | false => exact hnew
  | true =>
    obtain ⟨c', hc', hid⟩ := Lib.Table.has_iff.mp hnew
    obtain ⟨c, hc, hsame, -⟩ := hchannels c' hc'
    have hused : s.db.hasChannel (toString n) = true :=
      Lib.Table.has_iff.mpr ⟨c, hc, hsame.trans hid⟩
    rw [hold] at hused
    cases hused

theorem keeps_removeParticipant (channelId userId : String) :
    (DmParticipants.removeParticipant channelId userId).Maintains (Talking pair opened) := by
  refine App.keeps_update (fun s h => talking_update h h.talks.keys (fun c hc => ⟨c, hc, rfl, rfl⟩)
    (fun p hp => ?_) rfl)
  have hold := (List.mem_filter.mp hp).1
  exact ⟨hold, h.talks.placed p hold⟩

theorem keeps_dropChannel (channelId : String) :
    (Db.Channels.deleteChannel channelId).Maintains (Talking pair opened) := by
  have hunset : ∀ c : ChannelRow,
      (if c.parentId = some channelId then { c with parentId := none } else c).id = c.id ∧
      (if c.parentId = some channelId then { c with parentId := none } else c).channelType =
        c.channelType := by
    intro c
    split <;> exact ⟨rfl, rfl⟩
  refine App.keeps_update (fun s h => talking_update h ?_ (fun c' hc' => ?_) (fun p hp => ?_) rfl)
  · refine List.pairwise_map.mpr ?_
    refine (Lib.Table.Distinct.delete h.talks.keys channelId).imp (fun {a b} hne heq => hne ?_)
    rw [(hunset a).1, (hunset b).1] at heq
    exact heq
  · obtain ⟨c, hc, rfl⟩ := List.mem_map.mp hc'
    exact ⟨c, (Lib.Table.mem_delete.mp hc).1, (hunset c).1.symm, (hunset c).2.symm⟩
  · obtain ⟨hold, hkept⟩ := List.mem_filter.mp hp
    obtain ⟨c, hc, hid⟩ := Lib.Table.has_iff.mp (h.talks.placed p hold)
    refine ⟨hold, Lib.Table.has_iff.mpr ⟨_, List.mem_map_of_mem (Lib.Table.mem_delete.mpr
      ⟨hc, ?_⟩), (hunset c).1.trans hid⟩⟩
    rw [hid]
    exact of_decide_eq_true hkept

theorem keeps_setOwner (channelId ownerId : String) :
    (DmParticipants.setOwner channelId ownerId).Maintains (Talking pair opened) := by
  have hset : ∀ c : ChannelRow,
      (if c.id = channelId then { c with ownerId := some ownerId } else c).id = c.id ∧
      (if c.id = channelId then { c with ownerId := some ownerId } else c).channelType =
        c.channelType := by
    intro c
    split <;> exact ⟨rfl, rfl⟩
  refine App.keeps_write (fun s h => talking_update h ?_ (fun c' hc' => ?_) (fun p hp => ⟨hp, ?_⟩)
    rfl)
  · exact h.talks.keys.update (fun _ _ => rfl)
  · obtain ⟨c, hc, rfl⟩ := List.mem_map.mp hc'
    exact ⟨c, hc, (hset c).1.symm, (hset c).2.symm⟩
  · obtain ⟨c, hc, hid⟩ := Lib.Table.has_iff.mp (h.talks.placed p hp)
    exact Lib.Table.has_iff.mpr ⟨_, List.mem_map_of_mem hc, (hset c).1.trans hid⟩

theorem keeps_passOn (existing : ChannelRow) :
    (ChannelEdits.passOn existing auth).Maintains (Talking pair opened) := by
  refine Prog.keeps_ite ?_ trivial
  refine Prog.Keeps.bind (talking_of_view (App.preserves_lift _)) (fun ids _ => ?_)
  cases ids with
  | nil => trivial
  | cons newOwner _ => exact keeps_setOwner existing.id newOwner

theorem keeps_leave (channelId : String) :
    (ChannelEdits.deleteChannel channelId auth).Maintains (Talking pair opened) := by
  refine Prog.Keeps.bind (talking_of_view (App.preserves_lift _)) (fun existing _ => ?_)
  refine Prog.keeps_ite ?_ ?_
  · refine Prog.Keeps.bind (talking_of_view (App.preserves_lift _)) (fun _ _ => ?_)
    refine (keeps_removeParticipant existing.id auth.userId).bind (fun _ _ => ?_)
    refine Prog.Keeps.bind (Q := fun _ => True) ?_ (fun _ _ => ?_)
    · refine Prog.Keeps.bind (talking_of_view (App.preserves_lift _)) (fun remaining _ => ?_)
      exact Prog.keeps_ite (keeps_dropChannel existing.id) (keeps_passOn existing)
    · refine talking_of_view (Prog.Preserves.bind ?_ (fun _ => Prog.preserves_pure _))
      refine (App.preserves_lift _).bind (fun ids => Prog.preserves_ite (Prog.preserves_pure _) ?_)
      refine (App.preserves_lift _).bind (fun row => ?_)
      exact (Spaces.preserves_channelRowToJsonPub row).bind
        (fun _ => Prog.preserves_modify (fun _ => rfl))
  · have hannounce : (ChannelEdits.announceDelete existing).Preserves rooms := by
      unfold ChannelEdits.announceDelete
      cases existing.spaceId with
      | none => exact Prog.preserves_pure _
      | some spaceId => exact Prog.preserves_modify (fun _ => rfl)
    refine Prog.Keeps.bind (talking_of_view (App.preserves_lift _)) (fun _ _ => ?_)
    refine (talking_of_view hannounce).bind (fun _ _ => ?_)
    exact (keeps_dropChannel existing.id).bind (fun _ _ => trivial)

end

section

variable {pair : Pair} {opened : List String} {s : AppState} {p : Party}

theorem findExistingDm_eq (u v : String) (db : Tables) :
    DmParticipants.findExistingDm u v db =
      .ok ((db.channels.find? (fun c =>
        db.isParticipant c.id u && db.isParticipant c.id v && c.channelType = "dm")).map
          (fun c => { c with allowAnonymousRead := false })) := rfl

inductive Opened (pair : Pair) (s : AppState) (p : Party) :
    Except AppError ChannelRow × AppState → Prop
  | found {c : ChannelRow} (hc : c ∈ s.db.channels) (hdm : c.channelType = "dm")
      (hboth : pair.both s.db c.id = true) :
      Opened pair s p (.ok { c with allowAnonymousRead := false }, s)
  | fresh {t : AppState}
      (hnone : ∀ c ∈ s.db.channels, c.channelType = "dm" → pair.both s.db c.id = false)
      (hdb : t.db = opening (toString s.snowflake) (pair.id p) (pair.id p.other) s.db)
      (hnext : t.snowflake = s.snowflake + 1) :
      Opened pair s p (.ok (newDm (toString s.snowflake) (pair.id p)), t)

theorem opened_of_allowed (h : Talking pair opened s) (hblocked : pair.blocked s.db p = false) :
    Opened pair s p ((openLocal (pair.auth p) [pair.id p.other]).exec s) := by
  rw [exec_openLocal_allowed (h.talks.users _) hblocked]
  have hfind := findExistingDm_eq (pair.id p) (pair.id p.other) s.db
  cases hrow : s.db.channels.find? (fun c => s.db.isParticipant c.id (pair.id p) &&
    s.db.isParticipant c.id (pair.id p.other) && c.channelType = "dm") with
  | some c =>
    rw [hrow] at hfind
    have hmatch := List.find?_some hrow
    simp only [Bool.and_eq_true, decide_eq_true_eq] at hmatch
    obtain ⟨⟨hseat, hother⟩, hdm⟩ := hmatch
    rw [exec_createDm_found hfind hseat]
    exact .found (List.mem_of_find?_eq_some hrow) hdm (both_of_party hseat hother)
  | none =>
    rw [hrow] at hfind
    rw [exec_createDm_new hfind (h.fresh _ (Nat.le_refl _)) (h.talks.users p) (h.talks.users p.other)]
    refine .fresh (fun c hc hdm => ?_) rfl rfl
    have hmiss := List.find?_eq_none.mp hrow c hc
    rw [Bool.eq_false_iff]
    intro hboth
    obtain ⟨hfirst, hsecond⟩ := both_iff.mp hboth
    apply hmiss
    cases p with
    | first => simp [Party.other, hfirst, hsecond, hdm]
    | second => simp [Party.other, hfirst, hsecond, hdm]

theorem Talks.note {db : Tables} (h : Talks pair opened db) {id : String} (hid : id ∈ opened) :
    Talks pair (id :: opened) db := by
  have hsub : ∀ x, x ∈ id :: opened → x ∈ opened := by
    intro x hx
    rcases List.mem_cons.mp hx with rfl | hx
    · exact hid
    · exact hx
  exact ⟨h.keys, h.placed, h.users, fun c hc hopened => h.ours c hc (hsub _ hopened),
    fun c hc hdm hboth => List.mem_cons_of_mem _ (h.known c hc hdm hboth),
    fun c hc c' hc' hboth hboth' hopened hopened' =>
      h.single c hc c' hc' hboth hboth' (hsub _ hopened) (hsub _ hopened')⟩

theorem Opened.talking {out : Except AppError ChannelRow × AppState} (h : Opened pair s p out)
    (hs : Talking pair opened s) : Talking pair (noted opened out.1) out.2 := by
  cases h with
  | @found c hc hdm hboth => exact ⟨hs.talks.note (hs.talks.known c hc hdm hboth), hs.fresh⟩
  | @fresh t hnone hdb hnext =>
    have hfree := hs.fresh _ (Nat.le_refl _)
    constructor
    · rw [hdb]
      exact hs.talks.open hnone hfree
    · intro n hn
      rw [hnext] at hn
      rw [hdb, hasChannel_opening, hs.fresh n (by omega), Bool.false_or, decide_eq_false_iff_not]
      intro heq
      have hsame := App.snowflake_injective heq
      omega

theorem talking_serve {s t : Talk} {req : DmRequest} (h : Talking pair s.opened s.app)
    (hstep : pair.serveOne s req = some t) : Talking pair t.opened t.app := by
  cases hstep
  cases req with
  | create p =>
    cases hblocked : pair.blocked s.app.db p with
    | true =>
      have hexec := exec_openLocal_blocked (h.talks.users p.other) hblocked
      simp only [Pair.serve, hexec]
      exact h
    | false => exact (opened_of_allowed h hblocked).talking h
  | leave p channelId => exact ((keeps_leave channelId).exec h).1

theorem both_of_undivided {s : Talk} {id : String}
    (h : s.opened.all (fun id => !s.app.db.hasChannel id || pair.both s.app.db id) = true)
    (hid : id ∈ s.opened) (hstored : s.app.db.hasChannel id = true) :
    pair.both s.app.db id = true := by
  have hone := List.all_eq_true.mp h id hid
  rw [hstored] at hone
  exact hone

theorem undivided_of_same {s : Talk} {row : ChannelRow} (hboth : pair.both s.app.db row.id = true)
    (h : ∀ id ∈ s.opened, s.app.db.hasChannel id = true → row.id = id) :
    s.opened.all (fun id => !s.app.db.hasChannel id || pair.both s.app.db id) = true := by
  rw [List.all_eq_true]
  intro id hid
  cases hstored : s.app.db.hasChannel id with
  | false => rfl
  | true =>
    rw [← h id hid hstored, hboth]
    rfl

theorem Opened.returns_iff {s : Talk} {out : Except AppError ChannelRow × AppState}
    (h : Opened pair s.app p out) (hs : Talking pair s.opened s.app) :
    pair.Returns s { app := out.2, opened := noted s.opened out.1, last := some out.1 } ↔
      s.opened.all (fun id => !s.app.db.hasChannel id || pair.both s.app.db id) = true := by
  cases h with
  | @found c hc hdm hboth =>
    have hopened := hs.talks.known c hc hdm hboth
    constructor
    · intro hreturns
      rcases hreturns _ rfl with ⟨herror, -⟩ | ⟨row, hrow, -, -, hsame⟩
      · cases herror
      · cases hrow
        exact undivided_of_same hboth hsame
    · intro hall result hresult
      cases hresult
      refine .inr ⟨_, rfl, hdm, fun u => ⟨(hs.talks.ours c hc hopened).2 u, ?_⟩,
        fun id hid hstored => ?_⟩
      · obtain ⟨hfirst, hsecond⟩ := both_iff.mp hboth
        rintro (rfl | rfl)
        · exact hfirst
        · exact hsecond
      · obtain ⟨c', hc', rfl⟩ := Lib.Table.has_iff.mp hstored
        exact hs.talks.single c hc c' hc' hboth (both_of_undivided hall hid hstored) hopened hid
  | @fresh t hnone hdb hnext =>
    have hfree := hs.fresh _ (Nat.le_refl _)
    constructor
    · intro hreturns
      rcases hreturns _ rfl with ⟨herror, -⟩ | ⟨row, hrow, -, -, hsame⟩
      · cases herror
      · cases hrow
        rw [List.all_eq_true]
        intro id hid
        cases hstored : s.app.db.hasChannel id with
        | false => rfl
        | true =>
          have heq : toString s.app.snowflake = id := hsame id hid hstored
          rw [heq, hstored] at hfree
          cases hfree
    · intro hall result hresult
      cases hresult
      refine .inr ⟨_, rfl, rfl, fun u => ?_, fun id hid hstored => ?_⟩
      · dsimp only
        rw [hdb]
        exact opening_self hs.talks hfree u
      · obtain ⟨c, hc, rfl⟩ := Lib.Table.has_iff.mp hstored
        have hboth := both_of_undivided hall hid hstored
        rw [hnone c hc (hs.talks.ours c hc hid).1] at hboth
        cases hboth

theorem returns_serve_iff {s t : Talk} {req : DmRequest} (h : Talking pair s.opened s.app)
    (hstep : pair.serveOne s req = some t) : pair.Returns s t ↔ pair.undivided s req = true := by
  cases hstep
  cases req with
  | create p =>
    rw [Pair.undivided]
    cases hblocked : pair.blocked s.app.db p with
    | true =>
      refine iff_of_true (fun result hresult => ?_) rfl
      have hexec := exec_openLocal_blocked (h.talks.users p.other) hblocked
      simp only [Pair.serve, hexec] at hresult
      cases hresult
      exact .inl ⟨rfl, p, hblocked⟩
    | false =>
      rw [Bool.false_or]
      exact (opened_of_allowed h hblocked).returns_iff h
  | leave p channelId =>
    refine iff_of_true (fun result hresult => ?_) rfl
    cases hresult

end

structure Strangers (pair : Pair) (s : AppState) : Prop where
  keys : Lib.Table.Distinct ChannelRow.id s.db.channels
  placed : ∀ p ∈ s.db.dmParticipants, s.db.hasChannel p.channelId = true
  users : ∀ p, s.db.hasUser (pair.id p) = true
  apart : ∀ c ∈ s.db.channels, c.channelType = "dm" → pair.both s.db c.id = false
  fresh : ∀ n, s.snowflake ≤ n → s.db.hasChannel (toString n) = false

theorem Strangers.talking {pair : Pair} {s : AppState} (h : Strangers pair s) :
    Talking pair [] s := by
  refine ⟨⟨h.keys, h.placed, h.users, ?_, ?_, ?_⟩, h.fresh⟩
  · intro c _ hopened
    cases hopened
  · intro c hc hdm hboth
    rw [h.apart c hc hdm] at hboth
    cases hboth
  · intro c _ c' _ _ _ hopened _
    cases hopened

theorem dm_identity_iff {pair : Pair} {s : AppState} (hstart : Strangers pair s)
    (reqs : List DmRequest) :
    Lib.Along pair.serveOne pair.Returns { app := s } reqs ↔
      Lib.meets pair.serveOne pair.undivided { app := s } reqs = true := by
  have hkeep : ∀ s req t, Talking pair s.opened s.app → pair.serveOne s req = some t →
      Talking pair t.opened t.app :=
    fun s req t h hstep => talking_serve h hstep
  have hstep : ∀ s req t, Talking pair s.opened s.app → pair.serveOne s req = some t →
      (pair.Returns s t ↔ pair.undivided s req = true) :=
    fun s req t h hstep => returns_serve_iff h hstep
  exact Lib.along_iff_meets hkeep hstep hstart.talking (Lib.runFrom_total pair.serve _ reqs)

def annAndBob : Pair :=
  { first := { userId := "1", isAdmin := false }
    second := { userId := "2", isAdmin := false }
    distinct := by decide }

def met : AppState :=
  { db := { users := [{ id := "1", username := "ann" }, { id := "2", username := "bob" }] }
    ext := .fixed ""
    snowflake := 20 }

theorem met_strangers : Strangers annAndBob met := by
  refine ⟨List.Pairwise.nil, fun p hp => absurd hp List.not_mem_nil, fun p => ?_,
    fun c hc => absurd hc List.not_mem_nil, fun _ _ => rfl⟩
  cases p <;> rfl

theorem parted_returns : Lib.Along annAndBob.serveOne annAndBob.Returns { app := met }
    [.create .first, .create .second, .leave .first "20", .leave .second "20", .create .second] :=
  (dm_identity_iff met_strangers _).mpr (by decide +kernel)

def reopened : List DmRequest := [.create .first, .leave .first "20", .create .first]

theorem reopened_splits :
    ¬ Lib.Along annAndBob.serveOne annAndBob.Returns { app := met } reopened := by
  intro h
  have hthird := ((h _ rfl).2 _ rfl).2 _ rfl
  have hids : (reopened.foldl annAndBob.serve { app := met }).last.map
      (fun result => result.toOption.map ChannelRow.id) = some (some "21") := by
    decide +kernel
  have hlast : ∃ result, (reopened.foldl annAndBob.serve { app := met }).last = some result ∧
      result.toOption.map ChannelRow.id = some "21" := by
    obtain ⟨result, hresult, hid⟩ := Option.map_eq_some_iff.mp hids
    exact ⟨result, hresult, hid⟩
  obtain ⟨result, hresult, hid⟩ := hlast
  rcases hthird.1 result hresult with ⟨rfl, -⟩ | ⟨row, rfl, -, -, hsame⟩
  · cases hid
  · have hold : row.id = "20" := hsame "20" (by decide +kernel) (by decide +kernel)
    have hnew : row.id = "21" := Option.some.inj hid
    rw [hold] at hnew
    exact absurd hnew (by decide)

end Vokusz.Routes.DirectMessages
