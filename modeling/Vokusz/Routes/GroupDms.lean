import Vokusz.Routes.AdminUsers
import Vokusz.Routes.Blocks

namespace Vokusz.Routes.GroupDms

open Db Permissions
open Db.DmParticipants (participantIds listParticipantIds addParticipant removeParticipant
  countParticipants setOwner)
open ChannelEdits (broadcastChannel leaveDm settleLeft passOn announceLeft announceDelete
  done)
open DirectMessages (CreateDmRequest requested remoteRecipient checkCount openLocal announce seat)
open Blocks (checkAddRecipient addRecipient)
open Lib (Prog)

def announceMembers (channelId : String) : App Json := do
  let updated ← Channels.getChannelRow channelId
  let json ← Spaces.channelRowToJsonPub updated
  let ids ← listParticipantIds channelId
  broadcastChannel none (some ids) "channel.update" json
  return .obj [("data", json)]

def checkRemoveRecipient (channelId userId : String) (auth : AuthUser) : Query ChannelRow := do
  let channel ← Channels.getChannelRow channelId
  Query.require (channel.channelType = "group_dm")
    (.badRequest "can only remove recipients from group DMs")
  requireDmAccess channelId auth.userId
  Query.require (userId = auth.userId ∨ channel.ownerId = some auth.userId)
    (.forbidden "only the group owner can remove members")
  return channel

def closeGroup (channelId : String) : App Json := do
  Channels.deleteChannel channelId
  let ids ← listParticipantIds channelId
  if ids ≠ [] then
    broadcastChannel none (some ids) "channel.delete" (.obj [("id", .str channelId)])
    return done
  else return done

def passOnFrom (channel : ChannelRow) (userId : String) : App Unit := do
  if channel.ownerId = some userId then
    let ids ← listParticipantIds channel.id
    match ids with
    | newOwner :: _ => setOwner channel.id newOwner
    | [] => return ()
  else return ()

def removeRecipient (channelId userId : String) (auth : AuthUser) : App Json := do
  let channel ← checkRemoveRecipient channelId userId auth
  removeParticipant channelId userId
  let remaining ← countParticipants channelId
  if remaining ≤ 1 then closeGroup channelId
  else
    passOnFrom channel userId
    announceMembers channelId

def createLocal (auth : AuthUser) (ids : List String) : App Json := do
  checkCount ids auth.userId
  let channel ← openLocal auth ids
  announce channel

inductive Stage where
  | channel
  | access (channel : ChannelRow)
  | target
  | count
  | insert
  | announce
  deriving DecidableEq, Repr

structure Adding where
  channelId : String
  userId : String
  auth : AuthUser
  stage : Stage := .channel

namespace Adding

variable (a : Adding)

def reaching (stage : Stage) : Adding := { a with stage }

def check : Query Stage :=
  match a.stage with
  | .channel => do
    let channel ← Channels.getChannelRow a.channelId
    Query.require (channel.channelType = "group_dm")
      (.badRequest "can only add recipients to group DMs")
    return .access channel
  | .access channel => do
    requireDmAccess a.channelId a.auth.userId
    Query.require (channel.ownerId = some a.auth.userId)
      (.forbidden "only the group owner can add members")
    return .target
  | .target => do
    let _ ← Users.getUser a.userId
    return .count
  | .count => do
    let count ← countParticipants a.channelId
    Query.require (count < 10) (.badRequest "group DMs cannot have more than 10 participants")
    return .insert
  | stage => return stage

def execute : App (Option Adding) :=
  match a.stage with
  | .insert => do
    addParticipant a.channelId a.userId
    return some (a.reaching .announce)
  | .announce => do
    let _ ← announceMembers a.channelId
    return none
  | _ => do
    let stage ← a.check
    return some (a.reaching stage)

def advance (s : AppState) : Option Adding × AppState :=
  match a.execute.exec s with
  | (.ok next, t) => (next, t)
  | (.error _, t) => (none, t)

end Adding

structure House where
  server : Auth.Server
  adding : List Adding := []

inductive Request where
  | create (auth : AuthUser) (ids : List String)
  | leave (channelId : String) (auth : AuthUser)
  | removeRecipient (channelId userId : String) (auth : AuthUser)
  | addRecipient (channelId userId : String) (auth : AuthUser)
  | advance (k : Nat)
  | deleteAccount (userId : String)

namespace House

variable (h : House)

abbrev db : Tables := h.server.app.db

def withApp (s : AppState) : House := { h with server := { h.server with app := s } }

def after {α : Type} (p : App α) : House := h.withApp (p.exec h.server.app).2

def served : Request → House
  | .create auth ids => h.after (createLocal auth ids)
  | .leave channelId auth => h.after (ChannelEdits.deleteChannel channelId auth)
  | .removeRecipient channelId userId auth =>
    h.after (GroupDms.removeRecipient channelId userId auth)
  | .addRecipient channelId userId auth =>
    { h with adding := h.adding ++ [{ channelId, userId, auth }] }
  | .advance k =>
    match h.adding[k]? with
    | none => h
    | some a =>
      let out := a.advance h.server.app
      { h.withApp out.2 with
        adding := match out.1 with
          | some next => h.adding.set k next
          | none => h.adding.eraseIdx k }
  | .deleteAccount userId =>
    { h with server := ((Auth.deleteAccount userId).exec h.server).2 }

def step (r : Request) : Option House := some (h.served r)

end House

def Headed (db : Tables) (c : ChannelRow) : Prop :=
  c.channelType = "group_dm" → participantIds db c.id ≠ [] →
    (∃ owner ∈ c.ownerId, owner ∈ participantIds db c.id) ∧
      (participantIds db c.id).length ≤ 10

def Led (db : Tables) : Prop := ∀ c ∈ db.channels, Headed db c

structure Keyed (db : Tables) : Prop where
  channels : Lib.Table.Distinct ChannelRow.id db.channels
  users : ∀ p ∈ db.dmParticipants, db.hasUser p.userId = true
  placed : ∀ p ∈ db.dmParticipants, db.hasChannel p.channelId = true

def seatsRight (channelId userId : String) (db : Tables) : Bool :=
  db.isParticipant channelId userId || !(db.hasChannel channelId && db.hasUser userId) ||
    db.channels.all (fun c => c.id ≠ channelId || c.channelType ≠ "group_dm" ||
      (if participantIds db channelId = [] then decide (c.ownerId = some userId)
        else decide ((participantIds db channelId).length < 10)))

def deletesRight (userId : String) (db : Tables) : Bool :=
  db.spaces.any (fun sp => sp.ownerId = userId) ||
    db.channels.all (fun c => c.channelType ≠ "group_dm" || c.ownerId ≠ some userId ||
      (participantIds db c.id).all (fun id => id = userId))

def keepsLed (h : House) : Request → Bool
  | .advance k =>
    (h.adding[k]?).all (fun a => a.stage ≠ .insert || seatsRight a.channelId a.userId h.db)
  | .deleteAccount userId => deletesRight userId h.db
  | _ => true

section

variable {db db' : Tables} {channelId userId : String} {c : ChannelRow}

theorem mem_participantIds : userId ∈ participantIds db channelId ↔
    db.isParticipant channelId userId = true := by
  simp only [participantIds, Tables.isParticipant, List.mem_map, List.mem_filter, List.any_eq_true,
    decide_eq_true_eq, Bool.and_eq_true, and_assoc]

theorem seat_old (h : db.isParticipant channelId userId = true) :
    seat channelId userId db = db := by
  have hhas : Lib.Table.has (fun p : DmParticipant => (p.channelId, p.userId)) (channelId, userId)
      db.dmParticipants = true :=
    Lib.Table.has_iff.mpr ⟨_, DirectMessages.isParticipant_iff.mp h, rfl⟩
  rw [seat, Lib.Table.insertNew_of_has hhas]

theorem seat_new (h : db.isParticipant channelId userId = false) :
    (seat channelId userId db).dmParticipants = db.dmParticipants ++ [⟨channelId, userId⟩] := by
  have hnot : Lib.Table.has (fun p : DmParticipant => (p.channelId, p.userId)) (channelId, userId)
      db.dmParticipants = false := by
    rw [Bool.eq_false_iff] at h ⊢
    intro hhas
    obtain ⟨p, hp, hkey⟩ := Lib.Table.has_iff.mp hhas
    cases hkey
    exact h (DirectMessages.isParticipant_iff.mpr hp)
  rw [seat, Lib.Table.insertNew, hnot, if_neg Bool.false_ne_true]

theorem participantIds_seat (h : db.isParticipant channelId userId = false) (id : String) :
    participantIds (seat channelId userId db) id =
      participantIds db id ++ (if channelId = id then [userId] else []) := by
  rw [participantIds, seat_new h, List.filter_append, List.map_append, participantIds]
  by_cases hid : channelId = id
  · rw [if_pos hid, List.filter_cons_of_pos (by simpa using hid), List.filter_nil]
    rfl
  · rw [if_neg hid, List.filter_cons_of_neg (by simpa using hid), List.filter_nil]
    rfl

theorem Keyed.seat (h : Keyed db) (hchannel : db.hasChannel channelId = true)
    (huser : db.hasUser userId = true) : Keyed (seat channelId userId db) := by
  cases hin : db.isParticipant channelId userId with
  | true =>
    rw [seat_old hin]
    exact h
  | false =>
    refine ⟨h.channels, fun p hp => ?_, fun p hp => ?_⟩
    · rw [seat_new hin] at hp
      rcases List.mem_append.mp hp with hold | hnew
      · exact h.users p hold
      · rw [List.mem_singleton.mp hnew]
        exact huser
    · rw [seat_new hin] at hp
      rcases List.mem_append.mp hp with hold | hnew
      · exact h.placed p hold
      · rw [List.mem_singleton.mp hnew]
        exact hchannel

theorem headed_same (hids : participantIds db' c.id = participantIds db c.id) :
    Headed db' c ↔ Headed db c := by
  rw [Headed, Headed, hids]

theorem led_seat_iff (h : Led db) (hchannel : db.hasChannel channelId = true)
    (huser : db.hasUser userId = true) :
    Led (seat channelId userId db) ↔ seatsRight channelId userId db = true := by
  cases hin : db.isParticipant channelId userId with
  | true =>
    rw [seat_old hin, seatsRight, hin]
    exact iff_of_true h rfl
  | false =>
    have hids := participantIds_seat hin
    have hright : seatsRight channelId userId db = true ↔ ∀ c ∈ db.channels, c.id = channelId →
        c.channelType = "group_dm" → (participantIds db channelId = [] → c.ownerId = some userId) ∧
          (participantIds db channelId ≠ [] → (participantIds db channelId).length < 10) := by
      rw [seatsRight, hin, hchannel, huser]
      simp only [Bool.false_or, Bool.and_self, Bool.not_true, List.all_eq_true]
      refine forall₂_congr fun c _ => ?_
      by_cases hempty : participantIds db channelId = []
      · simp [hempty, or_iff_not_imp_left]
      · simp [hempty, or_iff_not_imp_left]
    rw [hright]
    refine forall₂_congr fun c hc => ?_
    by_cases hid : channelId = c.id
    · have hgrown := hids c.id
      rw [if_pos hid] at hgrown
      subst hid
      rw [Headed, hgrown, List.length_append, List.length_singleton]
      constructor
      · intro hhead _ hgroup
        obtain ⟨⟨owner, howner, hmem⟩, hlength⟩ := hhead hgroup (by simp)
        refine ⟨fun hempty => ?_, fun _ => by omega⟩
        rw [hempty, List.nil_append, List.mem_singleton] at hmem
        rwa [← hmem]
      · intro hright hgroup _
        obtain ⟨hfirst, hmore⟩ := hright rfl hgroup
        by_cases hempty : participantIds db c.id = []
        · rw [hempty]
          exact ⟨⟨userId, hfirst hempty, List.mem_singleton_self _⟩, by decide⟩
        · obtain ⟨⟨owner, howner, hmem⟩, _⟩ := h c hc hgroup hempty
          have hfew := hmore hempty
          exact ⟨⟨owner, howner, List.mem_append_left _ hmem⟩, by omega⟩
    · have hsame := hids c.id
      rw [if_neg hid, List.append_nil] at hsame
      rw [headed_same hsame]
      exact iff_of_true (h c hc) (fun heq => absurd heq.symm hid)

def unseat (channelId userId : String) (db : Tables) : Tables :=
  { db with
    dmParticipants := db.dmParticipants.filter
      (fun p => !(p.channelId = channelId && p.userId = userId)) }

def owned (channelId ownerId : String) (db : Tables) : Tables :=
  { db with
    channels := Lib.Table.update ChannelRow.id channelId
      (fun c => { c with ownerId := some ownerId }) db.channels }

theorem mem_participantIds_unseat {id u : String} :
    u ∈ participantIds (unseat channelId userId db) id ↔
      u ∈ participantIds db id ∧ ¬ (id = channelId ∧ u = userId) := by
  simp only [mem_participantIds, DirectMessages.isParticipant_iff, unseat, List.mem_filter,
    Bool.not_eq_true', Bool.and_eq_false_iff, decide_eq_false_iff_not, not_and_or]

theorem participantIds_unseat_ne {id : String} (hid : id ≠ channelId) :
    participantIds (unseat channelId userId db) id = participantIds db id := by
  rw [participantIds, participantIds, unseat, List.filter_filter]
  refine congrArg (List.map DmParticipant.userId) (List.filter_congr (fun p _ => ?_))
  by_cases hp : p.channelId = id
  · have hother : p.channelId ≠ channelId := fun heq => hid (hp.symm.trans heq)
    simp [hp, hid]
  · simp [hp]

theorem length_unseat_le (id : String) :
    (participantIds (unseat channelId userId db) id).length ≤ (participantIds db id).length := by
  rw [participantIds, participantIds, List.length_map, List.length_map]
  exact (List.filter_sublist.filter _).length_le

theorem Keyed.unseat (h : Keyed db) : Keyed (unseat channelId userId db) :=
  ⟨h.channels, fun p hp => h.users p (List.mem_of_mem_filter hp),
    fun p hp => h.placed p (List.mem_of_mem_filter hp)⟩

theorem Keyed.owned (h : Keyed db) (ownerId : String) : Keyed (owned channelId ownerId db) := by
  refine ⟨h.channels.update (fun _ _ => rfl), h.users, fun p hp => ?_⟩
  have hids : (GroupDms.owned channelId ownerId db).channels.map ChannelRow.id =
      db.channels.map ChannelRow.id := Lib.Table.map_key_update (fun _ _ => rfl)
  have hold := h.placed p hp
  rw [Tables.hasChannel, Lib.Table.has_eq_contains] at hold ⊢
  rwa [hids]

theorem led_of (h : Led db) (hsame : ∀ c' ∈ db'.channels, ∃ c ∈ db.channels, c'.id = c.id ∧
    c'.channelType = c.channelType ∧ c'.ownerId = c.ownerId ∧
      participantIds db' c.id = participantIds db c.id) : Led db' := by
  intro c' hc' hgroup
  obtain ⟨c, hc, hid, htype, howner, hids⟩ := hsame c' hc'
  rw [hid, hids, howner]
  exact h c hc (htype ▸ hgroup)

theorem led_unseat (h : Led db) (hleft : ∀ c ∈ db.channels, c.id = channelId →
    c.channelType = "group_dm" → c.ownerId ≠ some userId) : Led (unseat channelId userId db) := by
  intro c hc hgroup hne
  by_cases hid : c.id = channelId
  · have hsome : participantIds db c.id ≠ [] := by
      intro hempty
      have hle := @length_unseat_le db channelId userId c.id
      rw [hempty, List.length_nil] at hle
      exact hne (List.length_eq_zero_iff.mp (by omega))
    obtain ⟨⟨owner, howner, hmem⟩, hlength⟩ := h c hc hgroup hsome
    refine ⟨⟨owner, howner, mem_participantIds_unseat.mpr ⟨hmem, fun hgone => ?_⟩⟩,
      (length_unseat_le c.id).trans hlength⟩
    rw [hgone.2] at howner
    exact hleft c hc hid hgroup howner
  · have hsame := @participantIds_unseat_ne db channelId userId c.id hid
    rw [hsame] at hne ⊢
    exact h c hc hgroup hne

theorem led_owned (h : Led db) {newOwner : String}
    (hnew : newOwner ∈ participantIds (unseat channelId userId db) channelId) :
    Led (owned channelId newOwner (unseat channelId userId db)) := by
  intro c' hc' hgroup hne
  obtain ⟨c, hc, rfl⟩ := List.mem_map.mp hc'
  have hids : ∀ id, participantIds (owned channelId newOwner (unseat channelId userId db)) id =
      participantIds (unseat channelId userId db) id := fun _ => rfl
  by_cases hid : c.id = channelId
  · rw [if_pos hid] at hgroup hne ⊢
    have hsome : participantIds db c.id ≠ [] := by
      rw [← hid] at hnew
      exact List.ne_nil_of_mem (mem_participantIds_unseat.mp hnew).1
    obtain ⟨_, hlength⟩ := h c hc hgroup hsome
    refine ⟨⟨newOwner, rfl, ?_⟩, (length_unseat_le c.id).trans hlength⟩
    rw [hids]
    rwa [← hid] at hnew ⊢
  · rw [if_neg hid] at hgroup hne ⊢
    have hsame := @participantIds_unseat_ne db channelId userId c.id hid
    rw [hids, hsame] at hne ⊢
    exact h c hc hgroup hne

structure Sound (db : Tables) : Prop where
  keyed : Keyed db
  led : Led db

theorem sound_dropped (hkeyed : Keyed db) (h : Led db') (hchannels : db.channels = db'.channels)
    (hids : ∀ id, id ≠ channelId → participantIds db id = participantIds db' id) (s : AppState) :
    Sound ((Channels.deleteChannel channelId).exec (s.withDb db)).2.db := by
  let kept (c : ChannelRow) : ChannelRow :=
    if c.parentId = some channelId then { c with parentId := none } else c
  have hkept : ∀ c, (kept c).id = c.id ∧ (kept c).channelType = c.channelType ∧
      (kept c).ownerId = c.ownerId := by
    intro c
    dsimp only [kept]
    split <;> exact ⟨rfl, rfl, rfl⟩
  have hrows : ((Channels.deleteChannel channelId).exec (s.withDb db)).2.db.channels =
      (Lib.Table.delete ChannelRow.id channelId db.channels).map kept := rfl
  have hseats : ((Channels.deleteChannel channelId).exec (s.withDb db)).2.db.dmParticipants =
      db.dmParticipants.filter (fun p => p.channelId ≠ channelId) := rfl
  have husers : ((Channels.deleteChannel channelId).exec (s.withDb db)).2.db.users = db.users := rfl
  generalize ((Channels.deleteChannel channelId).exec (s.withDb db)).2.db = dropped at *
  constructor
  · refine ⟨?_, fun p hp => ?_, fun p hp => ?_⟩
    · rw [hrows]
      refine List.pairwise_map.mpr ?_
      refine (Lib.Table.Distinct.delete hkeyed.channels channelId).imp (fun {c d} hne heq => hne ?_)
      rwa [(hkept c).1, (hkept d).1] at heq
    · rw [hseats] at hp
      rw [Tables.hasUser, husers]
      exact hkeyed.users p (List.mem_of_mem_filter hp)
    · rw [hseats] at hp
      obtain ⟨hold, hother⟩ := List.mem_filter.mp hp
      obtain ⟨c, hc, hid⟩ := Lib.Table.has_iff.mp (hkeyed.placed p hold)
      have hne : c.id ≠ channelId := by
        rw [hid]
        exact of_decide_eq_true hother
      refine Lib.Table.has_iff.mpr ⟨kept c, ?_, (hkept c).1.trans hid⟩
      rw [hrows]
      exact List.mem_map_of_mem (Lib.Table.mem_delete.mpr ⟨hc, hne⟩)
  · refine led_of h (fun c' hc' => ?_)
    rw [hrows] at hc'
    obtain ⟨c, hc, rfl⟩ := List.mem_map.mp hc'
    obtain ⟨hold, hne⟩ := Lib.Table.mem_delete.mp hc
    rw [hchannels] at hold
    refine ⟨c, hold, (hkept c).1, (hkept c).2.1, (hkept c).2.2, ?_⟩
    rw [← hids c.id hne, participantIds, participantIds, hseats, List.filter_filter]
    refine congrArg (List.map DmParticipant.userId) (List.filter_congr (fun p _ => ?_))
    by_cases hp : p.channelId = c.id
    · simp [hp, hne]
    · simp [hp]

end

section

variable {α β : Type} {s : AppState} {auth : AuthUser}

theorem after_read {J : Tables → Prop} {q : Query β} {f : β → App α} (h : J s.db)
    (hf : ∀ b, q s.db = .ok b → J ((f b).exec s).2.db) :
    J (((MonadLiftT.monadLift q : App β) >>= f).exec s).2.db := by
  have hcases : (((MonadLiftT.monadLift q : App β) >>= f).exec s).2 = s ∨
      ∃ b, q s.db = .ok b ∧
        ((MonadLiftT.monadLift q : App β) >>= f).exec s = (f b).exec s :=
    App.exec_checked q f s
  rcases hcases with hrefused | ⟨b, hb, hexec⟩
  · rw [hrefused]
    exact h
  · rw [hexec]
    exact hf b hb

theorem after_require {J : Tables → Prop} {c : Prop} [Decidable c] {e : AppError}
    {f : Unit → App α} (h : J s.db) (hf : J ((f ()).exec s).2.db) :
    J (((Prog.require c e : App Unit) >>= f).exec s).2.db := by
  rw [Prog.exec_bind, Prog.exec_require]
  by_cases hc : c
  · rw [if_pos hc]
    exact hf
  · rw [if_neg hc]
    exact h

theorem announced_still (row : ChannelRow) (send : Json → App α)
    (h : ∀ json, (send json).Preserves AppState.db) :
    (Spaces.channelRowToJsonPub row >>= send).Preserves AppState.db :=
  (Spaces.preserves_channelRowToJsonPub row).bind h

theorem sent_still (targets : Option (List String)) (eventType : String) (json : Json) :
    (broadcastChannel none targets eventType json).Preserves AppState.db :=
  Prog.preserves_modify (fun _ => rfl)

theorem announceLeft_still (channelId : String) :
    (announceLeft channelId).Preserves AppState.db := by
  refine (App.preserves_lift _).bind (fun ids => ?_)
  split
  · exact Prog.preserves_pure _
  · exact (App.preserves_lift _).bind (fun _ => announced_still _ _ (fun _ => sent_still _ _ _))

theorem announceMembers_still (channelId : String) :
    (announceMembers channelId).Preserves AppState.db :=
  (App.preserves_lift _).bind (fun _ => announced_still _ _ (fun _ =>
    (App.preserves_lift _).bind (fun _ => (sent_still _ _ _).bind (fun _ =>
      Prog.preserves_pure _))))

theorem announce_still (channel : ChannelRow) : (announce channel).Preserves AppState.db :=
  announced_still _ _ (fun _ => (App.preserves_lift _).bind (fun _ =>
    (sent_still _ _ _).bind (fun _ => Prog.preserves_pure _)))

theorem exec_removeParticipant (channelId userId : String) :
    (removeParticipant channelId userId).exec s =
      (.ok (), s.withDb (unseat channelId userId s.db)) :=
  App.exec_update _

theorem sound_dropped_unseat {channelId userId : String} (h : Sound s.db) :
    Sound ((Channels.deleteChannel channelId).exec
      (s.withDb (unseat channelId userId s.db))).2.db :=
  sound_dropped h.keyed.unseat h.led rfl (fun _ hid => participantIds_unseat_ne hid) s

theorem sound_unseat {row : ChannelRow} {userId : String} (h : Sound s.db)
    (hrow : row ∈ s.db.channels)
    (hleft : row.channelType = "group_dm" → row.ownerId ≠ some userId) :
    Sound (unseat row.id userId s.db) := by
  refine ⟨h.keyed.unseat, led_unseat h.led (fun c hc hid hgroup => ?_)⟩
  have hsame : c = row := h.keyed.channels.same hc hrow hid
  rw [hsame] at hgroup ⊢
  exact hleft hgroup

theorem sound_setOwner {channelId userId newOwner : String} (h : Sound s.db)
    (hnew : newOwner ∈ participantIds (unseat channelId userId s.db) channelId) :
    Sound ((setOwner channelId newOwner).exec
      (s.withDb (unseat channelId userId s.db))).2.db := by
  have hseat : ⟨channelId, newOwner⟩ ∈ s.db.dmParticipants :=
    DirectMessages.isParticipant_iff.mp
      (mem_participantIds.mp (mem_participantIds_unseat.mp hnew).1)
  have huser : (unseat channelId userId s.db).hasUser newOwner = true := h.keyed.users _ hseat
  have hexec : ((setOwner channelId newOwner).exec
      (s.withDb (unseat channelId userId s.db))).2.db =
      owned channelId newOwner (unseat channelId userId s.db) := by
    rw [setOwner, App.exec_write]
    dsimp only [AppState.withDb]
    rw [huser]
    rfl
  rw [hexec]
  exact ⟨h.keyed.unseat.owned newOwner, led_owned h.led hnew⟩

theorem sound_settleLeft {row : ChannelRow} (h : Sound s.db) (hrow : row ∈ s.db.channels) :
    Sound ((settleLeft row auth).exec (s.withDb (unseat row.id auth.userId s.db))).2.db := by
  have hcount : (MonadLiftT.monadLift (countParticipants row.id) : App Nat).exec
      (s.withDb (unseat row.id auth.userId s.db)) =
      (.ok (participantIds (unseat row.id auth.userId s.db) row.id).length,
        s.withDb (unseat row.id auth.userId s.db)) := rfl
  have hids : (MonadLiftT.monadLift (listParticipantIds row.id) : App (List String)).exec
      (s.withDb (unseat row.id auth.userId s.db)) =
      (.ok (participantIds (unseat row.id auth.userId s.db) row.id),
        s.withDb (unseat row.id auth.userId s.db)) := rfl
  rw [settleLeft, Prog.exec_bind_of_ok hcount]
  split
  · exact sound_dropped_unseat h
  · rename_i hsome
    rw [passOn]
    split
    · rw [Prog.exec_bind_of_ok hids]
      cases hleft : participantIds (unseat row.id auth.userId s.db) row.id with
      | nil =>
        rw [hleft] at hsome
        exact absurd rfl hsome
      | cons newOwner rest =>
        refine sound_setOwner h ?_
        rw [hleft]
        exact List.mem_cons_self
    · rename_i hother
      exact sound_unseat h hrow (fun hgroup howner => hother ⟨hgroup, howner⟩)

theorem exec_announceDelete (existing : ChannelRow) (s : AppState) :
    ∃ t, t.db = s.db ∧ (announceDelete existing).exec s = (.ok (), t) := by
  rw [announceDelete]
  cases existing.spaceId with
  | none => exact ⟨s, rfl, rfl⟩
  | some spaceId =>
    refine ⟨_, ?_, App.exec_send _⟩
    rfl

theorem sound_leave {channelId : String} (h : Sound s.db) :
    Sound ((ChannelEdits.deleteChannel channelId auth).exec s).2.db := by
  refine after_read h (fun existing hexisting => ?_)
  obtain ⟨hrow, -⟩ := Channels.getChannelRow_ok hexisting
  split
  · refine after_read h (fun _ _ => ?_)
    rw [Prog.exec_bind_of_ok (exec_removeParticipant existing.id auth.userId)]
    have hrest : ∀ u : Unit, (do
        announceLeft existing.id
        return done : App Json).Preserves AppState.db :=
      fun _ => (announceLeft_still existing.id).bind (fun _ => Prog.preserves_pure _)
    rw [App.exec_bind_db hrest]
    exact sound_settleLeft h hrow
  · refine after_read h (fun _ _ => ?_)
    obtain ⟨t, hdb, hexec⟩ := exec_announceDelete existing s
    rw [Prog.exec_bind_of_ok hexec, App.exec_bind_db (fun _ => Prog.preserves_pure _)]
    rw [← hdb] at h
    exact sound_dropped h.keyed h.led rfl (fun _ _ => rfl) t

theorem checkRemoveRecipient_ok {channelId userId : String} {db : Tables} {row : ChannelRow}
    (h : checkRemoveRecipient channelId userId auth db = .ok row) :
    row ∈ db.channels ∧ row.id = channelId := by
  obtain ⟨found, hfound, h⟩ := (Query.bind_ok db).mp h
  obtain ⟨_, _, h⟩ := (Query.bind_ok db).mp h
  obtain ⟨_, _, h⟩ := (Query.bind_ok db).mp h
  obtain ⟨_, _, h⟩ := (Query.bind_ok db).mp h
  cases h
  exact Channels.getChannelRow_ok hfound

theorem sound_passOnFrom {row : ChannelRow} {userId : String} (h : Sound s.db)
    (hrow : row ∈ s.db.channels)
    (hsome : participantIds (unseat row.id userId s.db) row.id ≠ []) :
    Sound ((passOnFrom row userId).exec (s.withDb (unseat row.id userId s.db))).2.db := by
  have hids : (MonadLiftT.monadLift (listParticipantIds row.id) : App (List String)).exec
      (s.withDb (unseat row.id userId s.db)) =
      (.ok (participantIds (unseat row.id userId s.db) row.id),
        s.withDb (unseat row.id userId s.db)) := rfl
  rw [passOnFrom]
  split
  · rw [Prog.exec_bind_of_ok hids]
    cases hleft : participantIds (unseat row.id userId s.db) row.id with
    | nil => exact absurd hleft hsome
    | cons newOwner rest =>
      refine sound_setOwner h ?_
      rw [hleft]
      exact List.mem_cons_self
  · rename_i hother
    exact sound_unseat h hrow (fun _ howner => hother howner)

theorem sound_removeRecipient {channelId userId : String} (h : Sound s.db) :
    Sound ((removeRecipient channelId userId auth).exec s).2.db := by
  refine after_read h (fun channel hchannel => ?_)
  obtain ⟨hrow, rfl⟩ := checkRemoveRecipient_ok hchannel
  have hcount : (MonadLiftT.monadLift (countParticipants channel.id) : App Nat).exec
      (s.withDb (unseat channel.id userId s.db)) =
      (.ok (participantIds (unseat channel.id userId s.db) channel.id).length,
        s.withDb (unseat channel.id userId s.db)) := rfl
  rw [Prog.exec_bind_of_ok (exec_removeParticipant channel.id userId),
    Prog.exec_bind_of_ok hcount]
  split
  · have hrest : ∀ _ : Unit, (do
        let ids ← listParticipantIds channel.id
        if ids ≠ [] then
          broadcastChannel none (some ids) "channel.delete" (.obj [("id", .str channel.id)])
          return done
        else return done : App Json).Preserves AppState.db := by
      intro _
      refine (App.preserves_lift _).bind (fun ids => ?_)
      exact Prog.preserves_ite ((sent_still _ _ _).bind (fun _ => Prog.preserves_pure _))
        (Prog.preserves_pure _)
    rw [closeGroup, App.exec_bind_db hrest]
    exact sound_dropped_unseat h
  · rename_i hmany
    rw [App.exec_bind_db (fun _ => announceMembers_still channel.id)]
    refine sound_passOnFrom h hrow (fun hempty => hmany ?_)
    rw [hempty]
    exact Nat.zero_le 1

theorem exec_addParticipant_cases (channelId userId : String) (s : AppState) :
    ((s.db.isParticipant channelId userId ||
        (s.db.hasChannel channelId && s.db.hasUser userId)) = true ∧
      (addParticipant channelId userId).exec s = (.ok (), s.withDb (seat channelId userId s.db))) ∨
    ((s.db.isParticipant channelId userId ||
        (s.db.hasChannel channelId && s.db.hasUser userId)) = false ∧
      ∃ e, (addParticipant channelId userId).exec s = (.error e, s)) := by
  rw [addParticipant, App.exec_write]
  cases hallowed : s.db.isParticipant channelId userId ||
      (s.db.hasChannel channelId && s.db.hasUser userId) with
  | true => exact .inl ⟨rfl, rfl⟩
  | false => exact .inr ⟨rfl, _, rfl⟩

theorem keyed_addable {db : Tables} {channelId userId : String} (h : Keyed db)
    (hallowed : (db.isParticipant channelId userId ||
      (db.hasChannel channelId && db.hasUser userId)) = true) :
    db.hasChannel channelId = true ∧ db.hasUser userId = true := by
  rcases Bool.or_eq_true_iff.mp hallowed with hseat | hboth
  · have hmem := DirectMessages.isParticipant_iff.mp hseat
    exact ⟨h.placed _ hmem, h.users _ hmem⟩
  · exact Bool.and_eq_true_iff.mp hboth

structure Filled (id owner : String) (count : Nat) (db : Tables) : Prop where
  sound : Sound db
  seated : owner ∈ participantIds db id
  few : (participantIds db id).length ≤ count

theorem length_seat_le {db : Tables} {channelId userId : String} (id : String) :
    (participantIds (seat channelId userId db) id).length ≤ (participantIds db id).length + 1 := by
  cases hin : db.isParticipant channelId userId with
  | true =>
    rw [seat_old hin]
    omega
  | false =>
    rw [participantIds_seat hin, List.length_append]
    split
    · exact le_rfl
    · exact Nat.le_succ _

theorem Filled.seat {db : Tables} {id owner userId : String} {count : Nat}
    (h : Filled id owner count db) (hcount : count < 10)
    (hallowed : (db.isParticipant id userId ||
      (db.hasChannel id && db.hasUser userId)) = true) :
    Filled id owner (count + 1) (seat id userId db) := by
  obtain ⟨hchannel, huser⟩ := keyed_addable h.sound.keyed hallowed
  have hlength := @length_seat_le db id userId id
  have hfew := h.few
  refine ⟨⟨h.sound.keyed.seat hchannel huser, (led_seat_iff h.sound.led hchannel huser).mpr ?_⟩,
    ?_, by omega⟩
  · have hsome : participantIds db id ≠ [] := List.ne_nil_of_mem h.seated
    rw [seatsRight, Bool.or_eq_true_iff]
    right
    refine List.all_eq_true.mpr (fun c _ => ?_)
    rw [if_neg hsome, decide_eq_true (show (participantIds db id).length < 10 by omega),
      Bool.or_true]
  · have hold := mem_participantIds.mp h.seated
    exact mem_participantIds.mpr (DirectMessages.isParticipant_seat.mpr (.inl hold))

theorem Filled.rest {id owner : String} {ids : List String} {count : Nat}
    {rest : Unit → App α} (hrest : ∀ u, (rest u).Preserves AppState.db)
    (h : Filled id owner count s.db) (hcount : count + ids.length ≤ 10) :
    Sound ((Prog.forEach ids (fun rid => addParticipant id rid) >>= rest).exec s).2.db := by
  rw [App.exec_bind_db hrest]
  induction ids generalizing s count with
  | nil => exact h.sound
  | cons rid ids ih =>
    rw [List.length_cons] at hcount
    rcases exec_addParticipant_cases id rid s with ⟨hallowed, hexec⟩ | ⟨-, e, hexec⟩
    · rw [Prog.forEach_cons, Prog.exec_bind_of_ok hexec]
      exact ih (h.seat (by omega) hallowed) (by omega)
    · rw [Prog.forEach_cons, Prog.exec_bind_of_error hexec]
      exact h.sound

def opened (row : ChannelRow) (db : Tables) : Tables := { db with channels := db.channels ++ [row] }

theorem participantIds_fresh {db : Tables} {id : String} (h : Keyed db)
    (hfresh : db.hasChannel id = false) : participantIds db id = [] := by
  refine List.eq_nil_iff_forall_not_mem.mpr (fun u hu => ?_)
  have hplaced := h.placed _ (DirectMessages.isParticipant_iff.mp (mem_participantIds.mp hu))
  rw [hfresh] at hplaced
  cases hplaced

theorem Sound.opened {db : Tables} {row : ChannelRow} (h : Sound db)
    (hfresh : db.hasChannel row.id = false) : Sound (opened row db) := by
  refine ⟨⟨h.keyed.channels.insert hfresh, h.keyed.users, fun p hp => ?_⟩, ?_⟩
  · obtain ⟨c, hc, hid⟩ := Lib.Table.has_iff.mp (h.keyed.placed p hp)
    exact Lib.Table.has_iff.mpr ⟨c, List.mem_append_left _ hc, hid⟩
  · intro c hc hgroup hne
    rcases List.mem_append.mp hc with hold | hnew
    · exact h.led c hold hgroup hne
    · rw [List.mem_singleton.mp hnew] at hne
      exact absurd (participantIds_fresh h.keyed hfresh) hne

theorem filled_first {db : Tables} {row : ChannelRow} {owner : String} (h : Sound db)
    (hfresh : db.hasChannel row.id = false) (howner : row.ownerId = some owner)
    (huser : db.hasUser owner = true) :
    Filled row.id owner 1 (seat row.id owner (opened row db)) := by
  have hsound := h.opened hfresh
  have hempty : participantIds (opened row db) row.id = [] :=
    @participantIds_fresh db _ h.keyed hfresh
  have hchannel : (opened row db).hasChannel row.id = true :=
    Lib.Table.has_iff.mpr ⟨row, List.mem_append_right _ (List.mem_singleton_self _), rfl⟩
  have hlength := @length_seat_le (opened row db) row.id owner row.id
  rw [hempty] at hlength
  refine ⟨⟨hsound.keyed.seat hchannel huser, (led_seat_iff hsound.led hchannel huser).mpr ?_⟩,
    ?_, hlength⟩
  · rw [seatsRight, Bool.or_eq_true_iff]
    right
    refine List.all_eq_true.mpr (fun c hc => ?_)
    rw [if_pos hempty]
    rcases List.mem_append.mp hc with hold | hnew
    · have hne : c.id ≠ row.id := by
        intro heq
        have hused : db.hasChannel row.id = true := Lib.Table.has_iff.mpr ⟨c, hold, heq⟩
        rw [hfresh] at hused
        cases hused
      rw [decide_eq_true hne, Bool.true_or, Bool.true_or]
    · rw [List.mem_singleton.mp hnew, decide_eq_true howner, Bool.or_true]
  · exact mem_participantIds.mpr (DirectMessages.isParticipant_seat.mpr (.inr ⟨rfl, rfl⟩))

theorem exec_insertDmChannel_cases (id channelType ownerId : String) (s : AppState) :
    (s.db.hasChannel id = false ∧ s.db.hasUser ownerId = true ∧
      (DmParticipants.insertDmChannel id channelType ownerId).exec s =
        (.ok (), s.withDb (opened { id, channelType, ownerId := some ownerId } s.db))) ∨
    ∃ e, (DmParticipants.insertDmChannel id channelType ownerId).exec s = (.error e, s) := by
  rw [DmParticipants.insertDmChannel, App.exec_write]
  cases hused : s.db.hasChannel id with
  | true => exact .inr ⟨_, rfl⟩
  | false =>
    cases huser : s.db.hasUser ownerId with
    | true => exact .inl ⟨rfl, rfl, rfl⟩
    | false => exact .inr ⟨_, rfl⟩

theorem existingDmWith_some {creatorId : String} {ids : List String} {db : Tables}
    {channel : ChannelRow}
    (h : DmParticipants.existingDmWith creatorId ids db = .ok (some channel)) :
    db.isParticipant channel.id creatorId = true := by
  cases ids with
  | nil => cases h
  | cons rid rest =>
    cases rest with
    | cons _ _ => cases h
    | nil =>
      obtain ⟨c, hc, rfl⟩ := Option.map_eq_some_iff.mp (Except.ok.inj h)
      have hfound := List.find?_some hc
      simp only [Bool.and_eq_true] at hfound
      exact hfound.1.1

theorem sound_createDm {creatorId : String} {ids : List String} (h : Sound s.db)
    (hfew : ids.length ≤ 9) :
    Sound ((DmParticipants.createDmChannel creatorId ids).exec s).2.db := by
  refine after_require h (after_read h (fun existing hexisting => ?_))
  cases existing with
  | some channel =>
    have hold := existingDmWith_some hexisting
    dsimp only
    rw [App.exec_bind_db (fun _ => Prog.preserves_pure _)]
    rcases exec_addParticipant_cases channel.id creatorId s with ⟨-, hexec⟩ | ⟨-, e, hexec⟩
    · rw [hexec]
      dsimp only [AppState.withDb]
      rwa [seat_old hold]
    · rw [hexec]
      exact h
  | none =>
    dsimp only
    rw [Prog.exec_bind_of_ok App.exec_generateId]
    rcases exec_insertDmChannel_cases (toString s.snowflake)
      (if ids.length = 1 then "dm" else "group_dm") creatorId
      { s with snowflake := s.snowflake + 1 } with ⟨hfresh, huser, hexec⟩ | ⟨e, hexec⟩
    · rw [Prog.exec_bind_of_ok hexec]
      have hfirst := @filled_first s.db
        { id := toString s.snowflake
          channelType := if ids.length = 1 then "dm" else "group_dm"
          ownerId := some creatorId } creatorId h hfresh rfl huser
      rcases exec_addParticipant_cases (toString s.snowflake) creatorId _ with
        ⟨-, hseat⟩ | ⟨-, e, hseat⟩
      · rw [Prog.exec_bind_of_ok hseat]
        exact hfirst.rest (fun _ => App.preserves_lift _) (by omega)
      · rw [Prog.exec_bind_of_error hseat]
        exact h.opened hfresh
    · rw [Prog.exec_bind_of_error hexec]
      exact h

theorem sound_create {ids : List String} (h : Sound s.db) :
    Sound ((createLocal auth ids).exec s).2.db := by
  refine after_read h (fun u hcount => ?_)
  have hfew : ids.length ≤ 9 := by
    obtain ⟨_, _, hcount⟩ := (Query.bind_ok s.db).mp hcount
    obtain ⟨_, hnine, _⟩ := (Query.bind_ok s.db).mp hcount
    exact Query.require_holds hnine
  rw [App.exec_bind_db announce_still]
  exact after_read h (fun _ _ => sound_createDm h hfew)

theorem advance_reads {a : Adding} (hstage : a.stage ≠ .insert ∧ a.stage ≠ .announce) :
    a.advance s = ((a.check s.db).toOption.map a.reaching, s) := by
  have hexec : a.execute.exec s =
      ((a.check s.db).map (fun stage => some (a.reaching stage)), s) := by
    have hread : a.execute = (do
        let stage ← a.check
        return some (a.reaching stage) : App (Option Adding)) := by
      rw [Adding.execute]
      split
      · rename_i heq
        exact absurd heq hstage.1
      · rename_i heq
        exact absurd heq hstage.2
      · rfl
    rw [hread, Prog.exec_bind, App.exec_lift]
    cases a.check s.db with
    | error e => rfl
    | ok stage => rfl
  rw [Adding.advance, hexec]
  cases a.check s.db with
  | error e => rfl
  | ok stage => rfl

theorem advance_announces {a : Adding} (hstage : a.stage = .announce) :
    (a.advance s).1 = none ∧ (a.advance s).2 = ((announceMembers a.channelId).exec s).2 := by
  have hexec : a.execute = (do
      let _ ← announceMembers a.channelId
      return none : App (Option Adding)) := by
    rw [Adding.execute, hstage]
  rw [Adding.advance, hexec]
  rcases Prog.exec_bind_cases (announceMembers a.channelId)
    (fun _ => (return none : App (Option Adding))) s with
    ⟨e, t, hfirst, hall⟩ | ⟨u, t, hfirst, hall⟩
  · rw [hall, hfirst]
    exact ⟨rfl, rfl⟩
  · rw [hall, hfirst]
    exact ⟨rfl, rfl⟩

theorem advance_inserts {a : Adding} (hstage : a.stage = .insert) :
    ((s.db.isParticipant a.channelId a.userId ||
        (s.db.hasChannel a.channelId && s.db.hasUser a.userId)) = true ∧
      (addParticipant a.channelId a.userId).exec s =
        (.ok (), s.withDb (seat a.channelId a.userId s.db)) ∧
      a.advance s = (some (a.reaching .announce), s.withDb (seat a.channelId a.userId s.db))) ∨
    ((s.db.isParticipant a.channelId a.userId ||
        (s.db.hasChannel a.channelId && s.db.hasUser a.userId)) = false ∧
      ∃ e, (addParticipant a.channelId a.userId).exec s = (.error e, s) ∧
        a.advance s = (none, s)) := by
  have hexec : a.execute = (do
      addParticipant a.channelId a.userId
      return some (a.reaching .announce) : App (Option Adding)) := by
    rw [Adding.execute, hstage]
  rcases exec_addParticipant_cases a.channelId a.userId s with
    ⟨hallowed, hadd⟩ | ⟨hrefused, e, hadd⟩
  · left
    refine ⟨hallowed, hadd, ?_⟩
    rw [Adding.advance, hexec, Prog.exec_bind_of_ok hadd]
    rfl
  · right
    refine ⟨hrefused, e, hadd, ?_⟩
    rw [Adding.advance, hexec, Prog.exec_bind_of_error hadd]

section

variable {a : Adding} {db : Tables} {stage : Stage}

end

theorem seatsRight_refused {channelId userId : String} {db : Tables}
    (h : (db.isParticipant channelId userId ||
      (db.hasChannel channelId && db.hasUser userId)) = false) :
    seatsRight channelId userId db = true := by
  rw [Bool.or_eq_false_iff] at h
  rw [seatsRight, h.2, Bool.not_false, Bool.or_true, Bool.true_or]

theorem sound_seat_iff {channelId userId : String} {db : Tables} (h : Sound db)
    (hallowed : (db.isParticipant channelId userId ||
      (db.hasChannel channelId && db.hasUser userId)) = true) :
    Sound (seat channelId userId db) ↔ seatsRight channelId userId db = true := by
  obtain ⟨hchannel, huser⟩ := keyed_addable h.keyed hallowed
  rw [← led_seat_iff h.led hchannel huser]
  constructor
  · intro hnext
    exact hnext.led
  · intro hled
    exact ⟨h.keyed.seat hchannel huser, hled⟩

theorem sound_advance_iff {a : Adding} (h : Sound s.db) :
    Sound (a.advance s).2.db ↔
      (a.stage ≠ .insert || seatsRight a.channelId a.userId s.db) = true := by
  by_cases hinsert : a.stage = .insert
  · have hcond : (decide (a.stage ≠ .insert) || seatsRight a.channelId a.userId s.db) =
        seatsRight a.channelId a.userId s.db := by
      rw [decide_eq_false (not_not_intro hinsert), Bool.false_or]
    rw [hcond]
    rcases advance_inserts hinsert with ⟨hallowed, _, hnext⟩ | ⟨hrefused, e, _, hnext⟩
    · rw [hnext]
      exact sound_seat_iff h hallowed
    · rw [hnext]
      exact iff_of_true h (seatsRight_refused hrefused)
  · have hsame : (a.advance s).2.db = s.db := by
      by_cases hannounce : a.stage = .announce
      · rw [(advance_announces hannounce).2]
        exact (announceMembers_still a.channelId).exec s
      · rw [advance_reads ⟨hinsert, hannounce⟩]
    rw [hsame, decide_eq_true hinsert, Bool.true_or]
    exact iff_of_true h rfl

theorem exec_deleteAccount (userId : String) (server : Auth.Server) :
    ((Auth.deleteAccount userId).exec server).2 =
      if server.app.db.spaces.any (fun sp => sp.ownerId = userId) then server
      else Auth.withoutUser userId server := by
  have hread : (Auth.Handler.fetch (fun db =>
      .ok (db.spaces.filter (fun sp => sp.ownerId = userId)).length)).exec server =
      (.ok (server.app.db.spaces.filter (fun sp => sp.ownerId = userId)).length, server) := rfl
  rw [Auth.deleteAccount, Prog.exec_bind_of_ok hread]
  by_cases howned : server.app.db.spaces.any (fun sp => sp.ownerId = userId) = true
  · have hsome : 0 < (server.app.db.spaces.filter (fun sp => sp.ownerId = userId)).length := by
      obtain ⟨sp, hsp, hown⟩ := List.any_eq_true.mp howned
      exact List.length_pos_of_mem (List.mem_filter.mpr ⟨hsp, hown⟩)
    rw [if_pos howned, if_pos hsome]
    rfl
  · have hnone : ¬ 0 < (server.app.db.spaces.filter (fun sp => sp.ownerId = userId)).length := by
      intro hsome
      obtain ⟨sp, hsp⟩ := List.exists_mem_of_length_pos hsome
      obtain ⟨hmem, hown⟩ := List.mem_filter.mp hsp
      exact howned (List.any_eq_true.mpr ⟨sp, hmem, hown⟩)
    rw [if_neg howned, if_neg hnone]
    rfl

section

variable {server : Auth.Server} {userId : String}

def disowned (userId : String) (c : ChannelRow) : ChannelRow :=
  if c.ownerId = some userId then { c with ownerId := none } else c

theorem disowned_same (c : ChannelRow) :
    (disowned userId c).id = c.id ∧ (disowned userId c).channelType = c.channelType := by
  rw [disowned]
  split <;> exact ⟨rfl, rfl⟩

theorem participantIds_withoutUser (id : String) :
    participantIds (Auth.withoutUser userId server).app.db id =
      (participantIds server.app.db id).filter (fun u => u ≠ userId) := by
  have hseats : (Auth.withoutUser userId server).app.db.dmParticipants =
      server.app.db.dmParticipants.filter (fun p => p.userId ≠ userId) := rfl
  rw [participantIds, participantIds, hseats, List.filter_map, List.filter_filter,
    List.filter_filter]
  refine congrArg (List.map DmParticipant.userId) (List.filter_congr (fun p _ => ?_))
  exact Bool.and_comm _ _

theorem keyed_withoutUser (h : Keyed server.app.db) :
    Keyed (Auth.withoutUser userId server).app.db := by
  refine ⟨?_, fun p hp => ?_, fun p hp => ?_⟩
  · refine List.pairwise_map.mpr (h.channels.imp (fun {c d} hne heq => hne ?_))
    have hc := (@disowned_same userId c).1
    have hd := (@disowned_same userId d).1
    exact hc.symm.trans (Eq.trans heq hd)
  · obtain ⟨hold, hother⟩ := List.mem_filter.mp hp
    obtain ⟨u, hu, hid⟩ := Lib.Table.has_iff.mp (h.users p hold)
    refine Lib.Table.has_iff.mpr ⟨u, Lib.Table.mem_delete.mpr ⟨hu, ?_⟩, hid⟩
    rw [hid]
    exact of_decide_eq_true hother
  · have hold := (List.mem_filter.mp hp).1
    obtain ⟨c, hc, hid⟩ := Lib.Table.has_iff.mp (h.placed p hold)
    exact Lib.Table.has_iff.mpr
      ⟨disowned userId c, List.mem_map_of_mem hc, (disowned_same c).1.trans hid⟩

theorem headed_withoutUser_iff {c : ChannelRow} (h : Headed server.app.db c) :
    Headed (Auth.withoutUser userId server).app.db (disowned userId c) ↔
      (c.channelType = "group_dm" → c.ownerId = some userId →
        ∀ u ∈ participantIds server.app.db c.id, u = userId) := by
  obtain ⟨hid, htype⟩ := @disowned_same userId c
  rw [Headed, hid, htype, participantIds_withoutUser]
  by_cases howner : c.ownerId = some userId
  · have hnone : (disowned userId c).ownerId = none := by
      rw [disowned, if_pos howner]
    rw [hnone]
    constructor
    · intro hhead hgroup _ u hu
      by_contra hother
      obtain ⟨⟨_, habsent, _⟩, _⟩ := hhead hgroup
        (List.ne_nil_of_mem (List.mem_filter.mpr ⟨hu, decide_eq_true hother⟩))
      cases habsent
    · intro halone hgroup hne
      obtain ⟨u, hu⟩ := List.exists_mem_of_ne_nil _ hne
      obtain ⟨hmem, hother⟩ := List.mem_filter.mp hu
      exact absurd (halone hgroup howner u hmem) (of_decide_eq_true hother)
  · have hkept : disowned userId c = c := by
      rw [disowned, if_neg howner]
    rw [hkept]
    constructor
    · intro _ _ howns
      exact absurd howns howner
    · intro _ hgroup hne
      obtain ⟨u, hu⟩ := List.exists_mem_of_ne_nil _ hne
      obtain ⟨⟨owner, howns, hmem⟩, hfew⟩ :=
        h hgroup (List.ne_nil_of_mem (List.mem_filter.mp hu).1)
      refine ⟨⟨owner, howns, List.mem_filter.mpr ⟨hmem, ?_⟩⟩,
        (List.length_filter_le _ _).trans hfew⟩
      refine decide_eq_true (fun hsame => howner ?_)
      rwa [← hsame]

theorem sound_deleteAccount_iff (h : Sound server.app.db) :
    Sound ((Auth.deleteAccount userId).exec server).2.app.db ↔
      deletesRight userId server.app.db = true := by
  rw [exec_deleteAccount, deletesRight]
  cases howned : server.app.db.spaces.any (fun sp => sp.ownerId = userId) with
  | true =>
    rw [if_pos rfl, Bool.true_or]
    exact iff_of_true h rfl
  | false =>
    rw [if_neg Bool.false_ne_true, Bool.false_or]
    have hled : Sound (Auth.withoutUser userId server).app.db ↔
        ∀ c ∈ server.app.db.channels,
          Headed (Auth.withoutUser userId server).app.db (disowned userId c) := by
      constructor
      · intro hnext c hc
        exact hnext.led _ (List.mem_map_of_mem hc)
      · intro hheaded
        refine ⟨keyed_withoutUser h.keyed, fun c' hc' => ?_⟩
        obtain ⟨c, hc, rfl⟩ := List.mem_map.mp hc'
        exact hheaded c hc
    rw [hled, List.all_eq_true]
    refine forall₂_congr (fun c hc => ?_)
    rw [headed_withoutUser_iff (h.led c hc)]
    simp only [Bool.or_eq_true, decide_eq_true_eq, List.all_eq_true]
    constructor
    · intro halone
      by_cases hgroup : c.channelType = "group_dm"
      · by_cases howner : c.ownerId = some userId
        · exact .inr (halone hgroup howner)
        · exact .inl (.inr howner)
      · exact .inl (.inl hgroup)
    · rintro ((hother | hother) | halone) hgroup howner
      · exact absurd hgroup hother
      · exact absurd howner hother
      · exact halone

end

theorem sound_served_iff {h : House} (hs : Sound h.db) (r : Request) :
    Sound (h.served r).db ↔ keepsLed h r = true := by
  cases r with
  | create auth ids => exact iff_of_true (sound_create hs) rfl
  | leave channelId auth => exact iff_of_true (sound_leave hs) rfl
  | removeRecipient channelId userId auth => exact iff_of_true (sound_removeRecipient hs) rfl
  | addRecipient channelId userId auth => exact iff_of_true hs rfl
  | advance k =>
    rw [keepsLed, House.served]
    cases hk : h.adding[k]? with
    | none => exact iff_of_true hs rfl
    | some a => exact sound_advance_iff hs
  | deleteAccount userId => exact sound_deleteAccount_iff hs

theorem keyed_advance {a : Adding} (h : Keyed s.db) : Keyed (a.advance s).2.db := by
  by_cases hinsert : a.stage = .insert
  · rcases advance_inserts hinsert with ⟨hallowed, _, hnext⟩ | ⟨_, e, _, hnext⟩
    · rw [hnext]
      obtain ⟨hchannel, huser⟩ := keyed_addable h hallowed
      exact h.seat hchannel huser
    · rw [hnext]
      exact h
  · by_cases hannounce : a.stage = .announce
    · rw [(advance_announces hannounce).2, (announceMembers_still a.channelId).exec s]
      exact h
    · rw [advance_reads ⟨hinsert, hannounce⟩]
      exact h

theorem keyed_served {h : House} (hs : Sound h.db) (r : Request) : Keyed (h.served r).db := by
  cases r with
  | create auth ids => exact (sound_create hs).keyed
  | leave channelId auth => exact (sound_leave hs).keyed
  | removeRecipient channelId userId auth => exact (sound_removeRecipient hs).keyed
  | addRecipient channelId userId auth => exact hs.keyed
  | advance k =>
    rw [House.served]
    cases hk : h.adding[k]? with
    | none => exact hs.keyed
    | some a => exact keyed_advance hs.keyed
  | deleteAccount userId =>
    have hdeleted : Keyed ((Auth.deleteAccount userId).exec h.server).2.app.db := by
      rw [exec_deleteAccount]
      split
      · exact hs.keyed
      · exact keyed_withoutUser hs.keyed
    exact hdeleted

end

theorem groups_led_iff {h : House} (hkeyed : Keyed h.db) (hled : Led h.db) (reqs : List Request) :
    Lib.Always House.step (fun h => Led h.db) h reqs ↔
      Lib.meets House.step keepsLed h reqs = true := by
  have hkeep : ∀ (h : House) r t, Keyed h.db → Led h.db → House.step h r = some t →
      Keyed t.db := by
    intro h r t hkeyed hled hstep
    cases hstep
    exact keyed_served ⟨hkeyed, hled⟩ r
  have hstep : ∀ (h : House) r t, True → Keyed h.db ∧ Led h.db → House.step h r = some t →
      (Keyed t.db ∧ Led t.db ↔ keepsLed h r = true) := by
    intro h r t _ hs hstep
    cases hstep
    have hiff := sound_served_iff ⟨hs.1, hs.2⟩ r
    rw [← hiff]
    constructor
    · intro hnext
      exact ⟨hnext.1, hnext.2⟩
    · intro hnext
      exact ⟨hnext.keyed, hnext.led⟩
  have hrun : Lib.runFrom House.step h reqs = some (reqs.foldl House.served h) :=
    Lib.runFrom_total House.served h reqs
  have htrue : ∀ (h : House) r t, True → House.step h r = some t → True :=
    fun _ _ _ _ _ => trivial
  rw [← Lib.always_and_iff hkeep hkeyed]
  exact Lib.always_iff_meets htrue hstep trivial ⟨hkeyed, hled⟩ hrun

def eleven : List User :=
  ["a", "b", "c", "d", "e", "f", "g", "h", "i", "j", "k"].map (fun id => { id, username := id })

def emptyHouse : House :=
  { server := { app := { db := { users := eleven }, ext := .fixed "", snowflake := 20 } } }

def quietDay : List Request :=
  [.create { userId := "a" } ["b", "c"], .addRecipient "20" "d" { userId := "a" },
    .addRecipient "20" "e" { userId := "a" }, .advance 0, .advance 1, .advance 0, .advance 0,
    .advance 0, .advance 0, .advance 0, .leave "20" { userId := "a" }, .deleteAccount "a",
    .removeRecipient "20" "c" { userId := "b" }]

theorem keyed_emptyHouse : Keyed emptyHouse.db :=
  ⟨List.Pairwise.nil, fun _ hp => absurd hp List.not_mem_nil,
    fun _ hp => absurd hp List.not_mem_nil⟩

theorem led_emptyHouse : Led emptyHouse.db := fun _ hc => absurd hc List.not_mem_nil

theorem groups_led_quietDay :
    Lib.Always House.step (fun h => Led h.db) emptyHouse quietDay :=
  (groups_led_iff keyed_emptyHouse led_emptyHouse quietDay).mpr (by decide +kernel)

def ownerDeleted : House :=
  [Request.create { userId := "a" } ["b", "c"], .deleteAccount "a"].foldl House.served emptyHouse

def overfull : House :=
  [Request.create { userId := "a" } ["b", "c", "d", "e", "f", "g", "h", "i"],
    .addRecipient "20" "j" { userId := "a" }, .addRecipient "20" "k" { userId := "a" },
    .advance 0, .advance 1, .advance 0, .advance 1, .advance 0, .advance 1, .advance 0, .advance 1,
    .advance 0, .advance 1].foldl House.served emptyHouse

theorem owner_or_size_lost : ¬ Led ownerDeleted.db ∧ ¬ Led overfull.db := by
  constructor
  · intro hled
    have hrow : { id := "20", channelType := "group_dm" } ∈ ownerDeleted.db.channels := by
      decide +kernel
    have hsome : participantIds ownerDeleted.db "20" ≠ [] := by
      decide +kernel
    obtain ⟨⟨owner, howner, _⟩, _⟩ := hled _ hrow rfl hsome
    cases howner
  · intro hled
    have hrow : { id := "20", channelType := "group_dm", ownerId := some "a" } ∈
        overfull.db.channels := by
      decide +kernel
    have heleven : (participantIds overfull.db "20").length = 11 := by
      decide +kernel
    have hsome : participantIds overfull.db "20" ≠ [] := by
      decide +kernel
    obtain ⟨_, hten⟩ := hled _ hrow rfl hsome
    rw [heleven] at hten
    omega

end Vokusz.Routes.GroupDms
