import Vokusz.Db.ReadStates
import Vokusz.Lib.Transition
import Vokusz.Routes.Footprint

namespace Vokusz.Routes.MentionCounts

open Db
open Db.Messages (CreateMessage RemoteMessageInsert createMessage insertRemoteMessage Insertable
  storable posted storeMessage mentionedIds)
open Db.ReadStates (readState lastRead readStateKey ackChannel advance incrementMentionCount)
open Routes.Messages (applyMentionCounts)
open Lib (Prog Table.lookup Table.upsert)

-- `send` is what both message routes do; a message sent to a home server by another server, and one
-- of the assistant's tools, is created without its counts, as is one that another server announces.
inductive Operation where
  | send (channelId authorId : String) (spaceId : Option String) (input : CreateMessage)
      (cooldownMs : Int)
  | relay (channelId authorId : String) (spaceId : Option String) (input : CreateMessage)
      (cooldownMs : Int)
  | receive (msg : RemoteMessageInsert)
  | acknowledge (userId channelId messageId : String)

def send (channelId authorId : String) (spaceId : Option String) (input : CreateMessage)
    (cooldownMs : Int) : App Unit := do
  let msg ← createMessage channelId authorId spaceId input cooldownMs
  applyMentionCounts msg

def served (s : AppState) : Operation → AppState
  | .send channelId authorId spaceId input cooldownMs =>
    ((send channelId authorId spaceId input cooldownMs).exec s).2
  | .relay channelId authorId spaceId input cooldownMs =>
    ((createMessage channelId authorId spaceId input cooldownMs).exec s).2
  | .receive msg => ((insertRemoteMessage msg).exec s).2
  | .acknowledge userId channelId messageId => ((ackChannel userId channelId messageId).exec s).2

def step (s : AppState) (op : Operation) : Option AppState := some (served s op)

def mentioning (userId channelId : String) (m : MessageRow) : Bool :=
  m.channelId = channelId && m.authorId ≠ userId && m.mentions.contains userId

def beyond (position : Option String) (m : MessageRow) : Bool := position.all (fun p => p < m.id)

def unreadMentions (db : Tables) (userId channelId : String) : List MessageRow :=
  db.messages.filter (fun m =>
    mentioning userId channelId m && beyond (lastRead db userId channelId) m)

def mentionCount (db : Tables) (userId channelId : String) : Int :=
  ((readState db userId channelId).map ReadState.mentionCount).getD 0

def Counted (userId channelId : String) (db : Tables) : Prop :=
  mentionCount db userId channelId = (unreadMentions db userId channelId).length

instance (userId channelId : String) (db : Tables) : Decidable (Counted userId channelId db) :=
  inferInstanceAs (Decidable (_ = _))

def acknowledged (db : Tables) (userId channelId messageId : String) : Option String :=
  match readState db userId channelId with
  | some r => (advance messageId r).lastReadMessageId
  | none => some messageId

def countsRight (userId channelId : String) (s : AppState) : Operation → Bool
  | .send otherChannel authorId spaceId input cooldownMs =>
    let row := posted s otherChannel authorId spaceId input
    !(decide (Insertable s.db row (max cooldownMs 0) s.clock) && mentioning userId channelId row) ||
      beyond (lastRead s.db userId channelId) row
  | .relay otherChannel authorId spaceId input cooldownMs =>
    let row := posted s otherChannel authorId spaceId input
    !(decide (Insertable s.db row (max cooldownMs 0) s.clock) &&
      mentioning userId channelId row && beyond (lastRead s.db userId channelId) row)
  | .receive msg =>
    !(storable s.db msg && mentioning userId channelId msg.row &&
      beyond (lastRead s.db userId channelId) msg.row)
  | .acknowledge otherUser otherChannel messageId =>
    !(otherUser = userId && otherChannel = channelId && s.db.hasUser userId &&
      s.db.hasChannel channelId) ||
    s.db.messages.all (fun m => !(mentioning userId channelId m &&
      beyond (acknowledged s.db userId channelId messageId) m))

structure Keyed (db : Tables) : Prop where
  users : Lib.Table.Distinct User.id db.users
  members : Lib.Table.Distinct (fun m : MemberRow => (m.spaceId, m.userId)) db.members

section

variable {db db' : Tables} {userId channelId : String} {row : MessageRow}

theorem counted_append {counted : Bool} (h : Counted userId channelId db)
    (hmessages : db'.messages = db.messages ++ [row])
    (hlast : lastRead db' userId channelId = lastRead db userId channelId)
    (hcount : mentionCount db' userId channelId =
      mentionCount db userId channelId + (if counted then 1 else 0)) :
    Counted userId channelId db' ↔
      counted = (mentioning userId channelId row && beyond (lastRead db userId channelId) row) := by
  have hrows : unreadMentions db' userId channelId = unreadMentions db userId channelId ++
      [row].filter (fun m =>
        mentioning userId channelId m && beyond (lastRead db userId channelId) m) := by
    rw [unreadMentions, hmessages, hlast, List.filter_append, unreadMentions]
  rw [Counted] at h
  rw [Counted, hcount, h, hrows, List.length_append]
  cases hnew : mentioning userId channelId row && beyond (lastRead db userId channelId) row with
  | true =>
    rw [List.filter_cons_of_pos (by rw [hnew]), List.filter_nil, List.length_singleton]
    cases counted with
    | true => exact iff_of_true rfl rfl
    | false =>
      rw [if_neg Bool.false_ne_true]
      refine iff_of_false (fun heq => ?_) Bool.false_ne_true
      omega
  | false =>
    rw [List.filter_cons_of_neg (by rw [hnew]; exact Bool.false_ne_true), List.filter_nil,
      List.length_nil]
    cases counted with
    | true =>
      rw [if_pos rfl]
      refine iff_of_false (fun heq => ?_) (fun heq => Bool.false_ne_true heq.symm)
      omega
    | false => exact iff_of_true rfl rfl

theorem nodup_mentioned (h : Keyed db) (spaceId : Option String) (usernames : List String) :
    (mentionedIds db spaceId usernames).Nodup := by
  cases spaceId with
  | none => exact List.nodup_nil
  | some sid =>
    unfold mentionedIds
    dsimp only
    split
    · exact List.nodup_nil
    · refine List.nodup_flatMap.mpr ⟨fun m _ => ?_, ?_⟩
      · exact (List.pairwise_map.mpr h.users).sublist (List.filter_sublist.map User.id)
      · have hmembers := h.members.sublist
          (List.filter_sublist (p := fun m : MemberRow => m.spaceId = sid))
        refine hmembers.imp_of_mem (fun {m m'} hm hm' hkey => ?_)
        have hspace : m.spaceId = m'.spaceId := by
          have hfirst := (List.mem_filter.mp hm).2
          have hsecond := (List.mem_filter.mp hm').2
          simp only [decide_eq_true_eq] at hfirst hsecond
          rw [hfirst, hsecond]
        intro id hid hid'
        obtain ⟨u, hu, rfl⟩ := List.mem_map.mp hid
        obtain ⟨u', hu', hsame⟩ := List.mem_map.mp hid'
        have hthis := (List.mem_filter.mp hu).2
        have hthat := (List.mem_filter.mp hu').2
        simp only [Bool.and_eq_true, decide_eq_true_eq] at hthis hthat
        have huser : m.userId = m'.userId := hthis.1.symm.trans (hsame.symm.trans hthat.1)
        exact hkey (Prod.ext hspace huser)

theorem hasUser_mentioned {spaceId : Option String} {usernames : List String} {id : String}
    (h : id ∈ mentionedIds db spaceId usernames) : db.hasUser id = true := by
  cases spaceId with
  | none => exact absurd h List.not_mem_nil
  | some sid =>
    unfold mentionedIds at h
    dsimp only at h
    split at h
    · exact absurd h List.not_mem_nil
    · obtain ⟨m, _, hid⟩ := List.mem_flatMap.mp h
      obtain ⟨u, hu, rfl⟩ := List.mem_map.mp hid
      exact Lib.Table.has_iff.mpr ⟨u, (List.mem_filter.mp hu).1, rfl⟩

def oneMention (userId channelId : String) : ReadState :=
  { userId := userId, channelId := channelId, mentionCount := 1 }

def oneMore (r : ReadState) : ReadState := { r with mentionCount := r.mentionCount + 1 }

theorem increment_row (rows : List ReadState) (otherUser otherChannel : String) :
    let rows' := Table.upsert readStateKey (oneMention otherUser otherChannel) oneMore rows
    let before := Table.lookup readStateKey (userId, channelId) rows
    let after := Table.lookup readStateKey (userId, channelId) rows'
    (after.map ReadState.mentionCount).getD 0 = (before.map ReadState.mentionCount).getD 0 +
        (if otherUser = userId ∧ otherChannel = channelId then 1 else 0) ∧
      after.bind ReadState.lastReadMessageId = before.bind ReadState.lastReadMessageId := by
  intro rows' before after
  by_cases hkey : otherUser = userId ∧ otherChannel = channelId
  · obtain ⟨rfl, rfl⟩ := hkey
    rw [if_pos ⟨rfl, rfl⟩]
    have hown : readStateKey (oneMention otherUser otherChannel) = (otherUser, otherChannel) := rfl
    cases hbefore : before with
    | none =>
      have hafter : after = some (oneMention otherUser otherChannel) := by
        have hnone : Table.lookup readStateKey
            (readStateKey (oneMention otherUser otherChannel)) rows = none := hbefore
        exact Lib.Table.lookup_upsert_of_none hnone
      rw [hafter]
      exact ⟨rfl, rfl⟩
    | some r =>
      have hafter : after = some (oneMore r) := by
        have hsome := @Lib.Table.lookup_upsert_of_some _ _ _ readStateKey (otherUser, otherChannel)
          (oneMention otherUser otherChannel) r rows oneMore hbefore (fun _ => rfl)
        rwa [if_pos hown] at hsome
      rw [hafter]
      exact ⟨rfl, rfl⟩
  · have hafter : after = before := by
      refine Lib.Table.lookup_upsert_of_ne (fun heq => hkey ?_) (fun _ => rfl)
      cases heq
      exact ⟨rfl, rfl⟩
    rw [hafter, if_neg hkey, add_zero]
    exact ⟨rfl, rfl⟩

theorem exec_increment {s : AppState} {otherUser otherChannel : String}
    (huser : s.db.hasUser otherUser = true) (hchannel : s.db.hasChannel otherChannel = true) :
    (incrementMentionCount otherUser otherChannel).exec s = (.ok (), s.withDb
      { s.db with
        readStates := Table.upsert readStateKey (oneMention otherUser otherChannel) oneMore
          s.db.readStates }) := by
  refine App.exec_write_of_none ?_
  rw [huser, hchannel]
  rfl

theorem exec_counts {s : AppState} (hchannel : s.db.hasChannel row.channelId = true)
    {uids : List String} (husers : ∀ uid ∈ uids, s.db.hasUser uid = true) (hnodup : uids.Nodup) :
    ∃ states, (applyMentionCounts { row with mentions := uids }).exec s =
        (.ok (), s.withDb { s.db with readStates := states }) ∧
      mentionCount { s.db with readStates := states } userId channelId =
        mentionCount s.db userId channelId +
          (if row.channelId = channelId ∧ row.authorId ≠ userId ∧ userId ∈ uids then 1 else 0) ∧
      lastRead { s.db with readStates := states } userId channelId =
        lastRead s.db userId channelId := by
  induction uids generalizing s with
  | nil =>
    refine ⟨s.db.readStates, rfl, ?_, rfl⟩
    rw [if_neg (fun h => absurd h.2.2 List.not_mem_nil), add_zero]
  | cons uid uids ih =>
    obtain ⟨hfresh, hnodup⟩ := List.nodup_cons.mp hnodup
    have hrest : ∀ other ∈ uids, s.db.hasUser other = true :=
      fun other hother => husers other (List.mem_cons_of_mem uid hother)
    by_cases hauthor : uid = row.authorId
    · obtain ⟨states, hexec, hcount, hlast⟩ := ih hchannel hrest hnodup
      refine ⟨states, ?_, ?_, hlast⟩
      · refine Eq.trans ?_ hexec
        unfold applyMentionCounts
        rw [Prog.forEach_cons, if_pos hauthor]
        rfl
      · rw [hcount]
        by_cases hmention : row.channelId = channelId ∧ row.authorId ≠ userId ∧ userId ∈ uids
        · rw [if_pos hmention,
            if_pos ⟨hmention.1, hmention.2.1, List.mem_cons_of_mem uid hmention.2.2⟩]
        · rw [if_neg hmention, if_neg]
          rintro ⟨hsame, hother, hmem⟩
          rcases List.mem_cons.mp hmem with heq | hmem
          · exact hother (heq.trans hauthor).symm
          · exact hmention ⟨hsame, hother, hmem⟩
    · let rows := Table.upsert readStateKey (oneMention uid row.channelId) oneMore s.db.readStates
      let t := s.withDb { s.db with readStates := rows }
      have hfirst : (incrementMentionCount uid row.channelId).exec s = (.ok (), t) :=
        exec_increment (husers uid List.mem_cons_self) hchannel
      obtain ⟨states, hexec, hcount, hlast⟩ := @ih t hchannel hrest hnodup
      obtain ⟨hone, hkept⟩ :=
        @increment_row userId channelId s.db.readStates uid row.channelId
      refine ⟨states, ?_, ?_, hlast.trans hkept⟩
      · refine Eq.trans ?_ hexec
        unfold applyMentionCounts
        rw [Prog.forEach_cons, if_neg hauthor]
        have hattempt : (incrementMentionCount uid row.channelId).attempt.exec s =
            (.ok (.ok ()), t) := by
          rw [Prog.exec_attempt, hfirst]
        exact Prog.exec_bind_of_ok ((Prog.exec_bind_of_ok hattempt).trans rfl)
      · have hstart : mentionCount t.db userId channelId = mentionCount s.db userId channelId +
            (if uid = userId ∧ row.channelId = channelId then 1 else 0) := hone
        refine hcount.trans ?_
        rw [hstart]
        by_cases huid : uid = userId
        · rw [huid] at hfresh hauthor
          have hnot : ¬ (row.channelId = channelId ∧ row.authorId ≠ userId ∧ userId ∈ uids) :=
            fun h => hfresh h.2.2
          have hhead : userId ∈ uid :: uids := List.mem_cons.mpr (.inl huid.symm)
          rw [if_neg hnot, add_zero]
          by_cases hsame : row.channelId = channelId
          · rw [if_pos ⟨huid, hsame⟩, if_pos ⟨hsame, fun h => hauthor h.symm, hhead⟩]
          · rw [if_neg (fun h => hsame h.2), if_neg (fun h => hsame h.1)]
        · have hmem : userId ∈ uid :: uids ↔ userId ∈ uids := by
            rw [List.mem_cons]
            exact or_iff_right (fun h => huid h.symm)
          rw [if_neg (fun h => huid h.1), add_zero]
          simp only [hmem]

end

section

variable {s : AppState} {userId channelId otherChannel authorId : String}
  {spaceId : Option String} {input : CreateMessage} {cooldownMs : Int}

theorem refused_db {row : MessageRow} (hrow : row = posted s otherChannel authorId spaceId input)
    (h : ¬ Insertable s.db row (max cooldownMs 0) s.clock) :
    ((createMessage otherChannel authorId spaceId input cooldownMs).exec s).2.db = s.db := by
  rw [hrow] at h
  exact Db.Messages.createMessage_refused h

theorem send_refused {row : MessageRow} (hrow : row = posted s otherChannel authorId spaceId input)
    (h : ¬ Insertable s.db row (max cooldownMs 0) s.clock) :
    ((send otherChannel authorId spaceId input cooldownMs).exec s).2.db = s.db := by
  have hdb := refused_db hrow h
  rcases Prog.exec_bind_cases (createMessage otherChannel authorId spaceId input cooldownMs)
    applyMentionCounts s with ⟨e, t, hfailed, hexec⟩ | ⟨msg, t, hcreated, _⟩
  · rw [hfailed] at hdb
    exact (congrArg (fun r => r.2.db) hexec).trans hdb
  · rw [hrow] at h
    exact absurd (Db.Messages.createMessage_succeeds.mp ⟨msg, t, hcreated⟩) h

theorem storeMessage_keeps (row : MessageRow) (now : Int) (db : Tables) :
    mentionCount (storeMessage row now db) userId channelId = mentionCount db userId channelId ∧
      lastRead (storeMessage row now db) userId channelId = lastRead db userId channelId := by
  have hstates : (storeMessage row now db).readStates = db.readStates :=
    Db.Messages.storeMessage_frame row now db (fun _ _ _ => rfl)
  simp only [mentionCount, lastRead, readState, hstates, and_self]

theorem counted_relay (h : Counted userId channelId s.db) :
    Counted userId channelId (served s (.relay otherChannel authorId spaceId input cooldownMs)).db ↔
      countsRight userId channelId s (.relay otherChannel authorId spaceId input cooldownMs) =
        true := by
  generalize hrow : posted s otherChannel authorId spaceId input = row
  rw [served, countsRight, hrow]
  by_cases hinsert : Insertable s.db row (max cooldownMs 0) s.clock
  · have hexec := @Db.Messages.exec_createMessage otherChannel authorId spaceId input cooldownMs s
      (by rw [hrow]; exact hinsert)
    obtain ⟨hcount, hlast⟩ := @storeMessage_keeps userId channelId row s.clock s.db
    rw [hexec, hrow]
    refine (@counted_append s.db _ userId channelId row false h
      (Db.Messages.storeMessage_messages row s.clock s.db) hlast
      (hcount.trans (add_zero _).symm)).trans ?_
    rw [decide_eq_true hinsert, Bool.true_and, Bool.not_eq_true', eq_comm]
  · rw [refused_db hrow.symm hinsert]
    simp [hinsert, h]

theorem counted_send (hkeyed : Keyed s.db) (h : Counted userId channelId s.db) :
    Counted userId channelId (served s (.send otherChannel authorId spaceId input cooldownMs)).db ↔
      countsRight userId channelId s (.send otherChannel authorId spaceId input cooldownMs) =
        true := by
  generalize hrow : posted s otherChannel authorId spaceId input = row
  rw [served, countsRight, hrow]
  by_cases hinsert : Insertable s.db row (max cooldownMs 0) s.clock
  · let stored : AppState :=
      { s with snowflake := s.snowflake + 1, db := storeMessage row s.clock s.db }
    have hcreated : (createMessage otherChannel authorId spaceId input cooldownMs).exec s =
        (.ok row, stored) := by
      have hexec := @Db.Messages.exec_createMessage otherChannel authorId spaceId input cooldownMs s
        (by rw [hrow]; exact hinsert)
      rwa [hrow] at hexec
    have hmentions : row.mentions =
        mentionedIds s.db spaceId (Mentions.parseMentions input.content).usernames := by
      rw [← hrow]
      rfl
    have husers : stored.db.users = s.db.users :=
      Db.Messages.storeMessage_frame row s.clock s.db (fun _ _ _ => rfl)
    have hchannel : stored.db.hasChannel row.channelId = true := by
      have hrefs := hinsert.2.1
      simp only [Db.Messages.referencesExist, Bool.and_eq_true] at hrefs
      have hids : stored.db.channels.map ChannelRow.id = s.db.channels.map ChannelRow.id :=
        Db.Messages.storeMessage_channelIds row s.clock s.db
      have hheld := hrefs.1.1.1.1
      rw [Tables.hasChannel, Lib.Table.has_eq_contains] at hheld ⊢
      rwa [hids]
    have hmentioned : ∀ uid ∈ row.mentions, stored.db.hasUser uid = true := by
      intro uid huid
      rw [hmentions] at huid
      have huser := hasUser_mentioned huid
      rwa [Tables.hasUser, ← husers] at huser
    have hnodup : row.mentions.Nodup := by
      rw [hmentions]
      exact nodup_mentioned hkeyed spaceId _
    obtain ⟨states, hcounts, hcount, hlast⟩ :=
      @exec_counts userId channelId row stored hchannel row.mentions hmentioned hnodup
    obtain ⟨hbefore, hposition⟩ := @storeMessage_keeps userId channelId row s.clock s.db
    have hexec : (send otherChannel authorId spaceId input cooldownMs).exec s = _ :=
      (Prog.exec_bind_of_ok hcreated).trans hcounts
    have hcounted : (if mentioning userId channelId row then 1 else 0 : Int) =
        if row.channelId = channelId ∧ row.authorId ≠ userId ∧ userId ∈ row.mentions then 1
          else 0 := by
      simp only [mentioning, Bool.and_eq_true, decide_eq_true_eq, List.contains_iff_mem, and_assoc]
    rw [hexec]
    refine (@counted_append s.db { stored.db with readStates := states } userId channelId row
      (mentioning userId channelId row) h (Db.Messages.storeMessage_messages row s.clock s.db)
      (hlast.trans hposition) ?_).trans ?_
    · rw [hcounted, ← hbefore]
      exact hcount
    · rw [decide_eq_true hinsert, Bool.true_and]
      cases mentioning userId channelId row <;>
        cases beyond (lastRead s.db userId channelId) row <;> decide
  · rw [send_refused hrow.symm hinsert]
    simp [hinsert, h]

theorem counted_receive {msg : RemoteMessageInsert} (h : Counted userId channelId s.db) :
    Counted userId channelId (served s (.receive msg)).db ↔
      countsRight userId channelId s (.receive msg) = true := by
  rw [served, countsRight]
  cases hstorable : storable s.db msg with
  | true =>
    have happends := Db.Messages.insertRemoteMessage_appends hstorable
    have hstates : ((insertRemoteMessage msg).exec s).2.db.readStates = s.db.readStates :=
      (Db.Messages.touches_insertRemoteMessage msg .readStates (by decide)).exec s
    have hlast : lastRead ((insertRemoteMessage msg).exec s).2.db userId channelId =
        lastRead s.db userId channelId := by
      rw [lastRead, readState, hstates]
      rfl
    have hcount : mentionCount ((insertRemoteMessage msg).exec s).2.db userId channelId =
        mentionCount s.db userId channelId + 0 := by
      rw [mentionCount, readState, hstates, add_zero]
      rfl
    refine (@counted_append s.db _ userId channelId msg.row false h happends.messages hlast
      hcount).trans ?_
    rw [Bool.true_and, Bool.not_eq_true', eq_comm]
  | false =>
    rw [Db.Messages.insertRemoteMessage_refused hstorable]
    exact iff_of_true h rfl

theorem ack_row {rows : List ReadState} {messageId : String} :
    Table.lookup readStateKey (userId, channelId) (Table.upsert readStateKey
      { userId := userId, channelId := channelId, lastReadMessageId := some messageId }
      (advance messageId) rows) =
    some (((Table.lookup readStateKey (userId, channelId) rows).map (advance messageId)).getD
      { userId := userId, channelId := channelId, lastReadMessageId := some messageId }) := by
  let fresh : ReadState :=
    { userId := userId, channelId := channelId, lastReadMessageId := some messageId }
  have hown : readStateKey fresh = (userId, channelId) := rfl
  cases hbefore : Table.lookup readStateKey (userId, channelId) rows with
  | none =>
    have hnone : Table.lookup readStateKey (readStateKey fresh) rows = none := hbefore
    exact Lib.Table.lookup_upsert_of_none hnone
  | some r =>
    have hsome := @Lib.Table.lookup_upsert_of_some _ _ _ readStateKey (userId, channelId) fresh r
      rows (advance messageId) hbefore (fun _ => rfl)
    rwa [if_pos hown] at hsome

theorem counted_acknowledge {otherUser messageId : String} (h : Counted userId channelId s.db) :
    Counted userId channelId (served s (.acknowledge otherUser otherChannel messageId)).db ↔
      countsRight userId channelId s (.acknowledge otherUser otherChannel messageId) = true := by
  rw [served, countsRight, ackChannel, App.exec_write]
  cases hallowed : s.db.hasUser otherUser && s.db.hasChannel otherChannel with
  | false =>
    refine iff_of_true h ?_
    rw [Bool.or_eq_true, Bool.not_eq_true']
    refine .inl (Bool.eq_false_iff.mpr (fun hown => ?_))
    simp only [Bool.and_eq_true, decide_eq_true_eq] at hown
    obtain ⟨⟨⟨rfl, rfl⟩, huser⟩, hchannel⟩ := hown
    rw [huser, hchannel] at hallowed
    cases hallowed
  | true =>
    let rows := Table.upsert readStateKey
      { userId := otherUser, channelId := otherChannel, lastReadMessageId := some messageId }
      (advance messageId) s.db.readStates
    change Counted userId channelId { s.db with readStates := rows } ↔ _
    by_cases hown : otherUser = userId ∧ otherChannel = channelId
    · obtain ⟨rfl, rfl⟩ := hown
      obtain ⟨huser, hchannel⟩ := Bool.and_eq_true_iff.mp hallowed
      have hrow := @ack_row otherUser otherChannel s.db.readStates messageId
      have hcount : mentionCount { s.db with readStates := rows } otherUser otherChannel = 0 := by
        rw [mentionCount, readState, hrow]
        cases Table.lookup readStateKey (otherUser, otherChannel) s.db.readStates <;> rfl
      have hlast : lastRead { s.db with readStates := rows } otherUser otherChannel =
          acknowledged s.db otherUser otherChannel messageId := by
        rw [lastRead, readState, hrow, acknowledged, readState]
        cases Table.lookup readStateKey (otherUser, otherChannel) s.db.readStates <;> rfl
      rw [Counted, hcount, unreadMentions, hlast, huser, hchannel]
      simp only [decide_true, Bool.and_self, Bool.not_true, Bool.false_or, List.all_eq_true,
        Bool.not_eq_true', ← Bool.not_eq_true, ← List.filter_eq_nil_iff]
      rw [← List.length_eq_zero_iff]
      exact ⟨fun hzero => by omega, fun hzero => by omega⟩
    · have hsame : readState { s.db with readStates := rows } userId channelId =
          readState s.db userId channelId := by
        refine Lib.Table.lookup_upsert_of_ne (fun heq => hown ?_) (fun _ => rfl)
        cases heq
        exact ⟨rfl, rfl⟩
      have hother : (decide (otherUser = userId) && decide (otherChannel = channelId)) = false := by
        simpa using hown
      have hcounted : Counted userId channelId { s.db with readStates := rows } ↔
          Counted userId channelId s.db := by
        simp only [Counted, mentionCount, unreadMentions, lastRead, hsame]
      rw [hcounted, hother]
      exact iff_of_true h rfl

theorem counted_served {op : Operation} (hkeyed : Keyed s.db)
    (h : Counted userId channelId s.db) :
    Counted userId channelId (served s op).db ↔ countsRight userId channelId s op = true := by
  cases op with
  | send otherChannel authorId spaceId input cooldownMs => exact counted_send hkeyed h
  | relay otherChannel authorId spaceId input cooldownMs => exact counted_relay h
  | receive msg => exact counted_receive h
  | acknowledge otherUser otherChannel messageId => exact counted_acknowledge h

theorem keyed_served (op : Operation) (h : Keyed s.db) : Keyed (served s op).db := by
  have hframe : ∀ {α : Type} {p : App α} {slots : List Slot}, App.Touches slots p →
      Slot.users ∉ slots → Slot.members ∉ slots → Keyed (p.exec s).2.db := by
    intro α p slots htouches husers hmembers
    have hsame : (p.exec s).2.db.users = s.db.users := (htouches .users husers).exec s
    have hkept : (p.exec s).2.db.members = s.db.members := (htouches .members hmembers).exec s
    constructor
    · rw [hsame]
      exact h.users
    · rw [hkept]
      exact h.members
  cases op with
  | send otherChannel authorId spaceId input cooldownMs =>
    have htouches : App.Touches [.messages, .messageCooldowns, .channels, .snowflake, .readStates]
        (send otherChannel authorId spaceId input cooldownMs) :=
      ((Db.Messages.touches_createMessage _ _ _ _).mono (by decide)).bind
        (fun msg => (Routes.Messages.touches_applyMentionCounts msg).mono (by decide))
    exact hframe htouches (by decide) (by decide)
  | relay otherChannel authorId spaceId input cooldownMs =>
    exact hframe (Db.Messages.touches_createMessage _ _ _ _) (by decide) (by decide)
  | receive msg =>
    exact hframe (Db.Messages.touches_insertRemoteMessage msg) (by decide) (by decide)
  | acknowledge otherUser otherChannel messageId =>
    have hpreserves : (ackChannel otherUser otherChannel messageId).Preserves
        (fun s : AppState => (s.db.users, s.db.members)) := App.preserves_write (fun _ => rfl)
    have hsame := hpreserves.exec s
    simp only [Prod.mk.injEq] at hsame
    constructor
    · rw [served, hsame.1]
      exact h.users
    · rw [served, hsame.2]
      exact h.members

end

theorem counts_hold_iff {s : AppState} {userId channelId : String} (hkeyed : Keyed s.db)
    (h : Counted userId channelId s.db) (ops : List Operation) :
    Lib.Always step (fun s => Counted userId channelId s.db) s ops ↔
      Lib.meets step (countsRight userId channelId) s ops = true := by
  have hkeep : ∀ s op t, Keyed s.db → step s op = some t → Keyed t.db := by
    intro s op t hkeyed hstep
    cases hstep
    exact keyed_served op hkeyed
  have hrun : Lib.runFrom step s ops = some (ops.foldl served s) := Lib.runFrom_total served s ops
  refine Lib.always_iff_meets hkeep ?_ hkeyed h hrun
  intro s op t hkeyed hcounted hstep
  cases hstep
  exact counted_served hkeyed hcounted

def terrace : AppState :=
  { db :=
      { users := [{ id := "1", username := "ann" }, { id := "2", username := "bob" }]
        spaces := [{ id := "10", name := "terrace", ownerId := "1" }]
        members := [{ spaceId := "10", userId := "1" }, { spaceId := "10", userId := "2" }]
        channels := [{ id := "20", spaceId := some "10" }] }
    ext := Externals.fixed "2025-01-01 00:00:00"
    snowflake := 40 }

def callBob : Operation := .send "20" "1" (some "10") { content := "@bob" } 0

theorem terrace_keyed : Keyed terrace.db := by
  constructor <;> simp [Lib.Table.Distinct, terrace]

theorem newest_acknowledged :
    Lib.Always step (fun s => Counted "2" "20" s.db) terrace
      [callBob, callBob, .acknowledge "2" "20" "41", callBob] :=
  (counts_hold_iff terrace_keyed (by decide) _).mpr (by decide +kernel)

theorem late_acknowledgement_forgets :
    Keyed terrace.db ∧ Counted "2" "20" terrace.db ∧
      ¬ Lib.Always step (fun s => Counted "2" "20" s.db) terrace
        [callBob, callBob, .acknowledge "2" "20" "40"] := by
  refine ⟨terrace_keyed, by decide, fun h => ?_⟩
  have hend := ((h.2 _ rfl).2 _ rfl).2 _ rfl
  have hwrong : ¬ Counted "2" "20" ([callBob, callBob, .acknowledge "2" "20" "40"].foldl served
      terrace).db := by decide +kernel
  exact hwrong hend

end Vokusz.Routes.MentionCounts
