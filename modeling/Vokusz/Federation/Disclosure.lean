import Vokusz.Federation.Fanout
import Vokusz.Federation.Handshake
import Vokusz.Permissions

namespace Vokusz.Federation.Disclosure

open Db Mapping Permissions Fanout
open Lib (Prog)

def viewing : List String := ["view_channel"]
def reading : List String := ["view_channel", "read_history"]

def holdsIn (db : Tables) (spaceId channelId userId : String) (needed : List String) : Bool :=
  match resolveChannelPermissions channelId spaceId userId db with
  | .ok perms => needed.all (hasPermission perms)
  | .error _ => false

def permitted (peer spaceId channelId : String) (needed : List String) (db : Tables) : Bool :=
  db.members.any (fun m => m.spaceId = spaceId &&
    m.origin.any (fun o => eqIgnoreAsciiCase o peer) && holdsIn db spaceId channelId m.userId needed)

section

open Handshake

def channelsOf (spaceId : String) (db : Tables) : List ChannelRow :=
  db.channels.filter (fun c => c.spaceId = some spaceId)

def hasFeed (channelId : String) (db : Tables) : Prop :=
  ∃ m ∈ db.messages, m.channelId = channelId ∧ m.threadId = none

def snapshotConfined (ourDomain peer spaceId : String) (snap : Snapshot) (db : Tables) : Prop :=
  ∀ c ∈ channelsOf spaceId db,
    ((∃ e ∈ snap.channels, e.id = qualify c.id ourDomain) →
      permitted peer spaceId c.id viewing db = true) ∧
    ((∃ e ∈ snap.messages, e.channelId = qualify c.id ourDomain) →
      permitted peer spaceId c.id reading db = true)

variable {ourDomain peer spaceId : String} {db : Tables}

theorem mem_inSpace {c : ChannelRow} :
    c ∈ Channels.inSpace db spaceId ↔ c ∈ channelsOf spaceId db :=
  Lib.Table.mem_orderBy

theorem mem_topLevel {m : MessageRow} {channelId : String} :
    m ∈ Messages.topLevelNewestFirst db channelId ↔
      m ∈ db.messages ∧ m.channelId = channelId ∧ m.threadId = none := by
  rw [Messages.topLevelNewestFirst, List.mem_reverse, Messages.feed, Lib.Table.mem_orderBy,
    List.mem_filter]
  simp

theorem recentMessages_channel {m : MessageRow} {channels : List ChannelRow}
    (hm : m ∈ recentMessages db channels) :
    ∃ c ∈ channels, m.channelId = c.id ∧ hasFeed c.id db := by
  obtain ⟨c, hc, hlisted⟩ := List.mem_flatMap.mp hm
  have htop : m ∈ Messages.topLevelNewestFirst db c.id := List.mem_of_mem_take hlisted
  obtain ⟨hrow, hchannel, hroot⟩ := mem_topLevel.mp htop
  exact ⟨c, hc, hchannel, m, hrow, hchannel, hroot⟩

theorem recentMessages_of_feed {c : ChannelRow} {channels : List ChannelRow} (hc : c ∈ channels)
    (hfeed : hasFeed c.id db) : ∃ m ∈ recentMessages db channels, m.channelId = c.id := by
  obtain ⟨m, hm, hchannel, hroot⟩ := hfeed
  have htop : m ∈ Messages.topLevelNewestFirst db c.id := mem_topLevel.mpr ⟨hm, hchannel, hroot⟩
  cases hfirst : Messages.topLevelNewestFirst db c.id with
  | nil =>
    rw [hfirst] at htop
    cases htop
  | cons newest rest =>
    have hnewest : newest ∈ Messages.topLevelNewestFirst db c.id := by simp [hfirst]
    refine ⟨newest, List.mem_flatMap.mpr ⟨c, hc, ?_⟩, (mem_topLevel.mp hnewest).2.1⟩
    simp [Messages.listMessages, hfirst, Except.toOption]

theorem qualify_injective {a b domain : String} (ha : containsAt a = false)
    (hb : containsAt b = false) (h : qualify a domain = qualify b domain) : a = b := by
  rw [← localPart_qualify ha, h, localPart_qualify hb]

structure Discloses (ourDomain spaceId : String) (snap : Snapshot) (db : Tables) : Prop where
  channels : snap.channels = (Channels.inSpace db spaceId).map (snapshotChannel ourDomain)
  messages : snap.messages =
    (recentMessages db (Channels.inSpace db spaceId)).map (snapshotMessage db ourDomain)

theorem serveJoin_discloses {join : JoinRequest} {snap : Snapshot} {s s' : AppState}
    (hserved : (serveJoin ourDomain peer join).exec s = (.ok snap, s')) :
    Discloses ourDomain join.spaceId snap s'.db := by
  obtain ⟨space, s₁, hspace, h₁⟩ := Prog.exec_bind_ok.mp hserved
  obtain ⟨enabled, s₂, _, h₂⟩ := Prog.exec_bind_ok.mp h₁
  obtain ⟨_, s₃, _, h₃⟩ := Prog.exec_bind_ok.mp h₂
  obtain ⟨ban, s₄, _, h₄⟩ := Prog.exec_bind_ok.mp h₃
  obtain ⟨_, s₅, _, h₅⟩ := Prog.exec_bind_ok.mp h₄
  obtain ⟨_, s₆, _, h₆⟩ := Prog.exec_bind_ok.mp h₅
  obtain ⟨_, s₇, _, h₇⟩ := Prog.exec_bind_ok.mp h₆
  obtain ⟨fed, s₈, _, hbuilt⟩ := Prog.exec_bind_ok.mp h₇
  obtain ⟨hrow, _⟩ := App.exec_lift_ok.mp hspace
  obtain ⟨hsnap, rfl⟩ := App.exec_lift_ok.mp hbuilt
  have hid : space.id = join.spaceId := by
    unfold Spaces.getSpaceRow at hrow
    split at hrow
    · rename_i found hfound
      cases hrow
      exact Lib.Table.lookup_key hfound
    · cases hrow
  rw [← hid]
  cases hsnap
  exact ⟨rfl, rfl⟩

theorem snapshotConfined_iff {snap : Snapshot} (h : Discloses ourDomain spaceId snap db)
    (hbare : ∀ c ∈ channelsOf spaceId db, containsAt c.id = false) :
    snapshotConfined ourDomain peer spaceId snap db ↔
      ∀ c ∈ channelsOf spaceId db, permitted peer spaceId c.id viewing db = true ∧
        (hasFeed c.id db → permitted peer spaceId c.id reading db = true) := by
  unfold snapshotConfined
  rw [h.channels, h.messages]
  constructor
  · intro hconfined c hc
    obtain ⟨hchannel, hmessage⟩ := hconfined c hc
    refine ⟨hchannel ⟨_, List.mem_map_of_mem (mem_inSpace.mpr hc), rfl⟩, fun hfeed => ?_⟩
    obtain ⟨m, hm, hin⟩ := recentMessages_of_feed (mem_inSpace.mpr hc) hfeed
    refine hmessage ⟨_, List.mem_map_of_mem hm, ?_⟩
    simp [snapshotMessage, hin]
  · intro hpermitted c hc
    obtain ⟨hview, hread⟩ := hpermitted c hc
    refine ⟨fun _ => hview, ?_⟩
    rintro ⟨e, he, hid⟩
    obtain ⟨m, hm, rfl⟩ := List.mem_map.mp he
    obtain ⟨c', hc', hin, hfeed⟩ := recentMessages_channel hm
    have hsame : c'.id = c.id := by
      apply qualify_injective (hbare c' (mem_inSpace.mp hc')) (hbare c hc)
      rw [← hin]
      exact hid
    rw [hsame] at hfeed
    exact hread hfeed

end

inductive ChannelEvent where
  | created (msg : MessageRow)
  | edited (msg : MessageRow) (messageId : String)
  | deleted (messageId channelId : String)
  | reacted (remove : Bool) (channelId messageId userId emoji : String)
  | typing (channelId userId : String)

namespace ChannelEvent

def channelId : ChannelEvent → String
  | .created msg => msg.channelId
  | .edited msg _ => msg.channelId
  | .deleted _ channelId => channelId
  | .reacted _ channelId _ _ _ => channelId
  | .typing channelId _ => channelId

def needed : ChannelEvent → List String
  | .typing _ _ => viewing
  | _ => reading

def eventType : ChannelEvent → String
  | .created _ => "m.message.create"
  | .edited _ _ => "m.message.update"
  | .deleted _ _ => "m.message.delete"
  | .reacted remove _ _ _ _ => if remove then "m.reaction.remove" else "m.reaction.add"
  | .typing _ _ => "m.typing"

def send (ourDomain spaceId : String) : ChannelEvent → App Unit
  | .created msg => Outbound.fanoutMessageCreate { msg with spaceId := some spaceId }
  | .edited msg messageId => Outbound.fanoutIfSpace (some spaceId) "m.message.update"
      (Outbound.messageEditPayload ourDomain msg messageId)
  | .deleted messageId channelId => Outbound.fanoutIfSpace (some spaceId) "m.message.delete"
      (Outbound.messageDeletePayload ourDomain messageId channelId)
  | .reacted remove channelId messageId userId emoji =>
    Outbound.fanoutIfSpace (some spaceId)
      (if remove then "m.reaction.remove" else "m.reaction.add")
      (Outbound.reactionPayload ourDomain channelId messageId userId emoji)
  | .typing channelId userId => Outbound.fanoutIfSpace (some spaceId) "m.typing"
      (.obj [("channel_id", .str (qualify channelId ourDomain)), ("user_id", .str userId)])

def Stored (db : Tables) : ChannelEvent → Prop
  | .created msg => ∃ author, Users.getUser msg.authorId db = .ok author
  | _ => True

end ChannelEvent

section

variable {ourDomain peer spaceId : String} {t : AppState}

theorem sentTo_fanoutMessageCreate {msg : MessageRow} (h : Homed ourDomain spaceId t)
    (hother : eqIgnoreAsciiCase peer ourDomain = false)
    (hstored : (ChannelEvent.created msg).Stored t.db) :
    ∃ payload, sentTo peer t
        ((Outbound.fanoutMessageCreate { msg with spaceId := some spaceId }).exec t).2 =
      if interested peer spaceId t then
        [(envelope ourDomain spaceId "m.message.create" payload t.snowflake).toJson]
      else [] := by
  obtain ⟨fed, hfed, _⟩ := Option.map_eq_some_iff.mp h.federation
  obtain ⟨author, hauthor⟩ := hstored
  have hfederation : App.federation.exec t = (.ok (some fed), t) := by
    rw [App.exec_federation, hfed]
  have hrow : (MonadLiftT.monadLift (Users.getUser msg.authorId) : App User).exec t =
      (.ok author, t) := by
    rw [App.exec_lift, hauthor]
  rw [Outbound.fanoutMessageCreate, Prog.exec_bind_of_ok hfederation]
  simp only
  rw [Prog.exec_bind_of_ok hrow]
  exact ⟨_, sentTo_fanoutToSpace h hother _ _⟩

theorem sentTo_send (h : Homed ourDomain spaceId t)
    (hother : eqIgnoreAsciiCase peer ourDomain = false) (ev : ChannelEvent)
    (hstored : ev.Stored t.db) :
    ∃ payload, sentTo peer t ((ev.send ourDomain spaceId).exec t).2 =
      if interested peer spaceId t then
        [(envelope ourDomain spaceId ev.eventType payload t.snowflake).toJson]
      else [] := by
  cases ev with
  | created msg => exact sentTo_fanoutMessageCreate h hother hstored
  | edited msg messageId => exact ⟨_, sentTo_fanoutToSpace h hother _ _⟩
  | deleted messageId channelId => exact ⟨_, sentTo_fanoutToSpace h hother _ _⟩
  | reacted remove channelId messageId userId emoji => exact ⟨_, sentTo_fanoutToSpace h hother _ _⟩
  | typing channelId userId => exact ⟨_, sentTo_fanoutToSpace h hother _ _⟩

def eventConfined (ourDomain peer spaceId : String) (ev : ChannelEvent) (t : AppState) : Prop :=
  sentTo peer t ((ev.send ourDomain spaceId).exec t).2 ≠ [] →
    permitted peer spaceId ev.channelId ev.needed t.db = true

theorem eventConfined_iff (h : Homed ourDomain spaceId t)
    (hother : eqIgnoreAsciiCase peer ourDomain = false) (ev : ChannelEvent)
    (hstored : ev.Stored t.db) :
    eventConfined ourDomain peer spaceId ev t ↔
      (interested peer spaceId t = true →
        permitted peer spaceId ev.channelId ev.needed t.db = true) := by
  obtain ⟨payload, hsent⟩ := sentTo_send h hother ev hstored
  unfold eventConfined
  rw [hsent]
  cases interested peer spaceId t with
  | true => simp
  | false => simp

end

theorem federation_confined_iff_channels_open {ourDomain peer : String}
    (hother : eqIgnoreAsciiCase peer ourDomain = false) :
    (∀ (join : Handshake.JoinRequest) snap s s',
      (Handshake.serveJoin ourDomain peer join).exec s = (.ok snap, s') →
      (∀ c ∈ channelsOf join.spaceId s'.db, containsAt c.id = false) →
      (snapshotConfined ourDomain peer join.spaceId snap s'.db ↔
        ∀ c ∈ channelsOf join.spaceId s'.db,
          permitted peer join.spaceId c.id viewing s'.db = true ∧
          (hasFeed c.id s'.db → permitted peer join.spaceId c.id reading s'.db = true))) ∧
    ∀ spaceId t (ev : ChannelEvent), Homed ourDomain spaceId t → ev.Stored t.db →
      (eventConfined ourDomain peer spaceId ev t ↔
        (interested peer spaceId t = true →
          permitted peer spaceId ev.channelId ev.needed t.db = true)) := by
  constructor
  · intro join snap s s' hserved hbare
    exact snapshotConfined_iff (serveJoin_discloses hserved) hbare
  · intro spaceId t ev hhome hstored
    exact eventConfined_iff hhome hother ev hstored

def message (id channelId : String) : MessageRow :=
  { id := id
    channelId := channelId
    spaceId := some "s"
    authorId := "1"
    content := "hi"
    createdAt := "2025-01-01 00:00:00" }

def spaceServer (hidden : Bool) : AppState :=
  { db :=
      { users := [{ id := "1", username := "ann" }]
        spaces := [{ id := "s", name := "open", ownerId := "1", federationEnabled := true }]
        channels := { id := "20", spaceId := some "s" } ::
          if hidden then [{ id := "30", spaceId := some "s" }] else []
        roles :=
          [{ id := "9"
             spaceId := "s"
             name := "@everyone"
             permissions := ["view_channel", "read_history"] }]
        members := [{ userId := "1", spaceId := "s" }]
        permissionOverwrites :=
          [{ id := "9", channelId := "30", overwriteType := "role", deny := ["view_channel"] }]
        messages := message "m" "20" :: if hidden then [message "k" "30"] else [] }
    federation := some { domain := "h.example", publicUrl := "https://h.example" }
    ext := Externals.fixed "2025-01-01 00:00:00"
    snowflake := 100 }

def bobJoins : Handshake.JoinRequest :=
  { user := { id := "5@p.example", username := some "bob" }
    spaceId := "s" }

def joined (hidden : Bool) : AppState :=
  ((Handshake.serveJoin "h.example" "p.example" bobJoins).exec (spaceServer hidden)).2

theorem joined_homed (hidden : Bool) : Homed "h.example" "s" (joined hidden) where
  federation := by cases hidden <;> decide +kernel
  homeSpace := by cases hidden <;> decide +kernel
  freshIds := by
    have hempty : (joined hidden).db.federationOutbox = [] := by cases hidden <;> decide +kernel
    intro item hitem
    rw [hempty] at hitem
    cases hitem

theorem join_served (hidden : Bool) : ∃ snap,
    (Handshake.serveJoin "h.example" "p.example" bobJoins).exec (spaceServer hidden) =
      (.ok snap, joined hidden) := by
  have hok : ((Handshake.serveJoin "h.example" "p.example" bobJoins).exec
      (spaceServer hidden)).1.toOption.isSome = true := by cases hidden <;> decide +kernel
  obtain ⟨snap, hsnap⟩ := Option.isSome_iff_exists.mp hok
  refine ⟨snap, Prod.ext ?_ rfl⟩
  cases hresult : ((Handshake.serveJoin "h.example" "p.example" bobJoins).exec
      (spaceServer hidden)).1 with
  | ok a =>
    rw [hresult] at hsnap
    exact congrArg Except.ok (Option.some.inj hsnap)
  | error e =>
    rw [hresult] at hsnap
    cases hsnap

theorem joined_bare (hidden : Bool) :
    ∀ c ∈ channelsOf "s" (joined hidden).db, containsAt c.id = false := by
  cases hidden <;> decide +kernel

theorem message_stored (hidden : Bool) (id channelId : String) :
    (ChannelEvent.created (message id channelId)).Stored (joined hidden).db := by
  have hauthor : Users.getUser "1" (joined hidden).db = .ok { id := "1", username := "ann" } := by
    cases hidden <;> decide +kernel
  exact ⟨_, hauthor⟩

theorem open_space_confined :
    (∃ snap, (Handshake.serveJoin "h.example" "p.example" bobJoins).exec (spaceServer false) =
        (.ok snap, joined false) ∧
      snapshotConfined "h.example" "p.example" "s" snap (joined false).db) ∧
    eventConfined "h.example" "p.example" "s" (.created (message "m" "20")) (joined false) := by
  have hiff := @federation_confined_iff_channels_open "h.example" "p.example" (by decide +kernel)
  have hopen : ∀ c ∈ channelsOf "s" (joined false).db,
      permitted "p.example" "s" c.id viewing (joined false).db = true ∧
        permitted "p.example" "s" c.id reading (joined false).db = true := by decide +kernel
  obtain ⟨snap, hserved⟩ := join_served false
  refine ⟨⟨snap, hserved, ?_⟩, ?_⟩
  · apply (hiff.1 bobJoins snap _ _ hserved (joined_bare false)).mpr
    exact fun c hc => ⟨(hopen c hc).1, fun _ => (hopen c hc).2⟩
  · apply (hiff.2 "s" (joined false) _ (joined_homed false) (message_stored false "m" "20")).mpr
    exact fun _ => by decide +kernel

theorem hidden_channel_disclosed :
    (∃ snap, (Handshake.serveJoin "h.example" "p.example" bobJoins).exec (spaceServer true) =
        (.ok snap, joined true) ∧
      ¬ snapshotConfined "h.example" "p.example" "s" snap (joined true).db) ∧
    ¬ eventConfined "h.example" "p.example" "s" (.created (message "k" "30")) (joined true) := by
  constructor
  · obtain ⟨snap, hserved⟩ := join_served true
    refine ⟨snap, hserved, fun hconfined => ?_⟩
    have hopen := (snapshotConfined_iff (serveJoin_discloses hserved) (joined_bare true)).mp
      hconfined
    have hview : ∀ c ∈ channelsOf "s" (joined true).db,
        permitted "p.example" "s" c.id viewing (joined true).db = true :=
      fun c hc => (hopen c hc).1
    exact absurd hview (by decide +kernel)
  · intro hconfined
    have hread := (eventConfined_iff (joined_homed true) (by decide +kernel) _
      (message_stored true "k" "30")).mp hconfined (by decide +kernel)
    exact absurd hread (by decide +kernel)

end Vokusz.Federation.Disclosure
