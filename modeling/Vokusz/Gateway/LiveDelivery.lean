import Vokusz.Gateway.Classify
import Vokusz.Federation.Forward

namespace Vokusz.Gateway

open Db Federation Federation.Mapping Permissions
open Federation.Outbound (startsWith)
open Lib (Prog)

inductive RemoteAction where
  | send (req : Forward.SendRequest)
  | delete (req : Forward.DeleteRequest)
  | react (req : Forward.ReactRequest)
  | typing (req : Forward.TypingRequest)

namespace RemoteAction

def serve (ourDomain peer : String) : RemoteAction → App Unit
  | .send req => do
    let _ ← Forward.serveSend ourDomain peer req
    return ()
  | .delete req => Forward.serveDelete ourDomain peer req
  | .react req => Forward.serveReact ourDomain peer req
  | .typing req => Forward.serveTyping ourDomain peer req

def channelId (db : Tables) : RemoteAction → Option String
  | .send req => some req.channelId
  | .delete req => (Lib.Table.lookup MessageRow.id req.messageId db.messages).map MessageRow.channelId
  | .react req => some req.channelId
  | .typing req => some req.channelId

def eventKind : RemoteAction → String
  | .send _ => "message.create"
  | .delete _ => "message.delete"
  | .react req => if req.remove then "reaction.remove" else "reaction.add"
  | .typing _ => "typing.start"

theorem eventKind_mem (a : RemoteAction) : a.eventKind ∈
    ["message.create", "message.delete", "reaction.remove", "reaction.add", "typing.start"] := by
  cases a with
  | react req => cases hr : req.remove <;> simp [eventKind, hr]
  | _ => simp [eventKind]

end RemoteAction

def deliveryView (s : AppState) : List GatewayBroadcast × List String :=
  (s.gatewayTx, s.db.channels.map ChannelRow.id)

structure Emits (s s' : AppState) (kind channelId : String) (b : GatewayBroadcast) : Prop where
  queued : s'.gatewayTx = s.gatewayTx ++ [b]
  kind : eventType b.event = kind
  channel : eventChannel b.event = some channelId
  channels : s'.db.channels.map ChannelRow.id = s.db.channels.map ChannelRow.id

theorem emits_broadcast {s t u s' : AppState} {spaceId : Option String} {kind channelId : String}
    {data : Json} {intent : String} (hst : deliveryView t = deliveryView s)
    (hsend : (broadcastSpace spaceId kind data intent).exec t = (.ok (), u))
    (hrest : deliveryView s' = deliveryView u) (hkind : kind ≠ "channel.delete")
    (hdata : data.getStr? "channel_id" = some channelId) :
    Emits s s' kind channelId
      { spaceId := spaceId
        targetUserIds := none
        event := gatewayEvent kind data
        intent := intent } := by
  simp only [deliveryView, Prod.mk.injEq] at hst hrest
  simp only [broadcastSpace, App.exec_send, Prod.mk.injEq, true_and] at hsend
  subst hsend
  refine ⟨?_, rfl, ?_, ?_⟩
  · rw [hrest.1]
    simp [hst.1]
  · have hevent : eventType (gatewayEvent kind data) = kind := rfl
    have hfield : (gatewayEvent kind data).field? "data" = some data := rfl
    simp [eventChannel, hevent, hkind, hfield, hdata]
  · rw [hrest.2]
    exact hst.2

theorem preserves_cacheActor (peer : String) (actor : RemoteUserRef) :
    (Forward.cacheActor peer actor).Preserves deliveryView :=
  (Users.preserves_upsertRemoteUser _ _ _ _ _ (fun _ _ => rfl)).bind
    (fun _ => Prog.preserves_pure _)

theorem serveSend_emits {ourDomain peer : String} {req : Forward.SendRequest} {s s' : AppState}
    {j : Json} (h : (Forward.serveSend ourDomain peer req).exec s = (.ok j, s')) :
    ∃ b, Emits s s' "message.create" (qualify req.channelId ourDomain) b := by
  simp only [Forward.serveSend, Prog.exec_bind_ok, App.exec_liftExcept_ok, Prog.exec_require_ok,
    App.exec_lift_ok, Prog.exec_pure, Prod.mk.injEq] at h
  obtain ⟨_, _, ⟨_, rfl⟩, _, _, ⟨_, rfl⟩, _, t, hcache, spaceId, _, ⟨_, rfl⟩, msg, u, hcreate,
    author, _, ⟨_, rfl⟩, _, v, hsend, _, w, hfan, _, rfl⟩ := h
  have hcached := (preserves_cacheActor peer req.actor).of_exec hcache
  have hcreated : deliveryView u = deliveryView t :=
    (Messages.preserves_createMessage _ _ _ _ _
      (fun s row cd now => Prod.ext rfl (Messages.insertMessage_channelIds row cd now s.db))
      (fun _ _ => rfl)).of_exec hcreate
  have hfanned : deliveryView w = deliveryView v :=
    (Outbound.preserves_fanoutMessageCreate msg (fun _ _ => rfl) (fun _ _ => rfl)).of_exec hfan
  have hchannel : msg.channelId = req.channelId := by
    obtain ⟨id, mentions, createdAt, rfl, _⟩ := Messages.createMessage_ok hcreate
    rfl
  refine ⟨_, emits_broadcast (hcreated.trans hcached) hsend hfanned (by decide) ?_⟩
  rw [← hchannel]
  rfl

theorem serveDelete_emits {ourDomain peer : String} {req : Forward.DeleteRequest}
    {s s' : AppState} (h : (Forward.serveDelete ourDomain peer req).exec s = (.ok (), s')) :
    ∃ m, Lib.Table.lookup MessageRow.id req.messageId s.db.messages = some m ∧
      ∃ b, Emits s s' "message.delete" (qualify m.channelId ourDomain) b := by
  simp only [Forward.serveDelete, Prog.exec_bind_ok, App.exec_liftExcept_ok,
    App.exec_lift_ok] at h
  obtain ⟨_, _, ⟨_, rfl⟩, existing, _, ⟨hexisting, rfl⟩, _, _, ⟨_, rfl⟩, _, t, hdelete, _, u,
    hsend, hfan⟩ := h
  have hdeleted : deliveryView t = deliveryView s :=
    Prog.Preserves.of_exec (App.preserves_update (fun _ => rfl)) hdelete
  have hfanned : deliveryView s' = deliveryView u :=
    (Outbound.preserves_fanoutIfSpace (fun _ _ => rfl) (fun _ _ => rfl) _ _ _).of_exec hfan
  have hlookup : Lib.Table.lookup MessageRow.id req.messageId s.db.messages = some existing := by
    unfold Messages.getMessageRow at hexisting
    split at hexisting
    · rename_i m hm
      cases hexisting
      exact hm
    · cases hexisting
  exact ⟨existing, hlookup, _, emits_broadcast hdeleted hsend hfanned (by decide) rfl⟩

theorem serveReact_emits {ourDomain peer : String} {req : Forward.ReactRequest}
    {s s' : AppState} (h : (Forward.serveReact ourDomain peer req).exec s = (.ok (), s')) :
    ∃ b, Emits s s' (if req.remove then "reaction.remove" else "reaction.add")
      (qualify req.channelId ourDomain) b := by
  simp only [Forward.serveReact, Prog.exec_bind_ok, App.exec_liftExcept_ok, Prog.exec_require_ok,
    App.exec_lift_ok] at h
  obtain ⟨_, _, ⟨_, rfl⟩, _, t, hcache, spaceId, v, hquery, message, _, ⟨_, rfl⟩, _, _, ⟨_, rfl⟩,
    _, u, hwrite, _, w, hsend, hfan⟩ := h
  have hcached := (preserves_cacheActor peer req.actor).of_exec hcache
  have hqueried : deliveryView v = deliveryView t := (App.preserves_query _).of_exec hquery
  have hwritten : deliveryView u = deliveryView v := by
    refine Prog.Preserves.of_exec (Prog.preserves_ite ?_ ?_) hwrite
    · exact App.preserves_write (fun _ => rfl)
    · exact App.preserves_update (fun _ => rfl)
  have hfanned : deliveryView s' = deliveryView w :=
    (Outbound.preserves_fanoutIfSpace (fun _ _ => rfl) (fun _ _ => rfl) _ _ _).of_exec hfan
  have hkind : (if req.remove then "reaction.remove" else "reaction.add") ≠ "channel.delete" := by
    cases req.remove <;> decide
  exact ⟨_, emits_broadcast (hwritten.trans (hqueried.trans hcached)) hsend hfanned hkind rfl⟩

theorem serveTyping_emits {ourDomain peer : String} {req : Forward.TypingRequest}
    {s s' : AppState} (h : (Forward.serveTyping ourDomain peer req).exec s = (.ok (), s')) :
    ∃ b, Emits s s' "typing.start" (qualify req.channelId ourDomain) b := by
  simp only [Forward.serveTyping, Prog.exec_bind_ok, App.exec_liftExcept_ok,
    App.exec_lift_ok] at h
  obtain ⟨_, _, ⟨_, rfl⟩, spaceId, _, ⟨_, rfl⟩, _, t, hsend, hfan⟩ := h
  have hfanned : deliveryView s' = deliveryView t :=
    (Outbound.preserves_fanoutIfSpace (fun _ _ => rfl) (fun _ _ => rfl) _ _ _).of_exec hfan
  exact ⟨_, emits_broadcast rfl hsend hfanned (by decide) rfl⟩

theorem RemoteAction.serve_emits {ourDomain peer channelId : String} {a : RemoteAction}
    {s s' : AppState} (h : (a.serve ourDomain peer).exec s = (.ok (), s'))
    (hchannel : a.channelId s.db = some channelId) :
    ∃ b, Emits s s' a.eventKind (qualify channelId ourDomain) b := by
  cases a with
  | send req =>
    obtain ⟨j, t, hsend, hret⟩ := Prog.exec_bind_ok.mp h
    cases hret
    cases hchannel
    exact serveSend_emits hsend
  | delete req =>
    obtain ⟨m, hm, hemits⟩ := serveDelete_emits h
    simp only [RemoteAction.channelId, hm, Option.map_some, Option.some.injEq] at hchannel
    rw [← hchannel]
    exact hemits
  | react req =>
    cases hchannel
    exact serveReact_emits h
  | typing req =>
    cases hchannel
    exact serveTyping_emits h

def ChannelIdsHomed (ourDomain : String) (db : Tables) : Prop :=
  ∀ c ∈ db.channels,
    if c.origin.isNone then containsAt c.id = false else Authority.homedOn c.id ourDomain = false

instance (ourDomain : String) (db : Tables) : Decidable (ChannelIdsHomed ourDomain db) :=
  inferInstanceAs (Decidable (∀ c ∈ db.channels,
    if c.origin.isNone then containsAt c.id = false else Authority.homedOn c.id ourDomain = false))

theorem qualified_local_channel_unknown {ourDomain channelId : String} {db : Tables}
    (hhomed : ChannelIdsHomed ourDomain db)
    (hlocal : ∃ c ∈ db.channels, c.id = channelId ∧ c.origin = none) :
    db.hasChannel (qualify channelId ourDomain) = false := by
  obtain ⟨c, hc, rfl, horigin⟩ := hlocal
  have hbare : containsAt c.id = false := by
    have := hhomed c hc
    simpa [horigin] using this
  rw [Bool.eq_false_iff]
  intro hfound
  obtain ⟨d, hd, hid⟩ := Lib.Table.has_iff.mp hfound
  have hrule := hhomed d hd
  rw [hid] at hrule
  split at hrule
  · rw [containsAt_qualify] at hrule
    cases hrule
  · simp [Authority.homedOn, domainOf_qualify hbare] at hrule

def listens (db : Tables) (spaceId channelId kind : String) (r : Recipient) : Bool :=
  db.hasMember spaceId r.userId && r.spaceIds.contains spaceId &&
    (requireChannelPermission channelId (recipientAuth r) "view_channel" db).toBool &&
    (!startsWith "message." kind ||
      (requireChannelPermission channelId (recipientAuth r) "read_history" db).toBool) &&
    Intents.hasIntent r.intents kind

def emitted (s s' : AppState) : List GatewayBroadcast := s'.gatewayTx.drop s.gatewayTx.length

def deliveredLive (s s' : AppState) (sessions : List Recipient)
    (spaceId channelId kind : String) : Bool :=
  !(emitted s s').isEmpty &&
    (emitted s s').all (fun b =>
      sessions.all (fun r =>
        !listens s'.db spaceId channelId kind r ||
          classifyBroadcast s'.db b r = .send b.event))

theorem remote_action_not_delivered_live {ourDomain peer channelId spaceId : String}
    {a : RemoteAction} {s s' : AppState} (sessions : List Recipient)
    (hhomed : ChannelIdsHomed ourDomain s.db)
    (hserved : (a.serve ourDomain peer).exec s = (.ok (), s'))
    (hchannel : a.channelId s.db = some channelId)
    (hlocal : ∃ c ∈ s.db.channels, c.id = channelId ∧ c.origin = none) :
    deliveredLive s s' sessions spaceId channelId a.eventKind = true ↔
      ∀ r ∈ sessions, listens s'.db spaceId channelId a.eventKind r = false := by
  obtain ⟨b, hb⟩ := RemoteAction.serve_emits hserved hchannel
  have hmissing : s'.db.hasChannel (qualify channelId ourDomain) = false := by
    rw [Tables.hasChannel, Lib.Table.has_eq_contains, hb.channels, ← Lib.Table.has_eq_contains]
    exact qualified_local_channel_unknown hhomed hlocal
  have hskip : ∀ r, classifyBroadcast s'.db b r = .skip := by
    intro r
    have hplain : ∀ kind ∈
        ["message.create", "message.delete", "reaction.remove", "reaction.add", "typing.start"],
        startsWith "plugin." kind = false ∧ kind ≠ "member.join" ∧ kind ≠ "member.leave" := by
      decide
    obtain ⟨hplugin, hjoin, hleave⟩ := hplain _ a.eventKind_mem
    rw [← hb.kind] at hplugin hjoin hleave
    exact classify_skip_of_unknown_channel hplugin hjoin hleave hb.channel hmissing
  have hemitted : emitted s s' = [b] := by
    simp [emitted, hb.queued]
  simp [deliveredLive, hemitted, hskip]

def homeServer : AppState :=
  { db :=
      { users :=
          [{ id := "1", username := "ann" },
            { id := "7@b.example", username := "bob@b.example", origin := some "b.example" }]
        spaces := [{ id := "10", name := "home", ownerId := "1", federationEnabled := true }]
        channels := [{ id := "20", spaceId := some "10" }]
        roles :=
          [{ id := "30"
             spaceId := "10"
             name := "everyone"
             permissions := ["view_channel", "send_messages", "read_history"] }]
        members :=
          [{ userId := "1", spaceId := "10" },
            { userId := "7@b.example", spaceId := "10", origin := some "b.example" }] }
    federation := some { domain := "a.example", publicUrl := "https://a.example" }
    ext := Externals.fixed "2025-01-01 00:00:00"
    snowflake := 100 }

def bobSends : RemoteAction :=
  .send { actor := { id := "7@b.example" }, channelId := "20", content := "hi" }

def annListening : Recipient := { userId := "1", spaceIds := ["10"], intents := ["messages"] }

def afterBobSends : AppState := ((bobSends.serve "a.example" "b.example").exec homeServer).2

theorem bob_sends_ann_hears_nothing :
    ((bobSends.serve "a.example" "b.example").exec homeServer).1 = .ok () ∧
      listens afterBobSends.db "10" "20" bobSends.eventKind annListening = true ∧
      deliveredLive homeServer afterBobSends [annListening] "10" "20" bobSends.eventKind = false := by
  decide +kernel

theorem bob_sends_delivered_iff_nobody_listens :
    deliveredLive homeServer afterBobSends [annListening] "10" "20" bobSends.eventKind = true ↔
      ∀ r ∈ [annListening], listens afterBobSends.db "10" "20" bobSends.eventKind r = false :=
  @remote_action_not_delivered_live "a.example" "b.example" "20" "10" bobSends homeServer
    afterBobSends [annListening] (by decide) (Prod.ext (by decide +kernel) rfl) rfl (by decide)

end Vokusz.Gateway
