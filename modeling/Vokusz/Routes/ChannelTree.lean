import Vokusz.Routes.ChannelEdits

namespace Vokusz.Routes.ChannelEdits

open Db Permissions Federation
open Lib (Prog)
open Db.Channels (CreateChannel UpdateChannel)

def Category (db : Tables) (spaceId : Option String) (id : String) : Prop :=
  ∃ q ∈ db.channels, q.id = id ∧ q.channelType = "category" ∧ q.spaceId = spaceId ∧
    spaceId.isSome = true

structure Tree (db : Tables) : Prop where
  distinct : Lib.Table.Distinct ChannelRow.id db.channels
  parents : ∀ c ∈ db.channels, ∀ p, c.parentId = some p → Category db c.spaceId p
  roots : ∀ c ∈ db.channels, c.channelType = "category" → c.parentId = none

section

variable {db db' : Tables}

theorem tree_congr (h : Tree db) (hchannels : db'.channels = db.channels) : Tree db' := by
  obtain ⟨hdistinct, hparents, hroots⟩ := h
  constructor
  · rwa [hchannels]
  · intro c hc p hp
    rw [hchannels] at hc
    obtain ⟨q, hq, hrest⟩ := hparents c hc p hp
    refine ⟨q, ?_, hrest⟩
    rwa [hchannels]
  · rwa [hchannels]

theorem Tree.insert (h : Tree db) {row : ChannelRow} (hfresh : db.hasChannel row.id = false)
    (hparent : ∀ p, row.parentId = some p → row.channelType ≠ "category" ∧ Category db row.spaceId p)
    (hchannels : db'.channels = db.channels ++ [row]) : Tree db' := by
  have hsub : ∀ spaceId p, Category db spaceId p → Category db' spaceId p := by
    rintro spaceId p ⟨q, hq, hrest⟩
    refine ⟨q, ?_, hrest⟩
    rw [hchannels]
    exact List.mem_append_left _ hq
  constructor
  · rw [hchannels]
    refine List.pairwise_append.mpr ⟨h.distinct, List.pairwise_singleton _ _, ?_⟩
    intro c hc x hx heq
    cases List.mem_singleton.mp hx
    have hhas : db.hasChannel row.id = true := Lib.Table.has_iff.mpr ⟨c, hc, heq⟩
    rw [hfresh] at hhas
    cases hhas
  · intro c hc p hp
    rw [hchannels] at hc
    rcases List.mem_append.mp hc with hc | hc
    · exact hsub _ _ (h.parents c hc p hp)
    · cases List.mem_singleton.mp hc
      exact hsub _ _ (hparent p hp).2
  · intro c hc hcategory
    rw [hchannels] at hc
    rcases List.mem_append.mp hc with hc | hc
    · exact h.roots c hc hcategory
    · cases List.mem_singleton.mp hc
      cases hp : row.parentId with
      | none => rfl
      | some p => exact absurd hcategory (hparent p hp).1

theorem Tree.edit (h : Tree db) {f : ChannelRow → ChannelRow}
    (hplace : ∀ c ∈ db.channels, (f c).id = c.id ∧ (f c).spaceId = c.spaceId ∧
      ((f c).channelType = "category" ↔ c.channelType = "category"))
    (hparent : ∀ c ∈ db.channels, ∀ p, (f c).parentId = some p → c.parentId = some p ∨
      c.channelType ≠ "category" ∧ Category db c.spaceId p)
    (hchannels : db'.channels = db.channels.map f) : Tree db' := by
  have hcategory : ∀ spaceId p, Category db spaceId p → Category db' spaceId p := by
    rintro spaceId p ⟨q, hq, hid, htype, hspace, hsome⟩
    obtain ⟨hid', hspace', htype'⟩ := hplace q hq
    refine ⟨f q, ?_, hid'.trans hid, htype'.mpr htype, hspace'.trans hspace, hsome⟩
    rw [hchannels]
    exact List.mem_map_of_mem hq
  constructor
  · rw [hchannels, Lib.Table.Distinct, List.pairwise_map]
    refine h.distinct.imp_of_mem (fun {a b} ha hb hne heq => hne ?_)
    rw [← (hplace a ha).1, ← (hplace b hb).1]
    exact heq
  · intro c hc p hp
    rw [hchannels] at hc
    obtain ⟨old, hold, rfl⟩ := List.mem_map.mp hc
    rw [(hplace old hold).2.1]
    rcases hparent old hold p hp with hkept | ⟨-, hnew⟩
    · exact hcategory _ _ (h.parents old hold p hkept)
    · exact hcategory _ _ hnew
  · intro c hc htype
    rw [hchannels] at hc
    obtain ⟨old, hold, rfl⟩ := List.mem_map.mp hc
    have hroot := (hplace old hold).2.2.mp htype
    cases hp : (f old).parentId with
    | none => rfl
    | some p =>
      rcases hparent old hold p hp with hkept | ⟨hnot, -⟩
      · rw [h.roots old hold hroot] at hkept
        cases hkept
      · exact absurd hroot hnot

theorem Tree.delete (h : Tree db) {id : String}
    (hchannels : db'.channels = (Lib.Table.delete ChannelRow.id id db.channels).map (fun c =>
      if c.parentId = some id then { c with parentId := none } else c)) : Tree db' := by
  have hunset : ∀ c : ChannelRow,
      (if c.parentId = some id then { c with parentId := none } else c).id = c.id ∧
      (if c.parentId = some id then { c with parentId := none } else c).spaceId = c.spaceId ∧
      (if c.parentId = some id then { c with parentId := none } else c).channelType =
        c.channelType := by
    intro c
    split <;> exact ⟨rfl, rfl, rfl⟩
  constructor
  · rw [hchannels, Lib.Table.Distinct, List.pairwise_map]
    refine (Lib.Table.Distinct.delete h.distinct id).imp (fun {a b} hne heq => hne ?_)
    rw [(hunset a).1, (hunset b).1] at heq
    exact heq
  · intro c hc p hp
    rw [hchannels] at hc
    obtain ⟨old, hold, rfl⟩ := List.mem_map.mp hc
    rw [(hunset old).2.1]
    split at hp
    · cases hp
    · rename_i hne
      obtain ⟨q, hq, hid, htype, hspace, hsome⟩ :=
        h.parents old (Lib.Table.mem_delete.mp hold).1 p hp
      have hkept : q.id ≠ id := by
        intro heq
        rw [hid] at heq
        exact hne (hp.trans (congrArg some heq))
      refine ⟨_, ?_, ((hunset q).1).trans hid, ((hunset q).2.2).trans htype,
        ((hunset q).2.1).trans hspace, hsome⟩
      rw [hchannels]
      exact List.mem_map.mpr ⟨q, Lib.Table.mem_delete.mpr ⟨hq, hkept⟩, rfl⟩
  · intro c hc htype
    rw [hchannels] at hc
    obtain ⟨old, hold, rfl⟩ := List.mem_map.mp hc
    rw [(hunset old).2.2] at htype
    have hroot := h.roots old (Lib.Table.mem_delete.mp hold).1 htype
    rw [if_neg (by rw [hroot]; simp)]
    exact hroot

end

section

variable {db : Tables}

theorem validateParent_ok {spaceId : Option String} {kind p : String} {parentId : Option String}
    {u : Unit} (h : Db.Channels.validateParent spaceId kind parentId db = .ok u)
    (hp : parentId = some p) : kind ≠ "category" ∧ Category db spaceId p := by
  subst hp
  obtain ⟨parent, hparent, h⟩ := (Query.bind_ok db).mp h
  obtain ⟨hkind, htype, hsome, hspace⟩ := Query.require_holds h
  obtain ⟨hmem, hid⟩ := Db.Channels.getChannelRow_ok hparent
  exact ⟨hkind, parent, hmem, hid, htype, hspace, hsome⟩

theorem checkTypeChange_ok {existing : ChannelRow} {newType : Option String} {u : Unit}
    (h : checkTypeChange existing newType db = .ok u) :
    newType.getD existing.channelType = "category" ↔ existing.channelType = "category" := by
  cases newType with
  | none => exact Iff.rfl
  | some newType =>
    change newType = "category" ↔ existing.channelType = "category"
    rcases @Query.require_holds _ _ _ _ db h with rfl | hchange
    · exact Iff.rfl
    · simp only [isNonDestructiveTypeChange, textLike, Bool.and_eq_true, decide_eq_true_eq,
        List.mem_cons, List.not_mem_nil, or_false] at hchange
      obtain ⟨hold, hnew⟩ := hchange
      constructor
      · rintro rfl
        rcases hnew with hnew | hnew <;> exact absurd hnew (by decide)
      · intro hcategory
        rw [hcategory] at hold
        rcases hold with hold | hold <;> exact absurd hold (by decide)

end

inductive ChannelRequest where
  | create (spaceId : String) (input : CreateChannel)
  | update (channelId : String) (input : UpdateChannel)
  | reorder (spaceId : String) (updates : List (String × Int))
  | delete (channelId : String)
  deriving DecidableEq, Repr

def ChannelRequest.serve (auth : AuthUser) : ChannelRequest → App Json
  | .create spaceId input => createChannel spaceId auth input
  | .update channelId input => updateChannel channelId auth input
  | .reorder spaceId updates => reorderChannels spaceId auth updates
  | .delete channelId => deleteChannel channelId auth

section

variable {s : AppState} {auth : AuthUser}

def Shaped (s : AppState) : Prop := Tree s.db

theorem shaped_of_channels {α : Type} {p : App α} (hp : p.Preserves AppState.db)
    : p.Maintains Shaped :=
  hp.keeps (fun _ _ heq h => tree_congr h (congrArg Tables.channels heq))

theorem keeps_announced (row : ChannelRow) (send : Json → App Unit)
    (hsend : ∀ json, (send json).Preserves AppState.db) :
    (do
      let json ← Spaces.channelRowToJsonPub row
      send json
      return (.obj [("data", json)] : Json)).Maintains Shaped := by
  refine shaped_of_channels ((Spaces.preserves_channelRowToJsonPub row).bind (fun json => ?_))
  exact (hsend json).bind (fun _ => Prog.preserves_pure _)

theorem stays_insertChannel (h : Shaped s) {row : ChannelRow}
    (hparent : ∀ p, row.parentId = some p →
      row.channelType ≠ "category" ∧ Category s.db row.spaceId p) :
    (Db.Channels.insertChannel row).Stays Shaped s := by
  refine App.stays_write h (fun hcheck => ?_)
  have hfresh : s.db.hasChannel row.id = false := by
    by_contra hused
    rw [Bool.not_eq_false] at hused
    rw [hused] at hcheck
    cases hcheck
  exact Tree.insert h hfresh hparent rfl

theorem stays_dbCreateChannel (h : Shaped s) (spaceId : String) (input : CreateChannel) :
    (Db.Channels.createChannel spaceId input).Stays Shaped s := by
  refine App.stays_checked h (fun _ hcheck => App.stays_generateId h ?_)
  obtain ⟨_, -, hparent⟩ := (Query.bind_ok s.db).mp hcheck
  refine Prog.Stays.bind (R := fun _ => True) ?_ (fun _ => shaped_of_channels (App.preserves_lift _))
  have hnext : Shaped { s with snowflake := s.snowflake + 1 } := h
  exact stays_insertChannel hnext (fun p hp => validateParent_ok hparent hp)

theorem stays_createChannel (h : Shaped s) (spaceId : String) (input : CreateChannel) :
    (createChannel spaceId auth input).Stays Shaped s := by
  refine App.stays_checked h (fun _ _ => ?_)
  refine (stays_dbCreateChannel h spaceId input).bind (R := fun _ => True) (fun row => ?_)
  exact keeps_announced row _ (fun _ => Prog.preserves_modify (fun _ => rfl))

theorem tree_update (h : Tree s.db) {existing : ChannelRow} {channelId : String}
    {input : UpdateChannel} {u : Unit}
    (hexisting : Db.Channels.getChannelRow channelId s.db = .ok existing)
    (htype : input.channelType.getD existing.channelType = "category" ↔
      existing.channelType = "category")
    (hparent : Db.Channels.checkParentUpdate channelId input s.db = .ok u) :
    Tree { s.db with
      channels := Lib.Table.update ChannelRow.id channelId input.apply s.db.channels } := by
  obtain ⟨hmem, hid⟩ := Db.Channels.getChannelRow_ok hexisting
  have hrow : ∀ c ∈ s.db.channels, c.id = channelId → c = existing := by
    intro c hc hkey
    have hc' := Lib.Table.Distinct.lookup_eq h.distinct hc
    have hexisting' := Lib.Table.Distinct.lookup_eq h.distinct hmem
    rw [hkey] at hc'
    rw [hid, hc'] at hexisting'
    exact Option.some.inj hexisting'
  refine h.edit (f := fun c => if c.id = channelId then input.apply c else c) (fun c hc => ?_)
    (fun c hc p hp => ?_) rfl
  · split
    · rename_i hkey
      cases hrow c hc hkey
      exact ⟨rfl, rfl, htype⟩
    · exact ⟨rfl, rfl, Iff.rfl⟩
  · split at hp
    · rename_i hkey
      cases hrow c hc hkey
      cases hinput : input.parentId with
      | none =>
        left
        simpa [Db.Channels.UpdateChannel.apply, hinput] using hp
      | some parent =>
        right
        have hnew : parent = some p := by
          simpa [Db.Channels.UpdateChannel.apply, hinput] using hp
        unfold Db.Channels.checkParentUpdate at hparent
        rw [hinput] at hparent
        obtain ⟨channel, hchannel, hvalid⟩ := (Query.bind_ok s.db).mp hparent
        rw [hexisting] at hchannel
        cases hchannel
        obtain ⟨hkind, hcategory⟩ := validateParent_ok hvalid hnew
        exact ⟨fun hold => hkind (htype.mpr hold), hcategory⟩
    · exact .inl hp

theorem stays_dbUpdateChannel (h : Shaped s) {existing : ChannelRow} {channelId : String}
    {input : UpdateChannel} (hexisting : Db.Channels.getChannelRow channelId s.db = .ok existing)
    (htype : input.channelType.getD existing.channelType = "category" ↔
      existing.channelType = "category") :
    (Db.Channels.updateChannel channelId input).Stays Shaped s := by
  refine App.stays_checked h (fun _ hcheck => ?_)
  obtain ⟨_, -, hparent⟩ := (Query.bind_ok s.db).mp hcheck
  refine Prog.Stays.bind (R := fun _ => True) ?_ (fun _ => shaped_of_channels (App.preserves_lift _))
  exact App.stays_write h (fun _ => tree_update h hexisting htype hparent)

theorem preserves_announceUpdate (existing : ChannelRow) (json : Json) :
    (announceUpdate existing json).Preserves AppState.db := by
  refine Prog.preserves_ite ?_ ?_
  · exact (App.preserves_lift _).bind (fun _ => Prog.preserves_modify (fun _ => rfl))
  · cases existing.spaceId with
    | none => exact Prog.preserves_pure _
    | some spaceId => exact Prog.preserves_modify (fun _ => rfl)

theorem stays_updateChannel (h : Shaped s) (channelId : String) (input : UpdateChannel) :
    (updateChannel channelId auth input).Stays Shaped s := by
  refine App.stays_checked h (fun existing hcheck => ?_)
  obtain ⟨found, hfound, hcheck⟩ := (Query.bind_ok s.db).mp hcheck
  obtain ⟨_, -, hcheck⟩ := (Query.bind_ok s.db).mp hcheck
  obtain ⟨_, htype, hsame⟩ := (Query.bind_ok s.db).mp hcheck
  cases hsame
  refine (stays_dbUpdateChannel h hfound (checkTypeChange_ok htype)).bind (R := fun _ => True)
    (fun row => ?_)
  exact keeps_announced row _ (preserves_announceUpdate existing)

theorem foldl_moveRow (spaceId : String) (updates : List (String × Int)) (rows : List ChannelRow) :
    ∃ f : ChannelRow → ChannelRow, updates.foldl (Db.Channels.moveRow spaceId) rows = rows.map f ∧
      ∀ c, (f c).id = c.id ∧ (f c).spaceId = c.spaceId ∧ (f c).channelType = c.channelType ∧
        (f c).parentId = c.parentId := by
  induction updates generalizing rows with
  | nil => exact ⟨id, (List.map_id rows).symm, fun _ => ⟨rfl, rfl, rfl, rfl⟩⟩
  | cons u updates ih =>
    obtain ⟨f, hf, hsame⟩ := ih (Db.Channels.moveRow spaceId rows u)
    refine ⟨fun c => f (if c.id = u.1 ∧ c.spaceId = some spaceId then
      { c with position := u.2 } else c), ?_, fun c => ?_⟩
    · rw [List.foldl_cons, hf, Db.Channels.moveRow, List.map_map]
      rfl
    · dsimp only
      split
      · exact hsame { c with position := u.2 }
      · exact hsame c

theorem preserves_channelsJson (rows : List ChannelRow) :
    (channelsJson rows).Preserves AppState.db := by
  induction rows with
  | nil => exact Prog.preserves_pure _
  | cons row rows ih =>
    refine (Spaces.preserves_channelRowToJsonPub row).bind (fun _ => ?_)
    exact ih.bind (fun _ => Prog.preserves_pure _)

theorem tree_moveRows (h : Tree s.db) (spaceId : String) (updates : List (String × Int)) :
    Tree { s.db with channels := updates.foldl (Db.Channels.moveRow spaceId) s.db.channels } := by
  obtain ⟨f, hf, hsame⟩ := foldl_moveRow spaceId updates s.db.channels
  refine h.edit (f := f) (fun c _ => ?_) (fun c _ p hp => ?_) hf
  · obtain ⟨hid, hspace, htype, -⟩ := hsame c
    exact ⟨hid, hspace, by rw [htype]⟩
  · rw [(hsame c).2.2.2] at hp
    exact .inl hp

theorem stays_reorderChannels (h : Shaped s) (spaceId : String) (updates : List (String × Int)) :
    (reorderChannels spaceId auth updates).Stays Shaped s := by
  refine App.stays_checked h (fun _ _ => Prog.Stays.bind (R := fun _ => True) ?_ (fun _ => ?_))
  · refine App.stays_checked h (fun _ _ => ?_)
    exact App.stays_write h (fun _ => tree_moveRows h spaceId updates)
  · refine shaped_of_channels ((App.preserves_lift _).bind (fun rows => ?_))
    refine (preserves_channelsJson rows).bind (fun _ => ?_)
    exact Prog.Preserves.bind (Prog.preserves_modify (fun _ => rfl))
      (fun _ => Prog.preserves_pure _)

theorem keeps_dbDeleteChannel (channelId : String) :
    (Db.Channels.deleteChannel channelId).Maintains Shaped :=
  App.keeps_update (fun s h => @Tree.delete s.db _ h channelId rfl)

theorem keeps_passOn (existing : ChannelRow) :
    (passOn existing auth).Maintains Shaped := by
  unfold passOn
  refine Prog.keeps_ite ?_ trivial
  refine Prog.Keeps.bind (shaped_of_channels (App.preserves_lift _)) (fun ids _ => ?_)
  cases ids with
  | nil => trivial
  | cons newOwner _ =>
    refine App.keeps_write (fun s h => ?_)
    refine Tree.edit h (f := fun c => if c.id = existing.id then
      { c with ownerId := some newOwner } else c) (fun c _ => ?_) (fun c _ p hp => .inl ?_) rfl
    · split <;> exact ⟨rfl, rfl, Iff.rfl⟩
    · split at hp <;> exact hp

theorem keeps_leaveDm (existing : ChannelRow) :
    (leaveDm existing auth).Maintains Shaped := by
  refine Prog.Keeps.bind (shaped_of_channels (App.preserves_lift _)) (fun _ _ => ?_)
  refine Prog.Keeps.bind (App.keeps_update (fun s h => tree_congr h rfl)) (fun _ _ => ?_)
  refine Prog.Keeps.bind (Q := fun _ => True) ?_ (fun _ _ => ?_)
  · refine Prog.Keeps.bind (shaped_of_channels (App.preserves_lift _)) (fun remaining _ => ?_)
    exact Prog.keeps_ite (keeps_dbDeleteChannel existing.id) (keeps_passOn existing)
  · refine shaped_of_channels (Prog.Preserves.bind ?_ (fun _ => Prog.preserves_pure _))
    refine (App.preserves_lift _).bind (fun ids => Prog.preserves_ite (Prog.preserves_pure _) ?_)
    refine (App.preserves_lift _).bind (fun row => ?_)
    exact (Spaces.preserves_channelRowToJsonPub row).bind
      (fun _ => Prog.preserves_modify (fun _ => rfl))

theorem keeps_deleteSpaceChannel (existing : ChannelRow) :
    (deleteSpaceChannel existing auth).Maintains Shaped := by
  have hannounce : (announceDelete existing).Preserves AppState.db := by
    unfold announceDelete
    cases existing.spaceId with
    | none => exact Prog.preserves_pure _
    | some spaceId => exact Prog.preserves_modify (fun _ => rfl)
  refine Prog.Keeps.bind (shaped_of_channels (App.preserves_lift _)) (fun _ _ => ?_)
  refine (shaped_of_channels hannounce).bind (fun _ _ => ?_)
  exact (keeps_dbDeleteChannel existing.id).bind (fun _ _ => trivial)

theorem keeps_deleteChannel (channelId : String) :
    (deleteChannel channelId auth).Maintains Shaped := by
  refine Prog.Keeps.bind (shaped_of_channels (App.preserves_lift _)) (fun existing _ => ?_)
  exact Prog.keeps_ite (keeps_leaveDm existing) (keeps_deleteSpaceChannel existing)

theorem stays_serve (req : ChannelRequest) (h : Shaped s) : (req.serve auth).Stays Shaped s := by
  cases req with
  | create spaceId input => exact stays_createChannel h spaceId input
  | update channelId input => exact stays_updateChannel h channelId input
  | reorder spaceId updates => exact stays_reorderChannels h spaceId updates
  | delete channelId => exact (keeps_deleteChannel channelId).stays h

end

def served (req : AuthUser × ChannelRequest) : App Json := req.2.serve req.1

theorem channel_tree_shape {s t : AppState} (hstart : Tree s.db)
    (hrun : Prog.Succession served s t) :
    (∀ c ∈ t.db.channels, ∀ p, c.parentId = some p →
      ∃ q ∈ t.db.channels, q.id = p ∧ q.channelType = "category" ∧
        q.spaceId = c.spaceId ∧ c.spaceId.isSome = true ∧ q.parentId = none) ∧
      ∀ c ∈ t.db.channels, c.channelType = "category" → c.parentId = none := by
  have htree : Tree t.db := hrun.stays (fun req _ h => stays_serve req.2 h) hstart
  refine ⟨fun c hc p hp => ?_, htree.roots⟩
  obtain ⟨q, hq, hid, htype, hspace, hsome⟩ := htree.parents c hc p hp
  exact ⟨q, hq, hid, htype, hspace, hsome, htree.roots q hq htype⟩

def newSpace : AppState :=
  { db := { users := [{ id := "1", username := "ann" }]
            spaces := [{ id := "10", name := "garden", ownerId := "1" }] }
    ext := .fixed ""
    snowflake := 20 }

def owner : AuthUser := { userId := "1", isAdmin := true }

def furnish : List (AuthUser × ChannelRequest) :=
  [(owner, .create "10" { name := "rooms", channelType := "category" }),
    (owner, .create "10" { name := "talk", parentId := some "20" }),
    (owner, .create "10" { name := "more", channelType := "category", parentId := some "20" }),
    (owner, .update "21" { parentId := some (some "21") }),
    (owner, .update "20" { channelType := some "text" }),
    (owner, .create "10" { name := "news", parentId := some "20" })]

def furnished : AppState := furnish.foldl (fun s req => ((served req).exec s).2) newSpace

theorem furnished_tree :
    (∀ c ∈ furnished.db.channels, ∀ p, c.parentId = some p →
      ∃ q ∈ furnished.db.channels, q.id = p ∧ q.channelType = "category" ∧
        q.spaceId = c.spaceId ∧ c.spaceId.isSome = true ∧ q.parentId = none) ∧
      ∀ c ∈ furnished.db.channels, c.channelType = "category" → c.parentId = none :=
  channel_tree_shape (s := newSpace)
    ⟨List.Pairwise.nil, fun _ hc => absurd hc List.not_mem_nil,
      fun _ hc => absurd hc List.not_mem_nil⟩ (Prog.succession_exec furnish newSpace)

example : furnished.db.channels.map (fun c => (c.id, c.parentId)) =
    [("20", none), ("21", some "20"), ("22", some "20")] := by
  decide +kernel

end Vokusz.Routes.ChannelEdits
