import Vokusz.Db.ReadStates
import Vokusz.Federation.Footprint
import Vokusz.Lib.Settling

namespace Vokusz.Federation

open App Db Mapping
open Lib (Prog)

def settings (s : AppState) : Externals × Option FederationContext := (s.ext, s.federation)

abbrev Settled {α : Type} (p : App α) : Prop := p.Settles settings AppState.db

abbrev Checked {α : Type} (p : App α) : Prop := p.Fixed settings

abbrev Mirrors {α : Type} (p : App α) : Prop := p.Refreshes settings AppState.db Tables.users

section

variable {α β : Type} {p : App α} {f : α → App β}

theorem preserves_broadcastSpace (spaceId : Option String) (eventType : String) (data : Json)
    (intent : String) : (broadcastSpace spaceId eventType data intent).Preserves AppState.db :=
  Prog.preserves_modify (fun _ => rfl)

theorem preserves_broadcastMessage (channelId eventType : String) (data : Json) :
    (Dm.broadcastMessage channelId eventType data).Preserves AppState.db := by
  apply (preserves_found? _).bind
  intro ids
  exact Prog.preserves_ite (Prog.preserves_pure _) (Prog.preserves_modify (fun _ => rfl))

theorem preserves_rebroadcastUpdate (messageId : String) :
    (Apply.rebroadcastUpdate messageId).Preserves AppState.db := by
  apply (preserves_found? _).bind
  rintro (_ | row)
  · exact Prog.preserves_pure _
  · exact preserves_broadcastSpace _ _ _ _

theorem checked_orBadRequest (what : String) (parsed : Option α) :
    Checked (orBadRequest what parsed) := by
  cases parsed with
  | none => exact Prog.fixed_fail _
  | some a => exact Prog.fixed_pure a

theorem checked_liftExcept (r : Except AppError α) :
    Checked (MonadLiftT.monadLift r : App α) := Prog.fixed_ofExcept r

theorem checked_validateOptionalUrl (url : Option String) (what : String) :
    Checked (Apply.validateOptionalUrl url what) := by
  cases url with
  | none => exact Prog.fixed_pure ()
  | some url =>
    have hexternals : Checked App.externals :=
      Prog.fixed_get (fun _ _ h => congrArg Prod.fst h)
    exact hexternals.bind
      (fun _ => (Prog.fixed_require _ _).bind (fun _ => Prog.fixed_require _ _))

theorem checked_checkMessageCreate (peer : String) (payload : Apply.RemoteMessagePayload) :
    Checked (Apply.checkMessageCreate peer payload) := by
  refine (checked_liftExcept _).bind (fun _ => ?_)
  refine (checked_liftExcept _).bind (fun _ => ?_)
  refine (checked_liftExcept _).bind (fun _ => ?_)
  refine (checked_liftExcept _).bind (fun _ => ?_)
  refine (Prog.fixed_require _ _).bind (fun _ => ?_)
  refine (Prog.fixed_require _ _).bind (fun _ => ?_)
  refine (Prog.fixed_require _ _).bind (fun _ => ?_)
  exact (Prog.fixed_require _ _).bind (fun _ => checked_validateOptionalUrl _ _)

theorem checked_checkDmMessageCreate (peer : String) (payload : Apply.RemoteMessagePayload) :
    Checked (Dm.checkDmMessageCreate peer payload) := by
  refine (checked_liftExcept _).bind (fun _ => ?_)
  refine (checked_liftExcept _).bind (fun _ => ?_)
  exact (checked_liftExcept _).bind (fun _ => Prog.fixed_require _ _)

theorem settled_found {q : Query α} {f : Option α → App β} {κ : Type} (part : Tables → κ)
    (hq : ∀ db db', part db = part db' → f (q db).toOption = f (q db').toOption)
    (hpart : ∀ o, (f o).Preserves (fun s => part s.db)) (hf : ∀ o, Settled (f o)) :
    Settled (found? q >>= f) :=
  Prog.Settles.read_bind (q := fun db => (q db).toOption) (fun _ => exec_found? q) hq hpart hf

theorem settled_mirrored {rest : App β} (h : Mirrors p) (hp : Touches [.users] p)
    (hrest : rest.Preserves (fun s => s.db.users)) (hsettled : Settled rest) :
    Settled (p >>= fun _ => rest) := by
  have hext : p.Preserves AppState.ext := hp .ext (by decide)
  have hfederation : p.Preserves AppState.federation := hp .federation (by decide)
  exact h.bind (hext.pair hfederation) hrest hsettled

theorem settled_check {r : Except AppError Unit} {f : Unit → App α}
    (hf : r = .ok () → Settled (f ())) :
    Settled ((MonadLiftT.monadLift r : App Unit) >>= f) := by
  apply Prog.Settles.fixed_bind (checked_liftExcept r)
  intro _ s hok
  exact hf (exec_liftExcept_ok.mp hok).1

theorem settled_guarded {c : Tables → Prop} [DecidablePred c] {g : Tables → Tables}
    (h : ∀ s : AppState, (p.exec s).2.db = if c s.db then g s.db else s.db)
    (hg : ∀ db, c db → c (g db) → g (g db) = g db) : Settled p := by
  apply Prog.settles_of_effect (G := fun db => if c db then g db else db) h
  intro db
  by_cases hc : c db
  · rw [if_pos hc]
    by_cases hagain : c (g db)
    · rw [if_pos hagain, hg db hc hagain]
    · rw [if_neg hagain]
  · rw [if_neg hc, if_neg hc]

theorem settled_write {check : Tables → Option AppError} {g : Tables → Tables}
    (hg : ∀ db, g (g db) = g db) {f : Unit → App β} (hf : ∀ u, (f u).Preserves AppState.db) :
    Settled (write check g >>= f) := by
  apply settled_guarded (c := fun db => check db = none)
  · intro s
    rw [exec_bind_db hf, exec_write]
    cases check s.db <;> rfl
  · exact fun db _ _ => hg db

theorem settled_update {g : Tables → Tables} (hg : ∀ db, g (g db) = g db)
    {f : Unit → App β} (hf : ∀ u, (f u).Preserves AppState.db) : Settled (update g >>= f) :=
  settled_write hg hf

theorem mirrors_write {check : Tables → Option AppError} {g : Tables → Tables}
    (hstored : ∀ db db', check db = none → db'.users = (g db).users →
      check db' = none ∧ g db' = db')
    (hrefused : ∀ db db', check db ≠ none → db'.users = db.users → check db' ≠ none) :
    Mirrors (write check g) := by
  intro s u _ husers
  rw [exec_write] at husers ⊢
  rw [exec_write]
  cases hs : check s.db with
  | none =>
    rw [hs] at husers
    obtain ⟨hu, hsame⟩ := hstored s.db u.db hs husers
    rw [hu]
    exact ⟨hsame, rfl⟩
  | some e =>
    rw [hs] at husers
    have hu := hrefused s.db u.db (by rw [hs]; exact Option.some_ne_none e) husers
    cases hcheck : check u.db with
    | none => exact absurd hcheck hu
    | some e' => exact ⟨rfl, rfl⟩

end

section

variable {id origin userHandle domain : String} {displayName avatar : Option String}

theorem hasUser_of_users {db db' : Tables} (h : db'.users = db.users) (id : String) :
    db'.hasUser id = db.hasUser id := by
  rw [Tables.hasUser, h, Tables.hasUser]

theorem usernameFree_of_users {db db' : Tables} (h : db'.users = db.users)
    (id username : String) : db'.usernameFree id username = db.usernameFree id username := by
  rw [Tables.usernameFree, h, Tables.usernameFree]

theorem mirrors_ensureRemoteUser :
    Mirrors (Users.ensureRemoteUser id origin userHandle displayName avatar) := by
  apply mirrors_write
  · intro db db' _ husers
    have hstored : db'.hasUser id = true := by
      rw [Tables.hasUser, husers]
      exact Lib.Table.has_insertNew
    constructor
    · rw [hstored, Bool.true_or]
      rfl
    · have hkept : Lib.Table.insertNew User.id
          (Users.remoteUser id origin userHandle displayName avatar) db'.users = db'.users :=
        Lib.Table.insertNew_of_has hstored
      rw [hkept]
  · intro db db' hcheck husers
    rwa [hasUser_of_users husers, usernameFree_of_users husers]

theorem usernameFree_upsert {db db' : Tables} {set : User → User}
    (hfree : db.usernameFree id userHandle = true)
    (husers : db'.users = Lib.Table.upsert User.id
      (Users.remoteUser id origin userHandle displayName avatar) set db.users)
    (hid : ∀ u, (set u).id = u.id) :
    db'.usernameFree id userHandle = true := by
  rw [Tables.usernameFree, List.all_eq_true] at hfree ⊢
  intro u hu
  rw [husers] at hu
  rcases Lib.Table.mem_upsert hu with hold | rfl | ⟨old, _, hold, rfl⟩
  · exact hfree u hold
  · simp [Users.remoteUser]
  · have hsame : (set old).id = id := (hid old).trans hold
    simp [hsame]

theorem mirrors_upsertRemoteUser :
    Mirrors (Users.upsertRemoteUser id origin userHandle displayName avatar) := by
  refine Prog.Refreshes.then_read (q := fun us => Users.getUser id { users := us })
    (mirrors_write ?_ ?_) (fun s => exec_lift _)
  · intro db db' hcheck husers
    have hfree : db.usernameFree id userHandle = true := by
      cases hfree : db.usernameFree id userHandle with
      | true => rfl
      | false => simp [hfree, App.unique] at hcheck
    constructor
    · rw [usernameFree_upsert hfree husers (fun _ => rfl)]
      rfl
    · dsimp only at husers
      rw [husers, Lib.Table.upsert_upsert, ← husers]
      · rfl
      · exact fun _ => rfl
      · exact fun _ => rfl
  · intro db db' hcheck husers
    rwa [usernameFree_of_users husers]

theorem mirrors_mirrorForeignUser :
    Mirrors (mirrorForeignUser domain id userHandle displayName avatar) := by
  unfold mirrorForeignUser
  dsimp only
  split
  · exact mirrors_upsertRemoteUser.then_read (q := fun _ => .ok ()) (fun _ => rfl)
  · exact mirrors_ensureRemoteUser

theorem mirrors_mirrorOwnUser (h : containsAt id = true) : Mirrors (mirrorOwnUser domain id) := by
  have hread : ∀ s : AppState, (found? (Users.getUser (localPart id))).exec s =
      (.ok (Users.getUser (localPart id) { users := s.db.users }).toOption, s) :=
    fun s => exec_found? _
  have hother : id ≠ localPart id := by
    intro heq
    have hbare := containsAt_localPart id
    rw [← heq, h] at hbare
    cases hbare
  refine Prog.Refreshes.read_bind
    (q := fun us => (Users.getUser (localPart id) { users := us }).toOption) hread ?_ ?_
  · intro s
    cases hfound : (Users.getUser (localPart id) { users := s.db.users }).toOption with
    | none => exact hfound
    | some own =>
      dsimp only
      split
      · exact hfound
      · rw [Users.exec_ensureRemoteUser]
        split
        · rw [← hfound]
          dsimp only [AppState.withDb_db]
          rw [Users.getUser, Lib.Table.lookup_insertNew_of_ne hother]
          rfl
        · exact hfound
  · intro found
    cases found with
    | none => exact Prog.refreshes_fail _
    | some own =>
      dsimp only
      split
      · exact Prog.refreshes_fail _
      · exact mirrors_ensureRemoteUser

theorem mirrors_mirrorRef {user : RemoteUserRef} (h : containsAt user.id = true) :
    Mirrors (mirrorRef domain user) := by
  have hfederation : Checked App.federation :=
    Prog.fixed_get (fun _ _ h => congrArg Prod.snd h)
  apply Prog.Refreshes.fixed_bind hfederation
  intro fed
  cases fed with
  | none => exact mirrors_mirrorForeignUser
  | some fed =>
    dsimp only
    split
    · exact mirrors_mirrorOwnUser h
    · exact mirrors_mirrorForeignUser

end

section

variable {peer : String} {env : FederationEnvelope}

theorem settled_applyTyping : Settled (Apply.applyTyping env) :=
  Prog.settles_of_preserves (preserves_broadcastSpace _ _ _ _)

theorem settled_applyMemberLeave : Settled (Apply.applyMemberLeave env) := by
  unfold Apply.applyMemberLeave
  cases env.spaceId with
  | none => exact Prog.settles_of_preserves (Prog.preserves_fail _)
  | some spaceId =>
    apply Prog.Settles.fixed_bind (checked_orBadRequest _ _)
    intro userId _ _
    apply settled_found Tables.spaces
    · intro db db' hspaces
      rw [Spaces.getSpaceRow, hspaces, Spaces.getSpaceRow]
    · rintro (_ | space)
      · exact Prog.preserves_pure _
      · have hspaces : (Members.removeMember spaceId userId).Preserves (AppState.slot .spaces) :=
          Members.touches_removeMember .spaces (by decide)
        exact hspaces.bind (fun _ => touches_broadcastSpace _ _ _ _ .spaces (by decide))
    · rintro (_ | space)
      · exact Prog.settles_of_preserves (Prog.preserves_pure _)
      · apply settled_update
        · intro db
          simp only [Tables.removeMember, List.filter_filter, Bool.and_self]
        · exact fun _ => preserves_broadcastSpace _ _ _ _

theorem settled_applyMemberJoin : Settled (Apply.applyMemberJoin peer env) := by
  unfold Apply.applyMemberJoin
  cases env.spaceId with
  | none => exact Prog.settles_of_preserves (Prog.preserves_fail _)
  | some spaceId =>
    apply Prog.Settles.fixed_bind (checked_orBadRequest _ _)
    intro user _ _
    have hadded : Touches [.members, .gatewayTx] (do
        Federation.addMemberWithOrigin spaceId user.id (some (homeOf user.id peer))
        broadcastSpace (some spaceId) "member.join" (Apply.memberEventJson spaceId user.id)
          "members") := by
      apply ((Federation.touches_addMemberWithOrigin _).mono (by decide)).bind
      exact fun _ => (touches_broadcastSpace _ _ _ _).mono (by decide)
    apply settled_found Tables.spaces
    · intro db db' hspaces
      rw [Spaces.getSpaceRow, hspaces, Spaces.getSpaceRow]
    · rintro (_ | space)
      · exact Prog.preserves_pure _
      · apply (preserves_liftExcept _).bind
        intro _
        apply (touches_mirrorRef _ _ .spaces (by decide)).bind
        exact fun _ => hadded .spaces (by decide)
    · rintro (_ | space)
      · exact Prog.settles_of_preserves (Prog.preserves_pure _)
      · apply settled_check
        intro hremote
        apply settled_mirrored (mirrors_mirrorRef (Authority.requireRemoteTarget_ok.mp hremote))
          (touches_mirrorRef _ _) (hadded .users (by decide))
        apply settled_write
        · intro db
          simp only [Members.insertMember]
          rw [Lib.Table.insertNew_of_has Lib.Table.has_insertNew]
        · exact fun _ => preserves_broadcastSpace _ _ _ _

theorem settled_changeReaction (add : Bool) (messageId userId emoji : String) {β : Type}
    {f : Unit → App β} (hf : ∀ u, (f u).Preserves AppState.db) :
    Settled (Messages.changeReaction add messageId userId emoji >>= f) := by
  cases add with
  | true =>
    rw [Messages.changeReaction, if_pos rfl]
    apply settled_write
    · intro db
      dsimp only
      rw [Lib.Table.insertNew_of_has Lib.Table.has_insertNew]
    · exact hf
  | false =>
    rw [Messages.changeReaction, if_neg Bool.false_ne_true]
    apply settled_update
    · intro db
      simp only [List.filter_filter, Bool.and_self]
    · exact hf

theorem settled_applyReaction (add : Bool) : Settled (Apply.applyReaction peer env add) := by
  apply Prog.Settles.fixed_bind (checked_orBadRequest _ _)
  intro payload _ _
  apply settled_check
  intro _
  apply settled_check
  intro _
  apply settled_check
  intro hremote
  apply Prog.Settles.fixed_bind (Prog.fixed_require _ _)
  intro _ _ _
  have hchanged : ∀ spaceId, Touches [.reactions, .gatewayTx] (do
      Messages.changeReaction add payload.messageId payload.userId payload.emoji
      broadcastSpace spaceId (if add then "reaction.add" else "reaction.remove")
        payload.toJson "message_reactions") := by
    intro spaceId
    apply ((Messages.touches_changeReaction _ _).mono (by decide)).bind
    exact fun _ => (touches_broadcastSpace _ _ _ _).mono (by decide)
  apply settled_found Tables.messages
  · intro db db' hmessages
    rw [Messages.getMessageRow, hmessages, Messages.getMessageRow]
  · rintro (_ | msg)
    · exact Prog.preserves_pure _
    · apply (Users.touches_ensureRemoteUser _ _ _ _ _ .messages (by decide)).bind
      exact fun _ => hchanged _ .messages (by decide)
  · rintro (_ | msg)
    · exact Prog.settles_of_preserves (Prog.preserves_pure _)
    · apply settled_mirrored mirrors_ensureRemoteUser (Users.touches_ensureRemoteUser _ _ _ _ _)
        (hchanged _ .users (by decide))
      exact settled_changeReaction _ _ _ _ (fun _ => preserves_broadcastSpace _ _ _ _)

def edit (content editedAt : Option String) (m : MessageRow) : MessageRow :=
  { m with content := content.getD m.content, editedAt := editedAt.or m.editedAt }

theorem updateMessage_twice {id : String} {g h : MessageRow → MessageRow} (db : Tables)
    (hg : ∀ m, (g m).id = m.id) :
    (db.updateMessage id g).updateMessage id h = db.updateMessage id (fun m => h (g m)) := by
  simp only [Tables.updateMessage]
  rw [Lib.Table.update_update (fun m hm => (hg m).trans hm)]

theorem edit_id (content editedAt : Option String) (m : MessageRow) :
    (edit content editedAt m).id = m.id := rfl

theorem edit_twice (id : String) (content editedAt : Option String) (db : Tables) :
    (db.updateMessage id (edit content editedAt)).updateMessage id (edit content editedAt) =
      db.updateMessage id (edit content editedAt) := by
  have hsame : ∀ m, edit content editedAt (edit content editedAt m) = edit content editedAt m := by
    intro m
    cases content <;> cases editedAt <;> rfl
  rw [updateMessage_twice db (edit_id content editedAt)]
  simp only [hsame]

theorem exec_editRemoteMessage_db (s : AppState) (id : String) (content editedAt : Option String) :
    ((Messages.editRemoteMessage id content editedAt).exec s).2.db =
      s.db.updateMessage id (edit content editedAt) := by
  have hnothing : s.db.updateMessage id (fun m => m) = s.db := by
    simp only [Tables.updateMessage, Lib.Table.update, ite_self, List.map_id']
  unfold Messages.editRemoteMessage
  cases content with
  | none =>
    rw [Prog.exec_bind_of_ok rfl]
    cases editedAt with
    | none => exact hnothing.symm
    | some time => exact congrArg (fun r => r.2.db) (exec_update _)
  | some text =>
    have htext : (Messages.assignColumn (some text) id
        (fun content m => { m with content := content })).exec s =
          (.ok (), s.withDb (s.db.updateMessage id (edit (some text) none))) := exec_update _
    rw [Prog.exec_bind_of_ok htext]
    cases editedAt with
    | none => rfl
    | some time =>
      refine (congrArg (fun r => r.2.db) (exec_update _)).trans ?_
      exact updateMessage_twice s.db (fun _ => rfl)

theorem settled_applyMessageUpdate : Settled (Apply.applyMessageUpdate peer env) := by
  apply Prog.Settles.fixed_bind (checked_orBadRequest _ _)
  intro payload _ _
  apply settled_check
  intro _
  apply Prog.Settles.fixed_bind (Prog.fixed_require _ _)
  intro _ _ _
  apply settled_guarded
    (c := fun db =>
      (Lib.Table.lookup MessageRow.id payload.id db.messages).bind MessageRow.origin = some peer)
  · intro s
    rw [Prog.exec_bind_of_ok (exec_found? _)]
    unfold Messages.getMessageRow
    cases hrow : Lib.Table.lookup MessageRow.id payload.id s.db.messages with
    | none => simp [Except.toOption]
    | some row =>
      simp only [Except.toOption, Option.bind_some]
      by_cases horigin : row.origin = some peer
      · rw [if_neg (not_not.mpr horigin), if_pos horigin,
          exec_bind_db (fun _ => preserves_rebroadcastUpdate _)]
        exact exec_editRemoteMessage_db s _ _ _
      · rw [if_pos horigin, if_neg horigin]
        rfl
  · exact fun db _ _ => edit_twice _ _ _ db

theorem settled_applyMessageDelete : Settled (Apply.applyMessageDelete peer env) := by
  apply Prog.Settles.fixed_bind (checked_orBadRequest _ _)
  intro payload _ _
  apply settled_check
  intro _
  apply settled_guarded (g := fun db => db.deleteMessages [payload.id])
    (c := fun db =>
      (Lib.Table.lookup MessageRow.id payload.id db.messages).bind MessageRow.origin = some peer)
  · intro s
    rw [Prog.exec_bind_of_ok (exec_found? _)]
    unfold Messages.getMessageRow
    cases hrow : Lib.Table.lookup MessageRow.id payload.id s.db.messages with
    | none => simp [Except.toOption]
    | some row =>
      simp only [Except.toOption, Option.bind_some]
      by_cases horigin : row.origin = some peer
      · rw [if_neg (not_not.mpr horigin), if_pos horigin,
          exec_bind_db (fun _ => preserves_broadcastSpace _ _ _ _), Messages.deleteMessage,
          exec_update]
        rfl
      · rw [if_pos horigin, if_neg horigin]
        rfl
  · intro db hrow hagain
    have hheld : db.hasMessage payload.id = true := by
      rw [Tables.hasMessage, ← Lib.Table.lookup_isSome]
      obtain ⟨row, hfound, _⟩ := Option.bind_eq_some_iff.mp hrow
      rw [hfound, Option.isSome_some]
    have hgone : payload.id ∈ db.deletedWith [payload.id] :=
      Tables.subset_threadClosure _ _ (by simp [hheld])
    have hnone : Lib.Table.lookup MessageRow.id payload.id
        (db.deleteMessages [payload.id]).messages = none := by
      apply Lib.Table.lookup_none_of_not_has
      have hmissing : (db.deleteMessages [payload.id]).hasMessage payload.id =
          (db.hasMessage payload.id && !(db.deletedWith [payload.id]).contains payload.id) :=
        Tables.hasMessage_deleteMessages
      rw [hheld, List.contains_iff_mem.mpr hgone] at hmissing
      exact hmissing
    rw [hnone] at hagain
    cases hagain

theorem settled_applyEmojiDelete : Settled (Apply.applyEmojiDelete peer env) := by
  apply Prog.Settles.fixed_bind (checked_orBadRequest _ _)
  intro id _ _
  apply settled_check
  intro _
  apply settled_guarded
    (g := fun db =>
      { db with
        emojis := Lib.Table.delete EmojiRow.id id db.emojis
        emojiRoles := db.emojiRoles.filter (fun r => r.emojiId ≠ id) })
    (c := fun db =>
      (Lib.Table.lookup EmojiRow.id id db.emojis).bind EmojiRow.origin = some peer)
  · intro s
    rw [Prog.exec_bind, exec_lift]
    simp only [Emojis.emojiOrigin]
    by_cases horigin : (Lib.Table.lookup EmojiRow.id id s.db.emojis).bind EmojiRow.origin =
        some peer
    · rw [if_neg (not_not.mpr horigin), if_pos horigin, Prog.exec_bind, exec_lift]
      simp only [Emojis.emojiSpaceId]
      rw [exec_bind_db (fun _ => preserves_broadcastSpace _ _ _ _), Emojis.deleteEmoji,
        Prog.exec_bind, exec_query]
      dsimp only
      rw [Prog.exec_bind, exec_update]
      rfl
    · rw [if_pos horigin, if_neg horigin]
      rfl
  · intro db _ hagain
    rw [Lib.Table.lookup_delete, if_pos rfl] at hagain
    cases hagain

end

section

variable {peer : String} {env : FederationEnvelope}

def emojiRoleKey (r : EmojiRole) : String × String := (r.emojiId, r.roleId)

def withEmojiRoles (db : Tables) (id : String) (roleIds : List String) (rows : List EmojiRole) :
    List EmojiRole :=
  roleIds.foldl (fun rows roleId =>
    if db.hasRole roleId then
      Lib.Table.insertNew emojiRoleKey { emojiId := id, roleId := roleId } rows
    else rows) rows

def withEmoji (id origin spaceId name : String) (animated : Bool) (imageUrl : Option String)
    (roleIds : List String) (db : Tables) : Tables :=
  { db with
    emojis := Lib.Table.upsert EmojiRow.id
      { id := id
        spaceId := spaceId
        name := name
        animated := animated
        imagePath := imageUrl
        origin := some origin }
      (fun e =>
        { e with
          name := name
          animated := animated
          imagePath := imageUrl
          origin := some origin })
      db.emojis
    emojiRoles := withEmojiRoles db id roleIds
      (db.emojiRoles.filter (fun r => r.emojiId ≠ id)) }

theorem exec_upsertRemoteEmoji (id origin spaceId name : String) (animated : Bool)
    (imageUrl : Option String) (roleIds : List String) (s : AppState) :
    ((Emojis.upsertRemoteEmoji id origin spaceId name animated imageUrl roleIds).exec s).2.db =
      if (Lib.Table.has EmojiRow.id id s.db.emojis || s.db.hasSpace spaceId) = true then
        withEmoji id origin spaceId name animated imageUrl roleIds s.db
      else s.db := by
  have hloop : ∀ t : AppState, ((Prog.forEach roleIds (fun roleId => do
      let found ← App.query (fun db => .ok (Lib.Table.has RoleRow.id roleId db.roles))
      if found then
        App.update (fun db =>
          { db with
            emojiRoles := Lib.Table.insertNew (fun r : EmojiRole => (r.emojiId, r.roleId))
              { emojiId := id, roleId := roleId } db.emojiRoles })
      else return ())).exec t).2.db =
        { t.db with emojiRoles := withEmojiRoles t.db id roleIds t.db.emojiRoles } := by
    induction roleIds with
    | nil => exact fun t => rfl
    | cons roleId roleIds ih =>
      intro t
      rw [Prog.forEach_cons, Prog.exec_bind, Prog.exec_bind, exec_query]
      dsimp only
      cases hrole : Lib.Table.has RoleRow.id roleId t.db.roles with
      | true =>
        rw [if_pos rfl, exec_update]
        refine (ih _).trans ?_
        simp only [withEmojiRoles, List.foldl_cons, Tables.hasRole, hrole, if_true]
        rfl
      | false =>
        rw [if_neg Bool.false_ne_true]
        refine (ih _).trans ?_
        simp only [withEmojiRoles, List.foldl_cons, Tables.hasRole, hrole, Bool.false_eq_true,
          if_false]
  unfold Emojis.upsertRemoteEmoji
  rw [Prog.exec_bind, exec_write]
  cases hrefs : Lib.Table.has EmojiRow.id id s.db.emojis || s.db.hasSpace spaceId with
  | false => rfl
  | true =>
    rw [if_pos rfl]
    simp only [foreignKey, if_true]
    rw [Prog.exec_bind, exec_update]
    exact hloop _

theorem others_withEmojiRoles (db : Tables) (id : String) (roleIds : List String)
    (rows : List EmojiRole) :
    (withEmojiRoles db id roleIds rows).filter (fun r => r.emojiId ≠ id) =
      rows.filter (fun r => r.emojiId ≠ id) := by
  induction roleIds generalizing rows with
  | nil => rfl
  | cons roleId roleIds ih =>
    refine (ih _).trans ?_
    dsimp only
    split
    · unfold Lib.Table.insertNew
      split
      · rfl
      · simp
    · rfl

theorem withEmoji_twice (id origin spaceId name : String) (animated : Bool)
    (imageUrl : Option String) (roleIds : List String) (db : Tables) :
    withEmoji id origin spaceId name animated imageUrl roleIds
      (withEmoji id origin spaceId name animated imageUrl roleIds db) =
    withEmoji id origin spaceId name animated imageUrl roleIds db := by
  have hroles : withEmojiRoles (withEmoji id origin spaceId name animated imageUrl roleIds db) id
      roleIds ((withEmoji id origin spaceId name animated imageUrl roleIds db).emojiRoles.filter
        (fun r => r.emojiId ≠ id)) =
      withEmojiRoles db id roleIds (db.emojiRoles.filter (fun r => r.emojiId ≠ id)) := by
    simp only [withEmoji]
    rw [others_withEmojiRoles, List.filter_filter]
    simp only [Bool.and_self]
    rfl
  rw [withEmoji, hroles]
  simp only [withEmoji]
  rw [Lib.Table.upsert_upsert]
  · rfl
  · exact fun _ => rfl
  · exact fun _ => rfl

theorem settled_applyEmojiUpsert (created : Bool) :
    Settled (Apply.applyEmojiUpsert peer env created) := by
  apply Prog.Settles.fixed_bind (checked_orBadRequest _ _)
  intro payload _ _
  apply settled_check
  intro _
  apply settled_check
  intro _
  apply Prog.Settles.fixed_bind (Prog.fixed_require _ _)
  intro _ _ _
  apply Prog.Settles.fixed_bind (Prog.fixed_require _ _)
  intro _ _ _
  apply Prog.Settles.fixed_bind (checked_validateOptionalUrl _ _)
  intro _ _ _
  have hsent : ∀ _ : Unit, (do
      let emoji ← App.found? (Emojis.getEmoji payload.id)
      broadcastSpace (some payload.spaceId) (if created then "emoji.create" else "emoji.update")
        (.obj [("space_id", .str payload.spaceId),
          ("emoji", (emoji.map Apply.emojiToJson).getD .null)])
        "emojis" : App Unit).Preserves AppState.db :=
    fun _ => (preserves_found? _).bind (fun _ => preserves_broadcastSpace _ _ _ _)
  apply settled_found Tables.spaces
  · intro db db' hspaces
    rw [Spaces.getSpaceRow, hspaces, Spaces.getSpaceRow]
  · rintro (_ | space)
    · exact Prog.preserves_pure _
    · apply (Emojis.touches_upsertRemoteEmoji _ _ _ _ _ _ .spaces (by decide)).bind
      exact fun u => (hsent u).map (fun db => db.spaces)
  · rintro (_ | space)
    · exact Prog.settles_of_preserves (Prog.preserves_pure _)
    · apply settled_guarded
        (c := fun db =>
          (Lib.Table.has EmojiRow.id payload.id db.emojis || db.hasSpace payload.spaceId) = true)
      · intro s
        rw [exec_bind_db hsent]
        exact exec_upsertRemoteEmoji _ _ _ _ _ _ _ s
      · exact fun db _ _ => withEmoji_twice _ _ _ _ _ _ _ db

end

section

variable {peer : String} {env : FederationEnvelope} {α : Type}

theorem settled_insertRemoteMessage (msg : Messages.RemoteMessageInsert)
    {f : Option MessageRow → App α} (hf : ∀ row, (f row).Preserves AppState.db) :
    Settled (Messages.insertRemoteMessage msg >>= f) := by
  apply settled_guarded (c := fun db => Messages.storable db msg = true)
    (g := Messages.withRemote msg)
  · intro s
    rw [exec_bind_db hf]
    cases hstorable : Messages.storable s.db msg with
    | true => exact Messages.insertRemoteMessage_stored hstorable
    | false => exact Messages.insertRemoteMessage_refused hstorable
  · intro db _ hagain
    have hheld : (Messages.withRemote msg db).hasMessage msg.id = true := by
      rw [Tables.hasMessage, Lib.Table.has_iff]
      exact ⟨msg.row, List.mem_append_right _ (List.mem_singleton_self _), rfl⟩
    rw [Messages.storable, hheld] at hagain
    cases hagain

def spaceOf (channelId : String) (db : Tables) : Option (Option String) :=
  (Channels.getChannelRow channelId db).toOption.map ChannelRow.spaceId

theorem spaceOf_eq (channelId : String) (db : Tables) : spaceOf channelId db =
    (Lib.Table.lookup ChannelRow.id channelId db.channels).map ChannelRow.spaceId := by
  unfold spaceOf Channels.getChannelRow
  cases Lib.Table.lookup ChannelRow.id channelId db.channels <;> rfl

theorem preserves_insertRemoteMessage (msg : Messages.RemoteMessageInsert) :
    (Messages.insertRemoteMessage msg).Preserves (fun s => spaceOf msg.channelId s.db) := by
  apply (preserves_writeCounted (fun _ => rfl)).bind
  intro stored
  cases stored with
  | false => exact Prog.preserves_pure _
  | true =>
    apply Prog.Preserves.bind
    · apply preserves_update
      intro s
      have hid : ∀ c : ChannelRow, c.id = msg.channelId →
          ({ c with lastMessageId := some msg.id } : ChannelRow).id = msg.channelId :=
        fun c hc => hc
      rw [spaceOf_eq, AppState.withDb_db, Tables.setLastMessage, Lib.Table.lookup_update hid,
        Option.map_map, spaceOf_eq]
      rfl
    · exact fun _ => (preserves_lift _).bind (fun _ => Prog.preserves_pure _)

theorem storeMessage_congr (payload : Apply.RemoteMessagePayload) {channel channel' : ChannelRow}
    (h : channel.spaceId = channel'.spaceId) :
    Apply.storeMessage peer payload channel = Apply.storeMessage peer payload channel' := by
  unfold Apply.storeMessage
  rw [h]

theorem spaceOf_users {p : App α} (h : Touches [.users] p) (channelId : String) :
    p.Preserves (fun s => spaceOf channelId s.db) := by
  have hchannels : p.Preserves (fun s => s.db.channels) := h .channels (by decide)
  exact hchannels.map (fun rows => spaceOf channelId { channels := rows })

theorem settled_storeMessage {payload : Apply.RemoteMessagePayload} (channel : ChannelRow)
    (hauthor : containsAt payload.author.id = true) :
    Settled (Apply.storeMessage peer payload channel) := by
  apply settled_mirrored (mirrors_mirrorRef hauthor) (touches_mirrorRef _ _)
  · apply (Prog.preserves_require _ _).bind
    intro _
    apply (Messages.touches_insertRemoteMessage _ .users (by decide)).bind
    rintro (_ | row)
    · exact Prog.preserves_pure _
    · exact touches_broadcastSpace _ _ _ _ .users (by decide)
  · apply Prog.Settles.fixed_bind (Prog.fixed_require _ _)
    intro _ _ _
    apply settled_insertRemoteMessage
    rintro (_ | row)
    · exact Prog.preserves_pure _
    · exact preserves_broadcastSpace _ _ _ _

theorem spaceOf_storeMessage (payload : Apply.RemoteMessagePayload) (channel : ChannelRow) :
    (Apply.storeMessage peer payload channel).Preserves
      (fun s => spaceOf payload.channelId s.db) := by
  apply (spaceOf_users (touches_mirrorRef _ _) _).bind
  intro _
  apply (Prog.preserves_require _ _).bind
  intro _
  apply (preserves_insertRemoteMessage (Apply.remoteInsert peer payload channel.spaceId)).bind
  rintro (_ | row)
  · exact Prog.preserves_pure _
  · exact (preserves_broadcastSpace _ _ _ _).map (spaceOf payload.channelId)

theorem settled_applyMessageCreate : Settled (Apply.applyMessageCreate peer env) := by
  apply Prog.Settles.fixed_bind (checked_orBadRequest _ _)
  intro payload _ _
  apply Prog.Settles.fixed_bind (checked_checkMessageCreate _ _)
  intro _ s hchecked
  have hauthor : containsAt payload.author.id = true :=
    (Apply.checkMessageCreate_ok.mp hchecked).1.author
  apply settled_found (spaceOf payload.channelId)
  · intro db db' hspace
    unfold spaceOf at hspace
    cases hold : (Channels.getChannelRow payload.channelId db).toOption with
    | none =>
      rw [hold, Option.map_none, eq_comm, Option.map_eq_none_iff] at hspace
      rw [hspace]
    | some channel =>
      rw [hold, Option.map_some, eq_comm, Option.map_eq_some_iff] at hspace
      obtain ⟨channel', hnew, hsame⟩ := hspace
      rw [hnew]
      exact storeMessage_congr payload hsame.symm
  · rintro (_ | channel)
    · exact Prog.preserves_pure _
    · exact spaceOf_storeMessage payload channel
  · rintro (_ | channel)
    · exact Prog.settles_of_preserves (Prog.preserves_pure _)
    · exact settled_storeMessage channel hauthor

theorem settled_applyDmMessageCreate : Settled (Dm.applyMessageCreate peer env) := by
  apply Prog.Settles.fixed_bind (checked_orBadRequest _ _)
  intro payload _ _
  apply Prog.Settles.fixed_bind (checked_checkDmMessageCreate _ _)
  intro _ _ _
  apply settled_found (spaceOf payload.channelId)
  · intro db db' hspace
    unfold spaceOf at hspace
    cases hold : (Channels.getChannelRow payload.channelId db).toOption with
    | none =>
      rw [hold, Option.map_none, eq_comm, Option.map_eq_none_iff] at hspace
      rw [hspace]
    | some channel =>
      rw [hold, Option.map_some, eq_comm, Option.map_eq_some_iff] at hspace
      obtain ⟨channel', hnew, _⟩ := hspace
      rw [hnew]
  · rintro (_ | channel)
    · exact Prog.preserves_pure _
    · apply (spaceOf_users (Users.touches_upsertRemoteUser _ _ _ _ _) _).bind
      intro _
      apply (preserves_insertRemoteMessage (Apply.remoteInsert peer payload none)).bind
      rintro (_ | row)
      · exact Prog.preserves_pure _
      · exact (preserves_broadcastMessage _ _ _).map (spaceOf payload.channelId)
  · rintro (_ | channel)
    · exact Prog.settles_of_preserves (Prog.preserves_pure _)
    · apply settled_mirrored mirrors_upsertRemoteUser (Users.touches_upsertRemoteUser _ _ _ _ _)
      · apply (Messages.touches_insertRemoteMessage _ .users (by decide)).bind
        rintro (_ | row)
        · exact Prog.preserves_pure _
        · exact Dm.touches_broadcastMessage _ _ _ .users (by decide)
      · apply settled_insertRemoteMessage
        rintro (_ | row)
        · exact Prog.preserves_pure _
        · exact preserves_broadcastMessage _ _ _

theorem settled_acknowledged {p : App Unit} (h : Settled p) :
    Settled (p >>= fun _ => pure Apply.Applied.ok) := by
  intro s u hu hview
  rw [Prog.exec_bind_pure p (fun _ => Apply.Applied.ok) s] at hview
  rw [Prog.exec_bind_pure p (fun _ => Apply.Applied.ok) u]
  exact h s u hu hview

theorem settled_applyEvent : Settled (Inbox.applyEvent peer env) := by
  unfold Inbox.applyEvent
  split
  · exact settled_acknowledged settled_applyMessageCreate
  · exact settled_acknowledged settled_applyMessageUpdate
  · exact settled_acknowledged settled_applyMessageDelete
  · exact settled_acknowledged (settled_applyReaction true)
  · exact settled_acknowledged (settled_applyReaction false)
  · exact settled_acknowledged settled_applyMemberJoin
  · exact settled_acknowledged settled_applyMemberLeave
  · exact settled_acknowledged (settled_applyEmojiUpsert true)
  · exact settled_acknowledged (settled_applyEmojiUpsert false)
  · exact settled_acknowledged settled_applyEmojiDelete
  · exact settled_acknowledged settled_applyTyping
  · exact settled_acknowledged settled_applyDmMessageCreate
  · exact Prog.settles_of_preserves (Prog.preserves_pure _)

theorem settings_applyEvent : (Inbox.applyEvent peer env).Preserves settings :=
  Prog.Preserves.pair (touches_applyEvent peer env .ext (by decide))
    (touches_applyEvent peer env .federation (by decide))

end

theorem apply_event_idempotent (peer : String) (env : FederationEnvelope) (s : AppState) :
    ((Inbox.applyEvent peer env).exec ((Inbox.applyEvent peer env).exec s).2).2.db =
      ((Inbox.applyEvent peer env).exec s).2.db :=
  settled_applyEvent.again settings_applyEvent s

end Vokusz.Federation
