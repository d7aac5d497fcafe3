import Vokusz.Routes.ImageStages
import Vokusz.Routes.MemberUpdates

namespace Vokusz.Routes.Images

open Db Permissions
open Lib (Prog Stage)
open Lib.Prog (Follows Watches)
open Db.Users (UpdateUser)
open Db.Spaces (UpdateSpace)
open Db.Members (UpdateMember setMember setWhen clearRoles insertRole memberRoleKey assignable)
open Federation (broadcastSpace)
open MemberUpdates (rowOf rowOf_setMember exec_setWhen hasMember_eq has_memberRoleKey)
open Spaces (spaceWithMetadata)
open Storage (FilePath)

def userField (userId : String) (field : User → Option String) (db : Tables) : Option String :=
  (Lib.Table.lookup User.id userId db.users).bind field

def spaceField (spaceId : String) (field : SpaceRow → Option String) (db : Tables) :
    Option String :=
  (Lib.Table.lookup SpaceRow.id spaceId db.spaces).bind field

def relinks (given : Option String) (url : String) : Bool := given.any (fun v => v ≠ url)

def userStages (s : AppState) (auth : AuthUser) (input : UpdateUser)
    (avatarAdmission bannerAdmission : Except AppError Unit) (given : Option String) (url : String)
    (file : FilePath) : List Stage :=
  { refuses := !(checkProfile input).isOk } ::
    (imageStages s.maxAvatarSize avatarAdmission
        (leads s (userField auth.userId User.avatar s.db) file)
        (clears s (userAvatar auth.userId) file) input.avatar ++
      (imageStages s.maxAvatarSize bannerAdmission
          (leads s (userField auth.userId User.banner s.db) file)
          (clears s (userBanner auth.userId) file) input.banner ++
        [{ asks := true
           refuses := !input.username.all (s.db.usernameFree auth.userId)
           loses := relinks given url }, { asks := true }]))

section

variable {s t : AppState} {url : String} {file : FilePath} {auth : AuthUser} {input : UpdateUser}
variable {avatarAdmission bannerAdmission : Except AppError Unit} {user : User}
variable {given : Option String} {field : User → Option String}

def storedUser (auth : AuthUser) (input : UpdateUser)
    (avatarAdmission bannerAdmission : Except AppError Unit) : App User := do
  checkProfile input
  let avatar ← storeImage (userAvatar auth.userId) (userColumn auth.userId User.avatar)
    avatarAdmission input.avatar
  let banner ← storeImage (userBanner auth.userId) (userColumn auth.userId User.banner)
    bannerAdmission input.banner
  Users.updateUser auth.userId { input with avatar, banner }

theorem updateCurrentUser_eq :
    updateCurrentUser auth input avatarAdmission bannerAdmission =
      storedUser auth input avatarAdmission bannerAdmission >>= fun user =>
        broadcastUserUpdate user >>= fun _ => pure (.obj [("data", Spaces.userToJson user)]) := by
  simp only [updateCurrentUser, storedUser, bind_assoc]

theorem unfailing_found? {α : Type} (q : Query α) : (App.found? q).Unfailing :=
  (Prog.unfailing_attempt _).bind (fun _ => Prog.unfailing_pure _)

theorem unfailing_send (b : GatewayBroadcast) : (App.send b).Unfailing := Prog.unfailing_modify _

theorem unfailing_dmPeers (channelIds : List String) : (dmPeers channelIds).Unfailing := by
  induction channelIds with
  | nil => exact Prog.unfailing_pure _
  | cons channelId rest ih =>
    refine (unfailing_found? _).bind (fun ids => ih.bind (fun more => ?_))
    exact Prog.unfailing_pure _

theorem unfailing_broadcastUserUpdate (user : User) : (broadcastUserUpdate user).Unfailing := by
  refine (unfailing_found? _).bind (fun spaceIds => (unfailing_found? _).bind (fun friends => ?_))
  refine (unfailing_found? _).bind (fun dmChannels => (unfailing_dmPeers _).bind (fun peers => ?_))
  exact (Prog.unfailing_forEach (fun sid => unfailing_send _)).bind (fun _ => unfailing_send _)

theorem getUser_of_lookup {db : Tables} {userId : String}
    (h : Lib.Table.lookup User.id userId db.users = some user) :
    Users.getUser userId db = .ok user := by
  rw [Users.getUser, h]

theorem reads_userColumn (h : Lib.Table.lookup User.id auth.userId s.db.users = some user)
    (hnear : Near s t) (field : User → Option String) :
    Reads (userColumn auth.userId field) t (userField auth.userId field s.db) := by
  have hfield : userField auth.userId field s.db = field user := by rw [userField, h]; rfl
  rw [hfield]
  rw [← hnear.db] at h
  exact reads_field field (getUser_of_lookup h)

theorem orNull_kept {value : Option String} (h : touches value = false) :
    Db.Spaces.orNull value (some url) = some url ↔ relinks value url = false := by
  cases value with
  | none => exact ⟨fun _ => rfl, fun _ => rfl⟩
  | some v =>
    simp only [touches, Option.any_some, Bool.or_eq_false_iff, decide_eq_false_iff_not] at h
    simp [Db.Spaces.orNull, relinks, String.isEmpty_iff, h.2]

theorem free_iff (h : Lib.Table.lookup User.id auth.userId s.db.users = some user)
    (hnear : Near s t) :
    (App.unique (!t.db.hasUser auth.userId ||
      input.username.all (t.db.usernameFree auth.userId))).isNone =
        !!input.username.all (s.db.usernameFree auth.userId) := by
  have hhas : s.db.hasUser auth.userId = true := by
    rw [Tables.hasUser, ← Lib.Table.lookup_isSome, h]
    rfl
  rw [hnear.db, hhas, Bool.not_true, Bool.false_or, Bool.not_not]
  cases input.username.all (s.db.usernameFree auth.userId) <;> rfl

theorem lookup_applied (h : Lib.Table.lookup User.id auth.userId s.db.users = some user) :
    Lib.Table.lookup User.id auth.userId
      (Lib.Table.update User.id auth.userId input.apply s.db.users) = some (input.apply user) := by
  have hid : ∀ r, User.id r = auth.userId → User.id (input.apply r) = auth.userId :=
    fun _ hid => hid
  rw [Lib.Table.lookup_update hid, h]
  rfl

theorem exec_write_ok {check : Tables → Option AppError} {f : Tables → Tables} {u : Unit}
    {v : AppState} (h : (App.write check f).exec t = (.ok u, v)) : v = t.withDb (f t.db) := by
  rw [App.exec_write] at h
  cases hcheck : check t.db with
  | none =>
    rw [hcheck] at h
    cases h
    rfl
  | some e =>
    rw [hcheck] at h
    cases h

section

variable (h : Lib.Table.lookup User.id auth.userId s.db.users = some user)

include h

theorem follows_updateUser (hnear : Near s t) (avatar banner : Option String) :
    (Users.updateUser auth.userId { input with avatar, banner }).Follows t
      [{ asks := true
         refuses := !input.username.all (s.db.usernameFree auth.userId)
         loses := relinks given url }, { asks := true }] := by
  refine Follows.bind (follows_write (free_iff h hnear)) (fun _ u hexec => ?_)
  rw [exec_write_ok hexec]
  rw [← hnear.db] at h
  have hread := follows_lift (Users.getUser auth.userId) (t.withDb { t.db with
    users := Lib.Table.update User.id auth.userId
      ({ input with avatar, banner } : UpdateUser).apply t.db.users })
  rw [AppState.withDb_db, getUser_of_lookup (lookup_applied h)] at hread
  exact hread

theorem watches_updateUser (hnear : Near s t)
    (ht : Standing (userField auth.userId field) url file t) (avatar banner : Option String)
    (hkept : field (({ input with avatar, banner } : UpdateUser).apply user) = some url ↔
      relinks given url = false) :
    (Users.updateUser auth.userId { input with avatar, banner }).Watches
      (Standing (userField auth.userId field) url file) t
      [{ asks := true
         refuses := !input.username.all (s.db.usernameFree auth.userId)
         loses := relinks given url }, { asks := true }] := by
  have hrow := h
  rw [← hnear.db] at hrow
  have hwritten : Standing (userField auth.userId field) url file (t.withDb { t.db with
      users := Lib.Table.update User.id auth.userId
        ({ input with avatar, banner } : UpdateUser).apply t.db.users }) ↔
      relinks given url = false := by
    rw [← hkept, Standing, userField, AppState.withDb_db, lookup_applied hrow]
    exact ⟨And.left, fun hfield => ⟨hfield, ht.2⟩⟩
  refine Watches.bind (follows_write (free_iff h hnear))
    (watches_write (free_iff h hnear) ht hwritten) (fun _ u hexec hu _ => ?_)
  rw [exec_write_ok hexec] at hu ⊢
  have hread := watches_lift (Users.getUser auth.userId) hu
  rw [AppState.withDb_db, getUser_of_lookup (lookup_applied hrow)] at hread
  exact hread

theorem follows_storedUser :
    (storedUser auth input avatarAdmission bannerAdmission).Follows s
      (userStages s auth input avatarAdmission bannerAdmission given url file) := by
  refine Follows.bind (Prog.follows_ofExcept (checkProfile input)) (fun _ t hcheck => ?_)
  obtain ⟨-, rfl⟩ := Prog.exec_ofExcept_ok.mp hcheck
  refine follows_image (.refl s) (reads_userColumn h (.refl s) User.avatar)
    (fun avatar t hnear _ => ?_)
  refine follows_image hnear (reads_userColumn h hnear User.banner) (fun banner u hafter _ => ?_)
  exact follows_updateUser h hafter avatar banner

theorem watches_userAvatar (hs : Standing (userField auth.userId User.avatar) url file s)
    (hstored : Stored s url file) :
    (storedUser auth input avatarAdmission bannerAdmission).Watches
      (Standing (userField auth.userId User.avatar) url file) s
      (userStages s auth input avatarAdmission bannerAdmission input.avatar url file) := by
  have hold : userField auth.userId User.avatar s.db = some url := hs.1
  have havatar : user.avatar = some url := by
    rw [userField, h] at hold
    exact hold
  refine Watches.bind (Prog.follows_ofExcept (checkProfile input)) (Prog.watches_ofExcept _ hs)
    (fun _ t hcheck _ _ => ?_)
  obtain ⟨-, rfl⟩ := Prog.exec_ofExcept_ok.mp hcheck
  refine watches_image hstored (.refl s) (reads_userColumn h (.refl s) User.avatar) hs (.inl hold)
    (fun avatar t hnear ht huntouched hsame => ?_)
  obtain ⟨rfl, rfl⟩ := hsame (huntouched hold)
  refine watches_image hstored hnear (reads_userColumn h hnear User.banner) ht (.inr rfl)
    (fun banner u hafter hu _ _ => ?_)
  refine watches_updateUser h hafter hu input.avatar banner ?_
  change Db.Spaces.orNull input.avatar user.avatar = some url ↔ _
  rw [havatar]
  exact orNull_kept (huntouched hold)

theorem watches_userBanner (hs : Standing (userField auth.userId User.banner) url file s)
    (hstored : Stored s url file) :
    (storedUser auth input avatarAdmission bannerAdmission).Watches
      (Standing (userField auth.userId User.banner) url file) s
      (userStages s auth input avatarAdmission bannerAdmission input.banner url file) := by
  have hold : userField auth.userId User.banner s.db = some url := hs.1
  have hbanner : user.banner = some url := by
    rw [userField, h] at hold
    exact hold
  refine Watches.bind (Prog.follows_ofExcept (checkProfile input)) (Prog.watches_ofExcept _ hs)
    (fun _ t hcheck _ _ => ?_)
  obtain ⟨-, rfl⟩ := Prog.exec_ofExcept_ok.mp hcheck
  refine watches_image hstored (.refl s) (reads_userColumn h (.refl s) User.avatar) hs (.inr rfl)
    (fun avatar t hnear ht _ _ => ?_)
  refine watches_image hstored hnear (reads_userColumn h hnear User.banner) ht (.inl hold)
    (fun banner u hafter hu huntouched hsame => ?_)
  obtain ⟨rfl, rfl⟩ := hsame (huntouched hold)
  refine watches_updateUser h hafter hu avatar input.banner ?_
  change Db.Spaces.orNull input.banner user.banner = some url ↔ _
  rw [hbanner]
  exact orNull_kept (huntouched hold)

end

end

def storable (db : Tables) (spaceId : String) (input : UpdateSpace) : Bool :=
  (Db.Spaces.updateSpace db spaceId input (db.spaces.length + 1)).any Except.isOk

def spaceStages (s : AppState) (spaceId : String) (auth : AuthUser) (input : UpdateSpace)
    (iconAdmission bannerAdmission : Except AppError Unit) (given : Option String) (url : String)
    (file : FilePath) : List Stage :=
  { asks := true, refuses := !(requirePermission spaceId auth "manage_space" s.db).isOk } ::
    (imageStages s.maxAvatarSize iconAdmission
        (leads s (spaceField spaceId SpaceRow.icon s.db) file) (clears s (spaceIcon spaceId) file)
        input.icon ++
      (imageStages s.maxAvatarSize bannerAdmission
          (leads s (spaceField spaceId SpaceRow.banner s.db) file)
          (clears s (spaceBanner spaceId) file) input.banner ++
        [{ asks := true, refuses := !storable s.db spaceId input, loses := relinks given url },
          { asks := true }, { asks := true }, { asks := true }]))

section

variable {s t : AppState} {url : String} {file : FilePath} {auth : AuthUser} {spaceId : String}
variable {input : UpdateSpace} {iconAdmission bannerAdmission : Except AppError Unit}
variable {space : SpaceRow} {given : Option String} {field : SpaceRow → Option String}

def storedSpace (spaceId : String) (auth : AuthUser) (input : UpdateSpace)
    (iconAdmission bannerAdmission : Except AppError Unit) : App Json := do
  requirePermission spaceId auth "manage_space"
  let icon ← storeImage (spaceIcon spaceId) (spaceColumn spaceId SpaceRow.icon) iconAdmission
    input.icon
  let banner ← storeImage (spaceBanner spaceId) (spaceColumn spaceId SpaceRow.banner)
    bannerAdmission input.banner
  let space ← Db.Spaces.storeUpdate spaceId { input with icon, banner }
  spaceWithMetadata space

theorem updateSpace_eq : updateSpace spaceId auth input iconAdmission bannerAdmission =
    storedSpace spaceId auth input iconAdmission bannerAdmission >>= fun json =>
      broadcastSpace (some spaceId) "space.update" json "spaces" >>= fun _ =>
        pure (.obj [("data", json)]) := by
  simp only [updateSpace, storedSpace, bind_assoc]

theorem getSpaceRow_of_lookup {db : Tables}
    (h : Lib.Table.lookup SpaceRow.id spaceId db.spaces = some space) :
    Db.Spaces.getSpaceRow spaceId db = .ok space := by
  rw [Db.Spaces.getSpaceRow, h]

theorem reads_spaceColumn (h : Lib.Table.lookup SpaceRow.id spaceId s.db.spaces = some space)
    (hnear : Near s t) (field : SpaceRow → Option String) :
    Reads (spaceColumn spaceId field) t (spaceField spaceId field s.db) := by
  have hfield : spaceField spaceId field s.db = field space := by rw [spaceField, h]; rfl
  rw [hfield]
  rw [← hnear.db] at h
  exact reads_field field (getSpaceRow_of_lookup h)

theorem storable_images (spaceId : String) (input : UpdateSpace) (db : Tables)
    (icon banner : Option String) :
    storable db spaceId { input with icon, banner } = storable db spaceId input := by
  have hrow : ∀ slug, (Db.Spaces.updateRow db spaceId { input with icon, banner } slug).isOk =
      (Db.Spaces.updateRow db spaceId input slug).isOk := by
    intro slug
    unfold Db.Spaces.updateRow
    split
    · rfl
    · split <;> rfl
  unfold storable Db.Spaces.updateSpace
  dsimp only
  cases input.slug with
  | none => exact hrow none
  | some slug =>
    dsimp only
    cases Db.Spaces.checked slug with
    | error e => rfl
    | ok base =>
      dsimp only
      cases Db.Spaces.ensureUniqueSlug db base (some spaceId) (db.spaces.length + 1) with
      | none => rfl
      | some final => exact hrow (some final)

def storing (spaceId : String) (input : UpdateSpace) (db : Tables) :
    Except AppError Unit × Tables :=
  match Db.Spaces.updateSpace db spaceId input (db.spaces.length + 1) with
  | some (.ok db') => (.ok (), db')
  | some (.error e) => (.error e, db)
  | none => (.error (.internal "slug"), db)

theorem storeUpdate_eq (spaceId : String) (input : UpdateSpace) :
    Db.Spaces.storeUpdate spaceId input = App.execute (storing spaceId input) >>= fun _ =>
      (MonadLiftT.monadLift (Db.Spaces.getSpaceRow spaceId) : App SpaceRow) := rfl

theorem storing_isOk (spaceId : String) (input : UpdateSpace) (db : Tables) :
    (storing spaceId input db).1.isOk = storable db spaceId input := by
  unfold storing storable
  cases Db.Spaces.updateSpace db spaceId input (db.spaces.length + 1) with
  | none => rfl
  | some result => cases result <;> rfl

theorem storing_refused {db : Tables} (h : storable db spaceId input = false) :
    (storing spaceId input db).2 = db := by
  unfold storable at h
  unfold storing
  cases hresult : Db.Spaces.updateSpace db spaceId input (db.spaces.length + 1) with
  | none => rfl
  | some result =>
    rw [hresult] at h
    cases result with
    | error e => rfl
    | ok db' => cases h

theorem storing_stored {db : Tables} (h : storable db spaceId input = true) :
    ∃ slug, (storing spaceId input db).2 = { db with
      spaces := Lib.Table.update SpaceRow.id spaceId (input.apply slug) db.spaces } := by
  unfold storable at h
  unfold storing
  cases hresult : Db.Spaces.updateSpace db spaceId input (db.spaces.length + 1) with
  | none =>
    rw [hresult] at h
    cases h
  | some result =>
    rw [hresult] at h
    cases result with
    | error e => cases h
    | ok db' => exact updateSpace_some hresult

theorem lookup_stored {slug : Option String}
    (h : Lib.Table.lookup SpaceRow.id spaceId s.db.spaces = some space) :
    Lib.Table.lookup SpaceRow.id spaceId
      (Lib.Table.update SpaceRow.id spaceId (input.apply slug) s.db.spaces) =
        some (input.apply slug space) := by
  have hid : ∀ r, SpaceRow.id r = spaceId → SpaceRow.id (input.apply slug r) = spaceId :=
    fun _ hid => hid
  rw [Lib.Table.lookup_update hid, h]
  rfl

theorem exec_storing {u : Unit} {v : AppState}
    (h : (App.execute (storing spaceId input)).exec t = (.ok u, v)) :
    storable t.db spaceId input = true ∧ v = t.withDb (storing spaceId input t.db).2 := by
  have hok := storing_isOk spaceId input t.db
  rw [App.exec_execute] at h
  obtain ⟨hresult, rfl⟩ := Prod.mk.inj h
  rw [hresult] at hok
  exact ⟨hok.symm, rfl⟩

theorem follows_metadata (row : SpaceRow) (t : AppState) :
    (spaceWithMetadata row).Follows t [{ asks := true }, { asks := true }] := by
  refine Follows.bind (follows_lift (Db.Spaces.countMembers row.id) t) (fun _ u _ => ?_)
  refine Prog.follows_get ?_
  exact Follows.bind (follows_lift (Db.Spaces.countMemberships _ row.id) u)
    (fun _ v _ => Prog.follows_pure _)

theorem watches_metadata {I : AppState → Prop} (row : SpaceRow) (ht : I t) :
    (spaceWithMetadata row).Watches I t [{ asks := true }, { asks := true }] := by
  refine Watches.bind (follows_lift (Db.Spaces.countMembers row.id) t)
    (watches_lift (Db.Spaces.countMembers row.id) ht) (fun _ u _ hu _ => ?_)
  refine Prog.watches_get hu ?_
  exact Watches.bind (follows_lift (Db.Spaces.countMemberships _ row.id) u)
    (watches_lift (Db.Spaces.countMemberships _ row.id) hu)
    (fun _ v _ hv _ => Prog.watches_pure _ hv)

theorem follows_storing (hnear : Near s t) (icon banner : Option String) {lost : Bool} :
    (App.execute (storing spaceId { input with icon, banner })).Follows t
      [{ asks := true, refuses := !storable s.db spaceId input, loses := lost }] := by
  refine Prog.follows_statement ?_
  rw [hnear.db, storing_isOk, storable_images, Bool.not_not]

theorem watches_storing (h : Lib.Table.lookup SpaceRow.id spaceId s.db.spaces = some space)
    (hnear : Near s t) (ht : Standing (spaceField spaceId field) url file t)
    (icon banner : Option String)
    (hkept : ∀ slug, field (({ input with icon, banner } : UpdateSpace).apply slug space) =
      some url ↔ relinks given url = false) :
    (App.execute (storing spaceId { input with icon, banner })).Watches
      (Standing (spaceField spaceId field) url file) t
      [{ asks := true, refuses := !storable s.db spaceId input, loses := relinks given url }] := by
  have hsame := storable_images spaceId input s.db icon banner
  rw [← hnear.db] at h hsame
  rw [← hnear.db, ← hsame]
  refine Prog.watches_statement ht (fun hrefused => ?_) (fun hpassed => ?_)
  · rw [Bool.not_eq_true'] at hrefused
    dsimp only
    rw [storing_refused hrefused]
    exact ht
  · rw [Bool.not_eq_false'] at hpassed
    obtain ⟨slug, hslug⟩ := storing_stored hpassed
    dsimp only
    rw [hslug, ← hkept slug, Standing, spaceField, AppState.withDb_db, lookup_stored h]
    exact ⟨And.left, fun hfield => ⟨hfield, ht.2⟩⟩

theorem getSpaceRow_storing (h : Lib.Table.lookup SpaceRow.id spaceId t.db.spaces = some space)
    (hstored : storable t.db spaceId input = true) :
    ∃ row, Db.Spaces.getSpaceRow spaceId (storing spaceId input t.db).2 = .ok row := by
  obtain ⟨slug, hslug⟩ := storing_stored hstored
  rw [hslug]
  exact ⟨_, getSpaceRow_of_lookup (lookup_stored h)⟩

section

variable (h : Lib.Table.lookup SpaceRow.id spaceId s.db.spaces = some space)

include h

theorem follows_storeUpdate (hnear : Near s t) (icon banner : Option String) :
    (Db.Spaces.storeUpdate spaceId { input with icon, banner } >>= spaceWithMetadata).Follows t
      [{ asks := true, refuses := !storable s.db spaceId input, loses := relinks given url },
        { asks := true }, { asks := true }, { asks := true }] := by
  rw [storeUpdate_eq, bind_assoc]
  refine Follows.bind (follows_storing hnear icon banner) (fun _ u hexec => ?_)
  obtain ⟨hstored, rfl⟩ := exec_storing hexec
  rw [← hnear.db] at h
  obtain ⟨row, hrow⟩ := getSpaceRow_storing h hstored
  have hread := follows_lift (Db.Spaces.getSpaceRow spaceId)
    (t.withDb (storing spaceId { input with icon, banner } t.db).2)
  rw [AppState.withDb_db, hrow] at hread
  exact Follows.bind hread (fun row v _ => follows_metadata row v)

theorem watches_storeUpdate (hnear : Near s t) (ht : Standing (spaceField spaceId field) url file t)
    (icon banner : Option String)
    (hkept : ∀ slug, field (({ input with icon, banner } : UpdateSpace).apply slug space) =
      some url ↔ relinks given url = false) :
    (Db.Spaces.storeUpdate spaceId { input with icon, banner } >>= spaceWithMetadata).Watches
      (Standing (spaceField spaceId field) url file) t
      [{ asks := true, refuses := !storable s.db spaceId input, loses := relinks given url },
        { asks := true }, { asks := true }, { asks := true }] := by
  rw [storeUpdate_eq, bind_assoc]
  refine Watches.bind (follows_storing hnear icon banner)
    (watches_storing h hnear ht icon banner hkept) (fun _ u hexec hu _ => ?_)
  obtain ⟨hstored, rfl⟩ := exec_storing hexec
  rw [← hnear.db] at h
  obtain ⟨row, hrow⟩ := getSpaceRow_storing h hstored
  have hread := follows_lift (Db.Spaces.getSpaceRow spaceId)
    (t.withDb (storing spaceId { input with icon, banner } t.db).2)
  have hwatch := watches_lift (Db.Spaces.getSpaceRow spaceId) hu
  rw [AppState.withDb_db, hrow] at hread hwatch
  exact Watches.bind hread hwatch (fun row v _ hv _ => watches_metadata row hv)

theorem follows_storedSpace :
    (storedSpace spaceId auth input iconAdmission bannerAdmission).Follows s
      (spaceStages s spaceId auth input iconAdmission bannerAdmission given url file) := by
  refine Follows.bind (follows_lift (requirePermission spaceId auth "manage_space") s)
    (fun _ t hcheck => ?_)
  obtain ⟨-, rfl⟩ := App.exec_lift_ok.mp hcheck
  refine follows_image (.refl s) (reads_spaceColumn h (.refl s) SpaceRow.icon)
    (fun icon t hnear _ => ?_)
  refine follows_image hnear (reads_spaceColumn h hnear SpaceRow.banner)
    (fun banner u hafter _ => ?_)
  exact follows_storeUpdate h hafter icon banner

theorem watches_spaceIcon (hs : Standing (spaceField spaceId SpaceRow.icon) url file s)
    (hstored : Stored s url file) :
    (storedSpace spaceId auth input iconAdmission bannerAdmission).Watches
      (Standing (spaceField spaceId SpaceRow.icon) url file) s
      (spaceStages s spaceId auth input iconAdmission bannerAdmission input.icon url file) := by
  have hold : spaceField spaceId SpaceRow.icon s.db = some url := hs.1
  have hicon : space.icon = some url := by
    rw [spaceField, h] at hold
    exact hold
  refine Watches.bind (follows_lift (requirePermission spaceId auth "manage_space") s)
    (watches_lift _ hs) (fun _ t hcheck _ _ => ?_)
  obtain ⟨-, rfl⟩ := App.exec_lift_ok.mp hcheck
  refine watches_image hstored (.refl s) (reads_spaceColumn h (.refl s) SpaceRow.icon) hs
    (.inl hold) (fun icon t hnear ht huntouched hsame => ?_)
  obtain ⟨rfl, rfl⟩ := hsame (huntouched hold)
  refine watches_image hstored hnear (reads_spaceColumn h hnear SpaceRow.banner) ht (.inr rfl)
    (fun banner u hafter hu _ _ => ?_)
  refine watches_storeUpdate h hafter hu input.icon banner (fun slug => ?_)
  change Db.Spaces.orNull input.icon space.icon = some url ↔ _
  rw [hicon]
  exact orNull_kept (huntouched hold)

theorem watches_spaceBanner (hs : Standing (spaceField spaceId SpaceRow.banner) url file s)
    (hstored : Stored s url file) :
    (storedSpace spaceId auth input iconAdmission bannerAdmission).Watches
      (Standing (spaceField spaceId SpaceRow.banner) url file) s
      (spaceStages s spaceId auth input iconAdmission bannerAdmission input.banner url file) := by
  have hold : spaceField spaceId SpaceRow.banner s.db = some url := hs.1
  have hbanner : space.banner = some url := by
    rw [spaceField, h] at hold
    exact hold
  refine Watches.bind (follows_lift (requirePermission spaceId auth "manage_space") s)
    (watches_lift _ hs) (fun _ t hcheck _ _ => ?_)
  obtain ⟨-, rfl⟩ := App.exec_lift_ok.mp hcheck
  refine watches_image hstored (.refl s) (reads_spaceColumn h (.refl s) SpaceRow.icon) hs (.inr rfl)
    (fun icon t hnear ht _ _ => ?_)
  refine watches_image hstored hnear (reads_spaceColumn h hnear SpaceRow.banner) ht (.inl hold)
    (fun banner u hafter hu huntouched hsame => ?_)
  obtain ⟨rfl, rfl⟩ := hsame (huntouched hold)
  refine watches_storeUpdate h hafter hu icon input.banner (fun slug => ?_)
  change Db.Spaces.orNull input.banner space.banner = some url ↔ _
  rw [hbanner]
  exact orNull_kept (huntouched hold)

end

end

def memberField (spaceId userId : String) (db : Tables) : Option String :=
  (rowOf spaceId userId db).bind MemberRow.avatar

def fieldStage (given lost : Bool) : List Stage :=
  if given then [{ asks := true, loses := lost }] else []

def grantStages (db : Tables) : List String → List String → List Stage
  | _, [] => []
  | seen, id :: ids =>
    { asks := true, refuses := seen.contains id || !db.hasRole id } ::
      grantStages db (id :: seen) ids

def roleStages (db : Tables) (roles : Option (List String)) : List Stage :=
  match roles with
  | none => []
  | some ids => { asks := true } :: grantStages db [] ids

def memberStages (s : AppState) (spaceId userId : String) (input : UpdateMember)
    (admission : Except AppError Unit) (url : String) (file : FilePath) : List Stage :=
  imageStages s.maxAvatarSize admission (leads s (memberField spaceId userId s.db) file)
      (clears s (memberAvatar spaceId userId) file) input.avatar ++
    (fieldStage input.nickname.isSome false ++
      (fieldStage input.avatar.isSome (relinks input.avatar url) ++
        (fieldStage input.mute.isSome false ++
          (fieldStage input.deaf.isSome false ++
            (fieldStage input.communicationDisabledUntil.isSome false ++
              (roleStages s.db input.roles ++ [{ asks := true }, { asks := true }]))))))

section

variable {s t : AppState} {url : String} {file : FilePath} {spaceId userId : String}
variable {input : UpdateMember} {admission : Except AppError Unit} {row : MemberRow}
variable {I : AppState → Prop}

structure Referred (s : AppState) (spaceId userId : String) (t : AppState) : Prop where
  member : (rowOf spaceId userId t.db).isSome = true
  roles : t.db.roles = s.db.roles

theorem follows_setWhen {α : Type} (value : Option α) (f : α → MemberRow → MemberRow)
    (lost : Bool) :
    (setWhen spaceId userId value f).Follows t (fieldStage value.isSome lost) := by
  cases value with
  | none => exact Prog.follows_pure ()
  | some v => exact @follows_write t (fun _ => none) _ false lost rfl

theorem watches_setWhen {α : Type} (value : Option α) {f : α → MemberRow → MemberRow} {lost : Bool}
    (hf : ∀ v m, (f v m).spaceId = m.spaceId ∧ (f v m).userId = m.userId)
    (ht : Standing (memberField spaceId userId) url file t)
    (hkept : ∀ v ∈ value, ∀ m : MemberRow, m.avatar = some url →
      ((f v m).avatar = some url ↔ lost = false)) :
    (setWhen spaceId userId value f).Watches (Standing (memberField spaceId userId) url file) t
      (fieldStage value.isSome lost) := by
  cases value with
  | none => exact Prog.watches_pure () ht
  | some v =>
    refine @watches_write t _ (fun _ => none) _ false lost rfl ht ?_
    obtain ⟨m, hrow, havatar⟩ := Option.bind_eq_some_iff.mp ht.1
    have hafter : memberField spaceId userId (setMember spaceId userId (f v) t.db) =
        (f v m).avatar := by
      rw [memberField, rowOf_setMember (hf v), hrow]
      rfl
    rw [Standing, AppState.withDb_db, hafter, hkept v rfl m havatar]
    exact ⟨And.left, fun h => ⟨h, ht.2⟩⟩

theorem referred_setWhen {α : Type} {value : Option α} {f : α → MemberRow → MemberRow} {u : Unit}
    {v : AppState} (h : (setWhen spaceId userId value f).exec t = (.ok u, v))
    (ht : Referred s spaceId userId t)
    (hf : ∀ v m, (f v m).spaceId = m.spaceId ∧ (f v m).userId = m.userId) :
    Referred s spaceId userId v := by
  obtain ⟨w, hexec, hrow, -, hroles⟩ := @exec_setWhen spaceId userId _ value _ hf t
  rw [h] at hexec
  cases hexec
  refine ⟨?_, hroles.trans ht.roles⟩
  rw [hrow, Option.isSome_map]
  exact ht.member

theorem follows_insertRole {id : String} {seen : List String} (ht : Referred s spaceId userId t)
    (hseen : ∀ id, id ∈ Db.Members.roleIds t.db spaceId userId ↔ id ∈ seen) :
    (insertRole ⟨userId, spaceId, id⟩).Follows t
      [{ asks := true, refuses := seen.contains id || !s.db.hasRole id }] := by
  refine follows_write ?_
  have hmember : t.db.hasMember spaceId userId = true := by
    rw [hasMember_eq]
    exact ht.member
  have hrole : t.db.hasRole id = s.db.hasRole id := by rw [Tables.hasRole, ht.roles]; rfl
  have hhas : Lib.Table.has memberRoleKey (memberRoleKey ⟨userId, spaceId, id⟩) t.db.memberRoles =
      seen.contains id := by
    rw [Bool.eq_iff_iff, has_memberRoleKey, hseen, List.contains_iff_mem]
  rw [hhas, assignable, hmember, hrole, Bool.true_and]
  cases seen.contains id <;> cases s.db.hasRole id <;> rfl

theorem referred_same {u : AppState} (ht : Referred s spaceId userId t)
    (hmembers : u.db.members = t.db.members) (hroles : u.db.roles = t.db.roles) :
    Referred s spaceId userId u := by
  refine ⟨?_, hroles.trans ht.roles⟩
  rw [rowOf, hmembers]
  exact ht.member

theorem follows_insertRoles {ids seen : List String} (ht : Referred s spaceId userId t)
    (hseen : ∀ id, id ∈ Db.Members.roleIds t.db spaceId userId ↔ id ∈ seen) :
    (Prog.forEach ids (fun id => insertRole ⟨userId, spaceId, id⟩)).Follows t
      (grantStages s.db seen ids) := by
  induction ids generalizing t seen with
  | nil => exact Prog.follows_pure ()
  | cons id ids ih =>
    rw [Prog.forEach_cons]
    refine Follows.bind (follows_insertRole ht hseen) (fun _ u hexec => ?_)
    obtain rfl := exec_write_ok hexec
    refine ih (referred_same ht rfl rfl) (fun x => ?_)
    rw [List.mem_cons, ← hseen, mem_roleIds, mem_roleIds]
    simp [or_comm]

theorem follows_updateRoles (roles : Option (List String)) (ht : Referred s spaceId userId t) :
    (Db.Members.updateRoles spaceId userId roles).Follows t (roleStages s.db roles) := by
  cases roles with
  | none => exact Prog.follows_pure ()
  | some ids =>
    have hclear : (App.update (clearRoles spaceId userId)).Follows t [{ asks := true }] :=
      @follows_write t (fun _ => none) _ false false rfl
    refine Follows.bind hclear (fun _ u hexec => ?_)
    obtain rfl := exec_write_ok hexec
    refine follows_insertRoles (referred_same ht rfl rfl) (fun id => ?_)
    rw [mem_roleIds]
    simp [clearRoles]

theorem preserves_updateRoles {γ : Type} {view : AppState → γ}
    (hview : ∀ (s : AppState) rows, view (s.withDb { s.db with memberRoles := rows }) = view s)
    (roles : Option (List String)) :
    (Db.Members.updateRoles spaceId userId roles).Preserves view := by
  cases roles with
  | none => exact Prog.preserves_pure _
  | some ids =>
    exact Prog.Preserves.bind (App.preserves_update (fun _ => hview _ _))
      (fun _ => Prog.preserves_forEach (fun _ _ => App.preserves_write (fun _ => hview _ _)))

theorem kept_grantStages (db : Tables) (seen ids : List String) :
    (grantStages db seen ids).all (fun stage => !stage.loses) = true := by
  induction ids generalizing seen with
  | nil => rfl
  | cons id ids ih =>
    rw [grantStages, List.all_cons, ih]
    rfl

theorem kept_roleStages (db : Tables) (roles : Option (List String)) :
    (roleStages db roles).all (fun stage => !stage.loses) = true := by
  cases roles with
  | none => rfl
  | some ids =>
    rw [roleStages, List.all_cons, kept_grantStages]
    rfl

theorem watches_updateRoles (roles : Option (List String))
    (ht : Standing (memberField spaceId userId) url file t) :
    (Db.Members.updateRoles spaceId userId roles).Watches
      (Standing (memberField spaceId userId) url file) t (roleStages s.db roles) := by
  have hpreserves : (Db.Members.updateRoles spaceId userId roles).Preserves
      (fun s : AppState => (s.db.members, s.files)) := preserves_updateRoles (fun _ _ => rfl) roles
  refine hpreserves.watches (fun u hu => ?_) (kept_roleStages s.db roles)
  obtain ⟨hmembers, hfiles⟩ := Prod.mk.inj hu
  refine ⟨?_, hfiles ▸ ht.2⟩
  rw [memberField, rowOf, hmembers]
  exact ht.1

def storedMember (spaceId userId : String) (admission : Except AppError Unit)
    (input : UpdateMember) : App Json := do
  let avatar ← storeImage (memberAvatar spaceId userId) (memberColumn spaceId userId) admission
    input.avatar
  let row ← Db.Members.updateMember spaceId userId { input with avatar := avatar }
  let roleIds ← Db.Members.getMemberRoleIds spaceId userId
  return Members.memberRowToJson row roleIds

theorem updateChecked_eq : Members.updateChecked spaceId userId admission input =
    storedMember spaceId userId admission input >>= fun json =>
      broadcastSpace (some spaceId) "member.update" json "members" >>= fun _ =>
        pure (.obj [("data", json)]) := by
  simp only [Members.updateChecked, storeAvatar_eq, storedMember, bind_assoc, pure_bind]

theorem getMemberRow_of_rowOf {db : Tables} (h : rowOf spaceId userId db = some row) :
    Db.Members.getMemberRow spaceId userId db = .ok row := by
  rw [rowOf] at h
  rw [Db.Members.getMemberRow, h]

theorem reads_memberColumn (h : rowOf spaceId userId s.db = some row) (hnear : Near s t) :
    Reads (memberColumn spaceId userId) t (memberField spaceId userId s.db) := by
  have hfield : memberField spaceId userId s.db = row.avatar := by rw [memberField, h]; rfl
  rw [hfield]
  rw [← hnear.db] at h
  exact reads_field MemberRow.avatar (getMemberRow_of_rowOf h)

theorem referred_updateRoles {roles : Option (List String)} {u : Unit} {v : AppState}
    (ht : Referred s spaceId userId t)
    (h : (Db.Members.updateRoles spaceId userId roles).exec t = (.ok u, v)) :
    Referred s spaceId userId v := by
  have hview : (Db.Members.updateRoles spaceId userId roles).Preserves
      (fun s : AppState => (s.db.members, s.db.roles)) :=
    preserves_updateRoles (fun _ _ => rfl) roles
  have hsame := hview.exec t
  rw [h] at hsame
  obtain ⟨hmembers, hroles⟩ := Prod.mk.inj hsame
  exact referred_same ht hmembers hroles

def readBack (spaceId userId : String) : App Json := do
  let row ← Db.Members.getMemberRow spaceId userId
  let roleIds ← Db.Members.getMemberRoleIds spaceId userId
  return Members.memberRowToJson row roleIds

theorem readBack_row (ht : Referred s spaceId userId t) :
    (!(Db.Members.getMemberRow spaceId userId t.db).isOk) = false := by
  obtain ⟨row, hrow⟩ := Option.isSome_iff_exists.mp ht.member
  rw [getMemberRow_of_rowOf hrow]
  rfl

theorem follows_readBack (ht : Referred s spaceId userId t) :
    (readBack spaceId userId).Follows t [{ asks := true }, { asks := true }] := by
  have hread := follows_lift (Db.Members.getMemberRow spaceId userId) t
  rw [readBack_row ht] at hread
  refine Follows.bind hread (fun row u _ => ?_)
  exact Follows.bind (follows_lift (Db.Members.getMemberRoleIds spaceId userId) u)
    (fun ids v _ => Prog.follows_pure _)

theorem watches_readBack (ht : Referred s spaceId userId t) (hI : I t) :
    (readBack spaceId userId).Watches I t [{ asks := true }, { asks := true }] := by
  have hread := follows_lift (Db.Members.getMemberRow spaceId userId) t
  have hwatch := watches_lift (Db.Members.getMemberRow spaceId userId) hI
  rw [readBack_row ht] at hread hwatch
  refine Watches.bind hread hwatch (fun row u _ hu _ => ?_)
  exact Watches.bind (follows_lift (Db.Members.getMemberRoleIds spaceId userId) u)
    (watches_lift (Db.Members.getMemberRoleIds spaceId userId) hu)
    (fun ids v _ hv _ => Prog.watches_pure _ hv)

theorem storedMember_eq : storedMember spaceId userId admission input =
    storeImage (memberAvatar spaceId userId) (memberColumn spaceId userId) admission
        input.avatar >>= fun avatar =>
      setWhen spaceId userId input.nickname (fun v m => { m with nickname := some v }) >>= fun _ =>
      setWhen spaceId userId avatar (fun v m =>
        { m with avatar := if v = "" then none else some v }) >>= fun _ =>
      setWhen spaceId userId input.mute (fun v m => { m with mute := v }) >>= fun _ =>
      setWhen spaceId userId input.deaf (fun v m => { m with deaf := v }) >>= fun _ =>
      setWhen spaceId userId input.communicationDisabledUntil
        (fun v m => { m with timedOutUntil := v }) >>= fun _ =>
      Db.Members.updateRoles spaceId userId input.roles >>= fun _ => readBack spaceId userId := by
  simp only [storedMember, Db.Members.updateMember, readBack, bind_assoc]

theorem follows_storedMember (h : rowOf spaceId userId s.db = some row) :
    (storedMember spaceId userId admission input).Follows s
      (memberStages s spaceId userId input admission url file) := by
  rw [storedMember_eq]
  refine follows_image (.refl s) (reads_memberColumn h (.refl s)) (fun avatar t hnear hgiven => ?_)
  have ht : Referred s spaceId userId t := by
    rw [← hnear.db] at h
    exact ⟨by rw [h]; rfl, by rw [hnear.db]⟩
  refine Follows.bind (follows_setWhen _ _ _) (fun _ t₁ h₁ => ?_)
  have ht₁ := referred_setWhen h₁ ht (fun _ _ => ⟨rfl, rfl⟩)
  rw [← hgiven]
  refine Follows.bind (follows_setWhen _ _ _) (fun _ t₂ h₂ => ?_)
  have ht₂ := referred_setWhen h₂ ht₁ (fun _ _ => ⟨rfl, rfl⟩)
  refine Follows.bind (follows_setWhen _ _ _) (fun _ t₃ h₃ => ?_)
  have ht₃ := referred_setWhen h₃ ht₂ (fun _ _ => ⟨rfl, rfl⟩)
  refine Follows.bind (follows_setWhen _ _ _) (fun _ t₄ h₄ => ?_)
  have ht₄ := referred_setWhen h₄ ht₃ (fun _ _ => ⟨rfl, rfl⟩)
  refine Follows.bind (follows_setWhen _ _ _) (fun _ t₅ h₅ => ?_)
  have ht₅ := referred_setWhen h₅ ht₄ (fun _ _ => ⟨rfl, rfl⟩)
  refine Follows.bind (follows_updateRoles _ ht₅) (fun _ t₆ h₆ => ?_)
  exact follows_readBack (referred_updateRoles ht₅ h₆)

theorem watches_storedMember (h : rowOf spaceId userId s.db = some row)
    (hs : Standing (memberField spaceId userId) url file s) (hstored : Stored s url file) :
    (storedMember spaceId userId admission input).Watches
      (Standing (memberField spaceId userId) url file) s
      (memberStages s spaceId userId input admission url file) := by
  have hold : memberField spaceId userId s.db = some url := hs.1
  rw [storedMember_eq]
  refine watches_image hstored (.refl s) (reads_memberColumn h (.refl s)) hs (.inl hold)
    (fun avatar t hnear ht huntouched hsame => ?_)
  have htouches := huntouched hold
  obtain ⟨rfl, rfl⟩ := hsame htouches
  have hother : ∀ {α : Type} {f : α → MemberRow → MemberRow} {value : Option α},
      (∀ v m, (f v m).avatar = m.avatar) → ∀ v ∈ value, ∀ m : MemberRow, m.avatar = some url →
        ((f v m).avatar = some url ↔ false = false) :=
    fun hf v _ m hm => ⟨fun _ => rfl, fun _ => (hf v m).trans hm⟩
  have hr : Referred t spaceId userId t := ⟨by rw [h]; rfl, rfl⟩
  refine Watches.bind (follows_setWhen _ _ _)
    (watches_setWhen _ (fun _ _ => ⟨rfl, rfl⟩) ht (hother (fun _ _ => rfl)))
    (fun _ t₁ h₁ ht₁ _ => ?_)
  have hr₁ := referred_setWhen h₁ hr (fun _ _ => ⟨rfl, rfl⟩)
  have hlink : ∀ v ∈ input.avatar, ∀ m : MemberRow, m.avatar = some url →
      ((if v = "" then none else some v) = some url ↔ relinks input.avatar url = false) := by
    intro v hv m _
    rw [hv, touches, Option.any_some, Bool.or_eq_false_iff, decide_eq_false_iff_not] at htouches
    rw [hv, if_neg htouches.2]
    simp [relinks]
  refine Watches.bind (follows_setWhen _ _ _)
    (watches_setWhen _ (fun _ _ => ⟨rfl, rfl⟩) ht₁ hlink) (fun _ t₂ h₂ ht₂ _ => ?_)
  have hr₂ := referred_setWhen h₂ hr₁ (fun _ _ => ⟨rfl, rfl⟩)
  refine Watches.bind (follows_setWhen _ _ _)
    (watches_setWhen _ (fun _ _ => ⟨rfl, rfl⟩) ht₂ (hother (fun _ _ => rfl)))
    (fun _ t₃ h₃ ht₃ _ => ?_)
  have hr₃ := referred_setWhen h₃ hr₂ (fun _ _ => ⟨rfl, rfl⟩)
  refine Watches.bind (follows_setWhen _ _ _)
    (watches_setWhen _ (fun _ _ => ⟨rfl, rfl⟩) ht₃ (hother (fun _ _ => rfl)))
    (fun _ t₄ h₄ ht₄ _ => ?_)
  have hr₄ := referred_setWhen h₄ hr₃ (fun _ _ => ⟨rfl, rfl⟩)
  refine Watches.bind (follows_setWhen _ _ _)
    (watches_setWhen _ (fun _ _ => ⟨rfl, rfl⟩) ht₄ (hother (fun _ _ => rfl)))
    (fun _ t₅ h₅ ht₅ _ => ?_)
  have hr₅ := referred_setWhen h₅ hr₄ (fun _ _ => ⟨rfl, rfl⟩)
  refine Watches.bind (follows_updateRoles _ hr₅) (watches_updateRoles _ ht₅)
    (fun _ t₆ h₆ ht₆ _ => ?_)
  exact watches_readBack (referred_updateRoles hr₅ h₆) ht₆

theorem checkUpdateMember_same {db : Tables} {auth : AuthUser} {ext : Externals}
    {checked : UpdateMember}
    (h : Members.checkUpdateMember spaceId userId auth ext input db = .ok checked) :
    ∃ timeout, timeout.isSome = input.communicationDisabledUntil.isSome ∧
      checked = { input with communicationDisabledUntil := timeout } := by
  unfold Members.checkUpdateMember at h
  simp only [Query.bind_ok] at h
  obtain ⟨-, -, -, -, -, -, -, -, -, -, -, -, timeout, htimeout, hresult⟩ := h
  refine ⟨timeout, ?_, (Except.ok.inj hresult).symm⟩
  cases hinput : input.communicationDisabledUntil with
  | none =>
    rw [hinput] at htimeout
    cases htimeout
    rfl
  | some ts =>
    rw [hinput] at htimeout
    simp only [Members.checkTimeout, Query.bind_ok] at htimeout
    obtain ⟨-, -, -, -, hparsed⟩ := htimeout
    cases ts with
    | none =>
      cases hparsed
      rfl
    | some ts =>
      dsimp only at hparsed
      cases hparse : ext.parseRfc3339 ts with
      | none =>
        rw [hparse] at hparsed
        cases hparsed
      | some millis =>
        rw [hparse] at hparsed
        cases hparsed
        rfl

theorem memberStages_checked {db : Tables} {auth : AuthUser} {ext : Externals}
    {checked : UpdateMember}
    (h : Members.checkUpdateMember spaceId userId auth ext input db = .ok checked) :
    memberStages s spaceId userId checked admission url file =
      memberStages s spaceId userId input admission url file := by
  obtain ⟨timeout, hgiven, rfl⟩ := checkUpdateMember_same h
  rw [memberStages, memberStages]
  dsimp only
  rw [hgiven]

variable {auth : AuthUser}

def checkedMember (spaceId userId : String) (auth : AuthUser) (input : UpdateMember)
    (admission : Except AppError Unit) : App Json := do
  let ext ← App.externals
  let input ← Members.checkUpdateMember spaceId userId auth ext input
  storedMember spaceId userId admission input

theorem updateMember_eq : Members.updateMember spaceId userId auth input admission =
    checkedMember spaceId userId auth input admission >>= fun json =>
      broadcastSpace (some spaceId) "member.update" json "members" >>= fun _ =>
        pure (.obj [("data", json)]) := by
  simp only [Members.updateMember, checkedMember, updateChecked_eq, bind_assoc]

theorem follows_checkedMember (h : rowOf spaceId userId s.db = some row) :
    (checkedMember spaceId userId auth input admission).Follows s
      ({ asks := true
         refuses := !(Members.checkUpdateMember spaceId userId auth s.ext input s.db).isOk } ::
        memberStages s spaceId userId input admission url file) := by
  refine Prog.follows_get ?_
  refine Follows.bind (follows_lift (Members.checkUpdateMember spaceId userId auth s.ext input) s)
    (fun checked t hcheck => ?_)
  obtain ⟨hchecked, rfl⟩ := App.exec_lift_ok.mp hcheck
  have hnext : (storedMember spaceId userId admission checked).Follows s
      (memberStages s spaceId userId checked admission url file) := follows_storedMember h
  rw [memberStages_checked hchecked] at hnext
  exact hnext

theorem watches_checkedMember (h : rowOf spaceId userId s.db = some row)
    (hs : Standing (memberField spaceId userId) url file s) (hstored : Stored s url file) :
    (checkedMember spaceId userId auth input admission).Watches
      (Standing (memberField spaceId userId) url file) s
      ({ asks := true
         refuses := !(Members.checkUpdateMember spaceId userId auth s.ext input s.db).isOk } ::
        memberStages s spaceId userId input admission url file) := by
  refine Prog.watches_get hs ?_
  refine Watches.bind (follows_lift (Members.checkUpdateMember spaceId userId auth s.ext input) s)
    (watches_lift _ hs) (fun checked t hcheck _ _ => ?_)
  obtain ⟨hchecked, rfl⟩ := App.exec_lift_ok.mp hcheck
  have hnext : (storedMember spaceId userId admission checked).Watches
      (Standing (memberField spaceId userId) url file) s
      (memberStages s spaceId userId checked admission url file) :=
    watches_storedMember h hs hstored
  rw [memberStages_checked hchecked] at hnext
  exact hnext

def allowedMember (spaceId : String) (auth : AuthUser) (input : UpdateMember)
    (admission : Except AppError Unit) : App Json := do
  requirePermission spaceId auth "change_nickname"
  storedMember spaceId auth.userId admission { nickname := input.nickname, avatar := input.avatar }

theorem updateOwnMember_eq : updateOwnMember spaceId auth input admission =
    allowedMember spaceId auth input admission >>= fun json =>
      broadcastSpace (some spaceId) "member.update" json "members" >>= fun _ =>
        pure (.obj [("data", json)]) := by
  simp only [updateOwnMember, allowedMember, updateChecked_eq, bind_assoc]

theorem follows_ownMember (h : rowOf spaceId auth.userId s.db = some row) :
    (allowedMember spaceId auth input admission).Follows s
      ({ asks := true, refuses := !(requirePermission spaceId auth "change_nickname" s.db).isOk } ::
        memberStages s spaceId auth.userId { nickname := input.nickname, avatar := input.avatar }
          admission url file) := by
  refine Follows.bind (follows_lift (requirePermission spaceId auth "change_nickname") s)
    (fun _ t hcheck => ?_)
  obtain ⟨-, rfl⟩ := App.exec_lift_ok.mp hcheck
  exact follows_storedMember h

theorem watches_ownMember (h : rowOf spaceId auth.userId s.db = some row)
    (hs : Standing (memberField spaceId auth.userId) url file s) (hstored : Stored s url file) :
    (allowedMember spaceId auth input admission).Watches
      (Standing (memberField spaceId auth.userId) url file) s
      ({ asks := true, refuses := !(requirePermission spaceId auth "change_nickname" s.db).isOk } ::
        memberStages s spaceId auth.userId { nickname := input.nickname, avatar := input.avatar }
          admission url file) := by
  refine Watches.bind (follows_lift (requirePermission spaceId auth "change_nickname") s)
    (watches_lift _ hs) (fun _ t hcheck _ _ => ?_)
  obtain ⟨-, rfl⟩ := App.exec_lift_ok.mp hcheck
  exact watches_storedMember h hs hstored

end

end Vokusz.Routes.Images
