import Vokusz.Db.SpaceSlugs
import Vokusz.Federation.Footprint
import Vokusz.Lib.Transition
import Vokusz.Routes.Members
import Vokusz.Routes.Username
import Vokusz.Storage.Places

namespace Vokusz.Db

open Lib

namespace Users

structure UpdateUser where
  username : Option String := none
  displayName : Option String := none
  avatar : Option String := none
  banner : Option String := none
  accentColor : Option Int := none
  bio : Option String := none
  deriving DecidableEq, Repr

def UpdateUser.apply (input : UpdateUser) (row : User) : User :=
  { row with
    username := input.username.getD row.username
    displayName := input.displayName <|> row.displayName
    avatar := Spaces.orNull input.avatar row.avatar
    banner := Spaces.orNull input.banner row.banner
    accentColor := input.accentColor <|> row.accentColor
    bio := input.bio <|> row.bio }

def updateUser (userId : String) (input : UpdateUser) : App User := do
  App.write
    (fun db => App.unique (!db.hasUser userId || input.username.all (db.usernameFree userId)))
    (fun db => { db with users := Table.update User.id userId input.apply db.users })
  getUser userId

def getUserDmChannels (userId : String) : Query (List String) :=
  fun db => .ok ((db.dmParticipants.filter (fun p => p.userId = userId)).map
    DmParticipant.channelId)

end Users

namespace Relationships

def getFriendIds (userId : String) : Query (List String) :=
  fun db => .ok ((db.relationships.filter (fun r => r.userId = userId && r.kind = 1)).map
    Relationship.targetUserId)

end Relationships

namespace Spaces

def storeUpdate (spaceId : String) (input : UpdateSpace) : App SpaceRow := do
  App.execute (fun db =>
    match updateSpace db spaceId input (db.spaces.length + 1) with
    | some (.ok db') => (.ok (), db')
    | some (.error e) => (.error e, db)
    | none => (.error (.internal "slug"), db))
  getSpaceRow spaceId

end Spaces

end Vokusz.Db

namespace Vokusz.Routes.Images

open App Db Permissions
open Lib (Prog)
open Db.Users (UpdateUser)
open Db.Spaces (UpdateSpace)
open Db.Members (UpdateMember)
open Federation (broadcastSpace gatewayEvent)
open Members (memberEntity)
open Spaces (userToJson spaceWithMetadata)
open Storage (ImageSlot FilePath Proper isDataUri placeOf uploadDirs inUploads imageExts)

def dropOld (column : App (Option String)) : App Unit := do
  let old ← column
  match old with
  | some url => let _ ← (Storage.deleteFile url).attempt
  | none => return ()

def storeImage (slot : ImageSlot) (column : App (Option String)) (admission : Except AppError Unit)
    (value : Option String) : App (Option String) := do
  let maxSize ← Prog.get AppState.maxAvatarSize
  match value with
  | none => return none
  | some value =>
    if isDataUri value then
      dropOld column
      let (url, _, _, _) ← Storage.saveAvatarImage slot.category slot.entityId value maxSize
        admission
      return some url
    else if value = "" then
      dropOld column
      Storage.deleteAvatar slot.category slot.entityId
      return some value
    else return some value

def checkUsername (username : Option String) : Except AppError Unit :=
  match username with
  | none => .ok ()
  | some username =>
    let u := trim username
    if u = "" || 32 < u.utf8ByteSize then
      .error (.badRequest "username must be between 1 and 32 characters")
    else Auth.validateUsername u

def checkLength (value : Option String) (limit : Nat) (message : String) : Except AppError Unit :=
  if value.any (fun v => limit < v.utf8ByteSize) then .error (.badRequest message) else .ok ()

def checkProfile (input : UpdateUser) : Except AppError Unit := do
  checkUsername input.username
  checkLength input.displayName 32 "display name must be at most 32 characters"
  checkLength input.bio 2000 "bio must be at most 2000 characters"

def publicUserToJson (u : User) : Json :=
  .obj ([("community_admin", .bool (u.isAdmin && u.origin.isNone)), ("id", .str u.id),
    ("username", .str u.username), ("display_name", .ofOption u.displayName),
    ("avatar", .ofOption u.avatar), ("banner", .ofOption u.banner),
    ("accent_color", .ofOptionInt u.accentColor), ("bio", .ofOption u.bio), ("bot", .bool u.bot),
    ("system", .bool u.system), ("created_at", .str u.createdAt)] ++
    u.origin.toList.map (fun o => ("origin", .str o)))

def userUpdate (user : User) (spaceId : Option String) (targets : Option (List String)) :
    GatewayBroadcast :=
  { spaceId := spaceId
    targetUserIds := targets
    event := gatewayEvent "user.update" (publicUserToJson user)
    intent := "users" }

def dmPeers (channelIds : List String) : App (List String) :=
  match channelIds with
  | [] => return []
  | channelId :: rest => do
    let ids ← App.found? (DmParticipants.listParticipantIds channelId)
    let more ← dmPeers rest
    return ids.getD [] ++ more

def broadcastUserUpdate (user : User) : App Unit := do
  let spaceIds ← App.found? (Db.Spaces.listSpaceIdsForUser user.id)
  let friends ← App.found? (Relationships.getFriendIds user.id)
  let dmChannels ← App.found? (Users.getUserDmChannels user.id)
  let peers ← dmPeers (dmChannels.getD [])
  Prog.forEach (spaceIds.getD []) (fun sid => App.send (userUpdate user (some sid) none))
  App.send (userUpdate user none (some (user.id :: (friends.getD [] ++ peers)).dedup))

def userColumn (userId : String) (field : User → Option String) : App (Option String) := do
  let old ← Users.getUser userId
  return field old

def spaceColumn (spaceId : String) (field : SpaceRow → Option String) : App (Option String) := do
  let old ← Db.Spaces.getSpaceRow spaceId
  return field old

def memberColumn (spaceId userId : String) : App (Option String) := do
  let old ← Db.Members.getMemberRow spaceId userId
  return old.avatar

def userAvatar (userId : String) : ImageSlot := ⟨"avatars", userId⟩
def userBanner (userId : String) : ImageSlot := ⟨"banners", userId⟩
def memberAvatar (spaceId userId : String) : ImageSlot := ⟨"avatars", memberEntity spaceId userId⟩
def spaceIcon (spaceId : String) : ImageSlot := ⟨"icons", spaceId⟩
def spaceBanner (spaceId : String) : ImageSlot := ⟨"banners", spaceId⟩

def updateCurrentUser (auth : AuthUser) (input : UpdateUser)
    (avatarAdmission bannerAdmission : Except AppError Unit) : App Json := do
  checkProfile input
  let avatar ← storeImage (userAvatar auth.userId) (userColumn auth.userId User.avatar)
    avatarAdmission input.avatar
  let banner ← storeImage (userBanner auth.userId) (userColumn auth.userId User.banner)
    bannerAdmission input.banner
  let user ← Users.updateUser auth.userId { input with avatar, banner }
  broadcastUserUpdate user
  return .obj [("data", userToJson user)]

def updateSpace (spaceId : String) (auth : AuthUser) (input : UpdateSpace)
    (iconAdmission bannerAdmission : Except AppError Unit) : App Json := do
  requirePermission spaceId auth "manage_space"
  let icon ← storeImage (spaceIcon spaceId) (spaceColumn spaceId SpaceRow.icon) iconAdmission
    input.icon
  let banner ← storeImage (spaceBanner spaceId) (spaceColumn spaceId SpaceRow.banner)
    bannerAdmission input.banner
  let space ← Db.Spaces.storeUpdate spaceId { input with icon, banner }
  let json ← spaceWithMetadata space
  broadcastSpace (some spaceId) "space.update" json "spaces"
  return .obj [("data", json)]

def updateOwnMember (spaceId : String) (auth : AuthUser) (input : UpdateMember)
    (admission : Except AppError Unit) : App Json := do
  requirePermission spaceId auth "change_nickname"
  Members.updateChecked spaceId auth.userId admission
    { nickname := input.nickname, avatar := input.avatar }

theorem storeAvatar_eq (spaceId userId : String) (admission : Except AppError Unit)
    (avatar : Option String) : Members.storeAvatar spaceId userId admission avatar =
      storeImage (memberAvatar spaceId userId) (memberColumn spaceId userId) admission avatar := by
  have hdrop : Members.dropOldAvatar spaceId userId = dropOld (memberColumn spaceId userId) := by
    rw [Members.dropOldAvatar, dropOld, memberColumn, bind_assoc]
    exact bind_congr (fun old => by cases old.avatar <;> rfl)
  rw [Members.storeAvatar, hdrop]
  rfl

def Guarded (root : FilePath) (slot : ImageSlot) (value : Option String) : Prop :=
  slot.Plain ∧ ∀ v ∈ value, slot.owns root v = true

def Sound (root : FilePath) (slot : ImageSlot) (value : Option String) : Prop :=
  ∀ v ∈ value, v = "" ∨ slot.owns root v = true

structure Columns (root : FilePath) (db : Tables) : Prop where
  users : ∀ u ∈ db.users,
    Guarded root (userAvatar u.id) u.avatar ∧ Guarded root (userBanner u.id) u.banner
  members : ∀ m ∈ db.members, Guarded root (memberAvatar m.spaceId m.userId) m.avatar
  spaces : ∀ sp ∈ db.spaces,
    Guarded root (spaceIcon sp.id) sp.icon ∧ Guarded root (spaceBanner sp.id) sp.banner

structure Clean (s : AppState) : Prop where
  root : ∀ n ∈ s.storagePath, Proper n
  files : ∀ f ∈ s.files, inUploads s.storagePath f = true
  columns : Columns s.storagePath s.db

structure Kept (start : AppState) (slots : List ImageSlot) (s : AppState) : Prop where
  clean : Clean s
  root : s.storagePath = start.storagePath
  shed : ∀ f ∈ start.files, f ∈ s.files ∨
    ∃ slot ∈ slots, slot.holds start.storagePath f = true

def accepts (s : AppState) (slot : ImageSlot) (value : Option String) : Bool :=
  value.all (fun v =>
    if isDataUri v || v = "" then slot.undisturbed s.storagePath s.files
    else slot.owns s.storagePath v)

section

variable {α β : Type} {Q : β → Prop} {start : AppState} {slots : List ImageSlot}

abbrev keptSlots : List Slot := [.users, .members, .spaces, .storagePath, .files]

theorem keeps_quiet {ns : List Slot} {p : App α} (h : Touches ns p)
    (hn : ∀ n ∈ keptSlots, n ∉ ns) : p.Maintains (Kept start slots) := by
  have hview : p.Preserves (fun s : AppState =>
      (s.db.users, s.db.members, s.db.spaces, s.storagePath, s.files)) :=
    (h .users (hn _ (by decide))).pair ((h .members (hn _ (by decide))).pair
      ((h .spaces (hn _ (by decide))).pair ((h .storagePath (hn _ (by decide))).pair
        (h .files (hn _ (by decide))))))
  refine hview.keeps (fun s t heq hs => ?_)
  simp only [Prod.mk.injEq] at heq
  obtain ⟨husers, hmembers, hspaces, hroot, hfiles⟩ := heq
  obtain ⟨⟨hproper, hin, hcolumns⟩, hstart, hshed⟩ := hs
  refine ⟨⟨?_, ?_, ?_⟩, hroot.trans hstart, ?_⟩
  · rw [hroot]
    exact hproper
  · rw [hroot, hfiles]
    exact hin
  · rw [hroot]
    constructor
    · rw [husers]
      exact hcolumns.users
    · rw [hmembers]
      exact hcolumns.members
    · rw [hspaces]
      exact hcolumns.spaces
  · rw [hfiles]
    exact hshed

theorem keeps_then {ns : List Slot} {p : App α} {f : α → App β} (h : Touches ns p)
    (hn : ∀ n ∈ keptSlots, n ∉ ns) (hf : ∀ a, (f a).Keeps (Kept start slots) Q) :
    (p >>= f).Keeps (Kept start slots) Q :=
  (keeps_quiet h hn).bind (fun a _ => hf a)

theorem keeps_read {p : App α} {f : α → App β} (h : Touches [] p)
    (hf : ∀ a, (f a).Keeps (Kept start slots) Q) : (p >>= f).Keeps (Kept start slots) Q :=
  keeps_then h (by decide) hf

theorem Kept.remove {s : AppState} {keep : FilePath → Bool} (hs : Kept start slots s)
    (hgone : ∀ f ∈ start.files, f ∈ s.files → keep f = false →
      ∃ slot ∈ slots, slot.holds start.storagePath f = true) :
    Kept start slots { s with files := s.files.filter keep } := by
  refine ⟨⟨hs.clean.root, fun f hf => hs.clean.files f (List.mem_filter.mp hf).1,
    hs.clean.columns⟩, hs.root, fun f hf => ?_⟩
  rcases hs.shed f hf with hheld | hslot
  · cases hkeep : keep f with
    | true => exact .inl (List.mem_filter.mpr ⟨hheld, hkeep⟩)
    | false => exact .inr (hgone f hf hheld hkeep)
  · exact .inr hslot

theorem Kept.save {s : AppState} {path : FilePath} (hs : Kept start slots s)
    (hin : inUploads start.storagePath path = true) :
    Kept start slots { s with
      files := if s.files.contains path then s.files else s.files ++ [path] } := by
  have hmem : ∀ f, f ∈ (if s.files.contains path then s.files else s.files ++ [path]) ↔
      f ∈ s.files ∨ f = path := by
    intro f
    split
    · next hheld =>
      have hpath : path ∈ s.files := List.contains_iff_mem.mp hheld
      constructor
      · exact .inl
      · rintro (hf | rfl)
        · exact hf
        · exact hpath
    · simp
  refine ⟨⟨hs.clean.root, fun f hf => ?_, hs.clean.columns⟩, hs.root, fun f hf => ?_⟩
  · rcases (hmem f).mp hf with hold | rfl
    · exact hs.clean.files f hold
    · change inUploads s.storagePath f = true
      rw [hs.root]
      exact hin
  · exact (hs.shed f hf).imp (fun hold => (hmem f).mpr (.inl hold)) id

variable {slot : ImageSlot} {column : App (Option String)}

theorem keeps_dropOld (hslot : slot ∈ slots)
    (hcolumn : column.Keeps (Kept start slots) (Guarded start.storagePath slot)) :
    (dropOld column).Keeps (Kept start slots) (fun _ => slot.Plain) := by
  refine hcolumn.bind (fun old hold => ?_)
  obtain ⟨hplain, howns⟩ := hold
  cases old with
  | none => exact hplain
  | some url =>
    refine (Storage.keeps_deleteFile (fun s hs => hs.root) (fun s hs => ?_)).attempt.bind
      (fun _ _ => hplain)
    refine hs.remove (fun f hf hheld hgone => ⟨slot, hslot, ?_⟩)
    obtain rfl : f = placeOf start.storagePath url := by simpa using hgone
    have hin := hs.clean.files _ hheld
    rw [hs.root] at hin
    simpa [ImageSlot.owns, hin] using howns url rfl

theorem keeps_storeImage {admission : Except AppError Unit} {value : Option String}
    (hproper : ∀ n ∈ start.storagePath, Proper n) (hslot : slot ∈ slots)
    (hcolumn : column.Keeps (Kept start slots) (Guarded start.storagePath slot))
    (haccepts : accepts start slot value = true) :
    (storeImage slot column admission value).Keeps (Kept start slots)
      (Sound start.storagePath slot) := by
  refine keeps_read (Prog.touches_get _) (fun maxSize => ?_)
  cases value with
  | none =>
    intro v hv
    cases hv
  | some v =>
    simp only [accepts, Option.all_some] at haccepts
    have hclear : slot.undisturbed start.storagePath start.files = true →
        ∀ s, Kept start slots s → Kept start slots { s with
          files := s.files.filter (fun f =>
            !Storage.isAvatarOf (s.storagePath ++ [slot.category]) slot.entityId f) } := by
      intro hundisturbed s hs
      refine hs.remove (fun f hf _ hgone => ⟨slot, hslot, ?_⟩)
      have hown := List.all_eq_true.mp hundisturbed f hf
      rw [← hs.root, hgone, Bool.false_or, hs.root] at hown
      exact hown
    have hsave : slot.Plain → ∀ s ext, Kept start slots s → ext ∈ imageExts →
        Kept start slots { s with
          files := if s.files.contains (slot.path start.storagePath ext) then s.files
            else s.files ++ [slot.path start.storagePath ext] } :=
      fun hplain s ext hs _ => hs.save hplain.inUploads_path
    dsimp only
    split
    · next hdata =>
      rw [hdata, Bool.true_or, if_pos rfl] at haccepts
      refine (keeps_dropOld hslot hcolumn).bind (fun _ hplain => ?_)
      refine (Storage.keeps_saveAvatarImage hplain (fun s hs => hs.root) (hclear haccepts)
        (hsave hplain)).bind (fun saved hsaved => ?_)
      obtain ⟨url, contentType, size, animated⟩ := saved
      obtain ⟨ext, hext, rfl⟩ := hsaved
      intro w hw
      rw [← Option.some.inj hw]
      exact .inr (hplain.owns_url hproper hext)
    · next hdata =>
      split
      · next hempty =>
        rw [if_pos (by simp [hempty])] at haccepts
        refine (keeps_dropOld hslot hcolumn).bind (fun _ _ => ?_)
        refine (Storage.keeps_deleteAvatar (hclear haccepts)).bind (fun _ _ => ?_)
        exact fun w hw => .inl ((Option.some.inj hw).symm.trans hempty)
      · next hempty =>
        rw [if_neg (by simp [hdata, hempty])] at haccepts
        intro w hw
        rw [← Option.some.inj hw]
        exact .inr haccepts

theorem Kept.withDb {s : AppState} {db : Tables} (hs : Kept start slots s)
    (h : Columns start.storagePath db) : Kept start slots (s.withDb db) := by
  refine ⟨⟨hs.clean.root, hs.clean.files, ?_⟩, hs.root, hs.shed⟩
  change Columns s.storagePath db
  rw [hs.root]
  exact h

theorem Kept.columns {s : AppState} (hs : Kept start slots s) :
    Columns start.storagePath s.db := by
  rw [← hs.root]
  exact hs.clean.columns

variable {root : FilePath}

theorem Guarded.assign {v : String} {old : Option String} (h : Guarded root slot old)
    (hv : v = "" ∨ slot.owns root v = true) :
    Guarded root slot (if v = "" then none else some v) := by
  refine ⟨h.1, fun w hw => ?_⟩
  split at hw
  · cases hw
  · next hempty =>
    cases hw
    exact hv.resolve_left hempty

theorem Guarded.orNull {value old : Option String} (h : Guarded root slot old)
    (hvalue : Sound root slot value) : Guarded root slot (Db.Spaces.orNull value old) := by
  cases value with
  | none => exact h
  | some v =>
    have hassign := h.assign (hvalue v rfl)
    simpa [Db.Spaces.orNull, String.isEmpty_iff] using hassign

theorem keeps_userColumn {userId : String} :
    (userColumn userId User.avatar).Keeps (Kept start slots)
        (Guarded start.storagePath (userAvatar userId)) ∧
      (userColumn userId User.banner).Keeps (Kept start slots)
        (Guarded start.storagePath (userBanner userId)) := by
  have hread : (MonadLiftT.monadLift (Users.getUser userId) : App User).Keeps (Kept start slots)
      (fun u => Guarded start.storagePath (userAvatar userId) u.avatar ∧
        Guarded start.storagePath (userBanner userId) u.banner) := by
    refine keeps_lift (fun s hs u hu => ?_)
    obtain ⟨hmem, rfl⟩ := Users.getUser_ok hu
    exact hs.columns.users u hmem
  exact ⟨hread.bind (fun u hu => hu.1), hread.bind (fun u hu => hu.2)⟩

theorem keeps_spaceColumn {spaceId : String} :
    (spaceColumn spaceId SpaceRow.icon).Keeps (Kept start slots)
        (Guarded start.storagePath (spaceIcon spaceId)) ∧
      (spaceColumn spaceId SpaceRow.banner).Keeps (Kept start slots)
        (Guarded start.storagePath (spaceBanner spaceId)) := by
  have hread : (MonadLiftT.monadLift (Db.Spaces.getSpaceRow spaceId) : App SpaceRow).Keeps
      (Kept start slots) (fun sp => Guarded start.storagePath (spaceIcon spaceId) sp.icon ∧
        Guarded start.storagePath (spaceBanner spaceId) sp.banner) := by
    refine keeps_lift (fun s hs sp hsp => ?_)
    obtain ⟨hmem, rfl⟩ := Db.Spaces.getSpaceRow_ok hsp
    exact hs.columns.spaces sp hmem
  exact ⟨hread.bind (fun sp hsp => hsp.1), hread.bind (fun sp hsp => hsp.2)⟩

theorem keeps_memberColumn {spaceId userId : String} :
    (memberColumn spaceId userId).Keeps (Kept start slots)
      (Guarded start.storagePath (memberAvatar spaceId userId)) := by
  have hread : (MonadLiftT.monadLift (Db.Members.getMemberRow spaceId userId) : App MemberRow).Keeps
      (Kept start slots) (fun m => Guarded start.storagePath (memberAvatar spaceId userId)
        m.avatar) := by
    refine keeps_lift (fun s hs m hm => ?_)
    obtain ⟨hmem, rfl, rfl⟩ := Db.Members.getMemberRow_ok hm
    exact hs.columns.members m hmem
  exact hread.bind (fun m hm => hm)

theorem keeps_updateUser {userId : String} {input : UpdateUser}
    (havatar : Sound start.storagePath (userAvatar userId) input.avatar)
    (hbanner : Sound start.storagePath (userBanner userId) input.banner) :
    (Users.updateUser userId input).Maintains (Kept start slots) := by
  refine Prog.Keeps.bind (Q := fun _ => True) (keeps_write (fun s hs => hs.withDb ?_))
    (fun _ _ => keeps_lift (fun _ _ _ _ => trivial))
  refine ⟨fun u hu => ?_, hs.columns.members, hs.columns.spaces⟩
  rcases Lib.Table.mem_update hu with ⟨hold, _⟩ | ⟨old, hold, rfl, rfl⟩
  · exact hs.columns.users u hold
  · obtain ⟨holdAvatar, holdBanner⟩ := hs.columns.users old hold
    exact ⟨holdAvatar.orNull havatar, holdBanner.orNull hbanner⟩

theorem updateSpace_some {db db' : Tables} {spaceId : String} {input : UpdateSpace} {fuel : Nat}
    (h : Db.Spaces.updateSpace db spaceId input fuel = some (.ok db')) :
    ∃ slug, db' = { db with
      spaces := Lib.Table.update SpaceRow.id spaceId (input.apply slug) db.spaces } := by
  have hrow : ∀ slug, Db.Spaces.updateRow db spaceId input slug = .ok db' →
      db' = { db with
        spaces := Lib.Table.update SpaceRow.id spaceId (input.apply slug) db.spaces } := by
    intro slug hslug
    unfold Db.Spaces.updateRow at hslug
    split at hslug
    · cases hslug
    · split at hslug
      · cases hslug
      · cases hslug
        rfl
  unfold Db.Spaces.updateSpace at h
  split at h
  · exact ⟨_, hrow _ (Option.some.inj h)⟩
  · split at h
    · cases h
    · obtain ⟨slug, _, hslug⟩ := Option.map_eq_some_iff.mp h
      exact ⟨_, hrow _ hslug⟩

theorem keeps_storeUpdate {spaceId : String} {input : UpdateSpace}
    (hicon : Sound start.storagePath (spaceIcon spaceId) input.icon)
    (hbanner : Sound start.storagePath (spaceBanner spaceId) input.banner) :
    (Db.Spaces.storeUpdate spaceId input).Maintains (Kept start slots) := by
  refine Prog.Keeps.bind (Q := fun _ => True) (Prog.keeps_statement (fun s hs => hs.withDb ?_)
    (fun _ _ _ _ => trivial)) (fun _ _ => keeps_lift (fun _ _ _ _ => trivial))
  have hcolumns := hs.columns
  dsimp only
  cases hupdate : Db.Spaces.updateSpace s.db spaceId input (s.db.spaces.length + 1) with
  | none => exact hcolumns
  | some result =>
    cases result with
    | error e => exact hcolumns
    | ok db' =>
      obtain ⟨slug, rfl⟩ := updateSpace_some hupdate
      refine ⟨hcolumns.users, hcolumns.members, fun sp hsp => ?_⟩
      rcases Lib.Table.mem_update hsp with ⟨hold, _⟩ | ⟨old, hold, rfl, rfl⟩
      · exact hcolumns.spaces sp hold
      · obtain ⟨holdIcon, holdBanner⟩ := hcolumns.spaces old hold
        exact ⟨holdIcon.orNull hicon, holdBanner.orNull hbanner⟩

theorem keeps_setWhen {γ : Type} {spaceId userId : String} {value : Option γ}
    {f : γ → MemberRow → MemberRow}
    (hf : ∀ v ∈ value, ∀ m, (f v m).spaceId = m.spaceId ∧ (f v m).userId = m.userId ∧
      (Guarded start.storagePath (memberAvatar spaceId userId) m.avatar →
        Guarded start.storagePath (memberAvatar spaceId userId) (f v m).avatar)) :
    (Db.Members.setWhen spaceId userId value f).Maintains (Kept start slots) := by
  cases value with
  | none => trivial
  | some v =>
    refine keeps_update (fun s hs => hs.withDb ?_)
    refine ⟨hs.columns.users, fun m hm => ?_, hs.columns.spaces⟩
    rcases Lib.Table.mem_update hm with ⟨hold, _⟩ | ⟨old, hold, hkey, rfl⟩
    · exact hs.columns.members m hold
    · obtain ⟨rfl, rfl⟩ := Prod.mk.inj hkey
      obtain ⟨hspace, huser, havatar⟩ := hf v rfl old
      rw [hspace, huser]
      exact havatar (hs.columns.members old hold)

theorem keeps_updateRoles {spaceId userId : String} {roles : Option (List String)} :
    (Db.Members.updateRoles spaceId userId roles).Maintains (Kept start slots) := by
  cases roles with
  | none => trivial
  | some roles =>
    have hsame : ∀ s (memberRoles : List MemberRole), Kept start slots s →
        Kept start slots (s.withDb { s.db with memberRoles := memberRoles }) :=
      fun s memberRoles hs => hs.withDb ⟨hs.columns.users, hs.columns.members, hs.columns.spaces⟩
    refine (keeps_update (fun s hs => hsame s _ hs)).bind (fun _ _ => ?_)
    exact Prog.keeps_forEach (fun roleId _ => keeps_write (fun s hs => hsame s _ hs))

theorem keeps_updateMember {spaceId userId : String} {input : UpdateMember}
    (havatar : Sound start.storagePath (memberAvatar spaceId userId) input.avatar) :
    (Db.Members.updateMember spaceId userId input).Maintains (Kept start slots) := by
  refine Prog.Keeps.bind (keeps_setWhen ?_) (fun _ _ => ?_)
  · exact fun v _ m => ⟨rfl, rfl, id⟩
  refine Prog.Keeps.bind (keeps_setWhen ?_) (fun _ _ => ?_)
  · exact fun v hv m => ⟨rfl, rfl, fun h => h.assign (havatar v hv)⟩
  refine Prog.Keeps.bind (keeps_setWhen ?_) (fun _ _ => ?_)
  · exact fun v _ m => ⟨rfl, rfl, id⟩
  refine Prog.Keeps.bind (keeps_setWhen ?_) (fun _ _ => ?_)
  · exact fun v _ m => ⟨rfl, rfl, id⟩
  refine Prog.Keeps.bind (keeps_setWhen ?_) (fun _ _ => ?_)
  · exact fun v _ m => ⟨rfl, rfl, id⟩
  refine keeps_updateRoles.bind (fun _ _ => ?_)
  exact keeps_lift (fun _ _ _ _ => trivial)

theorem touches_dmPeers (channelIds : List String) : Touches [] (dmPeers channelIds) := by
  induction channelIds with
  | nil => exact Prog.touches_pure _
  | cons channelId rest ih =>
    refine (touches_found? _).bind (fun ids => ih.bind (fun more => ?_))
    exact Prog.touches_pure _

theorem touches_broadcastUserUpdate (user : User) :
    Touches [.gatewayTx] (broadcastUserUpdate user) := by
  refine (touches_found? _).bind (fun spaceIds => (touches_found? _).bind (fun friends => ?_))
  refine (touches_found? _).bind (fun dmChannels => ?_)
  refine ((touches_dmPeers _).mono (by decide)).bind (fun peers => ?_)
  refine (Prog.touches_forEach (fun sid _ => touches_send _)).bind (fun _ => ?_)
  exact touches_send _

theorem keeps_updateCurrentUser {auth : AuthUser} {input : UpdateUser}
    {avatarAdmission bannerAdmission : Except AppError Unit}
    (hproper : ∀ n ∈ start.storagePath, Proper n)
    (hslots : [userAvatar auth.userId, userBanner auth.userId] ⊆ slots)
    (haccepts : checkProfile input = .ok () →
      accepts start (userAvatar auth.userId) input.avatar = true ∧
        accepts start (userBanner auth.userId) input.banner = true) :
    (updateCurrentUser auth input avatarAdmission bannerAdmission).Maintains (Kept start slots) := by
  refine keeps_check (fun hcheck => ?_)
  obtain ⟨havatar, hbanner⟩ := haccepts hcheck
  refine (keeps_storeImage hproper (hslots (by simp)) keeps_userColumn.1 havatar).bind
    (fun avatar hstored => ?_)
  refine (keeps_storeImage hproper (hslots (by simp)) keeps_userColumn.2 hbanner).bind
    (fun banner hstored' => ?_)
  refine Prog.Keeps.bind (keeps_updateUser hstored hstored') (fun user _ => ?_)
  exact keeps_then (touches_broadcastUserUpdate user) (by decide) (fun _ => trivial)

theorem stays_updateSpace {spaceId : String} {auth : AuthUser} {input : UpdateSpace}
    {iconAdmission bannerAdmission : Except AppError Unit} (hs : Kept start slots start)
    (hslots : [spaceIcon spaceId, spaceBanner spaceId] ⊆ slots)
    (haccepts : requirePermission spaceId auth "manage_space" start.db = .ok () →
      accepts start (spaceIcon spaceId) input.icon = true ∧
        accepts start (spaceBanner spaceId) input.banner = true) :
    (updateSpace spaceId auth input iconAdmission bannerAdmission).Stays (Kept start slots)
      start := by
  refine stays_checked hs (fun _ hcheck => ?_)
  obtain ⟨hicon, hbanner⟩ := haccepts hcheck
  have hproper := hs.clean.root
  refine Prog.Keeps.stays (Q := fun _ => True) ?_ hs
  refine (keeps_storeImage hproper (hslots (by simp)) keeps_spaceColumn.1 hicon).bind
    (fun icon hstored => ?_)
  refine (keeps_storeImage hproper (hslots (by simp)) keeps_spaceColumn.2 hbanner).bind
    (fun banner hstored' => ?_)
  refine Prog.Keeps.bind (keeps_storeUpdate hstored hstored') (fun space _ => ?_)
  have hmetadata : Touches [] (spaceWithMetadata space) :=
    fun _ _ => Spaces.preserves_spaceWithMetadata space
  refine keeps_read hmetadata (fun json => ?_)
  exact keeps_then (Federation.touches_broadcastSpace _ _ _ _) (by decide) (fun _ => trivial)

theorem keeps_updateChecked {spaceId userId : String} {input : UpdateMember}
    {admission : Except AppError Unit} (hproper : ∀ n ∈ start.storagePath, Proper n)
    (hslot : memberAvatar spaceId userId ∈ slots)
    (haccepts : accepts start (memberAvatar spaceId userId) input.avatar = true) :
    (Members.updateChecked spaceId userId admission input).Maintains (Kept start slots) := by
  unfold Members.updateChecked
  rw [storeAvatar_eq]
  refine (keeps_storeImage hproper hslot keeps_memberColumn haccepts).bind
    (fun avatar hstored => ?_)
  refine Prog.Keeps.bind (keeps_updateMember hstored) (fun row _ => ?_)
  refine keeps_read (touches_lift _) (fun roleIds => ?_)
  exact keeps_then (Federation.touches_broadcastSpace _ _ _ _) (by decide) (fun _ => trivial)

theorem checkUpdateMember_avatar {db : Tables} {spaceId userId : String} {auth : AuthUser}
    {ext : Externals} {input checked : UpdateMember}
    (h : Members.checkUpdateMember spaceId userId auth ext input db = .ok checked) :
    checked.avatar = input.avatar := by
  unfold Members.checkUpdateMember at h
  simp only [Query.bind_ok] at h
  obtain ⟨-, -, -, -, -, -, -, -, -, -, -, -, timeout, -, hresult⟩ := h
  cases hresult
  rfl

theorem stays_updateMember {spaceId userId : String} {auth : AuthUser} {input : UpdateMember}
    {admission : Except AppError Unit} (hs : Kept start slots start)
    (hslot : memberAvatar spaceId userId ∈ slots)
    (haccepts : ∀ checked,
      Members.checkUpdateMember spaceId userId auth start.ext input start.db = .ok checked →
        accepts start (memberAvatar spaceId userId) input.avatar = true) :
    (Members.updateMember spaceId userId auth input admission).Stays (Kept start slots) start := by
  have hread : App.externals.Keeps (fun t => t = start) (fun ext => ext = start.ext) :=
    Prog.keeps_get (fun t ht => ht ▸ rfl)
  refine Prog.stays_guard hs hread (fun ext hext => ?_)
  subst hext
  refine stays_checked hs (fun checked hchecked => ?_)
  have havatar := haccepts checked hchecked
  rw [← checkUpdateMember_avatar hchecked] at havatar
  exact (keeps_updateChecked hs.clean.root hslot havatar).stays hs

theorem stays_updateOwnMember {spaceId : String} {auth : AuthUser} {input : UpdateMember}
    {admission : Except AppError Unit} (hs : Kept start slots start)
    (hslot : memberAvatar spaceId auth.userId ∈ slots)
    (haccepts : requirePermission spaceId auth "change_nickname" start.db = .ok () →
      accepts start (memberAvatar spaceId auth.userId) input.avatar = true) :
    (updateOwnMember spaceId auth input admission).Stays (Kept start slots) start := by
  refine stays_checked hs (fun _ hcheck => ?_)
  have hkeeps := @keeps_updateChecked start slots spaceId auth.userId
    { nickname := input.nickname, avatar := input.avatar } admission hs.clean.root hslot
    (haccepts hcheck)
  exact hkeeps.stays hs

end

structure Upload where
  dir : String
  rest : FilePath
  known : dir ∈ uploadDirs

inductive Request where
  | user (auth : AuthUser) (input : UpdateUser)
      (avatarAdmission bannerAdmission : Except AppError Unit)
  | member (spaceId userId : String) (auth : AuthUser) (input : UpdateMember)
      (admission : Except AppError Unit)
  | ownMember (spaceId : String) (auth : AuthUser) (input : UpdateMember)
      (admission : Except AppError Unit)
  | space (spaceId : String) (auth : AuthUser) (input : UpdateSpace)
      (iconAdmission bannerAdmission : Except AppError Unit)
  | upload (file : Upload)

namespace Request

def serve (s : AppState) : Request → AppState
  | .user auth input avatarAdmission bannerAdmission =>
    ((updateCurrentUser auth input avatarAdmission bannerAdmission).exec s).2
  | .member spaceId userId auth input admission =>
    ((Members.updateMember spaceId userId auth input admission).exec s).2
  | .ownMember spaceId auth input admission =>
    ((updateOwnMember spaceId auth input admission).exec s).2
  | .space spaceId auth input iconAdmission bannerAdmission =>
    ((updateSpace spaceId auth input iconAdmission bannerAdmission).exec s).2
  | .upload file => ((Storage.writeFile (.internal "failed to write file")
      (s.storagePath ++ file.dir :: file.rest)).exec s).2

def images : Request → List (ImageSlot × Option String)
  | .user auth input _ _ =>
    [(userAvatar auth.userId, input.avatar), (userBanner auth.userId, input.banner)]
  | .member spaceId userId _ input _ => [(memberAvatar spaceId userId, input.avatar)]
  | .ownMember spaceId auth input _ => [(memberAvatar spaceId auth.userId, input.avatar)]
  | .space spaceId _ input _ _ =>
    [(spaceIcon spaceId, input.icon), (spaceBanner spaceId, input.banner)]
  | .upload _ => []

def admitted (s : AppState) : Request → Bool
  | .user _ input _ _ => (checkProfile input).isOk
  | .member spaceId userId auth input _ =>
    (Members.checkUpdateMember spaceId userId auth s.ext input s.db).isOk
  | .ownMember spaceId auth _ _ => (requirePermission spaceId auth "change_nickname" s.db).isOk
  | .space spaceId auth _ _ _ => (requirePermission spaceId auth "manage_space" s.db).isOk
  | .upload _ => true

def targets (req : Request) : List ImageSlot := req.images.map Prod.fst

end Request

structure Disk where
  app : AppState
  served : List ImageSlot := []

def step (s : Disk) (req : Request) : Option Disk :=
  some { app := req.serve s.app, served := req.targets }

def spares (s : Disk) (req : Request) : Bool :=
  !req.admitted s.app || req.images.all (fun image => accepts s.app image.1 image.2)

def OwnFilesOnly (s t : Disk) : Prop :=
  ∀ f ∈ s.app.files, f ∉ t.app.files →
    ∃ slot ∈ t.served, slot.holds s.app.storagePath f = true

theorem kept_serve {s : AppState} {req : Request} (hs : Clean s)
    (h : req.admitted s = true → ∀ image ∈ req.images, accepts s image.1 image.2 = true) :
    Kept s req.targets (req.serve s) := by
  have hstart : Kept s req.targets s := ⟨hs, rfl, fun f hf => .inl hf⟩
  cases req with
  | user auth input avatarAdmission bannerAdmission =>
    have haccepts : checkProfile input = .ok () →
        accepts s (userAvatar auth.userId) input.avatar = true ∧
          accepts s (userBanner auth.userId) input.banner = true := by
      intro hcheck
      have himages := h (by rw [Request.admitted, hcheck]; rfl)
      exact ⟨himages (userAvatar auth.userId, input.avatar) (by simp [Request.images]),
        himages (userBanner auth.userId, input.banner) (by simp [Request.images])⟩
    have hkeeps := @keeps_updateCurrentUser s [userAvatar auth.userId, userBanner auth.userId] auth
      input avatarAdmission bannerAdmission hs.root (List.Subset.refl _) haccepts
    rw [Request.serve]
    exact (hkeeps.stays hstart).exec
  | member spaceId userId auth input admission =>
    rw [Request.serve]
    refine (stays_updateMember hstart (by simp [Request.targets, Request.images])
      (fun checked hchecked => ?_)).exec
    exact h (by rw [Request.admitted, hchecked]; rfl) (memberAvatar spaceId userId, input.avatar)
      (by simp [Request.images])
  | ownMember spaceId auth input admission =>
    rw [Request.serve]
    refine (stays_updateOwnMember hstart (by simp [Request.targets, Request.images])
      (fun hcheck => ?_)).exec
    exact h (by rw [Request.admitted, hcheck]; rfl)
      (memberAvatar spaceId auth.userId, input.avatar) (by simp [Request.images])
  | space spaceId auth input iconAdmission bannerAdmission =>
    rw [Request.serve]
    refine (stays_updateSpace hstart (by simp [Request.targets, Request.images])
      (fun hcheck => ?_)).exec
    have himages := h (by rw [Request.admitted, hcheck]; rfl)
    exact ⟨himages (spaceIcon spaceId, input.icon) (by simp [Request.images]),
      himages (spaceBanner spaceId, input.banner) (by simp [Request.images])⟩
  | upload file =>
    rw [Request.serve]
    refine hstart.save (List.any_eq_true.mpr ⟨file.dir, file.known, ?_⟩)
    exact List.isPrefixOf_iff_prefix.mpr ⟨file.rest, by simp⟩

theorem files_owned (s : Disk) (hstart : Clean s.app) (reqs : List Request)
    (h : Lib.meets step spares s reqs = true) : Lib.Along step OwnFilesOnly s reqs := by
  have hserve : ∀ s req t, Clean s.app → spares s req = true → step s req = some t →
      Kept s.app t.served t.app := by
    intro s req t hs hspares hstep
    cases hstep
    refine kept_serve hs (fun hadmitted image himage => ?_)
    simp only [spares, hadmitted, Bool.not_true, Bool.false_or] at hspares
    exact List.all_eq_true.mp hspares image himage
  have hkeep : ∀ s req t, Clean s.app → spares s req = true → step s req = some t →
      Clean t.app :=
    fun s req t hs hspares hstep => (hserve s req t hs hspares hstep).clean
  have hown : ∀ s req t, Clean s.app → spares s req = true → step s req = some t →
      OwnFilesOnly s t :=
    fun s req t hs hspares hstep f hf hgone =>
      ((hserve s req t hs hspares hstep).shed f hf).resolve_left hgone
  exact Lib.along_of_meets hkeep hown hstart h

def twoUsers : AppState where
  db :=
    { users :=
        [{ id := "1", username := "ann", avatar := some "/cdn/avatars/1.png" },
          { id := "2", username := "bob" }] }
  ext := Externals.fixed ""
  storagePath := ["srv", "cdn"]
  files := [["srv", "cdn", "avatars", "1.png"]]

theorem twoUsers_clean : Clean twoUsers := by
  constructor
  · simp [twoUsers, Proper]
  · decide
  · constructor
    · intro u hu
      simp only [twoUsers, List.mem_cons, List.not_mem_nil, or_false] at hu
      rcases hu with rfl | rfl
      · exact ⟨⟨⟨by decide, by decide⟩, by decide +kernel⟩, ⟨⟨by decide, by decide⟩, by decide⟩⟩
      · exact ⟨⟨⟨by decide, by decide⟩, by decide⟩, ⟨⟨by decide, by decide⟩, by decide⟩⟩
    · exact List.forall_mem_nil _
    · exact List.forall_mem_nil _

def gives (userId avatar : String) : Request :=
  .user { userId := userId } { avatar := some avatar } (.ok ()) (.ok ())

theorem uploads_and_clears : Lib.Along step OwnFilesOnly { app := twoUsers }
    [gives "2" "https://pics.example/b.png", gives "1" "data:image/gif;base64,aGk=", gives "2" "",
      gives "1" ""] :=
  files_owned { app := twoUsers } twoUsers_clean _ (by decide +kernel)

theorem clears_anothers_file : Clean twoUsers ∧ ¬ Lib.Along step OwnFilesOnly { app := twoUsers }
    [gives "2" "/cdn/avatars/1.png", gives "2" ""] := by
  refine ⟨twoUsers_clean, fun h => ?_⟩
  have hstored := (h _ rfl).2
  have hcleared := (hstored _ rfl).1 ["srv", "cdn", "avatars", "1.png"] (by decide +kernel)
    (by decide +kernel)
  exact absurd hcleared (by decide +kernel)

end Vokusz.Routes.Images
