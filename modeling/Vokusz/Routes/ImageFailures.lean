import Vokusz.Routes.ProfileStages

namespace Vokusz.Routes.Images

open Db Permissions
open Lib (Prog Stage)
open Lib.Prog (Watches)
open Db.Users (UpdateUser)
open Db.Spaces (UpdateSpace)
open Db.Members (UpdateMember)
open Federation (broadcastSpace)
open Storage (FilePath)

inductive Update where
  | user (auth : AuthUser) (input : UpdateUser)
      (avatarAdmission bannerAdmission : Except AppError Unit)
  | member (spaceId userId : String) (auth : AuthUser) (input : UpdateMember)
      (admission : Except AppError Unit)
  | ownMember (spaceId : String) (auth : AuthUser) (input : UpdateMember)
      (admission : Except AppError Unit)
  | space (spaceId : String) (auth : AuthUser) (input : UpdateSpace)
      (iconAdmission bannerAdmission : Except AppError Unit)

structure Image where
  column : Tables → Option String
  given : Option String

namespace Update

def run : Update → App Json
  | .user auth input avatarAdmission bannerAdmission =>
    updateCurrentUser auth input avatarAdmission bannerAdmission
  | .member spaceId userId auth input admission =>
    Members.updateMember spaceId userId auth input admission
  | .ownMember spaceId auth input admission => updateOwnMember spaceId auth input admission
  | .space spaceId auth input iconAdmission bannerAdmission =>
    updateSpace spaceId auth input iconAdmission bannerAdmission

def images : Update → List Image
  | .user auth input _ _ => [⟨userField auth.userId User.avatar, input.avatar⟩,
      ⟨userField auth.userId User.banner, input.banner⟩]
  | .member spaceId userId _ input _ => [⟨memberField spaceId userId, input.avatar⟩]
  | .ownMember spaceId auth input _ => [⟨memberField spaceId auth.userId, input.avatar⟩]
  | .space spaceId _ input _ _ => [⟨spaceField spaceId SpaceRow.icon, input.icon⟩,
      ⟨spaceField spaceId SpaceRow.banner, input.banner⟩]

def stages (s : AppState) (image : Image) (url : String) (file : FilePath) : Update → List Stage
  | .user auth input avatarAdmission bannerAdmission =>
    userStages s auth input avatarAdmission bannerAdmission image.given url file
  | .member spaceId userId auth input admission =>
    { asks := true
      refuses := !(Members.checkUpdateMember spaceId userId auth s.ext input s.db).isOk } ::
      memberStages s spaceId userId input admission url file
  | .ownMember spaceId auth input admission =>
    { asks := true, refuses := !(requirePermission spaceId auth "change_nickname" s.db).isOk } ::
      memberStages s spaceId auth.userId { nickname := input.nickname, avatar := input.avatar }
        admission url file
  | .space spaceId auth input iconAdmission bannerAdmission =>
    spaceStages s spaceId auth input iconAdmission bannerAdmission image.given url file

end Update

def Harmless (s : AppState) (update : Update) (fault : Option Nat) : Prop :=
  (∃ e, (update.run.failing fault s).1 = .error e) → ∀ image ∈ update.images, ∀ url file,
    image.column s.db = some url → Stored s url file →
      update.run.Throughout (Standing image.column url file) fault s

section

variable {s : AppState} {url : String} {file : FilePath} {fault : Option Nat}

theorem unfailing_publish {json : Json} {spaceId : Option String} {event intent : String}
    {reply : Json} : (broadcastSpace spaceId event json intent >>= fun _ =>
      (pure reply : App Json)).Unfailing :=
  (unfailing_send _).bind (fun _ => Prog.unfailing_pure _)

theorem image_harmless_iff (update : Update) {image : Image} (himage : image ∈ update.images)
    (hold : image.column s.db = some url) (hstored : Stored s url file) :
    ((∃ e, (update.run.failing fault s).1 = .error e) →
        update.run.Throughout (Standing image.column url file) fault s) ↔
      Stage.failsLate (update.stages s image url file) fault = false := by
  have hs : Standing image.column url file s := ⟨hold, hstored.held⟩
  cases update with
  | user auth input avatarAdmission bannerAdmission =>
    rw [Update.run, updateCurrentUser_eq]
    have hrow : ∃ user, Lib.Table.lookup User.id auth.userId s.db.users = some user := by
      simp only [Update.images, List.mem_cons, List.not_mem_nil, or_false] at himage
      rcases himage with rfl | rfl
      · obtain ⟨user, hrow, _⟩ := Option.bind_eq_some_iff.mp hold
        exact ⟨user, hrow⟩
      · obtain ⟨user, hrow, _⟩ := Option.bind_eq_some_iff.mp hold
        exact ⟨user, hrow⟩
    obtain ⟨user, hrow⟩ := hrow
    refine Watches.harmless_iff (follows_storedUser hrow) ?_ (fun row => ?_) fault
    · simp only [Update.images, List.mem_cons, List.not_mem_nil, or_false] at himage
      rcases himage with rfl | rfl
      · exact watches_userAvatar hrow hs hstored
      · exact watches_userBanner hrow hs hstored
    · exact (unfailing_broadcastUserUpdate row).bind (fun _ => Prog.unfailing_pure _)
  | member spaceId userId auth input admission =>
    obtain rfl := List.mem_singleton.mp himage
    obtain ⟨row, hrow, _⟩ := Option.bind_eq_some_iff.mp hold
    rw [Update.run, updateMember_eq]
    exact Watches.harmless_iff (follows_checkedMember hrow) (watches_checkedMember hrow hs hstored)
      (fun _ => unfailing_publish) fault
  | ownMember spaceId auth input admission =>
    obtain rfl := List.mem_singleton.mp himage
    obtain ⟨row, hrow, _⟩ := Option.bind_eq_some_iff.mp hold
    rw [Update.run, updateOwnMember_eq]
    exact Watches.harmless_iff (follows_ownMember hrow) (watches_ownMember hrow hs hstored)
      (fun _ => unfailing_publish) fault
  | space spaceId auth input iconAdmission bannerAdmission =>
    rw [Update.run, updateSpace_eq]
    have hrow : ∃ space, Lib.Table.lookup SpaceRow.id spaceId s.db.spaces = some space := by
      simp only [Update.images, List.mem_cons, List.not_mem_nil, or_false] at himage
      rcases himage with rfl | rfl
      · obtain ⟨space, hrow, _⟩ := Option.bind_eq_some_iff.mp hold
        exact ⟨space, hrow⟩
      · obtain ⟨space, hrow, _⟩ := Option.bind_eq_some_iff.mp hold
        exact ⟨space, hrow⟩
    obtain ⟨space, hrow⟩ := hrow
    refine Watches.harmless_iff (follows_storedSpace hrow) ?_ (fun _ => unfailing_publish) fault
    simp only [Update.images, List.mem_cons, List.not_mem_nil, or_false] at himage
    rcases himage with rfl | rfl
    · exact watches_spaceIcon hrow hs hstored
    · exact watches_spaceBanner hrow hs hstored

theorem failed_update_harmless_iff (s : AppState) (update : Update) (fault : Option Nat) :
    Harmless s update fault ↔ ∀ image ∈ update.images, ∀ url file,
      image.column s.db = some url → Stored s url file →
        Stage.failsLate (update.stages s image url file) fault = false := by
  constructor
  · intro h image himage url file hold hstored
    refine (image_harmless_iff update himage hold hstored).mp (fun herror => ?_)
    exact h herror image himage url file hold hstored
  · intro h herror image himage url file hold hstored
    exact (image_harmless_iff update himage hold hstored).mpr
      (h image himage url file hold hstored) herror

def badAvatar : Update :=
  .user { userId := "1" } { avatar := some "data:text/plain;base64,aGk=" } (.ok ()) (.ok ())

theorem bad_avatar_loses_file : ¬ Harmless twoUsers badAvatar none := by
  intro h
  have herror : (badAvatar.run.failing none twoUsers).1.isOk = false := by decide +kernel
  have hfails : ∃ e, (badAvatar.run.failing none twoUsers).1 = .error e := by
    cases hrun : (badAvatar.run.failing none twoUsers).1 with
    | error e => exact ⟨e, rfl⟩
    | ok a =>
      rw [hrun] at herror
      cases herror
  have hstored : Stored twoUsers "/cdn/avatars/1.png" ["srv", "cdn", "avatars", "1.png"] :=
    ⟨by decide +kernel, by decide +kernel, ⟨"avatars", "1.png", rfl⟩, by decide⟩
  have hkept := (h hfails ⟨userField "1" User.avatar, some "data:text/plain;base64,aGk="⟩
    List.mem_cons_self "/cdn/avatars/1.png" ["srv", "cdn", "avatars", "1.png"] (by decide +kernel)
    hstored).last.2
  exact absurd hkept (by decide +kernel)

end

end Vokusz.Routes.Images
