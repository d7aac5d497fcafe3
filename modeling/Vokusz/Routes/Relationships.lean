import Vokusz.Federation.Outbound
import Vokusz.Lib.Transition
import Vokusz.Permissions

namespace Vokusz.Db.Relationships

open Lib

def relationshipKey (r : Relationship) : String × String := (r.userId, r.targetUserId)

structure RelationshipRow where
  row : Relationship
  target : User
  deriving DecidableEq, Repr

def rowOf (db : Tables) (userId targetId : String) : Option RelationshipRow := do
  let row ← Table.lookup relationshipKey (userId, targetId) db.relationships
  let target ← Table.lookup User.id targetId db.users
  return { row, target }

def getRelationship (userId targetId : String) : Query (Option RelationshipRow) :=
  fun db => .ok (rowOf db userId targetId)

def setKind (userId targetId : String) (kind : Nat) (now : String) (db : Tables) : Tables :=
  { db with
    relationships := Table.upsert relationshipKey
      { userId := userId, targetUserId := targetId, kind := kind, createdAt := now }
      (fun r => { r with kind := kind }) db.relationships }

def referencesUsers (userId targetId : String) (db : Tables) : Bool :=
  Table.has relationshipKey (userId, targetId) db.relationships ||
    (db.hasUser userId && db.hasUser targetId)

def upsertRelationship (userId targetId : String) (kind : Nat) : App Unit :=
  Prog.statement App.databaseFault (fun s =>
    match App.foreignKey (referencesUsers userId targetId s.db) with
    | some e => (.error e, s)
    | none => (.ok (), s.withDb (setKind userId targetId kind s.now s.db)))

def dropRow (userId targetId : String) (db : Tables) : Tables :=
  { db with
    relationships := Table.delete relationshipKey (userId, targetId) db.relationships }

def deleteRelationship (userId targetId : String) : App Bool :=
  App.writeCounted (fun _ => none)
    (fun db => Table.has relationshipKey (userId, targetId) db.relationships)
    (dropRow userId targetId)

def deleteBothDirections (userA userB : String) : App Unit :=
  App.update (fun db => dropRow userB userA (dropRow userA userB db))

end Vokusz.Db.Relationships

namespace Vokusz.Routes.Relationships

open Db
open Lib (Prog)
open Db.Relationships (RelationshipRow getRelationship upsertRelationship)
open Federation (gatewayEvent)

def relJson (rel : RelationshipRow) : Json :=
  .obj [("id", .str rel.row.targetUserId),
    ("user", .obj [("id", .str rel.row.targetUserId), ("username", .str rel.target.username),
      ("display_name", .str (rel.target.displayName.getD rel.target.username)),
      ("avatar", .ofOption rel.target.avatar)]),
    ("type", .num rel.row.kind), ("since", .str rel.row.createdAt)]

def sendTo (recipientId eventType : String) (data : Json) : App Unit :=
  App.send
    { spaceId := none
      targetUserIds := some [recipientId]
      event := gatewayEvent eventType data
      intent := "relationships" }

def aboutUser (aboutUserId : String) (user : Option User) : Json :=
  match user with
  | some u =>
    .obj [("id", .str u.id), ("username", .str u.username),
      ("display_name", .str (u.displayName.getD u.username)), ("avatar", .ofOption u.avatar)]
  | none => .obj [("id", .str aboutUserId)]

def broadcastRelationshipEvent (recipientId aboutUserId eventType : String) (kind : Nat) :
    App Unit := do
  let user ← App.found? (Users.getUser aboutUserId)
  sendTo recipientId eventType
    (.obj [("id", .str aboutUserId), ("user", aboutUser aboutUserId user), ("type", .num kind)])

def respond (userId targetId missing : String) : App Json := do
  let rel ← getRelationship userId targetId
  match rel with
  | some rel => return .obj [("data", relJson rel)]
  | none => Prog.fail (.internal missing)

def finishAccept (userId targetId : String) : App Json := do
  upsertRelationship targetId userId 1
  broadcastRelationshipEvent userId targetId "relationship.update" 1
  broadcastRelationshipEvent targetId userId "relationship.update" 1
  respond userId targetId "relationship missing after upsert"

def finishRequest (userId targetId : String) : App Json := do
  upsertRelationship targetId userId 3
  broadcastRelationshipEvent userId targetId "relationship.add" 4
  broadcastRelationshipEvent targetId userId "relationship.add" 3
  respond userId targetId "relationship missing after upsert"

def notifyGone (targetHadRel : Bool) (userId targetId : String) : App Unit :=
  if targetHadRel then sendTo targetId "relationship.remove" (.obj [("user_id", .str userId)])
  else return ()

def finishBlock (userId targetId : String) : App Json := do
  let targetHadRel ← Db.Relationships.deleteRelationship targetId userId
  broadcastRelationshipEvent userId targetId "relationship.add" 2
  notifyGone targetHadRel userId targetId
  respond userId targetId "relationship missing after block"

def isKind (kind : Nat) (rel : Option RelationshipRow) : Bool := rel.any (fun r => r.row.kind = kind)

def handleFriendOrAccept (userId targetId : String) : App Json := do
  let blocked ← Db.Relationships.isBlockedBy targetId userId
  Prog.require (¬ blocked) (.forbidden "you cannot send a friend request to this user")
  let myExisting ← getRelationship userId targetId
  let targetExisting ← getRelationship targetId userId
  if isKind 3 myExisting || isKind 4 targetExisting then
    upsertRelationship userId targetId 1
    finishAccept userId targetId
  else if isKind 1 myExisting then
    respond userId targetId "relationship missing after upsert"
  else
    upsertRelationship userId targetId 4
    finishRequest userId targetId

def handleBlock (userId targetId : String) : App Json := do
  upsertRelationship userId targetId 2
  finishBlock userId targetId

def putRelationship (userId targetId : String) (relType : Int) : App Json := do
  Prog.require (targetId ≠ userId) (.badRequest "cannot create a relationship with yourself")
  let _ ← Users.getUser targetId
  if relType = 1 then handleFriendOrAccept userId targetId
  else if relType = 2 then handleBlock userId targetId
  else Prog.fail (.badRequest "type must be 1 (friend) or 2 (block)")

def deleteRelationship (userId targetId : String) : App Json := do
  let existing ← getRelationship userId targetId
  Prog.require existing.isSome (.notFound "relationship not found")
  Db.Relationships.deleteBothDirections userId targetId
  sendTo userId "relationship.remove" (.obj [("user_id", .str targetId)])
  sendTo targetId "relationship.remove" (.obj [("user_id", .str userId)])
  return .obj []

inductive Request where
  | put (userId targetId : String) (relType : Int)
  | delete (userId targetId : String)
  deriving DecidableEq, Repr

def Request.userId : Request → String
  | .put userId _ _ => userId
  | .delete userId _ => userId

def Request.serve : Request → App Json
  | .put userId targetId relType => putRelationship userId targetId relType
  | .delete userId targetId => deleteRelationship userId targetId

theorem preserves_respond {γ : Type} {view : AppState → γ} (userId targetId missing : String) :
    (respond userId targetId missing).Preserves view := by
  refine (App.preserves_lift _).bind (fun rel => ?_)
  cases rel with
  | none => exact Prog.preserves_fail _
  | some rel => exact Prog.preserves_pure _

section

variable {γ : Type} {view : AppState → γ}
  (hview : ∀ (s : AppState) tx, view { s with gatewayTx := tx } = view s)
  (userId targetId recipientId aboutUserId eventType : String)

include hview

theorem preserves_sendTo (data : Json) : (sendTo recipientId eventType data).Preserves view :=
  Prog.preserves_modify (fun s => hview s _)

theorem preserves_broadcastRelationshipEvent (kind : Nat) :
    (broadcastRelationshipEvent recipientId aboutUserId eventType kind).Preserves view :=
  (App.preserves_found? _).bind (fun _ => preserves_sendTo hview _ _ _)

theorem preserves_notifyGone (targetHadRel : Bool) :
    (notifyGone targetHadRel userId targetId).Preserves view :=
  Prog.preserves_ite (preserves_sendTo hview _ _ _) (Prog.preserves_pure _)

end

def blocks (a b : String) (db : Tables) : Bool :=
  db.relationships.any (fun r => r.userId = a && r.targetUserId = b && r.kind = 2)

section

open Db.Relationships (relationshipKey setKind dropRow)

variable {a b userId targetId now : String} {kind : Nat} {db : Tables}

theorem blocks_iff : blocks a b db = true ↔
    ∃ r ∈ db.relationships, relationshipKey r = (a, b) ∧ r.kind = 2 := by
  simp [blocks, relationshipKey, and_assoc]

theorem kind_of_mem_setKind {r : Relationship}
    (hr : r ∈ (setKind a b kind now db).relationships) (hkey : relationshipKey r = (a, b)) :
    r.kind = kind := by
  unfold setKind Lib.Table.upsert at hr
  dsimp only at hr
  split at hr
  · rcases Lib.Table.mem_update hr with ⟨_, hne⟩ | ⟨old, _, _, rfl⟩
    · exact absurd hkey hne
    · rfl
  · rename_i hnew
    rcases List.mem_append.mp hr with hold | hlast
    · exact absurd (Lib.Table.has_iff.mpr ⟨r, hold, hkey⟩) hnew
    · rw [List.mem_singleton.mp hlast]

theorem blocks_setKind : blocks a b (setKind a b kind now db) = decide (kind = 2) := by
  rw [Bool.eq_iff_iff, blocks_iff, decide_eq_true_eq]
  constructor
  · rintro ⟨r, hr, hkey, htwo⟩
    exact (kind_of_mem_setKind hr hkey).symm.trans htwo
  · intro htwo
    have hhas : Lib.Table.has relationshipKey (a, b) (setKind a b kind now db).relationships = true :=
      Lib.Table.has_upsert (fun _ => rfl)
    obtain ⟨r, hr, hkey⟩ := Lib.Table.has_iff.mp hhas
    exact ⟨r, hr, hkey, (kind_of_mem_setKind hr hkey).trans htwo⟩

theorem blocks_congr {db' : Tables} (h : ∀ r, relationshipKey r = (a, b) →
    (r ∈ db'.relationships ↔ r ∈ db.relationships)) : blocks a b db' = blocks a b db := by
  rw [Bool.eq_iff_iff, blocks_iff, blocks_iff]
  constructor
  · rintro ⟨r, hr, hkey, htwo⟩
    exact ⟨r, (h r hkey).mp hr, hkey, htwo⟩
  · rintro ⟨r, hr, hkey, htwo⟩
    exact ⟨r, (h r hkey).mpr hr, hkey, htwo⟩

theorem blocks_setKind_of_ne (hne : (userId, targetId) ≠ (a, b)) :
    blocks a b (setKind userId targetId kind now db) = blocks a b db := by
  refine blocks_congr (fun r hkey => ?_)
  exact Lib.Table.mem_upsert_of_ne (fun _ => rfl) (fun heq => hne (heq.symm.trans hkey))

theorem blocks_dropRow_of_ne (hne : (userId, targetId) ≠ (a, b)) :
    blocks a b (dropRow userId targetId db) = blocks a b db := by
  refine blocks_congr (fun r hkey => ?_)
  exact Lib.Table.mem_delete_of_ne (fun heq => hne (heq.symm.trans hkey))

theorem blocks_dropRow : blocks a b (dropRow a b db) = false := by
  rw [← Bool.not_eq_true, blocks_iff]
  rintro ⟨r, hr, hkey, _⟩
  exact (Lib.Table.mem_delete.mp hr).2 hkey

end

theorem exec_upsertRelationship {s : AppState} {userId targetId : String} {kind : Nat} :
    (upsertRelationship userId targetId kind).exec s =
      if Db.Relationships.referencesUsers userId targetId s.db then
        (.ok (), s.withDb (Db.Relationships.setKind userId targetId kind s.now s.db))
      else (.error AppError.foreignKeyViolation, s) := by
  rw [upsertRelationship, Prog.exec_statement]
  cases Db.Relationships.referencesUsers userId targetId s.db <;> rfl

section

variable {a b userId targetId : String} {kind : Nat} {v : Bool}

abbrev Leaves (a b : String) (v : Bool) (p : App Json) : Prop :=
  p.Keeps (fun s => blocks a b s.db = v) (fun _ => True)

theorem leaves_upsert {rest : App Json}
    (h : ∀ (s : AppState), blocks a b s.db = v →
      blocks a b (Db.Relationships.setKind userId targetId kind s.now s.db) = v)
    (hrest : Leaves a b v rest) :
    Leaves a b v (upsertRelationship userId targetId kind >>= fun _ => rest) := by
  refine Prog.Keeps.bind (Q := fun _ => True) (Prog.keeps_statement (fun s hs => ?_)
    (fun _ _ _ _ => trivial)) (fun _ _ => hrest)
  cases App.foreignKey (Db.Relationships.referencesUsers userId targetId s.db) with
  | some e => exact hs
  | none => exact h s hs

theorem leaves_of_preserves {p : App Json} (h : p.Preserves AppState.db) : Leaves a b v p :=
  h.keeps (fun _ _ hview hs => hview ▸ hs)

theorem preserves_finishAccept_rest :
    (do
      broadcastRelationshipEvent userId targetId "relationship.update" 1
      broadcastRelationshipEvent targetId userId "relationship.update" 1
      respond userId targetId "relationship missing after upsert" : App Json).Preserves
        AppState.db := by
  refine (preserves_broadcastRelationshipEvent (fun _ _ => rfl) _ _ _ _).bind (fun _ => ?_)
  refine (preserves_broadcastRelationshipEvent (fun _ _ => rfl) _ _ _ _).bind (fun _ => ?_)
  exact preserves_respond _ _ _

theorem preserves_finishRequest_rest :
    (do
      broadcastRelationshipEvent userId targetId "relationship.add" 4
      broadcastRelationshipEvent targetId userId "relationship.add" 3
      respond userId targetId "relationship missing after upsert" : App Json).Preserves
        AppState.db := by
  refine (preserves_broadcastRelationshipEvent (fun _ _ => rfl) _ _ _ _).bind (fun _ => ?_)
  refine (preserves_broadcastRelationshipEvent (fun _ _ => rfl) _ _ _ _).bind (fun _ => ?_)
  exact preserves_respond _ _ _

theorem preserves_finishBlock_rest (targetHadRel : Bool) :
    (do
      broadcastRelationshipEvent userId targetId "relationship.add" 2
      notifyGone targetHadRel userId targetId
      respond userId targetId "relationship missing after block" : App Json).Preserves
        AppState.db := by
  refine (preserves_broadcastRelationshipEvent (fun _ _ => rfl) _ _ _ _).bind (fun _ => ?_)
  refine (preserves_notifyGone (fun _ _ => rfl) _ _ _).bind (fun _ => ?_)
  exact preserves_respond _ _ _

theorem leaves_own (hne : targetId ≠ b) (s : AppState) (h : blocks a b s.db = v) :
    blocks a b (Db.Relationships.setKind b targetId kind s.now s.db) = v := by
  have hkey : (b, targetId) ≠ (a, b) := fun heq => hne (Prod.mk.inj heq).2
  rw [blocks_setKind_of_ne hkey, h]

theorem leaves_other (hkind : kind ≠ 2) (hv : targetId = a → v = false) (s : AppState)
    (h : blocks a b s.db = v) :
    blocks a b (Db.Relationships.setKind targetId b kind s.now s.db) = v := by
  by_cases hta : targetId = a
  · rw [hta, blocks_setKind, hv hta]
    exact decide_eq_false hkind
  · have hkey : (targetId, b) ≠ (a, b) := fun heq => hta (Prod.mk.inj heq).1
    rw [blocks_setKind_of_ne hkey, h]

theorem leaves_dropRow (hv : userId = a → targetId = b → v = false) (db : Tables)
    (h : blocks a b db = v) : blocks a b (Db.Relationships.dropRow userId targetId db) = v := by
  by_cases hkey : (userId, targetId) = (a, b)
  · obtain ⟨hua, htb⟩ := Prod.mk.inj hkey
    rw [hua, htb, blocks_dropRow, hv hua htb]
  · rw [blocks_dropRow_of_ne hkey, h]

theorem leaves_friend (hne : targetId ≠ b) : Leaves a b v (handleFriendOrAccept b targetId) := by
  refine Prog.Keeps.bind (Q := fun blocked => targetId = a → blocked = v)
    (App.keeps_lift ?_) (fun blocked hread => ?_)
  · rintro s hs blocked hblocked rfl
    cases hblocked
    exact hs
  refine Prog.Keeps.bind Prog.keeps_require (fun _ hfree => ?_)
  have hv : targetId = a → v = false := fun hta => by simpa [hread hta] using hfree
  refine Prog.Keeps.bind (Q := fun _ => True) (App.keeps_lift (fun _ _ _ _ => trivial))
    (fun mine _ => ?_)
  refine Prog.Keeps.bind (Q := fun _ => True) (App.keeps_lift (fun _ _ _ _ => trivial))
    (fun theirs _ => ?_)
  split
  · refine leaves_upsert (leaves_own hne) ?_
    exact leaves_upsert (leaves_other (by decide) hv)
      (leaves_of_preserves preserves_finishAccept_rest)
  · split
    · exact leaves_of_preserves (preserves_respond _ _ _)
    · refine leaves_upsert (leaves_own hne) ?_
      exact leaves_upsert (leaves_other (by decide) hv)
        (leaves_of_preserves preserves_finishRequest_rest)

theorem leaves_block (hne : targetId ≠ b) (hv : targetId = a → v = false) :
    Leaves a b v (handleBlock b targetId) := by
  refine leaves_upsert (leaves_own hne) ?_
  refine Prog.Keeps.bind (Q := fun _ => True) ?_
    (fun _ _ => leaves_of_preserves (preserves_finishBlock_rest _))
  exact Prog.keeps_statement (fun s hs => leaves_dropRow (fun hta _ => hv hta) s.db hs)
    (fun _ _ _ _ => trivial)

theorem leaves_delete (hv : targetId = a → v = false) :
    Leaves a b v (deleteRelationship b targetId) := by
  refine Prog.Keeps.bind (Q := fun _ => True) (App.keeps_lift (fun _ _ _ _ => trivial))
    (fun existing _ => ?_)
  refine Prog.Keeps.bind (Q := fun _ => True) (Prog.keeps_require.mono (fun _ _ => trivial))
    (fun _ _ => ?_)
  refine Prog.Keeps.bind (Q := fun _ => True) (App.keeps_update (fun s hs => ?_)) (fun _ _ => ?_)
  · refine leaves_dropRow (fun hta _ => hv hta) _ (leaves_dropRow (fun hba htb => ?_) s.db hs)
    exact hv (htb.trans hba)
  · refine leaves_of_preserves ((preserves_sendTo (fun _ _ => rfl) _ _ _).bind (fun _ => ?_))
    exact (preserves_sendTo (fun _ _ => rfl) _ _ _).bind (fun _ => Prog.preserves_pure _)

theorem leaves_put (relType : Int) (hv : relType = 2 → targetId = a → v = false) :
    Leaves a b v (putRelationship b targetId relType) := by
  refine Prog.Keeps.bind Prog.keeps_require (fun _ hne => ?_)
  refine Prog.Keeps.bind (Q := fun _ => True) (App.keeps_lift (fun _ _ _ _ => trivial))
    (fun target _ => ?_)
  split
  · exact leaves_friend hne
  · split
    · rename_i htype
      exact leaves_block hne (hv htype)
    · trivial

end

def served (s : AppState) (r : Request) : AppState := (r.serve.exec s).2

def unblocks (a : String) (s : AppState) : Request → Bool
  | .put userId targetId relType =>
    targetId = a && relType = 2 && a ≠ userId && s.db.hasUser a &&
      Db.Relationships.referencesUsers userId a s.db
  | .delete userId targetId =>
    targetId = a && (Db.Relationships.rowOf s.db userId a).isSome

section

variable {a b : String} {s : AppState}

theorem getUser_of_not_has {userId : String} {db : Tables} (h : db.hasUser userId = false) :
    Users.getUser userId db = .error (.notFound "unknown_user") := by
  rw [Users.getUser, Lib.Table.lookup_none_of_not_has h]

theorem put_unblocks (h : unblocks a s (.put b a 2) = true) :
    blocks a b ((putRelationship b a 2).exec s).2.db = false := by
  simp only [unblocks, Bool.and_eq_true, decide_eq_true_eq] at h
  obtain ⟨⟨⟨_, hne⟩, huser⟩, hrefs⟩ := h
  obtain ⟨user, hfound⟩ := Users.getUser_of_has huser
  have hown : (upsertRelationship b a 2).exec s =
      (.ok (), s.withDb (Db.Relationships.setKind b a 2 s.now s.db)) := by
    rw [exec_upsertRelationship, if_pos hrefs]
  have hdrop : ∀ t : AppState, (Db.Relationships.deleteRelationship a b).exec t =
      (.ok (Lib.Table.has Db.Relationships.relationshipKey (a, b) t.db.relationships),
        t.withDb (Db.Relationships.dropRow a b t.db)) := fun t => App.exec_writeCounted _ _ _
  rw [putRelationship, Prog.exec_bind_of_ok ((Prog.exec_require_ok (u := ())).mpr ⟨hne, rfl⟩),
    Prog.exec_bind_of_ok (App.exec_lift_ok.mpr ⟨hfound, rfl⟩)]
  simp only [show ¬ (2 : Int) = 1 by decide, if_false, if_true]
  rw [handleBlock, Prog.exec_bind_of_ok hown, finishBlock, Prog.exec_bind_of_ok (hdrop _),
    (preserves_finishBlock_rest _).exec]
  exact blocks_dropRow

theorem delete_unblocks (h : unblocks a s (.delete b a) = true) :
    blocks a b ((deleteRelationship b a).exec s).2.db = false := by
  simp only [unblocks, Bool.and_eq_true, decide_eq_true_eq] at h
  have hread : getRelationship b a s.db = .ok (Db.Relationships.rowOf s.db b a) := rfl
  rw [deleteRelationship, Prog.exec_bind_of_ok (App.exec_lift_ok.mpr ⟨hread, rfl⟩),
    Prog.exec_bind_of_ok ((Prog.exec_require_ok (u := ())).mpr ⟨h.2, rfl⟩),
    Db.Relationships.deleteBothDirections, Prog.exec_bind_of_ok (App.exec_update _)]
  have hrest : (do
      sendTo b "relationship.remove" (.obj [("user_id", .str a)])
      sendTo a "relationship.remove" (.obj [("user_id", .str b)])
      return .obj [] : App Json).Preserves AppState.db := by
    refine (preserves_sendTo (fun _ _ => rfl) _ _ _).bind (fun _ => ?_)
    exact (preserves_sendTo (fun _ _ => rfl) _ _ _).bind (fun _ => Prog.preserves_pure _)
  rw [hrest.exec]
  exact blocks_dropRow

theorem put_keeps_block (hblocked : blocks a b s.db = true)
    (h : unblocks a s (.put b a 2) = false) :
    blocks a b ((putRelationship b a 2).exec s).2.db = true := by
  by_cases hne : a ≠ b
  · rw [putRelationship, Prog.exec_bind_of_ok ((Prog.exec_require_ok (u := ())).mpr ⟨hne, rfl⟩)]
    cases huser : s.db.hasUser a with
    | false =>
      have hmissing : (MonadLiftT.monadLift (Users.getUser a) : App User).exec s =
          (.error (.notFound "unknown_user"), s) := by
        rw [App.exec_lift, getUser_of_not_has huser]
      rw [Prog.exec_bind_of_error hmissing]
      exact hblocked
    | true =>
      obtain ⟨user, hfound⟩ := Users.getUser_of_has huser
      have hrefs : Db.Relationships.referencesUsers b a s.db = false := by
        simpa [unblocks, hne, huser] using h
      have hfails : (upsertRelationship b a 2).exec s =
          (.error AppError.foreignKeyViolation, s) := by
        rw [exec_upsertRelationship, hrefs]
        rfl
      rw [Prog.exec_bind_of_ok (App.exec_lift_ok.mpr ⟨hfound, rfl⟩)]
      simp only [show ¬ (2 : Int) = 1 by decide, if_false, if_true]
      rw [handleBlock, Prog.exec_bind_of_error hfails]
      exact hblocked
  · rw [putRelationship, Prog.require_bind, if_neg hne]
    exact hblocked

theorem delete_keeps_block (hblocked : blocks a b s.db = true)
    (h : unblocks a s (.delete b a) = false) :
    blocks a b ((deleteRelationship b a).exec s).2.db = true := by
  have hread : getRelationship b a s.db = .ok (Db.Relationships.rowOf s.db b a) := rfl
  have hnone : ¬ (Db.Relationships.rowOf s.db b a).isSome = true := by
    simpa [unblocks] using h
  rw [deleteRelationship, Prog.exec_bind_of_ok (App.exec_lift_ok.mpr ⟨hread, rfl⟩),
    Prog.require_bind, if_neg hnone]
  exact hblocked

theorem served_unblocked {r : Request} (hby : r.userId = b) (h : blocks a b s.db = false) :
    blocks a b (served s r).db = false := by
  cases r with
  | put userId targetId relType =>
    obtain rfl : userId = b := hby
    exact ((leaves_put relType (fun _ _ => rfl)).exec h).1
  | delete userId targetId =>
    obtain rfl : userId = b := hby
    exact ((leaves_delete (fun _ => rfl)).exec h).1

theorem served_blocked {r : Request} (hby : r.userId = b) (h : blocks a b s.db = true) :
    blocks a b (served s r).db = !unblocks a s r := by
  cases r with
  | put userId targetId relType =>
    obtain rfl : userId = b := hby
    by_cases haimed : relType = 2 ∧ targetId = a
    · obtain ⟨rfl, rfl⟩ := haimed
      cases hout : unblocks targetId s (.put userId targetId 2) with
      | true => exact put_unblocks hout
      | false => exact put_keeps_block h hout
    · have hkept := ((leaves_put relType (fun htype hta => absurd ⟨htype, hta⟩ haimed)).exec h).1
      have hnot : unblocks a s (.put userId targetId relType) = false := by
        rw [← Bool.not_eq_true]
        simp only [unblocks, Bool.and_eq_true, decide_eq_true_eq]
        rintro ⟨⟨⟨⟨hta, htype⟩, _⟩, _⟩, _⟩
        exact haimed ⟨htype, hta⟩
      rw [hnot]
      exact hkept
  | delete userId targetId =>
    obtain rfl : userId = b := hby
    by_cases haimed : targetId = a
    · obtain rfl := haimed
      cases hout : unblocks targetId s (.delete userId targetId) with
      | true => exact delete_unblocks hout
      | false => exact delete_keeps_block h hout
    · have hkept := ((leaves_delete (fun hta => absurd hta haimed)).exec h).1
      have hnot : unblocks a s (.delete userId targetId) = false := by simp [unblocks, haimed]
      rw [hnot]
      exact hkept

theorem foldl_unblocked {requests : List Request} (hby : ∀ r ∈ requests, r.userId = b)
    (h : blocks a b s.db = false) : blocks a b (requests.foldl served s).db = false := by
  induction requests generalizing s with
  | nil => exact h
  | cons r requests ih =>
    have hnext := served_unblocked (hby r (by simp)) h
    exact ih (fun r' hr' => hby r' (by simp [hr'])) hnext

theorem block_holds_iff {requests : List Request} (hby : ∀ r ∈ requests, r.userId = b)
    (hblocked : blocks a b s.db = true) :
    blocks a b (requests.foldl served s).db = true ↔
      Lib.meets (fun s r => some (served s r)) (fun s r => !unblocks a s r) s requests = true := by
  induction requests generalizing s with
  | nil => simp [Lib.meets, hblocked]
  | cons r requests ih =>
    have hrest : ∀ r' ∈ requests, r'.userId = b := fun r' hr' => hby r' (by simp [hr'])
    have hnext := served_blocked (hby r (by simp)) hblocked
    cases hout : unblocks a s r with
    | true =>
      rw [hout] at hnext
      simp [Lib.meets, hout, foldl_unblocked hrest hnext]
    | false =>
      rw [hout] at hnext
      simpa [Lib.meets, hout] using ih hrest hnext

end

def blocked : AppState :=
  { db :=
      { users := [{ id := "1", username := "ann" }, { id := "2", username := "bob" }]
        relationships := [{ userId := "1", targetUserId := "2", kind := 2 }] }
    ext := Externals.fixed "2025-01-01 00:00:00" }

theorem block_holds_against_requests :
    blocks "1" "2" ([Request.put "2" "1" 1, .delete "2" "1"].foldl served blocked).db = true :=
  (block_holds_iff (by simp [Request.userId]) (by decide +kernel)).mpr (by decide +kernel)

theorem blocked_user_leaves_block_list :
    blocks "1" "2" blocked.db = true ∧
      blocks "1" "2" (served blocked (.put "2" "1" 2)).db = false := by
  decide +kernel

end Vokusz.Routes.Relationships
