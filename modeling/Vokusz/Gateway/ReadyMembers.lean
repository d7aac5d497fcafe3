import Mathlib.Data.String.Basic
import Vokusz.Lib.Pages
import Vokusz.State

namespace Vokusz.Db.Members

open Lib

def joinedWithUsers (db : Tables) : List MemberRow :=
  db.members.flatMap (fun m =>
    (db.users.filter (fun u => u.id = m.userId && !u.system)).map (fun _ => m))

def listMembers (spaceId : String) (after : Option String) (limit : Nat) :
    Query (List MemberRow) :=
  fun db =>
    let rows := (joinedWithUsers db).filter (fun m => m.spaceId = spaceId)
    let rows := match after with
      | some afterId => rows.filter (fun m => afterId < m.userId)
      | none => rows
    .ok ((Table.orderBy MemberRow.userId rows).take (limit + 1))

end Vokusz.Db.Members

namespace Vokusz.Gateway

open Lib Db

def readyPageSize : Nat := 1000

def readyMembers (db : Tables) (spaceId : String) : Nat → Option String → Option (List MemberRow)
  | 0, _ => none
  | fuel + 1, after =>
    match Db.Members.listMembers spaceId after readyPageSize db with
    | .error _ => some []
    | .ok rows =>
      if readyPageSize < rows.length then
        let page := rows.take readyPageSize
        (readyMembers db spaceId fuel (page.getLast?.map MemberRow.userId)).map (page ++ ·)
      else some rows

variable {db : Tables} {spaceId : String}

def spaceMembers (db : Tables) (spaceId : String) : List MemberRow :=
  Table.orderBy MemberRow.userId
    ((Db.Members.joinedWithUsers db).filter (fun m => m.spaceId = spaceId))

def servePage (db : Tables) (spaceId : String) (after : Option String) :
    Option (Lib.Pages.Page MemberRow String) :=
  some (Lib.Pages.cut MemberRow.userId readyPageSize
    (Lib.Pages.beyond MemberRow.userId after (spaceMembers db spaceId)))

theorem listMembers_eq (db : Tables) (spaceId : String) (after : Option String) (limit : Nat) :
    Db.Members.listMembers spaceId after limit db = .ok
      ((Lib.Pages.beyond MemberRow.userId after (spaceMembers db spaceId)).take (limit + 1)) := by
  cases after with
  | none => rw [Lib.Pages.beyond_none]; rfl
  | some afterId =>
    rw [Lib.Pages.beyond, spaceMembers, Table.filter_orderBy]
    rfl

theorem readyMembers_last {after : Option String} (fuel : Nat)
    (h : (Lib.Pages.beyond MemberRow.userId after (spaceMembers db spaceId)).length
      ≤ readyPageSize) :
    readyMembers db spaceId (fuel + 1) after =
      some (Lib.Pages.beyond MemberRow.userId after (spaceMembers db spaceId)) := by
  rw [readyMembers, listMembers_eq, List.take_of_length_le (by omega)]
  exact if_neg (Nat.not_lt.mpr h)

theorem readyMembers_more {after : Option String} (fuel : Nat)
    (h : readyPageSize <
      (Lib.Pages.beyond MemberRow.userId after (spaceMembers db spaceId)).length) :
    readyMembers db spaceId (fuel + 1) after =
      let page := (Lib.Pages.beyond MemberRow.userId after (spaceMembers db spaceId)).take
        readyPageSize
      (readyMembers db spaceId fuel (page.getLast?.map MemberRow.userId)).map (page ++ ·) := by
  have hlong : readyPageSize < ((Lib.Pages.beyond MemberRow.userId after
      (spaceMembers db spaceId)).take (readyPageSize + 1)).length := by
    rw [List.length_take]
    omega
  have hpage : ((Lib.Pages.beyond MemberRow.userId after (spaceMembers db spaceId)).take
      (readyPageSize + 1)).take readyPageSize =
        (Lib.Pages.beyond MemberRow.userId after (spaceMembers db spaceId)).take readyPageSize := by
    rw [List.take_take, Nat.min_eq_left (Nat.le_add_right _ _)]
  rw [readyMembers, listMembers_eq]
  simp only [hlong, hpage, if_true]

theorem readyMembers_eq_walk (fuel : Nat) (after : Option String) :
    readyMembers db spaceId fuel after =
      Lib.Pages.walk (servePage db spaceId) fuel after := by
  induction fuel generalizing after with
  | zero => rfl
  | succ fuel ih =>
    rw [Lib.Pages.walk, servePage, Option.bind_some]
    rcases Nat.lt_or_ge readyPageSize
      (Lib.Pages.beyond MemberRow.userId after (spaceMembers db spaceId)).length with hmore | hlast
    · obtain ⟨front, last, htake, -⟩ :=
        @Lib.Pages.cut_next_some _ _ MemberRow.userId _ _ hmore (by decide)
      rw [readyMembers_more fuel hmore]
      simp only [htake, List.getLast?_concat, Option.map_some, Lib.Pages.cut, hmore, if_true, ih]
    · rw [readyMembers_last fuel hlast, Lib.Pages.cut_short hlast]

section

variable (husers : Table.Distinct User.id db.users)

include husers

theorem usersOf_member (m : MemberRow) :
    (db.users.filter (fun u => u.id = m.userId && !u.system)).map (fun _ => m) =
      if db.users.any (fun u => u.id = m.userId && !u.system) then [m] else [] := by
  cases hany : db.users.any (fun u => u.id = m.userId && !u.system) with
  | false =>
    have hnone : db.users.filter (fun u => u.id = m.userId && !u.system) = [] := by
      rw [List.filter_eq_nil_iff]
      exact List.any_eq_false.mp hany
    rw [hnone]
    rfl
  | true =>
    obtain ⟨u, hu, huser⟩ := List.any_eq_true.mp hany
    simp only [Bool.and_eq_true, decide_eq_true_eq, Bool.not_eq_true'] at huser
    have hone : db.users.filter (fun u => u.id = m.userId && !u.system) = [u] := by
      have hkey := husers.filter_key hu
      have hsplit : db.users.filter (fun u => u.id = m.userId && !u.system) =
          (db.users.filter (fun u => u.id = m.userId)).filter (fun u => !u.system) := by
        rw [List.filter_filter]
        apply List.filter_congr
        intro v _
        exact Bool.and_comm _ _
      rw [hsplit, ← huser.1, hkey]
      simp [huser.2]
    rw [hone]
    rfl

theorem joinedWithUsers_eq : Db.Members.joinedWithUsers db = db.members.filter (fun m =>
    db.users.any (fun u => u.id = m.userId && !u.system)) := by
  rw [Db.Members.joinedWithUsers]
  induction db.members with
  | nil => rfl
  | cons m members ih =>
    rw [List.flatMap_cons, ih, usersOf_member husers, List.filter_cons]
    split
    · rfl
    · rfl

theorem mem_spaceMembers (m : MemberRow) : m ∈ spaceMembers db spaceId ↔
    m ∈ db.members ∧ m.spaceId = spaceId ∧ ∃ u ∈ db.users, u.id = m.userId ∧ u.system = false := by
  rw [spaceMembers, Table.mem_orderBy, joinedWithUsers_eq husers]
  simp [and_assoc, and_comm]

theorem spaceMembers_ascending
    (hmembers : Table.Distinct (fun m : MemberRow => (m.userId, m.spaceId)) db.members) :
    (spaceMembers db spaceId).Pairwise (fun m m' => m.userId < m'.userId) := by
  have hdistinct : ((Db.Members.joinedWithUsers db).filter (fun m => m.spaceId = spaceId)).Pairwise
      (fun m m' => m.userId ≠ m'.userId) := by
    rw [joinedWithUsers_eq husers]
    have hkept := (hmembers.filter (fun m => db.users.any (fun u =>
      u.id = m.userId && !u.system))).filter (fun m => m.spaceId = spaceId)
    apply hkept.imp_of_mem
    intro m m' hm hm' hkeys hids
    apply hkeys
    simp only [List.mem_filter, decide_eq_true_eq] at hm hm'
    exact Prod.ext hids (hm.2.trans hm'.2.symm)
  have hsorted : (spaceMembers db spaceId).Pairwise (fun m m' => m.userId ≤ m'.userId) :=
    Table.orderBy_sorted _
  have hdiffer : (spaceMembers db spaceId).Pairwise (fun m m' => m.userId ≠ m'.userId) :=
    (Table.orderBy_perm _).symm.pairwise hdistinct (fun h => h.symm)
  exact (hsorted.and hdiffer).imp (fun h => lt_of_le_of_ne h.1 h.2)

theorem length_spaceMembers_le : (spaceMembers db spaceId).length ≤ db.members.length := by
  rw [spaceMembers, (Table.orderBy_perm _).length_eq, joinedWithUsers_eq husers]
  exact (List.length_filter_le _ _).trans (List.length_filter_le _ _)

end

theorem readyMembers_complete (spaceId : String) (husers : Table.Distinct User.id db.users)
    (hmembers : Table.Distinct (fun m : MemberRow => (m.userId, m.spaceId)) db.members) :
    ∃ collected : List MemberRow,
      (∀ spare, readyMembers db spaceId (db.members.length + 1 + spare) none = some collected) ∧
      collected.Pairwise (fun m m' => m.userId < m'.userId) ∧
      ∀ m, m ∈ collected ↔ m ∈ db.members ∧ m.spaceId = spaceId ∧
        ∃ u ∈ db.users, u.id = m.userId ∧ u.system = false := by
  use spaceMembers db spaceId
  have hascending := @spaceMembers_ascending _ spaceId husers hmembers
  constructor
  · intro spare
    have hserve : ∀ k, servePage db spaceId (some k) = some (Lib.Pages.cut MemberRow.userId
        readyPageSize (Lib.Pages.beyond MemberRow.userId (some k) (spaceMembers db spaceId))) :=
      fun k => rfl
    have henough : (Lib.Pages.beyond MemberRow.userId none (spaceMembers db spaceId)).length <
        db.members.length + 1 + spare := by
      have hle := @length_spaceMembers_le _ spaceId husers
      rw [Lib.Pages.beyond_none]
      omega
    rw [readyMembers_eq_walk, Lib.Pages.walk_ascending hserve (by decide) hascending rfl henough,
      Lib.Pages.beyond_none]
  · constructor
    · exact hascending
    · exact mem_spaceMembers husers

def smallSpace : Tables :=
  { users := [{ id := "3", username := "ann" }, { id := "2", username := "bob" },
      { id := "1", username := "system", system := true }]
    members := [{ userId := "3", spaceId := "9" }, { userId := "1", spaceId := "9" },
      { userId := "2", spaceId := "9" }, { userId := "3", spaceId := "8" }] }

theorem readyMembers_complete_small : ∃ collected : List MemberRow,
    (∀ spare, readyMembers smallSpace "9" (smallSpace.members.length + 1 + spare) none =
      some collected) ∧
    collected.Pairwise (fun m m' => m.userId < m'.userId) ∧
    ∀ m, m ∈ collected ↔ m ∈ smallSpace.members ∧ m.spaceId = "9" ∧
      ∃ u ∈ smallSpace.users, u.id = m.userId ∧ u.system = false :=
  readyMembers_complete "9" (by simp [Table.Distinct, smallSpace])
    (by simp [Table.Distinct, smallSpace])

end Vokusz.Gateway
