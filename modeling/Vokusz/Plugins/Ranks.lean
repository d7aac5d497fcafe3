import Vokusz.Lib.SortOrder
import Vokusz.Plugins.Leaderboards

namespace Vokusz.Plugins

open Lib

structure Board where
  pluginId : String
  spaceId : String
  boardId : String
  deriving DecidableEq, Repr

structure LeaderboardRecord where
  userId : String
  displayName : String
  score : Rat
  rank : Nat
  metadata : Option String
  deriving DecidableEq, Repr

namespace Board

def record (board : Board) (userId : String) : RecordKey :=
  { pluginId := board.pluginId, spaceId := board.spaceId, boardId := board.boardId
    userId := userId }

def rows (board : Board) (s : Server) : List LeaderboardRow :=
  s.leaderboard.filter (fun r => r.pluginId = board.pluginId && r.spaceId = board.spaceId &&
    r.boardId = board.boardId && r.period = "current")

end Board

def sortKey (sort : String) (r : LeaderboardRow) : Rat :=
  if sort = "ascending" then r.score else -r.score

def comparator (sort : String) (score userScore : Rat) : Bool :=
  if sort = "ascending" then score ≤ userScore else userScore ≤ score

def displayName (s : Server) (userId : String) : String :=
  match Table.lookup Db.User.id userId s.app.db.users with
  | some user => user.displayName.getD user.username
  | none => userId

def recordOf (s : Server) (rank : Nat) (r : LeaderboardRow) : LeaderboardRecord :=
  { userId := r.userId, displayName := displayName s r.userId, score := r.score, rank := rank
    metadata := r.metadata }

def numbered (s : Server) : Nat → List LeaderboardRow → List LeaderboardRecord
  | _, [] => []
  | rank, r :: rows => recordOf s rank r :: numbered s (rank + 1) rows

section

variable (board : Board) (sort : String) (order : SortOrder (sortKey sort))

def getLeaderboard (limit : Nat) (s : Server) : List LeaderboardRecord :=
  numbered s 1 ((order.sort (board.rows s)).take limit)

def countRank (userScore : Rat) (s : Server) : Nat :=
  ((board.rows s).filter (fun r => comparator sort r.score userScore)).length

def getAround (userId : String) (limit : Nat) (s : Server) : List LeaderboardRecord :=
  match Table.lookup LeaderboardRow.key (board.record userId) s.leaderboard with
  | none => []
  | some userRow =>
    let userRank := countRank board sort userRow.score s
    let half := limit / 2
    let offset := userRank - 1 - half
    numbered s (offset + 1) (((order.sort (board.rows s)).drop offset).take limit)

def getUserRecord (userId : String) (s : Server) : Option LeaderboardRecord :=
  (Table.lookup LeaderboardRow.key (board.record userId) s.leaderboard).map
    (fun row => recordOf s (countRank board sort row.score s) row)

end

def rankIn (userId : String) (records : List LeaderboardRecord) : Option Nat :=
  (records.find? (fun r => r.userId = userId)).map LeaderboardRecord.rank

def RanksAgree (board : Board) (sort : String) (order around : SortOrder (sortKey sort))
    (s : Server) : Prop :=
  ∀ userId record, getUserRecord board sort userId s = some record →
    (∀ limit, (board.rows s).length ≤ limit →
      rankIn userId (getLeaderboard board sort order limit s) = some record.rank) ∧
    ∀ limit, 1 ≤ limit →
      rankIn userId (getAround board sort around userId limit s) = some record.rank

section

variable {board : Board} {sort userId : String} {s : Server} {row : LeaderboardRow}
  {front back rows : List LeaderboardRow}

theorem comparator_eq (sort : String) (r row : LeaderboardRow) :
    comparator sort r.score row.score = decide (sortKey sort r ≤ sortKey sort row) := by
  rw [comparator, sortKey, sortKey]
  split
  · rfl
  · simp

theorem rankIn_numbered (n : Nat) (hfront : ∀ r ∈ front, r.userId ≠ row.userId) :
    rankIn row.userId (numbered s n (front ++ row :: back)) = some (n + front.length) := by
  induction front generalizing n with
  | nil => simp [rankIn, numbered, recordOf]
  | cons r front ih =>
    have hr : r.userId ≠ row.userId := hfront r List.mem_cons_self
    have hrest := ih (n + 1) (fun r' hr' => hfront r' (List.mem_cons_of_mem _ hr'))
    have hskip : rankIn row.userId (numbered s n ((r :: front) ++ row :: back)) =
        rankIn row.userId (numbered s (n + 1) (front ++ row :: back)) := by
      simp [rankIn, numbered, recordOf, hr]
    rw [hskip, hrest, List.length_cons, Nat.add_assoc, Nat.add_comm 1]

theorem sortKey_inj {r r' : LeaderboardRow} (h : sortKey sort r = sortKey sort r') :
    r.score = r'.score := by
  rw [sortKey, sortKey] at h
  split at h
  · exact h
  · exact neg_inj.mp h

theorem countRank_split {order : SortOrder (sortKey sort)}
    (hsplit : order.sort (board.rows s) = front ++ row :: back) :
    countRank board sort row.score s =
      front.length + 1 + (back.filter (fun r => r.score = row.score)).length := by
  have hsorted := order.sorted (board.rows s)
  have hperm := order.perm (board.rows s)
  rw [hsplit] at hsorted hperm
  obtain ⟨-, hback, hfront⟩ := List.pairwise_append.mp hsorted
  have hahead : front.filter (fun r => comparator sort r.score row.score) = front := by
    rw [List.filter_eq_self]
    intro r hr
    rw [comparator_eq]
    exact decide_eq_true (hfront r hr row List.mem_cons_self)
  have hself : comparator sort row.score row.score = true := by simp [comparator_eq sort row row]
  have hbehind : back.filter (fun r => comparator sort r.score row.score) =
      back.filter (fun r => r.score = row.score) := by
    apply List.filter_congr
    intro r hr
    have hle := List.rel_of_pairwise_cons hback hr
    rw [comparator_eq]
    apply decide_eq_decide.mpr
    constructor
    · intro hge
      exact sortKey_inj (le_antisymm hge hle)
    · intro hscore
      rw [sortKey, sortKey, hscore]
  rw [countRank, ← (hperm.filter _).length_eq, List.filter_append, hahead, List.filter_cons,
    if_pos hself, hbehind, List.length_append, List.length_cons]
  omega

section

variable (hkeys : Table.Distinct LeaderboardRow.key s.leaderboard)

include hkeys

theorem lookup_record (hrow : row ∈ board.rows s) :
    Table.lookup LeaderboardRow.key (board.record row.userId) s.leaderboard = some row := by
  obtain ⟨hmem, hboard⟩ := List.mem_filter.mp hrow
  simp only [Bool.and_eq_true, decide_eq_true_eq] at hboard
  have hkey : row.key = board.record row.userId := by
    simp [LeaderboardRow.key, Board.record, hboard]
  rw [← hkey]
  exact hkeys.lookup_eq hmem

omit hkeys in
theorem lookup_record_mem
    (h : Table.lookup LeaderboardRow.key (board.record userId) s.leaderboard = some row) :
    row ∈ board.rows s ∧ row.userId = userId := by
  have hmem := Table.lookup_mem h
  have hkey : row.key = board.record userId := Table.lookup_key h
  simp only [LeaderboardRow.key, Board.record, RecordKey.mk.injEq] at hkey
  simp [Board.rows, hmem, hkey]

theorem users_distinct (order : SortOrder (sortKey sort)) :
    (order.sort (board.rows s)).Pairwise (fun r r' => r.userId ≠ r'.userId) := by
  have hboard : (board.rows s).Pairwise (fun r r' => r.userId ≠ r'.userId) := by
    apply (hkeys.filter _).imp_of_mem
    intro r r' hr hr' hne huser
    apply hne
    simp only [List.mem_filter, Bool.and_eq_true, decide_eq_true_eq] at hr hr'
    simp [LeaderboardRow.key, huser, hr.2, hr'.2]
  exact (order.perm (board.rows s)).symm.pairwise hboard (fun h => h.symm)

theorem rankIn_getLeaderboard {order : SortOrder (sortKey sort)} {limit : Nat}
    (hlimit : (board.rows s).length ≤ limit)
    (hsplit : order.sort (board.rows s) = front ++ row :: back) :
    rankIn row.userId (getLeaderboard board sort order limit s) = some (front.length + 1) := by
  have husers := @users_distinct board _ _ hkeys order
  rw [hsplit] at husers
  have hfront : ∀ r ∈ front, r.userId ≠ row.userId := fun r hr =>
    (List.pairwise_append.mp husers).2.2 r hr row List.mem_cons_self
  rw [getLeaderboard, List.take_of_length_le ((order.perm _).length_eq.trans_le hlimit), hsplit,
    rankIn_numbered 1 hfront, Nat.add_comm]

omit hkeys in
theorem take_window (row : LeaderboardRow) (back : List LeaderboardRow) {offset limit : Nat} (hoffset : offset ≤ front.length)
    (hlimit : (front.drop offset).length < limit) : ∃ rest,
      ((front ++ row :: back).drop offset).take limit = front.drop offset ++ row :: rest := by
  obtain ⟨room, rfl⟩ := Nat.exists_eq_add_of_lt hlimit
  use back.take room
  rw [List.drop_append_of_le_length hoffset, Nat.add_assoc, List.take_length_add_append,
    List.take_succ_cons]

theorem rankIn_getAround {around : SortOrder (sortKey sort)} {limit : Nat} (hlimit : 1 ≤ limit)
    (hsplit : around.sort (board.rows s) = front ++ row :: back)
    (hrank : countRank board sort row.score s = front.length + 1) :
    rankIn row.userId (getAround board sort around row.userId limit s) =
      some (front.length + 1) := by
  have husers := @users_distinct board _ _ hkeys around
  rw [hsplit] at husers
  have hrow : row ∈ board.rows s := by
    rw [← around.mem_sort, hsplit]
    simp
  have hoffset : front.length - limit / 2 ≤ front.length := Nat.sub_le _ _
  have hwindow : (front.drop (front.length - limit / 2)).length < limit := by
    rw [List.length_drop]
    omega
  obtain ⟨rest, htake⟩ := take_window row back hoffset hwindow
  have hfront : ∀ r ∈ front.drop (front.length - limit / 2), r.userId ≠ row.userId := fun r hr =>
    (List.pairwise_append.mp husers).2.2 r (List.mem_of_mem_drop hr) row List.mem_cons_self
  have hnumber : front.length - limit / 2 + 1 + (front.drop (front.length - limit / 2)).length =
      front.length + 1 := by
    rw [List.length_drop]
    omega
  rw [getAround, lookup_record hkeys hrow]
  simp only [hrank, Nat.add_sub_cancel, hsplit, htake]
  rw [rankIn_numbered _ hfront, hnumber]

theorem ranksAgree_iff (board : Board) (sort : String) (order around : SortOrder (sortKey sort)) :
    RanksAgree board sort order around s ↔
      (board.rows s).Pairwise (fun r r' => r.score ≠ r'.score) := by
  constructor
  · intro hagree
    have hsorted : (order.sort (board.rows s)).Pairwise (fun r r' => r.score ≠ r'.score) := by
      rw [List.pairwise_iff_forall_sublist]
      intro row r hsub hscore
      obtain ⟨before, after, hcut, hrow, hr⟩ := List.cons_sublist_iff.mp hsub
      obtain ⟨front, middle, rfl⟩ := List.append_of_mem hrow
      have hsplit : order.sort (board.rows s) = front ++ row :: (middle ++ after) := by
        rw [hcut]
        simp
      have hmem : row ∈ board.rows s := by
        rw [← order.mem_sort, hsplit]
        simp
      have htied : r ∈ (middle ++ after).filter (fun r => r.score = row.score) := by
        rw [List.mem_filter]
        exact ⟨List.mem_append_right _ (List.singleton_sublist.mp hr), decide_eq_true hscore.symm⟩
      have hcount := countRank_split hsplit
      have hrecord : getUserRecord board sort row.userId s =
          some (recordOf s (countRank board sort row.score s) row) := by
        rw [getUserRecord, lookup_record hkeys hmem, Option.map_some]
      have hlisted := (hagree row.userId _ hrecord).1 _ (Nat.le_refl _)
      rw [rankIn_getLeaderboard hkeys (Nat.le_refl _) hsplit, recordOf, hcount] at hlisted
      have hpos := List.length_pos_of_mem htied
      have heq : front.length + 1 = front.length + 1 +
          ((middle ++ after).filter (fun r => r.score = row.score)).length :=
        Option.some.inj hlisted
      omega
    exact (order.perm (board.rows s)).pairwise hsorted (fun h => h.symm)
  · intro hscores userId record hrecord
    obtain ⟨row, hlookup, rfl⟩ := Option.map_eq_some_iff.mp hrecord
    obtain ⟨hrow, rfl⟩ := lookup_record_mem hlookup
    have hsplits : ∀ listing : SortOrder (sortKey sort), ∃ front back,
        listing.sort (board.rows s) = front ++ row :: back ∧
          countRank board sort row.score s = front.length + 1 := by
      intro listing
      obtain ⟨front, back, hsplit⟩ := List.append_of_mem (listing.mem_sort.mpr hrow)
      use front, back, hsplit
      have hdiffer := (listing.perm (board.rows s)).symm.pairwise hscores (fun h => h.symm)
      rw [hsplit] at hdiffer
      have hnone : back.filter (fun r => r.score = row.score) = [] := by
        rw [List.filter_eq_nil_iff]
        intro r hr hsame
        have hne := List.rel_of_pairwise_cons (List.pairwise_append.mp hdiffer).2.1 hr
        exact hne (of_decide_eq_true hsame).symm
      rw [countRank_split hsplit, hnone, List.length_nil]
    constructor
    · intro limit hlimit
      obtain ⟨front, back, hsplit, hrank⟩ := hsplits order
      rw [rankIn_getLeaderboard hkeys hlimit hsplit, recordOf, hrank]
    · intro limit hlimit
      obtain ⟨front, back, hsplit, hrank⟩ := hsplits around
      rw [rankIn_getAround hkeys hlimit hsplit hrank, recordOf, hrank]

end

end

def chess : Board := { pluginId := "7", spaceId := "9", boardId := "wins" }

def wins (id userId : String) (score : Rat) : LeaderboardRow :=
  { id := id, pluginId := "7", spaceId := "9", boardId := "wins", userId := userId, score := score }

def winsOf (rows : List LeaderboardRow) : Server :=
  { app := { db := {}, ext := .fixed "" }, leaderboard := rows }

theorem ranks_agree_untied : RanksAgree chess "descending" (.stable _) (.stable _)
      (winsOf [wins "1" "2" 10, wins "2" "3" 7]) ↔
    (chess.rows (winsOf [wins "1" "2" 10, wins "2" "3" 7])).Pairwise
      (fun r r' => r.score ≠ r'.score) :=
  ranksAgree_iff (by simp [Table.Distinct, winsOf, wins, LeaderboardRow.key]) chess "descending"
    (.stable _) (.stable _)

theorem tied_ranks_differ : ¬ ∀ (board : Board) (sort : String)
    (order around : SortOrder (sortKey sort)) (s : Server),
      Table.Distinct LeaderboardRow.key s.leaderboard → RanksAgree board sort order around s := by
  intro h
  have hkeys : Table.Distinct LeaderboardRow.key
      (winsOf [wins "1" "2" 10, wins "2" "3" 10]).leaderboard := by
    simp [Table.Distinct, winsOf, wins, LeaderboardRow.key]
  have hagree := h chess "descending" (.stable _) (.stable _) _ hkeys
  have hrecord : getUserRecord chess "descending" "2"
      (winsOf [wins "1" "2" 10, wins "2" "3" 10]) =
        some { userId := "2", displayName := "2", score := 10, rank := 2, metadata := none } := by
    decide +kernel
  have hlisted := (hagree "2" _ hrecord).1 2 (by decide +kernel)
  have hfirst : rankIn "2" (getLeaderboard chess "descending" (.stable _) 2
      (winsOf [wins "1" "2" 10, wins "2" "3" 10])) = some 1 := by
    decide +kernel
  rw [hfirst] at hlisted
  exact absurd hlisted (by decide)

end Vokusz.Plugins
