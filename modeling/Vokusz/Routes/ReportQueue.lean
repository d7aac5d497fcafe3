import Mathlib.Data.String.Basic
import Vokusz.Automod.Routes
import Vokusz.Lib.Pages

namespace Vokusz

namespace Db.Reports

open Lib

inductive ReportScope where
  | all
  | direct
  | space
  deriving DecidableEq, Repr

def ReportScope.holds : ReportScope → ReportRow → Bool
  | .all, _ => true
  | .direct, r => r.spaceId.isNone
  | .space, r => r.spaceId.isSome

def hasStatus (status : Option String) (r : ReportRow) : Bool := status.all (fun s => r.status = s)

def isBefore (before : Option String) (r : ReportRow) : Bool := before.all (fun b => r.id < b)

def newestFirst (rows : List ReportRow) : List ReportRow :=
  Table.orderBy (fun r => OrderDual.toDual r.createdAt) rows

def listReports (spaceId : String) (status : Option String) (limit : Nat) (before : Option String) :
    Query (List ReportRow) :=
  fun db => .ok ((newestFirst (db.reports.filter (fun r =>
    r.spaceId = some spaceId && hasStatus status r && isBefore before r))).take limit)

def listAllReports (scope : ReportScope) (status : Option String) (limit : Nat)
    (before : Option String) : Query (List ReportRow) :=
  fun db => .ok ((newestFirst (db.reports.filter (fun r =>
    scope.holds r && hasStatus status r && isBefore before r))).take limit)

end Db.Reports

namespace Routes.Reports

open Db Permissions
open Db.Reports (ReportScope hasStatus isBefore newestFirst)

structure ListReportsQuery where
  status : Option String := none
  limit : Option Int := none
  before : Option String := none
  deriving DecidableEq, Repr

structure AdminListReportsQuery extends ListReportsQuery where
  scope : Option String := none
  deriving DecidableEq, Repr

def reportLimit (limit : Option Int) : Nat := (max 1 (min (limit.getD 25) 100)).toNat

def reportScope (scope : Option String) : Except AppError ReportScope :=
  match scope with
  | none | some "" | some "all" => .ok .all
  | some "direct" => .ok .direct
  | some "space" => .ok .space
  | some other =>
    .error (.badRequest ("scope must be 'all', 'direct', or 'space', not '" ++ other ++ "'"))

def listedJson (reports : List ReportRow) : Json := .obj [("data", .arr (reports.map reportToJson))]

def listAllReports (auth : AuthUser) (query : AdminListReportsQuery) : Query Json := do
  Automod.requireServerAdmin auth
  let scope ← reportScope query.scope
  let reports ← Db.Reports.listAllReports scope query.status (reportLimit query.limit) query.before
  return listedJson reports

def listReports (spaceId : String) (auth : AuthUser) (query : ListReportsQuery) : Query Json := do
  requirePermission spaceId auth "moderate_members"
  let reports ← Db.Reports.listReports spaceId query.status (reportLimit query.limit) query.before
  return listedJson reports

inductive Queue where
  | ofSpace (spaceId : String)
  | ofInstance (scope : Option String)
  deriving DecidableEq, Repr

def Queue.list : Queue → AuthUser → ListReportsQuery → Query Json
  | .ofSpace spaceId, auth, query => listReports spaceId auth query
  | .ofInstance scope, auth, query => listAllReports auth { query with scope := scope }

def Queue.holds : Queue → ReportRow → Bool
  | .ofSpace spaceId, r => r.spaceId = some spaceId
  | .ofInstance scope, r => (reportScope scope).toOption.any (fun scope => scope.holds r)

def Queue.matching (queue : Queue) (status : Option String) (db : Tables) : List ReportRow :=
  db.reports.filter (fun r => queue.holds r && hasStatus status r)

def Queue.ids (queue : Queue) (status : Option String) (db : Tables) : List String :=
  (newestFirst (queue.matching status db)).map ReportRow.id

def receivedIds (page : Json) : List String :=
  (((page.field? "data").bind Json.asArray?).getD []).filterMap (Json.getStr? "id")

def readPage (size : Nat) (page : Json) : Lib.Pages.Page String (OrderDual String) :=
  let ids := receivedIds page
  { rows := ids, next := if size ≤ ids.length then ids.getLast?.map OrderDual.toDual else none }

def pageBefore (queue : Queue) (auth : AuthUser) (query : ListReportsQuery) (db : Tables)
    (before : Option (OrderDual String)) : Option (Lib.Pages.Page String (OrderDual String)) :=
  (queue.list auth { query with before := before.map OrderDual.ofDual } db).toOption.map
    (readPage (reportLimit query.limit))

def enumerate (queue : Queue) (auth : AuthUser) (query : ListReportsQuery) (db : Tables)
    (pages : Nat) : Option (List String) :=
  Lib.Pages.walk (pageBefore queue auth query db) pages none

def FollowsIds (queue : Queue) (query : ListReportsQuery) (db : Tables) : Prop :=
  Lib.Pages.Aligned OrderDual.toDual 0 (reportLimit query.limit) (queue.ids query.status db)

instance (queue : Queue) (query : ListReportsQuery) (db : Tables) :
    Decidable (FollowsIds queue query db) := by
  unfold FollowsIds
  infer_instance

section

variable {queue : Queue} {auth : AuthUser} {query : ListReportsQuery} {db : Tables}

theorem reportLimit_pos (limit : Option Int) : 0 < reportLimit limit := by
  unfold reportLimit
  omega

theorem receivedIds_listedJson (reports : List ReportRow) :
    receivedIds (listedJson reports) = reports.map ReportRow.id := by
  have hids : (reports.map reportToJson).filterMap (Json.getStr? "id") =
      reports.map ReportRow.id := by
    induction reports with
    | nil => rfl
    | cons report reports ih =>
      rw [List.map_cons, List.filterMap_cons, List.map_cons, ih]
      rfl
  simpa [receivedIds, listedJson, Json.field?, Json.asArray?] using hids

theorem list_ok (hadmitted : ∃ page, queue.list auth query db = .ok page)
    (before : Option String) :
    queue.list auth { query with before := before } db =
      .ok (listedJson ((newestFirst ((queue.matching query.status db).filter
        (isBefore before))).take (reportLimit query.limit))) := by
  obtain ⟨page, hpage⟩ := hadmitted
  have hsplit : ∀ p : ReportRow → Bool, (queue.matching query.status db).filter p =
      db.reports.filter (fun r => queue.holds r && hasStatus query.status r && p r) := by
    intro p
    rw [Queue.matching, List.filter_filter]
    exact List.filter_congr (fun r _ => Bool.and_comm _ _)
  rw [hsplit]
  cases queue with
  | ofSpace spaceId =>
    rw [Queue.list, listReports] at hpage
    obtain ⟨_, hallowed, -⟩ := (Query.bind_ok db).mp hpage
    simp only [Queue.list, listReports, Query.bind_apply, hallowed]
    rfl
  | ofInstance scope =>
    rw [Queue.list, listAllReports] at hpage
    obtain ⟨_, hadmin, hpage⟩ := (Query.bind_ok db).mp hpage
    obtain ⟨chosen, hscope, -⟩ := (Query.bind_ok db).mp hpage
    have hchosen : reportScope scope = .ok chosen := hscope
    simp only [Queue.list, listAllReports, Query.bind_apply, hadmin, hscope]
    simp only [Queue.holds, hchosen, Except.toOption, Option.any_some]
    rfl

theorem newestFirst_before (before : Option String) (rows : List ReportRow) :
    newestFirst (rows.filter (isBefore before)) = (newestFirst rows).filter (isBefore before) :=
  (Lib.Table.filter_orderBy rows).symm

theorem ids_before (before : Option (OrderDual String)) (rows : List ReportRow) :
    (rows.filter (isBefore (before.map OrderDual.ofDual))).map ReportRow.id =
      Lib.Pages.beyond OrderDual.toDual before (rows.map ReportRow.id) := by
  rw [Lib.Pages.beyond, List.filter_map]
  cases before <;> rfl

theorem queuePage (hadmitted : ∃ page, queue.list auth query db = .ok page)
    (before : Option (OrderDual String)) :
    pageBefore queue auth query db before =
      some (Lib.Pages.cutPast OrderDual.toDual 0 (reportLimit query.limit)
        (Lib.Pages.beyond OrderDual.toDual before (queue.ids query.status db))) := by
  rw [pageBefore, list_ok hadmitted, newestFirst_before, Except.toOption, Option.map_some, readPage,
    receivedIds_listedJson, List.map_take, ids_before, ← Queue.ids]
  have hfull : (reportLimit query.limit ≤ ((Lib.Pages.beyond OrderDual.toDual before
      (queue.ids query.status db)).take (reportLimit query.limit)).length) ↔
      reportLimit query.limit + 0 ≤
        (Lib.Pages.beyond OrderDual.toDual before (queue.ids query.status db)).length := by
    rw [List.length_take]
    omega
  simp only [Lib.Pages.cutPast, hfull]

theorem ids_perm (queue : Queue) (status : Option String) (db : Tables) :
    (queue.ids status db).Perm ((queue.matching status db).map ReportRow.id) :=
  (Lib.Table.orderBy_perm _).map _

theorem ids_nodup (hids : Lib.Table.Distinct ReportRow.id db.reports) (queue : Queue)
    (status : Option String) : (queue.ids status db).Nodup := by
  have hmatching : ((queue.matching status db).map ReportRow.id).Nodup :=
    List.pairwise_map.mpr (hids.filter _)
  exact (ids_perm queue status db).nodup_iff.mpr hmatching

theorem reports_enumerated_iff (hadmitted : ∃ page, queue.list auth query db = .ok page)
    (hids : Lib.Table.Distinct ReportRow.id db.reports) :
    (∃ pages received, enumerate queue auth query db pages = some received ∧
      received.Perm ((queue.matching query.status db).map ReportRow.id)) ↔
      FollowsIds queue query db := by
  have hserve := fun before => queuePage hadmitted (some before)
  have hfirst := queuePage hadmitted none
  rw [Lib.Pages.beyond_none] at hfirst
  have hwalk := Lib.Pages.walk_perm_iff hserve (reportLimit_pos _) (Nat.zero_le 1)
    (ids_nodup hids queue query.status) hfirst
  have hperm := ids_perm queue query.status db
  rw [FollowsIds, ← hwalk]
  constructor
  · rintro ⟨pages, received, hrun, hreceived⟩
    exact ⟨pages, received, hrun, hreceived.trans hperm.symm⟩
  · rintro ⟨pages, received, hrun, hreceived⟩
    exact ⟨pages, received, hrun, hreceived.trans hperm⟩

def filed (id createdAt : String) : ReportRow :=
  { id := id
    spaceId := none
    reporterId := "1"
    targetType := "user"
    targetId := "2"
    channelId := none
    category := "spam"
    description := none
    createdAt := createdAt }

def admin : AuthUser := { userId := "1", isAdmin := true }

def oneAtATime : ListReportsQuery := { limit := some 1 }

def spread : Tables :=
  { reports := [filed "30" "2026-01-01 10:00:00", filed "31" "2026-01-01 10:00:01"] }

def sameSecond : Tables :=
  { reports := [filed "30" "2026-01-01 10:00:00", filed "31" "2026-01-01 10:00:00"] }

theorem spread_enumerated :
    ∃ pages received,
      enumerate (.ofInstance none) admin oneAtATime spread pages = some received ∧
      received.Perm (((Queue.ofInstance none).matching none spread).map ReportRow.id) :=
  (reports_enumerated_iff ⟨_, rfl⟩ (by unfold Lib.Table.Distinct; decide)).mpr
    (by decide +kernel)

theorem sameSecond_skipped :
    enumerate (.ofInstance none) admin oneAtATime sameSecond 2 = some ["30"] ∧
      ¬ ∃ pages received,
        enumerate (.ofInstance none) admin oneAtATime sameSecond pages = some received ∧
        received.Perm (((Queue.ofInstance none).matching none sameSecond).map ReportRow.id) := by
  have hone : pageBefore (.ofInstance none) admin oneAtATime sameSecond none =
      some { rows := ["30"], next := some "30" } := by decide +kernel
  have hlast : pageBefore (.ofInstance none) admin oneAtATime sameSecond (some "30") =
      some { rows := [], next := none } := by decide +kernel
  refine ⟨by decide +kernel, ?_⟩
  rintro ⟨pages, received, hrun, hperm⟩
  have hreceived : received = ["30"] := Lib.Pages.walk_two_pages hone hlast hrun
  have hlength := hperm.length_eq
  rw [hreceived] at hlength
  exact absurd hlength (by decide +kernel)

end

end Routes.Reports

end Vokusz
