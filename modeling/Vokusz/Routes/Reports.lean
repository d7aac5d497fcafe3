import Vokusz.Gateway.Connection
import Vokusz.Gateway.LiveDelivery

namespace Vokusz

namespace Db.Reports

open Lib (Table.has Table.lookup)

structure CreateReport where
  spaceId : Option String
  reporterId : String
  targetType : String
  targetId : String
  channelId : Option String
  category : String
  description : Option String

def reportRow (id createdAt : String) (input : CreateReport) : ReportRow :=
  { id := id
    spaceId := input.spaceId
    reporterId := input.reporterId
    targetType := input.targetType
    targetId := input.targetId
    channelId := input.channelId
    category := input.category
    description := input.description
    createdAt := createdAt }

def insertRefusal (row : ReportRow) (db : Tables) : Option AppError :=
  if Lib.Table.has ReportRow.id row.id db.reports then some AppError.uniqueViolation
  else App.foreignKey (row.spaceId.all db.hasSpace && db.hasUser row.reporterId)

def getReport (reportId : String) : Query ReportRow :=
  fun db =>
    match Lib.Table.lookup ReportRow.id reportId db.reports with
    | some r => .ok r
    | none => .error (.notFound "report not found")

def createReport (input : CreateReport) : App ReportRow := do
  let id ← App.generateId
  let createdAt ← App.now
  App.write (insertRefusal (reportRow id createdAt input))
    (fun db => { db with reports := db.reports ++ [reportRow id createdAt input] })
  getReport id

end Db.Reports

namespace Routes.Reports

open Db Permissions Gateway
open Federation (gatewayEvent)
open Lib (Prog)

structure CreateReportBody where
  targetType : String
  targetId : String
  channelId : Option String
  category : String
  description : Option String

def REPORT_CATEGORIES : List (String × String) :=
  [("spam", "Spam"), ("harassment", "Harassment or bullying"), ("hate", "Hate speech"),
    ("nsfw", "Inappropriate content"), ("violence", "Violence or threats"),
    ("self_harm", "Self-harm or suicide"), ("csam", "Child sexual abuse material"),
    ("terrorism", "Terrorism or violent extremism"), ("fraud", "Fraud or scam"),
    ("other", "Other")]

def CATEGORY_ALIASES : List (String × String) := [("hate_speech", "hate")]

def canonicalCategory (input : String) : Option String :=
  match REPORT_CATEGORIES.find? (fun c => c.1 = input) with
  | some c => some c.1
  | none => (CATEGORY_ALIASES.find? (fun a => a.1 = input)).map Prod.snd

def validateReport (body : CreateReportBody) : Except AppError String := do
  match canonicalCategory body.category with
  | none => .error (.badRequest ("invalid category: " ++ body.category))
  | some category =>
    if body.targetType ≠ "message" ∧ body.targetType ≠ "user" then
      .error (.badRequest "target_type must be 'message' or 'user'")
    else if (body.description.map String.utf8ByteSize).any (fun n => n > 4000) then
      .error (.badRequest "description must not exceed 4000 characters")
    else .ok category

def reportToJson (r : ReportRow) : Json :=
  .obj [("id", .str r.id), ("space_id", .ofOption r.spaceId), ("reporter_id", .str r.reporterId),
    ("target_type", .str r.targetType), ("target_id", .str r.targetId),
    ("channel_id", .ofOption r.channelId), ("category", .str r.category),
    ("description", .ofOption r.description), ("status", .str r.status),
    ("actioned_by", .ofOption r.actionedBy), ("action_taken", .ofOption r.actionTaken),
    ("created_at", .str r.createdAt), ("resolved_at", .ofOption r.resolvedAt)]

def reportBroadcast (spaceId : String) (report : ReportRow) : GatewayBroadcast :=
  { spaceId := some spaceId
    targetUserIds := none
    event := gatewayEvent "report.create" (reportToJson report)
    intent := "moderation" }

def reported (spaceId : Option String) (auth : AuthUser) (category : String)
    (body : CreateReportBody) : Db.Reports.CreateReport :=
  { spaceId := spaceId
    reporterId := auth.userId
    targetType := body.targetType
    targetId := body.targetId
    channelId := body.channelId
    category := category
    description := body.description }

def requireMember (spaceId userId : String) : Query Unit :=
  fun db =>
    match Members.getMemberRow spaceId userId db with
    | .ok _ => .ok ()
    | .error _ => .error (.forbidden "you must be a member of this space")

def createReport (spaceId : String) (auth : AuthUser) (body : CreateReportBody) : App Json := do
  let category ← validateReport body
  requireMember spaceId auth.userId
  let report ← Db.Reports.createReport (reported (some spaceId) auth category body)
  App.send (reportBroadcast spaceId report)
  return .obj [("data", reportToJson report)]

def reportedSpace (auth : AuthUser) (body : CreateReportBody) : Query (Option String) := do
  match body.channelId with
  | none => return none
  | some channelId =>
    let channel ← Channels.getChannelRow channelId
    requireChannelReadAccess channel (some auth) true
    return channel.spaceId

def announce (report : ReportRow) : App Unit :=
  match report.spaceId with
  | some space => App.send (reportBroadcast space report)
  | none => return ()

def createDirectReport (auth : AuthUser) (body : CreateReportBody) : App Json := do
  let category ← validateReport body
  Prog.require (¬ auth.isGuest) (.forbidden "guests cannot file reports")
  let spaceId ← reportedSpace auth body
  let report ← Db.Reports.createReport (reported spaceId auth category body)
  announce report
  return .obj [("data", reportToJson report)]

inductive Filing where
  | inSpace (spaceId : String) (auth : AuthUser) (body : CreateReportBody)
  | direct (auth : AuthUser) (body : CreateReportBody)

def Filing.serve : Filing → App Json
  | .inSpace spaceId auth body => createReport spaceId auth body
  | .direct auth body => createDirectReport auth body

def moderates (db : Tables) (spaceId userId : String) : Bool :=
  match Users.getUser userId db with
  | .error _ => false
  | .ok user =>
    !user.disabled && (requirePermission spaceId
      { userId := userId, isAdmin := user.isAdmin, isBot := user.bot } "moderate_members" db).toBool

def hears (db : Tables) (spaceId : String) (report : ReportRow) (r : Recipient) : Bool :=
  r.spaceIds.contains spaceId &&
    report.channelId.all (fun channelId => canReceiveChannel db r channelId false)

theorem eventChannel_report (spaceId : String) (report : ReportRow) :
    eventChannel (reportBroadcast spaceId report).event = report.channelId := by
  have hkind : eventType (reportBroadcast spaceId report).event = "report.create" := rfl
  have hdata : (reportBroadcast spaceId report).event.field? "data" =
      some (reportToJson report) := rfl
  have hchannel : (reportToJson report).getStr? "channel_id" = report.channelId := by
    have hfield : (reportToJson report).field? "channel_id" =
        some (Json.ofOption report.channelId) := rfl
    unfold Json.getStr?
    rw [hfield]
    cases report.channelId <;> rfl
  have hplain : Federation.Outbound.startsWith "channel." "report.create" = false := by decide
  unfold eventChannel
  rw [hkind, hdata]
  simp only [Option.bind_some, hchannel, hplain]
  cases report.channelId <;> simp

theorem delivers_report (db : Tables) (spaceId : String) (report : ReportRow) (r : Recipient) :
    delivers db (reportBroadcast spaceId report) r = hears db spaceId report r := by
  have hkind : eventType (reportBroadcast spaceId report).event = "report.create" := rfl
  have hplugin : Federation.Outbound.startsWith "plugin." "report.create" = false := by decide
  have hmessage : Federation.Outbound.startsWith "message." "report.create" = false := by decide
  have hself : aboutSelf (reportBroadcast spaceId report) r.userId = false := by
    simp [aboutSelf, hkind]
  have hmute : muteKind "report.create" = false := by decide
  have hintent : Intents.hasIntent r.intents "report.create" = true := rfl
  have hreceive : shouldReceive (reportBroadcast spaceId report) r =
      r.spaceIds.contains spaceId := rfl
  have hperm : (reportBroadcast spaceId report).requiredPermission = none := rfl
  rw [delivers_eq, eventChannel_report, hkind, hplugin, hmessage, hself, hmute, hintent, hreceive,
    hperm]
  simp [hears]

theorem createReport_ok {input : Db.Reports.CreateReport} {s s' : AppState} {report : ReportRow}
    (h : (Db.Reports.createReport input).exec s = (.ok report, s')) :
    report.spaceId = input.spaceId ∧ s'.db.reports = s.db.reports ++ [report] ∧
      s'.gatewayTx = s.gatewayTx := by
  obtain ⟨id, t, hid, h⟩ := Prog.exec_bind_ok.mp h
  obtain ⟨createdAt, u, hcreated, h⟩ := Prog.exec_bind_ok.mp h
  obtain ⟨_, v, hwrite, h⟩ := Prog.exec_bind_ok.mp h
  have hdb : u.db = s.db ∧ u.gatewayTx = s.gatewayTx := by
    cases hid
    cases hcreated
    exact ⟨rfl, rfl⟩
  rw [App.exec_write] at hwrite
  cases hrefusal : Db.Reports.insertRefusal (Db.Reports.reportRow id createdAt input) u.db with
  | some e => simp [hrefusal] at hwrite
  | none =>
    simp only [hrefusal, Prod.mk.injEq, true_and] at hwrite
    subst hwrite
    have hfresh : Lib.Table.has ReportRow.id id s.db.reports = false := by
      unfold Db.Reports.insertRefusal at hrefusal
      rw [hdb.1] at hrefusal
      cases hhas : Lib.Table.has ReportRow.id id s.db.reports with
      | false => rfl
      | true => simp [Db.Reports.reportRow, hhas] at hrefusal
    obtain ⟨hrow, rfl⟩ := App.exec_lift_ok.mp h
    simp only [Db.Reports.getReport, AppState.withDb_db, hdb.1, Lib.Table.lookup_append,
      Lib.Table.lookup_none_of_not_has hfresh, Option.none_or] at hrow
    have hsame : Db.Reports.reportRow id createdAt input = report := by
      simpa [Db.Reports.reportRow] using hrow
    subst hsame
    exact ⟨rfl, by simp [hdb.1], hdb.2⟩

theorem serve_emits {filing : Filing} {s s' : AppState} {j : Json}
    (h : filing.serve.exec s = (.ok j, s')) :
    ∃ report, s'.db.reports = s.db.reports ++ [report] ∧
      emitted s s' = report.spaceId.toList.map (fun space => reportBroadcast space report) := by
  cases filing with
  | inSpace spaceId auth body =>
    simp only [Filing.serve, createReport, Prog.exec_bind_ok, App.exec_liftExcept_ok,
      App.exec_lift_ok, App.exec_send, Prog.exec_pure, Prod.mk.injEq] at h
    obtain ⟨category, _, ⟨_, rfl⟩, _, _, ⟨_, rfl⟩, report, t, hcreate, _, u, ⟨_, rfl⟩, _, rfl⟩ := h
    obtain ⟨hspace, hreports, hsent⟩ := createReport_ok hcreate
    refine ⟨report, hreports, ?_⟩
    simp [emitted, hsent, hspace, reported]
  | direct auth body =>
    simp only [Filing.serve, createDirectReport, Prog.exec_bind_ok, App.exec_liftExcept_ok,
      App.exec_lift_ok, Prog.exec_require_ok, Prog.exec_pure, Prod.mk.injEq] at h
    obtain ⟨category, _, ⟨_, rfl⟩, _, _, ⟨_, rfl⟩, spaceId, _, ⟨_, rfl⟩, report, t, hcreate, _, u,
      hsend, _, rfl⟩ := h
    obtain ⟨hspace, hreports, hsent⟩ := createReport_ok hcreate
    cases hcase : report.spaceId with
    | none =>
      simp only [announce, hcase, Prog.exec_pure, Prod.mk.injEq, true_and] at hsend
      subst hsend
      exact ⟨report, hreports, by simp [emitted, hsent, hcase]⟩
    | some space =>
      simp only [announce, hcase, App.exec_send, Prod.mk.injEq, true_and] at hsend
      subst hsend
      exact ⟨report, hreports, by simp [emitted, hsent, hcase]⟩

theorem report_heard_by_moderators_iff {filing : Filing} {s s' : AppState} {j : Json}
    (h : filing.serve.exec s = (.ok j, s')) (db : Tables) (sessions : List Recipient) :
    (∀ b ∈ emitted s s', ∀ r ∈ sessions, delivers db b r = true →
      ∃ space, b.spaceId = some space ∧ moderates db space r.userId = true) ↔
      ∀ report, s'.db.reports = s.db.reports ++ [report] → ∀ space, report.spaceId = some space →
        ∀ r ∈ sessions, hears db space report r = true → moderates db space r.userId = true := by
  obtain ⟨filed, hfiled, hemitted⟩ := serve_emits h
  have hsame : ∀ report, s'.db.reports = s.db.reports ++ [report] → report = filed := by
    intro report hreport
    rw [hfiled] at hreport
    simpa using (List.append_cancel_left hreport).symm
  constructor
  · intro hconfidential report hreport space hspace r hr hhears
    have hreport := hsame report hreport
    subst hreport
    have hb : reportBroadcast space report ∈ emitted s s' := by simp [hemitted, hspace]
    rw [← delivers_report] at hhears
    obtain ⟨space', hspace', hmoderates⟩ := hconfidential _ hb r hr hhears
    cases hspace'
    exact hmoderates
  · intro hheard b hb r hr hdelivers
    rw [hemitted] at hb
    obtain ⟨space, hspace, rfl⟩ := List.mem_map.mp hb
    rw [delivers_report] at hdelivers
    exact ⟨space, rfl, hheard filed hfiled space (by simpa using hspace) r hr hdelivers⟩

def club : AppState where
  db :=
    { users :=
        [{ id := "1", username := "ann" }, { id := "2", username := "bob" },
          { id := "3", username := "cid" }]
      spaces := [{ id := "10", name := "club", ownerId := "1" }]
      channels := [{ id := "20", spaceId := some "10" }]
      roles :=
        [{ id := "30", spaceId := "10", name := "everyone", permissions := ["view_channel"] }]
      members :=
        [{ userId := "1", spaceId := "10" }, { userId := "2", spaceId := "10" },
          { userId := "3", spaceId := "10" }] }
  ext := Externals.fixed "2026-01-01 00:00:00"

def complaint : Filing :=
  .inSpace "10" { userId := "2" }
    { targetType := "user"
      targetId := "3"
      channelId := some "20"
      category := "harassment"
      description := some "keeps following me" }

def afterComplaint : AppState := (complaint.serve.exec club).2

def reply (filing : Filing) (s : AppState) : Json :=
  match (filing.serve.exec s).1 with
  | .ok j => j
  | .error _ => .null

theorem complaint_filed : complaint.serve.exec club = (.ok (reply complaint club), afterComplaint) :=
  Prod.ext (by rfl) rfl

def listening (userId : String) : Recipient := { userId := userId, spaceIds := ["10"], intents := [] }

theorem report_reaches_the_reported_member :
    complaint.serve.exec club = (.ok (reply complaint club), afterComplaint) ∧
      ∃ b ∈ emitted club afterComplaint, delivers afterComplaint.db b (listening "3") = true ∧
        b.spaceId = some "10" ∧ moderates afterComplaint.db "10" "3" = false := by
  refine ⟨complaint_filed, ?_⟩
  have hone : ∃ b ∈ emitted club afterComplaint,
      (delivers afterComplaint.db b (listening "3") && b.spaceId = some "10" &&
        !moderates afterComplaint.db "10" "3") = true := by decide +kernel
  simpa [and_assoc] using hone

theorem owner_hears_the_report :
    (∀ b ∈ emitted club afterComplaint, ∀ r ∈ [listening "1"],
      delivers afterComplaint.db b r = true →
        ∃ space, b.spaceId = some space ∧ moderates afterComplaint.db space r.userId = true) ↔
      ∀ report, afterComplaint.db.reports = club.db.reports ++ [report] →
        ∀ space, report.spaceId = some space → ∀ r ∈ [listening "1"],
          hears afterComplaint.db space report r = true →
            moderates afterComplaint.db space r.userId = true :=
  report_heard_by_moderators_iff complaint_filed afterComplaint.db [listening "1"]

end Routes.Reports

end Vokusz
