import Vokusz.Automod.Denylist
import Vokusz.Lib.Calendar
import Vokusz.Routes.Members

namespace Vokusz.Automod

open Db Permissions
open Lib (Prog)
open Lib.Calendar (Civil formatUtc yearOf YearsInOrder)

def Written (text : String) : Prop := ∃ d : Civil, d.text = text

theorem written_formatUtc (seconds : Nat) : Written (formatUtc seconds) :=
  ⟨Civil.ofSeconds seconds, Civil.text_ofSeconds seconds⟩

def Owns (db : Tables) (row : MemberRow) : Prop :=
  ∃ space ∈ db.spaces, space.id = row.spaceId ∧ space.ownerId = row.userId

def Administers (db : Tables) (row : MemberRow) : Prop :=
  ∃ user ∈ db.users, user.isAdmin = true ∧ user.id = row.userId

structure Extended (db : Tables) (seconds : Nat) (row after : MemberRow) : Prop where
  rest : { after with timedOutUntil := row.timedOutUntil } = row
  later : after.timedOutUntil = row.timedOutUntil ∨
    after.timedOutUntil = some (formatUtc seconds) ∧
      ∀ old : Civil, row.timedOutUntil = some old.text → old.Before (Civil.ofSeconds seconds)
  exempt : Owns db row ∨ Administers db row → after = row

structure OnlyExtends (seconds : Nat) (db after : Tables) : Prop where
  extended : List.Forall₂ (Extended db seconds) db.members after.members
  ordered : ∀ row ∈ db.members, ∀ old : Civil, row.timedOutUntil = some old.text →
    (old.text < formatUtc seconds ↔ old.Before (Civil.ofSeconds seconds))

section

variable {c : Commit} {db : Tables} {row : MemberRow} {seconds : Nat}

def Commit.aged (c : Commit) (db : Tables) (row : MemberRow) : MemberRow :=
  if c.timedOutUntil.any (fun t => c.punishes db t row) then
    { row with timedOutUntil := c.timedOutUntil }
  else row

theorem members_effect (c : Commit) (db : Tables) :
    (c.effect db).members = db.members.map (c.aged db) := rfl

theorem aged_of_punished (htime : c.timedOutUntil = some (formatUtc seconds))
    (h : c.punishes db (formatUtc seconds) row = true) :
    c.aged db row = { row with timedOutUntil := some (formatUtc seconds) } := by
  simp [Commit.aged, htime, h]

theorem aged_of_spared (htime : c.timedOutUntil = some (formatUtc seconds))
    (h : ¬ c.punishes db (formatUtc seconds) row = true) : c.aged db row = row := by
  simp [Commit.aged, htime, h]

theorem spared_of_exempt (h : Owns db row ∨ Administers db row) (text : String) :
    ¬ c.punishes db text row = true := by
  intro hpunished
  simp only [Commit.punishes, Bool.and_eq_true, Bool.not_eq_true', List.any_eq_false,
    decide_eq_true_eq] at hpunished
  obtain ⟨⟨_, hspaces⟩, husers⟩ := hpunished
  rcases h with ⟨space, hmem, hid, howner⟩ | ⟨user, hmem, hadmin, hid⟩
  · exact hspaces space hmem ⟨hid, howner⟩
  · exact husers user hmem ⟨hadmin, hid⟩

theorem text_lt_of_punished {text : String} (h : c.punishes db text row = true) {old : String}
    (hrow : row.timedOutUntil = some old) : old < text := by
  simp only [Commit.punishes, Bool.and_eq_true, hrow, Option.all_some, decide_eq_true_eq] at h
  exact h.1.1.2

theorem extended_self (seconds : Nat) (db : Tables) (row : MemberRow) :
    Extended db seconds row row :=
  ⟨rfl, .inl rfl, fun _ => rfl⟩

theorem extended_aged (htime : c.timedOutUntil = some (formatUtc seconds))
    (hyears : ∀ old : Civil, row.timedOutUntil = some old.text →
      YearsInOrder old.year.toNat (yearOf seconds)) :
    Extended db seconds row (c.aged db row) := by
  cases hpunished : c.punishes db (formatUtc seconds) row with
  | false =>
    have hkept : c.aged db row = row := aged_of_spared htime (by simp [hpunished])
    rw [hkept]
    exact extended_self seconds db row
  | true =>
    have hmoved := aged_of_punished htime hpunished
    rw [hmoved]
    constructor
    · rfl
    · right
      constructor
      · rfl
      · intro old hold
        have hlt := text_lt_of_punished hpunished hold
        exact ((Civil.text_lt_iff_iff old seconds).mpr (hyears old hold)).mp hlt
    · intro hexempt
      exact absurd hpunished (spared_of_exempt hexempt _)

theorem extended_write {s : AppState} (htime : c.timedOutUntil = some (formatUtc seconds))
    (hyears : ∀ row ∈ s.db.members, ∀ old : Civil, row.timedOutUntil = some old.text →
      YearsInOrder old.year.toNat (yearOf seconds)) :
    List.Forall₂ (Extended s.db seconds) s.db.members (c.write.exec s).2.db.members := by
  rw [Commit.write, App.exec_write]
  cases c.refusal s.db with
  | some e =>
    change List.Forall₂ (Extended s.db seconds) s.db.members s.db.members
    exact List.forall₂_same.mpr (fun row _ => extended_self seconds s.db row)
  | none =>
    change List.Forall₂ (Extended s.db seconds) s.db.members (c.effect s.db).members
    rw [members_effect, List.forall₂_map_right_iff]
    exact List.forall₂_same.mpr (fun row hrow => extended_aged htime (hyears row hrow))

end

section

variable {s : AppState} {decision : Decision} {rule : Rule} {seconds : Nat}

theorem exec_timeoutEnd_of_timeout (haction : rule.action = .timeout seconds)
    (htext : s.ext.formatRfc3339 = formatUtc) :
    (timeoutEnd (some rule)).exec s = (.ok (some (formatUtc (s.clock / 1000 + seconds))), s) := by
  simp only [timeoutEnd, Option.map_some, haction]
  rw [← htext]
  rfl

theorem exec_flagged_of_timeout (haction : rule.action = .timeout seconds) (actor : String)
    (upload : AutomodUpload) (status : String) :
    (flagged actor upload status (some rule)).exec s = (.ok none, s) := by
  simp [flagged, haction]

theorem exec_store_of_timeout (hrule : decision.rule = some rule)
    (haction : rule.action = .timeout seconds) (htext : s.ext.formatRfc3339 = formatUtc)
    (upload : AutomodUpload) (actor status reason : String) (file : Option PublicFile) :
    ∃ c : Commit, c.timedOutUntil = some (formatUtc (s.clock / 1000 + seconds)) ∧
      (store upload actor status reason file decision).exec s = c.write.exec s := by
  obtain ⟨expiresAt, hexpiry⟩ := exec_newExpiry s upload
  have hreport := exec_flagged_of_timeout (s := s) haction actor upload status
  have htimeout := exec_timeoutEnd_of_timeout haction htext
  rw [← hrule] at hreport htimeout
  refine ⟨⟨upload, status, reason, expiresAt, decision, file, none, _⟩, rfl, ?_⟩
  unfold store
  rw [Prog.exec_bind_of_ok hexpiry, Prog.exec_bind_of_ok hreport, Prog.exec_bind_of_ok htimeout]

theorem timeouts_extend_iff (hrule : decision.rule = some rule)
    (haction : rule.action = .timeout seconds) (htext : s.ext.formatRfc3339 = formatUtc)
    (upload : AutomodUpload) (actor status reason : String) (file : Option PublicFile) :
    OnlyExtends (s.clock / 1000 + seconds) s.db
        ((store upload actor status reason file decision).exec s).2.db ↔
      ∀ row ∈ s.db.members, ∀ old : Civil, row.timedOutUntil = some old.text →
        YearsInOrder old.year.toNat (yearOf (s.clock / 1000 + seconds)) := by
  obtain ⟨c, htime, hstore⟩ :=
    exec_store_of_timeout hrule haction htext upload actor status reason file
  rw [hstore]
  constructor
  · rintro ⟨_, hordered⟩ row hrow old hold
    exact (Civil.text_lt_iff_iff old _).mp (hordered row hrow old hold)
  · intro hyears
    constructor
    · exact extended_write htime hyears
    · intro row hrow old hold
      exact (Civil.text_lt_iff_iff old _).mpr (hyears row hrow old hold)

def lateDecision : Decision :=
  { rule := some { id := "r", trigger := .hashDenylist, scope := .all, action := .timeout 60 } }

def lateUpload : AutomodUpload :=
  { id := "1"
    messageId := "4"
    channelId := "3"
    spaceId := some "2"
    authorId := "5"
    filename := "a.png"
    contentType := "image/png"
    size := 1
    hash := "h"
    status := "pending"
    createdAt := 0
    expiresAt := 0
    nextAttempt := 0 }

def lateMember (timedOutUntil : Option String) : MemberRow :=
  { userId := "5", spaceId := "2", timedOutUntil := timedOutUntil }

def lateState (timedOutUntil : Option String) : AppState :=
  { db := { automodUploads := [lateUpload], members := [lateMember timedOutUntil] }
    ext := { Externals.fixed "" with formatRfc3339 := formatUtc } }

theorem extends_unset_timeout :
    OnlyExtends ((lateState none).clock / 1000 + 60) (lateState none).db
      ((store lateUpload "6" "quarantined" "blocked" none lateDecision).exec
        (lateState none)).2.db :=
  (timeouts_extend_iff (s := lateState none) rfl rfl rfl lateUpload "6" "quarantined" "blocked"
    none).mpr (by simp [lateState, lateMember])

def beyondLastYear : Civil where
  year := 10000
  month := 1
  day := 1
  hour := 0
  minute := 59
  second := 59
  month_le := by decide
  day_le := by decide
  hour_lt := by decide
  minute_lt := by decide
  second_le := by decide

theorem timeout_moved_earlier :
    ¬ OnlyExtends 60 (lateState (some beyondLastYear.text)).db
      ((store lateUpload "6" "quarantined" "blocked" none lateDecision).exec
        (lateState (some beyondLastYear.text))).2.db := by
  rintro ⟨_, hordered⟩
  have hiff := hordered _ (List.mem_singleton_self _) beyondLastYear rfl
  have hlt : beyondLastYear.text < formatUtc 60 := by decide +kernel
  rcases hiff.mp hlt with hyear | ⟨hyear, _⟩
  · exact absurd hyear (by decide +kernel)
  · exact absurd hyear (by decide +kernel)

end

section

variable {ext : Externals} {spaceId userId : String} {auth : AuthUser} {db : Tables}
  {timeout : Option (Option String)} {value : String}

theorem written_checkTimeout (htext : ext.formatRfc3339 = formatUtc)
    (h : Routes.Members.checkTimeout spaceId userId auth ext timeout db =
      .ok (some (some value))) : Written value := by
  cases timeout with
  | none => cases h
  | some ts =>
    obtain ⟨_, _, h⟩ := (Query.bind_ok _).mp h
    obtain ⟨_, _, h⟩ := (Query.bind_ok _).mp h
    cases ts with
    | none => cases h
    | some ts =>
      cases hparse : ext.parseRfc3339 ts with
      | none =>
        simp only [hparse] at h
        cases h
      | some millis =>
        simp only [hparse] at h
        cases h
        rw [htext]
        exact written_formatUtc _

end

end Vokusz.Automod
