import Vokusz.Db.Channels
import Vokusz.Lib.Calendar
import Vokusz.Lib.Transition

namespace Vokusz.Db.Invites

open Lib Lib.Calendar

structure CreateInvite where
  maxUses : Option Int := none
  maxAge : Option Int := none
  temporary : Option Bool := none
  deriving DecidableEq, Repr

def getInvite (code : String) : Query Invite :=
  fun db =>
    match Table.lookup Invite.code code db.invites with
    | some invite => .ok invite
    | none => .error (.notFound "invite not found")

def expiry (maxAge : Option Int) (now : Nat) : Option String :=
  (maxAge.filter (fun age => 0 < age)).map (fun age => formatUtc (now + age.toNat))

def referencesExist (db : Tables) (row : Invite) : Bool :=
  db.hasSpace row.spaceId && row.channelId.all db.hasChannel && row.inviterId.all db.hasUser

-- `code` is what `generate_code` drew.
def createInvite (code spaceId : String) (channelId : Option String) (inviterId : String)
    (input : CreateInvite) : App Invite := do
  let now ← App.nowSeconds
  let createdAt ← App.now
  let row : Invite :=
    { code := code
      spaceId := spaceId
      channelId := channelId
      inviterId := some inviterId
      maxUses := input.maxUses
      maxAge := input.maxAge
      temporary := input.temporary.getD false
      createdAt := createdAt
      expiresAt := expiry input.maxAge now }
  App.write
    (fun db => if !referencesExist db row then some AppError.foreignKeyViolation
      else App.unique (!Table.has Invite.code code db.invites))
    (fun db => { db with invites := db.invites ++ [row] })
  getInvite code

def isBanned (db : Tables) (spaceId userId : String) : Bool :=
  db.bans.any (fun b => b.spaceId = spaceId && b.userId = userId)

def usable (invite : Invite) (now : String) : Bool :=
  (match invite.maxUses with
    | none => true
    | some maxUses => maxUses = 0 || invite.uses < maxUses) &&
  (match invite.expiresAt with
    | none => true
    | some expiresAt => now < expiresAt)

def claim (code : String) (db : Tables) : Tables :=
  { db with
    invites := Table.update Invite.code code (fun i => { i with uses := i.uses + 1 }) db.invites }

-- One transaction: whatever fails or rolls back leaves the tables as they were.
def acceptInvite (code userId now : String) (db : Tables) :
    Except AppError (Invite × Bool) × Tables :=
  match Table.lookup Invite.code code db.invites with
  | none => (.error (.notFound "invite not found"), db)
  | some invite =>
    if isBanned db invite.spaceId userId then
      (.error (.forbidden "you are banned from this space"), db)
    else if db.hasMember invite.spaceId userId then (.ok (invite, false), db)
    else if !usable invite now then (.error (.badRequest "invite expired or exhausted"), db)
    else if (claim code db).hasMember invite.spaceId userId then (.ok (invite, false), db)
    else if !(db.hasSpace invite.spaceId && db.hasUser userId) then
      (.error AppError.foreignKeyViolation, db)
    else
      (.ok ({ invite with uses := invite.uses + 1 }, true),
        Members.insertMember { userId := userId, spaceId := invite.spaceId } (claim code db))

section

variable {code userId now : String} {db : Tables}

theorem acceptInvite_cases (code userId now : String) (db : Tables) :
    (∃ e, acceptInvite code userId now db = (.error e, db)) ∨
    ∃ invite, Table.lookup Invite.code code db.invites = some invite ∧
      isBanned db invite.spaceId userId = false ∧
      ((db.hasMember invite.spaceId userId = true ∧
          acceptInvite code userId now db = (.ok (invite, false), db)) ∨
        (db.hasMember invite.spaceId userId = false ∧ usable invite now = true ∧
          acceptInvite code userId now db =
            (.ok ({ invite with uses := invite.uses + 1 }, true),
              Members.insertMember { userId := userId, spaceId := invite.spaceId }
                (claim code db)))) := by
  unfold acceptInvite
  cases Table.lookup Invite.code code db.invites with
  | none => exact .inl ⟨_, rfl⟩
  | some invite =>
    dsimp only
    have hclaim : (claim code db).hasMember invite.spaceId userId =
        db.hasMember invite.spaceId userId := rfl
    rw [hclaim]
    cases hbanned : isBanned db invite.spaceId userId with
    | true => exact .inl ⟨_, rfl⟩
    | false =>
      cases hmember : db.hasMember invite.spaceId userId with
      | true => exact .inr ⟨invite, rfl, hbanned, .inl ⟨hmember, rfl⟩⟩
      | false =>
        cases husable : usable invite now with
        | false => exact .inl ⟨_, rfl⟩
        | true =>
          cases hrefs : db.hasSpace invite.spaceId && db.hasUser userId with
          | false => exact .inl ⟨_, rfl⟩
          | true => exact .inr ⟨invite, rfl, hbanned, .inr ⟨hmember, husable, rfl⟩⟩

theorem hasMember_insertMember (spaceId userId : String) (db : Tables) :
    (Members.insertMember { userId := userId, spaceId := spaceId } db).hasMember spaceId userId =
      true := by
  unfold Members.insertMember Table.insertNew Tables.hasMember
  dsimp only
  split
  · rename_i hhas
    obtain ⟨m, hm, hkey⟩ := Table.has_iff.mp hhas
    obtain ⟨huser, hspace⟩ := Prod.mk.inj hkey
    exact List.any_eq_true.mpr ⟨m, hm, by simp [huser, hspace]⟩
  · simp

theorem lookup_claim (code c : String) (db : Tables) :
    Table.lookup Invite.code c (claim code db).invites =
      if c = code then (Table.lookup Invite.code c db.invites).map
        (fun i => { i with uses := i.uses + 1 })
      else Table.lookup Invite.code c db.invites := by
  have hcode : ∀ i : Invite, i.code = code → { i with uses := i.uses + 1 }.code = code :=
    fun i hi => hi
  unfold claim
  split
  · rename_i h
    subst h
    exact Table.lookup_update hcode
  · rename_i h
    exact Table.lookup_update_ne h hcode

end

section

variable {code spaceId inviterId : String} {channelId : Option String} {input : CreateInvite}

theorem createInvite_stored {s t : AppState} {invite : Invite}
    (h : (createInvite code spaceId channelId inviterId input).exec s = (.ok invite, t)) :
    Table.lookup Invite.code code t.db.invites = some invite ∧ invite.spaceId = spaceId ∧
      invite.uses = 0 ∧ invite.maxUses = input.maxUses ∧
      invite.expiresAt = expiry input.maxAge (s.clock / 1000) := by
  rw [createInvite, Prog.exec_bind_of_ok App.exec_nowSeconds, Prog.exec_bind_of_ok App.exec_now]
    at h
  dsimp only at h
  obtain ⟨u, s', hwrite, hread⟩ := Prog.exec_bind_ok.mp h
  rw [App.exec_write] at hwrite
  split at hwrite
  · cases hwrite
  · rename_i hcheck
    cases hwrite
    rw [App.exec_lift_ok] at hread
    obtain ⟨hget, rfl⟩ := hread
    have hfree : Table.has Invite.code code s.db.invites = false := by
      split at hcheck
      · cases hcheck
      · cases hhas : Table.has Invite.code code s.db.invites with
        | false => rfl
        | true => simp [hhas, App.unique] at hcheck
    have hnone := Table.lookup_none_of_not_has hfree
    unfold getInvite at hget
    simp only [AppState.withDb_db, Table.lookup_append, hnone, Option.none_or, if_true] at hget ⊢
    cases hget
    exact ⟨rfl, rfl, rfl, rfl, rfl⟩

end

section

structure Ledger where
  db : Tables
  added : List String := []

inductive Event where
  | accept (code userId : String) (seconds : Nat)
  | other
  deriving DecidableEq, Repr

def Leaves (code : String) (db db' : Tables) : Prop :=
  ∀ row', Table.lookup Invite.code code db'.invites = some row' →
    ∃ row, Table.lookup Invite.code code db.invites = some row ∧ row'.uses = row.uses ∧
      row'.maxUses = row.maxUses ∧ row'.spaceId = row.spaceId ∧ row'.expiresAt = row.expiresAt

def joined (code spaceId c userId : String) (db db' : Tables) : List String :=
  if c = code && !db.hasMember spaceId userId && db'.hasMember spaceId userId then [userId] else []

inductive Step (code spaceId : String) : Ledger → Event → Ledger → Prop
  | accept (w : Ledger) (c userId : String) (seconds : Nat) :
      Step code spaceId w (.accept c userId seconds)
        (let db := (acceptInvite c userId (formatUtc seconds) w.db).2
         { db := db, added := w.added ++ joined code spaceId c userId w.db db })
  | other (w : Ledger) (db : Tables) (h : Leaves code w.db db) :
      Step code spaceId w .other { w with db := db }

structure Counted (code spaceId : String) (maxUses : Int) (expiresAt : Option String)
    (w : Ledger) : Prop where
  bound : (w.added.length : Int) ≤ maxUses
  row : ∀ row, Table.lookup Invite.code code w.db.invites = some row →
    row.uses = w.added.length ∧ row.maxUses = some maxUses ∧ row.spaceId = spaceId ∧
      row.expiresAt = expiresAt

variable {code spaceId : String} {maxUses : Int} {expiresAt : Option String} {w w' : Ledger}

theorem joined_self (c userId : String) (db : Tables) :
    joined code spaceId c userId db db = [] := by
  unfold joined
  cases db.hasMember spaceId userId <;> simp

theorem Counted.accept (h : Counted code spaceId maxUses expiresAt w) (hmax : 0 < maxUses)
    (c userId now : String) :
    Counted code spaceId maxUses expiresAt
      { db := (acceptInvite c userId now w.db).2
        added := w.added ++
          joined code spaceId c userId w.db (acceptInvite c userId now w.db).2 } := by
  rcases acceptInvite_cases c userId now w.db with
    ⟨e, he⟩ | ⟨invite, hlookup, -, ⟨hmember, hsame⟩ | ⟨hmember, husable, hadded⟩⟩
  · rw [he, joined_self, List.append_nil]
    exact h
  · rw [hsame, joined_self, List.append_nil]
    exact h
  · rw [hadded]
    by_cases hc : c = code
    · subst hc
      obtain ⟨huses, hmaxUses, hspace, hexpires⟩ := h.row invite hlookup
      subst hspace
      have hin := hasMember_insertMember invite.spaceId userId (claim c w.db)
      have hjoined : joined c invite.spaceId c userId w.db
          (Members.insertMember { userId := userId, spaceId := invite.spaceId }
            (claim c w.db)) = [userId] := by
        simp [joined, hmember, hin]
      rw [hjoined]
      have hfree : invite.uses < maxUses := by
        simp only [usable, hmaxUses, Bool.and_eq_true, Bool.or_eq_true, decide_eq_true_eq] at husable
        omega
      constructor
      · simp only [List.length_append, List.length_singleton]
        omega
      · intro row hrow
        change Table.lookup Invite.code c (claim c w.db).invites = some row at hrow
        rw [lookup_claim, if_pos rfl, hlookup, Option.map_some, Option.some.injEq] at hrow
        subst hrow
        refine ⟨?_, hmaxUses, rfl, hexpires⟩
        simp only [List.length_append, List.length_singleton]
        omega
    · have hjoined : ∀ db', joined code spaceId c userId w.db db' = [] := by
        intro db'
        simp [joined, hc]
      rw [hjoined, List.append_nil]
      refine ⟨h.bound, fun row hrow => h.row row ?_⟩
      change Table.lookup Invite.code code (claim c w.db).invites = some row at hrow
      rw [lookup_claim, if_neg (fun heq => hc heq.symm)] at hrow
      exact hrow

theorem Counted.step (h : Counted code spaceId maxUses expiresAt w) (hmax : 0 < maxUses)
    {e : Event} (hstep : Step code spaceId w e w') : Counted code spaceId maxUses expiresAt w' := by
  cases hstep with
  | accept c userId seconds => exact h.accept hmax c userId (formatUtc seconds)
  | other db hleaves =>
    refine ⟨h.bound, fun row' hrow' => ?_⟩
    obtain ⟨row, hrow, huses, hmaxUses, hspace, hexpires⟩ := hleaves row' hrow'
    rw [huses, hmaxUses, hspace, hexpires]
    exact h.row row hrow

def Refuses (code spaceId userId now : String) (db : Tables) : Prop :=
  (acceptInvite code userId now db).2 = db ∧
    (db.hasMember spaceId userId = false → ∃ e, (acceptInvite code userId now db).1 = .error e)

theorem refuses_of_unusable {userId now : String} {db : Tables}
    (h : ∀ row, Table.lookup Invite.code code db.invites = some row →
      row.spaceId = spaceId ∧ usable row now = false) :
    Refuses code spaceId userId now db := by
  unfold Refuses
  rcases acceptInvite_cases code userId now db with
    ⟨e, he⟩ | ⟨row, hrow, -, ⟨hmember, hsame⟩ | ⟨-, husable, -⟩⟩
  · rw [he]
    exact ⟨rfl, fun _ => ⟨e, rfl⟩⟩
  · rw [hsame]
    refine ⟨rfl, fun hout => ?_⟩
    rw [(h row hrow).1, hout] at hmember
    cases hmember
  · rw [(h row hrow).2] at husable
    cases husable

theorem not_usable_of_expired {invite : Invite} {expires now : String}
    (hexpires : invite.expiresAt = some expires) (hpast : expires ≤ now) :
    usable invite now = false := by
  simp only [usable, hexpires, Bool.and_eq_false_iff, decide_eq_false_iff_not]
  exact .inr (not_lt.mpr hpast)

theorem invite_finite {inviterId : String} {channelId : Option String} {input : CreateInvite}
    {s t : AppState} {invite : Invite} {events : List Event}
    (hmax : input.maxUses = some maxUses) (hpos : 0 < maxUses)
    (hcreate : (createInvite code spaceId channelId inviterId input).exec s = (.ok invite, t))
    (hrun : Runs (Step code spaceId) { db := t.db } events w) :
    ((w.added.length : Int) ≤ maxUses ∧
      ∀ row, Table.lookup Invite.code code w.db.invites = some row →
        row.uses = w.added.length) ∧
    (∀ userId now, w.db.hasMember spaceId userId = true →
      (acceptInvite code userId now w.db).2 = w.db) ∧
    (∀ userId now, isBanned w.db spaceId userId = true →
      ∃ e, acceptInvite code userId now w.db = (.error e, w.db)) ∧
    ∀ age, input.maxAge = some age → 0 < age →
      (∀ userId now, formatUtc (s.clock / 1000 + age.toNat) ≤ now →
        Refuses code spaceId userId now w.db) ∧
      ∀ userId seconds, s.clock / 1000 + age.toNat ≤ seconds →
        (dateOf (seconds / 86400)).year ≤ 9999 →
        Refuses code spaceId userId (formatUtc seconds) w.db := by
  obtain ⟨hstored, hspace, huses, hmaxUses, hexpires⟩ := createInvite_stored hcreate
  have hstart : Counted code spaceId maxUses (expiry input.maxAge (s.clock / 1000))
      { db := t.db } := by
    constructor
    · exact hpos.le
    · intro row hrow
      obtain rfl := Option.some.inj (hstored.symm.trans hrow)
      exact ⟨huses, hmaxUses.trans hmax, hspace, hexpires⟩
  have hw : Counted code spaceId maxUses (expiry input.maxAge (s.clock / 1000)) w :=
    hrun.invariant (fun _ _ _ hc hstep => hc.step hpos hstep) hstart
  refine ⟨⟨hw.bound, fun row hrow => (hw.row row hrow).1⟩, ?_, ?_, ?_⟩
  · intro userId now hmember
    rcases acceptInvite_cases code userId now w.db with
      ⟨e, he⟩ | ⟨row, hrow, -, ⟨-, hsame⟩ | ⟨hout, -, -⟩⟩
    · rw [he]
    · rw [hsame]
    · rw [(hw.row row hrow).2.2.1, hmember] at hout
      cases hout
  · intro userId now hbanned
    rcases acceptInvite_cases code userId now w.db with ⟨e, he⟩ | ⟨row, hrow, hfree, -⟩
    · exact ⟨e, he⟩
    · rw [(hw.row row hrow).2.2.1, hbanned] at hfree
      cases hfree
  · intro age hage hagePos
    have hexpired : expiry input.maxAge (s.clock / 1000) =
        some (formatUtc (s.clock / 1000 + age.toNat)) := by
      rw [hage]
      simp [expiry, Option.filter, hagePos]
    have hrefuses : ∀ userId now, formatUtc (s.clock / 1000 + age.toNat) ≤ now →
        Refuses code spaceId userId now w.db := by
      intro userId now hpast
      refine refuses_of_unusable (fun row hrow => ?_)
      obtain ⟨-, -, hspace', hexpires'⟩ := hw.row row hrow
      exact ⟨hspace', not_usable_of_expired (hexpires'.trans hexpired) hpast⟩
    exact ⟨hrefuses, fun userId seconds hpast hyear =>
      hrefuses userId (formatUtc seconds) (formatUtc_le hpast hyear)⟩

def lobby : AppState :=
  { db :=
      { users :=
          [{ id := "1", username := "ann" }, { id := "2", username := "bob" },
            { id := "3", username := "cyd" }]
        spaces := [{ id := "10", name := "home", ownerId := "1" }]
        members := [{ userId := "1", spaceId := "10" }] }
    ext := Externals.fixed "1970-01-01 00:00:00" }

def once : CreateInvite := { maxUses := some 1, maxAge := some 3600 }

theorem lobby_invite_finite :
    ∃ t invite w, (createInvite "abc" "10" none "1" once).exec lobby = (.ok invite, t) ∧
      Runs (Step "abc" "10") { db := t.db } [.accept "abc" "2" 5, .accept "abc" "3" 6] w ∧
      (w.added.length : Int) ≤ 1 := by
  obtain ⟨invite, t, hcreate⟩ : (createInvite "abc" "10" none "1" once).Succeeds lobby := by
    decide +kernel
  have hfirst : Step "abc" "10" { db := t.db } (.accept "abc" "2" 5) _ := .accept _ "abc" "2" 5
  have hrun := Runs.cons hfirst (Runs.cons (Step.accept _ "abc" "3" 6) (Runs.nil _))
  exact ⟨t, invite, _, hcreate, hrun, (invite_finite rfl (by decide) hcreate hrun).1.1⟩

end

end Vokusz.Db.Invites
