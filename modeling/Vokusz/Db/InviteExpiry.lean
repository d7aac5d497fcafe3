import Vokusz.Db.Invites

namespace Vokusz.Db.Invites

open Lib Lib.Calendar

-- `TimeDelta::seconds` panics beyond as many milliseconds as an `i64` holds.
def maxDeltaSeconds : Int := 9223372036854775

def maxSeconds : Nat := 8210266876799

def timeDelta (seconds : Int) : Option Int :=
  if -maxDeltaSeconds ≤ seconds ∧ seconds ≤ maxDeltaSeconds then some seconds else none

def addDelta (now : Nat) (delta : Int) : Option Nat :=
  if now + delta ≤ maxSeconds then some (now + delta).toNat else none

-- `none` is a panic.
def expiresAt (maxAge : Option Int) (now : Nat) : Option (Option String) :=
  match maxAge.filter (fun age => 0 < age) with
  | none => some none
  | some age => do
    let delta ← timeDelta age
    let expires ← addDelta now delta
    return some (formatUtc expires)

def createInviteCall (code spaceId : String) (channelId : Option String) (inviterId : String)
    (input : CreateInvite) (s : AppState) : Option (Except AppError Invite × AppState) :=
  (expiresAt input.maxAge (s.clock / 1000)).map
    (fun _ => (createInvite code spaceId channelId inviterId input).exec s)

def Accepts (code userId now : String) (db : Tables) : Prop :=
  ∃ invite, (acceptInvite code userId now db).1 = .ok (invite, true)

def unexhausted (invite : Invite) : Bool :=
  match invite.maxUses with
  | none => true
  | some maxUses => maxUses = 0 || invite.uses < maxUses

structure Welcome (code userId : String) (db : Tables) (row : Invite) : Prop where
  stored : Table.lookup Invite.code code db.invites = some row
  unexhausted : unexhausted row = true
  unbanned : isBanned db row.spaceId userId = false
  outside : db.hasMember row.spaceId userId = false
  space : db.hasSpace row.spaceId = true
  user : db.hasUser userId = true

section

variable {maxAge : Option Int} {age : Int} {now : Nat} {expires : Option String}

theorem expiresAt_of_positive (hage : maxAge = some age) (hpos : 0 < age) :
    expiresAt maxAge now =
      if now + age ≤ maxSeconds then some (some (formatUtc (now + age.toNat))) else none := by
  have hfilter : maxAge.filter (fun age => 0 < age) = some age := by
    rw [hage]
    simp [Option.filter, hpos]
  unfold expiresAt
  rw [hfilter]
  dsimp only
  unfold timeDelta addDelta
  by_cases hrange : now + age ≤ maxSeconds
  · have hdelta : -maxDeltaSeconds ≤ age ∧ age ≤ maxDeltaSeconds := by
      unfold maxDeltaSeconds
      unfold maxSeconds at hrange
      omega
    have hsum : (now + age).toNat = now + age.toNat := by omega
    rw [if_pos hdelta, if_pos hrange, Option.bind_eq_bind, Option.bind_some, if_pos hrange, hsum]
    rfl
  · rw [if_neg hrange]
    split
    · rw [Option.bind_eq_bind, Option.bind_some, if_neg hrange]
      rfl
    · rfl

theorem expiresAt_of_none (h : ∀ age, maxAge = some age → ¬ 0 < age) :
    expiresAt maxAge now = some none := by
  have hfilter : maxAge.filter (fun age => 0 < age) = none := by
    cases maxAge with
    | none => rfl
    | some age => simp [Option.filter, h age rfl]
  unfold expiresAt
  rw [hfilter]

theorem expiresAt_isSome_iff :
    expiresAt maxAge now ≠ none ↔
      ∀ age, maxAge = some age → 0 < age → now + age ≤ maxSeconds := by
  by_cases h : ∃ age, maxAge = some age ∧ 0 < age
  · obtain ⟨age, hage, hpos⟩ := h
    rw [expiresAt_of_positive hage hpos]
    constructor
    · intro hsome other hother _
      rw [hage] at hother
      cases hother
      by_contra hrange
      exact hsome (if_neg hrange)
    · intro hall
      rw [if_pos (hall age hage hpos)]
      exact Option.some_ne_none _
  · have hnone : ∀ age, maxAge = some age → ¬ 0 < age :=
      fun age hage hpos => h ⟨age, hage, hpos⟩
    rw [expiresAt_of_none hnone]
    constructor
    · intro _ age hage hpos
      exact absurd hpos (hnone age hage)
    · intro _
      exact Option.some_ne_none _

theorem expiry_of_expiresAt (h : expiresAt maxAge now = some expires) :
    expiry maxAge now = expires := by
  by_cases hpositive : ∃ age, maxAge = some age ∧ 0 < age
  · obtain ⟨age, hage, hpos⟩ := hpositive
    rw [expiresAt_of_positive hage hpos] at h
    split at h
    · cases h
      rw [hage]
      simp [expiry, Option.filter, hpos]
    · cases h
  · have hnone : ∀ age, maxAge = some age → ¬ 0 < age :=
      fun age hage hpos => hpositive ⟨age, hage, hpos⟩
    rw [expiresAt_of_none hnone] at h
    cases h
    cases maxAge with
    | none => rfl
    | some age => simp [expiry, Option.filter, hnone age rfl]

end

section

variable {code spaceId inviterId userId now : String} {channelId : Option String}
  {input : CreateInvite} {s s' : AppState} {invite row : Invite} {db : Tables}
  {events : List Event} {w w' : Ledger}

theorem accepts_iff (h : Welcome code userId db row) :
    Accepts code userId now db ↔ usable row now = true := by
  have hclaim : (claim code db).hasMember row.spaceId userId =
      db.hasMember row.spaceId userId := rfl
  unfold Accepts acceptInvite
  rw [h.stored]
  dsimp only
  rw [h.unbanned, hclaim, h.outside, h.space, h.user]
  cases usable row now with
  | true => simp
  | false => simp

theorem usable_iff {expires : String} (hfree : unexhausted row = true)
    (hexpires : row.expiresAt = some expires) : usable row now = true ↔ now < expires := by
  have husable : usable row now = (unexhausted row && decide (now < expires)) := by
    change (unexhausted row && _) = _
    rw [hexpires]
  rw [husable, hfree, Bool.true_and, decide_eq_true_iff]

def Dated (code spaceId : String) (expires : Option String) (w : Ledger) : Prop :=
  ∀ row, Table.lookup Invite.code code w.db.invites = some row →
    row.expiresAt = expires ∧ row.spaceId = spaceId

theorem Dated.step {expires : Option String} (h : Dated code spaceId expires w) {e : Event}
    (hstep : Step code spaceId w e w') : Dated code spaceId expires w' := by
  cases hstep with
  | accept c userId seconds =>
    intro row hrow
    dsimp only at hrow
    rcases acceptInvite_cases c userId (formatUtc seconds) w.db with
      ⟨e, he⟩ | ⟨invite, hlookup, -, ⟨-, hsame⟩ | ⟨-, -, hadded⟩⟩
    · rw [he] at hrow
      exact h row hrow
    · rw [hsame] at hrow
      exact h row hrow
    · rw [hadded] at hrow
      change Table.lookup Invite.code code (claim c w.db).invites = some row at hrow
      rw [lookup_claim] at hrow
      split at hrow
      · next hcode =>
        subst hcode
        rw [hlookup] at hrow
        cases hrow
        exact h invite hlookup
      · exact h row hrow
  | other db hleaves =>
    intro row' hrow'
    obtain ⟨row, hrow, _, _, hspace, hexpires⟩ := hleaves row' hrow'
    rw [hexpires, hspace]
    exact h row hrow

theorem createInviteCall_ok
    (h : createInviteCall code spaceId channelId inviterId input s = some (.ok invite, s')) :
    ∃ expires, expiresAt input.maxAge (s.clock / 1000) = some expires ∧
      Dated code spaceId expires { db := s'.db } := by
  unfold createInviteCall at h
  obtain ⟨expires, hexpires, hrun⟩ := Option.map_eq_some_iff.mp h
  obtain ⟨hstored, hspace, _, _, hexpiry⟩ := createInvite_stored hrun
  refine ⟨expires, hexpires, ?_⟩
  intro row hrow
  rw [hstored] at hrow
  cases hrow
  exact ⟨hexpiry.trans (expiry_of_expiresAt hexpires), hspace⟩

theorem createInviteCall_returns_iff :
    createInviteCall code spaceId channelId inviterId input s ≠ none ↔
      ∀ age, input.maxAge = some age → 0 < age →
        ((s.clock / 1000 : Nat) : Int) + age ≤ maxSeconds := by
  rw [← expiresAt_isSome_iff]
  unfold createInviteCall
  rw [Ne, Option.map_eq_none_iff]

theorem accepted_iff_of_dated {age : Int} {created seconds : Nat} (hpos : 0 < age)
    (hdated : Dated code spaceId (some (formatUtc (created + age.toNat))) w)
    (hwelcome : Welcome code userId w.db row) :
    (Accepts code userId (formatUtc seconds) w.db ↔ (seconds : Int) < created + age) ↔
      YearsInOrder (yearOf seconds) (yearOf (created + age.toNat)) := by
  have hexpires := (hdated row hwelcome.stored).1
  have htime : (seconds : Int) < created + age ↔ seconds < created + age.toNat := by omega
  rw [accepts_iff hwelcome, usable_iff hwelcome.unexhausted hexpires, htime, formatUtc_lt_iff_iff]

theorem invite_expires_iff (code spaceId inviterId : String) (channelId : Option String)
    (input : CreateInvite) (s : AppState) :
    (createInviteCall code spaceId channelId inviterId input s ≠ none ↔
      ∀ age, input.maxAge = some age → 0 < age →
        ((s.clock / 1000 : Nat) : Int) + age ≤ maxSeconds) ∧
    ∀ invite s' age, createInviteCall code spaceId channelId inviterId input s =
        some (.ok invite, s') → input.maxAge = some age → 0 < age →
      ∀ events w, Runs (Step code spaceId) { db := s'.db } events w →
      ∀ userId row, Welcome code userId w.db row → ∀ seconds : Nat,
        ((Accepts code userId (formatUtc seconds) w.db ↔
            (seconds : Int) < ((s.clock / 1000 : Nat) : Int) + age) ↔
          YearsInOrder (yearOf seconds) (yearOf (s.clock / 1000 + age.toNat))) := by
  refine ⟨createInviteCall_returns_iff, ?_⟩
  intro invite s' age hcall hage hpos events w hrun userId row hwelcome seconds
  obtain ⟨expires, hexpires, hstart⟩ := createInviteCall_ok hcall
  have hdated : Dated code spaceId expires w :=
    hrun.invariant (fun _ _ _ hw hstep => hw.step hstep) hstart
  rw [expiresAt_of_positive hage hpos] at hexpires
  split at hexpires
  · cases hexpires
    exact accepted_iff_of_dated hpos hdated hwelcome
  · cases hexpires

theorem lobby_invite_expires :
    ∃ t invite, createInviteCall "abc" "10" none "1" once lobby = some (.ok invite, t) ∧
      (Accepts "abc" "2" (formatUtc 5) t.db ↔ (5 : Int) < 0 + 3600) := by
  obtain ⟨invite, t, hcreate⟩ : (createInvite "abc" "10" none "1" once).Succeeds lobby := by
    decide +kernel
  have hcall : createInviteCall "abc" "10" none "1" once lobby = some (.ok invite, t) := by
    have hrange : expiresAt once.maxAge (lobby.clock / 1000) ≠ none := by decide +kernel
    obtain ⟨expires, hexpires⟩ := Option.ne_none_iff_exists'.mp hrange
    unfold createInviteCall
    rw [hexpires, Option.map_some, hcreate]
  have hdb : t = ((createInvite "abc" "10" none "1" once).exec lobby).2 := by rw [hcreate]
  have hwelcome : ∃ row, Welcome "abc" "2" t.db row := by
    rw [hdb]
    refine ⟨_, ⟨rfl, ?_, ?_, ?_, ?_, ?_⟩⟩
    all_goals decide +kernel
  obtain ⟨row, hrow⟩ := hwelcome
  have hexact := (invite_expires_iff "abc" "10" "1" none once lobby).2 invite t 3600 hcall rfl
    (by decide) [] { db := t.db } (Runs.nil _) "2" row hrow 5
  exact ⟨t, invite, hcall, hexact.mpr (by decide +kernel)⟩

def everlasting : CreateInvite := { maxAge := some 9223372036854775807 }

def distant : CreateInvite := { maxAge := some 265722336000 }

theorem lobby_invite_not_expiring :
    createInviteCall "abc" "10" none "1" everlasting lobby = none ∧
      ∃ t invite, createInviteCall "abc" "10" none "1" distant lobby = some (.ok invite, t) ∧
        ¬ Accepts "abc" "2" (formatUtc 0) t.db := by
  constructor
  · decide +kernel
  · obtain ⟨invite, t, hcreate⟩ : (createInvite "abc" "10" none "1" distant).Succeeds lobby := by
      decide +kernel
    have hcall : createInviteCall "abc" "10" none "1" distant lobby = some (.ok invite, t) := by
      have hrange : expiresAt distant.maxAge (lobby.clock / 1000) ≠ none :=
        expiresAt_isSome_iff.mpr (fun age hage _ => by
          cases hage
          decide)
      obtain ⟨expires, hexpires⟩ := Option.ne_none_iff_exists'.mp hrange
      unfold createInviteCall
      rw [hexpires, Option.map_some, hcreate]
    have hdb : t = ((createInvite "abc" "10" none "1" distant).exec lobby).2 := by rw [hcreate]
    have houtside : t.db.hasMember "10" "2" = false := by
      rw [hdb]
      decide +kernel
    have hlong : 9999 < yearOf 265722336000 :=
      le_yearOf (n := 8030) (by decide)
    have hshort : yearOf 0 ≤ 9999 := by decide
    have hearlier : formatUtc 265722336000 < formatUtc 0 := by
      rw [String.lt_iff_toList_lt, toList_formatUtc, toList_formatUtc]
      exact long_lt_short hlong hshort
    obtain ⟨hstored, hspace, _, _, hexpires⟩ := createInvite_stored hcreate
    have hrefuses : Refuses "abc" "10" "2" (formatUtc 0) t.db := by
      apply refuses_of_unusable
      intro row hrow
      rw [hstored] at hrow
      cases hrow
      exact ⟨hspace, not_usable_of_expired hexpires hearlier.le⟩
    refine ⟨t, invite, hcall, ?_⟩
    rintro ⟨row, hrow⟩
    obtain ⟨e, he⟩ := hrefuses.2 houtside
    rw [he] at hrow
    cases hrow

end

end Vokusz.Db.Invites
