import Vokusz.Lib.Table
import Vokusz.Lib.Transition

namespace Vokusz.Gateway.Guests

open Lib

structure GuestSpace where
  id : String
  isPublic : Bool := false
  allowGuestAccess : Bool := true
  deriving DecidableEq, Repr

structure GuestToken where
  tokenHash : String
  spaceId : String
  expiresAt : Nat
  deriving DecidableEq, Repr

structure GuestSession where
  sessionId : String
  spaceIds : List String
  deriving DecidableEq, Repr

structure GuestState where
  spaces : List GuestSpace := []
  tokens : List GuestToken := []
  guestCounts : String → UInt32 := fun _ => 0
  sessions : List GuestSession := []
  now : Nat := 0

def GUEST_TOKEN_LIFETIME_SECS : Nat := 3600

inductive GuestAction where
  | pass (seconds : Nat)
  | change (spaces : List GuestSpace)
  | issue (admitted : Bool) (tokenHash : String)
  | connect (sessionId tokenHash : String) (permitted : Bool)
  | disconnect (sessionId : String)
  deriving DecidableEq, Repr

namespace GuestState

variable (s : GuestState)

def findGuestSpace : Option GuestSpace :=
  (s.spaces.find? (fun space => space.isPublic && space.allowGuestAccess)).or
    (s.spaces.find? GuestSpace.allowGuestAccess)

def bump (spaceId : String) (f : UInt32 → UInt32) : GuestState :=
  { s with guestCounts := fun sid => if sid = spaceId then f (s.guestCounts sid) else s.guestCounts sid }

def guest (admitted : Bool) (tokenHash : String) : GuestState :=
  if admitted then
    match s.findGuestSpace with
    | none => s
    | some space =>
      if Table.has GuestToken.tokenHash tokenHash s.tokens then s
      else
        let token : GuestToken :=
          { tokenHash := tokenHash
            spaceId := space.id
            expiresAt := s.now + GUEST_TOKEN_LIFETIME_SECS }
        { s with
          tokens := (s.tokens ++ [token]).filter (fun t => !(t.expiresAt < s.now)) }.bump space.id
            (fun count => count + 1)
  else s

def resolveGuestHash (tokenHash : String) : Option String := do
  let token ← Table.lookup GuestToken.tokenHash tokenHash s.tokens
  let space ← Table.lookup GuestSpace.id token.spaceId s.spaces
  if space.allowGuestAccess && !(token.expiresAt < s.now) then some space.id else none

def connect (sessionId tokenHash : String) (permitted : Bool) : Option GuestState :=
  if Table.has GuestSession.sessionId sessionId s.sessions then none
  else
    match s.resolveGuestHash tokenHash with
    | none => some s
    | some spaceId =>
      if permitted then
        some { s with sessions := s.sessions ++ [{ sessionId := sessionId, spaceIds := [spaceId] }] }
      else some s

def decrement (count : UInt32) : UInt32 := if count > 0 then count - 1 else count

def disconnect (sessionId : String) : Option GuestState :=
  (Table.lookup GuestSession.sessionId sessionId s.sessions).map (fun session =>
    session.spaceIds.foldl (fun s sid => s.bump sid decrement)
      { s with sessions := Table.delete GuestSession.sessionId sessionId s.sessions })

def step : GuestAction → Option GuestState
  | .pass seconds => some { s with now := s.now + seconds }
  | .change spaces =>
    some { s with
      spaces := spaces
      tokens := s.tokens.filter (fun t => Table.has GuestSpace.id t.spaceId spaces) }
  | .issue admitted tokenHash => some (s.guest admitted tokenHash)
  | .connect sessionId tokenHash permitted => s.connect sessionId tokenHash permitted
  | .disconnect sessionId => s.disconnect sessionId

def connected (spaceId : String) : Nat :=
  (s.sessions.filter (fun session => session.spaceIds.contains spaceId)).length

def Counted : Prop := ∀ spaceId, (s.guestCounts spaceId).toNat = s.connected spaceId

def uncounted : GuestAction → Bool
  | .issue admitted tokenHash =>
    !admitted || s.findGuestSpace.isNone || Table.has GuestToken.tokenHash tokenHash s.tokens
  | .connect _ tokenHash permitted => !permitted || (s.resolveGuestHash tokenHash).isNone
  | _ => true

variable {s : GuestState} {t : GuestState} {spaceId sessionId tokenHash : String}

structure Tidy (s : GuestState) : Prop where
  distinct : Table.Distinct GuestSession.sessionId s.sessions
  single : ∀ session ∈ s.sessions, ∃ sid, session.spaceIds = [sid]

theorem tidy_congr (h : s.Tidy) (hsessions : t.sessions = s.sessions) : t.Tidy := by
  constructor
  · rw [hsessions]
    exact h.distinct
  · rw [hsessions]
    exact h.single

theorem counted_congr (hsessions : t.sessions = s.sessions) (hcounts : t.guestCounts = s.guestCounts) :
    t.Counted ↔ s.Counted := by
  unfold Counted connected
  rw [hsessions, hcounts]

theorem decrement_toNat (count : UInt32) : (decrement count).toNat = count.toNat - 1 := by
  unfold decrement
  split
  · rename_i hpos
    have hone : (1 : UInt32) ≤ count := UInt32.le_iff_toNat_le.mpr (UInt32.lt_iff_toNat_lt.mp hpos)
    rw [UInt32.toNat_sub_of_le _ _ hone]
    rfl
  · rename_i hzero
    have hnat : count.toNat = 0 := by
      have hnot := fun h => hzero (UInt32.lt_iff_toNat_lt.mpr h)
      change ¬ (0 < count.toNat) at hnot
      omega
    rw [hnat]

theorem guest_cases (admitted : Bool) (tokenHash : String) : s.guest admitted tokenHash = s ∧
      s.uncounted (.issue admitted tokenHash) = true ∨
    s.uncounted (.issue admitted tokenHash) = false ∧ ∃ space,
      (s.guest admitted tokenHash).sessions = s.sessions ∧
        (s.guest admitted tokenHash).guestCounts space = s.guestCounts space + 1 := by
  unfold guest
  cases admitted with
  | false => exact .inl ⟨rfl, rfl⟩
  | true =>
    cases hspace : s.findGuestSpace with
    | none => exact .inl ⟨rfl, by simp [uncounted, hspace]⟩
    | some space =>
      cases htoken : Table.has GuestToken.tokenHash tokenHash s.tokens with
      | true => exact .inl ⟨by simp, by simp [uncounted, htoken]⟩
      | false => exact .inr ⟨by simp [uncounted, hspace, htoken], space.id, rfl, if_pos rfl⟩

theorem connected_append (session : GuestSession) (hspace : session.spaceIds = [spaceId]) :
    { s with sessions := s.sessions ++ [session] }.connected spaceId = s.connected spaceId + 1 := by
  simp [connected, hspace]

theorem connect_cases {permitted : Bool} (h : s.connect sessionId tokenHash permitted = some t) :
    t = s ∧ s.uncounted (.connect sessionId tokenHash permitted) = true ∨
      s.uncounted (.connect sessionId tokenHash permitted) = false ∧
        Table.has GuestSession.sessionId sessionId s.sessions = false ∧ ∃ spaceId,
          t = { s with
            sessions := s.sessions ++ [{ sessionId := sessionId, spaceIds := [spaceId] }] } := by
  unfold connect at h
  cases hfresh : Table.has GuestSession.sessionId sessionId s.sessions with
  | true => simp [hfresh] at h
  | false =>
    rw [hfresh, if_neg Bool.false_ne_true] at h
    cases hresolved : s.resolveGuestHash tokenHash with
    | none =>
      rw [hresolved] at h
      cases h
      exact .inl ⟨rfl, by simp [uncounted, hresolved]⟩
    | some spaceId =>
      rw [hresolved] at h
      cases permitted with
      | false =>
        cases h
        exact .inl ⟨rfl, rfl⟩
      | true =>
        cases h
        exact .inr ⟨by simp [uncounted, hresolved], rfl, spaceId, rfl⟩

theorem disconnect_eq (h : s.Tidy) (hstep : s.disconnect sessionId = some t) :
    ∃ session ∈ s.sessions, ∃ sid, session.sessionId = sessionId ∧ session.spaceIds = [sid] ∧
      t = { s with
        sessions := Table.delete GuestSession.sessionId sessionId s.sessions }.bump sid decrement := by
  unfold disconnect at hstep
  obtain ⟨session, hsession, rfl⟩ := Option.map_eq_some_iff.mp hstep
  have hmem := Table.lookup_mem hsession
  obtain ⟨sid, hsid⟩ := h.single session hmem
  refine ⟨session, hmem, sid, Table.lookup_key hsession, hsid, ?_⟩
  rw [hsid]
  rfl

theorem Tidy.step {a : GuestAction} (h : s.Tidy) (hstep : s.step a = some t) : t.Tidy := by
  cases a with
  | pass seconds =>
    cases hstep
    exact tidy_congr h rfl
  | change spaces =>
    cases hstep
    exact tidy_congr h rfl
  | issue admitted tokenHash =>
    cases hstep
    rcases s.guest_cases admitted tokenHash with ⟨heq, -⟩ | ⟨-, space, hsessions, -⟩
    · rwa [heq]
    · exact tidy_congr h hsessions
  | connect sessionId tokenHash permitted =>
    rcases connect_cases hstep with ⟨rfl, -⟩ | ⟨-, hfresh, spaceId, rfl⟩
    · exact h
    · constructor
      · refine List.pairwise_append.mpr ⟨h.distinct, List.pairwise_singleton _ _, ?_⟩
        intro x hx y hy heq
        cases List.mem_singleton.mp hy
        have hhas := Table.has_iff.mpr ⟨x, hx, heq⟩
        rw [hfresh] at hhas
        cases hhas
      · intro x hx
        rcases List.mem_append.mp hx with hold | hnew
        · exact h.single x hold
        · cases List.mem_singleton.mp hnew
          exact ⟨spaceId, rfl⟩
  | disconnect sessionId =>
    obtain ⟨session, -, sid, -, -, rfl⟩ := disconnect_eq h hstep
    exact ⟨Table.Distinct.delete h.distinct _,
      fun x hx => h.single x (List.mem_filter.mp hx).1⟩

theorem length_filter_delete {rows : List GuestSession} {r : GuestSession}
    (h : Table.Distinct GuestSession.sessionId rows) (hr : r ∈ rows) (p : GuestSession → Bool) :
    (rows.filter p).length =
      ((Table.delete GuestSession.sessionId r.sessionId rows).filter p).length +
        if p r then 1 else 0 := by
  induction rows with
  | nil => cases hr
  | cons x rows ih =>
    obtain ⟨hhead, htail⟩ := List.pairwise_cons.mp h
    rcases List.mem_cons.mp hr with rfl | hr
    · have hrest : Table.delete GuestSession.sessionId r.sessionId rows = rows :=
        List.filter_eq_self.mpr (fun y hy => decide_eq_true (hhead y hy).symm)
      have hdelete : Table.delete GuestSession.sessionId r.sessionId (r :: rows) = rows := by
        rw [Table.delete, List.filter_cons_of_neg (by simp)]
        exact hrest
      rw [hdelete, List.filter_cons]
      split <;> simp
    · have hne : x.sessionId ≠ r.sessionId := hhead r hr
      have hdelete : Table.delete GuestSession.sessionId r.sessionId (x :: rows) =
          x :: Table.delete GuestSession.sessionId r.sessionId rows := by
        rw [Table.delete, List.filter_cons_of_pos (by simpa using hne)]
        rfl
      have hrest := ih htail hr
      rw [hdelete, List.filter_cons, List.filter_cons]
      split
      · rw [List.length_cons, List.length_cons]
        omega
      · exact hrest

theorem counted_step {a : GuestAction} (h : s.Tidy) (hs : s.Counted) (hstep : s.step a = some t) :
    t.Counted ↔ s.uncounted a = true := by
  cases a with
  | pass seconds =>
    cases hstep
    exact iff_of_true ((counted_congr rfl rfl).mpr hs) rfl
  | change spaces =>
    cases hstep
    exact iff_of_true ((counted_congr rfl rfl).mpr hs) rfl
  | issue admitted tokenHash =>
    cases hstep
    rcases s.guest_cases admitted tokenHash with ⟨heq, hun⟩ |
      ⟨hun, space, hsessions, hcount⟩
    · rw [heq, hun]
      simpa using hs
    · rw [hun]
      simp only [Bool.false_eq_true, iff_false]
      intro ht
      have hbefore := hs space
      have hafter := ht space
      unfold connected at hbefore hafter
      rw [hsessions, hcount, ← hbefore] at hafter
      have hsame := UInt32.toNat_inj.mp hafter
      exact absurd hsame (by simp)
  | connect sessionId tokenHash permitted =>
    rcases connect_cases hstep with ⟨rfl, hun⟩ | ⟨hun, -, spaceId, rfl⟩
    · rw [hun]
      simpa using hs
    · rw [hun]
      simp only [Bool.false_eq_true, iff_false]
      intro ht
      have hbefore := hs spaceId
      have hafter := ht spaceId
      rw [connected_append _ rfl] at hafter
      change (s.guestCounts spaceId).toNat = _ at hafter
      omega
  | disconnect sessionId =>
    obtain ⟨session, hmem, sid, rfl, hsid, rfl⟩ := disconnect_eq h hstep
    simp only [uncounted, iff_true]
    intro spaceId
    have hbefore := hs spaceId
    have hlength := length_filter_delete h.distinct hmem (fun x => x.spaceIds.contains spaceId)
    rw [hsid] at hlength
    unfold connected at hbefore ⊢
    change (if spaceId = sid then decrement (s.guestCounts spaceId)
        else s.guestCounts spaceId).toNat =
      ((Table.delete GuestSession.sessionId session.sessionId s.sessions).filter
        (fun x => x.spaceIds.contains spaceId)).length
    by_cases heq : spaceId = sid
    · subst heq
      simp only [List.contains_cons, BEq.rfl, Bool.true_or, if_true] at hlength
      rw [if_pos rfl, decrement_toNat]
      omega
    · simp only [List.contains_cons, List.contains_nil, Bool.or_false, beq_iff_eq, heq,
        if_false] at hlength
      rw [if_neg heq]
      omega

theorem guests_counted_iff {start : GuestState} {acts : List GuestAction}
    (hsessions : start.sessions = []) (hcounts : ∀ spaceId, start.guestCounts spaceId = 0)
    (hrun : runFrom step start acts = some t) :
    Always step Counted start acts ↔ meets step uncounted start acts = true := by
  have htidy : start.Tidy := by
    constructor
    · rw [hsessions]
      exact List.Pairwise.nil
    · rw [hsessions]
      intro x hx
      cases hx
  have hcounted : start.Counted := by
    intro spaceId
    rw [hcounts spaceId, connected, hsessions]
    rfl
  have hkeep : ∀ (s : GuestState) a t, s.Tidy → s.step a = some t → t.Tidy :=
    fun _ _ _ h hstep => h.step hstep
  have hstep : ∀ (s : GuestState) a t, s.Tidy → s.Counted → s.step a = some t →
      (t.Counted ↔ s.uncounted a = true) := fun _ _ _ h hs hstep => counted_step h hs hstep
  exact always_iff_meets hkeep hstep htidy hcounted hrun

def garden : GuestState := { spaces := [{ id := "10" }] }

theorem refused_guest_counted :
    Always step Counted garden [.issue false "t", .pass 60, .connect "1" "t" true] ↔
      meets step uncounted garden [.issue false "t", .pass 60, .connect "1" "t" true] = true :=
  guests_counted_iff (t := { garden with now := 60 }) rfl (fun _ => rfl) rfl

theorem unused_token_counted :
    (runFrom step garden [.issue true "t"]).map (fun s => (s.guestCounts "10", s.connected "10")) =
      some (1, 0) := by
  decide +kernel

end GuestState

end Vokusz.Gateway.Guests
