import Vokusz.Federation.Outbound

namespace Vokusz.Federation.Fanout

open Db Mapping
open Lib (Prog)

def isFor (domain : String) (item : OutboxItem) : Bool :=
  eqIgnoreAsciiCase item.targetDomain domain

def outboxFor (domain : String) (s : AppState) : List Json :=
  (s.db.federationOutbox.filter (isFor domain)).map OutboxItem.payload

def FreshIds (s : AppState) : Prop :=
  ∀ item ∈ s.db.federationOutbox, ∀ n, s.snowflake ≤ n → item.id ≠ toString n

section

variable {domain target : String} {payload : Json} {s : AppState}

def queued (payload : Json) (s : AppState) (target : String) : AppState :=
  { s with
    snowflake := s.snowflake + 1
    db :=
      { s.db with
        federationOutbox := s.db.federationOutbox ++
          [{ id := toString s.snowflake
             targetDomain := target
             payload := payload
             nextAttemptAt := s.clock / 1000 }] } }

theorem FreshIds.not_has (h : FreshIds s) :
    Lib.Table.has OutboxItem.id (toString s.snowflake) s.db.federationOutbox = false := by
  rw [← Bool.not_eq_true, Lib.Table.has_iff]
  rintro ⟨item, hitem, hid⟩
  exact h item hitem s.snowflake le_rfl hid

theorem exec_enqueueTo (h : FreshIds s) :
    (Sender.enqueueTo payload target).exec s = (.ok (), queued payload s target) := by
  have hfree : App.unique (!Lib.Table.has OutboxItem.id (toString s.snowflake)
      s.db.federationOutbox) = none := by
    rw [h.not_has]
    rfl
  rw [Sender.enqueueTo, Prog.exec_bind_of_ok App.exec_generateId, Federation.outboxEnqueue,
    Prog.exec_bind_of_ok App.exec_nowSeconds]
  exact App.exec_write_of_none hfree

theorem FreshIds.queued (h : FreshIds s) : FreshIds (queued payload s target) := by
  intro item hitem n hn
  rcases List.mem_append.mp hitem with hold | hnew
  · exact h item hold n (Nat.le_of_succ_le hn)
  · rw [List.mem_singleton.mp hnew]
    intro heq
    have hsame : s.snowflake = n := App.snowflake_injective heq
    have hlt : s.snowflake + 1 ≤ n := hn
    omega

theorem outboxFor_queued : outboxFor domain (queued payload s target) =
    outboxFor domain s ++ if eqIgnoreAsciiCase target domain then [payload] else [] := by
  cases htarget : eqIgnoreAsciiCase target domain <;>
    simp [outboxFor, queued, List.filter_append, isFor, htarget]

theorem exec_enqueueAll (targets : List String) (h : FreshIds s) :
    (Prog.forEach targets (Sender.enqueueTo payload)).exec s =
      (.ok (), targets.foldl (queued payload) s) := by
  induction targets generalizing s with
  | nil => rfl
  | cons target targets ih =>
    rw [Prog.forEach_cons, Prog.exec_bind_of_ok (exec_enqueueTo h)]
    exact ih h.queued

theorem outboxFor_queuedAll (targets : List String) :
    outboxFor domain (targets.foldl (queued payload) s) =
      outboxFor domain s ++
        (targets.filter (fun t => eqIgnoreAsciiCase t domain)).map (fun _ => payload) := by
  induction targets generalizing s with
  | nil => simp
  | cons target targets ih =>
    rw [List.foldl_cons, ih, outboxFor_queued]
    cases htarget : eqIgnoreAsciiCase target domain <;> simp [htarget]

theorem distinctTargets_for {ourDomain : String}
    (hother : eqIgnoreAsciiCase domain ourDomain = false) (targets seen : List String) :
    ((Sender.distinctTargets ourDomain seen targets).filter
        (fun t => eqIgnoreAsciiCase t domain)).map (fun _ => payload) =
      if toAsciiLowercase domain ∉ seen ∧
        targets.any (fun t => eqIgnoreAsciiCase t domain) = true then [payload] else [] := by
  induction targets generalizing seen with
  | nil => simp [Sender.distinctTargets]
  | cons target targets ih =>
    rw [Sender.distinctTargets]
    cases htarget : eqIgnoreAsciiCase target domain with
    | true =>
      have hlower : toAsciiLowercase target = toAsciiLowercase domain :=
        toAsciiLowercase_eq.mpr htarget
      have hours : eqIgnoreAsciiCase target ourDomain = false := by
        rw [eqIgnoreAsciiCase_congr htarget, hother]
      by_cases hseen : toAsciiLowercase domain ∈ seen
      · simp [hours, hlower, hseen, ih]
      · simp [hours, hlower, hseen, ih, htarget]
    | false =>
      have hlower : toAsciiLowercase domain ≠ toAsciiLowercase target := by
        intro heq
        rw [toAsciiLowercase_eq.mp heq.symm] at htarget
        cases htarget
      split
      · simp [ih, htarget]
      · simp [ih, htarget, hlower]

end

structure Homed (domain spaceId : String) (s : AppState) : Prop where
  federation : s.federation.map FederationContext.domain = some domain
  homeSpace : Federation.spaceOrigin spaceId s.db = .ok none
  freshIds : FreshIds s

def homeView (s : AppState) :
    Option FederationContext × List SpaceRow × List OutboxItem × Nat :=
  (s.federation, s.db.spaces, s.db.federationOutbox, s.snowflake)

theorem Homed.of_view {domain spaceId : String} {s t : AppState} (h : Homed domain spaceId s)
    (hview : homeView t = homeView s) : Homed domain spaceId t := by
  obtain ⟨hfederation, hrest⟩ := Prod.mk.inj hview
  obtain ⟨hspaces, hrest⟩ := Prod.mk.inj hrest
  obtain ⟨houtbox, hsnowflake⟩ := Prod.mk.inj hrest
  refine ⟨?_, ?_, ?_⟩
  · rw [hfederation]
    exact h.federation
  · have hhome := h.homeSpace
    simp only [Federation.spaceOrigin, hspaces] at hhome ⊢
    exact hhome
  · unfold FreshIds
    rw [houtbox, hsnowflake]
    exact h.freshIds

theorem outboxFor_of_view {domain : String} {s t : AppState} (hview : homeView t = homeView s) :
    outboxFor domain t = outboxFor domain s := by
  have houtbox : t.db.federationOutbox = s.db.federationOutbox :=
    congrArg (fun v => v.2.2.1) hview
  rw [outboxFor, outboxFor, houtbox]

def envelope (domain spaceId eventType : String) (payload : Json) (n : Nat) :
    FederationEnvelope :=
  { eventId := toString n
    origin := domain
    spaceId := some (qualify spaceId domain)
    eventType := eventType
    payload := payload }

section

variable {domain peer spaceId : String} {s : AppState}

theorem outboxFor_fanoutToTargets (h : Homed domain spaceId s)
    (hother : eqIgnoreAsciiCase peer domain = false) (eventType : String) (payload : Json)
    (targets : List String) :
    outboxFor peer ((Outbound.fanoutToTargets spaceId eventType payload targets).exec s).2 =
      outboxFor peer s ++
        if targets.any (fun t => eqIgnoreAsciiCase t peer) then
          [(envelope domain spaceId eventType payload s.snowflake).toJson]
        else [] := by
  obtain ⟨fed, hfed, rfl⟩ := Option.map_eq_some_iff.mp h.federation
  have hfederation : App.federation.exec s = (.ok (some fed), s) := by
    rw [App.exec_federation, hfed]
  rw [Outbound.fanoutToTargets, Prog.exec_bind_of_ok hfederation]
  cases targets with
  | nil => simp
  | cons target targets =>
    have hnext : FreshIds { s with snowflake := s.snowflake + 1 } :=
      fun item hitem n hn => h.freshIds item hitem n (Nat.le_of_succ_le hn)
    have hnextfed : App.federation.exec { s with snowflake := s.snowflake + 1 } =
        (.ok (some fed), { s with snowflake := s.snowflake + 1 }) := by
      rw [App.exec_federation, hfed]
    have horigin : (MonadLiftT.monadLift (Federation.spaceOrigin spaceId) :
        App (Option String)).exec s = (.ok none, s) := by
      rw [App.exec_lift, h.homeSpace]
    simp only [List.isEmpty_cons, Bool.false_eq_true, if_false]
    rw [Prog.exec_bind_of_ok horigin]
    simp only [Option.isSome_none, Bool.false_eq_true, if_false]
    rw [Prog.exec_bind_of_ok App.exec_generateId, Sender.enqueue, Prog.exec_bind_of_ok hnextfed]
    simp only
    rw [exec_enqueueAll _ hnext, outboxFor_queuedAll, distinctTargets_for hother]
    simp [envelope, outboxFor]

end

def interested (peer spaceId : String) (s : AppState) : Bool :=
  (Db.Federation.interestedIn s.db spaceId).any (fun t => eqIgnoreAsciiCase t peer)

def sentTo (peer : String) (s s' : AppState) : List Json :=
  (outboxFor peer s').drop (outboxFor peer s).length

theorem sentTo_of_append {peer : String} {s s' : AppState} {l : List Json}
    (h : outboxFor peer s' = outboxFor peer s ++ l) : sentTo peer s s' = l := by
  rw [sentTo, h, List.drop_left]

theorem sentTo_fanoutToSpace {domain peer spaceId : String} {s : AppState}
    (h : Homed domain spaceId s) (hother : eqIgnoreAsciiCase peer domain = false)
    (eventType : String) (payload : Json) :
    sentTo peer s ((Outbound.fanoutToSpace spaceId eventType payload).exec s).2 =
      if interested peer spaceId s then
        [(envelope domain spaceId eventType payload s.snowflake).toJson]
      else [] := by
  apply sentTo_of_append
  have htargets : (MonadLiftT.monadLift (Db.Federation.interestedServers spaceId) :
      App (List String)).exec s = (.ok (Db.Federation.interestedIn s.db spaceId), s) := by
    rw [App.exec_lift]
    rfl
  rw [Outbound.fanoutToSpace, Prog.exec_bind_of_ok htargets]
  exact outboxFor_fanoutToTargets h hother eventType payload _

end Vokusz.Federation.Fanout
