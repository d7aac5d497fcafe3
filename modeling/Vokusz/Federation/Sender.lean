import Vokusz.Db.Federation
import Vokusz.Lib.Transition

namespace Vokusz.Federation.Sender

open Db
open Lib (Prog)

def batchSize : Nat := 32

def maxAttempts : Nat := 12

def maxBackoffSecs : Nat := 3600

def backoffSecs (attempts : Nat) : Nat := min (2 ^ min attempts 20) maxBackoffSecs

-- What `deliver_due_once` does with an item once `deliver` has returned.
def settle (item : OutboxItem) (accepted : Bool) : App Unit :=
  if accepted then Federation.outboxDelete item.id
  else if maxAttempts ≤ item.attempts + 1 then Federation.outboxDelete item.id
  else Federation.outboxReschedule item.id (item.attempts + 1) (backoffSecs (item.attempts + 1))

structure Post where
  id : String
  accepted : Bool
  time : Nat
  deriving DecidableEq, Repr

-- `enqueued` and `posts` are observations.
structure Drain where
  app : AppState
  batch : List OutboxItem := []
  enqueued : List (String × Nat) := []
  posts : List Post := []

namespace Drain

-- A delivery is one item of the batch: `app` is the server when `deliver` has returned.
inductive Action where
  | enqueue (id target : String) (payload : Json)
  | others (app : AppState)
  | claim
  | deliver (accepted : Bool) (app : AppState) (written : Bool)
  | restart

def now (s : Drain) : Nat := s.app.clock / 1000

def follow (s : Drain) (app : AppState) : Option Drain :=
  if app.db.federationOutbox = s.app.db.federationOutbox ∧ s.app.clock ≤ app.clock then
    some { s with app := app }
  else none

def delivered (s : Drain) (item : OutboxItem) (accepted written : Bool) (time : Nat) : Drain :=
  { s with
    app := if written then ((settle item accepted).exec s.app).2 else s.app
    batch := s.batch.tail
    posts := s.posts ++ [{ id := item.id, accepted := accepted, time := time }] }

def step (s : Drain) : Action → Option Drain
  | .enqueue id target payload =>
    match (Federation.outboxEnqueue id target payload).exec s.app with
    | (.ok _, app) => some { s with app := app, enqueued := s.enqueued ++ [(id, s.now)] }
    | (.error _, app) => some { s with app := app }
  | .others app => s.follow app
  | .claim =>
    if s.batch = [] then some { s with batch := Federation.dueAt s.app.db s.now batchSize } else none
  | .deliver accepted app written => do
    let item ← s.batch.head?
    let returned ← s.follow app
    return returned.delivered item accepted written s.now
  | .restart => some { s with batch := [] }

def failures (s : Drain) (id : String) : Nat :=
  s.posts.countP (fun p => p.id = id && !p.accepted)

def Queued (s : Drain) (id : String) : Prop :=
  ∃ item ∈ s.app.db.federationOutbox, item.id = id

def Delivered (s : Drain) (id : String) : Prop :=
  ∃ p ∈ s.posts, p.id = id ∧ p.accepted = true

def GivenUp (s : Drain) (id : String) : Prop :=
  maxAttempts ≤ s.failures id ∧
    ∃ t, (id, t) ∈ s.enqueued ∧ ∃ p ∈ s.posts, p.id = id ∧ t + 4094 ≤ p.time

structure Tracked (s : Drain) (item : OutboxItem) : Prop where
  bounded : item.attempts < maxAttempts
  failed : item.attempts ≤ s.failures item.id
  waited : ∃ t, (item.id, t) ∈ s.enqueued ∧ t + 2 ^ (item.attempts + 1) ≤ item.nextAttemptAt + 2

structure Sound (s : Drain) : Prop where
  rows : ∀ row ∈ s.app.db.federationOutbox, s.Tracked row
  batch : ∀ item ∈ s.batch, s.Tracked item ∧ item.nextAttemptAt ≤ s.now
  accounted : ∀ e ∈ s.enqueued, s.Queued e.1 ∨ s.Delivered e.1 ∨ s.GivenUp e.1

-- The records only grow and the clock does not run backwards.
structure Extends (s t : Drain) : Prop where
  posts : s.posts <+: t.posts
  enqueued : s.enqueued ⊆ t.enqueued
  clock : s.now ≤ t.now

section

variable {s t : Drain} {item : OutboxItem} {id : String}

theorem Extends.failures (h : s.Extends t) (id : String) : s.failures id ≤ t.failures id :=
  h.posts.sublist.countP_le

theorem Tracked.mono (h : s.Tracked item) (hext : s.Extends t) : t.Tracked item := by
  obtain ⟨time, htime, hwaited⟩ := h.waited
  exact ⟨h.bounded, h.failed.trans (hext.failures _), time, hext.enqueued htime, hwaited⟩

theorem done_mono (h : s.Delivered id ∨ s.GivenUp id) (hext : s.Extends t) :
    t.Delivered id ∨ t.GivenUp id := by
  rcases h with ⟨p, hp, hid⟩ | ⟨hcount, time, htime, p, hp, hid⟩
  · exact .inl ⟨p, hext.posts.subset hp, hid⟩
  · exact .inr ⟨hcount.trans (hext.failures id), time, hext.enqueued htime, p,
      hext.posts.subset hp, hid⟩

theorem Sound.next (h : s.Sound) (hext : s.Extends t)
    (hrows : ∀ row ∈ t.app.db.federationOutbox,
      row ∈ s.app.db.federationOutbox ∨ t.Tracked row)
    (hqueued : ∀ row ∈ s.app.db.federationOutbox,
      t.Queued row.id ∨ t.Delivered row.id ∨ t.GivenUp row.id)
    (henqueued : ∀ e ∈ t.enqueued, e ∈ s.enqueued ∨ t.Queued e.1)
    (hbatch : ∀ item ∈ t.batch, item ∈ s.batch ∨
      item ∈ s.app.db.federationOutbox ∧ item.nextAttemptAt ≤ s.now) : t.Sound where
  rows := fun row hrow => (hrows row hrow).elim (fun hold => (h.rows row hold).mono hext) id
  batch := by
    intro item hitem
    rcases hbatch item hitem with hold | ⟨hrow, hdue⟩
    · obtain ⟨htracked, hdue⟩ := h.batch item hold
      exact ⟨htracked.mono hext, hdue.trans hext.clock⟩
    · exact ⟨(h.rows item hrow).mono hext, hdue.trans hext.clock⟩
  accounted := by
    intro e he
    rcases henqueued e he with hold | hnew
    · rcases h.accounted e hold with ⟨row, hrow, hid⟩ | hdone
      · exact hid ▸ hqueued row hrow
      · exact .inr (done_mono hdone hext)
    · exact .inl hnew

theorem sound_follow {app : AppState} (h : s.Sound) (hfollow : s.follow app = some t) :
    t.Sound ∧ s.Extends t ∧ t.batch = s.batch := by
  obtain ⟨⟨hbox, hclock⟩, rfl⟩ := by simpa [follow] using hfollow
  have hext : s.Extends { s with app := app } :=
    ⟨List.prefix_refl _, List.Subset.refl _, Nat.div_le_div_right hclock⟩
  refine ⟨h.next hext ?_ ?_ (fun _ => .inl) (fun _ => .inl), hext, rfl⟩
  · exact fun row hrow => .inl (hbox ▸ hrow)
  · exact fun row hrow => .inl ⟨row, hbox.symm ▸ hrow, rfl⟩

theorem settle_cases (item : OutboxItem) (accepted : Bool) (app : AppState) :
    ∃ box, ((settle item accepted).exec app).2 = app.withDb { app.db with federationOutbox := box } ∧
      ((accepted = true ∨ maxAttempts ≤ item.attempts + 1) ∧
          box = Lib.Table.delete OutboxItem.id item.id app.db.federationOutbox ∨
        accepted = false ∧ item.attempts + 1 < maxAttempts ∧
          box = Lib.Table.update OutboxItem.id item.id
            (fun row => { row with
              attempts := item.attempts + 1
              nextAttemptAt := app.clock / 1000 + 2 ^ (item.attempts + 1) })
            app.db.federationOutbox) := by
  unfold settle
  split
  · rename_i haccepted
    exact ⟨_, rfl, .inl ⟨.inl haccepted, rfl⟩⟩
  split
  · rename_i hlast
    exact ⟨_, rfl, .inl ⟨.inr hlast, rfl⟩⟩
  · rename_i hrefused hmore
    have hbackoff : backoffSecs (item.attempts + 1) = 2 ^ (item.attempts + 1) :=
      (by decide : ∀ n < maxAttempts, backoffSecs n = 2 ^ n) _ (not_le.mp hmore)
    rw [← hbackoff]
    exact ⟨_, rfl, .inr ⟨by simpa using hrefused, not_le.mp hmore, rfl⟩⟩

section

variable {accepted written : Bool} {time : Nat}

theorem extends_delivered : s.Extends (s.delivered item accepted written time) := by
  refine ⟨List.prefix_append _ _, List.Subset.refl _, ?_⟩
  obtain ⟨box, hsettled, -⟩ := settle_cases item accepted s.app
  cases written with
  | false => exact le_rfl
  | true => exact (congrArg (fun app => app.clock / 1000) hsettled).ge

theorem mem_posts_delivered :
    ⟨item.id, accepted, time⟩ ∈ (s.delivered item accepted written time).posts :=
  List.mem_append_right _ (List.mem_singleton_self _)

theorem failures_delivered (h : s.Tracked item) :
    item.attempts + 1 ≤ (s.delivered item false written time).failures item.id := by
  simpa [failures, delivered] using h.failed

theorem done_delivered (h : s.Tracked item) (hdue : item.nextAttemptAt ≤ time)
    (hdone : accepted = true ∨ maxAttempts ≤ item.attempts + 1) :
    (s.delivered item accepted written time).Delivered item.id ∨
      (s.delivered item accepted written time).GivenUp item.id := by
  cases accepted with
  | true => exact .inl ⟨_, mem_posts_delivered, rfl, rfl⟩
  | false =>
    have hlast : maxAttempts ≤ item.attempts + 1 := by simpa using hdone
    obtain ⟨since, hsince, hwaited⟩ := h.waited
    have hattempts : item.attempts + 1 = 12 := Nat.le_antisymm h.bounded hlast
    rw [hattempts] at hwaited
    have hlong : since + 4094 ≤ time := by omega
    exact .inr ⟨hlast.trans (failures_delivered h), since, hsince, _, mem_posts_delivered, rfl, hlong⟩

theorem tracked_rescheduled {row : OutboxItem} (h : s.Tracked item)
    (hdue : item.nextAttemptAt ≤ s.now) (hkey : row.id = item.id)
    (hmore : item.attempts + 1 < maxAttempts) :
    (s.delivered item false written time).Tracked { row with
      attempts := item.attempts + 1
      nextAttemptAt := s.now + 2 ^ (item.attempts + 1) } := by
  obtain ⟨since, hsince, hwaited⟩ := h.waited
  refine ⟨hmore, hkey ▸ failures_delivered h, since, hkey ▸ hsince, ?_⟩
  have hdouble : 2 ^ (item.attempts + 1 + 1) = 2 ^ (item.attempts + 1) * 2 := pow_succ ..
  dsimp only
  omega

theorem sound_delivered (h : s.Sound) (hitem : item ∈ s.batch) (hdue : item.nextAttemptAt ≤ time)
    (htime : time ≤ s.now) : (s.delivered item accepted written time).Sound := by
  obtain ⟨htracked, -⟩ := h.batch item hitem
  have hnext := fun hrows hqueued => h.next (@extends_delivered s item accepted written time) hrows
    hqueued (fun _ => .inl) (fun i hi => .inl (List.mem_of_mem_tail hi))
  cases written with
  | false => exact hnext (fun _ => .inl) (fun row hrow => .inl ⟨row, hrow, rfl⟩)
  | true =>
    obtain ⟨box, hsettled, hbox⟩ := settle_cases item accepted s.app
    have hkept : (s.delivered item accepted true time).app.db.federationOutbox = box :=
      congrArg (fun app => app.db.federationOutbox) hsettled
    rcases hbox with ⟨hdone, rfl⟩ | ⟨rfl, hmore, rfl⟩
    · refine hnext (fun row hrow => .inl (Lib.Table.mem_delete.mp (hkept ▸ hrow)).1) ?_
      intro row hrow
      by_cases hid : row.id = item.id
      · exact .inr (hid ▸ done_delivered htracked hdue hdone)
      · exact .inl ⟨row, hkept.symm ▸ Lib.Table.mem_delete.mpr ⟨hrow, hid⟩, rfl⟩
    · refine hnext (fun row hrow => ?_) (fun row hrow => .inl ?_)
      · rcases Lib.Table.mem_update (hkept ▸ hrow) with ⟨hold, _⟩ | ⟨old, _, hkey, rfl⟩
        · exact .inl hold
        · exact .inr (tracked_rescheduled htracked (hdue.trans htime) hkey hmore)
      · rw [Queued, hkept]
        exact ⟨_, List.mem_map_of_mem hrow, by split <;> rfl⟩

end

theorem sound_enqueue {target : String} {payload : Json} (h : s.Sound)
    (hstep : s.step (.enqueue id target payload) = some t) : t.Sound := by
  have hexec : (Federation.outboxEnqueue id target payload).exec s.app = _ :=
    (Prog.exec_bind_of_ok App.exec_nowSeconds).trans (App.exec_write _ _)
  simp only [step, hexec] at hstep
  cases hcheck : App.unique (!Lib.Table.has OutboxItem.id id s.app.db.federationOutbox) with
  | some e =>
    simp only [hcheck] at hstep
    cases hstep
    exact h
  | none =>
    simp only [hcheck] at hstep
    cases hstep
    refine h.next ⟨List.prefix_refl _, List.subset_append_left _ _, le_rfl⟩ ?_ ?_ ?_ (fun _ => .inl)
    · intro row hrow
      refine (List.mem_append.mp hrow).imp_right (fun hnew => ?_)
      rw [List.mem_singleton.mp hnew]
      exact ⟨Nat.zero_lt_succ 11, Nat.zero_le _, s.now, by simp, le_rfl⟩
    · exact fun row hrow => .inl ⟨row, List.mem_append_left _ hrow, rfl⟩
    · intro e he
      refine (List.mem_append.mp he).imp_right (fun hnew => ?_)
      rw [List.mem_singleton.mp hnew]
      exact ⟨_, List.mem_append_right _ (List.mem_singleton_self _), rfl⟩

theorem sound_step {action : Action} (h : s.Sound) (hstep : s.step action = some t) : t.Sound := by
  cases action with
  | enqueue id target payload => exact sound_enqueue h hstep
  | others app => exact (sound_follow h hstep).1
  | claim =>
    obtain ⟨_, rfl⟩ := by simpa [step] using hstep
    refine h.next ⟨List.prefix_refl _, List.Subset.refl _, le_rfl⟩ (fun _ => .inl)
      (fun row hrow => .inl ⟨row, hrow, rfl⟩) (fun _ => .inl) (fun item hitem => .inr ?_)
    simpa [Lib.Table.mem_orderBy] using List.mem_of_mem_take hitem
  | deliver accepted app written =>
    obtain ⟨item, hhead, hstep⟩ := Option.bind_eq_some_iff.mp hstep
    obtain ⟨returned, hfollow, hreturned⟩ := Option.bind_eq_some_iff.mp hstep
    cases hreturned
    obtain ⟨hsound, hext, hbatch⟩ := sound_follow h hfollow
    have hitem : item ∈ s.batch := List.mem_of_mem_head? hhead
    exact sound_delivered hsound (hbatch ▸ hitem) (h.batch item hitem).2 hext.clock
  | restart =>
    cases hstep
    exact h.next ⟨List.prefix_refl _, List.Subset.refl _, le_rfl⟩ (fun _ => .inl)
      (fun row hrow => .inl ⟨row, hrow, rfl⟩) (fun _ => .inl) (fun _ hitem => by cases hitem)

end

theorem enqueued_accounted {app : AppState} (hempty : app.db.federationOutbox = [])
    {actions : List Action} {s : Drain} (hrun : Lib.runFrom step { app := app } actions = some s) :
    ∀ e ∈ s.enqueued, s.Queued e.1 ∨ s.Delivered e.1 ∨ s.GivenUp e.1 := by
  have hstart : ({ app := app } : Drain).Sound := ⟨by simp [hempty], by simp, by simp⟩
  exact (Lib.run_induction (I := fun _ (u : Drain) => u.Sound) hstart
    (fun _ _ _ _ hu hstep => sound_step hu hstep) actions s hrun).accounted

def server (outbox : List OutboxItem) (clock : Nat) : AppState :=
  { db := { federationOutbox := outbox }, ext := Externals.fixed "", clock := clock }

def retried : List Action :=
  let item : OutboxItem :=
    { id := "1", targetDomain := "q.example", payload := .null, nextAttemptAt := 0 }
  let again := server [{ item with attempts := 1, nextAttemptAt := 2 }] 2000
  [.enqueue item.id item.targetDomain item.payload, .claim, .deliver false (server [item] 0) true,
    .others again, .claim, .deliver true again true]

theorem enqueued_accounted_retried :
    let s := (Lib.runFrom step { app := server [] 0 } retried).getD { app := server [] 0 }
    s.posts.map Post.accepted = [false, true] ∧ s.app.db.federationOutbox = [] ∧
      ∀ e ∈ s.enqueued, s.Queued e.1 ∨ s.Delivered e.1 ∨ s.GivenUp e.1 :=
  ⟨by decide +kernel, by decide +kernel,
    enqueued_accounted rfl (Lib.runFrom_getD (by decide +kernel))⟩

end Drain

end Vokusz.Federation.Sender
