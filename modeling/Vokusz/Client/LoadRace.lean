import Vokusz.Lib.Feed
import Vokusz.Client.Messages

namespace Vokusz.Client

open Lib

inductive MessageEvent where
  | create (message : AccordMessage)
  | update (message : AccordMessage)
  | delete (id : String)
  deriving DecidableEq, Repr

def replaceById (item : AccordMessage) : List AccordMessage → Option (List AccordMessage)
  | [] => none
  | m :: rest =>
    if m.id = item.id then some (item :: rest) else (replaceById item rest).map (m :: ·)

namespace MessagesController

variable (c : MessagesController)

def addMessage (message : AccordMessage) : MessagesController :=
  let current := c.state.getD []
  if (ids current).contains message.id then c else { c with state := some (current ++ [message]) }

def updateMessage (message : AccordMessage) : MessagesController :=
  match c.state.bind (replaceById message) with
  | some next => { c with state := some next }
  | none => c

def removeMessage (messageId : String) : MessagesController :=
  match c.state with
  | none => c
  | some current => { c with state := some (current.filter (fun m => m.id ≠ messageId)) }

def handle : MessageEvent → MessagesController
  | .create message => c.addMessage message
  | .update message => c.updateMessage message
  | .delete id => c.removeMessage id

end MessagesController

open MessagesController (ids)

namespace MessageEvent

def store (list : List AccordMessage) : MessageEvent → List AccordMessage
  | .create message => list ++ [message]
  | .update message => list.map (fun m => if m.id = message.id then message else m)
  | .delete id => list.filter (fun m => m.id ≠ id)

def applied (list : List AccordMessage) : MessageEvent → List AccordMessage
  | .create message => if (ids list).contains message.id then list else list ++ [message]
  | .update message => (replaceById message list).getD list
  | .delete id => list.filter (fun m => m.id ≠ id)

def change : MessageEvent → Feed.Change String String
  | .create message => .create message.id message.content
  | .update message => .update message.id message.content
  | .delete id => .delete id

end MessageEvent

def contentOf (id : String) (list : List AccordMessage) : Option String :=
  (list.find? (fun m => m.id = id)).map AccordMessage.content

structure LoadRace where
  before : List AccordMessage
  events : List MessageEvent
  taken : Nat
  processed : Nat
  cache : MessagesController

namespace LoadRace

variable (r : LoadRace)

def server (n : Nat) : List AccordMessage := (r.events.take n).foldl MessageEvent.store r.before

def final : List AccordMessage := r.events.foldl MessageEvent.store r.before

def page : List AccordMessage :=
  ((r.server r.taken).filter (fun m => m.threadId = none)).reverse.take pageSize

def done : MessagesController :=
  (r.events.drop r.processed).foldl MessagesController.handle
    (((r.events.take r.processed).foldl MessagesController.handle r.cache).loaded (some r.page))

structure Orderly : Prop where
  distinct : (ids r.before).Nodup
  lawful : ∀ id, Feed.Lawful id (contentOf id r.before).isSome (contentOf id r.before)
    (r.events.map MessageEvent.change)

structure Coherent (list : List AccordMessage) : Prop where
  distinct : (ids list).Nodup
  gone : ∀ id, .delete id ∈ r.events → id ∉ ids list
  present : ∀ m, .create m ∈ r.events.drop r.taken → m.id ∈ ids r.final → m.id ∈ ids list
  latest : ∀ m ∈ list, ∀ s ∈ r.final, s.id = m.id → m.content = s.content

def Lost : MessageEvent → Prop
  | .create m => m.id ∈ ids r.final
  | .delete id => id ∈ ids r.page
  | .update m => ∃ shown ∈ r.page, shown.id = m.id ∧
      (∃ s ∈ r.final, s.id = m.id ∧ s.content ≠ shown.content) ∧
      ∀ later, .update later ∈ r.events.drop r.processed → later.id ≠ m.id

end LoadRace

section

variable {id : String} {list : List AccordMessage} {e : MessageEvent} {m : AccordMessage}

theorem contentOf_cons : contentOf id (m :: list) =
    if m.id = id then some m.content else contentOf id list := by
  rw [contentOf, List.find?_cons]
  by_cases h : m.id = id
  · simp [h]
  · simp [h, contentOf]

theorem contentOf_isSome : (contentOf id list).isSome = true ↔ id ∈ ids list := by
  simp [contentOf, ids]

theorem contentOf_eq_none : contentOf id list = none ↔ id ∉ ids list := by
  rw [← contentOf_isSome]
  simp

theorem contentOf_of_mem (hdistinct : (ids list).Nodup) (hm : m ∈ list) :
    contentOf m.id list = some m.content := by
  induction list with
  | nil => cases hm
  | cons head rest ih =>
    rw [contentOf_cons]
    obtain ⟨hnew, hrest⟩ := List.nodup_cons.mp hdistinct
    rcases List.mem_cons.mp hm with rfl | hm
    · rw [if_pos rfl]
    · have hne : head.id ≠ m.id := fun heq => hnew (heq ▸ List.mem_map_of_mem hm)
      rw [if_neg hne]
      exact ih hrest hm

theorem mem_of_contentOf {content : String} (h : contentOf id list = some content) :
    ∃ m ∈ list, m.id = id ∧ m.content = content := by
  obtain ⟨m, hm, hcontent⟩ := Option.map_eq_some_iff.mp h
  exact ⟨m, List.mem_of_find?_eq_some hm, by simpa using List.find?_some hm, hcontent⟩

theorem contentOf_append :
    contentOf id (list ++ [m]) = if m.id = id then (contentOf id list).or (some m.content)
      else contentOf id list := by
  induction list with
  | nil => simp [contentOf]
  | cons head rest ih =>
    rw [List.cons_append, contentOf_cons, contentOf_cons, ih]
    by_cases hhead : head.id = id
    · simp [hhead]
    · simp [hhead]

theorem contentOf_delete (gone : String) :
    contentOf id (list.filter (fun m => m.id ≠ gone)) =
      if gone = id then none else contentOf id list := by
  induction list with
  | nil => simp [contentOf]
  | cons head rest ih =>
    rw [contentOf_cons, List.filter_cons]
    by_cases hgone : head.id = gone
    · by_cases hid : gone = id
      · simp_all
      · have hne : head.id ≠ id := fun heq => hid (hgone ▸ heq)
        simp_all
    · by_cases hid : gone = id
      · have hne : head.id ≠ id := fun heq => hgone (heq.trans hid.symm)
        simp_all [contentOf_cons]
      · simp_all [contentOf_cons]

theorem contentOf_store : contentOf id (e.store list) = e.change.fate id (contentOf id list) := by
  cases e with
  | create message => exact contentOf_append
  | delete gone => exact contentOf_delete gone
  | update message =>
    show contentOf id (list.map (fun m => if m.id = message.id then message else m)) =
      if message.id = id then (contentOf id list).map (fun _ => message.content)
        else contentOf id list
    induction list with
    | nil => simp [contentOf]
    | cons head rest ih =>
      rw [List.map_cons, contentOf_cons, contentOf_cons, ih]
      by_cases hmessage : message.id = id
      · by_cases hhead : head.id = id
        · simp [hmessage, hhead]
        · simp [hmessage, hhead]
      · by_cases hhead : head.id = message.id
        · have hne : head.id ≠ id := fun heq => hmessage (hhead ▸ heq)
          simp [hmessage, hhead]
        · simp [hmessage, hhead]

theorem contentOf_applied :
    contentOf id (e.applied list) = e.change.fate id (contentOf id list) := by
  cases e with
  | create message =>
    show contentOf id (if (ids list).contains message.id then list else list ++ [message]) = _
    split
    · rename_i hheld
      have hsome : (contentOf message.id list).isSome = true := contentOf_isSome.mpr (by simpa using hheld)
      show _ = if message.id = id then (contentOf id list).or (some message.content)
        else contentOf id list
      by_cases hid : message.id = id
      · cases hid
        obtain ⟨content, hcontent⟩ := Option.isSome_iff_exists.mp hsome
        rw [if_pos rfl, hcontent]
        rfl
      · rw [if_neg hid]
    · exact contentOf_append
  | delete gone => exact contentOf_delete gone
  | update message =>
    show contentOf id ((replaceById message list).getD list) =
      if message.id = id then (contentOf id list).map (fun _ => message.content)
        else contentOf id list
    induction list with
    | nil => simp [contentOf, replaceById]
    | cons head rest ih =>
      rw [replaceById, contentOf_cons]
      by_cases hhead : head.id = message.id
      · rw [if_pos hhead, Option.getD_some, contentOf_cons, hhead]
        by_cases hid : message.id = id
        · simp [hid]
        · simp [hid]
      · rw [if_neg hhead]
        cases hreplaced : replaceById message rest with
        | none =>
          rw [hreplaced, Option.getD_none] at ih
          rw [Option.map_none, Option.getD_none, contentOf_cons]
          by_cases hid : message.id = id
          · have hne : head.id ≠ id := fun heq => hhead (heq.trans hid.symm)
            simpa [hid, hne] using ih
          · simp [hid]
        | some next =>
          rw [hreplaced, Option.getD_some] at ih
          rw [Option.map_some, Option.getD_some, contentOf_cons, ih]
          by_cases hid : message.id = id
          · have hne : head.id ≠ id := fun heq => hhead (heq.trans hid.symm)
            simp [hid, hne]
          · simp [hid]

theorem ids_replaceById {next : List AccordMessage} (h : replaceById m list = some next) :
    ids next = ids list := by
  induction list generalizing next with
  | nil => cases h
  | cons head rest ih =>
    rw [replaceById] at h
    split at h
    · rename_i hhead
      cases h
      simp [ids, hhead]
    · obtain ⟨rest', hrest, rfl⟩ := Option.map_eq_some_iff.mp h
      exact congrArg (head.id :: ·) (ih hrest)

theorem ids_append_nodup (hdistinct : (ids list).Nodup) (hnew : m.id ∉ ids list) :
    (ids (list ++ [m])).Nodup := by
  rw [ids, List.map_append]
  refine List.nodup_append.mpr ⟨hdistinct, List.nodup_singleton _, fun id hid other hother => ?_⟩
  rw [List.map_singleton, List.mem_singleton] at hother
  rintro rfl
  exact hnew (hother ▸ hid)

theorem ids_filter_nodup (p : AccordMessage → Bool) (hdistinct : (ids list).Nodup) :
    (ids (list.filter p)).Nodup :=
  hdistinct.sublist ((List.filter_sublist).map _)

theorem ids_applied_nodup (hdistinct : (ids list).Nodup) : (ids (e.applied list)).Nodup := by
  cases e with
  | create message =>
    show (ids (if (ids list).contains message.id then list else list ++ [message])).Nodup
    split
    · exact hdistinct
    · rename_i hnew
      exact ids_append_nodup hdistinct (by simpa using hnew)
  | update message =>
    show (ids ((replaceById message list).getD list)).Nodup
    cases hreplaced : replaceById message list with
    | none => exact hdistinct
    | some next =>
      rw [Option.getD_some, ids_replaceById hreplaced]
      exact hdistinct
  | delete id => exact ids_filter_nodup _ hdistinct

end

section

variable {id : String} {list : List AccordMessage} {es : List MessageEvent}
  {c : MessagesController}

theorem contentOf_stored : contentOf id (es.foldl MessageEvent.store list) =
    Feed.fate id (es.map MessageEvent.change) (contentOf id list) := by
  induction es generalizing list with
  | nil => rfl
  | cons e es ih => rw [List.foldl_cons, ih, contentOf_store, List.map_cons, Feed.fate_cons]

theorem contentOf_handled : contentOf id (es.foldl MessageEvent.applied list) =
    Feed.fate id (es.map MessageEvent.change) (contentOf id list) := by
  induction es generalizing list with
  | nil => rfl
  | cons e es ih => rw [List.foldl_cons, ih, contentOf_applied, List.map_cons, Feed.fate_cons]

theorem ids_handled_nodup (hdistinct : (ids list).Nodup) :
    (ids (es.foldl MessageEvent.applied list)).Nodup := by
  induction es generalizing list with
  | nil => exact hdistinct
  | cons e es ih => exact ih (ids_applied_nodup hdistinct)

theorem ids_stored_nodup {used : String → Bool} (hdistinct : (ids list).Nodup)
    (hfresh : ∀ id, used id = false → contentOf id list = none)
    (hlawful : ∀ id, Feed.Lawful id (used id) (contentOf id list) (es.map MessageEvent.change)) :
    (ids (es.foldl MessageEvent.store list)).Nodup := by
  induction es generalizing list used with
  | nil => exact hdistinct
  | cons e es ih =>
    have hstored : (ids (e.store list)).Nodup := by
      cases e with
      | create message =>
        have hunused : used message.id = false := (hlawful message.id).1 rfl
        exact ids_append_nodup hdistinct (contentOf_eq_none.mp (hfresh _ hunused))
      | update message =>
        have hids : ids (MessageEvent.store list (.update message)) = ids list := by
          show (list.map (fun m => if m.id = message.id then message else m)).map AccordMessage.id = _
          rw [List.map_map]
          refine List.map_congr_left (fun m _ => ?_)
          show (if m.id = message.id then message else m).id = m.id
          split
          · rename_i heq
            exact heq.symm
          · rfl
        rw [hids]
        exact hdistinct
      | delete id => exact ids_filter_nodup _ hdistinct
    have hlater : ∀ id, Feed.Lawful id (used id || decide (e.change.key = id))
        (contentOf id (e.store list)) (es.map MessageEvent.change) := by
      intro id
      rw [contentOf_store]
      exact (hlawful id).2
    refine ih hstored (fun id hunused => ?_) hlater
    rw [Bool.or_eq_false_iff, decide_eq_false_iff_not] at hunused
    rw [contentOf_store, Feed.Change.fate_other hunused.2]
    exact hfresh id hunused.1

theorem handle_state {e : MessageEvent} (h : c.state = some list) :
    (c.handle e).state = some (e.applied list) := by
  cases e with
  | create message =>
    show (c.addMessage message).state =
      some (if (ids list).contains message.id then list else list ++ [message])
    rw [MessagesController.addMessage, h, Option.getD_some]
    split
    · exact h
    · rfl
  | update message =>
    show (c.updateMessage message).state = some ((replaceById message list).getD list)
    rw [MessagesController.updateMessage, h, Option.bind_some]
    cases replaceById message list with
    | none => exact h
    | some next => rfl
  | delete id =>
    show (c.removeMessage id).state = some (list.filter (fun m => m.id ≠ id))
    rw [MessagesController.removeMessage, h]

theorem handled_state (h : c.state = some list) :
    (es.foldl MessagesController.handle c).state = some (es.foldl MessageEvent.applied list) := by
  induction es generalizing c list with
  | nil => exact h
  | cons e es ih => exact ih (handle_state h)

end

section

variable {α : Type} {l : List α} {m n : Nat}

theorem take_cut (h : m ≤ n) : l.take m ++ (l.take n).drop m = l.take n := by
  have hcut := List.take_append_drop m (l.take n)
  rwa [List.take_take, Nat.min_eq_left h] at hcut

theorem drop_cut (h : m ≤ n) : (l.take n).drop m ++ l.drop n = l.drop m := by
  have hcut : l.take m ++ ((l.take n).drop m ++ l.drop n) = l.take m ++ l.drop m := by
    rw [← List.append_assoc, take_cut h, List.take_append_drop, List.take_append_drop]
  exact List.append_cancel_left hcut

end

namespace LoadRace

variable {r : LoadRace}

def changes (r : LoadRace) : List (Feed.Change String String) := r.events.map MessageEvent.change

theorem Orderly.fresh (id : String) :
    (contentOf id r.before).isSome = false → contentOf id r.before = none := by
  intro h
  simpa using h

theorem Orderly.server_nodup (h : r.Orderly) (n : Nat) : (ids (r.server n)).Nodup := by
  refine ids_stored_nodup h.distinct (fun id => Orderly.fresh id) (fun id => ?_)
  have hall := h.lawful id
  rw [← List.take_append_drop n r.events, List.map_append] at hall
  exact hall.split.1

theorem Orderly.final_nodup (h : r.Orderly) : (ids r.final).Nodup :=
  ids_stored_nodup h.distinct (fun id => Orderly.fresh id) h.lawful

theorem page_sublist : (ids r.page.reverse).Sublist (ids (r.server r.taken)) := by
  have htake : r.page.reverse.Sublist ((r.server r.taken).filter (fun m => m.threadId = none)) := by
    have hpage := (List.take_sublist pageSize
      ((r.server r.taken).filter (fun m => m.threadId = none)).reverse).reverse
    rwa [List.reverse_reverse] at hpage
  exact (htake.trans List.filter_sublist).map _

theorem Orderly.page_nodup (h : r.Orderly) : (ids r.page.reverse).Nodup :=
  (h.server_nodup r.taken).sublist page_sublist

theorem contentOf_page (h : r.Orderly) (id : String) :
    contentOf id r.page.reverse = contentOf id (r.server r.taken) ∨
      contentOf id r.page.reverse = none := by
  cases hpage : contentOf id r.page.reverse with
  | none => exact .inr rfl
  | some content =>
    left
    obtain ⟨m, hm, rfl, rfl⟩ := mem_of_contentOf hpage
    have hserver : m ∈ r.server r.taken := by
      have hmem := List.mem_of_mem_take (List.mem_reverse.mp hm)
      exact (List.mem_filter.mp (List.mem_reverse.mp hmem)).1
    exact (contentOf_of_mem (h.server_nodup r.taken) hserver).symm

theorem contentOf_server (n : Nat) (id : String) :
    contentOf id (r.server n) = Feed.fate id ((r.events.take n).map MessageEvent.change)
      (contentOf id r.before) := contentOf_stored

theorem contentOf_final (id : String) :
    contentOf id r.final = Feed.fate id r.changes (contentOf id r.before) := contentOf_stored

def caught (r : LoadRace) : List AccordMessage :=
  (r.events.drop r.processed).foldl MessageEvent.applied r.page.reverse

theorem done_state : r.done.state = some r.caught := handled_state rfl

theorem mem_deletes {es : List MessageEvent} {id : String} :
    Feed.Deletes id (es.map MessageEvent.change) ↔ .delete id ∈ es := by
  rw [Feed.Deletes, List.mem_map]
  constructor
  · rintro ⟨e, he, hchange⟩
    cases e with
    | delete gone =>
      cases hchange
      exact he
    | create message => cases hchange
    | update message => cases hchange
  · intro he
    exact ⟨_, he, rfl⟩

theorem mem_creates {es : List MessageEvent} {id : String} :
    Feed.Creates id (es.map MessageEvent.change) ↔ ∃ m, .create m ∈ es ∧ m.id = id := by
  simp only [Feed.Creates, List.mem_map]
  constructor
  · rintro ⟨v, e, he, hchange⟩
    cases e with
    | create message =>
      cases hchange
      exact ⟨message, he, rfl⟩
    | update message => cases hchange
    | delete gone => cases hchange
  · rintro ⟨m, he, rfl⟩
    exact ⟨_, _, he, rfl⟩

theorem mem_updates {es : List MessageEvent} {id : String} :
    Feed.Updates id (es.map MessageEvent.change) ↔ ∃ m, .update m ∈ es ∧ m.id = id := by
  simp only [Feed.Updates, List.mem_map]
  constructor
  · rintro ⟨v, e, he, hchange⟩
    cases e with
    | update message =>
      cases hchange
      exact ⟨message, he, rfl⟩
    | create message => cases hchange
    | delete gone => cases hchange
  · rintro ⟨m, he, rfl⟩
    exact ⟨_, _, he, rfl⟩

theorem coherent_iff_settled (h : r.Orderly) :
    r.Coherent r.caught ↔ ∀ id, Feed.Settled id r.changes
      ((r.events.drop r.taken).map MessageEvent.change) (contentOf id r.caught)
      (contentOf id r.final) := by
  have hdistinct : (ids r.caught).Nodup := ids_handled_nodup h.page_nodup
  constructor
  · intro hcoherent id
    refine ⟨fun hdeletes => ?_, fun hcreates hfinal => ?_, fun v w hv hw => ?_⟩
    · exact contentOf_eq_none.mpr (hcoherent.gone id (mem_deletes.mp hdeletes))
    · obtain ⟨m, hm, rfl⟩ := mem_creates.mp hcreates
      exact contentOf_isSome.mpr (hcoherent.present m hm (contentOf_isSome.mp hfinal))
    · obtain ⟨m, hm, rfl, rfl⟩ := mem_of_contentOf hv
      obtain ⟨s, hs, hsame, rfl⟩ := mem_of_contentOf hw
      exact hcoherent.latest m hm s hs hsame
  · intro hsettled
    refine ⟨hdistinct, fun id hdeletes => ?_, fun m hm hfinal => ?_, fun m hm s hs hsame => ?_⟩
    · exact contentOf_eq_none.mp ((hsettled id).gone (mem_deletes.mpr hdeletes))
    · exact contentOf_isSome.mp ((hsettled m.id).present (mem_creates.mpr ⟨m, hm, rfl⟩)
        (contentOf_isSome.mpr hfinal))
    · have hfinal : contentOf m.id r.final = some s.content := by
        rw [← hsame]
        exact contentOf_of_mem h.final_nodup hs
      exact (hsettled m.id).latest _ _ (contentOf_of_mem hdistinct hm) hfinal

theorem lost_iff_missed (h : r.Orderly) (window : List MessageEvent) :
    (∃ e ∈ window, r.Lost e) ↔ ∃ id, Feed.Missed id (window.map MessageEvent.change)
      ((r.events.drop r.processed).map MessageEvent.change) (contentOf id r.page.reverse)
      (contentOf id r.final) := by
  have hpageIds : ∀ id, id ∈ ids r.page.reverse ↔ id ∈ ids r.page := by
    intro id
    rw [ids, List.map_reverse, List.mem_reverse]
    rfl
  constructor
  · rintro ⟨e, he, hlost⟩
    cases e with
    | create m => exact ⟨m.id, .inl ⟨mem_creates.mpr ⟨m, he, rfl⟩, contentOf_isSome.mpr hlost⟩⟩
    | delete id =>
      exact ⟨id, .inr (.inl ⟨mem_deletes.mpr he, contentOf_isSome.mpr ((hpageIds id).mpr hlost)⟩)⟩
    | update m =>
      obtain ⟨shown, hshown, hid, ⟨s, hs, hsame, hdiffer⟩, hlater⟩ := hlost
      have hheld : contentOf m.id r.page.reverse = some shown.content := by
        rw [← hid]
        exact contentOf_of_mem h.page_nodup (List.mem_reverse.mpr hshown)
      have hfinal : contentOf m.id r.final = some s.content := by
        rw [← hsame]
        exact contentOf_of_mem h.final_nodup hs
      refine ⟨m.id, .inr (.inr ⟨mem_updates.mpr ⟨m, he, rfl⟩, ?_, ?_, ?_, ?_⟩)⟩
      · rw [hheld]
        rfl
      · rw [hfinal]
        rfl
      · rw [hheld, hfinal]
        exact fun heq => hdiffer (Option.some.inj heq).symm
      · intro hupdates
        obtain ⟨later, hmem, heq⟩ := mem_updates.mp hupdates
        exact hlater later hmem heq
  · rintro ⟨id, ⟨hcreates, hfinal⟩ | ⟨hdeletes, hheld⟩ | ⟨hupdates, hheld, hfinal, hdiffer, hrest⟩⟩
    · obtain ⟨m, hm, rfl⟩ := mem_creates.mp hcreates
      exact ⟨_, hm, contentOf_isSome.mp hfinal⟩
    · exact ⟨_, mem_deletes.mp hdeletes, (hpageIds id).mp (contentOf_isSome.mp hheld)⟩
    · obtain ⟨m, hm, rfl⟩ := mem_updates.mp hupdates
      obtain ⟨v, hv⟩ := Option.isSome_iff_exists.mp hheld
      obtain ⟨w, hw⟩ := Option.isSome_iff_exists.mp hfinal
      obtain ⟨shown, hshown, hid, rfl⟩ := mem_of_contentOf hv
      obtain ⟨s, hs, hsame, rfl⟩ := mem_of_contentOf hw
      refine ⟨_, hm, shown, List.mem_reverse.mp hshown, hid, ⟨s, hs, hsame, fun heq => ?_⟩, ?_⟩
      · rw [hv, hw, heq] at hdiffer
        exact hdiffer rfl
      · intro later hlater heq
        exact hrest (mem_updates.mpr ⟨later, hlater, heq⟩)

theorem load_race_iff (h : r.Orderly) :
    (∃ list, r.done.state = some list ∧ r.Coherent list) ↔
      ∀ e ∈ (r.events.take r.processed).drop r.taken, ¬ r.Lost e := by
  have hstate : (∃ list, r.done.state = some list ∧ r.Coherent list) ↔ r.Coherent r.caught := by
    rw [done_state]
    simp
  have hheld : ∀ id, contentOf id r.caught = Feed.fate id
      ((r.events.drop r.processed).map MessageEvent.change) (contentOf id r.page.reverse) :=
    fun id => contentOf_handled
  rw [hstate, coherent_iff_settled h]
  rcases Nat.le_total r.processed r.taken with hbehind | hahead
  · have hempty : (r.events.take r.processed).drop r.taken = [] :=
      List.drop_eq_nil_of_le (by rw [List.length_take]; omega)
    rw [hempty]
    refine iff_of_true (fun id => ?_) (fun e he => absurd he List.not_mem_nil)
    have hcut : r.changes = (r.events.take r.processed).map MessageEvent.change ++
        ((r.events.take r.taken).drop r.processed).map MessageEvent.change ++
          (r.events.drop r.taken).map MessageEvent.change := by
      rw [← List.map_append, take_cut hbehind, ← List.map_append, List.take_append_drop]
      rfl
    have hdrop : (r.events.drop r.processed).map MessageEvent.change =
        ((r.events.take r.taken).drop r.processed).map MessageEvent.change ++
          (r.events.drop r.taken).map MessageEvent.change := by
      rw [← List.map_append, drop_cut hbehind]
    have hcopy := contentOf_page h id
    rw [contentOf_server, ← take_cut hbehind, List.map_append] at hcopy
    have hlawful : Feed.Lawful id _ _ r.changes := h.lawful id
    rw [contentOf_final, hheld, hdrop, hcut]
    rw [hcut] at hlawful
    exact Feed.settled_behind hlawful (Orderly.fresh id) hcopy
  · have hcut : r.changes = (r.events.take r.taken).map MessageEvent.change ++
        ((r.events.take r.processed).drop r.taken).map MessageEvent.change ++
          (r.events.drop r.processed).map MessageEvent.change := by
      rw [← List.map_append, take_cut hahead, ← List.map_append, List.take_append_drop]
      rfl
    have hdrop : (r.events.drop r.taken).map MessageEvent.change =
        ((r.events.take r.processed).drop r.taken).map MessageEvent.change ++
          (r.events.drop r.processed).map MessageEvent.change := by
      rw [← List.map_append, drop_cut hahead]
    have hlost := not_congr (lost_iff_missed h ((r.events.take r.processed).drop r.taken))
    simp only [not_exists, not_and] at hlost
    rw [hlost]
    refine forall_congr' (fun id => ?_)
    have hcopy := contentOf_page h id
    rw [contentOf_server] at hcopy
    have hlawful : Feed.Lawful id _ _ r.changes := h.lawful id
    rw [hcut] at hlawful
    rw [contentOf_final, hheld, hdrop, hcut]
    exact Feed.settled_ahead_iff hlawful (Orderly.fresh id) hcopy

def crossing (processed : Nat) : LoadRace :=
  { before := [{ id := "30", content := "first" }]
    events := [.create { id := "31", content := "second" }]
    taken := 0
    processed := processed
    cache := {} }

theorem crossing_orderly (processed : Nat) : (crossing processed).Orderly := by
  refine ⟨List.nodup_singleton _, fun id => ⟨fun hid => ?_, trivial⟩⟩
  have hsecond : "31" = id := hid
  have hnew : (contentOf "31" [{ id := "30", content := "first" }]).isSome = false := by decide
  rw [← hsecond]
  exact hnew

theorem later_event_kept : ∃ list, (crossing 0).done.state = some list ∧
    (crossing 0).Coherent list :=
  (load_race_iff (crossing_orderly 0)).mpr (fun _ he => absurd he List.not_mem_nil)

theorem crossed_message_lost : (crossing 1).Orderly ∧
    ¬ ∃ list, (crossing 1).done.state = some list ∧ (crossing 1).Coherent list := by
  refine ⟨crossing_orderly 1, ?_⟩
  rintro ⟨list, hlist, hcoherent⟩
  have hfinal : "31" ∈ ids (crossing 1).final := by decide
  have hpresent := hcoherent.present _ (List.mem_singleton_self _) hfinal
  rw [done_state] at hlist
  have hcaught : (crossing 1).caught = [{ id := "30", content := "first" }] := by decide
  rw [← Option.some.inj hlist, hcaught] at hpresent
  revert hpresent
  decide

end LoadRace

end Vokusz.Client
