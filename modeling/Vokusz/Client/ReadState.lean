import Mathlib.Data.Finset.Card
import Vokusz.Lib.HighWater

namespace Vokusz.Client.ReadState

open Lib.HighWater (Orders Marks atOrBefore raised)

section

def codeUnits (s : String) : List Nat :=
  s.toList.flatMap (fun c =>
    if c.toNat < 0x10000 then [c.toNat]
    else [0xD800 + (c.toNat - 0x10000) / 0x400, 0xDC00 + (c.toNat - 0x10000) % 0x400])

def compareTo (a b : String) : Ordering := compare (codeUnits a) (codeUnits b)

def snowflakePart (id : String) : String := String.ofList (id.toList.takeWhile (fun c => c ≠ '@'))

def compareMessageIds (tryParse : String → Option Int) (a b : String) : Ordering :=
  match tryParse (snowflakePart a), tryParse (snowflakePart b) with
  | some left, some right => (compare left right).then (compareTo a b)
  | _, _ => compareTo a b

def Snowflake (tryParse : String → Option Int) (id : String) : Prop :=
  id ≠ "" ∧ (tryParse (snowflakePart id)).isSome

instance (tryParse : String → Option Int) (id : String) : Decidable (Snowflake tryParse id) := by
  unfold Snowflake
  infer_instance

variable {tryParse : String → Option Int} {a b c : String}

def number (tryParse : String → Option Int) (id : String) : Int :=
  (tryParse (snowflakePart id)).getD 0

def idOrder (tryParse : String → Option Int) : String → String → Ordering :=
  compareLex (compareOn (number tryParse)) (compareOn codeUnits)

instance : Std.TransCmp (idOrder tryParse) :=
  inferInstanceAs (Std.TransCmp (compareLex (compareOn (number tryParse)) (compareOn codeUnits)))

theorem compareMessageIds_eq (ha : Snowflake tryParse a) (hb : Snowflake tryParse b) :
    compareMessageIds tryParse a b = idOrder tryParse a b := by
  obtain ⟨left, hleft⟩ := Option.isSome_iff_exists.mp ha.2
  obtain ⟨right, hright⟩ := Option.isSome_iff_exists.mp hb.2
  simp only [compareMessageIds, hleft, hright, idOrder, compareLex, compareOn, number,
    Option.getD_some]
  rfl

theorem orders_compareMessageIds (tryParse : String → Option Int) :
    Orders (compareMessageIds tryParse) (Snowflake tryParse) where
  refl := by
    intro a ha
    rw [compareMessageIds_eq ha ha]
    exact Std.ReflCmp.isLE_rfl
  total := by
    intro a b ha hb hnot
    rw [compareMessageIds_eq ha hb] at hnot
    rw [compareMessageIds_eq hb ha]
    have hswap : idOrder tryParse a b = (idOrder tryParse b a).swap := Std.OrientedCmp.eq_swap
    rw [hswap] at hnot
    revert hnot
    cases idOrder tryParse b a <;> simp
  trans := by
    intro a b c ha hb hc hab hbc
    rw [compareMessageIds_eq ha hb] at hab
    rw [compareMessageIds_eq hb hc] at hbc
    rw [compareMessageIds_eq ha hc]
    exact Std.TransCmp.isLE_trans hab hbc

end

structure ReadEntry where
  channelId : String
  spaceId : Option String := none
  mentions : Nat := 0
  lastMessageId : Option String := none
  lastReadMessageId : Option String := none
  deriving DecidableEq, Repr

abbrev Positions := String → Option String

structure ReadStateController where
  latest : Positions := fun _ => none
  received : Positions := fun _ => none
  readThrough : Positions := fun _ => none
  syncedThrough : Positions := fun _ => none
  pending : Positions := fun _ => none
  mentionIds : String → Option (List String) := fun _ => none
  entries : String → Option ReadEntry := fun _ => none

section

variable (tryParse : String → Option Int)

def advance (positions : Positions) (channelId id : String) : Positions :=
  if id = "" ∨ atOrBefore (compareMessageIds tryParse) id (positions channelId) = true then
    positions
  else Function.update positions channelId (some id)

namespace ReadStateController

variable (t : ReadStateController)

def isUnread (channelId : String) : Bool := (t.entries channelId).isSome

def mentionCount (channelId : String) : Nat := ((t.entries channelId).map ReadEntry.mentions).getD 0

def receiveMessage (channelId messageId : String) : Bool × ReadStateController :=
  let previous := t.received channelId
  let t := { t with latest := advance tryParse t.latest channelId messageId }
  if atOrBefore (compareMessageIds tryParse) messageId previous then (false, t)
  else
    (!atOrBefore (compareMessageIds tryParse) messageId (t.readThrough channelId),
      { t with received := advance tryParse t.received channelId messageId })

def bump (channelId : String) (spaceId : Option String) (isMention : Bool) : ReadStateController :=
  let existing := t.entries channelId
  { t with
    entries := Function.update t.entries channelId (some
      { channelId := channelId
        spaceId := spaceId.or (existing.bind ReadEntry.spaceId)
        mentions := (existing.map ReadEntry.mentions).getD 0 + if isMention then 1 else 0
        lastMessageId := t.latest channelId }) }

def markUnread (channelId : String) (spaceId : Option String) (isMention : Bool)
    (messageId : Option String) : ReadStateController :=
  if channelId = "" then t
  else
    match messageId with
    | none => t.bump channelId spaceId isMention
    | some id =>
      let t := { t with latest := advance tryParse t.latest channelId id }
      if atOrBefore (compareMessageIds tryParse) id (t.readThrough channelId) then t
      else if isMention then
        let mentions := (t.mentionIds channelId).getD []
        if id ∈ mentions then t
        else
          { t with
            mentionIds := Function.update t.mentionIds channelId (some (id :: mentions)) }.bump
              channelId spaceId isMention
      else t.bump channelId spaceId isMention

def clearThrough (channelId : String) (position : Option String) (existing : ReadEntry) :
    ReadStateController :=
  let latest := existing.lastMessageId.or (t.latest channelId)
  match position, latest with
  | some position, some latest =>
    if (compareMessageIds tryParse latest position).isGT then
      let mentions := (t.mentionIds channelId).getD []
      let left := mentions.filter (fun id => !(compareMessageIds tryParse id position).isLE)
      { t with
        mentionIds := Function.update t.mentionIds channelId
          ((t.mentionIds channelId).map (fun _ => left))
        entries := Function.update t.entries channelId (some
          { existing with mentions := existing.mentions - (mentions.length - left.length) }) }
    else
      { t with
        mentionIds := Function.update t.mentionIds channelId none
        entries := Function.update t.entries channelId none }
  | _, _ =>
    { t with
      mentionIds := Function.update t.mentionIds channelId none
      entries := Function.update t.entries channelId none }

def markRead (channelId : String) (messageId : Option String) : ReadStateController :=
  let position := messageId.or (t.latest channelId)
  let t :=
    match position with
    | some position => { t with readThrough := advance tryParse t.readThrough channelId position }
    | none => t
  match t.entries channelId with
  | none => t
  | some existing => t.clearThrough tryParse channelId position existing

def applyRemoteRead (channelId messageId : String) : ReadStateController :=
  { t with syncedThrough := advance tryParse t.syncedThrough channelId messageId }.markRead
    tryParse channelId (some messageId)

def acknowledge (channelId : String) (messageId : Option String) : ReadStateController :=
  let t := t.markRead tryParse channelId messageId
  match messageId with
  | none => t
  | some id =>
    if id = "" ∨ atOrBefore (compareMessageIds tryParse) id (t.syncedThrough channelId) = true then
      t
    else { t with pending := advance tryParse t.pending channelId id }

end ReadStateController

inductive Event where
  | message (channelId messageId : String) (spaceId : Option String)
  | acknowledge (channelId : String) (messageId : Option String)
  | readStateUpdate (channelId messageId : String)
  deriving DecidableEq, Repr

def handle (countsAsMention : String → String → Bool) (t : ReadStateController) :
    Event → ReadStateController
  | .message channelId messageId spaceId =>
    let (fresh, t) := t.receiveMessage tryParse channelId messageId
    if fresh then
      t.markUnread tryParse channelId spaceId (countsAsMention channelId messageId)
        (some messageId)
    else t
  | .acknowledge channelId messageId => t.acknowledge tryParse channelId messageId
  | .readStateUpdate channelId messageId => t.applyRemoteRead tryParse channelId messageId

def run (countsAsMention : String → String → Bool) (events : List Event) : ReadStateController :=
  events.foldl (handle tryParse countsAsMention) {}

end

structure History where
  delivered : List String := []
  acknowledged : List String := []
  deriving DecidableEq, Repr

namespace History

variable (channelId : String) (h : History)

def after : Event → History
  | .message channel id _ =>
    if channel = channelId then { h with delivered := id :: h.delivered } else h
  | .acknowledge channel id =>
    if channel = channelId then
      match id with
      | some id => { h with acknowledged := id :: h.acknowledged }
      | none => { h with acknowledged := h.delivered ++ h.acknowledged }
    else h
  | .readStateUpdate channel id =>
    if channel = channelId then { h with acknowledged := id :: h.acknowledged } else h

def of (events : List Event) : History := events.foldl (after channelId) {}

variable (tryParse : String → Option Int)

def Above (id : String) : Prop :=
  ∀ position ∈ h.acknowledged, (compareMessageIds tryParse id position).isLE = false

instance (id : String) : Decidable (h.Above tryParse id) := by
  unfold Above
  infer_instance

end History

section

variable (tryParse : String → Option Int) (countsAsMention : String → String → Bool)
  (channelId : String)

structure Agrees (h : History) (t : ReadStateController) : Prop where
  unread : t.isUnread channelId = true ↔ ∃ id ∈ h.delivered, h.Above tryParse id
  mentions : t.mentionCount channelId =
    (h.delivered.toFinset.filter (fun id =>
      countsAsMention channelId id = true ∧ h.Above tryParse id)).card

def Timely (h : History) : Event → Prop
  | .message channel id _ =>
    channel = channelId → countsAsMention channelId id = true → h.Above tryParse id →
      id ∈ h.delivered ∨ ∀ d ∈ h.delivered, (compareMessageIds tryParse id d).isLE = false
  | _ => True

def Event.Wellformed : Event → Prop
  | .message _ id _ => Snowflake tryParse id
  | .acknowledge _ position => ∀ id ∈ position, Snowflake tryParse id
  | .readStateUpdate _ id => Snowflake tryParse id

end

section

variable {tryParse : String → Option Int} {countsAsMention : String → String → Bool}
  {channelId : String} {h : History} {t : ReadStateController} {id : String}

def pendingMentions (t : ReadStateController) (channelId : String) : List String :=
  (t.mentionIds channelId).getD []

structure Tracks (tryParse : String → Option Int) (countsAsMention : String → String → Bool)
    (channelId : String) (h : History) (t : ReadStateController) : Prop where
  latest : Marks (compareMessageIds tryParse) (Snowflake tryParse) (t.latest channelId) h.delivered
  received : t.received channelId = t.latest channelId
  readThrough : Marks (compareMessageIds tryParse) (Snowflake tryParse) (t.readThrough channelId)
    h.acknowledged
  unread : (t.entries channelId).isSome = true ↔ ∃ id ∈ h.delivered, h.Above tryParse id
  lastMessageId : ∀ e ∈ t.entries channelId, e.lastMessageId = t.latest channelId
  mentions : ∀ e ∈ t.entries channelId, e.mentions = (pendingMentions t channelId).length
  nodup : (pendingMentions t channelId).Nodup
  mem_mentions : ∀ id, id ∈ pendingMentions t channelId ↔
    id ∈ h.delivered ∧ countsAsMention channelId id = true ∧ h.Above tryParse id

theorem tracks_init : Tracks tryParse countsAsMention channelId {} {} where
  latest := Marks.nil
  received := rfl
  readThrough := Marks.nil
  unread := by simp
  lastMessageId := by simp
  mentions := by simp
  nodup := List.nodup_nil
  mem_mentions := by simp [pendingMentions]

section

variable (ht : Tracks tryParse countsAsMention channelId h t)

include ht

theorem Tracks.pending_eq_nil (hentry : t.entries channelId = none) :
    pendingMentions t channelId = [] := by
  apply List.eq_nil_iff_forall_not_mem.mpr
  intro id hid
  obtain ⟨hdelivered, _, habove⟩ := (ht.mem_mentions id).mp hid
  have hsome := ht.unread.mpr ⟨id, hdelivered, habove⟩
  simp [hentry] at hsome

theorem Tracks.mentionCount_eq :
    t.mentionCount channelId = (pendingMentions t channelId).length := by
  unfold ReadStateController.mentionCount
  cases hentry : t.entries channelId with
  | none => simp [ht.pending_eq_nil hentry]
  | some e => simpa using ht.mentions e hentry

theorem Tracks.agrees :
    Agrees tryParse countsAsMention channelId h t where
  unread := ht.unread
  mentions := by
    rw [ht.mentionCount_eq, ← List.toFinset_card_of_nodup ht.nodup]
    congr 1
    ext id
    simp [ht.mem_mentions]

end

abbrev Within (tryParse : String → Option Int) (id : String) (position : Option String) : Prop :=
  atOrBefore (compareMessageIds tryParse) id position = true

abbrev IdMarks (tryParse : String → Option Int) : Option String → List String → Prop :=
  Marks (compareMessageIds tryParse) (Snowflake tryParse)

section

variable {a b : String}

theorem above_iff {position : Option String}
    (hread : IdMarks tryParse position h.acknowledged)
    (hid : Snowflake tryParse id) :
    h.Above tryParse id ↔ ¬ Within tryParse id position := by
  rw [Within, hread.below hid]
  simp [History.Above]

theorem above_mono (hack : ∀ p ∈ h.acknowledged, Snowflake tryParse p)
    (ha : Snowflake tryParse a) (hb : Snowflake tryParse b) (habove : h.Above tryParse a)
    (hle : (compareMessageIds tryParse a b).isLE = true) : h.Above tryParse b := by
  intro p hp
  cases hbp : (compareMessageIds tryParse b p).isLE with
  | false => rfl
  | true =>
    have hap := (orders_compareMessageIds tryParse).trans ha hb (hack p hp) hle hbp
    have hnot := habove p hp
    simp [hap] at hnot

theorem advance_same (hid : id ≠ "") (positions : Positions) :
    advance tryParse positions channelId id channelId =
      raised (compareMessageIds tryParse) (positions channelId) id := by
  unfold advance raised
  simp only [hid, false_or]
  split
  · rfl
  · exact Function.update_self ..

theorem advance_other {channel : String} (hne : channel ≠ channelId) (positions : Positions)
    (id : String) : advance tryParse positions channel id channelId = positions channelId := by
  unfold advance
  split
  · rfl
  · exact Function.update_of_ne hne.symm ..

end

section

def view (channelId : String) (t : ReadStateController) :
    Option String × Option String × Option String × Option (List String) × Option ReadEntry :=
  (t.latest channelId, t.received channelId, t.readThrough channelId, t.mentionIds channelId,
    t.entries channelId)

theorem Tracks.of_view {u : ReadStateController} (hview : view channelId u = view channelId t)
    (ht : Tracks tryParse countsAsMention channelId h t) :
    Tracks tryParse countsAsMention channelId h u := by
  simp only [view, Prod.mk.injEq] at hview
  obtain ⟨hlatest, hreceived, hread, hmentions, hentries⟩ := hview
  have hpending : pendingMentions u channelId = pendingMentions t channelId := by
    simp [pendingMentions, hmentions]
  constructor
  · rw [hlatest]
    exact ht.latest
  · rw [hreceived, hlatest]
    exact ht.received
  · rw [hread]
    exact ht.readThrough
  · rw [hentries]
    exact ht.unread
  · rw [hentries, hlatest]
    exact ht.lastMessageId
  · rw [hentries, hpending]
    exact ht.mentions
  · rw [hpending]
    exact ht.nodup
  · rw [hpending]
    exact ht.mem_mentions

variable {channel : String} (hne : channel ≠ channelId)

include hne

theorem view_receiveMessage :
    view channelId (t.receiveMessage tryParse channel id).2 = view channelId t := by
  unfold ReadStateController.receiveMessage
  dsimp only
  split
  · simp [view, advance_other hne]
  · simp [view, advance_other hne]

theorem view_bump (spaceId : Option String) (isMention : Bool) :
    view channelId (t.bump channel spaceId isMention) = view channelId t := by
  simp [view, ReadStateController.bump, Function.update_of_ne hne.symm]

theorem view_markUnread (spaceId : Option String) (isMention : Bool) :
    view channelId (t.markUnread tryParse channel spaceId isMention (some id)) =
      view channelId t := by
  unfold ReadStateController.markUnread
  dsimp only
  split
  · rfl
  · split
    · simp [view, advance_other hne]
    · split
      · split
        · simp [view, advance_other hne]
        · rw [view_bump hne]
          simp [view, advance_other hne, Function.update_of_ne hne.symm]
      · rw [view_bump hne]
        simp [view, advance_other hne]

theorem view_clearThrough (position : Option String) (existing : ReadEntry) :
    view channelId (t.clearThrough tryParse channel position existing) = view channelId t := by
  unfold ReadStateController.clearThrough
  dsimp only
  split
  · split
    · simp [view, Function.update_of_ne hne.symm]
    · simp [view, Function.update_of_ne hne.symm]
  · simp [view, Function.update_of_ne hne.symm]

theorem view_markRead (position : Option String) :
    view channelId (t.markRead tryParse channel position) = view channelId t := by
  unfold ReadStateController.markRead
  dsimp only
  split
  · cases position.or (t.latest channel) with
    | none => rfl
    | some p => simp [view, advance_other hne]
  · rw [view_clearThrough hne]
    cases position.or (t.latest channel) with
    | none => rfl
    | some p => simp [view, advance_other hne]

end

section

variable (ht : Tracks tryParse countsAsMention channelId h t) (hid : Snowflake tryParse id)

include ht hid

theorem Tracks.latest_raised :
    IdMarks tryParse (raised (compareMessageIds tryParse) (t.latest channelId) id) (id :: h.delivered) :=
  ht.latest.cons (orders_compareMessageIds tryParse) hid

section

variable (hbefore : Within tryParse id (t.received channelId))

include hbefore

theorem Tracks.exists_delivered_le :
    ∃ d ∈ h.delivered, (compareMessageIds tryParse id d).isLE = true := by
  rw [ht.received] at hbefore
  exact (ht.latest.below hid).mp hbefore

theorem Tracks.unread_of_before :
    (t.entries channelId).isSome = true ↔ ∃ d ∈ id :: h.delivered, h.Above tryParse d := by
  rw [ht.unread]
  constructor
  · rintro ⟨d, hd, habove⟩
    exact ⟨d, List.mem_cons_of_mem id hd, habove⟩
  · rintro ⟨d, hd, habove⟩
    rcases List.mem_cons.mp hd with rfl | hd
    · obtain ⟨e, he, hle⟩ := ht.exists_delivered_le hid hbefore
      exact ⟨e, he, above_mono ht.readThrough.ids_ok hid (ht.latest.ids_ok e he) habove hle⟩
    · exact ⟨d, hd, habove⟩

theorem Tracks.replayed
    (hseen : countsAsMention channelId id = true → h.Above tryParse id → id ∈ h.delivered) :
    Tracks tryParse countsAsMention channelId { h with delivered := id :: h.delivered } t where
  latest := by
    have hraised := ht.latest_raised hid
    rwa [Lib.HighWater.raised_of_atOrBefore (by rwa [← ht.received])] at hraised
  received := ht.received
  readThrough := ht.readThrough
  unread := ht.unread_of_before hid hbefore
  lastMessageId := ht.lastMessageId
  mentions := ht.mentions
  nodup := ht.nodup
  mem_mentions := by
    intro d
    rw [ht.mem_mentions]
    constructor
    · rintro ⟨hd, hmention, habove⟩
      exact ⟨List.mem_cons_of_mem id hd, hmention, habove⟩
    · rintro ⟨hd, hmention, habove⟩
      rcases List.mem_cons.mp hd with rfl | hd
      · exact ⟨hseen hmention habove, hmention, habove⟩
      · exact ⟨hd, hmention, habove⟩

end

theorem Tracks.not_agrees_of_late
    (hmention : countsAsMention channelId id = true) (habove : h.Above tryParse id)
    (hnew : id ∉ h.delivered) :
    ¬ Agrees tryParse countsAsMention channelId { h with delivered := id :: h.delivered } t := by
  intro hagrees
  have hcount := hagrees.mentions
  have hold := ht.agrees.mentions
  have hinsert : ((id :: h.delivered).toFinset.filter (fun d =>
      countsAsMention channelId d = true ∧ h.Above tryParse d)) =
      insert id (h.delivered.toFinset.filter (fun d =>
        countsAsMention channelId d = true ∧ h.Above tryParse d)) := by
    rw [List.toFinset_cons, Finset.filter_insert, if_pos ⟨hmention, habove⟩]
  have hfresh : id ∉ h.delivered.toFinset.filter (fun d =>
      countsAsMention channelId d = true ∧ h.Above tryParse d) := by
    simp [hnew]
  change t.mentionCount channelId = ((id :: h.delivered).toFinset.filter (fun d =>
    countsAsMention channelId d = true ∧ h.Above tryParse d)).card at hcount
  rw [hinsert, Finset.card_insert_of_notMem hfresh, hold] at hcount
  omega

theorem Tracks.entries_of_read
    (hafter : ¬ Within tryParse id (t.received channelId))
    (hread : Within tryParse id (t.readThrough channelId)) :
    t.entries channelId = none := by
  cases hentry : t.entries channelId with
  | none => rfl
  | some e =>
    obtain ⟨d, hd, habove⟩ := ht.unread.mp (by simp [hentry])
    have hdok := ht.latest.ids_ok d hd
    have hle : (compareMessageIds tryParse d id).isLE = true := by
      apply (orders_compareMessageIds tryParse).total hid hdok
      intro hle
      rw [ht.received] at hafter
      exact hafter ((ht.latest.below hid).mpr ⟨d, hd, hle⟩)
    have hidAbove := above_mono ht.readThrough.ids_ok hdok hid habove hle
    exact absurd hread ((above_iff ht.readThrough hid).mp hidAbove)

theorem Tracks.not_pending
    (hafter : ¬ Within tryParse id (t.received channelId)) :
    id ∉ pendingMentions t channelId := by
  intro hmem
  obtain ⟨hd, _⟩ := (ht.mem_mentions id).mp hmem
  rw [ht.received] at hafter
  exact hafter ((ht.latest.below hid).mpr ⟨id, hd, (orders_compareMessageIds tryParse).refl hid⟩)

structure Advanced (tryParse : String → Option Int) (channelId id : String)
    (t u : ReadStateController) : Prop where
  latest : u.latest channelId = raised (compareMessageIds tryParse) (t.latest channelId) id
  received : u.received channelId = raised (compareMessageIds tryParse) (t.received channelId) id
  readThrough : u.readThrough channelId = t.readThrough channelId

variable {u : ReadStateController} (hu : Advanced tryParse channelId id t u)

include hu

theorem Tracks.already_read
    (hafter : ¬ Within tryParse id (t.received channelId))
    (hread : Within tryParse id (t.readThrough channelId))
    (hmentionIds : u.mentionIds channelId = t.mentionIds channelId)
    (hentries : u.entries channelId = t.entries channelId) :
    Tracks tryParse countsAsMention channelId { h with delivered := id :: h.delivered } u := by
  have hnone := ht.entries_of_read hid hafter hread
  have hnot : ¬ h.Above tryParse id := by
    intro habove
    exact (above_iff ht.readThrough hid).mp habove hread
  have hpending : pendingMentions u channelId = [] := by
    rw [pendingMentions, hmentionIds]
    exact ht.pending_eq_nil hnone
  have hunread : ¬ ∃ d ∈ h.delivered, h.Above tryParse d := by
    intro hsome
    have hentry := ht.unread.mpr hsome
    simp [hnone] at hentry
  constructor
  · rw [hu.latest]
    exact ht.latest_raised hid
  · rw [hu.received, hu.latest, ht.received]
  · rw [hu.readThrough]
    exact ht.readThrough
  · rw [hentries, hnone]
    constructor
    · intro hfalse
      cases hfalse
    · rintro ⟨d, hd, habove⟩
      rcases List.mem_cons.mp hd with rfl | hd
      · exact absurd habove hnot
      · exact absurd ⟨d, hd, habove⟩ hunread
  · rw [hentries, hnone]
    intro e he
    cases he
  · rw [hentries, hnone]
    intro e he
    cases he
  · rw [hpending]
    exact List.nodup_nil
  · intro d
    rw [hpending]
    constructor
    · intro hfalse
      cases hfalse
    · rintro ⟨hd, _, habove⟩
      rcases List.mem_cons.mp hd with rfl | hd
      · exact absurd habove hnot
      · exact absurd ⟨d, hd, habove⟩ hunread

theorem Tracks.arrived
    (hafter : ¬ Within tryParse id (t.received channelId))
    (hunread : ¬ Within tryParse id (t.readThrough channelId))
    {e : ReadEntry} (hentry : u.entries channelId = some e)
    (hlast : e.lastMessageId = u.latest channelId)
    (hmentions : e.mentions = ((t.entries channelId).map ReadEntry.mentions).getD 0 +
      if countsAsMention channelId id then 1 else 0)
    (hpending : pendingMentions u channelId =
      if countsAsMention channelId id then id :: pendingMentions t channelId
      else pendingMentions t channelId) :
    Tracks tryParse countsAsMention channelId { h with delivered := id :: h.delivered } u := by
  have habove : h.Above tryParse id := (above_iff ht.readThrough hid).mpr hunread
  have hnew := ht.not_pending hid hafter
  have hcount : ((t.entries channelId).map ReadEntry.mentions).getD 0 =
      (pendingMentions t channelId).length := ht.mentionCount_eq
  constructor
  · rw [hu.latest]
    exact ht.latest_raised hid
  · rw [hu.received, hu.latest, ht.received]
  · rw [hu.readThrough]
    exact ht.readThrough
  · rw [hentry]
    exact iff_of_true rfl ⟨id, List.mem_cons_self, habove⟩
  · rintro e' he'
    rw [hentry] at he'
    cases he'
    exact hlast
  · rintro e' he'
    rw [hentry] at he'
    cases he'
    rw [hmentions, hcount, hpending]
    split
    · rfl
    · rfl
  · rw [hpending]
    split
    · exact List.nodup_cons.mpr ⟨hnew, ht.nodup⟩
    · exact ht.nodup
  · intro d
    change d ∈ pendingMentions u channelId ↔
      d ∈ id :: h.delivered ∧ countsAsMention channelId d = true ∧ h.Above tryParse d
    rw [hpending]
    cases hmention : countsAsMention channelId id with
    | true =>
      rw [if_pos rfl, List.mem_cons, List.mem_cons, ht.mem_mentions]
      constructor
      · rintro (rfl | ⟨hd, hrest⟩)
        · exact ⟨.inl rfl, hmention, habove⟩
        · exact ⟨.inr hd, hrest⟩
      · rintro ⟨rfl | hd, hrest⟩
        · exact .inl rfl
        · exact .inr ⟨hd, hrest⟩
    | false =>
      rw [if_neg (by simp), List.mem_cons, ht.mem_mentions]
      constructor
      · rintro ⟨hd, hrest⟩
        exact ⟨.inr hd, hrest⟩
      · rintro ⟨rfl | hd, hrest⟩
        · rw [hmention] at hrest
          cases hrest.1
        · exact ⟨hd, hrest⟩

end

section

variable (ht : Tracks tryParse countsAsMention channelId h t) (hid : Snowflake tryParse id)
  (hchannel : channelId ≠ "") (spaceId : Option String)

theorem receiveMessage_before
    (hbefore : Within tryParse id (t.received channelId)) :
    t.receiveMessage tryParse channelId id =
      (false, { t with latest := advance tryParse t.latest channelId id }) := by
  unfold ReadStateController.receiveMessage
  exact if_pos hbefore

theorem receiveMessage_after
    (hafter : ¬ Within tryParse id (t.received channelId)) :
    t.receiveMessage tryParse channelId id =
      (!atOrBefore (compareMessageIds tryParse) id (t.readThrough channelId),
        { t with
          latest := advance tryParse t.latest channelId id
          received := advance tryParse t.received channelId id }) := by
  unfold ReadStateController.receiveMessage
  exact if_neg hafter

include ht hid

theorem Tracks.view_of_before
    (hbefore : Within tryParse id (t.received channelId)) :
    view channelId (handle tryParse countsAsMention t (.message channelId id spaceId)) =
      view channelId t := by
  rw [handle, receiveMessage_before hbefore]
  rw [ht.received] at hbefore
  simp [view, advance_same hid.1, Lib.HighWater.raised_of_atOrBefore hbefore]

structure Marked (tryParse : String → Option Int) (channelId id : String) (isMention : Bool)
    (t u : ReadStateController) : Prop where
  latest : u.latest channelId = raised (compareMessageIds tryParse) (t.latest channelId) id
  received : u.received = t.received
  readThrough : u.readThrough = t.readThrough
  entry : ∃ e, u.entries channelId = some e ∧ e.lastMessageId = u.latest channelId ∧
    e.mentions = ((t.entries channelId).map ReadEntry.mentions).getD 0 + if isMention then 1 else 0
  pending : pendingMentions u channelId =
    if isMention then id :: pendingMentions t channelId else pendingMentions t channelId

omit ht in
theorem marked_markUnread (hchannel : channelId ≠ "")
    (hunread : ¬ Within tryParse id (t.readThrough channelId))
    (hnew : id ∉ pendingMentions t channelId) (isMention : Bool) :
    Marked tryParse channelId id isMention t
      (t.markUnread tryParse channelId spaceId isMention (some id)) := by
  unfold ReadStateController.markUnread
  rw [if_neg hchannel]
  dsimp only
  rw [if_neg hunread]
  cases isMention with
  | false =>
    rw [if_neg (by simp)]
    constructor
    · exact advance_same hid.1 t.latest
    · rfl
    · rfl
    · exact ⟨_, Function.update_self .., rfl, rfl⟩
    · rfl
  | true =>
    have hfresh : id ∉ (t.mentionIds channelId).getD [] := hnew
    rw [if_pos rfl, if_neg hfresh]
    constructor
    · exact advance_same hid.1 t.latest
    · rfl
    · rfl
    · exact ⟨_, Function.update_self .., rfl, rfl⟩
    · simp [pendingMentions, ReadStateController.bump]

theorem Tracks.message_after (hchannel : channelId ≠ "")
    (hafter : ¬ Within tryParse id (t.received channelId)) :
    Tracks tryParse countsAsMention channelId { h with delivered := id :: h.delivered }
      (handle tryParse countsAsMention t (.message channelId id spaceId)) := by
  rw [handle, receiveMessage_after hafter]
  dsimp only
  cases hread : atOrBefore (compareMessageIds tryParse) id (t.readThrough channelId) with
  | true =>
    rw [if_neg (by simp)]
    exact ht.already_read hid ⟨advance_same hid.1 _, advance_same hid.1 _, rfl⟩ hafter hread rfl rfl
  | false =>
    rw [if_pos (by simp)]
    let s : ReadStateController :=
      { t with
        latest := advance tryParse t.latest channelId id
        received := advance tryParse t.received channelId id }
    have hmarked : Marked tryParse channelId id (countsAsMention channelId id) s _ :=
      marked_markUnread (t := s) hid spaceId hchannel (by simp [s, hread])
        (ht.not_pending hid hafter) (countsAsMention channelId id)
    have hs : s.latest channelId = some id := by
      rw [ht.received] at hafter
      exact (advance_same hid.1 t.latest).trans (Lib.HighWater.raised_of_after hafter)
    have hlatest : raised (compareMessageIds tryParse) (s.latest channelId) id =
        raised (compareMessageIds tryParse) (t.latest channelId) id := by
      rw [← advance_same hid.1 t.latest]
      apply Lib.HighWater.raised_of_atOrBefore
      rw [hs]
      exact (orders_compareMessageIds tryParse).refl hid
    obtain ⟨e, hentry, hlast, hmentions⟩ := hmarked.entry
    have hu : Advanced tryParse channelId id t
        (s.markUnread tryParse channelId spaceId (countsAsMention channelId id) (some id)) := by
      constructor
      · rw [hmarked.latest, hlatest]
      · rw [hmarked.received]
        exact advance_same hid.1 t.received
      · rw [hmarked.readThrough]
    exact ht.arrived hid hu hafter (by simp [hread]) hentry hlast hmentions hmarked.pending

theorem Tracks.message_before (htimely : Timely tryParse countsAsMention channelId h
      (.message channelId id spaceId))
    (hbefore : Within tryParse id (t.received channelId)) :
    Tracks tryParse countsAsMention channelId { h with delivered := id :: h.delivered }
      (handle tryParse countsAsMention t (.message channelId id spaceId)) := by
  apply Tracks.of_view (ht.view_of_before hid spaceId hbefore)
  apply ht.replayed hid hbefore
  intro hmention habove
  rcases htimely rfl hmention habove with hseen | hbeyond
  · exact hseen
  · obtain ⟨d, hd, hle⟩ := ht.exists_delivered_le hid hbefore
    rw [hbeyond d hd] at hle
    cases hle

end

section

variable {p : String} {position : Option String}

structure ReadThrough (tryParse : String → Option Int) (p : String) (h after : History) : Prop where
  delivered : after.delivered = h.delivered
  above : ∀ {id}, Snowflake tryParse id →
    (after.Above tryParse id ↔ h.Above tryParse id ∧ (compareMessageIds tryParse id p).isLE = false)

variable (ht : Tracks tryParse countsAsMention channelId h t)

include ht

section

variable (hok : ∀ id ∈ position, Snowflake tryParse id)
    (hp : position.or (t.latest channelId) = some p)

include hok hp

theorem Tracks.marks_after :
    IdMarks tryParse (raised (compareMessageIds tryParse) (t.readThrough channelId) p)
      (h.after channelId (.acknowledge channelId position)).acknowledged := by
  cases position with
  | some id =>
    cases hp
    simp only [History.after, if_true]
    exact ht.readThrough.cons (orders_compareMessageIds tryParse) (hok p rfl)
  | none =>
    have hlatest := ht.latest
    rw [show t.latest channelId = some p from hp] at hlatest
    simp only [History.after, if_true]
    exact ht.readThrough.append (orders_compareMessageIds tryParse) hlatest

theorem Tracks.snowflake_position : Snowflake tryParse p := by
  cases position with
  | some id =>
    cases hp
    exact hok p rfl
  | none => exact ht.latest.position_ok p hp

theorem Tracks.readThrough_after :
    ReadThrough tryParse p h (h.after channelId (.acknowledge channelId position)) := by
  constructor
  · cases position with
    | some id => simp [History.after]
    | none => simp [History.after]
  · intro id hid
    rw [above_iff (ht.marks_after hok hp) hid, above_iff ht.readThrough hid, Within,
      Lib.HighWater.atOrBefore_raised (orders_compareMessageIds tryParse)
        ht.readThrough.position_ok (ht.snowflake_position hok hp) hid, not_or, and_comm]
    simp only [Bool.not_eq_true]

end

variable {after : History} (hafter : ReadThrough tryParse p h after)

include hafter

theorem Tracks.exists_above_iff (hp : Snowflake tryParse p) {latest : String}
    (hlatest : t.latest channelId = some latest) (hsome : (t.entries channelId).isSome = true) :
    (∃ d ∈ after.delivered, after.Above tryParse d) ↔
      (compareMessageIds tryParse latest p).isLE = false := by
  have horders := orders_compareMessageIds tryParse
  have hlatestOk : Snowflake tryParse latest := ht.latest.position_ok latest hlatest
  have hmarks := ht.latest
  rw [hlatest] at hmarks
  rw [hafter.delivered]
  constructor
  · rintro ⟨d, hd, habove⟩
    have hdok := ht.latest.ids_ok d hd
    have hdp := ((hafter.above hdok).mp habove).2
    have hdl : (compareMessageIds tryParse d latest).isLE = true :=
      (hmarks.below hdok).mpr ⟨d, hd, horders.refl hdok⟩
    cases hlp : (compareMessageIds tryParse latest p).isLE with
    | false => rfl
    | true =>
      rw [horders.trans hdok hlatestOk hp hdl hlp] at hdp
      cases hdp
  · intro hlp
    obtain ⟨d, hd, habove⟩ := ht.unread.mp hsome
    obtain ⟨top, htop, hle⟩ := (hmarks.below hlatestOk).mp (horders.refl hlatestOk)
    have hdok := ht.latest.ids_ok d hd
    have htopOk := ht.latest.ids_ok top htop
    have hdl : (compareMessageIds tryParse d latest).isLE = true :=
      (hmarks.below hdok).mpr ⟨d, hd, horders.refl hdok⟩
    have hdtop := horders.trans hdok hlatestOk htopOk hdl hle
    have htopAbove := above_mono ht.readThrough.ids_ok hdok htopOk habove hdtop
    have htopBeyond : (compareMessageIds tryParse top p).isLE = false := by
      cases htp : (compareMessageIds tryParse top p).isLE with
      | false => rfl
      | true =>
        rw [horders.trans hlatestOk htopOk hp hle htp] at hlp
        cases hlp
    exact ⟨top, htop, (hafter.above htopOk).mpr ⟨htopAbove, htopBeyond⟩⟩

theorem Tracks.through {u : ReadStateController}
    (hread : IdMarks tryParse (u.readThrough channelId)
      after.acknowledged)
    (hlatest : u.latest channelId = t.latest channelId)
    (hreceived : u.received channelId = t.received channelId)
    (hunread : (u.entries channelId).isSome = true ↔
      ∃ d ∈ after.delivered, after.Above tryParse d)
    (hlast : ∀ e ∈ u.entries channelId, e.lastMessageId = t.latest channelId)
    (hpending : pendingMentions u channelId = (pendingMentions t channelId).filter
      (fun id => !(compareMessageIds tryParse id p).isLE))
    (hmentions : ∀ e ∈ u.entries channelId, e.mentions = (pendingMentions u channelId).length) :
    Tracks tryParse countsAsMention channelId after u := by
  constructor
  · rw [hlatest, hafter.delivered]
    exact ht.latest
  · rw [hreceived, hlatest]
    exact ht.received
  · exact hread
  · exact hunread
  · rw [hlatest]
    exact hlast
  · exact hmentions
  · rw [hpending]
    exact ht.nodup.filter _
  · intro id
    rw [hpending, List.mem_filter, ht.mem_mentions, hafter.delivered]
    constructor
    · rintro ⟨⟨hd, hmention, habove⟩, hbeyond⟩
      have hid := ht.latest.ids_ok id hd
      exact ⟨hd, hmention, (hafter.above hid).mpr ⟨habove, by simpa using hbeyond⟩⟩
    · rintro ⟨hd, hmention, habove⟩
      have hid := ht.latest.ids_ok id hd
      obtain ⟨habove, hbeyond⟩ := (hafter.above hid).mp habove
      exact ⟨⟨hd, hmention, habove⟩, by simp [hbeyond]⟩

end

section

variable {position : Option String} (ht : Tracks tryParse countsAsMention channelId h t)
  (hok : ∀ id ∈ position, Snowflake tryParse id)

include ht hok

theorem Tracks.clearThrough {p latest : String} {e : ReadEntry}
    (hp : position.or (t.latest channelId) = some p) (hentry : t.entries channelId = some e)
    (hlatest : t.latest channelId = some latest) :
    Tracks tryParse countsAsMention channelId
      (h.after channelId (.acknowledge channelId position))
      ({ t with readThrough := advance tryParse t.readThrough channelId p }.clearThrough tryParse
        channelId (some p) e) := by
  have hafter := ht.readThrough_after hok hp
  have hpok := ht.snowflake_position hok hp
  have hexists := ht.exists_above_iff hafter hpok hlatest (by simp [hentry])
  have hlast : e.lastMessageId = some latest := (ht.lastMessageId e hentry).trans hlatest
  have hcount := ht.mentions e hentry
  have hmarks : IdMarks tryParse (advance tryParse t.readThrough channelId p channelId)
      (h.after channelId (.acknowledge channelId position)).acknowledged := by
    rw [advance_same hpok.1]
    exact ht.marks_after hok hp
  unfold ReadStateController.clearThrough
  simp only [hlast, Option.some_or]
  cases hgt : (compareMessageIds tryParse latest p).isGT with
  | true =>
    have hle : (compareMessageIds tryParse latest p).isLE = false := by
      revert hgt
      cases compareMessageIds tryParse latest p <;> simp
    rw [if_pos rfl]
    have hpending : ∀ ids : Option (List String),
        (ids.map (fun _ => (ids.getD []).filter
          (fun id => !(compareMessageIds tryParse id p).isLE))).getD [] =
        (ids.getD []).filter (fun id => !(compareMessageIds tryParse id p).isLE) := by
      intro ids
      cases ids <;> rfl
    apply ht.through hafter
    · exact hmarks
    · rfl
    · rfl
    · simp only [Function.update_self]
      exact iff_of_true rfl (hexists.mpr hle)
    · intro e' he'
      simp only [Function.update_self] at he'
      cases he'
      rw [hlatest]
    · simp only [pendingMentions, Function.update_self]
      exact hpending _
    · intro e' he'
      simp only [Function.update_self] at he'
      cases he'
      have hfilter := List.length_filter_le
        (fun id => !(compareMessageIds tryParse id p).isLE) (pendingMentions t channelId)
      simp only [pendingMentions, Function.update_self] at hcount hfilter ⊢
      rw [hpending]
      omega
  | false =>
    have hle : (compareMessageIds tryParse latest p).isLE = true := by
      revert hgt
      cases compareMessageIds tryParse latest p <;> simp
    rw [if_neg (by simp)]
    apply ht.through hafter
    · exact hmarks
    · rfl
    · rfl
    · simp only [Function.update_self]
      constructor
      · intro hfalse
        cases hfalse
      · intro hsome
        rw [hexists.mp hsome] at hle
        cases hle
    · intro e' he'
      simp only [Function.update_self] at he'
      cases he'
    · simp only [pendingMentions, Function.update_self, Option.getD_none]
      symm
      apply List.filter_eq_nil_iff.mpr
      intro id hid
      obtain ⟨hd, _⟩ := (ht.mem_mentions id).mp hid
      have hidok := ht.latest.ids_ok id hd
      have hmarked := ht.latest
      rw [hlatest] at hmarked
      have hlatestOk : Snowflake tryParse latest := hmarked.position_ok latest rfl
      have horders := orders_compareMessageIds tryParse
      have hidl : (compareMessageIds tryParse id latest).isLE = true :=
        (hmarked.below hidok).mpr ⟨id, hd, horders.refl hidok⟩
      simp [horders.trans hidok hlatestOk hpok hidl hle]
    · intro e' he'
      simp only [Function.update_self] at he'
      cases he'

theorem Tracks.markRead :
    Tracks tryParse countsAsMention channelId
      (h.after channelId (.acknowledge channelId position))
      (t.markRead tryParse channelId position) := by
  unfold ReadStateController.markRead
  cases hp : position.or (t.latest channelId) with
  | none =>
    obtain ⟨rfl, hlatest⟩ := Option.or_eq_none_iff.mp hp
    have hmarks := ht.latest
    rw [hlatest] at hmarks
    have hnil := hmarks.eq_nil (orders_compareMessageIds tryParse)
    have hentry : t.entries channelId = none := by
      cases hentry : t.entries channelId with
      | none => rfl
      | some e =>
        obtain ⟨d, hd, _⟩ := ht.unread.mp (by simp [hentry])
        simp [hnil] at hd
    have hsame : h.after channelId (.acknowledge channelId none) = h := by
      simp only [History.after, if_true, hnil, List.nil_append]
      rw [← hnil]
    simp only [hentry, hsame]
    exact ht
  | some p =>
    dsimp only
    cases hentry : t.entries channelId with
    | none =>
      have hafter := ht.readThrough_after hok hp
      have hpok := ht.snowflake_position hok hp
      have hnil := ht.pending_eq_nil hentry
      dsimp only
      apply ht.through hafter
      · dsimp only
        rw [advance_same hpok.1]
        exact ht.marks_after hok hp
      · rfl
      · rfl
      · dsimp only
        rw [hentry]
        constructor
        · intro hfalse
          cases hfalse
        · rintro ⟨d, hd, habove⟩
          rw [hafter.delivered] at hd
          have hdok := ht.latest.ids_ok d hd
          have hsome := ht.unread.mpr ⟨d, hd, ((hafter.above hdok).mp habove).1⟩
          rw [hentry] at hsome
          exact hsome
      · intro e he
        rw [hentry] at he
        cases he
      · rw [hnil]
        exact hnil
      · intro e he
        rw [hentry] at he
        cases he
    | some e =>
      cases hlatest : t.latest channelId with
      | none =>
        have hmarks := ht.latest
        rw [hlatest] at hmarks
        obtain ⟨d, hd, _⟩ := ht.unread.mp (by simp [hentry])
        rw [hmarks.eq_nil (orders_compareMessageIds tryParse)] at hd
        cases hd
      | some latest => exact ht.clearThrough hok hp hentry hlatest

end

theorem view_acknowledge (channel : String) (position : Option String) :
    view channelId (t.acknowledge tryParse channel position) =
      view channelId (t.markRead tryParse channel position) := by
  unfold ReadStateController.acknowledge
  cases position with
  | none => rfl
  | some id =>
    dsimp only
    split
    · rfl
    · rfl

theorem Tracks.other {e : Event} (ht : Tracks tryParse countsAsMention channelId h t)
    (hview : view channelId (handle tryParse countsAsMention t e) = view channelId t)
    (hafter : h.after channelId e = h) :
    Tracks tryParse countsAsMention channelId (h.after channelId e)
      (handle tryParse countsAsMention t e) := by
  rw [hafter]
  exact Tracks.of_view hview ht

theorem view_handle_message {channel : String} (hne : channel ≠ channelId)
    (spaceId : Option String) :
    view channelId (handle tryParse countsAsMention t (.message channel id spaceId)) =
      view channelId t := by
  have hreceive : view channelId (t.receiveMessage tryParse channel id).2 = view channelId t :=
    view_receiveMessage hne
  rw [handle]
  cases hreceived : t.receiveMessage tryParse channel id with
  | mk fresh u =>
    rw [hreceived] at hreceive
    dsimp only
    split
    · exact (view_markUnread hne spaceId _).trans hreceive
    · exact hreceive

theorem Tracks.step {e : Event} (ht : Tracks tryParse countsAsMention channelId h t)
    (hchannel : channelId ≠ "") (hformed : e.Wellformed tryParse)
    (htimely : Timely tryParse countsAsMention channelId h e) :
    Tracks tryParse countsAsMention channelId (h.after channelId e)
      (handle tryParse countsAsMention t e) := by
  cases e with
  | message channel id spaceId =>
    by_cases hsame : channel = channelId
    · subst hsame
      have hdelivered : h.after channel (.message channel id spaceId) =
          { h with delivered := id :: h.delivered } := if_pos rfl
      rw [hdelivered]
      cases hbefore : atOrBefore (compareMessageIds tryParse) id (t.received channel) with
      | true => exact ht.message_before hformed spaceId htimely hbefore
      | false => exact ht.message_after hformed spaceId hchannel (by simp [hbefore])
    · exact ht.other (view_handle_message hsame spaceId) (if_neg hsame)
  | acknowledge channel position =>
    by_cases hsame : channel = channelId
    · subst hsame
      exact Tracks.of_view (view_acknowledge channel position) (ht.markRead hformed)
    · exact ht.other ((view_acknowledge channel position).trans (view_markRead hsame position))
        (if_neg hsame)
  | readStateUpdate channel id =>
    let synced : ReadStateController :=
      { t with syncedThrough := advance tryParse t.syncedThrough channel id }
    by_cases hsame : channel = channelId
    · subst hsame
      have hview : view channel synced = view channel t := rfl
      have hposition : ∀ p ∈ some id, Snowflake tryParse p := by
        rintro p ⟨⟩
        exact hformed
      exact (ht.of_view hview).markRead hposition
    · exact ht.other (view_markRead (t := synced) hsame (some id)) (if_neg hsame)

theorem Agrees.of_view {u : ReadStateController} (hview : view channelId u = view channelId t)
    (ha : Agrees tryParse countsAsMention channelId h t) :
    Agrees tryParse countsAsMention channelId h u := by
  simp only [view, Prod.mk.injEq] at hview
  obtain ⟨_, _, _, _, hentries⟩ := hview
  constructor
  · rw [ReadStateController.isUnread, hentries]
    exact ha.unread
  · rw [ReadStateController.mentionCount, hentries]
    exact ha.mentions

theorem run_concat (events : List Event) (e : Event) :
    run tryParse countsAsMention (events ++ [e]) =
      handle tryParse countsAsMention (run tryParse countsAsMention events) e := by
  simp [run]

theorem of_concat (events : List Event) (e : Event) :
    History.of channelId (events ++ [e]) = (History.of channelId events).after channelId e := by
  simp [History.of]

def AllTimely (tryParse : String → Option Int) (countsAsMention : String → String → Bool)
    (channelId : String) (events : List Event) : Prop :=
  ∀ before e, before ++ [e] <+: events →
    Timely tryParse countsAsMention channelId (History.of channelId before) e

theorem tracks_run (hchannel : channelId ≠ "") {events : List Event}
    (hformed : ∀ e ∈ events, e.Wellformed tryParse)
    (htimely : AllTimely tryParse countsAsMention channelId events) :
    Tracks tryParse countsAsMention channelId (History.of channelId events)
      (run tryParse countsAsMention events) := by
  induction events using List.reverseRecOn with
  | nil => exact tracks_init
  | append_singleton events e ih =>
    rw [run_concat, of_concat]
    apply Tracks.step
    · apply ih
      · intro d hd
        exact hformed d (List.mem_append_left [e] hd)
      · intro before d hstart
        exact htimely before d (hstart.trans (List.prefix_append events [e]))
    · exact hchannel
    · exact hformed e (by simp)
    · exact htimely events e (List.prefix_refl _)

theorem Tracks.not_agrees_of_untimely {e : Event}
    (ht : Tracks tryParse countsAsMention channelId h t) (hformed : e.Wellformed tryParse)
    (huntimely : ¬ Timely tryParse countsAsMention channelId h e) :
    ¬ Agrees tryParse countsAsMention channelId (h.after channelId e)
      (handle tryParse countsAsMention t e) := by
  cases e with
  | message channel id spaceId =>
    simp only [Timely, not_forall, not_or] at huntimely
    obtain ⟨rfl, hmention, habove, hnew, hbeyond⟩ := huntimely
    have hdelivered : h.after channel (.message channel id spaceId) =
        { h with delivered := id :: h.delivered } := if_pos rfl
    have hbefore : Within tryParse id (t.received channel) := by
      obtain ⟨d, hd, hle⟩ := hbeyond
      rw [ht.received]
      exact (ht.latest.below hformed).mpr ⟨d, hd, by rwa [Bool.not_eq_false] at hle⟩
    have hview := ht.view_of_before hformed spaceId hbefore
    rw [hdelivered]
    intro hagrees
    exact ht.not_agrees_of_late hformed hmention habove hnew (hagrees.of_view hview.symm)
  | acknowledge channel position => exact absurd trivial huntimely
  | readStateUpdate channel id => exact absurd trivial huntimely

theorem tracker_agrees_iff (hchannel : channelId ≠ "") {events : List Event}
    (hformed : ∀ e ∈ events, e.Wellformed tryParse) :
    (∀ before, before <+: events →
      Agrees tryParse countsAsMention channelId (History.of channelId before)
        (run tryParse countsAsMention before)) ↔
      AllTimely tryParse countsAsMention channelId events := by
  constructor
  · intro hagrees
    induction events using List.reverseRecOn with
    | nil =>
      intro before e hstart
      simp at hstart
    | append_singleton events e ih =>
      have htimely := ih (fun d hd => hformed d (List.mem_append_left [e] hd))
        (fun before hstart => hagrees before (hstart.trans (List.prefix_append events [e])))
      have ht := tracks_run hchannel (fun d hd => hformed d (List.mem_append_left [e] hd)) htimely
      intro before d hstart
      rcases List.prefix_concat_iff.mp hstart with heq | hshort
      · obtain ⟨rfl, hd⟩ := List.append_inj' heq rfl
        cases hd
        by_contra huntimely
        have hnot := ht.not_agrees_of_untimely (hformed e (by simp)) huntimely
        rw [← run_concat, ← of_concat] at hnot
        exact hnot (hagrees _ (List.prefix_refl _))
      · exact htimely before d hshort
  · intro htimely before hstart
    apply Tracks.agrees
    apply tracks_run hchannel
    · intro e he
      exact hformed e (hstart.subset he)
    · intro earlier e hearlier
      exact htimely earlier e (hearlier.trans hstart)

def decimal (s : String) : Option Int :=
  if s ≠ "" ∧ s.toList.all Char.isDigit = true then some (Nat.ofDigitChars 10 s.toList 0) else none

def readBetween : List Event :=
  [.message "7" "10" none, .readStateUpdate "7" "10", .message "7" "20" none]

theorem readBetween_wellformed : ∀ e ∈ readBetween, e.Wellformed decimal := by
  have hten : Snowflake decimal "10" := by decide +kernel
  have htwenty : Snowflake decimal "20" := by decide +kernel
  intro e he
  simp only [readBetween, List.mem_cons, List.not_mem_nil, or_false] at he
  rcases he with rfl | rfl | rfl
  · exact hten
  · exact hten
  · exact htwenty

theorem readBetween_timely : AllTimely decimal (fun _ _ => true) "7" readBetween := by
  intro before e hstart
  rcases before with _ | ⟨a, _ | ⟨b, _ | ⟨c, rest⟩⟩⟩
  · simp only [readBetween, List.nil_append, List.cons_prefix_cons] at hstart
    rw [hstart.1]
    intro _ _ _
    exact .inr (by simp [History.of])
  · simp only [readBetween, List.cons_append, List.nil_append, List.cons_prefix_cons] at hstart
    rw [hstart.2.1]
    trivial
  · simp only [readBetween, List.cons_append, List.nil_append, List.cons_prefix_cons] at hstart
    rw [hstart.1, hstart.2.1, hstart.2.2.1]
    intro _ _ _
    exact .inr (by decide +kernel)
  · have hlength := hstart.length_le
    have hthree : readBetween.length = 3 := rfl
    simp only [List.length_append, List.length_cons, List.length_nil, hthree] at hlength
    omega

theorem tracker_agrees_readBetween :
    Agrees decimal (fun _ _ => true) "7" (History.of "7" readBetween)
      (run decimal (fun _ _ => true) readBetween) :=
  (tracker_agrees_iff (by decide) readBetween_wellformed).mpr readBetween_timely
    readBetween List.prefix_rfl

theorem late_mention_lost :
    ¬ Agrees decimal (fun _ _ => true) "7"
      (History.of "7" [.message "7" "20" none, .message "7" "10" none])
      (run decimal (fun _ _ => true) [.message "7" "20" none, .message "7" "10" none]) := by
  intro hagrees
  have hmentions := hagrees.mentions
  revert hmentions
  decide +kernel

end

end Vokusz.Client.ReadState
