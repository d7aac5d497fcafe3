import Mathlib.Data.List.Perm.Basic
import Vokusz.Client.Messages
import Vokusz.Lib.SortOrder

namespace Vokusz.Client.ChannelReorder

open Lib

structure AccordChannel where
  id : String
  type : String := "text"
  position : Option Json := none
  parentId : Option String := none

def parseChannelPosition (c : AccordChannel) : Int := asInt c.position

def AccordChannel.isCategory (c : AccordChannel) : Bool := c.type = "category"

inductive ChannelReorderEntry where
  | category (channel : AccordChannel)
  | channel (channel : AccordChannel) (parentId : Option String)

namespace ChannelReorderEntry

def accordChannel : ChannelReorderEntry → AccordChannel
  | category c => c
  | channel c _ => c

def isCategory : ChannelReorderEntry → Bool
  | category _ => true
  | channel _ _ => false

def parentId : ChannelReorderEntry → Option String
  | category _ => none
  | channel _ parentId => parentId

end ChannelReorderEntry

structure ChannelPositionUpdate where
  channelId : String
  position : Nat
  parentId : Option String := none
  includeParent : Bool := false

def categoriesOf (sorted : List AccordChannel) : List AccordChannel :=
  sorted.filter AccordChannel.isCategory

def leavesOf (sorted : List AccordChannel) : List AccordChannel :=
  sorted.filter (fun c => !c.isCategory)

def byParent (leaves : List AccordChannel) (parentId : Option String) : List AccordChannel :=
  leaves.filter (fun c => c.parentId = parentId)

def entriesUnder (leaves : List AccordChannel) (parentId : Option String) :
    List ChannelReorderEntry :=
  (byParent leaves parentId).map (ChannelReorderEntry.channel · parentId)

def flattenChannelsForReorder (order : SortOrder parseChannelPosition)
    (uncategorizedFirst : Bool) (channels : List AccordChannel) : List ChannelReorderEntry :=
  let sorted := order.sort channels
  let categories := categoriesOf sorted
  let leaves := leavesOf sorted
  let uncategorized := entriesUnder leaves none
  let out := categories.flatMap (fun category =>
    ChannelReorderEntry.category category :: entriesUnder leaves (some category.id))
  if uncategorizedFirst then uncategorized ++ out else out ++ uncategorized

def categoryUpdate (channel : AccordChannel) (categoryPos : Nat) : Option ChannelPositionUpdate :=
  if parseChannelPosition channel ≠ categoryPos then
    some { channelId := channel.id, position := categoryPos }
  else none

def channelUpdate (channel : AccordChannel) (parentId : Option String) (pos : Nat) :
    Option ChannelPositionUpdate :=
  let parentChanged := channel.parentId ≠ parentId
  let positionChanged := parseChannelPosition channel ≠ pos
  if parentChanged ∨ positionChanged then
    some { channelId := channel.id, position := pos
           parentId := if parentChanged then parentId else none
           includeParent := parentChanged }
  else none

def diffFrom (categoryPos : Nat) (childPos : Option String → Nat) :
    List ChannelReorderEntry → List ChannelPositionUpdate
  | [] => []
  | .category channel :: entries =>
    (categoryUpdate channel categoryPos).toList ++ diffFrom (categoryPos + 1) childPos entries
  | .channel channel parentId :: entries =>
    let pos := childPos parentId
    (channelUpdate channel parentId pos).toList ++
      diffFrom categoryPos (Function.update childPos parentId (pos + 1)) entries

def diffChannelPositions (entries : List ChannelReorderEntry) : List ChannelPositionUpdate :=
  diffFrom 0 (fun _ => 0) entries

namespace ChannelPositionUpdate

def patch (u : ChannelPositionUpdate) (c : AccordChannel) : AccordChannel :=
  { c with
    position := some (.num u.position)
    parentId := if u.includeParent then u.parentId else c.parentId }

def patchIfIts (u : ChannelPositionUpdate) (c : AccordChannel) : AccordChannel :=
  if c.id = u.channelId then u.patch c else c

end ChannelPositionUpdate

def applyUpdates (updates : List ChannelPositionUpdate) (channels : List AccordChannel) :
    List AccordChannel :=
  updates.foldl (fun channels u => channels.map u.patchIfIts) channels

structure Row where
  id : String
  isCategory : Bool
  parentId : Option String
  deriving DecidableEq, Repr

def Row.bucket (r : Row) : Option (Option String) := if r.isCategory then none else some r.parentId

def ChannelReorderEntry.row (e : ChannelReorderEntry) : Row :=
  { id := e.accordChannel.id, isCategory := e.isCategory, parentId := e.parentId }

def ChannelReorderEntry.kind (e : ChannelReorderEntry) : Bool × AccordChannel :=
  (e.isCategory, e.accordChannel)

structure Layout where
  uncategorized : List AccordChannel
  blocks : List (AccordChannel × List AccordChannel)

def blockEntries (block : AccordChannel × List AccordChannel) : List ChannelReorderEntry :=
  .category block.1 :: block.2.map (ChannelReorderEntry.channel · (some block.1.id))

def Layout.entries (layout : Layout) (uncategorizedFirst : Bool) : List ChannelReorderEntry :=
  let uncategorized := layout.uncategorized.map (ChannelReorderEntry.channel · none)
  let out := layout.blocks.flatMap blockEntries
  if uncategorizedFirst then uncategorized ++ out else out ++ uncategorized

def ReordersBack (order order' : SortOrder parseChannelPosition) (uncategorizedFirst : Bool)
    (channels : List AccordChannel) : Prop :=
  ∀ layout : Layout,
    ((layout.entries uncategorizedFirst).map ChannelReorderEntry.kind).Perm
      ((flattenChannelsForReorder order uncategorizedFirst channels).map
        ChannelReorderEntry.kind) →
    (flattenChannelsForReorder order' uncategorizedFirst
      (applyUpdates (diffChannelPositions (layout.entries uncategorizedFirst)) channels)).map
        ChannelReorderEntry.row = (layout.entries uncategorizedFirst).map ChannelReorderEntry.row

section

variable {order : SortOrder parseChannelPosition} {uncategorizedFirst : Bool}
  {channels : List AccordChannel}

def Homed (channels : List AccordChannel) (c : AccordChannel) : Prop :=
  c.isCategory = true ∨ c.parentId = none ∨
    ∃ category ∈ channels, category.isCategory = true ∧ c.parentId = some category.id

def parents (channels : List AccordChannel) : List (Option String) :=
  none :: (channels.filter AccordChannel.isCategory).map (fun c => some c.id)

theorem homed_iff {c : AccordChannel} :
    Homed channels c ↔ c.isCategory = true ∨ c.parentId ∈ parents channels := by
  simp only [Homed, parents, List.mem_cons, List.mem_map, List.mem_filter]
  constructor
  · rintro (hcategory | hnone | ⟨category, hmem, hkind, hparent⟩)
    · exact .inl hcategory
    · exact .inr (.inl hnone)
    · exact .inr (.inr ⟨category, ⟨hmem, hkind⟩, hparent.symm⟩)
  · rintro (hcategory | hnone | ⟨category, ⟨hmem, hkind⟩, hparent⟩)
    · exact .inl hcategory
    · exact .inr (.inl hnone)
    · exact .inr (.inr ⟨category, hmem, hkind, hparent.symm⟩)

theorem parents_nodup (hids : (channels.map AccordChannel.id).Nodup) :
    (parents channels).Nodup := by
  rw [parents, List.nodup_cons]
  constructor
  · simp
  · have hkept : ((channels.filter AccordChannel.isCategory).map AccordChannel.id).Nodup :=
      hids.sublist (List.filter_sublist.map _)
    have hsome := hkept.map (Option.some_injective String)
    rwa [List.map_map] at hsome

def homed (channels : List AccordChannel) (c : AccordChannel) : Bool :=
  c.isCategory || decide (c.parentId ∈ parents channels)

theorem parents_perm : (parents channels).Perm (parents (order.sort channels)) :=
  (((order.perm channels).filter _).map _).symm.cons none

theorem flatten_channels (leaves : List AccordChannel) (parentId : Option String) :
    (entriesUnder leaves parentId).map ChannelReorderEntry.accordChannel =
      byParent leaves parentId := by
  rw [entriesUnder, List.map_map]
  exact List.map_id _

theorem flatten_perm (hids : (channels.map AccordChannel.id).Nodup) :
    ((flattenChannelsForReorder order uncategorizedFirst channels).map
      ChannelReorderEntry.accordChannel).Perm (channels.filter (homed channels)) := by
  have hnodup : (parents (order.sort channels)).Nodup :=
    parents_perm.nodup_iff.mp (parents_nodup hids)
  have hbuckets : (byParent (leavesOf (order.sort channels)) none ++
      (categoriesOf (order.sort channels)).flatMap (fun category =>
        byParent (leavesOf (order.sort channels)) (some category.id))).Perm
      ((leavesOf (order.sort channels)).filter (fun c => c.parentId ∈ parents channels)) := by
    have hpart := flatMap_filter_perm AccordChannel.parentId hnodup
      (p := fun c => decide (c.parentId ∈ parents channels))
      (fun c => decide_eq_true_iff.trans parents_perm.mem_iff) (leavesOf (order.sort channels))
    rw [parents, List.flatMap_cons, List.flatMap_map] at hpart
    exact hpart
  have hcats := List.map_append_flatMap_perm (categoriesOf (order.sort channels)) id
    (fun category => byParent (leavesOf (order.sort channels)) (some category.id))
  have hparts : ((flattenChannelsForReorder order uncategorizedFirst channels).map
      ChannelReorderEntry.accordChannel).Perm
      (byParent (leavesOf (order.sort channels)) none ++
        (categoriesOf (order.sort channels)).flatMap (fun category =>
          category :: byParent (leavesOf (order.sort channels)) (some category.id))) := by
    have hout : ((categoriesOf (order.sort channels)).flatMap (fun category =>
        ChannelReorderEntry.category category ::
          entriesUnder (leavesOf (order.sort channels)) (some category.id))).map
            ChannelReorderEntry.accordChannel =
        (categoriesOf (order.sort channels)).flatMap (fun category =>
          category :: byParent (leavesOf (order.sort channels)) (some category.id)) := by
      rw [List.map_flatMap]
      apply List.flatMap_congr
      intro category _
      rw [List.map_cons, flatten_channels]
      rfl
    rw [flattenChannelsForReorder]
    cases uncategorizedFirst with
    | true =>
      simp only [if_true, List.map_append, flatten_channels, hout]
      exact List.Perm.refl _
    | false =>
      simp only [Bool.false_eq_true, if_false, List.map_append, flatten_channels, hout]
      exact List.perm_append_comm
  have hcategories : ((order.sort channels).filter (homed channels)).filter
      AccordChannel.isCategory = categoriesOf (order.sort channels) := by
    rw [List.filter_filter, categoriesOf]
    apply List.filter_congr
    intro c _
    cases hkind : c.isCategory <;> simp [homed, hkind]
  have hleaves : ((order.sort channels).filter (homed channels)).filter
      (fun c => !c.isCategory) =
        (leavesOf (order.sort channels)).filter (fun c => c.parentId ∈ parents channels) := by
    rw [List.filter_filter, leavesOf, List.filter_filter]
    apply List.filter_congr
    intro c _
    cases hkind : c.isCategory <;> simp [homed, hkind]
  have hhomed := List.filter_append_perm AccordChannel.isCategory
    ((order.sort channels).filter (homed channels))
  rw [hcategories, hleaves] at hhomed
  rw [List.map_id] at hcats
  have hswap : (byParent (leavesOf (order.sort channels)) none ++
      (categoriesOf (order.sort channels) ++ (categoriesOf (order.sort channels)).flatMap
        (fun category => byParent (leavesOf (order.sort channels)) (some category.id)))).Perm
      (categoriesOf (order.sort channels) ++ (byParent (leavesOf (order.sort channels)) none ++
        (categoriesOf (order.sort channels)).flatMap (fun category =>
          byParent (leavesOf (order.sort channels)) (some category.id)))) := by
    rw [← List.append_assoc, ← List.append_assoc]
    exact List.perm_append_comm.append_right _
  exact hparts.trans ((hcats.symm.append_left _).trans (hswap.trans
    ((hbuckets.append_left _).trans (hhomed.trans ((order.perm channels).filter _)))))

theorem flatten_complete_iff (hids : (channels.map AccordChannel.id).Nodup) :
    ((flattenChannelsForReorder order uncategorizedFirst channels).map
      ChannelReorderEntry.accordChannel).Perm channels ↔ ∀ c ∈ channels, Homed channels c := by
  have hperm := @flatten_perm order uncategorizedFirst _ hids
  have hhomed : ∀ c, homed channels c = true ↔ Homed channels c := by
    intro c
    rw [homed_iff, homed, Bool.or_eq_true, decide_eq_true_eq]
  constructor
  · intro hall c hc
    have hlength := (hperm.symm.trans hall).length_eq
    rw [List.length_filter_eq_length_iff] at hlength
    exact (hhomed c).mp (hlength c hc)
  · intro hall
    have hself : channels.filter (homed channels) = channels :=
      List.filter_eq_self.mpr (fun c hc => (hhomed c).mpr (hall c hc))
    rwa [hself] at hperm

end

section

variable {n : Nat} {childPos : Option String → Nat} {c : AccordChannel}
  {entries : List ChannelReorderEntry} {updates : List ChannelPositionUpdate}

def settle (u : Option ChannelPositionUpdate) (c : AccordChannel) : AccordChannel :=
  u.elim c (fun u => u.patch c)

def settledFrom (categoryPos : Nat) (childPos : Option String → Nat) :
    List ChannelReorderEntry → List ChannelReorderEntry
  | [] => []
  | .category c :: entries =>
    .category (settle (categoryUpdate c categoryPos) c) ::
      settledFrom (categoryPos + 1) childPos entries
  | .channel c parentId :: entries =>
    .channel (settle (channelUpdate c parentId (childPos parentId)) c) parentId ::
      settledFrom categoryPos (Function.update childPos parentId (childPos parentId + 1)) entries

@[simp] theorem settle_id (u : Option ChannelPositionUpdate) (c : AccordChannel) :
    (settle u c).id = c.id := by
  cases u <;> rfl

@[simp] theorem settle_isCategory (u : Option ChannelPositionUpdate) (c : AccordChannel) :
    (settle u c).isCategory = c.isCategory := by
  cases u <;> rfl

theorem settle_categoryUpdate (c : AccordChannel) (n : Nat) :
    parseChannelPosition (settle (categoryUpdate c n) c) = n := by
  rw [categoryUpdate]
  split
  · rfl
  · rename_i hsame
    exact not_not.mp hsame

theorem settle_channelUpdate (c : AccordChannel) (parentId : Option String) (n : Nat) :
    parseChannelPosition (settle (channelUpdate c parentId n) c) = n ∧
      (settle (channelUpdate c parentId n) c).parentId = parentId := by
  rw [channelUpdate]
  by_cases hchanged : c.parentId ≠ parentId ∨ parseChannelPosition c ≠ n
  · simp only [hchanged, if_true, settle, Option.elim_some]
    constructor
    · rfl
    · by_cases hparent : c.parentId = parentId <;> simp [ChannelPositionUpdate.patch, hparent]
  · simp only [hchanged, if_false, settle, Option.elim_none]
    rw [not_or, not_not, not_not] at hchanged
    exact hchanged.symm

def applyAll (updates : List ChannelPositionUpdate) (c : AccordChannel) : AccordChannel :=
  updates.foldl (fun c u => u.patchIfIts c) c

theorem applyUpdates_eq (updates : List ChannelPositionUpdate) (channels : List AccordChannel) :
    applyUpdates updates channels = channels.map (applyAll updates) := by
  induction updates generalizing channels with
  | nil => exact (List.map_id channels).symm
  | cons u updates ih =>
    have hrest := ih (channels.map u.patchIfIts)
    rw [List.map_map] at hrest
    exact hrest

theorem applyAll_of_others (h : ∀ u ∈ updates, u.channelId ≠ c.id) : applyAll updates c = c := by
  induction updates with
  | nil => rfl
  | cons u updates ih =>
    have hskip : u.patchIfIts c = c := if_neg (h u List.mem_cons_self).symm
    rw [applyAll, List.foldl_cons, hskip]
    exact ih (fun u' hu' => h u' (List.mem_cons_of_mem _ hu'))

theorem applyAll_toList {u : Option ChannelPositionUpdate} (h : ∀ u' ∈ u, u'.channelId = c.id) :
    applyAll (u.toList ++ updates) c = applyAll updates (settle u c) := by
  cases u with
  | none => rfl
  | some u =>
    have hits : u.patchIfIts c = u.patch c := if_pos (h u rfl).symm
    change applyAll updates (u.patchIfIts c) = _
    rw [hits]
    rfl

theorem applyAll_toList_of_ne {u : Option ChannelPositionUpdate}
    (h : ∀ u' ∈ u, u'.channelId ≠ c.id) : applyAll (u.toList ++ updates) c = applyAll updates c := by
  cases u with
  | none => rfl
  | some u =>
    have hskip : u.patchIfIts c = c := if_neg (h u rfl).symm
    change applyAll updates (u.patchIfIts c) = _
    rw [hskip]

theorem categoryUpdate_id {u : ChannelPositionUpdate} (h : u ∈ categoryUpdate c n) :
    u.channelId = c.id := by
  rw [categoryUpdate] at h
  split at h
  · cases h
    rfl
  · cases h

theorem channelUpdate_id {u : ChannelPositionUpdate} {parentId : Option String}
    (h : u ∈ channelUpdate c parentId n) : u.channelId = c.id := by
  rw [channelUpdate] at h
  split at h
  · cases h
    rfl
  · cases h

theorem mem_diffFrom {u : ChannelPositionUpdate} (h : u ∈ diffFrom n childPos entries) :
    ∃ e ∈ entries, u.channelId = e.accordChannel.id := by
  induction entries generalizing n childPos with
  | nil => cases h
  | cons e entries ih =>
    cases e with
    | category c =>
      rcases List.mem_append.mp h with hhead | hrest
      · exact ⟨_, List.mem_cons_self, categoryUpdate_id (Option.mem_toList.mp hhead)⟩
      · obtain ⟨e, he, hid⟩ := ih hrest
        exact ⟨e, List.mem_cons_of_mem _ he, hid⟩
    | channel c parentId =>
      rcases List.mem_append.mp h with hhead | hrest
      · exact ⟨_, List.mem_cons_self, channelUpdate_id (Option.mem_toList.mp hhead)⟩
      · obtain ⟨e, he, hid⟩ := ih hrest
        exact ⟨e, List.mem_cons_of_mem _ he, hid⟩

theorem applyAll_diff (u : Option ChannelPositionUpdate) (n : Nat)
    (childPos : Option String → Nat) (hid : ∀ u' ∈ u, u'.channelId = c.id)
    (hothers : ∀ e ∈ entries, c.id ≠ e.accordChannel.id) :
    applyAll (u.toList ++ diffFrom n childPos entries) c = settle u c ∧
      entries.map (fun e => applyAll (u.toList ++ diffFrom n childPos entries) e.accordChannel) =
        entries.map (fun e => applyAll (diffFrom n childPos entries) e.accordChannel) := by
  constructor
  · rw [applyAll_toList hid]
    apply applyAll_of_others
    intro u' hu'
    obtain ⟨e, he, heq⟩ := mem_diffFrom hu'
    rw [heq, settle_id]
    exact (hothers e he).symm
  · apply List.map_congr_left
    intro e he
    apply applyAll_toList_of_ne
    intro u' hu'
    rw [hid u' hu']
    exact hothers e he

theorem applyAll_diffFrom
    (hids : (entries.map (fun e => e.accordChannel.id)).Nodup) :
    entries.map (fun e => applyAll (diffFrom n childPos entries) e.accordChannel) =
      (settledFrom n childPos entries).map ChannelReorderEntry.accordChannel := by
  induction entries generalizing n childPos with
  | nil => rfl
  | cons e entries ih =>
    obtain ⟨hfresh, hrest⟩ := List.nodup_cons.mp hids
    have hothers : ∀ e' ∈ entries, e.accordChannel.id ≠ e'.accordChannel.id := by
      intro e' he' heq
      exact hfresh (List.mem_map.mpr ⟨e', he', heq.symm⟩)
    cases e with
    | category c =>
      obtain ⟨hhead, htail⟩ := applyAll_diff (categoryUpdate c n) (n + 1) childPos
        (fun _ => categoryUpdate_id) hothers
      rw [List.map_cons, settledFrom, List.map_cons, ← ih hrest]
      exact congrArg₂ List.cons hhead htail
    | channel c parentId =>
      obtain ⟨hhead, htail⟩ := applyAll_diff (channelUpdate c parentId (childPos parentId)) n
        (Function.update childPos parentId (childPos parentId + 1)) (fun _ => channelUpdate_id)
        hothers
      rw [List.map_cons, settledFrom, List.map_cons, ← ih hrest]
      exact congrArg₂ List.cons hhead htail

theorem settledFrom_rows (n : Nat) (childPos : Option String → Nat)
    (entries : List ChannelReorderEntry) :
    (settledFrom n childPos entries).map ChannelReorderEntry.row =
      entries.map ChannelReorderEntry.row := by
  induction entries generalizing n childPos with
  | nil => rfl
  | cons e entries ih =>
    cases e with
    | category c =>
      rw [settledFrom, List.map_cons, List.map_cons, ih]
      simp [ChannelReorderEntry.row, ChannelReorderEntry.accordChannel,
        ChannelReorderEntry.isCategory, ChannelReorderEntry.parentId]
    | channel c parentId =>
      rw [settledFrom, List.map_cons, List.map_cons, ih]
      simp [ChannelReorderEntry.row, ChannelReorderEntry.accordChannel,
        ChannelReorderEntry.isCategory, ChannelReorderEntry.parentId]

def counter (categoryPos : Nat) (childPos : Option String → Nat) :
    Option (Option String) → Nat
  | none => categoryPos
  | some parentId => childPos parentId

theorem counter_le (n : Nat) (childPos : Option String → Nat) (parentId : Option String)
    (bucket : Option (Option String)) : counter n childPos bucket ≤
      counter n (Function.update childPos parentId (childPos parentId + 1)) bucket := by
  cases bucket with
  | none => exact Nat.le_refl _
  | some other =>
    by_cases hother : other = parentId
    · simp [counter, hother]
    · simp [counter, Function.update_of_ne hother]

theorem settledFrom_ge {e : ChannelReorderEntry} (h : e ∈ settledFrom n childPos entries) :
    (counter n childPos e.row.bucket : Int) ≤ parseChannelPosition e.accordChannel := by
  induction entries generalizing n childPos with
  | nil => cases h
  | cons e' entries ih =>
    cases e' with
    | category c =>
      rcases List.mem_cons.mp h with rfl | hrest
      · exact le_of_eq (settle_categoryUpdate c n).symm
      · have hle := ih hrest
        have hgrown : counter n childPos e.row.bucket ≤
            counter (n + 1) childPos e.row.bucket := by
          cases e.row.bucket with
          | none => exact Nat.le_succ n
          | some parentId => exact Nat.le_refl _
        omega
    | channel c parentId =>
      rcases List.mem_cons.mp h with rfl | hrest
      · exact le_of_eq (settle_channelUpdate c parentId _).1.symm
      · have hle := ih hrest
        have hgrown := counter_le n childPos parentId e.row.bucket
        omega

theorem settledFrom_sorted (n : Nat) (childPos : Option String → Nat)
    (entries : List ChannelReorderEntry) :
    (settledFrom n childPos entries).Pairwise (fun e e' => e.row.bucket = e'.row.bucket →
      parseChannelPosition e.accordChannel < parseChannelPosition e'.accordChannel) := by
  induction entries generalizing n childPos with
  | nil => exact List.Pairwise.nil
  | cons e entries ih =>
    cases e with
    | category c =>
      rw [settledFrom, List.pairwise_cons]
      constructor
      · intro e' he' hbucket
        have hge := settledFrom_ge he'
        have hpos : parseChannelPosition (settle (categoryUpdate c n) c) = n :=
          settle_categoryUpdate c n
        rw [← hbucket] at hge
        change ((n + 1 : Nat) : Int) ≤ _ at hge
        change parseChannelPosition (settle (categoryUpdate c n) c) < _
        omega
      · exact ih _ _
    | channel c parentId =>
      rw [settledFrom, List.pairwise_cons]
      constructor
      · intro e' he' hbucket
        have hge := settledFrom_ge he'
        have hpos := (settle_channelUpdate c parentId (childPos parentId)).1
        rw [← hbucket] at hge
        change ((Function.update childPos parentId (childPos parentId + 1) parentId : Nat) : Int) ≤ _
          at hge
        rw [Function.update_self] at hge
        change parseChannelPosition (settle (channelUpdate c parentId (childPos parentId)) c) < _
        omega
      · exact ih _ _

def Placed (e : ChannelReorderEntry) : Prop :=
  e.accordChannel.isCategory = e.isCategory ∧
    (e.isCategory = false → e.accordChannel.parentId = e.parentId)

theorem settledFrom_placed (h : ∀ e ∈ entries, e.accordChannel.isCategory = e.isCategory) :
    ∀ e ∈ settledFrom n childPos entries, Placed e := by
  induction entries generalizing n childPos with
  | nil =>
    intro e he
    cases he
  | cons e entries ih =>
    have hhead := h e List.mem_cons_self
    have hrest : ∀ e' ∈ entries, e'.accordChannel.isCategory = e'.isCategory :=
      fun e' he' => h e' (List.mem_cons_of_mem _ he')
    cases e with
    | category c =>
      rw [settledFrom, List.forall_mem_cons]
      constructor
      · constructor
        · exact (settle_isCategory _ c).trans hhead
        · intro hkind
          cases hkind
      · exact ih hrest
    | channel c parentId =>
      rw [settledFrom, List.forall_mem_cons]
      constructor
      · constructor
        · exact (settle_isCategory _ c).trans hhead
        · intro _
          exact (settle_channelUpdate c parentId _).2
      · exact ih hrest

end

section

variable {order order' : SortOrder parseChannelPosition} {uncategorizedFirst : Bool}
  {channels orphans : List AccordChannel} {settled : List ChannelReorderEntry}

def inBucket (bucket : Option (Option String)) (r : Row) : Bool := r.bucket = bucket

def rebuildRows (uncategorizedFirst : Bool) (rows : List Row) : List Row :=
  let uncategorized := rows.filter (inBucket (some none))
  let out := (rows.filter (inBucket none)).flatMap (fun r =>
    r :: rows.filter (inBucket (some (some r.id))))
  if uncategorizedFirst then uncategorized ++ out else out ++ uncategorized

theorem sorted_bucket {bucket : Option (Option String)} {q : AccordChannel → Bool}
    (hperm : channels.Perm (settled.map ChannelReorderEntry.accordChannel ++ orphans))
    (hsorted : settled.Pairwise (fun e e' => e.row.bucket = e'.row.bucket →
      parseChannelPosition e.accordChannel < parseChannelPosition e'.accordChannel))
    (hq : ∀ e ∈ settled, q e.accordChannel = inBucket bucket e.row)
    (horphans : ∀ c ∈ orphans, q c = false) :
    (order.sort channels).filter q = (settled.filter (fun e => inBucket bucket e.row)).map
      ChannelReorderEntry.accordChannel := by
  apply eq_of_sorted_strict ((order.sorted channels).filter q)
  · rw [List.pairwise_map]
    apply (hsorted.filter _).imp_of_mem
    intro e e' he he' hlt
    have hbucket : e.row.bucket = bucket := of_decide_eq_true (List.mem_filter.mp he).2
    have hbucket' : e'.row.bucket = bucket := of_decide_eq_true (List.mem_filter.mp he').2
    exact hlt (hbucket.trans hbucket'.symm)
  · have hnone : orphans.filter q = [] := by
      rw [List.filter_eq_nil_iff]
      intro c hc
      simp [horphans c hc]
    have hkept : (settled.map ChannelReorderEntry.accordChannel).filter q =
        (settled.filter (fun e => inBucket bucket e.row)).map
          ChannelReorderEntry.accordChannel := by
      rw [List.filter_map]
      exact congrArg _ (List.filter_congr hq)
    have hfilter := (((order.perm channels).trans hperm).filter q)
    rw [List.filter_append, hnone, List.append_nil, hkept] at hfilter
    exact hfilter

variable (hplaced : ∀ e ∈ settled, Placed e)
  (hperm : channels.Perm (settled.map ChannelReorderEntry.accordChannel ++ orphans))
  (hsorted : settled.Pairwise (fun e e' => e.row.bucket = e'.row.bucket →
    parseChannelPosition e.accordChannel < parseChannelPosition e'.accordChannel))
  (horphans : ∀ c ∈ orphans, c.isCategory = false ∧ c.parentId ≠ none ∧
    ∀ e ∈ settled, e.isCategory = true → c.parentId ≠ some e.accordChannel.id)

include hplaced hperm hsorted horphans

theorem categoriesOf_sort : categoriesOf (order.sort channels) =
    (settled.filter (fun e => inBucket none e.row)).map ChannelReorderEntry.accordChannel := by
  apply sorted_bucket hperm hsorted
  · intro e he
    rw [(hplaced e he).1, inBucket, Row.bucket, ChannelReorderEntry.row]
    cases e.isCategory <;> rfl
  · intro c hc
    exact (horphans c hc).1

omit horphans in
theorem byParent_sort {parentId : Option String}
    (hparent : ∀ c ∈ orphans, c.parentId ≠ parentId) :
    byParent (leavesOf (order.sort channels)) parentId =
      (settled.filter (fun e => inBucket (some parentId) e.row)).map
        ChannelReorderEntry.accordChannel := by
  rw [byParent, leavesOf, List.filter_filter]
  apply sorted_bucket hperm hsorted
  · intro e he
    obtain ⟨hkind, hsame⟩ := hplaced e he
    rw [hkind, inBucket, Row.bucket, ChannelReorderEntry.row]
    cases hcategory : e.isCategory with
    | true => simp
    | false => simp [hsame hcategory]
  · intro c hc
    simp [hparent c hc]

omit horphans in
theorem entriesUnder_sort {parentId : Option String}
    (hparent : ∀ c ∈ orphans, c.parentId ≠ parentId) :
    (entriesUnder (leavesOf (order.sort channels)) parentId).map ChannelReorderEntry.row =
      (settled.map ChannelReorderEntry.row).filter (inBucket (some parentId)) := by
  rw [entriesUnder, byParent_sort hplaced hperm hsorted hparent, List.filter_map,
    List.map_map, List.map_map]
  apply List.map_congr_left
  intro e he
  have hbucket : e.row.bucket = some parentId := of_decide_eq_true (List.mem_filter.mp he).2
  cases e with
  | category c => cases hbucket
  | channel c parentId' =>
    obtain rfl : parentId' = parentId := Option.some.inj hbucket
    rfl

theorem flatten_rows :
    (flattenChannelsForReorder order uncategorizedFirst channels).map ChannelReorderEntry.row =
      rebuildRows uncategorizedFirst (settled.map ChannelReorderEntry.row) := by
  have huncategorized := @entriesUnder_sort order _ _ _ hplaced hperm hsorted _
    (fun c hc => (horphans c hc).2.1)
  have hout : ((categoriesOf (order.sort channels)).flatMap (fun category =>
      ChannelReorderEntry.category category ::
        entriesUnder (leavesOf (order.sort channels)) (some category.id))).map
          ChannelReorderEntry.row =
      ((settled.map ChannelReorderEntry.row).filter (inBucket none)).flatMap (fun r =>
        r :: (settled.map ChannelReorderEntry.row).filter (inBucket (some (some r.id)))) := by
    rw [categoriesOf_sort hplaced hperm hsorted horphans, List.map_flatMap, List.flatMap_map,
      List.filter_map, List.flatMap_map]
    apply List.flatMap_congr
    intro e he
    have hcategory : e.isCategory = true := by
      have hbucket : e.row.bucket = none := of_decide_eq_true (List.mem_filter.mp he).2
      cases e with
      | category c => rfl
      | channel c parentId => cases hbucket
    have hunder := @entriesUnder_sort order _ _ _ hplaced hperm hsorted _
      (fun c hc => (horphans c hc).2.2 e (List.mem_filter.mp he).1 hcategory)
    rw [List.map_cons, hunder]
    cases e with
    | category c => rfl
    | channel c parentId => cases hcategory
  rw [flattenChannelsForReorder, rebuildRows]
  cases uncategorizedFirst with
  | true => simp only [if_true, List.map_append, huncategorized, hout]
  | false => simp only [Bool.false_eq_true, if_false, List.map_append, huncategorized, hout]

end

section

variable {layout : Layout} {uncategorizedFirst : Bool}

def uncategorizedRow (c : AccordChannel) : Row :=
  { id := c.id, isCategory := false, parentId := none }

def childRow (parentId : String) (c : AccordChannel) : Row :=
  { id := c.id, isCategory := false, parentId := some parentId }

def categoryRow (c : AccordChannel) : Row := { id := c.id, isCategory := true, parentId := none }

def blockRows (block : AccordChannel × List AccordChannel) : List Row :=
  categoryRow block.1 :: block.2.map (childRow block.1.id)

def Layout.rows (layout : Layout) (uncategorizedFirst : Bool) : List Row :=
  if uncategorizedFirst then
    layout.uncategorized.map uncategorizedRow ++ layout.blocks.flatMap blockRows
  else layout.blocks.flatMap blockRows ++ layout.uncategorized.map uncategorizedRow

theorem Layout.entries_rows :
    (layout.entries uncategorizedFirst).map ChannelReorderEntry.row =
      layout.rows uncategorizedFirst := by
  have huncategorized : (layout.uncategorized.map (ChannelReorderEntry.channel · none)).map
      ChannelReorderEntry.row = layout.uncategorized.map uncategorizedRow := by
    rw [List.map_map]
    rfl
  have hblock : ∀ block, (blockEntries block).map ChannelReorderEntry.row = blockRows block := by
    intro block
    rw [blockEntries, List.map_cons, List.map_map]
    rfl
  have hout : (layout.blocks.flatMap blockEntries).map ChannelReorderEntry.row =
      layout.blocks.flatMap blockRows := by
    rw [List.map_flatMap, funext hblock]
  rw [Layout.entries, Layout.rows]
  cases uncategorizedFirst with
  | true => simp only [if_true, List.map_append, huncategorized, hout]
  | false => simp only [Bool.false_eq_true, if_false, List.map_append, huncategorized, hout]

theorem filter_rows (row : AccordChannel → Row) (own : Option (Option String))
    (hrow : ∀ c, (row c).bucket = own) (bucket : Option (Option String)) (cs : List AccordChannel) :
    (cs.map row).filter (inBucket bucket) = if bucket = own then cs.map row else [] := by
  split
  · rename_i hbucket
    rw [List.filter_eq_self]
    intro r hr
    obtain ⟨c, _, rfl⟩ := List.mem_map.mp hr
    exact decide_eq_true ((hrow c).trans hbucket.symm)
  · rename_i hbucket
    rw [List.filter_eq_nil_iff]
    intro r hr hin
    obtain ⟨c, _, rfl⟩ := List.mem_map.mp hr
    exact hbucket ((of_decide_eq_true hin).symm.trans (hrow c))

theorem filter_uncategorized (bucket : Option (Option String)) (cs : List AccordChannel) :
    (cs.map uncategorizedRow).filter (inBucket bucket) =
      if bucket = some none then cs.map uncategorizedRow else [] :=
  filter_rows uncategorizedRow (some none) (fun _ => rfl) bucket cs

theorem filter_block (bucket : Option (Option String))
    (block : AccordChannel × List AccordChannel) :
    (blockRows block).filter (inBucket bucket) =
      if bucket = none then [categoryRow block.1]
      else if bucket = some (some block.1.id) then block.2.map (childRow block.1.id) else [] := by
  have hchildren := filter_rows (childRow block.1.id) (some (some block.1.id)) (fun _ => rfl) bucket
    block.2
  rw [blockRows, List.filter_cons, hchildren]
  cases bucket with
  | none => simp [inBucket, Row.bucket, categoryRow]
  | some parentId => simp [inBucket, Row.bucket, categoryRow]

theorem categories_rows : (layout.rows uncategorizedFirst).filter (inBucket none) =
    layout.blocks.map (fun block => categoryRow block.1) := by
  have hcategories : (layout.blocks.flatMap blockRows).filter (inBucket none) =
      layout.blocks.map (fun block => categoryRow block.1) := by
    have hone : ∀ block, (blockRows block).filter (inBucket none) = [categoryRow block.1] := by
      intro block
      rw [filter_block, if_pos rfl]
    rw [List.filter_flatMap, funext hone, List.map_eq_flatMap]
  rw [Layout.rows]
  cases uncategorizedFirst with
  | true => simp [filter_uncategorized, hcategories]
  | false => simp [filter_uncategorized, hcategories]

variable (hids : (layout.blocks.map (fun block => block.1.id)).Nodup)

include hids

theorem filter_blocks {block : AccordChannel × List AccordChannel} (hblock : block ∈ layout.blocks) :
    (layout.blocks.flatMap blockRows).filter (inBucket (some (some block.1.id))) =
      block.2.map (childRow block.1.id) := by
  obtain ⟨front, back, hsplit⟩ := List.append_of_mem hblock
  rw [hsplit, List.map_append, List.map_cons] at hids
  have hothers : ∀ other ∈ front ++ back, other.1.id ≠ block.1.id := by
    intro other hother heq
    have hperm : (front.map (fun b => b.1.id) ++ block.1.id :: back.map (fun b => b.1.id)).Nodup :=
      hids
    rw [List.nodup_middle, List.nodup_cons, ← List.map_append] at hperm
    exact hperm.1 (List.mem_map.mpr ⟨other, hother, heq⟩)
  have hnone : ∀ blocks : List (AccordChannel × List AccordChannel),
      (∀ other ∈ blocks, other.1.id ≠ block.1.id) →
      (blocks.flatMap blockRows).filter (inBucket (some (some block.1.id))) = [] := by
    intro blocks hne
    rw [List.filter_flatMap, List.flatMap_eq_nil_iff]
    intro other hother
    rw [filter_block]
    simp [(hne other hother).symm]
  rw [hsplit, List.flatMap_append, List.flatMap_cons, List.filter_append, List.filter_append,
    hnone front (fun other hother => hothers other (List.mem_append_left _ hother)),
    hnone back (fun other hother => hothers other (List.mem_append_right _ hother)), filter_block]
  simp

theorem rebuild_layout : rebuildRows uncategorizedFirst (layout.rows uncategorizedFirst) =
    layout.rows uncategorizedFirst := by
  have hfree : (layout.blocks.flatMap blockRows).filter (inBucket (some none)) = [] := by
    rw [List.filter_flatMap, List.flatMap_eq_nil_iff]
    intro block _
    rw [filter_block]
    simp
  have hout : (layout.blocks.map (fun block => categoryRow block.1)).flatMap (fun r =>
      r :: (layout.rows uncategorizedFirst).filter (inBucket (some (some r.id)))) =
        layout.blocks.flatMap blockRows := by
    rw [List.flatMap_map]
    apply List.flatMap_congr
    intro block hblock
    have hchildren := filter_blocks hids hblock
    rw [blockRows, Layout.rows]
    cases uncategorizedFirst with
    | true => simp [filter_uncategorized, hchildren, categoryRow]
    | false => simp [filter_uncategorized, hchildren, categoryRow]
  rw [rebuildRows]
  have hloose : (layout.rows uncategorizedFirst).filter (inBucket (some none)) =
      layout.uncategorized.map uncategorizedRow := by
    rw [Layout.rows]
    cases uncategorizedFirst with
    | true => simp [filter_uncategorized, hfree]
    | false => simp [filter_uncategorized, hfree]
  simp only [categories_rows, hloose, hout]
  rfl

end

section

variable {order order' : SortOrder parseChannelPosition} {uncategorizedFirst : Bool}
  {channels : List AccordChannel}

theorem flatten_kinds {e : ChannelReorderEntry}
    (h : e ∈ flattenChannelsForReorder order uncategorizedFirst channels) :
    e.accordChannel.isCategory = e.isCategory := by
  have hunder : ∀ parentId, e ∈ entriesUnder (leavesOf (order.sort channels)) parentId →
      e.accordChannel.isCategory = e.isCategory := by
    intro parentId he
    obtain ⟨c, hc, rfl⟩ := List.mem_map.mp he
    have hleaf := (List.mem_filter.mp (List.mem_filter.mp hc).1).2
    exact Bool.not_eq_true' _ |>.mp hleaf
  have hparts : e ∈ entriesUnder (leavesOf (order.sort channels)) none ∨
      e ∈ (categoriesOf (order.sort channels)).flatMap (fun category =>
        ChannelReorderEntry.category category ::
          entriesUnder (leavesOf (order.sort channels)) (some category.id)) := by
    rw [flattenChannelsForReorder] at h
    cases uncategorizedFirst with
    | true => exact List.mem_append.mp h
    | false => exact (List.mem_append.mp h).symm
  rcases hparts with hfree | hout
  · exact hunder none hfree
  · obtain ⟨category, hcategory, hin⟩ := List.mem_flatMap.mp hout
    rcases List.mem_cons.mp hin with rfl | hchild
    · exact (List.mem_filter.mp hcategory).2
    · exact hunder _ hchild

variable (hids : (channels.map AccordChannel.id).Nodup)

include hids

theorem reorders_back (order order' : SortOrder parseChannelPosition) (uncategorizedFirst : Bool) :
    ReordersBack order order' uncategorizedFirst channels := by
  intro layout hkinds
  have hentries : ((layout.entries uncategorizedFirst).map
      ChannelReorderEntry.accordChannel).Perm (channels.filter (homed channels)) := by
    have hsnd := hkinds.map Prod.snd
    rw [List.map_map, List.map_map] at hsnd
    exact hsnd.trans (flatten_perm hids)
  have hkept : ∀ e ∈ layout.entries uncategorizedFirst,
      e.accordChannel.isCategory = e.isCategory := by
    intro e he
    obtain ⟨e', he', hkind⟩ := List.mem_map.mp
      (hkinds.mem_iff.mp (List.mem_map_of_mem (f := ChannelReorderEntry.kind) he))
    have hsame := flatten_kinds he'
    rw [ChannelReorderEntry.kind, ChannelReorderEntry.kind, Prod.mk.injEq] at hkind
    rw [← hkind.1, ← hkind.2]
    exact hsame
  have hwhole : (channels.filter (homed channels) ++
      channels.filter (fun c => !homed channels c)).Perm channels :=
    List.filter_append_perm _ channels
  have hnodup : (((layout.entries uncategorizedFirst).map ChannelReorderEntry.accordChannel ++
      channels.filter (fun c => !homed channels c)).map AccordChannel.id).Nodup :=
    (((hentries.append_right _).trans hwhole).map _).nodup_iff.mpr hids
  rw [List.map_append, List.map_map] at hnodup
  obtain ⟨hentryIds, -, hapart⟩ := List.nodup_append.mp hnodup
  have horphan : ∀ c ∈ channels.filter (fun c => !homed channels c),
      applyAll (diffChannelPositions (layout.entries uncategorizedFirst)) c = c := by
    intro c hc
    apply applyAll_of_others
    intro u hu hid
    obtain ⟨e, he, hown⟩ := mem_diffFrom hu
    exact hapart _ (List.mem_map_of_mem he) _ (List.mem_map_of_mem hc) (hown.symm.trans hid)
  have hupdated : (applyUpdates (diffChannelPositions (layout.entries uncategorizedFirst))
      channels).Perm ((settledFrom 0 (fun _ => 0) (layout.entries uncategorizedFirst)).map
        ChannelReorderEntry.accordChannel ++ channels.filter (fun c => !homed channels c)) := by
    have hmapped := ((hentries.append_right _).trans hwhole).symm.map
      (applyAll (diffChannelPositions (layout.entries uncategorizedFirst)))
    rw [List.map_append, List.map_map, List.map_congr_left horphan, List.map_id'] at hmapped
    rw [applyUpdates_eq, ← applyAll_diffFrom hentryIds]
    exact hmapped
  have hrows := settledFrom_rows 0 (fun _ => 0) (layout.entries uncategorizedFirst)
  have horphans : ∀ c ∈ channels.filter (fun c => !homed channels c),
      c.isCategory = false ∧ c.parentId ≠ none ∧
        ∀ e ∈ settledFrom 0 (fun _ => 0) (layout.entries uncategorizedFirst),
          e.isCategory = true → c.parentId ≠ some e.accordChannel.id := by
    intro c hc
    have hlost : homed channels c = false := Bool.not_eq_true' _ |>.mp (List.mem_filter.mp hc).2
    rw [homed, Bool.or_eq_false_iff, decide_eq_false_iff_not] at hlost
    constructor
    · exact hlost.1
    · constructor
      · intro hnone
        exact hlost.2 (hnone ▸ List.mem_cons_self)
      · intro e he hcategory hparent
        have hrow : e.row ∈ (layout.entries uncategorizedFirst).map ChannelReorderEntry.row := by
          rw [← hrows]
          exact List.mem_map_of_mem he
        obtain ⟨e', he', hsame⟩ := List.mem_map.mp hrow
        have hmem := List.mem_filter.mp (hentries.mem_iff.mp
          (List.mem_map_of_mem (f := ChannelReorderEntry.accordChannel) he'))
        have hkind : e'.isCategory = true := (congrArg Row.isCategory hsame).trans hcategory
        have hid : e'.accordChannel.id = e.accordChannel.id := congrArg Row.id hsame
        apply hlost.2
        rw [hparent, ← hid]
        apply List.mem_cons_of_mem
        rw [List.mem_map]
        exact ⟨e'.accordChannel, List.mem_filter.mpr ⟨hmem.1, (hkept e' he').trans hkind⟩, rfl⟩
  have hblocks : (layout.blocks.map (fun block => block.1.id)).Nodup := by
    have hids' : ((layout.rows uncategorizedFirst).map Row.id).Nodup := by
      rw [← Layout.entries_rows, List.map_map]
      exact hentryIds
    have hsub := hids'.sublist ((List.filter_sublist (p := inBucket none)).map Row.id)
    rw [categories_rows, List.map_map] at hsub
    exact hsub
  rw [flatten_rows (settledFrom_placed hkept) hupdated (settledFrom_sorted _ _ _) horphans, hrows,
    Layout.entries_rows, rebuild_layout hblocks]

theorem reorder_round_trip_iff (order order' : SortOrder parseChannelPosition)
    (uncategorizedFirst : Bool) :
    ((flattenChannelsForReorder order uncategorizedFirst channels).map
        ChannelReorderEntry.accordChannel).Perm channels ∧
      ReordersBack order order' uncategorizedFirst channels ↔
    ∀ c ∈ channels, c.isCategory = true ∨ c.parentId = none ∨
      ∃ category ∈ channels, category.isCategory = true ∧ c.parentId = some category.id := by
  rw [and_iff_left (reorders_back hids order order' uncategorizedFirst)]
  exact flatten_complete_iff hids

end

def voiceCategory : AccordChannel := { id := "4", type := "category", position := some (.num 3) }

def lobby : AccordChannel := { id := "5", position := some (.num 3), parentId := some "4" }

theorem reorder_round_trip_small :
    ((flattenChannelsForReorder (.stable _) true [lobby, voiceCategory]).map
        ChannelReorderEntry.accordChannel).Perm [lobby, voiceCategory] ∧
      ReordersBack (.stable _) (.stable _) true [lobby, voiceCategory] ↔
    ∀ c ∈ [lobby, voiceCategory], c.isCategory = true ∨ c.parentId = none ∨
      ∃ category ∈ [lobby, voiceCategory],
        category.isCategory = true ∧ c.parentId = some category.id :=
  reorder_round_trip_iff (by decide) (.stable _) (.stable _) true

theorem hidden_category_drops_channel : ¬ ∀ (order : SortOrder parseChannelPosition)
    (uncategorizedFirst : Bool) (channels : List AccordChannel),
      (channels.map AccordChannel.id).Nodup →
      ((flattenChannelsForReorder order uncategorizedFirst channels).map
        ChannelReorderEntry.accordChannel).Perm channels := by
  intro h
  have hperm := h (.stable _) true [lobby] (by decide)
  have hnothing : flattenChannelsForReorder (.stable _) true [lobby] = [] := rfl
  rw [hnothing] at hperm
  exact absurd hperm.length_eq (by decide)

end Vokusz.Client.ChannelReorder
