import Vokusz.Db.Messages

namespace Vokusz.Db.Tables

open Lib

variable {rows rows' : List MessageRow} {ids ids' : List String} {db : Tables}

def unreached (rows : List MessageRow) (ids : List String) : Nat :=
  (rows.filter (fun m => !ids.contains m.id)).length

theorem repliesTo_of_mem {m : MessageRow} {t : String} (hm : m ∈ rows) (ht : m.threadId = some t)
    (hroot : t ∈ ids) (hnew : m.id ∉ ids) : m.id ∈ repliesTo rows ids := by
  refine List.mem_map.mpr ⟨m, List.mem_filter.mpr ⟨hm, ?_⟩, rfl⟩
  simp [ht, hroot, hnew]

theorem repliesTo_unreached {id : String} (h : id ∈ repliesTo rows ids) :
    ∃ m ∈ rows, m.id = id ∧ m.id ∉ ids := by
  obtain ⟨m, hm, hid⟩ := List.mem_map.mp h
  obtain ⟨hrow, hcond⟩ := List.mem_filter.mp hm
  simp only [Bool.and_eq_true, Bool.not_eq_true'] at hcond
  exact ⟨m, hrow, hid, by simpa using hcond.2⟩

theorem unreached_lt (h : repliesTo rows ids ≠ []) :
    unreached rows (ids ++ repliesTo rows ids) < unreached rows ids := by
  obtain ⟨id, hid⟩ := List.exists_mem_of_ne_nil _ h
  obtain ⟨m, hm, rfl, hnew⟩ := repliesTo_unreached hid
  have hfewer : rows.filter (fun r => !(ids ++ repliesTo rows ids).contains r.id) =
      (rows.filter (fun r => !ids.contains r.id)).filter
        (fun r => !(repliesTo rows ids).contains r.id) := by
    rw [List.filter_filter]
    congr 1
    funext r
    simp [Bool.and_comm]
  unfold unreached
  rw [hfewer]
  refine List.length_filter_lt_length_iff_exists.mpr ⟨m, ?_, ?_⟩
  · simp [hm, hnew]
  · simpa using hid

theorem threadClosure_stable (h : repliesTo rows ids = []) (n : Nat) :
    threadClosure rows n ids = ids := by
  induction n with
  | zero => rfl
  | succ n ih =>
    simp only [threadClosure, h, List.append_nil]
    exact ih

theorem repliesTo_threadClosure {n : Nat} (h : unreached rows ids ≤ n) :
    repliesTo rows (threadClosure rows n ids) = [] := by
  induction n generalizing ids with
  | zero =>
    by_contra hne
    have hlt := unreached_lt hne
    simp only [threadClosure] at hlt
    omega
  | succ n ih =>
    by_cases hdone : repliesTo rows ids = []
    · rw [threadClosure_stable hdone]
      exact hdone
    · have hlt := unreached_lt hdone
      exact ih (by omega)

theorem deletedWith_closed {m : MessageRow} {t : String} (hm : m ∈ db.messages)
    (ht : m.threadId = some t) (hroot : t ∈ db.deletedWith ids) : m.id ∈ db.deletedWith ids := by
  have hclosed : repliesTo db.messages (db.deletedWith ids) = [] :=
    repliesTo_threadClosure (List.length_filter_le _ _)
  by_contra hnew
  have hreply := repliesTo_of_mem hm ht hroot hnew
  rw [hclosed] at hreply
  cases hreply

theorem threadClosure_mono (hrows : ∀ r' ∈ rows', ∃ r ∈ rows, r.id = r'.id ∧
    r.threadId = r'.threadId) {n n' : Nat} (hn : n' ≤ n) (hids : ∀ id ∈ ids', id ∈ ids) :
    ∀ id ∈ threadClosure rows' n' ids', id ∈ threadClosure rows n ids := by
  induction n' generalizing n ids ids' with
  | zero => exact fun id hid => subset_threadClosure n id (hids id hid)
  | succ n' ih =>
    obtain ⟨n, rfl⟩ : ∃ k, n = k + 1 := ⟨n - 1, by omega⟩
    have hnext : ∀ id ∈ ids' ++ repliesTo rows' ids', id ∈ ids ++ repliesTo rows ids := by
      intro id hid
      rcases List.mem_append.mp hid with hroot | hnew
      · exact List.mem_append_left _ (hids id hroot)
      · obtain ⟨r', hr', rfl, t, ht, hmem⟩ := mem_repliesTo hnew
        obtain ⟨r, hr, hrid, hthread⟩ := hrows r' hr'
        rw [← hrid]
        by_cases hreached : r.id ∈ ids
        · exact List.mem_append_left _ hreached
        · exact List.mem_append_right _
            (repliesTo_of_mem hr (hthread.trans ht) (hids t hmem) hreached)
    have hrest : n' ≤ n := by omega
    have hclosed := ih hrest hnext
    exact hclosed

@[simp] theorem unlinkReply_threadId (gone : List String) (m : MessageRow) :
    (unlinkReply gone m).threadId = m.threadId := by
  unfold unlinkReply
  split <;> rfl

theorem deletedWith_deleteMessages (gone : List String) :
    ∀ id ∈ (db.deleteMessages gone).deletedWith ids, id ∈ db.deletedWith ids := by
  refine threadClosure_mono ?_ ?_ ?_
  · intro r' hr'
    rw [deleteMessages_messages] at hr'
    obtain ⟨r, hr, rfl⟩ := List.mem_map.mp hr'
    exact ⟨r, (List.mem_filter.mp hr).1, by simp, by simp⟩
  · rw [deleteMessages_messages, List.length_map]
    exact List.length_filter_le _ _
  · intro id hid
    obtain ⟨hmem, hstored⟩ := List.mem_filter.mp hid
    rw [hasMessage_deleteMessages, Bool.and_eq_true] at hstored
    exact List.mem_filter.mpr ⟨hmem, hstored.1⟩

structure MessageKeys (db : Tables) : Prop where
  keys : Table.Distinct MessageRow.id db.messages
  replies : ∀ m ∈ db.messages, ∀ r, m.replyTo = some r → db.hasMessage r = true
  threads : ∀ m ∈ db.messages, ∀ t, m.threadId = some t → db.hasMessage t = true
  pins : ∀ p ∈ db.pinnedMessages, db.hasMessage p.messageId = true

namespace MessageKeys

theorem of_messages {db' : Tables} (h : MessageKeys db) (heq : db'.messages = db.messages)
    (hpinned : ∀ p ∈ db'.pinnedMessages, db.hasMessage p.messageId = true) :
    MessageKeys db' := by
  obtain ⟨hkeys, hreplies, hthreads, _⟩ := h
  unfold hasMessage at hreplies hthreads hpinned
  constructor
  · rwa [heq]
  · unfold hasMessage
    rwa [heq]
  · unfold hasMessage
    rwa [heq]
  · unfold hasMessage
    rwa [heq]

theorem delete (h : MessageKeys db) (ids : List String) : MessageKeys (db.deleteMessages ids) := by
  refine ⟨distinct_deleteMessages h.keys, ?_, ?_, ?_⟩
  · intro m' hm' r hr
    rw [deleteMessages_messages] at hm'
    obtain ⟨m, hm, rfl⟩ := List.mem_map.mp hm'
    have hstored := (List.mem_filter.mp hm).1
    unfold unlinkReply at hr
    split at hr
    · cases hr
    · rename_i hkept
      rw [hasMessage_deleteMessages, h.replies m hstored r hr]
      simpa [hr] using hkept
  · intro m' hm' t ht
    rw [deleteMessages_messages] at hm'
    obtain ⟨m, hm, rfl⟩ := List.mem_map.mp hm'
    obtain ⟨hstored, hkept⟩ := List.mem_filter.mp hm
    rw [unlinkReply_threadId] at ht
    rw [hasMessage_deleteMessages, h.threads m hstored t ht]
    have hroot : t ∉ db.deletedWith ids := by
      intro hgone
      have hwith := deletedWith_closed hstored ht hgone
      simp [hwith] at hkept
    simpa using hroot
  · intro p hp
    obtain ⟨hstored, hkept⟩ := List.mem_filter.mp hp
    rw [hasMessage_deleteMessages, h.pins p hstored]
    simpa using hkept

theorem update {id : String} {f : MessageRow → MessageRow} (h : MessageKeys db)
    (hid : ∀ m, (f m).id = m.id) (hreply : ∀ m, (f m).replyTo = m.replyTo)
    (hthread : ∀ m, (f m).threadId = m.threadId) : MessageKeys (db.updateMessage id f) := by
  have hhas : ∀ k, (db.updateMessage id f).hasMessage k = db.hasMessage k := by
    intro k
    rw [hasMessage, hasMessage, Table.has_eq_contains, Table.has_eq_contains]
    exact congrArg (·.contains k) (Table.map_key_update (fun m _ => hid m))
  refine ⟨h.keys.update (fun m _ => hid m), ?_, ?_, fun p hp => (hhas _).trans (h.pins p hp)⟩
  · intro m' hm' r hr
    rw [hhas]
    rcases Table.mem_update hm' with hm | ⟨m, hm, _, rfl⟩
    · exact h.replies m' hm.1 r hr
    · exact h.replies m hm r ((hreply m).symm.trans hr)
  · intro m' hm' t ht
    rw [hhas]
    rcases Table.mem_update hm' with hm | ⟨m, hm, _, rfl⟩
    · exact h.threads m' hm.1 t ht
    · exact h.threads m hm t ((hthread m).symm.trans ht)

theorem append {db' : Tables} {row : MessageRow} (h : MessageKeys db)
    (heq : db'.messages = db.messages ++ [row]) (hfresh : db.hasMessage row.id = false)
    (hrefs : Messages.referencesExist db row = true)
    (hpinned : db'.pinnedMessages = db.pinnedMessages) : MessageKeys db' := by
  have hhas : ∀ k, db'.hasMessage k = (db.hasMessage k || decide (row.id = k)) := by
    intro k
    rw [hasMessage, heq, Table.has_append]
    rfl
  simp only [Messages.referencesExist, Bool.and_eq_true] at hrefs
  obtain ⟨⟨_, hreply⟩, hthread⟩ := hrefs
  have hexists : ∀ k, (decide (k = row.id) || db.hasMessage k) = true → db'.hasMessage k = true := by
    intro k hk
    rw [hhas k]
    simp only [Bool.or_eq_true, decide_eq_true_eq] at hk ⊢
    rcases hk with hself | hstored
    · exact .inr hself.symm
    · exact .inl hstored
  refine ⟨?_, ?_, ?_, ?_⟩
  · rw [heq]
    refine List.pairwise_append.mpr ⟨h.keys, List.pairwise_singleton _ _, ?_⟩
    intro m hm r hr heq'
    rw [List.mem_singleton.mp hr] at heq'
    have hstored : db.hasMessage row.id = true := Table.has_iff.mpr ⟨m, hm, heq'⟩
    rw [hfresh] at hstored
    cases hstored
  · intro m hm r hr
    rw [heq] at hm
    rcases List.mem_append.mp hm with hold | hnew
    · rw [hhas, h.replies m hold r hr, Bool.true_or]
    · rw [List.mem_singleton.mp hnew] at hr
      exact hexists r (by simpa [hr] using hreply)
  · intro m hm t ht
    rw [heq] at hm
    rcases List.mem_append.mp hm with hold | hnew
    · rw [hhas, h.threads m hold t ht, Bool.true_or]
    · rw [List.mem_singleton.mp hnew] at ht
      exact hexists t (by simpa [ht] using hthread)
  · intro p hp
    rw [hpinned] at hp
    rw [hhas, h.pins p hp, Bool.true_or]

theorem deletedWith_new (h : MessageKeys db) {db' : Tables} {row : MessageRow}
    (heq : db'.messages = db.messages ++ [row]) (hfresh : db.hasMessage row.id = false) :
    ∀ id ∈ db'.deletedWith [row.id], id = row.id := by
  have hroots : ∀ t ∈ [row.id].filter db'.hasMessage, t = row.id := fun t ht =>
    List.mem_singleton.mp (List.mem_filter.mp ht).1
  have hself : row.id ∈ [row.id].filter db'.hasMessage := by
    refine List.mem_filter.mpr ⟨List.mem_singleton_self _, Table.has_iff.mpr ⟨row, ?_, rfl⟩⟩
    rw [heq]
    exact List.mem_append_right _ (List.mem_singleton_self _)
  have halone : repliesTo db'.messages ([row.id].filter db'.hasMessage) = [] := by
    refine List.eq_nil_iff_forall_not_mem.mpr (fun id hid => ?_)
    obtain ⟨m, hm, rfl, t, ht, hroot⟩ := mem_repliesTo hid
    rw [heq] at hm
    rcases List.mem_append.mp hm with hold | hnew
    · have hstored := h.threads m hold t ht
      rw [hroots t hroot, hfresh] at hstored
      cases hstored
    · obtain ⟨m', _, hid', hunreached⟩ := repliesTo_unreached hid
      rw [hid', List.mem_singleton.mp hnew] at hunreached
      exact hunreached hself
  intro id hid
  rw [deletedWith, threadClosure_stable halone] at hid
  exact List.mem_singleton.mp (List.mem_filter.mp hid).1

end MessageKeys

end Vokusz.Db.Tables

namespace Vokusz.Db.Messages

open Lib

theorem stays_createMessage {β : Type} {I : AppState → Prop} {channelId authorId : String}
    {spaceId : Option String} {input : CreateMessage} {cooldownMs : Int} {f : MessageRow → App β}
    {s : AppState} (hs : I s) (hnext : I { s with snowflake := s.snowflake + 1 })
    (hstore : ∀ mentions (now : Int) createdAt row t,
      row = localRow (toString s.snowflake) channelId authorId spaceId input mentions createdAt →
      t = { s with snowflake := s.snowflake + 1, db := storeMessage row now s.db } →
      referencesExist s.db row = true → s.db.hasMessage row.id = false →
      I t ∧ (f row).Stays I t) :
    (createMessage channelId authorId spaceId input cooldownMs >>= f).Stays I s := by
  unfold createMessage
  simp only [bind_assoc]
  refine App.stays_generateId hs ?_
  generalize hu : ({ s with snowflake := s.snowflake + 1 } : AppState) = u at hnext
  have hdb : u.db = s.db := by rw [← hu]
  have hmentions : ∀ names, (mentionedUsers spaceId names).Maintains (fun v => v = u) := by
    intro names
    have hsame := @preserves_mentionedUsers AppState id spaceId names
    exact hsame.keeps (fun _ _ heq hv => heq.trans hv)
  refine Prog.stays_guard hnext (hmentions _) (fun mentions _ => ?_)
  refine Prog.stays_guard hnext (Prog.keeps_get (Q := fun _ => True) (fun _ _ => trivial))
    (fun now _ => ?_)
  refine Prog.stays_guard hnext (Prog.keeps_get (Q := fun _ => True) (fun _ _ => trivial))
    (fun createdAt _ => ?_)
  generalize hrow : localRow (toString s.snowflake) channelId authorId spaceId input mentions
    createdAt = row
  have hid : row.id = toString s.snowflake := by rw [← hrow, localRow]
  refine ⟨hnext, ?_, hnext⟩
  rcases insertMessage_cases row (max cooldownMs 0) now u.db with ⟨e, he⟩ | ⟨hok, hrefs, hfresh⟩
  · simp only [he]
    exact hnext
  · rw [hdb] at hok hrefs hfresh
    have hstored := hstore mentions now createdAt row
      { u with db := storeMessage row now s.db } hrow.symm (by rw [← hu]) hrefs hfresh
    have hread : getMessageRow (toString s.snowflake) (storeMessage row now s.db) = .ok row := by
      rw [getMessageRow_ok, storeMessage_messages, Table.lookup_append,
        Table.lookup_none_of_not_has (hid ▸ hfresh)]
      simp [hid]
    simp only [hdb, hok]
    change ((MonadLiftT.monadLift (getMessageRow (toString s.snowflake)) : App MessageRow) >>=
      f).Stays _ _
    refine App.stays_checked hstored.1 (fun msg hmsg => ?_)
    rw [AppState.withDb_db, hread] at hmsg
    cases hmsg
    exact hstored.2

end Vokusz.Db.Messages
