import Vokusz.Lib.Like
import Vokusz.Routes.MessageList

namespace Vokusz

namespace Db.Messages

open Lib

structure SearchMessagesParams where
  channelIds : List String
  query : Option String
  authorId : Option String
  before : Option String
  after : Option String
  pinned : Option Bool
  cursor : Option String
  limit : Nat
  deriving DecidableEq, Repr

-- SQLite's `LIKE`: `%` and `_` are its wildcards, and only ASCII letters are folded.
def sqlLike (pattern content : String) : Bool :=
  Lib.Like.like '%' '_' Char.toLower pattern.toList content.toList

def otherFilters (authorId before after : Option String) (pinned : Option Bool) (m : MessageRow) :
    Bool :=
  authorId.all (fun author => m.authorId = author) && before.all (fun t => m.createdAt < t) &&
    after.all (fun t => t < m.createdAt) && pinned.all (fun p => m.pinned = p)

def searchMessages (spaceId : String) (params : SearchMessagesParams) : Query (List MessageRow) :=
  fun db =>
    if params.channelIds = [] then .ok []
    else
      .ok ((Table.orderBy (fun m => OrderDual.toDual m.id) (db.messages.filter (fun m =>
        m.spaceId = some spaceId && params.channelIds.contains m.channelId &&
          params.query.all (fun q => sqlLike ("%" ++ q ++ "%") m.content) &&
          otherFilters params.authorId params.before params.after params.pinned m &&
          params.cursor.all (fun cursor => m.id < cursor)))).take (params.limit + 1))

end Db.Messages

namespace Routes.Messages

open Db Permissions
open Db.Messages (SearchMessagesParams sqlLike otherFilters)

structure SearchMessagesQuery where
  query : Option String := none
  authorId : Option String := none
  channelId : Option String := none
  before : Option String := none
  after : Option String := none
  pinned : Option Bool := none
  cursor : Option String := none
  limit : Option Int := none
  deriving DecidableEq, Repr

def SearchMessagesQuery.filtered (params : SearchMessagesQuery) : Bool :=
  params.query.isSome || params.authorId.isSome || params.channelId.isSome ||
    params.before.isSome || params.after.isSome || params.pinned.isSome

def accessibleChannels (auth : Option AuthUser) : List ChannelRow → Query (List String)
  | [] => return []
  | channel :: channels => fun db =>
    match requireChannelReadAccess channel auth true db with
    | .ok () => (accessibleChannels auth channels db).map (fun ids => channel.id :: ids)
    | .error (.forbidden _) => accessibleChannels auth channels db
    | .error (.unauthorized _) => accessibleChannels auth channels db
    | .error e => .error e

def noAccess (auth : Option AuthUser) : AppError :=
  if auth.isSome then .forbidden "no accessible channels"
  else .unauthorized "authentication required"

def searchedChannels (spaceId : String) (auth : Option AuthUser) (channelId : Option String) :
    Query (List String) := do
  let _ ← Spaces.getSpaceRow spaceId
  let channels ← Channels.listChannelsInSpace spaceId
  let accessible ← accessibleChannels auth channels
  Query.require (accessible ≠ []) (noAccess auth)
  match channelId with
  | none => return accessible
  | some cid =>
    Query.require (cid ∈ accessible) (.forbidden "you do not have access to that channel")
    let channel ← Channels.getChannelRow cid
    Query.require (channel.spaceId = some spaceId) (.notFound "unknown_channel")
    return [cid]

def searchLimit (limit : Option Int) : Nat := (max 1 (min (limit.getD 25) 100)).toNat

def searchMessages (spaceId : String) (auth : Option AuthUser) (params : SearchMessagesQuery) :
    Query Json := do
  Query.require (params.filtered = true) (.badRequest "at least one search filter is required")
  let channelIds ← searchedChannels spaceId auth params.channelId
  let limit := searchLimit params.limit
  let rows ← Db.Messages.searchMessages spaceId
    { channelIds := channelIds
      query := params.query
      authorId := params.authorId
      before := params.before
      after := params.after
      pinned := params.pinned
      cursor := params.cursor
      limit := limit }
  let hasMore : Bool := limit < rows.length
  let shown := if hasMore then rows.take limit else rows
  let messages ← messagesToJson shown (auth.map AuthUser.userId)
  return pageJson messages (shown.getLast?.map MessageRow.id) hasMore

def readSearchPage (page : Json) : Lib.Pages.Page String (OrderDual String) :=
  { rows := receivedIds page, next := (nextAfter page).map OrderDual.toDual }

def searchAfter (spaceId : String) (auth : Option AuthUser) (params : SearchMessagesQuery)
    (db : Tables) (cursor : Option (OrderDual String)) :
    Option (Lib.Pages.Page String (OrderDual String)) :=
  (searchMessages spaceId auth { params with cursor := cursor.map OrderDual.ofDual } db).toOption.map
    readSearchPage

def searchAll (spaceId : String) (auth : Option AuthUser) (params : SearchMessagesQuery)
    (db : Tables) (pages : Nat) : Option (List String) :=
  Lib.Pages.walk (searchAfter spaceId auth params db) pages none

def containsText (q content : String) : Bool :=
  Lib.Like.contains Char.toLower q.toList content.toList

def mayRead (db : Tables) (spaceId : String) (auth : Option AuthUser) (channelId : String) : Bool :=
  db.channels.any (fun c => c.id = channelId && c.spaceId = some spaceId &&
    (requireChannelReadAccess c auth true db).toBool)

def inReach (db : Tables) (spaceId : String) (auth : Option AuthUser)
    (params : SearchMessagesQuery) (m : MessageRow) : Bool :=
  mayRead db spaceId auth m.channelId && params.channelId.all (fun cid => m.channelId = cid) &&
    otherFilters params.authorId params.before params.after params.pinned m

section

variable {spaceId : String} {auth : Option AuthUser} {params : SearchMessagesQuery} {db : Tables}
  {ids : List String}

theorem searchLimit_pos (limit : Option Int) : 0 < searchLimit limit := by
  unfold searchLimit
  omega

theorem mem_accessible {channels : List ChannelRow} {id : String}
    (h : accessibleChannels auth channels db = .ok ids) :
    id ∈ ids ↔ ∃ c ∈ channels, c.id = id ∧ (requireChannelReadAccess c auth true db).toBool = true := by
  induction channels generalizing ids with
  | nil =>
    cases h
    simp
  | cons c channels ih =>
    rw [accessibleChannels] at h
    cases haccess : requireChannelReadAccess c auth true db with
    | ok =>
      simp only [haccess] at h
      cases hrest : accessibleChannels auth channels db with
      | ok rest =>
        rw [hrest] at h
        cases h
        simp [ih hrest, haccess, Except.toBool, @eq_comm _ id]
      | error e =>
        rw [hrest] at h
        cases h
    | error e =>
      have hskip : accessibleChannels auth channels db = .ok ids := by
        cases e <;> simp_all
      simp [ih hskip, haccess, Except.toBool]

theorem mem_searched {id : String} (h : searchedChannels spaceId auth params.channelId db = .ok ids) :
    id ∈ ids ↔ mayRead db spaceId auth id = true ∧
      params.channelId.all (fun cid => id = cid) = true := by
  obtain ⟨_, -, h⟩ := (Query.bind_ok db).mp h
  obtain ⟨channels, hchannels, h⟩ := (Query.bind_ok db).mp h
  obtain ⟨accessible, haccessible, h⟩ := (Query.bind_ok db).mp h
  obtain ⟨_, -, h⟩ := (Query.bind_ok db).mp h
  have hread : ∀ cid, cid ∈ accessible ↔ mayRead db spaceId auth cid = true := by
    intro cid
    cases hchannels
    rw [mem_accessible haccessible, mayRead, List.any_eq_true]
    constructor
    · rintro ⟨c, hc, hid, haccess⟩
      rw [Channels.inSpace, Lib.Table.mem_orderBy] at hc
      obtain ⟨hmem, hspace⟩ := List.mem_filter.mp hc
      exact ⟨c, hmem, by simp [hid, haccess, of_decide_eq_true hspace]⟩
    · rintro ⟨c, hmem, hc⟩
      simp only [Bool.and_eq_true, decide_eq_true_eq] at hc
      obtain ⟨⟨hid, hspace⟩, haccess⟩ := hc
      refine ⟨c, ?_, hid, haccess⟩
      rw [Channels.inSpace, Lib.Table.mem_orderBy]
      exact List.mem_filter.mpr ⟨hmem, decide_eq_true hspace⟩
  cases hcid : params.channelId with
  | none =>
    rw [hcid] at h
    cases h
    simpa using hread id
  | some cid =>
    rw [hcid] at h
    obtain ⟨_, hmem, h⟩ := (Query.bind_ok db).mp h
    obtain ⟨_, -, h⟩ := (Query.bind_ok db).mp h
    obtain ⟨_, -, h⟩ := (Query.bind_ok db).mp h
    cases h
    have hcid := (hread cid).mp (Query.require_holds hmem)
    constructor
    · intro hid
      rw [List.mem_singleton.mp hid]
      simpa using hcid
    · rintro ⟨-, hid⟩
      simpa using hid

theorem sqlLike_of_contains {q content : String} (h : containsText q content = true) :
    sqlLike ("%" ++ q ++ "%") content = true := by
  rw [sqlLike, String.toList_append, String.toList_append]
  exact Lib.Like.like_of_contains h

def matching (spaceId : String) (ids : List String) (params : SearchMessagesQuery)
    (m : MessageRow) : Bool :=
  m.spaceId = some spaceId && ids.contains m.channelId &&
    params.query.all (fun q => sqlLike ("%" ++ q ++ "%") m.content) &&
    otherFilters params.authorId params.before params.after params.pinned m

def foundIds (spaceId : String) (ids : List String) (params : SearchMessagesQuery) (db : Tables) :
    List String :=
  (Lib.Table.orderBy (fun m => OrderDual.toDual m.id)
    (db.messages.filter (matching spaceId ids params))).map MessageRow.id

theorem beyond_ids (cursor : Option (OrderDual String)) (rows : List MessageRow) :
    (rows.filter (fun m => (cursor.map OrderDual.ofDual).all (fun k => m.id < k))).map
        MessageRow.id =
      Lib.Pages.beyond OrderDual.toDual cursor (rows.map MessageRow.id) := by
  rw [Lib.Pages.beyond, List.filter_map]
  cases cursor <;> rfl

def pageRows (spaceId : String) (ids : List String) (params : SearchMessagesQuery) (db : Tables)
    (cursor : Option String) : List MessageRow :=
  Lib.Table.orderBy (fun m => OrderDual.toDual m.id) (db.messages.filter (fun m =>
    cursor.all (fun k => m.id < k) && matching spaceId ids params m))

theorem searchRows (cursor : Option String) (limit : Nat) :
    Db.Messages.searchMessages spaceId
      { channelIds := ids
        query := params.query
        authorId := params.authorId
        before := params.before
        after := params.after
        pinned := params.pinned
        cursor := cursor
        limit := limit } db =
      .ok ((pageRows spaceId ids params db cursor).take (limit + 1)) := by
  cases ids with
  | nil => simp [Db.Messages.searchMessages, pageRows, matching, Lib.Table.orderBy]
  | cons cid rest =>
    rw [Db.Messages.searchMessages, if_neg (by simp), pageRows]
    simp only [matching, Bool.and_comm, Bool.and_left_comm]

theorem searchMessages_ok (hfiltered : params.filtered = true)
    (hsearched : searchedChannels spaceId auth params.channelId db = .ok ids)
    (cursor : Option String) :
    searchMessages spaceId auth { params with cursor := cursor } db =
      .ok (pageJson (((pageRows spaceId ids params db cursor).take
          (searchLimit params.limit)).map (shownJson db false (auth.map AuthUser.userId)))
        (((pageRows spaceId ids params db cursor).take
          (searchLimit params.limit)).getLast?.map MessageRow.id)
        (decide (searchLimit params.limit < (pageRows spaceId ids params db cursor).length))) := by
  have hlonger : decide (searchLimit params.limit < ((pageRows spaceId ids params db cursor).take
      (searchLimit params.limit + 1)).length) =
      decide (searchLimit params.limit < (pageRows spaceId ids params db cursor).length) :=
    decide_eq_decide.mpr (listed_longer _ _)
  have hfiltered : SearchMessagesQuery.filtered { params with cursor := cursor } = true := hfiltered
  simp only [searchMessages, Query.bind_apply, Query.require_apply, if_pos hfiltered, hsearched,
    searchRows, hlonger, shown_listed, messagesToJson, Query.pure_apply]
  rfl

theorem searchPage (hfiltered : params.filtered = true)
    (hsearched : searchedChannels spaceId auth params.channelId db = .ok ids)
    (cursor : Option (OrderDual String)) :
    searchAfter spaceId auth params db cursor =
      some (Lib.Pages.cutPast OrderDual.toDual 1 (searchLimit params.limit)
        (Lib.Pages.beyond OrderDual.toDual cursor (foundIds spaceId ids params db))) := by
  have hrows : (pageRows spaceId ids params db (cursor.map OrderDual.ofDual)).map MessageRow.id =
      Lib.Pages.beyond OrderDual.toDual cursor (foundIds spaceId ids params db) := by
    rw [foundIds, ← beyond_ids, Lib.Table.filter_orderBy, List.filter_filter, pageRows]
  have hdual : ∀ page, readSearchPage page =
      { rows := (readPage page).rows, next := (readPage page).next.map OrderDual.toDual } :=
    fun _ => rfl
  rw [searchAfter, searchMessages_ok hfiltered hsearched, Except.toOption, Option.map_some, hdual,
    readPage_pageJson _ _ _ (searchLimit_pos params.limit), hrows]
  simp only [Lib.Pages.cut, Lib.Pages.cutPast, Nat.lt_iff_add_one_le]
  split <;> simp

theorem foundIds_descending (hids : Lib.Table.Distinct MessageRow.id db.messages)
    (spaceId : String) (ids : List String) (params : SearchMessagesQuery) :
    (foundIds spaceId ids params db).Pairwise (fun a b => b < a) := by
  have hnodup : (foundIds spaceId ids params db).Nodup := by
    have hrows : ((db.messages.filter (matching spaceId ids params)).map MessageRow.id).Nodup :=
      List.pairwise_map.mpr (hids.filter _)
    exact ((Lib.Table.orderBy_perm _).map _).nodup_iff.mpr hrows
  have hsorted : (foundIds spaceId ids params db).Pairwise (fun a b => b ≤ a) :=
    List.pairwise_map.mpr (Lib.Table.orderBy_dual_sorted _)
  exact hsorted.imp₂ (fun _ _ hle hne => lt_of_le_of_ne hle hne.symm) hnodup

theorem mem_foundIds {id : String} : id ∈ foundIds spaceId ids params db ↔
    ∃ m ∈ db.messages, m.id = id ∧ matching spaceId ids params m = true := by
  rw [foundIds, List.mem_map]
  constructor
  · rintro ⟨m, hm, hid⟩
    obtain ⟨hmem, hmatch⟩ := List.mem_filter.mp (Lib.Table.mem_orderBy.mp hm)
    exact ⟨m, hmem, hid, hmatch⟩
  · rintro ⟨m, hmem, hid, hmatch⟩
    exact ⟨m, Lib.Table.mem_orderBy.mpr (List.mem_filter.mpr ⟨hmem, hmatch⟩), hid⟩

theorem matching_eq (hsearched : searchedChannels spaceId auth params.channelId db = .ok ids)
    {q : String} (hquery : params.query = some q) (m : MessageRow) :
    matching spaceId ids params m = (inReach db spaceId auth params m &&
      (m.spaceId = some spaceId && sqlLike ("%" ++ q ++ "%") m.content)) := by
  have hmem : ids.contains m.channelId = (mayRead db spaceId auth m.channelId &&
      params.channelId.all (fun cid => m.channelId = cid)) := by
    rw [Bool.eq_iff_iff, List.contains_iff_mem, mem_searched hsearched, Bool.and_eq_true]
  rw [matching, hmem, hquery, inReach, Option.all_some]
  ac_rfl

theorem search_exact_iff (hsearched : searchedChannels spaceId auth params.channelId db = .ok ids)
    {q : String} (hquery : params.query = some q)
    (hids : Lib.Table.Distinct MessageRow.id db.messages) :
    (∃ pages received, searchAll spaceId auth params db pages = some received ∧
      received.Pairwise (fun a b => b < a) ∧
      ∀ id, id ∈ received ↔ ∃ m ∈ db.messages, m.id = id ∧
        inReach db spaceId auth params m = true ∧ containsText q m.content = true) ↔
      ∀ m ∈ db.messages, inReach db spaceId auth params m = true →
        (containsText q m.content = true → m.spaceId = some spaceId) ∧
        (m.spaceId = some spaceId → sqlLike ("%" ++ q ++ "%") m.content = true →
          containsText q m.content = true) := by
  have hfiltered : params.filtered = true := by
    simp [SearchMessagesQuery.filtered, hquery]
  have hserve := fun cursor => searchPage hfiltered hsearched (some cursor)
  have hfirst := searchPage hfiltered hsearched none
  have hdescending := foundIds_descending hids spaceId ids params
  have hwalk := Lib.Pages.walk_aligned hserve (searchLimit_pos _) (Nat.le_refl 1) hfirst
    (by rw [Lib.Pages.beyond_none]; exact Lib.Pages.aligned_of_ascending hdescending)
    (Nat.lt_succ_self _)
  rw [Lib.Pages.beyond_none] at hwalk
  constructor
  · rintro ⟨pages, received, hrun, -, hexact⟩ m hm hreach
    have hfound : m.id ∈ foundIds spaceId ids params db ↔ containsText q m.content = true := by
      rw [← Lib.Pages.walk_unique hrun hwalk, hexact]
      constructor
      · rintro ⟨m', hm', hid, -, hcontains⟩
        rwa [← hids.same hm' hm hid]
      · intro hcontains
        exact ⟨m, hm, rfl, hreach, hcontains⟩
    rw [← hfound, mem_foundIds]
    constructor
    · rintro ⟨m', hm', hid, hmatch⟩
      rw [hids.same hm' hm hid, matching_eq hsearched hquery] at hmatch
      simp only [hreach, Bool.true_and, Bool.and_eq_true, decide_eq_true_eq] at hmatch
      exact hmatch.1
    · intro hspace hlike
      exact ⟨m, hm, rfl, by simp [matching_eq hsearched hquery, hreach, hspace, hlike]⟩
  · intro hcondition
    refine ⟨_, _, hwalk, hdescending, fun id => ?_⟩
    rw [mem_foundIds]
    refine exists_congr (fun m => and_congr_right (fun hm => and_congr_right (fun _ => ?_)))
    rw [matching_eq hsearched hquery, Bool.and_eq_true]
    refine and_congr_right (fun hreach => ?_)
    obtain ⟨hspace, hplain⟩ := hcondition m hm hreach
    rw [Bool.and_eq_true, decide_eq_true_eq]
    exact ⟨fun h => hplain h.1 h.2, fun h => ⟨hspace h, sqlLike_of_contains h⟩⟩

def posted : Tables :=
  { chat with
    messages :=
      [{ id := "30", channelId := "20", spaceId := some "10", authorId := "1", content := "Half off" },
        { id := "31", channelId := "20", spaceId := some "10", authorId := "1",
          content := "50% off" }] }

theorem plain_query_exact :
    ∃ pages received, searchAll "10" (some ann) { query := some "half" } posted pages =
        some received ∧ received.Pairwise (fun a b => b < a) ∧
      ∀ id, id ∈ received ↔ ∃ m ∈ posted.messages, m.id = id ∧
        inReach posted "10" (some ann) { query := some "half" } m = true ∧
        containsText "half" m.content = true :=
  (search_exact_iff (by decide +kernel : searchedChannels "10" (some ann) none posted = .ok ["20"])
    rfl (by unfold Lib.Table.Distinct; decide)).mpr (by decide +kernel)

theorem percent_matches_everything :
    searchAll "10" (some ann) { query := some "%" } posted 1 = some ["31", "30"] ∧
      ¬ ∃ pages received, searchAll "10" (some ann) { query := some "%" } posted pages =
          some received ∧ received.Pairwise (fun a b => b < a) ∧
        ∀ id, id ∈ received ↔ ∃ m ∈ posted.messages, m.id = id ∧
          inReach posted "10" (some ann) { query := some "%" } m = true ∧
          containsText "%" m.content = true := by
  have hwalk : searchAll "10" (some ann) { query := some "%" } posted 1 = some ["31", "30"] := by
    decide +kernel
  refine ⟨hwalk, ?_⟩
  rintro ⟨pages, received, hrun, -, hexact⟩
  have hfirst : "30" ∈ received := by
    rw [Lib.Pages.walk_unique hrun hwalk]
    decide
  have hnone : ¬ ∃ m ∈ posted.messages, m.id = "30" ∧
      inReach posted "10" (some ann) { query := some "%" } m = true ∧
      containsText "%" m.content = true := by decide +kernel
  exact hnone ((hexact "30").mp hfirst)

end

end Routes.Messages

end Vokusz
