import Mathlib.Data.String.Basic
import Vokusz.Lib.Pages
import Vokusz.Routes.Messages

namespace Vokusz.Db.Messages

open Lib

def reactionsOf (db : Tables) (messageId : String) (currentUserId : Option String) :
    List Vokusz.Federation.ReactionAggregate :=
  let rows := db.reactions.filter (fun r => r.messageId = messageId)
  let names := (rows.map ReactionRow.emojiName).foldl
    (fun seen name => if seen.contains name then seen else seen ++ [name]) []
  names.map (fun name =>
    { emojiName := name
      count := (rows.filter (fun r => r.emojiName = name)).length
      includesMe := currentUserId.any (fun u =>
        rows.any (fun r => r.emojiName = name && r.userId = u)) })

def repliesIn (db : Tables) (parentId : String) : List MessageRow :=
  db.messages.filter (fun m => m.threadId = some parentId)

def lastReplyAt (db : Tables) (parentId : String) : Option String :=
  (Table.orderBy id ((repliesIn db parentId).map MessageRow.createdAt)).getLast?

def lastActivity (db : Tables) (m : MessageRow) : String :=
  (lastReplyAt db m.id).getD m.createdAt

def topLevelPosts (db : Tables) (channelId : String) : List MessageRow :=
  db.messages.filter (fun m => m.channelId = channelId && m.threadId = none)

-- Posts with the same last activity come as the table is scanned.
def sortPosts (db : Tables) (sort : String) (posts : List MessageRow) : List MessageRow :=
  if sort = "latest_activity" then
    Table.orderBy (fun m => OrderDual.toDual (lastActivity db m)) posts
  else if sort = "oldest" then Table.orderBy MessageRow.id posts
  else Table.orderBy (fun m => OrderDual.toDual m.id) posts

def listForumPosts (channelId : String) (after : Option String) (limit : Nat) (sort : String) :
    Query (List MessageRow) :=
  fun db =>
    let posts := match after with
      | some afterId => newerThan afterId (topLevelPosts db channelId)
      | none => topLevelPosts db channelId
    .ok ((sortPosts db sort posts).take (limit + 1))

end Vokusz.Db.Messages

namespace Vokusz.Routes.Messages

open Db Permissions Federation

def messageToJson (db : Tables) (currentUserId : Option String) (row : MessageRow) : Json :=
  messageRowToJson row ((Attachments.ofMessage db row.id).map attachmentJson)
    (Db.Messages.reactionsOf db row.id currentUserId) (Db.Messages.repliesIn db row.id).length

def messagesToJson (rows : List MessageRow) (currentUserId : Option String) :
    Query (List Json) :=
  fun db => .ok (rows.map (messageToJson db currentUserId))

def withLastReply (db : Tables) (row : MessageRow) (json : Json) : Json :=
  match Db.Messages.lastReplyAt db row.id, json with
  | some ts, .obj fields => .obj (fields ++ [("last_reply_at", .str ts)])
  | _, json => json

def messagesToForumJson (rows : List MessageRow) (currentUserId : Option String) :
    Query (List Json) :=
  fun db => .ok (rows.map (fun row => withLastReply db row (messageToJson db currentUserId row)))

structure ListMessagesQuery where
  after : Option String := none
  limit : Option Int := none
  threadId : Option String := none
  topLevel : Option Bool := none
  sort : Option String := none
  deriving DecidableEq, Repr

def pageLimit (limit : Option Int) : Nat := (max 1 (min (limit.getD 50) 100)).toNat

def pageJson (messages : List Json) (lastId : Option String) (hasMore : Bool) : Json :=
  .obj (("data", .arr messages) ::
    if hasMore || lastId.isSome then
      [("cursor", .obj [("after", .str (lastId.getD "")), ("has_more", .bool hasMore)])]
    else [])

def listMessages (channelId : String) (auth : Option AuthUser) (params : ListMessagesQuery) :
    Query Json := do
  let channel ← Channels.getChannelRow channelId
  requireChannelReadAccess channel auth true
  let currentUserId := auth.map AuthUser.userId
  let limit := pageLimit params.limit
  let isForum := params.topLevel.getD false
  let rows ←
    if isForum then
      Db.Messages.listForumPosts channelId params.after limit
        (params.sort.getD "latest_activity")
    else Db.Messages.listMessages channelId params.after limit params.threadId
  let hasMore : Bool := limit < rows.length
  let shown := if hasMore then rows.take limit else rows
  let messages ←
    if isForum then messagesToForumJson shown currentUserId
    else messagesToJson shown currentUserId
  return pageJson messages (shown.getLast?.map MessageRow.id) hasMore

def receivedIds (page : Json) : List String :=
  (((page.field? "data").bind Json.asArray?).getD []).filterMap (Json.getStr? "id")

def hasMore (cursor : Json) : Bool := cursor.field? "has_more" = some (.bool true)

def nextAfter (page : Json) : Option String :=
  ((page.field? "cursor").filter hasMore).bind (Json.getStr? "after")

def readPage (page : Json) : Lib.Pages.Page String String :=
  { rows := receivedIds page, next := nextAfter page }

def pageAfter (channelId : String) (auth : Option AuthUser) (params : ListMessagesQuery)
    (db : Tables) (after : Option String) : Option (Lib.Pages.Page String String) :=
  (listMessages channelId auth { params with after := after } db).toOption.map readPage

def enumerate (channelId : String) (auth : Option AuthUser) (params : ListMessagesQuery)
    (db : Tables) (pages : Nat) : Option (List String) :=
  Lib.Pages.walk (pageAfter channelId auth params db) pages none

section

variable {channelId : String} {auth : Option AuthUser} {params : ListMessagesQuery} {db : Tables}
  {channel : ChannelRow}

theorem pageLimit_pos (limit : Option Int) : 0 < pageLimit limit := by
  unfold pageLimit
  omega

def shownJson (db : Tables) (forum : Bool) (me : Option String) (row : MessageRow) : Json :=
  if forum then withLastReply db row (messageToJson db me row) else messageToJson db me row

theorem shownJson_id (db : Tables) (forum : Bool) (me : Option String) (row : MessageRow) :
    (shownJson db forum me row).getStr? "id" = some row.id := by
  cases forum with
  | false => rfl
  | true => cases hlast : Db.Messages.lastReplyAt db row.id <;> simp [shownJson, withLastReply, hlast] <;> rfl

theorem receivedIds_pageJson (rows : List MessageRow) (forum : Bool) (me lastId : Option String)
    (more : Bool) :
    receivedIds (pageJson (rows.map (shownJson db forum me)) lastId more) =
      rows.map MessageRow.id := by
  have hids : (rows.map (shownJson db forum me)).filterMap (Json.getStr? "id") =
      rows.map MessageRow.id := by
    induction rows with
    | nil => rfl
    | cons row rows ih =>
      rw [List.map_cons, List.filterMap_cons, List.map_cons, ih, shownJson_id]
  simpa [receivedIds, pageJson, Json.field?, Json.asArray?] using hids

theorem nextAfter_pageJson (messages : List Json) (lastId : Option String) (more : Bool) :
    nextAfter (pageJson messages lastId more) = if more then some (lastId.getD "") else none := by
  cases more <;> cases lastId <;> rfl

theorem listed_longer {ρ : Type} (rows : List ρ) (limit : Nat) :
    limit < (rows.take (limit + 1)).length ↔ limit < rows.length := by
  rw [List.length_take]
  omega

theorem shown_listed {ρ : Type} (rows : List ρ) (limit : Nat) :
    (if decide (limit < rows.length) = true then (rows.take (limit + 1)).take limit
      else rows.take (limit + 1)) = rows.take limit := by
  by_cases hlong : limit < rows.length
  · rw [if_pos (decide_eq_true hlong), List.take_take]
    simp
  · rw [if_neg (by simpa using hlong)]
    rw [List.take_of_length_le (by omega), List.take_of_length_le (by omega)]

theorem readPage_pageJson (rows : List MessageRow) (forum : Bool) (me : Option String) {limit : Nat}
    (hpos : 0 < limit) :
    readPage (pageJson ((rows.take limit).map (shownJson db forum me))
        ((rows.take limit).getLast?.map MessageRow.id) (decide (limit < rows.length))) =
      Lib.Pages.cut id limit (rows.map MessageRow.id) := by
  have hnext : (if decide (limit < rows.length) = true then
        some (((rows.take limit).getLast?.map MessageRow.id).getD "") else none) =
      if limit < (rows.map MessageRow.id).length then
        ((rows.map MessageRow.id).take limit).getLast?.map id else none := by
    by_cases hlong : limit < rows.length
    · have hne : rows.take limit ≠ [] := by
        intro hnil
        have hlen := congrArg List.length hnil
        rw [List.length_take, List.length_nil] at hlen
        omega
      rw [if_pos (by simpa using hlong), if_pos (by simpa using hlong), ← List.map_take,
        List.getLast?_map, List.getLast?_eq_getLast_of_ne_nil hne]
      rfl
    · rw [if_neg (by simpa using hlong), if_neg (by simpa using hlong)]
  rw [readPage, receivedIds_pageJson, nextAfter_pageJson, hnext, List.map_take]
  rfl

theorem listMessages_ok (hchannel : Channels.getChannelRow channelId db = .ok channel)
    (haccess : requireChannelReadAccess channel auth true db = .ok ()) {rows : List MessageRow}
    (hrows : (if params.topLevel.getD false = true then
        Db.Messages.listForumPosts channelId params.after (pageLimit params.limit)
          (params.sort.getD "latest_activity")
      else Db.Messages.listMessages channelId params.after (pageLimit params.limit)
        params.threadId) db = .ok (rows.take (pageLimit params.limit + 1))) :
    listMessages channelId auth params db =
      .ok (pageJson ((rows.take (pageLimit params.limit)).map
          (shownJson db (params.topLevel.getD false) (auth.map AuthUser.userId)))
        ((rows.take (pageLimit params.limit)).getLast?.map MessageRow.id)
        (decide (pageLimit params.limit < rows.length))) := by
  have hlonger : decide (pageLimit params.limit <
      (rows.take (pageLimit params.limit + 1)).length) =
        decide (pageLimit params.limit < rows.length) :=
    decide_eq_decide.mpr (listed_longer rows _)
  cases hforum : params.topLevel.getD false with
  | false =>
    rw [hforum, if_neg Bool.false_ne_true] at hrows
    simp only [listMessages, Query.bind_apply, hchannel, haccess, hforum, Bool.false_eq_true,
      if_false, hrows, messagesToJson, shown_listed, Query.pure_apply, hlonger]
    rfl
  | true =>
    rw [hforum, if_pos rfl] at hrows
    simp only [listMessages, Query.bind_apply, hchannel, haccess, hforum, if_true, hrows,
      messagesToForumJson, shown_listed, Query.pure_apply, hlonger]
    rfl

theorem pageAfter_eq (hchannel : Channels.getChannelRow channelId db = .ok channel)
    (haccess : requireChannelReadAccess channel auth true db = .ok ()) (after : Option String)
    {rows : List MessageRow}
    (hrows : (if params.topLevel.getD false = true then
        Db.Messages.listForumPosts channelId after (pageLimit params.limit)
          (params.sort.getD "latest_activity")
      else Db.Messages.listMessages channelId after (pageLimit params.limit)
        params.threadId) db = .ok (rows.take (pageLimit params.limit + 1))) :
    pageAfter channelId auth params db after =
      some (Lib.Pages.cut id (pageLimit params.limit) (rows.map MessageRow.id)) := by
  have hlisted :=
    @listMessages_ok channelId auth { params with after := after } db _ hchannel haccess _ hrows
  rw [pageAfter, hlisted, Except.toOption, Option.map_some,
    readPage_pageJson rows _ _ (pageLimit_pos params.limit)]

def feedIds (db : Tables) (channelId : String) (threadId : Option String) : List String :=
  (Db.Messages.feed db channelId threadId).map MessageRow.id

theorem newerThan_ids (afterId : String) (rows : List MessageRow) :
    (Db.Messages.newerThan afterId rows).map MessageRow.id =
      Lib.Pages.beyond id (some afterId) (rows.map MessageRow.id) := by
  rw [Db.Messages.newerThan, Lib.Pages.beyond, List.filter_map]
  rfl

theorem pageAfter_some (hchannel : Channels.getChannelRow channelId db = .ok channel)
    (haccess : requireChannelReadAccess channel auth true db = .ok ())
    (hfeed : params.topLevel.getD false = false) (afterId : String) :
    pageAfter channelId auth params db (some afterId) =
      some (Lib.Pages.cut id (pageLimit params.limit)
        (Lib.Pages.beyond id (some afterId) (feedIds db channelId params.threadId))) := by
  rw [feedIds, ← newerThan_ids]
  refine pageAfter_eq hchannel haccess (some afterId) ?_
  rw [hfeed, if_neg Bool.false_ne_true]
  cases params.threadId <;> rfl

theorem pageAfter_none (hchannel : Channels.getChannelRow channelId db = .ok channel)
    (haccess : requireChannelReadAccess channel auth true db = .ok ())
    (hfeed : params.topLevel.getD false = false) (hroot : params.threadId = none) :
    pageAfter channelId auth params db none =
      some (Lib.Pages.cut id (pageLimit params.limit) (feedIds db channelId none).reverse) := by
  rw [feedIds, ← List.map_reverse]
  refine pageAfter_eq hchannel haccess none ?_
  rw [hfeed, if_neg Bool.false_ne_true, hroot]
  rfl

theorem feedIds_sorted (db : Tables) (channelId : String) (threadId : Option String) :
    (feedIds db channelId threadId).Pairwise (fun a b => a ≤ b) :=
  List.pairwise_map.mpr (Lib.Table.orderBy_sorted _)

theorem feedIds_ascending (hids : Lib.Table.Distinct MessageRow.id db.messages)
    (channelId : String) (threadId : Option String) :
    (feedIds db channelId threadId).Pairwise (fun a b => a < b) := by
  have hdistinct : (feedIds db channelId threadId).Nodup := by
    have hrows : ((db.messages.filter (fun m =>
        m.channelId = channelId && m.threadId = threadId)).map MessageRow.id).Nodup :=
      List.pairwise_map.mpr (hids.filter _)
    exact ((Lib.Table.orderBy_perm _).map _).nodup_iff.mpr hrows
  exact (feedIds_sorted db channelId threadId).imp₂ (fun _ _ hle hne => lt_of_le_of_ne hle hne)
    hdistinct

theorem topLevel_enumerated_iff (hchannel : Channels.getChannelRow channelId db = .ok channel)
    (haccess : requireChannelReadAccess channel auth true db = .ok ())
    (hfeed : params.topLevel.getD false = false) (hroot : params.threadId = none) :
    (∃ pages received, enumerate channelId auth params db pages = some received ∧
      received.Perm ((db.messages.filter (fun m =>
        m.channelId = channelId && m.threadId = none)).map MessageRow.id)) ↔
      (db.messages.filter (fun m => m.channelId = channelId && m.threadId = none)).length ≤
        pageLimit params.limit := by
  have hserve := pageAfter_some hchannel haccess hfeed
  rw [hroot] at hserve
  have hfeedPerm : (feedIds db channelId none).Perm ((db.messages.filter (fun m =>
      m.channelId = channelId && m.threadId = none)).map MessageRow.id) :=
    (Lib.Table.orderBy_perm _).map _
  have hwalk := Lib.Pages.walk_newest_first_iff hserve
    (pageAfter_none hchannel haccess hfeed hroot) (pageLimit_pos _) (feedIds_sorted db channelId none)
  have hlength := hfeedPerm.length_eq
  rw [List.length_map] at hlength
  rw [← hlength, ← hwalk]
  constructor
  · rintro ⟨pages, received, hrun, hperm⟩
    exact ⟨pages, received, hrun, hperm.trans hfeedPerm.symm⟩
  · rintro ⟨pages, received, hrun, hperm⟩
    exact ⟨pages, received, hrun, hperm.trans hfeedPerm⟩

theorem thread_enumerated (hchannel : Channels.getChannelRow channelId db = .ok channel)
    (haccess : requireChannelReadAccess channel auth true db = .ok ())
    (hfeed : params.topLevel.getD false = false) {tid : String}
    (hthread : params.threadId = some tid)
    (hids : Lib.Table.Distinct MessageRow.id db.messages) :
    enumerate channelId auth params db
        ((Db.Messages.feed db channelId (some tid)).length + 1) =
      some (feedIds db channelId (some tid)) := by
  have hserve := pageAfter_some hchannel haccess hfeed
  rw [hthread] at hserve
  have hfirst : pageAfter channelId auth params db none =
      some (Lib.Pages.cut id (pageLimit params.limit)
        (Lib.Pages.beyond id none (feedIds db channelId (some tid)))) := by
    rw [Lib.Pages.beyond_none, feedIds]
    refine pageAfter_eq hchannel haccess none ?_
    rw [hfeed, if_neg Bool.false_ne_true, hthread]
    rfl
  have hsorted := feedIds_ascending hids channelId (some tid)
  rw [enumerate, Lib.Pages.walk_ascending hserve (pageLimit_pos _) hsorted hfirst
    (by simp [feedIds]), Lib.Pages.beyond_none]

def requestedSort (params : ListMessagesQuery) : String := params.sort.getD "latest_activity"

def InOrder (db : Tables) (sort : String) (a b : MessageRow) : Prop :=
  if sort = "latest_activity" then
    Db.Messages.lastActivity db b ≤ Db.Messages.lastActivity db a
  else if sort = "oldest" then a.id ≤ b.id
  else b.id ≤ a.id

def postIds (db : Tables) (channelId sort : String) : List String :=
  (Db.Messages.sortPosts db sort (Db.Messages.topLevelPosts db channelId)).map MessageRow.id

def FollowsIds (db : Tables) (channelId sort : String) (limit : Nat) : Prop :=
  sort = "oldest" ∨ (Db.Messages.topLevelPosts db channelId).length ≤ limit ∨
    sort = "latest_activity" ∧ Lib.Pages.Aligned id 1 limit (postIds db channelId sort)

theorem sortPosts_perm (db : Tables) (sort : String) (posts : List MessageRow) :
    (Db.Messages.sortPosts db sort posts).Perm posts := by
  unfold Db.Messages.sortPosts
  split
  · exact Lib.Table.orderBy_perm posts
  · split <;> exact Lib.Table.orderBy_perm posts

theorem sortPosts_inOrder (db : Tables) (sort : String) (posts : List MessageRow) :
    (Db.Messages.sortPosts db sort posts).Pairwise (InOrder db sort) := by
  unfold Db.Messages.sortPosts InOrder
  split
  · exact Lib.Table.orderBy_dual_sorted posts
  · split
    · exact Lib.Table.orderBy_sorted posts
    · exact Lib.Table.orderBy_dual_sorted posts

theorem sortPosts_newerThan (db : Tables) (sort afterId : String) (posts : List MessageRow) :
    Db.Messages.sortPosts db sort (Db.Messages.newerThan afterId posts) =
      Db.Messages.newerThan afterId (Db.Messages.sortPosts db sort posts) := by
  unfold Db.Messages.sortPosts Db.Messages.newerThan
  split
  · exact (Lib.Table.filter_orderBy posts).symm
  · split <;> exact (Lib.Table.filter_orderBy posts).symm

theorem forumPage (hchannel : Channels.getChannelRow channelId db = .ok channel)
    (haccess : requireChannelReadAccess channel auth true db = .ok ())
    (hforum : params.topLevel = some true) (after : Option String) :
    pageAfter channelId auth params db after =
      some (Lib.Pages.cut id (pageLimit params.limit)
        (Lib.Pages.beyond id after (postIds db channelId (requestedSort params)))) := by
  cases after with
  | none =>
    rw [Lib.Pages.beyond_none, postIds]
    refine pageAfter_eq hchannel haccess none ?_
    rw [hforum, Option.getD_some, if_pos rfl]
    rfl
  | some afterId =>
    rw [postIds, ← newerThan_ids, ← sortPosts_newerThan]
    refine pageAfter_eq hchannel haccess (some afterId) ?_
    rw [hforum, Option.getD_some, if_pos rfl]
    rfl

theorem postIds_nodup (hids : Lib.Table.Distinct MessageRow.id db.messages)
    (channelId sort : String) : (postIds db channelId sort).Nodup := by
  have hposts : ((Db.Messages.topLevelPosts db channelId).map MessageRow.id).Nodup :=
    List.pairwise_map.mpr (hids.filter _)
  exact ((sortPosts_perm db sort _).map _).nodup_iff.mpr hposts

theorem aligned_postIds_iff (hids : Lib.Table.Distinct MessageRow.id db.messages)
    (channelId sort : String) {limit : Nat} (hpos : 0 < limit) :
    Lib.Pages.Aligned id 1 limit (postIds db channelId sort) ↔
      FollowsIds db channelId sort limit := by
  have hnodup := postIds_nodup hids channelId sort
  have hlength : (postIds db channelId sort).length =
      (Db.Messages.topLevelPosts db channelId).length := by
    rw [postIds, List.length_map, (sortPosts_perm db sort _).length_eq]
  rw [FollowsIds, ← hlength]
  by_cases hactivity : sort = "latest_activity"
  · subst hactivity
    constructor
    · intro haligned
      exact .inr (.inr ⟨rfl, haligned⟩)
    · rintro (hsort | hshort | ⟨-, haligned⟩)
      · exact absurd hsort (by decide)
      · exact Lib.Pages.aligned_short (Nat.lt_succ_of_le hshort)
      · exact haligned
  · have hsorted := sortPosts_inOrder db sort (Db.Messages.topLevelPosts db channelId)
    by_cases holdest : sort = "oldest"
    · have hids : (postIds db channelId sort).Pairwise (fun a b => a ≤ b) :=
        List.pairwise_map.mpr (hsorted.imp (by simp [InOrder, holdest]))
      have hascending : (postIds db channelId sort).Pairwise (fun a b => a < b) :=
        hids.imp₂ (fun _ _ hle hne => lt_of_le_of_ne hle hne) hnodup
      exact ⟨fun _ => .inl holdest, fun _ => Lib.Pages.aligned_of_ascending hascending⟩
    · have hids : (postIds db channelId sort).Pairwise (fun a b => b ≤ a) :=
        List.pairwise_map.mpr (hsorted.imp (by simp [InOrder, holdest, hactivity]))
      have hdescending : (postIds db channelId sort).Pairwise (fun a b => b < a) :=
        hids.imp₂ (fun _ _ hle hne => lt_of_le_of_ne hle hne.symm) hnodup
      have hiff := Lib.Pages.aligned_of_descending hpos hdescending
      constructor
      · intro haligned
        exact .inr (.inl (hiff.mp haligned))
      · rintro (hsort | hshort | ⟨hsort, -⟩)
        · exact absurd hsort holdest
        · exact hiff.mpr hshort
        · exact absurd hsort hactivity

theorem forum_enumerated_iff (hchannel : Channels.getChannelRow channelId db = .ok channel)
    (haccess : requireChannelReadAccess channel auth true db = .ok ())
    (hforum : params.topLevel = some true)
    (hids : Lib.Table.Distinct MessageRow.id db.messages) :
    (∃ (pages : Nat) (posts : List MessageRow),
      enumerate channelId auth params db pages = some (posts.map MessageRow.id) ∧
      posts.Perm (Db.Messages.topLevelPosts db channelId) ∧
      posts.Pairwise (InOrder db (requestedSort params))) ↔
      FollowsIds db channelId (requestedSort params) (pageLimit params.limit) := by
  have hserve := fun k => forumPage hchannel haccess hforum (some k)
  have hfirst := forumPage hchannel haccess hforum none
  have hpos := pageLimit_pos params.limit
  have hnodup := postIds_nodup hids channelId (requestedSort params)
  rw [← aligned_postIds_iff hids channelId (requestedSort params) hpos]
  constructor
  · rintro ⟨pages, posts, hwalk, hperm, -⟩
    have hreceived : (posts.map MessageRow.id).Perm (postIds db channelId (requestedSort params)) :=
      (hperm.trans (sortPosts_perm db _ _).symm).map _
    rw [Lib.Pages.beyond_none] at hfirst
    exact (Lib.Pages.walk_perm_iff hserve hpos (Nat.le_refl 1) hnodup hfirst).mp
      ⟨pages, _, hwalk, hreceived⟩
  · intro haligned
    have hwalk := Lib.Pages.walk_aligned hserve hpos (Nat.le_refl 1) hfirst
      (by rwa [Lib.Pages.beyond_none]) (Nat.lt_succ_self _)
    rw [Lib.Pages.beyond_none] at hwalk
    exact ⟨_, _, hwalk, sortPosts_perm db _ _, sortPosts_inOrder db _ _⟩

end

def chat : Tables :=
  { users := [{ id := "1", username := "ann" }]
    spaces := [{ id := "10", name := "den", ownerId := "1" }]
    members := [{ spaceId := "10", userId := "1" }]
    channels := [{ id := "20", spaceId := some "10" }]
    messages :=
      [{ id := "30", channelId := "20", authorId := "1", content := "first" },
        { id := "31", channelId := "20", authorId := "1", content := "second" }] }

def ann : AuthUser := { userId := "1" }

theorem short_backlog_enumerated :
    ∃ pages received, enumerate "20" (some ann) { limit := some 2 } chat pages = some received ∧
      received.Perm ((chat.messages.filter (fun m =>
        m.channelId = "20" && m.threadId = none)).map MessageRow.id) :=
  (topLevel_enumerated_iff
    (rfl : Channels.getChannelRow "20" chat = .ok { id := "20", spaceId := some "10" })
    (by decide +kernel) rfl rfl).mpr (by decide +kernel)

def answered : Tables :=
  { chat with
    messages := chat.messages ++
      [{ id := "32", channelId := "20", authorId := "1", content := "a", threadId := some "30" },
        { id := "33", channelId := "20", authorId := "1", content := "b", threadId := some "30" }] }

theorem thread_enumerated_answered :
    feedIds answered "20" (some "30") = ["32", "33"] ∧
      enumerate "20" (some ann) { limit := some 1, threadId := some "30" } answered
          ((Db.Messages.feed answered "20" (some "30")).length + 1) =
        some (feedIds answered "20" (some "30")) :=
  ⟨by decide +kernel, thread_enumerated
    (rfl : Channels.getChannelRow "20" answered = .ok { id := "20", spaceId := some "10" })
    (by decide +kernel) rfl rfl (by unfold Lib.Table.Distinct; decide)⟩

theorem older_message_never_listed :
    enumerate "20" (some ann) { limit := some 1 } chat 2 = some ["31"] ∧
      ¬ ∃ pages received,
        enumerate "20" (some ann) { limit := some 1 } chat pages = some received ∧
          received.Perm ((chat.messages.filter (fun m =>
            m.channelId = "20" && m.threadId = none)).map MessageRow.id) := by
  have htwo : pageAfter "20" (some ann) { limit := some 1 } chat none =
      some { rows := ["31"], next := some "31" } := by decide +kernel
  have hlast : pageAfter "20" (some ann) { limit := some 1 } chat (some "31") =
      some { rows := [], next := none } := by decide +kernel
  refine ⟨by decide +kernel, ?_⟩
  rintro ⟨pages, received, hrun, hperm⟩
  have hreceived : received = ["31"] := Lib.Pages.walk_two_pages htwo hlast hrun
  have hlength := hperm.length_eq
  rw [hreceived] at hlength
  exact absurd hlength (by decide +kernel)

def forum (sort : String) : ListMessagesQuery :=
  { limit := some 1, topLevel := some true, sort := some sort }

theorem oldest_first_enumerated :
    ∃ (pages : Nat) (posts : List MessageRow),
      enumerate "20" (some ann) (forum "oldest") chat pages = some (posts.map MessageRow.id) ∧
      posts.Perm (Db.Messages.topLevelPosts chat "20") ∧
      posts.Pairwise (InOrder chat (requestedSort (forum "oldest"))) :=
  (forum_enumerated_iff
    (rfl : Channels.getChannelRow "20" chat = .ok { id := "20", spaceId := some "10" })
    (by decide +kernel) rfl (by unfold Lib.Table.Distinct; decide)).mpr (.inl rfl)

theorem newest_first_cut_short :
    enumerate "20" (some ann) (forum "newest") chat 2 = some ["31"] ∧
      ¬ ∃ (pages : Nat) (posts : List MessageRow),
        enumerate "20" (some ann) (forum "newest") chat pages = some (posts.map MessageRow.id) ∧
        posts.Perm (Db.Messages.topLevelPosts chat "20") ∧
        posts.Pairwise (InOrder chat (requestedSort (forum "newest"))) := by
  have htwo : pageAfter "20" (some ann) (forum "newest") chat none =
      some { rows := ["31"], next := some "31" } := by decide +kernel
  have hlast : pageAfter "20" (some ann) (forum "newest") chat (some "31") =
      some { rows := [], next := none } := by decide +kernel
  refine ⟨by decide +kernel, ?_⟩
  rintro ⟨pages, posts, hrun, hperm, -⟩
  have hreceived : posts.map MessageRow.id = ["31"] := Lib.Pages.walk_two_pages htwo hlast hrun
  have hlength := (hperm.map MessageRow.id).length_eq
  rw [hreceived] at hlength
  exact absurd hlength (by decide +kernel)

end Vokusz.Routes.Messages
