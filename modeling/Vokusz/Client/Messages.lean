import Vokusz.Routes.MessageList

namespace Vokusz.Client

open Db Permissions Routes.Messages

def asStringOrNull (value : Option Json) : Option String :=
  match value with
  | none | some .null => none
  | some (.str s) => some s
  | some other => some other.toText

def asString (value : Option Json) : String := (asStringOrNull value).getD ""

def parseDigits (cs : List Char) : Option Nat :=
  if cs.isEmpty then none
  else cs.foldlM (fun n c => if c.isDigit then some (10 * n + (c.toNat - 48)) else none) 0

def parseInt (text : String) : Option Int :=
  match text.toList with
  | '-' :: cs => (parseDigits cs).map (fun n => -(n : Int))
  | '+' :: cs => (parseDigits cs).map Int.ofNat
  | cs => (parseDigits cs).map Int.ofNat

def asInt (value : Option Json) : Int :=
  match value with
  | some (.num n) => n
  | some (.bool b) => if b then 1 else 0
  | some (.str s) => (parseInt s).getD 0
  | _ => 0

def asBool (value : Option Json) : Bool := value = some (.bool true)

structure EmojiRef where
  name : String
  id : Option String := none
  deriving DecidableEq, Repr

def parseEmojiToken (value : String) : EmojiRef :=
  let id := value.toList.reverse.takeWhile (fun c => c ≠ ':')
  match value.toList.reverse.dropWhile (fun c => c ≠ ':') with
  | [] => { name := value }
  | _ :: name =>
    if name ≠ [] ∧ id ≠ [] ∧ id.all Char.isDigit = true then
      { name := String.ofList name.reverse, id := some (String.ofList id.reverse) }
    else { name := value }

structure AccordReaction where
  emoji : EmojiRef
  count : Int := 0
  includesMe : Bool := false
  deriving DecidableEq, Repr

def emojiOf (d : Json) : EmojiRef :=
  match d.field? "emoji" with
  | some (.str raw) => parseEmojiToken raw
  | some emoji =>
    { name := asString (emoji.field? "name"), id := asStringOrNull (emoji.field? "id") }
  | none => { name := "" }

def AccordReaction.fromJson (d : Json) : AccordReaction :=
  { emoji := emojiOf d
    count := asInt (d.field? "count")
    includesMe := asBool ((d.field? "me").or (d.field? "includes_me")) }

structure AccordMessage where
  id : String
  content : String := ""
  threadId : Option String := none
  reactions : Option (List AccordReaction) := none
  deriving DecidableEq, Repr

def AccordMessage.fromJson (d : Json) : AccordMessage :=
  { id := asString (d.field? "id")
    content := asString (d.field? "content")
    threadId := asStringOrNull (d.field? "thread_id")
    reactions := ((d.field? "reactions").bind Json.asArray?).map (fun rs =>
      rs.map AccordReaction.fromJson) }

structure MessagesController where
  state : Option (List AccordMessage) := none
  isLoadingOlder : Bool := false
  hasMoreOlder : Bool := true
  loadFailed : Bool := false
  deriving DecidableEq, Repr

abbrev Fetch := List (String × String) → Option (List AccordMessage)

def pageSize : Nat := 50

namespace MessagesController

def loaded (c : MessagesController) : Option (List AccordMessage) → MessagesController
  | none => { c with loadFailed := true }
  | some list =>
    { c with
      state := some list.reverse
      hasMoreOlder := if list.length < pageSize then false else c.hasMoreOlder
      loadFailed := false }

def load (fetch : Fetch) (c : MessagesController) : MessagesController :=
  c.loaded (fetch [("limit", toString pageSize)])

def reload (fetch : Fetch) (c : MessagesController) : MessagesController :=
  load fetch { c with isLoadingOlder := false, hasMoreOlder := true }

def ids (list : List AccordMessage) : List String := list.map AccordMessage.id

def prepend (c : MessagesController) (newest page : List AccordMessage) :
    Nat × MessagesController :=
  let c := if page.length < pageSize then { c with hasMoreOlder := false } else c
  if page.isEmpty then (0, c)
  else
    let fresh := page.reverse.filter (fun m => !(ids newest).contains m.id)
    (fresh.length, { c with state := some (fresh ++ newest) })

def loadOlder (fetch : Fetch) (c : MessagesController) : Nat × MessagesController :=
  if c.isLoadingOlder || !c.hasMoreOlder then (0, c)
  else
    match c.state with
    | none | some [] => (0, c)
    | some (oldest :: newer) =>
      match fetch [("limit", toString pageSize), ("before", oldest.id)] with
      | none => (0, c)
      | some page => c.prepend (oldest :: newer) page

def scrollBack (fetch : Fetch) : Nat → MessagesController → Option MessagesController
  | 0, _ => none
  | fuel + 1, c =>
    if !c.hasMoreOlder then some c
    else if (loadOlder fetch c).1 = 0 then some (loadOlder fetch c).2
    else scrollBack fetch fuel (loadOlder fetch c).2

def browse (fetch : Fetch) (fuel : Nat) : Option MessagesController :=
  scrollBack fetch fuel (load fetch {})

end MessagesController

def parseOption (parse : String → Option α) : Option String → Option (Option α)
  | none => some none
  | some text => (parse text).map some

def parseBool (text : String) : Option Bool :=
  if text = "true" then some true else if text = "false" then some false else none

def parseI64 (text : String) : Option Int :=
  (parseInt text).filter (fun n => -2 ^ 63 ≤ n ∧ n < 2 ^ 63)

def listMessagesQuery (fields : List (String × String)) : Option ListMessagesQuery := do
  let limit ← parseOption parseI64 (fields.lookup "limit")
  let topLevel ← parseOption parseBool (fields.lookup "top_level")
  return {
    after := fields.lookup "after"
    limit := limit
    threadId := fields.lookup "thread_id"
    topLevel := topLevel
    sort := fields.lookup "sort" }

def fetchMessages (db : Tables) (channelId : String) (auth : Option AuthUser) : Fetch := fun fields =>
  (listMessagesQuery fields).bind (fun params =>
    (listMessages channelId auth params db).toOption.bind (fun page =>
      ((page.field? "data").bind Json.asArray?).map (fun items =>
        items.map AccordMessage.fromJson)))

namespace MessagesController

section

variable {fetch : Fetch} {page : List AccordMessage} {c : MessagesController}

theorem prepend_known {newest : List AccordMessage} (hstate : c.state = some newest)
    (hlong : pageSize ≤ page.length) (hknown : ∀ m ∈ page, m ∈ newest) :
    c.prepend newest page = (0, c) := by
  have hfresh : page.reverse.filter (fun m => !(ids newest).contains m.id) = [] := by
    rw [List.filter_eq_nil_iff]
    intro m hm
    have hmem : m.id ∈ ids newest := List.mem_map_of_mem (hknown m (List.mem_reverse.mp hm))
    simp [hmem]
  have hempty : page.isEmpty = false := by
    rw [List.isEmpty_eq_false_iff_exists_mem]
    exact List.exists_mem_of_length_pos (Nat.lt_of_lt_of_le (by decide) hlong)
  rw [prepend, if_neg (Nat.not_lt.mpr hlong)]
  dsimp only
  rw [hempty, hfresh, List.nil_append, ← hstate]
  rfl

theorem loadOlder_known (hopen : c.isLoadingOlder = false) (hmore : c.hasMoreOlder = true)
    (hstate : c.state = some page.reverse) (hlong : pageSize ≤ page.length)
    (hbefore : ∀ id, fetch [("limit", toString pageSize), ("before", id)] = some page) :
    loadOlder fetch c = (0, c) := by
  rw [loadOlder, hopen, hmore, Bool.not_true, Bool.or_false, if_neg Bool.false_ne_true, hstate]
  cases hlist : page.reverse with
  | nil => rfl
  | cons oldest newer =>
    dsimp only
    rw [hbefore]
    refine prepend_known (hstate.trans (congrArg some hlist)) hlong (fun m hm => ?_)
    rw [← hlist]
    exact List.mem_reverse.mpr hm

theorem browse_full (hfirst : fetch [("limit", toString pageSize)] = some page)
    (hbefore : ∀ id, fetch [("limit", toString pageSize), ("before", id)] = some page)
    (hlong : pageSize ≤ page.length) {fuel : Nat} (hfuel : 0 < fuel) :
    browse fetch fuel = some { state := some page.reverse } := by
  have hload : load fetch {} = { state := some page.reverse } := by
    rw [load, hfirst, loaded, if_neg (Nat.not_lt.mpr hlong)]
  have holder : loadOlder fetch (load fetch {}) = (0, load fetch {}) := by
    rw [hload]
    exact loadOlder_known rfl rfl rfl hlong hbefore
  cases fuel with
  | zero => cases hfuel
  | succ fuel =>
    rw [browse, scrollBack, holder]
    simp [hload]

theorem browse_short (hfirst : fetch [("limit", toString pageSize)] = some page)
    (hshort : page.length < pageSize) {fuel : Nat} (hfuel : 0 < fuel) :
    browse fetch fuel = some { state := some page.reverse, hasMoreOlder := false } := by
  have hload : load fetch {} = { state := some page.reverse, hasMoreOlder := false } := by
    rw [load, hfirst, loaded, if_pos hshort]
  cases fuel with
  | zero => cases hfuel
  | succ fuel =>
    rw [browse, scrollBack, hload]
    rfl

end

end MessagesController

section

variable {db : Tables} {channelId : String} {auth : Option AuthUser} {channel : ChannelRow}

theorem limit_parsed : parseI64 (toString pageSize) = some 50 := by decide +kernel

theorem listMessagesQuery_first :
    listMessagesQuery [("limit", toString pageSize)] = some { limit := some 50 } := by
  have hlimit : parseOption parseI64 (some (toString pageSize)) = some (some 50) := by
    rw [parseOption, limit_parsed, Option.map_some]
  rw [listMessagesQuery, List.lookup_cons_self, hlimit]
  rfl

theorem listMessagesQuery_before (id : String) :
    listMessagesQuery [("limit", toString pageSize), ("before", id)] =
      some { limit := some 50 } := by
  have hlimit : parseOption parseI64 (some (toString pageSize)) = some (some 50) := by
    rw [parseOption, limit_parsed, Option.map_some]
  rw [listMessagesQuery, List.lookup_cons_self, hlimit]
  rfl

def newestPage (db : Tables) (channelId : String) (auth : Option AuthUser) : List AccordMessage :=
  ((Db.Messages.topLevelNewestFirst db channelId).take pageSize).map (fun row =>
    AccordMessage.fromJson (messageToJson db (auth.map AuthUser.userId) row))

theorem fetchMessages_eq (hchannel : Channels.getChannelRow channelId db = .ok channel)
    (haccess : requireChannelReadAccess channel auth true db = .ok ())
    {fields : List (String × String)}
    (hquery : listMessagesQuery fields = some { limit := some 50 }) :
    fetchMessages db channelId auth fields = some (newestPage db channelId auth) := by
  have hlisted := @listMessages_ok channelId auth { limit := some 50 } db channel hchannel haccess
    (Db.Messages.topLevelNewestFirst db channelId) rfl
  have hdecoded : (((Db.Messages.topLevelNewestFirst db channelId).take pageSize).map
      (messageToJson db (auth.map AuthUser.userId))).map AccordMessage.fromJson =
      newestPage db channelId auth := by
    rw [List.map_map]
    rfl
  rw [fetchMessages, hquery, Option.bind_some, hlisted]
  exact congrArg some hdecoded

theorem newestPage_ids : MessagesController.ids (newestPage db channelId auth) =
    ((feedIds db channelId none).reverse).take pageSize := by
  rw [MessagesController.ids, newestPage, feedIds, List.map_map, ← List.map_reverse, ← List.map_take]
  rfl

theorem newestPage_length :
    (newestPage db channelId auth).length = min pageSize (feedIds db channelId none).length := by
  rw [newestPage, List.length_map, List.length_take, feedIds, List.length_map,
    Db.Messages.topLevelNewestFirst, List.length_reverse]

def Complete (db : Tables) (channelId : String) (c : MessagesController) : Prop :=
  c.state.map MessagesController.ids = some (feedIds db channelId none) ∧ c.hasMoreOlder = false

theorem history_complete_iff (hchannel : Channels.getChannelRow channelId db = .ok channel)
    (haccess : requireChannelReadAccess channel auth true db = .ok ()) :
    ∃ c, (∀ fuel, 0 < fuel →
        MessagesController.browse (fetchMessages db channelId auth) fuel = some c) ∧
      (Complete db channelId c ↔
        (db.messages.filter (fun m => m.channelId = channelId && m.threadId = none)).length <
          pageSize) := by
  have hfirst := fetchMessages_eq hchannel haccess listMessagesQuery_first
  have hbefore := fun id => fetchMessages_eq hchannel haccess (listMessagesQuery_before id)
  have hcount : (feedIds db channelId none).length =
      (db.messages.filter (fun m => m.channelId = channelId && m.threadId = none)).length := by
    rw [feedIds, List.length_map, Db.Messages.feed, (Lib.Table.orderBy_perm _).length_eq]
  rw [← hcount]
  rcases Nat.lt_or_ge (feedIds db channelId none).length pageSize with hshort | hlong
  · have hpage : (newestPage db channelId auth).length < pageSize := by
      rw [newestPage_length]
      omega
    refine ⟨_, fun fuel hfuel => MessagesController.browse_short hfirst hpage hfuel, ?_⟩
    refine iff_of_true ⟨?_, rfl⟩ hshort
    have hwhole : (feedIds db channelId none).reverse.take pageSize =
        (feedIds db channelId none).reverse :=
      List.take_of_length_le (by rw [List.length_reverse]; omega)
    have hids : MessagesController.ids (newestPage db channelId auth).reverse =
        feedIds db channelId none := by
      rw [MessagesController.ids, List.map_reverse]
      have hnewest : (newestPage db channelId auth).map AccordMessage.id =
          (feedIds db channelId none).reverse.take pageSize := newestPage_ids
      rw [hnewest, hwhole, List.reverse_reverse]
    exact congrArg some hids
  · have hpage : pageSize ≤ (newestPage db channelId auth).length := by
      rw [newestPage_length]
      omega
    refine ⟨_, fun fuel hfuel => MessagesController.browse_full hfirst hbefore hpage hfuel, ?_⟩
    refine iff_of_false (fun hcomplete => ?_) (Nat.not_lt.mpr hlong)
    cases hcomplete.2

end

def lounge (messages : List MessageRow) : Tables :=
  { users := [{ id := "1", username := "ann" }]
    spaces := [{ id := "10", name := "den", ownerId := "1" }]
    members := [{ spaceId := "10", userId := "1" }]
    channels := [{ id := "20", spaceId := some "10" }]
    messages := messages }

def chatter (count : Nat) : List MessageRow :=
  (List.range count).map (fun n =>
    { id := toString (100 + n), channelId := "20", authorId := "1", content := "hi" })

theorem lounge_channel (messages : List MessageRow) :
    Channels.getChannelRow "20" (lounge messages) = .ok { id := "20", spaceId := some "10" } := rfl

theorem lounge_access (messages : List MessageRow) :
    requireChannelReadAccess { id := "20", spaceId := some "10" } (some { userId := "1" }) true
      (lounge messages) = .ok () := rfl

theorem short_history_complete :
    ∃ c, (∀ fuel, 0 < fuel → MessagesController.browse
        (fetchMessages (lounge (chatter 2)) "20" (some { userId := "1" })) fuel = some c) ∧
      Complete (lounge (chatter 2)) "20" c := by
  obtain ⟨c, hrun, hcomplete⟩ := history_complete_iff (lounge_channel (chatter 2))
    (lounge_access (chatter 2))
  exact ⟨c, hrun, hcomplete.mpr (by decide +kernel)⟩

theorem oldest_message_missed :
    ∃ c, (∀ fuel, 0 < fuel → MessagesController.browse
        (fetchMessages (lounge (chatter 51)) "20" (some { userId := "1" })) fuel = some c) ∧
      c.state.map List.length = some 50 ∧ (feedIds (lounge (chatter 51)) "20" none).length = 51 ∧
      c.hasMoreOlder = true ∧ ¬ Complete (lounge (chatter 51)) "20" c := by
  have hchannel := lounge_channel (chatter 51)
  have haccess := lounge_access (chatter 51)
  have hall : (feedIds (lounge (chatter 51)) "20" none).length = 51 := by
    rw [feedIds, List.length_map, Db.Messages.feed, (Lib.Table.orderBy_perm _).length_eq]
    decide +kernel
  have hpage : (newestPage (lounge (chatter 51)) "20" (some { userId := "1" })).length = 50 := by
    rw [newestPage_length, hall]
    rfl
  refine ⟨_, fun fuel hfuel => MessagesController.browse_full
    (fetchMessages_eq hchannel haccess listMessagesQuery_first)
    (fun id => fetchMessages_eq hchannel haccess (listMessagesQuery_before id))
    (Nat.le_of_eq hpage.symm) hfuel, ?_, hall, rfl, fun hcomplete => ?_⟩
  · rw [Option.map_some, List.length_reverse, hpage]
  · cases hcomplete.2

end Vokusz.Client
