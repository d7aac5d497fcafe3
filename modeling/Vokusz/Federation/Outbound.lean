import Vokusz.Federation.Mirror

namespace Vokusz.Federation

open Db Mapping
open Lib (Prog)

namespace Sender

def distinctTargets (ourDomain : String) : List String → List String → List String
  | _, [] => []
  | seen, target :: targets =>
    if eqIgnoreAsciiCase target ourDomain || seen.contains (toAsciiLowercase target) then
      distinctTargets ourDomain seen targets
    else target :: distinctTargets ourDomain (toAsciiLowercase target :: seen) targets

def enqueueTo (payload : Json) (target : String) : App Unit := do
  let id ← App.generateId
  Federation.outboxEnqueue id target payload

def enqueue (envelope : FederationEnvelope) (targets : List String) : App Unit := do
  let fed ← App.federation
  match fed with
  | none => return ()
  | some fed =>
    Prog.forEach (distinctTargets fed.domain [] targets) (enqueueTo envelope.toJson)

section

variable {γ : Type} {view : AppState → γ}

theorem preserves_enqueue (envelope : FederationEnvelope) (targets : List String)
    (hbox : ∀ (s : AppState) box, view (s.withDb { s.db with federationOutbox := box }) = view s)
    (hid : ∀ (s : AppState) (n : Nat), view { s with snowflake := n } = view s) :
    (enqueue envelope targets).Preserves view := by
  refine (Prog.preserves_get _).bind ?_
  intro fed
  cases fed with
  | none => exact Prog.preserves_pure _
  | some fed =>
    apply Prog.preserves_forEach
    intro target _
    refine (App.preserves_generateId hid).bind ?_
    intro id
    refine (Prog.preserves_get _).bind ?_
    intro now
    exact App.preserves_write (fun s => hbox s _)

end

-- `reply` is what the network gives back for the signed POST.
def requestSigned (targetDomain path : String) (body : Json) (reply : Except AppError Response) :
    App Response := do
  let fed ← App.federation
  Prog.require fed.isSome (.internal "federation disabled")
  let peer ← Federation.getPeer targetDomain
  match peer with
  | none => Prog.fail (.notFound ("unknown peer " ++ targetDomain))
  | some peer =>
    Prog.require peer.isTrusted (.forbidden ("peer " ++ targetDomain ++ " not trusted"))
    Prog.modify (fun s =>
      { s with
        requests := s.requests ++ [{ targetDomain := targetDomain, path := path, body := body }] })
    Prog.ofExcept reply

theorem preserves_requestSigned {γ : Type} {view : AppState → γ} (targetDomain path : String)
    (body : Json) (reply : Except AppError Response)
    (hrequests : ∀ (s : AppState) rs, view { s with requests := rs } = view s) :
    (requestSigned targetDomain path body reply).Preserves view := by
  refine (Prog.preserves_get _).bind (fun fed => ?_)
  refine (Prog.preserves_require _ _).bind (fun _ => ?_)
  refine (App.preserves_lift _).bind (fun peer => ?_)
  cases peer with
  | none => exact Prog.preserves_fail _
  | some peer =>
    refine (Prog.preserves_require _ _).bind (fun _ => ?_)
    refine (Prog.preserves_modify (fun s => hrequests s _)).bind (fun _ => ?_)
    exact Prog.preserves_ofExcept _

theorem keeps_requestSigned {I : AppState → Prop} (targetDomain path : String)
    (body : Json) (reply : Except AppError Response)
    (hrequests : ∀ (s : AppState) rs, I s → I { s with requests := rs }) :
    (requestSigned targetDomain path body reply).Keeps I (fun response => reply = .ok response) := by
  refine ((Prog.preserves_get _).keeps_of_still).bind (fun fed _ => ?_)
  refine Prog.keeps_require.bind (fun _ _ => ?_)
  refine (App.preserves_lift _).keeps_of_still.bind (fun peer _ => ?_)
  cases peer with
  | none => trivial
  | some peer =>
    refine Prog.keeps_require.bind (fun _ _ => ?_)
    refine (Prog.keeps_modify (fun s hs => hrequests s _ hs)).bind (fun _ _ => ?_)
    exact Prog.keeps_ofExcept (fun _ h => h)

def requireFederation : App FederationContext := do
  let fed ← App.federation
  match fed with
  | some fed => return fed
  | none => Prog.fail (.internal "federation disabled")

theorem preserves_requireFederation {γ : Type} {view : AppState → γ} :
    requireFederation.Preserves view := by
  refine (Prog.preserves_get _).bind (fun fed => ?_)
  cases fed with
  | none => exact Prog.preserves_fail _
  | some fed => exact Prog.preserves_pure _

end Sender

namespace Outbound

def fanoutToTargets (localSpaceId eventType : String) (payload : Json) (targets : List String) :
    App Unit := do
  let fed ← App.federation
  match fed with
  | none => return ()
  | some fed =>
    if targets.isEmpty then return ()
    else
      let origin ← Federation.spaceOrigin localSpaceId
      if origin.isSome then return ()
      else
        let eventId ← App.generateId
        Sender.enqueue
          { eventId := eventId
            origin := fed.domain
            spaceId := some (qualify localSpaceId fed.domain)
            eventType := eventType
            payload := payload }
          targets

def fanoutToSpace (localSpaceId eventType : String) (payload : Json) : App Unit := do
  let targets ← Federation.interestedServers localSpaceId
  fanoutToTargets localSpaceId eventType payload targets

def fanoutIfSpace (localSpaceId : Option String) (eventType : String) (payload : Json) :
    App Unit :=
  match localSpaceId with
  | some sid => fanoutToSpace sid eventType payload
  | none => return ()

section

variable {γ : Type} {view : AppState → γ}
  (hbox : ∀ (s : AppState) box, view (s.withDb { s.db with federationOutbox := box }) = view s)
  (hid : ∀ (s : AppState) (n : Nat), view { s with snowflake := n } = view s)

include hbox hid

theorem preserves_fanoutToTargets (spaceId eventType : String) (payload : Json)
    (targets : List String) :
    (fanoutToTargets spaceId eventType payload targets).Preserves view := by
  refine (Prog.preserves_get _).bind ?_
  intro fed
  cases fed with
  | none => exact Prog.preserves_pure _
  | some fed =>
    refine Prog.preserves_ite (Prog.preserves_pure _) ?_
    refine (App.preserves_lift _).bind ?_
    intro origin
    refine Prog.preserves_ite (Prog.preserves_pure _) ?_
    refine (App.preserves_generateId hid).bind ?_
    intro eventId
    exact Sender.preserves_enqueue _ _ hbox hid

theorem preserves_fanoutToSpace (spaceId eventType : String) (payload : Json) :
    (fanoutToSpace spaceId eventType payload).Preserves view :=
  (App.preserves_lift _).bind (fun _ => preserves_fanoutToTargets hbox hid _ _ _ _)

theorem preserves_fanoutIfSpace (spaceId : Option String) (eventType : String) (payload : Json) :
    (fanoutIfSpace spaceId eventType payload).Preserves view := by
  cases spaceId with
  | none => exact Prog.preserves_pure _
  | some sid => exact preserves_fanoutToSpace hbox hid _ _ _

end

def userJson (domain : String) (user : User) : Json :=
  .obj [("id", .str (qualify user.id domain)), ("username", .str user.username),
    ("display_name", .ofOption user.displayName), ("avatar", .ofOption user.avatar)]

def memberLeavePayload (domain userId : String) : Json :=
  .obj [("user_id", .str (qualify userId domain))]

def reactionPayload (domain channelId messageId userId emoji : String) : Json :=
  .obj [("channel_id", .str (qualify channelId domain)),
    ("message_id", .str (qualify messageId domain)),
    ("user_id", .str (qualify userId domain)), ("emoji", .str emoji)]

def messagePayload (domain : String) (msg : MessageRow) (author : User) : Json :=
  .obj [("id", .str (qualify msg.id domain)),
    ("channel_id", .str (qualify msg.channelId domain)),
    ("space_id", .ofOption (msg.spaceId.map (fun sid => qualify sid domain))),
    ("author", userJson domain author), ("content", .str msg.content),
    ("mentions", .strings (msg.mentions.map (fun m => qualify m domain))),
    ("mention_everyone", .bool msg.mentionEveryone), ("embeds", msg.embeds),
    ("reply_to", .ofOption (msg.replyTo.map (fun r => qualify r domain))),
    ("created_at", .str msg.createdAt)]

def messageDeletePayload (domain messageId channelId : String) : Json :=
  .obj [("id", .str (qualify messageId domain)), ("channel_id", .str (qualify channelId domain))]

def messageEditPayload (domain : String) (msg : MessageRow) (messageId : String) : Json :=
  .obj [("id", .str (qualify messageId domain)), ("content", .str msg.content),
    ("edited_at", .ofOption msg.editedAt)]

def fanoutMessageCreate (msg : MessageRow) : App Unit := do
  let fed ← App.federation
  match fed, msg.spaceId with
  | some fed, some spaceId =>
    let author ← Users.getUser msg.authorId
    fanoutToSpace spaceId "m.message.create" (messagePayload fed.domain msg author)
  | _, _ => return ()

theorem preserves_fanoutMessageCreate {γ : Type} {view : AppState → γ} (msg : MessageRow)
    (hbox : ∀ (s : AppState) box, view (s.withDb { s.db with federationOutbox := box }) = view s)
    (hid : ∀ (s : AppState) (n : Nat), view { s with snowflake := n } = view s) :
    (fanoutMessageCreate msg).Preserves view := by
  refine (Prog.preserves_get _).bind ?_
  intro fed
  cases fed with
  | none => exact Prog.preserves_pure _
  | some fed =>
    cases msg.spaceId with
    | none => exact Prog.preserves_pure _
    | some spaceId =>
      refine (App.preserves_lift _).bind ?_
      intro author
      exact preserves_fanoutToSpace hbox hid _ _ _

def dropTrailingSlashes (s : String) : String :=
  String.ofList (s.toList.reverse.dropWhile (· = '/')).reverse

def dropLeadingSlashes (s : String) : String := String.ofList (s.toList.dropWhile (· = '/'))

def startsWith (p s : String) : Bool := p.toList.isPrefixOf s.toList

def absoluteCdnUrl (publicUrl path : String) : String :=
  if startsWith "http://" path || startsWith "https://" path then path
  else dropTrailingSlashes publicUrl ++ "/" ++ dropLeadingSlashes path

end Outbound

end Vokusz.Federation
