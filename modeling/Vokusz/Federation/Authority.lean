import Vokusz.State
import Vokusz.Federation.Mapping

namespace Vokusz.Federation

open Mapping

structure FederationEnvelope where
  eventId : String
  origin : String
  spaceId : Option String
  eventType : String
  payload : Json
  deriving DecidableEq, Repr

def FederationEnvelope.toJson (env : FederationEnvelope) : Json :=
  .obj ([("event_id", .str env.eventId), ("origin", .str env.origin)] ++
    (env.spaceId.toList.map (fun sid => ("space_id", .str sid))) ++
    [("type", .str env.eventType), ("payload", env.payload)])

def FederationEnvelope.ofJson (j : Json) : Option FederationEnvelope := do
  let eventId ← j.reqStr "event_id"
  let origin ← j.reqStr "origin"
  let spaceId ← j.optStr "space_id"
  let eventType ← j.reqStr "type"
  let payload ← j.field? "payload"
  return { eventId, origin, spaceId, eventType, payload }

structure RemoteUserRef where
  id : String
  username : Option String := none
  displayName : Option String := none
  avatar : Option String := none
  deriving DecidableEq, Repr

namespace RemoteUserRef

def ofJson (j : Json) : Option RemoteUserRef := do
  let id ← j.reqStr "id"
  let username ← j.optStr "username"
  let displayName ← j.optStr "display_name"
  let avatar ← j.optStr "avatar"
  return { id, username, displayName, avatar }

def toJson (u : RemoteUserRef) : Json :=
  .obj [("id", .str u.id), ("username", .ofOption u.username),
    ("display_name", .ofOption u.displayName), ("avatar", .ofOption u.avatar)]

def usernameOrId (u : RemoteUserRef) : String := u.username.getD u.id

end RemoteUserRef

theorem FederationEnvelope.ofJson_toJson (env : FederationEnvelope) :
    FederationEnvelope.ofJson env.toJson = some env := by
  obtain ⟨eventId, origin, spaceId, eventType, payload⟩ := env
  cases spaceId <;> rfl

theorem RemoteUserRef.ofJson_toJson (u : RemoteUserRef) :
    RemoteUserRef.ofJson u.toJson = some u := by
  obtain ⟨id, username, displayName, avatar⟩ := u
  cases username <;> cases displayName <;> cases avatar <;> rfl

namespace Authority

def homedOn (id domain : String) : Bool :=
  (domainOf id).any (fun d => eqIgnoreAsciiCase d domain)

def requireHomedOn (qualifiedId peerDomain kind : String) : Except AppError Unit :=
  if homedOn qualifiedId peerDomain then .ok ()
  else .error (.forbidden (kind ++ " `" ++ qualifiedId ++
    "` is not homed on signing peer `" ++ peerDomain ++ "`"))

def requireSpaceHomedOn (spaceId : Option String) (peerDomain : String) : Except AppError Unit :=
  match spaceId with
  | some sid => requireHomedOn sid peerDomain "space"
  | none => .ok ()

def requireRemoteTarget (qualifiedId : String) : Except AppError Unit :=
  if domainOf qualifiedId = none then
    .error (.forbidden "federation event may not target a local entity")
  else .ok ()

def check (peerDomain : String) (env : FederationEnvelope) : Except AppError Unit :=
  if !eqIgnoreAsciiCase env.origin peerDomain then
    .error (.forbidden ("event origin `" ++ env.origin ++
      "` does not match signing peer `" ++ peerDomain ++ "`"))
  else requireSpaceHomedOn env.spaceId peerDomain

variable {id a b domain kind : String} {env : FederationEnvelope}

theorem requireHomedOn_ok : requireHomedOn id domain kind = .ok () ↔ homedOn id domain = true := by
  unfold requireHomedOn
  split <;> simp_all

theorem requireSpaceHomedOn_ok {spaceId : Option String} :
    requireSpaceHomedOn spaceId domain = .ok () ↔
      ∀ sid, spaceId = some sid → homedOn sid domain = true := by
  cases spaceId with
  | none => simp [requireSpaceHomedOn]
  | some sid => simp [requireSpaceHomedOn, requireHomedOn_ok]

theorem requireRemoteTarget_ok :
    requireRemoteTarget id = .ok () ↔ containsAt id = true := by
  unfold requireRemoteTarget
  cases hc : containsAt id with
  | false => simp [domainOf_eq_none.mpr hc]
  | true =>
    have hne : domainOf id ≠ none := by
      simp [domainOf_eq_none, hc]
    simp [hne]

theorem check_ok (h : check domain env = .ok ()) :
    eqIgnoreAsciiCase env.origin domain = true ∧
      ∀ sid, env.spaceId = some sid → homedOn sid domain = true := by
  unfold check at h
  split at h
  · cases h
  · rename_i horigin
    refine ⟨by simpa using horigin, ?_⟩
    exact requireSpaceHomedOn_ok.mp h

theorem homedOn_qualified (h : homedOn id domain = true) : containsAt id = true := by
  by_contra hbare
  have hnone := domainOf_bare (Bool.not_eq_true _ ▸ hbare)
  simp [homedOn, hnone] at h

end Authority

end Vokusz.Federation
