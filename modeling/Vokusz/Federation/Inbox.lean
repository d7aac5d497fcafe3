import Vokusz.Federation.Dm

namespace Vokusz.Federation.Inbox

open Db
open Lib (Prog)
open Apply (Applied)

def inboxPath : String := "/federation/v1/inbox"

def applyEvent (peer : String) (env : FederationEnvelope) : App Applied := do
  match env.eventType with
  | "m.message.create" => Apply.applyMessageCreate peer env; return .ok
  | "m.message.update" => Apply.applyMessageUpdate peer env; return .ok
  | "m.message.delete" => Apply.applyMessageDelete peer env; return .ok
  | "m.reaction.add" => Apply.applyReaction peer env true; return .ok
  | "m.reaction.remove" => Apply.applyReaction peer env false; return .ok
  | "m.member.join" => Apply.applyMemberJoin peer env; return .ok
  | "m.member.leave" => Apply.applyMemberLeave env; return .ok
  | "m.emoji.create" => Apply.applyEmojiUpsert peer env true; return .ok
  | "m.emoji.update" => Apply.applyEmojiUpsert peer env false; return .ok
  | "m.emoji.delete" => Apply.applyEmojiDelete peer env; return .ok
  | "m.typing" => Apply.applyTyping env; return .ok
  | "m.dm.message.create" => Dm.applyMessageCreate peer env; return .ok
  | _ => return .unsupported

inductive Reply where
  | ok
  | authorityFailed
  | dedupFailed
  | notImplemented
  | rejected (error : AppError)
  deriving DecidableEq, Repr

def rollbackDedup (env : FederationEnvelope) : App Unit := do
  let _ ← (Federation.dedupRemove env.eventId env.origin).attempt
  return ()

def respond (env : FederationEnvelope) : Except AppError Applied → App Reply
  | .ok .ok => return .ok
  | .ok .unsupported => do
    rollbackDedup env
    return .notImplemented
  | .error e => do
    rollbackDedup env
    return .rejected e

def applyOnce (peer : String) (env : FederationEnvelope) : App Reply := do
  if env.eventType = "m.ping" then return .ok
  else
    let result ← (applyEvent peer env).attempt
    respond env result

def dispatch (peer : String) (env : FederationEnvelope) : Except AppError Bool → App Reply
  | .ok true => applyOnce peer env
  | .ok false => return .ok
  | .error _ => return .dedupFailed

-- `peer` is the trusted peer whose signature `verify::prepare` accepted.
def handleInbox (peer : String) (env : FederationEnvelope) : App Reply := do
  match Authority.check peer env with
  | .error _ => return .authorityFailed
  | .ok () =>
    let fresh ← (Federation.dedupFirstSeen env.eventId env.origin).attempt
    dispatch peer env fresh

end Vokusz.Federation.Inbox
