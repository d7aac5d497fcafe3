namespace Vokusz

inductive AppError where
  | database (text : String)
  | internal (text : String)
  | badRequest (msg : String)
  | notFound (msg : String)
  | unauthorized (msg : String)
  | forbidden (msg : String)
  | conflict (msg : String)
  | payloadTooLarge (msg : String)
  | rateLimited (retryAfter : Nat)
  deriving DecidableEq, Repr

namespace AppError

def status : AppError → Nat
  | .database _ => 500
  | .internal _ => 500
  | .badRequest _ => 400
  | .notFound _ => 404
  | .unauthorized _ => 401
  | .forbidden _ => 403
  | .conflict _ => 409
  | .payloadTooLarge _ => 413
  | .rateLimited _ => 429

def rowNotFound : AppError := .notFound "resource not found"

def uniqueViolation : AppError := .conflict "resource already exists"

def foreignKeyViolation : AppError := .badRequest "referenced resource does not exist"

end AppError

end Vokusz
