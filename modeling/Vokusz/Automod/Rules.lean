import Mathlib.Data.Rat.Defs

namespace Vokusz.Automod

inductive Trigger where
  | media (categories : List String) (threshold : Rat)
  | hashDenylist
  | lowTrust (minAccountAgeHours minSpaceAgeHours : Nat) (requireRole : Bool)
  | nonNsfwAttachment
  deriving DecidableEq, Repr

inductive Scope where
  | all
  | nonNsfw
  | channels (ids : List String)
  deriving DecidableEq, Repr

inductive Action where
  | quarantine
  | reject
  | flag
  | timeout (seconds : Nat)
  deriving DecidableEq, Repr

structure Rule where
  id : String
  trigger : Trigger
  scope : Scope
  action : Action
  deriving DecidableEq, Repr

structure Policy where
  enabled : Bool := false
  rules : List Rule :=
    [{ id := "blocked-file", trigger := .hashDenylist, scope := .all, action := .quarantine },
      { id := "explicit-image"
        trigger := .media
          ["FEMALE_BREAST_EXPOSED", "FEMALE_GENITALIA_EXPOSED", "MALE_GENITALIA_EXPOSED",
            "ANUS_EXPOSED"] (4 / 5)
        scope := .nonNsfw
        action := .quarantine }]
  exemptRoles : List String := []
  exemptPermissions : List String := ["manage_messages"]
  retentionDays : Nat := 7
  deriving DecidableEq, Repr

structure ScanResult where
  sampledTimestampsMs : List Nat := []
  modelVersion : String
  scores : List (String × Rat)
  deriving DecidableEq, Repr

end Vokusz.Automod
