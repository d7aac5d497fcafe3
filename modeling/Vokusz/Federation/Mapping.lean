import Vokusz.Text

namespace Vokusz.Federation.Mapping

def splitAtSign : List Char → Option (List Char × List Char)
  | [] => none
  | c :: cs =>
    if c = '@' then some ([], cs)
    else (splitAtSign cs).map (fun parts => (c :: parts.1, parts.2))

def splitOnce (id : String) : Option (String × String) :=
  (splitAtSign id.toList).map (fun parts => (String.ofList parts.1, String.ofList parts.2))

def containsAt (s : String) : Bool := s.toList.contains '@'

def qualify (id domain : String) : String :=
  if containsAt id then id else id ++ "@" ++ domain

def localPart (id : String) : String :=
  match splitOnce id with
  | some (localId, _) => localId
  | none => id

def domainOf (id : String) : Option String := (splitOnce id).map (fun parts => parts.2)

def handle (username domain : String) : String :=
  if containsAt username then username else username ++ "@" ++ domain

def toAsciiLowercase (s : String) : String := String.ofList (s.toList.map Char.toLower)

def eqIgnoreAsciiCase (a b : String) : Bool :=
  a.toList.map Char.toLower = b.toList.map Char.toLower

def isLocal (id ourDomain : String) : Bool :=
  match domainOf id with
  | none => true
  | some d => eqIgnoreAsciiCase d ourDomain

example : domainOf "123@b.example" = some "b.example" := by decide

example : isLocal "123@A.EXAMPLE" "a.example" = true := by decide

variable {id a b c d : String}

@[simp] theorem eqIgnoreAsciiCase_refl (a : String) : eqIgnoreAsciiCase a a = true := by
  simp [eqIgnoreAsciiCase]

theorem eqIgnoreAsciiCase_trans (hab : eqIgnoreAsciiCase a b = true)
    (hbc : eqIgnoreAsciiCase b c = true) : eqIgnoreAsciiCase a c = true := by
  simp only [eqIgnoreAsciiCase, decide_eq_true_eq] at hab hbc ⊢
  exact hab.trans hbc

theorem eqIgnoreAsciiCase_congr (hab : eqIgnoreAsciiCase a b = true) :
    eqIgnoreAsciiCase a c = eqIgnoreAsciiCase b c := by
  simp only [eqIgnoreAsciiCase, decide_eq_true_eq] at hab
  simp only [eqIgnoreAsciiCase, hab]

theorem toAsciiLowercase_eq :
    toAsciiLowercase a = toAsciiLowercase b ↔ eqIgnoreAsciiCase a b = true := by
  rw [toAsciiLowercase, toAsciiLowercase, eqIgnoreAsciiCase, decide_eq_true_eq]
  exact String.ofList_inj

theorem splitAtSign_append (cs ds : List Char) (h : '@' ∉ cs) :
    splitAtSign (cs ++ '@' :: ds) = some (cs, ds) := by
  induction cs with
  | nil => simp [splitAtSign]
  | cons c cs ih =>
    simp only [List.mem_cons, not_or] at h
    simp [splitAtSign, Ne.symm h.1, ih h.2]

theorem splitAtSign_none (cs : List Char) : splitAtSign cs = none ↔ '@' ∉ cs := by
  induction cs with
  | nil => simp [splitAtSign]
  | cons c cs ih =>
    by_cases hc : c = '@'
    · simp [splitAtSign, hc]
    · simp [splitAtSign, hc, Ne.symm hc, ih]

theorem splitAtSign_some {cs l r : List Char} (h : splitAtSign cs = some (l, r)) :
    cs = l ++ '@' :: r ∧ '@' ∉ l := by
  induction cs generalizing l with
  | nil => simp [splitAtSign] at h
  | cons c cs ih =>
    by_cases hc : c = '@'
    · simp only [splitAtSign, hc, if_true, Option.some.injEq, Prod.mk.injEq] at h
      obtain ⟨rfl, rfl⟩ := h
      simp [hc]
    · simp only [splitAtSign, hc, if_false, Option.map_eq_some_iff, Prod.mk.injEq] at h
      obtain ⟨⟨l', r'⟩, hs, rfl, rfl⟩ := h
      obtain ⟨hcs, hl⟩ := ih hs
      exact ⟨by simp [hcs], by simp [Ne.symm hc, hl]⟩

theorem splitAtSign_toLower (cs : List Char) : splitAtSign (cs.map Char.toLower) =
    (splitAtSign cs).map (fun parts => (parts.1.map Char.toLower, parts.2.map Char.toLower)) := by
  induction cs with
  | nil => rfl
  | cons c cs ih =>
    have hat : c.toLower = '@' ↔ c = '@' := Text.toLower_eq_iff (by decide)
    by_cases hc : c = '@'
    · simp [splitAtSign, hc]
    · simp [splitAtSign, hat, hc, ih, Option.map_map, Function.comp_def]

theorem domainOf_toAsciiLowercase (id : String) :
    domainOf (toAsciiLowercase id) = (domainOf id).map toAsciiLowercase := by
  simp [domainOf, splitOnce, toAsciiLowercase, splitAtSign_toLower, Option.map_map,
    Function.comp_def]

theorem containsAt_eq_false : containsAt id = false ↔ '@' ∉ id.toList := by
  simp [containsAt]

theorem domainOf_eq_none : domainOf id = none ↔ containsAt id = false := by
  simp [domainOf, splitOnce, splitAtSign_none, containsAt]

theorem domainOf_bare (h : containsAt id = false) : domainOf id = none :=
  domainOf_eq_none.mpr h

theorem toList_join (a d : String) : (a ++ "@" ++ d).toList = a.toList ++ '@' :: d.toList := by
  simp [String.toList_append]

theorem splitOnce_join (h : containsAt a = false) :
    splitOnce (a ++ "@" ++ d) = some (a, d) := by
  rw [splitOnce, toList_join, splitAtSign_append _ _ (containsAt_eq_false.mp h)]
  simp

theorem containsAt_join (a d : String) : containsAt (a ++ "@" ++ d) = true := by
  simp [containsAt]

theorem qualify_of_bare (h : containsAt id = false) : qualify id d = id ++ "@" ++ d := by
  simp [qualify, h]

theorem containsAt_qualify (id d : String) : containsAt (qualify id d) = true := by
  unfold qualify
  split
  · assumption
  · exact containsAt_join id d

theorem domainOf_qualify (h : containsAt id = false) : domainOf (qualify id d) = some d := by
  simp [qualify_of_bare h, domainOf, splitOnce_join h]

theorem localPart_qualify (h : containsAt id = false) : localPart (qualify id d) = id := by
  simp [qualify_of_bare h, localPart, splitOnce_join h]

theorem containsAt_localPart (id : String) : containsAt (localPart id) = false := by
  cases hs : splitAtSign id.toList with
  | none =>
    have : localPart id = id := by simp [localPart, splitOnce, hs]
    rw [this, containsAt_eq_false]
    exact (splitAtSign_none _).mp hs
  | some parts =>
    have : localPart id = String.ofList parts.1 := by simp [localPart, splitOnce, hs]
    rw [this, containsAt_eq_false, String.toList_ofList]
    exact (splitAtSign_some hs).2

theorem isLocal_bare (h : containsAt id = false) : isLocal id d = true := by
  simp [isLocal, domainOf_bare h]

end Vokusz.Federation.Mapping
