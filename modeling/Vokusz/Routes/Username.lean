import Vokusz.Db.Messages

namespace Vokusz.Routes.Auth

open Lib Mentions
open Federation.Mapping (eqIgnoreAsciiCase toAsciiLowercase eqIgnoreAsciiCase_congr)

def usernameChar (c : Char) : Bool := c.isLower || c.isDigit || c = '_' || c = '.'

def validateUsername (username : String) : Except AppError Unit :=
  if username.toList.contains '@' then
    .error (.badRequest "username may not be an email address")
  else if !username.toList.all usernameChar then
    .error (.badRequest "username may only contain lowercase letters, digits, '_' and '.'")
  else if username.toList.head? = some '.' || username.toList.getLast? = some '.' then
    .error (.badRequest "username may not start or end with '.'")
  else .ok ()

theorem validateUsername_ok {username : String} (h : validateUsername username = .ok ()) :
    ∀ c ∈ username.toList, usernameChar c = true := by
  unfold validateUsername at h
  split at h
  · cases h
  split at h
  · cases h
  · next hall =>
    rw [Bool.not_eq_true', Bool.not_eq_false] at hall
    exact List.all_eq_true.mp hall

variable {db : Db.Tables} {spaceId : String} {user : Db.User}

theorem resolveMentionUserIds_iff {usernames : List String} (huser : user ∈ db.users)
    (hids : Table.Distinct Db.User.id db.users)
    (hmember : ∃ m ∈ db.members, m.spaceId = spaceId ∧ m.userId = user.id) :
    user.id ∈ Db.Messages.resolveMentionUserIds db spaceId usernames ↔
      ∃ name ∈ usernames, eqIgnoreAsciiCase name user.username = true := by
  have hlower : ∀ a b : String,
      toAsciiLowercase a = toAsciiLowercase b ↔ eqIgnoreAsciiCase a b = true := by
    intro a b
    simp [toAsciiLowercase, eqIgnoreAsciiCase, String.ofList_inj]
  unfold Db.Messages.resolveMentionUserIds
  constructor
  · intro h
    obtain ⟨m, _, hids'⟩ := List.mem_flatMap.mp h
    obtain ⟨u, hu, hid⟩ := List.mem_map.mp hids'
    obtain ⟨hu, hmatch⟩ := List.mem_filter.mp hu
    have hsame : u = user := by
      have hlookup := hids.lookup_eq hu
      rw [hid, hids.lookup_eq huser] at hlookup
      exact (Option.some.inj hlookup).symm
    subst hsame
    rw [Bool.and_eq_true] at hmatch
    obtain ⟨name, hname, heq⟩ := List.mem_map.mp (List.contains_iff_mem.mp hmatch.2)
    exact ⟨name, hname, (hlower _ _).mp heq⟩
  · rintro ⟨name, hname, heq⟩
    obtain ⟨m, hm, hspace, hid⟩ := hmember
    refine List.mem_flatMap.mpr ⟨m, List.mem_filter.mpr ⟨hm, decide_eq_true hspace⟩, ?_⟩
    refine List.mem_map.mpr ⟨user, List.mem_filter.mpr ⟨huser, ?_⟩, rfl⟩
    rw [Bool.and_eq_true, decide_eq_true_eq]
    exact ⟨hid.symm, List.contains_iff_mem.mpr
      (List.mem_map.mpr ⟨name, hname, (hlower _ _).mpr heq⟩)⟩

def mentionable (username : String) : Bool :=
  !username.toList.isEmpty && !username.toList.contains '.' && !reserved username

theorem isHandleChar_iff {c : Char} :
    isHandleChar c = true ↔ (usernameChar c = true ∧ c ≠ '.') ∨ c.isUpper = true := by
  have hdot : ('.' : Char).isLower = false ∧ ('.' : Char).isDigit = false := by decide
  by_cases hc : c = '.'
  · subst hc
    decide
  · simp only [isHandleChar, isAsciiAlphanumeric, Char.isAlphanum, Text.isAlpha_eq, usernameChar,
      Bool.or_eq_true, decide_eq_true_eq, hc, or_false, not_false_eq_true, and_true, ne_eq]
    tauto

theorem toLower_ne_dot {c : Char} (h : isHandleChar c = true) : c.toLower ≠ '.' := by
  intro hdot
  rw [(Text.toLower_eq_iff (by decide)).mp hdot] at h
  cases h

theorem mentionable_of_names {name : String} {word : List Char}
    (hword : ∀ c ∈ word, isHandleChar c = true) (h : names name word) :
    mentionable name = true := by
  obtain ⟨hne, hplain, heq⟩ := h
  have hlower : word.map Char.toLower = name.toList.map Char.toLower := by
    simpa [eqIgnoreAsciiCase] using heq
  have hnonempty : name.toList ≠ [] := by
    intro hnil
    rw [hnil] at hlower
    exact hne (List.map_eq_nil_iff.mp hlower)
  have hdot : '.' ∉ name.toList := by
    intro hmem
    have hmem' : Char.toLower '.' ∈ word.map Char.toLower :=
      hlower ▸ List.mem_map_of_mem hmem
    obtain ⟨c, hc, hcdot⟩ := List.mem_map.mp hmem'
    exact toLower_ne_dot (hword c hc) hcdot
  have hreserved : reserved name = false := by
    have hcongr : ∀ group, eqIgnoreAsciiCase (String.ofList word) group =
        eqIgnoreAsciiCase name group := fun _ => eqIgnoreAsciiCase_congr heq
    rw [← hplain, reserved, reserved, hcongr, hcongr]
  simp [mentionable, hnonempty, hdot, hreserved]

theorem not_names_longer {name : String} {c : Char} (cs : List Char) :
    ¬ names name (name.toList ++ c :: cs) := by
  rintro ⟨-, -, heq⟩
  simp [eqIgnoreAsciiCase] at heq

section

variable {u w v : String}

theorem whitespace_not_alphanumeric {c : Char} (h : isWhitespace c = true) :
    isAsciiAlphanumeric c = false := by
  by_contra hc
  have hletter : c.isAlphanum = true := Bool.not_eq_false _ ▸ hc
  rw [Char.isAlphanum, Text.isAlpha_eq, Bool.or_eq_true, Bool.or_eq_true, Text.isUpper_iff,
    Text.isLower_iff, Text.isDigit_iff] at hletter
  have hrange : 48 ≤ c.toNat ∧ c.toNat ≤ 122 := by omega
  simp only [isWhitespace, Bool.or_eq_true, Bool.and_eq_true, decide_eq_true_eq,
    List.contains_iff_mem, List.mem_cons, List.not_mem_nil, or_false] at h
  omega

theorem at_not_mem (hname : validateUsername u = .ok ()) : '@' ∉ u.toList := by
  intro hmem
  have hchar := validateUsername_ok hname '@' hmem
  cases hchar

theorem handles_text (hname : validateUsername u = .ok ())
    (hw : ∀ c, w.toList.getLast? = some c → isWhitespace c = true) :
    handles none (w ++ "@" ++ u ++ v).toList =
      handles none w.toList ++ (u.toList ++ v.toList).takeWhile isHandleChar ::
        handles (u.toList.getLast?.or (some '@')) v.toList := by
  have hboundary : (w.toList.getLast?.or none).any isAsciiAlphanumeric = false := by
    cases hlast : w.toList.getLast? with
    | none => rfl
    | some c => exact whitespace_not_alphanumeric (hw c hlast)
  have htext : (w ++ "@" ++ u ++ v).toList = w.toList ++ '@' :: (u.toList ++ v.toList) := by
    simp [String.toList_append]
  rw [htext, handles_append none rfl, handles, if_pos ⟨rfl, by rw [hboundary]; rfl⟩,
    handles_skip _ (at_not_mem hname)]

theorem handleChars (hname : validateUsername u = .ok ()) (hplain : mentionable u = true) :
    ∀ c ∈ u.toList, isHandleChar c = true := by
  intro c hc
  have hdot : '.' ∉ u.toList := by
    simp only [mentionable, Bool.and_eq_true, Bool.not_eq_true', List.contains_eq_mem,
      decide_eq_false_iff_not] at hplain
    exact hplain.1.2
  refine isHandleChar_iff.mpr (.inl ⟨validateUsername_ok hname c hc, ?_⟩)
  rintro rfl
  exact hdot hc

theorem names_self (hplain : mentionable u = true) : names u u.toList := by
  simp only [mentionable, Bool.and_eq_true, Bool.not_eq_true', List.isEmpty_eq_false_iff] at hplain
  exact ⟨hplain.1.1, by rw [String.ofList_toList, hplain.2], by
    rw [String.ofList_toList, Federation.Mapping.eqIgnoreAsciiCase_refl]⟩

end

theorem mention_resolves_iff {w v : String}
    (huser : user ∈ db.users) (hids : Table.Distinct Db.User.id db.users)
    (hmember : ∃ m ∈ db.members, m.spaceId = spaceId ∧ m.userId = user.id)
    (hname : validateUsername user.username = .ok ())
    (hw : ∀ c, w.toList.getLast? = some c → isWhitespace c = true)
    (hv : ∀ c, v.toList.head? = some c → usernameChar c = false) :
    user.id ∈ Db.Messages.resolveMentionUserIds db spaceId
        (parseMentions (w ++ "@" ++ user.username ++ v)).usernames ↔
      mentionable user.username = true ∧
        (v.toList.head?.any Char.isUpper = true →
          Mentioned w user.username ∨ Mentioned v user.username) := by
  rw [resolveMentionUserIds_iff huser hids hmember]
  change (parseMentions _).includes user.username ↔ _
  rw [parseMentions_includes, handles_text hname hw, mentioned_iff, mentioned_iff]
  generalize user.username = u at hname
  simp only [List.mem_append, List.mem_cons, or_and_right, exists_or, exists_eq_left]
  constructor
  · intro h
    have hplain : mentionable u = true := by
      rcases h with ⟨word, hword, h⟩ | h | ⟨word, hword, h⟩
      · exact mentionable_of_names (handleChar_of_mem_handles hword) h
      · exact mentionable_of_names (fun c hc => List.mem_takeWhile_imp hc) h
      · exact mentionable_of_names (handleChar_of_mem_handles hword) h
    refine ⟨hplain, fun hupper => ?_⟩
    cases hhead : v.toList with
    | nil =>
      rw [hhead] at hupper
      cases hupper
    | cons c cs =>
      rw [hhead] at h hupper
      have hc : isHandleChar c = true := isHandleChar_iff.mpr (.inr hupper)
      rcases h with h | h | ⟨word, hword, h⟩
      · exact .inl h
      · rw [List.takeWhile_append_of_pos (handleChars hname hplain),
          List.takeWhile_cons_of_pos hc] at h
        exact absurd h (not_names_longer _)
      · exact .inr ⟨word, handles_congr (handle_ne_at hc) _ ▸ hword, h⟩
  · rintro ⟨hplain, helse⟩
    by_cases hupper : v.toList.head?.any Char.isUpper = true
    · rcases helse hupper with h | ⟨word, hword, h⟩
      · exact .inl h
      · cases hhead : v.toList with
        | nil =>
          rw [hhead] at hupper
          cases hupper
        | cons c cs =>
          rw [hhead] at hword hupper
          have hc : isHandleChar c = true := isHandleChar_iff.mpr (.inr hupper)
          exact .inr (.inr ⟨word, (handles_congr (handle_ne_at hc) _).symm ▸ hword, h⟩)
    · have hstop : v.toList.head?.any isHandleChar = false := by
        cases hhead : v.toList.head? with
        | none => rfl
        | some c =>
          rw [hhead] at hupper
          refine Bool.eq_false_iff.mpr (fun hc => ?_)
          rcases isHandleChar_iff.mp hc with ⟨hchar, -⟩ | hc
          · rw [hv c hhead] at hchar
            cases hchar
          · exact hupper hc
      refine .inr (.inl ?_)
      rw [takeWhile_append_stop hstop,
        List.takeWhile_eq_self_iff.mpr (handleChars hname hplain)]
      exact names_self hplain

def member (username : String) : Db.User := { id := "7", username := username }

def oneMember (username : String) : Db.Tables :=
  { users := [member username]
    members := [{ spaceId := "5", userId := "7" }] }

theorem alice_resolves :
    "7" ∈ Db.Messages.resolveMentionUserIds (oneMember "alice") "5"
      (parseMentions ("hi " ++ "@" ++ "alice" ++ "!")).usernames := by
  have huser : member "alice" ∈ (oneMember "alice").users := List.mem_singleton.mpr rfl
  have hbefore : ∀ c, "hi ".toList.getLast? = some c → isWhitespace c = true := by
    intro c hc
    have hspace : "hi ".toList.getLast? = some ' ' := by decide
    obtain rfl := Option.some.inj (hspace.symm.trans hc)
    decide
  have hafter : ∀ c, "!".toList.head? = some c → usernameChar c = false := by
    intro c hc
    have hmark : "!".toList.head? = some '!' := by decide
    obtain rfl := Option.some.inj (hmark.symm.trans hc)
    decide
  exact (mention_resolves_iff huser (List.pairwise_singleton _ _)
    ⟨_, List.mem_singleton.mpr rfl, rfl, rfl⟩ rfl hbefore hafter).mpr
    ⟨by decide, fun h => absurd h (by decide)⟩

theorem dotted_name_unresolved :
    validateUsername "bob.smith" = .ok () ∧
      "7" ∉ Db.Messages.resolveMentionUserIds (oneMember "bob.smith") "5"
        (parseMentions ("" ++ "@" ++ "bob.smith" ++ "")).usernames := by
  decide +kernel

end Vokusz.Routes.Auth
