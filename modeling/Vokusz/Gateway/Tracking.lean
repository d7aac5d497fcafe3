import Vokusz.Gateway.Presence

namespace Vokusz.Gateway

open Lib

namespace Handshake

def userId : Handshake → String
  | .identify userId _ => userId
  | .resume task => task.userId

end Handshake

namespace Socket

def openFor : Socket → Option String
  | .accepted opened => some opened.userId
  | .handedOver task _ | .entered task _ | .observed task _ _ | .published task | .live task
  | .unregistered task _ | .parked task _ | .expired task | .removing task => some task.userId
  | .handshake | .claiming _ _ _ _ | .ended => none

def registration : Socket → Option GatewaySession
  | .live task => some task.session
  | _ => none

def parking : Socket → Option (String × String)
  | .parked task none => some (task.userId, task.sessionId)
  | _ => none

def claim : Socket → Option (String × Nat)
  | .parked task (some c) => some (task.userId, c)
  | _ => none

def claims : Socket → Option (String × Nat)
  | .claiming userId _ _ holder => some (userId, holder)
  | _ => none

def answers : Socket → Option String
  | .accepted (.resume task) | .entered task .resume | .observed task .resume _
  | .handedOver task _ | .published task | .live task | .unregistered task _ | .parked task _
  | .expired task | .removing task => some task.userId
  | _ => none

def relies : Socket → Option String
  | .observed task .resume (some _) | .published task | .live task | .unregistered task true
  | .parked task none => some task.userId
  | _ => none

theorem openFor_of_answers {socket : Socket} {u : String} (h : socket.answers = some u) :
    socket.openFor = some u := by
  unfold answers at h
  split at h
  all_goals first | exact h | cases h

end Socket

namespace Hub

variable (s : Hub)

def present (userId : String) : Bool := Table.has Presence.userId userId s.presences

structure Tracks : Prop where
  backed : ∀ u, s.present u = true → ∃ socket ∈ s.sockets, socket.openFor = some u
  shown : ∀ u, isGuestUser u = false →
    (∃ g ∈ s.sessions, g.userId = u) ∨ (∃ p ∈ s.resumableSessions, p.userId = u) →
    s.present u = true

def others (i : Nat) : List Socket := s.sockets.eraseIdx i

def orphans (i : Nat) (u : String) : Bool :=
  s.present u && !(s.others i).any (fun socket => socket.answers = some u)

def awaits (c : Nat) : Bool :=
  match s.sockets[c]? with
  | some (.claiming _ _ _ _) => true
  | _ => false

def soundFor (i : Nat) : Socket → SocketAction → Bool
  | .handedOver task afterSeq, .validate spacesLoaded canReceive =>
    replayAccepted task afterSeq spacesLoaded canReceive || !s.orphans i task.userId
  | .accepted (.resume task), .enter granted => granted || !s.orphans i task.userId
  | .parked task (some c), .answer authorized =>
    !authorized || s.awaits c || !s.orphans i task.userId
  | .removing task, .remove => !(s.others i).any (fun socket => socket.relies = some task.userId)
  | .live task, .presenceUpdate _ => !isGuestUser task.userId
  | _, _ => true

def sound : HubAction → Bool
  | .connect => true
  | .socket i a => s.sockets[i]?.all (fun socket => s.soundFor i socket a)

structure Attended : Prop where
  registered : ∀ g ∈ s.sessions, ∃ socket ∈ s.sockets, socket.registration = some g
  parked : ∀ p ∈ s.resumableSessions,
    s.sockets[p.claimTx]?.bind Socket.parking = some (p.userId, p.sessionId)
  claimed : ∀ h u c, s.sockets[h]?.bind Socket.claim = some (u, c) →
    s.sockets[c]? = some .ended ∨ s.sockets[c]?.bind Socket.claims = some (u, h)
  answered : ∀ u, s.present u = true → ∃ socket ∈ s.sockets, socket.answers = some u
  relied : ∀ socket ∈ s.sockets, ∀ u, socket.relies = some u → isGuestUser u = false →
    s.present u = true
  members : ∀ u, s.present u = true → isGuestUser u = false

end Hub

section

variable {l : List Socket} {i j : Nat} {old new socket : Socket}

theorem mem_of_others (h : socket ∈ l.eraseIdx i) : socket ∈ l := List.mem_of_mem_eraseIdx h

theorem mem_slots (hi : l[i]? = some old) : socket ∈ l ↔ socket = old ∨ socket ∈ l.eraseIdx i := by
  constructor
  · intro h
    obtain ⟨j, hj⟩ := List.getElem?_of_mem h
    by_cases heq : j = i
    · left
      rw [heq, hi] at hj
      exact (Option.some.inj hj).symm
    · exact .inr (List.mem_eraseIdx_iff_getElem?.mpr ⟨j, heq, hj⟩)
  · rintro (rfl | h)
    · exact List.mem_of_getElem? hi
    · exact mem_of_others h

theorem slot_set (hi : l[i]? = some old) : (l.set i new)[i]? = some new := by
  obtain ⟨hlt, _⟩ := List.getElem?_eq_some_iff.mp hi
  simp [hlt]

theorem mem_slots_set (hi : l[i]? = some old) :
    socket ∈ l.set i new ↔ socket = new ∨ socket ∈ l.eraseIdx i := by
  rw [mem_slots (slot_set hi), List.eraseIdx_set_eq]

theorem slot_set_ne (h : i ≠ j) : (l.set i new)[j]? = l[j]? := List.getElem?_set_ne h

theorem slot_append (hi : l[i]? = some old) : (l ++ [new])[i]? = some old := by
  obtain ⟨hlt, _⟩ := List.getElem?_eq_some_iff.mp hi
  rw [List.getElem?_append_left hlt, hi]

variable {α : Type} {f : Socket → Option α} {a : α}

theorem bind_slot_append (h : l[i]?.bind f = some a) : (l ++ [new])[i]?.bind f = some a := by
  obtain ⟨socket, hsocket, hf⟩ := Option.bind_eq_some_iff.mp h
  rw [slot_append hsocket]
  exact hf

theorem bind_slot_of_append (hnew : f new = none) (h : (l ++ [new])[i]?.bind f = some a) :
    l[i]?.bind f = some a := by
  by_cases hlt : i < l.length
  · rwa [List.getElem?_append_left hlt] at h
  · obtain ⟨socket, hsocket, hf⟩ := Option.bind_eq_some_iff.mp h
    rw [List.getElem?_append_right (by omega)] at hsocket
    cases List.mem_singleton.mp (List.mem_of_getElem? hsocket)
    rw [hnew] at hf
    cases hf

end

namespace Hub

section

variable {s : Hub} {u v : String}

theorem present_set (status : String) (activities : List Json) :
    (s.withPresences (setPresence s.presences u status activities)).present v = true ↔
      v = u ∨ s.present v = true :=
  Table.has_upsert_iff (fun _ h => h.symm)

theorem present_remove :
    (s.withPresences (removePresence s.presences u)).present v = true ↔
      v ≠ u ∧ s.present v = true :=
  Table.has_delete

end

variable {s t : Hub} {i : Nat} {old new : Socket}

theorem Attended.moved (h : s.Attended) (hi : s.sockets[i]? = some old)
    (hsockets : t.sockets = s.sockets.set i new) (hold : old ≠ .ended)
    (hreg : ∀ g ∈ t.sessions, new.registration = some g ∨
      g ∈ s.sessions ∧ (old.registration = some g → new.registration = some g))
    (hpark : ∀ p ∈ t.resumableSessions,
      p.claimTx = i ∧ new.parking = some (p.userId, p.sessionId) ∨
      p ∈ s.resumableSessions ∧ (old.parking = some (p.userId, p.sessionId) →
        new.parking = some (p.userId, p.sessionId)))
    (hclaim : ∀ u c, new.claim = some (u, c) →
      old.claim = some (u, c) ∨ s.sockets[c]?.bind Socket.claims = some (u, i))
    (hclaims : ∀ u k, old.claims = some (u, k) → new = .ended ∨ new.claims = some (u, k) ∨
      ∀ c, t.sockets[k]?.bind Socket.claim ≠ some (u, c))
    (hanswers : ∀ u, t.present u = true → new.answers = some u ∨
      s.present u = true ∧
        (old.answers = some u → ∃ socket ∈ s.others i, socket.answers = some u))
    (hkeep : ∀ u, isGuestUser u = false → (∃ socket ∈ s.others i, socket.relies = some u) →
      s.present u = true → t.present u = true)
    (hrelies : ∀ u, new.relies = some u → isGuestUser u = false → t.present u = true)
    (hmembers : ∀ u, t.present u = true → isGuestUser u = false) : t.Attended := by
  have hset : t.sockets[i]? = some new := by
    rw [hsockets]
    exact slot_set hi
  have hother : ∀ j, j ≠ i → t.sockets[j]? = s.sockets[j]? := by
    intro j hj
    rw [hsockets]
    exact slot_set_ne hj.symm
  have hmem : ∀ socket, socket ∈ t.sockets ↔ socket = new ∨ socket ∈ s.others i := by
    intro socket
    rw [hsockets]
    exact mem_slots_set hi
  constructor
  · intro g hg
    rcases hreg g hg with hnew | ⟨hgs, hsame⟩
    · exact ⟨new, (hmem new).mpr (.inl rfl), hnew⟩
    · obtain ⟨socket, hsocket, hr⟩ := h.registered g hgs
      rcases (mem_slots hi).mp hsocket with rfl | hrest
      · exact ⟨new, (hmem new).mpr (.inl rfl), hsame hr⟩
      · exact ⟨socket, (hmem socket).mpr (.inr hrest), hr⟩
  · intro p hp
    rcases hpark p hp with ⟨hpi, hnew⟩ | ⟨hps, hsame⟩
    · rw [hpi, hset]
      exact hnew
    · have hparked := h.parked p hps
      by_cases hpi : p.claimTx = i
      · rw [hpi, hi] at hparked
        rw [hpi, hset]
        exact hsame hparked
      · rwa [hother _ hpi]
  · intro k u c hk
    have hclaimed : s.sockets[c]? = some .ended ∨ s.sockets[c]?.bind Socket.claims = some (u, k) := by
      by_cases hki : k = i
      · subst hki
        rw [hset, Option.bind_some] at hk
        rcases hclaim u c hk with hbefore | hpending
        · exact h.claimed k u c (by rw [hi, Option.bind_some, hbefore])
        · exact .inr hpending
      · exact h.claimed k u c (by rwa [hother _ hki] at hk)
    by_cases hci : c = i
    · subst hci
      rw [hi] at hclaimed
      rw [hset]
      rcases hclaimed with hended | hpending
      · exact absurd (Option.some.inj hended) hold
      · rcases hclaims u k hpending with rfl | heq | hfree
        · exact .inl rfl
        · exact .inr heq
        · exact absurd hk (hfree c)
    · rwa [hother _ hci]
  · intro u hu
    rcases hanswers u hu with hnew | ⟨hpresent, hrest⟩
    · exact ⟨new, (hmem new).mpr (.inl rfl), hnew⟩
    · obtain ⟨socket, hsocket, ha⟩ := h.answered u hpresent
      rcases (mem_slots hi).mp hsocket with rfl | hother'
      · obtain ⟨socket', hsocket', ha'⟩ := hrest ha
        exact ⟨socket', (hmem socket').mpr (.inr hsocket'), ha'⟩
      · exact ⟨socket, (hmem socket).mpr (.inr hother'), ha⟩
  · intro socket hsocket u hr hguest
    rcases (hmem socket).mp hsocket with rfl | hrest
    · exact hrelies u hr hguest
    · have hpresent := h.relied socket (mem_of_others hrest) u hr hguest
      exact hkeep u hguest ⟨socket, hrest, hr⟩ hpresent
  · exact hmembers

theorem Attended.quiet (h : s.Attended) (hi : s.sockets[i]? = some old) (hold : old ≠ .ended)
    (hreg : new.registration = old.registration) (hpark : new.parking = old.parking)
    (hclaim : new.claim = old.claim ∨ new.claim = none)
    (hclaims : new = .ended ∨ old.claims = none)
    (hanswers : ∀ u, s.present u = true → old.answers = some u →
      new.answers = some u ∨ ∃ socket ∈ s.others i, socket.answers = some u)
    (hrelies : ∀ u, new.relies = some u → isGuestUser u = false → s.present u = true) :
    (s.move i new).Attended := by
  apply h.moved hi rfl hold
  · intro g hg
    exact .inr ⟨hg, fun hr => hreg.trans hr⟩
  · intro p hp
    exact .inr ⟨hp, fun hr => hpark.trans hr⟩
  · intro u c hc
    rcases hclaim with heq | hnone
    · exact .inl (heq.symm.trans hc)
    · rw [hnone] at hc
      cases hc
  · intro u k hk
    rcases hclaims with rfl | hnone
    · exact .inl rfl
    · rw [hnone] at hk
      cases hk
  · intro u hu
    by_cases hu' : old.answers = some u
    · rcases hanswers u hu hu' with hnew | hrest
      · exact .inl hnew
      · exact .inr ⟨hu, fun _ => hrest⟩
    · exact .inr ⟨hu, fun hold => absurd hold hu'⟩
  · exact fun _ _ _ hu => hu
  · exact hrelies
  · exact h.members

theorem other_of_not_orphans {u : String} (h : s.orphans i u = false) (hu : s.present u = true) :
    ∃ socket ∈ s.others i, socket.answers = some u := by
  simpa [orphans, hu] using h

theorem Attended.ended (h : s.Attended) (hi : s.sockets[i]? = some old) (hold : old ≠ .ended)
    (hreg : old.registration = none) (hpark : old.parking = none)
    (hanswers : ∀ u, old.answers = some u → s.orphans i u = false) :
    (s.move i .ended).Attended := by
  refine h.quiet hi hold hreg.symm hpark.symm (.inr rfl) (.inl rfl) ?_ ?_
  · intro u hu hu'
    exact .inr (other_of_not_orphans (hanswers u hu') hu)
  · intro u hu
    cases hu

theorem Attended.shown (h : s.Attended) (hi : s.sockets[i]? = some old) {u : String}
    (hu : old.relies = some u) (hguest : isGuestUser u = false) : s.present u = true :=
  h.relied old (List.mem_of_getElem? hi) u hu hguest

theorem Attended.validate {task : SessionTask} {afterSeq : Nat} {spacesLoaded : Bool}
    {canReceive : String → Bool} (h : s.Attended)
    (hi : s.sockets[i]? = some (.handedOver task afterSeq))
    (hsound : s.soundFor i (.handedOver task afterSeq) (.validate spacesLoaded canReceive) = true) :
    (s.move i (if replayAccepted task afterSeq spacesLoaded canReceive then
      .accepted (.resume task) else .ended)).Attended := by
  split
  · exact h.quiet hi (by simp) rfl rfl (.inl rfl) (.inr rfl) (fun u _ hu => .inl hu)
      (by simp [Socket.relies])
  · rename_i hrefused
    have hkept : s.orphans i task.userId = false := by simpa [soundFor, hrefused] using hsound
    refine h.ended hi (by simp) rfl rfl ?_
    intro u hu
    cases hu
    exact hkept

theorem Attended.openSession {handshake : Handshake} {granted : Bool} (h : s.Attended)
    (hi : s.sockets[i]? = some (.accepted handshake))
    (hsound : s.soundFor i (.accepted handshake) (.enter granted) = true) :
    (s.openSession i granted handshake).Attended := by
  cases handshake with
  | identify userId presence =>
    have hnumbered : Attended { s with snowflake := s.snowflake + 1 } :=
      ⟨h.registered, h.parked, h.claimed, h.answered, h.relied, h.members⟩
    cases granted with
    | true =>
      exact hnumbered.quiet hi (by simp) rfl rfl (.inl rfl) (.inr rfl) (by simp [Socket.answers])
        (by simp [Socket.relies])
    | false => exact hnumbered.ended hi (by simp) rfl rfl (by simp [Socket.answers])
  | resume task =>
    cases granted with
    | true =>
      exact h.quiet hi (by simp) rfl rfl (.inl rfl) (.inr rfl) (fun u _ hu => .inl hu)
        (by simp [Socket.relies])
    | false =>
      have hkept : s.orphans i task.userId = false := by simpa [soundFor] using hsound
      refine h.ended hi (by simp) rfl rfl ?_
      intro u hu
      cases hu
      exact hkept

theorem present_of_getUserPresence {u : String} {p : Presence}
    (h : getUserPresence s.presences u = some p) : s.present u = true := by
  rw [present, ← Table.lookup_isSome]
  exact Option.isSome_iff_exists.mpr ⟨p, h⟩

theorem Attended.observe {task : SessionTask} {opening : Opening} (h : s.Attended)
    (hi : s.sockets[i]? = some (.entered task opening)) :
    (s.move i (.observed task opening (getUserPresence s.presences task.userId))).Attended := by
  cases opening with
  | identify presence =>
    exact h.quiet hi (by simp) rfl rfl (.inl rfl) (.inr rfl) (by simp [Socket.answers])
      (by simp [Socket.relies])
  | resume =>
    refine h.quiet hi (by simp) rfl rfl (.inl rfl) (.inr rfl) (fun u _ hu => .inl hu) ?_
    intro u hu _
    cases hprior : getUserPresence s.presences task.userId with
    | none => simp [hprior, Socket.relies] at hu
    | some p =>
      rw [hprior] at hu
      cases hu
      exact present_of_getUserPresence hprior

section

variable {task : SessionTask} {opening : Opening} {prior : Option Presence}

theorem answers_observed {u : String} (h : (Socket.observed task opening prior).answers = some u) :
    u = task.userId := by
  cases opening with
  | identify presence => cases h
  | resume =>
    cases h
    rfl

theorem Attended.publishing (h : s.Attended)
    (hi : s.sockets[i]? = some (.observed task opening prior))
    (hguest : isGuestUser task.userId = false) (status : String) (activities : List Json) :
    ((s.withPresences (setPresence s.presences task.userId status activities)).move i
      (.published task)).Attended := by
  apply h.moved hi rfl (by simp)
  · intro g hg
    exact .inr ⟨hg, fun hr => by cases hr⟩
  · intro p hp
    exact .inr ⟨hp, fun hr => by cases hr⟩
  · intro u c hc
    cases hc
  · intro u k hk
    cases hk
  · intro u hu
    rcases (present_set status activities).mp hu with rfl | hbefore
    · exact .inl rfl
    · by_cases hu' : u = task.userId
      · exact .inl (congrArg some hu'.symm)
      · exact .inr ⟨hbefore, fun ha => absurd (answers_observed ha) hu'⟩
  · intro u _ _ hu
    exact (present_set status activities).mpr (.inr hu)
  · intro u hu _
    cases hu
    exact (present_set status activities).mpr (.inl rfl)
  · intro u hu
    rcases (present_set status activities).mp hu with rfl | hbefore
    · exact hguest
    · exact h.members u hbefore

theorem Attended.publish (h : s.Attended) (hi : s.sockets[i]? = some (.observed task opening prior)) :
    (s.publish i task opening prior).Attended := by
  unfold Hub.publish
  split
  · rename_i hguest
    refine h.quiet hi (by simp) rfl rfl (.inl rfl) (.inr rfl) ?_ ?_
    · intro u _ hu
      exact .inl (congrArg some (answers_observed hu).symm)
    · intro u hu hno
      cases hu
      rw [hguest] at hno
      cases hno
  · rename_i hguest
    have hmember : isGuestUser task.userId = false := by simpa using hguest
    cases opening with
    | identify presence => exact h.publishing hi hmember _ _
    | resume =>
      cases prior with
      | none => exact h.publishing hi hmember _ _
      | some p =>
        refine h.quiet hi (by simp) rfl rfl (.inl rfl) (.inr rfl) (fun u _ hu => .inl hu) ?_
        intro u hu hno
        exact h.shown hi hu hno

end

theorem Attended.teardown {task task' : SessionTask} (h : s.Attended)
    (hi : s.sockets[i]? = some old) (hlive : old = .published task ∨ old = .live task)
    (hsame : task'.session = task.session) (resumable : Bool) :
    (s.teardown i task' resumable).Attended := by
  have huser : task'.userId = task.userId := congrArg GatewaySession.userId hsame
  have hsession : task'.sessionId = task.sessionId := congrArg GatewaySession.sessionId hsame
  have hrelies : old.relies = some task.userId := by
    rcases hlive with rfl | rfl <;> rfl
  have hanswers : old.answers = some task.userId := by
    rcases hlive with rfl | rfl <;> rfl
  apply h.moved hi rfl
  · rcases hlive with rfl | rfl <;> simp
  · intro g hg
    obtain ⟨hmem, hne⟩ := List.mem_filter.mp hg
    refine .inr ⟨hmem, fun hr => ?_⟩
    rcases hlive with rfl | rfl
    · cases hr
    · cases hr
      simp [hsession, SessionTask.session] at hne
  · intro p hp
    refine .inr ⟨hp, fun hr => ?_⟩
    rcases hlive with rfl | rfl <;> cases hr
  · intro u c hc
    split at hc <;> cases hc
  · intro u k hk
    rcases hlive with rfl | rfl <;> cases hk
  · intro u hu
    by_cases hguest : isGuestUser task'.userId = true
    · have hmember := h.members u hu
      refine .inr ⟨hu, fun ha => ?_⟩
      rw [hanswers, ← huser] at ha
      cases ha
      rw [hguest] at hmember
      cases hmember
    · rw [if_neg hguest]
      by_cases hu' : u = task.userId
      · exact .inl (congrArg some (huser.trans hu'.symm))
      · refine .inr ⟨hu, fun ha => ?_⟩
        rw [hanswers] at ha
        exact absurd (Option.some.inj ha).symm hu'
  · exact fun _ _ _ hu => hu
  · intro u hu hno
    split at hu
    · cases hu
    · cases resumable with
      | false => cases hu
      | true =>
        cases hu
        exact h.shown hi (hrelies.trans (congrArg some huser.symm)) hno
  · exact h.members

section

variable {task : SessionTask} (h : s.Attended)

include h

theorem Attended.register (hi : s.sockets[i]? = some (.published task)) :
    (s.register i task).Attended := by
  apply h.moved hi rfl (by simp)
  · intro g hg
    rcases Table.mem_upsert hg with hmem | rfl | ⟨_, _, _, rfl⟩
    · exact .inr ⟨hmem, fun hr => by cases hr⟩
    · exact .inl rfl
    · exact .inl rfl
  · intro p hp
    exact .inr ⟨hp, fun hr => by cases hr⟩
  · intro u c hc
    cases hc
  · intro u k hk
    cases hk
  · intro u hu
    by_cases hu' : u = task.userId
    · exact .inl (congrArg some hu'.symm)
    · exact .inr ⟨hu, fun ha => absurd (Option.some.inj ha).symm hu'⟩
  · exact fun _ _ _ hu => hu
  · intro u hu hno
    exact h.shown hi hu hno
  · exact h.members

theorem Attended.dispatch {written : Bool} (hi : s.sockets[i]? = some (.live task)) (event : Json) :
    (if written then s.move i (.live (task.stamp event true))
      else s.teardown i (task.stamp event false) true).Attended := by
  split
  · refine h.quiet hi (by simp) rfl rfl (.inl rfl) (.inr rfl) (fun u _ hu => .inl hu) ?_
    intro u hu hno
    exact h.shown hi hu hno
  · have hsame : (task.stamp event false).session = task.session := rfl
    exact h.teardown hi (.inr rfl) hsame true

theorem Attended.collect {claim : Option Nat} (hi : s.sockets[i]? = some (.parked task claim))
    (event : Json) :
    (s.move i (.parked (task.stamp event true) claim)).Attended := by
  cases claim with
  | none =>
    refine h.quiet hi (by simp) rfl rfl (.inl rfl) (.inr rfl) (fun u _ hu => .inl hu) ?_
    intro u hu hguest
    exact h.shown hi hu hguest
  | some c =>
    exact h.quiet hi (by simp) rfl rfl (.inl rfl) (.inr rfl) (fun u _ hu => .inl hu)
      (by simp [Socket.relies])

theorem Attended.parkSession (hi : s.sockets[i]? = some (.unregistered task true)) :
    (s.parkSession i task).Attended := by
  apply h.moved hi rfl (by simp)
  · intro g hg
    exact .inr ⟨hg, fun hr => by cases hr⟩
  · intro p hp
    rcases Table.mem_upsert hp with hmem | rfl | ⟨_, _, _, rfl⟩
    · exact .inr ⟨hmem, fun hr => by cases hr⟩
    · exact .inl ⟨rfl, rfl⟩
    · exact .inl ⟨rfl, rfl⟩
  · intro u c hc
    cases hc
  · intro u k hk
    cases hk
  · intro u hu
    by_cases hu' : u = task.userId
    · exact .inl (congrArg some hu'.symm)
    · exact .inr ⟨hu, fun ha => absurd (Option.some.inj ha).symm hu'⟩
  · exact fun _ _ _ hu => hu
  · intro u hu hno
    exact h.shown hi hu hno
  · exact h.members

theorem Attended.dropEntry {claim : Option Nat} (hi : s.sockets[i]? = some (.parked task claim)) :
    ((s.dropEntry task).move i (.expired task)).Attended := by
  apply h.moved hi rfl (by simp)
  · intro g hg
    exact .inr ⟨hg, fun hr => by cases hr⟩
  · intro p hp
    obtain ⟨hmem, hne⟩ := List.mem_filter.mp hp
    refine .inr ⟨hmem, fun hr => ?_⟩
    cases claim with
    | none =>
      have hsession : task.sessionId = p.sessionId := congrArg Prod.snd (Option.some.inj hr)
      simp [hsession] at hne
    | some c => cases hr
  · intro u c hc
    cases hc
  · intro u k hk
    cases hk
  · intro u hu
    by_cases hu' : u = task.userId
    · exact .inl (congrArg some hu'.symm)
    · exact .inr ⟨hu, fun ha => absurd (Option.some.inj ha).symm hu'⟩
  · exact fun _ _ _ hu => hu
  · intro u hu
    cases hu
  · exact h.members

end

section

variable (h : s.Attended)

include h

theorem Attended.other (hi : s.sockets[i]? = some old) (hold : old.registration = none)
    {u sessionId : String} (hothers : userHasOtherSessions s.sessions u sessionId = true) :
    ∃ socket ∈ s.others i, socket.answers = some u := by
  obtain ⟨g, hg, hother⟩ := List.any_eq_true.mp hothers
  have hgu : g.userId = u := (by simpa using hother : g.userId = u ∧ _).1
  obtain ⟨socket, hsocket, hr⟩ := h.registered g hg
  have hanswers : socket.answers = some u := by
    cases socket with
    | live task =>
      cases hr
      exact congrArg some hgu
    | _ => cases hr
  rcases (mem_slots hi).mp hsocket with rfl | hrest
  · rw [hold] at hr
    cases hr
  · exact ⟨socket, hrest, hanswers⟩

theorem Attended.checkOthers {task : SessionTask} (hi : s.sockets[i]? = some old)
    (hold : old = .unregistered task false ∨ old = .expired task) :
    (s.checkOthers i task).Attended := by
  unfold Hub.checkOthers
  split
  · rename_i hothers
    rcases hold with rfl | rfl
    · refine h.quiet hi (by simp) rfl rfl (.inr rfl) (.inl rfl) ?_ (by simp [Socket.relies])
      intro u _ hu
      cases hu
      exact .inr (h.other hi rfl hothers)
    · refine h.quiet hi (by simp) rfl rfl (.inr rfl) (.inl rfl) ?_ (by simp [Socket.relies])
      intro u _ hu
      cases hu
      exact .inr (h.other hi rfl hothers)
  · rcases hold with rfl | rfl
    · exact h.quiet hi (by simp) rfl rfl (.inl rfl) (.inr rfl) (fun u _ hu => .inl hu)
        (by simp [Socket.relies])
    · exact h.quiet hi (by simp) rfl rfl (.inl rfl) (.inr rfl) (fun u _ hu => .inl hu)
        (by simp [Socket.relies])

theorem Attended.remove {task : SessionTask} (hi : s.sockets[i]? = some (.removing task))
    (hsound : s.soundFor i (.removing task) .remove = true) :
    ((s.withPresences (removePresence s.presences task.userId)).move i .ended).Attended := by
  apply h.moved hi rfl (by simp)
  · intro g hg
    exact .inr ⟨hg, fun hr => by cases hr⟩
  · intro p hp
    exact .inr ⟨hp, fun hr => by cases hr⟩
  · intro u c hc
    cases hc
  · intro u k hk
    cases hk
  · intro u hu
    obtain ⟨hne, hbefore⟩ := present_remove.mp hu
    exact .inr ⟨hbefore, fun ha => absurd (Option.some.inj ha).symm hne⟩
  · rintro u _ ⟨socket, hsocket, hr⟩ hu
    refine present_remove.mpr ⟨?_, hu⟩
    rintro rfl
    have hfree : ∀ socket ∈ s.others i, socket.relies ≠ some task.userId := by
      simpa [soundFor] using hsound
    exact hfree socket hsocket hr
  · intro u hu
    cases hu
  · intro u hu
    exact h.members u (present_remove.mp hu).2

theorem Attended.presenceUpdate {task : SessionTask} (hi : s.sockets[i]? = some (.live task))
    (hguest : isGuestUser task.userId = false) (status : String) (activities : List Json) :
    (s.withPresences (setPresence s.presences task.userId status activities)).Attended where
  registered := h.registered
  parked := h.parked
  claimed := h.claimed
  answered := by
    intro u hu
    rcases (present_set status activities).mp hu with rfl | hbefore
    · exact ⟨.live task, List.mem_of_getElem? hi, rfl⟩
    · exact h.answered u hbefore
  relied := by
    intro socket hsocket u hr hno
    exact (present_set status activities).mpr (.inr (h.relied socket hsocket u hr hno))
  members := by
    intro u hu
    rcases (present_set status activities).mp hu with rfl | hbefore
    · exact hguest
    · exact h.members u hbefore

theorem Attended.holder {p : ParkedSession} (hp : p ∈ s.resumableSessions) :
    ∃ task, s.sockets[p.claimTx]? = some (.parked task none) ∧ task.userId = p.userId ∧
      task.sessionId = p.sessionId := by
  obtain ⟨socket, hsocket, hparking⟩ := Option.bind_eq_some_iff.mp (h.parked p hp)
  cases socket with
  | parked task claim =>
    cases claim with
    | none =>
      have hsame : (task.userId, task.sessionId) = (p.userId, p.sessionId) :=
        Option.some.inj hparking
      exact ⟨task, hsocket, congrArg Prod.fst hsame, congrArg Prod.snd hsame⟩
    | some c => cases hparking
  | _ => cases hparking

theorem Attended.claiming {userId sessionId : String} {afterSeq holder : Nat} {task : SessionTask}
    (hi : s.sockets[i]? = some (.claiming userId sessionId afterSeq holder))
    (hholder : s.sockets[holder]? = some (.parked task none)) (huser : task.userId = userId) :
    ((s.dropEntry task).move holder (.parked task (some i))).Attended := by
  apply h.moved hholder rfl (by simp)
  · intro g hg
    exact .inr ⟨hg, fun hr => by cases hr⟩
  · intro p hp
    obtain ⟨hmem, hne⟩ := List.mem_filter.mp hp
    refine .inr ⟨hmem, fun hr => ?_⟩
    have hsession : task.sessionId = p.sessionId := congrArg Prod.snd (Option.some.inj hr)
    simp [hsession] at hne
  · intro u c hc
    cases hc
    right
    rw [hi, huser]
    rfl
  · intro u k hk
    cases hk
  · intro u hu
    by_cases hu' : u = task.userId
    · exact .inl (congrArg some hu'.symm)
    · exact .inr ⟨hu, fun ha => absurd (Option.some.inj ha).symm hu'⟩
  · exact fun _ _ _ hu => hu
  · intro u hu
    cases hu
  · exact h.members

theorem Attended.claimParkedSession (hi : s.sockets[i]? = some .handshake)
    (userId sessionId : String) (afterSeq : Nat) :
    (s.claimParkedSession i userId sessionId afterSeq).Attended := by
  have hrejected : (s.move i .ended).Attended :=
    h.ended hi (by simp) rfl rfl (by simp [Socket.answers])
  unfold Hub.claimParkedSession
  split
  · rename_i p hlookup
    split
    · rename_i howner
      obtain ⟨task, hholder, huser, hsession⟩ := h.holder (Table.lookup_mem hlookup)
      have hsid : task.sessionId = sessionId := hsession.trans (Table.lookup_key hlookup)
      have hne : p.claimTx ≠ i := by
        intro heq
        rw [heq, hi] at hholder
        cases hholder
      have hclaiming : (s.move i (.claiming userId sessionId afterSeq p.claimTx)).Attended :=
        h.quiet hi (by simp) rfl rfl (.inl rfl) (.inr rfl) (by simp [Socket.answers])
          (by simp [Socket.relies])
      have hdone := hclaiming.claiming (slot_set hi)
        ((slot_set_ne hne.symm).trans hholder) (huser.trans howner)
      have hsend : (s.withParked (Table.delete ParkedSession.sessionId sessionId
          s.resumableSessions)).sendClaim p.claimTx i =
          (s.dropEntry task).move p.claimTx (.parked task (some i)) := by
        simp only [sendClaim, withParked, hholder, Hub.dropEntry, hsid]
      rw [hsend]
      convert hdone using 1
      simp only [move, Hub.dropEntry, withParked, List.set_comm _ _ hne]
    · exact hrejected
  · exact hrejected

theorem Attended.handOver {task' : SessionTask} {sessionId : String} {afterSeq k : Nat}
    (task : SessionTask) (hi : s.sockets[i]? = some (.claiming task.userId sessionId afterSeq k))
    (hholder : s.sockets[k]? = some (.expired task')) (huser : task'.userId = task.userId) :
    ((s.move i (.handedOver task afterSeq)).move k .ended).Attended := by
  have hne : i ≠ k := by
    rintro rfl
    rw [hi] at hholder
    cases hholder
  have hmoved : (s.move i (.handedOver task afterSeq)).Attended := by
    apply h.moved hi rfl (by simp)
    · intro g hg
      exact .inr ⟨hg, fun hr => by cases hr⟩
    · intro p hp
      exact .inr ⟨hp, fun hr => by cases hr⟩
    · intro u c hc
      cases hc
    · intro u l hl
      cases hl
      refine .inr (.inr fun c hc => ?_)
      rw [move, slot_set_ne hne, hholder] at hc
      cases hc
    · intro u hu
      exact .inr ⟨hu, fun ha => by cases ha⟩
    · exact fun _ _ _ hu => hu
    · intro u hu
      cases hu
    · exact h.members
  refine hmoved.quiet ((slot_set_ne hne).trans hholder) (by simp) rfl rfl (.inl rfl) (.inl rfl)
    ?_ (by simp [Socket.relies])
  intro u _ hu
  cases hu
  refine .inr ⟨.handedOver task afterSeq, ?_, congrArg some huser.symm⟩
  exact List.mem_eraseIdx_iff_getElem?.mpr ⟨i, hne, slot_set hi⟩

theorem Attended.reply {task : SessionTask} {c : Nat}
    (hi : s.sockets[i]? = some (.parked task (some c)))
    (hsound : s.soundFor i (.parked task (some c)) (.answer true) = true) :
    ((s.move i .ended).reply c task.handover).Attended := by
  have hclaimed := h.claimed i task.userId c (by rw [hi]; rfl)
  have hne : i ≠ c := by
    rintro rfl
    rw [hi] at hclaimed
    rcases hclaimed with hended | hpending
    · cases hended
    · cases hpending
  have hslot : (s.move i .ended).sockets[c]? = s.sockets[c]? := slot_set_ne hne
  rcases hclaimed with hended | hpending
  · have hkept : s.orphans i task.userId = false := by simpa [soundFor, awaits, hended] using hsound
    have hlost : (s.move i .ended).reply c task.handover = s.move i .ended := by
      unfold Hub.reply
      rw [hslot, hended]
    rw [hlost]
    refine h.quiet hi (by simp) rfl rfl (.inr rfl) (.inl rfl) ?_ (by simp [Socket.relies])
    intro u hu ha
    cases ha
    exact .inr (other_of_not_orphans hkept hu)
  · obtain ⟨socket, hsocket, hclaims⟩ := Option.bind_eq_some_iff.mp hpending
    cases socket with
    | claiming userId sessionId afterSeq holder =>
      cases hclaims
      have hexpired : (s.move i (.expired task)).Attended :=
        h.quiet hi (by simp) rfl rfl (.inr rfl) (.inr rfl) (fun u _ hu => .inl hu)
          (by simp [Socket.relies])
      have hdone := hexpired.handOver
        { userId := task.userId, sessionId := sessionId, handover := task.handover }
        ((slot_set_ne hne).trans hsocket) (slot_set hi) rfl
      have hsend : (s.move i .ended).reply c task.handover = (s.move i .ended).move c
          (.handedOver { userId := task.userId, sessionId := sessionId, handover := task.handover }
            afterSeq) := by
        unfold Hub.reply
        rw [hslot, hsocket]
      rw [hsend]
      convert hdone using 1
      simp only [move, List.set_comm _ _ hne, List.set_set]
    | _ => cases hclaims

theorem Attended.act {a : SocketAction} (hi : s.sockets[i]? = some old)
    (hsound : s.soundFor i old a = true) (hact : s.act i old a = some t) : t.Attended := by
  unfold Hub.act at hact
  split at hact
  · cases hact
    exact h.ended hi (by simp) rfl rfl (by simp [Socket.answers])
  · cases hact
    exact h.quiet hi (by simp) rfl rfl (.inl rfl) (.inr rfl) (by simp [Socket.answers])
      (by simp [Socket.relies])
  · cases hact
    exact h.claimParkedSession hi _ _ _
  · cases hact
    exact h.ended hi (by simp) rfl rfl (by simp [Socket.answers])
  · cases hact
    exact h.validate hi hsound
  · cases hact
    exact h.openSession hi hsound
  · cases hact
    exact h.observe hi
  · cases hact
    exact h.publish hi
  · cases hact
    split
    · exact h.register hi
    · exact h.teardown hi (.inl rfl) rfl false
  · cases hact
    exact h.dispatch hi _
  · cases hact
    exact h.presenceUpdate hi (by simpa [soundFor] using hsound) _ _
  · cases hact
    exact h.teardown hi (.inr rfl) rfl _
  · cases hact
    exact h.parkSession hi
  · cases hact
    exact h.checkOthers hi (.inl rfl)
  · cases hact
    exact h.collect hi _
  · cases hact
    split
    · rename_i hauth
      subst hauth
      exact h.reply hi hsound
    · exact h.dropEntry hi
  · cases hact
    exact h.dropEntry hi
  · cases hact
    exact h.checkOthers hi (.inr rfl)
  · cases hact
    exact h.remove hi hsound
  · cases hact

theorem Attended.connect : s.connect.Attended where
  registered := by
    intro g hg
    obtain ⟨socket, hsocket, hr⟩ := h.registered g hg
    exact ⟨socket, List.mem_append_left _ hsocket, hr⟩
  parked := fun p hp => bind_slot_append (h.parked p hp)
  claimed := by
    intro k u c hk
    rcases h.claimed k u c (bind_slot_of_append rfl hk) with hended | hpending
    · exact .inl (slot_append hended)
    · exact .inr (bind_slot_append hpending)
  answered := by
    intro u hu
    obtain ⟨socket, hsocket, ha⟩ := h.answered u hu
    exact ⟨socket, List.mem_append_left _ hsocket, ha⟩
  relied := by
    intro socket hsocket u hr hno
    rcases List.mem_append.mp hsocket with hold | hnew
    · exact h.relied socket hold u hr hno
    · cases List.mem_singleton.mp hnew
      cases hr
  members := h.members

theorem Attended.step {a : HubAction} (hsound : s.sound a = true) (hstep : s.step a = some t) :
    t.Attended := by
  cases a with
  | connect =>
    cases hstep
    exact h.connect
  | socket i a =>
    obtain ⟨socket, hi, hact⟩ := Option.bind_eq_some_iff.mp hstep
    exact h.act hi (by simpa [sound, hi] using hsound) hact

theorem Attended.tracks : s.Tracks where
  backed := by
    intro u hu
    obtain ⟨socket, hsocket, ha⟩ := h.answered u hu
    exact ⟨socket, hsocket, Socket.openFor_of_answers ha⟩
  shown := by
    rintro u hno (⟨g, hg, rfl⟩ | ⟨p, hp, rfl⟩)
    · obtain ⟨socket, hsocket, hr⟩ := h.registered g hg
      cases socket with
      | live task =>
        cases hr
        exact h.relied _ hsocket task.userId rfl hno
      | _ => cases hr
    · obtain ⟨task, hholder, huser, _⟩ := h.holder hp
      rw [← huser] at hno ⊢
      exact h.shown hholder rfl hno

end

theorem Attended.initial : Attended {} where
  registered := by simp
  parked := by simp
  claimed := by simp
  answered := by simp [present, Table.has]
  relied := by simp
  members := by simp [present, Table.has]

theorem presence_tracks_sessions {acts : List HubAction} (hrun : Hub.run acts = some s)
    (hsound : meets Hub.step Hub.sound {} acts = true) : s.Tracks := by
  have hattended : s.Attended :=
    run_induction_of_meets (fun _ _ _ h hs hstep => h.step hs hstep) .initial hsound hrun
  exact hattended.tracks

def signIn (i : Nat) (userId : String) : List HubAction :=
  [.connect, .socket i (.identify userId none), .socket i (.enter true), .socket i .observe,
    .socket i .publish, .socket i (.register true)]

def dropped (i : Nat) : List HubAction := [.socket i (.leave true), .socket i .park]

def resumed (i holder : Nat) (userId sessionId : String) (afterSeq : Nat) : List HubAction :=
  [.connect, .socket i (.resume userId sessionId afterSeq), .socket holder (.answer true),
    .socket i (.validate true (fun _ => true))]

def signOut (i : Nat) : List HubAction :=
  [.socket i (.leave false), .socket i .check, .socket i .remove]

def reached (acts : List HubAction) : Hub := (Hub.run acts).getD {}

def resumedBesideOther : List HubAction :=
  signIn 0 "1" ++ signIn 1 "1" ++ dropped 0 ++ resumed 2 0 "1" "0" 1 ++
    [.socket 2 (.enter true), .socket 2 .observe, .socket 2 .publish, .socket 2 (.register true),
      .socket 1 (.leave false), .socket 1 .check]

theorem presence_tracks_sessions_resumed :
    Hub.run resumedBesideOther = some (reached resumedBesideOther) ∧
      (reached resumedBesideOther).Tracks := by
  have hrun : Hub.run resumedBesideOther = some (reached resumedBesideOther) := by decide
  exact ⟨hrun, presence_tracks_sessions hrun (by decide)⟩

def refusedResume : List HubAction := signIn 0 "1" ++ dropped 0 ++ resumed 1 0 "1" "0" 9

def signOutBesideParked : List HubAction :=
  signIn 0 "1" ++ dropped 0 ++ signIn 1 "1" ++ signOut 1

theorem presence_outlives_refused_resume :
    Hub.run refusedResume = some (reached refusedResume) ∧ ¬ (reached refusedResume).Tracks ∧
      Hub.run signOutBesideParked = some (reached signOutBesideParked) ∧
      ¬ (reached signOutBesideParked).Tracks := by
  have hpresent : (reached refusedResume).present "1" = true := by decide
  have hsockets : (reached refusedResume).sockets = [.ended, .ended] := by decide
  have hparked : (reached signOutBesideParked).resumableSessions =
      [{ sessionId := "0", userId := "1", claimTx := 0 }] := by decide
  have habsent : (reached signOutBesideParked).present "1" = false := by decide
  refine ⟨by decide, ?_, by decide, ?_⟩
  · intro h
    obtain ⟨socket, hsocket, hopen⟩ := h.backed "1" hpresent
    rw [hsockets] at hsocket
    simp at hsocket
    rw [hsocket] at hopen
    cases hopen
  · intro h
    have hshown := h.shown "1" (by decide) (.inr (by rw [hparked]; simp))
    rw [habsent] at hshown
    cases hshown

end Hub

end Vokusz.Gateway
