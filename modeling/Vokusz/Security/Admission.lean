import Vokusz.Lib.Table
import Vokusz.Lib.Transition

namespace Vokusz.Security

open Lib

inductive Phase where
  | entering
  | waiting
  | retaining (left : List String)
  | looking
  | creating
  | acquiring (semaphore : Nat)
  | busy
  | unlocked
  | failed
  | admitted (semaphore : Nat)
  | holding (semaphore : Nat)
  | dropping (semaphore : Nat)
  | returned (semaphore : Nat)
  | gone
deriving DecidableEq, Repr

namespace Phase

def holdsGlobal : Phase → Bool
  | waiting | retaining _ | looking | creating | acquiring _ | busy | unlocked => true
  | admitted _ | holding _ => true
  | entering | failed | dropping _ | returned _ | gone => false

def holdsKey (id : Nat) : Phase → Bool
  | admitted id' | holding id' | dropping id' => id' = id
  | _ => false

def arc : Phase → Option Nat
  | acquiring id | admitted id | holding id | dropping id | returned id => some id
  | _ => none

def locked : Phase → Bool
  | retaining _ | looking | creating | acquiring _ | busy | admitted _ => true
  | _ => false

def outstanding : Phase → Bool
  | admitted _ | holding _ => true
  | _ => false

end Phase

structure Call where
  key : String
  phase : Phase
deriving DecidableEq, Repr

structure Admission where
  global : Nat
  keys : List (String × Nat) := []
  semaphores : List Nat := []
  lock : Option Nat := none
  calls : List Call := []
deriving DecidableEq, Repr

namespace Admission

def new (limit : Nat) : Admission := { global := limit }

def strongCount (id : Nat) (s : Admission) : Nat := s.calls.countP (fun c => c.phase.arc = some id)

def free (id : Nat) (s : Admission) : Nat := s.semaphores.getD id 0

def put (i : Nat) (c : Call) (phase : Phase) (s : Admission) : Admission :=
  { s with calls := s.calls.set i { c with phase := phase } }

def retain (key : String) (s : Admission) : Admission :=
  { s with
    keys := s.keys.filter (fun e => !(e.1 = key && s.strongCount e.2 = 0)) }

def upgrade (key : String) (s : Admission) : Option Nat :=
  ((Table.lookup Prod.fst key s.keys).map Prod.snd).filter (fun id => 0 < s.strongCount id)

def create (perKey : Nat) (key : String) (s : Admission) : Admission :=
  { s with
    semaphores := s.semaphores ++ [perKey]
    keys := Table.upsert Prod.fst (key, s.semaphores.length)
      (fun _ => (key, s.semaphores.length)) s.keys }

def setFree (id n : Nat) (s : Admission) : Admission :=
  { s with semaphores := s.semaphores.set id n }

def advance (perKey i : Nat) (c : Call) (s : Admission) : Option Admission :=
  match c.phase with
  | .entering =>
    if s.global = 0 then some (s.put i c .failed)
    else some ({ s with global := s.global - 1 }.put i c .waiting)
  | .waiting =>
    if s.lock.isSome then none
    else some ({ s with lock := some i }.put i c (.retaining (s.keys.map Prod.fst)))
  | .retaining (key :: left) => some ((s.retain key).put i c (.retaining left))
  | .retaining [] => some (s.put i c .looking)
  | .looking =>
    match s.upgrade c.key with
    | some id => some (s.put i c (.acquiring id))
    | none => some (s.put i c .creating)
  | .creating => some ((s.create perKey c.key).put i c (.acquiring s.semaphores.length))
  | .acquiring id =>
    if s.free id = 0 then some (s.put i c .busy)
    else some ((s.setFree id (s.free id - 1)).put i c (.admitted id))
  | .busy => some ({ s with lock := none }.put i c .unlocked)
  | .unlocked => some ({ s with global := s.global + 1 }.put i c .failed)
  | .admitted id => some ({ s with lock := none }.put i c (.holding id))
  | .dropping id => some ((s.setFree id (s.free id + 1)).put i c (.returned id))
  | .returned _ => some (s.put i c .gone)
  | .failed | .holding _ | .gone => none

def release (i : Nat) (c : Call) (s : Admission) : Option Admission :=
  match c.phase with
  | .holding id => some ({ s with global := s.global + 1 }.put i c (.dropping id))
  | _ => none

end Admission

inductive Label where
  | enter (key : String)
  | advance (i : Nat)
  | drop (i : Nat)
deriving DecidableEq, Repr

def step (perKey : Nat) (s : Admission) : Label → Option Admission
  | .enter key => some { s with calls := s.calls ++ [{ key := key, phase := .entering }] }
  | .advance i => s.calls[i]?.bind (fun c => s.advance perKey i c)
  | .drop i => s.calls[i]?.bind (fun c => s.release i c)

theorem distinct_replace_fresh {ρ κ ν : Type} [DecidableEq κ] [DecidableEq ν] {key : ρ → κ}
    {name : ρ → ν} {row : ρ} {rows : List ρ} (hkey : Table.Distinct key rows)
    (hname : Table.Distinct name rows) (hfresh : ∀ r ∈ rows, name r ≠ name row) :
    Table.Distinct name (Table.upsert key row (fun _ => row) rows) := by
  unfold Table.upsert
  split
  · refine List.pairwise_map.mpr ((hkey.and hname).imp_of_mem fun {r r'} hr hr' hne => ?_)
    split <;> split
    · rename_i h h'
      exact absurd (h.trans h'.symm) hne.1
    · exact (hfresh r' hr').symm
    · exact hfresh r hr
    · exact hne.2
  · refine List.pairwise_append.mpr ⟨hname, List.pairwise_singleton _ _, fun r hr r' hr' => ?_⟩
    rw [List.mem_singleton.mp hr']
    exact hfresh r hr

namespace Admission

variable {limit perKey i j id : Nat} {c c' : Call} {s t : Admission} {phase : Phase} {key : String}

structure Counted (limit perKey : Nat) (s : Admission) : Prop where
  total : s.global + s.calls.countP (fun c => c.phase.holdsGlobal) = limit
  each : ∀ id < s.semaphores.length,
    s.free id + s.calls.countP (fun c => c.phase.holdsKey id) = perKey
  made : ∀ c ∈ s.calls, ∀ id, c.phase.arc = some id → id < s.semaphores.length

structure Linked (s : Admission) : Prop where
  reached : ∀ c ∈ s.calls, ∀ id, c.phase.arc = some id → (c.key, id) ∈ s.keys
  byKey : Table.Distinct Prod.fst s.keys
  byId : Table.Distinct Prod.snd s.keys
  made : ∀ e ∈ s.keys, e.2 < s.semaphores.length
  held : ∀ i c, s.calls[i]? = some c → (c.phase.locked = true ↔ s.lock = some i)
  inside : ∀ i, s.lock = some i → i < s.calls.length
  vacant : ∀ (i : Nat) (c : Call), s.calls[i]? = some c → c.phase = .creating →
    ∀ c' ∈ s.calls, c'.key = c.key → c'.phase.arc = none

theorem mem_put (h : c' ∈ (s.put i c phase).calls) :
    c' = { c with phase := phase } ∨ c' ∈ s.calls :=
  (List.mem_or_eq_of_mem_set h).symm

theorem get_put (hc : s.calls[i]? = some c) : (s.put i c phase).calls[j]? =
    if i = j then some { c with phase := phase } else s.calls[j]? := by
  have hlt : i < s.calls.length := (List.getElem?_eq_some_iff.mp hc).1
  rw [put, List.getElem?_set]
  by_cases hij : i = j
  · subst hij
    simp [hlt]
  · simp [hij]

theorem countP_put (hc : s.calls[i]? = some c) (f : Phase → Bool) :
    (s.put i c phase).calls.countP (fun c => f c.phase) + (f c.phase).toNat =
      s.calls.countP (fun c => f c.phase) + (f phase).toNat := by
  obtain ⟨hlt, rfl⟩ := List.getElem?_eq_some_iff.mp hc
  have hpos : f s.calls[i].phase = true → 0 < s.calls.countP (fun c => f c.phase) := by
    intro hf
    exact List.countP_pos_iff.mpr ⟨_, List.getElem_mem hlt, hf⟩
  rw [put, List.countP_set hlt]
  cases hold : f s.calls[i].phase with
  | true =>
    have hone := hpos hold
    cases f phase <;> simp <;> omega
  | false => cases f phase <;> simp

theorem holdsKey_arc (h : phase.holdsKey id = true) : phase.arc = some id := by
  cases phase <;> simp_all [Phase.holdsKey, Phase.arc]

theorem countP_holdsKey_eq_zero (h : Counted limit perKey s) (hid : s.semaphores.length ≤ id) :
    s.calls.countP (fun c => c.phase.holdsKey id) = 0 := by
  rw [List.countP_eq_zero]
  intro c hc hholds
  exact absurd (h.made c hc id (holdsKey_arc hholds)) (not_lt.mpr hid)

theorem Counted.put (h : Counted limit perKey s) (hc : s.calls[i]? = some c)
    (hcalls : t.calls = s.calls)
    (hglobal : t.global + phase.holdsGlobal.toNat = s.global + c.phase.holdsGlobal.toNat)
    (hlength : s.semaphores.length ≤ t.semaphores.length)
    (hold : ∀ id < s.semaphores.length,
      t.free id + (phase.holdsKey id).toNat = s.free id + (c.phase.holdsKey id).toNat)
    (hnew : ∀ id < t.semaphores.length, s.semaphores.length ≤ id →
      t.free id = perKey ∧ phase.holdsKey id = false)
    (harc : ∀ id, phase.arc = some id → id < t.semaphores.length) :
    Counted limit perKey (t.put i c phase) := by
  have hget : t.calls[i]? = some c := by rw [hcalls, hc]
  constructor
  · have hcount := @countP_put i c t phase hget Phase.holdsGlobal
    have htotal := h.total
    rw [hcalls] at hcount
    change t.global + _ = limit
    omega
  · intro id hid
    have hcount := @countP_put i c t phase hget (Phase.holdsKey id)
    rw [hcalls] at hcount
    change t.free id + _ = perKey
    by_cases hmade : id < s.semaphores.length
    · have heach := h.each id hmade
      have hfree := hold id hmade
      omega
    · obtain ⟨hfull, hnone⟩ := hnew id hid (not_lt.mp hmade)
      have hzero := countP_holdsKey_eq_zero h (not_lt.mp hmade)
      have hbefore : c.phase.holdsKey id = false := by
        rw [List.countP_eq_zero] at hzero
        exact Bool.eq_false_iff.mpr (hzero c (List.mem_of_getElem? hc))
      rw [hnone, hbefore] at hcount
      rw [hfull]
      omega
  · intro c' hc' id hid
    rcases mem_put hc' with rfl | hc'
    · exact harc id hid
    · rw [hcalls] at hc'
      exact (h.made c' hc' id hid).trans_le hlength

theorem Counted.put_same (h : Counted limit perKey s) (hc : s.calls[i]? = some c)
    (hcalls : t.calls = s.calls) (hsemaphores : t.semaphores = s.semaphores)
    (hglobal : t.global + phase.holdsGlobal.toNat = s.global + c.phase.holdsGlobal.toNat)
    (hkey : ∀ id, phase.holdsKey id = c.phase.holdsKey id)
    (harc : ∀ id, phase.arc = some id → id < s.semaphores.length) :
    Counted limit perKey (t.put i c phase) := by
  refine h.put hc hcalls hglobal (le_of_eq (congrArg List.length hsemaphores.symm)) ?_ ?_ ?_
  · intro id _
    rw [free, free, hsemaphores, hkey]
  · intro id hid hle
    rw [hsemaphores] at hid
    exact absurd hid (not_lt.mpr hle)
  · rw [hsemaphores]
    exact harc

theorem holdsKey_of_ne {id' : Nat} (h : phase.arc = some id) (hne : id' ≠ id) :
    phase.holdsKey id' = false := by
  rw [Bool.eq_false_iff]
  intro hholds
  rw [holdsKey_arc hholds] at h
  exact hne (Option.some.inj h)

theorem Counted.setFree {n : Nat} (h : Counted limit perKey s) (hc : s.calls[i]? = some c)
    (hold : c.phase.arc = some id) (hnew : phase.arc = some id)
    (hglobal : phase.holdsGlobal = c.phase.holdsGlobal)
    (hcount : n + (phase.holdsKey id).toNat = s.free id + (c.phase.holdsKey id).toNat) :
    Counted limit perKey ((s.setFree id n).put i c phase) := by
  have hid : id < s.semaphores.length := h.made c (List.mem_of_getElem? hc) id hold
  refine h.put hc rfl ?_ (List.length_set).ge ?_ ?_ ?_
  · rw [hglobal]
    rfl
  · intro id' hid'
    by_cases hsame : id' = id
    · subst hsame
      have hfree : (s.setFree id' n).free id' = n := by simp [Admission.setFree, free, hid]
      rw [hfree, hcount]
    · have hfree : (s.setFree id n).free id' = s.free id' := by
        simp [Admission.setFree, free, Ne.symm hsame]
      rw [hfree, holdsKey_of_ne hold hsame, holdsKey_of_ne hnew hsame]
  · intro id' hid' hle
    rw [Admission.setFree, List.length_set] at hid'
    exact absurd hid' (not_lt.mpr hle)
  · intro id' harc
    rw [hnew] at harc
    cases harc
    rwa [Admission.setFree, List.length_set]

theorem Counted.create (h : Counted limit perKey s) (hc : s.calls[i]? = some c)
    (hphase : c.phase = .creating) :
    Counted limit perKey
      ((s.create perKey c.key).put i c (.acquiring s.semaphores.length)) := by
  have hlength : (s.create perKey c.key).semaphores.length = s.semaphores.length + 1 :=
    List.length_append
  refine h.put hc rfl ?_ (by omega) ?_ ?_ ?_
  · rw [hphase]
    rfl
  · intro id hid
    simp [Admission.create, free, hphase, Phase.holdsKey, List.getElem?_append_left hid]
  · intro id hid hle
    have hlast : id = s.semaphores.length := by omega
    subst hlast
    simp [Admission.create, free, Phase.holdsKey]
  · intro id harc
    cases harc
    omega

theorem upgrade_mem (h : s.upgrade key = some id) :
    (key, id) ∈ s.keys ∧ 0 < s.strongCount id := by
  obtain ⟨hlookup, hstrong⟩ := Option.filter_eq_some_iff.mp h
  obtain ⟨⟨key', id'⟩, hentry, rfl⟩ := Option.map_eq_some_iff.mp hlookup
  have hkey : key' = key := Table.lookup_key hentry
  subst hkey
  exact ⟨Table.lookup_mem hentry, of_decide_eq_true hstrong⟩

theorem Counted.advance (h : Counted limit perKey s) (hlinked : Linked s)
    (hc : s.calls[i]? = some c) (hstep : s.advance perKey i c = some t) :
    Counted limit perKey t := by
  have hmade := h.made c (List.mem_of_getElem? hc)
  obtain ⟨key, phase⟩ := c
  cases phase with
  | entering =>
    simp only [Admission.advance] at hstep
    split at hstep
    · cases hstep
      exact h.put_same hc rfl rfl rfl (fun _ => rfl) (fun _ harc => by cases harc)
    · rename_i hfree
      cases hstep
      refine h.put_same hc rfl rfl ?_ (fun _ => rfl) (fun _ harc => by cases harc)
      simp [Phase.holdsGlobal]
      omega
  | waiting =>
    simp only [Admission.advance] at hstep
    split at hstep
    · cases hstep
    · cases hstep
      exact h.put_same hc rfl rfl rfl (fun _ => rfl) (fun _ harc => by cases harc)
  | retaining left =>
    cases left with
    | nil =>
      cases hstep
      exact h.put_same hc rfl rfl rfl (fun _ => rfl) (fun _ harc => by cases harc)
    | cons key' left =>
      cases hstep
      exact h.put_same hc rfl rfl rfl (fun _ => rfl) (fun _ harc => by cases harc)
  | looking =>
    simp only [Admission.advance] at hstep
    cases hup : s.upgrade key with
    | some id =>
      rw [hup] at hstep
      cases hstep
      refine h.put_same hc rfl rfl rfl (fun _ => rfl) (fun id' harc => ?_)
      cases harc
      exact hlinked.made _ (upgrade_mem hup).1
    | none =>
      rw [hup] at hstep
      cases hstep
      exact h.put_same hc rfl rfl rfl (fun _ => rfl) (fun _ harc => by cases harc)
  | creating =>
    cases hstep
    exact h.create hc rfl
  | acquiring id =>
    simp only [Admission.advance] at hstep
    split at hstep
    · cases hstep
      exact h.put_same hc rfl rfl rfl (fun _ => rfl) (fun _ harc => by cases harc)
    · rename_i hfree
      cases hstep
      refine h.setFree hc rfl rfl rfl ?_
      simp [Phase.holdsKey]
      omega
  | busy =>
    cases hstep
    exact h.put_same hc rfl rfl rfl (fun _ => rfl) (fun _ harc => by cases harc)
  | unlocked =>
    cases hstep
    exact h.put_same hc rfl rfl rfl (fun _ => rfl) (fun _ harc => by cases harc)
  | failed => cases hstep
  | admitted id =>
    cases hstep
    exact h.put_same hc rfl rfl rfl (fun _ => rfl) hmade
  | holding id => cases hstep
  | dropping id =>
    cases hstep
    refine h.setFree hc rfl rfl rfl ?_
    simp [Phase.holdsKey]
  | returned id =>
    cases hstep
    exact h.put_same hc rfl rfl rfl (fun _ => rfl) (fun _ harc => by cases harc)
  | gone => cases hstep

theorem Counted.release (h : Counted limit perKey s) (hc : s.calls[i]? = some c)
    (hstep : s.release i c = some t) : Counted limit perKey t := by
  have hmade := h.made c (List.mem_of_getElem? hc)
  obtain ⟨key, phase⟩ := c
  cases phase with
  | holding id =>
    cases hstep
    exact h.put_same hc rfl rfl rfl (fun _ => rfl) hmade
  | _ => cases hstep

section

variable (h : Linked s) (hc : s.calls[i]? = some c)

include h hc

theorem Linked.put (hcalls : t.calls = s.calls)
    (hkept : ∀ c' ∈ s.calls, ∀ id, c'.phase.arc = some id → (c'.key, id) ∈ t.keys)
    (hown : ∀ id, phase.arc = some id → (c.key, id) ∈ t.keys)
    (hkey : Table.Distinct Prod.fst t.keys) (hid : Table.Distinct Prod.snd t.keys)
    (hmade : ∀ e ∈ t.keys, e.2 < t.semaphores.length)
    (hothers : ∀ j c', s.calls[j]? = some c' → i ≠ j → (c'.phase.locked = true ↔ t.lock = some j))
    (hself : phase.locked = true ↔ t.lock = some i)
    (hinside : ∀ j, t.lock = some j → j < s.calls.length)
    (hcreating : phase = .creating → ∀ c' ∈ s.calls, c'.key = c.key → c'.phase.arc = none)
    (hgain : ∀ id, phase.arc = some id → c.phase.arc = some id ∨ ∀ j c', s.calls[j]? = some c' → i ≠ j → c'.phase ≠ .creating) :
    Linked (t.put i c phase) := by
  have hget : t.calls[i]? = some c := by rw [hcalls, hc]
  constructor
  · intro c' hc' id harc
    rcases mem_put hc' with rfl | hc'
    · exact hown id harc
    · exact hkept c' (hcalls ▸ hc') id harc
  · exact hkey
  · exact hid
  · exact hmade
  · intro j c' hc'
    rw [get_put hget] at hc'
    split at hc'
    · rename_i hij
      subst hij
      cases hc'
      exact hself
    · rename_i hij
      exact hothers j c' (hcalls ▸ hc') hij
  · intro j hj
    have hlength : (t.put i c phase).calls.length = s.calls.length := by
      rw [Admission.put, List.length_set, hcalls]
    rw [hlength]
    exact hinside j hj
  · intro j c₁ hc₁ hphase₁ c₂ hc₂ hkeys
    rw [get_put hget] at hc₁
    split at hc₁
    · cases hc₁
      rcases mem_put hc₂ with rfl | hc₂
      · rw [hphase₁]
        rfl
      · exact hcreating hphase₁ c₂ (hcalls ▸ hc₂) hkeys
    · rename_i hij
      have hc₁' : s.calls[j]? = some c₁ := hcalls ▸ hc₁
      rcases mem_put hc₂ with rfl | hc₂
      · cases harc : phase.arc with
        | none => rfl
        | some id =>
          rcases hgain id harc with hold | hnone
          · have hgone := h.vacant j c₁ hc₁' hphase₁ c (List.mem_of_getElem? hc) hkeys
            rw [hgone] at hold
            cases hold
          · exact absurd hphase₁ (hnone j c₁ hc₁' hij)
      · exact h.vacant j c₁ hc₁' hphase₁ c₂ (hcalls ▸ hc₂) hkeys

theorem Linked.not_creating (hlocked : c.phase.locked = true) (hc' : s.calls[j]? = some c')
    (hne : i ≠ j) :
    c'.phase ≠ .creating := by
  intro hcreating
  have hi := (h.held i c hc).mp hlocked
  have hj := (h.held j c' hc').mp (by rw [hcreating]; rfl)
  rw [hi] at hj
  exact hne (Option.some.inj hj)

theorem Linked.put_same (hcalls : t.calls = s.calls) (hkeys : t.keys = s.keys)
    (hlength : t.semaphores.length = s.semaphores.length) (hlock : t.lock = s.lock)
    (hlocked : phase.locked = c.phase.locked) (hcreating : phase ≠ .creating)
    (harc : phase.arc = none ∨ phase.arc = c.phase.arc) :
    Linked (t.put i c phase) := by
  have hcarc : ∀ id, phase.arc = some id → c.phase.arc = some id := by
    intro id hid
    rcases harc with hnone | hsame
    · rw [hnone] at hid
      cases hid
    · rwa [hsame] at hid
  apply h.put hc hcalls
  · rw [hkeys]
    exact h.reached
  · intro id hid
    rw [hkeys]
    exact h.reached c (List.mem_of_getElem? hc) id (hcarc id hid)
  · rw [hkeys]
    exact h.byKey
  · rw [hkeys]
    exact h.byId
  · rw [hkeys, hlength]
    exact h.made
  · intro j c' hc' _
    rw [hlock]
    exact h.held j c' hc'
  · rw [hlock, hlocked]
    exact h.held i c hc
  · rw [hlock]
    exact h.inside
  · exact fun heq => absurd heq hcreating
  · exact fun id hid => .inl (hcarc id hid)

theorem Linked.lock (hfree : s.lock = none) (hlocked : phase.locked = true)
    (harc : phase.arc = none) (hcreating : phase ≠ .creating) :
    Linked ({ s with lock := some i }.put i c phase) := by
  apply h.put (t := { s with lock := some i }) hc rfl h.reached
  · intro id hid
    rw [harc] at hid
    cases hid
  · exact h.byKey
  · exact h.byId
  · exact h.made
  · intro j c' hc' hij
    rw [h.held j c' hc', hfree]
    simp [hij]
  · simp [hlocked]
  · intro j hj
    cases hj
    exact (List.getElem?_eq_some_iff.mp hc).1
  · exact fun heq => absurd heq hcreating
  · intro id hid
    rw [harc] at hid
    cases hid

theorem Linked.unlock (hheld : c.phase.locked = true) (hlocked : phase.locked = false)
    (harc : phase.arc = none ∨ phase.arc = c.phase.arc) (hcreating : phase ≠ .creating) :
    Linked ({ s with lock := none }.put i c phase) := by
  have hlock := (h.held i c hc).mp hheld
  have hcarc : ∀ id, phase.arc = some id → c.phase.arc = some id := by
    intro id hid
    rcases harc with hnone | hsame
    · rw [hnone] at hid
      cases hid
    · rwa [hsame] at hid
  apply h.put (t := { s with lock := none }) hc rfl h.reached
  · exact fun id hid => h.reached c (List.mem_of_getElem? hc) id (hcarc id hid)
  · exact h.byKey
  · exact h.byId
  · exact h.made
  · intro j c' hc' hij
    rw [h.held j c' hc', hlock]
    simp [hij]
  · simp [hlocked]
  · intro j hj
    cases hj
  · exact fun heq => absurd heq hcreating
  · exact fun id hid => .inl (hcarc id hid)

end

theorem strongCount_pos (hc : c ∈ s.calls) (harc : c.phase.arc = some id) :
    0 < s.strongCount id :=
  List.countP_pos_iff.mpr ⟨c, hc, decide_eq_true harc⟩

theorem Linked.retain (h : Linked s) (hc : s.calls[i]? = some c) {left : List String}
    (hphase : c.phase = .retaining (key :: left)) :
    Linked ((s.retain key).put i c (.retaining left)) := by
  apply h.put (t := s.retain key) hc rfl
  · intro c' hc' id harc
    refine List.mem_filter.mpr ⟨h.reached c' hc' id harc, ?_⟩
    have hpos := strongCount_pos hc' harc
    simp [Nat.pos_iff_ne_zero.mp hpos]
  · intro id hid
    cases hid
  · exact h.byKey.filter _
  · exact h.byId.filter _
  · exact fun e he => h.made e (List.mem_of_mem_filter he)
  · exact fun j c' hc' _ => h.held j c' hc'
  · have hlock := (h.held i c hc).mp (by rw [hphase]; rfl)
    simp [Phase.locked, Admission.retain, hlock]
  · exact h.inside
  · intro heq
    cases heq
  · intro id hid
    cases hid

theorem upgrade_of_held (h : Linked s) (hc : c ∈ s.calls) (harc : c.phase.arc = some id) :
    s.upgrade c.key = some id := by
  have hentry : Table.lookup Prod.fst c.key s.keys = some (c.key, id) :=
    h.byKey.lookup_eq (h.reached c hc id harc)
  have hpos := strongCount_pos hc harc
  simp [upgrade, hentry, Option.filter, hpos]

section

variable (h : Linked s) (hc : s.calls[i]? = some c)

include h hc

theorem Linked.found (hphase : c.phase = .looking) (hup : s.upgrade c.key = some id) :
    Linked (s.put i c (.acquiring id)) := by
  have hlocked : c.phase.locked = true := by
    rw [hphase]
    rfl
  apply h.put hc rfl h.reached
  · intro id' hid
    cases hid
    exact (upgrade_mem hup).1
  · exact h.byKey
  · exact h.byId
  · exact h.made
  · exact fun j c' hc' _ => h.held j c' hc'
  · simp [Phase.locked, (h.held i c hc).mp hlocked]
  · exact h.inside
  · intro heq
    cases heq
  · exact fun id' _ => .inr (fun j c' hc' hne => h.not_creating hc hlocked hc' hne)

theorem Linked.missed (hphase : c.phase = .looking) (hup : s.upgrade c.key = none) :
    Linked (s.put i c .creating) := by
  have hlocked : c.phase.locked = true := by
    rw [hphase]
    rfl
  apply h.put hc rfl h.reached
  · intro id' hid
    cases hid
  · exact h.byKey
  · exact h.byId
  · exact h.made
  · exact fun j c' hc' _ => h.held j c' hc'
  · simp [Phase.locked, (h.held i c hc).mp hlocked]
  · exact h.inside
  · intro _ c' hc' hkey
    cases harc : c'.phase.arc with
    | none => rfl
    | some id =>
      have hfound := upgrade_of_held h hc' harc
      rw [hkey, hup] at hfound
      cases hfound
  · intro id' hid
    cases hid

theorem Linked.create (hphase : c.phase = .creating) :
    Linked ((s.create perKey c.key).put i c (.acquiring s.semaphores.length)) := by
  have hlocked : c.phase.locked = true := by
    rw [hphase]
    rfl
  apply h.put (t := s.create perKey c.key) hc rfl
  · intro c' hc' id harc
    refine Table.mem_replace.mpr (.inr ⟨h.reached c' hc' id harc, fun hkey => ?_⟩)
    rw [h.vacant i c hc hphase c' hc' hkey] at harc
    cases harc
  · intro id hid
    cases hid
    exact Table.mem_replace.mpr (.inl rfl)
  · exact h.byKey.replace
  · exact distinct_replace_fresh h.byKey h.byId (fun e he => (h.made e he).ne)
  · intro e he
    have hlength : (s.create perKey c.key).semaphores.length = s.semaphores.length + 1 :=
      List.length_append
    rw [hlength]
    rcases Table.mem_replace.mp he with rfl | ⟨hold, _⟩
    · exact Nat.lt_succ_self _
    · exact Nat.lt_succ_of_lt (h.made e hold)
  · exact fun j c' hc' _ => h.held j c' hc'
  · simp [Phase.locked, Admission.create, (h.held i c hc).mp hlocked]
  · exact h.inside
  · intro heq
    cases heq
  · exact fun id' _ => .inr (fun j c' hc' hne => h.not_creating hc hlocked hc' hne)

theorem Linked.advance (hstep : s.advance perKey i c = some t) : Linked t := by
  have hheld := h.held i c hc
  obtain ⟨key, phase⟩ := c
  cases phase with
  | entering =>
    simp only [Admission.advance] at hstep
    split at hstep
    · cases hstep
      exact h.put_same hc rfl rfl rfl rfl rfl (by simp) (.inl rfl)
    · cases hstep
      exact h.put_same (t := { s with global := s.global - 1 }) hc rfl rfl rfl rfl rfl (by simp)
        (.inl rfl)
  | waiting =>
    simp only [Admission.advance] at hstep
    split at hstep
    · cases hstep
    · rename_i hfree
      cases hstep
      exact h.lock hc (by simpa using hfree) rfl rfl (by simp)
  | retaining left =>
    cases left with
    | nil =>
      cases hstep
      exact h.put_same hc rfl rfl rfl rfl rfl (by simp) (.inl rfl)
    | cons key' left =>
      cases hstep
      exact h.retain hc rfl
  | looking =>
    simp only [Admission.advance] at hstep
    cases hup : s.upgrade key with
    | some id =>
      rw [hup] at hstep
      cases hstep
      exact h.found hc rfl hup
    | none =>
      rw [hup] at hstep
      cases hstep
      exact h.missed hc rfl hup
  | creating =>
    cases hstep
    exact h.create hc rfl
  | acquiring id =>
    simp only [Admission.advance] at hstep
    split at hstep
    · cases hstep
      exact h.put_same hc rfl rfl rfl rfl rfl (by simp) (.inl rfl)
    · cases hstep
      exact h.put_same (t := s.setFree id (s.free id - 1)) hc rfl rfl List.length_set rfl rfl
        (by simp) (.inr rfl)
  | busy =>
    cases hstep
    exact h.unlock hc rfl rfl (.inl rfl) (by simp)
  | unlocked =>
    cases hstep
    exact h.put_same (t := { s with global := s.global + 1 }) hc rfl rfl rfl rfl rfl (by simp)
      (.inl rfl)
  | failed => cases hstep
  | admitted id =>
    cases hstep
    exact h.unlock hc rfl rfl (.inr rfl) (by simp)
  | holding id => cases hstep
  | dropping id =>
    cases hstep
    exact h.put_same (t := s.setFree id (s.free id + 1)) hc rfl rfl List.length_set rfl rfl
      (by simp) (.inr rfl)
  | returned id =>
    cases hstep
    exact h.put_same hc rfl rfl rfl rfl rfl (by simp) (.inl rfl)
  | gone => cases hstep

theorem Linked.release (hstep : s.release i c = some t) : Linked t := by
  obtain ⟨key, phase⟩ := c
  cases phase with
  | holding id =>
    cases hstep
    exact h.put_same (t := { s with global := s.global + 1 }) hc rfl rfl rfl rfl rfl (by simp)
      (.inr rfl)
  | _ => cases hstep

end

structure Sound (limit perKey : Nat) (s : Admission) : Prop where
  counted : Counted limit perKey s
  linked : Linked s

theorem sound_new (limit perKey : Nat) : Sound limit perKey (new limit) where
  counted := ⟨rfl, by simp [new], by simp [new]⟩
  linked := ⟨by simp [new], .nil, .nil, by simp [new], by simp [new], by simp [new], by simp [new]⟩

theorem mem_enter (h : c ∈ s.calls ++ [{ key := key, phase := .entering }]) :
    c ∈ s.calls ∨ c = { key := key, phase := .entering } := by
  simpa using h

theorem Counted.enter (h : Counted limit perKey s) (key : String) :
    Counted limit perKey { s with calls := s.calls ++ [{ key := key, phase := .entering }] } := by
  constructor
  · simpa [Phase.holdsGlobal] using h.total
  · intro id hid
    simpa [Phase.holdsKey, free] using h.each id hid
  · intro c hc id harc
    rcases mem_enter hc with hold | rfl
    · exact h.made c hold id harc
    · cases harc

theorem Linked.enter (h : Linked s) (key : String) :
    Linked { s with calls := s.calls ++ [{ key := key, phase := .entering }] } := by
  have hget : ∀ j c', (s.calls ++ [{ key := key, phase := .entering }])[j]? = some c' →
      s.calls[j]? = some c' ∨ j = s.calls.length ∧ c' = { key := key, phase := .entering } := by
    intro j c' hc'
    rcases Nat.lt_or_ge j s.calls.length with hlt | hge
    · rw [List.getElem?_append_left hlt] at hc'
      exact .inl hc'
    · obtain ⟨k, rfl⟩ := Nat.exists_eq_add_of_le hge
      rw [List.getElem?_append_right hge, Nat.add_sub_cancel_left] at hc'
      cases k with
      | zero =>
        cases hc'
        exact .inr ⟨rfl, rfl⟩
      | succ k => cases hc'
  constructor
  · intro c hc id harc
    rcases mem_enter hc with hold | rfl
    · exact h.reached c hold id harc
    · cases harc
  · exact h.byKey
  · exact h.byId
  · exact h.made
  · intro j c' hc'
    rcases hget j c' hc' with hold | ⟨rfl, rfl⟩
    · exact h.held j c' hold
    · constructor
      · intro hlocked
        cases hlocked
      · intro hlock
        exact absurd (h.inside _ hlock) (lt_irrefl _)
  · intro j hlock
    exact (h.inside j hlock).trans_le (by simp)
  · intro j c hc hphase c' hc' hkey
    rcases hget j c hc with hold | ⟨rfl, rfl⟩
    · rcases mem_enter hc' with hc' | rfl
      · exact h.vacant j c hold hphase c' hc' hkey
      · rfl
    · cases hphase

theorem Sound.step (h : Sound limit perKey s) {l : Label} (hstep : step perKey s l = some t) :
    Sound limit perKey t := by
  cases l with
  | enter key =>
    cases hstep
    exact ⟨h.counted.enter key, h.linked.enter key⟩
  | advance i =>
    obtain ⟨c, hc, hmove⟩ := Option.bind_eq_some_iff.mp hstep
    exact ⟨h.counted.advance h.linked hc hmove, h.linked.advance hc hmove⟩
  | drop i =>
    obtain ⟨c, hc, hmove⟩ := Option.bind_eq_some_iff.mp hstep
    exact ⟨h.counted.release hc hmove, h.linked.release hc hmove⟩

theorem sound_run {labels : List Label} (hrun : runFrom (step perKey) (new limit) labels = some t) :
    Sound limit perKey t :=
  run_induction (I := fun _ s => Sound limit perKey s) (sound_new limit perKey)
    (fun _ _ _ _ h hstep => h.step hstep) labels t hrun

def outstandingOf (key : String) (s : Admission) : Nat :=
  s.calls.countP (fun c => c.key = key && c.phase.outstanding)

def outstanding (s : Admission) : Nat := s.calls.countP (fun c => c.phase.outstanding)

theorem holdsGlobal_of_outstanding (h : phase.outstanding = true) : phase.holdsGlobal = true := by
  cases phase <;> simp_all [Phase.outstanding, Phase.holdsGlobal]

theorem arc_of_outstanding (h : phase.outstanding = true) :
    ∃ id, phase.arc = some id ∧ phase.holdsKey id = true := by
  cases phase <;> simp_all [Phase.outstanding, Phase.holdsKey, Phase.arc]

theorem Sound.outstanding_le (h : Sound limit perKey s) : s.outstanding ≤ limit := by
  have hle : s.outstanding ≤ s.calls.countP (fun c => c.phase.holdsGlobal) :=
    List.countP_mono_left (fun c _ hc => holdsGlobal_of_outstanding hc)
  have htotal := h.counted.total
  omega

theorem Linked.same_semaphore {id' : Nat} (h : Linked s) (hc : c ∈ s.calls) (hc' : c' ∈ s.calls)
    (hkey : c.key = c'.key) (harc : c.phase.arc = some id) (harc' : c'.phase.arc = some id') :
    id = id' := by
  have hentry := h.reached c hc id harc
  have hentry' := h.reached c' hc' id' harc'
  have hsame := h.byKey.same hentry hentry' hkey
  exact congrArg Prod.snd hsame

theorem Linked.same_key (h : Linked s) (hc : c ∈ s.calls) (hc' : c' ∈ s.calls)
    (harc : c.phase.arc = some id) (harc' : c'.phase.arc = some id) : c.key = c'.key := by
  have hentry := h.reached c hc id harc
  have hentry' := h.reached c' hc' id harc'
  have hsame := h.byId.same hentry hentry' rfl
  exact congrArg Prod.fst hsame

theorem Sound.outstandingOf_le (h : Sound limit perKey s) (key : String) :
    s.outstandingOf key ≤ perKey := by
  by_cases hsome : ∃ c ∈ s.calls, c.key = key ∧ c.phase.outstanding = true
  · obtain ⟨c, hc, rfl, hout⟩ := hsome
    obtain ⟨id, harc, _⟩ := arc_of_outstanding hout
    have heach := h.counted.each id (h.counted.made c hc id harc)
    have hle : s.outstandingOf c.key ≤ s.calls.countP (fun c => c.phase.holdsKey id) := by
      apply List.countP_mono_left
      intro c' hc' hboth
      obtain ⟨hkey, hout'⟩ := Bool.and_eq_true_iff.mp hboth
      obtain ⟨id', harc', hholds⟩ := arc_of_outstanding hout'
      rwa [h.linked.same_semaphore hc hc' (of_decide_eq_true hkey).symm harc harc']
    omega
  · have hzero : s.outstandingOf key = 0 := by
      rw [outstandingOf, List.countP_eq_zero]
      intro c hc hboth
      obtain ⟨hkey, hout⟩ := Bool.and_eq_true_iff.mp hboth
      exact hsome ⟨c, hc, of_decide_eq_true hkey, hout⟩
    omega

def granted : Phase → Bool
  | .admitted _ | .holding _ | .dropping _ | .returned _ | .gone => true
  | _ => false

theorem advance_put (h : s.advance perKey i c = some t) :
    ∃ (u : Admission) (phase : Phase), t = u.put i c phase ∧ u.calls = s.calls ∧
      (granted c.phase = true → granted phase = true) := by
  obtain ⟨key, phase⟩ := c
  cases phase with
  | entering =>
    simp only [advance] at h
    split at h
    · cases h
      exact ⟨s, _, rfl, rfl, fun hg => by cases hg⟩
    · cases h
      exact ⟨{ s with global := s.global - 1 }, _, rfl, rfl, fun hg => by cases hg⟩
  | waiting =>
    simp only [advance] at h
    split at h
    · cases h
    · cases h
      exact ⟨{ s with lock := some i }, _, rfl, rfl, fun hg => by cases hg⟩
  | retaining left =>
    cases left with
    | nil =>
      cases h
      exact ⟨s, _, rfl, rfl, fun hg => by cases hg⟩
    | cons key' left =>
      cases h
      exact ⟨s.retain key', _, rfl, rfl, fun hg => by cases hg⟩
  | looking =>
    simp only [advance] at h
    cases hup : s.upgrade key with
    | some id =>
      rw [hup] at h
      cases h
      exact ⟨s, _, rfl, rfl, fun hg => by cases hg⟩
    | none =>
      rw [hup] at h
      cases h
      exact ⟨s, _, rfl, rfl, fun hg => by cases hg⟩
  | creating =>
    cases h
    exact ⟨s.create perKey key, _, rfl, rfl, fun hg => by cases hg⟩
  | acquiring id =>
    simp only [advance] at h
    split at h
    · cases h
      exact ⟨s, _, rfl, rfl, fun hg => by cases hg⟩
    · cases h
      exact ⟨s.setFree id (s.free id - 1), _, rfl, rfl, fun hg => by cases hg⟩
  | busy =>
    cases h
    exact ⟨{ s with lock := none }, _, rfl, rfl, fun hg => by cases hg⟩
  | unlocked =>
    cases h
    exact ⟨{ s with global := s.global + 1 }, _, rfl, rfl, fun hg => by cases hg⟩
  | admitted id =>
    cases h
    exact ⟨{ s with lock := none }, _, rfl, rfl, fun _ => rfl⟩
  | dropping id =>
    cases h
    exact ⟨s.setFree id (s.free id + 1), _, rfl, rfl, fun _ => rfl⟩
  | returned id =>
    cases h
    exact ⟨s, _, rfl, rfl, fun _ => rfl⟩
  | failed => cases h
  | holding id => cases h
  | gone => cases h

theorem release_put (h : s.release i c = some t) :
    ∃ (u : Admission) (phase : Phase), t = u.put i c phase ∧ u.calls = s.calls ∧
      (granted c.phase = true → granted phase = true) := by
  obtain ⟨key, phase⟩ := c
  cases phase with
  | holding id =>
    cases h
    exact ⟨{ s with global := s.global + 1 }, _, rfl, rfl, fun _ => rfl⟩
  | _ => cases h

def GrantedAt (j : Nat) (s : Admission) : Prop :=
  ∃ c, s.calls[j]? = some c ∧ granted c.phase = true

theorem GrantedAt.put (h : GrantedAt j s) (hc : s.calls[i]? = some c) (hcalls : t.calls = s.calls)
    (hkeep : granted c.phase = true → granted phase = true) : GrantedAt j (t.put i c phase) := by
  obtain ⟨d, hd, hgranted⟩ := h
  have hget : t.calls[i]? = some c := by rw [hcalls, hc]
  by_cases hij : i = j
  · subst hij
    rw [hc] at hd
    cases hd
    exact ⟨_, by rw [get_put hget, if_pos rfl], hkeep hgranted⟩
  · exact ⟨d, by rw [get_put hget, if_neg hij, hcalls, hd], hgranted⟩

theorem GrantedAt.step (h : GrantedAt j s) {l : Label} (hstep : step perKey s l = some t) :
    GrantedAt j t := by
  cases l with
  | enter key =>
    cases hstep
    obtain ⟨c, hc, hgranted⟩ := h
    exact ⟨c, by rw [List.getElem?_append_left (List.getElem?_eq_some_iff.mp hc).1, hc], hgranted⟩
  | advance i =>
    obtain ⟨c, hc, hmove⟩ := Option.bind_eq_some_iff.mp hstep
    obtain ⟨u, phase, rfl, hcalls, hkeep⟩ := advance_put hmove
    exact h.put hc hcalls hkeep
  | drop i =>
    obtain ⟨c, hc, hmove⟩ := Option.bind_eq_some_iff.mp hstep
    obtain ⟨u, phase, rfl, hcalls, hkeep⟩ := release_put hmove
    exact h.put hc hcalls hkeep

theorem not_outstanding_of_failed {labels : List Label}
    (hrun : runFrom (step perKey) s labels = some t) (hfailed : t.calls[j]? = some c)
    (hphase : c.phase = .failed) (hc' : s.calls[j]? = some c') : c'.phase.outstanding = false := by
  have hstay : ∀ labels u, runFrom (step perKey) s labels = some u →
      GrantedAt j s → GrantedAt j u := by
    intro labels u hu hgranted
    exact run_induction (I := fun _ u => GrantedAt j u) hgranted
      (fun _ _ _ _ h hstep => h.step hstep) labels u hu
  cases hout : c'.phase.outstanding with
  | false => rfl
  | true =>
    have hgranted : granted c'.phase = true := by
      cases hp : c'.phase <;> simp_all [Phase.outstanding, granted]
    obtain ⟨d, hd, hstill⟩ := hstay labels t hrun ⟨c', hc', hgranted⟩
    rw [hfailed] at hd
    cases hd
    rw [hphase] at hstill
    cases hstill

section

def settled : Phase → Bool
  | .failed | .holding _ | .gone => true
  | _ => false

def Leads (perKey i : Nat) (s t : Admission) : Prop :=
  ∃ n, runFrom (step perKey) s (List.replicate n (.advance i)) = some t

theorem Leads.refl (perKey i : Nat) (s : Admission) : Leads perKey i s s := ⟨0, rfl⟩

theorem Leads.head {u : Admission} (hstep : step perKey s (.advance i) = some u)
    (h : Leads perKey i u t) : Leads perKey i s t := by
  obtain ⟨n, hn⟩ := h
  refine ⟨n + 1, ?_⟩
  change (step perKey s (.advance i)).bind (fun u => runFrom (step perKey) u _) = _
  rw [hstep]
  exact hn

theorem Leads.trans {u : Admission} (h : Leads perKey i s u) (h' : Leads perKey i u t) :
    Leads perKey i s t := by
  obtain ⟨n, hn⟩ := h
  induction n generalizing s with
  | zero =>
    cases hn
    exact h'
  | succ n ih =>
    obtain ⟨v, hv, hrest⟩ := Option.bind_eq_some_iff.mp hn
    exact .head hv (ih hrest)

structure Solo (limit perKey : Nat) (others : List Call) (key : String) (phase : Phase)
    (s : Admission) : Prop where
  sound : Sound limit perKey s
  calls : s.calls = others ++ [{ key := key, phase := phase }]

variable {others : List Call}

theorem Solo.get (h : Solo limit perKey others key phase s) :
    s.calls[others.length]? = some { key := key, phase := phase } := by
  rw [h.calls, List.getElem?_append_right (le_refl _)]
  simp

theorem Solo.move (next : Phase) (h : Solo limit perKey others key phase s)
    (hmove : s.advance perKey others.length { key := key, phase := phase } =
      some (t.put others.length { key := key, phase := phase } next))
    (hcalls : t.calls = s.calls) :
    ∃ u, step perKey s (.advance others.length) = some u ∧
      Solo limit perKey others key next u := by
  have hstep : step perKey s (.advance others.length) =
      some (t.put others.length { key := key, phase := phase } next) := by
    rw [step, h.get]
    exact hmove
  refine ⟨_, hstep, h.sound.step hstep, ?_⟩
  rw [put, hcalls, h.calls, List.set_append_right _ _ (le_refl _), Nat.sub_self]
  rfl

theorem Solo.leads (next : Phase) (h : Solo limit perKey others key phase s)
    (hmove : s.advance perKey others.length { key := key, phase := phase } =
      some (t.put others.length { key := key, phase := phase } next))
    (hcalls : t.calls = s.calls) :
    ∃ u, Leads perKey others.length s u ∧ Solo limit perKey others key next u := by
  obtain ⟨u, hstep, hu⟩ := h.move next hmove hcalls
  exact ⟨u, .head hstep (.refl _ _ _), hu⟩

variable (hsettled : ∀ c ∈ others, settled c.phase = true)

include hsettled in
theorem Solo.lock_free (h : Solo limit perKey others key .waiting s) : s.lock = none := by
  cases hlock : s.lock with
  | none => rfl
  | some j =>
    have hlt := h.sound.linked.inside j hlock
    have hget : s.calls[j]? = some s.calls[j] := List.getElem?_eq_getElem hlt
    have hlocked := (h.sound.linked.held j _ hget).mpr hlock
    have hmem : s.calls[j] ∈ others ++ [{ key := key, phase := .waiting }] := by
      rw [← h.calls]
      exact List.getElem_mem hlt
    rcases List.mem_append.mp hmem with hother | hlast
    · have hquiet := hsettled _ hother
      cases hphase : s.calls[j].phase <;> simp_all [settled, Phase.locked]
    · rw [List.mem_singleton.mp hlast] at hlocked
      cases hlocked

include hsettled in
theorem Solo.global_pos (h : Solo limit perKey others key .entering s)
    (hroom : others.countP (fun c => c.phase.outstanding) < limit) : s.global ≠ 0 := by
  have htotal := h.sound.counted.total
  have hsame : others.countP (fun c => c.phase.holdsGlobal) =
      others.countP (fun c => c.phase.outstanding) := by
    apply List.countP_congr
    intro c hc
    have hquiet := hsettled c hc
    cases hphase : c.phase <;> simp_all [settled, Phase.holdsGlobal, Phase.outstanding]
  have hlast : [{ key := key, phase := Phase.entering : Call }].countP
      (fun c => c.phase.holdsGlobal) = 0 := rfl
  rw [h.calls, List.countP_append, hsame, hlast] at htotal
  omega

include hsettled in
theorem Solo.free_pos {id : Nat} (h : Solo limit perKey others key (.acquiring id) s)
    (hroom : others.countP (fun c => c.key = key && c.phase.outstanding) < perKey) :
    s.free id ≠ 0 := by
  have hself : { key := key, phase := .acquiring id } ∈ s.calls := List.mem_of_getElem? h.get
  have heach := h.sound.counted.each id (h.sound.counted.made _ hself id rfl)
  have hle : others.countP (fun c => c.phase.holdsKey id) ≤
      others.countP (fun c => c.key = key && c.phase.outstanding) := by
    apply List.countP_mono_left
    intro c hc hholds
    have hmem : c ∈ s.calls := by
      rw [h.calls]
      exact List.mem_append_left _ hc
    have hkey : c.key = key := h.sound.linked.same_key hmem hself (holdsKey_arc hholds) rfl
    have hquiet := hsettled c hc
    have hout : c.phase.outstanding = true := by
      cases hphase : c.phase <;> simp_all [settled, Phase.holdsKey, Phase.outstanding]
    simp [hkey, hout]
  have hlast : [{ key := key, phase := Phase.acquiring id : Call }].countP
      (fun c => c.phase.holdsKey id) = 0 := rfl
  rw [h.calls, List.countP_append, hlast] at heach
  omega

theorem Solo.retained {left : List String}
    (h : Solo limit perKey others key (.retaining left) s) :
    ∃ u, Leads perKey others.length s u ∧ Solo limit perKey others key .looking u := by
  induction left generalizing s with
  | nil => exact h.leads .looking rfl rfl
  | cons key' left ih =>
    obtain ⟨u, hleads, hu⟩ := h.leads (.retaining left) (t := s.retain key') rfl rfl
    obtain ⟨v, hrest, hv⟩ := ih hu
    exact ⟨v, hleads.trans hrest, hv⟩

theorem Solo.reaches_semaphore (h : Solo limit perKey others key .looking s) :
    ∃ u id, Leads perKey others.length s u ∧ Solo limit perKey others key (.acquiring id) u := by
  cases hup : s.upgrade key with
  | some id =>
    obtain ⟨u, hleads, hu⟩ := h.leads (.acquiring id) (t := s)
      (by simp only [advance, hup]) rfl
    exact ⟨u, id, hleads, hu⟩
  | none =>
    obtain ⟨u, hleads, hu⟩ := h.leads .creating (t := s)
      (by simp only [advance, hup]) rfl
    obtain ⟨v, hrest, hv⟩ := hu.leads (.acquiring u.semaphores.length)
      (t := u.create perKey key) rfl rfl
    exact ⟨v, _, hleads.trans hrest, hv⟩

include hsettled in
theorem Solo.succeeds (h : Solo limit perKey others key .entering s)
    (hkey : others.countP (fun c => c.key = key && c.phase.outstanding) < perKey)
    (hglobal : others.countP (fun c => c.phase.outstanding) < limit) :
    ∃ t id, Leads perKey others.length s t ∧ Solo limit perKey others key (.holding id) t := by
  have hfree := h.global_pos hsettled hglobal
  obtain ⟨s₁, h₁, hs₁⟩ := h.leads .waiting (t := { s with global := s.global - 1 })
    (by simp only [advance, if_neg hfree]) rfl
  have hlock := hs₁.lock_free hsettled
  obtain ⟨s₂, h₂, hs₂⟩ := hs₁.leads (.retaining (s₁.keys.map Prod.fst))
    (t := { s₁ with lock := some others.length }) (by simp [advance, hlock]) rfl
  obtain ⟨s₃, h₃, hs₃⟩ := hs₂.retained
  obtain ⟨s₄, id, h₄, hs₄⟩ := hs₃.reaches_semaphore
  have hpermit := hs₄.free_pos hsettled hkey
  obtain ⟨s₅, h₅, hs₅⟩ := hs₄.leads (.admitted id) (t := s₄.setFree id (s₄.free id - 1))
    (by simp only [advance, if_neg hpermit]) rfl
  obtain ⟨s₆, h₆, hs₆⟩ := hs₅.leads (.holding id) (t := { s₅ with lock := none }) rfl rfl
  exact ⟨s₆, id, h₁.trans (h₂.trans (h₃.trans (h₄.trans (h₅.trans h₆)))), hs₆⟩

end

def Accounted (limit perKey : Nat) (s : Admission) : Prop :=
  let others := s.calls.filter (fun c => c.phase ≠ .failed)
  s.global + others.countP (fun c => c.phase.holdsGlobal) = limit ∧
    ∀ id < s.semaphores.length, s.free id + others.countP (fun c => c.phase.holdsKey id) = perKey

theorem countP_unfailed (calls : List Call) {f : Phase → Bool} (h : f .failed = false) :
    (calls.filter (fun c => c.phase ≠ .failed)).countP (fun c => f c.phase) =
      calls.countP (fun c => f c.phase) := by
  rw [List.countP_filter]
  apply List.countP_congr
  intro c _
  by_cases hfailed : c.phase = .failed <;> simp [hfailed, h]

theorem Counted.accounted (h : Counted limit perKey s) : Accounted limit perKey s := by
  constructor
  · rw [countP_unfailed s.calls (f := Phase.holdsGlobal) rfl]
    exact h.total
  · intro id hid
    rw [countP_unfailed s.calls (f := Phase.holdsKey id) rfl]
    exact h.each id hid

theorem admission_bounded (limit perKey : Nat) {labels : List Label} {s : Admission}
    (hrun : runFrom (step perKey) (new limit) labels = some s) :
    ((∀ key, s.outstandingOf key ≤ perKey) ∧ s.outstanding ≤ limit) ∧
      (Accounted limit perKey s ∧
        ∀ (earlier later : List Label) (t : Admission) (i : Nat) (c c' : Call),
          labels = earlier ++ later →
          runFrom (step perKey) (new limit) earlier = some t → t.calls[i]? = some c' →
          s.calls[i]? = some c → c.phase = .failed → c'.phase.outstanding = false) ∧
      ∀ key, (∀ c ∈ s.calls, settled c.phase = true) → s.outstandingOf key < perKey →
        s.outstanding < limit → ∃ t u id, step perKey s (.enter key) = some t ∧
          Leads perKey s.calls.length t u ∧
          u.calls = s.calls ++ [{ key := key, phase := .holding id }] := by
  have hsound := sound_run hrun
  refine ⟨⟨hsound.outstandingOf_le, hsound.outstanding_le⟩,
    ⟨hsound.counted.accounted, ?_⟩, ?_⟩
  · rintro earlier later t i c c' rfl hearlier hc' hc hfailed
    have hlater : runFrom (step perKey) t later = some s := by
      have hsplit : runFrom (step perKey) (new limit) (earlier ++ later) =
          (runFrom (step perKey) (new limit) earlier).bind
            (fun t => runFrom (step perKey) t later) := List.foldlM_append
      rw [hsplit, hearlier] at hrun
      exact hrun
    exact not_outstanding_of_failed hlater hc hfailed hc'
  · intro key hsettled hkey hglobal
    have hstart : Solo limit perKey s.calls key .entering
        { s with calls := s.calls ++ [{ key := key, phase := .entering }] } :=
      ⟨⟨hsound.counted.enter key, hsound.linked.enter key⟩, rfl⟩
    obtain ⟨u, id, hleads, hu⟩ := hstart.succeeds hsettled hkey hglobal
    exact ⟨_, u, id, rfl, hleads, hu.calls⟩

def enteredOnce : List Label := .enter "a" :: List.replicate 7 (.advance 0)

def oneHeld : Admission :=
  { global := 1
    keys := [("a", 0)]
    semaphores := [0]
    calls := [{ key := "a", phase := .holding 0 }] }

theorem admission_bounded_oneHeld :
    ((∀ key, oneHeld.outstandingOf key ≤ 1) ∧ oneHeld.outstanding ≤ 2) ∧
      ∃ t u id, step 1 oneHeld (.enter "b") = some t ∧ Leads 1 oneHeld.calls.length t u ∧
        u.calls = oneHeld.calls ++ [{ key := "b", phase := .holding id }] := by
  have hrun : runFrom (step 1) (new 2) enteredOnce = some oneHeld := by decide +kernel
  have h := admission_bounded 2 1 hrun
  exact ⟨h.1, h.2.2 "b" (by decide) (by decide) (by decide)⟩

end Admission

end Vokusz.Security
