import Mathlib.Data.List.Basic

namespace Vokusz.Lib.Feed

inductive Change (κ ν : Type) where
  | create (key : κ) (value : ν)
  | update (key : κ) (value : ν)
  | delete (key : κ)
  deriving DecidableEq, Repr

variable {κ ν : Type} [DecidableEq κ]

namespace Change

def key : Change κ ν → κ
  | .create key _ => key
  | .update key _ => key
  | .delete key => key

def fate (k : κ) (o : Option ν) : Change κ ν → Option ν
  | .create key value => if key = k then o.or (some value) else o
  | .update key value => if key = k then o.map (fun _ => value) else o
  | .delete key => if key = k then none else o

def Allowed (k : κ) (used : Bool) (o : Option ν) : Change κ ν → Prop
  | .create key _ => key = k → used = false
  | .update key _ => key = k → o.isSome = true
  | .delete key => key = k → o.isSome = true

end Change

def fate (k : κ) (cs : List (Change κ ν)) (o : Option ν) : Option ν := cs.foldl (Change.fate k) o

def Creates (k : κ) (cs : List (Change κ ν)) : Prop := ∃ v, Change.create k v ∈ cs

def Updates (k : κ) (cs : List (Change κ ν)) : Prop := ∃ v, Change.update k v ∈ cs

def Deletes (k : κ) (cs : List (Change κ ν)) : Prop := Change.delete k ∈ cs

def Lawful (k : κ) : Bool → Option ν → List (Change κ ν) → Prop
  | _, _, [] => True
  | used, o, c :: cs => c.Allowed k used o ∧ Lawful k (used || decide (c.key = k)) (c.fate k o) cs

section

variable {k : κ} {c : Change κ ν} {cs ds : List (Change κ ν)} {o p : Option ν} {v w : ν}
  {used : Bool}

theorem fate_nil : fate k [] o = o := rfl

theorem fate_cons : fate k (c :: cs) o = fate k cs (c.fate k o) := rfl

theorem fate_append : fate k (cs ++ ds) o = fate k ds (fate k cs o) := by
  rw [fate, List.foldl_append]
  rfl

theorem Change.fate_other (h : c.key ≠ k) : c.fate k o = o := by
  cases c with
  | create key value => exact if_neg h
  | update key value => exact if_neg h
  | delete key => exact if_neg h

omit [DecidableEq κ] in
theorem creates_cons : Creates k (c :: cs) ↔ (∃ v, c = .create k v) ∨ Creates k cs := by
  simp only [Creates, List.mem_cons, exists_or, eq_comm]

omit [DecidableEq κ] in
theorem updates_cons : Updates k (c :: cs) ↔ (∃ v, c = .update k v) ∨ Updates k cs := by
  simp only [Updates, List.mem_cons, exists_or, eq_comm]

omit [DecidableEq κ] in
theorem deletes_cons : Deletes k (c :: cs) ↔ c = .delete k ∨ Deletes k cs := by
  simp only [Deletes, List.mem_cons, eq_comm]

omit [DecidableEq κ] in
theorem creates_append : Creates k (cs ++ ds) ↔ Creates k cs ∨ Creates k ds := by
  simp only [Creates, List.mem_append, exists_or]

omit [DecidableEq κ] in
theorem deletes_append : Deletes k (cs ++ ds) ↔ Deletes k cs ∨ Deletes k ds := List.mem_append

theorem Change.cases_key (c : Change κ ν) (k : κ) :
    (∃ v, c = .create k v) ∨ (∃ v, c = .update k v) ∨ c = .delete k ∨ c.key ≠ k := by
  by_cases hkey : c.key = k
  · cases c with
    | create key value =>
      cases hkey
      exact .inl ⟨value, rfl⟩
    | update key value =>
      cases hkey
      exact .inr (.inl ⟨value, rfl⟩)
    | delete key =>
      cases hkey
      exact .inr (.inr (.inl rfl))
  · exact .inr (.inr (.inr hkey))

@[simp] theorem Change.fate_create : (Change.create k v).fate k o = o.or (some v) := if_pos rfl

@[simp] theorem Change.fate_update : (Change.update k v).fate k o = o.map (fun _ => v) := if_pos rfl

@[simp] theorem Change.fate_delete : (Change.delete k : Change κ ν).fate k o = none := if_pos rfl

theorem fate_none (h : ¬ Creates k cs) : fate k cs none = none := by
  induction cs with
  | nil => rfl
  | cons c cs ih =>
    rw [creates_cons, not_or] at h
    have hhead : c.fate k none = none := by
      rcases c.cases_key k with hc | ⟨v, rfl⟩ | rfl | hother
      · exact absurd hc h.1
      · simp
      · simp
      · exact Change.fate_other hother
    rw [fate_cons, hhead]
    exact ih h.2

theorem fate_some (h : ¬ Deletes k cs) : (fate k cs (some v)).isSome = true := by
  induction cs generalizing v with
  | nil => rfl
  | cons c cs ih =>
    rw [deletes_cons, not_or] at h
    rw [fate_cons]
    rcases c.cases_key k with ⟨w, rfl⟩ | ⟨w, rfl⟩ | hc | hother
    · rw [Change.fate_create]
      exact ih h.2
    · rw [Change.fate_update]
      exact ih h.2
    · exact absurd hc h.1
    · rw [Change.fate_other hother]
      exact ih h.2

theorem fate_kept (hupdates : ¬ Updates k cs) (hdeletes : ¬ Deletes k cs) :
    fate k cs (some v) = some v := by
  induction cs with
  | nil => rfl
  | cons c cs ih =>
    rw [deletes_cons, not_or] at hdeletes
    rw [updates_cons, not_or] at hupdates
    have hhead : c.fate k (some v) = some v := by
      rcases c.cases_key k with ⟨w, rfl⟩ | hc | hc | hother
      · exact Change.fate_create
      · exact absurd hc hupdates.1
      · exact absurd hc hdeletes.1
      · exact Change.fate_other hother
    rw [fate_cons, hhead]
    exact ih hupdates.2 hdeletes.2

theorem fate_created (hcreates : Creates k cs) (hdeletes : ¬ Deletes k cs) :
    (fate k cs o).isSome = true := by
  induction cs generalizing o with
  | nil =>
    obtain ⟨v, hv⟩ := hcreates
    cases hv
  | cons c cs ih =>
    rw [deletes_cons, not_or] at hdeletes
    rcases creates_cons.mp hcreates with ⟨v, rfl⟩ | hrest
    · rw [fate_cons, Change.fate_create]
      cases o with
      | none => exact fate_some hdeletes.2
      | some w => exact fate_some hdeletes.2
    · exact ih hrest hdeletes.2

theorem lawful_append : Lawful k used o (cs ++ ds) ↔
    Lawful k used o cs ∧ Lawful k (used || cs.any (fun c => c.key = k)) (fate k cs o) ds := by
  induction cs generalizing used o with
  | nil => simp [Lawful, fate_nil]
  | cons c cs ih => simp only [List.cons_append, Lawful, ih, fate_cons, List.any_cons, Bool.or_assoc,
      and_assoc]

theorem Lawful.not_creates (h : Lawful k true o cs) : ¬ Creates k cs := by
  induction cs generalizing o with
  | nil =>
    rintro ⟨v, hv⟩
    cases hv
  | cons c cs ih =>
    rw [creates_cons, not_or]
    refine ⟨?_, ih h.2⟩
    rintro ⟨v, rfl⟩
    cases h.1 rfl

theorem Lawful.unused (h : Lawful k used o cs) (hcreates : Creates k cs) : used = false := by
  cases used with
  | false => rfl
  | true => exact absurd hcreates h.not_creates

theorem Lawful.fate_deleted (h : Lawful k used o cs) (hdeletes : Deletes k cs) :
    fate k cs p = none := by
  induction cs generalizing used o p with
  | nil => cases hdeletes
  | cons c cs ih =>
    rcases deletes_cons.mp hdeletes with rfl | hrest
    · have hused : (used || decide ((Change.delete k : Change κ ν).key = k)) = true := by
        have hkey : decide ((Change.delete k : Change κ ν).key = k) = true := decide_eq_true rfl
        rw [hkey, Bool.or_true]
      have hlater := h.2
      rw [hused] at hlater
      rw [fate_cons, Change.fate_delete]
      exact fate_none hlater.not_creates
    · exact ih h.2 hrest

theorem Lawful.fate_updated (h : Lawful k used o cs) (hdeletes : ¬ Deletes k cs)
    (hupdates : Updates k cs) : fate k cs (some v) = fate k cs o := by
  induction cs generalizing used o v with
  | nil =>
    obtain ⟨w, hw⟩ := hupdates
    cases hw
  | cons c cs ih =>
    rw [deletes_cons, not_or] at hdeletes
    rw [fate_cons, fate_cons]
    rcases c.cases_key k with ⟨w, rfl⟩ | ⟨w, rfl⟩ | hc | hother
    · have hrest : Updates k cs := by
        rcases updates_cons.mp hupdates with ⟨u, hu⟩ | hrest
        · cases hu
        · exact hrest
      have hvalue : (Change.create k w).fate k (some v) = some v := Change.fate_create
      rw [hvalue]
      exact ih h.2 hdeletes.2 hrest
    · have hsome := h.1 rfl
      obtain ⟨u, hu⟩ := Option.isSome_iff_exists.mp hsome
      rw [hu, Change.fate_update, Change.fate_update]
      rfl
    · exact absurd hc hdeletes.1
    · have hrest : Updates k cs := by
        rcases updates_cons.mp hupdates with ⟨u, hu⟩ | hrest
        · exact absurd (congrArg Change.key hu) hother
        · exact hrest
      have hlater := h.2
      rw [Change.fate_other hother] at hlater
      rw [Change.fate_other hother, Change.fate_other hother]
      exact ih hlater hdeletes.2 hrest

end

def touched (k : κ) (cs : List (Change κ ν)) : Bool := cs.any (fun c => c.key = k)

section

variable {k : κ} {cs ds : List (Change κ ν)} {o p : Option ν} {used : Bool}

theorem touched_of_creates (h : Creates k cs) : touched k cs = true := by
  obtain ⟨v, hv⟩ := h
  exact List.any_eq_true.mpr ⟨_, hv, decide_eq_true rfl⟩

theorem touched_of_deletes (h : Deletes k cs) : touched k cs = true :=
  List.any_eq_true.mpr ⟨_, h, decide_eq_true rfl⟩

theorem fate_untouched (h : touched k cs = false) : fate k cs o = o := by
  induction cs with
  | nil => rfl
  | cons c cs ih =>
    rw [touched, List.any_cons, Bool.or_eq_false_iff, decide_eq_false_iff_not] at h
    rw [fate_cons, Change.fate_other h.1]
    exact ih h.2

theorem fresh_fate (hfresh : used = false → o = none) (h : (used || touched k cs) = false) :
    fate k cs o = none := by
  rw [Bool.or_eq_false_iff] at h
  rw [fate_untouched h.2]
  exact hfresh h.1

theorem Lawful.split (h : Lawful k used o (cs ++ ds)) :
    Lawful k used o cs ∧ Lawful k (used || touched k cs) (fate k cs o) ds := lawful_append.mp h

theorem Lawful.not_creates_later (h : Lawful k used o (cs ++ ds)) (htouched : touched k cs = true) :
    ¬ Creates k ds := by
  have hlater := h.split.2
  rw [htouched, Bool.or_true] at hlater
  exact hlater.not_creates

theorem Lawful.not_deletes (h : Lawful k true none cs) : ¬ Deletes k cs := by
  induction cs with
  | nil => exact List.not_mem_nil
  | cons c cs ih =>
    rw [deletes_cons, not_or]
    constructor
    · rintro rfl
      cases h.1 rfl
    · have hhead : c.fate k (none : Option ν) = none := by
        rcases c.cases_key k with ⟨v, rfl⟩ | ⟨v, rfl⟩ | rfl | hother
        · cases h.1 rfl
        · exact Change.fate_update
        · exact Change.fate_delete
        · exact Change.fate_other hother
      have hlater := h.2
      rw [hhead] at hlater
      exact ih hlater

end

structure Settled (k : κ) (all later : List (Change κ ν)) (held final : Option ν) : Prop where
  gone : Deletes k all → held = none
  present : Creates k later → final.isSome = true → held.isSome = true
  latest : ∀ v w, held = some v → final = some w → v = w

def Missed (k : κ) (missing rest : List (Change κ ν)) (p final : Option ν) : Prop :=
  (Creates k missing ∧ final.isSome = true) ∨ (Deletes k missing ∧ p.isSome = true) ∨
    (Updates k missing ∧ p.isSome = true ∧ final.isSome = true ∧ p ≠ final ∧ ¬ Updates k rest)

section

variable {k : κ} {cs ds es : List (Change κ ν)} {o p : Option ν} {used : Bool}

theorem replay_same (h : Lawful k used o cs) (hfresh : used = false → o = none)
    (hcopy : p = fate k cs o ∨ p = none) :
    fate k cs p = fate k cs o ∨ fate k cs p = none := by
  by_cases hdeletes : Deletes k cs
  · left
    rw [h.fate_deleted hdeletes, h.fate_deleted hdeletes]
  cases p with
  | none =>
    by_cases hcreates : Creates k cs
    · left
      rw [hfresh (h.unused hcreates)]
    · exact .inr (fate_none hcreates)
  | some v =>
    left
    by_cases hupdates : Updates k cs
    · exact h.fate_updated hdeletes hupdates
    · rcases hcopy with hcopy | hcopy
      · rw [fate_kept hupdates hdeletes, hcopy]
      · cases hcopy

theorem follow (h : Lawful k used o cs) (hfresh : used = false → o = none)
    (hcopy : p = o ∨ p = none) :
    fate k cs p = fate k cs o ∨ fate k cs p = none ∧ ¬ Creates k cs := by
  rcases hcopy with rfl | rfl
  · exact .inl rfl
  · by_cases hcreates : Creates k cs
    · left
      rw [hfresh (h.unused hcreates)]
    · exact .inr ⟨fate_none hcreates, hcreates⟩

section

variable (h : Lawful k used o (cs ++ ds ++ es)) (hfresh : used = false → o = none)

include h hfresh

theorem settled_behind (hcopy : p = fate k (cs ++ ds) o ∨ p = none) :
    Settled k (cs ++ ds ++ es) es (fate k (ds ++ es) p) (fate k (cs ++ ds ++ es) o) := by
  obtain ⟨hfirst, hlast⟩ := h.split
  obtain ⟨-, hmiddle⟩ := hfirst.split
  have hdeleted : Deletes k (cs ++ ds ++ es) → fate k (cs ++ ds ++ es) o = none := h.fate_deleted
  rw [fate_append] at hcopy
  have hcaught := replay_same hmiddle (fresh_fate hfresh) hcopy
  rw [← fate_append] at hcaught
  have hend := follow hlast (fresh_fate hfresh) hcaught
  rw [← fate_append, ← fate_append] at hend
  rcases hend with hsame | ⟨hnone, hcreates⟩
  · rw [hsame]
    exact ⟨hdeleted, fun _ hsome => hsome, fun v w hv hw => Option.some.inj (hv.symm.trans hw)⟩
  · rw [hnone]
    exact ⟨fun _ => rfl, fun hyes => absurd hyes hcreates, fun v w hv => by cases hv⟩

theorem not_missed_of_settled (hcopy : p = fate k cs o ∨ p = none)
    (hsettled : Settled k (cs ++ ds ++ es) (ds ++ es) (fate k es p) (fate k (cs ++ ds ++ es) o)) :
    ¬ Missed k ds es p (fate k (cs ++ ds ++ es) o) := by
  obtain ⟨hfirst, hlast⟩ := h.split
  obtain ⟨-, hmiddle⟩ := hfirst.split
  rintro (⟨hcreates, hfinal⟩ | ⟨hdeletes, hheld⟩ | ⟨hupdates, hheld, hfinal, hdiffer, hrest⟩)
  · have hnone : p = none := by
      rcases hcopy with hcopy | hcopy
      · rw [hcopy]
        exact fresh_fate hfresh (hmiddle.unused hcreates)
      · exact hcopy
    have hlater : ¬ Creates k es := by
      refine h.not_creates_later (touched_of_creates ?_)
      exact creates_append.mpr (.inr hcreates)
    have hpresent := hsettled.present (creates_append.mpr (.inl hcreates)) hfinal
    rw [hnone, fate_none hlater] at hpresent
    cases hpresent
  · obtain ⟨v, hv⟩ := Option.isSome_iff_exists.mp hheld
    have hgone := hsettled.gone (deletes_append.mpr (.inl (deletes_append.mpr (.inr hdeletes))))
    have hused : (used || touched k (cs ++ ds)) = true := by
      rw [touched_of_deletes (deletes_append.mpr (.inr hdeletes)), Bool.or_true]
    have hdead : fate k (cs ++ ds) o = none :=
      hfirst.fate_deleted (deletes_append.mpr (.inr hdeletes))
    rw [hused, hdead] at hlast
    have hkept : (fate k es (some v)).isSome = true := fate_some hlast.not_deletes
    rw [← hv, hgone] at hkept
    cases hkept
  · obtain ⟨v, hv⟩ := Option.isSome_iff_exists.mp hheld
    obtain ⟨w, hw⟩ := Option.isSome_iff_exists.mp hfinal
    have hdeletes : ¬ Deletes k es := by
      intro hdeletes
      rw [h.fate_deleted (deletes_append.mpr (.inr hdeletes))] at hw
      cases hw
    have hkept : fate k es p = some v := by
      rw [hv]
      exact fate_kept hrest hdeletes
    rw [hv, hw] at hdiffer
    exact hdiffer (congrArg some (hsettled.latest v w hkept hw))

theorem settled_of_not_missed (hcopy : p = fate k cs o ∨ p = none)
    (hnot : ¬ Missed k ds es p (fate k (cs ++ ds ++ es) o)) :
    Settled k (cs ++ ds ++ es) (ds ++ es) (fate k es p) (fate k (cs ++ ds ++ es) o) := by
  obtain ⟨hfirst, hlast⟩ := h.split
  obtain ⟨hstart, hmiddle⟩ := hfirst.split
  have hend : fate k (cs ++ ds ++ es) o = fate k es (fate k (cs ++ ds) o) := fate_append
  have halive : ∀ w, fate k (cs ++ ds ++ es) o = some w → ¬ Deletes k es := by
    intro w hw hdeletes
    rw [h.fate_deleted (deletes_append.mpr (.inr hdeletes))] at hw
    cases hw
  refine ⟨?_, ?_, ?_⟩
  · intro hdeletes
    rcases deletes_append.mp hdeletes with hearly | hlate
    · have hlater := h.not_creates_later (touched_of_deletes hearly)
      have hnone : p = none := by
        rcases deletes_append.mp hearly with hbefore | hwithin
        · rcases hcopy with hcopy | hcopy
          · rw [hcopy, hstart.fate_deleted hbefore]
          · exact hcopy
        · by_contra hsome
          exact hnot (.inr (.inl ⟨hwithin, Option.isSome_iff_ne_none.mpr hsome⟩))
      rw [hnone]
      exact fate_none hlater
    · exact hlast.fate_deleted hlate
  · intro hcreates hfinal
    obtain ⟨w, hw⟩ := Option.isSome_iff_exists.mp hfinal
    rcases creates_append.mp hcreates with hwithin | hlate
    · exact absurd (.inl ⟨hwithin, hfinal⟩) hnot
    · exact fate_created hlate (halive w hw)
  · intro v w hv hw
    have hdeletes := halive w hw
    by_cases hcreates : Creates k es
    · have hunused := hlast.unused hcreates
      have hbefore : (used || touched k cs) = false := by
        rw [touched, List.any_append, ← Bool.or_assoc, Bool.or_eq_false_iff] at hunused
        exact hunused.1
      have hnone : p = fate k (cs ++ ds) o := by
        rw [fresh_fate hfresh hunused]
        rcases hcopy with hcopy | hcopy
        · rw [hcopy, fresh_fate hfresh hbefore]
        · exact hcopy
      rw [hnone, ← hend, hw] at hv
      exact (Option.some.inj hv).symm
    · cases hheld : p with
      | none =>
        rw [hheld, fate_none hcreates] at hv
        cases hv
      | some c =>
        rw [hheld] at hv
        by_cases hupdates : Updates k es
        · rw [hlast.fate_updated hdeletes hupdates, ← hend, hw] at hv
          exact (Option.some.inj hv).symm
        · rw [fate_kept hupdates hdeletes] at hv
          cases hv
          by_contra hdiffer
          have hwithin : ¬ Updates k ds := by
            intro hwithin
            refine hnot (.inr (.inr ⟨hwithin, ?_, ?_, ?_, hupdates⟩))
            · rw [hheld]
              rfl
            · rw [hw]
              rfl
            · rw [hheld, hw]
              exact fun heq => hdiffer (Option.some.inj heq)
          have hsource : fate k cs o = some v := by
            rcases hcopy with hcopy | hcopy
            · rw [← hcopy, hheld]
            · rw [hheld] at hcopy
              cases hcopy
          have hmiddleKept : ¬ Deletes k ds := by
            intro hgone
            have hdead : fate k (cs ++ ds) o = none :=
              hfirst.fate_deleted (deletes_append.mpr (.inr hgone))
            rw [hend, hdead, fate_none hcreates] at hw
            cases hw
          rw [hend, fate_append, hsource, fate_kept hwithin hmiddleKept,
            fate_kept hupdates hdeletes] at hw
          exact hdiffer (Option.some.inj hw)

theorem settled_ahead_iff (hcopy : p = fate k cs o ∨ p = none) :
    Settled k (cs ++ ds ++ es) (ds ++ es) (fate k es p) (fate k (cs ++ ds ++ es) o) ↔
      ¬ Missed k ds es p (fate k (cs ++ ds ++ es) o) :=
  ⟨not_missed_of_settled h hfresh hcopy, settled_of_not_missed h hfresh hcopy⟩

end

end

end Vokusz.Lib.Feed
