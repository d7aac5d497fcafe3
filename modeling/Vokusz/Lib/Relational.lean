import Mathlib.Algebra.Ring.Nat
import Mathlib.Data.List.Basic

namespace Vokusz.Lib

abbrev Record (κ β : Type) := κ → Option β

abbrev Database (τ κ β : Type) := τ → List (Record κ β)

inductive OnDelete where
  | cascade
  | setNull
  | restrict
  deriving DecidableEq, Repr

structure ForeignKey (τ κ : Type) where
  child : τ
  columns : List κ
  parent : τ
  keys : List κ
  onDelete : OnDelete := .restrict
  deriving DecidableEq, Repr

variable {τ κ β : Type} [DecidableEq τ] [DecidableEq κ] [DecidableEq β]

def valueAt (columns : List κ) (r : Record κ β) : Option (List β) := columns.mapM r

namespace ForeignKey

variable (fk : ForeignKey τ κ)

def refers (r parent : Record κ β) : Bool :=
  (valueAt fk.columns r).isSome && valueAt fk.keys parent = valueAt fk.columns r

def dangling (db : Database τ κ β) (r : Record κ β) : Bool :=
  (valueAt fk.columns r).isSome && !(db fk.parent).any (fk.refers r)

end ForeignKey

namespace Database

variable (schema : List (ForeignKey τ κ))

def Holds (db : Database τ κ β) : Prop :=
  ∀ fk ∈ schema, ∀ r ∈ db fk.child, fk.dangling db r = false

def lost (db : Database τ κ β) (t : τ) (r : Record κ β) : Bool :=
  schema.any (fun fk => fk.child = t && fk.onDelete = .cascade && fk.dangling db r)

def sweep (db : Database τ κ β) : Database τ κ β :=
  fun t => (db t).filter (fun r => !lost schema db t r)

def sweeps : Nat → Database τ κ β → Database τ κ β
  | 0, db => db
  | n + 1, db => sweeps n (sweep schema db)

def unset (db : Database τ κ β) (t : τ) (r : Record κ β) : Record κ β := fun c =>
  if schema.any (fun fk => fk.child = t && fk.onDelete = .setNull && fk.columns.contains c &&
      fk.dangling db r) then none else r c

def detach (db : Database τ κ β) : Database τ κ β := fun t => (db t).map (unset schema db t)

def restricted (db : Database τ κ β) : Bool :=
  schema.any (fun fk => fk.onDelete = .restrict && (db fk.child).any (fk.dangling db))

def size (tables : List τ) (db : Database τ κ β) : Nat :=
  (tables.map (fun t => (db t).length)).sum

def remove (t : τ) (p : Record κ β → Bool) (db : Database τ κ β) : Database τ κ β :=
  Function.update db t ((db t).filter (fun r => !p r))

def deleteWhere (tables : List τ) (t : τ) (p : Record κ β → Bool) (db : Database τ κ β) :
    Option (Database τ κ β) :=
  let removed := remove t p db
  let cascaded := sweeps schema (size tables removed) removed
  let detached := detach schema cascaded
  if restricted schema detached then none else some detached

def clearWhere (required : List (τ × κ)) (t : τ) (c : κ) (p : Record κ β → Bool)
    (db : Database τ κ β) : Option (Database τ κ β) :=
  if required.contains (t, c) && (db t).any p then none
  else some (Function.update db t
    ((db t).map (fun r => if p r then Function.update r c none else r)))

def Shrinks (db db' : Database τ κ β) : Prop :=
  ∀ t, ∀ r' ∈ db' t, ∃ r ∈ db t, ∀ c, r' c = r c ∨ r' c = none

def Closed (S : List τ) : Prop :=
  ∀ fk ∈ schema, fk.onDelete = .cascade → fk.parent ∈ S → fk.child ∈ S

def reach : Nat → List τ → List τ
  | 0, S => S
  | n + 1, S => reach n (S ++ (schema.filter (fun fk =>
      fk.onDelete = .cascade && S.contains fk.parent && !S.contains fk.child)).map
      ForeignKey.child)

def Detachable : Prop :=
  ∀ fk ∈ schema, fk.onDelete = .setNull → fk.columns ≠ [] ∧
    ∀ c ∈ fk.columns, ∀ fk' ∈ schema, fk'.parent = fk.child → c ∉ fk'.keys

instance (S : List τ) : Decidable (Closed schema S) := by unfold Closed; infer_instance

instance : Decidable (Detachable schema) := by unfold Detachable; infer_instance

variable {schema} {db db' : Database τ κ β} {t : τ} {r : Record κ β} {fk : ForeignKey τ κ}
  {p : Record κ β → Bool} {S tables : List τ}

section

omit [DecidableEq τ] [DecidableEq κ] [DecidableEq β]

theorem valueAt_congr {columns : List κ} {r r' : Record κ β} (h : ∀ c ∈ columns, r' c = r c) :
    valueAt columns r' = valueAt columns r := by
  unfold valueAt
  induction columns with
  | nil => rfl
  | cons c cs ih =>
    rw [List.mapM_cons, List.mapM_cons, h c List.mem_cons_self,
      ih (fun d hd => h d (List.mem_cons_of_mem _ hd))]

theorem valueAt_eq_none {columns : List κ} {r : Record κ β} {c : κ} (hc : c ∈ columns)
    (h : r c = none) : valueAt columns r = none := by
  unfold valueAt
  induction columns with
  | nil => cases hc
  | cons d ds ih =>
    rw [List.mapM_cons]
    rcases List.mem_cons.mp hc with rfl | hc
    · rw [h]
      rfl
    · rw [ih hc]
      cases r d <;> rfl

theorem valueAt_singleton {c : κ} : valueAt [c] r = (r c).map (fun b => [b]) := by
  unfold valueAt
  rw [List.mapM_cons, List.mapM_nil]
  cases r c <;> rfl

end

section

omit [DecidableEq κ]

omit [DecidableEq τ] in
theorem dangling_eq_false : fk.dangling db r = false ↔
    (valueAt fk.columns r).isSome = true →
      ∃ q ∈ db fk.parent, valueAt fk.keys q = valueAt fk.columns r := by
  unfold ForeignKey.dangling ForeignKey.refers
  cases hv : valueAt fk.columns r with
  | none => simp
  | some v => simp

omit [DecidableEq τ] in
theorem not_dangling_of_none (h : valueAt fk.columns r = none) : fk.dangling db r = false := by
  rw [dangling_eq_false, h]
  intro hsome
  cases hsome

omit [DecidableEq τ] in
theorem dangling_congr {db' : Database τ κ β} (h : db' fk.parent = db fk.parent) :
    fk.dangling db' r = fk.dangling db r := by
  rw [ForeignKey.dangling, ForeignKey.dangling, h]

theorem not_lost_iff : lost schema db t r = false ↔
    ∀ fk ∈ schema, fk.child = t → fk.onDelete = .cascade → fk.dangling db r = false := by
  simp only [lost, List.any_eq_false, Bool.and_eq_true, decide_eq_true_eq, not_and,
    Bool.not_eq_true]
  constructor
  · intro h fk hfk hchild hcascade
    exact h fk hfk ⟨hchild, hcascade⟩
  · rintro h fk hfk ⟨hchild, hcascade⟩
    exact h fk hfk hchild hcascade

theorem mem_sweep : r ∈ sweep schema db t ↔ r ∈ db t ∧ lost schema db t r = false := by
  simp [sweep]

end

section

omit [DecidableEq κ]

def Stable (schema : List (ForeignKey τ κ)) (db : Database τ κ β) : Prop :=
  ∀ t, ∀ r ∈ db t, lost schema db t r = false

theorem sweep_of_stable (h : Stable schema db) : sweep schema db = db := by
  funext t
  exact List.filter_eq_self.mpr (fun r hr => by rw [h t r hr, Bool.not_false])

theorem sweeps_of_stable (h : Stable schema db) (n : Nat) : sweeps schema n db = db := by
  induction n with
  | zero => rfl
  | succ n ih => rw [sweeps, sweep_of_stable h, ih]

omit [DecidableEq τ] [DecidableEq β] in
theorem size_cons : size (t :: tables) db = (db t).length + size tables db := by
  simp [size]

theorem size_sweep_le : size tables (sweep schema db) ≤ size tables db := by
  induction tables with
  | nil => exact Nat.le_refl _
  | cons t ts ih =>
    have hrows : (sweep schema db t).length ≤ (db t).length := List.length_filter_le _ _
    rw [size_cons, size_cons]
    omega

theorem size_sweep_lt (ht : t ∈ tables) (hr : r ∈ db t) (hlost : lost schema db t r = true) :
    size tables (sweep schema db) < size tables db := by
  induction tables with
  | nil => cases ht
  | cons t' ts ih =>
    have hrest : size ts (sweep schema db) ≤ size ts db := size_sweep_le
    rw [size_cons, size_cons]
    rcases List.mem_cons.mp ht with rfl | ht
    · have hrows : (sweep schema db t).length < (db t).length := by
        refine List.length_filter_lt_length_iff_exists.mpr ⟨r, hr, ?_⟩
        rw [hlost]
        decide
      omega
    · have hrows : (sweep schema db t').length ≤ (db t').length := List.length_filter_le _ _
      have hlt := ih ht
      omega

theorem stable_sweeps (hall : ∀ t, t ∈ tables) {n : Nat} (hn : size tables db ≤ n) :
    Stable schema (sweeps schema n db) := by
  induction n generalizing db with
  | zero =>
    intro t r hr
    cases hlost : lost schema db t r with
    | false => exact hlost
    | true =>
      have hlt := size_sweep_lt (hall t) hr hlost
      exact absurd (Nat.lt_of_lt_of_le hlt hn) (Nat.not_lt_zero _)
  | succ n ih =>
    by_cases hstable : Stable schema db
    · rw [sweeps_of_stable hstable]
      exact hstable
    · unfold Stable at hstable
      push Not at hstable
      obtain ⟨t, r, hr, hlost⟩ := hstable
      have hlt := size_sweep_lt (hall t) hr (by simpa using hlost)
      exact ih (by omega)

theorem mem_of_mem_sweeps {n : Nat} (h : r ∈ sweeps schema n db t) : r ∈ db t := by
  induction n generalizing db with
  | zero => exact h
  | succ n ih => exact (mem_sweep.mp (ih h)).1

theorem sweep_outside (hS : Closed schema S) {base : Database τ κ β} (hbase : Holds schema base)
    (hsub : ∀ t, ∀ r ∈ db t, r ∈ base t) (hsame : ∀ t, t ∉ S → db t = base t) (ht : t ∉ S) :
    sweep schema db t = base t := by
  rw [← hsame t ht]
  refine List.filter_eq_self.mpr (fun r hr => ?_)
  have hnot : lost schema db t r = false := by
    rw [not_lost_iff]
    intro fk hfk hchild hcascade
    have hparent : fk.parent ∉ S := fun hp => ht (hchild ▸ hS fk hfk hcascade hp)
    rw [dangling_congr (hsame fk.parent hparent)]
    exact hbase fk hfk r (hchild ▸ hsub t r hr)
  rw [hnot, Bool.not_false]

theorem sweeps_outside (hS : Closed schema S) {base : Database τ κ β}
    (hbase : Holds schema base) (hsub : ∀ t, ∀ r ∈ db t, r ∈ base t)
    (hsame : ∀ t, t ∉ S → db t = base t) (n : Nat) (ht : t ∉ S) :
    sweeps schema n db t = base t := by
  induction n generalizing db with
  | zero => exact hsame t ht
  | succ n ih =>
    refine ih (fun t r hr => hsub t r (mem_sweep.mp hr).1) (fun t ht => ?_)
    exact sweep_outside hS hbase hsub hsame ht

end

omit [DecidableEq τ] [DecidableEq κ] [DecidableEq β] in
theorem Shrinks.refl (db : Database τ κ β) : Shrinks db db :=
  fun _ r hr => ⟨r, hr, fun _ => .inl rfl⟩

omit [DecidableEq τ] [DecidableEq κ] [DecidableEq β] in
theorem Shrinks.trans {db'' : Database τ κ β} (h : Shrinks db db') (h' : Shrinks db' db'') :
    Shrinks db db'' := by
  intro t r'' hr''
  obtain ⟨r', hr', hcols'⟩ := h' t r'' hr''
  obtain ⟨r, hr, hcols⟩ := h t r' hr'
  refine ⟨r, hr, fun c => ?_⟩
  rcases hcols' c with heq | hnone
  · rw [heq]
    exact hcols c
  · exact .inr hnone

theorem mem_detach {r' : Record κ β} :
    r' ∈ detach schema db t ↔ ∃ r ∈ db t, unset schema db t r = r' := List.mem_map

theorem unset_cases (c : κ) :
    unset schema db t r c = r c ∨ unset schema db t r c = none := by
  unfold unset
  split
  · exact .inr rfl
  · exact .inl rfl

theorem shrinks_detach : Shrinks db (detach schema db) := by
  intro t r' hr'
  obtain ⟨r, hr, rfl⟩ := mem_detach.mp hr'
  exact ⟨r, hr, unset_cases⟩

theorem unset_of_no_setNull {c : κ}
    (h : ∀ fk ∈ schema, fk.onDelete = .setNull → fk.child = t → c ∉ fk.columns) :
    unset schema db t r c = r c := by
  unfold unset
  refine if_neg (fun hany => ?_)
  simp only [List.any_eq_true, Bool.and_eq_true, decide_eq_true_eq, List.contains_iff_mem] at hany
  obtain ⟨fk, hfk, ⟨⟨hchild, hnull⟩, hc⟩, -⟩ := hany
  exact h fk hfk hnull hchild hc

theorem unset_setNull {c : κ} (hfk : fk ∈ schema) (hnull : fk.onDelete = .setNull)
    (hc : c ∈ fk.columns) (hdangling : fk.dangling db r = true) :
    unset schema db fk.child r c = none := by
  unfold unset
  refine if_pos (List.any_eq_true.mpr ⟨fk, hfk, ?_⟩)
  simp [hnull, hc, hdangling]

theorem unset_keys (hd : Detachable schema) (hfk : fk ∈ schema) :
    valueAt fk.keys (unset schema db fk.parent r) = valueAt fk.keys r := by
  refine valueAt_congr (fun c hc => unset_of_no_setNull (fun fk' hfk' hnull hchild hc' => ?_))
  exact (hd fk' hfk' hnull).2 c hc' fk hfk hchild.symm hc

theorem unset_columns (columns : List κ) :
    valueAt columns (unset schema db t r) = valueAt columns r ∨
      valueAt columns (unset schema db t r) = none := by
  by_cases h : ∀ c ∈ columns, unset schema db t r c = r c
  · exact .inl (valueAt_congr h)
  · push Not at h
    obtain ⟨c, hc, hne⟩ := h
    exact .inr (valueAt_eq_none hc ((unset_cases c).resolve_left hne))

theorem detach_dangling_of_not (hd : Detachable schema) (hfk : fk ∈ schema)
    (h : fk.dangling db r = false) :
    fk.dangling (detach schema db) (unset schema db fk.child r) = false := by
  have hcolumns : valueAt fk.columns (unset schema db fk.child r) = valueAt fk.columns r ∨
      valueAt fk.columns (unset schema db fk.child r) = none := unset_columns fk.columns
  rcases hcolumns with hsame | hnone
  · rw [dangling_eq_false, hsame]
    intro hsome
    obtain ⟨q, hq, hkey⟩ := dangling_eq_false.mp h hsome
    refine ⟨unset schema db fk.parent q, mem_detach.mpr ⟨q, hq, rfl⟩, ?_⟩
    rw [unset_keys hd hfk, hkey]
  · exact not_dangling_of_none hnone

theorem detach_setNull (hd : Detachable schema) (hfk : fk ∈ schema)
    (hnull : fk.onDelete = .setNull) :
    fk.dangling (detach schema db) (unset schema db fk.child r) = false := by
  cases hdangling : fk.dangling db r with
  | false => exact detach_dangling_of_not hd hfk hdangling
  | true =>
    obtain ⟨c, hc⟩ := List.exists_mem_of_ne_nil _ (hd fk hfk hnull).1
    exact not_dangling_of_none (valueAt_eq_none hc (unset_setNull hfk hnull hc hdangling))

theorem detach_dangling (hd : Detachable schema) (hfk : fk ∈ schema)
    (hsame : ∀ c ∈ fk.columns, unset schema db fk.child r c = r c)
    (h : fk.dangling db r = true) :
    fk.dangling (detach schema db) (unset schema db fk.child r) = true := by
  by_contra hnot
  have hfalse := dangling_eq_false.mp (Bool.eq_false_iff.mpr hnot)
  rw [valueAt_congr hsame] at hfalse
  have hdangling : fk.dangling db r = false := by
    refine dangling_eq_false.mpr (fun hsome => ?_)
    obtain ⟨q', hq', hkey⟩ := hfalse hsome
    obtain ⟨q, hq, rfl⟩ := mem_detach.mp hq'
    rw [unset_keys hd hfk] at hkey
    exact ⟨q, hq, hkey⟩
  rw [h] at hdangling
  cases hdangling

omit [DecidableEq τ] [DecidableEq κ] in
theorem restricted_eq_false : restricted schema db = false ↔
    ∀ fk ∈ schema, fk.onDelete = .restrict → ∀ r ∈ db fk.child, fk.dangling db r = false := by
  simp only [restricted, List.any_eq_false, Bool.and_eq_true, decide_eq_true_eq, not_and,
    Bool.not_eq_true]

omit [DecidableEq κ] [DecidableEq β] in
theorem mem_remove {t' : τ} : r ∈ remove t p db t' ↔ r ∈ db t' ∧ (t' = t → p r = false) := by
  unfold remove
  by_cases ht : t' = t
  · subst ht
    rw [Function.update_self, List.mem_filter]
    simp
  · rw [Function.update_of_ne ht]
    simp [ht]

omit [DecidableEq κ] [DecidableEq β] in
theorem shrinks_remove : Shrinks db (remove t p db) :=
  fun _ r hr => ⟨r, (mem_remove.mp hr).1, fun _ => .inl rfl⟩

theorem deleteWhere_eq {out : Database τ κ β} (h : deleteWhere schema tables t p db = some out) :
    restricted schema out = false ∧ out = detach schema
      (sweeps schema (size tables (remove t p db)) (remove t p db)) := by
  simp only [deleteWhere] at h
  split at h
  · cases h
  · rename_i hfree
    cases h
    exact ⟨Bool.eq_false_iff.mpr hfree, rfl⟩

theorem deleteWhere_holds (hd : Detachable schema) (hall : ∀ t, t ∈ tables)
    (h : deleteWhere schema tables t p db = some db') : Holds schema db' := by
  obtain ⟨hfree, rfl⟩ := deleteWhere_eq h
  have hstable : Stable schema (sweeps schema (size tables (remove t p db)) (remove t p db)) :=
    stable_sweeps hall (Nat.le_refl _)
  intro fk hfk r' hr'
  obtain ⟨r, hr, hunset⟩ := mem_detach.mp hr'
  cases haction : fk.onDelete with
  | restrict => exact restricted_eq_false.mp hfree fk hfk haction r' hr'
  | setNull =>
    rw [← hunset]
    exact detach_setNull hd hfk haction
  | cascade =>
    rw [← hunset]
    exact detach_dangling_of_not hd hfk (not_lost_iff.mp (hstable _ r hr) fk hfk rfl haction)

theorem deleteWhere_shrinks (h : deleteWhere schema tables t p db = some db') :
    Shrinks (remove t p db) db' := by
  obtain ⟨-, rfl⟩ := deleteWhere_eq h
  have hsweeps : Shrinks (remove t p db)
      (sweeps schema (size tables (remove t p db)) (remove t p db)) :=
    fun _ r hr => ⟨r, mem_of_mem_sweeps hr, fun _ => .inl rfl⟩
  exact hsweeps.trans shrinks_detach

omit [DecidableEq κ] in
theorem cascaded_outside (hS : Closed schema S) (hdb : Holds schema db) (ht : t ∈ S) (n : Nat)
    {t' : τ} (ht' : t' ∉ S) : sweeps schema n (remove t p db) t' = db t' := by
  refine sweeps_outside hS hdb (fun _ r hr => (mem_remove.mp hr).1) (fun t'' ht'' => ?_) n ht'
  have hne : t'' ≠ t := fun heq => ht'' (heq ▸ ht)
  exact Function.update_of_ne hne _ db

theorem deleteWhere_outside (hS : Closed schema S) (hdb : Holds schema db) (ht : t ∈ S)
    {t' : τ} (ht' : t' ∉ S) (hkeeps : ∀ fk ∈ schema, fk.onDelete = .setNull → fk.child ≠ t')
    (h : deleteWhere schema tables t p db = some db') : db' t' = db t' := by
  obtain ⟨-, rfl⟩ := deleteWhere_eq h
  have hsame : ∀ r, unset schema
      (sweeps schema (size tables (remove t p db)) (remove t p db)) t' r = r := by
    intro r
    funext c
    exact unset_of_no_setNull (fun fk hfk hnull hchild => absurd hchild (hkeeps fk hfk hnull))
  unfold detach
  rw [cascaded_outside hS hdb ht _ ht', List.map_congr_left (fun r _ => hsame r), List.map_id']

omit [DecidableEq κ] in
theorem sweeps_of_no_cascade (h : ∀ fk ∈ schema, fk.onDelete = .cascade → fk.child ≠ t) (n : Nat) :
    sweeps schema n db t = db t := by
  induction n generalizing db with
  | zero => rfl
  | succ n ih =>
    refine ih.trans (List.filter_eq_self.mpr (fun r _ => ?_))
    have hnot : lost schema db t r = false :=
      not_lost_iff.mpr (fun fk hfk hchild hcascade => absurd hchild (h fk hfk hcascade))
    rw [hnot, Bool.not_false]

theorem deleteWhere_succeeds (hd : Detachable schema) (hS : Closed schema S)
    (hdb : Holds schema db) (ht : t ∈ S)
    (hfree : ∀ fk ∈ schema, fk.onDelete = .restrict → fk.parent ∈ S →
      fk.parent = t ∧ (∀ fk' ∈ schema, fk'.onDelete = .cascade → fk'.child ≠ t) ∧
        ∀ q ∈ db t, p q = true → ∀ r ∈ db fk.child, fk.refers r q = false) :
    ∃ out, deleteWhere schema tables t p db = some out := by
  suffices h : restricted schema (detach schema
      (sweeps schema (size tables (remove t p db)) (remove t p db))) = false by
    simp only [deleteWhere]
    rw [h]
    exact ⟨_, rfl⟩
  generalize size tables (remove t p db) = n
  refine restricted_eq_false.mpr (fun fk hfk hrestrict r' hr' => ?_)
  obtain ⟨r, hr, rfl⟩ := mem_detach.mp hr'
  refine detach_dangling_of_not hd hfk ?_
  have hold : r ∈ db fk.child := (mem_remove.mp (mem_of_mem_sweeps hr)).1
  by_cases hparent : fk.parent ∈ S
  · obtain ⟨rfl, hroot, hunreferred⟩ := hfree fk hfk hrestrict hparent
    refine dangling_eq_false.mpr (fun hsome => ?_)
    obtain ⟨q, hq, hkey⟩ := dangling_eq_false.mp (hdb fk hfk r hold) hsome
    have hrefers : fk.refers r q = true := by
      rw [ForeignKey.refers, hsome, hkey]
      simp
    have hstays : p q = false := by
      cases hp : p q with
      | false => rfl
      | true =>
        rw [hunreferred q hq hp r hold] at hrefers
        cases hrefers
    rw [sweeps_of_no_cascade hroot]
    exact ⟨q, mem_remove.mpr ⟨hq, fun _ => hstays⟩, hkey⟩
  · rw [dangling_congr (cascaded_outside hS hdb ht n hparent)]
    exact hdb fk hfk r hold

theorem deleteWhere_refused (hd : Detachable schema) (hS : Closed schema S)
    (hdb : Holds schema db) (ht : t ∈ S) (hfk : fk ∈ schema) (hrestrict : fk.onDelete = .restrict)
    (hparent : fk.parent = t) (hchild : fk.child ∉ S)
    (hkeeps : ∀ fk' ∈ schema, fk'.onDelete = .setNull → fk'.child ≠ fk.child)
    (hr : r ∈ db fk.child) (hsome : (valueAt fk.columns r).isSome = true)
    (hgone : ∀ q ∈ db t, valueAt fk.keys q = valueAt fk.columns r → p q = true) :
    deleteWhere schema tables t p db = none := by
  cases hout : deleteWhere schema tables t p db with
  | none => rfl
  | some out =>
    obtain ⟨hfree, hdetach⟩ := deleteWhere_eq hout
    generalize size tables (remove t p db) = n at hdetach
    rw [hdetach] at hfree
    have hthere : r ∈ sweeps schema n (remove t p db) fk.child := by
      rw [cascaded_outside hS hdb ht n hchild]
      exact hr
    have hdangling : fk.dangling (sweeps schema n (remove t p db)) r = true := by
      by_contra hnot
      obtain ⟨q, hq, hkey⟩ := dangling_eq_false.mp (Bool.eq_false_iff.mpr hnot) hsome
      rw [hparent] at hq
      obtain ⟨hq, hstays⟩ := mem_remove.mp (mem_of_mem_sweeps hq)
      rw [hgone q hq hkey] at hstays
      exact Bool.false_ne_true (hstays rfl).symm
    have hsame : ∀ c ∈ fk.columns,
        unset schema (sweeps schema n (remove t p db)) fk.child r c = r c :=
      fun c _ => unset_of_no_setNull (fun fk' hfk' hnull heq => absurd heq (hkeeps fk' hfk' hnull))
    have hlast := restricted_eq_false.mp hfree fk hfk hrestrict _
      (mem_detach.mpr ⟨r, hthere, rfl⟩)
    rw [detach_dangling hd hfk hsame hdangling] at hlast
    cases hlast

section

variable {required : List (τ × κ)} {c : κ} {b : β}

omit [DecidableEq β] in
theorem clearWhere_eq {out : Database τ κ β}
    (h : clearWhere required t c p db = some out) : out = Function.update db t
      ((db t).map (fun r => if p r then Function.update r c none else r)) := by
  unfold clearWhere at h
  split at h
  · cases h
  · cases h
    rfl

omit [DecidableEq β] in
theorem clearWhere_succeeds (h : (t, c) ∉ required) :
    ∃ out, clearWhere required t c p db = some out := by
  refine ⟨_, if_neg (fun hboth => ?_)⟩
  rw [Bool.and_eq_true, List.contains_iff_mem] at hboth
  exact h hboth.1

omit [DecidableEq β] in
theorem clearWhere_outside {t' : τ} (hne : t' ≠ t)
    (h : clearWhere required t c p db = some db') : db' t' = db t' := by
  rw [clearWhere_eq h, Function.update_of_ne hne]

omit [DecidableEq β] in
theorem mem_cleared {t' : τ} {r' : Record κ β} (h : clearWhere required t c p db = some db')
    (hr' : r' ∈ db' t') : r' ∈ db t' ∧ (t' = t → p r' = false) ∨
      t' = t ∧ ∃ r ∈ db t, p r = true ∧ r' = Function.update r c none := by
  rw [clearWhere_eq h] at hr'
  by_cases ht : t' = t
  · subst ht
    rw [Function.update_self] at hr'
    obtain ⟨r, hr, rfl⟩ := List.mem_map.mp hr'
    cases hp : p r with
    | true =>
      rw [if_pos rfl]
      exact .inr ⟨rfl, r, hr, hp, rfl⟩
    | false =>
      rw [if_neg Bool.false_ne_true]
      exact .inl ⟨hr, fun _ => hp⟩
  · rw [Function.update_of_ne ht] at hr'
    exact .inl ⟨hr', fun heq => absurd heq ht⟩

omit [DecidableEq β] in
theorem clearWhere_shrinks (h : clearWhere required t c p db = some db') : Shrinks db db' := by
  intro t' r' hr'
  rcases mem_cleared h hr' with ⟨hr, -⟩ | ⟨rfl, r, hr, -, rfl⟩
  · exact ⟨r', hr, fun _ => .inl rfl⟩
  · refine ⟨r, hr, fun d => ?_⟩
    by_cases hd : d = c
    · rw [hd, Function.update_self]
      exact .inr rfl
    · exact .inl (Function.update_of_ne hd _ _)

omit [DecidableEq β] in
theorem cleared_parent {t' : τ} {q : Record κ β} {keys : List κ}
    (hkeys : t' = t → c ∉ keys) (h : clearWhere required t c p db = some db') (hq : q ∈ db t') :
    ∃ q' ∈ db' t', valueAt keys q' = valueAt keys q := by
  rw [clearWhere_eq h]
  by_cases ht : t' = t
  · subst ht
    rw [Function.update_self]
    refine ⟨_, List.mem_map.mpr ⟨q, hq, rfl⟩, valueAt_congr (fun d hd => ?_)⟩
    have hne : d ≠ c := by
      rintro rfl
      exact hkeys rfl hd
    split
    · exact Function.update_of_ne hne none q
    · rfl
  · rw [Function.update_of_ne ht]
    exact ⟨q, hq, rfl⟩

theorem clearWhere_holds (hkeys : ∀ fk ∈ schema, fk.parent = t → c ∉ fk.keys)
    (hdb : Holds schema db) (h : clearWhere required t c p db = some db') : Holds schema db' := by
  intro fk hfk r' hr'
  have hparent : ∀ q ∈ db fk.parent, ∃ q' ∈ db' fk.parent,
      valueAt fk.keys q' = valueAt fk.keys q := fun q hq => cleared_parent (hkeys fk hfk) h hq
  have hstays : ∀ r ∈ db fk.child, valueAt fk.columns r' = valueAt fk.columns r →
      fk.dangling db' r' = false := by
    intro r hr hvalue
    refine dangling_eq_false.mpr (fun hsome => ?_)
    rw [hvalue] at hsome ⊢
    obtain ⟨q, hq, hkey⟩ := dangling_eq_false.mp (hdb fk hfk r hr) hsome
    obtain ⟨q', hq', hsame⟩ := hparent q hq
    exact ⟨q', hq', hsame.trans hkey⟩
  rcases mem_cleared h hr' with ⟨hr, -⟩ | ⟨ht, r, hr, -, rfl⟩
  · exact hstays r' hr rfl
  · by_cases hc : c ∈ fk.columns
    · exact not_dangling_of_none (valueAt_eq_none hc (Function.update_self c none r))
    · refine hstays r (ht ▸ hr) (valueAt_congr (fun d hd => ?_))
      have hne : d ≠ c := by
        rintro rfl
        exact hc hd
      exact Function.update_of_ne hne none r

def Free (db : Database τ κ β) (t : τ) (c : κ) (b : β) : Prop := ∀ r ∈ db t, r c ≠ some b

omit [DecidableEq τ] [DecidableEq κ] [DecidableEq β] in
theorem Free.shrinks (h : Free db t c b) (hshrinks : Shrinks db db') : Free db' t c b := by
  intro r' hr' hvalue
  obtain ⟨r, hr, hcols⟩ := hshrinks t r' hr'
  rcases hcols c with heq | hnone
  · exact h r hr (heq.symm.trans hvalue)
  · rw [hvalue] at hnone
    cases hnone

theorem free_of_deleteWhere
    (h : deleteWhere schema tables t (fun r => r c = some b) db = some db') : Free db' t c b := by
  have hremoved : Free (remove t (fun r => decide (r c = some b)) db) t c b := by
    intro r hr hvalue
    have hstays := (mem_remove.mp hr).2 rfl
    rw [decide_eq_true hvalue] at hstays
    cases hstays
  exact hremoved.shrinks (deleteWhere_shrinks h)

theorem free_of_clearWhere
    (h : clearWhere required t c (fun r => r c = some b) db = some db') : Free db' t c b := by
  intro r' hr' hvalue
  rcases mem_cleared h hr' with ⟨-, hnot⟩ | ⟨-, r, -, -, rfl⟩
  · have hstays := hnot rfl
    rw [decide_eq_true hvalue] at hstays
    cases hstays
  · rw [Function.update_self] at hvalue
    cases hvalue

end

end Database

end Vokusz.Lib
