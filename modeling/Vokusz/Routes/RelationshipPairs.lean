import Vokusz.Lib.RelyGuarantee
import Vokusz.Routes.Relationships

namespace Vokusz.Routes.Relationships

open Db
open Lib (Prog Task Pool)
open Db.Relationships (relationshipKey setKind dropRow upsertRelationship)

def kindOf (db : Tables) (a b : String) : Option Nat :=
  (Lib.Table.lookup relationshipKey (a, b) db.relationships).map Relationship.kind

def consistentPairs : List (Option Nat × Option Nat) :=
  [(none, none), (some 4, some 3), (some 3, some 4), (some 1, some 1), (some 2, none),
    (none, some 2), (some 2, some 2)]

def Consistent (db : Tables) (a b : String) : Prop :=
  (kindOf db a b, kindOf db b a) ∈ consistentPairs

instance (db : Tables) (a b : String) : Decidable (Consistent db a b) :=
  inferInstanceAs (Decidable (_ ∈ _))

inductive Half where
  | accept
  | request
  | block
  deriving DecidableEq, Repr

namespace Half

def own : Half → Nat
  | .accept => 1
  | .request => 4
  | .block => 2

def other : Half → Option Nat
  | .accept => some 1
  | .request => some 3
  | .block => none

def finish : Half → String → String → App Json
  | .accept => finishAccept
  | .request => finishRequest
  | .block => finishBlock

theorem pairs (half : Half) :
    (some half.own, half.other) ∈ consistentPairs ∧ (half.other, some half.own) ∈ consistentPairs
    := by
  cases half <;> decide

end Half

section

variable {a b userId targetId now : String} {kind : Nat} {db : Tables}

theorem kindOf_setKind : kindOf (setKind userId targetId kind now db) a b =
    if (a, b) = (userId, targetId) then some kind else kindOf db a b := by
  split
  · rename_i hkey
    obtain ⟨rfl, rfl⟩ := Prod.mk.inj hkey
    have hhas : Lib.Table.has relationshipKey (a, b) (setKind a b kind now db).relationships = true :=
      Lib.Table.has_upsert (fun _ => rfl)
    rw [← Lib.Table.lookup_isSome, Option.isSome_iff_exists] at hhas
    obtain ⟨r, hr⟩ := hhas
    rw [kindOf, hr, Option.map_some,
      kind_of_mem_setKind (Lib.Table.lookup_mem hr) (Lib.Table.lookup_key hr)]
  · rename_i hne
    have hlookup : Lib.Table.lookup relationshipKey (a, b)
        (setKind userId targetId kind now db).relationships =
          Lib.Table.lookup relationshipKey (a, b) db.relationships :=
      Lib.Table.lookup_upsert_of_ne hne (fun _ => rfl)
    rw [kindOf, hlookup, kindOf]

theorem kindOf_dropRow : kindOf (dropRow userId targetId db) a b =
    if (a, b) = (userId, targetId) then none else kindOf db a b := by
  unfold kindOf dropRow
  rw [Lib.Table.lookup_delete]
  split <;> rfl

end

inductive Move (s t : AppState) : Prop
  | calm (h : t.db.relationships = s.db.relationships)
  | removes (a b : String)
      (h : t.db.relationships = (dropRow b a (dropRow a b s.db)).relationships)

inductive Opens (s t : AppState) (q : App Json) : Prop
  | mk (half : Half) (a b now : String) (hne : b ≠ a) (hq : q = half.finish a b)
      (h : t.db.relationships = (setKind a b half.own now s.db).relationships)

def Orderly : App Json → Prop
  | .ret _ => True
  | .fail _ => True
  | .step u n => ∀ s, (u s).db.relationships = s.db.relationships ∧ Orderly (n s)
  | .stmt u n q =>
    (∀ s, Move s (u s) ∧ Orderly (n s) ∨ Opens s (u s) (n s)) ∧ Orderly q

section

variable {s t : AppState} {p q : App Json} {a b : String}

theorem Orderly.step (h : Orderly p) (hstep : Prog.Step (p, s) (q, t)) :
    Move s t ∧ Orderly q ∨ Opens s t q := by
  cases hstep with
  | step u n s => exact .inl ⟨.calm (h s).1, (h s).2⟩
  | stmt u n q s => exact h.1 s
  | fault u n q s => exact .inl ⟨.calm rfl, h.2⟩

theorem Orderly.after {β : Type} {r : App β} {f : β → App Json}
    (hr : r.Preserves (fun s => s.db.relationships)) (hf : ∀ x, Orderly (f x)) :
    Orderly (r >>= f) := by
  change Orderly (r.bind f)
  induction r with
  | ret x => exact hf x
  | fail e => trivial
  | step u n ih => exact fun s => ⟨(hr s).1, ih s (hr s).2⟩
  | stmt u n q ih ihq =>
    exact ⟨fun s => .inl ⟨.calm (hr.1 s).1, ih s (hr.1 s).2⟩, ihq hr.2⟩

theorem orderly_of_preserves (h : p.Preserves (fun s => s.db.relationships)) : Orderly p := by
  have hret : ∀ j, Orderly (.ret j) := fun _ => trivial
  have hbind := Orderly.after h hret
  rwa [show p >>= Prog.ret = p from Prog.bind_ret p] at hbind

theorem orderly_opens (half : Half) (hne : b ≠ a) :
    Orderly (upsertRelationship a b half.own >>= fun _ => half.finish a b) := by
  refine ⟨fun s => ?_, trivial⟩
  dsimp only
  cases App.foreignKey (Db.Relationships.referencesUsers a b s.db) with
  | some e => exact .inl ⟨.calm rfl, trivial⟩
  | none => exact .inr ⟨half, a, b, s.now, hne, rfl, rfl⟩

theorem orderly_respond (missing : String) : Orderly (respond a b missing) :=
  orderly_of_preserves (preserves_respond _ _ _)

theorem orderly_friend (hne : b ≠ a) : Orderly (handleFriendOrAccept a b) := by
  refine Orderly.after (App.preserves_lift _) (fun blocked => ?_)
  refine Orderly.after (Prog.preserves_require _ _) (fun _ => ?_)
  refine Orderly.after (App.preserves_lift _) (fun mine => ?_)
  refine Orderly.after (App.preserves_lift _) (fun theirs => ?_)
  split
  · exact orderly_opens .accept hne
  · split
    · exact orderly_respond _
    · exact orderly_opens .request hne

theorem orderly_put (relType : Int) : Orderly (putRelationship a b relType) := by
  by_cases hne : b ≠ a
  · rw [putRelationship, Prog.require_bind, if_pos hne]
    refine Orderly.after (App.preserves_lift _) (fun _ => ?_)
    split
    · exact orderly_friend hne
    · split
      · exact orderly_opens .block hne
      · trivial
  · rw [putRelationship, Prog.require_bind, if_neg hne]
    trivial

theorem orderly_delete : Orderly (deleteRelationship a b) := by
  refine Orderly.after (App.preserves_lift _) (fun existing => ?_)
  refine Orderly.after (Prog.preserves_require _ _) (fun _ => ?_)
  refine ⟨fun s => .inl ⟨.removes a b rfl, ?_⟩, trivial⟩
  have hreturn : Orderly (return .obj []) := trivial
  have hrest : Orderly (do
      sendTo a "relationship.remove" (.obj [("user_id", .str b)])
      sendTo b "relationship.remove" (.obj [("user_id", .str a)])
      return .obj []) :=
    Orderly.after (preserves_sendTo (fun _ _ => rfl) _ _ _)
      (fun _ => Orderly.after (preserves_sendTo (fun _ _ => rfl) _ _ _) (fun _ => hreturn))
  exact hrest

theorem orderly_serve (r : Request) : Orderly r.serve := by
  cases r with
  | put a b relType => exact orderly_put relType
  | delete a b => exact orderly_delete

end

section

variable {s t : AppState} {q : App Json} {a b : String}

inductive Closes (half : Half) (a b : String) (s t : AppState) (q : App Json) : Prop
  | fails (e : AppError) (hq : q = .fail e) (h : t = s)
  | writes (hq : Orderly q) (h : kindOf t.db b a = half.other)
      (hothers : ∀ x y, (x, y) ≠ (b, a) → kindOf t.db x y = kindOf s.db x y)

theorem orderly_of_db (h : q.Preserves AppState.db) : Orderly q :=
  orderly_of_preserves (h.map Tables.relationships)

theorem upsert_closes {half : Half} {kind : Nat} {rest : App Json} (hkind : half.other = some kind)
    (hrest : rest.Preserves AppState.db)
    (hstep : Prog.Step (upsertRelationship b a kind >>= fun _ => rest, s) (q, t)) :
    Closes half a b s t q := by
  rcases Prog.step_statement_bind hstep with ⟨hq, ht⟩ | ⟨e, hfailed, hq, ht⟩ | ⟨_, hok, hq, ht⟩
  · exact .fails _ hq ht
  · cases hfk : App.foreignKey (Db.Relationships.referencesUsers b a s.db) with
    | some e' => exact .fails e hq (by simpa [hfk] using ht)
    | none => simp [hfk] at hfailed
  · cases hfk : App.foreignKey (Db.Relationships.referencesUsers b a s.db) with
    | some e' => simp [hfk] at hok
    | none =>
      have hdb : t.db = setKind b a kind s.now s.db := by simp [ht, hfk]
      refine .writes (hq ▸ orderly_of_db hrest) ?_ (fun x y hne => ?_)
      · rw [hdb, kindOf_setKind, if_pos rfl, hkind]
      · rw [hdb, kindOf_setKind, if_neg hne]

theorem finish_closes {half : Half} (hstep : Prog.Step (half.finish a b, s) (q, t)) :
    Closes half a b s t q := by
  cases half with
  | accept => exact upsert_closes rfl preserves_finishAccept_rest hstep
  | request => exact upsert_closes rfl preserves_finishRequest_rest hstep
  | block =>
    rcases Prog.step_statement_bind hstep with ⟨hq, ht⟩ | ⟨e, hfailed, _⟩ | ⟨had, _, hq, ht⟩
    · exact .fails _ hq ht
    · cases hfailed
    · have hdb : t.db = dropRow b a s.db := congrArg AppState.db ht
      refine .writes (hq ▸ orderly_of_db (preserves_finishBlock_rest _)) ?_ (fun x y hne => ?_)
      · rw [hdb, kindOf_dropRow, if_pos rfl]
        rfl
      · rw [hdb, kindOf_dropRow, if_neg hne]

end

abbrev Pending := Task Empty AppState AppError Json

abbrev Requests (ι : Type) := Pool ι Request Empty AppState AppError Json

def program (r : Request) : Pending := Task.lift r.serve

def never (_ : Request) : Prop := False

def Elsewhere (s t : AppState) : Prop := t.db.relationships = s.db.relationships

def SamePair (a b x y : String) : Prop := (x, y) = (a, b) ∨ (x, y) = (b, a)

instance (a b x y : String) : Decidable (SamePair a b x y) :=
  inferInstanceAs (Decidable (_ ∨ _))

def Halfway (a b : String) (half : Half) (x y : String) (p : Pending) : Prop :=
  SamePair a b x y ∧ y ≠ x ∧ p = Task.lift (half.finish x y)

section

variable {ι : Type} [DecidableEq ι] {a b : String} {c d : Requests ι}

def Undisturbed (a b : String) (c d : Requests ι) : Prop :=
  ∀ i r p half x y, c.threads i = some (r, p) → Halfway a b half x y p →
    d.threads i ≠ c.threads i →
    kindOf c.state.db x y = some half.own ∧ ∀ e, d.threads i ≠ some (r, .fail e)

def Run (a b : String) : Requests ι → Requests ι → Prop :=
  Relation.ReflTransGen
    (fun c d => Pool.Step program never Elsewhere c d ∧ Undisturbed a b c d)

def Known (p : Pending) : Prop :=
  (∃ q, p = Task.lift q ∧ Orderly q) ∨ ∃ half x y, y ≠ x ∧ p = Task.lift (Half.finish half x y)

structure Settling (a b : String) (c : Requests ι) : Prop where
  known : ∀ i r p, c.threads i = some (r, p) → Known p
  pair : Consistent c.state.db a b ∨
    ∃ i r p half x y, c.threads i = some (r, p) ∧ Halfway a b half x y p

theorem kindOf_of_same {s t : AppState} (h : t.db.relationships = s.db.relationships)
    (x y : String) : kindOf t.db x y = kindOf s.db x y := by
  rw [kindOf, kindOf, h]

theorem consistent_of_same {s t : AppState} (h : t.db.relationships = s.db.relationships)
    (hs : Consistent s.db a b) : Consistent t.db a b := by
  rw [Consistent, kindOf_of_same h, kindOf_of_same h]
  exact hs

theorem samePair_symm {x y : String} : SamePair a b x y ↔ SamePair b a x y := by
  unfold SamePair
  exact or_comm

theorem kindOf_removed {s t : AppState} {x y : String}
    (h : t.db.relationships = (dropRow y x (dropRow x y s.db)).relationships) (a b : String) :
    kindOf t.db a b = if SamePair a b x y then none else kindOf s.db a b := by
  have hrows : kindOf t.db a b = kindOf (dropRow y x (dropRow x y s.db)) a b := by
    rw [kindOf, h, kindOf]
  rw [hrows, kindOf_dropRow, kindOf_dropRow]
  unfold SamePair
  simp only [Prod.mk.injEq]
  split_ifs <;> first | rfl | (exfalso; grind)

theorem consistent_removed {s t : AppState} {x y : String}
    (h : t.db.relationships = (dropRow y x (dropRow x y s.db)).relationships)
    (hs : Consistent s.db a b ∨ SamePair a b x y) : Consistent t.db a b := by
  rw [Consistent, kindOf_removed h, kindOf_removed h]
  by_cases hpair : SamePair a b x y
  · rw [if_pos hpair, if_pos (samePair_symm.mp hpair)]
    decide
  · rw [if_neg hpair, if_neg (fun hba => hpair (samePair_symm.mpr hba))]
    exact hs.resolve_right hpair

theorem consistent_opened {s t : AppState} {x y now : String} {kind : Nat}
    (h : t.db.relationships = (setKind x y kind now s.db).relationships)
    (hother : ¬ SamePair a b x y) (hs : Consistent s.db a b) : Consistent t.db a b := by
  have hrows : ∀ u v, kindOf t.db u v = kindOf (setKind x y kind now s.db) u v := by
    intro u v
    rw [kindOf, h, kindOf]
  have hab : (a, b) ≠ (x, y) := fun heq => hother (.inl heq.symm)
  have hba : (b, a) ≠ (x, y) := fun heq => hother (.inr heq.symm)
  rw [Consistent, hrows, hrows, kindOf_setKind, kindOf_setKind, if_neg hab, if_neg hba]
  exact hs

theorem consistent_closed {s t : AppState} {x y : String} {half : Half} (hne : y ≠ x)
    (hclosed : kindOf t.db y x = half.other)
    (hothers : ∀ u v, (u, v) ≠ (y, x) → kindOf t.db u v = kindOf s.db u v)
    (hs : SamePair a b x y → kindOf s.db x y = some half.own)
    (hcons : ¬ SamePair a b x y → Consistent s.db a b) : Consistent t.db a b := by
  by_cases hpair : SamePair a b x y
  · have hopened : kindOf t.db x y = some half.own := by
      rw [hothers x y (fun heq => hne (Prod.mk.inj heq).2)]
      exact hs hpair
    rcases hpair with heq | heq
    · obtain ⟨rfl, rfl⟩ := Prod.mk.inj heq
      rw [Consistent, hclosed, hopened]
      exact half.pairs.1
    · obtain ⟨rfl, rfl⟩ := Prod.mk.inj heq
      rw [Consistent, hclosed, hopened]
      exact half.pairs.2
  · have hab : (a, b) ≠ (y, x) := by
      rintro heq
      obtain ⟨rfl, rfl⟩ := Prod.mk.inj heq
      exact hpair (.inr rfl)
    have hba : (b, a) ≠ (y, x) := by
      rintro heq
      obtain ⟨rfl, rfl⟩ := Prod.mk.inj heq
      exact hpair (.inl rfl)
    rw [Consistent, hothers a b hab, hothers b a hba]
    exact hcons hpair

theorem known_set {i : ι} {entry : Option (Request × Pending)} {d : Requests ι}
    (hknown : ∀ i r p, d.threads i = some (r, p) → Known p)
    (hentry : ∀ r p, entry = some (r, p) → Known p) :
    ∀ j r p, (d.set i entry).threads j = some (r, p) → Known p := by
  intro j r p hj
  by_cases hji : j = i
  · rw [hji, Pool.set_threads_self] at hj
    exact hentry r p hj
  · rw [Pool.set_threads_of_ne hji] at hj
    exact hknown j r p hj

theorem pair_of_others {i : ι} {entry : Option (Request × Pending)} {d : Requests ι}
    (hthreads : d.threads = c.threads) (hstate : Consistent c.state.db a b →
      Consistent d.state.db a b)
    (hi : ∀ r p half x y, c.threads i = some (r, p) → ¬ Halfway a b half x y p)
    (hpair : Consistent c.state.db a b ∨
      ∃ i r p half x y, c.threads i = some (r, p) ∧ Halfway a b half x y p) :
    Consistent (d.set i entry).state.db a b ∨
      ∃ j r p half x y, (d.set i entry).threads j = some (r, p) ∧ Halfway a b half x y p := by
  rcases hpair with hcons | ⟨j, r, p, half, x, y, hj, hhalf⟩
  · exact .inl (hstate hcons)
  · have hji : j ≠ i := by
      rintro rfl
      exact hi r p half x y hj hhalf
    refine .inr ⟨j, r, p, half, x, y, ?_, hhalf⟩
    rw [Pool.set_threads_of_ne hji, hthreads, hj]

theorem lift_finish_ne (half : Half) (x y : String) (r : Except AppError Json) :
    (Task.lift (half.finish x y) : Pending) ≠ Task.ofExcept r := by
  cases half <;> cases r <;> exact fun h => nomatch h

section

variable (hc : Settling a b c) {i : ι} {op : Request}

include hc

theorem Settling.moved {p : Pending} {q : App Json} {t : AppState} (hi : c.threads i = some (op, p))
    (hwhole : ∀ half x y, ¬ Halfway a b half x y p) (hq : Known (Task.lift q))
    (hstate : Consistent c.state.db a b → Consistent t.db a b) :
    Settling a b (Pool.set { c with state := t } i (some (op, Task.lift q))) := by
  refine ⟨known_set hc.known ?_, pair_of_others (c := c) rfl hstate ?_ hc.pair⟩
  · rintro r p heq
    cases heq
    exact hq
  · intro r p' half x y hp
    rw [hi] at hp
    cases hp
    exact hwhole half x y

theorem Settling.finishes {half : Half} {x y : String} {p q : Pending} {t : AppState}
    (hi : c.threads i = some (op, p)) (hhalf : Halfway a b half x y p)
    (hmove : Task.Moves (p, c.state) (q, t))
    (hquiet : Undisturbed a b c (Pool.set { c with state := t } i (some (op, q)))) :
    Settling a b (Pool.set { c with state := t } i (some (op, q))) := by
  have hmoved : (Pool.set { c with state := t } i (some (op, q))).threads i ≠ c.threads i := by
    rw [Pool.set_threads_self, hi]
    intro heq
    exact Task.ne_of_moves hmove (Prod.mk.inj (Option.some.inj heq)).2
  obtain ⟨hown, hgoes⟩ := hquiet i op p half x y hi hhalf hmoved
  obtain ⟨hpair, hne, rfl⟩ := hhalf
  obtain ⟨q, rfl, hstep⟩ := Task.moves_lift hmove
  cases finish_closes hstep with
  | fails e hq h =>
    rw [Pool.set_threads_self, hq] at hgoes
    exact absurd rfl (hgoes e)
  | writes hq hclosed hothers =>
    refine ⟨known_set hc.known ?_, .inl ?_⟩
    · rintro r p heq
      cases heq
      exact .inl ⟨q, rfl, hq⟩
    · exact consistent_closed hne hclosed hothers (fun _ => hown) (fun hnot => absurd hpair hnot)

theorem Settling.finishes_other {half : Half} {x y : String} {q : Pending} {t : AppState}
    (hi : c.threads i = some (op, Task.lift (half.finish x y))) (hne : y ≠ x)
    (hwhole : ∀ half' u v, ¬ Halfway a b half' u v (Task.lift (half.finish x y)))
    (hmove : Task.Moves (Task.lift (half.finish x y), c.state) (q, t)) :
    Settling a b (Pool.set { c with state := t } i (some (op, q))) := by
  have hother : ¬ SamePair a b x y := fun hpair => hwhole half x y ⟨hpair, hne, rfl⟩
  obtain ⟨q, rfl, hstep⟩ := Task.moves_lift hmove
  cases finish_closes hstep with
  | fails e hq h =>
    subst h
    exact hc.moved hi hwhole (.inl ⟨q, rfl, hq ▸ trivial⟩) id
  | writes hq hclosed hothers =>
    refine hc.moved hi hwhole (.inl ⟨q, rfl, hq⟩) (fun hcons => ?_)
    exact consistent_closed hne hclosed hothers (fun hpair => absurd hpair hother) (fun _ => hcons)

theorem Settling.proceeds {p : App Json} {q : Pending} {t : AppState}
    (hi : c.threads i = some (op, Task.lift p)) (horderly : Orderly p)
    (hwhole : ∀ half x y, ¬ Halfway a b half x y (Task.lift p))
    (hmove : Task.Moves (Task.lift p, c.state) (q, t)) :
    Settling a b (Pool.set { c with state := t } i (some (op, q))) := by
  obtain ⟨q, rfl, hstep⟩ := Task.moves_lift hmove
  rcases horderly.step hstep with ⟨hrows, hq⟩ | ⟨half, x, y, now, hne, rfl, hrows⟩
  · refine hc.moved hi hwhole (.inl ⟨q, rfl, hq⟩) (fun hcons => ?_)
    cases hrows with
    | calm h => exact consistent_of_same h hcons
    | removes x y h => exact consistent_removed h (.inl hcons)
  · by_cases hpair : SamePair a b x y
    · refine ⟨known_set hc.known ?_,
        .inr ⟨i, op, _, half, x, y, Pool.set_threads_self _ _ _, hpair, hne, rfl⟩⟩
      rintro r p heq
      cases heq
      exact .inr ⟨half, x, y, hne, rfl⟩
    · exact hc.moved hi hwhole (.inr ⟨half, x, y, hne, rfl⟩) (consistent_opened hrows hpair)

end

theorem Settling.step (hc : Settling a b c) (hstep : Pool.Step program never Elsewhere c d)
    (hquiet : Undisturbed a b c d) : Settling a b d := by
  cases hstep with
  | start i op hi halone =>
    refine ⟨known_set hc.known ?_, pair_of_others rfl id ?_ hc.pair⟩
    · rintro r p heq
      cases heq
      exact .inl ⟨op.serve, rfl, orderly_serve op⟩
    · intro r p half x y hi'
      rw [hi] at hi'
      cases hi'
  | ends i op j hi =>
    refine ⟨known_set hc.known (fun r p heq => by cases heq), pair_of_others rfl id ?_ hc.pair⟩
    intro r p half x y hi' hhalf
    rw [hi] at hi'
    cases hi'
    exact lift_finish_ne half x y (.ok j) hhalf.2.2.symm
  | fails i op e hi =>
    refine ⟨known_set hc.known (fun r p heq => by cases heq), pair_of_others rfl id ?_ hc.pair⟩
    intro r p half x y hi' hhalf
    rw [hi] at hi'
    cases hi'
    exact lift_finish_ne half x y (.error e) hhalf.2.2.symm
  | moves i op p q t hi hmove =>
    by_cases hhalf : ∃ half x y, Halfway a b half x y p
    · obtain ⟨half, x, y, hhalf⟩ := hhalf
      exact hc.finishes hi hhalf hmove hquiet
    · have hwhole : ∀ half x y, ¬ Halfway a b half x y p :=
        fun half x y h => hhalf ⟨half, x, y, h⟩
      rcases hc.known i op p hi with ⟨p, rfl, horderly⟩ | ⟨half, x, y, hne, rfl⟩
      · exact hc.proceeds hi horderly hwhole hmove
      · exact hc.finishes_other hi hne hwhole hmove
  | acquires i op m q hi hfree => exact m.elim
  | releases i op m q hi => exact m.elim
  | outside t ht =>
    refine ⟨hc.known, ?_⟩
    rcases hc.pair with hcons | hhalf
    · exact .inl (consistent_of_same ht hcons)
    · exact .inr hhalf

theorem settling_run (hstart : Settling a b c) (hrun : Run a b c d) : Settling a b d := by
  induction hrun with
  | refl => exact hstart
  | tail _ hstep ih => exact ih.step hstep.1 hstep.2

end

def acquainted (relationships : List Relationship) : AppState :=
  { db :=
      { users := [{ id := "1", username := "ann" }, { id := "2", username := "bob" }]
        relationships := relationships }
    ext := Externals.fixed "2025-01-01 00:00:00" }

def friends : AppState :=
  acquainted [{ userId := "1", targetUserId := "2", kind := 1 },
    { userId := "2", targetUserId := "1", kind := 1 }]

def bothAsked : AppState :=
  acquainted [{ userId := "1", targetUserId := "2", kind := 4 },
    { userId := "2", targetUserId := "1", kind := 4 }]

theorem not_halfway {half : Half} {x y : String} {p q : Pending}
    (hmove : Task.Moves (p, bothAsked) (q, bothAsked)) (hq : ∀ e, q ≠ .fail e) :
    ¬ Halfway "1" "2" half x y p := by
  rintro ⟨hpair, _, rfl⟩
  obtain ⟨r, rfl, hstep⟩ := Task.moves_lift hmove
  cases finish_closes hstep with
  | fails e hr _ => exact hq e (congrArg Task.lift hr)
  | writes _ hclosed _ =>
    have hrow : kindOf bothAsked.db y x = some 4 := by
      rcases hpair with heq | heq <;> obtain ⟨rfl, rfl⟩ := Prod.mk.inj heq <;> decide +kernel
    rw [hrow] at hclosed
    cases half <;> cases hclosed

def alone (r : Request) (p : Pending × AppState) : Requests Nat :=
  Pool.set { state := p.2 } 0 (some (r, p.1))

theorem run_alone {a b : String} {r : Request} {p q : Pending × AppState}
    (hwhole : ∀ half x y, ¬ Halfway a b half x y p.1) (hmove : Task.Moves p q) :
    Run a b (alone r p) (alone r q) := by
  have hthread : (alone r p).threads 0 = some (r, p.1) := Pool.set_threads_self _ _ _
  have hnext : alone r q = Pool.set { alone r p with state := q.2 } 0 (some (r, q.1)) := by
    simp [alone, Pool.set]
  refine .single ⟨?_, ?_⟩
  · rw [hnext]
    exact .moves 0 r p.1 q.1 q.2 hthread hmove
  · intro i r' p' half x y hi hhalf _
    by_cases hi0 : i = 0
    · rw [hi0, hthread] at hi
      cases hi
      exact absurd hhalf (hwhole half x y)
    · rw [alone, Pool.set_threads_of_ne hi0] at hi
      cases hi

def askAgain : Request := .put "1" "2" 1

def asked (n : Nat) : Pending × AppState := (program askAgain).advance n friends

def fails : Pending → Bool
  | .fail _ => true
  | _ => false

def readsOnly (p : Pending) : Bool := p.running && !fails (p.advance 1 bothAsked).1

theorem asked_whole {p : Pending} (hreads : readsOnly p = true)
    (hstate : (p.advance 1 bothAsked).2 = bothAsked) (half : Half) (x y : String) :
    ¬ Halfway "1" "2" half x y p := by
  simp only [readsOnly, Bool.and_eq_true, Bool.not_eq_true'] at hreads
  have hmove := Task.moves_running hreads.1 bothAsked
  rw [show p.advance 1 bothAsked = ((p.advance 1 bothAsked).1, bothAsked) from
    Prod.ext rfl hstate] at hmove
  refine not_halfway hmove (fun e heq => ?_)
  rw [heq] at hreads
  cases hreads.2

theorem asked_next (n : Nat) (hreads : readsOnly (asked n).1 = true)
    (hstate : ((asked n).1.advance 1 bothAsked).2 = bothAsked)
    (hnext : (asked n).1.advance 1 (asked n).2 = asked (n + 1)) :
    Run "1" "2" (alone askAgain (asked n)) (alone askAgain (asked (n + 1))) := by
  refine run_alone (asked_whole hreads hstate) ?_
  simp only [readsOnly, Bool.and_eq_true] at hreads
  exact hnext ▸ Task.moves_running hreads.1 (asked n).2

theorem asked_starts : Run "1" "2" ({ state := friends } : Requests Nat)
    (alone askAgain (asked 0)) := by
  refine .single ⟨.start 0 askAgain rfl (fun hop => hop.elim), ?_⟩
  intro i r p half x y hi
  cases hi

theorem asked_ends : Run "1" "2" (alone askAgain (asked 5))
    (Pool.set (alone askAgain (asked 5)) 0 none) := by
  obtain ⟨j, hj⟩ : ∃ j, (asked 5).1 = .ret j := ⟨_, rfl⟩
  have hthread : (alone askAgain (asked 5)).threads 0 = some (askAgain, .ret j) := by
    rw [alone, Pool.set_threads_self, hj]
  refine .single ⟨.ends 0 askAgain j hthread, ?_⟩
  intro i r p half x y hi hhalf
  by_cases hi0 : i = 0
  · rw [hi0, hthread] at hi
    cases hi
    exact absurd hhalf.2.2.symm (lift_finish_ne half x y (.ok j))
  · rw [alone, Pool.set_threads_of_ne hi0] at hi
    cases hi

def strangers : AppState := acquainted []

def request (i : Nat) : Request := if i = 0 then .put "1" "2" 1 else .put "2" "1" 1

def turn (n : Nat) (c : (Pending × Pending) × AppState) (first : Bool) :
    (Pending × Pending) × AppState :=
  if first then
    let q := c.1.1.advance n c.2
    ((q.1, c.1.2), q.2)
  else
    let q := c.1.2.advance n c.2
    ((c.1.1, q.1), q.2)

def both (c : (Pending × Pending) × AppState) : Requests Nat :=
  Pool.set (Pool.set { state := c.2 } 0 (some (request 0, c.1.1))) 1 (some (request 1, c.1.2))

theorem run_turn (n : Nat) (c : (Pending × Pending) × AppState) (first : Bool) :
    Pool.Run program never Elsewhere (both c) (both (turn n c first)) := by
  cases first with
  | true =>
    have hrun : Pool.Run program never Elsewhere (both c)
        (Pool.set { both c with state := (c.1.1.advance n c.2).2 } 0
          (some (request 0, (c.1.1.advance n c.2).1))) :=
      Pool.run_moves rfl (Task.moves_advance n c.1.1 c.2)
    have hboth : Pool.set { both c with state := (c.1.1.advance n c.2).2 } 0
        (some (request 0, (c.1.1.advance n c.2).1)) = both (turn n c true) := by
      simp only [both, turn, Pool.set, if_true]
      rw [Function.update_comm (by decide), Function.update_idem]
    exact hboth ▸ hrun
  | false =>
    have hrun : Pool.Run program never Elsewhere (both c)
        (Pool.set { both c with state := (c.1.2.advance n c.2).2 } 1
          (some (request 1, (c.1.2.advance n c.2).1))) :=
      Pool.run_moves (Pool.set_threads_self _ _ _) (Task.moves_advance n c.1.2 c.2)
    have hboth : Pool.set { both c with state := (c.1.2.advance n c.2).2 } 1
        (some (request 1, (c.1.2.advance n c.2).1)) = both (turn n c false) := by
      simp only [both, turn, Pool.set, Bool.false_eq_true, if_false]
      rw [Function.update_idem]
    exact hboth ▸ hrun

def crossed : (Pending × Pending) × AppState :=
  [(4, true), (4, false), (1, true), (1, false), (9, true), (9, false)].foldl
    (fun c x => turn x.1 c x.2) ((program (request 0), program (request 1)), strangers)

theorem run_crossed : Pool.Run program never Elsewhere
    (both ((program (request 0), program (request 1)), strangers)) (both crossed) := by
  refine (run_turn 4 _ true).trans ?_
  refine (run_turn 4 _ false).trans ?_
  refine (run_turn 1 _ true).trans ?_
  refine (run_turn 1 _ false).trans ?_
  exact (run_turn 9 _ true).trans (run_turn 9 _ false)

end Vokusz.Routes.Relationships
