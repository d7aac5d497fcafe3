import Vokusz.Routes.AdminUsers

namespace Vokusz.Auth

open Lib Db Handler

abbrev Accounts := List (String × Bool)

def accounts (s : Server) : Accounts := s.app.db.users.map (fun u => (u.id, u.isAdmin))

def admins (v : Accounts) : List String := (v.filter Prod.snd).map Prod.fst

def setFlag (id : String) (flag : Bool) (v : Accounts) : Accounts :=
  Table.update Prod.fst id (fun a => (a.1, flag)) v

def without (id : String) (v : Accounts) : Accounts := Table.delete Prod.fst id v

inductive AdminRequest where
  | update (auth : Permissions.AuthUser) (userId : String) (input : AdminUpdateUser)
  | delete (auth : Permissions.AuthUser) (userId : String)
  | deleteMe (auth : Permissions.AuthUser) (password : String)

namespace AdminRequest

def serve (crypto : Crypto) : AdminRequest → Handler Unit
  | update auth userId input => updateUser auth userId input >>= fun _ => pure ()
  | delete auth userId => deleteUser auth userId
  | deleteMe auth password => deleteCurrentUser crypto auth password

def notAdmin (id : String) (v : Accounts) : Prop := Table.lookup Prod.fst id v = some (id, false)

def HeldBy : AdminRequest → Accounts → Handler Unit → Prop
  | update _ userId input, v, p =>
    input.isAdmin = some false ∧ (2 ≤ (admins v).length ∨ notAdmin userId v) ∧
      p = (adminUpdateUser userId input >>= fun _ => pure ())
  | delete _ userId, v, p =>
    notAdmin userId v ∧ (p = deleteAccount userId ∨ p = deleteRows userId)
  | deleteMe _ _, _, _ => False

def change : AdminRequest → Accounts → Unit → Accounts → Prop
  | update _ userId input, v, _, w =>
    ∃ flag, input.isAdmin = some flag ∧ w = setFlag userId flag v ∧
      (flag = false → 2 ≤ (admins v).length ∨ notAdmin userId v)
  | delete _ userId, v, _, w => notAdmin userId v ∧ w = without userId v
  | deleteMe auth _, v, _, w => w = without auth.userId v

end AdminRequest

section

variable {userId : String} {input : AdminUpdateUser} {s : Server}

theorem accounts_update (f : User → User) (flag : Bool) (hid : ∀ u, (f u).id = u.id)
    (hflag : ∀ u, (f u).isAdmin = flag) (users : List User) :
    (Table.update User.id userId f users).map (fun u => (u.id, u.isAdmin)) =
      setFlag userId flag (users.map (fun u => (u.id, u.isAdmin))) := by
  simp only [setFlag, Table.update, List.map_map]
  apply List.map_congr_left
  intro u _
  by_cases hu : u.id = userId
  · simp [hu, hid, hflag]
  · simp [hu]

theorem accounts_update_same (f : User → User) (hid : ∀ u, (f u).id = u.id)
    (hflag : ∀ u, (f u).isAdmin = u.isAdmin) (users : List User) :
    (Table.update User.id userId f users).map (fun u => (u.id, u.isAdmin)) =
      users.map (fun u => (u.id, u.isAdmin)) := by
  simp only [Table.update, List.map_map]
  apply List.map_congr_left
  intro u _
  by_cases hu : u.id = userId
  · simp [hu, hid, hflag]
  · simp [hu]

theorem accounts_withoutUser : accounts (withoutUser userId s) = without userId (accounts s) := by
  change (Table.delete User.id userId s.app.db.users).map _ = _
  simp only [accounts, without, Table.delete, List.filter_map]
  rfl

theorem accounts_withFields : accounts (withFields userId input s) =
    match input.isAdmin with
    | some flag => setFlag userId flag (accounts s)
    | none => accounts s := by
  change (Table.update User.id userId input.applyUser s.app.db.users).map _ = _
  cases hflag : input.isAdmin with
  | some flag =>
    exact accounts_update input.applyUser flag (fun _ => rfl)
      (fun u => by simp [AdminUpdateUser.applyUser, hflag]) _
  | none =>
    exact accounts_update_same input.applyUser (fun _ => rfl)
      (fun u => by simp [AdminUpdateUser.applyUser, hflag]) _

theorem notAdmin_of_getUser {target : User} (h : Users.getUser userId s.app.db = .ok target)
    (htarget : target.isAdmin = false) : AdminRequest.notAdmin userId (accounts s) := by
  unfold Users.getUser at h
  split at h
  · rename_i u hlookup
    cases h
    have hid := Table.lookup_key hlookup
    have hmap : Table.lookup Prod.fst userId (accounts s) =
        (Table.lookup User.id userId s.app.db.users).map (fun u => (u.id, u.isAdmin)) := by
      unfold Table.lookup accounts
      rw [List.find?_map]
      rfl
    rw [AdminRequest.notAdmin, hmap, hlookup, Option.map_some, hid, htarget]
  · cases h

theorem length_admins : (admins (accounts s)).length =
    (s.app.db.users.filter (fun u => u.isAdmin)).length := by
  simp only [admins, accounts, List.filter_map, List.length_map]
  rfl

end

section

variable {crypto : Crypto} {req : AdminRequest} {userId : String} {input : AdminUpdateUser}

abbrev AdminChecks (req : AdminRequest) (p : Handler Unit) : Prop :=
  p.Checks accounts req.change (fun _ _ => True) (fun _ => True) req.HeldBy

theorem done_of_preserves {p : Handler Unit} (h : p.Preserves accounts) :
    p.Done accounts (fun _ => True) := ⟨h, p.keeps_true⟩

theorem preserves_revokeTokens : (revokeTokens userId input).Preserves accounts := by
  have hdrop : (Handler.update (dropTokens (fun t => t.userId = userId))).Preserves accounts :=
    preserves_update (fun _ => rfl)
  have hbots : (Handler.update (dropBotTokens userId)).Preserves accounts :=
    preserves_update (fun _ => rfl)
  unfold revokeTokens
  split
  · exact hdrop.bind fun _ => hbots
  · exact Prog.preserves_pure _

def afterFields (userId : String) (input : AdminUpdateUser) : Handler Unit := do
  revokeTokens userId input
  let _ ← fetch (Users.getUser userId)
  pure ()

theorem preserves_afterFields : (afterFields userId input).Preserves accounts :=
  preserves_revokeTokens.bind fun _ => (preserves_fetch _).bind fun _ => Prog.preserves_pure _

theorem adminUpdateUser_eq (h : input.isEmpty = false) :
    (adminUpdateUser userId input >>= fun _ => pure () : Handler Unit) =
      setFields userId input >>= fun _ => afterFields userId input := by
  unfold adminUpdateUser afterFields
  rw [if_neg (by rw [h]; exact Bool.false_ne_true), bind_assoc]
  simp only [bind_assoc]

theorem isEmpty_of_isAdmin {flag : Bool} (h : input.isAdmin = some flag) :
    input.isEmpty = false := by
  simp [AdminUpdateUser.isEmpty, h]

theorem checks_adminUpdateUser {auth : Permissions.AuthUser} (h : input.isAdmin ≠ some false) :
    AdminChecks (.update auth userId input)
      (adminUpdateUser userId input >>= fun _ => pure ()) := by
  cases hempty : input.isEmpty with
  | true =>
    unfold adminUpdateUser
    rw [if_pos hempty]
    exact Prog.checks_of_preserves
      ((preserves_fetch _).bind fun _ => Prog.preserves_pure _) (Prog.keeps_true _)
  | false =>
    rw [adminUpdateUser_eq hempty]
    refine Prog.checks_statement (fun s => ?_)
    cases nameTaken userId input s.app.db with
    | true => exact rfl
    | false =>
      have hafter : accounts (withFields userId input s) = _ := accounts_withFields
      cases hflag : input.isAdmin with
      | none =>
        rw [hflag] at hafter
        exact .inl ⟨hafter, .inl (Prog.checks_of_preserves preserves_afterFields
          (Prog.keeps_true _))⟩
      | some flag =>
        rw [hflag] at hafter
        refine .inr ⟨(), ⟨flag, hflag, hafter, fun hfalse => ?_⟩,
          done_of_preserves preserves_afterFields⟩
        rw [hfalse] at hflag
        exact absurd hflag h

theorem checks_update (auth : Permissions.AuthUser) :
    AdminChecks (.update auth userId input)
      ((AdminRequest.update auth userId input).serve crypto) := by
  change AdminChecks _ (updateUser auth userId input >>= fun _ => pure ())
  unfold updateUser
  rw [bind_assoc]
  refine Prog.checks_bind (preserves_lift _) fun _ => ?_
  rw [bind_assoc]
  refine Prog.checks_query (fun s target htarget => ?_)
  split
  · exact .inl trivial
  by_cases hdemote : input.isAdmin = some false
  · cases hadmin : target.isAdmin with
    | false =>
      rw [if_neg (fun h => Bool.false_ne_true h.2)]
      exact .inr ⟨hdemote, .inr (notAdmin_of_getUser htarget hadmin), rfl⟩
    | true =>
      rw [if_pos ⟨hdemote, rfl⟩, bind_assoc]
      refine .inl (Prog.checks_query (fun s adminCount hcount => ?_))
      split
      · exact .inl trivial
      · rename_i hmany
        cases hcount
        refine .inr ⟨hdemote, .inl ?_, rfl⟩
        rw [length_admins]
        omega
  · rw [if_neg (fun h => hdemote h.1)]
    exact .inl (checks_adminUpdateUser hdemote)

theorem checks_delete (auth : Permissions.AuthUser) :
    AdminChecks (.delete auth userId) ((AdminRequest.delete auth userId).serve crypto) := by
  change AdminChecks _ (deleteUser auth userId)
  unfold deleteUser
  refine Prog.checks_bind (preserves_lift _) fun _ => ?_
  split
  · trivial
  refine Prog.checks_query (fun s target htarget => ?_)
  cases hadmin : target.isAdmin with
  | true => exact .inl trivial
  | false =>
    rw [if_neg Bool.false_ne_true]
    exact .inr ⟨notAdmin_of_getUser htarget hadmin, .inl rfl⟩

theorem checks_deleteMe (auth : Permissions.AuthUser) (password : String) :
    AdminChecks (.deleteMe auth password)
      ((AdminRequest.deleteMe auth password).serve crypto) := by
  change AdminChecks _ (deleteCurrentUser crypto auth password)
  unfold deleteCurrentUser
  split
  · trivial
  refine Prog.checks_bind (preserves_verifyUserPassword _ _ _) fun _ => ?_
  refine Prog.checks_bind (preserves_fetch _) fun owned => ?_
  split
  · trivial
  rw [← bind_pure (deleteRows auth.userId)]
  refine Prog.checks_statement (fun s => .inr ⟨(), accounts_withoutUser, ?_⟩)
  exact done_of_preserves (Prog.preserves_pure _)

theorem checks_serve (req : AdminRequest) : AdminChecks req (req.serve crypto) := by
  cases req with
  | update auth userId input => exact checks_update auth
  | delete auth userId => exact checks_delete auth
  | deleteMe auth password => exact checks_deleteMe auth password

theorem heldBy_step {p q : Handler Unit} {s t : Server} (h : req.HeldBy (accounts s) p)
    (hstep : Prog.Step (p, s) (q, t)) :
    (accounts t = accounts s ∧ (AdminChecks req q ∨ req.HeldBy (accounts s) q)) ∨
      ∃ u, req.change (accounts s) u (accounts t) ∧ q.Done accounts (fun _ => True) := by
  cases req with
  | update auth userId input =>
    obtain ⟨hdemote, hsafe, rfl⟩ := h
    rw [adminUpdateUser_eq (isEmpty_of_isAdmin hdemote)] at hstep
    rcases Prog.step_statement_bind hstep with ⟨rfl, rfl⟩ | ⟨e, he, rfl, rfl⟩ | ⟨u, hu, rfl, rfl⟩
    · exact .inl ⟨rfl, .inl trivial⟩
    · refine .inl ⟨?_, .inl trivial⟩
      split
      · rfl
      · rename_i hfree
        rw [if_neg hfree] at he
        cases he
    · refine .inr ⟨(), ⟨false, hdemote, ?_, fun _ => hsafe⟩, done_of_preserves preserves_afterFields⟩
      split
      · rename_i htaken
        rw [if_pos htaken] at hu
        cases hu
      · refine accounts_withFields.trans ?_
        rw [hdemote]
  | delete auth userId =>
    obtain ⟨hsafe, rfl | rfl⟩ := h
    · let count : Server → Except AppError Nat := fun s =>
        .ok (s.app.db.spaces.filter (fun sp => sp.ownerId = userId)).length
      let rest : Nat → Handler Unit := fun owned =>
        if 0 < owned then
          .fail (.badRequest "user owns spaces — transfer ownership before deleting")
        else deleteRows userId
      change Prog.Step (Prog.statement App.databaseFault (fun s => (count s, s)) >>= rest, s)
        (q, t) at hstep
      rcases Prog.step_statement_bind hstep with
        ⟨rfl, rfl⟩ | ⟨e, -, rfl, rfl⟩ | ⟨owned, -, rfl, rfl⟩
      · exact .inl ⟨rfl, .inl trivial⟩
      · exact .inl ⟨rfl, .inl trivial⟩
      · refine .inl ⟨rfl, ?_⟩
        by_cases howned : 0 < owned
        · exact .inl (by rw [show rest owned = .fail _ from if_pos howned]; trivial)
        · exact .inr ⟨hsafe, .inr (if_neg howned)⟩
    · rw [← bind_pure (deleteRows userId)] at hstep
      rcases Prog.step_statement_bind hstep with ⟨rfl, rfl⟩ | ⟨e, he, -⟩ | ⟨u, -, rfl, rfl⟩
      · exact .inl ⟨rfl, .inl trivial⟩
      · cases he
      · exact .inr ⟨(), ⟨hsafe, accounts_withoutUser⟩, done_of_preserves (Prog.preserves_pure _)⟩
  | deleteMe auth password => cases h

theorem admin_discipline (req : AdminRequest) :
    Discipline accounts req.change (fun _ _ => True) (fun _ => True) (Holding req.HeldBy)
      (fun v p => AdminChecks req p ∨ req.HeldBy v p) := by
  refine checks_discipline heldBy_step ?_
  intro v u h
  cases req with
  | update auth userId input =>
    obtain ⟨hdemote, -, h⟩ := h
    rw [adminUpdateUser_eq (isEmpty_of_isAdmin hdemote)] at h
    cases h
  | delete auth userId =>
    obtain ⟨-, h | h⟩ := h
    · cases h
    · cases h
  | deleteMe auth password => cases h

end

section

variable {v w : Accounts} {id : String}

structure Administered (v : Accounts) : Prop where
  ids : (v.map Prod.fst).Nodup
  some_admin : admins v ≠ []

theorem mem_admins {a : String} : a ∈ admins v ↔ (a, true) ∈ v := by
  simp [admins]

theorem admins_nodup (h : (v.map Prod.fst).Nodup) : (admins v).Nodup :=
  h.sublist (List.filter_sublist.map Prod.fst)

theorem ids_setFlag (flag : Bool) : (setFlag id flag v).map Prod.fst = v.map Prod.fst :=
  Table.map_key_update (fun _ _ => rfl)

theorem exists_other {l : List String} (hnodup : l.Nodup) (hne : l ≠ []) (hsole : l ≠ [id]) :
    ∃ a ∈ l, a ≠ id := by
  by_contra hall
  push Not at hall
  cases l with
  | nil => exact hne rfl
  | cons a rest =>
    obtain rfl := hall a List.mem_cons_self
    cases rest with
    | nil => exact hsole rfl
    | cons b rest =>
      have hb := hall b (List.mem_cons_of_mem _ List.mem_cons_self)
      rw [hb] at hnodup
      exact (List.nodup_cons.mp hnodup).1 List.mem_cons_self

theorem administered_of_mem {a : String} (hids : (w.map Prod.fst).Nodup)
    (ha : (a, true) ∈ w) : Administered w := by
  refine ⟨hids, fun hnil => ?_⟩
  have hmem := mem_admins.mpr ha
  rw [hnil] at hmem
  cases hmem

theorem Administered.setFlag_of_other (h : Administered v) (flag : Bool) {a : String}
    (ha : a ∈ admins v) (hne : a ≠ id) : Administered (setFlag id flag v) := by
  refine administered_of_mem (a := a) (by rw [ids_setFlag]; exact h.ids) ?_
  refine List.mem_map.mpr ⟨(a, true), mem_admins.mp ha, ?_⟩
  rw [if_neg hne]

theorem Administered.without_of_other (h : Administered v) {a : String} (ha : a ∈ admins v)
    (hne : a ≠ id) : Administered (without id v) := by
  refine administered_of_mem (a := a) (h.ids.sublist (List.filter_sublist.map Prod.fst)) ?_
  exact Table.mem_delete.mpr ⟨mem_admins.mp ha, hne⟩

theorem Administered.other_of_notAdmin (h : Administered v) (hid : AdminRequest.notAdmin id v) :
    ∃ a ∈ admins v, a ≠ id := by
  obtain ⟨a, ha⟩ := List.exists_mem_of_ne_nil _ h.some_admin
  refine ⟨a, ha, fun heq => ?_⟩
  subst heq
  have hdistinct : Table.Distinct Prod.fst v := List.pairwise_map.mp h.ids
  have hlookup := hdistinct.lookup_eq (mem_admins.mp ha)
  rw [AdminRequest.notAdmin, hlookup] at hid
  cases hid

theorem Administered.change {req : AdminRequest} (h : Administered v) {u : Unit}
    (hchange : req.change v u w)
    (hstays : ∀ auth password, req = .deleteMe auth password → admins v = [auth.userId] → w = v) :
    Administered w := by
  have hother : ∀ id, admins v ≠ [id] → ∃ a ∈ admins v, a ≠ id :=
    fun id hsole => exists_other (admins_nodup h.ids) h.some_admin hsole
  cases req with
  | update auth userId input =>
    obtain ⟨flag, -, rfl, hsafe⟩ := hchange
    cases flag with
    | true =>
      obtain ⟨a, ha⟩ := List.exists_mem_of_ne_nil _ h.some_admin
      by_cases hne : a = userId
      · refine administered_of_mem (a := a) (by rw [ids_setFlag]; exact h.ids) ?_
        refine List.mem_map.mpr ⟨(a, true), mem_admins.mp ha, ?_⟩
        rw [if_pos hne]
      · exact h.setFlag_of_other true ha hne
    | false =>
      rcases hsafe rfl with hmany | hid
      · obtain ⟨a, ha, hne⟩ := hother userId (fun hsole => by simp [hsole] at hmany)
        exact h.setFlag_of_other false ha hne
      · obtain ⟨a, ha, hne⟩ := h.other_of_notAdmin hid
        exact h.setFlag_of_other false ha hne
  | delete auth userId =>
    obtain ⟨hid, rfl⟩ := hchange
    obtain ⟨a, ha, hne⟩ := h.other_of_notAdmin hid
    exact h.without_of_other ha hne
  | deleteMe auth password =>
    by_cases hsole : admins v = [auth.userId]
    · rw [hstays auth password rfl hsole]
      exact h
    · obtain ⟨a, ha, hne⟩ := hother auth.userId hsole
      obtain rfl := hchange
      exact h.without_of_other ha hne

variable {ι : Type} [DecidableEq ι] {crypto : Crypto} {req : ι → AdminRequest}
  {env : Server → Server → Prop} {c d : Crowd ι Server AppError Unit}

def Orderly (req : ι → AdminRequest) (x : Crowd ι Server AppError Unit) (i : ι) (t : Server) :
    Prop :=
  Crowd.Undisturbed accounts (fun j => Holding (req j).HeldBy) x i t ∧
    ∀ auth password, req i = .deleteMe auth password →
      admins (accounts x.state) = [auth.userId] → accounts t = accounts x.state

def office (second : Bool) : Server :=
  { app :=
      { db :=
          { users :=
              [{ id := "1", username := "ann", isAdmin := true },
                { id := "2", username := "bob", isAdmin := second }] }
        ext := Externals.fixed "2025-01-01 00:00:00" }
    credentials := [{ userId := "1", passwordHash := some "secret" }] }

def demoteBob : AdminRequest :=
  .update { userId := "1", isAdmin := true } "2" { isAdmin := some false }

end

end Vokusz.Auth
