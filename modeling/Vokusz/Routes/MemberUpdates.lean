import Vokusz.Lib.Interference
import Vokusz.Routes.RoleChange

namespace Vokusz.Routes.MemberUpdates

open Db Permissions
open Db.Members (UpdateMember setMember setWhen clearRoles insertRole memberRoleKey assignable)
open Lib (Prog)

def rowOf (spaceId userId : String) (db : Tables) : Option MemberRow :=
  db.members.find? (fun m => m.spaceId = spaceId && m.userId = userId)

def setField {α : Type} (value : Option α) (f : α → MemberRow → MemberRow) (m : MemberRow) :
    MemberRow :=
  match value with
  | some v => f v m
  | none => m

def applied (input : UpdateMember) (m : MemberRow) : MemberRow :=
  setField input.communicationDisabledUntil (fun v m => { m with timedOutUntil := v })
    (setField input.deaf (fun v m => { m with deaf := v })
      (setField input.mute (fun v m => { m with mute := v })
        (setField input.avatar (fun v m => { m with avatar := if v = "" then none else some v })
          (setField input.nickname (fun v m => { m with nickname := some v }) m))))

def unrepeated (seen : List String) : List String → List String
  | [] => []
  | id :: ids => if id ∈ seen then [] else id :: unrepeated (id :: seen) ids

structure Request where
  spaceId : String
  userId : String
  auth : AuthUser
  input : UpdateMember
  admission : Except AppError Unit

variable (req : Request)

def Request.serve : App Json :=
  Members.updateMember req.spaceId req.userId req.auth req.input req.admission

def Request.stored (s : AppState) : Option UpdateMember :=
  (Members.checkUpdateMember req.spaceId req.userId req.auth s.ext req.input s.db).toOption.bind
    (fun input => ((Members.storeAvatar req.spaceId req.userId req.admission input.avatar).exec
      s).1.toOption.map (fun avatar => { input with avatar := avatar }))

def Request.disappear (s : AppState) : AppState :=
  s.withDb (s.db.removeMember req.spaceId req.userId)

def Request.Gone (s : AppState) : Prop :=
  s.db.hasMember req.spaceId req.userId = false ∧
    Members.roleIds s.db req.spaceId req.userId = []

def Request.Same (s t : AppState) : Prop :=
  rowOf req.spaceId req.userId t.db = rowOf req.spaceId req.userId s.db ∧
    ∀ id, id ∈ Members.roleIds t.db req.spaceId req.userId ↔
      id ∈ Members.roleIds s.db req.spaceId req.userId

def Request.Stored (input : UpdateMember) (s t : AppState) : Prop :=
  (∃ row, rowOf req.spaceId req.userId s.db = some row ∧
    rowOf req.spaceId req.userId t.db = some (applied input row)) ∧
  ∀ id, id ∈ Members.roleIds t.db req.spaceId req.userId ↔
    id ∈ input.roles.getD (Members.roleIds s.db req.spaceId req.userId)

def Request.Atomic (s : AppState) (run : Prog.Disturbed AppState AppError Json) : Prop :=
  if run.struck then req.Gone run.state
  else
    match run.result with
    | .error _ => req.Same s run.state
    | .ok _ => ∃ input, req.stored s = some input ∧ req.Stored input s run.state

def Request.Sound (s : AppState) : Prop :=
  ∀ input, req.stored s = some input → ∀ row, rowOf req.spaceId req.userId s.db = some row →
    ∀ ids, input.roles = some ids → ids.Nodup ∨
      applied input row = row ∧
        ∀ id, id ∈ unrepeated [] ids ↔ id ∈ Members.roleIds s.db req.spaceId req.userId

theorem unrepeated_eq_self {seen ids : List String} :
    unrepeated seen ids = ids ↔ ids.Nodup ∧ ∀ id ∈ ids, id ∉ seen := by
  induction ids generalizing seen with
  | nil => simp [unrepeated]
  | cons id ids ih =>
    by_cases hid : id ∈ seen
    · simp [unrepeated, hid]
    · simp only [unrepeated, if_neg hid, List.cons.injEq, true_and, ih, List.nodup_cons,
        List.mem_cons, not_or, forall_eq_or_imp]
      constructor
      · rintro ⟨hnodup, hfresh⟩
        exact ⟨⟨fun hmem => (hfresh id hmem).1 rfl, hnodup⟩, hid, fun x hx => (hfresh x hx).2⟩
      · rintro ⟨⟨hnot, hnodup⟩, -, hfresh⟩
        exact ⟨hnodup, fun x hx => ⟨fun h => hnot (h ▸ hx), hfresh x hx⟩⟩

section

variable {spaceId userId : String} {s : AppState}

theorem hasMember_eq (spaceId userId : String) (db : Tables) :
    db.hasMember spaceId userId = (rowOf spaceId userId db).isSome := by
  rw [rowOf, List.isSome_find?, Tables.hasMember]

theorem rowOf_setMember {f : MemberRow → MemberRow}
    (hf : ∀ m, (f m).spaceId = m.spaceId ∧ (f m).userId = m.userId) (db : Tables) :
    rowOf spaceId userId (setMember spaceId userId f db) = (rowOf spaceId userId db).map f := by
  have hlookup : ∀ db : Tables, rowOf spaceId userId db =
      Lib.Table.lookup (fun m : MemberRow => (m.spaceId, m.userId)) (spaceId, userId)
        db.members := by
    intro db
    rw [rowOf, Lib.Table.lookup]
    simp only [Prod.mk.injEq, Bool.decide_and]
  rw [hlookup, hlookup]
  exact Lib.Table.lookup_update (fun m hm => by rw [(hf m).1, (hf m).2]; exact hm)

theorem exec_setWhen {α : Type} (value : Option α) {f : α → MemberRow → MemberRow}
    (hf : ∀ v m, (f v m).spaceId = m.spaceId ∧ (f v m).userId = m.userId) (s : AppState) :
    ∃ t, (setWhen spaceId userId value f).exec s = (.ok (), t) ∧
      rowOf spaceId userId t.db = (rowOf spaceId userId s.db).map (setField value f) ∧
      t.db.memberRoles = s.db.memberRoles ∧ t.db.roles = s.db.roles := by
  cases value with
  | none =>
    have hid : setField none f = id := rfl
    exact ⟨s, rfl, by rw [hid, Option.map_id_fun, id], rfl, rfl⟩
  | some v => exact ⟨_, App.exec_update _, rowOf_setMember (hf v) s.db, rfl, rfl⟩

theorem mem_roleIds {db : Tables} {id : String} : id ∈ Members.roleIds db spaceId userId ↔
    ∃ r ∈ db.memberRoles, r.userId = userId ∧ r.spaceId = spaceId ∧ r.roleId = id := by
  simp [Members.roleIds, and_assoc]

theorem has_memberRoleKey {db : Tables} {id : String} :
    Lib.Table.has memberRoleKey (memberRoleKey ⟨userId, spaceId, id⟩) db.memberRoles = true ↔
      id ∈ Members.roleIds db spaceId userId := by
  rw [Lib.Table.has_iff, mem_roleIds]
  simp [memberRoleKey]

theorem exec_insertRole {id : String} (hmember : s.db.hasMember spaceId userId = true)
    (hrole : s.db.hasRole id = true) (hfresh : id ∉ Members.roleIds s.db spaceId userId) :
    ∃ t, (insertRole ⟨userId, spaceId, id⟩).exec s = (.ok (), t) ∧
      t.db.members = s.db.members ∧ t.db.roles = s.db.roles ∧
      t.db.memberRoles = s.db.memberRoles ++ [⟨userId, spaceId, id⟩] := by
  have hhas : Lib.Table.has memberRoleKey (memberRoleKey ⟨userId, spaceId, id⟩)
      s.db.memberRoles = false := by
    rw [Bool.eq_false_iff, ne_eq, has_memberRoleKey]
    exact hfresh
  have hassignable : assignable ⟨userId, spaceId, id⟩ s.db = true := by
    simp [assignable, hmember, hrole]
  refine ⟨_, App.exec_write_of_none ?_, rfl, rfl, rfl⟩
  rw [hhas, hassignable]
  rfl

theorem exec_insertRoles {seen ids : List String}
    (hmember : s.db.hasMember spaceId userId = true)
    (hroles : ∀ id ∈ ids, s.db.hasRole id = true)
    (hseen : ∀ id, id ∈ Members.roleIds s.db spaceId userId ↔ id ∈ seen) :
    ∃ r t, (Prog.forEach ids (fun id => insertRole ⟨userId, spaceId, id⟩)).exec s = (r, t) ∧
      t.db.members = s.db.members ∧
      t.db.memberRoles = s.db.memberRoles ++
        (unrepeated seen ids).map (fun id => ⟨userId, spaceId, id⟩) ∧
      (r = .ok () ↔ unrepeated seen ids = ids) := by
  induction ids generalizing s seen with
  | nil => exact ⟨.ok (), s, rfl, rfl, by simp [unrepeated], by simp [unrepeated]⟩
  | cons id ids ih =>
    rw [Prog.forEach_cons]
    by_cases hid : id ∈ seen
    · have hhas := has_memberRoleKey.mpr ((hseen id).mpr hid)
      have hrow : (insertRole ⟨userId, spaceId, id⟩).exec s =
          (.error AppError.uniqueViolation, s) := by
        rw [insertRole, App.exec_write, hhas]
        rfl
      exact ⟨_, s, Prog.exec_bind_of_error hrow, rfl, by simp [unrepeated, hid],
        by simp [unrepeated, hid]⟩
    · obtain ⟨t₁, hrow, hmembers₁, hroles₁, hrows₁⟩ :=
        exec_insertRole hmember (hroles id (by simp)) (fun h => hid ((hseen id).mp h))
      have hassigned : ∀ x, x ∈ Members.roleIds t₁.db spaceId userId ↔ x ∈ id :: seen := by
        intro x
        rw [List.mem_cons, ← hseen, mem_roleIds, mem_roleIds, hrows₁]
        simp only [List.mem_append, List.mem_singleton]
        constructor
        · rintro ⟨r, hr | rfl, hkey⟩
          · exact .inr ⟨r, hr, hkey⟩
          · exact .inl hkey.2.2.symm
        · rintro (rfl | ⟨r, hr, hkey⟩)
          · exact ⟨⟨userId, spaceId, x⟩, .inr rfl, rfl, rfl, rfl⟩
          · exact ⟨r, .inl hr, hkey⟩
      have hmember₁ : t₁.db.hasMember spaceId userId = true := by
        rw [Tables.hasMember, hmembers₁]
        exact hmember
      have hroles₁ : ∀ x ∈ ids, t₁.db.hasRole x = true := by
        intro x hx
        rw [Tables.hasRole, hroles₁]
        exact hroles x (List.mem_cons_of_mem _ hx)
      obtain ⟨r, t, hexec, hmembers, hrows, hok⟩ := ih hmember₁ hroles₁ hassigned
      refine ⟨r, t, (Prog.exec_bind_of_ok hrow).trans hexec, hmembers.trans hmembers₁, ?_, ?_⟩
      · rw [hrows, hrows₁]
        simp [unrepeated, hid]
      · rw [hok]
        simp [unrepeated, hid]

theorem exec_updateRoles {roles : Option (List String)}
    (hmember : s.db.hasMember spaceId userId = true)
    (hroles : ∀ ids, roles = some ids → ∀ id ∈ ids, s.db.hasRole id = true) :
    ∃ r t, (Members.updateRoles spaceId userId roles).exec s = (r, t) ∧
      t.db.members = s.db.members ∧
      (∀ id, id ∈ Members.roleIds t.db spaceId userId ↔
        id ∈ (roles.map (unrepeated [])).getD (Members.roleIds s.db spaceId userId)) ∧
      (r = .ok () ↔ ∀ ids, roles = some ids → ids.Nodup) := by
  cases roles with
  | none => exact ⟨.ok (), s, rfl, rfl, fun _ => Iff.rfl, by simp⟩
  | some ids =>
    have hcleared : ∀ id, id ∈ Members.roleIds (clearRoles spaceId userId s.db) spaceId userId ↔
        id ∈ ([] : List String) := by
      intro id
      rw [mem_roleIds]
      simp only [clearRoles, List.mem_filter, List.not_mem_nil, iff_false]
      rintro ⟨r, ⟨-, hkept⟩, huser, hspace, -⟩
      simp [huser, hspace] at hkept
    obtain ⟨r, t, hexec, hmembers, hrows, hok⟩ :=
      exec_insertRoles (s := s.withDb (clearRoles spaceId userId s.db)) hmember
        (hroles ids rfl) hcleared
    refine ⟨r, t, ?_, hmembers, ?_, ?_⟩
    · rw [Members.updateRoles, Members.replaceRoles, Prog.exec_bind_of_ok (App.exec_update _)]
      exact hexec
    · intro id
      have hnone := hcleared id
      rw [mem_roleIds] at hnone ⊢
      rw [hrows]
      simp only [List.mem_append, List.mem_map, Option.map_some, Option.getD_some]
      constructor
      · rintro ⟨m, hm | ⟨x, hx, rfl⟩, huser, hspace, hrole⟩
        · exact absurd (hnone.mp ⟨m, hm, huser, hspace, hrole⟩) List.not_mem_nil
        · exact hrole ▸ hx
      · intro hid
        exact ⟨⟨userId, spaceId, id⟩, .inr ⟨id, hid, rfl⟩, rfl, rfl, rfl⟩
    · rw [hok, unrepeated_eq_self]
      simp

theorem exec_updateMember (input : UpdateMember) (s : AppState)
    (hroles : ∀ ids, input.roles = some ids → ∀ id ∈ ids, s.db.hasRole id = true) {row : MemberRow}
    (hrow : rowOf spaceId userId s.db = some row) :
    ∃ r t, (Db.Members.updateMember spaceId userId input).exec s = (r, t) ∧
      rowOf spaceId userId t.db = some (applied input row) ∧
      (∀ id, id ∈ Members.roleIds t.db spaceId userId ↔
        id ∈ (input.roles.map (unrepeated [])).getD (Members.roleIds s.db spaceId userId)) ∧
      ((∃ a, r = .ok a) ↔ ∀ ids, input.roles = some ids → ids.Nodup) := by
  obtain ⟨t₁, h₁, hrow₁, hm₁, hr₁⟩ := @exec_setWhen spaceId userId _ input.nickname
    (fun v m => { m with nickname := some v }) (fun _ _ => ⟨rfl, rfl⟩) s
  obtain ⟨t₂, h₂, hrow₂, hm₂, hr₂⟩ := @exec_setWhen spaceId userId _ input.avatar
    (fun v m => { m with avatar := if v = "" then none else some v }) (fun _ _ => ⟨rfl, rfl⟩) t₁
  obtain ⟨t₃, h₃, hrow₃, hm₃, hr₃⟩ := @exec_setWhen spaceId userId _ input.mute
    (fun v m => { m with mute := v }) (fun _ _ => ⟨rfl, rfl⟩) t₂
  obtain ⟨t₄, h₄, hrow₄, hm₄, hr₄⟩ := @exec_setWhen spaceId userId _ input.deaf
    (fun v m => { m with deaf := v }) (fun _ _ => ⟨rfl, rfl⟩) t₃
  obtain ⟨t₅, h₅, hrow₅, hm₅, hr₅⟩ := @exec_setWhen spaceId userId _
    input.communicationDisabledUntil (fun v m => { m with timedOutUntil := v })
    (fun _ _ => ⟨rfl, rfl⟩) t₄
  have hfields : rowOf spaceId userId t₅.db = some (applied input row) := by
    rw [hrow₅, hrow₄, hrow₃, hrow₂, hrow₁, hrow]
    rfl
  have hassigned : t₅.db.memberRoles = s.db.memberRoles := by rw [hm₅, hm₄, hm₃, hm₂, hm₁]
  have hstored : t₅.db.roles = s.db.roles := by rw [hr₅, hr₄, hr₃, hr₂, hr₁]
  have hmember : t₅.db.hasMember spaceId userId = true := by
    rw [hasMember_eq, hfields]
    rfl
  obtain ⟨r, t, hexec, hmembers, hids, hok⟩ := exec_updateRoles hmember (fun ids hids id hid => by
    rw [Tables.hasRole, hstored]
    exact hroles ids hids id hid)
  have hrow : rowOf spaceId userId t.db = some (applied input row) := by
    rw [rowOf, hmembers]
    exact hfields
  have hread : Members.getMemberRow spaceId userId t.db = .ok (applied input row) := by
    rw [Members.getMemberRow]
    rw [rowOf] at hrow
    rw [hrow]
  have hids' : Members.roleIds t₅.db spaceId userId = Members.roleIds s.db spaceId userId := by
    rw [Members.roleIds, Members.roleIds, hassigned]
  rw [hids'] at hids
  rw [Db.Members.updateMember, Prog.exec_bind_of_ok h₁, Prog.exec_bind_of_ok h₂,
    Prog.exec_bind_of_ok h₃, Prog.exec_bind_of_ok h₄, Prog.exec_bind_of_ok h₅]
  cases r with
  | error e =>
    refine ⟨_, t, Prog.exec_bind_of_error hexec, hrow, hids, ?_⟩
    rw [← hok]
    simp
  | ok u =>
    refine ⟨_, t, (Prog.exec_bind_of_ok hexec).trans (App.exec_lift _), hrow, hids, ?_⟩
    rw [← hok, hread]
    simp

end

section

variable {req : Request}

theorem abides_write {I : AppState → Prop} {check : Tables → Option AppError} {f : Tables → Tables}
    (h : ∀ s : AppState, I s → check s.db = none → I (s.withDb (f s.db))) :
    (App.write check f).Abides I := by
  refine Prog.abides_statement (fun s hs => ?_)
  dsimp only
  cases hcheck : check s.db with
  | none => exact h s hs hcheck
  | some e => exact hs

theorem gone_of_view {s t : AppState} (hview : t.db = s.db) (hs : req.Gone s) : req.Gone t := by
  rw [Request.Gone, hview]
  exact hs

theorem abides_of_preserves {α : Type} {p : App α} (h : p.Preserves AppState.db) :
    p.Abides req.Gone :=
  h.abides (fun _ _ hview hs => gone_of_view hview hs)

theorem gone_setMember {f : MemberRow → MemberRow}
    (hf : ∀ m, (f m).spaceId = m.spaceId ∧ (f m).userId = m.userId) {s : AppState}
    (hs : req.Gone s) : req.Gone (s.withDb (setMember req.spaceId req.userId f s.db)) := by
  refine ⟨?_, hs.2⟩
  rw [AppState.withDb_db, hasMember_eq, rowOf_setMember hf]
  have hnone := hs.1
  rw [hasMember_eq] at hnone
  simpa using hnone

theorem abides_setWhen {α : Type} (value : Option α) {f : α → MemberRow → MemberRow}
    (hf : ∀ v m, (f v m).spaceId = m.spaceId ∧ (f v m).userId = m.userId) :
    (setWhen req.spaceId req.userId value f).Abides req.Gone := by
  cases value with
  | none => trivial
  | some v =>
    have hset : (App.update (setMember req.spaceId req.userId (f v))).Abides req.Gone :=
      abides_write (fun s hs _ => gone_setMember (hf v) hs)
    exact hset

theorem abides_updateRoles (roles : Option (List String)) :
    (Members.updateRoles req.spaceId req.userId roles).Abides req.Gone := by
  cases roles with
  | none => trivial
  | some ids =>
    refine Prog.Abides.bind (abides_write ?_) (fun _ => Prog.abides_forEach (fun id _ => ?_))
    · intro s hs _
      refine ⟨hs.1, ?_⟩
      have hnone := hs.2
      simp only [Members.roleIds, List.map_eq_nil_iff, List.filter_eq_nil_iff] at hnone ⊢
      exact fun r hr => hnone r (List.mem_of_mem_filter hr)
    · refine abides_write (fun s hs hcheck => ?_)
      have hrefused : assignable ⟨req.userId, req.spaceId, id⟩ s.db = false := by
        rw [assignable, hs.1, Bool.false_and]
      rw [hrefused] at hcheck
      cases hhas : Lib.Table.has memberRoleKey (memberRoleKey ⟨req.userId, req.spaceId, id⟩)
        s.db.memberRoles <;> simp [hhas, App.unique, App.foreignKey] at hcheck

theorem abides_dbUpdate (input : UpdateMember) :
    (Db.Members.updateMember req.spaceId req.userId input).Abides req.Gone := by
  refine Prog.Abides.bind (abides_setWhen _ ?_) (fun _ => ?_)
  · exact fun _ _ => ⟨rfl, rfl⟩
  refine Prog.Abides.bind (abides_setWhen _ ?_) (fun _ => ?_)
  · exact fun _ _ => ⟨rfl, rfl⟩
  refine Prog.Abides.bind (abides_setWhen _ ?_) (fun _ => ?_)
  · exact fun _ _ => ⟨rfl, rfl⟩
  refine Prog.Abides.bind (abides_setWhen _ ?_) (fun _ => ?_)
  · exact fun _ _ => ⟨rfl, rfl⟩
  refine Prog.Abides.bind (abides_setWhen _ ?_) (fun _ => ?_)
  · exact fun _ _ => ⟨rfl, rfl⟩
  refine (abides_updateRoles input.roles).bind (fun _ => ?_)
  exact abides_of_preserves (App.preserves_lift _)

theorem reads_back {spaceId userId : String} {input : UpdateMember} {row : MemberRow}
    {s t : AppState}
    (h : (Db.Members.updateMember spaceId userId input).exec s = (.ok row, t)) :
    Members.getMemberRow spaceId userId t.db = .ok row := by
  unfold Db.Members.updateMember at h
  obtain ⟨_, _, -, h⟩ := Prog.exec_bind_ok.mp h
  obtain ⟨_, _, -, h⟩ := Prog.exec_bind_ok.mp h
  obtain ⟨_, _, -, h⟩ := Prog.exec_bind_ok.mp h
  obtain ⟨_, _, -, h⟩ := Prog.exec_bind_ok.mp h
  obtain ⟨_, _, -, h⟩ := Prog.exec_bind_ok.mp h
  obtain ⟨_, _, -, h⟩ := Prog.exec_bind_ok.mp h
  obtain ⟨hread, rfl⟩ := App.exec_lift_ok.mp h
  exact hread

theorem abides_serve (req : Request) : req.serve.Abides req.Gone := by
  refine Prog.Abides.bind (abides_of_preserves (Prog.preserves_get _)) (fun ext => ?_)
  refine (abides_of_preserves (App.preserves_lift _)).bind (fun input => ?_)
  refine (abides_of_preserves (Roles.preserves_storeAvatar req.spaceId req.userId req.admission
    input.avatar (fun _ _ => rfl))).bind (fun avatar => ?_)
  refine (abides_dbUpdate _).bind (fun row => ?_)
  refine (abides_of_preserves (App.preserves_lift _)).bind (fun roleIds => ?_)
  exact (abides_of_preserves (Prog.preserves_modify (fun _ => rfl))).bind (fun _ => trivial)

theorem gone_disappear (s : AppState) : req.Gone (req.disappear s) := by
  constructor
  · simp only [Request.disappear, AppState.withDb_db, Tables.removeMember, Tables.hasMember]
    rw [List.any_eq_false]
    intro m hm
    have hkept := (List.mem_filter.mp hm).2
    simpa only [Bool.not_eq_true', Bool.not_eq_true] using hkept
  · simp only [Request.disappear, AppState.withDb_db, Tables.removeMember, Members.roleIds,
      List.map_eq_nil_iff, List.filter_eq_nil_iff]
    intro r hr
    have hkept := (List.mem_filter.mp hr).2
    simpa only [Bool.not_eq_true', Bool.not_eq_true, Bool.and_comm] using hkept

end

section

variable {req : Request} {s t : AppState}

theorem hasRole_of_checkRoleList {spaceId : String} {auth : AuthUser} {ids : List String}
    {db : Tables} (h : Members.checkRoleList spaceId auth ids db = .ok ()) :
    ∀ id ∈ ids, db.hasRole id = true := by
  induction ids with
  | nil => simp
  | cons id ids ih =>
    obtain ⟨role, hrole, h⟩ := (Query.bind_ok db).mp h
    obtain ⟨_, -, h⟩ := (Query.bind_ok db).mp h
    intro x hx
    rcases List.mem_cons.mp hx with rfl | hx
    · obtain ⟨hmem, hid, -⟩ := Roles.roleInSpace_ok hrole
      exact Lib.Table.has_iff.mpr ⟨role, hmem, hid⟩
    · exact ih h x hx

theorem checked_roles {ext : Externals} {input checked : UpdateMember} {db : Tables}
    (h : Members.checkUpdateMember req.spaceId req.userId req.auth ext input db = .ok checked) :
    ∀ ids, checked.roles = some ids → ∀ id ∈ ids, db.hasRole id = true := by
  simp only [Members.checkUpdateMember, Query.bind_ok] at h
  obtain ⟨_, -, _, -, _, hroles, _, -, _, -, _, -, timeout, -, hresult⟩ := h
  cases hresult
  intro ids hids
  dsimp only at hids
  rw [hids] at hroles
  obtain ⟨_, -, hroles⟩ := (Query.bind_ok db).mp hroles
  obtain ⟨_, -, hroles⟩ := (Query.bind_ok db).mp hroles
  exact hasRole_of_checkRoleList hroles

section

variable {input : UpdateMember} (h : req.stored s = some input)

include h

theorem stored_some :
    ∃ checked avatar t,
      Members.checkUpdateMember req.spaceId req.userId req.auth s.ext req.input s.db =
        .ok checked ∧
      (Members.storeAvatar req.spaceId req.userId req.admission checked.avatar).exec s =
        (.ok avatar, t) ∧ t.db = s.db ∧ input = { checked with avatar := avatar } := by
  obtain ⟨checked, hchecked, h⟩ := Option.bind_eq_some_iff.mp h
  obtain ⟨avatar, havatar, rfl⟩ := Option.map_eq_some_iff.mp h
  have hexec := Prog.exec_of_toOption havatar
  refine ⟨checked, avatar, _, ?_, hexec, ?_, rfl⟩
  · cases hcheck : Members.checkUpdateMember req.spaceId req.userId req.auth s.ext req.input s.db <;>
      rw [hcheck] at hchecked <;> cases hchecked
    rfl
  · exact (Roles.preserves_storeAvatar req.spaceId req.userId req.admission checked.avatar
      (fun _ _ => rfl)).of_exec hexec

theorem hasRole_of_stored :
    ∀ ids, input.roles = some ids → ∀ id ∈ ids, s.db.hasRole id = true := by
  obtain ⟨checked, avatar, t, hchecked, -, -, rfl⟩ := stored_some h
  have hroles := checked_roles hchecked
  exact hroles

theorem serve_stored :
    ∃ t, t.db = s.db ∧ req.serve.exec s = (do
      let row ← Db.Members.updateMember req.spaceId req.userId input
      let roleIds ← Db.Members.getMemberRoleIds req.spaceId req.userId
      let json := Members.memberRowToJson row roleIds
      Federation.broadcastSpace (some req.spaceId) "member.update" json "members"
      return .obj [("data", json)] : App Json).exec t := by
  obtain ⟨checked, avatar, t, hchecked, havatar, hdb, rfl⟩ := stored_some h
  refine ⟨t, hdb, ?_⟩
  rw [Request.serve, Members.updateMember, Prog.exec_bind_of_ok App.exec_externals,
    Prog.exec_bind_of_ok (App.exec_lift_ok.mpr ⟨hchecked, rfl⟩), Members.updateChecked,
    Prog.exec_bind_of_ok havatar]

end

theorem serve_refused (h : req.stored s = none) :
    ∃ e t, req.serve.exec s = (.error e, t) ∧ t.db = s.db := by
  rw [Request.serve, Members.updateMember, Prog.exec_bind_of_ok App.exec_externals]
  cases hchecked : Members.checkUpdateMember req.spaceId req.userId req.auth s.ext req.input
      s.db with
  | error e =>
    refine ⟨e, s, Prog.exec_bind_of_error ?_, rfl⟩
    rw [App.exec_lift, hchecked]
  | ok checked =>
    rw [Prog.exec_bind_of_ok (App.exec_lift_ok.mpr ⟨hchecked, rfl⟩), Members.updateChecked]
    rcases havatar : (Members.storeAvatar req.spaceId req.userId req.admission
      checked.avatar).exec s with ⟨r, t⟩
    have hdb : t.db = s.db := (Roles.preserves_storeAvatar req.spaceId req.userId req.admission
      checked.avatar (fun _ _ => rfl)).of_exec havatar
    cases r with
    | error e => exact ⟨e, t, Prog.exec_bind_of_error havatar, hdb⟩
    | ok avatar => simp [Request.stored, hchecked, havatar, Except.toOption] at h

theorem serve_absent (hrefs : ∀ r ∈ s.db.memberRoles, s.db.hasMember r.spaceId r.userId = true)
    (hrow : rowOf req.spaceId req.userId s.db = none) :
    ∃ e t, req.serve.exec s = (.error e, t) ∧ req.Same s t := by
  have hnone : s.db.hasMember req.spaceId req.userId = false := by
    rw [hasMember_eq, hrow]
    rfl
  have hgone : req.Gone s := by
    refine ⟨hnone, List.map_eq_nil_iff.mpr (List.filter_eq_nil_iff.mpr (fun r hr hkey => ?_))⟩
    simp only [Bool.and_eq_true, decide_eq_true_eq] at hkey
    have hmember := hrefs r hr
    rw [hkey.1, hkey.2, hnone] at hmember
    cases hmember
  have hsame : ∀ t, req.Gone t → req.Same s t := by
    intro t ht
    have hrow' := ht.1
    rw [hasMember_eq] at hrow'
    refine ⟨?_, fun id => by rw [ht.2, hgone.2]⟩
    rw [hrow]
    simpa using hrow'
  have hend := (abides_serve req).exec hgone
  cases hstored : req.stored s with
  | none =>
    obtain ⟨e, t, hexec, hdb⟩ := serve_refused hstored
    rw [hexec] at hend
    exact ⟨e, t, hexec, hsame t hend⟩
  | some input =>
    obtain ⟨t₀, hdb, hserve⟩ := serve_stored hstored
    rw [hserve] at hend ⊢
    rcases hupdate : (Db.Members.updateMember req.spaceId req.userId input).exec t₀ with ⟨r, t⟩
    cases r with
    | error e =>
      rw [Prog.exec_bind_of_error hupdate] at hend ⊢
      exact ⟨e, t, rfl, hsame t hend⟩
    | ok row =>
      have hleft := (abides_dbUpdate input).exec (gone_of_view hdb hgone)
      rw [hupdate] at hleft
      obtain ⟨hmem, hspace, huser⟩ := Db.Members.getMemberRow_ok (reads_back hupdate)
      have hmember : t.db.hasMember req.spaceId req.userId = true :=
        List.any_eq_true.mpr ⟨row, hmem, by simp [hspace, huser]⟩
      rw [hleft.1] at hmember
      cases hmember

theorem serve_present {input : UpdateMember} (hstored : req.stored s = some input)
    {row : MemberRow} (hrow : rowOf req.spaceId req.userId s.db = some row) :
    ∃ r t, req.serve.exec s = (r, t) ∧
      rowOf req.spaceId req.userId t.db = some (applied input row) ∧
      (∀ id, id ∈ Members.roleIds t.db req.spaceId req.userId ↔
        id ∈ (input.roles.map (unrepeated [])).getD
          (Members.roleIds s.db req.spaceId req.userId)) ∧
      ((∃ a, r = .ok a) ↔ ∀ ids, input.roles = some ids → ids.Nodup) := by
  obtain ⟨t₀, hdb, hserve⟩ := serve_stored hstored
  rw [hserve]
  have hroles := hasRole_of_stored hstored
  rw [← hdb] at hroles hrow ⊢
  obtain ⟨r, t, hupdate, hafter, hids, hok⟩ := exec_updateMember input t₀ hroles hrow
  cases r with
  | error e =>
    refine ⟨.error e, t, Prog.exec_bind_of_error hupdate, hafter, hids, ?_⟩
    rw [← hok]
    simp
  | ok row =>
    rw [Prog.exec_bind_of_ok hupdate]
    refine ⟨_, _, rfl, hafter, hids, ?_⟩
    rw [← hok]
    simp

theorem sound_absent (hrow : rowOf req.spaceId req.userId s.db = none) : req.Sound s := by
  intro input _ row hsome
  rw [hrow] at hsome
  cases hsome

theorem sound_refused (hstored : req.stored s = none) : req.Sound s := by
  intro input hsome
  rw [hstored] at hsome
  cases hsome

theorem sound_iff {input : UpdateMember} {row : MemberRow} (hstored : req.stored s = some input)
    (hrow : rowOf req.spaceId req.userId s.db = some row) :
    req.Sound s ↔ ∀ ids, input.roles = some ids → ids.Nodup ∨ applied input row = row ∧
      ∀ id, id ∈ unrepeated [] ids ↔ id ∈ Members.roleIds s.db req.spaceId req.userId := by
  constructor
  · intro h
    exact h input hstored row hrow
  · intro h input' hstored' row' hrow'
    rw [hstored] at hstored'
    rw [hrow] at hrow'
    cases hstored'
    cases hrow'
    exact h

theorem exec_settled_iff
    (hrefs : ∀ r ∈ s.db.memberRoles, s.db.hasMember r.spaceId r.userId = true)
    {r : Except AppError Json} (hexec : req.serve.exec s = (r, t)) :
    req.Atomic s ⟨r, t, false⟩ ↔ req.Sound s := by
  cases hrow : rowOf req.spaceId req.userId s.db with
  | none =>
    obtain ⟨e, t', hexec', hsame⟩ := serve_absent hrefs hrow
    rw [hexec] at hexec'
    cases hexec'
    exact ⟨fun _ => sound_absent hrow, fun _ => hsame⟩
  | some row =>
    cases hstored : req.stored s with
    | none =>
      obtain ⟨e, t', hexec', hdb⟩ := serve_refused hstored
      rw [hexec] at hexec'
      cases hexec'
      have hsame : req.Same s t := by
        rw [Request.Same, hdb]
        exact ⟨rfl, fun _ => Iff.rfl⟩
      exact ⟨fun _ => sound_refused hstored, fun _ => hsame⟩
    | some input =>
      obtain ⟨r', t', hexec', hafter, hids, hok⟩ := serve_present hstored hrow
      rw [hexec] at hexec'
      cases hexec'
      rw [sound_iff hstored hrow]
      cases r with
      | ok a =>
        have hnodup := hok.mp ⟨a, rfl⟩
        refine ⟨fun _ ids hids => .inl (hnodup ids hids), fun _ => ?_⟩
        refine ⟨input, hstored, ⟨row, hrow, hafter⟩, fun id => ?_⟩
        rw [hids]
        cases hroles : input.roles with
        | none => rfl
        | some ids =>
          have hwhole : unrepeated [] ids = ids :=
            unrepeated_eq_self.mpr ⟨hnodup ids hroles, by simp⟩
          rw [Option.map_some, Option.getD_some, Option.getD_some, hwhole]
      | error e =>
        have hrepeated : ¬ ∀ ids, input.roles = some ids → ids.Nodup := by
          rw [← hok]
          simp
        simp only [not_forall] at hrepeated
        obtain ⟨ids, hroles, hdup⟩ := hrepeated
        rw [hroles, Option.map_some, Option.getD_some] at hids
        constructor
        · rintro ⟨hrow', hids'⟩ ids' hroles'
          rw [hroles] at hroles'
          cases hroles'
          rw [hafter, hrow] at hrow'
          exact .inr ⟨Option.some.inj hrow', fun id => (hids id).symm.trans (hids' id)⟩
        · intro hsound
          obtain ⟨hfields, hgiven⟩ := (hsound ids hroles).resolve_left hdup
          refine ⟨?_, fun id => (hids id).trans (hgiven id)⟩
          rw [hafter, hrow, hfields]

theorem update_atomic_iff (req : Request) (s : AppState)
    (hrefs : ∀ r ∈ s.db.memberRoles, s.db.hasMember r.spaceId r.userId = true) :
    (∀ k, req.Atomic s (req.serve.disturbed req.disappear k s)) ↔ req.Sound s := by
  have hsettled := fun r t => @exec_settled_iff req s t hrefs r
  constructor
  · intro hatomic
    obtain ⟨k, hk⟩ := Prog.undisturbed req.disappear req.serve s
    have hrun := hatomic k
    rw [← hsettled _ _ (Prog.disturbed_unstruck hk), Request.Atomic, if_neg (by simp)]
    rwa [Request.Atomic, if_neg (by simp [hk])] at hrun
  · intro hsound k
    cases hk : (req.serve.disturbed req.disappear k s).struck with
    | true =>
      rw [Request.Atomic, if_pos hk]
      exact Prog.disturbed_struck (abides_serve req) gone_disappear hk
    | false =>
      have hrun := (hsettled _ _ (Prog.disturbed_unstruck hk)).mpr hsound
      rw [Request.Atomic, if_neg (by simp)] at hrun
      rwa [Request.Atomic, if_neg (by simp [hk])]

def den : AppState :=
  { db :=
      { users := [{ id := "1", username := "ann" }, { id := "2", username := "bob" }]
        spaces := [{ id := "10", name := "den", ownerId := "1" }]
        members := [{ spaceId := "10", userId := "1" }, { spaceId := "10", userId := "2" }]
        roles := [{ id := "50", spaceId := "10", name := "helper", position := 1 }] }
    ext := .fixed "" }

def rename (roles : List String) : Request :=
  { spaceId := "10"
    userId := "2"
    auth := { userId := "1", isAdmin := true }
    input := { nickname := some "bobby", roles := some roles }
    admission := .ok () }

theorem rename_atomic : (rename ["50"]).Atomic den
    ((rename ["50"]).serve.disturbed (rename ["50"]).disappear 6 den) := by
  refine (update_atomic_iff (rename ["50"]) den (by decide)).mpr ?_ 6
  have hstored : (rename ["50"]).stored den =
      some { nickname := some "bobby", roles := some ["50"] } := by decide +kernel
  intro input hinput row _ ids hids
  rw [hstored] at hinput
  cases hinput
  cases hids
  exact .inl (by decide)

theorem repeated_role_half_stored : ¬ ∀ k, (rename ["50", "50"]).Atomic den
    ((rename ["50", "50"]).serve.disturbed (rename ["50", "50"]).disappear k den) := by
  intro h
  have hrun := h 100
  have hstruck : ((rename ["50", "50"]).serve.disturbed (rename ["50", "50"]).disappear 100
      den).struck = false := by decide +kernel
  have hresult : ((rename ["50", "50"]).serve.disturbed (rename ["50", "50"]).disappear 100
      den).result = .error AppError.uniqueViolation := by decide +kernel
  rw [Request.Atomic, hstruck, if_neg Bool.false_ne_true, hresult] at hrun
  exact absurd hrun.1 (by decide +kernel)

end

end Vokusz.Routes.MemberUpdates
