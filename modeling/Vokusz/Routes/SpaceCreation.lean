import Vokusz.Faults
import Vokusz.Routes.DefaultRole

namespace Vokusz.Db.Spaces

open Lib Permissions

theorem strict_insertNamed (row : String → RoleRow) : (insertNamed row).Strict :=
  App.strict_generateId.bind (fun _ => App.strict_write _ _)

theorem strict_createChannel (spaceId : String) (input : Channels.CreateChannel) :
    (Channels.createChannel spaceId input).Strict :=
  (App.strict_lift _).bind (fun _ => App.strict_generateId.bind (fun _ =>
    (App.strict_write _ _).bind (fun _ => App.strict_lift _)))

theorem strict_furnishSpace (ownerId spaceId : String) : (furnishSpace ownerId spaceId).Strict :=
  (strict_insertNamed _).bind (fun _ => (strict_insertNamed _).bind (fun _ =>
    (strict_insertNamed _).bind (fun _ => (strict_createChannel _ _).bind (fun _ =>
      (App.strict_write _ _).bind (fun _ => App.strict_lift _)))))

theorem strict_createFurnished (ownerId : String) (input : CreateSpace) :
    (createFurnished ownerId input).Strict :=
  App.strict_generateId.bind (fun _ => (App.strict_lift _).bind (fun _ =>
    (App.strict_write _ _).bind (fun _ => App.strict_generateId.bind (fun _ =>
      (App.strict_write _ _).bind (fun _ => strict_furnishSpace _ _)))))

structure Furnished (ownerId spaceId : String) (db : Tables) : Prop where
  space : db.hasSpace spaceId = true
  roles : ∃ a b c d, db.roles.filter (fun r => r.spaceId = spaceId) =
    [everyoneRole a spaceId, guestRole b spaceId, moderatorRole c spaceId, adminRole d spaceId]
  general : ∃ id, db.channels.filter (fun c => c.spaceId = some spaceId) =
    [Channels.newChannel spaceId id generalChannel]
  owner : db.members.filter (fun m => m.spaceId = spaceId) =
    [{ userId := ownerId, spaceId := spaceId }]

structure NoTrace (spaceId : String) (db : Tables) : Prop where
  space : db.hasSpace spaceId = false
  roles : ∀ r ∈ db.roles, r.spaceId ≠ spaceId
  channels : ∀ c ∈ db.channels, c.spaceId ≠ some spaceId
  members : ∀ m ∈ db.members, m.spaceId ≠ spaceId

def AllOrNothing (ownerId : String) (input : CreateSpace) (s : AppState)
    (out : Except AppError SpaceRow × AppState) : Prop :=
  match out.1 with
  | .ok space => Furnished ownerId space.id out.2.db
  | .error _ => NoTrace (toString s.snowflake) out.2.db ∧
      ∀ slug, freeSlug input s.db = .ok slug → slugTaken out.2.db none slug = false

structure Fresh (s : AppState) : Prop where
  space : ∀ n, s.snowflake ≤ n → s.db.hasSpace (toString n) = false
  role : ∀ n, s.snowflake ≤ n → s.db.hasRole (toString n) = false
  channel : ∀ n, s.snowflake ≤ n → s.db.hasChannel (toString n) = false
  placedRoles : ∀ r ∈ s.db.roles, s.db.hasSpace r.spaceId = true
  placedChannels : ∀ c ∈ s.db.channels, c.spaceId.all s.db.hasSpace = true
  placedMembers : ∀ m ∈ s.db.members, s.db.hasSpace m.spaceId = true

section

variable {s : AppState} {spaceId ownerId : String}

theorem hasRole_insertRow {row : RoleRow} {db : Tables} {m n : Nat} (hid : row.id = toString n)
    (hlt : n < m) (hfree : db.hasRole (toString m) = false) :
    (Roles.insertRow row db).hasRole (toString m) = false := by
  have hother : row.id ≠ toString m := by
    rw [hid]
    intro heq
    have hsame := App.snowflake_injective heq
    omega
  have happend : (Roles.insertRow row db).hasRole (toString m) =
      (db.hasRole (toString m) || decide (row.id = toString m)) := Table.has_append
  rw [happend, hfree, decide_eq_false hother]
  rfl

theorem runs_insertNamed {row : String → RoleRow} (hid : ∀ id, (row id).id = id)
    (hplace : ∀ id, (row id).spaceId = spaceId) (hspace : s.db.hasSpace spaceId = true)
    (hfresh : ∀ n, s.snowflake ≤ n → s.db.hasRole (toString n) = false) :
    ∃ t, (insertNamed row).Runs s () t 1 ∧ t.snowflake = s.snowflake + 1 ∧
      t.db = Roles.insertRow (row (toString s.snowflake)) s.db ∧
      ∀ n, t.snowflake ≤ n → t.db.hasRole (toString n) = false := by
  have hcheck : (App.unique (!s.db.hasRole (row (toString s.snowflake)).id) <|>
      App.foreignKey (s.db.hasSpace (row (toString s.snowflake)).spaceId)) = none := by
    rw [hid, hplace, hspace, hfresh _ (Nat.le_refl _)]
    rfl
  have hrun : (insertNamed row).Runs s () ({ s with snowflake := s.snowflake + 1 }.withDb
      (Roles.insertRow (row (toString s.snowflake)) s.db)) 1 :=
    App.runs_generated (App.runs_write hcheck)
  refine ⟨_, hrun, rfl, rfl, fun n hn => ?_⟩
  exact hasRole_insertRow (hid _) hn (hfresh n (Nat.le_of_lt hn))

theorem getChannelRow_append {db : Tables} {row : ChannelRow}
    (hfresh : db.hasChannel row.id = false) :
    Channels.getChannelRow row.id { db with channels := db.channels ++ [row] } = .ok row := by
  rw [Channels.getChannelRow]
  dsimp only
  rw [Table.lookup_append, Table.lookup_none_of_not_has hfresh, if_pos rfl]
  rfl

theorem runs_createGeneral (hspace : s.db.hasSpace spaceId = true)
    (hfresh : s.db.hasChannel (toString s.snowflake) = false) :
    ∃ t c, (Channels.createChannel spaceId generalChannel).Runs s c t 3 ∧
      t.db = { s.db with
        channels := s.db.channels ++
          [Channels.newChannel spaceId (toString s.snowflake) generalChannel] } := by
  have hcheck : (App.unique (!s.db.hasChannel (toString s.snowflake)) <|>
      App.foreignKey ((some spaceId).all s.db.hasSpace && true)) = none := by
    rw [hfresh, Option.all_some, hspace]
    rfl
  have hvalid : Channels.checkCreate spaceId generalChannel s.db = .ok () := rfl
  have hstored := @getChannelRow_append s.db
    (Channels.newChannel spaceId (toString s.snowflake) generalChannel) hfresh
  have hrun : (Channels.createChannel spaceId generalChannel).Runs s
      (Channels.newChannel spaceId (toString s.snowflake) generalChannel)
      ({ s with snowflake := s.snowflake + 1 }.withDb { s.db with
        channels := s.db.channels ++
          [Channels.newChannel spaceId (toString s.snowflake) generalChannel] }) 3 :=
    App.runs_read hvalid (App.runs_generated (App.runs_written hcheck (App.runs_lift hstored)))
  exact ⟨_, _, hrun, rfl⟩

theorem insertMember_first {row : MemberRow} {db : Tables}
    (h : ∀ m ∈ db.members, m.spaceId ≠ row.spaceId) :
    Members.insertMember row db = { db with members := db.members ++ [row] } := by
  have hnew : ¬ Table.has (fun m : MemberRow => (m.userId, m.spaceId)) (row.userId, row.spaceId)
      db.members = true := by
    intro hhas
    obtain ⟨m, hm, hkey⟩ := Table.has_iff.mp hhas
    exact h m hm (congrArg Prod.snd hkey)
  rw [Members.insertMember, Table.insertNew, if_neg hnew]

theorem runs_joinOwner (hspace : s.db.hasSpace spaceId = true) (howner : s.db.hasUser ownerId = true)
    (hmembers : ∀ m ∈ s.db.members, m.spaceId ≠ spaceId) :
    ∃ t, (joinOwner ownerId spaceId).Runs s () t 1 ∧ t.db =
      { s.db with members := s.db.members ++ [{ userId := ownerId, spaceId := spaceId }] } := by
  have hout : s.db.hasMember spaceId ownerId = false := by
    rw [Tables.hasMember, List.any_eq_false]
    intro m hm
    rw [decide_eq_false (hmembers m hm)]
    exact Bool.false_ne_true
  have hcheck : (App.unique (!s.db.hasMember spaceId ownerId) <|>
      App.foreignKey (s.db.hasUser ownerId && s.db.hasSpace spaceId)) = none := by
    rw [hout, howner, hspace]
    rfl
  exact ⟨_, App.runs_write hcheck, insertMember_first hmembers⟩

def furnish (ownerId spaceId : String) (n : Nat) (db : Tables) : Tables :=
  { db with
    roles := db.roles ++ [guestRole (toString n) spaceId] ++
      [moderatorRole (toString (n + 1)) spaceId] ++ [adminRole (toString (n + 2)) spaceId]
    channels := db.channels ++ [Channels.newChannel spaceId (toString (n + 3)) generalChannel]
    members := db.members ++ [{ userId := ownerId, spaceId := spaceId }] }

theorem runs_furnishSpace (hspace : s.db.hasSpace spaceId = true)
    (howner : s.db.hasUser ownerId = true) (hmembers : ∀ m ∈ s.db.members, m.spaceId ≠ spaceId)
    (hroles : ∀ n, s.snowflake ≤ n → s.db.hasRole (toString n) = false)
    (hchannels : ∀ n, s.snowflake ≤ n → s.db.hasChannel (toString n) = false) :
    ∃ space t, (furnishSpace ownerId spaceId).Runs s space t 8 ∧ space.id = spaceId ∧
      t.db = furnish ownerId spaceId s.snowflake s.db := by
  obtain ⟨t₁, hguest, hn₁, hdb₁, hf₁⟩ :=
    runs_insertNamed (fun _ => rfl) (fun id => (rfl : (guestRole id spaceId).spaceId = spaceId))
      hspace hroles
  have hspace₁ : t₁.db.hasSpace spaceId = true := by rwa [hdb₁]
  obtain ⟨t₂, hmoderator, hn₂, hdb₂, hf₂⟩ :=
    runs_insertNamed (fun _ => rfl) (fun id => (rfl : (moderatorRole id spaceId).spaceId = spaceId))
      hspace₁ hf₁
  have hspace₂ : t₂.db.hasSpace spaceId = true := by rwa [hdb₂]
  obtain ⟨t₃, hadmin, hn₃, hdb₃, -⟩ :=
    runs_insertNamed (fun _ => rfl) (fun id => (rfl : (adminRole id spaceId).spaceId = spaceId))
      hspace₂ hf₂
  have hsnowflake : t₃.snowflake = s.snowflake + 3 := by omega
  have hspace₃ : t₃.db.hasSpace spaceId = true := by rwa [hdb₃]
  have hchannel : t₃.db.hasChannel (toString t₃.snowflake) = false := by
    rw [hdb₃, hdb₂, hdb₁, hsnowflake]
    exact hchannels _ (Nat.le_add_right _ 3)
  obtain ⟨t₄, c, hgeneral, hdb₄⟩ := runs_createGeneral hspace₃ hchannel
  have hspace₄ : t₄.db.hasSpace spaceId = true := by rwa [hdb₄]
  have howner₄ : t₄.db.hasUser ownerId = true := by rwa [hdb₄, hdb₃, hdb₂, hdb₁]
  have hmembers₄ : ∀ m ∈ t₄.db.members, m.spaceId ≠ spaceId := by rwa [hdb₄, hdb₃, hdb₂, hdb₁]
  obtain ⟨t₅, hjoin, hdb₅⟩ := runs_joinOwner hspace₄ howner₄ hmembers₄
  have hspace₅ : t₅.db.hasSpace spaceId = true := by rwa [hdb₅]
  obtain ⟨space, hread⟩ := hasSpace_iff.mp hspace₅
  have hrun : (furnishSpace ownerId spaceId).Runs s space t₅ (1 + (1 + (1 + (3 + (1 + 1))))) :=
    hguest.bind (hmoderator.bind (hadmin.bind (hgeneral.bind (hjoin.bind (App.runs_lift hread)))))
  refine ⟨space, t₅, hrun, (getSpaceRow_ok hread).2, ?_⟩
  rw [hdb₅, hdb₄, hdb₃, hdb₂, hdb₁, hn₂, hn₁, hsnowflake]
  rfl

theorem freeSlug_ok {input : CreateSpace} {db : Tables} {slug : String}
    (h : freeSlug input db = .ok slug) : slugTaken db none slug = false := by
  unfold freeSlug at h
  cases hbase : input.baseSlug with
  | error e =>
    rw [hbase] at h
    cases h
  | ok base =>
    obtain ⟨found, hfound⟩ := ensureUniqueSlug_terminates db base none
    rw [hbase] at h
    dsimp only at h
    rw [hfound] at h
    cases h
    obtain ⟨k, rfl, hfree, -⟩ := ensureUniqueSlug_some hfound
    exact hfree

theorem freeSlug_refused_iff {input : CreateSpace} {db : Tables} :
    (∃ e, freeSlug input db = .error e) ↔ ∃ e, input.baseSlug = .error e := by
  unfold freeSlug
  cases hbase : input.baseSlug with
  | error e => exact ⟨fun _ => ⟨e, rfl⟩, fun _ => ⟨e, rfl⟩⟩
  | ok base =>
    obtain ⟨slug, hslug⟩ := ensureUniqueSlug_terminates db base none
    dsimp only
    rw [hslug]
    constructor
    · rintro ⟨e, he⟩
      cases he
    · rintro ⟨e, he⟩
      cases he

theorem Fresh.noTrace (h : Fresh s) : NoTrace (toString s.snowflake) s.db := by
  have hfree := h.space s.snowflake (Nat.le_refl _)
  refine ⟨hfree, fun r hr heq => ?_, fun c hc heq => ?_, fun m hm heq => ?_⟩
  · have hplaced := h.placedRoles r hr
    rw [heq, hfree] at hplaced
    cases hplaced
  · have hplaced := h.placedChannels c hc
    rw [heq, Option.all_some, hfree] at hplaced
    cases hplaced
  · have hplaced := h.placedMembers m hm
    rw [heq, hfree] at hplaced
    cases hplaced

theorem filter_new {ρ : Type} {p : ρ → Bool} {rows new : List ρ} (hold : ∀ r ∈ rows, p r = false)
    (hnew : ∀ r ∈ new, p r = true) : (rows ++ new).filter p = new := by
  have hnone : rows.filter p = [] := by
    rw [List.filter_eq_nil_iff]
    intro r hr
    rw [hold r hr]
    exact Bool.false_ne_true
  rw [List.filter_append, hnone, List.filter_eq_self.mpr hnew, List.nil_append]

theorem hasSpace_append {db : Tables} {space : SpaceRow} (hid : space.id = spaceId) :
    { db with spaces := db.spaces ++ [space] }.hasSpace spaceId = true := by
  have happend : { db with spaces := db.spaces ++ [space] }.hasSpace spaceId =
      (db.hasSpace spaceId || decide (space.id = spaceId)) := Table.has_append
  rw [happend, decide_eq_true hid, Bool.or_true]

theorem furnished_furnish {db : Tables} {m n : Nat} (h : NoTrace spaceId db)
    (space : SpaceRow) (hid : space.id = spaceId) :
    Furnished ownerId spaceId (furnish ownerId spaceId n (Roles.insertRow
      (everyoneRole (toString m) spaceId) { db with spaces := db.spaces ++ [space] })) := by
  constructor
  · exact @hasSpace_append spaceId db space hid
  · refine ⟨toString m, toString n, toString (n + 1), toString (n + 2), ?_⟩
    simp only [furnish, Roles.insertRow, List.append_assoc, List.cons_append, List.nil_append]
    apply filter_new (fun r hr => decide_eq_false (h.roles r hr))
    simp [everyoneRole, guestRole, moderatorRole, adminRole]
  · refine ⟨toString (n + 3), filter_new (fun c hc => decide_eq_false (h.channels c hc)) ?_⟩
    intro c hc
    cases List.mem_singleton.mp hc
    exact decide_eq_true rfl
  · apply filter_new (fun m hm => decide_eq_false (h.members m hm))
    intro m hm
    cases List.mem_singleton.mp hm
    exact decide_eq_true rfl

theorem runs_createFurnished {input : CreateSpace} {slug : String} (h : Fresh s)
    (hslug : freeSlug input s.db = .ok slug) (howner : s.db.hasUser ownerId = true) :
    ∃ space t, (createFurnished ownerId input).Runs s space t 11 ∧
      space.id = toString s.snowflake ∧ Furnished ownerId space.id t.db := by
  let id := toString s.snowflake
  let space := newSpace ownerId id slug input
  let s₁ : AppState := { s with snowflake := s.snowflake + 1 + 1 }.withDb
    { s.db with spaces := s.db.spaces ++ [space] }
  have hplace : s₁.db.hasSpace id = true := hasSpace_append rfl
  have hcheck : (App.unique (!(s.db.hasSpace space.id || slugTaken s.db none space.slug)) <|>
      App.foreignKey (s.db.hasUser space.ownerId)) = none := by
    rw [show s.db.hasSpace space.id = false from h.space _ (Nat.le_refl _),
      show slugTaken s.db none space.slug = false from freeSlug_ok hslug,
      show s.db.hasUser space.ownerId = true from howner]
    rfl
  have hrole : (App.unique (!s₁.db.hasRole (toString (s.snowflake + 1))) <|>
      App.foreignKey (s₁.db.hasSpace id)) = none := by
    rw [show s₁.db.hasRole (toString (s.snowflake + 1)) = false from h.role _ (Nat.le_succ _),
      hplace]
    rfl
  let s₂ := s₁.withDb (Roles.insertRow (everyoneRole (toString (s.snowflake + 1)) id) s₁.db)
  obtain ⟨row, t, hrun, hid, ht⟩ := @runs_furnishSpace s₂ id ownerId hplace howner
    h.noTrace.members
    (fun n hn => hasRole_insertRow rfl hn (h.role n (Nat.le_of_lt (Nat.lt_of_succ_lt hn))))
    (fun n hn => h.channel n (Nat.le_of_lt (Nat.lt_of_succ_lt hn)))
  refine ⟨row, t, ?_, hid, ?_⟩
  · exact App.runs_generated (App.runs_read hslug (App.runs_written hcheck (App.runs_generated
      (App.runs_written hrole hrun))))
  · rw [hid, ht]
    exact furnished_furnish h.noTrace space rfl

theorem faultAt_early {input : CreateSpace} {k : Nat}
    (h : (∃ e, input.baseSlug = .error e) ∨ s.db.hasUser ownerId = false ∨ k ≤ 1) :
    ∃ e, (createFurnished ownerId input).faultAt k s =
      (.error e, { s with snowflake := s.snowflake + 1 }) := by
  rw [createFurnished, App.faultAt_generated]
  cases k with
  | zero => exact ⟨_, App.faultAt_read⟩
  | succ k =>
    cases hslug : freeSlug input s.db with
    | error e => exact ⟨e, App.faultAt_read_error hslug⟩
    | ok slug =>
      have hnext : freeSlug input { s with snowflake := s.snowflake + 1 }.db = .ok slug := hslug
      cases k with
      | zero => exact ⟨_, (App.faultAt_read_ok hnext).trans App.faultAt_write⟩
      | succ k =>
        have howner : s.db.hasUser ownerId = false := by
          rcases h with hrefused | howner | hk
          · obtain ⟨e, he⟩ := freeSlug_refused_iff.mpr hrefused
            rw [hslug] at he
            cases he
          · exact howner
          · omega
        have hcheck : ∀ free, ∃ e,
            (App.unique free <|> App.foreignKey (s.db.hasUser ownerId)) = some e := by
          intro free
          rw [howner]
          cases free
          · exact ⟨_, rfl⟩
          · exact ⟨_, rfl⟩
        obtain ⟨e, he⟩ := hcheck _
        exact ⟨e, (App.faultAt_read_ok hnext).trans (App.faultAt_write_refused he)⟩

theorem keeps_furnishSpace (space : String) :
    (furnishSpace ownerId space).Maintains (fun s => s.db.hasSpace spaceId = true) := by
  have hspaces : (furnishSpace ownerId space).Preserves (fun s => s.db.spaces) := by
    have hnamed : ∀ row, (insertNamed row).Preserves (fun s => s.db.spaces) := fun row =>
      (App.preserves_generateId (fun _ _ => rfl)).bind (fun _ => App.preserves_write (fun _ => rfl))
    refine (hnamed _).bind (fun _ => (hnamed _).bind (fun _ => (hnamed _).bind (fun _ => ?_)))
    refine Prog.Preserves.bind ?_ (fun _ => ?_)
    · refine (App.preserves_lift _).bind (fun _ => ?_)
      refine (App.preserves_generateId (fun _ _ => rfl)).bind (fun _ => ?_)
      exact (App.preserves_write (fun _ => rfl)).bind (fun _ => App.preserves_lift _)
    · exact (App.preserves_write (fun _ => rfl)).bind (fun _ => App.preserves_lift _)
  refine hspaces.keeps (fun s t hst hs => ?_)
  rwa [Tables.hasSpace, hst]

theorem standing_after {input : CreateSpace} {slug : String} (h : Fresh s)
    (hslug : freeSlug input s.db = .ok slug) (howner : s.db.hasUser ownerId = true) (k : Nat) :
    ((createFurnished ownerId input).faultAt (k + 2) s).2.db.hasSpace
      (toString s.snowflake) = true := by
  have hcheck : (App.unique (!(s.db.hasSpace (toString s.snowflake) || slugTaken s.db none slug)) <|>
      App.foreignKey (s.db.hasUser ownerId)) = none := by
    rw [h.space _ (Nat.le_refl _), freeSlug_ok hslug, howner]
    rfl
  let next : AppState := { s with snowflake := s.snowflake + 1 }
  have hnext : freeSlug input next.db = .ok slug := hslug
  have hskip : (createFurnished ownerId input).faultAt (k + 2) s = _ :=
    (App.faultAt_read_ok hnext).trans (App.faultAt_write_ok hcheck)
  rw [hskip]
  refine Prog.Keeps.faultAt (I := fun s' : AppState => s'.db.hasSpace (toString s.snowflake) = true)
    (Q := fun _ => True) ?_ (hasSpace_append rfl)
  refine Prog.Keeps.bind (Q := fun _ => True) (fun t ht => ⟨ht, trivial⟩) (fun roleId _ => ?_)
  refine Prog.Keeps.bind (App.keeps_write ?_) (fun _ _ => keeps_furnishSpace _)
  exact fun _ ht => ht

end

theorem creation_atomic_iff {s : AppState} (h : Fresh s) (ownerId : String) (input : CreateSpace)
    (k : Nat) :
    AllOrNothing ownerId input s ((createFurnished ownerId input).faultAt k s) ↔
      (∃ e, input.baseSlug = .error e) ∨ s.db.hasUser ownerId = false ∨ k ≤ 1 ∨ 11 ≤ k := by
  by_cases hearly : (∃ e, input.baseSlug = .error e) ∨ s.db.hasUser ownerId = false ∨ k ≤ 1
  · obtain ⟨e, he⟩ := faultAt_early hearly
    rw [he]
    constructor
    · intro _
      rcases hearly with hslug | howner | hk
      · exact .inl hslug
      · exact .inr (.inl howner)
      · exact .inr (.inr (.inl hk))
    · intro _
      exact ⟨h.noTrace, fun slug hslug => freeSlug_ok hslug⟩
  · obtain ⟨hbase, hlater⟩ := not_or.mp hearly
    obtain ⟨hunknown, hk⟩ := not_or.mp hlater
    have howner : s.db.hasUser ownerId = true := Bool.not_eq_false _ ▸ hunknown
    cases hslug : freeSlug input s.db with
    | error e => exact absurd (freeSlug_refused_iff.mp ⟨e, hslug⟩) hbase
    | ok slug =>
      obtain ⟨space, t, hrun, -, hfurnished⟩ := runs_createFurnished h hslug howner
      constructor
      · intro hall
        refine .inr (.inr (.inr (Nat.le_of_not_lt (fun hlt => ?_))))
        obtain ⟨e, he⟩ := (hrun.faultAt_iff (strict_createFurnished ownerId input)).mpr hlt
        obtain ⟨j, rfl⟩ := Nat.exists_eq_add_of_le' (Nat.lt_of_not_le hk)
        have hstands := standing_after h hslug howner j
        rw [AllOrNothing, he] at hall
        rw [hall.1.space] at hstands
        cases hstands
      · intro hcond
        have hlate : 11 ≤ k := by
          rcases hcond with hrefused | hnone | hearly | hlate
          · exact absurd hrefused hbase
          · exact absurd hnone hunknown
          · exact absurd hearly hk
          · exact hlate
        rw [← hrun.2] at hlate
        rw [Prog.faultAt_late hlate, hrun.1]
        exact hfurnished

def unsettled : AppState :=
  { db := { users := [{ id := "1", username := "ann" }] }
    ext := .fixed ""
    snowflake := 20 }

theorem unsettled_fresh : Fresh unsettled := by
  constructor
  · intro n hn
    rfl
  · intro n hn
    rfl
  · intro n hn
    rfl
  · intro r hr
    cases hr
  · intro c hc
    cases hc
  · intro m hm
    cases hm

theorem creation_undisturbed : AllOrNothing "1" { name := "garden" } unsettled
    ((createFurnished "1" { name := "garden" }).faultAt 11 unsettled) :=
  (creation_atomic_iff unsettled_fresh "1" { name := "garden" } 11).mpr
    (.inr (.inr (.inr (Nat.le_refl 11))))

theorem space_half_created : ¬ ∀ (s : AppState) (ownerId : String) (input : CreateSpace) (k : Nat),
    Fresh s → AllOrNothing ownerId input s ((createFurnished ownerId input).faultAt k s) := by
  intro h
  have hall := h unsettled "1" { name := "garden" } 5 unsettled_fresh
  have herror : ((createFurnished "1" { name := "garden" }).faultAt 5 unsettled).1 =
      .error App.databaseFault := by decide +kernel
  have hstands : ((createFurnished "1" { name := "garden" }).faultAt 5 unsettled).2.db.hasSpace
      "20" = true := by decide +kernel
  rw [AllOrNothing, herror] at hall
  exact Bool.false_ne_true (hall.1.space.symm.trans hstands)

end Vokusz.Db.Spaces
