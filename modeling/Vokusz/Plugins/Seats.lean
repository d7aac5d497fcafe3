import Mathlib.Data.Finset.Card
import Mathlib.Data.List.Pairwise
import Vokusz.Lib.Snapshot
import Vokusz.Plugins.Sessions

namespace Vokusz.Plugins

open Lib Db Permissions Handler

abbrev Seat := String × Option Int64

def seatOf (p : ParticipantRow) : Seat := (p.userId, p.slotIndex)

def seats (sessionId : String) (s : Server) : Finset Seat :=
  ((s.participants.filter (isPlayer sessionId)).map seatOf).toFinset

def others (userId : String) (v : Finset Seat) : Finset Seat := v.filter (fun a => a.1 ≠ userId)

def reseat (userId role : String) (slotIndex : Option Int64) (v : Finset Seat) : Finset Seat :=
  if role = "player" then insert (userId, slotIndex) (others userId v) else others userId v

def Seated (n : Int) (v : Finset Seat) : Prop :=
  (v.card : Int) ≤ n ∧ ∀ a ∈ v, ∀ b ∈ v, a.2 = b.2 → a = b

structure Registered (pluginId sessionId : String) (n : Int) (s : Server) : Prop where
  keys : (s.participants.map participantKey).Nodup
  session : ∀ row, Table.lookup SessionRow.id sessionId s.sessions = some row →
    row.pluginId = pluginId
  plugin : ∀ p, Table.lookup Plugin.id pluginId s.plugins = some p → p.maxParticipants = n

section

variable {sessionId userId role : String} {slotIndex : Option Int64} {s : Server} {a : Seat}
  {v w : Finset Seat}

theorem mem_seats : a ∈ seats sessionId s ↔
    ∃ p ∈ s.participants, p.sessionId = sessionId ∧ p.role = "player" ∧ seatOf p = a := by
  simp only [seats, isPlayer, List.mem_toFinset, List.mem_map, List.mem_filter,
    Bool.and_eq_true, decide_eq_true_eq]
  constructor
  · rintro ⟨p, ⟨hp, hs, hr⟩, ha⟩
    exact ⟨p, hp, hs, hr, ha⟩
  · rintro ⟨p, hp, hs, hr, ha⟩
    exact ⟨p, ⟨hp, hs, hr⟩, ha⟩

theorem mem_others : a ∈ others userId v ↔ a ∈ v ∧ a.1 ≠ userId := by
  simp [others]

theorem others_subset (h : w ⊆ v) : others userId w ⊆ others userId v := by
  intro a ha
  rw [mem_others] at ha ⊢
  exact ⟨h ha.1, ha.2⟩

theorem nodup_seats (h : (s.participants.map participantKey).Nodup) :
    ((s.participants.filter (isPlayer sessionId)).map seatOf).Nodup := by
  have hkeys : ((s.participants.filter (isPlayer sessionId)).map participantKey).Nodup :=
    (List.filter_sublist.map participantKey).nodup h
  rw [List.Nodup, List.pairwise_map] at hkeys ⊢
  have hboth := List.pairwise_filter.mp hkeys
  refine List.pairwise_filter.mpr (hboth.imp (fun {p q} hne hp hq heq => ?_))
  simp only [isPlayer, Bool.and_eq_true, decide_eq_true_eq] at hp hq
  refine hne ?_ ?_ ?_
  · simpa [isPlayer] using hp
  · simpa [isPlayer] using hq
  · have huser : p.userId = q.userId := congrArg Prod.fst heq
    rw [participantKey, participantKey, hp.1, hq.1, huser]

theorem card_seats (h : (s.participants.map participantKey).Nodup) :
    (seats sessionId s).card = (s.participants.filter (isPlayer sessionId)).length := by
  rw [seats, List.toFinset_card_of_nodup (nodup_seats h), List.length_map]

theorem seated_iff {n : Int} (h : (s.participants.map participantKey).Nodup) :
    Seated n (seats sessionId s) ↔
      ((s.participants.filter (isPlayer sessionId)).length : Int) ≤ n ∧
        (s.participants.filter (isPlayer sessionId)).Pairwise
          (fun p q => p.slotIndex ≠ q.slotIndex) := by
  rw [Seated, card_seats h]
  refine and_congr_right fun _ => ?_
  constructor
  · intro hslots
    have hnodup : ((s.participants.filter (isPlayer sessionId)).map seatOf).Nodup := nodup_seats h
    have hseats := List.pairwise_map.mp hnodup
    refine hseats.imp_of_mem (fun hp hq hne heq => hne ?_)
    exact hslots _ (List.mem_toFinset.mpr (List.mem_map_of_mem hp)) _
      (List.mem_toFinset.mpr (List.mem_map_of_mem hq)) heq
  · intro hslots a ha b hb heq
    obtain ⟨p, hp, rfl⟩ := List.mem_map.mp (List.mem_toFinset.mp ha)
    obtain ⟨q, hq, rfl⟩ := List.mem_map.mp (List.mem_toFinset.mp hb)
    by_cases hpq : p = q
    · rw [hpq]
    · have hsymm : Std.Symm (fun p q : ParticipantRow => p.slotIndex ≠ q.slotIndex) :=
        ⟨fun _ _ hne => hne.symm⟩
      exact absurd heq (hslots.forall hp hq hpq)

theorem mem_reseat : a ∈ reseat userId role slotIndex v ↔
    (a ∈ v ∧ a.1 ≠ userId) ∨ role = "player" ∧ a = (userId, slotIndex) := by
  unfold reseat
  split
  · rename_i hrole
    rw [Finset.mem_insert, mem_others]
    simp [hrole, or_comm]
  · rename_i hrole
    rw [mem_others]
    simp [hrole]

theorem seats_insert (row : ParticipantRow) (hsession : row.sessionId = sessionId)
    (hnew : Table.has participantKey (participantKey row) s.participants = false) :
    seats sessionId { s with participants := s.participants ++ [row] } =
      reseat row.userId row.role row.slotIndex (seats sessionId s) := by
  have hfree : ∀ a ∈ seats sessionId s, a.1 ≠ row.userId := by
    intro a ha huser
    obtain ⟨p, hp, hs, -, rfl⟩ := mem_seats.mp ha
    have hkey : participantKey p = participantKey row :=
      Prod.ext (hs.trans hsession.symm) huser
    have hhas := Table.has_iff.mpr ⟨p, hp, hkey⟩
    rw [hnew] at hhas
    cases hhas
  ext a
  rw [mem_reseat, mem_seats]
  constructor
  · rintro ⟨p, hp, hs, hrole, rfl⟩
    rcases List.mem_append.mp hp with hp | hp
    · have ha : seatOf p ∈ seats sessionId s := mem_seats.mpr ⟨p, hp, hs, hrole, rfl⟩
      exact .inl ⟨ha, hfree _ ha⟩
    · obtain rfl := List.mem_singleton.mp hp
      exact .inr ⟨hrole, rfl⟩
  · rintro (⟨ha, -⟩ | ⟨hrole, rfl⟩)
    · obtain ⟨p, hp, hs, hrole, rfl⟩ := mem_seats.mp ha
      exact ⟨p, List.mem_append_left _ hp, hs, hrole, rfl⟩
    · exact ⟨row, List.mem_append_right _ (List.mem_singleton.mpr rfl), hsession, hrole, rfl⟩

theorem seats_update (hhas : Table.has participantKey (sessionId, userId) s.participants = true) :
    seats sessionId { s with
      participants := Table.update participantKey (sessionId, userId)
        (fun p => { p with role := role, slotIndex := slotIndex }) s.participants } =
      reseat userId role slotIndex (seats sessionId s) := by
  ext a
  rw [mem_reseat, mem_seats]
  constructor
  · rintro ⟨p, hp, hs, hrole, rfl⟩
    rcases Table.mem_update hp with ⟨hold, hne⟩ | ⟨old, -, hkey, rfl⟩
    · refine .inl ⟨mem_seats.mpr ⟨p, hold, hs, hrole, rfl⟩, fun huser => hne ?_⟩
      exact Prod.ext hs huser
    · have huser : old.userId = userId := congrArg Prod.snd hkey
      exact .inr ⟨hrole, Prod.ext huser rfl⟩
  · rintro (⟨ha, hne⟩ | ⟨hrole, rfl⟩)
    · obtain ⟨p, hp, hs, hrole, rfl⟩ := mem_seats.mp ha
      have hkey : participantKey p ≠ (sessionId, userId) := fun h => hne (congrArg Prod.snd h)
      refine ⟨p, List.mem_map.mpr ⟨p, hp, if_neg hkey⟩, hs, hrole, rfl⟩
    · obtain ⟨p, hp, hkey⟩ := Table.has_iff.mp hhas
      refine ⟨_, List.mem_map.mpr ⟨p, hp, if_pos hkey⟩, congrArg Prod.fst hkey, hrole, ?_⟩
      exact Prod.ext (congrArg Prod.snd hkey) rfl

theorem seats_update_of_ne {other : String} (hne : sessionId ≠ other) :
    seats sessionId { s with
      participants := Table.update participantKey (other, userId)
        (fun p => { p with role := role, slotIndex := slotIndex }) s.participants } =
      seats sessionId s := by
  ext a
  rw [mem_seats, mem_seats]
  constructor
  · rintro ⟨p, hp, hs, hrole, rfl⟩
    rcases Table.mem_update hp with ⟨hold, -⟩ | ⟨old, -, hkey, rfl⟩
    · exact ⟨p, hold, hs, hrole, rfl⟩
    · exact absurd (hs.symm.trans (congrArg Prod.fst hkey)) hne
  · rintro ⟨p, hp, hs, hrole, rfl⟩
    have hkey : participantKey p ≠ (other, userId) :=
      fun h => hne (hs.symm.trans (congrArg Prod.fst h))
    exact ⟨p, List.mem_map.mpr ⟨p, hp, if_neg hkey⟩, hs, hrole, rfl⟩

theorem seats_insert_of_ne {row : ParticipantRow} (hne : row.sessionId ≠ sessionId) :
    seats sessionId { s with participants := s.participants ++ [row] } = seats sessionId s := by
  have hplayer : isPlayer sessionId row = false := by simp [isPlayer, hne]
  simp [seats, List.filter_append, hplayer]

theorem mem_slots {slot : Int64} :
    slot ∈ (s.participants.filter (isPlayer sessionId)).filterMap ParticipantRow.slotIndex ↔
      ∃ a ∈ seats sessionId s, a.2 = some slot := by
  simp only [List.mem_filterMap, seats, List.mem_toFinset, List.mem_map]
  constructor
  · rintro ⟨p, hp, hslot⟩
    exact ⟨seatOf p, ⟨p, hp, rfl⟩, hslot⟩
  · rintro ⟨_, ⟨p, hp, rfl⟩, hslot⟩
    exact ⟨p, hp, hslot⟩

theorem slotAfter_not_mem {slots : List Int64} (h : Int64.maxValue ∉ slots) :
    slotAfter slots ∉ slots := by
  unfold slotAfter
  cases hmax : (slots.map Int64.toInt).max? with
  | none =>
    have hnil : slots = [] := List.map_eq_nil_iff.mp (List.max?_eq_none_iff.mp hmax)
    simp [hnil]
  | some m =>
    intro hmem
    obtain ⟨hm, hle⟩ := List.max?_eq_some_iff.mp hmax
    obtain ⟨slot, hslot, rfl⟩ := List.mem_map.mp hm
    have hlow := Int64.le_toInt slot
    have hhigh := Int64.toInt_lt slot
    have hlast : slot.toInt ≠ 2 ^ 63 - 1 := by
      intro heq
      have hslot' : slot = Int64.maxValue := Int64.toInt_inj.mp heq
      exact h (hslot' ▸ hslot)
    have hnext := hle _ (List.mem_map.mpr ⟨_, hmem, rfl⟩)
    have hsize : (Int64.size : Int) = 2 ^ 64 := by decide
    rw [Int64.toInt_ofInt, Int.bmod_def, hsize] at hnext
    omega

end

structure AssignRequest where
  pluginId : String
  sessionId : String
  auth : AuthUser
  input : AssignRole

namespace AssignRequest

variable (r : AssignRequest)

def serve : Handler PluginSession := assignRole r.pluginId r.sessionId r.auth r.input

def finish (plugin : Plugin) (session : PluginSession) (slotIndex : Option Int64) :
    Handler PluginSession := do
  Prog.require (r.input.userId = r.auth.userId ∨ session.hostUserId = r.auth.userId)
    (.forbidden "only the host or the user themselves can change roles")
  writeParticipant session r.sessionId r.input slotIndex
  announceRole plugin r.sessionId r.input

def assign (plugin : Plugin) (session : PluginSession) : Handler PluginSession := do
  Prog.require (r.input.role = "player" ∨ r.input.role = "spectator")
    (.badRequest "role must be 'player' or 'spectator'")
  let slotIndex ← slotFor plugin session r.sessionId r.input
  r.finish plugin session slotIndex

def entered (plugin : Plugin) (session : PluginSession) : Handler PluginSession :=
  admitted r.pluginId r.sessionId r.auth plugin session r.assign

theorem serve_eq : r.serve =
    getPlugin r.pluginId >>= fun plugin =>
    fetch (requireMembership plugin.spaceId r.auth.userId) >>= fun _ =>
    getSessionRow r.sessionId >>= fun row =>
    listParticipants r.sessionId >>= fun participants =>
    r.entered plugin (rowToSession row participants) :=
  accessedSession_bind r.pluginId r.sessionId r.auth r.assign

def HasRead (p : Handler PluginSession) : Prop :=
  ∃ plugin session, Prog.Later (r.entered plugin session) p

def Ready (n : Int) (slotIndex : Option Int64) (v : Finset Seat) : Prop :=
  r.input.role = "player" → ((others r.input.userId v).card : Int) < n ∧
    match r.input.slotIndex with
    | some idx => slotIndex = some idx
    | none => ∀ a ∈ others r.input.userId v, a.2 ≠ slotIndex

def Reseats (n : Int) (v w : Finset Seat) : Prop :=
  ∃ slotIndex, w = reseat r.input.userId r.input.role slotIndex v ∧ r.Ready n slotIndex v

def Expects (v w : Finset Seat) : Prop := r.input.role = "player" → w ⊆ v

instance : IsPreorder (Finset Seat) r.Expects where
  refl _ _ := Finset.Subset.refl _
  trans _ _ _ h h' hrole := (h' hrole).trans (h hrole)

def Counts (sessionId : String) (s : Server) : Prop :=
  r.input.role = "player" → r.input.slotIndex = none →
    ∀ a ∈ seats sessionId s, a.2 ≠ some Int64.maxValue

end AssignRequest

section

variable {r : AssignRequest} {n : Int} {plugin : Plugin} {session : PluginSession}
  {sessionId : String} {v : Finset Seat}

theorem AssignRequest.Ready.seated {slotIndex : Option Int64} (hv : Seated n v)
    (h : r.Ready n slotIndex v)
    (hnamed : ∀ idx, r.input.role = "player" → r.input.slotIndex = some idx →
      ∀ a ∈ others r.input.userId v, a.2 ≠ some idx) :
    Seated n (reseat r.input.userId r.input.role slotIndex v) := by
  have hsub : others r.input.userId v ⊆ v := Finset.filter_subset _ _
  have hcard := Finset.card_le_card hsub
  unfold reseat
  split
  · rename_i hrole
    obtain ⟨hroom, hslot⟩ := h hrole
    have hfree : ∀ a ∈ others r.input.userId v, a.2 ≠ slotIndex := by
      cases hindex : r.input.slotIndex with
      | none =>
        rw [hindex] at hslot
        exact hslot
      | some idx =>
        rw [hindex] at hslot
        rw [hslot]
        exact hnamed idx hrole hindex
    refine ⟨?_, ?_⟩
    · have hinsert := Finset.card_insert_le (r.input.userId, slotIndex) (others r.input.userId v)
      omega
    · intro a ha b hb heq
      rcases Finset.mem_insert.mp ha with rfl | ha
      · rcases Finset.mem_insert.mp hb with rfl | hb
        · rfl
        · exact absurd heq.symm (hfree b hb)
      · rcases Finset.mem_insert.mp hb with rfl | hb
        · exact absurd heq (hfree a ha)
        · exact hv.2 a (hsub ha) b (hsub hb) heq
  · refine ⟨?_, fun a ha b hb => hv.2 a (hsub ha) b (hsub hb)⟩
    have hbound := hv.1
    omega

theorem AssignRequest.Ready.mono {slotIndex : Option Int64} {w : Finset Seat}
    (h : r.Ready n slotIndex v) (hw : r.Expects v w) : r.Ready n slotIndex w := by
  intro hrole
  have hsub : others r.input.userId w ⊆ others r.input.userId v := others_subset (hw hrole)
  obtain ⟨hroom, hslot⟩ := h hrole
  have hcard := Finset.card_le_card hsub
  refine ⟨by omega, ?_⟩
  cases hindex : r.input.slotIndex with
  | none =>
    rw [hindex] at hslot
    exact fun a ha => hslot a (hsub ha)
  | some idx =>
    rw [hindex] at hslot
    exact hslot

theorem preserves_announceRole :
    (announceRole plugin r.sessionId r.input).Preserves (seats sessionId) := by
  have hsend : ∀ ids data, (broadcastPluginEvent (some plugin.spaceId) (some ids)
      "plugin.role_changed" data).Preserves (seats sessionId) :=
    fun _ _ => preserves_broadcastPluginEvent (fun _ _ => rfl)
  refine (preserves_read _).bind fun ids => (preserves_getSession _).bind fun updated => ?_
  exact (hsend ids _).bind fun _ => Prog.preserves_pure _

theorem relies_reseat {α : Type} {H : Server → Prop} {slotIndex : Option Int64}
    {f : Server → Except AppError α × Server} {rest : α → Handler PluginSession}
    (hready : r.Ready n slotIndex v)
    (hf : ∀ s, seats r.sessionId (f s).2 = seats r.sessionId s ∨
      ∃ a, (f s).1 = .ok a ∧ seats r.sessionId (f s).2 =
        reseat r.input.userId r.input.role slotIndex (seats r.sessionId s))
    (herror : ∀ s e, (f s).1 = .error e → (f s).2 = s)
    (hrest : ∀ a, (rest a).Preserves (seats r.sessionId)) :
    (Prog.statement App.databaseFault f >>= rest).Relies H (seats r.sessionId) (r.Reseats n)
      r.Expects v := by
  refine Prog.relies_statement (fun s _ e he => by rw [herror s e he]) (fun s _ hs c _ => ?_)
  rcases hf s with hsame | ⟨a, -, hwritten⟩
  · exact .inl ⟨hsame, Prog.relies_of_preserves (hrest c)⟩
  · exact .inr ⟨⟨slotIndex, hwritten, hready.mono hs⟩, hrest c⟩

theorem keeps_requireSessionAccess {I : Server → Prop} {userId : String} :
    (requireSessionAccess r.sessionId userId).Maintains I :=
  (preserves_requireSessionAccess _ _).keeps_of_still

theorem new_of_unique {free : Bool} {e : Option AppError}
    (h : (App.unique (!free)).or e = none) : free = false := by
  cases free with
  | true => cases h
  | false => rfl

theorem relies_writeParticipant {H : Server → Prop} {slotIndex : Option Int64}
    (hready : r.Ready n slotIndex v) :
    (writeParticipant session r.sessionId r.input slotIndex >>= fun _ =>
      announceRole plugin r.sessionId r.input).Relies H (seats r.sessionId) (r.Reseats n)
      r.Expects v := by
  unfold writeParticipant
  split
  · simp only [updateParticipantRole, bind_assoc]
    refine Prog.relies_bind (preserves_requireSessionAccess _ _) keeps_requireSessionAccess
      (fun _ w _ hw => ?_)
    refine relies_reseat (hready.mono hw) (fun s => ?_) (fun s e he => by cases he) (fun c => ?_)
    · cases hhas : Table.has participantKey (r.sessionId, r.input.userId) s.participants with
      | true => exact .inr ⟨_, rfl, seats_update hhas⟩
      | false =>
        have hrows : Table.update participantKey (r.sessionId, r.input.userId)
            (fun p => { p with role := r.input.role, slotIndex := slotIndex }) s.participants =
            s.participants := Table.update_of_not_has hhas
        dsimp only
        rw [hrows]
        exact .inl rfl
    · exact (Prog.preserves_require _ _).bind fun _ => preserves_announceRole
  · simp only [addParticipant, bind_assoc]
    refine Prog.relies_bind (preserves_requireSessionAccess _ _) keeps_requireSessionAccess
      (fun _ w _ hw => ?_)
    refine relies_reseat (hready.mono hw) (fun s => ?_) (fun s e he => ?_)
      (fun _ => preserves_announceRole)
    · dsimp only
      split
      · exact .inl rfl
      · rename_i hcheck
        have hinsert := seats_insert (s := s)
          { sessionId := r.sessionId
            userId := r.input.userId
            role := r.input.role
            slotIndex := slotIndex
            joinedAt := s.app.now } rfl (new_of_unique hcheck)
        exact .inr ⟨(), rfl, hinsert⟩
    · dsimp only at he ⊢
      split
      · rfl
      · rename_i hcheck
        rw [hcheck] at he
        cases he

theorem relies_finish {H : Server → Prop} {slotIndex : Option Int64}
    (hready : r.Ready n slotIndex v) :
    (r.finish plugin session slotIndex).Relies H (seats r.sessionId) (r.Reseats n)
      r.Expects v := by
  have hquiet : (Prog.require (r.input.userId = r.auth.userId ∨ session.hostUserId = r.auth.userId)
      (AppError.forbidden "only the host or the user themselves can change roles")).Preserves
      (fun s : Server => s) := Prog.preserves_require _ _
  refine Prog.relies_bind (Prog.preserves_require _ _) hquiet.keeps_of_still (fun _ w _ hw => ?_)
  exact relies_writeParticipant (hready.mono hw)

def Watched (pluginId sessionId : String) (n : Int) (r : AssignRequest) (s : Server) : Prop :=
  Registered pluginId sessionId n s ∧ Seated n (seats sessionId s) ∧ r.Counts sessionId s

def Room (r : AssignRequest) (n : Int) (v : Finset Seat) : Prop :=
  ((others r.input.userId v).card : Int) < n

theorem Room.mono {w : Finset Seat} (h : Room r n v) (hw : w ⊆ v) : Room r n w := by
  have hsub : others r.input.userId w ⊆ others r.input.userId v := others_subset hw
  have hcard := Finset.card_le_card hsub
  unfold Room at h ⊢
  omega

theorem room_of_count (h : (v.card : Int) < n) : Room r n v := by
  have hcard := Finset.card_le_card (Finset.filter_subset (fun a : Seat => a.1 ≠ r.input.userId) v)
  unfold Room others
  omega

theorem room_of_seat (hv : Seated n v) {a : Seat} (ha : a ∈ v) (huser : a.1 = r.input.userId) :
    Room r n v := by
  have hsub : others r.input.userId v ⊂ v := by
    refine Finset.ssubset_iff_subset_ne.mpr ⟨Finset.filter_subset _ _, fun heq => ?_⟩
    rw [← heq, mem_others] at ha
    exact ha.2 huser
  have hcard := Finset.card_lt_card hsub
  have hbound := hv.1
  unfold Room
  omega

theorem relies_checkCapacity {pluginId : String} {f : Unit → Handler PluginSession}
    (hmax : plugin.maxParticipants = n) (hn : 0 < n) (hrole : r.input.role = "player")
    (hheld : holdsRole session.participants r.input.userId "player" = true → Room r n v)
    (hf : ∀ w, w ⊆ v → Room r n w → (f ()).Relies (Watched pluginId r.sessionId n r)
      (seats r.sessionId) (r.Reseats n) r.Expects w) :
    (checkCapacity plugin session r.sessionId r.input.userId >>= f).Relies
      (Watched pluginId r.sessionId n r) (seats r.sessionId) (r.Reseats n) r.Expects v := by
  unfold checkCapacity
  rw [hmax, if_pos hn, bind_assoc]
  refine Prog.relies_query (fun s hs hv count hcount => ?_)
  cases hcount
  rw [Prog.require_bind]
  split
  · rename_i hroom
    refine hf _ (hv hrole) ?_
    rcases hroom with hheld' | hcount
    · exact (hheld hheld').mono (hv hrole)
    · rw [← card_seats hs.1.keys] at hcount
      exact room_of_count hcount
  · trivial

theorem relies_chosenSlot {pluginId : String} {f : Int64 → Handler PluginSession}
    (hrole : r.input.role = "player") (hroom : Room r n v)
    (hf : ∀ slot w, w ⊆ v → r.Ready n (some slot) w →
      (f slot).Relies (Watched pluginId r.sessionId n r)
        (seats r.sessionId) (r.Reseats n) r.Expects w) :
    (chosenSlot r.sessionId r.input.slotIndex >>= f).Relies
      (Watched pluginId r.sessionId n r) (seats r.sessionId) (r.Reseats n) r.Expects v := by
  cases hindex : r.input.slotIndex with
  | some idx =>
    refine hf idx v (Finset.Subset.refl v) (fun _ => ⟨hroom, ?_⟩)
    rw [hindex]
  | none =>
    refine Prog.relies_query (fun s hs hv slot hslot => ?_)
    cases hslot
    refine hf _ _ (hv hrole) (fun _ => ⟨hroom.mono (hv hrole), ?_⟩)
    rw [hindex]
    intro a ha heq
    have hmem := mem_slots.mpr ⟨a, (mem_others.mp ha).1, heq⟩
    refine slotAfter_not_mem (fun hlast => ?_) hmem
    obtain ⟨b, hb, hbslot⟩ := mem_slots.mp hlast
    exact hs.2.2 hrole hindex b hb hbslot

theorem relies_assign {pluginId : String} (hmax : plugin.maxParticipants = n) (hn : 0 < n)
    (hheld : r.input.role = "player" →
      holdsRole session.participants r.input.userId "player" = true → Room r n v) :
    (r.assign plugin session).Relies (Watched pluginId r.sessionId n r) (seats r.sessionId)
      (r.Reseats n) r.Expects v := by
  unfold AssignRequest.assign
  rw [Prog.require_bind]
  split
  · rename_i hrole
    unfold slotFor
    rcases hrole with hplayer | hspectator
    · rw [if_pos hplayer]
      simp only [bind_assoc, pure_bind]
      refine relies_checkCapacity hmax hn hplayer (hheld hplayer) (fun w _ hroom => ?_)
      refine relies_chosenSlot hplayer hroom (fun slot w' _ hready => ?_)
      exact relies_finish hready
    · have hne : r.input.role ≠ "player" := by
        rw [hspectator]
        decide
      rw [if_neg hne, pure_bind]
      exact relies_finish (fun h => absurd h hne)
  · trivial

theorem relies_entered {pluginId : String} (hmax : plugin.maxParticipants = n) (hn : 0 < n)
    (hheld : r.input.role = "player" →
      holdsRole session.participants r.input.userId "player" = true → Room r n v) :
    (r.entered plugin session).Relies (Watched pluginId r.sessionId n r) (seats r.sessionId)
      (r.Reseats n) r.Expects v := by
  have hquiet : (Prog.require (session.pluginId = r.pluginId)
      (AppError.notFound "session not found for this plugin")).Preserves
      (fun s : Server => s) := Prog.preserves_require _ _
  refine Prog.relies_bind (preserves_requireSessionAccess _ _) keeps_requireSessionAccess
    (fun _ w _ hw => ?_)
  refine Prog.relies_bind (Prog.preserves_require _ _) hquiet.keeps_of_still
    (fun _ w' _ hw' => ?_)
  refine relies_assign hmax hn (fun hrole hheld' => ?_)
  exact ((hheld hrole hheld').mono (hw hrole)).mono (hw' hrole)

theorem holdsRole_orderBy {participants : List ParticipantRow} {s : Server} {userId : String}
    (h : participants = Table.orderBy ParticipantRow.joinedAt
      (s.participants.filter (fun p => p.sessionId = sessionId)))
    (hheld : holdsRole participants userId "player" = true) :
    ∃ a ∈ seats sessionId s, a.1 = userId := by
  obtain ⟨p, hp, hmatch⟩ := List.any_eq_true.mp hheld
  rw [h] at hp
  have hrow := (List.mem_insertionSort _).mp hp
  rw [List.mem_filter, decide_eq_true_eq] at hrow
  rw [Bool.and_eq_true, decide_eq_true_eq, decide_eq_true_eq] at hmatch
  exact ⟨seatOf p, mem_seats.mpr ⟨p, hrow.1, hrow.2, hmatch.2, rfl⟩, hmatch.1⟩

theorem preserves_writeParticipant (hne : sessionId ≠ r.sessionId) {slotIndex : Option Int64} :
    (writeParticipant session r.sessionId r.input slotIndex).Preserves (seats sessionId) := by
  unfold writeParticipant
  split
  · refine (preserves_requireSessionAccess _ _).bind fun _ => ?_
    have hwrite : (writeRole r.sessionId r.input.userId r.input.role slotIndex).Preserves
        (seats sessionId) := preserves_writeCounted (fun _ => seats_update_of_ne hne)
    exact hwrite.bind fun _ => Prog.preserves_require _ _
  · refine (preserves_requireSessionAccess _ _).bind fun _ => ?_
    exact preserves_write (fun _ => seats_insert_of_ne (fun h => hne h.symm))

theorem preserves_slotFor {ν : Type} {view : Server → ν} :
    (slotFor plugin session r.sessionId r.input).Preserves view := by
  have hcapacity : (checkCapacity plugin session r.sessionId r.input.userId).Preserves view :=
    Prog.preserves_ite ((preserves_read _).bind fun _ => Prog.preserves_require _ _)
      (Prog.preserves_pure _)
  have hchosen : (chosenSlot r.sessionId r.input.slotIndex).Preserves view := by
    cases r.input.slotIndex with
    | some idx => exact Prog.preserves_pure _
    | none => exact preserves_read _
  exact Prog.preserves_ite
    (hcapacity.bind fun _ => hchosen.bind fun _ => Prog.preserves_pure _) (Prog.preserves_pure _)

theorem preserves_serve_of_ne (hne : sessionId ≠ r.sessionId) :
    r.serve.Preserves (seats sessionId) := by
  rw [r.serve_eq]
  refine (preserves_getPlugin _).bind fun plugin => (preserves_fetch _).bind fun _ => ?_
  refine (preserves_read _).bind fun row => (preserves_read _).bind fun participants => ?_
  refine (preserves_requireSessionAccess _ _).bind fun _ => ?_
  refine (Prog.preserves_require _ _).bind fun _ => (Prog.preserves_require _ _).bind fun _ => ?_
  refine preserves_slotFor.bind fun slotIndex => (Prog.preserves_require _ _).bind fun _ => ?_
  exact (preserves_writeParticipant hne).bind fun _ => preserves_announceRole

theorem Registered.withParticipants {pluginId : String} {s : Server}
    {rows : List ParticipantRow} (h : Registered pluginId sessionId n s)
    (hkeys : (rows.map participantKey).Nodup) :
    Registered pluginId sessionId n { s with participants := rows } where
  keys := hkeys
  session := h.session
  plugin := h.plugin

theorem keeps_writeParticipant {pluginId : String} {slotIndex : Option Int64} :
    (writeParticipant session r.sessionId r.input slotIndex).Maintains
      (Registered pluginId sessionId n) := by
  unfold writeParticipant
  split
  · refine Prog.Keeps.bind keeps_requireSessionAccess (fun _ _ => ?_)
    have hwrite : (writeRole r.sessionId r.input.userId r.input.role slotIndex).Maintains
        (Registered pluginId sessionId n) := by
      refine Prog.keeps_statement (fun s hs => hs.withParticipants ?_) (fun _ _ _ _ => trivial)
      have hkeys : (Table.update participantKey (r.sessionId, r.input.userId)
          (fun p => { p with role := r.input.role, slotIndex := slotIndex })
          s.participants).map participantKey = s.participants.map participantKey :=
        Table.map_key_update (fun _ _ => rfl)
      rw [hkeys]
      exact hs.keys
    exact hwrite.bind fun _ _ => Prog.keeps_require.mono (fun _ _ => trivial)
  · refine Prog.Keeps.bind keeps_requireSessionAccess (fun _ _ => ?_)
    refine Prog.keeps_statement (fun s hs => ?_) (fun _ _ _ _ => trivial)
    dsimp only
    split
    · exact hs
    · rename_i hcheck
      refine hs.withParticipants ?_
      rw [List.map_append, List.map_singleton, ← List.concat_eq_append]
      refine hs.keys.concat (fun hmem => ?_)
      obtain ⟨p, hp, hkey⟩ := List.mem_map.mp hmem
      have hhas : Table.has participantKey (r.sessionId, r.input.userId) s.participants = true :=
        Table.has_iff.mpr ⟨p, hp, hkey⟩
      rw [new_of_unique hcheck] at hhas
      cases hhas

theorem keeps_serve {pluginId : String} :
    r.serve.Maintains (Registered pluginId sessionId n) := by
  have hstill : ∀ {α : Type} {p : Handler α}, p.Preserves (fun s => s) →
      p.Maintains (Registered pluginId sessionId n) := fun h => h.keeps_of_still
  have hslot : ∀ plugin session,
      (slotFor plugin session r.sessionId r.input).Preserves (fun s => s) :=
    fun _ _ => preserves_slotFor
  have hsend : ∀ plugin ids data, (broadcastPluginEvent (some plugin) (some ids)
      "plugin.role_changed" data).Maintains (Registered pluginId sessionId n) :=
    fun _ _ _ => Prog.keeps_modify (fun s hs => ⟨hs.keys, hs.session, hs.plugin⟩)
  rw [r.serve_eq]
  refine (hstill (preserves_getPlugin _)).bind fun plugin _ => ?_
  refine (hstill (preserves_fetch _)).bind fun _ _ => ?_
  refine (hstill (preserves_read _)).bind fun row _ => ?_
  refine (hstill (preserves_read _)).bind fun participants _ => ?_
  refine keeps_requireSessionAccess.bind fun _ _ => ?_
  refine (hstill (Prog.preserves_require _ _)).bind fun _ _ => ?_
  refine (hstill (Prog.preserves_require _ _)).bind fun _ _ => ?_
  refine (hstill (hslot _ _)).bind fun slotIndex _ => ?_
  refine (hstill (Prog.preserves_require _ _)).bind fun _ _ => ?_
  refine keeps_writeParticipant.bind fun _ _ => ?_
  refine (hstill (preserves_read _)).bind fun ids _ => ?_
  refine (hstill (preserves_getSession _)).bind fun updated _ => ?_
  exact (hsend _ _ _).bind fun _ _ => trivial

theorem preserves_entered (h : session.pluginId ≠ r.pluginId) :
    (r.entered plugin session).Preserves (seats sessionId) := by
  refine (preserves_requireSessionAccess _ _).bind fun _ => ?_
  rw [Prog.require_bind, if_neg h]
  exact Prog.preserves_fail _

theorem looks_assignRequest {pluginId : String} (hn : 0 < n) :
    r.serve.Looks (fun s => Registered pluginId r.sessionId n s ∧ Seated n (seats r.sessionId s))
      (Watched pluginId r.sessionId n r) (seats r.sessionId) (r.Reseats n) r.Expects
      r.HasRead := by
  rw [r.serve_eq]
  have hplugin : (getPlugin r.pluginId).Keeps
      (fun s => Registered pluginId r.sessionId n s ∧ Seated n (seats r.sessionId s))
      (fun plugin => r.pluginId = pluginId → plugin.maxParticipants = n) := by
    refine Prog.keeps_query (fun s hs plugin hfound heq => ?_)
    split at hfound
    · rename_i p hlookup
      cases hfound
      exact hs.1.plugin plugin (heq ▸ hlookup)
    · cases hfound
  have hrow : (getSessionRow r.sessionId).Keeps
      (fun s => Registered pluginId r.sessionId n s ∧ Seated n (seats r.sessionId s))
      (fun row => row.pluginId = pluginId) := by
    refine Prog.keeps_query (fun s hs row hfound => ?_)
    split at hfound
    · rename_i p hlookup
      cases hfound
      exact hs.1.session row hlookup
    · cases hfound
  refine Prog.looks_bind (preserves_getPlugin _) hplugin (fun plugin hmax => ?_)
  refine Prog.looks_bind (preserves_fetch _) (preserves_fetch _).keeps_of_still (fun _ _ => ?_)
  refine Prog.looks_bind (preserves_read _) hrow (fun row hregistered => ?_)
  by_cases hid : r.pluginId = pluginId
  · refine Prog.looks_query (fun s hs participants hread => .inr ⟨⟨plugin, _, .refl⟩, ?_⟩)
    cases hread
    refine relies_entered (hmax hid) hn (fun _ hheld => ?_)
    obtain ⟨a, ha, huser⟩ := holdsRole_orderBy rfl hheld
    exact room_of_seat hs.2 ha huser
  · refine Prog.looks_of_preserves ((preserves_read _).bind fun _ => preserves_entered ?_)
    exact fun h => hid (h.symm.trans hregistered)

end

section

variable {ι : Type} [DecidableEq ι] {req : ι → AssignRequest} {pluginId sessionId : String}
  {n : Int} {env : Server → Server → Prop} {c d : Crowd ι Server AppError PluginSession}

structure Uncontested (req : ι → AssignRequest) (sessionId : String)
    (x : Crowd ι Server AppError PluginSession) (i : ι) (t : Server) : Prop where
  alone : ¬ seats sessionId t ⊆ seats sessionId x.state → ∀ j, j ≠ i →
    (req j).input.role = "player" → ¬ Prog.Ahead (seats sessionId) (req j).HasRead (x.threads j)
  named : ∀ idx, (req i).input.role = "player" → (req i).input.slotIndex = some idx →
    seats sessionId t ≠ seats sessionId x.state →
    ∀ a ∈ others (req i).input.userId (seats sessionId x.state), a.2 ≠ some idx
  last : Prog.Ahead (seats sessionId) (req i).HasRead (x.threads i) →
    (req i).Counts sessionId x.state

omit [DecidableEq ι] in
theorem considerate_assigns :
    Crowd.Considerate (Registered pluginId sessionId n)
      (fun i => Watched pluginId sessionId n (req i)) (seats sessionId) (Seated n)
      (fun i => (req i).Reseats n) (fun i => (req i).Expects) (fun i => (req i).HasRead)
      (Uncontested req sessionId) where
  order := fun _ => inferInstance
  after := by
    rintro i p q s t ⟨plugin, session, hlater⟩ hstep
    exact ⟨plugin, session, hlater.step hstep⟩
  here := fun ha hahead hs hv => ⟨hs, hv, ha.last hahead⟩
  sees := by
    intro x i t j v ha hj hahead _ hexpects hrole
    by_cases hsub : seats sessionId t ⊆ seats sessionId x.state
    · exact hsub.trans (hexpects hrole)
    · exact absurd hahead (ha.alone hsub j hj hrole)
  good := by
    intro x i t ha hv hmove
    by_cases hsame : seats sessionId t = seats sessionId x.state
    · rw [hsame]
      exact hv
    · obtain ⟨slotIndex, ht, hready⟩ := hmove
      rw [ht]
      exact hready.seated hv (fun idx hrole hindex => ha.named idx hrole hindex hsame)

omit [DecidableEq ι] in
theorem watching_assigns (hn : 0 < n) (hfirst : Registered pluginId sessionId n c.state)
    (hseated : Seated n (seats sessionId c.state)) (hstart : ∀ i, c.threads i = (req i).serve) :
    Crowd.Watching (Registered pluginId sessionId n)
      (fun i => Watched pluginId sessionId n (req i)) (seats sessionId) (Seated n)
      (fun i => (req i).Reseats n) (fun i => (req i).Expects) (fun i => (req i).HasRead) c where
  state := hfirst
  good := hseated
  keeps := by
    intro i
    rw [hstart i]
    exact keeps_serve
  threads := by
    intro i
    rw [hstart i]
    by_cases hi : sessionId = (req i).sessionId
    · subst hi
      exact .inl (looks_assignRequest hn)
    · exact .inl (Prog.looks_of_preserves (preserves_serve_of_ne hi))

def players (sessionId : String) (s : Server) : List ParticipantRow :=
  s.participants.filter (isPlayer sessionId)

def WellSeated (sessionId : String) (n : Int) (s : Server) : Prop :=
  ((players sessionId s).length : Int) ≤ n ∧
    (players sessionId s).Pairwise (fun p q => p.slotIndex ≠ q.slotIndex)

def asks (userId : String) (slotIndex : Option Int64) : AssignRequest :=
  { pluginId := "40", sessionId := "0", auth := { userId := userId }
    input := { userId := userId, role := "player", slotIndex := slotIndex } }

theorem opened_registered : Registered "40" "0" 2 opened where
  keys := by decide +kernel
  session := by
    intro row hrow
    have hall : ∀ r ∈ opened.sessions, r.pluginId = "40" := by decide +kernel
    exact hall row (Table.lookup_mem hrow)
  plugin := by
    intro p hp
    have hall : ∀ q ∈ opened.plugins, q.maxParticipants = 2 := by decide +kernel
    exact hall p (Table.lookup_mem hp)

end

end Vokusz.Plugins
