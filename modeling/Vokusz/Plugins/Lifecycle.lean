import Vokusz.Lib.Snapshot
import Vokusz.Plugins.Sessions

namespace Vokusz.Plugins

open Lib Db Permissions Handler

def stateOf (sessionId : String) (s : Server) : Option String :=
  (Table.lookup SessionRow.id sessionId s.sessions).map SessionRow.state

inductive Advance : String → String → Prop
  | start : Advance "lobby" "running"
  | cancel : Advance "lobby" "ended"
  | finish : Advance "running" "ended"

theorem advance_iff {stored asked : String} :
    Advance stored asked ↔ legalTransition stored asked = true := by
  constructor
  · intro h
    cases h with
    | start => rfl
    | cancel => rfl
    | finish => rfl
  · intro h
    simp only [legalTransition, Bool.or_eq_true, Bool.and_eq_true, decide_eq_true_eq] at h
    rcases h with (⟨rfl, rfl⟩ | ⟨rfl, rfl⟩) | ⟨rfl, rfl⟩
    · exact .start
    · exact .finish
    · exact .cancel

def Moves (asked : String) (v w : Option String) : Prop :=
  ∃ st, v = some st ∧ Advance st asked ∧ w = some asked

def Open (asked : String) (v : Option String) : Prop :=
  v = some asked ∨ ∃ st, v = some st ∧ Advance st asked

theorem not_advance_ended {asked : String} : ¬ Advance "ended" asked := by
  intro h
  have hlegal := advance_iff.mp h
  simp [legalTransition] at hlegal

theorem Advance.leaves_open {st moved seen asked : String} (hmove : Advance st moved)
    (hseen : Advance seen asked) (h : moved = "ended" → asked ≠ "running") :
    Open asked (some moved) := by
  cases hmove with
  | start =>
    cases hseen with
    | start => exact .inl rfl
    | cancel => exact .inr ⟨_, rfl, .finish⟩
    | finish => exact .inr ⟨_, rfl, .finish⟩
  | cancel =>
    cases hseen with
    | start => exact absurd rfl (h rfl)
    | cancel => exact .inl rfl
    | finish => exact .inl rfl
  | finish =>
    cases hseen with
    | start => exact absurd rfl (h rfl)
    | cancel => exact .inl rfl
    | finish => exact .inl rfl

def StaysOpen (asked : String) (v w : Option String) : Prop := Open asked v → Open asked w

instance (asked : String) : IsPreorder (Option String) (StaysOpen asked) where
  refl _ := id
  trans _ _ _ h h' := h' ∘ h

structure UpdateState where
  pluginId : String
  sessionId : String
  auth : AuthUser
  state : String

namespace UpdateState

variable (r : UpdateState)

def serve : Handler PluginSession := updateSessionState r.pluginId r.sessionId r.auth r.state

def judge (plugin : Plugin) (session : PluginSession) : Handler PluginSession := do
  Prog.require (session.hostUserId = r.auth.userId)
    (.forbidden "only the session host can change state")
  Prog.require (legalTransition session.state r.state)
    (.badRequest ("invalid state transition: " ++ session.state ++ " -> " ++ r.state))
  finishUpdate plugin r.sessionId r.state

def judged (plugin : Plugin) (row : SessionRow) : Handler PluginSession :=
  afterRow r.pluginId r.sessionId r.auth plugin row r.judge

theorem serve_eq : r.serve =
    getPlugin r.pluginId >>= fun plugin =>
    fetch (requireMembership plugin.spaceId r.auth.userId) >>= fun _ =>
    getSessionRow r.sessionId >>= fun row =>
    r.judged plugin row :=
  accessedSession_bind r.pluginId r.sessionId r.auth r.judge

def Granted (p : Handler PluginSession) : Prop :=
  ∃ plugin row, Advance row.state r.state ∧ Prog.Later (r.judged plugin row) p

end UpdateState

section

variable {sessionId : String} {r : UpdateState}

theorem stateOf_write (s : Server) (state : String) :
    stateOf sessionId { s with
      sessions := Table.update SessionRow.id sessionId
        (fun row => { row with state := state, updatedAt := s.app.now }) s.sessions } =
      (stateOf sessionId s).map (fun _ => state) := by
  have hlookup : Table.lookup SessionRow.id sessionId (Table.update SessionRow.id sessionId
      (fun row => { row with state := state, updatedAt := s.app.now }) s.sessions) = _ :=
    Table.lookup_update (fun _ h => h)
  simp only [stateOf, hlookup, Option.map_map]
  rfl

theorem stateOf_write_ne {other : String} (hne : sessionId ≠ other) (s : Server) (state : String) :
    stateOf sessionId { s with
      sessions := Table.update SessionRow.id other
        (fun row => { row with state := state, updatedAt := s.app.now }) s.sessions } =
      stateOf sessionId s := by
  have hlookup : Table.lookup SessionRow.id sessionId (Table.update SessionRow.id other
      (fun row => { row with state := state, updatedAt := s.app.now }) s.sessions) = _ :=
    Table.lookup_update_ne hne (fun _ h => h)
  simp only [stateOf, hlookup]

theorem preserves_announced (plugin : Plugin) :
    (getSession r.sessionId >>= announceState plugin r.sessionId).Preserves
      (stateOf sessionId) :=
  (preserves_getSession _).bind fun _ => preserves_announceState (fun _ _ => rfl)

theorem finishUpdate_eq (plugin : Plugin) (state : String) :
    finishUpdate plugin sessionId state =
      writeState sessionId state >>= fun _ =>
      getSession sessionId >>= announceState plugin sessionId := by
  simp only [finishUpdate, updateState, bind_assoc]

theorem preserves_finishUpdate (hne : sessionId ≠ r.sessionId) (plugin : Plugin) :
    (finishUpdate plugin r.sessionId r.state).Preserves (stateOf sessionId) := by
  rw [finishUpdate_eq]
  have hwrite : (writeState r.sessionId r.state).Preserves (stateOf sessionId) :=
    preserves_write (fun s => stateOf_write_ne hne s r.state)
  exact hwrite.bind fun _ => preserves_announced plugin

theorem relies_finishUpdate (plugin : Plugin) {v : Option String} (hv : Open r.state v) :
    (finishUpdate plugin r.sessionId r.state).Relies (fun _ => True) (stateOf r.sessionId)
      (Moves r.state) (StaysOpen r.state) v := by
  rw [finishUpdate_eq]
  have hrest : (getSession r.sessionId >>= announceState plugin r.sessionId).Preserves
      (stateOf r.sessionId) := preserves_announced plugin
  refine Prog.relies_statement (fun s _ e he => by cases he) (fun s _ hs c _ => ?_)
  have hwritten := @stateOf_write r.sessionId s r.state
  rcases hs hv with hsame | ⟨st, hst, hlegal⟩
  · refine .inl ⟨?_, Prog.relies_of_preserves hrest⟩
    rw [hsame] at hwritten ⊢
    exact hwritten
  · refine .inr ⟨⟨st, hst, hlegal, ?_⟩, hrest⟩
    rw [hst] at hwritten
    exact hwritten

theorem relies_judge {plugin : Plugin} {session : PluginSession} {v : Option String}
    (hv : Open r.state v) :
    (r.judge plugin session).Relies (fun _ => True) (stateOf r.sessionId) (Moves r.state)
      (StaysOpen r.state) v := by
  have hquiet : ∀ (c : Prop) [Decidable c] (e : AppError),
      (Prog.require c e : Handler Unit).Preserves (stateOf r.sessionId) :=
    fun _ _ _ => Prog.preserves_require _ _
  refine Prog.relies_bind (hquiet _ _) (Prog.keeps_require) (fun _ w _ hw => ?_)
  refine Prog.relies_bind (hquiet _ _) (Prog.keeps_require) (fun _ w' _ hw' => ?_)
  exact relies_finishUpdate plugin (hw' (hw hv))

theorem preserves_judge {plugin : Plugin} {session : PluginSession}
    (h : ¬ Advance session.state r.state) :
    (r.judge plugin session).Preserves (stateOf sessionId) := by
  refine (Prog.preserves_require _ _).bind fun _ => ?_
  rw [Prog.require_bind, if_neg (fun hlegal => h (advance_iff.mpr hlegal))]
  exact Prog.preserves_fail _

theorem preserves_afterRow {α : Type} {pluginId : String} {auth : AuthUser} {plugin : Plugin}
    {row : SessionRow} {rest : Plugin → PluginSession → Handler α} {ν : Type}
    {view : Server → ν} (h : ∀ session, session.state = row.state →
      (rest plugin session).Preserves view) :
    (afterRow pluginId sessionId auth plugin row rest).Preserves view := by
  refine (preserves_read _).bind fun participants => ?_
  refine (preserves_requireSessionAccess _ _).bind fun _ => ?_
  exact (Prog.preserves_require _ _).bind fun _ => h _ rfl

theorem relies_judged {plugin : Plugin} {row : SessionRow} {v : Option String}
    (hv : Open r.state v) :
    (r.judged plugin row).Relies (fun _ => True) (stateOf r.sessionId) (Moves r.state)
      (StaysOpen r.state) v := by
  refine Prog.relies_bind (preserves_read _) (Prog.keeps_true _) (fun _ w _ hw => ?_)
  refine Prog.relies_bind (preserves_requireSessionAccess _ _) (Prog.keeps_true _)
    (fun _ w' _ hw' => ?_)
  refine Prog.relies_bind (Prog.preserves_require _ _) (Prog.keeps_true _)
    (fun _ w'' _ hw'' => ?_)
  exact relies_judge (hw'' (hw' (hw hv)))

theorem preserves_serve (hne : sessionId ≠ r.sessionId) :
    r.serve.Preserves (stateOf sessionId) := by
  rw [r.serve_eq]
  refine (preserves_getPlugin _).bind fun plugin => (preserves_fetch _).bind fun _ => ?_
  refine (preserves_read _).bind fun row => preserves_afterRow fun session _ => ?_
  refine (Prog.preserves_require _ _).bind fun _ => (Prog.preserves_require _ _).bind fun _ => ?_
  exact preserves_finishUpdate hne plugin

theorem looks_serve {I : Server → Prop} : r.serve.Looks I (fun _ => True) (stateOf r.sessionId)
    (Moves r.state) (StaysOpen r.state) r.Granted := by
  rw [r.serve_eq]
  have htrivial : ∀ {α : Type} (f : Server → Except AppError α),
      (Prog.query App.databaseFault f).Maintains I :=
    fun f => Prog.keeps_query (fun _ _ _ _ => trivial)
  refine Prog.looks_bind (preserves_getPlugin _) (htrivial _) (fun plugin _ => ?_)
  refine Prog.looks_bind (preserves_fetch _) (htrivial _) (fun _ _ => ?_)
  refine Prog.looks_query (fun s _ row hrow => ?_)
  have hstored : stateOf r.sessionId s = some row.state := by
    cases hlookup : Table.lookup SessionRow.id r.sessionId s.sessions with
    | none =>
      rw [hlookup] at hrow
      cases hrow
    | some found =>
      rw [hlookup] at hrow
      cases hrow
      rw [stateOf, hlookup, Option.map_some]
  by_cases hlegal : Advance row.state r.state
  · exact .inr ⟨⟨plugin, row, hlegal, .refl⟩, relies_judged (.inr ⟨row.state, hstored, hlegal⟩)⟩
  · have hquiet : (r.judged plugin row).Preserves (stateOf r.sessionId) := by
      refine preserves_afterRow (fun session hsession => preserves_judge ?_)
      rw [hsession]
      exact hlegal
    exact .inl (Prog.looks_of_preserves hquiet)

end

section

variable {ι : Type} [DecidableEq ι] {req : ι → UpdateState} {sessionId : String}
  {env : Server → Server → Prop} {c d e : Crowd ι Server AppError PluginSession}

def NotOvertaken (req : ι → UpdateState) (sessionId : String)
    (x : Crowd ι Server AppError PluginSession) (i : ι) (t : Server) : Prop :=
  stateOf sessionId t = some "ended" → stateOf sessionId x.state ≠ some "ended" →
    ∀ j, j ≠ i → (req j).state = "running" →
      ¬ Prog.Ahead (stateOf sessionId) (req j).Granted (x.threads j)

omit [DecidableEq ι] in
theorem considerate_updates : Crowd.Considerate (fun _ => True) (fun _ _ => True)
    (stateOf sessionId) (fun _ => True) (fun i => Moves (req i).state)
    (fun i => StaysOpen (req i).state) (fun i => (req i).Granted)
    (NotOvertaken req sessionId) where
  order := fun _ => inferInstance
  after := by
    rintro i p q s t ⟨plugin, row, hlegal, hlater⟩ hstep
    exact ⟨plugin, row, hlegal, hlater.step hstep⟩
  here := fun _ _ _ _ => trivial
  good := fun _ _ _ => trivial
  sees := by
    rintro x i t j v hallowed hj hahead ⟨st, hst, hmove, ht⟩ hopen hv
    obtain ⟨plugin, row, hgranted, -⟩ := hahead.1
    rw [ht]
    refine hmove.leaves_open hgranted (fun hended hrunning => ?_)
    rw [hended] at hmove ht
    refine hallowed ht ?_ j hj hrunning hahead
    rw [hst]
    rintro heq
    cases heq
    exact not_advance_ended hmove

omit [DecidableEq ι] in
theorem watching_updates (hstart : ∀ i, c.threads i = (req i).serve) :
    Crowd.Watching (fun _ => True) (fun _ _ => True) (stateOf sessionId) (fun _ => True)
      (fun i => Moves (req i).state) (fun i => StaysOpen (req i).state)
      (fun i => (req i).Granted) c where
  state := trivial
  good := trivial
  keeps := fun i => Prog.keeps_true _
  threads := by
    intro i
    rw [hstart i]
    by_cases hi : sessionId = (req i).sessionId
    · rw [hi]
      exact .inl looks_serve
    · exact .inl (Prog.looks_of_preserves (preserves_serve hi))

def hostAsks (start : Bool) : UpdateState :=
  { pluginId := "40", sessionId := "0", auth := { userId := "1" }
    state := if start then "running" else "ended" }

end

end Vokusz.Plugins
