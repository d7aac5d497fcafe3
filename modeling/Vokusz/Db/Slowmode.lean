import Mathlib.Algebra.Order.Group.Int
import Mathlib.Algebra.Order.Group.Unbundled.Abs
import Mathlib.Data.List.Pairwise
import Vokusz.Db.Messages
import Vokusz.Lib.Linearize
import Vokusz.Lib.Transaction

namespace Vokusz.Db.Messages

open Lib

def lastSent (channelId userId : String) (db : Tables) : Option Int :=
  (Table.lookup cooldownKey (channelId, userId) db.messageCooldowns).map MessageCooldown.lastSentMs

section

def recordSend (channelId authorId : String) (now : Int) (db : Tables) : Tables :=
  { db with
    messageCooldowns := Table.upsert cooldownKey
      { channelId := channelId, userId := authorId, lastSentMs := now }
      (fun c => { c with lastSentMs := now }) db.messageCooldowns }

def insertStatements (row : MessageRow) (cooldownMs now : Int) : Prog Tables AppError Unit := do
  let admitted ← Prog.statement App.databaseFault (fun db =>
    match cooldownRefusal db row.channelId row.authorId cooldownMs now with
    | some _ => (.ok false, db)
    | none => (.ok true, recordSend row.channelId row.authorId now db))
  if !admitted then
    let last ← Prog.query App.databaseFault (fun db =>
      match lastSent row.channelId row.authorId db with
      | some last => .ok last
      | none => .error AppError.rowNotFound)
    .fail (.rateLimited (divCeil (max (last + cooldownMs - now) 1).toNat 1000))
  else
    Prog.statement App.databaseFault (fun db =>
      if !referencesExist db row then (.error AppError.foreignKeyViolation, db)
      else if db.hasMessage row.id then (.error AppError.uniqueViolation, db)
      else (.ok (), { db with messages := db.messages ++ [row] }))
    if row.threadId.isNone then
      Prog.statement App.databaseFault (fun db =>
        (.ok (), db.setLastMessage row.channelId row.id))
    else return ()

variable {row : MessageRow} {cooldownMs now : Int} {db t : Tables}

theorem abrupt_insertStatements : (insertStatements row cooldownMs now).Abrupt := by
  refine Prog.abrupt_statement.bind (fun admitted => ?_)
  cases admitted with
  | false => exact Prog.abrupt_query.bind (fun last => trivial)
  | true =>
    refine Prog.abrupt_statement.bind (fun _ => ?_)
    cases row.threadId with
    | none => exact Prog.abrupt_statement
    | some tid => trivial

theorem exec_insertStatements :
    (insertStatements row cooldownMs now).exec db = (.ok (), t) ↔
      insertMessage row cooldownMs now db = (.ok (), t) := by
  unfold insertStatements insertMessage
  rw [Prog.exec_bind, Prog.exec_statement]
  cases hcooled : cooldownRefusal db row.channelId row.authorId cooldownMs now with
  | some last =>
    simp only [Bool.not_false, if_true, Prog.exec_bind, Prog.exec_query]
    cases lastSent row.channelId row.authorId db <;> simp
  | none =>
    simp only [Bool.not_true, Bool.false_eq_true, if_false]
    rw [Prog.exec_bind, Prog.exec_statement]
    have hrefs : referencesExist (recordSend row.channelId row.authorId now db) row =
        referencesExist db row := rfl
    have hmessage : (recordSend row.channelId row.authorId now db).hasMessage row.id =
        db.hasMessage row.id := rfl
    rw [hrefs, hmessage]
    cases referencesExist db row with
    | false => simp
    | true =>
      cases db.hasMessage row.id with
      | true => simp
      | false =>
        unfold storeMessage
        cases row.threadId with
        | none => rfl
        | some tid => rfl

theorem insertStatements_commit :
    (insertStatements row cooldownMs now).Ends db (.ok ()) t ↔
      insertMessage row cooldownMs now db = (.ok (), t) :=
  abrupt_insertStatements.ends_ok_iff.trans exec_insertStatements

end

section

variable {channelId authorId : String} {cooldownMs now : Int} {db : Tables} {row : MessageRow}

theorem cooldownRefusal_none (hc : cooldownMs ≠ 0) :
    cooldownRefusal db channelId authorId cooldownMs now = none ↔
      ∀ last, lastSent channelId authorId db = some last → last + cooldownMs ≤ now := by
  unfold cooldownRefusal lastSent
  cases Table.lookup cooldownKey (channelId, authorId) db.messageCooldowns with
  | none => simp
  | some c =>
    simp only [hc, false_or, Option.map_some, Option.some.injEq, forall_eq']
    constructor
    · intro h
      split at h
      · omega
      · cases h
    · intro h
      rw [if_pos (by omega)]

theorem lastSent_storeMessage :
    lastSent row.channelId row.authorId (storeMessage row now db) = some now := by
  let sent : MessageCooldown :=
    { channelId := row.channelId, userId := row.authorId, lastSentMs := now }
  have hrows : (storeMessage row now db).messageCooldowns =
      Table.upsert cooldownKey sent (fun c => { c with lastSentMs := now })
        db.messageCooldowns := by
    unfold storeMessage
    split <;> rfl
  have hkey : cooldownKey sent = (row.channelId, row.authorId) := rfl
  unfold lastSent
  rw [hrows, ← hkey]
  cases hlast : Table.lookup cooldownKey (cooldownKey sent) db.messageCooldowns with
  | some c =>
    have hf : ∀ c, cooldownKey { c with lastSentMs := now } = cooldownKey c := fun _ => rfl
    rw [Table.lookup_upsert_of_some hlast hf, if_pos rfl, Option.map_some]
  | none => rw [Table.lookup_upsert_of_none hlast, Option.map_some]

def createMessageTimed (channelId authorId : String) (spaceId : Option String)
    (input : CreateMessage) (cooldownMs : Int) : App (Nat × MessageRow) := do
  let id ← App.generateId
  let mentions ← mentionedUsers spaceId (Mentions.parseMentions input.content).usernames
  let now ← App.nowMillis
  let createdAt ← App.now
  App.execute (insertMessage (localRow id channelId authorId spaceId input mentions createdAt)
    (max cooldownMs 0) now)
  let row ← getMessageRow id
  return (now, row)

theorem createMessage_eq (spaceId : Option String) (input : CreateMessage) :
    createMessage channelId authorId spaceId input cooldownMs =
      Prod.snd <$> createMessageTimed channelId authorId spaceId input cooldownMs := by
  simp [createMessage, createMessageTimed]

def accepts (cooldownMs : Int) (v : Option Int) (now : Nat) (w : Option Int) : Prop :=
  (∀ last, v = some last → last + cooldownMs ≤ now) ∧ w = some (now : Int)

theorem createMessageTimed_acts (hc : 0 < cooldownMs) (spaceId : Option String)
    (input : CreateMessage) :
    (createMessageTimed channelId authorId spaceId input cooldownMs).Acts
      (fun s => lastSent channelId authorId s.db) (accepts cooldownMs) (fun now r => r.1 = now) := by
  refine Prog.acts_bind (App.preserves_generateId (fun _ _ => rfl)) (fun id => ?_)
  refine Prog.acts_bind (preserves_mentionedUsers _ _) (fun mentions => ?_)
  refine Prog.acts_bind (Prog.preserves_get _) (fun now => ?_)
  refine Prog.acts_bind (Prog.preserves_get _) (fun createdAt => ?_)
  refine Prog.acts_statement (fun s => ?_)
  dsimp only
  have hmax : max cooldownMs 0 = cooldownMs := max_eq_left hc.le
  rw [hmax]
  generalize hrow : localRow id channelId authorId spaceId input mentions createdAt = row
  have hkey : row.channelId = channelId ∧ row.authorId = authorId := by
    subst hrow
    exact ⟨rfl, rfl⟩
  obtain ⟨rfl, rfl⟩ := hkey
  rcases insertMessage_cases row cooldownMs now s.db with ⟨e, he⟩ | ⟨hok, -⟩
  · rw [he]
    exact rfl
  · rw [hok]
    have hadmitted := (insertable_of_insertMessage hok).1.1
    refine ⟨now, ⟨(cooldownRefusal_none hc.ne').mp hadmitted, lastSent_storeMessage⟩, ?_, ?_⟩
    · exact (App.preserves_lift _).bind (fun r => Prog.preserves_pure _)
    · exact (Prog.keeps_true _).bind (fun r _ => rfl)

theorem accepts_after {v w : Option Int} {nows : List Nat}
    (hruns : Runs (accepts cooldownMs) v nows w) (hc : 0 < cooldownMs) :
    ∀ last, v = some last → ∀ n ∈ nows, last + cooldownMs ≤ n := by
  induction hruns with
  | nil v =>
    intro last _ n hn
    cases hn
  | @cons v w x now nows hstep _ ih =>
    intro last hlast n hn
    have hnow : last + cooldownMs ≤ now := hstep.1 last hlast
    rcases List.mem_cons.mp hn with rfl | hn
    · exact hnow
    · have hrest : (now : Int) + cooldownMs ≤ n := ih now hstep.2 n hn
      omega

theorem accepts_apart {v w : Option Int} {nows : List Nat}
    (hruns : Runs (accepts cooldownMs) v nows w) (hc : 0 < cooldownMs) :
    nows.Pairwise (fun a b : Nat => cooldownMs ≤ |(a : Int) - b|) := by
  induction hruns with
  | nil v => exact List.Pairwise.nil
  | @cons v w x now nows hstep hrest ih =>
    refine List.Pairwise.cons (fun n hn => ?_) ih
    have hafter : (now : Int) + cooldownMs ≤ n := accepts_after hrest hc now hstep.2 n hn
    rw [abs_sub_comm]
    exact le_trans (by omega) (le_abs_self _)

end

section

variable {ι : Type} [DecidableEq ι] {channelId authorId : String} {cooldownMs : Int}
  {env : AppState → AppState → Prop} {spaceId : ι → Option String} {input : ι → CreateMessage}
  {c d : Crowd ι AppState AppError (Nat × MessageRow)}

theorem createMessage_slowmode (hc : 0 < cooldownMs)
    (henv : ∀ s t, env s t → lastSent channelId authorId t.db = lastSent channelId authorId s.db)
    (hstart : ∀ i, c.threads i =
      createMessageTimed channelId authorId (spaceId i) (input i) cooldownMs)
    (hrun : Crowd.Run env c d) :
    (∀ i j m n, i ≠ j → d.threads i = .ret m → d.threads j = .ret n →
      cooldownMs ≤ |(m.1 : Int) - n.1|) ∧
    ∀ row now db t e, (insertStatements row cooldownMs now).Ends db (.error e) t →
      lastSent row.channelId row.authorId t = lastSent row.channelId row.authorId db := by
  constructor
  · intro i j m n hij hm hn
    have hacts : ∀ i, (c.threads i).Acts (fun s => lastSent channelId authorId s.db)
        (accepts cooldownMs) (fun now r => r.1 = now) := by
      intro i
      rw [hstart i]
      exact createMessageTimed_acts hc (spaceId i) (input i)
    obtain ⟨history, hl⟩ := Crowd.linear_run (fun _ _ _ => True) (fun _ => acts_discipline)
      (fun _ _ _ _ => ⟨fun _ _ _ h => h, trivial⟩) henv hacts hrun
    obtain h | ⟨a, ha, rfl⟩ := hl.result (fun _ => acts_discipline) hm
    · cases h
    obtain h | ⟨b, hb, rfl⟩ := hl.result (fun _ => acts_discipline) hn
    · cases h
    have hapart := List.pairwise_map.mp (accepts_apart hl.acts hc)
    have hsymm : Std.Symm (fun x y : ι × Nat => cooldownMs ≤ |(x.2 : Int) - y.2|) :=
      ⟨fun x y h => (abs_sub_comm (x.2 : Int) y.2) ▸ h⟩
    exact hapart.forall ha hb (fun heq => hij (congrArg Prod.fst heq))
  · intro row now db t e hends
    rw [hends.error]

def slowChannel : AppState :=
  { db :=
      { users := [{ id := "1", username := "ann" }]
        channels := [{ id := "20", rateLimit := 5 }] }
    ext := Externals.fixed "2025-01-01 00:00:00"
    snowflake := 100 }

def hello : App (Nat × MessageRow) := createMessageTimed "20" "1" none { content := "hello" } 5000

def sixSecondsOn (s : AppState) : AppState := { s with clock := 6000 }

theorem slowChannel_slowmode :
    ∃ d m n, Crowd.Run (fun s t => t = sixSecondsOn s)
        { state := slowChannel, threads := fun _ : Bool => hello } d ∧
      d.threads true = .ret m ∧ d.threads false = .ret n ∧ (5000 : Int) ≤ |(m.1 : Int) - n.1| := by
  obtain ⟨m, s, hm⟩ : hello.Succeeds slowChannel := by decide +kernel
  obtain ⟨n, t, hn⟩ : hello.Succeeds (sixSecondsOn (hello.exec slowChannel).2) := by
    decide +kernel
  rw [hm] at hn
  let start : Crowd Bool AppState AppError (Nat × MessageRow) :=
    { state := slowChannel, threads := fun _ => hello }
  have hrun : Crowd.Run (fun s t => t = sixSecondsOn s) start
      { state := t
        threads := Function.update (Function.update start.threads true (.ret m)) false (.ret n) } :=
    ((Crowd.run_alone (c := start) (i := true) hm).tail (.outside (sixSecondsOn s) rfl)).trans
      (Crowd.run_alone hn)
  have hslow := createMessage_slowmode (by decide) (fun s t h => by rw [h]; rfl) (fun _ => rfl) hrun
  exact ⟨_, m, n, hrun, rfl, rfl, hslow.1 true false m n (by decide) rfl rfl⟩

end

end Vokusz.Db.Messages
