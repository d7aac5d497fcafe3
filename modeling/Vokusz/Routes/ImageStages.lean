import Vokusz.Lib.Stages
import Vokusz.Routes.Images

namespace Vokusz.Routes.Images

open Db Permissions
open Lib (Prog Stage)
open Lib.Prog (Follows Watches Throughout)
open Storage (ImageSlot FilePath isDataUri joined relativeToStorage canonicalTarget
  canonicalizeFrom isAvatarOf validateImageDataUri)

structure Stored (s : AppState) (url : String) (file : FilePath) : Prop where
  target : canonicalTarget s.storagePath s.files url = .ok file
  direct : ".." ∉ joined s.storagePath (relativeToStorage url)
  filed : ∃ dir name, file = s.storagePath ++ [dir, name]
  held : file ∈ s.files

def Standing (column : Tables → Option String) (url : String) (file : FilePath) (s : AppState) :
    Prop :=
  column s.db = some url ∧ file ∈ s.files

def leads (s : AppState) (old : Option String) (file : FilePath) : Bool :=
  old.any (fun url => canonicalTarget s.storagePath s.files url = .ok file &&
    s.storagePath.isPrefixOf file)

def clears (s : AppState) (slot : ImageSlot) (file : FilePath) : Bool :=
  isAvatarOf (s.storagePath ++ [slot.category]) slot.entityId file

def touches (value : Option String) : Bool := value.any (fun v => isDataUri v || v = "")

def imageStages (maxSize : Nat) (admission : Except AppError Unit) (drops clears : Bool)
    (value : Option String) : List Stage :=
  match value with
  | none => []
  | some v =>
    if isDataUri v then
      [{ asks := true }, { loses := drops }, { refuses := !(validateImageDataUri v maxSize).isOk },
        { refuses := !admission.isOk }, { loses := clears }, { asks := true }]
    else if v = "" then [{ asks := true }, { loses := drops }, { loses := clears }]
    else []

section

variable {s t : AppState} {I : AppState → Prop} {url : String} {file : FilePath}
variable {slot : ImageSlot} {column : App (Option String)} {old value : Option String}
variable {admission : Except AppError Unit} {maxSize : Nat} {drops lost : Bool}
variable {field : Tables → Option String}

def dropped (s : AppState) (old : Option String) : AppState :=
  { s with files := s.files.filter (fun f => !leads s old f) }

theorem mem_dropped : file ∈ (dropped s old).files ↔ file ∈ s.files ∧ leads s old file = false := by
  rw [dropped, List.mem_filter, Bool.not_eq_true']

theorem dropped_same (h : ∀ f ∈ s.files, leads s old f = false) : dropped s old = s := by
  have hfiles : s.files.filter (fun f => !leads s old f) = s.files := by
    rw [List.filter_eq_self]
    intro f hf
    rw [h f hf]
    rfl
  rw [dropped, hfiles]

theorem dropped_path {path : FilePath}
    (hpath : canonicalTarget s.storagePath s.files url = .ok path)
    (hinside : s.storagePath.isPrefixOf path = true) :
    dropped s (some url) = { s with files := s.files.filter (fun f => f ≠ path) } := by
  have hfiles : s.files.filter (fun f => !leads s (some url) f) =
      s.files.filter (fun f => f ≠ path) := by
    apply List.filter_congr
    intro f _
    cases hf : decide (f = path) with
    | true =>
      have hsame := of_decide_eq_true hf
      simp [leads, hpath, hsame, hinside]
    | false =>
      have hother := of_decide_eq_false hf
      simp [leads, hpath, hother, Ne.symm hother]
  rw [dropped, hfiles]

theorem statements_deleteFile (url : String) (s : AppState) :
    (Storage.deleteFile url).statements s = 0 := by
  unfold Storage.deleteFile
  change Prog.statements (Prog.bind _ _) s = 0
  simp only [Prog.get, Prog.bind, Prog.statements, id]
  cases canonicalTarget s.storagePath s.files url with
  | error e => cases e <;> rfl
  | ok path =>
    dsimp only
    rw [Prog.require_bind]
    split
    · rw [Prog.require_bind]
      split <;> rfl
    · rfl

theorem deleteFile_run (url : String) (s : AppState) :
    ((Storage.deleteFile url).exec s).2 = dropped s (some url) ∧
      ((Storage.deleteFile url).Throughout I none s ↔ I s ∧ I (dropped s (some url))) := by
  unfold Storage.deleteFile
  change (Prog.exec (Prog.bind _ _) s).2 = _ ∧ (Prog.Throughout I (Prog.bind _ _) none s ↔ _)
  simp only [Prog.get, Prog.bind, Prog.exec, Prog.Throughout, id]
  cases htarget : canonicalTarget s.storagePath s.files url with
  | error e =>
    have hsame : dropped s (some url) = s :=
      dropped_same (fun f _ => by simp [leads, htarget])
    rw [hsame]
    cases e <;> exact ⟨rfl, Iff.rfl⟩
  | ok path =>
    dsimp only
    rw [Prog.require_bind]
    split
    · next hinside =>
      rw [Prog.require_bind, dropped_path htarget hinside]
      split
      · exact ⟨rfl, ⟨fun h => ⟨h.1, h.2.2⟩, fun h => ⟨h.1, h.1, h.2⟩⟩⟩
      · next hmissing =>
        have hfiles : s.files.filter (fun f => f ≠ path) = s.files := by
          rw [List.filter_eq_self]
          intro f hf
          refine decide_eq_true (fun heq => hmissing ?_)
          rw [← heq]
          exact List.contains_iff_mem.mpr hf
        rw [hfiles]
        exact ⟨rfl, Iff.rfl⟩
    · next hinside =>
      have hsame : dropped s (some url) = s := by
        refine dropped_same (fun f _ => ?_)
        cases hf : decide (path = f) with
        | true =>
          rw [← of_decide_eq_true hf]
          simp [leads, hinside]
        | false =>
          have hother := of_decide_eq_false hf
          simp [leads, htarget, hother]
      rw [hsame]
      exact ⟨rfl, Iff.rfl⟩

theorem runs_dropOld (old : Option String) (s : AppState) :
    (dropOld (pure old)).Runs s () (dropped s old) 0 := by
  cases old with
  | none =>
    rw [dropped_same (fun _ _ => rfl)]
    exact ⟨rfl, rfl⟩
  | some url =>
    change ((Storage.deleteFile url).attempt >>= fun _ => pure ()).Runs s () _ 0
    have hattempt := Prog.exec_attempt (Storage.deleteFile url) s
    rw [(@deleteFile_run (fun _ => True) url s).1] at hattempt
    refine ⟨Prog.exec_bind_of_ok hattempt, ?_⟩
    rw [Prog.statements_bind hattempt, Prog.statements_attempt, statements_deleteFile]
    rfl

theorem throughout_dropOld (old : Option String) (s : AppState) :
    (dropOld (pure old)).Throughout I none s ↔ I s ∧ I (dropped s old) := by
  cases old with
  | none =>
    rw [dropped_same (fun _ _ => rfl)]
    exact ⟨fun h => ⟨h, h⟩, And.left⟩
  | some url =>
    obtain ⟨hexec, hthroughout⟩ := @deleteFile_run I url s
    change ((Storage.deleteFile url).attempt >>= fun _ => pure ()).Throughout I none s ↔ _
    rw [Prog.throughout_bind, Prog.throughout_attempt, hthroughout]
    constructor
    · exact And.left
    · intro h
      refine ⟨h, fun r t hrun => ?_⟩
      have hlast : (Storage.deleteFile url).attempt.failing none s = _ :=
        Prog.exec_attempt (Storage.deleteFile url) s
      rw [hlast, hexec] at hrun
      cases hrun
      exact h.2

theorem follows_lift {α : Type} (q : Query α) (s : AppState) :
    (MonadLiftT.monadLift q : App α).Follows s
      [{ asks := true, refuses := !(q s.db).isOk }] := by
  change (Prog.statement App.databaseFault (fun s : AppState => (q s.db, s))).Follows s _
  exact Prog.follows_statement (Bool.not_not _).symm

theorem watches_lift {α : Type} (q : Query α) (hs : I s) :
    (MonadLiftT.monadLift q : App α).Watches I s
      [{ asks := true, refuses := !(q s.db).isOk }] := by
  change (Prog.statement App.databaseFault (fun s : AppState => (q s.db, s))).Watches I s _
  exact Prog.watches_statement hs (fun _ => hs) (fun _ => ⟨fun _ => rfl, fun _ => hs⟩)

structure Reads (column : App (Option String)) (s : AppState) (old : Option String) : Prop where
  exec : column.exec s = (.ok old, s)
  follows : column.Follows s [{ asks := true }]
  watches : ∀ I : AppState → Prop, I s → column.Watches I s [{ asks := true }]
  keeps : ∀ I : AppState → Prop, column.Maintains I

theorem reads_field {α : Type} {q : Query α} {row : α} (field : α → Option String)
    (h : q s.db = .ok row) :
    Reads ((MonadLiftT.monadLift q : App α) >>= fun r => pure (field r)) s (field row) := by
  have hexec : (MonadLiftT.monadLift q : App α).exec s = (.ok row, s) := by rw [App.exec_lift, h]
  have hfollows := follows_lift q s
  have hok : (!(q s.db).isOk) = false := by rw [h]; rfl
  rw [hok] at hfollows
  refine ⟨Prog.exec_bind_of_ok hexec, ?_, fun I hs => ?_, fun I => ?_⟩
  · exact hfollows.bind (fun a t _ => Prog.follows_pure (field a))
  · have hwatches := watches_lift q hs
    rw [hok] at hwatches
    exact Watches.bind hfollows hwatches (fun a t _ ht _ => Prog.watches_pure (field a) ht)
  · exact Prog.Keeps.bind (Prog.keeps_query (fun _ _ _ _ => trivial)) (fun _ _ => trivial)

theorem follows_dropOld (hread : Reads column s old) :
    (dropOld column).Follows s [{ asks := true }, { loses := drops }] := by
  change (column >>= fun old => dropOld (pure old)).Follows s ([{ asks := true }] ++ _)
  refine hread.follows.bind (fun a t hexec => ?_)
  rw [hread.exec] at hexec
  cases hexec
  exact Prog.follows_free (runs_dropOld _ s)

theorem exec_dropOld (hread : Reads column s old) :
    (dropOld column).exec s = (.ok (), dropped s old) := by
  change (column >>= fun old => dropOld (pure old)).exec s = _
  rw [Prog.exec_bind_of_ok hread.exec]
  exact (runs_dropOld old s).1

theorem watches_dropOld (hread : Reads column s old) (hs : I s)
    (hdrops : I (dropped s old) ↔ drops = false) :
    (dropOld column).Watches I s [{ asks := true }, { loses := drops }] := by
  change (column >>= fun old => dropOld (pure old)).Watches I s ([{ asks := true }] ++ _)
  refine Watches.bind hread.follows (hread.watches I hs) (fun a t hexec _ _ => ?_)
  rw [hread.exec] at hexec
  cases hexec
  refine Prog.watches_free (runs_dropOld _ s).2 ((throughout_dropOld _ s).trans ?_)
  rw [hdrops]
  exact ⟨And.right, fun h => ⟨hs, h⟩⟩

theorem follows_writeFile (fault : AppError) (path : FilePath) (s : AppState) :
    (Storage.writeFile fault path).Follows s [{ asks := true }] :=
  Prog.follows_statement rfl

theorem watches_writeFile (fault : AppError) (path : FilePath) (hs : I s)
    (hsave : ∀ t files, I t → t.files ⊆ files → I { t with files := files }) :
    (Storage.writeFile fault path).Watches I s [{ asks := true }] := by
  have hwritten : I { s with
      files := if s.files.contains path then s.files else s.files ++ [path] } := by
    refine hsave s _ hs (fun f hf => ?_)
    split
    · exact hf
    · exact List.mem_append_left _ hf
  exact Prog.watches_statement hs (fun _ => hwritten) (fun _ => ⟨fun _ => rfl, fun _ => hwritten⟩)

def cleared (s : AppState) (slot : ImageSlot) : AppState :=
  { s with files := s.files.filter (fun f => !clears s slot f) }

theorem follows_deleteAvatar (slot : ImageSlot) (s : AppState) :
    (Storage.deleteAvatar slot.category slot.entityId).Follows s [{ loses := lost }] := by
  have hruns : (Storage.deleteAvatar slot.category slot.entityId).Runs s () (cleared s slot) 0 :=
    ⟨rfl, rfl⟩
  exact Prog.follows_free hruns

theorem watches_deleteAvatar (hs : I s) (hclear : I (cleared s slot) ↔ lost = false) :
    (Storage.deleteAvatar slot.category slot.entityId).Watches I s [{ loses := lost }] := by
  refine Prog.watches_free rfl ?_
  rw [← hclear]
  exact ⟨And.right, fun h => ⟨hs, h⟩⟩

theorem follows_saveAvatarImage (data : String) (s : AppState) :
    (Storage.saveAvatarImage slot.category slot.entityId data maxSize admission).Follows s
      [{ refuses := !(validateImageDataUri data maxSize).isOk }, { refuses := !admission.isOk },
        { loses := lost }, { asks := true }] := by
  refine (Prog.follows_ofExcept (validateImageDataUri data maxSize)).bind (fun image t _ => ?_)
  obtain ⟨bytes, contentType, animated⟩ := image
  refine (Prog.follows_ofExcept admission).bind (fun _ t _ => ?_)
  refine (follows_deleteAvatar slot t).bind (fun _ t _ => ?_)
  refine Prog.follows_get ?_
  exact (follows_writeFile _ _ t).bind (fun _ _ _ => Prog.follows_pure _)

theorem watches_saveAvatarImage (data : String) (hs : I s)
    (hclear : I (cleared s slot) ↔ lost = false)
    (hsave : ∀ t files, I t → t.files ⊆ files → I { t with files := files }) :
    (Storage.saveAvatarImage slot.category slot.entityId data maxSize admission).Watches I s
      [{ refuses := !(validateImageDataUri data maxSize).isOk }, { refuses := !admission.isOk },
        { loses := lost }, { asks := true }] := by
  refine Watches.bind (Prog.follows_ofExcept (validateImageDataUri data maxSize))
    (Prog.watches_ofExcept _ hs) (fun image t hvalid _ _ => ?_)
  obtain ⟨bytes, contentType, animated⟩ := image
  obtain ⟨-, rfl⟩ := Prog.exec_ofExcept_ok.mp hvalid
  refine Watches.bind (Prog.follows_ofExcept admission) (Prog.watches_ofExcept _ hs)
    (fun _ t hadmitted _ _ => ?_)
  obtain ⟨-, rfl⟩ := Prog.exec_ofExcept_ok.mp hadmitted
  refine Watches.bind (follows_deleteAvatar slot s) (watches_deleteAvatar hs hclear)
    (fun _ t _ ht _ => ?_)
  refine Prog.watches_get ht ?_
  exact Watches.bind (follows_writeFile _ _ _) (watches_writeFile _ _ ht hsave)
    (fun _ _ _ hu _ => Prog.watches_pure _ hu)

theorem follows_storeImage (hread : Reads column s old) (hmax : s.maxAvatarSize = maxSize) :
    (storeImage slot column admission value).Follows s
      (imageStages maxSize admission drops lost value) := by
  subst hmax
  refine Prog.follows_get ?_
  cases value with
  | none => exact Prog.follows_pure none
  | some v =>
    dsimp only [imageStages]
    split
    · refine (follows_dropOld hread).bind (fun _ t _ => ?_)
      exact (follows_saveAvatarImage v t).bind (fun saved u _ => Prog.follows_pure (some saved.1))
    · split
      · refine (follows_dropOld hread).bind (fun _ t _ => ?_)
        exact (follows_deleteAvatar slot t).bind (fun _ u _ => Prog.follows_pure (some v))
      · exact Prog.follows_pure (some v)

theorem watches_storeImage (hread : Reads column s old) (hmax : s.maxAvatarSize = maxSize)
    (hs : Standing field url file s)
    (hdrops : touches value = true → leads s old file = drops)
    (hclears : clears s slot file = lost) :
    (storeImage slot column admission value).Watches (Standing field url file) s
      (imageStages maxSize admission drops lost value) := by
  subst hmax hclears
  refine Prog.watches_get hs ?_
  cases value with
  | none => exact Prog.watches_pure none hs
  | some v =>
    have hsave : ∀ t files, Standing field url file t → t.files ⊆ files →
        Standing field url file { t with files := files } :=
      fun t files ht hfiles => ⟨ht.1, hfiles ht.2⟩
    have hcleared : ∀ t, Standing field url file t → clears t slot file = clears s slot file →
        (Standing field url file (cleared t slot) ↔ clears s slot file = false) := by
      intro t ht hsame
      rw [← hsame]
      constructor
      · intro h
        have hkept := (List.mem_filter.mp h.2).2
        rwa [Bool.not_eq_true'] at hkept
      · intro h
        exact ⟨ht.1, List.mem_filter.mpr ⟨ht.2, by rw [h]; rfl⟩⟩
    have hdropped : touches (some v) = true →
        (Standing field url file (dropped s old) ↔ drops = false) := by
      intro htouches
      rw [← hdrops htouches]
      constructor
      · intro h
        exact (mem_dropped.mp h.2).2
      · intro h
        exact ⟨hs.1, mem_dropped.mpr ⟨hs.2, h⟩⟩
    dsimp only [imageStages]
    split
    · next hdata =>
      have hdrop := watches_dropOld hread hs (hdropped (by simp [touches, hdata]))
      refine Watches.bind (follows_dropOld hread) hdrop (fun _ t hexec ht _ => ?_)
      rw [exec_dropOld hread] at hexec
      cases hexec
      refine Watches.bind (follows_saveAvatarImage v _)
        (watches_saveAvatarImage v ht (hcleared _ ht rfl) hsave) (fun saved u _ hu _ => ?_)
      exact Prog.watches_pure (some saved.1) hu
    · split
      · next hempty =>
        have hdrop := watches_dropOld hread hs (hdropped (by simp [touches, hempty]))
        refine Watches.bind (follows_dropOld hread) hdrop (fun _ t hexec ht _ => ?_)
        rw [exec_dropOld hread] at hexec
        cases hexec
        refine Watches.bind (follows_deleteAvatar _ _) (watches_deleteAvatar ht (hcleared _ ht rfl))
          (fun _ u _ hu _ => ?_)
        exact Prog.watches_pure (some v) hu
      · exact Prog.watches_pure (some v) hs

theorem exec_storeImage_untouched (h : touches value = false) (s : AppState) :
    (storeImage slot column admission value).exec s = (.ok value, s) := by
  cases value with
  | none => rfl
  | some v =>
    simp only [touches, Option.any_some, Bool.or_eq_false_iff, decide_eq_false_iff_not] at h
    change (ite _ _ (ite _ _ (pure (some v)) : App (Option String))).exec s = _
    rw [if_neg (by rw [h.1]; exact Bool.false_ne_true), if_neg h.2]
    rfl

theorem untouched_of_kept (hdrops : drops = true)
    (h : (imageStages maxSize admission drops lost value).any Stage.loses = false) :
    touches value = false := by
  subst hdrops
  cases value with
  | none => rfl
  | some v =>
    dsimp only [imageStages] at h
    split at h
    · simp at h
    · next hdata =>
      split at h
      · simp at h
      · next hempty => simp [touches, hdata, hempty]

structure Near (s t : AppState) : Prop where
  db : t.db = s.db
  root : t.storagePath = s.storagePath
  limit : t.maxAvatarSize = s.maxAvatarSize
  files : ∀ f ∈ t.files, f ∈ s.files ∨ s.storagePath.length + 2 ≤ f.length ∨ "" ∈ f

theorem Near.refl (s : AppState) : Near s s := ⟨rfl, rfl, rfl, fun _ hf => .inl hf⟩

theorem Near.trans {u : AppState} (h : Near s t) (hu : Near t u) : Near s u := by
  refine ⟨hu.db.trans h.db, hu.root.trans h.root, hu.limit.trans h.limit, fun f hf => ?_⟩
  rcases hu.files f hf with hold | hnew
  · exact h.files f hold
  · rw [h.root] at hnew
    exact .inr hnew

theorem Near.remove {keep : FilePath → Bool} (h : Near s t) :
    Near s { t with files := t.files.filter keep } :=
  ⟨h.db, h.root, h.limit, fun f hf => h.files f (List.mem_filter.mp hf).1⟩

theorem joined_long (dir : FilePath) (name : String) :
    dir.length + 1 ≤ (joined dir name).length ∨ "" ∈ joined dir name := by
  unfold Storage.joined
  split
  · next habsolute =>
    right
    obtain ⟨rest, hrest⟩ := List.isPrefixOf_iff_prefix.mp habsolute
    rw [Storage.components, ← hrest]
    exact List.mem_cons_self
  · left
    have hsome := List.length_pos_of_ne_nil (Storage.splitSlash_ne_nil name.toList)
    rw [List.length_append, Storage.components, List.length_map]
    omega

theorem Near.save {path : FilePath} (h : Near s t)
    (hpath : s.storagePath.length + 2 ≤ path.length ∨ "" ∈ path) :
    Near s { t with files := if t.files.contains path then t.files else t.files ++ [path] } := by
  refine ⟨h.db, h.root, h.limit, fun f hf => ?_⟩
  dsimp only at hf
  split at hf
  · exact h.files f hf
  · rcases List.mem_append.mp hf with hold | hnew
    · exact h.files f hold
    · rw [List.mem_singleton.mp hnew]
      exact .inr hpath

theorem near_saveAvatarImage (data : String) :
    (Storage.saveAvatarImage slot.category slot.entityId data maxSize admission).Maintains (Near s) := by
  refine Prog.Keeps.bind (Prog.keeps_ofExcept (fun _ _ => trivial : ∀ _, _ → True))
    (fun image _ => ?_)
  obtain ⟨bytes, contentType, animated⟩ := image
  refine Prog.Keeps.bind (Prog.keeps_ofExcept (fun _ _ => trivial : ∀ _, _ → True)) (fun _ _ => ?_)
  refine (Storage.keeps_deleteAvatar (fun t ht => ht.remove)).bind (fun _ _ => ?_)
  have hroot : (Prog.get AppState.storagePath : App FilePath).Keeps (Near s)
      (fun path => path = s.storagePath) := Prog.keeps_get (fun t ht => ht.root)
  refine hroot.bind (fun path hpath => ?_)
  subst hpath
  have hwrite : ∀ fault name, (Storage.writeFile fault
      (joined (s.storagePath ++ [slot.category]) name)).Maintains (Near s) := by
    intro fault name
    refine Prog.keeps_statement (fun t ht => ht.save ?_) (fun _ _ _ _ => trivial)
    have hlong := joined_long (s.storagePath ++ [slot.category]) name
    rwa [List.length_append, List.length_singleton] at hlong
  exact (hwrite _ _).bind (fun _ _ => trivial)

theorem near_storeImage (hread : Reads column s old) (h : Near s t) :
    Near s ((storeImage slot column admission value).exec t).2 ∧
      ∀ a, ((storeImage slot column admission value).exec t).1 = .ok a →
        a.isSome = value.isSome := by
  have hdrop : (dropOld column).Maintains (Near s) := by
    refine (hread.keeps (Near s)).bind (fun old _ => ?_)
    cases old with
    | none => trivial
    | some url =>
      refine (Storage.keeps_deleteFile (fun t ht => ht.root) (fun t ht => ?_)).attempt.bind
        (fun _ _ => trivial)
      exact ht.remove
  refine Prog.Keeps.exec ?_ h
  have hlimit : (Prog.get AppState.maxAvatarSize : App Nat).Maintains (Near s) :=
    Prog.keeps_get (fun _ _ => trivial)
  refine hlimit.bind (fun limit _ => ?_)
  cases value with
  | none => exact rfl
  | some v =>
    dsimp only
    split
    · exact hdrop.bind (fun _ _ => (near_saveAvatarImage v).bind (fun _ _ => rfl))
    · split
      · refine hdrop.bind (fun _ _ => ?_)
        exact (Storage.keeps_deleteAvatar (fun t ht => ht.remove)).bind (fun _ _ => rfl)
      · exact rfl

theorem canonical_named {files : List FilePath} {current path : FilePath} {names : List String}
    (h : canonicalizeFrom files current names = .ok path) (hcurrent : "" ∉ current) :
    "" ∉ path := by
  induction names generalizing current with
  | nil =>
    cases h
    exact hcurrent
  | cons n names ih =>
    unfold Storage.canonicalizeFrom at h
    split at h
    · cases h
    · split at h
      · exact ih h hcurrent
      · next hnamed =>
        split at h
        · exact ih h (fun hmem => hcurrent (List.mem_of_mem_dropLast hmem))
        · split at h
          · refine ih h (fun hmem => ?_)
            rcases List.mem_append.mp hmem with hold | hnew
            · exact hcurrent hold
            · exact hnamed (.inl (List.mem_singleton.mp hnew).symm)
          · cases h

theorem canonical_stable {files more : List FilePath} {current path : FilePath}
    {names : List String} (h : canonicalizeFrom files current names = .ok path)
    (hdirect : ".." ∉ names) (hheld : path ∈ more)
    (hfiles : ∀ dir, dir <+: path → dir ∈ more → dir ∈ files) :
    current <+: path ∧ canonicalizeFrom more current names = .ok path := by
  induction names generalizing current with
  | nil =>
    cases h
    exact ⟨List.prefix_refl _, rfl⟩
  | cons n names ih =>
    have hup : n ≠ ".." := fun heq => hdirect (heq ▸ List.mem_cons_self)
    have hrest : ".." ∉ names := fun hmem => hdirect (List.mem_cons_of_mem _ hmem)
    have hstill : ∀ next, files.contains current = false → next <+: path → current <+: next →
        more.contains current = false := by
      intro next hnot hnext hcurrent
      rw [← Bool.not_eq_true, List.contains_iff_mem] at hnot ⊢
      exact fun hmem => hnot (hfiles current (hcurrent.trans hnext) hmem)
    unfold Storage.canonicalizeFrom at h ⊢
    split at h
    · cases h
    · next hnot =>
      rw [Bool.not_eq_true] at hnot
      split at h
      · next hhere =>
        obtain ⟨hbelow, hrun⟩ := ih h hrest
        rw [hstill current hnot hbelow (List.prefix_refl _), if_neg Bool.false_ne_true,
          if_pos hhere]
        exact ⟨hbelow, hrun⟩
      · next hhere =>
        split at h
        · obtain ⟨hbelow, hrun⟩ := ih h hrest
          have hgrown : current <+: current ++ [n] := List.prefix_append _ _
          have hthere : Storage.exists? more (current ++ [n]) = true := by
            simp only [Storage.exists?, Bool.or_eq_true, List.any_eq_true]
            exact .inr ⟨path, hheld, List.isPrefixOf_iff_prefix.mpr hbelow⟩
          rw [hstill _ hnot hbelow hgrown, if_neg Bool.false_ne_true, if_neg hhere, if_neg hup,
            if_pos hthere]
          exact ⟨hgrown.trans hbelow, hrun⟩
        · cases h

theorem Stored.near (h : Stored s url file) (hnear : Near s t) (hheld : file ∈ t.files) :
    leads t (some url) file = true := by
  obtain ⟨dir, name, hfile⟩ := h.filed
  have hnamed : "" ∉ file := canonical_named h.target List.not_mem_nil
  have hfiles : ∀ d, d <+: file → d ∈ t.files → d ∈ s.files := by
    intro d hd hmem
    rcases hnear.files d hmem with hold | hlong | hempty
    · exact hold
    · have hlength : file.length ≤ d.length := by
        rw [hfile, List.length_append]
        exact hlong
      rw [hd.eq_of_length_le hlength]
      exact h.held
    · exact absurd (hd.subset hempty) hnamed
  have hleads : canonicalTarget t.storagePath t.files url = .ok file := by
    rw [hnear.root]
    exact (canonical_stable h.target h.direct hheld hfiles).2
  have hinside : t.storagePath.isPrefixOf file = true := by
    rw [hnear.root, hfile]
    exact List.isPrefixOf_iff_prefix.mpr (List.prefix_append _ _)
  simp [leads, hleads, hinside]

theorem Stored.leads_here (h : Stored s url file) : leads s (some url) file = true :=
  h.near (.refl s) h.held

theorem follows_image {β : Type} {rest : Option String → App β} {more : List Stage}
    (hnear : Near s t) (hread : Reads column t old)
    (hrest : ∀ a u, Near s u → a.isSome = value.isSome → (rest a).Follows u more) :
    (storeImage slot column admission value >>= rest).Follows t
      (imageStages s.maxAvatarSize admission drops lost value ++ more) := by
  refine (follows_storeImage hread hnear.limit).bind (fun a u hexec => ?_)
  have hafter := @near_storeImage t t slot column old value admission hread (.refl t)
  rw [hexec] at hafter
  exact hrest a u (hnear.trans hafter.1) (hafter.2 a rfl)

theorem watches_image {β : Type} {rest : Option String → App β} {more : List Stage}
    (hstored : Stored s url file) (hnear : Near s t) (hread : Reads column t old)
    (ht : Standing field url file t) (hsame : old = some url ∨ t = s)
    (hrest : ∀ a u, Near s u → Standing field url file u →
      (old = some url → touches value = false) → (touches value = false → a = value ∧ u = t) →
      (rest a).Watches (Standing field url file) u more) :
    (storeImage slot column admission value >>= rest).Watches (Standing field url file) t
      (imageStages s.maxAvatarSize admission (leads s old file) (clears s slot file) value ++
        more) := by
  have hleads : leads t old file = leads s old file := by
    rcases hsame with hold | hstart
    · rw [hold, hstored.near hnear ht.2, hstored.leads_here]
    · rw [hstart]
  have hclears : clears t slot file = clears s slot file := by
    rw [clears, clears, hnear.root]
  have hfollows := @follows_storeImage t slot column old value admission s.maxAvatarSize
    (leads s old file) (clears s slot file) hread hnear.limit
  have hwatches := @watches_storeImage t url file slot column old value admission s.maxAvatarSize
    (leads s old file) (clears s slot file) field hread hnear.limit ht (fun _ => hleads) hclears
  refine Watches.bind hfollows hwatches (fun a u hexec hu hkept => ?_)
  have hafter := @near_storeImage t t slot column old value admission hread (.refl t)
  rw [hexec] at hafter
  have huntouched : touches value = false → a = value ∧ u = t := by
    intro htouches
    rw [exec_storeImage_untouched htouches] at hexec
    cases hexec
    exact ⟨rfl, rfl⟩
  refine hrest a u (hnear.trans hafter.1) hu (fun hold => ?_) huntouched
  have hdrops : leads s old file = true := by rw [hold, hstored.leads_here]
  exact untouched_of_kept hdrops hkept

end

section

variable {s : AppState} {I : AppState → Prop} {check : Tables → Option AppError}
variable {f : Tables → Tables} {refuses lost : Bool}

theorem follows_write (h : (check s.db).isNone = !refuses) :
    (App.write check f).Follows s [{ asks := true, refuses := refuses, loses := lost }] := by
  refine Prog.follows_statement ?_
  dsimp only
  cases hcheck : check s.db with
  | none =>
    rw [hcheck] at h
    exact h
  | some e =>
    rw [hcheck] at h
    exact h

theorem watches_write (h : (check s.db).isNone = !refuses) (hs : I s)
    (hwrite : I (s.withDb (f s.db)) ↔ lost = false) :
    (App.write check f).Watches I s [{ asks := true, refuses := refuses, loses := lost }] := by
  refine Prog.watches_statement hs (fun hrefused => ?_) (fun hpassed => ?_)
  · dsimp only
    cases hcheck : check s.db with
    | none =>
      rw [hcheck, hrefused] at h
      cases h
    | some e => exact hs
  · dsimp only
    cases hcheck : check s.db with
    | none => exact hwrite
    | some e =>
      rw [hcheck, hpassed] at h
      cases h

end

end Vokusz.Routes.Images
