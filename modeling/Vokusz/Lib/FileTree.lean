import Mathlib.Data.List.Infix
import Vokusz.Lib.Program

namespace Vokusz.Lib.FileTree

abbrev Path := List String

inductive Node (β : Type) where
  | dir
  | file (content : β)
  | link (absolute : Bool) (target : Path)
  deriving DecidableEq, Repr

abbrev Tree (β : Type) := Path → Option (Node β)

variable {β : Type}

def Proper (name : String) : Prop := name ≠ "" ∧ name ≠ "." ∧ name ≠ ".."

instance (name : String) : Decidable (Proper name) := by
  unfold Proper
  infer_instance

theorem proper_of {name : String} (hup : ¬ name = "..") (hstay : ¬ (name = "" ∨ name = ".")) :
    Proper name := by
  rw [not_or] at hstay
  exact ⟨hstay.1, hstay.2, hup⟩

inductive Place where
  | found (path : Path)
  | absent (parent : Path) (name : String)
  | refused
  deriving DecidableEq, Repr

inductive Stop where
  | place (place : Place)
  | follow (cwd path : Path)
  deriving DecidableEq, Repr

def walk (tree : Tree β) : Path → Path → Stop
  | cwd, [] => .place (.found cwd)
  | cwd, name :: rest =>
    if name = ".." then walk tree cwd.dropLast rest
    else if name = "" ∨ name = "." then walk tree cwd rest
    else
      match tree (cwd ++ [name]) with
      | some .dir => walk tree (cwd ++ [name]) rest
      | some (.file _) => .place (if rest = [] then .found (cwd ++ [name]) else .refused)
      | some (.link absolute target) => .follow (if absolute then [] else cwd) (target ++ rest)
      | none => .place (if rest = [] then .absent cwd name else .refused)

def locate (tree : Tree β) : Nat → Path → Path → Place
  | 0, cwd, path =>
    match walk tree cwd path with
    | .place place => place
    | .follow _ _ => .refused
  | limit + 1, cwd, path =>
    match walk tree cwd path with
    | .place place => place
    | .follow cwd path => locate tree limit cwd path

section

variable {tree : Tree β} {cwd path p : Path} {name : String}

theorem walk_up (tree : Tree β) (cwd rest : Path) :
    walk tree cwd (".." :: rest) = walk tree cwd.dropLast rest := by
  simp [walk]

theorem walk_stay (hname : name = "" ∨ name = ".") (tree : Tree β) (cwd rest : Path) :
    walk tree cwd (name :: rest) = walk tree cwd rest := by
  rcases hname with rfl | rfl
  · simp [walk]
  · simp [walk]

theorem walk_dir (hname : Proper name) (h : tree (cwd ++ [name]) = some .dir) (rest : Path) :
    walk tree cwd (name :: rest) = walk tree (cwd ++ [name]) rest := by
  simp [walk, hname.1, hname.2.1, hname.2.2, h]

theorem walk_file (hname : Proper name) {content : β}
    (h : tree (cwd ++ [name]) = some (.file content)) (rest : Path) :
    walk tree cwd (name :: rest) =
      .place (if rest = [] then .found (cwd ++ [name]) else .refused) := by
  simp [walk, hname.1, hname.2.1, hname.2.2, h]

theorem walk_link (hname : Proper name) {absolute : Bool} {target : Path}
    (h : tree (cwd ++ [name]) = some (.link absolute target)) (rest : Path) :
    walk tree cwd (name :: rest) = .follow (if absolute then [] else cwd) (target ++ rest) := by
  simp [walk, hname.1, hname.2.1, hname.2.2, h]

theorem walk_none (hname : Proper name) (h : tree (cwd ++ [name]) = none) (rest : Path) :
    walk tree cwd (name :: rest) = .place (if rest = [] then .absent cwd name else .refused) := by
  simp [walk, hname.1, hname.2.1, hname.2.2, h]

theorem locate_of_place {place : Place} (h : walk tree cwd path = .place place) (limit : Nat) :
    locate tree limit cwd path = place := by
  cases limit <;> simp [locate, h]

theorem locate_of_follow {c r : Path} (h : walk tree cwd path = .follow c r) (limit : Nat) :
    locate tree (limit + 1) cwd path = locate tree limit c r := by
  simp [locate, h]

theorem locate_zero_of_follow {c r : Path} (h : walk tree cwd path = .follow c r) :
    locate tree 0 cwd path = .refused := by
  simp [locate, h]

end

structure Grounded (tree : Tree β) (p : Path) : Prop where
  proper : ∀ name ∈ p, Proper name
  dirs : ∀ q name, q ++ [name] <+: p → tree (q ++ [name]) = some .dir

namespace Grounded

variable {tree : Tree β} {p q : Path} {name : String}

theorem root (tree : Tree β) : Grounded tree [] where
  proper := by simp
  dirs := by simp

theorem of_prefix (h : Grounded tree p) (hq : q <+: p) : Grounded tree q where
  proper := fun name hname => h.proper name (hq.subset hname)
  dirs := fun r name hr => h.dirs r name (hr.trans hq)

theorem dropLast (h : Grounded tree p) : Grounded tree p.dropLast :=
  h.of_prefix (List.dropLast_prefix p)

theorem snoc (h : Grounded tree p) (hname : Proper name)
    (hdir : tree (p ++ [name]) = some .dir) : Grounded tree (p ++ [name]) where
  proper := by
    intro n hn
    rcases List.mem_append.mp hn with hn | hn
    · exact h.proper n hn
    · rw [List.mem_singleton.mp hn]
      exact hname
  dirs := by
    intro q n hq
    rcases List.prefix_concat_iff.mp hq with heq | hq
    · rw [heq]
      exact hdir
    · exact h.dirs q n hq

theorem dir (h : Grounded tree (p ++ [name])) : tree (p ++ [name]) = some .dir :=
  h.dirs p name (List.prefix_refl _)

theorem eq_dir (h : Grounded tree p) (hne : p ≠ []) : tree p = some .dir := by
  obtain ⟨q, name, rfl⟩ := (List.eq_nil_or_concat' p).resolve_left hne
  exact h.dir

theorem walk_append {cwd : Path} (h : Grounded tree (cwd ++ p)) (rest : Path) :
    walk tree cwd (p ++ rest) = walk tree (cwd ++ p) rest := by
  induction p generalizing cwd with
  | nil => simp
  | cons name p ih =>
    have hstep : cwd ++ name :: p = (cwd ++ [name]) ++ p := by simp
    rw [hstep] at h ⊢
    have hfirst : Grounded tree (cwd ++ [name]) := h.of_prefix (List.prefix_append _ _)
    rw [List.cons_append, walk_dir (hfirst.proper name (by simp)) hfirst.dir]
    exact ih h

theorem locate_self (h : Grounded tree p) (limit : Nat) : locate tree limit [] p = .found p := by
  apply locate_of_place
  have hwalk : walk tree [] (p ++ []) = walk tree p [] := walk_append (by simpa using h) []
  simpa [walk] using hwalk

end Grounded

inductive Ends (tree : Tree β) : Path → Prop
  | dir {p : Path} : Grounded tree p → Ends tree p
  | file {p : Path} {name : String} {content : β} : Grounded tree p → Proper name →
      tree (p ++ [name]) = some (.file content) → Ends tree (p ++ [name])

def Sound (tree : Tree β) : Place → Prop
  | .found p => Ends tree p
  | .absent parent name => Grounded tree parent ∧ Proper name ∧ tree (parent ++ [name]) = none
  | .refused => True

def Stop.Sound (tree : Tree β) : Stop → Prop
  | .place stop => FileTree.Sound tree stop
  | .follow cwd _ => Grounded tree cwd

theorem sound_walk {tree : Tree β} (path : Path) {cwd : Path} (h : Grounded tree cwd) :
    (walk tree cwd path).Sound tree := by
  fun_induction walk tree cwd path with
  | case1 cwd => exact .dir h
  | case2 cwd rest ih => exact ih h.dropLast
  | case3 cwd name rest hup hstay ih => exact ih h
  | case4 cwd name rest hup hstay hnode ih => exact ih (h.snoc (proper_of hup hstay) hnode)
  | case5 cwd name rest hup hstay content hnode =>
    split
    · exact .file h (proper_of hup hstay) hnode
    · trivial
  | case6 cwd name rest hup hstay absolute target hnode =>
    cases absolute with
    | true => exact Grounded.root tree
    | false => exact h
  | case7 cwd name rest hup hstay hnode =>
    split
    · exact ⟨h, proper_of hup hstay, hnode⟩
    · trivial

theorem sound_locate {tree : Tree β} (limit : Nat) {cwd : Path} (path : Path)
    (h : Grounded tree cwd) : Sound tree (locate tree limit cwd path) := by
  induction limit generalizing cwd path with
  | zero =>
    cases hwalk : walk tree cwd path with
    | place place =>
      rw [locate_of_place hwalk]
      have hsound := sound_walk path h
      rwa [hwalk] at hsound
    | follow c r =>
      rw [locate_zero_of_follow hwalk]
      trivial
  | succ limit ih =>
    cases hwalk : walk tree cwd path with
    | place place =>
      rw [locate_of_place hwalk]
      have hsound := sound_walk path h
      rwa [hwalk] at hsound
    | follow c r =>
      have hsound := sound_walk path h
      rw [hwalk] at hsound
      rw [locate_of_follow hwalk]
      exact ih r hsound

section

def Extends (tree later : Tree β) : Prop := ∀ p node, tree p = some node → later p = some node

variable {tree later : Tree β} {cwd path p : Path}

theorem Extends.refl (tree : Tree β) : Extends tree tree := fun _ _ h => h

theorem Extends.trans {last : Tree β} (h : Extends tree later) (h' : Extends later last) :
    Extends tree last :=
  fun p node hp => h' p node (h p node hp)

theorem Extends.grounded (h : Extends tree later) (hp : Grounded tree p) : Grounded later p where
  proper := hp.proper
  dirs := fun q name hq => h _ _ (hp.dirs q name hq)

def Stop.Steady : Stop → Prop
  | .place (.found _) => True
  | .follow _ _ => True
  | _ => False

theorem Extends.walk (h : Extends tree later) (path : Path) (cwd : Path)
    (hsteady : (walk tree cwd path).Steady) : walk later cwd path = walk tree cwd path := by
  fun_induction FileTree.walk tree cwd path with
  | case1 cwd => rfl
  | case2 cwd rest ih =>
    rw [walk_up]
    exact ih hsteady
  | case3 cwd name rest hup hstay ih =>
    rw [walk_stay hstay]
    exact ih hsteady
  | case4 cwd name rest hup hstay hnode ih =>
    rw [walk_dir (proper_of hup hstay) (h _ _ hnode)]
    exact ih hsteady
  | case5 cwd name rest hup hstay content hnode =>
    exact walk_file (proper_of hup hstay) (h _ _ hnode) rest
  | case6 cwd name rest hup hstay absolute target hnode =>
    exact walk_link (proper_of hup hstay) (h _ _ hnode) rest
  | case7 cwd name rest hup hstay hnode =>
    split at hsteady
    · exact hsteady.elim
    · exact hsteady.elim

theorem Extends.locate (h : Extends tree later) {limit : Nat}
    (hp : locate tree limit cwd path = .found p) : locate later limit cwd path = .found p := by
  induction limit generalizing cwd path with
  | zero =>
    cases hwalk : FileTree.walk tree cwd path with
    | place place =>
      rw [locate_of_place hwalk] at hp
      rw [hp] at hwalk
      exact locate_of_place ((h.walk path cwd (by rw [hwalk]; trivial)).trans hwalk) 0
    | follow c r =>
      rw [locate_zero_of_follow hwalk] at hp
      cases hp
  | succ limit ih =>
    cases hwalk : FileTree.walk tree cwd path with
    | place place =>
      rw [locate_of_place hwalk] at hp
      rw [hp] at hwalk
      exact locate_of_place ((h.walk path cwd (by rw [hwalk]; trivial)).trans hwalk) _
    | follow c r =>
      rw [locate_of_follow hwalk] at hp
      rw [locate_of_follow ((h.walk path cwd (by rw [hwalk]; trivial)).trans hwalk)]
      exact ih hp

end

section

variable {tree : Tree β} {cwd path p : Path} {name : String}

def Stop.Snoc (tree : Tree β) (name : String) : Stop → Stop → Prop
  | .place (.found p), longer => Grounded tree p → longer = walk tree p [name]
  | .follow cwd path, longer => longer = .follow cwd (path ++ [name])
  | _, _ => True

theorem walk_snoc (name : String) (path : Path) (cwd : Path) :
    (walk tree cwd path).Snoc tree name (walk tree cwd (path ++ [name])) := by
  fun_induction walk tree cwd path with
  | case1 cwd => exact fun _ => rfl
  | case2 cwd rest ih =>
    rw [List.cons_append, walk_up]
    exact ih
  | case3 cwd first rest hup hstay ih =>
    rw [List.cons_append, walk_stay hstay]
    exact ih
  | case4 cwd first rest hup hstay hnode ih =>
    rw [List.cons_append, walk_dir (proper_of hup hstay) hnode]
    exact ih
  | case5 cwd first rest hup hstay content hnode =>
    split
    · intro hdir
      rw [hdir.dir] at hnode
      cases hnode
    · trivial
  | case6 cwd first rest hup hstay absolute target hnode =>
    rw [List.cons_append, walk_link (proper_of hup hstay) hnode, ← List.append_assoc]
    rfl
  | case7 cwd first rest hup hstay hnode =>
    split
    · trivial
    · trivial

theorem locate_snoc {limit : Nat} {place : Place}
    (hp : locate tree limit cwd path = .found p) (hdir : Grounded tree p)
    (hname : walk tree p [name] = .place place) :
    locate tree limit cwd (path ++ [name]) = place := by
  have hsnoc : ∀ cwd path, (walk tree cwd path).Snoc tree name (walk tree cwd (path ++ [name])) :=
    fun cwd path => walk_snoc name path cwd
  induction limit generalizing cwd path with
  | zero =>
    specialize hsnoc cwd path
    cases hwalk : walk tree cwd path with
    | place stop =>
      rw [locate_of_place hwalk] at hp
      rw [hwalk, hp] at hsnoc
      exact locate_of_place ((hsnoc hdir).trans hname) 0
    | follow c r =>
      rw [locate_zero_of_follow hwalk] at hp
      cases hp
  | succ limit ih =>
    have hstep := hsnoc cwd path
    cases hwalk : walk tree cwd path with
    | place stop =>
      rw [locate_of_place hwalk] at hp
      rw [hwalk, hp] at hstep
      exact locate_of_place ((hstep hdir).trans hname) _
    | follow c r =>
      rw [locate_of_follow hwalk] at hp
      rw [hwalk] at hstep
      rw [locate_of_follow hstep]
      exact ih hp

end

section

variable {ε : Type} (limit : Nat) (e : ε)

def isDir (tree : Tree β) (p : Path) : Bool :=
  p.isEmpty ||
    match tree p with
    | some .dir => true
    | _ => false

def realDirectory (path : Path) (tree : Tree β) : Option Path :=
  match locate tree limit [] path with
  | .found p => if isDir tree p then some p else none
  | _ => none

def put (tree : Tree β) (p : Path) (node : Node β) : Tree β := Function.update tree p (some node)

def putNew (parent : Path) (name : String) (node : Node β) : Prog (Tree β) ε Unit :=
  Prog.statement e (fun tree =>
    match realDirectory limit parent tree with
    | some p =>
      if (tree (p ++ [name])).isNone then (.ok (), put tree (p ++ [name]) node) else (.error e, tree)
    | none => (.error e, tree))

def makeDirectory (parent : Path) (name : String) : Prog (Tree β) ε Unit :=
  putNew limit e parent name .dir

def makeLink (parent : Path) (name : String) (target : Path) : Prog (Tree β) ε Unit :=
  putNew limit e parent name (.link false target)

def createAbove : List String → Prog (Tree β) ε Unit
  | [] => pure ()
  | name :: above => do
    let there ← Prog.get (fun tree => (realDirectory limit (name :: above).reverse tree).isSome)
    if there then pure ()
    else
      createAbove above
      makeDirectory limit e above.reverse name

def createRecursive (path : Path) : Prog (Tree β) ε Unit := createAbove limit e path.reverse

def writeFile (path : Path) (content : β) : Prog (Tree β) ε Unit :=
  Prog.statement e (fun tree =>
    match locate tree limit [] path with
    | .found p =>
      match tree p with
      | some (.file _) => (.ok (), put tree p (.file content))
      | _ => (.error e, tree)
    | .absent parent name => (.ok (), put tree (parent ++ [name]) (.file content))
    | .refused => (.error e, tree))

def deleteEntity (path : Path) (tree : Tree β) : Tree β :=
  fun q => if path <+: q then none else tree q

end

section

variable {ε : Type} {limit : Nat} {e : ε} {tree later : Tree β} {p path : Path} {name : String}

theorem isDir_of_grounded (h : Grounded tree p) : isDir tree p = true := by
  cases p with
  | nil => rfl
  | cons first rest => simp [isDir, h.eq_dir (List.cons_ne_nil first rest)]

theorem realDirectory_of_locate (hp : locate tree limit [] path = .found p)
    (h : Grounded tree p) : realDirectory limit path tree = some p := by
  simp [realDirectory, hp, isDir_of_grounded h]

theorem realDirectory_self (h : Grounded tree p) (limit : Nat) :
    realDirectory limit p tree = some p :=
  realDirectory_of_locate (h.locate_self limit) h

theorem realDirectory_iff : realDirectory limit path tree = some p ↔
    locate tree limit [] path = .found p ∧ Grounded tree p := by
  constructor
  · intro h
    have hsound := sound_locate limit path (Grounded.root tree)
    unfold realDirectory at h
    cases hplace : locate tree limit [] path with
    | found q =>
      rw [hplace] at h hsound
      dsimp only at h
      split at h
      · cases h
        cases hsound with
        | dir hdir => exact ⟨rfl, hdir⟩
        | @file q name content _ _ hfile =>
          rename_i hisDir
          simp [isDir, hfile] at hisDir
      · cases h
    | absent parent name =>
      rw [hplace] at h
      cases h
    | refused =>
      rw [hplace] at h
      cases h
  · rintro ⟨hp, h⟩
    exact realDirectory_of_locate hp h

theorem Extends.realDirectory (h : Extends tree later)
    (hp : realDirectory limit path tree = some p) : realDirectory limit path later = some p := by
  obtain ⟨hlocate, hgrounded⟩ := realDirectory_iff.mp hp
  exact realDirectory_of_locate (h.locate hlocate) (h.grounded hgrounded)

theorem put_self (tree : Tree β) (p : Path) (node : Node β) : put tree p node p = some node :=
  Function.update_self ..

theorem put_other {q : Path} (hne : q ≠ p) (tree : Tree β) (node : Node β) :
    put tree p node q = tree q :=
  Function.update_of_ne hne ..

theorem extends_put (h : tree p = none) (node : Node β) : Extends tree (put tree p node) := by
  intro q old hq
  have hne : q ≠ p := by
    rintro rfl
    rw [h] at hq
    cases hq
  rw [put_other hne]
  exact hq

theorem exec_putNew {parent : Path} {node : Node β} {u : Unit}
    (h : (putNew limit e parent name node).exec tree = (.ok u, later)) :
    ∃ p, realDirectory limit parent tree = some p ∧ tree (p ++ [name]) = none ∧
      later = put tree (p ++ [name]) node := by
  rw [putNew, Prog.exec_statement] at h
  cases hp : realDirectory limit parent tree with
  | none =>
    rw [hp] at h
    cases h
  | some p =>
    rw [hp] at h
    dsimp only at h
    split at h
    · cases h
      rename_i hnone
      exact ⟨p, rfl, by simpa using hnone, rfl⟩
    · cases h

def Grew (tree later : Tree β) (place : Path) : Prop :=
  ∀ q, later q = tree q ∨ q ≠ [] ∧ tree q = none ∧ later q = some .dir ∧ q <+: place

theorem Grew.refl (tree : Tree β) (place : Path) : Grew tree tree place := fun _ => .inl rfl

theorem Grew.extends {place : Path} (h : Grew tree later place) : Extends tree later := by
  intro q node hq
  rcases h q with hsame | ⟨_, hnone, _, _⟩
  · rw [hsame]
    exact hq
  · rw [hnone] at hq
    cases hq

theorem Grew.put_dir {place : Path} (h : Grew tree later place)
    (hnone : later (place ++ [name]) = none) :
    Grew tree (put later (place ++ [name]) .dir) (place ++ [name]) := by
  intro q
  by_cases hq : q = place ++ [name]
  · subst hq
    right
    refine ⟨by simp, ?_, put_self .., List.prefix_refl _⟩
    rcases h (place ++ [name]) with hsame | ⟨_, hnone', _, _⟩
    · rw [← hsame]
      exact hnone
    · exact hnone'
  · rw [put_other hq]
    rcases h q with hsame | ⟨hne, hnone', hdir, hprefix⟩
    · exact .inl hsame
    · exact .inr ⟨hne, hnone', hdir, hprefix.trans (List.prefix_append _ _)⟩

theorem Grew.outside {root place : Path} (h : Grew tree later place) (hroot : Grounded tree root)
    (hplace : root <+: place) {q : Path} (hq : ¬ root <+: q) : later q = tree q := by
  rcases h q with hsame | ⟨hne, hnone, _, hprefix⟩
  · exact hsame
  · rcases List.prefix_or_prefix_of_prefix hprefix hplace with hbelow | habove
    · rw [(hroot.of_prefix hbelow).eq_dir hne] at hnone
      cases hnone
    · exact absurd habove hq

theorem exec_createAbove_of_grounded {names : List String} (h : Grounded tree names.reverse) :
    (createAbove limit e names).exec tree = (.ok (), tree) := by
  cases names with
  | nil => rfl
  | cons name above =>
    rw [createAbove, Prog.exec_bind_of_ok (Prog.exec_get _ _), realDirectory_self h]
    rfl

theorem exec_createRecursive_new {parent : Path} (h : Grounded tree parent) (hname : Proper name)
    (hnone : tree (parent ++ [name]) = none) :
    (createRecursive limit e (parent ++ [name])).exec tree =
      (.ok (), put tree (parent ++ [name]) .dir) := by
  have habsent : realDirectory limit (parent ++ [name]) tree = none := by
    have hplace : locate tree limit [] (parent ++ [name]) = .absent parent name := by
      apply locate_snoc (h.locate_self limit) h
      rw [walk_none hname hnone]
      rfl
    simp [realDirectory, hplace]
  have hreverse : (parent ++ [name]).reverse = name :: parent.reverse := by simp
  have habove : Grounded tree parent.reverse.reverse := by simpa using h
  rw [createRecursive, hreverse, createAbove, Prog.exec_bind_of_ok (Prog.exec_get _ _)]
  rw [← hreverse, List.reverse_reverse, habsent, if_neg (by simp),
    Prog.exec_bind_of_ok (exec_createAbove_of_grounded habove), List.reverse_reverse,
    makeDirectory, putNew, Prog.exec_statement]
  simp only [realDirectory_self h, hnone]
  rfl

theorem realDirectory_snoc {place : Path} (hplace : realDirectory limit path tree = some place)
    (hname : Proper name) (hdir : tree (place ++ [name]) = some .dir) :
    realDirectory limit (path ++ [name]) tree = some (place ++ [name]) := by
  obtain ⟨hlocate, hgrounded⟩ := realDirectory_iff.mp hplace
  apply realDirectory_of_locate _ (hgrounded.snoc hname hdir)
  apply locate_snoc hlocate hgrounded
  rw [walk_dir hname hdir]
  rfl

theorem exec_createAbove {names : List String} (hproper : ∀ name ∈ names, Proper name) {u : Unit}
    (h : (createAbove limit e names).exec tree = (.ok u, later)) :
    ∃ place, realDirectory limit names.reverse later = some place ∧ Grew tree later place := by
  induction names generalizing later u with
  | nil =>
    cases h
    exact ⟨[], realDirectory_self (Grounded.root tree) limit, Grew.refl tree []⟩
  | cons name above ih =>
    rw [createAbove, Prog.exec_bind_of_ok (Prog.exec_get _ _)] at h
    split at h
    · cases h
      rename_i hthere
      obtain ⟨place, hplace⟩ := Option.isSome_iff_exists.mp hthere
      exact ⟨place, hplace, Grew.refl tree place⟩
    · obtain ⟨_, middle, habove, hmake⟩ := Prog.exec_bind_ok.mp h
      obtain ⟨place, hplace, hgrew⟩ := ih (fun n hn => hproper n (List.mem_cons_of_mem name hn)) habove
      obtain ⟨p, hp, hnone, rfl⟩ := exec_putNew hmake
      rw [hplace] at hp
      cases hp
      refine ⟨place ++ [name], ?_, hgrew.put_dir hnone⟩
      rw [List.reverse_cons]
      exact realDirectory_snoc ((extends_put hnone .dir).realDirectory hplace)
        (hproper name List.mem_cons_self) (put_self ..)

theorem exec_createRecursive (hproper : ∀ name ∈ path, Proper name) {u : Unit}
    (h : (createRecursive limit e path).exec tree = (.ok u, later)) :
    ∃ place, realDirectory limit path later = some place ∧ Grew tree later place := by
  have hspec : ∃ place, realDirectory limit path.reverse.reverse later = some place ∧
      Grew tree later place :=
    exec_createAbove (fun n hn => hproper n (by simpa using hn)) h
  simpa using hspec

theorem exec_writeFile {parent : Path} {content : β} (hparent : Grounded tree parent)
    (hname : Proper name)
    (hunlinked : ∀ absolute target, tree (parent ++ [name]) ≠ some (.link absolute target)) {u : Unit}
    (h : (writeFile limit e (parent ++ [name]) content).exec tree = (.ok u, later)) :
    tree (parent ++ [name]) ≠ some .dir ∧ later = put tree (parent ++ [name]) (.file content) := by
  have hself := hparent.locate_self limit
  have hroot := Grounded.root tree
  rw [writeFile, Prog.exec_statement] at h
  cases hnode : tree (parent ++ [name]) with
  | none =>
    have hplace : locate tree limit [] (parent ++ [name]) = .absent parent name := by
      apply locate_snoc hself hparent
      rw [walk_none hname hnode]
      rfl
    rw [hplace] at h
    cases h
    exact ⟨by simp, rfl⟩
  | some node =>
    cases node with
    | dir =>
      have hplace : locate tree limit [] (parent ++ [name]) = .found (parent ++ [name]) := by
        apply locate_snoc hself hparent
        rw [walk_dir hname hnode]
        rfl
      rw [hplace] at h
      simp only [hnode] at h
      cases h
    | file old =>
      have hplace : locate tree limit [] (parent ++ [name]) = .found (parent ++ [name]) := by
        apply locate_snoc hself hparent
        rw [walk_file hname hnode]
        rfl
      rw [hplace] at h
      simp only [hnode] at h
      cases h
      exact ⟨by simp, rfl⟩
    | link absolute target => exact absurd hnode (hunlinked absolute target)

theorem Grounded.put {q : Path} (h : Grounded tree q) (hp : tree p ≠ some .dir) (node : Node β) :
    Grounded (put tree p node) q where
  proper := h.proper
  dirs := by
    intro r n hr
    have hdir := h.dirs r n hr
    have hne : r ++ [n] ≠ p := by
      rintro rfl
      exact hp hdir
    rw [put_other hne]
    exact hdir

def Unlinked (root : Path) (tree : Tree β) : Prop :=
  ∀ p absolute target, root <+: p → tree p ≠ some (.link absolute target)

theorem Grew.unlinked {root place : Path} (h : Grew tree later place) (hu : Unlinked root tree) :
    Unlinked root later := by
  intro p absolute target hp
  rcases h p with hsame | ⟨_, _, hdir, _⟩
  · rw [hsame]
    exact hu p absolute target hp
  · rw [hdir]
    simp

theorem Unlinked.put_file {root : Path} (hu : Unlinked root tree) (p : Path) (content : β) :
    Unlinked root (put tree p (.file content)) := by
  intro q absolute target hq
  by_cases heq : q = p
  · rw [heq, put_self]
    simp
  · rw [put_other heq]
    exact hu q absolute target hq

def Stop.Straight (end_ : Path) : Stop → Prop
  | .place (.found p) => p = end_
  | .place _ => True
  | .follow _ _ => False

theorem Unlinked.walk {root : Path} (hu : Unlinked root tree) {names : Path}
    (hnames : ∀ name ∈ names, Proper name) {cwd : Path} (hcwd : root <+: cwd) :
    (walk tree cwd names).Straight (cwd ++ names) := by
  fun_induction FileTree.walk tree cwd names with
  | case1 cwd => exact (List.append_nil cwd).symm
  | case2 cwd rest ih => exact absurd rfl (hnames ".." List.mem_cons_self).2.2
  | case3 cwd name rest hup hstay ih =>
    have hname := hnames name List.mem_cons_self
    rcases hstay with rfl | rfl
    · exact absurd rfl hname.1
    · exact absurd rfl hname.2.1
  | case4 cwd name rest hup hstay hnode ih =>
    have hrest := ih (fun n hn => hnames n (List.mem_cons_of_mem name hn))
      (hcwd.trans (List.prefix_append _ _))
    rwa [List.append_assoc] at hrest
  | case5 cwd name rest hup hstay content hnode =>
    split
    · rename_i hnil
      rw [hnil]
      rfl
    · trivial
  | case6 cwd name rest hup hstay absolute target hnode =>
    exact hu _ absolute target (hcwd.trans (List.prefix_append _ _)) hnode
  | case7 cwd name rest hup hstay hnode =>
    split
    · trivial
    · trivial

theorem Unlinked.realDirectory {root names : Path} (hu : Unlinked root tree)
    (hroot : Grounded tree root) (hnames : ∀ name ∈ names, Proper name)
    (h : realDirectory limit (root ++ names) tree = some p) : p = root ++ names := by
  obtain ⟨hlocate, _⟩ := realDirectory_iff.mp h
  have hstraight := hu.walk hnames (List.prefix_refl root)
  have hwalk : FileTree.walk tree [] (root ++ names) = FileTree.walk tree root names :=
    Grounded.walk_append (by simpa using hroot) names
  rw [← hwalk] at hstraight
  cases hstop : FileTree.walk tree [] (root ++ names) with
  | place place =>
    rw [locate_of_place hstop] at hlocate
    rw [hstop, hlocate] at hstraight
    exact hstraight
  | follow c r =>
    rw [hstop] at hstraight
    exact hstraight.elim

end

section

inductive Visits (tree : Tree β) : Path → Path → Path → Prop
  | here {cwd path : Path} : Visits tree cwd path cwd
  | up {cwd rest p : Path} : Visits tree cwd.dropLast rest p → Visits tree cwd (".." :: rest) p
  | stay {cwd rest p : Path} {name : String} : name = "" ∨ name = "." → Visits tree cwd rest p →
      Visits tree cwd (name :: rest) p
  | dir {cwd rest p : Path} {name : String} : Proper name → tree (cwd ++ [name]) = some .dir →
      Visits tree (cwd ++ [name]) rest p → Visits tree cwd (name :: rest) p
  | file {cwd rest : Path} {name : String} {content : β} : Proper name →
      tree (cwd ++ [name]) = some (.file content) →
      Visits tree cwd (name :: rest) (cwd ++ [name])
  | link {cwd rest p target : Path} {name : String} {absolute : Bool} : Proper name →
      tree (cwd ++ [name]) = some (.link absolute target) →
      Visits tree (if absolute then [] else cwd) (target ++ rest) p →
      Visits tree cwd (name :: rest) p

variable {tree : Tree β} {cwd path p root : Path}

def Stop.Passed (tree : Tree β) (cwd path : Path) : Stop → Prop
  | .place (.found p) => Visits tree cwd path p
  | .place _ => True
  | .follow c r => ∀ p, Visits tree c r p → Visits tree cwd path p

theorem visits_walk (path : Path) (cwd : Path) :
    (walk tree cwd path).Passed tree cwd path := by
  have hlift : ∀ (cwd path cwd' path' : Path) (stop : Stop),
      (∀ p, Visits tree cwd path p → Visits tree cwd' path' p) → stop.Passed tree cwd path →
      stop.Passed tree cwd' path' := by
    intro cwd path cwd' path' stop hvisits hpassed
    cases stop with
    | place place =>
      cases place with
      | found p => exact hvisits p hpassed
      | absent parent name => trivial
      | refused => trivial
    | follow c r => exact fun p hp => hvisits p (hpassed p hp)
  fun_induction walk tree cwd path with
  | case1 cwd => exact .here
  | case2 cwd rest ih => exact hlift _ _ _ _ _ (fun p hp => .up hp) ih
  | case3 cwd name rest hup hstay ih => exact hlift _ _ _ _ _ (fun p hp => .stay hstay hp) ih
  | case4 cwd name rest hup hstay hnode ih =>
    exact hlift _ _ _ _ _ (fun p hp => .dir (proper_of hup hstay) hnode hp) ih
  | case5 cwd name rest hup hstay content hnode =>
    split
    · exact .file (proper_of hup hstay) hnode
    · trivial
  | case6 cwd name rest hup hstay absolute target hnode =>
    exact fun p hp => .link (proper_of hup hstay) hnode hp
  | case7 cwd name rest hup hstay hnode =>
    split
    · trivial
    · trivial

theorem visits_locate {limit : Nat} (h : locate tree limit cwd path = .found p) :
    Visits tree cwd path p := by
  induction limit generalizing cwd path with
  | zero =>
    cases hwalk : walk tree cwd path with
    | place place =>
      rw [locate_of_place hwalk] at h
      have hpassed : (walk tree cwd path).Passed tree cwd path := visits_walk path cwd
      rwa [hwalk, h] at hpassed
    | follow c r =>
      rw [locate_zero_of_follow hwalk] at h
      cases h
  | succ limit ih =>
    cases hwalk : walk tree cwd path with
    | place place =>
      rw [locate_of_place hwalk] at h
      have hpassed : (walk tree cwd path).Passed tree cwd path := visits_walk path cwd
      rwa [hwalk, h] at hpassed
    | follow c r =>
      rw [locate_of_follow hwalk] at h
      have hpassed : (walk tree cwd path).Passed tree cwd path := visits_walk path cwd
      rw [hwalk] at hpassed
      exact hpassed p (ih h)

theorem visits_grounded {q rest : Path} (h : Grounded tree (cwd ++ q))
    (hp : Visits tree (cwd ++ q) rest p) : Visits tree cwd (q ++ rest) p := by
  induction q generalizing cwd with
  | nil => simpa using hp
  | cons name q ih =>
    have hstep : cwd ++ name :: q = (cwd ++ [name]) ++ q := by simp
    rw [hstep] at h hp
    have hfirst : Grounded tree (cwd ++ [name]) := h.of_prefix (List.prefix_append _ _)
    exact .dir (hfirst.proper name (by simp)) hfirst.dir (ih h hp)

theorem visits_ups (k : Nat) (cwd rest : Path) (hp : Visits tree (cwd.take (cwd.length - k)) rest p) :
    Visits tree cwd (List.replicate k ".." ++ rest) p := by
  induction k generalizing cwd with
  | zero => simpa using hp
  | succ k ih =>
    rw [List.replicate_succ, List.cons_append]
    apply Visits.up
    apply ih
    rw [List.dropLast_eq_take, List.take_take, List.length_take]
    have hlength : min (min (cwd.length - 1) cwd.length - k) (cwd.length - 1) =
        cwd.length - (k + 1) := by omega
    rw [hlength]
    exact hp

def Climbs (depth : Nat) (path : Path) : Prop :=
  ∃ k names, path = List.replicate k ".." ++ names ∧ (∀ name ∈ names, name ≠ "..") ∧ k ≤ depth

theorem climbs_of_plain (depth : Nat) (h : ∀ name ∈ path, name ≠ "..") : Climbs depth path :=
  ⟨0, path, rfl, h, Nat.zero_le depth⟩

theorem Climbs.up {depth : Nat} {rest : Path} (h : Climbs depth (".." :: rest)) :
    1 ≤ depth ∧ Climbs (depth - 1) rest := by
  obtain ⟨k, names, heq, hnames, hk⟩ := h
  cases k with
  | zero =>
    rw [List.replicate_zero, List.nil_append] at heq
    subst heq
    exact absurd rfl (hnames ".." List.mem_cons_self)
  | succ k =>
    rw [List.replicate_succ, List.cons_append, List.cons.injEq] at heq
    exact ⟨by omega, k, names, heq.2, hnames, by omega⟩

theorem Climbs.plain {depth : Nat} {name : String} {rest : Path} (hname : name ≠ "..")
    (h : Climbs depth (name :: rest)) : ∀ n ∈ rest, n ≠ ".." := by
  obtain ⟨k, names, heq, hnames, _⟩ := h
  cases k with
  | zero =>
    rw [List.replicate_zero, List.nil_append] at heq
    subst heq
    exact fun n hn => hnames n (List.mem_cons_of_mem name hn)
  | succ k =>
    rw [List.replicate_succ, List.cons_append, List.cons.injEq] at heq
    exact absurd heq.1 hname

theorem Climbs.append {depth : Nat} {rest : Path} (h : Climbs depth path)
    (hrest : ∀ n ∈ rest, n ≠ "..") : Climbs depth (path ++ rest) := by
  obtain ⟨k, names, rfl, hnames, hk⟩ := h
  refine ⟨k, names ++ rest, by rw [List.append_assoc], ?_, hk⟩
  intro n hn
  rcases List.mem_append.mp hn with hn | hn
  · exact hnames n hn
  · exact hrest n hn

def LinksWithin (root : Path) (tree : Tree β) : Prop :=
  ∀ p name absolute target, root <+: p → tree (p ++ [name]) = some (.link absolute target) →
    absolute = false ∧ Climbs (p.length - root.length) target

theorem visits_within (hlinks : LinksWithin root tree) (hcwd : root <+: cwd)
    (hpath : Climbs (cwd.length - root.length) path) (h : Visits tree cwd path p) : root <+: p := by
  induction h with
  | here => exact hcwd
  | @up cwd rest p _ ih =>
    obtain ⟨hdepth, hrest⟩ := hpath.up
    apply ih
    · obtain ⟨q, rfl⟩ := hcwd
      have hq : q ≠ [] := by
        rintro rfl
        simp at hdepth
      rw [List.dropLast_append_of_ne_nil hq]
      exact List.prefix_append _ _
    · rw [List.length_dropLast]
      have hsub : cwd.length - 1 - root.length = cwd.length - root.length - 1 := by omega
      rwa [hsub]
  | @stay cwd rest p name hstay _ ih =>
    have hname : name ≠ ".." := by
      rcases hstay with rfl | rfl
      · decide
      · decide
    exact ih hcwd (climbs_of_plain _ (hpath.plain hname))
  | @dir cwd rest p name hname _ _ ih =>
    apply ih (hcwd.trans (List.prefix_append _ _))
    exact climbs_of_plain _ (hpath.plain hname.2.2)
  | file => exact hcwd.trans (List.prefix_append _ _)
  | @link cwd rest p target name absolute hname hnode _ ih =>
    obtain ⟨rfl, hclimbs⟩ := hlinks cwd name absolute target hcwd hnode
    exact ih hcwd (hclimbs.append (hpath.plain hname.2.2))

theorem leaves_of_link {q target names : Path} {name : String} {k : Nat}
    (hp : Grounded tree (root ++ q)) (hroot : root ≠ []) (hname : Proper name)
    (hnode : tree (root ++ q ++ [name]) = some (.link false target))
    (htarget : target = List.replicate k ".." ++ names) (hk : q.length < k) :
    ∃ p, Visits tree root (q ++ [name]) p ∧ ¬ root <+: p := by
  refine ⟨(root ++ q).take ((root ++ q).length - k), ?_, ?_⟩
  · apply visits_grounded hp
    apply Visits.link hname hnode
    rw [List.append_nil, htarget]
    exact visits_ups k (root ++ q) names .here
  · intro hprefix
    have hlength := hprefix.length_le
    rw [List.length_take, List.length_append] at hlength
    have hpos := List.length_pos_iff.mpr hroot
    omega

end

end Vokusz.Lib.FileTree
