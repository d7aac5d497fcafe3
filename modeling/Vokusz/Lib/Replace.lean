import Mathlib.Data.List.Infix

namespace Vokusz.Lib.Replace

variable {α : Type} [DecidableEq α]

def replaceFrom (pat rep : List α) : Nat → List α → List α
  | _, [] => []
  | skip + 1, _ :: xs => replaceFrom pat rep skip xs
  | 0, x :: xs =>
    if pat <+: x :: xs then rep ++ replaceFrom pat rep (pat.length - 1) xs
    else x :: replaceFrom pat rep 0 xs

def replace (pat rep xs : List α) : List α := replaceFrom pat rep 0 xs

variable {pat rep xs ys : List α} {x : α}

theorem replaceFrom_skip (n : Nat) (xs : List α) :
    replaceFrom pat rep n xs = replace pat rep (xs.drop n) := by
  induction n generalizing xs with
  | zero => rw [List.drop_zero, replace]
  | succ n ih =>
    cases xs with
    | nil => rfl
    | cons x xs => exact ih xs

@[simp] theorem replace_nil : replace pat rep [] = [] := rfl

theorem replace_cons (h : ¬ pat <+: x :: xs) :
    replace pat rep (x :: xs) = x :: replace pat rep xs := by
  rw [replace, replaceFrom, if_neg h, replace]

theorem replace_match (hpat : pat ≠ []) (xs : List α) :
    replace pat rep (pat ++ xs) = rep ++ replace pat rep xs := by
  cases pat with
  | nil => exact absurd rfl hpat
  | cons p pat =>
    have hfront : p :: pat <+: p :: (pat ++ xs) := List.prefix_append (p :: pat) xs
    rw [List.cons_append, replace, replaceFrom, if_pos hfront, replaceFrom_skip]
    simp

theorem replace_append (h : ∀ pre suf, xs = pre ++ suf → suf ≠ [] → ¬ pat <+: suf ++ ys) :
    replace pat rep (xs ++ ys) = xs ++ replace pat rep ys := by
  induction xs with
  | nil => rfl
  | cons x xs ih =>
    have hhead : ¬ pat <+: x :: (xs ++ ys) := h [] (x :: xs) rfl (List.cons_ne_nil _ _)
    rw [List.cons_append, replace_cons hhead, ih, List.cons_append]
    intro pre suf hsplit
    exact h (x :: pre) suf (by rw [hsplit, List.cons_append])

theorem scan_induction (hpat : pat ≠ []) {motive : List α → Prop} (hnil : motive [])
    (hmatch : ∀ xs, motive xs → motive (pat ++ xs))
    (hcons : ∀ x xs, ¬ pat <+: x :: xs → motive xs → motive (x :: xs)) (xs : List α) :
    motive xs := by
  induction hlength : xs.length using Nat.strong_induction_on generalizing xs with
  | _ n ih =>
    cases xs with
    | nil => exact hnil
    | cons x xs =>
      by_cases hfront : pat <+: x :: xs
      · obtain ⟨rest, hrest⟩ := hfront
        have hpos : 0 < pat.length := List.length_pos_of_ne_nil hpat
        have hsum : pat.length + rest.length = n := by
          rw [← hlength, ← hrest, List.length_append]
        rw [← hrest]
        exact hmatch rest (ih rest.length (by omega) rest rfl)
      · have hsum : xs.length + 1 = n := hlength
        exact hcons x xs hfront (ih xs.length (by omega) xs rfl)

theorem replace_of_absent (h : ¬ pat <:+: xs) : replace pat rep xs = xs := by
  induction xs with
  | nil => rfl
  | cons x xs ih =>
    rw [List.infix_cons_iff, not_or] at h
    rw [replace_cons h.1, ih h.2]

section

variable (hshort : rep.length < pat.length)

include hshort

theorem length_replace_le (xs : List α) : (replace pat rep xs).length ≤ xs.length := by
  have hpat : pat ≠ [] := List.ne_nil_of_length_pos (Nat.zero_lt_of_lt hshort)
  induction xs using scan_induction hpat with
  | hnil => exact Nat.le_refl _
  | hmatch xs ih =>
    rw [replace_match hpat, List.length_append, List.length_append]
    omega
  | hcons x xs hfront ih =>
    rw [replace_cons hfront, List.length_cons, List.length_cons]
    omega

theorem length_replace_lt (h : pat <:+: xs) : (replace pat rep xs).length < xs.length := by
  have hpat : pat ≠ [] := List.ne_nil_of_length_pos (Nat.zero_lt_of_lt hshort)
  induction xs using scan_induction hpat with
  | hnil => exact absurd (List.eq_nil_of_infix_nil h) hpat
  | hmatch xs ih =>
    have hle := length_replace_le hshort xs
    rw [replace_match hpat, List.length_append, List.length_append]
    omega
  | hcons x xs hfront ih =>
    have hrest := ih ((List.infix_cons_iff.mp h).resolve_left hfront)
    rw [replace_cons hfront, List.length_cons, List.length_cons]
    omega

end

section

def Coded (marker : α) (code : α → List α) : Prop :=
  ∀ x, code x = [x] ∨ ∃ body, code x = marker :: body ∧ marker ∉ body

def uncode (code : α → List α) (x : α) : α → List α := Function.update code x [x]

variable {marker : α} {code : α → List α} {body : List α}

omit [DecidableEq α] in
theorem prefix_of_coded (h : Coded marker code) (hbody : marker ∉ body)
    (hfront : body <+: xs.flatMap code) : body <+: xs := by
  induction body generalizing xs with
  | nil => exact List.nil_prefix
  | cons b body ih =>
    have hb : marker ≠ b := List.ne_of_not_mem_cons hbody
    have hrest : marker ∉ body := List.not_mem_of_not_mem_cons hbody
    cases xs with
    | nil => exact absurd (List.prefix_nil.mp hfront) (List.cons_ne_nil _ _)
    | cons x xs =>
      rw [List.flatMap_cons] at hfront
      rcases h x with hraw | ⟨rest, hcode, _⟩
      · rw [hraw, List.singleton_append, List.cons_prefix_cons] at hfront
        rw [hfront.1, List.cons_prefix_cons]
        exact ⟨rfl, ih hrest hfront.2⟩
      · rw [hcode, List.cons_append, List.cons_prefix_cons] at hfront
        exact absurd hfront.1.symm hb

theorem replace_code {rest : List α} (hrest : marker ∉ rest)
    (hother : ¬ marker :: body <+: marker :: rest ++ ys) :
    replace (marker :: body) rep (marker :: rest ++ ys) =
      marker :: rest ++ replace (marker :: body) rep ys := by
  apply replace_append
  intro pre suf hsplit hsuf hfront
  cases pre with
  | nil =>
    rw [List.nil_append] at hsplit
    rw [← hsplit] at hfront
    exact hother hfront
  | cons p pre =>
    cases suf with
    | nil => exact hsuf rfl
    | cons q suf =>
      rw [List.cons_append, List.cons_prefix_cons] at hfront
      have htail : rest = pre ++ q :: suf := (List.cons.inj hsplit).2
      apply hrest
      rw [htail, hfront.1]
      simp

theorem replace_marker (h : Coded marker code) (hmarker : code marker = marker :: body)
    (hother : ∀ x, x ≠ marker → ∀ ys, ¬ marker :: body <+: code x ++ ys) (xs : List α) :
    replace (marker :: body) [marker] (xs.flatMap code) = xs.flatMap (uncode code marker) := by
  induction xs with
  | nil => rfl
  | cons x xs ih =>
    rw [List.flatMap_cons, List.flatMap_cons]
    by_cases hx : x = marker
    · subst hx
      rw [hmarker, replace_match (List.cons_ne_nil _ _), ih, uncode, Function.update_self]
    · have hkept : uncode code marker x = code x := Function.update_of_ne hx _ _
      rw [hkept]
      rcases h x with hraw | ⟨rest, hcode, hrest⟩
      · have hfront : ¬ marker :: body <+: x :: xs.flatMap code := by
          intro hprefix
          exact hx (List.cons_prefix_cons.mp hprefix).1.symm
        rw [hraw, List.singleton_append, replace_cons hfront, ih, List.singleton_append]
      · have hnone := hother x hx (xs.flatMap code)
        rw [hcode] at hnone ⊢
        rw [replace_code hrest hnone, ih]

theorem replace_coded (h : Coded marker code) (hmarker : code marker = [marker]) {c : α}
    (hc : c ≠ marker) (hcode : code c = marker :: body) (hbody : marker ∉ body)
    (hplain : ∀ b ∈ body, code b = [b])
    (hother : ∀ x, x ≠ c → x ≠ marker → ∀ ys, ¬ marker :: body <+: code x ++ ys)
    (xs : List α) :
    replace (marker :: body) [c] (xs.flatMap code) =
      (replace (marker :: body) [c] xs).flatMap (uncode code c) := by
  have hself : (marker :: body).flatMap code = marker :: body := by
    have hcopy : body.flatMap code = body := by
      have hflat : body.flatMap code = body.flatMap (fun b => [b]) :=
        List.flatMap_congr hplain
      rw [hflat, List.flatMap_singleton']
    rw [List.flatMap_cons, hmarker, hcopy, List.singleton_append]
  induction xs using scan_induction (List.cons_ne_nil marker body) with
  | hnil => rfl
  | hmatch xs ih =>
    rw [List.flatMap_append, hself, replace_match (List.cons_ne_nil _ _),
      replace_match (List.cons_ne_nil _ _), List.flatMap_append, ih]
    simp [uncode]
  | hcons x xs hfront ih =>
    rw [List.flatMap_cons, replace_cons hfront, List.flatMap_cons]
    by_cases hx : x = c
    · subst hx
      rw [hcode, replace_match (List.cons_ne_nil _ _), ih, uncode, Function.update_self]
    · have hkept : uncode code c x = code x := Function.update_of_ne hx _ _
      rw [hkept, ← ih]
      have hsingle : code x = [x] → replace (marker :: body) [c] (code x ++ xs.flatMap code) =
          code x ++ replace (marker :: body) [c] (xs.flatMap code) := by
        intro hraw
        rw [hraw, List.singleton_append, List.singleton_append]
        apply replace_cons
        intro hprefix
        obtain ⟨hsame, htail⟩ := List.cons_prefix_cons.mp hprefix
        apply hfront
        rw [← hsame, List.cons_prefix_cons]
        exact ⟨rfl, prefix_of_coded h hbody htail⟩
      rcases h x with hraw | ⟨rest, hrest, hinner⟩
      · exact hsingle hraw
      · by_cases hm : x = marker
        · apply hsingle
          rw [hm, hmarker]
        · have hnone := hother x hx hm (xs.flatMap code)
          rw [hrest] at hnone ⊢
          exact replace_code hinner hnone

end

section

variable {body body' b : List α} {marker c : α}

theorem prefix_of_replace (hpat : pat ≠ []) (hc : c ∉ b) (h : b <+: replace pat [c] xs) :
    b <+: xs := by
  induction b generalizing xs with
  | nil => exact List.nil_prefix
  | cons y b ih =>
    have hy : c ≠ y := List.ne_of_not_mem_cons hc
    have hb : c ∉ b := List.not_mem_of_not_mem_cons hc
    cases xs with
    | nil => exact h
    | cons x xs =>
      by_cases hfront : pat <+: x :: xs
      · obtain ⟨rest, hrest⟩ := hfront
        rw [← hrest, replace_match hpat, List.singleton_append, List.cons_prefix_cons] at h
        exact absurd h.1.symm hy
      · rw [replace_cons hfront, List.cons_prefix_cons] at h
        rw [h.1, List.cons_prefix_cons]
        exact ⟨rfl, ih hb h.2⟩

theorem replace_comm (hm : marker ∉ body) (hm' : marker ∉ body') (hc : c ≠ marker)
    (hb : c ∉ body) (hb' : c ∉ body') (hother : ∀ ys, ¬ marker :: body <+: marker :: body' ++ ys)
    (hother' : ∀ ys, ¬ marker :: body' <+: marker :: body ++ ys) (xs : List α) :
    replace (marker :: body) [c] (replace (marker :: body') [c] xs) =
      replace (marker :: body') [c] (replace (marker :: body) [c] xs) := by
  have hpat : marker :: body ≠ [] := List.cons_ne_nil _ _
  have hpat' : marker :: body' ≠ [] := List.cons_ne_nil _ _
  have hfirst : ∀ (d : List α) (ys : List α), ¬ marker :: d <+: c :: ys := by
    intro d ys hprefix
    exact hc (List.cons_prefix_cons.mp hprefix).1.symm
  induction hlength : xs.length using Nat.strong_induction_on generalizing xs with
  | _ n ih =>
    cases xs with
    | nil => rfl
    | cons x xs =>
      by_cases hfront : marker :: body <+: x :: xs
      · obtain ⟨rest, hrest⟩ := hfront
        have hsum : body.length + 1 + rest.length = n := by
          rw [← hlength, ← hrest, List.length_append, List.length_cons]
        have hrec := ih rest.length (by omega) rest rfl
        rw [← hrest, replace_code hm (hother' rest), replace_match hpat, replace_match hpat,
          List.singleton_append, List.singleton_append, replace_cons (hfirst _ _), hrec]
      · by_cases hfront' : marker :: body' <+: x :: xs
        · obtain ⟨rest, hrest⟩ := hfront'
          have hsum : body'.length + 1 + rest.length = n := by
            rw [← hlength, ← hrest, List.length_append, List.length_cons]
          have hrec := ih rest.length (by omega) rest rfl
          rw [← hrest, replace_code hm' (hother rest), replace_match hpat', replace_match hpat',
            List.singleton_append, List.singleton_append, replace_cons (hfirst _ _), hrec]
        · have hsum : xs.length + 1 = n := hlength
          have hrec := ih xs.length (by omega) xs rfl
          have hstill : ∀ {d d' : List α}, c ∉ d → ¬ marker :: d <+: x :: xs →
              ¬ marker :: d <+: x :: replace (marker :: d') [c] xs := by
            intro d d' hd hnone hprefix
            obtain ⟨hx, hd'⟩ := List.cons_prefix_cons.mp hprefix
            apply hnone
            rw [hx, List.cons_prefix_cons]
            exact ⟨rfl, prefix_of_replace (List.cons_ne_nil _ _) hd hd'⟩
          rw [replace_cons hfront', replace_cons hfront, replace_cons (hstill hb hfront),
            replace_cons (hstill hb' hfront'), hrec]

end

section

def codeOf (table : List (α × List α)) (x : α) : List α := (table.lookup x).getD [x]

def encode (table : List (α × List α)) (xs : List α) : List α := xs.flatMap (codeOf table)

def decode (table : List (α × List α)) (xs : List α) : List α :=
  table.foldl (fun xs entry => replace entry.2 [entry.1] xs) xs

structure Codes (marker : α) (table : List (α × List α)) : Prop where
  opens : ∀ entry ∈ table, ∃ body, entry.2 = marker :: body ∧ marker ∉ body
  plain : ∀ entry ∈ table, ∀ other ∈ table, other.1 ≠ marker → other.1 ∉ entry.2
  keys : (table.map Prod.fst).Nodup
  apart : ∀ entry ∈ table, ∀ other ∈ table, entry.2 <+: other.2 → entry = other

variable {marker c : α} {e : List α} {table : List (α × List α)}

theorem mem_of_lookup (h : table.lookup x = some e) : (x, e) ∈ table := by
  obtain ⟨front, back, rfl, _⟩ := List.lookup_eq_some_iff.mp h
  simp

theorem codeOf_of_not_mem (h : x ∉ table.map Prod.fst) : codeOf table x = [x] := by
  have hnone : table.lookup x = none := by
    cases hlookup : table.lookup x with
    | none => rfl
    | some e => exact absurd (List.mem_map_of_mem (mem_of_lookup hlookup)) h
  rw [codeOf, hnone, Option.getD_none]

theorem codeOf_cases (table : List (α × List α)) (x : α) :
    codeOf table x = [x] ∨ (x, codeOf table x) ∈ table := by
  cases hlookup : table.lookup x with
  | none => simp [codeOf, hlookup]
  | some e =>
    right
    rw [codeOf, hlookup, Option.getD_some]
    exact mem_of_lookup hlookup

@[simp] theorem codeOf_nil (x : α) : codeOf [] x = [x] := rfl

theorem codeOf_cons (c : α) (e : List α) (table : List (α × List α)) (x : α) :
    codeOf ((c, e) :: table) x = if x = c then e else codeOf table x := by
  rw [codeOf, List.lookup_cons]
  by_cases hx : x = c
  · rw [if_pos hx, beq_iff_eq.mpr hx, Option.getD_some]
  · rw [if_neg hx, beq_eq_false_iff_ne.mpr hx, codeOf]

theorem codeOf_head (c : α) (e : List α) (table : List (α × List α)) :
    codeOf ((c, e) :: table) c = e := by
  rw [codeOf_cons, if_pos rfl]

theorem uncode_head (h : c ∉ table.map Prod.fst) :
    uncode (codeOf ((c, e) :: table)) c = codeOf table := by
  funext x
  by_cases hx : x = c
  · rw [hx, uncode, Function.update_self, codeOf_of_not_mem h]
  · rw [uncode, Function.update_of_ne hx, codeOf_cons, if_neg hx]

omit [DecidableEq α] in
theorem Codes.tail {entry : α × List α} (h : Codes marker (entry :: table)) :
    Codes marker table := by
  constructor
  · intro entry' hentry
    exact h.opens entry' (List.mem_cons_of_mem _ hentry)
  · intro entry' hentry other hother
    exact h.plain entry' (List.mem_cons_of_mem _ hentry) other (List.mem_cons_of_mem _ hother)
  · exact (List.nodup_cons.mp h.keys).2
  · intro entry' hentry other hother
    exact h.apart entry' (List.mem_cons_of_mem _ hentry) other (List.mem_cons_of_mem _ hother)

theorem Codes.coded (h : Codes marker table) : Coded marker (codeOf table) := by
  intro x
  rcases codeOf_cases table x with hraw | hcode
  · exact .inl hraw
  · exact .inr (h.opens _ hcode)

theorem Codes.not_prefix (h : Codes marker table) (hentry : (c, e) ∈ table) (hx : x ≠ c)
    (hmarker : x ≠ marker) (ys : List α) : ¬ e <+: codeOf table x ++ ys := by
  intro hprefix
  rcases codeOf_cases table x with hraw | hcode
  · obtain ⟨body, he, _⟩ := h.opens _ hentry
    have heq : e = marker :: body := he
    rw [hraw, heq, List.singleton_append, List.cons_prefix_cons] at hprefix
    exact hmarker hprefix.1.symm
  · rcases List.prefix_or_prefix_of_prefix hprefix (List.prefix_append _ ys) with hle | hge
    · exact hx (congrArg Prod.fst (h.apart _ hentry _ hcode hle)).symm
    · exact hx (congrArg Prod.fst (h.apart _ hcode _ hentry hge))

theorem decode_encode (h : Codes marker table) (hmarker : marker ∉ table.map Prod.fst)
    (xs : List α) : decode table (encode table xs) = decode table xs := by
  induction table generalizing xs with
  | nil =>
    have hraw : codeOf ([] : List (α × List α)) = fun x => [x] := funext codeOf_nil
    rw [encode, hraw, List.flatMap_singleton']
  | cons entry table ih =>
    obtain ⟨c, e⟩ := entry
    have hc : c ≠ marker := (List.ne_of_not_mem_cons hmarker).symm
    have hrest : marker ∉ table.map Prod.fst := List.not_mem_of_not_mem_cons hmarker
    have hkeys : c ∉ table.map Prod.fst := (List.nodup_cons.mp h.keys).1
    have hhead : (c, e) ∈ (c, e) :: table := List.mem_cons_self
    obtain ⟨body, he, hbody⟩ := h.opens _ hhead
    change e = marker :: body at he
    subst he
    have hself : codeOf ((c, marker :: body) :: table) c = marker :: body := codeOf_head _ _ _
    have hplain : ∀ b ∈ body, codeOf ((c, marker :: body) :: table) b = [b] := by
      intro b hb
      apply codeOf_of_not_mem
      intro hkey
      obtain ⟨other, hother, rfl⟩ := List.mem_map.mp hkey
      have hne : other.1 ≠ marker := fun heq => hbody (heq ▸ hb)
      exact h.plain _ hhead other hother hne (List.mem_cons_of_mem _ hb)
    have hstep : replace (marker :: body) [c] (encode ((c, marker :: body) :: table) xs) =
        encode table (replace (marker :: body) [c] xs) := by
      rw [encode, replace_coded h.coded (codeOf_of_not_mem hmarker) hc hself hbody hplain
        (fun x hx hm ys => h.not_prefix hhead hx hm ys), uncode_head hkeys, encode]
    rw [decode, List.foldl_cons, hstep, ← decode, ih h.tail hrest, decode, decode, List.foldl_cons]

theorem decode_encode_marker {m : List α} (h : Codes marker ((marker, m) :: table))
    (xs : List α) :
    decode ((marker, m) :: table) (encode ((marker, m) :: table) xs) = decode table xs := by
  have hkeys : marker ∉ table.map Prod.fst := (List.nodup_cons.mp h.keys).1
  have hhead : (marker, m) ∈ (marker, m) :: table := List.mem_cons_self
  obtain ⟨body, hm, hbody⟩ := h.opens _ hhead
  change m = marker :: body at hm
  subst hm
  have hself : codeOf ((marker, marker :: body) :: table) marker = marker :: body :=
    codeOf_head _ _ _
  have hstep : replace (marker :: body) [marker] (encode ((marker, marker :: body) :: table) xs) =
      encode table xs := by
    rw [encode, replace_marker h.coded hself (fun x hx ys => h.not_prefix hhead hx hx ys),
      uncode_head hkeys, encode]
  rw [decode, List.foldl_cons, hstep, ← decode, decode_encode h.tail hkeys]

theorem length_decode_le (hlong : ∀ entry ∈ table, 1 < entry.2.length) (xs : List α) :
    (decode table xs).length ≤ xs.length := by
  induction table generalizing xs with
  | nil => exact Nat.le_refl _
  | cons entry table ih =>
    have hentry : [entry.1].length < entry.2.length := hlong entry List.mem_cons_self
    have hle := length_replace_le hentry xs
    have hrest := ih (fun other hother => hlong other (List.mem_cons_of_mem _ hother))
      (replace entry.2 [entry.1] xs)
    rw [decode, List.foldl_cons, ← decode]
    omega

theorem decode_eq_self_iff (hlong : ∀ entry ∈ table, 1 < entry.2.length) :
    decode table xs = xs ↔ ∀ entry ∈ table, ¬ entry.2 <:+: xs := by
  induction table generalizing xs with
  | nil => simp [decode]
  | cons entry table ih =>
    have hentry : [entry.1].length < entry.2.length := hlong entry List.mem_cons_self
    have htail : ∀ other ∈ table, 1 < other.2.length :=
      fun other hother => hlong other (List.mem_cons_of_mem _ hother)
    rw [decode, List.foldl_cons, ← decode, List.forall_mem_cons]
    constructor
    · intro heq
      have hnone : ¬ entry.2 <:+: xs := by
        intro hinfix
        have hlt := length_replace_lt hentry hinfix
        have hle := length_decode_le htail (replace entry.2 [entry.1] xs)
        rw [heq] at hle
        omega
      rw [replace_of_absent hnone] at heq
      exact ⟨hnone, (ih htail).mp heq⟩
    · rintro ⟨hnone, hrest⟩
      rw [replace_of_absent hnone]
      exact (ih htail).mpr hrest

end

end Vokusz.Lib.Replace
