import Vokusz.Lib.Table

namespace Vokusz.Lib.Pages

structure Page (ρ κ : Type) where
  rows : List ρ
  next : Option κ
  deriving DecidableEq

variable {ρ κ : Type} [LinearOrder κ] (key : ρ → κ)

def beyond (after : Option κ) (rows : List ρ) : List ρ :=
  rows.filter (fun r => after.all (fun k => k < key r))

def cut (limit : Nat) (rows : List ρ) : Page ρ κ :=
  { rows := rows.take limit
    next := if limit < rows.length then (rows.take limit).getLast?.map key else none }

def cutPast (spare limit : Nat) (rows : List ρ) : Page ρ κ :=
  { rows := rows.take limit
    next := if limit + spare ≤ rows.length then (rows.take limit).getLast?.map key else none }

def Aligned (spare limit : Nat) (rows : List ρ) : Prop :=
  ∀ n < rows.length, limit ∣ n + 1 → n + 1 + spare ≤ rows.length → ∀ last ∈ rows[n]?,
    (∀ r ∈ rows.take n, key r ≤ key last) ∧ ∀ r ∈ rows.drop (n + 1), key last < key r

instance (spare limit : Nat) (rows : List ρ) : Decidable (Aligned key spare limit rows) := by
  unfold Aligned
  infer_instance

def walk (serve : Option κ → Option (Page ρ κ)) : Nat → Option κ → Option (List ρ)
  | 0, _ => none
  | fuel + 1, after =>
    (serve after).bind (fun page =>
      match page.next with
      | none => some page.rows
      | some k => (walk serve fuel (some k)).map (page.rows ++ ·))

variable {key} {spare limit : Nat} {rows front back : List ρ} {last : ρ} {k : κ}
  {serve : Option κ → Option (Page ρ κ)}

@[simp] theorem beyond_none : beyond key none rows = rows := by simp [beyond]

theorem mem_beyond_some {r : ρ} : r ∈ beyond key (some k) rows ↔ r ∈ rows ∧ k < key r := by
  simp [beyond]

omit [LinearOrder κ] in
theorem cut_short (h : rows.length ≤ limit) :
    cut key limit rows = { rows := rows, next := none } := by
  simp [cut, List.take_of_length_le h, not_lt.mpr h]

theorem beyond_beyond {after : Option κ} (h : after.all (fun k' => k' ≤ k) = true) :
    beyond key (some k) (beyond key after rows) = beyond key (some k) rows := by
  simp only [beyond, List.filter_filter]
  refine List.filter_congr (fun r _ => ?_)
  cases after with
  | none => simp
  | some k' =>
    have hle : k' ≤ k := by simpa using h
    by_cases hr : k < key r
    · simp [hr, lt_of_le_of_lt hle hr]
    · simp [hr]

omit [LinearOrder κ] in
theorem cut_next_some (h : limit < rows.length) (hpos : 0 < limit) :
    ∃ front last, rows.take limit = front ++ [last] ∧
      (cut key limit rows).next = some (key last) := by
  have hne : rows.take limit ≠ [] := by
    intro hnil
    have hlen := congrArg List.length hnil
    rw [List.length_take, List.length_nil] at hlen
    omega
  refine ⟨(rows.take limit).dropLast, (rows.take limit).getLast hne,
    (List.dropLast_append_getLast hne).symm, ?_⟩
  simp only [cut, if_pos h, List.getLast?_eq_getLast_of_ne_nil hne, Option.map_some]

omit [LinearOrder κ] in
theorem cutPast_short (h : rows.length < limit + spare) :
    (cutPast key spare limit rows).next = none := if_neg (not_le.mpr h)

omit [LinearOrder κ] in
theorem cutPast_full (hlimit : front.length + 1 = limit) (h : spare ≤ back.length) :
    cutPast key spare limit (front ++ last :: back) =
      { rows := front ++ [last], next := some (key last) } := by
  have htake : (front ++ last :: back).take limit = front ++ [last] := by
    rw [← hlimit, List.take_append, List.take_of_length_le (by omega)]
    simp
  have hlength : limit + spare ≤ (front ++ last :: back).length := by
    rw [List.length_append, List.length_cons]
    omega
  rw [cutPast, if_pos hlength, htake, List.getLast?_concat, Option.map_some]

theorem page_end (hpos : 0 < limit) (h : limit + spare ≤ rows.length) :
    ∃ front last back, rows = front ++ last :: back ∧ front.length + 1 = limit ∧
      spare ≤ back.length := by
  have hlt : limit - 1 < rows.length := by omega
  refine ⟨rows.take (limit - 1), rows[limit - 1], rows.drop limit, ?_, ?_, ?_⟩
  · have hdrop := List.drop_eq_getElem_cons hlt
    rw [Nat.sub_add_cancel hpos] at hdrop
    rw [← hdrop, List.take_append_drop]
  · rw [List.length_take]
    omega
  · rw [List.length_drop]
    omega

theorem aligned_iff : Aligned key spare limit rows ↔
    ∀ front last back, rows = front ++ last :: back → limit ∣ front.length + 1 →
      spare ≤ back.length →
        (∀ r ∈ front, key r ≤ key last) ∧ ∀ r ∈ back, key last < key r := by
  constructor
  · rintro h front last back rfl hdvd hspare
    have hlength : (front ++ last :: back).length = front.length + (back.length + 1) := by simp
    have hparts := h front.length (by omega) hdvd (by omega) last (by simp)
    simpa using hparts
  · intro h n hn hdvd hspare last hlast
    have hlast : rows[n] = last := by simpa [hn] using hlast
    have hdrop := List.drop_eq_getElem_cons hn
    have hlength : (rows.take n).length = n := by simp [hn.le]
    refine h (rows.take n) last (rows.drop (n + 1)) ?_ (by rwa [hlength]) ?_
    · rw [← hlast, ← hdrop, List.take_append_drop]
    · rw [List.length_drop]
      omega

theorem aligned_short (h : rows.length < limit + spare) :
    Aligned key spare limit rows := by
  rw [aligned_iff]
  rintro front last back rfl hdvd hspare
  have hle := Nat.le_of_dvd (Nat.succ_pos _) hdvd
  rw [List.length_append, List.length_cons] at h
  omega

theorem aligned_full (hlimit : front.length + 1 = limit) (h : spare ≤ back.length) :
    Aligned key spare limit (front ++ last :: back) ↔
      (∀ r ∈ front, key r ≤ key last) ∧ (∀ r ∈ back, key last < key r) ∧
        Aligned key spare limit back := by
  rw [aligned_iff, aligned_iff]
  constructor
  · intro hends
    obtain ⟨hfront, hback⟩ := hends front last back rfl (hlimit ▸ Nat.dvd_refl _) h
    refine ⟨hfront, hback, ?_⟩
    rintro front' last' back' rfl hdvd hspare
    have hlength : (front ++ last :: front').length + 1 = limit + (front'.length + 1) := by
      rw [List.length_append, List.length_cons]
      omega
    have hlater := hends (front ++ last :: front') last' back' (by simp)
      (by rw [hlength]; exact Nat.dvd_add (Nat.dvd_refl _) hdvd) hspare
    exact ⟨fun r hr => hlater.1 r (by simp [hr]), hlater.2⟩
  · rintro ⟨hfront, hback, hends⟩ front' last' back' hrows hdvd hspare
    have hle := Nat.le_of_dvd (Nat.succ_pos _) hdvd
    rcases List.append_eq_append_iff.mp hrows with ⟨between, rfl, htail⟩ | ⟨between, rfl, htail⟩
    · cases between with
      | nil =>
        obtain ⟨rfl, rfl⟩ := List.cons.inj htail
        simpa using ⟨hfront, hback⟩
      | cons first between =>
        obtain ⟨rfl, rfl⟩ := List.cons.inj htail
        have hlength : (front ++ last :: between).length + 1 = limit + (between.length + 1) := by
          rw [List.length_append, List.length_cons]
          omega
        rw [hlength, Nat.dvd_add_right (Nat.dvd_refl _)] at hdvd
        obtain ⟨hbetween, hlater⟩ := hends between last' back' rfl hdvd hspare
        have hlast : key last < key last' := hback last' (by simp)
        refine ⟨?_, hlater⟩
        intro r hr
        rcases List.mem_append.mp hr with hr | hr
        · exact (hfront r hr).trans hlast.le
        · rcases List.mem_cons.mp hr with rfl | hr
          · exact hlast.le
          · exact hbetween r hr
    · cases between with
      | nil =>
        obtain ⟨rfl, rfl⟩ := List.cons.inj htail
        simp only [List.append_nil] at hfront
        exact ⟨hfront, hback⟩
      | cons first between =>
        rw [List.length_append, List.length_cons] at hlimit
        omega

theorem beyond_passed_over (hback : ∀ r ∈ back, key last < key r) :
    beyond key (some (key last)) (front ++ last :: back) =
      front.filter (fun r => key last < key r) ++ back := by
  have hkept : back.filter (fun r => key last < key r) = back :=
    List.filter_eq_self.mpr (by simpa using hback)
  simp [beyond, hkept]

theorem beyond_parted (hfront : ∀ r ∈ front, key r ≤ key last)
    (hback : ∀ r ∈ back, key last < key r) :
    beyond key (some (key last)) (front ++ last :: back) = back := by
  have hnone : ∀ r ∈ front, ¬ key last < key r := fun r hr => not_lt.mpr (hfront r hr)
  rw [beyond_passed_over hback, List.filter_eq_nil_iff.mpr (by simpa using hnone), List.nil_append]

theorem beyond_page_end {after : Option κ} (h : beyond key after rows = front ++ last :: back) :
    beyond key (some (key last)) rows = beyond key (some (key last)) (front ++ last :: back) := by
  have hlast : last ∈ beyond key after rows := by
    rw [h]
    simp
  have hafter : after.all (fun k' => k' ≤ key last) = true := by
    cases after with
    | none => rfl
    | some k' => simpa using le_of_lt (mem_beyond_some.mp hlast).2
  rw [← h, beyond_beyond hafter]

omit [LinearOrder κ] in
theorem mem_walk_of_mem_page {fuel : Nat} {after : Option κ} {page : Page ρ κ} {received : List ρ}
    (hfirst : serve after = some page) (hwalk : walk serve fuel after = some received) {r : ρ}
    (hr : r ∈ page.rows) : r ∈ received := by
  cases fuel with
  | zero => cases hwalk
  | succ fuel =>
    rw [walk, hfirst, Option.bind_some] at hwalk
    cases hnext : page.next with
    | none =>
      simp only [hnext, Option.some.injEq] at hwalk
      rwa [← hwalk]
    | some k' =>
      simp only [hnext] at hwalk
      obtain ⟨rest, -, rfl⟩ := Option.map_eq_some_iff.mp hwalk
      exact List.mem_append_left _ hr

omit [LinearOrder κ] in
theorem walk_two_pages {first second received : List ρ} {fuel : Nat}
    (hfirst : serve none = some { rows := first, next := some k })
    (hsecond : serve (some k) = some { rows := second, next := none })
    (hwalk : walk serve fuel none = some received) : received = first ++ second := by
  cases fuel with
  | zero => cases hwalk
  | succ fuel =>
    rw [walk, hfirst] at hwalk
    cases fuel with
    | zero => simp [walk] at hwalk
    | succ fuel => simpa [walk, hsecond] using hwalk.symm

omit [LinearOrder κ] in
theorem walk_unique {fuel fuel' : Nat} {after : Option κ} {received received' : List ρ}
    (hwalk : walk serve fuel after = some received)
    (hwalk' : walk serve fuel' after = some received') : received = received' := by
  induction fuel generalizing fuel' after received received' with
  | zero => cases hwalk
  | succ fuel ih =>
    cases fuel' with
    | zero => cases hwalk'
    | succ fuel' =>
      rw [walk] at hwalk hwalk'
      obtain ⟨page, hpage, hwalk⟩ := Option.bind_eq_some_iff.mp hwalk
      rw [hpage, Option.bind_some] at hwalk'
      cases hnext : page.next with
      | none =>
        simp only [hnext, Option.some.injEq] at hwalk hwalk'
        exact hwalk.symm.trans hwalk'
      | some k =>
        simp only [hnext] at hwalk hwalk'
        obtain ⟨later, hlater, rfl⟩ := Option.map_eq_some_iff.mp hwalk
        obtain ⟨later', hlater', rfl⟩ := Option.map_eq_some_iff.mp hwalk'
        rw [ih hlater hlater']

section

variable (hserve : ∀ k, serve (some k) = some (cutPast key spare limit (beyond key (some k) rows)))

include hserve

theorem walkPast_beyond {fuel : Nat} {received : List ρ}
    (h : walk serve fuel (some k) = some received) : ∀ r ∈ received, k < key r := by
  induction fuel generalizing k received with
  | zero => simp [walk] at h
  | succ fuel ih =>
    rw [walk, hserve, Option.bind_some] at h
    have hpage : ∀ r ∈ (cutPast key spare limit (beyond key (some k) rows)).rows, k < key r :=
      fun r hr => (mem_beyond_some.mp (List.mem_of_mem_take hr)).2
    cases hnext : (cutPast key spare limit (beyond key (some k) rows)).next with
    | none =>
      simp only [hnext, Option.some.injEq] at h
      exact h ▸ hpage
    | some k' =>
      simp only [hnext] at h
      obtain ⟨rest, hwalk, rfl⟩ := Option.map_eq_some_iff.mp h
      have hk : k < k' := by
        simp only [cutPast] at hnext
        split at hnext
        · obtain ⟨last, hlast, rfl⟩ := Option.map_eq_some_iff.mp hnext
          exact hpage last (List.mem_of_getLast? hlast)
        · cases hnext
      intro r hr
      rcases List.mem_append.mp hr with hfirst | hlater
      · exact hpage r hfirst
      · exact lt_trans hk (ih hwalk r hlater)

theorem walk_aligned (hpos : 0 < limit) (hone : spare ≤ 1) {after : Option κ}
    (hfirst : serve after = some (cutPast key spare limit (beyond key after rows)))
    (haligned : Aligned key spare limit (beyond key after rows)) {fuel : Nat}
    (hfuel : (beyond key after rows).length < fuel) :
    walk serve fuel after = some (beyond key after rows) := by
  induction fuel generalizing after with
  | zero => omega
  | succ fuel ih =>
    rw [walk, hfirst, Option.bind_some]
    by_cases hlong : limit + spare ≤ (beyond key after rows).length
    · obtain ⟨front, last, back, hrows, hlimit, hspare⟩ := page_end hpos hlong
      have hrest := beyond_page_end hrows
      rw [hrows] at haligned hfuel ⊢
      obtain ⟨hfront, hback, hlater⟩ := (aligned_full hlimit hspare).mp haligned
      rw [beyond_parted hfront hback] at hrest
      rw [List.length_append, List.length_cons] at hfuel
      simp only [cutPast_full hlimit hspare]
      rw [ih (hserve _) (by rwa [hrest]) (by rw [hrest]; omega), hrest]
      simp
    · rw [not_le] at hlong
      rw [cutPast_short hlong, cutPast, List.take_of_length_le (by omega)]

theorem aligned_of_walk (hpos : 0 < limit) {after : Option κ} {received : List ρ} {fuel : Nat}
    (hfirst : serve after = some (cutPast key spare limit (beyond key after rows)))
    (hnodup : (beyond key after rows).Nodup) (hwalk : walk serve fuel after = some received)
    (hperm : received.Perm (beyond key after rows)) :
    Aligned key spare limit (beyond key after rows) := by
  induction fuel generalizing after received with
  | zero => cases hwalk
  | succ fuel ih =>
    by_cases hlong : limit + spare ≤ (beyond key after rows).length
    · obtain ⟨front, last, back, hrows, hlimit, hspare⟩ := page_end hpos hlong
      have hrest := beyond_page_end hrows
      rw [hrows] at hfirst hnodup hperm ⊢
      rw [walk, hfirst, Option.bind_some, cutPast_full hlimit hspare] at hwalk
      obtain ⟨rest, hlater, rfl⟩ := Option.map_eq_some_iff.mp hwalk
      have hpermRest : rest.Perm back := by
        rw [List.append_assoc] at hperm
        exact (List.perm_cons last).mp ((List.perm_append_left_iff front).mp hperm)
      have hback : ∀ r ∈ back, key last < key r := fun r hr =>
        walkPast_beyond hserve hlater r (hpermRest.mem_iff.mpr hr)
      have hfront : ∀ r ∈ front, key r ≤ key last := by
        intro r hr
        by_contra hover
        have hover : r ∈ front.filter (fun r => key last < key r) :=
          List.mem_filter.mpr ⟨hr, by simpa using hover⟩
        obtain ⟨first, larger, hsplit⟩ := List.exists_cons_of_ne_nil (List.ne_nil_of_mem hover)
        have hfirst : first ∈ front :=
          List.mem_of_mem_filter (p := fun r => decide (key last < key r)) (by rw [hsplit]; simp)
        have hpage : beyond key (some (key last)) rows = first :: (larger ++ back) := by
          rw [hrest, beyond_passed_over hback, hsplit, List.cons_append]
        have hmem : first ∈ rest := by
          refine mem_walk_of_mem_page (hserve _) hlater ?_
          rw [hpage]
          obtain ⟨n, rfl⟩ := Nat.exists_eq_succ_of_ne_zero hpos.ne'
          simp [cutPast]
        exact (List.nodup_append.mp hnodup).2.2 first hfirst first
          (List.mem_cons_of_mem _ (hpermRest.mem_iff.mp hmem)) rfl
      rw [beyond_parted hfront hback] at hrest
      rw [aligned_full hlimit hspare]
      refine ⟨hfront, hback, ?_⟩
      have hnodupBack : back.Nodup := (List.nodup_append.mp hnodup).2.1.of_cons
      rw [← hrest]
      rw [← hrest] at hnodupBack hpermRest
      exact ih (hserve _) hnodupBack hlater hpermRest
    · exact aligned_short (not_le.mp hlong)

theorem walk_perm_iff (hpos : 0 < limit) (hone : spare ≤ 1) (hnodup : rows.Nodup)
    (hfirst : serve none = some (cutPast key spare limit rows)) :
    (∃ fuel received, walk serve fuel none = some received ∧ received.Perm rows) ↔
      Aligned key spare limit rows := by
  have hfirst : serve none = some (cutPast key spare limit (beyond key none rows)) := by
    rwa [beyond_none]
  constructor
  · rintro ⟨fuel, received, hwalk, hperm⟩
    have haligned := aligned_of_walk hserve hpos hfirst (by rwa [beyond_none]) hwalk
      (by rwa [beyond_none])
    rwa [beyond_none] at haligned
  · intro haligned
    refine ⟨rows.length + 1, rows, ?_, List.Perm.refl rows⟩
    have hwalk := walk_aligned hserve hpos hone hfirst (by rwa [beyond_none])
      (by rw [beyond_none]; exact Nat.lt_succ_self _)
    rwa [beyond_none] at hwalk

end

theorem aligned_of_ascending (hsorted : rows.Pairwise (fun a b => key a < key b)) :
    Aligned key spare limit rows := by
  rw [aligned_iff]
  rintro front last back rfl - -
  obtain ⟨-, hlast, hfront⟩ := List.pairwise_append.mp hsorted
  exact ⟨fun r hr => le_of_lt (hfront r hr last (by simp)), fun r hr =>
    List.rel_of_pairwise_cons hlast hr⟩

theorem aligned_of_descending (hpos : 0 < limit)
    (hsorted : rows.Pairwise (fun a b => key b < key a)) :
    Aligned key 1 limit rows ↔ rows.length ≤ limit := by
  constructor
  · intro haligned
    by_contra hlong
    have hlong : limit + 1 ≤ rows.length := by omega
    obtain ⟨front, last, back, rfl, hlimit, hspare⟩ := page_end hpos hlong
    obtain ⟨first, later, rfl⟩ := List.exists_cons_of_length_pos hspare
    have hover := ((aligned_full hlimit hspare).mp haligned).2.1 first (by simp)
    have hunder := List.rel_of_pairwise_cons (List.pairwise_append.mp hsorted).2.1
      (List.mem_cons_self (a := first) (l := later))
    exact lt_asymm hover hunder
  · intro hshort
    exact aligned_short (by omega)

section

variable (hserve : ∀ k, serve (some k) = some (cut key limit (beyond key (some k) rows)))

include hserve

theorem walk_ascending (hpos : 0 < limit) (hsorted : rows.Pairwise (fun a b => key a < key b))
    {after : Option κ} (hfirst : serve after = some (cut key limit (beyond key after rows)))
    {fuel : Nat} (hfuel : (beyond key after rows).length < fuel) :
    walk serve fuel after = some (beyond key after rows) :=
  walk_aligned hserve hpos (Nat.le_refl 1) hfirst (aligned_of_ascending (hsorted.filter _)) hfuel

section

variable (hfirst : serve none = some (cut key limit rows.reverse))

include hfirst

omit hserve [LinearOrder κ] in
theorem walk_newest_first_short (h : rows.length ≤ limit) (fuel : Nat) :
    walk serve (fuel + 1) none = some rows.reverse := by
  rw [walk, hfirst, Option.bind_some, cut_short (by simpa using h)]

theorem walk_newest_first_iff (hpos : 0 < limit) [DecidableEq ρ]
    (hsorted : rows.Pairwise (fun a b => key a ≤ key b)) :
    (∃ fuel received, walk serve fuel none = some received ∧ received.Perm rows) ↔
      rows.length ≤ limit := by
  constructor
  · rintro ⟨fuel, received, hwalk, hperm⟩
    by_contra hlong
    rw [not_le] at hlong
    cases fuel with
    | zero => cases hwalk
    | succ fuel =>
      cases hrows : rows with
      | nil => simp [hrows] at hlong
      | cons oldest newer =>
        obtain ⟨front, last, htake, hnext⟩ :=
          @cut_next_some _ _ key _ rows.reverse (by simpa using hlong) hpos
        have hfits : limit ≤ newer.reverse.length := by
          rw [hrows, List.length_cons] at hlong
          rw [List.length_reverse]
          omega
        have hpage : rows.reverse.take limit = newer.reverse.take limit := by
          rw [hrows, List.reverse_cons, List.take_append_of_le_length hfits]
        have hlast : key oldest ≤ key last := by
          have hmem : last ∈ newer.reverse.take limit := by
            rw [← hpage, htake]
            simp
          rw [hrows] at hsorted
          exact List.rel_of_pairwise_cons hsorted
            (List.mem_reverse.mp (List.mem_of_mem_take hmem))
        rw [walk, hfirst, Option.bind_some] at hwalk
        simp only [hnext] at hwalk
        obtain ⟨rest, hrest, rfl⟩ := Option.map_eq_some_iff.mp hwalk
        have hlater : ∀ k, serve (some k) =
            some (cutPast key 1 limit (beyond key (some k) rows)) := hserve
        have hnone : rest.count oldest = 0 := List.count_eq_zero.mpr (fun hmem =>
          absurd (walkPast_beyond hlater hrest oldest hmem) (not_lt.mpr hlast))
        have hfew : (newer.reverse.take limit).count oldest ≤ newer.count oldest := by
          rw [← List.count_reverse (l := newer)]
          exact (List.take_sublist _ _).count_le _
        have hfirstPage : (cut key limit rows.reverse).rows = newer.reverse.take limit := hpage
        have hcount := hperm.count_eq oldest
        rw [List.count_append, hfirstPage, hnone, hrows, List.count_cons_self] at hcount
        omega
  · intro h
    exact ⟨1, rows.reverse, walk_newest_first_short hfirst h 0, List.reverse_perm rows⟩

end

end

end Vokusz.Lib.Pages
