import Mathlib.Data.List.Sublists
import Vokusz.Json

namespace Vokusz.Gateway.Resume

@[irreducible] def REPLAY_BUFFER_LIMIT : Nat := 256

abbrev Buffer := List (Nat × Json)

structure Handover where
  seq : Nat
  buffer : Buffer
deriving DecidableEq

def evict (buffer : Buffer) : Buffer := buffer.drop (buffer.length - REPLAY_BUFFER_LIMIT)

def push (buffer : Buffer) (seq : Nat) (payload : Json) : Buffer :=
  evict (buffer ++ [(seq, payload)])

def missedEntries (buffer : Buffer) (currentSeq afterSeq : Nat) : Option Buffer :=
  if afterSeq > currentSeq then none
  else if afterSeq = currentSeq then some []
  else
    match buffer.head? with
    | some (oldest, _) =>
      if oldest ≤ afterSeq + 1 then some (buffer.filter (fun e => afterSeq < e.1)) else none
    | none => none

def missedSince (buffer : Buffer) (currentSeq afterSeq : Nat) : Option (List Json) :=
  (missedEntries buffer currentSeq afterSeq).map (List.map Prod.snd)

theorem missedEntries_subset {buffer missed : Buffer} {currentSeq afterSeq : Nat}
    (h : missedEntries buffer currentSeq afterSeq = some missed) : missed ⊆ buffer := by
  unfold missedEntries at h
  split at h
  · cases h
  · split at h
    · cases h
      exact List.nil_subset _
    · split at h
      · split at h
        · cases h
          exact List.filter_subset_self _
        · cases h
      · cases h

theorem evict_suffix (buffer : Buffer) : evict buffer <:+ buffer := List.drop_suffix _ _

theorem evict_length (buffer : Buffer) : (evict buffer).length ≤ REPLAY_BUFFER_LIMIT := by
  simp only [evict, List.length_drop]
  omega

theorem push_length (buffer : Buffer) (seq : Nat) (payload : Json) :
    (push buffer seq payload).length ≤ REPLAY_BUFFER_LIMIT := evict_length _

theorem push_suffix {buffer retained : Buffer} (h : buffer <:+ retained) (seq : Nat)
    (payload : Json) : push buffer seq payload <:+ retained ++ [(seq, payload)] := by
  obtain ⟨old, rfl⟩ := h
  rw [List.append_assoc]
  exact (evict_suffix _).trans (List.suffix_append _ _)

def Increasing (entries : Buffer) : Prop := entries.Pairwise (fun a b => a.1 < b.1)

def upTo (entries : Buffer) (n : Nat) : Buffer := entries.filter (fun e => e.1 ≤ n)

def beyond (entries : Buffer) (n : Nat) : Buffer := entries.filter (fun e => n < e.1)

theorem upTo_of_lt {entries : Buffer} {n : Nat} (h : ∀ e ∈ entries, n < e.1) :
    upTo entries n = [] :=
  List.filter_eq_nil_iff.mpr (fun e he => by simpa using h e he)

theorem beyond_of_le {entries : Buffer} {n : Nat} (h : ∀ e ∈ entries, e.1 ≤ n) :
    beyond entries n = [] :=
  List.filter_eq_nil_iff.mpr (fun e he => by simpa using h e he)

theorem upTo_append_beyond {entries : Buffer} (h : Increasing entries) (n : Nat) :
    upTo entries n ++ beyond entries n = entries := by
  induction entries with
  | nil => rfl
  | cons e entries ih =>
    obtain ⟨hhead, htail⟩ := List.pairwise_cons.mp h
    have hrest := ih htail
    by_cases he : e.1 ≤ n
    · have hnot : ¬ n < e.1 := by omega
      simpa [upTo, beyond, he, hnot] using hrest
    · have hlt : n < e.1 := by omega
      have hempty : upTo entries n = [] :=
        upTo_of_lt (fun x hx => hlt.trans (hhead x hx))
      simp only [upTo, beyond] at hrest hempty
      rw [hempty, List.nil_append] at hrest
      simp [upTo, beyond, he, hlt, hempty, hrest]

theorem missedEntries_eq_beyond {buffer retained missed : Buffer} {currentSeq afterSeq : Nat}
    (hinc : Increasing retained) (hsuffix : buffer <:+ retained)
    (hbound : ∀ e ∈ retained, e.1 ≤ currentSeq)
    (hmissed : missedEntries buffer currentSeq afterSeq = some missed) :
    missed = beyond retained afterSeq := by
  unfold missedEntries at hmissed
  by_cases hgt : afterSeq > currentSeq
  · simp [hgt] at hmissed
  rw [if_neg hgt] at hmissed
  by_cases heq : afterSeq = currentSeq
  · rw [if_pos heq] at hmissed
    cases hmissed
    subst heq
    exact (beyond_of_le hbound).symm
  rw [if_neg heq] at hmissed
  obtain ⟨old, rfl⟩ := hsuffix
  cases buffer with
  | nil => simp at hmissed
  | cons front rest =>
    obtain ⟨oldest, payload⟩ := front
    simp only [List.head?_cons] at hmissed
    by_cases hcover : oldest ≤ afterSeq + 1
    · rw [if_pos hcover] at hmissed
      cases hmissed
      have hold : beyond old afterSeq = [] := by
        apply beyond_of_le
        intro e he
        have hlt : e.1 < oldest :=
          (List.pairwise_append.mp hinc).2.2 e he (oldest, payload) (by simp)
        omega
      simp only [beyond] at hold
      simp only [beyond, List.filter_append, hold, List.nil_append]
    · simp [hcover] at hmissed

theorem upTo_of_prefix {received retained : Buffer} {n : Nat} (hinc : Increasing retained)
    (hbehind : received <+: retained)
    (hafter : (∃ e ∈ received, e.1 = n) ∨ ∀ e ∈ retained, n < e.1) :
    upTo received n = upTo retained n := by
  obtain ⟨rest, rfl⟩ := hbehind
  have hrest : upTo rest n = [] := by
    apply upTo_of_lt
    intro e he
    rcases hafter with ⟨x, hx, rfl⟩ | hall
    · exact (List.pairwise_append.mp hinc).2.2 x hx e he
    · exact hall e (by simp [he])
  simp only [upTo] at hrest
  simp only [upTo, List.filter_append, hrest, List.append_nil]

def succU64 (n : Nat) : Option Nat := if n + 1 < UInt64.size then some (n + 1) else none

def missedSinceU64 (buffer : Buffer) (currentSeq afterSeq : Nat) : Option (Option (List Json)) :=
  if afterSeq > currentSeq then some none
  else if afterSeq = currentSeq then some (some [])
  else
    match buffer.head? with
    | some (oldest, _) =>
      (succU64 afterSeq).map (fun next =>
        if oldest ≤ next then
          some ((buffer.filter (fun e => afterSeq < e.1)).map Prod.snd)
        else none)
    | none => some none

def numbered : Nat → List Json → Buffer
  | _, [] => []
  | start, payload :: payloads => (start + 1, payload) :: numbered (start + 1) payloads

def pushAll (buffer : Buffer) (entries : Buffer) : Buffer :=
  entries.foldl (fun buffer e => push buffer e.1 e.2) buffer

section

variable {start n afterSeq : Nat} {payloads : List Json}

theorem missedSinceU64_eq {buffer : Buffer} {currentSeq afterSeq : Nat}
    (h : currentSeq < UInt64.size) :
    missedSinceU64 buffer currentSeq afterSeq = some (missedSince buffer currentSeq afterSeq) := by
  unfold missedSinceU64 missedSince missedEntries
  split
  · rfl
  rename_i hle
  split
  · rfl
  rename_i hne
  have hnext : succU64 afterSeq = some (afterSeq + 1) := if_pos (by omega)
  cases buffer with
  | nil => rfl
  | cons e buffer =>
    simp only [List.head?_cons, hnext, Option.map_some]
    split <;> rfl

theorem evict_append (old entries : Buffer) : evict (evict old ++ entries) = evict (old ++ entries) := by
  have hlimit : (evict old).length ≤ REPLAY_BUFFER_LIMIT := evict_length old
  unfold evict at hlimit ⊢
  simp only [List.length_append, List.length_drop] at hlimit ⊢
  rw [← List.drop_append_of_le_length (Nat.sub_le _ _), List.drop_drop]
  congr 1
  omega

theorem pushAll_evict (old entries : Buffer) :
    pushAll (evict old) entries = evict (old ++ entries) := by
  induction entries generalizing old with
  | nil => rw [pushAll, List.foldl_nil, List.append_nil]
  | cons e entries ih =>
    have hpush : push (evict old) e.1 e.2 = evict (old ++ [e]) := evict_append old [e]
    have hrest := ih (old ++ [e])
    rw [List.append_assoc, List.singleton_append] at hrest
    rw [pushAll, List.foldl_cons, hpush]
    exact hrest

theorem pushAll_eq (entries : Buffer) : pushAll [] entries = evict entries := by
  have hempty : evict [] = [] := List.drop_nil
  have h := pushAll_evict [] entries
  rwa [List.nil_append, hempty] at h

theorem length_numbered : (numbered start payloads).length = payloads.length := by
  induction payloads generalizing start with
  | nil => rfl
  | cons payload payloads ih => rw [numbered, List.length_cons, List.length_cons, ih]

theorem drop_numbered : (numbered start payloads).drop n = numbered (start + n) (payloads.drop n) := by
  induction n generalizing start payloads with
  | zero => rfl
  | succ n ih =>
    cases payloads with
    | nil => rfl
    | cons payload payloads =>
      rw [numbered, List.drop_succ_cons, List.drop_succ_cons, ih]
      congr 1
      omega

theorem lt_of_mem_numbered {e : Nat × Json} (h : e ∈ numbered start payloads) : start < e.1 := by
  induction payloads generalizing start with
  | nil => cases h
  | cons payload payloads ih =>
    rcases List.mem_cons.mp h with rfl | h
    · exact Nat.lt_succ_self start
    · have hlt := ih h
      omega

theorem beyond_numbered : beyond (numbered start payloads) n =
    (numbered start payloads).drop (n - start) := by
  induction payloads generalizing start with
  | nil => simp [numbered, beyond]
  | cons payload payloads ih =>
    cases Nat.lt_or_ge n (start + 1) with
    | inl hlt =>
      have hzero : n - start = 0 := by omega
      rw [hzero, List.drop_zero]
      refine List.filter_eq_self.mpr (fun e he => ?_)
      have hstart := lt_of_mem_numbered he
      simp only [decide_eq_true_eq]
      omega
    | inr hge =>
      have hskip : n - start = (n - (start + 1)) + 1 := by omega
      have hnot : ¬ n < start + 1 := by omega
      have hrest : beyond (numbered (start + 1) payloads) n =
          (numbered (start + 1) payloads).drop (n - (start + 1)) := ih
      rw [hskip, numbered, List.drop_succ_cons, ← hrest]
      simp [beyond, hnot]

theorem evict_numbered : evict (numbered start payloads) =
    numbered (start + (payloads.length - REPLAY_BUFFER_LIMIT))
      (payloads.drop (payloads.length - REPLAY_BUFFER_LIMIT)) := by
  rw [evict, length_numbered, drop_numbered]

theorem missedSince_numbered {current afterSeq : Nat} (hcurrent : current = start + payloads.length)
    (hlt : afterSeq < current) :
    missedSince (numbered start payloads) current afterSeq =
      if start ≤ afterSeq then some ((beyond (numbered start payloads) afterSeq).map Prod.snd)
      else none := by
  unfold missedSince missedEntries
  rw [if_neg (by omega), if_neg (by omega)]
  cases payloads with
  | nil =>
    have hnot : ¬ start ≤ afterSeq := by
      rw [List.length_nil] at hcurrent
      omega
    rw [if_neg hnot]
    rfl
  | cons payload payloads =>
    simp only [numbered, List.head?_cons, Nat.add_le_add_iff_right]
    split <;> rfl

theorem beyond_drop (hle : start + n ≤ afterSeq) :
    beyond (numbered (start + n) (payloads.drop n)) afterSeq =
      beyond (numbered start payloads) afterSeq := by
  rw [beyond_numbered, beyond_numbered, ← drop_numbered, List.drop_drop]
  congr 1
  omega

theorem kept_iff (hlt : afterSeq < start + payloads.length) :
    start + n ≤ afterSeq ↔ start ≤ afterSeq ∧ ∀ e ∈ numbered start payloads, afterSeq < e.1 →
      e ∈ numbered (start + n) (payloads.drop n) := by
  constructor
  · intro hle
    refine ⟨by omega, fun e he hafter => ?_⟩
    have hbeyond : e ∈ beyond (numbered start payloads) afterSeq :=
      List.mem_filter.mpr ⟨he, decide_eq_true hafter⟩
    rw [← beyond_drop hle] at hbeyond
    exact (List.mem_filter.mp hbeyond).1
  · rintro ⟨hstart, hall⟩
    have hdrop : numbered afterSeq (payloads.drop (afterSeq - start)) =
        (numbered start payloads).drop (afterSeq - start) := by
      rw [drop_numbered]
      congr 1
      omega
    cases hrest : payloads.drop (afterSeq - start) with
    | nil =>
      have hlength := List.drop_eq_nil_iff.mp hrest
      omega
    | cons payload rest =>
      have hmem : (afterSeq + 1, payload) ∈ numbered start payloads := by
        refine List.mem_of_mem_drop (i := afterSeq - start) ?_
        rw [← hdrop, hrest]
        exact List.mem_cons_self
      have hkept := lt_of_mem_numbered (hall _ hmem (Nat.lt_succ_self afterSeq))
      exact Nat.le_of_lt_succ hkept

end

theorem missed_since_exact (start : Nat) (payloads : List Json) (afterSeq : Nat)
    (hcurrent : start + payloads.length < UInt64.size) :
    missedSinceU64 (pushAll [] (numbered start payloads)) (start + payloads.length) afterSeq =
        some (if start ≤ afterSeq ∧ afterSeq ≤ start + payloads.length ∧
            ∀ e ∈ numbered start payloads, afterSeq < e.1 →
              e ∈ pushAll [] (numbered start payloads) then
          some ((beyond (numbered start payloads) afterSeq).map Prod.snd)
        else none) ∧
      (pushAll [] (numbered start payloads)).length ≤ REPLAY_BUFFER_LIMIT := by
  rw [pushAll_eq]
  refine ⟨?_, evict_length _⟩
  rw [missedSinceU64_eq hcurrent]
  congr 1
  rcases Nat.lt_trichotomy afterSeq (start + payloads.length) with hlt | heq | hgt
  · rw [evict_numbered]
    generalize hn : payloads.length - REPLAY_BUFFER_LIMIT = n
    have hlength : start + payloads.length = start + n + (payloads.drop n).length := by
      rw [List.length_drop]
      omega
    have hkept := kept_iff (n := n) hlt
    rw [missedSince_numbered hlength hlt]
    by_cases hle : start + n ≤ afterSeq
    · obtain ⟨hstart, hall⟩ := hkept.mp hle
      rw [if_pos hle, if_pos ⟨hstart, by omega, hall⟩, beyond_drop hle]
    · have hnot : ¬ (start ≤ afterSeq ∧ afterSeq ≤ start + payloads.length ∧
          ∀ e ∈ numbered start payloads, afterSeq < e.1 →
            e ∈ numbered (start + n) (payloads.drop n)) :=
        fun h => hle (hkept.mpr ⟨h.1, h.2.2⟩)
      rw [if_neg hle, if_neg hnot]
  · subst heq
    have hnone : beyond (numbered start payloads) (start + payloads.length) = [] := by
      rw [beyond_numbered, List.drop_eq_nil_iff, length_numbered]
      omega
    have hnothing : ∀ e ∈ numbered start payloads, start + payloads.length < e.1 →
        e ∈ evict (numbered start payloads) := by
      intro e he hafter
      have hbeyond : e ∈ beyond (numbered start payloads) (start + payloads.length) :=
        List.mem_filter.mpr ⟨he, decide_eq_true hafter⟩
      rw [hnone] at hbeyond
      cases hbeyond
    rw [if_pos ⟨Nat.le_add_right _ _, Nat.le_refl _, hnothing⟩, hnone]
    unfold missedSince missedEntries
    rw [if_neg (by omega), if_pos rfl]
    rfl
  · rw [if_neg (fun h => absurd h.2.1 (by omega))]
    unfold missedSince missedEntries
    rw [if_pos hgt]
    rfl

theorem two_missed :
    missedSinceU64 (pushAll [] (numbered 1 [.num 2, .num 3, .num 4])) 4 2 =
        some (if 1 ≤ 2 ∧ 2 ≤ 4 ∧ ∀ e ∈ numbered 1 [.num 2, .num 3, .num 4], 2 < e.1 →
            e ∈ pushAll [] (numbered 1 [.num 2, .num 3, .num 4]) then
          some ((beyond (numbered 1 [.num 2, .num 3, .num 4]) 2).map Prod.snd)
        else none) ∧
      (pushAll [] (numbered 1 [.num 2, .num 3, .num 4])).length ≤ REPLAY_BUFFER_LIMIT :=
  missed_since_exact 1 [.num 2, .num 3, .num 4] 2 (by decide)

theorem missed_before_ready :
    (∀ e ∈ numbered 1 [.num 2, .num 3], e ∈ pushAll [] (numbered 1 [.num 2, .num 3])) ∧
      missedSinceU64 (pushAll [] (numbered 1 [.num 2, .num 3])) 3 0 = some none := by
  have hlimit : REPLAY_BUFFER_LIMIT = 256 := by unfold REPLAY_BUFFER_LIMIT; rfl
  have hpushed : pushAll [] (numbered 1 [.num 2, .num 3]) = numbered 1 [.num 2, .num 3] := by
    rw [pushAll_eq, evict, hlimit]
    rfl
  rw [hpushed]
  exact ⟨fun _ he => he, rfl⟩

end Vokusz.Gateway.Resume
