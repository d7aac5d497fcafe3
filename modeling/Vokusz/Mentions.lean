import Mathlib.Data.List.TakeWhile
import Vokusz.Federation.Mapping

namespace Vokusz.Mentions

open Federation.Mapping (eqIgnoreAsciiCase eqIgnoreAsciiCase_trans)

structure ParsedMentions where
  everyone : Bool := false
  usernames : List String := []
  deriving DecidableEq, Repr

def isAsciiAlphanumeric (c : Char) : Bool := c.isAlphanum

def isHandleChar (c : Char) : Bool := isAsciiAlphanumeric c || c = '_'

def ParsedMentions.record (out : ParsedMentions) (word : String) : ParsedMentions :=
  if eqIgnoreAsciiCase word "everyone" || eqIgnoreAsciiCase word "here" then
    { out with everyone := true }
  else if out.usernames.any (fun u => eqIgnoreAsciiCase u word) then out
  else { out with usernames := out.usernames ++ [word] }

structure Scan where
  out : ParsedMentions := {}
  previous : Option Char := none
  word : Option (List Char) := none
  deriving DecidableEq, Repr

def Scan.close (s : Scan) : Scan :=
  match s.word with
  | some (c :: cs) => { s with out := s.out.record (String.ofList (c :: cs)), word := none }
  | _ => { s with word := none }

def Scan.open (s : Scan) (c : Char) : Scan :=
  { s with
    previous := some c
    word := if c = '@' ∧ !s.previous.any isAsciiAlphanumeric then some [] else none }

def Scan.next (s : Scan) (c : Char) : Scan :=
  match s.word with
  | some word =>
    if isHandleChar c then { s with word := some (word ++ [c]), previous := some c }
    else s.close.open c
  | none => s.open c

def parseMentions (content : String) : ParsedMentions :=
  (content.toList.foldl Scan.next {}).close.out

example : parseMentions "hi @alice and @Bob and @alice again" =
    { everyone := false, usernames := ["alice", "Bob"] } := by decide

example : parseMentions "mail me at foo@bar.com" = {} := by decide

def handles (previous : Option Char) : List Char → List (List Char)
  | [] => []
  | c :: cs =>
    if c = '@' ∧ !previous.any isAsciiAlphanumeric then
      cs.takeWhile isHandleChar :: handles (some c) cs
    else handles (some c) cs

def reserved (word : String) : Bool :=
  eqIgnoreAsciiCase word "everyone" || eqIgnoreAsciiCase word "here"

def names (name : String) (word : List Char) : Prop :=
  word ≠ [] ∧ reserved (String.ofList word) = false ∧
    eqIgnoreAsciiCase (String.ofList word) name = true

def ParsedMentions.includes (out : ParsedMentions) (name : String) : Prop :=
  ∃ u ∈ out.usernames, eqIgnoreAsciiCase u name = true

theorem includes_record {out : ParsedMentions} {name word : String} :
    (out.record word).includes name ↔
      out.includes name ∨ reserved word = false ∧ eqIgnoreAsciiCase word name = true := by
  unfold ParsedMentions.record
  split
  · next hreserved =>
    have hword : reserved word = true := hreserved
    simp [ParsedMentions.includes, hword]
  · next hplain =>
    have hword : reserved word = false := Bool.eq_false_iff.mpr hplain
    split
    · next hany =>
      obtain ⟨u, hu, heq⟩ := List.any_eq_true.mp hany
      refine ⟨.inl, fun h => h.elim (fun h => h) (fun hname => ?_)⟩
      exact ⟨u, hu, eqIgnoreAsciiCase_trans heq hname.2⟩
    · simp [ParsedMentions.includes, hword, or_and_right, exists_or]

theorem includes_close {s : Scan} {name : String} :
    s.close.out.includes name ↔
      s.out.includes name ∨ ∃ word, s.word = some word ∧ names name word := by
  unfold Scan.close
  cases hword : s.word with
  | none => simp
  | some word =>
    cases word with
    | nil => simp [names]
    | cons c cs => simp [includes_record, names]

def Scan.pending (s : Scan) (cs : List Char) : List (List Char) :=
  match s.word with
  | none => []
  | some word => [word ++ cs.takeWhile isHandleChar]

theorem handle_ne_at {c : Char} (h : isHandleChar c = true) : c ≠ '@' := by
  rintro rfl
  cases h

theorem includes_scan {name : String} (cs : List Char) (s : Scan) :
    (cs.foldl Scan.next s).close.out.includes name ↔
      s.out.includes name ∨ ∃ word ∈ s.pending cs ++ handles s.previous cs, names name word := by
  induction cs generalizing s with
  | nil =>
    rw [List.foldl_nil, includes_close]
    cases hword : s.word <;> simp [Scan.pending, handles, hword]
  | cons c cs ih =>
    have hopen : ∀ s' : Scan, (cs.foldl Scan.next (s'.open c)).close.out.includes name ↔
        s'.out.includes name ∨ ∃ word ∈ handles s'.previous (c :: cs), names name word := by
      intro s'
      rw [ih]
      by_cases hc : c = '@' ∧ !s'.previous.any isAsciiAlphanumeric
      · simp only [Scan.open, Scan.pending, handles, if_pos hc, List.nil_append,
          List.singleton_append]
      · simp only [Scan.open, Scan.pending, handles, if_neg hc, List.nil_append]
    cases hword : s.word with
    | none =>
      have hnext : s.next c = s.open c := by simp only [Scan.next, hword]
      rw [List.foldl_cons, hnext, hopen]
      simp only [Scan.pending, hword, List.nil_append]
    | some word =>
      by_cases hc : isHandleChar c = true
      · have hnext : s.next c = { s with word := some (word ++ [c]), previous := some c } := by
          simp only [Scan.next, hword, if_pos hc]
        rw [List.foldl_cons, hnext, ih]
        simp only [Scan.pending, hword, handles, List.takeWhile_cons, hc, if_true,
          List.append_assoc, List.singleton_append, handle_ne_at hc, false_and, if_false]
      · have hnext : s.next c = s.close.open c := by simp only [Scan.next, hword, if_neg hc]
        have hprevious : s.close.previous = s.previous := by
          unfold Scan.close
          split <;> rfl
        rw [List.foldl_cons, hnext, hopen, includes_close, hprevious]
        simp only [Scan.pending, hword, List.takeWhile_cons, hc, Option.some.injEq]
        simp [or_assoc]

theorem parseMentions_includes {content name : String} :
    (parseMentions content).includes name ↔
      ∃ word ∈ handles none content.toList, names name word := by
  have h : (parseMentions content).includes name ↔ _ := includes_scan content.toList {}
  have hnone : ¬ ({} : ParsedMentions).includes name := by
    rintro ⟨u, hu, -⟩
    cases hu
  simpa [parseMentions, Scan.pending, hnone] using h

theorem takeWhile_append_stop {p : Char → Bool} {a b : List Char} (h : b.head?.any p = false) :
    (a ++ b).takeWhile p = a.takeWhile p := by
  induction a with
  | nil =>
    cases b with
    | nil => rfl
    | cons c b =>
      have hc : p c = false := h
      simp [hc]
  | cons c a ih =>
    simp only [List.cons_append, List.takeWhile_cons, ih]

theorem getLast?_cons_or (c : Char) (a : List Char) (previous : Option Char) :
    (c :: a).getLast?.or previous = a.getLast?.or (some c) := by
  cases a with
  | nil => rfl
  | cons d a =>
    rw [List.getLast?_cons_cons, List.getLast?_eq_some_getLast (List.cons_ne_nil d a)]
    rfl

theorem handles_append {a b : List Char} (previous : Option Char)
    (h : b.head?.any isHandleChar = false) :
    handles previous (a ++ b) = handles previous a ++ handles (a.getLast?.or previous) b := by
  induction a generalizing previous with
  | nil => simp [handles]
  | cons c a ih =>
    simp only [List.cons_append, handles, ih, takeWhile_append_stop h, getLast?_cons_or]
    split <;> simp

theorem handles_skip {a b : List Char} (previous : Option Char) (h : '@' ∉ a) :
    handles previous (a ++ b) = handles (a.getLast?.or previous) b := by
  induction a generalizing previous with
  | nil => simp
  | cons c a ih =>
    simp only [List.mem_cons, not_or] at h
    have hc : ¬ (c = '@' ∧ !previous.any isAsciiAlphanumeric) := fun hc => h.1 hc.1.symm
    rw [List.cons_append, handles, if_neg hc, ih (some c) h.2, getLast?_cons_or]

theorem mem_handles {word cs : List Char} {previous : Option Char} :
    word ∈ handles previous cs ↔
      ∃ x y, cs = x ++ '@' :: y ∧ (x.getLast?.or previous).any isAsciiAlphanumeric = false ∧
        word = y.takeWhile isHandleChar := by
  induction cs generalizing previous with
  | nil => simp [handles]
  | cons c cs ih =>
    constructor
    · intro h
      rw [handles] at h
      split at h
      · next hat =>
        obtain ⟨rfl, hboundary⟩ := hat
        rcases List.mem_cons.mp h with rfl | h
        · exact ⟨[], cs, rfl, by simpa using hboundary, rfl⟩
        · obtain ⟨x, y, rfl, hx, hword⟩ := ih.mp h
          exact ⟨'@' :: x, y, rfl, by rwa [getLast?_cons_or], hword⟩
      · obtain ⟨x, y, rfl, hx, hword⟩ := ih.mp h
        exact ⟨c :: x, y, rfl, by rwa [getLast?_cons_or], hword⟩
    · rintro ⟨x, y, heq, hx, hword⟩
      cases x with
      | nil =>
        obtain ⟨rfl, rfl⟩ := List.cons.inj heq
        have hat : '@' = '@' ∧ !previous.any isAsciiAlphanumeric := ⟨rfl, by simpa using hx⟩
        rw [handles, if_pos hat, hword]
        exact List.mem_cons_self
      | cons d x =>
        obtain ⟨rfl, rfl⟩ := List.cons.inj heq
        rw [getLast?_cons_or] at hx
        have hmem := ih.mpr ⟨x, y, rfl, hx, hword⟩
        rw [handles]
        split
        · exact List.mem_cons_of_mem _ hmem
        · exact hmem

theorem handleChar_of_mem_handles {word cs : List Char} {previous : Option Char}
    (h : word ∈ handles previous cs) : ∀ c ∈ word, isHandleChar c = true := by
  obtain ⟨x, y, -, -, rfl⟩ := mem_handles.mp h
  exact fun c hc => List.mem_takeWhile_imp hc

theorem handles_congr {c : Char} {cs : List Char} (h : c ≠ '@') (previous : Option Char) :
    handles previous (c :: cs) = handles none (c :: cs) := by
  simp only [handles, h, false_and, if_false]

def Mentioned (content name : String) : Prop :=
  ∃ x y, content.toList = x ++ '@' :: y ∧ x.getLast?.any isAsciiAlphanumeric = false ∧
    names name (y.takeWhile isHandleChar)

theorem mentioned_iff {content name : String} :
    Mentioned content name ↔ ∃ word ∈ handles none content.toList, names name word := by
  constructor
  · rintro ⟨x, y, hcontent, hx, hnames⟩
    exact ⟨_, mem_handles.mpr ⟨x, y, hcontent, by rwa [Option.or_none], rfl⟩, hnames⟩
  · rintro ⟨word, hword, hnames⟩
    obtain ⟨x, y, hcontent, hx, rfl⟩ := mem_handles.mp hword
    exact ⟨x, y, hcontent, by rwa [Option.or_none] at hx, hnames⟩

end Vokusz.Mentions
