import Mathlib.Data.List.Infix

namespace Vokusz.Lib.Slice

inductive Crash where
  | panic
  | starved
deriving DecidableEq, Repr

def checked (value : Option α) : Except Crash α := value.elim (.error .panic) .ok

@[simp] theorem checked_some (value : α) : checked (some value) = .ok value := rfl

def Completes (result : Except Crash α) : Prop := ∃ value, result = .ok value

theorem completes_ok (value : α) : Completes (.ok value : Except Crash α) := ⟨value, rfl⟩

theorem completes_bind {result : Except Crash α} {next : α → Except Crash β} (h : Completes result)
    (hnext : ∀ value, result = .ok value → Completes (next value)) : Completes (result >>= next) := by
  obtain ⟨value, rfl⟩ := h
  exact hnext value rfl

@[simp] theorem ok_bind (value : α) (next : α → Except Crash β) :
    (Except.ok value >>= next) = next value := rfl

theorem completes_map {result : Except Crash α} {f : α → β} (h : Completes result) :
    Completes (f <$> result) := by
  obtain ⟨value, rfl⟩ := h
  exact ⟨f value, rfl⟩

def size : List Char → Nat
  | [] => 0
  | c :: cs => c.utf8Size + size cs

def from? : Nat → List Char → Option (List Char)
  | 0, cs => some cs
  | _ + 1, [] => none
  | n + 1, c :: cs => if c.utf8Size ≤ n + 1 then from? (n + 1 - c.utf8Size) cs else none

def upTo? : Nat → List Char → Option (List Char)
  | 0, _ => some []
  | _ + 1, [] => none
  | n + 1, c :: cs =>
    if c.utf8Size ≤ n + 1 then (upTo? (n + 1 - c.utf8Size) cs).map (fun front => c :: front)
    else none

def between? (start stop : Nat) (cs : List Char) : Option (List Char) :=
  if start ≤ stop then (from? start cs).bind (upTo? (stop - start)) else none

def find? (pat : List Char) : List Char → Option Nat
  | [] => if pat <+: [] then some 0 else none
  | c :: cs => if pat <+: c :: cs then some 0 else (find? pat cs).map (fun n => c.utf8Size + n)

variable {pat front back cs : List Char} {n m : Nat}

@[simp] theorem size_append (front back : List Char) :
    size (front ++ back) = size front + size back := by
  induction front with
  | nil => simp [size]
  | cons c front ih => simp [size, ih, Nat.add_assoc]

theorem from?_append (front back : List Char) :
    from? (size front) (front ++ back) = some back := by
  induction front with
  | nil => simp [size, from?]
  | cons c front ih =>
    have hpos := c.utf8Size_pos
    have hsize : size (c :: front) = c.utf8Size - 1 + size front + 1 := by
      simp only [size]
      omega
    have hrest : c.utf8Size - 1 + size front + 1 - c.utf8Size = size front := by omega
    rw [hsize, List.cons_append, from?, if_pos (by omega), hrest, ih]

theorem upTo?_append (front back : List Char) :
    upTo? (size front) (front ++ back) = some front := by
  induction front with
  | nil => simp [size, upTo?]
  | cons c front ih =>
    have hpos := c.utf8Size_pos
    have hsize : size (c :: front) = c.utf8Size - 1 + size front + 1 := by
      simp only [size]
      omega
    have hrest : c.utf8Size - 1 + size front + 1 - c.utf8Size = size front := by omega
    rw [hsize, List.cons_append, upTo?, if_pos (by omega), hrest, ih, Option.map_some]

theorem between?_append (front middle back : List Char) :
    between? (size front) (size front + size middle) (front ++ (middle ++ back)) = some middle := by
  rw [between?, if_pos (Nat.le_add_right _ _), from?_append, Option.bind_some,
    Nat.add_sub_cancel_left, upTo?_append]

theorem find?_spec (h : find? pat cs = some n) :
    ∃ front back : List Char, cs = front ++ (pat ++ back) ∧ size front = n := by
  induction cs generalizing n with
  | nil =>
    rw [find?] at h
    split at h
    · rename_i hpat
      obtain rfl := List.prefix_nil.mp hpat
      obtain rfl : 0 = n := Option.some.inj h
      exact ⟨[], [], rfl, rfl⟩
    · cases h
  | cons c cs ih =>
    rw [find?] at h
    split at h
    · rename_i hpat
      obtain ⟨back, hback⟩ := hpat
      obtain rfl : 0 = n := Option.some.inj h
      exact ⟨[], back, hback.symm, rfl⟩
    · obtain ⟨n', hfound, rfl⟩ := Option.map_eq_some_iff.mp h
      obtain ⟨front, back, rfl, rfl⟩ := ih hfound
      exact ⟨c :: front, back, rfl, rfl⟩

section

variable {f : Char → Char} (hf : ∀ c, (f c).utf8Size = c.utf8Size)

include hf

theorem size_map (cs : List Char) : size (cs.map f) = size cs := by
  induction cs with
  | nil => rfl
  | cons c cs ih => simp only [List.map_cons, size, hf, ih]

theorem find?_map_spec (h : find? pat (cs.map f) = some n) :
    ∃ front middle back : List Char, cs = front ++ (middle ++ back) ∧ size front = n ∧
      size middle = size pat := by
  obtain ⟨front', back', hcs, rfl⟩ := find?_spec h
  obtain ⟨front, rest, rfl, rfl, hrest⟩ := List.map_eq_append_iff.mp hcs
  obtain ⟨middle, back, rfl, rfl, _⟩ := List.map_eq_append_iff.mp hrest
  exact ⟨front, middle, back, rfl, (size_map hf front).symm, (size_map hf middle).symm⟩

end

end Vokusz.Lib.Slice
