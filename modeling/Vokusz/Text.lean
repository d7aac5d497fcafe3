import Mathlib.Data.List.Basic

namespace Vokusz

def isWhitespace (c : Char) : Bool :=
  (9 ≤ c.toNat && c.toNat ≤ 13) || (0x2000 ≤ c.toNat && c.toNat ≤ 0x200A) ||
    [0x20, 0x85, 0xA0, 0x1680, 0x2028, 0x2029, 0x202F, 0x205F, 0x3000].contains c.toNat

namespace Text

theorem isAlpha_eq (c : Char) : c.isAlpha = (c.isUpper || c.isLower) := rfl

theorem isUpper_iff {c : Char} : c.isUpper = true ↔ 65 ≤ c.toNat ∧ c.toNat ≤ 90 := by
  change decide (c.val ≥ 65 ∧ c.val ≤ 90) = true ↔ _
  simp [UInt32.le_iff_toNat_le]

theorem isLower_iff {c : Char} : c.isLower = true ↔ 97 ≤ c.toNat ∧ c.toNat ≤ 122 := by
  change (decide (c.val ≥ 97) && decide (c.val ≤ 122)) = true ↔ _
  simp [UInt32.le_iff_toNat_le]

theorem isDigit_iff {c : Char} : c.isDigit = true ↔ 48 ≤ c.toNat ∧ c.toNat ≤ 57 := by
  change (decide (c.val ≥ 48) && decide (c.val ≤ 57)) = true ↔ _
  simp [UInt32.le_iff_toNat_le]

theorem toNat_toLower (c : Char) :
    c.toLower.toNat = if c.isUpper then c.toNat + 32 else c.toNat := by
  cases hup : c.isUpper with
  | true =>
    have hrange := isUpper_iff.mp hup
    have hsum : (c.val + ('a'.val - 'A'.val)).toNat = (c.val.toNat + 32) % 2 ^ 32 :=
      UInt32.toNat_add _ _
    have hlower : c.toLower.toNat = (c.val + ('a'.val - 'A'.val)).toNat :=
      congrArg Char.toNat (dif_pos (of_decide_eq_true hup))
    have hval : c.val.toNat = c.toNat := rfl
    rw [hlower, hsum, hval, if_pos rfl]
    omega
  | false =>
    have hlower : c.toLower = c := dif_neg (of_decide_eq_false hup)
    rw [hlower, if_neg (by simp)]

theorem toLower_not_upper (c : Char) : c.toLower.isUpper = false := by
  have hrange := @isUpper_iff c
  have hlower : ¬ (65 ≤ c.toLower.toNat ∧ c.toLower.toNat ≤ 90) := by
    rw [toNat_toLower]
    cases hup : c.isUpper with
    | true =>
      have hc := hrange.mp hup
      simp
      omega
    | false =>
      intro hc
      have hup' := hrange.mpr (by simpa using hc)
      simp [hup] at hup'
  rw [← Bool.not_eq_true, isUpper_iff]
  exact hlower

theorem toLower_eq_iff {c d : Char} (hd : d.isAlpha = false) : c.toLower = d ↔ c = d := by
  rw [isAlpha_eq, Bool.or_eq_false_iff, ← Bool.not_eq_true, ← Bool.not_eq_true, isUpper_iff,
    isLower_iff] at hd
  rw [← Char.toNat_inj, ← Char.toNat_inj, toNat_toLower]
  cases hup : c.isUpper with
  | true =>
    have hc := isUpper_iff.mp hup
    simp
    omega
  | false => simp

def stripEnds (p : Char → Bool) (cs : List Char) : List Char :=
  ((cs.dropWhile p).reverse.dropWhile p).reverse

def splitChar (sep : Char) : List Char → List (List Char)
  | [] => [[]]
  | c :: cs =>
    if c = sep then [] :: splitChar sep cs
    else
      match splitChar sep cs with
      | part :: parts => (c :: part) :: parts
      | [] => [[c]]

def splitOnce (sep : Char) : List Char → Option (List Char × List Char)
  | [] => none
  | c :: cs =>
    if c = sep then some ([], cs)
    else (splitOnce sep cs).map (fun parts => (c :: parts.1, parts.2))

def splitWhitespace (cs : List Char) : List (List Char) :=
  (cs.splitOnP isWhitespace).filter (fun word => !word.isEmpty)

theorem length_ofList_le (cs : List Char) : cs.length ≤ (String.ofList cs).utf8ByteSize := by
  induction cs with
  | nil => simp
  | cons c cs ih =>
    have hpos := c.utf8Size_pos
    rw [String.ofList_cons, String.utf8ByteSize_append, String.utf8ByteSize_singleton,
      List.length_cons]
    omega

theorem length_le_utf8ByteSize (s : String) : s.length ≤ s.utf8ByteSize := by
  have h := length_ofList_le s.toList
  rwa [String.ofList_toList, String.length_toList] at h

end Text

def trim (s : String) : String := String.ofList (Text.stripEnds isWhitespace s.toList)

end Vokusz
