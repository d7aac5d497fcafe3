import Vokusz.Lib.Decimal

namespace Vokusz.Lib.Calendar

def leap (year : Nat) : Bool := year % 4 = 0 && (year % 100 ≠ 0 || year % 400 = 0)

def daysInMonth (year month : Nat) : Nat :=
  if month = 2 then if leap year then 29 else 28
  else if month = 4 ∨ month = 6 ∨ month = 9 ∨ month = 11 then 30
  else 31

theorem daysInMonth_range (year month : Nat) :
    1 ≤ daysInMonth year month ∧ daysInMonth year month ≤ 31 := by
  unfold daysInMonth
  split
  · split <;> omega
  · split <;> omega

structure Date where
  year : Nat
  month : Nat
  day : Nat
  month_range : 1 ≤ month ∧ month ≤ 12
  day_range : 1 ≤ day ∧ day ≤ daysInMonth year month

namespace Date

def next (d : Date) : Date :=
  if hday : d.day < daysInMonth d.year d.month then
    { year := d.year
      month := d.month
      day := d.day + 1
      month_range := d.month_range
      day_range := ⟨Nat.succ_pos d.day, hday⟩ }
  else if hmonth : d.month < 12 then
    { year := d.year
      month := d.month + 1
      day := 1
      month_range := ⟨Nat.succ_pos d.month, hmonth⟩
      day_range := ⟨le_refl 1, (daysInMonth_range _ _).1⟩ }
  else
    { year := d.year + 1
      month := 1
      day := 1
      month_range := by decide
      day_range := ⟨le_refl 1, (daysInMonth_range _ _).1⟩ }

def rank (d : Date) : Nat := (d.year * 13 + d.month) * 32 + d.day

theorem day_le (d : Date) : d.day ≤ 31 := le_trans d.day_range.2 (daysInMonth_range _ _).2

theorem rank_lt_next (d : Date) : d.rank < d.next.rank := by
  have hday := d.day_le
  have hmonth := d.month_range
  unfold next rank
  split
  · dsimp only
    omega
  · split
    · dsimp only
      omega
    · dsimp only
      omega

end Date

def epoch : Date :=
  { year := 1970, month := 1, day := 1, month_range := by decide, day_range := by decide }

def dateOf : Nat → Date
  | 0 => epoch
  | n + 1 => (dateOf n).next

theorem rank_dateOf_lt {i j : Nat} (h : i < j) : (dateOf i).rank < (dateOf j).rank := by
  induction j with
  | zero => omega
  | succ j ih =>
    have hnext : (dateOf j).rank < (dateOf (j + 1)).rank := (dateOf j).rank_lt_next
    by_cases hij : i = j
    · subst hij
      exact hnext
    · exact (ih (by omega)).trans hnext

theorem year_dateOf_le {i j : Nat} (h : i ≤ j) : (dateOf i).year ≤ (dateOf j).year := by
  rcases Nat.lt_or_eq_of_le h with hlt | rfl
  · have hrank := rank_dateOf_lt hlt
    have hi := (dateOf i).month_range
    have hj := (dateOf j).month_range
    have hday := (dateOf j).day_le
    unfold Date.rank at hrank
    omega
  · exact le_refl _

theorem year_lt_later (days : Nat) :
    (dateOf days).year < (dateOf (days + 383)).year := by
  have hrank : ∀ n, (dateOf days).rank + n ≤ (dateOf (days + n)).rank := by
    intro n
    induction n with
    | zero => exact le_refl _
    | succ n ih =>
      have hnext := (dateOf (days + n)).rank_lt_next
      have hstep : dateOf (days + (n + 1)) = (dateOf (days + n)).next := rfl
      rw [hstep]
      omega
  have hgrown := hrank 383
  have hstart := (dateOf days).month_range
  have hday := (dateOf days).day_range
  have hend := (dateOf (days + 383)).month_range
  have hlast := (dateOf (days + 383)).day_le
  unfold Date.rank at hgrown
  omega

theorem le_year_dateOf (n : Nat) : 1970 + n ≤ (dateOf (383 * n)).year := by
  induction n with
  | zero => exact le_refl _
  | succ n ih =>
    have hlater := year_lt_later (383 * n)
    have hdays : 383 * (n + 1) = 383 * n + 383 := by omega
    rw [hdays]
    omega

section

def two (n : Nat) : List Char := [Nat.digitChar (n / 10), Nat.digitChar (n % 10)]

def yearText (year : Nat) : List Char :=
  if year ≤ 9999 then two (year / 100) ++ two (year % 100)
  else '+' :: Nat.toDigits 10 year

def formatUtc (seconds : Nat) : String :=
  let date := dateOf (seconds / 86400)
  let time := seconds % 86400
  String.ofList (yearText date.year ++ '-' :: (two date.month ++ '-' :: (two date.day ++
    'T' :: (two (time / 3600) ++ ':' :: (two (time / 60 % 60) ++ ':' :: (two (time % 60) ++
      "+00:00".toList))))))

variable {a b : Nat} {c : Char} {x y : List Char}

theorem digitChar_inj (ha : a < 10) (hb : b < 10) : a.digitChar = b.digitChar ↔ a = b := by
  have hab := Decimal.digitChar_lt ha hb
  have hba := Decimal.digitChar_lt hb ha
  constructor
  · intro h
    rw [h, lt_self_iff_false, false_iff] at hab
    rw [h, lt_self_iff_false, false_iff] at hba
    omega
  · rintro rfl
    rfl

theorem two_append_lt (ha : a < 100) (hb : b < 100) :
    two a ++ x < two b ++ y ↔ a < b ∨ a = b ∧ x < y := by
  unfold two
  rw [List.cons_append, List.cons_append, List.cons_append, List.cons_append,
    List.cons_lt_cons_iff, List.cons_lt_cons_iff, List.nil_append, List.nil_append,
    Decimal.digitChar_lt (by omega) (by omega), Decimal.digitChar_lt (by omega) (by omega),
    digitChar_inj (by omega) (by omega), digitChar_inj (by omega) (by omega)]
  by_cases hxy : x < y
  · simp only [hxy, and_true]
    omega
  · simp only [hxy, and_false, or_false]
    omega

theorem two_cons_lt (ha : a < 100) (hb : b < 100) :
    two a ++ c :: x < two b ++ c :: y ↔ a < b ∨ a = b ∧ x < y := by
  rw [two_append_lt ha hb, List.cons_lt_cons_iff]
  simp

theorem yearText_cons_lt (ha : a ≤ 9999) (hb : b ≤ 9999) :
    yearText a ++ c :: x < yearText b ++ c :: y ↔ a < b ∨ a = b ∧ x < y := by
  unfold yearText
  rw [if_pos ha, if_pos hb, List.append_assoc, List.append_assoc,
    two_append_lt (by omega) (by omega), two_cons_lt (by omega) (by omega)]
  by_cases hxy : x < y
  · simp only [hxy, and_true]
    omega
  · simp only [hxy, and_false, or_false]
    omega

def yearOf (seconds : Nat) : Nat := (dateOf (seconds / 86400)).year

def withinYear (seconds : Nat) : List Char :=
  two (dateOf (seconds / 86400)).month ++ '-' :: (two (dateOf (seconds / 86400)).day ++
    'T' :: (two (seconds % 86400 / 3600) ++ ':' :: (two (seconds % 86400 / 60 % 60) ++
      ':' :: (two (seconds % 86400 % 60) ++ "+00:00".toList))))

theorem toList_formatUtc (seconds : Nat) :
    (formatUtc seconds).toList = yearText (yearOf seconds) ++ '-' :: withinYear seconds := by
  unfold formatUtc
  rw [String.toList_ofList]
  rfl

theorem yearOf_le {i j : Nat} (h : i ≤ j) : yearOf i ≤ yearOf j :=
  year_dateOf_le (Nat.div_le_div_right h)

theorem le_yearOf {seconds n : Nat} (h : 383 * n ≤ seconds / 86400) :
    1970 + n ≤ yearOf seconds := (le_year_dateOf n).trans (year_dateOf_le h)

theorem withinYear_lt_iff {i j : Nat} (h : yearOf i = yearOf j) :
    withinYear i < withinYear j ↔ i < j := by
  have hmonth : ∀ d : Date, d.month < 100 := fun d => by
    have := d.month_range
    omega
  have hday : ∀ d : Date, d.day < 100 := fun d => by
    have := d.day_le
    omega
  unfold withinYear
  rw [two_cons_lt (hmonth _) (hmonth _), two_cons_lt (hday _) (hday _),
    two_cons_lt (by omega) (by omega), two_cons_lt (by omega) (by omega),
    two_append_lt (by omega) (by omega)]
  simp only [lt_self_iff_false, and_false, or_false]
  have hdi := (dateOf (i / 86400)).day_le
  have hdj := (dateOf (j / 86400)).day_le
  unfold yearOf at h
  rcases Nat.lt_trichotomy (i / 86400) (j / 86400) with hlt | heq | hgt
  · have hrank := rank_dateOf_lt hlt
    unfold Date.rank at hrank
    omega
  · rw [heq]
    omega
  · have hrank := rank_dateOf_lt hgt
    unfold Date.rank at hrank
    omega

theorem formatUtc_lt_iff_of_short {i j : Nat} (hi : yearOf i ≤ 9999) (hj : yearOf j ≤ 9999) :
    formatUtc i < formatUtc j ↔ i < j := by
  rw [String.lt_iff_toList_lt, toList_formatUtc, toList_formatUtc, yearText_cons_lt hi hj]
  rcases Nat.lt_trichotomy (yearOf i) (yearOf j) with hlt | heq | hgt
  · have hij : i < j := by
      by_contra hle
      have := yearOf_le (not_lt.mp hle)
      omega
    simp only [hlt, hij, true_or]
  · rw [withinYear_lt_iff heq]
    omega
  · have hji := mt (fun hij : i < j => yearOf_le hij.le) (not_le.mpr hgt)
    omega

theorem formatUtc_lt {i j : Nat} (h : i < j)
    (hj : (dateOf (j / 86400)).year ≤ 9999) : formatUtc i < formatUtc j :=
  (formatUtc_lt_iff_of_short ((yearOf_le h.le).trans hj) hj).mpr h

theorem formatUtc_le {i j : Nat} (h : i ≤ j) (hj : (dateOf (j / 86400)).year ≤ 9999) :
    formatUtc i ≤ formatUtc j := by
  rcases Nat.lt_or_eq_of_le h with hlt | rfl
  · exact (formatUtc_lt hlt hj).le
  · exact le_refl _

theorem yearText_of_long (h : 9999 < a) : yearText a = '+' :: Nat.toDigits 10 a :=
  if_neg (not_le.mpr h)

theorem long_lt_short (ha : 9999 < a) (hb : b ≤ 9999) : yearText a ++ x < yearText b ++ y := by
  have hplus : ∀ d, d < 10 → '+' < d.digitChar := by decide
  rw [yearText_of_long ha, yearText, if_pos hb]
  exact List.cons_lt_cons_iff.mpr (.inl (hplus _ (by omega)))

theorem dash_lt_digits (x y : List Char) (c : Char) (rest : List Char) (hc : c.isDigit = true) :
    '-' :: x < c :: (rest ++ y) := by
  have hzero : '0' ≤ c := by
    simp only [Char.isDigit, Bool.and_eq_true, decide_eq_true_eq] at hc
    exact hc.1
  have hdash : '-' < '0' := by decide
  exact List.cons_lt_cons_iff.mpr (.inl (lt_of_lt_of_le hdash hzero))

def YearsInOrder (a b : Nat) : Prop :=
  a ≤ 9999 ∧ b ≤ 9999 ∨
    9999 < a ∧ 9999 < b ∧
      min a b * 10 ^ (Decimal.width (max a b) - Decimal.width (min a b)) ≤ max a b

instance (a b : Nat) : Decidable (YearsInOrder a b) := by
  unfold YearsInOrder
  infer_instance

theorem yearsInOrder_self (a : Nat) : YearsInOrder a a := by
  unfold YearsInOrder
  rw [Nat.min_self, Nat.max_self, Nat.sub_self, Nat.pow_zero, Nat.mul_one]
  omega

theorem yearText_dash_lt_iff (a b : Nat) (x y : List Char) :
    (yearText a ++ '-' :: x < yearText b ++ '-' :: y ↔ a < b ∨ a = b ∧ x < y) ↔
      YearsInOrder a b := by
  by_cases ha : a ≤ 9999
  · by_cases hb : b ≤ 9999
    · exact iff_of_true (yearText_cons_lt ha hb) (.inl ⟨ha, hb⟩)
    · have htext : ¬ yearText a ++ '-' :: x < yearText b ++ '-' :: y :=
        not_lt_of_gt (long_lt_short (not_le.mp hb) ha)
      have hab : a < b ∨ a = b ∧ x < y := .inl (by omega)
      apply iff_of_false
      · exact fun hiff => htext (hiff.mpr hab)
      · unfold YearsInOrder
        omega
  · by_cases hb : b ≤ 9999
    · have htext : yearText a ++ '-' :: x < yearText b ++ '-' :: y :=
        long_lt_short (not_le.mp ha) hb
      have hab : ¬ (a < b ∨ a = b ∧ x < y) := by omega
      apply iff_of_false
      · exact fun hiff => hab (hiff.mp htext)
      · unfold YearsInOrder
        omega
    · have ha' := not_le.mp ha
      have hb' := not_le.mp hb
      rw [yearText_of_long ha', yearText_of_long hb', List.cons_append, List.cons_append,
        List.cons_lt_cons_iff]
      simp only [lt_self_iff_false, false_or, true_and]
      unfold YearsInOrder
      rcases Nat.lt_trichotomy a b with hlt | rfl | hgt
      · have horder := (Decimal.toDigits_append_order hlt (dash_lt_digits x ('-' :: y))).1
        rw [Nat.min_eq_left hlt.le, Nat.max_eq_right hlt.le, horder]
        simp only [hlt, ha', hb', ha, false_and, false_or, true_and, true_or, iff_true]
      · rw [Decimal.append_lt_append rfl, List.cons_lt_cons_iff]
        apply iff_of_true
        · simp
        · exact yearsInOrder_self a
      · have horder := (Decimal.toDigits_append_order hgt (dash_lt_digits y ('-' :: x))).2
        have hne : a ≠ b := ne_of_gt hgt
        rw [Nat.min_eq_right hgt.le, Nat.max_eq_left hgt.le, horder]
        simp only [not_lt.mpr hgt.le, hne, ha', hb', ha, false_and, false_or, or_self, true_and,
          iff_false, not_not]

theorem lt_iff_years {i j : Nat} : yearOf i < yearOf j ∨
    yearOf i = yearOf j ∧ withinYear i < withinYear j ↔ i < j := by
  rcases Nat.lt_trichotomy (yearOf i) (yearOf j) with hlt | heq | hgt
  · have hij : i < j := by
      by_contra hle
      exact absurd (yearOf_le (not_lt.mp hle)) (not_le.mpr hlt)
    simp only [hlt, hij, true_or]
  · rw [withinYear_lt_iff heq]
    omega
  · have hji := mt (fun hij : i < j => yearOf_le hij.le) (not_le.mpr hgt)
    omega

theorem formatUtc_lt_iff_iff (i j : Nat) :
    (formatUtc i < formatUtc j ↔ i < j) ↔ YearsInOrder (yearOf i) (yearOf j) := by
  rw [String.lt_iff_toList_lt, toList_formatUtc, toList_formatUtc, ← lt_iff_years,
    yearText_dash_lt_iff]

example : formatUtc 68255999 = "1972-02-29T23:59:59+00:00" := by decide +kernel

structure Civil where
  year : Int
  month : Nat
  day : Nat
  hour : Nat
  minute : Nat
  second : Nat
  month_le : month ≤ 12
  day_le : day ≤ 31
  hour_lt : hour < 24
  minute_lt : minute < 60
  second_le : second ≤ 60

namespace Civil

def clock (d : Civil) : Nat :=
  (((d.month * 32 + d.day) * 24 + d.hour) * 60 + d.minute) * 61 + d.second

def Before (d e : Civil) : Prop := d.year < e.year ∨ d.year = e.year ∧ d.clock < e.clock

def within (d : Civil) : List Char :=
  two d.month ++ '-' :: (two d.day ++ 'T' :: (two d.hour ++ ':' :: (two d.minute ++
    ':' :: (two d.second ++ "+00:00".toList))))

def signedYear : Int → List Char
  | .ofNat year => yearText year
  | .negSucc n => '-' :: (List.replicate (4 - Decimal.width (n + 1)) '0' ++ Nat.toDigits 10 (n + 1))

def text (d : Civil) : String := String.ofList (signedYear d.year ++ '-' :: d.within)

def ofSeconds (seconds : Nat) : Civil where
  year := yearOf seconds
  month := (dateOf (seconds / 86400)).month
  day := (dateOf (seconds / 86400)).day
  hour := seconds % 86400 / 3600
  minute := seconds % 86400 / 60 % 60
  second := seconds % 86400 % 60
  month_le := (dateOf (seconds / 86400)).month_range.2
  day_le := (dateOf (seconds / 86400)).day_le
  hour_lt := by omega
  minute_lt := by omega
  second_le := by omega

variable {d e : Civil}

theorem within_lt_iff : d.within < e.within ↔ d.clock < e.clock := by
  obtain ⟨_, month, day, hour, minute, second, hmonth, hday, hhour, hminute, hsecond⟩ := d
  obtain ⟨_, month', day', hour', minute', second', hmonth', hday', hhour', hminute', hsecond'⟩ := e
  simp only [within, clock]
  rw [two_cons_lt (by omega) (by omega), two_cons_lt (by omega) (by omega),
    two_cons_lt (by omega) (by omega), two_cons_lt (by omega) (by omega),
    two_append_lt (by omega) (by omega)]
  simp only [lt_self_iff_false, and_false, or_false]
  omega

theorem toList_text (d : Civil) : d.text.toList = signedYear d.year ++ '-' :: d.within :=
  String.toList_ofList

theorem text_ofSeconds (seconds : Nat) : (ofSeconds seconds).text = formatUtc seconds := by
  rw [← String.toList_inj, toList_text, toList_formatUtc]
  rfl

theorem minus_lt_iff (year : Nat) (x y : List Char) :
    '-' :: x < yearText year ++ y ↔ year ≤ 9999 := by
  have hplus : '+' < '-' := by decide
  have hdigit : ∀ n < 10, '-' < n.digitChar := by decide
  constructor
  · intro hlt
    by_contra hlong
    rw [yearText_of_long (not_le.mp hlong), List.cons_append, List.cons_lt_cons_iff] at hlt
    rcases hlt with hless | ⟨heq, _⟩
    · exact lt_asymm hless hplus
    · exact absurd heq (by decide)
  · intro hshort
    rw [yearText, if_pos hshort]
    exact List.cons_lt_cons_iff.mpr (.inl (hdigit _ (by omega)))

theorem text_lt_iff_iff (d : Civil) (seconds : Nat) :
    (d.text < formatUtc seconds ↔ d.Before (ofSeconds seconds)) ↔
      YearsInOrder d.year.toNat (yearOf seconds) := by
  rw [← text_ofSeconds, String.lt_iff_toList_lt, toList_text, toList_text, Before, ← within_lt_iff]
  have hyear : (ofSeconds seconds).year = Int.ofNat (yearOf seconds) := rfl
  rw [hyear]
  cases hd : d.year with
  | ofNat year =>
    have hcongr : (Int.ofNat year < Int.ofNat (yearOf seconds) ∨
        Int.ofNat year = Int.ofNat (yearOf seconds) ∧ d.within < (ofSeconds seconds).within) ↔
        (year < yearOf seconds ∨ year = yearOf seconds ∧
          d.within < (ofSeconds seconds).within) :=
      or_congr Int.ofNat_lt (and_congr_left' Int.ofNat_inj)
    rw [hcongr]
    exact yearText_dash_lt_iff year (yearOf seconds) _ _
  | negSucc n =>
    have hbefore : Int.negSucc n < Int.ofNat (yearOf seconds) :=
      lt_of_lt_of_le (Int.negSucc_lt_zero n) (Int.natCast_nonneg _)
    have hzero : (Int.negSucc n).toNat = 0 := rfl
    have hinOrder : YearsInOrder 0 (yearOf seconds) ↔ yearOf seconds ≤ 9999 := by
      unfold YearsInOrder
      omega
    rw [hzero, hinOrder]
    have hminus : signedYear (Int.negSucc n) ++ '-' :: d.within <
        signedYear (Int.ofNat (yearOf seconds)) ++ '-' :: (ofSeconds seconds).within ↔
        yearOf seconds ≤ 9999 :=
      minus_lt_iff (yearOf seconds) _ _
    rw [hminus]
    exact ⟨fun hiff => hiff.mpr (Or.inl hbefore), fun hshort => iff_of_true hshort (Or.inl hbefore)⟩

end Civil

end

end Vokusz.Lib.Calendar
