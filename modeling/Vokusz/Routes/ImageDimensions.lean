import Vokusz.Lib.Slice

namespace Vokusz.Routes.ImageDimensions

open Lib.Slice

def byteAt (bytes : List UInt8) (i : Nat) : Except Crash UInt8 := checked bytes[i]?

def bytesFrom (bytes : List UInt8) (start stop : Nat) : Except Crash (List UInt8) :=
  checked (if start ≤ stop ∧ stop ≤ bytes.length then some ((bytes.take stop).drop start) else none)

def u16FromBeBytes (high low : UInt8) : Nat := high.toNat * 256 + low.toNat

def u16At (bytes : List UInt8) (i : Nat) : Except Crash Nat := do
  let high ← byteAt bytes i
  let low ← byteAt bytes (i + 1)
  return u16FromBeBytes high low

def u32At (bytes : List UInt8) (i : Nat) : Except Crash Nat := do
  let high ← u16At bytes i
  let low ← u16At bytes (i + 2)
  return high * 65536 + low

abbrev Dimensions := Option Nat × Option Nat

inductive Round where
  | done (dimensions : Dimensions)
  | next (i : Nat)

def scanRound (bytes : List UInt8) (i : Nat) : Except Crash Round := do
  let first ← byteAt bytes i
  if first ≠ 0xFF then return .next (i + 1)
  else do
    let marker ← byteAt bytes (i + 1)
    if marker = 0xC0 ∨ marker = 0xC2 then
      if i + 9 < bytes.length then do
        let height ← u16At bytes (i + 5)
        let width ← u16At bytes (i + 7)
        return .done (some width, some height)
      else return .done (none, none)
    else if i + 3 < bytes.length then do
      let segLen ← u16At bytes (i + 2)
      return .next (i + (2 + segLen))
    else return .done (none, none)

def scanFrom (bytes : List UInt8) : Nat → Nat → Except Crash Dimensions
  | 0, _ => .error .starved
  | fuel + 1, i =>
    if i + 1 < bytes.length then do
      match ← scanRound bytes i with
      | .done dimensions => return dimensions
      | .next i => scanFrom bytes fuel i
    else return (none, none)

def pngSignature : List UInt8 := [0x89, 0x50, 0x4E, 0x47, 0x0D, 0x0A, 0x1A, 0x0A]

def isPng (bytes : List UInt8) : Except Crash Bool :=
  if 24 ≤ bytes.length then do
    let signature ← bytesFrom bytes 0 8
    return decide (signature = pngSignature)
  else return false

def isJpeg (bytes : List UInt8) : Except Crash Bool :=
  if 2 ≤ bytes.length then do
    let first ← byteAt bytes 0
    if first = 0xFF then do
      let second ← byteAt bytes 1
      return decide (second = 0xD8)
    else return false
  else return false

def detectImageDimensions (fuel : Nat) (bytes : List UInt8) : Except Crash Dimensions := do
  if ← isPng bytes then do
    let width ← u32At bytes 16
    let height ← u32At bytes 20
    return (some width, some height)
  else if ← isJpeg bytes then scanFrom bytes fuel 2
  else return (none, none)

section

variable {bytes : List UInt8} {i : Nat}

theorem byteAt_completes (h : i < bytes.length) : Completes (byteAt bytes i) := by
  rw [byteAt, List.getElem?_eq_getElem h]
  exact completes_ok _

theorem u16At_completes (h : i + 1 < bytes.length) : Completes (u16At bytes i) := by
  apply completes_bind (byteAt_completes (by omega))
  intro high _
  apply completes_bind (byteAt_completes h)
  intro low _
  exact completes_ok _

theorem u32At_completes (h : i + 3 < bytes.length) : Completes (u32At bytes i) := by
  apply completes_bind (u16At_completes (by omega))
  intro high _
  apply completes_bind (u16At_completes (by omega))
  intro low _
  exact completes_ok _

theorem scanRound_cases (h : i + 1 < bytes.length) :
    (∃ dimensions, scanRound bytes i = .ok (.done dimensions)) ∨
      ∃ j, i < j ∧ scanRound bytes i = .ok (.next j) := by
  obtain ⟨first, hfirst⟩ := byteAt_completes (show i < bytes.length by omega)
  obtain ⟨marker, hmarker⟩ := byteAt_completes h
  simp only [scanRound, hfirst, hmarker, ok_bind]
  split
  · right
    exact ⟨i + 1, Nat.lt_add_one i, rfl⟩
  · split
    · left
      split
      · obtain ⟨height, hheight⟩ := u16At_completes (show i + 5 + 1 < bytes.length by omega)
        obtain ⟨width, hwidth⟩ := u16At_completes (show i + 7 + 1 < bytes.length by omega)
        simp only [hheight, hwidth, ok_bind]
        exact ⟨(some width, some height), rfl⟩
      · exact ⟨(none, none), rfl⟩
    · split
      · obtain ⟨segLen, hsegLen⟩ := u16At_completes (show i + 2 + 1 < bytes.length by omega)
        simp only [hsegLen, ok_bind]
        right
        exact ⟨i + (2 + segLen), by omega, rfl⟩
      · left
        exact ⟨(none, none), rfl⟩

theorem scanFrom_of_done {dimensions : Dimensions} (hroom : i + 1 < bytes.length)
    (h : scanRound bytes i = .ok (.done dimensions)) (fuel : Nat) :
    scanFrom bytes (fuel + 1) i = .ok dimensions := by
  rw [scanFrom, if_pos hroom, h]
  rfl

theorem scanFrom_of_next {j : Nat} (hroom : i + 1 < bytes.length)
    (h : scanRound bytes i = .ok (.next j)) (fuel : Nat) :
    scanFrom bytes (fuel + 1) i = scanFrom bytes fuel j := by
  rw [scanFrom, if_pos hroom, h]
  rfl

theorem scanFrom_completes (bytes : List UInt8) (i : Nat) : ∃ found, ∀ fuel,
    bytes.length - i < fuel → scanFrom bytes fuel i = .ok found := by
  induction hleft : bytes.length - i using Nat.strong_induction_on generalizing i with
  | _ n ih =>
    by_cases hroom : i + 1 < bytes.length
    · rcases scanRound_cases hroom with ⟨dimensions, hdone⟩ | ⟨j, hj, hnext⟩
      · use dimensions
        intro fuel hfuel
        cases fuel with
        | zero => omega
        | succ fuel => exact scanFrom_of_done hroom hdone fuel
      · obtain ⟨found, hfound⟩ := ih (bytes.length - j) (by omega) j rfl
        use found
        intro fuel hfuel
        cases fuel with
        | zero => omega
        | succ fuel =>
          rw [scanFrom_of_next hroom hnext]
          exact hfound fuel (by omega)
    · use (none, none)
      intro fuel hfuel
      cases fuel with
      | zero => omega
      | succ fuel =>
        rw [scanFrom, if_neg hroom]
        rfl

theorem isPng_completes (bytes : List UInt8) :
    isPng bytes = .ok false ∨ 24 ≤ bytes.length ∧ isPng bytes = .ok true := by
  rw [isPng]
  split
  · rename_i hlong
    have hslice : bytesFrom bytes 0 8 = .ok (bytes.take 8) := by
      rw [bytesFrom, if_pos (by omega), List.drop_zero, checked_some]
    simp only [hslice, ok_bind]
    cases hsame : decide (bytes.take 8 = pngSignature) with
    | false => exact .inl rfl
    | true => exact .inr ⟨hlong, rfl⟩
  · exact .inl rfl

theorem isJpeg_completes (bytes : List UInt8) : Completes (isJpeg bytes) := by
  rw [isJpeg]
  split
  · apply completes_bind (byteAt_completes (by omega))
    intro first _
    split
    · apply completes_bind (byteAt_completes (by omega))
      intro second _
      exact completes_ok _
    · exact completes_ok _
  · exact completes_ok _

theorem detectImageDimensions_completes (bytes : List UInt8) : ∃ found, ∀ spare : Nat,
    detectImageDimensions (bytes.length + 1 + spare) bytes = .ok found := by
  obtain ⟨scanned, hscanned⟩ := scanFrom_completes bytes 2
  obtain ⟨jpeg, hjpeg⟩ := isJpeg_completes bytes
  rcases isPng_completes bytes with hpng | ⟨hlong, hpng⟩
  · cases jpeg with
    | false =>
      use (none, none)
      intro spare
      simp only [detectImageDimensions, hpng, hjpeg, ok_bind]
      rfl
    | true =>
      use scanned
      intro spare
      simp only [detectImageDimensions, hpng, hjpeg, ok_bind]
      exact hscanned _ (by omega)
  · obtain ⟨width, hwidth⟩ := u32At_completes (show 16 + 3 < bytes.length by omega)
    obtain ⟨height, hheight⟩ := u32At_completes (show 20 + 3 < bytes.length by omega)
    use (some width, some height)
    intro spare
    simp only [detectImageDimensions, hpng, hwidth, hheight, ok_bind]
    rfl

end

section

def bigEndian (n : Nat) : List UInt8 := [UInt8.ofNat (n / 256), UInt8.ofNat (n % 256)]

structure Segment where
  marker : UInt8
  payload : List UInt8
  other : marker ≠ 0xC0 ∧ marker ≠ 0xC2
  fits : payload.length + 2 < 65536

def Segment.bytes (segment : Segment) : List UInt8 :=
  [0xFF, segment.marker] ++ bigEndian (segment.payload.length + 2) ++ segment.payload

inductive FrameKind where
  | baseline
  | progressive

def FrameKind.marker : FrameKind → UInt8
  | baseline => 0xC0
  | progressive => 0xC2

structure Frame where
  kind : FrameKind
  precision : UInt8
  height : Nat
  width : Nat
  count : UInt8
  components : List UInt8
  height_lt : height < 65536
  width_lt : width < 65536
  fits : components.length + 8 < 65536

def Frame.bytes (frame : Frame) : List UInt8 :=
  [0xFF, frame.kind.marker] ++ bigEndian (frame.components.length + 8) ++ [frame.precision] ++
    bigEndian frame.height ++ bigEndian frame.width ++ [frame.count] ++ frame.components

def jpeg (segments : List Segment) (frame : Frame) (tail : List UInt8) : List UInt8 :=
  [0xFF, 0xD8] ++ (segments.flatMap Segment.bytes ++ (frame.bytes ++ tail))

variable {front back : List UInt8} {k n : Nat}

theorem byteAt_append {b : UInt8} (h : back[k]? = some b) :
    byteAt (front ++ back) (front.length + k) = .ok b := by
  rw [byteAt, List.getElem?_append_right (Nat.le_add_right _ _), Nat.add_sub_cancel_left, h,
    checked_some]

theorem u16At_append (hn : n < 65536) (hhigh : back[k]? = some (UInt8.ofNat (n / 256)))
    (hlow : back[k + 1]? = some (UInt8.ofNat (n % 256))) :
    u16At (front ++ back) (front.length + k) = .ok n := by
  have hsum : u16FromBeBytes (UInt8.ofNat (n / 256)) (UInt8.ofNat (n % 256)) = n := by
    simp only [u16FromBeBytes, UInt8.toNat_ofNat']
    omega
  rw [u16At, byteAt_append hhigh, ok_bind, Nat.add_assoc, byteAt_append hlow, ok_bind, hsum]
  rfl

theorem scanRound_segment (front : List UInt8) (segment : Segment) (back : List UInt8) :
    scanRound (front ++ (segment.bytes ++ back)) front.length =
      .ok (.next (front ++ segment.bytes).length) := by
  have hfirst : byteAt (front ++ (segment.bytes ++ back)) front.length = .ok 0xFF :=
    byteAt_append (k := 0) rfl
  have hmarker : byteAt (front ++ (segment.bytes ++ back)) (front.length + 1) =
      .ok segment.marker :=
    byteAt_append rfl
  have hlength : u16At (front ++ (segment.bytes ++ back)) (front.length + 2) =
      .ok (segment.payload.length + 2) :=
    u16At_append segment.fits rfl rfl
  have hother : ¬ (segment.marker = 0xC0 ∨ segment.marker = 0xC2) := not_or.mpr segment.other
  have hsize : segment.bytes.length = segment.payload.length + 4 := by
    simp [Segment.bytes, bigEndian]
  have hroom : front.length + 3 < (front ++ (segment.bytes ++ back)).length := by
    rw [List.length_append, List.length_append, hsize]
    omega
  have hnext : front.length + (2 + (segment.payload.length + 2)) =
      (front ++ segment.bytes).length := by
    rw [List.length_append, hsize]
    omega
  simp only [scanRound, hfirst, hmarker, hlength, ok_bind, hother, hroom, ne_eq,
    not_true_eq_false, if_false, if_true]
  rw [hnext]
  rfl

theorem scanRound_frame (front : List UInt8) (frame : Frame) (back : List UInt8) :
    scanRound (front ++ (frame.bytes ++ back)) front.length =
      .ok (.done (some frame.width, some frame.height)) := by
  have hfirst : byteAt (front ++ (frame.bytes ++ back)) front.length = .ok 0xFF :=
    byteAt_append (k := 0) rfl
  have hmarker : byteAt (front ++ (frame.bytes ++ back)) (front.length + 1) =
      .ok frame.kind.marker :=
    byteAt_append rfl
  have hheight : u16At (front ++ (frame.bytes ++ back)) (front.length + 5) = .ok frame.height :=
    u16At_append frame.height_lt rfl rfl
  have hwidth : u16At (front ++ (frame.bytes ++ back)) (front.length + 7) = .ok frame.width :=
    u16At_append frame.width_lt rfl rfl
  have hframe : frame.kind.marker = 0xC0 ∨ frame.kind.marker = 0xC2 := by
    cases frame.kind with
    | baseline => exact .inl rfl
    | progressive => exact .inr rfl
  have hroom : front.length + 9 < (front ++ (frame.bytes ++ back)).length := by
    simp [Frame.bytes, bigEndian]
  simp only [scanRound, hfirst, hmarker, hheight, hwidth, ok_bind, hframe, hroom, ne_eq,
    not_true_eq_false, if_false, if_true]
  rfl

theorem scanFrom_segments (front : List UInt8) (segments : List Segment) (frame : Frame)
    (tail : List UInt8) (spare : Nat) :
    scanFrom (front ++ (segments.flatMap Segment.bytes ++ (frame.bytes ++ tail)))
      (segments.length + 1 + spare) front.length = .ok (some frame.width, some frame.height) := by
  induction segments generalizing front with
  | nil =>
    have hroom : front.length + 1 < (front ++ (frame.bytes ++ tail)).length := by
      simp [Frame.bytes, bigEndian]
    have hfuel : ([] : List Segment).length + 1 + spare = spare + 1 := by simp [Nat.add_comm]
    rw [List.flatMap_nil, List.nil_append, hfuel]
    exact scanFrom_of_done hroom (scanRound_frame front frame tail) spare
  | cons segment segments ih =>
    have hfuel : (segment :: segments).length + 1 + spare = segments.length + 1 + spare + 1 := by
      rw [List.length_cons]
      omega
    have hroom : front.length + 1 < (front ++ (segment.bytes ++
        (segments.flatMap Segment.bytes ++ (frame.bytes ++ tail)))).length := by
      simp [Segment.bytes, bigEndian]
    have hrest := ih (front ++ segment.bytes)
    rw [List.append_assoc] at hrest
    rw [List.flatMap_cons, List.append_assoc, hfuel,
      scanFrom_of_next hroom (scanRound_segment front segment _), hrest]

theorem detectImageDimensions_jpeg (segments : List Segment) (frame : Frame) (tail : List UInt8)
    (spare : Nat) : detectImageDimensions (segments.length + 1 + spare)
      (jpeg segments frame tail) = .ok (some frame.width, some frame.height) := by
  have hpng : isPng (jpeg segments frame tail) = .ok false := by
    rcases isPng_completes (jpeg segments frame tail) with hno | ⟨hlong, hyes⟩
    · exact hno
    · have hslice : bytesFrom (jpeg segments frame tail) 0 8 =
          .ok ((jpeg segments frame tail).take 8) := by
        rw [bytesFrom, if_pos (by omega), List.drop_zero, checked_some]
      rw [isPng, if_pos hlong, hslice, ok_bind]
      have hdiffer : (jpeg segments frame tail).take 8 ≠ pngSignature := by
        intro heq
        have hhead := congrArg List.head? heq
        simp [jpeg, pngSignature] at hhead
      rw [decide_eq_false hdiffer]
      rfl
  have hjpeg : isJpeg (jpeg segments frame tail) = .ok true := by
    have hlong : 2 ≤ (jpeg segments frame tail).length := by simp [jpeg]
    rw [isJpeg, if_pos hlong]
    rfl
  have hscan := scanFrom_segments [0xFF, 0xD8] segments frame tail spare
  simp only [detectImageDimensions, hpng, hjpeg, ok_bind]
  exact hscan

theorem detectImageDimensions_scans (bytes : List UInt8) : ∃ found,
    (∀ spare : Nat, detectImageDimensions (bytes.length + 1 + spare) bytes = .ok found) ∧
      ∀ segments frame tail, bytes = jpeg segments frame tail →
        found = (some frame.width, some frame.height) := by
  obtain ⟨found, hfound⟩ := detectImageDimensions_completes bytes
  use found
  constructor
  · exact hfound
  · rintro segments frame tail rfl
    have henough := hfound (segments.length + 1)
    have hexact := detectImageDimensions_jpeg segments frame tail
      ((jpeg segments frame tail).length + 1)
    have hfuel : (jpeg segments frame tail).length + 1 + (segments.length + 1) =
        segments.length + 1 + ((jpeg segments frame tail).length + 1) := Nat.add_comm _ _
    rw [hfuel, hexact] at henough
    exact (Except.ok.inj henough).symm

end

end Vokusz.Routes.ImageDimensions
