import Mathlib.Tactic.IntervalCases
import Vokusz.Storage

namespace Vokusz.Storage.Base64

theorem toList_loop (bs : ByteArray) (i : Nat) (read : List UInt8) :
    ByteArray.toList.loop bs i read = read.reverse ++ bs.data.toList.drop i := by
  induction hleft : bs.size - i generalizing i read with
  | zero =>
    have hend : ¬ i < bs.size := by omega
    have hdrop : bs.data.toList.length ≤ i := by
      rw [Array.length_toList]
      exact not_lt.mp hend
    rw [ByteArray.toList.loop, if_neg hend, List.drop_eq_nil_of_le hdrop, List.append_nil]
  | succ n ih =>
    have hin : i < bs.size := by omega
    have hdata : i < bs.data.toList.length := by
      rw [Array.length_toList]
      exact hin
    have hget : bs.get! i = bs.data.toList[i] := by
      rw [ByteArray.get!, Array.getElem_toList]
      exact getElem!_pos bs.data i hin
    rw [ByteArray.toList.loop, if_pos hin, ih (i + 1) _ (by omega), List.drop_eq_getElem_cons hdata,
      hget]
    simp

theorem toUTF8_toList (input : String) :
    input.toUTF8.toList = input.toList.flatMap String.utf8EncodeChar := by
  have hbytes : input.toUTF8 = input.toList.utf8Encode := String.utf8Encode_toList.symm
  rw [hbytes, ByteArray.toList, toList_loop]
  simp [List.utf8Encode]

theorem utf8EncodeChar_ascii {c : Char} (h : c.toNat ≤ 127) :
    String.utf8EncodeChar c = [UInt8.ofNat c.toNat] := by
  unfold String.utf8EncodeChar
  exact if_pos h

theorem utf8EncodeChar_high {c : Char} (h : 127 < c.toNat) :
    ∀ b ∈ String.utf8EncodeChar c, 128 ≤ b.toNat := by
  intro b hb
  have hascii : ¬ c.val.toNat ≤ 127 := not_le.mpr h
  unfold String.utf8EncodeChar at hb
  rw [if_neg hascii] at hb
  split at hb
  · simp only [List.mem_cons, List.not_mem_nil, or_false] at hb
    rcases hb with rfl | rfl <;> rw [UInt8.toNat_ofNat'] <;> omega
  · split at hb
    · simp only [List.mem_cons, List.not_mem_nil, or_false] at hb
      rcases hb with rfl | rfl | rfl <;> rw [UInt8.toNat_ofNat'] <;> omega
    · simp only [List.mem_cons, List.not_mem_nil, or_false] at hb
      rcases hb with rfl | rfl | rfl | rfl <;> rw [UInt8.toNat_ofNat'] <;> omega

def kept (b : UInt8) : Bool := b ≠ 61 && b ≠ 10 && b ≠ 13 && b ≠ 32

def keptChar (c : Char) : Bool := c ≠ '=' && c ≠ '\n' && c ≠ '\r' && c ≠ ' '

def cleanBytes (input : String) : List UInt8 := input.toUTF8.toList.filter kept

theorem base64Decode_clean (input : String) :
    base64Decode input = decodeChunks (cleanBytes input) := rfl

theorem kept_ascii : ∀ n < 128, kept (UInt8.ofNat n) = keptChar (Char.ofNat n) := by decide +kernel

theorem filter_utf8EncodeChar (c : Char) : (String.utf8EncodeChar c).filter kept =
    if keptChar c then String.utf8EncodeChar c else [] := by
  by_cases hascii : c.toNat ≤ 127
  · have hkept := kept_ascii c.toNat (by omega)
    rw [Char.ofNat_toNat] at hkept
    rw [utf8EncodeChar_ascii hascii, List.filter_singleton, hkept]
    cases keptChar c <;> rfl
  · have hhigh := utf8EncodeChar_high (not_le.mp hascii)
    have hall : ∀ b ∈ String.utf8EncodeChar c, kept b = true := by
      intro b hb
      have hne : ∀ d : UInt8, d.toNat < 128 → b ≠ d := by
        rintro d hd rfl
        exact absurd (hhigh b hb) (not_le.mpr hd)
      simp [kept, hne 61 (by decide), hne 10 (by decide), hne 13 (by decide), hne 32 (by decide)]
    have hc : keptChar c = true := by
      have hne : ∀ d : Char, d.toNat ≤ 127 → c ≠ d := by
        rintro d hd rfl
        exact hascii hd
      simp [keptChar, hne '=' (by decide), hne '\n' (by decide), hne '\r' (by decide),
        hne ' ' (by decide)]
    rw [List.filter_eq_self.mpr hall, if_pos hc]

theorem cleanBytes_eq (input : String) :
    cleanBytes input = (input.toList.filter keptChar).flatMap String.utf8EncodeChar := by
  rw [cleanBytes, toUTF8_toList]
  induction input.toList with
  | nil => rfl
  | cons c cs ih =>
    rw [List.flatMap_cons, List.filter_append, ih, filter_utf8EncodeChar, List.filter_cons]
    split
    · rfl
    · rfl

def alphabet : List Char :=
  "ABCDEFGHIJKLMNOPQRSTUVWXYZabcdefghijklmnopqrstuvwxyz0123456789+/".toList

def symbol (v : UInt8) : Char := alphabet.getD v.toNat '='

def sextets : List UInt8 → List UInt8
  | a :: b :: c :: rest =>
    a >>> 2 :: ((a &&& 3) <<< 4 ||| b >>> 4) :: ((b &&& 15) <<< 2 ||| c >>> 6) :: (c &&& 63) ::
      sextets rest
  | [a, b] => [a >>> 2, (a &&& 3) <<< 4 ||| b >>> 4, (b &&& 15) <<< 2]
  | [a] => [a >>> 2, (a &&& 3) <<< 4]
  | [] => []

def encodeUnpadded (bytes : List UInt8) : List Char := (sextets bytes).map symbol

def padding (bytes : List UInt8) : List Char := List.replicate ((3 - bytes.length % 3) % 3) '='

def encode (bytes : List UInt8) : List Char := encodeUnpadded bytes ++ padding bytes

theorem or_lt {a b : UInt8} (ha : a.toNat < 64) (hb : b.toNat < 64) : (a ||| b).toNat < 64 := by
  rw [UInt8.toNat_or]
  exact @Nat.or_lt_two_pow _ _ 6 ha hb

theorem parts_lt : ∀ a : UInt8, (a >>> 2).toNat < 64 ∧ ((a &&& 3) <<< 4).toNat < 64 ∧
    (a >>> 4).toNat < 64 ∧ ((a &&& 15) <<< 2).toNat < 64 ∧ (a >>> 6).toNat < 64 ∧
    (a &&& 63).toNat < 64 := by
  have hall : ∀ n < 256, (UInt8.ofNat n >>> 2).toNat < 64 ∧
      ((UInt8.ofNat n &&& 3) <<< 4).toNat < 64 ∧ (UInt8.ofNat n >>> 4).toNat < 64 ∧
      ((UInt8.ofNat n &&& 15) <<< 2).toNat < 64 ∧ (UInt8.ofNat n >>> 6).toNat < 64 ∧
      (UInt8.ofNat n &&& 63).toNat < 64 := by
    decide +kernel
  intro a
  have ha := hall a.toNat a.toNat_lt
  rwa [UInt8.ofNat_toNat] at ha

def byteOf (v : UInt8) : UInt8 := UInt8.ofNat (symbol v).toNat

theorem symbol_spec {v : UInt8} (h : v.toNat < 64) :
    String.utf8EncodeChar (symbol v) = [byteOf v] ∧ decodeByte (byteOf v) = .ok v ∧
      keptChar (symbol v) = true := by
  have hall : ∀ n < 64, String.utf8EncodeChar (symbol (UInt8.ofNat n)) =
      [byteOf (UInt8.ofNat n)] ∧ decodeByte (byteOf (UInt8.ofNat n)) = .ok (UInt8.ofNat n) ∧
      keptChar (symbol (UInt8.ofNat n)) = true := by
    decide +kernel
  have hv := hall v.toNat h
  rwa [UInt8.ofNat_toNat] at hv

theorem first_byte (a b : UInt8) :
    (a >>> 2) <<< 2 ||| ((a &&& 3) <<< 4 ||| b >>> 4) >>> 4 = a := by
  apply UInt8.eq_of_toBitVec_eq
  ext i hi
  simp
  interval_cases i <;> simp

theorem second_byte (a b c : UInt8) :
    ((a &&& 3) <<< 4 ||| b >>> 4) <<< 4 ||| ((b &&& 15) <<< 2 ||| c >>> 6) >>> 2 = b := by
  apply UInt8.eq_of_toBitVec_eq
  ext i hi
  simp
  interval_cases i <;> simp

theorem first_byte_last (a : UInt8) : (a >>> 2) <<< 2 ||| ((a &&& 3) <<< 4) >>> 4 = a := by
  have h := first_byte a 0
  simpa using h

theorem second_byte_last (a b : UInt8) :
    ((a &&& 3) <<< 4 ||| b >>> 4) <<< 4 ||| ((b &&& 15) <<< 2) >>> 2 = b := by
  have h := second_byte a b 0
  simpa using h

theorem third_byte (b c : UInt8) :
    ((b &&& 15) <<< 2 ||| c >>> 6) <<< 6 ||| (c &&& 63) = c := by
  apply UInt8.eq_of_toBitVec_eq
  ext i hi
  simp
  interval_cases i <;> simp

theorem sextets_lt (bytes : List UInt8) : ∀ v ∈ sextets bytes, v.toNat < 64 := by
  induction bytes using sextets.induct with
  | case1 a b c rest ih =>
    obtain ⟨ha, ha', _⟩ := parts_lt a
    obtain ⟨_, _, hb, hb', _⟩ := parts_lt b
    obtain ⟨_, _, _, _, hc, hc'⟩ := parts_lt c
    intro v hv
    simp only [sextets, List.mem_cons] at hv
    rcases hv with rfl | rfl | rfl | rfl | hv
    · exact ha
    · exact or_lt ha' hb
    · exact or_lt hb' hc
    · exact hc'
    · exact ih v hv
  | case2 a b =>
    obtain ⟨ha, ha', _⟩ := parts_lt a
    obtain ⟨_, _, hb, hb', _⟩ := parts_lt b
    intro v hv
    simp only [sextets, List.mem_cons, List.not_mem_nil, or_false] at hv
    rcases hv with rfl | rfl | rfl
    · exact ha
    · exact or_lt ha' hb
    · exact hb'
  | case3 a =>
    obtain ⟨ha, ha', _⟩ := parts_lt a
    intro v hv
    simp only [sextets, List.mem_cons, List.not_mem_nil, or_false] at hv
    rcases hv with rfl | rfl
    · exact ha
    · exact ha'
  | case4 => simp [sextets]

theorem decodeChunks_sextets (bytes : List UInt8) :
    decodeChunks ((sextets bytes).map byteOf) = .ok bytes := by
  have hdecode : ∀ v ∈ sextets bytes, decodeByte (byteOf v) = .ok v :=
    fun v hv => (symbol_spec (sextets_lt bytes v hv)).2.1
  induction bytes using sextets.induct with
  | case1 a b c rest ih =>
    simp only [sextets, List.mem_cons, forall_eq_or_imp] at hdecode
    obtain ⟨h₁, h₂, h₃, h₄, hrest⟩ := hdecode
    simp only [sextets, List.map_cons, decodeChunks, decodeQuad, h₁, h₂, h₃, h₄, ih hrest]
    change Except.ok ([(a >>> 2) <<< 2 ||| ((a &&& 3) <<< 4 ||| b >>> 4) >>> 4,
      ((a &&& 3) <<< 4 ||| b >>> 4) <<< 4 ||| ((b &&& 15) <<< 2 ||| c >>> 6) >>> 2,
      ((b &&& 15) <<< 2 ||| c >>> 6) <<< 6 ||| (c &&& 63)] ++ rest) = _
    rw [first_byte, second_byte, third_byte]
    rfl
  | case2 a b =>
    simp only [sextets, List.mem_cons, forall_eq_or_imp] at hdecode
    obtain ⟨h₁, h₂, h₃, _⟩ := hdecode
    simp only [sextets, List.map_cons, List.map_nil, decodeChunks, h₁, h₂, h₃]
    change Except.ok [(a >>> 2) <<< 2 ||| ((a &&& 3) <<< 4 ||| b >>> 4) >>> 4,
      ((a &&& 3) <<< 4 ||| b >>> 4) <<< 4 ||| ((b &&& 15) <<< 2) >>> 2] = _
    rw [first_byte, second_byte_last]
  | case3 a =>
    simp only [sextets, List.mem_cons, forall_eq_or_imp] at hdecode
    obtain ⟨h₁, h₂, _⟩ := hdecode
    simp only [sextets, List.map_cons, List.map_nil, decodeChunks, h₁, h₂]
    change Except.ok [(a >>> 2) <<< 2 ||| ((a &&& 3) <<< 4) >>> 4] = _
    rw [first_byte_last]
  | case4 => rfl

section

variable {bytes out : List UInt8}

theorem decodeByte_error {b : UInt8} {e : AppError} (h : decodeByte b = .error e) :
    e = invalidBase64 := by
  unfold decodeByte at h
  grind

theorem decodeByte_cases (b : UInt8) :
    decodeByte b = .error invalidBase64 ∨ ∃ v, decodeByte b = .ok v := by
  cases h : decodeByte b with
  | error e => exact .inl (congrArg Except.error (decodeByte_error h))
  | ok v => exact .inr ⟨v, rfl⟩

theorem decodeChunks_cases (bytes : List UInt8) : decodeChunks bytes = .error invalidBase64 ∨
    (∃ out, decodeChunks bytes = .ok out) ∧ (∀ b ∈ bytes, ∃ v, decodeByte b = .ok v) ∧
      bytes.length % 4 ≠ 1 := by
  induction bytes using decodeChunks.induct with
  | case1 a b c d rest ih =>
    rcases decodeByte_cases a with ha | ⟨va, ha⟩
    · exact .inl (by rw [decodeChunks, decodeQuad, ha]; rfl)
    rcases decodeByte_cases b with hb | ⟨vb, hb⟩
    · exact .inl (by rw [decodeChunks, decodeQuad, ha, hb]; rfl)
    rcases decodeByte_cases c with hc | ⟨vc, hc⟩
    · exact .inl (by rw [decodeChunks, decodeQuad, ha, hb, hc]; rfl)
    rcases decodeByte_cases d with hd | ⟨vd, hd⟩
    · exact .inl (by rw [decodeChunks, decodeQuad, ha, hb, hc, hd]; rfl)
    rcases ih with hrest | ⟨⟨out, hrest⟩, hall, hlength⟩
    · exact .inl (by rw [decodeChunks, decodeQuad, ha, hb, hc, hd, hrest]; rfl)
    · refine .inr ⟨⟨_, by rw [decodeChunks, decodeQuad, ha, hb, hc, hd, hrest]; rfl⟩, ?_, ?_⟩
      · simp only [List.mem_cons, forall_eq_or_imp]
        exact ⟨⟨va, ha⟩, ⟨vb, hb⟩, ⟨vc, hc⟩, ⟨vd, hd⟩, hall⟩
      · simp only [List.length_cons]
        omega
  | case2 a b c =>
    rcases decodeByte_cases a with ha | ⟨va, ha⟩
    · exact .inl (by rw [decodeChunks, ha]; rfl)
    rcases decodeByte_cases b with hb | ⟨vb, hb⟩
    · exact .inl (by rw [decodeChunks, ha, hb]; rfl)
    rcases decodeByte_cases c with hc | ⟨vc, hc⟩
    · exact .inl (by rw [decodeChunks, ha, hb, hc]; rfl)
    · refine .inr ⟨⟨_, by rw [decodeChunks, ha, hb, hc]; rfl⟩, ?_, by simp⟩
      simp only [List.mem_cons, forall_eq_or_imp]
      exact ⟨⟨va, ha⟩, ⟨vb, hb⟩, ⟨vc, hc⟩, by simp⟩
  | case3 a b =>
    rcases decodeByte_cases a with ha | ⟨va, ha⟩
    · exact .inl (by rw [decodeChunks, ha]; rfl)
    rcases decodeByte_cases b with hb | ⟨vb, hb⟩
    · exact .inl (by rw [decodeChunks, ha, hb]; rfl)
    · refine .inr ⟨⟨_, by rw [decodeChunks, ha, hb]; rfl⟩, ?_, by simp⟩
      simp only [List.mem_cons, forall_eq_or_imp]
      exact ⟨⟨va, ha⟩, ⟨vb, hb⟩, by simp⟩
  | case4 a =>
    rcases decodeByte_cases a with ha | ⟨va, ha⟩ <;>
      exact .inl (by rw [decodeChunks, ha]; rfl)
  | case5 => exact .inr ⟨⟨[], rfl⟩, by simp, by simp⟩

theorem decodeChunks_of_bad {b : UInt8} (hb : b ∈ bytes) (hbad : ∀ v, decodeByte b ≠ .ok v) :
    decodeChunks bytes = .error invalidBase64 := by
  rcases decodeChunks_cases bytes with herror | ⟨_, hall, _⟩
  · exact herror
  · obtain ⟨v, hv⟩ := hall b hb
    exact absurd hv (hbad v)

theorem decodeChunks_of_length (h : bytes.length % 4 = 1) :
    decodeChunks bytes = .error invalidBase64 := by
  rcases decodeChunks_cases bytes with herror | ⟨_, _, hlength⟩
  · exact herror
  · exact absurd h hlength

theorem alphabet_of_decodes {b v : UInt8} (h : decodeByte b = .ok v) :
    b.toNat < 128 ∧ Char.ofNat b.toNat ∈ alphabet := by
  have hall : ∀ n < 256, (decodeByte (UInt8.ofNat n)).isOk = true →
      n < 128 ∧ Char.ofNat n ∈ alphabet := by
    decide +kernel
  apply hall b.toNat b.toNat_lt
  rw [UInt8.ofNat_toNat, h]
  rfl

theorem bad_byte {c : Char} (h : c ∉ alphabet) :
    ∃ b ∈ String.utf8EncodeChar c, ∀ v, decodeByte b ≠ .ok v := by
  by_cases hascii : c.toNat ≤ 127
  · refine ⟨UInt8.ofNat c.toNat, by simp [utf8EncodeChar_ascii hascii], fun v hv => ?_⟩
    have hmem := (alphabet_of_decodes hv).2
    rw [UInt8.toNat_ofNat', Nat.mod_eq_of_lt (by omega), Char.ofNat_toNat] at hmem
    exact h hmem
  · obtain ⟨b, hb⟩ := List.exists_mem_of_ne_nil _ (String.utf8EncodeChar_ne_nil (c := c))
    refine ⟨b, hb, fun v hv => ?_⟩
    have hlow := (alphabet_of_decodes hv).1
    exact absurd (utf8EncodeChar_high (not_le.mp hascii) b hb) (not_le.mpr hlow)

end

def spacing (c : Char) : Bool := c = ' ' || c = '\n' || c = '\r'

def capacity (clean : List UInt8) : Option Nat :=
  if clean.length * 3 < 2 ^ 64 then some (clean.length * 3 / 4) else none

def checkedDecode (input : String) : Option (Except AppError (List UInt8)) :=
  (capacity (cleanBytes input)).map (fun _ => base64Decode input)

theorem filter_keptChar (cs : List Char) :
    cs.filter keptChar = (cs.filter (fun c => !spacing c)).filter (fun c => c ≠ '=') := by
  rw [List.filter_filter]
  apply List.filter_congr
  intro c _
  simp only [keptChar, spacing]
  grind

theorem encodeUnpadded_kept (bytes : List UInt8) :
    (encodeUnpadded bytes).filter (fun c => c ≠ '=') = encodeUnpadded bytes := by
  rw [List.filter_eq_self, encodeUnpadded]
  intro c hc
  obtain ⟨v, hv, rfl⟩ := List.mem_map.mp hc
  have hkept := (symbol_spec (sextets_lt bytes v hv)).2.2
  simp only [keptChar, Bool.and_eq_true] at hkept
  exact hkept.1.1.1

theorem encode_kept (bytes : List UInt8) :
    (encode bytes).filter (fun c => c ≠ '=') = encodeUnpadded bytes := by
  rw [encode, List.filter_append, encodeUnpadded_kept]
  have hpadding : (padding bytes).filter (fun c => c ≠ '=') = [] := by
    rw [padding, List.filter_replicate]
    simp
  rw [hpadding, List.append_nil]

theorem flatMap_encodeUnpadded (bytes : List UInt8) :
    (encodeUnpadded bytes).flatMap String.utf8EncodeChar = (sextets bytes).map byteOf := by
  rw [encodeUnpadded, List.flatMap_map]
  have hlt := sextets_lt bytes
  generalize sextets bytes = values at hlt
  induction values with
  | nil => rfl
  | cons v vs ih =>
    rw [List.flatMap_cons, (symbol_spec (hlt v (by simp))).1,
      ih (fun v' hv' => hlt v' (by simp [hv']))]
    rfl

theorem base64Decode_of_kept {input : String} {bytes : List UInt8}
    (h : input.toList.filter keptChar = encodeUnpadded bytes) :
    base64Decode input = .ok bytes := by
  rw [base64Decode_clean, cleanBytes_eq, h, flatMap_encodeUnpadded, decodeChunks_sextets]

theorem length_cleanBytes_le (input : String) : (cleanBytes input).length ≤ input.utf8ByteSize := by
  have hsize : input.toUTF8.toList.length = input.utf8ByteSize := by
    rw [ByteArray.toList, toList_loop]
    simp
  rw [← hsize]
  exact List.length_filter_le _ _

theorem base64_round_trip (input : String) :
    (∀ bytes, input.toList.filter (fun c => !spacing c) = encode bytes ∨
        input.toList.filter (fun c => !spacing c) = encodeUnpadded bytes →
      base64Decode input = .ok bytes) ∧
      ((∃ c ∈ input.toList, c ∉ alphabet ∧ c ≠ '=' ∧ spacing c = false) →
        base64Decode input = .error invalidBase64) ∧
      ((cleanBytes input).length % 4 = 1 → base64Decode input = .error invalidBase64) ∧
      (input.utf8ByteSize < 2 ^ 62 → checkedDecode input = some (base64Decode input)) := by
  refine ⟨?_, ?_, ?_, ?_⟩
  · intro bytes h
    apply base64Decode_of_kept
    rw [filter_keptChar]
    rcases h with h | h
    · rw [h, encode_kept]
    · rw [h, encodeUnpadded_kept]
  · rintro ⟨c, hc, hout, hpad, hspace⟩
    obtain ⟨b, hb, hbad⟩ := bad_byte hout
    rw [base64Decode_clean, cleanBytes_eq]
    refine decodeChunks_of_bad (List.mem_flatMap.mpr ⟨c, List.mem_filter.mpr ⟨hc, ?_⟩, hb⟩) hbad
    simp only [spacing] at hspace
    simp only [keptChar]
    grind
  · intro hlength
    exact decodeChunks_of_length hlength
  · intro hsize
    have hlength := length_cleanBytes_le input
    have hfits : (cleanBytes input).length * 3 < 2 ^ 64 := by omega
    rw [checkedDecode, capacity, if_pos hfits]
    rfl

theorem base64_round_trip_hi :
    base64Decode "aG\nk=" = .ok [104, 105] ∧ base64Decode "aG-k" = .error invalidBase64 ∧
      checkedDecode "aG\nk=" = some (base64Decode "aG\nk=") := by
  have hsize : "aG\nk=".utf8ByteSize = 5 := by decide +kernel
  exact ⟨(base64_round_trip "aG\nk=").1 [104, 105] (.inl (by decide +kernel)),
    (base64_round_trip "aG-k").2.1 ⟨'-', by decide, by decide, by decide, by decide⟩,
    (base64_round_trip "aG\nk=").2.2.2 (by omega)⟩

end Vokusz.Storage.Base64
