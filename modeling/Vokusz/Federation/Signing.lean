import Mathlib.Data.List.GetD
import Vokusz.Federation.Verify
import Vokusz.Storage.Base64

namespace Vokusz.Text

variable {a b key : List Char} {sep c : Char} {p : Char → Bool}

theorem toNat_toUpper (c : Char) :
    c.toUpper.toNat = if c.isLower then c.toNat - 32 else c.toNat := by
  have hrange : c.isLower = true ↔ 'a'.val ≤ c.val ∧ c.val ≤ 'z'.val := by
    have hfirst : 'a'.val.toNat = 97 := by decide
    have hlast : 'z'.val.toNat = 122 := by decide
    have hval : c.val.toNat = c.toNat := rfl
    rw [isLower_iff, UInt32.le_iff_toNat_le, UInt32.le_iff_toNat_le, hfirst, hlast, hval]
  cases hlow : c.isLower with
  | true =>
    have hnat := isLower_iff.mp hlow
    have hupper : c.toUpper.val = c.val + ('A'.val - 'a'.val) := by
      delta Char.toUpper
      rw [dif_pos (hrange.mp hlow)]
    have hdiff : ('A'.val - 'a'.val).toNat = 4294967264 := by decide
    have hval : c.val.toNat = c.toNat := rfl
    have hnew : c.toUpper.toNat = c.toUpper.val.toNat := rfl
    rw [hnew, hupper, UInt32.toNat_add, hdiff, hval, if_pos rfl]
    omega
  | false =>
    have hupper : c.toUpper = c := by
      apply dif_neg
      rw [← hrange, hlow]
      exact Bool.false_ne_true
    rw [hupper, if_neg (by simp)]

theorem toUpper_kept (h : c.toUpper.isAlpha = false) : c = c.toUpper := by
  have hnat := toNat_toUpper c
  cases hlow : c.isLower with
  | true =>
    have hrange := isLower_iff.mp hlow
    rw [hlow, if_pos rfl] at hnat
    rw [isAlpha_eq, Bool.or_eq_false_iff] at h
    have hupper : c.toUpper.isUpper = true := isUpper_iff.mpr (by omega)
    rw [h.1] at hupper
    cases hupper
  | false =>
    rw [hlow, if_neg (by simp)] at hnat
    exact (Char.toNat_inj.mp hnat).symm

theorem splitOnce_append (h : sep ∉ a) : splitOnce sep (a ++ sep :: b) = some (a, b) := by
  induction a with
  | nil => simp [splitOnce]
  | cons c a ih =>
    have hc : c ≠ sep := (List.ne_of_not_mem_cons h).symm
    rw [List.cons_append, splitOnce, if_neg hc, ih (List.not_mem_of_not_mem_cons h),
      Option.map_some]

theorem splitChar_self (h : sep ∉ a) : splitChar sep a = [a] := by
  induction a with
  | nil => rfl
  | cons c a ih =>
    have hc : c ≠ sep := (List.ne_of_not_mem_cons h).symm
    rw [splitChar, if_neg hc, ih (List.not_mem_of_not_mem_cons h)]

theorem splitChar_append (h : sep ∉ a) : splitChar sep (a ++ sep :: b) = a :: splitChar sep b := by
  induction a with
  | nil => simp [splitChar]
  | cons c a ih =>
    have hc : c ≠ sep := (List.ne_of_not_mem_cons h).symm
    rw [List.cons_append, splitChar, if_neg hc, ih (List.not_mem_of_not_mem_cons h)]

theorem append_sep_inj {a' b' : List Char} (h : sep ∉ a) (h' : sep ∉ a')
    (heq : a ++ sep :: b = a' ++ sep :: b') : a = a' ∧ b = b' := by
  have hsplit := congrArg (splitOnce sep) heq
  rw [splitOnce_append h, splitOnce_append h', Option.some.injEq, Prod.mk.injEq] at hsplit
  exact hsplit

theorem stripEnds_wrapped (hc : p c = true) (hkey : ∀ x ∈ key, p x = false) :
    stripEnds p (c :: (key ++ [c])) = key := by
  have hdrop : (c :: (key ++ [c])).dropWhile p = (key ++ [c]).dropWhile p := by
    rw [List.dropWhile_cons, if_pos hc]
  have hkept : ∀ cs : List Char, (∀ x ∈ cs, p x = false) → cs.dropWhile p = cs := by
    intro cs hcs
    cases cs with
    | nil => rfl
    | cons x cs =>
      have hx : ¬ p x = true := by simp [hcs x List.mem_cons_self]
      rw [List.dropWhile_cons, if_neg hx]
  cases key with
  | nil => simp [stripEnds, hc]
  | cons x key =>
    have hx : ¬ p x = true := by simp [hkey x List.mem_cons_self]
    have hfront : (x :: key ++ [c]).dropWhile p = x :: key ++ [c] := by
      rw [List.cons_append, List.dropWhile_cons, if_neg hx]
    have hback : (x :: key).reverse.dropWhile p = (x :: key).reverse :=
      hkept _ (fun y hy => hkey y (List.mem_reverse.mp hy))
    rw [stripEnds, hdrop, hfront, List.reverse_append, List.reverse_singleton,
      List.singleton_append, List.dropWhile_cons, if_pos hc, hback, List.reverse_reverse]

theorem stripEnds_kept {d : Char} (hc : p c = false) (hd : p d = false) :
    stripEnds p (c :: (key ++ [d])) = c :: (key ++ [d]) := by
  have hfront : (c :: (key ++ [d])).dropWhile p = c :: (key ++ [d]) := by
    rw [List.dropWhile_cons, if_neg (by simp [hc])]
  have hback : (c :: (key ++ [d])).reverse = d :: (c :: key).reverse := by simp
  rw [stripEnds, hfront, hback, List.dropWhile_cons, if_neg (by simp [hd]), ← hback,
    List.reverse_reverse]

end Vokusz.Text

namespace Vokusz.Storage.Base64

theorem encode_injective : Function.Injective encode := by
  intro bytes bytes' heq
  have hunpadded : encodeUnpadded bytes = encodeUnpadded bytes' := by
    rw [← encode_kept, ← encode_kept, heq]
  have hbytes := congrArg (List.flatMap String.utf8EncodeChar) hunpadded
  rw [flatMap_encodeUnpadded, flatMap_encodeUnpadded] at hbytes
  have hdecoded := congrArg decodeChunks hbytes
  rw [decodeChunks_sextets, decodeChunks_sextets] at hdecoded
  exact Except.ok.inj hdecoded

theorem mem_encode {c : Char} {bytes : List UInt8} (h : c ∈ encode bytes) :
    c ∈ alphabet ∨ c = '=' := by
  rcases List.mem_append.mp h with hsymbol | hpadding
  · obtain ⟨v, hv, rfl⟩ := List.mem_map.mp hsymbol
    have hlt : v.toNat < alphabet.length := sextets_lt bytes v hv
    left
    rw [symbol, List.getD_eq_getElem _ _ hlt]
    exact List.getElem_mem hlt
  · right
    exact List.eq_of_mem_replicate hpadding

end Vokusz.Storage.Base64

namespace Vokusz.Federation.Signatures

open Storage

structure Uppercasing where
  map : String → String
  plain : ∀ s : String, ' ' ∉ s.toList ∧ '\n' ∉ s.toList →
    ' ' ∉ (map s).toList ∧ '\n' ∉ (map s).toList

def signingStringBy (upper : Uppercasing) (method path host date digest : String) : String :=
  upper.map method ++ " " ++ path ++ "\nhost: " ++ host ++ "\ndate: " ++ date ++
    "\ndigest: " ++ digest

def bodyDigest (sha256 : List UInt8 → List UInt8) (body : List UInt8) : String :=
  "SHA-256=" ++ String.ofList (Base64.encode (sha256 body))

structure SignedHeaders where
  date : String
  digest : String
  signature : String
  deriving DecidableEq, Repr

def signatureHeader (keyId sig : String) : String :=
  "keyId=\"" ++ keyId ++ "\",algorithm=\"ed25519\",signature=\"" ++ sig ++ "\""

def signRequest (upper : Uppercasing) (sha256 : List UInt8 → List UInt8)
    (sign : String → List UInt8) (date keyId method path host : String) (body : List UInt8) :
    SignedHeaders :=
  let digest := bodyDigest sha256 body
  let signing := signingStringBy upper method path host date digest
  let sig := String.ofList (Base64.encode (sign signing))
  { date := date, digest := digest, signature := signatureHeader keyId sig }

structure KeyId where
  domain : String
  noComma : ',' ∉ domain.toList
  noQuote : '"' ∉ domain.toList

theorem unquote_quoted {text : List Char} (h : '"' ∉ text) :
    unquote ('"' :: (text ++ ['"'])) = String.ofList text := by
  have htrim : Text.stripEnds isWhitespace ('"' :: (text ++ ['"'])) = '"' :: (text ++ ['"']) :=
    Text.stripEnds_kept (by decide) (by decide)
  have hquotes : Text.stripEnds (fun c => c = '"') ('"' :: (text ++ ['"'])) = text := by
    apply Text.stripEnds_wrapped
    · exact decide_eq_true rfl
    · intro x hx
      exact decide_eq_false (fun heq => h (heq ▸ hx))
  rw [unquote, htrim, hquotes]

theorem parsePart_keyId {found : Option String × Option String} {text : List Char}
    (h : '"' ∉ text) : parsePart found ("keyId".toList ++ '=' :: '"' :: (text ++ ['"'])) =
      some (some (String.ofList text), found.2) := by
  have hname : trim (String.ofList "keyId".toList) = "keyId" := by decide
  rw [parsePart, Text.splitOnce_append (by decide), Option.bind_eq_bind, Option.bind_some]
  simp only [hname, if_true, unquote_quoted h]
  rfl

theorem parsePart_signature {found : Option String × Option String} {text : List Char}
    (h : '"' ∉ text) : parsePart found ("signature".toList ++ '=' :: '"' :: (text ++ ['"'])) =
      some (found.1, some (String.ofList text)) := by
  have hname : trim (String.ofList "signature".toList) = "signature" := by decide
  have hother : "signature" ≠ "keyId" := by decide
  rw [parsePart, Text.splitOnce_append (by decide), Option.bind_eq_bind, Option.bind_some]
  simp only [hname, hother, if_true, if_false, unquote_quoted h]
  rfl

theorem parsePart_algorithm (found : Option String × Option String) :
    parsePart found "algorithm=\"ed25519\"".toList = some found := by
  have hsplit : Text.splitOnce '=' "algorithm=\"ed25519\"".toList =
      some ("algorithm".toList, "\"ed25519\"".toList) := by
    decide
  have hname : trim (String.ofList "algorithm".toList) = "algorithm" := by decide
  have hkey : "algorithm" ≠ "keyId" := by decide
  have hsig : "algorithm" ≠ "signature" := by decide
  rw [parsePart, hsplit, Option.bind_eq_bind, Option.bind_some]
  simp only [hname, hkey, hsig, if_false]
  rfl

theorem toList_signatureHeader (keyId sig : String) : (signatureHeader keyId sig).toList =
    ("keyId".toList ++ '=' :: '"' :: (keyId.toList ++ ['"'])) ++ ',' ::
      ("algorithm=\"ed25519\"".toList ++ ',' ::
        ("signature".toList ++ '=' :: '"' :: (sig.toList ++ ['"']))) := by
  simp [signatureHeader, String.toList_append]

theorem parse_signatureHeader (key : KeyId) {sig : String} (hcomma : ',' ∉ sig.toList)
    (hquote : '"' ∉ sig.toList) : parseSignatureHeader (signatureHeader key.domain sig) =
      some { keyId := key.domain, signatureB64 := sig } := by
  have hfirst : ',' ∉ "keyId".toList ++ '=' :: '"' :: (key.domain.toList ++ ['"']) := by
    simp [key.noComma]
  have hlast : ',' ∉ "signature".toList ++ '=' :: '"' :: (sig.toList ++ ['"']) := by
    simp [hcomma]
  have hmiddle : ',' ∉ "algorithm=\"ed25519\"".toList := by decide
  have hparts : Text.splitChar ',' (signatureHeader key.domain sig).toList =
      ["keyId".toList ++ '=' :: '"' :: (key.domain.toList ++ ['"']),
        "algorithm=\"ed25519\"".toList,
        "signature".toList ++ '=' :: '"' :: (sig.toList ++ ['"'])] := by
    rw [toList_signatureHeader, Text.splitChar_append hfirst, Text.splitChar_append hmiddle,
      Text.splitChar_self hlast]
  have hfold : ["keyId".toList ++ '=' :: '"' :: (key.domain.toList ++ ['"']),
      "algorithm=\"ed25519\"".toList,
      "signature".toList ++ '=' :: '"' :: (sig.toList ++ ['"'])].foldlM parsePart (none, none) =
        some (some key.domain, some sig) := by
    simp only [List.foldlM_cons, parsePart_keyId key.noQuote, parsePart_algorithm,
      parsePart_signature hquote, Option.bind_eq_bind, Option.bind_some, List.foldlM_nil,
      String.ofList_toList]
    rfl
  rw [parseSignatureHeader, hparts, hfold]
  rfl

theorem parse_signRequest (upper : Uppercasing) (sha256 : List UInt8 → List UInt8)
    (sign : String → List UInt8) (date method path host : String) (key : KeyId)
    (body : List UInt8) :
    parseSignatureHeader
        (signRequest upper sha256 sign date key.domain method path host body).signature =
      some { keyId := key.domain
             signatureB64 := String.ofList (Base64.encode (sign (signingStringBy upper method path
               host date (bodyDigest sha256 body)))) } := by
  have hplain : ∀ bytes, ∀ c ∈ [',', '"'], c ∉ (String.ofList (Base64.encode bytes)).toList := by
    intro bytes c hc hmem
    rw [String.toList_ofList] at hmem
    have hcomma : Base64.alphabet.contains ',' = false := rfl
    have hquote : Base64.alphabet.contains '"' = false := rfl
    rcases Base64.mem_encode hmem with hsymbol | rfl
    · rw [← List.contains_iff_mem] at hsymbol
      rcases List.mem_pair.mp hc with rfl | rfl
      · rw [hcomma] at hsymbol; cases hsymbol
      · rw [hquote] at hsymbol; cases hsymbol
    · exact absurd hc (by decide)
  exact parse_signatureHeader key (hplain _ ',' (by simp)) (hplain _ '"' (by simp))

section

variable {upper : Uppercasing} {sha256 : List UInt8 → List UInt8}

structure Request where
  method : String
  path : String
  host : String
  date : String
  body : List UInt8
  plainMethod : ' ' ∉ method.toList ∧ '\n' ∉ method.toList
  pathLine : '\n' ∉ path.toList
  hostLine : '\n' ∉ host.toList
  dateLine : '\n' ∉ date.toList

def Request.signed (upper : Uppercasing) (sha256 : List UInt8 → List UInt8) (r : Request) : String :=
  signingStringBy upper r.method r.path r.host r.date (bodyDigest sha256 r.body)

theorem bodyDigest_injective (hsha : Function.Injective sha256) :
    Function.Injective (bodyDigest sha256) := by
  intro body body' heq
  have hchars := congrArg String.toList heq
  rw [bodyDigest, bodyDigest, String.toList_append, String.toList_append, List.append_cancel_left_eq,
    String.toList_ofList, String.toList_ofList] at hchars
  exact hsha (Base64.encode_injective hchars)

theorem toList_signed (r : Request) : (r.signed upper sha256).toList =
    (upper.map r.method).toList ++ ' ' :: (r.path.toList ++ '\n' :: ("host: ".toList ++
      (r.host.toList ++ '\n' :: ("date: ".toList ++ (r.date.toList ++ '\n' ::
        ("digest: ".toList ++ (bodyDigest sha256 r.body).toList)))))) := by
  simp [Request.signed, signingStringBy, String.toList_append]

theorem signed_inj (hsha : Function.Injective sha256) {r r' : Request}
    (heq : r.signed upper sha256 = r'.signed upper sha256) :
    upper.map r.method = upper.map r'.method ∧ r.path = r'.path ∧ r.host = r'.host ∧
      r.date = r'.date ∧ r.body = r'.body := by
  have hchars := congrArg String.toList heq
  rw [toList_signed, toList_signed] at hchars
  obtain ⟨hmethod, hafter⟩ := Text.append_sep_inj (upper.plain _ r.plainMethod).1
    (upper.plain _ r'.plainMethod).1 hchars
  obtain ⟨hpath, hafter⟩ := Text.append_sep_inj r.pathLine r'.pathLine hafter
  obtain ⟨hhost, hafter⟩ := Text.append_sep_inj r.hostLine r'.hostLine
    (List.append_cancel_left hafter)
  obtain ⟨hdate, hafter⟩ := Text.append_sep_inj r.dateLine r'.dateLine
    (List.append_cancel_left hafter)
  have hdigest := List.append_cancel_left hafter
  exact ⟨String.toList_injective hmethod, String.toList_injective hpath,
    String.toList_injective hhost, String.toList_injective hdate,
    bodyDigest_injective hsha (String.toList_injective hdigest)⟩

theorem toUpper_plain {s : String} {c : Char} (hc : c.isAlpha = false) (h : c ∉ s.toList) :
    c ∉ s.toUpper.toList := by
  change c ∉ (s.map Char.toUpper).toList
  rw [String.toList_map, List.mem_map]
  rintro ⟨d, hd, rfl⟩
  apply h
  rwa [← Text.toUpper_kept hc]

def ascii : Uppercasing where
  map := String.toUpper
  plain := fun _ h => ⟨toUpper_plain (by decide) h.1, toUpper_plain (by decide) h.2⟩

theorem signingString_eq (method path host date digest : String) :
    signingString method path host date digest =
      signingStringBy ascii method path host date digest := rfl

theorem signed_of_verified {ext : Crypto} {utcNow : Int} {publicKey digest signature : String}
    {r : Request} (hext : ext.bodyDigest = bodyDigest sha256)
    (h : verifyRequest ext utcNow publicKey r.method r.path r.host r.date digest r.body signature =
      .ok ()) : ext.verifyB64 publicKey (r.signed ascii sha256) signature = true := by
  rw [verifyRequest] at h
  split at h
  · cases h
  · rename_i hdigest
    split at h
    · cases h
    · split at h
      · rename_i hverified
        rw [not_not, hext] at hdigest
        rw [signingString_eq, ← hdigest] at hverified
        exact hverified
      · cases h

theorem signature_canonical (upper : Uppercasing) (hsha : Function.Injective sha256) :
    (∀ sign date method path host (key : KeyId) body,
      parseSignatureHeader
          (signRequest upper sha256 sign date key.domain method path host body).signature =
        some { keyId := key.domain
               signatureB64 := String.ofList (Base64.encode (sign (signingStringBy upper method
                 path host date (bodyDigest sha256 body)))) }) ∧
    (∀ r r' : Request, r.signed upper sha256 = r'.signed upper sha256 →
      upper.map r.method = upper.map r'.method ∧ r.path = r'.path ∧ r.host = r'.host ∧
        r.date = r'.date ∧ r.body = r'.body) ∧
    ∀ ext utcNow publicKey digest signature (r r' : Request),
      ext.bodyDigest = bodyDigest sha256 →
      (∀ message, ext.verifyB64 publicKey message signature = true →
        message = r.signed ascii sha256) →
      verifyRequest ext utcNow publicKey r'.method r'.path r'.host r'.date digest r'.body
        signature = .ok () →
      r.method.toUpper = r'.method.toUpper ∧ r.path = r'.path ∧ r.host = r'.host ∧
        r.date = r'.date ∧ r.body = r'.body := by
  constructor
  · intro sign date method path host key body
    exact parse_signRequest upper sha256 sign date method path host key body
  · constructor
    · intro r r' heq
      exact signed_inj hsha heq
    · intro ext utcNow publicKey digest signature r r' hext honly hverified
      have hsigned := honly _ (signed_of_verified hext hverified)
      exact @signed_inj ascii _ hsha _ _ hsigned.symm

def sha256Empty : List UInt8 :=
  [0xe3, 0xb0, 0xc4, 0x42, 0x98, 0xfc, 0x1c, 0x14, 0x9a, 0xfb, 0xf4, 0xc8, 0x99, 0x6f, 0xb9, 0x24,
    0x27, 0xae, 0x41, 0xe4, 0x64, 0x9b, 0x93, 0x4c, 0xa4, 0x95, 0x99, 0x1b, 0x78, 0x52, 0xb8, 0x55]

theorem signature_canonical_inbox :
    (∀ sign : String → List UInt8, parseSignatureHeader
        (signRequest ascii (sha256Empty ++ ·) sign "Thu, 1 Jan 2026 00:00:00 +0000" "a.example"
          "post" "/federation/v1/inbox" "b.example" []).signature =
      some { keyId := "a.example"
             signatureB64 := String.ofList (Base64.encode (sign (signingStringBy ascii "post"
               "/federation/v1/inbox" "b.example" "Thu, 1 Jan 2026 00:00:00 +0000"
               (bodyDigest (sha256Empty ++ ·) [])))) }) ∧
    ∀ r r' : Request, r.signed ascii (sha256Empty ++ ·) = r'.signed ascii (sha256Empty ++ ·) →
      r.body = r'.body := by
  have hsha : Function.Injective (fun body : List UInt8 => sha256Empty ++ body) :=
    fun _ _ heq => List.append_cancel_left heq
  have hcanonical := signature_canonical ascii hsha
  constructor
  · intro sign
    exact hcanonical.1 sign _ _ _ _
      { domain := "a.example", noComma := by decide, noQuote := by decide } _
  · intro r r' heq
    exact (hcanonical.2.1 r r' heq).2.2.2.2

end

end Vokusz.Federation.Signatures
