import Vokusz.Lib.Replace
import Vokusz.Lib.Slice
import Vokusz.Slug

namespace Vokusz.Unfurl

open Lib.Slice
open Lib.Replace (replace)

structure Embed where
  title : Option (List Char)
  embedType : Option String
  description : Option (List Char)
  url : Option (List Char)
  image : Option (List Char)
  author : Option (List Char)
deriving DecidableEq, Repr

def amp : List Char := "&amp;".toList

def lt : List Char := "&lt;".toList

def gt : List Char := "&gt;".toList

def quot : List Char := "&quot;".toList

def numericApos : List Char := "&#39;".toList

def namedApos : List Char := "&apos;".toList

def decodeHtmlEntities (s : List Char) : List Char :=
  replace namedApos ['\''] (replace numericApos ['\''] (replace quot ['"']
    (replace gt ['>'] (replace lt ['<'] (replace amp ['&'] s)))))

def asciiLowercase (s : List Char) : List Char := s.map Char.toLower

def attrValue (tag pattern quote : List Char) : Except Crash (Option (List Char)) :=
  match find? pattern (asciiLowercase tag) with
  | none => .ok none
  | some start => do
    let valueStart := start + size pattern
    let rest ← checked (from? valueStart tag)
    match find? quote rest with
    | none => return none
    | some stop => return some (← checked (between? valueStart (valueStart + stop) tag))

def extractAttr (tag attrName : List Char) : Except Crash (Option (List Char)) := do
  match ← attrValue tag (attrName ++ ['=', '"']) ['"'] with
  | some value => return some value
  | none => attrValue tag (attrName ++ ['=', '\'']) ['\'']

def extractProperty (segment : List Char) : Except Crash (Option (List Char)) := do
  match ← extractAttr segment "property".toList with
  | some property => return some property
  | none => extractAttr segment "name".toList

def extractPair (segment : List Char) : Except Crash (Option (List Char × List Char)) := do
  let property ← extractProperty segment
  let content ← extractAttr segment "content".toList
  match property, content with
  | some property, some content => return some (property, decodeHtmlEntities content)
  | _, _ => return none

def extractMetaTagsFrom (html : List Char) :
    Nat → Nat → List (List Char × List Char) → Except Crash (List (List Char × List Char))
  | 0, _, _ => .error .starved
  | fuel + 1, searchFrom, tags => do
    let rest ← checked (from? searchFrom (asciiLowercase html))
    match find? "<meta ".toList rest with
    | none => return tags
    | some metaStart =>
      let absStart := searchFrom + metaStart
      let tail ← checked (from? absStart html)
      match find? ['>'] tail with
      | none => extractMetaTagsFrom html fuel (absStart + 6) tags
      | some stop => do
        let segment ← checked (between? absStart (absStart + stop + 1) html)
        let found ← extractPair segment
        extractMetaTagsFrom html fuel (absStart + size segment) (tags ++ found.toList)

def extractMetaTags (fuel : Nat) (html : List Char) :
    Except Crash (List (List Char × List Char)) :=
  extractMetaTagsFrom html fuel 0 []

def startsWith (pat s : List Char) : Bool := pat.isPrefixOf s

def slashAfterScheme (base : List Char) : Except Crash (Option Nat) :=
  match find? "://".toList base with
  | none => .ok none
  | some s => do
    let rest ← checked (from? (s + 3) base)
    return (find? ['/'] rest).map (fun i => i + s + 3)

def resolveUrl (url base : List Char) : Except Crash (List Char) :=
  if startsWith "http://".toList url || startsWith "https://".toList url then .ok url
  else if startsWith "//".toList url then
    if startsWith "https://".toList base then .ok ("https:".toList ++ url)
    else .ok ("http:".toList ++ url)
  else do
    match ← slashAfterScheme base with
    | some slash => do
      let origin ← checked (between? 0 slash base)
      if startsWith ['/'] url then return origin ++ url else return origin ++ '/' :: url
    | none =>
      return base.rdropWhile (fun c => c = '/') ++ '/' :: url.dropWhile (fun c => c = '/')

def lastNamed (name : String) (tags : List (List Char × List Char)) : Option (List Char) :=
  (tags.reverse.find? (fun tag => Slug.toLowercase tag.1 = name.toList)).map Prod.snd

def htmlTitle (html : List Char) : Except Crash (Option (List Char)) := do
  let lower := asciiLowercase html
  match find? "<title".toList lower with
  | none => return none
  | some start =>
    match find? ['>'] (← checked (from? start html)) with
    | none => return none
    | some tagEnd => do
      let afterTag := start + tagEnd + 1
      match find? "</title>".toList (← checked (from? afterTag lower)) with
      | none => return none
      | some stop => do
        let titleText := Text.stripEnds isWhitespace
          (← checked (between? afterTag (afterTag + stop) html))
        if titleText.isEmpty then return none else return some (decodeHtmlEntities titleText)

def titleOr (ogTitle : Option (List Char)) (html : List Char) :
    Except Crash (Option (List Char)) :=
  match ogTitle with
  | some title => .ok (some title)
  | none => htmlTitle html

def resolvedImage (image : Option (List Char)) (sourceUrl : List Char) :
    Except Crash (Option (List Char)) :=
  match image with
  | none => .ok none
  | some image => some <$> resolveUrl image sourceUrl

def embedOf (tags : List (List Char × List Char)) (html sourceUrl : List Char) :
    Except Crash (Option Embed) := do
  let ogDescription := lastNamed "og:description" tags
  let title ← titleOr (lastNamed "og:title" tags) html
  if title.isNone && ogDescription.isNone then return none
  else do
    let ogType := lastNamed "og:type" tags
    let embedType :=
      if ogType = some "video".toList ∨ ogType = some "video.other".toList then "video" else "link"
    let image ← resolvedImage (lastNamed "og:image" tags) sourceUrl
    return some { title := title, embedType := some embedType, description := ogDescription,
                  url := some sourceUrl, image := image, author := lastNamed "og:site_name" tags }

def parseOpengraph (fuel : Nat) (html sourceUrl : List Char) : Except Crash (Option Embed) := do
  let tags ← extractMetaTags fuel html
  embedOf tags html sourceUrl

section

theorem utf8Size_toLower (c : Char) : c.toLower.utf8Size = c.utf8Size := by
  cases hup : c.isUpper with
  | true =>
    have hrange := Text.isUpper_iff.mp hup
    have hlower : c.toLower.toNat = c.toNat + 32 := by rw [Text.toNat_toLower, hup, if_pos rfl]
    have hone : c.toLower.utf8Size = 1 := by
      rw [Char.utf8Size_eq_one_iff, UInt32.le_iff_toNat_le]
      change c.toLower.toNat ≤ 127
      omega
    have hone' : c.utf8Size = 1 := by
      rw [Char.utf8Size_eq_one_iff, UInt32.le_iff_toNat_le]
      change c.toNat ≤ 127
      omega
    rw [hone, hone']
  | false =>
    have hlower : c.toLower.toNat = c.toNat := by rw [Text.toNat_toLower, hup]; simp
    rw [Char.toNat_inj.mp hlower]

variable {tag pattern html : List Char}

theorem attrValue_completes (tag pattern quote : List Char) : Completes (attrValue tag pattern quote) := by
  rw [attrValue]
  cases hstart : find? pattern (asciiLowercase tag) with
  | none => exact completes_ok none
  | some start =>
    obtain ⟨front, middle, back, rfl, rfl, hsize⟩ := find?_map_spec utf8Size_toLower hstart
    have hfrom : from? (size front + size pattern) (front ++ (middle ++ back)) = some back := by
      rw [← hsize, ← size_append, ← List.append_assoc, from?_append]
    simp only [hfrom, checked_some, ok_bind]
    cases hstop : find? quote back with
    | none => exact completes_ok none
    | some stop =>
      obtain ⟨value, rest, rfl, rfl⟩ := find?_spec hstop
      have hbetween : between? (size front + size pattern)
          (size front + size pattern + size value)
          (front ++ (middle ++ (value ++ (quote ++ rest)))) = some value := by
        rw [← hsize, ← size_append, ← List.append_assoc front, between?_append]
      simp only [hbetween, checked_some, ok_bind]
      exact completes_ok (some value)

theorem extractAttr_completes (tag attrName : List Char) : Completes (extractAttr tag attrName) := by
  apply completes_bind (attrValue_completes _ _ _)
  intro value _
  cases value with
  | none => exact attrValue_completes _ _ _
  | some value => exact completes_ok (some value)

theorem extractProperty_completes (segment : List Char) :
    Completes (extractProperty segment) := by
  apply completes_bind (extractAttr_completes _ _)
  intro property _
  cases property with
  | none => exact extractAttr_completes _ _
  | some property => exact completes_ok (some property)

theorem extractPair_completes (segment : List Char) : Completes (extractPair segment) := by
  apply completes_bind (extractProperty_completes segment)
  intro property _
  apply completes_bind (extractAttr_completes _ _)
  intro content _
  cases property with
  | none => exact completes_ok none
  | some property =>
    cases content with
    | none => exact completes_ok none
    | some content => exact completes_ok (some (property, decodeHtmlEntities content))

theorem extractMetaTagsFrom_completes (front back : List Char)
    (tags : List (List Char × List Char)) : ∃ found, ∀ fuel, size back < fuel →
      extractMetaTagsFrom (front ++ back) fuel (size front) tags = .ok found := by
  induction hsize : size back using Nat.strong_induction_on generalizing front back tags with
  | _ n ih =>
    have hlower : from? (size front) (asciiLowercase (front ++ back)) =
        some (asciiLowercase back) := by
      rw [asciiLowercase, List.map_append, ← size_map utf8Size_toLower front, from?_append,
        asciiLowercase]
    cases hstart : find? "<meta ".toList (asciiLowercase back) with
    | none =>
      use tags
      intro fuel hfuel
      cases fuel with
      | zero => omega
      | succ fuel =>
        rw [extractMetaTagsFrom]
        simp only [hlower, checked_some, ok_bind, hstart]
        rfl
    | some metaStart =>
      obtain ⟨before, opening, rest, rfl, rfl, hopening⟩ :=
        find?_map_spec utf8Size_toLower hstart
      have hsix : size opening = 6 := by rw [hopening]; decide
      have hfrom : from? (size front + size before) (front ++ (before ++ (opening ++ rest))) =
          some (opening ++ rest) := by
        rw [← size_append, ← List.append_assoc, from?_append]
      cases hstop : find? ['>'] (opening ++ rest) with
      | none =>
        have hless : size rest < n := by
          rw [← hsize, size_append, size_append]
          omega
        obtain ⟨found, hfound⟩ := ih (size rest) hless (front ++ (before ++ opening)) rest tags rfl
        use found
        intro fuel hfuel
        cases fuel with
        | zero => omega
        | succ fuel =>
          have hrec := hfound fuel (by omega)
          have hpos : size (front ++ (before ++ opening)) = size front + size before + 6 := by
            rw [size_append, size_append, hsix, Nat.add_assoc]
          have htext : front ++ (before ++ opening) ++ rest =
              front ++ (before ++ (opening ++ rest)) := by simp
          rw [hpos, htext] at hrec
          rw [extractMetaTagsFrom]
          simp only [hlower, hfrom, checked_some, ok_bind, hstart, hstop]
          exact hrec
      | some stop =>
        obtain ⟨inner, after, htext, rfl⟩ := find?_spec hstop
        obtain ⟨pair, hpair⟩ := extractPair_completes (inner ++ ['>'])
        have hone : size ['>'] = 1 := by decide
        have hless : size after < n := by
          rw [← hsize, size_append, htext, size_append, size_append, hone]
          omega
        obtain ⟨found, hfound⟩ := ih (size after) hless (front ++ (before ++ (inner ++ ['>'])))
          after (tags ++ pair.toList) rfl
        have hbetween : between? (size front + size before)
            (size front + size before + size inner + 1)
            (front ++ (before ++ (opening ++ rest))) = some (inner ++ ['>']) := by
          have hmiddle := between?_append (front ++ before) (inner ++ ['>']) after
          rw [size_append, size_append, hone] at hmiddle
          rw [htext, ← hmiddle]
          simp [Nat.add_assoc]
        use found
        intro fuel hfuel
        cases fuel with
        | zero => omega
        | succ fuel =>
          have hrec := hfound fuel (by omega)
          have hpos : size (front ++ (before ++ (inner ++ ['>']))) =
              size front + size before + size (inner ++ ['>']) := by
            rw [size_append, size_append, Nat.add_assoc]
          have hwhole : front ++ (before ++ (inner ++ ['>'])) ++ after =
              front ++ (before ++ (opening ++ rest)) := by
            rw [htext]
            simp
          rw [hpos, hwhole] at hrec
          rw [extractMetaTagsFrom]
          simp only [hlower, hfrom, hbetween, hpair, checked_some, ok_bind, hstart, hstop]
          exact hrec

theorem slashAfterScheme_spec (base : List Char) : slashAfterScheme base = .ok none ∨
    ∃ origin path : List Char, base = origin ++ path ∧
      slashAfterScheme base = .ok (some (size origin)) := by
  rw [slashAfterScheme]
  cases hscheme : find? "://".toList base with
  | none => exact .inl rfl
  | some s =>
    obtain ⟨front, back, rfl, rfl⟩ := find?_spec hscheme
    have hthree : size "://".toList = 3 := by decide
    have hfrom : from? (size front + 3) (front ++ ("://".toList ++ back)) = some back := by
      rw [← hthree, ← size_append, ← List.append_assoc, from?_append]
    simp only [hfrom, checked_some, ok_bind]
    cases hslash : find? ['/'] back with
    | none => exact .inl rfl
    | some i =>
      obtain ⟨host, path, rfl, rfl⟩ := find?_spec hslash
      right
      use front ++ ("://".toList ++ host), ['/'] ++ path
      constructor
      · simp
      · have hsize : size (front ++ ("://".toList ++ host)) = size host + size front + 3 := by
          rw [size_append, size_append, hthree]
          omega
        rw [hsize]
        rfl

theorem resolveUrl_completes (url base : List Char) : Completes (resolveUrl url base) := by
  rw [resolveUrl]
  split
  · exact completes_ok _
  · split
    · split
      · exact completes_ok _
      · exact completes_ok _
    · rcases slashAfterScheme_spec base with hnone | ⟨origin, path, rfl, hslash⟩
      · simp only [hnone, ok_bind]
        exact completes_ok _
      · have horigin : between? 0 (size origin) (origin ++ path) = some origin := by
          have hfront := between?_append [] origin path
          simpa [size] using hfront
        simp only [hslash, horigin, checked_some, ok_bind]
        split
        · exact completes_ok _
        · exact completes_ok _

theorem htmlTitle_completes (html : List Char) : Completes (htmlTitle html) := by
  rw [htmlTitle]
  cases hstart : find? "<title".toList (asciiLowercase html) with
  | none => exact completes_ok none
  | some start =>
    obtain ⟨front, opening, back, rfl, rfl, _⟩ := find?_map_spec utf8Size_toLower hstart
    have hfrom := from?_append front (opening ++ back)
    simp only [hfrom, checked_some, ok_bind]
    cases htag : find? ['>'] (opening ++ back) with
    | none => exact completes_ok none
    | some tagEnd =>
      obtain ⟨inner, after, htext, rfl⟩ := find?_spec htag
      have hone : size ['>'] = 1 := by decide
      have hpos : size front + size inner + 1 = size (front ++ (inner ++ ['>'])) := by
        rw [size_append, size_append, hone, Nat.add_assoc]
      have hwhole : front ++ (opening ++ back) = front ++ (inner ++ ['>']) ++ after := by
        rw [htext]
        simp
      have hafter : from? (size front + size inner + 1)
          (asciiLowercase (front ++ (opening ++ back))) = some (asciiLowercase after) := by
        rw [hpos, hwhole, asciiLowercase, List.map_append,
          ← size_map utf8Size_toLower (front ++ (inner ++ ['>'])), from?_append, asciiLowercase]
      simp only [hafter, checked_some, ok_bind]
      cases hclose : find? "</title>".toList (asciiLowercase after) with
      | none => exact completes_ok none
      | some stop =>
        obtain ⟨titleText, closing, rest, rfl, rfl, _⟩ := find?_map_spec utf8Size_toLower hclose
        have hbetween : between? (size front + size inner + 1)
            (size front + size inner + 1 + size titleText) (front ++ (opening ++ back)) =
              some titleText := by
          rw [hpos, hwhole, between?_append]
        simp only [hbetween, checked_some, ok_bind]
        split
        · exact completes_ok none
        · exact completes_ok _

theorem embedOf_completes (tags : List (List Char × List Char)) (html sourceUrl : List Char) :
    Completes (embedOf tags html sourceUrl) := by
  have htitle : ∀ ogTitle, Completes (titleOr ogTitle html) := by
    intro ogTitle
    cases ogTitle with
    | none => exact htmlTitle_completes html
    | some title => exact completes_ok (some title)
  have himage : ∀ image, Completes (resolvedImage image sourceUrl) := by
    intro image
    cases image with
    | none => exact completes_ok none
    | some image => exact completes_map (resolveUrl_completes image sourceUrl)
  apply completes_bind (htitle _)
  intro title _
  split
  · exact completes_ok none
  · apply completes_bind (himage _)
    intro image _
    exact completes_ok _

theorem parseOpengraph_total (html sourceUrl : List Char) : ∃ embed, ∀ spare : Nat,
    parseOpengraph (size html + 1 + spare) html sourceUrl = .ok embed := by
  obtain ⟨tags, htags⟩ := extractMetaTagsFrom_completes [] html []
  obtain ⟨embed, hembed⟩ := embedOf_completes tags html sourceUrl
  use embed
  intro spare
  have hloop : extractMetaTags (size html + 1 + spare) html = .ok tags :=
    htags (size html + 1 + spare) (by omega)
  rw [parseOpengraph, hloop]
  exact hembed

end

inductive Apostrophe where
  | numeric
  | named

def Apostrophe.entity : Apostrophe → List Char
  | numeric => numericApos
  | named => namedApos

def escapeChar (apos : Apostrophe) (c : Char) : List Char :=
  if c = '&' then amp
  else if c = '<' then lt
  else if c = '>' then gt
  else if c = '"' then quot
  else if c = '\'' then apos.entity
  else [c]

def escapeHtml (apos : Apostrophe) (s : List Char) : List Char := s.flatMap (escapeChar apos)

def entities (apos : Apostrophe) : List (Char × List Char) :=
  [('&', amp), ('<', lt), ('>', gt), ('"', quot), ('\'', apos.entity)]

def Apostrophe.other : Apostrophe → Apostrophe
  | numeric => named
  | named => numeric

def spelled : List (List Char) := [lt, gt, quot, numericApos, namedApos]

theorem escapeChar_eq (apos : Apostrophe) :
    escapeChar apos = Lib.Replace.codeOf (entities apos) := by
  funext c
  simp only [escapeChar, entities, Lib.Replace.codeOf_cons, Lib.Replace.codeOf_nil]

theorem codes_entities (apos : Apostrophe) : Lib.Replace.Codes '&' (entities apos) := by
  have hopens : ∀ entry ∈ entities apos, entry.2 = '&' :: entry.2.tail ∧ '&' ∉ entry.2.tail := by
    cases apos <;> decide
  have hplain : ∀ entry ∈ entities apos, ∀ other ∈ entities apos, other.1 ≠ '&' →
      other.1 ∉ entry.2 := by
    cases apos <;> decide
  have hkeys : ((entities apos).map Prod.fst).Nodup := by cases apos <;> decide
  have hapart : ∀ entry ∈ entities apos, ∀ other ∈ entities apos, entry.2 <+: other.2 →
      entry = other := by
    cases apos <;> decide
  constructor
  · intro entry hentry
    exact ⟨entry.2.tail, hopens entry hentry⟩
  · exact hplain
  · exact hkeys
  · exact hapart

theorem decode_eq (apos : Apostrophe) (s : List Char) : decodeHtmlEntities s =
    replace apos.other.entity ['\''] (Lib.Replace.decode (entities apos) s) := by
  cases apos with
  | numeric => rfl
  | named =>
    have hother : ∀ ys, ¬ namedApos <+: numericApos ++ ys := by
      intro ys
      simp [namedApos, numericApos]
    have hother' : ∀ ys, ¬ numericApos <+: namedApos ++ ys := by
      intro ys
      simp [namedApos, numericApos]
    exact Lib.Replace.replace_comm (by decide) (by decide) (by decide) (by decide) (by decide)
      hother hother' _

theorem decode_escape (apos : Apostrophe) (s : List Char) :
    decodeHtmlEntities (escapeHtml apos s) =
      Lib.Replace.decode ((entities apos).tail ++ [('\'', apos.other.entity)]) s := by
  have hmarker : Lib.Replace.decode (entities apos) (Lib.Replace.encode (entities apos) s) =
      Lib.Replace.decode (entities apos).tail s :=
    Lib.Replace.decode_encode_marker (codes_entities apos) s
  have hencode : escapeHtml apos s = Lib.Replace.encode (entities apos) s := by
    rw [escapeHtml, escapeChar_eq, Lib.Replace.encode]
  rw [decode_eq apos, hencode, hmarker, Lib.Replace.decode, Lib.Replace.decode, List.foldl_append,
    List.foldl_cons, List.foldl_nil]

theorem entities_decoded_iff (apos : Apostrophe) (s : List Char) :
    decodeHtmlEntities (escapeHtml apos s) = s ↔ ∀ entity ∈ spelled, ¬ entity <:+: s := by
  have hlong : ∀ entry ∈ (entities apos).tail ++ [('\'', apos.other.entity)],
      1 < entry.2.length := by
    cases apos <;> decide
  rw [decode_escape, Lib.Replace.decode_eq_self_iff hlong]
  cases apos with
  | numeric => simp [entities, spelled, Apostrophe.entity, Apostrophe.other]
  | named =>
    simp [entities, spelled, Apostrophe.entity, Apostrophe.other]
    tauto

theorem entity_decoded_twice : ¬ ∀ (apos : Apostrophe) (s : List Char),
    decodeHtmlEntities (escapeHtml apos s) = s := by
  intro h
  have hlost : decodeHtmlEntities (escapeHtml .numeric lt) = ['<'] := by decide +kernel
  have hkept := h .numeric lt
  rw [hlost] at hkept
  exact absurd hkept (by decide)

end Vokusz.Unfurl
