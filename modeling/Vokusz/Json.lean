import Mathlib.Algebra.Group.Nat.Defs
import Mathlib.Algebra.Ring.Int.Defs
import Mathlib.Data.List.Basic

namespace Vokusz

inductive Json where
  | null
  | bool (b : Bool)
  | num (n : Int)
  | real (text : String)
  | str (s : String)
  | arr (items : List Json)
  | obj (fields : List (String × Json))
  deriving Repr, Inhabited

namespace Json

mutual

def beq : Json → Json → Bool
  | .null, .null => true
  | .bool a, .bool b => a = b
  | .num a, .num b => a = b
  | .real a, .real b => a = b
  | .str a, .str b => a = b
  | .arr xs, .arr ys => beqItems xs ys
  | .obj fs, .obj gs => beqFields fs gs
  | _, _ => false

def beqItems : List Json → List Json → Bool
  | [], [] => true
  | x :: xs, y :: ys => x.beq y && beqItems xs ys
  | _, _ => false

def beqFields : List (String × Json) → List (String × Json) → Bool
  | [], [] => true
  | (m, x) :: fs, (n, y) :: gs => m = n && x.beq y && beqFields fs gs
  | _, _ => false

end

mutual

theorem eq_of_beq : (a b : Json) → a.beq b = true → a = b
  | .null, b, h => by cases b <;> simp_all [beq]
  | .bool _, b, h => by cases b <;> simp_all [beq]
  | .num _, b, h => by cases b <;> simp_all [beq]
  | .real _, b, h => by cases b <;> simp_all [beq]
  | .str _, b, h => by cases b <;> simp_all [beq]
  | .arr xs, b, h => by
    cases b with
    | arr ys => rw [eqItems_of_beq xs ys (by simpa [beq] using h)]
    | _ => simp [beq] at h
  | .obj fs, b, h => by
    cases b with
    | obj gs => rw [eqFields_of_beq fs gs (by simpa [beq] using h)]
    | _ => simp [beq] at h

theorem eqItems_of_beq : (xs ys : List Json) → beqItems xs ys = true → xs = ys
  | [], ys, h => by cases ys <;> simp_all [beqItems]
  | x :: xs, [], h => by simp [beqItems] at h
  | x :: xs, y :: ys, h => by
    simp only [beqItems, Bool.and_eq_true] at h
    rw [eq_of_beq x y h.1, eqItems_of_beq xs ys h.2]

theorem eqFields_of_beq : (fs gs : List (String × Json)) → beqFields fs gs = true → fs = gs
  | [], gs, h => by cases gs <;> simp_all [beqFields]
  | f :: fs, [], h => by simp [beqFields] at h
  | (m, x) :: fs, (n, y) :: gs, h => by
    simp only [beqFields, Bool.and_eq_true, decide_eq_true_eq] at h
    rw [h.1.1, eq_of_beq x y h.1.2, eqFields_of_beq fs gs h.2]

end

mutual

theorem beq_refl : (a : Json) → a.beq a = true
  | .null | .bool _ | .num _ | .real _ | .str _ => by simp [beq]
  | .arr xs => by simpa [beq] using beqItems_refl xs
  | .obj fs => by simpa [beq] using beqFields_refl fs

theorem beqItems_refl : (xs : List Json) → beqItems xs xs = true
  | [] => rfl
  | x :: xs => by simp [beqItems, beq_refl x, beqItems_refl xs]

theorem beqFields_refl : (fs : List (String × Json)) → beqFields fs fs = true
  | [] => rfl
  | (m, x) :: fs => by simp [beqFields, beq_refl x, beqFields_refl fs]

end

instance : DecidableEq Json := fun a b =>
  decidable_of_iff (a.beq b = true) ⟨eq_of_beq a b, fun h => h ▸ beq_refl a⟩

def ofOption : Option String → Json
  | none => .null
  | some s => .str s

def ofOptionInt : Option Int → Json
  | none => .null
  | some n => .num n

def strings (xs : List String) : Json := .arr (xs.map .str)

def isNull : Json → Bool
  | .null => true
  | _ => false

def field? (name : String) : Json → Option Json
  | .obj fields => (fields.find? (fun f => f.1 = name)).map (fun f => f.2)
  | _ => none

def asStr? : Json → Option String
  | .str s => some s
  | _ => none

def asArray? : Json → Option (List Json)
  | .arr xs => some xs
  | _ => none

def getStr? (name : String) (j : Json) : Option String := (j.field? name).bind asStr?

def reqStr (name : String) (j : Json) : Option String :=
  (j.field? name).bind asStr?

def optStr (name : String) (j : Json) : Option (Option String) :=
  match j.field? name with
  | none | some .null => some none
  | some (.str s) => some (some s)
  | some _ => none

def boolOr (default : Bool) (name : String) (j : Json) : Option Bool :=
  match j.field? name with
  | none => some default
  | some (.bool b) => some b
  | some _ => none

def intOr (default : Int) (name : String) (j : Json) : Option Int :=
  match j.field? name with
  | none => some default
  | some (.num n) => if -2 ^ 63 ≤ n ∧ n < 2 ^ 63 then some n else none
  | some _ => none

def listOr (item : Json → Option α) (name : String) (j : Json) : Option (List α) :=
  match j.field? name with
  | none => some []
  | some (.arr xs) => xs.mapM item
  | some _ => none

def hexDigit (n : Nat) : Char := Char.ofNat (if n < 10 then 48 + n else 87 + n)

def escapeChar (c : Char) : List Char :=
  if c = '"' then ['\\', '"']
  else if c = '\\' then ['\\', '\\']
  else if c = '\n' then ['\\', 'n']
  else if c = '\r' then ['\\', 'r']
  else if c = '\t' then ['\\', 't']
  else if c.toNat = 8 then ['\\', 'b']
  else if c.toNat = 12 then ['\\', 'f']
  else if c.toNat < 32 then
    ['\\', 'u', '0', '0', hexDigit (c.toNat / 16), hexDigit (c.toNat % 16)]
  else [c]

def quote (s : String) : List Char := '"' :: s.toList.flatMap escapeChar ++ ['"']

def joinComma : List (List Char) → List Char
  | [] => []
  | [x] => x
  | x :: y :: xs => x ++ ',' :: joinComma (y :: xs)

mutual

def render : Json → List Char
  | .null => "null".toList
  | .bool b => (if b then "true" else "false").toList
  | .num n => (toString n).toList
  | .real text => text.toList
  | .str s => quote s
  | .arr items => '[' :: joinComma (renderItems items) ++ [']']
  | .obj fields => '\x7b' :: joinComma (renderFields fields) ++ ['\x7d']

def renderItems : List Json → List (List Char)
  | [] => []
  | j :: js => j.render :: renderItems js

def renderFields : List (String × Json) → List (List Char)
  | [] => []
  | (name, j) :: fs => (quote name ++ ':' :: j.render) :: renderFields fs

end

def toText (j : Json) : String := String.ofList j.render

def isSpace (c : Char) : Bool := c = ' ' || c = '\n' || c = '\r' || c = '\t'

def skipSpace (cs : List Char) : List Char := cs.dropWhile isSpace

def hexValue (c : Char) : Option Nat :=
  if '0' ≤ c ∧ c ≤ '9' then some (c.toNat - 48)
  else if 'a' ≤ c ∧ c ≤ 'f' then some (c.toNat - 87)
  else if 'A' ≤ c ∧ c ≤ 'F' then some (c.toNat - 55)
  else none

def unescape (c : Char) : Option Char :=
  match c with
  | '"' => some '"'
  | '\\' => some '\\'
  | '/' => some '/'
  | 'n' => some '\n'
  | 'r' => some '\r'
  | 't' => some '\t'
  | 'b' => some (Char.ofNat 8)
  | 'f' => some (Char.ofNat 12)
  | _ => none

def hex4 (a b c d : Char) : Option Nat := do
  let a ← hexValue a
  let b ← hexValue b
  let c ← hexValue c
  let d ← hexValue d
  return ((a * 16 + b) * 16 + c) * 16 + d

def parseStringBody : List Char → Option (List Char × List Char)
  | '"' :: rest => some ([], rest)
  | '\\' :: 'u' :: a :: b :: c :: d :: '\\' :: 'u' :: a' :: b' :: c' :: d' :: rest => do
    let n ← hex4 a b c d
    if 0xD800 ≤ n ∧ n < 0xDC00 then
      let m ← hex4 a' b' c' d'
      if 0xDC00 ≤ m ∧ m < 0xE000 then
        let (s, rest) ← parseStringBody rest
        return (Char.ofNat (0x10000 + (n - 0xD800) * 0x400 + (m - 0xDC00)) :: s, rest)
      else none
    else if 0xDC00 ≤ n ∧ n < 0xE000 then none
    else
      let (s, rest) ← parseStringBody ('\\' :: 'u' :: a' :: b' :: c' :: d' :: rest)
      return (Char.ofNat n :: s, rest)
  | '\\' :: 'u' :: a :: b :: c :: d :: rest => do
    let n ← hex4 a b c d
    if 0xD800 ≤ n ∧ n < 0xE000 then none
    else
      let (s, rest) ← parseStringBody rest
      return (Char.ofNat n :: s, rest)
  | '\\' :: c :: rest => do
    let x ← unescape c
    let (s, rest) ← parseStringBody rest
    return (x :: s, rest)
  | c :: rest =>
    if c.toNat < 32 then none
    else do
      let (s, rest) ← parseStringBody rest
      return (c :: s, rest)
  | [] => none

def parseStrings : Nat → List Char → Option (List String × List Char)
  | 0, _ => none
  | fuel + 1, cs =>
    match skipSpace cs with
    | '"' :: rest => do
      let (s, rest) ← parseStringBody rest
      match skipSpace rest with
      | ']' :: rest => return ([String.ofList s], rest)
      | ',' :: rest =>
        let (xs, rest) ← parseStrings fuel rest
        return (String.ofList s :: xs, rest)
      | _ => none
    | _ => none

def parseStringArray (text : String) : Option (List String) :=
  match skipSpace text.toList with
  | '[' :: rest =>
    match skipSpace rest with
    | ']' :: tail => if (skipSpace tail).isEmpty then some [] else none
    | rest =>
      match parseStrings (rest.length + 1) rest with
      | some (xs, tail) => if (skipSpace tail).isEmpty then some xs else none
      | none => none
  | _ => none

example : parseStringArray (strings ["view_channel", "a\"b"]).toText =
    some ["view_channel", "a\"b"] := by decide

end Json

end Vokusz
