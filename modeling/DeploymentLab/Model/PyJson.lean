import DeploymentLab.Library.Reading
import DeploymentLab.Model.PyValue

/-!
# Reading JSON

`json.loads` on a text. The reading of a float from its text is taken from the host.
-/

namespace DeploymentLab

open Reading

def numberChar (c : Char) : Bool := c.isDigit || ['-', '+', '.', 'e', 'E'].contains c

def withoutSign : List Char → List Char
  | '+' :: cs | '-' :: cs => cs
  | cs => cs

/-- `([eE][-+]?[0-9]+)?` -/
def exponentPart : List Char → Bool
  | [] => true
  | c :: cs => (c == 'e' || c == 'E') && !(withoutSign cs).isEmpty &&
      (withoutSign cs).all Char.isDigit

/-- What follows the integer part of a number: nothing, or what makes a float of it. -/
def fractionPart : List Char → Option Bool
  | [] => some false
  | '.' :: cs =>
    if !(cs.takeWhile Char.isDigit).isEmpty && exponentPart (cs.dropWhile Char.isDigit) then
      some true
    else none
  | cs => if exponentPart cs then some true else none

def magnitude : List Char → List Char
  | '-' :: cs => cs
  | cs => cs

/-- Whether the token is a number of JSON, and then whether it is a float. -/
def numberLiteral (token : List Char) : Option Bool :=
  let whole := (magnitude token).takeWhile Char.isDigit
  if whole.isEmpty || (whole.head? == some '0' && whole.length != 1) then none
  else fractionPart ((magnitude token).dropWhile Char.isDigit)

def literalValue : List Char → ℤ
  | '-' :: cs => -(Nat.ofDigitChars 10 cs 0 : ℤ)
  | cs => Nat.ofDigitChars 10 cs 0

/-- The floats of the host. A finite one is written as a number of JSON with a fraction or an
exponent, and read back from that. -/
class FloatSyntax where
  /-- A finite float and its `repr`. -/
  genuine : ℚ → String → Prop
  /-- `float`, and the `repr` of what it returns. -/
  parse : String → PyFloat × String
  literal : ∀ q s, genuine q s → numberLiteral s.toList = some true
  chars : ∀ q s, genuine q s → s.toList.all numberChar = true
  parse_repr : ∀ q s, genuine q s → parse s = (.finite q, s)

def isBlank (c : Char) : Bool := c == ' ' || c == '\t' || c == '\n' || c == '\r'

def skipSpace (cs : List Char) : List Char := cs.dropWhile isBlank

/-- A number is read up to the end of its alphabet. Where the decoder stops before that, it refuses
what follows. -/
def scanNumber [FloatSyntax] (cs : List Char) : Option (PyValue × List Char) :=
  let token := cs.takeWhile numberChar
  match numberLiteral token with
  | some false =>
    if (magnitude token).length ≤ 4300 then
      some (.int (literalValue token), cs.dropWhile numberChar)
    else none
  | some true =>
    let (value, repr) := FloatSyntax.parse (String.ofList token)
    some (.float value repr, cs.dropWhile numberChar)
  | none => none

def hexValue (c : Char) : Option ℕ :=
  if c.isDigit then some (c.toNat - 48)
  else if 'a' ≤ c ∧ c ≤ 'f' then some (c.toNat - 87)
  else if 'A' ≤ c ∧ c ≤ 'F' then some (c.toNat - 55)
  else none

/-- The number that four hexadecimal digits denote. -/
def hexNumber (a b c d : Char) : Option ℕ := do
  let a ← hexValue a
  let b ← hexValue b
  let c ← hexValue c
  let d ← hexValue d
  some (((a * 16 + b) * 16 + c) * 16 + d)

def codeUnit (n : ℕ) : CodePoint :=
  if 0xD800 ≤ n ∧ n < 0xE000 then .surrogate (Fin.ofNat 2048 (n - 0xD800)) else .char (Char.ofNat n)

def simpleEscape (c : Char) : Option Char :=
  if c = '"' ∨ c = '\\' ∨ c = '/' then some c
  else if c = 'b' then some (Char.ofNat 8)
  else if c = 'f' then some (Char.ofNat 12)
  else if c = 'n' then some '\n'
  else if c = 'r' then some '\r'
  else if c = 't' then some '\t'
  else none

/-- The text up to the closing quote, and what comes after it. -/
def scanString : List Char → Option (PyStr × List Char)
  | [] => none
  | '"' :: cs => some ([], cs)
  | '\\' :: 'u' :: a :: b :: c :: d :: cs => do
    let n ← hexNumber a b c d
    let (s, rest) ← scanString cs
    some (codeUnit n :: s, rest)
  | '\\' :: e :: cs => do
    let c ← simpleEscape e
    let (s, rest) ← scanString cs
    some (.char c :: s, rest)
  | c :: cs =>
    if c.toNat < 32 then none
    else do
      let (s, rest) ← scanString cs
      some (.char c :: s, rest)

/-- Two escapes that form a surrogate pair are one character. -/
def joinSurrogates : PyStr → PyStr
  | .surrogate high :: .surrogate low :: s =>
    if high.val < 1024 ∧ 1024 ≤ low.val then
      .char (Char.ofNat (0x10000 + high.val * 1024 + (low.val - 1024))) :: joinSurrogates s
    else .surrogate high :: joinSurrogates (.surrogate low :: s)
  | c :: s => c :: joinSurrogates s
  | [] => []

/-- The `dict` of some pairs: a later value takes the place of an earlier one. -/
def dictOf : List (PyStr × PyValue) → List (PyStr × PyValue)
  | [] => []
  | (key, value) :: pairs =>
    (key, ((dictOf pairs).lookup key).getD value) :: (dictOf pairs).filter fun m => m.1 != key

/-- A member of an object: its key, a colon and its value. -/
def scanMember (scan : List Char → Option (PyValue × List Char)) :
    List Char → Option ((PyStr × PyValue) × List Char)
  | '"' :: cs => do
    let (key, rest) ← scanString cs
    match skipSpace rest with
    | ':' :: rest =>
      let (value, rest) ← scan (skipSpace rest)
      some ((joinSurrogates key, value), rest)
    | _ => none
  | _ => none

def scanValue [FloatSyntax] : ℕ → List Char → Option (PyValue × List Char)
  | 0, _ => none
  | fuel + 1, cs =>
    match cs with
    | '"' :: cs => do
      let (s, rest) ← scanString cs
      some (.str (joinSurrogates s), rest)
    | '[' :: cs =>
      match skipSpace cs with
      | ']' :: rest => some (.list [], rest)
      | cs => do
        let (items, rest) ← readParts skipSpace (scanValue fuel) ',' ']' fuel cs
        some (.list items, rest)
    | '\x7b' :: cs =>
      match skipSpace cs with
      | '\x7d' :: rest => some (.dict [], rest)
      | cs => do
        let (pairs, rest) ← readParts skipSpace (scanMember (scanValue fuel)) ',' '\x7d' fuel cs
        some (.dict ((dictOf pairs).map fun m => (.str m.1, m.2)), rest)
    | 'n' :: 'u' :: 'l' :: 'l' :: rest => some (.none, rest)
    | 't' :: 'r' :: 'u' :: 'e' :: rest => some (.bool true, rest)
    | 'f' :: 'a' :: 'l' :: 's' :: 'e' :: rest => some (.bool false, rest)
    | 'N' :: 'a' :: 'N' :: rest => some (.float .nan "nan", rest)
    | 'I' :: 'n' :: 'f' :: 'i' :: 'n' :: 'i' :: 't' :: 'y' :: rest =>
      some (.float .positiveInfinity "inf", rest)
    | '-' :: 'I' :: 'n' :: 'f' :: 'i' :: 'n' :: 'i' :: 't' :: 'y' :: rest =>
      some (.float .negativeInfinity "-inf", rest)
    | cs => scanNumber cs

/-- `json.loads`, where `none` is a `ValueError`. -/
def jsonLoads [FloatSyntax] (text : String) : Option PyValue :=
  match scanValue text.toList.length (skipSpace text.toList) with
  | some (value, rest) => if (skipSpace rest).isEmpty then some value else none
  | none => none

end DeploymentLab
