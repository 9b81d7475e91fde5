import Mathlib.Algebra.Group.Nat.Defs
import Mathlib.Data.Int.Notation
import Mathlib.Data.List.Infix
import Mathlib.Data.List.Lex
import Mathlib.Data.List.Sort
import Mathlib.Data.Nat.Notation
import Mathlib.Data.String.Basic
import Mathlib.Tactic.Common

/-!
# JSON values, digests and the functions taken from the host

`canonical_json` fixes one text for every finite JSON value, and fingerprints are SHA-256
digests of such texts. The functions of the host that rest on a cipher or on tables (SHA-256,
the Unicode mappings, the syntax of IPv6 addresses) are left open: every result holds
whatever they are.
-/

namespace DeploymentLab

/-- Microseconds since the epoch, as the database clock reports them. -/
abbrev Timestamp := ℤ

/-- A number of microseconds. -/
abbrev Duration := ℤ

abbrev UUID := BitVec 128

/-- A SHA-256 digest. The columns that hold one are checked to be 64 lower-case hexadecimal
characters, so a row carries the number they denote. -/
abbrev Digest := BitVec 256

class Runtime where
  sha256 : String → Digest
  casefold : String → String
  lower : String → String
  nfkc : String → String
  ipv6Address : String → Bool

inductive JsonValue
  | null
  | bool (value : Bool)
  | int (value : ℤ)
  | float (repr : String)
  | str (value : String)
  | list (items : List JsonValue)
  | dict (members : List (String × JsonValue))

mutual

def JsonValue.same : JsonValue → JsonValue → Bool
  | .null, .null => true
  | .bool a, .bool b => a == b
  | .int a, .int b => a == b
  | .float a, .float b => a == b
  | .str a, .str b => a == b
  | .list xs, .list ys => sameItems xs ys
  | .dict xs, .dict ys => sameMembers xs ys
  | _, _ => false

def sameItems : List JsonValue → List JsonValue → Bool
  | [], [] => true
  | x :: xs, y :: ys => x.same y && sameItems xs ys
  | _, _ => false

def sameMembers : List (String × JsonValue) → List (String × JsonValue) → Bool
  | [], [] => true
  | (k, x) :: xs, (l, y) :: ys => k == l && x.same y && sameMembers xs ys
  | _, _ => false

end

mutual

lemma JsonValue.same_iff : ∀ a b : JsonValue, a.same b = true ↔ a = b
  | .null, b => by cases b <;> simp [JsonValue.same]
  | .bool a, b => by cases b <;> simp [JsonValue.same]
  | .int a, b => by cases b <;> simp [JsonValue.same]
  | .float a, b => by cases b <;> simp [JsonValue.same]
  | .str a, b => by cases b <;> simp [JsonValue.same]
  | .list xs, b => by
    cases b with
    | list ys => simp [JsonValue.same, sameItems_iff xs ys]
    | null | bool | int | float | str | dict => simp [JsonValue.same]
  | .dict xs, b => by
    cases b with
    | dict ys => simp [JsonValue.same, sameMembers_iff xs ys]
    | null | bool | int | float | str | list => simp [JsonValue.same]

lemma sameItems_iff : ∀ xs ys : List JsonValue, sameItems xs ys = true ↔ xs = ys
  | [], ys => by cases ys <;> simp [sameItems]
  | x :: xs, ys => by
    cases ys with
    | nil => simp [sameItems]
    | cons y ys => simp [sameItems, JsonValue.same_iff x y, sameItems_iff xs ys]

lemma sameMembers_iff : ∀ xs ys : List (String × JsonValue), sameMembers xs ys = true ↔ xs = ys
  | [], ys => by cases ys <;> simp [sameMembers]
  | (k, x) :: xs, ys => by
    cases ys with
    | nil => simp [sameMembers]
    | cons y ys =>
      obtain ⟨l, y⟩ := y
      simp [sameMembers, JsonValue.same_iff x y, sameMembers_iff xs ys, and_assoc]

end

instance : DecidableEq JsonValue := fun a b => decidable_of_iff _ (a.same_iff b)

/-- One hexadecimal digit of a `\u` escape or of a digest. -/
def hexDigit (n : ℕ) : Char := Nat.digitChar (n % 16)

def Digest.hexdigest (d : Digest) : String :=
  String.ofList ((List.range 64).reverse.map fun k => hexDigit (d.toNat / 16 ^ k))

def escapeChar (c : Char) : List Char :=
  if c = '"' then ['\\', '"']
  else if c = '\\' then ['\\', '\\']
  else if c = '\n' then ['\\', 'n']
  else if c = '\r' then ['\\', 'r']
  else if c = '\t' then ['\\', 't']
  else if c.toNat = 8 then ['\\', 'b']
  else if c.toNat = 12 then ['\\', 'f']
  else if c.toNat < 32 then
    ['\\', 'u', '0', '0', hexDigit (c.toNat / 16), hexDigit c.toNat]
  else [c]

def escapeString (s : String) : String :=
  "\"" ++ String.ofList (s.toList.flatMap escapeChar) ++ "\""

def sortMembers (members : List (String × String)) : List (String × String) :=
  members.insertionSort fun a b => a.1 ≤ b.1

mutual

/-- `canonical_json`: sorted keys, no blanks, text outside ASCII left as it is. -/
def canonicalJson : JsonValue → String
  | .null => "null"
  | .bool true => "true"
  | .bool false => "false"
  | .int i => toString i
  | .float repr => repr
  | .str s => escapeString s
  | .list items => "[" ++ String.intercalate "," (canonicalItems items) ++ "]"
  | .dict members =>
    "\x7b" ++ String.intercalate ","
      ((sortMembers (canonicalMembers members)).map fun m =>
        escapeString m.1 ++ ":" ++ m.2) ++ "\x7d"

def canonicalItems : List JsonValue → List String
  | [] => []
  | item :: items => canonicalJson item :: canonicalItems items

def canonicalMembers : List (String × JsonValue) → List (String × String)
  | [] => []
  | (key, value) :: members => (key, canonicalJson value) :: canonicalMembers members

end

def sha256Json [Runtime] (value : JsonValue) : Digest := Runtime.sha256 (canonicalJson value)

/-- Python's `needle in haystack` on strings. -/
def substring (needle haystack : String) : Bool := needle.toList <:+: haystack.toList

def JsonValue.isDict : JsonValue → Bool
  | .dict _ => true
  | _ => false

example : canonicalJson (.dict [("b", .str "x\ny"), ("a", .list [.int (-3), .null])]) =
    "\x7b\"a\":[-3,null],\"b\":\"x\\ny\"\x7d" := by decide

end DeploymentLab
