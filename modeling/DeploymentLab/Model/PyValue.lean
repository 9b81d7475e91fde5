import DeploymentLab.Model.Http
import DeploymentLab.Model.Json

/-!
# Python values and JSON

The values that a handler may return or that a body may hold, `json.dumps` and `json.loads` on them,
and the two checks of the repository that a value is JSON. The depth to which the interpreter can
recurse is not modelled.
-/

namespace DeploymentLab

/-- A character of a `str`, which may be one half of a surrogate pair. -/
inductive CodePoint
  | char (c : Char)
  | surrogate (n : Fin 2048)
  deriving DecidableEq

abbrev PyStr := List CodePoint

def CodePoint.char? : CodePoint → Option Char
  | .char c => some c
  | .surrogate _ => none

/-- `str.encode`, where `none` is a `UnicodeEncodeError`. -/
def PyStr.encode (s : PyStr) : Option String := (s.mapM CodePoint.char?).map String.ofList

def PyStr.ofString (s : String) : PyStr := s.toList.map .char

/-- What may be the key of a `dict`. A float goes with its `repr`. -/
inductive PyKey
  | none
  | bool (value : Bool)
  | int (value : ℤ)
  | float (value : PyFloat) (repr : String)
  | str (value : PyStr)
  | tuple (items : List PyKey)

inductive PyValue
  | none
  | bool (value : Bool)
  | int (value : ℤ)
  | float (value : PyFloat) (repr : String)
  | str (value : PyStr)
  | list (items : List PyValue)
  | tuple (items : List PyValue)
  | dict (members : List (PyKey × PyValue))

def PyFloat.isFinite : PyFloat → Bool
  | .finite _ => true
  | _ => false

/-- `int.__repr__`, which raises a `ValueError` for more than 4300 digits. -/
def intRepr (i : ℤ) : Option String :=
  if i.natAbs.repr.length ≤ 4300 then some (toString i) else none

namespace PyKey

def isStr : PyKey → Bool
  | .str _ => true
  | _ => false

/-- The number that a key is compared as. -/
def number? : PyKey → Option PyFloat
  | .bool b => some (.finite (if b then 1 else 0))
  | .int i => some (.finite i)
  | .float value _ => some value
  | _ => Option.none

/-- The text that the encoder makes of a key, where `none` is a `TypeError` or a `ValueError`. -/
def text : PyKey → Option String
  | .none => some "null"
  | .bool b => some (if b then "true" else "false")
  | .int i => intRepr i
  | .float value repr => if value.isFinite then some repr else Option.none
  | .str s => s.encode
  | .tuple _ => Option.none

end PyKey

/-- Keys that `sorted` can compare: all of them strings, or all of them numbers. -/
def sortable (keys : List PyKey) : Bool :=
  decide (keys.length ≤ 1) || keys.all PyKey.isStr || keys.all fun key => key.number?.isSome

/-- The members of an object in the order of `sort_keys`. -/
def sortItems (items : List (PyKey × String × String)) : List (String × String) :=
  if items.all fun item => item.1.isStr then sortMembers (items.map (·.2))
  else
    (items.insertionSort fun a b =>
      (b.1.number?.getD .nan).less (a.1.number?.getD .nan) = false).map (·.2)

/-! ## `json.dumps` -/

mutual

/-- `json.dumps(value, allow_nan=False, ensure_ascii=False, separators=(",", ":"),
sort_keys=True).encode()`, where `none` is a `TypeError` or a `ValueError`. -/
def PyValue.encodedJson : PyValue → Option String
  | .none => some "null"
  | .bool b => some (if b then "true" else "false")
  | .int i => intRepr i
  | .float value repr => if value.isFinite then some repr else Option.none
  | .str s => s.encode.map escapeString
  | .list items | .tuple items => do
    let texts ← encodedItems items
    some ("[" ++ String.intercalate "," texts ++ "]")
  | .dict members => do
    let items ← encodedMembers members
    if sortable (members.map (·.1)) then
      some ("\x7b" ++ String.intercalate ","
        ((sortItems items).map fun m => escapeString m.1 ++ ":" ++ m.2) ++ "\x7d")
    else Option.none

def encodedItems : List PyValue → Option (List String)
  | [] => some []
  | item :: items => do
    let text ← item.encodedJson
    let texts ← encodedItems items
    some (text :: texts)

def encodedMembers : List (PyKey × PyValue) → Option (List (PyKey × String × String))
  | [] => some []
  | (key, value) :: members => do
    let keyText ← key.text
    let text ← value.encodedJson
    let items ← encodedMembers members
    some ((key, keyText, text) :: items)

end

mutual

/-- `_contains_non_finite`, which looks into lists and objects only. -/
def PyValue.containsNonFinite : PyValue → Bool
  | .float value _ => !value.isFinite
  | .list items => itemsContainNonFinite items
  | .dict members => membersContainNonFinite members
  | _ => false

def itemsContainNonFinite : List PyValue → Bool
  | [] => false
  | item :: items => item.containsNonFinite || itemsContainNonFinite items

def membersContainNonFinite : List (PyKey × PyValue) → Bool
  | [] => false
  | (_, value) :: members => value.containsNonFinite || membersContainNonFinite members

end

/-- `validate_handler_result`, where `none` is a `HandlerContractError`. -/
def validateHandlerResult (maximumBytes : ℕ) (result : PyValue) : Option PyValue :=
  match result with
  | .dict members =>
    if !(members.all fun m => m.1.isStr) then none
    else if result.containsNonFinite then none
    else
      match result.encodedJson with
      | none => none
      | some serialized => if maximumBytes < serialized.utf8ByteSize then none else some result
  | _ => none

mutual

/-- `_reject_non_finite`, where `false` is a `ValueError`. -/
def PyValue.passesNonFinite : PyValue → Bool
  | .float value _ => value.isFinite
  | .list items | .tuple items => itemsPassNonFinite items
  | .dict members => membersPassNonFinite members
  | _ => true

def itemsPassNonFinite : List PyValue → Bool
  | [] => true
  | item :: items => item.passesNonFinite && itemsPassNonFinite items

def membersPassNonFinite : List (PyKey × PyValue) → Bool
  | [] => true
  | (key, value) :: members => key.isStr && value.passesNonFinite && membersPassNonFinite members

end

/-- `canonical_json` on any value, where `none` is a `TypeError` or a `ValueError`. -/
def PyValue.canonicalJson (value : PyValue) : Option String :=
  if value.passesNonFinite then value.encodedJson else Option.none

mutual

/-- The value as JSON: keys are strings, numbers finite, arrays lists, and all text can be
encoded. -/
def PyValue.toJson : PyValue → Option JsonValue
  | .none => some .null
  | .bool b => some (.bool b)
  | .int i => (intRepr i).map fun _ => .int i
  | .float value repr => if value.isFinite then some (.float repr) else Option.none
  | .str s => s.encode.map .str
  | .list items => (itemsToJson items).map .list
  | .tuple _ => Option.none
  | .dict members => (membersToJson members).map .dict

def itemsToJson : List PyValue → Option (List JsonValue)
  | [] => some []
  | item :: items => do
    let value ← item.toJson
    let values ← itemsToJson items
    some (value :: values)

def membersToJson : List (PyKey × PyValue) → Option (List (String × JsonValue))
  | [] => some []
  | (.str key, value) :: members => do
    let key ← key.encode
    let value ← value.toJson
    let values ← membersToJson members
    some ((key, value) :: values)
  | _ :: _ => Option.none

end

end DeploymentLab
