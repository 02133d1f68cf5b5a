import Mathlib.Data.List.Infix
import RsCamera.Lib.Dict
import RsCamera.Lib.Json

/-
  The case files that `prepare` generates: a file of cases is
  read, the serials of the cameras are put in, and it is
  written with an indent of two.

  A dictionary of Python has one value for a name; a name that
  is there twice keeps its first place and its last value.

  Key definitions include:
    * `dumps`
    * `caseFile`
-/

------------------------------------------------------------
-- Writing JSON
------------------------------------------------------------

namespace RsCamera

namespace Reproduction

section

open Json (codesOf)

mutual

/- The value with a dictionary for each of its objects. -/
def asDict : Json → Json
| .arr elements => .arr (asDictElements elements)
| .obj members => .obj ((asDictMembers members).foldl
    (fun items member => setItem items member.1 member.2) [])
| value => value

/- The elements of an array. -/
def asDictElements : List Json → List Json
| [] => []
| value :: rest => asDict value :: asDictElements rest

/- The members of an object. -/
def asDictMembers :
    List (List Nat × Json) → List (List Nat × Json)
| [] => []
| (name, value) :: rest =>
    (name, asDict value) :: asDictMembers rest

end

/- The escape `\uXXXX`. -/
def unicodeEscape (code : Nat) : List Char :=
  '\\' :: 'u' ::
    [code / 4096 % 16, code / 256 % 16, code / 16 % 16,
      code % 16].map Nat.digitChar

/- Only printable ASCII is put out as it is. -/
def dumpCode (code : Nat) : List Char :=
  if code = '"'.toNat then
    ['\\', '"']
  else if code = '\\'.toNat then
    ['\\', '\\']
  else if code = '\n'.toNat then
    ['\\', 'n']
  else if code = '\r'.toNat then
    ['\\', 'r']
  else if code = '\t'.toNat then
    ['\\', 't']
  else if code = 12 then
    ['\\', 'f']
  else if code = 8 then
    ['\\', 'b']
  else if ' '.toNat ≤ code ∧ code ≤ '~'.toNat then
    [Char.ofNat code]
  else if code < 65536 then
    unicodeEscape code
  else
    unicodeEscape (0xd800 + (code - 65536) / 1024) ++
      unicodeEscape (0xdc00 + (code - 65536) % 1024)

/- A text in quotes. -/
def dumpString (codes : List Nat) : List Char :=
  '"' :: (codes.flatMap dumpCode ++ ['"'])

/- A new line, with two spaces for each level. -/
def newLine (level : Nat) : List Char :=
  '\n' :: List.replicate (2 * level) ' '

/- Parts on lines of their own, between two brackets. -/
def bracketed
    (opening closing : Char)
    (level : Nat)
    (items : List (List Char)) : List Char :=
  if items.isEmpty then
    [opening, closing]
  else
    opening ::
      ((',' :: newLine (level + 1)).intercalate
          (items.modifyHead (newLine (level + 1) ++ ·)) ++
        newLine level ++ [closing])

section Dump

/- `float.__repr__` of a literal. -/
variable (floatRepr : List Char → List Char)

mutual

/- `json.dumps` with an indent. -/
def dumpValue (level : Nat) : Json → List Char
| .null => "null".toList
| .bool value => (if value then "true" else "false").toList
| .int value => (toString value).toList
| .float text => floatRepr text
| .str codes => dumpString codes
| .arr elements =>
    bracketed '[' ']' level (dumpElements (level + 1) elements)
| .obj members =>
    bracketed '{' '}' level (dumpMembers (level + 1) members)

/- The elements of an array. -/
def dumpElements (level : Nat) : List Json → List (List Char)
| [] => []
| value :: rest => dumpValue level value :: dumpElements level rest

/- The members of an object. -/
def dumpMembers
    (level : Nat) : List (List Nat × Json) → List (List Char)
| [] => []
| (name, value) :: rest =>
    (dumpString name ++ ':' :: ' ' :: dumpValue level value) ::
      dumpMembers level rest

end

/- `json.dumps(value, indent=2)` of dictionaries. -/
def dumps (value : Json) : String :=
  String.ofList (dumpValue floatRepr 0 value)

end Dump

end

------------------------------------------------------------
-- Case Files
------------------------------------------------------------

open Json (codesOf)

/- A text as a value. -/
def jsonText (text : String) : Json :=
  .str (codesOf text.toList)

/- `value[name]` of a dictionary. -/
def getMember
    (name : String) : Json → Except String Json
| .obj members =>
    match members.lookup (codesOf name.toList) with
    | some value => .ok value
    | none => .error ("'" ++ name ++ "'")
| _ => .error "indices must be integers"

/- `value[name] = item`. -/
def setMember
    (name : String)
    (item : Json) : Json → Except String Json
| .obj members =>
    .ok (.obj (setItem members (codesOf name.toList) item))
| _ => .error "object does not support item assignment"

/- `name in value`. -/
def hasMember (name : String) : Json → Bool
| .obj members =>
    (members.lookup (codesOf name.toList)).isSome
| _ => false

/- `text in value`, for two texts. -/
def isTextIn (text : String) (codes : List Nat) : Bool :=
  codes.tails.any (fun tail =>
    (codesOf text.toList).isPrefixOf tail)

/- The operator `in` with a text on its left. -/
def isIn (text : String) : Json → Except String Bool
| .str codes => .ok (isTextIn text codes)
| .arr elements =>
    .ok
      (elements.any (fun element =>
        match element with
        | .str codes => codes = codesOf text.toList
        | _ => false))
| .obj members =>
    .ok (hasMember text (.obj members))
| _ => .error "argument is not iterable"

/- The loop over a list. -/
def elementsOf : Json → Except String (List Json)
| .arr elements => .ok elements
| _ => .error "object is not a list"

/- `"d435" in case["case_id"]`. -/
def isD435Case (value : Json) : Except String Bool := do
  let caseId ← getMember "case_id" value
  isIn "d435" caseId

/- The serials of a case. -/
def setSerials
    (serials : List String)
    (value : Json) : Except String Json := do
  let probe ← getMember "probe" value
  let probe ←
    setMember "serials" (.arr (serials.map jsonText)) probe
  setMember "probe" probe value

/- Only the cases of D435 cameras are kept of the first file. -/
def caseFile
    (floatRepr : List Char → List Char)
    (onlyD435 : Bool)
    (serials : List String)
    (text : String) : Except String String := do
  let loaded ← Json.loads text.toList
  let data := asDict loaded
  let data ←
    if onlyD435 then do
      let cases ← getMember "cases" data
      let cases ← elementsOf cases
      let kept ← cases.filterM isD435Case
      setMember "cases" (.arr kept) data
    else
      .ok data
  let cases ← getMember "cases" data
  let cases ← elementsOf cases
  let filled ← cases.mapM (setSerials serials)
  let data ← setMember "cases" (.arr filled) data
  let data ←
    if hasMember "notes" data then
      setMember "notes"
        (.arr
          [jsonText
            "Camera selection is generated from config.json."])
        data
    else
      .ok data
  .ok (dumps floatRepr data ++ "\n")

end Reproduction

end RsCamera
