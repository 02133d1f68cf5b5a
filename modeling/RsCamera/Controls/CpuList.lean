import Mathlib.Data.Finset.Lattice.Fold
import Mathlib.Order.Interval.Finset.Nat
import Mathlib.Order.Lattice.Nat
import RsCamera.Lib.Numeral

/-
  The CPU lists of sysfs and procfs (`parse_cpu_list` and
  `format_cpu_list`).

  Key definitions include:
    * `parseCpuList`
    * `formatCpuList`
-/

------------------------------------------------------------
-- Quoted Texts
------------------------------------------------------------

namespace RsCamera

namespace Controls

/- The escapes of `repr`, for ASCII text. -/
def pyReprChar (quote c : Char) : List Char :=
  if c = quote ∨ c = '\\' then
    ['\\', c]
  else if c = '\n' then
    ['\\', 'n']
  else if c = '\r' then
    ['\\', 'r']
  else if c = '\t' then
    ['\\', 't']
  else if c.toNat < 0x20 ∨ c.toNat = 0x7f then
    ['\\', 'x', Nat.digitChar (c.toNat / 16),
      Nat.digitChar (c.toNat % 16)]
  else
    [c]

/- Double quotes stand around a text that has only single ones. -/
def pyRepr (text : List Char) : String :=
  let single := Char.ofNat 39
  let double := Char.ofNat 34
  let quote :=
    if single ∈ text ∧ double ∉ text then double else single
  String.ofList
    (quote :: text.flatMap (pyReprChar quote) ++ [quote])

------------------------------------------------------------
-- CPU Lists
------------------------------------------------------------

/- The digits that are not decimal, by first and last. -/
def otherDigits : List (Nat × Nat) :=
  [(0xb2, 0xb3), (0xb9, 0xb9), (0x1369, 0x1371),
    (0x19da, 0x19da), (0x2070, 0x2070), (0x2074, 0x2079),
    (0x2080, 0x2089), (0x2460, 0x2468), (0x2474, 0x247c),
    (0x2488, 0x2490), (0x24ea, 0x24ea), (0x24f5, 0x24fd),
    (0x24ff, 0x24ff), (0x2776, 0x277e), (0x2780, 0x2788),
    (0x278a, 0x2792), (0x10a40, 0x10a43), (0x10e60, 0x10e68),
    (0x11052, 0x1105a), (0x1f100, 0x1f10a)]

/- `c.isdigit()`. -/
def isPyDigit (c : Char) : Bool :=
  isDecimal c ||
    otherDigits.any (fun range =>
      range.1 ≤ c.toNat && c.toNat ≤ range.2)

/- `str.isdigit`. -/
def isDigits (text : List Char) : Bool :=
  text ≠ [] && text.all isPyDigit

/- `int`, which refuses the digits that are not decimal. -/
def digitsValue (text : List Char) : Except String Nat :=
  match pyInt (String.ofList text) with
  | .error error => .error error
  | .ok value => .ok value.toNat

/- One element of a list: a number or a range of numbers. -/
def parseCpuToken
    (token : List Char) :
    Except String (Finset Nat) :=
  if '-' ∈ token then
    let first := token.takeWhile (fun c => c ≠ '-')
    let last := (token.dropWhile (fun c => c ≠ '-')).tail
    if ¬ (isDigits first ∧ isDigits last) then
      .error ("invalid CPU range " ++ pyRepr token)
    else do
      let first ← digitsValue first
      let last ← digitsValue last
      if last < first then
        .error ("descending CPU range " ++ pyRepr token)
      else
        .ok (Finset.Icc first last)
  else if ¬ isDigits token then
    .error ("invalid CPU number " ++ pyRepr token)
  else do
    let cpu ← digitsValue token
    .ok {cpu}

/- The loop over the pieces between the commas. -/
def parseCpuTokens
    (value : String) :
    List (List Char) → Finset Nat → Except String (Finset Nat)
| [], cpus => .ok cpus
| token :: tokens, cpus =>
    let token := pyStrip token
    if token = [] then
      .error
        ("invalid empty CPU-list element in " ++
          pyRepr value.toList)
    else
      match parseCpuToken token with
      | .error error => .error error
      | .ok more => parseCpuTokens value tokens (cpus ∪ more)

/- `parse_cpu_list`. -/
def parseCpuList
    (value : String) :
    Except String (Finset Nat) :=
  let text := pyStrip value.toList
  if text = [] then
    .ok ∅
  else
    parseCpuTokens value (text.splitOn ',') ∅

/- The maximal runs of a sorted list. -/
def cpuRanges (first previous : Nat) :
    List Nat → List (Nat × Nat)
| [] => [(first, previous)]
| value :: values =>
    if value = previous + 1 then
      cpuRanges first value values
    else
      (first, previous) :: cpuRanges value value values

/- A range of one processor is written as its number. -/
def cpuRangeText (range : Nat × Nat) : String :=
  if range.1 = range.2 then
    toString range.1
  else
    toString range.1 ++ "-" ++ toString range.2

/- The numbers of a set in increasing order. -/
def sortedCpus (cpus : Finset Nat) : List Nat :=
  (List.range (cpus.sup id + 1)).filter
    (fun cpu => cpu ∈ cpus)

/- `format_cpu_list`. -/
def formatCpuList (cpus : Finset Nat) : String :=
  match sortedCpus cpus with
  | [] => ""
  | value :: values =>
      String.intercalate ","
        ((cpuRanges value value values).map cpuRangeText)

end Controls

end RsCamera
