import RsCamera.Lib.Containers
import RsCamera.Lib.Numeral

/-
  JSON as `json.loads` of Python reads it.

  A string is a list of code points, which may hold halves of
  surrogate pairs; a number with a fraction or an exponent is
  kept as its text.  The reader runs on fuel, one unit for
  each value, member and element; twice the length of the
  text is enough.  Errors are the messages of the decoder
  without the position.

  Main declarations:
    * `Json`, `Json.loads`
    * `Json.parseValue_append`
-/

------------------------------------------------------------
-- Values
------------------------------------------------------------

/- A JSON value; a text is its code points. -/
inductive Json
| null
| bool (value : Bool)
| int (value : Int)
| float (text : List Char)
| str (codes : List Nat)
| arr (elements : List Json)
| obj (members : List (List Nat × Json))
deriving Repr

namespace Json

/- The code points of a text. -/
def codesOf (text : List Char) : List Nat :=
  text.map Char.toNat

/- The last member of a name, as in a dictionary. -/
def member
    (members : List (List Nat × Json))
    (key : String) : Option Json :=
  members.reverse.lookup (codesOf key.toList)

/- Values that end with a character of their own. -/
def closed : Json → Bool
| .str _ => true
| .arr _ => true
| .obj _ => true
| _ => false

------------------------------------------------------------
-- Scanning
------------------------------------------------------------

/- White space between the tokens. -/
def isSpace (c : Char) : Bool :=
  c = ' ' || c = '\t' || c = '\n' || c = '\r'

/- The text behind white space. -/
def skipSpace (text : List Char) : List Char :=
  text.dropWhile isSpace

/- The value of a hexadecimal digit. -/
def hexDigit? (c : Char) : Option Nat :=
  if '0' ≤ c ∧ c ≤ '9' then
    some (c.toNat - '0'.toNat)
  else if 'a' ≤ c ∧ c ≤ 'f' then
    some (c.toNat - 'a'.toNat + 10)
  else if 'A' ≤ c ∧ c ≤ 'F' then
    some (c.toNat - 'A'.toNat + 10)
  else
    none

/- The four digits of an escape. -/
def hexCode? (a b c d : Char) : Option Nat := do
  let a ← hexDigit? a
  let b ← hexDigit? b
  let c ← hexDigit? c
  let d ← hexDigit? d
  some (((a * 16 + b) * 16 + c) * 16 + d)

/- The character behind a backslash. -/
def simpleEscape? : Char → Option Char
| '"' => some '"'
| '\\' => some '\\'
| '/' => some '/'
| 'b' => some '\x08'
| 'f' => some '\x0c'
| 'n' => some '\n'
| 'r' => some '\r'
| 't' => some '\t'
| _ => none

/- The rest of a string, behind its opening quote. -/
def scanString :
    List Char → Except String (List Nat × List Char)
| [] => .error "Unterminated string starting at"
| '"' :: rest => .ok ([], rest)
| '\\' :: 'u' :: a :: b :: c :: d :: rest =>
    match hexCode? a b c d with
    | none => .error "Invalid \\uXXXX escape"
    | some code => do
        let scanned ← scanString rest
        .ok (code :: scanned.1, scanned.2)
| '\\' :: c :: rest =>
    match simpleEscape? c with
    | none =>
        .error
          (if c = 'u' then
            "Invalid \\uXXXX escape"
          else
            "Invalid \\escape")
    | some escaped => do
        let scanned ← scanString rest
        .ok (escaped.toNat :: scanned.1, scanned.2)
| c :: rest =>
    if c = '\\' then
      .error "Unterminated string starting at"
    else if c < ' ' then
      .error "Invalid control character at"
    else do
      let scanned ← scanString rest
      .ok (c.toNat :: scanned.1, scanned.2)

example :
    scanString "a\\n\"b".toList = .ok ([97, 10], ['b']) := by
  simp [scanString, simpleEscape?, bind, Except.bind]

/- Two halves of a pair that follow each other are one code. -/
def joinSurrogates : List Nat → List Nat
| high :: low :: rest =>
    if 0xd800 ≤ high ∧ high < 0xdc00 ∧ 0xdc00 ≤ low ∧
        low < 0xe000 then
      (0x10000 + (high - 0xd800) * 0x400 + (low - 0xdc00)) ::
        joinSurrogates rest
    else
      high :: joinSurrogates (low :: rest)
| codes => codes

/- A character at the front of a text, if it is there. -/
def frontChar (wanted : Char → Bool) : List Char → List Char
| c :: _ => if wanted c then [c] else []
| [] => []

/- The fraction of a number, if there is one. -/
def scanFraction : List Char → List Char
| c :: rest =>
    let digits := rest.takeWhile Char.isDigit
    if c = '.' ∧ digits ≠ [] then c :: digits else []
| [] => []

/- The exponent of a number, if there is one. -/
def scanExponent : List Char → List Char
| c :: rest =>
    let sign := frontChar (fun c => c = '+' || c = '-') rest
    let digits :=
      (rest.drop sign.length).takeWhile Char.isDigit
    if (c = 'e' ∨ c = 'E') ∧ digits ≠ [] then
      c :: (sign ++ digits)
    else
      []
| [] => []

/- A zero stands alone. -/
def scanInteger (text : List Char) : List Char :=
  if frontChar (fun c => c = '0') text ≠ [] then
    ['0']
  else
    text.takeWhile Char.isDigit

/- A number is an integer or kept as its text. -/
def numberValue
    (minus digits fraction exponent : List Char) : Json :=
  if fraction = [] ∧ exponent = [] then
    let value : Int := Nat.ofDigitChars 10 digits 0
    .int (if minus = [] then value else -value)
  else
    .float (minus ++ digits ++ fraction ++ exponent)

/- A number and the text behind it. -/
def scanNumber (text : List Char) : Option (Json × List Char) :=
  let minus := frontChar (fun c => c = '-') text
  let body := text.drop minus.length
  let digits := scanInteger body
  let afterDigits := body.drop digits.length
  let fraction := scanFraction afterDigits
  let afterFraction := afterDigits.drop fraction.length
  let exponent := scanExponent afterFraction
  if digits = [] then
    none
  else
    some
      (numberValue minus digits fraction exponent,
        afterFraction.drop exponent.length)

/- The words that are values. -/
def literals : List (List Char × Json) :=
  [("null".toList, .null), ("true".toList, .bool true),
    ("false".toList, .bool false),
    ("NaN".toList, .float "NaN".toList),
    ("Infinity".toList, .float "Infinity".toList),
    ("-Infinity".toList, .float "-Infinity".toList)]

/- A word and the text behind it. -/
def scanLiteral
    (text : List Char) : Option (Json × List Char) :=
  literals.findSome? (fun literal =>
    if literal.1.isPrefixOf text then
      some (literal.2, text.drop literal.1.length)
    else
      none)

/- A number or a literal. -/
def scanScalar (text : List Char) : Option (Json × List Char) :=
  (scanNumber text).or (scanLiteral text)

------------------------------------------------------------
-- Reading
------------------------------------------------------------

mutual

/- A value and the text behind it. -/
def parseValue :
    Nat → List Char → Except String (Json × List Char)
| 0, _ => .error "maximum recursion depth exceeded"
| fuel + 1, text =>
    match text with
    | '"' :: rest => do
        let scanned ← scanString rest
        .ok (.str (joinSurrogates scanned.1), scanned.2)
    | '{' :: rest =>
        match skipSpace rest with
        | '}' :: rest => .ok (.obj [], rest)
        | '"' :: rest => do
            let parsed ← parseMembers fuel rest
            .ok (.obj parsed.1, parsed.2)
        | _ =>
            .error
              "Expecting property name enclosed in double quotes"
    | '[' :: rest =>
        match skipSpace rest with
        | ']' :: rest => .ok (.arr [], rest)
        | rest => do
            let parsed ← parseElements fuel rest
            .ok (.arr parsed.1, parsed.2)
    | text =>
        match scanScalar text with
        | some scanned => .ok scanned
        | none => .error "Expecting value"

/- The members behind the opening quote of a name. -/
def parseMembers :
    Nat → List Char →
      Except String (List (List Nat × Json) × List Char)
| 0, _ => .error "maximum recursion depth exceeded"
| fuel + 1, text => do
    let key ← scanString text
    match skipSpace key.2 with
    | ':' :: rest => do
        let value ← parseValue fuel (skipSpace rest)
        match skipSpace value.2 with
        | '}' :: rest =>
            .ok ([(joinSurrogates key.1, value.1)], rest)
        | ',' :: rest =>
            match skipSpace rest with
            | '"' :: rest => do
                let parsed ← parseMembers fuel rest
                .ok
                  ((joinSurrogates key.1, value.1) :: parsed.1,
                    parsed.2)
            | _ =>
                .error
                  "Expecting property name enclosed in double quotes"
        | _ => .error "Expecting ',' delimiter"
    | _ => .error "Expecting ':' delimiter"

/- The rest of an array. -/
def parseElements :
    Nat → List Char → Except String (List Json × List Char)
| 0, _ => .error "maximum recursion depth exceeded"
| fuel + 1, text => do
    let value ← parseValue fuel text
    match skipSpace value.2 with
    | ']' :: rest => .ok ([value.1], rest)
    | ',' :: rest => do
        let parsed ← parseElements fuel (skipSpace rest)
        .ok (value.1 :: parsed.1, parsed.2)
    | _ => .error "Expecting ',' delimiter"

end

/- `json.loads`. -/
def loads (text : List Char) : Except String Json := do
  let parsed ←
    parseValue (2 * text.length + 2) (skipSpace text)
  if skipSpace parsed.2 = [] then
    .ok parsed.1
  else
    .error "Extra data"

------------------------------------------------------------
-- More Text Behind A Value
------------------------------------------------------------

/- A character that can follow a value. -/
def isDelimiter (c : Char) : Bool :=
  isSpace c || c = ',' || c = ']' || c = '}'

/- A text that a number does not run into. -/
def Delimited (text : List Char) : Prop :=
  ∃ c rest, text = c :: rest ∧ isDelimiter c = true

variable {text rest : List Char}
variable {c : Char}
variable {value : Json}
variable {fuel : Nat}
variable {larger : Nat}

theorem delimited_of_skipSpace
    (hSkip : skipSpace text = c :: rest)
    (hDelimiter : isDelimiter c = true) :
    Delimited text := by
  cases text with
  | nil => cases hSkip
  | cons first text =>
      refine ⟨first, text, rfl, ?_⟩
      unfold skipSpace at hSkip
      rw [List.dropWhile_cons] at hSkip
      split at hSkip
      next hSpace =>
        unfold isDelimiter
        rw [hSpace]
        rfl
      · cases hSkip
        exact hDelimiter

theorem skipSpace_append
    (hSkip : skipSpace text = c :: rest)
    (more : List Char) :
    skipSpace (text ++ more) = c :: (rest ++ more) := by
  induction text with
  | nil => cases hSkip
  | cons first text ih =>
      unfold skipSpace at hSkip ih ⊢
      rw [List.cons_append, List.dropWhile_cons]
      rw [List.dropWhile_cons] at hSkip
      split at hSkip
      next hSpace => rw [if_pos hSpace, ih hSkip]
      next hOther =>
        rw [if_neg hOther]
        cases hSkip
        rfl

/- One more code in front of a scanned string. -/
def scanMore
    (code : Nat)
    (rest : List Char) :
    Except String (List Nat × List Char) := do
  let scanned ← scanString rest
  .ok (code :: scanned.1, scanned.2)

theorem scanString_unicode
    {a b c d : Char}
    {code : Nat}
    (hCode : hexCode? a b c d = some code)
    (rest : List Char) :
    scanString ('\\' :: 'u' :: a :: b :: c :: d :: rest) =
      scanMore code rest := by
  rw [scanString.eq_3, hCode]
  rfl

theorem scanString_simple
    {c escaped : Char}
    (hEscape : simpleEscape? c = some escaped)
    (rest : List Char) :
    scanString ('\\' :: c :: rest) =
      scanMore escaped.toNat rest := by
  have hNotUnicode :
      ∀ (a b e d : Char) (tail : List Char),
        c = 'u' → rest = a :: b :: e :: d :: tail → False := by
    intro a b e d tail hIs
    rw [hIs] at hEscape
    cases hEscape
  rw [scanString.eq_4 c rest hNotUnicode, hEscape]
  rfl

theorem scanString_plain
    (hQuote : c ≠ '"')
    (hEscape : c ≠ '\\')
    (hPlain : ¬ c < ' ')
    (rest : List Char) :
    scanString (c :: rest) = scanMore c.toNat rest := by
  rw [scanString.eq_5 c rest hQuote
      (fun _ _ _ _ _ hIs _ => hEscape hIs)
      (fun _ _ hIs _ => hEscape hIs),
    if_neg hEscape, if_neg hPlain]
  rfl

theorem scanMore_append
    {code : Nat}
    {codes : List Nat}
    (more : List Char)
    (hScan : scanMore code text = .ok (codes, rest))
    (hRest :
      ∀ inner, scanString text = .ok (inner, rest) →
        scanString (text ++ more) =
          .ok (inner, rest ++ more)) :
    scanMore code (text ++ more) = .ok (codes, rest ++ more) := by
  rcases bind_eq_ok.mp hScan with ⟨scanned, hScanned, hSame⟩
  cases hSame
  exact bind_eq_ok.mpr
    ⟨_, hRest scanned.1 hScanned, rfl⟩

/- A string ends at its own quote. -/
theorem scanString_append
    {codes : List Nat}
    (hScan : scanString text = .ok (codes, rest))
    (more : List Char) :
    scanString (text ++ more) = .ok (codes, rest ++ more) := by
  induction text using scanString.induct generalizing codes with
  | case1 => cases hScan
  | case2 text =>
      cases hScan
      rfl
  | case3 a b c d text hCode =>
      rw [scanString.eq_3, hCode] at hScan
      cases hScan
  | case4 a b c d text code hCode ih =>
      rw [scanString_unicode hCode] at hScan
      simp only [List.cons_append]
      rw [scanString_unicode hCode]
      exact scanMore_append more hScan (fun _ => ih)
  | case5 c text hNotUnicode hEscape =>
      rw [scanString.eq_4 c text hNotUnicode, hEscape] at hScan
      cases hScan
  | case6 c text hNotUnicode escaped hEscape ih =>
      rw [scanString_simple hEscape] at hScan
      simp only [List.cons_append]
      rw [scanString_simple hEscape]
      exact scanMore_append more hScan (fun _ => ih)
  | case7 text hQuote hUnicode hEscape =>
      rw [scanString.eq_5 '\\' text hQuote hUnicode hEscape]
        at hScan
      cases hScan
  | case8 c text hQuote hUnicode hEscape hNotEscape hControl =>
      rw [scanString.eq_5 c text hQuote hUnicode hEscape,
        if_neg hNotEscape, if_pos hControl] at hScan
      cases hScan
  | case9 c text hQuote hUnicode hEscape hNotEscape hPlain ih =>
      rw [scanString_plain hQuote hNotEscape hPlain] at hScan
      simp only [List.cons_append]
      rw [scanString_plain hQuote hNotEscape hPlain]
      exact scanMore_append more hScan (fun _ => ih)

/- A run of digits that ends before the text does. -/
theorem takeWhile_append_of_drop
    {p : Char → Bool}
    (hRest :
      text.drop (text.takeWhile p).length = c :: rest)
    (more : List Char) :
    (text ++ more).takeWhile p = text.takeWhile p := by
  induction text with
  | nil => cases hRest
  | cons first text ih =>
      rw [List.cons_append, List.takeWhile_cons,
        List.takeWhile_cons]
      rw [List.takeWhile_cons] at hRest
      split at hRest
      next hFirst =>
        rw [if_pos hFirst, if_pos hFirst, ih hRest]
      next hFirst => rw [if_neg hFirst, if_neg hFirst]

theorem drop_append_of_cons
    {n : Nat}
    (hRest : text.drop n = c :: rest)
    (more : List Char) :
    (text ++ more).drop n = c :: (rest ++ more) := by
  have hLength : n < text.length := by
    by_contra hLong
    rw [List.drop_of_length_le (Nat.le_of_not_lt hLong)] at hRest
    cases hRest
  rw [List.drop_append_of_le_length hLength.le, hRest]
  rfl

theorem frontChar_append
    {wanted : Char → Bool}
    {text : List Char}
    (hText : text ≠ [])
    (more : List Char) :
    frontChar wanted (text ++ more) = frontChar wanted text := by
  cases text with
  | nil => exact absurd rfl hText
  | cons c text => rfl

theorem scanInteger_append
    (hRest : text.drop (scanInteger text).length = c :: rest)
    (more : List Char) :
    scanInteger (text ++ more) = scanInteger text := by
  have hText : text ≠ [] := by
    intro hNil
    rw [hNil] at hRest
    simp at hRest
  unfold scanInteger at hRest ⊢
  rw [frontChar_append hText]
  split at hRest
  next hZero => rw [if_pos hZero, if_pos hZero]
  next hOther =>
    rw [if_neg hOther, if_neg hOther,
      takeWhile_append_of_drop hRest]

theorem scanFraction_append
    (hRest : text.drop (scanFraction text).length = c :: rest)
    (hPoint : c ≠ '.')
    (more : List Char) :
    scanFraction (text ++ more) = scanFraction text := by
  cases text with
  | nil => simp at hRest
  | cons first text =>
      simp only [scanFraction, List.cons_append] at hRest ⊢
      by_cases hFirst : first = '.'
      · by_cases hDigits : text.takeWhile Char.isDigit = []
        · -- A point without digits stays in the text.
          rw [if_neg (by simp [hDigits])] at hRest
          cases hRest
          exact absurd hFirst hPoint
        · rw [if_pos ⟨hFirst, hDigits⟩] at hRest
          rw [takeWhile_append_of_drop
            (by simpa using hRest)]
      · simp [hFirst]

theorem scanExponent_append
    (hRest : text.drop (scanExponent text).length = c :: rest)
    (hLetter : ¬ (c = 'e' ∨ c = 'E'))
    (more : List Char) :
    scanExponent (text ++ more) = scanExponent text := by
  cases text with
  | nil => simp at hRest
  | cons first text =>
      simp only [scanExponent, List.cons_append] at hRest ⊢
      by_cases hFirst : first = 'e' ∨ first = 'E'
      · split at hRest
        next hBoth =>
          have hText : text ≠ [] := by
            intro hNil
            rw [hNil] at hBoth
            exact hBoth.2 (by simp)
          rw [frontChar_append hText]
          generalize frontChar (fun c => c = '+' || c = '-')
            text = sign at hRest hBoth ⊢
          have hDrop :
              (text.drop sign.length).drop
                  ((text.drop sign.length).takeWhile
                    Char.isDigit).length = c :: rest := by
            rw [List.drop_drop]
            simpa using hRest
          have hLength : sign.length ≤ text.length := by
            by_contra hLong
            rw [List.drop_of_length_le
              (Nat.le_of_not_le hLong)] at hDrop
            simp at hDrop
          rw [List.drop_append_of_le_length hLength,
            takeWhile_append_of_drop hDrop]
        · -- Without digits the letter stays in the text.
          cases hRest
          exact absurd hFirst hLetter
      · simp [hFirst]

/- What an exponent leaves does not start with a point. -/
theorem scanExponent_head
    {text rest tail : List Char}
    {c first : Char}
    (hText : text = first :: tail)
    (hRest : text.drop (scanExponent text).length = c :: rest)
    (hPoint : c ≠ '.') :
    first ≠ '.' := by
  subst hText
  simp only [scanExponent] at hRest
  split at hRest
  next hBoth =>
    intro hIs
    rw [hIs] at hBoth
    rcases hBoth.1 with hLetter | hLetter <;> cases hLetter
  · cases hRest
    exact hPoint

theorem exists_cons_of_drop
    {n : Nat}
    (hRest : text.drop n = c :: rest) :
    ∃ first tail, text = first :: tail := by
  cases text with
  | nil => simp at hRest
  | cons first tail => exact ⟨first, tail, rfl⟩

/- A number ends before a delimiter. -/
theorem scanNumber_append
    (hScan : scanNumber text = some (value, rest))
    (hRest : Delimited rest)
    (more : List Char) :
    scanNumber (text ++ more) = some (value, rest ++ more) := by
  rcases hRest with ⟨c, tail, hRest, hDelimiter⟩
  subst hRest
  have hPoint : c ≠ '.' := by
    intro hIs
    rw [hIs] at hDelimiter
    cases hDelimiter
  have hLetter : ¬ (c = 'e' ∨ c = 'E') := by
    intro hIs
    rcases hIs with hIs | hIs <;>
      rw [hIs] at hDelimiter <;> cases hDelimiter
  simp only [scanNumber] at hScan ⊢
  split at hScan
  · cases hScan
  next hDigits =>
    simp only [Option.some.injEq, Prod.mk.injEq] at hScan
    rcases hScan with ⟨hValue, hAfter⟩
    -- Every part of the number leaves something behind.
    rcases exists_cons_of_drop hAfter with
      ⟨second, u, hFraction⟩
    rcases exists_cons_of_drop hFraction with
      ⟨third, v, hInteger⟩
    rcases exists_cons_of_drop hInteger with
      ⟨fourth, w, hMinus⟩
    rcases exists_cons_of_drop hMinus with ⟨fifth, x, hText⟩
    have hSecond := scanExponent_head hFraction hAfter hPoint
    have hFront :
        frontChar (fun c => c = '-') (text ++ more) =
          frontChar (fun c => c = '-') text :=
      frontChar_append (by rw [hText]; simp) more
    rw [hFront, drop_append_of_cons hMinus, ← List.cons_append,
      ← hMinus, scanInteger_append hInteger,
      drop_append_of_cons hInteger, ← List.cons_append,
      ← hInteger, scanFraction_append hFraction hSecond,
      drop_append_of_cons hFraction, ← List.cons_append,
      ← hFraction, scanExponent_append hAfter hLetter,
      drop_append_of_cons hAfter, if_neg hDigits, hValue]
    rfl

theorem scanLiteral_eq_some
    (hScan : scanLiteral text = some (value, rest)) :
    ∃ literal ∈ literals,
      text = literal.1 ++ rest ∧ value = literal.2 := by
  unfold scanLiteral at hScan
  rcases List.exists_of_findSome?_eq_some hScan with
    ⟨literal, hLiteral, hFound⟩
  split at hFound
  next hPrefix =>
    cases hFound
    refine ⟨literal, hLiteral, ?_, rfl⟩
    rcases List.isPrefixOf_iff_prefix.mp hPrefix with
      ⟨tail, hTail⟩
    rw [← hTail, List.drop_left]
  · cases hFound

/- The literals differ in their first characters. -/
theorem scanLiteral_of_mem
    {literal : List Char × Json}
    (hLiteral : literal ∈ literals)
    (rest : List Char) :
    scanLiteral (literal.1 ++ rest) = some (literal.2, rest) := by
  simp only [literals, List.mem_cons, List.not_mem_nil,
    or_false] at hLiteral
  rcases hLiteral with
    hIs | hIs | hIs | hIs | hIs | hIs
  all_goals
    subst hIs
    rfl

theorem scanLiteral_append
    (hScan : scanLiteral text = some (value, rest))
    (more : List Char) :
    scanLiteral (text ++ more) = some (value, rest ++ more) := by
  rcases scanLiteral_eq_some hScan with
    ⟨literal, hLiteral, hText, hValue⟩
  rw [hText, hValue, List.append_assoc]
  exact scanLiteral_of_mem hLiteral (rest ++ more)

theorem scanNumber_of_literal
    {literal : List Char × Json}
    (hLiteral : literal ∈ literals)
    (rest : List Char) :
    scanNumber (literal.1 ++ rest) = none := by
  simp only [literals, List.mem_cons, List.not_mem_nil,
    or_false] at hLiteral
  rcases hLiteral with
    hIs | hIs | hIs | hIs | hIs | hIs
  all_goals
    subst hIs
    rfl

theorem scanScalar_append
    (hScan : scanScalar text = some (value, rest))
    (hRest : Delimited rest)
    (more : List Char) :
    scanScalar (text ++ more) = some (value, rest ++ more) := by
  unfold scanScalar at hScan ⊢
  cases hNumber : scanNumber text with
  | some scanned =>
      rw [hNumber] at hScan
      cases hScan
      rw [scanNumber_append hNumber hRest]
      rfl
  | none =>
      rw [hNumber] at hScan
      have hLiteral : scanLiteral text = some (value, rest) :=
        hScan
      rcases scanLiteral_eq_some hLiteral with
        ⟨literal, hMember, hText, -⟩
      rw [scanLiteral_append hLiteral, hText,
        List.append_assoc, scanNumber_of_literal hMember]
      rfl

theorem parseValue_nil
    (fuel : Nat)
    (result : Json × List Char) :
    parseValue fuel [] ≠ .ok result := by
  intro hParse
  cases fuel with
  | zero => cases hParse
  | succ fuel => cases hParse

theorem parseElements_nil
    (fuel : Nat)
    (result : List Json × List Char) :
    parseElements fuel [] ≠ .ok result := by
  intro hParse
  cases fuel with
  | zero => cases hParse
  | succ fuel =>
      rcases bind_eq_ok.mp hParse with ⟨value, hValue, -⟩
      exact parseValue_nil fuel value hValue

/- The space before something keeps its end. -/
theorem skipSpace_append_of_ne_nil
    {text : List Char}
    (hText : skipSpace text ≠ [])
    (more : List Char) :
    skipSpace (text ++ more) = skipSpace text ++ more := by
  cases hSkip : skipSpace text with
  | nil => exact absurd hSkip hText
  | cons c rest =>
      rw [skipSpace_append hSkip]
      rfl

/- Numbers and literals are not closed. -/
theorem scanScalar_open
    (hScan : scanScalar text = some (value, rest))
    (hClosed : value.closed = true) :
    False := by
  unfold scanScalar at hScan
  cases hNumber : scanNumber text with
  | some scanned =>
      rw [hNumber] at hScan
      cases hScan
      simp only [scanNumber] at hNumber
      split at hNumber
      · cases hNumber
      · cases hNumber
        unfold numberValue at hClosed
        split at hClosed <;> cases hClosed
  | none =>
      rw [hNumber] at hScan
      rcases scanLiteral_eq_some hScan with
        ⟨literal, hMember, -, hValue⟩
      rw [hValue] at hClosed
      simp only [literals, List.mem_cons, List.not_mem_nil,
        or_false] at hMember
      rcases hMember with hIs | hIs | hIs | hIs | hIs | hIs
      all_goals
        subst hIs
        cases hClosed

/- What stays read when text and fuel are added. -/
structure Extends (fuel : Nat) : Prop where
  value :
    ∀ {text value rest},
      parseValue fuel text = .ok (value, rest) →
      (Delimited rest ∨ value.closed = true) →
      ∀ more larger, fuel ≤ larger →
        parseValue larger (text ++ more) =
          .ok (value, rest ++ more)
  members :
    ∀ {text members rest},
      parseMembers fuel text = .ok (members, rest) →
      ∀ more larger, fuel ≤ larger →
        parseMembers larger (text ++ more) =
          .ok (members, rest ++ more)
  elements :
    ∀ {text elements rest},
      parseElements fuel text = .ok (elements, rest) →
      ∀ more larger, fuel ≤ larger →
        parseElements larger (text ++ more) =
          .ok (elements, rest ++ more)

theorem parseValue_extends
    (hFuel : Extends fuel)
    (hParse : parseValue (fuel + 1) text = .ok (value, rest))
    (hRest : Delimited rest ∨ value.closed = true)
    (more : List Char)
    (hLarger : fuel ≤ larger) :
    parseValue (larger + 1) (text ++ more) =
      .ok (value, rest ++ more) := by
  rw [parseValue.eq_def] at hParse
  simp only at hParse
  split at hParse
  next tail =>
    -- A string.
    rcases bind_eq_ok.mp hParse with ⟨scanned, hScan, hSame⟩
    cases hSame
    rw [List.cons_append, parseValue.eq_2]
    exact bind_eq_ok.mpr ⟨_, scanString_append hScan more, rfl⟩
  next tail =>
    -- An object.
    rw [List.cons_append, parseValue.eq_3]
    split at hParse
    next inner hSkip =>
      cases hParse
      rw [skipSpace_append hSkip]
      rfl
    next inner hSkip =>
      rcases bind_eq_ok.mp hParse with ⟨parsed, hInner, hSame⟩
      cases hSame
      rw [skipSpace_append hSkip]
      exact bind_eq_ok.mpr
        ⟨_, hFuel.members hInner more larger hLarger, rfl⟩
    · cases hParse
  next tail =>
    -- An array.
    rw [List.cons_append, parseValue.eq_4]
    split at hParse
    next inner hSkip =>
      cases hParse
      rw [skipSpace_append hSkip]
      rfl
    next hOther =>
      rcases bind_eq_ok.mp hParse with ⟨parsed, hInner, hSame⟩
      cases hSame
      cases hSkip : skipSpace tail with
      | nil =>
          rw [hSkip] at hInner
          exact absurd hInner (parseElements_nil fuel _)
      | cons c inner =>
          rw [hSkip] at hInner hOther
          rw [skipSpace_append hSkip]
          split
          next hIs =>
            cases hIs
            exact absurd rfl (hOther inner)
          · exact bind_eq_ok.mpr
              ⟨_, hFuel.elements hInner more larger hLarger,
                rfl⟩
  next hString hObject hArray =>
    -- A number or a literal.
    split at hParse
    next scanned hScan =>
      cases hParse
      have hOpen : (value.closed = true) → False :=
        scanScalar_open hScan
      have hAppend :=
        scanScalar_append hScan (hRest.resolve_right hOpen) more
      cases text with
      | nil => cases hScan
      | cons c text =>
          rw [List.cons_append] at hAppend ⊢
          rw [parseValue.eq_5 (c :: (text ++ more)) larger
              (fun _ hIs => hString _ (by cases hIs; rfl))
              (fun _ hIs => hObject _ (by cases hIs; rfl))
              (fun _ hIs => hArray _ (by cases hIs; rfl)),
            hAppend]
    · cases hParse

theorem parseMembers_extends
    (hFuel : Extends fuel)
    {members : List (List Nat × Json)}
    (hParse :
      parseMembers (fuel + 1) text = .ok (members, rest))
    (more : List Char)
    (hLarger : fuel ≤ larger) :
    parseMembers (larger + 1) (text ++ more) =
      .ok (members, rest ++ more) := by
  rw [parseMembers.eq_2] at hParse ⊢
  rcases bind_eq_ok.mp hParse with ⟨key, hKey, hAfterKey⟩
  refine bind_eq_ok.mpr
    ⟨_, scanString_append hKey more, ?_⟩
  simp only
  split at hAfterKey
  next afterColon hColon =>
    rw [skipSpace_append hColon]
    rcases bind_eq_ok.mp hAfterKey with
      ⟨value, hValue, hAfterValue⟩
    have hSpace : skipSpace afterColon ≠ [] := by
      intro hNil
      rw [hNil] at hValue
      exact parseValue_nil fuel value hValue
    split at hAfterValue
    next afterBrace hBrace =>
      cases hAfterValue
      refine bind_eq_ok.mpr ⟨(value.1, value.2 ++ more), ?_, ?_⟩
      · rw [skipSpace_append_of_ne_nil hSpace]
        exact hFuel.value hValue
          (Or.inl (delimited_of_skipSpace hBrace rfl)) more
          larger hLarger
      · simp only
        rw [skipSpace_append hBrace]
        rfl
    next afterComma hComma =>
      split at hAfterValue
      next afterQuote hQuote =>
        rcases bind_eq_ok.mp hAfterValue with
          ⟨parsed, hInner, hSame⟩
        cases hSame
        refine bind_eq_ok.mpr
          ⟨(value.1, value.2 ++ more), ?_, ?_⟩
        · rw [skipSpace_append_of_ne_nil hSpace]
          exact hFuel.value hValue
            (Or.inl (delimited_of_skipSpace hComma rfl)) more
            larger hLarger
        · simp only
          rw [skipSpace_append hComma]
          simp only
          rw [skipSpace_append hQuote]
          exact bind_eq_ok.mpr
            ⟨_, hFuel.members hInner more larger hLarger, rfl⟩
      · cases hAfterValue
    · cases hAfterValue
  · cases hAfterKey

theorem parseElements_extends
    (hFuel : Extends fuel)
    {elements : List Json}
    (hParse :
      parseElements (fuel + 1) text = .ok (elements, rest))
    (more : List Char)
    (hLarger : fuel ≤ larger) :
    parseElements (larger + 1) (text ++ more) =
      .ok (elements, rest ++ more) := by
  rw [parseElements.eq_2] at hParse ⊢
  rcases bind_eq_ok.mp hParse with
    ⟨value, hValue, hAfterValue⟩
  split at hAfterValue
  next afterBracket hBracket =>
    cases hAfterValue
    refine bind_eq_ok.mpr ⟨(value.1, value.2 ++ more), ?_, ?_⟩
    · exact hFuel.value hValue
        (Or.inl (delimited_of_skipSpace hBracket rfl)) more
        larger hLarger
    · simp only
      rw [skipSpace_append hBracket]
      rfl
  next afterComma hComma =>
    rcases bind_eq_ok.mp hAfterValue with
      ⟨parsed, hInner, hSame⟩
    cases hSame
    have hSpace : skipSpace afterComma ≠ [] := by
      intro hNil
      rw [hNil] at hInner
      exact parseElements_nil fuel parsed hInner
    refine bind_eq_ok.mpr ⟨(value.1, value.2 ++ more), ?_, ?_⟩
    · exact hFuel.value hValue
        (Or.inl (delimited_of_skipSpace hComma rfl)) more
        larger hLarger
    · simp only
      rw [skipSpace_append hComma]
      simp only
      rw [skipSpace_append_of_ne_nil hSpace]
      exact bind_eq_ok.mpr
        ⟨_, hFuel.elements hInner more larger hLarger, rfl⟩
  · cases hAfterValue

/- The induction is on the fuel of all three readers at once. -/
theorem parse_extends
    (fuel : Nat) :
    Extends fuel := by
  induction fuel with
  | zero =>
      refine ⟨?_, ?_, ?_⟩
      · intro text value rest hParse
        cases hParse
      · intro text members rest hParse
        cases hParse
      · intro text elements rest hParse
        cases hParse
  | succ fuel ih =>
      refine ⟨?_, ?_, ?_⟩
      · intro text value rest hParse hRest more larger hLarger
        cases larger with
        | zero => cases hLarger
        | succ larger =>
            exact parseValue_extends ih hParse hRest more
              (Nat.le_of_succ_le_succ hLarger)
      · intro text members rest hParse more larger hLarger
        cases larger with
        | zero => cases hLarger
        | succ larger =>
            exact parseMembers_extends ih hParse more
              (Nat.le_of_succ_le_succ hLarger)
      · intro text elements rest hParse more larger hLarger
        cases larger with
        | zero => cases hLarger
        | succ larger =>
            exact parseElements_extends ih hParse more
              (Nat.le_of_succ_le_succ hLarger)

/- More text behind an object, string or array is left over. -/
theorem parseValue_append
    {fuel larger : Nat}
    (hParse : parseValue fuel text = .ok (value, rest))
    (hClosed : value.closed = true)
    (more : List Char)
    (hLarger : fuel ≤ larger) :
    parseValue larger (text ++ more) =
      .ok (value, rest ++ more) :=
  (parse_extends fuel).value hParse (Or.inr hClosed) more larger
    hLarger

end Json
