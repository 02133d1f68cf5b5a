import Mathlib.Algebra.Group.Int.Defs
import Mathlib.Algebra.Group.Nat.Defs
import Mathlib.Data.List.TakeWhile
import Mathlib.Tactic.Common

/-
  Decimal numerals as the C library scans them: leading
  white space, an optional sign, then a run of digits, with
  whatever follows left over.  `pyInt` is the conversion of
  Python, which takes the whole text or refuses it.

  Main declarations:
    * `scanNumeral`
    * `stoi`, `stoull`
    * `scanNumeral_toString`
    * `isPySpace`, `pyStrip`, `pySplit`, `isDecimal`
    * `pyInt`, `pyInt_natCast`, `pyInt_toString`
    * `scanNumeral_toString_int`
    * `CInt`, `stoi_toString`
-/

------------------------------------------------------------
-- Scanning
------------------------------------------------------------

/- The white space of the C locale. -/
def isCSpace (c : Char) : Bool :=
  c = ' ' || ('\t' ≤ c && c ≤ '\r')

/- A scanned numeral and the text after it. -/
structure Numeral where
  negative : Bool
  magnitude : Nat
  rest : List Char
deriving Repr, DecidableEq

/- Split an optional sign from the text. -/
def scanSign : List Char → Bool × List Char
| '-' :: rest => (true, rest)
| '+' :: rest => (false, rest)
| rest => (false, rest)

def scanNumeral (text : List Char) : Option Numeral :=
  let signed := scanSign (text.dropWhile isCSpace)
  let digits := signed.2.takeWhile Char.isDigit
  if digits = [] then
    none
  else
    some {
      negative := signed.1
      magnitude := Nat.ofDigitChars 10 digits 0
      rest := signed.2.dropWhile Char.isDigit }

/- The signed value of a numeral. -/
def Numeral.value (numeral : Numeral) : Int :=
  if numeral.negative then
    -(numeral.magnitude : Int)
  else
    numeral.magnitude

/-
  `std::stoi`: the text after the digits is ignored, and a
  value outside the range of `int` is refused.
-/
def stoi (text : String) : Except String Int :=
  match scanNumeral text.toList with
  | none => .error "stoi"
  | some numeral =>
      if -2 ^ 31 ≤ numeral.value ∧
          numeral.value < 2 ^ 31 then
        .ok numeral.value
      else
        .error "stoi"

/-
  `std::stoull`: the value and the text left over.  A minus
  sign negates the unsigned value.
-/
def stoull (text : String) :
    Except String (Nat × List Char) :=
  match scanNumeral text.toList with
  | none => .error "stoull"
  | some numeral =>
      if numeral.magnitude < 2 ^ 64 then
        .ok
          (if numeral.negative then
            (2 ^ 64 - numeral.magnitude) % 2 ^ 64
          else
            numeral.magnitude,
            numeral.rest)
      else
        .error "stoull"

theorem stoi_range
    {text : String}
    {value : Int}
    (hValue : stoi text = .ok value) :
    -2 ^ 31 ≤ value ∧ value < 2 ^ 31 := by
  unfold stoi at hValue
  split at hValue
  · cases hValue
  · split at hValue
    · next hRange =>
        rw [Except.ok.injEq] at hValue
        exact hValue ▸ hRange
    · cases hValue

------------------------------------------------------------
-- Printed Numerals
------------------------------------------------------------

/- A digit is neither white space nor a sign. -/
theorem not_isCSpace_of_isDigit
    {c : Char}
    (hDigit : c.isDigit = true) :
    isCSpace c = false ∧ c ≠ '-' ∧ c ≠ '+' := by
  have hRange : 48 ≤ c.val ∧ c.val ≤ 57 := by
    simpa [Char.isDigit] using hDigit
  have hLow : 48 ≤ c.val.toNat :=
    UInt32.le_iff_toNat_le.mp hRange.1
  refine ⟨?_, ?_, ?_⟩
  · simp only [isCSpace, Bool.or_eq_false_iff,
      decide_eq_false_iff_not, Bool.and_eq_false_iff]
    constructor
    · intro hSpace
      subst hSpace
      exact absurd hLow (by decide)
    · right
      intro hReturn
      have hHigh : c.val.toNat ≤ 13 := hReturn
      omega
  · intro hMinus
    subst hMinus
    exact absurd hLow (by decide)
  · intro hPlus
    subst hPlus
    exact absurd hLow (by decide)

/- A printed number is scanned up to the text after it. -/
theorem scanNumeral_toString_append
    (n : Nat)
    {rest : List Char}
    (hRest : ∀ c ∈ rest.head?, c.isDigit = false) :
    scanNumeral ((toString n).toList ++ rest) =
      some ⟨false, n, rest⟩ := by
  have hText : (toString n).toList = Nat.toDigits 10 n :=
    Nat.toList_repr
  have hDigits :
      ∀ c ∈ Nat.toDigits 10 n, c.isDigit = true := by
    intro c hc
    exact Nat.isDigit_of_mem_toDigits (by decide)
      (by decide) hc
  have hStop :
      rest.takeWhile Char.isDigit = [] ∧
        rest.dropWhile Char.isDigit = rest := by
    cases rest with
    | nil => exact ⟨rfl, rfl⟩
    | cons c rest =>
        have hHead := hRest c (by simp)
        simp [hHead]
  have hTake :
      (Nat.toDigits 10 n ++ rest).takeWhile Char.isDigit =
        Nat.toDigits 10 n := by
    rw [List.takeWhile_append_of_pos hDigits, hStop.1,
      List.append_nil]
  have hDrop :
      (Nat.toDigits 10 n ++ rest).dropWhile Char.isDigit =
        rest := by
    rw [List.dropWhile_append_of_pos hDigits, hStop.2]
  have hSigned :
      scanSign
          ((Nat.toDigits 10 n ++ rest).dropWhile isCSpace) =
        (false, Nat.toDigits 10 n ++ rest) := by
    cases hList : Nat.toDigits 10 n with
    | nil => exact absurd hList Nat.toDigits_ne_nil
    | cons c digits =>
        have hHead : c.isDigit = true :=
          hDigits c (by simp [hList])
        rcases not_isCSpace_of_isDigit hHead with
          ⟨hSpace, hMinus, hPlus⟩
        rw [List.cons_append,
          List.dropWhile_cons_of_neg (by simp [hSpace])]
        unfold scanSign
        split
        · simp_all
        · simp_all
        · rfl
  unfold scanNumeral
  simp only [hText, hSigned, hTake, hDrop,
    Nat.toDigits_ne_nil, if_false,
    Nat.ofDigitChars_toDigits (b := 10) (n := n) (by decide)
      (by decide)]

/- A printed number is scanned back completely. -/
theorem scanNumeral_toString
    (n : Nat) :
    scanNumeral (toString n).toList =
      some ⟨false, n, []⟩ := by
  have hScan := @scanNumeral_toString_append n [] (by simp)
  rwa [List.append_nil] at hScan

/- A printed word is read back as itself. -/
theorem stoull_toString
    {n : Nat}
    (hWord : n < 2 ^ 64) :
    stoull (toString n) = .ok (n, []) := by
  unfold stoull
  rw [scanNumeral_toString]
  simp only [hWord, if_true, Bool.false_eq_true, if_false]

/- A printed word at the start of a line. -/
theorem stoull_line
    {n : Nat}
    (hWord : n < 2 ^ 64) :
    stoull (toString n ++ "\n") = .ok (n, ['\n']) := by
  have hScan :=
    @scanNumeral_toString_append n ['\n'] (by simp)
  unfold stoull
  rw [String.toList_append]
  change
    (match scanNumeral ((toString n).toList ++ ['\n']) with
      | none => _
      | some numeral => _) = _
  rw [hScan]
  simp only [hWord, if_true, Bool.false_eq_true, if_false]

------------------------------------------------------------
-- Python Integers
------------------------------------------------------------

/- The white space beyond ASCII. -/
def wideSpaces : List Char :=
  ['\u0085', '\u00a0', '\u1680', '\u2000', '\u2001', '\u2002',
    '\u2003', '\u2004', '\u2005', '\u2006', '\u2007', '\u2008',
    '\u2009', '\u200a', '\u2028', '\u2029', '\u202f', '\u205f',
    '\u3000']

/- `str.isspace`: the characters that `str.strip` removes. -/
def isPySpace (c : Char) : Bool :=
  isCSpace c || ('\x1c' ≤ c && c ≤ '\x1f') ||
    wideSpaces.contains c

def pyStrip (text : List Char) : List Char :=
  ((text.dropWhile isPySpace).reverse.dropWhile
    isPySpace).reverse

/- The words that `str.split` finds. -/
def pySplit (text : String) : List String :=
  ((text.toList.splitOnP isPySpace).filter
    (fun word => !word.isEmpty)).map String.ofList

/- Two underscores next to each other. -/
def hasDoubleUnderscore : List Char → Bool
| a :: b :: rest =>
    (a = '_' && b = '_') || hasDoubleUnderscore (b :: rest)
| _ => false

/- The zeros of the decimal digits beyond ASCII. -/
def wideZeros : List Nat :=
  [0x660, 0x6f0, 0x7c0, 0x966, 0x9e6, 0xa66, 0xae6, 0xb66,
    0xbe6, 0xc66, 0xce6, 0xd66, 0xde6, 0xe50, 0xed0, 0xf20,
    0x1040, 0x1090, 0x17e0, 0x1810, 0x1946, 0x19d0, 0x1a80,
    0x1a90, 0x1b50, 0x1bb0, 0x1c40, 0x1c50, 0xa620, 0xa8d0,
    0xa900, 0xa9d0, 0xa9f0, 0xaa50, 0xabf0, 0xff10, 0x104a0,
    0x10d30, 0x11066, 0x110f0, 0x11136, 0x111d0, 0x112f0,
    0x11450, 0x114d0, 0x11650, 0x116c0, 0x11730, 0x118e0,
    0x11950, 0x11c50, 0x11d50, 0x11da0, 0x16a60, 0x16ac0,
    0x16b50, 0x1d7ce, 0x1d7d8, 0x1d7e2, 0x1d7ec, 0x1d7f6,
    0x1e140, 0x1e2f0, 0x1e950, 0x1fbf0]

/- A decimal digit, as the ASCII digit of the same value. -/
def decimalDigit? (c : Char) : Option Char :=
  if c.isDigit then
    some c
  else
    (wideZeros.find? (fun first =>
      first ≤ c.toNat && c.toNat < first + 10)).map
        (fun first => Nat.digitChar (c.toNat - first))

/- `str.isdecimal` of one character. -/
def isDecimal (c : Char) : Bool :=
  (decimalDigit? c).isSome

/- Digits, with single underscores only between them. -/
def pyDigits (text : List Char) : Option (List Char) :=
  if text.all (fun c => isDecimal c || c = '_') &&
      text.head?.any isDecimal &&
      text.getLast?.any isDecimal &&
      !hasDoubleUnderscore text then
    some (text.filterMap decimalDigit?)
  else
    none

/- `int(text)`. -/
def pyInt (text : String) : Except String Int :=
  let signed := scanSign (pyStrip text.toList)
  match pyDigits signed.2 with
  | none =>
      .error
        ("invalid literal for int() with base 10: '" ++
          text ++ "'")
  | some digits =>
      .ok
        (if signed.1 then
          -(Nat.ofDigitChars 10 digits 0 : Int)
        else
          Nat.ofDigitChars 10 digits 0)

theorem not_isPySpace_of_isDigit
    {c : Char}
    (hDigit : c.isDigit = true) :
    isPySpace c = false := by
  have hRange : 48 ≤ c.val ∧ c.val ≤ 57 := by
    simpa [Char.isDigit] using hDigit
  have hLow : 48 ≤ c.val.toNat :=
    UInt32.le_iff_toNat_le.mp hRange.1
  have hUpper : c.val.toNat ≤ 57 :=
    UInt32.le_iff_toNat_le.mp hRange.2
  simp only [isPySpace, (not_isCSpace_of_isDigit hDigit).1,
    Bool.false_or, Bool.or_eq_false_iff,
    Bool.and_eq_false_iff, decide_eq_false_iff_not]
  constructor
  · right
    intro hControl
    have hHigh : c.val.toNat ≤ 31 := hControl
    omega
  · rw [← Bool.not_eq_true, List.contains_iff_mem]
    intro hWide
    have hFar :
        wideSpaces.all (fun wide => 128 ≤ wide.val.toNat) =
          true := by
      decide
    have hHere := List.all_eq_true.mp hFar c hWide
    simp only [decide_eq_true_eq] at hHere
    omega

/- An ASCII digit stands for itself. -/
theorem decimalDigit?_of_isDigit
    {c : Char}
    (hDigit : c.isDigit = true) :
    decimalDigit? c = some c := by
  unfold decimalDigit?
  rw [if_pos hDigit]

theorem filterMap_decimalDigit?
    {text : List Char}
    (hDigits : ∀ c ∈ text, c.isDigit = true) :
    text.filterMap decimalDigit? = text := by
  induction text with
  | nil => rfl
  | cons c rest ih =>
      rw [List.forall_mem_cons] at hDigits
      rw [List.filterMap_cons,
        decimalDigit?_of_isDigit hDigits.1]
      simp only
      rw [ih hDigits.2]

theorem isDecimal_of_isDigit
    {c : Char}
    (hDigit : c.isDigit = true) :
    isDecimal c = true := by
  unfold isDecimal
  rw [decimalDigit?_of_isDigit hDigit]
  rfl

/- Text without white space at its ends is left alone. -/
theorem pyStrip_of_ends
    {text : List Char}
    (hHead : ∀ c ∈ text.head?, isPySpace c = false)
    (hLast : ∀ c ∈ text.getLast?, isPySpace c = false) :
    pyStrip text = text := by
  have hDrop :
      ∀ {chars : List Char},
        (∀ c ∈ chars.head?, isPySpace c = false) →
          chars.dropWhile isPySpace = chars := by
    intro chars hChars
    cases chars with
    | nil => rfl
    | cons c rest =>
        rw [List.dropWhile_cons_of_neg]
        simp [hChars c (by simp)]
  unfold pyStrip
  rw [hDrop hHead, hDrop, List.reverse_reverse]
  intro c hMember
  rw [List.head?_reverse] at hMember
  exact hLast c hMember

theorem pyDigits_of_digits
    {text : List Char}
    (hNonempty : text ≠ [])
    (hDigits : ∀ c ∈ text, c.isDigit = true) :
    pyDigits text = some text := by
  have hDouble : hasDoubleUnderscore text = false := by
    clear hNonempty
    induction text with
    | nil => rfl
    | cons a rest ih =>
        have hRest :=
          ih (fun c hc => hDigits c (List.mem_cons_of_mem _ hc))
        cases rest with
        | nil => rfl
        | cons b rest =>
            have hA : a ≠ '_' := by
              intro hEq
              have hDigit := hDigits a List.mem_cons_self
              rw [hEq] at hDigit
              exact absurd hDigit (by decide)
            rw [hasDoubleUnderscore, hRest]
            simp [hA]
  have hDecimal : ∀ c ∈ text, isDecimal c = true := by
    intro c hc
    exact isDecimal_of_isDigit (hDigits c hc)
  have hAll :
      text.all (fun c => isDecimal c || c = '_') = true := by
    rw [List.all_eq_true]
    intro c hc
    simp [hDecimal c hc]
  have hHead : text.head?.any isDecimal = true := by
    cases text with
    | nil => exact absurd rfl hNonempty
    | cons c rest => exact hDecimal c List.mem_cons_self
  have hLast : text.getLast?.any isDecimal = true := by
    rw [List.getLast?_eq_some_getLast hNonempty]
    exact hDecimal _ (List.getLast_mem hNonempty)
  have hSame := filterMap_decimalDigit? hDigits
  unfold pyDigits
  rw [hAll, hHead, hLast, hDouble, hSame]
  simp only [Bool.and_self, Bool.not_false, if_true]

/- Plain digits, with or without a minus sign, are read. -/
theorem pyInt_of_digits
    {text : String}
    (negative : Bool)
    {n : Nat}
    (hText :
      text.toList =
        (if negative then ['-'] else []) ++
          Nat.toDigits 10 n) :
    pyInt text = .ok (if negative then -(n : Int) else n) := by
  have hDigits :
      ∀ c ∈ Nat.toDigits 10 n, c.isDigit = true := by
    intro c hc
    exact Nat.isDigit_of_mem_toDigits (by decide)
      (by decide) hc
  have hNonempty : Nat.toDigits 10 n ≠ [] :=
    Nat.toDigits_ne_nil
  have hLast :
      ∀ c ∈ text.toList.getLast?, isPySpace c = false := by
    intro c hMember
    have hEnd :
        text.toList.getLast? =
          (Nat.toDigits 10 n).getLast? := by
      rw [hText, List.getLast?_append,
        List.getLast?_eq_some_getLast hNonempty]
      rfl
    rw [hEnd] at hMember
    exact not_isPySpace_of_isDigit
      (hDigits c (List.mem_of_getLast? hMember))
  have hHead :
      ∀ c ∈ text.toList.head?, isPySpace c = false := by
    intro c hMember
    rw [hText] at hMember
    cases negative with
    | true =>
        simp only [if_true, List.cons_append, List.head?_cons,
          Option.mem_def, Option.some.injEq] at hMember
        rw [← hMember]
        decide
    | false =>
        exact not_isPySpace_of_isDigit
          (hDigits c (List.mem_of_head? (by
            simpa using hMember)))
  have hSigned :
      scanSign text.toList =
        (negative, Nat.toDigits 10 n) := by
    rw [hText]
    cases negative with
    | true => rfl
    | false =>
        cases hList : Nat.toDigits 10 n with
        | nil => exact absurd hList hNonempty
        | cons c rest =>
            rcases not_isCSpace_of_isDigit
              (hDigits c (by simp [hList])) with
              ⟨_, hMinus, hPlus⟩
            simp only [Bool.false_eq_true, if_false,
              List.nil_append]
            unfold scanSign
            split
            · simp_all
            · simp_all
            · rfl
  unfold pyInt
  rw [pyStrip_of_ends hHead hLast, hSigned]
  simp only
  rw [pyDigits_of_digits hNonempty hDigits]
  simp only [Nat.ofDigitChars_toDigits (b := 10) (n := n)
    (by decide) (by decide)]

/- A printed natural number is read back. -/
theorem pyInt_natCast
    (n : Nat) :
    pyInt (toString n) = .ok (n : Int) := by
  have hText :
      (toString n).toList = [] ++ Nat.toDigits 10 n :=
    Nat.toList_repr
  exact pyInt_of_digits false hText

/- White space after the text is dropped. -/
theorem pyStrip_append_space
    {text : List Char}
    {c : Char}
    (hSpace : isPySpace c = true) :
    pyStrip (text ++ [c]) = pyStrip text := by
  have hDrop :
      (text ++ [c]).dropWhile isPySpace =
        if text.all isPySpace then []
        else text.dropWhile isPySpace ++ [c] := by
    induction text with
    | nil => simp [hSpace]
    | cons d text ih =>
        by_cases hHead : isPySpace d = true
        · simp [hHead, ih]
        · simp [hHead]
  unfold pyStrip
  rw [hDrop]
  split
  · next hAll =>
      have hNone : text.dropWhile isPySpace = [] :=
        List.dropWhile_eq_nil_iff.mpr
          (List.all_eq_true.mp hAll)
      rw [hNone]
  · rw [List.reverse_append, List.reverse_singleton,
      List.singleton_append,
      List.dropWhile_cons_of_pos hSpace]

/- A line with a printed number is read back. -/
theorem pyInt_line
    (n : Nat) :
    pyInt (toString n ++ "\n") = .ok (n : Int) := by
  have hSame :
      pyStrip (toString n ++ "\n").toList =
        pyStrip (toString n).toList := by
    rw [String.toList_append]
    exact pyStrip_append_space (by decide)
  have hRead := pyInt_natCast n
  unfold pyInt at hRead ⊢
  rw [hSame]
  simp only at hRead ⊢
  split at hRead
  · cases hRead
  · exact hRead

theorem toList_toString_negSucc
    (n : Nat) :
    (toString (Int.negSucc n)).toList =
      ['-'] ++ Nat.toDigits 10 (n + 1) := by
  change ("-" ++ Nat.repr (n + 1)).toList = _
  rw [String.toList_append, Nat.toList_repr]
  rfl

/- A printed integer is read back. -/
theorem pyInt_toString
    (z : Int) :
    pyInt (toString z) = .ok z := by
  cases z with
  | ofNat n => exact pyInt_natCast n
  | negSucc n =>
      have hRead :=
        pyInt_of_digits true (toList_toString_negSucc n)
      rw [hRead]
      rfl

theorem toString_int_injective :
    Function.Injective (toString : Int → String) := by
  intro left right hEq
  have hRead := pyInt_toString left
  rw [hEq, pyInt_toString] at hRead
  exact (Except.ok.inj hRead).symm

theorem toString_nat_injective :
    Function.Injective (toString : Nat → String) := by
  intro left right hEq
  have hRead := pyInt_natCast left
  rw [hEq, pyInt_natCast] at hRead
  exact_mod_cast (Except.ok.inj hRead).symm

------------------------------------------------------------
-- Printed Integers of the C Library
------------------------------------------------------------

/- A printed integer is scanned back, with its sign. -/
theorem scanNumeral_toString_int
    (z : Int) :
    scanNumeral (toString z).toList =
      some ⟨decide (z < 0), z.natAbs, []⟩ := by
  cases z with
  | ofNat n =>
      have hPositive : decide (Int.ofNat n < 0) = false :=
        decide_eq_false (Int.not_lt.mpr (Int.natCast_nonneg n))
      rw [hPositive]
      exact scanNumeral_toString n
  | negSucc n =>
      have hDigits :
          ∀ c ∈ Nat.toDigits 10 (n + 1), c.isDigit = true := by
        intro c hc
        exact Nat.isDigit_of_mem_toDigits (by decide)
          (by decide) hc
      have hTake :
          (Nat.toDigits 10 (n + 1)).takeWhile Char.isDigit =
            Nat.toDigits 10 (n + 1) :=
        List.takeWhile_eq_self_iff.mpr hDigits
      have hDrop :
          (Nat.toDigits 10 (n + 1)).dropWhile Char.isDigit =
            [] :=
        List.dropWhile_eq_nil_iff.mpr hDigits
      have hSigned :
          scanSign
              ((['-'] ++ Nat.toDigits 10 (n + 1)).dropWhile
                isCSpace) =
            (true, Nat.toDigits 10 (n + 1)) :=
        rfl
      rw [toList_toString_negSucc]
      unfold scanNumeral
      simp only [hSigned, hTake, hDrop, Nat.toDigits_ne_nil,
        if_false,
        Nat.ofDigitChars_toDigits (b := 10) (n := n + 1)
          (by decide) (by decide)]
      simp

/- The range of `int`. -/
def CInt (value : Int) : Prop :=
  -2 ^ 31 ≤ value ∧ value < 2 ^ 31

instance (value : Int) : Decidable (CInt value) := by
  unfold CInt
  infer_instance

/- `std::stoi` of a printed integer. -/
theorem stoi_toString
    (z : Int) :
    stoi (toString z) =
      if CInt z then .ok z else .error "stoi" := by
  have hValue :
      Numeral.value ⟨decide (z < 0), z.natAbs, []⟩ = z := by
    unfold Numeral.value
    by_cases hNegative : z < 0
    · simp only [hNegative, decide_true, if_true]
      omega
    · simp only [hNegative, decide_false, Bool.false_eq_true,
        if_false]
      omega
  unfold stoi
  rw [scanNumeral_toString_int]
  simp only [hValue]
  rfl
