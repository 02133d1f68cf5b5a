import RsCamera.Lib.JsonText

/-
  JSON in bytes, and the control characters in it.

  A reader of JSON takes no control character but white
  space, in a string or outside of one.  What is left to read
  therefore still holds all others, and a text with one of
  them is never accepted.

  A writer of JSON may escape a string byte by byte: bytes of
  a character outside of ASCII stand for themselves.

  Main declarations:
    * `Json.isControl`, `Json.Consumes`
    * `Json.parse_consumes`
    * `Json.loads_controls`
    * `Json.encode`, `Json.loadsBytes`
    * `Json.flatMap_encode`
    * `Json.spells_flatMap`, `Json.denotes_text`
    * `Json.denotes_objectText`, `Json.denotes_arrayText`
-/

------------------------------------------------------------
-- Consuming
------------------------------------------------------------

namespace Json

/- A control character that is not white space. -/
def isControl (c : Char) : Bool :=
  c < ' ' && !isSpace c

/- No control character is lost between two texts. -/
def Consumes (text rest : List Char) : Prop :=
  ∀ c, isControl c = true → c ∈ text → c ∈ rest

theorem Consumes.refl
    (text : List Char) :
    Consumes text text :=
  fun _ _ hIn => hIn

theorem Consumes.trans
    {text between rest : List Char}
    (hFirst : Consumes text between)
    (hSecond : Consumes between rest) :
    Consumes text rest :=
  fun c hControl hIn =>
    hSecond c hControl (hFirst c hControl hIn)

theorem consumes_append
    {front rest : List Char}
    (hFront : ∀ c ∈ front, isControl c = false) :
    Consumes (front ++ rest) rest := by
  intro c hControl hIn
  rcases List.mem_append.mp hIn with hRead | hLeft
  · rw [hFront c hRead] at hControl
    cases hControl
  · exact hLeft

theorem consumes_cons
    {c : Char}
    {rest : List Char}
    (hC : isControl c = false) :
    Consumes (c :: rest) rest :=
  @consumes_append [c] rest (by simpa using hC)

theorem consumes_drop
    {front text : List Char}
    (hPrefix : front <+: text)
    (hFront : ∀ c ∈ front, isControl c = false) :
    Consumes text (text.drop front.length) := by
  rcases hPrefix with ⟨rest, hText⟩
  rw [← hText, List.drop_left]
  exact consumes_append hFront

theorem isControl_of_le
    {c : Char}
    (hC : ¬c < ' ') :
    isControl c = false := by
  simp [isControl, hC]

theorem isControl_of_isSpace
    {c : Char}
    (hC : isSpace c = true) :
    isControl c = false := by
  simp [isControl, hC]

theorem consumes_skipSpace
    (text : List Char) :
    Consumes text (skipSpace text) := by
  induction text with
  | nil => exact Consumes.refl _
  | cons c text ih =>
      unfold skipSpace at ih ⊢
      rw [List.dropWhile_cons]
      split
      next hSpace =>
        exact (consumes_cons (isControl_of_isSpace hSpace)).trans
          ih
      · exact Consumes.refl _

/- What is in front of a character that is read. -/
theorem consumes_of_skipSpace
    {text rest : List Char}
    {c : Char}
    (hSkip : skipSpace text = c :: rest)
    (hC : isControl c = false) :
    Consumes text rest := by
  have hText := consumes_skipSpace text
  rw [hSkip] at hText
  exact hText.trans (consumes_cons hC)

------------------------------------------------------------
-- Strings, Numbers And Literals
------------------------------------------------------------

section

variable {c : Char}
variable {text rest : List Char}

theorem isControl_of_isDigit
    (hDigit : c.isDigit = true) :
    isControl c = false := by
  apply isControl_of_le
  intro hLess
  have hRange : 48 ≤ c.val ∧ c.val ≤ 57 := by
    simpa [Char.isDigit] using hDigit
  have hLow : 48 ≤ c.val.toNat :=
    UInt32.le_iff_toNat_le.mp hRange.1
  have hHigh : c.val.toNat < 32 := hLess
  omega

theorem isControl_of_hexDigit?
    {digit : Nat}
    (hDigit : hexDigit? c = some digit) :
    isControl c = false := by
  apply isControl_of_le
  intro hLess
  have hSmall : ∀ low : Char, ' ' ≤ low → ¬low ≤ c := by
    intro low hLow hLe
    exact absurd hLess
      (Char.not_lt.mpr (Char.le_trans hLow hLe))
  unfold hexDigit? at hDigit
  rw [if_neg (fun hBoth => hSmall '0' (by decide) hBoth.1),
    if_neg (fun hBoth => hSmall 'a' (by decide) hBoth.1),
    if_neg (fun hBoth => hSmall 'A' (by decide) hBoth.1)]
    at hDigit
  cases hDigit

theorem isControl_of_hexCode?
    {a b c d : Char}
    {code : Nat}
    (hCode : hexCode? a b c d = some code) :
    ∀ digit ∈ [a, b, c, d], isControl digit = false := by
  unfold hexCode? at hCode
  simp only [Option.bind_eq_bind, Option.bind_eq_some_iff]
    at hCode
  rcases hCode with ⟨_, hA, _, hB, _, hC, _, hD, -⟩
  intro digit hDigit
  simp only [List.mem_cons, List.not_mem_nil, or_false]
    at hDigit
  rcases hDigit with hIs | hIs | hIs | hIs
  · exact hIs ▸ isControl_of_hexDigit? hA
  · exact hIs ▸ isControl_of_hexDigit? hB
  · exact hIs ▸ isControl_of_hexDigit? hC
  · exact hIs ▸ isControl_of_hexDigit? hD

theorem isControl_of_simpleEscape?
    {c escaped : Char}
    (hEscape : simpleEscape? c = some escaped) :
    isControl c = false := by
  unfold simpleEscape? at hEscape
  split at hEscape
  all_goals first
    | rfl
    | cases hEscape

theorem consumes_scanMore
    {code : Nat}
    {codes : List Nat}
    (hScan : scanMore code text = .ok (codes, rest))
    (hText :
      ∀ inner, scanString text = .ok (inner, rest) →
        Consumes text rest) :
    Consumes text rest := by
  rcases bind_eq_ok.mp hScan with ⟨scanned, hScanned, hSame⟩
  cases hSame
  exact hText scanned.1 hScanned

theorem scanString_consumes
    {codes : List Nat}
    (hScan : scanString text = .ok (codes, rest)) :
    Consumes text rest := by
  induction text using scanString.induct generalizing codes with
  | case1 => cases hScan
  | case2 text =>
      cases hScan
      exact consumes_cons rfl
  | case3 a b c d text hCode =>
      rw [scanString.eq_3, hCode] at hScan
      cases hScan
  | case4 a b c d text code hCode ih =>
      rw [scanString_unicode hCode] at hScan
      have hFront :
          Consumes (['\\', 'u', a, b, c, d] ++ text) text := by
        apply consumes_append
        rw [List.forall_mem_cons, List.forall_mem_cons]
        exact ⟨rfl, rfl, isControl_of_hexCode? hCode⟩
      exact hFront.trans (consumes_scanMore hScan (fun _ => ih))
  | case5 c text hNotUnicode hEscape =>
      rw [scanString.eq_4 c text hNotUnicode, hEscape] at hScan
      cases hScan
  | case6 c text hNotUnicode escaped hEscape ih =>
      rw [scanString_simple hEscape] at hScan
      have hFront : Consumes ('\\' :: c :: text) text :=
        (consumes_cons rfl).trans
          (consumes_cons (isControl_of_simpleEscape? hEscape))
      exact hFront.trans (consumes_scanMore hScan (fun _ => ih))
  | case7 text hQuote hUnicode hEscape =>
      rw [scanString.eq_5 '\\' text hQuote hUnicode hEscape]
        at hScan
      cases hScan
  | case8 c text hQuote hUnicode hEscape hNotEscape hControl =>
      rw [scanString.eq_5 c text hQuote hUnicode hEscape,
        if_neg hNotEscape, if_pos hControl] at hScan
      cases hScan
  | case9 c text hQuote hUnicode hEscape hNotEscape hPlain ih =>
      rw [scanString_plain hQuote hNotEscape hPlain] at hScan
      exact (consumes_cons (isControl_of_le hPlain)).trans
        (consumes_scanMore hScan (fun _ => ih))

/- Characters at the front of a text that are read. -/
def Front (front text : List Char) : Prop :=
  front <+: text ∧ ∀ c ∈ front, isControl c = false

theorem front_nil
    (text : List Char) :
    Front [] text :=
  ⟨List.nil_prefix, by simp⟩

theorem Front.consumes
    {front text : List Char}
    (hFront : Front front text) :
    Consumes text (text.drop front.length) :=
  consumes_drop hFront.1 hFront.2

theorem front_digits
    (text : List Char) :
    Front (text.takeWhile Char.isDigit) text := by
  refine ⟨List.takeWhile_prefix _, ?_⟩
  intro c hC
  exact isControl_of_isDigit (List.mem_takeWhile_imp hC)

theorem Front.cons
    {front text : List Char}
    (hC : isControl c = false)
    (hFront : Front front text) :
    Front (c :: front) (c :: text) := by
  refine ⟨List.cons_prefix_cons.mpr ⟨rfl, hFront.1⟩, ?_⟩
  rw [List.forall_mem_cons]
  exact ⟨hC, hFront.2⟩

theorem front_frontChar
    {wanted : Char → Bool}
    (hWanted : ∀ c, wanted c = true → isControl c = false)
    (text : List Char) :
    Front (frontChar wanted text) text := by
  cases text with
  | nil => exact front_nil _
  | cons c text =>
      simp only [frontChar]
      split
      next hC => exact (front_nil text).cons (hWanted c hC)
      · exact front_nil _

theorem front_scanInteger
    (text : List Char) :
    Front (scanInteger text) text := by
  unfold scanInteger
  split
  next hZero =>
    cases text with
    | nil => simp [frontChar] at hZero
    | cons c text =>
        simp only [frontChar] at hZero
        split at hZero
        next hIs =>
          rw [decide_eq_true_eq] at hIs
          rw [hIs]
          exact (front_nil text).cons rfl
        · exact absurd rfl hZero
  · exact front_digits text

theorem front_scanFraction
    (text : List Char) :
    Front (scanFraction text) text := by
  cases text with
  | nil => exact front_nil _
  | cons c text =>
      simp only [scanFraction]
      split
      next hPoint =>
        rw [hPoint.1]
        exact (front_digits text).cons rfl
      · exact front_nil _

theorem front_scanExponent
    (text : List Char) :
    Front (scanExponent text) text := by
  cases text with
  | nil => exact front_nil _
  | cons c text =>
      simp only [scanExponent]
      split
      next hLetter =>
        have hSign :
            Front
              (frontChar (fun c => c = '+' || c = '-') text)
              text := by
          apply front_frontChar
          intro sign hIs
          simp only [Bool.or_eq_true, decide_eq_true_eq] at hIs
          rcases hIs with hPlus | hMinus
          · rw [hPlus]
            rfl
          · rw [hMinus]
            rfl
        have hC : isControl c = false := by
          rcases hLetter.1 with hIs | hIs
          · rw [hIs]
            rfl
          · rw [hIs]
            rfl
        apply Front.cons hC
        rcases hSign.1 with ⟨rest, hText⟩
        generalize frontChar (fun c => c = '+' || c = '-')
          text = sign at hSign hText ⊢
        rw [← hText, List.drop_left]
        constructor
        · rw [List.prefix_append_right_inj]
          exact (front_digits rest).1
        · rw [List.forall_mem_append]
          exact ⟨hSign.2, (front_digits rest).2⟩
      · exact front_nil _

theorem scanNumber_consumes
    {value : Json}
    (hScan : scanNumber text = some (value, rest)) :
    Consumes text rest := by
  have hMinus :
      Front (frontChar (fun c => c = '-') text) text := by
    apply front_frontChar
    intro c hIs
    rw [of_decide_eq_true hIs]
    rfl
  unfold scanNumber at hScan
  simp only at hScan
  split at hScan
  · cases hScan
  · cases hScan
    exact hMinus.consumes.trans
      ((front_scanInteger _).consumes.trans
        ((front_scanFraction _).consumes.trans
          (front_scanExponent _).consumes))

theorem scanScalar_consumes
    {value : Json}
    (hScan : scanScalar text = some (value, rest)) :
    Consumes text rest := by
  unfold scanScalar at hScan
  cases hNumber : scanNumber text with
  | some scanned =>
      rw [hNumber] at hScan
      cases hScan
      exact scanNumber_consumes hNumber
  | none =>
      rw [hNumber] at hScan
      rcases scanLiteral_eq_some hScan with
        ⟨literal, hMember, hText, -⟩
      rw [hText]
      apply consumes_append
      have hLiterals :
          literals.all (fun literal =>
            literal.1.all (fun c => !isControl c)) = true := by
        decide
      intro c hC
      have hHere :=
        List.all_eq_true.mp
          (List.all_eq_true.mp hLiterals literal hMember) c hC
      simpa using hHere

end

------------------------------------------------------------
-- Values
------------------------------------------------------------

/- What the three readers leave. -/
structure Consuming (fuel : Nat) : Prop where
  value :
    ∀ {text value rest},
      parseValue fuel text = .ok (value, rest) →
        Consumes text rest
  members :
    ∀ {text members rest},
      parseMembers fuel text = .ok (members, rest) →
        Consumes text rest
  elements :
    ∀ {text elements rest},
      parseElements fuel text = .ok (elements, rest) →
        Consumes text rest

section

variable {fuel : Nat}
variable {text rest : List Char}

theorem parseValue_consumes
    (hFuel : Consuming fuel)
    {value : Json}
    (hParse : parseValue (fuel + 1) text = .ok (value, rest)) :
    Consumes text rest := by
  rw [parseValue.eq_def] at hParse
  simp only at hParse
  split at hParse
  next tail =>
    rcases bind_eq_ok.mp hParse with ⟨scanned, hScan, hSame⟩
    cases hSame
    exact (consumes_cons rfl).trans (scanString_consumes hScan)
  next tail =>
    refine (consumes_cons rfl).trans ?_
    split at hParse
    next inner hSkip =>
      cases hParse
      exact consumes_of_skipSpace hSkip rfl
    next inner hSkip =>
      rcases bind_eq_ok.mp hParse with ⟨parsed, hInner, hSame⟩
      cases hSame
      exact (consumes_of_skipSpace hSkip rfl).trans
        (hFuel.members hInner)
    · cases hParse
  next tail =>
    refine (consumes_cons rfl).trans ?_
    split at hParse
    next inner hSkip =>
      cases hParse
      exact consumes_of_skipSpace hSkip rfl
    next hOther =>
      rcases bind_eq_ok.mp hParse with ⟨parsed, hInner, hSame⟩
      cases hSame
      exact (consumes_skipSpace tail).trans
        (hFuel.elements hInner)
  next =>
    split at hParse
    next scanned hScan =>
      cases hParse
      exact scanScalar_consumes hScan
    · cases hParse

theorem parseMembers_consumes
    (hFuel : Consuming fuel)
    {members : List (List Nat × Json)}
    (hParse :
      parseMembers (fuel + 1) text = .ok (members, rest)) :
    Consumes text rest := by
  rw [parseMembers.eq_2] at hParse
  rcases bind_eq_ok.mp hParse with ⟨key, hKey, hAfterKey⟩
  refine (scanString_consumes hKey).trans ?_
  split at hAfterKey
  next afterColon hColon =>
    refine (consumes_of_skipSpace hColon rfl).trans ?_
    rcases bind_eq_ok.mp hAfterKey with
      ⟨value, hValue, hAfterValue⟩
    refine (consumes_skipSpace afterColon).trans
      ((hFuel.value hValue).trans ?_)
    split at hAfterValue
    next afterBrace hBrace =>
      cases hAfterValue
      exact consumes_of_skipSpace hBrace rfl
    next afterComma hComma =>
      refine (consumes_of_skipSpace hComma rfl).trans ?_
      split at hAfterValue
      next afterQuote hQuote =>
        rcases bind_eq_ok.mp hAfterValue with
          ⟨parsed, hInner, hSame⟩
        cases hSame
        exact (consumes_of_skipSpace hQuote rfl).trans
          (hFuel.members hInner)
      · cases hAfterValue
    · cases hAfterValue
  · cases hAfterKey

theorem parseElements_consumes
    (hFuel : Consuming fuel)
    {elements : List Json}
    (hParse :
      parseElements (fuel + 1) text = .ok (elements, rest)) :
    Consumes text rest := by
  rw [parseElements.eq_2] at hParse
  rcases bind_eq_ok.mp hParse with
    ⟨value, hValue, hAfterValue⟩
  refine (hFuel.value hValue).trans ?_
  split at hAfterValue
  next afterBracket hBracket =>
    cases hAfterValue
    exact consumes_of_skipSpace hBracket rfl
  next afterComma hComma =>
    rcases bind_eq_ok.mp hAfterValue with
      ⟨parsed, hInner, hSame⟩
    cases hSame
    exact (consumes_of_skipSpace hComma rfl).trans
      ((consumes_skipSpace afterComma).trans
        (hFuel.elements hInner))
  · cases hAfterValue

/- The induction is on the fuel of all three readers at once. -/
theorem parse_consumes
    (fuel : Nat) :
    Consuming fuel := by
  induction fuel with
  | zero =>
      refine ⟨?_, ?_, ?_⟩
      · intro text value rest hParse
        cases hParse
      · intro text members rest hParse
        cases hParse
      · intro text elements rest hParse
        cases hParse
  | succ fuel ih =>
      exact
        ⟨parseValue_consumes ih, parseMembers_consumes ih,
          parseElements_consumes ih⟩

/- No text with such a character is accepted. -/
theorem loads_controls
    {text : List Char}
    {value : Json}
    (hLoads : loads text = .ok value) :
    ∀ c ∈ text, isControl c = false := by
  rcases bind_eq_ok.mp hLoads with ⟨parsed, hParse, hEnd⟩
  split at hEnd
  next hNothing =>
    have hAll :=
      (consumes_skipSpace text).trans
        (((parse_consumes _).value hParse).trans
          (consumes_skipSpace parsed.2))
    rw [hNothing] at hAll
    intro c hC
    rw [← Bool.not_eq_true]
    intro hControl
    exact absurd (hAll c hControl hC) (by simp)
  · cases hEnd

end

------------------------------------------------------------
-- Bytes
------------------------------------------------------------

/- The bytes of a text in UTF-8. -/
def encode (text : List Char) : List UInt8 :=
  text.flatMap String.utf8EncodeChar

def loadsBytes (bytes : List UInt8) : Except String Json :=
  match bytes.toByteArray.utf8Decode? with
  | none => .error "'utf-8' codec can't decode"
  | some text => loads text.toList

theorem encode_append
    (text more : List Char) :
    encode (text ++ more) = encode text ++ encode more :=
  List.flatMap_append

theorem encode_flatten
    (texts : List (List Char)) :
    encode texts.flatten = (texts.map encode).flatten := by
  unfold encode
  rw [List.flatMap_def, List.map_flatten, List.flatten_flatten,
    List.map_map]
  rfl

theorem encode_intercalate
    (separator : List Char)
    (texts : List (List Char)) :
    encode (separator.intercalate texts) =
      (encode separator).intercalate (texts.map encode) := by
  induction texts with
  | nil => rfl
  | cons text texts ih =>
      by_cases hLast : texts = []
      · subst hLast
        simp
      · rw [List.intercalate_cons_of_ne_nil hLast, List.map_cons,
          List.intercalate_cons_of_ne_nil (by simpa using hLast),
          encode_append, encode_append, ih]

theorem loadsBytes_encode
    (text : List Char) :
    loadsBytes (encode text) = loads text := by
  have hDecode :
      (encode text).toByteArray.utf8Decode? =
        some text.toArray :=
    List.utf8Decode?_utf8Encode
  unfold loadsBytes
  rw [hDecode]

/- No byte of a character outside of ASCII is in ASCII. -/
theorem le_of_mem_utf8EncodeChar
    {c : Char}
    (hC : 128 ≤ c.toNat)
    {byte : UInt8}
    (hByte : byte ∈ String.utf8EncodeChar c) :
    128 ≤ byte.toNat := by
  unfold String.utf8EncodeChar at hByte
  simp only at hByte
  rw [if_neg (show ¬ c.val.toNat ≤ 0x7f from by
    change ¬ c.toNat ≤ 0x7f
    omega)] at hByte
  split at hByte
  · simp only [List.mem_cons, List.not_mem_nil, or_false]
      at hByte
    rcases hByte with hIs | hIs
    all_goals
      rw [hIs, UInt8.toNat_ofNat']
      omega
  · split at hByte
    · simp only [List.mem_cons, List.not_mem_nil, or_false]
        at hByte
      rcases hByte with hIs | hIs | hIs
      all_goals
        rw [hIs, UInt8.toNat_ofNat']
        omega
    · simp only [List.mem_cons, List.not_mem_nil, or_false]
        at hByte
      rcases hByte with hIs | hIs | hIs | hIs
      all_goals
        rw [hIs, UInt8.toNat_ofNat']
        omega

/-
  What is done to a text byte by byte is done to it character
  by character when only ASCII is changed.
-/
theorem flatMap_encode
    {change : UInt8 → List UInt8}
    {changeChar : Char → List Char}
    (hAscii :
      ∀ n < 128,
        change (UInt8.ofNat n) =
          encode (changeChar (Char.ofNat n)))
    (hByte : ∀ byte, 128 ≤ byte.toNat → change byte = [byte])
    (hChar : ∀ c, 128 ≤ c.toNat → changeChar c = [c])
    (text : List Char) :
    (encode text).flatMap change =
      encode (text.flatMap changeChar) := by
  induction text with
  | nil => rfl
  | cons c text ih =>
      have hHere :
          (String.utf8EncodeChar c).flatMap change =
            encode (changeChar c) := by
        by_cases hSmall : c.toNat < 128
        · have hBytes :
              String.utf8EncodeChar c = [UInt8.ofNat c.toNat] :=
            if_pos (Nat.lt_succ_iff.mp hSmall)
          rw [hBytes, List.flatMap_singleton,
            hAscii c.toNat hSmall, Char.ofNat_toNat]
        · have hLarge : 128 ≤ c.toNat := by
            omega
          have hSame :
              ∀ byte ∈ String.utf8EncodeChar c,
                change byte = [byte] :=
            fun byte hIn =>
              hByte byte (le_of_mem_utf8EncodeChar hLarge hIn)
          rw [hChar c hLarge, List.flatMap_congr hSame]
          simp [encode]
      rw [show encode (c :: text) =
          String.utf8EncodeChar c ++ encode text from rfl,
        List.flatMap_append, List.flatMap_cons, encode_append,
        hHere, ih]

------------------------------------------------------------
-- Escaped Texts
------------------------------------------------------------

/- No character is half of a pair. -/
theorem joinSurrogates_codesOf
    (text : List Char) :
    joinSurrogates (codesOf text) = codesOf text := by
  induction text with
  | nil => rfl
  | cons c text ih =>
      cases text with
      | nil => rfl
      | cons next text =>
          have hValid : c.toNat < 0xd800 ∨ 0xdfff < c.toNat := by
            rcases c.valid with hLow | hHigh
            · exact Or.inl hLow
            · exact Or.inr hHigh.1
          have hNot :
              ¬(0xd800 ≤ c.toNat ∧ c.toNat < 0xdc00 ∧
                0xdc00 ≤ next.toNat ∧ next.toNat < 0xe000) := by
            omega
          rw [show codesOf (c :: next :: text) =
              c.toNat :: next.toNat :: codesOf text from rfl,
            joinSurrogates, if_neg hNot]
          exact congrArg (c.toNat :: ·) ih

/- One character in front of what is spelled. -/
def SpellsChar (escaped : List Char) (c : Char) : Prop :=
  ∀ body codes, Spells body codes →
    Spells (escaped ++ body) (c.toNat :: codes)

theorem spells_flatMap
    {escape : Char → List Char}
    {text : List Char}
    (hEscape : ∀ c ∈ text, SpellsChar (escape c) c) :
    Spells (text.flatMap escape) (codesOf text) := by
  induction text with
  | nil => exact spells_nil
  | cons c text ih =>
      rw [List.forall_mem_cons] at hEscape
      rw [List.flatMap_cons]
      exact hEscape.1 _ _ (ih hEscape.2)

/- A string is read as the text it spells. -/
theorem denotes_text
    {body text : List Char}
    (hBody : Spells body (codesOf text)) :
    Denotes (quoted body) (.str (codesOf text)) := by
  intro fuel rest hFuel _
  cases fuel with
  | zero => simp [quoted] at hFuel
  | succ fuel =>
      have hText :
          quoted body ++ rest =
            '"' :: (body ++ '"' :: rest) := by
        simp [quoted]
      rw [hText, show skipSpace ('"' :: _) = '"' :: _ from rfl,
        parseValue.eq_2]
      refine bind_eq_ok.mpr ⟨_, hBody rest, ?_⟩
      rw [joinSurrogates_codesOf]

------------------------------------------------------------
-- Written Objects And Arrays
------------------------------------------------------------

def objectText (entries : List (String × List Char)) : List Char :=
  '{' ::
    (joined
      (entries.map (fun entry =>
        memberText entry.1.toList entry.2)) ++ ['}'])

def arrayText (texts : List (List Char)) : List Char :=
  '[' :: (joined texts ++ [']'])

/- A name that a writer puts out as it is. -/
def isMemberName (name : String) : Bool :=
  name.toList.all (fun c => isPlain c && c.toNat < 128)

/- A member under its name, and the value it is read as. -/
structure Written
    (entry : String × List Char)
    (member : List Nat × Json) : Prop where
  name : isMemberName entry.1 = true
  key : member.1 = codesOf entry.1.toList
  value : Denotes entry.2 member.2

theorem Written.denotesMember
    {entry : String × List Char}
    {member : List Nat × Json}
    (hEntry : Written entry member) :
    DenotesMember (entry.1.toList, entry.2) member := by
  have hChars :
      ∀ c ∈ entry.1.toList, isPlain c = true ∧ c.toNat < 128 := by
    intro c hC
    have hBoth := List.all_eq_true.mp hEntry.name c hC
    rw [Bool.and_eq_true, decide_eq_true_eq] at hBoth
    exact hBoth
  refine ⟨?_, ?_, hEntry.value⟩
  · rw [hEntry.key]
    exact spells_of_plain (fun c hC => (hChars c hC).1)
  · rw [hEntry.key]
    intro code hCode
    rcases List.mem_map.mp hCode with ⟨c, hC, hIs⟩
    have hSmall := (hChars c hC).2
    omega

theorem denotes_objectText
    {entries : List (String × List Char)}
    {members : List (List Nat × Json)}
    (hSome : entries ≠ [])
    (hMembers : List.Forall₂ Written entries members) :
    Denotes (objectText entries) (.obj members) := by
  apply denotes_object
  refine
    ⟨entries.map (fun entry => (entry.1.toList, entry.2)),
      by simpa using hSome, ?_, ?_⟩
  · rw [List.map_map]
    rfl
  · rw [List.forall₂_map_left_iff]
    exact hMembers.imp (fun _ _ hEntry => hEntry.denotesMember)

variable {texts : List (List Char)}
variable {c : Char}

theorem denotes_arrayText
    {elements : List Json}
    (hElements : List.Forall₂ Denotes texts elements) :
    Denotes (arrayText texts) (.arr elements) := by
  by_cases hSome : texts = []
  · subst hSome
    cases hElements
    exact denotes_nil_array
  · exact denotes_array ⟨texts, hSome, rfl, hElements⟩

theorem mem_joined
    {text : List Char}
    (hText : text ∈ texts)
    (hC : c ∈ text) :
    c ∈ joined texts := by
  induction texts with
  | nil => cases hText
  | cons first texts ih =>
      by_cases hLast : texts = []
      · subst hLast
        rw [List.mem_singleton.mp hText] at hC
        simpa [joined] using hC
      · rw [joined_cons first hLast, List.mem_append]
        rcases List.mem_cons.mp hText with hFirst | hRest
        · exact Or.inl (hFirst ▸ hC)
        · exact Or.inr (List.mem_cons_of_mem _ (ih hRest))

theorem mem_objectText
    {entries : List (String × List Char)}
    {entry : String × List Char}
    (hEntry : entry ∈ entries)
    (hC : c ∈ entry.2) :
    c ∈ objectText entries := by
  have hMember : c ∈ memberText entry.1.toList entry.2 :=
    List.mem_append_right _ (List.mem_cons_of_mem _ hC)
  have hJoined :=
    mem_joined
      (List.mem_map_of_mem
        (f := fun entry : String × List Char =>
          memberText entry.1.toList entry.2) hEntry) hMember
  exact List.mem_cons_of_mem _ (List.mem_append_left _ hJoined)

theorem mem_arrayText
    {text : List Char}
    (hText : text ∈ texts)
    (hC : c ∈ text) :
    c ∈ arrayText texts :=
  List.mem_cons_of_mem _
    (List.mem_append_left _ (mem_joined hText hC))

theorem mem_quoted
    {body : List Char}
    (hC : c ∈ body) :
    c ∈ quoted body :=
  List.mem_cons_of_mem _ (List.mem_append_left _ hC)

end Json
