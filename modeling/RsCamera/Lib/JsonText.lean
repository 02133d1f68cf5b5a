import RsCamera.Lib.Json

/-
  Texts that `json.loads` reads back.

  A text denotes a value when the reader takes it for the
  value wherever it stands in front of a delimiter.  Objects
  and arrays of such texts denote the objects and arrays of
  the values, and no part of an object that stops before its
  end is read.

  Main declarations:
    * `Json.Denotes`, `Json.Spells`
    * `Json.denotes_string`, `Json.denotes_int`
    * `Json.denotes_object`, `Json.denotes_array`
    * `Json.loads_of_denotes_append`, `Json.loads_of_denotes`
    * `Json.loads_of_take`
-/

------------------------------------------------------------
-- Texts Of Values
------------------------------------------------------------

namespace Json

/- The text is read as the value, before any delimiter. -/
def Denotes (text : List Char) (value : Json) : Prop :=
  ∀ fuel rest, 2 * text.length ≤ fuel →
    (rest = [] ∨ Delimited rest) →
      parseValue fuel (skipSpace (text ++ rest)) =
        .ok (value, rest)

/- The body of a string, without the quotes. -/
def Spells (body : List Char) (codes : List Nat) : Prop :=
  ∀ rest, scanString (body ++ '"' :: rest) = .ok (codes, rest)

def quoted (body : List Char) : List Char :=
  '"' :: (body ++ ['"'])

def memberText (name value : List Char) : List Char :=
  quoted name ++ ':' :: value

/- Texts with commas between them. -/
def joined (texts : List (List Char)) : List Char :=
  [','].intercalate texts

/- Characters that stand for themselves in a string. -/
def isPlain (c : Char) : Bool :=
  c ≠ '"' && c ≠ '\\' && ' ' ≤ c

theorem spells_nil : Spells [] [] := by
  intro rest
  rfl

section

variable {body : List Char}
variable {codes : List Nat}

theorem Spells.plain
    {c : Char}
    (hBody : Spells body codes)
    (hPlain : isPlain c = true) :
    Spells (c :: body) (c.toNat :: codes) := by
  intro rest
  simp only [isPlain, Bool.and_eq_true, decide_eq_true_eq]
    at hPlain
  rcases hPlain with ⟨⟨hQuote, hEscape⟩, hSpace⟩
  rw [List.cons_append,
    scanString_plain hQuote hEscape (Char.not_lt.mpr hSpace)]
  exact bind_eq_ok.mpr ⟨_, hBody rest, rfl⟩

theorem Spells.simple
    {c escaped : Char}
    (hBody : Spells body codes)
    (hEscape : simpleEscape? c = some escaped) :
    Spells ('\\' :: c :: body) (escaped.toNat :: codes) := by
  intro rest
  simp only [List.cons_append]
  rw [scanString_simple hEscape]
  exact bind_eq_ok.mpr ⟨_, hBody rest, rfl⟩

theorem Spells.unicode
    {a b c d : Char}
    {code : Nat}
    (hBody : Spells body codes)
    (hCode : hexCode? a b c d = some code) :
    Spells ('\\' :: 'u' :: a :: b :: c :: d :: body)
      (code :: codes) := by
  intro rest
  simp only [List.cons_append]
  rw [scanString_unicode hCode]
  exact bind_eq_ok.mpr ⟨_, hBody rest, rfl⟩

theorem spells_of_plain
    (hPlain : ∀ c ∈ body, isPlain c = true) :
    Spells body (codesOf body) := by
  induction body with
  | nil => exact spells_nil
  | cons c body ih =>
      rw [List.forall_mem_cons] at hPlain
      exact (ih hPlain.2).plain hPlain.1

/- Codes below the surrogates are their own text. -/
theorem joinSurrogates_of_lt
    (hCodes : ∀ code ∈ codes, code < 0xd800) :
    joinSurrogates codes = codes := by
  induction codes with
  | nil => rfl
  | cons code codes ih =>
      rw [List.forall_mem_cons] at hCodes
      cases codes with
      | nil => rfl
      | cons next codes =>
          have hLow : ¬ 0xd800 ≤ code := by omega
          rw [joinSurrogates, if_neg (by simp [hLow]),
            ih hCodes.2]

theorem denotes_string
    (hBody : Spells body codes)
    (hCodes : ∀ code ∈ codes, code < 0xd800) :
    Denotes (quoted body) (.str codes) := by
  intro fuel rest hFuel _
  cases fuel with
  | zero => simp [quoted] at hFuel
  | succ fuel =>
      have hText :
          quoted body ++ rest =
            '"' :: (body ++ '"' :: rest) := by
        simp [quoted]
      rw [hText, show skipSpace ('"' :: _) = '"' :: _ from rfl,
        parseValue.eq_2]
      refine bind_eq_ok.mpr ⟨_, hBody rest, ?_⟩
      rw [joinSurrogates_of_lt hCodes]

/- A text of plain characters is the string of its codes. -/
theorem denotes_plain
    (hPlain : ∀ c ∈ body, isPlain c = true)
    (hCodes : ∀ c ∈ body, c.toNat < 0xd800) :
    Denotes (quoted body) (.str (codesOf body)) := by
  apply denotes_string (spells_of_plain hPlain)
  intro code hCode
  rcases List.mem_map.mp hCode with ⟨c, hC, hIs⟩
  rw [← hIs]
  exact hCodes c hC

end

------------------------------------------------------------
-- Numbers And Literals
------------------------------------------------------------

theorem isDigit_of_mem_toDigits
    {n : Nat}
    {c : Char}
    (hC : c ∈ Nat.toDigits 10 n) :
    c.isDigit = true :=
  Nat.isDigit_of_mem_toDigits (by decide) (by decide) hC

/- No zero stands in front of a number. -/
theorem head_toDigits
    {n : Nat}
    (hPositive : 0 < n) :
    frontChar (fun c => c = '0') (Nat.toDigits 10 n) = [] := by
  induction n using Nat.strongRecOn with
  | ind n ih =>
      by_cases hSmall : n < 10
      · rw [Nat.toDigits_of_lt_base hSmall]
        have hDigits :
            ∀ digit < 10, 0 < digit →
              frontChar (fun c => c = '0')
                [Nat.digitChar digit] = [] := by
          decide
        exact hDigits n hSmall hPositive
      · have hLarge : 10 ≤ n := by
          omega
        rw [Nat.toDigits_of_base_le (by decide) hLarge,
          frontChar_append Nat.toDigits_ne_nil]
        exact ih (n / 10) (by omega) (by omega)

theorem not_isDigit_of_delimited
    {rest : List Char}
    (hRest : rest = [] ∨ Delimited rest) :
    ∀ c ∈ rest.head?,
      c.isDigit = false ∧ c ≠ '.' ∧ c ≠ 'e' ∧ c ≠ 'E' := by
  intro c hC
  rcases hRest with hNil | ⟨first, tail, hText, hDelimiter⟩
  · rw [hNil] at hC
    cases hC
  · rw [hText] at hC
    cases hC
    simp only [isDelimiter, isSpace, Bool.or_eq_true,
      decide_eq_true_eq] at hDelimiter
    rcases hDelimiter with
      (((((hIs | hIs) | hIs) | hIs) | hIs) | hIs) | hIs
    all_goals
      subst hIs
      decide

theorem scanInteger_toDigits
    (n : Nat)
    {rest : List Char}
    (hRest : ∀ c ∈ rest.head?, c.isDigit = false) :
    scanInteger (Nat.toDigits 10 n ++ rest) =
      Nat.toDigits 10 n := by
  unfold scanInteger
  rw [frontChar_append Nat.toDigits_ne_nil]
  by_cases hZero : n = 0
  · rw [hZero]
    rfl
  · rw [head_toDigits (Nat.pos_of_ne_zero hZero),
      if_neg (by simp),
      List.takeWhile_append_of_pos
        (fun c hC => isDigit_of_mem_toDigits hC)]
    have hStop : rest.takeWhile Char.isDigit = [] := by
      cases rest with
      | nil => rfl
      | cons c rest => simp [hRest c rfl]
    rw [hStop, List.append_nil]

theorem scanFraction_of_delimited
    {rest : List Char}
    (hRest : rest = [] ∨ Delimited rest) :
    scanFraction rest = [] := by
  have hHead := not_isDigit_of_delimited hRest
  cases rest with
  | nil => rfl
  | cons c rest =>
      simp only [scanFraction]
      rw [if_neg (by simp [(hHead c rfl).2.1])]

theorem scanExponent_of_delimited
    {rest : List Char}
    (hRest : rest = [] ∨ Delimited rest) :
    scanExponent rest = [] := by
  have hHead := not_isDigit_of_delimited hRest
  cases rest with
  | nil => rfl
  | cons c rest =>
      simp only [scanExponent]
      rw [if_neg (by simp [(hHead c rfl).2.2])]

/- The digits of a number, with or without a minus. -/
theorem scanNumber_toDigits
    (n : Nat)
    {minus rest : List Char}
    (hMinus :
      frontChar (fun c => c = '-')
          (minus ++ (Nat.toDigits 10 n ++ rest)) = minus)
    (hRest : rest = [] ∨ Delimited rest) :
    scanNumber (minus ++ (Nat.toDigits 10 n ++ rest)) =
      some
        (.int (if minus = [] then (n : Int) else -(n : Int)),
          rest) := by
  have hDigits :=
    scanInteger_toDigits n
      (fun c hC => (not_isDigit_of_delimited hRest c hC).1)
  unfold scanNumber
  simp only [hMinus, List.drop_left, hDigits,
    scanFraction_of_delimited hRest, List.length_nil,
    List.drop_zero, scanExponent_of_delimited hRest,
    Nat.toDigits_ne_nil, if_false, numberValue,
    Nat.ofDigitChars_ten_toDigits, and_self, if_true]

theorem denotes_scalar
    {text : List Char}
    {value : Json}
    {c : Char}
    {tail : List Char}
    (hText : text = c :: tail)
    (hSpace : isSpace c = false)
    (hString : c ≠ '"')
    (hObject : c ≠ '{')
    (hArray : c ≠ '[')
    (hScan :
      ∀ rest, (rest = [] ∨ Delimited rest) →
        scanScalar (text ++ rest) = some (value, rest)) :
    Denotes text value := by
  intro fuel rest hFuel hRest
  have hSkip : skipSpace (text ++ rest) = text ++ rest := by
    rw [hText]
    simp [skipSpace, hSpace]
  cases fuel with
  | zero => simp [hText] at hFuel
  | succ fuel =>
      rw [hSkip,
        parseValue.eq_5 (text ++ rest) fuel
          (fun _ hIs => hString (by rw [hText] at hIs; cases hIs; rfl))
          (fun _ hIs => hObject (by rw [hText] at hIs; cases hIs; rfl))
          (fun _ hIs => hArray (by rw [hText] at hIs; cases hIs; rfl)),
        hScan rest hRest]

theorem scanScalar_of_number
    {text rest : List Char}
    {value : Json}
    (hNumber : scanNumber text = some (value, rest)) :
    scanScalar text = some (value, rest) := by
  unfold scanScalar
  rw [hNumber]
  rfl

theorem denotes_nat
    (n : Nat) :
    Denotes (Nat.toDigits 10 n) (.int n) := by
  cases hDigits : Nat.toDigits 10 n with
  | nil => exact absurd hDigits Nat.toDigits_ne_nil
  | cons c tail =>
      have hDigit : c.isDigit = true := by
        apply isDigit_of_mem_toDigits (n := n)
        rw [hDigits]
        exact List.mem_cons_self ..
      have hNot :
          ∀ other : Char, other.isDigit = false → c ≠ other := by
        intro other hOther hIs
        rw [hIs, hOther] at hDigit
        cases hDigit
      apply denotes_scalar rfl
      · simp [isSpace, hNot ' ' rfl, hNot '\t' rfl,
          hNot '\n' rfl, hNot '\r' rfl]
      · exact hNot _ rfl
      · exact hNot _ rfl
      · exact hNot _ rfl
      · intro rest hRest
        apply scanScalar_of_number
        rw [← hDigits]
        apply @scanNumber_toDigits n [] rest _ hRest
        rw [hDigits]
        simp [frontChar, hNot '-' rfl]

theorem denotes_int
    (z : Int) :
    Denotes (toString z).toList (.int z) := by
  cases z with
  | ofNat n =>
      have hText :
          (toString (Int.ofNat n)).toList =
            Nat.toDigits 10 n :=
        Nat.toList_repr
      rw [hText]
      exact denotes_nat n
  | negSucc n =>
      have hText :
          (toString (Int.negSucc n)).toList =
            '-' :: Nat.toDigits 10 (n + 1) :=
        toList_toString_negSucc n
      apply denotes_scalar hText rfl (by decide) (by decide)
        (by decide)
      intro rest hRest
      apply scanScalar_of_number
      rw [hText]
      exact @scanNumber_toDigits (n + 1) ['-'] rest rfl hRest

theorem denotes_bool
    (value : Bool) :
    Denotes (if value then "true" else "false").toList
      (.bool value) := by
  cases value with
  | false =>
      exact denotes_scalar rfl rfl (by decide) (by decide)
        (by decide) (fun rest _ => rfl)
  | true =>
      exact denotes_scalar rfl rfl (by decide) (by decide)
        (by decide) (fun rest _ => rfl)

------------------------------------------------------------
-- Objects And Arrays
------------------------------------------------------------

theorem joined_cons
    (text : List Char)
    {texts : List (List Char)}
    (hTexts : texts ≠ []) :
    joined (text :: texts) = text ++ ',' :: joined texts := by
  unfold joined
  rw [List.intercalate_cons_of_ne_nil hTexts,
    List.append_assoc]
  rfl

theorem joined_append
    {texts more : List (List Char)}
    (hTexts : texts ≠ [])
    (hMore : more ≠ []) :
    joined (texts ++ more) = joined texts ++ ',' :: joined more := by
  induction texts with
  | nil => exact absurd rfl hTexts
  | cons text texts ih =>
      cases texts with
      | nil =>
          rw [List.singleton_append, joined_cons text hMore]
          simp [joined]
      | cons next texts =>
          rw [List.cons_append,
            joined_cons text (by simp),
            joined_cons text (by simp), ih (by simp)]
          simp

structure DenotesMember
    (entry : List Char × List Char)
    (member : List Nat × Json) : Prop where
  name : Spells entry.1 member.1
  codes : ∀ code ∈ member.1, code < 0xd800
  value : Denotes entry.2 member.2

/- Members with commas between them. -/
def DenotesMembers
    (text : List Char)
    (members : List (List Nat × Json)) : Prop :=
  ∃ entries : List (List Char × List Char),
    entries ≠ [] ∧
      text =
        joined
          (entries.map (fun entry =>
            memberText entry.1 entry.2)) ∧
      List.Forall₂ DenotesMember entries members

/- Elements with commas between them. -/
def DenotesElements
    (text : List Char)
    (elements : List Json) : Prop :=
  ∃ texts : List (List Char),
    texts ≠ [] ∧ text = joined texts ∧
      List.Forall₂ Denotes texts elements

theorem DenotesMember.members
    {name value : List Char}
    {member : List Nat × Json}
    (hMember : DenotesMember (name, value) member) :
    DenotesMembers (memberText name value) [member] := by
  refine ⟨[(name, value)], by simp, ?_, ?_⟩
  · simp [joined]
  · exact .cons hMember .nil

theorem DenotesMembers.append
    {text more : List Char}
    {members others : List (List Nat × Json)}
    (hText : DenotesMembers text members)
    (hMore : DenotesMembers more others) :
    DenotesMembers (text ++ ',' :: more) (members ++ others) := by
  rcases hText with ⟨entries, hSome, hIs, hMembers⟩
  rcases hMore with ⟨entries', hSome', hIs', hMembers'⟩
  refine ⟨entries ++ entries', by simp [hSome], ?_,
    List.rel_append hMembers hMembers'⟩
  rw [List.map_append, joined_append (by simpa using hSome)
    (by simpa using hSome'), hIs, hIs']

theorem Denotes.elements
    {text : List Char}
    {value : Json}
    (hText : Denotes text value) :
    DenotesElements text [value] :=
  ⟨[text], by simp, by simp [joined], .cons hText .nil⟩

theorem DenotesElements.append
    {text more : List Char}
    {elements others : List Json}
    (hText : DenotesElements text elements)
    (hMore : DenotesElements more others) :
    DenotesElements (text ++ ',' :: more)
      (elements ++ others) := by
  rcases hText with ⟨texts, hSome, hIs, hElements⟩
  rcases hMore with ⟨texts', hSome', hIs', hElements'⟩
  refine ⟨texts ++ texts', by simp [hSome], ?_,
    List.rel_append hElements hElements'⟩
  rw [joined_append hSome hSome', hIs, hIs']

/- Behind the opening quote of the first name. -/
theorem parseMembers_joined
    {entries : List (List Char × List Char)}
    {members : List (List Nat × Json)}
    (hMembers : List.Forall₂ DenotesMember entries members)
    (hSome : entries ≠ [])
    {fuel : Nat}
    (rest : List Char) :
    ∃ tail,
      joined
          (entries.map (fun entry =>
            memberText entry.1 entry.2)) =
        '"' :: tail ∧
      (2 * tail.length < fuel →
        parseMembers fuel (tail ++ '}' :: rest) =
          .ok (members, rest)) := by
  induction hMembers generalizing fuel with
  | nil => exact absurd rfl hSome
  | @cons entry member entries members hFirst hOthers ih =>
      have hKey := joinSurrogates_of_lt hFirst.codes
      by_cases hLast : entries = []
      · subst hLast
        cases hOthers
        refine
          ⟨entry.1 ++ '"' :: ':' :: entry.2, ?_, ?_⟩
        · simp [joined, memberText, quoted]
        · intro hFuel
          cases fuel with
          | zero => simp at hFuel
          | succ fuel =>
              have hValue :=
                hFirst.value fuel ('}' :: rest)
                  (by simp at hFuel ⊢; omega)
                  (Or.inr ⟨'}', rest, rfl, rfl⟩)
              simp only [List.append_assoc, List.cons_append]
              rw [parseMembers.eq_2]
              refine bind_eq_ok.mpr
                ⟨_, hFirst.name _, ?_⟩
              simp only
              rw [show skipSpace (':' :: _) = ':' :: _ from rfl]
              refine bind_eq_ok.mpr ⟨_, hValue, ?_⟩
              rw [hKey]
              rfl
      · rcases @ih hLast (fuel - 1) with ⟨tail, hTail, hInner⟩
        refine
          ⟨entry.1 ++ '"' :: ':' :: (entry.2 ++
            ',' :: '"' :: tail), ?_, ?_⟩
        · rw [List.map_cons, joined_cons _ (by simpa using hLast),
            hTail]
          simp [memberText, quoted]
        · intro hFuel
          cases fuel with
          | zero => simp at hFuel
          | succ fuel =>
              have hValue :=
                hFirst.value fuel
                  (',' :: '"' :: (tail ++ '}' :: rest))
                  (by simp at hFuel ⊢; omega)
                  (Or.inr ⟨',', _, rfl, rfl⟩)
              have hRest := hInner (by simp at hFuel ⊢; omega)
              simp only [List.append_assoc, List.cons_append]
              rw [parseMembers.eq_2]
              refine bind_eq_ok.mpr
                ⟨_, hFirst.name _, ?_⟩
              simp only
              rw [show skipSpace (':' :: _) = ':' :: _ from rfl]
              refine bind_eq_ok.mpr ⟨_, hValue, ?_⟩
              rw [hKey]
              exact bind_eq_ok.mpr ⟨_, hRest, rfl⟩

theorem denotes_object
    {text : List Char}
    {members : List (List Nat × Json)}
    (hText : DenotesMembers text members) :
    Denotes ('{' :: (text ++ ['}'])) (.obj members) := by
  rcases hText with ⟨entries, hSome, hIs, hMembers⟩
  intro fuel rest hFuel _
  cases fuel with
  | zero => simp at hFuel
  | succ fuel =>
      rcases @parseMembers_joined _ _ hMembers hSome fuel rest with
        ⟨tail, hTail, hParse⟩
      rw [hIs, hTail] at hFuel ⊢
      have hRead := hParse (by simp at hFuel ⊢; omega)
      simp only [List.cons_append, List.append_assoc,
        List.nil_append]
      rw [show skipSpace ('{' :: _) = '{' :: _ from rfl,
        parseValue.eq_3,
        show skipSpace ('"' :: _) = '"' :: _ from rfl]
      exact bind_eq_ok.mpr ⟨_, hRead, rfl⟩

/- No value starts with a closing bracket. -/
theorem parseValue_bracket
    (fuel : Nat)
    (rest : List Char)
    (result : Json × List Char) :
    parseValue fuel (']' :: rest) ≠ .ok result := by
  intro hParse
  cases fuel with
  | zero => cases hParse
  | succ fuel => cases hParse

theorem parseElements_joined
    {texts : List (List Char)}
    {elements : List Json}
    (hElements : List.Forall₂ Denotes texts elements)
    (hSome : texts ≠ [])
    {fuel : Nat}
    (rest : List Char)
    (hFuel : 2 * (joined texts).length < fuel) :
    parseElements fuel
        (skipSpace (joined texts ++ ']' :: rest)) =
      .ok (elements, rest) := by
  induction hElements generalizing fuel with
  | nil => exact absurd rfl hSome
  | @cons text element texts elements hFirst hOthers ih =>
      cases fuel with
      | zero => simp at hFuel
      | succ fuel =>
          rw [parseElements.eq_2]
          by_cases hLast : texts = []
          · subst hLast
            cases hOthers
            have hText : joined [text] = text := by
              simp [joined]
            rw [hText] at hFuel ⊢
            refine bind_eq_ok.mpr
              ⟨_, hFirst fuel (']' :: rest) (by omega)
                (Or.inr ⟨']', rest, rfl, rfl⟩), rfl⟩
          · rw [joined_cons text hLast] at hFuel ⊢
            rw [List.length_append, List.length_cons] at hFuel
            simp only [List.append_assoc, List.cons_append]
            refine bind_eq_ok.mpr
              ⟨_, hFirst fuel _ (by omega)
                (Or.inr ⟨',', _, rfl, rfl⟩), ?_⟩
            simp only
            rw [show skipSpace (',' :: _) = ',' :: _ from rfl]
            exact bind_eq_ok.mpr
              ⟨_, ih hLast (by omega), rfl⟩

theorem denotes_array
    {text : List Char}
    {elements : List Json}
    (hText : DenotesElements text elements) :
    Denotes ('[' :: (text ++ [']'])) (.arr elements) := by
  rcases hText with ⟨texts, hSome, hIs, hElements⟩
  intro fuel rest hFuel _
  cases fuel with
  | zero => simp at hFuel
  | succ fuel =>
      have hRead :
          parseElements fuel
              (skipSpace (joined texts ++ ']' :: rest)) =
            .ok (elements, rest) := by
        apply parseElements_joined hElements hSome rest
        rw [← hIs]
        simp at hFuel ⊢
        omega
      rw [hIs]
      simp only [List.cons_append, List.append_assoc,
        List.nil_append]
      rw [show skipSpace ('[' :: _) = '[' :: _ from rfl,
        parseValue.eq_4]
      split
      next inner hBracket =>
        rw [hBracket] at hRead
        cases fuel with
        | zero => cases hRead
        | succ fuel =>
            rcases bind_eq_ok.mp hRead with ⟨value, hValue, -⟩
            exact absurd hValue (parseValue_bracket fuel _ _)
      · exact bind_eq_ok.mpr ⟨_, hRead, rfl⟩

theorem denotes_nil_array : Denotes ['[', ']'] (.arr []) := by
  intro fuel rest hFuel _
  cases fuel with
  | zero => simp at hFuel
  | succ fuel => rfl

------------------------------------------------------------
-- Whole Texts
------------------------------------------------------------

/- White space may follow, such as the end of the line. -/
theorem loads_of_denotes_append
    {text space : List Char}
    {value : Json}
    (hText : Denotes text value)
    (hSpace : ∀ c ∈ space, isSpace c = true) :
    loads (text ++ space) = .ok value := by
  have hAfter : space = [] ∨ Delimited space := by
    cases space with
    | nil => exact Or.inl rfl
    | cons c rest =>
        have hC := hSpace c List.mem_cons_self
        exact Or.inr ⟨c, rest, rfl, by simp [isDelimiter, hC]⟩
  have hParse :=
    hText (2 * (text ++ space).length + 2) space
      (by rw [List.length_append]; omega) hAfter
  have hRest : skipSpace space = [] :=
    List.dropWhile_eq_nil_iff.mpr hSpace
  exact bind_eq_ok.mpr ⟨_, hParse, if_pos hRest⟩

theorem loads_of_denotes
    {text : List Char}
    {value : Json}
    (hText : Denotes text value) :
    loads text = .ok value := by
  have hLoads :=
    @loads_of_denotes_append text [] value hText (by simp)
  rw [List.append_nil] at hLoads
  exact hLoads

/- What starts with a brace is an object. -/
theorem parseValue_brace
    {fuel : Nat}
    {text rest : List Char}
    {value : Json}
    (hParse : parseValue fuel ('{' :: text) = .ok (value, rest)) :
    value.closed = true := by
  cases fuel with
  | zero => cases hParse
  | succ fuel =>
      rw [parseValue.eq_3] at hParse
      split at hParse
      · cases hParse
        rfl
      · rcases bind_eq_ok.mp hParse with ⟨parsed, -, hIs⟩
        cases hIs
        rfl
      · cases hParse

/-
  An object that was cut off is not read: the rest of its text
  would be left over behind what was read.
-/
theorem loads_of_take
    {text : List Char}
    {value : Json}
    (hText : Denotes ('{' :: text) value)
    {n : Nat}
    (hCut : n < ('{' :: text).length)
    (result : Json) :
    loads (('{' :: text).take n) ≠ .ok result := by
  intro hLoads
  rcases bind_eq_ok.mp hLoads with ⟨parsed, hParse, hEnd⟩
  cases n with
  | zero => cases hParse
  | succ n =>
      rw [List.take_succ_cons,
        show skipSpace ('{' :: _) = '{' :: _ from rfl] at hParse
      have hMore :=
        parseValue_append hParse (parseValue_brace hParse)
          (text.drop n)
          (show _ ≤ 2 * (text.length + 1) + 2 by
            simp only [List.length_cons, List.length_take]
            omega)
      have hWhole :=
        hText (2 * (text.length + 1) + 2) [] (by simp)
          (Or.inl rfl)
      rw [List.cons_append, List.take_append_drop] at hMore
      rw [List.append_nil,
        show skipSpace ('{' :: _) = '{' :: _ from rfl,
        hMore] at hWhole
      have hNothing : parsed.2 ++ text.drop n = [] :=
        congrArg Prod.snd (Except.ok.inj hWhole)
      have hDrop := (List.append_eq_nil_iff.mp hNothing).2
      rw [List.drop_eq_nil_iff] at hDrop
      simp at hCut
      omega

end Json
