import RsCamera.Lib.JsonBytes
import RsCamera.Trace.Emit

/-
  What the text of an event is.

  Wherever the strings of a line stop, the whole text is an
  object, and its first members say which event it was.  What
  was written of it is accepted by `json.loads` exactly if it
  was written to the end.

  Key definitions include:
    * `Renders`
    * `Carries`, `EventText`

  Key theorems include:
    * `renders_textFrom`
    * `Event.eventText`
    * `Event.loads_line_iff`
-/

------------------------------------------------------------
-- The Text As An Object
------------------------------------------------------------

namespace RsCamera

namespace Emit

section

open Json (Spells Denotes DenotesMember DenotesMembers
  DenotesElements codesOf memberText quoted)

/-
  The texts that appends can write wherever they start: a
  string may stop early, but it is a string.
-/
inductive Renders : List Append → List Char → Prop
| nil : Renders [] []
| fmt
    {text : List Char}
    {rest : List Append}
    {more : List Char}
    (hRest : Renders rest more) :
    Renders (.fmt text :: rest) (text ++ more)
| json
    {s : Option (List UInt8)}
    {rest : List Append}
    {text more : List Char}
    {codes : List Nat}
    (hText : Denotes text (.str codes))
    (hRest : Renders rest more) :
    Renders (.json s :: rest) (text ++ more)

theorem renders_textFrom
    (position : Nat)
    (appends : List Append) :
    Renders appends (textFrom position appends) := by
  induction appends generalizing position with
  | nil => exact .nil
  | cons append rest ih =>
      rw [textFrom]
      cases append with
      | fmt text => exact .fmt (ih _)
      | json s =>
          rcases denotes_json position s with ⟨codes, hText⟩
          exact .json hText (ih _)

theorem Renders.of_nil
    {text : List Char}
    (hText : Renders [] text) :
    text = [] := by
  cases hText
  rfl

theorem Renders.of_fmt
    {fixed text : List Char}
    {rest : List Append}
    (hText : Renders (.fmt fixed :: rest) text) :
    ∃ more, text = fixed ++ more ∧ Renders rest more := by
  cases hText with
  | fmt hRest => exact ⟨_, rfl, hRest⟩

theorem Renders.of_json
    {s : Option (List UInt8)}
    {text : List Char}
    {rest : List Append}
    (hText : Renders (.json s :: rest) text) :
    ∃ written codes more,
      text = written ++ more ∧ Denotes written (.str codes) ∧
        Renders rest more := by
  cases hText with
  | json hString hRest => exact ⟨_, _, _, rfl, hString, hRest⟩

theorem Renders.split
    {appends more : List Append}
    {text : List Char}
    (hText : Renders (appends ++ more) text) :
    ∃ front back,
      text = front ++ back ∧ Renders appends front ∧
        Renders more back := by
  induction appends generalizing text with
  | nil => exact ⟨[], text, rfl, .nil, hText⟩
  | cons append rest ih =>
      cases hText with
      | fmt hRest =>
          rcases ih hRest with
            ⟨front, back, hIs, hFront, hBack⟩
          exact ⟨_, back, by rw [hIs, List.append_assoc],
            .fmt hFront, hBack⟩
      | json hString hRest =>
          rcases ih hRest with
            ⟨front, back, hIs, hFront, hBack⟩
          exact ⟨_, back, by rw [hIs, List.append_assoc],
            .json hString hFront, hBack⟩

/-
  The same texts of a line that may fit: there a string that is
  not at the end of the line is whole.
-/
inductive Spelled (fits : Prop) :
    List Append → List Char → Prop
| nil : Spelled fits [] []
| fmt
    {text : List Char}
    {rest : List Append}
    {more : List Char}
    (hRest : Spelled fits rest more) :
    Spelled fits (.fmt text :: rest) (text ++ more)
| json
    {s : Option (List UInt8)}
    {rest : List Append}
    {text more : List Char}
    {codes : List Nat}
    (hText : Denotes text (.str codes))
    (hWhole :
      fits → 6 ≤ more.length →
        codes = (s.getD []).map UInt8.toNat)
    (hRest : Spelled fits rest more) :
    Spelled fits (.json s :: rest) (text ++ more)

section Spelled

variable {fits : Prop}

theorem Spelled.of_nil
    {text : List Char}
    (hText : Spelled fits [] text) :
    text = [] := by
  cases hText
  rfl

theorem Spelled.of_fmt
    {fixed text : List Char}
    {rest : List Append}
    (hText : Spelled fits (.fmt fixed :: rest) text) :
    ∃ more, text = fixed ++ more ∧ Spelled fits rest more := by
  cases hText with
  | fmt hRest => exact ⟨_, rfl, hRest⟩

theorem Spelled.of_json
    {s : Option (List UInt8)}
    {text : List Char}
    {rest : List Append}
    (hText : Spelled fits (.json s :: rest) text) :
    ∃ written codes more,
      text = written ++ more ∧ Denotes written (.str codes) ∧
        (fits → 6 ≤ more.length →
          codes = (s.getD []).map UInt8.toNat) ∧
        Spelled fits rest more := by
  cases hText with
  | json hString hWhole hRest =>
      exact ⟨_, _, _, rfl, hString, hWhole, hRest⟩

theorem Spelled.split
    {appends more : List Append}
    {text : List Char}
    (hText : Spelled fits (appends ++ more) text) :
    ∃ front back,
      text = front ++ back ∧ Spelled fits appends front ∧
        Spelled fits more back := by
  induction appends generalizing text with
  | nil => exact ⟨[], text, rfl, .nil, hText⟩
  | cons append rest ih =>
      cases hText with
      | fmt hRest =>
          rcases ih hRest with
            ⟨front, back, hIs, hFront, hBack⟩
          exact ⟨_, back, by rw [hIs, List.append_assoc],
            .fmt hFront, hBack⟩
      | json hString hWhole hRest =>
          rcases ih hRest with
            ⟨front, back, hIs, hFront, hBack⟩
          refine ⟨_, back, by rw [hIs, List.append_assoc],
            .json hString ?_ hFront, hBack⟩
          -- What follows in the front follows in the text.
          intro hFits hMore
          apply hWhole hFits
          rw [hIs, List.length_append]
          omega

theorem Renders.spelled
    {appends : List Append}
    {text : List Char}
    (hText : Renders appends text) :
    Spelled False appends text := by
  induction hText with
  | nil => exact .nil
  | fmt _ ih => exact .fmt ih
  | json hString _ ih =>
      exact .json hString (fun hFalse => hFalse.elim) ih

end Spelled

/- A string that ends before the reserve is whole. -/
theorem spells_whole
    {position : Nat}
    {bytes : List UInt8}
    (hEnd : bytesEnd position bytes < traceLineSize - 8) :
    Spells (bytesText position bytes)
      (bytes.map UInt8.toNat) := by
  induction bytes generalizing position with
  | nil => exact Json.spells_nil
  | cons c rest ih =>
      have hRoom : position < traceLineSize - 8 := by
        by_contra hNone
        rw [bytesEnd, if_neg hNone] at hEnd
        exact hNone hEnd
      rw [bytesEnd, if_pos hRoom, ← length_escape] at hEnd
      rw [bytesText, if_pos hRoom, List.map_cons]
      exact spells_escape c (ih hEnd)

theorem spelled_textFrom
    (position : Nat)
    (appends : List Append) :
    Spelled (lineEnd position appends ≤ traceLineSize - 2)
      appends (textFrom position appends) := by
  induction appends generalizing position with
  | nil => exact .nil
  | cons append rest ih =>
      rw [textFrom]
      cases append with
      | fmt text => exact .fmt (ih _)
      | json s =>
          have hNext :
              position + ((Append.json s).text position).length =
                bytesEnd (position + 1) (s.getD []) + 1 := by
            simp only [Append.text, quoted, bytesEnd_eq,
              List.length_cons, List.length_append,
              List.length_nil]
            omega
          have hRest := ih (bytesEnd (position + 1)
            (s.getD []) + 1)
          rw [hNext]
          by_cases hEnd :
              bytesEnd (position + 1) (s.getD []) <
                traceLineSize - 8
          · refine .json (denotes_codes (spells_whole hEnd)) ?_
              hRest
            intro _ _
            rfl
          · rcases denotes_json position s with ⟨codes, hText⟩
            refine .json hText ?_ hRest
            -- The line has no room for what follows.
            intro hFits hMore
            rw [lineEnd, lineEnd_eq] at hFits
            simp only [traceLineSize] at hFits hEnd
            omega

/- A name that is written out in the source. -/
def isName (name : String) : Bool :=
  name.toList.all (fun c => Json.isPlain c && isVisible c)

theorem denotesMembers_named
    {name : String}
    (hName : isName name = true)
    {text : List Char}
    {value : Json}
    (hText : Denotes text value) :
    DenotesMembers (memberText name.toList text)
      [(codesOf name.toList, value)] := by
  have hMember : Json.isMemberName name = true := by
    refine List.all_eq_true.mpr ?_
    intro c hC
    have hBoth := List.all_eq_true.mp hName c hC
    rw [Bool.and_eq_true] at hBoth ⊢
    have hHigh := toNat_le_of_isVisible hBoth.2
    exact ⟨hBoth.1, decide_eq_true (by omega)⟩
  have hWritten :
      Json.Written (name, text) (codesOf name.toList, value) :=
    ⟨hMember, rfl, hText⟩
  exact hWritten.denotesMember.members

/- The names that say which event it was. -/
def identityNames : List (List Nat) :=
  ["timestamp_ns", "tid", "caller_tid", "pthread_value"].map
    (fun name => codesOf name.toList)

def isLaterName (name : String) : Bool :=
  isName name &&
    !identityNames.contains (codesOf name.toList)

/- The text of members with other names. -/
def LaterText (text : List Char) : Prop :=
  ∃ members,
    DenotesMembers text members ∧
      ∀ member ∈ members, member.1 ∉ identityNames

theorem LaterText.append
    {text more : List Char}
    (hText : LaterText text)
    (hMore : LaterText more) :
    LaterText (text ++ ',' :: more) := by
  rcases hText with ⟨members, hMembers, hLater⟩
  rcases hMore with ⟨others, hOthers, hLater'⟩
  refine ⟨members ++ others, hMembers.append hOthers, ?_⟩
  rw [List.forall_mem_append]
  exact ⟨hLater, hLater'⟩

theorem not_mem_identityNames
    {name : String}
    (hName : isLaterName name = true) :
    codesOf name.toList ∉ identityNames := by
  simpa [isLaterName] using
    (Bool.and_eq_true_iff.mp hName).2

theorem laterText_named
    {name : String}
    (hName : isLaterName name = true)
    {text : List Char}
    {value : Json}
    (hText : Denotes text value) :
    LaterText (memberText name.toList text) := by
  have hIsName := (Bool.and_eq_true_iff.mp hName).1
  refine ⟨_, denotesMembers_named hIsName hText, ?_⟩
  intro member hMember
  rw [List.mem_singleton.mp hMember]
  exact not_mem_identityNames hName

/- The members of a place. -/
def placeMembers
    (module offset symbol : String)
    (fname sname : List Nat) :
    Option Place → List (List Nat × Json)
| none => []
| some place =>
    [(codesOf module.toList, .str fname),
      (codesOf offset.toList,
        .str (codesOf (pointer place.offset))),
      (codesOf symbol.toList, .str sname)]

/- The path that is read is the one that was written. -/
def Address.ReadAs
    (addr : Address)
    (fits : Prop)
    (fname : List Nat) : Prop :=
  fits → ∀ place, addr.place = some place →
    fname = place.fname.map UInt8.toNat

section Spelled

variable {fits : Prop}

theorem Spelled.place
    {module offset symbol : String}
    (hModule : isName module = true)
    (hOffset : isName offset = true)
    (hSymbol : isName symbol = true)
    {place : Place}
    {text : List Char}
    (hText :
      Spelled fits
        [.fmt (',' :: (quoted module.toList ++ [':'])),
          .json (some place.fname),
          .fmt
            (',' :: memberText offset.toList
              (quoted (pointer place.offset))),
          .fmt (',' :: (quoted symbol.toList ++ [':'])),
          .json (some place.sname)]
        text) :
    ∃ inner fname sname,
      text = ',' :: inner ∧
        DenotesMembers inner
          (placeMembers module offset symbol fname sname
            (some place)) ∧
        (fits → fname = place.fname.map UInt8.toNat) := by
  rcases hText.of_fmt with ⟨_, hIs₁, hText⟩
  rcases hText.of_json with
    ⟨_, fname, _, hIs₂, hFname, hWhole, hText⟩
  rcases hText.of_fmt with ⟨_, hIs₃, hText⟩
  rcases hText.of_fmt with ⟨_, hIs₄, hText⟩
  rcases hText.of_json with ⟨_, sname, _, hIs₅, hSname, -, hNil⟩
  refine ⟨_, fname, sname, ?_,
    (denotesMembers_named hModule hFname).append
      ((denotesMembers_named hOffset
        (denotes_pointer place.offset)).append
        (denotesMembers_named hSymbol hSname)), ?_⟩
  · rw [hIs₁, hIs₂, hIs₃, hIs₄, hIs₅, hNil.of_nil]
    simp [memberText]
  · intro hFits
    apply hWhole hFits
    rw [hIs₃]
    simp [memberText, quoted]
    omega

theorem Spelled.address
    {addr : Address}
    {text : List Char}
    (hText :
      Spelled fits (appendAddressInfo "entry" addr) text) :
    ∃ fname sname,
      DenotesMembers text
          ((codesOf "entry_address".toList,
              .str (codesOf (pointer addr.value))) ::
            placeMembers "entry_module" "entry_module_offset"
              "entry_symbol" fname sname addr.place) ∧
        addr.ReadAs fits fname := by
  have hAddress :=
    @denotesMembers_named "entry_address" rfl _ _
      (denotes_pointer addr.value)
  rcases hText.split with ⟨front, back, hIs, hFront, hBack⟩
  rcases hFront.of_fmt with ⟨_, hIs', hNil⟩
  have hFrontIs :
      front =
        memberText "entry_address".toList
          (quoted (pointer addr.value)) := by
    rw [hIs', hNil.of_nil]
    simp [memberText, quoted]
  rw [hIs, hFrontIs]
  cases hPlace : addr.place with
  | none =>
      rw [hPlace] at hBack
      rw [hBack.of_nil, List.append_nil]
      refine ⟨[], [], hAddress, ?_⟩
      intro _ place hSome
      rw [hPlace] at hSome
      cases hSome
  | some place =>
      rw [hPlace] at hBack
      rcases @Spelled.place fits "entry_module"
          "entry_module_offset" "entry_symbol" rfl rfl rfl
          place back (by simpa [memberText, quoted] using hBack)
        with ⟨inner, fname, sname, hInner, hMembers, hWhole⟩
      rw [hInner]
      refine ⟨fname, sname, hAddress.append hMembers, ?_⟩
      intro hFits found hFound
      rw [hPlace] at hFound
      cases hFound
      exact hWhole hFits

/- The object of a frame. -/
def frameObject
    (frame : Address)
    (fname sname : List Nat) : Json :=
  .obj
    ((codesOf "address".toList,
        .str (codesOf (pointer frame.value))) ::
      placeMembers "module" "module_offset" "symbol" fname
        sname frame.place)

def Address.FrameOf
    (frame : Address)
    (fits : Prop)
    (value : Json) : Prop :=
  ∃ fname sname,
    value = frameObject frame fname sname ∧
      frame.ReadAs fits fname

theorem Spelled.frame
    {frame : Address}
    {text : List Char}
    (hText : Spelled fits (appendFrame frame) text) :
    ∃ value,
      Denotes text value ∧ frame.FrameOf fits value := by
  have hAddress :=
    @denotesMembers_named "address" rfl _ _
      (denotes_pointer frame.value)
  rcases hText.split with ⟨front, close, hIs, hFront, hClose⟩
  rcases hFront.split with ⟨opening, back, hIs', hOpen, hBack⟩
  rcases hOpen.of_fmt with ⟨_, hIs₁, hNil⟩
  rcases hClose.of_fmt with ⟨_, hIs₂, hNil'⟩
  have hOpenIs :
      opening =
        '{' :: memberText "address".toList
          (quoted (pointer frame.value)) := by
    rw [hIs₁, hNil.of_nil]
    simp [memberText, quoted]
  have hTextIs :
      text =
        '{' :: (memberText "address".toList
          (quoted (pointer frame.value)) ++ back ++ ['}']) := by
    rw [hIs, hIs', hOpenIs, hIs₂, hNil'.of_nil]
    simp
  rw [hTextIs]
  cases hPlace : frame.place with
  | none =>
      rw [hPlace] at hBack
      refine ⟨frameObject frame [] [], ?_, [], [], rfl, ?_⟩
      · rw [hBack.of_nil, List.append_nil, frameObject, hPlace]
        exact Json.denotes_object hAddress
      · intro _ place hSome
        rw [hPlace] at hSome
        cases hSome
  | some place =>
      rw [hPlace] at hBack
      rcases @Spelled.place fits "module" "module_offset"
          "symbol" rfl rfl rfl place back
          (by simpa [memberText, quoted] using hBack)
        with ⟨inner, fname, sname, hInner, hMembers, hWhole⟩
      refine ⟨frameObject frame fname sname, ?_, fname, sname,
        rfl, ?_⟩
      · rw [hInner, frameObject, hPlace]
        exact Json.denotes_object (hAddress.append hMembers)
      · intro hFits found hFound
        rw [hPlace] at hFound
        cases hFound
        exact hWhole hFits

end Spelled

end

------------------------------------------------------------
-- The Stack And The Events
------------------------------------------------------------

open Json (Denotes DenotesMembers DenotesElements codesOf
  memberText quoted)

section Spelled

variable {fits : Prop}

/- The frames behind others, each with a comma before it. -/
theorem Spelled.frames
    {frames : List Address}
    {index : Nat}
    (hIndex : index ≠ 0)
    {before text : List Char}
    {elements : List Json}
    (hBefore : DenotesElements before elements)
    (hText :
      Spelled fits
        ((frames.zipIdx index).flatMap (fun entry =>
          (if entry.2 ≠ 0 then [.fmt ",".toList] else []) ++
            appendFrame entry.1))
        text) :
    ∃ more,
      DenotesElements (before ++ text) (elements ++ more) ∧
        List.Forall₂ (fun frame => frame.FrameOf fits) frames
          more := by
  induction frames generalizing index before text elements with
  | nil =>
      rw [hText.of_nil, List.append_nil]
      refine ⟨[], ?_, .nil⟩
      rw [List.append_nil]
      exact hBefore
  | cons frame frames ih =>
      rw [List.zipIdx_cons, List.flatMap_cons,
        if_pos hIndex] at hText
      rcases hText.split with
        ⟨front, back, hIs, hFront, hBack⟩
      rcases hFront.of_fmt with ⟨own, hOwn, hFrame⟩
      rcases hFrame.frame with ⟨value, hValue, hIsFrame⟩
      have hNext := hBefore.append hValue.elements
      rcases ih (Nat.succ_ne_zero index) hNext hBack with
        ⟨more, hMore, hFrames⟩
      refine ⟨value :: more, ?_, .cons hIsFrame hFrames⟩
      rw [hIs, hOwn]
      simpa using hMore

theorem Spelled.stack
    {frames : List Address}
    {text : List Char}
    (hText : Spelled fits (appendStack frames) text) :
    ∃ elements,
      DenotesMembers text
          [(codesOf "stack".toList, .arr elements)] ∧
        List.Forall₂ (fun frame => frame.FrameOf fits) frames
          elements := by
  rcases hText.split with ⟨front, close, hIs, hFront, hClose⟩
  rcases hFront.split with ⟨opening, inner, hIs', hOpen, hInner⟩
  rcases hOpen.of_fmt with ⟨_, hIs₁, hNil⟩
  rcases hClose.of_fmt with ⟨_, hIs₂, hNil'⟩
  have hTextIs :
      text =
        memberText "stack".toList
          ('[' :: (inner ++ [']'])) := by
    rw [hIs, hIs', hIs₁, hNil.of_nil, hIs₂, hNil'.of_nil]
    simp [memberText, quoted]
  have hArray :
      ∃ elements,
        Denotes ('[' :: (inner ++ [']'])) (.arr elements) ∧
          List.Forall₂ (fun frame => frame.FrameOf fits) frames
            elements := by
    cases frames with
    | nil =>
        rw [hInner.of_nil]
        exact ⟨_, Json.denotes_nil_array, .nil⟩
    | cons frame frames =>
        rw [List.zipIdx_cons, List.flatMap_cons] at hInner
        rcases hInner.split with
          ⟨own, back, hOwn, hFrame, hBack⟩
        rcases hFrame.frame with ⟨value, hValue, hIsFrame⟩
        rcases hBack.frames (by decide) hValue.elements with
          ⟨more, hMore, hFrames⟩
        rw [← hOwn] at hMore
        exact ⟨_, Json.denotes_array hMore,
          .cons hIsFrame hFrames⟩
  rcases hArray with ⟨elements, hValue, hFrames⟩
  rw [hTextIs]
  exact ⟨elements, denotesMembers_named rfl hValue, hFrames⟩

end Spelled

theorem Renders.address
    {addr : Address}
    {text : List Char}
    (hText : Renders (appendAddressInfo "entry" addr) text) :
    LaterText text := by
  rcases hText.spelled.address with
    ⟨fname, sname, hMembers, -⟩
  refine ⟨_, hMembers, ?_⟩
  intro member hMember
  cases hPlace : addr.place with
  | none =>
      rw [hPlace] at hMember
      cases List.mem_singleton.mp hMember
      exact @not_mem_identityNames "entry_address" rfl
  | some place =>
      rw [hPlace] at hMember
      simp only [placeMembers, List.mem_cons,
        List.not_mem_nil, or_false] at hMember
      rcases hMember with hIs | hIs | hIs | hIs
      · subst hIs
        exact @not_mem_identityNames "entry_address" rfl
      · subst hIs
        exact @not_mem_identityNames "entry_module" rfl
      · subst hIs
        exact @not_mem_identityNames "entry_module_offset" rfl
      · subst hIs
        exact @not_mem_identityNames "entry_symbol" rfl

def Event.timestampNs : Event → UInt64
| .pthreadCreate event => event.timestampNs
| .threadStart event => event.startNs
| .threadExit event => event.timestampNs
| .threadName event => event.timestampNs

/- The member that names the caller. -/
def Event.tidName : Event → String
| .pthreadCreate _ => "caller_tid"
| .threadStart _ => "tid"
| .threadExit _ => "tid"
| .threadName _ => "caller_tid"

def Event.tid : Event → Int32
| .pthreadCreate event => event.callerTid
| .threadStart event => event.tid
| .threadExit event => event.tid
| .threadName event => event.callerTid

def Event.pthreadValue : Event → UInt64
| .pthreadCreate event => event.pthreadValue
| .threadStart event => event.pthreadValue
| .threadExit event => event.pthreadValue
| .threadName event => event.pthreadValue

/- A dictionary that says which event it was. -/
structure Carries
    (event : Event)
    (members : List (List Nat × Json)) : Prop where
  timestamp :
    Json.member members "timestamp_ns" =
      some (.int event.timestampNs.toNat)
  tid :
    Json.member members event.tidName =
      some (.int event.tid.toInt)
  pthread :
    Json.member members "pthread_value" =
      some (.str (codesOf (pointer event.pthreadValue)))

/- The text of an object that carries the event. -/
def EventText (event : Event) (text : List Char) : Prop :=
  ∃ inner members,
    text = '{' :: (inner ++ ['}']) ∧
      DenotesMembers inner members ∧ Carries event members

theorem member_append
    (members : List (List Nat × Json))
    {later : List (List Nat × Json)}
    (hLater : ∀ member ∈ later, member.1 ∉ identityNames)
    {name : String}
    (hName : codesOf name.toList ∈ identityNames) :
    Json.member (members ++ later) name =
      Json.member members name := by
  unfold Json.member
  rw [List.reverse_append, List.lookup_append]
  have hNone :
      later.reverse.lookup (codesOf name.toList) = none := by
    rw [List.lookup_eq_none_iff]
    intro member hMember
    rw [List.mem_reverse] at hMember
    rw [bne_iff_ne]
    intro hIs
    exact hLater member hMember (hIs ▸ hName)
  rw [hNone, Option.none_or]

theorem Event.tidName_mem
    (event : Event) :
    codesOf event.tidName.toList ∈ identityNames := by
  have hCases :
      event.tidName = "tid" ∨ event.tidName = "caller_tid" := by
    cases event with
    | pthreadCreate event => exact Or.inr rfl
    | threadStart event => exact Or.inl rfl
    | threadExit event => exact Or.inl rfl
    | threadName event => exact Or.inr rfl
  rcases hCases with hIs | hIs
  · rw [hIs]
    decide
  · rw [hIs]
    decide

/- The first members carry the event. -/
theorem eventText_of_front
    {event : Event}
    {front later : List Char}
    {members : List (List Nat × Json)}
    (hFront : DenotesMembers front members)
    (hCarries : Carries event members)
    (hLater : LaterText later) :
    EventText event
      ('{' :: (front ++ ',' :: later ++ ['}'])) := by
  rcases hLater with ⟨others, hOthers, hNames⟩
  refine ⟨_, _, rfl, hFront.append hOthers, ?_, ?_, ?_⟩
  · rw [member_append members hNames (by decide)]
    exact hCarries.timestamp
  · rw [member_append members hNames event.tidName_mem]
    exact hCarries.tid
  · rw [member_append members hNames (by decide)]
    exact hCarries.pthread

theorem denotesMembers_event
    {kind : String}
    (hKind : isName kind = true) :
    DenotesMembers
      (memberText "event".toList (quoted kind.toList))
      [(codesOf "event".toList, .str (codesOf kind.toList))] := by
  have hChars :
      ∀ c ∈ kind.toList,
        Json.isPlain c = true ∧ isVisible c = true := by
    intro c hC
    have hBoth := List.all_eq_true.mp hKind c hC
    rwa [Bool.and_eq_true] at hBoth
  apply denotesMembers_named rfl
  exact Json.denotes_plain (fun c hC => (hChars c hC).1)
    (fun c hC => toNat_lt_of_isVisible (hChars c hC).2)

theorem ThreadName.eventText
    {event : ThreadName}
    {text : List Char}
    (hText : Renders event.appends text) :
    EventText (.threadName event) text := by
  rcases hText.of_fmt with ⟨_, hIs₁, hText⟩
  rcases hText.of_json with ⟨_, _, _, hIs₂, hName, hText⟩
  rcases hText.of_fmt with ⟨_, hIs₃, hNil⟩
  have hFront :=
    (@denotesMembers_event "thread_name" rfl).append
      ((@denotesMembers_named "timestamp_ns" rfl _ _
          (Json.denotes_int event.timestampNs.toNat)).append
        ((@denotesMembers_named "caller_tid" rfl _ _
            (Json.denotes_int event.callerTid.toInt)).append
          (@denotesMembers_named "pthread_value" rfl _ _
            (denotes_pointer event.pthreadValue))))
  have hTid :
      ∀ members : List (List Nat × Json),
        Json.member members (Event.threadName event).tidName =
          Json.member members "caller_tid" :=
    fun members => rfl
  have hLater :=
    (@laterText_named "result" rfl _ _
        (Json.denotes_int event.result.toInt)).append
      (@laterText_named "name" rfl _ _ hName)
  have hEvent :=
    @eventText_of_front (.threadName event) _ _ _ hFront
      ⟨rfl, hTid _, rfl⟩ hLater
  rw [hIs₁, hIs₂, hIs₃, hNil.of_nil]
  simpa [memberText, quoted, decimal] using hEvent

/- The members of a creation. -/
def PthreadCreate.members
    (event : PthreadCreate)
    (fname sname : List Nat)
    (elements : List Json) : List (List Nat × Json) :=
  [(codesOf "event".toList,
      .str (codesOf "pthread_create".toList)),
    (codesOf "timestamp_ns".toList,
      .int event.timestampNs.toNat),
    (codesOf "return_timestamp_ns".toList,
      .int event.returnTimestampNs.toNat),
    (codesOf "caller_tid".toList, .int event.callerTid.toInt),
    (codesOf "pthread_value".toList,
      .str (codesOf (pointer event.pthreadValue)))] ++
    ((codesOf "entry_address".toList,
        .str (codesOf (pointer event.entry.value))) ::
      placeMembers "entry_module" "entry_module_offset"
        "entry_symbol" fname sname event.entry.place) ++
    [(codesOf "arg_address".toList,
        .str (codesOf (pointer event.arg))),
      (codesOf "result".toList, .int event.result.toInt),
      (codesOf "success".toList, .bool (event.result = 0)),
      (codesOf "stack".toList, .arr elements)]

section Spelled

variable {fits : Prop}

theorem Spelled.pthreadCreate
    {event : PthreadCreate}
    {text : List Char}
    (hText : Spelled fits event.appends text) :
    ∃ inner fname sname elements,
      text = '{' :: (inner ++ ['}']) ∧
        DenotesMembers inner
          (event.members fname sname elements) ∧
        event.entry.ReadAs fits fname ∧
        List.Forall₂ (fun frame => frame.FrameOf fits)
          event.frames elements := by
  rcases hText.split with ⟨_, _, hIs₁, hText, hClose⟩
  rcases hText.split with ⟨_, _, hIs₂, hText, hStack⟩
  rcases hText.split with ⟨_, _, hIs₃, hText, hMiddle⟩
  rcases hText.split with ⟨_, _, hIs₄, hOpen, hAddress⟩
  rcases hOpen.of_fmt with ⟨_, hIs₅, hComma⟩
  rcases hComma.of_fmt with ⟨_, hIs₆, hNil₁⟩
  rcases hMiddle.of_fmt with ⟨_, hIs₇, hNil₂⟩
  rcases hClose.of_fmt with ⟨_, hIs₈, hNil₃⟩
  rcases hAddress.address with
    ⟨fname, sname, hEntry, hReadAs⟩
  rcases hStack.stack with ⟨elements, hElements, hFrames⟩
  have hFront :=
    (@denotesMembers_event "pthread_create" rfl).append
      ((@denotesMembers_named "timestamp_ns" rfl _ _
          (Json.denotes_int event.timestampNs.toNat)).append
        ((@denotesMembers_named "return_timestamp_ns" rfl _ _
            (Json.denotes_int
              event.returnTimestampNs.toNat)).append
          ((@denotesMembers_named "caller_tid" rfl _ _
              (Json.denotes_int event.callerTid.toInt)).append
            (@denotesMembers_named "pthread_value" rfl _ _
              (denotes_pointer event.pthreadValue)))))
  have hBack :=
    (@denotesMembers_named "arg_address" rfl _ _
        (denotes_pointer event.arg)).append
      ((@denotesMembers_named "result" rfl _ _
          (Json.denotes_int event.result.toInt)).append
        ((@denotesMembers_named "success" rfl _ _
            (Json.denotes_bool (event.result = 0))).append
          hElements))
  refine ⟨_, fname, sname, elements, ?_,
    (hFront.append hEntry).append hBack, hReadAs, hFrames⟩
  rw [hIs₁, hIs₂, hIs₃, hIs₄, hIs₅, hIs₆, hIs₇, hIs₈,
    hNil₁.of_nil, hNil₂.of_nil, hNil₃.of_nil]
  simp [memberText, quoted, decimal]

end Spelled

theorem PthreadCreate.eventText
    {event : PthreadCreate}
    {text : List Char}
    (hText : Renders event.appends text) :
    EventText (.pthreadCreate event) text := by
  rcases hText.spelled.pthreadCreate with
    ⟨inner, fname, sname, elements, hIs, hMembers, -, -⟩
  have hTid :
      ∀ members : List (List Nat × Json),
        Json.member members
            (Event.pthreadCreate event).tidName =
          Json.member members "caller_tid" :=
    fun members => rfl
  refine ⟨inner, _, hIs, hMembers, ?_⟩
  unfold PthreadCreate.members
  cases event.entry.place with
  | none => exact ⟨rfl, hTid _, rfl⟩
  | some place => exact ⟨rfl, hTid _, rfl⟩

/- The first members of a start and of an exit. -/
theorem denotesMembers_thread
    {kind : String}
    (hKind : isName kind = true)
    (timestampNs : UInt64)
    (tid parentTid : Int32)
    (pthreadValue : UInt64) :
    DenotesMembers
      (memberText "event".toList (quoted kind.toList) ++
        ',' :: (memberText "timestamp_ns".toList
            (decimal timestampNs.toNat) ++
          ',' :: (memberText "tid".toList (decimal tid.toInt) ++
            ',' :: (memberText "parent_tid".toList
                (decimal parentTid.toInt) ++
              ',' :: memberText "pthread_value".toList
                (quoted (pointer pthreadValue))))))
      [(codesOf "event".toList, .str (codesOf kind.toList)),
        (codesOf "timestamp_ns".toList, .int timestampNs.toNat),
        (codesOf "tid".toList, .int tid.toInt),
        (codesOf "parent_tid".toList, .int parentTid.toInt),
        (codesOf "pthread_value".toList,
          .str (codesOf (pointer pthreadValue)))] :=
  (denotesMembers_event hKind).append
    ((denotesMembers_named rfl
        (Json.denotes_int timestampNs.toNat)).append
      ((denotesMembers_named rfl
          (Json.denotes_int tid.toInt)).append
        ((denotesMembers_named rfl
            (Json.denotes_int parentTid.toInt)).append
          (denotesMembers_named rfl
            (denotes_pointer pthreadValue)))))

/- The first format, member by member. -/
theorem ThreadStart.opening
    (event : ThreadStart) :
    ("\x7b\"event\":\"thread_start\",\"timestamp_ns\":".toList ++
      decimal event.startNs.toNat ++
      ",\"tid\":".toList ++ decimal event.tid.toInt ++
      ",\"parent_tid\":".toList ++
      decimal event.parentTid.toInt ++
      ",\"pthread_value\":\"".toList ++
      pointer event.pthreadValue ++ "\",".toList) =
    '{' :: (memberText "event".toList
        (quoted "thread_start".toList) ++
      ',' :: (memberText "timestamp_ns".toList
          (decimal event.startNs.toNat) ++
        ',' :: (memberText "tid".toList
            (decimal event.tid.toInt) ++
          ',' :: (memberText "parent_tid".toList
              (decimal event.parentTid.toInt) ++
            ',' :: (memberText "pthread_value".toList
              (quoted (pointer event.pthreadValue)) ++
              [',']))))) := by
  simp [memberText, quoted]

theorem ThreadStart.eventText
    {event : ThreadStart}
    {text : List Char}
    (hText : Renders event.appends text) :
    EventText (.threadStart event) text := by
  rcases hText.split with ⟨_, _, hIs₁, hText, hEnd⟩
  rcases hText.split with ⟨_, _, hIs₂, hOpen, hAddress⟩
  rcases hOpen.of_fmt with ⟨_, hIs₃, hNil₁⟩
  rcases hEnd.of_fmt with ⟨_, hIs₄, hEnd⟩
  rcases hEnd.of_json with ⟨_, _, _, hIs₅, hSignature, hEnd⟩
  rcases hEnd.of_fmt with ⟨_, hIs₆, hEnd⟩
  rcases hEnd.of_json with ⟨_, _, _, hIs₇, hName, hEnd⟩
  rcases hEnd.of_fmt with ⟨_, hIs₈, hNil₂⟩
  have hFront :=
    @denotesMembers_thread "thread_start" rfl event.startNs
      event.tid event.parentTid event.pthreadValue
  have hTid :
      ∀ members : List (List Nat × Json),
        Json.member members (Event.threadStart event).tidName =
          Json.member members "tid" :=
    fun members => rfl
  have hLater :=
    hAddress.address.append
      ((@laterText_named "arg_address" rfl _ _
          (denotes_pointer event.arg)).append
        ((@laterText_named "create_timestamp_ns" rfl _ _
            (Json.denotes_int
              event.createTimestampNs.toNat)).append
          ((@laterText_named "creation_sequence" rfl _ _
              (Json.denotes_int
                event.creationSequence.toNat)).append
            ((@laterText_named "signature" rfl _ _
                hSignature).append
              (@laterText_named "name" rfl _ _ hName)))))
  have hEvent :=
    @eventText_of_front (.threadStart event) _ _ _ hFront
      ⟨rfl, hTid _, rfl⟩ hLater
  rw [hIs₁, hIs₂, hIs₃, event.opening, hIs₄, hIs₅, hIs₆, hIs₇,
    hIs₈, hNil₁.of_nil, hNil₂.of_nil]
  simp only [memberText, List.append_assoc, List.cons_append,
    List.nil_append] at hEvent ⊢
  simpa [quoted, decimal] using hEvent

theorem ThreadExit.eventText
    {event : ThreadExit}
    {text : List Char}
    (hText : Renders event.appends text) :
    EventText (.threadExit event) text := by
  rcases hText.split with ⟨_, _, hIs₁, hText, hEnd⟩
  rcases hText.split with ⟨_, _, hIs₂, hOpen, hAddress⟩
  rcases hOpen.of_fmt with ⟨_, hIs₃, hComma⟩
  rcases hComma.of_fmt with ⟨_, hIs₄, hNil₁⟩
  rcases hEnd.of_fmt with ⟨_, hIs₅, hEnd⟩
  rcases hEnd.of_json with ⟨_, _, _, hIs₆, hKind, hEnd⟩
  rcases hEnd.of_fmt with ⟨_, hIs₇, hEnd⟩
  rcases hEnd.of_json with ⟨_, _, _, hIs₈, hName, hEnd⟩
  rcases hEnd.of_fmt with ⟨_, hIs₉, hNil₂⟩
  have hFront :=
    @denotesMembers_thread "thread_exit" rfl event.timestampNs
      event.tid event.parentTid event.pthreadValue
  have hTid :
      ∀ members : List (List Nat × Json),
        Json.member members (Event.threadExit event).tidName =
          Json.member members "tid" :=
    fun members => rfl
  have hLater :=
    hAddress.address.append
      ((@laterText_named "retval" rfl _ _
          (denotes_pointer event.retval)).append
        ((@laterText_named "lifetime_ns" rfl _ _
            (Json.denotes_int event.lifetimeNs.toNat)).append
          ((@laterText_named "exit_kind" rfl _ _ hKind).append
            (@laterText_named "name" rfl _ _ hName))))
  have hEvent :=
    @eventText_of_front (.threadExit event) _ _ _ hFront
      ⟨rfl, hTid _, rfl⟩ hLater
  rw [hIs₁, hIs₂, hIs₃, hIs₄, hIs₅, hIs₆, hIs₇, hIs₈, hIs₉,
    hNil₁.of_nil, hNil₂.of_nil]
  simpa [memberText, quoted, decimal] using hEvent

theorem Event.eventText
    (event : Event) :
    EventText event event.text := by
  have hText := renders_textFrom 0 event.appends
  cases event with
  | pthreadCreate event => exact PthreadCreate.eventText hText
  | threadStart event => exact ThreadStart.eventText hText
  | threadExit event => exact ThreadExit.eventText hText
  | threadName event => exact ThreadName.eventText hText

/- What a line holds is read if and only if it holds it all. -/
theorem Event.loads_line_iff
    (event : Event) :
    (∃ value,
        Json.loads (event.text.take (traceLineSize - 2)) =
          .ok value) ↔
      event.width ≤ traceLineSize - 2 := by
  rcases event.eventText with
    ⟨inner, members, hIs, hMembers, -⟩
  have hDenotes := Json.denotes_object hMembers
  rw [event.width_eq, hIs]
  constructor
  · intro hLoads
    rcases hLoads with ⟨read, hRead⟩
    by_contra hLong
    exact Json.loads_of_take hDenotes (Nat.lt_of_not_le hLong)
      _ hRead
  · intro hFits
    rw [List.take_of_length_le hFits]
    exact ⟨_, Json.loads_of_denotes hDenotes⟩

end Emit

end RsCamera
