import RsCamera.Lib.JsonBytes
import RsCamera.Scheduler.Apply

/-
  What was applied, as one object of JSON
  (`deadline_application_json` and
  `rate_monotonic_application_json`).

  The strings of the source are bytes, and `escape_json`
  changes five of them.  All others are put out as they are,
  so that a control character in a name reaches the text.

  Key definitions include:
    * `escapeJson`
    * `deadlineApplicationJson`
    * `rateMonotonicApplicationJson`
    * `DeadlineApplication.value`, `DeadlineApplication.texts`

  Key theorems include:
    * `escapeJson_encode`
    * `applicationJson_iff`
-/

------------------------------------------------------------
-- The Writers
------------------------------------------------------------

namespace RsCamera

namespace Scheduler

/- The bytes of a string. -/
def bytes (text : String) : List UInt8 :=
  Json.encode text.toList

/- What `escape_json` writes for a byte. -/
def escapeByte (character : UInt8) : List UInt8 :=
  if character.toNat = '\\'.toNat then
    bytes "\\\\"
  else if character.toNat = '"'.toNat then
    bytes "\\\""
  else if character.toNat = '\n'.toNat then
    bytes "\\n"
  else if character.toNat = '\r'.toNat then
    bytes "\\r"
  else if character.toNat = '\t'.toNat then
    bytes "\\t"
  else
    [character]

/- `escape_json`. -/
def escapeJson (value : List UInt8) : List UInt8 :=
  value.flatMap escapeByte

/- A truth value in JSON. -/
def boolText (value : Bool) : String :=
  if value then "true" else "false"

/- An entry of the deadline report. -/
def deadlineAssignmentJson
    (entry : Assignment DeadlineParameters) : List UInt8 :=
  [bytes "\x7b\"tid\":", bytes (toString entry.tid),
    bytes ",\"signature\":\"", escapeJson (bytes entry.signature),
    bytes "\",\"instance\":", bytes (toString entry.instanceNumber),
    bytes ",\"name\":\"", escapeJson (bytes entry.name),
    bytes "\",\"runtime_ns\":",
    bytes (toString entry.parameters.runtimeNs),
    bytes ",\"deadline_ns\":",
    bytes (toString entry.parameters.deadlineNs),
    bytes ",\"period_ns\":",
    bytes (toString entry.parameters.periodNs),
    bytes ",\"applied\":", bytes (boolText entry.applied),
    bytes ",\"errno\":", bytes (toString entry.errorNumber),
    bytes "\x7d"].flatten

/- The count of signals is a global of the source. -/
def deadlineApplicationJson
    (overrunSignals : Nat)
    (result : DeadlineApplication) : List UInt8 :=
  [bytes "\x7b\"profile_path\":\"",
    escapeJson (bytes result.profilePath),
    bytes "\",\"profile_entries\":",
    bytes (toString result.profileEntries),
    bytes ",\"live_threads\":",
    bytes (toString result.liveThreads),
    bytes ",\"unassigned_live_threads\":",
    bytes (toString result.unassignedLiveThreads),
    bytes ",\"partial_profile\":",
    bytes (boolText result.partialProfile),
    bytes ",\"overrun_signals\":", bytes (toString overrunSignals),
    bytes ",\"assignments\":[",
    (bytes ",").intercalate
      (result.assignments.map deadlineAssignmentJson),
    bytes "]\x7d"].flatten

/- An entry of the fixed-priority report. -/
def rateMonotonicAssignmentJson
    (entry : Assignment FixedPriority) : List UInt8 :=
  [bytes "\x7b\"tid\":", bytes (toString entry.tid),
    bytes ",\"signature\":\"", escapeJson (bytes entry.signature),
    bytes "\",\"instance\":", bytes (toString entry.instanceNumber),
    bytes ",\"name\":\"", escapeJson (bytes entry.name),
    bytes "\",\"period_ns\":",
    bytes (toString entry.parameters.periodNs),
    bytes ",\"priority\":",
    bytes (toString entry.parameters.priority),
    bytes ",\"applied\":", bytes (boolText entry.applied),
    bytes ",\"errno\":", bytes (toString entry.errorNumber),
    bytes "\x7d"].flatten

/- The fixed-priority report. -/
def rateMonotonicApplicationJson
    (result : RateMonotonicApplication) : List UInt8 :=
  [bytes "\x7b\"profile_path\":\"",
    escapeJson (bytes result.profilePath),
    bytes "\",\"policy\":\"", escapeJson (bytes result.policy),
    bytes "\",\"highest_priority\":",
    bytes (toString result.highestPriority),
    bytes ",\"lowest_priority\":",
    bytes (toString result.lowestPriority),
    bytes ",\"priority_levels\":",
    bytes (toString result.priorityLevels),
    bytes ",\"profile_entries\":",
    bytes (toString result.profileEntries),
    bytes ",\"live_threads\":",
    bytes (toString result.liveThreads),
    bytes ",\"assignments\":[",
    (bytes ",").intercalate
      (result.assignments.map rateMonotonicAssignmentJson),
    bytes "]\x7d"].flatten

------------------------------------------------------------
-- Escaped Strings
------------------------------------------------------------

/- The escapes, as characters. -/
def escapeChar (character : Char) : List Char :=
  if character = '\\' then
    "\\\\".toList
  else if character = '"' then
    "\\\"".toList
  else if character = '\n' then
    "\\n".toList
  else if character = '\r' then
    "\\r".toList
  else if character = '\t' then
    "\\t".toList
  else
    [character]

/- A text whose characters are escaped. -/
def escapeText (text : String) : List Char :=
  text.toList.flatMap escapeChar

theorem escapeByte_of_le
    {byte : UInt8}
    (hByte : 128 ≤ byte.toNat) :
    escapeByte byte = [byte] := by
  have hNot : ∀ c : Char, c.toNat < 128 → byte.toNat ≠ c.toNat := by
    intro c hC
    omega
  unfold escapeByte
  rw [if_neg (hNot _ (by decide)), if_neg (hNot _ (by decide)),
    if_neg (hNot _ (by decide)), if_neg (hNot _ (by decide)),
    if_neg (hNot _ (by decide))]

theorem escapeChar_of_le
    {c : Char}
    (hC : 128 ≤ c.toNat) :
    escapeChar c = [c] := by
  have hNot : ∀ other : Char, other.toNat < 128 → c ≠ other := by
    intro other hOther hIs
    rw [hIs] at hC
    omega
  unfold escapeChar
  rw [if_neg (hNot _ (by decide)), if_neg (hNot _ (by decide)),
    if_neg (hNot _ (by decide)), if_neg (hNot _ (by decide)),
    if_neg (hNot _ (by decide))]

theorem escapeByte_ascii :
    ∀ n < 128,
      escapeByte (UInt8.ofNat n) =
        Json.encode (escapeChar (Char.ofNat n)) := by
  decide +kernel

/- Escaping bytes of UTF-8 is escaping the characters. -/
theorem escapeJson_bytes
    (text : String) :
    escapeJson (bytes text) = Json.encode (escapeText text) :=
  Json.flatMap_encode escapeByte_ascii
    (fun _ hByte => escapeByte_of_le hByte)
    (fun _ hC => escapeChar_of_le hC) text.toList

theorem isPlain_of_isControl
    {c : Char}
    (hControl : Json.isControl c = false)
    (hBackslash : c ≠ '\\')
    (hQuote : c ≠ '"')
    (hLine : c ≠ '\n')
    (hReturn : c ≠ '\r')
    (hTab : c ≠ '\t') :
    Json.isPlain c = true := by
  simp only [Json.isControl, Json.isSpace, Bool.and_eq_false_iff,
    decide_eq_false_iff_not, Bool.not_eq_false', Bool.or_eq_true,
    decide_eq_true_eq, hLine, hReturn, hTab, or_false]
    at hControl
  simp only [Json.isPlain, Bool.and_eq_true, decide_eq_true_eq]
  refine ⟨⟨hQuote, hBackslash⟩, ?_⟩
  rcases hControl with hNot | hIs
  · exact Char.not_lt.mp hNot
  · exact hIs ▸ Char.le_refl _

/- What is no control character is read as it was. -/
theorem spellsChar_escapeChar
    {c : Char}
    (hControl : Json.isControl c = false) :
    Json.SpellsChar (escapeChar c) c := by
  intro body codes hBody
  unfold escapeChar
  split
  next hIs =>
    rw [hIs]
    exact hBody.simple rfl
  next hBackslash =>
    split
    next hIs =>
      rw [hIs]
      exact hBody.simple rfl
    next hQuote =>
      split
      next hIs =>
        rw [hIs]
        exact hBody.simple rfl
      next hLine =>
        split
        next hIs =>
          rw [hIs]
          exact hBody.simple rfl
        next hReturn =>
          split
          next hIs =>
            rw [hIs]
            exact hBody.simple rfl
          next hTab =>
            exact hBody.plain
              (isPlain_of_isControl hControl hBackslash hQuote
                hLine hReturn hTab)

/- A control character is put out as it is. -/
theorem mem_escapeText
    {text : String}
    {c : Char}
    (hControl : Json.isControl c = true)
    (hIn : c ∈ text.toList) :
    c ∈ escapeText text := by
  have hNot :
      ∀ other : Char, Json.isControl other = false →
        c ≠ other := by
    intro other hOther hIs
    rw [hIs, hOther] at hControl
    cases hControl
  have hSame : escapeChar c = [c] := by
    unfold escapeChar
    rw [if_neg (hNot _ rfl), if_neg (hNot _ rfl),
      if_neg (hNot _ rfl), if_neg (hNot _ rfl),
      if_neg (hNot _ rfl)]
  refine List.mem_flatMap.mpr ⟨c, hIn, ?_⟩
  rw [hSame]
  exact List.mem_singleton_self c

/- A string without control characters but line ends and tabs. -/
def isReadable (text : String) : Bool :=
  text.toList.all (fun c => !Json.isControl c)

theorem denotes_escapeText
    {text : String}
    (hText : isReadable text = true) :
    Json.Denotes (Json.quoted (escapeText text))
      (.str (Json.codesOf text.toList)) := by
  apply Json.denotes_text
  apply Json.spells_flatMap
  intro c hC
  apply spellsChar_escapeChar
  simpa using List.all_eq_true.mp hText c hC

------------------------------------------------------------
-- What A Reader Should Get
------------------------------------------------------------

/- Members under their names. -/
def members (entries : List (String × Json)) : Json :=
  .obj
    (entries.map (fun entry =>
      (Json.codesOf entry.1.toList, entry.2)))

/- A text as a value. -/
def string (text : String) : Json :=
  .str (Json.codesOf text.toList)

/- What an entry stands for. -/
def deadlineAssignmentValue
    (entry : Assignment DeadlineParameters) : Json :=
  members
    [("tid", .int entry.tid),
      ("signature", string entry.signature),
      ("instance", .int entry.instanceNumber),
      ("name", string entry.name),
      ("runtime_ns", .int entry.parameters.runtimeNs),
      ("deadline_ns", .int entry.parameters.deadlineNs),
      ("period_ns", .int entry.parameters.periodNs),
      ("applied", .bool entry.applied),
      ("errno", .int entry.errorNumber)]

/- What the deadline report stands for. -/
def DeadlineApplication.value
    (overrunSignals : Nat)
    (result : DeadlineApplication) : Json :=
  members
    [("profile_path", string result.profilePath),
      ("profile_entries", .int result.profileEntries),
      ("live_threads", .int result.liveThreads),
      ("unassigned_live_threads",
        .int result.unassignedLiveThreads),
      ("partial_profile", .bool result.partialProfile),
      ("overrun_signals", .int overrunSignals),
      ("assignments",
        .arr (result.assignments.map deadlineAssignmentValue))]

/- What an entry stands for. -/
def rateMonotonicAssignmentValue
    (entry : Assignment FixedPriority) : Json :=
  members
    [("tid", .int entry.tid),
      ("signature", string entry.signature),
      ("instance", .int entry.instanceNumber),
      ("name", string entry.name),
      ("period_ns", .int entry.parameters.periodNs),
      ("priority", .int entry.parameters.priority),
      ("applied", .bool entry.applied),
      ("errno", .int entry.errorNumber)]

/- What the fixed-priority report stands for. -/
def RateMonotonicApplication.value
    (result : RateMonotonicApplication) : Json :=
  members
    [("profile_path", string result.profilePath),
      ("policy", string result.policy),
      ("highest_priority", .int result.highestPriority),
      ("lowest_priority", .int result.lowestPriority),
      ("priority_levels", .int result.priorityLevels),
      ("profile_entries", .int result.profileEntries),
      ("live_threads", .int result.liveThreads),
      ("assignments",
        .arr
          (result.assignments.map rateMonotonicAssignmentValue))]

/- The strings of the assignments. -/
def assignmentTexts
    {P : Type}
    (assignments : List (Assignment P)) : List String :=
  assignments.flatMap (fun entry => [entry.signature, entry.name])

/- The texts in the report. -/
def DeadlineApplication.texts
    (result : DeadlineApplication) : List String :=
  result.profilePath :: assignmentTexts result.assignments

/- The texts in the report. -/
def RateMonotonicApplication.texts
    (result : RateMonotonicApplication) : List String :=
  result.profilePath :: result.policy ::
    assignmentTexts result.assignments

------------------------------------------------------------
-- The Writers As Objects
------------------------------------------------------------

/- A text in quotes. -/
def stringText (text : String) : List Char :=
  Json.quoted (escapeText text)

/- The members of an entry, as texts. -/
def deadlineAssignmentEntries
    (entry : Assignment DeadlineParameters) :
    List (String × List Char) :=
  [("tid", (toString entry.tid).toList),
    ("signature", stringText entry.signature),
    ("instance", (toString entry.instanceNumber).toList),
    ("name", stringText entry.name),
    ("runtime_ns", (toString entry.parameters.runtimeNs).toList),
    ("deadline_ns", (toString entry.parameters.deadlineNs).toList),
    ("period_ns", (toString entry.parameters.periodNs).toList),
    ("applied", (boolText entry.applied).toList),
    ("errno", (toString entry.errorNumber).toList)]

/- The members of the report, as texts. -/
def deadlineEntries
    (overrunSignals : Nat)
    (result : DeadlineApplication) : List (String × List Char) :=
  [("profile_path", stringText result.profilePath),
    ("profile_entries", (toString result.profileEntries).toList),
    ("live_threads", (toString result.liveThreads).toList),
    ("unassigned_live_threads",
      (toString result.unassignedLiveThreads).toList),
    ("partial_profile", (boolText result.partialProfile).toList),
    ("overrun_signals", (toString overrunSignals).toList),
    ("assignments",
      Json.arrayText
        (result.assignments.map (fun entry =>
          Json.objectText (deadlineAssignmentEntries entry))))]

/- The members of an entry, as texts. -/
def rateMonotonicAssignmentEntries
    (entry : Assignment FixedPriority) :
    List (String × List Char) :=
  [("tid", (toString entry.tid).toList),
    ("signature", stringText entry.signature),
    ("instance", (toString entry.instanceNumber).toList),
    ("name", stringText entry.name),
    ("period_ns", (toString entry.parameters.periodNs).toList),
    ("priority", (toString entry.parameters.priority).toList),
    ("applied", (boolText entry.applied).toList),
    ("errno", (toString entry.errorNumber).toList)]

/- The members of the report, as texts. -/
def rateMonotonicEntries
    (result : RateMonotonicApplication) :
    List (String × List Char) :=
  [("profile_path", stringText result.profilePath),
    ("policy", stringText result.policy),
    ("highest_priority", (toString result.highestPriority).toList),
    ("lowest_priority", (toString result.lowestPriority).toList),
    ("priority_levels", (toString result.priorityLevels).toList),
    ("profile_entries", (toString result.profileEntries).toList),
    ("live_threads", (toString result.liveThreads).toList),
    ("assignments",
      Json.arrayText
        (result.assignments.map (fun entry =>
          Json.objectText
            (rateMonotonicAssignmentEntries entry))))]

/- Parts that are encoded one by one are encoded at once. -/
theorem flatten_eq_encode
    {parts : List (List UInt8)}
    {texts : List (List Char)}
    {text : List Char}
    (hText : texts.flatten = text)
    (hParts : parts = texts.map Json.encode) :
    parts.flatten = Json.encode text := by
  rw [hParts, ← Json.encode_flatten, hText]

theorem intercalate_eq_encode
    {P : Type}
    {assignments : List (Assignment P)}
    {json : Assignment P → List UInt8}
    {text : Assignment P → List Char}
    (hJson : ∀ entry, json entry = Json.encode (text entry)) :
    (bytes ",").intercalate (assignments.map json) =
      Json.encode (Json.joined (assignments.map text)) := by
  unfold Json.joined
  rw [Json.encode_intercalate, List.map_map]
  congr 1
  exact List.map_congr_left (fun entry _ => hJson entry)

theorem deadlineAssignmentJson_eq
    (entry : Assignment DeadlineParameters) :
    deadlineAssignmentJson entry =
      Json.encode
        (Json.objectText (deadlineAssignmentEntries entry)) := by
  unfold deadlineAssignmentJson
  rw [escapeJson_bytes, escapeJson_bytes]
  refine @flatten_eq_encode _
    [_, _, _, _, _, _, _, _, _, _, _, _, _, _, _, _, _, _, _] _
    ?_ rfl
  simp [Json.objectText, deadlineAssignmentEntries,
    Json.joined, Json.memberText, Json.quoted, stringText]

theorem deadlineApplicationJson_eq
    (overrunSignals : Nat)
    (result : DeadlineApplication) :
    deadlineApplicationJson overrunSignals result =
      Json.encode
        (Json.objectText
          (deadlineEntries overrunSignals result)) := by
  unfold deadlineApplicationJson
  rw [escapeJson_bytes,
    intercalate_eq_encode deadlineAssignmentJson_eq]
  refine @flatten_eq_encode _
    [_, _, _, _, _, _, _, _, _, _, _, _, _, _, _] _ ?_ rfl
  simp [Json.objectText, deadlineEntries, Json.arrayText,
    Json.joined, Json.memberText, Json.quoted, stringText]

theorem rateMonotonicAssignmentJson_eq
    (entry : Assignment FixedPriority) :
    rateMonotonicAssignmentJson entry =
      Json.encode
        (Json.objectText (rateMonotonicAssignmentEntries entry)) := by
  unfold rateMonotonicAssignmentJson
  rw [escapeJson_bytes, escapeJson_bytes]
  refine @flatten_eq_encode _
    [_, _, _, _, _, _, _, _, _, _, _, _, _, _, _, _, _] _ ?_ rfl
  simp [Json.objectText, rateMonotonicAssignmentEntries,
    Json.joined, Json.memberText, Json.quoted, stringText]

theorem rateMonotonicApplicationJson_eq
    (result : RateMonotonicApplication) :
    rateMonotonicApplicationJson result =
      Json.encode
        (Json.objectText (rateMonotonicEntries result)) := by
  unfold rateMonotonicApplicationJson
  rw [escapeJson_bytes, escapeJson_bytes,
    intercalate_eq_encode rateMonotonicAssignmentJson_eq]
  refine @flatten_eq_encode _
    [_, _, _, _, _, _, _, _, _, _, _, _, _, _, _, _, _] _ ?_ rfl
  simp [Json.objectText, rateMonotonicEntries, Json.arrayText,
    Json.joined, Json.memberText, Json.quoted, stringText]

------------------------------------------------------------
-- Reading Back
------------------------------------------------------------

open List (Forall₂)

/- The control characters of a text are those of its strings. -/
def Holds (text : List Char) (strings : List String) : Prop :=
  ∀ string ∈ strings, ∀ c ∈ string.toList,
    Json.isControl c = true → c ∈ text

theorem isReadable_of_holds
    {text : List Char}
    {strings : List String}
    {value : Json}
    (hHolds : Holds text strings)
    (hLoads : Json.loadsBytes (Json.encode text) = .ok value) :
    ∀ string ∈ strings, isReadable string = true := by
  rw [Json.loadsBytes_encode] at hLoads
  intro string hString
  apply List.all_eq_true.mpr
  intro c hC
  rw [Bool.not_eq_true', ← Bool.not_eq_true]
  intro hControl
  have hNot :=
    Json.loads_controls hLoads c
      (hHolds string hString c hC hControl)
  rw [hControl] at hNot
  cases hNot

theorem mem_stringText
    {string : String}
    {c : Char}
    (hC : c ∈ string.toList)
    (hControl : Json.isControl c = true) :
    c ∈ stringText string :=
  Json.mem_quoted (mem_escapeText hControl hC)

/- A string that is a member of an object. -/
theorem holds_member
    {entries : List (String × List Char)}
    {name string : String}
    (hEntry : (name, stringText string) ∈ entries) :
    Holds (Json.objectText entries) [string] := by
  intro other hOther c hC hControl
  rw [List.mem_singleton.mp hOther] at hC
  exact Json.mem_objectText hEntry (mem_stringText hC hControl)

theorem Holds.append
    {text : List Char}
    {strings more : List String}
    (hStrings : Holds text strings)
    (hMore : Holds text more) :
    Holds text (strings ++ more) := by
  intro string hString
  rcases List.mem_append.mp hString with hHere | hThere
  · exact hStrings string hHere
  · exact hMore string hThere

variable {P : Type}
variable {assignments : List (Assignment P)}

theorem holds_assignments
    {fields : Assignment P → List (String × List Char)}
    {entries : List (String × List Char)}
    (hSignature :
      ∀ entry,
        ("signature", stringText entry.signature) ∈ fields entry)
    (hName :
      ∀ entry, ("name", stringText entry.name) ∈ fields entry)
    (hEntry :
      ("assignments",
        Json.arrayText
          (assignments.map (fun entry =>
            Json.objectText (fields entry)))) ∈ entries) :
    Holds (Json.objectText entries)
      (assignmentTexts assignments) := by
  intro string hString c hC hControl
  rcases List.mem_flatMap.mp hString with ⟨entry, hIn, hOne⟩
  have hObject : c ∈ Json.objectText (fields entry) := by
    have hBoth :=
      (holds_member (hSignature entry)).append
        (holds_member (hName entry))
    exact hBoth string hOne c hC hControl
  exact Json.mem_objectText hEntry
    (Json.mem_arrayText
      (List.mem_map_of_mem
        (f := fun entry => Json.objectText (fields entry)) hIn)
      hObject)

/- A member that is written out in the source. -/
theorem written
    {name : String}
    (hName : Json.isMemberName name = true)
    {text : List Char}
    {value : Json}
    (hText : Json.Denotes text value) :
    Json.Written (name, text)
      (Json.codesOf name.toList, value) :=
  ⟨hName, rfl, hText⟩

theorem denotes_nat
    (n : Nat) :
    Json.Denotes (toString n).toList (.int n) :=
  Json.denotes_int n

theorem denotes_assignments
    {text : Assignment P → List Char}
    {value : Assignment P → Json}
    (hEntries :
      ∀ entry ∈ assignments, Json.Denotes (text entry) (value entry)) :
    Json.Denotes (Json.arrayText (assignments.map text))
      (.arr (assignments.map value)) := by
  apply Json.denotes_arrayText
  rw [List.forall₂_map_left_iff, List.forall₂_map_right_iff,
    List.forall₂_same]
  exact hEntries

theorem isReadable_of_assignment
    (hTexts :
      ∀ text ∈ assignmentTexts assignments,
        isReadable text = true)
    {entry : Assignment P}
    (hEntry : entry ∈ assignments) :
    isReadable entry.signature = true ∧
      isReadable entry.name = true := by
  constructor
  · exact hTexts _
      (List.mem_flatMap.mpr ⟨entry, hEntry, by simp⟩)
  · exact hTexts _
      (List.mem_flatMap.mpr ⟨entry, hEntry, by simp⟩)

theorem denotes_deadlineAssignment
    {entry : Assignment DeadlineParameters}
    (hSignature : isReadable entry.signature = true)
    (hName : isReadable entry.name = true) :
    Json.Denotes
      (Json.objectText (deadlineAssignmentEntries entry))
      (deadlineAssignmentValue entry) :=
  Json.denotes_objectText (by simp [deadlineAssignmentEntries])
    (.cons (written rfl (denotes_nat entry.tid))
      (.cons (written rfl (denotes_escapeText hSignature))
        (.cons (written rfl (denotes_nat entry.instanceNumber))
          (.cons (written rfl (denotes_escapeText hName))
            (.cons (written rfl (denotes_nat _))
              (.cons (written rfl (denotes_nat _))
                (.cons (written rfl (denotes_nat _))
                  (.cons
                    (written rfl (Json.denotes_bool _))
                    (.cons (written rfl (denotes_nat _))
                      .nil)))))))))

theorem denotes_rateMonotonicAssignment
    {entry : Assignment FixedPriority}
    (hSignature : isReadable entry.signature = true)
    (hName : isReadable entry.name = true) :
    Json.Denotes
      (Json.objectText (rateMonotonicAssignmentEntries entry))
      (rateMonotonicAssignmentValue entry) :=
  Json.denotes_objectText (by simp [rateMonotonicAssignmentEntries])
    (.cons (written rfl (denotes_nat entry.tid))
      (.cons (written rfl (denotes_escapeText hSignature))
        (.cons (written rfl (denotes_nat entry.instanceNumber))
          (.cons (written rfl (denotes_escapeText hName))
            (.cons (written rfl (denotes_nat _))
              (.cons (written rfl (Json.denotes_int _))
                (.cons (written rfl (Json.denotes_bool _))
                  (.cons (written rfl (denotes_nat _))
                    .nil))))))))

theorem holds_deadline
    (overrunSignals : Nat)
    (result : DeadlineApplication) :
    Holds (Json.objectText (deadlineEntries overrunSignals result))
      result.texts :=
  (@holds_member _ "profile_path" _
      (by simp [deadlineEntries])).append
    (@holds_assignments _ _ deadlineAssignmentEntries _
      (fun entry => by simp [deadlineAssignmentEntries])
      (fun entry => by simp [deadlineAssignmentEntries])
      (by simp [deadlineEntries]))

theorem holds_rateMonotonic
    (result : RateMonotonicApplication) :
    Holds (Json.objectText (rateMonotonicEntries result))
      result.texts :=
  (@holds_member _ "profile_path" _
      (by simp [rateMonotonicEntries])).append
    ((@holds_member _ "policy" _
        (by simp [rateMonotonicEntries])).append
      (@holds_assignments _ _ rateMonotonicAssignmentEntries _
        (fun entry => by simp [rateMonotonicAssignmentEntries])
        (fun entry => by simp [rateMonotonicAssignmentEntries])
        (by simp [rateMonotonicEntries])))

theorem deadlineApplication_iff
    (overrunSignals : Nat)
    (result : DeadlineApplication) :
    Json.loadsBytes (deadlineApplicationJson overrunSignals result) =
        .ok (result.value overrunSignals) ↔
      ∀ text ∈ result.texts, isReadable text = true := by
  rw [deadlineApplicationJson_eq]
  constructor
  · exact isReadable_of_holds (holds_deadline _ result)
  · intro hTexts
    unfold DeadlineApplication.texts at hTexts
    rw [List.forall_mem_cons] at hTexts
    rw [Json.loadsBytes_encode]
    apply Json.loads_of_denotes
    exact Json.denotes_objectText (by simp [deadlineEntries])
      (.cons (written rfl (denotes_escapeText hTexts.1))
        (.cons (written rfl (denotes_nat _))
          (.cons (written rfl (denotes_nat _))
            (.cons (written rfl (denotes_nat _))
              (.cons (written rfl (Json.denotes_bool _))
                (.cons (written rfl (denotes_nat _))
                  (.cons
                    (written rfl
                      (denotes_assignments
                        (fun entry hEntry =>
                          have hBoth :=
                            isReadable_of_assignment hTexts.2 hEntry
                          denotes_deadlineAssignment
                            hBoth.1 hBoth.2)))
                    .nil)))))))

theorem rateMonotonicApplication_iff
    (result : RateMonotonicApplication) :
    Json.loadsBytes (rateMonotonicApplicationJson result) =
        .ok result.value ↔
      ∀ text ∈ result.texts, isReadable text = true := by
  rw [rateMonotonicApplicationJson_eq]
  constructor
  · exact isReadable_of_holds (holds_rateMonotonic result)
  · intro hTexts
    unfold RateMonotonicApplication.texts at hTexts
    rw [List.forall_mem_cons, List.forall_mem_cons] at hTexts
    rw [Json.loadsBytes_encode]
    apply Json.loads_of_denotes
    exact Json.denotes_objectText (by simp [rateMonotonicEntries])
      (.cons (written rfl (denotes_escapeText hTexts.1))
        (.cons (written rfl (denotes_escapeText hTexts.2.1))
          (.cons (written rfl (Json.denotes_int _))
            (.cons (written rfl (Json.denotes_int _))
              (.cons (written rfl (denotes_nat _))
                (.cons (written rfl (denotes_nat _))
                  (.cons (written rfl (denotes_nat _))
                    (.cons
                      (written rfl
                        (denotes_assignments
                          (fun entry hEntry =>
                            have hBoth :=
                              isReadable_of_assignment
                                hTexts.2.2 hEntry
                            denotes_rateMonotonicAssignment
                              hBoth.1 hBoth.2)))
                      .nil))))))))

/-
  Both texts are read back as what was applied exactly when
  no string of it holds a control character other than a
  tab or a line end.
-/
theorem applicationJson_iff
    (overrunSignals : Nat)
    (deadline : DeadlineApplication)
    (rateMonotonic : RateMonotonicApplication) :
    (Json.loadsBytes
          (deadlineApplicationJson overrunSignals deadline) =
        .ok (deadline.value overrunSignals) ↔
      ∀ text ∈ deadline.texts, isReadable text = true) ∧
      (Json.loadsBytes
            (rateMonotonicApplicationJson rateMonotonic) =
          .ok rateMonotonic.value ↔
        ∀ text ∈ rateMonotonic.texts, isReadable text = true) :=
  ⟨deadlineApplication_iff overrunSignals deadline,
    rateMonotonicApplication_iff rateMonotonic⟩

/- A thread whose name starts with an escape character. -/
def colouredApplication : DeadlineApplication where
  profilePath := "profile.csv"
  profileEntries := 1
  liveThreads := 1
  unassignedLiveThreads := 0
  partialProfile := false
  assignments :=
    [{ tid := ⟨7, by decide⟩
       signature := "main"
       instanceNumber := 1
       name := "\x1bcamera"
       parameters :=
         { runtimeNs := 1, deadlineNs := 2, periodNs := 3 }
       applied := true }]

theorem coloured_not_read :
    ¬∃ value,
      Json.loadsBytes
          (deadlineApplicationJson 0 colouredApplication) =
        .ok value := by
  rintro ⟨value, hLoads⟩
  rw [deadlineApplicationJson_eq] at hLoads
  have hReadable :=
    isReadable_of_holds (holds_deadline 0 colouredApplication)
      hLoads "\x1bcamera" (by decide)
  cases hReadable

end Scheduler

end RsCamera
