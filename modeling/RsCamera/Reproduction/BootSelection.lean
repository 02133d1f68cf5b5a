import RsCamera.Lib.Numeral
import RsCamera.Lib.Texts

/-
  The selection of a kernel for the next boot
  (`boot_selection` in `setup/kernel.py`).

  With the multi-line flag, `^` and `$` stand at the ends of
  lines, and a line ends at a line feed alone.  The pattern
  for the prefix matches whole lines, a carriage return
  included.

  Key definitions include:
    * `bootSelection`, `selectAll`
    * `layout`, `render`
    * `otherLines`

  Key theorems include:
    * `selectConfig_layout`, `selectConfig_render`
    * `pySplit_commandLine`
    * `selectAll_last`
-/

------------------------------------------------------------
-- One KernelSelection
------------------------------------------------------------

namespace RsCamera

namespace Reproduction

/- `text.split("\n")`. -/
def textLines (text : List Char) : List (List Char) :=
  text.splitOn '\n'

/- `str.rstrip`. -/
def pyRstrip (text : List Char) : List Char :=
  (text.reverse.dropWhile isPySpace).reverse

/- A line that the pattern `^os_prefix=.*$` matches. -/
def isPrefixLine (line : List Char) : Bool :=
  "os_prefix=".toList.isPrefixOf line

/- The line that selects a kernel. -/
def prefixLine (osPrefix : List Char) : List Char :=
  "os_prefix=".toList ++ osPrefix ++ ['/']

/- What `re.sub` makes of the lines. -/
def replaceLines
    (osPrefix : List Char)
    (lines : List (List Char)) : List (List Char) :=
  lines.map (fun line =>
    if isPrefixLine line then prefixLine osPrefix else line)

/- The kernel in `config.txt`. -/
def selectConfig
    (config osPrefix : List Char) : Except String (List Char) :=
  let count := (textLines config).countP isPrefixLine
  if 1 < count then
    .error "Multiple os_prefix entries; inspect boot configuration"
  else if count ≠ 0 then
    .ok
      (['\n'].intercalate
        (replaceLines osPrefix (textLines config)))
  else
    .ok
      (pyRstrip config ++
        ("\n\n[all]\n".toList ++ (prefixLine osPrefix ++ ['\n'])))

/- The parameter without which nothing boots. -/
def isRoot (word : String) : Bool :=
  "root=".toList.isPrefixOf word.toList

/- The words of a line, with one space between them. -/
def commandLine (words : List String) : String :=
  String.ofList
    ([' '].intercalate (words.map String.toList) ++ ['\n'])

/- The words of `cmdline.txt`. -/
def selectWords
    (cmdline : String)
    (threaded : Bool) : Except String String :=
  let words :=
    (pySplit cmdline).filter (fun word => word ≠ "threadirqs")
  if words.any isRoot then
    .ok
      (commandLine
        (if threaded then words ++ ["threadirqs"] else words))
  else
    .error "Missing root= boot argument"

/- `boot_selection`. -/
def bootSelection
    (config cmdline osPrefix : String)
    (threaded : Bool) : Except String (String × String) := do
  let config ← selectConfig config.toList osPrefix.toList
  let cmdline ← selectWords cmdline threaded
  .ok (String.ofList config, cmdline)

/- What one boot is selected with. -/
structure KernelSelection where
  osPrefix : String
  threaded : Bool
deriving Repr, DecidableEq

/- Selections one after another, each of the texts it finds. -/
def selectAll
    (texts : String × String)
    (selections : List KernelSelection) :
    Except String (String × String) :=
  selections.foldlM
    (fun texts selection =>
      bootSelection texts.1 texts.2 selection.osPrefix
        selection.threaded)
    texts

------------------------------------------------------------
-- Layouts
------------------------------------------------------------

/- Lines of which exactly one is for the prefix. -/
structure Layout where
  lines : List (List Char)
  one : lines.countP isPrefixLine = 1
  plain : ∀ line ∈ lines, '\n' ∉ line

/- The file with another kernel. -/
def Layout.render
    (layout : Layout)
    (osPrefix : List Char) : List Char :=
  ['\n'].intercalate (replaceLines osPrefix layout.lines)

theorem isPrefixLine_prefixLine
    (osPrefix : List Char) :
    isPrefixLine (prefixLine osPrefix) = true := by
  unfold isPrefixLine prefixLine
  rw [List.isPrefixOf_iff_prefix, List.append_assoc]
  exact List.prefix_append _ _

theorem not_mem_prefixLine
    {osPrefix : List Char}
    (hPrefix : '\n' ∉ osPrefix) :
    '\n' ∉ prefixLine osPrefix := by
  unfold prefixLine
  rw [List.mem_append, List.mem_append, not_or, not_or]
  exact ⟨⟨by decide, hPrefix⟩, by decide⟩

/- A prefix line stays one when its prefix is replaced. -/
theorem isPrefixLine_replaced
    (osPrefix line : List Char) :
    isPrefixLine
        (if isPrefixLine line then prefixLine osPrefix else line) =
      isPrefixLine line := by
  by_cases hLine : isPrefixLine line = true
  · rw [if_pos hLine, hLine, isPrefixLine_prefixLine]
  · rw [if_neg hLine]

theorem countP_replaceLines
    (osPrefix : List Char)
    (lines : List (List Char)) :
    (replaceLines osPrefix lines).countP isPrefixLine =
      lines.countP isPrefixLine := by
  unfold replaceLines
  rw [List.countP_map]
  congr 1
  funext line
  exact isPrefixLine_replaced osPrefix line

theorem replaceLines_replaceLines
    (first second : List Char)
    (lines : List (List Char)) :
    replaceLines second (replaceLines first lines) =
      replaceLines second lines := by
  unfold replaceLines
  rw [List.map_map]
  apply List.map_congr_left
  intro line _
  simp only [Function.comp_apply, isPrefixLine_replaced]
  by_cases hLine : isPrefixLine line = true
  · rw [if_pos hLine, if_pos hLine]
  · rw [if_neg hLine, if_neg hLine, if_neg hLine]

theorem Layout.textLines_render
    (layout : Layout)
    {osPrefix : List Char}
    (hPrefix : '\n' ∉ osPrefix) :
    textLines (layout.render osPrefix) =
      replaceLines osPrefix layout.lines := by
  apply List.splitOn_intercalate
  · intro line hLine
    rcases List.mem_map.mp hLine with ⟨before, hBefore, hIs⟩
    rw [← hIs]
    split
    · exact not_mem_prefixLine hPrefix
    · exact layout.plain before hBefore
  · intro hNil
    have hCount := layout.one
    rw [List.map_eq_nil_iff.mp hNil] at hCount
    cases hCount

/- In a text with a line for the prefix, the line is replaced. -/
theorem selectConfig_render
    (layout : Layout)
    {first : List Char}
    (hFirst : '\n' ∉ first)
    (second : List Char) :
    selectConfig (layout.render first) second =
      .ok (layout.render second) := by
  unfold selectConfig
  simp only
  rw [layout.textLines_render hFirst, countP_replaceLines,
    layout.one, if_neg (by decide), if_pos (by decide),
    replaceLines_replaceLines]
  rfl

/- The text without the white space at its end is a front. -/
theorem pyRstrip_append
    (text : List Char) :
    ∃ spaces, pyRstrip text ++ spaces = text := by
  refine ⟨(text.reverse.takeWhile isPySpace).reverse, ?_⟩
  unfold pyRstrip
  rw [← List.reverse_append, List.takeWhile_append_dropWhile,
    List.reverse_reverse]

/- A line of a front is the front of a line. -/
theorem countP_textLines_front
    {front behind : List Char}
    (hNone : (textLines (front ++ behind)).countP isPrefixLine = 0) :
    (textLines front).countP isPrefixLine = 0 := by
  rcases Texts.splitOn_append '\n' front behind with
    ⟨parts, last, hFront, hWhole⟩
  unfold textLines at hNone ⊢
  rw [hWhole, List.countP_append, Nat.add_eq_zero_iff] at hNone
  rw [hFront, List.countP_append, Nat.add_eq_zero_iff]
  refine ⟨hNone.1, ?_⟩
  rw [List.countP_eq_zero, List.forall_mem_singleton]
  intro hLast
  cases hBehind : behind.splitOn '\n' with
  | nil => exact absurd hBehind (List.splitOn_ne_nil _ _)
  | cons first rest =>
      rw [hBehind] at hNone
      apply List.countP_eq_zero.mp hNone.2 (last ++ first)
        List.mem_cons_self
      unfold isPrefixLine at hLast ⊢
      rw [List.isPrefixOf_iff_prefix] at hLast ⊢
      exact hLast.trans (List.prefix_append _ _)

theorem countP_pyRstrip
    {config : List Char}
    (hNone : (textLines config).countP isPrefixLine = 0) :
    (textLines (pyRstrip config)).countP isPrefixLine = 0 := by
  rcases pyRstrip_append config with ⟨spaces, hIs⟩
  apply @countP_textLines_front _ spaces
  rwa [hIs]

/- The lines that the section at the end adds. -/
def sectionLines (osPrefix : List Char) : List (List Char) :=
  [[], "[all]".toList, prefixLine osPrefix, []]

/- The lines of a text that is to have a line for the prefix. -/
def layoutLines (config : List Char) : List (List Char) :=
  if (textLines config).countP isPrefixLine = 0 then
    textLines (pyRstrip config) ++ sectionLines []
  else
    textLines config

theorem plain_textLines
    (text : List Char) :
    ∀ line ∈ textLines text, '\n' ∉ line :=
  fun _ hLine => Texts.not_mem_of_mem_splitOn hLine

/- The lines of a file. -/
def layout
    (config : List Char)
    (hCount : (textLines config).countP isPrefixLine ≤ 1) :
    Layout where
  lines := layoutLines config
  one := by
    unfold layoutLines
    split
    next hNone =>
      rw [List.countP_append, countP_pyRstrip hNone]
      decide
    next hSome =>
      omega
  plain := by
    unfold layoutLines
    split
    · rw [List.forall_mem_append]
      exact ⟨plain_textLines _, by decide⟩
    · exact plain_textLines config

theorem replaceLines_of_none
    (osPrefix : List Char)
    {lines : List (List Char)}
    (hNone : lines.countP isPrefixLine = 0) :
    replaceLines osPrefix lines = lines := by
  unfold replaceLines
  conv_rhs => rw [← List.map_id lines]
  apply List.map_congr_left
  intro line hLine
  exact if_neg (List.countP_eq_zero.mp hNone line hLine)

theorem replaceLines_layoutLines
    {config : List Char}
    (hNone : (textLines config).countP isPrefixLine = 0)
    (osPrefix : List Char) :
    replaceLines osPrefix (layoutLines config) =
      textLines (pyRstrip config) ++ sectionLines osPrefix := by
  have hSection :
      replaceLines osPrefix (sectionLines []) =
        sectionLines osPrefix := by
    have hLine := isPrefixLine_prefixLine []
    unfold sectionLines replaceLines
    simp only [List.map_cons, List.map_nil, hLine, if_true]
    rfl
  unfold layoutLines
  rw [if_pos hNone]
  unfold replaceLines at hSection ⊢
  rw [List.map_append, hSection]
  congr 1
  exact replaceLines_of_none osPrefix (countP_pyRstrip hNone)

/- The section stands behind an empty line. -/
theorem intercalate_section
    (text osPrefix : List Char) :
    ['\n'].intercalate
        (textLines text ++ sectionLines osPrefix) =
      text ++
        ("\n\n[all]\n".toList ++
          (prefixLine osPrefix ++ ['\n'])) := by
  have hText : ['\n'].intercalate (textLines text) = text :=
    List.intercalate_splitOn '\n'
  cases hLines : textLines text with
  | nil => exact absurd hLines (List.splitOn_ne_nil '\n' text)
  | cons first rest =>
      rw [hLines, Texts.intercalate_cons] at hText
      rw [List.cons_append, Texts.intercalate_cons,
        List.flatMap_append, ← List.append_assoc, hText]
      simp [sectionLines]

/- The first selection makes the line if there is none. -/
theorem selectConfig_layout
    {config : List Char}
    (hCount : (textLines config).countP isPrefixLine ≤ 1)
    (osPrefix : List Char) :
    selectConfig config osPrefix =
      .ok ((layout config hCount).render osPrefix) := by
  unfold selectConfig
  simp only
  rw [if_neg (Nat.not_lt.mpr hCount)]
  by_cases hNone : (textLines config).countP isPrefixLine = 0
  · rw [if_neg (not_not.mpr hNone)]
    unfold Layout.render layout
    simp only
    rw [replaceLines_layoutLines hNone, intercalate_section]
  · rw [if_pos hNone]
    unfold Layout.render layout layoutLines
    simp only
    rw [if_neg hNone]

------------------------------------------------------------
-- The Command Line
------------------------------------------------------------

/- A word that `str.split` can find. -/
def IsWord (word : String) : Prop :=
  word.toList ≠ [] ∧ ∀ c ∈ word.toList, isPySpace c = false

theorem isWord_of_mem_pySplit
    {text word : String}
    (hWord : word ∈ pySplit text) :
    IsWord word := by
  unfold pySplit at hWord
  rcases List.mem_map.mp hWord with ⟨chars, hChars, hIs⟩
  rcases List.mem_filter.mp hChars with ⟨hPart, hSome⟩
  have hList : word.toList = chars := by
    rw [← hIs, String.toList_ofList]
  unfold IsWord
  rw [hList]
  refine ⟨by simpa using hSome, ?_⟩
  intro c hC
  exact Texts.not_of_mem_splitOnP hPart c hC

/- The words of a line that was put together are its words. -/
theorem pySplit_commandLine
    {words : List String}
    (hWords : ∀ word ∈ words, IsWord word) :
    pySplit (commandLine words) = words := by
  have hEnd : isPySpace '\n' = true := by
    decide
  have hSpace : isPySpace ' ' = true := by
    decide
  unfold pySplit commandLine
  rw [String.toList_ofList, List.splitOnP_append_cons _ _ hEnd,
    List.filter_append]
  by_cases hSome : words = []
  · subst hSome
    simp
  · rw [Texts.splitOnP_intercalate hSpace
      (fun part hPart => by
        rcases List.mem_map.mp hPart with ⟨word, hWord, hIs⟩
        rw [← hIs]
        exact (hWords word hWord).2)
      (by simpa using hSome)]
    have hKept :
        (words.map String.toList).filter
            (fun word => !word.isEmpty) =
          words.map String.toList := by
      rw [List.filter_eq_self]
      intro part hPart
      rcases List.mem_map.mp hPart with ⟨word, hWord, hIs⟩
      rw [← hIs]
      simpa using (hWords word hWord).1
    rw [hKept]
    simp

/- The words that a selection keeps. -/
def keptWords (cmdline : String) : List String :=
  (pySplit cmdline).filter (fun word => word ≠ "threadirqs")

/- The words of a command line that was selected. -/
def selectedWords
    (words : List String)
    (threaded : Bool) : List String :=
  if threaded then words ++ ["threadirqs"] else words

theorem pySplit_selected
    (cmdline : String)
    (threaded : Bool) :
    pySplit
        (commandLine
          (selectedWords (keptWords cmdline) threaded)) =
      selectedWords (keptWords cmdline) threaded := by
  have hKept : ∀ word ∈ keptWords cmdline, IsWord word :=
    fun word hWord =>
      isWord_of_mem_pySplit (List.mem_filter.mp hWord).1
  apply pySplit_commandLine
  unfold selectedWords
  split
  · rw [List.forall_mem_append, List.forall_mem_singleton]
    have hPlain :
        "threadirqs".toList.all (fun c => !isPySpace c) =
          true := by
      decide
    refine ⟨hKept, by decide, ?_⟩
    intro c hIn
    simpa using List.all_eq_true.mp hPlain c hIn
  · exact hKept

theorem filter_selectedWords
    {words : List String}
    (hWords : ∀ word ∈ words, word ≠ "threadirqs")
    (threaded : Bool) :
    (selectedWords words threaded).filter
        (fun word => word ≠ "threadirqs") =
      words := by
  have hSelf :
      words.filter (fun word => word ≠ "threadirqs") = words := by
    rw [List.filter_eq_self]
    intro word hWord
    simpa using hWords word hWord
  unfold selectedWords
  split
  · rw [List.filter_append, hSelf]
    simp
  · exact hSelf

theorem keptWords_selected
    (cmdline : String)
    (threaded : Bool) :
    keptWords
        (commandLine
          (selectedWords (keptWords cmdline) threaded)) =
      keptWords cmdline := by
  unfold keptWords
  rw [show
    pySplit (commandLine
        (selectedWords
          ((pySplit cmdline).filter
            (fun word => word ≠ "threadirqs")) threaded)) =
      _ from pySplit_selected cmdline threaded]
  apply filter_selectedWords
  intro word hWord
  simpa using (List.mem_filter.mp hWord).2

theorem count_selectedWords
    {words : List String}
    (hWords : ∀ word ∈ words, word ≠ "threadirqs")
    (threaded : Bool) :
    (selectedWords words threaded).count "threadirqs" =
      if threaded then 1 else 0 := by
  have hNone : words.count "threadirqs" = 0 :=
    List.count_eq_zero.mpr (fun hIn => hWords _ hIn rfl)
  unfold selectedWords
  cases threaded with
  | true => simp [hNone]
  | false => simpa using hNone

theorem selectWords_eq
    {cmdline : String}
    (hRoot : (keptWords cmdline).any isRoot = true)
    (threaded : Bool) :
    selectWords cmdline threaded =
      .ok
        (commandLine
          (selectedWords (keptWords cmdline) threaded)) :=
  if_pos hRoot

theorem any_keptWords
    {cmdline : String}
    (hRoot : ∃ word ∈ pySplit cmdline, isRoot word = true) :
    (keptWords cmdline).any isRoot = true := by
  rcases hRoot with ⟨word, hIn, hIs⟩
  rw [List.any_eq_true]
  refine ⟨word, List.mem_filter.mpr ⟨hIn, ?_⟩, hIs⟩
  simp only [decide_eq_true_eq]
  intro hThreaded
  rw [hThreaded] at hIs
  cases hIs

------------------------------------------------------------
-- Sequences Of Selections
------------------------------------------------------------

theorem bootSelection_first
    {config cmdline : String}
    (hCount :
      (textLines config.toList).countP isPrefixLine ≤ 1)
    (hRoot : (keptWords cmdline).any isRoot = true)
    (osPrefix : String)
    (threaded : Bool) :
    bootSelection config cmdline osPrefix threaded =
      .ok
        (String.ofList
            ((layout config.toList hCount).render
              osPrefix.toList),
          commandLine
            (selectedWords (keptWords cmdline) threaded)) := by
  unfold bootSelection
  rw [selectConfig_layout hCount, selectWords_eq hRoot]
  rfl

/- A selection after another one is a selection alone. -/
theorem bootSelection_again
    {config cmdline : String}
    (hCount :
      (textLines config.toList).countP isPrefixLine ≤ 1)
    (hRoot : (keptWords cmdline).any isRoot = true)
    {first : KernelSelection}
    (hFirst : '\n' ∉ first.osPrefix.toList)
    (second : KernelSelection) :
    bootSelection
        (String.ofList
          ((layout config.toList hCount).render
            first.osPrefix.toList))
        (commandLine
          (selectedWords (keptWords cmdline) first.threaded))
        second.osPrefix second.threaded =
      bootSelection config cmdline second.osPrefix
        second.threaded := by
  have hKept := keptWords_selected cmdline first.threaded
  rw [bootSelection_first hCount hRoot]
  unfold bootSelection
  rw [String.toList_ofList, selectConfig_render _ hFirst,
    selectWords_eq (by rw [hKept]; exact hRoot), hKept]
  rfl

theorem selectAll_cons
    (texts : String × String)
    (selection : KernelSelection)
    (selections : List KernelSelection) :
    selectAll texts (selection :: selections) =
      bootSelection texts.1 texts.2 selection.osPrefix
          selection.threaded >>=
        fun texts => selectAll texts selections :=
  List.foldlM_cons

theorem ok_bind
    {X Y : Type}
    (x : X)
    (f : X → Except String Y) :
    (Except.ok x >>= f) = f x :=
  rfl

/-
  The induction is on the selections behind the first: each
  finds the texts of one selection of the texts at the start.
-/
theorem selectAll_eq_last
    {config cmdline : String}
    (hCount :
      (textLines config.toList).countP isPrefixLine ≤ 1)
    (hRoot : (keptWords cmdline).any isRoot = true)
    {selections : List KernelSelection}
    (hPrefixes :
      ∀ selection ∈ selections,
        '\n' ∉ selection.osPrefix.toList)
    (hSome : selections ≠ []) :
    selectAll (config, cmdline) selections =
      bootSelection config cmdline
        (selections.getLast hSome).osPrefix
        (selections.getLast hSome).threaded := by
  cases selections with
  | nil => exact absurd rfl hSome
  | cons first rest =>
      induction rest generalizing first with
      | nil =>
          rw [List.getLast_singleton, selectAll_cons,
            bootSelection_first hCount hRoot]
          rfl
      | cons second rest ih =>
          rw [List.forall_mem_cons] at hPrefixes
          have hRest :=
            ih second hPrefixes.2 (List.cons_ne_nil _ _)
          rw [List.getLast_cons (List.cons_ne_nil _ _), ← hRest,
            selectAll_cons, bootSelection_first hCount hRoot,
            ok_bind, selectAll_cons, selectAll_cons,
            bootSelection_again hCount hRoot hPrefixes.1]

/- A line with something on it that is not for the prefix. -/
def isOther (line : List Char) : Bool :=
  !isPrefixLine line && !line.all isPySpace

/- The lines that stay. -/
def otherLines (text : List Char) : List (List Char) :=
  (textLines text).filter isOther

theorem filter_isOther_replaceLines
    (osPrefix : List Char)
    (lines : List (List Char)) :
    (replaceLines osPrefix lines).filter isOther =
      lines.filter isOther := by
  unfold replaceLines
  induction lines with
  | nil => rfl
  | cons line lines ih =>
      rw [List.map_cons, List.filter_cons, List.filter_cons, ih]
      by_cases hLine : isPrefixLine line = true
      · have hBoth :
            isOther line = false ∧
              isOther (prefixLine osPrefix) = false := by
          unfold isOther
          rw [hLine, isPrefixLine_prefixLine]
          exact ⟨rfl, rfl⟩
        rw [if_pos hLine, hBoth.1, hBoth.2]
        rfl
      · rw [if_neg hLine]

theorem filter_isPrefixLine_replaceLines
    {osPrefix : List Char}
    {lines : List (List Char)}
    (hOne : lines.countP isPrefixLine = 1) :
    (replaceLines osPrefix lines).filter isPrefixLine =
      [prefixLine osPrefix] := by
  have hLength :
      ((replaceLines osPrefix lines).filter
        isPrefixLine).length = 1 := by
    rw [← List.countP_eq_length_filter, countP_replaceLines,
      hOne]
  rcases List.length_eq_one_iff.mp hLength with ⟨line, hIs⟩
  have hLine :
      line ∈ (replaceLines osPrefix lines).filter
        isPrefixLine := by
    rw [hIs]
    exact List.mem_singleton_self line
  rcases List.mem_filter.mp hLine with ⟨hIn, hPrefix⟩
  rcases List.mem_map.mp hIn with ⟨before, -, hSame⟩
  rw [hIs, ← hSame]
  by_cases hBefore : isPrefixLine before = true
  · rw [if_pos hBefore]
  · rw [if_neg hBefore] at hSame
    rw [hSame] at hBefore
    exact absurd hPrefix hBefore

/- What is kept of the lines, and the section that is added. -/
theorem otherLines_render
    {config : List Char}
    (hCount : (textLines config).countP isPrefixLine ≤ 1)
    {osPrefix : List Char}
    (hPrefix : '\n' ∉ osPrefix) :
    otherLines ((layout config hCount).render osPrefix) =
      if (textLines config).countP isPrefixLine = 0 then
        otherLines (pyRstrip config) ++ ["[all]".toList]
      else
        otherLines config := by
  unfold otherLines
  rw [Layout.textLines_render _ hPrefix,
    filter_isOther_replaceLines]
  unfold layout layoutLines
  simp only
  split
  · rw [List.filter_append]
    congr 1
  · rfl

/-
  Selections one after another, all of which succeed, are the
  last of them alone.  It leaves one line for the prefix, all
  other lines, and all words but the one for threads.
-/
theorem selectAll_last
    {config cmdline : String}
    (hCount :
      (textLines config.toList).countP isPrefixLine ≤ 1)
    (hRoot : ∃ word ∈ pySplit cmdline, isRoot word = true)
    {selections : List KernelSelection}
    (hPrefixes :
      ∀ selection ∈ selections,
        '\n' ∉ selection.osPrefix.toList ∧
          '\\' ∉ selection.osPrefix.toList)
    (hSome : selections ≠ []) :
    let last := selections.getLast hSome
    ∃ newConfig newCmdline,
      selectAll (config, cmdline) selections =
          .ok (newConfig, newCmdline) ∧
        bootSelection config cmdline last.osPrefix last.threaded =
          .ok (newConfig, newCmdline) ∧
        (textLines newConfig.toList).filter isPrefixLine =
          [prefixLine last.osPrefix.toList] ∧
        otherLines newConfig.toList =
          (if (textLines config.toList).countP isPrefixLine = 0 then
            otherLines (pyRstrip config.toList) ++ ["[all]".toList]
          else
            otherLines config.toList) ∧
        (pySplit newCmdline).filter
            (fun word => word ≠ "threadirqs") =
          (pySplit cmdline).filter
            (fun word => word ≠ "threadirqs") ∧
        (pySplit newCmdline).count "threadirqs" =
          if last.threaded then 1 else 0 := by
  intro last
  have hKept := any_keptWords hRoot
  have hPlain : '\n' ∉ last.osPrefix.toList :=
    (hPrefixes last (List.getLast_mem hSome)).1
  have hOne :=
    bootSelection_first hCount hKept last.osPrefix last.threaded
  refine ⟨_, _, ?_, hOne, ?_, ?_, ?_, ?_⟩
  · rw [selectAll_eq_last hCount hKept
      (fun selection hIn => (hPrefixes selection hIn).1) hSome]
    exact hOne
  · rw [String.toList_ofList, Layout.textLines_render _ hPlain]
    exact filter_isPrefixLine_replaceLines (layout _ hCount).one
  · rw [String.toList_ofList]
    exact otherLines_render hCount hPlain
  · exact keptWords_selected cmdline last.threaded
  · rw [pySplit_selected]
    apply count_selectedWords
    intro word hWord
    simpa using (List.mem_filter.mp hWord).2

/- A text with carriage returns in which a section is added. -/
theorem selectAll_last_returns :
    ∃ newConfig newCmdline,
      selectAll ("dtparam=audio\r\n", "root=/dev/a threadirqs\n")
          [⟨"rt", true⟩, ⟨"standard", false⟩] =
          .ok (newConfig, newCmdline) ∧
        (textLines newConfig.toList).filter isPrefixLine =
          ["os_prefix=standard/".toList] ∧
        (pySplit newCmdline).count "threadirqs" = 0 := by
  rcases @selectAll_last "dtparam=audio\r\n"
      "root=/dev/a threadirqs\n" (by decide +kernel)
      (by decide +kernel) [⟨"rt", true⟩, ⟨"standard", false⟩]
      (by decide +kernel) (by decide) with
    ⟨newConfig, newCmdline, hAll, -, hLine, -, -, hCount⟩
  exact ⟨newConfig, newCmdline, hAll, hLine, hCount⟩

end Reproduction

end RsCamera
