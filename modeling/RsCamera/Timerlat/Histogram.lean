import Mathlib.Data.List.Sort
import Mathlib.Data.Rat.Floor
import Mathlib.Data.String.Basic
import RsCamera.Lib.Containers
import RsCamera.Lib.Dict
import RsCamera.Lib.Lines
import RsCamera.Lib.Numeral
import RsCamera.Lib.Ranks

/-
  The histograms of `rtla timerlat hist`
  (`parse_timerlat_histogram` in `timerlat_parser.py`).

  A line is a header, a bucket, a line of the summary or the
  overflow line; every header starts anew.  The parser checks
  that the buckets and the overflow of a column make up its
  count.  Quantiles are exact here.

  Key definitions include:
    * `Line`, `readLine`
    * `Parsed`, `Parsed.step`
    * `nearestRank`, `makeContext`
    * `parseTimerlatHistogram`
-/

------------------------------------------------------------
-- Lines
------------------------------------------------------------

namespace RsCamera

namespace Timerlat

/- What the parser sees in a line. -/
inductive Line
| skipped
| header (columns : List String)
| summary (key : String) (tokens : List String)
| overflow (tokens : List String)
| bucket (latency : String) (tokens : List String)
deriving DecidableEq, Repr

/- The lines of the summary. -/
def summaryKeys : List String :=
  ["count", "min", "avg", "max"]

/-
  `^label:\s+(.+)$`: the tokens of the group.  A stripped line
  that goes on with a space goes on with a token.
-/
def labelled?
    (label : String)
    (line : List Char) : Option (List String) :=
  let stem := label.toList ++ [':']
  let rest := line.drop stem.length
  if stem.isPrefixOf line && rest.head?.any isPySpace then
    some (pySplit (String.ofList rest))
  else
    none

/- `^(\d+)\s+(.+)$`. -/
def bucket?
    (line : List Char) : Option (String × List String) :=
  let digits := line.takeWhile isDecimal
  let rest := line.dropWhile isDecimal
  if digits ≠ [] && rest.head?.any isPySpace then
    some (String.ofList digits, pySplit (String.ofList rest))
  else
    none

/- The expressions in the order in which they are tried. -/
def dataLine (line : List Char) : Line :=
  match summaryKeys.findSome? (fun key =>
      (labelled? key line).map (Line.summary key)) with
  | some summary => summary
  | none =>
      match labelled? "over" line with
      | some tokens => .overflow tokens
      | none =>
          match bucket? line with
          | some (latency, tokens) => .bucket latency tokens
          | none => .skipped

/- What a line says, by its first word. -/
def readLine (raw : List Char) : Line :=
  let line := pyStrip raw
  if line = [] ∨ line.head? = some '#' then
    .skipped
  else if "Index ".toList.isPrefixOf line then
    .header (pySplit (String.ofList line)).tail
  else
    dataLine line

------------------------------------------------------------
-- Collecting
------------------------------------------------------------

/- The tables of the parser. -/
structure Parsed where
  columns : List String
  histograms : Dict String (Dict Int Int)
  summary : Dict String (Dict String Int)
  overflow : Dict String Int

/- Before the header. -/
def Parsed.empty : Parsed where
  columns := []
  histograms := ∅
  summary := ∅
  overflow := ∅

/- `{column: value for column in columns}`. -/
def forColumns
    {V : Type}
    (columns : List String)
    (value : V) : Dict String V :=
  (∅ : Dict String V).update
    (columns.map (fun column => (column, value)))

/- A header starts all columns anew. -/
def Parsed.start (columns : List String) : Parsed where
  columns := columns
  histograms := forColumns columns ∅
  summary := forColumns columns ∅
  overflow := forColumns columns 0

/- `_integers`. -/
def integers (tokens : List String) :
    Except String (List Int) :=
  tokens.mapM pyInt

/- A number for each column. -/
def columnValues
    (columns tokens : List String)
    (error : String) :
    Except String (List (String × Int)) := do
  let values ← integers tokens
  if values.length ≠ columns.length then
    .error error
  else
    .ok (columns.zip values)

/- One number of the summary. -/
def setSummary
    (key : String)
    (summary : Dict String (Dict String Int))
    (item : String × Int) : Dict String (Dict String Int) :=
  summary.set item.1
    ((summary.getD item.1 ∅).set key item.2)

/- A bucket without samples is not stored. -/
def setBucket
    (latency : Int)
    (histograms : Dict String (Dict Int Int))
    (item : String × Int) : Dict String (Dict Int Int) :=
  if item.2 ≠ 0 then
    histograms.set item.1
      ((histograms.getD item.1 ∅).set latency item.2)
  else
    histograms

/- Before the first header nothing is read. -/
def Parsed.step
    (parsed : Parsed)
    (line : Line) : Except String Parsed :=
  match line with
  | .skipped => .ok parsed
  | .header columns => .ok (Parsed.start columns)
  | .summary key tokens =>
      if parsed.columns = [] then
        .ok parsed
      else do
        let items ← columnValues parsed.columns tokens
          ("Timerlat " ++ key ++
            " column count does not match header")
        .ok
          { parsed with
            summary :=
              items.foldl (setSummary key) parsed.summary }
  | .overflow tokens =>
      if parsed.columns = [] then
        .ok parsed
      else do
        let items ← columnValues parsed.columns tokens
          "Timerlat overflow column count does not match header"
        .ok
          { parsed with
            overflow := (∅ : Dict String Int).update items }
  | .bucket latency tokens =>
      if parsed.columns = [] then
        .ok parsed
      else do
        let latencyUs ← pyInt latency
        let items ← columnValues parsed.columns tokens
          ("Timerlat histogram column count does not " ++
            "match header")
        .ok
          { parsed with
            histograms :=
              items.foldl (setBucket latencyUs)
                parsed.histograms }

/- The lines of the output. -/
def readLines (text : String) : List Line :=
  (splitLines text.toList).map readLine

/- The loop over the lines. -/
def collect (text : String) : Except String Parsed :=
  (readLines text).foldlM Parsed.step Parsed.empty

------------------------------------------------------------
-- The Report
------------------------------------------------------------

/- The buckets in the order of their latencies. -/
def sortedBuckets
    (buckets : Dict Int Int) : List (Int × Int) :=
  buckets.items.insertionSort (fun left right =>
    left.1 ≤ right.1)

/- The rank of a quantile, as `_nearest_rank` finds it. -/
def targetRank (total : Int) (quantile : ℚ) : Int :=
  max 1 ⌊(total : ℚ) * quantile + 999999999 / 1000000000⌋

/- `_nearest_rank`. -/
def nearestRank
    (buckets : Dict Int Int)
    (total : Int)
    (quantile : ℚ) : Option Int :=
  if total ≤ 0 then
    none
  else
    Ranks.firstReaching (targetRank total quantile) 0
      (sortedBuckets buckets)

/- The quantiles of a report. -/
inductive Quantile
| p50
| p99
| p999
| p9999
deriving DecidableEq, Repr

/- The share of the samples. -/
def Quantile.value : Quantile → ℚ
| .p50 => 50 / 100
| .p99 => 99 / 100
| .p999 => 999 / 1000
| .p9999 => 9999 / 10000

/- The report of a column. -/
structure Context where
  count : Int
  min : Int
  avg : Int
  max : Int
  overflow : Int
  histogramCount : Int
  p50Us : Option Int
  p99Us : Option Int
  p999Us : Option Int
  p9999Us : Option Int
deriving DecidableEq, Repr

/- A quantile of the report. -/
def Context.quantile (context : Context) : Quantile → Option Int
| .p50 => context.p50Us
| .p99 => context.p99Us
| .p999 => context.p999Us
| .p9999 => context.p9999Us

/- The keys that a column lacks. -/
def missingKeys
    (parsed : Parsed)
    (column : String) : List String :=
  (summaryKeys.filter (fun key =>
    key ∉ (parsed.summary.getD column ∅).keys)).map
      (fun key => column ++ ":" ++ key)

/- The samples have to add up to the count. -/
def makeContext
    (parsed : Parsed)
    (column : String) : Except String Context :=
  let buckets := parsed.histograms.getD column ∅
  let summary := parsed.summary.getD column ∅
  let inRangeCount := (buckets.items.map Prod.snd).sum
  let total := summary.getD "count" 0
  let overflow := parsed.overflow.getD column 0
  if inRangeCount + overflow ≠ total then
    .error
      ("Timerlat sample count mismatch for " ++ column ++
        ": histogram=" ++ toString inRangeCount ++
        ", over=" ++ toString overflow ++
        ", count=" ++ toString total)
  else
    .ok
      { count := total
        min := summary.getD "min" 0
        avg := summary.getD "avg" 0
        max := summary.getD "max" 0
        overflow := overflow
        histogramCount := inRangeCount
        p50Us := nearestRank buckets total (50 / 100)
        p99Us := nearestRank buckets total (99 / 100)
        p999Us := nearestRank buckets total (999 / 1000)
        p9999Us := nearestRank buckets total (9999 / 10000) }

/- `_maximum_known`: one unknown value makes it unknown. -/
def maximumKnown (values : List (Option Int)) : Option Int :=
  if values = [] then
    some 0
  else if none ∈ values then
    none
  else
    (values.filterMap id).max?

/- The report over all processors. -/
structure Global where
  irqMaxUs : Int
  threadMaxUs : Int
  irqP999UsMaxCpu : Option Int
  threadP999UsMaxCpu : Option Int
  overflowSamples : Int
deriving DecidableEq, Repr

/- The whole report. -/
structure Report where
  schemaVersion : Nat
  columns : List String
  contexts : Dict String Context
  overall : Global

/- The contexts whose columns start with a text. -/
def contextsOf
    (stem : String)
    (contexts : Dict String Context) : List Context :=
  (contexts.items.filter (fun item =>
    stem.toList.isPrefixOf item.1.toList)).map Prod.snd

/- The worst of all processors. -/
def makeGlobal
    (contexts : Dict String Context)
    (overflow : Dict String Int) : Global :=
  let irqContexts := contextsOf "IRQ-" contexts
  let threadContexts := contextsOf "Thr-" contexts
  { irqMaxUs := (irqContexts.map Context.max).max?.getD 0
    threadMaxUs := (threadContexts.map Context.max).max?.getD 0
    irqP999UsMaxCpu :=
      maximumKnown (irqContexts.map Context.p999Us)
    threadP999UsMaxCpu :=
      maximumKnown (threadContexts.map Context.p999Us)
    overflowSamples := (overflow.items.map Prod.snd).sum }

/- `parse_timerlat_histogram`. -/
def parseTimerlatHistogram
    (text : String) : Except String Report := do
  let parsed ← collect text
  if parsed.columns = [] then
    .error "Timerlat histogram header was not found"
  else if parsed.columns.flatMap (missingKeys parsed) ≠ [] then
    .error
      ("Timerlat summary is incomplete: " ++
        String.intercalate ", "
          (parsed.columns.flatMap (missingKeys parsed)))
  else do
    let contexts ← parsed.columns.foldlM
      (fun contexts column => do
        let context ← makeContext parsed column
        .ok (contexts.set column context))
      (∅ : Dict String Context)
    .ok
      { schemaVersion := 1
        columns := parsed.columns
        contexts := contexts
        overall := makeGlobal contexts parsed.overflow }

end Timerlat

end RsCamera
