import RsCamera.Lib.Effect
import RsCamera.Reproduction.CaseFiles
import RsCamera.Reproduction.Refresh
import RsCamera.Reproduction.ScriptText

/-
  The adapters of a campaign, made from the scripts of the
  repository (`prepare`).

  Each adapter is made from a script by a chain of rewrites
  and is then written; a rewrite that does not find its text
  raises, and what was written before stays written.  The
  sources are the files under `tools/realsense_steady_bench`.

  Key definitions include:
    * `LoadedConfig`, `loadedIdentity`
    * `PrepareSetup`, `PrepareSetup.adapterText`
    * `smokeText`
    * `Directory`, `PrepareSetup.prepare`

  Key theorems include:
    * `smokeText_returns`
    * `toOption_read_bind`, `toOption_configureModel`
-/

------------------------------------------------------------
-- Configurations
------------------------------------------------------------

namespace RsCamera

namespace Reproduction

/-
  What `load_config` returns: the configuration and the fields
  it adds.  Two of these are read with a default.
-/
structure LoadedConfig where
  config : CameraConfig
  d435Serials : List String
  singleD435Serial : Option String
  startupSerial : Option String
  d455Serial : String
  e3Irqs : List (String × Int × String)
deriving DecidableEq

/- All but the numbers and labels of the interrupts. -/
structure LoadedIdentity where
  config : Identity
  d435Serials : List String
  singleD435Serial : Option String
  startupSerial : Option String
  d455Serial : String
deriving DecidableEq

/- What `e3-one.sh` alone does not depend on. -/
def loadedIdentity (cfg : LoadedConfig) : LoadedIdentity where
  config := cameraIdentity cfg.config
  d435Serials := cfg.d435Serials
  singleD435Serial := cfg.singleD435Serial
  startupSerial := cfg.startupSerial
  d455Serial := cfg.d455Serial

/- A name that is not there raises a `KeyError`. -/
def CameraConfig.cameraOf
    (cfg : CameraConfig)
    (name : String) : Except String Camera :=
  match cfg.lookup name with
  | none => .error ("'" ++ name ++ "'")
  | some camera => .ok camera

/- The checks of `load_config`, and the fields behind them. -/
def loadFields (cfg : CameraConfig) : Except String LoadedConfig := do
  let cfg ← loadConfig cfg
  let pair ← cfg.selection.d435Pair.mapM cfg.cameraOf
  let single ← cfg.cameraOf cfg.selection.singleD435
  let startup ← cfg.cameraOf cfg.selection.startupD435
  let d455 ← cfg.cameraOf cfg.selection.singleD455
  .ok
    { config := cfg
      d435Serials := pair.map Camera.serial
      singleD435Serial := some single.serial
      startupSerial := some startup.serial
      d455Serial := d455.serial
      e3Irqs :=
        [("d435", single.xhciIrq, single.xhciLabel),
          ("d455", d455.xhciIrq, d455.xhciLabel)] }

/- An index that is out of range raises. -/
def itemAt
    (items : List String)
    (index : Nat) : Except String String :=
  match items[index]? with
  | none => .error "list index out of range"
  | some item => .ok item

/- The default of `dict.get` is evaluated in any case. -/
def LoadedConfig.singleD435
    (cfg : LoadedConfig) : Except String String := do
  let fallback ← itemAt cfg.d435Serials 1
  .ok (cfg.singleD435Serial.getD fallback)

/- The serial of the startup camera. -/
def LoadedConfig.startup
    (cfg : LoadedConfig) : Except String String := do
  let fallback ← itemAt cfg.d435Serials 0
  .ok (cfg.startupSerial.getD fallback)

------------------------------------------------------------
-- Sources
------------------------------------------------------------

/- A file of the repository and its digest. -/
structure SourceFile where
  digest : String
  text : String

/-
  The repository and the campaign directory, the scripts, the
  representation of floats, what `sh -n` accepts, and the
  digest of a text.
-/
structure PrepareSetup where
  repo : String
  root : String
  source : String → Option SourceFile
  floatRepr : List Char → List Char
  shAccepts : String → Bool
  digest : String → String

/- Only the root directory ends with a slash. -/
def joinPath (folder name : String) : String :=
  if endsWith folder "/" then
    folder ++ name
  else
    folder ++ "/" ++ name

namespace PrepareSetup

variable (setup : PrepareSetup)

/- The directory of the source scripts. -/
def tool : String :=
  joinPath setup.repo "tools/realsense_steady_bench"

/- The directory of the adapters. -/
def entry : String :=
  joinPath setup.root "entrypoints"

/- A path in the campaign directory, as a word of the shell. -/
def rootPath (name : String) : String :=
  quote (joinPath setup.root name)

/- The text of a source script, with its tool directory. -/
def read (name : String) : Except String String :=
  match setup.source name with
  | none =>
      .error
        ("No such file or directory: " ++
          joinPath setup.tool name)
  | some file =>
      let text :=
        replaceAll file.text
          "repo=/home/safebot/program/rs-camera"
          ("repo=" ++ quote setup.repo)
      .ok
        (replaceAll text "/home/safebot/.local/state/"
          (joinPath setup.root "state" ++ "/"))

/- `str.lstrip('.')`. -/
def withoutDots (name : String) : String :=
  String.ofList (name.toList.dropWhile (fun c => c = '.'))

/- The sources of the case files, in their order. -/
def caseSources : List String :=
  [".d1_h1_single_d435_20260819.json",
    ".h1_single_d455_20260819.json",
    "p1_v2_cases_20260820.json",
    ".model_stream_ablation_cases_20260812.json"]

/- The scripts read the generated case files. -/
def configPaths (text : String) : String :=
  caseSources.foldl
    (fun text name =>
      replaceAll text ("\"$tool_dir/" ++ name ++ "\"")
        (quote (joinPath setup.entry (withoutDots name))))
    text

/- The serials are chosen by the name of the file. -/
def caseSerials
    (cfg : LoadedConfig)
    (single startup name : String) : List String :=
  if startsWith name "p1_" then
    cfg.d435Serials
  else if contains name "ablation" then
    [startup]
  else if contains name "d455" then
    [cfg.d455Serial]
  else
    [single]

/- A case file with the serials of the cameras. -/
def caseText
    (cfg : LoadedConfig)
    (single startup name : String) : Except String String := do
  let text ← setup.read name
  caseFile setup.floatRepr (startsWith name "p1_")
    (caseSerials cfg single startup name) text

end PrepareSetup

end Reproduction

end RsCamera

------------------------------------------------------------
-- Adapters
------------------------------------------------------------

namespace RsCamera

namespace Reproduction

namespace PrepareSetup

variable (setup : PrepareSetup)

/- The line that reads the state file. -/
def stateLine : String :=
  "state=$(cat \"$state_file\" 2>/dev/null || " ++
    "printf '%s' prepare)"

/- The lines that build the monitor. -/
def monitorBuild : String :=
  "sudo -n true\n\"$tool_dir/build_uvc_worker_fifo_monitor.sh\" " ++
    "\"$monitor_build\"\n"

/- `e1.sh`. -/
def e1Text
    (cfg : LoadedConfig)
    (single : String) : Except String String := do
  let text ← setup.read ".c1_full_receive_path_20260819.sh"
  let text ← assignment text "d435_serial" single
  let text ← assignment text "d455_serial" cfg.d455Serial
  let text ←
    replaceOnce text
      "repo=$(CDPATH= cd -- \"$(dirname \"$0\")/../..\" && pwd)"
      ("repo=" ++ quote setup.repo)
  let text ←
    replaceOnce text
      ("output=$\x7b1:-$repo/tools/realsense_steady_bench/" ++
        "results/c1_full_receive_path_20260819\x7d")
      ("output=" ++ setup.rootPath "e1")
  replaceOnce text
    "python3 \"$path_analyzer\" \"$attempt_dir\" || true"
    "python3 \"$path_analyzer\" \"$attempt_dir\" || return 1"

/- The three stages of E2 differ in their last line. -/
def e2Text
    (single suffix : String) : Except String String := do
  let text ← setup.read ".d1_h1_single_d435_20260819.sh"
  let text ←
    assignment (setup.configPaths text) "serial" single
  let text ← before text stateLine
  let text ←
    replaceOnce text
      "result_root=\"$tool_dir/results/d1_h1_single_d435_20260819\""
      ("result_root=" ++ setup.rootPath "e2")
  .ok (text ++ "\nsudo -n true\n" ++ suffix)

/- The assignments in the branch of one camera model. -/
def configureCamera
    (serial : String)
    (irq : Int × String)
    (block : String) : Except String String := do
  let block ← assignment block "serial" serial
  let block ← assignment block "xhci_irq" (toString irq.1)
  assignment block "xhci_label" irq.2

/- The case of one model in `e3-one.sh`, which is there once. -/
def configureModel
    (cfg : LoadedConfig)
    (model serial text : String) : Except String String := do
  match cfg.e3Irqs.lookup model with
  | none => .error ("'" ++ model ++ "'")
  | some irq => do
      let configured ←
        configureCases model (configureCamera serial irq) text
      if configured.2 ≠ 1 then
        .error
          ("Expected one " ++ model ++ " case in E3 adapter")
      else
        .ok configured.1

/- `e3-one.sh`, the one script with the interrupts. -/
def e3OneText
    (cfg : LoadedConfig)
    (single : String) : Except String String := do
  let one ← setup.read ".run_h1_replacement_one_20260819.sh"
  let one := setup.configPaths one
  let one :=
    replaceAll one
      ("\"$tool_dir/results/d1_h1_single_d435_20260819/" ++
        "profiles/stress.csv\"")
      (setup.rootPath "e2/profiles/stress.csv")
  let one :=
    replaceAll one
      ("\"$tool_dir/results/h1_replacement_profiles/" ++
        "d455_stress60_fullpath.csv\"")
      (setup.rootPath "e1/profiles/d455_stress60.csv")
  let one ← configureModel cfg "d435" single one
  let one ← configureModel cfg "d455" cfg.d455Serial one
  replaceOnce one "sudo -n true\n" monitorBuild

/- `e3.sh`. -/
def e3Text : Except String String := do
  let text ← setup.read ".run_h1_replacement_matrix_20260819.sh"
  let text ←
    replaceOnce text
      "one=\"$tool_dir/.run_h1_replacement_one_20260819.sh\""
      ("one=" ++ quote (joinPath setup.entry "e3-one.sh"))
  replaceOnce text
    ("root=\"$tool_dir/results/" ++
      "h1_replacement_targeted_starvation_20260819\"")
    ("root=" ++ setup.rootPath "e3")

/- `e4-calibrate.sh`. -/
def e4CalibrateText : Except String String := do
  let text ← setup.read "run_p1_v2_calibration_20260820.sh"
  let text ←
    replaceOnce (setup.configPaths text)
      ("result_root=\"$tool_dir/results/" ++
        "p1_cross_layer_v2_20260820/calibration\"")
      ("result_root=" ++ setup.rootPath "e4-calibration")
  let text ←
    replaceOnce text
      ("profiles=\"$tool_dir/results/" ++
        "p1_cross_layer_v2_20260820/profiles\"")
      ("profiles=" ++ setup.rootPath "e4-profiles")
  replaceOnce text "sudo -n true\n" monitorBuild

/- What a phase of E4 does for one of its two scopes. -/
def scopeLines
    (phase policies kernel threading scope : String) : String :=
  String.intercalate "\n"
    ["result_root=" ++ setup.rootPath ("e4-" ++ scope),
      "profiles=" ++ setup.rootPath "e4-profiles",
      "p1_trace_mode=host-latency",
      "p1_workload_scope=" ++ scope,
      "mkdir -p \"$result_root\"",
      "run_phase " ++ phase ++ " " ++ quote policies ++ " " ++
        kernel ++ " " ++ threading,
      ""]

/- One of the three `e4` scripts. -/
def e4Text
    (phase policies kernel threading : String) :
    Except String String := do
  let text ← setup.read "run_p1_cross_layer_v2_20260820.sh"
  let text ←
    before (setup.configPaths text)
      ("sudo -n true\n" ++ stateLine)
  let text ←
    replaceOnce text
      ("result_root=$\x7bRS_P1_RESULT_ROOT:-$tool_dir/results/" ++
        "p1_cross_layer_v2_20260820\x7d")
      ("result_root=" ++ setup.rootPath "e4")
  let text ←
    replaceOnce text "    disable_wifi\n    disable_autosuspend"
      "    disable_autosuspend"
  .ok
    (text ++ "\nsudo -n true\n" ++
      setup.scopeLines phase policies kernel threading
        "representative" ++
      setup.scopeLines phase policies kernel threading "stress")

/- `ablation.sh`. -/
def ablationText : Except String String := do
  let text ← setup.read ".model_stream_ablation_20260812.sh"
  let text ← before (setup.configPaths text) stateLine
  let text ←
    replaceOnce text
      ("result_root=\"$tool_dir/results/" ++
        "model_stream_ablation_20260812\"")
      ("result_root=" ++ setup.rootPath "ablation")
  let text ←
    replaceOnce text
      ("    sudo -n systemctl stop wpa_supplicant.service " ++
        "2>/dev/null || true\n" ++
        "    sudo -n ip link set wlan0 down 2>/dev/null || true\n")
      ""
  .ok (text ++ "\nsudo -n true\nrun_kernel standard\n")

/- The interpreter of the repository. -/
def python : String :=
  joinPath setup.repo ".venv/bin/python"

/- The command of `startup.sh`. -/
def startupCommand (startup : String) : List String :=
  [setup.python,
    joinPath setup.repo
      "tools/realsense_startup_bench/run_startup_campaign.py",
    "--policies", "other", "--recover-on-failure", "full-reset",
    "--max-attempts-per-run", "3",
    "--recovery-settle-seconds", "0",
    "--recovery-wait-seconds", "1.2",
    "--recovery-reset-timeout-ms", "5000",
    "--frame-timeout-ms", "1500", "--join-timeout-ms", "10",
    "--cycles", "1", "--frames", "60", "--nb-runs", "20",
    "--serial", startup,
    "--build-dir",
    joinPath setup.repo "build-realsense-thread-trace",
    "--results-dir", joinPath setup.root "startup"]

/- The command of `overhead.sh`. -/
def overheadCommand (single : String) : List String :=
  [setup.python, joinPath setup.tool "run_diagnostic_overhead.py",
    "--serial", single,
    "--results-dir", joinPath setup.root "overhead",
    "--build-jobs", "3"]

/- The command of `diagnosis.sh`. -/
def diagnosisCommand (first second : String) : List String :=
  [setup.python, joinPath setup.tool "run_steady_campaign.py",
    "--config",
    joinPath setup.tool "configs/timing_trace_60s.json",
    "--case", "representative_depth_color_30fps_60s_trace",
    "--policies", "other", "--freshness-kernel-trace",
    "--measurement-duration-seconds", "600", "--nb-runs", "1",
    "--serial", first, "--serial", second,
    "--recover-on-failure", "full-reset",
    "--max-attempts-per-run", "3",
    "--results-dir", joinPath setup.root "diagnosis"]

/- A script that runs one command. -/
def commandText (command : List String) : String :=
  "#!/bin/sh\nset -eu\ncd " ++ quote setup.repo ++ "\nexec " ++
    quoteAll command ++ "\n"

/- The releases of `KERNELS` that E4 names. -/
def standardRelease : String :=
  "6.12.96-rpi5-standard-btf-uvc16+"

/- The kernel of the real-time phase. -/
def rtRelease : String :=
  "6.12.96-rpi5-rt-btf-uvc16+"

/- The text of an adapter before `write`. -/
def adapterText
    (cfg : LoadedConfig)
    (single startup : String) :
    Adapter → Except String String
| .d1H1SingleD435 =>
    setup.caseText cfg single startup
      ".d1_h1_single_d435_20260819.json"
| .h1SingleD455 =>
    setup.caseText cfg single startup
      ".h1_single_d455_20260819.json"
| .p1V2Cases =>
    setup.caseText cfg single startup "p1_v2_cases_20260820.json"
| .ablationCases =>
    setup.caseText cfg single startup
      ".model_stream_ablation_cases_20260812.json"
| .e1 => setup.e1Text cfg single
| .e2Calibrate => setup.e2Text single "calibrate_profiles\n"
| .e2Urb5 =>
    setup.e2Text single
      "run_cell d1-uvc5-standard-hardirq 5 hardirq\n"
| .e2Urb16 =>
    setup.e2Text single
      "run_cell d1-h1-uvc16-standard-hardirq 16 hardirq\n"
| .e3One => setup.e3OneText cfg single
| .e3 => setup.e3Text
| .e4Calibrate => setup.e4CalibrateText
| .e4StandardHardirq =>
    setup.e4Text "standard-hardirq" "other" standardRelease "no"
| .e4StandardThreaded =>
    setup.e4Text "standard-threaded" "rr-rm fifo-rm deadline"
      standardRelease "yes"
| .e4RtThreaded =>
    setup.e4Text "rt-threaded" "other rr-rm fifo-rm deadline"
      rtRelease "yes"
| .ablation => setup.ablationText
| .startup =>
    .ok (setup.commandText (setup.startupCommand startup))
| .overhead =>
    .ok (setup.commandText (setup.overheadCommand single))
| .diagnosis => do
    let first ← itemAt cfg.d435Serials 0
    let second ← itemAt cfg.d435Serials 1
    .ok (setup.commandText (setup.diagnosisCommand first second))

end PrepareSetup

end Reproduction

end RsCamera

------------------------------------------------------------
-- Smoke Tests
------------------------------------------------------------

namespace RsCamera

namespace Reproduction

/- The characters that `rstrip("\n'")` removes. -/
def isRowEnd (c : Char) : Bool :=
  c = '\n' || c = '\''

/- The line that opens the matrix. -/
def isMatrixStart (line : List Char) : Bool :=
  "matrix='".toList.isPrefixOf line

/- The line that closes it. -/
def isMatrixEnd (line : List Char) : Bool :=
  ['\''].isSuffixOf (dropRight isPySpace line)

/- A row of the matrix that a smoke test keeps. -/
def isFirstRepetition (line : List Char) : Bool :=
  ":1".toList.isSuffixOf (dropRight isRowEnd line)

/- The index of a line; there must be one. -/
def lineIndex
    (wanted : List Char → Bool)
    (start : Nat)
    (lines : List (List Char)) : Except String Nat :=
  match (lines.drop start).findIdx? wanted with
  | none => .error "StopIteration"
  | some index => .ok (start + index)

/- Only the rows of the first repetition are left. -/
def smokeMatrix (text : String) : Except String String := do
  let lines := keepLines text.toList
  let first ← lineIndex isMatrixStart 0 lines
  let last ← lineIndex isMatrixEnd (first + 1) lines
  let rows := (lines.take (last + 1)).drop first
  let retained :=
    (rows.filter isFirstRepetition).map (dropRight isRowEnd)
  .ok
    (String.ofList
      ((lines.take first).flatten ++
        (['\n'].intercalate retained ++ "'\n".toList) ++
        (lines.drop (last + 1)).flatten))

/- The seconds of a smoke test. -/
def smokeSeconds
    (protocol : Protocol)
    (name : String) : Nat :=
  if name ∈ ["e1.sh", "e2-calibrate.sh", "e4-calibrate.sh"] then
    protocol.calibrationSeconds
  else
    3

/- The replacements that are made in every script. -/
def smokeReplacements (seconds : Nat) : List (String × String) :=
  [("--measurement-duration-seconds 30",
      "--measurement-duration-seconds " ++ toString seconds),
    ("--measurement-duration-ms 30000",
      "--measurement-duration-ms " ++ toString (seconds * 1000)),
    ("measurement_seconds=30",
      "measurement_seconds=" ++ toString seconds),
    ("--nb-runs 3", "--nb-runs 1"),
    ("if len(rows) != 3:", "if len(rows) != 1:"),
    ("expected three repetitions",
      "expected one smoke repetition"),
    ("for repetition in 1 2 3;", "for repetition in 1;"),
    ("[ \"$run_count\" -eq 3 ]", "[ \"$run_count\" -eq 1 ]"),
    ("while [ \"$round\" -le 3 ];", "while [ \"$round\" -le 1 ];")]

/- A chain of `replace`. -/
def replaceEach
    (text : String)
    (replacements : List (String × String)) : String :=
  replacements.foldl
    (fun text pair => replaceAll text pair.1 pair.2) text

/- What `write` makes of a text. -/
def smokeText
    (protocol : Protocol)
    (name text : String) : Except String String := do
  if protocol.smoke && endsWith name ".sh" then
    let text :=
      replaceEach text
        (smokeReplacements (smokeSeconds protocol name))
    let text ←
      if name = "e3.sh" then do
        let text ← smokeMatrix text
        .ok
          (replaceAll text "x 3 repetitions"
            "x 1 smoke repetition")
      else
        .ok text
    let text :=
      if name = "e3-one.sh" then
        replaceEach text
          [("--duration 40", "--duration 8"),
            ("time.monotonic()+40.0", "time.monotonic()+8.0")]
      else
        text
    let text :=
      replaceEach text
        [("repetitions=3", "repetitions=1"),
          ("all 12 logical runs",
            "all 4 smoke calibration runs")]
    .ok
      (replaceFirst text "#!/bin/sh\n"
        ("#!/bin/sh\n# SMOKE TEST: one repetition; " ++
          "not paper performance evidence.\n"))
  else
    .ok text

------------------------------------------------------------
-- Writing
------------------------------------------------------------

/- `prepared.json`, with the digests of sources and adapters. -/
structure Manifest where
  repo : String
  config : LoadedConfig
  protocol : Protocol
  adapterSources : List (String × String)
  entrypoints : List (String × String)
deriving DecidableEq

/- The files of `entrypoints` are kept by their names. -/
structure Directory where
  cameraConfig : Option CameraConfig
  files : Dict String String
  prepared : Option Manifest

/- `write_text`. -/
def Directory.write
    (dir : Directory)
    (name text : String) : Directory :=
  { dir with files := dir.files.set name text }

/- The scripts in the order in which they are read. -/
def readOrder : List String :=
  PrepareSetup.caseSources ++
    [".c1_full_receive_path_20260819.sh",
      ".d1_h1_single_d435_20260819.sh",
      ".run_h1_replacement_one_20260819.sh",
      ".run_h1_replacement_matrix_20260819.sh",
      "run_p1_v2_calibration_20260820.sh",
      "run_p1_cross_layer_v2_20260820.sh",
      ".model_stream_ablation_20260812.sh"]

namespace PrepareSetup

variable (setup : PrepareSetup)

/- A file is written before its syntax is checked. -/
def writeAdapter
    (protocol : Protocol)
    (cfg : LoadedConfig)
    (single startup : String)
    (adapter : Adapter) : Effect Directory Unit := do
  let text ←
    Effect.ask (fun _ =>
      setup.adapterText cfg single startup adapter)
  let text ←
    Effect.ask (fun _ => smokeText protocol adapter.name text)
  modify (fun dir => dir.write adapter.name text)
  if endsWith adapter.name ".sh" && !setup.shAccepts text then
    throw
      ("Command '['sh', '-n', '" ++
        joinPath setup.entry adapter.name ++
        "']' returned non-zero exit status 2.")

/- What an earlier run in the directory permits. -/
def checkPriorRun
    (protocol : Protocol)
    (allowIrqRefresh : Bool)
    (cfg : LoadedConfig)
    (prior : Manifest) : Except String Unit := do
  checkThat (prior.protocol = protocol)
    "Use a new output directory for a different capture protocol"
  let same : Bool :=
    if allowIrqRefresh then
      loadedIdentity prior.config = loadedIdentity cfg
    else
      prior.config = cfg
  checkThat (same && prior.repo = setup.repo)
    ("Use a new output directory for a different " ++
      "configuration/repository")

/- The manifest of the written adapters. -/
def makeManifest
    (protocol : Protocol)
    (cfg : LoadedConfig)
    (dir : Directory) : Manifest where
  repo := setup.repo
  config := cfg
  protocol := protocol
  adapterSources :=
    readOrder.filterMap (fun name =>
      (setup.source name).map (fun file =>
        ("tools/realsense_steady_bench/" ++ name, file.digest)))
  entrypoints :=
    (dir.files.items.mergeSort (fun left right =>
        decide (left.1 ≤ right.1))).map
      (fun file => (file.1, setup.digest file.2))

/- `prepare`. -/
def prepare
    (protocol : Protocol)
    (allowIrqRefresh : Bool)
    (cfg : LoadedConfig) : Effect Directory Manifest := do
  Effect.ask (fun dir =>
    match dir.prepared with
    | none => .ok ()
    | some prior =>
        setup.checkPriorRun protocol allowIrqRefresh cfg prior)
  let single ← Effect.ask (fun _ => cfg.singleD435)
  let startup ← Effect.ask (fun _ => cfg.startup)
  Effect.forEach
    (setup.writeAdapter protocol cfg single startup)
    adapterOrder
  let dir ← get
  let manifest := setup.makeManifest protocol cfg dir
  set { dir with prepared := some manifest }
  return manifest

end PrepareSetup

------------------------------------------------------------
-- Adapters As Characters
------------------------------------------------------------

/- The lines that a matrix of runs keeps for a smoke test. -/
theorem toList_replaceEach
    (text : String)
    (replacements : List (String × String)) :
    (replaceEach text replacements).toList =
      replacements.foldl
        (fun text pair =>
          replaceChars pair.1.toList pair.2.toList text)
        text.toList := by
  unfold replaceEach
  induction replacements generalizing text with
  | nil => rfl
  | cons pair rest ih =>
      rw [List.foldl_cons, List.foldl_cons, ih,
        toList_replaceAll]

/- A smoke test can fail at the matrix of runs only. -/
theorem smokeText_returns
    (protocol : Protocol)
    (name text : String)
    (hMatrix :
      protocol.smoke = true →
        name = "e3.sh" →
          (smokeMatrix
            (replaceEach text
              (smokeReplacements
                (smokeSeconds protocol name)))).toOption.isSome) :
    (smokeText protocol name text).toOption.isSome := by
  unfold smokeText
  by_cases hSmoke : (protocol.smoke && endsWith name ".sh") = true
  · rw [if_pos hSmoke]
    rw [Bool.and_eq_true] at hSmoke
    simp only
    by_cases hName : name = "e3.sh"
    · have hMade := hMatrix hSmoke.1 hName
      rw [if_pos hName]
      cases hRows :
          smokeMatrix
            (replaceEach text
              (smokeReplacements
                (smokeSeconds protocol name))) with
      | error error =>
          rw [hRows] at hMade
          cases hMade
      | ok rows => rfl
    · rw [if_neg hName]
      rfl
  · rw [if_neg hSmoke]
    rfl

theorem toOption_configureCases
    {configure : String → Except String String}
    {chars : List Char → Option (List Char)}
    (hChars :
      ∀ block,
        (configure (String.ofList block)).toOption =
          (chars block).map String.ofList)
    (model text : String) :
    (configureCases model configure text).toOption =
      (configureChars ("    " ++ model ++ ")").toList chars
        (text.toList.splitOn '\n').length
        (text.toList.splitOn '\n')).map
          (fun made => (String.ofList made.1, made.2)) := by
  unfold configureCases
  simp only
  rw [toOption_bind, toOption_configureLines hChars]
  cases configureChars ("    " ++ model ++ ")").toList chars
      (text.toList.splitOn '\n').length
      (text.toList.splitOn '\n') with
  | none => rfl
  | some made => rfl

namespace PrepareSetup

variable (setup : PrepareSetup)

/- The two replacements that are made in every source. -/
def readChars (text : List Char) : List Char :=
  replaceChars "/home/safebot/.local/state/".toList
    (joinPath setup.root "state" ++ "/").toList
    (replaceChars "repo=/home/safebot/program/rs-camera".toList
      ("repo=" ++ quote setup.repo).toList text)

theorem toOption_read_bind
    {A : Type}
    {name text digest : String}
    (hSource : setup.source name = some ⟨digest, text⟩)
    (next : String → Except String A) :
    (setup.read name >>= next).toOption =
      (next
        (String.ofList
          (setup.readChars text.toList))).toOption := by
  have hRead :
      setup.read name =
        .ok (String.ofList (setup.readChars text.toList)) := by
    rw [PrepareSetup.read, hSource, readChars,
      ← toList_replaceAll, ← toList_replaceAll,
      String.ofList_toList]
  rw [hRead]
  rfl

theorem toList_configPaths (text : String) :
    (setup.configPaths text).toList =
      caseSources.foldl
        (fun text name =>
          replaceChars
            ("\"$tool_dir/" ++ name ++ "\"").toList
            (quote
              (joinPath setup.entry
                (withoutDots name))).toList text)
        text.toList := by
  unfold configPaths
  induction caseSources generalizing text with
  | nil => rfl
  | cons name names ih =>
      rw [List.foldl_cons, List.foldl_cons, ih,
        toList_replaceAll]

/- The assignments in the branch of one camera model. -/
def cameraChars
    (serial : String)
    (irq : Int × String)
    (block : List Char) : Option (List Char) :=
  (assignOnce "serial" serial block).bind (fun block =>
    (assignOnce "xhci_irq" (toString irq.1) block).bind
      (assignOnce "xhci_label" irq.2))

theorem toOption_configureCamera
    (serial : String)
    (irq : Int × String)
    (block : List Char) :
    (configureCamera serial irq (String.ofList block)).toOption =
      (cameraChars serial irq block).map String.ofList := by
  unfold configureCamera cameraChars
  simp only [toOption_bind, toOption_assignment,
    String.toList_ofList, Option.bind_map, Option.map_bind,
    Function.comp_def]

theorem toOption_configureModel
    {cfg : LoadedConfig}
    {model : String}
    {irq : Int × String}
    (hIrq : cfg.e3Irqs.lookup model = some irq)
    (serial text : String) :
    (configureModel cfg model serial text).toOption =
      ((configureChars ("    " ++ model ++ ")").toList
        (cameraChars serial irq)
        (text.toList.splitOn '\n').length
        (text.toList.splitOn '\n')).filter
          (fun made => made.2 = 1)).map
            (fun made => String.ofList made.1) := by
  unfold configureModel
  rw [hIrq]
  simp only
  rw [toOption_bind,
    toOption_configureCases (toOption_configureCamera serial irq)]
  cases configureChars ("    " ++ model ++ ")").toList
      (cameraChars serial irq)
      (text.toList.splitOn '\n').length
      (text.toList.splitOn '\n') with
  | none => rfl
  | some made =>
      rw [Option.map_some, Option.bind_some]
      by_cases hOne : made.2 = 1
      · simp only [hOne, ne_eq, not_true_eq_false, if_false,
          Option.filter_some, decide_true, if_true]
        rfl
      · simp only [hOne, ne_eq, not_false_eq_true, if_true,
          Option.filter_some, decide_false, Bool.false_eq_true,
          if_false]
        rfl

end PrepareSetup

end Reproduction

end RsCamera
