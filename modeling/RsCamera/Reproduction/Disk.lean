import Mathlib.Logic.Function.Basic
import RsCamera.Reproduction.Rediscovery

/-
  The files of the discovery on a disk: `save_json` and the
  backups of `main` (`discover.py`), path by path.

  A run may be killed between any two accesses to the disk.
  A text that is being written is a part of one until it is
  complete; a rename takes place at once.

  Key definitions include:
    * `Disk`, `Access`, `Write.accesses`
    * `Apart`
    * `Shows`

  Key theorems include:
    * `shows_after`
    * `discover_keeps`
-/

------------------------------------------------------------
-- Names
------------------------------------------------------------

namespace RsCamera

namespace Reproduction

namespace Discovery

/- `path.with_suffix(path.suffix+'.tmp')`. -/
def Path.temporary (path : Path) : Path :=
  { path with name := path.name ++ ".tmp" }

/- `path.stem`: a dot at either end of a name does not count. -/
def stem (name : List Char) : List Char :=
  let suffix := name.reverse.takeWhile (· != '.')
  let before := (name.reverse.dropWhile (· != '.')).tail
  if suffix ≠ [] ∧ before ≠ [] then before.reverse else name

/- The backup of a configuration, by its time. -/
def Path.backup (output : Path) (stamp : String) : Path :=
  { output with
    name :=
      String.ofList (stem output.name.toList) ++
        (".previous-" ++ (stamp ++ ".json")) }

example :
    benchOutput.backup "1" =
      { benchOutput with name := "config.previous-1.json" } := by
  decide

/- A stem has lost one dot at most. -/
theorem count_stem (name : List Char) :
    name.count '.' ≤ (stem name).count '.' + 1 := by
  unfold stem
  simp only
  split
  next =>
    have hSuffix :
        (name.reverse.takeWhile (· != '.')).count '.' = 0 := by
      rw [List.count_eq_zero]
      intro hDot
      exact absurd (List.mem_takeWhile_imp hDot) (by decide)
    have hParts :
        (name.reverse.takeWhile (· != '.') ++
          name.reverse.dropWhile (· != '.')).count '.' =
            name.reverse.count '.' := by
      rw [List.takeWhile_append_dropWhile]
    rw [List.count_append, hSuffix, List.count_reverse]
      at hParts
    rw [List.count_reverse, ← hParts]
    cases name.reverse.dropWhile (· != '.') with
    | nil => simp
    | cons c before =>
        rw [List.tail_cons, List.count_cons]
        split
        · omega
        · omega
  next => omega

theorem temporary_ne (path : Path) : path.temporary ≠ path := by
  intro hSame
  have hName : path.name ++ ".tmp" = path.name :=
    congrArg Path.name hSame
  have hLength := congrArg String.length hName
  rw [String.length_append] at hLength
  have hTmp : ".tmp".length = 4 := by decide
  omega

theorem backup_name (output : Path) (stamp : String) :
    (output.backup stamp).name.toList =
      stem output.name.toList ++
        (".previous-".toList ++
          (stamp.toList ++ ".json".toList)) := by
  unfold Path.backup
  rw [String.toList_append, String.toList_append,
    String.toList_append, String.toList_ofList]

theorem backup_ne (output : Path) (stamp : String) :
    output.backup stamp ≠ output := by
  intro hSame
  have hName := backup_name output stamp
  rw [hSame] at hName
  have hDots := congrArg (List.count '.') hName
  rw [List.count_append, List.count_append, List.count_append]
    at hDots
  have hFirst : ".previous-".toList.count '.' = 1 := by decide
  have hLast : ".json".toList.count '.' = 1 := by decide
  have hStem := count_stem output.name.toList
  omega

theorem backup_ne_temporary (output : Path) (stamp : String) :
    output.backup stamp ≠ output.temporary := by
  intro hSame
  have hName := backup_name output stamp
  rw [hSame] at hName
  have hTemporary :
      output.temporary.name.toList =
        output.name.toList ++ ".tmp".toList := by
    unfold Path.temporary
    rw [String.toList_append]
  rw [hTemporary, ← List.append_assoc, ← List.append_assoc]
    at hName
  have hEnd := congrArg List.getLast? hName
  have hTmp : ".tmp".toList.getLast? = some 'p' := by decide
  have hJson : ".json".toList.getLast? = some 'n' := by decide
  rw [List.getLast?_append, List.getLast?_append, hTmp, hJson,
    Option.some_or, Option.some_or] at hEnd
  exact absurd hEnd (by decide)

theorem backup_injective
    {output : Path}
    {first second : String}
    (hSame : output.backup first = output.backup second) :
    first = second := by
  have hName := backup_name output first
  rw [hSame, backup_name] at hName
  have hStamp :=
    List.append_cancel_right
      (List.append_cancel_left
        (List.append_cancel_left hName))
  exact (String.toList_injective hStamp).symm

------------------------------------------------------------
-- The Disk
------------------------------------------------------------

/- What a file holds; a text that is not complete is a part. -/
inductive Content
| inventory (file : InventoryFile)
| config (saved : SavedConfig)
| part

/- What stands under each path. -/
abbrev Disk : Type :=
  Path → Option Content

/- One access to the disk. -/
inductive Access
| put (path : Path) (content : Content)
| copy (source target : Path)
| rename (source target : Path)

/- What an access changes. -/
def Disk.access (disk : Disk) : Access → Disk
| .put path content =>
    Function.update disk path (some content)
| .copy source target =>
    Function.update disk target (disk source)
| .rename source target =>
    Function.update (Function.update disk target (disk source))
      source none

/- Several accesses, in order. -/
def Disk.accesses (disk : Disk) (list : List Access) : Disk :=
  list.foldl Disk.access disk

/- `save_json`. -/
def saveJson (path : Path) (content : Content) : List Access :=
  [.put path.temporary .part, .put path.temporary content,
    .rename path.temporary path]

/- `shutil.copy2(args.output, backup)`. -/
def copy2 (source target : Path) : List Access :=
  [.put target .part, .copy source target]

/- The accesses of a write. -/
def Write.accesses (args : Arguments) : Write → List Access
| .inventory file => saveJson args.inventory (.inventory file)
| .backup stamp _ =>
    copy2 args.output (args.output.backup stamp)
| .config saved => saveJson args.output (.config saved)

/- What a run reads at its output, a configuration or nothing. -/
def Disk.previous (disk : Disk) (path : Path) : Option SavedConfig :=
  match disk path with
  | some (.config saved) => some saved
  | _ => none

/- A run, and how many of its accesses to the disk it makes. -/
structure Run where
  args : Arguments
  times : Times
  live : Live
  accessed : Nat

/- A run of the discovery, up to where it is killed. -/
def Disk.run (disk : Disk) (run : Run) : Disk :=
  disk.accesses
    (((discover run.args run.times run.live
      (disk.previous run.args.output)).writes.flatMap
        (Write.accesses run.args)).take run.accessed)

/- Run after run. -/
def Disk.runs (disk : Disk) (list : List Run) : Disk :=
  list.foldl Disk.run disk

/- The two paths, and what stands beside them, are apart. -/
structure Apart (output inventory : Path) : Prop where
  ofTemporary : inventory ≠ output.temporary
  ofOutput : inventory.temporary ≠ output
  ofBackup : ∀ stamp, inventory ≠ output.backup stamp
  ofBackups :
    ∀ stamp, inventory.temporary ≠ output.backup stamp

/- The files of a configuration, as they stand on a disk. -/
structure Shows
    (output inventory : Path)
    (disk : Disk)
    (files : Files) : Prop where
  config : disk output = files.config.map .config
  inventory :
    ∀ file, files.inventory = some file →
      disk inventory = some (.inventory file)
  backups :
    ∀ stamp saved, files.backups.get? stamp = some saved →
      disk (output.backup stamp) = some (.config saved)

------------------------------------------------------------
-- One Write
------------------------------------------------------------

section

variable {disk : Disk}
variable {files : Files}
variable {args : Arguments}

/- Two accesses of a save leave all but the temporary file. -/
theorem saveJson_cut
    (disk : Disk)
    {path other : Path}
    {content : Content}
    {count : Nat}
    (hCut : count < (saveJson path content).length)
    (hOther : other ≠ path.temporary) :
    disk.accesses ((saveJson path content).take count) other =
      disk other := by
  have hCount : count < 3 := hCut
  unfold saveJson Disk.accesses
  rcases count with _ | _ | _ | count
  · rfl
  · exact Function.update_of_ne hOther _ _
  · exact (Function.update_of_ne hOther _ _).trans
      (Function.update_of_ne hOther _ _)
  · omega

theorem saveJson_other
    (disk : Disk)
    (content : Content)
    {path other : Path}
    (hPath : other ≠ path)
    (hOther : other ≠ path.temporary) :
    disk.accesses (saveJson path content) other =
      disk other := by
  change Function.update (Function.update _ _ _) _ _ other = _
  rw [Function.update_of_ne hOther, Function.update_of_ne hPath]
  exact saveJson_cut disk (Nat.lt_succ_self 2) hOther

theorem saveJson_here
    (disk : Disk)
    (path : Path)
    (content : Content) :
    disk.accesses (saveJson path content) path =
      some content := by
  change Function.update (Function.update _ _ _) _ _ path = _
  rw [Function.update_of_ne (temporary_ne path).symm,
    Function.update_self]
  exact Function.update_self _ _ _

/- What a write needs to mean the same on the disk. -/
def Write.Copies (files : Files) : Write → Prop
| .backup stamp saved =>
    files.config = some saved ∧ stamp ∉ files.backups.keys
| _ => True

variable {write : Write}
variable {count : Nat}

/- A write that is not complete leaves the files as they are. -/
theorem Shows.cut
    (hApart : Apart args.output args.inventory)
    (hCopies : write.Copies files)
    (hShows : Shows args.output args.inventory disk files)
    (hCut : count < (write.accesses args).length) :
    Shows args.output args.inventory
      (disk.accesses ((write.accesses args).take count))
      files := by
  cases write with
  | inventory file =>
      have hSame {other : Path}
          (hOther : other ≠ args.inventory.temporary) :=
        saveJson_cut disk hCut hOther
      refine ⟨?_, ?_, ?_⟩
      · exact (hSame hApart.ofOutput.symm).trans hShows.config
      · intro old hOld
        exact (hSame (temporary_ne _).symm).trans
          (hShows.inventory old hOld)
      · intro stamp saved hBackup
        exact (hSame (hApart.ofBackups stamp).symm).trans
          (hShows.backups stamp saved hBackup)
  | config saved =>
      have hSame {other : Path}
          (hOther : other ≠ args.output.temporary) :=
        saveJson_cut disk hCut hOther
      refine ⟨?_, ?_, ?_⟩
      · exact (hSame (temporary_ne _).symm).trans hShows.config
      · intro old hOld
        exact (hSame hApart.ofTemporary).trans
          (hShows.inventory old hOld)
      · intro stamp saved hBackup
        exact (hSame (backup_ne_temporary _ stamp)).trans
          (hShows.backups stamp saved hBackup)
  | backup stamp saved =>
      have hSame {other : Path}
          (hOther : other ≠ args.output.backup stamp) :
          disk.accesses
              ((copy2 args.output
                (args.output.backup stamp)).take count) other =
            disk other := by
        have hCount : count < 2 := hCut
        unfold copy2 Disk.accesses
        rcases count with _ | _ | count
        · rfl
        · exact Function.update_of_ne hOther _ _
        · omega
      refine ⟨?_, ?_, ?_⟩
      · exact (hSame (backup_ne _ stamp).symm).trans
          hShows.config
      · intro old hOld
        exact (hSame (hApart.ofBackup stamp)).trans
          (hShows.inventory old hOld)
      · intro other kept hBackup
        have hOther :
            args.output.backup other ≠
              args.output.backup stamp := by
          intro hPath
          rw [backup_injective hPath] at hBackup
          exact hCopies.2
            (Dict.mem_keys_iff.mpr ⟨kept, hBackup⟩)
        exact (hSame hOther).trans
          (hShows.backups other kept hBackup)

/- A write that is complete is one of the files. -/
theorem Shows.whole
    (hApart : Apart args.output args.inventory)
    (hAllowed : args.Allowed)
    (hCopies : write.Copies files)
    (hShows : Shows args.output args.inventory disk files) :
    Shows args.output args.inventory
      (disk.accesses (write.accesses args))
      (files.write write) := by
  cases write with
  | inventory file =>
      have hSame {other : Path}
          (hPath : other ≠ args.inventory)
          (hOther : other ≠ args.inventory.temporary) :=
        saveJson_other disk (.inventory file) hPath hOther
      refine ⟨?_, ?_, ?_⟩
      · exact (hSame hAllowed.different
          hApart.ofOutput.symm).trans hShows.config
      · intro new hNew
        rw [← Option.some.inj hNew]
        exact saveJson_here _ _ _
      · intro stamp saved hBackup
        exact (hSame (hApart.ofBackup stamp).symm
          (hApart.ofBackups stamp).symm).trans
            (hShows.backups stamp saved hBackup)
  | config saved =>
      have hSame {other : Path}
          (hPath : other ≠ args.output)
          (hOther : other ≠ args.output.temporary) :=
        saveJson_other disk (.config saved) hPath hOther
      refine ⟨saveJson_here _ _ _, ?_, ?_⟩
      · intro old hOld
        exact (hSame hAllowed.different.symm
          hApart.ofTemporary).trans (hShows.inventory old hOld)
      · intro stamp kept hBackup
        exact (hSame (backup_ne _ stamp)
          (backup_ne_temporary _ stamp)).trans
            (hShows.backups stamp kept hBackup)
  | backup stamp saved =>
      have hSame {other : Path}
          (hOther : other ≠ args.output.backup stamp) :
          disk.accesses
              (copy2 args.output (args.output.backup stamp))
              other = disk other :=
        (Function.update_of_ne hOther _ _).trans
          (Function.update_of_ne hOther _ _)
      refine ⟨?_, ?_, ?_⟩
      · exact (hSame (backup_ne _ stamp).symm).trans
          hShows.config
      · intro old hOld
        exact (hSame (hApart.ofBackup stamp)).trans
          (hShows.inventory old hOld)
      · intro other kept hBackup
        change (files.backups.set stamp saved).get? other = _
          at hBackup
        rw [Dict.get?_set] at hBackup
        split at hBackup
        next hHere =>
          -- the copy is of the configuration that stands there
          rw [hHere, ← Option.some.inj hBackup]
          refine (Function.update_self _ _ _).trans ?_
          refine (Function.update_of_ne
            (backup_ne _ stamp).symm _ _).trans ?_
          rw [hShows.config, hCopies.1]
          rfl
        next hOther =>
          refine (hSame ?_).trans
            (hShows.backups other kept hBackup)
          intro hPath
          exact hOther (backup_injective hPath)

end

------------------------------------------------------------
-- Runs
------------------------------------------------------------

variable {disk : Disk}
variable {files : Files}
variable {args : Arguments}

/- What a list of writes needs to mean the same on the disk. -/
def CopiesAll : Files → List Write → Prop
| _, [] => True
| files, write :: list =>
    write.Copies files ∧ CopiesAll (files.write write) list

/- Wherever the accesses stop, some of the writes are made. -/
theorem shows_writes
    (hApart : Apart args.output args.inventory)
    (hAllowed : args.Allowed)
    {list : List Write}
    (hCopies : CopiesAll files list)
    (hShows : Shows args.output args.inventory disk files)
    (count : Nat) :
    ∃ written, Shows args.output args.inventory
      (disk.accesses
        ((list.flatMap (Write.accesses args)).take count))
      (files.writes (list.take written)) := by
  induction list generalizing disk files count with
  | nil =>
      refine ⟨0, ?_⟩
      rw [List.flatMap_nil, List.take_nil]
      exact hShows
  | cons write list ih =>
      rw [List.flatMap_cons, List.take_append]
      by_cases hCut : count < (write.accesses args).length
      · refine ⟨0, ?_⟩
        rw [Nat.sub_eq_zero_of_le hCut.le, List.take_zero,
          List.append_nil]
        exact hShows.cut hApart hCopies.1 hCut
      · rcases ih hCopies.2
            (hShows.whole hApart hAllowed hCopies.1)
            (count - (write.accesses args).length) with
          ⟨written, hRest⟩
        refine ⟨written + 1, ?_⟩
        rw [List.take_of_length_le (Nat.le_of_not_lt hCut)]
        unfold Disk.accesses at hRest ⊢
        rw [List.foldl_append]
        exact hRest

theorem copiesAll_inventories
    {list : List Write}
    (hAll : ∀ write ∈ list, ∃ file, write = .inventory file) :
    CopiesAll files list := by
  induction list generalizing files with
  | nil => trivial
  | cons write list ih =>
      rcases hAll write List.mem_cons_self with ⟨file, hFile⟩
      subst hFile
      exact ⟨trivial, ih (fun other hOther =>
        hAll other (List.mem_cons_of_mem _ hOther))⟩

/- A run copies the configuration that it has read. -/
theorem discover_copies
    (files : Files)
    (args : Arguments)
    {times : Times}
    (live : Live)
    (hUnused : times.stamp ∉ files.backups.keys) :
    CopiesAll files
      (discover args times live files.config).writes := by
  rcases discover_cases args times live files.config with
    ⟨_, -, hInventories⟩ | ⟨hArgs, sdk, irqs, config, hReady⟩
  · exact copiesAll_inventories hInventories
  · rw [discover_of_ready hArgs hReady]
    split
    · split
      · trivial
      · trivial
    · refine ⟨trivial, ?_⟩
      unfold replaced
      split
      next =>
        cases hConfig : files.config with
        | none => exact ⟨trivial, trivial⟩
        | some old =>
            exact ⟨⟨hConfig, hUnused⟩, trivial, trivial⟩
      next => trivial

/- Options that are refused write nothing. -/
theorem discover_of_refused
    {times : Times}
    {live : Live}
    {previous : Option SavedConfig}
    (hRefused : ¬args.Allowed) :
    (discover args times live previous).writes = [] := by
  unfold discover
  split
  · rfl
  next hCombined =>
    rw [Bool.not_eq_true] at hCombined
    rw [if_pos]
    by_contra hDifferent
    exact hRefused ⟨hCombined, hDifferent⟩

/- A run on the disk is one of the files, cut at a write. -/
theorem shows_run
    (run : Run)
    (hApart : Apart run.args.output run.args.inventory)
    (hUnused : run.times.stamp ∉ files.backups.keys)
    (hShows :
      Shows run.args.output run.args.inventory disk files) :
    ∃ written,
      Shows run.args.output run.args.inventory (disk.run run)
        (files.step
          ⟨run.args, run.times, run.live, written⟩) := by
  have hPrevious :
      disk.previous run.args.output = files.config := by
    unfold Disk.previous
    rw [hShows.config]
    cases files.config with
    | none => rfl
    | some saved => rfl
  unfold Disk.run Files.step
  rw [hPrevious]
  by_cases hAllowed : run.args.Allowed
  · exact shows_writes hApart hAllowed
      (discover_copies files run.args run.live hUnused) hShows
      run.accessed
  · refine ⟨0, ?_⟩
    rw [discover_of_refused hAllowed, List.flatMap_nil,
      List.take_nil, List.take_nil]
    exact hShows

/- Runs on one configuration and one inventory. -/
def OnPaths (output inventory : Path) (list : List Run) : Prop :=
  ∀ run ∈ list,
    run.args.output = output ∧ run.args.inventory = inventory

/- The stamps of the runs. -/
def stampsOf (list : List Run) : List String :=
  list.map (fun run => run.times.stamp)

/- A configuration that stands, or that a backup holds. -/
def HeldOn
    (output : Path)
    (disk : Disk)
    (saved : SavedConfig) : Prop :=
  disk output = some (.config saved) ∨
    ∃ stamp, disk (output.backup stamp) = some (.config saved)

theorem Shows.heldOn
    {output inventory : Path}
    {saved : SavedConfig}
    (hShows : Shows output inventory disk files)
    (hHeld : Held files saved) :
    HeldOn output disk saved := by
  rcases hHeld with hHere | ⟨stamp, hStamp⟩
  · refine Or.inl ?_
    rw [hShows.config, hHere]
    rfl
  · exact Or.inr ⟨stamp, hShows.backups stamp saved hStamp⟩

/-
  What runs leave on a disk is what the same runs leave of
  the files, each of them cut at one of its writes.
-/
theorem shows_after
    {output inventory : Path}
    (hApart : Apart output inventory)
    {list : List Run}
    (hPaths : OnPaths output inventory list)
    (hFresh : Fresh files (stampsOf list))
    (hShows : Shows output inventory disk files) :
    ∃ steps : List Step,
      steps.map (fun step => (step.args, step.times, step.live)) =
          list.map (fun run => (run.args, run.times, run.live)) ∧
        Shows output inventory (disk.runs list)
          (after files steps) := by
  induction list generalizing disk files with
  | nil => exact ⟨[], rfl, hShows⟩
  | cons run list ih =>
      have hUnused : run.times.stamp ∉ files.backups.keys :=
        hFresh.unused _ List.mem_cons_self
      rcases hPaths run List.mem_cons_self with
        ⟨hOutput, hInventory⟩
      rcases shows_run run
          (hOutput ▸ hInventory ▸ hApart) hUnused
          (hOutput ▸ hInventory ▸ hShows) with
        ⟨written, hNext⟩
      rw [hOutput, hInventory] at hNext
      have hTail :
          Fresh
            (files.step
              ⟨run.args, run.times, run.live, written⟩)
            (stampsOf list) :=
        Fresh.tail hFresh
      rcases ih (fun other hOther =>
          hPaths other (List.mem_cons_of_mem _ hOther))
          hTail hNext with
        ⟨steps, hSteps, hAfter⟩
      refine
        ⟨⟨run.args, run.times, run.live, written⟩ :: steps,
          ?_, hAfter⟩
      rw [List.map_cons, List.map_cons, hSteps]

/- The files of which a disk shows one configuration. -/
theorem shows_of_heldOn
    (inventory : Path)
    {output : Path}
    {saved : SavedConfig}
    {stamps : List String}
    (hOutput :
      disk output = (disk.previous output).map .config)
    (hDistinct : stamps.Nodup)
    (hUnused :
      ∀ stamp ∈ stamps, disk (output.backup stamp) = none)
    (hHeld : HeldOn output disk saved) :
    ∃ files, Shows output inventory disk files ∧
      Held files saved ∧ Fresh files stamps := by
  rcases hHeld with hHere | ⟨stamp, hStamp⟩
  · have hPrevious : disk.previous output = some saved := by
      unfold Disk.previous
      rw [hHere]
    refine ⟨⟨disk.previous output, none, ∅⟩,
      ⟨hOutput, ?_, ?_⟩, Or.inl hPrevious, hDistinct, ?_⟩
    · intro file hFile
      cases hFile
    · intro stamp kept hBackup
      cases hBackup
    · intro stamp _ hKey
      cases hKey
  · have hOne (other : String) :
        ((∅ : Dict String SavedConfig).set stamp saved).get?
            other =
          if other = stamp then some saved else none := by
      rw [Dict.get?_set]
      rfl
    refine ⟨⟨disk.previous output, none,
      (∅ : Dict String SavedConfig).set stamp saved⟩,
      ⟨hOutput, ?_, ?_⟩, Or.inr ⟨stamp, ?_⟩, hDistinct, ?_⟩
    · intro file hFile
      cases hFile
    · intro other kept hBackup
      rw [hOne] at hBackup
      split at hBackup
      next hHere =>
        rw [hHere, ← Option.some.inj hBackup]
        exact hStamp
      next => cases hBackup
    · rw [hOne, if_pos rfl]
    · intro other hOther hKey
      rcases Dict.mem_keys_iff.mp hKey with ⟨kept, hKept⟩
      rw [hOne] at hKept
      split at hKept
      next hHere =>
        have hNone := hUnused other hOther
        rw [hHere, hStamp] at hNone
        cases hNone
      next => cases hKept

/-
  No run loses a configuration, wherever it is killed: what
  stood on the disk, or in a backup, does so ever after.
-/
theorem discover_keeps
    {output inventory : Path}
    (hApart : Apart output inventory)
    (disk : Disk)
    (list : List Run)
    (saved : SavedConfig)
    (hPaths : OnPaths output inventory list)
    (hDistinct : (stampsOf list).Nodup)
    (hUnused :
      ∀ stamp ∈ stampsOf list,
        disk (output.backup stamp) = none)
    (hOutput :
      disk output = (disk.previous output).map .config)
    (hHeld : HeldOn output disk saved) :
    HeldOn output (disk.runs list) saved := by
  rcases shows_of_heldOn inventory hOutput
      hDistinct hUnused hHeld with
    ⟨files, hShows, hHere, hFresh⟩
  rcases shows_after hApart hPaths hFresh hShows with
    ⟨steps, hSteps, hAfter⟩
  refine hAfter.heldOn (after_held files steps saved ?_ hHere)
  have hStamps :=
    congrArg (List.map (fun seen => seen.2.1.stamp)) hSteps
  rw [List.map_map, List.map_map] at hStamps
  exact hStamps.symm ▸ hFresh

theorem benchPaths_apart :
    Apart benchOutput benchInventory := by
  have hBackup (stamp : String) :
      (benchOutput.backup stamp).name.toList.head? =
        some 'c' := by
    rw [backup_name]
    rfl
  refine ⟨by decide, by decide, ?_, ?_⟩
  · intro stamp hSame
    have hName := hBackup stamp
    rw [← hSame] at hName
    exact absurd hName (by decide)
  · intro stamp hSame
    have hName := hBackup stamp
    rw [← hSame] at hName
    exact absurd hName (by decide)

/- The disk of a configuration, and runs of new interrupts. -/
def benchDisk : Disk :=
  Function.update (fun _ => none) benchOutput
    (some (.config (benchSaved 120)))

/- A run killed in a write, and a run that is not. -/
def benchDiskRuns : List Run :=
  [⟨⟨false, false, benchOutput, benchInventory⟩,
      benchTimes "1", benchLive 130 benchSdk, 4⟩,
    ⟨⟨false, true, benchOutput, benchInventory⟩,
      benchTimes "2", benchLive 140 benchSdk, 8⟩]

theorem discover_keeps_bench :
    HeldOn benchOutput (benchDisk.runs benchDiskRuns)
      (benchSaved 120) := by
  refine discover_keeps benchPaths_apart benchDisk benchDiskRuns
    (benchSaved 120) ?_ (by decide) ?_ rfl (Or.inl rfl)
  · intro run hRun
    simp only [benchDiskRuns, List.mem_cons, List.not_mem_nil,
      or_false] at hRun
    rcases hRun with hFirst | hSecond
    · rw [hFirst]
      exact ⟨rfl, rfl⟩
    · rw [hSecond]
      exact ⟨rfl, rfl⟩
  · intro stamp _
    exact Function.update_of_ne (backup_ne _ stamp) _ _

end Discovery

end Reproduction

end RsCamera
