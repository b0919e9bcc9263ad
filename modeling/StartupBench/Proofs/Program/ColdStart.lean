import StartupBench.Proofs.Program.Deadline
import StartupBench.Proofs.Text.Strict
import Mathlib.Data.List.DropRight

/-!
# Cold launches

Whether the executable of a cold start lies on a drive is checked once, when the configuration is
made.  Every launch takes the path apart anew, and has an error of its own for a path that is no
text and for one that does not begin with a drive.

After the check neither of them arises (`ColdStart.launch_of_config`).  The command that is launched
is that of the helper: nothing of the path is lost or doubled where it is taken apart and put
together again, and the arguments of the browser follow as they are.

## What is said without the program

`Path.LiesOn` and `ColdStart.Unslashed` say of the path and of the mount what the program finds
out by taking texts apart: that the path is a letter, a colon and the rest, and what is left of a
text when the slashes at its end are taken away.  Both are relations between texts, and
`ColdStart.helperArguments` is made of what they relate.

## The path

The check reads the path as text and so does the launch, so that a path that is no text is refused
by the check already.  The helper is told to find the executable at the mount followed by the rest,
just as the rest follows the drive in the path, and therefore the mount must not end in a slash of
its own.
-/

namespace StartupBench

/-! ## Drives -/

lemma isDriveLetter_eq_isAlpha (c : Char) : isDriveLetter c = c.isAlpha := by
  show isDriveLetter c = (decide (c.val ≥ 'A'.val ∧ c.val ≤ 'Z'.val) ||
    decide (c.val ≥ 'a'.val) && decide (c.val ≤ 'z'.val))
  rw [Bool.decide_and]
  rfl

/-- The drive with a `letter`, and the colon behind it. -/
def driveOf (letter : Char) : String := String.ofList [letter, ':']

lemma splitDrive?_eq_some {path drive rest : String} :
    splitDrive? path = some (drive, rest) ↔
      ∃ letter, letter.isAlpha = true ∧ drive = driveOf letter ∧ path = drive ++ rest := by
  constructor
  · intro split
    unfold splitDrive? at split
    split at split
    case h_2 => cases split
    case h_1 letter further hpath =>
      rw [isDriveLetter_eq_isAlpha] at split
      by_cases alpha : letter.isAlpha = true
      case neg =>
        rw [if_neg alpha] at split
        cases split
      rw [if_pos alpha] at split
      cases split
      refine ⟨letter, alpha, rfl, ?_⟩
      rw [← String.toList_inj, String.toList_append, String.toList_ofList, String.toList_ofList,
        hpath]
      rfl
  · rintro ⟨letter, alpha, rfl, rfl⟩
    have characters : (driveOf letter ++ rest).toList = letter :: ':' :: rest.toList := by
      rw [String.toList_append, driveOf, String.toList_ofList]
      rfl
    unfold splitDrive?
    rw [characters]
    show (if isDriveLetter letter then some (driveOf letter, String.ofList rest.toList) else none)
      = some (driveOf letter, rest)
    rw [isDriveLetter_eq_isAlpha, if_pos alpha, String.ofList_toList]

namespace Path

/-- The path names a file on the drive with this `letter`, and `rest` follows the drive. -/
structure LiesOn (p : Path) (letter : Char) (rest : String) : Prop where
  isAlpha : letter.isAlpha = true
  raw_eq : p.raw = RawText.ofString (driveOf letter ++ rest)

lemma toString?_eq_some {p : Path} {text : String} :
    p.toString? = some text ↔ p.raw = RawText.ofString text := by
  unfold toString? RawText.toString?
  rw [Utf8.strict?_eq_some_iff]
  exact ⟨congrArg RawText.mk, congrArg RawText.bytes⟩

lemma hasDrive_iff {p : Path} :
    Options.hasDrive p = true ↔ ∃ letter rest, p.LiesOn letter rest := by
  unfold Options.hasDrive
  rw [Option.isSome_iff_exists]
  simp only [Option.bind_eq_some_iff, toString?_eq_some]
  constructor
  · rintro ⟨⟨drive, rest⟩, text, raw, split⟩
    obtain ⟨letter, alpha, rfl, rfl⟩ := splitDrive?_eq_some.1 split
    exact ⟨letter, rest, alpha, raw⟩
  · rintro ⟨letter, rest, alpha, raw⟩
    exact ⟨(driveOf letter, rest), _, raw, splitDrive?_eq_some.2 ⟨letter, alpha, rfl, rfl⟩⟩

end Path

/-! ## Configurations -/

lemma Settings.ofConfig_cold {c : Config} {t : Settings} (settings : ofConfig c = .ok t)
    (wanted : c.coldStart = true) :
    t.exe = c.exe ∧ t.profile = c.profile ∧
      ∃ cold, t.coldStart = some cold ∧
        ColdStart.forHost c.host c.toolsDirectory c.snapshotDrive = .ok cold := by
  unfold ofConfig at settings
  rw [if_pos wanted] at settings
  obtain ⟨found, mapped, ⟨⟩⟩ := except_bind_eq_ok.1 settings
  cases suited : ColdStart.forHost c.host c.toolsDirectory c.snapshotDrive with
  | error e =>
    rw [suited] at mapped
    cases mapped
  | ok cold =>
    rw [suited] at mapped
    cases mapped
    exact ⟨rfl, rfl, cold, rfl, rfl⟩

namespace ColdStart

/-! ## Mounts -/

/-- `mount` is the `text` without the slashes of either kind at its end, of which there may be none.
-/
structure Unslashed (text mount : String) : Prop where
  /-- What is taken away are slashes, -/
  append : ∃ slashes : String, text = mount ++ slashes ∧ ∀ c ∈ slashes.toList, c = '\\' ∨ c = '/'
  /-- and no slash is left. -/
  last : ∀ c, mount.toList.getLast? = some c → c ≠ '\\' ∧ c ≠ '/'

lemma unslashed_withoutSlashes (text : String) : Unslashed text (withoutSlashes text) := by
  have trimmed : (withoutSlashes text).toList =
      text.toList.rdropWhile fun c => c == '\\' || c == '/' := String.toList_ofList
  constructor
  · refine ⟨String.ofList (text.toList.rtakeWhile fun c => c == '\\' || c == '/'), ?_, ?_⟩
    · rw [← String.toList_inj, String.toList_append, trimmed, String.toList_ofList,
        List.rdropWhile_append_rtakeWhile]
    · intro c hc
      rw [String.toList_ofList] at hc
      simpa using List.mem_rtakeWhile_imp hc
  · intro c hlast
    rw [trimmed] at hlast
    obtain ⟨nonempty, rfl⟩ := List.mem_getLast?_eq_getLast hlast
    simpa using List.rdropWhile_last_not _ _ nonempty

lemma snapshotDrive_of_forHost {h : Host} {tools : Path} {text : String} {cold : ColdStart}
    (suited : forHost h tools text = .ok cold) : cold.snapshotDrive = withoutSlashes text := by
  obtain ⟨helper, -, ⟨⟩⟩ := except_bind_eq_ok.1 suited
  rfl

/-! ## Commands -/

/-- What the helper is told before the arguments of the browser: the drive of which a snapshot is
taken, where it is mounted, and the executable as it is found there. -/
def helperArguments (letter : Char) (rest mount : String) : List RawText :=
  [("--volume=" ++ driveOf letter ++ "\\" : String), ("--snapshot=" ++ mount : String), "--",
    (mount ++ rest : String)]

lemma command_of_liesOn {exe : Path} {letter : Char} {rest : String}
    (h : exe.LiesOn letter rest) (c : ColdStart) (arguments : List RawText) :
    c.command exe arguments =
      .ok ⟨c.helper, helperArguments letter rest c.snapshotDrive ++ arguments⟩ := by
  have split : splitDrive? (driveOf letter ++ rest) = some (driveOf letter, rest) :=
    splitDrive?_eq_some.2 ⟨letter, h.isAlpha, rfl, rfl⟩
  unfold command
  rw [Path.toString?_eq_some.2 h.raw_eq]
  dsimp only
  rw [split]
  rfl

/-- **Cold launches.**  Of options that are accepted for cold starts, on any system with a helper
and for any text that says where snapshots are mounted, the command of a launch can always be made.
The drive and the rest, of which it tells the helper, make up the path of the executable; the mount
is the text without the slashes at its end; and the arguments of the browser follow unchanged.  A
benchmark with these settings asks its launcher for this command and does not fail before. -/
theorem launch_of_config {κ σ : Type} {o : Options} {s : Options.Surroundings} {isFile : Bool}
    {c : Config} {host : Host} {tools : Path} {cold : ColdStart}
    (accepted : o.config s isFile = .ok c) (wanted : o.coldStart = true)
    (suited : forHost host tools o.snapshotDrive = .ok cold) :
    ∃ letter rest mount, c.exe.LiesOn letter rest ∧ Unslashed o.snapshotDrive mount ∧
      (∀ (browser : Browser κ σ) (profile : Path) (extra : List RawText),
        cold.command c.exe (browser.launchArguments profile extra) =
          .ok ⟨cold.helper, helperArguments letter rest mount ++
            browser.launchArguments profile extra⟩) ∧
      ∀ b : Bench κ σ, Settings.ofConfig { c with host, toolsDirectory := tools } = .ok b.settings →
        b.launch = (do
          Bench.trying (b.launcher.launch ⟨cold.helper, helperArguments letter rest mount ++
            b.browser.launchArguments c.profile []⟩)
          Try.lift (Bench.note fun s => { s with launched := true })) := by
  have taken : o.Accepted c := Options.config_accepted accepted
  obtain ⟨letter, rest, onDrive⟩ := Path.hasDrive_iff.1 (taken.hasDrive wanted)
  have mount := snapshotDrive_of_forHost suited
  rw [← taken.exe] at onDrive
  have command (arguments : List RawText) : cold.command c.exe arguments =
      .ok ⟨cold.helper, helperArguments letter rest (withoutSlashes o.snapshotDrive) ++
        arguments⟩ := by
    rw [command_of_liesOn onDrive, mount]
  refine ⟨letter, rest, withoutSlashes o.snapshotDrive, onDrive,
    unslashed_withoutSlashes _, fun browser profile extra => command _, fun b settings => ?_⟩
  obtain ⟨sameExe, sameProfile, cold', configured, suited'⟩ :=
    Settings.ofConfig_cold settings (taken.coldStart.trans wanted)
  dsimp only at sameExe sameProfile suited'
  rw [taken.snapshotDrive, suited] at suited'
  cases suited'
  unfold Bench.launch Bench.launchCommand
  rw [configured, sameExe, sameProfile]
  dsimp only
  rw [command]
  rfl

example :
    command ⟨"tools/run_in_snapshot.exe", "M:"⟩ "C:\\src\\chrome.exe" ["--user-data-dir=C:\\p"] =
      .ok ⟨"tools/run_in_snapshot.exe",
        ["--volume=C:\\", "--snapshot=M:", "--", "M:\\src\\chrome.exe",
          "--user-data-dir=C:\\p"]⟩ := by
  decide +kernel

/-- Options of a cold start from the drive `C:`. -/
def fromDriveC : Options :=
  { System.waiting 10 with
    exe := "C:\\src\\chrome.exe"
    coldStart := true
    snapshotDrive := "M:\\" }

/-- The configuration of these options. -/
def fromDriveCConfig : Config :=
  { System.waitingConfig (.ofSeconds 10) with
    exe := "C:\\src\\chrome.exe"
    coldStart := true
    snapshotDrive := "M:\\" }

/-- A cold start from the drive `C:`, with the helper of a Windows system of 64 bits. -/
theorem launch_from_drive_c :
    fromDriveC.config System.still.surroundings true = .ok fromDriveCConfig ∧
      fromDriveC.coldStart = true ∧
      forHost ⟨some 10, true⟩ "tools" fromDriveC.snapshotDrive =
        .ok ⟨"tools/run_in_snapshot_x64.exe", "M:"⟩ ∧
      ∃ letter rest mount, fromDriveCConfig.exe.LiesOn letter rest ∧ Unslashed "M:\\" mount ∧
        ∀ profile : Path,
          command ⟨"tools/run_in_snapshot_x64.exe", "M:"⟩ fromDriveCConfig.exe
              ((System.still.browser fromDriveCConfig.exe).launchArguments profile []) =
            .ok ⟨"tools/run_in_snapshot_x64.exe", helperArguments letter rest mount ++
              (System.still.browser fromDriveCConfig.exe).launchArguments profile []⟩ := by
  have drive : Options.hasDrive "C:\\src\\chrome.exe" = true := by decide +kernel
  have accepted : fromDriveC.config System.still.surroundings true = .ok fromDriveCConfig := by
    simp only [Options.config, fromDriveC, drive]
    rfl
  have suited : forHost ⟨some 10, true⟩ "tools" fromDriveC.snapshotDrive =
      .ok ⟨"tools/run_in_snapshot_x64.exe", "M:"⟩ := by decide +kernel
  obtain ⟨letter, rest, mount, onDrive, unslashed, command, -⟩ :=
    launch_of_config (κ := Unit) (σ := ProcessTable.World Unit) accepted rfl suited
  exact ⟨accepted, rfl, suited, letter, rest, mount, onDrive, unslashed,
    fun profile => command _ profile []⟩

end ColdStart

end StartupBench
