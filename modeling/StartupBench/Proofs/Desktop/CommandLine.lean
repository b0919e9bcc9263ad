import StartupBench.Browser.Basic
import StartupBench.Proofs.Desktop.FileName
import StartupBench.Proofs.Desktop.Number
import StartupBench.Proofs.Text.Words

/-!
# A browser in the table of processes

A browser is launched with a list of arguments, and in the table of processes it is one line
(`ProcessEntry.line`): its number, its state, and its executable and arguments with blanks between
them.  What is read of such a line (`ProcessEntry.ofLine?`) are words, and an argument with a blank
in it has become several.

So a browser is found by its table entry if and only if the first word of the path of its executable
has the file name of the executable (`Browser.launched_found_iff`), as it is if there is no blank in
the path; and an entry fits the pattern for another profile if and only if the words that select
that profile stand somewhere in its command line (`Browser.fits_other_iff`).

## The line

`ProcessEntry.ofLine?_line` reads the line back, for any command and any state of a process that has
not exited (`ProcessEntry.Alive`).  With it the entry of a browser is known by the words of its
executable and of its arguments (`Browser.exists_entry`), as `words_append` of `Proofs.Text.Words`
takes a joined text apart.

## The name and the title

An entry fits by the name of its program and by the words of the title.  The name is read of the
first word of the path, whether or not the path ends there (`Browser.fileName_program_iff`); the
words of the title are those of the arguments that select the profile, which the browser has been
launched with, so that they are always there for its own profile (`Browser.fits_own_iff`).
-/

namespace StartupBench

namespace ProcessEntry

open Text (words Unbroken)

/-! ## Process numbers -/

lemma pidText_unbroken (pid : ProcessId) : Unbroken pid.text := by
  intro c hc
  rw [toList_pidText] at hc
  have digit := Nat.isDigit_of_mem_toDigits (by decide) (by decide) hc
  rw [Char.isDigit_iff_toNat] at digit
  obtain ⟨low, high⟩ := digit
  have low : 48 ≤ c.toNat := low
  have high : c.toNat ≤ 57 := high
  unfold Text.isBlank
  simp only [Bool.or_eq_false_iff, Bool.and_eq_false_iff, decide_eq_false_iff_not,
    beq_eq_false_iff_ne]
  omega

lemma words_pidText (pid : ProcessId) : words pid.text = [pid.text] := by
  refine Text.words_of_unbroken (fun empty => ?_) (pidText_unbroken pid)
  have digits := toList_pidText pid
  rw [empty] at digits
  exact Nat.toDigits_ne_nil digits.symm

/-! ## Lines -/

/-- The line of a process: its number, its state and its command, with blanks between. -/
def line (pid : ProcessId) (state : String) (c : Command) : String :=
  pid.text ++ " " ++ state ++ " " ++ c.display

/-- The state of a process that has not exited: a word that does not begin with `Z`. -/
structure Alive (state : String) : Prop where
  nonempty : state ≠ ""
  unbroken : Unbroken state
  notExited : state.toList.head? ≠ some 'Z'

lemma words_display (c : Command) :
    words c.display = words c.program.display ++ c.arguments.flatMap fun a => words a.display := by
  have joined : ∀ (arguments : List RawText) (text : String),
      words (arguments.foldl (fun text a => text ++ " " ++ a.display) text) =
        words text ++ arguments.flatMap fun a => words a.display := by
    intro arguments
    induction arguments with
    | nil => exact fun text => (List.append_nil _).symm
    | cons a arguments ih =>
      intro text
      rw [List.foldl_cons, ih, Text.words_append, List.flatMap_cons, List.append_assoc]
  exact joined c.arguments c.program.display

/-- What is read of the line of a process: `ofLine?` finds its number, and a name and a command line
that are made of the words of its command. -/
lemma ofLine?_line (pid : ProcessId) {state program : String} {c : Command}
    {arguments : List String} (alive : Alive state) (hc : words c.display = program :: arguments) :
    ofLine? (line pid state c) = some ⟨pid, fileName program, program :: arguments⟩ := by
  have split : words (line pid state c) = pid.text :: state :: program :: arguments := by
    unfold line
    rw [Text.words_append, Text.words_append, words_pidText,
      Text.words_of_unbroken alive.nonempty alive.unbroken, hc]
    rfl
  have counts : ¬ (state.toList.head? == some 'Z') = true :=
    fun h => alive.notExited (beq_iff_eq.1 h)
  unfold ofLine?
  rw [split]
  dsimp only
  rw [pid?_text]
  exact if_neg counts

/-! ## Patterns -/

/-- Words occur one after the other if they are a piece of the list, as `List.IsInfix` has it. -/
lemma occurs_iff {wanted given : List String} :
    occurs wanted given = true ↔ wanted <:+: given := by
  induction given with
  | nil => rw [occurs, List.isEmpty_iff, List.infix_nil]
  | cons word given ih =>
    rw [occurs, Bool.or_eq_true, List.isPrefixOf_iff_prefix, ih, List.infix_cons_iff]

lemma fits_iff {e : ProcessEntry} {windowClass title : String} :
    e.fits ⟨windowClass, some title⟩ = true ↔
      e.windowClass = windowClass ∧ words title <:+: e.commandLine := by
  simp [fits, occurs_iff]

lemma fits_iff_of_untitled {e : ProcessEntry} {windowClass : String} :
    e.fits ⟨windowClass, none⟩ = true ↔ e.windowClass = windowClass := by
  simp [fits]

lemma mem_of_mem_fileName {text : String} {c : Char} (h : c ∈ (fileName text).toList) :
    c ∈ text.toList := by
  unfold fileName at h
  rw [String.toList_ofList, List.mem_reverse] at h
  exact List.mem_reverse.1 ((List.takeWhile_sublist _).mem h)

end ProcessEntry

namespace Browser

open Text (words Unbroken)
open ProcessEntry (fileName ofLine? line Alive)

variable {κ σ : Type} (b : Browser κ σ)

/-! ## Command lines of a browser -/

/-- The command that launches the browser on a `profile`, with the `extra` arguments after those
that select it. -/
def command (profile : Path) (extra : List RawText) : Command :=
  ⟨b.exe, b.launchArguments profile extra⟩

/-- The words of the arguments that select a profile, and of those after them, as a command line
shows them. -/
def argumentWords (profile : Path) (extra : List RawText) : List String :=
  (b.launchArguments profile extra).flatMap fun a => words a.display

lemma words_command {exe : String} (hexe : b.exe = (exe : Path)) (profile : Path)
    (extra : List RawText) :
    words (b.command profile extra).display = words exe ++ b.argumentWords profile extra := by
  have shown : b.exe.display = exe := by
    rw [hexe]
    exact Utf8.lossy_encode exe
  have split := ProcessEntry.words_display (b.command profile extra)
  unfold command at split
  rw [shown] at split
  exact split

lemma display_profileFlag (profile : Path) :
    (profileFlag profile : RawText).display = profileFlag profile := Utf8.lossy_encode _

lemma argumentWords_of_chromium (h : b.family = .chromium) (profile : Path)
    (extra : List RawText) :
    b.argumentWords profile extra =
      words (profileFlag profile) ++ extra.flatMap fun a => words a.display := by
  unfold argumentWords launchArguments
  rw [h]
  dsimp only
  rw [List.flatMap_cons, display_profileFlag]

lemma words_ne_nil_of_mem {text : String} {c : Char} (hc : c ∈ text.toList)
    (h : Text.isBlank c = false) : words text ≠ [] := by
  intro none
  rw [Text.blank_of_words_eq_nil none c hc] at h
  cases h

lemma words_profileFlag {profile : Path} (h : Unbroken profile.display) :
    words (profileFlag profile) = [profileFlag profile] := by
  refine Text.words_of_unbroken (fun empty => ?_) fun c hc => ?_
  · have chars := congrArg String.toList empty
    unfold profileFlag at chars
    rw [String.toList_append] at chars
    cases chars
  · unfold profileFlag at hc
    rw [String.toList_append] at hc
    obtain hc | hc := List.mem_append.1 hc
    · have flag : Unbroken "--user-data-dir=" := by decide
      exact flag c hc
    · exact h c hc

lemma profileFlag_inj {p q : Path} : profileFlag p = profileFlag q ↔ p.display = q.display := by
  refine ⟨fun h => ?_, congrArg _⟩
  have chars := congrArg String.toList h
  unfold profileFlag at chars
  rw [String.toList_append, String.toList_append] at chars
  exact String.toList_inj.1 (List.append_cancel_left chars)

lemma profileFlag_ne_noFirstRun (profile : Path) : profileFlag profile ≠ "--no-first-run" := by
  intro h
  have chars := congrArg String.toList h
  unfold profileFlag at chars
  rw [String.toList_append] at chars
  exact absurd (congrArg (List.take 3) chars) (by simp)

lemma words_profileFlag_ne_nil (profile : Path) : words (profileFlag profile) ≠ [] := by
  have dash : '-' ∈ (profileFlag profile).toList := by
    unfold profileFlag
    rw [String.toList_append]
    exact List.mem_append_left _ (by decide)
  exact words_ne_nil_of_mem dash (by decide)

/-- A browser is never launched without an argument, so that something of its `argumentWords`
follows the executable. -/
lemma argumentWords_ne_nil (profile : Path) (extra : List RawText) :
    b.argumentWords profile extra ≠ [] := by
  intro none
  have noWords : ∀ a ∈ b.launchArguments profile extra, words a.display = [] :=
    List.flatMap_eq_nil_iff.1 none
  unfold launchArguments at noWords
  cases h : b.family with
  | chromium =>
    rw [h] at noWords
    have flag := noWords _ List.mem_cons_self
    rw [display_profileFlag] at flag
    exact words_profileFlag_ne_nil profile flag
  | mozilla =>
    rw [h] at noWords
    dsimp only at noWords
    split at noWords
    · rename_i made
      have create := noWords createProfile (List.contains_iff_mem.1 made)
      have shown : createProfile.display = "-CreateProfile" := Utf8.lossy_encode _
      rw [shown] at create
      exact absurd create (by decide)
    · have select := noWords _ List.mem_cons_self
      have shown : ("-profile" : RawText).display = "-profile" := Utf8.lossy_encode _
      rw [shown] at select
      exact absurd select (by decide)

/-- The first word of a path has the file name of the path.  A path without a blank is its own first
word. -/
def NamedByFirstWord (exe : String) : Prop := (words exe).head?.map fileName = some (fileName exe)

instance (exe : String) : Decidable (NamedByFirstWord exe) :=
  inferInstanceAs (Decidable (_ = _))

lemma namedByFirstWord_of_unbroken {exe : String} (h : Unbroken exe) (hne : exe ≠ "") :
    NamedByFirstWord exe := by
  unfold NamedByFirstWord
  rw [Text.words_of_unbroken hne h]
  rfl

/-- What is read of a command line is named like the executable if the first word of its path is, as
`NamedByFirstWord` says. -/
lemma fileName_program_iff {exe program : String} {arguments more : List String}
    (named : Path.EndsInFileName exe) (h : words exe ++ more = program :: arguments)
    (hmore : ∀ word ∈ more, Unbroken word) :
    fileName program = fileName exe ↔ NamedByFirstWord exe := by
  unfold NamedByFirstWord
  cases hexe : words exe with
  | cons word rest =>
    rw [hexe, List.cons_append, List.cons.injEq] at h
    rw [h.1, List.head?_cons, Option.map_some, Option.some.injEq]
  | nil =>
    -- The path is all blanks, and no word has the name of a file made of blanks.
    rw [hexe, List.nil_append] at h
    refine iff_of_false (fun same => ?_) nofun
    obtain ⟨c, hc⟩ : ∃ c, c ∈ (fileName exe).toList :=
      List.exists_mem_of_ne_nil _ fun none => named.1 (String.toList_eq_nil_iff.1 none)
    have blank := Text.blank_of_words_eq_nil hexe c (ProcessEntry.mem_of_mem_fileName hc)
    rw [← same] at hc
    have unbroken := hmore program (h ▸ List.mem_cons_self)
    rw [unbroken c (ProcessEntry.mem_of_mem_fileName hc)] at blank
    cases blank

/-- What is read of the line of a browser that was launched on a profile, with the words of its
`argumentWords` behind those of its path. -/
lemma exists_entry {exe state : String} (hexe : b.exe = (exe : Path)) (alive : Alive state)
    (pid : ProcessId) (profile : Path) (extra : List RawText) :
    ∃ program arguments, words exe ++ b.argumentWords profile extra = program :: arguments ∧
      ofLine? (line pid state (b.command profile extra)) =
        some ⟨pid, fileName program, program :: arguments⟩ := by
  have nonempty : words exe ++ b.argumentWords profile extra ≠ [] :=
    List.append_ne_nil_of_right_ne_nil _ (b.argumentWords_ne_nil profile extra)
  obtain ⟨program, arguments, hwords⟩ := List.exists_cons_of_ne_nil nonempty
  refine ⟨program, arguments, hwords, ProcessEntry.ofLine?_line pid alive ?_⟩
  rw [b.words_command hexe, hwords]

/-- The words of the title, if there is one, are always there, so that only the name of the program
decides whether the entry of a browser fits its own pattern. -/
lemma fits_own_iff {exe : String} (hexe : b.exe = (exe : Path)) {e : ProcessEntry}
    {profile : Path} {extra : List RawText}
    (he : e.commandLine = words exe ++ b.argumentWords profile extra) :
    e.fits (b.quitTarget profile).instancePattern = true ↔
      e.windowClass = (exe : Path).fileNameText := by
  unfold quitTarget
  cases h : b.family with
  | mozilla =>
    dsimp only
    rw [ProcessEntry.fits_iff_of_untitled, hexe]
  | chromium =>
    dsimp only
    rw [ProcessEntry.fits_iff, hexe, he, b.argumentWords_of_chromium h]
    exact and_iff_left ⟨words exe, _, (List.append_assoc _ _ _)⟩

/-- The words that select a profile, somewhere on the command line of a browser on another one, are
what makes its entry fit. -/
lemma fits_other_iff {exe : String} (hexe : b.exe = (exe : Path)) (h : b.family = .chromium)
    {e : ProcessEntry} {p q : Path} {extra : List RawText}
    (he : e.commandLine = words exe ++ b.argumentWords q extra) :
    e.fits (b.quitTarget p).instancePattern = true ↔
      e.windowClass = (exe : Path).fileNameText ∧
        words (profileFlag p) <:+:
          words exe ++ (words (profileFlag q) ++ extra.flatMap fun a => words a.display) := by
  unfold quitTarget
  rw [h]
  dsimp only
  rw [ProcessEntry.fits_iff, hexe, he, b.argumentWords_of_chromium h]

lemma accepts_own_iff {exe : String} (hexe : b.exe = (exe : Path)) (profile : Path)
    (windowClass : String) :
    (b.quitTarget profile).recipients.accepts windowClass = true ↔
      windowClass = (exe : Path).fileNameText := by
  unfold quitTarget
  cases b.family <;> simp [ClassRule.accepts, hexe]

/-- **Whether a browser that was launched is found.**  The line of its process is always read, with
its number; but it fits the pattern for the profile, and its window is one of those to be asked, if
and only if the first word of the path of the executable has the file name of the executable.  So it
is if there is no blank in the path. -/
theorem launched_found_iff {exe state : String} (hexe : b.exe = (exe : Path))
    (named : Path.EndsInFileName exe) (alive : Alive state) (pid : ProcessId) (profile : Path)
    (extra : List RawText) :
    ∃ e, ofLine? (line pid state (b.command profile extra)) = some e ∧ e.pid = pid ∧
      (e.fits (b.quitTarget profile).instancePattern = true ↔ NamedByFirstWord exe) ∧
      ((b.quitTarget profile).recipients.accepts e.windowClass = true ↔ NamedByFirstWord exe) ∧
      (Unbroken exe → NamedByFirstWord exe) := by
  obtain ⟨program, arguments, hwords, read⟩ := b.exists_entry hexe alive pid profile extra
  have shown : ∀ word ∈ b.argumentWords profile extra, Unbroken word := by
    intro word hword
    obtain ⟨a, -, hmem⟩ := List.mem_flatMap.1 hword
    exact Text.unbroken_of_mem_words hmem
  have sameName := fileName_program_iff named hwords shown
  rw [← Path.fileNameText_eq named] at sameName
  refine ⟨_, read, rfl, ?_, ?_, fun unbroken => ?_⟩
  · rw [b.fits_own_iff hexe hwords.symm]
    exact sameName
  · rw [b.accepts_own_iff hexe]
    exact sameName
  · refine namedByFirstWord_of_unbroken unbroken fun empty => ?_
    rw [empty] at named
    exact named.1 rfl

/-! ## Executables with a blank in their path -/

/-- A system on which nothing happens, so that its table of processes stays as it is. -/
def frozen (table : String) : ProcessCalls Unit Unit where
  own := ⟨1⟩
  list := pure (Utf8.encode table)
  probe _ := pure ()
  terminate _ := pure ()
  poll _ := pure .running
  now := pure ⟨0, 0⟩
  sleep _ := pure ()

/-- A Chromium browser on a `frozen` system without processes. -/
def onFrozen (exe : String) : Browser Unit (ProcessTable.World Unit) :=
  chromium exe (ProcessTable.desktop (frozen "") () 1) (.unavailable systemName)

lemma alive_sleeping : Alive "S" := ⟨by decide, by decide, by decide⟩

/-- A browser in a directory without blanks is found: its line is read, it fits the pattern for its
profile, and its window is one of those to be asked. -/
theorem plain_found :
    ∃ e, ofLine? (line ⟨4242⟩ "S" ((onFrozen "/opt/chrome/chrome").command "/tmp/p" [])) = some e ∧
      e.pid = ⟨4242⟩ ∧
      e.fits ((onFrozen "/opt/chrome/chrome").quitTarget "/tmp/p").instancePattern = true ∧
      ((onFrozen "/opt/chrome/chrome").quitTarget "/tmp/p").recipients.accepts e.windowClass =
        true := by
  have named : Path.EndsInFileName "/opt/chrome/chrome" := by decide
  obtain ⟨e, read, number, fits, accepted, plain⟩ :=
    (onFrozen "/opt/chrome/chrome").launched_found_iff rfl named alive_sleeping ⟨4242⟩ "/tmp/p" []
  have first : NamedByFirstWord "/opt/chrome/chrome" := plain (by decide)
  exact ⟨e, read, number, fits.2 first, accepted.2 first⟩

/-- A browser in a directory with a blank in its name is not found. -/
theorem not_launched_found :
    ¬ ∀ (b : Browser Unit (ProcessTable.World Unit)) (exe state : String) (pid : ProcessId)
        (profile : Path) (extra : List RawText),
      b.exe = (exe : Path) → Path.EndsInFileName exe → Alive state →
      ∃ e, ofLine? (line pid state (b.command profile extra)) = some e ∧ e.pid = pid ∧
        e.fits (b.quitTarget profile).instancePattern = true ∧
        (b.quitTarget profile).recipients.accepts e.windowClass = true := by
  intro found
  have named : Path.EndsInFileName "/opt/my browser/chrome" := by decide
  obtain ⟨e, read, -, -, accepted⟩ := found (onFrozen "/opt/my browser/chrome")
    "/opt/my browser/chrome" "S" ⟨4242⟩ "/tmp/p" [] rfl named alive_sleeping
  obtain ⟨program, arguments, hwords, read'⟩ :=
    (onFrozen "/opt/my browser/chrome").exists_entry rfl alive_sleeping ⟨4242⟩ "/tmp/p" []
  have first : words "/opt/my browser/chrome" = ["/opt/my", "browser/chrome"] := by decide
  rw [first, List.cons_append, List.cons.injEq] at hwords
  rw [read', Option.some.injEq] at read
  rw [accepts_own_iff _ rfl, Path.fileNameText_eq named, ← read, ← hwords.1] at accepted
  have apart : fileName "/opt/my" ≠ fileName "/opt/my browser/chrome" := by decide
  exact apart accepted

end Browser

end StartupBench
