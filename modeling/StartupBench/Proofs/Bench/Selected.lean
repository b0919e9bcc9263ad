import StartupBench.Proofs.Bench.Chronicle
import StartupBench.Proofs.Desktop.CommandLine
import StartupBench.Proofs.Text.Decoded
import StartupBench.Proofs.Text.Bytewise

/-!
# The profile that the browser is given

A profile is the name of a directory, that is bytes, and a browser is given it by its arguments.  A
Mozilla browser is given the bytes.  A Chromium browser is given the profile as it is shown, where
every ill-formed piece is replaced by U+FFFD (`Browser.given`): it is given the profile itself
exactly if the name of the profile is well-formed text (`Browser.given_eq_raw_iff`), and otherwise
the name of another directory (`Bench.not_selected_exactly`).

The directory that the benchmark looks for, erases and has made is the profile in every case.  That
is shown of the chronicle of what `Bench.setUp` does before the preload setting is overridden
(`Bench.prologue`): every call in it that is about a directory is about the profile, and every
command has arguments that select it (`Bench.Concerns`).  `Bench.profile_selected` has both halves.
-/

namespace StartupBench

lemma Utf8.encode_append (s t : String) : encode (s ++ t) = encode s ++ encode t := by
  rw [encode_eq_flatMap, encode_eq_flatMap, encode_eq_flatMap, String.toList_append,
    List.flatMap_append]

namespace Browser

variable {κ σ : Type}

/-! ## Selections -/

/-- What a Chromium argument that selects a profile begins with. -/
def selecting : RawText := "--user-data-dir="

/-- The name by which a browser of the family is given a profile: its bytes, or what is shown of
them (`Path.display`). -/
def given : Family → Path → RawText
  | .chromium, profile => profile.display
  | .mozilla, profile => profile.raw

/-- The arguments that select the directory of this name before the arguments `extra`.  A Mozilla
browser that makes a profile is told its name there. -/
def selection (family : Family) (name : RawText) (extra : List RawText) : List RawText :=
  match family with
  | .chromium => [selecting ++ name]
  | .mozilla => if createProfile ∈ extra then [] else ["-profile", name]

/-- The arguments name this directory as that of the profile, in the way of the `Family`. -/
inductive Names : Family → List RawText → RawText → Prop
  | chromium {arguments : List RawText} {name : RawText} (h : selecting ++ name ∈ arguments) :
      Names .chromium arguments name
  | selected {arguments : List RawText} {name : RawText}
      (h : [("-profile" : RawText), name] <:+: arguments) : Names .mozilla arguments name
  | made {arguments : List RawText} {name : RawText}
      (h : [createProfile, name] <:+: arguments) : Names .mozilla arguments name

lemma selecting_append_inj {s t : RawText} : selecting ++ s = selecting ++ t ↔ s = t := by
  refine ⟨fun h => ?_, congrArg _⟩
  have bytes : selecting.bytes ++ s.bytes = selecting.bytes ++ t.bytes := congrArg RawText.bytes h
  cases s
  cases t
  exact congrArg RawText.mk (List.append_cancel_left bytes)

lemma flag_eq (profile : Path) :
    (profileFlag profile : RawText) = selecting ++ given .chromium profile :=
  congrArg RawText.mk (Utf8.encode_append _ _)

/-- The arguments of a launch (`Browser.launchArguments`) are a `selection` and the arguments that
were asked for, in order. -/
lemma launchArguments_eq_selection (b : Browser κ σ) (profile : Path) (extra : List RawText) :
    b.launchArguments profile extra =
      selection b.family (given b.family profile) extra ++ extra := by
  unfold launchArguments selection
  cases b.family with
  | chromium => exact congrArg (· :: extra) (flag_eq profile)
  | mozilla =>
    dsimp only
    by_cases make : createProfile ∈ extra
    · rw [if_pos (List.contains_iff_mem.2 make), if_pos make, List.nil_append]
    · rw [if_neg fun h => make (List.contains_iff_mem.1 h), if_neg make]
      rfl

lemma selection_inj {family : Family} {s t : RawText} {extra : List RawText} :
    selection family s extra = selection family t extra ↔
      s = t ∨ family = .mozilla ∧ createProfile ∈ extra := by
  unfold selection
  cases family with
  | chromium => simp [selecting_append_inj]
  | mozilla =>
    by_cases make : createProfile ∈ extra
    · simp [make]
    · simp [make]

/-- A profile is `given` by its own name to a Mozilla browser, and to a Chromium browser exactly if
the name is well formed. -/
lemma given_eq_raw_iff {family : Family} {profile : Path} :
    given family profile = profile.raw ↔
      family = .mozilla ∨ ∃ text : String, profile.bytes = Utf8.encode text := by
  cases family with
  | mozilla => exact ⟨fun _ => .inl rfl, fun _ => rfl⟩
  | chromium =>
    constructor
    · intro h
      exact .inr ⟨profile.display, (congrArg RawText.bytes h).symm⟩
    · rintro (h | ⟨text, h⟩)
      · cases h
      · have shown : profile.display = text := by
          unfold Path.display RawText.display
          rw [show profile.raw.bytes = _ from h, Utf8.lossy_encode]
        have named : given .chromium profile = RawText.ofString text :=
          congrArg RawText.ofString shown
        rw [named]
        exact congrArg RawText.mk h.symm

/-- Only then (`given_eq_raw_iff`) is the profile selected by its own name. -/
lemma launchArguments_exact_iff (b : Browser κ σ) (profile : Path) (extra : List RawText) :
    b.launchArguments profile extra = selection b.family profile.raw extra ++ extra ↔
      b.family = .mozilla ∨ ∃ text : String, profile.bytes = Utf8.encode text := by
  rw [launchArguments_eq_selection, List.append_cancel_right_eq, selection_inj, given_eq_raw_iff]
  constructor
  · rintro (h | ⟨h, -⟩)
    · exact h
    · exact .inl h
  · exact .inl

/-- A Chromium browser is `given` profiles that are shown alike by the same name. -/
lemma given_chromium_inj {p q : Path} :
    given .chromium p = given .chromium q ↔ p.display = q.display :=
  ⟨fun h => Utf8.encode_inj.1 (congrArg RawText.bytes h), congrArg RawText.ofString⟩

/-! ## Launches of the benchmark -/

/-- The arguments after those that select the profile, of a launch that makes it. -/
def ProfileCreation.extra : ProfileCreation → List RawText
  | .launchAndQuit extra | .runToEnd extra => extra

/-- A Chromium browser is told of a directory by the `selection` only, unless the further arguments
select one. -/
lemma chromium_names_iff {extra : List RawText} (apart : ∀ name, selecting ++ name ∉ extra)
    {selected name : RawText} :
    Names .chromium (selection .chromium selected extra ++ extra) name ↔ name = selected := by
  constructor
  · rintro ⟨h⟩
    obtain h | h := List.mem_append.1 h
    · exact selecting_append_inj.1 (List.mem_singleton.1 h)
    · exact absurd h (apart name)
  · rintro rfl
    exact .chromium (List.mem_append_left _ (List.mem_singleton_self _))

lemma mozilla_names_iff {option selected name : RawText}
    (known : option = "-profile" ∨ option = createProfile) :
    Names .mozilla [option, selected] name ↔ name = selected := by
  constructor
  · rintro (_ | h | h)
    · cases h.eq_of_length rfl
      rfl
    · cases h.eq_of_length rfl
      rfl
  · rintro rfl
    obtain rfl | rfl := known
    · exact .selected List.infix_rfl
    · exact .made List.infix_rfl

/-- A launch without further arguments, and the one that makes the profile, name the directory that
the browser is `given` and no other. -/
lemma names_iff (b : Browser κ σ) (profile : Path) {extra : List RawText}
    (known : extra = [] ∨ extra = ProfileCreation.extra (b.profileCreation profile))
    {name : RawText} :
    Names b.family (b.launchArguments profile extra) name ↔ name = given b.family profile := by
  rw [launchArguments_eq_selection]
  obtain ⟨family, exe, desktop, preload⟩ := b
  cases family with
  | chromium =>
    refine chromium_names_iff fun name hmem => ?_
    obtain rfl | rfl := known
    · cases hmem
    · -- The option of a first run has another third character.
      have same := congrArg (fun t : RawText => t.bytes.take 3) (List.mem_singleton.1 hmem)
      have begins : (selecting ++ name).bytes.take 3 = selecting.bytes.take 3 :=
        List.take_append_of_le_length (by decide)
      rw [begins] at same
      exact absurd same (by decide)
  | mozilla =>
    obtain rfl | rfl := known
    · show Names .mozilla ["-profile", profile.raw] name ↔ name = profile.raw
      exact mozilla_names_iff (.inl rfl)
    · show Names .mozilla [createProfile, profile.raw] name ↔ name = profile.raw
      exact mozilla_names_iff (.inr rfl)

end Browser

namespace Bench

open Browser (given selection Names)

variable {κ σ : Type}

/-- The call is about the profile, as far as it is about a directory or a command. -/
def Concerns (b : Bench κ σ) : Ask → Prop
  | .isDirectory path | .removeDirectory path => path = b.settings.profile
  | .launch command | .run command =>
    command = ⟨b.settings.exe, b.browser.launchArguments b.settings.profile
      (Browser.ProfileCreation.extra (b.browser.profileCreation b.settings.profile))⟩
  | _ => True

/-- Nothing happens but calls that are about the profile (`Concerns`). -/
abbrev Concerned (b : Bench κ σ) : Chronicled κ σ → Chronicled κ σ → Prop :=
  Since (fun h => ∀ a ∈ h.ask?, b.Concerns a) (Same fun _ => ())

lemma ask_concerned (b : Bench κ σ) {a : Ask} (h : b.Concerns a) :
    (b.ask a).Respects b.Concerned :=
  b.ask_respects a (fun _ _ ha => Option.some.inj ha ▸ h) fun _ => rfl

lemma eraseProfile_concerned (b : Bench κ σ) :
    b.chronicled.eraseProfile.Respects b.Concerned := by
  unfold eraseProfile
  refine Act.Respects.bind (b.ask_concerned (a := .removeDirectory b.settings.profile) rfl)
    fun out => ?_
  split
  · exact Act.Respects.log _ _ _ _
  · exact Act.Respects.pure ()
  · exact Act.Respects.log _ _ _ _

section World

variable (b : Bench κ σ)

/-- `Concerned` of the whole world, the state included. -/
abbrev About : World (Chronicled κ σ) → World (Chronicled κ σ) → Prop :=
  Frame (fun _ => ()) b.Concerned

lemma asking_about {α : Type} {x : Act κ (Chronicled κ σ) α} (h : x.Respects b.Concerned) :
    (asking x).Respects b.About := (asking_tracks h.tracks).respects

lemma note_about (g : State → State) :
    (note g : Act κ (World (Chronicled κ σ)) Unit).Respects b.About :=
  (note_tracks (g := g) (π := id) fun _ => rfl).respects

/-- The profile is made by a command of which the arguments select it. -/
lemma createProfile_about : Try.Respects b.About b.chronicled.createProfile := by
  -- Nobody but the launcher is asked to do something with a directory.
  have tracks : b.chronicled.Tracks Recorded.world b.Concerned
      (fun part => part = .desktop ∨ part = .waiting) b := by
    refine chronicled_tracks (fun a _ ha a' ha' => ?_) fun _ _ _ => rfl
    cases ha'
    cases a <;> first | trivial | (obtain h | h := ha <;> cases h)
  have concerned := fun (a : Ask) (h : b.Concerns a) => b.asking_about (b.ask_concerned h)
  unfold createProfile
  refine (Try.Respects.log _ _ _ _).bind fun _ => ?_
  have creation : b.chronicled.browser.profileCreation b.chronicled.settings.profile =
    b.browser.profileCreation b.settings.profile := rfl
  rw [creation]
  cases made : b.browser.profileCreation b.settings.profile with
  | launchAndQuit extra =>
    have command : b.Concerns (.launch ⟨b.settings.exe,
        b.browser.launchArguments b.settings.profile extra⟩) := by
      unfold Concerns
      rw [made]
      rfl
    have awaited := b.settings.patience.await_tracks (tracks.isRunning_tracks (.inl rfl))
      (tracks.interrupted (.inr rfl)) (tracks.sleep (.inr rfl))
    refine Try.Respects.bind (concerned _ command) fun _ => ?_
    refine (Try.Respects.lift (b.note_about _)).bind fun _ => ?_
    refine Try.Respects.bind (b.asking_about awaited.respects) fun _ => ?_
    refine Try.Respects.bind (b.asking_about (tracks.quit_tracks (.inl rfl)).respects) fun _ => ?_
    exact Try.Respects.lift (b.note_about _)
  | runToEnd extra =>
    have command : b.Concerns (.run ⟨b.settings.exe,
        b.browser.launchArguments b.settings.profile extra⟩) := by
      unfold Concerns
      rw [made]
      rfl
    refine Try.Respects.bind (concerned _ command) fun _ => ?_
    exact Try.Respects.log _ _ _ _

lemma prologue_about : Try.Respects b.About b.chronicled.prologue := by
  have tracks : b.chronicled.Tracks Recorded.world b.Concerned (· = .desktop) b := by
    refine chronicled_tracks (fun a _ ha a' ha' => ?_) fun _ _ _ => rfl
    cases ha'
    cases a <;> trivial
  have inspected : Try.Respects b.About
      (do if !(← Try.lift (asking (b.ask (.isDirectory b.settings.profile))))
        then b.chronicled.createProfile) := by
    refine (Try.Respects.lift (b.asking_about
      (b.ask_concerned (a := .isDirectory b.settings.profile) rfl))).bind fun there => ?_
    exact Try.Respects.ite b.createProfile_about (Try.Respects.pure ())
  unfold prologue
  refine Try.Respects.bind (b.asking_about (tracks.quitStale_tracks rfl).respects) fun _ => ?_
  refine Try.Respects.ite ?_ inspected
  exact (Try.Respects.lift (b.asking_about b.eraseProfile_concerned)).bind fun _ => inspected

end World

/-- **The profile that the browser is given.**  The arguments of a launch are a `selection` of the
profile and the arguments that were asked for, in order.  The selection has the bytes of the profile
for a Mozilla browser, and for a Chromium browser exactly if they are well-formed text: profiles
that are shown alike are not told apart.  While the profile is looked for, erased and made, every
directory that is asked for is the profile, and every command has these arguments; and the only
directory that they name is the one that was selected. -/
theorem profile_selected (b : Bench κ σ) :
    (∀ (profile : Path) (extra : List RawText),
      b.browser.launchArguments profile extra =
          selection b.browser.family (given b.browser.family profile) extra ++ extra ∧
        (b.browser.launchArguments profile extra =
            selection b.browser.family profile.raw extra ++ extra ↔
          b.browser.family = .mozilla ∨ ∃ text : String, profile.bytes = Utf8.encode text)) ∧
      (∀ p q : Path, given .chromium p = given .chromium q ↔ p.display = q.display) ∧
      (∀ name : RawText,
        (Names b.browser.family (b.browser.launchArguments b.settings.profile []) name ↔
          name = given b.browser.family b.settings.profile) ∧
        (Names b.browser.family (b.browser.launchArguments b.settings.profile
            (Browser.ProfileCreation.extra (b.browser.profileCreation b.settings.profile))) name ↔
          name = given b.browser.family b.settings.profile)) ∧
      ∀ w : World (Chronicled κ σ), ∃ moments,
        (b.chronicled.prologue.run w).world.outside.calls = w.outside.calls ++ moments ∧
          ∀ a ∈ asksIn moments, b.Concerns a := by
  refine ⟨fun profile extra => ⟨b.browser.launchArguments_eq_selection profile extra,
    b.browser.launchArguments_exact_iff profile extra⟩, fun _ _ => Browser.given_chromium_inj,
    fun name => ⟨b.browser.names_iff _ (.inl rfl), b.browser.names_iff _ (.inr rfl)⟩, fun w => ?_⟩
  obtain ⟨-, -, moments, calls, concerned⟩ := b.prologue_about w
  refine ⟨moments, calls, fun a ha => ?_⟩
  obtain ⟨m, hm, hask⟩ := List.mem_filterMap.1 ha
  exact (concerned m hm).1 a hask

/-- A Chromium browser is not given a profile of which the name is not well formed, such as the
bytes `70 ff`. -/
theorem not_selected_exactly :
    ¬ ∀ (b : Browser Unit (ProcessTable.World Unit)) (profile : Path) (extra : List RawText),
      0 ∉ profile.bytes →
        b.launchArguments profile extra = selection b.family profile.raw extra ++ extra := by
  intro exact
  have selected := exact (Browser.onFrozen "chrome") ⟨⟨[0x70, 0xFF]⟩⟩ [] (by decide)
  obtain h | ⟨text, h⟩ := (Browser.launchArguments_exact_iff _ _ _).1 selected
  · cases h
  · have read : Utf8.lossy [0x70, 0xFF] = text := by
      rw [show [0x70, 0xFF] = Utf8.encode text from h, Utf8.lossy_encode]
    rw [← read] at h
    exact absurd h (by decide +kernel)

end Bench

end StartupBench
