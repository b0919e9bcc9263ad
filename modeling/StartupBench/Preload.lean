import StartupBench.RunError

/-!
# The preload setting

A browser may be told to read its main library into memory before it is needed.  The setting is
kept in a store outside of the benchmark: it is read before a run, overridden for the run and
written back afterwards.  Where there is no such setting, the store reads as switched off and
refuses to switch it on.
-/

namespace StartupBench

/-- A preload setting. -/
structure PreloadState where
  enabled : Bool
  /-- How many bytes are read at a time; none for what the browser likes. -/
  size : Option UInt32 := none
  /-- The distance between touched pages; none for what the browser likes. -/
  stride : Option UInt32 := none
  deriving DecidableEq, Repr, Inhabited

namespace PreloadState

/-- No preloading. -/
def disabled : PreloadState := { enabled := false }

/-- The setting as it stands in the log. -/
def text (s : PreloadState) : String :=
  "PreloadState \x7b enabled: " ++ (if s.enabled then "true" else "false") ++
    ", size: " ++ optionText (fun n => toString n.toNat) s.size ++
    ", stride: " ++ optionText (fun n => toString n.toNat) s.stride ++ " \x7d"

end PreloadState

/-- Where a preload setting is kept. -/
structure PreloadStore (κ σ : Type) where
  load : Try κ σ RunError PreloadState
  store : PreloadState → Try κ σ RunError Unit

namespace PreloadStore

variable {κ σ : Type}

/-- No setting: switched off, and it cannot be switched on for `target`. -/
def unavailable (target : String) : PreloadStore κ σ where
  load := pure PreloadState.disabled
  store s :=
    if s.enabled then Try.fail (.unsupportedFeature "DLL preloading" target) else pure ()

/-- A setting kept in memory. -/
def memory : PreloadStore κ PreloadState where
  load := Try.world
  store s := Try.update fun _ => s

/-- A store on a part of the world. -/
def within {τ : Type} (get : τ → σ) (put : σ → τ → τ) (s : PreloadStore κ σ) :
    PreloadStore κ τ where
  load := Try.within get put s.load
  store state := Try.within get put (s.store state)

end PreloadStore

end StartupBench
