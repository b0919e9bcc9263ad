import StartupBench.Decimal.Reader
import StartupBench.FileSystem

/-!
# Prefetch files

Some systems note which files an executable reads when it starts, and read them ahead the next time.
They keep these notes in files named after the executable that end in `.pf`.  Removing the files
keeps this effect out of a measurement.
-/

namespace StartupBench.Prefetch

/-- A text with its ASCII letters in lower case. -/
def folded (text : String) : List Char := text.toList.map Decimal.lowerAscii

/-- Whether a file is a prefetch file of an executable. -/
def isEntry (name executable : String) : Bool :=
  (folded executable).isPrefixOf (folded name) && ".pf".toList.isSuffixOf (folded name)

/-- Remove files one after the other; the first that cannot be removed ends it. -/
def removeAll {κ σ : Type} (files : FileSystem κ σ) (directory : Path) :
    List RawText → Try κ σ IoError Unit
  | [] => pure ()
  | name :: rest => do
    files.removeFile (directory.join ⟨name⟩)
    removeAll files directory rest

/-- Remove the prefetch files of an executable and answer how many there were.  A directory that is
missing holds none. -/
def purge {κ σ : Type} (files : FileSystem κ σ) (directory : Path) (executable : String) :
    Try κ σ IoError Nat := do
  match ← Try.attempt (files.list directory) with
  | .error (.os .noEntry) => pure 0
  | .error e => Try.fail e
  | .ok names =>
    let doomed := names.filter fun name => isEntry name.display executable
    Try.log .info .prefetch ("Deleting " ++ toString doomed.length ++ " prefetch files")
    removeAll files directory doomed
    pure doomed.length

end StartupBench.Prefetch
