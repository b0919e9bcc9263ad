import StartupBench.Act
import StartupBench.Files

/-!
# What a run needs of the files

A run looks whether files and directories are there, removes directories, lists one, removes single
files, makes one temporary directory and writes one file.  `FileSystem` is a record of these over
any world, and `Files.fileSystem` its value on a tree of files.
-/

namespace StartupBench

/-- The files of a world `σ`. -/
structure FileSystem (κ σ : Type) where
  /-- Whether a file stands at a path. -/
  isFile : Path → Act κ σ Bool
  /-- Whether a directory stands at a path. -/
  isDirectory : Path → Act κ σ Bool
  /-- Remove a directory and everything in it. -/
  removeDirectory : Path → Try κ σ IoError Unit
  /-- The names of what stands in a directory. -/
  list : Path → Try κ σ IoError (List RawText)
  /-- Remove one file. -/
  removeFile : Path → Try κ σ IoError Unit
  /-- Make a directory among the temporary files, with a fresh name that begins so. -/
  makeTemporary : String → Try κ σ IoError Path
  /-- Write a file. -/
  write : Path → List UInt8 → Try κ σ IoError Unit

/-- The files of a part of the world. -/
def FileSystem.within {κ σ τ : Type} (get : τ → σ) (put : σ → τ → τ) (f : FileSystem κ σ) :
    FileSystem κ τ where
  isFile p := (f.isFile p).within get put
  isDirectory p := (f.isDirectory p).within get put
  removeDirectory p := Try.within get put (f.removeDirectory p)
  list p := Try.within get put (f.list p)
  removeFile p := Try.within get put (f.removeFile p)
  makeTemporary stem := Try.within get put (f.makeTemporary stem)
  write p content := Try.within get put (f.write p content)

namespace Files

/-- A change that may fail; a failed one changes nothing. -/
def change {κ : Type} (f : Files → Except IoError Files) : Try κ Files IoError Unit :=
  Try.step fun files =>
    match f files with
    | .ok after => (.ok (), after)
    | .error e => (.error e, files)

/-! ## Temporary directories -/

/-- A name among the temporary files: six digits after the stem. -/
def temporaryName (stem : String) (n : Nat) : RawText :=
  let digits := toString n
  stem ++ String.ofList (List.replicate (6 - digits.length) '0') ++ digits

/-- A name that is free in a directory.  A directory that cannot be listed has every name free. -/
def freshName (f : Files) (directory : Path) (stem : String) : RawText :=
  let taken : List FileName := match f.list directory with
    | .ok entries => entries.map (·.1)
    | .error _ => []
  let names := (List.range (taken.length + 1)).map (temporaryName stem)
  (names.find? fun name => !taken.contains name.bytes).getD (temporaryName stem 0)

/-- Make a directory with a fresh name in `directory`. -/
def makeTemporary (f : Files) (directory : Path) (stem : String) :
    Except IoError Path × Files :=
  let path := directory.join ⟨f.freshName directory stem⟩
  match f.makeDirectory path with
  | .ok after => (.ok path, after)
  | .error e => (.error (e.about path), f)

/-! ## The record -/

/-- The files of a tree, with the temporary ones in `temporary`. -/
def fileSystem (κ : Type) (temporary : Path) : FileSystem κ Files where
  isFile p := Act.reading fun f => f.isFile p
  isDirectory p := Act.reading fun f => f.isDirectory p
  removeDirectory p := Try.step fun f => f.removeDirectory p
  list p := Try.step fun f => ((f.list p).map fun entries => entries.map fun e => ⟨e.1⟩, f)
  removeFile p := change fun f => f.removeFile p
  makeTemporary stem := Try.step fun f => f.makeTemporary temporary stem
  write p content := change fun f => f.write p content

end Files

end StartupBench
