import StartupBench.Decimal.Reader
import StartupBench.RawText

/-!
# Families of browsers

Browsers of one family are found, asked to quit and given a profile in the same way.  The family is
read off the name of the executable.
-/

namespace StartupBench

/-- A family of browsers. -/
inductive Family where
  | chromium
  | mozilla
  deriving DecidableEq, Repr

namespace Family

/-- The name of the family. -/
def name : Family → String
  | chromium => "Chromium"
  | mozilla => "Mozilla"

/-- Whether a text holds `piece` somewhere. -/
def holds (piece : List Char) : List Char → Bool
  | [] => piece.isEmpty
  | c :: rest => piece.isPrefixOf (c :: rest) || holds piece rest

/-- The family of an executable: names with "chrom" in them, in any case, are of the Chromium
family, and all others of the Mozilla family.  Folding the case of ASCII letters is enough, for no
other letter folds to one of these five. -/
def ofExecutable (exe : Path) : Family :=
  let name := exe.fileNameText.toList.map Decimal.lowerAscii
  if holds "chrom".toList name then chromium else mozilla

end Family

end StartupBench
