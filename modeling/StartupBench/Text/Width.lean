import StartupBench.Text.CharWidth
import StartupBench.Text.Emoji
import StartupBench.Text.Joining

/-!
# Columns that a text takes on a terminal

The columns of a text are those of its characters, except where characters are drawn as one: an
emoji with its joiners, skin tone, key cap, flag tag or variation selector, letters of some scripts
that join to one, and a carriage return before a line feed.  What comes behind a character decides
what it adds, so a text is read from its end, and the part already read is remembered as `Ahead`.
-/

namespace StartupBench.Text

/-- The variation selectors that change widths. -/
inductive Selector
  /-- As plain text. -/
  | text
  /-- As an emoji. -/
  | emoji
  /-- A quotation mark as a full-width character. -/
  | fullWidth
  deriving DecidableEq

/-- The letters that may join with what comes before them. -/
inductive JoiningLetter
  | alef
  | lamed
  | ya
  | yaWithVowel
  | tifinagh
  | tifinaghJoiner
  | lisuTone
  | orkhonI
  | khmer
  deriving DecidableEq

/-- What a text begins with, as far as the character before it may be drawn as one with it. -/
inductive Beginning
  | plain
  | lineFeed
  | emoji
  | skinTone
  /-- A letter of a flag. -/
  | flagLetter
  /-- Several letters of flags. -/
  | flagLetters
  /-- A joiner with an emoji behind it. -/
  | joined
  /-- A key cap before a joined emoji. -/
  | joinedKeyCap
  /-- One letter of a flag before a joined emoji. -/
  | joinedFlagLetter
  /-- Several letters of flags before a joined emoji, an even number of them or not. -/
  | joinedFlags (even : Bool)
  /-- A tag's last letters before a joined emoji, so many of them. -/
  | joinedTagLetters (count : Nat)
  /-- A tag's last digits before a joined emoji, so many of them. -/
  | joinedTagDigits (count : Nat)
  /-- A letter that may join, with or without a joiner before it. -/
  | letter (linked : Bool) (l : JoiningLetter)
  /-- The Kirat Rai vowel sign e. -/
  | kiratRaiE
  /-- The Kirat Rai vowel sign ai. -/
  | kiratRaiAi
  deriving DecidableEq

namespace Beginning

/-- A letter that may join. -/
def isLetter : Beginning → Bool
  | .letter _ _ => true
  | _ => false

/-- A character that a joined emoji's variation selector may come before. -/
def isJoined : Beginning → Bool
  | .joined | .joinedKeyCap => true
  | _ => false

/-- What a text that begins with a character begins with. -/
def ofChar (c : Char) : Beginning :=
  if c = '\n' then .lineFeed
  else if c.toNat ≤ 0xa0 then .plain
  else if isSkinTone c then .skinTone
  else if isFlagLetter c then .flagLetter
  else if emojiPresentation.has c then .emoji
  else if alefs.has c then .letter false .alef
  else if c.toNat = 0x5dc then .letter false .lamed
  else if c.toNat = 0x1a10 then .letter false .ya
  else if tifinaghLetters.has c then .letter false .tifinagh
  else if lisuEndings.has c then .letter false .lisuTone
  else if c.toNat = 0x10c03 then .letter false .orkhonI
  else if khmerLetters.has c then .letter false .khmer
  else if c.toNat = 0x16d67 then .kiratRaiE
  else if c.toNat = 0x16d68 then .kiratRaiAi
  else .plain

/-- What a letter becomes behind a character that joins with it, and the columns that the character
adds. -/
def letterAfter (linked : Bool) (l : JoiningLetter) (c : Char) : Option (Int × Beginning) :=
  match l with
  | .alef =>
    if lams.has c then some (0, .plain)
    else if zeroWidth.has c && !separating.has c then some (0, .letter linked .alef)
    else none
  | .lamed => if linked && c.toNat = 0x5d0 then some (0, .plain) else none
  | .khmer => if c.toNat = 0x17d2 then some (-1, .plain) else none
  | .ya => if linked && c.toNat = 0x1a17 then some (0, .letter linked .yaWithVowel) else none
  | .yaWithVowel => if c.toNat = 0x1a15 then some (0, .plain) else none
  | .tifinagh =>
    if c.toNat = 0x2d7f then some (1, .letter true .tifinaghJoiner)
    else if linked && tifinaghLetters.has c then some (0, .plain)
    else none
  | .tifinaghJoiner => if tifinaghLetters.has c then some (-1, .plain) else none
  | .lisuTone => if lisuTones.has c then some (0, .plain) else none
  | .orkhonI => if linked && c.toNat = 0x10c32 then some (0, .plain) else none

/-- The columns that a character adds, and what the text begins with then, if the character is
drawn as one with what follows it. -/
def after (b : Beginning) (c : Char) : Option (Int × Beginning) :=
  match b with
  | .plain | .lineFeed => none
  | .emoji => if c.toNat = 0x200d then some (0, .joined) else none
  | .skinTone =>
    if c.toNat = 0x200d then some (0, .joined)
    else if skinned.has c then some (0, .emoji)
    else none
  | .flagLetter => if isFlagLetter c then some (1, .flagLetters) else none
  | .flagLetters =>
    if c.toNat = 0x200d then some (0, .joined)
    else if isFlagLetter c then some (1, .flagLetters)
    else none
  | .joined =>
    if c.toNat = 0x20e3 then some (0, .joinedKeyCap)
    else if isFlagLetter c then some (1, .joinedFlagLetter)
    else if isSkinTone c then some (0, .skinTone)
    else if c = tagEnd then some (0, .joinedTagLetters 0)
    else if emojiPresentation.has c then some (0, .emoji)
    else none
  | .joinedKeyCap => none
  | .joinedFlagLetter => if isFlagLetter c then some (-1, .joinedFlags true) else none
  | .joinedFlags even =>
    if c.toNat = 0x200d then some (0, .joined)
    else if isFlagLetter c then
      if even then some (3, .joinedFlags false) else some (-1, .joinedFlags true)
    else none
  | .joinedTagLetters n =>
    if isTagLetter c && n < 6 then some (0, .joinedTagLetters (n + 1))
    else if isTagDigit c && n ≤ 4 then some (0, .joinedTagDigits 1)
    else if c = blackFlag && 3 ≤ n then some (0, .emoji)
    else none
  | .joinedTagDigits n =>
    if isTagDigit c && n < 3 then some (0, .joinedTagDigits (n + 1))
    else if c = blackFlag && n = 3 then some (0, .emoji)
    else none
  | .letter linked l =>
    match l with
    | .alef => letterAfter linked l c
    | _ =>
      if c.toNat = 0x200d then some (0, .letter true l)
      else if transparent.has c then some (0, b)
      else letterAfter linked l c
  | .kiratRaiE =>
    if c.toNat = 0x16d63 || c.toNat = 0x16d69 then some (0, .plain)
    else if c.toNat = 0x16d67 then some (0, .kiratRaiAi)
    else if c.toNat = 0x16d68 then some (1, .kiratRaiE)
    else none
  | .kiratRaiAi => if c.toNat = 0x16d63 then some (0, .plain) else none

end Beginning

/-- The part of a text behind a character: what it begins with, and a variation selector before
that. -/
structure Ahead where
  beginning : Beginning := .plain
  selector : Option Selector := none

/-- The variation selectors. -/
def selectorOf? (c : Char) : Option Selector :=
  match c.toNat with
  | 0xfe01 => some .fullWidth
  | 0xfe0e => some .text
  | 0xfe0f => some .emoji
  | _ => none

/-- The quotation marks with a full-width form. -/
def isCurlyQuote (c : Char) : Bool :=
  c.toNat = 0x2018 || c.toNat = 0x2019 || c.toNat = 0x201c || c.toNat = 0x201d

/-- What a selector before a text leaves of its beginning: letters join across it, and an emoji
selector may stand between an emoji and a joiner. -/
def Ahead.select (s : Selector) (b : Beginning) : Ahead :=
  ⟨if b.isLetter || (s = .emoji && b.isJoined) then b else .plain, some s⟩

/-- What a character adds, and what the text begins with then, without a selector behind it. -/
def unselected (b : Beginning) (c : Char) : Int × Ahead :=
  if c = '\r' && b = .lineFeed then (0, {})
  else if c.toNat ≤ 0xa0 then (1, ⟨.ofChar c, none⟩)
  else match selectorOf? c with
    | some s => (0, .select s b)
    | none =>
      let (columns, b) := (b.after c).getD (charWidth c, .ofChar c)
      (columns, ⟨b, none⟩)

/-- What a character adds to the columns of a text, and the part behind the next character. -/
def Ahead.step (ahead : Ahead) (c : Char) : Int × Ahead :=
  match ahead.selector with
  | none => unselected ahead.beginning c
  | some s =>
    let rest := if ahead.beginning.isLetter then ahead.beginning else .plain
    match s with
    | .emoji =>
      if emojiSelectable.has c then (if ahead.beginning.isJoined then 0 else 2, ⟨.emoji, none⟩)
      else unselected rest c
    | .text => if textSelectable.has c then (1, {}) else unselected rest c
    | .fullWidth => if isCurlyQuote c then (2, {}) else unselected rest c

/-- The columns that a text takes. -/
def width (text : String) : Nat :=
  (text.toList.foldr (fun c (columns, ahead) =>
    let (more, ahead) := Ahead.step ahead c
    (columns + more, ahead)) ((0 : Int), ({} : Ahead))).1.toNat

end StartupBench.Text
