import StartupBench.Json.Fault
import StartupBench.Decimal.Reader
import StartupBench.Text.Utf8

/-!
# Reading JSON

Readers take the bytes that are still to be read and answer a value and the bytes after it, or the
first fault met from left to right.  Values that nobody asked for are skipped: of them only the form
is looked at, so that they may be nested to any depth and hold any number.

## Main definitions

* `Reader.number`: a number, whole if it fits 64 bits;
* `Reader.text`: the characters of a text whose opening quote has been read;
* `Reader.skip`: any value;
* `Reader.items`: the items of a list.
-/

namespace StartupBench.Json.Reader

/-- A value and the bytes after it. -/
abbrev Taken (α : Type) : Type := α × List UInt8

/-! ## Bytes -/

/-- A fault in front of the bytes `rest`. -/
def faultAt {α : Type} (cause : Cause) (rest : List UInt8) : Except Fault α :=
  .error ⟨cause, rest.length⟩

/-- A fault of the first of the bytes `rest`. -/
def faultIn {α : Type} (cause : Cause) (rest : List UInt8) : Except Fault α :=
  .error ⟨cause, rest.length - 1⟩

/-- The byte of an ASCII character. -/
def byte (c : Char) : UInt8 := c.toNat.toUInt8

/-- Whether a byte may stand between values. -/
def isSpace (b : UInt8) : Bool := b == 0x20 || b == 0x0A || b == 0x09 || b == 0x0D

/-- The bytes from the next value or mark on. -/
def skipSpace (bytes : List UInt8) : List UInt8 := bytes.dropWhile isSpace

/-- The value of a decimal digit. -/
def digit? (b : UInt8) : Option Nat :=
  if 0x30 ≤ b && b ≤ 0x39 then some (b.toNat - 0x30) else none

/-- The digits in front and the bytes after them. -/
def takeDigits : List UInt8 → List Nat × List UInt8
  | [] => ([], [])
  | b :: rest =>
    match digit? b with
    | some d =>
      let (ds, after) := takeDigits rest
      (d :: ds, after)
    | none => ([], b :: rest)

/-- Whether the bytes begin with an ASCII character. -/
def startsWith (c : Char) (bytes : List UInt8) : Bool := bytes.head? == some (byte c)

/-- Whether the bytes begin with the mark of an exponent. -/
def startsExponent (bytes : List UInt8) : Bool := startsWith 'e' bytes || startsWith 'E' bytes

/-- The letters of a name have to follow. -/
def identifier : List Char → List UInt8 → Except Fault (Taken Unit)
  | [], rest => .ok ((), rest)
  | _ :: _, [] => faultAt .endInValue []
  | c :: cs, b :: rest =>
    if b == byte c then identifier cs rest else faultAt .expectedIdentifier rest

/-! ## Numbers

The first digits of a number are collected in a word of 64 bits; digits that no longer fit only
count for the size of the number.  The word is then scaled by a power of ten in double precision,
which rounds twice. -/

/-- A number. -/
inductive Number where
  | unsigned (value : Nat)
  | negative (value : Int)
  | double (value : Float)

/-- The kind of a number. -/
def Number.found : Number → Found
  | unsigned value => .integer value
  | negative value => .integer value
  | double value => .number value

/-- The double nearest to a number. -/
def Number.toFloat : Number → Float
  | unsigned value => Binary64.nearest false value 1
  | negative value => Binary64.nearest true value.natAbs 1
  | double value => value

/-- Append digits to a word as long as it fits 64 bits; the word and the digits that did not fit. -/
def collect (word : Nat) : List Nat → Nat × List Nat
  | [] => (word, [])
  | d :: ds => if word * 10 + d < Nat.pow 2 64 then collect (word * 10 + d) ds else (word, d :: ds)

/-- The double nearest to a power of ten. -/
def powerOfTen (n : Nat) : Float := Binary64.nearest false (Nat.pow 10 n) 1

/-- The largest power of ten that is a double. -/
def largestPower : Nat := 308

/-- Divide by `10 ^ n`, at most by the largest power at a time. -/
def divideByPower (x : Float) (n : Nat) : Float :=
  if n ≤ largestPower then x / powerOfTen n
  else if x == 0.0 then x
  else divideByPower (x / powerOfTen largestPower) (n - largestPower)
termination_by n
decreasing_by simp only [largestPower] at *; omega

/-- The double `± word · 10 ^ e`, in front of the bytes `rest`. -/
def scale (negative : Bool) (word : Nat) (e : Int) (rest : List UInt8) :
    Except Fault (Taken Number) :=
  let x := Binary64.nearest false word 1
  let scaled :=
    if 0 ≤ e then
      if e ≤ largestPower then
        let y := x * powerOfTen e.toNat
        if y.isInf then none else some y
      else if x == 0.0 then some x else none
    else some (divideByPower x e.natAbs)
  match scaled with
  | some y => .ok (.double (if negative then -y else y), rest)
  | none => faultAt .numberOutOfRange rest

/-- The exponent of a number is collected in a signed word of 32 bits; the word and the digits that
did not fit. -/
def collectExponent (word : Nat) : List Nat → Nat × List Nat
  | [] => (word, [])
  | d :: ds =>
    if word * 10 + d < Nat.pow 2 31 then collectExponent (word * 10 + d) ds else (word, d :: ds)

/-- The digits of an exponent; `start` is the exponent without it. -/
def exponentDigits (negative : Bool) (word : Nat) (start : Int) (down : Bool)
    (bytes : List UInt8) : Except Fault (Taken Number) :=
  match bytes with
  | [] => faultAt .endInValue []
  | b :: rest =>
    match digit? b with
    | none => faultAt .invalidNumber rest
    | some first =>
      let (digits, after) := takeDigits rest
      match collectExponent first digits with
      | (e, []) => scale negative word (if down then start - e else start + e) after
      | (_, left) =>
        if word ≠ 0 ∧ !down then
          .error ⟨.numberOutOfRange, after.length + (left.length - 1)⟩
        else .ok (.double (if negative then -0.0 else 0.0), after)

/-- An exponent, of which the mark has been read. -/
def exponent (negative : Bool) (word : Nat) (start : Int) (bytes : List UInt8) :
    Except Fault (Taken Number) :=
  if startsWith '+' bytes then exponentDigits negative word start false (bytes.drop 1)
  else if startsWith '-' bytes then exponentDigits negative word start true (bytes.drop 1)
  else exponentDigits negative word start false bytes

/-- The end of a number that is not whole: an exponent, or nothing. -/
def afterPlaces (negative : Bool) (word : Nat) (e : Int) (rest : List UInt8) :
    Except Fault (Taken Number) :=
  if startsExponent rest then exponent negative word e (rest.drop 1)
  else scale negative word e rest

/-- The places of a number, of which the point has been read. -/
def places (negative : Bool) (word : Nat) (start : Int) (bytes : List UInt8) :
    Except Fault (Taken Number) :=
  let (digits, rest) := takeDigits bytes
  if digits.isEmpty then
    if rest.isEmpty then faultIn .endInValue rest else faultIn .invalidNumber rest
  else
    let (word, left) := collect word digits
    afterPlaces negative word (start - (digits.length - left.length : Nat)) rest

/-- A whole number, or the end of one that is not. -/
def afterWhole (negative : Bool) (word : Nat) (rest : List UInt8) : Except Fault (Taken Number) :=
  if startsWith '.' rest then places negative word 0 (rest.drop 1)
  else if startsExponent rest then exponent negative word 0 (rest.drop 1)
  else if !negative then .ok (.unsigned word, rest)
  else if word = 0 ∨ Nat.pow 2 63 < word then
    .ok (.double (-(Binary64.nearest false word 1)), rest)
  else .ok (.negative (-(word : Int)), rest)

/-- The end of a number whose whole part does not fit, of which `e` digits were left out. -/
def afterLong (negative : Bool) (word : Nat) (e : Int) (rest : List UInt8) :
    Except Fault (Taken Number) :=
  if startsWith '.' rest then places negative word e (rest.drop 1)
  else afterPlaces negative word e rest

/-- A number without its sign. -/
def magnitude (negative : Bool) (bytes : List UInt8) : Except Fault (Taken Number) :=
  match bytes with
  | [] => faultAt .endInValue []
  | b :: rest =>
    match digit? b with
    | none => faultAt .invalidNumber rest
    | some 0 =>
      if (rest.head?.bind digit?).isSome then faultIn .invalidNumber rest
      else afterWhole negative 0 rest
    | some first =>
      let (digits, after) := takeDigits rest
      match collect first digits with
      | (word, []) => afterWhole negative word after
      | (word, left) => afterLong negative word left.length after

/-- A number. -/
def number (bytes : List UInt8) : Except Fault (Taken Number) :=
  if startsWith '-' bytes then magnitude true (bytes.drop 1) else magnitude false bytes

/-! ## Texts -/

/-- The value of a hexadecimal digit. -/
def hexDigit? (b : UInt8) : Option Nat :=
  if 0x30 ≤ b && b ≤ 0x39 then some (b.toNat - 0x30)
  else if 0x61 ≤ b && b ≤ 0x66 then some (b.toNat - 0x57)
  else if 0x41 ≤ b && b ≤ 0x46 then some (b.toNat - 0x37)
  else none

/-- The four digits of an escape by number. -/
def hexWord : List UInt8 → Except Fault (Taken Nat)
  | a :: b :: c :: d :: rest =>
    match hexDigit? a, hexDigit? b, hexDigit? c, hexDigit? d with
    | some a, some b, some c, some d => .ok (((a * 16 + b) * 16 + c) * 16 + d, rest)
    | _, _, _, _ => faultAt .invalidEscape rest
  | _ => faultAt .endInText []

/-- Whether a word is the first half of a character beyond the basic plane. -/
def isHighSurrogate (n : Nat) : Bool := 0xD800 ≤ n && n ≤ 0xDBFF

/-- Whether a word is the second half of a character beyond the basic plane. -/
def isLowSurrogate (n : Nat) : Bool := 0xDC00 ≤ n && n ≤ 0xDFFF

/-- One byte that has to be there. -/
def expectByte (c : Char) : List UInt8 → Except Fault (Taken Unit)
  | [] => faultAt .endInText []
  | b :: rest => if b == byte c then .ok ((), rest) else faultAt .endOfSurrogate rest

/-- The character of an escape by number, of which the backslash and the letter have been read. -/
def unicodeEscape (bytes : List UInt8) : Except Fault (Taken Char) := do
  let (high, rest) ← hexWord bytes
  if isLowSurrogate high then faultAt .loneSurrogate rest
  else if isHighSurrogate high then
    let ((), rest) ← expectByte '\\' rest
    let ((), rest) ← expectByte 'u' rest
    let (low, rest) ← hexWord rest
    if isLowSurrogate low then
      .ok (Char.ofNat ((high - 0xD800) * 0x400 + (low - 0xDC00) + 0x10000), rest)
    else faultAt .loneSurrogate rest
  else .ok (Char.ofNat high, rest)

/-- What an escape by a letter stands for. -/
def letterEscape? (b : UInt8) : Option Char :=
  if b == byte '"' then some '"'
  else if b == byte '\\' then some '\\'
  else if b == byte '/' then some '/'
  else if b == byte 'b' then some '\x08'
  else if b == byte 'f' then some '\x0c'
  else if b == byte 'n' then some '\n'
  else if b == byte 'r' then some '\r'
  else if b == byte 't' then some '\t'
  else none

/-- An escape, of which the backslash has been read. -/
def escaped : List UInt8 → Except Fault (Taken Char)
  | [] => faultAt .endInText []
  | b :: rest =>
    if b == byte 'u' then unicodeEscape rest
    else match letterEscape? b with
      | some c => .ok (c, rest)
      | none => faultAt .invalidEscape rest

/-- The bytes of a text, up to its closing quote; at most `fuel` of them. -/
def textBytes : (fuel : Nat) → (bytes : List UInt8) → Except Fault (Taken (List UInt8))
  | 0, rest => faultAt .endInText rest
  | _, [] => faultAt .endInText []
  | fuel + 1, b :: rest =>
    if b == byte '"' then .ok ([], rest)
    else if b == byte '\\' then do
      let (c, rest) ← escaped rest
      let (bytes, rest) ← textBytes fuel rest
      .ok (Utf8.encode (String.singleton c) ++ bytes, rest)
    else if b < 0x20 then faultAt .controlCharacter rest
    else do
      let (bytes, rest) ← textBytes fuel rest
      .ok (b :: bytes, rest)

/-- A text, of which the opening quote has been read. -/
def text (bytes : List UInt8) : Except Fault (Taken String) := do
  let (content, rest) ← textBytes bytes.length bytes
  match Utf8.strict? content with
  | some s => .ok (s, rest)
  | none => faultAt .invalidCodePoint rest

/-! ## Skipping values -/

/-- Skip an exponent, of which the mark has been read. -/
def skipExponent (bytes : List UInt8) : Except Fault (Taken Unit) :=
  let bytes := if startsWith '+' bytes || startsWith '-' bytes then bytes.drop 1 else bytes
  match bytes with
  | [] => faultAt .invalidNumber []
  | b :: rest =>
    if (digit? b).isSome then .ok ((), (takeDigits rest).2) else faultAt .invalidNumber rest

/-- Skip the places and the exponent of a number, if there are any. -/
def skipFraction (bytes : List UInt8) : Except Fault (Taken Unit) :=
  if startsWith '.' bytes then
    let (digits, rest) := takeDigits (bytes.drop 1)
    if digits.isEmpty then faultIn .invalidNumber rest
    else if startsExponent rest then skipExponent (rest.drop 1)
    else .ok ((), rest)
  else if startsExponent bytes then skipExponent (bytes.drop 1)
  else .ok ((), bytes)

/-- Skip a number without its sign. -/
def skipMagnitude : List UInt8 → Except Fault (Taken Unit)
  | [] => faultAt .invalidNumber []
  | b :: rest =>
    match digit? b with
    | none => faultAt .invalidNumber rest
    | some 0 =>
      if (rest.head?.bind digit?).isSome then faultIn .invalidNumber rest else skipFraction rest
    | some _ => skipFraction (takeDigits rest).2

/-- Skip a text, of which the opening quote has been read; at most `fuel` bytes. -/
def skipTextBytes : (fuel : Nat) → (bytes : List UInt8) → Except Fault (Taken Unit)
  | 0, rest => faultAt .endInText rest
  | _, [] => faultAt .endInText []
  | fuel + 1, b :: rest =>
    if b == byte '"' then .ok ((), rest)
    else if b == byte '\\' then
      match rest with
      | [] => faultAt .endInText []
      | e :: rest =>
        if e == byte 'u' then do
          let (_, rest) ← hexWord rest
          skipTextBytes fuel rest
        else if (letterEscape? e).isSome then skipTextBytes fuel rest
        else faultAt .invalidEscape rest
    else if b < 0x20 then faultAt .controlCharacter (b :: rest)
    else skipTextBytes fuel rest

/-- Skip a text, of which the opening quote has been read. -/
def skipText (bytes : List UInt8) : Except Fault (Taken Unit) := skipTextBytes bytes.length bytes

/-- Skip a key and the colon after it. -/
def skipKey (bytes : List UInt8) : Except Fault (Taken Unit) :=
  match skipSpace bytes with
  | [] => faultIn .endInRecord []
  | b :: rest =>
    if b == byte '"' then do
      let ((), rest) ← skipText rest
      match skipSpace rest with
      | [] => faultIn .endInRecord []
      | c :: rest => if c == byte ':' then .ok ((), rest) else faultIn .expectedColon (c :: rest)
    else faultIn .keyNotText (b :: rest)

/-- What encloses a value: a list or a record. -/
inductive Enclosure where
  | list
  | record
  deriving DecidableEq

namespace Enclosure

/-- The mark that ends it. -/
def closing : Enclosure → UInt8
  | list => byte ']'
  | record => byte '\x7d'

/-- The cause if the document ends in it. -/
def ended : Enclosure → Cause
  | list => .endInList
  | record => .endInRecord

/-- The cause if something else follows an item. -/
def unclosed : Enclosure → Cause
  | list => .expectedCommaOrListEnd
  | record => .expectedCommaOrRecordEnd

/-- What stands in front of an item: nothing in a list, a key in a record. -/
def beforeItem (e : Enclosure) (bytes : List UInt8) : Except Fault (Taken Unit) :=
  match e with
  | list => .ok ((), bytes)
  | record => skipKey bytes

end Enclosure

/-- After an item inside `around`: the end of enclosures, and a comma if another item follows.
Answers the enclosures around that item. -/
def afterItem : (around : List Enclosure) → (bytes : List UInt8) →
    Except Fault (Taken (List Enclosure))
  | [], bytes => .ok ([], bytes)
  | e :: outer, bytes =>
    match skipSpace bytes with
    | [] => faultIn e.ended []
    | b :: rest =>
      if b == byte ',' then do
        let ((), rest) ← e.beforeItem rest
        .ok (e :: outer, rest)
      else if b == e.closing then afterItem outer rest
      else faultIn e.unclosed (b :: rest)

/-- Skip a value that is neither a list nor a record, whose first byte is `b`. -/
def skipScalar (b : UInt8) (rest : List UInt8) : Except Fault (Taken Unit) :=
  if b == byte 'n' then identifier ['u', 'l', 'l'] rest
  else if b == byte 't' then identifier ['r', 'u', 'e'] rest
  else if b == byte 'f' then identifier ['a', 'l', 's', 'e'] rest
  else if b == byte '-' then skipMagnitude rest
  else if (digit? b).isSome then skipMagnitude (b :: rest)
  else if b == byte '"' then skipText rest
  else faultIn .expectedValue (b :: rest)

/-- Skip a value inside `around` and all that follows it there; at most `fuel` values. -/
def skipWithin : (fuel : Nat) → (around : List Enclosure) → (bytes : List UInt8) →
    Except Fault (Taken Unit)
  | 0, _, rest => faultAt .endInValue rest
  | fuel + 1, around, bytes =>
    match skipSpace bytes with
    | [] => faultIn .endInValue []
    | b :: rest =>
      let opened : Option Enclosure :=
        if b == byte '[' then some .list else if b == byte '\x7b' then some .record else none
      let next : Except Fault (Taken (List Enclosure)) :=
        match opened with
        | none => do
          let ((), rest) ← skipScalar b rest
          afterItem around rest
        | some e =>
          match skipSpace rest with
          | [] => faultIn e.ended []
          | c :: after =>
            if c == e.closing then afterItem around after
            else do
              let ((), rest) ← e.beforeItem (c :: after)
              .ok (e :: around, rest)
      match next with
      | .error f => .error f
      | .ok ([], rest) => .ok ((), rest)
      | .ok (around, rest) => skipWithin fuel around rest

/-- Skip a value. -/
def skip (bytes : List UInt8) : Except Fault (Taken Unit) := skipWithin bytes.length [] bytes

/-! ## Unexpected values -/

/-- The fault of a value of the wrong kind. -/
def wrongType {α : Type} (expected : String) (bytes : List UInt8) : Except Fault α :=
  match bytes with
  | [] => faultIn .expectedValue []
  | b :: rest => do
    let (found, rest) ← (
      if b == byte 'n' then do
        let ((), rest) ← identifier ['u', 'l', 'l'] rest
        .ok (Found.null, rest)
      else if b == byte 't' then do
        let ((), rest) ← identifier ['r', 'u', 'e'] rest
        .ok (Found.bool true, rest)
      else if b == byte 'f' then do
        let ((), rest) ← identifier ['a', 'l', 's', 'e'] rest
        .ok (Found.bool false, rest)
      else if b == byte '-' || (digit? b).isSome then do
        let (n, rest) ← number bytes
        .ok (n.found, rest)
      else if b == byte '"' then do
        let (s, rest) ← text rest
        .ok (Found.text s, rest)
      else if b == byte '[' then .ok (Found.list, bytes)
      else if b == byte '\x7b' then .ok (Found.record, bytes)
      else faultIn .expectedValue bytes : Except Fault (Taken Found))
    faultAt (.wrongType found expected) rest

/-- The bytes of the next value; there has to be one. -/
def nextValue (bytes : List UInt8) : Except Fault (List UInt8) :=
  match skipSpace bytes with
  | [] => faultIn .endInValue []
  | rest => .ok rest

/-- Whether a number begins here. -/
def startsNumber (bytes : List UInt8) : Bool :=
  startsWith '-' bytes || (bytes.head?.bind digit?).isSome

/-! ## Lists and records -/

/-- Whether another item of a list follows, and the bytes from it or from the end of the list on.
`first` says that no item was read yet. -/
def nextItem (first : Bool) (bytes : List UInt8) : Except Fault (Taken Bool) :=
  match skipSpace bytes with
  | [] => faultIn .endInList []
  | b :: rest =>
    if b == byte ']' then .ok (false, b :: rest)
    else if first then .ok (true, b :: rest)
    else if b == byte ',' then
      match skipSpace rest with
      | [] => faultIn .endInValue []
      | c :: after =>
        if c == byte ']' then faultIn .trailingComma (c :: after) else .ok (true, c :: after)
    else faultIn .expectedCommaOrListEnd (b :: rest)

/-- The end of a list. -/
def endList (bytes : List UInt8) : Except Fault (Taken Unit) :=
  match skipSpace bytes with
  | [] => faultIn .endInList []
  | b :: rest =>
    if b == byte ']' then .ok ((), rest)
    else if b == byte ',' then
      match skipSpace rest with
      | c :: after =>
        if c == byte ']' then faultIn .trailingComma (c :: after)
        else faultIn .trailingCharacters (c :: after)
      | [] => faultIn .trailingCharacters []
    else faultIn .trailingCharacters (b :: rest)

/-- Whether another member of a record follows, and the bytes from its key or from the end of the
record on. -/
def nextMember (first : Bool) (bytes : List UInt8) : Except Fault (Taken Bool) :=
  match skipSpace bytes with
  | [] => faultIn .endInRecord []
  | b :: rest =>
    if b == byte '\x7d' then .ok (false, b :: rest)
    else if first then
      if b == byte '"' then .ok (true, b :: rest) else faultIn .keyNotText (b :: rest)
    else if b == byte ',' then
      match skipSpace rest with
      | [] => faultIn .endInValue []
      | c :: after =>
        if c == byte '"' then .ok (true, c :: after)
        else if c == byte '\x7d' then faultIn .trailingComma (c :: after)
        else faultIn .keyNotText (c :: after)
    else faultIn .expectedCommaOrRecordEnd (b :: rest)

/-- The end of a record. -/
def endRecord (bytes : List UInt8) : Except Fault (Taken Unit) :=
  match skipSpace bytes with
  | [] => faultIn .endInRecord []
  | b :: rest =>
    if b == byte '\x7d' then .ok ((), rest)
    else if b == byte ',' then faultIn .trailingComma (b :: rest)
    else faultIn .trailingCharacters (b :: rest)

/-- The colon between a key and its value. -/
def colon (bytes : List UInt8) : Except Fault (Taken Unit) :=
  match skipSpace bytes with
  | [] => faultIn .endInRecord []
  | b :: rest => if b == byte ':' then .ok ((), rest) else faultIn .expectedColon (b :: rest)

/-- The items of a list, of which the opening mark has been read, and its end; at most `fuel`. -/
def items {α : Type} (item : List UInt8 → Except Fault (Taken α)) :
    (fuel : Nat) → (first : Bool) → (bytes : List UInt8) → Except Fault (Taken (List α))
  | 0, _, rest => faultAt .endInList rest
  | fuel + 1, first, bytes => do
    let (more, rest) ← nextItem first bytes
    if more then
      let (x, rest) ← item rest
      let (xs, rest) ← items item fuel false rest
      .ok (x :: xs, rest)
    else
      let ((), rest) ← endList rest
      .ok ([], rest)

/-- The end of the document. -/
def endDocument (bytes : List UInt8) : Except Fault Unit :=
  match skipSpace bytes with
  | [] => .ok ()
  | rest => faultIn .trailingCharacters rest

end StartupBench.Json.Reader
