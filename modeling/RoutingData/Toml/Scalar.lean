import RoutingData.Text.Digit

/-!
# Values on one line

Readers for the texts, numbers, truth values, dates and times of a TOML document. Each takes the
rest of the document and returns what it read with what comes after it.
-/

namespace RoutingData.Toml

/-- A reader of something. -/
abbrev Reader (α : Type) := List Char → Option (α × List Char)

/-- Blanks within a line. -/
def isSpace (c : Char) : Bool := c = ' ' || c = '\t'

/-- The text after blanks. -/
def skipSpace (cs : List Char) : List Char := cs.dropWhile isSpace

/-- Characters that may stand in a comment and in most texts: no control characters but the tab. -/
def isPlain (c : Char) : Bool := c = '\t' || (0x20 ≤ c.toNat && c.toNat != 0x7F)

/-- The text after a line ending. -/
def skipNewline? (cs : List Char) : Option (List Char) :=
  match cs with
  | '\n' :: rest | '\r' :: '\n' :: rest => some rest
  | _ => none

/-! ### Texts -/

/-- The character of a code point in hexadecimal. -/
def codePoint? (digits : List Char) : Option Char := do
  guard (digits.all (Text.isDigitIn 16))
  let n := Text.number 16 digits
  guard (n < 0xD800 || (0xDFFF < n && n ≤ 0x10FFFF))
  return Char.ofNat n

/-- The character that a letter stands for after a backslash. -/
def letterEscape? : Char → Option Char
  | 'b' => some '\x08'
  | 'f' => some '\x0c'
  | 'n' => some '\n'
  | 'r' => some '\r'
  | 't' => some '\t'
  | '"' => some '"'
  | '\\' => some '\\'
  | _ => none

/-- A character after a backslash. -/
def readEscape : Reader Char
  | 'u' :: a :: b :: c :: d :: rest => (codePoint? [a, b, c, d]).map (·, rest)
  | 'U' :: a :: b :: c :: d :: e :: f :: g :: h :: rest =>
    (codePoint? [a, b, c, d, e, f, g, h]).map (·, rest)
  | c :: rest => (letterEscape? c).map (·, rest)
  | [] => none

/-- The rest of a text in double quotes; `acc` holds what was read, last character first. At most
`fuel` characters are read. -/
def readBasic (fuel : Nat) (acc : List Char) : Reader String := fun cs =>
  match fuel, cs with
  | 0, _ | _, [] => none
  | fuel + 1, c :: rest =>
    if c = '"' then some (.ofList acc.reverse, rest)
    else if c = '\\' then do
      let (d, rest) ← readEscape rest
      readBasic fuel (d :: acc) rest
    else if isPlain c then readBasic fuel (c :: acc) rest
    else none

/-- A text in single quotes, after the first quote. -/
def readLiteral : Reader String := fun cs =>
  let isInside (c : Char) : Bool := c != '\'' && isPlain c
  match cs.dropWhile isInside with
  | '\'' :: rest => some (.ofList (cs.takeWhile isInside), rest)
  | _ => none

/-- The text after blanks and line endings. -/
def skipLines : List Char → List Char
  | [] => []
  | '\r' :: '\n' :: rest => skipLines rest
  | c :: rest => if isSpace c || c = '\n' then skipLines rest else c :: rest

/-- The text after a backslash at the end of a line, which swallows the white space after it. -/
def skipLineEnd? (cs : List Char) : Option (List Char) :=
  (skipNewline? (skipSpace cs)).map skipLines

/-- The number of quotes at the start. -/
def countQuotes (quote : Char) (cs : List Char) : Nat := (cs.takeWhile (· == quote)).length

/-- The rest of a text over several lines in triple quotes. Up to two quotes may stand anywhere in
it, also before the closing three. Backslashes count only between double quotes. -/
def readLines (quote : Char) (fuel : Nat) (acc : List Char) : Reader String := fun cs =>
  match fuel, cs with
  | 0, _ | _, [] => none
  | fuel + 1, c :: rest =>
    if c = quote then
      let n := countQuotes quote cs
      if n < 3 then readLines quote fuel (List.replicate n quote ++ acc) (cs.drop n)
      else
        let inside := min (n - 3) 2
        some (.ofList (List.replicate inside quote ++ acc).reverse, cs.drop (inside + 3))
    else if c = '\\' && quote = '"' then
      match skipLineEnd? rest with
      | some rest => readLines quote fuel acc rest
      | none => do
        let (d, rest) ← readEscape rest
        readLines quote fuel (d :: acc) rest
    else
      match skipNewline? cs with
      | some rest => readLines quote fuel ('\n' :: acc) rest
      | none => if isPlain c then readLines quote fuel (c :: acc) rest else none

/-- A text in any kind of quotes, of at most `fuel` characters. A line that ends right after triple
quotes does not count. -/
def readText (fuel : Nat) : Reader String
  | '"' :: '"' :: '"' :: rest => readLines '"' fuel [] ((skipNewline? rest).getD rest)
  | '"' :: rest => readBasic fuel [] rest
  | '\'' :: '\'' :: '\'' :: rest => readLines '\'' fuel [] ((skipNewline? rest).getD rest)
  | '\'' :: rest => readLiteral rest
  | _ => none

/-! ### Numbers -/

/-- Digits with single low lines between them, as many as follow; `needed` says that the next
character has to be a digit. -/
def takeDigits (base : Nat) : Bool → Reader (List Char)
  | needed, [] => if needed then none else some ([], [])
  | needed, c :: rest =>
    if Text.isDigitIn base c then (takeDigits base false rest).map fun r => (c :: r.1, r.2)
    else if needed then none
    else if c = '_' then takeDigits base true rest
    else some ([], c :: rest)

/-- Digits with single low lines between them; `none` when there is no digit, or none after a low
line. -/
def readDigits (base : Nat) : Reader (List Char) := takeDigits base true

/-- A sign, if there is one; true stands for minus. -/
def readSign (cs : List Char) : Bool × List Char :=
  match cs with
  | '-' :: rest => (true, rest)
  | '+' :: rest => (false, rest)
  | _ => (false, cs)

/-- The digits of a decimal number, which has no zero in front. -/
def readWhole : Reader (List Char)
  | '0' :: rest => some (['0'], rest)
  | cs => readDigits 10 cs

/-- The largest number that fits in 63 bits. -/
def maxInteger : Nat := 0x7FFFFFFFFFFFFFFF

/-- An integer in a base other than ten, after the letter for the base. -/
def readBased (base : Nat) : Reader Unit := fun cs => do
  let (digits, rest) ← readDigits base cs
  guard (Text.number base digits ≤ maxInteger)
  return ((), rest)

/-- An integer. -/
def readInteger : Reader Unit
  | '0' :: 'x' :: rest => readBased 16 rest
  | '0' :: 'o' :: rest => readBased 8 rest
  | '0' :: 'b' :: rest => readBased 2 rest
  | cs => do
    let (negative, cs) := readSign cs
    let (digits, rest) ← readWhole cs
    guard (Text.number 10 digits ≤ maxInteger + negative.toNat)
    return ((), rest)

/-- The digits after a decimal point, none if there is no point. -/
def readFraction (cs : List Char) : Option (List Char × List Char) :=
  match cs with
  | '.' :: rest => readDigits 10 rest
  | _ => some ([], cs)

/-- An exponent, zero if there is none. -/
def readExponent (cs : List Char) : Option ((Bool × Nat) × List Char) :=
  match cs with
  | 'e' :: rest | 'E' :: rest => do
    let (negative, rest) := readSign rest
    let (digits, rest) ← readDigits 10 rest
    return ((negative, Text.number 10 digits), rest)
  | _ => some ((false, 0), cs)

/-- The smallest number that is too large for a binary64 number after rounding. -/
def overflow : Nat := Nat.pow 2 1024 - Nat.pow 2 970

/-- Whether `m * 10 ^ e` overflows, where `digits` bounds the number of digits of `m`. -/
def overflows (digits m : Nat) (negative : Bool) (e : Nat) : Bool :=
  if m = 0 then false
  else if negative then digits > e && overflow * Nat.pow 10 e ≤ m
  else e > 400 || overflow ≤ m * Nat.pow 10 e

/-- A number with a decimal point or an exponent. It is refused when it is too large, unless it is
negative. -/
def readFloat : Reader Unit := fun cs => do
  let (negative, cs) := readSign cs
  let (whole, afterWhole) ← readWhole cs
  let (fraction, afterFraction) ← readFraction afterWhole
  let ((expNegative, exponent), rest) ← readExponent afterFraction
  guard (rest.length < afterWhole.length)
  let m := Text.number 10 (whole ++ fraction)
  let digits := whole.length + fraction.length
  let places := fraction.length
  let tooLarge :=
    if expNegative then overflows digits m true (exponent + places)
    else if places ≤ exponent then overflows digits m false (exponent - places)
    else overflows digits m true (places - exponent)
  guard (negative || !tooLarge)
  return ((), rest)

/-- Reads one of some words. -/
def readWord (words : List String) : Reader Unit := fun cs =>
  (words.find? fun w => w.toList.isPrefixOf cs).map fun w => ((), cs.drop w.length)

/-- Infinity or not a number, perhaps signed. -/
def readSpecial : Reader Unit := fun cs => readWord ["inf", "nan"] (readSign cs).2

/-! ### Dates and times -/

/-- A number of exactly `count` digits between two bounds. -/
def readPart (count least most : Nat) : Reader Nat := fun cs => do
  let digits := cs.take count
  guard (digits.length = count && digits.all Char.isDigit)
  let n := Text.number 10 digits
  guard (least ≤ n && n ≤ most)
  return (n, cs.drop count)

/-- The text after a given character. -/
def expect (c : Char) (cs : List Char) : Option (List Char) :=
  match cs with
  | d :: rest => if d = c then some rest else none
  | [] => none

/-- The number of days of a month. -/
def daysInMonth (year month : Nat) : Nat :=
  if month = 2 then if year % 4 = 0 && (year % 100 != 0 || year % 400 = 0) then 29 else 28
  else if month = 4 ∨ month = 6 ∨ month = 9 ∨ month = 11 then 30
  else 31

/-- A date. -/
def readDate : Reader Unit := fun cs => do
  let (year, cs) ← readPart 4 0 9999 cs
  let (month, cs) ← readPart 2 1 12 (← expect '-' cs)
  let (_, cs) ← readPart 2 1 (daysInMonth year month) (← expect '-' cs)
  return ((), cs)

/-- Hours and minutes. -/
def readClock : Reader Unit := fun cs => do
  let (_, cs) ← readPart 2 0 23 cs
  let (_, cs) ← readPart 2 0 59 (← expect ':' cs)
  return ((), cs)

/-- A time of day with seconds, sixty in a minute with a leap second, and perhaps parts of them. -/
def readTime : Reader Unit := fun cs => do
  let (_, cs) ← readClock cs
  let (_, cs) ← readPart 2 0 60 (← expect ':' cs)
  match cs with
  | '.' :: d :: rest =>
    if d.isDigit then return ((), rest.dropWhile Char.isDigit) else return ((), cs)
  | _ => return ((), cs)

/-- The distance from universal time, if it is given. -/
def readOffset : Reader Unit
  | 'Z' :: rest | 'z' :: rest => some ((), rest)
  | '+' :: rest | '-' :: rest => readClock rest
  | cs => some ((), cs)

/-- A date, perhaps with a time and an offset, or a time. -/
def readMoment : Reader Unit := fun cs =>
  match readDate cs with
  | none => readTime cs
  | some (_, afterDate) =>
    let time : Option (Unit × List Char) := do
      let c :: rest := afterDate | none
      guard (c = 'T' || c = 't' || c = ' ')
      let (_, rest) ← readTime rest
      readOffset rest
    match time with
    | some r => some r
    | none => some ((), afterDate)

end RoutingData.Toml
