import RoutingData.BuildError
import RoutingData.Net.Basic
import RoutingData.Text.Digit

/-!
# Reading networks

Reads an address in dotted or colon notation and, after a slash, the length of a mask. Readers take
the rest of the text and return what they read with the text after it.
-/

namespace RoutingData.Net

/-- A number of at most `maxDigits` digits. -/
def readNumber (base maxDigits : Nat) (cs : List Char) : Option ((List Char × Nat) × List Char) :=
  let digits := cs.takeWhile (Text.isDigitIn base)
  if digits.isEmpty || maxDigits < digits.length then none
  else some ((digits, Text.number base digits), cs.dropWhile (Text.isDigitIn base))

/-- A number from 0 to 255 in decimal, without leading zeros. -/
def readOctet (cs : List Char) : Option (Nat × List Char) := do
  let ((digits, n), rest) ← readNumber 10 3 cs
  guard (n < 256 && (digits.length == 1 || digits.head? != some '0'))
  return (n, rest)

/-- Four octets with dots between. -/
def readDotted (cs : List Char) : Option (Nat × List Char) := do
  let (a, rest) ← readOctet cs
  let '.' :: rest := rest | none
  let (b, rest) ← readOctet rest
  let '.' :: rest := rest | none
  let (c, rest) ← readOctet rest
  let '.' :: rest := rest | none
  let (d, rest) ← readOctet rest
  return (((a * 256 + b) * 256 + c) * 256 + d, rest)

/-- The text after the colon before a group, which the first group does not have. -/
def afterColon (isFirst : Bool) (cs : List Char) : Option (List Char) :=
  if isFirst then some cs
  else
    match cs with
    | ':' :: rest => some rest
    | _ => none

/-- Groups of 16 bits with colons between, as many as there are, `limit` at most. Dotted notation
may stand for the last two, and the flag tells whether it did. -/
def readGroups (isFirst : Bool) : Nat → List Char → (List Nat × Bool) × List Char
  | 0, cs => (([], false), cs)
  | limit + 1, cs =>
    let dotted := if limit = 0 then none else (afterColon isFirst cs).bind readDotted
    match dotted with
    | some (n, rest) => (([n / 65536, n % 65536], true), rest)
    | none =>
      match (afterColon isFirst cs).bind (readNumber 16 4) with
      | none => (([], false), cs)
      | some ((_, n), rest) =>
        let ((groups, isDotted), rest) := readGroups false limit rest
        ((n :: groups, isDotted), rest)

/-- The number that groups of 16 bits spell. -/
def ofGroups (groups : List Nat) : Nat := groups.foldl (fun n g => 65536 * n + g) 0

/-- Eight groups, of which a double colon may stand for one or more that are zero. -/
def readColons (cs : List Char) : Option (Nat × List Char) :=
  let ((front, isDotted), rest) := readGroups true 8 cs
  if front.length = 8 then some (ofGroups front, rest)
  else if isDotted then none
  else
    match rest with
    | ':' :: ':' :: rest =>
      let ((back, _), rest) := readGroups true (7 - front.length) rest
      let gap := List.replicate (8 - front.length - back.length) 0
      some (ofGroups (front ++ gap ++ back), rest)
    | _ => none

/-- The address that a text is. -/
def parseAddress? (cs : List Char) : Option (Family × Nat) :=
  match readDotted cs with
  | some (n, rest) => if rest.isEmpty then some (.v4, n) else none
  | none =>
    match readColons cs with
    | some (n, []) => some (.v6, n)
    | _ => none

/-- The mask length that a text is: digits, with a plus sign before them or without. -/
def parseLength? (cs : List Char) : Option Nat :=
  let digits := match cs with
    | '+' :: rest => rest
    | _ => cs
  if digits.isEmpty || !digits.all Char.isDigit then none
  else
    let n := Text.number 10 digits
    if n < 256 then some n else none

/-- Reads a network. Without a mask length all bits of the address count; host bits are cleared. -/
def parse (text : String) : Except BuildError Net :=
  let cs := Text.trimChars text.toList
  let (addressText, lengthText) := match Text.cut? '/' cs with
    | some (a, l) => (Text.trimChars a, some (Text.trimChars l))
    | none => (cs, none)
  match parseAddress? addressText with
  | none => .error (.net (.address (.ofList cs)))
  | some (f, address) =>
    let length? := match lengthText with
      | none => some f.width
      | some l => parseLength? l
    match length?.bind (ofParts? f address) with
    | none => .error (.net (.mask (.ofList cs)))
    | some n => .ok n.truncate

end RoutingData.Net
