import Mathlib.Data.List.Basic

/-!
# Text

The `str` operations the command-output parsers use, on a string as its list of characters:
`lines`, `split_whitespace`, `trim`, `find`, `contains`, `rfind`, `to_lowercase`,
`eq_ignore_ascii_case` and the unsigned `FromStr`.

Rust indexes strings by bytes. Every pattern the parsers look for is ASCII, so a match starts
and ends on a character boundary, and slicing the byte string at a match is slicing the character
list at the same match. `to_lowercase` is only ever compared with ASCII words: the one
non-ASCII character whose lowercase is ASCII is the Kelvin sign, whose `k` none of them holds,
so lowercasing ASCII letters alone gives the same comparisons.
-/

namespace RustNet.Text

/-- `char::is_whitespace`: the Unicode `White_Space` property. -/
def isWhitespace (c : Char) : Bool :=
  let n := c.toNat
  (0x09 ≤ n && n ≤ 0x0D) || n == 0x20 || n == 0x85 || n == 0xA0 || n == 0x1680 ||
    (0x2000 ≤ n && n ≤ 0x200A) || n == 0x2028 || n == 0x2029 || n == 0x202F || n == 0x205F ||
    n == 0x3000

/-- `str::trim`: drop leading and trailing whitespace. -/
def trim (s : List Char) : List Char :=
  ((s.dropWhile isWhitespace).reverse.dropWhile isWhitespace).reverse

/-- The run-splitting loop of `split_whitespace`, with the current run reversed in `cur`. -/
def splitWhitespaceAux : List Char → List Char → List (List Char)
  | [], cur => if cur.isEmpty then [] else [cur.reverse]
  | c :: cs, cur =>
    if isWhitespace c then
      if cur.isEmpty then splitWhitespaceAux cs [] else cur.reverse :: splitWhitespaceAux cs []
    else splitWhitespaceAux cs (c :: cur)

/-- `str::split_whitespace`: the maximal runs of non-whitespace characters. -/
def splitWhitespace (s : List Char) : List (List Char) := splitWhitespaceAux s []

/-- A finished line of `lines`: its `\n` is gone; a `\r` right before it goes too. -/
def stripCr (revLine : List Char) : List Char :=
  match revLine with
  | '\r' :: rest => rest.reverse
  | _ => revLine.reverse

/-- The loop of `lines`, with the current line reversed in `cur`. -/
def linesAux : List Char → List Char → List (List Char)
  | [], cur => if cur.isEmpty then [] else [cur.reverse]
  | c :: cs, cur => if c = '\n' then stripCr cur :: linesAux cs [] else linesAux cs (c :: cur)

/-- `str::lines`: the text split at each `\n` or `\r\n`; a final line ending is optional. -/
def lines (s : List Char) : List (List Char) := linesAux s []

/-- `str::find` of a pattern: the position of its first occurrence. -/
def find (pat : List Char) : List Char → Option Nat
  | [] => if pat.isEmpty then some 0 else none
  | s@(_ :: cs) => if pat.isPrefixOf s then some 0 else (find pat cs).map (· + 1)

/-- `str::contains` of a pattern. -/
def contains (pat s : List Char) : Bool := (find pat s).isSome

/-- `str::rfind(c)`: the position of the last occurrence of `c`. -/
def rfind (c : Char) : List Char → Option Nat
  | [] => none
  | d :: ds =>
    match rfind c ds with
    | some i => some (i + 1)
    | none => if d = c then some 0 else none

/-- `str::split(c)`: the pieces between the occurrences of `c`, empty ones included. -/
def splitOn (c : Char) : List Char → List (List Char)
  | [] => [[]]
  | d :: ds =>
    if d = c then [] :: splitOn c ds
    else match splitOn c ds with
      | piece :: pieces => (d :: piece) :: pieces
      | [] => [[d]]

/-- The loop of `trim_start_matches`, which drops a nonempty pattern at most once per character. -/
def trimStartMatchesAux (pat : List Char) : Nat → List Char → List Char
  | 0, s => s
  | n + 1, s =>
    if !pat.isEmpty && pat.isPrefixOf s then trimStartMatchesAux pat n (s.drop pat.length) else s

/-- `str::trim_start_matches(pat)`: drop `pat` from the front as long as it is there. -/
def trimStartMatches (pat : List Char) (s : List Char) : List Char :=
  trimStartMatchesAux pat s.length s

/-- `str::trim_end_matches(c)`: drop `c` from the back as long as it is there. -/
def trimEndMatches (c : Char) (s : List Char) : List Char :=
  (s.reverse.dropWhile (· = c)).reverse

/-- `str::to_lowercase`, on the ASCII letters (see the module note). -/
def toLowercase (s : List Char) : List Char := s.map Char.toLower

/-- `str::eq_ignore_ascii_case`. -/
def eqIgnoreAsciiCase (a b : List Char) : Bool := toLowercase a == toLowercase b

/-- The value of a string of decimal digits. -/
def digitsValue (s : List Char) : Nat := s.foldl (fun n c => n * 10 + (c.toNat - '0'.toNat)) 0

/-- The unsigned `FromStr`: an optional `+` and one or more decimal digits, with a value at most
`max`. -/
def parseUnsigned (max : Nat) (s : List Char) : Option Nat :=
  let digits := match s with
    | '+' :: rest => rest
    | _ => s
  if !digits.isEmpty && digits.all Char.isDigit && digitsValue digits ≤ max then
    some (digitsValue digits)
  else none

/-- `u16::from_str`. -/
def parseU16 (s : List Char) : Option UInt16 := (parseUnsigned 65535 s).map UInt16.ofNat

/-- `u32::from_str`. -/
def parseU32 (s : List Char) : Option UInt32 := (parseUnsigned 4294967295 s).map UInt32.ofNat

end RustNet.Text
