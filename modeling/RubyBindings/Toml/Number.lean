/-
Module: RubyBindings.Toml.Number
Purpose: Numbers as TOML writes them. Underscores stand only between digits; a decimal number has
  no leading zero; the other bases have no sign; a float has a fraction or an exponent. A literal
  may be taken for a number and yet write none that can be read.
Main exports: isInteger, integer?, isFloat, floatOverflows
-/

namespace RubyBindings.Toml

/-- A run of digits with single underscores between them. -/
def isDigitRun (isDigit : Char → Bool) : List Char → Bool
  | [] => false
  | [digit] => isDigit digit
  | digit :: '_' :: rest => isDigit digit && isDigitRun isDigit rest
  | digit :: rest => isDigit digit && isDigitRun isDigit rest

/-- The value of one digit in a base up to sixteen. -/
def digitValue (digit : Char) : Nat :=
  if digit.isDigit then digit.toNat - '0'.toNat else digit.toLower.toNat - 'a'.toNat + 10

/-- The number that a run of digits writes. -/
def digitRunValue (base : Nat) (digits : List Char) : Nat :=
  (digits.filter (· != '_')).foldl (fun value digit => value * base + digitValue digit) 0

/-- An unsigned decimal number without a leading zero. -/
def isDecimal : List Char → Bool
  | ['0'] => true
  | '0' :: _ => false
  | digits => isDigitRun Char.isDigit digits

/-- A text without its sign. -/
def withoutSign : List Char → List Char
  | '+' :: rest => rest
  | '-' :: rest => rest
  | literal => literal

/-- The number that a run of decimal digits writes with the sign in front of it. -/
def signedValue (literal : List Char) : Int :=
  let magnitude : Int := digitRunValue 10 (withoutSign literal)
  if literal.head? = some '-' then -magnitude else magnitude

/-- A hexadecimal digit. -/
def isHexDigit (character : Char) : Bool :=
  character.isDigit || ('a' ≤ character && character ≤ 'f') ||
    ('A' ≤ character && character ≤ 'F')

/-- An octal digit. -/
def isOctalDigit (character : Char) : Bool :=
  '0' ≤ character && character ≤ '7'

/-- A binary digit. -/
def isBinaryDigit (character : Char) : Bool :=
  character == '0' || character == '1'

/-- A number in one of the bases that are marked in front. -/
def basedValue? (isDigit : Char → Bool) (base : Nat) (digits : List Char) : Option Int :=
  if isDigitRun isDigit digits then some (digitRunValue base digits) else none

/-- The integer that a literal writes, of any size. -/
def unboundedInteger? : List Char → Option Int
  | '0' :: 'x' :: digits => basedValue? isHexDigit 16 digits
  | '0' :: 'o' :: digits => basedValue? isOctalDigit 8 digits
  | '0' :: 'b' :: digits => basedValue? isBinaryDigit 2 digits
  | literal => if isDecimal (withoutSign literal) then some (signedValue literal) else none

/-- The integer that a literal writes, if it fits into 128 bits, with or without a sign. -/
def integer? (literal : List Char) : Option Int :=
  (unboundedInteger? literal).filter fun value =>
    decide (-Int.pow 2 127 ≤ value) && decide (value < Int.pow 2 128)

/-- Does every underscore after the first character stand between two digits of some base? -/
def underscoresFit : List Char → Bool
  | [] => true
  | before :: '_' :: rest => isHexDigit before && rest.head?.any isHexDigit && underscoresFit rest
  | _ :: rest => underscoresFit rest

/-- Is a literal without its sign a run of decimal digits that an underscore follows, with
underscores that fit? Nothing else is asked of what follows the first underscore, save that there
is no space and nothing that makes a float. -/
def isGrouped (unsigned : List Char) : Bool :=
  let rest := unsigned.dropWhile Char.isDigit
  unsigned.head?.any (fun digit => digit.isDigit && digit != '0') && rest.head? == some '_' &&
    !rest.any ([' ', '.', 'e', 'E'].contains ·) &&
    underscoresFit unsigned

/-- Is a literal taken for an integer? It need not write one: the digits of a base may be missing,
and a grouped literal may hold other characters than digits. -/
def isInteger : List Char → Bool
  | '0' :: 'x' :: digits => digits.isEmpty || isDigitRun isHexDigit digits
  | '0' :: 'o' :: digits => digits.isEmpty || isDigitRun isOctalDigit digits
  | '0' :: 'b' :: digits => digits.isEmpty || isDigitRun isBinaryDigit digits
  | literal => isDecimal (withoutSign literal) || isGrouped (withoutSign literal)

/-- The characters before and after the first one that a test accepts, if there is one. -/
def splitAtFirst (isMark : Char → Bool) (literal : List Char) : List Char × Option (List Char) :=
  match literal.dropWhile (! isMark ·) with
  | [] => (literal, none)
  | _ :: rest => (literal.takeWhile (! isMark ·), some rest)

/-- The parts of a float without its sign. -/
structure FloatParts where
  whole : List Char
  fraction? : Option (List Char)
  exponent? : Option (List Char)

/-- Take a float without its sign apart: the exponent follows the first letter `e`, and the
fraction the first point before it. -/
def FloatParts.ofUnsigned (unsigned : List Char) : FloatParts :=
  let (mantissa, exponent?) := splitAtFirst (fun mark => mark == 'e' || mark == 'E') unsigned
  let (whole, fraction?) := splitAtFirst (· == '.') mantissa
  { whole, fraction?, exponent? }

/-- Are all parts written as they have to be? -/
def FloatParts.areProper (parts : FloatParts) : Bool :=
  isDecimal parts.whole && parts.fraction?.all (isDigitRun Char.isDigit) &&
    parts.exponent?.all (fun exponent => isDigitRun Char.isDigit (withoutSign exponent)) &&
    (parts.fraction?.isSome || parts.exponent?.isSome)

/-- Is a float without its sign one of the words for infinity and for what is no number? -/
def isFloatWord (unsigned : List Char) : Bool :=
  unsigned = ['i', 'n', 'f'] || unsigned = ['n', 'a', 'n']

/-- Is a literal a float? -/
def isFloat (literal : List Char) : Bool :=
  let unsigned := withoutSign literal
  isFloatWord unsigned || (FloatParts.ofUnsigned unsigned).areProper

/-- The least number whose nearest double is infinite: halfway between the greatest double and
`2 ^ 1024`, as a tie goes to the latter. It has 309 digits. -/
def leastInfinite : Nat := (Nat.pow 2 54 - 1) * Nat.pow 2 970

/-- Is `mantissa * 10 ^ exponent` no less than a limit? -/
def isScaledAtLeast (limit mantissa : Nat) : Int → Bool
  | .ofNat power => decide (limit ≤ mantissa * Nat.pow 10 power)
  | .negSucc power => decide (limit * Nat.pow 10 (power + 1) ≤ mantissa)

/-- Is the double nearest to a number infinite? The number of its digits before the point decides,
unless `leastInfinite` has as many. So no power is taken that the digits do not balance. -/
def FloatParts.overflow (parts : FloatParts) : Bool :=
  let fraction := parts.fraction?.getD [] |>.filter (· != '_')
  let digits := (parts.whole.filter (· != '_') ++ fraction).dropWhile (· == '0')
  let exponent := parts.exponent?.elim 0 signedValue - fraction.length
  let size := exponent + digits.length
  if digits.isEmpty || decide (size < 309) then false
  else decide (309 < size) || isScaledAtLeast leastInfinite (digitRunValue 10 digits) exponent

/-- Does a float write a number whose nearest double is infinite? Infinity itself does not. -/
def floatOverflows (literal : List Char) : Bool :=
  let unsigned := withoutSign literal
  !isFloatWord unsigned && (FloatParts.ofUnsigned unsigned).overflow

end RubyBindings.Toml
