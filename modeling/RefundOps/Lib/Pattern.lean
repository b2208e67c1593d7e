import Mathlib.Computability.RegularExpressions

/-!
# Patterns over character classes

`re.match` of a pattern that is anchored at both ends. The patterns are Mathlib's regular
expressions, over an alphabet of character *classes*: the patterns in use tell apart the small
letters, `v` among them, the digits, a few signs and the newline, and nothing else, so a string is
matched letter by letter after each character is replaced by its class (`letter`).

Two readings of Python's are kept. `\d` is any decimal digit of Unicode, not only the ten of ASCII,
and `$` is the end of the string or the place before a newline that ends it.
-/

set_option autoImplicit false

namespace RefundOps.Pattern

/-- What the patterns can tell apart. -/
inductive Letter where
  | v
  | lower
  | digit
  | decimal
  | underscore
  | hyphen
  | dot
  | newline
  | other
  deriving DecidableEq, Repr

/-- The zeros of the decimal digits past ASCII, as Unicode 15 has them; the other nine digits of
    each script follow its zero. -/
def decimalZeros : List Nat :=
  [0x660, 0x6f0, 0x7c0, 0x966, 0x9e6, 0xa66, 0xae6, 0xb66, 0xbe6, 0xc66, 0xce6, 0xd66, 0xde6, 0xe50,
   0xed0, 0xf20, 0x1040, 0x1090, 0x17e0, 0x1810, 0x1946, 0x19d0, 0x1a80, 0x1a90, 0x1b50, 0x1bb0,
   0x1c40, 0x1c50, 0xa620, 0xa8d0, 0xa900, 0xa9d0, 0xa9f0, 0xaa50, 0xabf0, 0xff10, 0x104a0, 0x10d30,
   0x11066, 0x110f0, 0x11136, 0x111d0, 0x112f0, 0x11450, 0x114d0, 0x11650, 0x116c0, 0x11730,
   0x118e0, 0x11950, 0x11c50, 0x11d50, 0x11da0, 0x11f50, 0x16a60, 0x16ac0, 0x16b50, 0x1d7ce,
   0x1d7d8, 0x1d7e2, 0x1d7ec, 0x1d7f6, 0x1e140, 0x1e2f0, 0x1e4f0, 0x1e950, 0x1fbf0]

def letter (c : Char) : Letter :=
  if c = 'v' then .v
  else if 'a' ≤ c ∧ c ≤ 'z' then .lower
  else if '0' ≤ c ∧ c ≤ '9' then .digit
  else if c = '_' then .underscore
  else if c = '-' then .hyphen
  else if c = '.' then .dot
  else if c = '\n' then .newline
  else if decimalZeros.any fun z => z ≤ c.toNat ∧ c.toNat ≤ z + 9 then .decimal
  else .other

/-! ## The patterns -/

open RegularExpression (char star)

/-- `[a-z]`. -/
def az : RegularExpression Letter := char .v + char .lower

/-- `[a-z0-9_-]`. -/
def word : RegularExpression Letter := az + char .digit + char .underscore + char .hyphen

/-- `\d`. -/
def decimal : RegularExpression Letter := char .digit + char .decimal

/-- `p+`. -/
def many (p : RegularExpression Letter) : RegularExpression Letter := p * star p

/-- `p{0,n}`. -/
def upTo (p : RegularExpression Letter) : Nat → RegularExpression Letter
  | 0 => 1
  | n + 1 => 1 + p * upTo p n

/-- `re.match(r"^p$", s)`. -/
def isMatch (p : RegularExpression Letter) (s : String) : Bool :=
  (p * (1 + char Letter.newline)).rmatch (s.toList.map letter)

end RefundOps.Pattern
