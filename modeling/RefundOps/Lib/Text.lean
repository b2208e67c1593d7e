import Mathlib.Data.Rat.Defs
import Mathlib.Algebra.Order.Round
import Mathlib.Data.Rat.Floor
import Mathlib.Data.List.TakeWhile
import Mathlib.Tactic.Linarith
import Mathlib.Tactic.Positivity

/-!
# Strings and decimals as Python has them

`str.lower`, `in`, `str.strip`, the number formats of f-strings and `round`, over Lean's
`String` and exact rationals.

`lower` maps the ASCII capitals and the two characters outside ASCII whose lower case begins
with an ASCII letter (`K` to `k`, `İ` to `i` followed by a combining dot); every other character
stands for itself. Python maps the remaining capitals to other non-ASCII characters, one to one,
which no comparison with, or search for, an ASCII word can tell from the identity, and which
leaves the length alone. Those three are the only uses a lowered string may be put to.
-/

set_option autoImplicit false

namespace RefundOps.Text

def lowerChar (c : Char) : List Char :=
  if 'A' ≤ c ∧ c ≤ 'Z' then [Char.ofNat (c.toNat + 32)]
  else if c.toNat = 0x212A then ['k']
  else if c.toNat = 0x130 then ['i', Char.ofNat 0x307]
  else [c]

/-- `s.lower()`. -/
def lower (s : String) : String := String.ofList (s.toList.flatMap lowerChar)

def isInfix (needle : List Char) : List Char → Bool
  | [] => needle.isEmpty
  | c :: cs => needle.isPrefixOf (c :: cs) || isInfix needle cs

/-- `needle in s`. -/
def contains (needle s : String) : Bool := isInfix needle.toList s.toList

/-- Searching a lowered text, letter by letter. A literal is its letters by `rfl`, which is far
    cheaper to check than decoding it. -/
theorem contains_lower {needle s : String} {n l : List Char} (hn : needle = String.ofList n)
    (hs : s = String.ofList l) : contains needle (lower s) = isInfix n (l.flatMap lowerChar) := by
  unfold contains lower
  rw [String.toList_ofList, hn, hs, String.toList_ofList, String.toList_ofList]

theorem isInfix_iff {needle l : List Char} : isInfix needle l = true ↔ needle <:+: l := by
  induction l with
  | nil =>
    unfold isInfix
    rw [List.isEmpty_iff, List.infix_nil]
  | cons c cs ih =>
    unfold isInfix
    rw [Bool.or_eq_true, List.isPrefixOf_iff_prefix, ih, List.infix_cons_iff]

theorem prefix_of_separated {needle xs ys : List Char} {c : Char} (hc : c ∉ needle)
    (h : needle <+: xs ++ c :: ys) : needle <+: xs := by
  induction xs generalizing needle with
  | nil =>
    cases needle with
    | nil => exact List.nil_prefix
    | cons a needle =>
      have hac := (List.cons_prefix_cons.mp h).1
      exact absurd (hac ▸ List.mem_cons_self) hc
  | cons x xs ih =>
    cases needle with
    | nil => exact List.nil_prefix
    | cons a needle =>
      obtain ⟨rfl, hrest⟩ := List.cons_prefix_cons.mp h
      exact List.cons_prefix_cons.mpr ⟨rfl, ih (fun hm => hc (List.mem_cons_of_mem _ hm)) hrest⟩

/-- **A word does not reach across a character that is not in it.** -/
theorem infix_separated {needle xs ys : List Char} {c : Char} (hc : c ∉ needle) :
    needle <:+: xs ++ c :: ys ↔ needle <:+: xs ∨ needle <:+: ys := by
  constructor
  · intro h
    induction xs with
    | nil =>
      rcases List.infix_cons_iff.mp h with hp | hi
      · exact .inl (@prefix_of_separated needle [] ys c hc hp).isInfix
      · exact .inr hi
    | cons x xs ih =>
      rcases List.infix_cons_iff.mp h with hp | hi
      · exact .inl (@prefix_of_separated needle (x :: xs) ys c hc hp).isInfix
      · exact (ih hi).imp_left List.infix_cons
  · rintro (h | h)
    · exact h.trans (List.prefix_append xs _).isInfix
    · exact h.trans ((List.suffix_cons c ys).trans (List.suffix_append xs _)).isInfix

/-- `c.isspace()`. -/
def isSpace (c : Char) : Bool :=
  let n := c.toNat
  (9 ≤ n && n ≤ 13) || (28 ≤ n && n ≤ 32) || n == 0x85 || n == 0xA0 || n == 0x1680 ||
    (0x2000 ≤ n && n ≤ 0x200A) || n == 0x2028 || n == 0x2029 || n == 0x202F || n == 0x205F ||
    n == 0x3000

/-- `s.strip()`. -/
def strip (s : String) : String :=
  String.ofList ((s.toList.dropWhile isSpace).reverse.dropWhile isSpace).reverse

/-- A string that neither begins nor ends with a space. -/
theorem strip_eq_self {s : String} {a b : Char} {l : List Char} (hs : s.toList = a :: (l ++ [b]))
    (ha : isSpace a = false) (hb : isSpace b = false) : strip s = s := by
  have hfront : s.toList.dropWhile isSpace = s.toList := by
    rw [hs, List.dropWhile_cons_of_neg (by rw [ha]; exact Bool.false_ne_true)]
  have hback : s.toList.reverse.dropWhile isSpace = s.toList.reverse := by
    rw [hs, ← List.cons_append, List.reverse_append, List.reverse_singleton, List.singleton_append,
      List.dropWhile_cons_of_neg (by rw [hb]; exact Bool.false_ne_true)]
  unfold strip
  rw [hfront, hback, List.reverse_reverse, String.ofList_toList]

/-- A string with a character that is no space does not strip to nothing. -/
theorem strip_ne_empty {s : String} {l : List Char} (hs : s = String.ofList l)
    (h : l.any (fun c => !isSpace c) = true) : strip s ≠ "" := by
  intro hempty
  obtain ⟨c, hc, hns⟩ := List.any_eq_true.mp h
  have hnil : ((l.dropWhile isSpace).reverse.dropWhile isSpace).reverse = [] := by
    have := congrArg String.toList hempty
    rwa [strip, String.toList_ofList, hs, String.toList_ofList] at this
  rw [List.reverse_eq_nil_iff, List.dropWhile_eq_nil_iff] at hnil
  have hall : ∀ x ∈ l.dropWhile isSpace, isSpace x = true := fun x hx =>
    hnil x (List.mem_reverse.mpr hx)
  have hsplit := List.takeWhile_append_dropWhile (p := isSpace) (l := l)
  rw [← hsplit, List.mem_append] at hc
  have hsp : isSpace c = true := by
    rcases hc with hc | hc
    · exact List.mem_takeWhile_imp hc
    · exact hall c hc
  rw [hsp] at hns
  exact absurd hns (by simp)

/-- `sep.join(parts)`. -/
def join (sep : String) (parts : List String) : String := sep.intercalate parts

def hexByte (n : Nat) : List Char := [Nat.digitChar (n / 16), Nat.digitChar (n % 16)]

def backslash : Char := Char.ofNat 92
def singleQuote : Char := Char.ofNat 39
def doubleQuote : Char := Char.ofNat 34

/-- One character of `repr(s)` between the quotes `quote`. The characters past Latin-1 that
    Python escapes because they cannot be printed stand for themselves. -/
def reprChar (quote c : Char) : List Char :=
  if c = backslash ∨ c = quote then [backslash, c]
  else if c.toNat = 10 then [backslash, 'n']
  else if c.toNat = 13 then [backslash, 'r']
  else if c.toNat = 9 then [backslash, 't']
  else if c.toNat < 0x20 ∨ (0x7F ≤ c.toNat ∧ c.toNat ≤ 0xA0) ∨ c.toNat = 0xAD then
    backslash :: 'x' :: hexByte c.toNat
  else [c]

/-- `repr(s)`, in double quotes only if that saves escaping. -/
def repr (s : String) : String :=
  let quote :=
    if singleQuote ∈ s.toList ∧ doubleQuote ∉ s.toList then doubleQuote else singleQuote
  String.ofList (quote :: s.toList.flatMap (reprChar quote) ++ [quote])

/-! ## Numbers -/

/-- Round half to even. -/
def roundHalfEven (x : ℚ) : ℤ :=
  let lo := ⌊x⌋
  if x - lo < 1 / 2 then lo
  else if x - lo > 1 / 2 then lo + 1
  else if lo % 2 = 0 then lo else lo + 1

/-- `round(x, n)`. -/
def roundTo (n : Nat) (x : ℚ) : ℚ := roundHalfEven (x * 10 ^ n) / 10 ^ n

theorem roundHalfEven_nonneg {x : ℚ} (h : 0 ≤ x) : 0 ≤ roundHalfEven x := by
  have hfloor : 0 ≤ ⌊x⌋ := Int.floor_nonneg.mpr h
  unfold roundHalfEven
  dsimp only
  split
  · exact hfloor
  · split
    · omega
    · split <;> omega

/-- The tie at one half goes to zero, which is even. -/
theorem roundHalfEven_pos_iff {x : ℚ} : 0 < roundHalfEven x ↔ 1 / 2 < x := by
  have hlo := Int.floor_le x
  have hhi := Int.lt_floor_add_one x
  constructor
  · intro hpos
    by_contra hle
    have hfloor : ⌊x⌋ < 1 := Int.floor_lt.mpr (by push_cast; linarith)
    unfold roundHalfEven at hpos
    dsimp only at hpos
    split at hpos
    · omega
    · -- the floor is zero, or the sum is not positive
      have hzero : ⌊x⌋ = 0 := by
        split at hpos
        · omega
        · split at hpos <;> omega
      rw [hzero] at hpos
      norm_num at hpos
      rw [if_neg (by simpa using hle)] at hpos
      exact absurd hpos (lt_irrefl 0)
  · intro h
    have hfloor : 0 ≤ ⌊x⌋ := Int.floor_nonneg.mpr (by linarith)
    by_contra hneg
    unfold roundHalfEven at hneg
    dsimp only at hneg
    split at hneg
    · rename_i hfrac
      have hzero : ⌊x⌋ = 0 := by omega
      rw [hzero] at hfrac
      norm_num at hfrac
      linarith
    · split at hneg
      · omega
      · rename_i hfrac hfrac'
        have hzero : ⌊x⌋ = 0 := by split at hneg <;> omega
        rw [hzero] at hfrac'
        norm_num at hfrac'
        linarith

theorem roundTo_nonneg {n : Nat} {x : ℚ} (h : 0 ≤ x) : 0 ≤ roundTo n x := by
  have hround : 0 ≤ roundHalfEven (x * 10 ^ n) := roundHalfEven_nonneg (by positivity)
  unfold roundTo
  positivity

theorem roundTo_pos_iff {n : Nat} {x : ℚ} : 0 < roundTo n x ↔ 1 / 2 < x * 10 ^ n := by
  unfold roundTo
  rw [div_pos_iff_of_pos_right (by positivity), Int.cast_pos, roundHalfEven_pos_iff]

def padLeft (width : Nat) (s : String) : String :=
  String.ofList (List.replicate (width - s.length) '0') ++ s

/-- `f"{x:.nf}"`. -/
def fixed (n : Nat) (x : ℚ) : String :=
  let m := roundHalfEven (x * 10 ^ n)
  let body := toString (m.natAbs / 10 ^ n) ++
    (if n = 0 then "" else "." ++ padLeft n (toString (m.natAbs % 10 ^ n)))
  if m < 0 then "-" ++ body else body

/-- The decimal digits after the point, without trailing zeros; a float is read as the decimal
    it is written as. -/
def fracDigits : Nat → ℚ → List Char
  | 0, _ => []
  | fuel + 1, x =>
      if x = 0 then []
      else
        let d := ⌊x * 10⌋
        (toString d).toList ++ fracDigits fuel (x * 10 - d)

/-- `str(x)` of a float that is written without an exponent. -/
def floatStr (x : ℚ) : String :=
  let a := |x|
  let frac := fracDigits 17 (a - ⌊a⌋)
  (if x < 0 then "-" else "") ++ toString ⌊a⌋ ++ "." ++
    (if frac.isEmpty then "0" else String.ofList frac)

/-- `str(b)` of a bool. -/
def boolStr (b : Bool) : String := if b then "True" else "False"

end RefundOps.Text
