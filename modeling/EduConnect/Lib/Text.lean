import Mathlib.Algebra.GroupWithZero.Nat
import Mathlib.Algebra.Order.Ring.Rat
import Mathlib.Data.List.DropRight

/-!
# Dart strings and doubles

`trim` and `double.tryParse` as `dart:core` documents them.  A double is a NaN, an infinity, `-0.0`
or a finite value held as a rational; parsing rounds the decimal to the nearest double, ties to even.
-/

namespace Lib

/-! ## Strings -/

/-- The white space removed by `String.trim`. -/
def isBlank (c : Char) : Bool :=
  let n := c.toNat
  (9 ≤ n && n ≤ 13) || n == 32 || n == 0x85 || n == 0xA0 || n == 0x1680 ||
    (0x2000 ≤ n && n ≤ 0x200A) || n == 0x2028 || n == 0x2029 || n == 0x202F || n == 0x205F ||
    n == 0x3000 || n == 0xFEFF

def trimChars (l : List Char) : List Char :=
  ((l.dropWhile isBlank).reverse.dropWhile isBlank).reverse

/-- `s.trim()`. -/
def trim (s : String) : String := String.ofList (trimChars s.toList)

/-- A trimmed text has nothing to trim. -/
theorem trimChars_trimChars (l : List Char) : trimChars (trimChars l) = trimChars l := by
  have htrim (m : List Char) :
      trimChars m = (m.dropWhile fun c => isBlank c).rdropWhile fun c => isBlank c := rfl
  have hhead : (trimChars l).dropWhile isBlank = trimChars l := by
    rw [List.dropWhile_eq_self_iff]
    intro hl
    have hdebut : trimChars l <+: l.dropWhile isBlank := List.rdropWhile_prefix isBlank _
    rw [hdebut.getElem hl]
    exact List.dropWhile_get_zero_not isBlank l (hl.trans_le hdebut.length_le)
  rw [htrim (trimChars l), hhead, htrim, List.rdropWhile_idempotent]

theorem trim_trim (s : String) : trim (trim s) = trim s := by
  rw [trim, trim, String.toList_ofList, trimChars_trimChars]

/-- The characters of a text that another is appended to. -/
theorem char_append {s : String} {n : ℕ} {c : Char} (h : s.toList[n]? = some c) (t : String) :
    (s ++ t).toList[n]? = some c := by
  rw [String.toList_append, List.getElem?_append_left (List.getElem?_eq_some_iff.mp h).1, h]

/-- The length of a text in UTF-16 code units. -/
def utf16Length (s : String) : ℕ :=
  (s.toList.map fun c => if c.toNat < 0x10000 then 1 else 2).sum

/-- `s.replaceAll(a, b)` for one-character `a` and `b`. -/
def replaceChar (a b : Char) (s : String) : String :=
  String.ofList (s.toList.map fun c => if c = a then b else c)

/-! ## Doubles -/

/-- `finite 0` is `0.0`. -/
inductive Double where
  | nan
  | infinity (neg : Bool)
  | negZero
  | finite (q : ℚ)
  deriving DecidableEq

namespace Double

/-- The number a double stands for; both zeros stand for 0. -/
def value : Double → Option ℚ
  | negZero => some 0
  | finite q => some q
  | _ => none

/-- `x < y`; every comparison with NaN is false. -/
def lt : Double → Double → Bool
  | nan, _ => false
  | _, nan => false
  | infinity n, infinity m => n && !m
  | infinity n, _ => n
  | _, infinity m => !m
  | negZero, negZero => false
  | negZero, finite b => decide (0 < b)
  | finite a, negZero => decide (a < 0)
  | finite a, finite b => decide (a < b)

/-- `x >= y`; every comparison with NaN is false. -/
def ge : Double → Double → Bool
  | nan, _ => false
  | _, nan => false
  | infinity n, infinity m => !n || m
  | infinity n, _ => !n
  | _, infinity m => m
  | negZero, negZero => true
  | negZero, finite b => decide (b ≤ 0)
  | finite a, negZero => decide (0 ≤ a)
  | finite a, finite b => decide (b ≤ a)

def neg : Double → Double
  | nan => nan
  | infinity n => infinity !n
  | negZero => finite 0
  | finite q => if q = 0 then negZero else finite (-q)

/-- Round `n / d` to an integer, ties to even. -/
def roundHalfEven (n d : ℕ) : ℕ :=
  let q := n / d
  let r := n % d
  if 2 * r < d then q else if d < 2 * r then q + 1 else if q % 2 = 0 then q else q + 1

/-- The double nearest to `n / d`, for `0 < d`. -/
def ofRatio (n d : ℕ) : Double :=
  if n = 0 then finite 0 else
  let k : ℤ := (Nat.log2 n : ℤ) - Nat.log2 d
  -- the exponent of `n / d` is `k` or `k - 1`
  let k' : ℤ := if d * 2 ^ k.toNat ≤ n * 2 ^ (-k).toNat then k else k - 1
  let e : ℤ := max (k' - 52) (-1074)
  let m := roundHalfEven (n * 2 ^ (-e).toNat) (d * 2 ^ e.toNat)
  if 2 ^ 1024 ≤ m * 2 ^ e.toNat / 2 ^ (-e).toNat then infinity false
  else finite (mkRat (m * 2 ^ e.toNat) (2 ^ (-e).toNat))

def digitsValue (l : List Char) : ℕ := l.foldl (fun n c => 10 * n + (c.toNat - 48)) 0

/-- An optional sign, then one or more digits. -/
def parseExponent : List Char → Option ℤ
  | '+' :: l => if l ≠ [] ∧ l.all Char.isDigit then some (digitsValue l) else none
  | '-' :: l => if l ≠ [] ∧ l.all Char.isDigit then some (-digitsValue l) else none
  | l => if l ≠ [] ∧ l.all Char.isDigit then some (digitsValue l) else none

/-- `m · 10^x`. -/
def ofDecimal (m : ℕ) (x : ℤ) : Double := ofRatio (m * 10 ^ x.toNat) (10 ^ (-x).toNat)

/-- A mantissa, with or without a decimal point, and an optional exponent. -/
def parseLiteral (l : List Char) : Option Double :=
  let ip := l.takeWhile Char.isDigit
  let rest := l.dropWhile Char.isDigit
  let (fp, rest) := match rest with
    | '.' :: r => (r.takeWhile Char.isDigit, r.dropWhile Char.isDigit)
    | r => ([], r)
  if ip = [] ∧ fp = [] then none else
  let m := digitsValue (ip ++ fp)
  match rest with
  | [] => some (ofDecimal m (-fp.length))
  | 'e' :: r => (parseExponent r).map fun x => ofDecimal m (x - fp.length)
  | 'E' :: r => (parseExponent r).map fun x => ofDecimal m (x - fp.length)
  | _ => none

def parseUnsigned (l : List Char) : Option Double :=
  if l = "NaN".toList then some nan
  else if l = "Infinity".toList then some (infinity false)
  else parseLiteral l

/-- `double.tryParse(s)`. -/
def tryParse (s : String) : Option Double :=
  match trimChars s.toList with
  | '+' :: l => parseUnsigned l
  | '-' :: l => (parseUnsigned l).map neg
  | l => parseUnsigned l

/-- Parsing ignores the surrounding blanks. -/
theorem tryParse_trim (s : String) : tryParse (trim s) = tryParse s := by
  rw [tryParse, tryParse, trim, String.toList_ofList, trimChars_trimChars]

/-! ### Display -/

/-- The shortest digits of `n / d`, for `0 < n` and `0 < d`, that parse back to the same double, and
the power of ten they stand above: `(m, x)` for `m · 10^x`. -/
def shortest (n d : ℕ) : ℕ × ℤ :=
  let k : ℤ := ((Nat.toDigits 10 n).length : ℤ) - (Nat.toDigits 10 d).length
  let x : ℤ := if d * 10 ^ k.toNat ≤ n * 10 ^ (-k).toNat then k else k - 1
  let candidate (len : ℕ) : ℕ × ℤ :=
    let e : ℤ := x - len
    (roundHalfEven (n * 10 ^ (-e).toNat) (d * 10 ^ e.toNat), e)
  let exact (c : ℕ × ℤ) : Bool := ofDecimal c.1 c.2 = finite (mkRat n d)
  (((List.range 17).map candidate).find? exact).getD (candidate 17)

/-- The digits `m`, without the zeros at their end, standing for `m · 10^x`. -/
def showDigits (m : ℕ) (x : ℤ) : String :=
  let all := Nat.toDigits 10 m
  let digits := (all.reverse.dropWhile (· = '0')).reverse
  let point : ℤ := all.length + x
  if -6 < point ∧ point ≤ 0 then
    String.ofList ("0.".toList ++ List.replicate (-point).toNat '0' ++ digits)
  else if 0 < point ∧ point ≤ 21 then
    let whole := digits.take point.toNat
    let part := digits.drop point.toNat
    String.ofList (whole ++ List.replicate (point.toNat - whole.length) '0' ++ ['.'] ++
      (if part = [] then ['0'] else part))
  else
    let e := point - 1
    String.ofList (digits.take 1 ++ (if digits.length ≤ 1 then [] else '.' :: digits.drop 1)) ++
      (if e < 0 then "e-" else "e+") ++ toString e.natAbs

/-- `x.toString()`. -/
def toText : Double → String
  | nan => "NaN"
  | infinity n => if n then "-Infinity" else "Infinity"
  | negZero => "-0.0"
  | finite q =>
    if q = 0 then "0.0"
    else
      let (m, x) := shortest q.num.natAbs q.den
      (if q < 0 then "-" else "") ++ showDigits m x

example : tryParse " 12.5" = some (finite (25 / 2)) := by decide +kernel

example : tryParse "-1e-400" = some negZero := by decide +kernel

example : toText (finite (25 / 2)) = "12.5" := by decide +kernel

end Double

end Lib
