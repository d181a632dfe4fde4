-- JSON-like JavaScript values, as the bot's walks over tool inputs and log metadata see
-- them, and `Number(text)` of a trimmed string, which the approval presenter reads numbers
-- given as strings with.
import TonAgentBot.Js.Text
import Mathlib.Algebra.Order.Ring.Rat

namespace ton_agent_bot.js

/-! ## Values -/

/-- A JSON-like value. An object lists its entries in `Object.entries` order, and its keys
are distinct, as those of a JavaScript object are. A number is finite, as JSON's are, and
held exactly: the rounding of a value to a double is not modelled. -/
inductive JsValue
  | null
  | bool (b : Bool)
  | num (n : ℚ)
  | str (s : List UInt16)
  | arr (items : List JsValue)
  | obj (entries : List (List UInt16 × JsValue))

/-- `value[key]` of a value, `none` for `undefined`: an object's own property; an array or
a scalar has no property the bot reads. -/
def JsValue.get? : JsValue → List UInt16 → Option JsValue
  | .obj entries, key => entries.lookup key
  | _, _ => none

/-! ## `Number(text)` -/

/-- The magnitude from which a literal rounds to an infinite double: `2^1024 - 2^970`,
halfway between `Number.MAX_VALUE` and `2^1024`. -/
def FINITE_LIMIT : ℚ := ((1 <<< 1024) - (1 <<< 970) : Nat)

def digitVal? (radix : Nat) (u : UInt16) : Option Nat :=
  let n := u.toNat
  let d := if 48 ≤ n ∧ n ≤ 57 then n - 48 else if 97 ≤ n ∧ n ≤ 102 then n - 87
    else if 65 ≤ n ∧ n ≤ 70 then n - 55 else 16
  if d < radix then some d else none

def isDecimalDigit (u : UInt16) : Bool := 48 ≤ u.toNat ∧ u.toNat ≤ 57

/-- The value of a run of digits of base `radix`, `acc` being that of the digits before;
`none` when a unit is not a digit. -/
def digitsValue (radix : Nat) : List UInt16 → Nat → Option Nat
  | [], acc => some acc
  | u :: us, acc => (digitVal? radix u).bind fun d => digitsValue radix us (radix * acc + d)

def exponentValue : List UInt16 → Option Int
  | 43 :: ds => if ds = [] then none else (digitsValue 10 ds 0).map Int.ofNat
  | 45 :: ds => if ds = [] then none else (digitsValue 10 ds 0).map fun n => -Int.ofNat n
  | ds => if ds = [] then none else (digitsValue 10 ds 0).map Int.ofNat

/-- `m · 10^e` as a double would hold it, `none` past the finite range. An exponent far
below the digits rounds to zero, as a double does, and one far above overflows, so no
huge power is built. -/
def scaledValue (m : Nat) (digits : Nat) (e : Int) : Option ℚ :=
  if m = 0 then some 0
  else if 400 < e then none
  else if e < -(digits + 400 : Int) then some 0
  else
    let q : ℚ := if 0 ≤ e then (m * 10 ^ e.toNat : Nat) else mkRat m (10 ^ (-e).toNat)
    if q < FINITE_LIMIT then some q else none

/-- A `StrUnsignedDecimalLiteral` other than `Infinity`: digits with at most one point and
at least one digit, then an optional exponent. -/
def unsignedDecimal (s : List UInt16) : Option ℚ :=
  let (intDigits, r1) := s.span isDecimalDigit
  let (fracDigits, r2) := match r1 with
    | 46 :: r => r.span isDecimalDigit
    | _ => ([], r1)
  let exponent := match r2 with
    | [] => some 0
    | e :: r => if e = 101 ∨ e = 69 then exponentValue r else none
  if intDigits = [] ∧ fracDigits = [] then none
  else
    (digitsValue 10 (intDigits ++ fracDigits) 0).bind fun m =>
      exponent.bind fun e =>
        scaledValue m (intDigits.length + fracDigits.length) (e - fracDigits.length)

/-- `Number(text)` of a text with no whitespace at its ends, `none` when the result is
`NaN` or infinite: a signed decimal literal, or an unsigned `0x`, `0o` or `0b` integer;
`Infinity` and every other text are not finite numbers. -/
def stringToNumber : List UInt16 → Option ℚ
  | [] => some 0
  | 48 :: x :: ds =>
    let radix := if x = 120 ∨ x = 88 then 16 else if x = 111 ∨ x = 79 then 8
      else if x = 98 ∨ x = 66 then 2 else 10
    if radix = 10 then unsignedDecimal (48 :: x :: ds)
    else if ds = [] then none
    else (digitsValue radix ds 0).bind fun n =>
      if (n : ℚ) < FINITE_LIMIT then some (n : ℚ) else none
  | 43 :: r => unsignedDecimal r
  | 45 :: r => (unsignedDecimal r).map Neg.neg
  | s => unsignedDecimal s

example : stringToNumber (utf16 "2.5") = some (mkRat 5 2) := by decide
example : stringToNumber (utf16 "-1e3") = some (-1000) := by decide
example : stringToNumber (utf16 "0x1F") = some 31 := by decide
example : stringToNumber (utf16 "Infinity") = none := by decide
example : stringToNumber (utf16 "1e999") = none := by decide

end ton_agent_bot.js
