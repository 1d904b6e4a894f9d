import LocaleRelay.Decimal.Binary64
import LocaleRelay.Text.Line
import LocaleRelay.Yaml.Event

/-!
# What a plain scalar means

A plain scalar may stand for nothing, for a truth value or for a number; any other is a text. Whole
numbers may be written with a sign and in four bases, other numbers with a point or an exponent, and
a number that begins with a superfluous zero is a text.
-/

namespace LocaleRelay.Yaml

/-- A number that is not whole: none at all, one larger than every number on one of the two sides,
or a finite one with its sign. -/
inductive Real where
  | undefined
  | infinite (negative : Bool)
  | finite (negative : Bool) (magnitude : Decimal.Binary64)
  deriving Repr, DecidableEq

/-- A number in digits. -/
def Real.text : Real → String
  | undefined => "NaN"
  | infinite negative => if negative then "-inf" else "inf"
  | finite negative magnitude =>
    (if negative then "-" else "") ++
      if magnitude.significand = 0 then "0.0"
      else String.ofList magnitude.shortest.positional

/-- What a plain scalar stands for. -/
inductive Meaning where
  | nothing
  | boolean (value : Bool)
  | integer (value : Int)
  | real (value : Real)
  | text
  deriving Repr, DecidableEq

/-- Whether a text is a spelling of nothing. -/
def isNothing (text : String) : Bool := ["null", "Null", "NULL", "~"].contains text

/-- The truth value that a text spells. -/
def boolean? (text : String) : Option Bool :=
  if ["true", "True", "TRUE"].contains text then some true
  else if ["false", "False", "FALSE"].contains text then some false
  else none

/-- The value of a digit in a base. -/
def digitIn? (base : Nat) (c : Char) : Option Nat := (hexDigit? c).filter (· < base)

/-- The number that digits write in a base, after what was read before them. -/
def digitsFrom (base value : Nat) : List Char → Option Nat
  | [] => some value
  | c :: rest => (digitIn? base c).bind fun digit => digitsFrom base (value * base + digit) rest

/-- The number that one digit or more write in a base. -/
def digits? (base : Nat) (chars : List Char) : Option Nat :=
  if chars.isEmpty then none else digitsFrom base 0 chars

/-- Whether digits begin with a zero that says nothing. -/
def hasIdleZero : List Char → Bool
  | '0' :: c :: rest => (c :: rest).all Char.isDigit
  | _ => false

/-- The number without a sign that characters write, in the base that they name. -/
def natural? : List Char → Option Nat
  | '0' :: 'x' :: rest => digits? 16 rest
  | '0' :: 'o' :: rest => digits? 8 rest
  | '0' :: 'b' :: rest => digits? 2 rest
  | chars => if hasIdleZero chars then none else digits? 10 chars

/-- The least whole number that is read as one. -/
def leastInteger : Int := -Int.pow 2 127

/-- The whole numbers that are read as ones are below this. -/
def integerLimit : Int := Int.pow 2 128

/-- The whole number that characters write. -/
def integer? (chars : List Char) : Option Int :=
  let value :=
    match chars with
    | '+' :: rest => (natural? rest).map Int.ofNat
    | '-' :: rest => (natural? rest).map fun n => -Int.ofNat n
    | _ => (natural? chars).map Int.ofNat
  value.filter fun n => leastInteger ≤ n ∧ n < integerLimit

/-- The exponent at the end of a number, if there is one. -/
def exponent? : List Char → Option Int
  | [] => some 0
  | c :: rest =>
    if c = 'e' ∨ c = 'E' then
      match rest with
      | '+' :: digits => (digits? 10 digits).map Int.ofNat
      | '-' :: digits => (digits? 10 digits).map fun n => -Int.ofNat n
      | digits => (digits? 10 digits).map Int.ofNat
    else none

/-- The digits and the exponent of a number without a sign. -/
def decimal? (chars : List Char) : Option (Nat × Int) := do
  let whole := chars.takeWhile Char.isDigit
  let rest := chars.dropWhile Char.isDigit
  let (fraction, rest) :=
    match rest with
    | '.' :: after => (after.takeWhile Char.isDigit, after.dropWhile Char.isDigit)
    | _ => ([], rest)
  let count ← digits? 10 (whole ++ fraction)
  let exponent ← exponent? rest
  return (count, exponent - fraction.length)

/-- The number that characters write after their sign; one that is too large for a double is
none. -/
def magnitude? (chars : List Char) : Option Decimal.Binary64 := do
  let (count, exponent) ← decimal? chars
  Decimal.ofDecimal? count exponent

/-- The number that characters write, perhaps with a minus sign. -/
def signed? : List Char → Option Real
  | '-' :: rest => (magnitude? rest).map (.finite true)
  | chars => (magnitude? chars).map (.finite false)

/-- The number that is not whole which a text writes. -/
def real? (text : String) : Option Real :=
  let bare :=
    match text.toList with
    | '+' :: rest => rest
    | chars => chars
  if bare ∈ [".inf", ".Inf", ".INF"].map String.toList then some (.infinite false)
  else if text ∈ ["-.inf", "-.Inf", "-.INF"] then some (.infinite true)
  else if text ∈ [".nan", ".NaN", ".NAN"] then some .undefined
  else if bare.head? = some '-' ∧ text.toList.head? = some '+' then none
  else signed? bare

/-- Whether a number begins with a superfluous zero, after its sign. -/
def isPadded (text : String) : Bool :=
  match text.toList with
  | '+' :: rest => hasIdleZero rest
  | '-' :: rest => hasIdleZero rest
  | chars => hasIdleZero chars

/-- What a plain scalar stands for. -/
def meaning (text : String) : Meaning :=
  if text.isEmpty || isNothing text then .nothing
  else
    match boolean? text, integer? text.toList with
    | some value, _ => .boolean value
    | none, some value => .integer value
    | none, none =>
      if isPadded text then .text
      else
        match real? text with
        | some value => .real value
        | none => .text

end LocaleRelay.Yaml
