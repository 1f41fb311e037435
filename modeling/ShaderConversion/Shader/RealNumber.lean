import ShaderConversion.Text.Decimal

namespace ShaderConversion.Shader.RealNumber

def infinite : Float32 := 1 / 0

-- So many digits tell a number of 32 bits from its neighbours. Of the digits behind
-- them it only matters whether one is not zero.
def telling : Nat := 120

def nearest (digits : Text) (exponent : Int) : Float32 :=
  let digits := digits.dropWhile (· == '0')
  let kept := digits.take telling
  let dropped := digits.drop telling
  let value := Nat.ofDigitChars 10 kept 0
  let place := exponent + dropped.length
  let magnitude := place + kept.length
  if kept.isEmpty || magnitude < -60 then 0
  else if 60 < magnitude then infinite
  else
    let (value, place) :=
      if dropped.all (· == '0') then (value, place) else (10 * value + 1, place - 1)
    Float32.ofScientific value (place < 0) place.natAbs

def largestExponent : Nat := 1000000000

def exponentOf (s : Text) : Int :=
  let value (digits : Text) : Int :=
    (Text.decimalBelow? largestExponent (digits.takeWhile Char.isDigit)).getD largestExponent
  match s with
  | '-' :: digits => -value digits
  | '+' :: digits => value digits
  | digits => value digits

def ofText (s : Text) : Float32 :=
  let s :=
    match s with
    | '0' :: 'x' :: rest | '0' :: 'X' :: rest => rest
    | s => s
  let whole := s.takeWhile Char.isDigit
  let (fraction, rest) :=
    match s.dropWhile Char.isDigit with
    | '.' :: rest => (rest.takeWhile Char.isDigit, rest.dropWhile Char.isDigit)
    | rest => ([], rest)
  let exponent :=
    match rest with
    | 'e' :: rest | 'E' :: rest => exponentOf rest
    | _ => 0
  nearest (whole ++ fraction) (exponent - fraction.length)

def truncate (x : Float32) : Float32 := if x < 0 then x.ceil else x.floor

def roundEven (x : Float32) : Float32 :=
  let low := x.floor
  let half := x - low
  if half < 0.5 || (half == 0.5 && low / 2 == (low / 2).floor) then low else low + 1

def fraction (x : Float32) : Float32 := x - x.floor

def signum (x : Float32) : Float32 := if x.toBits >>> 31 = 0 then 1 else -1

def scaled (x : Float32) : Nat × Int :=
  let exponent := (x.toBits >>> 23).toNat % 0x100
  let significand := x.toBits.toNat % 0x800000
  if exponent = 0 then (significand, -149) else (significand + 0x800000, exponent - 150)

def remainder (x y : Float32) : Float32 :=
  let (m, e) := scaled x
  let (n, f) := scaled y
  if n = 0 then 0 / 0
  else
    let unit := min e f
    let rest := (m <<< (e - unit).toNat) % (n <<< (f - unit).toNat)
    let size := (Float32.ofNat rest).scaleB unit
    if x < 0 then -size else size

def multiplyAdd (x y z : Float32) : Float32 := (x.toFloat * y.toFloat + z.toFloat).toFloat32

end ShaderConversion.Shader.RealNumber
