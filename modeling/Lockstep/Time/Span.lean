import Lockstep.Number.Decimal

namespace Lockstep

/-- A length of time. The bound is `2 ^ 64` seconds in nanoseconds. -/
structure Span where
  nanos : Nat
  nanos_lt : nanos < 18446744073709551616000000000
deriving DecidableEq

namespace Span

theorem ext {a b : Span} (h : a.nanos = b.nanos) : a = b := by
  cases a; cases b; cases h; rfl

def zero : Span := ⟨0, by decide⟩

def ofNanos? (n : Nat) : Option Span :=
  if h : n < 18446744073709551616000000000 then some ⟨n, h⟩ else none

/-- The span of a 64 bit count of nanoseconds. -/
def ofWord (n : UInt64) : Span :=
  ⟨n.toNat, Nat.lt_of_lt_of_le n.toNat_lt (by decide)⟩

instance : LT Span := ⟨fun a b => a.nanos < b.nanos⟩
instance : LE Span := ⟨fun a b => a.nanos ≤ b.nanos⟩
instance (a b : Span) : Decidable (a < b) := inferInstanceAs (Decidable (a.nanos < b.nanos))
instance (a b : Span) : Decidable (a ≤ b) := inferInstanceAs (Decidable (a.nanos ≤ b.nanos))

/-- The time from `b` to `a`, zero when `b` is the later one. -/
def since (a b : Span) : Span :=
  ⟨a.nanos - b.nanos, Nat.lt_of_le_of_lt (Nat.sub_le _ _) a.nanos_lt⟩

/-- The span in seconds: whole seconds and the fraction are converted apart and added. -/
def seconds (s : Span) : Float :=
  Binary64.ofNat (s.nanos / 1000000000) + Binary64.ofNat (s.nanos % 1000000000) / 1000000000.0

/-- Why a number of seconds is no span. -/
inductive SecondsError where
  | negative
  | outOfRange
deriving DecidableEq, Repr

def SecondsError.message : SecondsError → String
  | negative => "cannot convert float seconds to Duration: value is negative"
  | outOfRange => "cannot convert float seconds to Duration: value is either too big or NaN"

/-- The span nearest to a number of seconds, a half nanosecond going to the even neighbour. A
negative zero is zero. -/
def ofSeconds (x : Float) : Except SecondsError Span :=
  match Binary64.ofFloat x with
  | .nan | .infinite false => .error .outOfRange
  | .infinite true => .error .negative
  | .finite negative significand exponent =>
    if negative && significand != 0 then .error .negative
    else
      let (num, den) := Binary64.ratio significand exponent
      match ofNanos? (Rounding.halfEven (num * 1000000000) den) with
      | some s => .ok s
      | none => .error .outOfRange

/-- A count of small units in a larger one of `10 ^ places` of them, without zeros at the end. -/
def inUnit (places n : Nat) : String :=
  let fraction := (Decimal.padded places (n % tenPow places)).reverse.dropWhile (· == '0')
  let whole := Decimal.digits (n / tenPow places)
  String.ofList (if n % tenPow places == 0 then whole else whole ++ '.' :: fraction.reverse)

/-- The span in the largest unit of which it holds at least one, with all digits of the rest. -/
def text (s : Span) : String :=
  if 1000000000 ≤ s.nanos then inUnit 9 s.nanos ++ "s"
  else if 1000000 ≤ s.nanos then inUnit 6 s.nanos ++ "ms"
  else if 1000 ≤ s.nanos then inUnit 3 s.nanos ++ "µs"
  else inUnit 0 s.nanos ++ "ns"

end Span

end Lockstep
