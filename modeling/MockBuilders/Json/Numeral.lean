import MockBuilders.Json.Basic

/-!
JSON numerals. The digits are gathered into a significand of 64 bits: whole digits that no longer
fit only raise the exponent, fraction digits that no longer fit are dropped. What is not a whole
number is rounded to a binary number and then scaled by a rounded power of ten, rounding again.
-/
namespace MockBuilders

/-- The parts of a numeral. -/
structure Numeral where
  negative : Bool
  whole : List Char
  /-- Digits after the point, if there is one. -/
  fraction : Option (List Char)
  /-- The written exponent, if there is one. -/
  exponent : Option Int

def digitValue (c : Char) : Nat := c.toNat - '0'.toNat

def digitsValue (digits : List Char) : Nat :=
  digits.foldl (fun n c => 10 * n + digitValue c) 0

namespace Binary64

def powerOfTen (n : Nat) : Binary64 := nearest false (Nat.pow 10 n) 1

/-- The greatest power of ten that is a finite number. -/
def greatestPower : Nat := 308

def timesPower? (x : Binary64) (n : Nat) : Option Binary64 :=
  if x.isZero then some x
  else if n ≤ greatestPower then
    ofRatio? x.negative (x.ticks * (powerOfTen n).ticks) (Nat.pow 2 (2 * places))
  else none

/-- Divides by a power of ten, in steps of at most the greatest one. -/
def overPower (x : Binary64) (n : Nat) : Binary64 :=
  if x.isZero then x
  else if n ≤ greatestPower then nearest x.negative x.ticks (powerOfTen n).ticks
  else overPower (nearest x.negative x.ticks (powerOfTen greatestPower).ticks) (n - greatestPower)
termination_by n
decreasing_by simp only [greatestPower] at *; omega

def scaled? (x : Binary64) (exponent : Int) : Option Binary64 :=
  if exponent < 0 then some (x.overPower exponent.natAbs) else x.timesPower? exponent.natAbs

end Binary64

namespace Numeral

/-- The first number that takes more than 63 bits. -/
def signedLimit : Nat := 0x8000000000000000

/-- The first number that takes more than 64 bits. -/
def wordLimit : Nat := 0x10000000000000000

/-- Whether a number is a signed word of 64 bits. -/
def isWord (n : Int) : Bool := decide (-(signedLimit : Int) ≤ n ∧ n < signedLimit)

/-- Takes digits into the significand as long as it stays below the limit of words. -/
def gather : Nat → List Char → Nat × List Char
  | significand, [] => (significand, [])
  | significand, c :: cs =>
      if 10 * significand + digitValue c < wordLimit then
        gather (10 * significand + digitValue c) cs
      else (significand, c :: cs)

/-- A whole number is exact if it fits 64 bits and is not minus zero. -/
def integer? (n : Numeral) : Option Int :=
  let value := digitsValue n.whole
  if n.fraction.isSome || n.exponent.isSome then none
  else if n.negative then
    if 0 < value ∧ value ≤ signedLimit then some (-value) else none
  else if value < wordLimit then some value else none

/-- Rounds the gathered digits and scales them; none if the result is not finite. -/
def binary? (n : Numeral) : Option Binary64 :=
  let (whole, dropped) := gather 0 n.whole
  let fraction := n.fraction.getD []
  let (significand, rest) := gather whole fraction
  let places : Int := fraction.length - rest.length
  let exponent : Int := dropped.length - places + n.exponent.getD 0
  ((Binary64.nearest false significand 1).scaled? exponent).map (·.withSign n.negative)

def value? (n : Numeral) : Option Number :=
  match n.integer? with
  | some value => some (.integer value)
  | none => n.binary?.map .binary

/-- Splits off at least one digit. -/
def digits? (cs : List Char) : Option (List Char × List Char) :=
  if cs.takeWhile Char.isDigit = [] then none
  else some (cs.takeWhile Char.isDigit, cs.dropWhile Char.isDigit)

def minus : List Char → Bool × List Char
  | '-' :: cs => (true, cs)
  | cs => (false, cs)

def sign : List Char → Bool × List Char
  | '+' :: cs => (false, cs)
  | cs => minus cs

/-- Splits off a fraction: a point and at least one digit. -/
def fraction? : List Char → Option (Option (List Char) × List Char)
  | '.' :: cs => (digits? cs).map fun r => (some r.1, r.2)
  | cs => some (none, cs)

/-- Splits off an exponent: its mark, a sign and at least one digit. -/
def exponent? : List Char → Option (Option Int × List Char)
  | c :: cs =>
      if c = 'e' ∨ c = 'E' then
        (digits? (sign cs).2).map fun r =>
          (some (if (sign cs).1 then -(digitsValue r.1 : Int) else digitsValue r.1), r.2)
      else some (none, c :: cs)
  | [] => some (none, [])

/-- Splits a numeral off the text: no leading zero before another digit, digits on both sides of
the point, and a digit in the exponent. -/
def scan? (cs : List Char) : Option (Numeral × List Char) :=
  match digits? (minus cs).2 with
  | none => none
  | some (whole, cs₁) =>
      if whole.head? = some '0' ∧ whole.length ≠ 1 then none
      else
        match fraction? cs₁ with
        | none => none
        | some (fraction, cs₂) =>
            match exponent? cs₂ with
            | none => none
            | some (exponent, rest) => some (⟨(minus cs).1, whole, fraction, exponent⟩, rest)

theorem digits?_shorter {cs digits rest : List Char} (h : digits? cs = some (digits, rest)) :
    rest.length < cs.length := by
  unfold digits? at h
  split at h
  · simp at h
  · next hd =>
    obtain ⟨-, rfl⟩ := Prod.mk.inj (Option.some.inj h)
    have split := congrArg List.length
      (List.takeWhile_append_dropWhile (p := Char.isDigit) (l := cs))
    have := List.length_pos_iff.2 hd
    rw [List.length_append] at split
    omega

theorem minus_shorter (cs : List Char) : (minus cs).2.length ≤ cs.length := by
  unfold minus
  split <;> simp

theorem sign_shorter (cs : List Char) : (sign cs).2.length ≤ cs.length := by
  unfold sign
  split
  · simp
  · exact minus_shorter _

theorem fraction?_shorter {cs rest : List Char} {fraction : Option (List Char)}
    (h : fraction? cs = some (fraction, rest)) : rest.length ≤ cs.length := by
  unfold fraction? at h
  split at h
  · obtain ⟨r, hr, e⟩ := Option.map_eq_some_iff.1 h
    obtain ⟨-, rfl⟩ := Prod.mk.inj e
    exact Nat.le_succ_of_le (Nat.le_of_lt (digits?_shorter hr))
  · obtain ⟨-, rfl⟩ := Prod.mk.inj (Option.some.inj h)
    exact Nat.le_refl _

theorem exponent?_shorter {cs rest : List Char} {exponent : Option Int}
    (h : exponent? cs = some (exponent, rest)) : rest.length ≤ cs.length := by
  unfold exponent? at h
  split at h
  · split at h
    · obtain ⟨r, hr, e⟩ := Option.map_eq_some_iff.1 h
      obtain ⟨-, rfl⟩ := Prod.mk.inj e
      exact Nat.le_succ_of_le (Nat.le_trans (Nat.le_of_lt (digits?_shorter hr)) (sign_shorter _))
    · obtain ⟨-, rfl⟩ := Prod.mk.inj (Option.some.inj h)
      exact Nat.le_refl _
  · obtain ⟨-, rfl⟩ := Prod.mk.inj (Option.some.inj h)
    exact Nat.le_refl _

/-- A numeral takes at least one character. -/
theorem scan?_shorter {cs rest : List Char} {n : Numeral} (h : scan? cs = some (n, rest)) :
    rest.length < cs.length := by
  unfold scan? at h
  split at h
  · simp at h
  · next hd =>
    split at h
    · simp at h
    · split at h
      · simp at h
      · next hf =>
        split at h
        · simp at h
        · next he =>
          obtain ⟨-, rfl⟩ := Prod.mk.inj (Option.some.inj h)
          exact Nat.lt_of_le_of_lt (exponent?_shorter he) (Nat.lt_of_le_of_lt
            (fraction?_shorter hf) (Nat.lt_of_lt_of_le (digits?_shorter hd) (minus_shorter cs)))

end Numeral

end MockBuilders
