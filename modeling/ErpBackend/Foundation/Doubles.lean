import Mathlib

/-!
# Binary floating point numbers

Numbers of so many binary digits, counted in the smallest step there is between two of them.
A fraction is read as the nearest, and one is printed as the shortest decimal that is read as it.
-/

namespace ErpBackend.Foundation

/-- The whole number nearest to `n / d`, and the even one of two. -/
def roundEven (n d : Nat) : Nat :=
  if 2 * (n % d) < d then n / d
  else if d < 2 * (n % d) then n / d + 1
  else n / d + n / d % 2

/-- Where the last of `p` binary digits of `n / d` stands. -/
def lastPlace (p n d : Nat) : Nat := Nat.log2 (n / d) + 1 - p

def nearest (p n d : Nat) : Nat := roundEven n (d * 2 ^ lastPlace p n d) * 2 ^ lastPlace p n d

/-- `p` binary digits, and at most `top` noughts behind them. -/
def IsFloat (p top steps : Nat) : Prop :=
  ∃ digits place, digits < 2 ^ p ∧ place ≤ top ∧ steps = digits * 2 ^ place

/-- How far `k` times `d` is from `n`. -/
def apart (n d k : Nat) : Nat := ((k * d : Nat) - n : Int).natAbs

section Nearest

variable (p top n d : Nat)

theorem roundEven_half (pos : 0 < d) : 2 * apart n d (roundEven n d) ≤ d := by
  have parts := Nat.div_add_mod n d
  have rest := Nat.mod_lt n pos
  have even := Nat.mod_two_eq_zero_or_one (n / d)
  have below : ((n / d * d : Nat) : Int) - n = -((n % d : Nat) : Int) := by
    rw [Nat.mul_comm]
    omega
  have above : (((n / d + 1) * d : Nat) : Int) - n = d - (n % d : Nat) := by
    rw [Nat.add_mul, Nat.one_mul, Nat.mul_comm]
    omega
  unfold apart roundEven
  split
  · omega
  · split
    · omega
    · rcases even with even | odd
      · rw [even, Nat.add_zero]
        omega
      · rw [odd]
        omega

theorem apart_of_half (k other : Nat) (half : 2 * apart n d k ≤ d) :
    apart n d k ≤ apart n d other := by
  unfold apart at half ⊢
  rcases Nat.lt_trichotomy k other with less | rfl | more
  · have step : (k + 1) * d ≤ other * d := Nat.mul_le_mul_right d less
    rw [Nat.add_mul, Nat.one_mul] at step
    omega
  · exact le_refl _
  · have step : (other + 1) * d ≤ k * d := Nat.mul_le_mul_right d more
    rw [Nat.add_mul, Nat.one_mul] at step
    omega

theorem apart_scaled (k place : Nat) : apart n d (k * 2 ^ place) = apart n (d * 2 ^ place) k := by
  unfold apart
  rw [Nat.mul_assoc, Nat.mul_comm (2 ^ place)]

theorem nearest_half (pos : 0 < d) :
    2 * apart n d (nearest p n d) ≤ d * 2 ^ lastPlace p n d := by
  unfold nearest
  rw [apart_scaled]
  exact roundEven_half n _ (Nat.mul_pos pos (Nat.two_pow_pos _))

theorem lastPlace_full (pos : 0 < d) (lost : 0 < lastPlace (p + 1) n d) :
    2 ^ p * (d * 2 ^ lastPlace (p + 1) n d) ≤ n := by
  have place : lastPlace (p + 1) n d + p = Nat.log2 (n / d) := by
    unfold lastPlace at lost ⊢
    omega
  have filled : n / d ≠ 0 := by
    intro none
    rw [none, Nat.log2_zero] at place
    omega
  have digits := (Nat.le_log2 filled).mp place.le
  rw [Nat.le_div_iff_mul_le pos, Nat.pow_add] at digits
  calc 2 ^ p * (d * 2 ^ lastPlace (p + 1) n d)
      = 2 ^ lastPlace (p + 1) n d * 2 ^ p * d := by ring
    _ ≤ n := digits

theorem lastPlace_fits (pos : 0 < d) : n < 2 ^ p * (d * 2 ^ lastPlace p n d) := by
  have digits : n / d < 2 ^ (lastPlace p n d + p) := by
    rcases Nat.eq_zero_or_pos (n / d) with none | some
    · rw [none]
      exact Nat.two_pow_pos _
    · rw [← Nat.log2_lt (by omega)]
      unfold lastPlace
      omega
  rw [Nat.div_lt_iff_lt_mul pos, Nat.pow_add] at digits
  calc n < 2 ^ lastPlace p n d * 2 ^ p * d := digits
    _ = 2 ^ p * (d * 2 ^ lastPlace p n d) := by ring

theorem lastPlace_le (some : n / d ≠ 0) : d * 2 ^ lastPlace (p + 1) n d ≤ n := by
  have place : lastPlace (p + 1) n d ≤ Nat.log2 (n / d) := by
    unfold lastPlace
    omega
  rw [Nat.mul_comm]
  calc 2 ^ lastPlace (p + 1) n d * d ≤ 2 ^ Nat.log2 (n / d) * d :=
        Nat.mul_le_mul_right d (Nat.pow_le_pow_right (by decide) place)
    _ ≤ n / d * d := Nat.mul_le_mul_right d (Nat.log2_self_le some)
    _ ≤ n := Nat.div_mul_le_self n d

theorem nearest_closest (pos : 0 < d) (digits place : Nat) (short : digits < 2 ^ (p + 1)) :
    apart n d (nearest (p + 1) n d) ≤ apart n d (digits * 2 ^ place) := by
  have half := roundEven_half n (d * 2 ^ lastPlace (p + 1) n d)
    (Nat.mul_pos pos (Nat.two_pow_pos _))
  have closest := fun k => apart_of_half n (d * 2 ^ lastPlace (p + 1) n d) _ k half
  rw [nearest, apart_scaled]
  rcases Nat.lt_or_ge place (lastPlace (p + 1) n d) with finer | coarser
  · -- the other is smaller than any number with a digit in front of these
    have full := lastPlace_full p n d pos (by omega)
    have low : digits * 2 ^ place * d ≤ 2 ^ p * (d * 2 ^ lastPlace (p + 1) n d) := by
      have power : 2 ^ (place + 1) ≤ 2 ^ lastPlace (p + 1) n d :=
        Nat.pow_le_pow_right (by decide) finer
      calc digits * 2 ^ place * d ≤ 2 ^ (p + 1) * 2 ^ place * d :=
            Nat.mul_le_mul_right d (Nat.mul_le_mul_right _ short.le)
        _ = 2 ^ p * (d * 2 ^ (place + 1)) := by ring
        _ ≤ 2 ^ p * (d * 2 ^ lastPlace (p + 1) n d) :=
            Nat.mul_le_mul_left _ (Nat.mul_le_mul_left d power)
    refine (closest (2 ^ p)).trans ?_
    unfold apart
    omega
  · have same : digits * 2 ^ place =
        digits * 2 ^ (place - lastPlace (p + 1) n d) * 2 ^ lastPlace (p + 1) n d := by
      rw [Nat.mul_assoc, ← Nat.pow_add, Nat.sub_add_cancel coarser]
    rw [same, apart_scaled]
    exact closest _

theorem nearest_isFloat (pos : 0 < d) (finite : nearest (p + 1) n d < 2 ^ (p + 1 + top)) :
    IsFloat (p + 1) top (nearest (p + 1) n d) := by
  have half := roundEven_half n (d * 2 ^ lastPlace (p + 1) n d)
    (Nat.mul_pos pos (Nat.two_pow_pos _))
  have fits := lastPlace_fits (p + 1) n d pos
  have full := lastPlace_full p n d pos
  unfold nearest at finite ⊢
  generalize roundEven n (d * 2 ^ lastPlace (p + 1) n d) = q at half finite ⊢
  generalize lastPlace (p + 1) n d = place at half fits full finite ⊢
  have step : 0 < d * 2 ^ place := Nat.mul_pos pos (Nat.two_pow_pos place)
  generalize d * 2 ^ place = unit at half fits full step
  unfold apart at half
  have most : q ≤ 2 ^ (p + 1) := by
    by_contra more
    have past : (2 ^ (p + 1) + 1) * unit ≤ q * unit := Nat.mul_le_mul_right unit (by omega)
    rw [Nat.add_mul, Nat.one_mul] at past
    omega
  have least : 0 < place → 2 ^ p ≤ q := by
    intro lost
    have := full lost
    by_contra less
    have short : (q + 1) * unit ≤ 2 ^ p * unit := Nat.mul_le_mul_right unit (by omega)
    rw [Nat.add_mul, Nat.one_mul] at short
    omega
  rcases Nat.lt_or_ge q (2 ^ (p + 1)) with short | long
  · refine ⟨q, place, short, ?_, rfl⟩
    by_contra high
    have large : 2 ^ (p + 1 + top) ≤ q * 2 ^ place :=
      calc 2 ^ (p + 1 + top) = 2 ^ p * 2 ^ (top + 1) := by ring
        _ ≤ q * 2 ^ place :=
          Nat.mul_le_mul (least (by omega)) (Nat.pow_le_pow_right (by decide) (by omega))
    exact absurd finite (Nat.not_lt.mpr large)
  · -- rounded up to a power of two
    obtain rfl : q = 2 ^ (p + 1) := le_antisymm most long
    refine ⟨2 ^ p, place + 1, Nat.pow_lt_pow_right (by decide) (by omega), ?_, by ring⟩
    rw [← Nat.pow_add] at finite
    have := (Nat.pow_lt_pow_iff_right (by decide)).mp finite
    omega

theorem roundEven_scaled (c : Nat) (pos : 0 < c) : roundEven (n * c) (d * c) = roundEven n d := by
  unfold roundEven
  rw [Nat.mul_mod_mul_right, Nat.mul_div_mul_right _ _ pos, ← Nat.mul_assoc]
  simp only [Nat.mul_lt_mul_right pos]

theorem nearest_scaled (c : Nat) (pos : 0 < c) : nearest p (n * c) (d * c) = nearest p n d := by
  have place : lastPlace p (n * c) (d * c) = lastPlace p n d := by
    unfold lastPlace
    rw [Nat.mul_div_mul_right _ _ pos]
  unfold nearest
  rw [place, Nat.mul_right_comm d c, roundEven_scaled n _ c pos]

end Nearest

namespace Double

/-- The smallest step is `2 ^ -finest`. -/
@[irreducible] def finest : Nat := 1074

@[irreducible] def one : Nat := 2 ^ finest

@[irreducible] def top : Nat := 2045

@[irreducible] def infinite : Nat := 2 ^ (52 + 1 + top)

end Double

structure Double where
  steps : Int
  float : IsFloat 53 Double.top steps.natAbs
  deriving DecidableEq

/-- `mantissa / 10 ^ places`. -/
structure Decimal where
  mantissa : Int
  places : Nat
  deriving DecidableEq, Repr

namespace Double

/-- The steps of the number nearest to `n / d`. -/
def magnitude (n d : Nat) : Nat := nearest 53 (n * one) d

theorem magnitude_float (n d : Nat) (pos : 0 < d) (finite : magnitude n d < infinite) :
    IsFloat 53 top (magnitude n d) := by
  rw [infinite] at finite
  exact nearest_isFloat 52 top _ d pos finite

def signed (negative : Bool) (steps : Nat) (float : IsFloat 53 top steps) : Double where
  steps := if negative then -steps else steps
  float := by
    split
    · rwa [Int.natAbs_neg]
    · exact float

/-- The number nearest to `n / d`; `none` where that is infinite. -/
def nearest? (n : Int) (d : Nat) (pos : 0 < d) : Option Double :=
  if finite : magnitude n.natAbs d < infinite then
    some (signed (n < 0) (magnitude n.natAbs d) (magnitude_float _ d pos finite))
  else none

end Double

def Decimal.double? (decimal : Decimal) : Option Double :=
  Double.nearest? decimal.mantissa (10 ^ decimal.places) (Nat.pow_pos (by decide))

namespace Double

/-- The multiple of `den / num` that is read as a number: the one nearest to it that is. -/
def onGrid (steps num den : Nat) : Option Nat :=
  let near := roundEven (steps * num) (one * den)
  [near, near + 1, near - 1].find? (fun count => magnitude (count * den) num = steps)

/-- The noughts before the point and the places behind it, from the coarsest grid that is not
too coarse. -/
def grids (steps : Nat) : List (Nat × Nat) :=
  ((List.range 309).reverse.filter (fun noughts =>
      noughts = 0 || 10 ^ noughts * one ≤ 2 * steps)).map (fun noughts => (noughts, 0)) ++
    (List.range' 1 340).map (fun places => (0, places))

def decimalOn (steps : Nat) (grid : Nat × Nat) : Option Decimal :=
  (onGrid steps (10 ^ grid.2) (10 ^ grid.1)).map (fun count =>
    ⟨(count * 10 ^ grid.1 : Nat), grid.2⟩)

/-- A decimal on the first grid that has one, or else the number itself. -/
def shortest (steps : Nat) : Decimal :=
  ((grids steps).findSome? (decimalOn steps)).getD ⟨(steps * 5 ^ finest : Nat), finest⟩

end Double

def Decimal.neg (decimal : Decimal) : Decimal := { decimal with mantissa := -decimal.mantissa }

namespace Double

def printed (x : Double) : Decimal :=
  if x.steps < 0 then (shortest x.steps.natAbs).neg else shortest x.steps.natAbs

/-- How far a number is from `n / d`, in `d`ths of a step. -/
def off (x : Double) (n : Int) (d : Nat) : Nat := (x.steps * d - n * one).natAbs

theorem finest_le_top : finest ≤ top := by
  unfold finest top
  decide

section Reading

variable {n : Int} {d : Nat} {x : Double}

theorem nearest?_some {pos : 0 < d} (read : nearest? n d pos = some x) :
    magnitude n.natAbs d < infinite ∧
      x.steps = if n < 0 then -(magnitude n.natAbs d : Int) else magnitude n.natAbs d := by
  unfold nearest? at read
  split at read
  · next finite =>
    cases read
    exact ⟨finite, by simp [signed]⟩
  · cases read

theorem magnitude_closest (pos : 0 < d) (n : Nat) (other : Double) :
    apart (n * one) d (magnitude n d) ≤ apart (n * one) d other.steps.natAbs := by
  obtain ⟨digits, place, short, -, written⟩ := other.float
  rw [written]
  exact nearest_closest 52 _ d pos digits place short

theorem apart_le_off (other : Double) :
    apart (n.natAbs * one) d other.steps.natAbs ≤ other.off n d := by
  have scaled : (other.steps * d).natAbs = other.steps.natAbs * d := by
    rw [Int.natAbs_mul, Int.natAbs_natCast]
  have amount : (n * one).natAbs = n.natAbs * one := by
    rw [Int.natAbs_mul, Int.natAbs_natCast]
  unfold apart off
  rw [← scaled, ← amount]
  omega

theorem nearest?_closest {pos : 0 < d} (read : nearest? n d pos = some x) (other : Double) :
    x.off n d ≤ other.off n d := by
  obtain ⟨-, steps⟩ := nearest?_some read
  have own : x.off n d = apart (n.natAbs * one) d (magnitude n.natAbs d) := by
    unfold off apart
    rw [steps]
    split
    · next negative =>
      have amount : n = -(n.natAbs : Int) := by omega
      generalize n.natAbs = k at amount ⊢
      rw [amount]
      push_cast
      rw [← Int.natAbs_neg]
      congr 1
      ring
    · next positive =>
      have amount : n = (n.natAbs : Int) := by omega
      generalize n.natAbs = k at amount ⊢
      rw [amount]
      push_cast
      rfl
  rw [own]
  exact (magnitude_closest pos _ other).trans (apart_le_off other)

theorem steps_bound (x : Double) : x.steps.natAbs + 2 ^ top ≤ infinite := by
  obtain ⟨digits, place, short, low, written⟩ := x.float
  have power : 2 ^ place ≤ 2 ^ top := Nat.pow_le_pow_right (by decide) low
  calc x.steps.natAbs + 2 ^ top = digits * 2 ^ place + 2 ^ top := by rw [written]
    _ ≤ digits * 2 ^ top + 2 ^ top := Nat.add_le_add_right (Nat.mul_le_mul_left _ power) _
    _ = (digits + 1) * 2 ^ top := by ring
    _ ≤ 2 ^ (52 + 1) * 2 ^ top := Nat.mul_le_mul_right _ short
    _ = infinite := by rw [infinite, Nat.pow_add 2 (52 + 1) top]

theorem nearest?_finite (pos : 0 < d) (other : Double) (near : 2 * other.off n d < d * 2 ^ top) :
    ∃ x, nearest? n d pos = some x := by
  have closest := (magnitude_closest pos n.natAbs other).trans (apart_le_off other)
  have off := apart_le_off (n := n) (d := d) other
  have bound := steps_bound other
  unfold nearest?
  by_cases finite : magnitude n.natAbs d < infinite
  · exact ⟨_, dif_pos finite⟩
  · exfalso
    have gap : (other.steps.natAbs + 2 ^ top) * d ≤ magnitude n.natAbs d * d :=
      Nat.mul_le_mul_right d (bound.trans (Nat.not_lt.mp finite))
    rw [Nat.add_mul, Nat.mul_comm (2 ^ top)] at gap
    unfold apart at closest off
    generalize d * 2 ^ top = width at near gap
    omega

end Reading

section Printing

theorem magnitude_exact {n d steps : Nat} (pos : 0 < d) (float : IsFloat 53 top steps)
    (same : steps * d = n * one) : magnitude n d = steps := by
  have closest := magnitude_closest pos n ⟨steps, by rwa [Int.natAbs_natCast]⟩
  rw [Int.natAbs_natCast] at closest
  have exact : magnitude n d * d = steps * d := by
    unfold apart at closest
    omega
  exact Nat.eq_of_mul_eq_mul_right pos exact

theorem onGrid_read {steps num den count : Nat} (read : onGrid steps num den = some count) :
    magnitude (count * den) num = steps := by
  have held := List.find?_some read
  exact of_decide_eq_true held

theorem shortest_read {steps : Nat} (float : IsFloat 53 top steps) :
    ∃ n : Nat, (shortest steps).mantissa = n ∧
      magnitude n (10 ^ (shortest steps).places) = steps := by
  unfold shortest
  rcases found : (grids steps).findSome? (decimalOn steps) with _ | decimal
  · rw [Option.getD_none]
    refine ⟨_, rfl, magnitude_exact (Nat.pow_pos (by decide)) float ?_⟩
    rw [one, Nat.mul_assoc, ← Nat.mul_pow]
  · obtain ⟨grid, -, on⟩ := List.exists_of_findSome?_eq_some found
    obtain ⟨count, read, rfl⟩ := Option.map_eq_some_iff.mp on
    rw [Option.getD_some]
    exact ⟨_, rfl, onGrid_read read⟩

theorem double?_of_magnitude (x : Double) (decimal : Decimal)
    (size : magnitude decimal.mantissa.natAbs (10 ^ decimal.places) = x.steps.natAbs)
    (sign : decimal.mantissa < 0 ↔ x.steps < 0) : decimal.double? = some x := by
  have finite : magnitude decimal.mantissa.natAbs (10 ^ decimal.places) < infinite :=
    calc magnitude decimal.mantissa.natAbs (10 ^ decimal.places) = x.steps.natAbs := size
      _ < x.steps.natAbs + 2 ^ top := Nat.lt_add_of_pos_right (Nat.two_pow_pos top)
      _ ≤ infinite := steps_bound x
  rw [Decimal.double?, nearest?, dif_pos finite]
  congr 1
  rcases x with ⟨steps, float⟩
  unfold signed
  congr 1
  rw [size]
  simp only [sign, decide_eq_true_eq]
  split
  · omega
  · omega

theorem magnitude_zero {d : Nat} (pos : 0 < d) : magnitude 0 d = 0 := by
  refine magnitude_exact pos ⟨0, 0, Nat.two_pow_pos 53, Nat.zero_le _, (Nat.zero_mul _).symm⟩ ?_
  rw [Nat.zero_mul, Nat.zero_mul]

theorem neg_double? (x : Double) (decimal : Decimal) (n : Nat) (written : decimal.mantissa = n)
    (read : magnitude n (10 ^ decimal.places) = x.steps.natAbs) :
    (if x.steps < 0 then decimal.neg else decimal).double? = some x := by
  have some : x.steps ≠ 0 → n ≠ 0 := by
    rintro some rfl
    rw [magnitude_zero (Nat.pow_pos (by decide))] at read
    exact some (Int.natAbs_eq_zero.mp read.symm)
  have same : ∀ mantissa : Int, mantissa.natAbs = n →
      magnitude mantissa.natAbs (10 ^ decimal.places) = x.steps.natAbs := by
    rintro mantissa rfl
    exact read
  have size : decimal.neg.mantissa = -n := by
    rw [← written]
    rfl
  split
  · next negative =>
    have more := some negative.ne
    refine double?_of_magnitude x _ (same _ ?_) ?_
    · rw [size, Int.natAbs_neg, Int.natAbs_natCast]
    · rw [size]
      omega
  · next positive =>
    refine double?_of_magnitude x _ (same _ ?_) ?_
    · rw [written, Int.natAbs_natCast]
    · rw [written]
      omega

theorem magnitude_scaled (n d c : Nat) (pos : 0 < c) : magnitude (n * c) (d * c) = magnitude n d := by
  unfold magnitude
  rw [Nat.mul_right_comm, nearest_scaled 53 _ d c pos]

theorem nearest?_congr {n n' : Int} {d d' : Nat} (pos : 0 < d) (pos' : 0 < d')
    (size : magnitude n.natAbs d = magnitude n'.natAbs d') (sign : n < 0 ↔ n' < 0) :
    nearest? n d pos = nearest? n' d' pos' := by
  unfold nearest?
  simp only [size, sign]

/-- Two decimals of one value are read as one number. -/
theorem double?_same (a b : Decimal)
    (same : a.mantissa * 10 ^ b.places = b.mantissa * 10 ^ a.places) : a.double? = b.double? := by
  have powA : (0 : Int) < 10 ^ a.places := Int.pow_pos (by decide)
  have powB : (0 : Int) < 10 ^ b.places := Int.pow_pos (by decide)
  have size : a.mantissa.natAbs * 10 ^ b.places = b.mantissa.natAbs * 10 ^ a.places := by
    have sizes := congrArg Int.natAbs same
    rwa [Int.natAbs_mul, Int.natAbs_mul, Int.natAbs_pow, Int.natAbs_pow] at sizes
  refine nearest?_congr _ _ ?_ ?_
  · calc magnitude a.mantissa.natAbs (10 ^ a.places)
        = magnitude (a.mantissa.natAbs * 10 ^ b.places) (10 ^ a.places * 10 ^ b.places) :=
          (magnitude_scaled _ _ _ (Nat.pow_pos (by decide))).symm
      _ = magnitude (b.mantissa.natAbs * 10 ^ a.places) (10 ^ b.places * 10 ^ a.places) := by
          rw [size, Nat.mul_comm (10 ^ a.places)]
      _ = magnitude b.mantissa.natAbs (10 ^ b.places) :=
          magnitude_scaled _ _ _ (Nat.pow_pos (by decide))
  · have sign : ∀ m p : Int, 0 < p → (m * p < 0 ↔ m < 0) := fun m p pos => by
      simpa using mul_lt_mul_iff_of_pos_right (b := m) (c := 0) pos
    rw [← sign _ _ powB, same, sign _ _ powA]

/-- What is printed is read as the number. -/
theorem printed_read (x : Double) : x.printed.double? = some x := by
  obtain ⟨n, written, read⟩ := shortest_read x.float
  exact neg_double? x _ n written read

end Printing

end Double

end ErpBackend.Foundation
