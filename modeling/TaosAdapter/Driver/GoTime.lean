import TaosAdapter.Driver.Value

/-!
Contract: the conversions of `driver/common/change.go` over a `time.Time` as Go
keeps it, in seconds and nanoseconds.

Owns: that a `time.Time` made from nanoseconds stands for that instant, so that
the conversions over instants are the ones the code makes; and the timestamps
that come back from the two conversions.

The nanoseconds of a timestamp are a product in 64 bits. Dividing the product
gives the timestamp back exactly if it did not overflow: what is left of an
overflowed product is too small in absolute value.
-/

namespace TaosAdapter.Driver

open Lib

/-- A `time.Time` without a monotonic reading: seconds since the year 1, and
nanoseconds within the second. -/
structure GoTime where
  ext : BitVec 64
  nsec : BitVec 32
deriving DecidableEq

namespace GoTime

def unixToInternal : BitVec 64 := 62135596800

def unixTime (sec nsec : BitVec 64) : GoTime :=
  ⟨sec + unixToInternal, nsec.setWidth 32⟩

def unix (sec nsec : BitVec 64) : GoTime :=
  if nsec.toInt < 0 ∨ 1000000000 ≤ nsec.toInt then
    let n := nsec.sdiv 1000000000
    let rest := nsec - n * 1000000000
    if rest.toInt < 0 then unixTime (sec + n - 1) (rest + 1000000000)
    else unixTime (sec + n) rest
  else unixTime sec nsec

variable (t : GoTime)

def unixSec : BitVec 64 := t.ext - unixToInternal

def unixNano : BitVec 64 := t.unixSec * 1000000000 + t.nsec.signExtend 64

def timestampConvertToTime {Error : Type} (timestamp : BitVec 64) (precision : Int) :
    Outcome Error GoTime :=
  match precisionUnit precision with
  | some unit => .ok (unix 0 (timestamp * BitVec.ofNat 64 unit))
  | none => .panic

def timeToTimestamp {Error : Type} (precision : Int) : Outcome Error (BitVec 64) :=
  match precisionUnit precision with
  | some unit => .ok (t.unixNano.sdiv (BitVec.ofNat 64 unit))
  | none => .panic

def instant : Int := t.unixSec.toInt * 1000000000 + t.nsec.toInt

theorem unixNano_eq : t.unixNano = Driver.unixNano t.instant := by
  rw [unixNano, Driver.unixNano, instant, BitVec.ofInt_add, BitVec.ofInt_mul, BitVec.ofInt_toInt]
  rfl

theorem timeToTimestamp_eq {Error : Type} (prec : Int) :
    (t.timeToTimestamp prec : Outcome Error _) = Driver.timeToTimestamp t.instant prec := by
  cases found : precisionUnit prec with
  | none => simp only [timeToTimestamp, Driver.timeToTimestamp, found]
  | some unit => simp only [timeToTimestamp, Driver.timeToTimestamp, found, unixNano_eq]

theorem instant_unixTime {sec nsec : BitVec 64} (low : 0 ≤ nsec.toInt)
    (high : nsec.toInt < 1000000000) :
    (unixTime sec nsec).instant = sec.toInt * 1000000000 + nsec.toInt := by
  have seconds : (unixTime sec nsec).unixSec = sec := BitVec.add_sub_cancel _ _
  have nanoseconds : (nsec.setWidth 32).toInt = nsec.toInt := by
    rw [BitVec.toInt_setWidth, ← BitVec.toInt_eq_toNat_of_lt]
    · exact Int.bmod_eq_of_le (by omega) (by omega)
    · have := BitVec.toInt_eq_toNat_cond nsec
      split at this <;> omega
  rw [instant, seconds, unixTime, nanoseconds]

theorem instant_unix (nsec : BitVec 64) : (unix 0 nsec).instant = nsec.toInt := by
  have low := BitVec.le_toInt nsec
  have high := BitVec.toInt_lt (x := nsec)
  have billion : (1000000000 : BitVec 64).toInt = 1000000000 := rfl
  have quotient : (nsec.sdiv 1000000000).toInt = nsec.toInt.tdiv 1000000000 := by
    rw [BitVec.toInt_sdiv, billion]
    obtain ⟨forward, backward⟩ := tdiv_mul_bounds nsec.toInt 1000000000 (by omega)
    exact bmod_of_int64 (by omega) (by omega)
  have division := Int.tmod_add_tdiv_mul nsec.toInt 1000000000
  have small := Int.tmod_lt_of_pos nsec.toInt (show (0 : Int) < 1000000000 by omega)
  have large := Int.lt_tmod_of_pos nsec.toInt (show (0 : Int) < 1000000000 by omega)
  have rest : (nsec - nsec.sdiv 1000000000 * 1000000000).toInt = nsec.toInt.tmod 1000000000 := by
    rw [BitVec.toInt_sub, BitVec.toInt_mul, quotient, billion, Int.sub_bmod_bmod]
    rw [show nsec.toInt - nsec.toInt.tdiv 1000000000 * 1000000000 = nsec.toInt.tmod 1000000000 by
      omega]
    exact bmod_of_int64 (by omega) (by omega)
  obtain ⟨forward, backward⟩ := tdiv_mul_bounds nsec.toInt 1000000000 (by omega)
  have noSeconds : ∀ n : BitVec 64, 0 + n = n := BitVec.zero_add
  simp only [unix, noSeconds]
  split
  · split
    next negative =>
      -- One second is borrowed.
      rw [rest] at negative
      have nanoseconds : (nsec - nsec.sdiv 1000000000 * 1000000000 + 1000000000).toInt =
          nsec.toInt.tmod 1000000000 + 1000000000 := by
        rw [BitVec.toInt_add, rest, billion]
        exact bmod_of_int64 (by omega) (by omega)
      have seconds : (nsec.sdiv 1000000000 - 1).toInt = nsec.toInt.tdiv 1000000000 - 1 := by
        rw [BitVec.toInt_sub, quotient]
        exact bmod_of_int64 (by simp; omega) (by simp; omega)
      rw [instant_unixTime (by omega) (by omega), nanoseconds, seconds]
      omega
    next pos =>
      rw [rest] at pos
      rw [instant_unixTime (by omega) (by omega), rest, quotient]
      omega
  next inside =>
    rw [instant_unixTime (by omega) (by omega)]
    exact Int.zero_add _

end GoTime

variable (timestamp : BitVec 64)

/-- The timestamp in nanoseconds is an `int64`. -/
def NanosecondsFit (precision : Int) : Prop :=
  ∃ unit : Nat, precisionUnit precision = some unit ∧ -2 ^ 63 ≤ timestamp.toInt * unit ∧
    timestamp.toInt * unit < 2 ^ 63

/-- The timestamp that is bound for a timestamp that was sent. -/
def boundTimestamp (unit : Nat) : BitVec 64 :=
  (timestamp * BitVec.ofNat 64 unit).sdiv (BitVec.ofNat 64 unit)

theorem unixNano_toInt (nanoseconds : BitVec 64) : unixNano nanoseconds.toInt = nanoseconds :=
  BitVec.ofInt_toInt

variable {unit : Nat} {prec : Int}

theorem boundTimestamp_eq_iff {timestamp : BitVec 64} (known : precisionUnit prec = some unit) :
    boundTimestamp timestamp unit = timestamp ↔ NanosecondsFit timestamp prec := by
  obtain ⟨pos, small⟩ := precisionUnit_bounds known
  have divided := toInt_sdiv_unixNano (timestamp * BitVec.ofNat 64 unit).toInt pos small
  rw [unixNano_toInt] at divided
  rw [boundTimestamp, ← BitVec.toInt_inj, divided]
  constructor
  · intro same
    have low := BitVec.le_toInt (timestamp * BitVec.ofNat 64 unit)
    have high := BitVec.toInt_lt (x := timestamp * BitVec.ofNat 64 unit)
    obtain ⟨forward, backward⟩ :=
      tdiv_mul_bounds (timestamp * BitVec.ofNat 64 unit).toInt unit (by omega)
    rw [same] at forward backward
    refine ⟨unit, known, ?_⟩
    -- The product lies between zero and what is left of it in 64 bits.
    rcases Int.le_total 0 (timestamp * BitVec.ofNat 64 unit).toInt with nonneg | nonpos
    · have bounds := forward nonneg
      omega
    · have bounds := backward nonpos
      omega
  · rintro ⟨unit', known', low, high⟩
    obtain rfl : unit' = unit := Option.some.inj (known'.symm.trans known)
    rw [BitVec.toInt_mul, toInt_ofNat_of_small small, bmod_of_int64 low high]
    exact Int.mul_tdiv_cancel _ (by omega)

theorem GoTime.timeToTimestamp_timestampConvertToTime {Error : Type}
    (known : precisionUnit prec = some unit) :
    ((do let t ← GoTime.timestampConvertToTime timestamp prec
         t.timeToTimestamp prec) : Outcome Error (BitVec 64)) =
      .ok (boundTimestamp timestamp unit) := by
  rw [GoTime.timestampConvertToTime, known, Outcome.ok_bind, GoTime.timeToTimestamp_eq,
    GoTime.instant_unix, Driver.timeToTimestamp, known, unixNano_toInt]
  rfl

end TaosAdapter.Driver
