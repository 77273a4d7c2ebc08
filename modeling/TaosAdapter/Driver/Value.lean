import TaosAdapter.Lib.Bytes
import TaosAdapter.Lib.Outcome
import Mathlib.Tactic.Linarith

/-!
Contract: the values and types of `driver/types/taostype.go`,
`driver/common/datatype.go`, `driver/common/const.go` and
`driver/common/change.go`.

Owns: Go values that cross the driver, type codes, the table of type lengths,
and the conversion between times and timestamps.

Machine integers and floating-point numbers are bit vectors: a float is its bit
pattern, which `math.Float32bits` and its inverse pass through. A string is its
bytes. A `time.Time` is its instant, in nanoseconds since 1970; the location is
left out.
-/

namespace TaosAdapter.Driver

open Lib

/-- The instant of a `time.Time`, in nanoseconds since 1970. -/
abbrev Time := Int

/-- A value of the driver that is not nil. -/
inductive Value where
  | bool (v : Bool)
  | int8 (v : BitVec 8)
  | int16 (v : BitVec 16)
  | int32 (v : BitVec 32)
  | int64 (v : BitVec 64)
  | uint8 (v : BitVec 8)
  | uint16 (v : BitVec 16)
  | uint32 (v : BitVec 32)
  | uint64 (v : BitVec 64)
  | float32 (bits : BitVec 32)
  | float64 (bits : BitVec 64)
  | string (v : Bytes)
  | bytes (v : Bytes)
  | time (v : Time)
  /-- A value of any other Go type. -/
  | other
deriving DecidableEq

/-- The `reflect.Type` of a column. -/
inductive TaosType where
  | bool
  | tinyint
  | smallint
  | int
  | bigint
  | utinyint
  | usmallint
  | uint
  | ubigint
  | float
  | double
  | binary
  | varBinary
  | nchar
  | timestamp
  | json
  | geometry
  /-- A type that is not a Taos type. -/
  | other
deriving DecidableEq

/-- A value of one of the Taos types. -/
inductive TaosValue where
  | bool (v : Bool)
  | tinyint (v : BitVec 8)
  | smallint (v : BitVec 16)
  | int (v : BitVec 32)
  | bigint (v : BitVec 64)
  | utinyint (v : BitVec 8)
  | usmallint (v : BitVec 16)
  | uint (v : BitVec 32)
  | ubigint (v : BitVec 64)
  | float (bits : BitVec 32)
  | double (bits : BitVec 64)
  | binary (v : Bytes)
  | varBinary (v : Bytes)
  | nchar (v : Bytes)
  | timestamp (t : Time) (precision : Int)
  | json (v : Bytes)
  | geometry (v : Bytes)
  /-- A value of any other Go type. -/
  | other
deriving DecidableEq

def valueType : TaosValue → TaosType
  | .bool _ => .bool
  | .tinyint _ => .tinyint
  | .smallint _ => .smallint
  | .int _ => .int
  | .bigint _ => .bigint
  | .utinyint _ => .utinyint
  | .usmallint _ => .usmallint
  | .uint _ => .uint
  | .ubigint _ => .ubigint
  | .float _ => .float
  | .double _ => .double
  | .binary _ => .binary
  | .varBinary _ => .varBinary
  | .nchar _ => .nchar
  | .timestamp _ _ => .timestamp
  | .json _ => .json
  | .geometry _ => .geometry
  | .other => .other

def TSDB_DATA_TYPE_BOOL : Nat := 1
def TSDB_DATA_TYPE_TINYINT : Nat := 2
def TSDB_DATA_TYPE_SMALLINT : Nat := 3
def TSDB_DATA_TYPE_INT : Nat := 4
def TSDB_DATA_TYPE_BIGINT : Nat := 5
def TSDB_DATA_TYPE_FLOAT : Nat := 6
def TSDB_DATA_TYPE_DOUBLE : Nat := 7
def TSDB_DATA_TYPE_BINARY : Nat := 8
def TSDB_DATA_TYPE_TIMESTAMP : Nat := 9
def TSDB_DATA_TYPE_NCHAR : Nat := 10
def TSDB_DATA_TYPE_UTINYINT : Nat := 11
def TSDB_DATA_TYPE_USMALLINT : Nat := 12
def TSDB_DATA_TYPE_UINT : Nat := 13
def TSDB_DATA_TYPE_UBIGINT : Nat := 14
def TSDB_DATA_TYPE_JSON : Nat := 15
def TSDB_DATA_TYPE_VARBINARY : Nat := 16
def TSDB_DATA_TYPE_GEOMETRY : Nat := 20

/-- `TypeLengthMap`; a type without an entry has length zero. -/
def typeLengthMap : Nat → Nat
  | 0 => 1
  | 1 => 1
  | 2 => 1
  | 3 => 2
  | 4 => 4
  | 5 => 8
  | 6 => 4
  | 7 => 8
  | 9 => 8
  | 11 => 1
  | 12 => 2
  | 13 => 4
  | 14 => 8
  | _ => 0

/-- `t.UnixNano()`, which wraps outside the years it can represent. -/
def unixNano (t : Time) : BitVec 64 :=
  BitVec.ofInt 64 t

def precisionUnit : Int → Option Nat
  | 0 => some 1000000
  | 1 => some 1000
  | 2 => some 1
  | _ => none

def timeToTimestamp {Error : Type} (t : Time) (precision : Int) : Outcome Error (BitVec 64) :=
  match precisionUnit precision with
  | some unit => .ok ((unixNano t).sdiv (BitVec.ofNat 64 unit))
  | none => .panic

/-- `time.Unix(0, timestamp * unit)` with the product in 64 bits. -/
def timestampConvertToTime {Error : Type} (timestamp : BitVec 64) (precision : Int) :
    Outcome Error Time :=
  match precisionUnit precision with
  | some unit => .ok (timestamp * BitVec.ofNat 64 unit).toInt
  | none => .panic

/-- The time is a whole number of units and its nanoseconds fit 64 bits. -/
def WholeUnits (t : Time) (precision : Int) : Prop :=
  ∃ unit, precisionUnit precision = some unit ∧ (unit : Int) ∣ t ∧ -2 ^ 63 ≤ t ∧ t < 2 ^ 63

variable {unit : Nat} {prec : Int}

theorem precisionUnit_bounds (known : precisionUnit prec = some unit) :
    0 < unit ∧ unit ≤ 1000000 := by
  unfold precisionUnit at known
  split at known <;> simp_all <;> omega

theorem bmod_of_int64 {value : Int} (low : -2 ^ 63 ≤ value) (high : value < 2 ^ 63) :
    value.bmod (2 ^ 64) = value :=
  Int.bmod_eq_of_le (by omega) (by omega)

theorem toInt_ofNat_of_small (small : unit ≤ 1000000) : (BitVec.ofNat 64 unit).toInt = unit := by
  rw [BitVec.toInt_ofNat']
  exact bmod_of_int64 (by omega) (by omega)

theorem tdiv_mul_bounds (w unit : Int) (pos : 0 < unit) :
    (0 ≤ w → 0 ≤ w.tdiv unit ∧ w.tdiv unit ≤ w.tdiv unit * unit ∧ w.tdiv unit * unit ≤ w) ∧
      (w ≤ 0 → w.tdiv unit ≤ 0 ∧ w.tdiv unit * unit ≤ w.tdiv unit ∧ w ≤ w.tdiv unit * unit) := by
  have forward : ∀ n : Int, 0 ≤ n → 0 ≤ n.tdiv unit ∧ n.tdiv unit ≤ n.tdiv unit * unit ∧
      n.tdiv unit * unit ≤ n := by
    intro n nonneg
    rw [Int.tdiv_eq_ediv_of_nonneg nonneg]
    have quotient := Int.ediv_nonneg nonneg pos.le
    exact ⟨quotient, le_mul_of_one_le_right quotient pos, Int.ediv_mul_le n pos.ne'⟩
  refine ⟨forward w, fun nonpos => ?_⟩
  have mirrored := forward (-w) (by omega)
  rw [Int.neg_tdiv, Int.neg_mul] at mirrored
  omega

theorem toInt_sdiv_unixNano (t : Int) (pos : 0 < unit) (small : unit ≤ 1000000) :
    ((unixNano t).sdiv (BitVec.ofNat 64 unit)).toInt = (unixNano t).toInt.tdiv unit := by
  rw [BitVec.toInt_sdiv, toInt_ofNat_of_small small]
  have low := BitVec.le_toInt (unixNano t)
  have high := BitVec.toInt_lt (x := unixNano t)
  obtain ⟨forward, backward⟩ := tdiv_mul_bounds (unixNano t).toInt unit (by omega)
  rcases Int.le_total 0 (unixNano t).toInt with nonneg | nonpos
  · have bounds := forward nonneg
    exact bmod_of_int64 (by omega) (by omega)
  · have bounds := backward nonpos
    exact bmod_of_int64 (by omega) (by omega)

theorem toInt_unixNano {t : Int} (low : -2 ^ 63 ≤ t) (high : t < 2 ^ 63) :
    (unixNano t).toInt = t := by
  rw [unixNano, BitVec.toInt_ofInt]
  exact bmod_of_int64 low high

theorem timestamp_mul_unit_iff {t : Int} (known : precisionUnit prec = some unit) :
    ((unixNano t).sdiv (BitVec.ofNat 64 unit)).toInt * unit = t ↔ WholeUnits t prec := by
  obtain ⟨pos, small⟩ := precisionUnit_bounds known
  rw [toInt_sdiv_unixNano t pos small]
  constructor
  · intro same
    have low := BitVec.le_toInt (unixNano t)
    have high := BitVec.toInt_lt (x := unixNano t)
    obtain ⟨forward, backward⟩ := tdiv_mul_bounds (unixNano t).toInt unit (by omega)
    have range : (-2 ^ 63 : Int) ≤ t ∧ (t : Int) < 2 ^ 63 := by
      rcases Int.le_total 0 (unixNano t).toInt with nonneg | nonpos
      · have bounds := forward nonneg
        omega
      · have bounds := backward nonpos
        omega
    exact ⟨unit, known, ⟨(unixNano t).toInt.tdiv unit, by rw [Int.mul_comm, same]⟩, range⟩
  · rintro ⟨unit', known', ⟨units, rfl⟩, low, high⟩
    obtain rfl : unit' = unit := Option.some.inj (known'.symm.trans known)
    rw [toInt_unixNano low high, Int.mul_tdiv_cancel_left units (by omega), Int.mul_comm]

theorem timestampConvertToTime_timeToTimestamp {t : Time} (whole : WholeUnits t prec) : ∃ timestamp,
      (∀ Error : Type, (timeToTimestamp t prec : Outcome Error _) = .ok timestamp) ∧
        ∀ Error : Type, (timestampConvertToTime timestamp prec : Outcome Error _) = .ok t := by
  obtain ⟨unit, known, ⟨units, rfl⟩, low, high⟩ := whole
  obtain ⟨pos, small⟩ := precisionUnit_bounds known
  refine ⟨_, fun _ => by rw [timeToTimestamp, known], fun _ => ?_⟩
  have unitInt := toInt_ofNat_of_small small
  have divided : ((unixNano (unit * units)).sdiv (BitVec.ofNat 64 unit)).toInt = units := by
    rw [toInt_sdiv_unixNano _ pos small, toInt_unixNano low high,
      Int.mul_tdiv_cancel_left units (by omega)]
  simp only [timestampConvertToTime, known, BitVec.toInt_mul, divided, unitInt]
  rw [mul_comm units, bmod_of_int64 low high]

end TaosAdapter.Driver
