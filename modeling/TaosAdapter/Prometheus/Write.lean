import TaosAdapter.Lib.Json
import TaosAdapter.Driver.GoTime
import Mathlib.Data.List.DropRight
import Mathlib.Data.List.Lex
import Mathlib.Order.Lattice

/-!
Contract: `generateWriteSql` and `ms2Time` of `plugin/prometheus/process.go` and
the order of `Labels` of `proto/write/types.go`.

Owns: the text of a label set, the name of its table, the text of a time, and the
statement. Of the standard library `Format` with `RFC3339Nano`, `IsNaN` and `IsInf`
are defined; MD5, the stream that writes the labels and `%v` of a finite number are
parameters.
-/

namespace TaosAdapter.Prometheus

open Lib
open Driver (GoTime)

structure Label where
  name : Bytes
  value : Bytes
deriving DecidableEq

structure Sample where
  value : BitVec 64
  timestamp : BitVec 64
deriving DecidableEq

structure TimeSeries where
  labels : List Label
  samples : List Sample
deriving DecidableEq

/-- The bytes of a name as numbers: Go compares strings byte by byte. -/
def Label.key (label : Label) : List Nat := label.name.map UInt8.toNat

def sortLabels (labels : List Label) : List Label :=
  labels.mergeSort fun first second => decide (first.key ≤ second.key)

def Label.text (label : Label) : Bytes := label.name ++ 61 :: label.value

/-- What `tmp` holds for a series: its labels in order, with commas between them. -/
def labelsText (labels : List Label) : Bytes := joined ((sortLabels labels).map Label.text)

def hexDigit (n : Nat) : UInt8 := if n < 10 then UInt8.ofNat (48 + n) else UInt8.ofNat (87 + n)

def hexText (bytes : Bytes) : Bytes :=
  bytes.flatMap fun byte => [hexDigit (byte.toNat / 16), hexDigit (byte.toNat % 16)]

/-- What the statement is made with. -/
structure Texts where
  md5Sum : Bytes → Bytes
  labelsJson : List Label → Bytes
  /-- `%v` of a finite number -/
  float : BitVec 64 → Bytes
  floatNoQuote : ∀ value, (39 : UInt8) ∉ float value

/-- `math.IsNaN`, on the bits of the number: the exponent is all ones, the rest not zero. -/
def isNaN (bits : BitVec 64) : Bool :=
  bits.toNat / 2 ^ 52 % 2 ^ 11 = 2047 ∧ bits.toNat % 2 ^ 52 ≠ 0

/-- `math.IsInf(value, 0)` -/
def isInf (bits : BitVec 64) : Bool :=
  bits.toNat / 2 ^ 52 % 2 ^ 11 = 2047 ∧ bits.toNat % 2 ^ 52 = 0

/-- Year, month and day of a number of days since 1970-01-01. The year begins in March, so that
the leap day is its last. -/
def civil (days : Int) : Int × Int × Int :=
  let z := days + 719468
  let dayOfEra := z % 146097
  let yearOfEra := (dayOfEra - dayOfEra / 1460 + dayOfEra / 36524 - dayOfEra / 146096) / 365
  let dayOfYear := dayOfEra - (365 * yearOfEra + yearOfEra / 4 - yearOfEra / 100)
  let fromMarch := (5 * dayOfYear + 2) / 153
  let month := if fromMarch < 10 then fromMarch + 3 else fromMarch - 9
  (z / 146097 * 400 + yearOfEra + (if month ≤ 2 then 1 else 0), month,
    dayOfYear - (153 * fromMarch + 2) / 5 + 1)

def appendInt (x : Int) (width : Nat) : Bytes :=
  (if x < 0 then [45] else []) ++ (ascii (toString x.natAbs)).leftpad width 48

/-- The fraction of a second, without the zeros at its end. -/
def appendNano (nanosec : Int) : Bytes :=
  if nanosec = 0 then [] else 46 :: (appendInt nanosec 9).rdropWhile (· = 48)

/-- `UTC().Format(time.RFC3339Nano)` -/
def formatRFC3339Nano (t : GoTime) : Bytes :=
  let date := civil (t.unixSec.toInt / 86400)
  let seconds := t.unixSec.toInt % 86400
  appendInt date.1 4 ++ [45] ++ appendInt date.2.1 2 ++ [45] ++ appendInt date.2.2 2 ++ [84] ++
    appendInt (seconds / 3600) 2 ++ [58] ++ appendInt (seconds / 60 % 60) 2 ++ [58] ++
    appendInt (seconds % 60) 2 ++ appendNano t.nsec.toInt ++ [90]

def ms2Time (ts : BitVec 64) : Bytes :=
  formatRFC3339Nano (.unix (ts.sdiv 1000) (ts.srem 1000 * 1000000))

def tableName (md5Sum : Bytes → Bytes) (labels : List Label) : Bytes :=
  ascii "t_" ++ hexText (md5Sum (labelsText labels))

/-- `strings.ReplaceAll` and `bytes.ReplaceAll` of one byte -/
def replaceAll (old : UInt8) (new text : Bytes) : Bytes :=
  text.flatMap fun byte => if byte = old then new else [byte]

def escapeString (text : Bytes) : Bytes := replaceAll 39 [92, 39] (replaceAll 92 [92, 92] text)

def escapeBytes (text : Bytes) : Bytes :=
  let text := if text.count 92 > 0 then replaceAll 92 [92, 92] text else text
  if text.count 39 > 0 then replaceAll 39 [92, 39] text else text

def writeSample (texts : Texts) (sample : Sample) : Bytes :=
  ascii "('" ++ ms2Time sample.timestamp ++ ascii "'," ++
    (if isNaN sample.value then ascii "null" else if isInf sample.value then ascii "null"
      else texts.float sample.value) ++ ascii ") "

def writeSeries (texts : Texts) (ttl : Int) (series : TimeSeries) : Bytes :=
  tableName texts.md5Sum series.labels ++ ascii " using metrics tags('" ++
    escapeBytes (texts.labelsJson (sortLabels series.labels)) ++ ascii "') " ++
    (if ttl > 0 then ascii "ttl " ++ ascii (toString ttl) ++ ascii " " else []) ++
    ascii "values" ++ series.samples.flatMap (writeSample texts)

def generateWriteSql (texts : Texts) (timeseries : List TimeSeries) (ttl : Int) : Bytes :=
  ascii "insert into " ++ timeseries.flatMap (writeSeries texts ttl)

end TaosAdapter.Prometheus
