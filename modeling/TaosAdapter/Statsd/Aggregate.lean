import TaosAdapter.Lib.Bytes
import Mathlib.Data.BitVec

/-!
Contract: `aggregate`, `Gather` and `expireCachedMetrics` of
`plugin/statsd/statsd.go`.

Owns: the caches of the gauges, counters and sets between two gatherings, and what
a gathering reports of them: a cache holds, for every key, what the metrics since
its last clearing come to, and with `DeleteCounters` every increment is reported
once. Timings and histograms go to a cache of their own, which is not modelled.

Both functions hold the lock of the service, so every interleaving of the parsers
with the ticker is a sequence of their calls.
-/

namespace TaosAdapter.Statsd.Aggregate

open Lib List

inductive MetricType where
  | distribution | timing | histogram | counter | gauge | set
deriving DecidableEq

structure Metric (Float : Type) where
  name : Bytes
  field : Bytes
  hash : Bytes
  intvalue : BitVec 64
  floatvalue : Float
  strvalue : Bytes
  mtype : MetricType
  additive : Bool
  tags : List (Bytes × Bytes)

structure Cached (Value : Type) where
  name : Bytes
  fields : Bytes → Option Value
  tags : List (Bytes × Bytes)
  expiresAt : Int

abbrev Cache (Value : Type) := Bytes → Option (Cached Value)

/-- One of the maps: the cases of `aggregate` that write it, the value of a field that is not there,
what a metric does to it, its `Delete` option and `MaxTTL`. -/
structure Kind (Float Value : Type) where
  takes : MetricType → Bool
  default : Value
  add : Metric Float → Value → Value
  delete : Bool
  maxTTL : Int

variable {Float Value : Type}

def Kind.aggregate (kind : Kind Float Value) (now : Int) (m : Metric Float) (cache : Cache Value) :
    Cache Value :=
  if kind.takes m.mtype then
    let cached := (cache m.hash).getD ⟨m.name, fun _ => none, m.tags, 0⟩
    let value := (cached.fields m.field).getD kind.default
    Function.update cache m.hash (some { cached with
      fields := Function.update cached.fields m.field (some (kind.add m value))
      expiresAt := now + kind.maxTTL })
  else cache

/-- What a gathering leaves of a cache. -/
def Kind.expire (kind : Kind Float Value) (now : Int) (cache : Cache Value) : Cache Value :=
  let cache := if kind.delete then fun _ => none else cache
  if kind.maxTTL = 0 then cache
  else fun key => (cache key).filter fun cached => ¬ now > cached.expiresAt

inductive Event (Float : Type) where
  | aggregate (now : Int) (m : Metric Float)
  | gather (now : Int)

namespace Kind

variable (kind : Kind Float Value)

/-- The metrics of a key since its entry was cleared, by the option or as expired. -/
def since (key : Bytes) : List (Event Float) → List (Int × Metric Float) :=
  foldl (fun since event =>
    match event with
    | .aggregate now m => if kind.takes m.mtype ∧ m.hash = key then since ++ [(now, m)] else since
    | .gather now =>
      if kind.delete ∨ kind.maxTTL ≠ 0 ∧ ∃ last ∈ since.getLast?, now > last.1 + kind.maxTTL then []
      else since) []

def fields (since : List (Int × Metric Float)) (field : Bytes) : Option Value :=
  let own := since.filter fun entry => entry.2.field = field
  if own = [] then none
  else some (own.foldl (fun value entry => kind.add entry.2 value) kind.default)

/-- The name and the tags of the first metric, the fields of all, and the time of the last. -/
def entry (since : List (Int × Metric Float)) : Option (Cached Value) :=
  since.head?.map fun first => ⟨first.2.name, kind.fields since, first.2.tags,
    since.getLast?.elim 0 Prod.fst + kind.maxTTL⟩

theorem fields_append (since : List (Int × Metric Float)) (now : Int) (m : Metric Float) :
    kind.fields (since ++ [(now, m)]) = Function.update (kind.fields since) m.field
      (some (kind.add m ((kind.fields since m.field).getD kind.default))) := by
  funext field
  by_cases same : field = m.field
  · subst same
    rw [Function.update_self]
    simp only [fields, filter_append, filter_cons, decide_true, if_true, filter_nil,
      append_eq_nil_iff, cons_ne_nil, and_false, if_false, foldl_append, foldl_cons, foldl_nil]
    split
    next none => rw [none, foldl_nil, Option.getD_none]
    next => rfl
  · have other : filter (fun entry => entry.2.field = field) [(now, m)] = [] := by
      simp [Ne.symm same]
    rw [Function.update_of_ne same, fields, filter_append, other, append_nil, fields]

variable {kind} {cache : Cache Value} {key : Bytes} {events : List (Event Float)}

theorem aggregate_entry (now : Int) (m : Metric Float)
    (holds : cache key = kind.entry (kind.since key events)) : kind.aggregate now m cache key =
      kind.entry (kind.since key (events ++ [.aggregate now m])) := by
  rw [aggregate, since, foldl_append, ← since, foldl_cons, foldl_nil]
  dsimp only
  by_cases takes : kind.takes m.mtype = true
  · by_cases same : m.hash = key
    · subst same
      have empty : kind.fields [] = fun _ => none := by simp [fields, funext_iff]
      rw [if_pos takes, if_pos ⟨takes, rfl⟩, Function.update_self, holds, entry, entry,
        fields_append, getLast?_concat]
      cases kind.since m.hash events <;> simp [empty]
    · rw [if_pos takes, if_neg (same ·.2), Function.update_of_ne (Ne.symm same), holds]
  · rw [if_neg takes, if_neg (takes ·.1), holds]

theorem expire_entry (now : Int) (holds : cache key = kind.entry (kind.since key events)) :
    kind.expire now cache key = kind.entry (kind.since key (events ++ [.gather now])) := by
  rw [expire, since, foldl_append, ← since, foldl_cons, foldl_nil]
  by_cases deletes : kind.delete = true
  · simp [deletes, entry]
  · by_cases forever : kind.maxTTL = 0
    · simp [deletes, forever, holds]
    · rcases eq_nil_or_concat (kind.since key events) with none | ⟨front, last, some⟩
      · simp [deletes, forever, holds, entry, none]
      · by_cases late : last.1 + kind.maxTTL < now
        · simp [deletes, forever, holds, entry, late, some]
        · simp [deletes, forever, holds, entry, late, some, Int.not_lt.mp late]

end Kind

structure Options where
  dataDogExtensions : Bool
  dataDogDistributions : Bool
  deleteGauges : Bool
  deleteCounters : Bool
  deleteSets : Bool
  maxTTL : Int

variable [Zero Float] [Add Float] (options : Options)

def counters : Kind Float (BitVec 64) where
  takes mtype := mtype = .counter
  default := 0
  add m value := value + m.intvalue
  delete := options.deleteCounters
  maxTTL := options.maxTTL

def gauges : Kind Float Float where
  takes mtype := mtype = .gauge
  default := 0
  add m value := if m.additive then value + m.floatvalue else m.floatvalue
  delete := options.deleteGauges
  maxTTL := options.maxTTL

/-- The values of a set, each once. -/
def sets : Kind Float (List Bytes) where
  takes mtype := mtype = .set
  default := []
  add m values := values.insert m.strvalue
  delete := options.deleteSets
  maxTTL := options.maxTTL

structure Caches (Float : Type) where
  distributions : List (Bytes × Float × List (Bytes × Bytes))
  gauges : Cache Float
  counters : Cache (BitVec 64)
  sets : Cache (List Bytes)

/-- A call, and what it reports. -/
def step (s : Caches Float) : Event Float → Caches Float × Option (Caches Float)
  | .aggregate now m =>
    ({ distributions :=
         if m.mtype = .distribution ∧ options.dataDogExtensions ∧ options.dataDogDistributions then
           s.distributions ++ [(m.name, m.floatvalue, m.tags)]
         else s.distributions
       gauges := (gauges options).aggregate now m s.gauges
       counters := (counters options).aggregate now m s.counters
       sets := (sets options).aggregate now m s.sets }, none)
  | .gather now =>
    ({ distributions := []
       gauges := (gauges options).expire now s.gauges
       counters := (counters options : Kind Float _).expire now s.counters
       sets := (sets options : Kind Float _).expire now s.sets }, some s)

/-- The caches after a run, and the reports of its gatherings. -/
def run (events : List (Event Float)) : Caches Float × List (Caches Float) :=
  events.foldl (fun (s, reports) event =>
    ((step options s event).1, reports ++ (step options s event).2.toList))
    (⟨[], fun _ => none, fun _ => none, fun _ => none⟩, [])

theorem run_append (events : List (Event Float)) (event : Event Float) :
    run options (events ++ [event]) =
      ((step options (run options events).1 event).1,
        (run options events).2 ++
          (step options (run options events).1 event).2.toList) := by
  simp [run]

/-- What the caches hold, and with that what the next gathering reports. -/
theorem caches_hold (events : List (Event Float)) (key : Bytes) :
    let s := (run options events).1
    s.gauges key = (gauges options).entry ((gauges options).since key events) ∧
      s.counters key = (counters options).entry ((counters options).since key events) ∧
      s.sets key = (sets options).entry ((sets options).since key events) := by
  induction events using List.reverseRecOn with
  | nil => exact ⟨rfl, rfl, rfl⟩
  | append_singleton events event ih =>
    obtain ⟨gauged, counted, collected⟩ := ih
    rw [run_append]
    cases event with
    | aggregate now m =>
      exact ⟨Kind.aggregate_entry now m gauged,
        Kind.aggregate_entry now m counted, Kind.aggregate_entry now m collected⟩
    | gather now =>
      exact ⟨Kind.expire_entry now gauged,
        Kind.expire_entry now counted, Kind.expire_entry now collected⟩

def Caches.counted (s : Caches Float) (key field : Bytes) : BitVec 64 :=
  ((s.counters key).bind fun cached => cached.fields field).getD 0

def Event.increment (key field : Bytes) : Event Float → BitVec 64
  | .aggregate _ m =>
    if m.mtype = .counter ∧ m.hash = key ∧ m.field = field then m.intvalue else 0
  | .gather _ => 0

theorem counted_aggregate (s : Caches Float) (now : Int) (m : Metric Float)
    (key field : Bytes) : (step options s (.aggregate now m)).1.counted key field =
      s.counted key field + (Event.aggregate now m).increment key field := by
  simp only [step, Caches.counted, Kind.aggregate, counters, Event.increment]
  by_cases counter : m.mtype = .counter
  · by_cases here : m.hash = key
    · subst here
      by_cases own : m.field = field
      · cases found : s.counters m.hash <;> simp [counter, own]
      · cases found : s.counters m.hash <;> simp [counter, own, Ne.symm own]
    · simp [counter, here, Ne.symm here]
  · simp [counter]

/-- With `DeleteCounters` every increment is reported once, or still waits for a gathering. -/
theorem increments_reported_once (deletes : options.deleteCounters = true)
    (events : List (Event Float)) (key field : Bytes) :
    ((run options events).2.map fun report => report.counted key field).sum +
        (run options events).1.counted key field =
      (events.map fun event => event.increment key field).sum := by
  induction events using List.reverseRecOn with
  | nil => rfl
  | append_singleton events event ih =>
    rw [run_append, map_append, sum_append, map_append, sum_append, ← ih]
    cases event with
    | aggregate now m =>
      rw [counted_aggregate]
      simp [step, BitVec.add_assoc]
    | gather now =>
      have cleared : (step options (run options events).1
          (.gather now)).1.counted key field = 0 := by
        simp [step, Caches.counted, Kind.expire, counters, deletes]
      rw [cleared]
      simp [step, Event.increment]

def increment (value : BitVec 64) : Event Nat :=
  .aggregate 0 ⟨[97], [98], [99], value, 0, [], .counter, false, []⟩

/-- Of increments of 2, 3 and 4 with a gathering before the last, 5 is reported and 4 waits. -/
theorem increments_reported_once_gathered :
    let ran := run ⟨false, false, true, true, true, 0⟩
      [increment 2, increment 3, .gather 1, increment 4]
    let reported := ran.2.map fun report => report.counted [99] [98]
    reported = [5] ∧ ran.1.counted [99] [98] = 4 ∧ reported.sum + ran.1.counted [99] [98] = 9 :=
  ⟨by decide, by decide, (increments_reported_once _ rfl _ _ _).trans (by decide)⟩

end TaosAdapter.Statsd.Aggregate
