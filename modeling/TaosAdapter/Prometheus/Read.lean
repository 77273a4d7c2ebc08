import TaosAdapter.Prometheus.Write

/-!
Contract: `processRead` and `generateReadSql` of `plugin/prometheus/process.go`.

Owns: the statement of a query, the rows that are passed over, the grouping of
the others by table, and the list of results with its indexing.
-/

namespace TaosAdapter.Prometheus

open Lib

structure Matcher where
  type : Int
  name : Bytes
  value : Bytes
deriving DecidableEq

structure Query where
  startTimestampMs : BitVec 64
  endTimestampMs : BitVec 64
  matchers : List Matcher
deriving DecidableEq

/-- A value of a row that is not nil, by its Go type. -/
inductive Cell where
  | int64 (v : BitVec 64)
  | float64 (bits : BitVec 64)
  | rawMessage (text : Bytes)
  | string (v : Bytes)
  /-- A value of any other Go type. -/
  | other
deriving DecidableEq

abbrev Row := List (Option Cell)

inductive ReadError where
  | selectDB (code : Int)
  | matchType
  | exec (message : String)
  | unmarshal (message : String)
deriving DecidableEq

/-- Why there is no response: an error is returned, a type assertion fails, or the list of
results is indexed outside. -/
inductive Stop where
  | error (reason : ReadError)
  | assertion
  | outOfRange
deriving DecidableEq

/-- What the request is answered with. -/
structure Backend where
  /-- `TaosSelectDB` -/
  selectDB : Int
  /-- `TaosExec` for the query with this index -/
  taosExec : Nat → Bytes → Except String (List Row)
  unmarshal : Bytes → Except String (List Label)
  restfulRowLimit : Int
  /-- The order of `tags` in a row of a query. -/
  labelOrder : Nat → Nat → List Label → List Label
  labelOrder_perm : ∀ i j labels, (labelOrder i j labels).Perm labels
  /-- The order of `group` of a query. -/
  seriesOrder : Nat → List TimeSeries → List TimeSeries
  seriesOrder_perm : ∀ i series, (seriesOrder i series).Perm series

namespace Backend

variable (backend : Backend)

def matcherText (matcher : Matcher) : Except ReadError Bytes := do
  let operator ←
    if matcher.type = 0 then .ok (ascii "' = '")
    else if matcher.type = 1 then .ok (ascii "' != '")
    else if matcher.type = 2 then .ok (ascii "' match '")
    else if matcher.type = 3 then .ok (ascii "' nmatch '")
    else .error .matchType
  .ok (ascii " and labels->'" ++ escapeString matcher.name ++ operator ++
    escapeString matcher.value ++ ascii "'")

def generateReadSql (query : Query) : Except ReadError Bytes := do
  let matchers ← query.matchers.mapM matcherText
  let limit :=
    if backend.restfulRowLimit > -1 then ascii " limit " ++ ascii (toString backend.restfulRowLimit)
    else []
  .ok (ascii "select metrics.*,tbname from metrics where ts >= '" ++
    ms2Time query.startTimestampMs ++ ascii "' and ts <= '" ++
    ms2Time query.endTimestampMs ++ ascii "'" ++ matchers.flatten ++ limit)

def rows (i : Nat) (query : Query) : Except ReadError (List Row) := do
  let sql ← backend.generateReadSql query
  match backend.taosExec i sql with
  | .ok data => .ok data
  | .error message => .error (.exec message)

/-- What a row says. -/
structure Point where
  tbName : Bytes
  sample : Sample
  tags : List Label
deriving DecidableEq

def asInt64 : Cell → Except Stop (BitVec 64)
  | .int64 v => .ok v
  | _ => .error .assertion

def asFloat64 : Cell → Except Stop (BitVec 64)
  | .float64 bits => .ok bits
  | _ => .error .assertion

def asRawMessage : Cell → Except Stop Bytes
  | .rawMessage text => .ok text
  | _ => .error .assertion

def asString : Cell → Except Stop Bytes
  | .string v => .ok v
  | _ => .error .assertion

def readTags (text : Bytes) : Except Stop (List Label) :=
  match backend.unmarshal text with
  | .ok tags => .ok tags
  | .error message => .error (.error (.unmarshal message))

def readPoint (ts value labels tbName : Cell) : Except Stop Point := do
  let ts ← asInt64 ts
  let value ← asFloat64 value
  let text ← asRawMessage labels
  let tags ← backend.readTags text
  let tbName ← asString tbName
  .ok ⟨tbName, ⟨value, ts⟩, tags⟩

/-- `group[tbName]` gets the sample; a new series gets the labels too. -/
def addPoint (labels : List Label) (point : Point) :
    List (Bytes × TimeSeries) → List (Bytes × TimeSeries)
  | [] => [(point.tbName, ⟨labels, [point.sample]⟩)]
  | (name, series) :: group =>
    if name = point.tbName then
      (name, { series with samples := series.samples ++ [point.sample] }) :: group
    else (name, series) :: addPoint labels point group

def groupRows (i : Nat) :
    Nat → List Row → List (Bytes × TimeSeries) → Except Stop (List (Bytes × TimeSeries))
  | _, [], group => .ok group
  | j, row :: rows, group =>
    match row with
    | [some ts, some value, some labels, some tbName] => do
        let point ← backend.readPoint ts value labels tbName
        groupRows i (j + 1) rows (addPoint (backend.labelOrder i j point.tags) point group)
    | _ => groupRows i (j + 1) rows group

/-- `resp.Results[i].Timeseries = append(resp.Results[i].Timeseries, series)` -/
def appendSeries (i : Nat) (results : List (List TimeSeries)) (series : TimeSeries) :
    Except Stop (List (List TimeSeries)) :=
  if i < results.length then .ok (results.modify i (· ++ [series])) else .error .outOfRange

def addQuery (i : Nat) (query : Query) (results : List (List TimeSeries)) :
    Except Stop (List (List TimeSeries)) := do
  let rows ←
    match backend.rows i query with
    | .ok rows => .ok rows
    | .error reason => .error (.error reason)
  let group ← backend.groupRows i 0 rows []
  let results := if 0 < group.length then results ++ [[]] else results
  (backend.seriesOrder i (group.map Prod.snd)).foldlM (appendSeries i) results

/-- The loop over the queries from query `i` on. -/
def addQueries : Nat → List Query → List (List TimeSeries) → Except Stop (List (List TimeSeries))
  | _, [], results => .ok results
  | i, query :: queries, results => do
      let results ← backend.addQuery i query results
      addQueries (i + 1) queries results

def processRead (queries : List Query) : Except Stop (List (List TimeSeries)) :=
  if backend.selectDB ≠ 0 then .error (.error (.selectDB backend.selectDB))
  else backend.addQueries 0 queries []

/-- Finds no rows; the maps are iterated in the order of their entries. -/
def empty : Backend where
  selectDB := 0
  taosExec := fun _ _ => .ok []
  unmarshal := fun _ => .ok []
  restfulRowLimit := -1
  labelOrder := fun _ _ labels => labels
  labelOrder_perm := fun _ _ _ => .rfl
  seriesOrder := fun _ series => series
  seriesOrder_perm := fun _ _ => .rfl

end Backend

end TaosAdapter.Prometheus
