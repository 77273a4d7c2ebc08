import TaosAdapter.Prometheus.Read
import TaosAdapter.Lib.Pieces
import Mathlib.Data.List.Forall2

/-!
Contract: what the statements of a remote write and of a remote read are read as.

Owns: the literals of both statements, the tables a written statement names with
their tags and tuples, and `processWrite` with the statements it executes.
-/

namespace TaosAdapter.Prometheus

open Lib
open List hiding utf8Encode

variable {text : Bytes}

theorem replaceAll_of_count {old : UInt8} (new : Bytes) (absent : ¬ text.count old > 0) :
    replaceAll old new text = text := by
  have notIn : old ∉ text := fun among => absent (count_pos_iff.mpr among)
  clear absent
  induction text with
  | nil => rfl
  | cons byte text ih =>
    obtain ⟨other, notIn⟩ : ¬ byte = old ∧ old ∉ text := by
      simpa [eq_comm (a := byte)] using notIn
    simpa [replaceAll, other] using ih notIn

theorem escapeBytes_eq (text : Bytes) : escapeBytes text = escapeString text := by
  have first : (if text.count 92 > 0 then replaceAll 92 [92, 92] text else text) =
      replaceAll 92 [92, 92] text := by
    split
    · rfl
    · rw [replaceAll_of_count _ ‹_›]
  rw [escapeBytes, escapeString, first]
  split
  · rfl
  · exact (replaceAll_of_count _ ‹_›).symm

theorem lexPieces_escapeString (text before rest : Bytes) :
    lexPieces (some before) (escapeString text ++ rest) =
      lexPieces (some (before ++ text)) rest := by
  induction text generalizing before with
  | nil => simp [escapeString, replaceAll]
  | cons byte text ih =>
    have tail := ih (before ++ [byte])
    simp only [escapeString, replaceAll, append_assoc, cons_append, nil_append] at tail ⊢
    by_cases backslash : byte = 92
    · subst backslash
      rw [lexPieces.eq_def]
      simpa using tail
    · by_cases quote : byte = 39
      · subst quote
        rw [lexPieces.eq_def]
        simpa using tail
      · rw [lexPieces.eq_def]
        simpa [backslash, quote] using tail

theorem lexed_literal (text : Bytes) : Lexed (39 :: (escapeString text ++ [39])) [.literal text] :=
  .quoted (lexPieces_escapeString text)

theorem escapeString_of_plain (noQuote : (39 : UInt8) ∉ text) (noBackslash : (92 : UInt8) ∉ text) :
    escapeString text = text := by
  have same : replaceAll 92 [92, 92] text = text := replaceAll_of_count _ (by simpa)
  rw [escapeString, same]
  exact replaceAll_of_count _ (by simpa)

def operator (type : Int) : Bytes :=
  if type = 0 then ascii " = " else if type = 1 then ascii " != "
  else if type = 2 then ascii " match " else ascii " nmatch "

def Matcher.pieces (matcher : Matcher) : List Piece :=
  plainPieces (ascii " and labels->") ++ [.literal matcher.name] ++
    plainPieces (operator matcher.type) ++ [.literal matcher.value]

def Backend.limitText (backend : Backend) : Bytes :=
  if backend.restfulRowLimit > -1 then ascii " limit " ++ ascii (toString backend.restfulRowLimit)
  else []

def Backend.readPieces (backend : Backend) (query : Query) : List Piece :=
  plainPieces (ascii "select metrics.*,tbname from metrics where ts >= ") ++
    [.literal (ms2Time query.startTimestampMs)] ++ plainPieces (ascii " and ts <= ") ++
    [.literal (ms2Time query.endTimestampMs)] ++ query.matchers.flatMap Matcher.pieces ++
    plainPieces backend.limitText

/-- The digits of a number. -/
theorem digits_decimal (n : Nat) : ∀ byte ∈ ascii (toString n), IsDigit byte := by
  intro byte among
  rw [ascii, utf8Encode, Nat.toString_eq_repr, Nat.toList_repr] at among
  obtain ⟨character, inDigits, encoded⟩ := mem_flatMap.mp among
  have digit := Nat.isDigit_of_mem_toDigits (by decide) (by decide) inDigits
  have range : 48 ≤ character.val.toNat ∧ character.val.toNat ≤ 57 := by
    simpa [Char.isDigit, UInt32.le_iff_toNat_le] using digit
  have size : character.utf8Size = 1 := by
    have small : character.val ≤ 127 := by
      rw [UInt32.le_iff_toNat_le]
      exact range.2.trans (by decide)
    simp [Char.utf8Size, small]
  rw [String.utf8EncodeChar_eq_singleton size, mem_singleton] at encoded
  rw [encoded, IsDigit, UInt8.le_iff_toNat_le, UInt8.le_iff_toNat_le, UInt32.toNat_toUInt8]
  change 48 ≤ _ % 256 ∧ _ % 256 ≤ 57
  omega

theorem noQuote_decimal {n : Int} (nonneg : 0 ≤ n) : (39 : UInt8) ∉ ascii (toString n) := by
  obtain ⟨n, rfl⟩ := Int.eq_ofNat_of_zero_le nonneg
  exact fun among => absurd (digits_decimal n 39 among).1 (by decide)

theorem plain_appendInt (x : Int) (width : Nat) :
    (39 : UInt8) ∉ appendInt x width ∧ (92 : UInt8) ∉ appendInt x width := by
  have digit := digits_decimal x.natAbs
  have noQuote : (39 : UInt8) ∉ ascii (toString x.natAbs) :=
    fun among => absurd (digit 39 among).1 (by decide)
  have noBackslash : (92 : UInt8) ∉ ascii (toString x.natAbs) :=
    fun among => absurd (digit 92 among).2 (by decide)
  simp only [appendInt, leftpad, mem_append, mem_replicate, noQuote, noBackslash]
  split <;> simp

theorem plain_appendNano (nanosec : Int) :
    (39 : UInt8) ∉ appendNano nanosec ∧ (92 : UInt8) ∉ appendNano nanosec := by
  obtain ⟨noQuote, noBackslash⟩ := plain_appendInt nanosec 9
  have kept := ( rdropWhile_prefix (· = 48) (appendInt nanosec 9)).subset
  unfold appendNano
  split
  · simp
  · simp only [mem_cons, not_or]
    exact ⟨⟨by decide, fun among => noQuote (kept among)⟩,
      by decide, fun among => noBackslash (kept among)⟩

/-- The text of a time has nothing to escape. -/
theorem plain_ms2Time (ts : BitVec 64) : (39 : UInt8) ∉ ms2Time ts ∧ (92 : UInt8) ∉ ms2Time ts := by
  simp only [ms2Time, formatRFC3339Nano, mem_append, mem_singleton, plain_appendInt,
    plain_appendNano, or_false, false_or]
  decide

theorem lexed_plainLiteral (noQuote : (39 : UInt8) ∉ text) (noBackslash : (92 : UInt8) ∉ text) :
    Lexed ([39] ++ text ++ [39]) [.literal text] := by
  have lexed := lexed_literal text
  rwa [escapeString_of_plain noQuote noBackslash] at lexed

theorem lexed_time (ts : BitVec 64) : Lexed ([39] ++ ms2Time ts ++ [39]) [.literal (ms2Time ts)] :=
  lexed_plainLiteral (plain_ms2Time ts).1 (plain_ms2Time ts).2

theorem lexed_matcher {matcher : Matcher} (written : Backend.matcherText matcher = .ok text) :
    Lexed text matcher.pieces := by
  have same : text = ascii " and labels->" ++ (39 :: (escapeString matcher.name ++ [39])) ++
      operator matcher.type ++ (39 :: (escapeString matcher.value ++ [39])) := by
    unfold Backend.matcherText at written
    repeat' split at written
    all_goals cases written
    all_goals simp [operator, ascii, *]
    all_goals rfl
  have plainOperator : (39 : UInt8) ∉ operator matcher.type := by
    unfold operator
    repeat' split
    all_goals decide
  rw [same]
  exact (((Lexed.plain (by decide)).append (lexed_literal _)).append (.plain plainOperator)).append
    (lexed_literal _)

theorem lexed_matchers {matchers : List Matcher} {texts : List Bytes}
    (written : matchers.mapM Backend.matcherText = .ok texts) :
    Lexed texts.flatten (matchers.flatMap Matcher.pieces) := by
  induction matchers generalizing texts with
  | nil =>
    cases written
    intro rest
    simp
  | cons matcher matchers ih =>
    rw [mapM_cons] at written
    cases first : Backend.matcherText matcher with
    | error reason => simp [first, bind, Except.bind] at written
    | ok text =>
      cases others : matchers.mapM Backend.matcherText with
      | error reason => simp [first, others, bind, Except.bind] at written
      | ok following =>
        obtain rfl : text :: following = texts := by
          simpa [first, others, bind, Except.bind, pure, Except.pure] using written
        exact (lexed_matcher first).append (ih others)

theorem Backend.lexed_generateReadSql {backend : Backend} {query : Query} {sql : Bytes}
    (written : backend.generateReadSql query = .ok sql) :
    Lexed sql (backend.readPieces query) := by
  cases matchers : query.matchers.mapM Backend.matcherText with
  | error reason => simp [Backend.generateReadSql, matchers, bind, Except.bind] at written
  | ok texts =>
    have same : sql = ascii "select metrics.*,tbname from metrics where ts >= " ++
        ([39] ++ ms2Time query.startTimestampMs ++ [39]) ++ ascii " and ts <= " ++
        ([39] ++ ms2Time query.endTimestampMs ++ [39]) ++ texts.flatten ++
        backend.limitText := by
      have opening : ascii "select metrics.*,tbname from metrics where ts >= '" =
          ascii "select metrics.*,tbname from metrics where ts >= " ++ [39] := by decide
      have between : ascii "' and ts <= '" = [39] ++ ascii " and ts <= " ++ [39] := by decide
      have closing : ascii "'" = [39] := by decide
      simp only [Backend.generateReadSql, matchers, bind, Except.bind, Except.ok.injEq] at written
      rw [← written, opening, between, closing, Backend.limitText]
      simp only [append_assoc]
    have plainLimit : (39 : UInt8) ∉ backend.limitText := by
      unfold Backend.limitText
      split
      · simp only [mem_append, not_or]
        exact ⟨by decide, noQuote_decimal (by omega)⟩
      · simp
    rw [same]
    exact (((((Lexed.plain (by decide)).append (lexed_time _)).append (.plain (by decide))).append
      (lexed_time _)).append (lexed_matchers matchers)).append (.plain plainLimit)

structure Clause where
  table : Bytes
  tags : Bytes
  ttl : Int
  tuples : List (Bytes × Option Bytes)
deriving DecidableEq

def tuplePieces (tuple : Bytes × Option Bytes) : List Piece :=
  plainPieces (ascii "(") ++ [.literal tuple.1] ++ plainPieces (ascii ",") ++
    plainPieces (tuple.2.getD (ascii "null")) ++ plainPieces (ascii ") ")

def ttlText (ttl : Int) : Bytes :=
  if ttl > 0 then ascii "ttl " ++ ascii (toString ttl) ++ ascii " " else []

def Clause.pieces (clause : Clause) : List Piece :=
  plainPieces clause.table ++ plainPieces (ascii " using metrics tags(") ++
    [.literal clause.tags] ++ plainPieces (ascii ") ") ++ plainPieces (ttlText clause.ttl) ++
    plainPieces (ascii "values") ++ clause.tuples.flatMap tuplePieces

def IsStatement (sql : Bytes) (clauses : List Clause) : Prop :=
  lexPieces none sql = some (plainPieces (ascii "insert into ") ++ clauses.flatMap Clause.pieces)

def Sample.tuple (texts : Texts) (sample : Sample) : Bytes × Option Bytes :=
  (ms2Time sample.timestamp,
    if isNaN sample.value ∨ isInf sample.value then none else some (texts.float sample.value))

def TimeSeries.clause (texts : Texts) (ttl : Int) (series : TimeSeries) : Clause where
  table := tableName texts.md5Sum series.labels
  tags := texts.labelsJson (sortLabels series.labels)
  ttl := ttl
  tuples := series.samples.map (Sample.tuple texts)

variable {texts : Texts}

theorem lexed_sample (sample : Sample) :
    Lexed (writeSample texts sample) (tuplePieces (sample.tuple texts)) := by
  have same : writeSample texts sample = ascii "(" ++
      ([39] ++ ms2Time sample.timestamp ++ [39]) ++ ascii "," ++
      (sample.tuple texts).2.getD (ascii "null") ++ ascii ") " := by
    have opening : ascii "('" = ascii "(" ++ [39] := by decide
    have closing : ascii "'," = [39] ++ ascii "," := by decide
    have value : (if isNaN sample.value then ascii "null" else if isInf sample.value then
        ascii "null" else texts.float sample.value) =
          (sample.tuple texts).2.getD (ascii "null") := by
      unfold Sample.tuple
      cases isNaN sample.value <;> cases isInf sample.value <;> simp
    rw [writeSample, opening, closing, value]
    simp only [append_assoc]
  have plainValue : (39 : UInt8) ∉ (sample.tuple texts).2.getD (ascii "null") := by
    unfold Sample.tuple
    split
    · change (39 : UInt8) ∉ ascii "null"
      decide
    · exact texts.floatNoQuote _
  rw [same]
  exact ((((Lexed.plain (by decide)).append (lexed_time _)).append (.plain (by decide))).append
    (.plain plainValue)).append (.plain (by decide))

theorem noQuote_hexDigit : ∀ n < 16, hexDigit n ≠ 39 := by decide

theorem noQuote_tableName (md5Sum : Bytes → Bytes) (labels : List Label) :
    (39 : UInt8) ∉ tableName md5Sum labels := by
  rw [tableName, mem_append, not_or]
  refine ⟨by decide, fun among => ?_⟩
  obtain ⟨byte, -, digit⟩ := mem_flatMap.mp among
  have small := byte.toNat_lt
  rcases mem_pair.mp digit with same | same
  · exact noQuote_hexDigit _ (by omega) same.symm
  · exact noQuote_hexDigit _ (by omega) same.symm

theorem lexed_series (ttl : Int) (series : TimeSeries) :
    Lexed (writeSeries texts ttl series) (series.clause texts ttl).pieces := by
  have same : writeSeries texts ttl series = tableName texts.md5Sum series.labels ++
      ascii " using metrics tags(" ++
      (39 :: (escapeString (texts.labelsJson (sortLabels series.labels)) ++ [39])) ++ ascii ") " ++
      ttlText ttl ++ ascii "values" ++ series.samples.flatMap (writeSample texts) := by
    have opening : ascii " using metrics tags('" = ascii " using metrics tags(" ++ [39] := by decide
    have closing : ascii "') " = 39 :: ascii ") " := by decide
    simp [writeSeries, opening, closing, escapeBytes_eq, ttlText]
  have plainTtl : (39 : UInt8) ∉ ttlText ttl := by
    unfold ttlText
    split
    · simp only [mem_append, not_or]
      exact ⟨⟨by decide, noQuote_decimal (by omega)⟩, by decide⟩
    · simp
  have samples : Lexed (series.samples.flatMap (writeSample texts))
      ((series.clause texts ttl).tuples.flatMap tuplePieces) := by
    rw [TimeSeries.clause, flatMap_map]
    exact .flatMap fun sample _ => lexed_sample sample
  rw [same]
  exact ((((((Lexed.plain (noQuote_tableName _ _)).append (.plain (by decide))).append
    (lexed_literal _)).append (.plain (by decide))).append (.plain plainTtl)).append (.plain
    (by decide))).append samples

theorem isStatement_generateWriteSql (texts : Texts) (timeseries : List TimeSeries) (ttl : Int) :
    IsStatement (generateWriteSql texts timeseries ttl)
      (timeseries.map (TimeSeries.clause texts ttl)) := by
  rw [IsStatement, flatMap_map]
  exact ((Lexed.plain (by decide)).append (.flatMap fun series _ => lexed_series ttl
    series)).eq

/-- Escaping is undone by the lexer, and neither labels nor matchers change what the two
statements are read as outside of their own literals. -/
theorem statements_literals (texts : Texts) (backend : Backend) :
    (∀ text rest, lexPieces none (39 :: (escapeString text ++ 39 :: rest)) =
        (lexPieces none rest).map (.literal text :: ·) ∧
      lexPieces none (39 :: (escapeBytes text ++ 39 :: rest)) =
        (lexPieces none rest).map (.literal text :: ·)) ∧
    (∀ query sql, backend.generateReadSql query = .ok sql →
      lexPieces none sql = some (backend.readPieces query)) ∧
    ∀ timeseries ttl, IsStatement (generateWriteSql texts timeseries ttl)
      (timeseries.map (TimeSeries.clause texts ttl)) := by
  refine ⟨fun text rest => ?_, fun query sql written =>
    (Backend.lexed_generateReadSql written).eq, isStatement_generateWriteSql texts⟩
  rw [escapeBytes_eq]
  have read := lexed_literal text rest
  simp only [cons_append, append_assoc, nil_append] at read
  exact ⟨read, read⟩

def up : Label := ⟨ascii "__name__", ascii "up"⟩

def quoted : Label := ⟨ascii "job", ascii "a'\\b"⟩

/-- Two series: one with a NaN and a finite value, one with a finite value. -/
def scrape : List TimeSeries :=
  [⟨[quoted, up], [⟨0x7FF8000000000001, 1⟩, ⟨0, 1500⟩]⟩, ⟨[up], [⟨0, 0⟩]⟩]

theorem sortLabels_scrape : sortLabels [quoted, up] = [up, quoted] ∧ sortLabels [up] = [up] := by
  have after : ¬ quoted.key ≤ up.key := by decide +kernel
  simp [sortLabels, mergeSort, MergeSort.Internal.splitInTwo, after]

/-- The MD5 sums, the JSON texts and the float of `scrape`. -/
def scrapeTexts : Texts where
  md5Sum text :=
    if text = ascii "__name__=up" then
      [6, 95, 118, 142, 90, 165, 46, 239, 107, 235, 132, 108, 56, 50, 113, 194]
    else [107, 229, 120, 158, 237, 134, 73, 37, 142, 3, 83, 97, 223, 122, 181, 187]
  labelsJson labels :=
    if labels = [up] then ascii "\x7b\"__name__\":\"up\"\x7d"
    else ascii "\x7b\"__name__\":\"up\",\"job\":\"a'\\\\b\"\x7d"
  float _ := ascii "0"
  floatNoQuote _ := by decide

def quotedQuery : Query := ⟨0, 1500, [⟨0, ascii "'", ascii "\\"⟩]⟩

theorem quoted_texts_literals :
    ∃ sql, Backend.empty.generateReadSql quotedQuery = .ok sql ∧
      sql = ascii "select metrics.*,tbname from metrics where ts >= '1970-01-01T00:00:00Z'" ++
        ascii " and ts <= '1970-01-01T00:00:01.5Z' and labels->'\\'' = '\\\\'" ∧
      lexPieces none sql = some (Backend.empty.readPieces quotedQuery) ∧
      (scrape.map (TimeSeries.clause scrapeTexts 30)).map Clause.tags =
        [ascii "\x7b\"__name__\":\"up\",\"job\":\"a'\\\\b\"\x7d",
          ascii "\x7b\"__name__\":\"up\"\x7d"] ∧
      IsStatement (generateWriteSql scrapeTexts scrape 30)
        (scrape.map (TimeSeries.clause scrapeTexts 30)) := by
  obtain ⟨-, read, written⟩ := statements_literals scrapeTexts Backend.empty
  refine ⟨_, rfl, by decide +kernel, read quotedQuery _ rfl, ?_, written scrape 30⟩
  simp only [scrape, map_cons, map_nil, TimeSeries.clause, sortLabels_scrape]
  decide +kernel

inductive ExecError where
  | taos (code : Int)
  | other (message : String)
deriving DecidableEq

/-- What a request is answered with: `SchemalessSelectDB`, and `TaosExecWithoutResult` with the
number of statements executed before. -/
structure Executor where
  selectDB : Option ExecError
  exec : Nat → Bytes → Option ExecError

def createStable : Bytes :=
  ascii "create stable if not exists metrics(ts timestamp,v double) tags (labels json)"

variable (executor : Executor)

def processWrite (texts : Texts) (timeseries : List TimeSeries) (ttl : Int) :
    List Bytes × Option ExecError :=
  match executor.selectDB with
  | some error => ([], some error)
  | none =>
    let sql := generateWriteSql texts timeseries ttl
    match executor.exec 0 sql with
    | none => ([sql], none)
    | some (.taos code) =>
      if code = 0x2603 ∨ code = 0x0362 ∨ code = 0x0218 then
        match executor.exec 1 createStable with
        | some error => ([sql, createStable], some error)
        | none => ([sql, createStable, sql], executor.exec 2 sql)
      else ([sql], some (.taos code))
    | some error => ([sql], some error)

def write (texts : Texts) (timeseries : List TimeSeries) (ttl : Int) :
    List Bytes × Option ExecError :=
  if timeseries = [] then ([], none) else processWrite executor texts timeseries ttl

/-- The statement of the request names a table or none is executed, and every table is followed
by its tags and by one tuple at least, which are the samples of its series. -/
def WellFormedWrite (texts : Texts) (timeseries : List TimeSeries) (ttl : Int) : Prop :=
  ∃ clauses, IsStatement (generateWriteSql texts timeseries ttl) clauses ∧
    (clauses ≠ [] ∨ (write executor texts timeseries ttl).1 = []) ∧
    (∀ clause ∈ clauses, clause.tuples ≠ []) ∧
    clauses.Forall₂ (fun clause series =>
      clause.table = tableName texts.md5Sum series.labels ∧
      clause.tags = texts.labelsJson (sortLabels series.labels) ∧
      clause.tuples = series.samples.map (Sample.tuple texts)) timeseries

theorem samples_of_wellFormed {executor : Executor} {timeseries : List TimeSeries} {ttl : Int}
    (wellFormed : WellFormedWrite executor texts timeseries ttl) :
    ∀ series ∈ timeseries, series.samples ≠ [] := by
  obtain ⟨clauses, -, -, nonempty, same⟩ := wellFormed
  intro series among none
  obtain ⟨idx, inside, rfl⟩ := mem_iff_getElem.mp among
  obtain ⟨-, -, tuples⟩ := same.get (same.length_eq ▸ inside) inside
  exact nonempty _ (get_mem ..) (by rw [tuples]; simpa using none)

theorem wellFormedWrite_iff (texts : Texts) (timeseries : List TimeSeries) (ttl : Int) :
    WellFormedWrite executor texts timeseries ttl ↔
      ∀ series ∈ timeseries, series.samples ≠ [] := by
  refine ⟨samples_of_wellFormed, fun samples => ?_⟩
  refine ⟨_, isStatement_generateWriteSql texts timeseries ttl, ?_, ?_, ?_⟩
  · cases timeseries with
    | nil => exact .inr rfl
    | cons => exact .inl (by simp)
  · simpa [TimeSeries.clause] using samples
  · exact forall₂_map_left_iff.mpr (forall₂_same.mpr fun series _ => ⟨rfl, rfl, rfl⟩)

theorem scrape_wellFormed :
    generateWriteSql scrapeTexts scrape 30 = ascii "insert into " ++
      ascii "t_6be5789eed8649258e035361df7ab5bb using metrics " ++
      ascii "tags('\x7b\"__name__\":\"up\",\"job\":\"a\\'\\\\\\\\b\"\x7d') ttl 30 " ++
      ascii "values('1970-01-01T00:00:00.001Z',null) ('1970-01-01T00:00:01.5Z',0) " ++
      ascii "t_065f768e5aa52eef6beb846c383271c2 using metrics " ++
      ascii "tags('\x7b\"__name__\":\"up\"\x7d') ttl 30 " ++
      ascii "values('1970-01-01T00:00:00Z',0) " ∧
      WellFormedWrite ⟨none, fun _ _ => none⟩ scrapeTexts scrape 30 := by
  refine ⟨?_, (wellFormedWrite_iff _ _ _ _).mpr (by decide)⟩
  simp only [generateWriteSql, scrape, flatMap_cons, writeSeries, tableName, labelsText,
    sortLabels_scrape]
  decide +kernel

/-- A series without samples: the statement ends behind `values`, and it is executed. -/
theorem no_sample_malformed :
    (write ⟨none, fun _ _ => none⟩ scrapeTexts [⟨[up], []⟩] 0).1 =
      [ascii "insert into t_065f768e5aa52eef6beb846c383271c2 using metrics " ++
        ascii "tags('\x7b\"__name__\":\"up\"\x7d') values"] ∧
    ¬ WellFormedWrite ⟨none, fun _ _ => none⟩ scrapeTexts [⟨[up], []⟩] 0 := by
  refine ⟨?_, fun wellFormed => samples_of_wellFormed wellFormed ⟨[up], []⟩ (by simp) rfl⟩
  simp only [write, processWrite, generateWriteSql, flatMap_cons, writeSeries, tableName,
    labelsText, sortLabels_scrape]
  decide +kernel

end TaosAdapter.Prometheus
