import TaosAdapter.Prometheus.Write
import Mathlib.Data.List.Nodup

/-!
Owns: when the name of a table tells its label set from every other one.

The name does not depend on the order of the labels. The text that is hashed
joins names and values without quoting them, so two labels read as one label
whose value contains the other one: a label set with two labels or more always
shares its table with another set.
-/

namespace TaosAdapter.Prometheus

open Lib List

structure LabelSet where
  labels : List Label
  distinct : (labels.map Label.name).Nodup

structure Digest where
  sum : Bytes → Bytes
  injective : Function.Injective sum

def OwnTable (digest : Digest) (set : LabelSet) : Prop :=
  (∀ order : List Label, order.Perm set.labels →
    tableName digest.sum order = tableName digest.sum set.labels) ∧
  ∀ other : LabelSet, ¬ other.labels.Perm set.labels →
    tableName digest.sum other.labels ≠ tableName digest.sum set.labels

def AtMostOnePlainLabel (set : LabelSet) : Prop :=
  set.labels = [] ∨ ∃ label, set.labels = [label] ∧ 61 ∉ label.name ∧ 61 ∉ label.value

theorem hexDigit_injective {m n : Nat} (small : m < 16) (smallOther : n < 16)
    (same : hexDigit m = hexDigit n) : m = n := by
  have all : ∀ first < 16, ∀ second < 16, hexDigit first = hexDigit second → first = second := by
    decide
  exact all m small n smallOther same

theorem hexText_injective : Function.Injective hexText := by
  intro first
  induction first with
  | nil =>
    intro second same
    cases second with
    | nil => rfl
    | cons byte second => simp [hexText] at same
  | cons byte first ih =>
    intro second same
    cases second with
    | nil => simp [hexText] at same
    | cons other second =>
      simp only [hexText, flatMap_cons, cons_append, nil_append, List.cons.injEq] at same
      obtain ⟨high, low, rest⟩ := same
      have small := byte.toNat_lt
      have smallOther := other.toNat_lt
      have sameHigh := hexDigit_injective (by omega) (by omega) high
      have sameLow := hexDigit_injective (by omega) (by omega) low
      have sameByte : byte = other := UInt8.toNat_inj.mp (by omega)
      rw [sameByte, ih rest]

theorem tableName_eq_iff (digest : Digest) (first second : List Label) :
    tableName digest.sum first = tableName digest.sum second ↔
      labelsText first = labelsText second := by
  rw [tableName, tableName, append_cancel_left_eq, hexText_injective.eq_iff,
    digest.injective.eq_iff]

theorem Label.name_eq_of_key {first second : Label} (same : first.key = second.key) :
    first.name = second.name :=
  map_injective_iff.mpr (fun _ _ => UInt8.toNat_inj.mp) same

theorem pairwise_sortLabels (labels : List Label) :
    (sortLabels labels).Pairwise fun first second => first.key ≤ second.key := by
  have sorted : (sortLabels labels).Pairwise fun first second =>
      decide (first.key ≤ second.key) = true := by
    refine pairwise_mergeSort (fun first second third => ?_) (fun first second => ?_) labels
    · simpa using le_trans
    · simpa using le_total first.key second.key
  exact sorted.imp (by simp)

theorem sortLabels_perm (labels : List Label) : (sortLabels labels).Perm labels :=
  mergeSort_perm labels _

theorem eq_of_sorted {first second : List Label} (distinct : (second.map Label.name).Nodup)
    (perm : first.Perm second) (sorted : first.Pairwise fun a b => a.key ≤ b.key)
    (sortedOther : second.Pairwise fun a b => a.key ≤ b.key) : first = second := by
  refine List.Perm.eq_of_pairwise (fun a b isFirst isSecond le ge => ?_) sorted sortedOther perm
  have sameName := Label.name_eq_of_key (le_antisymm le ge)
  exact inj_on_of_nodup_map distinct (perm.mem_iff.mp isFirst) isSecond sameName

variable {labels order : List Label}

section

variable (distinct : (labels.map Label.name).Nodup)

include distinct

theorem sortLabels_congr (perm : order.Perm labels) : sortLabels order = sortLabels labels := by
  apply eq_of_sorted
  · exact (((sortLabels_perm labels).map Label.name).nodup_iff).mpr distinct
  · exact ((sortLabels_perm order).trans perm).trans (sortLabels_perm labels).symm
  · exact pairwise_sortLabels order
  · exact pairwise_sortLabels labels

theorem sortLabels_of_sorted
    (sorted : labels.Pairwise fun a b => a.key ≤ b.key) : sortLabels labels = labels :=
  eq_of_sorted distinct (sortLabels_perm labels) (pairwise_sortLabels labels) sorted

theorem labelsText_congr (perm : order.Perm labels) : labelsText order = labelsText labels := by
  rw [labelsText, labelsText, sortLabels_congr distinct perm]

end

def merged (first second : Label) : Label :=
  ⟨first.name, first.value ++ 44 :: second.text⟩

theorem joined_merged (first second : Label) (labels : List Label) :
    joined ((merged first second :: labels).map Label.text) =
      joined ((first :: second :: labels).map Label.text) := by
  have whole : (merged first second).text = first.text ++ 44 :: second.text := by
    simp [merged, Label.text]
  cases labels with
  | nil | cons => simp [joined, whole]

theorem exists_merged (set : LabelSet) (several : 2 ≤ set.labels.length) :
    ∃ other : LabelSet, ¬ other.labels.Perm set.labels ∧
      labelsText other.labels = labelsText set.labels := by
  have perm := sortLabels_perm set.labels
  have sorted := pairwise_sortLabels set.labels
  have distinct := ((perm.map Label.name).nodup_iff).mpr set.distinct
  rw [← perm.length_eq] at several
  rw [labelsText.eq_1 set.labels]
  generalize sortLabels set.labels = labels at perm sorted distinct several ⊢
  obtain ⟨first, second, labels, rfl⟩ : ∃ first second rest, labels = first :: second :: rest := by
    match labels, several with
    | first :: second :: rest, _ => exact ⟨first, second, rest, rfl⟩
  have keepsNames : ((merged first second :: labels).map Label.name).Nodup :=
    distinct.sublist (by simp [merged])
  have keepsOrder : (merged first second :: labels).Pairwise fun a b => a.key ≤ b.key := by
    rw [pairwise_cons] at sorted ⊢
    exact ⟨fun label mem => sorted.1 label (mem_cons_of_mem _ mem), (pairwise_cons.mp sorted.2).2⟩
  refine ⟨⟨merged first second :: labels, keepsNames⟩, ?_, ?_⟩
  · intro same
    have lengths := (same.trans perm.symm).length_eq
    simp at lengths
  · rw [labelsText, sortLabels_of_sorted keepsNames keepsOrder, joined_merged]

theorem labelsText_nil : labelsText [] = [] := by
  rw [labelsText, sortLabels_of_sorted (by simp) (by simp)]
  rfl

theorem labelsText_singleton (label : Label) : labelsText [label] = label.text := by
  rw [labelsText, sortLabels_of_sorted (by simp) (by simp)]
  rfl

theorem exists_cut (label : Label) (equals : 61 ∈ label.name ∨ 61 ∈ label.value) :
    ∃ other : Label, other ≠ label ∧ other.text = label.text := by
  obtain ⟨name, value⟩ := label
  rcases equals with inName | inValue
  · obtain ⟨before, after, shape⟩ := append_of_mem inName
    refine ⟨⟨before, after ++ 61 :: value⟩, ?_, ?_⟩
    · intro same
      have lengths := congrArg (fun label : Label => label.name.length) same
      simp only at shape lengths
      simp only [shape, length_append, length_cons] at lengths
      omega
    · simp only at shape
      simp [Label.text, shape]
  · obtain ⟨before, after, shape⟩ := append_of_mem inValue
    refine ⟨⟨name ++ 61 :: before, after⟩, ?_, ?_⟩
    · intro same
      have lengths := congrArg (fun label : Label => label.name.length) same
      simp only [length_append, length_cons] at lengths
      omega
    · simp only at shape
      simp [Label.text, shape]

theorem length_le_count (labels : List Label) :
    labels.length ≤ (joined (labels.map Label.text)).count 61 := by
  induction labels with
  | nil => simp
  | cons label labels ih =>
    have own : 1 ≤ label.text.count 61 := by
      rw [Nat.one_le_iff_ne_zero, ← Nat.pos_iff_ne_zero, count_pos_iff]
      simp [Label.text]
    cases labels with
    | nil => simpa [joined] using own
    | cons next labels =>
      rw [map_cons, joined_cons _ (by simp), count_append,
        count_cons_of_ne (by decide), length_cons]
      omega

theorem text_injective {label other : Label} (plainName : 61 ∉ label.name)
    (plainValue : 61 ∉ label.value) (same : other.text = label.text) : other = label := by
  have counts := congrArg (List.count 61) same
  simp only [Label.text, count_append, count_cons_self,
    count_eq_zero_of_not_mem plainName, count_eq_zero_of_not_mem plainValue] at counts
  have otherName : 61 ∉ other.name := count_eq_zero.mp (by omega)
  have otherValue : 61 ∉ other.value := count_eq_zero.mp (by omega)
  obtain ⟨sameName, _, sameValue⟩ := (append_cons_inj_of_notMem otherName otherValue).mp same
  obtain ⟨name, value⟩ := other
  exact congrArg₂ Label.mk sameName sameValue

variable {set : LabelSet}

theorem ownText_of_plain {other : LabelSet} (plain : AtMostOnePlainLabel set)
    (same : labelsText other.labels = labelsText set.labels) : other.labels.Perm set.labels := by
  have count := length_le_count (sortLabels other.labels)
  rw [(sortLabels_perm other.labels).length_eq] at count
  have text : joined ((sortLabels other.labels).map Label.text) = labelsText set.labels := same
  rw [text] at count
  rcases plain with none | ⟨label, one, plainName, plainValue⟩
  · rw [none] at count ⊢
    rw [labelsText_nil, count_nil] at count
    rw [eq_nil_of_length_eq_zero (Nat.le_zero.mp count)]
  · rw [one, labelsText_singleton] at count same
    have once : label.text.count 61 = 1 := by
      simp [Label.text, count_append, count_eq_zero_of_not_mem plainName,
        count_eq_zero_of_not_mem plainValue]
    rw [once] at count
    match shape : other.labels, count with
    | [], _ =>
      rw [shape, labelsText_nil] at same
      exact absurd same.symm (by simp [Label.text])
    | [only], _ =>
      rw [shape, labelsText_singleton] at same
      rw [one, text_injective plainName plainValue same]
    | _ :: _ :: _, tooMany =>
      simp at tooMany

theorem exists_sharing (notPlain : ¬ AtMostOnePlainLabel set) :
    ∃ other : LabelSet, ¬ other.labels.Perm set.labels ∧
      labelsText other.labels = labelsText set.labels := by
  obtain ⟨labels, distinct⟩ := set
  match labels with
  | [] => exact absurd (.inl rfl) notPlain
  | [label] =>
    have equals : 61 ∈ label.name ∨ 61 ∈ label.value := by
      by_contra plain
      obtain ⟨plainName, plainValue⟩ := not_or.mp plain
      exact notPlain (.inr ⟨label, rfl, plainName, plainValue⟩)
    obtain ⟨other, ne, sameText⟩ := exists_cut label equals
    refine ⟨⟨[other], by simp⟩, ?_, ?_⟩
    · simpa using ne
    · simpa only [labelsText_singleton] using sameText
  | first :: second :: labels => exact exists_merged ⟨first :: second :: labels, distinct⟩ (by simp)

/-- A label set has a table of its own exactly if it has at most one label, and no equals sign
in that label. -/
theorem own_table_iff (digest : Digest) (set : LabelSet) :
    OwnTable digest set ↔ AtMostOnePlainLabel set := by
  constructor
  · rintro ⟨_, own⟩
    by_contra notPlain
    obtain ⟨other, different, sameText⟩ := exists_sharing notPlain
    exact own other different ((tableName_eq_iff digest _ _).mpr sameText)
  · intro plain
    refine ⟨fun order perm => ?_, fun other different same => different ?_⟩
    · exact (tableName_eq_iff digest _ _).mpr (labelsText_congr set.distinct perm)
    · exact ownText_of_plain plain ((tableName_eq_iff digest _ _).mp same)

def twoLabels : LabelSet where
  labels := [⟨ascii "a", ascii "1"⟩, ⟨ascii "b", ascii "2"⟩]
  distinct := by decide

theorem two_series_one_table : ¬ OwnTable ⟨id, Function.injective_id⟩ twoLabels := by
  rintro ⟨_, own⟩
  refine own ⟨[⟨ascii "a", ascii "1,b=2"⟩], by decide⟩ ?_ ((tableName_eq_iff _ _ _).mpr ?_)
  · intro perm
    exact absurd perm.length_eq (by decide)
  · rw [labelsText, labelsText, sortLabels_of_sorted, sortLabels_of_sorted]
    all_goals decide

end TaosAdapter.Prometheus
