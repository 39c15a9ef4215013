import Mathlib.Data.List.Forall2
import TrafficChart.Table.Rows

/-!
# Which buckets the rows of a table are

A table can be read if its header names a column for each role and the rows with a readable start
hold integers. It then has one bucket for each of these rows, in their order, and no others: what
the rows without a readable start hold does not matter. The one start that ends the reading without
a result is the least integer, whose absolute value overflows.
-/

namespace TrafficChart

section

variable {ε ε' α β : Type}

@[simp] theorem bind_eq_ok_iff {x : Except ε α} {f : α → Except ε β} {b : β} :
    (x >>= f) = .ok b ↔ ∃ a, x = .ok a ∧ f a = .ok b := by
  cases x <;> simp [bind, Except.bind]

@[simp] theorem pure_eq_ok_iff {a b : α} : (pure a : Except ε α) = .ok b ↔ a = b := by
  simp [pure, Except.pure]

@[simp] theorem pure_ne_error {a : α} {e : ε} : (pure a : Except ε α) ≠ .error e := nofun

@[simp] theorem bind_eq_error_iff {x : Except ε α} {f : α → Except ε β} {e : ε} :
    (x >>= f) = .error e ↔ x = .error e ∨ ∃ a, x = .ok a ∧ f a = .error e := by
  cases x <;> simp [bind, Except.bind]

@[simp] theorem mapError_eq_ok_iff {x : Except ε α} {f : ε → ε'} {a : α} :
    x.mapError f = .ok a ↔ x = .ok a := by
  cases x <;> simp [Except.mapError]

@[simp] theorem mapError_eq_error_iff {x : Except ε α} {f : ε → ε'} {e : ε'} :
    x.mapError f = .error e ↔ ∃ cause, x = .error cause ∧ f cause = e := by
  cases x <;> simp [Except.mapError]

end

/-! ## Instants -/

theorem ofCount_minValue : ofCount Int64.minValue = .error .negation := by rfl

theorem ofCount_of_ne {n : Int64} (h : n ≠ Int64.minValue) : ∃ t, ofCount n = .ok t := by
  have hsize : InRange n.toInt.natAbs := by
    rw [ne_eq, ← Int64.toInt_inj, Int64.toInt_minValue] at h
    have := n.le_toInt
    have := n.toInt_lt
    simp only [InRange]
    omega
  rw [ofCount, word64_of_inRange _ hsize]
  simp only [bind, Except.bind]
  split
  · rename_i hsmall
    -- A count of seconds is too small for its milliseconds to overflow.
    rw [Int64.lt_iff_toInt_lt, toInt_clampInt64_of_inRange hsize] at hsmall
    have hsecond : oneSecond.toInt = 1000 := rfl
    have hlimit : (100000000000 : Int64).toInt = 100000000000 := rfl
    have hrange : InRange (n.toInt * oneSecond.toInt) := by
      rw [InRange, hsecond]
      omega
    exact ⟨_, word64_of_inRange _ hrange⟩
  · exact ⟨n, rfl⟩

theorem ofCount_eq_error_iff {n : Int64} {e : Overflow} :
    ofCount n = .error e ↔ e = .negation ∧ n = Int64.minValue := by
  by_cases h : n = Int64.minValue
  · simp [h, ofCount_minValue, eq_comm]
  · obtain ⟨t, ht⟩ := ofCount_of_ne h
    simp [h, ht]

theorem readInstant_eq_error_iff (readDate : String → Option Int64) {text : String} {e : Overflow} :
    readInstant readDate text = .error e ↔
      e = .negation ∧ Decimal.readInt64 text = .ok Int64.minValue := by
  unfold readInstant
  by_cases htext : text.isEmpty
  · have hread : Decimal.readInt64 text = .error .empty := by
      rw [String.isEmpty_iff.1 htext]
      rfl
    simp [htext, hread]
  · simp only [htext]
    cases Decimal.readInt64 text with
    | error _ => simp
    | ok n =>
      have hmap : (ofCount n).map some = .error e ↔ ofCount n = .error e := by
        cases ofCount n <;> simp [Except.map]
      simp [hmap, ofCount_eq_error_iff]

namespace Table

variable {header : List String} {rows : List (List String)} {c : Columns}

/-! ## Columns -/

/-- The first column with a name of the role, without regard to its case and to blanks around
it. -/
def FirstNamed (header : List String) (role : Role) (i : Nat) : Prop :=
  ∃ h : i < header.length, normalName header[i] ∈ role.names ∧
    ∀ j, ∀ hj : j < i, normalName header[j] ∉ role.names

namespace Columns

/-- The column of a role. -/
def index (c : Columns) : Role → Nat
  | .start => c.start
  | .duration => c.duration
  | .rx => c.rx
  | .tx => c.tx

/-- The columns of a header. -/
def Of (c : Columns) (header : List String) : Prop := ∀ role, FirstNamed header role (c.index role)

end Columns

theorem column_eq_ok_iff {role : Role} {i : Nat} :
    column header role = .ok i ↔ FirstNamed header role i := by
  have hfind : header.findIdx? (fun name => role.names.contains (normalName name)) = some i ↔
      FirstNamed header role i := by
    simp [List.findIdx?_eq_some_iff_getElem, FirstNamed]
  rw [← hfind, column]
  cases header.findIdx? fun name => role.names.contains (normalName name) <;> simp

theorem columns_eq_ok_iff : columns header = .ok c ↔ c.Of header := by
  obtain ⟨start, duration, rx, tx⟩ := c
  simp only [columns, bind_eq_ok_iff, pure_eq_ok_iff, column_eq_ok_iff, Columns.mk.injEq]
  constructor
  · rintro ⟨_, hstart, _, hduration, _, hrx, _, htx, rfl, rfl, rfl, rfl⟩ role
    cases role with
    | start => exact hstart
    | duration => exact hduration
    | rx => exact hrx
    | tx => exact htx
  · intro h
    exact ⟨_, h .start, _, h .duration, _, h .rx, _, h .tx, rfl, rfl, rfl, rfl⟩

/-! ## One row -/

variable {readDate : String → Option Int64}

/-- The rows that are not left out: all but those without a readable start. -/
def dated (readDate : String → Option Int64) (c : Columns) (rows : List (List String)) :
    List (List String) :=
  rows.filter fun fields => readInstant readDate (cell fields c.start) ≠ .ok none

/-- The cells of the row say what the bucket holds. -/
structure Reads (readDate : String → Option Int64) (c : Columns) (fields : List String)
    (b : Bucket) : Prop where
  start : readInstant readDate (cell fields c.start) = .ok (some b.start)
  duration : Decimal.readInt64 (cell fields c.duration) = .ok b.duration
  rx : Decimal.readUInt64 (cell fields c.rx) = .ok b.rx
  tx : Decimal.readUInt64 (cell fields c.tx) = .ok b.tx

variable {row : Nat} {fields : List String} {b : Bucket} {buckets : List Bucket}

theorem readRow_of_undated (h : readInstant readDate (cell fields c.start) = .ok none)
    (row : Nat) : readRow readDate c row fields = .ok none := by
  simp [readRow, h]

theorem readRow_of_dated (h : readInstant readDate (cell fields c.start) ≠ .ok none)
    {found : Option Bucket} :
    readRow readDate c row fields = .ok found ↔
      ∃ b, Reads readDate c fields b ∧ found = some b := by
  simp only [readRow, integer, bind_eq_ok_iff, mapError_eq_ok_iff]
  constructor
  · rintro ⟨start, hstart, hcells⟩
    cases start with
    | none => exact absurd hstart h
    | some start =>
      simp only [bind_eq_ok_iff, pure_eq_ok_iff, mapError_eq_ok_iff] at hcells
      obtain ⟨duration, hduration, rx, hrx, tx, htx, rfl⟩ := hcells
      exact ⟨⟨start, duration, rx, tx⟩, ⟨hstart, hduration, hrx, htx⟩, rfl⟩
  · rintro ⟨b, hb, rfl⟩
    refine ⟨some b.start, hb.start, ?_⟩
    simp only [hb.duration, hb.rx, hb.tx, Except.mapError, bind_eq_ok_iff, pure_eq_ok_iff]
    exact ⟨_, rfl, _, rfl, _, rfl, rfl⟩

theorem integer_ne_overflow {α : Type} {role : Role} {read : Except Decimal.NumeralError α}
    {e : Overflow} : integer row role read ≠ .error (.overflow e) := by
  simp [integer]

/-- Only a start can overflow. -/
theorem readRow_eq_overflow_iff {e : Overflow} :
    readRow readDate c row fields = .error (.overflow e) ↔
      e = .negation ∧ Decimal.readInt64 (cell fields c.start) = .ok Int64.minValue := by
  rw [← readInstant_eq_error_iff readDate]
  cases h : readInstant readDate (cell fields c.start) with
  | error e' => simp [readRow, h]
  | ok start =>
    cases start with
    | none => simp [readRow, h, -pure_bind]
    | some start =>
      simp only [readRow, h, Except.mapError, bind_eq_error_iff, Except.ok.injEq, exists_eq_left',
        integer_ne_overflow, pure_ne_error, reduceCtorEq, and_false, exists_false, or_false]

/-! ## All rows -/

theorem dated_cons_of_undated (h : readInstant readDate (cell fields c.start) = .ok none) :
    dated readDate c (fields :: rows) = dated readDate c rows := by
  simp [dated, h]

theorem dated_cons_of_dated (h : readInstant readDate (cell fields c.start) ≠ .ok none) :
    dated readDate c (fields :: rows) = fields :: dated readDate c rows := by
  simp [dated, h]

/-- The numbers of the rows show in refusals only. -/
theorem bucketsFrom_eq_ok_iff (row : Nat) :
    bucketsFrom readDate c row rows = .ok buckets ↔
      List.Forall₂ (Reads readDate c) (dated readDate c rows) buckets := by
  induction rows generalizing row buckets with
  | nil => simp [bucketsFrom, dated, eq_comm]
  | cons fields rows ih =>
    simp only [bucketsFrom, bind_eq_ok_iff, pure_eq_ok_iff, ih]
    by_cases h : readInstant readDate (cell fields c.start) = .ok none
    · simp [readRow_of_undated h, dated_cons_of_undated h]
    · simp only [readRow_of_dated h, dated_cons_of_dated h, List.forall₂_cons_left_iff]
      constructor
      · rintro ⟨_, ⟨b, hb, rfl⟩, others, hothers, rfl⟩
        exact ⟨b, others, hb, hothers, rfl⟩
      · rintro ⟨b, others, hb, hothers, rfl⟩
        exact ⟨_, ⟨b, hb, rfl⟩, others, hothers, rfl⟩

theorem bucketsOfRows_eq_ok_iff :
    bucketsOfRows readDate header rows = .ok buckets ↔
      ∃ c : Columns, c.Of header ∧
        List.Forall₂ (Reads readDate c) (dated readDate c rows) buckets := by
  simp only [bucketsOfRows, bind_eq_ok_iff, mapError_eq_ok_iff, columns_eq_ok_iff,
    bucketsFrom_eq_ok_iff]

/-! ## Overflow -/

/-- A row starts at the least integer, and all rows before it can be read. -/
def Overflows (readDate : String → Option Int64) (c : Columns) (rows : List (List String)) : Prop :=
  ∃ older fields newer, rows = older ++ fields :: newer ∧
    (∃ buckets, List.Forall₂ (Reads readDate c) (dated readDate c older) buckets) ∧
    Decimal.readInt64 (cell fields c.start) = .ok Int64.minValue

theorem readable_cons_iff (row : Nat) :
    (∃ buckets, List.Forall₂ (Reads readDate c) (dated readDate c (fields :: rows)) buckets) ↔
      (∃ found, readRow readDate c row fields = .ok found) ∧
        ∃ buckets, List.Forall₂ (Reads readDate c) (dated readDate c rows) buckets := by
  constructor
  · rintro ⟨buckets, hbuckets⟩
    rw [← bucketsFrom_eq_ok_iff row] at hbuckets
    simp only [bucketsFrom, bind_eq_ok_iff] at hbuckets
    obtain ⟨found, hfound, others, hothers, -⟩ := hbuckets
    exact ⟨⟨found, hfound⟩, others, (bucketsFrom_eq_ok_iff _).1 hothers⟩
  · rintro ⟨⟨found, hfound⟩, others, hothers⟩
    rw [← bucketsFrom_eq_ok_iff (row + 1)] at hothers
    refine ⟨found.toList ++ others, (bucketsFrom_eq_ok_iff row).1 ?_⟩
    simp only [bucketsFrom, bind_eq_ok_iff, pure_eq_ok_iff]
    exact ⟨found, hfound, others, hothers, rfl⟩

theorem overflows_cons_iff (row : Nat) :
    Overflows readDate c (fields :: rows) ↔
      Decimal.readInt64 (cell fields c.start) = .ok Int64.minValue ∨
        (∃ found, readRow readDate c row fields = .ok found) ∧ Overflows readDate c rows := by
  simp only [Overflows, List.cons_eq_append_iff]
  constructor
  · rintro ⟨older, fields', newer, ⟨rfl, hnewer⟩ | ⟨older, rfl, rfl⟩, hread, hleast⟩
    · obtain ⟨rfl, rfl⟩ := List.cons.inj hnewer
      exact .inl hleast
    · obtain ⟨hfound, hread⟩ := (readable_cons_iff row).1 hread
      exact .inr ⟨hfound, older, fields', newer, rfl, hread, hleast⟩
  · rintro (hleast | ⟨hfound, older, fields', newer, rfl, hread, hleast⟩)
    · exact ⟨[], fields, rows, .inl ⟨rfl, rfl⟩, ⟨[], .nil⟩, hleast⟩
    · exact ⟨fields :: older, fields', newer, .inr ⟨older, rfl, rfl⟩,
        (readable_cons_iff row).2 ⟨hfound, hread⟩, hleast⟩

theorem bucketsFrom_eq_overflow_iff {e : Overflow} :
    bucketsFrom readDate c row rows = .error (.overflow e) ↔
      e = .negation ∧ Overflows readDate c rows := by
  induction rows generalizing row with
  | nil => simp [bucketsFrom, Overflows]
  | cons fields rows ih =>
    rw [overflows_cons_iff row]
    simp only [bucketsFrom, bind_eq_error_iff, readRow_eq_overflow_iff, ih, pure_ne_error]
    grind

theorem bucketsOfRows_eq_overflow_iff {e : Overflow} :
    bucketsOfRows readDate header rows = .error (.overflow e) ↔
      e = .negation ∧ ∃ c : Columns, c.Of header ∧ Overflows readDate c rows := by
  simp only [bucketsOfRows, bind_eq_error_iff, mapError_eq_error_iff, mapError_eq_ok_iff,
    columns_eq_ok_iff, bucketsFrom_eq_overflow_iff]
  grind

end Table

end TrafficChart
