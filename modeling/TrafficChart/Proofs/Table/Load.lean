import Mathlib.Data.List.Forall2
import TrafficChart.Proofs.History.Acceptance
import TrafficChart.Proofs.Table.CommonDuration
import TrafficChart.Proofs.Table.Rows
import TrafficChart.Table.Load

/-!
# Which history a table yields

The buckets of a table are sorted by their starts, and those with the same start keep the order of
their rows. Only one order does both. If no two rows have the same start, the order of the rows does
not matter at all, as the common duration does not depend on it either.

A start that overflows is the one thing that leaves a table without any answer.
-/

namespace TrafficChart.Table

variable {buckets buckets' sorted sorted' : List Bucket}

/-! ## Sorting -/

/-- The same buckets in order of their starts. Those with the same start are in the order given. -/
structure StablySorted (buckets sorted : List Bucket) : Prop where
  perm : sorted.Perm buckets
  starts : sorted.Pairwise fun a b => a.start ≤ b.start
  stable : ∀ t, sorted.filter (·.start = t) = buckets.filter (·.start = t)

theorem stablySorted_inOrder (buckets : List Bucket) : StablySorted buckets (inOrder buckets) := by
  have htrans (a b c : Bucket) (hab : decide (a.start ≤ b.start) = true)
      (hbc : decide (b.start ≤ c.start) = true) : decide (a.start ≤ c.start) = true := by
    simp only [decide_eq_true_eq] at *
    exact Int64.le_trans hab hbc
  have htotal (a b : Bucket) :
      (decide (a.start ≤ b.start) || decide (b.start ≤ a.start)) = true := by
    simpa using Int64.le_total a.start b.start
  refine ⟨inOrder_perm buckets, ?_, ?_⟩
  · simpa [inOrder] using List.pairwise_mergeSort htrans htotal buckets
  · intro t
    -- Buckets with the same start are in order already, so sorting keeps them as they are.
    have hsame : (buckets.filter (·.start = t)).Pairwise fun a b =>
        decide (a.start ≤ b.start) = true := by
      refine List.pairwise_of_forall_mem_list fun a ha b hb => ?_
      simp_all
    have hsub := List.sublist_mergeSort htrans htotal hsame List.filter_sublist
    replace hsub := hsub.filter (·.start = t)
    simp only [List.filter_filter, Bool.and_self] at hsub
    exact (hsub.eq_of_length ((inOrder_perm buckets).filter _).length_eq.symm).symm

theorem start_le_of_mem {a b : Bucket} {others : List Bucket}
    (hs : (a :: others).Pairwise fun a b => a.start ≤ b.start) (hb : b ∈ a :: others) :
    a.start ≤ b.start := by
  rcases List.mem_cons.1 hb with rfl | hb
  · exact Int64.le_refl _
  · exact List.rel_of_pairwise_cons hs hb

/-- Buckets in order are determined by those of each start. -/
theorem eq_of_filter_start_eq (hs : sorted.Pairwise fun a b => a.start ≤ b.start)
    (hs' : sorted'.Pairwise fun a b => a.start ≤ b.start)
    (h : ∀ t, sorted.filter (·.start = t) = sorted'.filter (·.start = t)) : sorted = sorted' := by
  induction sorted generalizing sorted' with
  | nil =>
    cases sorted' with
    | nil => rfl
    | cons b bs => simpa using h b.start
  | cons a as ih =>
    cases sorted' with
    | nil => simpa using h a.start
    | cons b bs =>
      have hmem (d : Bucket) : d ∈ a :: as ↔ d ∈ b :: bs := by
        have hd : d ∈ (a :: as).filter (·.start = d.start) ↔
          d ∈ (b :: bs).filter (·.start = d.start) := by rw [h]
        simpa using hd
      have hba : b.start ≤ a.start := start_le_of_mem hs' ((hmem a).1 List.mem_cons_self)
      have hab : a.start ≤ b.start := start_le_of_mem hs ((hmem b).2 List.mem_cons_self)
      have hstart : a.start = b.start := Int64.le_antisymm hab hba
      obtain rfl : a = b := by
        have hfirst := h b.start
        simp only [List.filter_cons, hstart, decide_true, if_true, List.cons.injEq] at hfirst
        exact hfirst.1
      have hrest (t : Int64) : as.filter (·.start = t) = bs.filter (·.start = t) := by
        have hall := h t
        simp only [List.filter_cons] at hall
        split at hall
        · exact List.tail_eq_of_cons_eq hall
        · exact hall
      rw [ih hs.of_cons hs'.of_cons hrest]

theorem StablySorted.unique (h : StablySorted buckets sorted) (h' : StablySorted buckets sorted') :
    sorted = sorted' :=
  eq_of_filter_start_eq h.starts h'.starts fun t => (h.stable t).trans (h'.stable t).symm

/-- If all starts differ, buckets have one order only. -/
theorem eq_of_perm_of_nodup (hs : sorted.Pairwise fun a b => a.start ≤ b.start)
    (hs' : sorted'.Pairwise fun a b => a.start ≤ b.start) (h : sorted.Perm sorted')
    (hd : (sorted.map Bucket.start).Nodup) : sorted = sorted' := by
  refine List.Perm.eq_of_pairwise ?_ hs hs' h
  intro a b ha hb hab hba
  exact List.inj_on_of_nodup_map hd ha (h.mem_iff.2 hb) (Int64.le_antisymm hab hba)

theorem inOrder_eq_of_perm (h : buckets.Perm buckets') (hd : (buckets.map Bucket.start).Nodup) :
    inOrder buckets = inOrder buckets' := by
  have hs := stablySorted_inOrder buckets
  have hs' := stablySorted_inOrder buckets'
  exact eq_of_perm_of_nodup hs.starts hs'.starts ((hs.perm.trans h).trans hs'.perm.symm)
    ((hs.perm.map Bucket.start).nodup_iff.2 hd)

/-! ## The history -/

variable {readTable : List UInt8 → Except Csv.Fault Csv.Document}
  {readDate : String → Option Int64}
variable {h : History} {header : List String} {rows rows' : List (List String)} {c : Columns}

theorem historyOf_eq_ok_iff :
    historyOf buckets = .ok h ↔
      StablySorted buckets h.toList ∧
        History.ofBuckets (nominalLength h.toList) h.toList = .ok h := by
  have hlength := nominalLength_perm (inOrder_perm buckets)
  simp only [historyOf, mapError_eq_ok_iff]
  constructor
  · intro hok
    have hlist : h.toList = inOrder buckets := by
      obtain ⟨-, -, rfl⟩ := History.ofBuckets_eq_ok_iff.1 hok
      simp [History.toList]
    rw [hlist, hlength]
    exact ⟨stablySorted_inOrder buckets, hok⟩
  · rintro ⟨hs, hok⟩
    have hlist : h.toList = inOrder buckets := hs.unique (stablySorted_inOrder buckets)
    rwa [hlist, hlength] at hok

theorem historyOf_eq_of_perm (h : buckets.Perm buckets') (hd : (buckets.map Bucket.start).Nodup) :
    historyOf buckets = historyOf buckets' := by
  rw [historyOf, historyOf, inOrder_eq_of_perm h hd, nominalLength_perm h]

theorem ofRows_eq_ok_iff :
    ofRows readDate header rows = .ok h ↔
      ∃ c : Columns, c.Of header ∧
        ∃ buckets, List.Forall₂ (Reads readDate c) (dated readDate c rows) buckets ∧
          historyOf buckets = .ok h := by
  simp only [ofRows, bind_eq_ok_iff, mapError_eq_ok_iff, bucketsOfRows_eq_ok_iff]
  grind

theorem ofRows_eq_overflow_iff {e : Overflow} :
    ofRows readDate header rows = .error (.overflow e) ↔
      e = .negation ∧ ∃ c : Columns, c.Of header ∧ Overflows readDate c rows := by
  simp [ofRows, bucketsOfRows_eq_overflow_iff]

/-- A file without fault yields the history of its table. -/
theorem load_eq_ofRows {bytes : List UInt8}
    (hbytes : readTable bytes = .ok ⟨header, rows, none⟩) :
    load readTable readDate bytes = ofRows readDate header rows := by
  simp [load, hbytes, ofRows, Except.mapError, bind, Except.bind]

/-! ## Rows in another order -/

/-- The start of a row, if it can be read. -/
def startOf (readDate : String → Option Int64) (c : Columns) (fields : List String) :
    Option Int64 :=
  (readInstant readDate (cell fields c.start)).toOption.join

/-- No two rows have the same start. -/
def DistinctStarts (readDate : String → Option Int64) (c : Columns) (rows : List (List String)) :
    Prop :=
  (rows.filterMap (startOf readDate c)).Nodup

theorem filterMap_startOf_dated :
    (dated readDate c rows).filterMap (startOf readDate c) =
      rows.filterMap (startOf readDate c) := by
  rw [dated, List.filterMap_filter]
  refine List.filterMap_congr fun fields _ => ?_
  by_cases h : readInstant readDate (cell fields c.start) = .ok none
  · simp [h, startOf, Except.toOption]
  · simp [h]

theorem filterMap_startOf_of_reads {rows : List (List String)}
    (h : List.Forall₂ (Reads readDate c) rows buckets) :
    rows.filterMap (startOf readDate c) = buckets.map Bucket.start := by
  induction h with
  | nil => rfl
  | cons hb _ ih => simp [startOf, hb.start, ih, Except.toOption]

theorem ofRows_of_perm (hperm : rows.Perm rows')
    (hd : ∀ c : Columns, c.Of header → DistinctStarts readDate c rows)
    (hok : ofRows readDate header rows' = .ok h) : ofRows readDate header rows = .ok h := by
  obtain ⟨c, hc, buckets', hreads', hok⟩ := ofRows_eq_ok_iff.1 hok
  have hdated : (dated readDate c rows).Perm (dated readDate c rows') := hperm.filter _
  obtain ⟨buckets, hreads, hbuckets⟩ := List.perm_comp_forall₂ hdated hreads'
  have hstarts : (buckets.map Bucket.start).Nodup := by
    rw [← filterMap_startOf_of_reads hreads, filterMap_startOf_dated]
    exact hd c hc
  rw [← historyOf_eq_of_perm hbuckets hstarts] at hok
  exact ofRows_eq_ok_iff.2 ⟨c, hc, buckets, hreads, hok⟩

/-- A file without fault yields the history of its table. A table has a history if its header names
a column for each role, each row with a readable start is a bucket, and the buckets, sorted by their
starts, are accepted under their common duration; it holds these and no others. Rows without a
readable start do not matter. Nor does the order of the rows, if all readable starts differ. A table
is neither read nor refused only if the least integer is the start of a row, and all rows before it
can be read. -/
theorem ofRows_of_any_order (readTable : List UInt8 → Except Csv.Fault Csv.Document)
    (readDate : String → Option Int64) (header : List String) (rows : List (List String)) :
    (∀ bytes, readTable bytes = .ok ⟨header, rows, none⟩ →
      load readTable readDate bytes = ofRows readDate header rows) ∧
    (∀ h, ofRows readDate header rows = .ok h ↔
      ∃ c : Columns, c.Of header ∧
        ∃ buckets, List.Forall₂ (Reads readDate c) (dated readDate c rows) buckets ∧
          StablySorted buckets h.toList ∧
          History.ofBuckets (nominalLength h.toList) h.toList = .ok h) ∧
    (∀ e, ofRows readDate header rows = .error (.overflow e) ↔
      e = .negation ∧ ∃ c : Columns, c.Of header ∧ Overflows readDate c rows) ∧
    (∀ rows', (∀ c : Columns, c.Of header → dated readDate c rows' = dated readDate c rows) →
      ∀ h, ofRows readDate header rows' = .ok h ↔ ofRows readDate header rows = .ok h) ∧
    ∀ rows', rows'.Perm rows →
      (∀ c : Columns, c.Of header → DistinctStarts readDate c rows) →
      ∀ h, ofRows readDate header rows' = .ok h ↔ ofRows readDate header rows = .ok h := by
  refine ⟨fun bytes => load_eq_ofRows, ?_, fun e => ofRows_eq_overflow_iff, ?_, ?_⟩
  · intro h
    simp only [ofRows_eq_ok_iff, historyOf_eq_ok_iff]
  · intro rows' hdated h
    simp only [ofRows_eq_ok_iff]
    refine exists_congr fun c => and_congr_right fun hc => ?_
    rw [hdated c hc]
  · intro rows' hperm hd h
    have hd' (c : Columns) (hc : c.Of header) : DistinctStarts readDate c rows' :=
      ((hperm.filterMap _).nodup_iff).2 (hd c hc)
    exact ⟨ofRows_of_perm hperm.symm hd, ofRows_of_perm hperm hd'⟩

/-! ## A table with an undated row -/

/-- The first of the two columns with times has the starts. -/
def mixedHeader : List String := [" Start", "time", "duration", "RX", "tx"]

/-- Two buckets, the later one first, and a row without a start between them. -/
def mixedRows : List (List String) :=
  [["20", "1", "5", "1", "2"], ["soon", "2", "x", "", ""],
    ["1970-01-01T00:00:10Z", "3", "5", "3", "4"]]

def mixedText : String :=
  "\x20Start,time,duration,RX,tx\n20,1,5,1,2\nsoon,2,x,,\n1970-01-01T00:00:10Z,3,5,3,4\n"

def mixedHistory : History := ⟨5, #[⟨10000, 5, 3, 4⟩, ⟨20000, 5, 1, 2⟩]⟩

/-- The bytes of a text without other than ASCII characters. -/
def asciiBytes (text : String) : List UInt8 := text.toList.map fun c => UInt8.ofNat c.toNat

theorem columns_mixedHeader : columns mixedHeader = .ok ⟨0, 2, 3, 4⟩ := by rfl

theorem eq_of_mixedHeader {c : Columns} (h : c.Of mixedHeader) : c = ⟨0, 2, 3, 4⟩ := by
  rw [← columns_eq_ok_iff, columns_mixedHeader] at h
  exact (Except.ok.inj h).symm

theorem reads_mixedRows :
    List.Forall₂ (Reads readDateTime ⟨0, 2, 3, 4⟩) (dated readDateTime ⟨0, 2, 3, 4⟩ mixedRows)
      [⟨20000, 5, 1, 2⟩, ⟨10000, 5, 3, 4⟩] := by
  have hfound : bucketsFrom readDateTime ⟨0, 2, 3, 4⟩ 0 mixedRows =
    .ok [⟨20000, 5, 1, 2⟩, ⟨10000, 5, 3, 4⟩] := by rfl
  exact (bucketsFrom_eq_ok_iff 0).1 hfound

/-- Neither the order of the rows nor the undated one matters; nothing overflows. -/
theorem ofRows_of_mixedRows :
    load Csv.Document.ofBytes readDateTime (asciiBytes mixedText) = .ok mixedHistory ∧
      ofRows readDateTime mixedHeader mixedRows.reverse = .ok mixedHistory ∧
      ofRows readDateTime mixedHeader (mixedRows.filter (· ≠ ["soon", "2", "x", "", ""])) =
        .ok mixedHistory := by
  let buckets : List Bucket := [⟨20000, 5, 1, 2⟩, ⟨10000, 5, 3, 4⟩]
  have hsorted : StablySorted buckets mixedHistory.toList := by
    have hin := stablySorted_inOrder buckets
    have hperm : mixedHistory.toList.Perm buckets := by decide
    have horder : mixedHistory.toList = inOrder buckets :=
      eq_of_perm_of_nodup (by decide) hin.starts (hperm.trans hin.perm.symm) (by decide)
    rwa [horder]
  have haccepted : History.ofBuckets (nominalLength mixedHistory.toList) mixedHistory.toList =
    .ok mixedHistory := by rfl
  obtain ⟨hload, hiff, -, hundated, hperm⟩ :=
    ofRows_of_any_order Csv.Document.ofBytes readDateTime mixedHeader mixedRows
  have hrows : ofRows readDateTime mixedHeader mixedRows = .ok mixedHistory :=
    (hiff mixedHistory).2 ⟨_, columns_eq_ok_iff.1 columns_mixedHeader, buckets, reads_mixedRows,
      hsorted, haccepted⟩
  have hbytes : Csv.Document.ofBytes (asciiBytes mixedText) =
    .ok ⟨mixedHeader, mixedRows, none⟩ := by decide +kernel
  refine ⟨(hload _ hbytes).trans hrows, (hperm _ mixedRows.reverse_perm ?_ _).2 hrows,
    (hundated _ ?_ _).2 hrows⟩
  · intro c hc
    rw [eq_of_mixedHeader hc, DistinctStarts]
    decide
  · intro c hc
    rw [eq_of_mixedHeader hc]
    rfl

/-- The columns are there, the start is an integer, and the bucket that the row spells is a history,
but the table has none: it is not even refused. -/
theorem overflow_of_least_start :
    let header := ["start", "duration", "rx", "tx"]
    let fields := ["-9223372036854775808", "10", "1", "1"]
    let b : Bucket := ⟨Int64.minValue, 10, 1, 1⟩
    columns header = .ok ⟨0, 1, 2, 3⟩ ∧
      Decimal.readInt64 (cell fields 0) = .ok b.start ∧
      Decimal.readInt64 (cell fields 1) = .ok b.duration ∧
      Decimal.readUInt64 (cell fields 2) = .ok b.rx ∧
      Decimal.readUInt64 (cell fields 3) = .ok b.tx ∧
      historyOf [b] = .ok ⟨10, #[b]⟩ ∧
      ∀ readDate, ofRows readDate header [fields] = .error (.overflow .negation) := by
  refine ⟨by rfl, by rfl, by rfl, by rfl, by rfl, ?_, fun readDate => by rfl⟩
  rw [historyOf, inOrder, List.mergeSort_singleton]
  rfl

end TrafficChart.Table
