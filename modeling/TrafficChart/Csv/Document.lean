import TrafficChart.Csv.Scanner
import TrafficChart.Text.Utf8

/-!
# Documents

A document is a header and rows of the same number of fields, all of them UTF-8. Rows before
the first fault are still part of it.
-/

namespace TrafficChart.Csv

inductive Fault where
  /-- A record with another number of fields than the ones before it. -/
  | unequalLengths (position : Position) (found expected : Nat)
  /-- A field that is UTF-8 only up to the given byte. -/
  | invalidText (position : Position) (field offset : Nat)
  deriving DecidableEq

def Fault.message : Fault → String
  | .unequalLengths p found expected =>
    s!"CSV error: record {p.record} (line: {p.line}, byte: {p.byte}): found record with " ++
      s!"{found} fields, but the previous record has {expected} fields"
  | .invalidText p field offset =>
    s!"CSV parse error: record {p.record} (line {p.line}, field: {field}, byte: {p.byte}): " ++
      s!"invalid utf-8: invalid UTF-8 in field {field} near byte index {offset}"

/-- The fields of a record as text, from the field with the given index on. -/
def textsFrom (position : Position) : Nat → List (List UInt8) → Except Fault (List String)
  | _, [] => .ok []
  | i, field :: rest =>
    match Text.decode field with
    | .error offset => .error (.invalidText position i offset)
    | .ok text => (text :: ·) <$> textsFrom position (i + 1) rest

namespace Record

def texts (r : Record) : Except Fault (List String) := textsFrom r.position 0 r.fields

/-- The texts of a record with `width` fields. -/
def row (width : Nat) (r : Record) : Except Fault (List String) :=
  if r.fields.length ≠ width then
    .error (.unequalLengths r.position r.fields.length width)
  else r.texts

end Record

structure Document where
  header : List String
  rows : List (List String)
  /-- Why reading stopped after the rows, if it did. -/
  fault : Option Fault
  deriving DecidableEq

/-- The rows up to the first fault. -/
def rowsOf (width : Nat) : List Record → List (List String) × Option Fault
  | [] => ([], none)
  | r :: rest =>
    match r.row width with
    | .error fault => ([], some fault)
    | .ok row =>
      let (rows, fault) := rowsOf width rest
      (row :: rows, fault)

/-- The document of a file. Without records the header is empty. -/
def Document.ofBytes (bytes : List UInt8) : Except Fault Document :=
  match scan bytes with
  | [] => .ok ⟨[], [], none⟩
  | first :: rest => do
    let header ← first.texts
    let (rows, fault) := rowsOf first.fields.length rest
    return ⟨header, rows, fault⟩

end TrafficChart.Csv
