/-!
# Records of a comma-separated file

A record is a line of fields separated by commas. A carriage return or a line feed ends it, and
line ends before a record are skipped, so that empty lines are no records. A field that begins
with a quote lasts to the closing quote and may hold commas and line ends; a quote inside it is
written twice. What follows a closing quote is plain text again.

## Main definitions

* `Position`: where a record begins.
* `Scanner`, `Scanner.step`, `Scanner.finish`: reading byte by byte.
* `scan`: the records of a file.
-/

namespace TrafficChart.Csv

/-- A place in a file: the number of the record, the number of the line, counted from 1, and the
number of bytes before it. -/
structure Position where
  record : Nat
  line : Nat
  byte : Nat
  deriving DecidableEq

structure Record where
  position : Position
  fields : List (List UInt8)

inductive Mode where
  | between
  | fieldStart
  | plain
  | quoted
  | quoteEnd
  deriving DecidableEq

/-- The state of reading. `mark` is the position after the last record, `line` and `byte` the
current one; the newest byte, field and record stand first. -/
structure Scanner where
  mode : Mode
  mark : Position
  line : Nat
  byte : Nat
  field : List UInt8
  fields : List (List UInt8)
  records : List Record

namespace Scanner

def comma : UInt8 := 0x2C

def quoteMark : UInt8 := 0x22

def carriageReturn : UInt8 := 0x0D

def lineFeed : UInt8 := 0x0A

def isLineEnd (b : UInt8) : Bool := b == carriageReturn || b == lineFeed

/-- Before the first byte, where `skipped` bytes are left out. -/
def initial (skipped : Nat) : Scanner := ⟨.between, ⟨0, 1, 0⟩, 1, skipped, [], [], []⟩

/-- Counts a byte. -/
def tick (s : Scanner) (b : UInt8) : Scanner :=
  { s with line := if b = lineFeed then s.line + 1 else s.line, byte := s.byte + 1 }

/-- Adds a byte to the field. -/
def keep (s : Scanner) (mode : Mode) (b : UInt8) : Scanner :=
  { s with mode, field := b :: s.field }

def endField (s : Scanner) : Scanner :=
  { s with mode := .fieldStart, field := [], fields := s.field.reverse :: s.fields }

/-- Ends the field and the record. The next record begins here. -/
def endRecord (s : Scanner) : Scanner :=
  let fields := s.endField.fields.reverse
  { s with
    mode := .between
    mark := ⟨s.mark.record + 1, s.line, s.byte⟩
    field := []
    fields := []
    records := ⟨s.mark, fields⟩ :: s.records }

/-- A byte outside of quotes, inside a record. -/
def outside (s : Scanner) (b : UInt8) : Scanner :=
  if b = comma then s.endField
  else if isLineEnd b then s.endRecord
  else s.keep .plain b

/-- The first byte of a field. -/
def opening (s : Scanner) (b : UInt8) : Scanner :=
  if b = quoteMark then { s with mode := .quoted } else s.outside b

def step (s : Scanner) (b : UInt8) : Scanner :=
  let s := s.tick b
  match s.mode with
  | .between => if isLineEnd b then s else s.opening b
  | .fieldStart => s.opening b
  | .plain => s.outside b
  | .quoted => if b = quoteMark then { s with mode := .quoteEnd } else s.keep .quoted b
  | .quoteEnd => if b = quoteMark then s.keep .quoted b else s.outside b

/-- All records; the end of the file ends the last one. -/
def finish (s : Scanner) : List Record :=
  match s.mode with
  | .between => s.records.reverse
  | _ => s.endRecord.records.reverse

end Scanner

/-- The byte order mark that a file may begin with. -/
def byteOrderMark : List UInt8 := [0xEF, 0xBB, 0xBF]

/-- The records of a file. A byte order mark at the beginning is skipped. -/
def scan (bytes : List UInt8) : List Record :=
  let skipped := if byteOrderMark.isPrefixOf bytes then byteOrderMark.length else 0
  ((bytes.drop skipped).foldl Scanner.step (Scanner.initial skipped)).finish

end TrafficChart.Csv
