import RowTriples.Row
import RowTriples.Text.Blank
/-!
# Tables in comma-separated form

A table is a sequence of records, each a sequence of fields with commas between them. A record ends
at a carriage return, a line feed or both; empty lines are no records. A field that begins with a
quotation mark goes on to the next one that is not doubled, whatever is in between; what then
follows up to the comma belongs to the field as it is. The first record is the header.
-/

namespace RowTriples.Csv

def comma : UInt8 := 0x2c

def quote : UInt8 := 0x22

/-- Whether a byte ends a record. -/
def isEnd (b : UInt8) : Bool :=
  b = 0x0d || b = 0x0a

/-- Where in a record the next byte stands. -/
inductive Place where
  /-- In front of a record. -/
  | outside
  | fieldStart
  | inField
  | inQuotes
  /-- Behind a quotation mark inside quotation marks. -/
  | behindQuote
  deriving DecidableEq

abbrev Bytes := List UInt8

/-- The records from a place inside a record on, whose earlier fields and the part of whose field
that has been read are given newest first. -/
def recordsFrom (place : Place) (fields : List Bytes) (field : Bytes) : Bytes → List (List Bytes)
  | [] => if place = .outside then [] else [(field.reverse :: fields).reverse]
  | b :: bs =>
    if place = .inQuotes then
      if b = quote then recordsFrom .behindQuote fields field bs
      else recordsFrom .inQuotes fields (b :: field) bs
    else if place = .behindQuote && b = quote then recordsFrom .inQuotes fields (b :: field) bs
    else if isEnd b then
      if place = .outside then recordsFrom .outside [] [] bs
      else (field.reverse :: fields).reverse :: recordsFrom .outside [] [] bs
    else if b = comma then recordsFrom .fieldStart (field.reverse :: fields) [] bs
    else if (place = .outside || place = .fieldStart) && b = quote then
      recordsFrom .inQuotes fields field bs
    else recordsFrom .inField fields (b :: field) bs

/-- The mark that may stand in front of a text. -/
def byteOrderMark : Bytes := [0xef, 0xbb, 0xbf]

def records (bytes : Bytes) : List (List Bytes) :=
  recordsFrom .outside [] []
    (if byteOrderMark.isPrefixOf bytes then bytes.drop byteOrderMark.length else bytes)

/-- A record with the texts of its fields, if they are all UTF-8. -/
abbrev Record := Option (List String)

def decode (fields : List Bytes) : Record :=
  fields.mapM fun field => String.fromUTF8? ⟨field.toArray⟩

/-- The text of a field with a space in place of every line break. -/
def flattened (text : String) : String :=
  String.ofList (text.toList.map fun c => if c = '\r' || c = '\n' then ' ' else c)

/-- The name of a column, without marks in front of it. -/
def columnName (text : String) : String :=
  flattened (String.ofList (text.toList.dropWhile (· = '\ufeff')))

end RowTriples.Csv

namespace RowTriples

structure Table where
  header : Header
  records : List Csv.Record

/-- The table in a file, if its header can be read. A file without any record has no columns. -/
def Table.ofBytes? (bytes : Csv.Bytes) : Option Table :=
  match Csv.records bytes with
  | [] => some ⟨⟨[]⟩, []⟩
  | first :: others =>
    (Csv.decode first).map fun names => ⟨⟨names.map Csv.columnName⟩, others.map Csv.decode⟩

end RowTriples
