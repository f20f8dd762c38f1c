import Mathlib.Data.List.Basic

namespace Parlando

namespace Csv

inductive Place where
  | start
  | plain
  | quoted
  /-- Behind a quote in a quoted field: the field ends, or the quote is doubled. -/
  | quote
  /-- Behind a carriage return, which only a line feed may follow. -/
  | cr
  deriving DecidableEq

/-- A reader on its way; what it has read stands in reverse order. -/
structure Reader where
  place : Place := .start
  field : List Char := []
  record : List String := []
  records : List (List String) := []

namespace Reader

def push (reader : Reader) (place : Place) (c : Char) : Reader :=
  { reader with place, field := c :: reader.field }

def endField (reader : Reader) : Reader :=
  { reader with
    place := .start, field := [], record := .ofList reader.field.reverse :: reader.record }

def endRecord (reader : Reader) : Reader :=
  let reader := reader.endField
  { reader with record := [], records := reader.record.reverse :: reader.records }

def delimit (reader : Reader) : Char → Option Reader
  | ',' => some reader.endField
  | '\n' => some reader.endRecord
  | '\r' => some { reader with place := .cr }
  | _ => none

def step (reader : Reader) (c : Char) : Option Reader :=
  match reader.place with
  | .start => if c = '"' then some { reader with place := .quoted }
    else (reader.delimit c).or (some (reader.push .plain c))
  | .plain => if c = '"' then none else (reader.delimit c).or (some (reader.push .plain c))
  | .quoted => if c = '"' then some { reader with place := .quote }
    else some (reader.push .quoted c)
  | .quote => if c = '"' then some (reader.push .quoted c) else reader.delimit c
  | .cr => if c = '\n' then some reader.endRecord else none

/-- The records at the end of the input; the last one may lack its line break. -/
def finish (reader : Reader) : Option (List (List String)) :=
  match reader.place with
  | .quoted | .cr => none
  | .start => if reader.record.isEmpty then some reader.records.reverse
    else some reader.endRecord.records.reverse
  | .plain | .quote => some reader.endRecord.records.reverse

end Reader

/-- The records of a text, each with its fields. -/
def read (text : String) : Option (List (List String)) :=
  (text.toList.foldlM Reader.step {}).bind Reader.finish

example : read "a,\"b,\"\"\n\"\r\n,\n" = some [["a", "b,\"\n"], ["", ""]] := by decide

end Csv

end Parlando
