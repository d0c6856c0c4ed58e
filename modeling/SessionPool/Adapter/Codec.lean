import SessionPool.Adapter.Value
import SessionPool.Session.Error

/-!
# Encoders and decoders

An encoder writes values for the server, a decoder reads what the server sends. Booleans have an
encoder and a decoder for each format; further ones may be any functions.
-/

set_option autoImplicit false

namespace SessionPool.Adapter

abbrev Bytes := List UInt8

/-- Writes values in one format, as data of one type or as a literal in a statement. -/
structure Encoder where
  name : String
  format : Format
  type : TypeId
  write : Value → Except SessionError Bytes
  literal : Value → Except SessionError Bytes

/-- Reads values from one format. -/
structure Decoder where
  name : String
  format : Format
  read : Bytes → Except SessionError Value

def utf8 (s : String) : Bytes := s.toUTF8.toList

/-- The truth value of a boolean; anything else is refused. -/
def Value.truth : Value → Except SessionError Bool
  | .bool b => .ok b
  | v => .error (.load ("expected a bool, got " ++ v.shown))

/-- Booleans as the letters `t` and `f`, or as the words in a statement. -/
def Encoder.boolText : Encoder where
  name := "BoolDumper"
  format := .text
  type := boolType
  write v := v.truth.map fun b => utf8 (if b then "t" else "f")
  literal v := v.truth.map fun b => utf8 (if b then "true" else "false")

/-- Booleans as a single byte, one or zero. -/
def Encoder.boolBinary : Encoder where
  name := "BoolBinaryDumper"
  format := .binary
  type := boolType
  write v := v.truth.map fun b => [if b then 1 else 0]
  literal v := v.truth.map fun b => [if b then 1 else 0]

def Decoder.boolText : Decoder where
  name := "BoolLoader"
  format := .text
  read data := .ok (.bool (data == utf8 "t"))

/-- Reads a single zero byte as false and anything else as true. -/
def Decoder.boolBinary : Decoder where
  name := "BoolBinaryLoader"
  format := .binary
  read data := .ok (.bool (data != [0]))

/-- An encoder that writes the same text for every value. -/
def Encoder.constant (name : String) (format : Format) (type : TypeId) (out : String) :
    Encoder where
  name := name
  format := format
  type := type
  write _ := .ok (utf8 out)
  literal _ := .ok (utf8 out)

/-- A decoder that reads data as text and puts `out` in front of it. -/
def Decoder.labelled (name : String) (format : Format) (out : String) : Decoder where
  name := name
  format := format
  read data :=
    match String.fromUTF8? ⟨data.toArray⟩ with
    | some s => .ok (.text (out ++ s))
    | none => .error (.load "not utf-8")

end SessionPool.Adapter
