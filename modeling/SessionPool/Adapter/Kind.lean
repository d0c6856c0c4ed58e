import SessionPool.Text.Case

/-!
# Kinds, types and formats of values

The kinds of value that have adapters, the numbers of the types that the server knows by name, and
the two formats in which values travel.
-/

set_option autoImplicit false

namespace SessionPool.Adapter

/-- The number by which the server knows a type. -/
abbrev TypeId := Nat

def boolType : TypeId := 16

/-- The type of a given name; upper and lower case of ASCII letters do not matter. -/
def typeOfName? (name : String) : Option TypeId :=
  match String.ofList (Text.lowerAscii name.toList) with
  | "bool" | "boolean" => some boolType
  | "bytea" => some 17
  | "int8" | "bigint" => some 20
  | "text" => some 25
  | "float8" | "double precision" => some 701
  | _ => none

/-- The format in which a value travels. -/
inductive Format
  | text
  | binary
deriving DecidableEq, Repr

def Format.name : Format → String
  | .text => "TEXT"
  | .binary => "BINARY"

/-- The format that is asked for when a value is to be written. -/
inductive Wanted
  /-- Whatever was registered last for the kind. -/
  | any
  | exactly (format : Format)
deriving DecidableEq, Repr

def Wanted.name : Wanted → String
  | .any => "AUTO"
  | .exactly f => f.name

/-- The kinds of value for which adapters are registered. -/
inductive Kind
  | bool
  | int
  | float
  | text
  | bytes
deriving DecidableEq, Repr

def Kind.name : Kind → String
  | .bool => "bool"
  | .int => "int"
  | .float => "float"
  | .text => "text"
  | .bytes => "bytes"

/-- The kind of a given name; upper and lower case of ASCII letters do not matter. -/
def Kind.ofName? (name : String) : Option Kind :=
  match String.ofList (Text.lowerAscii name.toList) with
  | "bool" | "boolean" => some .bool
  | "int" | "int8" | "bigint" | "i64" => some .int
  | "float" | "float8" | "double precision" | "f64" => some .float
  | "text" | "str" | "string" | "varchar" => some .text
  | "bytes" | "bytea" => some .bytes
  | _ => none

end SessionPool.Adapter
