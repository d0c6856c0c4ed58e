import SessionPool.Adapter.Kind
import SessionPool.Decimal.Shortest
import SessionPool.Text.Quoted

/-!
# Values

The values that cross the border between a program and the server.
-/

set_option autoImplicit false

namespace SessionPool.Adapter

/-- A value. A floating-point number is held by its 64 bits. -/
inductive Value
  | null
  | bool (b : Bool)
  | int (i : Int)
  | float (bits : UInt64)
  | text (s : String)
  | bytes (bs : List UInt8)
deriving DecidableEq, Repr

def Value.kind? : Value → Option Kind
  | .null => none
  | .bool _ => some .bool
  | .int _ => some .int
  | .float _ => some .float
  | .text _ => some .text
  | .bytes _ => some .bytes

/-- A value as a message shows it. -/
def Value.shown : Value → String
  | .null => "Null"
  | .bool b => "Bool(" ++ toString b ++ ")"
  | .int i => "Int(" ++ toString i ++ ")"
  | .float bits => "Float(" ++ Decimal.shortestText bits ++ ")"
  | .text s => "Text(" ++ Text.quoted s ++ ")"
  | .bytes bs => "Bytes(" ++ Text.quotedBytes bs ++ ")"

end SessionPool.Adapter
