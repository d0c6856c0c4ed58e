import SessionPool.Text.Blank
import SessionPool.Text.Case

/-!
# Statements

The statements that the server tells apart, by their first word in upper case.
-/

set_option autoImplicit false

namespace SessionPool

/-- What a statement asks for; `rest` is what follows the first word. -/
inductive Statement
  | begin
  /-- Ends the transaction, either way. -/
  | finish
  | resetAll
  | set (rest : List Char)
  | select
  /-- Starts a transfer that is never completed. -/
  | copy
  | sleep (rest : List Char)
  | other
deriving DecidableEq, Repr

def startsWith (word : String) (upperCase : List Char) : Bool :=
  word.toList.isPrefixOf upperCase

def Statement.read (sql : List Char) : Statement :=
  let form := Text.upper sql
  if form = "BEGIN".toList then .begin
  else if form = "COMMIT".toList ∨ form = "ROLLBACK".toList then .finish
  else if form = "RESET ALL".toList then .resetAll
  else if startsWith "SET " form then .set (Text.dropBytes 4 sql)
  else if startsWith "SELECT" form then .select
  else if startsWith "COPY " form then .copy
  else if startsWith "SLEEP " form then .sleep (Text.dropBytes 6 sql)
  else .other

/-- The name and the value of an assignment, around an equals sign or the word `to`; the name in
lower case, the value without the quotes around it. -/
def readAssignment? (rest : List Char) : Option (String × String) :=
  let cutting := match Text.cut? '=' rest with
    | some p => some p
    | none => match Text.cutAt? " to ".toList rest with
      | some p => some p
      | none => Text.cutAt? " TO ".toList rest
  cutting.map fun p =>
    (String.ofList (Text.lower (Text.trimmed p.1)),
      String.ofList (Text.stripped (fun c => c == '\'') (Text.trimmed p.2)))

end SessionPool
