import SessionPool.Text.CaseTables

/-!
# Letter case

Lower and upper case in all of Unicode, by the full mappings: one character may become several,
and a capital sigma at the end of a word becomes the final form of the letter.
-/

set_option autoImplicit false

namespace SessionPool.Text

def inRanges (ranges : List (Nat × Nat)) (c : Char) : Bool :=
  ranges.any fun r => r.1 ≤ c.toNat && c.toNat ≤ r.2

/-- The other case of a character under the given tables. -/
def mapCase (expansions : List (Nat × List Nat)) (runs : List CaseRun) (c : Char) : List Char :=
  match expansions.find? fun e => e.1 == c.toNat with
  | some e => e.2.map Char.ofNat
  | none =>
    match runs.find? fun r => r.contains c.toNat with
    | some r => [Char.ofNat ((c.toNat : Int) + r.offset).toNat]
    | none => [c]

def lowerChar (c : Char) : List Char :=
  if c.toNat < 128 then [c.toLower] else mapCase lowerExpansions lowerRuns c

def upperChar (c : Char) : List Char :=
  if c.toNat < 128 then [c.toUpper] else mapCase upperExpansions upperRuns c

/-- Whether the first character that counts for letter case is a cased one. -/
def startsCased (cs : List Char) : Bool :=
  match cs.dropWhile (inRanges caseIgnorableRanges) with
  | [] => false
  | c :: _ => inRanges casedRanges c

/-- The capital sigma, whose lower case depends on its place in the word. -/
def capitalSigma : Char := 'Σ'

/-- Lower case of a text; `before` holds what precedes it, nearest first. -/
def lowerFrom (before : List Char) : List Char → List Char
  | [] => []
  | c :: cs =>
    let form :=
      if c = capitalSigma then
        (if startsCased before && !startsCased cs then ['ς'] else ['σ'])
      else lowerChar c
    form ++ lowerFrom (c :: before) cs

def lower (cs : List Char) : List Char := lowerFrom [] cs

def upper (cs : List Char) : List Char := cs.flatMap upperChar

/-- A text whose ASCII letters are in lower case; all else is kept. -/
def lowerAscii (cs : List Char) : List Char := cs.map Char.toLower

end SessionPool.Text
