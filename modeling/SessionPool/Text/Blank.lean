/-!
# Blanks, trimming and cutting

Texts are handled as lists of characters. A blank is a character of white space anywhere in
Unicode; `trimmed` takes the blanks off both ends. `pieces` cuts a text at every occurrence of a
separator, `cut?` at the first and `cutLast?` at the last.
-/

set_option autoImplicit false

namespace SessionPool.Text

/-- White space: the ASCII blanks and the blank characters beyond ASCII. -/
def isBlank (c : Char) : Bool :=
  let n := c.toNat
  (9 ≤ n && n ≤ 13) || n == 0x20 || n == 0x85 || n == 0xA0 || n == 0x1680 ||
    (0x2000 ≤ n && n ≤ 0x200A) || n == 0x2028 || n == 0x2029 || n == 0x202F || n == 0x205F ||
    n == 0x3000

/-- A text without the trailing characters that satisfy `p`. -/
def dropEndWhile (p : Char → Bool) (cs : List Char) : List Char :=
  (cs.reverse.dropWhile p).reverse

def stripped (p : Char → Bool) (cs : List Char) : List Char :=
  dropEndWhile p (cs.dropWhile p)

def trimmed (cs : List Char) : List Char := stripped isBlank cs

/-- What stands before and after the first occurrence of `sep`. -/
def cut? (sep : Char) : List Char → Option (List Char × List Char)
  | [] => none
  | c :: cs => if c = sep then some ([], cs) else (cut? sep cs).map fun p => (c :: p.1, p.2)

/-- What stands before and after the last occurrence of `sep`. -/
def cutLast? (sep : Char) (cs : List Char) : Option (List Char × List Char) :=
  (cut? sep cs.reverse).map fun p => (p.2.reverse, p.1.reverse)

/-- The pieces of a text between the occurrences of `sep`; there is always at least one. -/
def pieces (sep : Char) : List Char → List (List Char)
  | [] => [[]]
  | c :: cs =>
    if c = sep then [] :: pieces sep cs
    else match pieces sep cs with
      | [] => [[c]]
      | p :: ps => (c :: p) :: ps

/-- What stands before and after the first occurrence of the text `mark`. -/
def cutAt? (mark : List Char) : List Char → Option (List Char × List Char)
  | [] => if mark.isEmpty then some ([], []) else none
  | c :: cs =>
    if mark.isPrefixOf (c :: cs) then some ([], (c :: cs).drop mark.length)
    else (cutAt? mark cs).map fun p => (c :: p.1, p.2)

def occursIn (needle cs : List Char) : Bool := (cutAt? needle cs).isSome

/-- A text without its first `n` bytes in UTF-8; a character that the cut would split goes with
them. -/
def dropBytes : Nat → List Char → List Char
  | _, [] => []
  | 0, cs => cs
  | n + 1, c :: cs => dropBytes (n + 1 - c.utf8Size) cs

end SessionPool.Text
