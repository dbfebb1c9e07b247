/-!
# Texts and their characters

What all readers of texts share: properties of characters that are given by ascending
lists of code point ranges, the characters of the Unicode property White_Space, and
texts that are cut at every character of a kind, where the parts between two cuts may
be empty.
-/

namespace ComposeDesk

namespace Text

abbrev Range := Nat × Nat

/-- Whether a code point lies in one of some ascending ranges. -/
def inRanges (code : Nat) : List Range → Bool
  | [] => false
  | (first, last) :: rest =>
      if code < first then false
      else if code ≤ last then true
      else inRanges code rest

def isBlank (c : Char) : Bool :=
  let n := c.toNat
  (0x09 ≤ n && n ≤ 0x0D) || n == 0x20 || n == 0x85 || n == 0xA0 || n == 0x1680 ||
    (0x2000 ≤ n && n ≤ 0x200A) || n == 0x2028 || n == 0x2029 || n == 0x202F ||
    n == 0x205F || n == 0x3000

def trimBoth (p : Char → Bool) (cs : List Char) : List Char :=
  ((cs.dropWhile p).reverse.dropWhile p).reverse

def trim (text : String) : String :=
  String.ofList (trimBoth isBlank text.toList)

/-- The parts of a text between separators; there is always one more part than
there are separators. -/
def split (separates : Char → Bool) : List Char → List (List Char)
  | [] => [[]]
  | c :: rest =>
      match split separates rest with
      | first :: others =>
          if separates c then [] :: first :: others else (c :: first) :: others
      | [] => []

end Text

end ComposeDesk
