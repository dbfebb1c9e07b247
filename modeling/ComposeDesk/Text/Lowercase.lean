import ComposeDesk.Text.Case

/-!
# Lower case

Each capital is replaced by its lower-case counterpart.  A capital sigma at
the end of a word takes the final form.
-/

namespace ComposeDesk

namespace Text

def lowerIn (code : Nat) : List CaseRun → Nat
  | [] => code
  | run :: rest =>
      if code < run.first then code
      else if code ≤ run.last && (code - run.first) % run.stride = 0 then
        ((code : Int) + run.offset).toNat
      else lowerIn code rest

def lowerChar (c : Char) : List Char :=
  if c.toNat < 0x80 then [c.toLower]
  else if c.toNat = 0x130 then ['i', Char.ofNat 0x307]
  else [Char.ofNat (lowerIn c.toNat caseRuns)]

def isCased (c : Char) : Bool :=
  inRanges c.toNat casedRanges

/-- Whether a character is passed over in the search for a cased neighbour. -/
def isIgnorable (c : Char) : Bool :=
  inRanges c.toNat ignorableRanges

/-- Whether the nearest character that is not passed over has a case. -/
def meetsCased (cs : List Char) : Bool :=
  match cs.dropWhile isIgnorable with
  | c :: _ => isCased c
  | [] => false

/-- The lower-case form of a text whose part before it, reversed, is given. -/
def lowerAfter (before : List Char) : List Char → List Char
  | [] => []
  | c :: rest =>
      let lowered :=
        if c.toNat = 0x3A3 then
          [Char.ofNat (if meetsCased before && !meetsCased rest then 0x3C2 else 0x3C3)]
        else lowerChar c
      lowered ++ lowerAfter (c :: before) rest

def lowercase (text : String) : String :=
  String.ofList (lowerAfter [] text.toList)

end Text

end ComposeDesk
