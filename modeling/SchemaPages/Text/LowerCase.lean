import SchemaPages.Text.CaseTable

/-!
The lower-case form of a text. Every character has its own form but the capital sigma, whose form
depends on where it stands: at the end of a word it is the final sigma. A word ends there when a
cased letter comes before it and none after it, characters without influence on case being
skipped on either side.
-/

namespace SchemaPages.Text

def inRanges (ranges : List (Nat × Nat)) (point : Nat) : Bool :=
  ranges.any fun range => range.1 ≤ point && point ≤ range.2

/-- Skipped when the case of a neighbour is asked. -/
def isCaseIgnorable (c : Char) : Bool :=
  inRanges caseIgnorableRanges c.toNat

def isCased (c : Char) : Bool :=
  inRanges casedRanges c.toNat

/-- The first character that is not skipped is a cased letter. -/
def meetsCased (s : List Char) : Bool :=
  match s.dropWhile isCaseIgnorable with
  | [] => false
  | c :: _ => isCased c

def lowerChar (c : Char) : List Char :=
  if c.toNat < 0x80 then [c.toLower]
  else if c = 'İ' then ['i', '\u0307']
  else
    match caseRuns.find? (·.covers c.toNat) with
    | some run => [Char.ofNat (Int.toNat (c.toNat + run.shift))]
    | none => [c]

/-- Lower-cases `rest`, which follows the characters `before`, the nearest of them first. -/
def lowerAfter (before : List Char) : List Char → List Char
  | [] => []
  | c :: rest =>
    let form :=
      if c = 'Σ' then if meetsCased before && !meetsCased rest then ['ς'] else ['σ']
      else lowerChar c
    form ++ lowerAfter (c :: before) rest

def lowerCase (s : String) : String :=
  String.ofList (lowerAfter [] s.toList)

example : lowerCase "PageInfo" = "pageinfo" := by decide

example : lowerCase "ΟΔΟΣ ΣΑΣ" = "οδος σας" := by decide +kernel

example : lowerCase "İẞK" = "i̇ßk" := by decide +kernel

end SchemaPages.Text
