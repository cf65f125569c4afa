import Skirmish.Text.CaseData

/-!
# Lower case

The full lower-case mapping of Unicode, without the rules of single languages. All but two
characters map by themselves:

* `İ` becomes two characters, an `i` and a combining dot;
* `Σ` depends on its surroundings: it becomes `ς` at the end of a word, which is where a cased
  character comes before it and none after it, case-ignorable characters being skipped both ways,
  and `σ` elsewhere.
-/

namespace Skirmish.Text

/-- The lower-case mapping of one character other than `Σ`, from `lowerRuns` beyond ASCII. -/
def lowercaseChar (c : Char) : List Char :=
  if c.toNat < 0x80 then [c.toLower]
  else if c = 'İ' then ['i', '\u0307']
  else
    match lowerRuns.find? (·.covers c.toNat) with
    | some run => [Char.ofNat (c.toNat + run.shift).toNat]
    | none => [c]

/-- The first character outside `ignorableRanges` is in `casedRanges`. -/
def meetsCased (cs : List Char) : Bool :=
  match cs.find? (!inRanges ignorableRanges ·.toNat) with
  | some c => inRanges casedRanges c.toNat
  | none => false

/-- `ς` if `before`, which is in reverse order, `meetsCased` and `after` does not; `σ` otherwise. -/
def lowercaseSigma (before after : List Char) : Char :=
  if meetsCased before && !meetsCased after then 'ς' else 'σ'

/-- The lower-case form of a text behind `before`, which is in reverse order. -/
def lowercaseAfter (before : List Char) : List Char → List Char
  | [] => []
  | c :: rest =>
    (if c = 'Σ' then [lowercaseSigma before rest] else lowercaseChar c) ++
      lowercaseAfter (c :: before) rest

/-- The lower-case form of a text. -/
def lowercase (cs : List Char) : List Char :=
  lowercaseAfter [] cs

end Skirmish.Text
