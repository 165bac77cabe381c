import PathQuery.Text.CaseData

/-! Lower-casing of whole texts. All mappings are one to one but that of the dotted capital I,
and only the sigma looks at its neighbours: it has its final form after a letter and not before
one.
-/

namespace PathQuery.Text

/-- The one-to-one mapping of a character, itself if it has no lower-case form. -/
def lowerChar (c : Char) : Char :=
  if c.toNat < 0x80 then
    c.toLower
  else
    match caseRuns.find? (fun run =>
        run.first ≤ c.toNat && c.toNat ≤ run.last
          && (c.toNat - run.first) % run.stride == 0) with
    | some run => Char.ofNat (c.toNat + run.distance).toNat
    | none => c

/-- Whether the first character that is not ignored is a cased one. -/
def meetsCased (text : List Char) : Bool :=
  match text.dropWhile (inRanges caseIgnoredRanges) with
  | [] => false
  | c :: _ => inRanges casedRanges c

/-- The lower-case form of one character between its neighbours; those before it are given
in reverse.
-/
def lowerBetween (before : List Char) (c : Char) (after : List Char) : List Char :=
  if c == 'Σ' then
    [if meetsCased before && !meetsCased after then 'ς' else 'σ']
  else if c == 'İ' then
    ['i', '\u0307']
  else
    [lowerChar c]

/-- Lower-cases a text whose characters before it are given in reverse. -/
def lowerFrom (before : List Char) : List Char → List Char
  | [] => []
  | c :: rest => lowerBetween before c rest ++ lowerFrom (c :: before) rest

/-- The lower-case form of a text. -/
def lower (text : String) : String :=
  String.ofList (lowerFrom [] text.toList)

end PathQuery.Text
