import AnalyticsQuery.Text.Normal
import AnalyticsQuery.Url.Idna.LabelTable

/-!
# Where characters may stand in a label

A label of a domain name must not begin with a mark.  The two invisible
joiners may stand only where they change how the letters around them are
written.  As soon as one label is written from right to left, every label has
to keep one direction of writing.
-/

namespace AnalyticsQuery
namespace Url
namespace Idna

/-- The combining marks. -/
def marks : Text.PointSet :=
  Text.PointSet.ofLines markLines

/-- The directions of writing other than left to right. -/
def directions : Text.PointMap :=
  Text.PointMap.ofLines directionLines

/-- The joining behaviour of characters. -/
def joining : Text.PointMap :=
  Text.PointMap.ofLines joiningLines

/-- The class of the marks that suppress a vowel. -/
def viramaClass : Nat := 9

/-- Whether a letter that joins to what follows it comes last, transparent characters aside. -/
def joinsForward (before : List Char) : Bool :=
  match before.find? fun c => joining.get? c.toNat != some 'T' with
  | some c => joining.get? c.toNat == some 'L' || joining.get? c.toNat == some 'D'
  | none => false

/-- Whether a letter that joins to what precedes it comes first, transparent characters aside. -/
def joinsBackward (after : List Char) : Bool :=
  match after.find? fun c => joining.get? c.toNat != some 'T' with
  | some c => joining.get? c.toNat == some 'R' || joining.get? c.toNat == some 'D'
  | none => false

/-- Whether the joiners of a label stand where they may; `before` is reversed. -/
def joinersFit (before : List Char) : List Char → Bool
  | [] => true
  | c :: rest =>
      let afterVirama :=
        match before with
        | b :: _ => Text.combiningClass b.toNat = viramaClass
        | [] => false
      let fits :=
        if c.toNat = 0x200D then afterVirama
        else if c.toNat = 0x200C then
          afterVirama || (joinsForward before && joinsBackward rest)
        else true
      fits && joinersFit (c :: before) rest

/-- Whether a label begins with a mark. -/
def beginsWithMark : List Char → Bool
  | [] => false
  | c :: _ => marks.contains c.toNat

/-- The letter for the direction of a character; `L` stands for left to right. -/
def direction (c : Char) : Char :=
  if c.toNat < 128 then
    if c.isDigit then 'E' else if c.isAlpha then 'L' else 'N'
  else (directions.get? c.toNat).getD 'L'

/-- Whether a label holds characters that are written from right to left. -/
def isRightToLeft (label : List Char) : Bool :=
  label.any fun c => direction c = 'R' || direction c = 'A'

/-- Whether a label keeps one direction of writing. -/
def keepsDirection (label : List Char) : Bool :=
  let classes := label.map direction
  let last := (classes.reverse.dropWhile (· = 'M')).head?
  match classes with
  | [] => true
  | 'R' :: _ =>
      (classes.all fun d => d ∈ ['R', 'A', 'E', 'N', 'M']) &&
        (last == some 'R' || last == some 'E' || last == some 'A') &&
        !(classes.contains 'E' && classes.contains 'A')
  | 'L' :: _ =>
      (classes.all fun d => d ∈ ['L', 'E', 'N', 'M']) && (last == some 'L' || last == some 'E')
  | _ => false

end Idna
end Url
end AnalyticsQuery
