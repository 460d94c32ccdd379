/-
# ODataGateway.Url.Domain — domain names in ASCII.

A name is brought to one spelling, cut at its points, and each label that holds anything beyond
ASCII is written in Punycode behind `xn--`.  A label that comes in that form is looked into: it has
to be what writing its characters would give.  A label must not start with a mark, the invisible
joiners stand only where scripts need them, and if any label is written from right to left all of
them must keep to one direction each.
-/
import ODataGateway.Text.Bidi
import ODataGateway.Text.Composed
import ODataGateway.Url.Domain.Mapping
import ODataGateway.Url.Punycode

namespace ODataGateway.Url.Domain

open Text (BidiClass)

/-! ## Rules for labels -/

/-- The letter before an invisible joiner, marks passed over, joins to what follows it. -/
def joinsOnward (before : List Nat) : Bool :=
  ((before.dropWhile Text.joiningThrough.contains).head?).any fun n =>
    Text.joiningBoth.contains n || Text.joiningAfter.contains n

/-- The letter after an invisible joiner, marks passed over, joins to what is before it. -/
def joinsBack (after : List Nat) : Bool :=
  ((after.dropWhile Text.joiningThrough.contains).head?).any fun n =>
    Text.joiningBoth.contains n || Text.joiningBefore.contains n

/-- Whether the invisible joiners of a label stand where they may: after a virama, or, for the one
that keeps apart, between letters that would join.  `before` is what was passed, in reverse. -/
def joinersFit (before : List Nat) : List Nat → Bool
  | [] => true
  | n :: after =>
    let afterVirama := before.head?.any fun m => Text.combiningClass m = 9
    (if n = 0x200D then afterVirama
     else if n = 0x200C then afterVirama || (joinsOnward before && joinsBack after)
     else true) && joinersFit (n :: before) after

/-- The classes that the rule for directions lets a label hold. -/
def allowedClasses (rightToLeft : Bool) : List BidiClass :=
  (if rightToLeft then [.rightToLeft, .arabicLetter, .arabicNumber] else [.leftToRight]) ++
    [.europeanNumber, .europeanSeparator, .commonSeparator, .europeanTerminator, .otherNeutral,
     .boundaryNeutral, .nonspacingMark]

/-- The classes that a label may end with, marks passed over. -/
def closingClasses (rightToLeft : Bool) : List BidiClass :=
  if rightToLeft then [.rightToLeft, .arabicLetter, .europeanNumber, .arabicNumber]
  else [.leftToRight, .europeanNumber]

/-- Whether the classes of a label keep to one direction. -/
def keepsDirection (classes : List BidiClass) : Bool :=
  match classes with
  | [] => true
  | first :: _ =>
    let rightToLeft := first == .rightToLeft || first == .arabicLetter
    let last := (classes.reverse.dropWhile (· == .nonspacingMark)).head?
    (rightToLeft || first == .leftToRight) &&
      classes.all (allowedClasses rightToLeft).contains &&
      last.any (closingClasses rightToLeft).contains &&
      !(rightToLeft && classes.contains .europeanNumber && classes.contains .arabicNumber)

/-- Whether a name has characters that are written from right to left. -/
def isBidirectional (labels : List (List Nat)) : Bool :=
  labels.flatten.any fun n =>
    [BidiClass.rightToLeft, .arabicLetter, .arabicNumber].contains (Text.bidiClass n)

/-- Whether a label may stand in a name, directions apart. -/
def isLabel (label : List Nat) : Bool :=
  !label.head?.any Text.marks.contains && joinersFit [] label

/-! ## Names -/

/-- The mark of a label in Punycode. -/
def punycodeMark : List Char := ['x', 'n', '-', '-']

/-- The characters of a text without those of another at its front, if they are there. -/
def without? (front s : List Char) : Option (List Char) :=
  if front.isPrefixOf s then some (s.drop front.length) else none

/-- The characters that a label stands for.  One in Punycode holds something beyond ASCII, in the
one spelling, and is not itself the mark of another. -/
def labelOf? (label : List Nat) : Option (List Nat) :=
  match without? punycodeMark (label.map Char.ofNat) with
  | none => some label
  | some rest => do
    let decoded ← Punycode.decode? rest
    if decoded.any (0x80 ≤ ·) && decoded.all isValid && Text.composed decoded == decoded &&
        (without? punycodeMark (decoded.map Char.ofNat)).isNone then
      some decoded
    else none

/-- A label in ASCII. -/
def asciiLabel (label : List Nat) : List Char :=
  if label.any (0x80 ≤ ·) then punycodeMark ++ Punycode.encode label else label.map Char.ofNat

/-- The characters of ASCII that no name may hold. -/
def isForbidden (c : Char) : Bool :=
  c.toNat ≤ 0x20 || c.toNat = 0x7F || "#%/:<>?@[\\]^|".toList.contains c

/-- A name in ASCII, or none if it is no name. -/
def toAscii? (s : List Char) : Option (List Char) := do
  let mapped := (← s.mapM fun c => mapCodePoint c.toNat).flatten
  let labels ← (Text.pieces '.'.toNat (Text.composed mapped)).mapM labelOf?
  let name := List.intercalate ['.'] (labels.map asciiLabel)
  if labels.all isLabel && !name.any isForbidden &&
      (!isBidirectional labels || labels.all fun l => keepsDirection (l.map Text.bidiClass)) then
    some name
  else none

end ODataGateway.Url.Domain
