import Stratum.Web.Domain.Label
import Stratum.Web.Domain.Mapping
import Stratum.Web.Domain.Punycode

/-!
# Domain names

A domain name is looked up in ASCII. Its characters are mapped to those it is known by, and each
label that is not ASCII then is written in Punycode, behind a mark of its own. A label that has
this mark already must be the ASCII form of a label.

> `toAscii?_plain`: a plain name is only put into small letters.
-/

namespace Stratum.Domain

/-- Characters that a domain name must not contain in its ASCII form. -/
def isDenied (c : Char) : Bool :=
  c.toNat ≤ 0x20 || c.toNat = 0x7f ||
    ['%', '#', '/', ':', '<', '>', '?', '@', '[', '\\', ']', '^', '|'].contains c

/-- Whether a character is in ASCII. -/
def isAscii (c : Char) : Bool := c.toNat < 128

/-- What the ASCII form of a label starts with that is not ASCII itself. -/
def mark : List Char := ['x', 'n', '-', '-']

/-- The labels of a name. -/
def labels (s : List Char) : List (List Char) := s.splitOn '.'

/-- The characters that a name is known by, in composed form. -/
def mapName (s : List Char) : List Char := compose (s.flatMap fun c => (replacement? c).getD [c])

/-- A label of a name, as characters. -/
def unicodeLabel? (s : List Char) : Option (List Char) :=
  let label? := if mark.isPrefixOf s then
      (Punycode.decode? (s.drop mark.length)).filter fun t =>
        !t.all isAscii && !mark.isPrefixOf t && s.all isAscii
    else some s
  label?.filter isLabel

/-- The ASCII form of a label. -/
def asciiLabel (s : List Char) : List Char :=
  if s.all isAscii then s else mark ++ Punycode.encode s

/-- The ASCII form of a name whose labels need more than small letters. -/
def encodeName? (s : List Char) : Option (List Char) := do
  let ls ← (labels (mapName s)).mapM unicodeLabel?
  if ls.any isBidi && !ls.all fun l => isReadable (l.map direction) then none
  else some (['.'].intercalate (ls.map asciiLabel))

/-- Whether a name is ASCII, and no label of it stands for other characters. -/
def isPlain (s : List Char) : Bool :=
  s.all isAscii && (labels (s.map Char.toLower)).all fun l => !mark.isPrefixOf l

/-- The ASCII form of a domain name. -/
def toAscii? (s : List Char) : Option (List Char) :=
  (if isPlain s then some (s.map Char.toLower) else encodeName? s).filter fun t => !t.any isDenied

/-- A plain name is only put into small letters. -/
theorem toAscii?_plain {s : List Char} (plain : isPlain s = true)
    (allowed : (s.map Char.toLower).any isDenied = false) :
    toAscii? s = some (s.map Char.toLower) := by
  unfold toAscii?
  rw [if_pos plain, Option.filter_some, allowed]
  rfl

end Stratum.Domain
