import RuleCatalog.Text.Newer

/-! # Visible characters

The characters that a message shows as they stand. It does not so show controls, format
characters, unassigned and private code points, separators other than the space, fillers that
are seen as gaps, and marks that attach to the character before them. -/
namespace RuleCatalog.Text

/-- The characters that show nothing: those of some categories, and the Korean fillers. -/
def unprintable : Ranges :=
  (Category.starting 'c' ++ Category.starting 'z').without Newer.visible
    ++ .ofText "115f-1160 3164 ffa0"

/-- The marks that show only as part of the character before them. The two marks of narrow
Japanese syllables have a width of their own. -/
def attaching : Ranges :=
  Property.graphemeExtend.without (.ofText "ff9e-ff9f") ++ Newer.graphemeExtend

/-- Whether a character shows itself, and not only as part of the one before it. -/
def isVisible (c : Char) : Bool :=
  let n := c.toNat
  if n < 0x7F then 0x20 ≤ n else !(attaching.contains n || unprintable.contains n)

end RuleCatalog.Text
