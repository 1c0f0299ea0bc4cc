import PageQuery.Text.Category
import PageQuery.Text.PropertyTable

/-!
Characters that can be shown by themselves: neither unassigned, private, a control, a separator
other than the space, one that need not be shown, nor a mark that joins the character before it.
-/
namespace PageQuery.Text

/-- The categories whose characters have no shape of their own. -/
def shapeless : List Category := [.control, .format, .privateUse, .unassigned, .lineSeparator,
  .paragraphSeparator, .spaceSeparator]

def extending : CharSet :=
  .unions [Category.nonspacingMark.chars, Category.enclosingMark.chars,
    .ofRows PropertyTable.otherExtending]

/-- The characters that are not shown, the space among them. -/
def hidden : CharSet :=
  .unions [.unions (shapeless.map Category.chars), .ofRows PropertyTable.ignorable,
    extending.diff Category.modifierLetter.chars]

def isVisible (c : Char) : Bool := c = ' ' || !hidden.contains c

end PageQuery.Text
