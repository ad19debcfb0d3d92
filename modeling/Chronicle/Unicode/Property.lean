import Chronicle.Unicode.Category
import Chronicle.Unicode.PropertyTable

/-! # Binary properties of characters -/
namespace Chronicle.Unicode

def PropertyEntry.set (e : PropertyEntry) : CharSet :=
  (ofCategories e.base).symmDiff (.ofGaps e.exceptions)

/-- The set of the characters with a property, by a spelling of its name in small letters without
separators. -/
def propertySet? (name : String) : Option CharSet :=
  (propertyTable.find? fun e => e.names.contains name).map PropertyEntry.set

/-- The property of a name in the table. -/
def property (name : String) : CharSet := (propertySet? name).getD .empty

def digitSet : CharSet := ofCategories ["Nd"]

def blankSet : CharSet := property "whitespace"

/-- Letters, marks, decimal digits, connecting punctuation and the joiners. -/
def wordSet : CharSet :=
  .ofRanges ((property "alphabetic").ranges ++
    (ofCategories ["Mn", "Mc", "Me", "Nd", "Pc"]).ranges ++ (property "joincontrol").ranges)

end Chronicle.Unicode
