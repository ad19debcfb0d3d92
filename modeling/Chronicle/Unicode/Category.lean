import Chronicle.Unicode.CategoryTable
import Chronicle.Unicode.CharSet

/-! # General categories

Every code point has one of thirty categories. They are named by their abbreviation; spellings of the
names of categories and of groups of them lead to the set of their code points. -/
namespace Chronicle.Unicode

/-- Consecutive code points of one category. -/
structure CategoryRun where
  first : Nat
  last : Nat
  category : String

def categoryRunsFrom (next : Nat) : List String → List CategoryRun
  | category :: length :: rest =>
    let count := length.toNat?.getD 0
    ⟨next, next + count - 1, category⟩ :: categoryRunsFrom (next + count) rest
  | _ => []

def categoryRuns : List CategoryRun := categoryRunsFrom 0 (categoryTable.splitOn " ")

/-- The code points whose category is among the given ones. -/
def ofCategories (categories : List String) : CharSet :=
  .ofRanges ((categoryRuns.filter fun r => categories.contains r.category).map fun r =>
    ⟨r.first, r.last⟩)

/-- Spellings of a category's name, in small letters without separators, and its abbreviations. -/
def categoryNames : List (List String × List String) := [
  (["lu", "uppercaseletter"], ["Lu"]),
  (["ll", "lowercaseletter"], ["Ll"]),
  (["lt", "titlecaseletter"], ["Lt"]),
  (["lm", "modifierletter"], ["Lm"]),
  (["lo", "otherletter"], ["Lo"]),
  (["mn", "nonspacingmark"], ["Mn"]),
  (["mc", "spacingmark"], ["Mc"]),
  (["me", "enclosingmark"], ["Me"]),
  (["nd", "decimalnumber", "digit"], ["Nd"]),
  (["nl", "letternumber"], ["Nl"]),
  (["no", "othernumber"], ["No"]),
  (["pc", "connectorpunctuation"], ["Pc"]),
  (["pd", "dashpunctuation"], ["Pd"]),
  (["ps", "openpunctuation"], ["Ps"]),
  (["pe", "closepunctuation"], ["Pe"]),
  (["pi", "initialpunctuation"], ["Pi"]),
  (["pf", "finalpunctuation"], ["Pf"]),
  (["po", "otherpunctuation"], ["Po"]),
  (["sm", "mathsymbol"], ["Sm"]),
  (["sc", "currencysymbol"], ["Sc"]),
  (["sk", "modifiersymbol"], ["Sk"]),
  (["so", "othersymbol"], ["So"]),
  (["zs", "spaceseparator"], ["Zs"]),
  (["zl", "lineseparator"], ["Zl"]),
  (["zp", "paragraphseparator"], ["Zp"]),
  (["cc", "control", "cntrl"], ["Cc"]),
  (["cf", "format"], ["Cf"]),
  (["co", "privateuse"], ["Co"]),
  (["cn", "unassigned"], ["Cn"]),
  (["lc", "casedletter"], ["Lu", "Ll", "Lt"]),
  (["l", "letter"], ["Lu", "Ll", "Lt", "Lm", "Lo"]),
  (["m", "mark", "combiningmark"], ["Mn", "Mc", "Me"]),
  (["n", "number"], ["Nd", "Nl", "No"]),
  (["p", "punctuation", "punct"], ["Pc", "Pd", "Ps", "Pe", "Pi", "Pf", "Po"]),
  (["s", "symbol"], ["Sm", "Sc", "Sk", "So"]),
  (["z", "separator"], ["Zs", "Zl", "Zp"]),
  (["c", "other"], ["Cc", "Cf", "Co", "Cn"])]

/-- The set that a spelling of a category's name stands for. Surrogates are no characters and have no
set of their own. -/
def categorySet? (name : String) : Option CharSet :=
  if name = "any" then some .all
  else if name = "assigned" then some (ofCategories ["Cn"]).complement
  else if name = "ascii" then some (.range 0 127)
  else (categoryNames.find? fun e => e.1.contains name).map fun e => ofCategories e.2

end Chronicle.Unicode
