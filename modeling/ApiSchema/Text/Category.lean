import ApiSchema.Text.CategoryTables

/-!
# General categories

Each assigned character has one general category.  Most classes of characters in the standard are
unions of categories, with a few characters more or less.
-/

namespace ApiSchema.Text

/-- A general category of assigned characters. -/
inductive Category where
  | uppercaseLetter
  | lowercaseLetter
  | titlecaseLetter
  | modifierLetter
  | otherLetter
  | nonspacingMark
  | spacingMark
  | enclosingMark
  | decimalNumber
  | letterNumber
  | otherNumber
  | connectorPunctuation
  | dashPunctuation
  | openPunctuation
  | closePunctuation
  | initialPunctuation
  | finalPunctuation
  | otherPunctuation
  | mathSymbol
  | currencySymbol
  | modifierSymbol
  | otherSymbol
  | spaceSeparator
  | lineSeparator
  | paragraphSeparator
  | control
  | format
  | privateUse
  deriving DecidableEq, Repr

namespace Category

def runs : Category → List CodeRun
  | uppercaseLetter => CategoryTables.uppercaseLetter
  | lowercaseLetter => CategoryTables.lowercaseLetter
  | titlecaseLetter => CategoryTables.titlecaseLetter
  | modifierLetter => CategoryTables.modifierLetter
  | otherLetter => CategoryTables.otherLetter
  | nonspacingMark => CategoryTables.nonspacingMark
  | spacingMark => CategoryTables.spacingMark
  | enclosingMark => CategoryTables.enclosingMark
  | decimalNumber => CategoryTables.decimalNumber
  | letterNumber => CategoryTables.letterNumber
  | otherNumber => CategoryTables.otherNumber
  | connectorPunctuation => CategoryTables.connectorPunctuation
  | dashPunctuation => CategoryTables.dashPunctuation
  | openPunctuation => CategoryTables.openPunctuation
  | closePunctuation => CategoryTables.closePunctuation
  | initialPunctuation => CategoryTables.initialPunctuation
  | finalPunctuation => CategoryTables.finalPunctuation
  | otherPunctuation => CategoryTables.otherPunctuation
  | mathSymbol => CategoryTables.mathSymbol
  | currencySymbol => CategoryTables.currencySymbol
  | modifierSymbol => CategoryTables.modifierSymbol
  | otherSymbol => CategoryTables.otherSymbol
  | spaceSeparator => CategoryTables.spaceSeparator
  | lineSeparator => CategoryTables.lineSeparator
  | paragraphSeparator => CategoryTables.paragraphSeparator
  | control => CategoryTables.control
  | format => CategoryTables.format
  | privateUse => CategoryTables.privateUse

/-- The short and the long name of a category, written small and without spaces. -/
def names : Category → List String
  | uppercaseLetter => ["lu", "uppercaseletter"]
  | lowercaseLetter => ["ll", "lowercaseletter"]
  | titlecaseLetter => ["lt", "titlecaseletter"]
  | modifierLetter => ["lm", "modifierletter"]
  | otherLetter => ["lo", "otherletter"]
  | nonspacingMark => ["mn", "nonspacingmark"]
  | spacingMark => ["mc", "spacingmark"]
  | enclosingMark => ["me", "enclosingmark"]
  | decimalNumber => ["nd", "decimalnumber", "digit"]
  | letterNumber => ["nl", "letternumber"]
  | otherNumber => ["no", "othernumber"]
  | connectorPunctuation => ["pc", "connectorpunctuation"]
  | dashPunctuation => ["pd", "dashpunctuation"]
  | openPunctuation => ["ps", "openpunctuation"]
  | closePunctuation => ["pe", "closepunctuation"]
  | initialPunctuation => ["pi", "initialpunctuation"]
  | finalPunctuation => ["pf", "finalpunctuation"]
  | otherPunctuation => ["po", "otherpunctuation"]
  | mathSymbol => ["sm", "mathsymbol"]
  | currencySymbol => ["sc", "currencysymbol"]
  | modifierSymbol => ["sk", "modifiersymbol"]
  | otherSymbol => ["so", "othersymbol"]
  | spaceSeparator => ["zs", "spaceseparator"]
  | lineSeparator => ["zl", "lineseparator"]
  | paragraphSeparator => ["zp", "paragraphseparator"]
  | control => ["cc", "control", "cntrl"]
  | format => ["cf", "format"]
  | privateUse => ["co", "privateuse"]

def casedLetters : List Category := [uppercaseLetter, lowercaseLetter, titlecaseLetter]

def letters : List Category := casedLetters ++ [modifierLetter, otherLetter]

def marks : List Category := [nonspacingMark, spacingMark, enclosingMark]

def numbers : List Category := [decimalNumber, letterNumber, otherNumber]

def punctuation : List Category :=
  [connectorPunctuation, dashPunctuation, openPunctuation, closePunctuation, initialPunctuation,
   finalPunctuation, otherPunctuation]

def symbols : List Category := [mathSymbol, currencySymbol, modifierSymbol, otherSymbol]

def separators : List Category := [spaceSeparator, lineSeparator, paragraphSeparator]

/-- Characters with a function instead of a shape. -/
def others : List Category := [control, format, privateUse]

/-- All categories of assigned characters. -/
def all : List Category :=
  letters ++ marks ++ numbers ++ punctuation ++ symbols ++ separators ++ others

end Category

end ApiSchema.Text
