import ApiSchema.Text.Blank
import ApiSchema.Text.CharSet
import ApiSchema.Text.PropertyTables

/-!
# Properties of characters

The properties of the standard that follow, but for the characters of a table, from the general
category and the case mappings.
-/

namespace ApiSchema.Text.Property

open Category CharSet

/-- Small letters and other characters like them. -/
def lowercase : CharSet :=
  .either (ofCategories [lowercaseLetter]) (.runs PropertyTables.otherLowercase)

/-- Capital letters and other characters like them. -/
def uppercase : CharSet :=
  .either (ofCategories [uppercaseLetter]) (.runs PropertyTables.otherUppercase)

def cased : CharSet := union [lowercase, uppercase, ofCategories [titlecaseLetter]]

/-- Characters that are skipped when the end of a word is looked for. -/
def caseIgnorable : CharSet :=
  .either (ofCategories [nonspacingMark, enclosingMark, format, modifierLetter, modifierSymbol])
    (.runs PropertyTables.otherCaseIgnorable)

/-- Letters and other characters that write words. -/
def alphabetic : CharSet :=
  union [lowercase, uppercase, ofCategories (letters ++ [letterNumber]),
    .runs PropertyTables.otherAlphabetic]

def whiteSpace : CharSet := .runs (blanks.map fun code => ⟨code, code, 1⟩)

/-- Characters that belong to the one before them. -/
def graphemeExtend : CharSet :=
  .either (ofCategories [nonspacingMark, enclosingMark]) (.runs PropertyTables.otherGraphemeExtend)

/-- Characters that can stand alone. -/
def graphemeBase : CharSet :=
  .outside (union [ofCategories [control, format, privateUse, lineSeparator, paragraphSeparator],
    unassigned, graphemeExtend])

/-- Characters that words are made of. -/
def word : CharSet :=
  union [alphabetic, ofCategories (marks ++ [decimalNumber, connectorPunctuation]),
    .runs PropertyTables.joinControl]

/-- Characters of mathematics. -/
def math : CharSet := .either (ofCategories [mathSymbol]) (.runs PropertyTables.otherMath)

/-- Characters that can start an identifier. -/
def idStart : CharSet :=
  without
    (.either (ofCategories (letters ++ [letterNumber])) (.runs PropertyTables.otherIdStart))
    (.runs PropertyTables.patternSyntax)

/-- Characters that can be in an identifier. -/
def idContinue : CharSet :=
  union [idStart, ofCategories [nonspacingMark, spacingMark, decimalNumber, connectorPunctuation],
    .runs PropertyTables.otherIdContinue]

/-- Characters with another small form. -/
def changesLowercased : CharSet :=
  .either (.runs (smalls.map CaseRun.toCodeRun)) (between 0x130 0x130)

/-- Characters with another capital form. -/
def changesUppercased : CharSet :=
  .runs (capitals.map CaseRun.toCodeRun ++ longCapitals.map fun (code, _) => ⟨code, code, 1⟩)

/-- The common space and the characters that can be seen when they stand alone. -/
def visible : CharSet := .either (single ' ') (without graphemeBase (ofCategories [spaceSeparator]))

end ApiSchema.Text.Property
