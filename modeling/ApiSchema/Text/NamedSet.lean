import ApiSchema.Text.Property
import ApiSchema.Text.ScriptTables

/-!
# Named sets of characters

Properties, categories and scripts by name.  Names are compared without regard to case, spaces,
hyphens and underscores, and `is` in front of a name does not count.
-/

namespace ApiSchema.Text.NamedSet

open CharSet Property

/-- A name without what does not count in it. -/
def simplified (name : String) : String :=
  let shown := name.toList.map Char.toLower
  let rest := if shown.take 2 == ['i', 's'] then shown.drop 2 else shown
  String.ofList (rest.filter fun c => c.toNat < 0x80 && c ≠ ' ' && c ≠ '_' && c ≠ '-')

def properties : List (List String × CharSet) :=
  [(["alphabetic", "alpha"], alphabetic),
   (["asciihexdigit", "ahex"], .both (between 0 0x7F) (.runs PropertyTables.hexDigit)),
   (["bidicontrol", "bidic"], .runs PropertyTables.bidiControl),
   (["bidimirrored", "bidim"], .runs PropertyTables.bidiMirrored),
   (["caseignorable", "ci"], caseIgnorable),
   (["cased"], cased),
   (["changeswhencasemapped", "cwcm"], .either changesLowercased changesUppercased),
   (["changeswhenlowercased", "cwl"], changesLowercased),
   (["changeswhenuppercased", "cwu"], changesUppercased),
   (["dash"], .runs PropertyTables.dash),
   (["defaultignorablecodepoint", "di"], .runs PropertyTables.defaultIgnorableCodePoint),
   (["deprecated", "dep"], .runs PropertyTables.deprecated),
   (["diacritic", "dia"], .runs PropertyTables.diacritic),
   (["emoji"], .runs PropertyTables.emoji),
   (["emojicomponent", "ecomp"], .runs PropertyTables.emojiComponent),
   (["emojimodifier", "emod"], .runs PropertyTables.emojiModifier),
   (["emojimodifierbase", "ebase"], .runs PropertyTables.emojiModifierBase),
   (["emojipresentation", "epres"], .runs PropertyTables.emojiPresentation),
   (["extendedpictographic", "extpict"], .runs PropertyTables.extendedPictographic),
   (["extender", "ext"], .runs PropertyTables.extender),
   (["graphemebase", "grbase"], graphemeBase),
   (["graphemeextend", "grext"], graphemeExtend),
   (["hexdigit", "hex"], .runs PropertyTables.hexDigit),
   (["idcontinue", "idc"], idContinue),
   (["ideographic", "ideo"], .runs PropertyTables.ideographic),
   (["idsbinaryoperator", "idsb"], .runs PropertyTables.idsBinaryOperator),
   (["idstart", "ids"], idStart),
   (["idstrinaryoperator", "idst"], .runs PropertyTables.idsTrinaryOperator),
   (["joincontrol", "joinc"], .runs PropertyTables.joinControl),
   (["logicalorderexception", "loe"], .runs PropertyTables.logicalOrderException),
   (["lowercase", "lower"], lowercase),
   (["math"], math),
   (["noncharactercodepoint", "nchar"], .runs PropertyTables.noncharacterCodePoint),
   (["patternsyntax", "patsyn"], .runs PropertyTables.patternSyntax),
   (["patternwhitespace", "patws"], .runs PropertyTables.patternWhiteSpace),
   (["quotationmark", "qmark"], .runs PropertyTables.quotationMark),
   (["radical"], .runs PropertyTables.radical),
   (["regionalindicator", "ri"], .runs PropertyTables.regionalIndicator),
   (["sentenceterminal", "sterm"], .runs PropertyTables.sentenceTerminal),
   (["softdotted", "sd"], .runs PropertyTables.softDotted),
   (["terminalpunctuation", "term"], .runs PropertyTables.terminalPunctuation),
   (["unifiedideograph", "uideo"], .runs PropertyTables.unifiedIdeograph),
   (["uppercase", "upper"], uppercase),
   (["variationselector", "vs"], .runs PropertyTables.variationSelector),
   (["whitespace", "wspace", "space"], whiteSpace),
   (["xidcontinue", "xidc"], without idContinue (.runs PropertyTables.openIdContinue)),
   (["xidstart", "xids"], without idStart (.runs PropertyTables.openIdStart))]

/-- Unions of categories with their names. -/
def categoryGroups : List (List String × CharSet) :=
  [(["any"], all),
   (["assigned"], ofCategories Category.all),
   (["ascii"], between 0 0x7F),
   (["l", "letter"], ofCategories Category.letters),
   (["lc", "casedletter"], ofCategories Category.casedLetters),
   (["m", "mark", "combiningmark"], ofCategories Category.marks),
   (["n", "number"], ofCategories Category.numbers),
   (["p", "punctuation", "punct"], ofCategories Category.punctuation),
   (["s", "symbol"], ofCategories Category.symbols),
   (["z", "separator"], ofCategories Category.separators),
   (["c", "other"], .either (ofCategories Category.others) unassigned),
   (["cn", "unassigned"], unassigned)]

/-- The set that a simplified name has in a list. -/
def find (name : String) (sets : List (List String × CharSet)) : Option CharSet :=
  (sets.find? fun entry => entry.1.contains name).map (·.2)

/-- The category, or union of categories, with a simplified name. -/
def category? (name : String) : Option CharSet :=
  (find name categoryGroups).or
    ((Category.all.find? fun category => category.names.contains name).map fun category =>
      .runs category.runs)

def script? (name : String) : Option CharSet :=
  (scripts.find? fun script => script.names.contains name).map fun script => .runs script.runs

/-- The set with a name: a property, a category or a script. -/
def ofName? (name : String) : Option CharSet :=
  let name := simplified name
  ((find name properties).or (category? name)).or (script? name)

/-- The set of the characters for which a property has a value. -/
def ofValue? (property value : String) : Option CharSet :=
  let value := simplified value
  match simplified property with
  | "gc" => category? value
  | "generalcategory" => category? value
  | "sc" => script? value
  | "script" => script? value
  | _ => none

end ApiSchema.Text.NamedSet
