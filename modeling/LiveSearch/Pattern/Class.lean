import LiveSearch.Pattern.Tree
import LiveSearch.Unicode.Age
import LiveSearch.Unicode.Folding
import LiveSearch.Unicode.Script
import LiveSearch.Unicode.Segmentation

/-!
# Character classes of patterns

The sets of code points behind the named classes, the short classes, and references to Unicode
properties.  Names of properties and values are compared without case, spaces, hyphens,
underscores and a leading `is`.
-/

namespace LiveSearch

namespace Pattern

open Unicode

/-- The members of a named class. -/
def AsciiClass.codes : AsciiClass → CodeSet
  | .alnum => ⟨[(0x30, 0x39), (0x41, 0x5A), (0x61, 0x7A)]⟩
  | .alpha => ⟨[(0x41, 0x5A), (0x61, 0x7A)]⟩
  | .ascii => ⟨[(0, 0x7F)]⟩
  | .blank => ⟨[(9, 9), (0x20, 0x20)]⟩
  | .cntrl => ⟨[(0, 0x1F), (0x7F, 0x7F)]⟩
  | .digit => ⟨[(0x30, 0x39)]⟩
  | .graph => ⟨[(0x21, 0x7E)]⟩
  | .lower => ⟨[(0x61, 0x7A)]⟩
  | .print => ⟨[(0x20, 0x7E)]⟩
  | .punct => ⟨[(0x21, 0x2F), (0x3A, 0x40), (0x5B, 0x60), (0x7B, 0x7E)]⟩
  | .space => ⟨[(9, 13), (0x20, 0x20)]⟩
  | .upper => ⟨[(0x41, 0x5A)]⟩
  | .word => ⟨[(0x30, 0x39), (0x41, 0x5A), (0x5F, 0x5F), (0x61, 0x7A)]⟩
  | .xdigit => ⟨[(0x30, 0x39), (0x41, 0x46), (0x61, 0x66)]⟩

/-- The characters of words. -/
def wordCodes : CodeSet := Property.wordCodes

/-- The decimal digits of all scripts. -/
def digitCodes : CodeSet := Category.decimalNumber.codes

/-- The white space of all scripts. -/
def spaceCodes : CodeSet := Property.whiteSpace.codes

/-- The members of a short class. -/
def ShortClass.codes : ShortClass → CodeSet
  | .digit => digitCodes
  | .space => spaceCodes
  | .word => wordCodes

/-- The members of a short class among the basic Latin characters. -/
def ShortClass.asciiCodes : ShortClass → CodeSet
  | .digit => AsciiClass.digit.codes
  | .space => AsciiClass.space.codes
  | .word => AsciiClass.word.codes

namespace PropertyQuery

/-- A name without case, separators and a leading `is`. -/
def normalize (name : String) : String :=
  let text := name.toList
  let (stripped, body) := match text with
    | first :: second :: rest =>
      if (first = 'i' ∨ first = 'I') ∧ (second = 's' ∨ second = 'S') then (true, rest)
      else (false, text)
    | _ => (false, text)
  let kept := (body.filter fun char =>
    char.toNat < 0x80 && char ≠ ' ' && char ≠ '_' && char ≠ '-').map Char.toLower
  if stripped && kept == ['c'] then "isc" else String.ofList kept

/-- The groups of general categories by name. -/
def categories? (name : String) : Option (List Category) :=
  ([(["l", "letter"], Category.letters), (["lc", "casedletter"], Category.casedLetters),
    (["m", "mark", "combiningmark"], Category.marks), (["n", "number"], Category.numbers),
    (["p", "punctuation", "punct"], Category.punctuation), (["s", "symbol"], Category.symbols),
    (["z", "separator"], Category.separators),
    (["lu", "uppercaseletter"], [.uppercaseLetter]),
    (["ll", "lowercaseletter"], [.lowercaseLetter]),
    (["lt", "titlecaseletter"], [.titlecaseLetter]),
    (["lm", "modifierletter"], [.modifierLetter]), (["lo", "otherletter"], [.otherLetter]),
    (["mn", "nonspacingmark"], [.nonspacingMark]), (["mc", "spacingmark"], [.spacingMark]),
    (["me", "enclosingmark"], [.enclosingMark]),
    (["nd", "decimalnumber", "digit"], [.decimalNumber]),
    (["nl", "letternumber"], [.letterNumber]), (["no", "othernumber"], [.otherNumber]),
    (["pc", "connectorpunctuation"], [.connectorPunctuation]),
    (["pd", "dashpunctuation"], [.dashPunctuation]),
    (["ps", "openpunctuation"], [.openPunctuation]),
    (["pe", "closepunctuation"], [.closePunctuation]),
    (["pi", "initialpunctuation"], [.initialPunctuation]),
    (["pf", "finalpunctuation"], [.finalPunctuation]),
    (["po", "otherpunctuation"], [.otherPunctuation]),
    (["sm", "mathsymbol"], [.mathSymbol]), (["sc", "currencysymbol"], [.currencySymbol]),
    (["sk", "modifiersymbol"], [.modifierSymbol]), (["so", "othersymbol"], [.otherSymbol]),
    (["zs", "spaceseparator"], [.spaceSeparator]), (["zl", "lineseparator"], [.lineSeparator]),
    (["zp", "paragraphseparator"], [.paragraphSeparator]),
    (["cc", "control", "cntrl"], [.control]), (["cf", "format"], [.format]),
    (["co", "privateuse"], [Category.privateUse])] :
      List (List String × List Category)).findSome? fun entry =>
    if entry.1.contains name then some entry.2 else none

/-- The code points of a general category, or of one of the classes that count as such. -/
def categoryCodes? (name : String) : Option CodeSet :=
  if name = "any" then some ⟨[(0, CodeSet.lastCode)]⟩
  else if name = "ascii" then some ⟨[(0, 0x7F)]⟩
  else if name = "assigned" then some Category.assigned
  else if name = "cn" ∨ name = "unassigned" then some Category.unassigned
  else if name = "c" ∨ name = "other" then
    some (.unions [Category.unassigned, Category.union [.control, .format, .privateUse]])
  else (categories? name).map Category.union

/-- The script with this name. -/
def script? (name : String) : Option Script := Script.all.find? (·.names.contains name)

/-- The code points that a single name refers to: a binary property, a general category or a
script.  Three abbreviations of properties are taken for categories. -/
def namedCodes? (name : String) : Option CodeSet :=
  let property := if ["cf", "sc", "lc"].contains name then none
    else Property.all.find? (·.names.contains name)
  match property with
  | some property => some property.codes
  | none => (categoryCodes? name).or ((script? name).map Script.codes)

/-- The code points of the first of several values that has this name. -/
def valueCodes? (values : List Property) (name : String) : Option CodeSet :=
  (values.find? (·.names.contains name)).map Property.codes

/-- The code points that a name with a value refers to. -/
def valuedCodes? (name value : String) : Option CodeSet :=
  if ["gc", "generalcategory"].contains name then categoryCodes? value
  else if ["sc", "script"].contains name then (script? value).map Script.codes
  else if ["scx", "scriptextensions"].contains name then (script? value).map Script.extensions
  else if name = "age" then Version.codesThrough? value
  else if ["gcb", "graphemeclusterbreak"].contains name then
    valueCodes? Segmentation.graphemeClusterBreaks value
  else if ["wb", "wordbreak"].contains name then valueCodes? Segmentation.wordBreaks value
  else if ["sb", "sentencebreak"].contains name then valueCodes? Segmentation.sentenceBreaks value
  else none

/-- The code points that a reference stands for. -/
def codes? : PropertyQuery → Option CodeSet
  | .named name => namedCodes? (normalize name)
  | .valued name value => valuedCodes? (normalize name) (normalize value)

end PropertyQuery

end Pattern

end LiveSearch
