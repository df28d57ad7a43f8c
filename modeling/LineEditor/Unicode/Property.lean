import LineEditor.Unicode.CategoryTable
import LineEditor.Unicode.PropertyTable
import LineEditor.Unicode.ScriptTable

/-!
Sets of characters by the name of a property. Names are compared loosely: case, spaces, hyphens,
underscores and a leading `is` do not count. A name alone is tried as a binary property, then as
a general category, then as a script. The versions that characters came with are not among the
properties, nor are the classes by which text is cut into words and sentences.
-/

namespace LineEditor.Unicode

/-- The name as loose matching sees it. The name `isc` is not the category `c`. -/
def loose (name : List Char) : List Char :=
  let startsWithIs := (name.take 2).map Char.toLower = ['i', 's']
  let kept := ((if startsWithIs then name.drop 2 else name).filter fun c =>
    c.toNat ≤ 0x7F && c ≠ ' ' && c ≠ '_' && c ≠ '-').map Char.toLower
  if startsWithIs && kept = ['c'] then ['i', 's', 'c'] else kept

def Named.isCalled (entry : Named) (name : List Char) : Bool :=
  entry.names.any fun known => loose known.toList = name

def find? (entries : List Named) (name : List Char) : Option CharSet :=
  (entries.find? (·.isCalled name)).map (·.set)

def ofCategories (names : List String) : CharSet :=
  CharSet.unions ((categories.filter fun entry => entry.names.any (names.contains ·)).map (·.set))

def listed (name : String) : CharSet :=
  ((listedProperties.find? (·.names.contains name)).map (·.set)).getD .empty

/-! ### Properties derived from others -/

def lowercase : CharSet := (ofCategories ["Ll"]).union (listed "Other_Lowercase")

def uppercase : CharSet := (ofCategories ["Lu"]).union (listed "Other_Uppercase")

def cased : CharSet := .unions [lowercase, uppercase, ofCategories ["Lt"]]

def alphabetic : CharSet :=
  .unions [lowercase, uppercase, ofCategories ["Lt", "Lm", "Lo", "Nl"], listed "Other_Alphabetic"]

def math : CharSet := (ofCategories ["Sm"]).union (listed "Other_Math")

def graphemeExtend : CharSet :=
  (ofCategories ["Mn", "Me"]).union (listed "Other_Grapheme_Extend")

def graphemeBase : CharSet :=
  (CharSet.union (ofCategories ["Cc", "Cf", "Co", "Cn", "Zl", "Zp"]) graphemeExtend).union
    ⟨#[⟨0xD800, 0xDFFF⟩]⟩ |>.complement

def patternCharacters : CharSet :=
  (listed "Pattern_Syntax").union (listed "Pattern_White_Space")

def idStart : CharSet :=
  ((ofCategories ["Lu", "Ll", "Lt", "Lm", "Lo", "Nl"]).union (listed "Other_ID_Start")).diff
    patternCharacters

def idContinue : CharSet :=
  (CharSet.unions [idStart, ofCategories ["Mn", "Mc", "Nd", "Pc"],
    listed "Other_ID_Continue"]).diff patternCharacters

/-- The characters that compatibility normalisation takes out of an identifier. -/
def unstableContinue : CharSet :=
  .ofTable "37A 309B-309C FC5E-FC63 FDFA-FDFB FE70 FE72 FE74 FE76 FE78 FE7A FE7C FE7E"

def unstableStart : CharSet :=
  unstableContinue.union (.ofTable "E33 EB3 FF9E-FF9F")

def caseIgnorable : CharSet :=
  (ofCategories ["Mn", "Me", "Cf", "Lm", "Sk"]).union
    (.ofTable "27 2E 3A B7 387 55F 5F4 2018-2019 2024 2027 FE13 FE52 FE55 FF07 FF0E FF1A")

def changesWhenCasefolded : CharSet :=
  (listed "Changes_When_Lowercased").symmDiff (.ofTable
    "B5 DF 149 17F 345 3C2 3D0-3D1 3D5-3D6 3F0-3F1 3F5 587 13A0-13F5 13F8-13FD 1C80-1C88
     1E9A-1E9B 1F80-1F87 1F90-1F97 1FA0-1FA7 1FB2-1FB4 1FB7 1FC2-1FC4 1FC7 1FF2-1FF4 1FF7
     AB70-ABBF FB00-FB06 FB13-FB17")

def changesWhenTitlecased : CharSet :=
  (listed "Changes_When_Uppercased").symmDiff (.ofTable
    "1C4-1C5 1C7-1C8 1CA-1CB 1F1-1F2 10D0-10FA 10FD-10FF 1F88-1F8F 1F98-1F9F 1FA8-1FAF 1FBC
     1FCC 1FFC")

def changesWhenCasemapped : CharSet :=
  .unions [listed "Changes_When_Lowercased", listed "Changes_When_Uppercased",
    changesWhenTitlecased]

def derivedProperties : List (List String × (Unit → CharSet)) := [
  (["Alphabetic", "Alpha"], fun _ => alphabetic),
  (["Case_Ignorable", "CI"], fun _ => caseIgnorable),
  (["Cased"], fun _ => cased),
  (["Changes_When_Casefolded", "CWCF"], fun _ => changesWhenCasefolded),
  (["Changes_When_Casemapped", "CWCM"], fun _ => changesWhenCasemapped),
  (["Changes_When_Titlecased", "CWT"], fun _ => changesWhenTitlecased),
  (["Grapheme_Base", "Gr_Base"], fun _ => graphemeBase),
  (["Grapheme_Extend", "Gr_Ext"], fun _ => graphemeExtend),
  (["ID_Continue", "IDC"], fun _ => idContinue),
  (["ID_Start", "IDS"], fun _ => idStart),
  (["Lowercase", "Lower"], fun _ => lowercase),
  (["Math"], fun _ => math),
  (["Uppercase", "Upper"], fun _ => uppercase),
  (["XID_Continue", "XIDC"], fun _ => idContinue.diff unstableContinue),
  (["XID_Start", "XIDS"], fun _ => idStart.diff unstableStart)]

/-! ### Looking a name up -/

def binary? (name : List Char) : Option CharSet :=
  match derivedProperties.find? fun entry => entry.1.any fun known => loose known.toList = name with
  | some entry => some (entry.2 ())
  | none => find? listedProperties name

def categoryGroups : List (List String × (Unit → CharSet)) := [
  (["Any"], fun _ => .all),
  (["ASCII"], fun _ => .ascii),
  (["Assigned"], fun _ => (ofCategories ["Cn"]).complement),
  (["C", "Other"], fun _ => ofCategories ["Cc", "Cf", "Cn", "Co"]),
  (["L", "Letter"], fun _ => ofCategories ["Lu", "Ll", "Lt", "Lm", "Lo"]),
  (["LC", "Cased_Letter"], fun _ => ofCategories ["Lu", "Ll", "Lt"]),
  (["M", "Mark", "Combining_Mark"], fun _ => ofCategories ["Mn", "Mc", "Me"]),
  (["N", "Number"], fun _ => ofCategories ["Nd", "Nl", "No"]),
  (["P", "Punctuation", "punct"],
    fun _ => ofCategories ["Pc", "Pd", "Pe", "Pf", "Pi", "Po", "Ps"]),
  (["S", "Symbol"], fun _ => ofCategories ["Sc", "Sk", "Sm", "So"]),
  (["Z", "Separator"], fun _ => ofCategories ["Zl", "Zp", "Zs"])]

def category? (name : List Char) : Option CharSet :=
  match categoryGroups.find? fun entry => entry.1.any fun known => loose known.toList = name with
  | some entry => some (entry.2 ())
  | none => find? categories name

def script? (name : List Char) : Option CharSet := find? scripts name

def scriptExtensions? (name : List Char) : Option CharSet :=
  match scripts.find? (·.isCalled name) with
  | none => none
  | some entry =>
    match scriptExtensions.find? fun wider => wider.names.any (entry.names.contains ·) with
    | some wider => some wider.set
    | none => some entry.set

/-- The characters that have the property of this name. The short names of three binary
properties are taken by categories. -/
def property? (name : List Char) : Option CharSet :=
  let name := loose name
  let binary :=
    if name = ['c', 'f'] ∨ name = ['s', 'c'] ∨ name = ['l', 'c'] then none else binary? name
  binary <|> category? name <|> script? name

def propertyValue? (name value : List Char) : Option CharSet :=
  let name := loose name
  let value := loose value
  if name = "gc".toList ∨ name = "generalcategory".toList then category? value
  else if name = "sc".toList ∨ name = "script".toList then script? value
  else if name = "scx".toList ∨ name = "scriptextensions".toList then scriptExtensions? value
  else none

/-! ### Classes that patterns name -/

def numbers : CharSet := ofCategories ["Nd", "Nl", "No"]

def digits : CharSet := ofCategories ["Nd"]

def whitespace : CharSet := listed "White_Space"

def wordCharacters : CharSet :=
  .unions [alphabetic, ofCategories ["Mn", "Mc", "Me", "Nd", "Pc"], listed "Join_Control"]

end LineEditor.Unicode
