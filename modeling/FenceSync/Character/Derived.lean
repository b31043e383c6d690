import FenceSync.Character.Set

namespace FenceSync

/-!
# Categories and traits as sets

* `CharSet.category?` is a general category or several of them.
* `CharSet.trait?` is a trait: one that is listed, or one that follows from others by a rule.
-/

namespace CharSet

/-! ### Categories -/

/-- The characters of a category, by its first name. -/
def category (name : String) : CharSet := .listed (categoryRanges name)

/-- The characters of several categories. -/
def categories (names : List String) : CharSet := unionOf (names.map category)

/-- The characters of any category, all but the surrogates, which are no characters here. -/
def assigned : CharSet := unionOf (categoryTables.map fun t => .listed t.ranges)

/-- The characters without a category of their own. -/
def unassigned : CharSet := .compl assigned

/-- Two names are the same. -/
def sameName (a b : String) : Bool := looseName a.toList == looseName b.toList

/-- The characters of a category or of a group of categories. -/
def category? (name : String) : Option CharSet :=
  let fits (names : List String) : Bool := names.any (sameName name)
  if fits ["Any"] then some .all
  else if fits ["Assigned"] then some assigned
  else if fits ["ASCII"] then some ascii
  else if fits ["Cn", "Unassigned"] then some unassigned
  else if fits ["C", "Other"] then some (.union (categories ["Cc", "Cf", "Co"]) unassigned)
  else match categoryGroups.find? fun g => fits g.1 with
    | some g => some (categories g.2)
    | none => (CharTable.named? categoryTables name).map .listed

/-- The name is that of a category, whether characters can have it or not. -/
def isCategoryName (name : String) : Bool :=
  (category? name).isSome || ["Cs", "Surrogate"].any (sameName name)

/-! ### Traits -/

/-- The characters with a trait that is listed. -/
def trait (name : String) : CharSet := .listed (traitRanges name)

/-- Small letters. -/
def lowercase : CharSet := .union (category "Ll") (trait "Other_Lowercase")

/-- Capital letters. -/
def uppercase : CharSet := .union (category "Lu") (trait "Other_Uppercase")

/-- Letters with a case. -/
def cased : CharSet := unionOf [lowercase, uppercase, category "Lt"]

/-- All letters. -/
def alphabetic : CharSet :=
  unionOf [cased, categories ["Lm", "Lo", "Nl"], trait "Other_Alphabetic"]

/-- The characters at which some syntax may cut a text. -/
def patternMarks : CharSet := .union (trait "Pattern_Syntax") (trait "Pattern_White_Space")

/-- What a name starts with. -/
def nameStart : CharSet :=
  minus (unionOf [categories ["Lu", "Ll", "Lt", "Lm", "Lo", "Nl"], trait "Other_ID_Start"])
    patternMarks

/-- What a name consists of. -/
def nameRest : CharSet :=
  minus (unionOf [nameStart, categories ["Mn", "Mc", "Nd", "Pc"], trait "Other_ID_Continue"])
    patternMarks

/-- Characters of names with a compatible form that is no name. -/
def nameExceptions : CharSet :=
  .listed (.ofLines ["37A 309B-309C FC5E-FC63 FDFA-FDFB FE70-FE7E/2"])

/-- Characters that start a name, but not in every form. -/
def startExceptions : CharSet := .union nameExceptions (.listed (.ofLines ["E33 EB3 FF9E-FF9F"]))

/-- Characters that extend the one before them. -/
def graphemeExtend : CharSet := .union (categories ["Me", "Mn"]) (trait "Other_Grapheme_Extend")

/-- Characters that are not shown where nothing is known about them. -/
def defaultIgnorable : CharSet :=
  minus (unionOf [trait "Other_Default_Ignorable_Code_Point", category "Cf",
      trait "Variation_Selector"])
    (unionOf [trait "White_Space", .listed (.ofLines ["FFF9-FFFB 13430-13440"]),
      trait "Prepended_Concatenation_Mark"])

/-- Characters within words on which the case of letters does not depend. -/
def caseIgnorable : CharSet :=
  .union (categories ["Mn", "Me", "Cf", "Lm", "Sk"])
    (.listed (.ofLines [
      "27 2E 3A B7 387 55F 5F4 2018-2019 2024 2027 FE13 FE52 FE55 FF07 FF0E FF1A"]))

/-- The traits that follow from others, by their names. -/
def derivedTraits : List (List String × CharSet) := [
  (["Alphabetic", "Alpha"], alphabetic),
  (["Case_Ignorable", "CI"], caseIgnorable),
  (["Cased"], cased),
  (["Changes_When_Casemapped", "CWCM"],
    unionOf [trait "Changes_When_Lowercased", trait "Changes_When_Uppercased",
      trait "Changes_When_Titlecased"]),
  (["Default_Ignorable_Code_Point", "DI"], defaultIgnorable),
  (["Grapheme_Base", "Gr_Base"],
    minus assigned (.union (categories ["Cc", "Cf", "Co", "Zl", "Zp"]) graphemeExtend)),
  (["Grapheme_Extend", "Gr_Ext"], graphemeExtend),
  (["ID_Continue", "IDC"], nameRest),
  (["ID_Start", "IDS"], nameStart),
  (["Lowercase", "Lower"], lowercase),
  (["Math"], .union (category "Sm") (trait "Other_Math")),
  (["Uppercase", "Upper"], uppercase),
  (["XID_Continue", "XIDC"], minus nameRest nameExceptions),
  (["XID_Start", "XIDS"], minus nameStart startExceptions)]

/-- The characters with a trait. -/
def trait? (name : String) : Option CharSet :=
  match CharTable.named? traitTables name with
  | some rs => some (.listed rs)
  | none => (derivedTraits.find? fun t => t.1.any (sameName name)).map (·.2)

end CharSet

end FenceSync
