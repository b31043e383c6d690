import FenceSync.Character.Age
import FenceSync.Character.Boundary

namespace FenceSync

/-!
# Properties of characters by name

* `PropertyQuery` asks for a property, or for one of its values.
* `CharSet.ofQuery` finds the characters that the answer is yes for.
-/

/-- A question about characters. -/
inductive PropertyQuery where
  /-- A trait, a category or a script. -/
  | named (name : Text)
  /-- A value of a property. -/
  | valued (name value : Text)
  deriving DecidableEq, Repr

/-- Why there is no answer. -/
inductive PropertyFault where
  | unknownName
  | unknownValue
  deriving DecidableEq, Repr

/-- The names of properties that are neither traits nor asked for by their values. -/
def otherProperties : List String := [
  "kAccountingNumeric", "cjkAccountingNumeric", "kOtherNumeric", "cjkOtherNumeric",
  "kPrimaryNumeric", "cjkPrimaryNumeric", "Numeric_Value", "nv", "Case_Folding", "cf",
  "kCompatibilityVariant", "cjkCompatibilityVariant", "Decomposition_Mapping", "dm",
  "FC_NFKC_Closure", "FC_NFKC", "Lowercase_Mapping", "lc", "NFKC_Casefold", "NFKC_CF",
  "NFKC_Simple_Casefold", "NFKC_SCF", "Simple_Case_Folding", "scf", "sfc",
  "Simple_Lowercase_Mapping", "slc", "Simple_Titlecase_Mapping", "stc",
  "Simple_Uppercase_Mapping", "suc", "Titlecase_Mapping", "tc", "Uppercase_Mapping", "uc",
  "Bidi_Mirroring_Glyph", "bmg", "Bidi_Paired_Bracket", "bpb", "kIICore", "cjkIICore",
  "kIRG_GSource", "cjkIRG_GSource", "kIRG_HSource", "cjkIRG_HSource", "kIRG_JSource",
  "cjkIRG_JSource", "kIRG_KPSource", "cjkIRG_KPSource", "kIRG_KSource", "cjkIRG_KSource",
  "kIRG_MSource", "cjkIRG_MSource", "kIRG_SSource", "cjkIRG_SSource", "kIRG_TSource",
  "cjkIRG_TSource", "kIRG_UKSource", "cjkIRG_UKSource", "kIRG_USource", "cjkIRG_USource",
  "kIRG_VSource", "cjkIRG_VSource", "kRSUnicode", "cjkRSUnicode", "Unicode_Radical_Stroke", "URS",
  "kEH_Cat", "kEH_Core", "kEH_Desc", "kEH_Func", "kEH_FVal", "kEH_HG", "kEH_IFAO", "kEH_JSesh",
  "kEH_NoMirror", "kEH_NoRotate", "kEH_UniK", "Equivalent_Unified_Ideograph", "EqUIdeo",
  "ISO_Comment", "isc", "Jamo_Short_Name", "JSN", "Name", "na", "Unicode_1_Name", "na1",
  "Name_Alias", "Block", "blk", "Bidi_Class", "bc", "Bidi_Paired_Bracket_Type", "bpt",
  "Canonical_Combining_Class", "ccc", "Decomposition_Type", "dt", "East_Asian_Width", "ea",
  "Hangul_Syllable_Type", "hst", "Indic_Conjunct_Break", "InCB", "Indic_Positional_Category",
  "InPC", "Indic_Syllabic_Category", "InSC", "Joining_Group", "jg", "Joining_Type", "jt",
  "Line_Break", "lb", "NFC_Quick_Check", "NFC_QC", "NFD_Quick_Check", "NFD_QC",
  "NFKC_Quick_Check", "NFKC_QC", "NFKD_Quick_Check", "NFKD_QC", "Numeric_Type", "nt",
  "Vertical_Orientation", "vo", "Bidi_Mirrored", "Bidi_M", "Composition_Exclusion", "CE",
  "Full_Composition_Exclusion", "Comp_Ex", "Changes_When_NFKC_Casefolded", "CWKCF",
  "Expands_On_NFC", "XO_NFC", "Expands_On_NFD", "XO_NFD", "Expands_On_NFKC", "XO_NFKC",
  "Expands_On_NFKD", "XO_NFKD"]

namespace CharSet

/-- The scripts that are known by name and have no characters. -/
def emptyScripts : List String := ["Unknown", "Zzzz", "Katakana_Or_Hiragana", "Hrkt"]

/-- The characters that are used with a script: its own ones but for those that are used with given
    scripts, and the ones that are used with it among those. -/
def scriptUse? (name : String) : Option CharSet :=
  (scriptTables.find? fun t => t.isNamed name).map fun t =>
    let uses := scriptUseRanges fun scripts => scripts.any t.isNamed
    .union (minus (.listed t.ranges) (.listed (scriptUseRanges fun _ => true))) (.listed uses)

/-- The properties that are asked for by value. -/
def valuedProperties : List (List String × (String → Option CharSet)) := [
  (["General_Category", "gc"], category?),
  (["Script", "sc"], fun v => (scriptRanges? v).map .listed),
  (["Script_Extensions", "scx"], scriptUse?),
  (["Age"], fun v => (ageRanges? v).map fun rss => unionOf (rss.map .listed)),
  (["Grapheme_Cluster_Break", "GCB"], graphemeClass?),
  (["Word_Break", "WB"], wordClass?),
  (["Sentence_Break", "SB"], sentenceClass?)]

/-- The characters that a question is answered with yes for. -/
def ofQuery : PropertyQuery → Except PropertyFault CharSet
  | .named name =>
    let name := String.ofList name
    -- three short names of categories are also those of properties without a set
    let isProperty := !(["cf", "sc", "lc"].any (sameName name)) &&
      ((valuedProperties.any fun p => p.1.any (sameName name)) ||
        otherProperties.any (sameName name))
    if isProperty then .error .unknownName
    else match trait? name with
      | some s => .ok s
      | none =>
        if isCategoryName name then
          match category? name with
          | some s => .ok s
          | none => .error .unknownValue
        else match scriptRanges? name with
          | some rs => .ok (.listed rs)
          | none =>
            .error (if emptyScripts.any (sameName name) then .unknownValue else .unknownName)
  | .valued name value =>
    let name := String.ofList name
    match valuedProperties.find? fun p => p.1.any (sameName name) with
    | some (_, find?) =>
      match find? (String.ofList value) with
      | some s => .ok s
      | none => .error .unknownValue
    | none =>
      let known := (trait? name).isSome || otherProperties.any (sameName name)
      .error (if known then .unknownValue else .unknownName)

end CharSet

end FenceSync
