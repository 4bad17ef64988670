import Conformance.Pattern.Boundary
import Conformance.Pattern.Problem
import Conformance.Text.Age

/-!
# Names of properties

The classes of characters that a pattern names in braces: by a general category, a script or another
property alone, or by a property with its value. A name that Unicode does not have is told from one
of which patterns know no characters.

## Main definitions

* `Charset.property`: the class of a name, as in `\p{Lu}`
* `Charset.propertyValue`: the class of a name with a value, as in `\p{sc=Greek}`
-/

namespace Conformance.Charset

open Text

/-- Names of properties are compared without case, blanks, hyphens, underscores and a leading
`is`. -/
def normalName (name : List Char) : String :=
  let core := match name with
    | i :: s :: rest => if i.toLower == 'i' && s.toLower == 's' then rest else name
    | _ => name
  let kept := core.filter fun c => isAscii c && c != ' ' && c != '_' && c != '-'
  let lower := kept.map Char.toLower
  String.ofList (if lower == ['c'] && core.length < name.length then ['i', 's', 'c'] else lower)

/-- The long names of the general categories and their groups. -/
def categoryNames : List (String × String) :=
  [("other", "c"), ("control", "cc"), ("cntrl", "cc"), ("format", "cf"), ("unassigned", "cn"),
   ("privateuse", "co"), ("letter", "l"), ("casedletter", "lc"), ("lowercaseletter", "ll"),
   ("modifierletter", "lm"), ("otherletter", "lo"), ("titlecaseletter", "lt"),
   ("uppercaseletter", "lu"), ("mark", "m"), ("combiningmark", "m"), ("spacingmark", "mc"),
   ("enclosingmark", "me"), ("nonspacingmark", "mn"), ("number", "n"), ("decimalnumber", "nd"),
   ("digit", "nd"), ("letternumber", "nl"), ("othernumber", "no"), ("punctuation", "p"),
   ("punct", "p"), ("connectorpunctuation", "pc"), ("dashpunctuation", "pd"),
   ("closepunctuation", "pe"), ("finalpunctuation", "pf"), ("initialpunctuation", "pi"),
   ("otherpunctuation", "po"), ("openpunctuation", "ps"), ("symbol", "s"),
   ("currencysymbol", "sc"), ("modifiersymbol", "sk"), ("mathsymbol", "sm"),
   ("othersymbol", "so"), ("separator", "z"), ("lineseparator", "zl"),
   ("paragraphseparator", "zp"), ("spaceseparator", "zs")]

/-- The characters of a general category, or of a group of them, by its short name. -/
def ofShortName? (short : List Char) : Option Charset :=
  match short with
  | [a] =>
    if "clmnpsz".toList.contains a then some (ofCategory fun k => k.major == a.toUpper)
    else Option.none
  | ['l', 'c'] =>
    some (ofCategory fun k => k == ⟨'L', 'l'⟩ || k == ⟨'L', 'u'⟩ || k == ⟨'L', 't'⟩)
  | [a, b] =>
    if (categoryNames.map Prod.snd).contains (String.ofList [a, b]) then
      some (ofCategory (· == ⟨a.toUpper, b⟩))
    else Option.none
  | _ => Option.none

/-- The class of a general category, by a normalised name. -/
def category? (name : String) : Option Charset :=
  if name == "any" then some all
  else if name == "assigned" then some (ofCategory (· != ⟨'C', 'n'⟩))
  else if name == "ascii" then some ascii
  else match categoryNames.lookup name with
    | some short => ofShortName? short.toList
    | Option.none => ofShortName? name.toList

/-- The properties that hold or do not hold of a character. -/
def binary? : String → Option Charset
  | "alphabetic" | "alpha" => some alphabetic
  | "whitespace" | "wspace" | "space" => some blank
  | "graphemeextend" | "grext" => some extender
  | "joincontrol" | "joinc" => some joiner
  | name => tabled? name

/-- The characters of a script, by a normalised name. -/
def script? (name : String) : Option Charset :=
  (scriptCode? name).map ofScript

/-- The characters that are used in a script, by a normalised name: those of the script, unless
their scripts are listed, and those for which the script is listed. -/
def scriptExtension? (name : String) : Option Charset :=
  (scriptCode? name).map fun code =>
    let listed := extensionsOf code
    let ranges (entries : List (Nat × Nat × Bool)) : Charset :=
      ofRanges (entries.map fun e => (e.1, e.2.1))
    ((ofScript code).diff (ranges listed)).union (ranges (listed.filter (·.2.2)))

/-- The general categories and scripts without a character, by their normalised names. -/
def emptyNames : List String :=
  ["cs", "surrogate", "hrkt", "katakanaorhiragana", "zzzz", "unknown"]

/-- The properties whose values patterns do not know, by their normalised names. -/
def unvaluedNames : List String :=
  ["nv numericvalue", "bmg bidimirroringglyph", "bpb bidipairedbracket", "cf casefolding",
   "dm decompositionmapping", "equideo equivalentunifiedideograph", "fcnfkc fcnfkcclosure",
   "lc lowercasemapping", "nfkccf nfkccasefold", "nfkcscf nfkcsimplecasefold",
   "scf simplecasefolding sfc", "slc simplelowercasemapping", "stc simpletitlecasemapping",
   "suc simpleuppercasemapping", "tc titlecasemapping", "uc uppercasemapping", "isc ocomment",
   "jsn jamoshortname", "na name", "na1 unicode1name", "namealias", "blk block", "bc bidiclass",
   "bpt bidipairedbrackettype", "ccc canonicalcombiningclass", "dt decompositiontype",
   "ea eastasianwidth", "hst hangulsyllabletype", "incb indicconjunctbreak",
   "inpc indicpositionalcategory", "insc indicsyllabiccategory", "jg joininggroup",
   "jt joiningtype", "lb linebreak", "nfcqc nfcquickcheck", "nfdqc nfdquickcheck",
   "nfkcqc nfkcquickcheck", "nfkdqc nfkdquickcheck", "nt numerictype", "vo verticalorientation",
   "ce compositionexclusion", "compex fullcompositionexclusion",
   "cwkcf changeswhennfkccasefolded", "grlink graphemelink", "hyphen", "idcompatmathstart",
   "idcompatmathcontinue", "idsu idsunaryoperator", "mcm modifiercombiningmark",
   "oalpha otheralphabetic", "odi otherdefaultignorablecodepoint", "ogrext othergraphemeextend",
   "oidc otheridcontinue", "oids otheridstart", "olower otherlowercase", "omath othermath",
   "oupper otheruppercase", "pcm prependedconcatenationmark", "xonfc expandsonnfc",
   "xonfd expandsonnfd", "xonfkc expandsonnfkc", "xonfkd expandsonnfkd",
   "cjkaccountingnumeric kaccountingnumeric", "cjkothernumeric kothernumeric",
   "cjkprimarynumeric kprimarynumeric", "cjkcompatibilityvariant kcompatibilityvariant",
   "cjkiicore kiicore", "cjkirggsource kirggsource", "cjkirghsource kirghsource",
   "cjkirgjsource kirgjsource", "cjkirgkpsource kirgkpsource", "cjkirgksource kirgksource",
   "cjkirgmsource kirgmsource", "cjkirgssource kirgssource", "cjkirgtsource kirgtsource",
   "cjkirguksource kirguksource", "cjkirgusource kirgusource", "cjkirgvsource kirgvsource",
   "cjkmandarin kmandarin", "cjktotalstrokes ktotalstrokes", "cjkunihancore2020 kunihancore2020",
   "cjkrsunicode krsunicode unicoderadicalstroke urs", "kehcat", "kehcore", "kehdesc", "kehhg",
   "kehifao", "kehjsesh", "kehnomirror", "kehnorotate"]

/-- The property has no values that patterns know: it is one of those, or it holds or does not
hold. -/
def isUnvalued (name : String) : Bool :=
  (binary? name).isSome ||
    unvaluedNames.any fun entry => (splitAt ' ' entry.toList).contains name.toList

/-- The class of a property of a single name, such as `Lu`, `Alphabetic` or `Greek`. -/
def property (name : List Char) : Except Pattern.Problem Charset :=
  let norm := normalName name
  match ((binary? norm).or (category? norm)).or (script? norm) with
  | some s => .ok s
  | Option.none =>
    .error (if emptyNames.contains norm then .propertyValueUnknown else .propertyUnknown)

/-- The class of a property given with a value, such as `gc=Lu`. -/
def propertyValue (name value : List Char) : Except Pattern.Problem Charset :=
  let valued (s : Option Charset) : Except Pattern.Problem Charset :=
    s.elim (.error .propertyValueUnknown) .ok
  let value := normalName value
  match normalName name with
  | "gc" | "generalcategory" | "category" => valued (category? value)
  | "sc" | "script" => valued (script? value)
  | "scx" | "scriptextensions" => valued (scriptExtension? value)
  | "age" => valued ((agesUpTo? value).map ofRanges)
  | "gcb" | "graphemeclusterbreak" => valued (firstHolding? graphemeBreaks value)
  | "wb" | "wordbreak" => valued (firstHolding? wordBreaks value)
  | "sb" | "sentencebreak" => valued (firstHolding? sentenceBreaks value)
  | name => .error (if isUnvalued name then .propertyValueUnknown else .propertyUnknown)

end Conformance.Charset
