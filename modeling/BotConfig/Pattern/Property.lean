/-!
Named properties of characters, as far as patterns can tell them apart on symbols.

A row has the names of a property, the members among the ASCII characters and the two characters
that are variants of an ASCII letter, and the memory that a set of all its members takes.
-/

namespace BotConfig.Pattern.Property

/-- A property. -/
structure Row where
  names : List String
  members : List (Nat × Nat)
  weight : Nat

/-- Properties that a character has or has not. -/
def binary : List Row := [
  ⟨["alpha", "alphabetic"], [(0x41, 0x5A), (0x61, 0x7A), (0x17F, 0x17F), (0x212A, 0x212A)], 45404⟩,
  ⟨["ahex", "asciihexdigit"], [(0x30, 0x39), (0x41, 0x46), (0x61, 0x66)], 172⟩,
  ⟨["bidic", "bidicontrol"], [], 336⟩,
  ⟨["bidim", "bidimirrored"],
    [(0x28, 0x29), (0x3C, 0x3C), (0x3E, 0x3E), (0x5B, 0x5B), (0x5D, 0x5D), (0x7B, 0x7B),
    (0x7D, 0x7D)], 5560⟩,
  ⟨["cased"], [(0x41, 0x5A), (0x61, 0x7A), (0x17F, 0x17F), (0x212A, 0x212A)], 10200⟩,
  ⟨["ci", "caseignorable"],
    [(0x27, 0x27), (0x2E, 0x2E), (0x3A, 0x3A), (0x5E, 0x5E), (0x60, 0x60)], 23728⟩,
  ⟨["cwcf", "changeswhencasefolded"], [(0x41, 0x5A), (0x17F, 0x17F), (0x212A, 0x212A)], 24888⟩,
  ⟨["cwcm", "changeswhencasemapped"],
    [(0x41, 0x5A), (0x61, 0x7A), (0x17F, 0x17F), (0x212A, 0x212A)], 8296⟩,
  ⟨["cwl", "changeswhenlowercased"], [(0x41, 0x5A), (0x212A, 0x212A)], 24292⟩,
  ⟨["cwt", "changeswhentitlecased"], [(0x61, 0x7A), (0x17F, 0x17F)], 25104⟩,
  ⟨["cwu", "changeswhenuppercased"], [(0x61, 0x7A), (0x17F, 0x17F)], 25172⟩,
  ⟨["dash"], [(0x2D, 0x2D)], 1564⟩,
  ⟨["di", "defaultignorablecodepoint"], [], 1476⟩,
  ⟨["dep", "deprecated"], [], 736⟩,
  ⟨["dia", "diacritic"], [(0x5E, 0x5E), (0x60, 0x60)], 12404⟩,
  ⟨["emoji"], [(0x23, 0x23), (0x2A, 0x2A), (0x30, 0x39)], 7660⟩,
  ⟨["ecomp", "emojicomponent"], [(0x23, 0x23), (0x2A, 0x2A), (0x30, 0x39)], 908⟩,
  ⟨["emod", "emojimodifier"], [], 196⟩,
  ⟨["ebase", "emojimodifierbase"], [], 2144⟩,
  ⟨["epres", "emojipresentation"], [], 4856⟩,
  ⟨["extpict", "extendedpictographic"], [], 5072⟩,
  ⟨["ext", "extender"], [], 2500⟩,
  ⟨["grbase", "graphemebase"], [(0x20, 0x7E), (0x17F, 0x17F), (0x212A, 0x212A)], 53956⟩,
  ⟨["grext", "graphemeextend"], [], 19532⟩,
  ⟨["hex", "hexdigit"], [(0x30, 0x39), (0x41, 0x46), (0x61, 0x66)], 376⟩,
  ⟨["idcompatmathcontinue"], [], 400⟩,
  ⟨["idcompatmathstart"], [], 400⟩,
  ⟨["idc", "idcontinue"],
    [(0x30, 0x39), (0x41, 0x5A), (0x5F, 0x5F), (0x61, 0x7A), (0x17F, 0x17F), (0x212A,
    0x212A)], 47760⟩,
  ⟨["ideo", "ideographic"], [], 3744⟩,
  ⟨["idsb", "idsbinaryoperator"], [], 200⟩,
  ⟨["ids", "idstart"], [(0x41, 0x5A), (0x61, 0x7A), (0x17F, 0x17F), (0x212A, 0x212A)], 41488⟩,
  ⟨["idst", "idstrinaryoperator"], [], 164⟩,
  ⟨["idsu", "idsunaryoperator"], [], 400⟩,
  ⟨["joinc", "joincontrol"], [], 164⟩,
  ⟨["loe", "logicalorderexception"], [], 540⟩,
  ⟨["lower", "lowercase"], [(0x61, 0x7A), (0x17F, 0x17F)], 27952⟩,
  ⟨["math"], [(0x2B, 0x2B), (0x3C, 0x3E), (0x5E, 0x5E), (0x7C, 0x7C), (0x7E, 0x7E)], 7068⟩,
  ⟨["mcm", "modifiercombiningmark"], [], 400⟩,
  ⟨["nchar", "noncharactercodepoint"], [], 1992⟩,
  ⟨["patsyn", "patternsyntax"],
    [(0x21, 0x2F), (0x3A, 0x40), (0x5B, 0x5E), (0x60, 0x60), (0x7B, 0x7E)], 1792⟩,
  ⟨["patws", "patternwhitespace"], [(0x9, 0xD), (0x20, 0x20)], 340⟩,
  ⟨["pcm", "prependedconcatenationmark"], [], 636⟩,
  ⟨["qmark", "quotationmark"], [(0x22, 0x22), (0x27, 0x27)], 852⟩,
  ⟨["radical"], [], 404⟩,
  ⟨["ri", "regionalindicator"], [], 196⟩,
  ⟨["sterm", "sentenceterminal"], [(0x21, 0x21), (0x2E, 0x2E), (0x3F, 0x3F)], 5348⟩,
  ⟨["sd", "softdotted"], [(0x69, 0x6A)], 2248⟩,
  ⟨["wspace", "whitespace", "space"], [(0x9, 0xD), (0x20, 0x20)], 680⟩,
  ⟨["term", "terminalpunctuation"],
    [(0x21, 0x21), (0x2C, 0x2C), (0x2E, 0x2E), (0x3A, 0x3B), (0x3F, 0x3F)], 6900⟩,
  ⟨["uideo", "unifiedideograph"], [], 2604⟩,
  ⟨["upper", "uppercase"], [(0x41, 0x5A), (0x212A, 0x212A)], 26764⟩,
  ⟨["vs", "variationselector"], [], 500⟩,
  ⟨["xidc", "xidcontinue"],
    [(0x30, 0x39), (0x41, 0x5A), (0x5F, 0x5F), (0x61, 0x7A), (0x17F, 0x17F), (0x212A,
    0x212A)], 48148⟩,
  ⟨["xids", "xidstart"], [(0x41, 0x5A), (0x61, 0x7A), (0x17F, 0x17F), (0x212A, 0x212A)], 41876⟩]

/-- General categories, and three properties that are named like categories. -/
def categories : List Row := [
  ⟨["c", "other"], [(0x0, 0x1F), (0x7F, 0x7F)], 41780⟩,
  ⟨["cc", "control", "cntrl"], [(0x0, 0x1F), (0x7F, 0x7F)], 204⟩,
  ⟨["cf", "format"], [], 1784⟩,
  ⟨["cn", "unassigned"], [], 41128⟩,
  ⟨["co", "privateuse"], [], 864⟩,
  ⟨["l", "letter"], [(0x41, 0x5A), (0x61, 0x7A), (0x17F, 0x17F), (0x212A, 0x212A)], 41352⟩,
  ⟨["lc", "casedletter"], [(0x41, 0x5A), (0x61, 0x7A), (0x17F, 0x17F), (0x212A, 0x212A)], 9404⟩,
  ⟨["ll", "lowercaseletter"], [(0x61, 0x7A), (0x17F, 0x17F)], 27324⟩,
  ⟨["lm", "modifierletter"], [], 4776⟩,
  ⟨["lo", "otherletter"], [], 32764⟩,
  ⟨["lt", "titlecaseletter"], [], 552⟩,
  ⟨["lu", "uppercaseletter"], [(0x41, 0x5A), (0x212A, 0x212A)], 26284⟩,
  ⟨["m", "mark", "combiningmark"], [], 18140⟩,
  ⟨["mc", "spacingmark"], [], 9924⟩,
  ⟨["me", "enclosingmark"], [], 468⟩,
  ⟨["mn", "nonspacingmark"], [], 18756⟩,
  ⟨["n", "number"], [(0x30, 0x39)], 9272⟩,
  ⟨["nd", "decimalnumber", "digit"], [(0x30, 0x39)], 4640⟩,
  ⟨["nl", "letternumber"], [], 1112⟩,
  ⟨["no", "othernumber"], [], 5100⟩,
  ⟨["p", "punctuation", "punct"],
    [(0x21, 0x23), (0x25, 0x2A), (0x2C, 0x2F), (0x3A, 0x3B), (0x3F, 0x40), (0x5B, 0x5D),
    (0x5F, 0x5F), (0x7B, 0x7B), (0x7D, 0x7D)], 11472⟩,
  ⟨["pc", "connectorpunctuation"], [(0x5F, 0x5F)], 540⟩,
  ⟨["pd", "dashpunctuation"], [(0x2D, 0x2D)], 1324⟩,
  ⟨["pe", "closepunctuation"], [(0x29, 0x29), (0x5D, 0x5D), (0x7D, 0x7D)], 3504⟩,
  ⟨["pf", "finalpunctuation"], [], 552⟩,
  ⟨["pi", "initialpunctuation"], [], 588⟩,
  ⟨["po", "otherpunctuation"],
    [(0x21, 0x23), (0x25, 0x27), (0x2A, 0x2A), (0x2C, 0x2C), (0x2E, 0x2F), (0x3A, 0x3B),
    (0x3F, 0x40), (0x5C, 0x5C)], 10868⟩,
  ⟨["ps", "openpunctuation"], [(0x28, 0x28), (0x5B, 0x5B), (0x7B, 0x7B)], 3644⟩,
  ⟨["s", "symbol"],
    [(0x24, 0x24), (0x2B, 0x2B), (0x3C, 0x3E), (0x5E, 0x5E), (0x60, 0x60), (0x7C, 0x7C),
    (0x7E, 0x7E)], 15384⟩,
  ⟨["sc", "currencysymbol"], [(0x24, 0x24)], 1720⟩,
  ⟨["sk", "modifiersymbol"], [(0x5E, 0x5E), (0x60, 0x60)], 2020⟩,
  ⟨["sm", "mathsymbol"], [(0x2B, 0x2B), (0x3C, 0x3E), (0x7C, 0x7C), (0x7E, 0x7E)], 3860⟩,
  ⟨["so", "othersymbol"], [], 12748⟩,
  ⟨["z", "separator"], [(0x20, 0x20)], 608⟩,
  ⟨["zl", "lineseparator"], [], 164⟩,
  ⟨["zp", "paragraphseparator"], [], 164⟩,
  ⟨["zs", "spaceseparator"], [(0x20, 0x20)], 572⟩,
  ⟨["any"], [(0x0, 0x7F), (0x17F, 0x17F), (0x212A, 0x212A)], 964⟩,
  ⟨["ascii"], [(0x0, 0x7F)], 72⟩,
  ⟨["assigned"], [(0x0, 0x7F), (0x17F, 0x17F), (0x212A, 0x212A)], 41128⟩]

/-- Scripts. -/
def scripts : List Row := [
  ⟨[""], [], 32⟩,
  ⟨["adlm", "adlam"], [], 336⟩,
  ⟨["ahom"], [], 336⟩,
  ⟨["hluw", "anatolianhieroglyphs"], [], 264⟩,
  ⟨["arab", "arabic"], [], 3544⟩,
  ⟨["armn", "armenian"], [], 440⟩,
  ⟨["avst", "avestan"], [], 232⟩,
  ⟨["bali", "balinese"], [], 268⟩,
  ⟨["bamu", "bamum"], [], 432⟩,
  ⟨["bass", "bassavah"], [], 232⟩,
  ⟨["batk", "batak"], [], 200⟩,
  ⟨["beng", "bengali"], [], 700⟩,
  ⟨["bhks", "bhaiksuki"], [], 372⟩,
  ⟨["bopo", "bopomofo"], [], 300⟩,
  ⟨["brah", "brahmi"], [], 336⟩,
  ⟨["brai", "braille"], [], 164⟩,
  ⟨["bugi", "buginese"], [], 200⟩,
  ⟨["buhd", "buhid"], [], 164⟩,
  ⟨["cans", "canadianaboriginal"], [], 432⟩,
  ⟨["cari", "carian"], [], 264⟩,
  ⟨["aghb", "caucasianalbanian"], [], 300⟩,
  ⟨["cakm", "chakma"], [], 300⟩,
  ⟨["cham"], [], 304⟩,
  ⟨["cher", "cherokee"], [], 436⟩,
  ⟨["chrs", "chorasmian"], [], 264⟩,
  ⟨["zyyy", "common"], [(0x0, 0x40), (0x5B, 0x60), (0x7B, 0x7F)], 12304⟩,
  ⟨["xsux", "cuneiform"], [], 572⟩,
  ⟨["cprt", "cypriot"], [], 376⟩,
  ⟨["cpmn", "cyprominoan"], [], 264⟩,
  ⟨["cyrl", "cyrillic"], [], 1244⟩,
  ⟨["dsrt", "deseret"], [], 264⟩,
  ⟨["deva", "devanagari"], [], 536⟩,
  ⟨["diak", "divesakuru"], [], 516⟩,
  ⟨["dogr", "dogra"], [], 196⟩,
  ⟨["dupl", "duployan"], [], 440⟩,
  ⟨["egyp", "egyptianhieroglyphs"], [], 264⟩,
  ⟨["elba", "elbasan"], [], 196⟩,
  ⟨["elym", "elymaic"], [], 196⟩,
  ⟨["ethi", "ethiopic"], [], 2016⟩,
  ⟨["gara", "garay"], [], 300⟩,
  ⟨["geor", "georgian"], [], 652⟩,
  ⟨["glag", "glagolitic"], [], 508⟩,
  ⟨["goth", "gothic"], [], 264⟩,
  ⟨["gran", "grantha"], [], 768⟩,
  ⟨["grek", "greek"], [], 2244⟩,
  ⟨["gujr", "gujarati"], [], 700⟩,
  ⟨["gong", "gunjalagondi"], [], 444⟩,
  ⟨["guru", "gurmukhi"], [], 772⟩,
  ⟨["gukh", "gurungkhema"], [], 300⟩,
  ⟨["hani", "han"], [], 3448⟩,
  ⟨["hang", "hangul"], [], 1456⟩,
  ⟨["rohg", "hanifirohingya"], [], 232⟩,
  ⟨["hano", "hanunoo"], [], 164⟩,
  ⟨["hatr", "hatran"], [], 268⟩,
  ⟨["hebr", "hebrew"], [], 584⟩,
  ⟨["hira", "hiragana"], [], 740⟩,
  ⟨["armi", "imperialaramaic"], [], 232⟩,
  ⟨["phli", "inscriptionalpahlavi"], [], 232⟩,
  ⟨["prti", "inscriptionalparthian"], [], 232⟩,
  ⟨["java", "javanese"], [], 304⟩,
  ⟨["kthi", "kaithi"], [], 300⟩,
  ⟨["knda", "kannada"], [], 664⟩,
  ⟨["kana", "katakana"], [], 1220⟩,
  ⟨["kawi"], [], 336⟩,
  ⟨["kali", "kayahli"], [], 200⟩,
  ⟨["khar", "kharoshthi"], [], 516⟩,
  ⟨["kits", "khitansmallscript"], [], 364⟩,
  ⟨["khmr", "khmer"], [], 372⟩,
  ⟨["khoj", "khojki"], [], 300⟩,
  ⟨["sind", "khudawadi"], [], 300⟩,
  ⟨["krai", "kiratrai"], [], 300⟩,
  ⟨["laoo", "lao"], [], 556⟩,
  ⟨["latn", "latin"], [(0x41, 0x5A), (0x61, 0x7A), (0x17F, 0x17F), (0x212A, 0x212A)], 2848⟩,
  ⟨["lepc", "lepcha"], [], 304⟩,
  ⟨["limb", "limbu"], [], 340⟩,
  ⟨["lina", "lineara"], [], 368⟩,
  ⟨["linb", "linearb"], [], 580⟩,
  ⟨["lisu"], [], 296⟩,
  ⟨["lyci", "lycian"], [], 196⟩,
  ⟨["lydi", "lydian"], [], 232⟩,
  ⟨["mahj", "mahajani"], [], 196⟩,
  ⟨["maka", "makasar"], [], 196⟩,
  ⟨["mlym", "malayalam"], [], 448⟩,
  ⟨["mand", "mandaic"], [], 200⟩,
  ⟨["mani", "manichaean"], [], 232⟩,
  ⟨["marc", "marchen"], [], 336⟩,
  ⟨["gonm", "masaramgondi"], [], 480⟩,
  ⟨["medf", "medefaidrin"], [], 264⟩,
  ⟨["mtei", "meeteimayek"], [], 268⟩,
  ⟨["mend", "mendekikakui"], [], 300⟩,
  ⟨["merc", "meroiticcursive"], [], 336⟩,
  ⟨["mero", "meroitichieroglyphs"], [], 196⟩,
  ⟨["plrd", "miao"], [], 404⟩,
  ⟨["modi"], [], 300⟩,
  ⟨["mong", "mongolian"], [], 540⟩,
  ⟨["mroo", "mro"], [], 268⟩,
  ⟨["mult", "multani"], [], 340⟩,
  ⟨["mymr", "myanmar"], [], 400⟩,
  ⟨["nbat", "nabataean"], [], 232⟩,
  ⟨["nagm", "nagmundari"], [], 196⟩,
  ⟨["nand", "nandinagari"], [], 336⟩,
  ⟨["newa"], [], 300⟩,
  ⟨["talu", "newtailue"], [], 340⟩,
  ⟨["nkoo", "nko"], [], 168⟩,
  ⟨["nshu", "nushu"], [], 432⟩,
  ⟨["hmnp", "nyiakengpuachuehmong"], [], 336⟩,
  ⟨["ogam", "ogham"], [], 164⟩,
  ⟨["olck", "olchiki"], [], 164⟩,
  ⟨["hung", "oldhungarian"], [], 300⟩,
  ⟨["ital", "olditalic"], [], 232⟩,
  ⟨["narb", "oldnortharabian"], [], 196⟩,
  ⟨["perm", "oldpermic"], [], 196⟩,
  ⟨["xpeo", "oldpersian"], [], 300⟩,
  ⟨["sogo", "oldsogdian"], [], 196⟩,
  ⟨["sarb", "oldsoutharabian"], [], 196⟩,
  ⟨["orkh", "oldturkic"], [], 264⟩,
  ⟨["ougr", "olduyghur"], [], 264⟩,
  ⟨["onao", "olonal"], [], 300⟩,
  ⟨["orya", "oriya"], [], 700⟩,
  ⟨["osge", "osage"], [], 300⟩,
  ⟨["osma", "osmanya"], [], 232⟩,
  ⟨["hmng", "pahawhhmong"], [], 476⟩,
  ⟨["palm", "palmyrene"], [], 196⟩,
  ⟨["pauc", "paucinhau"], [], 196⟩,
  ⟨["phag", "phagspa"], [], 164⟩,
  ⟨["phnx", "phoenician"], [], 232⟩,
  ⟨["phlp", "psalterpahlavi"], [], 268⟩,
  ⟨["copt", "coptic", "qaac"], [], 336⟩,
  ⟨["zinh", "inherited", "qaai"], [], 2408⟩,
  ⟨["rjng", "rejang"], [], 268⟩,
  ⟨["runr", "runic"], [], 268⟩,
  ⟨["samr", "samaritan"], [], 200⟩,
  ⟨["saur", "saurashtra"], [], 268⟩,
  ⟨["shrd", "sharada"], [], 264⟩,
  ⟨["shaw", "shavian"], [], 196⟩,
  ⟨["sidd", "siddham"], [], 300⟩,
  ⟨["sgnw", "signwriting"], [], 336⟩,
  ⟨["sinh", "sinhala"], [], 724⟩,
  ⟨["sogd", "sogdian"], [], 264⟩,
  ⟨["sora", "sorasompeng"], [], 232⟩,
  ⟨["soyo", "soyombo"], [], 264⟩,
  ⟨["sund", "sundanese"], [], 232⟩,
  ⟨["sunu", "sunuwar"], [], 300⟩,
  ⟨["sylo", "sylotinagri"], [], 164⟩,
  ⟨["syrc", "syriac"], [], 372⟩,
  ⟨["tglg", "tagalog"], [], 200⟩,
  ⟨["tagb", "tagbanwa"], [], 236⟩,
  ⟨["tale", "taile"], [], 200⟩,
  ⟨["lana", "taitham"], [], 444⟩,
  ⟨["tavt", "taiviet"], [], 268⟩,
  ⟨["takr", "takri"], [], 264⟩,
  ⟨["taml", "tamil"], [], 940⟩,
  ⟨["tnsa", "tangsa"], [], 332⟩,
  ⟨["tang", "tangut"], [], 600⟩,
  ⟨["telu", "telugu"], [], 664⟩,
  ⟨["thaa", "thaana"], [], 132⟩,
  ⟨["thai"], [], 232⟩,
  ⟨["tibt", "tibetan"], [], 584⟩,
  ⟨["tfng", "tifinagh"], [], 304⟩,
  ⟨["tirh", "tirhuta"], [], 300⟩,
  ⟨["todr", "todhri"], [], 300⟩,
  ⟨["toto"], [], 196⟩,
  ⟨["tutg", "tulutigalari"], [], 300⟩,
  ⟨["ugar", "ugaritic"], [], 232⟩,
  ⟨["vaii", "vai"], [], 232⟩,
  ⟨["vith", "vithkuqi"], [], 516⟩,
  ⟨["wcho", "wancho"], [], 232⟩,
  ⟨["wara", "warangciti"], [], 300⟩,
  ⟨["yezi", "yezidi"], [], 268⟩,
  ⟨["yiii", "yi"], [], 336⟩,
  ⟨["zanb", "zanabazarsquare"], [], 264⟩]

/-- Versions, with the characters assigned up to them. -/
def ages : List Row := [
  ⟨["1.1", "v11"], [(0x0, 0x7F), (0x17F, 0x17F), (0x212A, 0x212A)], 16976⟩,
  ⟨["2.0", "v20"], [(0x0, 0x7F), (0x17F, 0x17F), (0x212A, 0x212A)], 19596⟩,
  ⟨["2.1", "v21"], [(0x0, 0x7F), (0x17F, 0x17F), (0x212A, 0x212A)], 19596⟩,
  ⟨["3.0", "v30"], [(0x0, 0x7F), (0x17F, 0x17F), (0x212A, 0x212A)], 23448⟩,
  ⟨["3.1", "v31"], [(0x0, 0x7F), (0x17F, 0x17F), (0x212A, 0x212A)], 26276⟩,
  ⟨["3.2", "v32"], [(0x0, 0x7F), (0x17F, 0x17F), (0x212A, 0x212A)], 26168⟩,
  ⟨["4.0", "v40"], [(0x0, 0x7F), (0x17F, 0x17F), (0x212A, 0x212A)], 27036⟩,
  ⟨["4.1", "v41"], [(0x0, 0x7F), (0x17F, 0x17F), (0x212A, 0x212A)], 28760⟩,
  ⟨["5.0", "v50"], [(0x0, 0x7F), (0x17F, 0x17F), (0x212A, 0x212A)], 29484⟩,
  ⟨["5.1", "v51"], [(0x0, 0x7F), (0x17F, 0x17F), (0x212A, 0x212A)], 30896⟩,
  ⟨["5.2", "v52"], [(0x0, 0x7F), (0x17F, 0x17F), (0x212A, 0x212A)], 33396⟩,
  ⟨["6.0", "v60"], [(0x0, 0x7F), (0x17F, 0x17F), (0x212A, 0x212A)], 35372⟩,
  ⟨["6.1", "v61"], [(0x0, 0x7F), (0x17F, 0x17F), (0x212A, 0x212A)], 37296⟩,
  ⟨["6.2", "v62"], [(0x0, 0x7F), (0x17F, 0x17F), (0x212A, 0x212A)], 37296⟩,
  ⟨["6.3", "v63"], [(0x0, 0x7F), (0x17F, 0x17F), (0x212A, 0x212A)], 37296⟩,
  ⟨["7.0", "v70"], [(0x0, 0x7F), (0x17F, 0x17F), (0x212A, 0x212A)], 41612⟩,
  ⟨["8.0", "v80"], [(0x0, 0x7F), (0x17F, 0x17F), (0x212A, 0x212A)], 42648⟩,
  ⟨["9.0", "v90"], [(0x0, 0x7F), (0x17F, 0x17F), (0x212A, 0x212A)], 44312⟩,
  ⟨["10.0", "v100"], [(0x0, 0x7F), (0x17F, 0x17F), (0x212A, 0x212A)], 45516⟩,
  ⟨["11.0", "v110"], [(0x0, 0x7F), (0x17F, 0x17F), (0x212A, 0x212A)], 46548⟩,
  ⟨["12.0", "v120"], [(0x0, 0x7F), (0x17F, 0x17F), (0x212A, 0x212A)], 47412⟩,
  ⟨["12.1", "v121"], [(0x0, 0x7F), (0x17F, 0x17F), (0x212A, 0x212A)], 47276⟩,
  ⟨["13.0", "v130"], [(0x0, 0x7F), (0x17F, 0x17F), (0x212A, 0x212A)], 48276⟩,
  ⟨["14.0", "v140"], [(0x0, 0x7F), (0x17F, 0x17F), (0x212A, 0x212A)], 49064⟩,
  ⟨["15.0", "v150"], [(0x0, 0x7F), (0x17F, 0x17F), (0x212A, 0x212A)], 50096⟩,
  ⟨["15.1", "v151"], [(0x0, 0x7F), (0x17F, 0x17F), (0x212A, 0x212A)], 40000⟩,
  ⟨["16.0", "v160"], [(0x0, 0x7F), (0x17F, 0x17F), (0x212A, 0x212A)], 40000⟩]

/-- Classes of grapheme boundaries. -/
def graphemeBreaks : List Row := [
  ⟨["cn", "control"], [(0x0, 0x9), (0xB, 0xC), (0xE, 0x1F), (0x7F, 0x7F)], 1556⟩,
  ⟨["cr"], [(0xD, 0xD)], 100⟩,
  ⟨["ex", "extend"], [], 19632⟩,
  ⟨["l"], [], 332⟩,
  ⟨["lf"], [(0xA, 0xA)], 100⟩,
  ⟨["lv"], [], 20156⟩,
  ⟨["lvt"], [], 25556⟩,
  ⟨["pp", "prepend"], [], 1180⟩,
  ⟨["ri", "regionalindicator"], [], 196⟩,
  ⟨["sm", "spacingmark"], [], 9312⟩,
  ⟨["t"], [], 332⟩,
  ⟨["v"], [], 400⟩,
  ⟨["zwj"], [], 164⟩]

/-- Classes of word boundaries. -/
def wordBreaks : List Row := [
  ⟨["cr"], [(0xD, 0xD)], 100⟩,
  ⟨["dq", "doublequote"], [(0x22, 0x22)], 100⟩,
  ⟨["ex", "extendnumlet"], [(0x5F, 0x5F)], 576⟩,
  ⟨["extend"], [], 18512⟩,
  ⟨["fo", "format"], [], 1680⟩,
  ⟨["hl", "hebrewletter"], [], 552⟩,
  ⟨["ka", "katakana"], [], 1288⟩,
  ⟨["le", "aletter"], [(0x41, 0x5A), (0x61, 0x7A), (0x17F, 0x17F), (0x212A, 0x212A)], 35008⟩,
  ⟨["lf"], [(0xA, 0xA)], 100⟩,
  ⟨["mb", "midnumlet"], [(0x2E, 0x2E)], 440⟩,
  ⟨["ml", "midletter"], [(0x3A, 0x3A)], 708⟩,
  ⟨["mn", "midnum"], [(0x2C, 0x2C), (0x3B, 0x3B)], 920⟩,
  ⟨["nl", "newline"], [(0xB, 0xC)], 268⟩,
  ⟨["nu", "numeric"], [(0x30, 0x39)], 4676⟩,
  ⟨["ri", "regionalindicator"], [], 196⟩,
  ⟨["sq", "singlequote"], [(0x27, 0x27)], 100⟩,
  ⟨["wsegspace"], [(0x20, 0x20)], 504⟩,
  ⟨["zwj"], [], 164⟩]

/-- Classes of sentence boundaries. -/
def sentenceBreaks : List Row := [
  ⟨["at", "aterm"], [(0x2E, 0x2E)], 368⟩,
  ⟨["cl", "close"],
    [(0x22, 0x22), (0x27, 0x29), (0x5B, 0x5B), (0x5D, 0x5D), (0x7B, 0x7B), (0x7D, 0x7D)], 2584⟩,
  ⟨["cr"], [(0xD, 0xD)], 100⟩,
  ⟨["ex", "extend"], [], 18412⟩,
  ⟨["fo", "format"], [], 1716⟩,
  ⟨["le", "oletter"], [], 34536⟩,
  ⟨["lf"], [(0xA, 0xA)], 100⟩,
  ⟨["lo", "lower"], [(0x61, 0x7A), (0x17F, 0x17F)], 27880⟩,
  ⟨["nu", "numeric"], [(0x30, 0x39)], 4676⟩,
  ⟨["sc", "scontinue"], [(0x2C, 0x2D), (0x3A, 0x3A)], 1196⟩,
  ⟨["se", "sep"], [], 232⟩,
  ⟨["sp"], [(0x9, 0x9), (0xB, 0xC), (0x20, 0x20)], 644⟩,
  ⟨["st", "sterm"], [(0x21, 0x21), (0x3F, 0x3F)], 5240⟩,
  ⟨["up", "upper"], [(0x41, 0x5A), (0x212A, 0x212A)], 26768⟩]

/-- The spelling of a name that rows are searched for: a leading `is`, blanks, underscores and
hyphens do not count, nor does case. -/
def spelling (name : String) : String :=
  let kept (text : List Char) : List Char :=
    (text.filter fun c => c.toNat < 128 && c != ' ' && c != '_' && c != '-').map Char.toLower
  match name.toList with
  | 'i' :: 's' :: rest | 'I' :: 's' :: rest | 'i' :: 'S' :: rest | 'I' :: 'S' :: rest =>
      let rest := kept rest
      String.ofList (if rest = ['c'] then ['i', 's', 'c'] else rest)
  | text => String.ofList (kept text)

/-- The row with a name. -/
def find? (rows : List Row) (name : String) : Option Row :=
  rows.find? fun row => row.names.contains name

/-- The property of a name on its own. Three names that could also name properties of characters
stand for categories. -/
def named? (name : String) : Option Row :=
  let name := spelling name
  let plain := if ["cf", "sc", "lc"].contains name then none else find? binary name
  plain <|> find? categories name <|> find? scripts name

/-- The rows of a property that has values. -/
def valuesOf? (property : String) : Option (List Row) :=
  let tables : List (List String × List Row) := [
    (["gc", "generalcategory"], categories), (["sc", "script"], scripts),
    (["scx", "scriptextensions"], scripts), (["age"], ages),
    (["gcb", "graphemeclusterbreak"], graphemeBreaks), (["wb", "wordbreak"], wordBreaks),
    (["sb", "sentencebreak"], sentenceBreaks)]
  (tables.find? fun table => table.1.contains (spelling property)).map Prod.snd

/-- The characters whose property has a value. -/
def valued? (property value : String) : Option Row := do
  find? (← valuesOf? property) (spelling value)

end BotConfig.Pattern.Property
