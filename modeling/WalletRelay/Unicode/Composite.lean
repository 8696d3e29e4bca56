/-!
# Composites

A letter with a mark can be one character, the composite of the two. The table lists the composites that
a name can hold after its letters have been made small, mark by mark: behind the mark stand the
characters that take it and, in the same order, their composites.

Korean syllables are composites too, of a leading consonant, a vowel and perhaps a trailing consonant;
they are numbered in the order of these parts.
-/

namespace WalletRelay.Unicode

/-- The composites of one mark. -/
structure MarkComposites where
  mark : Nat
  bases : String
  composites : String

def markComposites : List MarkComposites := [
  ⟨0x300, "aeiouünеиēōwâăêôơưyἀἁἐἑἠἡἰἱὀὁὐὑὠὡαεηιουω", "àèìòùǜǹѐѝḕṑẁầằềồờừỳἂἃἒἓἢἣἲἳὂὃὒὓὢὣὰὲὴὶὸὺὼ"⟩,
  ⟨0x300, "ϊϋ", "ῒῢ"⟩,
  ⟨0x301, "aeiouyclnrszügåæøϊαεηιϋουωгкçēïkmõōpũwâă", "áéíóúýćĺńŕśźǘǵǻǽǿΐάέήίΰόύώѓќḉḗḯḱḿṍṓṕṹẃấắ"⟩,
  ⟨0x301, "êôơưἀἁἐἑἠἡἰἱὀὁὐὑὠὡ", "ếốớứἄἅἔἕἤἥἴἵὄὅὔὕὤὥ"⟩,
  ⟨0x302, "aeioucghjswyzạẹọ", "âêîôûĉĝĥĵŝŵŷẑậệộ"⟩,
  ⟨0x303, "anoiuvâăeêôơưy", "ãñõĩũṽẫẵẽễỗỡữỹ"⟩,
  ⟨0x304, "aeiouüäȧæǫöõȯyиуgḷṛαιυ", "āēīōūǖǟǡǣǭȫȭȱȳӣӯḡḹṝᾱῑῡ"⟩,
  ⟨0x306, "aegiouиужаеȩạαιυ", "ăĕğĭŏŭйўӂӑӗḝặᾰῐῠ"⟩,
  ⟨0x307, "cegzaobdfhmnprsśšṣtwxy𐗒𐗚", "ċėġżȧȯḃḋḟḣṁṅṗṙṡṥṧṩṫẇẋẏ𐗉𐗤"⟩,
  ⟨0x308, "aeiouyιυеіаәжзиоөэучыhõūwxt", "äëïöüÿϊϋёїӓӛӝӟӥӧӫӭӱӵӹḧṏṻẅẍẗ"⟩,
  ⟨0x309, "aâăeêioôơuưy", "ảẩẳẻểỉỏổởủửỷ"⟩,
  ⟨0x30A, "auwy", "åůẘẙ"⟩,
  ⟨0x30B, "ouу", "őűӳ"⟩,
  ⟨0x30C, "cdelnrstzaiouügkʒjh", "čďěľňřšťžǎǐǒǔǚǧǩǯǰȟ"⟩,
  ⟨0x30F, "aeioruѵ", "ȁȅȉȍȑȕѷ"⟩,
  ⟨0x311, "aeioru", "ȃȇȋȏȓȗ"⟩,
  ⟨0x313, "αεηιουωρ", "ἀἐἠἰὀὐὠῤ"⟩,
  ⟨0x314, "αεηιουωρ", "ἁἑἡἱὁὑὡῥ"⟩,
  ⟨0x31B, "ou", "ơư"⟩,
  ⟨0x323, "bdhklmnrstvwzaeioơuưy", "ḅḍḥḳḷṃṇṛṣṭṿẉẓạẹịọợụựỵ"⟩,
  ⟨0x324, "u", "ṳ"⟩,
  ⟨0x325, "a", "ḁ"⟩,
  ⟨0x326, "st", "șț"⟩,
  ⟨0x327, "cgklnrstedh", "çģķļņŗşţȩḑḩ"⟩,
  ⟨0x328, "aeiuo", "ąęįųǫ"⟩,
  ⟨0x32D, "delntu", "ḓḙḽṋṱṷ"⟩,
  ⟨0x32E, "h", "ḫ"⟩,
  ⟨0x330, "eiu", "ḛḭṵ"⟩,
  ⟨0x331, "bdklnrtzh", "ḇḏḵḻṉṟṯẕẖ"⟩,
  ⟨0x338, "←→↔⇐⇔⇒∃∈∋∣∥∼≃≅≈=≡≍<>≤≥≲≳≶≷≺≻⊂⊃⊆⊇⊢⊨⊩⊫≼≽⊑⊒", "↚↛↮⇍⇎⇏∄∉∌∤∦≁≄≇≉≠≢≭≮≯≰≱≴≵≸≹⊀⊁⊄⊅⊈⊉⊬⊭⊮⊯⋠⋡⋢⋣"⟩,
  ⟨0x338, "⊲⊳⊴⊵", "⋪⋫⋬⋭"⟩,
  ⟨0x342, "ἀἁἠἡἰἱὐὑὠὡαηιϊυϋω", "ἆἇἦἧἶἷὖὗὦὧᾶῆῖῗῦῧῶ"⟩,
  ⟨0x653, "\u0627", "\u0622"⟩,
  ⟨0x654, "\u0627\u0648\u064A\u06D5\u06C1\u06D2", "\u0623\u0624\u0626\u06C0\u06C2\u06D3"⟩,
  ⟨0x655, "\u0627", "\u0625"⟩,
  ⟨0x93C, "नरळ", "ऩऱऴ"⟩,
  ⟨0x9BE, "\u09C7", "\u09CB"⟩,
  ⟨0x9D7, "\u09C7", "\u09CC"⟩,
  ⟨0xB3E, "\u0B47", "\u0B4B"⟩,
  ⟨0xB56, "\u0B47", "\u0B48"⟩,
  ⟨0xB57, "\u0B47", "\u0B4C"⟩,
  ⟨0xBBE, "\u0BC6\u0BC7", "\u0BCA\u0BCB"⟩,
  ⟨0xBD7, "ஒ\u0BC6", "ஔ\u0BCC"⟩,
  ⟨0xC56, "\u0C46", "\u0C48"⟩,
  ⟨0xCC2, "\u0CC6", "\u0CCA"⟩,
  ⟨0xCD5, "\u0CBF\u0CC6\u0CCA", "\u0CC0\u0CC7\u0CCB"⟩,
  ⟨0xCD6, "\u0CC6", "\u0CC8"⟩,
  ⟨0xD3E, "\u0D46\u0D47", "\u0D4A\u0D4B"⟩,
  ⟨0xD57, "\u0D46", "\u0D4C"⟩,
  ⟨0xDCA, "\u0DD9\u0DDC", "\u0DDA\u0DDD"⟩,
  ⟨0xDCF, "\u0DD9", "\u0DDC"⟩,
  ⟨0xDDF, "\u0DD9", "\u0DDE"⟩,
  ⟨0x102E, "ဥ", "ဦ"⟩,
  ⟨0x1B35, "ᬅᬇᬉᬋᬍᬑ\u1B3A\u1B3C\u1B3E\u1B3F\u1B42", "ᬆᬈᬊᬌᬎᬒ\u1B3B\u1B3D\u1B40\u1B41\u1B43"⟩,
  ⟨0x3099, "かきくけこさしすせそたちつてとはひふへほうゝカキクケコサシスセソタチツテトハヒフ", "がぎぐげござじずぜぞだぢづでどばびぶべぼゔゞガギグゲゴザジズゼゾダヂヅデドバビブ"⟩,
  ⟨0x3099, "ヘホウワヰヱヲヽ", "ベボヴヷヸヹヺヾ"⟩,
  ⟨0x309A, "はひふへほハヒフヘホ", "ぱぴぷぺぽパピプペポ"⟩,
  ⟨0x110BA, "𑂙𑂛𑂥", "𑂚𑂜𑂫"⟩,
  ⟨0x11127, "𑄱𑄲", "𑄮𑄯"⟩,
  ⟨0x1133E, "𑍇", "𑍋"⟩,
  ⟨0x11357, "𑍇", "𑍌"⟩,
  ⟨0x113B8, "𑏂", "𑏇"⟩,
  ⟨0x113BB, "𑎄", "𑎅"⟩,
  ⟨0x113C2, "𑎎", "𑎎𑏅"⟩,
  ⟨0x113C9, "𑎂𑎐𑏂", "𑎃𑎑𑏈"⟩,
  ⟨0x114B0, "𑒹", "𑒼"⟩,
  ⟨0x114BA, "𑒹", "𑒻"⟩,
  ⟨0x114BD, "𑒹", "𑒾"⟩,
  ⟨0x115AF, "𑖸𑖹", "𑖺𑖻"⟩,
  ⟨0x11930, "𑤵", "𑤸"⟩,
  ⟨0x1611E, "𖄞", "𖄡"⟩,
  ⟨0x1611F, "𖄢𖄡𖄢", "𖄣𖄤𖄦𖄧"⟩,
  ⟨0x16120, "𖄡𖄞", "𖄥𖄨"⟩,
  ⟨0x16129, "𖄞", "𖄢"⟩,
  ⟨0x16D67, "𖵧𖵣𖵩", "𖵨𖵩𖵪"⟩]

/-! ### Korean syllables -/

def leadBase : Nat := 0x1100

def vowelBase : Nat := 0x1161

/-- One less than the number of the first trailing consonant. -/
def trailBase : Nat := 0x11A7

def syllableBase : Nat := 0xAC00

def leadCount : Nat := 19

def vowelCount : Nat := 21

/-- How many trailing consonants there are, counting none as one. -/
def trailCount : Nat := 28

def syllableCount : Nat := leadCount * vowelCount * trailCount

/-- The parts of the syllable with the given place among all syllables. -/
def syllableParts (place : Nat) : List Nat :=
  let lead := leadBase + place / (vowelCount * trailCount)
  let vowel := vowelBase + place / trailCount % vowelCount
  let trail := place % trailCount
  if trail = 0 then [lead, vowel] else [lead, vowel, trailBase + trail]

/-- The syllable of two parts: of a leading consonant and a vowel, or of a syllable that has no trailing
consonant and one. -/
def composeSyllable? (a b : Nat) : Option Nat :=
  if leadBase ≤ a ∧ a < leadBase + leadCount ∧ vowelBase ≤ b ∧ b < vowelBase + vowelCount then
    some (syllableBase + ((a - leadBase) * vowelCount + (b - vowelBase)) * trailCount)
  else if syllableBase ≤ a ∧ a < syllableBase + syllableCount ∧ (a - syllableBase) % trailCount = 0 ∧
      trailBase < b ∧ b < trailBase + trailCount then
    some (a + (b - trailBase))
  else none

/-! ### Taking apart and putting together -/

/-- The character and the mark that a composite is made of. -/
def parts? (c : Char) : Option (Char × Char) :=
  markComposites.findSome? fun row =>
    ((row.composites.toList.zip row.bases.toList).lookup c).map fun base => (base, Char.ofNat row.mark)

def compose? (a b : Char) : Option Char :=
  match composeSyllable? a.toNat b.toNat with
  | some n => some (Char.ofNat n)
  | none =>
    (markComposites.filter fun row => row.mark = b.toNat).findSome? fun row =>
      (row.bases.toList.zip row.composites.toList).lookup a

end WalletRelay.Unicode
