import WalletRelay.Url.Domain.Substitution

/-!
# Domain names: alphabets

Capital letters of the alphabets below `2000` become small ones. Letters and signs that are only
another form of others, such as small figures above the line, become those.
-/

namespace WalletRelay.Url.Domain

private def alphabetRules1 : List Rule := [
  ⟨0xA0, 0xA0, .each " "⟩,
  ⟨0xA8, 0xA8, .texts [" \u0308"]⟩,
  ⟨0xAA, 0xAA, .each "a"⟩,
  ⟨0xAF, 0xAF, .texts [" \u0304"]⟩,
  ⟨0xB2, 0xB5, .texts ["2", "3", " \u0301", "μ"]⟩,
  ⟨0xB8, 0xBA, .texts [" \u0327", "1", "o"]⟩,
  ⟨0xBC, 0xBE, .texts ["1⁄4", "1⁄2", "3⁄4"]⟩,
  ⟨0xC0, 0xD6, .shift 0xE0⟩,
  ⟨0xD8, 0xDE, .shift 0xF8⟩,
  ⟨0x100, 0x12F, .everySecond⟩,
  ⟨0x130, 0x130, .texts ["i\u0307"]⟩,
  ⟨0x132, 0x134, .texts ["ij", "ij", "ĵ"]⟩,
  ⟨0x136, 0x136, .each "ķ"⟩,
  ⟨0x139, 0x13E, .everySecond⟩,
  ⟨0x13F, 0x140, .texts ["l·", "l·"]⟩,
  ⟨0x141, 0x148, .everySecond⟩,
  ⟨0x149, 0x149, .texts ["ʼn"]⟩,
  ⟨0x14A, 0x177, .everySecond⟩,
  ⟨0x178, 0x178, .each "ÿ"⟩,
  ⟨0x179, 0x17E, .everySecond⟩,
  ⟨0x17F, 0x17F, .each "s"⟩,
  ⟨0x181, 0x182, .each "ɓƃ"⟩,
  ⟨0x184, 0x184, .each "ƅ"⟩,
  ⟨0x186, 0x187, .each "ɔƈ"⟩,
  ⟨0x189, 0x18B, .each "ɖɗƌ"⟩,
  ⟨0x18E, 0x191, .each "ǝəɛƒ"⟩,
  ⟨0x193, 0x194, .each "ɠɣ"⟩,
  ⟨0x196, 0x198, .each "ɩɨƙ"⟩,
  ⟨0x19C, 0x19D, .each "ɯɲ"⟩,
  ⟨0x19F, 0x19F, .each "ɵ"⟩,
  ⟨0x1A0, 0x1A5, .everySecond⟩,
  ⟨0x1A6, 0x1A7, .each "ʀƨ"⟩,
  ⟨0x1A9, 0x1A9, .each "ʃ"⟩,
  ⟨0x1AC, 0x1AC, .each "ƭ"⟩,
  ⟨0x1AE, 0x1AF, .each "ʈư"⟩,
  ⟨0x1B1, 0x1B3, .each "ʊʋƴ"⟩,
  ⟨0x1B5, 0x1B5, .each "ƶ"⟩,
  ⟨0x1B7, 0x1B8, .each "ʒƹ"⟩,
  ⟨0x1BC, 0x1BC, .each "ƽ"⟩,
  ⟨0x1C4, 0x1CC, .texts ["dž", "dž", "dž", "lj", "lj", "lj", "nj", "nj", "nj"]⟩,
  ⟨0x1CD, 0x1DC, .everySecond⟩,
  ⟨0x1DE, 0x1EF, .everySecond⟩,
  ⟨0x1F1, 0x1F4, .texts ["dz", "dz", "dz", "ǵ"]⟩,
  ⟨0x1F6, 0x1F7, .each "ƕƿ"⟩,
  ⟨0x1F8, 0x21F, .everySecond⟩,
  ⟨0x220, 0x220, .each "ƞ"⟩,
  ⟨0x222, 0x233, .everySecond⟩,
  ⟨0x23A, 0x23B, .each "ⱥȼ"⟩,
  ⟨0x23D, 0x23E, .each "ƚⱦ"⟩,
  ⟨0x241, 0x241, .each "ɂ"⟩,
  ⟨0x243, 0x245, .each "ƀʉʌ"⟩,
  ⟨0x246, 0x24F, .everySecond⟩,
  ⟨0x2B0, 0x2B8, .each "hɦjrɹɻʁwy"⟩,
  ⟨0x2D8, 0x2DD, .texts [" \u0306", " \u0307", " \u030A", " \u0328", " \u0303", " \u030B"]⟩,
  ⟨0x2E0, 0x2E4, .each "ɣlsxʕ"⟩,
  ⟨0x340, 0x341, .shift 0x300⟩,
  ⟨0x343, 0x345, .texts ["\u0313", "\u0308\u0301", "ι"]⟩,
  ⟨0x370, 0x370, .each "ͱ"⟩,
  ⟨0x372, 0x372, .each "ͳ"⟩,
  ⟨0x374, 0x374, .each "ʹ"⟩,
  ⟨0x376, 0x376, .each "ͷ"⟩,
  ⟨0x37A, 0x37A, .texts [" ι"]⟩,
  ⟨0x37E, 0x37F, .each ";ϳ"⟩,
  ⟨0x384, 0x38A, .texts [" \u0301", " \u0308\u0301", "ά", "·", "έ", "ή", "ί"]⟩,
  ⟨0x38C, 0x38C, .each "ό"⟩,
  ⟨0x38E, 0x38F, .shift 0x3CD⟩,
  ⟨0x391, 0x3A1, .shift 0x3B1⟩,
  ⟨0x3A3, 0x3AB, .shift 0x3C3⟩,
  ⟨0x3CF, 0x3D6, .each "ϗβθυύϋφπ"⟩,
  ⟨0x3D8, 0x3EF, .everySecond⟩,
  ⟨0x3F0, 0x3F2, .each "κρσ"⟩,
  ⟨0x3F4, 0x3F5, .each "θε"⟩,
  ⟨0x3F7, 0x3F7, .each "ϸ"⟩,
  ⟨0x3F9, 0x3FA, .each "σϻ"⟩,
  ⟨0x3FD, 0x40F, .each "ͻͼͽѐёђѓєѕіїјљњћќѝўџ"⟩,
  ⟨0x410, 0x42F, .shift 0x430⟩,
  ⟨0x460, 0x481, .everySecond⟩,
  ⟨0x48A, 0x4BF, .everySecond⟩,
  ⟨0x4C0, 0x4C0, .each "ӏ"⟩,
  ⟨0x4C1, 0x4CE, .everySecond⟩,
  ⟨0x4D0, 0x52F, .everySecond⟩,
  ⟨0x531, 0x556, .shift 0x561⟩,
  ⟨0x587, 0x587, .texts ["եւ"]⟩]

private def alphabetRules2 : List Rule := [
  ⟨0x675, 0x678, .texts ["\u0627\u0674", "\u0648\u0674", "\u06C7\u0674", "\u064A\u0674"]⟩,
  ⟨0x958, 0x95D, .texts ["क\u093C", "ख\u093C", "ग\u093C", "ज\u093C", "ड\u093C", "ढ\u093C"]⟩,
  ⟨0x95E, 0x95F, .texts ["फ\u093C", "य\u093C"]⟩,
  ⟨0x9DC, 0x9DD, .texts ["ড\u09BC", "ঢ\u09BC"]⟩,
  ⟨0x9DF, 0x9DF, .texts ["য\u09BC"]⟩,
  ⟨0xA33, 0xA33, .texts ["ਲ\u0A3C"]⟩,
  ⟨0xA36, 0xA36, .texts ["ਸ\u0A3C"]⟩,
  ⟨0xA59, 0xA5B, .texts ["ਖ\u0A3C", "ਗ\u0A3C", "ਜ\u0A3C"]⟩,
  ⟨0xA5E, 0xA5E, .texts ["ਫ\u0A3C"]⟩,
  ⟨0xB5C, 0xB5D, .texts ["ଡ\u0B3C", "ଢ\u0B3C"]⟩,
  ⟨0xE33, 0xE33, .texts ["\u0E4Dา"]⟩,
  ⟨0xEB3, 0xEB3, .texts ["\u0ECDາ"]⟩,
  ⟨0xEDC, 0xEDD, .texts ["ຫນ", "ຫມ"]⟩,
  ⟨0xF0C, 0xF0C, .each "་"⟩,
  ⟨0xF43, 0xF43, .texts ["ག\u0FB7"]⟩,
  ⟨0xF4D, 0xF4D, .texts ["ཌ\u0FB7"]⟩,
  ⟨0xF52, 0xF52, .texts ["ད\u0FB7"]⟩,
  ⟨0xF57, 0xF57, .texts ["བ\u0FB7"]⟩,
  ⟨0xF5C, 0xF5C, .texts ["ཛ\u0FB7"]⟩,
  ⟨0xF69, 0xF69, .texts ["ཀ\u0FB5"]⟩,
  ⟨0xF73, 0xF73, .texts ["\u0F71\u0F72"]⟩,
  ⟨0xF75, 0xF78, .texts ["\u0F71\u0F74", "\u0FB2\u0F80", "\u0FB2\u0F71\u0F80", "\u0FB3\u0F80"]⟩,
  ⟨0xF79, 0xF79, .texts ["\u0FB3\u0F71\u0F80"]⟩,
  ⟨0xF81, 0xF81, .texts ["\u0F71\u0F80"]⟩,
  ⟨0xF93, 0xF93, .texts ["\u0F92\u0FB7"]⟩,
  ⟨0xF9D, 0xF9D, .texts ["\u0F9C\u0FB7"]⟩,
  ⟨0xFA2, 0xFA2, .texts ["\u0FA1\u0FB7"]⟩,
  ⟨0xFA7, 0xFA7, .texts ["\u0FA6\u0FB7"]⟩,
  ⟨0xFAC, 0xFAC, .texts ["\u0FAB\u0FB7"]⟩,
  ⟨0xFB9, 0xFB9, .texts ["\u0F90\u0FB5"]⟩,
  ⟨0x10A0, 0x10C5, .shift 0x2D00⟩,
  ⟨0x10C7, 0x10C7, .each "ⴧ"⟩,
  ⟨0x10CD, 0x10CD, .each "ⴭ"⟩,
  ⟨0x10FC, 0x10FC, .each "ნ"⟩,
  ⟨0x13F8, 0x13FD, .shift 0x13F0⟩,
  ⟨0x1C80, 0x1C89, .each "вдосттъѣꙋᲊ"⟩,
  ⟨0x1C90, 0x1CBA, .shift 0x10D0⟩,
  ⟨0x1CBD, 0x1CBF, .shift 0x10FD⟩,
  ⟨0x1D2C, 0x1D2E, .each "aæb"⟩,
  ⟨0x1D30, 0x1D3A, .each "deǝghijklmn"⟩,
  ⟨0x1D3C, 0x1D4D, .each "oȣprtuwaɐɑᴂbdeəɛɜg"⟩,
  ⟨0x1D4F, 0x1D6A, .each "kmŋoɔᴖᴗptuᴝɯvᴥβγδφχiruvβγρφχ"⟩,
  ⟨0x1D78, 0x1D78, .each "н"⟩,
  ⟨0x1D9B, 0x1DBF, .each "ɒcɕðɜfɟɡɥɨɩɪᵻʝɭᶅʟɱɰɲɳɴɵɸʂʃƫʉʊᴜʋʌzʐʑʒθ"⟩,
  ⟨0x1E00, 0x1E95, .everySecond⟩,
  ⟨0x1E9A, 0x1E9B, .texts ["aʾ", "ṡ"]⟩,
  ⟨0x1E9E, 0x1E9E, .each "ß"⟩,
  ⟨0x1EA0, 0x1EFF, .everySecond⟩,
  ⟨0x1F08, 0x1F0F, .shift 0x1F00⟩,
  ⟨0x1F18, 0x1F1D, .shift 0x1F10⟩,
  ⟨0x1F28, 0x1F2F, .shift 0x1F20⟩,
  ⟨0x1F38, 0x1F3F, .shift 0x1F30⟩,
  ⟨0x1F48, 0x1F4D, .shift 0x1F40⟩,
  ⟨0x1F59, 0x1F59, .each "ὑ"⟩,
  ⟨0x1F5B, 0x1F5B, .each "ὓ"⟩,
  ⟨0x1F5D, 0x1F5D, .each "ὕ"⟩,
  ⟨0x1F5F, 0x1F5F, .each "ὗ"⟩,
  ⟨0x1F68, 0x1F6F, .shift 0x1F60⟩,
  ⟨0x1F71, 0x1F71, .each "ά"⟩,
  ⟨0x1F73, 0x1F73, .each "έ"⟩,
  ⟨0x1F75, 0x1F75, .each "ή"⟩,
  ⟨0x1F77, 0x1F77, .each "ί"⟩,
  ⟨0x1F79, 0x1F79, .each "ό"⟩,
  ⟨0x1F7B, 0x1F7B, .each "ύ"⟩,
  ⟨0x1F7D, 0x1F7D, .each "ώ"⟩,
  ⟨0x1F80, 0x1F8A, .texts ["ἀι", "ἁι", "ἂι", "ἃι", "ἄι", "ἅι", "ἆι", "ἇι", "ἀι", "ἁι", "ἂι"]⟩,
  ⟨0x1F8B, 0x1F95, .texts ["ἃι", "ἄι", "ἅι", "ἆι", "ἇι", "ἠι", "ἡι", "ἢι", "ἣι", "ἤι", "ἥι"]⟩,
  ⟨0x1F96, 0x1FA0, .texts ["ἦι", "ἧι", "ἠι", "ἡι", "ἢι", "ἣι", "ἤι", "ἥι", "ἦι", "ἧι", "ὠι"]⟩,
  ⟨0x1FA1, 0x1FAB, .texts ["ὡι", "ὢι", "ὣι", "ὤι", "ὥι", "ὦι", "ὧι", "ὠι", "ὡι", "ὢι", "ὣι"]⟩,
  ⟨0x1FAC, 0x1FAF, .texts ["ὤι", "ὥι", "ὦι", "ὧι"]⟩,
  ⟨0x1FB2, 0x1FB4, .texts ["ὰι", "αι", "άι"]⟩,
  ⟨0x1FB7, 0x1FBF, .texts ["ᾶι", "ᾰ", "ᾱ", "ὰ", "ά", "αι", " \u0313", "ι", " \u0313"]⟩,
  ⟨0x1FC0, 0x1FC4, .texts [" \u0342", " \u0308\u0342", "ὴι", "ηι", "ήι"]⟩,
  ⟨0x1FC7, 0x1FCE, .texts ["ῆι", "ὲ", "έ", "ὴ", "ή", "ηι", " \u0313\u0300", " \u0313\u0301"]⟩,
  ⟨0x1FCF, 0x1FCF, .texts [" \u0313\u0342"]⟩,
  ⟨0x1FD3, 0x1FD3, .each "ΐ"⟩,
  ⟨0x1FD8, 0x1FDB, .each "ῐῑὶί"⟩,
  ⟨0x1FDD, 0x1FDF, .texts [" \u0314\u0300", " \u0314\u0301", " \u0314\u0342"]⟩,
  ⟨0x1FE3, 0x1FE3, .each "ΰ"⟩,
  ⟨0x1FE8, 0x1FEF, .texts ["ῠ", "ῡ", "ὺ", "ύ", "ῥ", " \u0308\u0300", " \u0308\u0301", "`"]⟩,
  ⟨0x1FF2, 0x1FF4, .texts ["ὼι", "ωι", "ώι"]⟩,
  ⟨0x1FF7, 0x1FFE, .texts ["ῶι", "ὸ", "ό", "ὼ", "ώ", "ωι", " \u0301", " \u0314"]⟩]

def alphabetRules : List Rule :=
  alphabetRules1 ++ alphabetRules2

end WalletRelay.Url.Domain
