import WalletRelay.Url.Domain.Substitution

/-!
# Domain names: further letters

Capital letters of the alphabets from `2000` on become small ones; letters in mathematical styles
become plain letters.
-/

namespace WalletRelay.Url.Domain

private def furtherRules1 : List Rule := [
  ⟨0x2C00, 0x2C2F, .shift 0x2C30⟩,
  ⟨0x2C60, 0x2C60, .each "ⱡ"⟩,
  ⟨0x2C62, 0x2C64, .each "ɫᵽɽ"⟩,
  ⟨0x2C67, 0x2C6C, .everySecond⟩,
  ⟨0x2C6D, 0x2C70, .each "ɑɱɐɒ"⟩,
  ⟨0x2C72, 0x2C72, .each "ⱳ"⟩,
  ⟨0x2C75, 0x2C75, .each "ⱶ"⟩,
  ⟨0x2C7C, 0x2C7F, .each "jvȿɀ"⟩,
  ⟨0x2C80, 0x2CE3, .everySecond⟩,
  ⟨0x2CEB, 0x2CEB, .each "ⳬ"⟩,
  ⟨0x2CED, 0x2CED, .each "ⳮ"⟩,
  ⟨0x2CF2, 0x2CF2, .each "ⳳ"⟩,
  ⟨0x2D6F, 0x2D6F, .each "ⵡ"⟩,
  ⟨0xA640, 0xA66D, .everySecond⟩,
  ⟨0xA680, 0xA69B, .everySecond⟩,
  ⟨0xA69C, 0xA69D, .each "ъь"⟩,
  ⟨0xA722, 0xA72F, .everySecond⟩,
  ⟨0xA732, 0xA76F, .everySecond⟩,
  ⟨0xA770, 0xA770, .each "ꝯ"⟩,
  ⟨0xA779, 0xA779, .each "ꝺ"⟩,
  ⟨0xA77B, 0xA77B, .each "ꝼ"⟩,
  ⟨0xA77D, 0xA77D, .each "ᵹ"⟩,
  ⟨0xA77E, 0xA787, .everySecond⟩,
  ⟨0xA78B, 0xA78B, .each "ꞌ"⟩,
  ⟨0xA78D, 0xA78D, .each "ɥ"⟩,
  ⟨0xA790, 0xA790, .each "ꞑ"⟩,
  ⟨0xA792, 0xA792, .each "ꞓ"⟩,
  ⟨0xA796, 0xA7A9, .everySecond⟩,
  ⟨0xA7AA, 0xA7AE, .each "ɦɜɡɬɪ"⟩,
  ⟨0xA7B0, 0xA7B3, .each "ʞʇʝꭓ"⟩,
  ⟨0xA7B4, 0xA7C3, .everySecond⟩,
  ⟨0xA7C4, 0xA7C7, .each "ꞔʂᶎꟈ"⟩,
  ⟨0xA7C9, 0xA7C9, .each "ꟊ"⟩,
  ⟨0xA7CB, 0xA7CB, .each "ɤ"⟩,
  ⟨0xA7CC, 0xA7DB, .everySecond⟩,
  ⟨0xA7DC, 0xA7DC, .each "ƛ"⟩,
  ⟨0xA7F1, 0xA7F5, .each "scfqꟶ"⟩,
  ⟨0xA7F8, 0xA7F9, .each "ħœ"⟩,
  ⟨0xAB5C, 0xAB5F, .each "ꜧꬷɫꭒ"⟩,
  ⟨0xAB69, 0xAB69, .each "ʍ"⟩,
  ⟨0xAB70, 0xABBF, .shift 0x13A0⟩,
  ⟨0x10400, 0x10427, .shift 0x10428⟩,
  ⟨0x104B0, 0x104D3, .shift 0x104D8⟩,
  ⟨0x10570, 0x1057A, .shift 0x10597⟩,
  ⟨0x1057C, 0x1058A, .shift 0x105A3⟩,
  ⟨0x1058C, 0x10592, .shift 0x105B3⟩,
  ⟨0x10594, 0x10595, .shift 0x105BB⟩,
  ⟨0x10781, 0x10785, .each "ːˑæʙɓ"⟩,
  ⟨0x10787, 0x107B0, .each "ʣꭦʥʤɖɗᶑɘɞʩɤɢɠʛħʜɧʄʪʫɬ𝼄ꞎɮ𝼅ʎ𝼆øɶɷqɺ𝼈ɽɾʀʨʦꭧʧʈⱱ"⟩,
  ⟨0x107B2, 0x107BA, .each "ʏʡʢʘǀǁǂ𝼊𝼞"⟩,
  ⟨0x10C80, 0x10CB2, .shift 0x10CC0⟩,
  ⟨0x10D50, 0x10D65, .shift 0x10D70⟩,
  ⟨0x118A0, 0x118BF, .shift 0x118C0⟩,
  ⟨0x16E40, 0x16E5F, .shift 0x16E60⟩,
  ⟨0x16EA0, 0x16EB8, .shift 0x16EBB⟩,
  ⟨0x1CCD6, 0x1CCEF, .shift 0x61⟩,
  ⟨0x1CCF0, 0x1CCF9, .shift 0x30⟩,
  ⟨0x1D15E, 0x1D164, .texts ["𝅗𝅥", "𝅘𝅥", "𝅘𝅥𝅮", "𝅘𝅥𝅯", "𝅘𝅥𝅰", "𝅘𝅥𝅱", "𝅘𝅥𝅲"]⟩,
  ⟨0x1D1BB, 0x1D1C0, .texts ["𝆹𝅥", "𝆺𝅥", "𝆹𝅥𝅮", "𝆺𝅥𝅮", "𝆹𝅥𝅯", "𝆺𝅥𝅯"]⟩,
  ⟨0x1D400, 0x1D419, .shift 0x61⟩,
  ⟨0x1D41A, 0x1D433, .shift 0x61⟩,
  ⟨0x1D434, 0x1D44D, .shift 0x61⟩,
  ⟨0x1D44E, 0x1D454, .shift 0x61⟩,
  ⟨0x1D456, 0x1D497, .each "ijklmnopqrstuvwxyzabcdefghijklmnopqrstuvwxyzabcdefghijklmnopqrstuv"⟩,
  ⟨0x1D498, 0x1D49C, .each "wxyza"⟩,
  ⟨0x1D49E, 0x1D49F, .shift 0x63⟩,
  ⟨0x1D4A2, 0x1D4A2, .each "g"⟩,
  ⟨0x1D4A5, 0x1D4A6, .shift 0x6A⟩,
  ⟨0x1D4A9, 0x1D4AC, .shift 0x6E⟩,
  ⟨0x1D4AE, 0x1D4B9, .each "stuvwxyzabcd"⟩,
  ⟨0x1D4BB, 0x1D4BB, .each "f"⟩,
  ⟨0x1D4BD, 0x1D4C3, .shift 0x68⟩,
  ⟨0x1D4C5, 0x1D505, .each "pqrstuvwxyzabcdefghijklmnopqrstuvwxyzabcdefghijklmnopqrstuvwxyzab"⟩,
  ⟨0x1D507, 0x1D50A, .shift 0x64⟩]

private def furtherRules2 : List Rule := [
  ⟨0x1D50D, 0x1D514, .shift 0x6A⟩,
  ⟨0x1D516, 0x1D51C, .shift 0x73⟩,
  ⟨0x1D51E, 0x1D539, .each "abcdefghijklmnopqrstuvwxyzab"⟩,
  ⟨0x1D53B, 0x1D53E, .shift 0x64⟩,
  ⟨0x1D540, 0x1D544, .shift 0x69⟩,
  ⟨0x1D546, 0x1D546, .each "o"⟩,
  ⟨0x1D54A, 0x1D550, .shift 0x73⟩,
  ⟨0x1D552, 0x1D593, .each "abcdefghijklmnopqrstuvwxyzabcdefghijklmnopqrstuvwxyzabcdefghijklmn"⟩,
  ⟨0x1D594, 0x1D5D5, .each "opqrstuvwxyzabcdefghijklmnopqrstuvwxyzabcdefghijklmnopqrstuvwxyzab"⟩,
  ⟨0x1D5D6, 0x1D617, .each "cdefghijklmnopqrstuvwxyzabcdefghijklmnopqrstuvwxyzabcdefghijklmnop"⟩,
  ⟨0x1D618, 0x1D659, .each "qrstuvwxyzabcdefghijklmnopqrstuvwxyzabcdefghijklmnopqrstuvwxyzabcd"⟩,
  ⟨0x1D65A, 0x1D69B, .each "efghijklmnopqrstuvwxyzabcdefghijklmnopqrstuvwxyzabcdefghijklmnopqr"⟩,
  ⟨0x1D69C, 0x1D6A5, .each "stuvwxyzıȷ"⟩,
  ⟨0x1D6A8, 0x1D6E9, .each "αβγδεζηθικλμνξοπρθστυφχψω∇αβγδεζηθικλμνξοπρσστυφχψω∂εθκφρπαβγδεζηθ"⟩,
  ⟨0x1D6EA, 0x1D72B, .each "ικλμνξοπρθστυφχψω∇αβγδεζηθικλμνξοπρσστυφχψω∂εθκφρπαβγδεζηθικλμνξοπ"⟩,
  ⟨0x1D72C, 0x1D76D, .each "ρθστυφχψω∇αβγδεζηθικλμνξοπρσστυφχψω∂εθκφρπαβγδεζηθικλμνξοπρθστυφχψ"⟩,
  ⟨0x1D76E, 0x1D7AF, .each "ω∇αβγδεζηθικλμνξοπρσστυφχψω∂εθκφρπαβγδεζηθικλμνξοπρθστυφχψω∇αβγδεζ"⟩,
  ⟨0x1D7B0, 0x1D7CB, .each "ηθικλμνξοπρσστυφχψω∂εθκφρπϝϝ"⟩,
  ⟨0x1D7CE, 0x1D7FF, .each "01234567890123456789012345678901234567890123456789"⟩,
  ⟨0x1E030, 0x1E06D, .each "абвгдежзиклмопрстуфхцчшыэюꚉәіјөүӏабвгдежзиклопсуфхцчшъыґіѕџҫꙑұ"⟩,
  ⟨0x1E900, 0x1E921, .shift 0x1E922⟩,
  ⟨0x1EE00, 0x1EE03, .each "\u0627\u0628\u062C\u062F"⟩,
  ⟨0x1EE05, 0x1EE0F, .each "\u0648\u0632\u062D\u0637\u064A\u0643\u0644\u0645\u0646\u0633\u0639"⟩,
  ⟨0x1EE10, 0x1EE1A, .each "\u0641\u0635\u0642\u0631\u0634\u062A\u062B\u062E\u0630\u0636\u0638"⟩,
  ⟨0x1EE1B, 0x1EE1F, .each "\u063A\u066E\u06BA\u06A1\u066F"⟩,
  ⟨0x1EE21, 0x1EE22, .each "\u0628\u062C"⟩,
  ⟨0x1EE24, 0x1EE24, .each "\u0647"⟩,
  ⟨0x1EE27, 0x1EE27, .each "\u062D"⟩,
  ⟨0x1EE29, 0x1EE32, .each "\u064A\u0643\u0644\u0645\u0646\u0633\u0639\u0641\u0635\u0642"⟩,
  ⟨0x1EE34, 0x1EE37, .each "\u0634\u062A\u062B\u062E"⟩,
  ⟨0x1EE39, 0x1EE39, .each "\u0636"⟩,
  ⟨0x1EE3B, 0x1EE3B, .each "\u063A"⟩,
  ⟨0x1EE42, 0x1EE42, .each "\u062C"⟩,
  ⟨0x1EE47, 0x1EE47, .each "\u062D"⟩,
  ⟨0x1EE49, 0x1EE49, .each "\u064A"⟩,
  ⟨0x1EE4B, 0x1EE4B, .each "\u0644"⟩,
  ⟨0x1EE4D, 0x1EE4F, .each "\u0646\u0633\u0639"⟩,
  ⟨0x1EE51, 0x1EE52, .each "\u0635\u0642"⟩,
  ⟨0x1EE54, 0x1EE54, .each "\u0634"⟩,
  ⟨0x1EE57, 0x1EE57, .each "\u062E"⟩,
  ⟨0x1EE59, 0x1EE59, .each "\u0636"⟩,
  ⟨0x1EE5B, 0x1EE5B, .each "\u063A"⟩,
  ⟨0x1EE5D, 0x1EE5D, .each "\u06BA"⟩,
  ⟨0x1EE5F, 0x1EE5F, .each "\u066F"⟩,
  ⟨0x1EE61, 0x1EE62, .each "\u0628\u062C"⟩,
  ⟨0x1EE64, 0x1EE64, .each "\u0647"⟩,
  ⟨0x1EE67, 0x1EE6A, .each "\u062D\u0637\u064A\u0643"⟩,
  ⟨0x1EE6C, 0x1EE72, .each "\u0645\u0646\u0633\u0639\u0641\u0635\u0642"⟩,
  ⟨0x1EE74, 0x1EE77, .each "\u0634\u062A\u062B\u062E"⟩,
  ⟨0x1EE79, 0x1EE7C, .each "\u0636\u0638\u063A\u066E"⟩,
  ⟨0x1EE7E, 0x1EE7E, .each "\u06A1"⟩,
  ⟨0x1EE80, 0x1EE89, .each "\u0627\u0628\u062C\u062F\u0647\u0648\u0632\u062D\u0637\u064A"⟩,
  ⟨0x1EE8B, 0x1EE95, .each "\u0644\u0645\u0646\u0633\u0639\u0641\u0635\u0642\u0631\u0634\u062A"⟩,
  ⟨0x1EE96, 0x1EE9B, .each "\u062B\u062E\u0630\u0636\u0638\u063A"⟩,
  ⟨0x1EEA1, 0x1EEA3, .each "\u0628\u062C\u062F"⟩,
  ⟨0x1EEA5, 0x1EEA9, .each "\u0648\u0632\u062D\u0637\u064A"⟩,
  ⟨0x1EEAB, 0x1EEB5, .each "\u0644\u0645\u0646\u0633\u0639\u0641\u0635\u0642\u0631\u0634\u062A"⟩,
  ⟨0x1EEB6, 0x1EEBB, .each "\u062B\u062E\u0630\u0636\u0638\u063A"⟩,
  ⟨0x1F101, 0x1F10A, .texts ["0,", "1,", "2,", "3,", "4,", "5,", "6,", "7,", "8,", "9,"]⟩,
  ⟨0x1F110, 0x1F118, .texts ["(a)", "(b)", "(c)", "(d)", "(e)", "(f)", "(g)", "(h)", "(i)"]⟩,
  ⟨0x1F119, 0x1F121, .texts ["(j)", "(k)", "(l)", "(m)", "(n)", "(o)", "(p)", "(q)", "(r)"]⟩,
  ⟨0x1F122, 0x1F12A, .texts ["(s)", "(t)", "(u)", "(v)", "(w)", "(x)", "(y)", "(z)", "〔s〕"]⟩,
  ⟨0x1F12B, 0x1F12E, .texts ["c", "r", "cd", "wz"]⟩,
  ⟨0x1F130, 0x1F149, .shift 0x61⟩,
  ⟨0x1F14A, 0x1F14F, .texts ["hv", "mv", "sd", "ss", "ppv", "wc"]⟩,
  ⟨0x1F16A, 0x1F16C, .texts ["mc", "md", "mr"]⟩,
  ⟨0x1F190, 0x1F190, .texts ["dj"]⟩,
  ⟨0x1F200, 0x1F202, .texts ["ほか", "ココ", "サ"]⟩,
  ⟨0x1F210, 0x1F230, .each "手字双デ二多解天交映無料前後再新初終生販声吹演投捕一三遊左中右指走"⟩,
  ⟨0x1F231, 0x1F23B, .each "打禁空合満有月申割営配"⟩,
  ⟨0x1F240, 0x1F245, .texts ["〔本〕", "〔三〕", "〔二〕", "〔安〕", "〔点〕", "〔打〕"]⟩,
  ⟨0x1F246, 0x1F248, .texts ["〔盗〕", "〔勝〕", "〔敗〕"]⟩,
  ⟨0x1F250, 0x1F251, .each "得可"⟩,
  ⟨0x1FBF0, 0x1FBF9, .shift 0x30⟩]

def furtherRules : List Rule :=
  furtherRules1 ++ furtherRules2

end WalletRelay.Url.Domain
