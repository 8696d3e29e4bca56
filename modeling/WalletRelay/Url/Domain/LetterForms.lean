import WalletRelay.Url.Domain.Substitution

/-!
# Domain names: letter forms

Letters in the form that they take at the beginning, in the middle or at the end of a word, letters
that are joined to one sign, and letters of another width become plain letters.
-/

namespace WalletRelay.Url.Domain

private def formRules1 : List Rule := [
  ⟨0xFB00, 0xFB06, .texts ["ff", "fi", "fl", "ffi", "ffl", "st", "st"]⟩,
  ⟨0xFB13, 0xFB17, .texts ["մն", "մե", "մի", "վն", "մխ"]⟩,
  ⟨0xFB1D, 0xFB1D, .texts ["\u05D9\u05B4"]⟩,
  ⟨0xFB1F, 0xFB24, .texts ["\u05F2\u05B7", "\u05E2", "\u05D0", "\u05D3", "\u05D4", "\u05DB"]⟩,
  ⟨0xFB25, 0xFB2A, .texts ["\u05DC", "\u05DD", "\u05E8", "\u05EA", "+", "\u05E9\u05C1"]⟩,
  ⟨0xFB2B, 0xFB2D, .texts ["\u05E9\u05C2", "\u05E9\u05BC\u05C1", "\u05E9\u05BC\u05C2"]⟩,
  ⟨0xFB2E, 0xFB31, .texts ["\u05D0\u05B7", "\u05D0\u05B8", "\u05D0\u05BC", "\u05D1\u05BC"]⟩,
  ⟨0xFB32, 0xFB35, .texts ["\u05D2\u05BC", "\u05D3\u05BC", "\u05D4\u05BC", "\u05D5\u05BC"]⟩,
  ⟨0xFB36, 0xFB36, .texts ["\u05D6\u05BC"]⟩,
  ⟨0xFB38, 0xFB3B, .texts ["\u05D8\u05BC", "\u05D9\u05BC", "\u05DA\u05BC", "\u05DB\u05BC"]⟩,
  ⟨0xFB3C, 0xFB3C, .texts ["\u05DC\u05BC"]⟩,
  ⟨0xFB3E, 0xFB3E, .texts ["\u05DE\u05BC"]⟩,
  ⟨0xFB40, 0xFB41, .texts ["\u05E0\u05BC", "\u05E1\u05BC"]⟩,
  ⟨0xFB43, 0xFB44, .texts ["\u05E3\u05BC", "\u05E4\u05BC"]⟩,
  ⟨0xFB46, 0xFB49, .texts ["\u05E6\u05BC", "\u05E7\u05BC", "\u05E8\u05BC", "\u05E9\u05BC"]⟩,
  ⟨0xFB4A, 0xFB4D, .texts ["\u05EA\u05BC", "\u05D5\u05B9", "\u05D1\u05BF", "\u05DB\u05BF"]⟩,
  ⟨0xFB4E, 0xFB4F, .texts ["\u05E4\u05BF", "\u05D0\u05DC"]⟩,
  ⟨0xFB50, 0xFB5A, .each "\u0671\u0671\u067B\u067B\u067B\u067B\u067E\u067E\u067E\u067E\u0680"⟩,
  ⟨0xFB5B, 0xFB65, .each "\u0680\u0680\u0680\u067A\u067A\u067A\u067A\u067F\u067F\u067F\u067F"⟩,
  ⟨0xFB66, 0xFB70, .each "\u0679\u0679\u0679\u0679\u06A4\u06A4\u06A4\u06A4\u06A6\u06A6\u06A6"⟩,
  ⟨0xFB71, 0xFB7B, .each "\u06A6\u0684\u0684\u0684\u0684\u0683\u0683\u0683\u0683\u0686\u0686"⟩,
  ⟨0xFB7C, 0xFB86, .each "\u0686\u0686\u0687\u0687\u0687\u0687\u068D\u068D\u068C\u068C\u068E"⟩,
  ⟨0xFB87, 0xFB91, .each "\u068E\u0688\u0688\u0698\u0698\u0691\u0691\u06A9\u06A9\u06A9\u06A9"⟩,
  ⟨0xFB92, 0xFB9C, .each "\u06AF\u06AF\u06AF\u06AF\u06B3\u06B3\u06B3\u06B3\u06B1\u06B1\u06B1"⟩,
  ⟨0xFB9D, 0xFBA7, .each "\u06B1\u06BA\u06BA\u06BB\u06BB\u06BB\u06BB\u06C0\u06C0\u06C1\u06C1"⟩,
  ⟨0xFBA8, 0xFBB1, .each "\u06C1\u06C1\u06BE\u06BE\u06BE\u06BE\u06D2\u06D2\u06D3\u06D3"⟩,
  ⟨0xFBD3, 0xFBDC, .each "\u06AD\u06AD\u06AD\u06AD\u06C7\u06C7\u06C6\u06C6\u06C8\u06C8"⟩,
  ⟨0xFBDD, 0xFBE2, .texts ["\u06C7\u0674", "\u06CB", "\u06CB", "\u06C5", "\u06C5", "\u06C9"]⟩,
  ⟨0xFBE3, 0xFBE8, .texts ["\u06C9", "\u06D0", "\u06D0", "\u06D0", "\u06D0", "\u0649"]⟩,
  ⟨0xFBE9, 0xFBEC, .texts ["\u0649", "\u0626\u0627", "\u0626\u0627", "\u0626\u06D5"]⟩,
  ⟨0xFBED, 0xFBF0, .texts ["\u0626\u06D5", "\u0626\u0648", "\u0626\u0648", "\u0626\u06C7"]⟩,
  ⟨0xFBF1, 0xFBF4, .texts ["\u0626\u06C7", "\u0626\u06C6", "\u0626\u06C6", "\u0626\u06C8"]⟩,
  ⟨0xFBF5, 0xFBF8, .texts ["\u0626\u06C8", "\u0626\u06D0", "\u0626\u06D0", "\u0626\u06D0"]⟩,
  ⟨0xFBF9, 0xFBFD, .texts ["\u0626\u0649", "\u0626\u0649", "\u0626\u0649", "\u06CC", "\u06CC"]⟩,
  ⟨0xFBFE, 0xFC02, .texts ["\u06CC", "\u06CC", "\u0626\u062C", "\u0626\u062D", "\u0626\u0645"]⟩,
  ⟨0xFC03, 0xFC06, .texts ["\u0626\u0649", "\u0626\u064A", "\u0628\u062C", "\u0628\u062D"]⟩,
  ⟨0xFC07, 0xFC0A, .texts ["\u0628\u062E", "\u0628\u0645", "\u0628\u0649", "\u0628\u064A"]⟩,
  ⟨0xFC0B, 0xFC0E, .texts ["\u062A\u062C", "\u062A\u062D", "\u062A\u062E", "\u062A\u0645"]⟩,
  ⟨0xFC0F, 0xFC12, .texts ["\u062A\u0649", "\u062A\u064A", "\u062B\u062C", "\u062B\u0645"]⟩,
  ⟨0xFC13, 0xFC16, .texts ["\u062B\u0649", "\u062B\u064A", "\u062C\u062D", "\u062C\u0645"]⟩,
  ⟨0xFC17, 0xFC1A, .texts ["\u062D\u062C", "\u062D\u0645", "\u062E\u062C", "\u062E\u062D"]⟩,
  ⟨0xFC1B, 0xFC1E, .texts ["\u062E\u0645", "\u0633\u062C", "\u0633\u062D", "\u0633\u062E"]⟩,
  ⟨0xFC1F, 0xFC22, .texts ["\u0633\u0645", "\u0635\u062D", "\u0635\u0645", "\u0636\u062C"]⟩,
  ⟨0xFC23, 0xFC26, .texts ["\u0636\u062D", "\u0636\u062E", "\u0636\u0645", "\u0637\u062D"]⟩,
  ⟨0xFC27, 0xFC2A, .texts ["\u0637\u0645", "\u0638\u0645", "\u0639\u062C", "\u0639\u0645"]⟩,
  ⟨0xFC2B, 0xFC2E, .texts ["\u063A\u062C", "\u063A\u0645", "\u0641\u062C", "\u0641\u062D"]⟩,
  ⟨0xFC2F, 0xFC32, .texts ["\u0641\u062E", "\u0641\u0645", "\u0641\u0649", "\u0641\u064A"]⟩,
  ⟨0xFC33, 0xFC36, .texts ["\u0642\u062D", "\u0642\u0645", "\u0642\u0649", "\u0642\u064A"]⟩,
  ⟨0xFC37, 0xFC3A, .texts ["\u0643\u0627", "\u0643\u062C", "\u0643\u062D", "\u0643\u062E"]⟩,
  ⟨0xFC3B, 0xFC3E, .texts ["\u0643\u0644", "\u0643\u0645", "\u0643\u0649", "\u0643\u064A"]⟩,
  ⟨0xFC3F, 0xFC42, .texts ["\u0644\u062C", "\u0644\u062D", "\u0644\u062E", "\u0644\u0645"]⟩,
  ⟨0xFC43, 0xFC46, .texts ["\u0644\u0649", "\u0644\u064A", "\u0645\u062C", "\u0645\u062D"]⟩,
  ⟨0xFC47, 0xFC4A, .texts ["\u0645\u062E", "\u0645\u0645", "\u0645\u0649", "\u0645\u064A"]⟩,
  ⟨0xFC4B, 0xFC4E, .texts ["\u0646\u062C", "\u0646\u062D", "\u0646\u062E", "\u0646\u0645"]⟩,
  ⟨0xFC4F, 0xFC52, .texts ["\u0646\u0649", "\u0646\u064A", "\u0647\u062C", "\u0647\u0645"]⟩,
  ⟨0xFC53, 0xFC56, .texts ["\u0647\u0649", "\u0647\u064A", "\u064A\u062C", "\u064A\u062D"]⟩,
  ⟨0xFC57, 0xFC5A, .texts ["\u064A\u062E", "\u064A\u0645", "\u064A\u0649", "\u064A\u064A"]⟩,
  ⟨0xFC5B, 0xFC5E, .texts ["\u0630\u0670", "\u0631\u0670", "\u0649\u0670", " \u064C\u0651"]⟩,
  ⟨0xFC5F, 0xFC62, .texts [" \u064D\u0651", " \u064E\u0651", " \u064F\u0651", " \u0650\u0651"]⟩,
  ⟨0xFC63, 0xFC66, .texts [" \u0651\u0670", "\u0626\u0631", "\u0626\u0632", "\u0626\u0645"]⟩,
  ⟨0xFC67, 0xFC6A, .texts ["\u0626\u0646", "\u0626\u0649", "\u0626\u064A", "\u0628\u0631"]⟩,
  ⟨0xFC6B, 0xFC6E, .texts ["\u0628\u0632", "\u0628\u0645", "\u0628\u0646", "\u0628\u0649"]⟩,
  ⟨0xFC6F, 0xFC72, .texts ["\u0628\u064A", "\u062A\u0631", "\u062A\u0632", "\u062A\u0645"]⟩,
  ⟨0xFC73, 0xFC76, .texts ["\u062A\u0646", "\u062A\u0649", "\u062A\u064A", "\u062B\u0631"]⟩,
  ⟨0xFC77, 0xFC7A, .texts ["\u062B\u0632", "\u062B\u0645", "\u062B\u0646", "\u062B\u0649"]⟩,
  ⟨0xFC7B, 0xFC7E, .texts ["\u062B\u064A", "\u0641\u0649", "\u0641\u064A", "\u0642\u0649"]⟩,
  ⟨0xFC7F, 0xFC82, .texts ["\u0642\u064A", "\u0643\u0627", "\u0643\u0644", "\u0643\u0645"]⟩,
  ⟨0xFC83, 0xFC86, .texts ["\u0643\u0649", "\u0643\u064A", "\u0644\u0645", "\u0644\u0649"]⟩,
  ⟨0xFC87, 0xFC8A, .texts ["\u0644\u064A", "\u0645\u0627", "\u0645\u0645", "\u0646\u0631"]⟩,
  ⟨0xFC8B, 0xFC8E, .texts ["\u0646\u0632", "\u0646\u0645", "\u0646\u0646", "\u0646\u0649"]⟩,
  ⟨0xFC8F, 0xFC92, .texts ["\u0646\u064A", "\u0649\u0670", "\u064A\u0631", "\u064A\u0632"]⟩,
  ⟨0xFC93, 0xFC96, .texts ["\u064A\u0645", "\u064A\u0646", "\u064A\u0649", "\u064A\u064A"]⟩,
  ⟨0xFC97, 0xFC9A, .texts ["\u0626\u062C", "\u0626\u062D", "\u0626\u062E", "\u0626\u0645"]⟩,
  ⟨0xFC9B, 0xFC9E, .texts ["\u0626\u0647", "\u0628\u062C", "\u0628\u062D", "\u0628\u062E"]⟩,
  ⟨0xFC9F, 0xFCA2, .texts ["\u0628\u0645", "\u0628\u0647", "\u062A\u062C", "\u062A\u062D"]⟩,
  ⟨0xFCA3, 0xFCA6, .texts ["\u062A\u062E", "\u062A\u0645", "\u062A\u0647", "\u062B\u0645"]⟩,
  ⟨0xFCA7, 0xFCAA, .texts ["\u062C\u062D", "\u062C\u0645", "\u062D\u062C", "\u062D\u0645"]⟩,
  ⟨0xFCAB, 0xFCAE, .texts ["\u062E\u062C", "\u062E\u0645", "\u0633\u062C", "\u0633\u062D"]⟩,
  ⟨0xFCAF, 0xFCB2, .texts ["\u0633\u062E", "\u0633\u0645", "\u0635\u062D", "\u0635\u062E"]⟩,
  ⟨0xFCB3, 0xFCB6, .texts ["\u0635\u0645", "\u0636\u062C", "\u0636\u062D", "\u0636\u062E"]⟩,
  ⟨0xFCB7, 0xFCBA, .texts ["\u0636\u0645", "\u0637\u062D", "\u0638\u0645", "\u0639\u062C"]⟩,
  ⟨0xFCBB, 0xFCBE, .texts ["\u0639\u0645", "\u063A\u062C", "\u063A\u0645", "\u0641\u062C"]⟩,
  ⟨0xFCBF, 0xFCC2, .texts ["\u0641\u062D", "\u0641\u062E", "\u0641\u0645", "\u0642\u062D"]⟩,
  ⟨0xFCC3, 0xFCC6, .texts ["\u0642\u0645", "\u0643\u062C", "\u0643\u062D", "\u0643\u062E"]⟩,
  ⟨0xFCC7, 0xFCCA, .texts ["\u0643\u0644", "\u0643\u0645", "\u0644\u062C", "\u0644\u062D"]⟩,
  ⟨0xFCCB, 0xFCCE, .texts ["\u0644\u062E", "\u0644\u0645", "\u0644\u0647", "\u0645\u062C"]⟩,
  ⟨0xFCCF, 0xFCD2, .texts ["\u0645\u062D", "\u0645\u062E", "\u0645\u0645", "\u0646\u062C"]⟩,
  ⟨0xFCD3, 0xFCD6, .texts ["\u0646\u062D", "\u0646\u062E", "\u0646\u0645", "\u0646\u0647"]⟩,
  ⟨0xFCD7, 0xFCDA, .texts ["\u0647\u062C", "\u0647\u0645", "\u0647\u0670", "\u064A\u062C"]⟩,
  ⟨0xFCDB, 0xFCDE, .texts ["\u064A\u062D", "\u064A\u062E", "\u064A\u0645", "\u064A\u0647"]⟩,
  ⟨0xFCDF, 0xFCE2, .texts ["\u0626\u0645", "\u0626\u0647", "\u0628\u0645", "\u0628\u0647"]⟩,
  ⟨0xFCE3, 0xFCE6, .texts ["\u062A\u0645", "\u062A\u0647", "\u062B\u0645", "\u062B\u0647"]⟩,
  ⟨0xFCE7, 0xFCEA, .texts ["\u0633\u0645", "\u0633\u0647", "\u0634\u0645", "\u0634\u0647"]⟩,
  ⟨0xFCEB, 0xFCEE, .texts ["\u0643\u0644", "\u0643\u0645", "\u0644\u0645", "\u0646\u0645"]⟩,
  ⟨0xFCEF, 0xFCF1, .texts ["\u0646\u0647", "\u064A\u0645", "\u064A\u0647"]⟩,
  ⟨0xFCF2, 0xFCF4, .texts ["\u0640\u064E\u0651", "\u0640\u064F\u0651", "\u0640\u0650\u0651"]⟩,
  ⟨0xFCF5, 0xFCF8, .texts ["\u0637\u0649", "\u0637\u064A", "\u0639\u0649", "\u0639\u064A"]⟩,
  ⟨0xFCF9, 0xFCFC, .texts ["\u063A\u0649", "\u063A\u064A", "\u0633\u0649", "\u0633\u064A"]⟩,
  ⟨0xFCFD, 0xFD00, .texts ["\u0634\u0649", "\u0634\u064A", "\u062D\u0649", "\u062D\u064A"]⟩,
  ⟨0xFD01, 0xFD04, .texts ["\u062C\u0649", "\u062C\u064A", "\u062E\u0649", "\u062E\u064A"]⟩]

private def formRules2 : List Rule := [
  ⟨0xFD05, 0xFD08, .texts ["\u0635\u0649", "\u0635\u064A", "\u0636\u0649", "\u0636\u064A"]⟩,
  ⟨0xFD09, 0xFD0C, .texts ["\u0634\u062C", "\u0634\u062D", "\u0634\u062E", "\u0634\u0645"]⟩,
  ⟨0xFD0D, 0xFD10, .texts ["\u0634\u0631", "\u0633\u0631", "\u0635\u0631", "\u0636\u0631"]⟩,
  ⟨0xFD11, 0xFD14, .texts ["\u0637\u0649", "\u0637\u064A", "\u0639\u0649", "\u0639\u064A"]⟩,
  ⟨0xFD15, 0xFD18, .texts ["\u063A\u0649", "\u063A\u064A", "\u0633\u0649", "\u0633\u064A"]⟩,
  ⟨0xFD19, 0xFD1C, .texts ["\u0634\u0649", "\u0634\u064A", "\u062D\u0649", "\u062D\u064A"]⟩,
  ⟨0xFD1D, 0xFD20, .texts ["\u062C\u0649", "\u062C\u064A", "\u062E\u0649", "\u062E\u064A"]⟩,
  ⟨0xFD21, 0xFD24, .texts ["\u0635\u0649", "\u0635\u064A", "\u0636\u0649", "\u0636\u064A"]⟩,
  ⟨0xFD25, 0xFD28, .texts ["\u0634\u062C", "\u0634\u062D", "\u0634\u062E", "\u0634\u0645"]⟩,
  ⟨0xFD29, 0xFD2C, .texts ["\u0634\u0631", "\u0633\u0631", "\u0635\u0631", "\u0636\u0631"]⟩,
  ⟨0xFD2D, 0xFD30, .texts ["\u0634\u062C", "\u0634\u062D", "\u0634\u062E", "\u0634\u0645"]⟩,
  ⟨0xFD31, 0xFD34, .texts ["\u0633\u0647", "\u0634\u0647", "\u0637\u0645", "\u0633\u062C"]⟩,
  ⟨0xFD35, 0xFD38, .texts ["\u0633\u062D", "\u0633\u062E", "\u0634\u062C", "\u0634\u062D"]⟩,
  ⟨0xFD39, 0xFD3C, .texts ["\u0634\u062E", "\u0637\u0645", "\u0638\u0645", "\u0627\u064B"]⟩,
  ⟨0xFD3D, 0xFD3D, .texts ["\u0627\u064B"]⟩,
  ⟨0xFD50, 0xFD52, .texts ["\u062A\u062C\u0645", "\u062A\u062D\u062C", "\u062A\u062D\u062C"]⟩,
  ⟨0xFD53, 0xFD55, .texts ["\u062A\u062D\u0645", "\u062A\u062E\u0645", "\u062A\u0645\u062C"]⟩,
  ⟨0xFD56, 0xFD58, .texts ["\u062A\u0645\u062D", "\u062A\u0645\u062E", "\u062C\u0645\u062D"]⟩,
  ⟨0xFD59, 0xFD5B, .texts ["\u062C\u0645\u062D", "\u062D\u0645\u064A", "\u062D\u0645\u0649"]⟩,
  ⟨0xFD5C, 0xFD5E, .texts ["\u0633\u062D\u062C", "\u0633\u062C\u062D", "\u0633\u062C\u0649"]⟩,
  ⟨0xFD5F, 0xFD61, .texts ["\u0633\u0645\u062D", "\u0633\u0645\u062D", "\u0633\u0645\u062C"]⟩,
  ⟨0xFD62, 0xFD64, .texts ["\u0633\u0645\u0645", "\u0633\u0645\u0645", "\u0635\u062D\u062D"]⟩,
  ⟨0xFD65, 0xFD67, .texts ["\u0635\u062D\u062D", "\u0635\u0645\u0645", "\u0634\u062D\u0645"]⟩,
  ⟨0xFD68, 0xFD6A, .texts ["\u0634\u062D\u0645", "\u0634\u062C\u064A", "\u0634\u0645\u062E"]⟩,
  ⟨0xFD6B, 0xFD6D, .texts ["\u0634\u0645\u062E", "\u0634\u0645\u0645", "\u0634\u0645\u0645"]⟩,
  ⟨0xFD6E, 0xFD70, .texts ["\u0636\u062D\u0649", "\u0636\u062E\u0645", "\u0636\u062E\u0645"]⟩,
  ⟨0xFD71, 0xFD73, .texts ["\u0637\u0645\u062D", "\u0637\u0645\u062D", "\u0637\u0645\u0645"]⟩,
  ⟨0xFD74, 0xFD76, .texts ["\u0637\u0645\u064A", "\u0639\u062C\u0645", "\u0639\u0645\u0645"]⟩,
  ⟨0xFD77, 0xFD79, .texts ["\u0639\u0645\u0645", "\u0639\u0645\u0649", "\u063A\u0645\u0645"]⟩,
  ⟨0xFD7A, 0xFD7C, .texts ["\u063A\u0645\u064A", "\u063A\u0645\u0649", "\u0641\u062E\u0645"]⟩,
  ⟨0xFD7D, 0xFD7F, .texts ["\u0641\u062E\u0645", "\u0642\u0645\u062D", "\u0642\u0645\u0645"]⟩,
  ⟨0xFD80, 0xFD82, .texts ["\u0644\u062D\u0645", "\u0644\u062D\u064A", "\u0644\u062D\u0649"]⟩,
  ⟨0xFD83, 0xFD85, .texts ["\u0644\u062C\u062C", "\u0644\u062C\u062C", "\u0644\u062E\u0645"]⟩,
  ⟨0xFD86, 0xFD88, .texts ["\u0644\u062E\u0645", "\u0644\u0645\u062D", "\u0644\u0645\u062D"]⟩,
  ⟨0xFD89, 0xFD8B, .texts ["\u0645\u062D\u062C", "\u0645\u062D\u0645", "\u0645\u062D\u064A"]⟩,
  ⟨0xFD8C, 0xFD8E, .texts ["\u0645\u062C\u062D", "\u0645\u062C\u0645", "\u0645\u062E\u062C"]⟩,
  ⟨0xFD8F, 0xFD8F, .texts ["\u0645\u062E\u0645"]⟩,
  ⟨0xFD92, 0xFD94, .texts ["\u0645\u062C\u062E", "\u0647\u0645\u062C", "\u0647\u0645\u0645"]⟩,
  ⟨0xFD95, 0xFD97, .texts ["\u0646\u062D\u0645", "\u0646\u062D\u0649", "\u0646\u062C\u0645"]⟩,
  ⟨0xFD98, 0xFD9A, .texts ["\u0646\u062C\u0645", "\u0646\u062C\u0649", "\u0646\u0645\u064A"]⟩,
  ⟨0xFD9B, 0xFD9D, .texts ["\u0646\u0645\u0649", "\u064A\u0645\u0645", "\u064A\u0645\u0645"]⟩,
  ⟨0xFD9E, 0xFDA0, .texts ["\u0628\u062E\u064A", "\u062A\u062C\u064A", "\u062A\u062C\u0649"]⟩,
  ⟨0xFDA1, 0xFDA3, .texts ["\u062A\u062E\u064A", "\u062A\u062E\u0649", "\u062A\u0645\u064A"]⟩,
  ⟨0xFDA4, 0xFDA6, .texts ["\u062A\u0645\u0649", "\u062C\u0645\u064A", "\u062C\u062D\u0649"]⟩,
  ⟨0xFDA7, 0xFDA9, .texts ["\u062C\u0645\u0649", "\u0633\u062E\u0649", "\u0635\u062D\u064A"]⟩,
  ⟨0xFDAA, 0xFDAC, .texts ["\u0634\u062D\u064A", "\u0636\u062D\u064A", "\u0644\u062C\u064A"]⟩,
  ⟨0xFDAD, 0xFDAF, .texts ["\u0644\u0645\u064A", "\u064A\u062D\u064A", "\u064A\u062C\u064A"]⟩,
  ⟨0xFDB0, 0xFDB2, .texts ["\u064A\u0645\u064A", "\u0645\u0645\u064A", "\u0642\u0645\u064A"]⟩,
  ⟨0xFDB3, 0xFDB5, .texts ["\u0646\u062D\u064A", "\u0642\u0645\u062D", "\u0644\u062D\u0645"]⟩,
  ⟨0xFDB6, 0xFDB8, .texts ["\u0639\u0645\u064A", "\u0643\u0645\u064A", "\u0646\u062C\u062D"]⟩,
  ⟨0xFDB9, 0xFDBB, .texts ["\u0645\u062E\u064A", "\u0644\u062C\u0645", "\u0643\u0645\u0645"]⟩,
  ⟨0xFDBC, 0xFDBE, .texts ["\u0644\u062C\u0645", "\u0646\u062C\u062D", "\u062C\u062D\u064A"]⟩,
  ⟨0xFDBF, 0xFDC1, .texts ["\u062D\u062C\u064A", "\u0645\u062C\u064A", "\u0641\u0645\u064A"]⟩,
  ⟨0xFDC2, 0xFDC4, .texts ["\u0628\u062D\u064A", "\u0643\u0645\u0645", "\u0639\u062C\u0645"]⟩,
  ⟨0xFDC5, 0xFDC7, .texts ["\u0635\u0645\u0645", "\u0633\u062E\u064A", "\u0646\u062C\u064A"]⟩,
  ⟨0xFDF0, 0xFDF1, .texts ["\u0635\u0644\u06D2", "\u0642\u0644\u06D2"]⟩,
  ⟨0xFDF2, 0xFDF3, .texts ["\u0627\u0644\u0644\u0647", "\u0627\u0643\u0628\u0631"]⟩,
  ⟨0xFDF4, 0xFDF5, .texts ["\u0645\u062D\u0645\u062F", "\u0635\u0644\u0639\u0645"]⟩,
  ⟨0xFDF6, 0xFDF7, .texts ["\u0631\u0633\u0648\u0644", "\u0639\u0644\u064A\u0647"]⟩,
  ⟨0xFDF8, 0xFDF9, .texts ["\u0648\u0633\u0644\u0645", "\u0635\u0644\u0649"]⟩,
  ⟨0xFDFA, 0xFDFA, .texts ["\u0635\u0644\u0649 \u0627\u0644\u0644\u0647 \u0639\u0644\u064A\u0647 \u0648\u0633\u0644\u0645"]⟩,
  ⟨0xFDFB, 0xFDFB, .texts ["\u062C\u0644 \u062C\u0644\u0627\u0644\u0647"]⟩,
  ⟨0xFDFC, 0xFDFC, .texts ["\u0631\u06CC\u0627\u0644"]⟩,
  ⟨0xFE10, 0xFE11, .each ",、"⟩,
  ⟨0xFE13, 0xFE18, .each ":;!?〖〗"⟩,
  ⟨0xFE31, 0xFE44, .each "—–__()\x7b\x7d〔〕【】《》〈〉「」『』"⟩,
  ⟨0xFE47, 0xFE4F, .texts ["[", "]", " \u0305", " \u0305", " \u0305", " \u0305", "_", "_", "_"]⟩,
  ⟨0xFE50, 0xFE51, .texts [",", "、"]⟩,
  ⟨0xFE54, 0xFE66, .each ";:?!—()\x7b\x7d〔〕#&*+-<>="⟩,
  ⟨0xFE68, 0xFE6B, .each "\\$%@"⟩,
  ⟨0xFE70, 0xFE72, .texts [" \u064B", "\u0640\u064B", " \u064C"]⟩,
  ⟨0xFE74, 0xFE74, .texts [" \u064D"]⟩,
  ⟨0xFE76, 0xFE7A, .texts [" \u064E", "\u0640\u064E", " \u064F", "\u0640\u064F", " \u0650"]⟩,
  ⟨0xFE7B, 0xFE7E, .texts ["\u0640\u0650", " \u0651", "\u0640\u0651", " \u0652"]⟩,
  ⟨0xFE7F, 0xFE7F, .texts ["\u0640\u0652"]⟩,
  ⟨0xFE80, 0xFE8A, .each "\u0621\u0622\u0622\u0623\u0623\u0624\u0624\u0625\u0625\u0626\u0626"⟩,
  ⟨0xFE8B, 0xFE95, .each "\u0626\u0626\u0627\u0627\u0628\u0628\u0628\u0628\u0629\u0629\u062A"⟩,
  ⟨0xFE96, 0xFEA0, .each "\u062A\u062A\u062A\u062B\u062B\u062B\u062B\u062C\u062C\u062C\u062C"⟩,
  ⟨0xFEA1, 0xFEAB, .each "\u062D\u062D\u062D\u062D\u062E\u062E\u062E\u062E\u062F\u062F\u0630"⟩,
  ⟨0xFEAC, 0xFEB6, .each "\u0630\u0631\u0631\u0632\u0632\u0633\u0633\u0633\u0633\u0634\u0634"⟩,
  ⟨0xFEB7, 0xFEC1, .each "\u0634\u0634\u0635\u0635\u0635\u0635\u0636\u0636\u0636\u0636\u0637"⟩,
  ⟨0xFEC2, 0xFECC, .each "\u0637\u0637\u0637\u0638\u0638\u0638\u0638\u0639\u0639\u0639\u0639"⟩,
  ⟨0xFECD, 0xFED7, .each "\u063A\u063A\u063A\u063A\u0641\u0641\u0641\u0641\u0642\u0642\u0642"⟩,
  ⟨0xFED8, 0xFEE2, .each "\u0642\u0643\u0643\u0643\u0643\u0644\u0644\u0644\u0644\u0645\u0645"⟩,
  ⟨0xFEE3, 0xFEED, .each "\u0645\u0645\u0646\u0646\u0646\u0646\u0647\u0647\u0647\u0647\u0648"⟩,
  ⟨0xFEEE, 0xFEF4, .each "\u0648\u0649\u0649\u064A\u064A\u064A\u064A"⟩,
  ⟨0xFEF5, 0xFEF8, .texts ["\u0644\u0622", "\u0644\u0622", "\u0644\u0623", "\u0644\u0623"]⟩,
  ⟨0xFEF9, 0xFEFC, .texts ["\u0644\u0625", "\u0644\u0625", "\u0644\u0627", "\u0644\u0627"]⟩,
  ⟨0xFF01, 0xFF20, .shift 0x21⟩,
  ⟨0xFF21, 0xFF3A, .shift 0x61⟩,
  ⟨0xFF3B, 0xFF5E, .shift 0x5B⟩,
  ⟨0xFF5F, 0xFF81, .each "⦅⦆.「」、・ヲァィゥェォャュョッーアイウエオカキクケコサシスセソタチ"⟩,
  ⟨0xFF82, 0xFF9F, .each "ツテトナニヌネノハヒフヘホマミムメモヤユヨラリルレロワン\u3099\u309A"⟩,
  ⟨0xFFA1, 0xFFBE, .each "ᄀᄁᆪᄂᆬᆭᄃᄄᄅᆰᆱᆲᆳᆴᆵᄚᄆᄇᄈᄡᄉᄊᄋᄌᄍᄎᄏᄐᄑᄒ"⟩,
  ⟨0xFFC2, 0xFFC7, .shift 0x1161⟩,
  ⟨0xFFCA, 0xFFCF, .shift 0x1167⟩,
  ⟨0xFFD2, 0xFFD7, .shift 0x116D⟩,
  ⟨0xFFDA, 0xFFDC, .shift 0x1173⟩,
  ⟨0xFFE0, 0xFFE6, .texts ["¢", "£", "¬", " \u0304", "¦", "¥", "₩"]⟩,
  ⟨0xFFE8, 0xFFEE, .each "│←↑→↓■○"⟩]

def formRules : List Rule :=
  formRules1 ++ formRules2

end WalletRelay.Url.Domain
