import WalletRelay.Url.Domain.Substitution

/-!
# Domain names: symbols

Numerals and letters in circles or parentheses, words in squares, radicals and letters used as
signs become the letters and figures that they show.
-/

namespace WalletRelay.Url.Domain

private def symbolRules1 : List Rule := [
  ⟨0x2000, 0x200A, .each "           "⟩,
  ⟨0x2011, 0x2011, .each "‐"⟩,
  ⟨0x2017, 0x2017, .texts [" \u0333"]⟩,
  ⟨0x202F, 0x202F, .each " "⟩,
  ⟨0x2033, 0x2034, .texts ["′′", "′′′"]⟩,
  ⟨0x2036, 0x2037, .texts ["‵‵", "‵‵‵"]⟩,
  ⟨0x203C, 0x203C, .texts ["!!"]⟩,
  ⟨0x203E, 0x203E, .texts [" \u0305"]⟩,
  ⟨0x2047, 0x2049, .texts ["??", "?!", "!?"]⟩,
  ⟨0x2057, 0x2057, .texts ["′′′′"]⟩,
  ⟨0x205F, 0x205F, .each " "⟩,
  ⟨0x2070, 0x2071, .each "0i"⟩,
  ⟨0x2074, 0x208E, .each "456789+−=()n0123456789+−=()"⟩,
  ⟨0x2090, 0x209C, .each "aeoxəhklmnpst"⟩,
  ⟨0x20A8, 0x20A8, .texts ["rs"]⟩,
  ⟨0x2100, 0x2103, .texts ["a/c", "a/s", "c", "°c"]⟩,
  ⟨0x2105, 0x2107, .texts ["c/o", "c/u", "ɛ"]⟩,
  ⟨0x2109, 0x2109, .texts ["°f"]⟩,
  ⟨0x210A, 0x2113, .each "ghhhhħiill"⟩,
  ⟨0x2115, 0x2116, .texts ["n", "no"]⟩,
  ⟨0x2119, 0x211D, .each "pqrrr"⟩,
  ⟨0x2120, 0x2122, .texts ["sm", "tel", "tm"]⟩,
  ⟨0x2124, 0x2124, .each "z"⟩,
  ⟨0x2126, 0x2126, .each "ω"⟩,
  ⟨0x2128, 0x2128, .each "z"⟩,
  ⟨0x212A, 0x212D, .each "kåbc"⟩,
  ⟨0x212F, 0x2139, .each "eefⅎmo\u05D0\u05D1\u05D2\u05D3i"⟩,
  ⟨0x213B, 0x2140, .texts ["fax", "π", "γ", "γ", "π", "∑"]⟩,
  ⟨0x2145, 0x2149, .each "ddeij"⟩,
  ⟨0x2150, 0x2158, .texts ["1⁄7", "1⁄9", "1⁄10", "1⁄3", "2⁄3", "1⁄5", "2⁄5", "3⁄5", "4⁄5"]⟩,
  ⟨0x2159, 0x2162, .texts ["1⁄6", "5⁄6", "1⁄8", "3⁄8", "5⁄8", "7⁄8", "1⁄", "i", "ii", "iii"]⟩,
  ⟨0x2163, 0x216D, .texts ["iv", "v", "vi", "vii", "viii", "ix", "x", "xi", "xii", "l", "c"]⟩,
  ⟨0x216E, 0x2178, .texts ["d", "m", "i", "ii", "iii", "iv", "v", "vi", "vii", "viii", "ix"]⟩,
  ⟨0x2179, 0x217F, .texts ["x", "xi", "xii", "l", "c", "d", "m"]⟩,
  ⟨0x2183, 0x2183, .each "ↄ"⟩,
  ⟨0x2189, 0x2189, .texts ["0⁄3"]⟩,
  ⟨0x222C, 0x222D, .texts ["∫∫", "∫∫∫"]⟩,
  ⟨0x222F, 0x2230, .texts ["∮∮", "∮∮∮"]⟩,
  ⟨0x2329, 0x232A, .shift 0x3008⟩,
  ⟨0x2460, 0x2468, .shift 0x31⟩,
  ⟨0x2469, 0x2473, .texts ["10", "11", "12", "13", "14", "15", "16", "17", "18", "19", "20"]⟩,
  ⟨0x2474, 0x247C, .texts ["(1)", "(2)", "(3)", "(4)", "(5)", "(6)", "(7)", "(8)", "(9)"]⟩,
  ⟨0x247D, 0x2484, .texts ["(10)", "(11)", "(12)", "(13)", "(14)", "(15)", "(16)", "(17)"]⟩,
  ⟨0x2485, 0x2487, .texts ["(18)", "(19)", "(20)"]⟩,
  ⟨0x249C, 0x24A4, .texts ["(a)", "(b)", "(c)", "(d)", "(e)", "(f)", "(g)", "(h)", "(i)"]⟩,
  ⟨0x24A5, 0x24AD, .texts ["(j)", "(k)", "(l)", "(m)", "(n)", "(o)", "(p)", "(q)", "(r)"]⟩,
  ⟨0x24AE, 0x24B5, .texts ["(s)", "(t)", "(u)", "(v)", "(w)", "(x)", "(y)", "(z)"]⟩,
  ⟨0x24B6, 0x24EA, .each "abcdefghijklmnopqrstuvwxyzabcdefghijklmnopqrstuvwxyz0"⟩,
  ⟨0x2A0C, 0x2A0C, .texts ["∫∫∫∫"]⟩,
  ⟨0x2A74, 0x2A76, .texts ["::=", "==", "==="]⟩,
  ⟨0x2ADC, 0x2ADC, .texts ["⫝\u0338"]⟩,
  ⟨0x2E9F, 0x2E9F, .each "母"⟩,
  ⟨0x2EF3, 0x2EF3, .each "龟"⟩,
  ⟨0x2F00, 0x2F21, .each "一丨丶丿乙亅二亠人儿入八冂冖冫几凵刀力勹匕匚匸十卜卩厂厶又口囗土士夂"⟩,
  ⟨0x2F22, 0x2F43, .each "夊夕大女子宀寸小尢尸屮山巛工己巾干幺广廴廾弋弓彐彡彳心戈戶手支攴文斗"⟩,
  ⟨0x2F44, 0x2F65, .each "斤方无日曰月木欠止歹殳毋比毛氏气水火爪父爻爿片牙牛犬玄玉瓜瓦甘生用田"⟩,
  ⟨0x2F66, 0x2F87, .each "疋疒癶白皮皿目矛矢石示禸禾穴立竹米糸缶网羊羽老而耒耳聿肉臣自至臼舌舛"⟩,
  ⟨0x2F88, 0x2FA9, .each "舟艮色艸虍虫血行衣襾見角言谷豆豕豸貝赤走足身車辛辰辵邑酉釆里金長門阜"⟩,
  ⟨0x2FAA, 0x2FCB, .each "隶隹雨靑非面革韋韭音頁風飛食首香馬骨高髟鬥鬯鬲鬼魚鳥鹵鹿麥麻黃黍黑黹"⟩,
  ⟨0x2FCC, 0x2FD5, .each "黽鼎鼓鼠鼻齊齒龍龜龠"⟩,
  ⟨0x3000, 0x3000, .each " "⟩,
  ⟨0x3002, 0x3002, .each "."⟩,
  ⟨0x3036, 0x3036, .each "〒"⟩]

private def symbolRules2 : List Rule := [
  ⟨0x3038, 0x303A, .each "十卄卅"⟩,
  ⟨0x309B, 0x309C, .texts [" \u3099", " \u309A"]⟩,
  ⟨0x309F, 0x309F, .texts ["より"]⟩,
  ⟨0x30FF, 0x30FF, .texts ["コト"]⟩,
  ⟨0x3131, 0x3163, .each "ᄀᄁᆪᄂᆬᆭᄃᄄᄅᆰᆱᆲᆳᆴᆵᄚᄆᄇᄈᄡᄉᄊᄋᄌᄍᄎᄏᄐᄑ하ᅢᅣᅤᅥᅦᅧᅨᅩᅪᅫᅬᅭᅮᅯᅰᅱᅲᅳᅴᅵ"⟩,
  ⟨0x3165, 0x318E, .each "ᄔᄕᇇᇈᇌᇎᇓᇗᇙᄜᇝᇟᄝᄞᄠᄢᄣᄧᄩᄫᄬᄭᄮᄯᄲᄶᅀᅇᅌᇱᇲᅗᅘᅙᆄᆅᆈᆑᆒᆔᆞᆡ"⟩,
  ⟨0x3192, 0x319F, .each "一二三四上中下甲乙丙丁天地人"⟩,
  ⟨0x3200, 0x3208, .texts ["(ᄀ)", "(ᄂ)", "(ᄃ)", "(ᄅ)", "(ᄆ)", "(ᄇ)", "(ᄉ)", "(ᄋ)", "(ᄌ)"]⟩,
  ⟨0x3209, 0x3211, .texts ["(ᄎ)", "(ᄏ)", "(ᄐ)", "(ᄑ)", "(ᄒ)", "(가)", "(나)", "(다)", "(라)"]⟩,
  ⟨0x3212, 0x3219, .texts ["(마)", "(바)", "(사)", "(아)", "(자)", "(차)", "(카)", "(타)"]⟩,
  ⟨0x321A, 0x321E, .texts ["(파)", "(하)", "(주)", "(오전)", "(오후)"]⟩,
  ⟨0x3220, 0x3227, .texts ["(一)", "(二)", "(三)", "(四)", "(五)", "(六)", "(七)", "(八)"]⟩,
  ⟨0x3228, 0x322F, .texts ["(九)", "(十)", "(月)", "(火)", "(水)", "(木)", "(金)", "(土)"]⟩,
  ⟨0x3230, 0x3237, .texts ["(日)", "(株)", "(有)", "(社)", "(名)", "(特)", "(財)", "(祝)"]⟩,
  ⟨0x3238, 0x323F, .texts ["(労)", "(代)", "(呼)", "(学)", "(監)", "(企)", "(資)", "(協)"]⟩,
  ⟨0x3240, 0x3247, .texts ["(祭)", "(休)", "(自)", "(至)", "問", "幼", "文", "箏"]⟩,
  ⟨0x3250, 0x325A, .texts ["pte", "21", "22", "23", "24", "25", "26", "27", "28", "29", "30"]⟩,
  ⟨0x325B, 0x325F, .texts ["31", "32", "33", "34", "35"]⟩,
  ⟨0x3260, 0x327B, .each "ᄀᄂᄃᄅᄆᄇᄉᄋᄌᄎᄏᄐᄑᄒ가나다라마바사아자차카타파하"⟩,
  ⟨0x327C, 0x327E, .texts ["참고", "주의", "우"]⟩,
  ⟨0x3280, 0x32A1, .each "一二三四五六七八九十月火水木金土日株有社名特財祝労秘男女適優印注項休"⟩,
  ⟨0x32A2, 0x32B0, .each "写正上中下左右医宗学監企資協夜"⟩,
  ⟨0x32B1, 0x32BB, .texts ["36", "37", "38", "39", "40", "41", "42", "43", "44", "45", "46"]⟩,
  ⟨0x32BC, 0x32C5, .texts ["47", "48", "49", "50", "1月", "2月", "3月", "4月", "5月", "6月"]⟩,
  ⟨0x32C6, 0x32CE, .texts ["7月", "8月", "9月", "10月", "11月", "12月", "hg", "erg", "ev"]⟩,
  ⟨0x32CF, 0x32CF, .texts ["ltd"]⟩,
  ⟨0x32D0, 0x32F1, .each "アイウエオカキクケコサシスセソタチツテトナニヌネノハヒフヘホマミムメ"⟩,
  ⟨0x32F2, 0x32FE, .each "モヤユヨラリルレロワヰヱヲ"⟩,
  ⟨0x32FF, 0x3304, .texts ["令和", "アパート", "アルファ", "アンペア", "アール", "イニング"]⟩,
  ⟨0x3305, 0x330A, .texts ["インチ", "ウォン", "エスクード", "エーカー", "オンス", "オーム"]⟩,
  ⟨0x330B, 0x3310, .texts ["カイリ", "カラット", "カロリー", "ガロン", "ガンマ", "ギガ"]⟩,
  ⟨0x3311, 0x3315, .texts ["ギニー", "キュリー", "ギルダー", "キロ", "キログラム"]⟩,
  ⟨0x3316, 0x331A, .texts ["キロメートル", "キロワット", "グラム", "グラムトン", "クルゼイロ"]⟩,
  ⟨0x331B, 0x3320, .texts ["クローネ", "ケース", "コルナ", "コーポ", "サイクル", "サンチーム"]⟩,
  ⟨0x3321, 0x3327, .texts ["シリング", "センチ", "セント", "ダース", "デシ", "ドル", "トン"]⟩,
  ⟨0x3328, 0x332D, .texts ["ナノ", "ノット", "ハイツ", "パーセント", "パーツ", "バーレル"]⟩,
  ⟨0x332E, 0x3333, .texts ["ピアストル", "ピクル", "ピコ", "ビル", "ファラッド", "フィート"]⟩,
  ⟨0x3334, 0x3339, .texts ["ブッシェル", "フラン", "ヘクタール", "ペソ", "ペニヒ", "ヘルツ"]⟩,
  ⟨0x333A, 0x333F, .texts ["ペンス", "ページ", "ベータ", "ポイント", "ボルト", "ホン"]⟩,
  ⟨0x3340, 0x3345, .texts ["ポンド", "ホール", "ホーン", "マイクロ", "マイル", "マッハ"]⟩,
  ⟨0x3346, 0x334B, .texts ["マルク", "マンション", "ミクロン", "ミリ", "ミリバール", "メガ"]⟩,
  ⟨0x334C, 0x3351, .texts ["メガトン", "メートル", "ヤード", "ヤール", "ユアン", "リットル"]⟩,
  ⟨0x3352, 0x3358, .texts ["リラ", "ルピー", "ルーブル", "レム", "レントゲン", "ワット", "0点"]⟩,
  ⟨0x3359, 0x3361, .texts ["1点", "2点", "3点", "4点", "5点", "6点", "7点", "8点", "9点"]⟩,
  ⟨0x3362, 0x3369, .texts ["10点", "11点", "12点", "13点", "14点", "15点", "16点", "17点"]⟩,
  ⟨0x336A, 0x3372, .texts ["18点", "19点", "20点", "21点", "22点", "23点", "24点", "hpa", "da"]⟩,
  ⟨0x3373, 0x337C, .texts ["au", "bar", "ov", "pc", "dm", "dm2", "dm3", "iu", "平成", "昭和"]⟩,
  ⟨0x337D, 0x3385, .texts ["大正", "明治", "株式会社", "pa", "na", "μa", "ma", "ka", "kb"]⟩,
  ⟨0x3386, 0x3390, .texts ["mb", "gb", "cal", "kcal", "pf", "nf", "μf", "μg", "mg", "kg", "hz"]⟩,
  ⟨0x3391, 0x339A, .texts ["khz", "mhz", "ghz", "thz", "μl", "ml", "dl", "kl", "fm", "nm"]⟩,
  ⟨0x339B, 0x33A4, .texts ["μm", "mm", "cm", "km", "mm2", "cm2", "m2", "km2", "mm3", "cm3"]⟩,
  ⟨0x33A5, 0x33AD, .texts ["m3", "km3", "m∕s", "m∕s2", "pa", "kpa", "mpa", "gpa", "rad"]⟩,
  ⟨0x33AE, 0x33B7, .texts ["rad∕s", "rad∕s2", "ps", "ns", "μs", "ms", "pv", "nv", "μv", "mv"]⟩,
  ⟨0x33B8, 0x33C1, .texts ["kv", "mv", "pw", "nw", "μw", "mw", "kw", "mw", "kω", "mω"]⟩,
  ⟨0x33C3, 0x33C6, .texts ["bq", "cc", "cd", "c∕kg"]⟩,
  ⟨0x33C8, 0x33D2, .texts ["db", "gy", "ha", "hp", "in", "kk", "km", "kt", "lm", "ln", "log"]⟩,
  ⟨0x33D3, 0x33D7, .texts ["lx", "mb", "mil", "mol", "ph"]⟩,
  ⟨0x33D9, 0x33E2, .texts ["ppm", "pr", "sr", "sv", "wb", "v∕m", "a∕m", "1日", "2日", "3日"]⟩,
  ⟨0x33E3, 0x33EB, .texts ["4日", "5日", "6日", "7日", "8日", "9日", "10日", "11日", "12日"]⟩,
  ⟨0x33EC, 0x33F3, .texts ["13日", "14日", "15日", "16日", "17日", "18日", "19日", "20日"]⟩,
  ⟨0x33F4, 0x33FB, .texts ["21日", "22日", "23日", "24日", "25日", "26日", "27日", "28日"]⟩,
  ⟨0x33FC, 0x33FF, .texts ["29日", "30日", "31日", "gal"]⟩]

def symbolRules : List Rule :=
  symbolRules1 ++ symbolRules2

end WalletRelay.Url.Domain
