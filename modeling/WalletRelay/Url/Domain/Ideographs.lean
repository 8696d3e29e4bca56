import WalletRelay.Url.Domain.Substitution

/-!
# Domain names: repeated ideographs

Some ideographs have several code points for the sake of older character sets. One of them stands
for all.
-/

namespace WalletRelay.Url.Domain

def ideographRules : List Rule := [
  ⟨0xF900, 0xF921, .each "豈更車賈滑串句龜龜契金喇奈懶癩羅蘿螺裸邏樂洛烙珞落酪駱亂卵欄爛蘭鸞嵐"⟩,
  ⟨0xF922, 0xF943, .each "濫藍襤拉臘蠟廊朗浪狼郎來冷勞擄櫓爐盧老蘆虜路露魯鷺碌祿綠菉錄鹿論壟弄"⟩,
  ⟨0xF944, 0xF965, .each "籠聾牢磊賂雷壘屢樓淚漏累縷陋勒肋凜凌稜綾菱陵讀拏樂諾丹寧怒率異北磻便"⟩,
  ⟨0xF966, 0xF987, .each "復不泌數索參塞省葉說殺辰沈拾若掠略亮兩凉梁糧良諒量勵呂女廬旅濾礪閭驪"⟩,
  ⟨0xF988, 0xF9A9, .each "麗黎力曆歷轢年憐戀撚漣煉璉秊練聯輦蓮連鍊列劣咽烈裂說廉念捻殮簾獵令囹"⟩,
  ⟨0xF9AA, 0xF9CB, .each "寧嶺怜玲瑩羚聆鈴零靈領例禮醴隸惡了僚寮尿料樂燎療蓼遼龍暈阮劉杻柳流溜"⟩,
  ⟨0xF9CC, 0xF9ED, .each "琉留硫紐類六戮陸倫崙淪輪律慄栗率隆利吏履易李梨泥理痢罹裏裡里離匿溺吝"⟩,
  ⟨0xF9EE, 0xFA0D, .each "燐璘藺隣鱗麟林淋臨立笠粒狀炙識什茶刺切度拓糖宅洞暴輻行降見廓兀嗀"⟩,
  ⟨0xFA10, 0xFA10, .each "塚"⟩,
  ⟨0xFA12, 0xFA12, .each "晴"⟩,
  ⟨0xFA15, 0xFA1E, .each "凞猪益礼神祥福靖精羽"⟩,
  ⟨0xFA20, 0xFA20, .each "蘒"⟩,
  ⟨0xFA22, 0xFA22, .each "諸"⟩,
  ⟨0xFA25, 0xFA26, .each "逸都"⟩,
  ⟨0xFA2A, 0xFA4B, .each "飯飼館鶴郞隷侮僧免勉勤卑喝嘆器塀墨層屮悔慨憎懲敏既暑梅海渚漢煮爫琢碑"⟩,
  ⟨0xFA4C, 0xFA6D, .each "社祉祈祐祖祝禍禎穀突節練縉繁署者臭艹艹著褐視謁謹賓贈辶逸難響頻恵𤋮舘"⟩,
  ⟨0xFA70, 0xFA91, .each "並况全侀充冀勇勺喝啕喙嗢塚墳奄奔婢嬨廒廙彩徭惘慎愈憎慠懲戴揄搜摒敖晴"⟩,
  ⟨0xFA92, 0xFAB3, .each "朗望杖歹殺流滛滋漢瀞煮瞧爵犯猪瑱甆画瘝瘟益盛直睊着磌窱節类絛練缾者荒"⟩,
  ⟨0xFAB4, 0xFAD5, .each "華蝹襁覆視調諸請謁諾諭謹變贈輸遲醙鉶陼難靖韛響頋頻鬒龜𢡊𢡄𣏕㮝䀘䀹𥉉"⟩,
  ⟨0xFAD6, 0xFAD9, .each "𥳐𧻓齃龎"⟩,
  ⟨0x2F800, 0x2F820, .each "丽丸乁𠄢你侮侻倂偺備僧像㒞𠘺免兔兤具𠔜㒹內再𠕋冗冤仌冬况𩇟凵刃㓟刻"⟩,
  ⟨0x2F821, 0x2F841, .each "剆割剷㔕勇勉勤勺包匆北卉卑博即卽卿卿卿𠨬灰及叟𠭣叫叱吆咞吸呈周咢哶"⟩,
  ⟨0x2F842, 0x2F862, .each "唐啓啣善善喙喫喳嗂圖嘆圗噑噴切壮城埴堍型堲報墬𡓤売壷夆多夢奢𡚨𡛪姬"⟩,
  ⟨0x2F863, 0x2F883, .each "娛娧姘婦㛮㛼嬈嬾嬾𡧈寃寘寧寳𡬘寿将当尢㞁屠屮峀岍𡷤嵃𡷦嵮嵫嵼巡巢㠯"⟩,
  ⟨0x2F884, 0x2F8A4, .each "巽帨帽幩㡢𢆃㡼庰庳庶廊𪎒廾𢌱𢌱舁弢弢㣇𣊸𦇚形彫㣣徚忍志忹悁㤺㤜悔𢛔"⟩,
  ⟨0x2F8A5, 0x2F8C5, .each "惇慈慌慎慌慺憎憲憤憯懞懲懶成戛扝抱拔捐𢬌挽拼捨掃揤𢯱搢揅掩㨮摩摾撝"⟩,
  ⟨0x2F8C6, 0x2F8E6, .each "摷㩬敏敬𣀊旣書晉㬙暑㬈㫤冒冕最暜肭䏙朗望朡杞杓𣏃㭉柺枅桒梅𣑭梎栟椔"⟩,
  ⟨0x2F8E7, 0x2F907, .each "㮝楂榣槪檨𣚣櫛㰘次𣢧歔㱎歲殟殺殻𣪍𡴋𣫺汎𣲼沿泍汧洖派海流浩浸涅𣴞洴"⟩,
  ⟨0x2F908, 0x2F928, .each "港湮㴳滋滇𣻑淹潮𣽞𣾎濆瀹瀞瀛㶖灊災灷炭𠔥煅𤉣熜𤎫爨爵牐𤘈犀犕𤜵𤠔獺"⟩,
  ⟨0x2F929, 0x2F949, .each "王㺬玥㺸㺸瑇瑜瑱璅瓊㼛甤𤰶甾𤲒異𢆟瘐𤾡𤾸𥁄㿼䀈直𥃳𥃲𥄙𥄳眞真真睊䀹"⟩,
  ⟨0x2F94A, 0x2F96A, .each "瞋䁆䂖𥐝硎碌磌䃣𥘦祖𥚚𥛅福秫䄯穀穊穏𥥼𥪧𥪧竮䈂𥮫篆築䈧𥲀糒䊠糨糣紀"⟩,
  ⟨0x2F96B, 0x2F98B, .each "𥾆絣䌁緇縂繅䌴𦈨𦉇䍙𦋙罺𦌾羕翺者𦓚𦔣聠𦖨聰𣍟䏕育脃䐋脾媵𦞧𦞵𣎓𣎜舁"⟩,
  ⟨0x2F98C, 0x2F9AC, .each "舄辞䑫芑芋芝劳花芳芽苦𦬼若茝荣莭茣莽菧著荓菊菌菜𦰶𦵫𦳕䔫蓱蓳蔖𧏊蕤"⟩,
  ⟨0x2F9AD, 0x2F9CD, .each "𦼬䕝䕡𦾱𧃒䕫虐虜虧虩蚩蚈蜎蛢蝹蜨蝫螆䗗蟡蠁䗹衠衣𧙧裗裞䘵裺㒻𧢮𧥦䚾"⟩,
  ⟨0x2F9CE, 0x2F9EE, .each "䛇誠諭變豕𧲨貫賁贛起𧼯𠠄跋趼跰𠣞軔輸𨗒𨗭邔郱鄑𨜮鄛鈸鋗鋘鉼鏹鐕𨯺開"⟩,
  ⟨0x2F9EF, 0x2FA0F, .each "䦕閷𨵷䧦雃嶲霣𩅅𩈚䩮䩶韠𩐊䪲𩒖頋頋頩𩖶飢䬳餩馧駂駾䯎𩬰鬒鱀鳽䳎䳭鵧"⟩,
  ⟨0x2FA10, 0x2FA1D, .each "𪃎䳸𪄅𪈎𪊑麻䵖黹黾鼅鼏鼖鼻𪘀"⟩]

end WalletRelay.Url.Domain
