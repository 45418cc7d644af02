/-!
# Letters that fold into one letter

Rows of characters that stand for another one: a capital for its small letter, a variant for the
plain form.
-/

namespace Conformance.Text

/-- The first character of a row, the step from one character to the next, and what the characters
stand for. -/
def foldedLetters : List (Nat × Nat × String) := [
  (0xAA, 1, "a"),
  (0xB2, 1, "23"),
  (0xB5, 1, "μ"),
  (0xB9, 1, "1o"),
  (0xC0, 1, "àáâãäåæçèéêëìíîïðñòóôõö"),
  (0xD8, 1, "øùúûüýþ"),
  (0x100, 2, "āăąćĉċčďđēĕėęěĝğġģĥħĩīĭį"),
  (0x134, 2, "ĵķ"),
  (0x139, 2, "ĺļľ"),
  (0x141, 2, "łńņň"),
  (0x14A, 2, "ŋōŏőœŕŗřśŝşšţťŧũūŭůűųŵŷ"),
  (0x178, 1, "ÿź"),
  (0x17B, 2, "żžs"),
  (0x181, 1, "ɓƃ"),
  (0x184, 1, "ƅ"),
  (0x186, 1, "ɔƈ"),
  (0x189, 1, "ɖɗƌ"),
  (0x18E, 1, "ǝəɛƒ"),
  (0x193, 1, "ɠɣ"),
  (0x196, 1, "ɩɨƙ"),
  (0x19C, 1, "ɯɲ"),
  (0x19F, 1, "ɵơ"),
  (0x1A2, 2, "ƣƥ"),
  (0x1A6, 1, "ʀƨ"),
  (0x1A9, 1, "ʃ"),
  (0x1AC, 1, "ƭ"),
  (0x1AE, 1, "ʈư"),
  (0x1B1, 1, "ʊʋƴ"),
  (0x1B5, 1, "ƶ"),
  (0x1B7, 1, "ʒƹ"),
  (0x1BC, 1, "ƽ"),
  (0x1CD, 2, "ǎǐǒǔǖǘǚǜ"),
  (0x1DE, 2, "ǟǡǣǥǧǩǫǭǯ"),
  (0x1F4, 1, "ǵ"),
  (0x1F6, 1, "ƕƿǹ"),
  (0x1FA, 2, "ǻǽǿȁȃȅȇȉȋȍȏȑȓȕȗșțȝȟƞȣȥȧȩȫȭȯȱȳ"),
  (0x23A, 1, "ⱥȼ"),
  (0x23D, 1, "ƚⱦ"),
  (0x241, 1, "ɂ"),
  (0x243, 1, "ƀʉʌɇ"),
  (0x248, 2, "ɉɋɍɏ"),
  (0x2B0, 1, "hɦjrɹɻʁwy"),
  (0x2E0, 1, "ɣlsxʕ"),
  (0x340, 1, "\u0300\u0301"),
  (0x343, 2, "\u0313ι"),
  (0x370, 2, "ͱͳʹͷ"),
  (0x37E, 1, ";ϳ"),
  (0x386, 1, "ά·έήί"),
  (0x38C, 1, "ό"),
  (0x38E, 1, "ύώ"),
  (0x391, 1, "αβγδεζηθικλμνξοπρ"),
  (0x3A3, 1, "στυφχψωϊϋ"),
  (0x3CF, 1, "ϗβθυύϋφπ"),
  (0x3D8, 2, "ϙϛϝϟϡϣϥϧϩϫϭϯ"),
  (0x3F0, 1, "κρσ"),
  (0x3F4, 1, "θε"),
  (0x3F7, 1, "ϸ"),
  (0x3F9, 1, "σϻ"),
  (0x3FD, 1, "ͻͼͽѐёђѓєѕіїјљњћќѝўџабвгдежзийклмнопрстуфхцчшщъыьэюя"),
  (0x460, 2, "ѡѣѥѧѩѫѭѯѱѳѵѷѹѻѽѿҁ"),
  (0x48A, 2, "ҋҍҏґғҕҗҙқҝҟҡңҥҧҩҫҭүұҳҵҷҹһҽҿ"),
  (0x4C0, 1, "ӏӂ"),
  (0x4C3, 2, "ӄӆӈӊӌӎ"),
  (0x4D0, 2, "ӑӓӕӗәӛӝӟӡӣӥӧөӫӭӯӱӳӵӷӹӻӽӿԁԃԅԇԉԋԍԏԑԓԕԗԙԛԝԟԡԣԥԧԩԫԭԯ"),
  (0x531, 1, "աբգդեզէըթժիլխծկհձղճմյնշոչպջռսվտրցւփքօֆ"),
  (0xF0C, 1, "་"),
  (0x10A0, 1, "ⴀⴁⴂⴃⴄⴅⴆⴇⴈⴉⴊⴋⴌⴍⴎⴏⴐⴑⴒⴓⴔⴕⴖⴗⴘⴙⴚⴛⴜⴝⴞⴟⴠⴡⴢⴣⴤⴥ"),
  (0x10C7, 1, "ⴧ"),
  (0x10CD, 1, "ⴭ"),
  (0x10FC, 1, "ნ"),
  (0x13F8, 1, "ᏰᏱᏲᏳᏴᏵ"),
  (0x1C80, 1, "вдосттъѣꙋᲊ"),
  (0x1C90, 1, "აბგდევზთიკლმნოპჟრსტუფქღყშჩცძწჭხჯჰჱჲჳჴჵჶჷჸჹჺ"),
  (0x1CBD, 1, "ჽჾჿ"),
  (0x1D2C, 1, "aæb"),
  (0x1D30, 1, "deǝghijklmn"),
  (0x1D3C, 1, "oȣprtuwaɐɑᴂbdeəɛɜg"),
  (0x1D4F, 1, "kmŋoɔᴖᴗptuᴝɯvᴥβγδφχiruvβγρφχ"),
  (0x1D78, 1, "н"),
  (0x1D9B, 1, "ɒcɕðɜfɟɡɥɨɩɪᵻʝɭᶅʟɱɰɲɳɴɵɸʂʃƫʉʊᴜʋʌzʐʑʒθ"),
  (0x1E00, 2, "ḁḃḅḇḉḋḍḏḑḓḕḗḙḛḝḟḡḣḥḧḩḫḭḯḱḳḵḷḹḻḽḿṁṃṅṇṉṋṍṏṑṓṕṗṙṛṝṟṡṣṥṧṩṫṭṯṱṳṵṷṹṻṽṿẁẃẅẇẉẋ"),
  (0x1E8C, 2, "ẍẏẑẓẕ"),
  (0x1E9B, 1, "ṡ"),
  (0x1E9E, 2, "ßạảấầẩẫậắằẳẵặẹẻẽếềểễệỉịọỏốồổỗộớờởỡợụủứừửữựỳỵỷỹỻỽỿ"),
  (0x1F08, 1, "ἀἁἂἃἄἅἆἇ"),
  (0x1F18, 1, "ἐἑἒἓἔἕ"),
  (0x1F28, 1, "ἠἡἢἣἤἥἦἧ"),
  (0x1F38, 1, "ἰἱἲἳἴἵἶἷ"),
  (0x1F48, 1, "ὀὁὂὃὄὅ"),
  (0x1F59, 2, "ὑὓὕὗ"),
  (0x1F68, 1, "ὠὡὢὣὤὥὦὧ"),
  (0x1F71, 2, "άέήίόύώ"),
  (0x1FB8, 1, "ᾰᾱὰά"),
  (0x1FBE, 1, "ι"),
  (0x1FC8, 1, "ὲέὴή"),
  (0x1FD3, 1, "ΐ"),
  (0x1FD8, 1, "ῐῑὶί"),
  (0x1FE3, 1, "ΰ"),
  (0x1FE8, 1, "ῠῡὺύῥ"),
  (0x1FEF, 1, "\x60"),
  (0x1FF8, 1, "ὸόὼώ"),
  (0x2011, 1, "‐"),
  (0x2070, 1, "0i"),
  (0x2074, 1, "456789+−=()n0123456789+−=()"),
  (0x2090, 1, "aeoxəhklmnpst"),
  (0x2102, 1, "c"),
  (0x2107, 1, "ɛ"),
  (0x210A, 1, "ghhhhħiill"),
  (0x2115, 1, "n"),
  (0x2119, 1, "pqrrr"),
  (0x2124, 2, "zωz"),
  (0x212A, 1, "kåbc"),
  (0x212F, 1, "eefⅎmo\u05d0\u05d1\u05d2\u05d3i"),
  (0x213C, 1, "πγγπ∑"),
  (0x2145, 1, "ddeij"),
  (0x2160, 1, "i"),
  (0x2164, 1, "v"),
  (0x2169, 1, "x"),
  (0x216C, 1, "lcdmi"),
  (0x2174, 1, "v"),
  (0x2179, 1, "x"),
  (0x217C, 1, "lcdm"),
  (0x2183, 1, "ↄ"),
  (0x2329, 1, "〈〉"),
  (0x2460, 1, "123456789"),
  (0x24B6, 1, "abcdefghijklmnopqrstuvwxyzabcdefghijklmnopqrstuvwxyz0"),
  (0x2C00, 1, "ⰰⰱⰲⰳⰴⰵⰶⰷⰸⰹⰺⰻⰼⰽⰾⰿⱀⱁⱂⱃⱄⱅⱆⱇⱈⱉⱊⱋⱌⱍⱎⱏⱐⱑⱒⱓⱔⱕⱖⱗⱘⱙⱚⱛⱜⱝⱞⱟ"),
  (0x2C60, 1, "ⱡ"),
  (0x2C62, 1, "ɫᵽɽ"),
  (0x2C67, 2, "ⱨⱪⱬ"),
  (0x2C6D, 1, "ɑɱɐɒ"),
  (0x2C72, 1, "ⱳ"),
  (0x2C75, 1, "ⱶ"),
  (0x2C7C, 1, "jvȿɀⲁ"),
  (0x2C82, 2, "ⲃⲅⲇⲉⲋⲍⲏⲑⲓⲕⲗⲙⲛⲝⲟⲡⲣⲥⲧⲩⲫⲭⲯⲱⲳⲵⲷⲹⲻⲽⲿⳁⳃⳅⳇⳉⳋⳍⳏⳑⳓⳕⳗⳙⳛⳝⳟⳡⳣ"),
  (0x2CEB, 2, "ⳬⳮ"),
  (0x2CF2, 1, "ⳳ"),
  (0x2D6F, 1, "ⵡ"),
  (0x2E9F, 1, "母"),
  (0x2EF3, 1, "龟"),
  (0x2F00, 1, "一丨丶丿乙亅二亠人儿入八冂冖冫几凵刀力勹匕匚匸十卜卩厂厶又口囗土士夂夊"),
  (0x2F23, 1, "夕大女子宀寸小尢尸屮山巛工己巾干幺广廴廾弋弓彐彡彳心戈戶手支攴文斗斤方"),
  (0x2F46, 1, "无日曰月木欠止歹殳毋比毛氏气水火爪父爻爿片牙牛犬玄玉瓜瓦甘生用田疋疒癶"),
  (0x2F69, 1, "白皮皿目矛矢石示禸禾穴立竹米糸缶网羊羽老而耒耳聿肉臣自至臼舌舛舟艮色艸"),
  (0x2F8C, 1, "虍虫血行衣襾見角言谷豆豕豸貝赤走足身車辛辰辵邑酉釆里金長門阜隶隹雨靑非"),
  (0x2FAF, 1, "面革韋韭音頁風飛食首香馬骨高髟鬥鬯鬲鬼魚鳥鹵鹿麥麻黃黍黑黹黽鼎鼓鼠鼻齊"),
  (0x2FD2, 1, "齒龍龜龠"),
  (0x3002, 1, "."),
  (0x3036, 1, "〒"),
  (0x3038, 1, "十卄卅"),
  (0x3131, 1, "ᄀᄁᆪᄂᆬᆭᄃᄄᄅᆰᆱᆲᆳᆴᆵᄚᄆᄇᄈᄡᄉᄊᄋᄌᄍᄎᄏᄐᄑ하ᅢᅣᅤᅥᅦᅧᅨᅩᅪᅫᅬᅭᅮᅯᅰᅱᅲᅳ"),
  (0x3162, 1, "ᅴᅵ"),
  (0x3165, 1, "ᄔᄕᇇᇈᇌᇎᇓᇗᇙᄜᇝᇟᄝᄞᄠᄢᄣᄧᄩᄫᄬᄭᄮᄯᄲᄶᅀᅇᅌᇱᇲᅗᅘᅙᆄᆅᆈᆑᆒᆔᆞᆡ"),
  (0x3192, 1, "一二三四上中下甲乙丙丁天地人"),
  (0x3244, 1, "問幼文箏"),
  (0x3260, 1, "ᄀᄂᄃᄅᄆᄇᄉᄋᄌᄎᄏᄐᄑᄒ가나다라마바사아자차카타파하"),
  (0x327E, 1, "우"),
  (0x3280, 1, "一二三四五六七八九十月火水木金土日株有社名特財祝労秘男女適優印注項休写"),
  (0x32A3, 1, "正上中下左右医宗学監企資協夜"),
  (0x32D0, 1, "アイウエオカキクケコサシスセソタチツテトナニヌネノハヒフヘホマミムメモ"),
  (0x32F3, 1, "ヤユヨラリルレロワヰヱヲ"),
  (0xA640, 2, "ꙁꙃꙅꙇꙉꙋꙍꙏꙑꙓꙕꙗꙙꙛꙝꙟꙡꙣꙥꙧꙩꙫꙭ"),
  (0xA680, 2, "ꚁꚃꚅꚇꚉꚋꚍꚏꚑꚓꚕꚗꚙꚛ"),
  (0xA69C, 1, "ъь"),
  (0xA722, 2, "ꜣꜥꜧꜩꜫꜭꜯ"),
  (0xA732, 2, "ꜳꜵꜷꜹꜻꜽꜿꝁꝃꝅꝇꝉꝋꝍꝏꝑꝓꝕꝗꝙꝛꝝꝟꝡꝣꝥꝧꝩꝫꝭꝯꝯ"),
  (0xA779, 2, "ꝺꝼ"),
  (0xA77D, 1, "ᵹꝿ"),
  (0xA780, 2, "ꞁꞃꞅꞇ"),
  (0xA78B, 2, "ꞌɥ"),
  (0xA790, 2, "ꞑꞓ"),
  (0xA796, 2, "ꞗꞙꞛꞝꞟꞡꞣꞥꞧꞩ"),
  (0xA7AA, 1, "ɦɜɡɬɪ"),
  (0xA7B0, 1, "ʞʇʝꭓꞵ"),
  (0xA7B6, 2, "ꞷꞹꞻꞽꞿꟁꟃ"),
  (0xA7C4, 1, "ꞔʂᶎꟈ"),
  (0xA7C9, 1, "ꟊ"),
  (0xA7CB, 1, "ɤꟍ"),
  (0xA7CE, 2, "꟏ꟑꟓꟕꟗꟙꟛƛ"),
  (0xA7F1, 1, "scfqꟶ"),
  (0xA7F8, 1, "ħœ"),
  (0xAB5C, 1, "ꜧꬷɫꭒ"),
  (0xAB69, 1, "ʍ"),
  (0xAB70, 1, "ᎠᎡᎢᎣᎤᎥᎦᎧᎨᎩᎪᎫᎬᎭᎮᎯᎰᎱᎲᎳᎴᎵᎶᎷᎸᎹᎺᎻᎼᎽᎾᎿᏀᏁᏂᏃᏄᏅᏆᏇᏈᏉᏊᏋᏌᏍᏎᏏᏐᏑᏒᏓᏔᏕᏖᏗᏘᏙᏚᏛᏜᏝᏞᏟᏠᏡᏢᏣᏤᏥ"),
  (0xABB6, 1, "ᏦᏧᏨᏩᏪᏫᏬᏭᏮᏯ"),
  (0xF900, 1, "豈更車賈滑串句龜龜契金喇奈懶癩羅蘿螺裸邏樂洛烙珞落酪駱亂卵欄爛蘭鸞嵐濫"),
  (0xF923, 1, "藍襤拉臘蠟廊朗浪狼郎來冷勞擄櫓爐盧老蘆虜路露魯鷺碌祿綠菉錄鹿論壟弄籠聾"),
  (0xF946, 1, "牢磊賂雷壘屢樓淚漏累縷陋勒肋凜凌稜綾菱陵讀拏樂諾丹寧怒率異北磻便復不泌"),
  (0xF969, 1, "數索參塞省葉說殺辰沈拾若掠略亮兩凉梁糧良諒量勵呂女廬旅濾礪閭驪麗黎力曆"),
  (0xF98C, 1, "歷轢年憐戀撚漣煉璉秊練聯輦蓮連鍊列劣咽烈裂說廉念捻殮簾獵令囹寧嶺怜玲瑩"),
  (0xF9AF, 1, "羚聆鈴零靈領例禮醴隸惡了僚寮尿料樂燎療蓼遼龍暈阮劉杻柳流溜琉留硫紐類六"),
  (0xF9D2, 1, "戮陸倫崙淪輪律慄栗率隆利吏履易李梨泥理痢罹裏裡里離匿溺吝燐璘藺隣鱗麟林"),
  (0xF9F5, 1, "淋臨立笠粒狀炙識什茶刺切度拓糖宅洞暴輻行降見廓兀嗀"),
  (0xFA10, 2, "塚晴"),
  (0xFA15, 1, "凞猪益礼神祥福靖精羽"),
  (0xFA20, 2, "蘒諸"),
  (0xFA25, 1, "逸都"),
  (0xFA2A, 1, "飯飼館鶴郞隷侮僧免勉勤卑喝嘆器塀墨層屮悔慨憎懲敏既暑梅海渚漢煮爫琢碑社"),
  (0xFA4D, 1, "祉祈祐祖祝禍禎穀突節練縉繁署者臭艹艹著褐視謁謹賓贈辶逸難響頻恵𤋮舘"),
  (0xFA70, 1, "並况全侀充冀勇勺喝啕喙嗢塚墳奄奔婢嬨廒廙彩徭惘慎愈憎慠懲戴揄搜摒敖晴朗"),
  (0xFA93, 1, "望杖歹殺流滛滋漢瀞煮瞧爵犯猪瑱甆画瘝瘟益盛直睊着磌窱節类絛練缾者荒華蝹"),
  (0xFAB6, 1, "襁覆視調諸請謁諾諭謹變贈輸遲醙鉶陼難靖韛響頋頻鬒龜𢡊𢡄𣏕㮝䀘䀹𥉉𥳐𧻓齃"),
  (0xFAD9, 1, "龎"),
  (0xFB20, 1, "\u05e2\u05d0\u05d3\u05d4\u05db\u05dc\u05dd\u05e8\u05ea+"),
  (0xFB50, 1, "\u0671\u0671\u067b\u067b\u067b\u067b\u067e\u067e\u067e\u067e\u0680"),
  (0xFB5B, 1, "\u0680\u0680\u0680\u067a\u067a\u067a\u067a\u067f\u067f\u067f\u067f"),
  (0xFB66, 1, "\u0679\u0679\u0679\u0679\u06a4\u06a4\u06a4\u06a4\u06a6\u06a6\u06a6"),
  (0xFB71, 1, "\u06a6\u0684\u0684\u0684\u0684\u0683\u0683\u0683\u0683\u0686\u0686"),
  (0xFB7C, 1, "\u0686\u0686\u0687\u0687\u0687\u0687\u068d\u068d\u068c\u068c\u068e"),
  (0xFB87, 1, "\u068e\u0688\u0688\u0698\u0698\u0691\u0691\u06a9\u06a9\u06a9\u06a9"),
  (0xFB92, 1, "\u06af\u06af\u06af\u06af\u06b3\u06b3\u06b3\u06b3\u06b1\u06b1\u06b1"),
  (0xFB9D, 1, "\u06b1\u06ba\u06ba\u06bb\u06bb\u06bb\u06bb\u06c0\u06c0\u06c1\u06c1"),
  (0xFBA8, 1, "\u06c1\u06c1\u06be\u06be\u06be\u06be\u06d2\u06d2\u06d3\u06d3"),
  (0xFBD3, 1, "\u06ad\u06ad\u06ad\u06ad\u06c7\u06c7\u06c6\u06c6\u06c8\u06c8"),
  (0xFBDE, 1, "\u06cb\u06cb\u06c5\u06c5\u06c9\u06c9\u06d0\u06d0\u06d0\u06d0\u0649"),
  (0xFBE9, 1, "\u0649"),
  (0xFBFC, 1, "\u06cc\u06cc\u06cc\u06cc"),
  (0xFE10, 1, ",、"),
  (0xFE14, 1, ";!"),
  (0xFE17, 1, "〖〗"),
  (0xFE31, 1, "—–__()\x7b\x7d〔〕【】《》〈〉「」『』"),
  (0xFE4D, 1, "___,、"),
  (0xFE54, 1, ";"),
  (0xFE57, 1, "!—()\x7b\x7d〔〕"),
  (0xFE60, 1, "&*+-<>="),
  (0xFE69, 1, "$"),
  (0xFE80, 1, "\u0621\u0622\u0622\u0623\u0623\u0624\u0624\u0625\u0625\u0626\u0626"),
  (0xFE8B, 1, "\u0626\u0626\u0627\u0627\u0628\u0628\u0628\u0628\u0629\u0629\u062a"),
  (0xFE96, 1, "\u062a\u062a\u062a\u062b\u062b\u062b\u062b\u062c\u062c\u062c\u062c"),
  (0xFEA1, 1, "\u062d\u062d\u062d\u062d\u062e\u062e\u062e\u062e\u062f\u062f\u0630"),
  (0xFEAC, 1, "\u0630\u0631\u0631\u0632\u0632\u0633\u0633\u0633\u0633\u0634\u0634"),
  (0xFEB7, 1, "\u0634\u0634\u0635\u0635\u0635\u0635\u0636\u0636\u0636\u0636\u0637"),
  (0xFEC2, 1, "\u0637\u0637\u0637\u0638\u0638\u0638\u0638\u0639\u0639\u0639\u0639"),
  (0xFECD, 1, "\u063a\u063a\u063a\u063a\u0641\u0641\u0641\u0641\u0642\u0642\u0642"),
  (0xFED8, 1, "\u0642\u0643\u0643\u0643\u0643\u0644\u0644\u0644\u0644\u0645\u0645"),
  (0xFEE3, 1, "\u0645\u0645\u0646\u0646\u0646\u0646\u0647\u0647\u0647\u0647\u0648"),
  (0xFEEE, 1, "\u0648\u0649\u0649\u064a\u064a\u064a\u064a"),
  (0xFF01, 1, "!\""),
  (0xFF04, 1, "$"),
  (0xFF06, 1, "&'()*+,-."),
  (0xFF10, 1, "0123456789"),
  (0xFF1B, 1, ";<=>"),
  (0xFF21, 1, "abcdefghijklmnopqrstuvwxyz"),
  (0xFF3F, 1, "_\x60abcdefghijklmnopqrstuvwxyz\x7b"),
  (0xFF5D, 1, "\x7d~⦅⦆.「」、・ヲァィゥェォャュョッーアイウエオカキクケコサシスセソタ"),
  (0xFF81, 1, "チツテトナニヌネノハヒフヘホマミムメモヤユヨラリルレロワン\u3099\u309a"),
  (0xFFA1, 1, "ᄀᄁᆪᄂᆬᆭᄃᄄᄅᆰᆱᆲᆳᆴᆵᄚᄆᄇᄈᄡᄉᄊᄋᄌᄍᄎᄏᄐᄑᄒ"),
  (0xFFC2, 1, "ᅡᅢᅣᅤᅥᅦ"),
  (0xFFCA, 1, "ᅧᅨᅩᅪᅫᅬ"),
  (0xFFD2, 1, "ᅭᅮᅯᅰᅱᅲ"),
  (0xFFDA, 1, "ᅳᅴᅵ"),
  (0xFFE0, 1, "¢£¬"),
  (0xFFE4, 1, "¦¥₩"),
  (0xFFE8, 1, "│←↑→↓■○"),
  (0x10400, 1, "𐐨𐐩𐐪𐐫𐐬𐐭𐐮𐐯𐐰𐐱𐐲𐐳𐐴𐐵𐐶𐐷𐐸𐐹𐐺𐐻𐐼𐐽𐐾𐐿𐑀𐑁𐑂𐑃𐑄𐑅𐑆𐑇𐑈𐑉𐑊𐑋𐑌𐑍𐑎𐑏"),
  (0x104B0, 1, "𐓘𐓙𐓚𐓛𐓜𐓝𐓞𐓟𐓠𐓡𐓢𐓣𐓤𐓥𐓦𐓧𐓨𐓩𐓪𐓫𐓬𐓭𐓮𐓯𐓰𐓱𐓲𐓳𐓴𐓵𐓶𐓷𐓸𐓹𐓺𐓻"),
  (0x10570, 1, "𐖗𐖘𐖙𐖚𐖛𐖜𐖝𐖞𐖟𐖠𐖡"),
  (0x1057C, 1, "𐖣𐖤𐖥𐖦𐖧𐖨𐖩𐖪𐖫𐖬𐖭𐖮𐖯𐖰𐖱"),
  (0x1058C, 1, "𐖳𐖴𐖵𐖶𐖷𐖸𐖹"),
  (0x10594, 1, "𐖻𐖼"),
  (0x10781, 1, "ːˑæʙɓ"),
  (0x10787, 1, "ʣꭦʥʤɖɗᶑɘɞʩɤɢɠʛħʜɧʄʪʫɬ𝼄ꞎɮ𝼅ʎ𝼆øɶɷqɺ𝼈ɽɾʀʨʦꭧʧʈⱱ"),
  (0x107B2, 1, "ʏʡʢʘǀǁǂ𝼊𝼞"),
  (0x10C80, 1, "𐳀𐳁𐳂𐳃𐳄𐳅𐳆𐳇𐳈𐳉𐳊𐳋𐳌𐳍𐳎𐳏𐳐𐳑𐳒𐳓𐳔𐳕𐳖𐳗𐳘𐳙𐳚𐳛𐳜𐳝𐳞𐳟𐳠𐳡𐳢𐳣𐳤𐳥𐳦𐳧𐳨𐳩𐳪𐳫𐳬𐳭𐳮𐳯𐳰𐳱𐳲"),
  (0x10D50, 1, "𐵰𐵱𐵲𐵳𐵴𐵵𐵶𐵷𐵸𐵹𐵺𐵻𐵼𐵽𐵾𐵿𐶀𐶁𐶂𐶃𐶄𐶅"),
  (0x118A0, 1, "𑣀𑣁𑣂𑣃𑣄𑣅𑣆𑣇𑣈𑣉𑣊𑣋𑣌𑣍𑣎𑣏𑣐𑣑𑣒𑣓𑣔𑣕𑣖𑣗𑣘𑣙𑣚𑣛𑣜𑣝𑣞𑣟"),
  (0x16E40, 1, "𖹠𖹡𖹢𖹣𖹤𖹥𖹦𖹧𖹨𖹩𖹪𖹫𖹬𖹭𖹮𖹯𖹰𖹱𖹲𖹳𖹴𖹵𖹶𖹷𖹸𖹹𖹺𖹻𖹼𖹽𖹾𖹿"),
  (0x16EA0, 1, "𖺻𖺼𖺽𖺾𖺿𖻀𖻁𖻂𖻃𖻄𖻅𖻆𖻇𖻈𖻉𖻊𖻋𖻌𖻍𖻎𖻏𖻐𖻑𖻒𖻓"),
  (0x1CCD6, 1, "abcdefghijklmnopqrstuvwxyz0123456789"),
  (0x1D400, 1, "abcdefghijklmnopqrstuvwxyzabcdefghijklmnopqrstuvwxyzabcdefghijklmnopqr"),
  (0x1D446, 1, "stuvwxyzabcdefg"),
  (0x1D456, 1, "ijklmnopqrstuvwxyzabcdefghijklmnopqrstuvwxyzabcdefghijklmnopqrstuvwxyz"),
  (0x1D49C, 1, "a"),
  (0x1D49E, 1, "cd"),
  (0x1D4A2, 1, "g"),
  (0x1D4A5, 1, "jk"),
  (0x1D4A9, 1, "nopq"),
  (0x1D4AE, 1, "stuvwxyzabcd"),
  (0x1D4BB, 1, "f"),
  (0x1D4BD, 1, "hijklmn"),
  (0x1D4C5, 1, "pqrstuvwxyzabcdefghijklmnopqrstuvwxyzabcdefghijklmnopqrstuvwxyzab"),
  (0x1D507, 1, "defg"),
  (0x1D50D, 1, "jklmnopq"),
  (0x1D516, 1, "stuvwxy"),
  (0x1D51E, 1, "abcdefghijklmnopqrstuvwxyzab"),
  (0x1D53B, 1, "defg"),
  (0x1D540, 1, "ijklm"),
  (0x1D546, 1, "o"),
  (0x1D54A, 1, "stuvwxy"),
  (0x1D552, 1, "abcdefghijklmnopqrstuvwxyzabcdefghijklmnopqrstuvwxyzabcdefghijklmnopqr"),
  (0x1D598, 1, "stuvwxyzabcdefghijklmnopqrstuvwxyzabcdefghijklmnopqrstuvwxyzabcdefghij"),
  (0x1D5DE, 1, "klmnopqrstuvwxyzabcdefghijklmnopqrstuvwxyzabcdefghijklmnopqrstuvwxyzab"),
  (0x1D624, 1, "cdefghijklmnopqrstuvwxyzabcdefghijklmnopqrstuvwxyzabcdefghijklmnopqrst"),
  (0x1D66A, 1, "uvwxyzabcdefghijklmnopqrstuvwxyzabcdefghijklmnopqrstuvwxyzıȷ"),
  (0x1D6A8, 1, "αβγδεζηθικλμνξοπρθστυφχψω∇αβγδεζηθικλμνξοπρσστυφχψω∂εθκφρπαβγδεζηθικλμ"),
  (0x1D6EE, 1, "νξοπρθστυφχψω∇αβγδεζηθικλμνξοπρσστυφχψω∂εθκφρπαβγδεζηθικλμνξοπρθστυφχψ"),
  (0x1D734, 1, "ω∇αβγδεζηθικλμνξοπρσστυφχψω∂εθκφρπαβγδεζηθικλμνξοπρθστυφχψω∇αβγδεζηθικ"),
  (0x1D77A, 1, "λμνξοπρσστυφχψω∂εθκφρπαβγδεζηθικλμνξοπρθστυφχψω∇αβγδεζηθικλμνξοπρσστυφ"),
  (0x1D7C0, 1, "χψω∂εθκφρπϝϝ"),
  (0x1D7CE, 1, "01234567890123456789012345678901234567890123456789"),
  (0x1E030, 1, "абвгдежзиклмопрстуфхцчшыэюꚉәіјөүӏабвгдежзиклопсуфхцчшъыґіѕџҫꙑұ"),
  (0x1E900, 1, "𞤢𞤣𞤤𞤥𞤦𞤧𞤨𞤩𞤪𞤫𞤬𞤭𞤮𞤯𞤰𞤱𞤲𞤳𞤴𞤵𞤶𞤷𞤸𞤹𞤺𞤻𞤼𞤽𞤾𞤿𞥀𞥁𞥂𞥃"),
  (0x1EE00, 1, "\u0627\u0628\u062c\u062f"),
  (0x1EE05, 1, "\u0648\u0632\u062d\u0637\u064a\u0643\u0644\u0645\u0646\u0633\u0639"),
  (0x1EE10, 1, "\u0641\u0635\u0642\u0631\u0634\u062a\u062b\u062e\u0630\u0636\u0638"),
  (0x1EE1B, 1, "\u063a\u066e\u06ba\u06a1\u066f"),
  (0x1EE21, 1, "\u0628\u062c"),
  (0x1EE24, 1, "\u0647"),
  (0x1EE27, 1, "\u062d"),
  (0x1EE29, 1, "\u064a\u0643\u0644\u0645\u0646\u0633\u0639\u0641\u0635\u0642"),
  (0x1EE34, 1, "\u0634\u062a\u062b\u062e"),
  (0x1EE39, 2, "\u0636\u063a"),
  (0x1EE42, 1, "\u062c"),
  (0x1EE47, 2, "\u062d\u064a\u0644"),
  (0x1EE4D, 1, "\u0646\u0633\u0639"),
  (0x1EE51, 1, "\u0635\u0642"),
  (0x1EE54, 1, "\u0634"),
  (0x1EE57, 2, "\u062e\u0636\u063a\u06ba\u066f"),
  (0x1EE61, 1, "\u0628\u062c"),
  (0x1EE64, 1, "\u0647"),
  (0x1EE67, 1, "\u062d\u0637\u064a\u0643"),
  (0x1EE6C, 1, "\u0645\u0646\u0633\u0639\u0641\u0635\u0642"),
  (0x1EE74, 1, "\u0634\u062a\u062b\u062e"),
  (0x1EE79, 1, "\u0636\u0638\u063a\u066e"),
  (0x1EE7E, 1, "\u06a1"),
  (0x1EE80, 1, "\u0627\u0628\u062c\u062f\u0647\u0648\u0632\u062d\u0637\u064a"),
  (0x1EE8B, 1, "\u0644\u0645\u0646\u0633\u0639\u0641\u0635\u0642\u0631\u0634\u062a"),
  (0x1EE96, 1, "\u062b\u062e\u0630\u0636\u0638\u063a"),
  (0x1EEA1, 1, "\u0628\u062c\u062f"),
  (0x1EEA5, 1, "\u0648\u0632\u062d\u0637\u064a"),
  (0x1EEAB, 1, "\u0644\u0645\u0646\u0633\u0639\u0641\u0635\u0642\u0631\u0634\u062a"),
  (0x1EEB6, 1, "\u062b\u062e\u0630\u0636\u0638\u063a"),
  (0x1F12B, 1, "cr"),
  (0x1F130, 1, "abcdefghijklmnopqrstuvwxyz"),
  (0x1F202, 1, "サ"),
  (0x1F210, 1, "手字双デ二多解天交映無料前後再新初終生販声吹演投捕一三遊左中右指走打禁"),
  (0x1F233, 1, "空合満有月申割営配"),
  (0x1F250, 1, "得可"),
  (0x1FBF0, 1, "0123456789"),
  (0x2F800, 1, "丽丸乁𠄢你侮侻倂偺備僧像㒞𠘺免兔兤具𠔜㒹內再𠕋冗冤仌冬况𩇟凵刃㓟刻剆割"),
  (0x2F823, 1, "剷㔕勇勉勤勺包匆北卉卑博即卽卿卿卿𠨬灰及叟𠭣叫叱吆咞吸呈周咢哶唐啓啣善"),
  (0x2F846, 1, "善喙喫喳嗂圖嘆圗噑噴切壮城埴堍型堲報墬𡓤売壷夆多夢奢𡚨𡛪姬娛娧姘婦㛮㛼"),
  (0x2F869, 1, "嬈嬾嬾𡧈寃寘寧寳𡬘寿将当尢㞁屠屮峀岍𡷤嵃𡷦嵮嵫嵼巡巢㠯巽帨帽幩㡢𢆃㡼庰"),
  (0x2F88C, 1, "庳庶廊𪎒廾𢌱𢌱舁弢弢㣇𣊸𦇚形彫㣣徚忍志忹悁㤺㤜悔𢛔惇慈慌慎慌慺憎憲憤憯"),
  (0x2F8AF, 1, "懞懲懶成戛扝抱拔捐𢬌挽拼捨掃揤𢯱搢揅掩㨮摩摾撝摷㩬敏敬𣀊旣書晉㬙暑㬈㫤"),
  (0x2F8D2, 1, "冒冕最暜肭䏙朗望朡杞杓𣏃㭉柺枅桒梅𣑭梎栟椔㮝楂榣槪檨𣚣櫛㰘次𣢧歔㱎歲殟"),
  (0x2F8F5, 1, "殺殻𣪍𡴋𣫺汎𣲼沿泍汧洖派海流浩浸涅𣴞洴港湮㴳滋滇𣻑淹潮𣽞𣾎濆瀹瀞瀛㶖灊"),
  (0x2F918, 1, "災灷炭𠔥煅𤉣熜𤎫爨爵牐𤘈犀犕𤜵𤠔獺王㺬玥㺸㺸瑇瑜瑱璅瓊㼛甤𤰶甾𤲒異𢆟瘐"),
  (0x2F93B, 1, "𤾡𤾸𥁄㿼䀈直𥃳𥃲𥄙𥄳眞真真睊䀹瞋䁆䂖𥐝硎碌磌䃣𥘦祖𥚚𥛅福秫䄯穀穊穏𥥼𥪧"),
  (0x2F95E, 1, "𥪧竮䈂𥮫篆築䈧𥲀糒䊠糨糣紀𥾆絣䌁緇縂繅䌴𦈨𦉇䍙𦋙罺𦌾羕翺者𦓚𦔣聠𦖨聰𣍟"),
  (0x2F981, 1, "䏕育脃䐋脾媵𦞧𦞵𣎓𣎜舁舄辞䑫芑芋芝劳花芳芽苦𦬼若茝荣莭茣莽菧著荓菊菌菜"),
  (0x2F9A4, 1, "𦰶𦵫𦳕䔫蓱蓳蔖𧏊蕤𦼬䕝䕡𦾱𧃒䕫虐虜虧虩蚩蚈蜎蛢蝹蜨蝫螆䗗蟡蠁䗹衠衣𧙧裗"),
  (0x2F9C7, 1, "裞䘵裺㒻𧢮𧥦䚾䛇誠諭變豕𧲨貫賁贛起𧼯𠠄跋趼跰𠣞軔輸𨗒𨗭邔郱鄑𨜮鄛鈸鋗鋘"),
  (0x2F9EA, 1, "鉼鏹鐕𨯺開䦕閷𨵷䧦雃嶲霣𩅅𩈚䩮䩶韠𩐊䪲𩒖頋頋頩𩖶飢䬳餩馧駂駾䯎𩬰鬒鱀鳽"),
  (0x2FA0D, 1, "䳎䳭鵧𪃎䳸𪄅𪈎𪊑麻䵖黹黾鼅鼏鼖鼻𪘀")]

end Conformance.Text
