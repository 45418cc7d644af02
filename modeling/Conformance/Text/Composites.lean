/-!
# Composites

Some characters stand for a letter and a mark. `composite?` puts the two together and `parts?` takes
the character apart. A Korean syllable is composed of its two or three letters by a rule instead of
a table.
-/

namespace Conformance.Text

/-- Marks, each with letters that take it, and behind each letter the composite. -/
def compositeRows : List (Nat × String) := [
  (0x300, "AÀEÈIÌNǸOÒUÙWẀYỲaàeèiìnǹoòuùwẁyỳ¨῭ÂẦÊỀÔỒÜǛâầêềôồüǜĂẰăằĒḔēḕŌṐōṑƠỜơờƯỪưừΑᾺΕῈΗῊ"),
  (0x300, "ΙῚΟῸΥῪΩῺαὰεὲηὴιὶοὸυὺωὼϊῒϋῢЕЀИЍеѐиѝἀἂἁἃἈἊἉἋἐἒἑἓἘἚἙἛἠἢἡἣἨἪἩἫἰἲἱἳἸἺἹἻὀὂὁὃὈὊὉὋὐὒ"),
  (0x300, "ὑὓὙὛὠὢὡὣὨὪὩὫ᾿῍῾῝"),
  (0x301, "AÁCĆEÉGǴIÍKḰLĹMḾNŃOÓPṔRŔSŚUÚWẂYÝZŹaácćeégǵiíkḱlĺmḿnńoópṕrŕsśuúwẃyýzź¨΅ÂẤÅǺÆǼ"),
  (0x301, "ÇḈÊẾÏḮÔỐÕṌØǾÜǗâấåǻæǽçḉêếïḯôốõṍøǿüǘĂẮăắĒḖēḗŌṒōṓŨṸũṹƠỚơớƯỨưứΑΆΕΈΗΉΙΊΟΌΥΎΩΏαάεέ"),
  (0x301, "ηήιίοόυύωώϊΐϋΰϒϓГЃКЌгѓкќἀἄἁἅἈἌἉἍἐἔἑἕἘἜἙἝἠἤἡἥἨἬἩἭἰἴἱἵἸἼἹἽὀὄὁὅὈὌὉὍὐὔὑὕὙὝὠὤὡὥὨὬ"),
  (0x301, "ὩὭ᾿῎῾῞"),
  (0x302, "AÂCĈEÊGĜHĤIÎJĴOÔSŜUÛWŴYŶZẐaâcĉeêgĝhĥiîjĵoôsŝuûwŵyŷzẑẠẬạậẸỆẹệỌỘọộ"),
  (0x303, "AÃEẼIĨNÑOÕUŨVṼYỸaãeẽiĩnñoõuũvṽyỹÂẪÊỄÔỖâẫêễôỗĂẴăẵƠỠơỡƯỮưữ"),
  (0x304, "AĀEĒGḠIĪOŌUŪYȲaāeēgḡiīoōuūyȳÄǞÆǢÕȬÖȪÜǕäǟæǣõȭöȫüǖǪǬǫǭȦǠȧǡȮȰȯȱΑᾹΙῙΥῩαᾱιῑυῡИӢУӮ"),
  (0x304, "иӣуӯḶḸḷḹṚṜṛṝ"),
  (0x306, "AĂEĔGĞIĬOŎUŬaăeĕgğiĭoŏuŭȨḜȩḝΑᾸΙῘΥῨαᾰιῐυῠАӐЕӖЖӁИЙУЎаӑеӗжӂийуўẠẶạặ"),
  (0x307, "AȦBḂCĊDḊEĖFḞGĠHḢIİMṀNṄOȮPṖRṘSṠTṪWẆXẊYẎZŻaȧbḃcċdḋeėfḟgġhḣmṁnṅoȯpṗrṙsṡtṫwẇxẋyẏ"),
  (0x307, "zżŚṤśṥŠṦšṧſẛṢṨṣṩ𐗒𐗉𐗚𐗤"),
  (0x308, "AÄEËHḦIÏOÖUÜWẄXẌYŸaäeëhḧiïoötẗuüwẅxẍyÿÕṎõṏŪṺūṻΙΪΥΫιϊυϋϒϔІЇАӒЕЁЖӜЗӞИӤОӦУӰЧӴЫӸ"),
  (0x308, "ЭӬаӓеёжӝзӟиӥоӧуӱчӵыӹэӭіїӘӚәӛӨӪөӫ"),
  (0x309, "AẢEẺIỈOỎUỦYỶaảeẻiỉoỏuủyỷÂẨÊỂÔỔâẩêểôổĂẲăẳƠỞơởƯỬưử"),
  (0x30A, "AÅUŮaåuůwẘyẙ"),
  (0x30B, "OŐUŰoőuűУӲуӳ"),
  (0x30C, "AǍCČDĎEĚGǦHȞIǏKǨLĽNŇOǑRŘSŠTŤUǓZŽaǎcčdďeěgǧhȟiǐjǰkǩlľnňoǒrřsštťuǔzžÜǙüǚƷǮʒǯ"),
  (0x30F, "AȀEȄIȈOȌRȐUȔaȁeȅiȉoȍrȑuȕѴѶѵѷ"),
  (0x311, "AȂEȆIȊOȎRȒUȖaȃeȇiȋoȏrȓuȗ"),
  (0x313, "ΑἈΕἘΗἨΙἸΟὈΩὨαἀεἐηἠιἰοὀρῤυὐωὠ"),
  (0x314, "ΑἉΕἙΗἩΙἹΟὉΡῬΥὙΩὩαἁεἑηἡιἱοὁρῥυὑωὡ"),
  (0x31B, "OƠUƯoơuư"),
  (0x323, "AẠBḄDḌEẸHḤIỊKḲLḶMṂNṆOỌRṚSṢTṬUỤVṾWẈYỴZẒaạbḅdḍeẹhḥiịkḳlḷmṃnṇoọrṛsṣtṭuụvṿwẉyỵzẓ"),
  (0x323, "ƠỢơợƯỰưự"),
  (0x324, "UṲuṳ"),
  (0x325, "AḀaḁ"),
  (0x326, "SȘTȚsștț"),
  (0x327, "CÇDḐEȨGĢHḨKĶLĻNŅRŖSŞTŢcçdḑeȩgģhḩkķlļnņrŗsştţ"),
  (0x328, "AĄEĘIĮOǪUŲaąeęiįoǫuų"),
  (0x32D, "DḒEḘLḼNṊTṰUṶdḓeḙlḽnṋtṱuṷ"),
  (0x32E, "HḪhḫ"),
  (0x330, "EḚIḬUṴeḛiḭuṵ"),
  (0x331, "BḆDḎKḴLḺNṈRṞTṮZẔbḇdḏhẖkḵlḻnṉrṟtṯzẕ"),
  (0x338, "<≮=≠>≯←↚→↛↔↮⇐⇍⇒⇏⇔⇎∃∄∈∉∋∌∣∤∥∦∼≁≃≄≅≇≈≉≍≭≡≢≤≰≥≱≲≴≳≵≶≸≷≹≺⊀≻⊁≼⋠≽⋡⊂⊄⊃⊅⊆⊈⊇⊉⊑⋢⊒⋣⊢⊬⊨⊭"),
  (0x338, "⊩⊮⊫⊯⊲⋪⊳⋫⊴⋬⊵⋭"),
  (0x342, "¨῁αᾶηῆιῖυῦωῶϊῗϋῧἀἆἁἇἈἎἉἏἠἦἡἧἨἮἩἯἰἶἱἷἸἾἹἿὐὖὑὗὙὟὠὦὡὧὨὮὩὯ᾿῏῾῟"),
  (0x345, "ΑᾼΗῌΩῼάᾴήῄαᾳηῃωῳώῴἀᾀἁᾁἂᾂἃᾃἄᾄἅᾅἆᾆἇᾇἈᾈἉᾉἊᾊἋᾋἌᾌἍᾍἎᾎἏᾏἠᾐἡᾑἢᾒἣᾓἤᾔἥᾕἦᾖἧᾗἨᾘἩᾙἪᾚἫᾛἬᾜ"),
  (0x345, "ἭᾝἮᾞἯᾟὠᾠὡᾡὢᾢὣᾣὤᾤὥᾥὦᾦὧᾧὨᾨὩᾩὪᾪὫᾫὬᾬὭᾭὮᾮὯᾯὰᾲὴῂὼῲᾶᾷῆῇῶῷ"),
  (0x653, "\u0627\u0622"),
  (0x654, "\u0627\u0623\u0648\u0624\u064a\u0626\u06c1\u06c2\u06d2\u06d3\u06d5\u06c0"),
  (0x655, "\u0627\u0625"),
  (0x93C, "नऩरऱळऴ"),
  (0x9BE, "\u09c7\u09cb"),
  (0x9D7, "\u09c7\u09cc"),
  (0xB3E, "\u0b47\u0b4b"),
  (0xB56, "\u0b47\u0b48"),
  (0xB57, "\u0b47\u0b4c"),
  (0xBBE, "\u0bc6\u0bca\u0bc7\u0bcb"),
  (0xBD7, "ஒஔ\u0bc6\u0bcc"),
  (0xC56, "\u0c46\u0c48"),
  (0xCC2, "\u0cc6\u0cca"),
  (0xCD5, "\u0cbf\u0cc0\u0cc6\u0cc7\u0cca\u0ccb"),
  (0xCD6, "\u0cc6\u0cc8"),
  (0xD3E, "\u0d46\u0d4a\u0d47\u0d4b"),
  (0xD57, "\u0d46\u0d4c"),
  (0xDCA, "\u0dd9\u0dda\u0ddc\u0ddd"),
  (0xDCF, "\u0dd9\u0ddc"),
  (0xDDF, "\u0dd9\u0dde"),
  (0x102E, "ဥဦ"),
  (0x1B35, "ᬅᬆᬇᬈᬉᬊᬋᬌᬍᬎᬑᬒ\u1b3a\u1b3b\u1b3c\u1b3d\u1b3e\u1b40\u1b3f\u1b41\u1b42\u1b43"),
  (0x3099, "うゔかがきぎくぐけげこごさざしじすずせぜそぞただちぢつづてでとどはばひびふぶ"),
  (0x3099, "へべほぼゝゞウヴカガキギクグケゲコゴサザシジスズセゼソゾタダチヂツヅテデトド"),
  (0x3099, "ハバヒビフブヘベホボワヷヰヸヱヹヲヺヽヾ"),
  (0x309A, "はぱひぴふぷへぺほぽハパヒピフプヘペホポ"),
  (0x110BA, "𑂙𑂚𑂛𑂜𑂥𑂫"),
  (0x11127, "𑄱𑄮𑄲𑄯"),
  (0x1133E, "𑍇𑍋"),
  (0x11357, "𑍇𑍌"),
  (0x113B8, "𑏅𑎸"),
  (0x113BB, "𑎄𑎅"),
  (0x113C2, "𑎋𑎎𑏅𑏂"),
  (0x113C9, "𑎂𑎃𑎐𑎑𑏅𑏉"),
  (0x114B0, "𑒹𑒼"),
  (0x114BA, "𑒹𑒻"),
  (0x114BD, "𑒹𑒾"),
  (0x115AF, "𑖸𑖺𑖹𑖻"),
  (0x11930, "𑤵𑤸"),
  (0x1611E, "𖄡𖄞"),
  (0x1611F, "𖄦𖄡𖄦𖄢𖄧𖄩𖄤"),
  (0x16120, "𖄨𖄡𖄨"),
  (0x16129, "𖄡𖄩"),
  (0x16D67, "𖵣𖵪𖵨𖵩𖵪")]

/-- The pairs of a letter and its composite in a row. -/
def compositePairs : List Char → List (Char × Char)
  | letter :: composite :: rest => (letter, composite) :: compositePairs rest
  | _ => []

/-- The first of the Korean syllables. -/
def syllableBase : Nat := 0xAC00

/-- The syllable of two Korean letters, or of a syllable that is open and a final letter. -/
def syllable? (a b : Nat) : Option Nat :=
  if 0x1100 ≤ a && a < 0x1113 && 0x1161 ≤ b && b < 0x1176 then
    some (syllableBase + ((a - 0x1100) * 21 + (b - 0x1161)) * 28)
  else if syllableBase ≤ a && a < 0xD7A4 && (a - syllableBase) % 28 = 0
      && 0x11A8 ≤ b && b < 0x11C3 then
    some (a + (b - 0x11A7))
  else none

/-- The character that stands for two others. -/
def composite? (a b : Char) : Option Char :=
  match syllable? a.toNat b.toNat with
  | some n => some (Char.ofNat n)
  | none =>
    compositeRows.findSome? fun (mark, pairs) =>
      if mark = b.toNat then
        ((compositePairs pairs.toList).find? fun (letter, _) => letter = a).map (·.2)
      else none

/-- The two characters that a character stands for. -/
def parts? (c : Char) : Option (Char × Char) :=
  let n := c.toNat
  if n < 0xC0 then none
  else if syllableBase ≤ n && n < 0xD7A4 then
    let i := n - syllableBase
    if i % 28 = 0 then some (Char.ofNat (0x1100 + i / 588), Char.ofNat (0x1161 + i / 28 % 21))
    else some (Char.ofNat (n - i % 28), Char.ofNat (0x11A7 + i % 28))
  else
    compositeRows.findSome? fun (mark, pairs) =>
      ((compositePairs pairs.toList).find? fun (_, composite) => composite = c).map fun pair =>
        (pair.1, Char.ofNat mark)

example : composite? '\u1112' '\u1161' = some '하' := by decide
example : parts? '한' = some ('하', '\u11AB') := by decide

end Conformance.Text
