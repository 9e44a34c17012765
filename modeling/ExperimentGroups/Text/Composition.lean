import ExperimentGroups.Text.Turns

/-!
# Composed text

Many letters with marks can be written in two ways: as one character, or as a letter and its marks.
The composed form of a text has one character wherever there is one. It is found by taking all
characters apart, putting the marks of each letter into the order of their classes, and putting
together what a mark, or a following letter, makes with the letter before it, unless a mark of the
same or a higher class stands between the two. Syllables of Hangul are taken apart and put together
by arithmetic. The tables are those of version 14 of the character standard.

## Main definitions

* `Text.combiningClass`: the class of a mark, zero for all else
* `Text.compose?`, `Text.decompose`: what two characters make, and what a character is made of
* `Text.composed`: the composed form
* `Text.isComposed`: whether a text is its composed form
-/

namespace ExperimentGroups

namespace Text

/-! ## Classes of marks -/

/-- The classes of marks, each with its turns. -/
def combiningClasses : List (Nat × List Nat) :=
  [(1, [820, 825, 7380, 7381, 7394, 7401, 8402, 8404, 8408, 8411, 8421, 8423, 8426, 8428, 68153,
      68154, 92912, 92917, 113822, 113823, 119143, 119146]),
    (6, [94192, 94194]),
    (7, [2364, 2365, 2492, 2493, 2620, 2621, 2748, 2749, 2876, 2877, 3132, 3133, 3260, 3261, 4151,
      4152, 6964, 6965, 7142, 7143, 7223, 7224, 43443, 43444, 69818, 69819, 70003, 70004, 70090,
      70091, 70198, 70199, 70377, 70378, 70459, 70461, 70726, 70727, 70851, 70852, 71104, 71105,
      71351, 71352, 71738, 71739, 72003, 72004, 73026, 73027, 125258, 125259]),
    (8, [12441, 12443]),
    (9, [2381, 2382, 2509, 2510, 2637, 2638, 2765, 2766, 2893, 2894, 3021, 3022, 3149, 3150, 3277,
      3278, 3387, 3389, 3405, 3406, 3530, 3531, 3642, 3643, 3770, 3771, 3972, 3973, 4153, 4155,
      5908, 5910, 5940, 5941, 6098, 6099, 6752, 6753, 6980, 6981, 7082, 7084, 7154, 7156, 11647,
      11648, 43014, 43015, 43052, 43053, 43204, 43205, 43347, 43348, 43456, 43457, 43766, 43767,
      44013, 44014, 68159, 68160, 69702, 69703, 69744, 69745, 69759, 69760, 69817, 69818, 69939,
      69941, 70080, 70081, 70197, 70198, 70378, 70379, 70477, 70478, 70722, 70723, 70850, 70851,
      71103, 71104, 71231, 71232, 71350, 71351, 71467, 71468, 71737, 71738, 71997, 71999, 72160,
      72161, 72244, 72245, 72263, 72264, 72345, 72346, 72767, 72768, 73028, 73030, 73111, 73112]),
    (10, [1456, 1457]),
    (11, [1457, 1458]),
    (12, [1458, 1459]),
    (13, [1459, 1460]),
    (14, [1460, 1461]),
    (15, [1461, 1462]),
    (16, [1462, 1463]),
    (17, [1463, 1464]),
    (18, [1464, 1465, 1479, 1480]),
    (19, [1465, 1467]),
    (20, [1467, 1468]),
    (21, [1468, 1469]),
    (22, [1469, 1470]),
    (23, [1471, 1472]),
    (24, [1473, 1474]),
    (25, [1474, 1475]),
    (26, [64286, 64287]),
    (27, [1611, 1612, 2288, 2289]),
    (28, [1612, 1613, 2289, 2290]),
    (29, [1613, 1614, 2290, 2291]),
    (30, [1560, 1561, 1614, 1615]),
    (31, [1561, 1562, 1615, 1616]),
    (32, [1562, 1563, 1616, 1617]),
    (33, [1617, 1618]),
    (34, [1618, 1619]),
    (35, [1648, 1649]),
    (36, [1809, 1810]),
    (84, [3157, 3158]),
    (91, [3158, 3159]),
    (103, [3640, 3642]),
    (107, [3656, 3660]),
    (118, [3768, 3770]),
    (122, [3784, 3788]),
    (129, [3953, 3954]),
    (130, [3954, 3955, 3962, 3966, 3968, 3969]),
    (132, [3956, 3957]),
    (202, [801, 803, 807, 809, 7632, 7633]),
    (214, [7630, 7631]),
    (216, [795, 796, 3897, 3898, 119141, 119143, 119150, 119155]),
    (218, [7674, 7675, 12330, 12331]),
    (220, [790, 794, 796, 801, 803, 807, 809, 820, 825, 829, 839, 842, 845, 847, 851, 855, 857, 859,
      1425, 1426, 1430, 1431, 1435, 1436, 1442, 1448, 1450, 1451, 1477, 1478, 1621, 1623, 1628,
      1629, 1631, 1632, 1763, 1764, 1770, 1771, 1773, 1774, 1841, 1842, 1844, 1845, 1847, 1850,
      1851, 1853, 1854, 1855, 1858, 1859, 1860, 1861, 1862, 1863, 1864, 1865, 2034, 2035, 2045,
      2046, 2137, 2140, 2201, 2204, 2255, 2260, 2275, 2276, 2278, 2279, 2281, 2282, 2285, 2288,
      2294, 2295, 2297, 2299, 2386, 2387, 3864, 3866, 3893, 3894, 3895, 3896, 4038, 4039, 4237,
      4238, 6459, 6460, 6680, 6681, 6783, 6784, 6837, 6843, 6845, 6846, 6847, 6849, 6851, 6853,
      6858, 6859, 7020, 7021, 7381, 7386, 7388, 7392, 7405, 7406, 7618, 7619, 7626, 7627, 7631,
      7632, 7673, 7674, 7677, 7678, 7679, 7680, 8424, 8425, 8428, 8432, 43307, 43310, 43700, 43701,
      65063, 65070, 66045, 66046, 66272, 66273, 68109, 68110, 68154, 68155, 68326, 68327, 69446,
      69448, 69451, 69452, 69453, 69457, 69507, 69508, 69509, 69510, 119163, 119171, 119178, 119180,
      125136, 125143]),
    (222, [1434, 1435, 1453, 1454, 6457, 6458, 12333, 12334]),
    (224, [12334, 12336]),
    (226, [119149, 119150]),
    (228, [1454, 1455, 6313, 6314, 7671, 7673, 12331, 12332]),
    (230, [768, 789, 829, 837, 838, 839, 842, 845, 848, 851, 855, 856, 859, 860, 867, 880, 1155,
      1160, 1426, 1430, 1431, 1434, 1436, 1442, 1448, 1450, 1451, 1453, 1455, 1456, 1476, 1477,
      1552, 1560, 1619, 1621, 1623, 1628, 1629, 1631, 1750, 1757, 1759, 1763, 1764, 1765, 1767,
      1769, 1771, 1773, 1840, 1841, 1842, 1844, 1845, 1847, 1850, 1851, 1853, 1854, 1855, 1858,
      1859, 1860, 1861, 1862, 1863, 1864, 1865, 1867, 2027, 2034, 2035, 2036, 2070, 2074, 2075,
      2084, 2085, 2088, 2089, 2094, 2200, 2201, 2204, 2208, 2250, 2255, 2260, 2274, 2276, 2278,
      2279, 2281, 2282, 2285, 2291, 2294, 2295, 2297, 2299, 2304, 2385, 2386, 2387, 2389, 2558,
      2559, 3970, 3972, 3974, 3976, 4957, 4960, 6109, 6110, 6458, 6459, 6679, 6680, 6773, 6781,
      6832, 6837, 6843, 6845, 6849, 6851, 6853, 6858, 6859, 6863, 7019, 7020, 7021, 7028, 7376,
      7379, 7386, 7388, 7392, 7393, 7412, 7413, 7416, 7418, 7616, 7618, 7619, 7626, 7627, 7629,
      7633, 7670, 7675, 7676, 7678, 7679, 8400, 8402, 8404, 8408, 8411, 8413, 8417, 8418, 8423,
      8424, 8425, 8426, 8432, 8433, 11503, 11506, 11744, 11776, 42607, 42608, 42612, 42622, 42654,
      42656, 42736, 42738, 43232, 43250, 43696, 43697, 43698, 43700, 43703, 43705, 43710, 43712,
      43713, 43714, 65056, 65063, 65070, 65072, 66422, 66427, 68111, 68112, 68152, 68153, 68325,
      68326, 68900, 68904, 69291, 69293, 69448, 69451, 69452, 69453, 69506, 69507, 69508, 69509,
      69888, 69891, 70502, 70509, 70512, 70517, 70750, 70751, 92976, 92983, 119173, 119178, 119210,
      119214, 119362, 119365, 122880, 122887, 122888, 122905, 122907, 122914, 122915, 122917,
      122918, 122923, 123184, 123191, 123566, 123567, 123628, 123632, 125252, 125258]),
    (232, [789, 790, 794, 795, 856, 857, 7670, 7671, 12332, 12333]),
    (233, [860, 861, 863, 864, 866, 867, 7676, 7677]),
    (234, [861, 863, 864, 866, 7629, 7630]),
    (240, [837, 838])]

/-- **The class of a mark**; what is no mark, or takes a place of its own, has class zero. -/
def combiningClass (c : Char) : Nat :=
  ((combiningClasses.find? fun k => isBetweenTurns k.2 c.toNat).map (·.1)).getD 0

/-! ## Pairs -/

/-- The second characters of pairs, each with its first characters and what the pairs make. -/
def compositions : List (Char × String) :=
  [('\u0300', 
      "AÀEÈIÌOÒUÙaàeèiìoòuùÜǛüǜNǸnǹЕЀИЍеѐиѝĒḔēḕŌṐōṑWẀwẁÂẦâầĂẰăằÊỀêềÔỒôồƠỜơờƯỪưừ" ++
      "YỲyỳἀἂἁἃἈἊἉἋἐἒἑἓἘἚἙἛἠἢἡἣἨἪἩἫἰἲἱἳἸἺἹἻὀὂὁὃὈὊὉὋὐὒὑὓὙὛὠὢὡὣὨὪὩὫαὰεὲηὴιὶοὸυὺωὼ" ++
      "ΑᾺΕῈΗῊ᾿῍ϊῒΙῚ῾῝ϋῢΥῪ¨῭ΟῸΩῺ"),
    ('\u0301', 
      "AÁEÉIÍOÓUÚYÝaáeéiíoóuúyýCĆcćLĹlĺNŃnńRŔrŕSŚsśZŹzźÜǗüǘGǴgǵÅǺåǻÆǼæǽØǾøǿ¨΅ΑΆ" ++
      "ΕΈΗΉΙΊΟΌΥΎΩΏϊΐαάεέηήιίϋΰοόυύωώϒϓГЃКЌгѓкќÇḈçḉĒḖēḗÏḮïḯKḰkḱMḾmḿÕṌõṍŌṒōṓPṔpṕ" ++
      "ŨṸũṹWẂwẃÂẤâấĂẮăắÊẾêếÔỐôốƠỚơớƯỨưứἀἄἁἅἈἌἉἍἐἔἑἕἘἜἙἝἠἤἡἥἨἬἩἭἰἴἱἵἸἼἹἽὀὄὁὅὈὌὉὍ" ++
      "ὐὔὑὕὙὝὠὤὡὥὨὬὩὭ᾿῎῾῞"),
    ('\u0302', "AÂEÊIÎOÔUÛaâeêiîoôuûCĈcĉGĜgĝHĤhĥJĴjĵSŜsŝWŴwŵYŶyŷZẐzẑẠẬạậẸỆẹệỌỘọộ"),
    ('\u0303', "AÃNÑOÕaãnñoõIĨiĩUŨuũVṼvṽÂẪâẫĂẴăẵEẼeẽÊỄêễÔỖôỗƠỠơỡƯỮưữYỸyỹ"),
    ('\u0304', 
      "AĀaāEĒeēIĪiīOŌoōUŪuūÜǕüǖÄǞäǟȦǠȧǡÆǢæǣǪǬǫǭÖȪöȫÕȬõȭȮȰȯȱYȲyȳИӢиӣУӮуӯGḠgḡḶḸḷḹ" ++
      "ṚṜṛṝαᾱΑᾹιῑΙῙυῡΥῩ"),
    ('\u0306', "AĂaăEĔeĕGĞgğIĬiĭOŎoŏUŬuŭУЎИЙийуўЖӁжӂАӐаӑЕӖеӗȨḜȩḝẠẶạặαᾰΑᾸιῐΙῘυῠΥῨ"),
    ('\u0307', 
      "CĊcċEĖeėGĠgġIİZŻzżAȦaȧOȮoȯBḂbḃDḊdḋFḞfḟHḢhḣMṀmṁNṄnṅPṖpṗRṘrṙSṠsṡŚṤśṥŠṦšṧṢṨ" ++
      "ṣṩTṪtṫWẆwẇXẊxẋYẎyẏſẛ"),
    ('\u0308', 
      "AÄEËIÏOÖUÜaäeëiïoöuüyÿYŸΙΪΥΫιϊυϋϒϔЕЁІЇеёіїАӒаӓӘӚәӛЖӜжӝЗӞзӟИӤиӥОӦоӧӨӪөӫЭӬ" ++
      "эӭУӰуӱЧӴчӵЫӸыӹHḦhḧÕṎõṏŪṺūṻWẄwẅXẌxẍtẗ"),
    ('\u0309', "AẢaảÂẨâẩĂẲăẳEẺeẻÊỂêểIỈiỉOỎoỏÔỔôổƠỞơởUỦuủƯỬưửYỶyỷ"),
    ('\u030a', "AÅaåUŮuůwẘyẙ"),
    ('\u030b', "OŐoőUŰuűУӲуӳ"),
    ('\u030c', 
      "CČcčDĎdďEĚeěLĽlľNŇnňRŘrřSŠsšTŤtťZŽzžAǍaǎIǏiǐOǑoǒUǓuǔÜǙüǚGǦgǧKǨkǩƷǮʒǯjǰHȞ" ++
      "hȟ"),
    ('\u030f', "AȀaȁEȄeȅIȈiȉOȌoȍRȐrȑUȔuȕѴѶѵѷ"),
    ('\u0311', "AȂaȃEȆeȇIȊiȋOȎoȏRȒrȓUȖuȗ"),
    ('\u0313', "αἀΑἈεἐΕἘηἠΗἨιἰΙἸοὀΟὈυὐωὠΩὨρῤ"),
    ('\u0314', "αἁΑἉεἑΕἙηἡΗἩιἱΙἹοὁΟὉυὑΥὙωὡΩὩρῥΡῬ"),
    ('\u031b', "OƠoơUƯuư"),
    ('\u0323', 
      "BḄbḅDḌdḍHḤhḥKḲkḳLḶlḷMṂmṃNṆnṇRṚrṛSṢsṣTṬtṭVṾvṿWẈwẉZẒzẓAẠaạEẸeẹIỊiịOỌoọƠỢơợ" ++
      "UỤuụƯỰưựYỴyỵ"),
    ('\u0324', "UṲuṳ"),
    ('\u0325', "AḀaḁ"),
    ('\u0326', "SȘsșTȚtț"),
    ('\u0327', "CÇcçGĢgģKĶkķLĻlļNŅnņRŖrŗSŞsşTŢtţEȨeȩDḐdḑHḨhḩ"),
    ('\u0328', "AĄaąEĘeęIĮiįUŲuųOǪoǫ"),
    ('\u032d', "DḒdḓEḘeḙLḼlḽNṊnṋTṰtṱUṶuṷ"),
    ('\u032e', "HḪhḫ"),
    ('\u0330', "EḚeḛIḬiḭUṴuṵ"),
    ('\u0331', "BḆbḇDḎdḏKḴkḵLḺlḻNṈnṉRṞrṟTṮtṯZẔzẕhẖ"),
    ('\u0338', 
      "←↚→↛↔↮⇐⇍⇔⇎⇒⇏∃∄∈∉∋∌∣∤∥∦∼≁≃≄≅≇≈≉=≠≡≢≍≭<≮>≯≤≰≥≱≲≴≳≵≶≸≷≹≺⊀≻⊁⊂⊄⊃⊅⊆⊈⊇⊉⊢⊬⊨⊭⊩⊮⊫⊯" ++
      "≼⋠≽⋡⊑⋢⊒⋣⊲⋪⊳⋫⊴⋬⊵⋭"),
    ('\u0342', "ἀἆἁἇἈἎἉἏἠἦἡἧἨἮἩἯἰἶἱἷἸἾἹἿὐὖὑὗὙὟὠὦὡὧὨὮὩὯαᾶ¨῁ηῆ᾿῏ιῖϊῗ῾῟υῦϋῧωῶ"),
    ('\u0345', 
      "ἀᾀἁᾁἂᾂἃᾃἄᾄἅᾅἆᾆἇᾇἈᾈἉᾉἊᾊἋᾋἌᾌἍᾍἎᾎἏᾏἠᾐἡᾑἢᾒἣᾓἤᾔἥᾕἦᾖἧᾗἨᾘἩᾙἪᾚἫᾛἬᾜἭᾝἮᾞἯᾟὠᾠὡᾡὢᾢὣᾣ" ++
      "ὤᾤὥᾥὦᾦὧᾧὨᾨὩᾩὪᾪὫᾫὬᾬὭᾭὮᾮὯᾯὰᾲαᾳάᾴᾶᾷΑᾼὴῂηῃήῄῆῇΗῌὼῲωῳώῴῶῷΩῼ"),
    ('\u0653', "اآ"),
    ('\u0654', "اأوؤيئەۀہۂےۓ"),
    ('\u0655', "اإ"),
    ('\u093c', "नऩरऱळऴ"),
    ('\u09be', "\u09c7\u09cb"),
    ('\u09d7', "\u09c7\u09cc"),
    ('\u0b3e', "\u0b47\u0b4b"),
    ('\u0b56', "\u0b47\u0b48"),
    ('\u0b57', "\u0b47\u0b4c"),
    ('\u0bbe', "\u0bc6\u0bca\u0bc7\u0bcb"),
    ('\u0bd7', "ஒஔ\u0bc6\u0bcc"),
    ('\u0c56', "\u0c46\u0c48"),
    ('\u0cc2', "\u0cc6\u0cca"),
    ('\u0cd5', "\u0cbf\u0cc0\u0cc6\u0cc7\u0cca\u0ccb"),
    ('\u0cd6', "\u0cc6\u0cc8"),
    ('\u0d3e', "\u0d46\u0d4a\u0d47\u0d4b"),
    ('\u0d57', "\u0d46\u0d4c"),
    ('\u0dca', "\u0dd9\u0dda\u0ddc\u0ddd"),
    ('\u0dcf', "\u0dd9\u0ddc"),
    ('\u0ddf', "\u0dd9\u0dde"),
    ('\u102e', "ဥဦ"),
    ('\u1b35', "ᬅᬆᬇᬈᬉᬊᬋᬌᬍᬎᬑᬒ\u1b3a\u1b3b\u1b3c\u1b3d\u1b3e\u1b40\u1b3f\u1b41\u1b42\u1b43"),
    ('\u3099', 
      "かがきぎくぐけげこごさざしじすずせぜそぞただちぢつづてでとどはばひびふぶへべほぼうゔゝゞカガキギクグケゲコゴサザシジスズセゼソゾタダチヂツヅテデ" ++
      "トドハバヒビフブヘベホボウヴワヷヰヸヱヹヲヺヽヾ"),
    ('\u309a', "はぱひぴふぷへぺほぽハパヒピフプヘペホポ"),
    ('𑂺', "𑂙𑂚𑂛𑂜𑂥𑂫"),
    ('𑄧', "𑄱𑄮𑄲𑄯"),
    ('𑌾', "𑍇𑍋"),
    ('𑍗', "𑍇𑍌"),
    ('𑒰', "𑒹𑒼"),
    ('𑒺', "𑒹𑒻"),
    ('𑒽', "𑒹𑒾"),
    ('𑖯', "𑖸𑖺𑖹𑖻"),
    ('𑤰', "𑤵𑤸")]

/-- The character after another one in a list of pairs. -/
def partner? (a : Char) : List Char → Option Char
  | x :: y :: rest => if x = a then some y else partner? a rest
  | _ => none

/-- The character before another one in a list of pairs. -/
def firstOf? (y : Char) : List Char → Option Char
  | x :: z :: rest => if z = y then some x else firstOf? y rest
  | _ => none

/-! ## Syllables of Hangul -/

/-- The first syllable; each one has an initial, a vowel and, unless it is open, a final. -/
def firstSyllable : Nat := 0xAC00

/-- The code points of the first initial and vowel, and the one before the first final. -/
def initialStart : Nat := 0x1100

@[inherit_doc initialStart]
def vowelStart : Nat := 0x1161

@[inherit_doc initialStart]
def finalStart : Nat := 0x11A7

/-- How many initials, vowels and finals there are; to have none counts as a final. -/
def initialCount : Nat := 19

@[inherit_doc initialCount]
def vowelCount : Nat := 21

@[inherit_doc initialCount]
def finalCount : Nat := 28

/-- The number of a syllable. -/
def syllable? (c : Char) : Option Nat :=
  let n := c.toNat - firstSyllable
  if firstSyllable ≤ c.toNat ∧ n < initialCount * vowelCount * finalCount then some n else none

/-- The syllable that two characters make. -/
def makeSyllable? (a b : Char) : Option Char :=
  let i := a.toNat - initialStart
  let v := b.toNat - vowelStart
  let f := b.toNat - finalStart
  if initialStart ≤ a.toNat ∧ i < initialCount ∧ vowelStart ≤ b.toNat ∧ v < vowelCount then
    some (Char.ofNat (firstSyllable + (i * vowelCount + v) * finalCount))
  else
    match syllable? a with
    | some n =>
      if n % finalCount = 0 ∧ finalStart < b.toNat ∧ f < finalCount then
        some (Char.ofNat (a.toNat + f))
      else none
    | none => none

/-- The parts of a syllable. -/
def syllableParts (n : Nat) : List Char :=
  let opening :=
    [initialStart + n / finalCount / vowelCount, vowelStart + n / finalCount % vowelCount]
  let closed := if n % finalCount = 0 then [] else [finalStart + n % finalCount]
  (opening ++ closed).map Char.ofNat

/-! ## Taking apart and putting together -/

/-- **What two characters make.** -/
def compose? (a b : Char) : Option Char :=
  (makeSyllable? a b).or
    ((compositions.find? (·.1 == b)).bind fun k => partner? a k.2.toList)

/-- What a character is made of, in at most so many steps. -/
def decomposeWithin : Nat → Char → List Char
  | 0, c => [c]
  | steps + 1, c =>
    match compositions.findSome? fun k => (firstOf? c k.2.toList).map fun a => (a, k.1) with
    | some (a, b) => decomposeWithin steps a ++ [b]
    | none => [c]

/-- **What a character is made of**; no character has more than three marks. -/
def decompose (c : Char) : List Char :=
  match syllable? c with
  | some n => syllableParts n
  | none => decomposeWithin 3 c

/-- A mark among the characters before it, the last of them first: it goes before the marks of
higher classes. -/
def orderMark (c : Char) : List Char → List Char
  | [] => [c]
  | d :: ds =>
    if 0 < combiningClass c ∧ combiningClass c < combiningClass d then d :: orderMark c ds
    else c :: d :: ds

/-- A text with all characters taken apart and all marks in order. -/
def decomposed (cs : List Char) : List Char :=
  ((cs.flatMap decompose).foldl (fun done c => orderMark c done) []).reverse

/-- What a character makes with the last one of class zero, unless one of the marks between them,
the last first, stands in the way. -/
def composeOver? (kept : List Char) (starter c : Char) : Option Char :=
  match kept with
  | [] => compose? starter c
  | m :: _ => if combiningClass m < combiningClass c then compose? starter c else none

/-- The characters put together, after a character of class zero, if there is one, and the marks
after it, the last first. -/
def putTogether (starter : Option Char) (kept : List Char) : List Char → List Char
  | [] => starter.toList ++ kept.reverse
  | c :: cs =>
    match starter.bind fun s => composeOver? kept s c with
    | some d => putTogether (some d) kept cs
    | none =>
      if combiningClass c = 0 then
        starter.toList ++ kept.reverse ++ putTogether (some c) [] cs
      else putTogether starter (c :: kept) cs

/-- **The composed form of a text.** -/
def composed (cs : List Char) : List Char := putTogether none [] (decomposed cs)

/-! ## Composed texts -/

/-- The turns of the characters that stand in no composed form: they are another writing of other
characters. -/
def unstableTurns : List Nat :=
  [832, 834, 835, 837, 884, 885, 894, 895, 903, 904, 2392, 2400, 2524, 2526, 2527, 2528, 2611, 2612,
    2614, 2615, 2649, 2652, 2654, 2655, 2908, 2910, 3907, 3908, 3917, 3918, 3922, 3923, 3927, 3928,
    3932, 3933, 3945, 3946, 3955, 3956, 3957, 3959, 3960, 3961, 3969, 3970, 3987, 3988, 3997, 3998,
    4002, 4003, 4007, 4008, 4012, 4013, 4025, 4026, 8049, 8050, 8051, 8052, 8053, 8054, 8055, 8056,
    8057, 8058, 8059, 8060, 8061, 8062, 8123, 8124, 8126, 8127, 8137, 8138, 8139, 8140, 8147, 8148,
    8155, 8156, 8163, 8164, 8171, 8172, 8174, 8176, 8185, 8186, 8187, 8188, 8189, 8190, 8192, 8194,
    8486, 8487, 8490, 8492, 9001, 9003, 10972, 10973, 63744, 64014, 64016, 64017, 64018, 64019,
    64021, 64031, 64032, 64033, 64034, 64035, 64037, 64039, 64042, 64110, 64112, 64218, 64285,
    64286, 64287, 64288, 64298, 64311, 64312, 64317, 64318, 64319, 64320, 64322, 64323, 64325,
    64326, 64335, 119134, 119141, 119227, 119233, 194560, 195102]

/-- **Whether a text is its composed form.** -/
def isComposed (cs : List Char) : Bool :=
  !cs.any (isBetweenTurns unstableTurns ·.toNat) && composed cs == cs

end Text

end ExperimentGroups
