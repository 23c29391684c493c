import Mathlib.Data.Char
import Mathlib.Data.List.Basic

/-!
`str.lower()`, with the letters of Unicode 15.
-/

namespace PythonText

/-- From `first` to `last`, every character or every second one has its lower case as far from `target`. -/
structure CaseRow where
  first : Nat
  last : Nat
  step : Nat
  target : Nat

def caseRows : List CaseRow := [
  ⟨192, 214, 1, 224⟩, ⟨216, 222, 1, 248⟩, ⟨256, 302, 2, 257⟩, ⟨304, 304, 2, 105⟩, ⟨306, 310, 2, 307⟩,
  ⟨313, 327, 2, 314⟩, ⟨330, 374, 2, 331⟩, ⟨376, 376, 2, 255⟩, ⟨377, 381, 2, 378⟩, ⟨385, 385, 2, 595⟩,
  ⟨386, 388, 2, 387⟩, ⟨390, 390, 2, 596⟩, ⟨391, 391, 2, 392⟩, ⟨393, 394, 1, 598⟩, ⟨395, 395, 2, 396⟩,
  ⟨398, 398, 2, 477⟩, ⟨399, 399, 2, 601⟩, ⟨400, 400, 2, 603⟩, ⟨401, 401, 2, 402⟩, ⟨403, 403, 2, 608⟩,
  ⟨404, 404, 2, 611⟩, ⟨406, 406, 2, 617⟩, ⟨407, 407, 2, 616⟩, ⟨408, 408, 2, 409⟩, ⟨412, 412, 2, 623⟩,
  ⟨413, 413, 2, 626⟩, ⟨415, 415, 2, 629⟩, ⟨416, 420, 2, 417⟩, ⟨422, 422, 2, 640⟩, ⟨423, 423, 2, 424⟩,
  ⟨425, 425, 2, 643⟩, ⟨428, 428, 2, 429⟩, ⟨430, 430, 2, 648⟩, ⟨431, 431, 2, 432⟩, ⟨433, 434, 1, 650⟩,
  ⟨435, 437, 2, 436⟩, ⟨439, 439, 2, 658⟩, ⟨440, 440, 2, 441⟩, ⟨444, 444, 2, 445⟩, ⟨452, 452, 2, 454⟩,
  ⟨453, 453, 2, 454⟩, ⟨455, 455, 2, 457⟩, ⟨456, 456, 2, 457⟩, ⟨458, 458, 2, 460⟩, ⟨459, 475, 2, 460⟩,
  ⟨478, 494, 2, 479⟩, ⟨497, 497, 2, 499⟩, ⟨498, 500, 2, 499⟩, ⟨502, 502, 2, 405⟩, ⟨503, 503, 2, 447⟩,
  ⟨504, 542, 2, 505⟩, ⟨544, 544, 2, 414⟩, ⟨546, 562, 2, 547⟩, ⟨570, 570, 2, 11365⟩, ⟨571, 571, 2, 572⟩,
  ⟨573, 573, 2, 410⟩, ⟨574, 574, 2, 11366⟩, ⟨577, 577, 2, 578⟩, ⟨579, 579, 2, 384⟩, ⟨580, 580, 2, 649⟩,
  ⟨581, 581, 2, 652⟩, ⟨582, 590, 2, 583⟩, ⟨880, 882, 2, 881⟩, ⟨886, 886, 2, 887⟩, ⟨895, 895, 2, 1011⟩,
  ⟨902, 902, 2, 940⟩, ⟨904, 906, 1, 941⟩, ⟨908, 908, 2, 972⟩, ⟨910, 911, 1, 973⟩, ⟨913, 929, 1, 945⟩,
  ⟨931, 939, 1, 963⟩, ⟨975, 975, 2, 983⟩, ⟨984, 1006, 2, 985⟩, ⟨1012, 1012, 2, 952⟩, ⟨1015, 1015, 2, 1016⟩,
  ⟨1017, 1017, 2, 1010⟩, ⟨1018, 1018, 2, 1019⟩, ⟨1021, 1023, 1, 891⟩, ⟨1024, 1039, 1, 1104⟩,
  ⟨1040, 1071, 1, 1072⟩, ⟨1120, 1152, 2, 1121⟩, ⟨1162, 1214, 2, 1163⟩, ⟨1216, 1216, 2, 1231⟩,
  ⟨1217, 1229, 2, 1218⟩, ⟨1232, 1326, 2, 1233⟩, ⟨1329, 1366, 1, 1377⟩, ⟨4256, 4293, 1, 11520⟩,
  ⟨4295, 4295, 2, 11559⟩, ⟨4301, 4301, 2, 11565⟩, ⟨5024, 5103, 1, 43888⟩, ⟨5104, 5109, 1, 5112⟩,
  ⟨7312, 7354, 1, 4304⟩, ⟨7357, 7359, 1, 4349⟩, ⟨7680, 7828, 2, 7681⟩, ⟨7838, 7838, 2, 223⟩,
  ⟨7840, 7934, 2, 7841⟩, ⟨7944, 7951, 1, 7936⟩, ⟨7960, 7965, 1, 7952⟩, ⟨7976, 7983, 1, 7968⟩,
  ⟨7992, 7999, 1, 7984⟩, ⟨8008, 8013, 1, 8000⟩, ⟨8025, 8031, 2, 8017⟩, ⟨8040, 8047, 1, 8032⟩,
  ⟨8072, 8079, 1, 8064⟩, ⟨8088, 8095, 1, 8080⟩, ⟨8104, 8111, 1, 8096⟩, ⟨8120, 8121, 1, 8112⟩,
  ⟨8122, 8123, 1, 8048⟩, ⟨8124, 8124, 2, 8115⟩, ⟨8136, 8139, 1, 8050⟩, ⟨8140, 8140, 2, 8131⟩,
  ⟨8152, 8153, 1, 8144⟩, ⟨8154, 8155, 1, 8054⟩, ⟨8168, 8169, 1, 8160⟩, ⟨8170, 8171, 1, 8058⟩,
  ⟨8172, 8172, 2, 8165⟩, ⟨8184, 8185, 1, 8056⟩, ⟨8186, 8187, 1, 8060⟩, ⟨8188, 8188, 2, 8179⟩,
  ⟨8486, 8486, 2, 969⟩, ⟨8490, 8490, 2, 107⟩, ⟨8491, 8491, 2, 229⟩, ⟨8498, 8498, 2, 8526⟩,
  ⟨8544, 8559, 1, 8560⟩, ⟨8579, 8579, 2, 8580⟩, ⟨9398, 9423, 1, 9424⟩, ⟨11264, 11311, 1, 11312⟩,
  ⟨11360, 11360, 2, 11361⟩, ⟨11362, 11362, 2, 619⟩, ⟨11363, 11363, 2, 7549⟩, ⟨11364, 11364, 2, 637⟩,
  ⟨11367, 11371, 2, 11368⟩, ⟨11373, 11373, 2, 593⟩, ⟨11374, 11374, 2, 625⟩, ⟨11375, 11375, 2, 592⟩,
  ⟨11376, 11376, 2, 594⟩, ⟨11378, 11378, 2, 11379⟩, ⟨11381, 11381, 2, 11382⟩, ⟨11390, 11391, 1, 575⟩,
  ⟨11392, 11490, 2, 11393⟩, ⟨11499, 11501, 2, 11500⟩, ⟨11506, 11506, 2, 11507⟩, ⟨42560, 42604, 2, 42561⟩,
  ⟨42624, 42650, 2, 42625⟩, ⟨42786, 42798, 2, 42787⟩, ⟨42802, 42862, 2, 42803⟩, ⟨42873, 42875, 2, 42874⟩,
  ⟨42877, 42877, 2, 7545⟩, ⟨42878, 42886, 2, 42879⟩, ⟨42891, 42891, 2, 42892⟩, ⟨42893, 42893, 2, 613⟩,
  ⟨42896, 42898, 2, 42897⟩, ⟨42902, 42920, 2, 42903⟩, ⟨42922, 42922, 2, 614⟩, ⟨42923, 42923, 2, 604⟩,
  ⟨42924, 42924, 2, 609⟩, ⟨42925, 42925, 2, 620⟩, ⟨42926, 42926, 2, 618⟩, ⟨42928, 42928, 2, 670⟩,
  ⟨42929, 42929, 2, 647⟩, ⟨42930, 42930, 2, 669⟩, ⟨42931, 42931, 2, 43859⟩, ⟨42932, 42946, 2, 42933⟩,
  ⟨42948, 42948, 2, 42900⟩, ⟨42949, 42949, 2, 642⟩, ⟨42950, 42950, 2, 7566⟩, ⟨42951, 42953, 2, 42952⟩,
  ⟨42960, 42960, 2, 42961⟩, ⟨42966, 42968, 2, 42967⟩, ⟨42997, 42997, 2, 42998⟩, ⟨65313, 65338, 1, 65345⟩,
  ⟨66560, 66599, 1, 66600⟩, ⟨66736, 66771, 1, 66776⟩, ⟨66928, 66938, 1, 66967⟩, ⟨66940, 66954, 1, 66979⟩,
  ⟨66956, 66962, 1, 66995⟩, ⟨66964, 66965, 1, 67003⟩, ⟨68736, 68786, 1, 68800⟩, ⟨71840, 71871, 1, 71872⟩,
  ⟨93760, 93791, 1, 93792⟩, ⟨125184, 125217, 1, 125218⟩]

def casedRanges : List (Nat × Nat) := [
  (65, 90), (97, 122), (170, 170), (181, 181), (186, 186), (192, 214), (216, 246), (248, 442), (444, 447),
  (452, 659), (661, 687), (880, 883), (886, 887), (891, 893), (895, 895), (902, 902), (904, 906), (908, 908),
  (910, 929), (931, 1013), (1015, 1153), (1162, 1327), (1329, 1366), (1376, 1416), (4256, 4293), (4295, 4295),
  (4301, 4301), (4304, 4346), (4349, 4351), (5024, 5109), (5112, 5117), (7296, 7304), (7312, 7354),
  (7357, 7359), (7424, 7467), (7531, 7543), (7545, 7578), (7680, 7957), (7960, 7965), (7968, 8005),
  (8008, 8013), (8016, 8023), (8025, 8025), (8027, 8027), (8029, 8029), (8031, 8061), (8064, 8116),
  (8118, 8124), (8126, 8126), (8130, 8132), (8134, 8140), (8144, 8147), (8150, 8155), (8160, 8172),
  (8178, 8180), (8182, 8188), (8450, 8450), (8455, 8455), (8458, 8467), (8469, 8469), (8473, 8477),
  (8484, 8484), (8486, 8486), (8488, 8488), (8490, 8493), (8495, 8500), (8505, 8505), (8508, 8511),
  (8517, 8521), (8526, 8526), (8544, 8575), (8579, 8580), (9398, 9449), (11264, 11387), (11390, 11492),
  (11499, 11502), (11506, 11507), (11520, 11557), (11559, 11559), (11565, 11565), (42560, 42605),
  (42624, 42651), (42786, 42863), (42865, 42887), (42891, 42894), (42896, 42954), (42960, 42961),
  (42963, 42963), (42965, 42969), (42997, 42998), (43002, 43002), (43824, 43866), (43872, 43880),
  (43888, 43967), (64256, 64262), (64275, 64279), (65313, 65338), (65345, 65370), (66560, 66639),
  (66736, 66771), (66776, 66811), (66928, 66938), (66940, 66954), (66956, 66962), (66964, 66965),
  (66967, 66977), (66979, 66993), (66995, 67001), (67003, 67004), (68736, 68786), (68800, 68850),
  (71840, 71903), (93760, 93823), (119808, 119892), (119894, 119964), (119966, 119967), (119970, 119970),
  (119973, 119974), (119977, 119980), (119982, 119993), (119995, 119995), (119997, 120003), (120005, 120069),
  (120071, 120074), (120077, 120084), (120086, 120092), (120094, 120121), (120123, 120126), (120128, 120132),
  (120134, 120134), (120138, 120144), (120146, 120485), (120488, 120512), (120514, 120538), (120540, 120570),
  (120572, 120596), (120598, 120628), (120630, 120654), (120656, 120686), (120688, 120712), (120714, 120744),
  (120746, 120770), (120772, 120779), (122624, 122633), (122635, 122654), (122661, 122666), (125184, 125251),
  (127280, 127305), (127312, 127337), (127344, 127369)]

def caseIgnorableRanges : List (Nat × Nat) := [
  (39, 39), (46, 46), (58, 58), (94, 94), (96, 96), (168, 168), (173, 173), (175, 175), (180, 180), (183, 184),
  (688, 879), (884, 885), (890, 890), (900, 901), (903, 903), (1155, 1161), (1369, 1369), (1375, 1375),
  (1425, 1469), (1471, 1471), (1473, 1474), (1476, 1477), (1479, 1479), (1524, 1524), (1536, 1541),
  (1552, 1562), (1564, 1564), (1600, 1600), (1611, 1631), (1648, 1648), (1750, 1757), (1759, 1768),
  (1770, 1773), (1807, 1807), (1809, 1809), (1840, 1866), (1958, 1968), (2027, 2037), (2042, 2042),
  (2045, 2045), (2070, 2093), (2137, 2139), (2184, 2184), (2192, 2193), (2200, 2207), (2249, 2306),
  (2362, 2362), (2364, 2364), (2369, 2376), (2381, 2381), (2385, 2391), (2402, 2403), (2417, 2417),
  (2433, 2433), (2492, 2492), (2497, 2500), (2509, 2509), (2530, 2531), (2558, 2558), (2561, 2562),
  (2620, 2620), (2625, 2626), (2631, 2632), (2635, 2637), (2641, 2641), (2672, 2673), (2677, 2677),
  (2689, 2690), (2748, 2748), (2753, 2757), (2759, 2760), (2765, 2765), (2786, 2787), (2810, 2815),
  (2817, 2817), (2876, 2876), (2879, 2879), (2881, 2884), (2893, 2893), (2901, 2902), (2914, 2915),
  (2946, 2946), (3008, 3008), (3021, 3021), (3072, 3072), (3076, 3076), (3132, 3132), (3134, 3136),
  (3142, 3144), (3146, 3149), (3157, 3158), (3170, 3171), (3201, 3201), (3260, 3260), (3263, 3263),
  (3270, 3270), (3276, 3277), (3298, 3299), (3328, 3329), (3387, 3388), (3393, 3396), (3405, 3405),
  (3426, 3427), (3457, 3457), (3530, 3530), (3538, 3540), (3542, 3542), (3633, 3633), (3636, 3642),
  (3654, 3662), (3761, 3761), (3764, 3772), (3782, 3782), (3784, 3790), (3864, 3865), (3893, 3893),
  (3895, 3895), (3897, 3897), (3953, 3966), (3968, 3972), (3974, 3975), (3981, 3991), (3993, 4028),
  (4038, 4038), (4141, 4144), (4146, 4151), (4153, 4154), (4157, 4158), (4184, 4185), (4190, 4192),
  (4209, 4212), (4226, 4226), (4229, 4230), (4237, 4237), (4253, 4253), (4348, 4348), (4957, 4959),
  (5906, 5908), (5938, 5939), (5970, 5971), (6002, 6003), (6068, 6069), (6071, 6077), (6086, 6086),
  (6089, 6099), (6103, 6103), (6109, 6109), (6155, 6159), (6211, 6211), (6277, 6278), (6313, 6313),
  (6432, 6434), (6439, 6440), (6450, 6450), (6457, 6459), (6679, 6680), (6683, 6683), (6742, 6742),
  (6744, 6750), (6752, 6752), (6754, 6754), (6757, 6764), (6771, 6780), (6783, 6783), (6823, 6823),
  (6832, 6862), (6912, 6915), (6964, 6964), (6966, 6970), (6972, 6972), (6978, 6978), (7019, 7027),
  (7040, 7041), (7074, 7077), (7080, 7081), (7083, 7085), (7142, 7142), (7144, 7145), (7149, 7149),
  (7151, 7153), (7212, 7219), (7222, 7223), (7288, 7293), (7376, 7378), (7380, 7392), (7394, 7400),
  (7405, 7405), (7412, 7412), (7416, 7417), (7468, 7530), (7544, 7544), (7579, 7679), (8125, 8125),
  (8127, 8129), (8141, 8143), (8157, 8159), (8173, 8175), (8189, 8190), (8203, 8207), (8216, 8217),
  (8228, 8228), (8231, 8231), (8234, 8238), (8288, 8292), (8294, 8303), (8305, 8305), (8319, 8319),
  (8336, 8348), (8400, 8432), (11388, 11389), (11503, 11505), (11631, 11631), (11647, 11647), (11744, 11775),
  (11823, 11823), (12293, 12293), (12330, 12333), (12337, 12341), (12347, 12347), (12441, 12446),
  (12540, 12542), (40981, 40981), (42232, 42237), (42508, 42508), (42607, 42610), (42612, 42621),
  (42623, 42623), (42652, 42655), (42736, 42737), (42752, 42785), (42864, 42864), (42888, 42890),
  (42994, 42996), (43000, 43001), (43010, 43010), (43014, 43014), (43019, 43019), (43045, 43046),
  (43052, 43052), (43204, 43205), (43232, 43249), (43263, 43263), (43302, 43309), (43335, 43345),
  (43392, 43394), (43443, 43443), (43446, 43449), (43452, 43453), (43471, 43471), (43493, 43494),
  (43561, 43566), (43569, 43570), (43573, 43574), (43587, 43587), (43596, 43596), (43632, 43632),
  (43644, 43644), (43696, 43696), (43698, 43700), (43703, 43704), (43710, 43711), (43713, 43713),
  (43741, 43741), (43756, 43757), (43763, 43764), (43766, 43766), (43867, 43871), (43881, 43883),
  (44005, 44005), (44008, 44008), (44013, 44013), (64286, 64286), (64434, 64450), (65024, 65039),
  (65043, 65043), (65056, 65071), (65106, 65106), (65109, 65109), (65279, 65279), (65287, 65287),
  (65294, 65294), (65306, 65306), (65342, 65342), (65344, 65344), (65392, 65392), (65438, 65439),
  (65507, 65507), (65529, 65531), (66045, 66045), (66272, 66272), (66422, 66426), (67456, 67461),
  (67463, 67504), (67506, 67514), (68097, 68099), (68101, 68102), (68108, 68111), (68152, 68154),
  (68159, 68159), (68325, 68326), (68900, 68903), (69291, 69292), (69373, 69375), (69446, 69456),
  (69506, 69509), (69633, 69633), (69688, 69702), (69744, 69744), (69747, 69748), (69759, 69761),
  (69811, 69814), (69817, 69818), (69821, 69821), (69826, 69826), (69837, 69837), (69888, 69890),
  (69927, 69931), (69933, 69940), (70003, 70003), (70016, 70017), (70070, 70078), (70089, 70092),
  (70095, 70095), (70191, 70193), (70196, 70196), (70198, 70199), (70206, 70206), (70209, 70209),
  (70367, 70367), (70371, 70378), (70400, 70401), (70459, 70460), (70464, 70464), (70502, 70508),
  (70512, 70516), (70712, 70719), (70722, 70724), (70726, 70726), (70750, 70750), (70835, 70840),
  (70842, 70842), (70847, 70848), (70850, 70851), (71090, 71093), (71100, 71101), (71103, 71104),
  (71132, 71133), (71219, 71226), (71229, 71229), (71231, 71232), (71339, 71339), (71341, 71341),
  (71344, 71349), (71351, 71351), (71453, 71455), (71458, 71461), (71463, 71467), (71727, 71735),
  (71737, 71738), (71995, 71996), (71998, 71998), (72003, 72003), (72148, 72151), (72154, 72155),
  (72160, 72160), (72193, 72202), (72243, 72248), (72251, 72254), (72263, 72263), (72273, 72278),
  (72281, 72283), (72330, 72342), (72344, 72345), (72752, 72758), (72760, 72765), (72767, 72767),
  (72850, 72871), (72874, 72880), (72882, 72883), (72885, 72886), (73009, 73014), (73018, 73018),
  (73020, 73021), (73023, 73029), (73031, 73031), (73104, 73105), (73109, 73109), (73111, 73111),
  (73459, 73460), (73472, 73473), (73526, 73530), (73536, 73536), (73538, 73538), (78896, 78912),
  (78919, 78933), (92912, 92916), (92976, 92982), (92992, 92995), (94031, 94031), (94095, 94111),
  (94176, 94177), (94179, 94180), (110576, 110579), (110581, 110587), (110589, 110590), (113821, 113822),
  (113824, 113827), (118528, 118573), (118576, 118598), (119143, 119145), (119155, 119170), (119173, 119179),
  (119210, 119213), (119362, 119364), (121344, 121398), (121403, 121452), (121461, 121461), (121476, 121476),
  (121499, 121503), (121505, 121519), (122880, 122886), (122888, 122904), (122907, 122913), (122915, 122916),
  (122918, 122922), (122928, 122989), (123023, 123023), (123184, 123197), (123566, 123566), (123628, 123631),
  (124139, 124143), (125136, 125142), (125252, 125259), (127995, 127999), (917505, 917505), (917536, 917631),
  (917760, 917999)]

def inRanges (ranges : List (Nat × Nat)) (c : Char) : Bool :=
  ranges.any fun (first, last) => first ≤ c.toNat && c.toNat ≤ last

def isCased (c : Char) : Bool := inRanges casedRanges c

def isCaseIgnorable (c : Char) : Bool := inRanges caseIgnorableRanges c

def CaseRow.holds (row : CaseRow) (code : Nat) : Bool :=
  row.first ≤ code && code ≤ row.last && (code - row.first) % row.step == 0

def lowerCode (code : Nat) : Nat :=
  match caseRows.find? (·.holds code) with
  | some row => row.target + (code - row.first)
  | none => code

/-- The lower case of a character where it stands alone, and of `İ` its first character. -/
def lowerChar (c : Char) : Char :=
  if c.toNat < 128 then if 'A' ≤ c ∧ c ≤ 'Z' then Char.ofNat (c.toNat + 32) else c
  else Char.ofNat (lowerCode c.toNat)

/-- A word ends with this sigma. What is before it is in reverse. -/
def isFinalSigma (before after : List Char) : Bool :=
  (before.dropWhile isCaseIgnorable).head?.any isCased &&
    !(after.dropWhile isCaseIgnorable).head?.any isCased

def lowerFrom : List Char → List Char → List Char
  | _, [] => []
  | before, c :: rest =>
      if c = 'Σ' then (if isFinalSigma before rest then 'ς' else 'σ') :: lowerFrom (c :: before) rest
      else if c = 'İ' then 'i' :: '\u0307' :: lowerFrom (c :: before) rest
      else lowerChar c :: lowerFrom (c :: before) rest

def lower (text : String) : String := String.ofList (lowerFrom [] text.toList)

example : lower "ΣΑΣ. Ä K İ" = "σας. ä k i̇" := by decide +kernel

/-! The lower case of a lower case. -/

/-- No character of a row has its lower case in another row or among the capitals of ASCII. -/
def CaseRow.apart (row other : CaseRow) : Bool :=
  row.target + (row.last - row.first) < other.first || other.last < row.target ||
    (row.step == 2 && other.step == 2 && (row.target + other.first) % 2 == 1)

def CaseRow.sound (row : CaseRow) : Bool :=
  128 ≤ row.first && row.first ≤ row.last && 90 < row.target &&
    (row.target + (row.last - row.first) < 0xd800 ||
      (0xe000 ≤ row.target && row.target + (row.last - row.first) < 0x110000)) &&
    caseRows.all row.apart

theorem caseRows_sound : caseRows.all CaseRow.sound = true := by decide +kernel

theorem lowerCode_cases (code : Nat) :
    (lowerCode code = code ∧ ∀ row ∈ caseRows, row.holds code = false) ∨
      ∃ row ∈ caseRows, row.holds code = true ∧ lowerCode code = row.target + (code - row.first) := by
  unfold lowerCode
  cases found : caseRows.find? fun row => row.holds code with
  | none => exact Or.inl ⟨rfl, fun row member => by simpa using List.find?_eq_none.mp found row member⟩
  | some row => exact Or.inr ⟨row, List.mem_of_find?_eq_some found, by simpa using List.find?_some found, rfl⟩

theorem lowerCode_image {code : Nat} {row : CaseRow} (member : row ∈ caseRows) (held : row.holds code = true)
    (same : lowerCode code = row.target + (code - row.first)) :
    90 < lowerCode code ∧ (lowerCode code).isValidChar ∧ lowerCode (lowerCode code) = lowerCode code := by
  have sound := List.all_eq_true.mp caseRows_sound row member
  simp only [CaseRow.sound, Bool.and_eq_true, Bool.or_eq_true, decide_eq_true_eq] at sound
  obtain ⟨⟨⟨⟨-, -⟩, capital⟩, valid⟩, apart⟩ := sound
  simp only [CaseRow.holds, Bool.and_eq_true, decide_eq_true_eq, beq_iff_eq] at held
  rw [same]
  refine ⟨by omega, ?_, ?_⟩
  · unfold Nat.isValidChar
    omega
  · rcases lowerCode_cases (row.target + (code - row.first)) with ⟨fixed, -⟩ | ⟨other, inRows, heldToo, -⟩
    · exact fixed
    · -- the image of one row is in no other row
      have outside := List.all_eq_true.mp apart other inRows
      simp only [CaseRow.apart, Bool.and_eq_true, Bool.or_eq_true, decide_eq_true_eq, beq_iff_eq] at outside
      simp only [CaseRow.holds, Bool.and_eq_true, decide_eq_true_eq, beq_iff_eq] at heldToo
      obtain ⟨⟨low, high⟩, steps⟩ := held
      obtain ⟨⟨otherLow, otherHigh⟩, otherSteps⟩ := heldToo
      rcases outside with (below | above) | ⟨⟨two, otherTwo⟩, odd⟩
      · omega
      · omega
      · rw [two] at steps
        rw [otherTwo] at otherSteps
        omega

theorem toNat_ofNat {code : Nat} (valid : code.isValidChar) : (Char.ofNat code).toNat = code := by
  rw [Char.ofNat, dif_pos valid]
  rfl

theorem lowerChar_cases (c : Char) : lowerChar c = c ∨
    90 < (lowerChar c).toNat ∧ lowerChar (lowerChar c) = lowerChar c := by
  by_cases ascii : c.toNat < 128
  · by_cases capital : 'A' ≤ c ∧ c ≤ 'Z'
    · have low : 65 ≤ c.toNat := capital.1
      have high : c.toNat ≤ 90 := capital.2
      have made : lowerChar c = Char.ofNat (c.toNat + 32) := by rw [lowerChar, if_pos ascii, if_pos capital]
      have code : (Char.ofNat (c.toNat + 32)).toNat = c.toNat + 32 :=
        toNat_ofNat (by unfold Nat.isValidChar; omega)
      rw [made]
      refine Or.inr ⟨by omega, ?_⟩
      rw [lowerChar, if_pos (by omega), if_neg]
      rintro ⟨-, notHigh⟩
      have notHigh : (Char.ofNat (c.toNat + 32)).toNat ≤ 90 := notHigh
      omega
    · exact Or.inl (by rw [lowerChar, if_pos ascii, if_neg capital])
  · have made : lowerChar c = Char.ofNat (lowerCode c.toNat) := by rw [lowerChar, if_neg ascii]
    rcases lowerCode_cases c.toNat with ⟨fixed, -⟩ | ⟨row, member, held, same⟩
    · exact Or.inl (by rw [made, fixed, Char.ofNat_toNat])
    · obtain ⟨high, valid, fixed⟩ := lowerCode_image member held same
      have code := toNat_ofNat valid
      rw [made]
      refine Or.inr ⟨by omega, ?_⟩
      unfold lowerChar
      rw [code]
      split
      · rw [if_neg]
        rintro ⟨-, notHigh⟩
        have notHigh : (Char.ofNat (lowerCode c.toNat)).toNat ≤ 90 := notHigh
        omega
      · rw [fixed]

theorem lowerChar_lowerChar (c : Char) : lowerChar (lowerChar c) = lowerChar c := by
  rcases lowerChar_cases c with same | ⟨-, fixed⟩
  · rw [same, same]
  · exact fixed

theorem lowerChar_newline {c : Char} (newline : lowerChar c = '\n') : c = '\n' := by
  rcases lowerChar_cases c with same | ⟨high, -⟩
  · exact same.symm.trans newline
  · rw [newline] at high
    exact absurd high (by decide)

theorem lowerFrom_cons (before : List Char) (c : Char) (rest : List Char) :
    ∃ image, lowerFrom before (c :: rest) = image ++ lowerFrom (c :: before) rest ∧ image ≠ [] ∧
      (∀ d ∈ image, lowerChar d = d ∧ (d = '\n' → c = '\n')) ∧ (lowerChar c = c → image = [c]) ∧
        (lowerChar c ≠ c → image.head? ≠ some c) := by
  rw [lowerFrom]
  by_cases sigma : c = 'Σ'
  · subst sigma
    have capital : lowerChar 'Σ' = 'σ' := by decide +kernel
    refine ⟨[if isFinalSigma before rest then 'ς' else 'σ'], by rw [if_pos rfl]; rfl, List.cons_ne_nil _ _, ?_, ?_, ?_⟩
    · intro d member
      rw [List.mem_singleton.mp member]
      split <;> exact ⟨by decide +kernel, by decide⟩
    · rw [capital]
      exact fun same => absurd same (by decide)
    · intro _
      split <;> decide
  · by_cases dotted : c = 'İ'
    · subst dotted
      have capital : lowerChar 'İ' = 'i' := by decide +kernel
      refine ⟨['i', '\u0307'], by rw [if_neg sigma, if_pos rfl]; rfl, List.cons_ne_nil _ _, ?_, ?_, ?_⟩
      · intro d member
        simp only [List.mem_cons, List.not_mem_nil, or_false] at member
        rcases member with rfl | rfl <;> exact ⟨by decide +kernel, by decide⟩
      · rw [capital]
        exact fun same => absurd same (by decide)
      · exact fun _ => by decide
    · refine ⟨[lowerChar c], by rw [if_neg sigma, if_neg dotted]; rfl, List.cons_ne_nil _ _, ?_, ?_, ?_⟩
      · intro d member
        rw [List.mem_singleton.mp member]
        exact ⟨lowerChar_lowerChar c, lowerChar_newline⟩
      · intro same
        rw [same]
      · exact fun other same => other (Option.some.inj same)

theorem mem_lowerFrom {c : Char} {before text : List Char} (member : c ∈ lowerFrom before text) :
    lowerChar c = c ∧ (c = '\n' → '\n' ∈ text) := by
  induction text generalizing before with
  | nil => simp [lowerFrom] at member
  | cons first rest ih =>
      obtain ⟨image, same, -, each, -⟩ := lowerFrom_cons before first rest
      rw [same] at member
      rcases List.mem_append.mp member with own | later
      · obtain ⟨fixed, newline⟩ := each c own
        exact ⟨fixed, fun isNewline => by rw [newline isNewline]; exact List.mem_cons_self ..⟩
      · obtain ⟨fixed, newline⟩ := ih later
        exact ⟨fixed, fun isNewline => List.mem_cons_of_mem _ (newline isNewline)⟩

theorem lower_fixed {text : String} {c : Char} (member : c ∈ (lower text).toList) : lowerChar c = c := by
  rw [lower, String.toList_ofList] at member
  exact (mem_lowerFrom member).1

theorem newline_mem_lower {text : String} (member : '\n' ∈ (lower text).toList) : '\n' ∈ text.toList := by
  rw [lower, String.toList_ofList] at member
  exact (mem_lowerFrom member).2 rfl

theorem lowerFrom_eq_iff {before text : List Char} : lowerFrom before text = text ↔ ∀ c ∈ text, lowerChar c = c := by
  induction text generalizing before with
  | nil => simp [lowerFrom]
  | cons first rest ih =>
      obtain ⟨image, same, nonempty, -, kept, changed⟩ := lowerFrom_cons before first rest
      rw [same, List.forall_mem_cons]
      constructor
      · intro whole
        have fixed : lowerChar first = first := by
          by_contra other
          obtain ⟨d, more, rfl⟩ := List.exists_cons_of_ne_nil nonempty
          exact changed other (by rw [(List.cons.inj whole).1]; rfl)
        rw [kept fixed] at whole
        exact ⟨fixed, ih.mp (List.cons.inj whole).2⟩
      · rintro ⟨fixed, others⟩
        rw [kept fixed, ih.mpr others]
        rfl

theorem lower_eq_iff {text : String} : lower text = text ↔ ∀ c ∈ text.toList, lowerChar c = c := by
  rw [← String.toList_inj, lower, String.toList_ofList]
  exact lowerFrom_eq_iff

end PythonText
