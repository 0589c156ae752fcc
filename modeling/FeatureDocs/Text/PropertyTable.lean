/-!
# Property tables

Character properties of Unicode 15.0 as sorted, inclusive code point ranges, and the general
category as the first code point of each run of equal category.

* `alphabeticRanges`, `casedRanges`, `caseIgnorableRanges`: the derived properties of the same
  names;
* `categoryRuns`: the general category.
-/

namespace FeatureDocs.Text

/-- The general categories of Unicode. -/
inductive GeneralCategory where
  | Lu | Ll | Lt | Lm | Lo | Mn | Mc | Me | Nd | Nl | No | Pc | Pd | Ps | Pe | Pi | Pf | Po
  | Sm | Sc | Sk | So | Zs | Zl | Zp | Cc | Cf | Cs | Co | Cn
deriving DecidableEq, Repr, Inhabited

set_option maxRecDepth 40000

/-- The Alphabetic property. -/
def alphabeticRanges : Array (Nat × Nat) := #[
  (65, 90), (97, 122), (170, 170), (181, 181), (186, 186), (192, 214), (216, 246), (248, 705),
  (710, 721), (736, 740), (748, 748), (750, 750), (837, 837), (880, 884), (886, 887), (890, 893),
  (895, 895), (902, 902), (904, 906), (908, 908), (910, 929), (931, 1013), (1015, 1153),
  (1162, 1327), (1329, 1366), (1369, 1369), (1376, 1416), (1456, 1469), (1471, 1471),
  (1473, 1474), (1476, 1477), (1479, 1479), (1488, 1514), (1519, 1522), (1552, 1562),
  (1568, 1623), (1625, 1631), (1646, 1747), (1749, 1756), (1761, 1768), (1773, 1775),
  (1786, 1788), (1791, 1791), (1808, 1855), (1869, 1969), (1994, 2026), (2036, 2037),
  (2042, 2042), (2048, 2071), (2074, 2092), (2112, 2136), (2144, 2154), (2160, 2183),
  (2185, 2190), (2208, 2249), (2260, 2271), (2275, 2281), (2288, 2363), (2365, 2380),
  (2382, 2384), (2389, 2403), (2417, 2435), (2437, 2444), (2447, 2448), (2451, 2472),
  (2474, 2480), (2482, 2482), (2486, 2489), (2493, 2500), (2503, 2504), (2507, 2508),
  (2510, 2510), (2519, 2519), (2524, 2525), (2527, 2531), (2544, 2545), (2556, 2556),
  (2561, 2563), (2565, 2570), (2575, 2576), (2579, 2600), (2602, 2608), (2610, 2611),
  (2613, 2614), (2616, 2617), (2622, 2626), (2631, 2632), (2635, 2636), (2641, 2641),
  (2649, 2652), (2654, 2654), (2672, 2677), (2689, 2691), (2693, 2701), (2703, 2705),
  (2707, 2728), (2730, 2736), (2738, 2739), (2741, 2745), (2749, 2757), (2759, 2761),
  (2763, 2764), (2768, 2768), (2784, 2787), (2809, 2812), (2817, 2819), (2821, 2828),
  (2831, 2832), (2835, 2856), (2858, 2864), (2866, 2867), (2869, 2873), (2877, 2884),
  (2887, 2888), (2891, 2892), (2902, 2903), (2908, 2909), (2911, 2915), (2929, 2929),
  (2946, 2947), (2949, 2954), (2958, 2960), (2962, 2965), (2969, 2970), (2972, 2972),
  (2974, 2975), (2979, 2980), (2984, 2986), (2990, 3001), (3006, 3010), (3014, 3016),
  (3018, 3020), (3024, 3024), (3031, 3031), (3072, 3084), (3086, 3088), (3090, 3112),
  (3114, 3129), (3133, 3140), (3142, 3144), (3146, 3148), (3157, 3158), (3160, 3162),
  (3165, 3165), (3168, 3171), (3200, 3203), (3205, 3212), (3214, 3216), (3218, 3240),
  (3242, 3251), (3253, 3257), (3261, 3268), (3270, 3272), (3274, 3276), (3285, 3286),
  (3293, 3294), (3296, 3299), (3313, 3315), (3328, 3340), (3342, 3344), (3346, 3386),
  (3389, 3396), (3398, 3400), (3402, 3404), (3406, 3406), (3412, 3415), (3423, 3427),
  (3450, 3455), (3457, 3459), (3461, 3478), (3482, 3505), (3507, 3515), (3517, 3517),
  (3520, 3526), (3535, 3540), (3542, 3542), (3544, 3551), (3570, 3571), (3585, 3642),
  (3648, 3654), (3661, 3661), (3713, 3714), (3716, 3716), (3718, 3722), (3724, 3747),
  (3749, 3749), (3751, 3769), (3771, 3773), (3776, 3780), (3782, 3782), (3789, 3789),
  (3804, 3807), (3840, 3840), (3904, 3911), (3913, 3948), (3953, 3971), (3976, 3991),
  (3993, 4028), (4096, 4150), (4152, 4152), (4155, 4159), (4176, 4239), (4250, 4253),
  (4256, 4293), (4295, 4295), (4301, 4301), (4304, 4346), (4348, 4680), (4682, 4685),
  (4688, 4694), (4696, 4696), (4698, 4701), (4704, 4744), (4746, 4749), (4752, 4784),
  (4786, 4789), (4792, 4798), (4800, 4800), (4802, 4805), (4808, 4822), (4824, 4880),
  (4882, 4885), (4888, 4954), (4992, 5007), (5024, 5109), (5112, 5117), (5121, 5740),
  (5743, 5759), (5761, 5786), (5792, 5866), (5870, 5880), (5888, 5907), (5919, 5939),
  (5952, 5971), (5984, 5996), (5998, 6000), (6002, 6003), (6016, 6067), (6070, 6088),
  (6103, 6103), (6108, 6108), (6176, 6264), (6272, 6314), (6320, 6389), (6400, 6430),
  (6432, 6443), (6448, 6456), (6480, 6509), (6512, 6516), (6528, 6571), (6576, 6601),
  (6656, 6683), (6688, 6750), (6753, 6772), (6823, 6823), (6847, 6848), (6860, 6862),
  (6912, 6963), (6965, 6979), (6981, 6988), (7040, 7081), (7084, 7087), (7098, 7141),
  (7143, 7153), (7168, 7222), (7245, 7247), (7258, 7293), (7296, 7304), (7312, 7354),
  (7357, 7359), (7401, 7404), (7406, 7411), (7413, 7414), (7418, 7418), (7424, 7615),
  (7655, 7668), (7680, 7957), (7960, 7965), (7968, 8005), (8008, 8013), (8016, 8023),
  (8025, 8025), (8027, 8027), (8029, 8029), (8031, 8061), (8064, 8116), (8118, 8124),
  (8126, 8126), (8130, 8132), (8134, 8140), (8144, 8147), (8150, 8155), (8160, 8172),
  (8178, 8180), (8182, 8188), (8305, 8305), (8319, 8319), (8336, 8348), (8450, 8450),
  (8455, 8455), (8458, 8467), (8469, 8469), (8473, 8477), (8484, 8484), (8486, 8486),
  (8488, 8488), (8490, 8493), (8495, 8505), (8508, 8511), (8517, 8521), (8526, 8526),
  (8544, 8584), (9398, 9449), (11264, 11492), (11499, 11502), (11506, 11507), (11520, 11557),
  (11559, 11559), (11565, 11565), (11568, 11623), (11631, 11631), (11648, 11670), (11680, 11686),
  (11688, 11694), (11696, 11702), (11704, 11710), (11712, 11718), (11720, 11726), (11728, 11734),
  (11736, 11742), (11744, 11775), (11823, 11823), (12293, 12295), (12321, 12329), (12337, 12341),
  (12344, 12348), (12353, 12438), (12445, 12447), (12449, 12538), (12540, 12543), (12549, 12591),
  (12593, 12686), (12704, 12735), (12784, 12799), (13312, 19903), (19968, 42124), (42192, 42237),
  (42240, 42508), (42512, 42527), (42538, 42539), (42560, 42606), (42612, 42619), (42623, 42735),
  (42775, 42783), (42786, 42888), (42891, 42954), (42960, 42961), (42963, 42963), (42965, 42969),
  (42994, 43013), (43015, 43047), (43072, 43123), (43136, 43203), (43205, 43205), (43250, 43255),
  (43259, 43259), (43261, 43263), (43274, 43306), (43312, 43346), (43360, 43388), (43392, 43442),
  (43444, 43455), (43471, 43471), (43488, 43503), (43514, 43518), (43520, 43574), (43584, 43597),
  (43616, 43638), (43642, 43710), (43712, 43712), (43714, 43714), (43739, 43741), (43744, 43759),
  (43762, 43765), (43777, 43782), (43785, 43790), (43793, 43798), (43808, 43814), (43816, 43822),
  (43824, 43866), (43868, 43881), (43888, 44010), (44032, 55203), (55216, 55238), (55243, 55291),
  (63744, 64109), (64112, 64217), (64256, 64262), (64275, 64279), (64285, 64296), (64298, 64310),
  (64312, 64316), (64318, 64318), (64320, 64321), (64323, 64324), (64326, 64433), (64467, 64829),
  (64848, 64911), (64914, 64967), (65008, 65019), (65136, 65140), (65142, 65276), (65313, 65338),
  (65345, 65370), (65382, 65470), (65474, 65479), (65482, 65487), (65490, 65495), (65498, 65500),
  (65536, 65547), (65549, 65574), (65576, 65594), (65596, 65597), (65599, 65613), (65616, 65629),
  (65664, 65786), (65856, 65908), (66176, 66204), (66208, 66256), (66304, 66335), (66349, 66378),
  (66384, 66426), (66432, 66461), (66464, 66499), (66504, 66511), (66513, 66517), (66560, 66717),
  (66736, 66771), (66776, 66811), (66816, 66855), (66864, 66915), (66928, 66938), (66940, 66954),
  (66956, 66962), (66964, 66965), (66967, 66977), (66979, 66993), (66995, 67001), (67003, 67004),
  (67072, 67382), (67392, 67413), (67424, 67431), (67456, 67461), (67463, 67504), (67506, 67514),
  (67584, 67589), (67592, 67592), (67594, 67637), (67639, 67640), (67644, 67644), (67647, 67669),
  (67680, 67702), (67712, 67742), (67808, 67826), (67828, 67829), (67840, 67861), (67872, 67897),
  (67968, 68023), (68030, 68031), (68096, 68099), (68101, 68102), (68108, 68115), (68117, 68119),
  (68121, 68149), (68192, 68220), (68224, 68252), (68288, 68295), (68297, 68324), (68352, 68405),
  (68416, 68437), (68448, 68466), (68480, 68497), (68608, 68680), (68736, 68786), (68800, 68850),
  (68864, 68903), (69248, 69289), (69291, 69292), (69296, 69297), (69376, 69404), (69415, 69415),
  (69424, 69445), (69488, 69505), (69552, 69572), (69600, 69622), (69632, 69701), (69745, 69749),
  (69760, 69816), (69826, 69826), (69840, 69864), (69888, 69938), (69956, 69959), (69968, 70002),
  (70006, 70006), (70016, 70079), (70081, 70084), (70094, 70095), (70106, 70106), (70108, 70108),
  (70144, 70161), (70163, 70196), (70199, 70199), (70206, 70209), (70272, 70278), (70280, 70280),
  (70282, 70285), (70287, 70301), (70303, 70312), (70320, 70376), (70400, 70403), (70405, 70412),
  (70415, 70416), (70419, 70440), (70442, 70448), (70450, 70451), (70453, 70457), (70461, 70468),
  (70471, 70472), (70475, 70476), (70480, 70480), (70487, 70487), (70493, 70499), (70656, 70721),
  (70723, 70725), (70727, 70730), (70751, 70753), (70784, 70849), (70852, 70853), (70855, 70855),
  (71040, 71093), (71096, 71102), (71128, 71133), (71168, 71230), (71232, 71232), (71236, 71236),
  (71296, 71349), (71352, 71352), (71424, 71450), (71453, 71466), (71488, 71494), (71680, 71736),
  (71840, 71903), (71935, 71942), (71945, 71945), (71948, 71955), (71957, 71958), (71960, 71989),
  (71991, 71992), (71995, 71996), (71999, 72002), (72096, 72103), (72106, 72151), (72154, 72159),
  (72161, 72161), (72163, 72164), (72192, 72242), (72245, 72254), (72272, 72343), (72349, 72349),
  (72368, 72440), (72704, 72712), (72714, 72758), (72760, 72766), (72768, 72768), (72818, 72847),
  (72850, 72871), (72873, 72886), (72960, 72966), (72968, 72969), (72971, 73014), (73018, 73018),
  (73020, 73021), (73023, 73025), (73027, 73027), (73030, 73031), (73056, 73061), (73063, 73064),
  (73066, 73102), (73104, 73105), (73107, 73110), (73112, 73112), (73440, 73462), (73472, 73488),
  (73490, 73530), (73534, 73536), (73648, 73648), (73728, 74649), (74752, 74862), (74880, 75075),
  (77712, 77808), (77824, 78895), (78913, 78918), (82944, 83526), (92160, 92728), (92736, 92766),
  (92784, 92862), (92880, 92909), (92928, 92975), (92992, 92995), (93027, 93047), (93053, 93071),
  (93760, 93823), (93952, 94026), (94031, 94087), (94095, 94111), (94176, 94177), (94179, 94179),
  (94192, 94193), (94208, 100343), (100352, 101589), (101632, 101640), (110576, 110579),
  (110581, 110587), (110589, 110590), (110592, 110882), (110898, 110898), (110928, 110930),
  (110933, 110933), (110948, 110951), (110960, 111355), (113664, 113770), (113776, 113788),
  (113792, 113800), (113808, 113817), (113822, 113822), (119808, 119892), (119894, 119964),
  (119966, 119967), (119970, 119970), (119973, 119974), (119977, 119980), (119982, 119993),
  (119995, 119995), (119997, 120003), (120005, 120069), (120071, 120074), (120077, 120084),
  (120086, 120092), (120094, 120121), (120123, 120126), (120128, 120132), (120134, 120134),
  (120138, 120144), (120146, 120485), (120488, 120512), (120514, 120538), (120540, 120570),
  (120572, 120596), (120598, 120628), (120630, 120654), (120656, 120686), (120688, 120712),
  (120714, 120744), (120746, 120770), (120772, 120779), (122624, 122654), (122661, 122666),
  (122880, 122886), (122888, 122904), (122907, 122913), (122915, 122916), (122918, 122922),
  (122928, 122989), (123023, 123023), (123136, 123180), (123191, 123197), (123214, 123214),
  (123536, 123565), (123584, 123627), (124112, 124139), (124896, 124902), (124904, 124907),
  (124909, 124910), (124912, 124926), (124928, 125124), (125184, 125251), (125255, 125255),
  (125259, 125259), (126464, 126467), (126469, 126495), (126497, 126498), (126500, 126500),
  (126503, 126503), (126505, 126514), (126516, 126519), (126521, 126521), (126523, 126523),
  (126530, 126530), (126535, 126535), (126537, 126537), (126539, 126539), (126541, 126543),
  (126545, 126546), (126548, 126548), (126551, 126551), (126553, 126553), (126555, 126555),
  (126557, 126557), (126559, 126559), (126561, 126562), (126564, 126564), (126567, 126570),
  (126572, 126578), (126580, 126583), (126585, 126588), (126590, 126590), (126592, 126601),
  (126603, 126619), (126625, 126627), (126629, 126633), (126635, 126651), (127280, 127305),
  (127312, 127337), (127344, 127369), (131072, 173791), (173824, 177977), (177984, 178205),
  (178208, 183969), (183984, 191456), (194560, 195101), (196608, 201546), (201552, 205743)]

/-- The Cased property. -/
def casedRanges : Array (Nat × Nat) := #[
  (65, 90), (97, 122), (170, 170), (181, 181), (186, 186), (192, 214), (216, 246), (248, 442),
  (444, 447), (452, 659), (661, 696), (704, 705), (736, 740), (837, 837), (880, 883), (886, 887),
  (890, 893), (895, 895), (902, 902), (904, 906), (908, 908), (910, 929), (931, 1013),
  (1015, 1153), (1162, 1327), (1329, 1366), (1376, 1416), (4256, 4293), (4295, 4295),
  (4301, 4301), (4304, 4346), (4348, 4351), (5024, 5109), (5112, 5117), (7296, 7304),
  (7312, 7354), (7357, 7359), (7424, 7615), (7680, 7957), (7960, 7965), (7968, 8005),
  (8008, 8013), (8016, 8023), (8025, 8025), (8027, 8027), (8029, 8029), (8031, 8061),
  (8064, 8116), (8118, 8124), (8126, 8126), (8130, 8132), (8134, 8140), (8144, 8147),
  (8150, 8155), (8160, 8172), (8178, 8180), (8182, 8188), (8305, 8305), (8319, 8319),
  (8336, 8348), (8450, 8450), (8455, 8455), (8458, 8467), (8469, 8469), (8473, 8477),
  (8484, 8484), (8486, 8486), (8488, 8488), (8490, 8493), (8495, 8500), (8505, 8505),
  (8508, 8511), (8517, 8521), (8526, 8526), (8544, 8575), (8579, 8580), (9398, 9449),
  (11264, 11492), (11499, 11502), (11506, 11507), (11520, 11557), (11559, 11559), (11565, 11565),
  (42560, 42605), (42624, 42653), (42786, 42887), (42891, 42894), (42896, 42954), (42960, 42961),
  (42963, 42963), (42965, 42969), (42994, 42998), (43000, 43002), (43824, 43866), (43868, 43881),
  (43888, 43967), (64256, 64262), (64275, 64279), (65313, 65338), (65345, 65370), (66560, 66639),
  (66736, 66771), (66776, 66811), (66928, 66938), (66940, 66954), (66956, 66962), (66964, 66965),
  (66967, 66977), (66979, 66993), (66995, 67001), (67003, 67004), (67456, 67456), (67459, 67461),
  (67463, 67504), (67506, 67514), (68736, 68786), (68800, 68850), (71840, 71903), (93760, 93823),
  (119808, 119892), (119894, 119964), (119966, 119967), (119970, 119970), (119973, 119974),
  (119977, 119980), (119982, 119993), (119995, 119995), (119997, 120003), (120005, 120069),
  (120071, 120074), (120077, 120084), (120086, 120092), (120094, 120121), (120123, 120126),
  (120128, 120132), (120134, 120134), (120138, 120144), (120146, 120485), (120488, 120512),
  (120514, 120538), (120540, 120570), (120572, 120596), (120598, 120628), (120630, 120654),
  (120656, 120686), (120688, 120712), (120714, 120744), (120746, 120770), (120772, 120779),
  (122624, 122633), (122635, 122654), (122661, 122666), (122928, 122989), (125184, 125251),
  (127280, 127305), (127312, 127337), (127344, 127369)]

/-- The Case_Ignorable property. -/
def caseIgnorableRanges : Array (Nat × Nat) := #[
  (39, 39), (46, 46), (58, 58), (94, 94), (96, 96), (168, 168), (173, 173), (175, 175),
  (180, 180), (183, 184), (688, 879), (884, 885), (890, 890), (900, 901), (903, 903),
  (1155, 1161), (1369, 1369), (1375, 1375), (1425, 1469), (1471, 1471), (1473, 1474),
  (1476, 1477), (1479, 1479), (1524, 1524), (1536, 1541), (1552, 1562), (1564, 1564),
  (1600, 1600), (1611, 1631), (1648, 1648), (1750, 1757), (1759, 1768), (1770, 1773),
  (1807, 1807), (1809, 1809), (1840, 1866), (1958, 1968), (2027, 2037), (2042, 2042),
  (2045, 2045), (2070, 2093), (2137, 2139), (2184, 2184), (2192, 2193), (2200, 2207),
  (2249, 2306), (2362, 2362), (2364, 2364), (2369, 2376), (2381, 2381), (2385, 2391),
  (2402, 2403), (2417, 2417), (2433, 2433), (2492, 2492), (2497, 2500), (2509, 2509),
  (2530, 2531), (2558, 2558), (2561, 2562), (2620, 2620), (2625, 2626), (2631, 2632),
  (2635, 2637), (2641, 2641), (2672, 2673), (2677, 2677), (2689, 2690), (2748, 2748),
  (2753, 2757), (2759, 2760), (2765, 2765), (2786, 2787), (2810, 2815), (2817, 2817),
  (2876, 2876), (2879, 2879), (2881, 2884), (2893, 2893), (2901, 2902), (2914, 2915),
  (2946, 2946), (3008, 3008), (3021, 3021), (3072, 3072), (3076, 3076), (3132, 3132),
  (3134, 3136), (3142, 3144), (3146, 3149), (3157, 3158), (3170, 3171), (3201, 3201),
  (3260, 3260), (3263, 3263), (3270, 3270), (3276, 3277), (3298, 3299), (3328, 3329),
  (3387, 3388), (3393, 3396), (3405, 3405), (3426, 3427), (3457, 3457), (3530, 3530),
  (3538, 3540), (3542, 3542), (3633, 3633), (3636, 3642), (3654, 3662), (3761, 3761),
  (3764, 3772), (3782, 3782), (3784, 3790), (3864, 3865), (3893, 3893), (3895, 3895),
  (3897, 3897), (3953, 3966), (3968, 3972), (3974, 3975), (3981, 3991), (3993, 4028),
  (4038, 4038), (4141, 4144), (4146, 4151), (4153, 4154), (4157, 4158), (4184, 4185),
  (4190, 4192), (4209, 4212), (4226, 4226), (4229, 4230), (4237, 4237), (4253, 4253),
  (4348, 4348), (4957, 4959), (5906, 5908), (5938, 5939), (5970, 5971), (6002, 6003),
  (6068, 6069), (6071, 6077), (6086, 6086), (6089, 6099), (6103, 6103), (6109, 6109),
  (6155, 6159), (6211, 6211), (6277, 6278), (6313, 6313), (6432, 6434), (6439, 6440),
  (6450, 6450), (6457, 6459), (6679, 6680), (6683, 6683), (6742, 6742), (6744, 6750),
  (6752, 6752), (6754, 6754), (6757, 6764), (6771, 6780), (6783, 6783), (6823, 6823),
  (6832, 6862), (6912, 6915), (6964, 6964), (6966, 6970), (6972, 6972), (6978, 6978),
  (7019, 7027), (7040, 7041), (7074, 7077), (7080, 7081), (7083, 7085), (7142, 7142),
  (7144, 7145), (7149, 7149), (7151, 7153), (7212, 7219), (7222, 7223), (7288, 7293),
  (7376, 7378), (7380, 7392), (7394, 7400), (7405, 7405), (7412, 7412), (7416, 7417),
  (7468, 7530), (7544, 7544), (7579, 7679), (8125, 8125), (8127, 8129), (8141, 8143),
  (8157, 8159), (8173, 8175), (8189, 8190), (8203, 8207), (8216, 8217), (8228, 8228),
  (8231, 8231), (8234, 8238), (8288, 8292), (8294, 8303), (8305, 8305), (8319, 8319),
  (8336, 8348), (8400, 8432), (11388, 11389), (11503, 11505), (11631, 11631), (11647, 11647),
  (11744, 11775), (11823, 11823), (12293, 12293), (12330, 12333), (12337, 12341), (12347, 12347),
  (12441, 12446), (12540, 12542), (40981, 40981), (42232, 42237), (42508, 42508), (42607, 42610),
  (42612, 42621), (42623, 42623), (42652, 42655), (42736, 42737), (42752, 42785), (42864, 42864),
  (42888, 42890), (42994, 42996), (43000, 43001), (43010, 43010), (43014, 43014), (43019, 43019),
  (43045, 43046), (43052, 43052), (43204, 43205), (43232, 43249), (43263, 43263), (43302, 43309),
  (43335, 43345), (43392, 43394), (43443, 43443), (43446, 43449), (43452, 43453), (43471, 43471),
  (43493, 43494), (43561, 43566), (43569, 43570), (43573, 43574), (43587, 43587), (43596, 43596),
  (43632, 43632), (43644, 43644), (43696, 43696), (43698, 43700), (43703, 43704), (43710, 43711),
  (43713, 43713), (43741, 43741), (43756, 43757), (43763, 43764), (43766, 43766), (43867, 43871),
  (43881, 43883), (44005, 44005), (44008, 44008), (44013, 44013), (64286, 64286), (64434, 64450),
  (65024, 65039), (65043, 65043), (65056, 65071), (65106, 65106), (65109, 65109), (65279, 65279),
  (65287, 65287), (65294, 65294), (65306, 65306), (65342, 65342), (65344, 65344), (65392, 65392),
  (65438, 65439), (65507, 65507), (65529, 65531), (66045, 66045), (66272, 66272), (66422, 66426),
  (67456, 67461), (67463, 67504), (67506, 67514), (68097, 68099), (68101, 68102), (68108, 68111),
  (68152, 68154), (68159, 68159), (68325, 68326), (68900, 68903), (69291, 69292), (69373, 69375),
  (69446, 69456), (69506, 69509), (69633, 69633), (69688, 69702), (69744, 69744), (69747, 69748),
  (69759, 69761), (69811, 69814), (69817, 69818), (69821, 69821), (69826, 69826), (69837, 69837),
  (69888, 69890), (69927, 69931), (69933, 69940), (70003, 70003), (70016, 70017), (70070, 70078),
  (70089, 70092), (70095, 70095), (70191, 70193), (70196, 70196), (70198, 70199), (70206, 70206),
  (70209, 70209), (70367, 70367), (70371, 70378), (70400, 70401), (70459, 70460), (70464, 70464),
  (70502, 70508), (70512, 70516), (70712, 70719), (70722, 70724), (70726, 70726), (70750, 70750),
  (70835, 70840), (70842, 70842), (70847, 70848), (70850, 70851), (71090, 71093), (71100, 71101),
  (71103, 71104), (71132, 71133), (71219, 71226), (71229, 71229), (71231, 71232), (71339, 71339),
  (71341, 71341), (71344, 71349), (71351, 71351), (71453, 71455), (71458, 71461), (71463, 71467),
  (71727, 71735), (71737, 71738), (71995, 71996), (71998, 71998), (72003, 72003), (72148, 72151),
  (72154, 72155), (72160, 72160), (72193, 72202), (72243, 72248), (72251, 72254), (72263, 72263),
  (72273, 72278), (72281, 72283), (72330, 72342), (72344, 72345), (72752, 72758), (72760, 72765),
  (72767, 72767), (72850, 72871), (72874, 72880), (72882, 72883), (72885, 72886), (73009, 73014),
  (73018, 73018), (73020, 73021), (73023, 73029), (73031, 73031), (73104, 73105), (73109, 73109),
  (73111, 73111), (73459, 73460), (73472, 73473), (73526, 73530), (73536, 73536), (73538, 73538),
  (78896, 78912), (78919, 78933), (92912, 92916), (92976, 92982), (92992, 92995), (94031, 94031),
  (94095, 94111), (94176, 94177), (94179, 94180), (110576, 110579), (110581, 110587),
  (110589, 110590), (113821, 113822), (113824, 113827), (118528, 118573), (118576, 118598),
  (119143, 119145), (119155, 119170), (119173, 119179), (119210, 119213), (119362, 119364),
  (121344, 121398), (121403, 121452), (121461, 121461), (121476, 121476), (121499, 121503),
  (121505, 121519), (122880, 122886), (122888, 122904), (122907, 122913), (122915, 122916),
  (122918, 122922), (122928, 122989), (123023, 123023), (123184, 123197), (123566, 123566),
  (123628, 123631), (124139, 124143), (125136, 125142), (125252, 125259), (127995, 127999),
  (917505, 917505), (917536, 917631), (917760, 917999)]

/-- The general category, as `(first code point of a run, category)`. -/
def categoryRuns : Array (Nat × GeneralCategory) := #[
  (0, .Cc), (32, .Zs), (33, .Po), (36, .Sc), (37, .Po), (40, .Ps), (41, .Pe), (42, .Po),
  (43, .Sm), (44, .Po), (45, .Pd), (46, .Po), (48, .Nd), (58, .Po), (60, .Sm), (63, .Po),
  (65, .Lu), (91, .Ps), (92, .Po), (93, .Pe), (94, .Sk), (95, .Pc), (96, .Sk), (97, .Ll),
  (123, .Ps), (124, .Sm), (125, .Pe), (126, .Sm), (127, .Cc), (160, .Zs), (161, .Po), (162, .Sc),
  (166, .So), (167, .Po), (168, .Sk), (169, .So), (170, .Lo), (171, .Pi), (172, .Sm), (173, .Cf),
  (174, .So), (175, .Sk), (176, .So), (177, .Sm), (178, .No), (180, .Sk), (181, .Ll), (182, .Po),
  (184, .Sk), (185, .No), (186, .Lo), (187, .Pf), (188, .No), (191, .Po), (192, .Lu), (215, .Sm),
  (216, .Lu), (223, .Ll), (247, .Sm), (248, .Ll), (256, .Lu), (257, .Ll), (258, .Lu), (259, .Ll),
  (260, .Lu), (261, .Ll), (262, .Lu), (263, .Ll), (264, .Lu), (265, .Ll), (266, .Lu), (267, .Ll),
  (268, .Lu), (269, .Ll), (270, .Lu), (271, .Ll), (272, .Lu), (273, .Ll), (274, .Lu), (275, .Ll),
  (276, .Lu), (277, .Ll), (278, .Lu), (279, .Ll), (280, .Lu), (281, .Ll), (282, .Lu), (283, .Ll),
  (284, .Lu), (285, .Ll), (286, .Lu), (287, .Ll), (288, .Lu), (289, .Ll), (290, .Lu), (291, .Ll),
  (292, .Lu), (293, .Ll), (294, .Lu), (295, .Ll), (296, .Lu), (297, .Ll), (298, .Lu), (299, .Ll),
  (300, .Lu), (301, .Ll), (302, .Lu), (303, .Ll), (304, .Lu), (305, .Ll), (306, .Lu), (307, .Ll),
  (308, .Lu), (309, .Ll), (310, .Lu), (311, .Ll), (313, .Lu), (314, .Ll), (315, .Lu), (316, .Ll),
  (317, .Lu), (318, .Ll), (319, .Lu), (320, .Ll), (321, .Lu), (322, .Ll), (323, .Lu), (324, .Ll),
  (325, .Lu), (326, .Ll), (327, .Lu), (328, .Ll), (330, .Lu), (331, .Ll), (332, .Lu), (333, .Ll),
  (334, .Lu), (335, .Ll), (336, .Lu), (337, .Ll), (338, .Lu), (339, .Ll), (340, .Lu), (341, .Ll),
  (342, .Lu), (343, .Ll), (344, .Lu), (345, .Ll), (346, .Lu), (347, .Ll), (348, .Lu), (349, .Ll),
  (350, .Lu), (351, .Ll), (352, .Lu), (353, .Ll), (354, .Lu), (355, .Ll), (356, .Lu), (357, .Ll),
  (358, .Lu), (359, .Ll), (360, .Lu), (361, .Ll), (362, .Lu), (363, .Ll), (364, .Lu), (365, .Ll),
  (366, .Lu), (367, .Ll), (368, .Lu), (369, .Ll), (370, .Lu), (371, .Ll), (372, .Lu), (373, .Ll),
  (374, .Lu), (375, .Ll), (376, .Lu), (378, .Ll), (379, .Lu), (380, .Ll), (381, .Lu), (382, .Ll),
  (385, .Lu), (387, .Ll), (388, .Lu), (389, .Ll), (390, .Lu), (392, .Ll), (393, .Lu), (396, .Ll),
  (398, .Lu), (402, .Ll), (403, .Lu), (405, .Ll), (406, .Lu), (409, .Ll), (412, .Lu), (414, .Ll),
  (415, .Lu), (417, .Ll), (418, .Lu), (419, .Ll), (420, .Lu), (421, .Ll), (422, .Lu), (424, .Ll),
  (425, .Lu), (426, .Ll), (428, .Lu), (429, .Ll), (430, .Lu), (432, .Ll), (433, .Lu), (436, .Ll),
  (437, .Lu), (438, .Ll), (439, .Lu), (441, .Ll), (443, .Lo), (444, .Lu), (445, .Ll), (448, .Lo),
  (452, .Lu), (453, .Lt), (454, .Ll), (455, .Lu), (456, .Lt), (457, .Ll), (458, .Lu), (459, .Lt),
  (460, .Ll), (461, .Lu), (462, .Ll), (463, .Lu), (464, .Ll), (465, .Lu), (466, .Ll), (467, .Lu),
  (468, .Ll), (469, .Lu), (470, .Ll), (471, .Lu), (472, .Ll), (473, .Lu), (474, .Ll), (475, .Lu),
  (476, .Ll), (478, .Lu), (479, .Ll), (480, .Lu), (481, .Ll), (482, .Lu), (483, .Ll), (484, .Lu),
  (485, .Ll), (486, .Lu), (487, .Ll), (488, .Lu), (489, .Ll), (490, .Lu), (491, .Ll), (492, .Lu),
  (493, .Ll), (494, .Lu), (495, .Ll), (497, .Lu), (498, .Lt), (499, .Ll), (500, .Lu), (501, .Ll),
  (502, .Lu), (505, .Ll), (506, .Lu), (507, .Ll), (508, .Lu), (509, .Ll), (510, .Lu), (511, .Ll),
  (512, .Lu), (513, .Ll), (514, .Lu), (515, .Ll), (516, .Lu), (517, .Ll), (518, .Lu), (519, .Ll),
  (520, .Lu), (521, .Ll), (522, .Lu), (523, .Ll), (524, .Lu), (525, .Ll), (526, .Lu), (527, .Ll),
  (528, .Lu), (529, .Ll), (530, .Lu), (531, .Ll), (532, .Lu), (533, .Ll), (534, .Lu), (535, .Ll),
  (536, .Lu), (537, .Ll), (538, .Lu), (539, .Ll), (540, .Lu), (541, .Ll), (542, .Lu), (543, .Ll),
  (544, .Lu), (545, .Ll), (546, .Lu), (547, .Ll), (548, .Lu), (549, .Ll), (550, .Lu), (551, .Ll),
  (552, .Lu), (553, .Ll), (554, .Lu), (555, .Ll), (556, .Lu), (557, .Ll), (558, .Lu), (559, .Ll),
  (560, .Lu), (561, .Ll), (562, .Lu), (563, .Ll), (570, .Lu), (572, .Ll), (573, .Lu), (575, .Ll),
  (577, .Lu), (578, .Ll), (579, .Lu), (583, .Ll), (584, .Lu), (585, .Ll), (586, .Lu), (587, .Ll),
  (588, .Lu), (589, .Ll), (590, .Lu), (591, .Ll), (660, .Lo), (661, .Ll), (688, .Lm), (706, .Sk),
  (710, .Lm), (722, .Sk), (736, .Lm), (741, .Sk), (748, .Lm), (749, .Sk), (750, .Lm), (751, .Sk),
  (768, .Mn), (880, .Lu), (881, .Ll), (882, .Lu), (883, .Ll), (884, .Lm), (885, .Sk), (886, .Lu),
  (887, .Ll), (888, .Cn), (890, .Lm), (891, .Ll), (894, .Po), (895, .Lu), (896, .Cn), (900, .Sk),
  (902, .Lu), (903, .Po), (904, .Lu), (907, .Cn), (908, .Lu), (909, .Cn), (910, .Lu), (912, .Ll),
  (913, .Lu), (930, .Cn), (931, .Lu), (940, .Ll), (975, .Lu), (976, .Ll), (978, .Lu), (981, .Ll),
  (984, .Lu), (985, .Ll), (986, .Lu), (987, .Ll), (988, .Lu), (989, .Ll), (990, .Lu), (991, .Ll),
  (992, .Lu), (993, .Ll), (994, .Lu), (995, .Ll), (996, .Lu), (997, .Ll), (998, .Lu), (999, .Ll),
  (1000, .Lu), (1001, .Ll), (1002, .Lu), (1003, .Ll), (1004, .Lu), (1005, .Ll), (1006, .Lu),
  (1007, .Ll), (1012, .Lu), (1013, .Ll), (1014, .Sm), (1015, .Lu), (1016, .Ll), (1017, .Lu),
  (1019, .Ll), (1021, .Lu), (1072, .Ll), (1120, .Lu), (1121, .Ll), (1122, .Lu), (1123, .Ll),
  (1124, .Lu), (1125, .Ll), (1126, .Lu), (1127, .Ll), (1128, .Lu), (1129, .Ll), (1130, .Lu),
  (1131, .Ll), (1132, .Lu), (1133, .Ll), (1134, .Lu), (1135, .Ll), (1136, .Lu), (1137, .Ll),
  (1138, .Lu), (1139, .Ll), (1140, .Lu), (1141, .Ll), (1142, .Lu), (1143, .Ll), (1144, .Lu),
  (1145, .Ll), (1146, .Lu), (1147, .Ll), (1148, .Lu), (1149, .Ll), (1150, .Lu), (1151, .Ll),
  (1152, .Lu), (1153, .Ll), (1154, .So), (1155, .Mn), (1160, .Me), (1162, .Lu), (1163, .Ll),
  (1164, .Lu), (1165, .Ll), (1166, .Lu), (1167, .Ll), (1168, .Lu), (1169, .Ll), (1170, .Lu),
  (1171, .Ll), (1172, .Lu), (1173, .Ll), (1174, .Lu), (1175, .Ll), (1176, .Lu), (1177, .Ll),
  (1178, .Lu), (1179, .Ll), (1180, .Lu), (1181, .Ll), (1182, .Lu), (1183, .Ll), (1184, .Lu),
  (1185, .Ll), (1186, .Lu), (1187, .Ll), (1188, .Lu), (1189, .Ll), (1190, .Lu), (1191, .Ll),
  (1192, .Lu), (1193, .Ll), (1194, .Lu), (1195, .Ll), (1196, .Lu), (1197, .Ll), (1198, .Lu),
  (1199, .Ll), (1200, .Lu), (1201, .Ll), (1202, .Lu), (1203, .Ll), (1204, .Lu), (1205, .Ll),
  (1206, .Lu), (1207, .Ll), (1208, .Lu), (1209, .Ll), (1210, .Lu), (1211, .Ll), (1212, .Lu),
  (1213, .Ll), (1214, .Lu), (1215, .Ll), (1216, .Lu), (1218, .Ll), (1219, .Lu), (1220, .Ll),
  (1221, .Lu), (1222, .Ll), (1223, .Lu), (1224, .Ll), (1225, .Lu), (1226, .Ll), (1227, .Lu),
  (1228, .Ll), (1229, .Lu), (1230, .Ll), (1232, .Lu), (1233, .Ll), (1234, .Lu), (1235, .Ll),
  (1236, .Lu), (1237, .Ll), (1238, .Lu), (1239, .Ll), (1240, .Lu), (1241, .Ll), (1242, .Lu),
  (1243, .Ll), (1244, .Lu), (1245, .Ll), (1246, .Lu), (1247, .Ll), (1248, .Lu), (1249, .Ll),
  (1250, .Lu), (1251, .Ll), (1252, .Lu), (1253, .Ll), (1254, .Lu), (1255, .Ll), (1256, .Lu),
  (1257, .Ll), (1258, .Lu), (1259, .Ll), (1260, .Lu), (1261, .Ll), (1262, .Lu), (1263, .Ll),
  (1264, .Lu), (1265, .Ll), (1266, .Lu), (1267, .Ll), (1268, .Lu), (1269, .Ll), (1270, .Lu),
  (1271, .Ll), (1272, .Lu), (1273, .Ll), (1274, .Lu), (1275, .Ll), (1276, .Lu), (1277, .Ll),
  (1278, .Lu), (1279, .Ll), (1280, .Lu), (1281, .Ll), (1282, .Lu), (1283, .Ll), (1284, .Lu),
  (1285, .Ll), (1286, .Lu), (1287, .Ll), (1288, .Lu), (1289, .Ll), (1290, .Lu), (1291, .Ll),
  (1292, .Lu), (1293, .Ll), (1294, .Lu), (1295, .Ll), (1296, .Lu), (1297, .Ll), (1298, .Lu),
  (1299, .Ll), (1300, .Lu), (1301, .Ll), (1302, .Lu), (1303, .Ll), (1304, .Lu), (1305, .Ll),
  (1306, .Lu), (1307, .Ll), (1308, .Lu), (1309, .Ll), (1310, .Lu), (1311, .Ll), (1312, .Lu),
  (1313, .Ll), (1314, .Lu), (1315, .Ll), (1316, .Lu), (1317, .Ll), (1318, .Lu), (1319, .Ll),
  (1320, .Lu), (1321, .Ll), (1322, .Lu), (1323, .Ll), (1324, .Lu), (1325, .Ll), (1326, .Lu),
  (1327, .Ll), (1328, .Cn), (1329, .Lu), (1367, .Cn), (1369, .Lm), (1370, .Po), (1376, .Ll),
  (1417, .Po), (1418, .Pd), (1419, .Cn), (1421, .So), (1423, .Sc), (1424, .Cn), (1425, .Mn),
  (1470, .Pd), (1471, .Mn), (1472, .Po), (1473, .Mn), (1475, .Po), (1476, .Mn), (1478, .Po),
  (1479, .Mn), (1480, .Cn), (1488, .Lo), (1515, .Cn), (1519, .Lo), (1523, .Po), (1525, .Cn),
  (1536, .Cf), (1542, .Sm), (1545, .Po), (1547, .Sc), (1548, .Po), (1550, .So), (1552, .Mn),
  (1563, .Po), (1564, .Cf), (1565, .Po), (1568, .Lo), (1600, .Lm), (1601, .Lo), (1611, .Mn),
  (1632, .Nd), (1642, .Po), (1646, .Lo), (1648, .Mn), (1649, .Lo), (1748, .Po), (1749, .Lo),
  (1750, .Mn), (1757, .Cf), (1758, .So), (1759, .Mn), (1765, .Lm), (1767, .Mn), (1769, .So),
  (1770, .Mn), (1774, .Lo), (1776, .Nd), (1786, .Lo), (1789, .So), (1791, .Lo), (1792, .Po),
  (1806, .Cn), (1807, .Cf), (1808, .Lo), (1809, .Mn), (1810, .Lo), (1840, .Mn), (1867, .Cn),
  (1869, .Lo), (1958, .Mn), (1969, .Lo), (1970, .Cn), (1984, .Nd), (1994, .Lo), (2027, .Mn),
  (2036, .Lm), (2038, .So), (2039, .Po), (2042, .Lm), (2043, .Cn), (2045, .Mn), (2046, .Sc),
  (2048, .Lo), (2070, .Mn), (2074, .Lm), (2075, .Mn), (2084, .Lm), (2085, .Mn), (2088, .Lm),
  (2089, .Mn), (2094, .Cn), (2096, .Po), (2111, .Cn), (2112, .Lo), (2137, .Mn), (2140, .Cn),
  (2142, .Po), (2143, .Cn), (2144, .Lo), (2155, .Cn), (2160, .Lo), (2184, .Sk), (2185, .Lo),
  (2191, .Cn), (2192, .Cf), (2194, .Cn), (2200, .Mn), (2208, .Lo), (2249, .Lm), (2250, .Mn),
  (2274, .Cf), (2275, .Mn), (2307, .Mc), (2308, .Lo), (2362, .Mn), (2363, .Mc), (2364, .Mn),
  (2365, .Lo), (2366, .Mc), (2369, .Mn), (2377, .Mc), (2381, .Mn), (2382, .Mc), (2384, .Lo),
  (2385, .Mn), (2392, .Lo), (2402, .Mn), (2404, .Po), (2406, .Nd), (2416, .Po), (2417, .Lm),
  (2418, .Lo), (2433, .Mn), (2434, .Mc), (2436, .Cn), (2437, .Lo), (2445, .Cn), (2447, .Lo),
  (2449, .Cn), (2451, .Lo), (2473, .Cn), (2474, .Lo), (2481, .Cn), (2482, .Lo), (2483, .Cn),
  (2486, .Lo), (2490, .Cn), (2492, .Mn), (2493, .Lo), (2494, .Mc), (2497, .Mn), (2501, .Cn),
  (2503, .Mc), (2505, .Cn), (2507, .Mc), (2509, .Mn), (2510, .Lo), (2511, .Cn), (2519, .Mc),
  (2520, .Cn), (2524, .Lo), (2526, .Cn), (2527, .Lo), (2530, .Mn), (2532, .Cn), (2534, .Nd),
  (2544, .Lo), (2546, .Sc), (2548, .No), (2554, .So), (2555, .Sc), (2556, .Lo), (2557, .Po),
  (2558, .Mn), (2559, .Cn), (2561, .Mn), (2563, .Mc), (2564, .Cn), (2565, .Lo), (2571, .Cn),
  (2575, .Lo), (2577, .Cn), (2579, .Lo), (2601, .Cn), (2602, .Lo), (2609, .Cn), (2610, .Lo),
  (2612, .Cn), (2613, .Lo), (2615, .Cn), (2616, .Lo), (2618, .Cn), (2620, .Mn), (2621, .Cn),
  (2622, .Mc), (2625, .Mn), (2627, .Cn), (2631, .Mn), (2633, .Cn), (2635, .Mn), (2638, .Cn),
  (2641, .Mn), (2642, .Cn), (2649, .Lo), (2653, .Cn), (2654, .Lo), (2655, .Cn), (2662, .Nd),
  (2672, .Mn), (2674, .Lo), (2677, .Mn), (2678, .Po), (2679, .Cn), (2689, .Mn), (2691, .Mc),
  (2692, .Cn), (2693, .Lo), (2702, .Cn), (2703, .Lo), (2706, .Cn), (2707, .Lo), (2729, .Cn),
  (2730, .Lo), (2737, .Cn), (2738, .Lo), (2740, .Cn), (2741, .Lo), (2746, .Cn), (2748, .Mn),
  (2749, .Lo), (2750, .Mc), (2753, .Mn), (2758, .Cn), (2759, .Mn), (2761, .Mc), (2762, .Cn),
  (2763, .Mc), (2765, .Mn), (2766, .Cn), (2768, .Lo), (2769, .Cn), (2784, .Lo), (2786, .Mn),
  (2788, .Cn), (2790, .Nd), (2800, .Po), (2801, .Sc), (2802, .Cn), (2809, .Lo), (2810, .Mn),
  (2816, .Cn), (2817, .Mn), (2818, .Mc), (2820, .Cn), (2821, .Lo), (2829, .Cn), (2831, .Lo),
  (2833, .Cn), (2835, .Lo), (2857, .Cn), (2858, .Lo), (2865, .Cn), (2866, .Lo), (2868, .Cn),
  (2869, .Lo), (2874, .Cn), (2876, .Mn), (2877, .Lo), (2878, .Mc), (2879, .Mn), (2880, .Mc),
  (2881, .Mn), (2885, .Cn), (2887, .Mc), (2889, .Cn), (2891, .Mc), (2893, .Mn), (2894, .Cn),
  (2901, .Mn), (2903, .Mc), (2904, .Cn), (2908, .Lo), (2910, .Cn), (2911, .Lo), (2914, .Mn),
  (2916, .Cn), (2918, .Nd), (2928, .So), (2929, .Lo), (2930, .No), (2936, .Cn), (2946, .Mn),
  (2947, .Lo), (2948, .Cn), (2949, .Lo), (2955, .Cn), (2958, .Lo), (2961, .Cn), (2962, .Lo),
  (2966, .Cn), (2969, .Lo), (2971, .Cn), (2972, .Lo), (2973, .Cn), (2974, .Lo), (2976, .Cn),
  (2979, .Lo), (2981, .Cn), (2984, .Lo), (2987, .Cn), (2990, .Lo), (3002, .Cn), (3006, .Mc),
  (3008, .Mn), (3009, .Mc), (3011, .Cn), (3014, .Mc), (3017, .Cn), (3018, .Mc), (3021, .Mn),
  (3022, .Cn), (3024, .Lo), (3025, .Cn), (3031, .Mc), (3032, .Cn), (3046, .Nd), (3056, .No),
  (3059, .So), (3065, .Sc), (3066, .So), (3067, .Cn), (3072, .Mn), (3073, .Mc), (3076, .Mn),
  (3077, .Lo), (3085, .Cn), (3086, .Lo), (3089, .Cn), (3090, .Lo), (3113, .Cn), (3114, .Lo),
  (3130, .Cn), (3132, .Mn), (3133, .Lo), (3134, .Mn), (3137, .Mc), (3141, .Cn), (3142, .Mn),
  (3145, .Cn), (3146, .Mn), (3150, .Cn), (3157, .Mn), (3159, .Cn), (3160, .Lo), (3163, .Cn),
  (3165, .Lo), (3166, .Cn), (3168, .Lo), (3170, .Mn), (3172, .Cn), (3174, .Nd), (3184, .Cn),
  (3191, .Po), (3192, .No), (3199, .So), (3200, .Lo), (3201, .Mn), (3202, .Mc), (3204, .Po),
  (3205, .Lo), (3213, .Cn), (3214, .Lo), (3217, .Cn), (3218, .Lo), (3241, .Cn), (3242, .Lo),
  (3252, .Cn), (3253, .Lo), (3258, .Cn), (3260, .Mn), (3261, .Lo), (3262, .Mc), (3263, .Mn),
  (3264, .Mc), (3269, .Cn), (3270, .Mn), (3271, .Mc), (3273, .Cn), (3274, .Mc), (3276, .Mn),
  (3278, .Cn), (3285, .Mc), (3287, .Cn), (3293, .Lo), (3295, .Cn), (3296, .Lo), (3298, .Mn),
  (3300, .Cn), (3302, .Nd), (3312, .Cn), (3313, .Lo), (3315, .Mc), (3316, .Cn), (3328, .Mn),
  (3330, .Mc), (3332, .Lo), (3341, .Cn), (3342, .Lo), (3345, .Cn), (3346, .Lo), (3387, .Mn),
  (3389, .Lo), (3390, .Mc), (3393, .Mn), (3397, .Cn), (3398, .Mc), (3401, .Cn), (3402, .Mc),
  (3405, .Mn), (3406, .Lo), (3407, .So), (3408, .Cn), (3412, .Lo), (3415, .Mc), (3416, .No),
  (3423, .Lo), (3426, .Mn), (3428, .Cn), (3430, .Nd), (3440, .No), (3449, .So), (3450, .Lo),
  (3456, .Cn), (3457, .Mn), (3458, .Mc), (3460, .Cn), (3461, .Lo), (3479, .Cn), (3482, .Lo),
  (3506, .Cn), (3507, .Lo), (3516, .Cn), (3517, .Lo), (3518, .Cn), (3520, .Lo), (3527, .Cn),
  (3530, .Mn), (3531, .Cn), (3535, .Mc), (3538, .Mn), (3541, .Cn), (3542, .Mn), (3543, .Cn),
  (3544, .Mc), (3552, .Cn), (3558, .Nd), (3568, .Cn), (3570, .Mc), (3572, .Po), (3573, .Cn),
  (3585, .Lo), (3633, .Mn), (3634, .Lo), (3636, .Mn), (3643, .Cn), (3647, .Sc), (3648, .Lo),
  (3654, .Lm), (3655, .Mn), (3663, .Po), (3664, .Nd), (3674, .Po), (3676, .Cn), (3713, .Lo),
  (3715, .Cn), (3716, .Lo), (3717, .Cn), (3718, .Lo), (3723, .Cn), (3724, .Lo), (3748, .Cn),
  (3749, .Lo), (3750, .Cn), (3751, .Lo), (3761, .Mn), (3762, .Lo), (3764, .Mn), (3773, .Lo),
  (3774, .Cn), (3776, .Lo), (3781, .Cn), (3782, .Lm), (3783, .Cn), (3784, .Mn), (3791, .Cn),
  (3792, .Nd), (3802, .Cn), (3804, .Lo), (3808, .Cn), (3840, .Lo), (3841, .So), (3844, .Po),
  (3859, .So), (3860, .Po), (3861, .So), (3864, .Mn), (3866, .So), (3872, .Nd), (3882, .No),
  (3892, .So), (3893, .Mn), (3894, .So), (3895, .Mn), (3896, .So), (3897, .Mn), (3898, .Ps),
  (3899, .Pe), (3900, .Ps), (3901, .Pe), (3902, .Mc), (3904, .Lo), (3912, .Cn), (3913, .Lo),
  (3949, .Cn), (3953, .Mn), (3967, .Mc), (3968, .Mn), (3973, .Po), (3974, .Mn), (3976, .Lo),
  (3981, .Mn), (3992, .Cn), (3993, .Mn), (4029, .Cn), (4030, .So), (4038, .Mn), (4039, .So),
  (4045, .Cn), (4046, .So), (4048, .Po), (4053, .So), (4057, .Po), (4059, .Cn), (4096, .Lo),
  (4139, .Mc), (4141, .Mn), (4145, .Mc), (4146, .Mn), (4152, .Mc), (4153, .Mn), (4155, .Mc),
  (4157, .Mn), (4159, .Lo), (4160, .Nd), (4170, .Po), (4176, .Lo), (4182, .Mc), (4184, .Mn),
  (4186, .Lo), (4190, .Mn), (4193, .Lo), (4194, .Mc), (4197, .Lo), (4199, .Mc), (4206, .Lo),
  (4209, .Mn), (4213, .Lo), (4226, .Mn), (4227, .Mc), (4229, .Mn), (4231, .Mc), (4237, .Mn),
  (4238, .Lo), (4239, .Mc), (4240, .Nd), (4250, .Mc), (4253, .Mn), (4254, .So), (4256, .Lu),
  (4294, .Cn), (4295, .Lu), (4296, .Cn), (4301, .Lu), (4302, .Cn), (4304, .Ll), (4347, .Po),
  (4348, .Lm), (4349, .Ll), (4352, .Lo), (4681, .Cn), (4682, .Lo), (4686, .Cn), (4688, .Lo),
  (4695, .Cn), (4696, .Lo), (4697, .Cn), (4698, .Lo), (4702, .Cn), (4704, .Lo), (4745, .Cn),
  (4746, .Lo), (4750, .Cn), (4752, .Lo), (4785, .Cn), (4786, .Lo), (4790, .Cn), (4792, .Lo),
  (4799, .Cn), (4800, .Lo), (4801, .Cn), (4802, .Lo), (4806, .Cn), (4808, .Lo), (4823, .Cn),
  (4824, .Lo), (4881, .Cn), (4882, .Lo), (4886, .Cn), (4888, .Lo), (4955, .Cn), (4957, .Mn),
  (4960, .Po), (4969, .No), (4989, .Cn), (4992, .Lo), (5008, .So), (5018, .Cn), (5024, .Lu),
  (5110, .Cn), (5112, .Ll), (5118, .Cn), (5120, .Pd), (5121, .Lo), (5741, .So), (5742, .Po),
  (5743, .Lo), (5760, .Zs), (5761, .Lo), (5787, .Ps), (5788, .Pe), (5789, .Cn), (5792, .Lo),
  (5867, .Po), (5870, .Nl), (5873, .Lo), (5881, .Cn), (5888, .Lo), (5906, .Mn), (5909, .Mc),
  (5910, .Cn), (5919, .Lo), (5938, .Mn), (5940, .Mc), (5941, .Po), (5943, .Cn), (5952, .Lo),
  (5970, .Mn), (5972, .Cn), (5984, .Lo), (5997, .Cn), (5998, .Lo), (6001, .Cn), (6002, .Mn),
  (6004, .Cn), (6016, .Lo), (6068, .Mn), (6070, .Mc), (6071, .Mn), (6078, .Mc), (6086, .Mn),
  (6087, .Mc), (6089, .Mn), (6100, .Po), (6103, .Lm), (6104, .Po), (6107, .Sc), (6108, .Lo),
  (6109, .Mn), (6110, .Cn), (6112, .Nd), (6122, .Cn), (6128, .No), (6138, .Cn), (6144, .Po),
  (6150, .Pd), (6151, .Po), (6155, .Mn), (6158, .Cf), (6159, .Mn), (6160, .Nd), (6170, .Cn),
  (6176, .Lo), (6211, .Lm), (6212, .Lo), (6265, .Cn), (6272, .Lo), (6277, .Mn), (6279, .Lo),
  (6313, .Mn), (6314, .Lo), (6315, .Cn), (6320, .Lo), (6390, .Cn), (6400, .Lo), (6431, .Cn),
  (6432, .Mn), (6435, .Mc), (6439, .Mn), (6441, .Mc), (6444, .Cn), (6448, .Mc), (6450, .Mn),
  (6451, .Mc), (6457, .Mn), (6460, .Cn), (6464, .So), (6465, .Cn), (6468, .Po), (6470, .Nd),
  (6480, .Lo), (6510, .Cn), (6512, .Lo), (6517, .Cn), (6528, .Lo), (6572, .Cn), (6576, .Lo),
  (6602, .Cn), (6608, .Nd), (6618, .No), (6619, .Cn), (6622, .So), (6656, .Lo), (6679, .Mn),
  (6681, .Mc), (6683, .Mn), (6684, .Cn), (6686, .Po), (6688, .Lo), (6741, .Mc), (6742, .Mn),
  (6743, .Mc), (6744, .Mn), (6751, .Cn), (6752, .Mn), (6753, .Mc), (6754, .Mn), (6755, .Mc),
  (6757, .Mn), (6765, .Mc), (6771, .Mn), (6781, .Cn), (6783, .Mn), (6784, .Nd), (6794, .Cn),
  (6800, .Nd), (6810, .Cn), (6816, .Po), (6823, .Lm), (6824, .Po), (6830, .Cn), (6832, .Mn),
  (6846, .Me), (6847, .Mn), (6863, .Cn), (6912, .Mn), (6916, .Mc), (6917, .Lo), (6964, .Mn),
  (6965, .Mc), (6966, .Mn), (6971, .Mc), (6972, .Mn), (6973, .Mc), (6978, .Mn), (6979, .Mc),
  (6981, .Lo), (6989, .Cn), (6992, .Nd), (7002, .Po), (7009, .So), (7019, .Mn), (7028, .So),
  (7037, .Po), (7039, .Cn), (7040, .Mn), (7042, .Mc), (7043, .Lo), (7073, .Mc), (7074, .Mn),
  (7078, .Mc), (7080, .Mn), (7082, .Mc), (7083, .Mn), (7086, .Lo), (7088, .Nd), (7098, .Lo),
  (7142, .Mn), (7143, .Mc), (7144, .Mn), (7146, .Mc), (7149, .Mn), (7150, .Mc), (7151, .Mn),
  (7154, .Mc), (7156, .Cn), (7164, .Po), (7168, .Lo), (7204, .Mc), (7212, .Mn), (7220, .Mc),
  (7222, .Mn), (7224, .Cn), (7227, .Po), (7232, .Nd), (7242, .Cn), (7245, .Lo), (7248, .Nd),
  (7258, .Lo), (7288, .Lm), (7294, .Po), (7296, .Ll), (7305, .Cn), (7312, .Lu), (7355, .Cn),
  (7357, .Lu), (7360, .Po), (7368, .Cn), (7376, .Mn), (7379, .Po), (7380, .Mn), (7393, .Mc),
  (7394, .Mn), (7401, .Lo), (7405, .Mn), (7406, .Lo), (7412, .Mn), (7413, .Lo), (7415, .Mc),
  (7416, .Mn), (7418, .Lo), (7419, .Cn), (7424, .Ll), (7468, .Lm), (7531, .Ll), (7544, .Lm),
  (7545, .Ll), (7579, .Lm), (7616, .Mn), (7680, .Lu), (7681, .Ll), (7682, .Lu), (7683, .Ll),
  (7684, .Lu), (7685, .Ll), (7686, .Lu), (7687, .Ll), (7688, .Lu), (7689, .Ll), (7690, .Lu),
  (7691, .Ll), (7692, .Lu), (7693, .Ll), (7694, .Lu), (7695, .Ll), (7696, .Lu), (7697, .Ll),
  (7698, .Lu), (7699, .Ll), (7700, .Lu), (7701, .Ll), (7702, .Lu), (7703, .Ll), (7704, .Lu),
  (7705, .Ll), (7706, .Lu), (7707, .Ll), (7708, .Lu), (7709, .Ll), (7710, .Lu), (7711, .Ll),
  (7712, .Lu), (7713, .Ll), (7714, .Lu), (7715, .Ll), (7716, .Lu), (7717, .Ll), (7718, .Lu),
  (7719, .Ll), (7720, .Lu), (7721, .Ll), (7722, .Lu), (7723, .Ll), (7724, .Lu), (7725, .Ll),
  (7726, .Lu), (7727, .Ll), (7728, .Lu), (7729, .Ll), (7730, .Lu), (7731, .Ll), (7732, .Lu),
  (7733, .Ll), (7734, .Lu), (7735, .Ll), (7736, .Lu), (7737, .Ll), (7738, .Lu), (7739, .Ll),
  (7740, .Lu), (7741, .Ll), (7742, .Lu), (7743, .Ll), (7744, .Lu), (7745, .Ll), (7746, .Lu),
  (7747, .Ll), (7748, .Lu), (7749, .Ll), (7750, .Lu), (7751, .Ll), (7752, .Lu), (7753, .Ll),
  (7754, .Lu), (7755, .Ll), (7756, .Lu), (7757, .Ll), (7758, .Lu), (7759, .Ll), (7760, .Lu),
  (7761, .Ll), (7762, .Lu), (7763, .Ll), (7764, .Lu), (7765, .Ll), (7766, .Lu), (7767, .Ll),
  (7768, .Lu), (7769, .Ll), (7770, .Lu), (7771, .Ll), (7772, .Lu), (7773, .Ll), (7774, .Lu),
  (7775, .Ll), (7776, .Lu), (7777, .Ll), (7778, .Lu), (7779, .Ll), (7780, .Lu), (7781, .Ll),
  (7782, .Lu), (7783, .Ll), (7784, .Lu), (7785, .Ll), (7786, .Lu), (7787, .Ll), (7788, .Lu),
  (7789, .Ll), (7790, .Lu), (7791, .Ll), (7792, .Lu), (7793, .Ll), (7794, .Lu), (7795, .Ll),
  (7796, .Lu), (7797, .Ll), (7798, .Lu), (7799, .Ll), (7800, .Lu), (7801, .Ll), (7802, .Lu),
  (7803, .Ll), (7804, .Lu), (7805, .Ll), (7806, .Lu), (7807, .Ll), (7808, .Lu), (7809, .Ll),
  (7810, .Lu), (7811, .Ll), (7812, .Lu), (7813, .Ll), (7814, .Lu), (7815, .Ll), (7816, .Lu),
  (7817, .Ll), (7818, .Lu), (7819, .Ll), (7820, .Lu), (7821, .Ll), (7822, .Lu), (7823, .Ll),
  (7824, .Lu), (7825, .Ll), (7826, .Lu), (7827, .Ll), (7828, .Lu), (7829, .Ll), (7838, .Lu),
  (7839, .Ll), (7840, .Lu), (7841, .Ll), (7842, .Lu), (7843, .Ll), (7844, .Lu), (7845, .Ll),
  (7846, .Lu), (7847, .Ll), (7848, .Lu), (7849, .Ll), (7850, .Lu), (7851, .Ll), (7852, .Lu),
  (7853, .Ll), (7854, .Lu), (7855, .Ll), (7856, .Lu), (7857, .Ll), (7858, .Lu), (7859, .Ll),
  (7860, .Lu), (7861, .Ll), (7862, .Lu), (7863, .Ll), (7864, .Lu), (7865, .Ll), (7866, .Lu),
  (7867, .Ll), (7868, .Lu), (7869, .Ll), (7870, .Lu), (7871, .Ll), (7872, .Lu), (7873, .Ll),
  (7874, .Lu), (7875, .Ll), (7876, .Lu), (7877, .Ll), (7878, .Lu), (7879, .Ll), (7880, .Lu),
  (7881, .Ll), (7882, .Lu), (7883, .Ll), (7884, .Lu), (7885, .Ll), (7886, .Lu), (7887, .Ll),
  (7888, .Lu), (7889, .Ll), (7890, .Lu), (7891, .Ll), (7892, .Lu), (7893, .Ll), (7894, .Lu),
  (7895, .Ll), (7896, .Lu), (7897, .Ll), (7898, .Lu), (7899, .Ll), (7900, .Lu), (7901, .Ll),
  (7902, .Lu), (7903, .Ll), (7904, .Lu), (7905, .Ll), (7906, .Lu), (7907, .Ll), (7908, .Lu),
  (7909, .Ll), (7910, .Lu), (7911, .Ll), (7912, .Lu), (7913, .Ll), (7914, .Lu), (7915, .Ll),
  (7916, .Lu), (7917, .Ll), (7918, .Lu), (7919, .Ll), (7920, .Lu), (7921, .Ll), (7922, .Lu),
  (7923, .Ll), (7924, .Lu), (7925, .Ll), (7926, .Lu), (7927, .Ll), (7928, .Lu), (7929, .Ll),
  (7930, .Lu), (7931, .Ll), (7932, .Lu), (7933, .Ll), (7934, .Lu), (7935, .Ll), (7944, .Lu),
  (7952, .Ll), (7958, .Cn), (7960, .Lu), (7966, .Cn), (7968, .Ll), (7976, .Lu), (7984, .Ll),
  (7992, .Lu), (8000, .Ll), (8006, .Cn), (8008, .Lu), (8014, .Cn), (8016, .Ll), (8024, .Cn),
  (8025, .Lu), (8026, .Cn), (8027, .Lu), (8028, .Cn), (8029, .Lu), (8030, .Cn), (8031, .Lu),
  (8032, .Ll), (8040, .Lu), (8048, .Ll), (8062, .Cn), (8064, .Ll), (8072, .Lt), (8080, .Ll),
  (8088, .Lt), (8096, .Ll), (8104, .Lt), (8112, .Ll), (8117, .Cn), (8118, .Ll), (8120, .Lu),
  (8124, .Lt), (8125, .Sk), (8126, .Ll), (8127, .Sk), (8130, .Ll), (8133, .Cn), (8134, .Ll),
  (8136, .Lu), (8140, .Lt), (8141, .Sk), (8144, .Ll), (8148, .Cn), (8150, .Ll), (8152, .Lu),
  (8156, .Cn), (8157, .Sk), (8160, .Ll), (8168, .Lu), (8173, .Sk), (8176, .Cn), (8178, .Ll),
  (8181, .Cn), (8182, .Ll), (8184, .Lu), (8188, .Lt), (8189, .Sk), (8191, .Cn), (8192, .Zs),
  (8203, .Cf), (8208, .Pd), (8214, .Po), (8216, .Pi), (8217, .Pf), (8218, .Ps), (8219, .Pi),
  (8221, .Pf), (8222, .Ps), (8223, .Pi), (8224, .Po), (8232, .Zl), (8233, .Zp), (8234, .Cf),
  (8239, .Zs), (8240, .Po), (8249, .Pi), (8250, .Pf), (8251, .Po), (8255, .Pc), (8257, .Po),
  (8260, .Sm), (8261, .Ps), (8262, .Pe), (8263, .Po), (8274, .Sm), (8275, .Po), (8276, .Pc),
  (8277, .Po), (8287, .Zs), (8288, .Cf), (8293, .Cn), (8294, .Cf), (8304, .No), (8305, .Lm),
  (8306, .Cn), (8308, .No), (8314, .Sm), (8317, .Ps), (8318, .Pe), (8319, .Lm), (8320, .No),
  (8330, .Sm), (8333, .Ps), (8334, .Pe), (8335, .Cn), (8336, .Lm), (8349, .Cn), (8352, .Sc),
  (8385, .Cn), (8400, .Mn), (8413, .Me), (8417, .Mn), (8418, .Me), (8421, .Mn), (8433, .Cn),
  (8448, .So), (8450, .Lu), (8451, .So), (8455, .Lu), (8456, .So), (8458, .Ll), (8459, .Lu),
  (8462, .Ll), (8464, .Lu), (8467, .Ll), (8468, .So), (8469, .Lu), (8470, .So), (8472, .Sm),
  (8473, .Lu), (8478, .So), (8484, .Lu), (8485, .So), (8486, .Lu), (8487, .So), (8488, .Lu),
  (8489, .So), (8490, .Lu), (8494, .So), (8495, .Ll), (8496, .Lu), (8500, .Ll), (8501, .Lo),
  (8505, .Ll), (8506, .So), (8508, .Ll), (8510, .Lu), (8512, .Sm), (8517, .Lu), (8518, .Ll),
  (8522, .So), (8523, .Sm), (8524, .So), (8526, .Ll), (8527, .So), (8528, .No), (8544, .Nl),
  (8579, .Lu), (8580, .Ll), (8581, .Nl), (8585, .No), (8586, .So), (8588, .Cn), (8592, .Sm),
  (8597, .So), (8602, .Sm), (8604, .So), (8608, .Sm), (8609, .So), (8611, .Sm), (8612, .So),
  (8614, .Sm), (8615, .So), (8622, .Sm), (8623, .So), (8654, .Sm), (8656, .So), (8658, .Sm),
  (8659, .So), (8660, .Sm), (8661, .So), (8692, .Sm), (8960, .So), (8968, .Ps), (8969, .Pe),
  (8970, .Ps), (8971, .Pe), (8972, .So), (8992, .Sm), (8994, .So), (9001, .Ps), (9002, .Pe),
  (9003, .So), (9084, .Sm), (9085, .So), (9115, .Sm), (9140, .So), (9180, .Sm), (9186, .So),
  (9255, .Cn), (9280, .So), (9291, .Cn), (9312, .No), (9372, .So), (9450, .No), (9472, .So),
  (9655, .Sm), (9656, .So), (9665, .Sm), (9666, .So), (9720, .Sm), (9728, .So), (9839, .Sm),
  (9840, .So), (10088, .Ps), (10089, .Pe), (10090, .Ps), (10091, .Pe), (10092, .Ps), (10093, .Pe),
  (10094, .Ps), (10095, .Pe), (10096, .Ps), (10097, .Pe), (10098, .Ps), (10099, .Pe),
  (10100, .Ps), (10101, .Pe), (10102, .No), (10132, .So), (10176, .Sm), (10181, .Ps),
  (10182, .Pe), (10183, .Sm), (10214, .Ps), (10215, .Pe), (10216, .Ps), (10217, .Pe),
  (10218, .Ps), (10219, .Pe), (10220, .Ps), (10221, .Pe), (10222, .Ps), (10223, .Pe),
  (10224, .Sm), (10240, .So), (10496, .Sm), (10627, .Ps), (10628, .Pe), (10629, .Ps),
  (10630, .Pe), (10631, .Ps), (10632, .Pe), (10633, .Ps), (10634, .Pe), (10635, .Ps),
  (10636, .Pe), (10637, .Ps), (10638, .Pe), (10639, .Ps), (10640, .Pe), (10641, .Ps),
  (10642, .Pe), (10643, .Ps), (10644, .Pe), (10645, .Ps), (10646, .Pe), (10647, .Ps),
  (10648, .Pe), (10649, .Sm), (10712, .Ps), (10713, .Pe), (10714, .Ps), (10715, .Pe),
  (10716, .Sm), (10748, .Ps), (10749, .Pe), (10750, .Sm), (11008, .So), (11056, .Sm),
  (11077, .So), (11079, .Sm), (11085, .So), (11124, .Cn), (11126, .So), (11158, .Cn),
  (11159, .So), (11264, .Lu), (11312, .Ll), (11360, .Lu), (11361, .Ll), (11362, .Lu),
  (11365, .Ll), (11367, .Lu), (11368, .Ll), (11369, .Lu), (11370, .Ll), (11371, .Lu),
  (11372, .Ll), (11373, .Lu), (11377, .Ll), (11378, .Lu), (11379, .Ll), (11381, .Lu),
  (11382, .Ll), (11388, .Lm), (11390, .Lu), (11393, .Ll), (11394, .Lu), (11395, .Ll),
  (11396, .Lu), (11397, .Ll), (11398, .Lu), (11399, .Ll), (11400, .Lu), (11401, .Ll),
  (11402, .Lu), (11403, .Ll), (11404, .Lu), (11405, .Ll), (11406, .Lu), (11407, .Ll),
  (11408, .Lu), (11409, .Ll), (11410, .Lu), (11411, .Ll), (11412, .Lu), (11413, .Ll),
  (11414, .Lu), (11415, .Ll), (11416, .Lu), (11417, .Ll), (11418, .Lu), (11419, .Ll),
  (11420, .Lu), (11421, .Ll), (11422, .Lu), (11423, .Ll), (11424, .Lu), (11425, .Ll),
  (11426, .Lu), (11427, .Ll), (11428, .Lu), (11429, .Ll), (11430, .Lu), (11431, .Ll),
  (11432, .Lu), (11433, .Ll), (11434, .Lu), (11435, .Ll), (11436, .Lu), (11437, .Ll),
  (11438, .Lu), (11439, .Ll), (11440, .Lu), (11441, .Ll), (11442, .Lu), (11443, .Ll),
  (11444, .Lu), (11445, .Ll), (11446, .Lu), (11447, .Ll), (11448, .Lu), (11449, .Ll),
  (11450, .Lu), (11451, .Ll), (11452, .Lu), (11453, .Ll), (11454, .Lu), (11455, .Ll),
  (11456, .Lu), (11457, .Ll), (11458, .Lu), (11459, .Ll), (11460, .Lu), (11461, .Ll),
  (11462, .Lu), (11463, .Ll), (11464, .Lu), (11465, .Ll), (11466, .Lu), (11467, .Ll),
  (11468, .Lu), (11469, .Ll), (11470, .Lu), (11471, .Ll), (11472, .Lu), (11473, .Ll),
  (11474, .Lu), (11475, .Ll), (11476, .Lu), (11477, .Ll), (11478, .Lu), (11479, .Ll),
  (11480, .Lu), (11481, .Ll), (11482, .Lu), (11483, .Ll), (11484, .Lu), (11485, .Ll),
  (11486, .Lu), (11487, .Ll), (11488, .Lu), (11489, .Ll), (11490, .Lu), (11491, .Ll),
  (11493, .So), (11499, .Lu), (11500, .Ll), (11501, .Lu), (11502, .Ll), (11503, .Mn),
  (11506, .Lu), (11507, .Ll), (11508, .Cn), (11513, .Po), (11517, .No), (11518, .Po),
  (11520, .Ll), (11558, .Cn), (11559, .Ll), (11560, .Cn), (11565, .Ll), (11566, .Cn),
  (11568, .Lo), (11624, .Cn), (11631, .Lm), (11632, .Po), (11633, .Cn), (11647, .Mn),
  (11648, .Lo), (11671, .Cn), (11680, .Lo), (11687, .Cn), (11688, .Lo), (11695, .Cn),
  (11696, .Lo), (11703, .Cn), (11704, .Lo), (11711, .Cn), (11712, .Lo), (11719, .Cn),
  (11720, .Lo), (11727, .Cn), (11728, .Lo), (11735, .Cn), (11736, .Lo), (11743, .Cn),
  (11744, .Mn), (11776, .Po), (11778, .Pi), (11779, .Pf), (11780, .Pi), (11781, .Pf),
  (11782, .Po), (11785, .Pi), (11786, .Pf), (11787, .Po), (11788, .Pi), (11789, .Pf),
  (11790, .Po), (11799, .Pd), (11800, .Po), (11802, .Pd), (11803, .Po), (11804, .Pi),
  (11805, .Pf), (11806, .Po), (11808, .Pi), (11809, .Pf), (11810, .Ps), (11811, .Pe),
  (11812, .Ps), (11813, .Pe), (11814, .Ps), (11815, .Pe), (11816, .Ps), (11817, .Pe),
  (11818, .Po), (11823, .Lm), (11824, .Po), (11834, .Pd), (11836, .Po), (11840, .Pd),
  (11841, .Po), (11842, .Ps), (11843, .Po), (11856, .So), (11858, .Po), (11861, .Ps),
  (11862, .Pe), (11863, .Ps), (11864, .Pe), (11865, .Ps), (11866, .Pe), (11867, .Ps),
  (11868, .Pe), (11869, .Pd), (11870, .Cn), (11904, .So), (11930, .Cn), (11931, .So),
  (12020, .Cn), (12032, .So), (12246, .Cn), (12272, .So), (12284, .Cn), (12288, .Zs),
  (12289, .Po), (12292, .So), (12293, .Lm), (12294, .Lo), (12295, .Nl), (12296, .Ps),
  (12297, .Pe), (12298, .Ps), (12299, .Pe), (12300, .Ps), (12301, .Pe), (12302, .Ps),
  (12303, .Pe), (12304, .Ps), (12305, .Pe), (12306, .So), (12308, .Ps), (12309, .Pe),
  (12310, .Ps), (12311, .Pe), (12312, .Ps), (12313, .Pe), (12314, .Ps), (12315, .Pe),
  (12316, .Pd), (12317, .Ps), (12318, .Pe), (12320, .So), (12321, .Nl), (12330, .Mn),
  (12334, .Mc), (12336, .Pd), (12337, .Lm), (12342, .So), (12344, .Nl), (12347, .Lm),
  (12348, .Lo), (12349, .Po), (12350, .So), (12352, .Cn), (12353, .Lo), (12439, .Cn),
  (12441, .Mn), (12443, .Sk), (12445, .Lm), (12447, .Lo), (12448, .Pd), (12449, .Lo),
  (12539, .Po), (12540, .Lm), (12543, .Lo), (12544, .Cn), (12549, .Lo), (12592, .Cn),
  (12593, .Lo), (12687, .Cn), (12688, .So), (12690, .No), (12694, .So), (12704, .Lo),
  (12736, .So), (12772, .Cn), (12784, .Lo), (12800, .So), (12831, .Cn), (12832, .No),
  (12842, .So), (12872, .No), (12880, .So), (12881, .No), (12896, .So), (12928, .No),
  (12938, .So), (12977, .No), (12992, .So), (13312, .Lo), (19904, .So), (19968, .Lo),
  (40981, .Lm), (40982, .Lo), (42125, .Cn), (42128, .So), (42183, .Cn), (42192, .Lo),
  (42232, .Lm), (42238, .Po), (42240, .Lo), (42508, .Lm), (42509, .Po), (42512, .Lo),
  (42528, .Nd), (42538, .Lo), (42540, .Cn), (42560, .Lu), (42561, .Ll), (42562, .Lu),
  (42563, .Ll), (42564, .Lu), (42565, .Ll), (42566, .Lu), (42567, .Ll), (42568, .Lu),
  (42569, .Ll), (42570, .Lu), (42571, .Ll), (42572, .Lu), (42573, .Ll), (42574, .Lu),
  (42575, .Ll), (42576, .Lu), (42577, .Ll), (42578, .Lu), (42579, .Ll), (42580, .Lu),
  (42581, .Ll), (42582, .Lu), (42583, .Ll), (42584, .Lu), (42585, .Ll), (42586, .Lu),
  (42587, .Ll), (42588, .Lu), (42589, .Ll), (42590, .Lu), (42591, .Ll), (42592, .Lu),
  (42593, .Ll), (42594, .Lu), (42595, .Ll), (42596, .Lu), (42597, .Ll), (42598, .Lu),
  (42599, .Ll), (42600, .Lu), (42601, .Ll), (42602, .Lu), (42603, .Ll), (42604, .Lu),
  (42605, .Ll), (42606, .Lo), (42607, .Mn), (42608, .Me), (42611, .Po), (42612, .Mn),
  (42622, .Po), (42623, .Lm), (42624, .Lu), (42625, .Ll), (42626, .Lu), (42627, .Ll),
  (42628, .Lu), (42629, .Ll), (42630, .Lu), (42631, .Ll), (42632, .Lu), (42633, .Ll),
  (42634, .Lu), (42635, .Ll), (42636, .Lu), (42637, .Ll), (42638, .Lu), (42639, .Ll),
  (42640, .Lu), (42641, .Ll), (42642, .Lu), (42643, .Ll), (42644, .Lu), (42645, .Ll),
  (42646, .Lu), (42647, .Ll), (42648, .Lu), (42649, .Ll), (42650, .Lu), (42651, .Ll),
  (42652, .Lm), (42654, .Mn), (42656, .Lo), (42726, .Nl), (42736, .Mn), (42738, .Po),
  (42744, .Cn), (42752, .Sk), (42775, .Lm), (42784, .Sk), (42786, .Lu), (42787, .Ll),
  (42788, .Lu), (42789, .Ll), (42790, .Lu), (42791, .Ll), (42792, .Lu), (42793, .Ll),
  (42794, .Lu), (42795, .Ll), (42796, .Lu), (42797, .Ll), (42798, .Lu), (42799, .Ll),
  (42802, .Lu), (42803, .Ll), (42804, .Lu), (42805, .Ll), (42806, .Lu), (42807, .Ll),
  (42808, .Lu), (42809, .Ll), (42810, .Lu), (42811, .Ll), (42812, .Lu), (42813, .Ll),
  (42814, .Lu), (42815, .Ll), (42816, .Lu), (42817, .Ll), (42818, .Lu), (42819, .Ll),
  (42820, .Lu), (42821, .Ll), (42822, .Lu), (42823, .Ll), (42824, .Lu), (42825, .Ll),
  (42826, .Lu), (42827, .Ll), (42828, .Lu), (42829, .Ll), (42830, .Lu), (42831, .Ll),
  (42832, .Lu), (42833, .Ll), (42834, .Lu), (42835, .Ll), (42836, .Lu), (42837, .Ll),
  (42838, .Lu), (42839, .Ll), (42840, .Lu), (42841, .Ll), (42842, .Lu), (42843, .Ll),
  (42844, .Lu), (42845, .Ll), (42846, .Lu), (42847, .Ll), (42848, .Lu), (42849, .Ll),
  (42850, .Lu), (42851, .Ll), (42852, .Lu), (42853, .Ll), (42854, .Lu), (42855, .Ll),
  (42856, .Lu), (42857, .Ll), (42858, .Lu), (42859, .Ll), (42860, .Lu), (42861, .Ll),
  (42862, .Lu), (42863, .Ll), (42864, .Lm), (42865, .Ll), (42873, .Lu), (42874, .Ll),
  (42875, .Lu), (42876, .Ll), (42877, .Lu), (42879, .Ll), (42880, .Lu), (42881, .Ll),
  (42882, .Lu), (42883, .Ll), (42884, .Lu), (42885, .Ll), (42886, .Lu), (42887, .Ll),
  (42888, .Lm), (42889, .Sk), (42891, .Lu), (42892, .Ll), (42893, .Lu), (42894, .Ll),
  (42895, .Lo), (42896, .Lu), (42897, .Ll), (42898, .Lu), (42899, .Ll), (42902, .Lu),
  (42903, .Ll), (42904, .Lu), (42905, .Ll), (42906, .Lu), (42907, .Ll), (42908, .Lu),
  (42909, .Ll), (42910, .Lu), (42911, .Ll), (42912, .Lu), (42913, .Ll), (42914, .Lu),
  (42915, .Ll), (42916, .Lu), (42917, .Ll), (42918, .Lu), (42919, .Ll), (42920, .Lu),
  (42921, .Ll), (42922, .Lu), (42927, .Ll), (42928, .Lu), (42933, .Ll), (42934, .Lu),
  (42935, .Ll), (42936, .Lu), (42937, .Ll), (42938, .Lu), (42939, .Ll), (42940, .Lu),
  (42941, .Ll), (42942, .Lu), (42943, .Ll), (42944, .Lu), (42945, .Ll), (42946, .Lu),
  (42947, .Ll), (42948, .Lu), (42952, .Ll), (42953, .Lu), (42954, .Ll), (42955, .Cn),
  (42960, .Lu), (42961, .Ll), (42962, .Cn), (42963, .Ll), (42964, .Cn), (42965, .Ll),
  (42966, .Lu), (42967, .Ll), (42968, .Lu), (42969, .Ll), (42970, .Cn), (42994, .Lm),
  (42997, .Lu), (42998, .Ll), (42999, .Lo), (43000, .Lm), (43002, .Ll), (43003, .Lo),
  (43010, .Mn), (43011, .Lo), (43014, .Mn), (43015, .Lo), (43019, .Mn), (43020, .Lo),
  (43043, .Mc), (43045, .Mn), (43047, .Mc), (43048, .So), (43052, .Mn), (43053, .Cn),
  (43056, .No), (43062, .So), (43064, .Sc), (43065, .So), (43066, .Cn), (43072, .Lo),
  (43124, .Po), (43128, .Cn), (43136, .Mc), (43138, .Lo), (43188, .Mc), (43204, .Mn),
  (43206, .Cn), (43214, .Po), (43216, .Nd), (43226, .Cn), (43232, .Mn), (43250, .Lo),
  (43256, .Po), (43259, .Lo), (43260, .Po), (43261, .Lo), (43263, .Mn), (43264, .Nd),
  (43274, .Lo), (43302, .Mn), (43310, .Po), (43312, .Lo), (43335, .Mn), (43346, .Mc),
  (43348, .Cn), (43359, .Po), (43360, .Lo), (43389, .Cn), (43392, .Mn), (43395, .Mc),
  (43396, .Lo), (43443, .Mn), (43444, .Mc), (43446, .Mn), (43450, .Mc), (43452, .Mn),
  (43454, .Mc), (43457, .Po), (43470, .Cn), (43471, .Lm), (43472, .Nd), (43482, .Cn),
  (43486, .Po), (43488, .Lo), (43493, .Mn), (43494, .Lm), (43495, .Lo), (43504, .Nd),
  (43514, .Lo), (43519, .Cn), (43520, .Lo), (43561, .Mn), (43567, .Mc), (43569, .Mn),
  (43571, .Mc), (43573, .Mn), (43575, .Cn), (43584, .Lo), (43587, .Mn), (43588, .Lo),
  (43596, .Mn), (43597, .Mc), (43598, .Cn), (43600, .Nd), (43610, .Cn), (43612, .Po),
  (43616, .Lo), (43632, .Lm), (43633, .Lo), (43639, .So), (43642, .Lo), (43643, .Mc),
  (43644, .Mn), (43645, .Mc), (43646, .Lo), (43696, .Mn), (43697, .Lo), (43698, .Mn),
  (43701, .Lo), (43703, .Mn), (43705, .Lo), (43710, .Mn), (43712, .Lo), (43713, .Mn),
  (43714, .Lo), (43715, .Cn), (43739, .Lo), (43741, .Lm), (43742, .Po), (43744, .Lo),
  (43755, .Mc), (43756, .Mn), (43758, .Mc), (43760, .Po), (43762, .Lo), (43763, .Lm),
  (43765, .Mc), (43766, .Mn), (43767, .Cn), (43777, .Lo), (43783, .Cn), (43785, .Lo),
  (43791, .Cn), (43793, .Lo), (43799, .Cn), (43808, .Lo), (43815, .Cn), (43816, .Lo),
  (43823, .Cn), (43824, .Ll), (43867, .Sk), (43868, .Lm), (43872, .Ll), (43881, .Lm),
  (43882, .Sk), (43884, .Cn), (43888, .Ll), (43968, .Lo), (44003, .Mc), (44005, .Mn),
  (44006, .Mc), (44008, .Mn), (44009, .Mc), (44011, .Po), (44012, .Mc), (44013, .Mn),
  (44014, .Cn), (44016, .Nd), (44026, .Cn), (44032, .Lo), (55204, .Cn), (55216, .Lo),
  (55239, .Cn), (55243, .Lo), (55292, .Cn), (55296, .Cs), (57344, .Co), (63744, .Lo),
  (64110, .Cn), (64112, .Lo), (64218, .Cn), (64256, .Ll), (64263, .Cn), (64275, .Ll),
  (64280, .Cn), (64285, .Lo), (64286, .Mn), (64287, .Lo), (64297, .Sm), (64298, .Lo),
  (64311, .Cn), (64312, .Lo), (64317, .Cn), (64318, .Lo), (64319, .Cn), (64320, .Lo),
  (64322, .Cn), (64323, .Lo), (64325, .Cn), (64326, .Lo), (64434, .Sk), (64451, .Cn),
  (64467, .Lo), (64830, .Pe), (64831, .Ps), (64832, .So), (64848, .Lo), (64912, .Cn),
  (64914, .Lo), (64968, .Cn), (64975, .So), (64976, .Cn), (65008, .Lo), (65020, .Sc),
  (65021, .So), (65024, .Mn), (65040, .Po), (65047, .Ps), (65048, .Pe), (65049, .Po),
  (65050, .Cn), (65056, .Mn), (65072, .Po), (65073, .Pd), (65075, .Pc), (65077, .Ps),
  (65078, .Pe), (65079, .Ps), (65080, .Pe), (65081, .Ps), (65082, .Pe), (65083, .Ps),
  (65084, .Pe), (65085, .Ps), (65086, .Pe), (65087, .Ps), (65088, .Pe), (65089, .Ps),
  (65090, .Pe), (65091, .Ps), (65092, .Pe), (65093, .Po), (65095, .Ps), (65096, .Pe),
  (65097, .Po), (65101, .Pc), (65104, .Po), (65107, .Cn), (65108, .Po), (65112, .Pd),
  (65113, .Ps), (65114, .Pe), (65115, .Ps), (65116, .Pe), (65117, .Ps), (65118, .Pe),
  (65119, .Po), (65122, .Sm), (65123, .Pd), (65124, .Sm), (65127, .Cn), (65128, .Po),
  (65129, .Sc), (65130, .Po), (65132, .Cn), (65136, .Lo), (65141, .Cn), (65142, .Lo),
  (65277, .Cn), (65279, .Cf), (65280, .Cn), (65281, .Po), (65284, .Sc), (65285, .Po),
  (65288, .Ps), (65289, .Pe), (65290, .Po), (65291, .Sm), (65292, .Po), (65293, .Pd),
  (65294, .Po), (65296, .Nd), (65306, .Po), (65308, .Sm), (65311, .Po), (65313, .Lu),
  (65339, .Ps), (65340, .Po), (65341, .Pe), (65342, .Sk), (65343, .Pc), (65344, .Sk),
  (65345, .Ll), (65371, .Ps), (65372, .Sm), (65373, .Pe), (65374, .Sm), (65375, .Ps),
  (65376, .Pe), (65377, .Po), (65378, .Ps), (65379, .Pe), (65380, .Po), (65382, .Lo),
  (65392, .Lm), (65393, .Lo), (65438, .Lm), (65440, .Lo), (65471, .Cn), (65474, .Lo),
  (65480, .Cn), (65482, .Lo), (65488, .Cn), (65490, .Lo), (65496, .Cn), (65498, .Lo),
  (65501, .Cn), (65504, .Sc), (65506, .Sm), (65507, .Sk), (65508, .So), (65509, .Sc),
  (65511, .Cn), (65512, .So), (65513, .Sm), (65517, .So), (65519, .Cn), (65529, .Cf),
  (65532, .So), (65534, .Cn), (65536, .Lo), (65548, .Cn), (65549, .Lo), (65575, .Cn),
  (65576, .Lo), (65595, .Cn), (65596, .Lo), (65598, .Cn), (65599, .Lo), (65614, .Cn),
  (65616, .Lo), (65630, .Cn), (65664, .Lo), (65787, .Cn), (65792, .Po), (65795, .Cn),
  (65799, .No), (65844, .Cn), (65847, .So), (65856, .Nl), (65909, .No), (65913, .So),
  (65930, .No), (65932, .So), (65935, .Cn), (65936, .So), (65949, .Cn), (65952, .So),
  (65953, .Cn), (66000, .So), (66045, .Mn), (66046, .Cn), (66176, .Lo), (66205, .Cn),
  (66208, .Lo), (66257, .Cn), (66272, .Mn), (66273, .No), (66300, .Cn), (66304, .Lo),
  (66336, .No), (66340, .Cn), (66349, .Lo), (66369, .Nl), (66370, .Lo), (66378, .Nl),
  (66379, .Cn), (66384, .Lo), (66422, .Mn), (66427, .Cn), (66432, .Lo), (66462, .Cn),
  (66463, .Po), (66464, .Lo), (66500, .Cn), (66504, .Lo), (66512, .Po), (66513, .Nl),
  (66518, .Cn), (66560, .Lu), (66600, .Ll), (66640, .Lo), (66718, .Cn), (66720, .Nd),
  (66730, .Cn), (66736, .Lu), (66772, .Cn), (66776, .Ll), (66812, .Cn), (66816, .Lo),
  (66856, .Cn), (66864, .Lo), (66916, .Cn), (66927, .Po), (66928, .Lu), (66939, .Cn),
  (66940, .Lu), (66955, .Cn), (66956, .Lu), (66963, .Cn), (66964, .Lu), (66966, .Cn),
  (66967, .Ll), (66978, .Cn), (66979, .Ll), (66994, .Cn), (66995, .Ll), (67002, .Cn),
  (67003, .Ll), (67005, .Cn), (67072, .Lo), (67383, .Cn), (67392, .Lo), (67414, .Cn),
  (67424, .Lo), (67432, .Cn), (67456, .Lm), (67462, .Cn), (67463, .Lm), (67505, .Cn),
  (67506, .Lm), (67515, .Cn), (67584, .Lo), (67590, .Cn), (67592, .Lo), (67593, .Cn),
  (67594, .Lo), (67638, .Cn), (67639, .Lo), (67641, .Cn), (67644, .Lo), (67645, .Cn),
  (67647, .Lo), (67670, .Cn), (67671, .Po), (67672, .No), (67680, .Lo), (67703, .So),
  (67705, .No), (67712, .Lo), (67743, .Cn), (67751, .No), (67760, .Cn), (67808, .Lo),
  (67827, .Cn), (67828, .Lo), (67830, .Cn), (67835, .No), (67840, .Lo), (67862, .No),
  (67868, .Cn), (67871, .Po), (67872, .Lo), (67898, .Cn), (67903, .Po), (67904, .Cn),
  (67968, .Lo), (68024, .Cn), (68028, .No), (68030, .Lo), (68032, .No), (68048, .Cn),
  (68050, .No), (68096, .Lo), (68097, .Mn), (68100, .Cn), (68101, .Mn), (68103, .Cn),
  (68108, .Mn), (68112, .Lo), (68116, .Cn), (68117, .Lo), (68120, .Cn), (68121, .Lo),
  (68150, .Cn), (68152, .Mn), (68155, .Cn), (68159, .Mn), (68160, .No), (68169, .Cn),
  (68176, .Po), (68185, .Cn), (68192, .Lo), (68221, .No), (68223, .Po), (68224, .Lo),
  (68253, .No), (68256, .Cn), (68288, .Lo), (68296, .So), (68297, .Lo), (68325, .Mn),
  (68327, .Cn), (68331, .No), (68336, .Po), (68343, .Cn), (68352, .Lo), (68406, .Cn),
  (68409, .Po), (68416, .Lo), (68438, .Cn), (68440, .No), (68448, .Lo), (68467, .Cn),
  (68472, .No), (68480, .Lo), (68498, .Cn), (68505, .Po), (68509, .Cn), (68521, .No),
  (68528, .Cn), (68608, .Lo), (68681, .Cn), (68736, .Lu), (68787, .Cn), (68800, .Ll),
  (68851, .Cn), (68858, .No), (68864, .Lo), (68900, .Mn), (68904, .Cn), (68912, .Nd),
  (68922, .Cn), (69216, .No), (69247, .Cn), (69248, .Lo), (69290, .Cn), (69291, .Mn),
  (69293, .Pd), (69294, .Cn), (69296, .Lo), (69298, .Cn), (69373, .Mn), (69376, .Lo),
  (69405, .No), (69415, .Lo), (69416, .Cn), (69424, .Lo), (69446, .Mn), (69457, .No),
  (69461, .Po), (69466, .Cn), (69488, .Lo), (69506, .Mn), (69510, .Po), (69514, .Cn),
  (69552, .Lo), (69573, .No), (69580, .Cn), (69600, .Lo), (69623, .Cn), (69632, .Mc),
  (69633, .Mn), (69634, .Mc), (69635, .Lo), (69688, .Mn), (69703, .Po), (69710, .Cn),
  (69714, .No), (69734, .Nd), (69744, .Mn), (69745, .Lo), (69747, .Mn), (69749, .Lo),
  (69750, .Cn), (69759, .Mn), (69762, .Mc), (69763, .Lo), (69808, .Mc), (69811, .Mn),
  (69815, .Mc), (69817, .Mn), (69819, .Po), (69821, .Cf), (69822, .Po), (69826, .Mn),
  (69827, .Cn), (69837, .Cf), (69838, .Cn), (69840, .Lo), (69865, .Cn), (69872, .Nd),
  (69882, .Cn), (69888, .Mn), (69891, .Lo), (69927, .Mn), (69932, .Mc), (69933, .Mn),
  (69941, .Cn), (69942, .Nd), (69952, .Po), (69956, .Lo), (69957, .Mc), (69959, .Lo),
  (69960, .Cn), (69968, .Lo), (70003, .Mn), (70004, .Po), (70006, .Lo), (70007, .Cn),
  (70016, .Mn), (70018, .Mc), (70019, .Lo), (70067, .Mc), (70070, .Mn), (70079, .Mc),
  (70081, .Lo), (70085, .Po), (70089, .Mn), (70093, .Po), (70094, .Mc), (70095, .Mn),
  (70096, .Nd), (70106, .Lo), (70107, .Po), (70108, .Lo), (70109, .Po), (70112, .Cn),
  (70113, .No), (70133, .Cn), (70144, .Lo), (70162, .Cn), (70163, .Lo), (70188, .Mc),
  (70191, .Mn), (70194, .Mc), (70196, .Mn), (70197, .Mc), (70198, .Mn), (70200, .Po),
  (70206, .Mn), (70207, .Lo), (70209, .Mn), (70210, .Cn), (70272, .Lo), (70279, .Cn),
  (70280, .Lo), (70281, .Cn), (70282, .Lo), (70286, .Cn), (70287, .Lo), (70302, .Cn),
  (70303, .Lo), (70313, .Po), (70314, .Cn), (70320, .Lo), (70367, .Mn), (70368, .Mc),
  (70371, .Mn), (70379, .Cn), (70384, .Nd), (70394, .Cn), (70400, .Mn), (70402, .Mc),
  (70404, .Cn), (70405, .Lo), (70413, .Cn), (70415, .Lo), (70417, .Cn), (70419, .Lo),
  (70441, .Cn), (70442, .Lo), (70449, .Cn), (70450, .Lo), (70452, .Cn), (70453, .Lo),
  (70458, .Cn), (70459, .Mn), (70461, .Lo), (70462, .Mc), (70464, .Mn), (70465, .Mc),
  (70469, .Cn), (70471, .Mc), (70473, .Cn), (70475, .Mc), (70478, .Cn), (70480, .Lo),
  (70481, .Cn), (70487, .Mc), (70488, .Cn), (70493, .Lo), (70498, .Mc), (70500, .Cn),
  (70502, .Mn), (70509, .Cn), (70512, .Mn), (70517, .Cn), (70656, .Lo), (70709, .Mc),
  (70712, .Mn), (70720, .Mc), (70722, .Mn), (70725, .Mc), (70726, .Mn), (70727, .Lo),
  (70731, .Po), (70736, .Nd), (70746, .Po), (70748, .Cn), (70749, .Po), (70750, .Mn),
  (70751, .Lo), (70754, .Cn), (70784, .Lo), (70832, .Mc), (70835, .Mn), (70841, .Mc),
  (70842, .Mn), (70843, .Mc), (70847, .Mn), (70849, .Mc), (70850, .Mn), (70852, .Lo),
  (70854, .Po), (70855, .Lo), (70856, .Cn), (70864, .Nd), (70874, .Cn), (71040, .Lo),
  (71087, .Mc), (71090, .Mn), (71094, .Cn), (71096, .Mc), (71100, .Mn), (71102, .Mc),
  (71103, .Mn), (71105, .Po), (71128, .Lo), (71132, .Mn), (71134, .Cn), (71168, .Lo),
  (71216, .Mc), (71219, .Mn), (71227, .Mc), (71229, .Mn), (71230, .Mc), (71231, .Mn),
  (71233, .Po), (71236, .Lo), (71237, .Cn), (71248, .Nd), (71258, .Cn), (71264, .Po),
  (71277, .Cn), (71296, .Lo), (71339, .Mn), (71340, .Mc), (71341, .Mn), (71342, .Mc),
  (71344, .Mn), (71350, .Mc), (71351, .Mn), (71352, .Lo), (71353, .Po), (71354, .Cn),
  (71360, .Nd), (71370, .Cn), (71424, .Lo), (71451, .Cn), (71453, .Mn), (71456, .Mc),
  (71458, .Mn), (71462, .Mc), (71463, .Mn), (71468, .Cn), (71472, .Nd), (71482, .No),
  (71484, .Po), (71487, .So), (71488, .Lo), (71495, .Cn), (71680, .Lo), (71724, .Mc),
  (71727, .Mn), (71736, .Mc), (71737, .Mn), (71739, .Po), (71740, .Cn), (71840, .Lu),
  (71872, .Ll), (71904, .Nd), (71914, .No), (71923, .Cn), (71935, .Lo), (71943, .Cn),
  (71945, .Lo), (71946, .Cn), (71948, .Lo), (71956, .Cn), (71957, .Lo), (71959, .Cn),
  (71960, .Lo), (71984, .Mc), (71990, .Cn), (71991, .Mc), (71993, .Cn), (71995, .Mn),
  (71997, .Mc), (71998, .Mn), (71999, .Lo), (72000, .Mc), (72001, .Lo), (72002, .Mc),
  (72003, .Mn), (72004, .Po), (72007, .Cn), (72016, .Nd), (72026, .Cn), (72096, .Lo),
  (72104, .Cn), (72106, .Lo), (72145, .Mc), (72148, .Mn), (72152, .Cn), (72154, .Mn),
  (72156, .Mc), (72160, .Mn), (72161, .Lo), (72162, .Po), (72163, .Lo), (72164, .Mc),
  (72165, .Cn), (72192, .Lo), (72193, .Mn), (72203, .Lo), (72243, .Mn), (72249, .Mc),
  (72250, .Lo), (72251, .Mn), (72255, .Po), (72263, .Mn), (72264, .Cn), (72272, .Lo),
  (72273, .Mn), (72279, .Mc), (72281, .Mn), (72284, .Lo), (72330, .Mn), (72343, .Mc),
  (72344, .Mn), (72346, .Po), (72349, .Lo), (72350, .Po), (72355, .Cn), (72368, .Lo),
  (72441, .Cn), (72448, .Po), (72458, .Cn), (72704, .Lo), (72713, .Cn), (72714, .Lo),
  (72751, .Mc), (72752, .Mn), (72759, .Cn), (72760, .Mn), (72766, .Mc), (72767, .Mn),
  (72768, .Lo), (72769, .Po), (72774, .Cn), (72784, .Nd), (72794, .No), (72813, .Cn),
  (72816, .Po), (72818, .Lo), (72848, .Cn), (72850, .Mn), (72872, .Cn), (72873, .Mc),
  (72874, .Mn), (72881, .Mc), (72882, .Mn), (72884, .Mc), (72885, .Mn), (72887, .Cn),
  (72960, .Lo), (72967, .Cn), (72968, .Lo), (72970, .Cn), (72971, .Lo), (73009, .Mn),
  (73015, .Cn), (73018, .Mn), (73019, .Cn), (73020, .Mn), (73022, .Cn), (73023, .Mn),
  (73030, .Lo), (73031, .Mn), (73032, .Cn), (73040, .Nd), (73050, .Cn), (73056, .Lo),
  (73062, .Cn), (73063, .Lo), (73065, .Cn), (73066, .Lo), (73098, .Mc), (73103, .Cn),
  (73104, .Mn), (73106, .Cn), (73107, .Mc), (73109, .Mn), (73110, .Mc), (73111, .Mn),
  (73112, .Lo), (73113, .Cn), (73120, .Nd), (73130, .Cn), (73440, .Lo), (73459, .Mn),
  (73461, .Mc), (73463, .Po), (73465, .Cn), (73472, .Mn), (73474, .Lo), (73475, .Mc),
  (73476, .Lo), (73489, .Cn), (73490, .Lo), (73524, .Mc), (73526, .Mn), (73531, .Cn),
  (73534, .Mc), (73536, .Mn), (73537, .Mc), (73538, .Mn), (73539, .Po), (73552, .Nd),
  (73562, .Cn), (73648, .Lo), (73649, .Cn), (73664, .No), (73685, .So), (73693, .Sc),
  (73697, .So), (73714, .Cn), (73727, .Po), (73728, .Lo), (74650, .Cn), (74752, .Nl),
  (74863, .Cn), (74864, .Po), (74869, .Cn), (74880, .Lo), (75076, .Cn), (77712, .Lo),
  (77809, .Po), (77811, .Cn), (77824, .Lo), (78896, .Cf), (78912, .Mn), (78913, .Lo),
  (78919, .Mn), (78934, .Cn), (82944, .Lo), (83527, .Cn), (92160, .Lo), (92729, .Cn),
  (92736, .Lo), (92767, .Cn), (92768, .Nd), (92778, .Cn), (92782, .Po), (92784, .Lo),
  (92863, .Cn), (92864, .Nd), (92874, .Cn), (92880, .Lo), (92910, .Cn), (92912, .Mn),
  (92917, .Po), (92918, .Cn), (92928, .Lo), (92976, .Mn), (92983, .Po), (92988, .So),
  (92992, .Lm), (92996, .Po), (92997, .So), (92998, .Cn), (93008, .Nd), (93018, .Cn),
  (93019, .No), (93026, .Cn), (93027, .Lo), (93048, .Cn), (93053, .Lo), (93072, .Cn),
  (93760, .Lu), (93792, .Ll), (93824, .No), (93847, .Po), (93851, .Cn), (93952, .Lo),
  (94027, .Cn), (94031, .Mn), (94032, .Lo), (94033, .Mc), (94088, .Cn), (94095, .Mn),
  (94099, .Lm), (94112, .Cn), (94176, .Lm), (94178, .Po), (94179, .Lm), (94180, .Mn),
  (94181, .Cn), (94192, .Mc), (94194, .Cn), (94208, .Lo), (100344, .Cn), (100352, .Lo),
  (101590, .Cn), (101632, .Lo), (101641, .Cn), (110576, .Lm), (110580, .Cn), (110581, .Lm),
  (110588, .Cn), (110589, .Lm), (110591, .Cn), (110592, .Lo), (110883, .Cn), (110898, .Lo),
  (110899, .Cn), (110928, .Lo), (110931, .Cn), (110933, .Lo), (110934, .Cn), (110948, .Lo),
  (110952, .Cn), (110960, .Lo), (111356, .Cn), (113664, .Lo), (113771, .Cn), (113776, .Lo),
  (113789, .Cn), (113792, .Lo), (113801, .Cn), (113808, .Lo), (113818, .Cn), (113820, .So),
  (113821, .Mn), (113823, .Po), (113824, .Cf), (113828, .Cn), (118528, .Mn), (118574, .Cn),
  (118576, .Mn), (118599, .Cn), (118608, .So), (118724, .Cn), (118784, .So), (119030, .Cn),
  (119040, .So), (119079, .Cn), (119081, .So), (119141, .Mc), (119143, .Mn), (119146, .So),
  (119149, .Mc), (119155, .Cf), (119163, .Mn), (119171, .So), (119173, .Mn), (119180, .So),
  (119210, .Mn), (119214, .So), (119275, .Cn), (119296, .So), (119362, .Mn), (119365, .So),
  (119366, .Cn), (119488, .No), (119508, .Cn), (119520, .No), (119540, .Cn), (119552, .So),
  (119639, .Cn), (119648, .No), (119673, .Cn), (119808, .Lu), (119834, .Ll), (119860, .Lu),
  (119886, .Ll), (119893, .Cn), (119894, .Ll), (119912, .Lu), (119938, .Ll), (119964, .Lu),
  (119965, .Cn), (119966, .Lu), (119968, .Cn), (119970, .Lu), (119971, .Cn), (119973, .Lu),
  (119975, .Cn), (119977, .Lu), (119981, .Cn), (119982, .Lu), (119990, .Ll), (119994, .Cn),
  (119995, .Ll), (119996, .Cn), (119997, .Ll), (120004, .Cn), (120005, .Ll), (120016, .Lu),
  (120042, .Ll), (120068, .Lu), (120070, .Cn), (120071, .Lu), (120075, .Cn), (120077, .Lu),
  (120085, .Cn), (120086, .Lu), (120093, .Cn), (120094, .Ll), (120120, .Lu), (120122, .Cn),
  (120123, .Lu), (120127, .Cn), (120128, .Lu), (120133, .Cn), (120134, .Lu), (120135, .Cn),
  (120138, .Lu), (120145, .Cn), (120146, .Ll), (120172, .Lu), (120198, .Ll), (120224, .Lu),
  (120250, .Ll), (120276, .Lu), (120302, .Ll), (120328, .Lu), (120354, .Ll), (120380, .Lu),
  (120406, .Ll), (120432, .Lu), (120458, .Ll), (120486, .Cn), (120488, .Lu), (120513, .Sm),
  (120514, .Ll), (120539, .Sm), (120540, .Ll), (120546, .Lu), (120571, .Sm), (120572, .Ll),
  (120597, .Sm), (120598, .Ll), (120604, .Lu), (120629, .Sm), (120630, .Ll), (120655, .Sm),
  (120656, .Ll), (120662, .Lu), (120687, .Sm), (120688, .Ll), (120713, .Sm), (120714, .Ll),
  (120720, .Lu), (120745, .Sm), (120746, .Ll), (120771, .Sm), (120772, .Ll), (120778, .Lu),
  (120779, .Ll), (120780, .Cn), (120782, .Nd), (120832, .So), (121344, .Mn), (121399, .So),
  (121403, .Mn), (121453, .So), (121461, .Mn), (121462, .So), (121476, .Mn), (121477, .So),
  (121479, .Po), (121484, .Cn), (121499, .Mn), (121504, .Cn), (121505, .Mn), (121520, .Cn),
  (122624, .Ll), (122634, .Lo), (122635, .Ll), (122655, .Cn), (122661, .Ll), (122667, .Cn),
  (122880, .Mn), (122887, .Cn), (122888, .Mn), (122905, .Cn), (122907, .Mn), (122914, .Cn),
  (122915, .Mn), (122917, .Cn), (122918, .Mn), (122923, .Cn), (122928, .Lm), (122990, .Cn),
  (123023, .Mn), (123024, .Cn), (123136, .Lo), (123181, .Cn), (123184, .Mn), (123191, .Lm),
  (123198, .Cn), (123200, .Nd), (123210, .Cn), (123214, .Lo), (123215, .So), (123216, .Cn),
  (123536, .Lo), (123566, .Mn), (123567, .Cn), (123584, .Lo), (123628, .Mn), (123632, .Nd),
  (123642, .Cn), (123647, .Sc), (123648, .Cn), (124112, .Lo), (124139, .Lm), (124140, .Mn),
  (124144, .Nd), (124154, .Cn), (124896, .Lo), (124903, .Cn), (124904, .Lo), (124908, .Cn),
  (124909, .Lo), (124911, .Cn), (124912, .Lo), (124927, .Cn), (124928, .Lo), (125125, .Cn),
  (125127, .No), (125136, .Mn), (125143, .Cn), (125184, .Lu), (125218, .Ll), (125252, .Mn),
  (125259, .Lm), (125260, .Cn), (125264, .Nd), (125274, .Cn), (125278, .Po), (125280, .Cn),
  (126065, .No), (126124, .So), (126125, .No), (126128, .Sc), (126129, .No), (126133, .Cn),
  (126209, .No), (126254, .So), (126255, .No), (126270, .Cn), (126464, .Lo), (126468, .Cn),
  (126469, .Lo), (126496, .Cn), (126497, .Lo), (126499, .Cn), (126500, .Lo), (126501, .Cn),
  (126503, .Lo), (126504, .Cn), (126505, .Lo), (126515, .Cn), (126516, .Lo), (126520, .Cn),
  (126521, .Lo), (126522, .Cn), (126523, .Lo), (126524, .Cn), (126530, .Lo), (126531, .Cn),
  (126535, .Lo), (126536, .Cn), (126537, .Lo), (126538, .Cn), (126539, .Lo), (126540, .Cn),
  (126541, .Lo), (126544, .Cn), (126545, .Lo), (126547, .Cn), (126548, .Lo), (126549, .Cn),
  (126551, .Lo), (126552, .Cn), (126553, .Lo), (126554, .Cn), (126555, .Lo), (126556, .Cn),
  (126557, .Lo), (126558, .Cn), (126559, .Lo), (126560, .Cn), (126561, .Lo), (126563, .Cn),
  (126564, .Lo), (126565, .Cn), (126567, .Lo), (126571, .Cn), (126572, .Lo), (126579, .Cn),
  (126580, .Lo), (126584, .Cn), (126585, .Lo), (126589, .Cn), (126590, .Lo), (126591, .Cn),
  (126592, .Lo), (126602, .Cn), (126603, .Lo), (126620, .Cn), (126625, .Lo), (126628, .Cn),
  (126629, .Lo), (126634, .Cn), (126635, .Lo), (126652, .Cn), (126704, .Sm), (126706, .Cn),
  (126976, .So), (127020, .Cn), (127024, .So), (127124, .Cn), (127136, .So), (127151, .Cn),
  (127153, .So), (127168, .Cn), (127169, .So), (127184, .Cn), (127185, .So), (127222, .Cn),
  (127232, .No), (127245, .So), (127406, .Cn), (127462, .So), (127491, .Cn), (127504, .So),
  (127548, .Cn), (127552, .So), (127561, .Cn), (127568, .So), (127570, .Cn), (127584, .So),
  (127590, .Cn), (127744, .So), (127995, .Sk), (128000, .So), (128728, .Cn), (128732, .So),
  (128749, .Cn), (128752, .So), (128765, .Cn), (128768, .So), (128887, .Cn), (128891, .So),
  (128986, .Cn), (128992, .So), (129004, .Cn), (129008, .So), (129009, .Cn), (129024, .So),
  (129036, .Cn), (129040, .So), (129096, .Cn), (129104, .So), (129114, .Cn), (129120, .So),
  (129160, .Cn), (129168, .So), (129198, .Cn), (129200, .So), (129202, .Cn), (129280, .So),
  (129620, .Cn), (129632, .So), (129646, .Cn), (129648, .So), (129661, .Cn), (129664, .So),
  (129673, .Cn), (129680, .So), (129726, .Cn), (129727, .So), (129734, .Cn), (129742, .So),
  (129756, .Cn), (129760, .So), (129769, .Cn), (129776, .So), (129785, .Cn), (129792, .So),
  (129939, .Cn), (129940, .So), (129995, .Cn), (130032, .Nd), (130042, .Cn), (131072, .Lo),
  (173792, .Cn), (173824, .Lo), (177978, .Cn), (177984, .Lo), (178206, .Cn), (178208, .Lo),
  (183970, .Cn), (183984, .Lo), (191457, .Cn), (194560, .Lo), (195102, .Cn), (196608, .Lo),
  (201547, .Cn), (201552, .Lo), (205744, .Cn), (917505, .Cf), (917506, .Cn), (917536, .Cf),
  (917632, .Cn), (917760, .Mn), (918000, .Cn), (983040, .Co), (1048574, .Cn), (1048576, .Co),
  (1114110, .Cn), (1114112, .Cn)]

end FeatureDocs.Text
