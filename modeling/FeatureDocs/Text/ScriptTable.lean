/-!
# Script and property tables

The scripts of Unicode 15.0 and a few binary properties, for the class escapes of patterns.
Scripts are kept as the first code point of each run of equal script with the index of the
script in `scriptNames`, which also lists the names a pattern may use for it, made loose
(lowercase, without spaces, underscores and hyphens).

* `scriptNames`, `scriptRuns`;
* `uppercaseRanges`, `lowercaseRanges`, `emojiRanges`, `mathRanges`, `hexDigitRanges`,
  `dashRanges`, `ideographicRanges`: the binary properties of the same names.
-/

namespace FeatureDocs.Text

set_option maxRecDepth 40000

/-- Each script with its loose names, in the order of their indices. -/
def scriptNames : Array (String × List String) := #[
  ("Common", ["zyyy", "common"]),
  ("Latin", ["latn", "latin"]),
  ("Bopomofo", ["bopo", "bopomofo"]),
  ("Inherited", ["zinh", "inherited", "qaai"]),
  ("Greek", ["grek", "greek"]),
  ("Unknown", ["zzzz", "unknown"]),
  ("Coptic", ["copt", "coptic", "qaac"]),
  ("Cyrillic", ["cyrl", "cyrillic"]),
  ("Armenian", ["armn", "armenian"]),
  ("Hebrew", ["hebr", "hebrew"]),
  ("Arabic", ["arab", "arabic"]),
  ("Syriac", ["syrc", "syriac"]),
  ("Thaana", ["thaa", "thaana"]),
  ("Nko", ["nkoo", "nko"]),
  ("Samaritan", ["samr", "samaritan"]),
  ("Mandaic", ["mand", "mandaic"]),
  ("Devanagari", ["deva", "devanagari"]),
  ("Bengali", ["beng", "bengali"]),
  ("Gurmukhi", ["guru", "gurmukhi"]),
  ("Gujarati", ["gujr", "gujarati"]),
  ("Oriya", ["orya", "oriya"]),
  ("Tamil", ["taml", "tamil"]),
  ("Telugu", ["telu", "telugu"]),
  ("Kannada", ["knda", "kannada"]),
  ("Malayalam", ["mlym", "malayalam"]),
  ("Sinhala", ["sinh", "sinhala"]),
  ("Thai", ["thai"]),
  ("Lao", ["laoo", "lao"]),
  ("Tibetan", ["tibt", "tibetan"]),
  ("Myanmar", ["mymr", "myanmar"]),
  ("Georgian", ["geor", "georgian"]),
  ("Hangul", ["hang", "hangul"]),
  ("Ethiopic", ["ethi", "ethiopic"]),
  ("Cherokee", ["cher", "cherokee"]),
  ("Canadian_Aboriginal", ["cans", "canadianaboriginal"]),
  ("Ogham", ["ogam", "ogham"]),
  ("Runic", ["runr", "runic"]),
  ("Tagalog", ["tglg", "tagalog"]),
  ("Hanunoo", ["hano", "hanunoo"]),
  ("Buhid", ["buhd", "buhid"]),
  ("Tagbanwa", ["tagb", "tagbanwa"]),
  ("Khmer", ["khmr", "khmer"]),
  ("Mongolian", ["mong", "mongolian"]),
  ("Limbu", ["limb", "limbu"]),
  ("Tai_Le", ["tale", "taile"]),
  ("New_Tai_Lue", ["talu", "newtailue"]),
  ("Buginese", ["bugi", "buginese"]),
  ("Tai_Tham", ["lana", "taitham"]),
  ("Balinese", ["bali", "balinese"]),
  ("Sundanese", ["sund", "sundanese"]),
  ("Batak", ["batk", "batak"]),
  ("Lepcha", ["lepc", "lepcha"]),
  ("Ol_Chiki", ["olck", "olchiki"]),
  ("Braille", ["brai", "braille"]),
  ("Glagolitic", ["glag", "glagolitic"]),
  ("Tifinagh", ["tfng", "tifinagh"]),
  ("Han", ["hani", "han"]),
  ("Hiragana", ["hira", "hiragana"]),
  ("Katakana", ["kana", "katakana"]),
  ("Yi", ["yiii", "yi"]),
  ("Lisu", ["lisu"]),
  ("Vai", ["vaii", "vai"]),
  ("Bamum", ["bamu", "bamum"]),
  ("Syloti_Nagri", ["sylo", "sylotinagri"]),
  ("Phags_Pa", ["phag", "phagspa"]),
  ("Saurashtra", ["saur", "saurashtra"]),
  ("Kayah_Li", ["kali", "kayahli"]),
  ("Rejang", ["rjng", "rejang"]),
  ("Javanese", ["java", "javanese"]),
  ("Cham", ["cham"]),
  ("Tai_Viet", ["tavt", "taiviet"]),
  ("Meetei_Mayek", ["mtei", "meeteimayek"]),
  ("Linear_B", ["linb", "linearb"]),
  ("Lycian", ["lyci", "lycian"]),
  ("Carian", ["cari", "carian"]),
  ("Old_Italic", ["ital", "olditalic"]),
  ("Gothic", ["goth", "gothic"]),
  ("Old_Permic", ["perm", "oldpermic"]),
  ("Ugaritic", ["ugar", "ugaritic"]),
  ("Old_Persian", ["xpeo", "oldpersian"]),
  ("Deseret", ["dsrt", "deseret"]),
  ("Shavian", ["shaw", "shavian"]),
  ("Osmanya", ["osma", "osmanya"]),
  ("Osage", ["osge", "osage"]),
  ("Elbasan", ["elba", "elbasan"]),
  ("Caucasian_Albanian", ["aghb", "caucasianalbanian"]),
  ("Vithkuqi", ["vith", "vithkuqi"]),
  ("Linear_A", ["lina", "lineara"]),
  ("Cypriot", ["cprt", "cypriot"]),
  ("Imperial_Aramaic", ["armi", "imperialaramaic"]),
  ("Palmyrene", ["palm", "palmyrene"]),
  ("Nabataean", ["nbat", "nabataean"]),
  ("Hatran", ["hatr", "hatran"]),
  ("Phoenician", ["phnx", "phoenician"]),
  ("Lydian", ["lydi", "lydian"]),
  ("Meroitic_Hieroglyphs", ["mero", "meroitichieroglyphs"]),
  ("Meroitic_Cursive", ["merc", "meroiticcursive"]),
  ("Kharoshthi", ["khar", "kharoshthi"]),
  ("Old_South_Arabian", ["sarb", "oldsoutharabian"]),
  ("Old_North_Arabian", ["narb", "oldnortharabian"]),
  ("Manichaean", ["mani", "manichaean"]),
  ("Avestan", ["avst", "avestan"]),
  ("Inscriptional_Parthian", ["prti", "inscriptionalparthian"]),
  ("Inscriptional_Pahlavi", ["phli", "inscriptionalpahlavi"]),
  ("Psalter_Pahlavi", ["phlp", "psalterpahlavi"]),
  ("Old_Turkic", ["orkh", "oldturkic"]),
  ("Old_Hungarian", ["hung", "oldhungarian"]),
  ("Hanifi_Rohingya", ["rohg", "hanifirohingya"]),
  ("Yezidi", ["yezi", "yezidi"]),
  ("Old_Sogdian", ["sogo", "oldsogdian"]),
  ("Sogdian", ["sogd", "sogdian"]),
  ("Old_Uyghur", ["ougr", "olduyghur"]),
  ("Chorasmian", ["chrs", "chorasmian"]),
  ("Elymaic", ["elym", "elymaic"]),
  ("Brahmi", ["brah", "brahmi"]),
  ("Kaithi", ["kthi", "kaithi"]),
  ("Sora_Sompeng", ["sora", "sorasompeng"]),
  ("Chakma", ["cakm", "chakma"]),
  ("Mahajani", ["mahj", "mahajani"]),
  ("Sharada", ["shrd", "sharada"]),
  ("Khojki", ["khoj", "khojki"]),
  ("Multani", ["mult", "multani"]),
  ("Khudawadi", ["sind", "khudawadi"]),
  ("Grantha", ["gran", "grantha"]),
  ("Newa", ["newa"]),
  ("Tirhuta", ["tirh", "tirhuta"]),
  ("Siddham", ["sidd", "siddham"]),
  ("Modi", ["modi"]),
  ("Takri", ["takr", "takri"]),
  ("Ahom", ["ahom"]),
  ("Dogra", ["dogr", "dogra"]),
  ("Warang_Citi", ["wara", "warangciti"]),
  ("Dives_Akuru", ["diak", "divesakuru"]),
  ("Nandinagari", ["nand", "nandinagari"]),
  ("Zanabazar_Square", ["zanb", "zanabazarsquare"]),
  ("Soyombo", ["soyo", "soyombo"]),
  ("Pau_Cin_Hau", ["pauc", "paucinhau"]),
  ("Bhaiksuki", ["bhks", "bhaiksuki"]),
  ("Marchen", ["marc", "marchen"]),
  ("Masaram_Gondi", ["gonm", "masaramgondi"]),
  ("Gunjala_Gondi", ["gong", "gunjalagondi"]),
  ("Makasar", ["maka", "makasar"]),
  ("Kawi", ["kawi"]),
  ("Cuneiform", ["xsux", "cuneiform"]),
  ("Cypro_Minoan", ["cpmn", "cyprominoan"]),
  ("Egyptian_Hieroglyphs", ["egyp", "egyptianhieroglyphs"]),
  ("Anatolian_Hieroglyphs", ["hluw", "anatolianhieroglyphs"]),
  ("Mro", ["mroo", "mro"]),
  ("Tangsa", ["tnsa", "tangsa"]),
  ("Bassa_Vah", ["bass", "bassavah"]),
  ("Pahawh_Hmong", ["hmng", "pahawhhmong"]),
  ("Medefaidrin", ["medf", "medefaidrin"]),
  ("Miao", ["plrd", "miao"]),
  ("Tangut", ["tang", "tangut"]),
  ("Nushu", ["nshu", "nushu"]),
  ("Khitan_Small_Script", ["kits", "khitansmallscript"]),
  ("Duployan", ["dupl", "duployan"]),
  ("SignWriting", ["sgnw", "signwriting"]),
  ("Nyiakeng_Puachue_Hmong", ["hmnp", "nyiakengpuachuehmong"]),
  ("Toto", ["toto"]),
  ("Wancho", ["wcho", "wancho"]),
  ("Nag_Mundari", ["nagm", "nagmundari"]),
  ("Mende_Kikakui", ["mend", "mendekikakui"]),
  ("Adlam", ["adlm", "adlam"])]

/-- The script of each run of code points: its first code point and the script's index. -/
def scriptRuns : Array (Nat × Nat) := #[
  (0, 0), (65, 1), (91, 0), (97, 1), (123, 0), (170, 1), (171, 0), (186, 1), (187, 0), (192, 1), 
  (215, 0), (216, 1), (247, 0), (248, 1), (697, 0), (736, 1), (741, 0), (746, 2), (748, 0), 
  (768, 3), (880, 4), (884, 0), (885, 4), (888, 5), (890, 4), (894, 0), (895, 4), (896, 5), 
  (900, 4), (901, 0), (902, 4), (903, 0), (904, 4), (907, 5), (908, 4), (909, 5), (910, 4), 
  (930, 5), (931, 4), (994, 6), (1008, 4), (1024, 7), (1157, 3), (1159, 7), (1328, 5), 
  (1329, 8), (1367, 5), (1369, 8), (1419, 5), (1421, 8), (1424, 5), (1425, 9), (1480, 5), 
  (1488, 9), (1515, 5), (1519, 9), (1525, 5), (1536, 10), (1541, 0), (1542, 10), (1548, 0), 
  (1549, 10), (1563, 0), (1564, 10), (1567, 0), (1568, 10), (1600, 0), (1601, 10), (1611, 3), 
  (1622, 10), (1648, 3), (1649, 10), (1757, 0), (1758, 10), (1792, 11), (1806, 5), (1807, 11), 
  (1867, 5), (1869, 11), (1872, 10), (1920, 12), (1970, 5), (1984, 13), (2043, 5), (2045, 13), 
  (2048, 14), (2094, 5), (2096, 14), (2111, 5), (2112, 15), (2140, 5), (2142, 15), (2143, 5), 
  (2144, 11), (2155, 5), (2160, 10), (2191, 5), (2192, 10), (2194, 5), (2200, 10), (2274, 0), 
  (2275, 10), (2304, 16), (2385, 3), (2389, 16), (2404, 0), (2406, 16), (2432, 17), (2436, 5), 
  (2437, 17), (2445, 5), (2447, 17), (2449, 5), (2451, 17), (2473, 5), (2474, 17), (2481, 5), 
  (2482, 17), (2483, 5), (2486, 17), (2490, 5), (2492, 17), (2501, 5), (2503, 17), (2505, 5), 
  (2507, 17), (2511, 5), (2519, 17), (2520, 5), (2524, 17), (2526, 5), (2527, 17), (2532, 5), 
  (2534, 17), (2559, 5), (2561, 18), (2564, 5), (2565, 18), (2571, 5), (2575, 18), (2577, 5), 
  (2579, 18), (2601, 5), (2602, 18), (2609, 5), (2610, 18), (2612, 5), (2613, 18), (2615, 5), 
  (2616, 18), (2618, 5), (2620, 18), (2621, 5), (2622, 18), (2627, 5), (2631, 18), (2633, 5), 
  (2635, 18), (2638, 5), (2641, 18), (2642, 5), (2649, 18), (2653, 5), (2654, 18), (2655, 5), 
  (2662, 18), (2679, 5), (2689, 19), (2692, 5), (2693, 19), (2702, 5), (2703, 19), (2706, 5), 
  (2707, 19), (2729, 5), (2730, 19), (2737, 5), (2738, 19), (2740, 5), (2741, 19), (2746, 5), 
  (2748, 19), (2758, 5), (2759, 19), (2762, 5), (2763, 19), (2766, 5), (2768, 19), (2769, 5), 
  (2784, 19), (2788, 5), (2790, 19), (2802, 5), (2809, 19), (2816, 5), (2817, 20), (2820, 5), 
  (2821, 20), (2829, 5), (2831, 20), (2833, 5), (2835, 20), (2857, 5), (2858, 20), (2865, 5), 
  (2866, 20), (2868, 5), (2869, 20), (2874, 5), (2876, 20), (2885, 5), (2887, 20), (2889, 5), 
  (2891, 20), (2894, 5), (2901, 20), (2904, 5), (2908, 20), (2910, 5), (2911, 20), (2916, 5), 
  (2918, 20), (2936, 5), (2946, 21), (2948, 5), (2949, 21), (2955, 5), (2958, 21), (2961, 5), 
  (2962, 21), (2966, 5), (2969, 21), (2971, 5), (2972, 21), (2973, 5), (2974, 21), (2976, 5), 
  (2979, 21), (2981, 5), (2984, 21), (2987, 5), (2990, 21), (3002, 5), (3006, 21), (3011, 5), 
  (3014, 21), (3017, 5), (3018, 21), (3022, 5), (3024, 21), (3025, 5), (3031, 21), (3032, 5), 
  (3046, 21), (3067, 5), (3072, 22), (3085, 5), (3086, 22), (3089, 5), (3090, 22), (3113, 5), 
  (3114, 22), (3130, 5), (3132, 22), (3141, 5), (3142, 22), (3145, 5), (3146, 22), (3150, 5), 
  (3157, 22), (3159, 5), (3160, 22), (3163, 5), (3165, 22), (3166, 5), (3168, 22), (3172, 5), 
  (3174, 22), (3184, 5), (3191, 22), (3200, 23), (3213, 5), (3214, 23), (3217, 5), (3218, 23), 
  (3241, 5), (3242, 23), (3252, 5), (3253, 23), (3258, 5), (3260, 23), (3269, 5), (3270, 23), 
  (3273, 5), (3274, 23), (3278, 5), (3285, 23), (3287, 5), (3293, 23), (3295, 5), (3296, 23), 
  (3300, 5), (3302, 23), (3312, 5), (3313, 23), (3316, 5), (3328, 24), (3341, 5), (3342, 24), 
  (3345, 5), (3346, 24), (3397, 5), (3398, 24), (3401, 5), (3402, 24), (3408, 5), (3412, 24), 
  (3428, 5), (3430, 24), (3456, 5), (3457, 25), (3460, 5), (3461, 25), (3479, 5), (3482, 25), 
  (3506, 5), (3507, 25), (3516, 5), (3517, 25), (3518, 5), (3520, 25), (3527, 5), (3530, 25), 
  (3531, 5), (3535, 25), (3541, 5), (3542, 25), (3543, 5), (3544, 25), (3552, 5), (3558, 25), 
  (3568, 5), (3570, 25), (3573, 5), (3585, 26), (3643, 5), (3647, 0), (3648, 26), (3676, 5), 
  (3713, 27), (3715, 5), (3716, 27), (3717, 5), (3718, 27), (3723, 5), (3724, 27), (3748, 5), 
  (3749, 27), (3750, 5), (3751, 27), (3774, 5), (3776, 27), (3781, 5), (3782, 27), (3783, 5), 
  (3784, 27), (3791, 5), (3792, 27), (3802, 5), (3804, 27), (3808, 5), (3840, 28), (3912, 5), 
  (3913, 28), (3949, 5), (3953, 28), (3992, 5), (3993, 28), (4029, 5), (4030, 28), (4045, 5), 
  (4046, 28), (4053, 0), (4057, 28), (4059, 5), (4096, 29), (4256, 30), (4294, 5), (4295, 30), 
  (4296, 5), (4301, 30), (4302, 5), (4304, 30), (4347, 0), (4348, 30), (4352, 31), (4608, 32), 
  (4681, 5), (4682, 32), (4686, 5), (4688, 32), (4695, 5), (4696, 32), (4697, 5), (4698, 32), 
  (4702, 5), (4704, 32), (4745, 5), (4746, 32), (4750, 5), (4752, 32), (4785, 5), (4786, 32), 
  (4790, 5), (4792, 32), (4799, 5), (4800, 32), (4801, 5), (4802, 32), (4806, 5), (4808, 32), 
  (4823, 5), (4824, 32), (4881, 5), (4882, 32), (4886, 5), (4888, 32), (4955, 5), (4957, 32), 
  (4989, 5), (4992, 32), (5018, 5), (5024, 33), (5110, 5), (5112, 33), (5118, 5), (5120, 34), 
  (5760, 35), (5789, 5), (5792, 36), (5867, 0), (5870, 36), (5881, 5), (5888, 37), (5910, 5), 
  (5919, 37), (5920, 38), (5941, 0), (5943, 5), (5952, 39), (5972, 5), (5984, 40), (5997, 5), 
  (5998, 40), (6001, 5), (6002, 40), (6004, 5), (6016, 41), (6110, 5), (6112, 41), (6122, 5), 
  (6128, 41), (6138, 5), (6144, 42), (6146, 0), (6148, 42), (6149, 0), (6150, 42), (6170, 5), 
  (6176, 42), (6265, 5), (6272, 42), (6315, 5), (6320, 34), (6390, 5), (6400, 43), (6431, 5), 
  (6432, 43), (6444, 5), (6448, 43), (6460, 5), (6464, 43), (6465, 5), (6468, 43), (6480, 44), 
  (6510, 5), (6512, 44), (6517, 5), (6528, 45), (6572, 5), (6576, 45), (6602, 5), (6608, 45), 
  (6619, 5), (6622, 45), (6624, 41), (6656, 46), (6684, 5), (6686, 46), (6688, 47), (6751, 5), 
  (6752, 47), (6781, 5), (6783, 47), (6794, 5), (6800, 47), (6810, 5), (6816, 47), (6830, 5), 
  (6832, 3), (6863, 5), (6912, 48), (6989, 5), (6992, 48), (7039, 5), (7040, 49), (7104, 50), 
  (7156, 5), (7164, 50), (7168, 51), (7224, 5), (7227, 51), (7242, 5), (7245, 51), (7248, 52), 
  (7296, 7), (7305, 5), (7312, 30), (7355, 5), (7357, 30), (7360, 49), (7368, 5), (7376, 3), 
  (7379, 0), (7380, 3), (7393, 0), (7394, 3), (7401, 0), (7405, 3), (7406, 0), (7412, 3), 
  (7413, 0), (7416, 3), (7418, 0), (7419, 5), (7424, 1), (7462, 4), (7467, 7), (7468, 1), 
  (7517, 4), (7522, 1), (7526, 4), (7531, 1), (7544, 7), (7545, 1), (7615, 4), (7616, 3), 
  (7680, 1), (7936, 4), (7958, 5), (7960, 4), (7966, 5), (7968, 4), (8006, 5), (8008, 4), 
  (8014, 5), (8016, 4), (8024, 5), (8025, 4), (8026, 5), (8027, 4), (8028, 5), (8029, 4), 
  (8030, 5), (8031, 4), (8062, 5), (8064, 4), (8117, 5), (8118, 4), (8133, 5), (8134, 4), 
  (8148, 5), (8150, 4), (8156, 5), (8157, 4), (8176, 5), (8178, 4), (8181, 5), (8182, 4), 
  (8191, 5), (8192, 0), (8204, 3), (8206, 0), (8293, 5), (8294, 0), (8305, 1), (8306, 5), 
  (8308, 0), (8319, 1), (8320, 0), (8335, 5), (8336, 1), (8349, 5), (8352, 0), (8385, 5), 
  (8400, 3), (8433, 5), (8448, 0), (8486, 4), (8487, 0), (8490, 1), (8492, 0), (8498, 1), 
  (8499, 0), (8526, 1), (8527, 0), (8544, 1), (8585, 0), (8588, 5), (8592, 0), (9255, 5), 
  (9280, 0), (9291, 5), (9312, 0), (10240, 53), (10496, 0), (11124, 5), (11126, 0), (11158, 5), 
  (11159, 0), (11264, 54), (11360, 1), (11392, 6), (11508, 5), (11513, 6), (11520, 30), 
  (11558, 5), (11559, 30), (11560, 5), (11565, 30), (11566, 5), (11568, 55), (11624, 5), 
  (11631, 55), (11633, 5), (11647, 55), (11648, 32), (11671, 5), (11680, 32), (11687, 5), 
  (11688, 32), (11695, 5), (11696, 32), (11703, 5), (11704, 32), (11711, 5), (11712, 32), 
  (11719, 5), (11720, 32), (11727, 5), (11728, 32), (11735, 5), (11736, 32), (11743, 5), 
  (11744, 7), (11776, 0), (11870, 5), (11904, 56), (11930, 5), (11931, 56), (12020, 5), 
  (12032, 56), (12246, 5), (12272, 0), (12284, 5), (12288, 0), (12293, 56), (12294, 0), 
  (12295, 56), (12296, 0), (12321, 56), (12330, 3), (12334, 31), (12336, 0), (12344, 56), 
  (12348, 0), (12352, 5), (12353, 57), (12439, 5), (12441, 3), (12443, 0), (12445, 57), 
  (12448, 0), (12449, 58), (12539, 0), (12541, 58), (12544, 5), (12549, 2), (12592, 5), 
  (12593, 31), (12687, 5), (12688, 0), (12704, 2), (12736, 0), (12772, 5), (12784, 58), 
  (12800, 31), (12831, 5), (12832, 0), (12896, 31), (12927, 0), (13008, 58), (13055, 0), 
  (13056, 58), (13144, 0), (13312, 56), (19904, 0), (19968, 56), (40960, 59), (42125, 5), 
  (42128, 59), (42183, 5), (42192, 60), (42240, 61), (42540, 5), (42560, 7), (42656, 62), 
  (42744, 5), (42752, 0), (42786, 1), (42888, 0), (42891, 1), (42955, 5), (42960, 1), 
  (42962, 5), (42963, 1), (42964, 5), (42965, 1), (42970, 5), (42994, 1), (43008, 63), 
  (43053, 5), (43056, 0), (43066, 5), (43072, 64), (43128, 5), (43136, 65), (43206, 5), 
  (43214, 65), (43226, 5), (43232, 16), (43264, 66), (43310, 0), (43311, 66), (43312, 67), 
  (43348, 5), (43359, 67), (43360, 31), (43389, 5), (43392, 68), (43470, 5), (43471, 0), 
  (43472, 68), (43482, 5), (43486, 68), (43488, 29), (43519, 5), (43520, 69), (43575, 5), 
  (43584, 69), (43598, 5), (43600, 69), (43610, 5), (43612, 69), (43616, 29), (43648, 70), 
  (43715, 5), (43739, 70), (43744, 71), (43767, 5), (43777, 32), (43783, 5), (43785, 32), 
  (43791, 5), (43793, 32), (43799, 5), (43808, 32), (43815, 5), (43816, 32), (43823, 5), 
  (43824, 1), (43867, 0), (43868, 1), (43877, 4), (43878, 1), (43882, 0), (43884, 5), 
  (43888, 33), (43968, 71), (44014, 5), (44016, 71), (44026, 5), (44032, 31), (55204, 5), 
  (55216, 31), (55239, 5), (55243, 31), (55292, 5), (63744, 56), (64110, 5), (64112, 56), 
  (64218, 5), (64256, 1), (64263, 5), (64275, 8), (64280, 5), (64285, 9), (64311, 5), 
  (64312, 9), (64317, 5), (64318, 9), (64319, 5), (64320, 9), (64322, 5), (64323, 9), 
  (64325, 5), (64326, 9), (64336, 10), (64451, 5), (64467, 10), (64830, 0), (64832, 10), 
  (64912, 5), (64914, 10), (64968, 5), (64975, 10), (64976, 5), (65008, 10), (65024, 3), 
  (65040, 0), (65050, 5), (65056, 3), (65070, 7), (65072, 0), (65107, 5), (65108, 0), 
  (65127, 5), (65128, 0), (65132, 5), (65136, 10), (65141, 5), (65142, 10), (65277, 5), 
  (65279, 0), (65280, 5), (65281, 0), (65313, 1), (65339, 0), (65345, 1), (65371, 0), 
  (65382, 58), (65392, 0), (65393, 58), (65438, 0), (65440, 31), (65471, 5), (65474, 31), 
  (65480, 5), (65482, 31), (65488, 5), (65490, 31), (65496, 5), (65498, 31), (65501, 5), 
  (65504, 0), (65511, 5), (65512, 0), (65519, 5), (65529, 0), (65534, 5), (65536, 72), 
  (65548, 5), (65549, 72), (65575, 5), (65576, 72), (65595, 5), (65596, 72), (65598, 5), 
  (65599, 72), (65614, 5), (65616, 72), (65630, 5), (65664, 72), (65787, 5), (65792, 0), 
  (65795, 5), (65799, 0), (65844, 5), (65847, 0), (65856, 4), (65935, 5), (65936, 0), 
  (65949, 5), (65952, 4), (65953, 5), (66000, 0), (66045, 3), (66046, 5), (66176, 73), 
  (66205, 5), (66208, 74), (66257, 5), (66272, 3), (66273, 0), (66300, 5), (66304, 75), 
  (66340, 5), (66349, 75), (66352, 76), (66379, 5), (66384, 77), (66427, 5), (66432, 78), 
  (66462, 5), (66463, 78), (66464, 79), (66500, 5), (66504, 79), (66518, 5), (66560, 80), 
  (66640, 81), (66688, 82), (66718, 5), (66720, 82), (66730, 5), (66736, 83), (66772, 5), 
  (66776, 83), (66812, 5), (66816, 84), (66856, 5), (66864, 85), (66916, 5), (66927, 85), 
  (66928, 86), (66939, 5), (66940, 86), (66955, 5), (66956, 86), (66963, 5), (66964, 86), 
  (66966, 5), (66967, 86), (66978, 5), (66979, 86), (66994, 5), (66995, 86), (67002, 5), 
  (67003, 86), (67005, 5), (67072, 87), (67383, 5), (67392, 87), (67414, 5), (67424, 87), 
  (67432, 5), (67456, 1), (67462, 5), (67463, 1), (67505, 5), (67506, 1), (67515, 5), 
  (67584, 88), (67590, 5), (67592, 88), (67593, 5), (67594, 88), (67638, 5), (67639, 88), 
  (67641, 5), (67644, 88), (67645, 5), (67647, 88), (67648, 89), (67670, 5), (67671, 89), 
  (67680, 90), (67712, 91), (67743, 5), (67751, 91), (67760, 5), (67808, 92), (67827, 5), 
  (67828, 92), (67830, 5), (67835, 92), (67840, 93), (67868, 5), (67871, 93), (67872, 94), 
  (67898, 5), (67903, 94), (67904, 5), (67968, 95), (68000, 96), (68024, 5), (68028, 96), 
  (68048, 5), (68050, 96), (68096, 97), (68100, 5), (68101, 97), (68103, 5), (68108, 97), 
  (68116, 5), (68117, 97), (68120, 5), (68121, 97), (68150, 5), (68152, 97), (68155, 5), 
  (68159, 97), (68169, 5), (68176, 97), (68185, 5), (68192, 98), (68224, 99), (68256, 5), 
  (68288, 100), (68327, 5), (68331, 100), (68343, 5), (68352, 101), (68406, 5), (68409, 101), 
  (68416, 102), (68438, 5), (68440, 102), (68448, 103), (68467, 5), (68472, 103), (68480, 104), 
  (68498, 5), (68505, 104), (68509, 5), (68521, 104), (68528, 5), (68608, 105), (68681, 5), 
  (68736, 106), (68787, 5), (68800, 106), (68851, 5), (68858, 106), (68864, 107), (68904, 5), 
  (68912, 107), (68922, 5), (69216, 10), (69247, 5), (69248, 108), (69290, 5), (69291, 108), 
  (69294, 5), (69296, 108), (69298, 5), (69373, 10), (69376, 109), (69416, 5), (69424, 110), 
  (69466, 5), (69488, 111), (69514, 5), (69552, 112), (69580, 5), (69600, 113), (69623, 5), 
  (69632, 114), (69710, 5), (69714, 114), (69750, 5), (69759, 114), (69760, 115), (69827, 5), 
  (69837, 115), (69838, 5), (69840, 116), (69865, 5), (69872, 116), (69882, 5), (69888, 117), 
  (69941, 5), (69942, 117), (69960, 5), (69968, 118), (70007, 5), (70016, 119), (70112, 5), 
  (70113, 25), (70133, 5), (70144, 120), (70162, 5), (70163, 120), (70210, 5), (70272, 121), 
  (70279, 5), (70280, 121), (70281, 5), (70282, 121), (70286, 5), (70287, 121), (70302, 5), 
  (70303, 121), (70314, 5), (70320, 122), (70379, 5), (70384, 122), (70394, 5), (70400, 123), 
  (70404, 5), (70405, 123), (70413, 5), (70415, 123), (70417, 5), (70419, 123), (70441, 5), 
  (70442, 123), (70449, 5), (70450, 123), (70452, 5), (70453, 123), (70458, 5), (70459, 3), 
  (70460, 123), (70469, 5), (70471, 123), (70473, 5), (70475, 123), (70478, 5), (70480, 123), 
  (70481, 5), (70487, 123), (70488, 5), (70493, 123), (70500, 5), (70502, 123), (70509, 5), 
  (70512, 123), (70517, 5), (70656, 124), (70748, 5), (70749, 124), (70754, 5), (70784, 125), 
  (70856, 5), (70864, 125), (70874, 5), (71040, 126), (71094, 5), (71096, 126), (71134, 5), 
  (71168, 127), (71237, 5), (71248, 127), (71258, 5), (71264, 42), (71277, 5), (71296, 128), 
  (71354, 5), (71360, 128), (71370, 5), (71424, 129), (71451, 5), (71453, 129), (71468, 5), 
  (71472, 129), (71495, 5), (71680, 130), (71740, 5), (71840, 131), (71923, 5), (71935, 131), 
  (71936, 132), (71943, 5), (71945, 132), (71946, 5), (71948, 132), (71956, 5), (71957, 132), 
  (71959, 5), (71960, 132), (71990, 5), (71991, 132), (71993, 5), (71995, 132), (72007, 5), 
  (72016, 132), (72026, 5), (72096, 133), (72104, 5), (72106, 133), (72152, 5), (72154, 133), 
  (72165, 5), (72192, 134), (72264, 5), (72272, 135), (72355, 5), (72368, 34), (72384, 136), 
  (72441, 5), (72448, 16), (72458, 5), (72704, 137), (72713, 5), (72714, 137), (72759, 5), 
  (72760, 137), (72774, 5), (72784, 137), (72813, 5), (72816, 138), (72848, 5), (72850, 138), 
  (72872, 5), (72873, 138), (72887, 5), (72960, 139), (72967, 5), (72968, 139), (72970, 5), 
  (72971, 139), (73015, 5), (73018, 139), (73019, 5), (73020, 139), (73022, 5), (73023, 139), 
  (73032, 5), (73040, 139), (73050, 5), (73056, 140), (73062, 5), (73063, 140), (73065, 5), 
  (73066, 140), (73103, 5), (73104, 140), (73106, 5), (73107, 140), (73113, 5), (73120, 140), 
  (73130, 5), (73440, 141), (73465, 5), (73472, 142), (73489, 5), (73490, 142), (73531, 5), 
  (73534, 142), (73562, 5), (73648, 60), (73649, 5), (73664, 21), (73714, 5), (73727, 21), 
  (73728, 143), (74650, 5), (74752, 143), (74863, 5), (74864, 143), (74869, 5), (74880, 143), 
  (75076, 5), (77712, 144), (77811, 5), (77824, 145), (78934, 5), (82944, 146), (83527, 5), 
  (92160, 62), (92729, 5), (92736, 147), (92767, 5), (92768, 147), (92778, 5), (92782, 147), 
  (92784, 148), (92863, 5), (92864, 148), (92874, 5), (92880, 149), (92910, 5), (92912, 149), 
  (92918, 5), (92928, 150), (92998, 5), (93008, 150), (93018, 5), (93019, 150), (93026, 5), 
  (93027, 150), (93048, 5), (93053, 150), (93072, 5), (93760, 151), (93851, 5), (93952, 152), 
  (94027, 5), (94031, 152), (94088, 5), (94095, 152), (94112, 5), (94176, 153), (94177, 154), 
  (94178, 56), (94180, 155), (94181, 5), (94192, 56), (94194, 5), (94208, 153), (100344, 5), 
  (100352, 153), (101120, 155), (101590, 5), (101632, 153), (101641, 5), (110576, 58), 
  (110580, 5), (110581, 58), (110588, 5), (110589, 58), (110591, 5), (110592, 58), (110593, 57), 
  (110880, 58), (110883, 5), (110898, 57), (110899, 5), (110928, 57), (110931, 5), (110933, 58), 
  (110934, 5), (110948, 58), (110952, 5), (110960, 154), (111356, 5), (113664, 156), 
  (113771, 5), (113776, 156), (113789, 5), (113792, 156), (113801, 5), (113808, 156), 
  (113818, 5), (113820, 156), (113824, 0), (113828, 5), (118528, 3), (118574, 5), (118576, 3), 
  (118599, 5), (118608, 0), (118724, 5), (118784, 0), (119030, 5), (119040, 0), (119079, 5), 
  (119081, 0), (119143, 3), (119146, 0), (119163, 3), (119171, 0), (119173, 3), (119180, 0), 
  (119210, 3), (119214, 0), (119275, 5), (119296, 4), (119366, 5), (119488, 0), (119508, 5), 
  (119520, 0), (119540, 5), (119552, 0), (119639, 5), (119648, 0), (119673, 5), (119808, 0), 
  (119893, 5), (119894, 0), (119965, 5), (119966, 0), (119968, 5), (119970, 0), (119971, 5), 
  (119973, 0), (119975, 5), (119977, 0), (119981, 5), (119982, 0), (119994, 5), (119995, 0), 
  (119996, 5), (119997, 0), (120004, 5), (120005, 0), (120070, 5), (120071, 0), (120075, 5), 
  (120077, 0), (120085, 5), (120086, 0), (120093, 5), (120094, 0), (120122, 5), (120123, 0), 
  (120127, 5), (120128, 0), (120133, 5), (120134, 0), (120135, 5), (120138, 0), (120145, 5), 
  (120146, 0), (120486, 5), (120488, 0), (120780, 5), (120782, 0), (120832, 157), (121484, 5), 
  (121499, 157), (121504, 5), (121505, 157), (121520, 5), (122624, 1), (122655, 5), (122661, 1), 
  (122667, 5), (122880, 54), (122887, 5), (122888, 54), (122905, 5), (122907, 54), (122914, 5), 
  (122915, 54), (122917, 5), (122918, 54), (122923, 5), (122928, 7), (122990, 5), (123023, 7), 
  (123024, 5), (123136, 158), (123181, 5), (123184, 158), (123198, 5), (123200, 158), 
  (123210, 5), (123214, 158), (123216, 5), (123536, 159), (123567, 5), (123584, 160), 
  (123642, 5), (123647, 160), (123648, 5), (124112, 161), (124154, 5), (124896, 32), 
  (124903, 5), (124904, 32), (124908, 5), (124909, 32), (124911, 5), (124912, 32), (124927, 5), 
  (124928, 162), (125125, 5), (125127, 162), (125143, 5), (125184, 163), (125260, 5), 
  (125264, 163), (125274, 5), (125278, 163), (125280, 5), (126065, 0), (126133, 5), (126209, 0), 
  (126270, 5), (126464, 10), (126468, 5), (126469, 10), (126496, 5), (126497, 10), (126499, 5), 
  (126500, 10), (126501, 5), (126503, 10), (126504, 5), (126505, 10), (126515, 5), (126516, 10), 
  (126520, 5), (126521, 10), (126522, 5), (126523, 10), (126524, 5), (126530, 10), (126531, 5), 
  (126535, 10), (126536, 5), (126537, 10), (126538, 5), (126539, 10), (126540, 5), (126541, 10), 
  (126544, 5), (126545, 10), (126547, 5), (126548, 10), (126549, 5), (126551, 10), (126552, 5), 
  (126553, 10), (126554, 5), (126555, 10), (126556, 5), (126557, 10), (126558, 5), (126559, 10), 
  (126560, 5), (126561, 10), (126563, 5), (126564, 10), (126565, 5), (126567, 10), (126571, 5), 
  (126572, 10), (126579, 5), (126580, 10), (126584, 5), (126585, 10), (126589, 5), (126590, 10), 
  (126591, 5), (126592, 10), (126602, 5), (126603, 10), (126620, 5), (126625, 10), (126628, 5), 
  (126629, 10), (126634, 5), (126635, 10), (126652, 5), (126704, 10), (126706, 5), (126976, 0), 
  (127020, 5), (127024, 0), (127124, 5), (127136, 0), (127151, 5), (127153, 0), (127168, 5), 
  (127169, 0), (127184, 5), (127185, 0), (127222, 5), (127232, 0), (127406, 5), (127462, 0), 
  (127488, 57), (127489, 0), (127491, 5), (127504, 0), (127548, 5), (127552, 0), (127561, 5), 
  (127568, 0), (127570, 5), (127584, 0), (127590, 5), (127744, 0), (128728, 5), (128732, 0), 
  (128749, 5), (128752, 0), (128765, 5), (128768, 0), (128887, 5), (128891, 0), (128986, 5), 
  (128992, 0), (129004, 5), (129008, 0), (129009, 5), (129024, 0), (129036, 5), (129040, 0), 
  (129096, 5), (129104, 0), (129114, 5), (129120, 0), (129160, 5), (129168, 0), (129198, 5), 
  (129200, 0), (129202, 5), (129280, 0), (129620, 5), (129632, 0), (129646, 5), (129648, 0), 
  (129661, 5), (129664, 0), (129673, 5), (129680, 0), (129726, 5), (129727, 0), (129734, 5), 
  (129742, 0), (129756, 5), (129760, 0), (129769, 5), (129776, 0), (129785, 5), (129792, 0), 
  (129939, 5), (129940, 0), (129995, 5), (130032, 0), (130042, 5), (131072, 56), (173792, 5), 
  (173824, 56), (177978, 5), (177984, 56), (178206, 5), (178208, 56), (183970, 5), (183984, 56), 
  (191457, 5), (194560, 56), (195102, 5), (196608, 56), (201547, 5), (201552, 56), (205744, 5), 
  (917505, 0), (917506, 5), (917536, 0), (917632, 5), (917760, 3), (918000, 5), (1114112, 5)]

/-- The Uppercase property. -/
def uppercaseRanges : Array (Nat × Nat) := #[
  (65, 90), (192, 214), (216, 222), (256, 256), (258, 258), (260, 260), (262, 262), (264, 264), 
  (266, 266), (268, 268), (270, 270), (272, 272), (274, 274), (276, 276), (278, 278), 
  (280, 280), (282, 282), (284, 284), (286, 286), (288, 288), (290, 290), (292, 292), 
  (294, 294), (296, 296), (298, 298), (300, 300), (302, 302), (304, 304), (306, 306), 
  (308, 308), (310, 310), (313, 313), (315, 315), (317, 317), (319, 319), (321, 321), 
  (323, 323), (325, 325), (327, 327), (330, 330), (332, 332), (334, 334), (336, 336), 
  (338, 338), (340, 340), (342, 342), (344, 344), (346, 346), (348, 348), (350, 350), 
  (352, 352), (354, 354), (356, 356), (358, 358), (360, 360), (362, 362), (364, 364), 
  (366, 366), (368, 368), (370, 370), (372, 372), (374, 374), (376, 377), (379, 379), 
  (381, 381), (385, 386), (388, 388), (390, 391), (393, 395), (398, 401), (403, 404), 
  (406, 408), (412, 413), (415, 416), (418, 418), (420, 420), (422, 423), (425, 425), 
  (428, 428), (430, 431), (433, 435), (437, 437), (439, 440), (444, 444), (452, 452), 
  (455, 455), (458, 458), (461, 461), (463, 463), (465, 465), (467, 467), (469, 469), 
  (471, 471), (473, 473), (475, 475), (478, 478), (480, 480), (482, 482), (484, 484), 
  (486, 486), (488, 488), (490, 490), (492, 492), (494, 494), (497, 497), (500, 500), 
  (502, 504), (506, 506), (508, 508), (510, 510), (512, 512), (514, 514), (516, 516), 
  (518, 518), (520, 520), (522, 522), (524, 524), (526, 526), (528, 528), (530, 530), 
  (532, 532), (534, 534), (536, 536), (538, 538), (540, 540), (542, 542), (544, 544), 
  (546, 546), (548, 548), (550, 550), (552, 552), (554, 554), (556, 556), (558, 558), 
  (560, 560), (562, 562), (570, 571), (573, 574), (577, 577), (579, 582), (584, 584), 
  (586, 586), (588, 588), (590, 590), (880, 880), (882, 882), (886, 886), (895, 895), 
  (902, 902), (904, 906), (908, 908), (910, 911), (913, 929), (931, 939), (975, 975), 
  (978, 980), (984, 984), (986, 986), (988, 988), (990, 990), (992, 992), (994, 994), 
  (996, 996), (998, 998), (1000, 1000), (1002, 1002), (1004, 1004), (1006, 1006), (1012, 1012), 
  (1015, 1015), (1017, 1018), (1021, 1071), (1120, 1120), (1122, 1122), (1124, 1124), 
  (1126, 1126), (1128, 1128), (1130, 1130), (1132, 1132), (1134, 1134), (1136, 1136), 
  (1138, 1138), (1140, 1140), (1142, 1142), (1144, 1144), (1146, 1146), (1148, 1148), 
  (1150, 1150), (1152, 1152), (1162, 1162), (1164, 1164), (1166, 1166), (1168, 1168), 
  (1170, 1170), (1172, 1172), (1174, 1174), (1176, 1176), (1178, 1178), (1180, 1180), 
  (1182, 1182), (1184, 1184), (1186, 1186), (1188, 1188), (1190, 1190), (1192, 1192), 
  (1194, 1194), (1196, 1196), (1198, 1198), (1200, 1200), (1202, 1202), (1204, 1204), 
  (1206, 1206), (1208, 1208), (1210, 1210), (1212, 1212), (1214, 1214), (1216, 1217), 
  (1219, 1219), (1221, 1221), (1223, 1223), (1225, 1225), (1227, 1227), (1229, 1229), 
  (1232, 1232), (1234, 1234), (1236, 1236), (1238, 1238), (1240, 1240), (1242, 1242), 
  (1244, 1244), (1246, 1246), (1248, 1248), (1250, 1250), (1252, 1252), (1254, 1254), 
  (1256, 1256), (1258, 1258), (1260, 1260), (1262, 1262), (1264, 1264), (1266, 1266), 
  (1268, 1268), (1270, 1270), (1272, 1272), (1274, 1274), (1276, 1276), (1278, 1278), 
  (1280, 1280), (1282, 1282), (1284, 1284), (1286, 1286), (1288, 1288), (1290, 1290), 
  (1292, 1292), (1294, 1294), (1296, 1296), (1298, 1298), (1300, 1300), (1302, 1302), 
  (1304, 1304), (1306, 1306), (1308, 1308), (1310, 1310), (1312, 1312), (1314, 1314), 
  (1316, 1316), (1318, 1318), (1320, 1320), (1322, 1322), (1324, 1324), (1326, 1326), 
  (1329, 1366), (4256, 4293), (4295, 4295), (4301, 4301), (5024, 5109), (7312, 7354), 
  (7357, 7359), (7680, 7680), (7682, 7682), (7684, 7684), (7686, 7686), (7688, 7688), 
  (7690, 7690), (7692, 7692), (7694, 7694), (7696, 7696), (7698, 7698), (7700, 7700), 
  (7702, 7702), (7704, 7704), (7706, 7706), (7708, 7708), (7710, 7710), (7712, 7712), 
  (7714, 7714), (7716, 7716), (7718, 7718), (7720, 7720), (7722, 7722), (7724, 7724), 
  (7726, 7726), (7728, 7728), (7730, 7730), (7732, 7732), (7734, 7734), (7736, 7736), 
  (7738, 7738), (7740, 7740), (7742, 7742), (7744, 7744), (7746, 7746), (7748, 7748), 
  (7750, 7750), (7752, 7752), (7754, 7754), (7756, 7756), (7758, 7758), (7760, 7760), 
  (7762, 7762), (7764, 7764), (7766, 7766), (7768, 7768), (7770, 7770), (7772, 7772), 
  (7774, 7774), (7776, 7776), (7778, 7778), (7780, 7780), (7782, 7782), (7784, 7784), 
  (7786, 7786), (7788, 7788), (7790, 7790), (7792, 7792), (7794, 7794), (7796, 7796), 
  (7798, 7798), (7800, 7800), (7802, 7802), (7804, 7804), (7806, 7806), (7808, 7808), 
  (7810, 7810), (7812, 7812), (7814, 7814), (7816, 7816), (7818, 7818), (7820, 7820), 
  (7822, 7822), (7824, 7824), (7826, 7826), (7828, 7828), (7838, 7838), (7840, 7840), 
  (7842, 7842), (7844, 7844), (7846, 7846), (7848, 7848), (7850, 7850), (7852, 7852), 
  (7854, 7854), (7856, 7856), (7858, 7858), (7860, 7860), (7862, 7862), (7864, 7864), 
  (7866, 7866), (7868, 7868), (7870, 7870), (7872, 7872), (7874, 7874), (7876, 7876), 
  (7878, 7878), (7880, 7880), (7882, 7882), (7884, 7884), (7886, 7886), (7888, 7888), 
  (7890, 7890), (7892, 7892), (7894, 7894), (7896, 7896), (7898, 7898), (7900, 7900), 
  (7902, 7902), (7904, 7904), (7906, 7906), (7908, 7908), (7910, 7910), (7912, 7912), 
  (7914, 7914), (7916, 7916), (7918, 7918), (7920, 7920), (7922, 7922), (7924, 7924), 
  (7926, 7926), (7928, 7928), (7930, 7930), (7932, 7932), (7934, 7934), (7944, 7951), 
  (7960, 7965), (7976, 7983), (7992, 7999), (8008, 8013), (8025, 8025), (8027, 8027), 
  (8029, 8029), (8031, 8031), (8040, 8047), (8120, 8123), (8136, 8139), (8152, 8155), 
  (8168, 8172), (8184, 8187), (8450, 8450), (8455, 8455), (8459, 8461), (8464, 8466), 
  (8469, 8469), (8473, 8477), (8484, 8484), (8486, 8486), (8488, 8488), (8490, 8493), 
  (8496, 8499), (8510, 8511), (8517, 8517), (8544, 8559), (8579, 8579), (9398, 9423), 
  (11264, 11311), (11360, 11360), (11362, 11364), (11367, 11367), (11369, 11369), 
  (11371, 11371), (11373, 11376), (11378, 11378), (11381, 11381), (11390, 11392), 
  (11394, 11394), (11396, 11396), (11398, 11398), (11400, 11400), (11402, 11402), 
  (11404, 11404), (11406, 11406), (11408, 11408), (11410, 11410), (11412, 11412), 
  (11414, 11414), (11416, 11416), (11418, 11418), (11420, 11420), (11422, 11422), 
  (11424, 11424), (11426, 11426), (11428, 11428), (11430, 11430), (11432, 11432), 
  (11434, 11434), (11436, 11436), (11438, 11438), (11440, 11440), (11442, 11442), 
  (11444, 11444), (11446, 11446), (11448, 11448), (11450, 11450), (11452, 11452), 
  (11454, 11454), (11456, 11456), (11458, 11458), (11460, 11460), (11462, 11462), 
  (11464, 11464), (11466, 11466), (11468, 11468), (11470, 11470), (11472, 11472), 
  (11474, 11474), (11476, 11476), (11478, 11478), (11480, 11480), (11482, 11482), 
  (11484, 11484), (11486, 11486), (11488, 11488), (11490, 11490), (11499, 11499), 
  (11501, 11501), (11506, 11506), (42560, 42560), (42562, 42562), (42564, 42564), 
  (42566, 42566), (42568, 42568), (42570, 42570), (42572, 42572), (42574, 42574), 
  (42576, 42576), (42578, 42578), (42580, 42580), (42582, 42582), (42584, 42584), 
  (42586, 42586), (42588, 42588), (42590, 42590), (42592, 42592), (42594, 42594), 
  (42596, 42596), (42598, 42598), (42600, 42600), (42602, 42602), (42604, 42604), 
  (42624, 42624), (42626, 42626), (42628, 42628), (42630, 42630), (42632, 42632), 
  (42634, 42634), (42636, 42636), (42638, 42638), (42640, 42640), (42642, 42642), 
  (42644, 42644), (42646, 42646), (42648, 42648), (42650, 42650), (42786, 42786), 
  (42788, 42788), (42790, 42790), (42792, 42792), (42794, 42794), (42796, 42796), 
  (42798, 42798), (42802, 42802), (42804, 42804), (42806, 42806), (42808, 42808), 
  (42810, 42810), (42812, 42812), (42814, 42814), (42816, 42816), (42818, 42818), 
  (42820, 42820), (42822, 42822), (42824, 42824), (42826, 42826), (42828, 42828), 
  (42830, 42830), (42832, 42832), (42834, 42834), (42836, 42836), (42838, 42838), 
  (42840, 42840), (42842, 42842), (42844, 42844), (42846, 42846), (42848, 42848), 
  (42850, 42850), (42852, 42852), (42854, 42854), (42856, 42856), (42858, 42858), 
  (42860, 42860), (42862, 42862), (42873, 42873), (42875, 42875), (42877, 42878), 
  (42880, 42880), (42882, 42882), (42884, 42884), (42886, 42886), (42891, 42891), 
  (42893, 42893), (42896, 42896), (42898, 42898), (42902, 42902), (42904, 42904), 
  (42906, 42906), (42908, 42908), (42910, 42910), (42912, 42912), (42914, 42914), 
  (42916, 42916), (42918, 42918), (42920, 42920), (42922, 42926), (42928, 42932), 
  (42934, 42934), (42936, 42936), (42938, 42938), (42940, 42940), (42942, 42942), 
  (42944, 42944), (42946, 42946), (42948, 42951), (42953, 42953), (42960, 42960), 
  (42966, 42966), (42968, 42968), (42997, 42997), (65313, 65338), (66560, 66599), 
  (66736, 66771), (66928, 66938), (66940, 66954), (66956, 66962), (66964, 66965), 
  (68736, 68786), (71840, 71871), (93760, 93791), (119808, 119833), (119860, 119885), 
  (119912, 119937), (119964, 119964), (119966, 119967), (119970, 119970), (119973, 119974), 
  (119977, 119980), (119982, 119989), (120016, 120041), (120068, 120069), (120071, 120074), 
  (120077, 120084), (120086, 120092), (120120, 120121), (120123, 120126), (120128, 120132), 
  (120134, 120134), (120138, 120144), (120172, 120197), (120224, 120249), (120276, 120301), 
  (120328, 120353), (120380, 120405), (120432, 120457), (120488, 120512), (120546, 120570), 
  (120604, 120628), (120662, 120686), (120720, 120744), (120778, 120778), (125184, 125217), 
  (127280, 127305), (127312, 127337), (127344, 127369)]

/-- The Lowercase property. -/
def lowercaseRanges : Array (Nat × Nat) := #[
  (97, 122), (170, 170), (181, 181), (186, 186), (223, 246), (248, 255), (257, 257), (259, 259), 
  (261, 261), (263, 263), (265, 265), (267, 267), (269, 269), (271, 271), (273, 273), 
  (275, 275), (277, 277), (279, 279), (281, 281), (283, 283), (285, 285), (287, 287), 
  (289, 289), (291, 291), (293, 293), (295, 295), (297, 297), (299, 299), (301, 301), 
  (303, 303), (305, 305), (307, 307), (309, 309), (311, 312), (314, 314), (316, 316), 
  (318, 318), (320, 320), (322, 322), (324, 324), (326, 326), (328, 329), (331, 331), 
  (333, 333), (335, 335), (337, 337), (339, 339), (341, 341), (343, 343), (345, 345), 
  (347, 347), (349, 349), (351, 351), (353, 353), (355, 355), (357, 357), (359, 359), 
  (361, 361), (363, 363), (365, 365), (367, 367), (369, 369), (371, 371), (373, 373), 
  (375, 375), (378, 378), (380, 380), (382, 384), (387, 387), (389, 389), (392, 392), 
  (396, 397), (402, 402), (405, 405), (409, 411), (414, 414), (417, 417), (419, 419), 
  (421, 421), (424, 424), (426, 427), (429, 429), (432, 432), (436, 436), (438, 438), 
  (441, 442), (445, 447), (454, 454), (457, 457), (460, 460), (462, 462), (464, 464), 
  (466, 466), (468, 468), (470, 470), (472, 472), (474, 474), (476, 477), (479, 479), 
  (481, 481), (483, 483), (485, 485), (487, 487), (489, 489), (491, 491), (493, 493), 
  (495, 496), (499, 499), (501, 501), (505, 505), (507, 507), (509, 509), (511, 511), 
  (513, 513), (515, 515), (517, 517), (519, 519), (521, 521), (523, 523), (525, 525), 
  (527, 527), (529, 529), (531, 531), (533, 533), (535, 535), (537, 537), (539, 539), 
  (541, 541), (543, 543), (545, 545), (547, 547), (549, 549), (551, 551), (553, 553), 
  (555, 555), (557, 557), (559, 559), (561, 561), (563, 569), (572, 572), (575, 576), 
  (578, 578), (583, 583), (585, 585), (587, 587), (589, 589), (591, 659), (661, 696), 
  (704, 705), (736, 740), (837, 837), (881, 881), (883, 883), (887, 887), (890, 893), 
  (912, 912), (940, 974), (976, 977), (981, 983), (985, 985), (987, 987), (989, 989), 
  (991, 991), (993, 993), (995, 995), (997, 997), (999, 999), (1001, 1001), (1003, 1003), 
  (1005, 1005), (1007, 1011), (1013, 1013), (1016, 1016), (1019, 1020), (1072, 1119), 
  (1121, 1121), (1123, 1123), (1125, 1125), (1127, 1127), (1129, 1129), (1131, 1131), 
  (1133, 1133), (1135, 1135), (1137, 1137), (1139, 1139), (1141, 1141), (1143, 1143), 
  (1145, 1145), (1147, 1147), (1149, 1149), (1151, 1151), (1153, 1153), (1163, 1163), 
  (1165, 1165), (1167, 1167), (1169, 1169), (1171, 1171), (1173, 1173), (1175, 1175), 
  (1177, 1177), (1179, 1179), (1181, 1181), (1183, 1183), (1185, 1185), (1187, 1187), 
  (1189, 1189), (1191, 1191), (1193, 1193), (1195, 1195), (1197, 1197), (1199, 1199), 
  (1201, 1201), (1203, 1203), (1205, 1205), (1207, 1207), (1209, 1209), (1211, 1211), 
  (1213, 1213), (1215, 1215), (1218, 1218), (1220, 1220), (1222, 1222), (1224, 1224), 
  (1226, 1226), (1228, 1228), (1230, 1231), (1233, 1233), (1235, 1235), (1237, 1237), 
  (1239, 1239), (1241, 1241), (1243, 1243), (1245, 1245), (1247, 1247), (1249, 1249), 
  (1251, 1251), (1253, 1253), (1255, 1255), (1257, 1257), (1259, 1259), (1261, 1261), 
  (1263, 1263), (1265, 1265), (1267, 1267), (1269, 1269), (1271, 1271), (1273, 1273), 
  (1275, 1275), (1277, 1277), (1279, 1279), (1281, 1281), (1283, 1283), (1285, 1285), 
  (1287, 1287), (1289, 1289), (1291, 1291), (1293, 1293), (1295, 1295), (1297, 1297), 
  (1299, 1299), (1301, 1301), (1303, 1303), (1305, 1305), (1307, 1307), (1309, 1309), 
  (1311, 1311), (1313, 1313), (1315, 1315), (1317, 1317), (1319, 1319), (1321, 1321), 
  (1323, 1323), (1325, 1325), (1327, 1327), (1376, 1416), (4304, 4346), (4348, 4351), 
  (5112, 5117), (7296, 7304), (7424, 7615), (7681, 7681), (7683, 7683), (7685, 7685), 
  (7687, 7687), (7689, 7689), (7691, 7691), (7693, 7693), (7695, 7695), (7697, 7697), 
  (7699, 7699), (7701, 7701), (7703, 7703), (7705, 7705), (7707, 7707), (7709, 7709), 
  (7711, 7711), (7713, 7713), (7715, 7715), (7717, 7717), (7719, 7719), (7721, 7721), 
  (7723, 7723), (7725, 7725), (7727, 7727), (7729, 7729), (7731, 7731), (7733, 7733), 
  (7735, 7735), (7737, 7737), (7739, 7739), (7741, 7741), (7743, 7743), (7745, 7745), 
  (7747, 7747), (7749, 7749), (7751, 7751), (7753, 7753), (7755, 7755), (7757, 7757), 
  (7759, 7759), (7761, 7761), (7763, 7763), (7765, 7765), (7767, 7767), (7769, 7769), 
  (7771, 7771), (7773, 7773), (7775, 7775), (7777, 7777), (7779, 7779), (7781, 7781), 
  (7783, 7783), (7785, 7785), (7787, 7787), (7789, 7789), (7791, 7791), (7793, 7793), 
  (7795, 7795), (7797, 7797), (7799, 7799), (7801, 7801), (7803, 7803), (7805, 7805), 
  (7807, 7807), (7809, 7809), (7811, 7811), (7813, 7813), (7815, 7815), (7817, 7817), 
  (7819, 7819), (7821, 7821), (7823, 7823), (7825, 7825), (7827, 7827), (7829, 7837), 
  (7839, 7839), (7841, 7841), (7843, 7843), (7845, 7845), (7847, 7847), (7849, 7849), 
  (7851, 7851), (7853, 7853), (7855, 7855), (7857, 7857), (7859, 7859), (7861, 7861), 
  (7863, 7863), (7865, 7865), (7867, 7867), (7869, 7869), (7871, 7871), (7873, 7873), 
  (7875, 7875), (7877, 7877), (7879, 7879), (7881, 7881), (7883, 7883), (7885, 7885), 
  (7887, 7887), (7889, 7889), (7891, 7891), (7893, 7893), (7895, 7895), (7897, 7897), 
  (7899, 7899), (7901, 7901), (7903, 7903), (7905, 7905), (7907, 7907), (7909, 7909), 
  (7911, 7911), (7913, 7913), (7915, 7915), (7917, 7917), (7919, 7919), (7921, 7921), 
  (7923, 7923), (7925, 7925), (7927, 7927), (7929, 7929), (7931, 7931), (7933, 7933), 
  (7935, 7943), (7952, 7957), (7968, 7975), (7984, 7991), (8000, 8005), (8016, 8023), 
  (8032, 8039), (8048, 8061), (8064, 8071), (8080, 8087), (8096, 8103), (8112, 8116), 
  (8118, 8119), (8126, 8126), (8130, 8132), (8134, 8135), (8144, 8147), (8150, 8151), 
  (8160, 8167), (8178, 8180), (8182, 8183), (8305, 8305), (8319, 8319), (8336, 8348), 
  (8458, 8458), (8462, 8463), (8467, 8467), (8495, 8495), (8500, 8500), (8505, 8505), 
  (8508, 8509), (8518, 8521), (8526, 8526), (8560, 8575), (8580, 8580), (9424, 9449), 
  (11312, 11359), (11361, 11361), (11365, 11366), (11368, 11368), (11370, 11370), 
  (11372, 11372), (11377, 11377), (11379, 11380), (11382, 11389), (11393, 11393), 
  (11395, 11395), (11397, 11397), (11399, 11399), (11401, 11401), (11403, 11403), 
  (11405, 11405), (11407, 11407), (11409, 11409), (11411, 11411), (11413, 11413), 
  (11415, 11415), (11417, 11417), (11419, 11419), (11421, 11421), (11423, 11423), 
  (11425, 11425), (11427, 11427), (11429, 11429), (11431, 11431), (11433, 11433), 
  (11435, 11435), (11437, 11437), (11439, 11439), (11441, 11441), (11443, 11443), 
  (11445, 11445), (11447, 11447), (11449, 11449), (11451, 11451), (11453, 11453), 
  (11455, 11455), (11457, 11457), (11459, 11459), (11461, 11461), (11463, 11463), 
  (11465, 11465), (11467, 11467), (11469, 11469), (11471, 11471), (11473, 11473), 
  (11475, 11475), (11477, 11477), (11479, 11479), (11481, 11481), (11483, 11483), 
  (11485, 11485), (11487, 11487), (11489, 11489), (11491, 11492), (11500, 11500), 
  (11502, 11502), (11507, 11507), (11520, 11557), (11559, 11559), (11565, 11565), 
  (42561, 42561), (42563, 42563), (42565, 42565), (42567, 42567), (42569, 42569), 
  (42571, 42571), (42573, 42573), (42575, 42575), (42577, 42577), (42579, 42579), 
  (42581, 42581), (42583, 42583), (42585, 42585), (42587, 42587), (42589, 42589), 
  (42591, 42591), (42593, 42593), (42595, 42595), (42597, 42597), (42599, 42599), 
  (42601, 42601), (42603, 42603), (42605, 42605), (42625, 42625), (42627, 42627), 
  (42629, 42629), (42631, 42631), (42633, 42633), (42635, 42635), (42637, 42637), 
  (42639, 42639), (42641, 42641), (42643, 42643), (42645, 42645), (42647, 42647), 
  (42649, 42649), (42651, 42653), (42787, 42787), (42789, 42789), (42791, 42791), 
  (42793, 42793), (42795, 42795), (42797, 42797), (42799, 42801), (42803, 42803), 
  (42805, 42805), (42807, 42807), (42809, 42809), (42811, 42811), (42813, 42813), 
  (42815, 42815), (42817, 42817), (42819, 42819), (42821, 42821), (42823, 42823), 
  (42825, 42825), (42827, 42827), (42829, 42829), (42831, 42831), (42833, 42833), 
  (42835, 42835), (42837, 42837), (42839, 42839), (42841, 42841), (42843, 42843), 
  (42845, 42845), (42847, 42847), (42849, 42849), (42851, 42851), (42853, 42853), 
  (42855, 42855), (42857, 42857), (42859, 42859), (42861, 42861), (42863, 42872), 
  (42874, 42874), (42876, 42876), (42879, 42879), (42881, 42881), (42883, 42883), 
  (42885, 42885), (42887, 42887), (42892, 42892), (42894, 42894), (42897, 42897), 
  (42899, 42901), (42903, 42903), (42905, 42905), (42907, 42907), (42909, 42909), 
  (42911, 42911), (42913, 42913), (42915, 42915), (42917, 42917), (42919, 42919), 
  (42921, 42921), (42927, 42927), (42933, 42933), (42935, 42935), (42937, 42937), 
  (42939, 42939), (42941, 42941), (42943, 42943), (42945, 42945), (42947, 42947), 
  (42952, 42952), (42954, 42954), (42961, 42961), (42963, 42963), (42965, 42965), 
  (42967, 42967), (42969, 42969), (42994, 42996), (42998, 42998), (43000, 43002), 
  (43824, 43866), (43868, 43881), (43888, 43967), (64256, 64262), (64275, 64279), 
  (65345, 65370), (66600, 66639), (66776, 66811), (66967, 66977), (66979, 66993), 
  (66995, 67001), (67003, 67004), (67456, 67456), (67459, 67461), (67463, 67504), 
  (67506, 67514), (68800, 68850), (71872, 71903), (93792, 93823), (119834, 119859), 
  (119886, 119892), (119894, 119911), (119938, 119963), (119990, 119993), (119995, 119995), 
  (119997, 120003), (120005, 120015), (120042, 120067), (120094, 120119), (120146, 120171), 
  (120198, 120223), (120250, 120275), (120302, 120327), (120354, 120379), (120406, 120431), 
  (120458, 120485), (120514, 120538), (120540, 120545), (120572, 120596), (120598, 120603), 
  (120630, 120654), (120656, 120661), (120688, 120712), (120714, 120719), (120746, 120770), 
  (120772, 120777), (120779, 120779), (122624, 122633), (122635, 122654), (122661, 122666), 
  (122928, 122989), (125218, 125251)]

/-- The Emoji property. -/
def emojiRanges : Array (Nat × Nat) := #[
  (35, 35), (42, 42), (48, 57), (169, 169), (174, 174), (8252, 8252), (8265, 8265), 
  (8482, 8482), (8505, 8505), (8596, 8601), (8617, 8618), (8986, 8987), (9000, 9000), 
  (9167, 9167), (9193, 9203), (9208, 9210), (9410, 9410), (9642, 9643), (9654, 9654), 
  (9664, 9664), (9723, 9726), (9728, 9732), (9742, 9742), (9745, 9745), (9748, 9749), 
  (9752, 9752), (9757, 9757), (9760, 9760), (9762, 9763), (9766, 9766), (9770, 9770), 
  (9774, 9775), (9784, 9786), (9792, 9792), (9794, 9794), (9800, 9811), (9823, 9824), 
  (9827, 9827), (9829, 9830), (9832, 9832), (9851, 9851), (9854, 9855), (9874, 9879), 
  (9881, 9881), (9883, 9884), (9888, 9889), (9895, 9895), (9898, 9899), (9904, 9905), 
  (9917, 9918), (9924, 9925), (9928, 9928), (9934, 9935), (9937, 9937), (9939, 9940), 
  (9961, 9962), (9968, 9973), (9975, 9978), (9981, 9981), (9986, 9986), (9989, 9989), 
  (9992, 9997), (9999, 9999), (10002, 10002), (10004, 10004), (10006, 10006), (10013, 10013), 
  (10017, 10017), (10024, 10024), (10035, 10036), (10052, 10052), (10055, 10055), 
  (10060, 10060), (10062, 10062), (10067, 10069), (10071, 10071), (10083, 10084), 
  (10133, 10135), (10145, 10145), (10160, 10160), (10175, 10175), (10548, 10549), 
  (11013, 11015), (11035, 11036), (11088, 11088), (11093, 11093), (12336, 12336), 
  (12349, 12349), (12951, 12951), (12953, 12953), (126980, 126980), (127183, 127183), 
  (127344, 127345), (127358, 127359), (127374, 127374), (127377, 127386), (127462, 127487), 
  (127489, 127490), (127514, 127514), (127535, 127535), (127538, 127546), (127568, 127569), 
  (127744, 127777), (127780, 127891), (127894, 127895), (127897, 127899), (127902, 127984), 
  (127987, 127989), (127991, 128253), (128255, 128317), (128329, 128334), (128336, 128359), 
  (128367, 128368), (128371, 128378), (128391, 128391), (128394, 128397), (128400, 128400), 
  (128405, 128406), (128420, 128421), (128424, 128424), (128433, 128434), (128444, 128444), 
  (128450, 128452), (128465, 128467), (128476, 128478), (128481, 128481), (128483, 128483), 
  (128488, 128488), (128495, 128495), (128499, 128499), (128506, 128591), (128640, 128709), 
  (128715, 128722), (128725, 128727), (128732, 128741), (128745, 128745), (128747, 128748), 
  (128752, 128752), (128755, 128764), (128992, 129003), (129008, 129008), (129292, 129338), 
  (129340, 129349), (129351, 129535), (129648, 129660), (129664, 129672), (129680, 129725), 
  (129727, 129733), (129742, 129755), (129760, 129768), (129776, 129784)]

/-- The Math property. -/
def mathRanges : Array (Nat × Nat) := #[
  (43, 43), (60, 62), (94, 94), (124, 124), (126, 126), (172, 172), (177, 177), (215, 215), 
  (247, 247), (976, 978), (981, 981), (1008, 1009), (1012, 1014), (1542, 1544), (8214, 8214), 
  (8242, 8244), (8256, 8256), (8260, 8260), (8274, 8274), (8289, 8292), (8314, 8318), 
  (8330, 8334), (8400, 8412), (8417, 8417), (8421, 8422), (8427, 8431), (8450, 8450), 
  (8455, 8455), (8458, 8467), (8469, 8469), (8472, 8477), (8484, 8484), (8488, 8489), 
  (8492, 8493), (8495, 8497), (8499, 8504), (8508, 8521), (8523, 8523), (8592, 8615), 
  (8617, 8622), (8624, 8625), (8630, 8631), (8636, 8667), (8669, 8669), (8676, 8677), 
  (8692, 8959), (8968, 8971), (8992, 8993), (9084, 9084), (9115, 9141), (9143, 9143), 
  (9168, 9168), (9180, 9186), (9632, 9633), (9646, 9655), (9660, 9665), (9670, 9671), 
  (9674, 9675), (9679, 9683), (9698, 9698), (9700, 9700), (9703, 9708), (9720, 9727), 
  (9733, 9734), (9792, 9792), (9794, 9794), (9824, 9827), (9837, 9839), (10176, 10239), 
  (10496, 11007), (11056, 11076), (11079, 11084), (64297, 64297), (65121, 65126), 
  (65128, 65128), (65291, 65291), (65308, 65310), (65340, 65340), (65342, 65342), 
  (65372, 65372), (65374, 65374), (65506, 65506), (65513, 65516), (119808, 119892), 
  (119894, 119964), (119966, 119967), (119970, 119970), (119973, 119974), (119977, 119980), 
  (119982, 119993), (119995, 119995), (119997, 120003), (120005, 120069), (120071, 120074), 
  (120077, 120084), (120086, 120092), (120094, 120121), (120123, 120126), (120128, 120132), 
  (120134, 120134), (120138, 120144), (120146, 120485), (120488, 120779), (120782, 120831), 
  (126464, 126467), (126469, 126495), (126497, 126498), (126500, 126500), (126503, 126503), 
  (126505, 126514), (126516, 126519), (126521, 126521), (126523, 126523), (126530, 126530), 
  (126535, 126535), (126537, 126537), (126539, 126539), (126541, 126543), (126545, 126546), 
  (126548, 126548), (126551, 126551), (126553, 126553), (126555, 126555), (126557, 126557), 
  (126559, 126559), (126561, 126562), (126564, 126564), (126567, 126570), (126572, 126578), 
  (126580, 126583), (126585, 126588), (126590, 126590), (126592, 126601), (126603, 126619), 
  (126625, 126627), (126629, 126633), (126635, 126651), (126704, 126705)]

/-- The Hex_Digit property. -/
def hexDigitRanges : Array (Nat × Nat) := #[
  (48, 57), (65, 70), (97, 102), (65296, 65305), (65313, 65318), (65345, 65350)]

/-- The Dash property. -/
def dashRanges : Array (Nat × Nat) := #[
  (45, 45), (1418, 1418), (1470, 1470), (5120, 5120), (6150, 6150), (8208, 8213), (8275, 8275), 
  (8315, 8315), (8331, 8331), (8722, 8722), (11799, 11799), (11802, 11802), (11834, 11835), 
  (11840, 11840), (11869, 11869), (12316, 12316), (12336, 12336), (12448, 12448), 
  (65073, 65074), (65112, 65112), (65123, 65123), (65293, 65293), (69293, 69293)]

/-- The Ideographic property. -/
def ideographicRanges : Array (Nat × Nat) := #[
  (12294, 12295), (12321, 12329), (12344, 12346), (13312, 19903), (19968, 40959), 
  (63744, 64109), (64112, 64217), (94180, 94180), (94208, 100343), (100352, 101589), 
  (101632, 101640), (110960, 111355), (131072, 173791), (173824, 177977), (177984, 178205), 
  (178208, 183969), (183984, 191456), (194560, 195101), (196608, 201546), (201552, 205743)]

end FeatureDocs.Text
