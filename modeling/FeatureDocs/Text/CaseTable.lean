/-!
# Case tables

Character case data of Unicode 15.0, as runs: a run `⟨first, last, stride, image⟩` maps every
code point `first + k * stride` up to `last` to `image + k * stride`. Code points in no run map to
themselves.

* `upperRuns`, `upperWide`: the full uppercase mapping (`ß` becomes `SS`);
* `lowerRuns`, `lowerWide`: the full lowercase mapping without the final-sigma rule;
* `foldCycleRuns`: each character that shares its simple case folding with others maps to the
  next member of that class, so that following the map walks the whole class.
-/

namespace FeatureDocs.Text

/-- A run of a code point map: `first + k * stride ↦ image + k * stride` for `first + k * stride ≤ last`. -/
structure CharRun where
  first : Nat
  last : Nat
  stride : Nat
  image : Nat
deriving Repr, Inhabited

set_option maxRecDepth 20000

/-- Uppercase runs of single characters. -/
def upperRuns : Array CharRun := #[
  ⟨97, 122, 1, 65⟩, ⟨181, 181, 1, 924⟩, ⟨224, 246, 1, 192⟩, ⟨248, 254, 1, 216⟩,
  ⟨255, 255, 1, 376⟩, ⟨257, 303, 2, 256⟩, ⟨305, 305, 1, 73⟩, ⟨307, 311, 2, 306⟩,
  ⟨314, 328, 2, 313⟩, ⟨331, 375, 2, 330⟩, ⟨378, 382, 2, 377⟩, ⟨383, 383, 1, 83⟩,
  ⟨384, 384, 1, 579⟩, ⟨387, 389, 2, 386⟩, ⟨392, 392, 1, 391⟩, ⟨396, 396, 1, 395⟩,
  ⟨402, 402, 1, 401⟩, ⟨405, 405, 1, 502⟩, ⟨409, 409, 1, 408⟩, ⟨410, 410, 1, 573⟩,
  ⟨414, 414, 1, 544⟩, ⟨417, 421, 2, 416⟩, ⟨424, 424, 1, 423⟩, ⟨429, 429, 1, 428⟩,
  ⟨432, 432, 1, 431⟩, ⟨436, 438, 2, 435⟩, ⟨441, 441, 1, 440⟩, ⟨445, 445, 1, 444⟩,
  ⟨447, 447, 1, 503⟩, ⟨453, 453, 1, 452⟩, ⟨454, 454, 1, 452⟩, ⟨456, 456, 1, 455⟩,
  ⟨457, 457, 1, 455⟩, ⟨459, 459, 1, 458⟩, ⟨460, 460, 1, 458⟩, ⟨462, 476, 2, 461⟩,
  ⟨477, 477, 1, 398⟩, ⟨479, 495, 2, 478⟩, ⟨498, 498, 1, 497⟩, ⟨499, 499, 1, 497⟩,
  ⟨501, 501, 1, 500⟩, ⟨505, 543, 2, 504⟩, ⟨547, 563, 2, 546⟩, ⟨572, 572, 1, 571⟩,
  ⟨575, 576, 1, 11390⟩, ⟨578, 578, 1, 577⟩, ⟨583, 591, 2, 582⟩, ⟨592, 592, 1, 11375⟩,
  ⟨593, 593, 1, 11373⟩, ⟨594, 594, 1, 11376⟩, ⟨595, 595, 1, 385⟩, ⟨596, 596, 1, 390⟩,
  ⟨598, 599, 1, 393⟩, ⟨601, 601, 1, 399⟩, ⟨603, 603, 1, 400⟩, ⟨604, 604, 1, 42923⟩,
  ⟨608, 608, 1, 403⟩, ⟨609, 609, 1, 42924⟩, ⟨611, 611, 1, 404⟩, ⟨613, 613, 1, 42893⟩,
  ⟨614, 614, 1, 42922⟩, ⟨616, 616, 1, 407⟩, ⟨617, 617, 1, 406⟩, ⟨618, 618, 1, 42926⟩,
  ⟨619, 619, 1, 11362⟩, ⟨620, 620, 1, 42925⟩, ⟨623, 623, 1, 412⟩, ⟨625, 625, 1, 11374⟩,
  ⟨626, 626, 1, 413⟩, ⟨629, 629, 1, 415⟩, ⟨637, 637, 1, 11364⟩, ⟨640, 640, 1, 422⟩,
  ⟨642, 642, 1, 42949⟩, ⟨643, 643, 1, 425⟩, ⟨647, 647, 1, 42929⟩, ⟨648, 648, 1, 430⟩,
  ⟨649, 649, 1, 580⟩, ⟨650, 651, 1, 433⟩, ⟨652, 652, 1, 581⟩, ⟨658, 658, 1, 439⟩,
  ⟨669, 669, 1, 42930⟩, ⟨670, 670, 1, 42928⟩, ⟨837, 837, 1, 921⟩, ⟨881, 883, 2, 880⟩,
  ⟨887, 887, 1, 886⟩, ⟨891, 893, 1, 1021⟩, ⟨940, 940, 1, 902⟩, ⟨941, 943, 1, 904⟩,
  ⟨945, 961, 1, 913⟩, ⟨962, 962, 1, 931⟩, ⟨963, 971, 1, 931⟩, ⟨972, 972, 1, 908⟩,
  ⟨973, 974, 1, 910⟩, ⟨976, 976, 1, 914⟩, ⟨977, 977, 1, 920⟩, ⟨981, 981, 1, 934⟩,
  ⟨982, 982, 1, 928⟩, ⟨983, 983, 1, 975⟩, ⟨985, 1007, 2, 984⟩, ⟨1008, 1008, 1, 922⟩,
  ⟨1009, 1009, 1, 929⟩, ⟨1010, 1010, 1, 1017⟩, ⟨1011, 1011, 1, 895⟩, ⟨1013, 1013, 1, 917⟩,
  ⟨1016, 1016, 1, 1015⟩, ⟨1019, 1019, 1, 1018⟩, ⟨1072, 1103, 1, 1040⟩, ⟨1104, 1119, 1, 1024⟩,
  ⟨1121, 1153, 2, 1120⟩, ⟨1163, 1215, 2, 1162⟩, ⟨1218, 1230, 2, 1217⟩, ⟨1231, 1231, 1, 1216⟩,
  ⟨1233, 1327, 2, 1232⟩, ⟨1377, 1414, 1, 1329⟩, ⟨4304, 4346, 1, 7312⟩, ⟨4349, 4351, 1, 7357⟩,
  ⟨5112, 5117, 1, 5104⟩, ⟨7296, 7296, 1, 1042⟩, ⟨7297, 7297, 1, 1044⟩, ⟨7298, 7298, 1, 1054⟩,
  ⟨7299, 7300, 1, 1057⟩, ⟨7301, 7301, 1, 1058⟩, ⟨7302, 7302, 1, 1066⟩, ⟨7303, 7303, 1, 1122⟩,
  ⟨7304, 7304, 1, 42570⟩, ⟨7545, 7545, 1, 42877⟩, ⟨7549, 7549, 1, 11363⟩, ⟨7566, 7566, 1, 42950⟩,
  ⟨7681, 7829, 2, 7680⟩, ⟨7835, 7835, 1, 7776⟩, ⟨7841, 7935, 2, 7840⟩, ⟨7936, 7943, 1, 7944⟩,
  ⟨7952, 7957, 1, 7960⟩, ⟨7968, 7975, 1, 7976⟩, ⟨7984, 7991, 1, 7992⟩, ⟨8000, 8005, 1, 8008⟩,
  ⟨8017, 8017, 1, 8025⟩, ⟨8019, 8019, 1, 8027⟩, ⟨8021, 8021, 1, 8029⟩, ⟨8023, 8023, 1, 8031⟩,
  ⟨8032, 8039, 1, 8040⟩, ⟨8048, 8049, 1, 8122⟩, ⟨8050, 8053, 1, 8136⟩, ⟨8054, 8055, 1, 8154⟩,
  ⟨8056, 8057, 1, 8184⟩, ⟨8058, 8059, 1, 8170⟩, ⟨8060, 8061, 1, 8186⟩, ⟨8112, 8113, 1, 8120⟩,
  ⟨8126, 8126, 1, 921⟩, ⟨8144, 8145, 1, 8152⟩, ⟨8160, 8161, 1, 8168⟩, ⟨8165, 8165, 1, 8172⟩,
  ⟨8526, 8526, 1, 8498⟩, ⟨8560, 8575, 1, 8544⟩, ⟨8580, 8580, 1, 8579⟩, ⟨9424, 9449, 1, 9398⟩,
  ⟨11312, 11359, 1, 11264⟩, ⟨11361, 11361, 1, 11360⟩, ⟨11365, 11365, 1, 570⟩,
  ⟨11366, 11366, 1, 574⟩, ⟨11368, 11372, 2, 11367⟩, ⟨11379, 11379, 1, 11378⟩,
  ⟨11382, 11382, 1, 11381⟩, ⟨11393, 11491, 2, 11392⟩, ⟨11500, 11502, 2, 11499⟩,
  ⟨11507, 11507, 1, 11506⟩, ⟨11520, 11557, 1, 4256⟩, ⟨11559, 11559, 1, 4295⟩,
  ⟨11565, 11565, 1, 4301⟩, ⟨42561, 42605, 2, 42560⟩, ⟨42625, 42651, 2, 42624⟩,
  ⟨42787, 42799, 2, 42786⟩, ⟨42803, 42863, 2, 42802⟩, ⟨42874, 42876, 2, 42873⟩,
  ⟨42879, 42887, 2, 42878⟩, ⟨42892, 42892, 1, 42891⟩, ⟨42897, 42899, 2, 42896⟩,
  ⟨42900, 42900, 1, 42948⟩, ⟨42903, 42921, 2, 42902⟩, ⟨42933, 42947, 2, 42932⟩,
  ⟨42952, 42954, 2, 42951⟩, ⟨42961, 42961, 1, 42960⟩, ⟨42967, 42969, 2, 42966⟩,
  ⟨42998, 42998, 1, 42997⟩, ⟨43859, 43859, 1, 42931⟩, ⟨43888, 43967, 1, 5024⟩,
  ⟨65345, 65370, 1, 65313⟩, ⟨66600, 66639, 1, 66560⟩, ⟨66776, 66811, 1, 66736⟩,
  ⟨66967, 66977, 1, 66928⟩, ⟨66979, 66993, 1, 66940⟩, ⟨66995, 67001, 1, 66956⟩,
  ⟨67003, 67004, 1, 66964⟩, ⟨68800, 68850, 1, 68736⟩, ⟨71872, 71903, 1, 71840⟩,
  ⟨93792, 93823, 1, 93760⟩, ⟨125218, 125251, 1, 125184⟩]

/-- Characters whose uppercase form has several characters. -/
def upperWide : List (Nat × List Nat) := [
  (223, [83, 83]), (329, [700, 78]), (496, [74, 780]), (912, [921, 776, 769]),
  (944, [933, 776, 769]), (1415, [1333, 1362]), (7830, [72, 817]), (7831, [84, 776]),
  (7832, [87, 778]), (7833, [89, 778]), (7834, [65, 702]), (8016, [933, 787]),
  (8018, [933, 787, 768]), (8020, [933, 787, 769]), (8022, [933, 787, 834]), (8064, [7944, 921]),
  (8065, [7945, 921]), (8066, [7946, 921]), (8067, [7947, 921]), (8068, [7948, 921]),
  (8069, [7949, 921]), (8070, [7950, 921]), (8071, [7951, 921]), (8072, [7944, 921]),
  (8073, [7945, 921]), (8074, [7946, 921]), (8075, [7947, 921]), (8076, [7948, 921]),
  (8077, [7949, 921]), (8078, [7950, 921]), (8079, [7951, 921]), (8080, [7976, 921]),
  (8081, [7977, 921]), (8082, [7978, 921]), (8083, [7979, 921]), (8084, [7980, 921]),
  (8085, [7981, 921]), (8086, [7982, 921]), (8087, [7983, 921]), (8088, [7976, 921]),
  (8089, [7977, 921]), (8090, [7978, 921]), (8091, [7979, 921]), (8092, [7980, 921]),
  (8093, [7981, 921]), (8094, [7982, 921]), (8095, [7983, 921]), (8096, [8040, 921]),
  (8097, [8041, 921]), (8098, [8042, 921]), (8099, [8043, 921]), (8100, [8044, 921]),
  (8101, [8045, 921]), (8102, [8046, 921]), (8103, [8047, 921]), (8104, [8040, 921]),
  (8105, [8041, 921]), (8106, [8042, 921]), (8107, [8043, 921]), (8108, [8044, 921]),
  (8109, [8045, 921]), (8110, [8046, 921]), (8111, [8047, 921]), (8114, [8122, 921]),
  (8115, [913, 921]), (8116, [902, 921]), (8118, [913, 834]), (8119, [913, 834, 921]),
  (8124, [913, 921]), (8130, [8138, 921]), (8131, [919, 921]), (8132, [905, 921]),
  (8134, [919, 834]), (8135, [919, 834, 921]), (8140, [919, 921]), (8146, [921, 776, 768]),
  (8147, [921, 776, 769]), (8150, [921, 834]), (8151, [921, 776, 834]), (8162, [933, 776, 768]),
  (8163, [933, 776, 769]), (8164, [929, 787]), (8166, [933, 834]), (8167, [933, 776, 834]),
  (8178, [8186, 921]), (8179, [937, 921]), (8180, [911, 921]), (8182, [937, 834]),
  (8183, [937, 834, 921]), (8188, [937, 921]), (64256, [70, 70]), (64257, [70, 73]),
  (64258, [70, 76]), (64259, [70, 70, 73]), (64260, [70, 70, 76]), (64261, [83, 84]),
  (64262, [83, 84]), (64275, [1348, 1350]), (64276, [1348, 1333]), (64277, [1348, 1339]),
  (64278, [1358, 1350]), (64279, [1348, 1341])]

/-- Lowercase runs of single characters. -/
def lowerRuns : Array CharRun := #[
  ⟨65, 90, 1, 97⟩, ⟨192, 214, 1, 224⟩, ⟨216, 222, 1, 248⟩, ⟨256, 302, 2, 257⟩, ⟨306, 310, 2, 307⟩,
  ⟨313, 327, 2, 314⟩, ⟨330, 374, 2, 331⟩, ⟨376, 376, 1, 255⟩, ⟨377, 381, 2, 378⟩,
  ⟨385, 385, 1, 595⟩, ⟨386, 388, 2, 387⟩, ⟨390, 390, 1, 596⟩, ⟨391, 391, 1, 392⟩,
  ⟨393, 394, 1, 598⟩, ⟨395, 395, 1, 396⟩, ⟨398, 398, 1, 477⟩, ⟨399, 399, 1, 601⟩,
  ⟨400, 400, 1, 603⟩, ⟨401, 401, 1, 402⟩, ⟨403, 403, 1, 608⟩, ⟨404, 404, 1, 611⟩,
  ⟨406, 406, 1, 617⟩, ⟨407, 407, 1, 616⟩, ⟨408, 408, 1, 409⟩, ⟨412, 412, 1, 623⟩,
  ⟨413, 413, 1, 626⟩, ⟨415, 415, 1, 629⟩, ⟨416, 420, 2, 417⟩, ⟨422, 422, 1, 640⟩,
  ⟨423, 423, 1, 424⟩, ⟨425, 425, 1, 643⟩, ⟨428, 428, 1, 429⟩, ⟨430, 430, 1, 648⟩,
  ⟨431, 431, 1, 432⟩, ⟨433, 434, 1, 650⟩, ⟨435, 437, 2, 436⟩, ⟨439, 439, 1, 658⟩,
  ⟨440, 440, 1, 441⟩, ⟨444, 444, 1, 445⟩, ⟨452, 452, 1, 454⟩, ⟨453, 453, 1, 454⟩,
  ⟨455, 455, 1, 457⟩, ⟨456, 456, 1, 457⟩, ⟨458, 458, 1, 460⟩, ⟨459, 475, 2, 460⟩,
  ⟨478, 494, 2, 479⟩, ⟨497, 497, 1, 499⟩, ⟨498, 500, 2, 499⟩, ⟨502, 502, 1, 405⟩,
  ⟨503, 503, 1, 447⟩, ⟨504, 542, 2, 505⟩, ⟨544, 544, 1, 414⟩, ⟨546, 562, 2, 547⟩,
  ⟨570, 570, 1, 11365⟩, ⟨571, 571, 1, 572⟩, ⟨573, 573, 1, 410⟩, ⟨574, 574, 1, 11366⟩,
  ⟨577, 577, 1, 578⟩, ⟨579, 579, 1, 384⟩, ⟨580, 580, 1, 649⟩, ⟨581, 581, 1, 652⟩,
  ⟨582, 590, 2, 583⟩, ⟨880, 882, 2, 881⟩, ⟨886, 886, 1, 887⟩, ⟨895, 895, 1, 1011⟩,
  ⟨902, 902, 1, 940⟩, ⟨904, 906, 1, 941⟩, ⟨908, 908, 1, 972⟩, ⟨910, 911, 1, 973⟩,
  ⟨913, 929, 1, 945⟩, ⟨931, 939, 1, 963⟩, ⟨975, 975, 1, 983⟩, ⟨984, 1006, 2, 985⟩,
  ⟨1012, 1012, 1, 952⟩, ⟨1015, 1015, 1, 1016⟩, ⟨1017, 1017, 1, 1010⟩, ⟨1018, 1018, 1, 1019⟩,
  ⟨1021, 1023, 1, 891⟩, ⟨1024, 1039, 1, 1104⟩, ⟨1040, 1071, 1, 1072⟩, ⟨1120, 1152, 2, 1121⟩,
  ⟨1162, 1214, 2, 1163⟩, ⟨1216, 1216, 1, 1231⟩, ⟨1217, 1229, 2, 1218⟩, ⟨1232, 1326, 2, 1233⟩,
  ⟨1329, 1366, 1, 1377⟩, ⟨4256, 4293, 1, 11520⟩, ⟨4295, 4295, 1, 11559⟩, ⟨4301, 4301, 1, 11565⟩,
  ⟨5024, 5103, 1, 43888⟩, ⟨5104, 5109, 1, 5112⟩, ⟨7312, 7354, 1, 4304⟩, ⟨7357, 7359, 1, 4349⟩,
  ⟨7680, 7828, 2, 7681⟩, ⟨7838, 7838, 1, 223⟩, ⟨7840, 7934, 2, 7841⟩, ⟨7944, 7951, 1, 7936⟩,
  ⟨7960, 7965, 1, 7952⟩, ⟨7976, 7983, 1, 7968⟩, ⟨7992, 7999, 1, 7984⟩, ⟨8008, 8013, 1, 8000⟩,
  ⟨8025, 8031, 2, 8017⟩, ⟨8040, 8047, 1, 8032⟩, ⟨8072, 8079, 1, 8064⟩, ⟨8088, 8095, 1, 8080⟩,
  ⟨8104, 8111, 1, 8096⟩, ⟨8120, 8121, 1, 8112⟩, ⟨8122, 8123, 1, 8048⟩, ⟨8124, 8124, 1, 8115⟩,
  ⟨8136, 8139, 1, 8050⟩, ⟨8140, 8140, 1, 8131⟩, ⟨8152, 8153, 1, 8144⟩, ⟨8154, 8155, 1, 8054⟩,
  ⟨8168, 8169, 1, 8160⟩, ⟨8170, 8171, 1, 8058⟩, ⟨8172, 8172, 1, 8165⟩, ⟨8184, 8185, 1, 8056⟩,
  ⟨8186, 8187, 1, 8060⟩, ⟨8188, 8188, 1, 8179⟩, ⟨8486, 8486, 1, 969⟩, ⟨8490, 8490, 1, 107⟩,
  ⟨8491, 8491, 1, 229⟩, ⟨8498, 8498, 1, 8526⟩, ⟨8544, 8559, 1, 8560⟩, ⟨8579, 8579, 1, 8580⟩,
  ⟨9398, 9423, 1, 9424⟩, ⟨11264, 11311, 1, 11312⟩, ⟨11360, 11360, 1, 11361⟩,
  ⟨11362, 11362, 1, 619⟩, ⟨11363, 11363, 1, 7549⟩, ⟨11364, 11364, 1, 637⟩,
  ⟨11367, 11371, 2, 11368⟩, ⟨11373, 11373, 1, 593⟩, ⟨11374, 11374, 1, 625⟩,
  ⟨11375, 11375, 1, 592⟩, ⟨11376, 11376, 1, 594⟩, ⟨11378, 11378, 1, 11379⟩,
  ⟨11381, 11381, 1, 11382⟩, ⟨11390, 11391, 1, 575⟩, ⟨11392, 11490, 2, 11393⟩,
  ⟨11499, 11501, 2, 11500⟩, ⟨11506, 11506, 1, 11507⟩, ⟨42560, 42604, 2, 42561⟩,
  ⟨42624, 42650, 2, 42625⟩, ⟨42786, 42798, 2, 42787⟩, ⟨42802, 42862, 2, 42803⟩,
  ⟨42873, 42875, 2, 42874⟩, ⟨42877, 42877, 1, 7545⟩, ⟨42878, 42886, 2, 42879⟩,
  ⟨42891, 42891, 1, 42892⟩, ⟨42893, 42893, 1, 613⟩, ⟨42896, 42898, 2, 42897⟩,
  ⟨42902, 42920, 2, 42903⟩, ⟨42922, 42922, 1, 614⟩, ⟨42923, 42923, 1, 604⟩,
  ⟨42924, 42924, 1, 609⟩, ⟨42925, 42925, 1, 620⟩, ⟨42926, 42926, 1, 618⟩, ⟨42928, 42928, 1, 670⟩,
  ⟨42929, 42929, 1, 647⟩, ⟨42930, 42930, 1, 669⟩, ⟨42931, 42931, 1, 43859⟩,
  ⟨42932, 42946, 2, 42933⟩, ⟨42948, 42948, 1, 42900⟩, ⟨42949, 42949, 1, 642⟩,
  ⟨42950, 42950, 1, 7566⟩, ⟨42951, 42953, 2, 42952⟩, ⟨42960, 42960, 1, 42961⟩,
  ⟨42966, 42968, 2, 42967⟩, ⟨42997, 42997, 1, 42998⟩, ⟨65313, 65338, 1, 65345⟩,
  ⟨66560, 66599, 1, 66600⟩, ⟨66736, 66771, 1, 66776⟩, ⟨66928, 66938, 1, 66967⟩,
  ⟨66940, 66954, 1, 66979⟩, ⟨66956, 66962, 1, 66995⟩, ⟨66964, 66965, 1, 67003⟩,
  ⟨68736, 68786, 1, 68800⟩, ⟨71840, 71871, 1, 71872⟩, ⟨93760, 93791, 1, 93792⟩,
  ⟨125184, 125217, 1, 125218⟩]

/-- Characters whose lowercase form has several characters. -/
def lowerWide : List (Nat × List Nat) := [
  (304, [105, 775])]

/-- The next member of each simple case-folding class, as runs. -/
def foldCycleRuns : Array CharRun := #[
  ⟨65, 90, 1, 97⟩, ⟨97, 106, 1, 65⟩, ⟨107, 107, 1, 8490⟩, ⟨108, 114, 1, 76⟩, ⟨115, 115, 1, 383⟩,
  ⟨116, 122, 1, 84⟩, ⟨181, 181, 1, 924⟩, ⟨192, 214, 1, 224⟩, ⟨216, 222, 1, 248⟩,
  ⟨223, 223, 1, 7838⟩, ⟨224, 228, 1, 192⟩, ⟨229, 229, 1, 8491⟩, ⟨230, 246, 1, 198⟩,
  ⟨248, 254, 1, 216⟩, ⟨255, 255, 1, 376⟩, ⟨256, 256, 1, 257⟩, ⟨257, 257, 1, 256⟩,
  ⟨258, 258, 1, 259⟩, ⟨259, 259, 1, 258⟩, ⟨260, 260, 1, 261⟩, ⟨261, 261, 1, 260⟩,
  ⟨262, 262, 1, 263⟩, ⟨263, 263, 1, 262⟩, ⟨264, 264, 1, 265⟩, ⟨265, 265, 1, 264⟩,
  ⟨266, 266, 1, 267⟩, ⟨267, 267, 1, 266⟩, ⟨268, 268, 1, 269⟩, ⟨269, 269, 1, 268⟩,
  ⟨270, 270, 1, 271⟩, ⟨271, 271, 1, 270⟩, ⟨272, 272, 1, 273⟩, ⟨273, 273, 1, 272⟩,
  ⟨274, 274, 1, 275⟩, ⟨275, 275, 1, 274⟩, ⟨276, 276, 1, 277⟩, ⟨277, 277, 1, 276⟩,
  ⟨278, 278, 1, 279⟩, ⟨279, 279, 1, 278⟩, ⟨280, 280, 1, 281⟩, ⟨281, 281, 1, 280⟩,
  ⟨282, 282, 1, 283⟩, ⟨283, 283, 1, 282⟩, ⟨284, 284, 1, 285⟩, ⟨285, 285, 1, 284⟩,
  ⟨286, 286, 1, 287⟩, ⟨287, 287, 1, 286⟩, ⟨288, 288, 1, 289⟩, ⟨289, 289, 1, 288⟩,
  ⟨290, 290, 1, 291⟩, ⟨291, 291, 1, 290⟩, ⟨292, 292, 1, 293⟩, ⟨293, 293, 1, 292⟩,
  ⟨294, 294, 1, 295⟩, ⟨295, 295, 1, 294⟩, ⟨296, 296, 1, 297⟩, ⟨297, 297, 1, 296⟩,
  ⟨298, 298, 1, 299⟩, ⟨299, 299, 1, 298⟩, ⟨300, 300, 1, 301⟩, ⟨301, 301, 1, 300⟩,
  ⟨302, 302, 1, 303⟩, ⟨303, 303, 1, 302⟩, ⟨306, 306, 1, 307⟩, ⟨307, 307, 1, 306⟩,
  ⟨308, 308, 1, 309⟩, ⟨309, 309, 1, 308⟩, ⟨310, 310, 1, 311⟩, ⟨311, 311, 1, 310⟩,
  ⟨313, 313, 1, 314⟩, ⟨314, 314, 1, 313⟩, ⟨315, 315, 1, 316⟩, ⟨316, 316, 1, 315⟩,
  ⟨317, 317, 1, 318⟩, ⟨318, 318, 1, 317⟩, ⟨319, 319, 1, 320⟩, ⟨320, 320, 1, 319⟩,
  ⟨321, 321, 1, 322⟩, ⟨322, 322, 1, 321⟩, ⟨323, 323, 1, 324⟩, ⟨324, 324, 1, 323⟩,
  ⟨325, 325, 1, 326⟩, ⟨326, 326, 1, 325⟩, ⟨327, 327, 1, 328⟩, ⟨328, 328, 1, 327⟩,
  ⟨330, 330, 1, 331⟩, ⟨331, 331, 1, 330⟩, ⟨332, 332, 1, 333⟩, ⟨333, 333, 1, 332⟩,
  ⟨334, 334, 1, 335⟩, ⟨335, 335, 1, 334⟩, ⟨336, 336, 1, 337⟩, ⟨337, 337, 1, 336⟩,
  ⟨338, 338, 1, 339⟩, ⟨339, 339, 1, 338⟩, ⟨340, 340, 1, 341⟩, ⟨341, 341, 1, 340⟩,
  ⟨342, 342, 1, 343⟩, ⟨343, 343, 1, 342⟩, ⟨344, 344, 1, 345⟩, ⟨345, 345, 1, 344⟩,
  ⟨346, 346, 1, 347⟩, ⟨347, 347, 1, 346⟩, ⟨348, 348, 1, 349⟩, ⟨349, 349, 1, 348⟩,
  ⟨350, 350, 1, 351⟩, ⟨351, 351, 1, 350⟩, ⟨352, 352, 1, 353⟩, ⟨353, 353, 1, 352⟩,
  ⟨354, 354, 1, 355⟩, ⟨355, 355, 1, 354⟩, ⟨356, 356, 1, 357⟩, ⟨357, 357, 1, 356⟩,
  ⟨358, 358, 1, 359⟩, ⟨359, 359, 1, 358⟩, ⟨360, 360, 1, 361⟩, ⟨361, 361, 1, 360⟩,
  ⟨362, 362, 1, 363⟩, ⟨363, 363, 1, 362⟩, ⟨364, 364, 1, 365⟩, ⟨365, 365, 1, 364⟩,
  ⟨366, 366, 1, 367⟩, ⟨367, 367, 1, 366⟩, ⟨368, 368, 1, 369⟩, ⟨369, 369, 1, 368⟩,
  ⟨370, 370, 1, 371⟩, ⟨371, 371, 1, 370⟩, ⟨372, 372, 1, 373⟩, ⟨373, 373, 1, 372⟩,
  ⟨374, 374, 1, 375⟩, ⟨375, 375, 1, 374⟩, ⟨376, 376, 1, 255⟩, ⟨377, 377, 1, 378⟩,
  ⟨378, 378, 1, 377⟩, ⟨379, 379, 1, 380⟩, ⟨380, 380, 1, 379⟩, ⟨381, 381, 1, 382⟩,
  ⟨382, 382, 1, 381⟩, ⟨383, 383, 1, 83⟩, ⟨384, 384, 1, 579⟩, ⟨385, 385, 1, 595⟩,
  ⟨386, 386, 1, 387⟩, ⟨387, 387, 1, 386⟩, ⟨388, 388, 1, 389⟩, ⟨389, 389, 1, 388⟩,
  ⟨390, 390, 1, 596⟩, ⟨391, 391, 1, 392⟩, ⟨392, 392, 1, 391⟩, ⟨393, 394, 1, 598⟩,
  ⟨395, 395, 1, 396⟩, ⟨396, 396, 1, 395⟩, ⟨398, 398, 1, 477⟩, ⟨399, 399, 1, 601⟩,
  ⟨400, 400, 1, 603⟩, ⟨401, 401, 1, 402⟩, ⟨402, 402, 1, 401⟩, ⟨403, 403, 1, 608⟩,
  ⟨404, 404, 1, 611⟩, ⟨405, 405, 1, 502⟩, ⟨406, 406, 1, 617⟩, ⟨407, 407, 1, 616⟩,
  ⟨408, 408, 1, 409⟩, ⟨409, 409, 1, 408⟩, ⟨410, 410, 1, 573⟩, ⟨412, 412, 1, 623⟩,
  ⟨413, 413, 1, 626⟩, ⟨414, 414, 1, 544⟩, ⟨415, 415, 1, 629⟩, ⟨416, 416, 1, 417⟩,
  ⟨417, 417, 1, 416⟩, ⟨418, 418, 1, 419⟩, ⟨419, 419, 1, 418⟩, ⟨420, 420, 1, 421⟩,
  ⟨421, 421, 1, 420⟩, ⟨422, 422, 1, 640⟩, ⟨423, 423, 1, 424⟩, ⟨424, 424, 1, 423⟩,
  ⟨425, 425, 1, 643⟩, ⟨428, 428, 1, 429⟩, ⟨429, 429, 1, 428⟩, ⟨430, 430, 1, 648⟩,
  ⟨431, 431, 1, 432⟩, ⟨432, 432, 1, 431⟩, ⟨433, 434, 1, 650⟩, ⟨435, 435, 1, 436⟩,
  ⟨436, 436, 1, 435⟩, ⟨437, 437, 1, 438⟩, ⟨438, 438, 1, 437⟩, ⟨439, 439, 1, 658⟩,
  ⟨440, 440, 1, 441⟩, ⟨441, 441, 1, 440⟩, ⟨444, 444, 1, 445⟩, ⟨445, 445, 1, 444⟩,
  ⟨447, 447, 1, 503⟩, ⟨452, 453, 1, 453⟩, ⟨454, 454, 1, 452⟩, ⟨455, 456, 1, 456⟩,
  ⟨457, 457, 1, 455⟩, ⟨458, 459, 1, 459⟩, ⟨460, 460, 1, 458⟩, ⟨461, 461, 1, 462⟩,
  ⟨462, 462, 1, 461⟩, ⟨463, 463, 1, 464⟩, ⟨464, 464, 1, 463⟩, ⟨465, 465, 1, 466⟩,
  ⟨466, 466, 1, 465⟩, ⟨467, 467, 1, 468⟩, ⟨468, 468, 1, 467⟩, ⟨469, 469, 1, 470⟩,
  ⟨470, 470, 1, 469⟩, ⟨471, 471, 1, 472⟩, ⟨472, 472, 1, 471⟩, ⟨473, 473, 1, 474⟩,
  ⟨474, 474, 1, 473⟩, ⟨475, 475, 1, 476⟩, ⟨476, 476, 1, 475⟩, ⟨477, 477, 1, 398⟩,
  ⟨478, 478, 1, 479⟩, ⟨479, 479, 1, 478⟩, ⟨480, 480, 1, 481⟩, ⟨481, 481, 1, 480⟩,
  ⟨482, 482, 1, 483⟩, ⟨483, 483, 1, 482⟩, ⟨484, 484, 1, 485⟩, ⟨485, 485, 1, 484⟩,
  ⟨486, 486, 1, 487⟩, ⟨487, 487, 1, 486⟩, ⟨488, 488, 1, 489⟩, ⟨489, 489, 1, 488⟩,
  ⟨490, 490, 1, 491⟩, ⟨491, 491, 1, 490⟩, ⟨492, 492, 1, 493⟩, ⟨493, 493, 1, 492⟩,
  ⟨494, 494, 1, 495⟩, ⟨495, 495, 1, 494⟩, ⟨497, 498, 1, 498⟩, ⟨499, 499, 1, 497⟩,
  ⟨500, 500, 1, 501⟩, ⟨501, 501, 1, 500⟩, ⟨502, 502, 1, 405⟩, ⟨503, 503, 1, 447⟩,
  ⟨504, 504, 1, 505⟩, ⟨505, 505, 1, 504⟩, ⟨506, 506, 1, 507⟩, ⟨507, 507, 1, 506⟩,
  ⟨508, 508, 1, 509⟩, ⟨509, 509, 1, 508⟩, ⟨510, 510, 1, 511⟩, ⟨511, 511, 1, 510⟩,
  ⟨512, 512, 1, 513⟩, ⟨513, 513, 1, 512⟩, ⟨514, 514, 1, 515⟩, ⟨515, 515, 1, 514⟩,
  ⟨516, 516, 1, 517⟩, ⟨517, 517, 1, 516⟩, ⟨518, 518, 1, 519⟩, ⟨519, 519, 1, 518⟩,
  ⟨520, 520, 1, 521⟩, ⟨521, 521, 1, 520⟩, ⟨522, 522, 1, 523⟩, ⟨523, 523, 1, 522⟩,
  ⟨524, 524, 1, 525⟩, ⟨525, 525, 1, 524⟩, ⟨526, 526, 1, 527⟩, ⟨527, 527, 1, 526⟩,
  ⟨528, 528, 1, 529⟩, ⟨529, 529, 1, 528⟩, ⟨530, 530, 1, 531⟩, ⟨531, 531, 1, 530⟩,
  ⟨532, 532, 1, 533⟩, ⟨533, 533, 1, 532⟩, ⟨534, 534, 1, 535⟩, ⟨535, 535, 1, 534⟩,
  ⟨536, 536, 1, 537⟩, ⟨537, 537, 1, 536⟩, ⟨538, 538, 1, 539⟩, ⟨539, 539, 1, 538⟩,
  ⟨540, 540, 1, 541⟩, ⟨541, 541, 1, 540⟩, ⟨542, 542, 1, 543⟩, ⟨543, 543, 1, 542⟩,
  ⟨544, 544, 1, 414⟩, ⟨546, 546, 1, 547⟩, ⟨547, 547, 1, 546⟩, ⟨548, 548, 1, 549⟩,
  ⟨549, 549, 1, 548⟩, ⟨550, 550, 1, 551⟩, ⟨551, 551, 1, 550⟩, ⟨552, 552, 1, 553⟩,
  ⟨553, 553, 1, 552⟩, ⟨554, 554, 1, 555⟩, ⟨555, 555, 1, 554⟩, ⟨556, 556, 1, 557⟩,
  ⟨557, 557, 1, 556⟩, ⟨558, 558, 1, 559⟩, ⟨559, 559, 1, 558⟩, ⟨560, 560, 1, 561⟩,
  ⟨561, 561, 1, 560⟩, ⟨562, 562, 1, 563⟩, ⟨563, 563, 1, 562⟩, ⟨570, 570, 1, 11365⟩,
  ⟨571, 571, 1, 572⟩, ⟨572, 572, 1, 571⟩, ⟨573, 573, 1, 410⟩, ⟨574, 574, 1, 11366⟩,
  ⟨575, 576, 1, 11390⟩, ⟨577, 577, 1, 578⟩, ⟨578, 578, 1, 577⟩, ⟨579, 579, 1, 384⟩,
  ⟨580, 580, 1, 649⟩, ⟨581, 581, 1, 652⟩, ⟨582, 582, 1, 583⟩, ⟨583, 583, 1, 582⟩,
  ⟨584, 584, 1, 585⟩, ⟨585, 585, 1, 584⟩, ⟨586, 586, 1, 587⟩, ⟨587, 587, 1, 586⟩,
  ⟨588, 588, 1, 589⟩, ⟨589, 589, 1, 588⟩, ⟨590, 590, 1, 591⟩, ⟨591, 591, 1, 590⟩,
  ⟨592, 592, 1, 11375⟩, ⟨593, 593, 1, 11373⟩, ⟨594, 594, 1, 11376⟩, ⟨595, 595, 1, 385⟩,
  ⟨596, 596, 1, 390⟩, ⟨598, 599, 1, 393⟩, ⟨601, 601, 1, 399⟩, ⟨603, 603, 1, 400⟩,
  ⟨604, 604, 1, 42923⟩, ⟨608, 608, 1, 403⟩, ⟨609, 609, 1, 42924⟩, ⟨611, 611, 1, 404⟩,
  ⟨613, 613, 1, 42893⟩, ⟨614, 614, 1, 42922⟩, ⟨616, 616, 1, 407⟩, ⟨617, 617, 1, 406⟩,
  ⟨618, 618, 1, 42926⟩, ⟨619, 619, 1, 11362⟩, ⟨620, 620, 1, 42925⟩, ⟨623, 623, 1, 412⟩,
  ⟨625, 625, 1, 11374⟩, ⟨626, 626, 1, 413⟩, ⟨629, 629, 1, 415⟩, ⟨637, 637, 1, 11364⟩,
  ⟨640, 640, 1, 422⟩, ⟨642, 642, 1, 42949⟩, ⟨643, 643, 1, 425⟩, ⟨647, 647, 1, 42929⟩,
  ⟨648, 648, 1, 430⟩, ⟨649, 649, 1, 580⟩, ⟨650, 651, 1, 433⟩, ⟨652, 652, 1, 581⟩,
  ⟨658, 658, 1, 439⟩, ⟨669, 669, 1, 42930⟩, ⟨670, 670, 1, 42928⟩, ⟨837, 837, 1, 921⟩,
  ⟨880, 880, 1, 881⟩, ⟨881, 881, 1, 880⟩, ⟨882, 882, 1, 883⟩, ⟨883, 883, 1, 882⟩,
  ⟨886, 886, 1, 887⟩, ⟨887, 887, 1, 886⟩, ⟨891, 893, 1, 1021⟩, ⟨895, 895, 1, 1011⟩,
  ⟨902, 902, 1, 940⟩, ⟨904, 906, 1, 941⟩, ⟨908, 908, 1, 972⟩, ⟨910, 911, 1, 973⟩,
  ⟨913, 929, 1, 945⟩, ⟨931, 931, 1, 962⟩, ⟨932, 939, 1, 964⟩, ⟨940, 940, 1, 902⟩,
  ⟨941, 943, 1, 904⟩, ⟨945, 945, 1, 913⟩, ⟨946, 946, 1, 976⟩, ⟨947, 948, 1, 915⟩,
  ⟨949, 949, 1, 1013⟩, ⟨950, 951, 1, 918⟩, ⟨952, 952, 1, 977⟩, ⟨953, 953, 1, 8126⟩,
  ⟨954, 954, 1, 1008⟩, ⟨955, 955, 1, 923⟩, ⟨956, 956, 1, 181⟩, ⟨957, 959, 1, 925⟩,
  ⟨960, 960, 1, 982⟩, ⟨961, 961, 1, 1009⟩, ⟨962, 962, 1, 963⟩, ⟨963, 965, 1, 931⟩,
  ⟨966, 966, 1, 981⟩, ⟨967, 968, 1, 935⟩, ⟨969, 969, 1, 8486⟩, ⟨970, 971, 1, 938⟩,
  ⟨972, 972, 1, 908⟩, ⟨973, 974, 1, 910⟩, ⟨975, 975, 1, 983⟩, ⟨976, 976, 1, 914⟩,
  ⟨977, 977, 1, 1012⟩, ⟨981, 981, 1, 934⟩, ⟨982, 982, 1, 928⟩, ⟨983, 983, 1, 975⟩,
  ⟨984, 984, 1, 985⟩, ⟨985, 985, 1, 984⟩, ⟨986, 986, 1, 987⟩, ⟨987, 987, 1, 986⟩,
  ⟨988, 988, 1, 989⟩, ⟨989, 989, 1, 988⟩, ⟨990, 990, 1, 991⟩, ⟨991, 991, 1, 990⟩,
  ⟨992, 992, 1, 993⟩, ⟨993, 993, 1, 992⟩, ⟨994, 994, 1, 995⟩, ⟨995, 995, 1, 994⟩,
  ⟨996, 996, 1, 997⟩, ⟨997, 997, 1, 996⟩, ⟨998, 998, 1, 999⟩, ⟨999, 999, 1, 998⟩,
  ⟨1000, 1000, 1, 1001⟩, ⟨1001, 1001, 1, 1000⟩, ⟨1002, 1002, 1, 1003⟩, ⟨1003, 1003, 1, 1002⟩,
  ⟨1004, 1004, 1, 1005⟩, ⟨1005, 1005, 1, 1004⟩, ⟨1006, 1006, 1, 1007⟩, ⟨1007, 1007, 1, 1006⟩,
  ⟨1008, 1008, 1, 922⟩, ⟨1009, 1009, 1, 929⟩, ⟨1010, 1010, 1, 1017⟩, ⟨1011, 1011, 1, 895⟩,
  ⟨1012, 1012, 1, 920⟩, ⟨1013, 1013, 1, 917⟩, ⟨1015, 1015, 1, 1016⟩, ⟨1016, 1016, 1, 1015⟩,
  ⟨1017, 1017, 1, 1010⟩, ⟨1018, 1018, 1, 1019⟩, ⟨1019, 1019, 1, 1018⟩, ⟨1021, 1023, 1, 891⟩,
  ⟨1024, 1039, 1, 1104⟩, ⟨1040, 1071, 1, 1072⟩, ⟨1072, 1073, 1, 1040⟩, ⟨1074, 1074, 1, 7296⟩,
  ⟨1075, 1075, 1, 1043⟩, ⟨1076, 1076, 1, 7297⟩, ⟨1077, 1085, 1, 1045⟩, ⟨1086, 1086, 1, 7298⟩,
  ⟨1087, 1088, 1, 1055⟩, ⟨1089, 1090, 1, 7299⟩, ⟨1091, 1097, 1, 1059⟩, ⟨1098, 1098, 1, 7302⟩,
  ⟨1099, 1103, 1, 1067⟩, ⟨1104, 1119, 1, 1024⟩, ⟨1120, 1120, 1, 1121⟩, ⟨1121, 1121, 1, 1120⟩,
  ⟨1122, 1122, 1, 1123⟩, ⟨1123, 1123, 1, 7303⟩, ⟨1124, 1124, 1, 1125⟩, ⟨1125, 1125, 1, 1124⟩,
  ⟨1126, 1126, 1, 1127⟩, ⟨1127, 1127, 1, 1126⟩, ⟨1128, 1128, 1, 1129⟩, ⟨1129, 1129, 1, 1128⟩,
  ⟨1130, 1130, 1, 1131⟩, ⟨1131, 1131, 1, 1130⟩, ⟨1132, 1132, 1, 1133⟩, ⟨1133, 1133, 1, 1132⟩,
  ⟨1134, 1134, 1, 1135⟩, ⟨1135, 1135, 1, 1134⟩, ⟨1136, 1136, 1, 1137⟩, ⟨1137, 1137, 1, 1136⟩,
  ⟨1138, 1138, 1, 1139⟩, ⟨1139, 1139, 1, 1138⟩, ⟨1140, 1140, 1, 1141⟩, ⟨1141, 1141, 1, 1140⟩,
  ⟨1142, 1142, 1, 1143⟩, ⟨1143, 1143, 1, 1142⟩, ⟨1144, 1144, 1, 1145⟩, ⟨1145, 1145, 1, 1144⟩,
  ⟨1146, 1146, 1, 1147⟩, ⟨1147, 1147, 1, 1146⟩, ⟨1148, 1148, 1, 1149⟩, ⟨1149, 1149, 1, 1148⟩,
  ⟨1150, 1150, 1, 1151⟩, ⟨1151, 1151, 1, 1150⟩, ⟨1152, 1152, 1, 1153⟩, ⟨1153, 1153, 1, 1152⟩,
  ⟨1162, 1162, 1, 1163⟩, ⟨1163, 1163, 1, 1162⟩, ⟨1164, 1164, 1, 1165⟩, ⟨1165, 1165, 1, 1164⟩,
  ⟨1166, 1166, 1, 1167⟩, ⟨1167, 1167, 1, 1166⟩, ⟨1168, 1168, 1, 1169⟩, ⟨1169, 1169, 1, 1168⟩,
  ⟨1170, 1170, 1, 1171⟩, ⟨1171, 1171, 1, 1170⟩, ⟨1172, 1172, 1, 1173⟩, ⟨1173, 1173, 1, 1172⟩,
  ⟨1174, 1174, 1, 1175⟩, ⟨1175, 1175, 1, 1174⟩, ⟨1176, 1176, 1, 1177⟩, ⟨1177, 1177, 1, 1176⟩,
  ⟨1178, 1178, 1, 1179⟩, ⟨1179, 1179, 1, 1178⟩, ⟨1180, 1180, 1, 1181⟩, ⟨1181, 1181, 1, 1180⟩,
  ⟨1182, 1182, 1, 1183⟩, ⟨1183, 1183, 1, 1182⟩, ⟨1184, 1184, 1, 1185⟩, ⟨1185, 1185, 1, 1184⟩,
  ⟨1186, 1186, 1, 1187⟩, ⟨1187, 1187, 1, 1186⟩, ⟨1188, 1188, 1, 1189⟩, ⟨1189, 1189, 1, 1188⟩,
  ⟨1190, 1190, 1, 1191⟩, ⟨1191, 1191, 1, 1190⟩, ⟨1192, 1192, 1, 1193⟩, ⟨1193, 1193, 1, 1192⟩,
  ⟨1194, 1194, 1, 1195⟩, ⟨1195, 1195, 1, 1194⟩, ⟨1196, 1196, 1, 1197⟩, ⟨1197, 1197, 1, 1196⟩,
  ⟨1198, 1198, 1, 1199⟩, ⟨1199, 1199, 1, 1198⟩, ⟨1200, 1200, 1, 1201⟩, ⟨1201, 1201, 1, 1200⟩,
  ⟨1202, 1202, 1, 1203⟩, ⟨1203, 1203, 1, 1202⟩, ⟨1204, 1204, 1, 1205⟩, ⟨1205, 1205, 1, 1204⟩,
  ⟨1206, 1206, 1, 1207⟩, ⟨1207, 1207, 1, 1206⟩, ⟨1208, 1208, 1, 1209⟩, ⟨1209, 1209, 1, 1208⟩,
  ⟨1210, 1210, 1, 1211⟩, ⟨1211, 1211, 1, 1210⟩, ⟨1212, 1212, 1, 1213⟩, ⟨1213, 1213, 1, 1212⟩,
  ⟨1214, 1214, 1, 1215⟩, ⟨1215, 1215, 1, 1214⟩, ⟨1216, 1216, 1, 1231⟩, ⟨1217, 1217, 1, 1218⟩,
  ⟨1218, 1218, 1, 1217⟩, ⟨1219, 1219, 1, 1220⟩, ⟨1220, 1220, 1, 1219⟩, ⟨1221, 1221, 1, 1222⟩,
  ⟨1222, 1222, 1, 1221⟩, ⟨1223, 1223, 1, 1224⟩, ⟨1224, 1224, 1, 1223⟩, ⟨1225, 1225, 1, 1226⟩,
  ⟨1226, 1226, 1, 1225⟩, ⟨1227, 1227, 1, 1228⟩, ⟨1228, 1228, 1, 1227⟩, ⟨1229, 1229, 1, 1230⟩,
  ⟨1230, 1230, 1, 1229⟩, ⟨1231, 1231, 1, 1216⟩, ⟨1232, 1232, 1, 1233⟩, ⟨1233, 1233, 1, 1232⟩,
  ⟨1234, 1234, 1, 1235⟩, ⟨1235, 1235, 1, 1234⟩, ⟨1236, 1236, 1, 1237⟩, ⟨1237, 1237, 1, 1236⟩,
  ⟨1238, 1238, 1, 1239⟩, ⟨1239, 1239, 1, 1238⟩, ⟨1240, 1240, 1, 1241⟩, ⟨1241, 1241, 1, 1240⟩,
  ⟨1242, 1242, 1, 1243⟩, ⟨1243, 1243, 1, 1242⟩, ⟨1244, 1244, 1, 1245⟩, ⟨1245, 1245, 1, 1244⟩,
  ⟨1246, 1246, 1, 1247⟩, ⟨1247, 1247, 1, 1246⟩, ⟨1248, 1248, 1, 1249⟩, ⟨1249, 1249, 1, 1248⟩,
  ⟨1250, 1250, 1, 1251⟩, ⟨1251, 1251, 1, 1250⟩, ⟨1252, 1252, 1, 1253⟩, ⟨1253, 1253, 1, 1252⟩,
  ⟨1254, 1254, 1, 1255⟩, ⟨1255, 1255, 1, 1254⟩, ⟨1256, 1256, 1, 1257⟩, ⟨1257, 1257, 1, 1256⟩,
  ⟨1258, 1258, 1, 1259⟩, ⟨1259, 1259, 1, 1258⟩, ⟨1260, 1260, 1, 1261⟩, ⟨1261, 1261, 1, 1260⟩,
  ⟨1262, 1262, 1, 1263⟩, ⟨1263, 1263, 1, 1262⟩, ⟨1264, 1264, 1, 1265⟩, ⟨1265, 1265, 1, 1264⟩,
  ⟨1266, 1266, 1, 1267⟩, ⟨1267, 1267, 1, 1266⟩, ⟨1268, 1268, 1, 1269⟩, ⟨1269, 1269, 1, 1268⟩,
  ⟨1270, 1270, 1, 1271⟩, ⟨1271, 1271, 1, 1270⟩, ⟨1272, 1272, 1, 1273⟩, ⟨1273, 1273, 1, 1272⟩,
  ⟨1274, 1274, 1, 1275⟩, ⟨1275, 1275, 1, 1274⟩, ⟨1276, 1276, 1, 1277⟩, ⟨1277, 1277, 1, 1276⟩,
  ⟨1278, 1278, 1, 1279⟩, ⟨1279, 1279, 1, 1278⟩, ⟨1280, 1280, 1, 1281⟩, ⟨1281, 1281, 1, 1280⟩,
  ⟨1282, 1282, 1, 1283⟩, ⟨1283, 1283, 1, 1282⟩, ⟨1284, 1284, 1, 1285⟩, ⟨1285, 1285, 1, 1284⟩,
  ⟨1286, 1286, 1, 1287⟩, ⟨1287, 1287, 1, 1286⟩, ⟨1288, 1288, 1, 1289⟩, ⟨1289, 1289, 1, 1288⟩,
  ⟨1290, 1290, 1, 1291⟩, ⟨1291, 1291, 1, 1290⟩, ⟨1292, 1292, 1, 1293⟩, ⟨1293, 1293, 1, 1292⟩,
  ⟨1294, 1294, 1, 1295⟩, ⟨1295, 1295, 1, 1294⟩, ⟨1296, 1296, 1, 1297⟩, ⟨1297, 1297, 1, 1296⟩,
  ⟨1298, 1298, 1, 1299⟩, ⟨1299, 1299, 1, 1298⟩, ⟨1300, 1300, 1, 1301⟩, ⟨1301, 1301, 1, 1300⟩,
  ⟨1302, 1302, 1, 1303⟩, ⟨1303, 1303, 1, 1302⟩, ⟨1304, 1304, 1, 1305⟩, ⟨1305, 1305, 1, 1304⟩,
  ⟨1306, 1306, 1, 1307⟩, ⟨1307, 1307, 1, 1306⟩, ⟨1308, 1308, 1, 1309⟩, ⟨1309, 1309, 1, 1308⟩,
  ⟨1310, 1310, 1, 1311⟩, ⟨1311, 1311, 1, 1310⟩, ⟨1312, 1312, 1, 1313⟩, ⟨1313, 1313, 1, 1312⟩,
  ⟨1314, 1314, 1, 1315⟩, ⟨1315, 1315, 1, 1314⟩, ⟨1316, 1316, 1, 1317⟩, ⟨1317, 1317, 1, 1316⟩,
  ⟨1318, 1318, 1, 1319⟩, ⟨1319, 1319, 1, 1318⟩, ⟨1320, 1320, 1, 1321⟩, ⟨1321, 1321, 1, 1320⟩,
  ⟨1322, 1322, 1, 1323⟩, ⟨1323, 1323, 1, 1322⟩, ⟨1324, 1324, 1, 1325⟩, ⟨1325, 1325, 1, 1324⟩,
  ⟨1326, 1326, 1, 1327⟩, ⟨1327, 1327, 1, 1326⟩, ⟨1329, 1366, 1, 1377⟩, ⟨1377, 1414, 1, 1329⟩,
  ⟨4256, 4293, 1, 11520⟩, ⟨4295, 4295, 1, 11559⟩, ⟨4301, 4301, 1, 11565⟩, ⟨4304, 4346, 1, 7312⟩,
  ⟨4349, 4351, 1, 7357⟩, ⟨5024, 5103, 1, 43888⟩, ⟨5104, 5109, 1, 5112⟩, ⟨5112, 5117, 1, 5104⟩,
  ⟨7296, 7296, 1, 1042⟩, ⟨7297, 7297, 1, 1044⟩, ⟨7298, 7298, 1, 1054⟩, ⟨7299, 7299, 1, 1057⟩,
  ⟨7300, 7300, 1, 7301⟩, ⟨7301, 7301, 1, 1058⟩, ⟨7302, 7302, 1, 1066⟩, ⟨7303, 7303, 1, 1122⟩,
  ⟨7304, 7304, 1, 42570⟩, ⟨7312, 7354, 1, 4304⟩, ⟨7357, 7359, 1, 4349⟩, ⟨7545, 7545, 1, 42877⟩,
  ⟨7549, 7549, 1, 11363⟩, ⟨7566, 7566, 1, 42950⟩, ⟨7680, 7680, 1, 7681⟩, ⟨7681, 7681, 1, 7680⟩,
  ⟨7682, 7682, 1, 7683⟩, ⟨7683, 7683, 1, 7682⟩, ⟨7684, 7684, 1, 7685⟩, ⟨7685, 7685, 1, 7684⟩,
  ⟨7686, 7686, 1, 7687⟩, ⟨7687, 7687, 1, 7686⟩, ⟨7688, 7688, 1, 7689⟩, ⟨7689, 7689, 1, 7688⟩,
  ⟨7690, 7690, 1, 7691⟩, ⟨7691, 7691, 1, 7690⟩, ⟨7692, 7692, 1, 7693⟩, ⟨7693, 7693, 1, 7692⟩,
  ⟨7694, 7694, 1, 7695⟩, ⟨7695, 7695, 1, 7694⟩, ⟨7696, 7696, 1, 7697⟩, ⟨7697, 7697, 1, 7696⟩,
  ⟨7698, 7698, 1, 7699⟩, ⟨7699, 7699, 1, 7698⟩, ⟨7700, 7700, 1, 7701⟩, ⟨7701, 7701, 1, 7700⟩,
  ⟨7702, 7702, 1, 7703⟩, ⟨7703, 7703, 1, 7702⟩, ⟨7704, 7704, 1, 7705⟩, ⟨7705, 7705, 1, 7704⟩,
  ⟨7706, 7706, 1, 7707⟩, ⟨7707, 7707, 1, 7706⟩, ⟨7708, 7708, 1, 7709⟩, ⟨7709, 7709, 1, 7708⟩,
  ⟨7710, 7710, 1, 7711⟩, ⟨7711, 7711, 1, 7710⟩, ⟨7712, 7712, 1, 7713⟩, ⟨7713, 7713, 1, 7712⟩,
  ⟨7714, 7714, 1, 7715⟩, ⟨7715, 7715, 1, 7714⟩, ⟨7716, 7716, 1, 7717⟩, ⟨7717, 7717, 1, 7716⟩,
  ⟨7718, 7718, 1, 7719⟩, ⟨7719, 7719, 1, 7718⟩, ⟨7720, 7720, 1, 7721⟩, ⟨7721, 7721, 1, 7720⟩,
  ⟨7722, 7722, 1, 7723⟩, ⟨7723, 7723, 1, 7722⟩, ⟨7724, 7724, 1, 7725⟩, ⟨7725, 7725, 1, 7724⟩,
  ⟨7726, 7726, 1, 7727⟩, ⟨7727, 7727, 1, 7726⟩, ⟨7728, 7728, 1, 7729⟩, ⟨7729, 7729, 1, 7728⟩,
  ⟨7730, 7730, 1, 7731⟩, ⟨7731, 7731, 1, 7730⟩, ⟨7732, 7732, 1, 7733⟩, ⟨7733, 7733, 1, 7732⟩,
  ⟨7734, 7734, 1, 7735⟩, ⟨7735, 7735, 1, 7734⟩, ⟨7736, 7736, 1, 7737⟩, ⟨7737, 7737, 1, 7736⟩,
  ⟨7738, 7738, 1, 7739⟩, ⟨7739, 7739, 1, 7738⟩, ⟨7740, 7740, 1, 7741⟩, ⟨7741, 7741, 1, 7740⟩,
  ⟨7742, 7742, 1, 7743⟩, ⟨7743, 7743, 1, 7742⟩, ⟨7744, 7744, 1, 7745⟩, ⟨7745, 7745, 1, 7744⟩,
  ⟨7746, 7746, 1, 7747⟩, ⟨7747, 7747, 1, 7746⟩, ⟨7748, 7748, 1, 7749⟩, ⟨7749, 7749, 1, 7748⟩,
  ⟨7750, 7750, 1, 7751⟩, ⟨7751, 7751, 1, 7750⟩, ⟨7752, 7752, 1, 7753⟩, ⟨7753, 7753, 1, 7752⟩,
  ⟨7754, 7754, 1, 7755⟩, ⟨7755, 7755, 1, 7754⟩, ⟨7756, 7756, 1, 7757⟩, ⟨7757, 7757, 1, 7756⟩,
  ⟨7758, 7758, 1, 7759⟩, ⟨7759, 7759, 1, 7758⟩, ⟨7760, 7760, 1, 7761⟩, ⟨7761, 7761, 1, 7760⟩,
  ⟨7762, 7762, 1, 7763⟩, ⟨7763, 7763, 1, 7762⟩, ⟨7764, 7764, 1, 7765⟩, ⟨7765, 7765, 1, 7764⟩,
  ⟨7766, 7766, 1, 7767⟩, ⟨7767, 7767, 1, 7766⟩, ⟨7768, 7768, 1, 7769⟩, ⟨7769, 7769, 1, 7768⟩,
  ⟨7770, 7770, 1, 7771⟩, ⟨7771, 7771, 1, 7770⟩, ⟨7772, 7772, 1, 7773⟩, ⟨7773, 7773, 1, 7772⟩,
  ⟨7774, 7774, 1, 7775⟩, ⟨7775, 7775, 1, 7774⟩, ⟨7776, 7776, 1, 7777⟩, ⟨7777, 7777, 1, 7835⟩,
  ⟨7778, 7778, 1, 7779⟩, ⟨7779, 7779, 1, 7778⟩, ⟨7780, 7780, 1, 7781⟩, ⟨7781, 7781, 1, 7780⟩,
  ⟨7782, 7782, 1, 7783⟩, ⟨7783, 7783, 1, 7782⟩, ⟨7784, 7784, 1, 7785⟩, ⟨7785, 7785, 1, 7784⟩,
  ⟨7786, 7786, 1, 7787⟩, ⟨7787, 7787, 1, 7786⟩, ⟨7788, 7788, 1, 7789⟩, ⟨7789, 7789, 1, 7788⟩,
  ⟨7790, 7790, 1, 7791⟩, ⟨7791, 7791, 1, 7790⟩, ⟨7792, 7792, 1, 7793⟩, ⟨7793, 7793, 1, 7792⟩,
  ⟨7794, 7794, 1, 7795⟩, ⟨7795, 7795, 1, 7794⟩, ⟨7796, 7796, 1, 7797⟩, ⟨7797, 7797, 1, 7796⟩,
  ⟨7798, 7798, 1, 7799⟩, ⟨7799, 7799, 1, 7798⟩, ⟨7800, 7800, 1, 7801⟩, ⟨7801, 7801, 1, 7800⟩,
  ⟨7802, 7802, 1, 7803⟩, ⟨7803, 7803, 1, 7802⟩, ⟨7804, 7804, 1, 7805⟩, ⟨7805, 7805, 1, 7804⟩,
  ⟨7806, 7806, 1, 7807⟩, ⟨7807, 7807, 1, 7806⟩, ⟨7808, 7808, 1, 7809⟩, ⟨7809, 7809, 1, 7808⟩,
  ⟨7810, 7810, 1, 7811⟩, ⟨7811, 7811, 1, 7810⟩, ⟨7812, 7812, 1, 7813⟩, ⟨7813, 7813, 1, 7812⟩,
  ⟨7814, 7814, 1, 7815⟩, ⟨7815, 7815, 1, 7814⟩, ⟨7816, 7816, 1, 7817⟩, ⟨7817, 7817, 1, 7816⟩,
  ⟨7818, 7818, 1, 7819⟩, ⟨7819, 7819, 1, 7818⟩, ⟨7820, 7820, 1, 7821⟩, ⟨7821, 7821, 1, 7820⟩,
  ⟨7822, 7822, 1, 7823⟩, ⟨7823, 7823, 1, 7822⟩, ⟨7824, 7824, 1, 7825⟩, ⟨7825, 7825, 1, 7824⟩,
  ⟨7826, 7826, 1, 7827⟩, ⟨7827, 7827, 1, 7826⟩, ⟨7828, 7828, 1, 7829⟩, ⟨7829, 7829, 1, 7828⟩,
  ⟨7835, 7835, 1, 7776⟩, ⟨7838, 7838, 1, 223⟩, ⟨7840, 7840, 1, 7841⟩, ⟨7841, 7841, 1, 7840⟩,
  ⟨7842, 7842, 1, 7843⟩, ⟨7843, 7843, 1, 7842⟩, ⟨7844, 7844, 1, 7845⟩, ⟨7845, 7845, 1, 7844⟩,
  ⟨7846, 7846, 1, 7847⟩, ⟨7847, 7847, 1, 7846⟩, ⟨7848, 7848, 1, 7849⟩, ⟨7849, 7849, 1, 7848⟩,
  ⟨7850, 7850, 1, 7851⟩, ⟨7851, 7851, 1, 7850⟩, ⟨7852, 7852, 1, 7853⟩, ⟨7853, 7853, 1, 7852⟩,
  ⟨7854, 7854, 1, 7855⟩, ⟨7855, 7855, 1, 7854⟩, ⟨7856, 7856, 1, 7857⟩, ⟨7857, 7857, 1, 7856⟩,
  ⟨7858, 7858, 1, 7859⟩, ⟨7859, 7859, 1, 7858⟩, ⟨7860, 7860, 1, 7861⟩, ⟨7861, 7861, 1, 7860⟩,
  ⟨7862, 7862, 1, 7863⟩, ⟨7863, 7863, 1, 7862⟩, ⟨7864, 7864, 1, 7865⟩, ⟨7865, 7865, 1, 7864⟩,
  ⟨7866, 7866, 1, 7867⟩, ⟨7867, 7867, 1, 7866⟩, ⟨7868, 7868, 1, 7869⟩, ⟨7869, 7869, 1, 7868⟩,
  ⟨7870, 7870, 1, 7871⟩, ⟨7871, 7871, 1, 7870⟩, ⟨7872, 7872, 1, 7873⟩, ⟨7873, 7873, 1, 7872⟩,
  ⟨7874, 7874, 1, 7875⟩, ⟨7875, 7875, 1, 7874⟩, ⟨7876, 7876, 1, 7877⟩, ⟨7877, 7877, 1, 7876⟩,
  ⟨7878, 7878, 1, 7879⟩, ⟨7879, 7879, 1, 7878⟩, ⟨7880, 7880, 1, 7881⟩, ⟨7881, 7881, 1, 7880⟩,
  ⟨7882, 7882, 1, 7883⟩, ⟨7883, 7883, 1, 7882⟩, ⟨7884, 7884, 1, 7885⟩, ⟨7885, 7885, 1, 7884⟩,
  ⟨7886, 7886, 1, 7887⟩, ⟨7887, 7887, 1, 7886⟩, ⟨7888, 7888, 1, 7889⟩, ⟨7889, 7889, 1, 7888⟩,
  ⟨7890, 7890, 1, 7891⟩, ⟨7891, 7891, 1, 7890⟩, ⟨7892, 7892, 1, 7893⟩, ⟨7893, 7893, 1, 7892⟩,
  ⟨7894, 7894, 1, 7895⟩, ⟨7895, 7895, 1, 7894⟩, ⟨7896, 7896, 1, 7897⟩, ⟨7897, 7897, 1, 7896⟩,
  ⟨7898, 7898, 1, 7899⟩, ⟨7899, 7899, 1, 7898⟩, ⟨7900, 7900, 1, 7901⟩, ⟨7901, 7901, 1, 7900⟩,
  ⟨7902, 7902, 1, 7903⟩, ⟨7903, 7903, 1, 7902⟩, ⟨7904, 7904, 1, 7905⟩, ⟨7905, 7905, 1, 7904⟩,
  ⟨7906, 7906, 1, 7907⟩, ⟨7907, 7907, 1, 7906⟩, ⟨7908, 7908, 1, 7909⟩, ⟨7909, 7909, 1, 7908⟩,
  ⟨7910, 7910, 1, 7911⟩, ⟨7911, 7911, 1, 7910⟩, ⟨7912, 7912, 1, 7913⟩, ⟨7913, 7913, 1, 7912⟩,
  ⟨7914, 7914, 1, 7915⟩, ⟨7915, 7915, 1, 7914⟩, ⟨7916, 7916, 1, 7917⟩, ⟨7917, 7917, 1, 7916⟩,
  ⟨7918, 7918, 1, 7919⟩, ⟨7919, 7919, 1, 7918⟩, ⟨7920, 7920, 1, 7921⟩, ⟨7921, 7921, 1, 7920⟩,
  ⟨7922, 7922, 1, 7923⟩, ⟨7923, 7923, 1, 7922⟩, ⟨7924, 7924, 1, 7925⟩, ⟨7925, 7925, 1, 7924⟩,
  ⟨7926, 7926, 1, 7927⟩, ⟨7927, 7927, 1, 7926⟩, ⟨7928, 7928, 1, 7929⟩, ⟨7929, 7929, 1, 7928⟩,
  ⟨7930, 7930, 1, 7931⟩, ⟨7931, 7931, 1, 7930⟩, ⟨7932, 7932, 1, 7933⟩, ⟨7933, 7933, 1, 7932⟩,
  ⟨7934, 7934, 1, 7935⟩, ⟨7935, 7935, 1, 7934⟩, ⟨7936, 7943, 1, 7944⟩, ⟨7944, 7951, 1, 7936⟩,
  ⟨7952, 7957, 1, 7960⟩, ⟨7960, 7965, 1, 7952⟩, ⟨7968, 7975, 1, 7976⟩, ⟨7976, 7983, 1, 7968⟩,
  ⟨7984, 7991, 1, 7992⟩, ⟨7992, 7999, 1, 7984⟩, ⟨8000, 8005, 1, 8008⟩, ⟨8008, 8013, 1, 8000⟩,
  ⟨8017, 8023, 2, 8025⟩, ⟨8025, 8031, 2, 8017⟩, ⟨8032, 8039, 1, 8040⟩, ⟨8040, 8047, 1, 8032⟩,
  ⟨8048, 8049, 1, 8122⟩, ⟨8050, 8053, 1, 8136⟩, ⟨8054, 8055, 1, 8154⟩, ⟨8056, 8057, 1, 8184⟩,
  ⟨8058, 8059, 1, 8170⟩, ⟨8060, 8061, 1, 8186⟩, ⟨8064, 8071, 1, 8072⟩, ⟨8072, 8079, 1, 8064⟩,
  ⟨8080, 8087, 1, 8088⟩, ⟨8088, 8095, 1, 8080⟩, ⟨8096, 8103, 1, 8104⟩, ⟨8104, 8111, 1, 8096⟩,
  ⟨8112, 8113, 1, 8120⟩, ⟨8115, 8115, 1, 8124⟩, ⟨8120, 8121, 1, 8112⟩, ⟨8122, 8123, 1, 8048⟩,
  ⟨8124, 8124, 1, 8115⟩, ⟨8126, 8126, 1, 837⟩, ⟨8131, 8131, 1, 8140⟩, ⟨8136, 8139, 1, 8050⟩,
  ⟨8140, 8140, 1, 8131⟩, ⟨8144, 8145, 1, 8152⟩, ⟨8152, 8153, 1, 8144⟩, ⟨8154, 8155, 1, 8054⟩,
  ⟨8160, 8161, 1, 8168⟩, ⟨8165, 8165, 1, 8172⟩, ⟨8168, 8169, 1, 8160⟩, ⟨8170, 8171, 1, 8058⟩,
  ⟨8172, 8172, 1, 8165⟩, ⟨8179, 8179, 1, 8188⟩, ⟨8184, 8185, 1, 8056⟩, ⟨8186, 8187, 1, 8060⟩,
  ⟨8188, 8188, 1, 8179⟩, ⟨8486, 8486, 1, 937⟩, ⟨8490, 8490, 1, 75⟩, ⟨8491, 8491, 1, 197⟩,
  ⟨8498, 8498, 1, 8526⟩, ⟨8526, 8526, 1, 8498⟩, ⟨8544, 8559, 1, 8560⟩, ⟨8560, 8575, 1, 8544⟩,
  ⟨8579, 8579, 1, 8580⟩, ⟨8580, 8580, 1, 8579⟩, ⟨9398, 9423, 1, 9424⟩, ⟨9424, 9449, 1, 9398⟩,
  ⟨11264, 11311, 1, 11312⟩, ⟨11312, 11359, 1, 11264⟩, ⟨11360, 11360, 1, 11361⟩,
  ⟨11361, 11361, 1, 11360⟩, ⟨11362, 11362, 1, 619⟩, ⟨11363, 11363, 1, 7549⟩,
  ⟨11364, 11364, 1, 637⟩, ⟨11365, 11365, 1, 570⟩, ⟨11366, 11366, 1, 574⟩,
  ⟨11367, 11367, 1, 11368⟩, ⟨11368, 11368, 1, 11367⟩, ⟨11369, 11369, 1, 11370⟩,
  ⟨11370, 11370, 1, 11369⟩, ⟨11371, 11371, 1, 11372⟩, ⟨11372, 11372, 1, 11371⟩,
  ⟨11373, 11373, 1, 593⟩, ⟨11374, 11374, 1, 625⟩, ⟨11375, 11375, 1, 592⟩, ⟨11376, 11376, 1, 594⟩,
  ⟨11378, 11378, 1, 11379⟩, ⟨11379, 11379, 1, 11378⟩, ⟨11381, 11381, 1, 11382⟩,
  ⟨11382, 11382, 1, 11381⟩, ⟨11390, 11391, 1, 575⟩, ⟨11392, 11392, 1, 11393⟩,
  ⟨11393, 11393, 1, 11392⟩, ⟨11394, 11394, 1, 11395⟩, ⟨11395, 11395, 1, 11394⟩,
  ⟨11396, 11396, 1, 11397⟩, ⟨11397, 11397, 1, 11396⟩, ⟨11398, 11398, 1, 11399⟩,
  ⟨11399, 11399, 1, 11398⟩, ⟨11400, 11400, 1, 11401⟩, ⟨11401, 11401, 1, 11400⟩,
  ⟨11402, 11402, 1, 11403⟩, ⟨11403, 11403, 1, 11402⟩, ⟨11404, 11404, 1, 11405⟩,
  ⟨11405, 11405, 1, 11404⟩, ⟨11406, 11406, 1, 11407⟩, ⟨11407, 11407, 1, 11406⟩,
  ⟨11408, 11408, 1, 11409⟩, ⟨11409, 11409, 1, 11408⟩, ⟨11410, 11410, 1, 11411⟩,
  ⟨11411, 11411, 1, 11410⟩, ⟨11412, 11412, 1, 11413⟩, ⟨11413, 11413, 1, 11412⟩,
  ⟨11414, 11414, 1, 11415⟩, ⟨11415, 11415, 1, 11414⟩, ⟨11416, 11416, 1, 11417⟩,
  ⟨11417, 11417, 1, 11416⟩, ⟨11418, 11418, 1, 11419⟩, ⟨11419, 11419, 1, 11418⟩,
  ⟨11420, 11420, 1, 11421⟩, ⟨11421, 11421, 1, 11420⟩, ⟨11422, 11422, 1, 11423⟩,
  ⟨11423, 11423, 1, 11422⟩, ⟨11424, 11424, 1, 11425⟩, ⟨11425, 11425, 1, 11424⟩,
  ⟨11426, 11426, 1, 11427⟩, ⟨11427, 11427, 1, 11426⟩, ⟨11428, 11428, 1, 11429⟩,
  ⟨11429, 11429, 1, 11428⟩, ⟨11430, 11430, 1, 11431⟩, ⟨11431, 11431, 1, 11430⟩,
  ⟨11432, 11432, 1, 11433⟩, ⟨11433, 11433, 1, 11432⟩, ⟨11434, 11434, 1, 11435⟩,
  ⟨11435, 11435, 1, 11434⟩, ⟨11436, 11436, 1, 11437⟩, ⟨11437, 11437, 1, 11436⟩,
  ⟨11438, 11438, 1, 11439⟩, ⟨11439, 11439, 1, 11438⟩, ⟨11440, 11440, 1, 11441⟩,
  ⟨11441, 11441, 1, 11440⟩, ⟨11442, 11442, 1, 11443⟩, ⟨11443, 11443, 1, 11442⟩,
  ⟨11444, 11444, 1, 11445⟩, ⟨11445, 11445, 1, 11444⟩, ⟨11446, 11446, 1, 11447⟩,
  ⟨11447, 11447, 1, 11446⟩, ⟨11448, 11448, 1, 11449⟩, ⟨11449, 11449, 1, 11448⟩,
  ⟨11450, 11450, 1, 11451⟩, ⟨11451, 11451, 1, 11450⟩, ⟨11452, 11452, 1, 11453⟩,
  ⟨11453, 11453, 1, 11452⟩, ⟨11454, 11454, 1, 11455⟩, ⟨11455, 11455, 1, 11454⟩,
  ⟨11456, 11456, 1, 11457⟩, ⟨11457, 11457, 1, 11456⟩, ⟨11458, 11458, 1, 11459⟩,
  ⟨11459, 11459, 1, 11458⟩, ⟨11460, 11460, 1, 11461⟩, ⟨11461, 11461, 1, 11460⟩,
  ⟨11462, 11462, 1, 11463⟩, ⟨11463, 11463, 1, 11462⟩, ⟨11464, 11464, 1, 11465⟩,
  ⟨11465, 11465, 1, 11464⟩, ⟨11466, 11466, 1, 11467⟩, ⟨11467, 11467, 1, 11466⟩,
  ⟨11468, 11468, 1, 11469⟩, ⟨11469, 11469, 1, 11468⟩, ⟨11470, 11470, 1, 11471⟩,
  ⟨11471, 11471, 1, 11470⟩, ⟨11472, 11472, 1, 11473⟩, ⟨11473, 11473, 1, 11472⟩,
  ⟨11474, 11474, 1, 11475⟩, ⟨11475, 11475, 1, 11474⟩, ⟨11476, 11476, 1, 11477⟩,
  ⟨11477, 11477, 1, 11476⟩, ⟨11478, 11478, 1, 11479⟩, ⟨11479, 11479, 1, 11478⟩,
  ⟨11480, 11480, 1, 11481⟩, ⟨11481, 11481, 1, 11480⟩, ⟨11482, 11482, 1, 11483⟩,
  ⟨11483, 11483, 1, 11482⟩, ⟨11484, 11484, 1, 11485⟩, ⟨11485, 11485, 1, 11484⟩,
  ⟨11486, 11486, 1, 11487⟩, ⟨11487, 11487, 1, 11486⟩, ⟨11488, 11488, 1, 11489⟩,
  ⟨11489, 11489, 1, 11488⟩, ⟨11490, 11490, 1, 11491⟩, ⟨11491, 11491, 1, 11490⟩,
  ⟨11499, 11499, 1, 11500⟩, ⟨11500, 11500, 1, 11499⟩, ⟨11501, 11501, 1, 11502⟩,
  ⟨11502, 11502, 1, 11501⟩, ⟨11506, 11506, 1, 11507⟩, ⟨11507, 11507, 1, 11506⟩,
  ⟨11520, 11557, 1, 4256⟩, ⟨11559, 11559, 1, 4295⟩, ⟨11565, 11565, 1, 4301⟩,
  ⟨42560, 42560, 1, 42561⟩, ⟨42561, 42561, 1, 42560⟩, ⟨42562, 42562, 1, 42563⟩,
  ⟨42563, 42563, 1, 42562⟩, ⟨42564, 42564, 1, 42565⟩, ⟨42565, 42565, 1, 42564⟩,
  ⟨42566, 42566, 1, 42567⟩, ⟨42567, 42567, 1, 42566⟩, ⟨42568, 42568, 1, 42569⟩,
  ⟨42569, 42569, 1, 42568⟩, ⟨42570, 42570, 1, 42571⟩, ⟨42571, 42571, 1, 7304⟩,
  ⟨42572, 42572, 1, 42573⟩, ⟨42573, 42573, 1, 42572⟩, ⟨42574, 42574, 1, 42575⟩,
  ⟨42575, 42575, 1, 42574⟩, ⟨42576, 42576, 1, 42577⟩, ⟨42577, 42577, 1, 42576⟩,
  ⟨42578, 42578, 1, 42579⟩, ⟨42579, 42579, 1, 42578⟩, ⟨42580, 42580, 1, 42581⟩,
  ⟨42581, 42581, 1, 42580⟩, ⟨42582, 42582, 1, 42583⟩, ⟨42583, 42583, 1, 42582⟩,
  ⟨42584, 42584, 1, 42585⟩, ⟨42585, 42585, 1, 42584⟩, ⟨42586, 42586, 1, 42587⟩,
  ⟨42587, 42587, 1, 42586⟩, ⟨42588, 42588, 1, 42589⟩, ⟨42589, 42589, 1, 42588⟩,
  ⟨42590, 42590, 1, 42591⟩, ⟨42591, 42591, 1, 42590⟩, ⟨42592, 42592, 1, 42593⟩,
  ⟨42593, 42593, 1, 42592⟩, ⟨42594, 42594, 1, 42595⟩, ⟨42595, 42595, 1, 42594⟩,
  ⟨42596, 42596, 1, 42597⟩, ⟨42597, 42597, 1, 42596⟩, ⟨42598, 42598, 1, 42599⟩,
  ⟨42599, 42599, 1, 42598⟩, ⟨42600, 42600, 1, 42601⟩, ⟨42601, 42601, 1, 42600⟩,
  ⟨42602, 42602, 1, 42603⟩, ⟨42603, 42603, 1, 42602⟩, ⟨42604, 42604, 1, 42605⟩,
  ⟨42605, 42605, 1, 42604⟩, ⟨42624, 42624, 1, 42625⟩, ⟨42625, 42625, 1, 42624⟩,
  ⟨42626, 42626, 1, 42627⟩, ⟨42627, 42627, 1, 42626⟩, ⟨42628, 42628, 1, 42629⟩,
  ⟨42629, 42629, 1, 42628⟩, ⟨42630, 42630, 1, 42631⟩, ⟨42631, 42631, 1, 42630⟩,
  ⟨42632, 42632, 1, 42633⟩, ⟨42633, 42633, 1, 42632⟩, ⟨42634, 42634, 1, 42635⟩,
  ⟨42635, 42635, 1, 42634⟩, ⟨42636, 42636, 1, 42637⟩, ⟨42637, 42637, 1, 42636⟩,
  ⟨42638, 42638, 1, 42639⟩, ⟨42639, 42639, 1, 42638⟩, ⟨42640, 42640, 1, 42641⟩,
  ⟨42641, 42641, 1, 42640⟩, ⟨42642, 42642, 1, 42643⟩, ⟨42643, 42643, 1, 42642⟩,
  ⟨42644, 42644, 1, 42645⟩, ⟨42645, 42645, 1, 42644⟩, ⟨42646, 42646, 1, 42647⟩,
  ⟨42647, 42647, 1, 42646⟩, ⟨42648, 42648, 1, 42649⟩, ⟨42649, 42649, 1, 42648⟩,
  ⟨42650, 42650, 1, 42651⟩, ⟨42651, 42651, 1, 42650⟩, ⟨42786, 42786, 1, 42787⟩,
  ⟨42787, 42787, 1, 42786⟩, ⟨42788, 42788, 1, 42789⟩, ⟨42789, 42789, 1, 42788⟩,
  ⟨42790, 42790, 1, 42791⟩, ⟨42791, 42791, 1, 42790⟩, ⟨42792, 42792, 1, 42793⟩,
  ⟨42793, 42793, 1, 42792⟩, ⟨42794, 42794, 1, 42795⟩, ⟨42795, 42795, 1, 42794⟩,
  ⟨42796, 42796, 1, 42797⟩, ⟨42797, 42797, 1, 42796⟩, ⟨42798, 42798, 1, 42799⟩,
  ⟨42799, 42799, 1, 42798⟩, ⟨42802, 42802, 1, 42803⟩, ⟨42803, 42803, 1, 42802⟩,
  ⟨42804, 42804, 1, 42805⟩, ⟨42805, 42805, 1, 42804⟩, ⟨42806, 42806, 1, 42807⟩,
  ⟨42807, 42807, 1, 42806⟩, ⟨42808, 42808, 1, 42809⟩, ⟨42809, 42809, 1, 42808⟩,
  ⟨42810, 42810, 1, 42811⟩, ⟨42811, 42811, 1, 42810⟩, ⟨42812, 42812, 1, 42813⟩,
  ⟨42813, 42813, 1, 42812⟩, ⟨42814, 42814, 1, 42815⟩, ⟨42815, 42815, 1, 42814⟩,
  ⟨42816, 42816, 1, 42817⟩, ⟨42817, 42817, 1, 42816⟩, ⟨42818, 42818, 1, 42819⟩,
  ⟨42819, 42819, 1, 42818⟩, ⟨42820, 42820, 1, 42821⟩, ⟨42821, 42821, 1, 42820⟩,
  ⟨42822, 42822, 1, 42823⟩, ⟨42823, 42823, 1, 42822⟩, ⟨42824, 42824, 1, 42825⟩,
  ⟨42825, 42825, 1, 42824⟩, ⟨42826, 42826, 1, 42827⟩, ⟨42827, 42827, 1, 42826⟩,
  ⟨42828, 42828, 1, 42829⟩, ⟨42829, 42829, 1, 42828⟩, ⟨42830, 42830, 1, 42831⟩,
  ⟨42831, 42831, 1, 42830⟩, ⟨42832, 42832, 1, 42833⟩, ⟨42833, 42833, 1, 42832⟩,
  ⟨42834, 42834, 1, 42835⟩, ⟨42835, 42835, 1, 42834⟩, ⟨42836, 42836, 1, 42837⟩,
  ⟨42837, 42837, 1, 42836⟩, ⟨42838, 42838, 1, 42839⟩, ⟨42839, 42839, 1, 42838⟩,
  ⟨42840, 42840, 1, 42841⟩, ⟨42841, 42841, 1, 42840⟩, ⟨42842, 42842, 1, 42843⟩,
  ⟨42843, 42843, 1, 42842⟩, ⟨42844, 42844, 1, 42845⟩, ⟨42845, 42845, 1, 42844⟩,
  ⟨42846, 42846, 1, 42847⟩, ⟨42847, 42847, 1, 42846⟩, ⟨42848, 42848, 1, 42849⟩,
  ⟨42849, 42849, 1, 42848⟩, ⟨42850, 42850, 1, 42851⟩, ⟨42851, 42851, 1, 42850⟩,
  ⟨42852, 42852, 1, 42853⟩, ⟨42853, 42853, 1, 42852⟩, ⟨42854, 42854, 1, 42855⟩,
  ⟨42855, 42855, 1, 42854⟩, ⟨42856, 42856, 1, 42857⟩, ⟨42857, 42857, 1, 42856⟩,
  ⟨42858, 42858, 1, 42859⟩, ⟨42859, 42859, 1, 42858⟩, ⟨42860, 42860, 1, 42861⟩,
  ⟨42861, 42861, 1, 42860⟩, ⟨42862, 42862, 1, 42863⟩, ⟨42863, 42863, 1, 42862⟩,
  ⟨42873, 42873, 1, 42874⟩, ⟨42874, 42874, 1, 42873⟩, ⟨42875, 42875, 1, 42876⟩,
  ⟨42876, 42876, 1, 42875⟩, ⟨42877, 42877, 1, 7545⟩, ⟨42878, 42878, 1, 42879⟩,
  ⟨42879, 42879, 1, 42878⟩, ⟨42880, 42880, 1, 42881⟩, ⟨42881, 42881, 1, 42880⟩,
  ⟨42882, 42882, 1, 42883⟩, ⟨42883, 42883, 1, 42882⟩, ⟨42884, 42884, 1, 42885⟩,
  ⟨42885, 42885, 1, 42884⟩, ⟨42886, 42886, 1, 42887⟩, ⟨42887, 42887, 1, 42886⟩,
  ⟨42891, 42891, 1, 42892⟩, ⟨42892, 42892, 1, 42891⟩, ⟨42893, 42893, 1, 613⟩,
  ⟨42896, 42896, 1, 42897⟩, ⟨42897, 42897, 1, 42896⟩, ⟨42898, 42898, 1, 42899⟩,
  ⟨42899, 42899, 1, 42898⟩, ⟨42900, 42900, 1, 42948⟩, ⟨42902, 42902, 1, 42903⟩,
  ⟨42903, 42903, 1, 42902⟩, ⟨42904, 42904, 1, 42905⟩, ⟨42905, 42905, 1, 42904⟩,
  ⟨42906, 42906, 1, 42907⟩, ⟨42907, 42907, 1, 42906⟩, ⟨42908, 42908, 1, 42909⟩,
  ⟨42909, 42909, 1, 42908⟩, ⟨42910, 42910, 1, 42911⟩, ⟨42911, 42911, 1, 42910⟩,
  ⟨42912, 42912, 1, 42913⟩, ⟨42913, 42913, 1, 42912⟩, ⟨42914, 42914, 1, 42915⟩,
  ⟨42915, 42915, 1, 42914⟩, ⟨42916, 42916, 1, 42917⟩, ⟨42917, 42917, 1, 42916⟩,
  ⟨42918, 42918, 1, 42919⟩, ⟨42919, 42919, 1, 42918⟩, ⟨42920, 42920, 1, 42921⟩,
  ⟨42921, 42921, 1, 42920⟩, ⟨42922, 42922, 1, 614⟩, ⟨42923, 42923, 1, 604⟩,
  ⟨42924, 42924, 1, 609⟩, ⟨42925, 42925, 1, 620⟩, ⟨42926, 42926, 1, 618⟩, ⟨42928, 42928, 1, 670⟩,
  ⟨42929, 42929, 1, 647⟩, ⟨42930, 42930, 1, 669⟩, ⟨42931, 42931, 1, 43859⟩,
  ⟨42932, 42932, 1, 42933⟩, ⟨42933, 42933, 1, 42932⟩, ⟨42934, 42934, 1, 42935⟩,
  ⟨42935, 42935, 1, 42934⟩, ⟨42936, 42936, 1, 42937⟩, ⟨42937, 42937, 1, 42936⟩,
  ⟨42938, 42938, 1, 42939⟩, ⟨42939, 42939, 1, 42938⟩, ⟨42940, 42940, 1, 42941⟩,
  ⟨42941, 42941, 1, 42940⟩, ⟨42942, 42942, 1, 42943⟩, ⟨42943, 42943, 1, 42942⟩,
  ⟨42944, 42944, 1, 42945⟩, ⟨42945, 42945, 1, 42944⟩, ⟨42946, 42946, 1, 42947⟩,
  ⟨42947, 42947, 1, 42946⟩, ⟨42948, 42948, 1, 42900⟩, ⟨42949, 42949, 1, 642⟩,
  ⟨42950, 42950, 1, 7566⟩, ⟨42951, 42951, 1, 42952⟩, ⟨42952, 42952, 1, 42951⟩,
  ⟨42953, 42953, 1, 42954⟩, ⟨42954, 42954, 1, 42953⟩, ⟨42960, 42960, 1, 42961⟩,
  ⟨42961, 42961, 1, 42960⟩, ⟨42966, 42966, 1, 42967⟩, ⟨42967, 42967, 1, 42966⟩,
  ⟨42968, 42968, 1, 42969⟩, ⟨42969, 42969, 1, 42968⟩, ⟨42997, 42997, 1, 42998⟩,
  ⟨42998, 42998, 1, 42997⟩, ⟨43859, 43859, 1, 42931⟩, ⟨43888, 43967, 1, 5024⟩,
  ⟨65313, 65338, 1, 65345⟩, ⟨65345, 65370, 1, 65313⟩, ⟨66560, 66599, 1, 66600⟩,
  ⟨66600, 66639, 1, 66560⟩, ⟨66736, 66771, 1, 66776⟩, ⟨66776, 66811, 1, 66736⟩,
  ⟨66928, 66938, 1, 66967⟩, ⟨66940, 66954, 1, 66979⟩, ⟨66956, 66962, 1, 66995⟩,
  ⟨66964, 66965, 1, 67003⟩, ⟨66967, 66977, 1, 66928⟩, ⟨66979, 66993, 1, 66940⟩,
  ⟨66995, 67001, 1, 66956⟩, ⟨67003, 67004, 1, 66964⟩, ⟨68736, 68786, 1, 68800⟩,
  ⟨68800, 68850, 1, 68736⟩, ⟨71840, 71871, 1, 71872⟩, ⟨71872, 71903, 1, 71840⟩,
  ⟨93760, 93791, 1, 93792⟩, ⟨93792, 93823, 1, 93760⟩, ⟨125184, 125217, 1, 125218⟩,
  ⟨125218, 125251, 1, 125184⟩]

end FeatureDocs.Text
