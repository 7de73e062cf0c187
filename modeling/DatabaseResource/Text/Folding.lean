import DatabaseResource.Text.Graphic
import DatabaseResource.Text.Mark
import DatabaseResource.Text.Packed

/-!
# Folding for names

Characters that are written differently and mean the same in a domain name: capital and small
letters, wide and narrow forms, ligatures, letters in a circle. `folded?` gives what a character
stands for: itself, other characters, or nothing at all; it refuses a character that no name may
hold. Regular stretches of letters are in `foldingRuns`, all else in `foldingEntries`; the
characters of `refusedRuns` are graphic and stand for nothing that a name may hold.
-/

namespace DatabaseResource.Text

/-- First code point, count, distance, and the code point that the first one stands for. -/
def foldingRuns : List (Nat × Nat × Nat × Nat) := [
  (192, 23, 1, 224), (216, 7, 1, 248), (256, 24, 2, 257), (321, 4, 2, 322), (330, 23, 2, 331),
  (461, 8, 2, 462), (478, 9, 2, 479), (504, 20, 2, 505), (546, 9, 2, 547), (582, 5, 2, 583),
  (913, 17, 1, 945), (931, 9, 1, 963), (984, 12, 2, 985), (1024, 16, 1, 1104), (1040, 32, 1, 1072),
  (1120, 17, 2, 1121), (1162, 27, 2, 1163), (1217, 7, 2, 1218), (1232, 48, 2, 1233),
  (1329, 38, 1, 1377), (4256, 38, 1, 11520), (5112, 6, 1, 5104), (7312, 43, 1, 4304),
  (7473, 5, 2, 101), (7598, 4, 1, 626), (7680, 75, 2, 7681), (7840, 48, 2, 7841),
  (7944, 8, 1, 7936), (7960, 6, 1, 7952), (7976, 8, 1, 7968), (7992, 8, 1, 7984),
  (8008, 6, 1, 8000), (8025, 4, 2, 8017), (8040, 8, 1, 8032), (8308, 6, 1, 52), (8320, 10, 1, 48),
  (8342, 4, 1, 107), (8501, 4, 1, 1488), (9312, 9, 1, 49), (9398, 26, 1, 97), (9424, 26, 1, 97),
  (11264, 48, 1, 11312), (11392, 50, 2, 11393), (12602, 6, 1, 4528), (12613, 10, 1, 4361),
  (12623, 21, 1, 4449), (12664, 5, 1, 4395), (12905, 5, 1, 4366), (13028, 6, 1, 12490),
  (13038, 5, 1, 12510), (13045, 6, 1, 12520), (13051, 4, 1, 12527), (42560, 23, 2, 42561),
  (42624, 14, 2, 42625), (42786, 7, 2, 42787), (42802, 31, 2, 42803), (42878, 5, 2, 42879),
  (42902, 10, 2, 42903), (42932, 8, 2, 42933), (43888, 80, 1, 5024), (65089, 4, 1, 12300),
  (65281, 32, 1, 33), (65313, 26, 1, 97), (65339, 36, 1, 91), (65413, 6, 1, 12490),
  (65423, 5, 1, 12510), (65430, 6, 1, 12520), (65450, 6, 1, 4528), (65461, 10, 1, 4361),
  (65474, 6, 1, 4449), (65482, 6, 1, 4455), (65490, 6, 1, 4461), (65513, 4, 1, 8592),
  (66560, 40, 1, 66600), (66736, 36, 1, 66776), (66928, 19, 2, 66967), (68736, 51, 1, 68800),
  (68944, 22, 1, 68976), (71840, 32, 1, 71872), (93760, 32, 1, 93792), (117974, 26, 1, 97),
  (118000, 10, 1, 48), (119808, 26, 1, 97), (119834, 26, 1, 97), (119860, 26, 1, 97),
  (119886, 13, 2, 97), (119912, 26, 1, 97), (119938, 26, 1, 97), (119977, 4, 1, 110),
  (119982, 8, 1, 115), (119990, 4, 1, 97), (119995, 11, 2, 102), (120016, 26, 1, 97),
  (120042, 26, 1, 97), (120071, 4, 1, 100), (120077, 8, 1, 106), (120086, 7, 1, 115),
  (120094, 26, 1, 97), (120123, 4, 1, 100), (120128, 5, 1, 105), (120138, 7, 1, 115),
  (120146, 26, 1, 97), (120172, 26, 1, 97), (120198, 26, 1, 97), (120224, 26, 1, 97),
  (120250, 26, 1, 97), (120276, 26, 1, 97), (120302, 26, 1, 97), (120328, 26, 1, 97),
  (120354, 26, 1, 97), (120380, 26, 1, 97), (120406, 26, 1, 97), (120432, 26, 1, 97),
  (120458, 26, 1, 97), (120488, 17, 1, 945), (120506, 7, 1, 963), (120514, 17, 1, 945),
  (120532, 7, 1, 963), (120546, 17, 1, 945), (120564, 7, 1, 963), (120572, 17, 1, 945),
  (120590, 7, 1, 963), (120604, 17, 1, 945), (120622, 7, 1, 963), (120630, 17, 1, 945),
  (120648, 7, 1, 963), (120662, 17, 1, 945), (120680, 7, 1, 963), (120688, 17, 1, 945),
  (120706, 7, 1, 963), (120720, 17, 1, 945), (120738, 7, 1, 963), (120746, 17, 1, 945),
  (120764, 7, 1, 963), (120782, 10, 1, 48), (120792, 10, 1, 48), (120802, 10, 1, 48),
  (120812, 10, 1, 48), (120822, 10, 1, 48), (125184, 34, 1, 125218), (126474, 4, 1, 1603),
  (126506, 4, 1, 1603), (127280, 26, 1, 97), (130032, 10, 1, 48)]

/-- The characters outside the runs, packed. -/
def foldingLines : List String := [
  "a0:20 7:20.308 1:61 2: 1:20.304 2:32 0:33 0:20.301 0:3bc 2:20.327 0:31 0:6f 1:31.2044.34",
  "0:31.2044.32 0:33.2044.34 71:69.307 1:69.6a 0:69.6a 0:135 1:137 2:13a 1:13c 1:13e 1:6c.b7",
  "0:6c.b7 8:2bc.6e 2e:ff 0:17a 1:17c 1:17e 1:73 1:253 0:183 1:185 1:254 0:188 1:256 0:257",
  "0:18c 2:1dd 0:259 0:25b 0:192 1:260 0:263 1:269 0:268 0:199 3:26f 0:272 1:275 0:1a1 1:1a3",
  "1:1a5 1:280 0:1a8 1:283 2:1ad 1:288 0:1b0 1:28a 0:28b 0:1b4 1:1b6 1:292 0:1b9 3:1bd 7:64.17e",
  "0:64.17e 0:64.17e 0:6c.6a 0:6c.6a 0:6c.6a 0:6e.6a 0:6e.6a 0:6e.6a 24:64.7a 0:64.7a 0:64.7a",
  "0:1f5 1:195 0:1bf 28:19e 19:2c65 0:23c 1:19a 0:2c66 2:242 1:180 0:289 0:28c 6a:68 0:266 0:6a",
  "0:72 0:279 0:27b 0:281 0:77 0:79 1f:20.306 0:20.307 0:20.30a 0:20.328 0:20.303 0:20.30b",
  "2:263 0:6c 0:73 0:78 0:295 60:3b9 9: 20:371 1:373 3:377 3:20.3b9 4:3f3 4:20.301 0:20.308.301",
  "0:3ac 1:3ad 0:3ae 0:3af 1:3cc 1:3cd 0:3ce 3f:3d7 0:3b2 0:3b8 0:3c5 0:3cd 0:3cb 0:3c6 0:3c0",
  "19:3ba 0:3c1 0:3c3 1:3b8 0:3b5 1:3f8 1:3c3 0:3fb 2:37b 0:37c 0:37d c0:4cf c6:565.582",
  "ed:627.674 0:648.674 0:6c7.674 0:64a.674 7ba:e4d.e32 7f:ecd.eb2 28:eab.e99 0:eab.ea1 2e:f0b",
  "6a:fb2.f71.f80 1:fb3.f71.f80 14d:2d27 5:2d2d 2e:10dc 62: 0: 653: 0: 55: 0: 0: 0: 0: 470:432",
  "0:434 0:43e 0:441 0:442 0:442 0:44a 0:463 0:a64b 0:1c8a 33:10fd 0:10fe 0:10ff 6c:61 0:e6",
  "0:62 1:64 1:1dd 1:68 1:6a 1:6c 1:6e 1:6f 0:223 0:70 0:72 0:74 0:75 0:77 0:61 0:250 0:251",
  "0:1d02 0:62 0:64 0:65 0:259 0:25b 0:25c 0:67 1:6b 0:6d 0:14b 0:6f 0:254 0:1d16 0:1d17 0:70",
  "0:74 0:75 0:1d1d 0:26f 0:76 0:1d25 0:3b2 0:3b3 0:3b4 0:3c6 0:3c7 0:69 0:72 0:75 0:76 0:3b2",
  "0:3b3 0:3c1 0:3c6 0:3c7 d:43d 22:252 0:63 0:255 0:f0 0:25c 0:66 0:25f 0:261 0:265 0:268",
  "0:269 0:26a 0:1d7b 0:29d 0:26d 0:1d85 0:29f 0:271 0:270 4:278 0:282 0:283 0:1ab 0:289 0:28a",
  "0:1d1c 0:28b 0:28c 0:7a 0:290 0:291 0:292 0:3b8 da:61.2be 0:1e61 2:df e1:1f00.3b9 0:1f01.3b9",
  "0:1f02.3b9 0:1f03.3b9 0:1f04.3b9 0:1f05.3b9 0:1f06.3b9 0:1f07.3b9 0:1f00.3b9 0:1f01.3b9",
  "0:1f02.3b9 0:1f03.3b9 0:1f04.3b9 0:1f05.3b9 0:1f06.3b9 0:1f07.3b9 0:1f20.3b9 0:1f21.3b9",
  "0:1f22.3b9 0:1f23.3b9 0:1f24.3b9 0:1f25.3b9 0:1f26.3b9 0:1f27.3b9 0:1f20.3b9 0:1f21.3b9",
  "0:1f22.3b9 0:1f23.3b9 0:1f24.3b9 0:1f25.3b9 0:1f26.3b9 0:1f27.3b9 0:1f60.3b9 0:1f61.3b9",
  "0:1f62.3b9 0:1f63.3b9 0:1f64.3b9 0:1f65.3b9 0:1f66.3b9 0:1f67.3b9 0:1f60.3b9 0:1f61.3b9",
  "0:1f62.3b9 0:1f63.3b9 0:1f64.3b9 0:1f65.3b9 0:1f66.3b9 0:1f67.3b9 2:1f70.3b9 0:3b1.3b9",
  "0:3ac.3b9 2:1fb6.3b9 0:1fb0 0:1fb1 0:1f70 0:3ac 0:3b1.3b9 0:20.313 1:20.313 0:20.342",
  "0:20.308.342 0:1f74.3b9 0:3b7.3b9 0:3ae.3b9 2:1fc6.3b9 0:1f72 0:3ad 0:1f74 0:3ae 0:3b7.3b9",
  "0:20.313.300 0:20.313.301 0:20.313.342 8:1fd0 0:1fd1 0:1f76 0:3af 1:20.314.300 0:20.314.301",
  "0:20.314.342 8:1fe0 0:1fe1 0:1f7a 0:3cd 0:1fe5 0:20.308.300 0:20.308.301 3:1f7c.3b9",
  "0:3c9.3b9 0:3ce.3b9 2:1ff6.3b9 0:1f78 0:3cc 0:1f7c 0:3ce 0:3c9.3b9 0:20.301 0:20.314 1:20",
  "0:20 0:20 0:20 0:20 0:20 0:20 0:20 0:20 0:20 0:20 0: 5:2010 5:20.333 17:20 3:2032.2032",
  "0:2032.2032.2032 1:2035.2035 0:2035.2035.2035 4:21.21 1:20.305 8:3f.3f 0:3f.21 0:21.3f",
  "d:2032.2032.2032.2032 7:20 0: 0: 0: 0: 0: 5: 0: 0: 0: 0: 0: 0:30 0:69 8:2b 0:2212 0:3d 0:28",
  "0:29 0:6e a:2b 0:2212 0:3d 0:28 0:29 1:61 0:65 0:6f 0:78 0:259 0:68 4:70 0:73 0:74 b:72.73",
  "57:61.2f.63 0:61.2f.73 0:63 0:b0.63 1:63.2f.6f 0:63.2f.75 0:25b 1:b0.66 0:67 0:68 0:68 0:68",
  "0:68 0:127 0:69 0:69 0:6c 0:6c 1:6e 0:6e.6f 2:70 0:71 0:72 0:72 0:72 2:73.6d 0:74.65.6c",
  "0:74.6d 1:7a 1:3c9 1:7a 1:6b 0:e5 0:62 0:63 1:65 0:65 0:66 0:214e 0:6d 0:6f 4:69 1:66.61.78",
  "0:3c0 0:3b3 0:3b3 0:3c0 0:2211 4:64 0:64 0:65 0:69 0:6a 6:31.2044.37 0:31.2044.39",
  "0:31.2044.31.30 0:31.2044.33 0:32.2044.33 0:31.2044.35 0:32.2044.35 0:33.2044.35",
  "0:34.2044.35 0:31.2044.36 0:35.2044.36 0:31.2044.38 0:33.2044.38 0:35.2044.38 0:37.2044.38",
  "0:31.2044 0:69 0:69.69 0:69.69.69 0:69.76 0:76 0:76.69 0:76.69.69 0:76.69.69.69 0:69.78 0:78",
  "0:78.69 0:78.69.69 0:6c 0:63 0:64 0:6d 0:69 0:69.69 0:69.69.69 0:69.76 0:76 0:76.69",
  "0:76.69.69 0:76.69.69.69 0:69.78 0:78 0:78.69 0:78.69.69 0:6c 0:63 0:64 0:6d 3:2184",
  "5:30.2044.33 a2:222b.222b 0:222b.222b.222b 1:222e.222e 0:222e.222e.222e 238:31.30 0:31.31",
  "0:31.32 0:31.33 0:31.34 0:31.35 0:31.36 0:31.37 0:31.38 0:31.39 0:32.30 0:28.31.29",
  "0:28.32.29 0:28.33.29 0:28.34.29 0:28.35.29 0:28.36.29 0:28.37.29 0:28.38.29 0:28.39.29",
  "0:28.31.30.29 0:28.31.31.29 0:28.31.32.29 0:28.31.33.29 0:28.31.34.29 0:28.31.35.29",
  "0:28.31.36.29 0:28.31.37.29 0:28.31.38.29 0:28.31.39.29 0:28.32.30.29 14:28.61.29 0:28.62.29",
  "0:28.63.29 0:28.64.29 0:28.65.29 0:28.66.29 0:28.67.29 0:28.68.29 0:28.69.29 0:28.6a.29",
  "0:28.6b.29 0:28.6c.29 0:28.6d.29 0:28.6e.29 0:28.6f.29 0:28.70.29 0:28.71.29 0:28.72.29",
  "0:28.73.29 0:28.74.29 0:28.75.29 0:28.76.29 0:28.77.29 0:28.78.29 0:28.79.29 0:28.7a.29",
  "34:30 521:222b.222b.222b.222b 67:3a.3a.3d 0:3d.3d 0:3d.3d.3d 1e9:2c61 1:26b 0:1d7d 0:27d",
  "2:2c68 1:2c6a 1:2c6c 1:251 0:271 0:250 0:252 1:2c73 2:2c76 6:6a 0:76 0:23f 0:240 6b:2cec",
  "1:2cee 4:2cf3 7c:2d61 12f:6bcd 53:9f9f c:4e00 0:4e28 0:4e36 0:4e3f 0:4e59 0:4e85 0:4e8c",
  "0:4ea0 0:4eba 0:513f 0:5165 0:516b 0:5182 0:5196 0:51ab 0:51e0 0:51f5 0:5200 0:529b 0:52f9",
  "0:5315 0:531a 0:5338 0:5341 0:535c 0:5369 0:5382 0:53b6 0:53c8 0:53e3 0:56d7 0:571f 0:58eb",
  "0:5902 0:590a 0:5915 0:5927 0:5973 0:5b50 0:5b80 0:5bf8 0:5c0f 0:5c22 0:5c38 0:5c6e 0:5c71",
  "0:5ddb 0:5de5 0:5df1 0:5dfe 0:5e72 0:5e7a 0:5e7f 0:5ef4 0:5efe 0:5f0b 0:5f13 0:5f50 0:5f61",
  "0:5f73 0:5fc3 0:6208 0:6236 0:624b 0:652f 0:6534 0:6587 0:6597 0:65a4 0:65b9 0:65e0 0:65e5",
  "0:66f0 0:6708 0:6728 0:6b20 0:6b62 0:6b79 0:6bb3 0:6bcb 0:6bd4 0:6bdb 0:6c0f 0:6c14 0:6c34",
  "0:706b 0:722a 0:7236 0:723b 0:723f 0:7247 0:7259 0:725b 0:72ac 0:7384 0:7389 0:74dc 0:74e6",
  "0:7518 0:751f 0:7528 0:7530 0:758b 0:7592 0:7676 0:767d 0:76ae 0:76bf 0:76ee 0:77db 0:77e2",
  "0:77f3 0:793a 0:79b8 0:79be 0:7a74 0:7acb 0:7af9 0:7c73 0:7cf8 0:7f36 0:7f51 0:7f8a 0:7fbd",
  "0:8001 0:800c 0:8012 0:8033 0:807f 0:8089 0:81e3 0:81ea 0:81f3 0:81fc 0:820c 0:821b 0:821f",
  "0:826e 0:8272 0:8278 0:864d 0:866b 0:8840 0:884c 0:8863 0:897e 0:898b 0:89d2 0:8a00 0:8c37",
  "0:8c46 0:8c55 0:8c78 0:8c9d 0:8d64 0:8d70 0:8db3 0:8eab 0:8eca 0:8f9b 0:8fb0 0:8fb5 0:9091",
  "0:9149 0:91c6 0:91cc 0:91d1 0:9577 0:9580 0:961c 0:96b6 0:96b9 0:96e8 0:9751 0:975e 0:9762",
  "0:9769 0:97cb 0:97ed 0:97f3 0:9801 0:98a8 0:98db 0:98df 0:9996 0:9999 0:99ac 0:9aa8 0:9ad8",
  "0:9adf 0:9b25 0:9b2f 0:9b32 0:9b3c 0:9b5a 0:9ce5 0:9e75 0:9e7f 0:9ea5 0:9ebb 0:9ec3 0:9ecd",
  "0:9ed1 0:9ef9 0:9efd 0:9f0e 0:9f13 0:9f20 0:9f3b 0:9f4a 0:9f52 0:9f8d 0:9f9c 0:9fa0 2a:20",
  "1:2e 33:3012 1:5341 0:5344 0:5345 60:20.3099 0:20.309a 2:3088.308a 5f:30b3.30c8 31:1100",
  "0:1101 0:11aa 0:1102 0:11ac 0:11ad 0:1103 0:1104 0:1105 6:111a 0:1106 0:1107 0:1108 0:1121",
  "1f: 0:1114 0:1115 0:11c7 0:11c8 0:11cc 0:11ce 0:11d3 0:11d7 0:11d9 0:111c 0:11dd 0:11df",
  "0:111d 0:111e 0:1120 0:1122 0:1123 0:1127 0:1129 5:1132 0:1136 0:1140 0:1147 0:114c 0:11f1",
  "0:11f2 0:1157 0:1158 0:1159 0:1184 0:1185 0:1188 0:1191 0:1192 0:1194 0:119e 0:11a1 3:4e00",
  "0:4e8c 0:4e09 0:56db 0:4e0a 0:4e2d 0:4e0b 0:7532 0:4e59 0:4e19 0:4e01 0:5929 0:5730 0:4eba",
  "60:28.1100.29 0:28.1102.29 0:28.1103.29 0:28.1105.29 0:28.1106.29 0:28.1107.29 0:28.1109.29",
  "0:28.110b.29 0:28.110c.29 0:28.110e.29 0:28.110f.29 0:28.1110.29 0:28.1111.29 0:28.1112.29",
  "0:28.ac00.29 0:28.b098.29 0:28.b2e4.29 0:28.b77c.29 0:28.b9c8.29 0:28.bc14.29 0:28.c0ac.29",
  "0:28.c544.29 0:28.c790.29 0:28.cc28.29 0:28.ce74.29 0:28.d0c0.29 0:28.d30c.29 0:28.d558.29",
  "0:28.c8fc.29 0:28.c624.c804.29 0:28.c624.d6c4.29 1:28.4e00.29 0:28.4e8c.29 0:28.4e09.29",
  "0:28.56db.29 0:28.4e94.29 0:28.516d.29 0:28.4e03.29 0:28.516b.29 0:28.4e5d.29 0:28.5341.29",
  "0:28.6708.29 0:28.706b.29 0:28.6c34.29 0:28.6728.29 0:28.91d1.29 0:28.571f.29 0:28.65e5.29",
  "0:28.682a.29 0:28.6709.29 0:28.793e.29 0:28.540d.29 0:28.7279.29 0:28.8ca1.29 0:28.795d.29",
  "0:28.52b4.29 0:28.4ee3.29 0:28.547c.29 0:28.5b66.29 0:28.76e3.29 0:28.4f01.29 0:28.8cc7.29",
  "0:28.5354.29 0:28.796d.29 0:28.4f11.29 0:28.81ea.29 0:28.81f3.29 0:554f 0:5e7c 0:6587 0:7b8f",
  "8:70.74.65 0:32.31 0:32.32 0:32.33 0:32.34 0:32.35 0:32.36 0:32.37 0:32.38 0:32.39 0:33.30",
  "0:33.31 0:33.32 0:33.33 0:33.34 0:33.35 0:1100 0:1102 0:1103 0:1105 0:1106 0:1107 0:1109",
  "0:110b 0:110c 5:ac00 0:b098 0:b2e4 0:b77c 0:b9c8 0:bc14 0:c0ac 0:c544 0:c790 0:cc28 0:ce74",
  "0:d0c0 0:d30c 0:d558 0:cc38.ace0 0:c8fc.c758 0:c6b0 1:4e00 0:4e8c 0:4e09 0:56db 0:4e94",
  "0:516d 0:4e03 0:516b 0:4e5d 0:5341 0:6708 0:706b 0:6c34 0:6728 0:91d1 0:571f 0:65e5 0:682a",
  "0:6709 0:793e 0:540d 0:7279 0:8ca1 0:795d 0:52b4 0:79d8 0:7537 0:5973 0:9069 0:512a 0:5370",
  "0:6ce8 0:9805 0:4f11 0:5199 0:6b63 0:4e0a 0:4e2d 0:4e0b 0:5de6 0:53f3 0:533b 0:5b97 0:5b66",
  "0:76e3 0:4f01 0:8cc7 0:5354 0:591c 0:33.36 0:33.37 0:33.38 0:33.39 0:34.30 0:34.31 0:34.32",
  "0:34.33 0:34.34 0:34.35 0:34.36 0:34.37 0:34.38 0:34.39 0:35.30 0:31.6708 0:32.6708",
  "0:33.6708 0:34.6708 0:35.6708 0:36.6708 0:37.6708 0:38.6708 0:39.6708 0:31.30.6708",
  "0:31.31.6708 0:31.32.6708 0:68.67 0:65.72.67 0:65.76 0:6c.74.64 0:30a2 0:30a4 0:30a6 0:30a8",
  "0:30aa 0:30ab 0:30ad 0:30af 0:30b1 0:30b3 0:30b5 0:30b7 0:30b9 0:30bb 0:30bd 0:30bf 0:30c1",
  "0:30c4 0:30c6 0:30c8 6:30d2 0:30d5 0:30d8 0:30db 5:30e4 0:30e6 a:4ee4.548c",
  "0:30a2.30d1.30fc.30c8 0:30a2.30eb.30d5.30a1 0:30a2.30f3.30da.30a2 0:30a2.30fc.30eb",
  "0:30a4.30cb.30f3.30b0 0:30a4.30f3.30c1 0:30a6.30a9.30f3 0:30a8.30b9.30af.30fc.30c9",
  "0:30a8.30fc.30ab.30fc 0:30aa.30f3.30b9 0:30aa.30fc.30e0 0:30ab.30a4.30ea",
  "0:30ab.30e9.30c3.30c8 0:30ab.30ed.30ea.30fc 0:30ac.30ed.30f3 0:30ac.30f3.30de 0:30ae.30ac",
  "0:30ae.30cb.30fc 0:30ad.30e5.30ea.30fc 0:30ae.30eb.30c0.30fc 0:30ad.30ed",
  "0:30ad.30ed.30b0.30e9.30e0 0:30ad.30ed.30e1.30fc.30c8.30eb 0:30ad.30ed.30ef.30c3.30c8",
  "0:30b0.30e9.30e0 0:30b0.30e9.30e0.30c8.30f3 0:30af.30eb.30bc.30a4.30ed 0:30af.30ed.30fc.30cd",
  "0:30b1.30fc.30b9 0:30b3.30eb.30ca 0:30b3.30fc.30dd 0:30b5.30a4.30af.30eb",
  "0:30b5.30f3.30c1.30fc.30e0 0:30b7.30ea.30f3.30b0 0:30bb.30f3.30c1 0:30bb.30f3.30c8",
  "0:30c0.30fc.30b9 0:30c7.30b7 0:30c9.30eb 0:30c8.30f3 0:30ca.30ce 0:30ce.30c3.30c8",
  "0:30cf.30a4.30c4 0:30d1.30fc.30bb.30f3.30c8 0:30d1.30fc.30c4 0:30d0.30fc.30ec.30eb",
  "0:30d4.30a2.30b9.30c8.30eb 0:30d4.30af.30eb 0:30d4.30b3 0:30d3.30eb",
  "0:30d5.30a1.30e9.30c3.30c9 0:30d5.30a3.30fc.30c8 0:30d6.30c3.30b7.30a7.30eb 0:30d5.30e9.30f3",
  "0:30d8.30af.30bf.30fc.30eb 0:30da.30bd 0:30da.30cb.30d2 0:30d8.30eb.30c4 0:30da.30f3.30b9",
  "0:30da.30fc.30b8 0:30d9.30fc.30bf 0:30dd.30a4.30f3.30c8 0:30dc.30eb.30c8 0:30db.30f3",
  "0:30dd.30f3.30c9 0:30db.30fc.30eb 0:30db.30fc.30f3 0:30de.30a4.30af.30ed 0:30de.30a4.30eb",
  "0:30de.30c3.30cf 0:30de.30eb.30af 0:30de.30f3.30b7.30e7.30f3 0:30df.30af.30ed.30f3",
  "0:30df.30ea 0:30df.30ea.30d0.30fc.30eb 0:30e1.30ac 0:30e1.30ac.30c8.30f3",
  "0:30e1.30fc.30c8.30eb 0:30e4.30fc.30c9 0:30e4.30fc.30eb 0:30e6.30a2.30f3",
  "0:30ea.30c3.30c8.30eb 0:30ea.30e9 0:30eb.30d4.30fc 0:30eb.30fc.30d6.30eb 0:30ec.30e0",
  "0:30ec.30f3.30c8.30b2.30f3 0:30ef.30c3.30c8 0:30.70b9 0:31.70b9 0:32.70b9 0:33.70b9",
  "0:34.70b9 0:35.70b9 0:36.70b9 0:37.70b9 0:38.70b9 0:39.70b9 0:31.30.70b9 0:31.31.70b9",
  "0:31.32.70b9 0:31.33.70b9 0:31.34.70b9 0:31.35.70b9 0:31.36.70b9 0:31.37.70b9 0:31.38.70b9",
  "0:31.39.70b9 0:32.30.70b9 0:32.31.70b9 0:32.32.70b9 0:32.33.70b9 0:32.34.70b9 0:68.70.61",
  "0:64.61 0:61.75 0:62.61.72 0:6f.76 0:70.63 0:64.6d 0:64.6d.32 0:64.6d.33 0:69.75 0:5e73.6210",
  "0:662d.548c 0:5927.6b63 0:660e.6cbb 0:682a.5f0f.4f1a.793e 0:70.61 0:6e.61 0:3bc.61 0:6d.61",
  "0:6b.61 0:6b.62 0:6d.62 0:67.62 0:63.61.6c 0:6b.63.61.6c 0:70.66 0:6e.66 0:3bc.66 0:3bc.67",
  "0:6d.67 0:6b.67 0:68.7a 0:6b.68.7a 0:6d.68.7a 0:67.68.7a 0:74.68.7a 0:3bc.6c 0:6d.6c 0:64.6c",
  "0:6b.6c 0:66.6d 0:6e.6d 0:3bc.6d 0:6d.6d 0:63.6d 0:6b.6d 0:6d.6d.32 0:63.6d.32 0:6d.32",
  "0:6b.6d.32 0:6d.6d.33 0:63.6d.33 0:6d.33 0:6b.6d.33 0:6d.2215.73 0:6d.2215.73.32 0:70.61",
  "0:6b.70.61 0:6d.70.61 0:67.70.61 0:72.61.64 0:72.61.64.2215.73 0:72.61.64.2215.73.32 0:70.73",
  "0:6e.73 0:3bc.73 0:6d.73 0:70.76 0:6e.76 0:3bc.76 0:6d.76 0:6b.76 0:6d.76 0:70.77 0:6e.77",
  "0:3bc.77 0:6d.77 0:6b.77 0:6d.77 0:6b.3c9 0:6d.3c9 1:62.71 0:63.63 0:63.64 0:63.2215.6b.67",
  "1:64.62 0:67.79 0:68.61 0:68.70 0:69.6e 0:6b.6b 0:6b.6d 0:6b.74 0:6c.6d 0:6c.6e 0:6c.6f.67",
  "0:6c.78 0:6d.62 0:6d.69.6c 0:6d.6f.6c 0:70.68 1:70.70.6d 0:70.72 0:73.72 0:73.76 0:77.62",
  "0:76.2215.6d 0:61.2215.6d 0:31.65e5 0:32.65e5 0:33.65e5 0:34.65e5 0:35.65e5 0:36.65e5",
  "0:37.65e5 0:38.65e5 0:39.65e5 0:31.30.65e5 0:31.31.65e5 0:31.32.65e5 0:31.33.65e5",
  "0:31.34.65e5 0:31.35.65e5 0:31.36.65e5 0:31.37.65e5 0:31.38.65e5 0:31.39.65e5 0:32.30.65e5",
  "0:32.31.65e5 0:32.32.65e5 0:32.33.65e5 0:32.34.65e5 0:32.35.65e5 0:32.36.65e5 0:32.37.65e5",
  "0:32.38.65e5 0:32.39.65e5 0:33.30.65e5 0:33.31.65e5 0:67.61.6c 729c:44a 0:44c d2:a76f 8:a77a",
  "1:a77c 1:1d79 d:a78c 1:265 2:a791 1:a793 17:266 0:25c 0:261 0:26c 0:26a 1:29e 0:287 0:29d",
  "0:ab53 10:a794 0:282 0:1d8e 0:a7c8 1:a7ca 1:264 0:a7cd 3:a7d1 5:a7d7 1:a7d9 1:a7db 1:19b",
  "15:63 0:66 0:71 0:a7f6 2:127 0:153 362:a727 0:ab37 0:26b 0:ab52 9:28d 4f96:66.66 0:66.69",
  "0:66.6c 0:66.66.69 0:66.66.6c 0:73.74 0:73.74 c:574.576 0:574.565 0:574.56b 0:57e.576",
  "0:574.56d 8:5e2 0:5d0 0:5d3 0:5d4 0:5db 0:5dc 0:5dd 0:5e8 0:5ea 0:2b 25:5d0.5dc 0:671 0:671",
  "0:67b 0:67b 0:67b 0:67b 0:67e 0:67e 0:67e 0:67e 0:680 0:680 0:680 0:680 0:67a 0:67a 0:67a",
  "0:67a 0:67f 0:67f 0:67f 0:67f 0:679 0:679 0:679 0:679 0:6a4 0:6a4 0:6a4 0:6a4 0:6a6 0:6a6",
  "0:6a6 0:6a6 0:684 0:684 0:684 0:684 0:683 0:683 0:683 0:683 0:686 0:686 0:686 0:686 0:687",
  "0:687 0:687 0:687 0:68d 0:68d 0:68c 0:68c 0:68e 0:68e 0:688 0:688 0:698 0:698 0:691 0:691",
  "0:6a9 0:6a9 0:6a9 0:6a9 0:6af 0:6af 0:6af 0:6af 0:6b3 0:6b3 0:6b3 0:6b3 0:6b1 0:6b1 0:6b1",
  "0:6b1 0:6ba 0:6ba 0:6bb 0:6bb 0:6bb 0:6bb 0:6c0 0:6c0 0:6c1 0:6c1 0:6c1 0:6c1 0:6be 0:6be",
  "0:6be 0:6be 0:6d2 0:6d2 0:6d3 0:6d3 21:6ad 0:6ad 0:6ad 0:6ad 0:6c7 0:6c7 0:6c6 0:6c6 0:6c8",
  "0:6c8 0:6c7.674 0:6cb 0:6cb 0:6c5 0:6c5 0:6c9 0:6c9 0:6d0 0:6d0 0:6d0 0:6d0 0:649 0:649",
  "0:626.627 0:626.627 0:626.6d5 0:626.6d5 0:626.648 0:626.648 0:626.6c7 0:626.6c7 0:626.6c6",
  "0:626.6c6 0:626.6c8 0:626.6c8 0:626.6d0 0:626.6d0 0:626.6d0 0:626.649 0:626.649 0:626.649",
  "0:6cc 0:6cc 0:6cc 0:6cc 0:626.62c 0:626.62d 0:626.645 0:626.649 0:626.64a 0:628.62c",
  "0:628.62d 0:628.62e 0:628.645 0:628.649 0:628.64a 0:62a.62c 0:62a.62d 0:62a.62e 0:62a.645",
  "0:62a.649 0:62a.64a 0:62b.62c 0:62b.645 0:62b.649 0:62b.64a 0:62c.62d 0:62c.645 0:62d.62c",
  "0:62d.645 0:62e.62c 0:62e.62d 0:62e.645 0:633.62c 0:633.62d 0:633.62e 0:633.645 0:635.62d",
  "0:635.645 0:636.62c 0:636.62d 0:636.62e 0:636.645 0:637.62d 0:637.645 0:638.645 0:639.62c",
  "0:639.645 0:63a.62c 0:63a.645 0:641.62c 0:641.62d 0:641.62e 0:641.645 0:641.649 0:641.64a",
  "0:642.62d 0:642.645 0:642.649 0:642.64a 0:643.627 0:643.62c 0:643.62d 0:643.62e 0:643.644",
  "0:643.645 0:643.649 0:643.64a 0:644.62c 0:644.62d 0:644.62e 0:644.645 0:644.649 0:644.64a",
  "0:645.62c 0:645.62d 0:645.62e 0:645.645 0:645.649 0:645.64a 0:646.62c 0:646.62d 0:646.62e",
  "0:646.645 0:646.649 0:646.64a 0:647.62c 0:647.645 0:647.649 0:647.64a 0:64a.62c 0:64a.62d",
  "0:64a.62e 0:64a.645 0:64a.649 0:64a.64a 0:630.670 0:631.670 0:649.670 0:20.64c.651",
  "0:20.64d.651 0:20.64e.651 0:20.64f.651 0:20.650.651 0:20.651.670 0:626.631 0:626.632",
  "0:626.645 0:626.646 0:626.649 0:626.64a 0:628.631 0:628.632 0:628.645 0:628.646 0:628.649",
  "0:628.64a 0:62a.631 0:62a.632 0:62a.645 0:62a.646 0:62a.649 0:62a.64a 0:62b.631 0:62b.632",
  "0:62b.645 0:62b.646 0:62b.649 0:62b.64a 0:641.649 0:641.64a 0:642.649 0:642.64a 0:643.627",
  "0:643.644 0:643.645 0:643.649 0:643.64a 0:644.645 0:644.649 0:644.64a 0:645.627 0:645.645",
  "0:646.631 0:646.632 0:646.645 0:646.646 0:646.649 0:646.64a 0:649.670 0:64a.631 0:64a.632",
  "0:64a.645 0:64a.646 0:64a.649 0:64a.64a 0:626.62c 0:626.62d 0:626.62e 0:626.645 0:626.647",
  "0:628.62c 0:628.62d 0:628.62e 0:628.645 0:628.647 0:62a.62c 0:62a.62d 0:62a.62e 0:62a.645",
  "0:62a.647 0:62b.645 0:62c.62d 0:62c.645 0:62d.62c 0:62d.645 0:62e.62c 0:62e.645 0:633.62c",
  "0:633.62d 0:633.62e 0:633.645 0:635.62d 0:635.62e 0:635.645 0:636.62c 0:636.62d 0:636.62e",
  "0:636.645 0:637.62d 0:638.645 0:639.62c 0:639.645 0:63a.62c 0:63a.645 0:641.62c 0:641.62d",
  "0:641.62e 0:641.645 0:642.62d 0:642.645 0:643.62c 0:643.62d 0:643.62e 0:643.644 0:643.645",
  "0:644.62c 0:644.62d 0:644.62e 0:644.645 0:644.647 0:645.62c 0:645.62d 0:645.62e 0:645.645",
  "0:646.62c 0:646.62d 0:646.62e 0:646.645 0:646.647 0:647.62c 0:647.645 0:647.670 0:64a.62c",
  "0:64a.62d 0:64a.62e 0:64a.645 0:64a.647 0:626.645 0:626.647 0:628.645 0:628.647 0:62a.645",
  "0:62a.647 0:62b.645 0:62b.647 0:633.645 0:633.647 0:634.645 0:634.647 0:643.644 0:643.645",
  "0:644.645 0:646.645 0:646.647 0:64a.645 0:64a.647 0:640.64e.651 0:640.64f.651 0:640.650.651",
  "0:637.649 0:637.64a 0:639.649 0:639.64a 0:63a.649 0:63a.64a 0:633.649 0:633.64a 0:634.649",
  "0:634.64a 0:62d.649 0:62d.64a 0:62c.649 0:62c.64a 0:62e.649 0:62e.64a 0:635.649 0:635.64a",
  "0:636.649 0:636.64a 0:634.62c 0:634.62d 0:634.62e 0:634.645 0:634.631 0:633.631 0:635.631",
  "0:636.631 0:637.649 0:637.64a 0:639.649 0:639.64a 0:63a.649 0:63a.64a 0:633.649 0:633.64a",
  "0:634.649 0:634.64a 0:62d.649 0:62d.64a 0:62c.649 0:62c.64a 0:62e.649 0:62e.64a 0:635.649",
  "0:635.64a 0:636.649 0:636.64a 0:634.62c 0:634.62d 0:634.62e 0:634.645 0:634.631 0:633.631",
  "0:635.631 0:636.631 0:634.62c 0:634.62d 0:634.62e 0:634.645 0:633.647 0:634.647 0:637.645",
  "0:633.62c 0:633.62d 0:633.62e 0:634.62c 0:634.62d 0:634.62e 0:637.645 0:638.645 0:627.64b",
  "0:627.64b 12:62a.62c.645 0:62a.62d.62c 0:62a.62d.62c 0:62a.62d.645 0:62a.62e.645",
  "0:62a.645.62c 0:62a.645.62d 0:62a.645.62e 0:62c.645.62d 0:62c.645.62d 0:62d.645.64a",
  "0:62d.645.649 0:633.62d.62c 0:633.62c.62d 0:633.62c.649 0:633.645.62d 0:633.645.62d",
  "0:633.645.62c 0:633.645.645 0:633.645.645 0:635.62d.62d 0:635.62d.62d 0:635.645.645",
  "0:634.62d.645 0:634.62d.645 0:634.62c.64a 0:634.645.62e 0:634.645.62e 0:634.645.645",
  "0:634.645.645 0:636.62d.649 0:636.62e.645 0:636.62e.645 0:637.645.62d 0:637.645.62d",
  "0:637.645.645 0:637.645.64a 0:639.62c.645 0:639.645.645 0:639.645.645 0:639.645.649",
  "0:63a.645.645 0:63a.645.64a 0:63a.645.649 0:641.62e.645 0:641.62e.645 0:642.645.62d",
  "0:642.645.645 0:644.62d.645 0:644.62d.64a 0:644.62d.649 0:644.62c.62c 0:644.62c.62c",
  "0:644.62e.645 0:644.62e.645 0:644.645.62d 0:644.645.62d 0:645.62d.62c 0:645.62d.645",
  "0:645.62d.64a 0:645.62c.62d 0:645.62c.645 0:645.62e.62c 0:645.62e.645 2:645.62c.62e",
  "0:647.645.62c 0:647.645.645 0:646.62d.645 0:646.62d.649 0:646.62c.645 0:646.62c.645",
  "0:646.62c.649 0:646.645.64a 0:646.645.649 0:64a.645.645 0:64a.645.645 0:628.62e.64a",
  "0:62a.62c.64a 0:62a.62c.649 0:62a.62e.64a 0:62a.62e.649 0:62a.645.64a 0:62a.645.649",
  "0:62c.645.64a 0:62c.62d.649 0:62c.645.649 0:633.62e.649 0:635.62d.64a 0:634.62d.64a",
  "0:636.62d.64a 0:644.62c.64a 0:644.645.64a 0:64a.62d.64a 0:64a.62c.64a 0:64a.645.64a",
  "0:645.645.64a 0:642.645.64a 0:646.62d.64a 0:642.645.62d 0:644.62d.645 0:639.645.64a",
  "0:643.645.64a 0:646.62c.62d 0:645.62e.64a 0:644.62c.645 0:643.645.645 0:644.62c.645",
  "0:646.62c.62d 0:62c.62d.64a 0:62d.62c.64a 0:645.62c.64a 0:641.645.64a 0:628.62d.64a",
  "0:643.645.645 0:639.62c.645 0:635.645.645 0:633.62e.64a 0:646.62c.64a 28:635.644.6d2",
  "0:642.644.6d2 0:627.644.644.647 0:627.643.628.631 0:645.62d.645.62f 0:635.644.639.645",
  "0:631.633.648.644 0:639.644.64a.647 0:648.633.644.645 0:635.644.649",
  "0:635.644.649.20.627.644.644.647.20.639.644.64a.647.20.648.633.644.645",
  "0:62c.644.20.62c.644.627.644.647 0:631.6cc.627.644 3: 0: 0: 0: 0: 0: 0: 0: 0: 0: 0: 0: 0: 0:",
  "0: 0: 0:2c 0:3001 1:3a 0:3b 0:21 0:3f 0:3016 0:3017 18:2014 0:2013 0:5f 0:5f 0:28 0:29 0:7b",
  "0:7d 0:3014 0:3015 0:3010 0:3011 0:300a 0:300b 0:3008 0:3009 6:5b 0:5d 0:20.305 0:20.305",
  "0:20.305 0:20.305 0:5f 0:5f 0:5f 0:2c 0:3001 2:3b 0:3a 0:3f 0:21 0:2014 0:28 0:29 0:7b 0:7d",
  "0:3014 0:3015 0:23 0:26 0:2a 0:2b 0:2d 0:3c 0:3e 0:3d 1:5c 0:24 0:25 0:40 4:20.64b 0:640.64b",
  "0:20.64c 1:20.64d 1:20.64e 0:640.64e 0:20.64f 0:640.64f 0:20.650 0:640.650 0:20.651",
  "0:640.651 0:20.652 0:640.652 0:621 0:622 0:622 0:623 0:623 0:624 0:624 0:625 0:625 0:626",
  "0:626 0:626 0:626 0:627 0:627 0:628 0:628 0:628 0:628 0:629 0:629 0:62a 0:62a 0:62a 0:62a",
  "0:62b 0:62b 0:62b 0:62b 0:62c 0:62c 0:62c 0:62c 0:62d 0:62d 0:62d 0:62d 0:62e 0:62e 0:62e",
  "0:62e 0:62f 0:62f 0:630 0:630 0:631 0:631 0:632 0:632 0:633 0:633 0:633 0:633 0:634 0:634",
  "0:634 0:634 0:635 0:635 0:635 0:635 0:636 0:636 0:636 0:636 0:637 0:637 0:637 0:637 0:638",
  "0:638 0:638 0:638 0:639 0:639 0:639 0:639 0:63a 0:63a 0:63a 0:63a 0:641 0:641 0:641 0:641",
  "0:642 0:642 0:642 0:642 0:643 0:643 0:643 0:643 0:644 0:644 0:644 0:644 0:645 0:645 0:645",
  "0:645 0:646 0:646 0:646 0:646 0:647 0:647 0:647 0:647 0:648 0:648 0:649 0:649 0:64a 0:64a",
  "0:64a 0:64a 0:644.622 0:644.622 0:644.623 0:644.623 0:644.625 0:644.625 0:644.627 0:644.627",
  "2: 5f:2985 0:2986 0:2e 0:300c 0:300d 0:3001 0:30fb 0:30f2 0:30a1 0:30a3 0:30a5 0:30a7 0:30a9",
  "0:30e3 0:30e5 0:30e7 0:30c3 0:30fc 0:30a2 0:30a4 0:30a6 0:30a8 0:30aa 0:30ab 0:30ad 0:30af",
  "0:30b1 0:30b3 0:30b5 0:30b7 0:30b9 0:30bb 0:30bd 0:30bf 0:30c1 0:30c4 0:30c6 0:30c8 6:30d2",
  "0:30d5 0:30d8 0:30db 5:30e4 0:30e6 6:30ef 0:30f3 0:3099 0:309a 0: 0:1100 0:1101 0:11aa",
  "0:1102 0:11ac 0:11ad 0:1103 0:1104 0:1105 6:111a 0:1106 0:1107 0:1108 0:1121 25:1173 0:1174",
  "0:1175 3:a2 0:a3 0:ac 0:20.304 0:a6 0:a5 0:20a9 1:2502 4:25a0 0:25cb 582:10598 1:1059a",
  "1:1059c 1:1059e 1:105a0 3:105a4 1:105a6 1:105a8 1:105aa 1:105ac 1:105ae 1:105b0 3:105b4",
  "1:105b6 1:105b8 3:105bc 1eb:2d0 0:2d1 0:e6 0:299 0:253 1:2a3 0:ab66 0:2a5 0:2a4 0:256 0:257",
  "0:1d91 0:258 0:25e 0:2a9 0:264 0:262 0:260 0:29b 0:127 0:29c 0:267 0:284 0:2aa 0:2ab 0:26c",
  "0:1df04 0:a78e 0:26e 0:1df05 0:28e 0:1df06 0:f8 0:276 0:277 0:71 0:27a 0:1df08 0:27d 0:27e",
  "0:280 0:2a8 0:2a6 0:ab67 0:2a7 0:288 0:2c71 1:28f 0:2a1 0:2a2 0:298 0:1c0 0:1c1 0:1c2",
  "0:1df0a 0:1df1e b4e5: 0: 0: 0: 14cf: 0: 0: 0: 0: 0: 0: 0: 2d4:62 1:64 1:66 3:6a 1:6c 1:6e",
  "1:70 1:72 1:74 1:76 1:78 1:7a 34:61 1:63 0:64 2:67 2:6a 0:6b 17:69 1:6b 1:6d 3:71 1:73 1:75",
  "1:77 1:79 35:61 0:62 32:61 0:62 c:6f 15d:131 0:237 13:3b8 7:2207 11:3c3 7:2202 0:3b5 0:3b8",
  "0:3ba 0:3c6 0:3c1 0:3c0 11:3b8 7:2207 11:3c3 7:2202 0:3b5 0:3b8 0:3ba 0:3c6 0:3c1 0:3c0",
  "11:3b8 7:2207 11:3c3 7:2202 0:3b5 0:3b8 0:3ba 0:3c6 0:3c1 0:3c0 11:3b8 7:2207 11:3c3 7:2202",
  "0:3b5 0:3b8 0:3ba 0:3c6 0:3c1 0:3c0 11:3b8 7:2207 11:3c3 7:2202 0:3b5 0:3b8 0:3ba 0:3c6",
  "0:3c1 0:3c0 0:3dd 0:3dd 864:430 0:431 0:432 0:433 0:434 0:435 0:436 0:437 0:438 0:43a 0:43b",
  "0:43c 0:43e 0:43f 0:440 0:441 0:442 0:443 0:444 0:445 0:446 0:447 0:448 0:44b 0:44d 0:44e",
  "0:a689 0:4d9 0:456 0:458 0:4e9 0:4af 0:4cf 0:430 0:431 0:432 0:433 0:434 0:435 0:436 0:437",
  "0:438 0:43a 0:43b 0:43e 0:43f 0:441 0:443 0:444 0:445 0:446 0:447 0:448 0:44a 0:44b 0:491",
  "0:456 0:455 0:45f 0:4ab 0:a651 0:4b1 d92:627 0:628 0:62c 0:62f 1:648 0:632 0:62d 0:637 0:64a",
  "4:633 0:639 0:641 0:635 0:642 0:631 0:634 0:62a 0:62b 0:62e 0:630 0:636 0:638 0:63a 0:66e",
  "0:6ba 0:6a1 0:66f 1:628 0:62c 1:647 2:62d 1:64a 4:633 0:639 0:641 0:635 0:642 1:634 0:62a",
  "0:62b 0:62e 1:636 1:63a 6:62c 4:62d 1:64a 1:644 1:646 0:633 0:639 1:635 0:642 1:634 2:62e",
  "1:636 1:63a 1:6ba 1:66f 1:628 0:62c 1:647 2:62d 0:637 0:64a 0:643 1:645 0:646 0:633 0:639",
  "0:641 0:635 0:642 1:634 0:62a 0:62b 0:62e 1:636 0:638 0:63a 0:66e 1:6a1 1:627 0:628 0:62c",
  "0:62f 0:647 0:648 0:632 0:62d 0:637 0:64a 1:644 0:645 0:646 0:633 0:639 0:641 0:635 0:642",
  "0:631 0:634 0:62a 0:62b 0:62e 0:630 0:636 0:638 0:63a 5:628 0:62c 0:62f 1:648 0:632 0:62d",
  "0:637 0:64a 1:644 0:645 0:646 0:633 0:639 0:641 0:635 0:642 0:631 0:634 0:62a 0:62b 0:62e",
  "0:630 0:636 0:638 0:63a 245:30.2c 0:31.2c 0:32.2c 0:33.2c 0:34.2c 0:35.2c 0:36.2c 0:37.2c",
  "0:38.2c 0:39.2c 5:28.61.29 0:28.62.29 0:28.63.29 0:28.64.29 0:28.65.29 0:28.66.29 0:28.67.29",
  "0:28.68.29 0:28.69.29 0:28.6a.29 0:28.6b.29 0:28.6c.29 0:28.6d.29 0:28.6e.29 0:28.6f.29",
  "0:28.70.29 0:28.71.29 0:28.72.29 0:28.73.29 0:28.74.29 0:28.75.29 0:28.76.29 0:28.77.29",
  "0:28.78.29 0:28.79.29 0:28.7a.29 0:3014.73.3015 0:63 0:72 0:63.64 0:77.7a 1b:68.76 0:6d.76",
  "0:73.64 0:73.73 0:70.70.76 0:77.63 1a:6d.63 0:6d.64 0:6d.72 23:64.6a 6f:307b.304b",
  "0:30b3.30b3 0:30b5 d:624b 0:5b57 0:53cc 0:30c7 0:4e8c 0:591a 0:89e3 0:5929 0:4ea4 0:6620",
  "0:7121 0:6599 0:524d 0:5f8c 0:518d 0:65b0 0:521d 0:7d42 0:751f 0:8ca9 0:58f0 0:5439 0:6f14",
  "0:6295 0:6355 0:4e00 0:4e09 0:904a 0:5de6 0:4e2d 0:53f3 0:6307 0:8d70 0:6253 0:7981 0:7a7a",
  "0:5408 0:6e80 0:6709 0:6708 0:7533 0:5272 0:55b6 0:914d 4:3014.672c.3015 0:3014.4e09.3015",
  "0:3014.4e8c.3015 0:3014.5b89.3015 0:3014.70b9.3015 0:3014.6253.3015 0:3014.76d7.3015",
  "0:3014.52dd.3015 0:3014.6557.3015 7:5f97 0:53ef c0eae: 0: 0: 0: 0: 0: 0: 0: 0: 0: 0: 0: 0:",
  "0: 0: 0: 0: 0: 0: 0: 0: 0: 0: 0: 0: 0: 0: 0: 0: 0: 0: 0: 0: 0: 0: 0: 0: 0: 0: 0: 0: 0: 0: 0:",
  "0: 0: 0: 0: 0: 0: 0: 0: 0: 0: 0: 0: 0: 0: 0: 0: 0: 0: 0: 0: 0: 0: 0: 0: 0: 0: 0: 0: 0: 0: 0:",
  "0: 0: 0: 0: 0: 0: 0: 0: 0: 0: 0: 0: 0: 0: 0: 0: 0: 0: 0: 0: 0: 0: 0: 0: 0: 0: 0: 0: 0: 0: 0:",
  "0: 0: 0: 0: 0: 0: 0: 0: 0: 0: 0: 0: 0: 0: 0: 0: 0: 0: 0: 0: 0: 0: 0: 0: 0: 0: 0: 0: 0: 0: 0:",
  "0: 0: 0: 0: 0: 0: 0: 0: 0: 0: 0: 0: 0: 0: 0: 0: 0: 0: 0: 0: 0: 0: 0: 0: 0: 0: 0: 0: 0: 0: 0:",
  "0: 0: 0: 0: 0: 0: 0: 0: 0: 0: 0: 0: 0: 0: 0: 0: 0: 0: 0: 0: 0: 0: 0: 0: 0: 0: 0: 0: 0: 0: 0:",
  "0: 0: 0: 0: 0: 0: 0: 0: 0: 0: 0: 0: 0: 0: 0: 0: 0: 0: 0: 0: 0: 0: 0: 0: 0: 0: 0: 0: 0: 0: 0:",
  "0: 0: 0: 0: 0: 0: 0: 0: 0: 0:"]

def foldingEntries : List (Nat × List Nat) := unpack foldingLines

/-- First code point and count: signs with a full stop in them, and signs that describe or replace
other characters. -/
def refusedRuns : List (Nat × Nat) := [
  (0x2024, 3), (0x2488, 20), (0x2FF0, 16), (0x31EF, 1), (0x33C2, 1), (0x33C7, 1), (0x33D8, 1),
  (0xFE12, 1), (0xFE19, 1), (0xFE30, 1), (0xFE52, 1), (0xFFFC, 2), (0x1F100, 1)]

/-- The code point that a code point in a run stands for. -/
def foldedInRun? (n : Nat) : List (Nat × Nat × Nat × Nat) → Option Nat
  | [] => none
  | (first, count, distance, image) :: runs =>
    if first ≤ n ∧ n < first + count * distance ∧ (n - first) % distance = 0 then
      some (image + (n - first))
    else foldedInRun? n runs

/-- What a character stands for in a name; `none` if no name may hold it. -/
def folded? (c : Char) : Option (List Char) :=
  if c.toNat < 0x80 then some [c.toLower]
  else
    match foldedInRun? c.toNat foldingRuns with
    | some n => some [Char.ofNat n]
    | none =>
      match foldingEntries.lookup c.toNat with
      | some ns => some (ns.map Char.ofNat)
      | none =>
        let refused := refusedRuns.any fun r => r.1 ≤ c.toNat && c.toNat < r.1 + r.2
        if (isGraphic c || isMark c) && !refused then some [c] else none

end DatabaseResource.Text
