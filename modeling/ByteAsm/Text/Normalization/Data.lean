/-!
# Data of compatibility composition

The tables behind the compatibility composition of `ByteAsm.Text.Normalization`, each a text of
rows in hexadecimal, one row a line, its fields parted by spaces. The decompositions are those of
version 3.2 of the Unicode standard, which internationalized domain names follow; the combining
classes and the compositions are those of version 14.0.
-/

namespace ByteAsm

namespace Text

/-- Part 1 of `decompositionRows`. -/
def decompositionRowsPart1 : String :=
  "A0 20\nA8 20 308\nAA 61\nAF 20 304\nB2 32\nB3 33\nB4 20 301\nB5 3BC\nB8 20 327\nB9 31\nBA 6F\n" ++
  "BC 31 2044 34\nBD 31 2044 32\nBE 33 2044 34\nC0 41 300\nC1 41 301\nC2 41 302\nC3 41 303\nC4 41 308\n" ++
  "C5 41 30A\nC7 43 327\nC8 45 300\nC9 45 301\nCA 45 302\nCB 45 308\nCC 49 300\nCD 49 301\nCE 49 302\n" ++
  "CF 49 308\nD1 4E 303\nD2 4F 300\nD3 4F 301\nD4 4F 302\nD5 4F 303\nD6 4F 308\nD9 55 300\nDA 55 301\n" ++
  "DB 55 302\nDC 55 308\nDD 59 301\nE0 61 300\nE1 61 301\nE2 61 302\nE3 61 303\nE4 61 308\nE5 61 30A\n" ++
  "E7 63 327\nE8 65 300\nE9 65 301\nEA 65 302\nEB 65 308\nEC 69 300\nED 69 301\nEE 69 302\nEF 69 308\n" ++
  "F1 6E 303\nF2 6F 300\nF3 6F 301\nF4 6F 302\nF5 6F 303\nF6 6F 308\nF9 75 300\nFA 75 301\nFB 75 302\n" ++
  "FC 75 308\nFD 79 301\nFF 79 308\n100 41 304\n101 61 304\n102 41 306\n103 61 306\n104 41 328\n" ++
  "105 61 328\n106 43 301\n107 63 301\n108 43 302\n109 63 302\n10A 43 307\n10B 63 307\n10C 43 30C\n" ++
  "10D 63 30C\n10E 44 30C\n10F 64 30C\n112 45 304\n113 65 304\n114 45 306\n115 65 306\n116 45 307\n" ++
  "117 65 307\n118 45 328\n119 65 328\n11A 45 30C\n11B 65 30C\n11C 47 302\n11D 67 302\n11E 47 306\n" ++
  "11F 67 306\n120 47 307\n121 67 307\n122 47 327\n123 67 327\n124 48 302\n125 68 302\n128 49 303\n" ++
  "129 69 303\n12A 49 304\n12B 69 304\n12C 49 306\n12D 69 306\n12E 49 328\n12F 69 328\n130 49 307\n" ++
  "132 49 4A\n133 69 6A\n134 4A 302\n135 6A 302\n136 4B 327\n137 6B 327\n139 4C 301\n13A 6C 301\n" ++
  "13B 4C 327\n13C 6C 327\n13D 4C 30C\n13E 6C 30C\n13F 4C B7\n140 6C B7\n143 4E 301\n144 6E 301\n" ++
  "145 4E 327\n146 6E 327\n147 4E 30C\n148 6E 30C\n149 2BC 6E\n14C 4F 304\n14D 6F 304\n14E 4F 306\n" ++
  "14F 6F 306\n150 4F 30B\n151 6F 30B\n154 52 301\n155 72 301\n156 52 327\n157 72 327\n158 52 30C\n" ++
  "159 72 30C\n15A 53 301\n15B 73 301\n15C 53 302\n15D 73 302\n15E 53 327\n15F 73 327\n160 53 30C\n" ++
  "161 73 30C\n162 54 327\n163 74 327\n164 54 30C\n165 74 30C\n168 55 303\n169 75 303\n16A 55 304\n" ++
  "16B 75 304\n16C 55 306\n16D 75 306\n16E 55 30A\n16F 75 30A\n170 55 30B\n171 75 30B\n172 55 328\n" ++
  "173 75 328\n174 57 302\n175 77 302\n176 59 302\n177 79 302\n178 59 308\n179 5A 301\n17A 7A 301\n" ++
  "17B 5A 307\n17C 7A 307\n17D 5A 30C\n17E 7A 30C\n17F 73\n1A0 4F 31B\n1A1 6F 31B\n1AF 55 31B\n1B0 75 31B\n" ++
  "1C4 44 5A 30C\n1C5 44 7A 30C\n1C6 64 7A 30C\n1C7 4C 4A\n1C8 4C 6A\n1C9 6C 6A\n1CA 4E 4A\n1CB 4E 6A\n" ++
  "1CC 6E 6A\n1CD 41 30C\n1CE 61 30C\n1CF 49 30C\n1D0 69 30C\n1D1 4F 30C\n1D2 6F 30C\n1D3 55 30C\n" ++
  "1D4 75 30C\n1D5 55 308 304\n1D6 75 308 304\n1D7 55 308 301\n1D8 75 308 301\n1D9 55 308 30C\n1DA 75 308 30C\n" ++
  "1DB 55 308 300\n1DC 75 308 300\n1DE 41 308 304\n1DF 61 308 304\n1E0 41 307 304\n1E1 61 307 304\n" ++
  "1E2 C6 304\n1E3 E6 304\n1E6 47 30C\n1E7 67 30C\n1E8 4B 30C\n1E9 6B 30C\n1EA 4F 328\n1EB 6F 328\n" ++
  "1EC 4F 328 304\n1ED 6F 328 304\n1EE 1B7 30C\n1EF 292 30C\n1F0 6A 30C\n1F1 44 5A\n1F2 44 7A\n1F3 64 7A\n" ++
  "1F4 47 301\n1F5 67 301\n1F8 4E 300\n1F9 6E 300\n1FA 41 30A 301\n1FB 61 30A 301\n1FC C6 301\n1FD E6 301\n" ++
  "1FE D8 301\n1FF F8 301\n200 41 30F\n201 61 30F\n202 41 311\n203 61 311\n204 45 30F\n205 65 30F\n" ++
  "206 45 311\n207 65 311\n208 49 30F\n209 69 30F\n20A 49 311\n20B 69 311\n20C 4F 30F\n20D 6F 30F\n" ++
  "20E 4F 311\n20F 6F 311\n210 52 30F\n211 72 30F\n212 52 311\n213 72 311\n214 55 30F\n215 75 30F\n" ++
  "216 55 311\n217 75 311\n218 53 326\n219 73 326\n21A 54 326\n21B 74 326\n21E 48 30C\n21F 68 30C\n" ++
  "226 41 307\n227 61 307\n228 45 327\n229 65 327\n22A 4F 308 304\n22B 6F 308 304\n22C 4F 303 304\n" ++
  "22D 6F 303 304\n22E 4F 307\n22F 6F 307\n230 4F 307 304\n231 6F 307 304\n232 59 304\n233 79 304\n" ++
  "2B0 68\n2B1 266\n2B2 6A\n2B3 72\n2B4 279\n2B5 27B\n2B6 281\n2B7 77\n2B8 79\n2D8 20 306\n2D9 20 307\n" ++
  "2DA 20 30A\n2DB 20 328\n2DC 20 303\n2DD 20 30B\n2E0 263\n2E1 6C\n2E2 73\n2E3 78\n2E4 295\n340 300\n" ++
  "341 301\n343 313\n344 308 301\n374 2B9\n37A 20 345\n37E 3B\n384 20 301\n385 20 308 301\n386 391 301\n" ++
  "387 B7\n388 395 301\n389 397 301\n38A 399 301\n38C 39F 301\n38E 3A5 301\n38F 3A9 301\n390 3B9 308 301\n" ++
  "3AA 399 308\n3AB 3A5 308\n3AC 3B1 301\n3AD 3B5 301\n3AE 3B7 301\n3AF 3B9 301\n3B0 3C5 308 301\n" ++
  "3CA 3B9 308\n3CB 3C5 308\n3CC 3BF 301\n3CD 3C5 301\n3CE 3C9 301\n3D0 3B2\n3D1 3B8\n3D2 3A5\n3D3 3A5 301\n" ++
  "3D4 3A5 308\n3D5 3C6\n3D6 3C0\n3F0 3BA\n3F1 3C1\n3F2 3C2\n3F4 398\n3F5 3B5\n400 415 300\n401 415 308\n" ++
  "403 413 301\n407 406 308\n40C 41A 301\n40D 418 300\n40E 423 306\n419 418 306\n439 438 306\n450 435 300\n" ++
  "451 435 308\n453 433 301\n457 456 308\n45C 43A 301\n45D 438 300\n45E 443 306\n476 474 30F\n477 475 30F\n" ++
  "4C1 416 306\n4C2 436 306\n4D0 410 306\n4D1 430 306\n4D2 410 308\n4D3 430 308\n4D6 415 306\n4D7 435 306\n" ++
  "4DA 4D8 308\n4DB 4D9 308\n4DC 416 308\n4DD 436 308\n4DE 417 308\n4DF 437 308\n4E2 418 304\n4E3 438 304\n" ++
  "4E4 418 308\n4E5 438 308\n4E6 41E 308\n4E7 43E 308\n4EA 4E8 308\n4EB 4E9 308\n4EC 42D 308\n4ED 44D 308\n" ++
  "4EE 423 304\n4EF 443 304\n4F0 423 308\n4F1 443 308\n4F2 423 30B\n4F3 443 30B\n4F4 427 308\n4F5 447 308\n" ++
  "4F8 42B 308\n4F9 44B 308\n587 565 582\n622 627 653\n623 627 654\n624 648 654\n625 627 655\n626 64A 654\n" ++
  "675 627 674\n676 648 674\n677 6C7 674\n678 64A 674\n6C0 6D5 654\n6C2 6C1 654\n6D3 6D2 654\n929 928 93C\n" ++
  "931 930 93C\n934 933 93C\n958 915 93C\n959 916 93C\n95A 917 93C\n95B 91C 93C\n95C 921 93C\n95D 922 93C\n" ++
  "95E 92B 93C\n95F 92F 93C\n9CB 9C7 9BE\n9CC 9C7 9D7\n9DC 9A1 9BC\n9DD 9A2 9BC\n9DF 9AF 9BC\nA33 A32 A3C\n" ++
  "A36 A38 A3C\nA59 A16 A3C\nA5A A17 A3C\nA5B A1C A3C\nA5E A2B A3C\nB48 B47 B56\nB4B B47 B3E\nB4C B47 B57\n" ++
  "B5C B21 B3C\nB5D B22 B3C\nB94 B92 BD7\nBCA BC6 BBE\nBCB BC7 BBE\nBCC BC6 BD7\nC48 C46 C56\nCC0 CBF CD5\n" ++
  "CC7 CC6 CD5\nCC8 CC6 CD6\nCCA CC6 CC2\nCCB CC6 CC2 CD5\nD4A D46 D3E\nD4B D47 D3E\nD4C D46 D57\n" ++
  "DDA DD9 DCA\nDDC DD9 DCF\nDDD DD9 DCF DCA\nDDE DD9 DDF\nE33 E4D E32\nEB3 ECD EB2\nEDC EAB E99\n" ++
  "EDD EAB EA1\nF0C F0B\nF43 F42 FB7\nF4D F4C FB7\nF52 F51 FB7\nF57 F56 FB7\nF5C F5B FB7\nF69 F40 FB5\n" ++
  "F73 F71 F72\nF75 F71 F74\nF76 FB2 F80\nF77 FB2 F71 F80\nF78 FB3 F80\nF79 FB3 F71 F80\nF81 F71 F80\n" ++
  "F93 F92 FB7\nF9D F9C FB7\nFA2 FA1 FB7\nFA7 FA6 FB7\nFAC FAB FB7\nFB9 F90 FB5\n1026 1025 102E\n" ++
  "1E00 41 325\n1E01 61 325\n1E02 42 307\n1E03 62 307\n1E04 42 323\n1E05 62 323\n1E06 42 331\n1E07 62 331\n" ++
  "1E08 43 327 301\n1E09 63 327 301\n1E0A 44 307\n1E0B 64 307\n1E0C 44 323\n1E0D 64 323\n1E0E 44 331\n" ++
  "1E0F 64 331\n1E10 44 327\n1E11 64 327\n1E12 44 32D\n1E13 64 32D\n1E14 45 304 300\n1E15 65 304 300\n" ++
  "1E16 45 304 301\n1E17 65 304 301\n1E18 45 32D\n1E19 65 32D\n1E1A 45 330\n1E1B 65 330\n1E1C 45 327 306\n" ++
  "1E1D 65 327 306\n1E1E 46 307\n1E1F 66 307\n1E20 47 304\n1E21 67 304\n1E22 48 307\n1E23 68 307\n" ++
  "1E24 48 323\n1E25 68 323\n1E26 48 308\n1E27 68 308\n1E28 48 327\n1E29 68 327\n1E2A 48 32E\n1E2B 68 32E\n" ++
  "1E2C 49 330\n1E2D 69 330\n1E2E 49 308 301\n1E2F 69 308 301\n1E30 4B 301\n1E31 6B 301\n1E32 4B 323\n" ++
  "1E33 6B 323\n1E34 4B 331\n1E35 6B 331\n1E36 4C 323\n1E37 6C 323\n1E38 4C 323 304\n1E39 6C 323 304\n" ++
  "1E3A 4C 331\n1E3B 6C 331\n1E3C 4C 32D\n1E3D 6C 32D\n1E3E 4D 301\n1E3F 6D 301\n1E40 4D 307\n1E41 6D 307\n" ++
  "1E42 4D 323\n1E43 6D 323\n1E44 4E 307\n1E45 6E 307\n1E46 4E 323\n1E47 6E 323\n1E48 4E 331\n1E49 6E 331\n" ++
  "1E4A 4E 32D\n1E4B 6E 32D\n1E4C 4F 303 301\n1E4D 6F 303 301\n1E4E 4F 303 308\n1E4F 6F 303 308\n" ++
  "1E50 4F 304 300\n1E51 6F 304 300\n1E52 4F 304 301\n1E53 6F 304 301\n1E54 50 301\n1E55 70 301\n" ++
  "1E56 50 307\n1E57 70 307\n1E58 52 307\n1E59 72 307\n1E5A 52 323\n1E5B 72 323\n1E5C 52 323 304\n" ++
  "1E5D 72 323 304\n1E5E 52 331\n1E5F 72 331\n1E60 53 307\n1E61 73 307\n1E62 53 323\n1E63 73 323\n" ++
  "1E64 53 301 307\n1E65 73 301 307\n1E66 53 30C 307\n1E67 73 30C 307\n1E68 53 323 307\n1E69 73 323 307\n" ++
  "1E6A 54 307\n1E6B 74 307\n1E6C 54 323\n1E6D 74 323\n1E6E 54 331\n1E6F 74 331\n1E70 54 32D\n1E71 74 32D\n" ++
  "1E72 55 324\n1E73 75 324\n1E74 55 330\n1E75 75 330\n1E76 55 32D\n1E77 75 32D\n1E78 55 303 301\n" ++
  "1E79 75 303 301\n1E7A 55 304 308\n1E7B 75 304 308\n1E7C 56 303\n1E7D 76 303\n1E7E 56 323\n1E7F 76 323\n" ++
  "1E80 57 300\n1E81 77 300\n1E82 57 301\n1E83 77 301\n1E84 57 308\n1E85 77 308\n1E86 57 307\n1E87 77 307\n" ++
  "1E88 57 323\n1E89 77 323\n1E8A 58 307\n1E8B 78 307\n1E8C 58 308\n1E8D 78 308\n1E8E 59 307\n1E8F 79 307\n" ++
  "1E90 5A 302\n1E91 7A 302\n1E92 5A 323\n1E93 7A 323\n1E94 5A 331\n1E95 7A 331\n1E96 68 331\n1E97 74 308\n" ++
  "1E98 77 30A\n1E99 79 30A\n1E9A 61 2BE\n1E9B 73 307\n1EA0 41 323\n1EA1 61 323\n1EA2 41 309\n1EA3 61 309\n" ++
  "1EA4 41 302 301\n1EA5 61 302 301\n1EA6 41 302 300\n1EA7 61 302 300\n1EA8 41 302 309\n1EA9 61 302 309\n" ++
  "1EAA 41 302 303\n1EAB 61 302 303\n1EAC 41 323 302\n1EAD 61 323 302\n1EAE 41 306 301\n1EAF 61 306 301\n" ++
  "1EB0 41 306 300\n1EB1 61 306 300\n1EB2 41 306 309\n1EB3 61 306 309\n1EB4 41 306 303\n1EB5 61 306 303\n" ++
  "1EB6 41 323 306\n1EB7 61 323 306\n1EB8 45 323\n1EB9 65 323\n1EBA 45 309\n1EBB 65 309\n1EBC 45 303\n" ++
  "1EBD 65 303\n1EBE 45 302 301\n1EBF 65 302 301\n1EC0 45 302 300\n1EC1 65 302 300\n1EC2 45 302 309\n" ++
  "1EC3 65 302 309\n1EC4 45 302 303\n1EC5 65 302 303\n1EC6 45 323 302\n1EC7 65 323 302\n1EC8 49 309\n" ++
  "1EC9 69 309\n1ECA 49 323\n1ECB 69 323\n1ECC 4F 323\n1ECD 6F 323\n1ECE 4F 309\n1ECF 6F 309\n1ED0 4F 302 301\n" ++
  "1ED1 6F 302 301\n1ED2 4F 302 300\n1ED3 6F 302 300\n1ED4 4F 302 309\n1ED5 6F 302 309\n1ED6 4F 302 303\n" ++
  "1ED7 6F 302 303\n1ED8 4F 323 302\n1ED9 6F 323 302\n1EDA 4F 31B 301\n1EDB 6F 31B 301\n1EDC 4F 31B 300\n" ++
  "1EDD 6F 31B 300\n1EDE 4F 31B 309\n1EDF 6F 31B 309\n1EE0 4F 31B 303\n1EE1 6F 31B 303\n1EE2 4F 31B 323\n" ++
  "1EE3 6F 31B 323\n1EE4 55 323\n1EE5 75 323\n1EE6 55 309\n1EE7 75 309\n1EE8 55 31B 301\n1EE9 75 31B 301\n" ++
  "1EEA 55 31B 300\n1EEB 75 31B 300\n1EEC 55 31B 309\n1EED 75 31B 309\n1EEE 55 31B 303\n1EEF 75 31B 303\n" ++
  "1EF0 55 31B 323\n1EF1 75 31B 323\n1EF2 59 300\n1EF3 79 300\n1EF4 59 323\n1EF5 79 323\n1EF6 59 309\n" ++
  "1EF7 79 309\n1EF8 59 303\n1EF9 79 303\n1F00 3B1 313\n1F01 3B1 314\n1F02 3B1 313 300\n1F03 3B1 314 300\n" ++
  "1F04 3B1 313 301\n1F05 3B1 314 301\n1F06 3B1 313 342\n1F07 3B1 314 342\n1F08 391 313\n1F09 391 314\n" ++
  "1F0A 391 313 300\n1F0B 391 314 300\n1F0C 391 313 301\n1F0D 391 314 301\n1F0E 391 313 342\n1F0F 391 314 342\n" ++
  "1F10 3B5 313\n1F11 3B5 314\n1F12 3B5 313 300\n1F13 3B5 314 300\n1F14 3B5 313 301\n1F15 3B5 314 301\n" ++
  "1F18 395 313\n1F19 395 314\n1F1A 395 313 300\n1F1B 395 314 300\n1F1C 395 313 301\n1F1D 395 314 301\n" ++
  "1F20 3B7 313\n1F21 3B7 314\n1F22 3B7 313 300\n1F23 3B7 314 300\n1F24 3B7 313 301\n1F25 3B7 314 301\n" ++
  "1F26 3B7 313 342\n1F27 3B7 314 342\n1F28 397 313\n1F29 397 314\n1F2A 397 313 300\n1F2B 397 314 300\n" ++
  "1F2C 397 313 301\n1F2D 397 314 301\n1F2E 397 313 342\n1F2F 397 314 342\n1F30 3B9 313\n1F31 3B9 314\n" ++
  "1F32 3B9 313 300\n1F33 3B9 314 300\n1F34 3B9 313 301\n1F35 3B9 314 301\n1F36 3B9 313 342\n1F37 3B9 314 342\n" ++
  "1F38 399 313\n1F39 399 314\n1F3A 399 313 300\n1F3B 399 314 300\n1F3C 399 313 301\n1F3D 399 314 301\n" ++
  "1F3E 399 313 342\n1F3F 399 314 342\n1F40 3BF 313\n1F41 3BF 314\n1F42 3BF 313 300\n1F43 3BF 314 300\n" ++
  "1F44 3BF 313 301\n1F45 3BF 314 301\n1F48 39F 313\n1F49 39F 314\n1F4A 39F 313 300\n1F4B 39F 314 300\n" ++
  "1F4C 39F 313 301\n1F4D 39F 314 301\n1F50 3C5 313\n1F51 3C5 314\n1F52 3C5 313 300\n1F53 3C5 314 300\n" ++
  "1F54 3C5 313 301\n1F55 3C5 314 301\n1F56 3C5 313 342\n1F57 3C5 314 342\n1F59 3A5 314\n1F5B 3A5 314 300\n" ++
  "1F5D 3A5 314 301\n1F5F 3A5 314 342\n1F60 3C9 313\n1F61 3C9 314\n1F62 3C9 313 300\n1F63 3C9 314 300\n" ++
  "1F64 3C9 313 301\n1F65 3C9 314 301\n1F66 3C9 313 342\n1F67 3C9 314 342\n1F68 3A9 313\n1F69 3A9 314\n" ++
  "1F6A 3A9 313 300\n1F6B 3A9 314 300\n1F6C 3A9 313 301\n1F6D 3A9 314 301\n1F6E 3A9 313 342\n1F6F 3A9 314 342\n" ++
  "1F70 3B1 300\n1F71 3B1 301\n1F72 3B5 300\n1F73 3B5 301\n1F74 3B7 300\n1F75 3B7 301\n1F76 3B9 300\n" ++
  "1F77 3B9 301\n1F78 3BF 300\n1F79 3BF 301\n1F7A 3C5 300\n1F7B 3C5 301\n1F7C 3C9 300\n1F7D 3C9 301\n" ++
  "1F80 3B1 313 345\n1F81 3B1 314 345\n1F82 3B1 313 300 345\n1F83 3B1 314 300 345\n1F84 3B1 313 301 345\n" ++
  "1F85 3B1 314 301 345\n1F86 3B1 313 342 345\n1F87 3B1 314 342 345\n1F88 391 313 345\n1F89 391 314 345\n" ++
  "1F8A 391 313 300 345\n1F8B 391 314 300 345\n1F8C 391 313 301 345\n1F8D 391 314 301 345\n1F8E 391 313 342 345\n" ++
  "1F8F 391 314 342 345\n1F90 3B7 313 345\n1F91 3B7 314 345\n1F92 3B7 313 300 345\n1F93 3B7 314 300 345\n" ++
  "1F94 3B7 313 301 345\n1F95 3B7 314 301 345\n1F96 3B7 313 342 345\n1F97 3B7 314 342 345\n1F98 397 313 345\n" ++
  "1F99 397 314 345\n1F9A 397 313 300 345\n1F9B 397 314 300 345\n1F9C 397 313 301 345\n1F9D 397 314 301 345\n" ++
  "1F9E 397 313 342 345\n1F9F 397 314 342 345\n1FA0 3C9 313 345\n1FA1 3C9 314 345\n1FA2 3C9 313 300 345\n" ++
  "1FA3 3C9 314 300 345\n1FA4 3C9 313 301 345\n1FA5 3C9 314 301 345\n1FA6 3C9 313 342 345\n1FA7 3C9 314 342 345\n" ++
  "1FA8 3A9 313 345\n1FA9 3A9 314 345\n1FAA 3A9 313 300 345\n1FAB 3A9 314 300 345\n1FAC 3A9 313 301 345\n" ++
  "1FAD 3A9 314 301 345\n1FAE 3A9 313 342 345\n1FAF 3A9 314 342 345\n1FB0 3B1 306\n1FB1 3B1 304\n" ++
  "1FB2 3B1 300 345\n1FB3 3B1 345\n1FB4 3B1 301 345\n1FB6 3B1 342\n1FB7 3B1 342 345\n1FB8 391 306\n" ++
  "1FB9 391 304\n1FBA 391 300\n1FBB 391 301\n1FBC 391 345\n1FBD 20 313\n1FBE 3B9\n1FBF 20 313\n1FC0 20 342\n" ++
  "1FC1 20 308 342\n1FC2 3B7 300 345\n1FC3 3B7 345\n1FC4 3B7 301 345\n1FC6 3B7 342\n1FC7 3B7 342 345\n" ++
  "1FC8 395 300\n1FC9 395 301\n1FCA 397 300\n1FCB 397 301\n1FCC 397 345\n1FCD 20 313 300\n1FCE 20 313 301\n" ++
  "1FCF 20 313 342\n1FD0 3B9 306\n1FD1 3B9 304\n1FD2 3B9 308 300\n1FD3 3B9 308 301\n1FD6 3B9 342\n" ++
  "1FD7 3B9 308 342\n1FD8 399 306\n1FD9 399 304\n1FDA 399 300\n1FDB 399 301\n1FDD 20 314 300\n1FDE 20 314 301\n" ++
  "1FDF 20 314 342\n1FE0 3C5 306\n1FE1 3C5 304\n1FE2 3C5 308 300\n1FE3 3C5 308 301\n1FE4 3C1 313\n" ++
  "1FE5 3C1 314\n1FE6 3C5 342\n1FE7 3C5 308 342\n1FE8 3A5 306\n1FE9 3A5 304\n1FEA 3A5 300\n1FEB 3A5 301\n" ++
  "1FEC 3A1 314\n1FED 20 308 300\n1FEE 20 308 301\n1FEF 60\n1FF2 3C9 300 345\n1FF3 3C9 345\n1FF4 3C9 301 345\n" ++
  "1FF6 3C9 342\n1FF7 3C9 342 345\n1FF8 39F 300\n1FF9 39F 301\n1FFA 3A9 300\n1FFB 3A9 301\n1FFC 3A9 345\n" ++
  "1FFD 20 301\n1FFE 20 314\n2000 20\n2001 20\n2002 20\n2003 20\n2004 20\n2005 20\n2006 20\n2007 20\n" ++
  "2008 20\n2009 20\n200A 20\n2011 2010\n2017 20 333\n2024 2E\n2025 2E 2E\n2026 2E 2E 2E\n202F 20\n" ++
  "2033 2032 2032\n2034 2032 2032 2032\n2036 2035 2035\n2037 2035 2035 2035\n203C 21 21\n203E 20 305\n" ++
  "2047 3F 3F\n2048 3F 21\n2049 21 3F\n2057 2032 2032 2032 2032\n205F 20\n2070 30\n2071 69\n2074 34\n" ++
  "2075 35\n2076 36\n2077 37\n2078 38\n2079 39\n207A 2B\n207B 2212\n207C 3D\n207D 28\n207E 29\n207F 6E\n" ++
  "2080 30\n2081 31\n2082 32\n2083 33\n2084 34\n2085 35\n2086 36\n2087 37\n2088 38\n2089 39\n208A 2B\n" ++
  "208B 2212\n208C 3D\n208D 28\n208E 29\n20A8 52 73\n2100 61 2F 63\n2101 61 2F 73\n2102 43\n2103 B0 43\n" ++
  "2105 63 2F 6F\n2106 63 2F 75\n2107 190\n2109 B0 46\n210A 67\n210B 48\n210C 48\n210D 48\n210E 68\n" ++
  "210F 127\n2110 49\n2111 49\n2112 4C\n2113 6C\n2115 4E\n2116 4E 6F\n2119 50\n211A 51\n211B 52\n" ++
  "211C 52\n211D 52\n2120 53 4D\n2121 54 45 4C\n2122 54 4D\n2124 5A\n2126 3A9\n2128 5A\n212A 4B\n" ++
  "212B 41 30A\n212C 42\n212D 43\n212F 65\n2130 45\n2131 46\n2133 4D\n2134 6F\n2135 5D0\n2136 5D1\n" ++
  "2137 5D2\n2138 5D3\n2139 69\n213D 3B3\n213E 393\n213F 3A0\n2140 2211\n2145 44\n2146 64\n2147 65\n" ++
  "2148 69\n2149 6A\n2153 31 2044 33\n2154 32 2044 33\n2155 31 2044 35\n2156 32 2044 35\n2157 33 2044 35\n" ++
  "2158 34 2044 35\n2159 31 2044 36\n215A 35 2044 36\n215B 31 2044 38\n215C 33 2044 38\n215D 35 2044 38\n" ++
  "215E 37 2044 38\n215F 31 2044\n2160 49\n2161 49 49\n2162 49 49 49\n2163 49 56\n2164 56\n2165 56 49\n" ++
  "2166 56 49 49\n2167 56 49 49 49\n2168 49 58\n2169 58\n216A 58 49\n216B 58 49 49\n216C 4C\n216D 43\n" ++
  "216E 44\n216F 4D\n2170 69\n2171 69 69\n2172 69 69 69\n2173 69 76\n2174 76\n2175 76 69\n2176 76 69 69\n" ++
  "2177 76 69 69 69\n2178 69 78\n2179 78\n217A 78 69\n217B 78 69 69\n217C 6C\n217D 63\n217E 64\n" ++
  "217F 6D\n219A 2190 338\n219B 2192 338\n21AE 2194 338\n21CD 21D0 338\n21CE 21D4 338\n21CF 21D2 338\n" ++
  "2204 2203 338\n2209 2208 338\n220C 220B 338\n2224 2223 338\n2226 2225 338\n222C 222B 222B\n222D 222B 222B 222B\n" ++
  "222F 222E 222E\n2230 222E 222E 222E\n2241 223C 338\n2244 2243 338\n2247 2245 338\n2249 2248 338\n" ++
  "2260 3D 338\n2262 2261 338\n226D 224D 338\n226E 3C 338\n226F 3E 338\n2270 2264 338\n2271 2265 338\n" ++
  "2274 2272 338\n2275 2273 338\n2278 2276 338\n2279 2277 338\n2280 227A 338\n2281 227B 338\n2284 2282 338\n" ++
  "2285 2283 338\n2288 2286 338\n2289 2287 338\n22AC 22A2 338\n22AD 22A8 338\n22AE 22A9 338\n22AF 22AB 338\n" ++
  "22E0 227C 338\n22E1 227D 338\n22E2 2291 338\n22E3 2292 338\n22EA 22B2 338\n22EB 22B3 338\n22EC 22B4 338\n" ++
  "22ED 22B5 338\n2329 3008\n232A 3009\n2460 31\n2461 32\n2462 33\n2463 34\n2464 35\n2465 36\n2466 37\n" ++
  "2467 38\n2468 39\n2469 31 30\n246A 31 31\n246B 31 32\n246C 31 33\n246D 31 34\n246E 31 35\n246F 31 36\n" ++
  "2470 31 37\n2471 31 38\n2472 31 39\n2473 32 30\n2474 28 31 29\n2475 28 32 29\n2476 28 33 29\n" ++
  "2477 28 34 29\n2478 28 35 29\n2479 28 36 29\n247A 28 37 29\n247B 28 38 29\n247C 28 39 29\n247D 28 31 30 29\n" ++
  "247E 28 31 31 29\n247F 28 31 32 29\n2480 28 31 33 29\n2481 28 31 34 29\n2482 28 31 35 29\n2483 28 31 36 29\n" ++
  "2484 28 31 37 29\n2485 28 31 38 29\n2486 28 31 39 29\n2487 28 32 30 29\n2488 31 2E\n2489 32 2E\n" ++
  "248A 33 2E\n248B 34 2E\n248C 35 2E\n248D 36 2E\n248E 37 2E\n248F 38 2E\n2490 39 2E\n2491 31 30 2E\n" ++
  "2492 31 31 2E\n2493 31 32 2E\n2494 31 33 2E\n2495 31 34 2E\n2496 31 35 2E\n2497 31 36 2E\n2498 31 37 2E\n" ++
  "2499 31 38 2E\n249A 31 39 2E\n249B 32 30 2E\n249C 28 61 29\n249D 28 62 29\n249E 28 63 29\n249F 28 64 29\n" ++
  "24A0 28 65 29\n24A1 28 66 29\n24A2 28 67 29\n24A3 28 68 29\n24A4 28 69 29\n24A5 28 6A 29\n24A6 28 6B 29\n" ++
  "24A7 28 6C 29\n24A8 28 6D 29\n24A9 28 6E 29\n24AA 28 6F 29\n24AB 28 70 29\n24AC 28 71 29\n24AD 28 72 29\n" ++
  "24AE 28 73 29\n24AF 28 74 29\n24B0 28 75 29\n24B1 28 76 29\n24B2 28 77 29\n24B3 28 78 29\n24B4 28 79 29\n" ++
  "24B5 28 7A 29\n24B6 41\n24B7 42\n24B8 43\n24B9 44\n24BA 45\n24BB 46\n24BC 47\n24BD 48\n24BE 49\n" ++
  "24BF 4A\n24C0 4B\n24C1 4C\n24C2 4D\n24C3 4E\n24C4 4F\n24C5 50\n24C6 51\n24C7 52\n24C8 53\n24C9 54\n" ++
  "24CA 55\n24CB 56\n24CC 57\n24CD 58\n24CE 59\n24CF 5A\n24D0 61\n24D1 62\n24D2 63\n24D3 64\n24D4 65\n" ++
  "24D5 66\n24D6 67\n24D7 68\n24D8 69\n24D9 6A\n24DA 6B\n24DB 6C\n24DC 6D\n24DD 6E\n24DE 6F\n24DF 70\n" ++
  "24E0 71\n24E1 72\n24E2 73\n24E3 74\n24E4 75\n24E5 76\n24E6 77\n24E7 78\n24E8 79\n24E9 7A\n24EA 30\n" ++
  "2A0C 222B 222B 222B 222B\n2A74 3A 3A 3D\n2A75 3D 3D\n2A76 3D 3D 3D\n2ADC 2ADD 338\n2E9F 6BCD\n" ++
  "2EF3 9F9F\n2F00 4E00\n2F01 4E28\n2F02 4E36\n2F03 4E3F\n2F04 4E59\n2F05 4E85\n2F06 4E8C\n2F07 4EA0\n" ++
  "2F08 4EBA\n2F09 513F\n2F0A 5165\n2F0B 516B\n2F0C 5182\n2F0D 5196\n2F0E 51AB\n2F0F 51E0\n2F10 51F5\n" ++
  "2F11 5200\n2F12 529B\n2F13 52F9\n2F14 5315\n2F15 531A\n2F16 5338\n2F17 5341\n2F18 535C\n2F19 5369\n" ++
  "2F1A 5382\n2F1B 53B6\n2F1C 53C8\n2F1D 53E3\n2F1E 56D7\n2F1F 571F\n2F20 58EB\n2F21 5902\n2F22 590A\n" ++
  "2F23 5915\n2F24 5927\n2F25 5973\n2F26 5B50\n2F27 5B80\n2F28 5BF8\n2F29 5C0F\n2F2A 5C22\n2F2B 5C38\n" ++
  "2F2C 5C6E\n2F2D 5C71\n2F2E 5DDB\n2F2F 5DE5\n2F30 5DF1\n2F31 5DFE\n2F32 5E72\n2F33 5E7A\n2F34 5E7F\n" ++
  "2F35 5EF4\n2F36 5EFE\n2F37 5F0B\n2F38 5F13\n2F39 5F50\n2F3A 5F61\n2F3B 5F73\n2F3C 5FC3\n2F3D 6208\n" ++
  "2F3E 6236\n2F3F 624B\n2F40 652F\n2F41 6534\n2F42 6587\n2F43 6597\n2F44 65A4\n2F45 65B9\n2F46 65E0\n" ++
  "2F47 65E5\n2F48 66F0\n2F49 6708\n2F4A 6728\n2F4B 6B20\n2F4C 6B62\n2F4D 6B79\n2F4E 6BB3\n2F4F 6BCB\n" ++
  "2F50 6BD4\n2F51 6BDB\n2F52 6C0F\n2F53 6C14\n2F54 6C34\n2F55 706B\n2F56 722A\n2F57 7236\n2F58 723B\n" ++
  "2F59 723F\n2F5A 7247\n2F5B 7259\n2F5C 725B\n2F5D 72AC\n2F5E 7384\n2F5F 7389\n2F60 74DC\n2F61 74E6\n" ++
  "2F62 7518\n2F63 751F\n2F64 7528\n2F65 7530\n2F66 758B\n2F67 7592\n2F68 7676\n2F69 767D\n2F6A 76AE\n" ++
  "2F6B 76BF\n2F6C 76EE\n2F6D 77DB\n2F6E 77E2\n2F6F 77F3\n2F70 793A\n2F71 79B8\n2F72 79BE\n2F73 7A74\n" ++
  "2F74 7ACB\n2F75 7AF9\n2F76 7C73\n2F77 7CF8\n2F78 7F36\n2F79 7F51\n2F7A 7F8A\n2F7B 7FBD\n2F7C 8001\n" ++
  "2F7D 800C\n2F7E 8012\n2F7F 8033\n2F80 807F\n2F81 8089\n2F82 81E3\n2F83 81EA\n2F84 81F3\n2F85 81FC\n" ++
  "2F86 820C\n2F87 821B\n2F88 821F\n2F89 826E\n2F8A 8272\n2F8B 8278\n2F8C 864D\n2F8D 866B\n2F8E 8840\n" ++
  "2F8F 884C\n2F90 8863\n2F91 897E\n2F92 898B\n2F93 89D2\n2F94 8A00\n2F95 8C37\n2F96 8C46\n2F97 8C55\n" ++
  "2F98 8C78\n2F99 8C9D\n2F9A 8D64\n2F9B 8D70\n2F9C 8DB3\n2F9D 8EAB\n2F9E 8ECA\n2F9F 8F9B\n2FA0 8FB0\n" ++
  "2FA1 8FB5\n2FA2 9091\n2FA3 9149\n2FA4 91C6\n2FA5 91CC\n2FA6 91D1\n2FA7 9577\n2FA8 9580\n2FA9 961C\n" ++
  "2FAA 96B6\n2FAB 96B9\n2FAC 96E8\n2FAD 9751\n2FAE 975E\n2FAF 9762\n2FB0 9769\n2FB1 97CB\n2FB2 97ED\n" ++
  "2FB3 97F3\n2FB4 9801\n2FB5 98A8\n2FB6 98DB\n2FB7 98DF\n2FB8 9996\n2FB9 9999\n2FBA 99AC\n2FBB 9AA8\n" ++
  "2FBC 9AD8\n2FBD 9ADF\n2FBE 9B25\n2FBF 9B2F\n2FC0 9B32\n2FC1 9B3C\n2FC2 9B5A\n2FC3 9CE5\n2FC4 9E75\n" ++
  "2FC5 9E7F\n2FC6 9EA5\n2FC7 9EBB\n2FC8 9EC3\n2FC9 9ECD\n2FCA 9ED1\n2FCB 9EF9\n2FCC 9EFD\n2FCD 9F0E\n" ++
  "2FCE 9F13\n2FCF 9F20\n2FD0 9F3B\n2FD1 9F4A\n2FD2 9F52\n2FD3 9F8D\n2FD4 9F9C\n2FD5 9FA0\n3000 20\n" ++
  "3036 3012\n3038 5341\n3039 5344\n303A 5345\n304C 304B 3099\n304E 304D 3099\n3050 304F 3099\n3052 3051 3099\n" ++
  "3054 3053 3099\n3056 3055 3099\n3058 3057 3099\n305A 3059 3099\n305C 305B 3099\n305E 305D 3099\n" ++
  "3060 305F 3099\n3062 3061 3099\n3065 3064 3099\n3067 3066 3099\n3069 3068 3099\n3070 306F 3099\n" ++
  "3071 306F 309A\n3073 3072 3099\n3074 3072 309A\n3076 3075 3099\n3077 3075 309A\n3079 3078 3099\n" ++
  "307A 3078 309A\n307C 307B 3099\n307D 307B 309A\n3094 3046 3099\n309B 20 3099\n309C 20 309A\n309E 309D 3099\n" ++
  "309F 3088 308A\n30AC 30AB 3099\n30AE 30AD 3099\n30B0 30AF 3099\n30B2 30B1 3099\n30B4 30B3 3099\n" ++
  "30B6 30B5 3099\n30B8 30B7 3099\n30BA 30B9 3099\n30BC 30BB 3099\n30BE 30BD 3099\n30C0 30BF 3099\n" ++
  "30C2 30C1 3099\n30C5 30C4 3099\n30C7 30C6 3099\n30C9 30C8 3099\n30D0 30CF 3099\n30D1 30CF 309A\n" ++
  "30D3 30D2 3099\n30D4 30D2 309A\n30D6 30D5 3099\n30D7 30D5 309A\n30D9 30D8 3099\n30DA 30D8 309A\n" ++
  "30DC 30DB 3099\n30DD 30DB 309A\n30F4 30A6 3099\n30F7 30EF 3099\n30F8 30F0 3099\n30F9 30F1 3099\n" ++
  "30FA 30F2 3099\n30FE 30FD 3099\n30FF 30B3 30C8\n3131 1100\n3132 1101\n3133 11AA\n3134 1102\n3135 11AC\n" ++
  "3136 11AD\n3137 1103\n3138 1104\n3139 1105\n313A 11B0\n313B 11B1\n313C 11B2\n313D 11B3\n313E 11B4\n" ++
  "313F 11B5\n3140 111A\n3141 1106\n3142 1107\n3143 1108\n3144 1121\n3145 1109\n3146 110A\n3147 110B\n" ++
  "3148 110C\n3149 110D\n314A 110E\n314B 110F\n314C 1110\n314D 1111\n314E 1112\n314F 1161\n3150 1162\n" ++
  "3151 1163\n3152 1164\n3153 1165\n3154 1166\n3155 1167\n3156 1168\n3157 1169\n3158 116A\n3159 116B\n" ++
  "315A 116C\n315B 116D\n315C 116E\n315D 116F\n315E 1170\n315F 1171\n3160 1172\n3161 1173\n3162 1174\n" ++
  "3163 1175\n3164 1160\n3165 1114\n3166 1115\n3167 11C7\n3168 11C8\n3169 11CC\n316A 11CE\n316B 11D3\n" ++
  "316C 11D7\n316D 11D9\n316E 111C\n316F 11DD\n3170 11DF\n3171 111D\n3172 111E\n3173 1120\n3174 1122\n" ++
  "3175 1123\n3176 1127\n3177 1129\n3178 112B\n3179 112C\n317A 112D\n317B 112E\n317C 112F\n317D 1132\n" ++
  "317E 1136\n317F 1140\n3180 1147\n3181 114C\n3182 11F1\n3183 11F2\n3184 1157\n3185 1158\n3186 1159\n" ++
  "3187 1184\n3188 1185\n3189 1188\n318A 1191\n318B 1192\n318C 1194\n318D 119E\n318E 11A1\n3192 4E00\n" ++
  "3193 4E8C\n3194 4E09\n3195 56DB\n3196 4E0A\n3197 4E2D\n3198 4E0B\n3199 7532\n319A 4E59\n319B 4E19\n" ++
  "319C 4E01\n319D 5929\n319E 5730\n319F 4EBA\n3200 28 1100 29\n3201 28 1102 29\n3202 28 1103 29\n" ++
  "3203 28 1105 29\n3204 28 1106 29\n3205 28 1107 29\n3206 28 1109 29\n3207 28 110B 29\n3208 28 110C 29\n" ++
  "3209 28 110E 29\n320A 28 110F 29\n320B 28 1110 29\n320C 28 1111 29\n320D 28 1112 29\n320E 28 1100 1161 29\n" ++
  "320F 28 1102 1161 29\n3210 28 1103 1161 29\n3211 28 1105 1161 29\n3212 28 1106 1161 29\n3213 28 1107 1161 29\n" ++
  "3214 28 1109 1161 29\n3215 28 110B 1161 29\n3216 28 110C 1161 29\n3217 28 110E 1161 29\n3218 28 110F 1161 29\n" ++
  "3219 28 1110 1161 29\n321A 28 1111 1161 29\n321B 28 1112 1161 29\n321C 28 110C 116E 29\n3220 28 4E00 29\n" ++
  "3221 28 4E8C 29\n3222 28 4E09 29\n3223 28 56DB 29\n3224 28 4E94 29\n3225 28 516D 29\n3226 28 4E03 29\n" ++
  "3227 28 516B 29\n3228 28 4E5D 29\n3229 28 5341 29\n322A 28 6708 29\n322B 28 706B 29\n322C 28 6C34 29\n" ++
  "322D 28 6728 29\n322E 28 91D1 29\n322F 28 571F 29\n3230 28 65E5 29\n3231 28 682A 29\n3232 28 6709 29\n" ++
  "3233 28 793E 29\n3234 28 540D 29\n3235 28 7279 29\n3236 28 8CA1 29\n3237 28 795D 29\n3238 28 52B4 29\n" ++
  "3239 28 4EE3 29\n323A 28 547C 29\n323B 28 5B66 29\n323C 28 76E3 29\n323D 28 4F01 29\n323E 28 8CC7 29\n" ++
  "323F 28 5354 29\n3240 28 796D 29\n3241 28 4F11 29\n3242 28 81EA 29\n3243 28 81F3 29\n3251 32 31\n" ++
  "3252 32 32\n3253 32 33\n3254 32 34\n3255 32 35\n3256 32 36\n3257 32 37\n3258 32 38\n3259 32 39\n" ++
  "325A 33 30\n325B 33 31\n325C 33 32\n325D 33 33\n325E 33 34\n325F 33 35\n3260 1100\n3261 1102\n" ++
  "3262 1103\n3263 1105\n3264 1106\n3265 1107\n3266 1109\n3267 110B\n3268 110C\n3269 110E\n326A 110F\n" ++
  "326B 1110\n326C 1111\n326D 1112\n326E 1100 1161\n326F 1102 1161\n3270 1103 1161\n3271 1105 1161\n" ++
  "3272 1106 1161\n3273 1107 1161\n3274 1109 1161\n3275 110B 1161\n3276 110C 1161\n3277 110E 1161\n" ++
  "3278 110F 1161\n3279 1110 1161\n327A 1111 1161\n327B 1112 1161\n3280 4E00\n3281 4E8C\n3282 4E09\n" ++
  "3283 56DB\n3284 4E94\n3285 516D\n3286 4E03\n3287 516B\n3288 4E5D\n3289 5341\n328A 6708\n328B 706B\n" ++
  "328C 6C34\n328D 6728\n328E 91D1\n328F 571F\n3290 65E5\n3291 682A\n3292 6709\n3293 793E\n3294 540D\n" ++
  "3295 7279\n3296 8CA1\n3297 795D\n3298 52B4\n3299 79D8\n329A 7537\n329B 5973\n329C 9069\n329D 512A\n" ++
  "329E 5370\n329F 6CE8\n32A0 9805\n32A1 4F11\n32A2 5199\n32A3 6B63\n32A4 4E0A\n32A5 4E2D\n32A6 4E0B\n" ++
  "32A7 5DE6\n32A8 53F3\n32A9 533B\n32AA 5B97\n32AB 5B66\n32AC 76E3\n32AD 4F01\n32AE 8CC7\n32AF 5354\n" ++
  "32B0 591C\n32B1 33 36\n32B2 33 37\n32B3 33 38\n32B4 33 39\n32B5 34 30\n32B6 34 31\n32B7 34 32\n" ++
  "32B8 34 33\n32B9 34 34\n32BA 34 35\n32BB 34 36\n32BC 34 37\n32BD 34 38\n32BE 34 39\n32BF 35 30\n" ++
  "32C0 31 6708\n32C1 32 6708\n32C2 33 6708\n32C3 34 6708\n32C4 35 6708\n32C5 36 6708\n32C6 37 6708\n" ++
  "32C7 38 6708\n32C8 39 6708\n32C9 31 30 6708\n32CA 31 31 6708\n32CB 31 32 6708\n32D0 30A2\n32D1 30A4\n" ++
  "32D2 30A6\n32D3 30A8\n32D4 30AA\n32D5 30AB\n32D6 30AD\n32D7 30AF\n32D8 30B1\n32D9 30B3\n32DA 30B5\n" ++
  "32DB 30B7\n32DC 30B9\n32DD 30BB\n32DE 30BD\n32DF 30BF\n32E0 30C1\n32E1 30C4\n32E2 30C6\n32E3 30C8\n" ++
  "32E4 30CA\n32E5 30CB\n32E6 30CC\n32E7 30CD\n32E8 30CE\n32E9 30CF\n32EA 30D2\n32EB 30D5\n32EC 30D8\n" ++
  "32ED 30DB\n32EE 30DE\n32EF 30DF\n32F0 30E0\n32F1 30E1\n32F2 30E2\n32F3 30E4\n32F4 30E6\n32F5 30E8\n" ++
  "32F6 30E9\n32F7 30EA\n32F8 30EB\n32F9 30EC\n32FA 30ED\n32FB 30EF\n32FC 30F0\n32FD 30F1\n32FE 30F2\n" ++
  "3300 30A2 30CF 309A 30FC 30C8\n3301 30A2 30EB 30D5 30A1\n3302 30A2 30F3 30D8 309A 30A2\n3303 30A2 30FC 30EB\n" ++
  "3304 30A4 30CB 30F3 30AF 3099\n3305 30A4 30F3 30C1\n3306 30A6 30A9 30F3\n3307 30A8 30B9 30AF 30FC 30C8 3099\n" ++
  "3308 30A8 30FC 30AB 30FC\n3309 30AA 30F3 30B9\n330A 30AA 30FC 30E0\n330B 30AB 30A4 30EA\n330C 30AB 30E9 30C3 30C8\n" ++
  "330D 30AB 30ED 30EA 30FC\n330E 30AB 3099 30ED 30F3\n330F 30AB 3099 30F3 30DE\n3310 30AD 3099 30AB 3099\n" ++
  "3311 30AD 3099 30CB 30FC\n3312 30AD 30E5 30EA 30FC\n3313 30AD 3099 30EB 30BF 3099 30FC\n3314 30AD 30ED\n" ++
  "3315 30AD 30ED 30AF 3099 30E9 30E0\n3316 30AD 30ED 30E1 30FC 30C8 30EB\n3317 30AD 30ED 30EF 30C3 30C8\n" ++
  "3318 30AF 3099 30E9 30E0\n3319 30AF 3099 30E9 30E0 30C8 30F3\n331A 30AF 30EB 30BB 3099 30A4 30ED\n" ++
  "331B 30AF 30ED 30FC 30CD\n331C 30B1 30FC 30B9\n331D 30B3 30EB 30CA\n331E 30B3 30FC 30DB 309A\n" ++
  "331F 30B5 30A4 30AF 30EB\n3320 30B5 30F3 30C1 30FC 30E0\n3321 30B7 30EA 30F3 30AF 3099\n3322 30BB 30F3 30C1\n" ++
  "3323 30BB 30F3 30C8\n3324 30BF 3099 30FC 30B9\n3325 30C6 3099 30B7\n3326 30C8 3099 30EB\n3327 30C8 30F3\n" ++
  "3328 30CA 30CE\n3329 30CE 30C3 30C8\n332A 30CF 30A4 30C4\n332B 30CF 309A 30FC 30BB 30F3 30C8\n" ++
  "332C 30CF 309A 30FC 30C4\n332D 30CF 3099 30FC 30EC 30EB\n332E 30D2 309A 30A2 30B9 30C8 30EB\n" ++
  "332F 30D2 309A 30AF 30EB\n3330 30D2 309A 30B3\n3331 30D2 3099 30EB\n3332 30D5 30A1 30E9 30C3 30C8 3099\n" ++
  "3333 30D5 30A3 30FC 30C8\n3334 30D5 3099 30C3 30B7 30A7 30EB\n3335 30D5 30E9 30F3\n3336 30D8 30AF 30BF 30FC 30EB\n" ++
  "3337 30D8 309A 30BD\n3338 30D8 309A 30CB 30D2\n3339 30D8 30EB 30C4\n333A 30D8 309A 30F3 30B9\n" ++
  "333B 30D8 309A 30FC 30B7 3099\n333C 30D8 3099 30FC 30BF\n333D 30DB 309A 30A4 30F3 30C8\n333E 30DB 3099 30EB 30C8\n" ++
  "333F 30DB 30F3\n3340 30DB 309A 30F3 30C8 3099\n3341 30DB 30FC 30EB\n3342 30DB 30FC 30F3\n3343 30DE 30A4 30AF 30ED\n" ++
  "3344 30DE 30A4 30EB\n3345 30DE 30C3 30CF\n3346 30DE 30EB 30AF\n3347 30DE 30F3 30B7 30E7 30F3\n" ++
  "3348 30DF 30AF 30ED 30F3\n3349 30DF 30EA\n334A 30DF 30EA 30CF 3099 30FC 30EB\n334B 30E1 30AB 3099\n" ++
  "334C 30E1 30AB 3099 30C8 30F3\n334D 30E1 30FC 30C8 30EB\n334E 30E4 30FC 30C8 3099\n334F 30E4 30FC 30EB\n" ++
  "3350 30E6 30A2 30F3\n3351 30EA 30C3 30C8 30EB\n3352 30EA 30E9\n3353 30EB 30D2 309A 30FC\n3354 30EB 30FC 30D5 3099 30EB\n" ++
  "3355 30EC 30E0\n3356 30EC 30F3 30C8 30B1 3099 30F3\n3357 30EF 30C3 30C8\n3358 30 70B9\n3359 31 70B9\n" ++
  "335A 32 70B9\n335B 33 70B9\n335C 34 70B9\n335D 35 70B9\n335E 36 70B9\n335F 37 70B9\n3360 38 70B9\n" ++
  "3361 39 70B9\n3362 31 30 70B9\n3363 31 31 70B9\n3364 31 32 70B9\n3365 31 33 70B9\n3366 31 34 70B9\n" ++
  "3367 31 35 70B9\n3368 31 36 70B9\n3369 31 37 70B9\n336A 31 38 70B9\n336B 31 39 70B9\n336C 32 30 70B9\n" ++
  "336D 32 31 70B9\n336E 32 32 70B9\n336F 32 33 70B9\n3370 32 34 70B9\n3371 68 50 61\n3372 64 61\n" ++
  "3373 41 55\n3374 62 61 72\n3375 6F 56\n3376 70 63\n337B 5E73 6210\n337C 662D 548C\n337D 5927 6B63\n" ++
  "337E 660E 6CBB\n337F 682A 5F0F 4F1A 793E\n3380 70 41\n3381 6E 41\n3382 3BC 41\n3383 6D 41\n3384 6B 41\n" ++
  "3385 4B 42\n3386 4D 42\n3387 47 42\n3388 63 61 6C\n3389 6B 63 61 6C\n338A 70 46\n338B 6E 46\n" ++
  "338C 3BC 46\n338D 3BC 67\n338E 6D 67\n338F 6B 67\n3390 48 7A\n3391 6B 48 7A\n3392 4D 48 7A\n3393 47 48 7A\n" ++
  "3394 54 48 7A\n3395 3BC 6C\n3396 6D 6C\n3397 64 6C\n3398 6B 6C\n3399 66 6D\n339A 6E 6D\n339B 3BC 6D\n" ++
  "339C 6D 6D\n339D 63 6D\n339E 6B 6D\n339F 6D 6D 32\n33A0 63 6D 32\n33A1 6D 32\n33A2 6B 6D 32\n" ++
  "33A3 6D 6D 33\n33A4 63 6D 33\n33A5 6D 33\n33A6 6B 6D 33\n33A7 6D 2215 73\n33A8 6D 2215 73 32\n" ++
  "33A9 50 61\n33AA 6B 50 61\n33AB 4D 50 61\n33AC 47 50 61\n33AD 72 61 64\n33AE 72 61 64 2215 73\n" ++
  "33AF 72 61 64 2215 73 32\n33B0 70 73\n33B1 6E 73\n33B2 3BC 73\n33B3 6D 73\n33B4 70 56\n33B5 6E 56\n" ++
  "33B6 3BC 56\n33B7 6D 56\n33B8 6B 56\n33B9 4D 56\n33BA 70 57\n33BB 6E 57\n33BC 3BC 57\n33BD 6D 57\n" ++
  "33BE 6B 57\n33BF 4D 57\n33C0 6B 3A9\n33C1 4D 3A9\n33C2 61 2E 6D 2E\n33C3 42 71\n33C4 63 63\n33C5 63 64\n" ++
  "33C6 43 2215 6B 67\n33C7 43 6F 2E\n33C8 64 42\n33C9 47 79\n33CA 68 61\n33CB 48 50\n33CC 69 6E\n" ++
  "33CD 4B 4B\n33CE 4B 4D\n33CF 6B 74\n33D0 6C 6D\n33D1 6C 6E\n33D2 6C 6F 67\n33D3 6C 78\n33D4 6D 62\n" ++
  "33D5 6D 69 6C\n33D6 6D 6F 6C\n33D7 50 48\n33D8 70 2E 6D 2E\n33D9 50 50 4D\n33DA 50 52\n33DB 73 72\n" ++
  "33DC 53 76\n33DD 57 62\n33E0 31 65E5\n33E1 32 65E5\n33E2 33 65E5\n33E3 34 65E5\n33E4 35 65E5\n" ++
  "33E5 36 65E5\n33E6 37 65E5\n33E7 38 65E5\n33E8 39 65E5\n33E9 31 30 65E5\n33EA 31 31 65E5\n33EB 31 32 65E5\n" ++
  "33EC 31 33 65E5\n33ED 31 34 65E5\n33EE 31 35 65E5\n33EF 31 36 65E5\n33F0 31 37 65E5\n33F1 31 38 65E5\n" ++
  "33F2 31 39 65E5\n33F3 32 30 65E5\n33F4 32 31 65E5\n33F5 32 32 65E5\n33F6 32 33 65E5\n33F7 32 34 65E5\n" ++
  "33F8 32 35 65E5\n33F9 32 36 65E5\n33FA 32 37 65E5\n33FB 32 38 65E5\n33FC 32 39 65E5\n33FD 33 30 65E5\n" ++
  "33FE 33 31 65E5\nF900 8C48\nF901 66F4\nF902 8ECA\nF903 8CC8\nF904 6ED1\nF905 4E32\nF906 53E5\n" ++
  "F907 9F9C\nF908 9F9C\nF909 5951\nF90A 91D1\nF90B 5587\nF90C 5948\nF90D 61F6\nF90E 7669\nF90F 7F85\n" ++
  "F910 863F\nF911 87BA\nF912 88F8\nF913 908F\nF914 6A02\nF915 6D1B\nF916 70D9\nF917 73DE\nF918 843D\n" ++
  "F919 916A\nF91A 99F1\nF91B 4E82\nF91C 5375\nF91D 6B04\nF91E 721B\nF91F 862D\nF920 9E1E\nF921 5D50\n" ++
  "F922 6FEB\nF923 85CD\nF924 8964\nF925 62C9\nF926 81D8\nF927 881F\nF928 5ECA\nF929 6717\nF92A 6D6A\n" ++
  "F92B 72FC\nF92C 90CE\nF92D 4F86\nF92E 51B7\nF92F 52DE\nF930 64C4\nF931 6AD3\nF932 7210\nF933 76E7\n" ++
  "F934 8001\nF935 8606\nF936 865C\nF937 8DEF\nF938 9732\nF939 9B6F\nF93A 9DFA\nF93B 788C\nF93C 797F\n" ++
  "F93D 7DA0\nF93E 83C9\nF93F 9304\nF940 9E7F\nF941 8AD6\nF942 58DF\nF943 5F04\nF944 7C60\nF945 807E\n" ++
  "F946 7262\nF947 78CA\nF948 8CC2\nF949 96F7\nF94A 58D8\nF94B 5C62\nF94C 6A13\nF94D 6DDA\nF94E 6F0F\n" ++
  "F94F 7D2F\nF950 7E37\nF951 964B\nF952 52D2\nF953 808B\nF954 51DC\nF955 51CC\nF956 7A1C\nF957 7DBE\n" ++
  "F958 83F1\nF959 9675\nF95A 8B80\nF95B 62CF\nF95C 6A02\nF95D 8AFE\nF95E 4E39\nF95F 5BE7\nF960 6012\n" ++
  "F961 7387\nF962 7570\nF963 5317\nF964 78FB\nF965 4FBF\nF966 5FA9\nF967 4E0D\nF968 6CCC\nF969 6578\n" ++
  "F96A 7D22\nF96B 53C3\nF96C 585E\nF96D 7701\nF96E 8449\nF96F 8AAA\nF970 6BBA\nF971 8FB0\nF972 6C88\n" ++
  "F973 62FE\nF974 82E5\nF975 63A0\nF976 7565\nF977 4EAE\nF978 5169\nF979 51C9\nF97A 6881\nF97B 7CE7\n" ++
  "F97C 826F\nF97D 8AD2\nF97E 91CF\nF97F 52F5\nF980 5442\nF981 5973\nF982 5EEC\nF983 65C5\nF984 6FFE\n" ++
  "F985 792A\nF986 95AD\nF987 9A6A\nF988 9E97\nF989 9ECE\nF98A 529B\nF98B 66C6\nF98C 6B77\nF98D 8F62\n" ++
  "F98E 5E74\nF98F 6190\nF990 6200\nF991 649A\nF992 6F23\nF993 7149\nF994 7489\nF995 79CA\nF996 7DF4\n" ++
  "F997 806F\nF998 8F26\nF999 84EE\nF99A 9023\nF99B 934A\nF99C 5217\nF99D 52A3\nF99E 54BD\nF99F 70C8\n" ++
  "F9A0 88C2\nF9A1 8AAA\nF9A2 5EC9\nF9A3 5FF5\nF9A4 637B\nF9A5 6BAE\nF9A6 7C3E\nF9A7 7375\nF9A8 4EE4\n" ++
  "F9A9 56F9\nF9AA 5BE7\nF9AB 5DBA\nF9AC 601C\nF9AD 73B2\nF9AE 7469\nF9AF 7F9A\nF9B0 8046\nF9B1 9234\n" ++
  "F9B2 96F6\nF9B3 9748\nF9B4 9818\nF9B5 4F8B\nF9B6 79AE\nF9B7 91B4\nF9B8 96B8\nF9B9 60E1\nF9BA 4E86\n" ++
  "F9BB 50DA\nF9BC 5BEE\nF9BD 5C3F\nF9BE 6599\nF9BF 6A02\nF9C0 71CE\nF9C1 7642\nF9C2 84FC\nF9C3 907C\n" ++
  "F9C4 9F8D\nF9C5 6688\nF9C6 962E\nF9C7 5289\nF9C8 677B\nF9C9 67F3\nF9CA 6D41\nF9CB 6E9C\nF9CC 7409\n" ++
  "F9CD 7559\nF9CE 786B\nF9CF 7D10\nF9D0 985E\nF9D1 516D\nF9D2 622E\nF9D3 9678\nF9D4 502B\nF9D5 5D19\n" ++
  "F9D6 6DEA\nF9D7 8F2A\nF9D8 5F8B\nF9D9 6144\nF9DA 6817\nF9DB 7387\nF9DC 9686\nF9DD 5229\nF9DE 540F\n" ++
  "F9DF 5C65\nF9E0 6613\nF9E1 674E\nF9E2 68A8\nF9E3 6CE5\nF9E4 7406\nF9E5 75E2\nF9E6 7F79\nF9E7 88CF\n" ++
  "F9E8 88E1\nF9E9 91CC\nF9EA 96E2\nF9EB 533F\nF9EC 6EBA\nF9ED 541D\nF9EE 71D0\nF9EF 7498\nF9F0 85FA\n" ++
  "F9F1 96A3\nF9F2 9C57\nF9F3 9E9F\nF9F4 6797\nF9F5 6DCB\nF9F6 81E8\nF9F7 7ACB\nF9F8 7B20\nF9F9 7C92\n" ++
  "F9FA 72C0\nF9FB 7099\nF9FC 8B58\nF9FD 4EC0\nF9FE 8336\nF9FF 523A\nFA00 5207\nFA01 5EA6\nFA02 62D3\n" ++
  "FA03 7CD6\nFA04 5B85\nFA05 6D1E\nFA06 66B4\nFA07 8F3B\nFA08 884C\nFA09 964D\nFA0A 898B\nFA0B 5ED3\n" ++
  "FA0C 5140\nFA0D 55C0\nFA10 585A\nFA12 6674\nFA15 51DE\nFA16 732A\nFA17 76CA\nFA18 793C\nFA19 795E\n" ++
  "FA1A 7965\nFA1B 798F\nFA1C 9756\nFA1D 7CBE\nFA1E 7FBD\nFA20 8612\nFA22 8AF8\nFA25 9038\nFA26 90FD\n" ++
  "FA2A 98EF\nFA2B 98FC\nFA2C 9928\nFA2D 9DB4\nFA30 4FAE\nFA31 50E7\nFA32 514D\nFA33 52C9\nFA34 52E4\n" ++
  "FA35 5351\nFA36 559D\nFA37 5606\nFA38 5668\nFA39 5840\nFA3A 58A8\nFA3B 5C64\nFA3C 5C6E\nFA3D 6094\n" ++
  "FA3E 6168\nFA3F 618E\nFA40 61F2\nFA41 654F\nFA42 65E2\nFA43 6691\nFA44 6885\nFA45 6D77\nFA46 6E1A\n" ++
  "FA47 6F22\nFA48 716E\nFA49 722B\nFA4A 7422\nFA4B 7891\nFA4C 793E\nFA4D 7949\nFA4E 7948\nFA4F 7950\n" ++
  "FA50 7956\nFA51 795D\nFA52 798D\nFA53 798E\nFA54 7A40\nFA55 7A81\nFA56 7BC0\nFA57 7DF4\nFA58 7E09\n" ++
  "FA59 7E41\nFA5A 7F72\nFA5B 8005\nFA5C 81ED\nFA5D 8279\nFA5E 8279\nFA5F 8457\nFA60 8910\nFA61 8996\n" ++
  "FA62 8B01\nFA63 8B39\nFA64 8CD3\nFA65 8D08\nFA66 8FB6\nFA67 9038\nFA68 96E3\nFA69 97FF\nFA6A 983B\n" ++
  "FB00 66 66\nFB01 66 69\nFB02 66 6C\nFB03 66 66 69\nFB04 66 66 6C\nFB05 73 74\nFB06 73 74\nFB13 574 576\n" ++
  "FB14 574 565\nFB15 574 56B\nFB16 57E 576\nFB17 574 56D\nFB1D 5D9 5B4\nFB1F 5F2 5B7\nFB20 5E2\n" ++
  "FB21 5D0\nFB22 5D3\nFB23 5D4\nFB24 5DB\nFB25 5DC\nFB26 5DD\nFB27 5E8\nFB28 5EA\nFB29 2B\nFB2A 5E9 5C1\n" ++
  "FB2B 5E9 5C2\nFB2C 5E9 5BC 5C1\nFB2D 5E9 5BC 5C2\nFB2E 5D0 5B7\nFB2F 5D0 5B8\nFB30 5D0 5BC\nFB31 5D1 5BC\n" ++
  "FB32 5D2 5BC\nFB33 5D3 5BC\nFB34 5D4 5BC\nFB35 5D5 5BC\nFB36 5D6 5BC\nFB38 5D8 5BC\nFB39 5D9 5BC\n" ++
  "FB3A 5DA 5BC\nFB3B 5DB 5BC\nFB3C 5DC 5BC\nFB3E 5DE 5BC\nFB40 5E0 5BC\nFB41 5E1 5BC\nFB43 5E3 5BC\n" ++
  "FB44 5E4 5BC\nFB46 5E6 5BC\nFB47 5E7 5BC\nFB48 5E8 5BC\nFB49 5E9 5BC\nFB4A 5EA 5BC\nFB4B 5D5 5B9\n" ++
  "FB4C 5D1 5BF\nFB4D 5DB 5BF\nFB4E 5E4 5BF\nFB4F 5D0 5DC\nFB50 671\nFB51 671\nFB52 67B\nFB53 67B\n" ++
  "FB54 67B\nFB55 67B\nFB56 67E\nFB57 67E\nFB58 67E\nFB59 67E\nFB5A 680\nFB5B 680\nFB5C 680\nFB5D 680\n" ++
  "FB5E 67A\nFB5F 67A\nFB60 67A\nFB61 67A\nFB62 67F\nFB63 67F\nFB64 67F\nFB65 67F\nFB66 679\nFB67 679\n" ++
  "FB68 679\nFB69 679\nFB6A 6A4\nFB6B 6A4\nFB6C 6A4\nFB6D 6A4\nFB6E 6A6\nFB6F 6A6\nFB70 6A6\nFB71 6A6\n" ++
  "FB72 684\nFB73 684\nFB74 684\nFB75 684\nFB76 683\nFB77 683\nFB78 683\nFB79 683\nFB7A 686\nFB7B 686\n" ++
  "FB7C 686\nFB7D 686\nFB7E 687\nFB7F 687\nFB80 687\nFB81 687\nFB82 68D\nFB83 68D\nFB84 68C\nFB85 68C\n" ++
  "FB86 68E\nFB87 68E\nFB88 688\nFB89 688\nFB8A 698\nFB8B 698\nFB8C 691\nFB8D 691\nFB8E 6A9\nFB8F 6A9\n" ++
  "FB90 6A9\nFB91 6A9\nFB92 6AF\nFB93 6AF\nFB94 6AF\nFB95 6AF\nFB96 6B3\nFB97 6B3\nFB98 6B3\nFB99 6B3\n" ++
  "FB9A 6B1\nFB9B 6B1\nFB9C 6B1\nFB9D 6B1\nFB9E 6BA\nFB9F 6BA\nFBA0 6BB\nFBA1 6BB\nFBA2 6BB\nFBA3 6BB\n" ++
  "FBA4 6D5 654\nFBA5 6D5 654\nFBA6 6C1\nFBA7 6C1\nFBA8 6C1\nFBA9 6C1\nFBAA 6BE\nFBAB 6BE\nFBAC 6BE\n" ++
  "FBAD 6BE\nFBAE 6D2\nFBAF 6D2\nFBB0 6D2 654\nFBB1 6D2 654\nFBD3 6AD\nFBD4 6AD\nFBD5 6AD\nFBD6 6AD\n" ++
  "FBD7 6C7\nFBD8 6C7\nFBD9 6C6\nFBDA 6C6\nFBDB 6C8\nFBDC 6C8\nFBDD 6C7 674\nFBDE 6CB\nFBDF 6CB\n" ++
  "FBE0 6C5\nFBE1 6C5\nFBE2 6C9\nFBE3 6C9\nFBE4 6D0\nFBE5 6D0\nFBE6 6D0\nFBE7 6D0\nFBE8 649\nFBE9 649\n" ++
  "FBEA 64A 654 627\nFBEB 64A 654 627\nFBEC 64A 654 6D5\nFBED 64A 654 6D5\nFBEE 64A 654 648\nFBEF 64A 654 648\n" ++
  "FBF0 64A 654 6C7\nFBF1 64A 654 6C7\nFBF2 64A 654 6C6\nFBF3 64A 654 6C6\nFBF4 64A 654 6C8\nFBF5 64A 654 6C8\n" ++
  "FBF6 64A 654 6D0\nFBF7 64A 654 6D0\nFBF8 64A 654 6D0\nFBF9 64A 654 649\nFBFA 64A 654 649\nFBFB 64A 654 649\n" ++
  "FBFC 6CC\nFBFD 6CC\nFBFE 6CC\nFBFF 6CC\nFC00 64A 654 62C\nFC01 64A 654 62D\nFC02 64A 654 645\n" ++
  "FC03 64A 654 649\nFC04 64A 654 64A\nFC05 628 62C\nFC06 628 62D\nFC07 628 62E\nFC08 628 645\nFC09 628 649\n" ++
  "FC0A 628 64A\nFC0B 62A 62C\nFC0C 62A 62D\nFC0D 62A 62E\nFC0E 62A 645\nFC0F 62A 649\nFC10 62A 64A\n" ++
  "FC11 62B 62C\nFC12 62B 645\nFC13 62B 649\nFC14 62B 64A\nFC15 62C 62D\nFC16 62C 645\nFC17 62D 62C\n" ++
  "FC18 62D 645\nFC19 62E 62C\nFC1A 62E 62D\nFC1B 62E 645\nFC1C 633 62C\nFC1D 633 62D\nFC1E 633 62E\n" ++
  "FC1F 633 645\nFC20 635 62D\nFC21 635 645\nFC22 636 62C\nFC23 636 62D\nFC24 636 62E\nFC25 636 645\n" ++
  "FC26 637 62D\nFC27 637 645\nFC28 638 645\nFC29 639 62C\nFC2A 639 645\nFC2B 63A 62C\nFC2C 63A 645\n" ++
  "FC2D 641 62C\nFC2E 641 62D\nFC2F 641 62E\nFC30 641 645\nFC31 641 649\nFC32 641 64A\nFC33 642 62D\n" ++
  "FC34 642 645\nFC35 642 649\nFC36 642 64A\nFC37 643 627\nFC38 643 62C\nFC39 643 62D\nFC3A 643 62E\n" ++
  "FC3B 643 644\nFC3C 643 645\nFC3D 643 649\nFC3E 643 64A\nFC3F 644 62C\nFC40 644 62D\nFC41 644 62E\n" ++
  "FC42 644 645\nFC43 644 649\nFC44 644 64A\nFC45 645 62C\nFC46 645 62D\nFC47 645 62E\nFC48 645 645\n" ++
  "FC49 645 649\nFC4A 645 64A\nFC4B 646 62C\nFC4C 646 62D\nFC4D 646 62E\nFC4E 646 645\nFC4F 646 649\n" ++
  "FC50 646 64A\nFC51 647 62C\nFC52 647 645\nFC53 647 649\nFC54 647 64A\nFC55 64A 62C\nFC56 64A 62D\n" ++
  "FC57 64A 62E\nFC58 64A 645\nFC59 64A 649\nFC5A 64A 64A\nFC5B 630 670\nFC5C 631 670\nFC5D 649 670\n" ++
  "FC5E 20 64C 651\nFC5F 20 64D 651\nFC60 20 64E 651\nFC61 20 64F 651\nFC62 20 650 651\nFC63 20 651 670\n" ++
  "FC64 64A 654 631\nFC65 64A 654 632\nFC66 64A 654 645\nFC67 64A 654 646\nFC68 64A 654 649\nFC69 64A 654 64A\n" ++
  "FC6A 628 631\nFC6B 628 632\nFC6C 628 645\nFC6D 628 646\nFC6E 628 649\nFC6F 628 64A\nFC70 62A 631\n" ++
  "FC71 62A 632\nFC72 62A 645\nFC73 62A 646\nFC74 62A 649\nFC75 62A 64A\nFC76 62B 631\nFC77 62B 632\n" ++
  "FC78 62B 645\nFC79 62B 646\nFC7A 62B 649\nFC7B 62B 64A\nFC7C 641 649\nFC7D 641 64A\nFC7E 642 649\n" ++
  "FC7F 642 64A\nFC80 643 627\nFC81 643 644\nFC82 643 645\nFC83 643 649\nFC84 643 64A\nFC85 644 645\n" ++
  "FC86 644 649\nFC87 644 64A\nFC88 645 627\nFC89 645 645\nFC8A 646 631\nFC8B 646 632\nFC8C 646 645\n" ++
  "FC8D 646 646\nFC8E 646 649\nFC8F 646 64A\nFC90 649 670\nFC91 64A 631\nFC92 64A 632\nFC93 64A 645\n" ++
  "FC94 64A 646\nFC95 64A 649\nFC96 64A 64A\nFC97 64A 654 62C\nFC98 64A 654 62D\nFC99 64A 654 62E\n" ++
  "FC9A 64A 654 645\nFC9B 64A 654 647\nFC9C 628 62C\nFC9D 628 62D\nFC9E 628 62E\nFC9F 628 645\nFCA0 628 647\n" ++
  "FCA1 62A 62C\nFCA2 62A 62D\nFCA3 62A 62E\nFCA4 62A 645\nFCA5 62A 647\nFCA6 62B 645\nFCA7 62C 62D\n" ++
  "FCA8 62C 645\nFCA9 62D 62C\nFCAA 62D 645\nFCAB 62E 62C\nFCAC 62E 645\nFCAD 633 62C\nFCAE 633 62D\n" ++
  "FCAF 633 62E\nFCB0 633 645\nFCB1 635 62D\nFCB2 635 62E\nFCB3 635 645\nFCB4 636 62C\nFCB5 636 62D\n" ++
  "FCB6 636 62E\nFCB7 636 645\nFCB8 637 62D\nFCB9 638 645\nFCBA 639 62C\nFCBB 639 645\nFCBC 63A 62C\n" ++
  "FCBD 63A 645\nFCBE 641 62C\nFCBF 641 62D\nFCC0 641 62E\nFCC1 641 645\nFCC2 642 62D\nFCC3 642 645\n" ++
  "FCC4 643 62C\nFCC5 643 62D\nFCC6 643 62E\nFCC7 643 644\nFCC8 643 645\nFCC9 644 62C\nFCCA 644 62D\n" ++
  "FCCB 644 62E\nFCCC 644 645\nFCCD 644 647\nFCCE 645 62C\nFCCF 645 62D\nFCD0 645 62E\nFCD1 645 645\n" ++
  "FCD2 646 62C\nFCD3 646 62D\nFCD4 646 62E\nFCD5 646 645\nFCD6 646 647\nFCD7 647 62C\nFCD8 647 645\n" ++
  "FCD9 647 670\nFCDA 64A 62C\nFCDB 64A 62D\nFCDC 64A 62E\nFCDD 64A 645\nFCDE 64A 647\nFCDF 64A 654 645\n" ++
  "FCE0 64A 654 647\nFCE1 628 645\nFCE2 628 647\nFCE3 62A 645\nFCE4 62A 647\nFCE5 62B 645\nFCE6 62B 647\n" ++
  "FCE7 633 645\nFCE8 633 647\nFCE9 634 645\nFCEA 634 647\nFCEB 643 644\nFCEC 643 645\nFCED 644 645\n" ++
  "FCEE 646 645\nFCEF 646 647\nFCF0 64A 645\nFCF1 64A 647\nFCF2 640 64E 651\nFCF3 640 64F 651\nFCF4 640 650 651\n" ++
  "FCF5 637 649\nFCF6 637 64A\nFCF7 639 649\nFCF8 639 64A\nFCF9 63A 649\nFCFA 63A 64A\nFCFB 633 649\n" ++
  "FCFC 633 64A\nFCFD 634 649\nFCFE 634 64A\nFCFF 62D 649\nFD00 62D 64A\nFD01 62C 649\nFD02 62C 64A\n" ++
  "FD03 62E 649\nFD04 62E 64A\nFD05 635 649\nFD06 635 64A\nFD07 636 649\nFD08 636 64A\nFD09 634 62C\n"

/-- Part 2 of `decompositionRows`. -/
def decompositionRowsPart2 : String :=
  "FD0A 634 62D\nFD0B 634 62E\nFD0C 634 645\nFD0D 634 631\nFD0E 633 631\nFD0F 635 631\nFD10 636 631\n" ++
  "FD11 637 649\nFD12 637 64A\nFD13 639 649\nFD14 639 64A\nFD15 63A 649\nFD16 63A 64A\nFD17 633 649\n" ++
  "FD18 633 64A\nFD19 634 649\nFD1A 634 64A\nFD1B 62D 649\nFD1C 62D 64A\nFD1D 62C 649\nFD1E 62C 64A\n" ++
  "FD1F 62E 649\nFD20 62E 64A\nFD21 635 649\nFD22 635 64A\nFD23 636 649\nFD24 636 64A\nFD25 634 62C\n" ++
  "FD26 634 62D\nFD27 634 62E\nFD28 634 645\nFD29 634 631\nFD2A 633 631\nFD2B 635 631\nFD2C 636 631\n" ++
  "FD2D 634 62C\nFD2E 634 62D\nFD2F 634 62E\nFD30 634 645\nFD31 633 647\nFD32 634 647\nFD33 637 645\n" ++
  "FD34 633 62C\nFD35 633 62D\nFD36 633 62E\nFD37 634 62C\nFD38 634 62D\nFD39 634 62E\nFD3A 637 645\n" ++
  "FD3B 638 645\nFD3C 627 64B\nFD3D 627 64B\nFD50 62A 62C 645\nFD51 62A 62D 62C\nFD52 62A 62D 62C\n" ++
  "FD53 62A 62D 645\nFD54 62A 62E 645\nFD55 62A 645 62C\nFD56 62A 645 62D\nFD57 62A 645 62E\nFD58 62C 645 62D\n" ++
  "FD59 62C 645 62D\nFD5A 62D 645 64A\nFD5B 62D 645 649\nFD5C 633 62D 62C\nFD5D 633 62C 62D\nFD5E 633 62C 649\n" ++
  "FD5F 633 645 62D\nFD60 633 645 62D\nFD61 633 645 62C\nFD62 633 645 645\nFD63 633 645 645\nFD64 635 62D 62D\n" ++
  "FD65 635 62D 62D\nFD66 635 645 645\nFD67 634 62D 645\nFD68 634 62D 645\nFD69 634 62C 64A\nFD6A 634 645 62E\n" ++
  "FD6B 634 645 62E\nFD6C 634 645 645\nFD6D 634 645 645\nFD6E 636 62D 649\nFD6F 636 62E 645\nFD70 636 62E 645\n" ++
  "FD71 637 645 62D\nFD72 637 645 62D\nFD73 637 645 645\nFD74 637 645 64A\nFD75 639 62C 645\nFD76 639 645 645\n" ++
  "FD77 639 645 645\nFD78 639 645 649\nFD79 63A 645 645\nFD7A 63A 645 64A\nFD7B 63A 645 649\nFD7C 641 62E 645\n" ++
  "FD7D 641 62E 645\nFD7E 642 645 62D\nFD7F 642 645 645\nFD80 644 62D 645\nFD81 644 62D 64A\nFD82 644 62D 649\n" ++
  "FD83 644 62C 62C\nFD84 644 62C 62C\nFD85 644 62E 645\nFD86 644 62E 645\nFD87 644 645 62D\nFD88 644 645 62D\n" ++
  "FD89 645 62D 62C\nFD8A 645 62D 645\nFD8B 645 62D 64A\nFD8C 645 62C 62D\nFD8D 645 62C 645\nFD8E 645 62E 62C\n" ++
  "FD8F 645 62E 645\nFD92 645 62C 62E\nFD93 647 645 62C\nFD94 647 645 645\nFD95 646 62D 645\nFD96 646 62D 649\n" ++
  "FD97 646 62C 645\nFD98 646 62C 645\nFD99 646 62C 649\nFD9A 646 645 64A\nFD9B 646 645 649\nFD9C 64A 645 645\n" ++
  "FD9D 64A 645 645\nFD9E 628 62E 64A\nFD9F 62A 62C 64A\nFDA0 62A 62C 649\nFDA1 62A 62E 64A\nFDA2 62A 62E 649\n" ++
  "FDA3 62A 645 64A\nFDA4 62A 645 649\nFDA5 62C 645 64A\nFDA6 62C 62D 649\nFDA7 62C 645 649\nFDA8 633 62E 649\n" ++
  "FDA9 635 62D 64A\nFDAA 634 62D 64A\nFDAB 636 62D 64A\nFDAC 644 62C 64A\nFDAD 644 645 64A\nFDAE 64A 62D 64A\n" ++
  "FDAF 64A 62C 64A\nFDB0 64A 645 64A\nFDB1 645 645 64A\nFDB2 642 645 64A\nFDB3 646 62D 64A\nFDB4 642 645 62D\n" ++
  "FDB5 644 62D 645\nFDB6 639 645 64A\nFDB7 643 645 64A\nFDB8 646 62C 62D\nFDB9 645 62E 64A\nFDBA 644 62C 645\n" ++
  "FDBB 643 645 645\nFDBC 644 62C 645\nFDBD 646 62C 62D\nFDBE 62C 62D 64A\nFDBF 62D 62C 64A\nFDC0 645 62C 64A\n" ++
  "FDC1 641 645 64A\nFDC2 628 62D 64A\nFDC3 643 645 645\nFDC4 639 62C 645\nFDC5 635 645 645\nFDC6 633 62E 64A\n" ++
  "FDC7 646 62C 64A\nFDF0 635 644 6D2\nFDF1 642 644 6D2\nFDF2 627 644 644 647\nFDF3 627 643 628 631\n" ++
  "FDF4 645 62D 645 62F\nFDF5 635 644 639 645\nFDF6 631 633 648 644\nFDF7 639 644 64A 647\nFDF8 648 633 644 645\n" ++
  "FDF9 635 644 649\nFDFA 635 644 649 20 627 644 644 647 20 639 644 64A 647 20 648 633 644 645\n" ++
  "FDFB 62C 644 20 62C 644 627 644 647\nFDFC 631 6CC 627 644\nFE30 2E 2E\nFE31 2014\nFE32 2013\n" ++
  "FE33 5F\nFE34 5F\nFE35 28\nFE36 29\nFE37 7B\nFE38 7D\nFE39 3014\nFE3A 3015\nFE3B 3010\nFE3C 3011\n" ++
  "FE3D 300A\nFE3E 300B\nFE3F 3008\nFE40 3009\nFE41 300C\nFE42 300D\nFE43 300E\nFE44 300F\nFE49 20 305\n" ++
  "FE4A 20 305\nFE4B 20 305\nFE4C 20 305\nFE4D 5F\nFE4E 5F\nFE4F 5F\nFE50 2C\nFE51 3001\nFE52 2E\n" ++
  "FE54 3B\nFE55 3A\nFE56 3F\nFE57 21\nFE58 2014\nFE59 28\nFE5A 29\nFE5B 7B\nFE5C 7D\nFE5D 3014\n" ++
  "FE5E 3015\nFE5F 23\nFE60 26\nFE61 2A\nFE62 2B\nFE63 2D\nFE64 3C\nFE65 3E\nFE66 3D\nFE68 5C\nFE69 24\n" ++
  "FE6A 25\nFE6B 40\nFE70 20 64B\nFE71 640 64B\nFE72 20 64C\nFE74 20 64D\nFE76 20 64E\nFE77 640 64E\n" ++
  "FE78 20 64F\nFE79 640 64F\nFE7A 20 650\nFE7B 640 650\nFE7C 20 651\nFE7D 640 651\nFE7E 20 652\n" ++
  "FE7F 640 652\nFE80 621\nFE81 627 653\nFE82 627 653\nFE83 627 654\nFE84 627 654\nFE85 648 654\n" ++
  "FE86 648 654\nFE87 627 655\nFE88 627 655\nFE89 64A 654\nFE8A 64A 654\nFE8B 64A 654\nFE8C 64A 654\n" ++
  "FE8D 627\nFE8E 627\nFE8F 628\nFE90 628\nFE91 628\nFE92 628\nFE93 629\nFE94 629\nFE95 62A\nFE96 62A\n" ++
  "FE97 62A\nFE98 62A\nFE99 62B\nFE9A 62B\nFE9B 62B\nFE9C 62B\nFE9D 62C\nFE9E 62C\nFE9F 62C\nFEA0 62C\n" ++
  "FEA1 62D\nFEA2 62D\nFEA3 62D\nFEA4 62D\nFEA5 62E\nFEA6 62E\nFEA7 62E\nFEA8 62E\nFEA9 62F\nFEAA 62F\n" ++
  "FEAB 630\nFEAC 630\nFEAD 631\nFEAE 631\nFEAF 632\nFEB0 632\nFEB1 633\nFEB2 633\nFEB3 633\nFEB4 633\n" ++
  "FEB5 634\nFEB6 634\nFEB7 634\nFEB8 634\nFEB9 635\nFEBA 635\nFEBB 635\nFEBC 635\nFEBD 636\nFEBE 636\n" ++
  "FEBF 636\nFEC0 636\nFEC1 637\nFEC2 637\nFEC3 637\nFEC4 637\nFEC5 638\nFEC6 638\nFEC7 638\nFEC8 638\n" ++
  "FEC9 639\nFECA 639\nFECB 639\nFECC 639\nFECD 63A\nFECE 63A\nFECF 63A\nFED0 63A\nFED1 641\nFED2 641\n" ++
  "FED3 641\nFED4 641\nFED5 642\nFED6 642\nFED7 642\nFED8 642\nFED9 643\nFEDA 643\nFEDB 643\nFEDC 643\n" ++
  "FEDD 644\nFEDE 644\nFEDF 644\nFEE0 644\nFEE1 645\nFEE2 645\nFEE3 645\nFEE4 645\nFEE5 646\nFEE6 646\n" ++
  "FEE7 646\nFEE8 646\nFEE9 647\nFEEA 647\nFEEB 647\nFEEC 647\nFEED 648\nFEEE 648\nFEEF 649\nFEF0 649\n" ++
  "FEF1 64A\nFEF2 64A\nFEF3 64A\nFEF4 64A\nFEF5 644 627 653\nFEF6 644 627 653\nFEF7 644 627 654\n" ++
  "FEF8 644 627 654\nFEF9 644 627 655\nFEFA 644 627 655\nFEFB 644 627\nFEFC 644 627\nFF01 21\nFF02 22\n" ++
  "FF03 23\nFF04 24\nFF05 25\nFF06 26\nFF07 27\nFF08 28\nFF09 29\nFF0A 2A\nFF0B 2B\nFF0C 2C\nFF0D 2D\n" ++
  "FF0E 2E\nFF0F 2F\nFF10 30\nFF11 31\nFF12 32\nFF13 33\nFF14 34\nFF15 35\nFF16 36\nFF17 37\nFF18 38\n" ++
  "FF19 39\nFF1A 3A\nFF1B 3B\nFF1C 3C\nFF1D 3D\nFF1E 3E\nFF1F 3F\nFF20 40\nFF21 41\nFF22 42\nFF23 43\n" ++
  "FF24 44\nFF25 45\nFF26 46\nFF27 47\nFF28 48\nFF29 49\nFF2A 4A\nFF2B 4B\nFF2C 4C\nFF2D 4D\nFF2E 4E\n" ++
  "FF2F 4F\nFF30 50\nFF31 51\nFF32 52\nFF33 53\nFF34 54\nFF35 55\nFF36 56\nFF37 57\nFF38 58\nFF39 59\n" ++
  "FF3A 5A\nFF3B 5B\nFF3C 5C\nFF3D 5D\nFF3E 5E\nFF3F 5F\nFF40 60\nFF41 61\nFF42 62\nFF43 63\nFF44 64\n" ++
  "FF45 65\nFF46 66\nFF47 67\nFF48 68\nFF49 69\nFF4A 6A\nFF4B 6B\nFF4C 6C\nFF4D 6D\nFF4E 6E\nFF4F 6F\n" ++
  "FF50 70\nFF51 71\nFF52 72\nFF53 73\nFF54 74\nFF55 75\nFF56 76\nFF57 77\nFF58 78\nFF59 79\nFF5A 7A\n" ++
  "FF5B 7B\nFF5C 7C\nFF5D 7D\nFF5E 7E\nFF5F 2985\nFF60 2986\nFF61 3002\nFF62 300C\nFF63 300D\nFF64 3001\n" ++
  "FF65 30FB\nFF66 30F2\nFF67 30A1\nFF68 30A3\nFF69 30A5\nFF6A 30A7\nFF6B 30A9\nFF6C 30E3\nFF6D 30E5\n" ++
  "FF6E 30E7\nFF6F 30C3\nFF70 30FC\nFF71 30A2\nFF72 30A4\nFF73 30A6\nFF74 30A8\nFF75 30AA\nFF76 30AB\n" ++
  "FF77 30AD\nFF78 30AF\nFF79 30B1\nFF7A 30B3\nFF7B 30B5\nFF7C 30B7\nFF7D 30B9\nFF7E 30BB\nFF7F 30BD\n" ++
  "FF80 30BF\nFF81 30C1\nFF82 30C4\nFF83 30C6\nFF84 30C8\nFF85 30CA\nFF86 30CB\nFF87 30CC\nFF88 30CD\n" ++
  "FF89 30CE\nFF8A 30CF\nFF8B 30D2\nFF8C 30D5\nFF8D 30D8\nFF8E 30DB\nFF8F 30DE\nFF90 30DF\nFF91 30E0\n" ++
  "FF92 30E1\nFF93 30E2\nFF94 30E4\nFF95 30E6\nFF96 30E8\nFF97 30E9\nFF98 30EA\nFF99 30EB\nFF9A 30EC\n" ++
  "FF9B 30ED\nFF9C 30EF\nFF9D 30F3\nFF9E 3099\nFF9F 309A\nFFA0 1160\nFFA1 1100\nFFA2 1101\nFFA3 11AA\n" ++
  "FFA4 1102\nFFA5 11AC\nFFA6 11AD\nFFA7 1103\nFFA8 1104\nFFA9 1105\nFFAA 11B0\nFFAB 11B1\nFFAC 11B2\n" ++
  "FFAD 11B3\nFFAE 11B4\nFFAF 11B5\nFFB0 111A\nFFB1 1106\nFFB2 1107\nFFB3 1108\nFFB4 1121\nFFB5 1109\n" ++
  "FFB6 110A\nFFB7 110B\nFFB8 110C\nFFB9 110D\nFFBA 110E\nFFBB 110F\nFFBC 1110\nFFBD 1111\nFFBE 1112\n" ++
  "FFC2 1161\nFFC3 1162\nFFC4 1163\nFFC5 1164\nFFC6 1165\nFFC7 1166\nFFCA 1167\nFFCB 1168\nFFCC 1169\n" ++
  "FFCD 116A\nFFCE 116B\nFFCF 116C\nFFD2 116D\nFFD3 116E\nFFD4 116F\nFFD5 1170\nFFD6 1171\nFFD7 1172\n" ++
  "FFDA 1173\nFFDB 1174\nFFDC 1175\nFFE0 A2\nFFE1 A3\nFFE2 AC\nFFE3 20 304\nFFE4 A6\nFFE5 A5\nFFE6 20A9\n" ++
  "FFE8 2502\nFFE9 2190\nFFEA 2191\nFFEB 2192\nFFEC 2193\nFFED 25A0\nFFEE 25CB\n1D15E 1D157 1D165\n" ++
  "1D15F 1D158 1D165\n1D160 1D158 1D165 1D16E\n1D161 1D158 1D165 1D16F\n1D162 1D158 1D165 1D170\n" ++
  "1D163 1D158 1D165 1D171\n1D164 1D158 1D165 1D172\n1D1BB 1D1B9 1D165\n1D1BC 1D1BA 1D165\n1D1BD 1D1B9 1D165 1D16E\n" ++
  "1D1BE 1D1BA 1D165 1D16E\n1D1BF 1D1B9 1D165 1D16F\n1D1C0 1D1BA 1D165 1D16F\n1D400 41\n1D401 42\n" ++
  "1D402 43\n1D403 44\n1D404 45\n1D405 46\n1D406 47\n1D407 48\n1D408 49\n1D409 4A\n1D40A 4B\n1D40B 4C\n" ++
  "1D40C 4D\n1D40D 4E\n1D40E 4F\n1D40F 50\n1D410 51\n1D411 52\n1D412 53\n1D413 54\n1D414 55\n1D415 56\n" ++
  "1D416 57\n1D417 58\n1D418 59\n1D419 5A\n1D41A 61\n1D41B 62\n1D41C 63\n1D41D 64\n1D41E 65\n1D41F 66\n" ++
  "1D420 67\n1D421 68\n1D422 69\n1D423 6A\n1D424 6B\n1D425 6C\n1D426 6D\n1D427 6E\n1D428 6F\n1D429 70\n" ++
  "1D42A 71\n1D42B 72\n1D42C 73\n1D42D 74\n1D42E 75\n1D42F 76\n1D430 77\n1D431 78\n1D432 79\n1D433 7A\n" ++
  "1D434 41\n1D435 42\n1D436 43\n1D437 44\n1D438 45\n1D439 46\n1D43A 47\n1D43B 48\n1D43C 49\n1D43D 4A\n" ++
  "1D43E 4B\n1D43F 4C\n1D440 4D\n1D441 4E\n1D442 4F\n1D443 50\n1D444 51\n1D445 52\n1D446 53\n1D447 54\n" ++
  "1D448 55\n1D449 56\n1D44A 57\n1D44B 58\n1D44C 59\n1D44D 5A\n1D44E 61\n1D44F 62\n1D450 63\n1D451 64\n" ++
  "1D452 65\n1D453 66\n1D454 67\n1D456 69\n1D457 6A\n1D458 6B\n1D459 6C\n1D45A 6D\n1D45B 6E\n1D45C 6F\n" ++
  "1D45D 70\n1D45E 71\n1D45F 72\n1D460 73\n1D461 74\n1D462 75\n1D463 76\n1D464 77\n1D465 78\n1D466 79\n" ++
  "1D467 7A\n1D468 41\n1D469 42\n1D46A 43\n1D46B 44\n1D46C 45\n1D46D 46\n1D46E 47\n1D46F 48\n1D470 49\n" ++
  "1D471 4A\n1D472 4B\n1D473 4C\n1D474 4D\n1D475 4E\n1D476 4F\n1D477 50\n1D478 51\n1D479 52\n1D47A 53\n" ++
  "1D47B 54\n1D47C 55\n1D47D 56\n1D47E 57\n1D47F 58\n1D480 59\n1D481 5A\n1D482 61\n1D483 62\n1D484 63\n" ++
  "1D485 64\n1D486 65\n1D487 66\n1D488 67\n1D489 68\n1D48A 69\n1D48B 6A\n1D48C 6B\n1D48D 6C\n1D48E 6D\n" ++
  "1D48F 6E\n1D490 6F\n1D491 70\n1D492 71\n1D493 72\n1D494 73\n1D495 74\n1D496 75\n1D497 76\n1D498 77\n" ++
  "1D499 78\n1D49A 79\n1D49B 7A\n1D49C 41\n1D49E 43\n1D49F 44\n1D4A2 47\n1D4A5 4A\n1D4A6 4B\n1D4A9 4E\n" ++
  "1D4AA 4F\n1D4AB 50\n1D4AC 51\n1D4AE 53\n1D4AF 54\n1D4B0 55\n1D4B1 56\n1D4B2 57\n1D4B3 58\n1D4B4 59\n" ++
  "1D4B5 5A\n1D4B6 61\n1D4B7 62\n1D4B8 63\n1D4B9 64\n1D4BB 66\n1D4BD 68\n1D4BE 69\n1D4BF 6A\n1D4C0 6B\n" ++
  "1D4C2 6D\n1D4C3 6E\n1D4C5 70\n1D4C6 71\n1D4C7 72\n1D4C8 73\n1D4C9 74\n1D4CA 75\n1D4CB 76\n1D4CC 77\n" ++
  "1D4CD 78\n1D4CE 79\n1D4CF 7A\n1D4D0 41\n1D4D1 42\n1D4D2 43\n1D4D3 44\n1D4D4 45\n1D4D5 46\n1D4D6 47\n" ++
  "1D4D7 48\n1D4D8 49\n1D4D9 4A\n1D4DA 4B\n1D4DB 4C\n1D4DC 4D\n1D4DD 4E\n1D4DE 4F\n1D4DF 50\n1D4E0 51\n" ++
  "1D4E1 52\n1D4E2 53\n1D4E3 54\n1D4E4 55\n1D4E5 56\n1D4E6 57\n1D4E7 58\n1D4E8 59\n1D4E9 5A\n1D4EA 61\n" ++
  "1D4EB 62\n1D4EC 63\n1D4ED 64\n1D4EE 65\n1D4EF 66\n1D4F0 67\n1D4F1 68\n1D4F2 69\n1D4F3 6A\n1D4F4 6B\n" ++
  "1D4F5 6C\n1D4F6 6D\n1D4F7 6E\n1D4F8 6F\n1D4F9 70\n1D4FA 71\n1D4FB 72\n1D4FC 73\n1D4FD 74\n1D4FE 75\n" ++
  "1D4FF 76\n1D500 77\n1D501 78\n1D502 79\n1D503 7A\n1D504 41\n1D505 42\n1D507 44\n1D508 45\n1D509 46\n" ++
  "1D50A 47\n1D50D 4A\n1D50E 4B\n1D50F 4C\n1D510 4D\n1D511 4E\n1D512 4F\n1D513 50\n1D514 51\n1D516 53\n" ++
  "1D517 54\n1D518 55\n1D519 56\n1D51A 57\n1D51B 58\n1D51C 59\n1D51E 61\n1D51F 62\n1D520 63\n1D521 64\n" ++
  "1D522 65\n1D523 66\n1D524 67\n1D525 68\n1D526 69\n1D527 6A\n1D528 6B\n1D529 6C\n1D52A 6D\n1D52B 6E\n" ++
  "1D52C 6F\n1D52D 70\n1D52E 71\n1D52F 72\n1D530 73\n1D531 74\n1D532 75\n1D533 76\n1D534 77\n1D535 78\n" ++
  "1D536 79\n1D537 7A\n1D538 41\n1D539 42\n1D53B 44\n1D53C 45\n1D53D 46\n1D53E 47\n1D540 49\n1D541 4A\n" ++
  "1D542 4B\n1D543 4C\n1D544 4D\n1D546 4F\n1D54A 53\n1D54B 54\n1D54C 55\n1D54D 56\n1D54E 57\n1D54F 58\n" ++
  "1D550 59\n1D552 61\n1D553 62\n1D554 63\n1D555 64\n1D556 65\n1D557 66\n1D558 67\n1D559 68\n1D55A 69\n" ++
  "1D55B 6A\n1D55C 6B\n1D55D 6C\n1D55E 6D\n1D55F 6E\n1D560 6F\n1D561 70\n1D562 71\n1D563 72\n1D564 73\n" ++
  "1D565 74\n1D566 75\n1D567 76\n1D568 77\n1D569 78\n1D56A 79\n1D56B 7A\n1D56C 41\n1D56D 42\n1D56E 43\n" ++
  "1D56F 44\n1D570 45\n1D571 46\n1D572 47\n1D573 48\n1D574 49\n1D575 4A\n1D576 4B\n1D577 4C\n1D578 4D\n" ++
  "1D579 4E\n1D57A 4F\n1D57B 50\n1D57C 51\n1D57D 52\n1D57E 53\n1D57F 54\n1D580 55\n1D581 56\n1D582 57\n" ++
  "1D583 58\n1D584 59\n1D585 5A\n1D586 61\n1D587 62\n1D588 63\n1D589 64\n1D58A 65\n1D58B 66\n1D58C 67\n" ++
  "1D58D 68\n1D58E 69\n1D58F 6A\n1D590 6B\n1D591 6C\n1D592 6D\n1D593 6E\n1D594 6F\n1D595 70\n1D596 71\n" ++
  "1D597 72\n1D598 73\n1D599 74\n1D59A 75\n1D59B 76\n1D59C 77\n1D59D 78\n1D59E 79\n1D59F 7A\n1D5A0 41\n" ++
  "1D5A1 42\n1D5A2 43\n1D5A3 44\n1D5A4 45\n1D5A5 46\n1D5A6 47\n1D5A7 48\n1D5A8 49\n1D5A9 4A\n1D5AA 4B\n" ++
  "1D5AB 4C\n1D5AC 4D\n1D5AD 4E\n1D5AE 4F\n1D5AF 50\n1D5B0 51\n1D5B1 52\n1D5B2 53\n1D5B3 54\n1D5B4 55\n" ++
  "1D5B5 56\n1D5B6 57\n1D5B7 58\n1D5B8 59\n1D5B9 5A\n1D5BA 61\n1D5BB 62\n1D5BC 63\n1D5BD 64\n1D5BE 65\n" ++
  "1D5BF 66\n1D5C0 67\n1D5C1 68\n1D5C2 69\n1D5C3 6A\n1D5C4 6B\n1D5C5 6C\n1D5C6 6D\n1D5C7 6E\n1D5C8 6F\n" ++
  "1D5C9 70\n1D5CA 71\n1D5CB 72\n1D5CC 73\n1D5CD 74\n1D5CE 75\n1D5CF 76\n1D5D0 77\n1D5D1 78\n1D5D2 79\n" ++
  "1D5D3 7A\n1D5D4 41\n1D5D5 42\n1D5D6 43\n1D5D7 44\n1D5D8 45\n1D5D9 46\n1D5DA 47\n1D5DB 48\n1D5DC 49\n" ++
  "1D5DD 4A\n1D5DE 4B\n1D5DF 4C\n1D5E0 4D\n1D5E1 4E\n1D5E2 4F\n1D5E3 50\n1D5E4 51\n1D5E5 52\n1D5E6 53\n" ++
  "1D5E7 54\n1D5E8 55\n1D5E9 56\n1D5EA 57\n1D5EB 58\n1D5EC 59\n1D5ED 5A\n1D5EE 61\n1D5EF 62\n1D5F0 63\n" ++
  "1D5F1 64\n1D5F2 65\n1D5F3 66\n1D5F4 67\n1D5F5 68\n1D5F6 69\n1D5F7 6A\n1D5F8 6B\n1D5F9 6C\n1D5FA 6D\n" ++
  "1D5FB 6E\n1D5FC 6F\n1D5FD 70\n1D5FE 71\n1D5FF 72\n1D600 73\n1D601 74\n1D602 75\n1D603 76\n1D604 77\n" ++
  "1D605 78\n1D606 79\n1D607 7A\n1D608 41\n1D609 42\n1D60A 43\n1D60B 44\n1D60C 45\n1D60D 46\n1D60E 47\n" ++
  "1D60F 48\n1D610 49\n1D611 4A\n1D612 4B\n1D613 4C\n1D614 4D\n1D615 4E\n1D616 4F\n1D617 50\n1D618 51\n" ++
  "1D619 52\n1D61A 53\n1D61B 54\n1D61C 55\n1D61D 56\n1D61E 57\n1D61F 58\n1D620 59\n1D621 5A\n1D622 61\n" ++
  "1D623 62\n1D624 63\n1D625 64\n1D626 65\n1D627 66\n1D628 67\n1D629 68\n1D62A 69\n1D62B 6A\n1D62C 6B\n" ++
  "1D62D 6C\n1D62E 6D\n1D62F 6E\n1D630 6F\n1D631 70\n1D632 71\n1D633 72\n1D634 73\n1D635 74\n1D636 75\n" ++
  "1D637 76\n1D638 77\n1D639 78\n1D63A 79\n1D63B 7A\n1D63C 41\n1D63D 42\n1D63E 43\n1D63F 44\n1D640 45\n" ++
  "1D641 46\n1D642 47\n1D643 48\n1D644 49\n1D645 4A\n1D646 4B\n1D647 4C\n1D648 4D\n1D649 4E\n1D64A 4F\n" ++
  "1D64B 50\n1D64C 51\n1D64D 52\n1D64E 53\n1D64F 54\n1D650 55\n1D651 56\n1D652 57\n1D653 58\n1D654 59\n" ++
  "1D655 5A\n1D656 61\n1D657 62\n1D658 63\n1D659 64\n1D65A 65\n1D65B 66\n1D65C 67\n1D65D 68\n1D65E 69\n" ++
  "1D65F 6A\n1D660 6B\n1D661 6C\n1D662 6D\n1D663 6E\n1D664 6F\n1D665 70\n1D666 71\n1D667 72\n1D668 73\n" ++
  "1D669 74\n1D66A 75\n1D66B 76\n1D66C 77\n1D66D 78\n1D66E 79\n1D66F 7A\n1D670 41\n1D671 42\n1D672 43\n" ++
  "1D673 44\n1D674 45\n1D675 46\n1D676 47\n1D677 48\n1D678 49\n1D679 4A\n1D67A 4B\n1D67B 4C\n1D67C 4D\n" ++
  "1D67D 4E\n1D67E 4F\n1D67F 50\n1D680 51\n1D681 52\n1D682 53\n1D683 54\n1D684 55\n1D685 56\n1D686 57\n" ++
  "1D687 58\n1D688 59\n1D689 5A\n1D68A 61\n1D68B 62\n1D68C 63\n1D68D 64\n1D68E 65\n1D68F 66\n1D690 67\n" ++
  "1D691 68\n1D692 69\n1D693 6A\n1D694 6B\n1D695 6C\n1D696 6D\n1D697 6E\n1D698 6F\n1D699 70\n1D69A 71\n" ++
  "1D69B 72\n1D69C 73\n1D69D 74\n1D69E 75\n1D69F 76\n1D6A0 77\n1D6A1 78\n1D6A2 79\n1D6A3 7A\n1D6A8 391\n" ++
  "1D6A9 392\n1D6AA 393\n1D6AB 394\n1D6AC 395\n1D6AD 396\n1D6AE 397\n1D6AF 398\n1D6B0 399\n1D6B1 39A\n" ++
  "1D6B2 39B\n1D6B3 39C\n1D6B4 39D\n1D6B5 39E\n1D6B6 39F\n1D6B7 3A0\n1D6B8 3A1\n1D6B9 398\n1D6BA 3A3\n" ++
  "1D6BB 3A4\n1D6BC 3A5\n1D6BD 3A6\n1D6BE 3A7\n1D6BF 3A8\n1D6C0 3A9\n1D6C1 2207\n1D6C2 3B1\n1D6C3 3B2\n" ++
  "1D6C4 3B3\n1D6C5 3B4\n1D6C6 3B5\n1D6C7 3B6\n1D6C8 3B7\n1D6C9 3B8\n1D6CA 3B9\n1D6CB 3BA\n1D6CC 3BB\n" ++
  "1D6CD 3BC\n1D6CE 3BD\n1D6CF 3BE\n1D6D0 3BF\n1D6D1 3C0\n1D6D2 3C1\n1D6D3 3C2\n1D6D4 3C3\n1D6D5 3C4\n" ++
  "1D6D6 3C5\n1D6D7 3C6\n1D6D8 3C7\n1D6D9 3C8\n1D6DA 3C9\n1D6DB 2202\n1D6DC 3B5\n1D6DD 3B8\n1D6DE 3BA\n" ++
  "1D6DF 3C6\n1D6E0 3C1\n1D6E1 3C0\n1D6E2 391\n1D6E3 392\n1D6E4 393\n1D6E5 394\n1D6E6 395\n1D6E7 396\n" ++
  "1D6E8 397\n1D6E9 398\n1D6EA 399\n1D6EB 39A\n1D6EC 39B\n1D6ED 39C\n1D6EE 39D\n1D6EF 39E\n1D6F0 39F\n" ++
  "1D6F1 3A0\n1D6F2 3A1\n1D6F3 398\n1D6F4 3A3\n1D6F5 3A4\n1D6F6 3A5\n1D6F7 3A6\n1D6F8 3A7\n1D6F9 3A8\n" ++
  "1D6FA 3A9\n1D6FB 2207\n1D6FC 3B1\n1D6FD 3B2\n1D6FE 3B3\n1D6FF 3B4\n1D700 3B5\n1D701 3B6\n1D702 3B7\n" ++
  "1D703 3B8\n1D704 3B9\n1D705 3BA\n1D706 3BB\n1D707 3BC\n1D708 3BD\n1D709 3BE\n1D70A 3BF\n1D70B 3C0\n" ++
  "1D70C 3C1\n1D70D 3C2\n1D70E 3C3\n1D70F 3C4\n1D710 3C5\n1D711 3C6\n1D712 3C7\n1D713 3C8\n1D714 3C9\n" ++
  "1D715 2202\n1D716 3B5\n1D717 3B8\n1D718 3BA\n1D719 3C6\n1D71A 3C1\n1D71B 3C0\n1D71C 391\n1D71D 392\n" ++
  "1D71E 393\n1D71F 394\n1D720 395\n1D721 396\n1D722 397\n1D723 398\n1D724 399\n1D725 39A\n1D726 39B\n" ++
  "1D727 39C\n1D728 39D\n1D729 39E\n1D72A 39F\n1D72B 3A0\n1D72C 3A1\n1D72D 398\n1D72E 3A3\n1D72F 3A4\n" ++
  "1D730 3A5\n1D731 3A6\n1D732 3A7\n1D733 3A8\n1D734 3A9\n1D735 2207\n1D736 3B1\n1D737 3B2\n1D738 3B3\n" ++
  "1D739 3B4\n1D73A 3B5\n1D73B 3B6\n1D73C 3B7\n1D73D 3B8\n1D73E 3B9\n1D73F 3BA\n1D740 3BB\n1D741 3BC\n" ++
  "1D742 3BD\n1D743 3BE\n1D744 3BF\n1D745 3C0\n1D746 3C1\n1D747 3C2\n1D748 3C3\n1D749 3C4\n1D74A 3C5\n" ++
  "1D74B 3C6\n1D74C 3C7\n1D74D 3C8\n1D74E 3C9\n1D74F 2202\n1D750 3B5\n1D751 3B8\n1D752 3BA\n1D753 3C6\n" ++
  "1D754 3C1\n1D755 3C0\n1D756 391\n1D757 392\n1D758 393\n1D759 394\n1D75A 395\n1D75B 396\n1D75C 397\n" ++
  "1D75D 398\n1D75E 399\n1D75F 39A\n1D760 39B\n1D761 39C\n1D762 39D\n1D763 39E\n1D764 39F\n1D765 3A0\n" ++
  "1D766 3A1\n1D767 398\n1D768 3A3\n1D769 3A4\n1D76A 3A5\n1D76B 3A6\n1D76C 3A7\n1D76D 3A8\n1D76E 3A9\n" ++
  "1D76F 2207\n1D770 3B1\n1D771 3B2\n1D772 3B3\n1D773 3B4\n1D774 3B5\n1D775 3B6\n1D776 3B7\n1D777 3B8\n" ++
  "1D778 3B9\n1D779 3BA\n1D77A 3BB\n1D77B 3BC\n1D77C 3BD\n1D77D 3BE\n1D77E 3BF\n1D77F 3C0\n1D780 3C1\n" ++
  "1D781 3C2\n1D782 3C3\n1D783 3C4\n1D784 3C5\n1D785 3C6\n1D786 3C7\n1D787 3C8\n1D788 3C9\n1D789 2202\n" ++
  "1D78A 3B5\n1D78B 3B8\n1D78C 3BA\n1D78D 3C6\n1D78E 3C1\n1D78F 3C0\n1D790 391\n1D791 392\n1D792 393\n" ++
  "1D793 394\n1D794 395\n1D795 396\n1D796 397\n1D797 398\n1D798 399\n1D799 39A\n1D79A 39B\n1D79B 39C\n" ++
  "1D79C 39D\n1D79D 39E\n1D79E 39F\n1D79F 3A0\n1D7A0 3A1\n1D7A1 398\n1D7A2 3A3\n1D7A3 3A4\n1D7A4 3A5\n" ++
  "1D7A5 3A6\n1D7A6 3A7\n1D7A7 3A8\n1D7A8 3A9\n1D7A9 2207\n1D7AA 3B1\n1D7AB 3B2\n1D7AC 3B3\n1D7AD 3B4\n" ++
  "1D7AE 3B5\n1D7AF 3B6\n1D7B0 3B7\n1D7B1 3B8\n1D7B2 3B9\n1D7B3 3BA\n1D7B4 3BB\n1D7B5 3BC\n1D7B6 3BD\n" ++
  "1D7B7 3BE\n1D7B8 3BF\n1D7B9 3C0\n1D7BA 3C1\n1D7BB 3C2\n1D7BC 3C3\n1D7BD 3C4\n1D7BE 3C5\n1D7BF 3C6\n" ++
  "1D7C0 3C7\n1D7C1 3C8\n1D7C2 3C9\n1D7C3 2202\n1D7C4 3B5\n1D7C5 3B8\n1D7C6 3BA\n1D7C7 3C6\n1D7C8 3C1\n" ++
  "1D7C9 3C0\n1D7CE 30\n1D7CF 31\n1D7D0 32\n1D7D1 33\n1D7D2 34\n1D7D3 35\n1D7D4 36\n1D7D5 37\n1D7D6 38\n" ++
  "1D7D7 39\n1D7D8 30\n1D7D9 31\n1D7DA 32\n1D7DB 33\n1D7DC 34\n1D7DD 35\n1D7DE 36\n1D7DF 37\n1D7E0 38\n" ++
  "1D7E1 39\n1D7E2 30\n1D7E3 31\n1D7E4 32\n1D7E5 33\n1D7E6 34\n1D7E7 35\n1D7E8 36\n1D7E9 37\n1D7EA 38\n" ++
  "1D7EB 39\n1D7EC 30\n1D7ED 31\n1D7EE 32\n1D7EF 33\n1D7F0 34\n1D7F1 35\n1D7F2 36\n1D7F3 37\n1D7F4 38\n" ++
  "1D7F5 39\n1D7F6 30\n1D7F7 31\n1D7F8 32\n1D7F9 33\n1D7FA 34\n1D7FB 35\n1D7FC 36\n1D7FD 37\n1D7FE 38\n" ++
  "1D7FF 39\n2F800 4E3D\n2F801 4E38\n2F802 4E41\n2F803 20122\n2F804 4F60\n2F805 4FAE\n2F806 4FBB\n" ++
  "2F807 5002\n2F808 507A\n2F809 5099\n2F80A 50E7\n2F80B 50CF\n2F80C 349E\n2F80D 2063A\n2F80E 514D\n" ++
  "2F80F 5154\n2F810 5164\n2F811 5177\n2F812 2051C\n2F813 34B9\n2F814 5167\n2F815 518D\n2F816 2054B\n" ++
  "2F817 5197\n2F818 51A4\n2F819 4ECC\n2F81A 51AC\n2F81B 51B5\n2F81C 291DF\n2F81D 51F5\n2F81E 5203\n" ++
  "2F81F 34DF\n2F820 523B\n2F821 5246\n2F822 5272\n2F823 5277\n2F824 3515\n2F825 52C7\n2F826 52C9\n" ++
  "2F827 52E4\n2F828 52FA\n2F829 5305\n2F82A 5306\n2F82B 5317\n2F82C 5349\n2F82D 5351\n2F82E 535A\n" ++
  "2F82F 5373\n2F830 537D\n2F831 537F\n2F832 537F\n2F833 537F\n2F834 20A2C\n2F835 7070\n2F836 53CA\n" ++
  "2F837 53DF\n2F838 20B63\n2F839 53EB\n2F83A 53F1\n2F83B 5406\n2F83C 549E\n2F83D 5438\n2F83E 5448\n" ++
  "2F83F 5468\n2F840 54A2\n2F841 54F6\n2F842 5510\n2F843 5553\n2F844 5563\n2F845 5584\n2F846 5584\n" ++
  "2F847 5599\n2F848 55AB\n2F849 55B3\n2F84A 55C2\n2F84B 5716\n2F84C 5606\n2F84D 5717\n2F84E 5651\n" ++
  "2F84F 5674\n2F850 5207\n2F851 58EE\n2F852 57CE\n2F853 57F4\n2F854 580D\n2F855 578B\n2F856 5832\n" ++
  "2F857 5831\n2F858 58AC\n2F859 214E4\n2F85A 58F2\n2F85B 58F7\n2F85C 5906\n2F85D 591A\n2F85E 5922\n" ++
  "2F85F 5962\n2F860 216A8\n2F861 216EA\n2F862 59EC\n2F863 5A1B\n2F864 5A27\n2F865 59D8\n2F866 5A66\n" ++
  "2F867 36EE\n2F868 2136A\n2F869 5B08\n2F86A 5B3E\n2F86B 5B3E\n2F86C 219C8\n2F86D 5BC3\n2F86E 5BD8\n" ++
  "2F86F 5BE7\n2F870 5BF3\n2F871 21B18\n2F872 5BFF\n2F873 5C06\n2F874 5F33\n2F875 5C22\n2F876 3781\n" ++
  "2F877 5C60\n2F878 5C6E\n2F879 5CC0\n2F87A 5C8D\n2F87B 21DE4\n2F87C 5D43\n2F87D 21DE6\n2F87E 5D6E\n" ++
  "2F87F 5D6B\n2F880 5D7C\n2F881 5DE1\n2F882 5DE2\n2F883 382F\n2F884 5DFD\n2F885 5E28\n2F886 5E3D\n" ++
  "2F887 5E69\n2F888 3862\n2F889 22183\n2F88A 387C\n2F88B 5EB0\n2F88C 5EB3\n2F88D 5EB6\n2F88E 5ECA\n" ++
  "2F88F 2A392\n2F890 5EFE\n2F891 22331\n2F892 22331\n2F893 8201\n2F894 5F22\n2F895 5F22\n2F896 38C7\n" ++
  "2F897 232B8\n2F898 261DA\n2F899 5F62\n2F89A 5F6B\n2F89B 38E3\n2F89C 5F9A\n2F89D 5FCD\n2F89E 5FD7\n" ++
  "2F89F 5FF9\n2F8A0 6081\n2F8A1 393A\n2F8A2 391C\n2F8A3 6094\n2F8A4 226D4\n2F8A5 60C7\n2F8A6 6148\n" ++
  "2F8A7 614C\n2F8A8 614E\n2F8A9 614C\n2F8AA 617A\n2F8AB 618E\n2F8AC 61B2\n2F8AD 61A4\n2F8AE 61AF\n" ++
  "2F8AF 61DE\n2F8B0 61F2\n2F8B1 61F6\n2F8B2 6210\n2F8B3 621B\n2F8B4 625D\n2F8B5 62B1\n2F8B6 62D4\n" ++
  "2F8B7 6350\n2F8B8 22B0C\n2F8B9 633D\n2F8BA 62FC\n2F8BB 6368\n2F8BC 6383\n2F8BD 63E4\n2F8BE 22BF1\n" ++
  "2F8BF 6422\n2F8C0 63C5\n2F8C1 63A9\n2F8C2 3A2E\n2F8C3 6469\n2F8C4 647E\n2F8C5 649D\n2F8C6 6477\n" ++
  "2F8C7 3A6C\n2F8C8 654F\n2F8C9 656C\n2F8CA 2300A\n2F8CB 65E3\n2F8CC 66F8\n2F8CD 6649\n2F8CE 3B19\n" ++
  "2F8CF 6691\n2F8D0 3B08\n2F8D1 3AE4\n2F8D2 5192\n2F8D3 5195\n2F8D4 6700\n2F8D5 669C\n2F8D6 80AD\n" ++
  "2F8D7 43D9\n2F8D8 6717\n2F8D9 671B\n2F8DA 6721\n2F8DB 675E\n2F8DC 6753\n2F8DD 233C3\n2F8DE 3B49\n" ++
  "2F8DF 67FA\n2F8E0 6785\n2F8E1 6852\n2F8E2 6885\n2F8E3 2346D\n2F8E4 688E\n2F8E5 681F\n2F8E6 6914\n" ++
  "2F8E7 3B9D\n2F8E8 6942\n2F8E9 69A3\n2F8EA 69EA\n2F8EB 6AA8\n2F8EC 236A3\n2F8ED 6ADB\n2F8EE 3C18\n" ++
  "2F8EF 6B21\n2F8F0 238A7\n2F8F1 6B54\n2F8F2 3C4E\n2F8F3 6B72\n2F8F4 6B9F\n2F8F5 6BBA\n2F8F6 6BBB\n" ++
  "2F8F7 23A8D\n2F8F8 21D0B\n2F8F9 23AFA\n2F8FA 6C4E\n2F8FB 23CBC\n2F8FC 6CBF\n2F8FD 6CCD\n2F8FE 6C67\n" ++
  "2F8FF 6D16\n2F900 6D3E\n2F901 6D77\n2F902 6D41\n2F903 6D69\n2F904 6D78\n2F905 6D85\n2F906 23D1E\n" ++
  "2F907 6D34\n2F908 6E2F\n2F909 6E6E\n2F90A 3D33\n2F90B 6ECB\n2F90C 6EC7\n2F90D 23ED1\n2F90E 6DF9\n" ++
  "2F90F 6F6E\n2F910 23F5E\n2F911 23F8E\n2F912 6FC6\n2F913 7039\n2F914 701E\n2F915 701B\n2F916 3D96\n" ++
  "2F917 704A\n2F918 707D\n2F919 7077\n2F91A 70AD\n2F91B 20525\n2F91C 7145\n2F91D 24263\n2F91E 719C\n" ++
  "2F91F 43AB\n2F920 7228\n2F921 7235\n2F922 7250\n2F923 24608\n2F924 7280\n2F925 7295\n2F926 24735\n" ++
  "2F927 24814\n2F928 737A\n2F929 738B\n2F92A 3EAC\n2F92B 73A5\n2F92C 3EB8\n2F92D 3EB8\n2F92E 7447\n" ++
  "2F92F 745C\n2F930 7471\n2F931 7485\n2F932 74CA\n2F933 3F1B\n2F934 7524\n2F935 24C36\n2F936 753E\n" ++
  "2F937 24C92\n2F938 7570\n2F939 2219F\n2F93A 7610\n2F93B 24FA1\n2F93C 24FB8\n2F93D 25044\n2F93E 3FFC\n" ++
  "2F93F 4008\n2F940 76F4\n2F941 250F3\n2F942 250F2\n2F943 25119\n2F944 25133\n2F945 771E\n2F946 771F\n" ++
  "2F947 771F\n2F948 774A\n2F949 4039\n2F94A 778B\n2F94B 4046\n2F94C 4096\n2F94D 2541D\n2F94E 784E\n" ++
  "2F94F 788C\n2F950 78CC\n2F951 40E3\n2F952 25626\n2F953 7956\n2F954 2569A\n2F955 256C5\n2F956 798F\n" ++
  "2F957 79EB\n2F958 412F\n2F959 7A40\n2F95A 7A4A\n2F95B 7A4F\n2F95C 2597C\n2F95D 25AA7\n2F95E 25AA7\n" ++
  "2F95F 7AAE\n2F960 4202\n2F961 25BAB\n2F962 7BC6\n2F963 7BC9\n2F964 4227\n2F965 25C80\n2F966 7CD2\n" ++
  "2F967 42A0\n2F968 7CE8\n2F969 7CE3\n2F96A 7D00\n2F96B 25F86\n2F96C 7D63\n2F96D 4301\n2F96E 7DC7\n" ++
  "2F96F 7E02\n2F970 7E45\n2F971 4334\n2F972 26228\n2F973 26247\n2F974 4359\n2F975 262D9\n2F976 7F7A\n" ++
  "2F977 2633E\n2F978 7F95\n2F979 7FFA\n2F97A 8005\n2F97B 264DA\n2F97C 26523\n2F97D 8060\n2F97E 265A8\n" ++
  "2F97F 8070\n2F980 2335F\n2F981 43D5\n2F982 80B2\n2F983 8103\n2F984 440B\n2F985 813E\n2F986 5AB5\n" ++
  "2F987 267A7\n2F988 267B5\n2F989 23393\n2F98A 2339C\n2F98B 8201\n2F98C 8204\n2F98D 8F9E\n2F98E 446B\n" ++
  "2F98F 8291\n2F990 828B\n2F991 829D\n2F992 52B3\n2F993 82B1\n2F994 82B3\n2F995 82BD\n2F996 82E6\n" ++
  "2F997 26B3C\n2F998 82E5\n2F999 831D\n2F99A 8363\n2F99B 83AD\n2F99C 8323\n2F99D 83BD\n2F99E 83E7\n" ++
  "2F99F 8457\n2F9A0 8353\n2F9A1 83CA\n2F9A2 83CC\n2F9A3 83DC\n2F9A4 26C36\n2F9A5 26D6B\n2F9A6 26CD5\n" ++
  "2F9A7 452B\n2F9A8 84F1\n2F9A9 84F3\n2F9AA 8516\n2F9AB 273CA\n2F9AC 8564\n2F9AD 26F2C\n2F9AE 455D\n" ++
  "2F9AF 4561\n2F9B0 26FB1\n2F9B1 270D2\n2F9B2 456B\n2F9B3 8650\n2F9B4 865C\n2F9B5 8667\n2F9B6 8669\n" ++
  "2F9B7 86A9\n2F9B8 8688\n2F9B9 870E\n2F9BA 86E2\n2F9BB 8779\n2F9BC 8728\n2F9BD 876B\n2F9BE 8786\n" ++
  "2F9BF 4D57\n2F9C0 87E1\n2F9C1 8801\n2F9C2 45F9\n2F9C3 8860\n2F9C4 8863\n2F9C5 27667\n2F9C6 88D7\n" ++
  "2F9C7 88DE\n2F9C8 4635\n2F9C9 88FA\n2F9CA 34BB\n2F9CB 278AE\n2F9CC 27966\n2F9CD 46BE\n2F9CE 46C7\n" ++
  "2F9CF 8AA0\n2F9D0 8AED\n2F9D1 8B8A\n2F9D2 8C55\n2F9D3 27CA8\n2F9D4 8CAB\n2F9D5 8CC1\n2F9D6 8D1B\n" ++
  "2F9D7 8D77\n2F9D8 27F2F\n2F9D9 20804\n2F9DA 8DCB\n2F9DB 8DBC\n2F9DC 8DF0\n2F9DD 208DE\n2F9DE 8ED4\n" ++
  "2F9DF 8F38\n2F9E0 285D2\n2F9E1 285ED\n2F9E2 9094\n2F9E3 90F1\n2F9E4 9111\n2F9E5 2872E\n2F9E6 911B\n" ++
  "2F9E7 9238\n2F9E8 92D7\n2F9E9 92D8\n2F9EA 927C\n2F9EB 93F9\n2F9EC 9415\n2F9ED 28BFA\n2F9EE 958B\n" ++
  "2F9EF 4995\n2F9F0 95B7\n2F9F1 28D77\n2F9F2 49E6\n2F9F3 96C3\n2F9F4 5DB2\n2F9F5 9723\n2F9F6 29145\n" ++
  "2F9F7 2921A\n2F9F8 4A6E\n2F9F9 4A76\n2F9FA 97E0\n2F9FB 2940A\n2F9FC 4AB2\n2F9FD 29496\n2F9FE 980B\n" ++
  "2F9FF 980B\n2FA00 9829\n2FA01 295B6\n2FA02 98E2\n2FA03 4B33\n2FA04 9929\n2FA05 99A7\n2FA06 99C2\n" ++
  "2FA07 99FE\n2FA08 4BCE\n2FA09 29B30\n2FA0A 9B12\n2FA0B 9C40\n2FA0C 9CFD\n2FA0D 4CCE\n2FA0E 4CED\n" ++
  "2FA0F 9D67\n2FA10 2A0CE\n2FA11 4CF8\n2FA12 2A105\n2FA13 2A20E\n2FA14 2A291\n2FA15 9EBB\n2FA16 4D56\n" ++
  "2FA17 9EF9\n2FA18 9EFE\n2FA19 9F05\n2FA1A 9F0F\n2FA1B 9F16\n2FA1C 9F3B\n2FA1D 2A600"

/-- The full compatibility decompositions of version 3.2, canonically ordered: a code point, then
the code points it decomposes into. Hangul syllables, decomposed by rule, are not listed. -/
def decompositionRows : String :=
  String.join [decompositionRowsPart1, decompositionRowsPart2]

/-- The nonzero canonical combining classes: the first and last code point of a range and the
class of every code point in it. -/
def combiningRows : String :=
  "300 314 E6\n315 315 E8\n316 319 DC\n31A 31A E8\n31B 31B D8\n31C 320 DC\n321 322 CA\n323 326 DC\n" ++
  "327 328 CA\n329 333 DC\n334 338 1\n339 33C DC\n33D 344 E6\n345 345 F0\n346 346 E6\n347 349 DC\n" ++
  "34A 34C E6\n34D 34E DC\n350 352 E6\n353 356 DC\n357 357 E6\n358 358 E8\n359 35A DC\n35B 35B E6\n" ++
  "35C 35C E9\n35D 35E EA\n35F 35F E9\n360 361 EA\n362 362 E9\n363 36F E6\n483 487 E6\n591 591 DC\n" ++
  "592 595 E6\n596 596 DC\n597 599 E6\n59A 59A DE\n59B 59B DC\n59C 5A1 E6\n5A2 5A7 DC\n5A8 5A9 E6\n" ++
  "5AA 5AA DC\n5AB 5AC E6\n5AD 5AD DE\n5AE 5AE E4\n5AF 5AF E6\n5B0 5B0 A\n5B1 5B1 B\n5B2 5B2 C\n" ++
  "5B3 5B3 D\n5B4 5B4 E\n5B5 5B5 F\n5B6 5B6 10\n5B7 5B7 11\n5B8 5B8 12\n5B9 5BA 13\n5BB 5BB 14\n" ++
  "5BC 5BC 15\n5BD 5BD 16\n5BF 5BF 17\n5C1 5C1 18\n5C2 5C2 19\n5C4 5C4 E6\n5C5 5C5 DC\n5C7 5C7 12\n" ++
  "610 617 E6\n618 618 1E\n619 619 1F\n61A 61A 20\n64B 64B 1B\n64C 64C 1C\n64D 64D 1D\n64E 64E 1E\n" ++
  "64F 64F 1F\n650 650 20\n651 651 21\n652 652 22\n653 654 E6\n655 656 DC\n657 65B E6\n65C 65C DC\n" ++
  "65D 65E E6\n65F 65F DC\n670 670 23\n6D6 6DC E6\n6DF 6E2 E6\n6E3 6E3 DC\n6E4 6E4 E6\n6E7 6E8 E6\n" ++
  "6EA 6EA DC\n6EB 6EC E6\n6ED 6ED DC\n711 711 24\n730 730 E6\n731 731 DC\n732 733 E6\n734 734 DC\n" ++
  "735 736 E6\n737 739 DC\n73A 73A E6\n73B 73C DC\n73D 73D E6\n73E 73E DC\n73F 741 E6\n742 742 DC\n" ++
  "743 743 E6\n744 744 DC\n745 745 E6\n746 746 DC\n747 747 E6\n748 748 DC\n749 74A E6\n7EB 7F1 E6\n" ++
  "7F2 7F2 DC\n7F3 7F3 E6\n7FD 7FD DC\n816 819 E6\n81B 823 E6\n825 827 E6\n829 82D E6\n859 85B DC\n" ++
  "898 898 E6\n899 89B DC\n89C 89F E6\n8CA 8CE E6\n8CF 8D3 DC\n8D4 8E1 E6\n8E3 8E3 DC\n8E4 8E5 E6\n" ++
  "8E6 8E6 DC\n8E7 8E8 E6\n8E9 8E9 DC\n8EA 8EC E6\n8ED 8EF DC\n8F0 8F0 1B\n8F1 8F1 1C\n8F2 8F2 1D\n" ++
  "8F3 8F5 E6\n8F6 8F6 DC\n8F7 8F8 E6\n8F9 8FA DC\n8FB 8FF E6\n93C 93C 7\n94D 94D 9\n951 951 E6\n" ++
  "952 952 DC\n953 954 E6\n9BC 9BC 7\n9CD 9CD 9\n9FE 9FE E6\nA3C A3C 7\nA4D A4D 9\nABC ABC 7\nACD ACD 9\n" ++
  "B3C B3C 7\nB4D B4D 9\nBCD BCD 9\nC3C C3C 7\nC4D C4D 9\nC55 C55 54\nC56 C56 5B\nCBC CBC 7\nCCD CCD 9\n" ++
  "D3B D3C 9\nD4D D4D 9\nDCA DCA 9\nE38 E39 67\nE3A E3A 9\nE48 E4B 6B\nEB8 EB9 76\nEBA EBA 9\nEC8 ECB 7A\n" ++
  "F18 F19 DC\nF35 F35 DC\nF37 F37 DC\nF39 F39 D8\nF71 F71 81\nF72 F72 82\nF74 F74 84\nF7A F7D 82\n" ++
  "F80 F80 82\nF82 F83 E6\nF84 F84 9\nF86 F87 E6\nFC6 FC6 DC\n1037 1037 7\n1039 103A 9\n108D 108D DC\n" ++
  "135D 135F E6\n1714 1715 9\n1734 1734 9\n17D2 17D2 9\n17DD 17DD E6\n18A9 18A9 E4\n1939 1939 DE\n" ++
  "193A 193A E6\n193B 193B DC\n1A17 1A17 E6\n1A18 1A18 DC\n1A60 1A60 9\n1A75 1A7C E6\n1A7F 1A7F DC\n" ++
  "1AB0 1AB4 E6\n1AB5 1ABA DC\n1ABB 1ABC E6\n1ABD 1ABD DC\n1ABF 1AC0 DC\n1AC1 1AC2 E6\n1AC3 1AC4 DC\n" ++
  "1AC5 1AC9 E6\n1ACA 1ACA DC\n1ACB 1ACE E6\n1B34 1B34 7\n1B44 1B44 9\n1B6B 1B6B E6\n1B6C 1B6C DC\n" ++
  "1B6D 1B73 E6\n1BAA 1BAB 9\n1BE6 1BE6 7\n1BF2 1BF3 9\n1C37 1C37 7\n1CD0 1CD2 E6\n1CD4 1CD4 1\n" ++
  "1CD5 1CD9 DC\n1CDA 1CDB E6\n1CDC 1CDF DC\n1CE0 1CE0 E6\n1CE2 1CE8 1\n1CED 1CED DC\n1CF4 1CF4 E6\n" ++
  "1CF8 1CF9 E6\n1DC0 1DC1 E6\n1DC2 1DC2 DC\n1DC3 1DC9 E6\n1DCA 1DCA DC\n1DCB 1DCC E6\n1DCD 1DCD EA\n" ++
  "1DCE 1DCE D6\n1DCF 1DCF DC\n1DD0 1DD0 CA\n1DD1 1DF5 E6\n1DF6 1DF6 E8\n1DF7 1DF8 E4\n1DF9 1DF9 DC\n" ++
  "1DFA 1DFA DA\n1DFB 1DFB E6\n1DFC 1DFC E9\n1DFD 1DFD DC\n1DFE 1DFE E6\n1DFF 1DFF DC\n20D0 20D1 E6\n" ++
  "20D2 20D3 1\n20D4 20D7 E6\n20D8 20DA 1\n20DB 20DC E6\n20E1 20E1 E6\n20E5 20E6 1\n20E7 20E7 E6\n" ++
  "20E8 20E8 DC\n20E9 20E9 E6\n20EA 20EB 1\n20EC 20EF DC\n20F0 20F0 E6\n2CEF 2CF1 E6\n2D7F 2D7F 9\n" ++
  "2DE0 2DFF E6\n302A 302A DA\n302B 302B E4\n302C 302C E8\n302D 302D DE\n302E 302F E0\n3099 309A 8\n" ++
  "A66F A66F E6\nA674 A67D E6\nA69E A69F E6\nA6F0 A6F1 E6\nA806 A806 9\nA82C A82C 9\nA8C4 A8C4 9\n" ++
  "A8E0 A8F1 E6\nA92B A92D DC\nA953 A953 9\nA9B3 A9B3 7\nA9C0 A9C0 9\nAAB0 AAB0 E6\nAAB2 AAB3 E6\n" ++
  "AAB4 AAB4 DC\nAAB7 AAB8 E6\nAABE AABF E6\nAAC1 AAC1 E6\nAAF6 AAF6 9\nABED ABED 9\nFB1E FB1E 1A\n" ++
  "FE20 FE26 E6\nFE27 FE2D DC\nFE2E FE2F E6\n101FD 101FD DC\n102E0 102E0 DC\n10376 1037A E6\n10A0D 10A0D DC\n" ++
  "10A0F 10A0F E6\n10A38 10A38 E6\n10A39 10A39 1\n10A3A 10A3A DC\n10A3F 10A3F 9\n10AE5 10AE5 E6\n" ++
  "10AE6 10AE6 DC\n10D24 10D27 E6\n10EAB 10EAC E6\n10F46 10F47 DC\n10F48 10F4A E6\n10F4B 10F4B DC\n" ++
  "10F4C 10F4C E6\n10F4D 10F50 DC\n10F82 10F82 E6\n10F83 10F83 DC\n10F84 10F84 E6\n10F85 10F85 DC\n" ++
  "11046 11046 9\n11070 11070 9\n1107F 1107F 9\n110B9 110B9 9\n110BA 110BA 7\n11100 11102 E6\n11133 11134 9\n" ++
  "11173 11173 7\n111C0 111C0 9\n111CA 111CA 7\n11235 11235 9\n11236 11236 7\n112E9 112E9 7\n112EA 112EA 9\n" ++
  "1133B 1133C 7\n1134D 1134D 9\n11366 1136C E6\n11370 11374 E6\n11442 11442 9\n11446 11446 7\n1145E 1145E E6\n" ++
  "114C2 114C2 9\n114C3 114C3 7\n115BF 115BF 9\n115C0 115C0 7\n1163F 1163F 9\n116B6 116B6 9\n116B7 116B7 7\n" ++
  "1172B 1172B 9\n11839 11839 9\n1183A 1183A 7\n1193D 1193E 9\n11943 11943 7\n119E0 119E0 9\n11A34 11A34 9\n" ++
  "11A47 11A47 9\n11A99 11A99 9\n11C3F 11C3F 9\n11D42 11D42 7\n11D44 11D45 9\n11D97 11D97 9\n16AF0 16AF4 1\n" ++
  "16B30 16B36 E6\n16FF0 16FF1 6\n1BC9E 1BC9E 1\n1D165 1D166 D8\n1D167 1D169 1\n1D16D 1D16D E2\n" ++
  "1D16E 1D172 D8\n1D17B 1D182 DC\n1D185 1D189 E6\n1D18A 1D18B DC\n1D1AA 1D1AD E6\n1D242 1D244 E6\n" ++
  "1E000 1E006 E6\n1E008 1E018 E6\n1E01B 1E021 E6\n1E023 1E024 E6\n1E026 1E02A E6\n1E130 1E136 E6\n" ++
  "1E2AE 1E2AE E6\n1E2EC 1E2EF E6\n1E8D0 1E8D6 DC\n1E944 1E949 E6\n1E94A 1E94A 7"

/-- The canonical compositions of two code points, in increasing order: the first, the second
and the composite. -/
def compositionRows : String :=
  "3C 338 226E\n3D 338 2260\n3E 338 226F\n41 300 C0\n41 301 C1\n41 302 C2\n41 303 C3\n41 304 100\n" ++
  "41 306 102\n41 307 226\n41 308 C4\n41 309 1EA2\n41 30A C5\n41 30C 1CD\n41 30F 200\n41 311 202\n" ++
  "41 323 1EA0\n41 325 1E00\n41 328 104\n42 307 1E02\n42 323 1E04\n42 331 1E06\n43 301 106\n43 302 108\n" ++
  "43 307 10A\n43 30C 10C\n43 327 C7\n44 307 1E0A\n44 30C 10E\n44 323 1E0C\n44 327 1E10\n44 32D 1E12\n" ++
  "44 331 1E0E\n45 300 C8\n45 301 C9\n45 302 CA\n45 303 1EBC\n45 304 112\n45 306 114\n45 307 116\n" ++
  "45 308 CB\n45 309 1EBA\n45 30C 11A\n45 30F 204\n45 311 206\n45 323 1EB8\n45 327 228\n45 328 118\n" ++
  "45 32D 1E18\n45 330 1E1A\n46 307 1E1E\n47 301 1F4\n47 302 11C\n47 304 1E20\n47 306 11E\n47 307 120\n" ++
  "47 30C 1E6\n47 327 122\n48 302 124\n48 307 1E22\n48 308 1E26\n48 30C 21E\n48 323 1E24\n48 327 1E28\n" ++
  "48 32E 1E2A\n49 300 CC\n49 301 CD\n49 302 CE\n49 303 128\n49 304 12A\n49 306 12C\n49 307 130\n" ++
  "49 308 CF\n49 309 1EC8\n49 30C 1CF\n49 30F 208\n49 311 20A\n49 323 1ECA\n49 328 12E\n49 330 1E2C\n" ++
  "4A 302 134\n4B 301 1E30\n4B 30C 1E8\n4B 323 1E32\n4B 327 136\n4B 331 1E34\n4C 301 139\n4C 30C 13D\n" ++
  "4C 323 1E36\n4C 327 13B\n4C 32D 1E3C\n4C 331 1E3A\n4D 301 1E3E\n4D 307 1E40\n4D 323 1E42\n4E 300 1F8\n" ++
  "4E 301 143\n4E 303 D1\n4E 307 1E44\n4E 30C 147\n4E 323 1E46\n4E 327 145\n4E 32D 1E4A\n4E 331 1E48\n" ++
  "4F 300 D2\n4F 301 D3\n4F 302 D4\n4F 303 D5\n4F 304 14C\n4F 306 14E\n4F 307 22E\n4F 308 D6\n4F 309 1ECE\n" ++
  "4F 30B 150\n4F 30C 1D1\n4F 30F 20C\n4F 311 20E\n4F 31B 1A0\n4F 323 1ECC\n4F 328 1EA\n50 301 1E54\n" ++
  "50 307 1E56\n52 301 154\n52 307 1E58\n52 30C 158\n52 30F 210\n52 311 212\n52 323 1E5A\n52 327 156\n" ++
  "52 331 1E5E\n53 301 15A\n53 302 15C\n53 307 1E60\n53 30C 160\n53 323 1E62\n53 326 218\n53 327 15E\n" ++
  "54 307 1E6A\n54 30C 164\n54 323 1E6C\n54 326 21A\n54 327 162\n54 32D 1E70\n54 331 1E6E\n55 300 D9\n" ++
  "55 301 DA\n55 302 DB\n55 303 168\n55 304 16A\n55 306 16C\n55 308 DC\n55 309 1EE6\n55 30A 16E\n" ++
  "55 30B 170\n55 30C 1D3\n55 30F 214\n55 311 216\n55 31B 1AF\n55 323 1EE4\n55 324 1E72\n55 328 172\n" ++
  "55 32D 1E76\n55 330 1E74\n56 303 1E7C\n56 323 1E7E\n57 300 1E80\n57 301 1E82\n57 302 174\n57 307 1E86\n" ++
  "57 308 1E84\n57 323 1E88\n58 307 1E8A\n58 308 1E8C\n59 300 1EF2\n59 301 DD\n59 302 176\n59 303 1EF8\n" ++
  "59 304 232\n59 307 1E8E\n59 308 178\n59 309 1EF6\n59 323 1EF4\n5A 301 179\n5A 302 1E90\n5A 307 17B\n" ++
  "5A 30C 17D\n5A 323 1E92\n5A 331 1E94\n61 300 E0\n61 301 E1\n61 302 E2\n61 303 E3\n61 304 101\n" ++
  "61 306 103\n61 307 227\n61 308 E4\n61 309 1EA3\n61 30A E5\n61 30C 1CE\n61 30F 201\n61 311 203\n" ++
  "61 323 1EA1\n61 325 1E01\n61 328 105\n62 307 1E03\n62 323 1E05\n62 331 1E07\n63 301 107\n63 302 109\n" ++
  "63 307 10B\n63 30C 10D\n63 327 E7\n64 307 1E0B\n64 30C 10F\n64 323 1E0D\n64 327 1E11\n64 32D 1E13\n" ++
  "64 331 1E0F\n65 300 E8\n65 301 E9\n65 302 EA\n65 303 1EBD\n65 304 113\n65 306 115\n65 307 117\n" ++
  "65 308 EB\n65 309 1EBB\n65 30C 11B\n65 30F 205\n65 311 207\n65 323 1EB9\n65 327 229\n65 328 119\n" ++
  "65 32D 1E19\n65 330 1E1B\n66 307 1E1F\n67 301 1F5\n67 302 11D\n67 304 1E21\n67 306 11F\n67 307 121\n" ++
  "67 30C 1E7\n67 327 123\n68 302 125\n68 307 1E23\n68 308 1E27\n68 30C 21F\n68 323 1E25\n68 327 1E29\n" ++
  "68 32E 1E2B\n68 331 1E96\n69 300 EC\n69 301 ED\n69 302 EE\n69 303 129\n69 304 12B\n69 306 12D\n" ++
  "69 308 EF\n69 309 1EC9\n69 30C 1D0\n69 30F 209\n69 311 20B\n69 323 1ECB\n69 328 12F\n69 330 1E2D\n" ++
  "6A 302 135\n6A 30C 1F0\n6B 301 1E31\n6B 30C 1E9\n6B 323 1E33\n6B 327 137\n6B 331 1E35\n6C 301 13A\n" ++
  "6C 30C 13E\n6C 323 1E37\n6C 327 13C\n6C 32D 1E3D\n6C 331 1E3B\n6D 301 1E3F\n6D 307 1E41\n6D 323 1E43\n" ++
  "6E 300 1F9\n6E 301 144\n6E 303 F1\n6E 307 1E45\n6E 30C 148\n6E 323 1E47\n6E 327 146\n6E 32D 1E4B\n" ++
  "6E 331 1E49\n6F 300 F2\n6F 301 F3\n6F 302 F4\n6F 303 F5\n6F 304 14D\n6F 306 14F\n6F 307 22F\n" ++
  "6F 308 F6\n6F 309 1ECF\n6F 30B 151\n6F 30C 1D2\n6F 30F 20D\n6F 311 20F\n6F 31B 1A1\n6F 323 1ECD\n" ++
  "6F 328 1EB\n70 301 1E55\n70 307 1E57\n72 301 155\n72 307 1E59\n72 30C 159\n72 30F 211\n72 311 213\n" ++
  "72 323 1E5B\n72 327 157\n72 331 1E5F\n73 301 15B\n73 302 15D\n73 307 1E61\n73 30C 161\n73 323 1E63\n" ++
  "73 326 219\n73 327 15F\n74 307 1E6B\n74 308 1E97\n74 30C 165\n74 323 1E6D\n74 326 21B\n74 327 163\n" ++
  "74 32D 1E71\n74 331 1E6F\n75 300 F9\n75 301 FA\n75 302 FB\n75 303 169\n75 304 16B\n75 306 16D\n" ++
  "75 308 FC\n75 309 1EE7\n75 30A 16F\n75 30B 171\n75 30C 1D4\n75 30F 215\n75 311 217\n75 31B 1B0\n" ++
  "75 323 1EE5\n75 324 1E73\n75 328 173\n75 32D 1E77\n75 330 1E75\n76 303 1E7D\n76 323 1E7F\n77 300 1E81\n" ++
  "77 301 1E83\n77 302 175\n77 307 1E87\n77 308 1E85\n77 30A 1E98\n77 323 1E89\n78 307 1E8B\n78 308 1E8D\n" ++
  "79 300 1EF3\n79 301 FD\n79 302 177\n79 303 1EF9\n79 304 233\n79 307 1E8F\n79 308 FF\n79 309 1EF7\n" ++
  "79 30A 1E99\n79 323 1EF5\n7A 301 17A\n7A 302 1E91\n7A 307 17C\n7A 30C 17E\n7A 323 1E93\n7A 331 1E95\n" ++
  "A8 300 1FED\nA8 301 385\nA8 342 1FC1\nC2 300 1EA6\nC2 301 1EA4\nC2 303 1EAA\nC2 309 1EA8\nC4 304 1DE\n" ++
  "C5 301 1FA\nC6 301 1FC\nC6 304 1E2\nC7 301 1E08\nCA 300 1EC0\nCA 301 1EBE\nCA 303 1EC4\nCA 309 1EC2\n" ++
  "CF 301 1E2E\nD4 300 1ED2\nD4 301 1ED0\nD4 303 1ED6\nD4 309 1ED4\nD5 301 1E4C\nD5 304 22C\nD5 308 1E4E\n" ++
  "D6 304 22A\nD8 301 1FE\nDC 300 1DB\nDC 301 1D7\nDC 304 1D5\nDC 30C 1D9\nE2 300 1EA7\nE2 301 1EA5\n" ++
  "E2 303 1EAB\nE2 309 1EA9\nE4 304 1DF\nE5 301 1FB\nE6 301 1FD\nE6 304 1E3\nE7 301 1E09\nEA 300 1EC1\n" ++
  "EA 301 1EBF\nEA 303 1EC5\nEA 309 1EC3\nEF 301 1E2F\nF4 300 1ED3\nF4 301 1ED1\nF4 303 1ED7\nF4 309 1ED5\n" ++
  "F5 301 1E4D\nF5 304 22D\nF5 308 1E4F\nF6 304 22B\nF8 301 1FF\nFC 300 1DC\nFC 301 1D8\nFC 304 1D6\n" ++
  "FC 30C 1DA\n102 300 1EB0\n102 301 1EAE\n102 303 1EB4\n102 309 1EB2\n103 300 1EB1\n103 301 1EAF\n" ++
  "103 303 1EB5\n103 309 1EB3\n112 300 1E14\n112 301 1E16\n113 300 1E15\n113 301 1E17\n14C 300 1E50\n" ++
  "14C 301 1E52\n14D 300 1E51\n14D 301 1E53\n15A 307 1E64\n15B 307 1E65\n160 307 1E66\n161 307 1E67\n" ++
  "168 301 1E78\n169 301 1E79\n16A 308 1E7A\n16B 308 1E7B\n17F 307 1E9B\n1A0 300 1EDC\n1A0 301 1EDA\n" ++
  "1A0 303 1EE0\n1A0 309 1EDE\n1A0 323 1EE2\n1A1 300 1EDD\n1A1 301 1EDB\n1A1 303 1EE1\n1A1 309 1EDF\n" ++
  "1A1 323 1EE3\n1AF 300 1EEA\n1AF 301 1EE8\n1AF 303 1EEE\n1AF 309 1EEC\n1AF 323 1EF0\n1B0 300 1EEB\n" ++
  "1B0 301 1EE9\n1B0 303 1EEF\n1B0 309 1EED\n1B0 323 1EF1\n1B7 30C 1EE\n1EA 304 1EC\n1EB 304 1ED\n" ++
  "226 304 1E0\n227 304 1E1\n228 306 1E1C\n229 306 1E1D\n22E 304 230\n22F 304 231\n292 30C 1EF\n" ++
  "391 300 1FBA\n391 301 386\n391 304 1FB9\n391 306 1FB8\n391 313 1F08\n391 314 1F09\n391 345 1FBC\n" ++
  "395 300 1FC8\n395 301 388\n395 313 1F18\n395 314 1F19\n397 300 1FCA\n397 301 389\n397 313 1F28\n" ++
  "397 314 1F29\n397 345 1FCC\n399 300 1FDA\n399 301 38A\n399 304 1FD9\n399 306 1FD8\n399 308 3AA\n" ++
  "399 313 1F38\n399 314 1F39\n39F 300 1FF8\n39F 301 38C\n39F 313 1F48\n39F 314 1F49\n3A1 314 1FEC\n" ++
  "3A5 300 1FEA\n3A5 301 38E\n3A5 304 1FE9\n3A5 306 1FE8\n3A5 308 3AB\n3A5 314 1F59\n3A9 300 1FFA\n" ++
  "3A9 301 38F\n3A9 313 1F68\n3A9 314 1F69\n3A9 345 1FFC\n3AC 345 1FB4\n3AE 345 1FC4\n3B1 300 1F70\n" ++
  "3B1 301 3AC\n3B1 304 1FB1\n3B1 306 1FB0\n3B1 313 1F00\n3B1 314 1F01\n3B1 342 1FB6\n3B1 345 1FB3\n" ++
  "3B5 300 1F72\n3B5 301 3AD\n3B5 313 1F10\n3B5 314 1F11\n3B7 300 1F74\n3B7 301 3AE\n3B7 313 1F20\n" ++
  "3B7 314 1F21\n3B7 342 1FC6\n3B7 345 1FC3\n3B9 300 1F76\n3B9 301 3AF\n3B9 304 1FD1\n3B9 306 1FD0\n" ++
  "3B9 308 3CA\n3B9 313 1F30\n3B9 314 1F31\n3B9 342 1FD6\n3BF 300 1F78\n3BF 301 3CC\n3BF 313 1F40\n" ++
  "3BF 314 1F41\n3C1 313 1FE4\n3C1 314 1FE5\n3C5 300 1F7A\n3C5 301 3CD\n3C5 304 1FE1\n3C5 306 1FE0\n" ++
  "3C5 308 3CB\n3C5 313 1F50\n3C5 314 1F51\n3C5 342 1FE6\n3C9 300 1F7C\n3C9 301 3CE\n3C9 313 1F60\n" ++
  "3C9 314 1F61\n3C9 342 1FF6\n3C9 345 1FF3\n3CA 300 1FD2\n3CA 301 390\n3CA 342 1FD7\n3CB 300 1FE2\n" ++
  "3CB 301 3B0\n3CB 342 1FE7\n3CE 345 1FF4\n3D2 301 3D3\n3D2 308 3D4\n406 308 407\n410 306 4D0\n" ++
  "410 308 4D2\n413 301 403\n415 300 400\n415 306 4D6\n415 308 401\n416 306 4C1\n416 308 4DC\n417 308 4DE\n" ++
  "418 300 40D\n418 304 4E2\n418 306 419\n418 308 4E4\n41A 301 40C\n41E 308 4E6\n423 304 4EE\n423 306 40E\n" ++
  "423 308 4F0\n423 30B 4F2\n427 308 4F4\n42B 308 4F8\n42D 308 4EC\n430 306 4D1\n430 308 4D3\n433 301 453\n" ++
  "435 300 450\n435 306 4D7\n435 308 451\n436 306 4C2\n436 308 4DD\n437 308 4DF\n438 300 45D\n438 304 4E3\n" ++
  "438 306 439\n438 308 4E5\n43A 301 45C\n43E 308 4E7\n443 304 4EF\n443 306 45E\n443 308 4F1\n443 30B 4F3\n" ++
  "447 308 4F5\n44B 308 4F9\n44D 308 4ED\n456 308 457\n474 30F 476\n475 30F 477\n4D8 308 4DA\n4D9 308 4DB\n" ++
  "4E8 308 4EA\n4E9 308 4EB\n627 653 622\n627 654 623\n627 655 625\n648 654 624\n64A 654 626\n6C1 654 6C2\n" ++
  "6D2 654 6D3\n6D5 654 6C0\n928 93C 929\n930 93C 931\n933 93C 934\n9C7 9BE 9CB\n9C7 9D7 9CC\nB47 B3E B4B\n" ++
  "B47 B56 B48\nB47 B57 B4C\nB92 BD7 B94\nBC6 BBE BCA\nBC6 BD7 BCC\nBC7 BBE BCB\nC46 C56 C48\nCBF CD5 CC0\n" ++
  "CC6 CC2 CCA\nCC6 CD5 CC7\nCC6 CD6 CC8\nCCA CD5 CCB\nD46 D3E D4A\nD46 D57 D4C\nD47 D3E D4B\nDD9 DCA DDA\n" ++
  "DD9 DCF DDC\nDD9 DDF DDE\nDDC DCA DDD\n1025 102E 1026\n1B05 1B35 1B06\n1B07 1B35 1B08\n1B09 1B35 1B0A\n" ++
  "1B0B 1B35 1B0C\n1B0D 1B35 1B0E\n1B11 1B35 1B12\n1B3A 1B35 1B3B\n1B3C 1B35 1B3D\n1B3E 1B35 1B40\n" ++
  "1B3F 1B35 1B41\n1B42 1B35 1B43\n1E36 304 1E38\n1E37 304 1E39\n1E5A 304 1E5C\n1E5B 304 1E5D\n1E62 307 1E68\n" ++
  "1E63 307 1E69\n1EA0 302 1EAC\n1EA0 306 1EB6\n1EA1 302 1EAD\n1EA1 306 1EB7\n1EB8 302 1EC6\n1EB9 302 1EC7\n" ++
  "1ECC 302 1ED8\n1ECD 302 1ED9\n1F00 300 1F02\n1F00 301 1F04\n1F00 342 1F06\n1F00 345 1F80\n1F01 300 1F03\n" ++
  "1F01 301 1F05\n1F01 342 1F07\n1F01 345 1F81\n1F02 345 1F82\n1F03 345 1F83\n1F04 345 1F84\n1F05 345 1F85\n" ++
  "1F06 345 1F86\n1F07 345 1F87\n1F08 300 1F0A\n1F08 301 1F0C\n1F08 342 1F0E\n1F08 345 1F88\n1F09 300 1F0B\n" ++
  "1F09 301 1F0D\n1F09 342 1F0F\n1F09 345 1F89\n1F0A 345 1F8A\n1F0B 345 1F8B\n1F0C 345 1F8C\n1F0D 345 1F8D\n" ++
  "1F0E 345 1F8E\n1F0F 345 1F8F\n1F10 300 1F12\n1F10 301 1F14\n1F11 300 1F13\n1F11 301 1F15\n1F18 300 1F1A\n" ++
  "1F18 301 1F1C\n1F19 300 1F1B\n1F19 301 1F1D\n1F20 300 1F22\n1F20 301 1F24\n1F20 342 1F26\n1F20 345 1F90\n" ++
  "1F21 300 1F23\n1F21 301 1F25\n1F21 342 1F27\n1F21 345 1F91\n1F22 345 1F92\n1F23 345 1F93\n1F24 345 1F94\n" ++
  "1F25 345 1F95\n1F26 345 1F96\n1F27 345 1F97\n1F28 300 1F2A\n1F28 301 1F2C\n1F28 342 1F2E\n1F28 345 1F98\n" ++
  "1F29 300 1F2B\n1F29 301 1F2D\n1F29 342 1F2F\n1F29 345 1F99\n1F2A 345 1F9A\n1F2B 345 1F9B\n1F2C 345 1F9C\n" ++
  "1F2D 345 1F9D\n1F2E 345 1F9E\n1F2F 345 1F9F\n1F30 300 1F32\n1F30 301 1F34\n1F30 342 1F36\n1F31 300 1F33\n" ++
  "1F31 301 1F35\n1F31 342 1F37\n1F38 300 1F3A\n1F38 301 1F3C\n1F38 342 1F3E\n1F39 300 1F3B\n1F39 301 1F3D\n" ++
  "1F39 342 1F3F\n1F40 300 1F42\n1F40 301 1F44\n1F41 300 1F43\n1F41 301 1F45\n1F48 300 1F4A\n1F48 301 1F4C\n" ++
  "1F49 300 1F4B\n1F49 301 1F4D\n1F50 300 1F52\n1F50 301 1F54\n1F50 342 1F56\n1F51 300 1F53\n1F51 301 1F55\n" ++
  "1F51 342 1F57\n1F59 300 1F5B\n1F59 301 1F5D\n1F59 342 1F5F\n1F60 300 1F62\n1F60 301 1F64\n1F60 342 1F66\n" ++
  "1F60 345 1FA0\n1F61 300 1F63\n1F61 301 1F65\n1F61 342 1F67\n1F61 345 1FA1\n1F62 345 1FA2\n1F63 345 1FA3\n" ++
  "1F64 345 1FA4\n1F65 345 1FA5\n1F66 345 1FA6\n1F67 345 1FA7\n1F68 300 1F6A\n1F68 301 1F6C\n1F68 342 1F6E\n" ++
  "1F68 345 1FA8\n1F69 300 1F6B\n1F69 301 1F6D\n1F69 342 1F6F\n1F69 345 1FA9\n1F6A 345 1FAA\n1F6B 345 1FAB\n" ++
  "1F6C 345 1FAC\n1F6D 345 1FAD\n1F6E 345 1FAE\n1F6F 345 1FAF\n1F70 345 1FB2\n1F74 345 1FC2\n1F7C 345 1FF2\n" ++
  "1FB6 345 1FB7\n1FBF 300 1FCD\n1FBF 301 1FCE\n1FBF 342 1FCF\n1FC6 345 1FC7\n1FF6 345 1FF7\n1FFE 300 1FDD\n" ++
  "1FFE 301 1FDE\n1FFE 342 1FDF\n2190 338 219A\n2192 338 219B\n2194 338 21AE\n21D0 338 21CD\n21D2 338 21CF\n" ++
  "21D4 338 21CE\n2203 338 2204\n2208 338 2209\n220B 338 220C\n2223 338 2224\n2225 338 2226\n223C 338 2241\n" ++
  "2243 338 2244\n2245 338 2247\n2248 338 2249\n224D 338 226D\n2261 338 2262\n2264 338 2270\n2265 338 2271\n" ++
  "2272 338 2274\n2273 338 2275\n2276 338 2278\n2277 338 2279\n227A 338 2280\n227B 338 2281\n227C 338 22E0\n" ++
  "227D 338 22E1\n2282 338 2284\n2283 338 2285\n2286 338 2288\n2287 338 2289\n2291 338 22E2\n2292 338 22E3\n" ++
  "22A2 338 22AC\n22A8 338 22AD\n22A9 338 22AE\n22AB 338 22AF\n22B2 338 22EA\n22B3 338 22EB\n22B4 338 22EC\n" ++
  "22B5 338 22ED\n3046 3099 3094\n304B 3099 304C\n304D 3099 304E\n304F 3099 3050\n3051 3099 3052\n" ++
  "3053 3099 3054\n3055 3099 3056\n3057 3099 3058\n3059 3099 305A\n305B 3099 305C\n305D 3099 305E\n" ++
  "305F 3099 3060\n3061 3099 3062\n3064 3099 3065\n3066 3099 3067\n3068 3099 3069\n306F 3099 3070\n" ++
  "306F 309A 3071\n3072 3099 3073\n3072 309A 3074\n3075 3099 3076\n3075 309A 3077\n3078 3099 3079\n" ++
  "3078 309A 307A\n307B 3099 307C\n307B 309A 307D\n309D 3099 309E\n30A6 3099 30F4\n30AB 3099 30AC\n" ++
  "30AD 3099 30AE\n30AF 3099 30B0\n30B1 3099 30B2\n30B3 3099 30B4\n30B5 3099 30B6\n30B7 3099 30B8\n" ++
  "30B9 3099 30BA\n30BB 3099 30BC\n30BD 3099 30BE\n30BF 3099 30C0\n30C1 3099 30C2\n30C4 3099 30C5\n" ++
  "30C6 3099 30C7\n30C8 3099 30C9\n30CF 3099 30D0\n30CF 309A 30D1\n30D2 3099 30D3\n30D2 309A 30D4\n" ++
  "30D5 3099 30D6\n30D5 309A 30D7\n30D8 3099 30D9\n30D8 309A 30DA\n30DB 3099 30DC\n30DB 309A 30DD\n" ++
  "30EF 3099 30F7\n30F0 3099 30F8\n30F1 3099 30F9\n30F2 3099 30FA\n30FD 3099 30FE\n11099 110BA 1109A\n" ++
  "1109B 110BA 1109C\n110A5 110BA 110AB\n11131 11127 1112E\n11132 11127 1112F\n11347 1133E 1134B\n" ++
  "11347 11357 1134C\n114B9 114B0 114BC\n114B9 114BA 114BB\n114B9 114BD 114BE\n115B8 115AF 115BA\n" ++
  "115B9 115AF 115BB\n11935 11930 11938"

end Text

end ByteAsm
