/-!
# Data of nameprep

The tables of the nameprep profile of stringprep, which prepares internationalized domain names,
each a text of rows in hexadecimal, one row a line, its fields parted by spaces. They follow
version 3.2 of the Unicode standard, save that lower case is that of version 14.0.
-/

namespace ByteAsm

namespace Nameprep

/-- The code points that are mapped to nothing. -/
def mappedToNothing : List Nat :=
  [0xAD, 0x34F, 0x1806, 0x180B, 0x180C, 0x180D, 0x200B, 0x200C, 0x200D, 0x2060, 0xFE00, 0xFE01, 0xFE02, 0xFE03, 0xFE04, 0xFE05, 0xFE06, 0xFE07, 0xFE08, 0xFE09, 0xFE0A, 0xFE0B, 0xFE0C, 0xFE0D, 0xFE0E, 0xFE0F, 0xFEFF]

/-- The case folding of nameprep: a code point, then the code points it is mapped to. -/
def foldingRows : String :=
  "41 61\n42 62\n43 63\n44 64\n45 65\n46 66\n47 67\n48 68\n49 69\n4A 6A\n4B 6B\n4C 6C\n4D 6D\n4E 6E\n" ++
  "4F 6F\n50 70\n51 71\n52 72\n53 73\n54 74\n55 75\n56 76\n57 77\n58 78\n59 79\n5A 7A\nB5 3BC\nC0 E0\n" ++
  "C1 E1\nC2 E2\nC3 E3\nC4 E4\nC5 E5\nC6 E6\nC7 E7\nC8 E8\nC9 E9\nCA EA\nCB EB\nCC EC\nCD ED\nCE EE\n" ++
  "CF EF\nD0 F0\nD1 F1\nD2 F2\nD3 F3\nD4 F4\nD5 F5\nD6 F6\nD8 F8\nD9 F9\nDA FA\nDB FB\nDC FC\nDD FD\n" ++
  "DE FE\nDF 73 73\n100 101\n102 103\n104 105\n106 107\n108 109\n10A 10B\n10C 10D\n10E 10F\n110 111\n" ++
  "112 113\n114 115\n116 117\n118 119\n11A 11B\n11C 11D\n11E 11F\n120 121\n122 123\n124 125\n126 127\n" ++
  "128 129\n12A 12B\n12C 12D\n12E 12F\n130 69 307\n132 133\n134 135\n136 137\n139 13A\n13B 13C\n" ++
  "13D 13E\n13F 140\n141 142\n143 144\n145 146\n147 148\n149 2BC 6E\n14A 14B\n14C 14D\n14E 14F\n" ++
  "150 151\n152 153\n154 155\n156 157\n158 159\n15A 15B\n15C 15D\n15E 15F\n160 161\n162 163\n164 165\n" ++
  "166 167\n168 169\n16A 16B\n16C 16D\n16E 16F\n170 171\n172 173\n174 175\n176 177\n178 FF\n179 17A\n" ++
  "17B 17C\n17D 17E\n17F 73\n181 253\n182 183\n184 185\n186 254\n187 188\n189 256\n18A 257\n18B 18C\n" ++
  "18E 1DD\n18F 259\n190 25B\n191 192\n193 260\n194 263\n196 269\n197 268\n198 199\n19C 26F\n19D 272\n" ++
  "19F 275\n1A0 1A1\n1A2 1A3\n1A4 1A5\n1A6 280\n1A7 1A8\n1A9 283\n1AC 1AD\n1AE 288\n1AF 1B0\n1B1 28A\n" ++
  "1B2 28B\n1B3 1B4\n1B5 1B6\n1B7 292\n1B8 1B9\n1BC 1BD\n1C4 1C6\n1C5 1C6\n1C7 1C9\n1C8 1C9\n1CA 1CC\n" ++
  "1CB 1CC\n1CD 1CE\n1CF 1D0\n1D1 1D2\n1D3 1D4\n1D5 1D6\n1D7 1D8\n1D9 1DA\n1DB 1DC\n1DE 1DF\n1E0 1E1\n" ++
  "1E2 1E3\n1E4 1E5\n1E6 1E7\n1E8 1E9\n1EA 1EB\n1EC 1ED\n1EE 1EF\n1F0 6A 30C\n1F1 1F3\n1F2 1F3\n" ++
  "1F4 1F5\n1F6 195\n1F7 1BF\n1F8 1F9\n1FA 1FB\n1FC 1FD\n1FE 1FF\n200 201\n202 203\n204 205\n206 207\n" ++
  "208 209\n20A 20B\n20C 20D\n20E 20F\n210 211\n212 213\n214 215\n216 217\n218 219\n21A 21B\n21C 21D\n" ++
  "21E 21F\n220 19E\n222 223\n224 225\n226 227\n228 229\n22A 22B\n22C 22D\n22E 22F\n230 231\n232 233\n" ++
  "23A 2C65\n23B 23C\n23D 19A\n23E 2C66\n241 242\n243 180\n244 289\n245 28C\n246 247\n248 249\n24A 24B\n" ++
  "24C 24D\n24E 24F\n345 3B9\n370 371\n372 373\n376 377\n37A 20 3B9\n37F 3F3\n386 3AC\n388 3AD\n" ++
  "389 3AE\n38A 3AF\n38C 3CC\n38E 3CD\n38F 3CE\n390 3B9 308 301\n391 3B1\n392 3B2\n393 3B3\n394 3B4\n" ++
  "395 3B5\n396 3B6\n397 3B7\n398 3B8\n399 3B9\n39A 3BA\n39B 3BB\n39C 3BC\n39D 3BD\n39E 3BE\n39F 3BF\n" ++
  "3A0 3C0\n3A1 3C1\n3A3 3C3\n3A4 3C4\n3A5 3C5\n3A6 3C6\n3A7 3C7\n3A8 3C8\n3A9 3C9\n3AA 3CA\n3AB 3CB\n" ++
  "3B0 3C5 308 301\n3C2 3C3\n3CF 3D7\n3D0 3B2\n3D1 3B8\n3D2 3C5\n3D3 3CD\n3D4 3CB\n3D5 3C6\n3D6 3C0\n" ++
  "3D8 3D9\n3DA 3DB\n3DC 3DD\n3DE 3DF\n3E0 3E1\n3E2 3E3\n3E4 3E5\n3E6 3E7\n3E8 3E9\n3EA 3EB\n3EC 3ED\n" ++
  "3EE 3EF\n3F0 3BA\n3F1 3C1\n3F2 3C3\n3F4 3B8\n3F5 3B5\n3F7 3F8\n3F9 3C3\n3FA 3FB\n3FD 37B\n3FE 37C\n" ++
  "3FF 37D\n400 450\n401 451\n402 452\n403 453\n404 454\n405 455\n406 456\n407 457\n408 458\n409 459\n" ++
  "40A 45A\n40B 45B\n40C 45C\n40D 45D\n40E 45E\n40F 45F\n410 430\n411 431\n412 432\n413 433\n414 434\n" ++
  "415 435\n416 436\n417 437\n418 438\n419 439\n41A 43A\n41B 43B\n41C 43C\n41D 43D\n41E 43E\n41F 43F\n" ++
  "420 440\n421 441\n422 442\n423 443\n424 444\n425 445\n426 446\n427 447\n428 448\n429 449\n42A 44A\n" ++
  "42B 44B\n42C 44C\n42D 44D\n42E 44E\n42F 44F\n460 461\n462 463\n464 465\n466 467\n468 469\n46A 46B\n" ++
  "46C 46D\n46E 46F\n470 471\n472 473\n474 475\n476 477\n478 479\n47A 47B\n47C 47D\n47E 47F\n480 481\n" ++
  "48A 48B\n48C 48D\n48E 48F\n490 491\n492 493\n494 495\n496 497\n498 499\n49A 49B\n49C 49D\n49E 49F\n" ++
  "4A0 4A1\n4A2 4A3\n4A4 4A5\n4A6 4A7\n4A8 4A9\n4AA 4AB\n4AC 4AD\n4AE 4AF\n4B0 4B1\n4B2 4B3\n4B4 4B5\n" ++
  "4B6 4B7\n4B8 4B9\n4BA 4BB\n4BC 4BD\n4BE 4BF\n4C0 4CF\n4C1 4C2\n4C3 4C4\n4C5 4C6\n4C7 4C8\n4C9 4CA\n" ++
  "4CB 4CC\n4CD 4CE\n4D0 4D1\n4D2 4D3\n4D4 4D5\n4D6 4D7\n4D8 4D9\n4DA 4DB\n4DC 4DD\n4DE 4DF\n4E0 4E1\n" ++
  "4E2 4E3\n4E4 4E5\n4E6 4E7\n4E8 4E9\n4EA 4EB\n4EC 4ED\n4EE 4EF\n4F0 4F1\n4F2 4F3\n4F4 4F5\n4F6 4F7\n" ++
  "4F8 4F9\n4FA 4FB\n4FC 4FD\n4FE 4FF\n500 501\n502 503\n504 505\n506 507\n508 509\n50A 50B\n50C 50D\n" ++
  "50E 50F\n510 511\n512 513\n514 515\n516 517\n518 519\n51A 51B\n51C 51D\n51E 51F\n520 521\n522 523\n" ++
  "524 525\n526 527\n528 529\n52A 52B\n52C 52D\n52E 52F\n531 561\n532 562\n533 563\n534 564\n535 565\n" ++
  "536 566\n537 567\n538 568\n539 569\n53A 56A\n53B 56B\n53C 56C\n53D 56D\n53E 56E\n53F 56F\n540 570\n" ++
  "541 571\n542 572\n543 573\n544 574\n545 575\n546 576\n547 577\n548 578\n549 579\n54A 57A\n54B 57B\n" ++
  "54C 57C\n54D 57D\n54E 57E\n54F 57F\n550 580\n551 581\n552 582\n553 583\n554 584\n555 585\n556 586\n" ++
  "587 565 582\n10A0 2D00\n10A1 2D01\n10A2 2D02\n10A3 2D03\n10A4 2D04\n10A5 2D05\n10A6 2D06\n10A7 2D07\n" ++
  "10A8 2D08\n10A9 2D09\n10AA 2D0A\n10AB 2D0B\n10AC 2D0C\n10AD 2D0D\n10AE 2D0E\n10AF 2D0F\n10B0 2D10\n" ++
  "10B1 2D11\n10B2 2D12\n10B3 2D13\n10B4 2D14\n10B5 2D15\n10B6 2D16\n10B7 2D17\n10B8 2D18\n10B9 2D19\n" ++
  "10BA 2D1A\n10BB 2D1B\n10BC 2D1C\n10BD 2D1D\n10BE 2D1E\n10BF 2D1F\n10C0 2D20\n10C1 2D21\n10C2 2D22\n" ++
  "10C3 2D23\n10C4 2D24\n10C5 2D25\n10C7 2D27\n10CD 2D2D\n13A0 AB70\n13A1 AB71\n13A2 AB72\n13A3 AB73\n" ++
  "13A4 AB74\n13A5 AB75\n13A6 AB76\n13A7 AB77\n13A8 AB78\n13A9 AB79\n13AA AB7A\n13AB AB7B\n13AC AB7C\n" ++
  "13AD AB7D\n13AE AB7E\n13AF AB7F\n13B0 AB80\n13B1 AB81\n13B2 AB82\n13B3 AB83\n13B4 AB84\n13B5 AB85\n" ++
  "13B6 AB86\n13B7 AB87\n13B8 AB88\n13B9 AB89\n13BA AB8A\n13BB AB8B\n13BC AB8C\n13BD AB8D\n13BE AB8E\n" ++
  "13BF AB8F\n13C0 AB90\n13C1 AB91\n13C2 AB92\n13C3 AB93\n13C4 AB94\n13C5 AB95\n13C6 AB96\n13C7 AB97\n" ++
  "13C8 AB98\n13C9 AB99\n13CA AB9A\n13CB AB9B\n13CC AB9C\n13CD AB9D\n13CE AB9E\n13CF AB9F\n13D0 ABA0\n" ++
  "13D1 ABA1\n13D2 ABA2\n13D3 ABA3\n13D4 ABA4\n13D5 ABA5\n13D6 ABA6\n13D7 ABA7\n13D8 ABA8\n13D9 ABA9\n" ++
  "13DA ABAA\n13DB ABAB\n13DC ABAC\n13DD ABAD\n13DE ABAE\n13DF ABAF\n13E0 ABB0\n13E1 ABB1\n13E2 ABB2\n" ++
  "13E3 ABB3\n13E4 ABB4\n13E5 ABB5\n13E6 ABB6\n13E7 ABB7\n13E8 ABB8\n13E9 ABB9\n13EA ABBA\n13EB ABBB\n" ++
  "13EC ABBC\n13ED ABBD\n13EE ABBE\n13EF ABBF\n13F0 13F8\n13F1 13F9\n13F2 13FA\n13F3 13FB\n13F4 13FC\n" ++
  "13F5 13FD\n1C90 10D0\n1C91 10D1\n1C92 10D2\n1C93 10D3\n1C94 10D4\n1C95 10D5\n1C96 10D6\n1C97 10D7\n" ++
  "1C98 10D8\n1C99 10D9\n1C9A 10DA\n1C9B 10DB\n1C9C 10DC\n1C9D 10DD\n1C9E 10DE\n1C9F 10DF\n1CA0 10E0\n" ++
  "1CA1 10E1\n1CA2 10E2\n1CA3 10E3\n1CA4 10E4\n1CA5 10E5\n1CA6 10E6\n1CA7 10E7\n1CA8 10E8\n1CA9 10E9\n" ++
  "1CAA 10EA\n1CAB 10EB\n1CAC 10EC\n1CAD 10ED\n1CAE 10EE\n1CAF 10EF\n1CB0 10F0\n1CB1 10F1\n1CB2 10F2\n" ++
  "1CB3 10F3\n1CB4 10F4\n1CB5 10F5\n1CB6 10F6\n1CB7 10F7\n1CB8 10F8\n1CB9 10F9\n1CBA 10FA\n1CBD 10FD\n" ++
  "1CBE 10FE\n1CBF 10FF\n1E00 1E01\n1E02 1E03\n1E04 1E05\n1E06 1E07\n1E08 1E09\n1E0A 1E0B\n1E0C 1E0D\n" ++
  "1E0E 1E0F\n1E10 1E11\n1E12 1E13\n1E14 1E15\n1E16 1E17\n1E18 1E19\n1E1A 1E1B\n1E1C 1E1D\n1E1E 1E1F\n" ++
  "1E20 1E21\n1E22 1E23\n1E24 1E25\n1E26 1E27\n1E28 1E29\n1E2A 1E2B\n1E2C 1E2D\n1E2E 1E2F\n1E30 1E31\n" ++
  "1E32 1E33\n1E34 1E35\n1E36 1E37\n1E38 1E39\n1E3A 1E3B\n1E3C 1E3D\n1E3E 1E3F\n1E40 1E41\n1E42 1E43\n" ++
  "1E44 1E45\n1E46 1E47\n1E48 1E49\n1E4A 1E4B\n1E4C 1E4D\n1E4E 1E4F\n1E50 1E51\n1E52 1E53\n1E54 1E55\n" ++
  "1E56 1E57\n1E58 1E59\n1E5A 1E5B\n1E5C 1E5D\n1E5E 1E5F\n1E60 1E61\n1E62 1E63\n1E64 1E65\n1E66 1E67\n" ++
  "1E68 1E69\n1E6A 1E6B\n1E6C 1E6D\n1E6E 1E6F\n1E70 1E71\n1E72 1E73\n1E74 1E75\n1E76 1E77\n1E78 1E79\n" ++
  "1E7A 1E7B\n1E7C 1E7D\n1E7E 1E7F\n1E80 1E81\n1E82 1E83\n1E84 1E85\n1E86 1E87\n1E88 1E89\n1E8A 1E8B\n" ++
  "1E8C 1E8D\n1E8E 1E8F\n1E90 1E91\n1E92 1E93\n1E94 1E95\n1E96 68 331\n1E97 74 308\n1E98 77 30A\n" ++
  "1E99 79 30A\n1E9A 61 2BE\n1E9B 1E61\n1E9E 73 73\n1EA0 1EA1\n1EA2 1EA3\n1EA4 1EA5\n1EA6 1EA7\n" ++
  "1EA8 1EA9\n1EAA 1EAB\n1EAC 1EAD\n1EAE 1EAF\n1EB0 1EB1\n1EB2 1EB3\n1EB4 1EB5\n1EB6 1EB7\n1EB8 1EB9\n" ++
  "1EBA 1EBB\n1EBC 1EBD\n1EBE 1EBF\n1EC0 1EC1\n1EC2 1EC3\n1EC4 1EC5\n1EC6 1EC7\n1EC8 1EC9\n1ECA 1ECB\n" ++
  "1ECC 1ECD\n1ECE 1ECF\n1ED0 1ED1\n1ED2 1ED3\n1ED4 1ED5\n1ED6 1ED7\n1ED8 1ED9\n1EDA 1EDB\n1EDC 1EDD\n" ++
  "1EDE 1EDF\n1EE0 1EE1\n1EE2 1EE3\n1EE4 1EE5\n1EE6 1EE7\n1EE8 1EE9\n1EEA 1EEB\n1EEC 1EED\n1EEE 1EEF\n" ++
  "1EF0 1EF1\n1EF2 1EF3\n1EF4 1EF5\n1EF6 1EF7\n1EF8 1EF9\n1EFA 1EFB\n1EFC 1EFD\n1EFE 1EFF\n1F08 1F00\n" ++
  "1F09 1F01\n1F0A 1F02\n1F0B 1F03\n1F0C 1F04\n1F0D 1F05\n1F0E 1F06\n1F0F 1F07\n1F18 1F10\n1F19 1F11\n" ++
  "1F1A 1F12\n1F1B 1F13\n1F1C 1F14\n1F1D 1F15\n1F28 1F20\n1F29 1F21\n1F2A 1F22\n1F2B 1F23\n1F2C 1F24\n" ++
  "1F2D 1F25\n1F2E 1F26\n1F2F 1F27\n1F38 1F30\n1F39 1F31\n1F3A 1F32\n1F3B 1F33\n1F3C 1F34\n1F3D 1F35\n" ++
  "1F3E 1F36\n1F3F 1F37\n1F48 1F40\n1F49 1F41\n1F4A 1F42\n1F4B 1F43\n1F4C 1F44\n1F4D 1F45\n1F50 3C5 313\n" ++
  "1F52 3C5 313 300\n1F54 3C5 313 301\n1F56 3C5 313 342\n1F59 1F51\n1F5B 1F53\n1F5D 1F55\n1F5F 1F57\n" ++
  "1F68 1F60\n1F69 1F61\n1F6A 1F62\n1F6B 1F63\n1F6C 1F64\n1F6D 1F65\n1F6E 1F66\n1F6F 1F67\n1F80 1F00 3B9\n" ++
  "1F81 1F01 3B9\n1F82 1F02 3B9\n1F83 1F03 3B9\n1F84 1F04 3B9\n1F85 1F05 3B9\n1F86 1F06 3B9\n1F87 1F07 3B9\n" ++
  "1F88 1F00 3B9\n1F89 1F01 3B9\n1F8A 1F02 3B9\n1F8B 1F03 3B9\n1F8C 1F04 3B9\n1F8D 1F05 3B9\n1F8E 1F06 3B9\n" ++
  "1F8F 1F07 3B9\n1F90 1F20 3B9\n1F91 1F21 3B9\n1F92 1F22 3B9\n1F93 1F23 3B9\n1F94 1F24 3B9\n1F95 1F25 3B9\n" ++
  "1F96 1F26 3B9\n1F97 1F27 3B9\n1F98 1F20 3B9\n1F99 1F21 3B9\n1F9A 1F22 3B9\n1F9B 1F23 3B9\n1F9C 1F24 3B9\n" ++
  "1F9D 1F25 3B9\n1F9E 1F26 3B9\n1F9F 1F27 3B9\n1FA0 1F60 3B9\n1FA1 1F61 3B9\n1FA2 1F62 3B9\n1FA3 1F63 3B9\n" ++
  "1FA4 1F64 3B9\n1FA5 1F65 3B9\n1FA6 1F66 3B9\n1FA7 1F67 3B9\n1FA8 1F60 3B9\n1FA9 1F61 3B9\n1FAA 1F62 3B9\n" ++
  "1FAB 1F63 3B9\n1FAC 1F64 3B9\n1FAD 1F65 3B9\n1FAE 1F66 3B9\n1FAF 1F67 3B9\n1FB2 1F70 3B9\n1FB3 3B1 3B9\n" ++
  "1FB4 3AC 3B9\n1FB6 3B1 342\n1FB7 3B1 342 3B9\n1FB8 1FB0\n1FB9 1FB1\n1FBA 1F70\n1FBB 1F71\n1FBC 3B1 3B9\n" ++
  "1FBE 3B9\n1FC2 1F74 3B9\n1FC3 3B7 3B9\n1FC4 3AE 3B9\n1FC6 3B7 342\n1FC7 3B7 342 3B9\n1FC8 1F72\n" ++
  "1FC9 1F73\n1FCA 1F74\n1FCB 1F75\n1FCC 3B7 3B9\n1FD2 3B9 308 300\n1FD3 3B9 308 301\n1FD6 3B9 342\n" ++
  "1FD7 3B9 308 342\n1FD8 1FD0\n1FD9 1FD1\n1FDA 1F76\n1FDB 1F77\n1FE2 3C5 308 300\n1FE3 3C5 308 301\n" ++
  "1FE4 3C1 313\n1FE6 3C5 342\n1FE7 3C5 308 342\n1FE8 1FE0\n1FE9 1FE1\n1FEA 1F7A\n1FEB 1F7B\n1FEC 1FE5\n" ++
  "1FF2 1F7C 3B9\n1FF3 3C9 3B9\n1FF4 3CE 3B9\n1FF6 3C9 342\n1FF7 3C9 342 3B9\n1FF8 1F78\n1FF9 1F79\n" ++
  "1FFA 1F7C\n1FFB 1F7D\n1FFC 3C9 3B9\n20A8 72 73\n2102 63\n2103 B0 63\n2107 25B\n2109 B0 66\n210B 68\n" ++
  "210C 68\n210D 68\n2110 69\n2111 69\n2112 6C\n2115 6E\n2116 6E 6F\n2119 70\n211A 71\n211B 72\n" ++
  "211C 72\n211D 72\n2120 73 6D\n2121 74 65 6C\n2122 74 6D\n2124 7A\n2126 3C9\n2128 7A\n212A 6B\n" ++
  "212B E5\n212C 62\n212D 63\n2130 65\n2131 66\n2132 214E\n2133 6D\n213E 3B3\n213F 3C0\n2145 64\n" ++
  "2160 2170\n2161 2171\n2162 2172\n2163 2173\n2164 2174\n2165 2175\n2166 2176\n2167 2177\n2168 2178\n" ++
  "2169 2179\n216A 217A\n216B 217B\n216C 217C\n216D 217D\n216E 217E\n216F 217F\n2183 2184\n24B6 24D0\n" ++
  "24B7 24D1\n24B8 24D2\n24B9 24D3\n24BA 24D4\n24BB 24D5\n24BC 24D6\n24BD 24D7\n24BE 24D8\n24BF 24D9\n" ++
  "24C0 24DA\n24C1 24DB\n24C2 24DC\n24C3 24DD\n24C4 24DE\n24C5 24DF\n24C6 24E0\n24C7 24E1\n24C8 24E2\n" ++
  "24C9 24E3\n24CA 24E4\n24CB 24E5\n24CC 24E6\n24CD 24E7\n24CE 24E8\n24CF 24E9\n2C00 2C30\n2C01 2C31\n" ++
  "2C02 2C32\n2C03 2C33\n2C04 2C34\n2C05 2C35\n2C06 2C36\n2C07 2C37\n2C08 2C38\n2C09 2C39\n2C0A 2C3A\n" ++
  "2C0B 2C3B\n2C0C 2C3C\n2C0D 2C3D\n2C0E 2C3E\n2C0F 2C3F\n2C10 2C40\n2C11 2C41\n2C12 2C42\n2C13 2C43\n" ++
  "2C14 2C44\n2C15 2C45\n2C16 2C46\n2C17 2C47\n2C18 2C48\n2C19 2C49\n2C1A 2C4A\n2C1B 2C4B\n2C1C 2C4C\n" ++
  "2C1D 2C4D\n2C1E 2C4E\n2C1F 2C4F\n2C20 2C50\n2C21 2C51\n2C22 2C52\n2C23 2C53\n2C24 2C54\n2C25 2C55\n" ++
  "2C26 2C56\n2C27 2C57\n2C28 2C58\n2C29 2C59\n2C2A 2C5A\n2C2B 2C5B\n2C2C 2C5C\n2C2D 2C5D\n2C2E 2C5E\n" ++
  "2C2F 2C5F\n2C60 2C61\n2C62 26B\n2C63 1D7D\n2C64 27D\n2C67 2C68\n2C69 2C6A\n2C6B 2C6C\n2C6D 251\n" ++
  "2C6E 271\n2C6F 250\n2C70 252\n2C72 2C73\n2C75 2C76\n2C7E 23F\n2C7F 240\n2C80 2C81\n2C82 2C83\n" ++
  "2C84 2C85\n2C86 2C87\n2C88 2C89\n2C8A 2C8B\n2C8C 2C8D\n2C8E 2C8F\n2C90 2C91\n2C92 2C93\n2C94 2C95\n" ++
  "2C96 2C97\n2C98 2C99\n2C9A 2C9B\n2C9C 2C9D\n2C9E 2C9F\n2CA0 2CA1\n2CA2 2CA3\n2CA4 2CA5\n2CA6 2CA7\n" ++
  "2CA8 2CA9\n2CAA 2CAB\n2CAC 2CAD\n2CAE 2CAF\n2CB0 2CB1\n2CB2 2CB3\n2CB4 2CB5\n2CB6 2CB7\n2CB8 2CB9\n" ++
  "2CBA 2CBB\n2CBC 2CBD\n2CBE 2CBF\n2CC0 2CC1\n2CC2 2CC3\n2CC4 2CC5\n2CC6 2CC7\n2CC8 2CC9\n2CCA 2CCB\n" ++
  "2CCC 2CCD\n2CCE 2CCF\n2CD0 2CD1\n2CD2 2CD3\n2CD4 2CD5\n2CD6 2CD7\n2CD8 2CD9\n2CDA 2CDB\n2CDC 2CDD\n" ++
  "2CDE 2CDF\n2CE0 2CE1\n2CE2 2CE3\n2CEB 2CEC\n2CED 2CEE\n2CF2 2CF3\n3371 68 70 61\n3373 61 75\n" ++
  "3375 6F 76\n3380 70 61\n3381 6E 61\n3382 3BC 61\n3383 6D 61\n3384 6B 61\n3385 6B 62\n3386 6D 62\n" ++
  "3387 67 62\n338A 70 66\n338B 6E 66\n338C 3BC 66\n3390 68 7A\n3391 6B 68 7A\n3392 6D 68 7A\n3393 67 68 7A\n" ++
  "3394 74 68 7A\n33A9 70 61\n33AA 6B 70 61\n33AB 6D 70 61\n33AC 67 70 61\n33B4 70 76\n33B5 6E 76\n" ++
  "33B6 3BC 76\n33B7 6D 76\n33B8 6B 76\n33B9 6D 76\n33BA 70 77\n33BB 6E 77\n33BC 3BC 77\n33BD 6D 77\n" ++
  "33BE 6B 77\n33BF 6D 77\n33C0 6B 3C9\n33C1 6D 3C9\n33C3 62 71\n33C6 63 2215 6B 67\n33C7 63 6F 2E\n" ++
  "33C8 64 62\n33C9 67 79\n33CB 68 70\n33CD 6B 6B\n33CE 6B 6D\n33D7 70 68\n33D9 70 70 6D\n33DA 70 72\n" ++
  "33DC 73 76\n33DD 77 62\nA640 A641\nA642 A643\nA644 A645\nA646 A647\nA648 A649\nA64A A64B\nA64C A64D\n" ++
  "A64E A64F\nA650 A651\nA652 A653\nA654 A655\nA656 A657\nA658 A659\nA65A A65B\nA65C A65D\nA65E A65F\n" ++
  "A660 A661\nA662 A663\nA664 A665\nA666 A667\nA668 A669\nA66A A66B\nA66C A66D\nA680 A681\nA682 A683\n" ++
  "A684 A685\nA686 A687\nA688 A689\nA68A A68B\nA68C A68D\nA68E A68F\nA690 A691\nA692 A693\nA694 A695\n" ++
  "A696 A697\nA698 A699\nA69A A69B\nA722 A723\nA724 A725\nA726 A727\nA728 A729\nA72A A72B\nA72C A72D\n" ++
  "A72E A72F\nA732 A733\nA734 A735\nA736 A737\nA738 A739\nA73A A73B\nA73C A73D\nA73E A73F\nA740 A741\n" ++
  "A742 A743\nA744 A745\nA746 A747\nA748 A749\nA74A A74B\nA74C A74D\nA74E A74F\nA750 A751\nA752 A753\n" ++
  "A754 A755\nA756 A757\nA758 A759\nA75A A75B\nA75C A75D\nA75E A75F\nA760 A761\nA762 A763\nA764 A765\n" ++
  "A766 A767\nA768 A769\nA76A A76B\nA76C A76D\nA76E A76F\nA779 A77A\nA77B A77C\nA77D 1D79\nA77E A77F\n" ++
  "A780 A781\nA782 A783\nA784 A785\nA786 A787\nA78B A78C\nA78D 265\nA790 A791\nA792 A793\nA796 A797\n" ++
  "A798 A799\nA79A A79B\nA79C A79D\nA79E A79F\nA7A0 A7A1\nA7A2 A7A3\nA7A4 A7A5\nA7A6 A7A7\nA7A8 A7A9\n" ++
  "A7AA 266\nA7AB 25C\nA7AC 261\nA7AD 26C\nA7AE 26A\nA7B0 29E\nA7B1 287\nA7B2 29D\nA7B3 AB53\nA7B4 A7B5\n" ++
  "A7B6 A7B7\nA7B8 A7B9\nA7BA A7BB\nA7BC A7BD\nA7BE A7BF\nA7C0 A7C1\nA7C2 A7C3\nA7C4 A794\nA7C5 282\n" ++
  "A7C6 1D8E\nA7C7 A7C8\nA7C9 A7CA\nA7D0 A7D1\nA7D6 A7D7\nA7D8 A7D9\nA7F5 A7F6\nFB00 66 66\nFB01 66 69\n" ++
  "FB02 66 6C\nFB03 66 66 69\nFB04 66 66 6C\nFB05 73 74\nFB06 73 74\nFB13 574 576\nFB14 574 565\n" ++
  "FB15 574 56B\nFB16 57E 576\nFB17 574 56D\nFF21 FF41\nFF22 FF42\nFF23 FF43\nFF24 FF44\nFF25 FF45\n" ++
  "FF26 FF46\nFF27 FF47\nFF28 FF48\nFF29 FF49\nFF2A FF4A\nFF2B FF4B\nFF2C FF4C\nFF2D FF4D\nFF2E FF4E\n" ++
  "FF2F FF4F\nFF30 FF50\nFF31 FF51\nFF32 FF52\nFF33 FF53\nFF34 FF54\nFF35 FF55\nFF36 FF56\nFF37 FF57\n" ++
  "FF38 FF58\nFF39 FF59\nFF3A FF5A\n10400 10428\n10401 10429\n10402 1042A\n10403 1042B\n10404 1042C\n" ++
  "10405 1042D\n10406 1042E\n10407 1042F\n10408 10430\n10409 10431\n1040A 10432\n1040B 10433\n1040C 10434\n" ++
  "1040D 10435\n1040E 10436\n1040F 10437\n10410 10438\n10411 10439\n10412 1043A\n10413 1043B\n10414 1043C\n" ++
  "10415 1043D\n10416 1043E\n10417 1043F\n10418 10440\n10419 10441\n1041A 10442\n1041B 10443\n1041C 10444\n" ++
  "1041D 10445\n1041E 10446\n1041F 10447\n10420 10448\n10421 10449\n10422 1044A\n10423 1044B\n10424 1044C\n" ++
  "10425 1044D\n10426 1044E\n10427 1044F\n104B0 104D8\n104B1 104D9\n104B2 104DA\n104B3 104DB\n104B4 104DC\n" ++
  "104B5 104DD\n104B6 104DE\n104B7 104DF\n104B8 104E0\n104B9 104E1\n104BA 104E2\n104BB 104E3\n104BC 104E4\n" ++
  "104BD 104E5\n104BE 104E6\n104BF 104E7\n104C0 104E8\n104C1 104E9\n104C2 104EA\n104C3 104EB\n104C4 104EC\n" ++
  "104C5 104ED\n104C6 104EE\n104C7 104EF\n104C8 104F0\n104C9 104F1\n104CA 104F2\n104CB 104F3\n104CC 104F4\n" ++
  "104CD 104F5\n104CE 104F6\n104CF 104F7\n104D0 104F8\n104D1 104F9\n104D2 104FA\n104D3 104FB\n10570 10597\n" ++
  "10571 10598\n10572 10599\n10573 1059A\n10574 1059B\n10575 1059C\n10576 1059D\n10577 1059E\n10578 1059F\n" ++
  "10579 105A0\n1057A 105A1\n1057C 105A3\n1057D 105A4\n1057E 105A5\n1057F 105A6\n10580 105A7\n10581 105A8\n" ++
  "10582 105A9\n10583 105AA\n10584 105AB\n10585 105AC\n10586 105AD\n10587 105AE\n10588 105AF\n10589 105B0\n" ++
  "1058A 105B1\n1058C 105B3\n1058D 105B4\n1058E 105B5\n1058F 105B6\n10590 105B7\n10591 105B8\n10592 105B9\n" ++
  "10594 105BB\n10595 105BC\n10C80 10CC0\n10C81 10CC1\n10C82 10CC2\n10C83 10CC3\n10C84 10CC4\n10C85 10CC5\n" ++
  "10C86 10CC6\n10C87 10CC7\n10C88 10CC8\n10C89 10CC9\n10C8A 10CCA\n10C8B 10CCB\n10C8C 10CCC\n10C8D 10CCD\n" ++
  "10C8E 10CCE\n10C8F 10CCF\n10C90 10CD0\n10C91 10CD1\n10C92 10CD2\n10C93 10CD3\n10C94 10CD4\n10C95 10CD5\n" ++
  "10C96 10CD6\n10C97 10CD7\n10C98 10CD8\n10C99 10CD9\n10C9A 10CDA\n10C9B 10CDB\n10C9C 10CDC\n10C9D 10CDD\n" ++
  "10C9E 10CDE\n10C9F 10CDF\n10CA0 10CE0\n10CA1 10CE1\n10CA2 10CE2\n10CA3 10CE3\n10CA4 10CE4\n10CA5 10CE5\n" ++
  "10CA6 10CE6\n10CA7 10CE7\n10CA8 10CE8\n10CA9 10CE9\n10CAA 10CEA\n10CAB 10CEB\n10CAC 10CEC\n10CAD 10CED\n" ++
  "10CAE 10CEE\n10CAF 10CEF\n10CB0 10CF0\n10CB1 10CF1\n10CB2 10CF2\n118A0 118C0\n118A1 118C1\n118A2 118C2\n" ++
  "118A3 118C3\n118A4 118C4\n118A5 118C5\n118A6 118C6\n118A7 118C7\n118A8 118C8\n118A9 118C9\n118AA 118CA\n" ++
  "118AB 118CB\n118AC 118CC\n118AD 118CD\n118AE 118CE\n118AF 118CF\n118B0 118D0\n118B1 118D1\n118B2 118D2\n" ++
  "118B3 118D3\n118B4 118D4\n118B5 118D5\n118B6 118D6\n118B7 118D7\n118B8 118D8\n118B9 118D9\n118BA 118DA\n" ++
  "118BB 118DB\n118BC 118DC\n118BD 118DD\n118BE 118DE\n118BF 118DF\n16E40 16E60\n16E41 16E61\n16E42 16E62\n" ++
  "16E43 16E63\n16E44 16E64\n16E45 16E65\n16E46 16E66\n16E47 16E67\n16E48 16E68\n16E49 16E69\n16E4A 16E6A\n" ++
  "16E4B 16E6B\n16E4C 16E6C\n16E4D 16E6D\n16E4E 16E6E\n16E4F 16E6F\n16E50 16E70\n16E51 16E71\n16E52 16E72\n" ++
  "16E53 16E73\n16E54 16E74\n16E55 16E75\n16E56 16E76\n16E57 16E77\n16E58 16E78\n16E59 16E79\n16E5A 16E7A\n" ++
  "16E5B 16E7B\n16E5C 16E7C\n16E5D 16E7D\n16E5E 16E7E\n16E5F 16E7F\n1D400 61\n1D401 62\n1D402 63\n" ++
  "1D403 64\n1D404 65\n1D405 66\n1D406 67\n1D407 68\n1D408 69\n1D409 6A\n1D40A 6B\n1D40B 6C\n1D40C 6D\n" ++
  "1D40D 6E\n1D40E 6F\n1D40F 70\n1D410 71\n1D411 72\n1D412 73\n1D413 74\n1D414 75\n1D415 76\n1D416 77\n" ++
  "1D417 78\n1D418 79\n1D419 7A\n1D434 61\n1D435 62\n1D436 63\n1D437 64\n1D438 65\n1D439 66\n1D43A 67\n" ++
  "1D43B 68\n1D43C 69\n1D43D 6A\n1D43E 6B\n1D43F 6C\n1D440 6D\n1D441 6E\n1D442 6F\n1D443 70\n1D444 71\n" ++
  "1D445 72\n1D446 73\n1D447 74\n1D448 75\n1D449 76\n1D44A 77\n1D44B 78\n1D44C 79\n1D44D 7A\n1D468 61\n" ++
  "1D469 62\n1D46A 63\n1D46B 64\n1D46C 65\n1D46D 66\n1D46E 67\n1D46F 68\n1D470 69\n1D471 6A\n1D472 6B\n" ++
  "1D473 6C\n1D474 6D\n1D475 6E\n1D476 6F\n1D477 70\n1D478 71\n1D479 72\n1D47A 73\n1D47B 74\n1D47C 75\n" ++
  "1D47D 76\n1D47E 77\n1D47F 78\n1D480 79\n1D481 7A\n1D49C 61\n1D49E 63\n1D49F 64\n1D4A2 67\n1D4A5 6A\n" ++
  "1D4A6 6B\n1D4A9 6E\n1D4AA 6F\n1D4AB 70\n1D4AC 71\n1D4AE 73\n1D4AF 74\n1D4B0 75\n1D4B1 76\n1D4B2 77\n" ++
  "1D4B3 78\n1D4B4 79\n1D4B5 7A\n1D4D0 61\n1D4D1 62\n1D4D2 63\n1D4D3 64\n1D4D4 65\n1D4D5 66\n1D4D6 67\n" ++
  "1D4D7 68\n1D4D8 69\n1D4D9 6A\n1D4DA 6B\n1D4DB 6C\n1D4DC 6D\n1D4DD 6E\n1D4DE 6F\n1D4DF 70\n1D4E0 71\n" ++
  "1D4E1 72\n1D4E2 73\n1D4E3 74\n1D4E4 75\n1D4E5 76\n1D4E6 77\n1D4E7 78\n1D4E8 79\n1D4E9 7A\n1D504 61\n" ++
  "1D505 62\n1D507 64\n1D508 65\n1D509 66\n1D50A 67\n1D50D 6A\n1D50E 6B\n1D50F 6C\n1D510 6D\n1D511 6E\n" ++
  "1D512 6F\n1D513 70\n1D514 71\n1D516 73\n1D517 74\n1D518 75\n1D519 76\n1D51A 77\n1D51B 78\n1D51C 79\n" ++
  "1D538 61\n1D539 62\n1D53B 64\n1D53C 65\n1D53D 66\n1D53E 67\n1D540 69\n1D541 6A\n1D542 6B\n1D543 6C\n" ++
  "1D544 6D\n1D546 6F\n1D54A 73\n1D54B 74\n1D54C 75\n1D54D 76\n1D54E 77\n1D54F 78\n1D550 79\n1D56C 61\n" ++
  "1D56D 62\n1D56E 63\n1D56F 64\n1D570 65\n1D571 66\n1D572 67\n1D573 68\n1D574 69\n1D575 6A\n1D576 6B\n" ++
  "1D577 6C\n1D578 6D\n1D579 6E\n1D57A 6F\n1D57B 70\n1D57C 71\n1D57D 72\n1D57E 73\n1D57F 74\n1D580 75\n" ++
  "1D581 76\n1D582 77\n1D583 78\n1D584 79\n1D585 7A\n1D5A0 61\n1D5A1 62\n1D5A2 63\n1D5A3 64\n1D5A4 65\n" ++
  "1D5A5 66\n1D5A6 67\n1D5A7 68\n1D5A8 69\n1D5A9 6A\n1D5AA 6B\n1D5AB 6C\n1D5AC 6D\n1D5AD 6E\n1D5AE 6F\n" ++
  "1D5AF 70\n1D5B0 71\n1D5B1 72\n1D5B2 73\n1D5B3 74\n1D5B4 75\n1D5B5 76\n1D5B6 77\n1D5B7 78\n1D5B8 79\n" ++
  "1D5B9 7A\n1D5D4 61\n1D5D5 62\n1D5D6 63\n1D5D7 64\n1D5D8 65\n1D5D9 66\n1D5DA 67\n1D5DB 68\n1D5DC 69\n" ++
  "1D5DD 6A\n1D5DE 6B\n1D5DF 6C\n1D5E0 6D\n1D5E1 6E\n1D5E2 6F\n1D5E3 70\n1D5E4 71\n1D5E5 72\n1D5E6 73\n" ++
  "1D5E7 74\n1D5E8 75\n1D5E9 76\n1D5EA 77\n1D5EB 78\n1D5EC 79\n1D5ED 7A\n1D608 61\n1D609 62\n1D60A 63\n" ++
  "1D60B 64\n1D60C 65\n1D60D 66\n1D60E 67\n1D60F 68\n1D610 69\n1D611 6A\n1D612 6B\n1D613 6C\n1D614 6D\n" ++
  "1D615 6E\n1D616 6F\n1D617 70\n1D618 71\n1D619 72\n1D61A 73\n1D61B 74\n1D61C 75\n1D61D 76\n1D61E 77\n" ++
  "1D61F 78\n1D620 79\n1D621 7A\n1D63C 61\n1D63D 62\n1D63E 63\n1D63F 64\n1D640 65\n1D641 66\n1D642 67\n" ++
  "1D643 68\n1D644 69\n1D645 6A\n1D646 6B\n1D647 6C\n1D648 6D\n1D649 6E\n1D64A 6F\n1D64B 70\n1D64C 71\n" ++
  "1D64D 72\n1D64E 73\n1D64F 74\n1D650 75\n1D651 76\n1D652 77\n1D653 78\n1D654 79\n1D655 7A\n1D670 61\n" ++
  "1D671 62\n1D672 63\n1D673 64\n1D674 65\n1D675 66\n1D676 67\n1D677 68\n1D678 69\n1D679 6A\n1D67A 6B\n" ++
  "1D67B 6C\n1D67C 6D\n1D67D 6E\n1D67E 6F\n1D67F 70\n1D680 71\n1D681 72\n1D682 73\n1D683 74\n1D684 75\n" ++
  "1D685 76\n1D686 77\n1D687 78\n1D688 79\n1D689 7A\n1D6A8 3B1\n1D6A9 3B2\n1D6AA 3B3\n1D6AB 3B4\n" ++
  "1D6AC 3B5\n1D6AD 3B6\n1D6AE 3B7\n1D6AF 3B8\n1D6B0 3B9\n1D6B1 3BA\n1D6B2 3BB\n1D6B3 3BC\n1D6B4 3BD\n" ++
  "1D6B5 3BE\n1D6B6 3BF\n1D6B7 3C0\n1D6B8 3C1\n1D6B9 3B8\n1D6BA 3C3\n1D6BB 3C4\n1D6BC 3C5\n1D6BD 3C6\n" ++
  "1D6BE 3C7\n1D6BF 3C8\n1D6C0 3C9\n1D6D3 3C3\n1D6E2 3B1\n1D6E3 3B2\n1D6E4 3B3\n1D6E5 3B4\n1D6E6 3B5\n" ++
  "1D6E7 3B6\n1D6E8 3B7\n1D6E9 3B8\n1D6EA 3B9\n1D6EB 3BA\n1D6EC 3BB\n1D6ED 3BC\n1D6EE 3BD\n1D6EF 3BE\n" ++
  "1D6F0 3BF\n1D6F1 3C0\n1D6F2 3C1\n1D6F3 3B8\n1D6F4 3C3\n1D6F5 3C4\n1D6F6 3C5\n1D6F7 3C6\n1D6F8 3C7\n" ++
  "1D6F9 3C8\n1D6FA 3C9\n1D70D 3C3\n1D71C 3B1\n1D71D 3B2\n1D71E 3B3\n1D71F 3B4\n1D720 3B5\n1D721 3B6\n" ++
  "1D722 3B7\n1D723 3B8\n1D724 3B9\n1D725 3BA\n1D726 3BB\n1D727 3BC\n1D728 3BD\n1D729 3BE\n1D72A 3BF\n" ++
  "1D72B 3C0\n1D72C 3C1\n1D72D 3B8\n1D72E 3C3\n1D72F 3C4\n1D730 3C5\n1D731 3C6\n1D732 3C7\n1D733 3C8\n" ++
  "1D734 3C9\n1D747 3C3\n1D756 3B1\n1D757 3B2\n1D758 3B3\n1D759 3B4\n1D75A 3B5\n1D75B 3B6\n1D75C 3B7\n" ++
  "1D75D 3B8\n1D75E 3B9\n1D75F 3BA\n1D760 3BB\n1D761 3BC\n1D762 3BD\n1D763 3BE\n1D764 3BF\n1D765 3C0\n" ++
  "1D766 3C1\n1D767 3B8\n1D768 3C3\n1D769 3C4\n1D76A 3C5\n1D76B 3C6\n1D76C 3C7\n1D76D 3C8\n1D76E 3C9\n" ++
  "1D781 3C3\n1D790 3B1\n1D791 3B2\n1D792 3B3\n1D793 3B4\n1D794 3B5\n1D795 3B6\n1D796 3B7\n1D797 3B8\n" ++
  "1D798 3B9\n1D799 3BA\n1D79A 3BB\n1D79B 3BC\n1D79C 3BD\n1D79D 3BE\n1D79E 3BF\n1D79F 3C0\n1D7A0 3C1\n" ++
  "1D7A1 3B8\n1D7A2 3C3\n1D7A3 3C4\n1D7A4 3C5\n1D7A5 3C6\n1D7A6 3C7\n1D7A7 3C8\n1D7A8 3C9\n1D7BB 3C3\n" ++
  "1E900 1E922\n1E901 1E923\n1E902 1E924\n1E903 1E925\n1E904 1E926\n1E905 1E927\n1E906 1E928\n1E907 1E929\n" ++
  "1E908 1E92A\n1E909 1E92B\n1E90A 1E92C\n1E90B 1E92D\n1E90C 1E92E\n1E90D 1E92F\n1E90E 1E930\n1E90F 1E931\n" ++
  "1E910 1E932\n1E911 1E933\n1E912 1E934\n1E913 1E935\n1E914 1E936\n1E915 1E937\n1E916 1E938\n1E917 1E939\n" ++
  "1E918 1E93A\n1E919 1E93B\n1E91A 1E93C\n1E91B 1E93D\n1E91C 1E93E\n1E91D 1E93F\n1E91E 1E940\n1E91F 1E941\n" ++
  "1E920 1E942\n1E921 1E943"

/-- The code points that a prepared name may not hold, as ranges: spaces other than the plain
one, controls, private use, noncharacters, surrogates, characters unfit for plain text or
standing for a canonical form, characters that change the display, and tags. -/
def prohibitedRows : String :=
  "80 A0\n340 341\n6DD 6DD\n70F 70F\n1680 1680\n180E 180E\n2000 200F\n2028 202F\n205F 2063\n206A 206F\n" ++
  "2FF0 2FFB\n3000 3000\nD800 F8FF\nFDD0 FDEF\nFEFF FEFF\nFFF9 FFFF\n1D173 1D17A\n1FFFE 1FFFF\n2FFFE 2FFFF\n" ++
  "3FFFE 3FFFF\n4FFFE 4FFFF\n5FFFE 5FFFF\n6FFFE 6FFFF\n7FFFE 7FFFF\n8FFFE 8FFFF\n9FFFE 9FFFF\nAFFFE AFFFF\n" ++
  "BFFFE BFFFF\nCFFFE CFFFF\nDFFFE DFFFF\nE0001 E0001\nE0020 E007F\nEFFFE 10FFFF"

/-- The characters written from right to left, as ranges. -/
def rightToLeftRows : String :=
  "5BE 5BE\n5C0 5C0\n5C3 5C3\n5D0 5EA\n5F0 5F4\n61B 61B\n61F 61F\n621 63A\n640 64A\n66D 66F\n671 6D5\n" ++
  "6DD 6DD\n6E5 6E6\n6FA 6FE\n700 70D\n710 710\n712 72C\n780 7A5\n7B1 7B1\n200F 200F\nFB1D FB1D\n" ++
  "FB1F FB28\nFB2A FB36\nFB38 FB3C\nFB3E FB3E\nFB40 FB41\nFB43 FB44\nFB46 FBB1\nFBD3 FD3D\nFD50 FD8F\n" ++
  "FD92 FDC7\nFDF0 FDFC\nFE70 FE74\nFE76 FEFC"

/-- The characters written from left to right, as ranges. -/
def leftToRightRows : String :=
  "41 5A\n61 7A\nAA AA\nB5 B5\nBA BA\nC0 D6\nD8 F6\nF8 220\n222 233\n250 2AD\n2B0 2B8\n2BB 2C1\n" ++
  "2D0 2D1\n2E0 2E4\n2EE 2EE\n37A 37A\n386 386\n388 38A\n38C 38C\n38E 3A1\n3A3 3CE\n3D0 3F5\n400 482\n" ++
  "48A 4CE\n4D0 4F5\n4F8 4F9\n500 50F\n531 556\n559 55F\n561 587\n589 589\n903 903\n905 939\n93D 940\n" ++
  "949 94C\n950 950\n958 961\n964 970\n982 983\n985 98C\n98F 990\n993 9A8\n9AA 9B0\n9B2 9B2\n9B6 9B9\n" ++
  "9BE 9C0\n9C7 9C8\n9CB 9CC\n9D7 9D7\n9DC 9DD\n9DF 9E1\n9E6 9F1\n9F4 9FA\nA05 A0A\nA0F A10\nA13 A28\n" ++
  "A2A A30\nA32 A33\nA35 A36\nA38 A39\nA3E A40\nA59 A5C\nA5E A5E\nA66 A6F\nA72 A74\nA83 A83\nA85 A8B\n" ++
  "A8D A8D\nA8F A91\nA93 AA8\nAAA AB0\nAB2 AB3\nAB5 AB9\nABD AC0\nAC9 AC9\nACB ACC\nAD0 AD0\nAE0 AE0\n" ++
  "AE6 AEF\nB02 B03\nB05 B0C\nB0F B10\nB13 B28\nB2A B30\nB32 B33\nB36 B39\nB3D B3E\nB40 B40\nB47 B48\n" ++
  "B4B B4C\nB57 B57\nB5C B5D\nB5F B61\nB66 B70\nB83 B83\nB85 B8A\nB8E B90\nB92 B95\nB99 B9A\nB9C B9C\n" ++
  "B9E B9F\nBA3 BA4\nBA8 BAA\nBAE BB5\nBB7 BB9\nBBE BBF\nBC1 BC2\nBC6 BC8\nBCA BCC\nBD7 BD7\nBE7 BF2\n" ++
  "C01 C03\nC05 C0C\nC0E C10\nC12 C28\nC2A C33\nC35 C39\nC41 C44\nC60 C61\nC66 C6F\nC82 C83\nC85 C8C\n" ++
  "C8E C90\nC92 CA8\nCAA CB3\nCB5 CB9\nCBE CBE\nCC0 CC4\nCC7 CC8\nCCA CCB\nCD5 CD6\nCDE CDE\nCE0 CE1\n" ++
  "CE6 CEF\nD02 D03\nD05 D0C\nD0E D10\nD12 D28\nD2A D39\nD3E D40\nD46 D48\nD4A D4C\nD57 D57\nD60 D61\n" ++
  "D66 D6F\nD82 D83\nD85 D96\nD9A DB1\nDB3 DBB\nDBD DBD\nDC0 DC6\nDCF DD1\nDD8 DDF\nDF2 DF4\nE01 E30\n" ++
  "E32 E33\nE40 E46\nE4F E5B\nE81 E82\nE84 E84\nE87 E88\nE8A E8A\nE8D E8D\nE94 E97\nE99 E9F\nEA1 EA3\n" ++
  "EA5 EA5\nEA7 EA7\nEAA EAB\nEAD EB0\nEB2 EB3\nEBD EBD\nEC0 EC4\nEC6 EC6\nED0 ED9\nEDC EDD\nF00 F17\n" ++
  "F1A F34\nF36 F36\nF38 F38\nF3E F47\nF49 F6A\nF7F F7F\nF85 F85\nF88 F8B\nFBE FC5\nFC7 FCC\nFCF FCF\n" ++
  "1000 1021\n1023 1027\n1029 102A\n102C 102C\n1031 1031\n1038 1038\n1040 1057\n10A0 10C5\n10D0 10F8\n" ++
  "10FB 10FB\n1100 1159\n115F 11A2\n11A8 11F9\n1200 1206\n1208 1246\n1248 1248\n124A 124D\n1250 1256\n" ++
  "1258 1258\n125A 125D\n1260 1286\n1288 1288\n128A 128D\n1290 12AE\n12B0 12B0\n12B2 12B5\n12B8 12BE\n" ++
  "12C0 12C0\n12C2 12C5\n12C8 12CE\n12D0 12D6\n12D8 12EE\n12F0 130E\n1310 1310\n1312 1315\n1318 131E\n" ++
  "1320 1346\n1348 135A\n1361 137C\n13A0 13F4\n1401 1676\n1681 169A\n16A0 16F0\n1700 170C\n170E 1711\n" ++
  "1720 1731\n1735 1736\n1740 1751\n1760 176C\n176E 1770\n1780 17B6\n17BE 17C5\n17C7 17C8\n17D4 17DA\n" ++
  "17DC 17DC\n17E0 17E9\n1810 1819\n1820 1877\n1880 18A8\n1E00 1E9B\n1EA0 1EF9\n1F00 1F15\n1F18 1F1D\n" ++
  "1F20 1F45\n1F48 1F4D\n1F50 1F57\n1F59 1F59\n1F5B 1F5B\n1F5D 1F5D\n1F5F 1F7D\n1F80 1FB4\n1FB6 1FBC\n" ++
  "1FBE 1FBE\n1FC2 1FC4\n1FC6 1FCC\n1FD0 1FD3\n1FD6 1FDB\n1FE0 1FEC\n1FF2 1FF4\n1FF6 1FFC\n200E 200E\n" ++
  "2071 2071\n207F 207F\n2102 2102\n2107 2107\n210A 2113\n2115 2115\n2119 211D\n2124 2124\n2126 2126\n" ++
  "2128 2128\n212A 212D\n212F 2131\n2133 2139\n213D 213F\n2145 2149\n2160 2183\n2336 237A\n2395 2395\n" ++
  "249C 24E9\n3005 3007\n3021 3029\n3031 3035\n3038 303C\n3041 3096\n309D 309F\n30A1 30FA\n30FC 30FF\n" ++
  "3105 312C\n3131 318E\n3190 31B7\n31F0 321C\n3220 3243\n3260 327B\n327F 32B0\n32C0 32CB\n32D0 32FE\n" ++
  "3300 3376\n337B 33DD\n33E0 33FE\n3400 4DB5\n4E00 9FA5\nA000 A48C\nAC00 D7A3\nD800 FA2D\nFA30 FA6A\n" ++
  "FB00 FB06\nFB13 FB17\nFF21 FF3A\nFF41 FF5A\nFF66 FFBE\nFFC2 FFC7\nFFCA FFCF\nFFD2 FFD7\nFFDA FFDC\n" ++
  "10300 1031E\n10320 10323\n10330 1034A\n10400 10425\n10428 1044D\n1D000 1D0F5\n1D100 1D126\n1D12A 1D166\n" ++
  "1D16A 1D172\n1D183 1D184\n1D18C 1D1A9\n1D1AE 1D1DD\n1D400 1D454\n1D456 1D49C\n1D49E 1D49F\n1D4A2 1D4A2\n" ++
  "1D4A5 1D4A6\n1D4A9 1D4AC\n1D4AE 1D4B9\n1D4BB 1D4BB\n1D4BD 1D4C0\n1D4C2 1D4C3\n1D4C5 1D505\n1D507 1D50A\n" ++
  "1D50D 1D514\n1D516 1D51C\n1D51E 1D539\n1D53B 1D53E\n1D540 1D544\n1D546 1D546\n1D54A 1D550\n1D552 1D6A3\n" ++
  "1D6A8 1D7C9\n20000 2A6D6\n2F800 2FA1D\nF0000 FFFFD\n100000 10FFFD"

end Nameprep

end ByteAsm
