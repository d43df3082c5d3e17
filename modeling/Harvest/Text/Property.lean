import Harvest.Text.Blank
import Harvest.Text.Case
import Harvest.Text.Category
import Harvest.Text.Script

/-!
Unicode properties by name.

A name of a property, a category or a script is looked up without regard to case, blanks, hyphens,
underscores and a leading `is`.
-/

namespace Harvest.Text

/-- A name reduced to what tells it from other names. -/
def looseName (cs : List Char) : List Char :=
  let startsWithIs := (cs.take 2).map lowerAsciiChar == ['i', 's']
  let kept := ((if startsWithIs then cs.drop 2 else cs).filter fun c =>
    c.toNat < 128 && c != ' ' && c != '_' && c != '-').map lowerAsciiChar
  if startsWithIs && kept == ['c'] then ['i', 's', 'c'] else kept

/-- The properties that are listed as sets, by their loose names. -/
def listedProperties : List (List String × CodeSet) :=
  [
    (["bidic", "bidicontrol"], "61C 61D 200E 2010 202A 202F 2066 206A"),
    (["dash"], "2D 2E 58A 58B 5BE 5BF 1400 1401 1806 1807 2010 2016 2053 2054 207B 207C 208B 208C 2212
      2213 2E17 2E18 2E1A 2E1B 2E3A 2E3C 2E40 2E41 2E5D 2E5E 301C 301D 3030 3031 30A0 30A1
      FE31 FE33 FE58 FE59 FE63 FE64 FF0D FF0E 10EAD 10EAE"),
    (["di", "defaultignorablecodepoint"], "AD AE 34F 350 61C 61D 115F 1161 17B4 17B6 180B 1810 200B 2010 202A 202F 2060 2070 3164
      3165 FE00 FE10 FEFF FF00 FFA0 FFA1 FFF0 FFF9 1BCA0 1BCA4 1D173 1D17B E0000 E1000"),
    (["dia", "diacritic"], "5E 5F 60 61 A8 A9 AF B0 B4 B5 B7 B9 2B0 34F 350 358 35D 363 374 376 37A 37B 384 386 483
      488 559 55A 591 5A2 5A3 5BE 5BF 5C0 5C1 5C3 5C4 5C5 64B 653 657 659 6DF 6E1 6E5 6E7 6EA
      6ED 730 74B 7A6 7B1 7EB 7F6 818 81A 898 8A0 8C9 8D3 8E3 8FF 93C 93D 94D 94E 951 955 971
      972 9BC 9BD 9CD 9CE A3C A3D A4D A4E ABC ABD ACD ACE AFD B00 B3C B3D B4D B4E B55 B56 BCD
      BCE C3C C3D C4D C4E CBC CBD CCD CCE D3B D3D D4D D4E DCA DCB E47 E4D E4E E4F EBA EBB EC8
      ECD F18 F1A F35 F36 F37 F38 F39 F3A F3E F40 F82 F85 F86 F88 FC6 FC7 1037 1038 1039 103B
      1063 1065 1069 106E 1087 108E 108F 1090 109A 109C 135D 1360 1714 1716 17C9 17D4 17DD
      17DE 1939 193C 1A75 1A7D 1A7F 1A80 1AB0 1ABF 1AC1 1ACC 1B34 1B35 1B44 1B45 1B6B 1B74
      1BAA 1BAC 1C36 1C38 1C78 1C7E 1CD0 1CE9 1CED 1CEE 1CF4 1CF5 1CF7 1CFA 1D2C 1D6B 1DC4
      1DD0 1DF5 1E00 1FBD 1FBE 1FBF 1FC2 1FCD 1FD0 1FDD 1FE0 1FED 1FF0 1FFD 1FFF 2CEF 2CF2
      2E2F 2E30 302A 3030 3099 309D 30FC 30FD A66F A670 A67C A67E A67F A680 A69C A69E A6F0
      A6F2 A700 A722 A788 A78B A7F8 A7FA A8C4 A8C5 A8E0 A8F2 A92B A92F A953 A954 A9B3 A9B4
      A9C0 A9C1 A9E5 A9E6 AA7B AA7E AABF AAC3 AAF6 AAF7 AB5B AB60 AB69 AB6C ABEC ABEE FB1E
      FB1F FE20 FE30 FF3E FF3F FF40 FF41 FF70 FF71 FF9E FFA0 FFE3 FFE4 102E0 102E1 10780 10786
      10787 107B1 107B2 107BB 10AE5 10AE7 10D22 10D28 10EFD 10F00 10F46 10F51 10F82 10F86
      11046 11047 11070 11071 110B9 110BB 11133 11135 11173 11174 111C0 111C1 111CA 111CD
      11235 11237 112E9 112EB 1133C 1133D 1134D 1134E 11366 1136D 11370 11375 11442 11443
      11446 11447 114C2 114C4 115BF 115C1 1163F 11640 116B6 116B8 1172B 1172C 11839 1183B
      1193D 1193F 11943 11944 119E0 119E1 11A34 11A35 11A47 11A48 11A99 11A9A 11C3F 11C40
      11D42 11D43 11D44 11D46 11D97 11D98 13447 13456 16AF0 16AF5 16B30 16B37 16F8F 16FA0
      16FF0 16FF2 1AFF0 1AFF4 1AFF5 1AFFC 1AFFD 1AFFF 1CF00 1CF2E 1CF30 1CF47 1D167 1D16A
      1D16D 1D173 1D17B 1D183 1D185 1D18C 1D1AA 1D1AE 1E030 1E06E 1E130 1E137 1E2AE 1E2AF
      1E2EC 1E2F0 1E8D0 1E8D7 1E944 1E947 1E948 1E94B"),
    (["emoji"], "23 24 2A 2B 30 3A A9 AA AE AF 203C 203D 2049 204A 2122 2123 2139 213A 2194 219A 21A9
      21AB 231A 231C 2328 2329 23CF 23D0 23E9 23F4 23F8 23FB 24C2 24C3 25AA 25AC 25B6 25B7
      25C0 25C1 25FB 25FF 2600 2605 260E 260F 2611 2612 2614 2616 2618 2619 261D 261E 2620
      2621 2622 2624 2626 2627 262A 262B 262E 2630 2638 263B 2640 2641 2642 2643 2648 2654
      265F 2661 2663 2664 2665 2667 2668 2669 267B 267C 267E 2680 2692 2698 2699 269A 269B
      269D 26A0 26A2 26A7 26A8 26AA 26AC 26B0 26B2 26BD 26BF 26C4 26C6 26C8 26C9 26CE 26D0
      26D1 26D2 26D3 26D5 26E9 26EB 26F0 26F6 26F7 26FB 26FD 26FE 2702 2703 2705 2706 2708
      270E 270F 2710 2712 2713 2714 2715 2716 2717 271D 271E 2721 2722 2728 2729 2733 2735
      2744 2745 2747 2748 274C 274D 274E 274F 2753 2756 2757 2758 2763 2765 2795 2798 27A1
      27A2 27B0 27B1 27BF 27C0 2934 2936 2B05 2B08 2B1B 2B1D 2B50 2B51 2B55 2B56 3030 3031
      303D 303E 3297 3298 3299 329A 1F004 1F005 1F0CF 1F0D0 1F170 1F172 1F17E 1F180 1F18E
      1F18F 1F191 1F19B 1F1E6 1F200 1F201 1F203 1F21A 1F21B 1F22F 1F230 1F232 1F23B 1F250
      1F252 1F300 1F322 1F324 1F394 1F396 1F398 1F399 1F39C 1F39E 1F3F1 1F3F3 1F3F6 1F3F7
      1F4FE 1F4FF 1F53E 1F549 1F54F 1F550 1F568 1F56F 1F571 1F573 1F57B 1F587 1F588 1F58A
      1F58E 1F590 1F591 1F595 1F597 1F5A4 1F5A6 1F5A8 1F5A9 1F5B1 1F5B3 1F5BC 1F5BD 1F5C2
      1F5C5 1F5D1 1F5D4 1F5DC 1F5DF 1F5E1 1F5E2 1F5E3 1F5E4 1F5E8 1F5E9 1F5EF 1F5F0 1F5F3
      1F5F4 1F5FA 1F650 1F680 1F6C6 1F6CB 1F6D3 1F6D5 1F6D8 1F6DC 1F6E6 1F6E9 1F6EA 1F6EB
      1F6ED 1F6F0 1F6F1 1F6F3 1F6FD 1F7E0 1F7EC 1F7F0 1F7F1 1F90C 1F93B 1F93C 1F946 1F947
      1FA00 1FA70 1FA7D 1FA80 1FA89 1FA90 1FABE 1FABF 1FAC6 1FACE 1FADC 1FAE0 1FAE9 1FAF0
      1FAF9"),
    (["ecomp", "emojicomponent"], "23 24 2A 2B 30 3A 200D 200E 20E3 20E4 FE0F FE10 1F1E6 1F200 1F3FB 1F400 1F9B0 1F9B4
      E0020 E0080"),
    (["emod", "emojimodifier"], "1F3FB 1F400"),
    (["ebase", "emojimodifierbase"], "261D 261E 26F9 26FA 270A 270E 1F385 1F386 1F3C2 1F3C5 1F3C7 1F3C8 1F3CA 1F3CD 1F442
      1F444 1F446 1F451 1F466 1F479 1F47C 1F47D 1F481 1F484 1F485 1F488 1F48F 1F490 1F491
      1F492 1F4AA 1F4AB 1F574 1F576 1F57A 1F57B 1F590 1F591 1F595 1F597 1F645 1F648 1F64B
      1F650 1F6A3 1F6A4 1F6B4 1F6B7 1F6C0 1F6C1 1F6CC 1F6CD 1F90C 1F90D 1F90F 1F910 1F918
      1F920 1F926 1F927 1F930 1F93A 1F93C 1F93F 1F977 1F978 1F9B5 1F9B7 1F9B8 1F9BA 1F9BB
      1F9BC 1F9CD 1F9D0 1F9D1 1F9DE 1FAC3 1FAC6 1FAF0 1FAF9"),
    (["epres", "emojipresentation"], "231A 231C 23E9 23ED 23F0 23F1 23F3 23F4 25FD 25FF 2614 2616 2648 2654 267F 2680 2693
      2694 26A1 26A2 26AA 26AC 26BD 26BF 26C4 26C6 26CE 26CF 26D4 26D5 26EA 26EB 26F2 26F4
      26F5 26F6 26FA 26FB 26FD 26FE 2705 2706 270A 270C 2728 2729 274C 274D 274E 274F 2753
      2756 2757 2758 2795 2798 27B0 27B1 27BF 27C0 2B1B 2B1D 2B50 2B51 2B55 2B56 1F004 1F005
      1F0CF 1F0D0 1F18E 1F18F 1F191 1F19B 1F1E6 1F200 1F201 1F202 1F21A 1F21B 1F22F 1F230
      1F232 1F237 1F238 1F23B 1F250 1F252 1F300 1F321 1F32D 1F336 1F337 1F37D 1F37E 1F394
      1F3A0 1F3CB 1F3CF 1F3D4 1F3E0 1F3F1 1F3F4 1F3F5 1F3F8 1F43F 1F440 1F441 1F442 1F4FD
      1F4FF 1F53E 1F54B 1F54F 1F550 1F568 1F57A 1F57B 1F595 1F597 1F5A4 1F5A5 1F5FB 1F650
      1F680 1F6C6 1F6CC 1F6CD 1F6D0 1F6D3 1F6D5 1F6D8 1F6DC 1F6E0 1F6EB 1F6ED 1F6F4 1F6FD
      1F7E0 1F7EC 1F7F0 1F7F1 1F90C 1F93B 1F93C 1F946 1F947 1FA00 1FA70 1FA7D 1FA80 1FA89
      1FA90 1FABE 1FABF 1FAC6 1FACE 1FADC 1FAE0 1FAE9 1FAF0 1FAF9"),
    (["extpict", "extendedpictographic"], "A9 AA AE AF 203C 203D 2049 204A 2122 2123 2139 213A 2194 219A 21A9 21AB 231A 231C 2328
      2329 2388 2389 23CF 23D0 23E9 23F4 23F8 23FB 24C2 24C3 25AA 25AC 25B6 25B7 25C0 25C1
      25FB 25FF 2600 2606 2607 2613 2614 2686 2690 2706 2708 2713 2714 2715 2716 2717 271D
      271E 2721 2722 2728 2729 2733 2735 2744 2745 2747 2748 274C 274D 274E 274F 2753 2756
      2757 2758 2763 2768 2795 2798 27A1 27A2 27B0 27B1 27BF 27C0 2934 2936 2B05 2B08 2B1B
      2B1D 2B50 2B51 2B55 2B56 3030 3031 303D 303E 3297 3298 3299 329A 1F000 1F100 1F10D 1F110
      1F12F 1F130 1F16C 1F172 1F17E 1F180 1F18E 1F18F 1F191 1F19B 1F1AD 1F1E6 1F201 1F210
      1F21A 1F21B 1F22F 1F230 1F232 1F23B 1F23C 1F240 1F249 1F3FB 1F400 1F53E 1F546 1F650
      1F680 1F700 1F774 1F780 1F7D5 1F800 1F80C 1F810 1F848 1F850 1F85A 1F860 1F888 1F890
      1F8AE 1F900 1F90C 1F93B 1F93C 1F946 1F947 1FB00 1FC00 1FFFE"),
    (["ext", "extender"], "B7 B8 2D0 2D2 640 641 7FA 7FB B55 B56 E46 E47 EC6 EC7 180A 180B 1843 1844 1AA7 1AA8 1C36
      1C37 1C7B 1C7C 3005 3006 3031 3036 309D 309F 30FC 30FF A015 A016 A60C A60D A9CF A9D0
      A9E6 A9E7 AA70 AA71 AADD AADE AAF3 AAF5 FF70 FF71 10781 10783 1135D 1135E 115C6 115C9
      11A98 11A99 16B42 16B44 16FE0 16FE2 16FE3 16FE4 1E13C 1E13E 1E944 1E947"),
    (["hex", "hexdigit"], "30 3A 41 47 61 67 FF10 FF1A FF21 FF27 FF41 FF47"),
    (["hyphen"], "2D 2E AD AE 58A 58B 1806 1807 2010 2012 2E17 2E18 30FB 30FC FE63 FE64 FF0D FF0E FF65
      FF66"),
    (["ideo", "ideographic"], "3006 3008 3021 302A 3038 303B 3400 4DC0 4E00 A000 F900 FA6E FA70 FADA 16FE4 16FE5 17000
      187F8 18800 18CD6 18D00 18D09 1B170 1B2FC 20000 2A6E0 2A700 2B73A 2B740 2B81E 2B820
      2CEA2 2CEB0 2EBE1 2F800 2FA1E 30000 3134B 31350 323B0"),
    (["joinc", "joincontrol"], "200C 200E"),
    (["math"], "2B 2C 3C 3F 5E 5F 7C 7D 7E 7F AC AD B1 B2 D7 D8 F7 F8 3D0 3D3 3D5 3D6 3F0 3F2 3F4 3F7
      606 609 2016 2017 2032 2035 2040 2041 2044 2045 2052 2053 2061 2065 207A 207F 208A 208F
      20D0 20DD 20E1 20E2 20E5 20E7 20EB 20F0 2102 2103 2107 2108 210A 2114 2115 2116 2118
      211E 2124 2125 2128 212A 212C 212E 212F 2132 2133 2139 213C 214A 214B 214C 2190 21A8
      21A9 21AF 21B0 21B2 21B6 21B8 21BC 21DC 21DD 21DE 21E4 21E6 21F4 2300 2308 230C 2320
      2322 237C 237D 239B 23B6 23B7 23B8 23D0 23D1 23DC 23E3 25A0 25A2 25AE 25B8 25BC 25C2
      25C6 25C8 25CA 25CC 25CF 25D4 25E2 25E3 25E4 25E5 25E7 25ED 25F8 2600 2605 2607 2640
      2641 2642 2643 2660 2664 266D 2670 27C0 2800 2900 2B00 2B30 2B45 2B47 2B4D FB29 FB2A
      FE61 FE67 FE68 FE69 FF0B FF0C FF1C FF1F FF3C FF3D FF3E FF3F FF5C FF5D FF5E FF5F FFE2
      FFE3 FFE9 FFED 1D400 1D455 1D456 1D49D 1D49E 1D4A0 1D4A2 1D4A3 1D4A5 1D4A7 1D4A9 1D4AD
      1D4AE 1D4BA 1D4BB 1D4BC 1D4BD 1D4C4 1D4C5 1D506 1D507 1D50B 1D50D 1D515 1D516 1D51D
      1D51E 1D53A 1D53B 1D53F 1D540 1D545 1D546 1D547 1D54A 1D551 1D552 1D6A6 1D6A8 1D7CC
      1D7CE 1D800 1EE00 1EE04 1EE05 1EE20 1EE21 1EE23 1EE24 1EE25 1EE27 1EE28 1EE29 1EE33
      1EE34 1EE38 1EE39 1EE3A 1EE3B 1EE3C 1EE42 1EE43 1EE47 1EE48 1EE49 1EE4A 1EE4B 1EE4C
      1EE4D 1EE50 1EE51 1EE53 1EE54 1EE55 1EE57 1EE58 1EE59 1EE5A 1EE5B 1EE5C 1EE5D 1EE5E
      1EE5F 1EE60 1EE61 1EE63 1EE64 1EE65 1EE67 1EE6B 1EE6C 1EE73 1EE74 1EE78 1EE79 1EE7D
      1EE7E 1EE7F 1EE80 1EE8A 1EE8B 1EE9C 1EEA1 1EEA4 1EEA5 1EEAA 1EEAB 1EEBC 1EEF0 1EEF2"),
    (["nchar", "noncharactercodepoint"], "FDD0 FDF0 FFFE 10000 1FFFE 20000 2FFFE 30000 3FFFE 40000 4FFFE 50000 5FFFE 60000 6FFFE
      70000 7FFFE 80000 8FFFE 90000 9FFFE A0000 AFFFE B0000 BFFFE C0000 CFFFE D0000 DFFFE
      E0000 EFFFE F0000 FFFFE 100000 10FFFE 110000"),
    (["patsyn", "patternsyntax"], "21 30 3A 41 5B 5F 60 61 7B 7F A1 A8 A9 AA AB AD AE AF B0 B2 B6 B7 BB BC BF C0 D7 D8 F7
      F8 2010 2028 2030 203F 2041 2054 2055 205F 2190 2460 2500 2776 2794 2C00 2E00 2E80 3001
      3004 3008 3021 3030 3031 FD3E FD40 FE45 FE47"),
    (["patws", "patternwhitespace"], "9 E 20 21 85 86 200E 2010 2028 202A"),
    (["qmark", "quotationmark"], "22 23 27 28 AB AC BB BC 2018 2020 2039 203B 2E42 2E43 300C 3010 301D 3020 FE41 FE45 FF02
      FF03 FF07 FF08 FF62 FF64"),
    (["radical"], "2E80 2E9A 2E9B 2EF4 2F00 2FD6"),
    (["ri", "regionalindicator"], "1F1E6 1F200"),
    (["sterm", "sentenceterminal"], "21 22 2E 2F 3F 40 589 58A 61D 620 6D4 6D5 700 703 7F9 7FA 837 838 839 83A 83D 83F 964
      966 104A 104C 1362 1363 1367 1369 166E 166F 1735 1737 1803 1804 1809 180A 1944 1946 1AA8
      1AAC 1B5A 1B5C 1B5E 1B60 1B7D 1B7F 1C3B 1C3D 1C7E 1C80 203C 203E 2047 204A 2E2E 2E2F
      2E3C 2E3D 2E53 2E55 3002 3003 A4FF A500 A60E A610 A6F3 A6F4 A6F7 A6F8 A876 A878 A8CE
      A8D0 A92F A930 A9C8 A9CA AA5D AA60 AAF0 AAF2 ABEB ABEC FE52 FE53 FE56 FE58 FF01 FF02
      FF0E FF0F FF1F FF20 FF61 FF62 10A56 10A58 10F55 10F5A 10F86 10F8A 11047 11049 110BE
      110C2 11141 11144 111C5 111C7 111CD 111CE 111DE 111E0 11238 1123A 1123B 1123D 112A9
      112AA 1144B 1144D 115C2 115C4 115C9 115D8 11641 11643 1173C 1173F 11944 11945 11946
      11947 11A42 11A44 11A9B 11A9D 11C41 11C43 11EF7 11EF9 11F43 11F45 16A6E 16A70 16AF5
      16AF6 16B37 16B39 16B44 16B45 16E98 16E99 1BC9F 1BCA0 1DA88 1DA89"),
    (["sd", "softdotted"], "69 6B 12F 130 249 24A 268 269 29D 29E 2B2 2B3 3F3 3F4 456 457 458 459 1D62 1D63 1D96
      1D97 1DA4 1DA5 1DA8 1DA9 1E2D 1E2E 1ECB 1ECC 2071 2072 2148 214A 2C7C 2C7D 1D422 1D424
      1D456 1D458 1D48A 1D48C 1D4BE 1D4C0 1D4F2 1D4F4 1D526 1D528 1D55A 1D55C 1D58E 1D590
      1D5C2 1D5C4 1D5F6 1D5F8 1D62A 1D62C 1D65E 1D660 1D692 1D694 1DF1A 1DF1B 1E04C 1E04E
      1E068 1E069"),
    (["term", "terminalpunctuation"], "21 22 2C 2D 2E 2F 3A 3C 3F 40 37E 37F 387 388 589 58A 5C3 5C4 60C 60D 61B 61C 61D 620
      6D4 6D5 700 70B 70C 70D 7F8 7FA 830 83F 85E 85F 964 966 E5A E5C F08 F09 F0D F13 104A
      104C 1361 1369 166E 166F 16EB 16EE 1735 1737 17D4 17D7 17DA 17DB 1802 1806 1808 180A
      1944 1946 1AA8 1AAC 1B5A 1B5C 1B5D 1B60 1B7D 1B7F 1C3B 1C40 1C7E 1C80 203C 203E 2047
      204A 2E2E 2E2F 2E3C 2E3D 2E41 2E42 2E4C 2E4D 2E4E 2E50 2E53 2E55 3001 3003 A4FE A500
      A60D A610 A6F3 A6F8 A876 A878 A8CE A8D0 A92F A930 A9C7 A9CA AA5D AA60 AADF AAE0 AAF0
      AAF2 ABEB ABEC FE50 FE53 FE54 FE58 FF01 FF02 FF0C FF0D FF0E FF0F FF1A FF1C FF1F FF20
      FF61 FF62 FF64 FF65 1039F 103A0 103D0 103D1 10857 10858 1091F 10920 10A56 10A58 10AF0
      10AF6 10B3A 10B40 10B99 10B9D 10F55 10F5A 10F86 10F8A 11047 1104E 110BE 110C2 11141
      11144 111C5 111C7 111CD 111CE 111DE 111E0 11238 1123D 112A9 112AA 1144B 1144E 1145A
      1145C 115C2 115C6 115C9 115D8 11641 11643 1173C 1173F 11944 11945 11946 11947 11A42
      11A44 11A9B 11A9D 11AA1 11AA3 11C41 11C44 11C71 11C72 11EF7 11EF9 11F43 11F45 12470
      12475 16A6E 16A70 16AF5 16AF6 16B37 16B3A 16B44 16B45 16E97 16E99 1BC9F 1BCA0 1DA87
      1DA8B"),
    (["uideo", "unifiedideograph"], "3400 4DC0 4E00 A000 FA0E FA10 FA11 FA12 FA13 FA15 FA1F FA20 FA21 FA22 FA23 FA25 FA27
      FA2A 20000 2A6E0 2A700 2B73A 2B740 2B81E 2B820 2CEA2 2CEB0 2EBE1 30000 3134B 31350 323B0"),
    (["vs", "variationselector"], "180B 180E 180F 1810 FE00 FE10 E0100 E01F0")].map
    fun (names, table) => (names, CodeSet.ofHex table)

def listedProperty (name : String) : CodeSet :=
  ((listedProperties.find? fun p => p.1.contains name).map (·.2)).getD .empty

/-- Lower case letters and the characters that count as such. -/
def lowercaseSet : CodeSet := (categorySet "Ll").union (CodeSet.ofHex
  "AA AB BA BB 2B0 2B9 2C0 2C2 2E0 2E5 345 346 37A 37B 10FC 10FD 1D2C 1D6B 1D78 1D79 1D9B
1DC0 2071 2072 207F 2080 2090 209D 2170 2180 24D0 24EA 2C7C 2C7E A69C A69E A770 A771
A7F2 A7F5 A7F8 A7FA AB5C AB60 AB69 AB6A 10780 10781 10783 10786 10787 107B1 107B2 107BB
1E030 1E06E")

/-- Upper case letters and the characters that count as such. -/
def uppercaseSet : CodeSet := (categorySet "Lu").union (CodeSet.ofHex
  "2160 2170 24B6 24D0 1F130 1F14A 1F150 1F16A 1F170 1F18A")

def patternSet : CodeSet :=
  (listedProperty "patternsyntax").union (listedProperty "patternwhitespace")

def idStartSet : CodeSet :=
  (((categorySet "L").union (categorySet "Nl")).diff patternSet).union
    (CodeSet.ofHex "1885 1887 2118 2119 212E 212F 309B 309D")

def idContinueSet : CodeSet :=
  ((CodeSet.unions
    [idStartSet, categorySet "Mn", categorySet "Mc", categorySet "Nd", categorySet "Pc"]).diff
      patternSet).union
    (CodeSet.ofHex "B7 B8 387 388 1369 1372 19DA 19DB")

/-- Identifiers in a form that normalisation keeps begin with the characters that may begin one,
less these. -/
def xidStartSet : CodeSet := idStartSet.diff (CodeSet.ofHex
  "37A 37B E33 E34 EB3 EB4 309B 309D FC5E FC64 FDFA FDFC FE70 FE71 FE72 FE73 FE74 FE75 FE76
FE77 FE78 FE79 FE7A FE7B FE7C FE7D FE7E FE7F FF9E FFA0")

def xidContinueSet : CodeSet := idContinueSet.diff (CodeSet.ofHex
  "37A 37B 309B 309D FC5E FC64 FDFA FDFC FE70 FE71 FE72 FE73 FE74 FE75 FE76 FE77 FE78 FE79
FE7A FE7B FE7C FE7D FE7E FE7F")

/-- The characters of words: letters, marks, decimal digits, connectors and joiners. -/
def wordSet : CodeSet :=
  CodeSet.unions
    [alphabeticSet, categorySet "M", categorySet "Nd", categorySet "Pc",
    listedProperty "joincontrol"]

def blankSet : CodeSet := CodeSet.ofHex
  "9 E 20 21 85 86 A0 A1 1680 1681 2000 200B 2028 202A 202F 2030 205F 2060
    3000 3001"

/-- The code points of a property that a code point has or lacks, by its loose name. -/
def propertySet? (name : String) : Option CodeSet :=
  if ["alphabetic", "alpha"].contains name then some alphabeticSet
  else if ["lowercase", "lower"].contains name then some lowercaseSet
  else if ["uppercase", "upper"].contains name then some uppercaseSet
  else if ["whitespace", "wspace", "space"].contains name then some blankSet
  else if ["cased"].contains name then some casedSet
  else if ["caseignorable", "ci"].contains name then some caseIgnorableSet
  else if ["asciihexdigit", "ahex"].contains name then
    some (CodeSet.ofHex "30 3A 41 47 61 67")
  else if ["idstart", "ids"].contains name then some idStartSet
  else if ["idcontinue", "idc"].contains name then some idContinueSet
  else if ["xidstart", "xids"].contains name then some xidStartSet
  else if ["xidcontinue", "xidc"].contains name then some xidContinueSet
  else (listedProperties.find? fun p => p.1.contains name).map (·.2)

/-- The general categories and groups of categories: short name and loose long names. -/
def categoryNames : List (String × List String) :=
  [("L", ["letter"]), ("LC", ["casedletter"]), ("Lu", ["uppercaseletter"]),
    ("Ll", ["lowercaseletter"]), ("Lt", ["titlecaseletter"]), ("Lm", ["modifierletter"]),
    ("Lo", ["otherletter"]), ("M", ["mark", "combiningmark"]), ("Mn", ["nonspacingmark"]),
    ("Mc", ["spacingmark"]), ("Me", ["enclosingmark"]), ("N", ["number"]),
    ("Nd", ["decimalnumber", "digit"]), ("Nl", ["letternumber"]), ("No", ["othernumber"]),
    ("P", ["punctuation", "punct"]), ("Pc", ["connectorpunctuation"]), ("Pd", ["dashpunctuation"]),
    ("Ps", ["openpunctuation"]), ("Pe", ["closepunctuation"]), ("Pi", ["initialpunctuation"]),
    ("Pf", ["finalpunctuation"]), ("Po", ["otherpunctuation"]), ("S", ["symbol"]),
    ("Sm", ["mathsymbol"]), ("Sc", ["currencysymbol"]), ("Sk", ["modifiersymbol"]),
    ("So", ["othersymbol"]), ("Z", ["separator"]), ("Zs", ["spaceseparator"]),
    ("Zl", ["lineseparator"]), ("Zp", ["paragraphseparator"]), ("C", ["other"]),
    ("Cc", ["control", "cntrl"]), ("Cf", ["format"]), ("Cs", ["surrogate"]),
    ("Co", ["privateuse"]), ("Cn", ["unassigned"])]

def categorySet? (name : String) : Option CodeSet :=
  if name == "any" then some CodeSet.all
  else if name == "assigned" then some (categorySet "Cn").compl
  else if name == "ascii" then some (CodeSet.range 0 0x7F)
  else
    (categoryNames.find? fun entry => lowerAscii entry.1 == name || entry.2.contains name).map
      fun entry =>
        if entry.1 == "LC" then
          CodeSet.unions [categorySet "Lu", categorySet "Ll", categorySet "Lt"]
        else categorySet entry.1

def scriptSet? (name : String) : Option CodeSet :=
  let given := name.toList
  (scriptNames.find? fun entry =>
    looseName entry.1.toList == given || looseName entry.2.toList == given ||
      (entry.2 == "Coptic" && name == "qaac") || (entry.2 == "Inherited" && name == "qaai")).map
    fun entry => scriptSet entry.2

/-- The code points that a name stands for, be it of a property, a category or a script. -/
def namedSet? (name : List Char) : Option CodeSet :=
  let name := String.ofList (looseName name)
  -- these three are short names of categories and of properties that are no sets
  let property := if ["cf", "sc", "lc"].contains name then none else propertySet? name
  property <|> categorySet? name <|> scriptSet? name

/-- The code points at which a property has a value. -/
def valueSet? (property value : List Char) : Option CodeSet :=
  let property := String.ofList (looseName property)
  let value := String.ofList (looseName value)
  if ["generalcategory", "gc"].contains property then categorySet? value
  else if ["script", "sc"].contains property then scriptSet? value
  else none

end Harvest.Text
