import SenderPolicy.Text.CodeTable

/-!
# Combining characters

A combining class tells how a mark attaches to the character before it. Characters of
class zero are starters; marks of different classes may change places without changing
the meaning of the text.
-/

namespace SenderPolicy

/-- The Unicode general category `M`: characters that combine with the one before. -/
def marks : CodeSet := .read
  "300 370 483 48A 591 5BE 5BF 5C0 5C1 5C3 5C4 5C6 5C7 5C9 610 61B 64B 660 670 671 6D6 6DD 6DF 6E5
  6E7 6E9 6EA 6EE 711 712 730 74B 7A6 7B1 7EB 7F4 7FD 7FE 816 81A 81B 824 825 828 829 82E 859 85C
  897 8A0 8CA 8E2 8E3 904 93A 93D 93E 950 951 958 962 964 981 984 9BC 9BD 9BE 9C5 9C7 9C9 9CB 9CE
  9D7 9D8 9E2 9E4 9FE 9FF A01 A04 A3C A3D A3E A43 A47 A49 A4B A4E A51 A52 A70 A72 A75 A76 A81 A84
  ABC ABD ABE AC6 AC7 ACA ACB ACE AE2 AE4 AFA B00 B01 B04 B3C B3D B3E B45 B47 B49 B4B B4E B53 B58
  B62 B64 B82 B83 BBE BC3 BC6 BC9 BCA BCE BD7 BD8 C00 C05 C3C C3D C3E C45 C46 C49 C4A C4E C55 C57
  C62 C64 C81 C84 CBC CBD CBE CC5 CC6 CC9 CCA CCE CD5 CD7 CE2 CE4 CF3 CF4 D00 D04 D3B D3D D3E D45
  D46 D49 D4A D4E D57 D58 D62 D64 D81 D84 DCA DCB DCF DD5 DD6 DD7 DD8 DE0 DF2 DF4 E31 E32 E34 E3B
  E47 E4F EB1 EB2 EB4 EBD EC8 ECF F18 F1A F35 F36 F37 F38 F39 F3A F3E F40 F71 F85 F86 F88 F8D F98
  F99 FBD FC6 FC7 102B 103F 1056 105A 105E 1061 1062 1065 1067 106E 1071 1075 1082 108E 108F 1090
  109A 109E 135D 1360 1712 1716 1732 1735 1752 1754 1772 1774 17B4 17D4 17DD 17DE 180B 180E 180F
  1810 1885 1887 18A9 18AA 1920 192C 1930 193C 1A17 1A1C 1A55 1A5F 1A60 1A7D 1A7F 1A80 1AB0 1ADE
  1AE0 1AED 1B00 1B05 1B34 1B45 1B6B 1B74 1B80 1B83 1BA1 1BAE 1BE6 1BF4 1C24 1C38 1CD0 1CD3 1CD4
  1CE9 1CED 1CEE 1CF4 1CF5 1CF7 1CFA 1DC0 1E00 20D0 20F1 2CEF 2CF2 2D7F 2D80 2DE0 2E00 302A 3030
  3099 309B A66F A673 A674 A67E A69E A6A0 A6F0 A6F2 A802 A803 A806 A807 A80B A80C A823 A828 A82C
  A82D A880 A882 A8B4 A8C6 A8E0 A8F2 A8FF A900 A926 A92E A947 A954 A980 A984 A9B3 A9C1 A9E5 A9E6
  AA29 AA37 AA43 AA44 AA4C AA4E AA7B AA7E AAB0 AAB1 AAB2 AAB5 AAB7 AAB9 AABE AAC0 AAC1 AAC2 AAEB
  AAF0 AAF5 AAF7 ABE3 ABEB ABEC ABEE FB1E FB1F FE00 FE10 FE20 FE30 101FD 101FE 102E0 102E1 10376
  1037B 10A01 10A04 10A05 10A07 10A0C 10A10 10A38 10A3B 10A3F 10A40 10AE5 10AE7 10D24 10D28 10D69
  10D6E 10EAB 10EAD 10EFA 10F00 10F46 10F51 10F82 10F86 11000 11003 11038 11047 11070 11071 11073
  11075 1107F 11083 110B0 110BB 110C2 110C3 11100 11103 11127 11135 11145 11147 11173 11174 11180
  11183 111B3 111C1 111C9 111CD 111CE 111D0 1122C 11238 1123E 1123F 11241 11242 112DF 112EB 11300
  11304 1133B 1133D 1133E 11345 11347 11349 1134B 1134E 11357 11358 11362 11364 11366 1136D 11370
  11375 113B8 113C1 113C2 113C3 113C5 113C6 113C7 113CB 113CC 113D1 113D2 113D3 113E1 113E3 11435
  11447 1145E 1145F 114B0 114C4 115AF 115B6 115B8 115C1 115DC 115DE 11630 11641 116AB 116B8 1171D
  1172C 1182C 1183B 11930 11936 11937 11939 1193B 1193F 11940 11941 11942 11944 119D1 119D8 119DA
  119E1 119E4 119E5 11A01 11A0B 11A33 11A3A 11A3B 11A3F 11A47 11A48 11A51 11A5C 11A8A 11A9A 11B60
  11B68 11C2F 11C37 11C38 11C40 11C92 11CA8 11CA9 11CB7 11D31 11D37 11D3A 11D3B 11D3C 11D3E 11D3F
  11D46 11D47 11D48 11D8A 11D8F 11D90 11D92 11D93 11D98 11EF3 11EF7 11F00 11F02 11F03 11F04 11F34
  11F3B 11F3E 11F43 11F5A 11F5B 13440 13441 13447 13456 1611E 16130 16AF0 16AF5 16B30 16B37 16F4F
  16F50 16F51 16F88 16F8F 16F93 16FE4 16FE5 16FF0 16FF2 1BC9D 1BC9F 1CF00 1CF2E 1CF30 1CF47 1D165
  1D16A 1D16D 1D173 1D17B 1D183 1D185 1D18C 1D1AA 1D1AE 1D242 1D245 1DA00 1DA37 1DA3B 1DA6D 1DA75
  1DA76 1DA84 1DA85 1DA9B 1DAA0 1DAA1 1DAB0 1E000 1E007 1E008 1E019 1E01B 1E022 1E023 1E025 1E026
  1E02B 1E08F 1E090 1E130 1E137 1E2AE 1E2AF 1E2EC 1E2F0 1E4EC 1E4F0 1E5EE 1E5F0 1E6E3 1E6E4 1E6E6
  1E6E7 1E6EE 1E6F0 1E6F5 1E6F6 1E8D0 1E8D7 1E944 1E94B E0100 E01F0"

/-- A character that combines with the one before. -/
def isMark (c : Char) : Bool :=
  marks.contains c

/-- The classes of the Unicode property `Canonical_Combining_Class`, each from its code
point on until the next one. -/
def combiningSteps : List (Nat × Nat) :=
  (hexRows
  "300 E6, 315 E8, 316 DC, 31A E8, 31B D8, 31C DC, 321 CA, 323 DC, 327 CA, 329 DC, 334 1, 339 DC,
  33D E6, 345 F0, 346 E6, 347 DC, 34A E6, 34D DC, 34F 0, 350 E6, 353 DC, 357 E6, 358 E8, 359 DC,
  35B E6, 35C E9, 35D EA, 35F E9, 360 EA, 362 E9, 363 E6, 370 0, 483 E6, 488 0, 591 DC, 592 E6,
  596 DC, 597 E6, 59A DE, 59B DC, 59C E6, 5A2 DC, 5A8 E6, 5AA DC, 5AB E6, 5AD DE, 5AE E4, 5AF E6,
  5B0 A, 5B1 B, 5B2 C, 5B3 D, 5B4 E, 5B5 F, 5B6 10, 5B7 11, 5B8 12, 5B9 13, 5BB 14, 5BC 15, 5BD
  16, 5BE 0, 5BF 17, 5C0 0, 5C1 18, 5C2 19, 5C3 0, 5C4 E6, 5C5 DC, 5C6 0, 5C7 12, 5C9 0, 610 E6,
  618 1E, 619 1F, 61A 20, 61B 0, 64B 1B, 64C 1C, 64D 1D, 64E 1E, 64F 1F, 650 20, 651 21, 652 22,
  653 E6, 655 DC, 657 E6, 65C DC, 65D E6, 65F DC, 660 0, 670 23, 671 0, 6D6 E6, 6DD 0, 6DF E6, 6E3
  DC, 6E4 E6, 6E5 0, 6E7 E6, 6E9 0, 6EA DC, 6EB E6, 6ED DC, 6EE 0, 711 24, 712 0, 730 E6, 731 DC,
  732 E6, 734 DC, 735 E6, 737 DC, 73A E6, 73B DC, 73D E6, 73E DC, 73F E6, 742 DC, 743 E6, 744 DC,
  745 E6, 746 DC, 747 E6, 748 DC, 749 E6, 74B 0, 7EB E6, 7F2 DC, 7F3 E6, 7F4 0, 7FD DC, 7FE 0, 816
  E6, 81A 0, 81B E6, 824 0, 825 E6, 828 0, 829 E6, 82E 0, 859 DC, 85C 0, 897 E6, 899 DC, 89C E6,
  8A0 0, 8CA E6, 8CF DC, 8D4 E6, 8E2 0, 8E3 DC, 8E4 E6, 8E6 DC, 8E7 E6, 8E9 DC, 8EA E6, 8ED DC,
  8F0 1B, 8F1 1C, 8F2 1D, 8F3 E6, 8F6 DC, 8F7 E6, 8F9 DC, 8FB E6, 900 0, 93C 7, 93D 0, 94D 9, 94E
  0, 951 E6, 952 DC, 953 E6, 955 0, 9BC 7, 9BD 0, 9CD 9, 9CE 0, 9FE E6, 9FF 0, A3C 7, A3D 0, A4D
  9, A4E 0, ABC 7, ABD 0, ACD 9, ACE 0, B3C 7, B3D 0, B4D 9, B4E 0, BCD 9, BCE 0, C3C 7, C3D 0,
  C4D 9, C4E 0, C55 54, C56 5B, C57 0, CBC 7, CBD 0, CCD 9, CCE 0, D3B 9, D3D 0, D4D 9, D4E 0, DCA
  9, DCB 0, E38 67, E3A 9, E3B 0, E48 6B, E4C 0, EB8 76, EBA 9, EBB 0, EC8 7A, ECC 0, F18 DC, F1A
  0, F35 DC, F36 0, F37 DC, F38 0, F39 D8, F3A 0, F71 81, F72 82, F73 0, F74 84, F75 0, F7A 82,
  F7E 0, F80 82, F81 0, F82 E6, F84 9, F85 0, F86 E6, F88 0, FC6 DC, FC7 0, 1037 7, 1038 0, 1039
  9, 103B 0, 108D DC, 108E 0, 135D E6, 1360 0, 1714 9, 1716 0, 1734 9, 1735 0, 17D2 9, 17D3 0,
  17DD E6, 17DE 0, 18A9 E4, 18AA 0, 1939 DE, 193A E6, 193B DC, 193C 0, 1A17 E6, 1A18 DC, 1A19 0,
  1A60 9, 1A61 0, 1A75 E6, 1A7D 0, 1A7F DC, 1A80 0, 1AB0 E6, 1AB5 DC, 1ABB E6, 1ABD DC, 1ABE 0,
  1ABF DC, 1AC1 E6, 1AC3 DC, 1AC5 E6, 1ACA DC, 1ACB E6, 1ADD DC, 1ADE 0, 1AE0 E6, 1AE6 DC, 1AE7
  E6, 1AEB EA, 1AEC E6, 1AED 0, 1B34 7, 1B35 0, 1B44 9, 1B45 0, 1B6B E6, 1B6C DC, 1B6D E6, 1B74 0,
  1BAA 9, 1BAC 0, 1BE6 7, 1BE7 0, 1BF2 9, 1BF4 0, 1C37 7, 1C38 0, 1CD0 E6, 1CD3 0, 1CD4 1, 1CD5
  DC, 1CDA E6, 1CDC DC, 1CE0 E6, 1CE1 0, 1CE2 1, 1CE9 0, 1CED DC, 1CEE 0, 1CF4 E6, 1CF5 0, 1CF8
  E6, 1CFA 0, 1DC0 E6, 1DC2 DC, 1DC3 E6, 1DCA DC, 1DCB E6, 1DCD EA, 1DCE D6, 1DCF DC, 1DD0 CA,
  1DD1 E6, 1DF6 E8, 1DF7 E4, 1DF9 DC, 1DFA DA, 1DFB E6, 1DFC E9, 1DFD DC, 1DFE E6, 1DFF DC, 1E00
  0, 20D0 E6, 20D2 1, 20D4 E6, 20D8 1, 20DB E6, 20DD 0, 20E1 E6, 20E2 0, 20E5 1, 20E7 E6, 20E8 DC,
  20E9 E6, 20EA 1, 20EC DC, 20F0 E6, 20F1 0, 2CEF E6, 2CF2 0, 2D7F 9, 2D80 0, 2DE0 E6, 2E00 0,
  302A DA, 302B E4, 302C E8, 302D DE, 302E E0, 3030 0, 3099 8, 309B 0, A66F E6, A670 0, A674 E6,
  A67E 0, A69E E6, A6A0 0, A6F0 E6, A6F2 0, A806 9, A807 0, A82C 9, A82D 0, A8C4 9, A8C5 0, A8E0
  E6, A8F2 0, A92B DC, A92E 0, A953 9, A954 0, A9B3 7, A9B4 0, A9C0 9, A9C1 0, AAB0 E6, AAB1 0,
  AAB2 E6, AAB4 DC, AAB5 0, AAB7 E6, AAB9 0, AABE E6, AAC0 0, AAC1 E6, AAC2 0, AAF6 9, AAF7 0,
  ABED 9, ABEE 0, FB1E 1A, FB1F 0, FE20 E6, FE27 DC, FE2E E6, FE30 0, 101FD DC, 101FE 0, 102E0 DC,
  102E1 0, 10376 E6, 1037B 0, 10A0D DC, 10A0E 0, 10A0F E6, 10A10 0, 10A38 E6, 10A39 1, 10A3A DC,
  10A3B 0, 10A3F 9, 10A40 0, 10AE5 E6, 10AE6 DC, 10AE7 0, 10D24 E6, 10D28 0, 10D69 E6, 10D6E 0,
  10EAB E6, 10EAD 0, 10EFA DC, 10EFC 0, 10EFD DC, 10F00 0, 10F46 DC, 10F48 E6, 10F4B DC, 10F4C E6,
  10F4D DC, 10F51 0, 10F82 E6, 10F83 DC, 10F84 E6, 10F85 DC, 10F86 0, 11046 9, 11047 0, 11070 9,
  11071 0, 1107F 9, 11080 0, 110B9 9, 110BA 7, 110BB 0, 11100 E6, 11103 0, 11133 9, 11135 0, 11173
  7, 11174 0, 111C0 9, 111C1 0, 111CA 7, 111CB 0, 11235 9, 11236 7, 11237 0, 112E9 7, 112EA 9,
  112EB 0, 1133B 7, 1133D 0, 1134D 9, 1134E 0, 11366 E6, 1136D 0, 11370 E6, 11375 0, 113CE 9,
  113D1 0, 11442 9, 11443 0, 11446 7, 11447 0, 1145E E6, 1145F 0, 114C2 9, 114C3 7, 114C4 0, 115BF
  9, 115C0 7, 115C1 0, 1163F 9, 11640 0, 116B6 9, 116B7 7, 116B8 0, 1172B 9, 1172C 0, 11839 9,
  1183A 7, 1183B 0, 1193D 9, 1193F 0, 11943 7, 11944 0, 119E0 9, 119E1 0, 11A34 9, 11A35 0, 11A47
  9, 11A48 0, 11A99 9, 11A9A 0, 11C3F 9, 11C40 0, 11D42 7, 11D43 0, 11D44 9, 11D46 0, 11D97 9,
  11D98 0, 11F41 9, 11F43 0, 1612F 9, 16130 0, 16AF0 1, 16AF5 0, 16B30 E6, 16B37 0, 16FF0 6, 16FF2
  0, 1BC9E 1, 1BC9F 0, 1D165 D8, 1D167 1, 1D16A 0, 1D16D E2, 1D16E D8, 1D173 0, 1D17B DC, 1D183 0,
  1D185 E6, 1D18A DC, 1D18C 0, 1D1AA E6, 1D1AE 0, 1D242 E6, 1D245 0, 1E000 E6, 1E007 0, 1E008 E6,
  1E019 0, 1E01B E6, 1E022 0, 1E023 E6, 1E025 0, 1E026 E6, 1E02B 0, 1E08F E6, 1E090 0, 1E130 E6,
  1E137 0, 1E2AE E6, 1E2AF 0, 1E2EC E6, 1E2F0 0, 1E4EC E8, 1E4EE DC, 1E4EF E6, 1E4F0 0, 1E5EE E6,
  1E5EF DC, 1E5F0 0, 1E6E3 E6, 1E6E4 0, 1E6E6 E6, 1E6E7 0, 1E6EE E6, 1E6F0 0, 1E6F5 E6, 1E6F6 0,
  1E8D0 DC, 1E8D7 0, 1E944 E6, 1E94A 7, 1E94B 0").filterMap
    fun
    | [first, value] => some (first, value)
    | _ => none

/-- The Unicode property `Canonical_Combining_Class`. -/
def combiningClass (c : Char) : Nat :=
  ((combiningSteps.takeWhile fun step => step.1 ≤ c.toNat).getLast?.map Prod.snd).getD 0

/-- A character that suppresses the vowel of the letter before it. -/
def isVirama (c : Char) : Bool :=
  combiningClass c = 9

end SenderPolicy
