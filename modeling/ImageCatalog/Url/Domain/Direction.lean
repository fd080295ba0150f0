import ImageCatalog.Text.HexTable

/-!
# Direction and joining of characters

The properties of Unicode that the rules for labels of domain names look at: the bidirectional
class, the marks, and how the letters of Arabic join. The tables hold hexadecimal ranges.
-/

namespace ImageCatalog.Domain

/-- Bidirectional classes, as far as the rules tell them apart. -/
inductive Direction where
  | left
  | right
  | arabicLetter
  | arabicNumber
  | europeanNumber
  | europeanSeparator
  | commonSeparator
  | europeanTerminator
  | otherNeutral
  | boundaryNeutral
  | nonspacingMark
  | other
deriving DecidableEq, Repr

/-- The class of a number in the last column of `directionTable`. -/
def Direction.ofNumber (n : Nat) : Direction :=
  ([left, right, arabicLetter, arabicNumber, europeanNumber, europeanSeparator, commonSeparator,
    europeanTerminator, otherNeutral, boundaryNeutral, nonspacingMark])[n]?.getD .other

/-- Ranges beyond ASCII that do not run from left to right, with their class. -/
def directionTable : List String :=
  ["A0 A0 6, A1 A1 8, A2 A5 7, A6 A9 8, AB AC 8, AD AD 9, AE AF 8, B0 B1 7, B2 B3 4, B4 B4 8",
    "B6 B8 8, B9 B9 4, BB BF 8, D7 D7 8, F7 F7 8, 2B9 2BA 8, 2C2 2CF 8, 2D2 2DF 8, 2E5 2ED 8",
    "2EF 2FF 8, 300 36F A, 374 375 8, 37E 37E 8, 384 385 8, 387 387 8, 3F6 3F6 8, 483 489 A",
    "58A 58E 8, 58F 58F 7, 591 5BD A, 5BE 5BE 1, 5BF 5BF A, 5C0 5C0 1, 5C1 5C2 A, 5C3 5C3 1",
    "5C4 5C5 A, 5C6 5C6 1, 5C7 5C7 A, 5D0 5F4 1, 606 607 8, 608 608 2, 609 60A 7, 60B 60B 2",
    "60C 60C 6, 60D 60D 2, 60E 60F 8, 610 61A A, 61B 64A 2, 64B 65F A, 660 669 3, 66A 66A 7",
    "66B 66C 3, 66D 66F 2, 670 670 A, 671 6D5 2, 6D6 6DC A, 6DE 6DE 8, 6DF 6E4 A, 6E5 6E6 2",
    "6E7 6E8 A, 6E9 6E9 8, 6EA 6ED A, 6EE 6EF 2, 6F0 6F9 4, 6FA 710 2, 711 711 A, 712 72F 2",
    "730 74A A, 74D 7A5 2, 7A6 7B0 A, 7B1 7B1 2, 7C0 7EA 1, 7EB 7F3 A, 7F4 7F5 1, 7F6 7F9 8",
    "7FA 7FA 1, 7FD 7FD A, 7FE 815 1, 816 819 A, 81A 81A 1, 81B 823 A, 824 824 1, 825 827 A",
    "828 828 1, 829 82D A, 830 858 1, 859 85B A, 85E 85E 1, 860 88E 2, 898 89F A, 8A0 8C9 2",
    "8CA 902 A, 93A 93A A, 93C 93C A, 941 948 A, 94D 94D A, 951 957 A, 962 963 A, 981 981 A",
    "9BC 9BC A, 9C1 9C4 A, 9CD 9CD A, 9E2 9E3 A, 9F2 9F3 7, 9FB 9FB 7, 9FE A02 A, A3C A3C A",
    "A41 A51 A, A70 A71 A, A75 A75 A, A81 A82 A, ABC ABC A, AC1 AC8 A, ACD ACD A, AE2 AE3 A",
    "AF1 AF1 7, AFA B01 A, B3C B3C A, B3F B3F A, B41 B44 A, B4D B56 A, B62 B63 A, B82 B82 A",
    "BC0 BC0 A, BCD BCD A, BF3 BF8 8, BF9 BF9 7, BFA BFA 8, C00 C00 A, C04 C04 A, C3C C3C A",
    "C3E C40 A, C46 C56 A, C62 C63 A, C78 C7E 8, C81 C81 A, CBC CBC A, CCC CCD A, CE2 CE3 A",
    "D00 D01 A, D3B D3C A, D41 D44 A, D4D D4D A, D62 D63 A, D81 D81 A, DCA DCA A, DD2 DD6 A",
    "E31 E31 A, E34 E3A A, E3F E3F 7, E47 E4E A, EB1 EB1 A, EB4 EBC A, EC8 ECD A, F18 F19 A",
    "F35 F35 A, F37 F37 A, F39 F39 A, F3A F3D 8, F71 F7E A, F80 F84 A, F86 F87 A, F8D FBC A",
    "FC6 FC6 A, 102D 1030 A, 1032 1037 A, 1039 103A A, 103D 103E A, 1058 1059 A, 105E 1060 A",
    "1071 1074 A, 1082 1082 A, 1085 1086 A, 108D 108D A, 109D 109D A, 135D 135F A, 1390 1399 8",
    "1400 1400 8, 169B 169C 8, 1712 1714 A, 1732 1733 A, 1752 1753 A, 1772 1773 A, 17B7 17BD A",
    "17C6 17C6 A, 17C9 17D3 A, 17DB 17DB 7, 17DD 17DD A, 17F0 180A 8, 180B 180F A, 1885 1886 A",
    "18A9 18A9 A, 1920 1922 A, 1927 1928 A, 1932 1932 A, 1939 193B A, 1940 1945 8, 19DE 19FF 8",
    "1A17 1A18 A, 1A1B 1A1B A, 1A56 1A56 A, 1A58 1A60 A, 1A62 1A62 A, 1A65 1A6C A, 1A73 1A7F A",
    "1AB0 1B03 A, 1B34 1B34 A, 1B36 1B3A A, 1B3C 1B3C A, 1B42 1B42 A, 1B6B 1B73 A, 1B80 1B81 A",
    "1BA2 1BA5 A, 1BA8 1BA9 A, 1BAB 1BAD A, 1BE6 1BE6 A, 1BE8 1BE9 A, 1BED 1BED A, 1BEF 1BF1 A",
    "1C2C 1C33 A, 1C36 1C37 A, 1CD0 1CD2 A, 1CD4 1CE0 A, 1CE2 1CE8 A, 1CED 1CED A, 1CF4 1CF4 A",
    "1CF8 1CF9 A, 1DC0 1DFF A, 1FBD 1FBD 8, 1FBF 1FC1 8, 1FCD 1FCF 8, 1FDD 1FDF 8, 1FED 1FEF 8",
    "1FFD 1FFE 8, 2000 200A B, 200B 200D 9, 2010 2027 8, 202F 202F 6, 2030 2034 7, 2035 2043 8",
    "2044 2044 6, 2045 205E 8, 205F 205F B, 2060 2064 9, 2070 2070 4, 2074 2079 4, 207A 207B 5",
    "207C 207E 8, 2080 2089 4, 208A 208B 5, 208C 208E 8, 20A0 20C0 7, 20D0 20F0 A, 2100 2101 8",
    "2103 2106 8, 2108 2109 8, 2114 2114 8, 2116 2118 8, 211E 2123 8, 2125 2125 8, 2127 2127 8",
    "2129 2129 8, 212E 212E 7, 213A 213B 8, 2140 2144 8, 214A 214D 8, 2150 215F 8, 2189 2211 8",
    "2212 2212 5, 2213 2213 7, 2214 2335 8, 237B 2394 8, 2396 2487 8, 24EA 26AB 8, 26AD 27FF 8",
    "2900 2BFF 8, 2CE5 2CEA 8, 2CEF 2CF1 A, 2CF9 2CFF 8, 2D7F 2D7F A, 2DE0 2DFF A, 2E00 2FD5 8",
    "3000 3000 B, 3001 3004 8, 3008 3020 8, 302A 302D A, 3030 3030 8, 3036 3037 8, 303D 303F 8",
    "3099 309A A, 309B 309C 8, 30A0 30A0 8, 30FB 30FB 8, 31C0 31E3 8, 321D 321E 8, 3250 325F 8",
    "327C 327E 8, 32B1 32BF 8, 32CC 32CF 8, 3377 337A 8, 33DE 33DF 8, 33FF 33FF 8, 4DC0 4DFF 8",
    "A490 A4C6 8, A60D A60F 8, A66F A672 A, A673 A673 8, A674 A67D A, A67E A67F 8, A69E A69F A",
    "A6F0 A6F1 A, A700 A721 8, A788 A788 8, A802 A802 A, A806 A806 A, A80B A80B A, A825 A826 A",
    "A828 A82B 8, A82C A82C A, A838 A839 7, A874 A877 8, A8C4 A8C5 A, A8E0 A8F1 A, A8FF A8FF A",
    "A926 A92D A, A947 A951 A, A980 A982 A, A9B3 A9B3 A, A9B6 A9B9 A, A9BC A9BD A, A9E5 A9E5 A",
    "AA29 AA2E A, AA31 AA32 A, AA35 AA36 A, AA43 AA43 A, AA4C AA4C A, AA7C AA7C A, AAB0 AAB0 A",
    "AAB2 AAB4 A, AAB7 AAB8 A, AABE AABF A, AAC1 AAC1 A, AAEC AAED A, AAF6 AAF6 A, AB6A AB6B 8",
    "ABE5 ABE5 A, ABE8 ABE8 A, ABED ABED A, FB1D FB1D 1, FB1E FB1E A, FB1F FB28 1, FB29 FB29 5",
    "FB2A FB4F 1, FB50 FD3D 2, FD3E FD4F 8, FD50 FDC7 2, FDCF FDCF 8, FDF0 FDFC 2, FDFD FDFF 8",
    "FE00 FE0F A, FE10 FE18 8, FE20 FE2F A, FE31 FE4F 8, FE50 FE50 6, FE51 FE54 8, FE55 FE55 6",
    "FE56 FE5E 8, FE5F FE5F 7, FE60 FE61 8, FE62 FE63 5, FE64 FE68 8, FE69 FE6A 7, FE6B FE6B 8",
    "FE70 FEFC 2, FEFF FEFF 9, FF01 FF02 8, FF03 FF05 7, FF06 FF0A 8, FF0B FF0B 5, FF0C FF0C 6",
    "FF0D FF0D 5, FF0E FF0F 6, FF10 FF19 4, FF1A FF1A 6, FF1B FF20 8, FF3B FF40 8, FF5B FF65 8",
    "FFE0 FFE1 7, FFE2 FFE4 8, FFE5 FFE6 7, FFE8 FFEE 8, 10101 10101 8, 10140 1018C 8",
    "10190 101A0 8, 101FD 101FD A, 102E0 102E0 A, 102E1 102FB 4, 10376 1037A A, 10800 1091B 1",
    "1091F 1091F 8, 10920 10A00 1, 10A01 10A0F A, 10A10 10A35 1, 10A38 10A3F A, 10A40 10AE4 1",
    "10AE5 10AE6 A, 10AEB 10B35 1, 10B39 10B3F 8, 10B40 10CFF 1, 10D00 10D23 2, 10D24 10D27 A",
    "10D30 10E7E 3, 10E80 10EA9 1, 10EAB 10EAC A, 10EAD 10F27 1, 10F30 10F45 2, 10F46 10F50 A",
    "10F51 10F59 2, 10F70 10F81 1, 10F82 10F85 A, 10F86 10FF6 1, 11001 11001 A, 11038 11046 A",
    "11052 11065 8, 11070 11070 A, 11073 11074 A, 1107F 11081 A, 110B3 110B6 A, 110B9 110BA A",
    "110C2 110C2 A, 11100 11102 A, 11127 1112B A, 1112D 11134 A, 11173 11173 A, 11180 11181 A",
    "111B6 111BE A, 111C9 111CC A, 111CF 111CF A, 1122F 11231 A, 11234 11234 A, 11236 11237 A",
    "1123E 1123E A, 112DF 112DF A, 112E3 112EA A, 11300 11301 A, 1133B 1133C A, 11340 11340 A",
    "11366 11374 A, 11438 1143F A, 11442 11444 A, 11446 11446 A, 1145E 1145E A, 114B3 114B8 A",
    "114BA 114BA A, 114BF 114C0 A, 114C2 114C3 A, 115B2 115B5 A, 115BC 115BD A, 115BF 115C0 A",
    "115DC 115DD A, 11633 1163A A, 1163D 1163D A, 1163F 11640 A, 11660 1166C 8, 116AB 116AB A",
    "116AD 116AD A, 116B0 116B5 A, 116B7 116B7 A, 1171D 1171F A, 11722 11725 A, 11727 1172B A",
    "1182F 11837 A, 11839 1183A A, 1193B 1193C A, 1193E 1193E A, 11943 11943 A, 119D4 119DB A",
    "119E0 119E0 A, 11A01 11A06 A, 11A09 11A0A A, 11A33 11A38 A, 11A3B 11A3E A, 11A47 11A47 A",
    "11A51 11A56 A, 11A59 11A5B A, 11A8A 11A96 A, 11A98 11A99 A, 11C30 11C3D A, 11C92 11CA7 A",
    "11CAA 11CB0 A, 11CB2 11CB3 A, 11CB5 11CB6 A, 11D31 11D45 A, 11D47 11D47 A, 11D90 11D91 A",
    "11D95 11D95 A, 11D97 11D97 A, 11EF3 11EF4 A, 11FD5 11FDC 8, 11FDD 11FE0 7, 11FE1 11FF1 8",
    "16AF0 16AF4 A, 16B30 16B36 A, 16F4F 16F4F A, 16F8F 16F92 A, 16FE2 16FE2 8, 16FE4 16FE4 A",
    "1BC9D 1BC9E A, 1BCA0 1BCA3 9, 1CF00 1CF46 A, 1D167 1D169 A, 1D17B 1D182 A, 1D185 1D18B A",
    "1D1AA 1D1AD A, 1D1E9 1D241 8, 1D242 1D244 A, 1D245 1D245 8, 1D300 1D356 8, 1D6DB 1D6DB 8",
    "1D715 1D715 8, 1D74F 1D74F 8, 1D789 1D789 8, 1D7C3 1D7C3 8, 1D7CE 1D7FF 4, 1DA00 1DA36 A",
    "1DA3B 1DA6C A, 1DA75 1DA75 A, 1DA84 1DA84 A, 1DA9B 1DAAF A, 1E000 1E02A A, 1E130 1E136 A",
    "1E2AE 1E2AE A, 1E2EC 1E2EF A, 1E2FF 1E2FF 7, 1E800 1E8CF 1, 1E8D0 1E8D6 A, 1E900 1E943 1",
    "1E944 1E94A A, 1E94B 1E95F 1, 1EC71 1EEBB 2, 1EEF0 1F0F5 8, 1F101 1F10A 4, 1F10B 1F10F 8",
    "1F12F 1F12F 8, 1F16A 1F16F 8, 1F1AD 1F1AD 8, 1F260 1FBCA 8, 1FBF0 1FBF9 4, E0100 E01EF A"]

/-- Ranges of marks. -/
def markTable : List String :=
  ["300 36F, 483 489, 591 5BD, 5BF 5BF, 5C1 5C2, 5C4 5C5, 5C7 5C7, 610 61A, 64B 65F, 670 670",
    "6D6 6DC, 6DF 6E4, 6E7 6E8, 6EA 6ED, 711 711, 730 74A, 7A6 7B0, 7EB 7F3, 7FD 7FD, 816 819",
    "81B 823, 825 827, 829 82D, 859 85B, 898 89F, 8CA 8E1, 8E3 903, 93A 93C, 93E 94F, 951 957",
    "962 963, 981 983, 9BC 9BC, 9BE 9CD, 9D7 9D7, 9E2 9E3, 9FE A03, A3C A51, A70 A71, A75 A75",
    "A81 A83, ABC ABC, ABE ACD, AE2 AE3, AFA B03, B3C B3C, B3E B57, B62 B63, B82 B82, BBE BCD",
    "BD7 BD7, C00 C04, C3C C3C, C3E C56, C62 C63, C81 C83, CBC CBC, CBE CD6, CE2 CE3, D00 D03",
    "D3B D3C, D3E D4D, D57 D57, D62 D63, D81 D83, DCA DDF, DF2 DF3, E31 E31, E34 E3A, E47 E4E",
    "EB1 EB1, EB4 EBC, EC8 ECD, F18 F19, F35 F35, F37 F37, F39 F39, F3E F3F, F71 F84, F86 F87",
    "F8D FBC, FC6 FC6, 102B 103E, 1056 1059, 105E 1060, 1062 1064, 1067 106D, 1071 1074",
    "1082 108D, 108F 108F, 109A 109D, 135D 135F, 1712 1715, 1732 1734, 1752 1753, 1772 1773",
    "17B4 17D3, 17DD 17DD, 180B 180D, 180F 180F, 1885 1886, 18A9 18A9, 1920 193B, 1A17 1A1B",
    "1A55 1A7F, 1AB0 1B04, 1B34 1B44, 1B6B 1B73, 1B80 1B82, 1BA1 1BAD, 1BE6 1BF3, 1C24 1C37",
    "1CD0 1CD2, 1CD4 1CE8, 1CED 1CED, 1CF4 1CF4, 1CF7 1CF9, 1DC0 1DFF, 20D0 20F0, 2CEF 2CF1",
    "2D7F 2D7F, 2DE0 2DFF, 302A 302F, 3099 309A, A66F A672, A674 A67D, A69E A69F, A6F0 A6F1",
    "A802 A802, A806 A806, A80B A80B, A823 A827, A82C A82C, A880 A881, A8B4 A8C5, A8E0 A8F1",
    "A8FF A8FF, A926 A92D, A947 A953, A980 A983, A9B3 A9C0, A9E5 A9E5, AA29 AA36, AA43 AA43",
    "AA4C AA4D, AA7B AA7D, AAB0 AAB0, AAB2 AAB4, AAB7 AAB8, AABE AABF, AAC1 AAC1, AAEB AAEF",
    "AAF5 AAF6, ABE3 ABEA, ABEC ABED, FB1E FB1E, FE00 FE0F, FE20 FE2F, 101FD 101FD, 102E0 102E0",
    "10376 1037A, 10A01 10A0F, 10A38 10A3F, 10AE5 10AE6, 10D24 10D27, 10EAB 10EAC, 10F46 10F50",
    "10F82 10F85, 11000 11002, 11038 11046, 11070 11070, 11073 11074, 1107F 11082, 110B0 110BA",
    "110C2 110C2, 11100 11102, 11127 11134, 11145 11146, 11173 11173, 11180 11182, 111B3 111C0",
    "111C9 111CC, 111CE 111CF, 1122C 11237, 1123E 1123E, 112DF 112EA, 11300 11303, 1133B 1133C",
    "1133E 1134D, 11357 11357, 11362 11374, 11435 11446, 1145E 1145E, 114B0 114C3, 115AF 115C0",
    "115DC 115DD, 11630 11640, 116AB 116B7, 1171D 1172B, 1182C 1183A, 11930 1193E, 11940 11940",
    "11942 11943, 119D1 119E0, 119E4 119E4, 11A01 11A0A, 11A33 11A39, 11A3B 11A3E, 11A47 11A47",
    "11A51 11A5B, 11A8A 11A99, 11C2F 11C3F, 11C92 11CB6, 11D31 11D45, 11D47 11D47, 11D8A 11D97",
    "11EF3 11EF6, 16AF0 16AF4, 16B30 16B36, 16F4F 16F4F, 16F51 16F92, 16FE4 16FF1, 1BC9D 1BC9E",
    "1CF00 1CF46, 1D165 1D169, 1D16D 1D172, 1D17B 1D182, 1D185 1D18B, 1D1AA 1D1AD, 1D242 1D244",
    "1DA00 1DA36, 1DA3B 1DA6C, 1DA75 1DA75, 1DA84 1DA84, 1DA9B 1DAAF, 1E000 1E02A, 1E130 1E136",
    "1E2AE 1E2AE, 1E2EC 1E2EF, 1E8D0 1E8D6, 1E944 1E94A, E0100 E01EF"]

/-- Letters that join on both sides. -/
def dualJoining : List String :=
  ["626 626, 628 628, 62A 62E, 633 63A, 641 647, 649 64A, 679 67B, 67E 680, 683 684, 686 687",
    "6A4 6A4, 6A6 6A6, 6A9 6A9, 6AD 6AD, 6AF 6AF, 6B1 6B1, 6B3 6B3, 6BB 6BB, 6BE 6BE, 6C1 6C1",
    "6CC 6CC, 6D0 6D0"]

/-- Letters that join to what stands before them only. -/
def rightJoining : List String :=
  ["622 625, 627 627, 629 629, 62F 632, 648 648, 671 671, 688 688, 68C 68E, 691 691, 698 698",
    "6BA 6BA, 6C0 6C0, 6C5 6C9, 6CB 6CB, 6D2 6D3"]

def directionRows : Array (List Nat) :=
  Text.hexRows directionTable

def markRows : Array (List Nat) :=
  Text.hexRows markTable

def dualJoiningRows : Array (List Nat) :=
  Text.hexRows dualJoining

def rightJoiningRows : Array (List Nat) :=
  Text.hexRows rightJoining

/-- The bidirectional class of a character. -/
def direction (c : Char) : Direction :=
  if c.toNat < 128 then
    if ('a' ≤ c && c ≤ 'z') || ('A' ≤ c && c ≤ 'Z') then .left
    else if '0' ≤ c && c ≤ '9' then .europeanNumber
    else if c == '+' || c == '-' then .europeanSeparator
    else if c == ',' || c == '.' || c == '/' || c == ':' then .commonSeparator
    else if c == '#' || c == '$' || c == '%' then .europeanTerminator
    else if c.toNat < 33 || c.toNat == 127 then .other
    else .otherNeutral
  else
    match Text.findRow? directionRows c.toNat with
    | some [_, _, n] => .ofNumber n
    | _ => .left

/-- A combining mark, spacing or not. -/
def isMark (c : Char) : Bool :=
  Text.inRows markRows c.toNat

def joinsBoth (c : Char) : Bool :=
  Text.inRows dualJoiningRows c.toNat

def joinsBefore (c : Char) : Bool :=
  Text.inRows rightJoiningRows c.toNat

end ImageCatalog.Domain
