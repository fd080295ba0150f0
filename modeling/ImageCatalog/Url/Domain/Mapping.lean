import ImageCatalog.Text.HexTable

/-!
# The mapping of domain names

How each character beyond ASCII may stand in a domain name: as it is, not at all, as nothing, or as
other characters. The mapping folds case and compatibility forms, by the rules of Unicode for
internationalized domain names (non-transitional processing), so that two spellings of one name
become equal.

## Main definitions

* `Domain.mapChar?` — what a character becomes; nothing for a character that is not allowed.

The tables hold hexadecimal numbers. In `runs` a row is a first character, a count, a distance
between sources and the target of the first; in `expansions` it is a character and its targets;
else it is the first and the last character of a range.
-/

namespace ImageCatalog.Domain

/-- Runs of characters whose targets are as far from them as in the first row of the run. -/
def runs : List String :=
  ["A0 1 1 20, AA 1 1 61, B2 2 1 32, B5 1 1 3BC, B9 1 1 31, BA 1 1 6F, C0 17 1 E0, D8 7 1 F8",
    "100 18 2 101, 134 2 2 135, 139 3 2 13A, 141 4 2 142, 14A 17 2 14B, 178 1 1 FF, 179 3 2 17A",
    "17F 1 1 73, 181 1 1 253, 182 2 2 183, 186 1 1 254, 187 1 1 188, 189 2 1 256, 18B 1 1 18C",
    "18E 1 1 1DD, 18F 1 1 259, 190 1 1 25B, 191 1 1 192, 193 1 1 260, 194 1 1 263, 196 1 1 269",
    "197 1 1 268, 198 1 1 199, 19C 1 1 26F, 19D 1 1 272, 19F 1 1 275, 1A0 3 2 1A1, 1A6 1 1 280",
    "1A7 1 1 1A8, 1A9 1 1 283, 1AC 1 1 1AD, 1AE 1 1 288, 1AF 1 1 1B0, 1B1 2 1 28A, 1B3 2 2 1B4",
    "1B7 1 1 292, 1B8 1 1 1B9, 1BC 1 1 1BD, 1CD 8 2 1CE, 1DE 9 2 1DF, 1F4 1 1 1F5, 1F6 1 1 195",
    "1F7 1 1 1BF, 1F8 14 2 1F9, 220 1 1 19E, 222 9 2 223, 23A 1 1 2C65, 23B 1 1 23C, 23D 1 1 19A",
    "23E 1 1 2C66, 241 1 1 242, 243 1 1 180, 244 1 1 289, 245 1 1 28C, 246 5 2 247, 2B0 2 2 68",
    "2B1 1 1 266, 2B3 1 1 72, 2B4 1 1 279, 2B5 1 1 27B, 2B6 1 1 281, 2B7 1 1 77, 2B8 1 1 79",
    "2E0 1 1 263, 2E1 1 1 6C, 2E2 1 1 73, 2E3 1 1 78, 2E4 1 1 295, 340 2 1 300, 343 1 1 313",
    "345 1 1 3B9, 370 2 2 371, 374 1 1 2B9, 376 1 1 377, 37E 1 1 3B, 37F 1 1 3F3, 386 1 1 3AC",
    "387 1 1 B7, 388 3 1 3AD, 38C 1 1 3CC, 38E 2 1 3CD, 391 11 1 3B1, 3A3 9 1 3C3, 3CF 1 1 3D7",
    "3D0 1 1 3B2, 3D1 1 1 3B8, 3D2 1 1 3C5, 3D3 1 1 3CD, 3D4 1 1 3CB, 3D5 1 1 3C6, 3D6 1 1 3C0",
    "3D8 C 2 3D9, 3F0 1 1 3BA, 3F1 1 1 3C1, 3F2 1 1 3C3, 3F4 1 1 3B8, 3F5 1 1 3B5, 3F7 1 1 3F8",
    "3F9 1 1 3C3, 3FA 1 1 3FB, 3FD 3 1 37B, 400 10 1 450, 410 20 1 430, 460 11 2 461",
    "48A 1B 2 48B, 4C0 1 1 4CF, 4C1 7 2 4C2, 4D0 30 2 4D1, 531 26 1 561, F0C 1 1 F0B",
    "10A0 26 1 2D00, 10C7 1 1 2D27, 10CD 1 1 2D2D, 10FC 1 1 10DC, 13F8 6 1 13F0, 1C80 1 1 432",
    "1C81 1 1 434, 1C82 1 1 43E, 1C83 2 1 441, 1C85 1 1 442, 1C86 1 1 44A, 1C87 1 1 463",
    "1C88 1 1 A64B, 1C90 2B 1 10D0, 1CBD 3 1 10FD, 1D2C 1 1 61, 1D2D 1 1 E6, 1D2E 2 2 62",
    "1D31 5 2 65, 1D32 1 1 1DD, 1D34 4 2 68, 1D3C 1 1 6F, 1D3D 1 1 223, 1D3E 1 1 70, 1D3F 1 1 72",
    "1D40 2 1 74, 1D42 1 1 77, 1D43 1 1 61, 1D44 2 1 250, 1D46 1 1 1D02, 1D47 1 1 62, 1D48 2 1 64",
    "1D4A 1 1 259, 1D4B 2 1 25B, 1D4D 1 1 67, 1D4F 1 1 6B, 1D50 2 2 6D, 1D51 1 1 14B",
    "1D53 1 1 254, 1D54 2 1 1D16, 1D56 1 1 70, 1D57 2 1 74, 1D59 1 1 1D1D, 1D5A 1 1 26F",
    "1D5B 1 1 76, 1D5C 1 1 1D25, 1D5D 3 1 3B2, 1D60 2 1 3C6, 1D62 1 1 69, 1D63 1 1 72",
    "1D64 2 1 75, 1D66 2 1 3B2, 1D68 1 1 3C1, 1D69 2 1 3C6, 1D78 1 1 43D, 1D9B 1 1 252",
    "1D9C 1 1 63, 1D9D 1 1 255, 1D9E 1 1 F0, 1D9F 1 1 25C, 1DA0 1 1 66, 1DA1 1 1 25F",
    "1DA2 1 1 261, 1DA3 1 1 265, 1DA4 3 1 268, 1DA7 1 1 1D7B, 1DA8 1 1 29D, 1DA9 1 1 26D",
    "1DAA 1 1 1D85, 1DAB 1 1 29F, 1DAC 1 1 271, 1DAD 1 1 270, 1DAE 4 1 272, 1DB2 1 1 278",
    "1DB3 2 1 282, 1DB5 1 1 1AB, 1DB6 2 1 289, 1DB8 1 1 1D1C, 1DB9 2 1 28B, 1DBB 1 1 7A",
    "1DBC 3 1 290, 1DBF 1 1 3B8, 1E00 4B 2 1E01, 1E9B 1 1 1E61, 1E9E 1 1 DF, 1EA0 30 2 1EA1",
    "1F08 8 1 1F00, 1F18 6 1 1F10, 1F28 8 1 1F20, 1F38 8 1 1F30, 1F48 6 1 1F40, 1F59 4 2 1F51",
    "1F68 8 1 1F60, 1F71 1 1 3AC, 1F73 1 1 3AD, 1F75 1 1 3AE, 1F77 1 1 3AF, 1F79 1 1 3CC",
    "1F7B 1 1 3CD, 1F7D 1 1 3CE, 1FB8 2 1 1FB0, 1FBA 1 1 1F70, 1FBB 1 1 3AC, 1FBE 1 1 3B9",
    "1FC8 2 2 1F72, 1FC9 1 1 3AD, 1FCB 1 1 3AE, 1FD3 1 1 390, 1FD8 2 1 1FD0, 1FDA 1 1 1F76",
    "1FDB 1 1 3AF, 1FE3 1 1 3B0, 1FE8 2 1 1FE0, 1FEA 1 1 1F7A, 1FEB 1 1 3CD, 1FEC 1 1 1FE5",
    "1FEF 1 1 60, 1FF8 1 1 1F78, 1FF9 2 2 3CC, 1FFA 1 1 1F7C, 2000 1 1 20, 2001 1 1 20",
    "2002 1 1 20, 2003 1 1 20, 2004 1 1 20, 2005 1 1 20, 2006 1 1 20, 2007 1 1 20, 2008 1 1 20",
    "2009 1 1 20, 200A 1 1 20, 2011 1 1 2010, 202F 1 1 20, 205F 1 1 20, 2070 1 1 30, 2071 1 1 69",
    "2074 6 1 34, 207A 1 1 2B, 207B 1 1 2212, 207C 1 1 3D, 207D 2 1 28, 207F 1 1 6E, 2080 A 1 30",
    "208A 1 1 2B, 208B 1 1 2212, 208C 1 1 3D, 208D 2 1 28, 2090 1 1 61, 2091 1 1 65, 2092 1 1 6F",
    "2093 1 1 78, 2094 1 1 259, 2095 1 1 68, 2096 4 1 6B, 209A 1 1 70, 209B 2 1 73, 2102 1 1 63",
    "2107 1 1 25B, 210A 2 1 67, 210C 1 1 68, 210D 1 1 68, 210E 1 1 68, 210F 1 1 127, 2110 1 1 69",
    "2111 1 1 69, 2112 1 1 6C, 2113 2 2 6C, 2119 3 1 70, 211C 1 1 72, 211D 1 1 72, 2124 1 1 7A",
    "2126 1 1 3C9, 2128 1 1 7A, 212A 1 1 6B, 212B 1 1 E5, 212C 2 1 62, 212F 1 1 65, 2130 2 1 65",
    "2132 1 1 214E, 2133 1 1 6D, 2134 1 1 6F, 2135 4 1 5D0, 2139 1 1 69, 213C 1 1 3C0",
    "213D 1 1 3B3, 213E 1 1 3B3, 213F 1 1 3C0, 2140 1 1 2211, 2145 1 1 64, 2146 2 1 64",
    "2148 2 1 69, 2160 1 1 69, 2164 1 1 76, 2169 1 1 78, 216C 1 1 6C, 216D 2 1 63, 216F 1 1 6D",
    "2170 1 1 69, 2174 1 1 76, 2179 1 1 78, 217C 1 1 6C, 217D 2 1 63, 217F 1 1 6D, 2183 1 1 2184",
    "2329 2 1 3008, 2460 9 1 31, 24B6 1A 1 61, 24D0 1A 1 61, 24EA 1 1 30, 2C00 30 1 2C30",
    "2C60 1 1 2C61, 2C62 1 1 26B, 2C63 1 1 1D7D, 2C64 1 1 27D, 2C67 3 2 2C68, 2C6D 1 1 251",
    "2C6E 1 1 271, 2C6F 1 1 250, 2C70 1 1 252, 2C72 1 1 2C73, 2C75 1 1 2C76, 2C7C 1 1 6A",
    "2C7D 1 1 76, 2C7E 2 1 23F, 2C80 32 2 2C81, 2CEB 2 2 2CEC, 2CF2 1 1 2CF3, 2D6F 1 1 2D61",
    "2E9F 1 1 6BCD, 2EF3 1 1 9F9F, 2F00 1 1 4E00, 2F01 1 1 4E28, 2F02 1 1 4E36, 2F03 1 1 4E3F",
    "2F04 1 1 4E59, 2F05 1 1 4E85, 2F06 1 1 4E8C, 2F07 1 1 4EA0, 2F08 1 1 4EBA, 2F09 1 1 513F",
    "2F0A 1 1 5165, 2F0B 1 1 516B, 2F0C 1 1 5182, 2F0D 1 1 5196, 2F0E 1 1 51AB, 2F0F 1 1 51E0",
    "2F10 1 1 51F5, 2F11 1 1 5200, 2F12 1 1 529B, 2F13 1 1 52F9, 2F14 1 1 5315, 2F15 1 1 531A",
    "2F16 1 1 5338, 2F17 1 1 5341, 2F18 1 1 535C, 2F19 1 1 5369, 2F1A 1 1 5382, 2F1B 1 1 53B6",
    "2F1C 1 1 53C8, 2F1D 1 1 53E3, 2F1E 1 1 56D7, 2F1F 1 1 571F, 2F20 1 1 58EB, 2F21 1 1 5902",
    "2F22 1 1 590A, 2F23 1 1 5915, 2F24 1 1 5927, 2F25 1 1 5973, 2F26 1 1 5B50, 2F27 1 1 5B80",
    "2F28 1 1 5BF8, 2F29 1 1 5C0F, 2F2A 1 1 5C22, 2F2B 1 1 5C38, 2F2C 1 1 5C6E, 2F2D 1 1 5C71",
    "2F2E 1 1 5DDB, 2F2F 1 1 5DE5, 2F30 1 1 5DF1, 2F31 1 1 5DFE, 2F32 1 1 5E72, 2F33 1 1 5E7A",
    "2F34 1 1 5E7F, 2F35 1 1 5EF4, 2F36 1 1 5EFE, 2F37 1 1 5F0B, 2F38 1 1 5F13, 2F39 1 1 5F50",
    "2F3A 1 1 5F61, 2F3B 1 1 5F73, 2F3C 1 1 5FC3, 2F3D 1 1 6208, 2F3E 1 1 6236, 2F3F 1 1 624B",
    "2F40 1 1 652F, 2F41 1 1 6534, 2F42 1 1 6587, 2F43 1 1 6597, 2F44 1 1 65A4, 2F45 1 1 65B9",
    "2F46 1 1 65E0, 2F47 1 1 65E5, 2F48 1 1 66F0, 2F49 1 1 6708, 2F4A 1 1 6728, 2F4B 1 1 6B20",
    "2F4C 1 1 6B62, 2F4D 1 1 6B79, 2F4E 1 1 6BB3, 2F4F 1 1 6BCB, 2F50 1 1 6BD4, 2F51 1 1 6BDB",
    "2F52 1 1 6C0F, 2F53 1 1 6C14, 2F54 1 1 6C34, 2F55 1 1 706B, 2F56 1 1 722A, 2F57 1 1 7236",
    "2F58 1 1 723B, 2F59 1 1 723F, 2F5A 1 1 7247, 2F5B 1 1 7259, 2F5C 1 1 725B, 2F5D 1 1 72AC",
    "2F5E 1 1 7384, 2F5F 1 1 7389, 2F60 1 1 74DC, 2F61 1 1 74E6, 2F62 1 1 7518, 2F63 1 1 751F",
    "2F64 1 1 7528, 2F65 1 1 7530, 2F66 1 1 758B, 2F67 1 1 7592, 2F68 1 1 7676, 2F69 1 1 767D",
    "2F6A 1 1 76AE, 2F6B 1 1 76BF, 2F6C 1 1 76EE, 2F6D 1 1 77DB, 2F6E 1 1 77E2, 2F6F 1 1 77F3",
    "2F70 1 1 793A, 2F71 1 1 79B8, 2F72 1 1 79BE, 2F73 1 1 7A74, 2F74 1 1 7ACB, 2F75 1 1 7AF9",
    "2F76 1 1 7C73, 2F77 1 1 7CF8, 2F78 1 1 7F36, 2F79 1 1 7F51, 2F7A 1 1 7F8A, 2F7B 1 1 7FBD",
    "2F7C 1 1 8001, 2F7D 1 1 800C, 2F7E 1 1 8012, 2F7F 1 1 8033, 2F80 1 1 807F, 2F81 1 1 8089",
    "2F82 1 1 81E3, 2F83 1 1 81EA, 2F84 1 1 81F3, 2F85 1 1 81FC, 2F86 1 1 820C, 2F87 1 1 821B",
    "2F88 1 1 821F, 2F89 1 1 826E, 2F8A 1 1 8272, 2F8B 1 1 8278, 2F8C 1 1 864D, 2F8D 1 1 866B",
    "2F8E 1 1 8840, 2F8F 1 1 884C, 2F90 1 1 8863, 2F91 1 1 897E, 2F92 1 1 898B, 2F93 1 1 89D2",
    "2F94 1 1 8A00, 2F95 1 1 8C37, 2F96 1 1 8C46, 2F97 1 1 8C55, 2F98 1 1 8C78, 2F99 1 1 8C9D",
    "2F9A 1 1 8D64, 2F9B 1 1 8D70, 2F9C 1 1 8DB3, 2F9D 1 1 8EAB, 2F9E 1 1 8ECA, 2F9F 1 1 8F9B",
    "2FA0 1 1 8FB0, 2FA1 1 1 8FB5, 2FA2 1 1 9091, 2FA3 1 1 9149, 2FA4 1 1 91C6, 2FA5 1 1 91CC",
    "2FA6 1 1 91D1, 2FA7 1 1 9577, 2FA8 1 1 9580, 2FA9 1 1 961C, 2FAA 1 1 96B6, 2FAB 1 1 96B9",
    "2FAC 1 1 96E8, 2FAD 1 1 9751, 2FAE 1 1 975E, 2FAF 1 1 9762, 2FB0 1 1 9769, 2FB1 1 1 97CB",
    "2FB2 1 1 97ED, 2FB3 1 1 97F3, 2FB4 1 1 9801, 2FB5 1 1 98A8, 2FB6 1 1 98DB, 2FB7 1 1 98DF",
    "2FB8 1 1 9996, 2FB9 1 1 9999, 2FBA 1 1 99AC, 2FBB 1 1 9AA8, 2FBC 1 1 9AD8, 2FBD 1 1 9ADF",
    "2FBE 1 1 9B25, 2FBF 1 1 9B2F, 2FC0 1 1 9B32, 2FC1 1 1 9B3C, 2FC2 1 1 9B5A, 2FC3 1 1 9CE5",
    "2FC4 1 1 9E75, 2FC5 1 1 9E7F, 2FC6 1 1 9EA5, 2FC7 1 1 9EBB, 2FC8 1 1 9EC3, 2FC9 1 1 9ECD",
    "2FCA 1 1 9ED1, 2FCB 1 1 9EF9, 2FCC 1 1 9EFD, 2FCD 1 1 9F0E, 2FCE 1 1 9F13, 2FCF 1 1 9F20",
    "2FD0 1 1 9F3B, 2FD1 1 1 9F4A, 2FD2 1 1 9F52, 2FD3 1 1 9F8D, 2FD4 1 1 9F9C, 2FD5 1 1 9FA0",
    "3000 1 1 20, 3002 1 1 2E, 3036 1 1 3012, 3038 1 1 5341, 3039 2 1 5344, 3131 2 1 1100",
    "3133 2 2 11AA, 3134 1 1 1102, 3136 1 1 11AD, 3137 3 1 1103, 313A 6 1 11B0, 3140 1 1 111A",
    "3141 3 1 1106, 3144 1 1 1121, 3145 A 1 1109, 314F 15 1 1161, 3165 2 1 1114, 3167 2 1 11C7",
    "3169 1 1 11CC, 316A 1 1 11CE, 316B 1 1 11D3, 316C 1 1 11D7, 316D 1 1 11D9, 316E 1 1 111C",
    "316F 1 1 11DD, 3170 1 1 11DF, 3171 2 1 111D, 3173 1 1 1120, 3174 2 1 1122, 3176 1 1 1127",
    "3177 1 1 1129, 3178 5 1 112B, 317D 1 1 1132, 317E 1 1 1136, 317F 1 1 1140, 3180 1 1 1147",
    "3181 1 1 114C, 3182 2 1 11F1, 3184 3 1 1157, 3187 2 1 1184, 3189 1 1 1188, 318A 2 1 1191",
    "318C 1 1 1194, 318D 1 1 119E, 318E 1 1 11A1, 3192 1 1 4E00, 3193 1 1 4E8C, 3194 1 1 4E09",
    "3195 1 1 56DB, 3196 1 1 4E0A, 3197 1 1 4E2D, 3198 1 1 4E0B, 3199 1 1 7532, 319A 1 1 4E59",
    "319B 1 1 4E19, 319C 1 1 4E01, 319D 1 1 5929, 319E 1 1 5730, 319F 1 1 4EBA, 3244 1 1 554F",
    "3245 1 1 5E7C, 3246 1 1 6587, 3247 1 1 7B8F, 3260 1 1 1100, 3261 2 1 1102, 3263 3 1 1105",
    "3266 1 1 1109, 3267 2 1 110B, 3269 5 1 110E, 326E 1 1 AC00, 326F 1 1 B098, 3270 1 1 B2E4",
    "3271 1 1 B77C, 3272 1 1 B9C8, 3273 1 1 BC14, 3274 1 1 C0AC, 3275 1 1 C544, 3276 1 1 C790",
    "3277 1 1 CC28, 3278 1 1 CE74, 3279 1 1 D0C0, 327A 1 1 D30C, 327B 1 1 D558, 327E 1 1 C6B0",
    "3280 1 1 4E00, 3281 1 1 4E8C, 3282 1 1 4E09, 3283 1 1 56DB, 3284 1 1 4E94, 3285 1 1 516D",
    "3286 1 1 4E03, 3287 1 1 516B, 3288 1 1 4E5D, 3289 1 1 5341, 328A 1 1 6708, 328B 1 1 706B",
    "328C 1 1 6C34, 328D 1 1 6728, 328E 1 1 91D1, 328F 1 1 571F, 3290 1 1 65E5, 3291 1 1 682A",
    "3292 1 1 6709, 3293 1 1 793E, 3294 1 1 540D, 3295 1 1 7279, 3296 1 1 8CA1, 3297 1 1 795D",
    "3298 1 1 52B4, 3299 1 1 79D8, 329A 1 1 7537, 329B 1 1 5973, 329C 1 1 9069, 329D 1 1 512A",
    "329E 1 1 5370, 329F 1 1 6CE8, 32A0 1 1 9805, 32A1 1 1 4F11, 32A2 1 1 5199, 32A3 1 1 6B63",
    "32A4 1 1 4E0A, 32A5 1 1 4E2D, 32A6 1 1 4E0B, 32A7 1 1 5DE6, 32A8 1 1 53F3, 32A9 1 1 533B",
    "32AA 1 1 5B97, 32AB 1 1 5B66, 32AC 1 1 76E3, 32AD 1 1 4F01, 32AE 1 1 8CC7, 32AF 1 1 5354",
    "32B0 1 1 591C, 32D0 1 1 30A2, 32D1 1 1 30A4, 32D2 1 1 30A6, 32D3 1 1 30A8, 32D4 2 1 30AA",
    "32D6 1 1 30AD, 32D7 1 1 30AF, 32D8 1 1 30B1, 32D9 1 1 30B3, 32DA 1 1 30B5, 32DB 1 1 30B7",
    "32DC 1 1 30B9, 32DD 1 1 30BB, 32DE 1 1 30BD, 32DF 1 1 30BF, 32E0 1 1 30C1, 32E1 1 1 30C4",
    "32E2 1 1 30C6, 32E3 1 1 30C8, 32E4 6 1 30CA, 32EA 1 1 30D2, 32EB 1 1 30D5, 32EC 1 1 30D8",
    "32ED 1 1 30DB, 32EE 5 1 30DE, 32F3 1 1 30E4, 32F4 1 1 30E6, 32F5 6 1 30E8, 32FB 4 1 30EF",
    "A640 17 2 A641, A680 E 2 A681, A69C 1 1 44A, A69D 1 1 44C, A722 7 2 A723, A732 1F 2 A733",
    "A770 1 1 A76F, A779 2 2 A77A, A77D 1 1 1D79, A77E 5 2 A77F, A78B 1 1 A78C, A78D 1 1 265",
    "A790 2 2 A791, A796 A 2 A797, A7AA 1 1 266, A7AB 1 1 25C, A7AC 1 1 261, A7AD 1 1 26C",
    "A7AE 1 1 26A, A7B0 1 1 29E, A7B1 1 1 287, A7B2 1 1 29D, A7B3 1 1 AB53, A7B4 8 2 A7B5",
    "A7C4 1 1 A794, A7C5 1 1 282, A7C6 1 1 1D8E, A7C7 2 2 A7C8, A7D0 1 1 A7D1, A7D6 2 2 A7D7",
    "A7F2 1 1 63, A7F3 1 1 66, A7F4 1 1 71, A7F5 1 1 A7F6, A7F8 1 1 127, A7F9 1 1 153",
    "AB5C 1 1 A727, AB5D 1 1 AB37, AB5E 1 1 26B, AB5F 1 1 AB52, AB69 1 1 28D, AB70 50 1 13A0",
    "F900 1 1 8C48, F901 1 1 66F4, F902 1 1 8ECA, F903 1 1 8CC8, F904 1 1 6ED1, F905 1 1 4E32",
    "F906 1 1 53E5, F907 1 1 9F9C, F908 1 1 9F9C, F909 1 1 5951, F90A 1 1 91D1, F90B 1 1 5587",
    "F90C 1 1 5948, F90D 1 1 61F6, F90E 1 1 7669, F90F 1 1 7F85, F910 1 1 863F, F911 1 1 87BA",
    "F912 1 1 88F8, F913 1 1 908F, F914 1 1 6A02, F915 1 1 6D1B, F916 1 1 70D9, F917 1 1 73DE",
    "F918 1 1 843D, F919 1 1 916A, F91A 1 1 99F1, F91B 1 1 4E82, F91C 1 1 5375, F91D 1 1 6B04",
    "F91E 1 1 721B, F91F 1 1 862D, F920 1 1 9E1E, F921 1 1 5D50, F922 1 1 6FEB, F923 1 1 85CD",
    "F924 1 1 8964, F925 1 1 62C9, F926 1 1 81D8, F927 1 1 881F, F928 1 1 5ECA, F929 1 1 6717",
    "F92A 1 1 6D6A, F92B 1 1 72FC, F92C 1 1 90CE, F92D 1 1 4F86, F92E 1 1 51B7, F92F 1 1 52DE",
    "F930 1 1 64C4, F931 1 1 6AD3, F932 1 1 7210, F933 1 1 76E7, F934 1 1 8001, F935 1 1 8606",
    "F936 1 1 865C, F937 1 1 8DEF, F938 1 1 9732, F939 1 1 9B6F, F93A 1 1 9DFA, F93B 1 1 788C",
    "F93C 1 1 797F, F93D 1 1 7DA0, F93E 1 1 83C9, F93F 1 1 9304, F940 1 1 9E7F, F941 1 1 8AD6",
    "F942 1 1 58DF, F943 1 1 5F04, F944 1 1 7C60, F945 1 1 807E, F946 1 1 7262, F947 1 1 78CA",
    "F948 1 1 8CC2, F949 1 1 96F7, F94A 1 1 58D8, F94B 1 1 5C62, F94C 1 1 6A13, F94D 1 1 6DDA",
    "F94E 1 1 6F0F, F94F 1 1 7D2F, F950 1 1 7E37, F951 1 1 964B, F952 1 1 52D2, F953 1 1 808B",
    "F954 1 1 51DC, F955 1 1 51CC, F956 1 1 7A1C, F957 1 1 7DBE, F958 1 1 83F1, F959 1 1 9675",
    "F95A 1 1 8B80, F95B 1 1 62CF, F95C 1 1 6A02, F95D 1 1 8AFE, F95E 1 1 4E39, F95F 1 1 5BE7",
    "F960 1 1 6012, F961 1 1 7387, F962 1 1 7570, F963 1 1 5317, F964 1 1 78FB, F965 1 1 4FBF",
    "F966 1 1 5FA9, F967 1 1 4E0D, F968 1 1 6CCC, F969 1 1 6578, F96A 1 1 7D22, F96B 1 1 53C3",
    "F96C 1 1 585E, F96D 1 1 7701, F96E 1 1 8449, F96F 1 1 8AAA, F970 1 1 6BBA, F971 1 1 8FB0",
    "F972 1 1 6C88, F973 1 1 62FE, F974 1 1 82E5, F975 1 1 63A0, F976 1 1 7565, F977 1 1 4EAE",
    "F978 1 1 5169, F979 1 1 51C9, F97A 1 1 6881, F97B 1 1 7CE7, F97C 1 1 826F, F97D 1 1 8AD2",
    "F97E 1 1 91CF, F97F 1 1 52F5, F980 1 1 5442, F981 1 1 5973, F982 1 1 5EEC, F983 1 1 65C5",
    "F984 1 1 6FFE, F985 1 1 792A, F986 1 1 95AD, F987 1 1 9A6A, F988 1 1 9E97, F989 1 1 9ECE",
    "F98A 1 1 529B, F98B 1 1 66C6, F98C 1 1 6B77, F98D 1 1 8F62, F98E 1 1 5E74, F98F 1 1 6190",
    "F990 1 1 6200, F991 1 1 649A, F992 1 1 6F23, F993 1 1 7149, F994 1 1 7489, F995 1 1 79CA",
    "F996 1 1 7DF4, F997 1 1 806F, F998 1 1 8F26, F999 1 1 84EE, F99A 1 1 9023, F99B 1 1 934A",
    "F99C 1 1 5217, F99D 1 1 52A3, F99E 1 1 54BD, F99F 1 1 70C8, F9A0 1 1 88C2, F9A1 1 1 8AAA",
    "F9A2 1 1 5EC9, F9A3 1 1 5FF5, F9A4 1 1 637B, F9A5 1 1 6BAE, F9A6 1 1 7C3E, F9A7 1 1 7375",
    "F9A8 1 1 4EE4, F9A9 1 1 56F9, F9AA 1 1 5BE7, F9AB 1 1 5DBA, F9AC 1 1 601C, F9AD 1 1 73B2",
    "F9AE 1 1 7469, F9AF 1 1 7F9A, F9B0 1 1 8046, F9B1 1 1 9234, F9B2 1 1 96F6, F9B3 1 1 9748",
    "F9B4 1 1 9818, F9B5 1 1 4F8B, F9B6 1 1 79AE, F9B7 1 1 91B4, F9B8 1 1 96B8, F9B9 1 1 60E1",
    "F9BA 1 1 4E86, F9BB 1 1 50DA, F9BC 1 1 5BEE, F9BD 1 1 5C3F, F9BE 1 1 6599, F9BF 1 1 6A02",
    "F9C0 1 1 71CE, F9C1 1 1 7642, F9C2 1 1 84FC, F9C3 1 1 907C, F9C4 1 1 9F8D, F9C5 1 1 6688",
    "F9C6 1 1 962E, F9C7 1 1 5289, F9C8 1 1 677B, F9C9 1 1 67F3, F9CA 1 1 6D41, F9CB 1 1 6E9C",
    "F9CC 1 1 7409, F9CD 1 1 7559, F9CE 1 1 786B, F9CF 1 1 7D10, F9D0 1 1 985E, F9D1 1 1 516D",
    "F9D2 1 1 622E, F9D3 1 1 9678, F9D4 1 1 502B, F9D5 1 1 5D19, F9D6 1 1 6DEA, F9D7 1 1 8F2A",
    "F9D8 1 1 5F8B, F9D9 1 1 6144, F9DA 1 1 6817, F9DB 1 1 7387, F9DC 1 1 9686, F9DD 1 1 5229",
    "F9DE 1 1 540F, F9DF 1 1 5C65, F9E0 1 1 6613, F9E1 1 1 674E, F9E2 1 1 68A8, F9E3 1 1 6CE5",
    "F9E4 1 1 7406, F9E5 1 1 75E2, F9E6 1 1 7F79, F9E7 1 1 88CF, F9E8 1 1 88E1, F9E9 1 1 91CC",
    "F9EA 1 1 96E2, F9EB 1 1 533F, F9EC 1 1 6EBA, F9ED 1 1 541D, F9EE 1 1 71D0, F9EF 1 1 7498",
    "F9F0 1 1 85FA, F9F1 1 1 96A3, F9F2 1 1 9C57, F9F3 1 1 9E9F, F9F4 1 1 6797, F9F5 1 1 6DCB",
    "F9F6 1 1 81E8, F9F7 1 1 7ACB, F9F8 1 1 7B20, F9F9 1 1 7C92, F9FA 1 1 72C0, F9FB 1 1 7099",
    "F9FC 1 1 8B58, F9FD 1 1 4EC0, F9FE 1 1 8336, F9FF 1 1 523A, FA00 1 1 5207, FA01 1 1 5EA6",
    "FA02 1 1 62D3, FA03 1 1 7CD6, FA04 1 1 5B85, FA05 1 1 6D1E, FA06 1 1 66B4, FA07 1 1 8F3B",
    "FA08 1 1 884C, FA09 1 1 964D, FA0A 1 1 898B, FA0B 1 1 5ED3, FA0C 1 1 5140, FA0D 1 1 55C0",
    "FA10 1 1 585A, FA12 1 1 6674, FA15 1 1 51DE, FA16 1 1 732A, FA17 1 1 76CA, FA18 1 1 793C",
    "FA19 1 1 795E, FA1A 1 1 7965, FA1B 1 1 798F, FA1C 1 1 9756, FA1D 1 1 7CBE, FA1E 1 1 7FBD",
    "FA20 1 1 8612, FA22 1 1 8AF8, FA25 1 1 9038, FA26 1 1 90FD, FA2A 1 1 98EF, FA2B 1 1 98FC",
    "FA2C 1 1 9928, FA2D 1 1 9DB4, FA2E 1 1 90DE, FA2F 1 1 96B7, FA30 1 1 4FAE, FA31 1 1 50E7",
    "FA32 1 1 514D, FA33 1 1 52C9, FA34 1 1 52E4, FA35 1 1 5351, FA36 1 1 559D, FA37 1 1 5606",
    "FA38 1 1 5668, FA39 1 1 5840, FA3A 1 1 58A8, FA3B 1 1 5C64, FA3C 1 1 5C6E, FA3D 1 1 6094",
    "FA3E 1 1 6168, FA3F 1 1 618E, FA40 1 1 61F2, FA41 1 1 654F, FA42 1 1 65E2, FA43 1 1 6691",
    "FA44 1 1 6885, FA45 1 1 6D77, FA46 1 1 6E1A, FA47 1 1 6F22, FA48 1 1 716E, FA49 1 1 722B",
    "FA4A 1 1 7422, FA4B 1 1 7891, FA4C 1 1 793E, FA4D 1 1 7949, FA4E 1 1 7948, FA4F 1 1 7950",
    "FA50 1 1 7956, FA51 1 1 795D, FA52 2 1 798D, FA54 1 1 7A40, FA55 1 1 7A81, FA56 1 1 7BC0",
    "FA57 1 1 7DF4, FA58 1 1 7E09, FA59 1 1 7E41, FA5A 1 1 7F72, FA5B 1 1 8005, FA5C 1 1 81ED",
    "FA5D 1 1 8279, FA5E 1 1 8279, FA5F 1 1 8457, FA60 1 1 8910, FA61 1 1 8996, FA62 1 1 8B01",
    "FA63 1 1 8B39, FA64 1 1 8CD3, FA65 1 1 8D08, FA66 1 1 8FB6, FA67 1 1 9038, FA68 1 1 96E3",
    "FA69 1 1 97FF, FA6A 1 1 983B, FA6B 1 1 6075, FA6C 1 1 242EE, FA6D 1 1 8218, FA70 1 1 4E26",
    "FA71 1 1 51B5, FA72 1 1 5168, FA73 1 1 4F80, FA74 1 1 5145, FA75 1 1 5180, FA76 1 1 52C7",
    "FA77 1 1 52FA, FA78 1 1 559D, FA79 1 1 5555, FA7A 1 1 5599, FA7B 1 1 55E2, FA7C 1 1 585A",
    "FA7D 1 1 58B3, FA7E 1 1 5944, FA7F 1 1 5954, FA80 1 1 5A62, FA81 1 1 5B28, FA82 1 1 5ED2",
    "FA83 1 1 5ED9, FA84 1 1 5F69, FA85 1 1 5FAD, FA86 1 1 60D8, FA87 1 1 614E, FA88 1 1 6108",
    "FA89 1 1 618E, FA8A 1 1 6160, FA8B 1 1 61F2, FA8C 1 1 6234, FA8D 1 1 63C4, FA8E 1 1 641C",
    "FA8F 1 1 6452, FA90 1 1 6556, FA91 1 1 6674, FA92 1 1 6717, FA93 1 1 671B, FA94 1 1 6756",
    "FA95 1 1 6B79, FA96 1 1 6BBA, FA97 1 1 6D41, FA98 1 1 6EDB, FA99 1 1 6ECB, FA9A 1 1 6F22",
    "FA9B 1 1 701E, FA9C 1 1 716E, FA9D 1 1 77A7, FA9E 1 1 7235, FA9F 1 1 72AF, FAA0 1 1 732A",
    "FAA1 1 1 7471, FAA2 1 1 7506, FAA3 1 1 753B, FAA4 1 1 761D, FAA5 1 1 761F, FAA6 1 1 76CA",
    "FAA7 1 1 76DB, FAA8 1 1 76F4, FAA9 1 1 774A, FAAA 1 1 7740, FAAB 1 1 78CC, FAAC 1 1 7AB1",
    "FAAD 1 1 7BC0, FAAE 1 1 7C7B, FAAF 1 1 7D5B, FAB0 1 1 7DF4, FAB1 1 1 7F3E, FAB2 1 1 8005",
    "FAB3 1 1 8352, FAB4 1 1 83EF, FAB5 1 1 8779, FAB6 1 1 8941, FAB7 1 1 8986, FAB8 1 1 8996",
    "FAB9 1 1 8ABF, FABA 1 1 8AF8, FABB 1 1 8ACB, FABC 1 1 8B01, FABD 1 1 8AFE, FABE 1 1 8AED",
    "FABF 1 1 8B39, FAC0 1 1 8B8A, FAC1 1 1 8D08, FAC2 1 1 8F38, FAC3 1 1 9072, FAC4 1 1 9199",
    "FAC5 1 1 9276, FAC6 1 1 967C, FAC7 1 1 96E3, FAC8 1 1 9756, FAC9 1 1 97DB, FACA 1 1 97FF",
    "FACB 1 1 980B, FACC 1 1 983B, FACD 1 1 9B12, FACE 1 1 9F9C, FACF 1 1 2284A, FAD0 1 1 22844",
    "FAD1 1 1 233D5, FAD2 1 1 3B9D, FAD3 1 1 4018, FAD4 1 1 4039, FAD5 1 1 25249, FAD6 1 1 25CD0",
    "FAD7 1 1 27ED3, FAD8 1 1 9F43, FAD9 1 1 9F8E, FB20 1 1 5E2, FB21 1 1 5D0, FB22 2 1 5D3",
    "FB24 3 1 5DB, FB27 1 1 5E8, FB28 1 1 5EA, FB29 1 1 2B, FB50 1 1 671, FB51 1 1 671",
    "FB52 1 1 67B, FB53 1 1 67B, FB54 1 1 67B, FB55 1 1 67B, FB56 1 1 67E, FB57 1 1 67E",
    "FB58 2 2 67E, FB59 2 2 67E, FB5C 1 1 680, FB5D 1 1 680, FB5E 1 1 67A, FB5F 1 1 67A",
    "FB60 1 1 67A, FB61 1 1 67A, FB62 1 1 67F, FB63 1 1 67F, FB64 1 1 67F, FB65 1 1 67F",
    "FB66 1 1 679, FB67 1 1 679, FB68 1 1 679, FB69 1 1 679, FB6A 1 1 6A4, FB6B 1 1 6A4",
    "FB6C 2 2 6A4, FB6D 2 2 6A4, FB70 1 1 6A6, FB71 1 1 6A6, FB72 1 1 684, FB73 1 1 684",
    "FB74 1 1 684, FB75 1 1 684, FB76 1 1 683, FB77 1 1 683, FB78 1 1 683, FB79 1 1 683",
    "FB7A 1 1 686, FB7B 1 1 686, FB7C 1 1 686, FB7D 2 1 686, FB7F 1 1 687, FB80 1 1 687",
    "FB81 1 1 687, FB82 1 1 68D, FB83 1 1 68D, FB84 2 2 68C, FB85 2 2 68C, FB88 1 1 688",
    "FB89 1 1 688, FB8A 1 1 698, FB8B 1 1 698, FB8C 1 1 691, FB8D 1 1 691, FB8E 1 1 6A9",
    "FB8F 1 1 6A9, FB90 1 1 6A9, FB91 1 1 6A9, FB92 1 1 6AF, FB93 1 1 6AF, FB94 1 1 6AF",
    "FB95 1 1 6AF, FB96 1 1 6B3, FB97 1 1 6B3, FB98 1 1 6B3, FB99 1 1 6B3, FB9A 1 1 6B1",
    "FB9B 1 1 6B1, FB9C 1 1 6B1, FB9D 1 1 6B1, FB9E 1 1 6BA, FB9F 2 1 6BA, FBA1 1 1 6BB",
    "FBA2 1 1 6BB, FBA3 1 1 6BB, FBA4 1 1 6C0, FBA5 2 1 6C0, FBA7 1 1 6C1, FBA8 1 1 6C1",
    "FBA9 1 1 6C1, FBAA 1 1 6BE, FBAB 1 1 6BE, FBAC 1 1 6BE, FBAD 1 1 6BE, FBAE 1 1 6D2",
    "FBAF 2 1 6D2, FBB1 1 1 6D3, FBD3 1 1 6AD, FBD4 1 1 6AD, FBD5 1 1 6AD, FBD6 1 1 6AD",
    "FBD7 1 1 6C7, FBD8 1 1 6C7, FBD9 2 2 6C6, FBDA 2 2 6C6, FBDE 1 1 6CB, FBDF 1 1 6CB",
    "FBE0 1 1 6C5, FBE1 1 1 6C5, FBE2 1 1 6C9, FBE3 1 1 6C9, FBE4 1 1 6D0, FBE5 1 1 6D0",
    "FBE6 1 1 6D0, FBE7 1 1 6D0, FBE8 1 1 649, FBE9 1 1 649, FBFC 1 1 6CC, FBFD 1 1 6CC",
    "FBFE 1 1 6CC, FBFF 1 1 6CC, FE10 1 1 2C, FE11 2 1 3001, FE13 2 1 3A, FE15 1 1 21",
    "FE16 1 1 3F, FE17 2 1 3016, FE31 1 1 2014, FE32 1 1 2013, FE33 1 1 5F, FE34 1 1 5F",
    "FE35 2 1 28, FE37 1 1 7B, FE38 1 1 7D, FE39 2 1 3014, FE3B 2 1 3010, FE3D 2 1 300A",
    "FE3F 2 1 3008, FE41 4 1 300C, FE47 1 1 5B, FE48 1 1 5D, FE4D 1 1 5F, FE4E 1 1 5F",
    "FE4F 1 1 5F, FE50 1 1 2C, FE51 1 1 3001, FE54 1 1 3B, FE55 1 1 3A, FE56 1 1 3F, FE57 1 1 21",
    "FE58 1 1 2014, FE59 2 1 28, FE5B 1 1 7B, FE5C 1 1 7D, FE5D 2 1 3014, FE5F 1 1 23",
    "FE60 1 1 26, FE61 2 1 2A, FE63 1 1 2D, FE64 1 1 3C, FE65 1 1 3E, FE66 1 1 3D, FE68 1 1 5C",
    "FE69 2 1 24, FE6B 1 1 40, FE80 2 1 621, FE82 2 1 622, FE84 2 1 623, FE86 2 1 624",
    "FE88 2 1 625, FE8A 1 1 626, FE8B 1 1 626, FE8C 2 1 626, FE8E 2 1 627, FE90 1 1 628",
    "FE91 1 1 628, FE92 2 1 628, FE94 2 1 629, FE96 1 1 62A, FE97 1 1 62A, FE98 2 1 62A",
    "FE9A 1 1 62B, FE9B 1 1 62B, FE9C 2 1 62B, FE9E 1 1 62C, FE9F 1 1 62C, FEA0 2 1 62C",
    "FEA2 1 1 62D, FEA3 1 1 62D, FEA4 2 1 62D, FEA6 1 1 62E, FEA7 1 1 62E, FEA8 2 1 62E",
    "FEAA 2 1 62F, FEAC 2 1 630, FEAE 2 1 631, FEB0 2 1 632, FEB2 1 1 633, FEB3 1 1 633",
    "FEB4 2 1 633, FEB6 1 1 634, FEB7 1 1 634, FEB8 2 1 634, FEBA 1 1 635, FEBB 1 1 635",
    "FEBC 2 1 635, FEBE 1 1 636, FEBF 1 1 636, FEC0 2 1 636, FEC2 1 1 637, FEC3 1 1 637",
    "FEC4 2 1 637, FEC6 1 1 638, FEC7 1 1 638, FEC8 2 1 638, FECA 1 1 639, FECB 1 1 639",
    "FECC 2 1 639, FECE 1 1 63A, FECF 1 1 63A, FED0 1 1 63A, FED1 1 1 641, FED2 1 1 641",
    "FED3 1 1 641, FED4 2 1 641, FED6 1 1 642, FED7 1 1 642, FED8 2 1 642, FEDA 1 1 643",
    "FEDB 1 1 643, FEDC 2 1 643, FEDE 1 1 644, FEDF 1 1 644, FEE0 2 1 644, FEE2 1 1 645",
    "FEE3 1 1 645, FEE4 2 1 645, FEE6 1 1 646, FEE7 1 1 646, FEE8 2 1 646, FEEA 1 1 647",
    "FEEB 1 1 647, FEEC 2 1 647, FEEE 2 1 648, FEF0 2 1 649, FEF2 1 1 64A, FEF3 1 1 64A",
    "FEF4 1 1 64A, FF01 20 1 21, FF21 1A 1 61, FF3B 24 1 5B, FF5F 2 1 2985, FF61 1 1 2E",
    "FF62 2 1 300C, FF64 1 1 3001, FF65 1 1 30FB, FF66 1 1 30F2, FF67 1 1 30A1, FF68 1 1 30A3",
    "FF69 1 1 30A5, FF6A 1 1 30A7, FF6B 1 1 30A9, FF6C 1 1 30E3, FF6D 1 1 30E5, FF6E 1 1 30E7",
    "FF6F 1 1 30C3, FF70 1 1 30FC, FF71 1 1 30A2, FF72 1 1 30A4, FF73 1 1 30A6, FF74 1 1 30A8",
    "FF75 2 1 30AA, FF77 1 1 30AD, FF78 1 1 30AF, FF79 1 1 30B1, FF7A 1 1 30B3, FF7B 1 1 30B5",
    "FF7C 1 1 30B7, FF7D 1 1 30B9, FF7E 1 1 30BB, FF7F 1 1 30BD, FF80 1 1 30BF, FF81 1 1 30C1",
    "FF82 1 1 30C4, FF83 1 1 30C6, FF84 1 1 30C8, FF85 6 1 30CA, FF8B 1 1 30D2, FF8C 1 1 30D5",
    "FF8D 1 1 30D8, FF8E 1 1 30DB, FF8F 5 1 30DE, FF94 1 1 30E4, FF95 1 1 30E6, FF96 6 1 30E8",
    "FF9C 1 1 30EF, FF9D 1 1 30F3, FF9E 2 1 3099, FFA1 2 1 1100, FFA3 2 2 11AA, FFA4 1 1 1102",
    "FFA6 1 1 11AD, FFA7 3 1 1103, FFAA 6 1 11B0, FFB0 1 1 111A, FFB1 3 1 1106, FFB4 1 1 1121",
    "FFB5 A 1 1109, FFC2 6 1 1161, FFCA 6 1 1167, FFD2 6 1 116D, FFDA 3 1 1173, FFE0 2 1 A2",
    "FFE2 1 1 AC, FFE4 1 1 A6, FFE5 1 1 A5, FFE6 1 1 20A9, FFE8 1 1 2502, FFE9 4 1 2190",
    "FFED 1 1 25A0, FFEE 1 1 25CB, 10400 28 1 10428, 104B0 24 1 104D8, 10570 13 2 10597",
    "10571 5 2 10598, 1057D 7 2 105A4, 1058D 3 2 105B4, 10595 1 1 105BC, 10781 2 1 2D0",
    "10783 1 1 E6, 10784 1 1 299, 10785 1 1 253, 10787 2 2 2A3, 10788 1 1 AB66, 1078A 1 1 2A4",
    "1078B 2 1 256, 1078D 1 1 1D91, 1078E 1 1 258, 1078F 1 1 25E, 10790 1 1 2A9, 10791 1 1 264",
    "10792 1 1 262, 10793 1 1 260, 10794 1 1 29B, 10795 1 1 127, 10796 1 1 29C, 10797 1 1 267",
    "10798 1 1 284, 10799 2 1 2AA, 1079B 1 1 26C, 1079C 1 1 1DF04, 1079D 1 1 A78E, 1079E 1 1 26E",
    "1079F 1 1 1DF05, 107A0 1 1 28E, 107A1 1 1 1DF06, 107A2 1 1 F8, 107A3 2 1 276, 107A5 1 1 71",
    "107A6 1 1 27A, 107A7 1 1 1DF08, 107A8 2 1 27D, 107AA 1 1 280, 107AB 1 1 2A8, 107AC 1 1 2A6",
    "107AD 1 1 AB67, 107AE 1 1 2A7, 107AF 1 1 288, 107B0 1 1 2C71, 107B2 1 1 28F, 107B3 2 1 2A1",
    "107B5 1 1 298, 107B6 3 1 1C0, 107B9 1 1 1DF0A, 107BA 1 1 1DF1E, 10C80 33 1 10CC0",
    "118A0 20 1 118C0, 16E40 20 1 16E60, 1D400 1A 1 61, 1D41A 1A 1 61, 1D434 1A 1 61",
    "1D44E D 2 61, 1D44F 3 2 62, 1D457 9 2 6A, 1D468 1A 1 61, 1D482 1A 1 61, 1D49C 2 2 61",
    "1D49F 1 1 64, 1D4A2 1 1 67, 1D4A5 2 1 6A, 1D4A9 4 1 6E, 1D4AE 8 1 73, 1D4B6 4 1 61",
    "1D4BB B 2 66, 1D4BE 3 2 69, 1D4C6 5 2 71, 1D4D0 1A 1 61, 1D4EA 1A 1 61, 1D504 2 1 61",
    "1D507 4 1 64, 1D50D 8 1 6A, 1D516 7 1 73, 1D51E 1A 1 61, 1D538 2 1 61, 1D53B 4 1 64",
    "1D540 5 1 69, 1D546 1 1 6F, 1D54A 7 1 73, 1D552 1A 1 61, 1D56C 1A 1 61, 1D586 1A 1 61",
    "1D5A0 1A 1 61, 1D5BA 1A 1 61, 1D5D4 1A 1 61, 1D5EE 1A 1 61, 1D608 1A 1 61, 1D622 1A 1 61",
    "1D63C 1A 1 61, 1D656 1A 1 61, 1D670 1A 1 61, 1D68A 1A 1 61, 1D6A4 1 1 131, 1D6A5 1 1 237",
    "1D6A8 11 1 3B1, 1D6B9 1 1 3B8, 1D6BA 7 1 3C3, 1D6C1 1 1 2207, 1D6C2 11 1 3B1, 1D6D3 1 1 3C3",
    "1D6D4 7 1 3C3, 1D6DB 1 1 2202, 1D6DC 1 1 3B5, 1D6DD 1 1 3B8, 1D6DE 1 1 3BA, 1D6DF 1 1 3C6",
    "1D6E0 1 1 3C1, 1D6E1 1 1 3C0, 1D6E2 11 1 3B1, 1D6F3 1 1 3B8, 1D6F4 7 1 3C3, 1D6FB 1 1 2207",
    "1D6FC 11 1 3B1, 1D70D 1 1 3C3, 1D70E 7 1 3C3, 1D715 1 1 2202, 1D716 1 1 3B5, 1D717 1 1 3B8",
    "1D718 1 1 3BA, 1D719 1 1 3C6, 1D71A 1 1 3C1, 1D71B 1 1 3C0, 1D71C 11 1 3B1, 1D72D 1 1 3B8",
    "1D72E 7 1 3C3, 1D735 1 1 2207, 1D736 11 1 3B1, 1D747 1 1 3C3, 1D748 7 1 3C3, 1D74F 1 1 2202",
    "1D750 1 1 3B5, 1D751 1 1 3B8, 1D752 1 1 3BA, 1D753 1 1 3C6, 1D754 1 1 3C1, 1D755 1 1 3C0",
    "1D756 11 1 3B1, 1D767 1 1 3B8, 1D768 7 1 3C3, 1D76F 1 1 2207, 1D770 11 1 3B1, 1D781 1 1 3C3",
    "1D782 7 1 3C3, 1D789 1 1 2202, 1D78A 1 1 3B5, 1D78B 1 1 3B8, 1D78C 1 1 3BA, 1D78D 1 1 3C6",
    "1D78E 1 1 3C1, 1D78F 1 1 3C0, 1D790 11 1 3B1, 1D7A1 1 1 3B8, 1D7A2 7 1 3C3, 1D7A9 1 1 2207",
    "1D7AA 11 1 3B1, 1D7BB 1 1 3C3, 1D7BC 7 1 3C3, 1D7C3 1 1 2202, 1D7C4 1 1 3B5, 1D7C5 1 1 3B8",
    "1D7C6 1 1 3BA, 1D7C7 1 1 3C6, 1D7C8 1 1 3C1, 1D7C9 1 1 3C0, 1D7CA 1 1 3DD, 1D7CB 1 1 3DD",
    "1D7CE A 1 30, 1D7D8 A 1 30, 1D7E2 A 1 30, 1D7EC A 1 30, 1D7F6 A 1 30, 1E900 22 1 1E922",
    "1EE00 2 1 627, 1EE02 1 1 62C, 1EE03 1 1 62F, 1EE05 1 1 648, 1EE06 1 1 632, 1EE07 1 1 62D",
    "1EE08 1 1 637, 1EE09 1 1 64A, 1EE0A 4 1 643, 1EE0E 1 1 633, 1EE0F 1 1 639, 1EE10 1 1 641",
    "1EE11 1 1 635, 1EE12 1 1 642, 1EE13 1 1 631, 1EE14 1 1 634, 1EE15 2 1 62A, 1EE17 1 1 62E",
    "1EE18 1 1 630, 1EE19 1 1 636, 1EE1A 1 1 638, 1EE1B 1 1 63A, 1EE1C 1 1 66E, 1EE1D 1 1 6BA",
    "1EE1E 1 1 6A1, 1EE1F 1 1 66F, 1EE21 1 1 628, 1EE22 1 1 62C, 1EE24 1 1 647, 1EE27 1 1 62D",
    "1EE29 1 1 64A, 1EE2A 4 1 643, 1EE2E 1 1 633, 1EE2F 1 1 639, 1EE30 1 1 641, 1EE31 1 1 635",
    "1EE32 1 1 642, 1EE34 1 1 634, 1EE35 2 1 62A, 1EE37 1 1 62E, 1EE39 1 1 636, 1EE3B 1 1 63A",
    "1EE42 1 1 62C, 1EE47 1 1 62D, 1EE49 1 1 64A, 1EE4B 2 2 644, 1EE4E 1 1 633, 1EE4F 1 1 639",
    "1EE51 1 1 635, 1EE52 1 1 642, 1EE54 1 1 634, 1EE57 1 1 62E, 1EE59 1 1 636, 1EE5B 1 1 63A",
    "1EE5D 1 1 6BA, 1EE5F 1 1 66F, 1EE61 1 1 628, 1EE62 1 1 62C, 1EE64 1 1 647, 1EE67 1 1 62D",
    "1EE68 1 1 637, 1EE69 1 1 64A, 1EE6A 2 2 643, 1EE6D 1 1 646, 1EE6E 1 1 633, 1EE6F 1 1 639",
    "1EE70 1 1 641, 1EE71 1 1 635, 1EE72 1 1 642, 1EE74 1 1 634, 1EE75 2 1 62A, 1EE77 1 1 62E",
    "1EE79 1 1 636, 1EE7A 1 1 638, 1EE7B 1 1 63A, 1EE7C 1 1 66E, 1EE7E 1 1 6A1, 1EE80 2 1 627",
    "1EE82 1 1 62C, 1EE83 1 1 62F, 1EE84 2 1 647, 1EE86 1 1 632, 1EE87 1 1 62D, 1EE88 1 1 637",
    "1EE89 1 1 64A, 1EE8B 3 1 644, 1EE8E 1 1 633, 1EE8F 1 1 639, 1EE90 1 1 641, 1EE91 1 1 635",
    "1EE92 1 1 642, 1EE93 1 1 631, 1EE94 1 1 634, 1EE95 2 1 62A, 1EE97 1 1 62E, 1EE98 1 1 630",
    "1EE99 1 1 636, 1EE9A 1 1 638, 1EE9B 1 1 63A, 1EEA1 1 1 628, 1EEA2 1 1 62C, 1EEA3 1 1 62F",
    "1EEA5 1 1 648, 1EEA6 1 1 632, 1EEA7 1 1 62D, 1EEA8 1 1 637, 1EEA9 1 1 64A, 1EEAB 3 1 644",
    "1EEAE 1 1 633, 1EEAF 1 1 639, 1EEB0 1 1 641, 1EEB1 1 1 635, 1EEB2 1 1 642, 1EEB3 1 1 631",
    "1EEB4 1 1 634, 1EEB5 2 1 62A, 1EEB7 1 1 62E, 1EEB8 1 1 630, 1EEB9 1 1 636, 1EEBA 1 1 638",
    "1EEBB 1 1 63A, 1F12B 1 1 63, 1F12C 1 1 72, 1F130 1A 1 61, 1F202 1 1 30B5, 1F210 1 1 624B",
    "1F211 1 1 5B57, 1F212 1 1 53CC, 1F213 1 1 30C7, 1F214 1 1 4E8C, 1F215 1 1 591A",
    "1F216 1 1 89E3, 1F217 1 1 5929, 1F218 1 1 4EA4, 1F219 1 1 6620, 1F21A 1 1 7121",
    "1F21B 1 1 6599, 1F21C 1 1 524D, 1F21D 1 1 5F8C, 1F21E 1 1 518D, 1F21F 1 1 65B0",
    "1F220 1 1 521D, 1F221 1 1 7D42, 1F222 1 1 751F, 1F223 1 1 8CA9, 1F224 1 1 58F0",
    "1F225 1 1 5439, 1F226 1 1 6F14, 1F227 1 1 6295, 1F228 1 1 6355, 1F229 1 1 4E00",
    "1F22A 1 1 4E09, 1F22B 1 1 904A, 1F22C 1 1 5DE6, 1F22D 1 1 4E2D, 1F22E 1 1 53F3",
    "1F22F 1 1 6307, 1F230 1 1 8D70, 1F231 1 1 6253, 1F232 1 1 7981, 1F233 1 1 7A7A",
    "1F234 1 1 5408, 1F235 1 1 6E80, 1F236 1 1 6709, 1F237 1 1 6708, 1F238 1 1 7533",
    "1F239 1 1 5272, 1F23A 1 1 55B6, 1F23B 1 1 914D, 1F250 1 1 5F97, 1F251 1 1 53EF, 1FBF0 A 1 30",
    "2F800 1 1 4E3D, 2F801 1 1 4E38, 2F802 1 1 4E41, 2F803 1 1 20122, 2F804 1 1 4F60",
    "2F805 1 1 4FAE, 2F806 1 1 4FBB, 2F807 1 1 5002, 2F808 1 1 507A, 2F809 1 1 5099",
    "2F80A 1 1 50E7, 2F80B 1 1 50CF, 2F80C 1 1 349E, 2F80D 1 1 2063A, 2F80E 1 1 514D",
    "2F80F 1 1 5154, 2F810 1 1 5164, 2F811 1 1 5177, 2F812 1 1 2051C, 2F813 1 1 34B9",
    "2F814 1 1 5167, 2F815 1 1 518D, 2F816 1 1 2054B, 2F817 1 1 5197, 2F818 1 1 51A4",
    "2F819 1 1 4ECC, 2F81A 1 1 51AC, 2F81B 1 1 51B5, 2F81C 1 1 291DF, 2F81D 1 1 51F5",
    "2F81E 1 1 5203, 2F81F 1 1 34DF, 2F820 1 1 523B, 2F821 1 1 5246, 2F822 1 1 5272",
    "2F823 1 1 5277, 2F824 1 1 3515, 2F825 1 1 52C7, 2F826 1 1 52C9, 2F827 1 1 52E4",
    "2F828 1 1 52FA, 2F829 2 1 5305, 2F82B 1 1 5317, 2F82C 1 1 5349, 2F82D 1 1 5351",
    "2F82E 1 1 535A, 2F82F 1 1 5373, 2F830 2 2 537D, 2F831 1 1 537F, 2F833 1 1 537F",
    "2F834 1 1 20A2C, 2F835 1 1 7070, 2F836 1 1 53CA, 2F837 1 1 53DF, 2F838 1 1 20B63",
    "2F839 1 1 53EB, 2F83A 1 1 53F1, 2F83B 1 1 5406, 2F83C 1 1 549E, 2F83D 1 1 5438",
    "2F83E 1 1 5448, 2F83F 1 1 5468, 2F840 1 1 54A2, 2F841 1 1 54F6, 2F842 1 1 5510",
    "2F843 1 1 5553, 2F844 1 1 5563, 2F845 1 1 5584, 2F846 1 1 5584, 2F847 1 1 5599",
    "2F848 1 1 55AB, 2F849 1 1 55B3, 2F84A 1 1 55C2, 2F84B 1 1 5716, 2F84C 1 1 5606",
    "2F84D 1 1 5717, 2F84E 1 1 5651, 2F84F 1 1 5674, 2F850 1 1 5207, 2F851 1 1 58EE",
    "2F852 1 1 57CE, 2F853 1 1 57F4, 2F854 1 1 580D, 2F855 1 1 578B, 2F856 1 1 5832",
    "2F857 1 1 5831, 2F858 1 1 58AC, 2F859 1 1 214E4, 2F85A 1 1 58F2, 2F85B 1 1 58F7",
    "2F85C 1 1 5906, 2F85D 1 1 591A, 2F85E 1 1 5922, 2F85F 1 1 5962, 2F860 1 1 216A8",
    "2F861 1 1 216EA, 2F862 1 1 59EC, 2F863 1 1 5A1B, 2F864 1 1 5A27, 2F865 1 1 59D8",
    "2F866 1 1 5A66, 2F867 1 1 36EE, 2F868 1 1 36FC, 2F869 1 1 5B08, 2F86A 1 1 5B3E",
    "2F86B 1 1 5B3E, 2F86C 1 1 219C8, 2F86D 1 1 5BC3, 2F86E 1 1 5BD8, 2F86F 1 1 5BE7",
    "2F870 1 1 5BF3, 2F871 1 1 21B18, 2F872 1 1 5BFF, 2F873 1 1 5C06, 2F874 1 1 5F53",
    "2F875 1 1 5C22, 2F876 1 1 3781, 2F877 1 1 5C60, 2F878 1 1 5C6E, 2F879 1 1 5CC0",
    "2F87A 1 1 5C8D, 2F87B 2 2 21DE4, 2F87C 1 1 5D43, 2F87E 1 1 5D6E, 2F87F 1 1 5D6B",
    "2F880 1 1 5D7C, 2F881 2 1 5DE1, 2F883 1 1 382F, 2F884 1 1 5DFD, 2F885 1 1 5E28",
    "2F886 1 1 5E3D, 2F887 1 1 5E69, 2F888 1 1 3862, 2F889 1 1 22183, 2F88A 1 1 387C",
    "2F88B 1 1 5EB0, 2F88C 1 1 5EB3, 2F88D 1 1 5EB6, 2F88E 1 1 5ECA, 2F88F 1 1 2A392",
    "2F890 1 1 5EFE, 2F891 1 1 22331, 2F892 1 1 22331, 2F893 1 1 8201, 2F894 1 1 5F22",
    "2F895 1 1 5F22, 2F896 1 1 38C7, 2F897 1 1 232B8, 2F898 1 1 261DA, 2F899 1 1 5F62",
    "2F89A 1 1 5F6B, 2F89B 1 1 38E3, 2F89C 1 1 5F9A, 2F89D 1 1 5FCD, 2F89E 1 1 5FD7",
    "2F89F 1 1 5FF9, 2F8A0 1 1 6081, 2F8A1 1 1 393A, 2F8A2 1 1 391C, 2F8A3 1 1 6094",
    "2F8A4 1 1 226D4, 2F8A5 1 1 60C7, 2F8A6 1 1 6148, 2F8A7 1 1 614C, 2F8A8 1 1 614E",
    "2F8A9 1 1 614C, 2F8AA 1 1 617A, 2F8AB 1 1 618E, 2F8AC 1 1 61B2, 2F8AD 1 1 61A4",
    "2F8AE 1 1 61AF, 2F8AF 1 1 61DE, 2F8B0 1 1 61F2, 2F8B1 1 1 61F6, 2F8B2 1 1 6210",
    "2F8B3 1 1 621B, 2F8B4 1 1 625D, 2F8B5 1 1 62B1, 2F8B6 1 1 62D4, 2F8B7 1 1 6350",
    "2F8B8 1 1 22B0C, 2F8B9 1 1 633D, 2F8BA 1 1 62FC, 2F8BB 1 1 6368, 2F8BC 1 1 6383",
    "2F8BD 1 1 63E4, 2F8BE 1 1 22BF1, 2F8BF 1 1 6422, 2F8C0 1 1 63C5, 2F8C1 1 1 63A9",
    "2F8C2 1 1 3A2E, 2F8C3 1 1 6469, 2F8C4 1 1 647E, 2F8C5 1 1 649D, 2F8C6 1 1 6477",
    "2F8C7 1 1 3A6C, 2F8C8 1 1 654F, 2F8C9 1 1 656C, 2F8CA 1 1 2300A, 2F8CB 1 1 65E3",
    "2F8CC 1 1 66F8, 2F8CD 1 1 6649, 2F8CE 1 1 3B19, 2F8CF 1 1 6691, 2F8D0 1 1 3B08",
    "2F8D1 1 1 3AE4, 2F8D2 1 1 5192, 2F8D3 1 1 5195, 2F8D4 1 1 6700, 2F8D5 1 1 669C",
    "2F8D6 1 1 80AD, 2F8D7 1 1 43D9, 2F8D8 1 1 6717, 2F8D9 1 1 671B, 2F8DA 1 1 6721",
    "2F8DB 1 1 675E, 2F8DC 1 1 6753, 2F8DD 1 1 233C3, 2F8DE 1 1 3B49, 2F8DF 1 1 67FA",
    "2F8E0 1 1 6785, 2F8E1 1 1 6852, 2F8E2 1 1 6885, 2F8E3 1 1 2346D, 2F8E4 1 1 688E",
    "2F8E5 1 1 681F, 2F8E6 1 1 6914, 2F8E7 1 1 3B9D, 2F8E8 1 1 6942, 2F8E9 1 1 69A3",
    "2F8EA 1 1 69EA, 2F8EB 1 1 6AA8, 2F8EC 1 1 236A3, 2F8ED 1 1 6ADB, 2F8EE 1 1 3C18",
    "2F8EF 1 1 6B21, 2F8F0 1 1 238A7, 2F8F1 1 1 6B54, 2F8F2 1 1 3C4E, 2F8F3 1 1 6B72",
    "2F8F4 1 1 6B9F, 2F8F5 2 1 6BBA, 2F8F7 1 1 23A8D, 2F8F8 1 1 21D0B, 2F8F9 1 1 23AFA",
    "2F8FA 1 1 6C4E, 2F8FB 1 1 23CBC, 2F8FC 1 1 6CBF, 2F8FD 1 1 6CCD, 2F8FE 1 1 6C67",
    "2F8FF 1 1 6D16, 2F900 1 1 6D3E, 2F901 1 1 6D77, 2F902 1 1 6D41, 2F903 1 1 6D69",
    "2F904 1 1 6D78, 2F905 1 1 6D85, 2F906 1 1 23D1E, 2F907 1 1 6D34, 2F908 1 1 6E2F",
    "2F909 1 1 6E6E, 2F90A 1 1 3D33, 2F90B 1 1 6ECB, 2F90C 1 1 6EC7, 2F90D 1 1 23ED1",
    "2F90E 1 1 6DF9, 2F90F 1 1 6F6E, 2F910 1 1 23F5E, 2F911 1 1 23F8E, 2F912 1 1 6FC6",
    "2F913 1 1 7039, 2F914 1 1 701E, 2F915 1 1 701B, 2F916 1 1 3D96, 2F917 1 1 704A",
    "2F918 1 1 707D, 2F919 1 1 7077, 2F91A 1 1 70AD, 2F91B 1 1 20525, 2F91C 1 1 7145",
    "2F91D 1 1 24263, 2F91E 1 1 719C, 2F91F 1 1 243AB, 2F920 1 1 7228, 2F921 1 1 7235",
    "2F922 1 1 7250, 2F923 1 1 24608, 2F924 1 1 7280, 2F925 1 1 7295, 2F926 1 1 24735",
    "2F927 1 1 24814, 2F928 1 1 737A, 2F929 1 1 738B, 2F92A 1 1 3EAC, 2F92B 1 1 73A5",
    "2F92C 1 1 3EB8, 2F92D 1 1 3EB8, 2F92E 1 1 7447, 2F92F 1 1 745C, 2F930 1 1 7471",
    "2F931 1 1 7485, 2F932 1 1 74CA, 2F933 1 1 3F1B, 2F934 1 1 7524, 2F935 1 1 24C36",
    "2F936 1 1 753E, 2F937 1 1 24C92, 2F938 1 1 7570, 2F939 1 1 2219F, 2F93A 1 1 7610",
    "2F93B 1 1 24FA1, 2F93C 1 1 24FB8, 2F93D 1 1 25044, 2F93E 1 1 3FFC, 2F93F 1 1 4008",
    "2F940 1 1 76F4, 2F941 1 1 250F3, 2F942 1 1 250F2, 2F943 1 1 25119, 2F944 1 1 25133",
    "2F945 2 1 771E, 2F947 1 1 771F, 2F948 1 1 774A, 2F949 1 1 4039, 2F94A 1 1 778B",
    "2F94B 1 1 4046, 2F94C 1 1 4096, 2F94D 1 1 2541D, 2F94E 1 1 784E, 2F94F 1 1 788C",
    "2F950 1 1 78CC, 2F951 1 1 40E3, 2F952 1 1 25626, 2F953 1 1 7956, 2F954 1 1 2569A",
    "2F955 1 1 256C5, 2F956 1 1 798F, 2F957 1 1 79EB, 2F958 1 1 412F, 2F959 1 1 7A40",
    "2F95A 1 1 7A4A, 2F95B 1 1 7A4F, 2F95C 1 1 2597C, 2F95D 1 1 25AA7, 2F95E 1 1 25AA7",
    "2F95F 1 1 7AEE, 2F960 1 1 4202, 2F961 1 1 25BAB, 2F962 1 1 7BC6, 2F963 1 1 7BC9",
    "2F964 1 1 4227, 2F965 1 1 25C80, 2F966 1 1 7CD2, 2F967 1 1 42A0, 2F968 1 1 7CE8",
    "2F969 1 1 7CE3, 2F96A 1 1 7D00, 2F96B 1 1 25F86, 2F96C 1 1 7D63, 2F96D 1 1 4301",
    "2F96E 1 1 7DC7, 2F96F 1 1 7E02, 2F970 1 1 7E45, 2F971 1 1 4334, 2F972 1 1 26228",
    "2F973 1 1 26247, 2F974 1 1 4359, 2F975 1 1 262D9, 2F976 1 1 7F7A, 2F977 1 1 2633E",
    "2F978 1 1 7F95, 2F979 1 1 7FFA, 2F97A 1 1 8005, 2F97B 1 1 264DA, 2F97C 1 1 26523",
    "2F97D 1 1 8060, 2F97E 1 1 265A8, 2F97F 1 1 8070, 2F980 1 1 2335F, 2F981 1 1 43D5",
    "2F982 1 1 80B2, 2F983 1 1 8103, 2F984 1 1 440B, 2F985 1 1 813E, 2F986 1 1 5AB5",
    "2F987 1 1 267A7, 2F988 1 1 267B5, 2F989 1 1 23393, 2F98A 1 1 2339C, 2F98B 1 1 8201",
    "2F98C 1 1 8204, 2F98D 1 1 8F9E, 2F98E 1 1 446B, 2F98F 1 1 8291, 2F990 1 1 828B",
    "2F991 1 1 829D, 2F992 1 1 52B3, 2F993 1 1 82B1, 2F994 1 1 82B3, 2F995 1 1 82BD",
    "2F996 1 1 82E6, 2F997 1 1 26B3C, 2F998 1 1 82E5, 2F999 1 1 831D, 2F99A 1 1 8363",
    "2F99B 1 1 83AD, 2F99C 1 1 8323, 2F99D 1 1 83BD, 2F99E 1 1 83E7, 2F99F 1 1 8457",
    "2F9A0 1 1 8353, 2F9A1 1 1 83CA, 2F9A2 1 1 83CC, 2F9A3 1 1 83DC, 2F9A4 1 1 26C36",
    "2F9A5 1 1 26D6B, 2F9A6 1 1 26CD5, 2F9A7 1 1 452B, 2F9A8 1 1 84F1, 2F9A9 1 1 84F3",
    "2F9AA 1 1 8516, 2F9AB 1 1 273CA, 2F9AC 1 1 8564, 2F9AD 1 1 26F2C, 2F9AE 1 1 455D",
    "2F9AF 1 1 4561, 2F9B0 1 1 26FB1, 2F9B1 1 1 270D2, 2F9B2 1 1 456B, 2F9B3 1 1 8650",
    "2F9B4 1 1 865C, 2F9B5 1 1 8667, 2F9B6 1 1 8669, 2F9B7 1 1 86A9, 2F9B8 1 1 8688",
    "2F9B9 1 1 870E, 2F9BA 1 1 86E2, 2F9BB 1 1 8779, 2F9BC 1 1 8728, 2F9BD 1 1 876B",
    "2F9BE 1 1 8786, 2F9BF 1 1 45D7, 2F9C0 1 1 87E1, 2F9C1 1 1 8801, 2F9C2 1 1 45F9",
    "2F9C3 1 1 8860, 2F9C4 1 1 8863, 2F9C5 1 1 27667, 2F9C6 1 1 88D7, 2F9C7 1 1 88DE",
    "2F9C8 1 1 4635, 2F9C9 1 1 88FA, 2F9CA 1 1 34BB, 2F9CB 1 1 278AE, 2F9CC 1 1 27966",
    "2F9CD 1 1 46BE, 2F9CE 1 1 46C7, 2F9CF 1 1 8AA0, 2F9D0 1 1 8AED, 2F9D1 1 1 8B8A",
    "2F9D2 1 1 8C55, 2F9D3 1 1 27CA8, 2F9D4 1 1 8CAB, 2F9D5 1 1 8CC1, 2F9D6 1 1 8D1B",
    "2F9D7 1 1 8D77, 2F9D8 1 1 27F2F, 2F9D9 1 1 20804, 2F9DA 1 1 8DCB, 2F9DB 1 1 8DBC",
    "2F9DC 1 1 8DF0, 2F9DD 1 1 208DE, 2F9DE 1 1 8ED4, 2F9DF 1 1 8F38, 2F9E0 1 1 285D2",
    "2F9E1 1 1 285ED, 2F9E2 1 1 9094, 2F9E3 1 1 90F1, 2F9E4 1 1 9111, 2F9E5 1 1 2872E",
    "2F9E6 1 1 911B, 2F9E7 1 1 9238, 2F9E8 2 1 92D7, 2F9EA 1 1 927C, 2F9EB 1 1 93F9",
    "2F9EC 1 1 9415, 2F9ED 1 1 28BFA, 2F9EE 1 1 958B, 2F9EF 1 1 4995, 2F9F0 1 1 95B7",
    "2F9F1 1 1 28D77, 2F9F2 1 1 49E6, 2F9F3 1 1 96C3, 2F9F4 1 1 5DB2, 2F9F5 1 1 9723",
    "2F9F6 1 1 29145, 2F9F7 1 1 2921A, 2F9F8 1 1 4A6E, 2F9F9 1 1 4A76, 2F9FA 1 1 97E0",
    "2F9FB 1 1 2940A, 2F9FC 1 1 4AB2, 2F9FD 1 1 29496, 2F9FE 1 1 980B, 2F9FF 1 1 980B",
    "2FA00 1 1 9829, 2FA01 1 1 295B6, 2FA02 1 1 98E2, 2FA03 1 1 4B33, 2FA04 1 1 9929",
    "2FA05 1 1 99A7, 2FA06 1 1 99C2, 2FA07 1 1 99FE, 2FA08 1 1 4BCE, 2FA09 1 1 29B30",
    "2FA0A 1 1 9B12, 2FA0B 1 1 9C40, 2FA0C 1 1 9CFD, 2FA0D 1 1 4CCE, 2FA0E 1 1 4CED",
    "2FA0F 1 1 9D67, 2FA10 1 1 2A0CE, 2FA11 1 1 4CF8, 2FA12 1 1 2A105, 2FA13 1 1 2A20E",
    "2FA14 1 1 2A291, 2FA15 1 1 9EBB, 2FA16 1 1 4D56, 2FA17 1 1 9EF9, 2FA18 1 1 9EFE",
    "2FA19 1 1 9F05, 2FA1A 1 1 9F0F, 2FA1B 1 1 9F16, 2FA1C 1 1 9F3B, 2FA1D 1 1 2A600"]

/-- Characters that become several others. -/
def expansions : List String :=
  ["A8 20 308, AF 20 304, B4 20 301, B8 20 327, BC 31 2044 34, BD 31 2044 32, BE 33 2044 34",
    "130 69 307, 132 69 6A, 133 69 6A, 13F 6C B7, 140 6C B7, 149 2BC 6E, 1C4 64 17E, 1C5 64 17E",
    "1C6 64 17E, 1C7 6C 6A, 1C8 6C 6A, 1C9 6C 6A, 1CA 6E 6A, 1CB 6E 6A, 1CC 6E 6A, 1F1 64 7A",
    "1F2 64 7A, 1F3 64 7A, 2D8 20 306, 2D9 20 307, 2DA 20 30A, 2DB 20 328, 2DC 20 303, 2DD 20 30B",
    "344 308 301, 37A 20 3B9, 384 20 301, 385 20 308 301, 587 565 582, 675 627 674, 676 648 674",
    "677 6C7 674, 678 64A 674, 958 915 93C, 959 916 93C, 95A 917 93C, 95B 91C 93C, 95C 921 93C",
    "95D 922 93C, 95E 92B 93C, 95F 92F 93C, 9DC 9A1 9BC, 9DD 9A2 9BC, 9DF 9AF 9BC, A33 A32 A3C",
    "A36 A38 A3C, A59 A16 A3C, A5A A17 A3C, A5B A1C A3C, A5E A2B A3C, B5C B21 B3C, B5D B22 B3C",
    "E33 E4D E32, EB3 ECD EB2, EDC EAB E99, EDD EAB EA1, F43 F42 FB7, F4D F4C FB7, F52 F51 FB7",
    "F57 F56 FB7, F5C F5B FB7, F69 F40 FB5, F73 F71 F72, F75 F71 F74, F76 FB2 F80",
    "F77 FB2 F71 F80, F78 FB3 F80, F79 FB3 F71 F80, F81 F71 F80, F93 F92 FB7, F9D F9C FB7",
    "FA2 FA1 FB7, FA7 FA6 FB7, FAC FAB FB7, FB9 F90 FB5, 1E9A 61 2BE, 1F80 1F00 3B9",
    "1F81 1F01 3B9, 1F82 1F02 3B9, 1F83 1F03 3B9, 1F84 1F04 3B9, 1F85 1F05 3B9, 1F86 1F06 3B9",
    "1F87 1F07 3B9, 1F88 1F00 3B9, 1F89 1F01 3B9, 1F8A 1F02 3B9, 1F8B 1F03 3B9, 1F8C 1F04 3B9",
    "1F8D 1F05 3B9, 1F8E 1F06 3B9, 1F8F 1F07 3B9, 1F90 1F20 3B9, 1F91 1F21 3B9, 1F92 1F22 3B9",
    "1F93 1F23 3B9, 1F94 1F24 3B9, 1F95 1F25 3B9, 1F96 1F26 3B9, 1F97 1F27 3B9, 1F98 1F20 3B9",
    "1F99 1F21 3B9, 1F9A 1F22 3B9, 1F9B 1F23 3B9, 1F9C 1F24 3B9, 1F9D 1F25 3B9, 1F9E 1F26 3B9",
    "1F9F 1F27 3B9, 1FA0 1F60 3B9, 1FA1 1F61 3B9, 1FA2 1F62 3B9, 1FA3 1F63 3B9, 1FA4 1F64 3B9",
    "1FA5 1F65 3B9, 1FA6 1F66 3B9, 1FA7 1F67 3B9, 1FA8 1F60 3B9, 1FA9 1F61 3B9, 1FAA 1F62 3B9",
    "1FAB 1F63 3B9, 1FAC 1F64 3B9, 1FAD 1F65 3B9, 1FAE 1F66 3B9, 1FAF 1F67 3B9, 1FB2 1F70 3B9",
    "1FB3 3B1 3B9, 1FB4 3AC 3B9, 1FB7 1FB6 3B9, 1FBC 3B1 3B9, 1FBD 20 313, 1FBF 20 313",
    "1FC0 20 342, 1FC1 20 308 342, 1FC2 1F74 3B9, 1FC3 3B7 3B9, 1FC4 3AE 3B9, 1FC7 1FC6 3B9",
    "1FCC 3B7 3B9, 1FCD 20 313 300, 1FCE 20 313 301, 1FCF 20 313 342, 1FDD 20 314 300",
    "1FDE 20 314 301, 1FDF 20 314 342, 1FED 20 308 300, 1FEE 20 308 301, 1FF2 1F7C 3B9",
    "1FF3 3C9 3B9, 1FF4 3CE 3B9, 1FF7 1FF6 3B9, 1FFC 3C9 3B9, 1FFD 20 301, 1FFE 20 314",
    "2017 20 333, 2033 2032 2032, 2034 2032 2032 2032, 2036 2035 2035, 2037 2035 2035 2035",
    "203C 21 21, 203E 20 305, 2047 3F 3F, 2048 3F 21, 2049 21 3F, 2057 2032 2032 2032 2032",
    "20A8 72 73, 2100 61 2F 63, 2101 61 2F 73, 2103 B0 63, 2105 63 2F 6F, 2106 63 2F 75",
    "2109 B0 66, 2116 6E 6F, 2120 73 6D, 2121 74 65 6C, 2122 74 6D, 213B 66 61 78",
    "2150 31 2044 37, 2151 31 2044 39, 2152 31 2044 31 30, 2153 31 2044 33, 2154 32 2044 33",
    "2155 31 2044 35, 2156 32 2044 35, 2157 33 2044 35, 2158 34 2044 35, 2159 31 2044 36",
    "215A 35 2044 36, 215B 31 2044 38, 215C 33 2044 38, 215D 35 2044 38, 215E 37 2044 38",
    "215F 31 2044, 2161 69 69, 2162 69 69 69, 2163 69 76, 2165 76 69, 2166 76 69 69",
    "2167 76 69 69 69, 2168 69 78, 216A 78 69, 216B 78 69 69, 2171 69 69, 2172 69 69 69",
    "2173 69 76, 2175 76 69, 2176 76 69 69, 2177 76 69 69 69, 2178 69 78, 217A 78 69",
    "217B 78 69 69, 2189 30 2044 33, 222C 222B 222B, 222D 222B 222B 222B, 222F 222E 222E",
    "2230 222E 222E 222E, 2469 31 30, 246A 31 31, 246B 31 32, 246C 31 33, 246D 31 34, 246E 31 35",
    "246F 31 36, 2470 31 37, 2471 31 38, 2472 31 39, 2473 32 30, 2474 28 31 29, 2475 28 32 29",
    "2476 28 33 29, 2477 28 34 29, 2478 28 35 29, 2479 28 36 29, 247A 28 37 29, 247B 28 38 29",
    "247C 28 39 29, 247D 28 31 30 29, 247E 28 31 31 29, 247F 28 31 32 29, 2480 28 31 33 29",
    "2481 28 31 34 29, 2482 28 31 35 29, 2483 28 31 36 29, 2484 28 31 37 29, 2485 28 31 38 29",
    "2486 28 31 39 29, 2487 28 32 30 29, 249C 28 61 29, 249D 28 62 29, 249E 28 63 29",
    "249F 28 64 29, 24A0 28 65 29, 24A1 28 66 29, 24A2 28 67 29, 24A3 28 68 29, 24A4 28 69 29",
    "24A5 28 6A 29, 24A6 28 6B 29, 24A7 28 6C 29, 24A8 28 6D 29, 24A9 28 6E 29, 24AA 28 6F 29",
    "24AB 28 70 29, 24AC 28 71 29, 24AD 28 72 29, 24AE 28 73 29, 24AF 28 74 29, 24B0 28 75 29",
    "24B1 28 76 29, 24B2 28 77 29, 24B3 28 78 29, 24B4 28 79 29, 24B5 28 7A 29",
    "2A0C 222B 222B 222B 222B, 2A74 3A 3A 3D, 2A75 3D 3D, 2A76 3D 3D 3D, 2ADC 2ADD 338",
    "309B 20 3099, 309C 20 309A, 309F 3088 308A, 30FF 30B3 30C8, 3200 28 1100 29, 3201 28 1102 29",
    "3202 28 1103 29, 3203 28 1105 29, 3204 28 1106 29, 3205 28 1107 29, 3206 28 1109 29",
    "3207 28 110B 29, 3208 28 110C 29, 3209 28 110E 29, 320A 28 110F 29, 320B 28 1110 29",
    "320C 28 1111 29, 320D 28 1112 29, 320E 28 AC00 29, 320F 28 B098 29, 3210 28 B2E4 29",
    "3211 28 B77C 29, 3212 28 B9C8 29, 3213 28 BC14 29, 3214 28 C0AC 29, 3215 28 C544 29",
    "3216 28 C790 29, 3217 28 CC28 29, 3218 28 CE74 29, 3219 28 D0C0 29, 321A 28 D30C 29",
    "321B 28 D558 29, 321C 28 C8FC 29, 321D 28 C624 C804 29, 321E 28 C624 D6C4 29",
    "3220 28 4E00 29, 3221 28 4E8C 29, 3222 28 4E09 29, 3223 28 56DB 29, 3224 28 4E94 29",
    "3225 28 516D 29, 3226 28 4E03 29, 3227 28 516B 29, 3228 28 4E5D 29, 3229 28 5341 29",
    "322A 28 6708 29, 322B 28 706B 29, 322C 28 6C34 29, 322D 28 6728 29, 322E 28 91D1 29",
    "322F 28 571F 29, 3230 28 65E5 29, 3231 28 682A 29, 3232 28 6709 29, 3233 28 793E 29",
    "3234 28 540D 29, 3235 28 7279 29, 3236 28 8CA1 29, 3237 28 795D 29, 3238 28 52B4 29",
    "3239 28 4EE3 29, 323A 28 547C 29, 323B 28 5B66 29, 323C 28 76E3 29, 323D 28 4F01 29",
    "323E 28 8CC7 29, 323F 28 5354 29, 3240 28 796D 29, 3241 28 4F11 29, 3242 28 81EA 29",
    "3243 28 81F3 29, 3250 70 74 65, 3251 32 31, 3252 32 32, 3253 32 33, 3254 32 34, 3255 32 35",
    "3256 32 36, 3257 32 37, 3258 32 38, 3259 32 39, 325A 33 30, 325B 33 31, 325C 33 32",
    "325D 33 33, 325E 33 34, 325F 33 35, 327C CC38 ACE0, 327D C8FC C758, 32B1 33 36, 32B2 33 37",
    "32B3 33 38, 32B4 33 39, 32B5 34 30, 32B6 34 31, 32B7 34 32, 32B8 34 33, 32B9 34 34",
    "32BA 34 35, 32BB 34 36, 32BC 34 37, 32BD 34 38, 32BE 34 39, 32BF 35 30, 32C0 31 6708",
    "32C1 32 6708, 32C2 33 6708, 32C3 34 6708, 32C4 35 6708, 32C5 36 6708, 32C6 37 6708",
    "32C7 38 6708, 32C8 39 6708, 32C9 31 30 6708, 32CA 31 31 6708, 32CB 31 32 6708, 32CC 68 67",
    "32CD 65 72 67, 32CE 65 76, 32CF 6C 74 64, 32FF 4EE4 548C, 3300 30A2 30D1 30FC 30C8",
    "3301 30A2 30EB 30D5 30A1, 3302 30A2 30F3 30DA 30A2, 3303 30A2 30FC 30EB",
    "3304 30A4 30CB 30F3 30B0, 3305 30A4 30F3 30C1, 3306 30A6 30A9 30F3",
    "3307 30A8 30B9 30AF 30FC 30C9, 3308 30A8 30FC 30AB 30FC, 3309 30AA 30F3 30B9",
    "330A 30AA 30FC 30E0, 330B 30AB 30A4 30EA, 330C 30AB 30E9 30C3 30C8, 330D 30AB 30ED 30EA 30FC",
    "330E 30AC 30ED 30F3, 330F 30AC 30F3 30DE, 3310 30AE 30AC, 3311 30AE 30CB 30FC",
    "3312 30AD 30E5 30EA 30FC, 3313 30AE 30EB 30C0 30FC, 3314 30AD 30ED",
    "3315 30AD 30ED 30B0 30E9 30E0, 3316 30AD 30ED 30E1 30FC 30C8 30EB",
    "3317 30AD 30ED 30EF 30C3 30C8, 3318 30B0 30E9 30E0, 3319 30B0 30E9 30E0 30C8 30F3",
    "331A 30AF 30EB 30BC 30A4 30ED, 331B 30AF 30ED 30FC 30CD, 331C 30B1 30FC 30B9",
    "331D 30B3 30EB 30CA, 331E 30B3 30FC 30DD, 331F 30B5 30A4 30AF 30EB",
    "3320 30B5 30F3 30C1 30FC 30E0, 3321 30B7 30EA 30F3 30B0, 3322 30BB 30F3 30C1",
    "3323 30BB 30F3 30C8, 3324 30C0 30FC 30B9, 3325 30C7 30B7, 3326 30C9 30EB, 3327 30C8 30F3",
    "3328 30CA 30CE, 3329 30CE 30C3 30C8, 332A 30CF 30A4 30C4, 332B 30D1 30FC 30BB 30F3 30C8",
    "332C 30D1 30FC 30C4, 332D 30D0 30FC 30EC 30EB, 332E 30D4 30A2 30B9 30C8 30EB",
    "332F 30D4 30AF 30EB, 3330 30D4 30B3, 3331 30D3 30EB, 3332 30D5 30A1 30E9 30C3 30C9",
    "3333 30D5 30A3 30FC 30C8, 3334 30D6 30C3 30B7 30A7 30EB, 3335 30D5 30E9 30F3",
    "3336 30D8 30AF 30BF 30FC 30EB, 3337 30DA 30BD, 3338 30DA 30CB 30D2, 3339 30D8 30EB 30C4",
    "333A 30DA 30F3 30B9, 333B 30DA 30FC 30B8, 333C 30D9 30FC 30BF, 333D 30DD 30A4 30F3 30C8",
    "333E 30DC 30EB 30C8, 333F 30DB 30F3, 3340 30DD 30F3 30C9, 3341 30DB 30FC 30EB",
    "3342 30DB 30FC 30F3, 3343 30DE 30A4 30AF 30ED, 3344 30DE 30A4 30EB, 3345 30DE 30C3 30CF",
    "3346 30DE 30EB 30AF, 3347 30DE 30F3 30B7 30E7 30F3, 3348 30DF 30AF 30ED 30F3, 3349 30DF 30EA",
    "334A 30DF 30EA 30D0 30FC 30EB, 334B 30E1 30AC, 334C 30E1 30AC 30C8 30F3",
    "334D 30E1 30FC 30C8 30EB, 334E 30E4 30FC 30C9, 334F 30E4 30FC 30EB, 3350 30E6 30A2 30F3",
    "3351 30EA 30C3 30C8 30EB, 3352 30EA 30E9, 3353 30EB 30D4 30FC, 3354 30EB 30FC 30D6 30EB",
    "3355 30EC 30E0, 3356 30EC 30F3 30C8 30B2 30F3, 3357 30EF 30C3 30C8, 3358 30 70B9",
    "3359 31 70B9, 335A 32 70B9, 335B 33 70B9, 335C 34 70B9, 335D 35 70B9, 335E 36 70B9",
    "335F 37 70B9, 3360 38 70B9, 3361 39 70B9, 3362 31 30 70B9, 3363 31 31 70B9, 3364 31 32 70B9",
    "3365 31 33 70B9, 3366 31 34 70B9, 3367 31 35 70B9, 3368 31 36 70B9, 3369 31 37 70B9",
    "336A 31 38 70B9, 336B 31 39 70B9, 336C 32 30 70B9, 336D 32 31 70B9, 336E 32 32 70B9",
    "336F 32 33 70B9, 3370 32 34 70B9, 3371 68 70 61, 3372 64 61, 3373 61 75, 3374 62 61 72",
    "3375 6F 76, 3376 70 63, 3377 64 6D, 3378 64 6D 32, 3379 64 6D 33, 337A 69 75, 337B 5E73 6210",
    "337C 662D 548C, 337D 5927 6B63, 337E 660E 6CBB, 337F 682A 5F0F 4F1A 793E, 3380 70 61",
    "3381 6E 61, 3382 3BC 61, 3383 6D 61, 3384 6B 61, 3385 6B 62, 3386 6D 62, 3387 67 62",
    "3388 63 61 6C, 3389 6B 63 61 6C, 338A 70 66, 338B 6E 66, 338C 3BC 66, 338D 3BC 67",
    "338E 6D 67, 338F 6B 67, 3390 68 7A, 3391 6B 68 7A, 3392 6D 68 7A, 3393 67 68 7A",
    "3394 74 68 7A, 3395 3BC 6C, 3396 6D 6C, 3397 64 6C, 3398 6B 6C, 3399 66 6D, 339A 6E 6D",
    "339B 3BC 6D, 339C 6D 6D, 339D 63 6D, 339E 6B 6D, 339F 6D 6D 32, 33A0 63 6D 32, 33A1 6D 32",
    "33A2 6B 6D 32, 33A3 6D 6D 33, 33A4 63 6D 33, 33A5 6D 33, 33A6 6B 6D 33, 33A7 6D 2215 73",
    "33A8 6D 2215 73 32, 33A9 70 61, 33AA 6B 70 61, 33AB 6D 70 61, 33AC 67 70 61, 33AD 72 61 64",
    "33AE 72 61 64 2215 73, 33AF 72 61 64 2215 73 32, 33B0 70 73, 33B1 6E 73, 33B2 3BC 73",
    "33B3 6D 73, 33B4 70 76, 33B5 6E 76, 33B6 3BC 76, 33B7 6D 76, 33B8 6B 76, 33B9 6D 76",
    "33BA 70 77, 33BB 6E 77, 33BC 3BC 77, 33BD 6D 77, 33BE 6B 77, 33BF 6D 77, 33C0 6B 3C9",
    "33C1 6D 3C9, 33C3 62 71, 33C4 63 63, 33C5 63 64, 33C6 63 2215 6B 67, 33C8 64 62, 33C9 67 79",
    "33CA 68 61, 33CB 68 70, 33CC 69 6E, 33CD 6B 6B, 33CE 6B 6D, 33CF 6B 74, 33D0 6C 6D",
    "33D1 6C 6E, 33D2 6C 6F 67, 33D3 6C 78, 33D4 6D 62, 33D5 6D 69 6C, 33D6 6D 6F 6C, 33D7 70 68",
    "33D9 70 70 6D, 33DA 70 72, 33DB 73 72, 33DC 73 76, 33DD 77 62, 33DE 76 2215 6D",
    "33DF 61 2215 6D, 33E0 31 65E5, 33E1 32 65E5, 33E2 33 65E5, 33E3 34 65E5, 33E4 35 65E5",
    "33E5 36 65E5, 33E6 37 65E5, 33E7 38 65E5, 33E8 39 65E5, 33E9 31 30 65E5, 33EA 31 31 65E5",
    "33EB 31 32 65E5, 33EC 31 33 65E5, 33ED 31 34 65E5, 33EE 31 35 65E5, 33EF 31 36 65E5",
    "33F0 31 37 65E5, 33F1 31 38 65E5, 33F2 31 39 65E5, 33F3 32 30 65E5, 33F4 32 31 65E5",
    "33F5 32 32 65E5, 33F6 32 33 65E5, 33F7 32 34 65E5, 33F8 32 35 65E5, 33F9 32 36 65E5",
    "33FA 32 37 65E5, 33FB 32 38 65E5, 33FC 32 39 65E5, 33FD 33 30 65E5, 33FE 33 31 65E5",
    "33FF 67 61 6C, FB00 66 66, FB01 66 69, FB02 66 6C, FB03 66 66 69, FB04 66 66 6C, FB05 73 74",
    "FB06 73 74, FB13 574 576, FB14 574 565, FB15 574 56B, FB16 57E 576, FB17 574 56D",
    "FB1D 5D9 5B4, FB1F 5F2 5B7, FB2A 5E9 5C1, FB2B 5E9 5C2, FB2C 5E9 5BC 5C1, FB2D 5E9 5BC 5C2",
    "FB2E 5D0 5B7, FB2F 5D0 5B8, FB30 5D0 5BC, FB31 5D1 5BC, FB32 5D2 5BC, FB33 5D3 5BC",
    "FB34 5D4 5BC, FB35 5D5 5BC, FB36 5D6 5BC, FB38 5D8 5BC, FB39 5D9 5BC, FB3A 5DA 5BC",
    "FB3B 5DB 5BC, FB3C 5DC 5BC, FB3E 5DE 5BC, FB40 5E0 5BC, FB41 5E1 5BC, FB43 5E3 5BC",
    "FB44 5E4 5BC, FB46 5E6 5BC, FB47 5E7 5BC, FB48 5E8 5BC, FB49 5E9 5BC, FB4A 5EA 5BC",
    "FB4B 5D5 5B9, FB4C 5D1 5BF, FB4D 5DB 5BF, FB4E 5E4 5BF, FB4F 5D0 5DC, FBDD 6C7 674",
    "FBEA 626 627, FBEB 626 627, FBEC 626 6D5, FBED 626 6D5, FBEE 626 648, FBEF 626 648",
    "FBF0 626 6C7, FBF1 626 6C7, FBF2 626 6C6, FBF3 626 6C6, FBF4 626 6C8, FBF5 626 6C8",
    "FBF6 626 6D0, FBF7 626 6D0, FBF8 626 6D0, FBF9 626 649, FBFA 626 649, FBFB 626 649",
    "FC00 626 62C, FC01 626 62D, FC02 626 645, FC03 626 649, FC04 626 64A, FC05 628 62C",
    "FC06 628 62D, FC07 628 62E, FC08 628 645, FC09 628 649, FC0A 628 64A, FC0B 62A 62C",
    "FC0C 62A 62D, FC0D 62A 62E, FC0E 62A 645, FC0F 62A 649, FC10 62A 64A, FC11 62B 62C",
    "FC12 62B 645, FC13 62B 649, FC14 62B 64A, FC15 62C 62D, FC16 62C 645, FC17 62D 62C",
    "FC18 62D 645, FC19 62E 62C, FC1A 62E 62D, FC1B 62E 645, FC1C 633 62C, FC1D 633 62D",
    "FC1E 633 62E, FC1F 633 645, FC20 635 62D, FC21 635 645, FC22 636 62C, FC23 636 62D",
    "FC24 636 62E, FC25 636 645, FC26 637 62D, FC27 637 645, FC28 638 645, FC29 639 62C",
    "FC2A 639 645, FC2B 63A 62C, FC2C 63A 645, FC2D 641 62C, FC2E 641 62D, FC2F 641 62E",
    "FC30 641 645, FC31 641 649, FC32 641 64A, FC33 642 62D, FC34 642 645, FC35 642 649",
    "FC36 642 64A, FC37 643 627, FC38 643 62C, FC39 643 62D, FC3A 643 62E, FC3B 643 644",
    "FC3C 643 645, FC3D 643 649, FC3E 643 64A, FC3F 644 62C, FC40 644 62D, FC41 644 62E",
    "FC42 644 645, FC43 644 649, FC44 644 64A, FC45 645 62C, FC46 645 62D, FC47 645 62E",
    "FC48 645 645, FC49 645 649, FC4A 645 64A, FC4B 646 62C, FC4C 646 62D, FC4D 646 62E",
    "FC4E 646 645, FC4F 646 649, FC50 646 64A, FC51 647 62C, FC52 647 645, FC53 647 649",
    "FC54 647 64A, FC55 64A 62C, FC56 64A 62D, FC57 64A 62E, FC58 64A 645, FC59 64A 649",
    "FC5A 64A 64A, FC5B 630 670, FC5C 631 670, FC5D 649 670, FC5E 20 64C 651, FC5F 20 64D 651",
    "FC60 20 64E 651, FC61 20 64F 651, FC62 20 650 651, FC63 20 651 670, FC64 626 631",
    "FC65 626 632, FC66 626 645, FC67 626 646, FC68 626 649, FC69 626 64A, FC6A 628 631",
    "FC6B 628 632, FC6C 628 645, FC6D 628 646, FC6E 628 649, FC6F 628 64A, FC70 62A 631",
    "FC71 62A 632, FC72 62A 645, FC73 62A 646, FC74 62A 649, FC75 62A 64A, FC76 62B 631",
    "FC77 62B 632, FC78 62B 645, FC79 62B 646, FC7A 62B 649, FC7B 62B 64A, FC7C 641 649",
    "FC7D 641 64A, FC7E 642 649, FC7F 642 64A, FC80 643 627, FC81 643 644, FC82 643 645",
    "FC83 643 649, FC84 643 64A, FC85 644 645, FC86 644 649, FC87 644 64A, FC88 645 627",
    "FC89 645 645, FC8A 646 631, FC8B 646 632, FC8C 646 645, FC8D 646 646, FC8E 646 649",
    "FC8F 646 64A, FC90 649 670, FC91 64A 631, FC92 64A 632, FC93 64A 645, FC94 64A 646",
    "FC95 64A 649, FC96 64A 64A, FC97 626 62C, FC98 626 62D, FC99 626 62E, FC9A 626 645",
    "FC9B 626 647, FC9C 628 62C, FC9D 628 62D, FC9E 628 62E, FC9F 628 645, FCA0 628 647",
    "FCA1 62A 62C, FCA2 62A 62D, FCA3 62A 62E, FCA4 62A 645, FCA5 62A 647, FCA6 62B 645",
    "FCA7 62C 62D, FCA8 62C 645, FCA9 62D 62C, FCAA 62D 645, FCAB 62E 62C, FCAC 62E 645",
    "FCAD 633 62C, FCAE 633 62D, FCAF 633 62E, FCB0 633 645, FCB1 635 62D, FCB2 635 62E",
    "FCB3 635 645, FCB4 636 62C, FCB5 636 62D, FCB6 636 62E, FCB7 636 645, FCB8 637 62D",
    "FCB9 638 645, FCBA 639 62C, FCBB 639 645, FCBC 63A 62C, FCBD 63A 645, FCBE 641 62C",
    "FCBF 641 62D, FCC0 641 62E, FCC1 641 645, FCC2 642 62D, FCC3 642 645, FCC4 643 62C",
    "FCC5 643 62D, FCC6 643 62E, FCC7 643 644, FCC8 643 645, FCC9 644 62C, FCCA 644 62D",
    "FCCB 644 62E, FCCC 644 645, FCCD 644 647, FCCE 645 62C, FCCF 645 62D, FCD0 645 62E",
    "FCD1 645 645, FCD2 646 62C, FCD3 646 62D, FCD4 646 62E, FCD5 646 645, FCD6 646 647",
    "FCD7 647 62C, FCD8 647 645, FCD9 647 670, FCDA 64A 62C, FCDB 64A 62D, FCDC 64A 62E",
    "FCDD 64A 645, FCDE 64A 647, FCDF 626 645, FCE0 626 647, FCE1 628 645, FCE2 628 647",
    "FCE3 62A 645, FCE4 62A 647, FCE5 62B 645, FCE6 62B 647, FCE7 633 645, FCE8 633 647",
    "FCE9 634 645, FCEA 634 647, FCEB 643 644, FCEC 643 645, FCED 644 645, FCEE 646 645",
    "FCEF 646 647, FCF0 64A 645, FCF1 64A 647, FCF2 640 64E 651, FCF3 640 64F 651",
    "FCF4 640 650 651, FCF5 637 649, FCF6 637 64A, FCF7 639 649, FCF8 639 64A, FCF9 63A 649",
    "FCFA 63A 64A, FCFB 633 649, FCFC 633 64A, FCFD 634 649, FCFE 634 64A, FCFF 62D 649",
    "FD00 62D 64A, FD01 62C 649, FD02 62C 64A, FD03 62E 649, FD04 62E 64A, FD05 635 649",
    "FD06 635 64A, FD07 636 649, FD08 636 64A, FD09 634 62C, FD0A 634 62D, FD0B 634 62E",
    "FD0C 634 645, FD0D 634 631, FD0E 633 631, FD0F 635 631, FD10 636 631, FD11 637 649",
    "FD12 637 64A, FD13 639 649, FD14 639 64A, FD15 63A 649, FD16 63A 64A, FD17 633 649",
    "FD18 633 64A, FD19 634 649, FD1A 634 64A, FD1B 62D 649, FD1C 62D 64A, FD1D 62C 649",
    "FD1E 62C 64A, FD1F 62E 649, FD20 62E 64A, FD21 635 649, FD22 635 64A, FD23 636 649",
    "FD24 636 64A, FD25 634 62C, FD26 634 62D, FD27 634 62E, FD28 634 645, FD29 634 631",
    "FD2A 633 631, FD2B 635 631, FD2C 636 631, FD2D 634 62C, FD2E 634 62D, FD2F 634 62E",
    "FD30 634 645, FD31 633 647, FD32 634 647, FD33 637 645, FD34 633 62C, FD35 633 62D",
    "FD36 633 62E, FD37 634 62C, FD38 634 62D, FD39 634 62E, FD3A 637 645, FD3B 638 645",
    "FD3C 627 64B, FD3D 627 64B, FD50 62A 62C 645, FD51 62A 62D 62C, FD52 62A 62D 62C",
    "FD53 62A 62D 645, FD54 62A 62E 645, FD55 62A 645 62C, FD56 62A 645 62D, FD57 62A 645 62E",
    "FD58 62C 645 62D, FD59 62C 645 62D, FD5A 62D 645 64A, FD5B 62D 645 649, FD5C 633 62D 62C",
    "FD5D 633 62C 62D, FD5E 633 62C 649, FD5F 633 645 62D, FD60 633 645 62D, FD61 633 645 62C",
    "FD62 633 645 645, FD63 633 645 645, FD64 635 62D 62D, FD65 635 62D 62D, FD66 635 645 645",
    "FD67 634 62D 645, FD68 634 62D 645, FD69 634 62C 64A, FD6A 634 645 62E, FD6B 634 645 62E",
    "FD6C 634 645 645, FD6D 634 645 645, FD6E 636 62D 649, FD6F 636 62E 645, FD70 636 62E 645",
    "FD71 637 645 62D, FD72 637 645 62D, FD73 637 645 645, FD74 637 645 64A, FD75 639 62C 645",
    "FD76 639 645 645, FD77 639 645 645, FD78 639 645 649, FD79 63A 645 645, FD7A 63A 645 64A",
    "FD7B 63A 645 649, FD7C 641 62E 645, FD7D 641 62E 645, FD7E 642 645 62D, FD7F 642 645 645",
    "FD80 644 62D 645, FD81 644 62D 64A, FD82 644 62D 649, FD83 644 62C 62C, FD84 644 62C 62C",
    "FD85 644 62E 645, FD86 644 62E 645, FD87 644 645 62D, FD88 644 645 62D, FD89 645 62D 62C",
    "FD8A 645 62D 645, FD8B 645 62D 64A, FD8C 645 62C 62D, FD8D 645 62C 645, FD8E 645 62E 62C",
    "FD8F 645 62E 645, FD92 645 62C 62E, FD93 647 645 62C, FD94 647 645 645, FD95 646 62D 645",
    "FD96 646 62D 649, FD97 646 62C 645, FD98 646 62C 645, FD99 646 62C 649, FD9A 646 645 64A",
    "FD9B 646 645 649, FD9C 64A 645 645, FD9D 64A 645 645, FD9E 628 62E 64A, FD9F 62A 62C 64A",
    "FDA0 62A 62C 649, FDA1 62A 62E 64A, FDA2 62A 62E 649, FDA3 62A 645 64A, FDA4 62A 645 649",
    "FDA5 62C 645 64A, FDA6 62C 62D 649, FDA7 62C 645 649, FDA8 633 62E 649, FDA9 635 62D 64A",
    "FDAA 634 62D 64A, FDAB 636 62D 64A, FDAC 644 62C 64A, FDAD 644 645 64A, FDAE 64A 62D 64A",
    "FDAF 64A 62C 64A, FDB0 64A 645 64A, FDB1 645 645 64A, FDB2 642 645 64A, FDB3 646 62D 64A",
    "FDB4 642 645 62D, FDB5 644 62D 645, FDB6 639 645 64A, FDB7 643 645 64A, FDB8 646 62C 62D",
    "FDB9 645 62E 64A, FDBA 644 62C 645, FDBB 643 645 645, FDBC 644 62C 645, FDBD 646 62C 62D",
    "FDBE 62C 62D 64A, FDBF 62D 62C 64A, FDC0 645 62C 64A, FDC1 641 645 64A, FDC2 628 62D 64A",
    "FDC3 643 645 645, FDC4 639 62C 645, FDC5 635 645 645, FDC6 633 62E 64A, FDC7 646 62C 64A",
    "FDF0 635 644 6D2, FDF1 642 644 6D2, FDF2 627 644 644 647, FDF3 627 643 628 631",
    "FDF4 645 62D 645 62F, FDF5 635 644 639 645, FDF6 631 633 648 644, FDF7 639 644 64A 647",
    "FDF8 648 633 644 645, FDF9 635 644 649",
    "FDFA 635 644 649 20 627 644 644 647 20 639 644 64A 647 20 648 633 644 645",
    "FDFB 62C 644 20 62C 644 627 644 647, FDFC 631 6CC 627 644, FE49 20 305, FE4A 20 305",
    "FE4B 20 305, FE4C 20 305, FE70 20 64B, FE71 640 64B, FE72 20 64C, FE74 20 64D, FE76 20 64E",
    "FE77 640 64E, FE78 20 64F, FE79 640 64F, FE7A 20 650, FE7B 640 650, FE7C 20 651",
    "FE7D 640 651, FE7E 20 652, FE7F 640 652, FEF5 644 622, FEF6 644 622, FEF7 644 623",
    "FEF8 644 623, FEF9 644 625, FEFA 644 625, FEFB 644 627, FEFC 644 627, FFE3 20 304",
    "1D15E 1D157 1D165, 1D15F 1D158 1D165, 1D160 1D158 1D165 1D16E, 1D161 1D158 1D165 1D16F",
    "1D162 1D158 1D165 1D170, 1D163 1D158 1D165 1D171, 1D164 1D158 1D165 1D172, 1D1BB 1D1B9 1D165",
    "1D1BC 1D1BA 1D165, 1D1BD 1D1B9 1D165 1D16E, 1D1BE 1D1BA 1D165 1D16E, 1D1BF 1D1B9 1D165 1D16F",
    "1D1C0 1D1BA 1D165 1D16F, 1F101 30 2C, 1F102 31 2C, 1F103 32 2C, 1F104 33 2C, 1F105 34 2C",
    "1F106 35 2C, 1F107 36 2C, 1F108 37 2C, 1F109 38 2C, 1F10A 39 2C, 1F110 28 61 29",
    "1F111 28 62 29, 1F112 28 63 29, 1F113 28 64 29, 1F114 28 65 29, 1F115 28 66 29",
    "1F116 28 67 29, 1F117 28 68 29, 1F118 28 69 29, 1F119 28 6A 29, 1F11A 28 6B 29",
    "1F11B 28 6C 29, 1F11C 28 6D 29, 1F11D 28 6E 29, 1F11E 28 6F 29, 1F11F 28 70 29",
    "1F120 28 71 29, 1F121 28 72 29, 1F122 28 73 29, 1F123 28 74 29, 1F124 28 75 29",
    "1F125 28 76 29, 1F126 28 77 29, 1F127 28 78 29, 1F128 28 79 29, 1F129 28 7A 29",
    "1F12A 3014 73 3015, 1F12D 63 64, 1F12E 77 7A, 1F14A 68 76, 1F14B 6D 76, 1F14C 73 64",
    "1F14D 73 73, 1F14E 70 70 76, 1F14F 77 63, 1F16A 6D 63, 1F16B 6D 64, 1F16C 6D 72, 1F190 64 6A",
    "1F200 307B 304B, 1F201 30B3 30B3, 1F240 3014 672C 3015, 1F241 3014 4E09 3015",
    "1F242 3014 4E8C 3015, 1F243 3014 5B89 3015, 1F244 3014 70B9 3015, 1F245 3014 6253 3015",
    "1F246 3014 76D7 3015, 1F247 3014 52DD 3015, 1F248 3014 6557 3015"]

/-- Characters that are dropped. -/
def dropped : List String :=
  ["AD AD, 34F 34F, 180B 180D, 180F 180F, 200B 200B, 2060 2060, 2064 2064, FE00 FE0F, FEFF FEFF",
    "1BCA0 1BCA3, E0100 E01EF"]

/-- Characters that stay as they are, and may stand in a name. -/
def kept : List String :=
  ["A1 A7, A9 A9, AB AC, AE AE, B0 B1, B6 B7, BB BB, BF BF, D7 D7, DF FF, 101 101, 103 103",
    "105 105, 107 107, 109 109, 10B 10B, 10D 10D, 10F 10F, 111 111, 113 113, 115 115, 117 117",
    "119 119, 11B 11B, 11D 11D, 11F 11F, 121 121, 123 123, 125 125, 127 127, 129 129, 12B 12B",
    "12D 12D, 12F 12F, 131 131, 135 135, 137 138, 13A 13A, 13C 13C, 13E 13E, 142 142, 144 144",
    "146 146, 148 148, 14B 14B, 14D 14D, 14F 14F, 151 151, 153 153, 155 155, 157 157, 159 159",
    "15B 15B, 15D 15D, 15F 15F, 161 161, 163 163, 165 165, 167 167, 169 169, 16B 16B, 16D 16D",
    "16F 16F, 171 171, 173 173, 175 175, 177 177, 17A 17A, 17C 17C, 17E 17E, 180 180, 183 183",
    "185 185, 188 188, 18C 18D, 192 192, 195 195, 199 19B, 19E 19E, 1A1 1A1, 1A3 1A3, 1A5 1A5",
    "1A8 1A8, 1AA 1AB, 1AD 1AD, 1B0 1B0, 1B4 1B4, 1B6 1B6, 1B9 1BB, 1BD 1C3, 1CE 1CE, 1D0 1D0",
    "1D2 1D2, 1D4 1D4, 1D6 1D6, 1D8 1D8, 1DA 1DA, 1DC 1DD, 1DF 1DF, 1E1 1E1, 1E3 1E3, 1E5 1E5",
    "1E7 1E7, 1E9 1E9, 1EB 1EB, 1ED 1ED, 1EF 1F0, 1F5 1F5, 1F9 1F9, 1FB 1FB, 1FD 1FD, 1FF 1FF",
    "201 201, 203 203, 205 205, 207 207, 209 209, 20B 20B, 20D 20D, 20F 20F, 211 211, 213 213",
    "215 215, 217 217, 219 219, 21B 21B, 21D 21D, 21F 21F, 221 221, 223 223, 225 225, 227 227",
    "229 229, 22B 22B, 22D 22D, 22F 22F, 231 231, 233 239, 23C 23C, 23F 240, 242 242, 247 247",
    "249 249, 24B 24B, 24D 24D, 24F 2AF, 2B9 2D7, 2DE 2DF, 2E5 33F, 342 342, 346 34E, 350 36F",
    "371 371, 373 373, 375 375, 377 377, 37B 37D, 390 390, 3AC 3CE, 3D7 3D7, 3D9 3D9, 3DB 3DB",
    "3DD 3DD, 3DF 3DF, 3E1 3E1, 3E3 3E3, 3E5 3E5, 3E7 3E7, 3E9 3E9, 3EB 3EB, 3ED 3ED, 3EF 3EF",
    "3F3 3F3, 3F6 3F6, 3F8 3F8, 3FB 3FC, 430 45F, 461 461, 463 463, 465 465, 467 467, 469 469",
    "46B 46B, 46D 46D, 46F 46F, 471 471, 473 473, 475 475, 477 477, 479 479, 47B 47B, 47D 47D",
    "47F 47F, 481 489, 48B 48B, 48D 48D, 48F 48F, 491 491, 493 493, 495 495, 497 497, 499 499",
    "49B 49B, 49D 49D, 49F 49F, 4A1 4A1, 4A3 4A3, 4A5 4A5, 4A7 4A7, 4A9 4A9, 4AB 4AB, 4AD 4AD",
    "4AF 4AF, 4B1 4B1, 4B3 4B3, 4B5 4B5, 4B7 4B7, 4B9 4B9, 4BB 4BB, 4BD 4BD, 4BF 4BF, 4C2 4C2",
    "4C4 4C4, 4C6 4C6, 4C8 4C8, 4CA 4CA, 4CC 4CC, 4CE 4CF, 4D1 4D1, 4D3 4D3, 4D5 4D5, 4D7 4D7",
    "4D9 4D9, 4DB 4DB, 4DD 4DD, 4DF 4DF, 4E1 4E1, 4E3 4E3, 4E5 4E5, 4E7 4E7, 4E9 4E9, 4EB 4EB",
    "4ED 4ED, 4EF 4EF, 4F1 4F1, 4F3 4F3, 4F5 4F5, 4F7 4F7, 4F9 4F9, 4FB 4FB, 4FD 4FD, 4FF 4FF",
    "501 501, 503 503, 505 505, 507 507, 509 509, 50B 50B, 50D 50D, 50F 50F, 511 511, 513 513",
    "515 515, 517 517, 519 519, 51B 51B, 51D 51D, 51F 51F, 521 521, 523 523, 525 525, 527 527",
    "529 529, 52B 52B, 52D 52D, 52F 52F, 559 586, 588 58A, 58D 58F, 591 5C7, 5D0 5EA, 5EF 5F4",
    "606 61B, 61D 674, 679 6DC, 6DE 70D, 710 74A, 74D 7B1, 7C0 7FA, 7FD 82D, 830 83E, 840 85B",
    "85E 85E, 860 86A, 870 88E, 898 8E1, 8E3 957, 960 983, 985 98C, 98F 990, 993 9A8, 9AA 9B0",
    "9B2 9B2, 9B6 9B9, 9BC 9C4, 9C7 9C8, 9CB 9CE, 9D7 9D7, 9E0 9E3, 9E6 9FE, A01 A03, A05 A0A",
    "A0F A10, A13 A28, A2A A30, A32 A32, A35 A35, A38 A39, A3C A3C, A3E A42, A47 A48, A4B A4D",
    "A51 A51, A5C A5C, A66 A76, A81 A83, A85 A8D, A8F A91, A93 AA8, AAA AB0, AB2 AB3, AB5 AB9",
    "ABC AC5, AC7 AC9, ACB ACD, AD0 AD0, AE0 AE3, AE6 AF1, AF9 AFF, B01 B03, B05 B0C, B0F B10",
    "B13 B28, B2A B30, B32 B33, B35 B39, B3C B44, B47 B48, B4B B4D, B55 B57, B5F B63, B66 B77",
    "B82 B83, B85 B8A, B8E B90, B92 B95, B99 B9A, B9C B9C, B9E B9F, BA3 BA4, BA8 BAA, BAE BB9",
    "BBE BC2, BC6 BC8, BCA BCD, BD0 BD0, BD7 BD7, BE6 BFA, C00 C0C, C0E C10, C12 C28, C2A C39",
    "C3C C44, C46 C48, C4A C4D, C55 C56, C58 C5A, C5D C5D, C60 C63, C66 C6F, C77 C8C, C8E C90",
    "C92 CA8, CAA CB3, CB5 CB9, CBC CC4, CC6 CC8, CCA CCD, CD5 CD6, CDD CDE, CE0 CE3, CE6 CEF",
    "CF1 CF2, D00 D0C, D0E D10, D12 D44, D46 D48, D4A D4F, D54 D63, D66 D7F, D81 D83, D85 D96",
    "D9A DB1, DB3 DBB, DBD DBD, DC0 DC6, DCA DCA, DCF DD4, DD6 DD6, DD8 DDF, DE6 DEF, DF2 DF4",
    "E01 E32, E34 E3A, E3F E5B, E81 E82, E84 E84, E86 E8A, E8C EA3, EA5 EA5, EA7 EB2, EB4 EBD",
    "EC0 EC4, EC6 EC6, EC8 ECD, ED0 ED9, EDE EDF, F00 F0B, F0D F42, F44 F47, F49 F4C, F4E F51",
    "F53 F56, F58 F5B, F5D F68, F6A F6C, F71 F72, F74 F74, F7A F80, F82 F92, F94 F97, F99 F9C",
    "F9E FA1, FA3 FA6, FA8 FAB, FAD FB8, FBA FBC, FBE FCC, FCE FDA, 1000 109F, 10D0 10FB",
    "10FD 115E, 1161 1248, 124A 124D, 1250 1256, 1258 1258, 125A 125D, 1260 1288, 128A 128D",
    "1290 12B0, 12B2 12B5, 12B8 12BE, 12C0 12C0, 12C2 12C5, 12C8 12D6, 12D8 1310, 1312 1315",
    "1318 135A, 135D 137C, 1380 1399, 13A0 13F5, 1400 167F, 1681 169C, 16A0 16F8, 1700 1715",
    "171F 1736, 1740 1753, 1760 176C, 176E 1770, 1772 1773, 1780 17B3, 17B6 17DD, 17E0 17E9",
    "17F0 17F9, 1800 180A, 1810 1819, 1820 1878, 1880 18AA, 18B0 18F5, 1900 191E, 1920 192B",
    "1930 193B, 1940 1940, 1944 196D, 1970 1974, 1980 19AB, 19B0 19C9, 19D0 19DA, 19DE 1A1B",
    "1A1E 1A5E, 1A60 1A7C, 1A7F 1A89, 1A90 1A99, 1AA0 1AAD, 1AB0 1ACE, 1B00 1B4C, 1B50 1B7E",
    "1B80 1BF3, 1BFC 1C37, 1C3B 1C49, 1C4D 1C7F, 1CC0 1CC7, 1CD0 1CFA, 1D00 1D2B, 1D2F 1D2F",
    "1D3B 1D3B, 1D4E 1D4E, 1D6B 1D77, 1D79 1D9A, 1DC0 1DFF, 1E01 1E01, 1E03 1E03, 1E05 1E05",
    "1E07 1E07, 1E09 1E09, 1E0B 1E0B, 1E0D 1E0D, 1E0F 1E0F, 1E11 1E11, 1E13 1E13, 1E15 1E15",
    "1E17 1E17, 1E19 1E19, 1E1B 1E1B, 1E1D 1E1D, 1E1F 1E1F, 1E21 1E21, 1E23 1E23, 1E25 1E25",
    "1E27 1E27, 1E29 1E29, 1E2B 1E2B, 1E2D 1E2D, 1E2F 1E2F, 1E31 1E31, 1E33 1E33, 1E35 1E35",
    "1E37 1E37, 1E39 1E39, 1E3B 1E3B, 1E3D 1E3D, 1E3F 1E3F, 1E41 1E41, 1E43 1E43, 1E45 1E45",
    "1E47 1E47, 1E49 1E49, 1E4B 1E4B, 1E4D 1E4D, 1E4F 1E4F, 1E51 1E51, 1E53 1E53, 1E55 1E55",
    "1E57 1E57, 1E59 1E59, 1E5B 1E5B, 1E5D 1E5D, 1E5F 1E5F, 1E61 1E61, 1E63 1E63, 1E65 1E65",
    "1E67 1E67, 1E69 1E69, 1E6B 1E6B, 1E6D 1E6D, 1E6F 1E6F, 1E71 1E71, 1E73 1E73, 1E75 1E75",
    "1E77 1E77, 1E79 1E79, 1E7B 1E7B, 1E7D 1E7D, 1E7F 1E7F, 1E81 1E81, 1E83 1E83, 1E85 1E85",
    "1E87 1E87, 1E89 1E89, 1E8B 1E8B, 1E8D 1E8D, 1E8F 1E8F, 1E91 1E91, 1E93 1E93, 1E95 1E99",
    "1E9C 1E9D, 1E9F 1E9F, 1EA1 1EA1, 1EA3 1EA3, 1EA5 1EA5, 1EA7 1EA7, 1EA9 1EA9, 1EAB 1EAB",
    "1EAD 1EAD, 1EAF 1EAF, 1EB1 1EB1, 1EB3 1EB3, 1EB5 1EB5, 1EB7 1EB7, 1EB9 1EB9, 1EBB 1EBB",
    "1EBD 1EBD, 1EBF 1EBF, 1EC1 1EC1, 1EC3 1EC3, 1EC5 1EC5, 1EC7 1EC7, 1EC9 1EC9, 1ECB 1ECB",
    "1ECD 1ECD, 1ECF 1ECF, 1ED1 1ED1, 1ED3 1ED3, 1ED5 1ED5, 1ED7 1ED7, 1ED9 1ED9, 1EDB 1EDB",
    "1EDD 1EDD, 1EDF 1EDF, 1EE1 1EE1, 1EE3 1EE3, 1EE5 1EE5, 1EE7 1EE7, 1EE9 1EE9, 1EEB 1EEB",
    "1EED 1EED, 1EEF 1EEF, 1EF1 1EF1, 1EF3 1EF3, 1EF5 1EF5, 1EF7 1EF7, 1EF9 1EF9, 1EFB 1EFB",
    "1EFD 1EFD, 1EFF 1F07, 1F10 1F15, 1F20 1F27, 1F30 1F37, 1F40 1F45, 1F50 1F57, 1F60 1F67",
    "1F70 1F70, 1F72 1F72, 1F74 1F74, 1F76 1F76, 1F78 1F78, 1F7A 1F7A, 1F7C 1F7C, 1FB0 1FB1",
    "1FB6 1FB6, 1FC6 1FC6, 1FD0 1FD2, 1FD6 1FD7, 1FE0 1FE2, 1FE4 1FE7, 1FF6 1FF6, 200C 200D",
    "2010 2010, 2012 2016, 2018 2023, 2027 2027, 2030 2032, 2035 2035, 2038 203B, 203D 203D",
    "203F 2046, 204A 2056, 2058 205E, 20A0 20A7, 20A9 20C0, 20D0 20F0, 2104 2104, 2108 2108",
    "2114 2114, 2117 2118, 211E 211F, 2123 2123, 2125 2125, 2127 2127, 2129 2129, 212E 212E",
    "213A 213A, 2141 2144, 214A 214F, 2180 2182, 2184 2188, 218A 218B, 2190 222B, 222E 222E",
    "2231 2328, 232B 2426, 2440 244A, 24EB 2A0B, 2A0D 2A73, 2A77 2ADB, 2ADD 2B73, 2B76 2B95",
    "2B97 2BFF, 2C30 2C5F, 2C61 2C61, 2C65 2C66, 2C68 2C68, 2C6A 2C6A, 2C6C 2C6C, 2C71 2C71",
    "2C73 2C74, 2C76 2C7B, 2C81 2C81, 2C83 2C83, 2C85 2C85, 2C87 2C87, 2C89 2C89, 2C8B 2C8B",
    "2C8D 2C8D, 2C8F 2C8F, 2C91 2C91, 2C93 2C93, 2C95 2C95, 2C97 2C97, 2C99 2C99, 2C9B 2C9B",
    "2C9D 2C9D, 2C9F 2C9F, 2CA1 2CA1, 2CA3 2CA3, 2CA5 2CA5, 2CA7 2CA7, 2CA9 2CA9, 2CAB 2CAB",
    "2CAD 2CAD, 2CAF 2CAF, 2CB1 2CB1, 2CB3 2CB3, 2CB5 2CB5, 2CB7 2CB7, 2CB9 2CB9, 2CBB 2CBB",
    "2CBD 2CBD, 2CBF 2CBF, 2CC1 2CC1, 2CC3 2CC3, 2CC5 2CC5, 2CC7 2CC7, 2CC9 2CC9, 2CCB 2CCB",
    "2CCD 2CCD, 2CCF 2CCF, 2CD1 2CD1, 2CD3 2CD3, 2CD5 2CD5, 2CD7 2CD7, 2CD9 2CD9, 2CDB 2CDB",
    "2CDD 2CDD, 2CDF 2CDF, 2CE1 2CE1, 2CE3 2CEA, 2CEC 2CEC, 2CEE 2CF1, 2CF3 2CF3, 2CF9 2D25",
    "2D27 2D27, 2D2D 2D2D, 2D30 2D67, 2D70 2D70, 2D7F 2D96, 2DA0 2DA6, 2DA8 2DAE, 2DB0 2DB6",
    "2DB8 2DBE, 2DC0 2DC6, 2DC8 2DCE, 2DD0 2DD6, 2DD8 2DDE, 2DE0 2E5D, 2E80 2E99, 2E9B 2E9E",
    "2EA0 2EF2, 3001 3001, 3003 3035, 3037 3037, 303B 303F, 3041 3096, 3099 309A, 309D 309E",
    "30A0 30FE, 3105 312F, 3190 3191, 31A0 31E3, 31F0 31FF, 3248 324F, 327F 327F, 3400 A48C",
    "A490 A4C6, A4D0 A62B, A641 A641, A643 A643, A645 A645, A647 A647, A649 A649, A64B A64B",
    "A64D A64D, A64F A64F, A651 A651, A653 A653, A655 A655, A657 A657, A659 A659, A65B A65B",
    "A65D A65D, A65F A65F, A661 A661, A663 A663, A665 A665, A667 A667, A669 A669, A66B A66B",
    "A66D A67F, A681 A681, A683 A683, A685 A685, A687 A687, A689 A689, A68B A68B, A68D A68D",
    "A68F A68F, A691 A691, A693 A693, A695 A695, A697 A697, A699 A699, A69B A69B, A69E A6F7",
    "A700 A721, A723 A723, A725 A725, A727 A727, A729 A729, A72B A72B, A72D A72D, A72F A731",
    "A733 A733, A735 A735, A737 A737, A739 A739, A73B A73B, A73D A73D, A73F A73F, A741 A741",
    "A743 A743, A745 A745, A747 A747, A749 A749, A74B A74B, A74D A74D, A74F A74F, A751 A751",
    "A753 A753, A755 A755, A757 A757, A759 A759, A75B A75B, A75D A75D, A75F A75F, A761 A761",
    "A763 A763, A765 A765, A767 A767, A769 A769, A76B A76B, A76D A76D, A76F A76F, A771 A778",
    "A77A A77A, A77C A77C, A77F A77F, A781 A781, A783 A783, A785 A785, A787 A78A, A78C A78C",
    "A78E A78F, A791 A791, A793 A795, A797 A797, A799 A799, A79B A79B, A79D A79D, A79F A79F",
    "A7A1 A7A1, A7A3 A7A3, A7A5 A7A5, A7A7 A7A7, A7A9 A7A9, A7AF A7AF, A7B5 A7B5, A7B7 A7B7",
    "A7B9 A7B9, A7BB A7BB, A7BD A7BD, A7BF A7BF, A7C1 A7C1, A7C3 A7C3, A7C8 A7C8, A7CA A7CA",
    "A7D1 A7D1, A7D3 A7D3, A7D5 A7D5, A7D7 A7D7, A7D9 A7D9, A7F6 A7F7, A7FA A82C, A830 A839",
    "A840 A877, A880 A8C5, A8CE A8D9, A8E0 A953, A95F A97C, A980 A9CD, A9CF A9D9, A9DE A9FE",
    "AA00 AA36, AA40 AA4D, AA50 AA59, AA5C AAC2, AADB AAF6, AB01 AB06, AB09 AB0E, AB11 AB16",
    "AB20 AB26, AB28 AB2E, AB30 AB5B, AB60 AB68, AB6A AB6B, ABC0 ABED, ABF0 ABF9, AC00 D7A3",
    "D7B0 D7C6, D7CB D7FB, FA0E FA0F, FA11 FA11, FA13 FA14, FA1F FA1F, FA21 FA21, FA23 FA24",
    "FA27 FA29, FB1E FB1E, FBB2 FBC2, FD3E FD4F, FDCF FDCF, FDFD FDFF, FE20 FE2F, FE45 FE46",
    "FE73 FE73, 10000 1000B, 1000D 10026, 10028 1003A, 1003C 1003D, 1003F 1004D, 10050 1005D",
    "10080 100FA, 10100 10102, 10107 10133, 10137 1018E, 10190 1019C, 101A0 101A0, 101D0 101FD",
    "10280 1029C, 102A0 102D0, 102E0 102FB, 10300 10323, 1032D 1034A, 10350 1037A, 10380 1039D",
    "1039F 103C3, 103C8 103D5, 10428 1049D, 104A0 104A9, 104D8 104FB, 10500 10527, 10530 10563",
    "1056F 1056F, 10597 105A1, 105A3 105B1, 105B3 105B9, 105BB 105BC, 10600 10736, 10740 10755",
    "10760 10767, 10780 10780, 10800 10805, 10808 10808, 1080A 10835, 10837 10838, 1083C 1083C",
    "1083F 10855, 10857 1089E, 108A7 108AF, 108E0 108F2, 108F4 108F5, 108FB 1091B, 1091F 10939",
    "1093F 1093F, 10980 109B7, 109BC 109CF, 109D2 10A03, 10A05 10A06, 10A0C 10A13, 10A15 10A17",
    "10A19 10A35, 10A38 10A3A, 10A3F 10A48, 10A50 10A58, 10A60 10A9F, 10AC0 10AE6, 10AEB 10AF6",
    "10B00 10B35, 10B39 10B55, 10B58 10B72, 10B78 10B91, 10B99 10B9C, 10BA9 10BAF, 10C00 10C48",
    "10CC0 10CF2, 10CFA 10D27, 10D30 10D39, 10E60 10E7E, 10E80 10EA9, 10EAB 10EAD, 10EB0 10EB1",
    "10F00 10F27, 10F30 10F59, 10F70 10F89, 10FB0 10FCB, 10FE0 10FF6, 11000 1104D, 11052 11075",
    "1107F 110BC, 110BE 110C2, 110D0 110E8, 110F0 110F9, 11100 11134, 11136 11147, 11150 11176",
    "11180 111DF, 111E1 111F4, 11200 11211, 11213 1123E, 11280 11286, 11288 11288, 1128A 1128D",
    "1128F 1129D, 1129F 112A9, 112B0 112EA, 112F0 112F9, 11300 11303, 11305 1130C, 1130F 11310",
    "11313 11328, 1132A 11330, 11332 11333, 11335 11339, 1133B 11344, 11347 11348, 1134B 1134D",
    "11350 11350, 11357 11357, 1135D 11363, 11366 1136C, 11370 11374, 11400 1145B, 1145D 11461",
    "11480 114C7, 114D0 114D9, 11580 115B5, 115B8 115DD, 11600 11644, 11650 11659, 11660 1166C",
    "11680 116B9, 116C0 116C9, 11700 1171A, 1171D 1172B, 11730 11746, 11800 1183B, 118C0 118F2",
    "118FF 11906, 11909 11909, 1190C 11913, 11915 11916, 11918 11935, 11937 11938, 1193B 11946",
    "11950 11959, 119A0 119A7, 119AA 119D7, 119DA 119E4, 11A00 11A47, 11A50 11AA2, 11AB0 11AF8",
    "11C00 11C08, 11C0A 11C36, 11C38 11C45, 11C50 11C6C, 11C70 11C8F, 11C92 11CA7, 11CA9 11CB6",
    "11D00 11D06, 11D08 11D09, 11D0B 11D36, 11D3A 11D3A, 11D3C 11D3D, 11D3F 11D47, 11D50 11D59",
    "11D60 11D65, 11D67 11D68, 11D6A 11D8E, 11D90 11D91, 11D93 11D98, 11DA0 11DA9, 11EE0 11EF8",
    "11FB0 11FB0, 11FC0 11FF1, 11FFF 12399, 12400 1246E, 12470 12474, 12480 12543, 12F90 12FF2",
    "13000 1342E, 14400 14646, 16800 16A38, 16A40 16A5E, 16A60 16A69, 16A6E 16ABE, 16AC0 16AC9",
    "16AD0 16AED, 16AF0 16AF5, 16B00 16B45, 16B50 16B59, 16B5B 16B61, 16B63 16B77, 16B7D 16B8F",
    "16E60 16E9A, 16F00 16F4A, 16F4F 16F87, 16F8F 16F9F, 16FE0 16FE4, 16FF0 16FF1, 17000 187F7",
    "18800 18CD5, 18D00 18D08, 1AFF0 1AFF3, 1AFF5 1AFFB, 1AFFD 1AFFE, 1B000 1B122, 1B150 1B152",
    "1B164 1B167, 1B170 1B2FB, 1BC00 1BC6A, 1BC70 1BC7C, 1BC80 1BC88, 1BC90 1BC99, 1BC9C 1BC9F",
    "1CF00 1CF2D, 1CF30 1CF46, 1CF50 1CFC3, 1D000 1D0F5, 1D100 1D126, 1D129 1D15D, 1D165 1D172",
    "1D17B 1D1BA, 1D1C1 1D1EA, 1D200 1D245, 1D2E0 1D2F3, 1D300 1D356, 1D360 1D378, 1D800 1DA8B",
    "1DA9B 1DA9F, 1DAA1 1DAAF, 1DF00 1DF1E, 1E000 1E006, 1E008 1E018, 1E01B 1E021, 1E023 1E024",
    "1E026 1E02A, 1E100 1E12C, 1E130 1E13D, 1E140 1E149, 1E14E 1E14F, 1E290 1E2AE, 1E2C0 1E2F9",
    "1E2FF 1E2FF, 1E7E0 1E7E6, 1E7E8 1E7EB, 1E7ED 1E7EE, 1E7F0 1E7FE, 1E800 1E8C4, 1E8C7 1E8D6",
    "1E922 1E94B, 1E950 1E959, 1E95E 1E95F, 1EC71 1ECB4, 1ED01 1ED3D, 1EEF0 1EEF1, 1F000 1F02B",
    "1F030 1F093, 1F0A0 1F0AE, 1F0B1 1F0BF, 1F0C1 1F0CF, 1F0D1 1F0F5, 1F10B 1F10F, 1F12F 1F12F",
    "1F150 1F169, 1F16D 1F18F, 1F191 1F1AD, 1F1E6 1F1FF, 1F260 1F265, 1F300 1F6D7, 1F6DD 1F6EC",
    "1F6F0 1F6FC, 1F700 1F773, 1F780 1F7D8, 1F7E0 1F7EB, 1F7F0 1F7F0, 1F800 1F80B, 1F810 1F847",
    "1F850 1F859, 1F860 1F887, 1F890 1F8AD, 1F8B0 1F8B1, 1F900 1FA53, 1FA60 1FA6D, 1FA70 1FA74",
    "1FA78 1FA7C, 1FA80 1FA86, 1FA90 1FAAC, 1FAB0 1FABA, 1FAC0 1FAC5, 1FAD0 1FAD9, 1FAE0 1FAE7",
    "1FAF0 1FAF6, 1FB00 1FB92, 1FB94 1FBCA, 20000 2A6DF, 2A700 2B738, 2B740 2B81D, 2B820 2CEA1",
    "2CEB0 2EBE0, 2EBF0 2EE5D, 30000 3134A, 31350 323AF"]

/-- The rows of `runs` by their sources: first, last, distance of sources, first target. -/
def runRows : Array (List Nat) :=
  (Text.hexRows runs).map fun
    | [first, count, step, target] => [first, first + (count - 1) * step, step, target]
    | row => row

/-- The rows of `expansions` by their sources. -/
def expansionRows : Array (List Nat) :=
  (Text.hexRows expansions).map fun
    | source :: targets => source :: source :: targets
    | [] => []

def droppedRows : Array (List Nat) :=
  Text.hexRows dropped

def keptRows : Array (List Nat) :=
  Text.hexRows kept

/-- A target among the runs. Runs of distance two may lie in each other, so that each run that
covers the character is tried. -/
def runTarget? (n : Nat) : Option Nat :=
  runRows.findSome? fun
    | [first, last, step, target] =>
      if first ≤ n && n ≤ last && (n - first) % step == 0 then some (target + (n - first)) else none
    | _ => none

/-- What a character beyond ASCII becomes. -/
def mapChar? (c : Char) : Option (List Char) :=
  let n := c.toNat
  if Text.inRows keptRows n then some [c]
  else
    match runTarget? n with
    | some target => some [Char.ofNat target]
    | none =>
      match Text.findRow? expansionRows n with
      | some (_ :: _ :: targets) => some (targets.map Char.ofNat)
      | _ => if Text.inRows droppedRows n then some [] else none

end ImageCatalog.Domain
