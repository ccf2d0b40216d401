import FunctionLoad.Text.Ranges

/-!
# Data of composed characters

* `pairs`: characters that are composed of a first and a second one.
* `classes`: the characters that combine with the one before, by combining class.
-/

namespace FunctionLoad.Url.Domain

open FunctionLoad.Text FunctionLoad.Decimal

/-- A composed character with its two parts. -/
structure Pair where
  composed : Nat
  first : Nat
  second : Nat
  deriving Repr

/-- Pairs from a flat list of composed characters and their first parts. -/
def pairsWith (second : Nat) : List (List Char) → List Pair
  | composed :: first :: r =>
    ⟨ofDigits 16 composed, ofDigits 16 first, second⟩ :: pairsWith second r
  | _ => []

/-- The pairs that a text lists: for each second part the composed characters and first parts. -/
def pairsOfText (s : String) : List Pair :=
  (words s.toList).flatMap fun item =>
    match splitWhere (· == ':') item with
    | [second, rest] => pairsWith (ofDigits 16 second) (splitWhere (· == ',') rest)
    | _ => []

/-- Characters that are composed of two. -/
def pairs : List Pair := pairsOfText
  "300:e0,61,e8,65,ec,69,f2,6f,f9,75,1dc,fc,1f9,6e,450,435,45d,438,1e15,113,1e51,14d,1e81,77
   300:1ea7,e2,1eb1,103,1ec1,ea,1ed3,f4,1edd,1a1,1eeb,1b0,1ef3,79,1f02,1f00,1f03,1f01
   300:1f12,1f10,1f13,1f11,1f22,1f20,1f23,1f21,1f32,1f30,1f33,1f31,1f42,1f40,1f43,1f41
   300:1f52,1f50,1f53,1f51,1f62,1f60,1f63,1f61,1f70,3b1,1f72,3b5,1f74,3b7,1f76,3b9,1f78,3bf
   300:1f7a,3c5,1f7c,3c9,1fd2,3ca,1fe2,3cb
   301:e1,61,e9,65,ed,69,f3,6f,fa,75,fd,79,107,63,13a,6c,144,6e,155,72,15b,73,17a,7a,1d8,fc
   301:1f5,67,1fb,e5,1fd,e6,1ff,f8,390,3ca,3ac,3b1,3ad,3b5,3ae,3b7,3af,3b9,3b0,3cb,3cc,3bf
   301:3cd,3c5,3ce,3c9,453,433,45c,43a,1e09,e7,1e17,113,1e2f,ef,1e31,6b,1e3f,6d,1e4d,f5
   301:1e53,14d,1e55,70,1e79,169,1e83,77,1ea5,e2,1eaf,103,1ebf,ea,1ed1,f4,1edb,1a1,1ee9,1b0
   301:1f04,1f00,1f05,1f01,1f14,1f10,1f15,1f11,1f24,1f20,1f25,1f21,1f34,1f30,1f35,1f31
   301:1f44,1f40,1f45,1f41,1f54,1f50,1f55,1f51,1f64,1f60,1f65,1f61
   302:e2,61,ea,65,ee,69,f4,6f,fb,75,109,63,11d,67,125,68,135,6a,15d,73,175,77,177,79,1e91,7a
   302:1ead,1ea1,1ec7,1eb9,1ed9,1ecd
   303:e3,61,f1,6e,f5,6f,129,69,169,75,1e7d,76,1eab,e2,1eb5,103,1ebd,65,1ec5,ea,1ed7,f4
   303:1ee1,1a1,1eef,1b0,1ef9,79
   304:101,61,113,65,12b,69,14d,6f,16b,75,1d6,fc,1df,e4,1e1,227,1e3,e6,1ed,1eb,22b,f6,22d,f5
   304:231,22f,233,79,4e3,438,4ef,443,1e21,67,1e39,1e37,1e5d,1e5b,1fb1,3b1,1fd1,3b9,1fe1,3c5
   306:103,61,115,65,11f,67,12d,69,14f,6f,16d,75,439,438,45e,443,4c2,436,4d1,430,4d7,435
   306:1e1d,229,1eb7,1ea1,1fb0,3b1,1fd0,3b9,1fe0,3c5
   307:10b,63,117,65,121,67,17c,7a,227,61,22f,6f,1e03,62,1e0b,64,1e1f,66,1e23,68,1e41,6d
   307:1e45,6e,1e57,70,1e59,72,1e61,73,1e65,15b,1e67,161,1e69,1e63,1e6b,74,1e87,77,1e8b,78
   307:1e8f,79,105c9,105d2,105e4,105da
   308:e4,61,eb,65,ef,69,f6,6f,fc,75,ff,79,3ca,3b9,3cb,3c5,451,435,457,456,4d3,430,4db,4d9
   308:4dd,436,4df,437,4e5,438,4e7,43e,4eb,4e9,4ed,44d,4f1,443,4f5,447,4f9,44b,1e27,68
   308:1e4f,f5,1e7b,16b,1e85,77,1e8d,78,1e97,74
   309:1ea3,61,1ea9,e2,1eb3,103,1ebb,65,1ec3,ea,1ec9,69,1ecf,6f,1ed5,f4,1edf,1a1,1ee7,75
   309:1eed,1b0,1ef7,79 30a:e5,61,16f,75,1e98,77,1e99,79 30b:151,6f,171,75,4f3,443
   30c:10d,63,10f,64,11b,65,13e,6c,148,6e,159,72,161,73,165,74,17e,7a,1ce,61,1d0,69,1d2,6f
   30c:1d4,75,1da,fc,1e7,67,1e9,6b,1ef,292,1f0,6a,21f,68
   30f:201,61,205,65,209,69,20d,6f,211,72,215,75,477,475
   311:203,61,207,65,20b,69,20f,6f,213,72,217,75
   313:1f00,3b1,1f10,3b5,1f20,3b7,1f30,3b9,1f40,3bf,1f50,3c5,1f60,3c9,1fe4,3c1
   314:1f01,3b1,1f11,3b5,1f21,3b7,1f31,3b9,1f41,3bf,1f51,3c5,1f61,3c9,1fe5,3c1 31b:1a1,6f,1b0,75
   323:1e05,62,1e0d,64,1e25,68,1e33,6b,1e37,6c,1e43,6d,1e47,6e,1e5b,72,1e63,73,1e6d,74
   323:1e7f,76,1e89,77,1e93,7a,1ea1,61,1eb9,65,1ecb,69,1ecd,6f,1ee3,1a1,1ee5,75,1ef1,1b0
   323:1ef5,79 324:1e73,75 325:1e01,61 326:219,73,21b,74
   327:e7,63,123,67,137,6b,13c,6c,146,6e,157,72,15f,73,163,74,229,65,1e11,64,1e29,68
   328:105,61,119,65,12f,69,173,75,1eb,6f 32d:1e13,64,1e19,65,1e3d,6c,1e4b,6e,1e71,74,1e77,75
   32e:1e2b,68 330:1e1b,65,1e2d,69,1e75,75
   331:1e07,62,1e0f,64,1e35,6b,1e3b,6c,1e49,6e,1e5f,72,1e6f,74,1e95,7a,1e96,68
   338:219a,2190,219b,2192,21ae,2194,21cd,21d0,21ce,21d4,21cf,21d2,2204,2203,2209,2208
   338:220c,220b,2224,2223,2226,2225,2241,223c,2244,2243,2247,2245,2249,2248,2260,3d
   338:2262,2261,226d,224d,226e,3c,226f,3e,2270,2264,2271,2265,2274,2272,2275,2273,2278,2276
   338:2279,2277,2280,227a,2281,227b,2284,2282,2285,2283,2288,2286,2289,2287,22ac,22a2
   338:22ad,22a8,22ae,22a9,22af,22ab,22e0,227c,22e1,227d,22e2,2291,22e3,2292,22ea,22b2
   338:22eb,22b3,22ec,22b4,22ed,22b5
   342:1f06,1f00,1f07,1f01,1f26,1f20,1f27,1f21,1f36,1f30,1f37,1f31,1f56,1f50,1f57,1f51
   342:1f66,1f60,1f67,1f61,1fb6,3b1,1fc6,3b7,1fd6,3b9,1fd7,3ca,1fe6,3c5,1fe7,3cb,1ff6,3c9
   653:622,627 654:623,627,624,648,626,64a,6c0,6d5,6c2,6c1,6d3,6d2 655:625,627
   93c:929,928,931,930,934,933 9be:9cb,9c7 9d7:9cc,9c7 b3e:b4b,b47 b56:b48,b47 b57:b4c,b47
   bbe:bca,bc6,bcb,bc7 bd7:b94,b92,bcc,bc6 c56:c48,c46 cc2:cca,cc6 cd5:cc0,cbf,cc7,cc6,ccb,cca
   cd6:cc8,cc6 d3e:d4a,d46,d4b,d47 d57:d4c,d46 dca:dda,dd9,ddd,ddc dcf:ddc,dd9 ddf:dde,dd9
   102e:1026,1025
   1b35:1b06,1b05,1b08,1b07,1b0a,1b09,1b0c,1b0b,1b0e,1b0d,1b12,1b11,1b3b,1b3a,1b3d,1b3c
   1b35:1b40,1b3e,1b41,1b3f,1b43,1b42
   3099:304c,304b,304e,304d,3050,304f,3052,3051,3054,3053,3056,3055,3058,3057,305a,3059
   3099:305c,305b,305e,305d,3060,305f,3062,3061,3065,3064,3067,3066,3069,3068,3070,306f
   3099:3073,3072,3076,3075,3079,3078,307c,307b,3094,3046,309e,309d,30ac,30ab,30ae,30ad
   3099:30b0,30af,30b2,30b1,30b4,30b3,30b6,30b5,30b8,30b7,30ba,30b9,30bc,30bb,30be,30bd
   3099:30c0,30bf,30c2,30c1,30c5,30c4,30c7,30c6,30c9,30c8,30d0,30cf,30d3,30d2,30d6,30d5
   3099:30d9,30d8,30dc,30db,30f4,30a6,30f7,30ef,30f8,30f0,30f9,30f1,30fa,30f2,30fe,30fd
   309a:3071,306f,3074,3072,3077,3075,307a,3078,307d,307b,30d1,30cf,30d4,30d2,30d7,30d5
   309a:30da,30d8,30dd,30db 110ba:1109a,11099,1109c,1109b,110ab,110a5 11127:1112e,11131,1112f,11132
   1133e:1134b,11347 11357:1134c,11347 113b8:113c7,113c2 113bb:11385,11384
   113c2:1138e,1138b,113c5,113c2 113c9:11383,11382,11391,11390,113c8,113c2 114b0:114bc,114b9
   114ba:114bb,114b9 114bd:114be,114b9 115af:115ba,115b8,115bb,115b9 11930:11938,11935
   1611e:16121,1611e 1611f:16123,1611e,16124,16129,16126,16121,16127,16122
   16120:16125,1611e,16128,16121 16129:16122,1611e 16d67:16d68,16d67,16d69,16d63,16d6a,16d69"

/-- The ranges that a text lists for each combining class. -/
def classesOfText (s : String) : List (Nat × Ranges) :=
  (words s.toList).filterMap fun item =>
    match splitWhere (· == ':') item with
    | [number, ranges] =>
      some (ofDigits 16 number, Ranges.ofText (String.ofList
        (ranges.map fun c => if c = ',' then ' ' else c)))
    | _ => none

/-- Characters that combine with the one before, by combining class. -/
def classes : List (Nat × Ranges) := classesOfText
  "1:334-338,1cd4,1ce2-1ce8,20d2-20d3,20d8-20da,20e5-20e6,20ea-20eb,10a39,16af0-16af4,1bc9e
   1:1d167-1d169 6:16ff0-16ff1
   7:93c,9bc,a3c,abc,b3c,c3c,cbc,1037,1b34,1be6,1c37,a9b3,110ba,11173,111ca,11236
   7:112e9,1133b-1133c,11446,114c3,115c0,116b7,1183a,11943,11d42,1e94a 8:3099-309a
   9:94d,9cd,a4d,acd,b4d,bcd,c4d,ccd,d3b-d3c,d4d,dca,e3a,eba,f84,1039-103a,1714-1715
   9:1734,17d2,1a60,1b44,1baa-1bab,1bf2-1bf3,2d7f,a806,a82c,a8c4,a953,a9c0,aaf6,abed
   9:10a3f,11046,11070,1107f,110b9,11133-11134,111c0,11235,112ea,1134d,11442,114c2
   9:115bf,1163f,116b6,1172b,11839,1193d-1193e,119e0,11a34,11a47,11a99,11c3f,11d44-11d45
   9:11d97,11f41-11f42 a:5b0 b:5b1 c:5b2 d:5b3 e:5b4 f:5b5 10:5b6 11:5b7 12:5b8,5c7 13:5b9-5ba
   14:5bb 15:5bc 16:5bd 17:5bf 18:5c1 19:5c2 1a:fb1e 1b:64b,8f0 1c:64c,8f1 1d:64d,8f2 1e:618,64e
   1f:619,64f 20:61a,650 21:651 22:652 23:670 24:711 54:c55 5b:c56 67:e38-e39 6b:e48-e4b 76:eb8-eb9
   7a:ec8-ecb 81:f71 82:f72,f7a-f7d,f80 84:f74 ca:321-322,327-328,1dd0 d6:1dce
   d8:31b,f39,1d165-1d166,1d16e-1d172 da:1dfa,302a
   dc:316-319,31c-320,323-326,329-333,339-33c,347-349,34d-34e,353-356,359-35a,591,596,59b
   dc:5a2-5a7,5aa,5c5,655-656,65c,65f,6e3,6ea,6ed,731,734,737-739,73b-73c,73e,742,744,746,748
   dc:7f2,7fd,859-85b,899-89b,8cf-8d3,8e3,8e6,8e9,8ed-8ef,8f6,8f9-8fa,952,f18-f19,f35,f37,fc6
   dc:108d,193b,1a18,1a7f,1ab5-1aba,1abd,1abf-1ac0,1ac3-1ac4,1aca,1b6c,1cd5-1cd9,1cdc-1cdf
   dc:1ced,1dc2,1dca,1dcf,1df9,1dfd,1dff,20e8,20ec-20ef,a92b-a92d,aab4,fe27-fe2d,101fd,102e0
   dc:10a0d,10a3a,10ae6,10efd-10eff,10f46-10f47,10f4b,10f4d-10f50,10f83,10f85,1d17b-1d182
   dc:1d18a-1d18b,1e4ee,1e8d0-1e8d6 de:59a,5ad,1939,302d e0:302e-302f e2:1d16d
   e4:5ae,18a9,1df7-1df8,302b
   e6:300-314,33d-33f,342,346,34a-34c,350-352,357,35b,363-36f,483-487,592-595,597-599
   e6:59c-5a1,5a8-5a9,5ab-5ac,5af,5c4,610-617,653-654,657-65b,65d-65e,6d6-6dc,6df-6e2,6e4
   e6:6e7-6e8,6eb-6ec,730,732-733,735-736,73a,73d,73f-741,743,745,747,749-74a,7eb-7f1,7f3
   e6:816-819,81b-823,825-827,829-82d,898,89c-89f,8ca-8ce,8d4-8e1,8e4-8e5,8e7-8e8
   e6:8ea-8ec,8f3-8f5,8f7-8f8,8fb-8ff,951,953-954,9fe,f82-f83,f86-f87,135d-135f,17dd,193a
   e6:1a17,1a75-1a7c,1ab0-1ab4,1abb-1abc,1ac1-1ac2,1ac5-1ac9,1acb-1ace,1b6b
   e6:1b6d-1b73,1cd0-1cd2,1cda-1cdb,1ce0,1cf4,1cf8-1cf9,1dc0-1dc1,1dc3-1dc9
   e6:1dcb-1dcc,1dd1-1df5,1dfb,1dfe,20d0-20d1,20d4-20d7,20db-20dc,20e1,20e7,20e9
   e6:20f0,2cef-2cf1,2de0-2dff,a66f,a674-a67d,a69e-a69f,a6f0-a6f1,a8e0-a8f1,aab0,aab2-aab3
   e6:aab7-aab8,aabe-aabf,aac1,fe20-fe26,fe2e-fe2f,10376-1037a,10a0f,10a38,10ae5,10d24-10d27
   e6:10eab-10eac,10f48-10f4a,10f4c,10f82,10f84,11100-11102,11366-1136c,11370-11374
   e6:1145e,16b30-16b36,1d185-1d189,1d1aa-1d1ad,1d242-1d244,1e000-1e006
   e6:1e008-1e018,1e01b-1e021,1e023-1e024,1e026-1e02a,1e08f,1e130-1e136,1e2ae,1e2ec-1e2ef
   e6:1e4ef,1e944-1e949 e8:315,31a,358,1df6,302c,1e4ec-1e4ed e9:35c,35f,362,1dfc
   ea:35d-35e,360-361,1dcd"

end FunctionLoad.Url.Domain
