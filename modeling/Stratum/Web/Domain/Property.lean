import Stratum.Web.Domain.Table

/-!
# Properties of characters in domain names

Which characters a domain name may contain, and what has to be known of them: which are marks,
in which order marks are put, in which direction letters are read, and how letters join. The
properties are only asked of valid characters, so a range may run over others.
-/

namespace Stratum.Domain

/-- The characters that stay as they are. -/
def validText : String := "
  0-40 5b-7f a1-a7 a9 ab-ac ae b0-b1 b6-b7 bb bf d7 df-ff 101 103 105 107 109 10b 10d 10f 111 113
  115 117 119 11b 11d 11f 121 123 125 127 129 12b 12d 12f 131 135 137-138 13a 13c 13e 142 144 146
  148 14b 14d 14f 151 153 155 157 159 15b 15d 15f 161 163 165 167 169 16b 16d 16f 171 173 175 177
  17a 17c 17e 180 183 185 188 18c-18d 192 195 199-19b 19e 1a1 1a3 1a5 1a8 1aa-1ab 1ad 1b0 1b4 1b6
  1b9-1bb 1bd-1c3 1ce 1d0 1d2 1d4 1d6 1d8 1da 1dc-1dd 1df 1e1 1e3 1e5 1e7 1e9 1eb 1ed 1ef-1f0 1f5
  1f9 1fb 1fd 1ff 201 203 205 207 209 20b 20d 20f 211 213 215 217 219 21b 21d 21f 221 223 225 227
  229 22b 22d 22f 231 233-239 23c 23f-240 242 247 249 24b 24d 24f-2af 2b9-2d7 2de-2df 2e5-33f 342
  346-34e 350-36f 371 373 375 377 37b-37d 390 3ac-3ce 3d7 3d9 3db 3dd 3df 3e1 3e3 3e5 3e7 3e9 3eb
  3ed 3ef 3f3 3f6 3f8 3fb-3fc 430-45f 461 463 465 467 469 46b 46d 46f 471 473 475 477 479 47b 47d
  47f 481-489 48b 48d 48f 491 493 495 497 499 49b 49d 49f 4a1 4a3 4a5 4a7 4a9 4ab 4ad 4af 4b1 4b3
  4b5 4b7 4b9 4bb 4bd 4bf 4c2 4c4 4c6 4c8 4ca 4cc 4ce-4cf 4d1 4d3 4d5 4d7 4d9 4db 4dd 4df 4e1 4e3
  4e5 4e7 4e9 4eb 4ed 4ef 4f1 4f3 4f5 4f7 4f9 4fb 4fd 4ff 501 503 505 507 509 50b 50d 50f 511 513
  515 517 519 51b 51d 51f 521 523 525 527 529 52b 52d 52f 559-586 588-58a 58d-58f 591-5c7 5d0-5ea
  5ef-5f4 606-61b 61d-674 679-6dc 6de-70d 710-74a 74d-7b1 7c0-7fa 7fd-82d 830-83e 840-85b 85e
  860-86a 870-88f 897-8e1 8e3-957 960-983 985-98c 98f-990 993-9a8 9aa-9b0 9b2 9b6-9b9 9bc-9c4
  9c7-9c8 9cb-9ce 9d7 9e0-9e3 9e6-9fe a01-a03 a05-a0a a0f-a10 a13-a28 a2a-a30 a32 a35 a38-a39 a3c
  a3e-a42 a47-a48 a4b-a4d a51 a5c a66-a76 a81-a83 a85-a8d a8f-a91 a93-aa8 aaa-ab0 ab2-ab3 ab5-ab9
  abc-ac5 ac7-ac9 acb-acd ad0 ae0-ae3 ae6-af1 af9-aff b01-b03 b05-b0c b0f-b10 b13-b28 b2a-b30
  b32-b33 b35-b39 b3c-b44 b47-b48 b4b-b4d b55-b57 b5f-b63 b66-b77 b82-b83 b85-b8a b8e-b90 b92-b95
  b99-b9a b9c b9e-b9f ba3-ba4 ba8-baa bae-bb9 bbe-bc2 bc6-bc8 bca-bcd bd0 bd7 be6-bfa c00-c0c
  c0e-c10 c12-c28 c2a-c39 c3c-c44 c46-c48 c4a-c4d c55-c56 c58-c5a c5c-c5d c60-c63 c66-c6f c77-c8c
  c8e-c90 c92-ca8 caa-cb3 cb5-cb9 cbc-cc4 cc6-cc8 cca-ccd cd5-cd6 cdc-cde ce0-ce3 ce6-cef cf1-cf3
  d00-d0c d0e-d10 d12-d44 d46-d48 d4a-d4f d54-d63 d66-d7f d81-d83 d85-d96 d9a-db1 db3-dbb dbd
  dc0-dc6 dca dcf-dd4 dd6 dd8-ddf de6-def df2-df4 e01-e32 e34-e3a e3f-e5b e81-e82 e84 e86-e8a
  e8c-ea3 ea5 ea7-eb2 eb4-ebd ec0-ec4 ec6 ec8-ece ed0-ed9 ede-edf f00-f0b f0d-f42 f44-f47 f49-f4c
  f4e-f51 f53-f56 f58-f5b f5d-f68 f6a-f6c f71-f72 f74 f7a-f80 f82-f92 f94-f97 f99-f9c f9e-fa1
  fa3-fa6 fa8-fab fad-fb8 fba-fbc fbe-fcc fce-fda 1000-109f 10d0-10fb 10fd-115e 1161-1248
  124a-124d 1250-1256 1258 125a-125d 1260-1288 128a-128d 1290-12b0 12b2-12b5 12b8-12be 12c0
  12c2-12c5 12c8-12d6 12d8-1310 1312-1315 1318-135a 135d-137c 1380-1399 13a0-13f5 1400-167f
  1681-169c 16a0-16f8 1700-1715 171f-1736 1740-1753 1760-176c 176e-1770 1772-1773 1780-17b3
  17b6-17dd 17e0-17e9 17f0-17f9 1800-180a 1810-1819 1820-1878 1880-18aa 18b0-18f5 1900-191e
  1920-192b 1930-193b 1940 1944-196d 1970-1974 1980-19ab 19b0-19c9 19d0-19da 19de-1a1b 1a1e-1a5e
  1a60-1a7c 1a7f-1a89 1a90-1a99 1aa0-1aad 1ab0-1add 1ae0-1aeb 1b00-1b4c 1b4e-1bf3 1bfc-1c37
  1c3b-1c49 1c4d-1c7f 1c8a 1cc0-1cc7 1cd0-1cfa 1d00-1d2b 1d2f 1d3b 1d4e 1d6b-1d77 1d79-1d9a
  1dc0-1dff 1e01 1e03 1e05 1e07 1e09 1e0b 1e0d 1e0f 1e11 1e13 1e15 1e17 1e19 1e1b 1e1d 1e1f 1e21
  1e23 1e25 1e27 1e29 1e2b 1e2d 1e2f 1e31 1e33 1e35 1e37 1e39 1e3b 1e3d 1e3f 1e41 1e43 1e45 1e47
  1e49 1e4b 1e4d 1e4f 1e51 1e53 1e55 1e57 1e59 1e5b 1e5d 1e5f 1e61 1e63 1e65 1e67 1e69 1e6b 1e6d
  1e6f 1e71 1e73 1e75 1e77 1e79 1e7b 1e7d 1e7f 1e81 1e83 1e85 1e87 1e89 1e8b 1e8d 1e8f 1e91 1e93
  1e95-1e99 1e9c-1e9d 1e9f 1ea1 1ea3 1ea5 1ea7 1ea9 1eab 1ead 1eaf 1eb1 1eb3 1eb5 1eb7 1eb9 1ebb
  1ebd 1ebf 1ec1 1ec3 1ec5 1ec7 1ec9 1ecb 1ecd 1ecf 1ed1 1ed3 1ed5 1ed7 1ed9 1edb 1edd 1edf 1ee1
  1ee3 1ee5 1ee7 1ee9 1eeb 1eed 1eef 1ef1 1ef3 1ef5 1ef7 1ef9 1efb 1efd 1eff-1f07 1f10-1f15
  1f20-1f27 1f30-1f37 1f40-1f45 1f50-1f57 1f60-1f67 1f70 1f72 1f74 1f76 1f78 1f7a 1f7c 1fb0-1fb1
  1fb6 1fc6 1fd0-1fd2 1fd6-1fd7 1fe0-1fe2 1fe4-1fe7 1ff6 200c-200d 2010 2012-2016 2018-2023 2027
  2030-2032 2035 2038-203b 203d 203f-2046 204a-2056 2058-205e 20a0-20a7 20a9-20c1 20d0-20f0 2104
  2108 2114 2117-2118 211e-211f 2123 2125 2127 2129 212e 213a 2141-2144 214a-214f 2180-2182
  2184-2188 218a-218b 2190-222b 222e 2231-2328 232b-2429 2440-244a 24eb-2a0b 2a0d-2a73 2a77-2adb
  2add-2b73 2b76-2bff 2c30-2c5f 2c61 2c65-2c66 2c68 2c6a 2c6c 2c71 2c73-2c74 2c76-2c7b 2c81 2c83
  2c85 2c87 2c89 2c8b 2c8d 2c8f 2c91 2c93 2c95 2c97 2c99 2c9b 2c9d 2c9f 2ca1 2ca3 2ca5 2ca7 2ca9
  2cab 2cad 2caf 2cb1 2cb3 2cb5 2cb7 2cb9 2cbb 2cbd 2cbf 2cc1 2cc3 2cc5 2cc7 2cc9 2ccb 2ccd 2ccf
  2cd1 2cd3 2cd5 2cd7 2cd9 2cdb 2cdd 2cdf 2ce1 2ce3-2cea 2cec 2cee-2cf1 2cf3 2cf9-2d25 2d27 2d2d
  2d30-2d67 2d70 2d7f-2d96 2da0-2da6 2da8-2dae 2db0-2db6 2db8-2dbe 2dc0-2dc6 2dc8-2dce 2dd0-2dd6
  2dd8-2dde 2de0-2e5d 2e80-2e99 2e9b-2e9e 2ea0-2ef2 3001 3003-3035 3037 303b-303f 3041-3096
  3099-309a 309d-309e 30a0-30fe 3105-312f 3190-3191 31a0-31e5 31f0-31ff 3248-324f 327f 3400-a48c
  a490-a4c6 a4d0-a62b a641 a643 a645 a647 a649 a64b a64d a64f a651 a653 a655 a657 a659 a65b a65d
  a65f a661 a663 a665 a667 a669 a66b a66d-a67f a681 a683 a685 a687 a689 a68b a68d a68f a691 a693
  a695 a697 a699 a69b a69e-a6f7 a700-a721 a723 a725 a727 a729 a72b a72d a72f-a731 a733 a735 a737
  a739 a73b a73d a73f a741 a743 a745 a747 a749 a74b a74d a74f a751 a753 a755 a757 a759 a75b a75d
  a75f a761 a763 a765 a767 a769 a76b a76d a76f a771-a778 a77a a77c a77f a781 a783 a785 a787-a78a
  a78c a78e-a78f a791 a793-a795 a797 a799 a79b a79d a79f a7a1 a7a3 a7a5 a7a7 a7a9 a7af a7b5 a7b7
  a7b9 a7bb a7bd a7bf a7c1 a7c3 a7c8 a7ca a7cd a7cf a7d1 a7d3 a7d5 a7d7 a7d9 a7db a7f6-a7f7
  a7fa-a82c a830-a839 a840-a877 a880-a8c5 a8ce-a8d9 a8e0-a953 a95f-a97c a980-a9cd a9cf-a9d9
  a9de-a9fe aa00-aa36 aa40-aa4d aa50-aa59 aa5c-aac2 aadb-aaf6 ab01-ab06 ab09-ab0e ab11-ab16
  ab20-ab26 ab28-ab2e ab30-ab5b ab60-ab68 ab6a-ab6b abc0-abed abf0-abf9 ac00-d7a3 d7b0-d7c6
  d7cb-d7fb fa0e-fa0f fa11 fa13-fa14 fa1f fa21 fa23-fa24 fa27-fa29 fb1e fbb2-fbd2 fd3e-fd4f
  fd90-fd91 fdc8-fdcf fdfd-fdff fe20-fe2f fe45-fe46 fe73 10000-1000b 1000d-10026 10028-1003a
  1003c-1003d 1003f-1004d 10050-1005d 10080-100fa 10100-10102 10107-10133 10137-1018e 10190-1019c
  101a0 101d0-101fd 10280-1029c 102a0-102d0 102e0-102fb 10300-10323 1032d-1034a 10350-1037a
  10380-1039d 1039f-103c3 103c8-103d5 10428-1049d 104a0-104a9 104d8-104fb 10500-10527 10530-10563
  1056f 10597-105a1 105a3-105b1 105b3-105b9 105bb-105bc 105c0-105f3 10600-10736 10740-10755
  10760-10767 10780 10800-10805 10808 1080a-10835 10837-10838 1083c 1083f-10855 10857-1089e
  108a7-108af 108e0-108f2 108f4-108f5 108fb-1091b 1091f-10939 1093f-10959 10980-109b7 109bc-109cf
  109d2-10a03 10a05-10a06 10a0c-10a13 10a15-10a17 10a19-10a35 10a38-10a3a 10a3f-10a48 10a50-10a58
  10a60-10a9f 10ac0-10ae6 10aeb-10af6 10b00-10b35 10b39-10b55 10b58-10b72 10b78-10b91 10b99-10b9c
  10ba9-10baf 10c00-10c48 10cc0-10cf2 10cfa-10d27 10d30-10d39 10d40-10d4f 10d69-10d85 10d8e-10d8f
  10e60-10e7e 10e80-10ea9 10eab-10ead 10eb0-10eb1 10ec2-10ec7 10ed0-10ed8 10efa-10f27 10f30-10f59
  10f70-10f89 10fb0-10fcb 10fe0-10ff6 11000-1104d 11052-11075 1107f-110bc 110be-110c2 110d0-110e8
  110f0-110f9 11100-11134 11136-11147 11150-11176 11180-111df 111e1-111f4 11200-11211 11213-11241
  11280-11286 11288 1128a-1128d 1128f-1129d 1129f-112a9 112b0-112ea 112f0-112f9 11300-11303
  11305-1130c 1130f-11310 11313-11328 1132a-11330 11332-11333 11335-11339 1133b-11344 11347-11348
  1134b-1134d 11350 11357 1135d-11363 11366-1136c 11370-11374 11380-11389 1138b 1138e 11390-113b5
  113b7-113c0 113c2 113c5 113c7-113ca 113cc-113d5 113d7-113d8 113e1-113e2 11400-1145b 1145d-11461
  11480-114c7 114d0-114d9 11580-115b5 115b8-115dd 11600-11644 11650-11659 11660-1166c 11680-116b9
  116c0-116c9 116d0-116e3 11700-1171a 1171d-1172b 11730-11746 11800-1183b 118c0-118f2 118ff-11906
  11909 1190c-11913 11915-11916 11918-11935 11937-11938 1193b-11946 11950-11959 119a0-119a7
  119aa-119d7 119da-119e4 11a00-11a47 11a50-11aa2 11ab0-11af8 11b00-11b09 11b60-11b67 11bc0-11be1
  11bf0-11bf9 11c00-11c08 11c0a-11c36 11c38-11c45 11c50-11c6c 11c70-11c8f 11c92-11ca7 11ca9-11cb6
  11d00-11d06 11d08-11d09 11d0b-11d36 11d3a 11d3c-11d3d 11d3f-11d47 11d50-11d59 11d60-11d65
  11d67-11d68 11d6a-11d8e 11d90-11d91 11d93-11d98 11da0-11da9 11db0-11ddb 11de0-11de9 11ee0-11ef8
  11f00-11f10 11f12-11f3a 11f3e-11f5a 11fb0 11fc0-11ff1 11fff-12399 12400-1246e 12470-12474
  12480-12543 12f90-12ff2 13000-1342f 13440-13455 13460-143fa 14400-14646 16100-16139 16800-16a38
  16a40-16a5e 16a60-16a69 16a6e-16abe 16ac0-16ac9 16ad0-16aed 16af0-16af5 16b00-16b45 16b50-16b59
  16b5b-16b61 16b63-16b77 16b7d-16b8f 16d40-16d79 16e60-16e9a 16ebb-16ed3 16f00-16f4a 16f4f-16f87
  16f8f-16f9f 16fe0-16fe4 16ff0-16ff6 17000-18cd5 18cff-18d1e 18d80-18df2 1aff0-1aff3 1aff5-1affb
  1affd-1affe 1b000-1b122 1b132 1b150-1b152 1b155 1b164-1b167 1b170-1b2fb 1bc00-1bc6a 1bc70-1bc7c
  1bc80-1bc88 1bc90-1bc99 1bc9c-1bc9f 1cc00-1ccd5 1ccfa-1ccfc 1cd00-1ceb3 1ceba-1ced0 1cee0-1cef0
  1cf00-1cf2d 1cf30-1cf46 1cf50-1cfc3 1d000-1d0f5 1d100-1d126 1d129-1d15d 1d165-1d172 1d17b-1d1ba
  1d1c1-1d1ea 1d200-1d245 1d2c0-1d2d3 1d2e0-1d2f3 1d300-1d356 1d360-1d378 1d800-1da8b 1da9b-1da9f
  1daa1-1daaf 1df00-1df1e 1df25-1df2a 1e000-1e006 1e008-1e018 1e01b-1e021 1e023-1e024 1e026-1e02a
  1e08f 1e100-1e12c 1e130-1e13d 1e140-1e149 1e14e-1e14f 1e290-1e2ae 1e2c0-1e2f9 1e2ff 1e4d0-1e4f9
  1e5d0-1e5fa 1e5ff 1e6c0-1e6de 1e6e0-1e6f5 1e6fe-1e6ff 1e7e0-1e7e6 1e7e8-1e7eb 1e7ed-1e7ee
  1e7f0-1e7fe 1e800-1e8c4 1e8c7-1e8d6 1e922-1e94b 1e950-1e959 1e95e-1e95f 1ec71-1ecb4 1ed01-1ed3d
  1eef0-1eef1 1f000-1f02b 1f030-1f093 1f0a0-1f0ae 1f0b1-1f0bf 1f0c1-1f0cf 1f0d1-1f0f5 1f10b-1f10f
  1f12f 1f150-1f169 1f16d-1f18f 1f191-1f1ad 1f1e6-1f1ff 1f260-1f265 1f300-1f6d8 1f6dc-1f6ec
  1f6f0-1f6fc 1f700-1f7d9 1f7e0-1f7eb 1f7f0 1f800-1f80b 1f810-1f847 1f850-1f859 1f860-1f887
  1f890-1f8ad 1f8b0-1f8bb 1f8c0-1f8c1 1f8d0-1f8d8 1f900-1fa57 1fa60-1fa6d 1fa70-1fa7c 1fa80-1fa8a
  1fa8e-1fac6 1fac8 1facd-1fadc 1fadf-1faea 1faef-1faf8 1fb00-1fb92 1fb94-1fbef 1fbfa 20000-2a6df
  2a700-2b81d 2b820-2cead 2ceb0-2ebe0 2ebf0-2ee5d 30000-3134a 31350-33479"

/-- The marks, which combine with the character before them. -/
def markText : String := "
  300-36f 483-489 591-5bd 5bf 5c1-5c2 5c4-5c5 5c7 610-61a 64b-65f 670 6d6-6dc 6df-6e4 6e7-6e8
  6ea-6ed 711 730-74a 7a6-7b0 7eb-7f3 7fd 816-819 81b-823 825-827 829-82d 859-85b 897-89f 8ca-903
  93a-93c 93e-94f 951-957 962-963 981-983 9bc 9be-9cd 9d7 9e2-9e3 9fe-a03 a3c-a51 a70-a71 a75
  a81-a83 abc abe-acd ae2-ae3 afa-b03 b3c b3e-b57 b62-b63 b82 bbe-bcd bd7 c00-c04 c3c c3e-c56
  c62-c63 c81-c83 cbc cbe-cd6 ce2-ce3 cf3-d03 d3b-d3c d3e-d4d d57 d62-d63 d81-d83 dca-ddf df2-df3
  e31 e34-e3a e47-e4e eb1 eb4-ebc ec8-ece f18-f19 f35 f37 f39 f3e-f3f f71-f84 f86-f87 f8d-fbc fc6
  102b-103e 1056-1059 105e-1060 1062-1064 1067-106d 1071-1074 1082-108d 108f 109a-109d 135d-135f
  1712-1715 1732-1734 1752-1753 1772-1773 17b6-17d3 17dd 1885-1886 18a9 1920-193b 1a17-1a1b
  1a55-1a7f 1ab0-1b04 1b34-1b44 1b6b-1b73 1b80-1b82 1ba1-1bad 1be6-1bf3 1c24-1c37 1cd0-1cd2
  1cd4-1ce8 1ced 1cf4 1cf7-1cf9 1dc0-1dff 20d0-20f0 2cef-2cf1 2d7f 2de0-2dff 302a-302f 3099-309a
  a66f-a672 a674-a67d a69e-a69f a6f0-a6f1 a802 a806 a80b a823-a827 a82c a880-a881 a8b4-a8c5
  a8e0-a8f1 a8ff a926-a92d a947-a953 a980-a983 a9b3-a9c0 a9e5 aa29-aa36 aa43 aa4c-aa4d aa7b-aa7d
  aab0 aab2-aab4 aab7-aab8 aabe-aabf aac1 aaeb-aaef aaf5-aaf6 abe3-abea abec-abed fb1e fe20-fe2f
  101fd 102e0 10376-1037a 10a01-10a0f 10a38-10a3f 10ae5-10ae6 10d24-10d27 10d69-10d6d 10eab-10eac
  10efa-10eff 10f46-10f50 10f82-10f85 11000-11002 11038-11046 11070 11073-11074 1107f-11082
  110b0-110ba 110c2 11100-11102 11127-11134 11145-11146 11173 11180-11182 111b3-111c0 111c9-111cc
  111ce-111cf 1122c-11237 1123e 11241 112df-112ea 11300-11303 1133b-1133c 1133e-1134d 11357
  11362-11374 113b8-113d0 113d2 113e1-113e2 11435-11446 1145e 114b0-114c3 115af-115c0 115dc-115dd
  11630-11640 116ab-116b7 1171d-1172b 1182c-1183a 11930-1193e 11940 11942-11943 119d1-119e0 119e4
  11a01-11a0a 11a33-11a39 11a3b-11a3e 11a47 11a51-11a5b 11a8a-11a99 11b60-11b67 11c2f-11c3f
  11c92-11cb6 11d31-11d45 11d47 11d8a-11d97 11ef3-11ef6 11f00-11f01 11f03 11f34-11f42 11f5a 13440
  13447-13455 1611e-1612f 16af0-16af4 16b30-16b36 16f4f 16f51-16f92 16fe4-16ff1 1bc9d-1bc9e
  1cf00-1cf46 1d165-1d169 1d16d-1d182 1d185-1d18b 1d1aa-1d1ad 1d242-1d244 1da00-1da36 1da3b-1da6c
  1da75 1da84 1da9b-1daaf 1e000-1e08f 1e130-1e136 1e2ae 1e2ec-1e2ef 1e4ec-1e4ef 1e5ee-1e5ef 1e6e3
  1e6e6 1e6ee-1e6ef 1e6f5 1e8d0-1e8d6 1e944-1e94a"

/-- The places of marks among other marks, as far as they have one: the smaller goes first. -/
def classText : String := "
  300-314=e6 315=e8 316-319=dc 31a=e8 31b=d8 31c-320=dc 321-322=ca 323-326=dc 327-328=ca
  329-333=dc 334-338=1 339-33c=dc 33d-346=e6 347-349=dc 34a-34c=e6 34d-34e=dc 350-352=e6
  353-356=dc 357=e6 358=e8 359-35a=dc 35b=e6 35c=e9 35d-35e=ea 35f=e9 360-361=ea 362=e9 363-36f=e6
  483-487=e6 591=dc 592-595=e6 596=dc 597-599=e6 59a=de 59b=dc 59c-5a1=e6 5a2-5a7=dc 5a8-5a9=e6
  5aa=dc 5ab-5ac=e6 5ad=de 5ae=e4 5af=e6 5b0=a 5b1=b 5b2=c 5b3=d 5b4=e 5b5=f 5b6=10 5b7=11 5b8=12
  5b9-5ba=13 5bb=14 5bc=15 5bd=16 5bf=17 5c1=18 5c2=19 5c4=e6 5c5=dc 5c7=12 610-617=e6 618=1e
  619=1f 61a=20 64b=1b 64c=1c 64d=1d 64e=1e 64f=1f 650=20 651=21 652=22 653-654=e6 655-656=dc
  657-65b=e6 65c=dc 65d-65e=e6 65f=dc 670=23 6d6-6dc=e6 6df-6e2=e6 6e3=dc 6e4=e6 6e7-6e8=e6 6ea=dc
  6eb-6ec=e6 6ed=dc 711=24 730=e6 731=dc 732-733=e6 734=dc 735-736=e6 737-739=dc 73a=e6 73b-73c=dc
  73d=e6 73e=dc 73f-741=e6 742=dc 743=e6 744=dc 745=e6 746=dc 747=e6 748=dc 749-74a=e6 7eb-7f1=e6
  7f2=dc 7f3=e6 7fd=dc 816-819=e6 81b-823=e6 825-827=e6 829-82d=e6 859-85b=dc 897-898=e6
  899-89b=dc 89c-89f=e6 8ca-8ce=e6 8cf-8d3=dc 8d4-8e1=e6 8e3=dc 8e4-8e5=e6 8e6=dc 8e7-8e8=e6
  8e9=dc 8ea-8ec=e6 8ed-8ef=dc 8f0=1b 8f1=1c 8f2=1d 8f3-8f5=e6 8f6=dc 8f7-8f8=e6 8f9-8fa=dc
  8fb-8ff=e6 93c=7 94d=9 951=e6 952=dc 953-954=e6 9bc=7 9cd=9 9fe=e6 a3c=7 a4d=9 abc=7 acd=9 b3c=7
  b4d=9 bcd=9 c3c=7 c4d=9 c55=54 c56=5b cbc=7 ccd=9 d3b-d3c=9 d4d=9 dca=9 e38-e39=67 e3a=9
  e48-e4b=6b eb8-eb9=76 eba=9 ec8-ecb=7a f18-f19=dc f35=dc f37=dc f39=d8 f71=81 f72=82 f74=84
  f7a-f7d=82 f80=82 f82-f83=e6 f84=9 f86-f87=e6 fc6=dc 1037=7 1039-103a=9 108d=dc 135d-135f=e6
  1714-1715=9 1734=9 17d2=9 17dd=e6 18a9=e4 1939=de 193a=e6 193b=dc 1a17=e6 1a18=dc 1a60=9
  1a75-1a7c=e6 1a7f=dc 1ab0-1ab4=e6 1ab5-1aba=dc 1abb-1abc=e6 1abd=dc 1abf-1ac0=dc 1ac1-1ac2=e6
  1ac3-1ac4=dc 1ac5-1ac9=e6 1aca=dc 1acb-1adc=e6 1add=dc 1ae0-1ae5=e6 1ae6=dc 1ae7-1aea=e6 1aeb=ea
  1b34=7 1b44=9 1b6b=e6 1b6c=dc 1b6d-1b73=e6 1baa-1bab=9 1be6=7 1bf2-1bf3=9 1c37=7 1cd0-1cd2=e6
  1cd4=1 1cd5-1cd9=dc 1cda-1cdb=e6 1cdc-1cdf=dc 1ce0=e6 1ce2-1ce8=1 1ced=dc 1cf4=e6 1cf8-1cf9=e6
  1dc0-1dc1=e6 1dc2=dc 1dc3-1dc9=e6 1dca=dc 1dcb-1dcc=e6 1dcd=ea 1dce=d6 1dcf=dc 1dd0=ca
  1dd1-1df5=e6 1df6=e8 1df7-1df8=e4 1df9=dc 1dfa=da 1dfb=e6 1dfc=e9 1dfd=dc 1dfe=e6 1dff=dc
  20d0-20d1=e6 20d2-20d3=1 20d4-20d7=e6 20d8-20da=1 20db-20dc=e6 20e1=e6 20e5-20e6=1 20e7=e6
  20e8=dc 20e9=e6 20ea-20eb=1 20ec-20ef=dc 20f0=e6 2cef-2cf1=e6 2d7f=9 2de0-2dff=e6 302a=da
  302b=e4 302c=e8 302d=de 302e-302f=e0 3099-309a=8 a66f=e6 a674-a67d=e6 a69e-a69f=e6 a6f0-a6f1=e6
  a806=9 a82c=9 a8c4=9 a8e0-a8f1=e6 a92b-a92d=dc a953=9 a9b3=7 a9c0=9 aab0=e6 aab2-aab3=e6 aab4=dc
  aab7-aab8=e6 aabe-aabf=e6 aac1=e6 aaf6=9 abed=9 fb1e=1a fe20-fe26=e6 fe27-fe2d=dc fe2e-fe2f=e6
  101fd=dc 102e0=dc 10376-1037a=e6 10a0d=dc 10a0f=e6 10a38=e6 10a39=1 10a3a=dc 10a3f=9 10ae5=e6
  10ae6=dc 10d24-10d27=e6 10d69-10d6d=e6 10eab-10eac=e6 10efa-10efb=dc 10efd-10eff=dc
  10f46-10f47=dc 10f48-10f4a=e6 10f4b=dc 10f4c=e6 10f4d-10f50=dc 10f82=e6 10f83=dc 10f84=e6
  10f85=dc 11046=9 11070=9 1107f=9 110b9=9 110ba=7 11100-11102=e6 11133-11134=9 11173=7 111c0=9
  111ca=7 11235=9 11236=7 112e9=7 112ea=9 1133b-1133c=7 1134d=9 11366-11374=e6 113ce-113d0=9
  11442=9 11446=7 1145e=e6 114c2=9 114c3=7 115bf=9 115c0=7 1163f=9 116b6=9 116b7=7 1172b=9 11839=9
  1183a=7 1193d-1193e=9 11943=7 119e0=9 11a34=9 11a47=9 11a99=9 11c3f=9 11d42=7 11d44-11d45=9
  11d97=9 11f41-11f42=9 1612f=9 16af0-16af4=1 16b30-16b36=e6 16ff0-16ff1=6 1bc9e=1 1d165-1d166=d8
  1d167-1d169=1 1d16d=e2 1d16e-1d172=d8 1d17b-1d182=dc 1d185-1d189=e6 1d18a-1d18b=dc
  1d1aa-1d1ad=e6 1d242-1d244=e6 1e000-1e08f=e6 1e130-1e136=e6 1e2ae=e6 1e2ec-1e2ef=e6
  1e4ec-1e4ed=e8 1e4ee=dc 1e4ef=e6 1e5ee=e6 1e5ef=dc 1e6e3=e6 1e6e6=e6 1e6ee-1e6ef=e6 1e6f5=e6
  1e8d0-1e8d6=dc 1e944-1e949=e6 1e94a=7"

/-- Letters that are read from right to left. -/
def rightToLeftText : String := "
  5be 5c0 5c3 5c6 5d0-5f4 7c0-7ea 7f4-7f5 7fa 7fe-815 81a 824 828 830-858 85e 10800-1091b
  10920-10a00 10a10-10a35 10a40-10ae4 10aeb-10b35 10b40-10cff 10d40-10d4f 10d6f-10d85 10e80-10ea9
  10ead-10eb1 10f00-10f27 10f70-10f81 10f86-10ff6 1e800-1e8cf 1e922-1e943 1e94b-1e95f"

/-- Arabic letters. -/
def arabicLetterText : String := "
  608 60b 60d 61b-64a 66d-66f 671-6d5 6e5-6e6 6ee-6ef 6fa-710 712-72f 74d-7a5 7b1 860-88f 8a0-8c9
  fbb2-fbc2 fe73 10d00-10d23 10ec2-10ec7 10f30-10f45 10f51-10f59 1ec71-1ed3d"

/-- Arabic digits and their like. -/
def arabicNumberText : String := "
  660-669 66b-66c 10d30-10d39 10e60-10e7e"

/-- European digits and their like. -/
def europeanNumberText : String := "
  30-39 6f0-6f9 102e1-102fb"

/-- Signs that belong to a number. -/
def numberSignText : String := "
  2b 2d 2212"

/-- Separators inside numbers. -/
def numberSeparatorText : String := "
  2c 2e-2f 3a 60c 2044"

/-- Signs around numbers. -/
def numberTerminatorText : String := "
  23-25 a2-a5 b0-b1 58f 609-60a 66a 9f2-9f3 9fb af1 bf9 e3f 17db 2030-2032 20a0-20c0 212e 2213
  a838-a839 11fdd-11fe0 1e2ff"

/-- Characters without a direction. -/
def neutralText : String := "
  21-22 26-2a 3b-60 7b-7e a1 a6-ae b6-d7 f7 2b9-2ba 2c2-2cf 2d2-2ed 2ef-2ff 375 3f6 58a-58e
  606-607 60e-60f 6de 6e9 7f6-7f9 bf3-bf8 bfa c78-c7e f3a-f3d 1390-1399 1400 169b-169c 17f0-180a
  1940-1945 19de-19ff 1b4e-1b4f 1b7f 2010-2027 2035-2043 2045-205e 20c1 2104-2129 213a-214d
  218a-2211 2214-2335 237b-2394 2396-26ab 26ad-27ff 2900-2bff 2ce5-2cea 2cf9-2cff 2e00-3004
  3008-3020 3030 3037 303d-303f 30a0 30fb 31c0-31e5 4dc0-4dff a490-a4c6 a60d-a60f a673 a67e-a67f
  a700-a721 a788 a828-a82b a874-a877 ab6a-ab6b fbc3-fdff fe45-fe46 10101 10140-1018c 10190-101a0
  1091f 10b39-10b3f 10d6e 10d8e-10d8f 10ed0-10ed8 11052-11065 113d4-113d8 11660-1166c 11be1
  11fd5-11fdc 11fe1-11ff1 16d6d-16d6f 16fe2 1cc00-1cef0 1d1e9-1d241 1d245 1d300-1d356 1e5ff
  1eef0-1f12f 1f16d-1f16f 1f1ad 1f260-1fbfa"

/-- Invisible characters without a direction. -/
def boundaryText : String := "
  0-8 e-1b 7f 200c-200d"

/-- Marks that take the direction of what they stand on. -/
def spacinglessText : String := "
  300-36f 483-489 591-5bd 5bf 5c1-5c2 5c4-5c5 5c7 610-61a 64b-65f 670 6d6-6dc 6df-6e4 6e7-6e8
  6ea-6ed 711 730-74a 7a6-7b0 7eb-7f3 7fd 816-819 81b-823 825-827 829-82d 859-85b 897-89f 8ca-902
  93a 93c 941-948 94d 951-957 962-963 981 9bc 9c1-9c4 9cd 9e2-9e3 9fe-a02 a3c a41-a51 a70-a71 a75
  a81-a82 abc ac1-ac8 acd ae2-ae3 afa-b01 b3c b3f b41-b44 b4d-b56 b62-b63 b82 bc0 bcd c00 c04 c3c
  c3e-c40 c46-c56 c62-c63 c81 cbc ccc-ccd ce2-ce3 d00-d01 d3b-d3c d41-d44 d4d d62-d63 d81 dca
  dd2-dd6 e31 e34-e3a e47-e4e eb1 eb4-ebc ec8-ece f18-f19 f35 f37 f39 f71-f7e f80-f84 f86-f87
  f8d-fbc fc6 102d-1030 1032-1037 1039-103a 103d-103e 1058-1059 105e-1060 1071-1074 1082 1085-1086
  108d 109d 135d-135f 1712-1714 1732-1733 1752-1753 1772-1773 17b7-17bd 17c6 17c9-17d3 17dd
  1885-1886 18a9 1920-1922 1927-1928 1932 1939-193b 1a17-1a18 1a1b 1a56 1a58-1a60 1a62 1a65-1a6c
  1a73-1a7f 1ab0-1b03 1b34 1b36-1b3a 1b3c 1b42 1b6b-1b73 1b80-1b81 1ba2-1ba5 1ba8-1ba9 1bab-1bad
  1be6 1be8-1be9 1bed 1bef-1bf1 1c2c-1c33 1c36-1c37 1cd0-1cd2 1cd4-1ce0 1ce2-1ce8 1ced 1cf4
  1cf8-1cf9 1dc0-1dff 20d0-20f0 2cef-2cf1 2d7f 2de0-2dff 302a-302d 3099-309a a66f-a672 a674-a67d
  a69e-a69f a6f0-a6f1 a802 a806 a80b a825-a826 a82c a8c4-a8c5 a8e0-a8f1 a8ff a926-a92d a947-a951
  a980-a982 a9b3 a9b6-a9b9 a9bc-a9bd a9e5 aa29-aa2e aa31-aa32 aa35-aa36 aa43 aa4c aa7c aab0
  aab2-aab4 aab7-aab8 aabe-aabf aac1 aaec-aaed aaf6 abe5 abe8 abed fb1e fe20-fe2f 101fd 102e0
  10376-1037a 10a01-10a0f 10a38-10a3f 10ae5-10ae6 10d24-10d27 10d69-10d6d 10eab-10eac 10efa-10eff
  10f46-10f50 10f82-10f85 11001 11038-11046 11070 11073-11074 1107f-11081 110b3-110b6 110b9-110ba
  110c2 11100-11102 11127-1112b 1112d-11134 11173 11180-11181 111b6-111be 111c9-111cc 111cf
  1122f-11231 11234 11236-11237 1123e 11241 112df 112e3-112ea 11300-11301 1133b-1133c 11340
  11366-11374 113bb-113c0 113ce 113d0 113d2 113e1-113e2 11438-1143f 11442-11444 11446 1145e
  114b3-114b8 114ba 114bf-114c0 114c2-114c3 115b2-115b5 115bc-115bd 115bf-115c0 115dc-115dd
  11633-1163a 1163d 1163f-11640 116ab 116ad 116b0-116b5 116b7 1171d-1171f 11722-11725 11727-1172b
  1182f-11837 11839-1183a 1193b-1193c 1193e 11943 119d4-119db 119e0 11a01-11a06 11a09-11a0a
  11a33-11a38 11a3b-11a3e 11a47 11a51-11a56 11a59-11a5b 11a8a-11a96 11a98-11a99 11b60 11b62-11b64
  11b66 11c30-11c3d 11c92-11ca7 11caa-11cb0 11cb2-11cb3 11cb5-11cb6 11d31-11d45 11d47 11d90-11d91
  11d95 11d97 11ef3-11ef4 11f00-11f01 11f36-11f3a 11f40 11f42 11f5a 13440 13447-13455 1611e-16129
  1612d-1612f 16af0-16af4 16b30-16b36 16f4f 16f8f-16f92 16fe4 1bc9d-1bc9e 1cf00-1cf46 1d167-1d169
  1d17b-1d182 1d185-1d18b 1d1aa-1d1ad 1d242-1d244 1da00-1da36 1da3b-1da6c 1da75 1da84 1da9b-1daaf
  1e000-1e08f 1e130-1e136 1e2ae 1e2ec-1e2ef 1e4ec-1e4ef 1e5ee-1e5ef 1e6e3 1e6e6 1e6ee-1e6ef 1e6f5
  1e8d0-1e8d6 1e944-1e94a"

/-- Letters that join on both sides. -/
def dualJoiningText : String := "
  620 626 628 62a-62e 633-63f 641-647 649-64a 66e-66f 679-687 69a-6bf 6c1-6c2 6cc 6ce 6d0-6d1
  6fa-6fc 6ff 712-714 71a-71d 71f-727 729 72b 72d-72e 74e-758 75c-76a 76d-770 772 775-777 77a-77f
  7ca-7ea 841-845 848 84a-853 855 860 862-865 868 886 889-88d 8a0-8a9 8af-8b0 8b3-8b8 8ba-8c8 1807
  1820-1878 1887-18a8 18aa a840-a871 10ac0-10ac4 10ad3-10ad6 10ad8-10adc 10ade-10ae0 10aeb-10aee
  10b80 10b82 10b86-10b88 10b8a-10b8b 10b8d 10b90 10bad-10bae 10d01-10d21 10d23 10f30-10f32
  10f34-10f44 10f51-10f53 10f70-10f73 10f76-10f81 10fb0 10fb2-10fb3 10fb8 10fbb-10fbc 10fbe-10fbf
  10fc1 10fc4 10fca 1e922-1e943"

/-- Letters that join on the left side. -/
def leftJoiningText : String := "
  a872 10acd 10ad7 10d00 10fcb"

/-- Letters that join on the right side. -/
def rightJoiningText : String := "
  622-625 627 629 62f-632 648 671-673 688-699 6c0 6c3-6cb 6cd 6cf 6d2-6d3 6d5 6ee-6ef 710 715-719
  71e 728 72a 72c 72f 74d 759-75b 76b-76c 771 773-774 778-779 840 846-847 849 854 856-858 867
  869-882 88e 8aa-8ac 8ae 8b1-8b2 8b9 10ac5 10ac7 10ac9-10aca 10ace-10ad2 10add 10ae1 10ae4 10aef
  10b81 10b83-10b85 10b89 10b8c 10b8e-10b8f 10b91 10ba9-10bac 10d22 10f33 10f54 10f74-10f75
  10fb4-10fb6 10fb9-10fba 10fbd 10fc2-10fc3 10fc9"

/-- Characters that joining passes over. -/
def transparentText : String := "
  300-36f 483-489 591-5bd 5bf 5c1-5c2 5c4-5c5 5c7 610-61a 64b-65f 670 6d6-6dc 6df-6e4 6e7-6e8
  6ea-6ed 711 730-74a 7a6-7b0 7eb-7f3 7fd 816-819 81b-823 825-827 829-82d 859-85b 897-89f 8ca-902
  93a 93c 941-948 94d 951-957 962-963 981 9bc 9c1-9c4 9cd 9e2-9e3 9fe-a02 a3c a41-a51 a70-a71 a75
  a81-a82 abc ac1-ac8 acd ae2-ae3 afa-b01 b3c b3f b41-b44 b4d-b56 b62-b63 b82 bc0 bcd c00 c04 c3c
  c3e-c40 c46-c56 c62-c63 c81 cbc cbf cc6 ccc-ccd ce2-ce3 d00-d01 d3b-d3c d41-d44 d4d d62-d63 d81
  dca dd2-dd6 e31 e34-e3a e47-e4e eb1 eb4-ebc ec8-ece f18-f19 f35 f37 f39 f71-f7e f80-f84 f86-f87
  f8d-fbc fc6 102d-1030 1032-1037 1039-103a 103d-103e 1058-1059 105e-1060 1071-1074 1082 1085-1086
  108d 109d 135d-135f 1712-1714 1732-1733 1752-1753 1772-1773 17b7-17bd 17c6 17c9-17d3 17dd
  1885-1886 18a9 1920-1922 1927-1928 1932 1939-193b 1a17-1a18 1a1b 1a56 1a58-1a60 1a62 1a65-1a6c
  1a73-1a7f 1ab0-1b03 1b34 1b36-1b3a 1b3c 1b42 1b6b-1b73 1b80-1b81 1ba2-1ba5 1ba8-1ba9 1bab-1bad
  1be6 1be8-1be9 1bed 1bef-1bf1 1c2c-1c33 1c36-1c37 1cd0-1cd2 1cd4-1ce0 1ce2-1ce8 1ced 1cf4
  1cf8-1cf9 1dc0-1dff 20d0-20f0 2cef-2cf1 2d7f 2de0-2dff 302a-302d 3099-309a a66f-a672 a674-a67d
  a69e-a69f a6f0-a6f1 a802 a806 a80b a825-a826 a82c a8c4-a8c5 a8e0-a8f1 a8ff a926-a92d a947-a951
  a980-a982 a9b3 a9b6-a9b9 a9bc-a9bd a9e5 aa29-aa2e aa31-aa32 aa35-aa36 aa43 aa4c aa7c aab0
  aab2-aab4 aab7-aab8 aabe-aabf aac1 aaec-aaed aaf6 abe5 abe8 abed fb1e fe20-fe2f 101fd 102e0
  10376-1037a 10a01-10a0f 10a38-10a3f 10ae5-10ae6 10d24-10d27 10d69-10d6d 10eab-10eac 10efa-10eff
  10f46-10f50 10f82-10f85 11001 11038-11046 11070 11073-11074 1107f-11081 110b3-110b6 110b9-110ba
  110c2 11100-11102 11127-1112b 1112d-11134 11173 11180-11181 111b6-111be 111c9-111cc 111cf
  1122f-11231 11234 11236-11237 1123e 11241 112df 112e3-112ea 11300-11301 1133b-1133c 11340
  11366-11374 113bb-113c0 113ce 113d0 113d2 113e1-113e2 11438-1143f 11442-11444 11446 1145e
  114b3-114b8 114ba 114bf-114c0 114c2-114c3 115b2-115b5 115bc-115bd 115bf-115c0 115dc-115dd
  11633-1163a 1163d 1163f-11640 116ab 116ad 116b0-116b5 116b7 1171d-1171f 11722-11725 11727-1172b
  1182f-11837 11839-1183a 1193b-1193c 1193e 11943 119d4-119db 119e0 11a01-11a0a 11a33-11a38
  11a3b-11a3e 11a47 11a51-11a56 11a59-11a5b 11a8a-11a96 11a98-11a99 11b60 11b62-11b64 11b66
  11c30-11c3d 11c3f 11c92-11ca7 11caa-11cb0 11cb2-11cb3 11cb5-11cb6 11d31-11d45 11d47 11d90-11d91
  11d95 11d97 11ef3-11ef4 11f00-11f01 11f36-11f3a 11f40 11f42 11f5a 13440 13447-13455 1611e-16129
  1612d-1612f 16af0-16af4 16b30-16b36 16f4f 16f8f-16f92 16fe4 1bc9d-1bc9e 1cf00-1cf46 1d167-1d169
  1d17b-1d182 1d185-1d18b 1d1aa-1d1ad 1d242-1d244 1da00-1da36 1da3b-1da6c 1da75 1da84 1da9b-1daaf
  1e000-1e08f 1e130-1e136 1e2ae 1e2ec-1e2ef 1e4ec-1e4ef 1e5ee-1e5ef 1e6e3 1e6e6 1e6ee-1e6ef 1e6f5
  1e8d0-1e8d6 1e944-1e94b"

end Stratum.Domain
