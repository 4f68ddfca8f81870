import Descent.Unicode.Category

/-!
# Letters and words

Letters with and without case, alphabetic characters, and the characters that words and identifiers
are made of. Each set is a union of general categories and of characters that are listed here
because their category does not tell.
-/

namespace Descent.Unicode

/-- Lowercase characters of other categories. -/
def otherLowercase : CharSet := readSet "
  aa ba 2b0-2b8 2c0-2c1 2e0-2e4 345 37a 10fc 1d2c-1d6a 1d78 1d9b-1dbf 2071 207f 2090-209c
  2170-217f 24d0-24e9 2c7c-2c7d a69c-a69d a770 a7f2-a7f4 a7f8-a7f9 ab5c-ab5f ab69 10780
  10783-10785 10787-107b0 107b2-107ba 1e030-1e06d"

/-- Uppercase characters of other categories. -/
def otherUppercase : CharSet := readSet "2160-216f 24b6-24cf 1f130-1f149 1f150-1f169 1f170-1f189"

/-- Alphabetic characters that are neither letters nor letter numbers. -/
def otherAlphabetic : CharSet := readSet "
  345 363-36f 5b0-5bd 5bf 5c1-5c2 5c4-5c5 5c7 610-61a 64b-657 659-65f 670 6d6-6dc 6e1-6e4 6e7-6e8
  6ed 711 730-73f 7a6-7b0 816-817 81b-823 825-827 829-82c 897 8d4-8df 8e3-8e9 8f0-903 93a-93b
  93e-94c 94e-94f 955-957 962-963 981-983 9be-9c4 9c7-9c8 9cb-9cc 9d7 9e2-9e3 a01-a03 a3e-a42
  a47-a48 a4b-a4c a51 a70-a71 a75 a81-a83 abe-ac5 ac7-ac9 acb-acc ae2-ae3 afa-afc b01-b03 b3e-b44
  b47-b48 b4b-b4c b56-b57 b62-b63 b82 bbe-bc2 bc6-bc8 bca-bcc bd7 c00-c04 c3e-c44 c46-c48 c4a-c4c
  c55-c56 c62-c63 c81-c83 cbe-cc4 cc6-cc8 cca-ccc cd5-cd6 ce2-ce3 cf3 d00-d03 d3e-d44 d46-d48
  d4a-d4c d57 d62-d63 d81-d83 dcf-dd4 dd6 dd8-ddf df2-df3 e31 e34-e3a e4d eb1 eb4-eb9 ebb-ebc ecd
  f71-f83 f8d-f97 f99-fbc 102b-1036 1038 103b-103e 1056-1059 105e-1060 1062-1064 1067-106d
  1071-1074 1082-108d 108f 109a-109d 1712-1713 1732-1733 1752-1753 1772-1773 17b6-17c8 1885-1886
  18a9 1920-192b 1930-1938 1a17-1a1b 1a55-1a5e 1a61-1a74 1abf-1ac0 1acc-1ace 1b00-1b04 1b35-1b43
  1b80-1b82 1ba1-1ba9 1bac-1bad 1be7-1bf1 1c24-1c36 1dd3-1df4 24b6-24e9 2de0-2dff a674-a67b
  a69e-a69f a802 a80b a823-a827 a880-a881 a8b4-a8c3 a8c5 a8ff a926-a92a a947-a952 a980-a983
  a9b4-a9bf a9e5 aa29-aa36 aa43 aa4c-aa4d aa7b-aa7d aab0 aab2-aab4 aab7-aab8 aabe aaeb-aaef aaf5
  abe3-abea fb1e 10376-1037a 10a01-10a03 10a05-10a06 10a0c-10a0f 10d24-10d27 10d69 10eab-10eac
  10efc 11000-11002 11038-11045 11073-11074 11080-11082 110b0-110b8 110c2 11100-11102 11127-11132
  11145-11146 11180-11182 111b3-111bf 111ce-111cf 1122c-11234 11237 1123e 11241 112df-112e8
  11300-11303 1133e-11344 11347-11348 1134b-1134c 11357 11362-11363 113b8-113c0 113c2 113c5
  113c7-113ca 113cc-113cd 11435-11441 11443-11445 114b0-114c1 115af-115b5 115b8-115be 115dc-115dd
  11630-1163e 11640 116ab-116b5 1171d-1172a 1182c-11838 11930-11935 11937-11938 1193b-1193c 11940
  11942 119d1-119d7 119da-119df 119e4 11a01-11a0a 11a35-11a39 11a3b-11a3e 11a51-11a5b 11a8a-11a97
  11c2f-11c36 11c38-11c3e 11c92-11ca7 11ca9-11cb6 11d31-11d36 11d3a 11d3c-11d3d 11d3f-11d41 11d43
  11d47 11d8a-11d8e 11d90-11d91 11d93-11d96 11ef3-11ef6 11f00-11f01 11f03 11f34-11f3a 11f3e-11f40
  1611e-1612e 16f4f 16f51-16f87 16f8f-16f92 16ff0-16ff1 1bc9e 1e000-1e006 1e008-1e018 1e01b-1e021
  1e023-1e024 1e026-1e02a 1e08f 1e947 1f130-1f149 1f150-1f169 1f170-1f189"

/-- Lowercase characters. -/
def lowercase : CharSet := (charsIn [.lowercaseLetter]).union otherLowercase

/-- Uppercase characters. -/
def uppercase : CharSet := (charsIn [.uppercaseLetter]).union otherUppercase

/-- Characters that have a case. -/
def cased : CharSet := .unions [lowercase, uppercase, charsIn [.titlecaseLetter]]

/-- Alphabetic characters. -/
def alphabetic : CharSet :=
  .unions [charsIn (.letterNumber :: letterCategories), otherLowercase, otherUppercase,
    otherAlphabetic]

/-- Alphabetic characters and numbers of every kind. -/
def alphanumeric : CharSet := alphabetic.union (charsIn numberCategories)

/-- The characters that ask for joined or unjoined forms. -/
def joinControl : CharSet := readSet "200c-200d"

/-- Word characters: alphabetic characters, marks, decimal digits, connecting punctuation and the
join controls. -/
def word : CharSet :=
  .unions [alphabetic, joinControl,
    charsIn (.decimalNumber :: .connectorPunctuation :: markCategories)]

/-- Uppercase characters without a lowercase form. -/
def withoutLowercase : CharSet := readSet "
  3d2-3d4 2102 2107 210b-210d 2110-2112 2115 2119-211d 2124 2128 212c-212d 2130-2131 2133
  213e-213f 2145 1d400-1d419 1d434-1d44d 1d468-1d481 1d49c 1d49e-1d49f 1d4a2 1d4a5-1d4a6
  1d4a9-1d4ac 1d4ae-1d4b5 1d4d0-1d4e9 1d504-1d505 1d507-1d50a 1d50d-1d514 1d516-1d51c 1d538-1d539
  1d53b-1d53e 1d540-1d544 1d546 1d54a-1d550 1d56c-1d585 1d5a0-1d5b9 1d5d4-1d5ed 1d608-1d621
  1d63c-1d655 1d670-1d689 1d6a8-1d6c0 1d6e2-1d6fa 1d71c-1d734 1d756-1d76e 1d790-1d7a8 1d7ca
  1f130-1f149 1f150-1f169 1f170-1f189"

/-- Characters that differ from their lowercase form. -/
def changesWhenLowercased : CharSet :=
  (uppercase.union (charsIn [.titlecaseLetter])).diff withoutLowercase

/-- Lowercase characters without an uppercase form. -/
def withoutUppercase : CharSet := readSet "
  aa ba 138 18d 1aa-1ab 1ba 1be 221 234-239 255 258 25a 25d-25f 262 267 26d-26e 270 273-274
  276-27c 27e-27f 281 284-286 28d-291 293 295-29c 29f-2b8 2c0-2c1 2e0-2e4 37a 3fc 560 588 10fc
  1d00-1d78 1d7a-1d7c 1d7e-1d8d 1d8f-1dbf 1e9c-1e9d 1e9f 2071 207f 2090-209c 210a 210e-210f 2113
  212f 2134 2139 213c-213d 2146-2149 2c71 2c74 2c77-2c7d 2ce4 a69c-a69d a730-a731 a770-a778 a78e
  a795 a7af a7d3 a7d5 a7f2-a7f4 a7f8-a7fa ab30-ab52 ab54-ab5a ab5c-ab69 10780 10783-10785
  10787-107b0 107b2-107ba 1d41a-1d433 1d44e-1d454 1d456-1d467 1d482-1d49b 1d4b6-1d4b9 1d4bb
  1d4bd-1d4c3 1d4c5-1d4cf 1d4ea-1d503 1d51e-1d537 1d552-1d56b 1d586-1d59f 1d5ba-1d5d3 1d5ee-1d607
  1d622-1d63b 1d656-1d66f 1d68a-1d6a5 1d6c2-1d6da 1d6dc-1d6e1 1d6fc-1d714 1d716-1d71b 1d736-1d74e
  1d750-1d755 1d770-1d788 1d78a-1d78f 1d7aa-1d7c2 1d7c4-1d7c9 1d7cb 1df00-1df09 1df0b-1df1e
  1df25-1df2a 1e030-1e06d"

/-- Characters in title case that differ from their uppercase form. -/
def titlecaseForms : CharSet := readSet "
  1c5 1c8 1cb 1f2 1f88-1f8f 1f98-1f9f 1fa8-1faf 1fbc 1fcc 1ffc"

/-- Characters that differ from their uppercase form. -/
def changesWhenUppercased : CharSet := (lowercase.diff withoutUppercase).union titlecaseForms

/-- Characters that differ from their uppercase form and not from their titlecase form. -/
def ownTitlecase : CharSet := readSet "
  1c5 1c8 1cb 1f2 10d0-10fa 10fd-10ff 1f88-1f8f 1f98-1f9f 1fa8-1faf 1fbc 1fcc 1ffc"

/-- Characters that differ from their titlecase form and not from their uppercase form. -/
def otherTitlecase : CharSet := readSet "1c4 1c7 1ca 1f1"

/-- Characters that differ from their titlecase form. -/
def changesWhenTitlecased : CharSet :=
  (changesWhenUppercased.diff ownTitlecase).union otherTitlecase

/-- Uppercase characters that case folding keeps. -/
def foldedUppercase : CharSet := readSet "13a0-13f5"

/-- Lowercase characters that case folding changes. -/
def unfoldedLowercase : CharSet := readSet "
  b5 df 149 17f 345 3c2 3d0-3d1 3d5-3d6 3f0-3f1 3f5 587 13f8-13fd 1c80-1c88 1e9a-1e9b 1f80-1f87
  1f90-1f97 1fa0-1fa7 1fb2-1fb4 1fb7 1fc2-1fc4 1fc7 1ff2-1ff4 1ff7 ab70-abbf fb00-fb06 fb13-fb17"

/-- Characters that full case folding changes. -/
def changesWhenCasefolded : CharSet :=
  (changesWhenLowercased.diff foldedUppercase).union unfoldedLowercase

/-- Characters that differ from their form in some other case. -/
def changesWhenCasemapped : CharSet :=
  .unions [changesWhenLowercased, changesWhenUppercased, changesWhenTitlecased]

end Descent.Unicode
