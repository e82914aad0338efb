import LiveSearch.Unicode.Property

/-!
# Text segmentation

Three properties say where a text may be cut: between characters as readers see them, between
words, and between sentences.  Each value of such a property stands here as the binary property of
having it.  Code points without a value of their own are in none of the tables.
-/

namespace LiveSearch

namespace Unicode

namespace Segmentation

/-- The Hangul syllables that end in their vowel.  Each comes before the 27 syllables that close it
with a consonant. -/
def openSyllables : List Nat := (List.range 399).map fun index => 0xAC00 + 28 * index

/-- The values of the property Grapheme_Cluster_Break. -/
def graphemeClusterBreaks : List Property := [
  { names := ["cn", "control"]
    categories := [.lineSeparator, .paragraphSeparator, .control, .format]
    removed := "A D 600-605 6DD-8E2 200C-200D 110BD-110CD E0020-E007F"
    added := "2065 FFF0-FFF8 E0000-E001F E0080-E00FF E01F0-E0FFF" },
  { names := ["cr"]
    categories := []
    removed := ""
    added := "D" },
  { names := ["ex", "extend"]
    categories := [.nonspacingMark, .enclosingMark]
    removed := ""
    added :=
      "9BE 9D7 B3E B57 BBE BD7 CC0 CC2 CC7-CC8 CCA-CCB CD5-CD6 D3E D57 DCF DDF 1715 1734 " ++
      "1B35-1B3D 1B43-1B44 1BAA 1BF2-1BF3 200C 302E-302F A953 A9C0 FF9E-FF9F 111C0 11235 1133E " ++
      "1134D 11357 113B8 113C2 113C5 113C7-113C9 113CF 114B0 114BD 115AF 116B6 11930 1193D " ++
      "11F41 16FF0-16FF1 1D165-1D166 1D16D-1D172 1F3FB-1F3FF E0020-E007F" },
  { names := ["l"]
    categories := []
    removed := ""
    added := "1100-115F A960-A97C" },
  { names := ["lf"]
    categories := []
    removed := ""
    added := "A" },
  { names := ["lv"]
    categories := []
    removed := ""
    added := CodeSet.text ⟨openSyllables.map fun code => (code, code)⟩ },
  { names := ["lvt"]
    categories := []
    removed := ""
    added := CodeSet.text ⟨openSyllables.map fun code => (code + 1, code + 27)⟩ },
  { names := ["pp", "prepend"]
    categories := [.format]
    removed := "AD 61C 180E-FFFB 13430-E007F"
    added := "D4E 111C2-111C3 113D1 1193F 11941 11A84-11A89 11D46 11F02" },
  { names := ["ri", "regionalindicator"]
    categories := []
    removed := ""
    added := "1F1E6-1F1FF" },
  { names := ["sm", "spacingmark"]
    categories := [.spacingMark]
    removed :=
      "9BE 9D7 B3E B57-BBE BD7 CC0 CC2 CC7-CD6 D3E D57 DCF DDF 102B-102C 1038 1062-1083 " ++
      "1087-1734 1A61-1A64 1B35-1B3D 1B43-1B44 1BAA 1BF2-1BF3 302E-302F A953 A9C0 AA7B-AA7D " ++
      "111C0 11235 1133E 1134D-11357 113B8 113C2-113C9 113CF 114B0 114BD 115AF 116B6 " ++
      "11720-11721 11930 1193D 11F41 16FF0-1D172"
    added := "E33 EB3" },
  { names := ["t"]
    categories := []
    removed := ""
    added := "11A8-11FF D7CB-D7FB" },
  { names := ["v"]
    categories := []
    removed := ""
    added := "1160-11A7 D7B0-D7C6 16D63 16D67-16D6A" },
  { names := ["zwj"]
    categories := []
    removed := ""
    added := "200D" }]

/-- The values of the property Word_Break. -/
def wordBreaks : List Property := [
  { names := ["le", "aletter"]
    categories := Category.letters ++ [.letterNumber]
    removed :=
      "5D0-5F2 E01-EDF 1000-108E 1780-17DC 1950-19C9 1A20-1AA7 3006-303A 3041-30FF 31F0-9FFF " ++
      "A9E0-A9FE AA60-AADD F900-FAD9 FB1D-FB4F FF66-FF9F 11700-11746 17000-1B2FB 20000-323AF"
    added :=
      "B8 2C2-2D7 2DE-2FF 55A-55C 55E 58A 5F3 70F 24B6-24E9 A708-A78A AB5B 1F130-1F149 " ++
      "1F150-1F169 1F170-1F189" },
  { names := ["cr"]
    categories := []
    removed := ""
    added := "D" },
  { names := ["dq", "doublequote"]
    categories := []
    removed := ""
    added := "22" },
  { names := ["extend"]
    categories := [.nonspacingMark, .spacingMark, .enclosingMark]
    removed := ""
    added := "200C FF9E-FF9F 1F3FB-1F3FF E0020-E007F" },
  { names := ["ex", "extendnumlet"]
    categories := [.connectorPunctuation]
    removed := ""
    added := "202F" },
  { names := ["fo", "format"]
    categories := [.format]
    removed := "600-605 6DD-8E2 200B-200D 110BD-110CD E0020-E007F"
    added := "" },
  { names := ["hl", "hebrewletter"]
    categories := [.otherLetter]
    removed := "AA-294 620-FAD9 FB50-323AF"
    added := "" },
  { names := ["ka", "katakana"]
    categories := []
    removed := ""
    added :=
      "3031-3035 309B-309C 30A0-30FA 30FC-30FF 31F0-31FF 32D0-32FE 3300-3357 FF66-FF9D " ++
      "1AFF0-1AFF3 1AFF5-1AFFB 1AFFD-1AFFE 1B000 1B120-1B122 1B155 1B164-1B167" },
  { names := ["lf"]
    categories := []
    removed := ""
    added := "A" },
  { names := ["ml", "midletter"]
    categories := []
    removed := ""
    added := "3A B7 387 55F 5F4 2027 FE13 FE55 FF1A" },
  { names := ["mn", "midnum"]
    categories := []
    removed := ""
    added := "2C 3B 37E 589 60C-60D 66C 7F8 2044 FE50 FE54 FF0C FF1B" },
  { names := ["mb", "midnumlet"]
    categories := []
    removed := ""
    added := "2E 2018-2019 2024 FE52 FF07 FF0E" },
  { names := ["nl", "newline"]
    categories := []
    removed := ""
    added := "B-C 85 2028-2029" },
  { names := ["nu", "numeric"]
    categories := [.decimalNumber]
    removed := ""
    added := "600-605 66B 6DD 890-891 8E2 19DA 110BD 110CD" },
  { names := ["ri", "regionalindicator"]
    categories := []
    removed := ""
    added := "1F1E6-1F1FF" },
  { names := ["sq", "singlequote"]
    categories := []
    removed := ""
    added := "27" },
  { names := ["wsegspace"]
    categories := [.spaceSeparator]
    removed := "A0 2007 202F"
    added := "" },
  { names := ["zwj"]
    categories := []
    removed := ""
    added := "200D" }]

/-- The values of the property Sentence_Break. -/
def sentenceBreaks : List Property := [
  { names := ["at", "aterm"]
    categories := []
    removed := ""
    added := "2E 2024 FE52 FF0E" },
  { names := ["cl", "close"]
    categories := [.openPunctuation, .closePunctuation, .initialPunctuation, .finalPunctuation]
    removed := ""
    added := "22 27 275B-2760 2E00-2E0B 1F676-1F678" },
  { names := ["cr"]
    categories := []
    removed := ""
    added := "D" },
  { names := ["ex", "extend"]
    categories := [.nonspacingMark, .spacingMark, .enclosingMark]
    removed := ""
    added := "200C-200D FF9E-FF9F E0020-E007F" },
  { names := ["fo", "format"]
    categories := [.format]
    removed := "600-605 6DD 890-8E2 200C-200D 110BD-110CD E0020-E007F"
    added := "" },
  { names := ["lf"]
    categories := []
    removed := ""
    added := "A" },
  { names := ["lo", "lower"]
    categories := [.lowercaseLetter, .modifierLetter]
    removed :=
      "2B9-2BF 2C6-2D1 2EC-2EE 374 559 640-10FA 10FD-10FF 17D7-1C7D 2D6F-A60C A67F A717-A71F " ++
      "A788 A9CF-AAF4 FF70-FF9F 10781-10782 10D4E-10D6F 16B40-16D6C 16F93-1AFFE 1E137-1E4EB " ++
      "1E94B"
    added := "AA BA 2170-217F 24D0-24E9" },
  { names := ["nu", "numeric"]
    categories := [.decimalNumber]
    removed := ""
    added := "600-605 66B-66C 6DD 890-891 8E2 19DA 110BD 110CD" },
  { names := ["le", "oletter"]
    categories := [.modifierLetter, .otherLetter, .letterNumber]
    removed :=
      "AA-BA 2B0-2B8 2C0-2C1 2E0-2E4 37A 10FC 1D2C-209C 2160-217F 2C7C-2C7D A69C-A69D A770 " ++
      "A7F2-A7F4 A7F8-A7F9 AB5C-AB69 FF9E-FF9F 10780 10783-107BA 1E030-1E06D"
    added := "5F3 10D0-10FA 10FD-10FF 1C90-1CBA 1CBD-1CBF" },
  { names := ["sc", "scontinue"]
    categories := []
    removed := ""
    added :=
      "2C-2D 3A-3B 37E 55D 60C-60D 7F8 1802 1808 2013-2014 3001 FE10-FE11 FE13-FE14 FE31-FE32 " ++
      "FE50-FE51 FE54-FE55 FE58 FE63 FF0C-FF0D FF1A-FF1B FF64" },
  { names := ["se", "sep"]
    categories := []
    removed := ""
    added := "85 2028-2029" },
  { names := ["sp"]
    categories := [.spaceSeparator]
    removed := ""
    added := "9 B-C" },
  { names := ["st", "sterm"]
    categories := [.otherPunctuation]
    removed :=
      "22-3B 40-55F 5C0-61B 66A-66D 703-7F8 830-836 838 83A-83C 85E 970-FDA 104C-1361 1363-1366 " ++
      "16EB-16ED 17D6-1802 1804-1808 180A 1A1E-1AA6 1AAC-1AAD 1B5C-1B5D 1B60 1BFC-1BFF " ++
      "1C3D-1C3F 1CC0-203B 203E-2043 204A-205E 2CFC-2E2D 2E30-2E39 2E3D-2E52 3001 3003-A4FE " ++
      "A60D A673-A6F2 A6F4-A6F6 A874-A875 A8F8-A92E A95F-A9C7 A9CA-AA5C AADE-AADF FE10-FE11 " ++
      "FE13-FE14 FE19-FE55 FE5F-FE6B FF02-FF1B FF20-FF3C FF64-10A55 10A58-10B9C 11049-110BC " ++
      "11140 11174-11175 111C7-111C8 111DB-111DD 1123A 1123D 113D7-113D8 1144D-115C1 " ++
      "115C4-115C8 11643-116B9 1183B 11945 119E2-11A41 11A44-11A9A 11A9E-11BE1 11C43-11C71 " ++
      "11F45-12FF2 16B39-16B3B 16D6D 16E97 16E99-16FE2 1DA87 1DA89-1E95F"
    added := "" },
  { names := ["up", "upper"]
    categories := [.uppercaseLetter, .titlecaseLetter]
    removed := "1C90-1CBF"
    added := "2160-216F 24B6-24CF 1F130-1F149 1F150-1F169 1F170-1F189" }]

end Segmentation

end Unicode

end LiveSearch
