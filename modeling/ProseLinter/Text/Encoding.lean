import ProseLinter.Text.Class
import ProseLinter.Text.Utf8

/-!
# Text/Encoding — encodings by their names

Which bytes can be decoded in which encoding.  All encodings here keep ASCII; they differ in the
bytes above it.
-/

namespace ProseLinter.Text

/-- What an encoding makes of the bytes above ASCII. -/
inductive Encoding where
  | utf8
  /-- No byte above ASCII is a character. -/
  | ascii
  /-- Every byte is a character but those in the given ranges. -/
  | bytewise (undefined : List (Nat × Nat))
  /-- Bytes above ASCII come in pairs, but for those that are characters by themselves. -/
  | paired (alone : Option (Nat × Nat))
  deriving DecidableEq, Repr

/-- The names of UTF-8. -/
def utf8Names : List String :=
  wordsOf
    [ "cp65001 u8 utf utf8 utf8_ucs2 utf8_ucs4 utf_8 utf_8_sig" ]

/-- The names of encodings that have nothing above ASCII. -/
def asciiNames : List String :=
  wordsOf
    [ "646 ansi_x3.4_1968 ansi_x3.4_1986 ansi_x3_4_1968 ascii cp367 csascii ibm367 idna",
      "iso646_us iso_646.irv_1991 iso_ir_6 us us_ascii" ]

/-- The names of encodings in which every byte is a character. -/
def completeNames : List String :=
  wordsOf
    [ "1125 1256 437 775 850 852 855 858 860 861 862 863 865 866 8859 charmap cp1006 cp1125",
      "cp1256 cp154 cp437 cp720 cp737 cp775 cp819 cp850 cp852 cp855 cp858 cp860 cp861 cp862",
      "cp863 cp865 cp866 cp866u cp_is csibm855 csibm858 csibm860 csibm861 csibm863 csibm865",
      "csibm866 csisolatin1 csisolatin2 csisolatin4 csisolatin5 csisolatin6",
      "csisolatincyrillic cskoi8r cspc775baltic cspc850multilingual cspc862latinhebrew",
      "cspc8codepage437 cspcp852 csptcp154 cyrillic cyrillic_asian ibm1125 ibm437 ibm775",
      "ibm819 ibm850 ibm852 ibm855 ibm858 ibm860 ibm861 ibm862 ibm863 ibm865 ibm866 iso8859",
      "iso8859_1 iso8859_10 iso8859_13 iso8859_14 iso8859_15 iso8859_16 iso8859_2 iso8859_4",
      "iso8859_5 iso8859_9 iso_8859_1 iso_8859_10 iso_8859_10_1992 iso_8859_13 iso_8859_14",
      "iso_8859_14_1998 iso_8859_15 iso_8859_16 iso_8859_16_2001 iso_8859_1_1987 iso_8859_2",
      "iso_8859_2_1987 iso_8859_4 iso_8859_4_1988 iso_8859_5 iso_8859_5_1988 iso_8859_9",
      "iso_8859_9_1989 iso_celtic iso_ir_100 iso_ir_101 iso_ir_110 iso_ir_144 iso_ir_148",
      "iso_ir_157 iso_ir_199 iso_ir_226 koi8_r koi8_u l1 l10 l2 l4 l5 l6 l7 l8 l9 latin",
      "latin1 latin10 latin2 latin4 latin5 latin6 latin7 latin8 latin9 latin_1 mac_arabic",
      "mac_centeuro mac_croatian mac_cyrillic mac_farsi mac_greek mac_iceland mac_latin2",
      "mac_roman mac_romanian mac_turkish maccentraleurope maccyrillic macgreek maciceland",
      "macintosh maclatin2 macroman macturkish palmos pt154 ptcp154 raw_unicode_escape ruscii",
      "unicode_escape windows_1256" ]

/-- The names of encodings with some bytes that are no characters, and the ranges of these. -/
def partialNames : List (List String × List (Nat × Nat)) :=
    [ (wordsOf ["1250 cp1250 windows_1250"],
        [(129, 129), (131, 131), (136, 136), (144, 144), (152, 152)]),
      (wordsOf ["1251 cp1251 kz1048 kz_1048 rk1048 strk1048_2002 windows_1251"],
        [(152, 152)]),
      (wordsOf ["1252 cp1252 windows_1252"],
        [(129, 129), (141, 141), (143, 144), (157, 157)]),
      (wordsOf ["1253 cp1253 windows_1253"],
        [(129, 129), (136, 136), (138, 138), (140, 144), (152, 152), (154, 154), (156, 159),
        (170, 170), (210, 210), (255, 255)]),
      (wordsOf ["1254 cp1254 windows_1254"],
        [(129, 129), (141, 144), (157, 158)]),
      (wordsOf ["1255 cp1255 windows_1255"],
        [(129, 129), (138, 138), (140, 144), (154, 154), (156, 159), (202, 202), (217, 223),
        (251, 252), (255, 255)]),
      (wordsOf ["1257 cp1257 windows_1257"],
        [(129, 129), (131, 131), (136, 136), (138, 138), (140, 140), (144, 144), (152, 152),
        (154, 154), (156, 156), (159, 159), (161, 161), (165, 165)]),
      (wordsOf ["1258 cp1258 windows_1258"],
        [(129, 129), (138, 138), (141, 144), (154, 154), (157, 158)]),
      (wordsOf ["857 cp857 csibm857 ibm857"],
        [(213, 213), (231, 231), (242, 242)]),
      (wordsOf ["864 cp864 csibm864 ibm864"],
        [(155, 156), (159, 159), (166, 167), (255, 255)]),
      (wordsOf ["869 cp869 cp_gr csibm869 ibm869"],
        [(128, 133), (135, 135), (147, 148)]),
      (wordsOf
        ["arabic asmo_708 csisolatinarabic ecma_114 iso8859_6 iso_8859_6 iso_8859_6_1987",
          "iso_ir_127"],
        [(161, 163), (165, 171), (174, 186), (188, 190), (192, 192), (219, 223), (243, 255)]),
      (wordsOf ["cp1051 hp_roman8 ibm1051 r8 roman8"],
        [(255, 255)]),
      (wordsOf ["cp856"],
        [(155, 155), (157, 157), (159, 168), (173, 173), (181, 183), (198, 199), (208, 216),
        (222, 222), (224, 229), (231, 237)]),
      (wordsOf ["cp874"],
        [(129, 132), (134, 144), (152, 159), (219, 222), (252, 255)]),
      (wordsOf ["csisolatin3 iso8859_3 iso_8859_3 iso_8859_3_1988 iso_ir_109 l3 latin3"],
        [(165, 165), (174, 174), (190, 190), (195, 195), (208, 208), (227, 227), (240, 240)]),
      (wordsOf
        ["csisolatingreek ecma_118 elot_928 greek greek8 iso8859_7 iso_8859_7",
          "iso_8859_7_1987 iso_ir_126"],
        [(174, 174), (210, 210), (255, 255)]),
      (wordsOf
        ["csisolatinhebrew hebrew iso8859_8 iso_8859_8 iso_8859_8_1988 iso_ir_138"],
        [(161, 161), (191, 222), (251, 252), (255, 255)]),
      (wordsOf ["iso8859_11 iso_8859_11 iso_8859_11_2001 thai"],
        [(219, 222), (252, 255)]),
      (wordsOf ["iso_ir_166 tis620 tis_620 tis_620_0 tis_620_2529_0 tis_620_2529_1"],
        [(160, 160), (219, 222), (252, 255)]),
      (wordsOf ["koi8_t"],
        [(136, 136), (143, 143), (152, 152), (154, 154), (156, 160), (168, 170), (175, 175),
        (180, 180), (184, 184), (186, 186), (188, 190)]) ]

/-- The names of encodings in which characters above ASCII are written with bytes of ASCII. -/
def shiftedNames : List String :=
  wordsOf
    [ "csiso2022jp csiso2022kr hz hz_gb hz_gb_2312 hzgb iso2022_jp iso2022_jp_1",
      "iso2022_jp_2 iso2022_jp_2004 iso2022_jp_3 iso2022_jp_ext iso2022_kr iso2022jp",
      "iso2022jp_1 iso2022jp_2 iso2022jp_2004 iso2022jp_3 iso2022jp_ext iso2022kr",
      "iso_2022_jp iso_2022_jp_1 iso_2022_jp_2 iso_2022_jp_2004 iso_2022_jp_3",
      "iso_2022_jp_ext iso_2022_kr u7 unicode_1_1_utf_7 utf7 utf_7" ]

/-- The names of encodings in which bytes above ASCII come in pairs. -/
def pairedNames : List String :=
  wordsOf
    [ "936 949 950 big5 big5_hkscs big5_tw big5hkscs chinese cp1361 cp936 cp949 cp950",
      "csbig5 csiso58gb231280 euc_cn euc_jis2004 euc_jis_2004 euc_jisx0213 euc_jp euc_kr",
      "euccn eucgb2312_cn eucjis2004 eucjisx0213 eucjp euckr gb18030 gb18030_2000 gb2312",
      "gb2312_1980 gb2312_80 gbk hkscs iso_ir_58 jisx0213 johab korean ks_c_5601",
      "ks_c_5601_1987 ks_x_1001 ksc5601 ksx1001 ms1361 ms936 ms949 ms950 u_jis uhc ujis",
      "x_mac_korean x_mac_simp_chinese x_mac_trad_chinese" ]

/-- The names of encodings in which bytes above ASCII come in pairs, or by themselves in the middle
of their range. -/
def mixedNames : List String :=
  wordsOf
    [ "932 cp932 csshiftjis ms932 ms_kanji mskanji s_jis s_jis_2004 s_jisx0213 shift_jis",
      "shift_jis_2004 shift_jisx0213 shiftjis shiftjis2004 shiftjisx0213 sjis sjis_2004",
      "sjisx0213 x_mac_japanese" ]

/-- The names of encodings that are not found with points in place of their underscores. -/
def properNames : List String :=
  wordsOf
    [ "euc_jis_2004 euc_jisx0213 euc_jp euc_kr hp_roman8 iso2022_jp iso2022_jp_1 iso2022_jp_2",
      "iso2022_jp_2004 iso2022_jp_3 iso2022_jp_ext iso2022_kr iso8859_10 iso8859_11 iso8859_13",
      "iso8859_14 iso8859_15 iso8859_16 iso8859_2 iso8859_3 iso8859_4 iso8859_5 iso8859_6",
      "iso8859_7 iso8859_8 iso8859_9 koi8_r koi8_t koi8_u latin_1 mac_arabic mac_croatian",
      "mac_cyrillic mac_farsi mac_greek mac_iceland mac_latin2 mac_roman mac_romanian",
      "mac_turkish raw_unicode_escape shift_jis shift_jis_2004 shift_jisx0213 tis_620",
      "unicode_escape utf_7 utf_8 utf_8_sig" ]

/-- A name in small letters, with one underscore for each run of other characters than letters,
digits and points. -/
def plainName (cs : List Char) : List Char :=
  let spaced := cs.map fun c => if c.isAlphanum || c == '.' then c.toLower else ' '
  join ['_'] ((splitOn ' ' spaced).filter fun part => !part.isEmpty)

/-- The encoding under a plain name. -/
def Encoding.named? (name : String) : Option Encoding :=
  if utf8Names.contains name then some .utf8
  else if asciiNames.contains name then some .ascii
  else if completeNames.contains name then some (.bytewise [])
  else if shiftedNames.contains name then some .ascii
  else if pairedNames.contains name then some (.paired none)
  else if mixedNames.contains name then some (.paired (some (0xA1, 0xDF)))
  else (partialNames.find? fun p => p.1.contains name).map fun p => .bytewise p.2

/-- **The encoding of a name**, in which points may stand for underscores. -/
def Encoding.ofName? (cs : List Char) : Option Encoding :=
  let plain := plainName cs
  match named? (String.ofList plain) with
  | some e => some e
  | none =>
    let respelled := String.ofList (plain.map fun c => if c = '.' then '_' else c)
    if properNames.contains respelled then none else named? respelled

/-- Whether a byte is a character by itself. -/
def standsAlone (alone : Option (Nat × Nat)) (b : UInt8) : Bool :=
  b < 0x80 || (alone.map fun r => decide (r.1 ≤ b.toNat ∧ b.toNat ≤ r.2)).getD false

/-- Whether bytes are characters by themselves or pairs. -/
def arePaired (alone : Option (Nat × Nat)) : List UInt8 → Bool
  | [] => true
  | [b] => standsAlone alone b
  | b :: c :: rest =>
    if standsAlone alone b then arePaired alone (c :: rest)
    else decide (0x81 ≤ b ∧ b ≤ 0xFE ∧ 0x40 ≤ c ∧ c ≤ 0xFE ∧ c ≠ 0x7F) && arePaired alone rest

/-- **Whether bytes can be decoded.** -/
def Encoding.decodes (e : Encoding) (data : List UInt8) : Bool :=
  match e with
  | utf8 => (decode? data).isSome
  | ascii => data.all (· < 0x80)
  | bytewise undefined =>
    data.all fun b => !undefined.any fun r => r.1 ≤ b.toNat && b.toNat ≤ r.2
  | paired alone => arePaired alone data

end ProseLinter.Text
