import LineArithmetic.Charset.Basic

/-!
# Names of character sets

The names that a text can give for its encoding, with all their variants.  Names
are compared in a plain form, in which case and the characters between words do
not matter.  Some names stand for encodings of bytes instead of text, and one for
an encoding that is not defined for any text.
-/

namespace LineArithmetic.Charset

/-- What a name stands for. -/
inductive Named where
  | text (charset : Charset)
  /-- An encoding of bytes in bytes. -/
  | binary
  | undefined

/-- An encoding with its proper name and its other names. -/
structure Entry where
  named : Named
  name : String
  aliases : List String

/-- All encodings that have names. -/
def entries : List Entry := [
    ⟨.text .utf8, "utf_8", ["cp65001", "u8", "utf", "utf8", "utf8_ucs2", "utf8_ucs4"]⟩,
    ⟨.text .markedUtf8, "utf_8_sig", []⟩,
    ⟨.text (.markedWide utf16), "utf_16", ["u16", "utf16"]⟩,
    ⟨.text (.wide utf16 .little), "utf_16_le", ["unicodelittleunmarked", "utf_16le"]⟩,
    ⟨.text (.wide utf16 .big), "utf_16_be", ["unicodebigunmarked", "utf_16be"]⟩,
    ⟨.text (.markedWide utf32), "utf_32", ["u32", "utf32"]⟩,
    ⟨.text (.wide utf32 .little), "utf_32_le", ["utf_32le"]⟩,
    ⟨.text (.wide utf32 .big), "utf_32_be", ["utf_32be"]⟩,
    ⟨.text .utf7, "utf_7", ["u7", "unicode_1_1_utf_7", "utf7"]⟩,
    ⟨.text .ascii, "ascii", ["646", "ansi_x3.4_1968", "ansi_x3.4_1986", "ansi_x3_4_1968", "cp367",
      "csascii", "ibm367", "iso646_us", "iso_646.irv_1991", "iso_ir_6", "us", "us_ascii"]⟩,
    ⟨.text .latin1, "latin_1", ["8859", "cp819", "csisolatin1", "ibm819", "iso8859", "iso8859_1",
      "iso_8859_1", "iso_8859_1_1987", "iso_ir_100", "l1", "latin", "latin1"]⟩,
    ⟨.text .latin1, "iso8859_1", []⟩,
    ⟨.text .latin1, "charmap", []⟩,
    ⟨.text .escaped, "unicode_escape", []⟩,
    ⟨.text .plainEscaped, "raw_unicode_escape", []⟩,
    ⟨.text .punycode, "punycode", []⟩,
    ⟨.text .domainName, "idna", []⟩,
    ⟨.binary, "base64_codec", ["base64", "base_64"]⟩,
    ⟨.text (.multiByte EastAsian.big5Encoding), "big5", ["big5_tw", "csbig5",
      "x_mac_trad_chinese"]⟩,
    ⟨.text (.multiByte EastAsian.hkscsEncoding), "big5hkscs", ["big5_hkscs", "hkscs"]⟩,
    ⟨.binary, "bz2_codec", ["bz2"]⟩,
    ⟨.text (.singleByte Ebcdic.cp037), "cp037", ["037", "csibm037", "ebcdic_cp_ca", "ebcdic_cp_nl",
      "ebcdic_cp_us", "ebcdic_cp_wt", "ibm037", "ibm039"]⟩,
    ⟨.text (.singleByte Dos.cp1006), "cp1006", []⟩,
    ⟨.text (.singleByte Ebcdic.cp1026), "cp1026", ["1026", "csibm1026", "ibm1026"]⟩,
    ⟨.text (.singleByte Dos.cp1125), "cp1125", ["1125", "cp866u", "ibm1125", "ruscii"]⟩,
    ⟨.text (.singleByte Ebcdic.cp1140), "cp1140", ["1140", "ibm1140"]⟩,
    ⟨.text (.singleByte Windows.windows1250), "cp1250", ["1250", "windows_1250"]⟩,
    ⟨.text (.singleByte Windows.windows1251), "cp1251", ["1251", "windows_1251"]⟩,
    ⟨.text (.singleByte Windows.windows1252), "cp1252", ["1252", "windows_1252"]⟩,
    ⟨.text (.singleByte Windows.windows1253), "cp1253", ["1253", "windows_1253"]⟩,
    ⟨.text (.singleByte Windows.windows1254), "cp1254", ["1254", "windows_1254"]⟩,
    ⟨.text (.singleByte Windows.windows1255), "cp1255", ["1255", "windows_1255"]⟩,
    ⟨.text (.singleByte Windows.windows1256), "cp1256", ["1256", "windows_1256"]⟩,
    ⟨.text (.singleByte Windows.windows1257), "cp1257", ["1257", "windows_1257"]⟩,
    ⟨.text (.singleByte Windows.windows1258), "cp1258", ["1258", "windows_1258"]⟩,
    ⟨.text (.singleByte Ebcdic.cp273), "cp273", ["273", "csibm273", "ibm273"]⟩,
    ⟨.text (.singleByte Ebcdic.cp424), "cp424", ["424", "csibm424", "ebcdic_cp_he", "ibm424"]⟩,
    ⟨.text (.singleByte Dos.cp437), "cp437", ["437", "cspc8codepage437", "ibm437"]⟩,
    ⟨.text (.singleByte Ebcdic.cp500), "cp500", ["500", "csibm500", "ebcdic_cp_be", "ebcdic_cp_ch",
      "ibm500"]⟩,
    ⟨.text (.singleByte Dos.cp720), "cp720", []⟩,
    ⟨.text (.singleByte Dos.cp737), "cp737", []⟩,
    ⟨.text (.singleByte Dos.cp775), "cp775", ["775", "cspc775baltic", "ibm775"]⟩,
    ⟨.text (.singleByte Dos.cp850), "cp850", ["850", "cspc850multilingual", "ibm850"]⟩,
    ⟨.text (.singleByte Dos.cp852), "cp852", ["852", "cspcp852", "ibm852"]⟩,
    ⟨.text (.singleByte Dos.cp855), "cp855", ["855", "csibm855", "ibm855"]⟩,
    ⟨.text (.singleByte Dos.cp856), "cp856", []⟩,
    ⟨.text (.singleByte Dos.cp857), "cp857", ["857", "csibm857", "ibm857"]⟩,
    ⟨.text (.singleByte Dos.cp858), "cp858", ["858", "csibm858", "ibm858"]⟩,
    ⟨.text (.singleByte Dos.cp860), "cp860", ["860", "csibm860", "ibm860"]⟩,
    ⟨.text (.singleByte Dos.cp861), "cp861", ["861", "cp_is", "csibm861", "ibm861"]⟩,
    ⟨.text (.singleByte Dos.cp862), "cp862", ["862", "cspc862latinhebrew", "ibm862"]⟩,
    ⟨.text (.singleByte Dos.cp863), "cp863", ["863", "csibm863", "ibm863"]⟩,
    ⟨.text (.singleByte Dos.cp864), "cp864", ["864", "csibm864", "ibm864"]⟩,
    ⟨.text (.singleByte Dos.cp865), "cp865", ["865", "csibm865", "ibm865"]⟩,
    ⟨.text (.singleByte Dos.cp866), "cp866", ["866", "csibm866", "ibm866"]⟩,
    ⟨.text (.singleByte Dos.cp869), "cp869", ["869", "cp_gr", "csibm869", "ibm869"]⟩,
    ⟨.text (.singleByte Windows.windows874), "cp874", []⟩,
    ⟨.text (.singleByte Ebcdic.cp875), "cp875", []⟩,
    ⟨.text (.multiByte EastAsian.cp932Encoding), "cp932", ["932", "ms932", "ms_kanji", "mskanji"]⟩,
    ⟨.text (.multiByte EastAsian.cp949Encoding), "cp949", ["949", "ms949", "uhc"]⟩,
    ⟨.text (.multiByte EastAsian.cp950Encoding), "cp950", ["950", "ms950"]⟩,
    ⟨.text (.multiByte EastAsian.eucJis2004Encoding), "euc_jis_2004", ["euc_jis2004", "eucjis2004",
      "jisx0213"]⟩,
    ⟨.text (.multiByte EastAsian.eucJisx0213Encoding), "euc_jisx0213", ["eucjisx0213"]⟩,
    ⟨.text (.multiByte EastAsian.eucJpEncoding), "euc_jp", ["eucjp", "u_jis", "ujis"]⟩,
    ⟨.text (.multiByte EastAsian.eucKrEncoding), "euc_kr", ["euckr", "korean", "ks_c_5601",
      "ks_c_5601_1987", "ks_x_1001", "ksc5601", "ksx1001", "x_mac_korean"]⟩,
    ⟨.text (.multiByte EastAsian.gb18030Encoding), "gb18030", ["gb18030_2000"]⟩,
    ⟨.text (.multiByte EastAsian.gb2312Encoding), "gb2312", ["chinese", "csiso58gb231280", "euc_cn",
      "euccn", "eucgb2312_cn", "gb2312_1980", "gb2312_80", "iso_ir_58", "x_mac_simp_chinese"]⟩,
    ⟨.text (.multiByte EastAsian.gbkEncoding), "gbk", ["936", "cp936", "ms936"]⟩,
    ⟨.binary, "hex_codec", ["hex"]⟩,
    ⟨.text (.singleByte National.roman8), "hp_roman8", ["cp1051", "csHPRoman8", "ibm1051", "r8",
      "roman8"]⟩,
    ⟨.text .hz, "hz", ["hz_gb", "hz_gb_2312", "hzgb"]⟩,
    ⟨.text (.switching EastAsian.iso2022Jp), "iso2022_jp", ["csiso2022jp", "iso2022jp",
      "iso_2022_jp"]⟩,
    ⟨.text (.switching EastAsian.iso2022Jp1), "iso2022_jp_1", ["iso2022jp_1", "iso_2022_jp_1"]⟩,
    ⟨.text (.switching EastAsian.iso2022Jp2), "iso2022_jp_2", ["iso2022jp_2", "iso_2022_jp_2"]⟩,
    ⟨.text (.switching EastAsian.iso2022Jp2004), "iso2022_jp_2004", ["iso2022jp_2004",
      "iso_2022_jp_2004"]⟩,
    ⟨.text (.switching EastAsian.iso2022Jp3), "iso2022_jp_3", ["iso2022jp_3", "iso_2022_jp_3"]⟩,
    ⟨.text (.switching EastAsian.iso2022JpExt), "iso2022_jp_ext", ["iso2022jp_ext",
      "iso_2022_jp_ext"]⟩,
    ⟨.text (.switching EastAsian.iso2022Kr), "iso2022_kr", ["csiso2022kr", "iso2022kr",
      "iso_2022_kr"]⟩,
    ⟨.text (.singleByte Iso8859.part10), "iso8859_10", ["csisolatin6", "iso_8859_10",
      "iso_8859_10_1992", "iso_ir_157", "l6", "latin6"]⟩,
    ⟨.text (.singleByte Iso8859.part11), "iso8859_11", ["iso_8859_11", "iso_8859_11_2001", "thai"]⟩,
    ⟨.text (.singleByte Iso8859.part13), "iso8859_13", ["iso_8859_13", "l7", "latin7"]⟩,
    ⟨.text (.singleByte Iso8859.part14), "iso8859_14", ["iso_8859_14", "iso_8859_14_1998",
      "iso_celtic", "iso_ir_199", "l8", "latin8"]⟩,
    ⟨.text (.singleByte Iso8859.part15), "iso8859_15", ["iso_8859_15", "l9", "latin9"]⟩,
    ⟨.text (.singleByte Iso8859.part16), "iso8859_16", ["iso_8859_16", "iso_8859_16_2001",
      "iso_ir_226", "l10", "latin10"]⟩,
    ⟨.text (.singleByte Iso8859.part2), "iso8859_2", ["csisolatin2", "iso_8859_2",
      "iso_8859_2_1987", "iso_ir_101", "l2", "latin2"]⟩,
    ⟨.text (.singleByte Iso8859.part3), "iso8859_3", ["csisolatin3", "iso_8859_3",
      "iso_8859_3_1988", "iso_ir_109", "l3", "latin3"]⟩,
    ⟨.text (.singleByte Iso8859.part4), "iso8859_4", ["csisolatin4", "iso_8859_4",
      "iso_8859_4_1988", "iso_ir_110", "l4", "latin4"]⟩,
    ⟨.text (.singleByte Iso8859.part5), "iso8859_5", ["csisolatincyrillic", "cyrillic",
      "iso_8859_5", "iso_8859_5_1988", "iso_ir_144"]⟩,
    ⟨.text (.singleByte Iso8859.part6), "iso8859_6", ["arabic", "asmo_708", "csisolatinarabic",
      "ecma_114", "iso_8859_6", "iso_8859_6_1987", "iso_ir_127"]⟩,
    ⟨.text (.singleByte Iso8859.part7), "iso8859_7", ["csisolatingreek", "ecma_118", "elot_928",
      "greek", "greek8", "iso_8859_7", "iso_8859_7_1987", "iso_ir_126"]⟩,
    ⟨.text (.singleByte Iso8859.part8), "iso8859_8", ["csisolatinhebrew", "hebrew", "iso_8859_8",
      "iso_8859_8_1988", "iso_ir_138"]⟩,
    ⟨.text (.singleByte Iso8859.part9), "iso8859_9", ["csisolatin5", "iso_8859_9",
      "iso_8859_9_1989", "iso_ir_148", "l5", "latin5"]⟩,
    ⟨.text (.multiByte EastAsian.johabEncoding), "johab", ["cp1361", "ms1361"]⟩,
    ⟨.text (.singleByte National.koi8R), "koi8_r", ["cskoi8r"]⟩,
    ⟨.text (.singleByte National.koi8T), "koi8_t", []⟩,
    ⟨.text (.singleByte National.koi8U), "koi8_u", []⟩,
    ⟨.text (.singleByte National.kz1048), "kz1048", ["kz_1048", "rk1048", "strk1048_2002"]⟩,
    ⟨.text (.singleByte Macintosh.arabic), "mac_arabic", []⟩,
    ⟨.text (.singleByte Macintosh.croatian), "mac_croatian", []⟩,
    ⟨.text (.singleByte Macintosh.cyrillic), "mac_cyrillic", ["maccyrillic"]⟩,
    ⟨.text (.singleByte Macintosh.farsi), "mac_farsi", []⟩,
    ⟨.text (.singleByte Macintosh.greek), "mac_greek", ["macgreek"]⟩,
    ⟨.text (.singleByte Macintosh.iceland), "mac_iceland", ["maciceland"]⟩,
    ⟨.text (.singleByte Macintosh.latin2), "mac_latin2", ["mac_centeuro", "maccentraleurope",
      "maclatin2"]⟩,
    ⟨.text (.singleByte Macintosh.roman), "mac_roman", ["macintosh", "macroman"]⟩,
    ⟨.text (.singleByte Macintosh.romanian), "mac_romanian", []⟩,
    ⟨.text (.singleByte Macintosh.turkish), "mac_turkish", ["macturkish"]⟩,
    ⟨.text (.singleByte National.palm), "palmos", []⟩,
    ⟨.text (.singleByte National.ptcp154), "ptcp154", ["cp154", "csptcp154", "cyrillic_asian",
      "pt154"]⟩,
    ⟨.binary, "quopri_codec", ["quopri", "quoted_printable", "quotedprintable"]⟩,
    ⟨.binary, "rot_13", ["rot13"]⟩,
    ⟨.text (.multiByte EastAsian.shiftJisEncoding), "shift_jis", ["csshiftjis", "s_jis", "shiftjis",
      "sjis", "x_mac_japanese"]⟩,
    ⟨.text (.multiByte EastAsian.shiftJis2004Encoding), "shift_jis_2004", ["s_jis_2004",
      "shiftjis2004", "sjis_2004"]⟩,
    ⟨.text (.multiByte EastAsian.shiftJisx0213Encoding), "shift_jisx0213", ["s_jisx0213",
      "shiftjisx0213", "sjisx0213"]⟩,
    ⟨.text (.singleByte National.tis620), "tis_620", ["iso_ir_166", "tis620", "tis_620_0",
      "tis_620_2529_0", "tis_620_2529_1"]⟩,
    ⟨.undefined, "undefined", []⟩,
    ⟨.binary, "uu_codec", ["uu"]⟩,
    ⟨.binary, "zlib_codec", ["zip", "zlib"]⟩]

/-- One character of a name further to the left: characters other than letters,
digits and points become one underscore where they stand between those. -/
def consPlain (c : Char) (name : List Char × Bool) : List Char × Bool :=
  if c.isAlphanum || c == '.' then
    (c.toLower :: if name.2 && !name.1.isEmpty then '_' :: name.1 else name.1, false)
  else (name.1, true)

/-- The plain form of a name: lower case, with single underscores between its
words. -/
def plainName (name : List Char) : List Char :=
  (name.foldr consPlain ([], false)).1

/-- The encoding that has a name beside its proper one. -/
def aliased? (name : List Char) : Option Entry :=
  entries.find? fun entry => entry.aliases.contains (String.ofList name)

/-- What a name stands for.  In other names than the proper one a point may stand
for an underscore. -/
def named? (name : List Char) : Option Named :=
  let plain := plainName name
  let joined := plain.map fun c => if c = '.' then '_' else c
  let proper? := entries.find? fun entry => entry.name = String.ofList plain
  (((aliased? plain).or (aliased? joined)).or proper?).map Entry.named

end LineArithmetic.Charset
