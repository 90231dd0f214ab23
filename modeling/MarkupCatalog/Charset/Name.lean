import MarkupCatalog.Charset.Basic
import MarkupCatalog.Text.Search

/-!
# Names of charsets

In a name upper and lower case are the same, and so are all runs of characters other than
letters, digits and points.  A charset has a name of its own and further ones; in the
latter a point may stand for the separator too.
-/

namespace MarkupCatalog.Charset

/-- What a name of the kind that charsets have may stand for: a charset, or another
conversion, which does not turn bytes into text. -/
inductive Conversion
  | text (charset : Charset)
  | other
  deriving DecidableEq, Repr

/-- The form of a name in which case and separators are settled. -/
def normalName (name : Text) : Text :=
  let words := name.map fun c => if c.isAlphanum || c == '.' then c.toLower else ' '
  Text.joinWith ['_'] ((Text.splitOnChar ' ' words).filter (!·.isEmpty))

/-- A conversion with its own name and its further ones. -/
structure Entry where
  conversion : Conversion
  name : String
  aliases : List String

/-- The entry of a code page. -/
def Entry.page (page : CodePage) (aliases : List String) : Entry :=
  ⟨.text (.codePage page), page.name, aliases⟩

/-- The entry of a charset that is left to the codecs. -/
def Entry.foreign (name : String) (aliases : List String) : Entry :=
  ⟨.text (.foreign name), name, aliases⟩

/-- The entry of a conversion that is no charset. -/
def Entry.other (name : String) (aliases : List String) : Entry := ⟨.other, name, aliases⟩

/-- The charsets of the Unicode family, those whose bytes are numbers of characters, and those for
the names of hosts. -/
def generalEntries : List Entry :=
  [⟨.text .utf8, "utf_8", ["u8", "utf", "utf8", "utf8_ucs2", "utf8_ucs4", "cp65001"]⟩,
   ⟨.text .utf8Signed, "utf_8_sig", []⟩,
   ⟨.text .utf7, "utf_7", ["u7", "utf7", "unicode_1_1_utf_7"]⟩,
   ⟨.text .utf16, "utf_16", ["u16", "utf16"]⟩,
   ⟨.text (.utf16Ordered .littleEndian), "utf_16_le", ["unicodelittleunmarked", "utf_16le"]⟩,
   ⟨.text (.utf16Ordered .bigEndian), "utf_16_be", ["unicodebigunmarked", "utf_16be"]⟩,
   ⟨.text .utf32, "utf_32", ["u32", "utf32"]⟩,
   ⟨.text (.utf32Ordered .littleEndian), "utf_32_le", ["utf_32le"]⟩,
   ⟨.text (.utf32Ordered .bigEndian), "utf_32_be", ["utf_32be"]⟩,
   ⟨.text .ascii, "ascii", ["646", "ansi_x3.4_1968", "ansi_x3_4_1968", "ansi_x3.4_1986", "cp367",
     "csascii", "ibm367", "iso646_us", "iso_646.irv_1991", "iso_ir_6", "us", "us_ascii"]⟩,
   ⟨.text .latin1, "latin_1", ["8859", "cp819", "csisolatin1", "ibm819", "iso8859", "iso8859_1",
     "iso_8859_1", "iso_8859_1_1987", "iso_ir_100", "l1", "latin", "latin1"]⟩,
   ⟨.text .latin1, "charmap", []⟩,
   ⟨.text (.escaped .full), "unicode_escape", []⟩,
   ⟨.text (.escaped .raw), "raw_unicode_escape", []⟩,
   .foreign "idna" [],
   .foreign "punycode" [],
   ⟨.text .undefined, "undefined", []⟩]

/-- The code pages. -/
def pageEntries : List Entry :=
  [.page .cp037 ["037", "csibm037", "ebcdic_cp_ca", "ebcdic_cp_nl", "ebcdic_cp_us",
     "ebcdic_cp_wt", "ibm037", "ibm039"],
   .page .cp1006 [],
   .page .cp1026 ["1026", "csibm1026", "ibm1026"],
   .page .cp1125 ["1125", "ibm1125", "cp866u", "ruscii"],
   .page .cp1140 ["1140", "ibm1140"],
   .page .cp1250 ["1250", "windows_1250"],
   .page .cp1251 ["1251", "windows_1251"],
   .page .cp1252 ["1252", "windows_1252"],
   .page .cp1253 ["1253", "windows_1253"],
   .page .cp1254 ["1254", "windows_1254"],
   .page .cp1255 ["1255", "windows_1255"],
   .page .cp1256 ["1256", "windows_1256"],
   .page .cp1257 ["1257", "windows_1257"],
   .page .cp1258 ["1258", "windows_1258"],
   .page .cp273 ["273", "ibm273", "csibm273"],
   .page .cp424 ["424", "csibm424", "ebcdic_cp_he", "ibm424"],
   .page .cp437 ["437", "cspc8codepage437", "ibm437"],
   .page .cp500 ["500", "csibm500", "ebcdic_cp_be", "ebcdic_cp_ch", "ibm500"],
   .page .cp720 [],
   .page .cp737 [],
   .page .cp775 ["775", "cspc775baltic", "ibm775"],
   .page .cp850 ["850", "cspc850multilingual", "ibm850"],
   .page .cp852 ["852", "cspcp852", "ibm852"],
   .page .cp855 ["855", "csibm855", "ibm855"],
   .page .cp856 [],
   .page .cp857 ["857", "csibm857", "ibm857"],
   .page .cp858 ["858", "csibm858", "ibm858"],
   .page .cp860 ["860", "csibm860", "ibm860"],
   .page .cp861 ["861", "cp_is", "csibm861", "ibm861"],
   .page .cp862 ["862", "cspc862latinhebrew", "ibm862"],
   .page .cp863 ["863", "csibm863", "ibm863"],
   .page .cp864 ["864", "csibm864", "ibm864"],
   .page .cp865 ["865", "csibm865", "ibm865"],
   .page .cp866 ["866", "csibm866", "ibm866"],
   .page .cp869 ["869", "cp_gr", "csibm869", "ibm869"],
   .page .cp874 [],
   .page .cp875 [],
   .page .hpRoman8 ["roman8", "r8", "cp1051", "ibm1051"],
   .page .iso885910 ["csisolatin6", "iso_8859_10", "iso_8859_10_1992", "iso_ir_157", "l6",
     "latin6"],
   .page .iso885911 ["thai", "iso_8859_11", "iso_8859_11_2001"],
   .page .iso885913 ["iso_8859_13", "l7", "latin7"],
   .page .iso885914 ["iso_8859_14", "iso_8859_14_1998", "iso_celtic", "iso_ir_199", "l8",
     "latin8"],
   .page .iso885915 ["iso_8859_15", "l9", "latin9"],
   .page .iso885916 ["iso_8859_16", "iso_8859_16_2001", "iso_ir_226", "l10", "latin10"],
   .page .iso88592 ["csisolatin2", "iso_8859_2", "iso_8859_2_1987", "iso_ir_101", "l2", "latin2"],
   .page .iso88593 ["csisolatin3", "iso_8859_3", "iso_8859_3_1988", "iso_ir_109", "l3", "latin3"],
   .page .iso88594 ["csisolatin4", "iso_8859_4", "iso_8859_4_1988", "iso_ir_110", "l4", "latin4"],
   .page .iso88595 ["csisolatincyrillic", "cyrillic", "iso_8859_5", "iso_8859_5_1988",
     "iso_ir_144"],
   .page .iso88596 ["arabic", "asmo_708", "csisolatinarabic", "ecma_114", "iso_8859_6",
     "iso_8859_6_1987", "iso_ir_127"],
   .page .iso88597 ["csisolatingreek", "ecma_118", "elot_928", "greek", "greek8", "iso_8859_7",
     "iso_8859_7_1987", "iso_ir_126"],
   .page .iso88598 ["csisolatinhebrew", "hebrew", "iso_8859_8", "iso_8859_8_1988", "iso_ir_138"],
   .page .iso88599 ["csisolatin5", "iso_8859_9", "iso_8859_9_1989", "iso_ir_148", "l5", "latin5"],
   .page .koi8R ["cskoi8r"],
   .page .koi8T [],
   .page .koi8U [],
   .page .kz1048 ["kz_1048", "rk1048", "strk1048_2002"],
   .page .macArabic [],
   .page .macCroatian [],
   .page .macCyrillic ["maccyrillic"],
   .page .macFarsi [],
   .page .macGreek ["macgreek"],
   .page .macIceland ["maciceland"],
   .page .macLatin2 ["maccentraleurope", "mac_centeuro", "maclatin2"],
   .page .macRoman ["macintosh", "macroman"],
   .page .macRomanian [],
   .page .macTurkish ["macturkish"],
   .page .palmos [],
   .page .ptcp154 ["csptcp154", "pt154", "cp154", "cyrillic_asian"],
   .page .tis620 ["tis620", "tis_620_0", "tis_620_2529_0", "tis_620_2529_1", "iso_ir_166"]]

/-- The charsets with several bytes per character. -/
def multibyteEntries : List Entry :=
  [.foreign "big5" ["big5_tw", "csbig5", "x_mac_trad_chinese"],
   .foreign "big5hkscs" ["big5_hkscs", "hkscs"],
   .foreign "cp932" ["932", "ms932", "mskanji", "ms_kanji"],
   .foreign "cp949" ["949", "ms949", "uhc"],
   .foreign "cp950" ["950", "ms950"],
   .foreign "euc_jis_2004" ["jisx0213", "eucjis2004", "euc_jis2004"],
   .foreign "euc_jisx0213" ["eucjisx0213"],
   .foreign "euc_jp" ["eucjp", "ujis", "u_jis"],
   .foreign "euc_kr" ["euckr", "korean", "ksc5601", "ks_c_5601", "ks_c_5601_1987", "ksx1001",
     "ks_x_1001", "x_mac_korean"],
   .foreign "gb18030" ["gb18030_2000"],
   .foreign "gb2312" ["chinese", "csiso58gb231280", "euc_cn", "euccn", "eucgb2312_cn",
     "gb2312_1980", "gb2312_80", "iso_ir_58", "x_mac_simp_chinese"],
   .foreign "gbk" ["936", "cp936", "ms936"],
   .foreign "hz" ["hzgb", "hz_gb", "hz_gb_2312"],
   .foreign "iso2022_jp" ["csiso2022jp", "iso2022jp", "iso_2022_jp"],
   .foreign "iso2022_jp_1" ["iso2022jp_1", "iso_2022_jp_1"],
   .foreign "iso2022_jp_2" ["iso2022jp_2", "iso_2022_jp_2"],
   .foreign "iso2022_jp_2004" ["iso_2022_jp_2004", "iso2022jp_2004"],
   .foreign "iso2022_jp_3" ["iso2022jp_3", "iso_2022_jp_3"],
   .foreign "iso2022_jp_ext" ["iso2022jp_ext", "iso_2022_jp_ext"],
   .foreign "iso2022_kr" ["csiso2022kr", "iso2022kr", "iso_2022_kr"],
   .foreign "johab" ["cp1361", "ms1361"],
   .foreign "shift_jis" ["csshiftjis", "shiftjis", "sjis", "s_jis", "x_mac_japanese"],
   .foreign "shift_jis_2004" ["shiftjis2004", "sjis_2004", "s_jis_2004"],
   .foreign "shift_jisx0213" ["shiftjisx0213", "sjisx0213", "s_jisx0213"]]

/-- The conversions that are no charsets. -/
def otherEntries : List Entry :=
  [.other "base64_codec" ["base64", "base_64"],
   .other "bz2_codec" ["bz2"],
   .other "hex_codec" ["hex"],
   .other "quopri_codec" ["quopri", "quoted_printable", "quotedprintable"],
   .other "rot_13" ["rot13"],
   .other "uu_codec" ["uu"],
   .other "zlib_codec" ["zip", "zlib"]]

/-- All entries. -/
def entries : List Entry := generalEntries ++ pageEntries ++ multibyteEntries ++ otherEntries

/-- The entry that has a further name. -/
def aliased? (name : Text) : Option Entry :=
  entries.find? fun e => e.aliases.any fun known => known.toList = name

/-- What a name stands for.  Further names go before own names, and with their points before
without. -/
def conversion? (name : Text) : Option Conversion :=
  let normal := normalName name
  let undotted := normal.map fun c => if c == '.' then '_' else c
  ((aliased? normal).or (aliased? undotted)).or
    (entries.find? fun e => e.name.toList = normal) |>.map Entry.conversion

end MarkupCatalog.Charset
