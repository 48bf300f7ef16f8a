import FeatLoom.Xml.Encoding.CodePage

/-!
# Names of encodings

What the name of an encoding in a declaration says. Six names are those of encodings that documents
are expected in. All others name code pages, or what is not supported, in many spellings: case does
not count, and neither does which signs stand between letters.
-/

namespace FeatLoom.Xml

inductive DocumentError where
  | malformed
  | unknownEncoding
  | wideEncoding
  | foreignEncoding
  | partialEncoding
  deriving DecidableEq

inductive DeclaredEncoding where
  | utf8
  | latin1
  | ascii
  /-- Units of two bytes, in an order that may be left open. -/
  | wide (littleEndian : Option Bool)
  | page (page : CodePage)
  | refused (error : DocumentError)

namespace DeclaredEncoding

def expected : List (String × DeclaredEncoding) := [
  ("utf-8", utf8), ("iso-8859-1", latin1), ("us-ascii", ascii),
  ("utf-16", wide none), ("utf-16le", wide (some true)), ("utf-16be", wide (some false))]

def wideNames : List String := [
  "big5", "big5_hkscs", "big5_tw", "big5hkscs", "chinese", "cp1361", "cp932", "cp936", "cp949",
  "cp950", "csbig5", "csiso2022kr", "csiso58gb231280", "csshiftjis", "euc_cn", "euc_jis2004",
  "euc_jis_2004", "euc_jisx0213", "euc_jp", "euc_kr", "euccn", "eucgb2312_cn", "eucjis2004",
  "eucjisx0213", "eucjp", "euckr", "gb18030", "gb18030_2000", "gb2312", "gb2312_1980",
  "gb2312_80", "gbk", "hkscs", "iso2022_kr", "iso2022kr", "iso_2022_kr", "iso_ir_58", "jisx0213",
  "johab", "korean", "ks_c_5601", "ks_c_5601_1987", "ks_x_1001", "ksc5601", "ksx1001", "ms1361",
  "ms932", "ms936", "ms949", "ms950", "ms_kanji", "mskanji", "s_jis", "s_jis_2004", "s_jisx0213",
  "shift_jis", "shift_jis_2004", "shift_jisx0213", "shiftjis", "shiftjis2004", "shiftjisx0213",
  "sjis", "sjis_2004", "sjisx0213", "u16", "u32", "u7", "u_jis", "uhc", "ujis",
  "unicode_1_1_utf_7", "unicodebigunmarked", "unicodelittleunmarked", "utf16", "utf32", "utf7",
  "utf_16", "utf_16_be", "utf_16_le", "utf_16be", "utf_16le", "utf_32", "utf_32_be", "utf_32_le",
  "utf_32be", "utf_32le", "utf_7", "x_mac_japanese", "x_mac_korean", "x_mac_simp_chinese",
  "x_mac_trad_chinese"]

def displacedNames : List String := [
  "cp037", "cp1026", "cp1140", "cp273", "cp424", "cp500", "cp864", "cp875", "csibm037",
  "csibm1026", "csibm273", "csibm424", "csibm500", "csibm864", "ebcdic_cp_be", "ebcdic_cp_ca",
  "ebcdic_cp_ch", "ebcdic_cp_he", "ebcdic_cp_nl", "ebcdic_cp_us", "ebcdic_cp_wt", "ibm037",
  "ibm039", "ibm1026", "ibm1140", "ibm273", "ibm424", "ibm500", "ibm864", "mac_arabic",
  "mac_farsi"]

def undottedNames : List String := [
  "euc_jis_2004", "euc_jisx0213", "euc_jp", "euc_kr", "hp_roman8", "iso2022_jp", "iso2022_jp_1",
  "iso2022_jp_2", "iso2022_jp_2004", "iso2022_jp_3", "iso2022_jp_ext", "iso2022_kr", "iso8859_10",
  "iso8859_11", "iso8859_13", "iso8859_14", "iso8859_15", "iso8859_16", "iso8859_2", "iso8859_3",
  "iso8859_4", "iso8859_5", "iso8859_6", "iso8859_7", "iso8859_8", "iso8859_9", "koi8_r", "koi8_t",
  "koi8_u", "latin_1", "mac_arabic", "mac_croatian", "mac_cyrillic", "mac_farsi", "mac_greek",
  "mac_iceland", "mac_latin2", "mac_roman", "mac_romanian", "mac_turkish", "raw_unicode_escape",
  "shift_jis", "shift_jis_2004", "shift_jisx0213", "tis_620", "unicode_escape", "utf_16",
  "utf_16_be", "utf_16_le", "utf_32", "utf_32_be", "utf_32_le", "utf_7", "utf_8", "utf_8_sig"]

def joined : List Char → List Char
  | [] => []
  | c :: rest =>
    if c.isAlphanum || c == '.' then c :: joined rest
    else
      match joined rest with
      | [] => []
      | '_' :: more => '_' :: more
      | more => '_' :: more

def ofSpelling (name : String) : DeclaredEncoding :=
  match CodePage.ofName? name with
  | some found => page found
  | none =>
    if wideNames.contains name then refused .wideEncoding
    else if displacedNames.contains name then refused .malformed
    else if name = "idna" || name = "undefined" then refused .foreignEncoding
    else if name = "punycode" then refused .partialEncoding
    else refused .unknownEncoding

def ofName (name : String) : DeclaredEncoding :=
  let lowered := name.toLower
  match expected.lookup lowered with
  | some found => found
  | none =>
    let spelling := joined lowered.toList
    match ofSpelling (String.ofList spelling) with
    | refused .unknownEncoding =>
      let undotted := String.ofList (spelling.map fun c => if c == '.' then '_' else c)
      if undottedNames.contains undotted then refused .unknownEncoding else ofSpelling undotted
    | found => found

end DeclaredEncoding

end FeatLoom.Xml
