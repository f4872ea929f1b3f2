import Scaffold.Charset.Dos
import Scaffold.Charset.Iso
import Scaffold.Charset.Macintosh
import Scaffold.Charset.Regional
import Scaffold.Charset.Windows

/-!
# Names of character sets

All character sets that have a name, and the table that a name gives.
-/

namespace Scaffold.Charset

/-- Sets whose single bytes are all ASCII. What they have beyond it takes more bytes. -/
def asciiSets : List Charset :=
  [⟨"ascii",
      ["646", "ansi_x3.4_1968", "ansi_x3_4_1968", "ansi_x3.4_1986", "cp367", "csascii", "ibm367",
        "iso646_us", "iso_646.irv_1991", "iso_ir_6", "us", "us_ascii"], .bytes {}⟩,
    ⟨"utf_8", ["u8", "utf", "utf8", "utf8_ucs2", "utf8_ucs4", "cp65001"], .bytes {}⟩,
    ⟨"utf_8_sig", [], .bytes {}⟩,
    ⟨"iso2022_jp", ["csiso2022jp", "iso2022jp", "iso_2022_jp"], .bytes {}⟩,
    ⟨"iso2022_jp_1", ["iso2022jp_1", "iso_2022_jp_1"], .bytes {}⟩,
    ⟨"iso2022_jp_2", ["iso2022jp_2", "iso_2022_jp_2"], .bytes {}⟩,
    ⟨"iso2022_jp_2004", ["iso_2022_jp_2004", "iso2022jp_2004"], .bytes {}⟩,
    ⟨"iso2022_jp_3", ["iso2022jp_3", "iso_2022_jp_3"], .bytes {}⟩,
    ⟨"iso2022_jp_ext", ["iso2022jp_ext", "iso_2022_jp_ext"], .bytes {}⟩,
    ⟨"hz", ["hzgb", "hz_gb", "hz_gb_2312"], .bytes { gaps := [0x7E] }⟩]

/-- The table in which a byte is the number of its character. -/
def latin : Table := { upper := (List.range 0x80).map fun n => Char.ofNat (0x80 + n) }

/-- Sets whose single bytes are the numbers of their characters. -/
def latinSets : List Charset :=
  [⟨"latin_1",
      ["8859", "cp819", "csisolatin1", "ibm819", "iso8859", "iso8859_1", "iso_8859_1",
        "iso_8859_1_1987", "iso_ir_100", "l1", "latin", "latin1"], .bytes latin⟩,
    ⟨"charmap", [], .bytes latin⟩,
    ⟨"unicode_escape", [], .bytes latin⟩,
    ⟨"raw_unicode_escape", [], .bytes latin⟩]

/-- Sets whose single bytes are at odds with ASCII. -/
def foreignSets : List Charset :=
  [⟨"cp037",
      ["037", "csibm037", "ebcdic_cp_ca", "ebcdic_cp_nl", "ebcdic_cp_us", "ebcdic_cp_wt", "ibm037",
        "ibm039"], .foreign⟩,
    ⟨"cp273", ["273", "ibm273", "csibm273"], .foreign⟩,
    ⟨"cp424", ["424", "csibm424", "ebcdic_cp_he", "ibm424"], .foreign⟩,
    ⟨"cp500", ["500", "csibm500", "ebcdic_cp_be", "ebcdic_cp_ch", "ibm500"], .foreign⟩,
    ⟨"cp864", ["864", "csibm864", "ibm864"], .foreign⟩,
    ⟨"cp875", [], .foreign⟩,
    ⟨"cp1026", ["1026", "csibm1026", "ibm1026"], .foreign⟩,
    ⟨"cp1140", ["1140", "ibm1140"], .foreign⟩,
    ⟨"mac_arabic", [], .foreign⟩,
    ⟨"mac_farsi", [], .foreign⟩]

/-- Sets in which a character may take more bytes than one. -/
def multibyteSets : List Charset :=
  [("big5", ["big5_tw", "csbig5", "x_mac_trad_chinese"]),
    ("big5hkscs", ["big5_hkscs", "hkscs"]),
    ("cp932", ["932", "ms932", "mskanji", "ms_kanji"]),
    ("cp949", ["949", "ms949", "uhc"]),
    ("cp950", ["950", "ms950"]),
    ("euc_jis_2004", ["jisx0213", "eucjis2004", "euc_jis2004"]),
    ("euc_jisx0213", ["eucjisx0213"]),
    ("euc_jp", ["eucjp", "ujis", "u_jis"]),
    ("euc_kr",
      ["euckr", "korean", "ksc5601", "ks_c_5601", "ks_c_5601_1987", "ksx1001", "ks_x_1001",
        "x_mac_korean"]),
    ("gb18030", ["gb18030_2000"]),
    ("gb2312",
      ["chinese", "csiso58gb231280", "euc_cn", "euccn", "eucgb2312_cn", "gb2312_1980", "gb2312_80",
        "iso_ir_58", "x_mac_simp_chinese"]),
    ("gbk", ["936", "cp936", "ms936"]),
    ("iso2022_kr", ["csiso2022kr", "iso2022kr", "iso_2022_kr"]),
    ("johab", ["cp1361", "ms1361"]),
    ("shift_jis", ["csshiftjis", "shiftjis", "sjis", "s_jis", "x_mac_japanese"]),
    ("shift_jis_2004", ["shiftjis2004", "sjis_2004", "s_jis_2004"]),
    ("shift_jisx0213", ["shiftjisx0213", "sjisx0213", "s_jisx0213"]),
    ("utf_7", ["u7", "utf7", "unicode_1_1_utf_7"]),
    ("utf_16", ["u16", "utf16"]),
    ("utf_16_be", ["unicodebigunmarked", "utf_16be"]),
    ("utf_16_le", ["unicodelittleunmarked", "utf_16le"]),
    ("utf_32", ["u32", "utf32"]),
    ("utf_32_be", ["utf_32be"]),
    ("utf_32_le", ["utf_32le"])].map
    fun (title, aliases) => ⟨title, aliases, .obstructed .multibyte⟩

/-- Names of ways to write data. -/
def dataSets : List Charset :=
  [("base64_codec", ["base64", "base_64"]),
    ("bz2_codec", ["bz2"]),
    ("hex_codec", ["hex"]),
    ("quopri_codec", ["quopri", "quoted_printable", "quotedprintable"]),
    ("rot_13", ["rot13"]),
    ("uu_codec", ["uu"]),
    ("zlib_codec", ["zip", "zlib"])].map
    fun (title, aliases) => ⟨title, aliases, .obstructed .data⟩

/-- Sets for the names of hosts, and one for nothing. -/
def hostSets : List Charset :=
  [⟨"idna", [], .obstructed (.unmarked "Unsupported error handling replace")⟩,
    ⟨"punycode", [], .obstructed (.beyondAscii "0x80" 82)⟩,
    ⟨"undefined", [], .obstructed (.unmarked "undefined encoding")⟩]

/-- All character sets with a name. -/
def all : List Charset :=
  asciiSets ++ latinSets ++ Iso.all ++ Windows.all ++ Dos.all ++ Macintosh.all ++ Regional.all ++
    foreignSets ++ multibyteSets ++ dataSets ++ hostSets

/-- The table that a name gives; none if the set is at odds with ASCII. -/
def table? (name : String) : Except Error (Option Table) :=
  match all.find? (·.isNamed (normalize name)) with
  | none => .error (.unknown name)
  | some s =>
    match s.repertoire with
    | .bytes t => .ok (some t)
    | .foreign => .ok none
    | .obstructed o => .error (.obstructed name o)

end Scaffold.Charset
