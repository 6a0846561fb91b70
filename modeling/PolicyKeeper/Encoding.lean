import PolicyKeeper.CodePages
import PolicyKeeper.Octets
import PolicyKeeper.TextParts

/-!
# Encodings by name

An encoding is asked for by a name in any case, in which every run of
characters other than letters, digits and points counts as one underscore.
Most names may also have points in place of their underscores.  Encodings whose
characters take several octets in a way of their own are known by name, but of
their texts only the ASCII part is read, as far as no octet of it announces
others.
-/

namespace PolicyKeeper

/-- Encodings that fail on octets in general: those of labels of hosts, and the
one that reads nothing. -/
inductive FailingCodec
  | labels
  | encodedLabels
  | undefined
  deriving DecidableEq

inductive Encoding
  | utf8
  | utf8Marked
  | utf16 (order : Option OctetOrder)
  | utf32 (order : Option OctetOrder)
  | ascii
  | codePage (characters : String)
  | several (name : String)
  /-- Several octets for a character, announced by an octet that is no character
  by itself. -/
  | shifting (name : String) (announcing : UInt8)
  /-- One octet for each of the first 256 characters, and escapes for others. -/
  | escaped
  | failing (codec : FailingCodec)
  /-- A transformation that does not give text. -/
  | notText
  deriving DecidableEq

namespace Encoding

def normalizedName (name : String) : String :=
  let step := fun (done, gap) (c : Char) =>
    if c.isAlphanum || c == '.' then
      let done := if gap && done ≠ [] then '_' :: done else done
      (c.toLower :: done, false)
    else (done, true)
  String.ofList (name.toList.foldl step ([], false)).1.reverse

def namedBy (names : String) (name : String) : Bool :=
  (partsAt ' ' names.toList).contains name.toList

def registered : List (String × Encoding) :=
  [
    ("cp65001 u8 utf utf8 utf8_ucs2 utf8_ucs4 utf_8", .utf8),
    ("utf_8_sig", .utf8Marked),
    ("u16 utf16 utf_16", .utf16 none),
    ("unicodebigunmarked utf_16_be utf_16be", .utf16 (some .mostFirst)),
    ("unicodelittleunmarked utf_16_le utf_16le", .utf16 (some .leastFirst)),
    ("u32 utf32 utf_32", .utf32 none),
    ("utf_32_be utf_32be", .utf32 (some .mostFirst)),
    ("utf_32_le utf_32le", .utf32 (some .leastFirst)),
    ("646 ansi_x3.4_1968 ansi_x3.4_1986 ansi_x3_4_1968 ascii cp367 csascii ibm367 " ++
      "iso646_us iso_646.irv_1991 iso_ir_6 us us_ascii", .ascii),
    ("big5 big5_tw csbig5 x_mac_trad_chinese", .several "big5"),
    ("big5_hkscs big5hkscs hkscs", .several "big5hkscs"),
    ("932 cp932 ms932 ms_kanji mskanji", .several "cp932"),
    ("949 cp949 ms949 uhc", .several "cp949"),
    ("950 cp950 ms950", .several "cp950"),
    ("euc_jis2004 euc_jis_2004 eucjis2004 jisx0213", .several "euc_jis_2004"),
    ("euc_jisx0213 eucjisx0213", .several "euc_jisx0213"),
    ("euc_jp eucjp u_jis ujis", .several "euc_jp"),
    ("euc_kr euckr korean ks_c_5601 ks_c_5601_1987 ks_x_1001 ksc5601 ksx1001 " ++
      "x_mac_korean", .several "euc_kr"),
    ("gb18030 gb18030_2000", .several "gb18030"),
    ("chinese csiso58gb231280 euc_cn euccn eucgb2312_cn gb2312 gb2312_1980 gb2312_80 " ++
      "iso_ir_58 x_mac_simp_chinese", .several "gb2312"),
    ("936 cp936 gbk ms936", .several "gbk"),
    ("cp1361 johab ms1361", .several "johab"),
    ("csiso2022kr iso2022_kr iso2022kr iso_2022_kr", .several "iso2022_kr"),
    ("csshiftjis s_jis shift_jis shiftjis sjis x_mac_japanese", .several "shift_jis"),
    ("s_jis_2004 shift_jis_2004 shiftjis2004 sjis_2004", .several "shift_jis_2004"),
    ("s_jisx0213 shift_jisx0213 shiftjisx0213 sjisx0213", .several "shift_jisx0213"),
    ("u7 unicode_1_1_utf_7 utf7 utf_7", .several "utf7"),
    ("hz hz_gb hz_gb_2312 hzgb", .shifting "hz" 0x7E),
    ("csiso2022jp iso2022_jp iso2022jp iso_2022_jp", .shifting "iso2022_jp" 0x1B),
    ("iso2022_jp_1 iso2022jp_1 iso_2022_jp_1", .shifting "iso2022_jp_1" 0x1B),
    ("iso2022_jp_2 iso2022jp_2 iso_2022_jp_2", .shifting "iso2022_jp_2" 0x1B),
    ("iso2022_jp_2004 iso2022jp_2004 iso_2022_jp_2004", .shifting "iso2022_jp_2004" 0x1B),
    ("iso2022_jp_3 iso2022jp_3 iso_2022_jp_3", .shifting "iso2022_jp_3" 0x1B),
    ("iso2022_jp_ext iso2022jp_ext iso_2022_jp_ext", .shifting "iso2022_jp_ext" 0x1B),
    ("raw_unicode_escape unicode_escape", .escaped),
    ("idna", .failing .labels),
    ("punycode", .failing .encodedLabels),
    ("undefined", .failing .undefined),
    ("base64 base64_codec base_64 bz2 bz2_codec hex hex_codec quopri quopri_codec " ++
      "quoted_printable quotedprintable rot13 rot_13 uu uu_codec zip zlib zlib_codec",
      .notText)
  ]

/-- The names in which no point may stand for an underscore. -/
def withoutPoints : String :=
  "base64_codec bz2_codec euc_jis_2004 euc_jisx0213 euc_jp euc_kr hex_codec hp_roman8 " ++
    "iso2022_jp iso2022_jp_1 iso2022_jp_2 iso2022_jp_2004 iso2022_jp_3 iso2022_jp_ext " ++
    "iso2022_kr iso8859_10 iso8859_11 iso8859_13 iso8859_14 iso8859_15 iso8859_16 iso8859_2 " ++
    "iso8859_3 iso8859_4 iso8859_5 iso8859_6 iso8859_7 iso8859_8 iso8859_9 koi8_r koi8_t " ++
    "koi8_u latin_1 mac_arabic mac_croatian mac_cyrillic mac_farsi mac_greek mac_iceland " ++
    "mac_latin2 mac_roman mac_romanian mac_turkish quopri_codec raw_unicode_escape rot_13 " ++
    "shift_jis shift_jis_2004 shift_jisx0213 tis_620 unicode_escape utf_16 utf_16_be " ++
    "utf_16_le utf_32 utf_32_be utf_32_le utf_7 utf_8 utf_8_sig uu_codec zlib_codec"

def named? (name : String) : Option Encoding :=
  match registered.find? fun (names, _) => namedBy names name with
  | some (_, encoding) => some encoding
  | none =>
      (codePages.find? fun (names, _) => namedBy names name).map fun (_, characters) =>
        .codePage characters

def ofName? (name : String) : Option Encoding :=
  let name := normalizedName name
  match named? name with
  | some encoding => some encoding
  | none =>
      let pointless := String.ofList (name.toList.map fun c => if c = '.' then '_' else c)
      if namedBy withoutPoints pointless then none else named? pointless

def onPage? (characters : Array Char) (octet : UInt8) : Option Char :=
  let n := octet.toNat
  let place? := if characters.size = 256 then some n
    else if 0x80 ≤ n then some (n - 0x80) else none
  match place? with
  | none => some (Char.ofNat n)
  | some place => (characters[place]?).filter (· ≠ '\ufffd')

def decodeSingly (name reason : String) (read? : UInt8 → Option Char) (place : Nat) :
    Octets → Except DecodingFault (List Char)
  | [] => .ok []
  | octet :: rest =>
      match read? octet with
      | none => .error (.malformed name octet place 1 reason)
      | some c => (decodeSingly name reason read? (place + 1) rest).map (c :: ·)

def asciiOnly? (octet : UInt8) : Option Char :=
  if octet.toNat < 0x80 then some (Char.ofNat octet.toNat) else none

def latin (octets : Octets) : List Char := octets.map fun octet => Char.ofNat octet.toNat

def decode : Encoding → Octets → Except DecodingFault (List Char)
  | .utf8, octets => Utf8.decode octets
  | .utf8Marked, octets =>
      if octets.length < 3 && octets.isPrefixOf [0xEF, 0xBB, 0xBF] then .ok []
      else
        Utf8.decode (if octets.take 3 = [0xEF, 0xBB, 0xBF] then octets.drop 3 else octets)
  | .utf16 none, octets => Utf16.decodeMarked octets
  | .utf16 (some order), octets => Utf16.decodeAs order octets 0
  | .utf32 none, octets => Utf32.decodeMarked octets
  | .utf32 (some order), octets => Utf32.decodeFrom order 0 octets
  | .ascii, octets => decodeSingly "ascii" "ordinal not in range(128)" asciiOnly? 0 octets
  | .codePage characters, octets =>
      let page := characters.toList.toArray
      decodeSingly "charmap" "character maps to <undefined>" (onPage? page) 0 octets
  | .several name, octets =>
      decodeSingly name "illegal multibyte sequence" asciiOnly? 0 octets
  | .shifting name _, octets =>
      decodeSingly name "illegal multibyte sequence" asciiOnly? 0 octets
  | .escaped, octets => .ok (latin octets)
  | .failing .undefined, _ => .error .undefined
  | .failing _, octets => decodeSingly "ascii" "ordinal not in range(128)" asciiOnly? 0 octets
  | .notText, _ => .ok []

end Encoding

end PolicyKeeper
