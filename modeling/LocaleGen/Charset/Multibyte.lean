import LocaleGen.Charset.Designated

/-!
# Encodings of East Asia

`Multibyte` lists the encodings in which characters take several bytes, with their names;
`Multibyte.read` reads bytes in each of them.
-/

namespace LocaleGen.Charset

/-- The encodings in which characters take several bytes. -/
inductive Multibyte where
  | big5
  | big5Hkscs
  | cp932
  | cp949
  | cp950
  | eucJp
  | eucJisx0213 (revised : Bool)
  | eucKr
  | gb18030
  | gb2312
  | gbk
  | hz
  | johab
  | shiftJis
  | shiftJisx0213 (revised : Bool)
  | iso2022 (repertoire : Repertoire)

namespace Multibyte

/-- The encodings by ISO 2022, with their names. -/
def iso2022Names : List (Multibyte × List String) :=
  [(iso2022 ⟨[.jisx0208, .roman, .jisc6226], false, false, true⟩,
      ["iso2022_jp", "csiso2022jp", "iso2022jp", "iso_2022_jp"]),
   (iso2022 ⟨[.jisx0208, .jisx0212, .roman, .jisc6226], false, false, true⟩,
      ["iso2022_jp_1", "iso2022jp_1", "iso_2022_jp_1"]),
   (iso2022 ⟨[.jisx0208, .jisx0212, .ksx1001, .gb2312, .roman, .jisc6226, .latin, .greek], false,
     true, true⟩,
      ["iso2022_jp_2", "iso2022jp_2", "iso_2022_jp_2"]),
   (iso2022 ⟨[.jisx0208, .jisx0213 true, .jisx0213Second true], false, false, true⟩,
      ["iso2022_jp_2004", "iso_2022_jp_2004", "iso2022jp_2004"]),
   (iso2022 ⟨[.jisx0208, .jisx0213 false, .jisx0213Second false], false, false, true⟩,
      ["iso2022_jp_3", "iso2022jp_3", "iso_2022_jp_3"]),
   (iso2022 ⟨[.jisx0208, .jisx0212, .roman, .katakana, .jisc6226], false, false, true⟩,
      ["iso2022_jp_ext", "iso2022jp_ext", "iso_2022_jp_ext"]),
   (iso2022 ⟨[.ksx1001], true, false, false⟩,
      ["iso2022_kr", "csiso2022kr", "iso2022kr", "iso_2022_kr"])]

/-- The encodings with their names, of which the first one is their own. -/
def named : List (Multibyte × List String) :=
  [(big5, ["big5", "big5_tw", "csbig5", "x_mac_trad_chinese"]),
   (big5Hkscs, ["big5hkscs", "big5_hkscs", "hkscs"]),
   (cp932, ["cp932", "932", "ms932", "mskanji", "ms_kanji"]),
   (cp949, ["cp949", "949", "ms949", "uhc"]),
   (cp950, ["cp950", "950", "ms950"]),
   (eucJisx0213 true, ["euc_jis_2004", "jisx0213", "eucjis2004", "euc_jis2004"]),
   (eucJisx0213 false, ["euc_jisx0213", "eucjisx0213"]),
   (eucJp, ["euc_jp", "eucjp", "ujis", "u_jis"]),
   (eucKr, ["euc_kr", "euckr", "korean", "ksc5601", "ks_c_5601", "ks_c_5601_1987", "ksx1001", "ks_x_1001",
      "x_mac_korean"]),
   (gb18030, ["gb18030", "gb18030_2000"]),
   (gb2312, ["gb2312", "chinese", "csiso58gb231280", "euc_cn", "euccn", "eucgb2312_cn", "gb2312_1980",
      "gb2312_80", "iso_ir_58", "x_mac_simp_chinese"]),
   (gbk, ["gbk", "936", "cp936", "ms936"]),
   (hz, ["hz", "hzgb", "hz_gb", "hz_gb_2312"]),
   (johab, ["johab", "cp1361", "ms1361"]),
   (shiftJis, ["shift_jis", "csshiftjis", "shiftjis", "sjis", "s_jis", "x_mac_japanese"]),
   (shiftJisx0213 true, ["shift_jis_2004", "shiftjis2004", "sjis_2004", "s_jis_2004"]),
   (shiftJisx0213 false, ["shift_jisx0213", "shiftjisx0213", "sjisx0213", "s_jisx0213"])] ++
     iso2022Names

/-- The characters of bytes, and `none` for each fault. -/
def read (m : Multibyte) (bytes : Bytes) : Except Refusal (List (Option CodePoint)) :=
  let plain (step : UInt8 → Bytes → Step Unit) : Except Refusal (List (Option CodePoint)) :=
    readSteps (fun _ => step) () bytes
  match m with
  | big5 => plain Step.big5
  | big5Hkscs => plain Step.hongKong
  | cp932 => plain Step.windowsJapanese
  | cp949 => plain Step.windowsKorean
  | cp950 => plain Step.windowsTaiwan
  | eucJp => plain Step.eucJapanese
  | eucJisx0213 revised => plain (Step.eucPlanes revised)
  | eucKr => plain Step.eucKorean
  | gb18030 => plain Step.gb18030
  | gb2312 => plain Step.gb2312
  | gbk => plain Step.gbk
  | hz => readSteps Step.switched false bytes
  | johab => plain Step.johab
  | shiftJis => plain Step.shiftJis
  | shiftJisx0213 revised => plain (Step.shiftedPlanes revised)
  | iso2022 repertoire => readSteps (Designation.step repertoire) {} bytes

end Multibyte

end LocaleGen.Charset
