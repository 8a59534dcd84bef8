import SocksTunnel.Coding.Scheme.Designated

/-
  SocksTunnel.Coding.EastAsian — the codings of China, Japan and Korea, with their names.

  Proved: each coding has names (`names_complete`).
-/

namespace SocksTunnel

open Chart.JapaneseExtension (Edition)

inductive EastAsian where
  | gb2312
  | gbk
  | gb18030
  | hz
  | big5
  | big5Windows
  | big5HongKong
  | eucKr
  | unifiedHangul
  | johab
  | iso2022Kr
  | eucJp
  | eucExtended (e : Edition)
  | shiftJis
  | shiftJisWindows
  | shiftExtended (e : Edition)
  | iso2022Jp
  | iso2022Jp1
  | iso2022Jp2
  | iso2022Extended (e : Edition)
  | iso2022Katakana
  deriving DecidableEq, Repr

namespace EastAsian

/-- The codings with their names: the name of its own first, then its aliases. -/
def names : List (String × EastAsian) := [
  ("gb2312 chinese csiso58gb231280 euc_cn euccn eucgb2312_cn gb2312_1980 gb2312_80 iso_ir_58 x_mac_simp_chinese", gb2312),
  ("gbk 936 cp936 ms936", gbk),
  ("gb18030 gb18030_2000", gb18030),
  ("hz hz_gb hz_gb_2312 hzgb", hz),
  ("big5 big5_tw csbig5 x_mac_trad_chinese", big5),
  ("cp950 950 ms950", big5Windows),
  ("big5hkscs big5_hkscs hkscs", big5HongKong),
  ("euc_kr euckr korean ks_c_5601 ks_c_5601_1987 ks_x_1001 ksc5601 ksx1001 x_mac_korean", eucKr),
  ("cp949 949 ms949 uhc", unifiedHangul),
  ("johab cp1361 ms1361", johab),
  ("iso2022_kr csiso2022kr iso2022kr iso_2022_kr", iso2022Kr),
  ("euc_jp eucjp u_jis ujis", eucJp),
  ("euc_jisx0213 eucjisx0213", eucExtended .earlier),
  ("euc_jis_2004 euc_jis2004 eucjis2004 jisx0213", eucExtended .later),
  ("shift_jis csshiftjis s_jis shiftjis sjis x_mac_japanese", shiftJis),
  ("cp932 932 ms932 ms_kanji mskanji", shiftJisWindows),
  ("shift_jisx0213 s_jisx0213 shiftjisx0213 sjisx0213", shiftExtended .earlier),
  ("shift_jis_2004 s_jis_2004 shiftjis2004 sjis_2004", shiftExtended .later),
  ("iso2022_jp csiso2022jp iso2022jp iso_2022_jp", iso2022Jp),
  ("iso2022_jp_1 iso2022jp_1 iso_2022_jp_1", iso2022Jp1),
  ("iso2022_jp_2 iso2022jp_2 iso_2022_jp_2", iso2022Jp2),
  ("iso2022_jp_3 iso2022jp_3 iso_2022_jp_3", iso2022Extended .earlier),
  ("iso2022_jp_2004 iso2022jp_2004 iso_2022_jp_2004", iso2022Extended .later),
  ("iso2022_jp_ext iso2022jp_ext iso_2022_jp_ext", iso2022Katakana)]

/-- A scheme of any states, for reading and writing alone. -/
structure Ways where
  read : Text → Bytes → Except CodingError (List Code)
  write : Text → List Sign → Except CodingError Bytes

def Ways.of {σ : Type} (k : Scheme σ) : Ways := ⟨k.read, k.write⟩

def extendedName (front : String) (earlier later : String) : Edition → String
  | .earlier => front ++ earlier
  | .later => front ++ later

open Scheme in
def ways : EastAsian → Ways
  | gb2312 => .of Chinese.gb2312
  | gbk => .of Chinese.gbk
  | gb18030 => .of Chinese.gb18030
  | hz => .of Chinese.hz
  | big5 => .of Chinese.big5
  | big5Windows => .of Chinese.windows
  | big5HongKong => .of Chinese.hongKong
  | eucKr => .of Korean.euc
  | unifiedHangul => .of Korean.unified
  | johab => .of Korean.johab
  | iso2022Kr => .of (Designated.scheme Designated.kr)
  | eucJp => .of Japanese.euc
  | eucExtended e => .of (Japanese.eucExtended (extendedName "euc_jis" "x0213" "_2004" e) e)
  | shiftJis => .of Japanese.shift
  | shiftJisWindows => .of Japanese.windows
  | shiftExtended e => .of (Japanese.shiftExtended (extendedName "shift_jis" "x0213" "_2004" e) e)
  | iso2022Jp => .of (Designated.scheme Designated.jp)
  | iso2022Jp1 => .of (Designated.scheme Designated.jp1)
  | iso2022Jp2 => .of (Designated.scheme Designated.jp2)
  | iso2022Extended e =>
    .of (Designated.scheme (Designated.jpExtended (extendedName "iso2022_jp_" "3" "2004" e) e))
  | iso2022Katakana => .of (Designated.scheme Designated.jpExt)

def read (c : EastAsian) : Text → Bytes → Except CodingError (List Code) := c.ways.read

def write (c : EastAsian) : Text → List Sign → Except CodingError Bytes := c.ways.write

theorem names_complete (c : EastAsian) : c ∈ names.map Prod.snd := by
  cases c with
  | eucExtended e => cases e <;> simp [names]
  | shiftExtended e => cases e <;> simp [names]
  | iso2022Extended e => cases e <;> simp [names]
  | _ => simp [names]

end EastAsian

end SocksTunnel
