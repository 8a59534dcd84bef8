/-
  SocksTunnel.Coding.CharacterName.Modern — the names of syllables and letters of minor
  scripts, run by run. A run has an entry for each of its characters in a row: how many
  first and last words of the name before it stay, then its own words between these; an
  empty entry has no name.
-/

namespace SocksTunnel.CharacterName.Modern

def runa000 : String :=
  "00YI SYLLABLE IT,20IX,20I,20IP,20IET,20IEX,20IE,20IEP,20AT,20AX,20A,20AP,20UOX,20UO,20UOP,20OT,20OX,20O,20OP," ++
  "20EX,20E,20WU,20BIT,20BIX,20BI,20BIP,20BIET,20BIEX,20BIE,20BIEP,20BAT,20BAX,20BA,20BAP,20BUOX,20BUO,20BUOP," ++
  "20BOT,20BOX,20BO,20BOP,20BEX,20BE,20BEP,20BUT,20BUX,20BU,20BUP,20BURX,20BUR,20BYT,20BYX,20BY,20BYP,20BYRX,20BYR," ++
  "20PIT,20PIX,20PI,20PIP,20PIEX,20PIE,20PIEP,20PAT,20PAX,20PA,20PAP,20PUOX,20PUO,20PUOP,20POT,20POX,20PO,20POP," ++
  "20PUT,20PUX,20PU,20PUP,20PURX,20PUR,20PYT,20PYX,20PY,20PYP,20PYRX,20PYR,20BBIT,20BBIX,20BBI,20BBIP,20BBIET," ++
  "20BBIEX,20BBIE,20BBIEP,20BBAT,20BBAX,20BBA,20BBAP,20BBUOX,20BBUO,20BBUOP,20BBOT,20BBOX,20BBO,20BBOP,20BBEX," ++
  "20BBE,20BBEP,20BBUT,20BBUX,20BBU,20BBUP,20BBURX,20BBUR,20BBYT,20BBYX,20BBY,20BBYP,20NBIT,20NBIX,20NBI,20NBIP," ++
  "20NBIEX,20NBIE,20NBIEP,20NBAT,20NBAX,20NBA"

def runa080 : String :=
  "00YI SYLLABLE NBAP,20NBOT,20NBOX,20NBO,20NBOP,20NBUT,20NBUX,20NBU,20NBUP,20NBURX,20NBUR,20NBYT,20NBYX,20NBY," ++
  "20NBYP,20NBYRX,20NBYR,20HMIT,20HMIX,20HMI,20HMIP,20HMIEX,20HMIE,20HMIEP,20HMAT,20HMAX,20HMA,20HMAP,20HMUOX," ++
  "20HMUO,20HMUOP,20HMOT,20HMOX,20HMO,20HMOP,20HMUT,20HMUX,20HMU,20HMUP,20HMURX,20HMUR,20HMYX,20HMY,20HMYP,20HMYRX," ++
  "20HMYR,20MIT,20MIX,20MI,20MIP,20MIEX,20MIE,20MIEP,20MAT,20MAX,20MA,20MAP,20MUOT,20MUOX,20MUO,20MUOP,20MOT,20MOX," ++
  "20MO,20MOP,20MEX,20ME,20MUT,20MUX,20MU,20MUP,20MURX,20MUR,20MYT,20MYX,20MY,20MYP,20FIT,20FIX,20FI,20FIP,20FAT," ++
  "20FAX,20FA,20FAP,20FOX,20FO,20FOP,20FUT,20FUX,20FU,20FUP,20FURX,20FUR,20FYT,20FYX,20FY,20FYP,20VIT,20VIX,20VI," ++
  "20VIP,20VIET,20VIEX,20VIE,20VIEP,20VAT,20VAX,20VA,20VAP,20VOT,20VOX,20VO,20VOP,20VEX,20VEP,20VUT,20VUX,20VU," ++
  "20VUP,20VURX,20VUR,20VYT,20VYX,20VY,20VYP,20VYRX,20VYR"

def runa100 : String :=
  "00YI SYLLABLE DIT,20DIX,20DI,20DIP,20DIEX,20DIE,20DIEP,20DAT,20DAX,20DA,20DAP,20DUOX,20DUO,20DOT,20DOX,20DO," ++
  "20DOP,20DEX,20DE,20DEP,20DUT,20DUX,20DU,20DUP,20DURX,20DUR,20TIT,20TIX,20TI,20TIP,20TIEX,20TIE,20TIEP,20TAT," ++
  "20TAX,20TA,20TAP,20TUOT,20TUOX,20TUO,20TUOP,20TOT,20TOX,20TO,20TOP,20TEX,20TE,20TEP,20TUT,20TUX,20TU,20TUP," ++
  "20TURX,20TUR,20DDIT,20DDIX,20DDI,20DDIP,20DDIEX,20DDIE,20DDIEP,20DDAT,20DDAX,20DDA,20DDAP,20DDUOX,20DDUO," ++
  "20DDUOP,20DDOT,20DDOX,20DDO,20DDOP,20DDEX,20DDE,20DDEP,20DDUT,20DDUX,20DDU,20DDUP,20DDURX,20DDUR,20NDIT,20NDIX," ++
  "20NDI,20NDIP,20NDIEX,20NDIE,20NDAT,20NDAX,20NDA,20NDAP,20NDOT,20NDOX,20NDO,20NDOP,20NDEX,20NDE,20NDEP,20NDUT," ++
  "20NDUX,20NDU,20NDUP,20NDURX,20NDUR,20HNIT,20HNIX,20HNI,20HNIP,20HNIET,20HNIEX,20HNIE,20HNIEP,20HNAT,20HNAX," ++
  "20HNA,20HNAP,20HNUOX,20HNUO,20HNOT,20HNOX,20HNOP,20HNEX,20HNE,20HNEP,20HNUT,20NIT,20NIX,20NI"

def runa180 : String :=
  "00YI SYLLABLE NIP,20NIEX,20NIE,20NIEP,20NAX,20NA,20NAP,20NUOX,20NUO,20NUOP,20NOT,20NOX,20NO,20NOP,20NEX,20NE," ++
  "20NEP,20NUT,20NUX,20NU,20NUP,20NURX,20NUR,20HLIT,20HLIX,20HLI,20HLIP,20HLIEX,20HLIE,20HLIEP,20HLAT,20HLAX,20HLA," ++
  "20HLAP,20HLUOX,20HLUO,20HLUOP,20HLOX,20HLO,20HLOP,20HLEX,20HLE,20HLEP,20HLUT,20HLUX,20HLU,20HLUP,20HLURX,20HLUR," ++
  "20HLYT,20HLYX,20HLY,20HLYP,20HLYRX,20HLYR,20LIT,20LIX,20LI,20LIP,20LIET,20LIEX,20LIE,20LIEP,20LAT,20LAX,20LA," ++
  "20LAP,20LUOT,20LUOX,20LUO,20LUOP,20LOT,20LOX,20LO,20LOP,20LEX,20LE,20LEP,20LUT,20LUX,20LU,20LUP,20LURX,20LUR," ++
  "20LYT,20LYX,20LY,20LYP,20LYRX,20LYR,20GIT,20GIX,20GI,20GIP,20GIET,20GIEX,20GIE,20GIEP,20GAT,20GAX,20GA,20GAP," ++
  "20GUOT,20GUOX,20GUO,20GUOP,20GOT,20GOX,20GO,20GOP,20GET,20GEX,20GE,20GEP,20GUT,20GUX,20GU,20GUP,20GURX,20GUR," ++
  "20KIT,20KIX,20KI,20KIP,20KIEX,20KIE,20KIEP,20KAT"

def runa200 : String :=
  "00YI SYLLABLE KAX,20KA,20KAP,20KUOX,20KUO,20KUOP,20KOT,20KOX,20KO,20KOP,20KET,20KEX,20KE,20KEP,20KUT,20KUX,20KU," ++
  "20KUP,20KURX,20KUR,20GGIT,20GGIX,20GGI,20GGIEX,20GGIE,20GGIEP,20GGAT,20GGAX,20GGA,20GGAP,20GGUOT,20GGUOX,20GGUO," ++
  "20GGUOP,20GGOT,20GGOX,20GGO,20GGOP,20GGET,20GGEX,20GGE,20GGEP,20GGUT,20GGUX,20GGU,20GGUP,20GGURX,20GGUR,20MGIEX," ++
  "20MGIE,20MGAT,20MGAX,20MGA,20MGAP,20MGUOX,20MGUO,20MGUOP,20MGOT,20MGOX,20MGO,20MGOP,20MGEX,20MGE,20MGEP,20MGUT," ++
  "20MGUX,20MGU,20MGUP,20MGURX,20MGUR,20HXIT,20HXIX,20HXI,20HXIP,20HXIET,20HXIEX,20HXIE,20HXIEP,20HXAT,20HXAX," ++
  "20HXA,20HXAP,20HXUOT,20HXUOX,20HXUO,20HXUOP,20HXOT,20HXOX,20HXO,20HXOP,20HXEX,20HXE,20HXEP,20NGIEX,20NGIE," ++
  "20NGIEP,20NGAT,20NGAX,20NGA,20NGAP,20NGUOT,20NGUOX,20NGUO,20NGOT,20NGOX,20NGO,20NGOP,20NGEX,20NGE,20NGEP,20HIT," ++
  "20HIEX,20HIE,20HAT,20HAX,20HA,20HAP,20HUOT,20HUOX,20HUO,20HUOP,20HOT,20HOX,20HO,20HOP,20HEX,20HE,20HEP"

def runa280 : String :=
  "00YI SYLLABLE WAT,20WAX,20WA,20WAP,20WUOX,20WUO,20WUOP,20WOX,20WO,20WOP,20WEX,20WE,20WEP,20ZIT,20ZIX,20ZI,20ZIP," ++
  "20ZIEX,20ZIE,20ZIEP,20ZAT,20ZAX,20ZA,20ZAP,20ZUOX,20ZUO,20ZUOP,20ZOT,20ZOX,20ZO,20ZOP,20ZEX,20ZE,20ZEP,20ZUT," ++
  "20ZUX,20ZU,20ZUP,20ZURX,20ZUR,20ZYT,20ZYX,20ZY,20ZYP,20ZYRX,20ZYR,20CIT,20CIX,20CI,20CIP,20CIET,20CIEX,20CIE," ++
  "20CIEP,20CAT,20CAX,20CA,20CAP,20CUOX,20CUO,20CUOP,20COT,20COX,20CO,20COP,20CEX,20CE,20CEP,20CUT,20CUX,20CU," ++
  "20CUP,20CURX,20CUR,20CYT,20CYX,20CY,20CYP,20CYRX,20CYR,20ZZIT,20ZZIX,20ZZI,20ZZIP,20ZZIET,20ZZIEX,20ZZIE," ++
  "20ZZIEP,20ZZAT,20ZZAX,20ZZA,20ZZAP,20ZZOX,20ZZO,20ZZOP,20ZZEX,20ZZE,20ZZEP,20ZZUX,20ZZU,20ZZUP,20ZZURX,20ZZUR," ++
  "20ZZYT,20ZZYX,20ZZY,20ZZYP,20ZZYRX,20ZZYR,20NZIT,20NZIX,20NZI,20NZIP,20NZIEX,20NZIE,20NZIEP,20NZAT,20NZAX,20NZA," ++
  "20NZAP,20NZUOX,20NZUO,20NZOX,20NZOP,20NZEX,20NZE,20NZUX,20NZU"

def runa300 : String :=
  "00YI SYLLABLE NZUP,20NZURX,20NZUR,20NZYT,20NZYX,20NZY,20NZYP,20NZYRX,20NZYR,20SIT,20SIX,20SI,20SIP,20SIEX,20SIE," ++
  "20SIEP,20SAT,20SAX,20SA,20SAP,20SUOX,20SUO,20SUOP,20SOT,20SOX,20SO,20SOP,20SEX,20SE,20SEP,20SUT,20SUX,20SU," ++
  "20SUP,20SURX,20SUR,20SYT,20SYX,20SY,20SYP,20SYRX,20SYR,20SSIT,20SSIX,20SSI,20SSIP,20SSIEX,20SSIE,20SSIEP,20SSAT," ++
  "20SSAX,20SSA,20SSAP,20SSOT,20SSOX,20SSO,20SSOP,20SSEX,20SSE,20SSEP,20SSUT,20SSUX,20SSU,20SSUP,20SSYT,20SSYX," ++
  "20SSY,20SSYP,20SSYRX,20SSYR,20ZHAT,20ZHAX,20ZHA,20ZHAP,20ZHUOX,20ZHUO,20ZHUOP,20ZHOT,20ZHOX,20ZHO,20ZHOP,20ZHET," ++
  "20ZHEX,20ZHE,20ZHEP,20ZHUT,20ZHUX,20ZHU,20ZHUP,20ZHURX,20ZHUR,20ZHYT,20ZHYX,20ZHY,20ZHYP,20ZHYRX,20ZHYR,20CHAT," ++
  "20CHAX,20CHA,20CHAP,20CHUOT,20CHUOX,20CHUO,20CHUOP,20CHOT,20CHOX,20CHO,20CHOP,20CHET,20CHEX,20CHE,20CHEP,20CHUX," ++
  "20CHU,20CHUP,20CHURX,20CHUR,20CHYT,20CHYX,20CHY,20CHYP,20CHYRX,20CHYR,20RRAX,20RRA,20RRUOX,20RRUO"

def runa380 : String :=
  "00YI SYLLABLE RROT,20RROX,20RRO,20RROP,20RRET,20RREX,20RRE,20RREP,20RRUT,20RRUX,20RRU,20RRUP,20RRURX,20RRUR," ++
  "20RRYT,20RRYX,20RRY,20RRYP,20RRYRX,20RRYR,20NRAT,20NRAX,20NRA,20NRAP,20NROX,20NRO,20NROP,20NRET,20NREX,20NRE," ++
  "20NREP,20NRUT,20NRUX,20NRU,20NRUP,20NRURX,20NRUR,20NRYT,20NRYX,20NRY,20NRYP,20NRYRX,20NRYR,20SHAT,20SHAX,20SHA," ++
  "20SHAP,20SHUOX,20SHUO,20SHUOP,20SHOT,20SHOX,20SHO,20SHOP,20SHET,20SHEX,20SHE,20SHEP,20SHUT,20SHUX,20SHU,20SHUP," ++
  "20SHURX,20SHUR,20SHYT,20SHYX,20SHY,20SHYP,20SHYRX,20SHYR,20RAT,20RAX,20RA,20RAP,20RUOX,20RUO,20RUOP,20ROT,20ROX," ++
  "20RO,20ROP,20REX,20RE,20REP,20RUT,20RUX,20RU,20RUP,20RURX,20RUR,20RYT,20RYX,20RY,20RYP,20RYRX,20RYR,20JIT,20JIX," ++
  "20JI,20JIP,20JIET,20JIEX,20JIE,20JIEP,20JUOT,20JUOX,20JUO,20JUOP,20JOT,20JOX,20JO,20JOP,20JUT,20JUX,20JU,20JUP," ++
  "20JURX,20JUR,20JYT,20JYX,20JY,20JYP,20JYRX,20JYR,20QIT,20QIX,20QI,20QIP"

def runa400 : String :=
  "00YI SYLLABLE QIET,20QIEX,20QIE,20QIEP,20QUOT,20QUOX,20QUO,20QUOP,20QOT,20QOX,20QO,20QOP,20QUT,20QUX,20QU,20QUP," ++
  "20QURX,20QUR,20QYT,20QYX,20QY,20QYP,20QYRX,20QYR,20JJIT,20JJIX,20JJI,20JJIP,20JJIET,20JJIEX,20JJIE,20JJIEP," ++
  "20JJUOX,20JJUO,20JJUOP,20JJOT,20JJOX,20JJO,20JJOP,20JJUT,20JJUX,20JJU,20JJUP,20JJURX,20JJUR,20JJYT,20JJYX,20JJY," ++
  "20JJYP,20NJIT,20NJIX,20NJI,20NJIP,20NJIET,20NJIEX,20NJIE,20NJIEP,20NJUOX,20NJUO,20NJOT,20NJOX,20NJO,20NJOP," ++
  "20NJUX,20NJU,20NJUP,20NJURX,20NJUR,20NJYT,20NJYX,20NJY,20NJYP,20NJYRX,20NJYR,20NYIT,20NYIX,20NYI,20NYIP,20NYIET," ++
  "20NYIEX,20NYIE,20NYIEP,20NYUOX,20NYUO,20NYUOP,20NYOT,20NYOX,20NYO,20NYOP,20NYUT,20NYUX,20NYU,20NYUP,20XIT,20XIX," ++
  "20XI,20XIP,20XIET,20XIEX,20XIE,20XIEP,20XUOX,20XUO,20XOT,20XOX,20XO,20XOP,20XYT,20XYX,20XY,20XYP,20XYRX,20XYR," ++
  "20YIT,20YIX,20YI,20YIP,20YIET,20YIEX,20YIE,20YIEP,20YUOT,20YUOX,20YUO,20YUOP,20YOT,20YOX,20YO"

def runa480 : String :=
  "00YI SYLLABLE YOP,20YUT,20YUX,20YU,20YUP,20YURX,20YUR,20YYT,20YYX,20YY,20YYP,20YYRX,20YYR,,,,10RADICAL QOT,20LI," ++
  "20KIT,20NYIP,20CYP,20SSI,20GGOP,20GEP,20MI,20HXIT,20LYR,20BBUT,20MOP,20YO,20PUT,20HXUO,20TAT,20GA,20ZUP,20CYT," ++
  "20DDUR,20BUR,20GGUO,20NYOP,20TU,20OP,20JJUT,20ZOT,20PYT,20HMO,20YIT,20VUR,20SHY,20VEP,20ZA,20JO,20NZUP,20JJY," ++
  "20GOT,20JJIE,20WO,20DU,20SHUR,20LIE,20CY,20CUOP,20CIP,20HXOP,20SHAT,20ZUR,20SHOP,20CHE,20ZZIET,20NBIE,20KE,,,,,," ++
  ",,,,00LISU LETTER BA,20PA,20PHA,20DA,20TA,20THA,20GA,20KA,20KHA,20JA,20CA,20CHA,20DZA,20TSA,20TSHA,20MA,20NA," ++
  "20LA,20SA,20ZHA,20ZA,20NGA,20HA,20XA,20HHA,20FA,20WA,20SHA,20YA,20GHA,20A,20AE,20E,20EU,20I,20O,20U,20UE,20UH," ++
  "20OE,20TONE MYA TI,30NA PO,30MYA CYA,40BO,40NA,40JEU,10PUNCTUATION COMMA,20FULL STOP"

def runa500 : String :=
  "00VAI SYLLABLE EE,20EEN,20HEE,20WEE,20WEEN,20PEE,20BHEE,20BEE,20MBEE,20KPEE,20MGBEE,20GBEE,20FEE,20VEE,20TEE," ++
  "20THEE,20DHEE,20DHHEE,20LEE,20REE,20DEE,20NDEE,20SEE,20SHEE,20ZEE,20ZHEE,20CEE,20JEE,20NJEE,20YEE,20KEE,20NGGEE," ++
  "20GEE,20MEE,20NEE,20NYEE,20I,20IN,20HI,20HIN,20WI,20WIN,20PI,20BHI,20BI,20MBI,20KPI,20MGBI,20GBI,20FI,20VI,20TI," ++
  "20THI,20DHI,20DHHI,20LI,20RI,20DI,20NDI,20SI,20SHI,20ZI,20ZHI,20CI,20JI,20NJI,20YI,20KI,20NGGI,20GI,20MI,20NI," ++
  "20NYI,20A,20AN,20NGAN,20HA,20HAN,20WA,20WAN,20PA,20BHA,20BA,20MBA,20KPA,20KPAN,20MGBA,20GBA,20FA,20VA,20TA," ++
  "20THA,20DHA,20DHHA,20LA,20RA,20DA,20NDA,20SA,20SHA,20ZA,20ZHA,20CA,20JA,20NJA,20YA,20KA,20KAN,20NGGA,20GA,20MA," ++
  "20NA,20NYA,20OO,20OON,20HOO,20WOO,20WOON,20POO,20BHOO,20BOO,20MBOO,20KPOO,20MGBOO,20GBOO,20FOO,20VOO,20TOO"

def runa580 : String :=
  "00VAI SYLLABLE THOO,20DHOO,20DHHOO,20LOO,20ROO,20DOO,20NDOO,20SOO,20SHOO,20ZOO,20ZHOO,20COO,20JOO,20NJOO,20YOO," ++
  "20KOO,20NGGOO,20GOO,20MOO,20NOO,20NYOO,20U,20UN,20HU,20HUN,20WU,20WUN,20PU,20BHU,20BU,20MBU,20KPU,20MGBU,20GBU," ++
  "20FU,20VU,20TU,20THU,20DHU,20DHHU,20LU,20RU,20DU,20NDU,20SU,20SHU,20ZU,20ZHU,20CU,20JU,20NJU,20YU,20KU,20NGGU," ++
  "20GU,20MU,20NU,20NYU,20O,20ON,20NGON,20HO,20HON,20WO,20WON,20PO,20BHO,20BO,20MBO,20KPO,20MGBO,20GBO,20GBON,20FO," ++
  "20VO,20TO,20THO,20DHO,20DHHO,20LO,20RO,20DO,20NDO,20SO,20SHO,20ZO,20ZHO,20CO,20JO,20NJO,20YO,20KO,20NGGO,20GO," ++
  "20MO,20NO,20NYO,20E,20EN,20NGEN,20HE,20HEN,20WE,20WEN,20PE,20BHE,20BE,20MBE,20KPE,20KPEN,20MGBE,20GBE,20GBEN," ++
  "20FE,20VE,20TE,20THE,20DHE,20DHHE,20LE,20RE,20DE,20NDE,20SE,20SHE,20ZE,20ZHE,20CE"

def runa600 : String :=
  "00VAI SYLLABLE JE,20NJE,20YE,20KE,20NGGE,20NGGEN,20GE,20GEN,20ME,20NE,20NYE,20NG,20LENGTHENER,10COMMA," ++
  "10FULL STOP,10QUESTION MARK,10SYLLABLE NDOLE FA,30KA,30SOO,10SYMBOL FEENG,20KEENG,20TING,20NII,20BANG,20FAA," ++
  "20TAA,20DANG,20DOONG,20KUNG,20TONG,20DO-O,20JONG,10DIGIT ZERO,20ONE,20TWO,20THREE,20FOUR,20FIVE,20SIX,20SEVEN," ++
  "20EIGHT,20NINE,10SYLLABLE NDOLE MA,30DO"

def runa640 : String :=
  "00CYRILLIC CAPITAL LETTER ZEMLYA,12SMALL,10CAPITAL LETTER DZELO,12SMALL,10CAPITAL LETTER REVERSED DZE,13SMALL," ++
  "10CAPITAL LETTER IOTA,12SMALL,10CAPITAL LETTER DJERV,12SMALL,10CAPITAL LETTER MONOGRAPH UK,13SMALL," ++
  "10CAPITAL LETTER BROAD OMEGA,13SMALL,10CAPITAL LETTER NEUTRAL YER,13SMALL,11CAPITAL LETTER YERU WITH BACK," ++
  "15SMALL,10CAPITAL LETTER IOTIFIED YAT,13SMALL,10CAPITAL LETTER REVERSED YU,13SMALL,10CAPITAL LETTER IOTIFIED A," ++
  "13SMALL,10CAPITAL LETTER CLOSED LITTLE YUS,14SMALL,11CAPITAL LETTER BLENDED,13SMALL," ++
  "11CAPITAL LETTER IOTIFIED CLOSED LITTLE,15SMALL,10CAPITAL LETTER YN,12SMALL,10CAPITAL LETTER REVERSED TSE," ++
  "13SMALL,10CAPITAL LETTER SOFT DE,13SMALL,10CAPITAL LETTER SOFT EL,13SMALL,10CAPITAL LETTER SOFT EM,13SMALL," ++
  "10CAPITAL LETTER MONOCULAR O,13SMALL,11CAPITAL LETTER BINOCULAR,13SMALL,11CAPITAL LETTER DOUBLE MONOCULAR," ++
  "14SMALL,11LETTER MULTIOCULAR,00COMBINING CYRILLIC VZMET,20TEN MILLIONS SIGN,22HUNDRED,22THOUSAND," ++
  "00SLAVONIC ASTERISK,00COMBINING CYRILLIC LETTER UKRAINIAN IE,30I,30YI,30U,30HARD SIGN,30YERU,30SOFT SIGN," ++
  "30OMEGA,20KAVYKA,20PAYEROK,00CYRILLIC KAVYKA,10PAYEROK,10CAPITAL LETTER DWE,12SMALL,10CAPITAL LETTER DZWE," ++
  "12SMALL,10CAPITAL LETTER ZHWE,12SMALL,10CAPITAL LETTER CCHE,12SMALL,10CAPITAL LETTER DZZE,12SMALL," ++
  "10CAPITAL LETTER TE WITH MIDDLE HOOK,15SMALL,10CAPITAL LETTER TWE,12SMALL,10CAPITAL LETTER TSWE,12SMALL," ++
  "10CAPITAL LETTER TSSE,12SMALL,10CAPITAL LETTER TCHE,12SMALL,10CAPITAL LETTER HWE,12SMALL,10CAPITAL LETTER SHWE," ++
  "12SMALL,10CAPITAL LETTER DOUBLE O,13SMALL,11CAPITAL LETTER CROSSED,13SMALL,00MODIFIER LETTER CYRILLIC HARD SIGN," ++
  "31SOFT,00COMBINING CYRILLIC LETTER EF,30IOTIFIED E,00BAMUM LETTER A,20KA,20U,20KU,20EE,20REE,20TAE,20O,20NYI," ++
  "20I,20LA,20PA,20RII,20RIEE,20LEEEE,20MEEEE,20TAA,20NDAA,20NJAEM,20M,20SUU,20MU,20SHII,20SI,20SHEUX,20SEUX," ++
  "20KYEE,20KET,20NUAE,20NU,20NJUAE,20YOQ,20SHU,20YUQ,20YA,20NSHA,20KEUX,20PEUX,20NJEE,20NTEE,20PUE,20WUE,20PEE," ++
  "20FEE,20RU,20LU,20MI,20NI,20REUX,20RAE,20KEN,20NGKWAEN,20NGGA,20NGA,20SHO,20PUAE,20FU,20FOM,20WA,20NA,20LI,20PI," ++
  "20LOQ,20KO,20MBEN,20REN,20MEN,20MA,20TI,20KI,20MO,20MBAA,20TET,20KPA,20TEN,20NTUU,20SAMBA,20FAAMAE,20KOVUU," ++
  "20KOGHOM,10COMBINING MARK KOQNDON,30TUKWENTIS,10NJAEMLI,10FULL STOP,10COLON,10COMMA,10SEMICOLON,10QUESTION MARK"

def runa700 : String :=
  "00MODIFIER LETTER CHINESE TONE YIN PING,41YANG,40YIN SHANG,41YANG,40YIN QU,41YANG,40YIN RU,41YANG," ++
  "20EXTRA-HIGH DOTTED TONE BAR,23HIGH,23MID,23LOW,23EXTRA-LOW,22EXTRA-HIGH DOTTED LEFT-STEM,24HIGH,24MID,24LOW," ++
  "24EXTRA-LOW,23EXTRA-HIGH,23HIGH,23MID,23LOW,23EXTRA-LOW,21DOT VERTICAL,30SLASH,30HORIZONTAL BAR," ++
  "20LOWER RIGHT CORNER ANGLE,20RAISED UP ARROW,31DOWN,30EXCLAMATION MARK,32INVERTED,23LOW,20STRESS AND HIGH TONE," ++
  "41LOW,00LATIN CAPITAL LETTER EGYPTOLOGICAL ALEF,13SMALL,10CAPITAL LETTER EGYPTOLOGICAL AIN,13SMALL," ++
  "10CAPITAL LETTER HENG,12SMALL,10CAPITAL LETTER TZ,12SMALL,10CAPITAL LETTER TRESILLO,12SMALL," ++
  "10CAPITAL LETTER CUATRILLO,12SMALL,10CAPITAL LETTER CUATRILLO WITH COMMA,14SMALL,10LETTER SMALL CAPITAL F,40S," ++
  "10CAPITAL LETTER AA,12SMALL,10CAPITAL LETTER AO,12SMALL,10CAPITAL LETTER AU,12SMALL,10CAPITAL LETTER AV,12SMALL," ++
  "10CAPITAL LETTER AV WITH HORIZONTAL BAR,15SMALL,10CAPITAL LETTER AY,12SMALL," ++
  "10CAPITAL LETTER REVERSED C WITH DOT,15SMALL,10CAPITAL LETTER K WITH STROKE,14SMALL," ++
  "11CAPITAL LETTER K WITH DIAGONAL,15SMALL,12CAPITAL LETTER K WITH STROKE AND,17SMALL,10CAPITAL LETTER BROKEN L," ++
  "13SMALL,10CAPITAL LETTER L WITH HIGH STROKE,15SMALL,10CAPITAL LETTER O WITH LONG STROKE OVERLAY,16SMALL," ++
  "10CAPITAL LETTER O WITH LOOP,14SMALL,10CAPITAL LETTER OO,12SMALL," ++
  "10CAPITAL LETTER P WITH STROKE THROUGH DESCENDER,16SMALL,10CAPITAL LETTER P WITH FLOURISH,14SMALL," ++
  "10CAPITAL LETTER P WITH SQUIRREL TAIL,15SMALL,10CAPITAL LETTER Q WITH STROKE THROUGH DESCENDER,16SMALL," ++
  "10CAPITAL LETTER Q WITH DIAGONAL STROKE,15SMALL,10CAPITAL LETTER R ROTUNDA,13SMALL,11CAPITAL LETTER RUM,13SMALL," ++
  "10CAPITAL LETTER V WITH DIAGONAL STROKE,15SMALL,10CAPITAL LETTER VY,12SMALL,10CAPITAL LETTER VISIGOTHIC Z," ++
  "13SMALL,10CAPITAL LETTER THORN WITH STROKE,14SMALL,10CAPITAL LETTER THORN WITH STROKE THROUGH DESCENDER,16SMALL," ++
  "10CAPITAL LETTER VEND,12SMALL,10CAPITAL LETTER ET,12SMALL,10CAPITAL LETTER IS,12SMALL,10CAPITAL LETTER CON," ++
  "12SMALL,00MODIFIER LETTER US,00LATIN SMALL LETTER DUM,30LUM,30MUM,30NUM,30RUM,11LETTER SMALL CAPITAL," ++
  "10SMALL LETTER TUM,30UM,10CAPITAL LETTER INSULAR D,13SMALL,10CAPITAL LETTER INSULAR F,13SMALL," ++
  "10CAPITAL LETTER INSULAR G,32TURNED,14SMALL"

def runa780 : String :=
  "00LATIN CAPITAL LETTER TURNED L,13SMALL,10CAPITAL LETTER INSULAR R,13SMALL,10CAPITAL LETTER INSULAR S,13SMALL," ++
  "10CAPITAL LETTER INSULAR T,13SMALL,00MODIFIER LETTER LOW CIRCUMFLEX ACCENT,20COLON,20SHORT EQUALS SIGN," ++
  "00LATIN CAPITAL LETTER SALTILLO,12SMALL,10CAPITAL LETTER TURNED H,10SMALL LETTER L WITH RETROFLEX HOOK AND BELT," ++
  "10LETTER SINOLOGICAL DOT,10CAPITAL LETTER N WITH DESCENDER,14SMALL,10CAPITAL LETTER C WITH BAR,14SMALL," ++
  "50PALATAL HOOK,33H,10CAPITAL LETTER B WITH FLOURISH,14SMALL,10CAPITAL LETTER F WITH STROKE,14SMALL," ++
  "10CAPITAL LETTER VOLAPUK AE,13SMALL,10CAPITAL LETTER VOLAPUK OE,13SMALL,10CAPITAL LETTER VOLAPUK UE,13SMALL," ++
  "10CAPITAL LETTER G WITH OBLIQUE STROKE,15SMALL,13CAPITAL LETTER K,15SMALL,13CAPITAL LETTER N,15SMALL," ++
  "13CAPITAL LETTER R,15SMALL,13CAPITAL LETTER S,15SMALL,10CAPITAL LETTER H WITH HOOK,30REVERSED OPEN E,30SCRIPT G," ++
  "30L WITH BELT,30SMALL CAPITAL I,10LETTER SMALL CAPITAL Q,10CAPITAL LETTER TURNED K,40T,30J WITH CROSSED-TAIL," ++
  "30CHI,30BETA,12SMALL,10CAPITAL LETTER OMEGA,12SMALL,10CAPITAL LETTER U WITH STROKE,14SMALL," ++
  "10CAPITAL LETTER GLOTTAL A,13SMALL,10CAPITAL LETTER GLOTTAL I,13SMALL,10CAPITAL LETTER GLOTTAL U,13SMALL," ++
  "10CAPITAL LETTER OLD POLISH O,14SMALL,10CAPITAL LETTER ANGLICANA W,13SMALL,10CAPITAL LETTER C WITH PALATAL HOOK," ++
  "31S WITH,31Z WITH PALATAL,30D WITH SHORT STROKE OVERLAY,16SMALL,14CAPITAL LETTER S,16SMALL,,,,,," ++
  "10CAPITAL LETTER CLOSED INSULAR G,14SMALL,,30DOUBLE THORN,,40WYNN,10CAPITAL LETTER MIDDLE SCOTS S,14SMALL," ++
  "11CAPITAL LETTER SIGMOID,13SMALL"

def runa7f2 : String :=
  "00MODIFIER LETTER CAPITAL C,30F,30Q,00LATIN CAPITAL LETTER REVERSED HALF H,14SMALL," ++
  "10EPIGRAPHIC LETTER SIDEWAYS I,00MODIFIER LETTER CAPITAL H WITH STROKE,20SMALL LIGATURE OE," ++
  "00LATIN LETTER SMALL CAPITAL TURNED M,10EPIGRAPHIC LETTER REVERSED F,40P,30INVERTED M,30I LONGA,30ARCHAIC M," ++
  "00SYLOTI NAGRI LETTER A,30I,20SIGN DVISVARA,20LETTER U,30E,30O,20SIGN HASANTA,20LETTER KO,30KHO,30GO,30GHO," ++
  "20SIGN ANUSVARA,20LETTER CO,30CHO,30JO,30JHO,30TTO,30TTHO,30DDO,30DDHO,30TO,30THO,30DO,30DHO,30NO,30PO,30PHO," ++
  "30BO,30BHO,30MO,30RO,30LO,30RRO,30SO,30HO,20VOWEL SIGN A,40I,40U,40E,40OO,20POETRY MARK-1,30MARK-2,30MARK-3," ++
  "30MARK-4,20SIGN ALTERNATE HASANTA,,,,00NORTH INDIC FRACTION ONE QUARTER,40HALF,30THREE QUARTERS,30ONE SIXTEENTH," ++
  "40EIGHTH,30THREE SIXTEENTHS,20QUARTER MARK,21PLACEHOLDER,21RUPEE,21QUANTITY,,,,,,,00PHAGS-PA LETTER KA,20KHA," ++
  "20GA,20NGA,20CA,20CHA,20JA,20NYA,20TA,20THA,20DA,20NA,20PA,20PHA,20BA,20MA,20TSA,20TSHA,20DZA,20WA,20ZHA,20ZA," ++
  "20SMALL A,20YA,20RA,20LA,20SHA,20SA,20HA,20A,20I,20U,20E,20O,20QA,20XA,20FA,20GGA,20EE,10SUBJOINED LETTER WA," ++
  "30YA,10LETTER TTA,20TTHA,20DDA,20NNA,20ALTERNATE YA,20VOICELESS SHA,20VOICED HA,20ASPIRATED FA," ++
  "10SUBJOINED LETTER RA,12SUPERFIXED,10LETTER CANDRABINDU,10SINGLE HEAD MARK,12DOUBLE,10MARK SHAD,21DOUBLE"

def runa880 : String :=
  "00SAURASHTRA SIGN ANUSVARA,20VISARGA,10LETTER A,20AA,20I,20II,20U,20UU,20VOCALIC R,30RR,30L,30LL,20E,20EE,20AI," ++
  "20O,20OO,20AU,20KA,20KHA,20GA,20GHA,20NGA,20CA,20CHA,20JA,20JHA,20NYA,20TTA,20TTHA,20DDA,20DDHA,20NNA,20TA," ++
  "20THA,20DA,20DHA,20NA,20PA,20PHA,20BA,20BHA,20MA,20YA,20RA,20LA,20VA,20SHA,20SSA,20SA,20HA,20LLA," ++
  "10CONSONANT SIGN HAARU,10VOWEL SIGN AA,30I,30II,30U,30UU,30VOCALIC R,40RR,40L,40LL,30E,30EE,30AI,30O,30OO,30AU," ++
  "10SIGN VIRAMA,20CANDRABINDU,,,,,,,,,10DANDA,11DOUBLE,10DIGIT ZERO,20ONE,20TWO,20THREE,20FOUR,20FIVE,20SIX," ++
  "20SEVEN,20EIGHT,20NINE,,,,,,,00COMBINING DEVANAGARI DIGIT ZERO,30ONE,30TWO,30THREE,30FOUR,30FIVE,30SIX,30SEVEN," ++
  "30EIGHT,30NINE,20LETTER A,30U,30KA,30NA,30PA,30RA,30VI,20SIGN AVAGRAHA,00DEVANAGARI SIGN SPACING CANDRABINDU," ++
  "20CANDRABINDU VIRAMA,22DOUBLE,20CANDRABINDU TWO,30THREE,30AVAGRAHA,20PUSHPIKA,10GAP FILLER,10CARET,10HEADSTROKE," ++
  "10SIGN SIDDHAM,10JAIN OM,10LETTER AY,11VOWEL SIGN"

def runa900 : String :=
  "00KAYAH LI DIGIT ZERO,30ONE,30TWO,30THREE,30FOUR,30FIVE,30SIX,30SEVEN,30EIGHT,30NINE,20LETTER KA,30KHA,30GA," ++
  "30NGA,30SA,30SHA,30ZA,30NYA,30TA,30HTA,30NA,30PA,30PHA,30MA,30DA,30BA,30RA,30YA,30LA,30WA,30THA,30HA,30VA,30CA," ++
  "30A,30OE,30I,30OO,20VOWEL UE,30E,30U,30EE,30O,20TONE PLOPHU,30CALYA,40PLOPHU,20SIGN CWI,30SHYA," ++
  "00REJANG LETTER KA,20GA,20NGA,20TA,20DA,20NA,20PA,20BA,20MA,20CA,20JA,20NYA,20SA,20RA,20LA,20YA,20WA,20HA,20MBA," ++
  "20NGGA,20NDA,20NYJA,20A,10VOWEL SIGN I,30U,30E,30AI,30O,30AU,30EU,30EA,10CONSONANT SIGN NG,30N,30R,30H,10VIRAMA," ++
  ",,,,,,,,,,,10SECTION MARK,00HANGUL CHOSEONG TIKEUT-MIEUM,20TIKEUT-PIEUP,20TIKEUT-SIOS,20TIKEUT-CIEUC," ++
  "20RIEUL-KIYEOK,20RIEUL-SSANGKIYEOK,20RIEUL-TIKEUT,20RIEUL-SSANGTIKEUT,20RIEUL-MIEUM,20RIEUL-PIEUP," ++
  "20RIEUL-SSANGPIEUP,20RIEUL-KAPYEOUNPIEUP,20RIEUL-SIOS,20RIEUL-CIEUC,20RIEUL-KHIEUKH,20MIEUM-KIYEOK," ++
  "20MIEUM-TIKEUT,20MIEUM-SIOS,20PIEUP-SIOS-THIEUTH,20PIEUP-KHIEUKH,20PIEUP-HIEUH,20SSANGSIOS-PIEUP,20IEUNG-RIEUL," ++
  "20IEUNG-HIEUH,20SSANGCIEUC-HIEUH,20SSANGTHIEUTH,20PHIEUPH-HIEUH,20HIEUH-SIOS,20SSANGYEORINHIEUH"

def runa980 : String :=
  "00JAVANESE SIGN PANYANGGA,20CECAK,20LAYAR,20WIGNYAN,10LETTER A,20I KAWI,20I,20II,20U,20PA CEREK,20NGA LELET," ++
  "40RASWADI,20E,20AI,20O,20KA,30SASAK,30MURDA,20GA,30MURDA,20NGA,20CA,30MURDA,20JA,20NYA MURDA,20JA MAHAPRANA," ++
  "20NYA,20TTA,30MAHAPRANA,20DDA,30MAHAPRANA,20NA MURDA,20TA,30MURDA,20DA,30MAHAPRANA,20NA,20PA,30MURDA,20BA," ++
  "30MURDA,20MA,20YA,20RA,30AGUNG,20LA,20WA,20SA MURDA,30MAHAPRANA,20SA,20HA,10SIGN CECAK TELU,10VOWEL SIGN TARUNG," ++
  "30TOLONG,30WULU,40MELIK,30SUKU,40MENDUT,30TALING,30DIRGA MURE,30PEPET,10CONSONANT SIGN KERET,30PENGKAL,30CAKRA," ++
  "10PANGKON,10LEFT RERENGGAN,11RIGHT,10PADA ANDAP,20MADYA,20LUHUR,20WINDU,20PANGKAT,20LINGSA,20LUNGSI,20ADEG," ++
  "30ADEG,20PISELEH,12TURNED,,10PANGRANGKEP,10DIGIT ZERO,20ONE,20TWO,20THREE,20FOUR,20FIVE,20SIX,20SEVEN,20EIGHT," ++
  "20NINE,,,,,10PADA TIRTA TUMETES,20ISEN-ISEN,00MYANMAR LETTER SHAN GHA,30CHA,30JHA,30NNA,30BHA,10SIGN SHAN SAW," ++
  "10MODIFIER LETTER SHAN REDUPLICATION,10LETTER TAI LAING NYA,40FA,40GA,40GHA,40JA,40JHA,40DDA,40DDHA,40NNA," ++
  "10TAI LAING DIGIT ZERO,40ONE,40TWO,40THREE,40FOUR,40FIVE,40SIX,40SEVEN,40EIGHT,40NINE,10LETTER TAI LAING LLA," ++
  "40DA,40DHA,40BA,40BHA"

def runaa00 : String :=
  "00CHAM LETTER A,20I,20U,20E,20AI,20O,20KA,20KHA,20GA,20GHA,20NGUE,20NGA,20CHA,20CHHA,20JA,20JHA,20NHUE,20NHA," ++
  "20NHJA,20TA,20THA,20DA,20DHA,20NUE,20NA,20DDA,20PA,20PPA,20PHA,20BA,20BHA,20MUE,20MA,20BBA,20YA,20RA,20LA,20VA," ++
  "20SSA,20SA,20HA,10VOWEL SIGN AA,30I,30II,30EI,30U,30OE,30O,30AI,30AU,30UE,10CONSONANT SIGN YA,30RA,30LA,30WA,,,," ++
  ",,,,,,10LETTER FINAL K,30G,30NG,12CONSONANT SIGN,10LETTER FINAL CH,30T,30N,30P,30Y,30R,30L,30SS," ++
  "10CONSONANT SIGN FINAL M,40H,,,10DIGIT ZERO,20ONE,20TWO,20THREE,20FOUR,20FIVE,20SIX,20SEVEN,20EIGHT,20NINE,,," ++
  "10PUNCTUATION SPIRAL,20DANDA,21DOUBLE,21TRIPLE,00MYANMAR LETTER KHAMTI GA,30CA,30CHA,30JA,30JHA,30NYA,30TTA," ++
  "30TTHA,30DDA,30DDHA,30DHA,30NA,30SA,30HA,30HHA,30FA,10MODIFIER LETTER KHAMTI REDUPLICATION,10LETTER KHAMTI XA," ++
  "30ZA,30RA,10LOGOGRAM KHAMTI OAY,30QN,30HM,10SYMBOL AITON EXCLAMATION,30ONE,30TWO,10LETTER AITON RA," ++
  "10SIGN PAO KAREN TONE,20TAI LAING TONE-2,40TONE-5,10LETTER SHWE PALAUNG CHA,40SHA"

def runaa80 : String :=
  "00TAI VIET LETTER LOW KO,31HIGH,30LOW KHO,31HIGH,30LOW KHHO,31HIGH,30LOW GO,31HIGH,30LOW NGO,31HIGH,30LOW CO," ++
  "31HIGH,30LOW CHO,31HIGH,30LOW SO,31HIGH,30LOW NYO,31HIGH,30LOW DO,31HIGH,30LOW TO,31HIGH,30LOW THO,31HIGH," ++
  "30LOW NO,31HIGH,30LOW BO,31HIGH,30LOW PO,31HIGH,30LOW PHO,31HIGH,30LOW FO,31HIGH,30LOW MO,31HIGH,30LOW YO," ++
  "31HIGH,30LOW RO,31HIGH,30LOW LO,31HIGH,30LOW VO,31HIGH,30LOW HO,31HIGH,30LOW O,31HIGH,20MAI KANG,20VOWEL AA,30I," ++
  "30UE,30U,30E,30O,20MAI KHIT,20VOWEL IA,30UEA,30UA,30AUE,30AY,30AN,30AM,20TONE MAI EK,40NUENG,40THO,40SONG"

def runaadb : String :=
  "00TAI VIET SYMBOL KON,30NUENG,30SAM,30HO HOI,30KOI KOI,00MEETEI MAYEK LETTER E,30O,30CHA,30NYA,30TTA,30TTHA," ++
  "30DDA,30DDHA,30NNA,30SHA,30SSA,20VOWEL SIGN II,40UU,40AAI,40AU,40AAU,20CHEIKHAN,20AHANG KHUDAM,20ANJI," ++
  "20SYLLABLE REPETITION MARK,22WORD,20VOWEL SIGN VISARGA,20VIRAMA,,,,,,,,,,,00ETHIOPIC SYLLABLE TTHU,20TTHI," ++
  "20TTHAA,20TTHEE,20TTHE,20TTHO,,,20DDHU,20DDHI,20DDHAA,20DDHEE,20DDHE,20DDHO,,,20DZU,20DZI,20DZAA,20DZEE,20DZE," ++
  "20DZO,,,,,,,,,,20CCHHA,20CCHHU,20CCHHI,20CCHHAA,20CCHHEE,20CCHHE,20CCHHO,,20BBA,20BBU,20BBI,20BBAA,20BBEE,20BBE," ++
  "20BBO,,00LATIN SMALL LETTER BARRED ALPHA,30A REVERSED-SCHWA,30BLACKLETTER E,31BARRED,30E WITH FLOURISH," ++
  "30LENIS F,30SCRIPT G WITH CROSSED-TAIL,30L WITH INVERTED LAZY S,50DOUBLE MIDDLE TILDE,50MIDDLE RING," ++
  "30M WITH CROSSED-TAIL,32N,32ENG,30BLACKLETTER O,50WITH STROKE,33OPEN,30INVERTED OE,30TURNED OE WITH STROKE," ++
  "61HORIZONTAL,40O OPEN-O,60WITH STROKE,30STIRRUP R,10LETTER SMALL CAPITAL R WITH RIGHT LEG," ++
  "10SMALL LETTER R WITHOUT HANDLE,30DOUBLE R,30R WITH CROSSED-TAIL,33DOUBLE,30SCRIPT R,50WITH RING,30BASELINE ESH," ++
  "30U WITH SHORT RIGHT LEG,44BAR,30UI,31TURNED,30U WITH LEFT HOOK,30CHI,40WITH LOW RIGHT RING,60LEFT SERIF," ++
  "30X WITH LOW RIGHT RING,50LONG LEFT LEG,80AND LOW RIGHT RING,80WITH SERIF,30Y WITH SHORT RIGHT LEG," ++
  "00MODIFIER BREVE WITH INVERTED BREVE,10LETTER SMALL HENG,30L WITH INVERTED LAZY S,50MIDDLE TILDE," ++
  "30U WITH LEFT HOOK,00LATIN SMALL LETTER SAKHA YAT,30IOTIFIED E,30OPEN OE,30UO,30INVERTED ALPHA," ++
  "00GREEK LETTER SMALL CAPITAL OMEGA,00LATIN SMALL LETTER DZ DIGRAPH WITH RETROFLEX HOOK,34TS," ++
  "30TURNED R WITH MIDDLE TILDE,00MODIFIER LETTER SMALL TURNED W,20LEFT TACK,21RIGHT,,,,,00CHEROKEE SMALL LETTER A," ++
  "30E,30I,30O,30U,30V,30GA,30KA,30GE,30GI,30GO,30GU,30GV,30HA,30HE,30HI"

def runab80 : String :=
  "00CHEROKEE SMALL LETTER HO,30HU,30HV,30LA,30LE,30LI,30LO,30LU,30LV,30MA,30ME,30MI,30MO,30MU,30NA,30HNA,30NAH," ++
  "30NE,30NI,30NO,30NU,30NV,30QUA,30QUE,30QUI,30QUO,30QUU,30QUV,30SA,30S,30SE,30SI,30SO,30SU,30SV,30DA,30TA,30DE," ++
  "30TE,30DI,30TI,30DO,30DU,30DV,30DLA,30TLA,30TLE,30TLI,30TLO,30TLU,30TLV,30TSA,30TSE,30TSI,30TSO,30TSU,30TSV," ++
  "30WA,30WE,30WI,30WO,30WU,30WV,30YA,00MEETEI MAYEK LETTER KOK,30SAM,30LAI,30MIT,30PA,30NA,30CHIL,30TIL,30KHOU," ++
  "30NGOU,30THOU,30WAI,30YANG,30HUK,30UN,30I,30PHAM,30ATIYA,30GOK,30JHAM,30RAI,30BA,30JIL,30DIL,30GHOU,30DHOU," ++
  "30BHAM,30KOK LONSUM,31LAI,31MIT,31PA,31NA,31TIL,31NGOU,31I,20VOWEL SIGN ONAP,40INAP,40ANAP,40YENAP,40SOUNAP," ++
  "40UNAP,40CHEINAP,40NUNG,20CHEIKHEI,20LUM IYEK,21APUN,,,20DIGIT ZERO,30ONE,30TWO,30THREE,30FOUR,30FIVE,30SIX," ++
  "30SEVEN,30EIGHT,30NINE"

def rund7b0 : String :=
  "00HANGUL JUNGSEONG O-YEO,20O-O-I,20YO-A,20YO-AE,20YO-EO,20U-YEO,20U-I-I,20YU-AE,20YU-O,20EU-A,20EU-EO,20EU-E," ++
  "20EU-O,20I-YA-O,20I-YAE,20I-YEO,20I-YE,20I-O-I,20I-YO,20I-YU,20I-I,20ARAEA-A,20ARAEA-E,,,,," ++
  "10JONGSEONG NIEUN-RIEUL,20NIEUN-CHIEUCH,20SSANGTIKEUT,20SSANGTIKEUT-PIEUP,20TIKEUT-PIEUP,20TIKEUT-SIOS," ++
  "20TIKEUT-SIOS-KIYEOK,20TIKEUT-CIEUC,20TIKEUT-CHIEUCH,20TIKEUT-THIEUTH,20RIEUL-SSANGKIYEOK,20RIEUL-KIYEOK-HIEUH," ++
  "20SSANGRIEUL-KHIEUKH,20RIEUL-MIEUM-HIEUH,20RIEUL-PIEUP-TIKEUT,20RIEUL-PIEUP-PHIEUPH,20RIEUL-YESIEUNG," ++
  "20RIEUL-YEORINHIEUH-HIEUH,20KAPYEOUNRIEUL,20MIEUM-NIEUN,20MIEUM-SSANGNIEUN,20SSANGMIEUM,20MIEUM-PIEUP-SIOS," ++
  "20MIEUM-CIEUC,20PIEUP-TIKEUT,20PIEUP-RIEUL-PHIEUPH,20PIEUP-MIEUM,20SSANGPIEUP,20PIEUP-SIOS-TIKEUT,20PIEUP-CIEUC," ++
  "20PIEUP-CHIEUCH,20SIOS-MIEUM,20SIOS-KAPYEOUNPIEUP,20SSANGSIOS-KIYEOK,20SSANGSIOS-TIKEUT,20SIOS-PANSIOS," ++
  "20SIOS-CIEUC,20SIOS-CHIEUCH,20SIOS-THIEUTH,20SIOS-HIEUH,20PANSIOS-PIEUP,20PANSIOS-KAPYEOUNPIEUP," ++
  "20YESIEUNG-MIEUM,20YESIEUNG-HIEUH,20CIEUC-PIEUP,20CIEUC-SSANGPIEUP,20SSANGCIEUC,20PHIEUPH-SIOS,20PHIEUPH-THIEUTH"

/-- The runs with their first and last characters. -/
def runs : List (Nat × Nat × String) := [
  (0xa000, 0xa07f, runa000), (0xa080, 0xa0ff, runa080), (0xa100, 0xa17f, runa100), (0xa180, 0xa1ff, runa180),
  (0xa200, 0xa27f, runa200), (0xa280, 0xa2ff, runa280), (0xa300, 0xa37f, runa300), (0xa380, 0xa3ff, runa380),
  (0xa400, 0xa47f, runa400), (0xa480, 0xa4ff, runa480), (0xa500, 0xa57f, runa500), (0xa580, 0xa5ff, runa580),
  (0xa600, 0xa62b, runa600), (0xa640, 0xa6f7, runa640), (0xa700, 0xa77f, runa700), (0xa780, 0xa7d9, runa780),
  (0xa7f2, 0xa877, runa7f2), (0xa880, 0xa8ff, runa880), (0xa900, 0xa97c, runa900), (0xa980, 0xa9fe, runa980),
  (0xaa00, 0xaa7f, runaa00), (0xaa80, 0xaac2, runaa80), (0xaadb, 0xab7f, runaadb), (0xab80, 0xabf9, runab80),
  (0xd7b0, 0xd7fb, rund7b0)]

end SocksTunnel.CharacterName.Modern
