/-
  SocksTunnel.Coding.CharacterName.Ancient — the names of letters, numbers and signs of
  ancient scripts, from Linear B on, run by run. A run has an entry for each of its
  characters in a row: how many first and last words of the name before it stay, then
  its own words between these; an empty entry has no name.
-/

namespace SocksTunnel.CharacterName.Ancient

def run10000 : String :=
  "00LINEAR B SYLLABLE B008 A,30B038 E,30B028 I,30B061 O,30B010 U,30B001 DA,30B045 DE,30B007 DI,30B014 DO," ++
  "30B051 DU,30B057 JA,30B046 JE,,30B036 JO,30B065 JU,30B077 KA,30B044 KE,30B067 KI,30B070 KO,30B081 KU,30B080 MA," ++
  "30B013 ME,30B073 MI,30B015 MO,30B023 MU,30B006 NA,30B024 NE,30B030 NI,30B052 NO,30B055 NU,30B003 PA,30B072 PE," ++
  "30B039 PI,30B011 PO,30B050 PU,30B016 QA,30B078 QE,30B021 QI,30B032 QO,,30B060 RA,30B027 RE,30B053 RI,30B002 RO," ++
  "30B026 RU,30B031 SA,30B009 SE,30B041 SI,30B012 SO,30B058 SU,30B059 TA,30B004 TE,30B037 TI,30B005 TO,30B069 TU," ++
  "30B054 WA,30B075 WE,30B040 WI,30B042 WO,,30B017 ZA,30B074 ZE,,30B020 ZO,30B025 A2,30B043 A3,30B085 AU," ++
  "30B071 DWE,30B090 DWO,30B048 NWA,30B029 PU2,30B062 PTE,30B076 RA2,30B033 RA3,30B068 RO2,30B066 TA2,30B087 TWE," ++
  "30B091 TWO,,,20SYMBOL B018,30B019,30B022,30B034,30B047,30B049,30B056,30B063,30B064,30B079,30B082,30B083,30B086," ++
  "30B089"

def run10080 : String :=
  "00LINEAR B IDEOGRAM B100 MAN,30B102 WOMAN,30B104 DEER,30B105 EQUID,30B105F MARE,30B105M STALLION,30B106F EWE," ++
  "30B106M RAM,30B107F SHE-GOAT,30B107M HE-GOAT,30B108F SOW,30B108M BOAR,30B109F COW,30B109M BULL,30B120 WHEAT," ++
  "30B121 BARLEY,30B122 OLIVE,30B123 SPICE,30B125 CYPERUS,20MONOGRAM B127 KAPO,30B128 KANAKO,20IDEOGRAM B130 OIL," ++
  "30B131 WINE,30B132,20MONOGRAM B133 AREPA,30B135 MERI,20IDEOGRAM B140 BRONZE,30B141 GOLD,30B142,30B145 WOOL," ++
  "30B146,30B150,30B151 HORN,30B152,30B153,30B154,20MONOGRAM B156 TURO2,20IDEOGRAM B157,30B158,30B159 CLOTH,30B160," ++
  "30B161,30B162 GARMENT,30B163 ARMOUR,30B164,30B165,30B166,30B167,30B168,30B169,30B170,30B171,30B172,30B173 MONTH," ++
  "30B174,30B176 TREE,30B177,30B178,30B179,30B180,30B181,30B182,30B183,30B184,30B185,30B189,30B190,30B191 HELMET," ++
  "30B220 FOOTSTOOL,30B225 BATHTUB,30B230 SPEAR,30B231 ARROW,30B232,30B233 SWORD,30B234,30B236," ++
  "30B240 WHEELED CHARIOT,31B241,30B242 CHARIOT FRAME,30B243 WHEEL,30B245,30B246,20MONOGRAM B247 DIPTE," ++
  "20IDEOGRAM B248,30B249,30B251,30B252,30B253,30B254 DART,30B255,30B256,30B257,30B258,30B259,30VESSEL B155,40B200," ++
  "40B201,40B202,40B203,40B204,40B205,40B206,40B207,40B208,40B209,40B210,40B211,40B212,40B213,40B214,40B215,40B216," ++
  "40B217,40B218,40B219,40B221,40B222,40B226,40B227,40B228,40B229,40B250,40B305"

def run10100 : String :=
  "00AEGEAN WORD SEPARATOR LINE,30DOT,10CHECK MARK,,,,,10NUMBER ONE,20TWO,20THREE,20FOUR,20FIVE,20SIX,20SEVEN," ++
  "20EIGHT,20NINE,20TEN,20TWENTY,20THIRTY,20FORTY,20FIFTY,20SIXTY,20SEVENTY,20EIGHTY,20NINETY,20ONE HUNDRED,21TWO," ++
  "21THREE,21FOUR,21FIVE,21SIX,21SEVEN,21EIGHT,21NINE,20ONE THOUSAND,21TWO,21THREE,21FOUR,21FIVE,21SIX,21SEVEN," ++
  "21EIGHT,21NINE,21TEN,21TWENTY,21THIRTY,21FORTY,21FIFTY,21SIXTY,21SEVENTY,21EIGHTY,21NINETY,,,," ++
  "10WEIGHT BASE UNIT,20FIRST SUBUNIT,21SECOND,21THIRD,21FOURTH,11DRY MEASURE FIRST,13LIQUID,11MEASURE SECOND," ++
  "21THIRD,00GREEK ACROPHONIC ATTIC ONE QUARTER,40HALF,40DRACHMA,30FIVE,30FIFTY,30FIVE HUNDRED,40THOUSAND,31FIFTY," ++
  "30FIVE TALENTS,31TEN,31FIFTY,31ONE HUNDRED,32FIVE,31ONE THOUSAND,32FIVE,40STATERS,31TEN,31FIFTY,31ONE HUNDRED," ++
  "32FIVE,31ONE THOUSAND,32TEN,32FIFTY,30TEN MNAS,20HERAEUM ONE PLETHRON,20THESPIAN ONE,21HERMIONIAN," ++
  "20EPIDAUREAN TWO,21THESPIAN,20CYRENAIC TWO DRACHMAS,22EPIDAUREAN,20TROEZENIAN FIVE,30TEN,40ALTERNATE FORM," ++
  "20HERMIONIAN TEN,21MESSENIAN,21THESPIAN,30THIRTY,20TROEZENIAN FIFTY,40ALTERNATE FORM,20HERMIONIAN FIFTY," ++
  "21THESPIAN,30ONE HUNDRED,31THREE,21EPIDAUREAN FIVE,22TROEZENIAN,22THESPIAN,22CARYSTIAN,22NAXIAN," ++
  "20THESPIAN ONE THOUSAND,31FIVE,20DELPHIC FIVE MNAS,21STRATIAN FIFTY,10ONE HALF SIGN,40ALTERNATE FORM," ++
  "10TWO THIRDS SIGN,11THREE QUARTERS,11YEAR,11TALENT,11DRACHMA,11OBOL,11TWO OBOLS,12THREE,12FOUR"

def run10180 : String :=
  "00GREEK FIVE OBOLS SIGN,11METRETES,11KYATHOS BASE,11LITRA,11OUNKIA,11XESTES,11ARTABE,11AROURA,11GRAMMA," ++
  "11TRYBLION BASE,11ZERO,11ONE QUARTER,11SINUSOID,11INDICTION,01NOMISMA,,01ROMAN SEXTANS,11UNCIA,11SEMUNCIA," ++
  "11SEXTULA,12DIMIDIA,11SILIQUA,11DENARIUS,11QUINARIUS,11SESTERTIUS,11DUPONDIUS,11AS,11CENTURIAL,00ASCIA SYMBOL,,," ++
  ",00GREEK SYMBOL TAU RHO"

def run101d0 : String :=
  "00PHAISTOS DISC SIGN PEDESTRIAN,30PLUMED HEAD,31TATTOOED,30CAPTIVE,30CHILD,30WOMAN,30HELMET,30GAUNTLET,30TIARA," ++
  "30ARROW,30BOW,30SHIELD,30CLUB,30MANACLES,30MATTOCK,30SAW,30LID,30BOOMERANG,30CARPENTRY PLANE,30DOLIUM,30COMB," ++
  "30SLING,30COLUMN,30BEEHIVE,30SHIP,30HORN,30HIDE,30BULLS LEG,30CAT,30RAM,30EAGLE,30DOVE,30TUNNY,30BEE," ++
  "30PLANE TREE,30VINE,30PAPYRUS,30ROSETTE,30LILY,30OX BACK,30FLUTE,30GRATER,30STRAINER,30SMALL AXE,30WAVY BAND," ++
  "30COMBINING OBLIQUE STROKE"

def run10280 : String :=
  "00LYCIAN LETTER A,20E,20B,20BH,20G,20D,20I,20W,20Z,20TH,20J,20K,20Q,20L,20M,20N,20MM,20NN,20U,20P,20KK,20R,20S," ++
  "20T,20TT,20AN,20EN,20H,20X,,,,00CARIAN LETTER A,20P2,20D,20L,20UUU,20R,20LD,20A2,20Q,20B,20M,20O,20D2,20T,20SH," ++
  "20SH2,20S,20C-18,20U,20NN,20X,20N,20TT2,20P,20SS,20I,20E,20UUUU,20K,20K2,20ND,20UU,20G,20G2,20ST,20ST2,20NG," ++
  "20II,20C-39,20TT,20UUU2,20RR,20MB,20MB2,20MB3,20MB4,20LD2,20E2,20UUU3"

def run102e0 : String :=
  "00COPTIC EPACT THOUSANDS MARK,20DIGIT ONE,30TWO,30THREE,30FOUR,30FIVE,30SIX,30SEVEN,30EIGHT,30NINE,20NUMBER TEN," ++
  "30TWENTY,30THIRTY,30FORTY,30FIFTY,30SIXTY,30SEVENTY,30EIGHTY,30NINETY,30ONE HUNDRED,31TWO,31THREE,31FOUR,31FIVE," ++
  "31SIX,31SEVEN,31EIGHT,31NINE,,,,,00OLD ITALIC LETTER A,30BE,30KE,30DE,30E,30VE,30ZE,30HE,30THE,30I,30KA,30EL," ++
  "30EM,30EN,30ESH,30O,30PE,30SHE,30KU,30ER,30ES,30TE,30U,30EKS,30PHE,30KHE,30EF,30ERS,30CHE,30II,30UU,30ESS," ++
  "20NUMERAL ONE,30FIVE,30TEN,30FIFTY,,,,,,,,,,20LETTER YE,30NORTHERN TSE,31SOUTHERN,00GOTHIC LETTER AHSA," ++
  "20BAIRKAN,20GIBA,20DAGS,20AIHVUS,20QAIRTHRA,20IUJA,20HAGL,20THIUTH,20EIS,20KUSMA,20LAGUS,20MANNA,20NAUTHS,20JER," ++
  "20URUS,20PAIRTHRA,20NINETY,20RAIDA,20SAUIL,20TEIWS,20WINJA,20FAIHU,20IGGWS,20HWAIR,20OTHAL,20NINE HUNDRED,,,,,," ++
  "00OLD PERMIC LETTER AN,30BUR,30GAI,30DOI,30E,30ZHOI,30DZHOI,30ZATA,30DZITA,30I,30KOKE,30LEI,30MENOE,30NENOE," ++
  "30VOOI,30PEEI,30REI,30SII,30TAI,30U,30CHERY,30SHOOI,30SHCHOOI,30YRY,30YERU,30O,30OO,30EF,30HA,30TSIU,30VER," ++
  "30YER,30YERI,30YAT,30IE,30YU,30YA,30IA,00COMBINING OLD PERMIC LETTER AN,40DOI,40ZATA,40NENOE,40SII"

def run10380 : String :=
  "00UGARITIC LETTER ALPA,20BETA,20GAMLA,20KHA,20DELTA,20HO,20WO,20ZETA,20HOTA,20TET,20YOD,20KAF,20SHIN,20LAMDA," ++
  "20MEM,20DHAL,20NUN,20ZU,20SAMKA,20AIN,20PU,20SADE,20QOPA,20RASHA,20THANNA,20GHAIN,20TO,20I,20U,20SSU,," ++
  "10WORD DIVIDER,00OLD PERSIAN SIGN A,30I,30U,30KA,30KU,30GA,30GU,30XA,30CA,30JA,30JI,30TA,30TU,30DA,30DI,30DU," ++
  "30THA,30PA,30BA,30FA,30NA,30NU,30MA,30MI,30MU,30YA,30VA,30VI,30RA,30RU,30LA,30SA,30ZA,30SHA,30SSA,30HA,,,,," ++
  "30AURAMAZDAA,30AURAMAZDAA-2,30AURAMAZDAAHA,30XSHAAYATHIYA,30DAHYAAUSH,30DAHYAAUSH-2,30BAGA,30BUUMISH," ++
  "20WORD DIVIDER,20NUMBER ONE,30TWO,30TEN,30TWENTY,30HUNDRED"

def run10400 : String :=
  "00DESERET CAPITAL LETTER LONG I,40E,40A,40AH,40O,40OO,30SHORT I,40E,40A,40AH,40O,40OO,30AY,30OW,30WU,30YEE,30H," ++
  "30PEE,30BEE,30TEE,30DEE,30CHEE,30JEE,30KAY,30GAY,30EF,30VEE,30ETH,30THEE,30ES,30ZEE,30ESH,30ZHEE,30ER,30EL,30EM," ++
  "30EN,30ENG,30OI,30EW,10SMALL LETTER LONG I,40E,40A,40AH,40O,40OO,30SHORT I,40E,40A,40AH,40O,40OO,30AY,30OW,30WU," ++
  "30YEE,30H,30PEE,30BEE,30TEE,30DEE,30CHEE,30JEE,30KAY,30GAY,30EF,30VEE,30ETH,30THEE,30ES,30ZEE,30ESH,30ZHEE,30ER," ++
  "30EL,30EM,30EN,30ENG,30OI,30EW,00SHAVIAN LETTER PEEP,20TOT,20KICK,20FEE,20THIGH,20SO,20SURE,20CHURCH,20YEA," ++
  "20HUNG,20BIB,20DEAD,20GAG,20VOW,20THEY,20ZOO,20MEASURE,20JUDGE,20WOE,20HA-HA,20LOLL,20MIME,20IF,20EGG,20ASH," ++
  "20ADO,20ON,20WOOL,20OUT,20AH,20ROAR,20NUN,20EAT,20AGE,20ICE,20UP,20OAK,20OOZE,20OIL,20AWE,20ARE,20OR,20AIR," ++
  "20ERR,20ARRAY,20EAR,20IAN,20YEW"

def run10480 : String :=
  "00OSMANYA LETTER ALEF,20BA,20TA,20JA,20XA,20KHA,20DEEL,20RA,20SA,20SHIIN,20DHA,20CAYN,20GA,20FA,20QAAF,20KAAF," ++
  "20LAAN,20MIIN,20NUUN,20WAW,20HA,20YA,20A,20E,20I,20O,20U,20AA,20EE,20OO,,,10DIGIT ZERO,20ONE,20TWO,20THREE," ++
  "20FOUR,20FIVE,20SIX,20SEVEN,20EIGHT,20NINE,,,,,,,00OSAGE CAPITAL LETTER A,30AI,30AIN,30AH,30BRA,30CHA,30EHCHA," ++
  "30E,30EIN,30HA,30HYA,30I,30KA,30EHKA,30KYA,30LA,30MA,30NA,30O,30OIN,30PA,30EHPA,30SA,30SHA,30TA,30EHTA,30TSA," ++
  "30EHTSA,30TSHA,30DHA,30U,30WA,30KHA,30GHA,30ZA,30ZHA,,,,,10SMALL LETTER A,30AI,30AIN,30AH,30BRA,30CHA,30EHCHA," ++
  "30E,30EIN,30HA,30HYA,30I,30KA,30EHKA,30KYA,30LA,30MA,30NA,30O,30OIN,30PA,30EHPA,30SA,30SHA,30TA,30EHTA,30TSA," ++
  "30EHTSA,30TSHA,30DHA,30U,30WA,30KHA,30GHA,30ZA,30ZHA"

def run10500 : String :=
  "00ELBASAN LETTER A,20BE,20CE,20CHE,20DE,20NDE,20DHE,20EI,20E,20FE,20GE,20GJE,20HE,20I,20JE,20KE,20LE,20LLE,20ME," ++
  "20NE,20NA,20NJE,20O,20PE,20QE,20RE,20RRE,20SE,20SHE,20TE,20THE,20U,20VE,20XE,20Y,20ZE,20ZHE,20GHE,20GHAMMA," ++
  "20KHE,,,,,,,,,00CAUCASIAN ALBANIAN LETTER ALT,30BET,30GIM,30DAT,30EB,30ZARL,30EYN,30ZHIL,30TAS,30CHA,30YOWD," ++
  "30ZHA,30IRB,30SHA,30LAN,30INYA,30XEYN,30DYAN,30CAR,30JHOX,30KAR,30LYIT,30HEYT,30QAY,30AOR,30CHOY,30CHI,30CYAY," ++
  "30MAQ,30QAR,30NOWC,30DZYAY,30SHAK,30JAYN,30ON,30TYAY,30FAM,30DZAY,30CHAT,30PEN,30GHEYS,30RAT,30SEYK,30VEYZ," ++
  "30TIWR,30SHOY,30IWN,30CYAW,30CAYN,30YAYD,30PIWR,30KIW,,,,,,,,,,,,20CITATION MARK,00VITHKUQI CAPITAL LETTER A," ++
  "30BBE,30BE,30CE,30CHE,30DE,30DHE,30EI,30E,30FE,30GA,,30HA,30HHA,30I,30IJE"

def run10580 : String :=
  "00VITHKUQI CAPITAL LETTER JE,30KA,30LA,30LLA,30ME,30NE,30NJE,30O,30PE,30QA,30RE,,30SE,30SHE,30TE,30THE,30U,30VE," ++
  "30XE,,30Y,30ZE,,10SMALL LETTER A,30BBE,30BE,30CE,30CHE,30DE,30DHE,30EI,30E,30FE,30GA,,30HA,30HHA,30I,30IJE,30JE," ++
  "30KA,30LA,30LLA,30ME,30NE,30NJE,30O,30PE,30QA,30RE,,30SE,30SHE,30TE,30THE,30U,30VE,30XE,,30Y,30ZE"

def run10600 : String :=
  "00LINEAR A SIGN AB001,30AB002,30AB003,30AB004,30AB005,30AB006,30AB007,30AB008,30AB009,30AB010,30AB011,30AB013," ++
  "30AB016,30AB017,30AB020,30AB021,30AB021F,30AB021M,30AB022,30AB022F,30AB022M,30AB023,30AB023M,30AB024,30AB026," ++
  "30AB027,30AB028,30A028B,30AB029,30AB030,30AB031,30AB034,30AB037,30AB038,30AB039,30AB040,30AB041,30AB044,30AB045," ++
  "30AB046,30AB047,30AB048,30AB049,30AB050,30AB051,30AB053,30AB054,30AB055,30AB056,30AB057,30AB058,30AB059,30AB060," ++
  "30AB061,30AB065,30AB066,30AB067,30AB069,30AB070,30AB073,30AB074,30AB076,30AB077,30AB078,30AB079,30AB080,30AB081," ++
  "30AB082,30AB085,30AB086,30AB087,30A100-102,30AB118,30AB120,30A120B,30AB122,30AB123,30AB131A,30AB131B,30A131C," ++
  "30AB164,30AB171,30AB180,30AB188,30AB191,30A301,30A302,30A303,30A304,30A305,30A306,30A307,30A308,30A309A,30A309B," ++
  "30A309C,30A310,30A311,30A312,30A313A,30A313B,30A313C,30A314,30A315,30A316,30A317,30A318,30A319,30A320,30A321," ++
  "30A322,30A323,30A324,30A325,30A326,30A327,30A328,30A329,30A330,30A331,30A332,30A333,30A334,30A335,30A336,30A337," ++
  "30A338,30A339"

def run10680 : String :=
  "00LINEAR A SIGN A340,30A341,30A342,30A343,30A344,30A345,30A346,30A347,30A348,30A349,30A350,30A351,30A352,30A353," ++
  "30A354,30A355,30A356,30A357,30A358,30A359,30A360,30A361,30A362,30A363,30A364,30A365,30A366,30A367,30A368,30A369," ++
  "30A370,30A371,30A400-VAS,30A401-VAS,30A402-VAS,30A403-VAS,30A404-VAS,30A405-VAS,30A406-VAS,30A407-VAS," ++
  "30A408-VAS,30A409-VAS,30A410-VAS,30A411-VAS,30A412-VAS,30A413-VAS,30A414-VAS,30A415-VAS,30A416-VAS,30A417-VAS," ++
  "30A418-VAS,30A501,30A502,30A503,30A504,30A505,30A506,30A508,30A509,30A510,30A511,30A512,30A513,30A515,30A516," ++
  "30A520,30A521,30A523,30A524,30A525,30A526,30A527,30A528,30A529,30A530,30A531,30A532,30A534,30A535,30A536,30A537," ++
  "30A538,30A539,30A540,30A541,30A542,30A545,30A547,30A548,30A549,30A550,30A551,30A552,30A553,30A554,30A555,30A556," ++
  "30A557,30A559,30A563,30A564,30A565,30A566,30A568,30A569,30A570,30A571,30A572,30A573,30A574,30A575,30A576,30A577," ++
  "30A578,30A579,30A580,30A581,30A582,30A583,30A584,30A585,30A586,30A587,30A588,30A589,30A591,30A592,30A594"

def run10700 : String :=
  "00LINEAR A SIGN A595,30A596,30A598,30A600,30A601,30A602,30A603,30A604,30A606,30A608,30A609,30A610,30A611,30A612," ++
  "30A613,30A614,30A615,30A616,30A617,30A618,30A619,30A620,30A621,30A622,30A623,30A624,30A626,30A627,30A628,30A629," ++
  "30A634,30A637,30A638,30A640,30A642,30A643,30A644,30A645,30A646,30A648,30A649,30A651,30A652,30A653,30A654,30A655," ++
  "30A656,30A657,30A658,30A659,30A660,30A661,30A662,30A663,30A664,,,,,,,,,,30A701 A,30A702 B,30A703 D,30A704 E," ++
  "30A705 F,30A706 H,30A707 J,30A708 K,30A709 L,30A709-2 L2,30A709-3 L3,30A709-4 L4,30A709-6 L6,30A710 W,30A711 X," ++
  "30A712 Y,30A713 OMEGA,30A714 ABB,30A715 BB,30A717 DD,30A726 EYYY,30A732 JE,,,,,,,,,,,30A800,30A801,30A802," ++
  "30A803,30A804,30A805,30A806,30A807"

def run10780 : String :=
  "00MODIFIER LETTER SMALL CAPITAL AA,20SUPERSCRIPT TRIANGULAR COLON,32HALF,20SMALL AE,30CAPITAL B,30B WITH HOOK,," ++
  "30DZ DIGRAPH,50WITH RETROFLEX HOOK,60CURL,30DEZH DIGRAPH,30D WITH TAIL,50HOOK,60AND TAIL,30REVERSED E," ++
  "31CLOSED REVERSED OPEN,30FENG DIGRAPH,30RAMS HORN,30CAPITAL G,30G WITH HOOK,33CAPITAL,30H WITH STROKE," ++
  "30CAPITAL H,30HENG WITH HOOK,31DOTLESS J WITH STROKE AND,30LS DIGRAPH,31LZ,30L WITH BELT,33CAPITAL," ++
  "31L WITH RETROFLEX HOOK AND,30LEZH,40WITH RETROFLEX HOOK,30TURNED Y,50WITH BELT,30O WITH STROKE,30CAPITAL OE," ++
  "30CLOSED OMEGA,30Q,30TURNED R WITH LONG LEG,80AND RETROFLEX HOOK,30R WITH TAIL,50FISHHOOK,30CAPITAL R," ++
  "30TC DIGRAPH WITH CURL,30TS DIGRAPH,50WITH RETROFLEX HOOK,30TESH DIGRAPH,30T WITH RETROFLEX HOOK,31V WITH RIGHT," ++
  ",30CAPITAL Y,20GLOTTAL STOP WITH STROKE,24REVERSED,20BILABIAL CLICK,21DENTAL,21LATERAL,21ALVEOLAR," ++
  "20RETROFLEX CLICK WITH RETROFLEX HOOK,20SMALL S WITH CURL"

def run10800 : String :=
  "00CYPRIOT SYLLABLE A,20E,20I,20O,20U,20JA,,,20JO,,20KA,20KE,20KI,20KO,20KU,20LA,20LE,20LI,20LO,20LU,20MA,20ME," ++
  "20MI,20MO,20MU,20NA,20NE,20NI,20NO,20NU,20PA,20PE,20PI,20PO,20PU,20RA,20RE,20RI,20RO,20RU,20SA,20SE,20SI,20SO," ++
  "20SU,20TA,20TE,20TI,20TO,20TU,20WA,20WE,20WI,20WO,,20XA,20XE,,,,20ZA,,,20ZO,00IMPERIAL ARAMAIC LETTER ALEPH," ++
  "30BETH,30GIMEL,30DALETH,30HE,30WAW,30ZAYIN,30HETH,30TETH,30YODH,30KAPH,30LAMEDH,30MEM,30NUN,30SAMEKH,30AYIN," ++
  "30PE,30SADHE,30QOPH,30RESH,30SHIN,30TAW,,20SECTION SIGN,20NUMBER ONE,30TWO,30THREE,30TEN,30TWENTY,30ONE HUNDRED," ++
  "40THOUSAND,31TEN,00PALMYRENE LETTER ALEPH,20BETH,20GIMEL,20DALETH,20HE,20WAW,20ZAYIN,20HETH,20TETH,20YODH," ++
  "20KAPH,20LAMEDH,20MEM,20FINAL NUN,20NUN,20SAMEKH,20AYIN,20PE,20SADHE,20QOPH,20RESH,20SHIN,20TAW," ++
  "10LEFT-POINTING FLEURON,11RIGHT-POINTING,10NUMBER ONE,20TWO,20THREE,20FOUR,20FIVE,20TEN,20TWENTY"

def run10880 : String :=
  "00NABATAEAN LETTER FINAL ALEPH,20ALEPH,20FINAL BETH,20BETH,20GIMEL,20DALETH,20FINAL HE,20HE,20WAW,20ZAYIN," ++
  "20HETH,20TETH,20FINAL YODH,20YODH,20FINAL KAPH,20KAPH,20FINAL LAMEDH,20LAMEDH,20FINAL MEM,20MEM,20FINAL NUN," ++
  "20NUN,20SAMEKH,20AYIN,20PE,20SADHE,20QOPH,20RESH,20FINAL SHIN,20SHIN,20TAW,,,,,,,,,10NUMBER ONE,20TWO,20THREE," ++
  "20FOUR,12CRUCIFORM,10NUMBER FIVE,20TEN,20TWENTY,20ONE HUNDRED"

def run108e0 : String :=
  "00HATRAN LETTER ALEPH,20BETH,20GIMEL,20DALETH-RESH,20HE,20WAW,20ZAYN,20HETH,20TETH,20YODH,20KAPH,20LAMEDH,20MEM," ++
  "20NUN,20SAMEKH,20AYN,20PE,20SADHE,20QOPH,,20SHIN,20TAW,,,,,,10NUMBER ONE,20FIVE,20TEN,20TWENTY,20ONE HUNDRED," ++
  "00PHOENICIAN LETTER ALF,20BET,20GAML,20DELT,20HE,20WAU,20ZAI,20HET,20TET,20YOD,20KAF,20LAMD,20MEM,20NUN,20SEMK," ++
  "20AIN,20PE,20SADE,20QOF,20ROSH,20SHIN,20TAU,10NUMBER ONE,20TEN,20TWENTY,20ONE HUNDRED,20TWO,20THREE,,,," ++
  "10WORD SEPARATOR,00LYDIAN LETTER A,20B,20G,20D,20E,20V,20I,20Y,20K,20L,20M,20N,20O,20R,20SS,20T,20U,20F,20Q,20S," ++
  "20TT,20AN,20EN,20LY,20NN,20C,,,,,,10TRIANGULAR MARK"

def run10980 : String :=
  "00MEROITIC HIEROGLYPHIC LETTER A,30E,30I,30O,30YA,30WA,30BA,30BA-2,30PA,30MA,30NA,30NA-2,30NE,30NE-2,30RA," ++
  "30RA-2,30LA,30KHA,30HHA,30SA,30SA-2,30SE,30KA,30QA,30TA,30TA-2,30TE,30TE-2,30TO,30DA,20SYMBOL VIDJ,30VIDJ-2," ++
  "10CURSIVE LETTER A,30E,30I,30O,30YA,30WA,30BA,30PA,30MA,30NA,30NE,30RA,30LA,30KHA,30HHA,30SA,31ARCHAIC,30SE," ++
  "30KA,30QA,30TA,30TE,30TO,30DA,,,,,20FRACTION ELEVEN TWELFTHS,30ONE HALF,20LOGOGRAM RMT,30IMN,20NUMBER ONE,30TWO," ++
  "30THREE,30FOUR,30FIVE,30SIX,30SEVEN,30EIGHT,30NINE,30TEN,30TWENTY,30THIRTY,30FORTY,30FIFTY,30SIXTY,30SEVENTY,,," ++
  "30ONE HUNDRED,31TWO,31THREE,31FOUR,31FIVE,31SIX,31SEVEN,31EIGHT,31NINE,30ONE THOUSAND,31TWO,31THREE,31FOUR," ++
  "31FIVE,31SIX,31SEVEN,31EIGHT,31NINE,31TEN,31TWENTY,31THIRTY,31FORTY,31FIFTY,31SIXTY,31SEVENTY,31EIGHTY,31NINETY," ++
  "31ONE HUNDRED,32TWO,32THREE,32FOUR,32FIVE,32SIX,32SEVEN,32EIGHT,32NINE,20FRACTION ONE TWELFTH,30TWO TWELFTHS," ++
  "31THREE,31FOUR,31FIVE,31SIX,31SEVEN,31EIGHT,31NINE,31TEN"

def run10a00 : String :=
  "00KHAROSHTHI LETTER A,10VOWEL SIGN I,30U,30VOCALIC R,,30E,30O,,,,,,20LENGTH MARK,10SIGN DOUBLE RING BELOW," ++
  "20ANUSVARA,20VISARGA,10LETTER KA,20KHA,20GA,20GHA,,20CA,20CHA,20JA,,20NYA,20TTA,20TTHA,20DDA,20DDHA,20NNA,20TA," ++
  "20THA,20DA,20DHA,20NA,20PA,20PHA,20BA,20BHA,20MA,20YA,20RA,20LA,20VA,20SHA,20SSA,20SA,20ZA,20HA,20KKA,20TTTHA," ++
  "20TTTA,20VHA,,,10SIGN BAR ABOVE,20CAUDA,20DOT BELOW,,,,,10VIRAMA,10DIGIT ONE,20TWO,20THREE,20FOUR,10NUMBER TEN," ++
  "20TWENTY,20ONE HUNDRED,30THOUSAND,10FRACTION ONE HALF,,,,,,,,10PUNCTUATION DOT,20SMALL CIRCLE,20CIRCLE," ++
  "20CRESCENT BAR,20MANGALAM,20LOTUS,20DANDA,21DOUBLE,20LINES,,,,,,,,00OLD SOUTH ARABIAN LETTER HE,40LAMEDH,40HETH," ++
  "40MEM,40QOPH,40WAW,40SHIN,40RESH,40BETH,40TAW,40SAT,40KAPH,40NUN,40KHETH,40SADHE,40SAMEKH,40FE,40ALEF,40AYN," ++
  "40DHADHE,40GIMEL,40DALETH,40GHAYN,40TETH,40ZAYN,40DHALETH,40YODH,40THAW,40THETH,30NUMBER ONE,40FIFTY," ++
  "30NUMERIC INDICATOR"

def run10a80 : String :=
  "00OLD NORTH ARABIAN LETTER HEH,40LAM,40HAH,40MEEM,40QAF,40WAW,40ES-2,40REH,40BEH,40TEH,40ES-1,40KAF,40NOON," ++
  "40KHAH,40SAD,40ES-3,40FEH,40ALEF,40AIN,40DAD,40GEEM,40DAL,40GHAIN,40TAH,40ZAIN,40THAL,40YEH,40THEH,40ZAH," ++
  "30NUMBER ONE,40TEN,40TWENTY"

def run10ac0 : String :=
  "00MANICHAEAN LETTER ALEPH,20BETH,20BHETH,20GIMEL,20GHIMEL,20DALETH,20HE,20WAW,10SIGN UD,10LETTER ZAYIN,20ZHAYIN," ++
  "20JAYIN,20JHAYIN,20HETH,20TETH,20YODH,20KAPH,20XAPH,20KHAPH,20LAMEDH,20DHAMEDH,20THAMEDH,20MEM,20NUN,20SAMEKH," ++
  "20AYIN,20AAYIN,20PE,20FE,20SADHE,20QOPH,20XOPH,20QHOPH,20RESH,20SHIN,20SSHIN,20TAW,10ABBREVIATION MARK ABOVE," ++
  "30BELOW,,,,,10NUMBER ONE,20FIVE,20TEN,20TWENTY,20ONE HUNDRED,10PUNCTUATION STAR,20FLEURON," ++
  "20DOUBLE DOT WITHIN DOT,22DOT,20DOT,20TWO DOTS,20LINE FILLER,,,,,,,,,,00AVESTAN LETTER A,20AA,20AO,20AAO,20AN," ++
  "20AAN,20AE,20AEE,20E,20EE,20O,20OO,20I,20II,20U,20UU,20KE,20XE,20XYE,20XVE,20GE,20GGE,20GHE,20CE,20JE,20TE," ++
  "20THE,20DE,20DHE,20TTE,20PE,20FE,20BE,20BHE,20NGE,20NGYE,20NGVE,20NE,20NYE,20NNE,20ME,20HME,20YYE,20YE,20VE," ++
  "20RE,20LE,20SE,20ZE,20SHE,20ZHE,20SHYE,20SSHE,20HE,,,,10ABBREVIATION MARK," ++
  "00TINY TWO DOTS OVER ONE DOT PUNCTUATION,06SMALL,06LARGE,11ONE DOT OVER TWO DOTS,11TWO RINGS OVER ONE RING," ++
  "11ONE RING OVER TWO RINGS,00INSCRIPTIONAL PARTHIAN LETTER ALEPH,30BETH,30GIMEL,30DALETH,30HE,30WAW,30ZAYIN," ++
  "30HETH,30TETH,30YODH,30KAPH,30LAMEDH,30MEM,30NUN,30SAMEKH,30AYIN,30PE,30SADHE,30QOPH,30RESH,30SHIN,30TAW,,," ++
  "20NUMBER ONE,30TWO,30THREE,30FOUR,30TEN,30TWENTY,30ONE HUNDRED,40THOUSAND,10PAHLAVI LETTER ALEPH,30BETH,30GIMEL," ++
  "30DALETH,30HE,30WAW-AYIN-RESH,30ZAYIN,30HETH,30TETH,30YODH,30KAPH,30LAMEDH,30MEM-QOPH,30NUN,30SAMEKH,30PE," ++
  "30SADHE,30SHIN,30TAW,,,,,,20NUMBER ONE,30TWO,30THREE,30FOUR,30TEN,30TWENTY,30ONE HUNDRED,40THOUSAND"

def run10b80 : String :=
  "00PSALTER PAHLAVI LETTER ALEPH,30BETH,30GIMEL,30DALETH,30HE,30WAW-AYIN-RESH,30ZAYIN,30HETH,30YODH,30KAPH," ++
  "30LAMEDH,30MEM-QOPH,30NUN,30SAMEKH,30PE,30SADHE,30SHIN,30TAW,,,,,,,,20SECTION MARK,22TURNED," ++
  "20FOUR DOTS WITH CROSS,50DOT"

def run10ba9 : String :=
  "00PSALTER PAHLAVI NUMBER ONE,30TWO,30THREE,30FOUR,30TEN,30TWENTY,30ONE HUNDRED"

def run10c00 : String :=
  "00OLD TURKIC LETTER ORKHON A,31YENISEI,40AE,30ORKHON I,31YENISEI,40E,30ORKHON O,40OE,31YENISEI,30ORKHON AB," ++
  "31YENISEI,30ORKHON AEB,31YENISEI,30ORKHON AG,31YENISEI,30ORKHON AEG,31YENISEI,30ORKHON AD,31YENISEI," ++
  "30ORKHON AED,40EZ,31YENISEI,30ORKHON AY,31YENISEI,30ORKHON AEY,31YENISEI,30ORKHON AEK,31YENISEI,30ORKHON OEK," ++
  "31YENISEI,30ORKHON AL,31YENISEI,30ORKHON AEL,40ELT,40EM,40AN,40AEN,31YENISEI,30ORKHON ENT,31YENISEI," ++
  "30ORKHON ENC,31YENISEI,30ORKHON ENY,31YENISEI,40ANG,30ORKHON ENG,30YENISEI AENG,30ORKHON EP,40OP,40IC,40EC," ++
  "31YENISEI,30ORKHON AQ,31YENISEI,30ORKHON IQ,31YENISEI,30ORKHON OQ,31YENISEI,30ORKHON AR,31YENISEI,30ORKHON AER," ++
  "40AS,40AES,40ASH,31YENISEI,30ORKHON ESH,31YENISEI,30ORKHON AT,31YENISEI,30ORKHON AET,31YENISEI,30ORKHON OT," ++
  "40BASH"

def run10c80 : String :=
  "00OLD HUNGARIAN CAPITAL LETTER A,40AA,40EB,40AMB,40EC,40ENC,40ECS,40ED,40AND,40E,41CLOSE,40EE,40EF,40EG,40EGY," ++
  "40EH,40I,40II,40EJ,40EK,40AK,40UNK,40EL,40ELY,40EM,40EN,40ENY,40O,40OO,40NIKOLSBURG OE,41RUDIMENTA,40OEE,40EP," ++
  "40EMP,40ER,41SHORT,40ES,40ESZ,40ET,40ENT,40ETY,40ECH,40U,40UU,40NIKOLSBURG UE,41RUDIMENTA,40EV,40EZ,40EZS," ++
  "40ENT-SHAPED SIGN,40US"

def run10cc0 : String :=
  "00OLD HUNGARIAN SMALL LETTER A,40AA,40EB,40AMB,40EC,40ENC,40ECS,40ED,40AND,40E,41CLOSE,40EE,40EF,40EG,40EGY," ++
  "40EH,40I,40II,40EJ,40EK,40AK,40UNK,40EL,40ELY,40EM,40EN,40ENY,40O,40OO,40NIKOLSBURG OE,41RUDIMENTA,40OEE,40EP," ++
  "40EMP,40ER,41SHORT,40ES,40ESZ,40ET,40ENT,40ETY,40ECH,40U,40UU,40NIKOLSBURG UE,41RUDIMENTA,40EV,40EZ,40EZS," ++
  "40ENT-SHAPED SIGN,40US,,,,,,,,20NUMBER ONE,30FIVE,30TEN,30FIFTY,30ONE HUNDRED,40THOUSAND," ++
  "00HANIFI ROHINGYA LETTER A,30BA,30PA,30TA,30TTA,30JA,30CA,30HA,30KHA,30FA,30DA,30DDA,30RA,30RRA,30ZA,30SA,30SHA," ++
  "30KA,30GA,30LA,30MA,30NA,30WA,31KINNA,30YA,31KINNA,30NGA,30NYA,30VA,20VOWEL A,30I,30U,30E,30O,20MARK SAKIN," ++
  "30NA KHONNA,20SIGN HARBAHAY,30TAHALA,30TANA,30TASSI,,,,,,,,,20DIGIT ZERO,30ONE,30TWO,30THREE,30FOUR,30FIVE," ++
  "30SIX,30SEVEN,30EIGHT,30NINE"

def run10e60 : String :=
  "00RUMI DIGIT ONE,20TWO,20THREE,20FOUR,20FIVE,20SIX,20SEVEN,20EIGHT,20NINE,10NUMBER TEN,20TWENTY,20THIRTY," ++
  "20FORTY,20FIFTY,20SIXTY,20SEVENTY,20EIGHTY,20NINETY,20ONE HUNDRED,21TWO,21THREE,21FOUR,21FIVE,21SIX,21SEVEN," ++
  "21EIGHT,21NINE,10FRACTION ONE HALF,30QUARTER,30THIRD,20TWO THIRDS,,00YEZIDI LETTER ELIF,20BE,20PE,20PHE,20THE," ++
  "20SE,20CIM,20CHIM,20CHHIM,20HHA,20XA,20DAL,20ZAL,20RA,20RHA,20ZA,20JA,20SIN,20SHIN,20SAD,20DAD,20TA,20ZE,20EYN," ++
  "20XHEYN,20FA,20VA,30ALTERNATE FORM,20QAF,20KAF,20KHAF,20GAF,20LAM,20MIM,20NUN,20UM,20WAW,20OW,20EW,20HAY,20YOT," ++
  "20ET,,10COMBINING HAMZA MARK,21MADDA,11HYPHENATION,,,10LETTER LAM WITH DOT ABOVE,21YOT WITH CIRCUMFLEX"

def run10f00 : String :=
  "00OLD SOGDIAN LETTER ALEPH,31FINAL,30BETH,31FINAL,30GIMEL,30HE,31FINAL,30WAW,30ZAYIN,30HETH,30YODH,30KAPH," ++
  "30LAMEDH,30MEM,30NUN,31FINAL,50WITH VERTICAL TAIL,30SAMEKH,30AYIN,31ALTERNATE,30PE,30SADHE,31FINAL," ++
  "50WITH VERTICAL TAIL,30RESH-AYIN-DALETH,30SHIN,30TAW,31FINAL,50WITH VERTICAL TAIL,20NUMBER ONE,30TWO,30THREE," ++
  "30FOUR,30FIVE,30TEN,30TWENTY,30THIRTY,30ONE HUNDRED,20FRACTION ONE HALF,20LIGATURE AYIN-DALETH,,,,,,,,," ++
  "00SOGDIAN LETTER ALEPH,20BETH,20GIMEL,20HE,20WAW,20ZAYIN,20HETH,20YODH,20KAPH,20LAMEDH,20MEM,20NUN,20SAMEKH," ++
  "20AYIN,20PE,20SADHE,20RESH-AYIN,20SHIN,20TAW,20FETH,20LESH,10INDEPENDENT SHIN,10COMBINING DOT BELOW,21TWO DOTS," ++
  "20DOT ABOVE,21TWO DOTS,21CURVE,30BELOW,20HOOK ABOVE,30BELOW,22LONG,21RESH,21STROKE,10NUMBER ONE,20TEN,20TWENTY," ++
  "20ONE HUNDRED,10PUNCTUATION TWO VERTICAL BARS,50WITH DOTS,20CIRCLE WITH DOT,20TWO CIRCLES WITH DOTS," ++
  "20HALF CIRCLE WITH DOT"

def run10f70 : String :=
  "00OLD UYGHUR LETTER ALEPH,30BETH,30GIMEL-HETH,30WAW,30ZAYIN,30FINAL HETH,30YODH,30KAPH,30LAMEDH,30MEM,30NUN," ++
  "30SAMEKH,30PE,30SADHE,30RESH,30SHIN,30TAW,30LESH,20COMBINING DOT ABOVE,40BELOW,30TWO DOTS ABOVE,50BELOW," ++
  "20PUNCTUATION BAR,30TWO BARS,40DOTS,31FOUR"

def run10fb0 : String :=
  "00CHORASMIAN LETTER ALEPH,21SMALL,20BETH,20GIMEL,20DALETH,20HE,20WAW,21CURLED,20ZAYIN,20HETH,20YODH,20KAPH," ++
  "20LAMEDH,20MEM,20NUN,20SAMEKH,20AYIN,20PE,20RESH,20SHIN,20TAW,10NUMBER ONE,20TWO,20THREE,20FOUR,20TEN,20TWENTY," ++
  "20ONE HUNDRED"

def run10fe0 : String :=
  "00ELYMAIC LETTER ALEPH,20BETH,20GIMEL,20DALETH,20HE,20WAW,20ZAYIN,20HETH,20TETH,20YODH,20KAPH,20LAMEDH,20MEM," ++
  "20NUN,20SAMEKH,20AYIN,20PE,20SADHE,20QOPH,20RESH,20SHIN,20TAW,10LIGATURE ZAYIN-YODH"

/-- The runs with their first and last characters. -/
def runs : List (Nat × Nat × String) := [
  (0x10000, 0x1005d, run10000), (0x10080, 0x100fa, run10080), (0x10100, 0x1017f, run10100),
  (0x10180, 0x101a0, run10180), (0x101d0, 0x101fd, run101d0), (0x10280, 0x102d0, run10280),
  (0x102e0, 0x1037a, run102e0), (0x10380, 0x103d5, run10380), (0x10400, 0x1047f, run10400),
  (0x10480, 0x104fb, run10480), (0x10500, 0x1057f, run10500), (0x10580, 0x105bc, run10580),
  (0x10600, 0x1067f, run10600), (0x10680, 0x106ff, run10680), (0x10700, 0x10767, run10700),
  (0x10780, 0x107ba, run10780), (0x10800, 0x1087f, run10800), (0x10880, 0x108af, run10880),
  (0x108e0, 0x1093f, run108e0), (0x10980, 0x109ff, run10980), (0x10a00, 0x10a7f, run10a00),
  (0x10a80, 0x10a9f, run10a80), (0x10ac0, 0x10b7f, run10ac0), (0x10b80, 0x10b9c, run10b80),
  (0x10ba9, 0x10baf, run10ba9), (0x10c00, 0x10c48, run10c00), (0x10c80, 0x10cb2, run10c80),
  (0x10cc0, 0x10d39, run10cc0), (0x10e60, 0x10eb1, run10e60), (0x10f00, 0x10f59, run10f00),
  (0x10f70, 0x10f89, run10f70), (0x10fb0, 0x10fcb, run10fb0), (0x10fe0, 0x10ff6, run10fe0)]

end SocksTunnel.CharacterName.Ancient
