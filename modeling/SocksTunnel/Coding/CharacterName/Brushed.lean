/-
  SocksTunnel.Coding.CharacterName.Brushed — the names of letters and parts of
  characters from Bamum to shorthand, run by run. A run has an entry for each of its
  characters in a row: how many first and last words of the name before it stay, then
  its own words between these; an empty entry has no name.
-/

namespace SocksTunnel.CharacterName.Brushed

def run16800 : String :=
  "00BAMUM LETTER PHASE-A NGKUE MFON,30GBIEE FON,30PON MFON PIPAEMGBIEE,50PIPAEMBA,30NAA MFON,30SHUENSHUET," ++
  "30TITA MFON,31NZA,30SHINDA PA NJI,30PON PA NJI PIPAEMGBIEE,60PIPAEMBA,30MAEMBGBIEE,30TU MAEMBA,30NGANGU," ++
  "30MAEMVEUX,30MANSUAE,30MVEUAENGAM,30SEUNYAM,30NTOQPEN,30KEUKEUTNDA,30NKINDI,30SUU,30NGKUENZEUM,30LAPAQ," ++
  "30LET KUT,30NTAP MFAA,30MAEKEUP,30PASHAE,30GHEUAERAE,30PAMSHAE,30MON NGGEUAET,30NZUN MEUT,30U YUQ NAE," ++
  "30GHEUAEGHEUAE,30NTAP NTAA,30SISA,30MGBASA,30MEUNJOMNDEUQ,30MOOMPUQ,30KAFA,30PA LEERAEWA,31NDA,30PET,30MAEMKPEN," ++
  "30NIKA,30PUP,30TUAEP,30LUAEP,30SONJAM,30TEUTEUWEN,30MAENYI,30KET,30NDAANGGEUAET,30KUOQ,30MOOMEUT,30SHUM," ++
  "30LOMMAE,30FIRI,30ROM,30KPOQ,30SOQ,30MAP PIEET,30SHIRAE,30NTAP,30SHOQ NSHUT YUM,30NYIT MONGKEUAEQ,30PAARAE," ++
  "30NKAARAE,30UNKNOWN,30NGGEN,30MAESI,30NJAM,30MBANYI,30NYET,30TEUAEN,30SOT,30PAAM,30NSHIEE,30MAEM,30NYI,30KAQ," ++
  "30NSHA,30VEE,30LU,30NEN,30NAQ,30MBAQ,20PHASE-B NSHUET,30TU MAEMGBIEE,30SIEE,30SET TU,30LOM NTEUM,30MBA MAELEE," ++
  "30KIEEM,30YEURAE,30MBAARAE,30KAM,30PEESHI,30YAFU LEERAEWA,30LAM NSHUT NYAM,30NTIEE SHEUOQ,30NDU NJAA," ++
  "30GHEUGHEUAEM,30PIT,30TU NSIEE,30SHET NJAQ,30SHEUAEQTU,30MFON TEUAEQ,30MBIT MBAAKET,30NYI NTEUM,30KEUPUQ," ++
  "30GHEUGHEN,30KEUYEUX,30LAANAE,30PARUM,30VEUM,30NGKINDI MVOP,30NGGEU MBU,30WUAET,30SAKEUAE,30TAAM,30MEUQ," ++
  "30NGGUOQ,40LARGE,30MFIYAQ,30SUE,30MBEURI,30MONTIEEN"

def run16880 : String :=
  "00BAMUM LETTER PHASE-B NYAEMAE,30PUNGAAM,30MEUT NGGEET,30FEUX,30MBUOQ,30FEE,30KEUAEM,30MA NJEUAENA,40NJUQA," ++
  "30LET,30NGGAAM,30NSEN,30MA,30KIQ,30NGOM,20PHASE-C NGKUE MAEMBA,30NZA,30YUM,30WANGKUOQ,30NGGEN,30NDEUAEREE," ++
  "30NGKAQ,30GHARAE,30MBEEKEET,30GBAYI,30NYIR MKPARAQ MEUN,30NTU MBIT,30MBEUM,30PIRIEEN,30NDOMBU," ++
  "30MBAA CABBAGE-TREE,30KEUSHEUAEP,30GHAP,30KEUKAQ,30YU MUOMAE,30NZEUM,30MBUE,30NSEUAEN,30MBIT,30YEUQ,30KPARAQ," ++
  "30KAA,30SEUX,30NDIDA,30TAASHAE,30NJUEQ,30TITA YUE,30SUAET,30NGGUAEN NYAM,30VEUX,30NANSANAQ,30MA KEUAERI,30NTAA," ++
  "30NGGUON,30LAP,30MBIRIEEN,30MGBASAQ,30NTEUNGBA,30TEUTEUX,30NGGUM,30FUE,30NDEUT,30NSA,30NSHAQ,30BUNG,30VEUAEPEN," ++
  "30MBERAE,30RU,30NJAEM,30LAM,30TITUAEP,30NSUOT NGOM,30NJEEEE,30KET,30NGGU,30MAESI,30MBUAEM,30LU,30KUT,30NJAM," ++
  "30NGOM,30WUP,30NGGUEET,30NSOM,30NTEN,30KUOP NKAARAE,30NSUN,30NDAM,30MA NSIEE,30YAA,30NDAP,30SHUEQ,30SETFON," ++
  "30MBI,30MAEMBA,30MBANYI,30KEUSEUX,30MBEUX,30KEUM,30MBAA PICKET,30YUWOQ,30NJEUX,30MIEE,30MUAE,30SHIQ,30KEN LAW," ++
  "40FATIGUE,30NGAQ,30NAQ,30LIQ,30PIN,30PEN,30TET,20PHASE-D MBUO,30WAP,30NJI,30MFON,30NJIEE,30LIEE,30NJEUT,30NSHEE," ++
  "30NGGAAMAE,30NYAM,30WUAEN,30NGKUN,30SHEE,30NGKAP,30KEUAETMEUN"

def run16900 : String :=
  "00BAMUM LETTER PHASE-D TEUT,30SHEUAE,30NJAP,30SUE,30KET,30YAEMMAE,30KUOM,30SAP,30MFEUT,30NDEUX,30MALEERI,30MEUT," ++
  "30SEUAEQ,30YEN,30NJEUAEM,30KEUOT MBUAE,30NGKEURI,30TU,30GHAA,30NGKYEE,30FEUFEUAET,30NDEE,30MGBOFUM,30LEUAEP," ++
  "30NDON,30MONI,30MGBEUN,30PUUT,30MGBIEE,30MFO,30LUM,30NSIEEP,30MBAA,30KWAET,30NYET,30TEUAEN,30SOT,30YUWOQ,30KEUM," ++
  "30RAEM,30TEEEE,30NGKEUAEQ,30MFEUAE,30NSIEET,30KEUP,30PIP,30PEUTAE,30NYUE,30LET,30NGGAAM,30MFIEE,30NGGWAEN," ++
  "30YUOM,30PAP,30YUOP,30NDAM,30NTEUM,30SUAE,30KUN,30NGGEUX,30NGKIEE,30TUOT,30MEUN,30KUQ,30NSUM,30TEUN,30MAENJET," ++
  "30NGGAP,30LEUM,30NGGUOM,30NSHUT,30NJUEQ,30GHEUAE,30KU,30REN OLD,30TAE,30TOQ,30NYI,30RII,30LEEEE,30MEEEE,30M," ++
  "30SUU,30MU,30SHII,30SHEUX,30KYEE,30NU,30SHU,30NTEE,30PEE,30NI,30SHOQ,30PUQ,30MVOP,30LOQ,30REN MUCH,30TI,30NTUU," ++
  "30MBAA SEVEN,30SAQ,30FAA,20PHASE-E NDAP,30TOON,30MBEUM,30LAP,30VOM,30LOON,30PAA,30SOM,30RAQ,30NSHUOP,30NDUN," ++
  "30PUAE,30TAM,30NGKA,30KPEUX,30WUO,30SEE,30NGGEUAET,30PAAM,30TOO,30KUOP,30LOM,30NSHIEE,30NGOP,30MAEM,30NGKEUX"

def run16980 : String :=
  "00BAMUM LETTER PHASE-E NGOQ,30NSHUE,30RIMGBA,30NJEUX,30PEEM,30SAA,30NGGURAE,30MGBA,30GHEUX,30NGKEUAEM,30NJAEMLI," ++
  "30MAP,30LOOT,30NGGEEEE,30NDIQ,30TAEN NTEUM,30SET,30PUM,30NDAA SOFTNESS,30NGGUAESHAE NYAM,30YIEE,30GHEUN,30TUAE," ++
  "30YEUAE,30PO,30TUMAE,30KEUAE,30SUAEN,30TEUAEQ,30VEUAE,30WEUX,30LAAM,30PU,30TAAQ,30GHAAMAE,30NGEUREUT,30SHEUAEQ," ++
  "30MGBEN,30MBEE,30NZAQ,30NKOM,30GBET,30TUM,30KUET,30YAP,30NYI CLEAVER,30YIT,30MFEUQ,30NDIAQ,30PIEEQ,30YUEQ," ++
  "30LEUAEM,30FUE,30GBEUX,30NGKUP,30KET,30MAE,30NGKAAMI,30GHET,30FA,30NTUM,30PEUT,30YEUM,30NGGEUAE,30NYI BETWEEN," ++
  "30NZUQ,30POON,30MIEE,30FUET,30NAE,30MUAE,30GHEUAE,30FU I,30MVI,30PUAQ,30NGKUM,30KUT,30PIET,30NTAP,30YEUAET," ++
  "30NGGUP,30PA PEOPLE,30FU CALL,30FOM,30NJEE,30A,30TOQ,30O,30I,30LAQ,30PA PLURAL,30TAA,30TAQ,30NDAA MY HOUSE," ++
  "30SHIQ,30YEUX,30NGUAE,30YUAEN,30YOQ SWIMMING,40COVER,30YUQ,30YUN,30KEUX,30PEUX,30NJEE EPOCH,30PUE,30WUE,30FEE," ++
  "30VEE,30LU,30MI,30REUX,30RAE,30NGUAET,30NGA,30SHO,30SHOQ,30FU REMEDY,30NA,30PI,30LOQ,30KO,30MEN,30MA,30MAQ," ++
  "30TEU,30KI,30MON"

def run16a00 : String :=
  "00BAMUM LETTER PHASE-E TEN,30FAQ,30GHOM,20PHASE-F KA,30U,30KU,30EE,30REE,30TAE,30NYI,30LA,30RII,30RIEE,30MEEEE," ++
  "30TAA,30NDAA,30NJAEM,30M,30SUU,30SHII,30SI,30SEUX,30KYEE,30KET,30NUAE,30NU,30NJUAE,30YOQ,30SHU,30YA,30NSHA," ++
  "30PEUX,30NTEE,30WUE,30PEE,30RU,30NI,30REUX,30KEN,30NGKWAEN,30NGGA,30SHO,30PUAE,30FOM,30WA,30LI,30LOQ,30KO," ++
  "30MBEN,30REN,30MA,30MO,30MBAA,30TET,30KPA,30SAMBA,30VUEQ,,,,,,,,00MRO LETTER TA,20NGI,20YO,20MIM,20BA,20DA,20A," ++
  "20PHI,20KHAI,20HAO,20DAI,20CHU,20KEAAE,20OL,20MAEM,20NIN,20PA,20OO,20O,20RO,20SHI,20THEA,20EA,20WA,20E,20KO," ++
  "20LAN,20LA,20HAI,20RI,20TEK,,10DIGIT ZERO,20ONE,20TWO,20THREE,20FOUR,20FIVE,20SIX,20SEVEN,20EIGHT,20NINE,,,,," ++
  "10DANDA,11DOUBLE,00TANGSA LETTER OZ,20OC,20OQ,20OX,20AZ,20AC,20AQ,20AX,20VZ,20VC,20VQ,20VX,20EZ,20EC,20EQ,20EX"

def run16a80 : String :=
  "00TANGSA LETTER IZ,20IC,20IQ,20IX,20UZ,20UC,20UQ,20UX,20AWZ,20AWC,20AWQ,20AWX,20UIZ,20UIC,20UIQ,20UIX," ++
  "20FINAL NG,20LONG UEX,20SHORT UEZ,30AWX,20UEC,20UEZ,20UEQ,20UEX,20UIUZ,20UIUC,20UIUQ,20UIUX,20MZ,20MC,20MQ,20MX," ++
  "20KA,20KHA,20GA,20NGA,20SA,20YA,20WA,20PA,20NYA,20PHA,20BA,20MA,20NA,20HA,20LA,20HTA,20TA,20DA,20RA,20NHA,20SHA," ++
  "20CA,20TSA,20GHA,20HTTA,20THA,20XA,20FA,20DHA,20CHA,20ZA,,10DIGIT ZERO,20ONE,20TWO,20THREE,20FOUR,20FIVE,20SIX," ++
  "20SEVEN,20EIGHT,20NINE,,,,,,,00BASSA VAH LETTER ENNI,30KA,30SE,30FA,30MBE,30YIE,30GAH,30DHII,30KPAH,30JO,30HWAH," ++
  "30WA,30ZO,30GBU,30DO,30CE,30UWU,30TO,30BA,30VU,30YEIN,30PA,30WADDA,30A,30O,30OO,30U,30EE,30E,30I,,," ++
  "20COMBINING HIGH TONE,31LOW,31MID,31LOW-MID,31HIGH-LOW,20FULL STOP"

def run16b00 : String :=
  "00PAHAWH HMONG VOWEL KEEB,30KEEV,30KIB,30KIV,30KAUB,30KAUV,30KUB,30KUV,30KEB,30KEV,30KAIB,30KAIV,30KOOB,30KOOV," ++
  "30KAWB,30KAWV,30KUAB,30KUAV,30KOB,30KOV,30KIAB,30KIAV,30KAB,30KAV,30KWB,30KWV,30KAAB,30KAAV,20CONSONANT VAU," ++
  "30NTSAU,30LAU,30HAU,30NLAU,30RAU,30NKAU,30QHAU,30YAU,30HLAU,30MAU,30CHAU,30NCHAU,30HNAU,30PLHAU,30NTHAU,30NAU," ++
  "30AU,30XAU,30CAU,20MARK CIM TUB,40SO,40KES,40KHAV,40SUAM,40HOM,40TAUM,20SIGN VOS THOM,40TSHAB CEEB,30CIM CHEEM," ++
  "30VOS THIAB,40FEEM,30XYEEM NTXIV,40RHO,40TOV,40FAIB,30VOS SEEV,30MEEJ SUAB,30VOS NRUA,30IB YAM,30XAUS," ++
  "30CIM TSOV ROG,,,,,,,,,,,20DIGIT ZERO,30ONE,30TWO,30THREE,30FOUR,30FIVE,30SIX,30SEVEN,30EIGHT,30NINE,," ++
  "20NUMBER TENS,30HUNDREDS,30TEN THOUSANDS,30MILLIONS,31HUNDRED,30TEN BILLIONS,30TRILLIONS,,20SIGN VOS LUB,30XYOO," ++
  "30HLI,31THIRD-STAGE,30ZWJ THAJ,30HNUB,30NQIG,30XIAB,30NTUJ,30AV,30TXHEEJ CEEV,30MEEJ TSEEB,30TAU,30LOS,30MUS," ++
  "30CIM HAIS LUS NTOG NTOG,40CUAM TSHOOJ,40TXWV,50CHWV,40PUB DAWB,40NRES TOS,,,,,,20CLAN SIGN TSHEEJ,40YEEG,40LIS"

def run16b80 : String :=
  "00PAHAWH HMONG CLAN SIGN LAUJ,40XYOOJ,40KOO,40HAWJ,40MUAS,40THOJ,40TSAB,40PHAB,40KHAB,40HAM,40VAJ,40FAJ,40YAJ," ++
  "40TSWB,40KWM,40VWJ"

def run16e40 : String :=
  "00MEDEFAIDRIN CAPITAL LETTER M,30S,30V,30W,30ATIU,30Z,30KP,30P,30T,30G,30F,30I,30K,30A,30J,30E,30B,30C,30U,30YU," ++
  "30L,30Q,30HP,30NY,30X,30D,30OE,30N,30R,30O,30AI,30Y,10SMALL LETTER M,30S,30V,30W,30ATIU,30Z,30KP,30P,30T,30G," ++
  "30F,30I,30K,30A,30J,30E,30B,30C,30U,30YU,30L,30Q,30HP,30NY,30X,30D,30OE,30N,30R,30O,30AI,30Y,10DIGIT ZERO,20ONE," ++
  "20TWO,20THREE,20FOUR,20FIVE,20SIX,20SEVEN,20EIGHT,20NINE,10NUMBER TEN,20ELEVEN,20TWELVE,20THIRTEEN,20FOURTEEN," ++
  "20FIFTEEN,20SIXTEEN,20SEVENTEEN,20EIGHTEEN,20NINETEEN,10DIGIT ONE ALTERNATE FORM,22TWO,22THREE,10COMMA," ++
  "10FULL STOP,10SYMBOL AIVA,10EXCLAMATION OH"

def run16f00 : String :=
  "00MIAO LETTER PA,20BA,20YI PA,20PLA,20MA,20MHA,20ARCHAIC MA,20FA,20VA,20VFA,20TA,20DA,20YI TTA,30TA,20TTA,20DDA," ++
  "20NA,20NHA,20YI NNA,20ARCHAIC NA,20NNA,20NNHA,20LA,20LYA,20LHA,20LHYA,20TLHA,20DLHA,20TLHYA,20DLHYA,20KA,20GA," ++
  "20YI KA,20QA,20QGA,20NGA,20NGHA,20ARCHAIC NGA,20HA,20XA,20GHA,20GHHA,20TSSA,20DZZA,20NYA,20NYHA,20TSHA,20DZHA," ++
  "20YI TSHA,30DZHA,20REFORMED TSHA,20SHA,20SSA,20ZHA,20ZSHA,20TSA,20DZA,20YI TSA,20SA,20ZA,20ZSA,20ZZA,20ZZSA," ++
  "20ARCHAIC ZZA,20ZZYA,20ZZSYA,20WA,20AH,20HHA,20BRI,20SYI,20DZYI,20TE,20TSE,20RTE,,,,," ++
  "10SIGN CONSONANT MODIFIER BAR,10LETTER NASALIZATION,10SIGN ASPIRATION,20REFORMED VOICING,30ASPIRATION," ++
  "10VOWEL SIGN A,30AA,30AHH,30AN,30ANG,30O,30OO,30WO,30W,30E,30EN,30ENG,30OEY,30I,30IA,30IAN,30IANG,30IO,30IE," ++
  "30II,30IU,30ING,30U,30UA,30UAN,30UANG,30UU,30UEI,30UNG,30Y,30YI,30AE,30AEE,30ERR,31ROUNDED,30ER,31ROUNDED,30AI," ++
  "30EI,30AU,30OU,30N,30NG,30UOG"

def run16f80 : String :=
  "00MIAO VOWEL SIGN YUI,30OG,30OER,30VW,30IG,30EA,30IONG,30UI,,,,,,,,10TONE RIGHT,21TOP,20ABOVE,20BELOW," ++
  "10LETTER TONE-2,20TONE-3,20TONE-4,20TONE-5,20TONE-6,20TONE-7,20TONE-8,20REFORMED TONE-1,30TONE-2,30TONE-4," ++
  "30TONE-5,30TONE-6,30TONE-8"

def run16fe0 : String :=
  "00TANGUT ITERATION MARK,02NUSHU,01OLD CHINESE HOOK,21ITERATION,00KHITAN SMALL SCRIPT FILLER,,,,,,,,,,,," ++
  "00VIETNAMESE ALTERNATE READING MARK CA,40NHAY"

def run18800 : String :=
  "00TANGUT COMPONENT-001,10COMPONENT-002,10COMPONENT-003,10COMPONENT-004,10COMPONENT-005,10COMPONENT-006," ++
  "10COMPONENT-007,10COMPONENT-008,10COMPONENT-009,10COMPONENT-010,10COMPONENT-011,10COMPONENT-012,10COMPONENT-013," ++
  "10COMPONENT-014,10COMPONENT-015,10COMPONENT-016,10COMPONENT-017,10COMPONENT-018,10COMPONENT-019,10COMPONENT-020," ++
  "10COMPONENT-021,10COMPONENT-022,10COMPONENT-023,10COMPONENT-024,10COMPONENT-025,10COMPONENT-026,10COMPONENT-027," ++
  "10COMPONENT-028,10COMPONENT-029,10COMPONENT-030,10COMPONENT-031,10COMPONENT-032,10COMPONENT-033,10COMPONENT-034," ++
  "10COMPONENT-035,10COMPONENT-036,10COMPONENT-037,10COMPONENT-038,10COMPONENT-039,10COMPONENT-040,10COMPONENT-041," ++
  "10COMPONENT-042,10COMPONENT-043,10COMPONENT-044,10COMPONENT-045,10COMPONENT-046,10COMPONENT-047,10COMPONENT-048," ++
  "10COMPONENT-049,10COMPONENT-050,10COMPONENT-051,10COMPONENT-052,10COMPONENT-053,10COMPONENT-054,10COMPONENT-055," ++
  "10COMPONENT-056,10COMPONENT-057,10COMPONENT-058,10COMPONENT-059,10COMPONENT-060,10COMPONENT-061,10COMPONENT-062," ++
  "10COMPONENT-063,10COMPONENT-064,10COMPONENT-065,10COMPONENT-066,10COMPONENT-067,10COMPONENT-068,10COMPONENT-069," ++
  "10COMPONENT-070,10COMPONENT-071,10COMPONENT-072,10COMPONENT-073,10COMPONENT-074,10COMPONENT-075,10COMPONENT-076," ++
  "10COMPONENT-077,10COMPONENT-078,10COMPONENT-079,10COMPONENT-080,10COMPONENT-081,10COMPONENT-082,10COMPONENT-083," ++
  "10COMPONENT-084,10COMPONENT-085,10COMPONENT-086,10COMPONENT-087,10COMPONENT-088,10COMPONENT-089,10COMPONENT-090," ++
  "10COMPONENT-091,10COMPONENT-092,10COMPONENT-093,10COMPONENT-094,10COMPONENT-095,10COMPONENT-096,10COMPONENT-097," ++
  "10COMPONENT-098,10COMPONENT-099,10COMPONENT-100,10COMPONENT-101,10COMPONENT-102,10COMPONENT-103,10COMPONENT-104," ++
  "10COMPONENT-105,10COMPONENT-106,10COMPONENT-107,10COMPONENT-108,10COMPONENT-109,10COMPONENT-110,10COMPONENT-111," ++
  "10COMPONENT-112,10COMPONENT-113,10COMPONENT-114,10COMPONENT-115,10COMPONENT-116,10COMPONENT-117,10COMPONENT-118," ++
  "10COMPONENT-119,10COMPONENT-120,10COMPONENT-121,10COMPONENT-122,10COMPONENT-123,10COMPONENT-124,10COMPONENT-125," ++
  "10COMPONENT-126,10COMPONENT-127,10COMPONENT-128"

def run18880 : String :=
  "00TANGUT COMPONENT-129,10COMPONENT-130,10COMPONENT-131,10COMPONENT-132,10COMPONENT-133,10COMPONENT-134," ++
  "10COMPONENT-135,10COMPONENT-136,10COMPONENT-137,10COMPONENT-138,10COMPONENT-139,10COMPONENT-140,10COMPONENT-141," ++
  "10COMPONENT-142,10COMPONENT-143,10COMPONENT-144,10COMPONENT-145,10COMPONENT-146,10COMPONENT-147,10COMPONENT-148," ++
  "10COMPONENT-149,10COMPONENT-150,10COMPONENT-151,10COMPONENT-152,10COMPONENT-153,10COMPONENT-154,10COMPONENT-155," ++
  "10COMPONENT-156,10COMPONENT-157,10COMPONENT-158,10COMPONENT-159,10COMPONENT-160,10COMPONENT-161,10COMPONENT-162," ++
  "10COMPONENT-163,10COMPONENT-164,10COMPONENT-165,10COMPONENT-166,10COMPONENT-167,10COMPONENT-168,10COMPONENT-169," ++
  "10COMPONENT-170,10COMPONENT-171,10COMPONENT-172,10COMPONENT-173,10COMPONENT-174,10COMPONENT-175,10COMPONENT-176," ++
  "10COMPONENT-177,10COMPONENT-178,10COMPONENT-179,10COMPONENT-180,10COMPONENT-181,10COMPONENT-182,10COMPONENT-183," ++
  "10COMPONENT-184,10COMPONENT-185,10COMPONENT-186,10COMPONENT-187,10COMPONENT-188,10COMPONENT-189,10COMPONENT-190," ++
  "10COMPONENT-191,10COMPONENT-192,10COMPONENT-193,10COMPONENT-194,10COMPONENT-195,10COMPONENT-196,10COMPONENT-197," ++
  "10COMPONENT-198,10COMPONENT-199,10COMPONENT-200,10COMPONENT-201,10COMPONENT-202,10COMPONENT-203,10COMPONENT-204," ++
  "10COMPONENT-205,10COMPONENT-206,10COMPONENT-207,10COMPONENT-208,10COMPONENT-209,10COMPONENT-210,10COMPONENT-211," ++
  "10COMPONENT-212,10COMPONENT-213,10COMPONENT-214,10COMPONENT-215,10COMPONENT-216,10COMPONENT-217,10COMPONENT-218," ++
  "10COMPONENT-219,10COMPONENT-220,10COMPONENT-221,10COMPONENT-222,10COMPONENT-223,10COMPONENT-224,10COMPONENT-225," ++
  "10COMPONENT-226,10COMPONENT-227,10COMPONENT-228,10COMPONENT-229,10COMPONENT-230,10COMPONENT-231,10COMPONENT-232," ++
  "10COMPONENT-233,10COMPONENT-234,10COMPONENT-235,10COMPONENT-236,10COMPONENT-237,10COMPONENT-238,10COMPONENT-239," ++
  "10COMPONENT-240,10COMPONENT-241,10COMPONENT-242,10COMPONENT-243,10COMPONENT-244,10COMPONENT-245,10COMPONENT-246," ++
  "10COMPONENT-247,10COMPONENT-248,10COMPONENT-249,10COMPONENT-250,10COMPONENT-251,10COMPONENT-252,10COMPONENT-253," ++
  "10COMPONENT-254,10COMPONENT-255,10COMPONENT-256"

def run18900 : String :=
  "00TANGUT COMPONENT-257,10COMPONENT-258,10COMPONENT-259,10COMPONENT-260,10COMPONENT-261,10COMPONENT-262," ++
  "10COMPONENT-263,10COMPONENT-264,10COMPONENT-265,10COMPONENT-266,10COMPONENT-267,10COMPONENT-268,10COMPONENT-269," ++
  "10COMPONENT-270,10COMPONENT-271,10COMPONENT-272,10COMPONENT-273,10COMPONENT-274,10COMPONENT-275,10COMPONENT-276," ++
  "10COMPONENT-277,10COMPONENT-278,10COMPONENT-279,10COMPONENT-280,10COMPONENT-281,10COMPONENT-282,10COMPONENT-283," ++
  "10COMPONENT-284,10COMPONENT-285,10COMPONENT-286,10COMPONENT-287,10COMPONENT-288,10COMPONENT-289,10COMPONENT-290," ++
  "10COMPONENT-291,10COMPONENT-292,10COMPONENT-293,10COMPONENT-294,10COMPONENT-295,10COMPONENT-296,10COMPONENT-297," ++
  "10COMPONENT-298,10COMPONENT-299,10COMPONENT-300,10COMPONENT-301,10COMPONENT-302,10COMPONENT-303,10COMPONENT-304," ++
  "10COMPONENT-305,10COMPONENT-306,10COMPONENT-307,10COMPONENT-308,10COMPONENT-309,10COMPONENT-310,10COMPONENT-311," ++
  "10COMPONENT-312,10COMPONENT-313,10COMPONENT-314,10COMPONENT-315,10COMPONENT-316,10COMPONENT-317,10COMPONENT-318," ++
  "10COMPONENT-319,10COMPONENT-320,10COMPONENT-321,10COMPONENT-322,10COMPONENT-323,10COMPONENT-324,10COMPONENT-325," ++
  "10COMPONENT-326,10COMPONENT-327,10COMPONENT-328,10COMPONENT-329,10COMPONENT-330,10COMPONENT-331,10COMPONENT-332," ++
  "10COMPONENT-333,10COMPONENT-334,10COMPONENT-335,10COMPONENT-336,10COMPONENT-337,10COMPONENT-338,10COMPONENT-339," ++
  "10COMPONENT-340,10COMPONENT-341,10COMPONENT-342,10COMPONENT-343,10COMPONENT-344,10COMPONENT-345,10COMPONENT-346," ++
  "10COMPONENT-347,10COMPONENT-348,10COMPONENT-349,10COMPONENT-350,10COMPONENT-351,10COMPONENT-352,10COMPONENT-353," ++
  "10COMPONENT-354,10COMPONENT-355,10COMPONENT-356,10COMPONENT-357,10COMPONENT-358,10COMPONENT-359,10COMPONENT-360," ++
  "10COMPONENT-361,10COMPONENT-362,10COMPONENT-363,10COMPONENT-364,10COMPONENT-365,10COMPONENT-366,10COMPONENT-367," ++
  "10COMPONENT-368,10COMPONENT-369,10COMPONENT-370,10COMPONENT-371,10COMPONENT-372,10COMPONENT-373,10COMPONENT-374," ++
  "10COMPONENT-375,10COMPONENT-376,10COMPONENT-377,10COMPONENT-378,10COMPONENT-379,10COMPONENT-380,10COMPONENT-381," ++
  "10COMPONENT-382,10COMPONENT-383,10COMPONENT-384"

def run18980 : String :=
  "00TANGUT COMPONENT-385,10COMPONENT-386,10COMPONENT-387,10COMPONENT-388,10COMPONENT-389,10COMPONENT-390," ++
  "10COMPONENT-391,10COMPONENT-392,10COMPONENT-393,10COMPONENT-394,10COMPONENT-395,10COMPONENT-396,10COMPONENT-397," ++
  "10COMPONENT-398,10COMPONENT-399,10COMPONENT-400,10COMPONENT-401,10COMPONENT-402,10COMPONENT-403,10COMPONENT-404," ++
  "10COMPONENT-405,10COMPONENT-406,10COMPONENT-407,10COMPONENT-408,10COMPONENT-409,10COMPONENT-410,10COMPONENT-411," ++
  "10COMPONENT-412,10COMPONENT-413,10COMPONENT-414,10COMPONENT-415,10COMPONENT-416,10COMPONENT-417,10COMPONENT-418," ++
  "10COMPONENT-419,10COMPONENT-420,10COMPONENT-421,10COMPONENT-422,10COMPONENT-423,10COMPONENT-424,10COMPONENT-425," ++
  "10COMPONENT-426,10COMPONENT-427,10COMPONENT-428,10COMPONENT-429,10COMPONENT-430,10COMPONENT-431,10COMPONENT-432," ++
  "10COMPONENT-433,10COMPONENT-434,10COMPONENT-435,10COMPONENT-436,10COMPONENT-437,10COMPONENT-438,10COMPONENT-439," ++
  "10COMPONENT-440,10COMPONENT-441,10COMPONENT-442,10COMPONENT-443,10COMPONENT-444,10COMPONENT-445,10COMPONENT-446," ++
  "10COMPONENT-447,10COMPONENT-448,10COMPONENT-449,10COMPONENT-450,10COMPONENT-451,10COMPONENT-452,10COMPONENT-453," ++
  "10COMPONENT-454,10COMPONENT-455,10COMPONENT-456,10COMPONENT-457,10COMPONENT-458,10COMPONENT-459,10COMPONENT-460," ++
  "10COMPONENT-461,10COMPONENT-462,10COMPONENT-463,10COMPONENT-464,10COMPONENT-465,10COMPONENT-466,10COMPONENT-467," ++
  "10COMPONENT-468,10COMPONENT-469,10COMPONENT-470,10COMPONENT-471,10COMPONENT-472,10COMPONENT-473,10COMPONENT-474," ++
  "10COMPONENT-475,10COMPONENT-476,10COMPONENT-477,10COMPONENT-478,10COMPONENT-479,10COMPONENT-480,10COMPONENT-481," ++
  "10COMPONENT-482,10COMPONENT-483,10COMPONENT-484,10COMPONENT-485,10COMPONENT-486,10COMPONENT-487,10COMPONENT-488," ++
  "10COMPONENT-489,10COMPONENT-490,10COMPONENT-491,10COMPONENT-492,10COMPONENT-493,10COMPONENT-494,10COMPONENT-495," ++
  "10COMPONENT-496,10COMPONENT-497,10COMPONENT-498,10COMPONENT-499,10COMPONENT-500,10COMPONENT-501,10COMPONENT-502," ++
  "10COMPONENT-503,10COMPONENT-504,10COMPONENT-505,10COMPONENT-506,10COMPONENT-507,10COMPONENT-508,10COMPONENT-509," ++
  "10COMPONENT-510,10COMPONENT-511,10COMPONENT-512"

def run18a00 : String :=
  "00TANGUT COMPONENT-513,10COMPONENT-514,10COMPONENT-515,10COMPONENT-516,10COMPONENT-517,10COMPONENT-518," ++
  "10COMPONENT-519,10COMPONENT-520,10COMPONENT-521,10COMPONENT-522,10COMPONENT-523,10COMPONENT-524,10COMPONENT-525," ++
  "10COMPONENT-526,10COMPONENT-527,10COMPONENT-528,10COMPONENT-529,10COMPONENT-530,10COMPONENT-531,10COMPONENT-532," ++
  "10COMPONENT-533,10COMPONENT-534,10COMPONENT-535,10COMPONENT-536,10COMPONENT-537,10COMPONENT-538,10COMPONENT-539," ++
  "10COMPONENT-540,10COMPONENT-541,10COMPONENT-542,10COMPONENT-543,10COMPONENT-544,10COMPONENT-545,10COMPONENT-546," ++
  "10COMPONENT-547,10COMPONENT-548,10COMPONENT-549,10COMPONENT-550,10COMPONENT-551,10COMPONENT-552,10COMPONENT-553," ++
  "10COMPONENT-554,10COMPONENT-555,10COMPONENT-556,10COMPONENT-557,10COMPONENT-558,10COMPONENT-559,10COMPONENT-560," ++
  "10COMPONENT-561,10COMPONENT-562,10COMPONENT-563,10COMPONENT-564,10COMPONENT-565,10COMPONENT-566,10COMPONENT-567," ++
  "10COMPONENT-568,10COMPONENT-569,10COMPONENT-570,10COMPONENT-571,10COMPONENT-572,10COMPONENT-573,10COMPONENT-574," ++
  "10COMPONENT-575,10COMPONENT-576,10COMPONENT-577,10COMPONENT-578,10COMPONENT-579,10COMPONENT-580,10COMPONENT-581," ++
  "10COMPONENT-582,10COMPONENT-583,10COMPONENT-584,10COMPONENT-585,10COMPONENT-586,10COMPONENT-587,10COMPONENT-588," ++
  "10COMPONENT-589,10COMPONENT-590,10COMPONENT-591,10COMPONENT-592,10COMPONENT-593,10COMPONENT-594,10COMPONENT-595," ++
  "10COMPONENT-596,10COMPONENT-597,10COMPONENT-598,10COMPONENT-599,10COMPONENT-600,10COMPONENT-601,10COMPONENT-602," ++
  "10COMPONENT-603,10COMPONENT-604,10COMPONENT-605,10COMPONENT-606,10COMPONENT-607,10COMPONENT-608,10COMPONENT-609," ++
  "10COMPONENT-610,10COMPONENT-611,10COMPONENT-612,10COMPONENT-613,10COMPONENT-614,10COMPONENT-615,10COMPONENT-616," ++
  "10COMPONENT-617,10COMPONENT-618,10COMPONENT-619,10COMPONENT-620,10COMPONENT-621,10COMPONENT-622,10COMPONENT-623," ++
  "10COMPONENT-624,10COMPONENT-625,10COMPONENT-626,10COMPONENT-627,10COMPONENT-628,10COMPONENT-629,10COMPONENT-630," ++
  "10COMPONENT-631,10COMPONENT-632,10COMPONENT-633,10COMPONENT-634,10COMPONENT-635,10COMPONENT-636,10COMPONENT-637," ++
  "10COMPONENT-638,10COMPONENT-639,10COMPONENT-640"

def run18a80 : String :=
  "00TANGUT COMPONENT-641,10COMPONENT-642,10COMPONENT-643,10COMPONENT-644,10COMPONENT-645,10COMPONENT-646," ++
  "10COMPONENT-647,10COMPONENT-648,10COMPONENT-649,10COMPONENT-650,10COMPONENT-651,10COMPONENT-652,10COMPONENT-653," ++
  "10COMPONENT-654,10COMPONENT-655,10COMPONENT-656,10COMPONENT-657,10COMPONENT-658,10COMPONENT-659,10COMPONENT-660," ++
  "10COMPONENT-661,10COMPONENT-662,10COMPONENT-663,10COMPONENT-664,10COMPONENT-665,10COMPONENT-666,10COMPONENT-667," ++
  "10COMPONENT-668,10COMPONENT-669,10COMPONENT-670,10COMPONENT-671,10COMPONENT-672,10COMPONENT-673,10COMPONENT-674," ++
  "10COMPONENT-675,10COMPONENT-676,10COMPONENT-677,10COMPONENT-678,10COMPONENT-679,10COMPONENT-680,10COMPONENT-681," ++
  "10COMPONENT-682,10COMPONENT-683,10COMPONENT-684,10COMPONENT-685,10COMPONENT-686,10COMPONENT-687,10COMPONENT-688," ++
  "10COMPONENT-689,10COMPONENT-690,10COMPONENT-691,10COMPONENT-692,10COMPONENT-693,10COMPONENT-694,10COMPONENT-695," ++
  "10COMPONENT-696,10COMPONENT-697,10COMPONENT-698,10COMPONENT-699,10COMPONENT-700,10COMPONENT-701,10COMPONENT-702," ++
  "10COMPONENT-703,10COMPONENT-704,10COMPONENT-705,10COMPONENT-706,10COMPONENT-707,10COMPONENT-708,10COMPONENT-709," ++
  "10COMPONENT-710,10COMPONENT-711,10COMPONENT-712,10COMPONENT-713,10COMPONENT-714,10COMPONENT-715,10COMPONENT-716," ++
  "10COMPONENT-717,10COMPONENT-718,10COMPONENT-719,10COMPONENT-720,10COMPONENT-721,10COMPONENT-722,10COMPONENT-723," ++
  "10COMPONENT-724,10COMPONENT-725,10COMPONENT-726,10COMPONENT-727,10COMPONENT-728,10COMPONENT-729,10COMPONENT-730," ++
  "10COMPONENT-731,10COMPONENT-732,10COMPONENT-733,10COMPONENT-734,10COMPONENT-735,10COMPONENT-736,10COMPONENT-737," ++
  "10COMPONENT-738,10COMPONENT-739,10COMPONENT-740,10COMPONENT-741,10COMPONENT-742,10COMPONENT-743,10COMPONENT-744," ++
  "10COMPONENT-745,10COMPONENT-746,10COMPONENT-747,10COMPONENT-748,10COMPONENT-749,10COMPONENT-750,10COMPONENT-751," ++
  "10COMPONENT-752,10COMPONENT-753,10COMPONENT-754,10COMPONENT-755,10COMPONENT-756,10COMPONENT-757,10COMPONENT-758," ++
  "10COMPONENT-759,10COMPONENT-760,10COMPONENT-761,10COMPONENT-762,10COMPONENT-763,10COMPONENT-764,10COMPONENT-765," ++
  "10COMPONENT-766,10COMPONENT-767,10COMPONENT-768"

def run18b00 : String :=
  "00KHITAN SMALL SCRIPT CHARACTER-18B00,30CHARACTER-18B01,30CHARACTER-18B02,30CHARACTER-18B03,30CHARACTER-18B04," ++
  "30CHARACTER-18B05,30CHARACTER-18B06,30CHARACTER-18B07,30CHARACTER-18B08,30CHARACTER-18B09,30CHARACTER-18B0A," ++
  "30CHARACTER-18B0B,30CHARACTER-18B0C,30CHARACTER-18B0D,30CHARACTER-18B0E,30CHARACTER-18B0F,30CHARACTER-18B10," ++
  "30CHARACTER-18B11,30CHARACTER-18B12,30CHARACTER-18B13,30CHARACTER-18B14,30CHARACTER-18B15,30CHARACTER-18B16," ++
  "30CHARACTER-18B17,30CHARACTER-18B18,30CHARACTER-18B19,30CHARACTER-18B1A,30CHARACTER-18B1B,30CHARACTER-18B1C," ++
  "30CHARACTER-18B1D,30CHARACTER-18B1E,30CHARACTER-18B1F,30CHARACTER-18B20,30CHARACTER-18B21,30CHARACTER-18B22," ++
  "30CHARACTER-18B23,30CHARACTER-18B24,30CHARACTER-18B25,30CHARACTER-18B26,30CHARACTER-18B27,30CHARACTER-18B28," ++
  "30CHARACTER-18B29,30CHARACTER-18B2A,30CHARACTER-18B2B,30CHARACTER-18B2C,30CHARACTER-18B2D,30CHARACTER-18B2E," ++
  "30CHARACTER-18B2F,30CHARACTER-18B30,30CHARACTER-18B31,30CHARACTER-18B32,30CHARACTER-18B33,30CHARACTER-18B34," ++
  "30CHARACTER-18B35,30CHARACTER-18B36,30CHARACTER-18B37,30CHARACTER-18B38,30CHARACTER-18B39,30CHARACTER-18B3A," ++
  "30CHARACTER-18B3B,30CHARACTER-18B3C,30CHARACTER-18B3D,30CHARACTER-18B3E,30CHARACTER-18B3F,30CHARACTER-18B40," ++
  "30CHARACTER-18B41,30CHARACTER-18B42,30CHARACTER-18B43,30CHARACTER-18B44,30CHARACTER-18B45,30CHARACTER-18B46," ++
  "30CHARACTER-18B47,30CHARACTER-18B48,30CHARACTER-18B49,30CHARACTER-18B4A,30CHARACTER-18B4B,30CHARACTER-18B4C," ++
  "30CHARACTER-18B4D,30CHARACTER-18B4E,30CHARACTER-18B4F,30CHARACTER-18B50,30CHARACTER-18B51,30CHARACTER-18B52," ++
  "30CHARACTER-18B53,30CHARACTER-18B54,30CHARACTER-18B55,30CHARACTER-18B56,30CHARACTER-18B57,30CHARACTER-18B58," ++
  "30CHARACTER-18B59,30CHARACTER-18B5A,30CHARACTER-18B5B,30CHARACTER-18B5C,30CHARACTER-18B5D,30CHARACTER-18B5E," ++
  "30CHARACTER-18B5F,30CHARACTER-18B60,30CHARACTER-18B61,30CHARACTER-18B62,30CHARACTER-18B63,30CHARACTER-18B64," ++
  "30CHARACTER-18B65,30CHARACTER-18B66,30CHARACTER-18B67,30CHARACTER-18B68,30CHARACTER-18B69,30CHARACTER-18B6A," ++
  "30CHARACTER-18B6B,30CHARACTER-18B6C,30CHARACTER-18B6D,30CHARACTER-18B6E,30CHARACTER-18B6F,30CHARACTER-18B70," ++
  "30CHARACTER-18B71,30CHARACTER-18B72,30CHARACTER-18B73,30CHARACTER-18B74,30CHARACTER-18B75,30CHARACTER-18B76," ++
  "30CHARACTER-18B77,30CHARACTER-18B78,30CHARACTER-18B79,30CHARACTER-18B7A,30CHARACTER-18B7B,30CHARACTER-18B7C," ++
  "30CHARACTER-18B7D,30CHARACTER-18B7E,30CHARACTER-18B7F"

def run18b80 : String :=
  "00KHITAN SMALL SCRIPT CHARACTER-18B80,30CHARACTER-18B81,30CHARACTER-18B82,30CHARACTER-18B83,30CHARACTER-18B84," ++
  "30CHARACTER-18B85,30CHARACTER-18B86,30CHARACTER-18B87,30CHARACTER-18B88,30CHARACTER-18B89,30CHARACTER-18B8A," ++
  "30CHARACTER-18B8B,30CHARACTER-18B8C,30CHARACTER-18B8D,30CHARACTER-18B8E,30CHARACTER-18B8F,30CHARACTER-18B90," ++
  "30CHARACTER-18B91,30CHARACTER-18B92,30CHARACTER-18B93,30CHARACTER-18B94,30CHARACTER-18B95,30CHARACTER-18B96," ++
  "30CHARACTER-18B97,30CHARACTER-18B98,30CHARACTER-18B99,30CHARACTER-18B9A,30CHARACTER-18B9B,30CHARACTER-18B9C," ++
  "30CHARACTER-18B9D,30CHARACTER-18B9E,30CHARACTER-18B9F,30CHARACTER-18BA0,30CHARACTER-18BA1,30CHARACTER-18BA2," ++
  "30CHARACTER-18BA3,30CHARACTER-18BA4,30CHARACTER-18BA5,30CHARACTER-18BA6,30CHARACTER-18BA7,30CHARACTER-18BA8," ++
  "30CHARACTER-18BA9,30CHARACTER-18BAA,30CHARACTER-18BAB,30CHARACTER-18BAC,30CHARACTER-18BAD,30CHARACTER-18BAE," ++
  "30CHARACTER-18BAF,30CHARACTER-18BB0,30CHARACTER-18BB1,30CHARACTER-18BB2,30CHARACTER-18BB3,30CHARACTER-18BB4," ++
  "30CHARACTER-18BB5,30CHARACTER-18BB6,30CHARACTER-18BB7,30CHARACTER-18BB8,30CHARACTER-18BB9,30CHARACTER-18BBA," ++
  "30CHARACTER-18BBB,30CHARACTER-18BBC,30CHARACTER-18BBD,30CHARACTER-18BBE,30CHARACTER-18BBF,30CHARACTER-18BC0," ++
  "30CHARACTER-18BC1,30CHARACTER-18BC2,30CHARACTER-18BC3,30CHARACTER-18BC4,30CHARACTER-18BC5,30CHARACTER-18BC6," ++
  "30CHARACTER-18BC7,30CHARACTER-18BC8,30CHARACTER-18BC9,30CHARACTER-18BCA,30CHARACTER-18BCB,30CHARACTER-18BCC," ++
  "30CHARACTER-18BCD,30CHARACTER-18BCE,30CHARACTER-18BCF,30CHARACTER-18BD0,30CHARACTER-18BD1,30CHARACTER-18BD2," ++
  "30CHARACTER-18BD3,30CHARACTER-18BD4,30CHARACTER-18BD5,30CHARACTER-18BD6,30CHARACTER-18BD7,30CHARACTER-18BD8," ++
  "30CHARACTER-18BD9,30CHARACTER-18BDA,30CHARACTER-18BDB,30CHARACTER-18BDC,30CHARACTER-18BDD,30CHARACTER-18BDE," ++
  "30CHARACTER-18BDF,30CHARACTER-18BE0,30CHARACTER-18BE1,30CHARACTER-18BE2,30CHARACTER-18BE3,30CHARACTER-18BE4," ++
  "30CHARACTER-18BE5,30CHARACTER-18BE6,30CHARACTER-18BE7,30CHARACTER-18BE8,30CHARACTER-18BE9,30CHARACTER-18BEA," ++
  "30CHARACTER-18BEB,30CHARACTER-18BEC,30CHARACTER-18BED,30CHARACTER-18BEE,30CHARACTER-18BEF,30CHARACTER-18BF0," ++
  "30CHARACTER-18BF1,30CHARACTER-18BF2,30CHARACTER-18BF3,30CHARACTER-18BF4,30CHARACTER-18BF5,30CHARACTER-18BF6," ++
  "30CHARACTER-18BF7,30CHARACTER-18BF8,30CHARACTER-18BF9,30CHARACTER-18BFA,30CHARACTER-18BFB,30CHARACTER-18BFC," ++
  "30CHARACTER-18BFD,30CHARACTER-18BFE,30CHARACTER-18BFF"

def run18c00 : String :=
  "00KHITAN SMALL SCRIPT CHARACTER-18C00,30CHARACTER-18C01,30CHARACTER-18C02,30CHARACTER-18C03,30CHARACTER-18C04," ++
  "30CHARACTER-18C05,30CHARACTER-18C06,30CHARACTER-18C07,30CHARACTER-18C08,30CHARACTER-18C09,30CHARACTER-18C0A," ++
  "30CHARACTER-18C0B,30CHARACTER-18C0C,30CHARACTER-18C0D,30CHARACTER-18C0E,30CHARACTER-18C0F,30CHARACTER-18C10," ++
  "30CHARACTER-18C11,30CHARACTER-18C12,30CHARACTER-18C13,30CHARACTER-18C14,30CHARACTER-18C15,30CHARACTER-18C16," ++
  "30CHARACTER-18C17,30CHARACTER-18C18,30CHARACTER-18C19,30CHARACTER-18C1A,30CHARACTER-18C1B,30CHARACTER-18C1C," ++
  "30CHARACTER-18C1D,30CHARACTER-18C1E,30CHARACTER-18C1F,30CHARACTER-18C20,30CHARACTER-18C21,30CHARACTER-18C22," ++
  "30CHARACTER-18C23,30CHARACTER-18C24,30CHARACTER-18C25,30CHARACTER-18C26,30CHARACTER-18C27,30CHARACTER-18C28," ++
  "30CHARACTER-18C29,30CHARACTER-18C2A,30CHARACTER-18C2B,30CHARACTER-18C2C,30CHARACTER-18C2D,30CHARACTER-18C2E," ++
  "30CHARACTER-18C2F,30CHARACTER-18C30,30CHARACTER-18C31,30CHARACTER-18C32,30CHARACTER-18C33,30CHARACTER-18C34," ++
  "30CHARACTER-18C35,30CHARACTER-18C36,30CHARACTER-18C37,30CHARACTER-18C38,30CHARACTER-18C39,30CHARACTER-18C3A," ++
  "30CHARACTER-18C3B,30CHARACTER-18C3C,30CHARACTER-18C3D,30CHARACTER-18C3E,30CHARACTER-18C3F,30CHARACTER-18C40," ++
  "30CHARACTER-18C41,30CHARACTER-18C42,30CHARACTER-18C43,30CHARACTER-18C44,30CHARACTER-18C45,30CHARACTER-18C46," ++
  "30CHARACTER-18C47,30CHARACTER-18C48,30CHARACTER-18C49,30CHARACTER-18C4A,30CHARACTER-18C4B,30CHARACTER-18C4C," ++
  "30CHARACTER-18C4D,30CHARACTER-18C4E,30CHARACTER-18C4F,30CHARACTER-18C50,30CHARACTER-18C51,30CHARACTER-18C52," ++
  "30CHARACTER-18C53,30CHARACTER-18C54,30CHARACTER-18C55,30CHARACTER-18C56,30CHARACTER-18C57,30CHARACTER-18C58," ++
  "30CHARACTER-18C59,30CHARACTER-18C5A,30CHARACTER-18C5B,30CHARACTER-18C5C,30CHARACTER-18C5D,30CHARACTER-18C5E," ++
  "30CHARACTER-18C5F,30CHARACTER-18C60,30CHARACTER-18C61,30CHARACTER-18C62,30CHARACTER-18C63,30CHARACTER-18C64," ++
  "30CHARACTER-18C65,30CHARACTER-18C66,30CHARACTER-18C67,30CHARACTER-18C68,30CHARACTER-18C69,30CHARACTER-18C6A," ++
  "30CHARACTER-18C6B,30CHARACTER-18C6C,30CHARACTER-18C6D,30CHARACTER-18C6E,30CHARACTER-18C6F,30CHARACTER-18C70," ++
  "30CHARACTER-18C71,30CHARACTER-18C72,30CHARACTER-18C73,30CHARACTER-18C74,30CHARACTER-18C75,30CHARACTER-18C76," ++
  "30CHARACTER-18C77,30CHARACTER-18C78,30CHARACTER-18C79,30CHARACTER-18C7A,30CHARACTER-18C7B,30CHARACTER-18C7C," ++
  "30CHARACTER-18C7D,30CHARACTER-18C7E,30CHARACTER-18C7F"

def run18c80 : String :=
  "00KHITAN SMALL SCRIPT CHARACTER-18C80,30CHARACTER-18C81,30CHARACTER-18C82,30CHARACTER-18C83,30CHARACTER-18C84," ++
  "30CHARACTER-18C85,30CHARACTER-18C86,30CHARACTER-18C87,30CHARACTER-18C88,30CHARACTER-18C89,30CHARACTER-18C8A," ++
  "30CHARACTER-18C8B,30CHARACTER-18C8C,30CHARACTER-18C8D,30CHARACTER-18C8E,30CHARACTER-18C8F,30CHARACTER-18C90," ++
  "30CHARACTER-18C91,30CHARACTER-18C92,30CHARACTER-18C93,30CHARACTER-18C94,30CHARACTER-18C95,30CHARACTER-18C96," ++
  "30CHARACTER-18C97,30CHARACTER-18C98,30CHARACTER-18C99,30CHARACTER-18C9A,30CHARACTER-18C9B,30CHARACTER-18C9C," ++
  "30CHARACTER-18C9D,30CHARACTER-18C9E,30CHARACTER-18C9F,30CHARACTER-18CA0,30CHARACTER-18CA1,30CHARACTER-18CA2," ++
  "30CHARACTER-18CA3,30CHARACTER-18CA4,30CHARACTER-18CA5,30CHARACTER-18CA6,30CHARACTER-18CA7,30CHARACTER-18CA8," ++
  "30CHARACTER-18CA9,30CHARACTER-18CAA,30CHARACTER-18CAB,30CHARACTER-18CAC,30CHARACTER-18CAD,30CHARACTER-18CAE," ++
  "30CHARACTER-18CAF,30CHARACTER-18CB0,30CHARACTER-18CB1,30CHARACTER-18CB2,30CHARACTER-18CB3,30CHARACTER-18CB4," ++
  "30CHARACTER-18CB5,30CHARACTER-18CB6,30CHARACTER-18CB7,30CHARACTER-18CB8,30CHARACTER-18CB9,30CHARACTER-18CBA," ++
  "30CHARACTER-18CBB,30CHARACTER-18CBC,30CHARACTER-18CBD,30CHARACTER-18CBE,30CHARACTER-18CBF,30CHARACTER-18CC0," ++
  "30CHARACTER-18CC1,30CHARACTER-18CC2,30CHARACTER-18CC3,30CHARACTER-18CC4,30CHARACTER-18CC5,30CHARACTER-18CC6," ++
  "30CHARACTER-18CC7,30CHARACTER-18CC8,30CHARACTER-18CC9,30CHARACTER-18CCA,30CHARACTER-18CCB,30CHARACTER-18CCC," ++
  "30CHARACTER-18CCD,30CHARACTER-18CCE,30CHARACTER-18CCF,30CHARACTER-18CD0,30CHARACTER-18CD1,30CHARACTER-18CD2," ++
  "30CHARACTER-18CD3,30CHARACTER-18CD4,30CHARACTER-18CD5"

def run1aff0 : String :=
  "00KATAKANA LETTER MINNAN TONE-2,30TONE-3,30TONE-4,30TONE-5,,30TONE-7,30TONE-8,30NASALIZED TONE-1,40TONE-2," ++
  "40TONE-3,40TONE-4,40TONE-5,,40TONE-7,40TONE-8,,20ARCHAIC E,00HIRAGANA LETTER ARCHAIC YE,00HENTAIGANA LETTER A-1," ++
  "20A-2,20A-3,20A-WO,20I-1,20I-2,20I-3,20I-4,20U-1,20U-2,20U-3,20U-4,20U-5,20E-2,20E-3,20E-4,20E-5,20E-6,20O-1," ++
  "20O-2,20O-3,20KA-1,20KA-2,20KA-3,20KA-4,20KA-5,20KA-6,20KA-7,20KA-8,20KA-9,20KA-10,20KA-11,20KA-KE,20KI-1," ++
  "20KI-2,20KI-3,20KI-4,20KI-5,20KI-6,20KI-7,20KI-8,20KU-1,20KU-2,20KU-3,20KU-4,20KU-5,20KU-6,20KU-7,20KE-1,20KE-2," ++
  "20KE-3,20KE-4,20KE-5,20KE-6,20KO-1,20KO-2,20KO-3,20KO-KI,20SA-1,20SA-2,20SA-3,20SA-4,20SA-5,20SA-6,20SA-7," ++
  "20SA-8,20SI-1,20SI-2,20SI-3,20SI-4,20SI-5,20SI-6,20SU-1,20SU-2,20SU-3,20SU-4,20SU-5,20SU-6,20SU-7,20SU-8,20SE-1," ++
  "20SE-2,20SE-3,20SE-4,20SE-5,20SO-1,20SO-2,20SO-3,20SO-4,20SO-5,20SO-6,20SO-7,20TA-1,20TA-2,20TA-3,20TA-4,20TI-1," ++
  "20TI-2,20TI-3,20TI-4,20TI-5,20TI-6,20TI-7,20TU-1,20TU-2,20TU-3,20TU-4,20TU-TO,20TE-1,20TE-2,20TE-3,20TE-4," ++
  "20TE-5,20TE-6,20TE-7,20TE-8,20TE-9,20TO-1,20TO-2,20TO-3,20TO-4,20TO-5,20TO-6,20TO-RA,20NA-1,20NA-2"

def run1b080 : String :=
  "00HENTAIGANA LETTER NA-3,20NA-4,20NA-5,20NA-6,20NA-7,20NA-8,20NA-9,20NI-1,20NI-2,20NI-3,20NI-4,20NI-5,20NI-6," ++
  "20NI-7,20NI-TE,20NU-1,20NU-2,20NU-3,20NE-1,20NE-2,20NE-3,20NE-4,20NE-5,20NE-6,20NE-KO,20NO-1,20NO-2,20NO-3," ++
  "20NO-4,20NO-5,20HA-1,20HA-2,20HA-3,20HA-4,20HA-5,20HA-6,20HA-7,20HA-8,20HA-9,20HA-10,20HA-11,20HI-1,20HI-2," ++
  "20HI-3,20HI-4,20HI-5,20HI-6,20HI-7,20HU-1,20HU-2,20HU-3,20HE-1,20HE-2,20HE-3,20HE-4,20HE-5,20HE-6,20HE-7,20HO-1," ++
  "20HO-2,20HO-3,20HO-4,20HO-5,20HO-6,20HO-7,20HO-8,20MA-1,20MA-2,20MA-3,20MA-4,20MA-5,20MA-6,20MA-7,20MI-1,20MI-2," ++
  "20MI-3,20MI-4,20MI-5,20MI-6,20MI-7,20MU-1,20MU-2,20MU-3,20MU-4,20ME-1,20ME-2,20ME-MA,20MO-1,20MO-2,20MO-3," ++
  "20MO-4,20MO-5,20MO-6,20YA-1,20YA-2,20YA-3,20YA-4,20YA-5,20YA-YO,20YU-1,20YU-2,20YU-3,20YU-4,20YO-1,20YO-2," ++
  "20YO-3,20YO-4,20YO-5,20YO-6,20RA-1,20RA-2,20RA-3,20RA-4,20RI-1,20RI-2,20RI-3,20RI-4,20RI-5,20RI-6,20RI-7,20RU-1," ++
  "20RU-2,20RU-3,20RU-4,20RU-5,20RU-6,20RE-1,20RE-2"

def run1b100 : String :=
  "00HENTAIGANA LETTER RE-3,20RE-4,20RO-1,20RO-2,20RO-3,20RO-4,20RO-5,20RO-6,20WA-1,20WA-2,20WA-3,20WA-4,20WA-5," ++
  "20WI-1,20WI-2,20WI-3,20WI-4,20WI-5,20WE-1,20WE-2,20WE-3,20WE-4,20WO-1,20WO-2,20WO-3,20WO-4,20WO-5,20WO-6,20WO-7," ++
  "20N-MU-MO-1,20N-MU-MO-2,00HIRAGANA LETTER ARCHAIC WU,00KATAKANA LETTER ARCHAIC YI,30YE,30WU"

def run1b150 : String :=
  "00HIRAGANA LETTER SMALL WI,30WE,30WO"

def run1b164 : String :=
  "00KATAKANA LETTER SMALL WI,30WE,30WO,30N,,,,,,,,,00NUSHU CHARACTER-1B170,10CHARACTER-1B171,10CHARACTER-1B172," ++
  "10CHARACTER-1B173,10CHARACTER-1B174,10CHARACTER-1B175,10CHARACTER-1B176,10CHARACTER-1B177,10CHARACTER-1B178," ++
  "10CHARACTER-1B179,10CHARACTER-1B17A,10CHARACTER-1B17B,10CHARACTER-1B17C,10CHARACTER-1B17D,10CHARACTER-1B17E," ++
  "10CHARACTER-1B17F,10CHARACTER-1B180,10CHARACTER-1B181,10CHARACTER-1B182,10CHARACTER-1B183,10CHARACTER-1B184," ++
  "10CHARACTER-1B185,10CHARACTER-1B186,10CHARACTER-1B187,10CHARACTER-1B188,10CHARACTER-1B189,10CHARACTER-1B18A," ++
  "10CHARACTER-1B18B,10CHARACTER-1B18C,10CHARACTER-1B18D,10CHARACTER-1B18E,10CHARACTER-1B18F,10CHARACTER-1B190," ++
  "10CHARACTER-1B191,10CHARACTER-1B192,10CHARACTER-1B193,10CHARACTER-1B194,10CHARACTER-1B195,10CHARACTER-1B196," ++
  "10CHARACTER-1B197,10CHARACTER-1B198,10CHARACTER-1B199,10CHARACTER-1B19A,10CHARACTER-1B19B,10CHARACTER-1B19C," ++
  "10CHARACTER-1B19D,10CHARACTER-1B19E,10CHARACTER-1B19F,10CHARACTER-1B1A0,10CHARACTER-1B1A1,10CHARACTER-1B1A2," ++
  "10CHARACTER-1B1A3,10CHARACTER-1B1A4,10CHARACTER-1B1A5,10CHARACTER-1B1A6,10CHARACTER-1B1A7,10CHARACTER-1B1A8," ++
  "10CHARACTER-1B1A9,10CHARACTER-1B1AA,10CHARACTER-1B1AB,10CHARACTER-1B1AC,10CHARACTER-1B1AD,10CHARACTER-1B1AE," ++
  "10CHARACTER-1B1AF,10CHARACTER-1B1B0,10CHARACTER-1B1B1,10CHARACTER-1B1B2,10CHARACTER-1B1B3,10CHARACTER-1B1B4," ++
  "10CHARACTER-1B1B5,10CHARACTER-1B1B6,10CHARACTER-1B1B7,10CHARACTER-1B1B8,10CHARACTER-1B1B9,10CHARACTER-1B1BA," ++
  "10CHARACTER-1B1BB,10CHARACTER-1B1BC,10CHARACTER-1B1BD,10CHARACTER-1B1BE,10CHARACTER-1B1BF,10CHARACTER-1B1C0," ++
  "10CHARACTER-1B1C1,10CHARACTER-1B1C2,10CHARACTER-1B1C3,10CHARACTER-1B1C4,10CHARACTER-1B1C5,10CHARACTER-1B1C6," ++
  "10CHARACTER-1B1C7,10CHARACTER-1B1C8,10CHARACTER-1B1C9,10CHARACTER-1B1CA,10CHARACTER-1B1CB,10CHARACTER-1B1CC," ++
  "10CHARACTER-1B1CD,10CHARACTER-1B1CE,10CHARACTER-1B1CF,10CHARACTER-1B1D0,10CHARACTER-1B1D1,10CHARACTER-1B1D2," ++
  "10CHARACTER-1B1D3,10CHARACTER-1B1D4,10CHARACTER-1B1D5,10CHARACTER-1B1D6,10CHARACTER-1B1D7,10CHARACTER-1B1D8," ++
  "10CHARACTER-1B1D9,10CHARACTER-1B1DA,10CHARACTER-1B1DB,10CHARACTER-1B1DC,10CHARACTER-1B1DD,10CHARACTER-1B1DE," ++
  "10CHARACTER-1B1DF,10CHARACTER-1B1E0,10CHARACTER-1B1E1,10CHARACTER-1B1E2,10CHARACTER-1B1E3,10CHARACTER-1B1E4," ++
  "10CHARACTER-1B1E5,10CHARACTER-1B1E6,10CHARACTER-1B1E7,10CHARACTER-1B1E8,10CHARACTER-1B1E9,10CHARACTER-1B1EA," ++
  "10CHARACTER-1B1EB,10CHARACTER-1B1EC,10CHARACTER-1B1ED,10CHARACTER-1B1EE,10CHARACTER-1B1EF,10CHARACTER-1B1F0," ++
  "10CHARACTER-1B1F1,10CHARACTER-1B1F2,10CHARACTER-1B1F3,10CHARACTER-1B1F4,10CHARACTER-1B1F5,10CHARACTER-1B1F6," ++
  "10CHARACTER-1B1F7,10CHARACTER-1B1F8,10CHARACTER-1B1F9,10CHARACTER-1B1FA,10CHARACTER-1B1FB,10CHARACTER-1B1FC," ++
  "10CHARACTER-1B1FD,10CHARACTER-1B1FE,10CHARACTER-1B1FF"

def run1b200 : String :=
  "00NUSHU CHARACTER-1B200,10CHARACTER-1B201,10CHARACTER-1B202,10CHARACTER-1B203,10CHARACTER-1B204," ++
  "10CHARACTER-1B205,10CHARACTER-1B206,10CHARACTER-1B207,10CHARACTER-1B208,10CHARACTER-1B209,10CHARACTER-1B20A," ++
  "10CHARACTER-1B20B,10CHARACTER-1B20C,10CHARACTER-1B20D,10CHARACTER-1B20E,10CHARACTER-1B20F,10CHARACTER-1B210," ++
  "10CHARACTER-1B211,10CHARACTER-1B212,10CHARACTER-1B213,10CHARACTER-1B214,10CHARACTER-1B215,10CHARACTER-1B216," ++
  "10CHARACTER-1B217,10CHARACTER-1B218,10CHARACTER-1B219,10CHARACTER-1B21A,10CHARACTER-1B21B,10CHARACTER-1B21C," ++
  "10CHARACTER-1B21D,10CHARACTER-1B21E,10CHARACTER-1B21F,10CHARACTER-1B220,10CHARACTER-1B221,10CHARACTER-1B222," ++
  "10CHARACTER-1B223,10CHARACTER-1B224,10CHARACTER-1B225,10CHARACTER-1B226,10CHARACTER-1B227,10CHARACTER-1B228," ++
  "10CHARACTER-1B229,10CHARACTER-1B22A,10CHARACTER-1B22B,10CHARACTER-1B22C,10CHARACTER-1B22D,10CHARACTER-1B22E," ++
  "10CHARACTER-1B22F,10CHARACTER-1B230,10CHARACTER-1B231,10CHARACTER-1B232,10CHARACTER-1B233,10CHARACTER-1B234," ++
  "10CHARACTER-1B235,10CHARACTER-1B236,10CHARACTER-1B237,10CHARACTER-1B238,10CHARACTER-1B239,10CHARACTER-1B23A," ++
  "10CHARACTER-1B23B,10CHARACTER-1B23C,10CHARACTER-1B23D,10CHARACTER-1B23E,10CHARACTER-1B23F,10CHARACTER-1B240," ++
  "10CHARACTER-1B241,10CHARACTER-1B242,10CHARACTER-1B243,10CHARACTER-1B244,10CHARACTER-1B245,10CHARACTER-1B246," ++
  "10CHARACTER-1B247,10CHARACTER-1B248,10CHARACTER-1B249,10CHARACTER-1B24A,10CHARACTER-1B24B,10CHARACTER-1B24C," ++
  "10CHARACTER-1B24D,10CHARACTER-1B24E,10CHARACTER-1B24F,10CHARACTER-1B250,10CHARACTER-1B251,10CHARACTER-1B252," ++
  "10CHARACTER-1B253,10CHARACTER-1B254,10CHARACTER-1B255,10CHARACTER-1B256,10CHARACTER-1B257,10CHARACTER-1B258," ++
  "10CHARACTER-1B259,10CHARACTER-1B25A,10CHARACTER-1B25B,10CHARACTER-1B25C,10CHARACTER-1B25D,10CHARACTER-1B25E," ++
  "10CHARACTER-1B25F,10CHARACTER-1B260,10CHARACTER-1B261,10CHARACTER-1B262,10CHARACTER-1B263,10CHARACTER-1B264," ++
  "10CHARACTER-1B265,10CHARACTER-1B266,10CHARACTER-1B267,10CHARACTER-1B268,10CHARACTER-1B269,10CHARACTER-1B26A," ++
  "10CHARACTER-1B26B,10CHARACTER-1B26C,10CHARACTER-1B26D,10CHARACTER-1B26E,10CHARACTER-1B26F,10CHARACTER-1B270," ++
  "10CHARACTER-1B271,10CHARACTER-1B272,10CHARACTER-1B273,10CHARACTER-1B274,10CHARACTER-1B275,10CHARACTER-1B276," ++
  "10CHARACTER-1B277,10CHARACTER-1B278,10CHARACTER-1B279,10CHARACTER-1B27A,10CHARACTER-1B27B,10CHARACTER-1B27C," ++
  "10CHARACTER-1B27D,10CHARACTER-1B27E,10CHARACTER-1B27F"

def run1b280 : String :=
  "00NUSHU CHARACTER-1B280,10CHARACTER-1B281,10CHARACTER-1B282,10CHARACTER-1B283,10CHARACTER-1B284," ++
  "10CHARACTER-1B285,10CHARACTER-1B286,10CHARACTER-1B287,10CHARACTER-1B288,10CHARACTER-1B289,10CHARACTER-1B28A," ++
  "10CHARACTER-1B28B,10CHARACTER-1B28C,10CHARACTER-1B28D,10CHARACTER-1B28E,10CHARACTER-1B28F,10CHARACTER-1B290," ++
  "10CHARACTER-1B291,10CHARACTER-1B292,10CHARACTER-1B293,10CHARACTER-1B294,10CHARACTER-1B295,10CHARACTER-1B296," ++
  "10CHARACTER-1B297,10CHARACTER-1B298,10CHARACTER-1B299,10CHARACTER-1B29A,10CHARACTER-1B29B,10CHARACTER-1B29C," ++
  "10CHARACTER-1B29D,10CHARACTER-1B29E,10CHARACTER-1B29F,10CHARACTER-1B2A0,10CHARACTER-1B2A1,10CHARACTER-1B2A2," ++
  "10CHARACTER-1B2A3,10CHARACTER-1B2A4,10CHARACTER-1B2A5,10CHARACTER-1B2A6,10CHARACTER-1B2A7,10CHARACTER-1B2A8," ++
  "10CHARACTER-1B2A9,10CHARACTER-1B2AA,10CHARACTER-1B2AB,10CHARACTER-1B2AC,10CHARACTER-1B2AD,10CHARACTER-1B2AE," ++
  "10CHARACTER-1B2AF,10CHARACTER-1B2B0,10CHARACTER-1B2B1,10CHARACTER-1B2B2,10CHARACTER-1B2B3,10CHARACTER-1B2B4," ++
  "10CHARACTER-1B2B5,10CHARACTER-1B2B6,10CHARACTER-1B2B7,10CHARACTER-1B2B8,10CHARACTER-1B2B9,10CHARACTER-1B2BA," ++
  "10CHARACTER-1B2BB,10CHARACTER-1B2BC,10CHARACTER-1B2BD,10CHARACTER-1B2BE,10CHARACTER-1B2BF,10CHARACTER-1B2C0," ++
  "10CHARACTER-1B2C1,10CHARACTER-1B2C2,10CHARACTER-1B2C3,10CHARACTER-1B2C4,10CHARACTER-1B2C5,10CHARACTER-1B2C6," ++
  "10CHARACTER-1B2C7,10CHARACTER-1B2C8,10CHARACTER-1B2C9,10CHARACTER-1B2CA,10CHARACTER-1B2CB,10CHARACTER-1B2CC," ++
  "10CHARACTER-1B2CD,10CHARACTER-1B2CE,10CHARACTER-1B2CF,10CHARACTER-1B2D0,10CHARACTER-1B2D1,10CHARACTER-1B2D2," ++
  "10CHARACTER-1B2D3,10CHARACTER-1B2D4,10CHARACTER-1B2D5,10CHARACTER-1B2D6,10CHARACTER-1B2D7,10CHARACTER-1B2D8," ++
  "10CHARACTER-1B2D9,10CHARACTER-1B2DA,10CHARACTER-1B2DB,10CHARACTER-1B2DC,10CHARACTER-1B2DD,10CHARACTER-1B2DE," ++
  "10CHARACTER-1B2DF,10CHARACTER-1B2E0,10CHARACTER-1B2E1,10CHARACTER-1B2E2,10CHARACTER-1B2E3,10CHARACTER-1B2E4," ++
  "10CHARACTER-1B2E5,10CHARACTER-1B2E6,10CHARACTER-1B2E7,10CHARACTER-1B2E8,10CHARACTER-1B2E9,10CHARACTER-1B2EA," ++
  "10CHARACTER-1B2EB,10CHARACTER-1B2EC,10CHARACTER-1B2ED,10CHARACTER-1B2EE,10CHARACTER-1B2EF,10CHARACTER-1B2F0," ++
  "10CHARACTER-1B2F1,10CHARACTER-1B2F2,10CHARACTER-1B2F3,10CHARACTER-1B2F4,10CHARACTER-1B2F5,10CHARACTER-1B2F6," ++
  "10CHARACTER-1B2F7,10CHARACTER-1B2F8,10CHARACTER-1B2F9,10CHARACTER-1B2FA,10CHARACTER-1B2FB"

def run1bc00 : String :=
  "00DUPLOYAN LETTER H,20X,20P,20T,20F,20K,20L,20B,20D,20V,20G,20R,20P N,20D S,20F N,20K M,20R S,20TH,20SLOAN DH," ++
  "20DH,20KK,20SLOAN J,20HL,20LH,20RH,20M,20N,20J,20S,20M N,20N M,21J,20S J,20M WITH DOT,22N,22J," ++
  "40DOTS INSIDE AND ABOVE,20S WITH DOT,50BELOW,20M S,21N,21J,21S,21M N,21N M,22J,21S J,20J S WITH DOT,30N,40S," ++
  "20S T,40R,30P,40R,20T S,31R,20W,20WH,20W R,20S N,30M,20K R S,22G,20S K,40R,20A,20SLOAN OW,20OA,20O,20AOU,20I," ++
  "20E,20IE,20SHORT I,20UI,20EE,20SLOAN EH,20ROMANIAN I,20SLOAN EE,20LONG I,20YE,20U,20EU,20XW,20U N,20LONG U," ++
  "21ROMANIAN,20UH,20SLOAN U,20OOH,20OW,20OU,20WA,20WO,20WI,20WEI,20WOW,20NASAL U,30O,30I,30A,20PERNIN AN,30AM," ++
  "20SLOAN EN,30AN,30ON,20VOCALIC M,,,,,,10AFFIX LEFT HORIZONTAL SECANT,22MID,22RIGHT,21LOW VERTICAL,22MID,22HIGH," ++
  "21ATTACHED,31LEFT-TO-RIGHT,30TANGENT,30TAIL,30E HOOK,31I,31TANGENT"

def run1bc80 : String :=
  "00DUPLOYAN AFFIX HIGH ACUTE,31TIGHT,30GRAVE,31LONG,30DOT,30CIRCLE,30LINE,30WAVE,30VERTICAL,,,,,,,,20LOW ACUTE," ++
  "31TIGHT,30GRAVE,31LONG,30DOT,30CIRCLE,30LINE,30WAVE,30VERTICAL,30ARROW,,,10SIGN O WITH CROSS," ++
  "10THICK LETTER SELECTOR,10DOUBLE MARK,10PUNCTUATION CHINOOK FULL STOP,00SHORTHAND FORMAT LETTER OVERLAP," ++
  "21CONTINUING,20DOWN STEP,21UP"

/-- The runs with their first and last characters. -/
def runs : List (Nat × Nat × String) := [
  (0x16800, 0x1687f, run16800), (0x16880, 0x168ff, run16880), (0x16900, 0x1697f, run16900),
  (0x16980, 0x169ff, run16980), (0x16a00, 0x16a7f, run16a00), (0x16a80, 0x16af5, run16a80),
  (0x16b00, 0x16b7f, run16b00), (0x16b80, 0x16b8f, run16b80), (0x16e40, 0x16e9a, run16e40),
  (0x16f00, 0x16f7f, run16f00), (0x16f80, 0x16f9f, run16f80), (0x16fe0, 0x16ff1, run16fe0),
  (0x18800, 0x1887f, run18800), (0x18880, 0x188ff, run18880), (0x18900, 0x1897f, run18900),
  (0x18980, 0x189ff, run18980), (0x18a00, 0x18a7f, run18a00), (0x18a80, 0x18aff, run18a80),
  (0x18b00, 0x18b7f, run18b00), (0x18b80, 0x18bff, run18b80), (0x18c00, 0x18c7f, run18c00),
  (0x18c80, 0x18cd5, run18c80), (0x1aff0, 0x1b07f, run1aff0), (0x1b080, 0x1b0ff, run1b080),
  (0x1b100, 0x1b122, run1b100), (0x1b150, 0x1b152, run1b150), (0x1b164, 0x1b1ff, run1b164),
  (0x1b200, 0x1b27f, run1b200), (0x1b280, 0x1b2fb, run1b280), (0x1bc00, 0x1bc7c, run1bc00),
  (0x1bc80, 0x1bca3, run1bc80)]

end SocksTunnel.CharacterName.Brushed
