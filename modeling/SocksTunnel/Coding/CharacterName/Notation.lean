/-
  SocksTunnel.Coding.CharacterName.Notation — the names of the signs of music and the
  letters of mathematics, run by run. A run has an entry for each of its characters in a
  row: how many first and last words of the name before it stay, then its own words
  between these; an empty entry has no name.
-/

namespace SocksTunnel.CharacterName.Notation

def run1cf00 : String :=
  "00ZNAMENNY COMBINING MARK GORAZDO NIZKO S KRYZHEM ON LEFT,34NIZKO,32TSATA,32GORAZDO NIZKO,32NIZKO,32SREDNE," ++
  "32MALO POVYSHE,32POVYSHE,32VYSOKO,32MALO POVYSHE S KHOKHLOM,34POVYSHE,34VYSOKO," ++
  "30GORAZDO NIZKO S KRYZHEM ON RIGHT,34NIZKO,32TSATA,32GORAZDO NIZKO,32NIZKO,32SREDNE,32MALO POVYSHE,32POVYSHE," ++
  "32VYSOKO,32MALO POVYSHE S KHOKHLOM,34POVYSHE,34VYSOKO,30TSATA S KRYZHEM,32MALO POVYSHE,30STRANNO MALO POVYSHE," ++
  "30POVYSHE S KRYZHEM,40STRANNO,30VYSOKO S KRYZHEM,30MALO POVYSHE STRANNO,30GORAZDO VYSOKO,30ZELO,30ON,30RAVNO," ++
  "30TIKHAYA,30BORZAYA,30UDARKA,30PODVERTKA,30LOMKA,30KUPNAYA,30KACHKA,30ZEVOK,30SKOBA,30RAZSEKA,30KRYZH ON LEFT,,," ++
  "20TONAL RANGE MARK MRACHNO,50SVETLO,50TRESVETLO,20MARK ZADERZHKA,31DEMESTVENNY,30OTSECHKA,30PODCHASHIE," ++
  "40WITH VERTICAL STROKE,30CHASHKA,40POLNAYA,30OBLACHKO,30SOROCHYA NOZHKA,30TOCHKA,30DVOETOCHIE," ++
  "20ATTACHING VERTICAL OMET,21MARK CURVED,30KRYZH,20LOWER TONAL RANGE INDICATOR,10PRIZNAK MODIFIER LEVEL-2," ++
  "30LEVEL-3,30DIRECTION FLIP,30KRYZH,30ROG,,,,,,,,,,10NEUME KRYUK,30TIKHY,20PARAKLIT,20DVA V CHELNU,20KLYUCH," ++
  "20ZANOZHEK,20STOPITSA,30S OCHKOM,20PEREVODKA,30NEPOSTOYANNAYA,20STOPITSA WITH SOROCHYA NOZHKA,20CHELYUSTKA," ++
  "20PALKA,20ZAPYATAYA,20GOLUBCHIK BORZY,30TIKHY,30MRACHNY,30SVETLY,30TRESVETLY,20VRAKHIYA PROSTAYA,30MRACHNAYA," ++
  "30SVETLAYA,30TRESVETLAYA,30KLYUCHEVAYA PROSTAYA,40MRACHNAYA,40SVETLAYA,40TRESVETLAYA,20DOUBLE ZAPYATAYA," ++
  "20REVERSED CHELYUSTKA,20DERBITSA,20KHAMILO,20CHASHKA,20PODCHASHIE,20SKAMEYTSA MRACHNAYA,30SVETLAYA," ++
  "30TRESVETLAYA,30TIKHAYA,20DEMESTVENNY KLYUCH,20SKAMEYTSA KLYUCHEVAYA SVETLAYA,30KLYUCHENEPOSTOYANNAYA," ++
  "30KLYUCHEVAYA TIKHAYA,30DVOECHELNAYA PROSTAYA,40SVETLAYA,40NEPOSTOYANNAYA,40KLYUCHEVAYA,20SLOZHITIE," ++
  "30S ZAPYATOY,30ZAKRYTOE"

def run1cf80 : String :=
  "00ZNAMENNY NEUME SLOZHITIE S KRYZHEM,20KRYZH,20ROG,20FITA,20KOBYLA,20ZMEYTSA,20STATYA,30S ZAPYATOY,40KRYZHEM," ++
  "41ZAPYATOY I,40KRYZHEM I ZAPYATOY,30ZAKRYTAYA,40S ZAPYATOY,30S ROGOM,40DVUMYA ZAPYATYMI," ++
  "40ZAPYATOY I PODCHASHIEM,20POLKULIZMY,20STATYA NEPOSTOYANNAYA,20STRELA PROSTAYA,30MRACHNOTIKHAYA,30KRYZHEVAYA," ++
  "30POLUPOVODNAYA,30POVODNAYA,30NEPOSTOYANNAYA,30KLYUCHEPOVODNAYA,30KLYUCHENEPOSTOYANNAYA,30TIKHAYA PUTNAYA," ++
  "30DVOECHELNAYA,30DVOECHELNOKRYZHEVAYA,30DVOECHELNOPOVODNAYA,30DVOECHELNAYA KLYUCHEVAYA,31DVOECHELNOPOVODNAYA," ++
  "30GROMNAYA WITH SINGLE ZAPYATAYA,33GROMOPOVODNAYA,30GROMNAYA,30GROMOPOVODNAYA,40WITH DOUBLE ZAPYATAYA," ++
  "30GROMOKRYZHEVAYA,40POVODNAYA,20MECHIK,30POVODNY,30KLYUCHEVOY,30KLYUCHEPOVODNY,30KLYUCHENEPOSTOYANNY," ++
  "20STRELA TRYASOGLASNAYA,30TRYASOPOVODNAYA,30TRYASOSTRELNAYA,20OSOKA,30SVETLAYA,30TRESVETLAYA," ++
  "30KRYUKOVAYA SVETLAYA,31KLYUCHEVAYA,40NEPOSTOYANNAYA,20STRELA KRYUKOVAYA,40POVODNAYA," ++
  "40GROMNAYA WITH SINGLE ZAPYATAYA,43GROMOPOVODNAYA,40GROMNAYA,40GROMOPOVODNAYA,50WITH DOUBLE ZAPYATAYA," ++
  "40GROMOKRYZHEVAYA,50POVODNAYA,40TRYASKA,20KUFISMA,20OBLAKO,20DUDA,20NEMKA,20PAUK"

def run1d000 : String :=
  "00BYZANTINE MUSICAL SYMBOL PSILI,30DASEIA,30PERISPOMENI,30OXEIA EKFONITIKON,40DIPLI,30VAREIA EKFONITIKON," ++
  "40DIPLI,30KATHISTI,30SYRMATIKI,30PARAKLITIKI,30YPOKRISIS,40DIPLI,30KREMASTI,30APESO EKFONITIKON,31EXO,30TELEIA," ++
  "30KENTIMATA,30APOSTROFOS,40DIPLI,30SYNEVMA,30THITA,30OLIGON ARCHAION,31GORGON,30PSILON,30CHAMILON,30VATHY," ++
  "30ISON ARCHAION,31KENTIMA,31KENTIMATA,30SAXIMATA,30PARICHON,30STAVROS APODEXIA,30OXEIAI ARCHAION,31VAREIAI," ++
  "31APODERMA,30APOTHEMA,30KLASMA,30REVMA,30PIASMA ARCHAION,30TINAGMA,30ANATRICHISMA,30SEISMA,30SYNAGMA ARCHAION," ++
  "40META STAVROU,30OYRANISMA ARCHAION,30THEMA,30LEMOI,30DYO,30TRIA,30TESSERA,30KRATIMATA,30APESO EXO NEO," ++
  "30FTHORA ARCHAION,30IMIFTHORA,30TROMIKON ARCHAION,30KATAVA TROMIKON,30PELASTON,30PSIFISTON,30KONTEVMA," ++
  "30CHOREVMA ARCHAION,30RAPISMA,30PARAKALESMA ARCHAION,31PARAKLITIKI,30ICHADIN,30NANA,30PETASMA,30KONTEVMA ALLO," ++
  "31TROMIKON,30STRAGGISMATA,30GRONTHISMATA,30ISON NEO,31OLIGON,31OXEIA,30PETASTI,30KOUFISMA,30PETASTOKOUFISMA," ++
  "30KRATIMOKOUFISMA,30PELASTON NEO,30KENTIMATA NEO ANO,32KENTIMA,30YPSILI,30APOSTROFOS NEO,31APOSTROFOI SYNDESMOS," ++
  "30YPORROI,30KRATIMOYPORROON,30ELAFRON,30CHAMILI,30MIKRON ISON,30VAREIA NEO,31PIASMA,31PSIFISTON,30OMALON," ++
  "30ANTIKENOMA,30LYGISMA,30PARAKLITIKI NEO,31PARAKALESMA,30ETERON PARAKALESMA,30KYLISMA,30ANTIKENOKYLISMA," ++
  "30TROMIKON NEO,30EKSTREPTON,30SYNAGMA NEO,30SYRMA,30CHOREVMA NEO,30EPEGERMA,30SEISMA NEO,30XIRON KLASMA," ++
  "30TROMIKOPSIFISTON,30PSIFISTOLYGISMA,30TROMIKOLYGISMA,30TROMIKOPARAKALESMA,30PSIFISTOPARAKALESMA," ++
  "30TROMIKOSYNAGMA,30PSIFISTOSYNAGMA,30GORGOSYNTHETON,30ARGOSYNTHETON,31ETERON,30OYRANISMA NEO,30THEMATISMOS ESO," ++
  "40EXO,30THEMA APLOUN,30THES KAI APOTHES,30KATAVASMA,30ENDOFONON,30YFEN KATO,40ANO,30STAVROS,30KLASMA ANO"

def run1d080 : String :=
  "00BYZANTINE MUSICAL SYMBOL DIPLI ARCHAION,31KRATIMA,40ALLO,40NEO,31APODERMA,30APLI,30DIPLI,30TRIPLI,30TETRAPLI," ++
  "30KORONIS,30LEIMMA ENOS CHRONOU,40DYO CHRONON,41TRION,41TESSARON,40IMISEOS CHRONOU,30GORGON NEO ANO," ++
  "40PARESTIGMENON ARISTERA,50DEXIA,30DIGORGON,40PARESTIGMENON ARISTERA KATO,60ANO,50DEXIA,30TRIGORGON,30ARGON," ++
  "30IMIDIARGON,30DIARGON,30AGOGI POLI ARGI,40ARGOTERI,40ARGI,40METRIA,40MESI,40GORGI,40GORGOTERI,40POLI GORGI," ++
  "30MARTYRIA PROTOS ICHOS,42ALLI,41DEYTEROS,42ALLI,41TRITOS,40TRIFONIAS,40TETARTOS ICHOS,51LEGETOS,41LEGETOS," ++
  "41PLAGIOS,30ISAKIA TELOUS ICHIMATOS,32APOSTROFOI,30FANEROSIS TETRAFONIAS,40MONOFONIAS,40DIFONIAS," ++
  "30MARTYRIA VARYS ICHOS,41PROTOVARYS,41PLAGIOS TETARTOS,30GORTHMIKON N APLOUN,50DIPLOUN,30ENARXIS KAI FTHORA VOU," ++
  "30IMIFONON,30IMIFTHORON,30FTHORA ARCHAION DEYTEROU ICHOU,40DIATONIKI PA,50NANA,40NAOS ICHOS,40DIATONIKI DI," ++
  "41SKLIRON DIATONON,40DIATONIKI KE,50ZO,50NI KATO,60ANO,40MALAKON CHROMA DIFONIAS,60MONOFONIAS," ++
  "30FHTORA SKLIRON CHROMA VASIS,30FTHORA SKLIRON CHROMA SYNAFI,40NENANO,30CHROA ZYGOS,40KLITON,40SPATHI," ++
  "30FTHORA I YFESIS TETARTIMORION,40ENARMONIOS ANTIFONIA,30YFESIS TRITIMORION,31DIESIS,40TETARTIMORION," ++
  "40APLI DYO DODEKATA,41MONOGRAMMOS TESSERA,41DIGRAMMOS EX,41TRIGRAMMOS OKTO,31YFESIS APLI DYO," ++
  "41MONOGRAMMOS TESSERA,41DIGRAMMOS EX,41TRIGRAMMOS OKTO,30GENIKI DIESIS,40YFESIS,30DIASTOLI APLI MIKRI,50MEGALI," ++
  "40DIPLI,40THESEOS,31SIMANSIS,50DISIMOU,50TRISIMOU,50TETRASIMOU,40ARSEOS,50DISIMOU,50TRISIMOU,50TETRASIMOU," ++
  "30DIGRAMMA GG,30DIFTOGGOS OU,30STIGMA,30ARKTIKO PA,40VOU,40GA,40DI,40KE,40ZO,40NI,30KENTIMATA NEO MESO," ++
  "32KENTIMA,30KENTIMATA NEO KATO,32KENTIMA,31KLASMA,31GORGON NEO"

def run1d100 : String :=
  "00MUSICAL SYMBOL SINGLE BARLINE,21DOUBLE,21FINAL,22REVERSE,21DASHED,21SHORT,20LEFT REPEAT SIGN,22RIGHT," ++
  "20REPEAT DOTS,20DAL SEGNO,20DA CAPO,20SEGNO,20CODA,20REPEATED FIGURE-1,30FIGURE-2,30FIGURE-3,20FERMATA,30BELOW," ++
  "20BREATH MARK,20CAESURA,20BRACE,20BRACKET,20ONE-LINE STAFF,21TWO-LINE,21THREE-LINE,21FOUR-LINE,21FIVE-LINE," ++
  "21SIX-LINE,20SIX-STRING FRETBOARD,21FOUR-STRING,20G CLEF,40OTTAVA ALTA,50BASSA,20C CLEF,21F,40OTTAVA ALTA," ++
  "50BASSA,20DRUM CLEF-1,30CLEF-2,,,20MULTIPLE MEASURE REST,20DOUBLE SHARP,30FLAT,20FLAT UP,30DOWN,20NATURAL UP," ++
  "30DOWN,20SHARP UP,30DOWN,20QUARTER TONE SHARP,40FLAT,20COMMON TIME,21CUT,20OTTAVA ALTA,30BASSA," ++
  "20QUINDICESIMA ALTA,30BASSA,20MULTI REST,21WHOLE,21HALF,21QUARTER,21EIGHTH,21SIXTEENTH,21THIRTY-SECOND," ++
  "21SIXTY-FOURTH,21ONE HUNDRED TWENTY-EIGHTH,20X NOTEHEAD,21PLUS,21CIRCLE X,20SQUARE NOTEHEAD WHITE,40BLACK," ++
  "20TRIANGLE NOTEHEAD UP WHITE,50BLACK,40LEFT WHITE,50BLACK,40RIGHT WHITE,50BLACK,40DOWN WHITE,50BLACK," ++
  "40UP RIGHT WHITE,60BLACK,20MOON NOTEHEAD WHITE,40BLACK,20TRIANGLE-ROUND NOTEHEAD DOWN WHITE,50BLACK," ++
  "20PARENTHESIS NOTEHEAD,21VOID,20NOTEHEAD BLACK,20NULL NOTEHEAD,20CLUSTER NOTEHEAD WHITE,40BLACK,20BREVE," ++
  "20WHOLE NOTE,21HALF,21QUARTER,21EIGHTH,21SIXTEENTH,21THIRTY-SECOND,21SIXTY-FOURTH,21ONE HUNDRED TWENTY-EIGHTH," ++
  "20COMBINING STEM,31SPRECHGESANG,30TREMOLO-1,30TREMOLO-2,30TREMOLO-3,20FINGERED TREMOLO-1,30TREMOLO-2," ++
  "30TREMOLO-3,20COMBINING AUGMENTATION DOT,30FLAG-1,30FLAG-2,30FLAG-3,30FLAG-4,30FLAG-5,20BEGIN BEAM,21END," ++
  "20BEGIN TIE,21END,20BEGIN SLUR,21END,20BEGIN PHRASE,21END,20COMBINING ACCENT,30STACCATO,30TENUTO," ++
  "30STACCATISSIMO,30MARCATO"

def run1d180 : String :=
  "00MUSICAL SYMBOL COMBINING MARCATO-STACCATO,30ACCENT-STACCATO,30LOURE,20ARPEGGIATO UP,30DOWN,20COMBINING DOIT," ++
  "30RIP,30FLIP,30SMEAR,30BEND,30DOUBLE TONGUE,31TRIPLE,20RINFORZANDO,20SUBITO,20Z,20PIANO,20MEZZO,20FORTE," ++
  "20CRESCENDO,20DECRESCENDO,20GRACE NOTE SLASH,41NO,20TR,20TURN,21INVERTED,20TURN SLASH,30UP,20ORNAMENT STROKE-1," ++
  "30STROKE-2,30STROKE-3,30STROKE-4,30STROKE-5,30STROKE-6,30STROKE-7,30STROKE-8,30STROKE-9,30STROKE-10,30STROKE-11," ++
  "20HAUPTSTIMME,20NEBENSTIMME,20END OF STIMME,20DEGREE SLASH,20COMBINING DOWN BOW,31UP,30HARMONIC," ++
  "30SNAP PIZZICATO,20PEDAL MARK,31UP,21HALF PEDAL,20GLISSANDO UP,30DOWN,20WITH FINGERNAILS,20DAMP,30ALL,20MAXIMA," ++
  "20LONGA,20BREVIS,20SEMIBREVIS WHITE,30BLACK,20MINIMA,30BLACK,20SEMIMINIMA WHITE,30BLACK,20FUSA WHITE,30BLACK," ++
  "20LONGA PERFECTA REST,31IMPERFECTA,21BREVIS,21SEMIBREVIS,21MINIMA,21SEMIMINIMA," ++
  "20TEMPUS PERFECTUM CUM PROLATIONE PERFECTA,60IMPERFECTA,60PERFECTA DIMINUTION-1," ++
  "30IMPERFECTUM CUM PROLATIONE PERFECTA,60IMPERFECTA,70DIMINUTION-1,70DIMINUTION-2,70DIMINUTION-3,20CROIX," ++
  "20GREGORIAN C CLEF,31F,20SQUARE B,20VIRGA,20PODATUS,20CLIVIS,20SCANDICUS,20CLIMACUS,20TORCULUS,20PORRECTUS," ++
  "30FLEXUS,21SCANDICUS,20TORCULUS RESUPINUS,20PES SUBPUNCTIS,20KIEVAN C CLEF,30END OF PIECE,30FINAL NOTE," ++
  "30RECITATIVE MARK,30WHOLE NOTE,31HALF,30QUARTER NOTE STEM DOWN,60UP,30EIGHTH NOTE STEM DOWN,60UP,30FLAT SIGN," ++
  "20SORI,20KORON"

def run1d200 : String :=
  "00GREEK VOCAL NOTATION SYMBOL-1,30SYMBOL-2,30SYMBOL-3,30SYMBOL-4,30SYMBOL-5,30SYMBOL-6,30SYMBOL-7,30SYMBOL-8," ++
  "30SYMBOL-9,30SYMBOL-10,30SYMBOL-11,30SYMBOL-12,30SYMBOL-13,30SYMBOL-14,30SYMBOL-15,30SYMBOL-16,30SYMBOL-17," ++
  "30SYMBOL-18,30SYMBOL-19,30SYMBOL-20,30SYMBOL-21,30SYMBOL-22,30SYMBOL-23,30SYMBOL-24,30SYMBOL-50,30SYMBOL-51," ++
  "30SYMBOL-52,30SYMBOL-53,30SYMBOL-54,10INSTRUMENTAL NOTATION SYMBOL-1,30SYMBOL-2,30SYMBOL-4,30SYMBOL-5," ++
  "30SYMBOL-7,30SYMBOL-8,30SYMBOL-11,30SYMBOL-12,30SYMBOL-13,30SYMBOL-14,30SYMBOL-17,30SYMBOL-18,30SYMBOL-19," ++
  "30SYMBOL-23,30SYMBOL-24,30SYMBOL-25,30SYMBOL-26,30SYMBOL-27,30SYMBOL-29,30SYMBOL-30,30SYMBOL-32,30SYMBOL-36," ++
  "30SYMBOL-37,30SYMBOL-38,30SYMBOL-39,30SYMBOL-40,30SYMBOL-42,30SYMBOL-43,30SYMBOL-45,30SYMBOL-47,30SYMBOL-48," ++
  "30SYMBOL-49,30SYMBOL-50,30SYMBOL-51,30SYMBOL-52,30SYMBOL-53,30SYMBOL-54,00COMBINING GREEK MUSICAL TRISEME," ++
  "30TETRASEME,30PENTASEME,00GREEK MUSICAL LEIMMA"

def run1d2e0 : String :=
  "00MAYAN NUMERAL ZERO,20ONE,20TWO,20THREE,20FOUR,20FIVE,20SIX,20SEVEN,20EIGHT,20NINE,20TEN,20ELEVEN,20TWELVE," ++
  "20THIRTEEN,20FOURTEEN,20FIFTEEN,20SIXTEEN,20SEVENTEEN,20EIGHTEEN,20NINETEEN"

def run1d300 : String :=
  "00MONOGRAM FOR EARTH,01DIGRAM FOR HEAVENLY,21HUMAN,20EARTHLY HEAVEN,30HUMAN,20EARTH,00TETRAGRAM FOR CENTRE," ++
  "20FULL CIRCLE,20MIRED,20BARRIER,20KEEPING SMALL,20CONTRARIETY,20ASCENT,20OPPOSITION,20BRANCHING OUT," ++
  "20DEFECTIVENESS OR DISTORTION,20DIVERGENCE,20YOUTHFULNESS,20INCREASE,20PENETRATION,20REACH,20CONTACT," ++
  "20HOLDING BACK,20WAITING,20FOLLOWING,20ADVANCE,20RELEASE,20RESISTANCE,20EASE,20JOY,20CONTENTION,20ENDEAVOUR," ++
  "20DUTIES,20CHANGE,20DECISIVENESS,20BOLD RESOLUTION,20PACKING,20LEGION,20CLOSENESS,20KINSHIP,20GATHERING," ++
  "20STRENGTH,20PURITY,20FULLNESS,20RESIDENCE,20LAW OR MODEL,20RESPONSE,20GOING TO MEET,20ENCOUNTERS,20STOVE," ++
  "20GREATNESS,20ENLARGEMENT,20PATTERN,20RITUAL,20FLIGHT,20VASTNESS OR WASTING,20CONSTANCY,20MEASURE,20ETERNITY," ++
  "20UNITY,20DIMINISHMENT,20CLOSED MOUTH,20GUARDEDNESS,20GATHERING IN,20MASSING,20ACCUMULATION,20EMBELLISHMENT," ++
  "20DOUBT,20WATCH,20SINKING,20INNER,20DEPARTURE,20DARKENING,20DIMMING,20EXHAUSTION,20SEVERANCE,20STOPPAGE," ++
  "20HARDNESS,20COMPLETION,20CLOSURE,20FAILURE,20AGGRAVATION,20COMPLIANCE,20ON THE VERGE,20DIFFICULTIES," ++
  "20LABOURING,20FOSTERING,,,,,,,,,,00COUNTING ROD UNIT DIGIT ONE,40TWO,40THREE,40FOUR,40FIVE,40SIX,40SEVEN," ++
  "40EIGHT,40NINE,20TENS DIGIT ONE,40TWO,40THREE,40FOUR,40FIVE,40SIX,40SEVEN,40EIGHT,40NINE," ++
  "00IDEOGRAPHIC TALLY MARK ONE,30TWO,30THREE,30FOUR,30FIVE,00TALLY MARK ONE,20FIVE"

def run1d400 : String :=
  "00MATHEMATICAL BOLD CAPITAL A,30B,30C,30D,30E,30F,30G,30H,30I,30J,30K,30L,30M,30N,30O,30P,30Q,30R,30S,30T,30U," ++
  "30V,30W,30X,30Y,30Z,20SMALL A,30B,30C,30D,30E,30F,30G,30H,30I,30J,30K,30L,30M,30N,30O,30P,30Q,30R,30S,30T,30U," ++
  "30V,30W,30X,30Y,30Z,10ITALIC CAPITAL A,30B,30C,30D,30E,30F,30G,30H,30I,30J,30K,30L,30M,30N,30O,30P,30Q,30R,30S," ++
  "30T,30U,30V,30W,30X,30Y,30Z,20SMALL A,30B,30C,30D,30E,30F,30G,,30I,30J,30K,30L,30M,30N,30O,30P,30Q,30R,30S,30T," ++
  "30U,30V,30W,30X,30Y,30Z,10BOLD ITALIC CAPITAL A,40B,40C,40D,40E,40F,40G,40H,40I,40J,40K,40L,40M,40N,40O,40P,40Q," ++
  "40R,40S,40T,40U,40V,40W,40X"

def run1d480 : String :=
  "00MATHEMATICAL BOLD ITALIC CAPITAL Y,40Z,30SMALL A,40B,40C,40D,40E,40F,40G,40H,40I,40J,40K,40L,40M,40N,40O,40P," ++
  "40Q,40R,40S,40T,40U,40V,40W,40X,40Y,40Z,10SCRIPT CAPITAL A,,30C,30D,,,30G,,,30J,30K,,,30N,30O,30P,30Q,,30S,30T," ++
  "30U,30V,30W,30X,30Y,30Z,20SMALL A,30B,30C,30D,,30F,,30H,30I,30J,30K,30L,30M,30N,,30P,30Q,30R,30S,30T,30U,30V," ++
  "30W,30X,30Y,30Z,10BOLD SCRIPT CAPITAL A,40B,40C,40D,40E,40F,40G,40H,40I,40J,40K,40L,40M,40N,40O,40P,40Q,40R,40S," ++
  "40T,40U,40V,40W,40X,40Y,40Z,30SMALL A,40B,40C,40D,40E,40F,40G,40H,40I,40J,40K,40L,40M,40N,40O,40P,40Q,40R,40S," ++
  "40T,40U,40V"

def run1d500 : String :=
  "00MATHEMATICAL BOLD SCRIPT SMALL W,40X,40Y,40Z,10FRAKTUR CAPITAL A,30B,,30D,30E,30F,30G,,,30J,30K,30L,30M,30N," ++
  "30O,30P,30Q,,30S,30T,30U,30V,30W,30X,30Y,,20SMALL A,30B,30C,30D,30E,30F,30G,30H,30I,30J,30K,30L,30M,30N,30O,30P," ++
  "30Q,30R,30S,30T,30U,30V,30W,30X,30Y,30Z,10DOUBLE-STRUCK CAPITAL A,30B,,30D,30E,30F,30G,,30I,30J,30K,30L,30M,," ++
  "30O,,,,30S,30T,30U,30V,30W,30X,30Y,,20SMALL A,30B,30C,30D,30E,30F,30G,30H,30I,30J,30K,30L,30M,30N,30O,30P,30Q," ++
  "30R,30S,30T,30U,30V,30W,30X,30Y,30Z,10BOLD FRAKTUR CAPITAL A,40B,40C,40D,40E,40F,40G,40H,40I,40J,40K,40L,40M," ++
  "40N,40O,40P,40Q,40R,40S,40T"

def run1d580 : String :=
  "00MATHEMATICAL BOLD FRAKTUR CAPITAL U,40V,40W,40X,40Y,40Z,30SMALL A,40B,40C,40D,40E,40F,40G,40H,40I,40J,40K,40L," ++
  "40M,40N,40O,40P,40Q,40R,40S,40T,40U,40V,40W,40X,40Y,40Z,10SANS-SERIF CAPITAL A,30B,30C,30D,30E,30F,30G,30H,30I," ++
  "30J,30K,30L,30M,30N,30O,30P,30Q,30R,30S,30T,30U,30V,30W,30X,30Y,30Z,20SMALL A,30B,30C,30D,30E,30F,30G,30H,30I," ++
  "30J,30K,30L,30M,30N,30O,30P,30Q,30R,30S,30T,30U,30V,30W,30X,30Y,30Z,20BOLD CAPITAL A,40B,40C,40D,40E,40F,40G," ++
  "40H,40I,40J,40K,40L,40M,40N,40O,40P,40Q,40R,40S,40T,40U,40V,40W,40X,40Y,40Z,30SMALL A,40B,40C,40D,40E,40F,40G," ++
  "40H,40I,40J,40K,40L,40M,40N,40O,40P,40Q,40R"

def run1d600 : String :=
  "00MATHEMATICAL SANS-SERIF BOLD SMALL S,40T,40U,40V,40W,40X,40Y,40Z,20ITALIC CAPITAL A,40B,40C,40D,40E,40F,40G," ++
  "40H,40I,40J,40K,40L,40M,40N,40O,40P,40Q,40R,40S,40T,40U,40V,40W,40X,40Y,40Z,30SMALL A,40B,40C,40D,40E,40F,40G," ++
  "40H,40I,40J,40K,40L,40M,40N,40O,40P,40Q,40R,40S,40T,40U,40V,40W,40X,40Y,40Z,20BOLD ITALIC CAPITAL A,50B,50C,50D," ++
  "50E,50F,50G,50H,50I,50J,50K,50L,50M,50N,50O,50P,50Q,50R,50S,50T,50U,50V,50W,50X,50Y,50Z,40SMALL A,50B,50C,50D," ++
  "50E,50F,50G,50H,50I,50J,50K,50L,50M,50N,50O,50P,50Q,50R,50S,50T,50U,50V,50W,50X,50Y,50Z,10MONOSPACE CAPITAL A," ++
  "30B,30C,30D,30E,30F,30G,30H,30I,30J,30K,30L,30M,30N,30O,30P"

def run1d680 : String :=
  "00MATHEMATICAL MONOSPACE CAPITAL Q,30R,30S,30T,30U,30V,30W,30X,30Y,30Z,20SMALL A,30B,30C,30D,30E,30F,30G,30H," ++
  "30I,30J,30K,30L,30M,30N,30O,30P,30Q,30R,30S,30T,30U,30V,30W,30X,30Y,30Z,10ITALIC SMALL DOTLESS I,40J,,," ++
  "10BOLD CAPITAL ALPHA,30BETA,30GAMMA,30DELTA,30EPSILON,30ZETA,30ETA,30THETA,30IOTA,30KAPPA,30LAMDA,30MU,30NU," ++
  "30XI,30OMICRON,30PI,30RHO,30THETA SYMBOL,30SIGMA,30TAU,30UPSILON,30PHI,30CHI,30PSI,30OMEGA,20NABLA," ++
  "20SMALL ALPHA,30BETA,30GAMMA,30DELTA,30EPSILON,30ZETA,30ETA,30THETA,30IOTA,30KAPPA,30LAMDA,30MU,30NU,30XI," ++
  "30OMICRON,30PI,30RHO,30FINAL SIGMA,30SIGMA,30TAU,30UPSILON,30PHI,30CHI,30PSI,30OMEGA,20PARTIAL DIFFERENTIAL," ++
  "20EPSILON SYMBOL,21THETA,21KAPPA,21PHI,21RHO,21PI,10ITALIC CAPITAL ALPHA,30BETA,30GAMMA,30DELTA,30EPSILON," ++
  "30ZETA,30ETA,30THETA,30IOTA,30KAPPA,30LAMDA,30MU,30NU,30XI,30OMICRON,30PI,30RHO,30THETA SYMBOL,30SIGMA,30TAU," ++
  "30UPSILON,30PHI,30CHI,30PSI,30OMEGA,20NABLA,20SMALL ALPHA,30BETA,30GAMMA,30DELTA"

def run1d700 : String :=
  "00MATHEMATICAL ITALIC SMALL EPSILON,30ZETA,30ETA,30THETA,30IOTA,30KAPPA,30LAMDA,30MU,30NU,30XI,30OMICRON,30PI," ++
  "30RHO,30FINAL SIGMA,30SIGMA,30TAU,30UPSILON,30PHI,30CHI,30PSI,30OMEGA,20PARTIAL DIFFERENTIAL,20EPSILON SYMBOL," ++
  "21THETA,21KAPPA,21PHI,21RHO,21PI,10BOLD ITALIC CAPITAL ALPHA,40BETA,40GAMMA,40DELTA,40EPSILON,40ZETA,40ETA," ++
  "40THETA,40IOTA,40KAPPA,40LAMDA,40MU,40NU,40XI,40OMICRON,40PI,40RHO,40THETA SYMBOL,40SIGMA,40TAU,40UPSILON,40PHI," ++
  "40CHI,40PSI,40OMEGA,30NABLA,30SMALL ALPHA,40BETA,40GAMMA,40DELTA,40EPSILON,40ZETA,40ETA,40THETA,40IOTA,40KAPPA," ++
  "40LAMDA,40MU,40NU,40XI,40OMICRON,40PI,40RHO,40FINAL SIGMA,40SIGMA,40TAU,40UPSILON,40PHI,40CHI,40PSI,40OMEGA," ++
  "30PARTIAL DIFFERENTIAL,30EPSILON SYMBOL,31THETA,31KAPPA,31PHI,31RHO,31PI,10SANS-SERIF BOLD CAPITAL ALPHA,40BETA," ++
  "40GAMMA,40DELTA,40EPSILON,40ZETA,40ETA,40THETA,40IOTA,40KAPPA,40LAMDA,40MU,40NU,40XI,40OMICRON,40PI,40RHO," ++
  "40THETA SYMBOL,40SIGMA,40TAU,40UPSILON,40PHI,40CHI,40PSI,40OMEGA,30NABLA,30SMALL ALPHA,40BETA,40GAMMA,40DELTA," ++
  "40EPSILON,40ZETA,40ETA,40THETA,40IOTA,40KAPPA,40LAMDA,40MU,40NU,40XI,40OMICRON,40PI"

def run1d780 : String :=
  "00MATHEMATICAL SANS-SERIF BOLD SMALL RHO,40FINAL SIGMA,40SIGMA,40TAU,40UPSILON,40PHI,40CHI,40PSI,40OMEGA," ++
  "30PARTIAL DIFFERENTIAL,30EPSILON SYMBOL,31THETA,31KAPPA,31PHI,31RHO,31PI,30ITALIC CAPITAL ALPHA,50BETA,50GAMMA," ++
  "50DELTA,50EPSILON,50ZETA,50ETA,50THETA,50IOTA,50KAPPA,50LAMDA,50MU,50NU,50XI,50OMICRON,50PI,50RHO," ++
  "50THETA SYMBOL,50SIGMA,50TAU,50UPSILON,50PHI,50CHI,50PSI,50OMEGA,40NABLA,40SMALL ALPHA,50BETA,50GAMMA,50DELTA," ++
  "50EPSILON,50ZETA,50ETA,50THETA,50IOTA,50KAPPA,50LAMDA,50MU,50NU,50XI,50OMICRON,50PI,50RHO,50FINAL SIGMA,50SIGMA," ++
  "50TAU,50UPSILON,50PHI,50CHI,50PSI,50OMEGA,40PARTIAL DIFFERENTIAL,40EPSILON SYMBOL,41THETA,41KAPPA,41PHI,41RHO," ++
  "41PI,10BOLD CAPITAL DIGAMMA,21SMALL,,,20DIGIT ZERO,30ONE,30TWO,30THREE,30FOUR,30FIVE,30SIX,30SEVEN,30EIGHT," ++
  "30NINE,10DOUBLE-STRUCK DIGIT ZERO,30ONE,30TWO,30THREE,30FOUR,30FIVE,30SIX,30SEVEN,30EIGHT,30NINE," ++
  "10SANS-SERIF DIGIT ZERO,30ONE,30TWO,30THREE,30FOUR,30FIVE,30SIX,30SEVEN,30EIGHT,30NINE,20BOLD DIGIT ZERO,40ONE," ++
  "40TWO,40THREE,40FOUR,40FIVE,40SIX,40SEVEN,40EIGHT,40NINE,10MONOSPACE DIGIT ZERO,30ONE,30TWO,30THREE,30FOUR," ++
  "30FIVE,30SIX,30SEVEN,30EIGHT,30NINE"

/-- The runs with their first and last characters. -/
def runs : List (Nat × Nat × String) := [
  (0x1cf00, 0x1cf7f, run1cf00), (0x1cf80, 0x1cfc3, run1cf80), (0x1d000, 0x1d07f, run1d000),
  (0x1d080, 0x1d0f5, run1d080), (0x1d100, 0x1d17f, run1d100), (0x1d180, 0x1d1ea, run1d180),
  (0x1d200, 0x1d245, run1d200), (0x1d2e0, 0x1d2f3, run1d2e0), (0x1d300, 0x1d378, run1d300),
  (0x1d400, 0x1d47f, run1d400), (0x1d480, 0x1d4ff, run1d480), (0x1d500, 0x1d57f, run1d500),
  (0x1d580, 0x1d5ff, run1d580), (0x1d600, 0x1d67f, run1d600), (0x1d680, 0x1d6ff, run1d680),
  (0x1d700, 0x1d77f, run1d700), (0x1d780, 0x1d7ff, run1d780)]

end SocksTunnel.CharacterName.Notation
