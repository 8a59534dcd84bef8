/-
  SocksTunnel.Coding.CharacterName.Indic — the names of letters and marks from
  Devanagari to Tibetan, run by run. A run has an entry for each of its characters in a
  row: how many first and last words of the name before it stay, then its own words
  between these; an empty entry has no name.
-/

namespace SocksTunnel.CharacterName.Indic

def run0900 : String :=
  "00DEVANAGARI SIGN INVERTED CANDRABINDU,20CANDRABINDU,20ANUSVARA,20VISARGA,10LETTER SHORT A,20A,20AA,20I,20II," ++
  "20U,20UU,20VOCALIC R,30L,20CANDRA E,21SHORT,20E,20AI,20CANDRA O,21SHORT,20O,20AU,20KA,20KHA,20GA,20GHA,20NGA," ++
  "20CA,20CHA,20JA,20JHA,20NYA,20TTA,20TTHA,20DDA,20DDHA,20NNA,20TA,20THA,20DA,20DHA,20NA,20NNNA,20PA,20PHA,20BA," ++
  "20BHA,20MA,20YA,20RA,20RRA,20LA,20LLA,20LLLA,20VA,20SHA,20SSA,20SA,20HA,10VOWEL SIGN OE,30OOE,10SIGN NUKTA," ++
  "20AVAGRAHA,10VOWEL SIGN AA,30I,30II,30U,30UU,30VOCALIC R,40RR,30CANDRA E,31SHORT,30E,30AI,30CANDRA O,31SHORT," ++
  "30O,30AU,10SIGN VIRAMA,10VOWEL SIGN PRISHTHAMATRA E,30AW,10OM,10STRESS SIGN UDATTA,30ANUDATTA,10GRAVE ACCENT," ++
  "11ACUTE,10VOWEL SIGN CANDRA LONG E,30UE,30UUE,10LETTER QA,20KHHA,20GHHA,20ZA,20DDDHA,20RHA,20FA,20YYA," ++
  "20VOCALIC RR,30LL,10VOWEL SIGN VOCALIC L,40LL,10DANDA,11DOUBLE,10DIGIT ZERO,20ONE,20TWO,20THREE,20FOUR,20FIVE," ++
  "20SIX,20SEVEN,20EIGHT,20NINE,10ABBREVIATION SIGN,10SIGN HIGH SPACING DOT,10LETTER CANDRA A,20OE,20OOE,20AW,20UE," ++
  "20UUE,20MARWARI DDA,20ZHA,20HEAVY YA,20GGA,20JJA,20GLOTTAL STOP,20DDDA,20BBA"

def run0980 : String :=
  "00BENGALI ANJI,10SIGN CANDRABINDU,20ANUSVARA,20VISARGA,,10LETTER A,20AA,20I,20II,20U,20UU,20VOCALIC R,30L,,,20E," ++
  "20AI,,,20O,20AU,20KA,20KHA,20GA,20GHA,20NGA,20CA,20CHA,20JA,20JHA,20NYA,20TTA,20TTHA,20DDA,20DDHA,20NNA,20TA," ++
  "20THA,20DA,20DHA,20NA,,20PA,20PHA,20BA,20BHA,20MA,20YA,20RA,,20LA,,,,20SHA,20SSA,20SA,20HA,,,10SIGN NUKTA," ++
  "20AVAGRAHA,10VOWEL SIGN AA,30I,30II,30U,30UU,30VOCALIC R,40RR,,,30E,30AI,,,30O,30AU,10SIGN VIRAMA," ++
  "10LETTER KHANDA TA,,,,,,,,,10AU LENGTH MARK,,,,,10LETTER RRA,20RHA,,20YYA,20VOCALIC RR,30LL," ++
  "10VOWEL SIGN VOCALIC L,40LL,,,10DIGIT ZERO,20ONE,20TWO,20THREE,20FOUR,20FIVE,20SIX,20SEVEN,20EIGHT,20NINE," ++
  "10LETTER RA WITH MIDDLE DIAGONAL,41LOWER,10RUPEE MARK,20SIGN,10CURRENCY NUMERATOR ONE,30TWO,30THREE,30FOUR," ++
  "30ONE LESS THAN THE DENOMINATOR,20DENOMINATOR SIXTEEN,10ISSHAR,10GANDA MARK,10LETTER VEDIC ANUSVARA," ++
  "10ABBREVIATION SIGN,10SANDHI MARK,,,00GURMUKHI SIGN ADAK BINDI,20BINDI,20VISARGA,,10LETTER A,20AA,20I,20II,20U," ++
  "20UU,,,,,20EE,20AI,,,20OO,20AU,20KA,20KHA,20GA,20GHA,20NGA,20CA,20CHA,20JA,20JHA,20NYA,20TTA,20TTHA,20DDA," ++
  "20DDHA,20NNA,20TA,20THA,20DA,20DHA,20NA,,20PA,20PHA,20BA,20BHA,20MA,20YA,20RA,,20LA,20LLA,,20VA,20SHA,,20SA," ++
  "20HA,,,10SIGN NUKTA,,10VOWEL SIGN AA,30I,30II,30U,30UU,,,,,30EE,30AI,,,30OO,30AU,10SIGN VIRAMA,,,,20UDAAT,,,,,,," ++
  ",10LETTER KHHA,20GHHA,20ZA,20RRA,,20FA,,,,,,,,10DIGIT ZERO,20ONE,20TWO,20THREE,20FOUR,20FIVE,20SIX,20SEVEN," ++
  "20EIGHT,20NINE,10TIPPI,10ADDAK,10IRI,10URA,10EK ONKAR,10SIGN YAKASH,10ABBREVIATION SIGN,,,,,,,,,,," ++
  "00GUJARATI SIGN CANDRABINDU,20ANUSVARA,20VISARGA,,10LETTER A,20AA,20I,20II,20U,20UU,20VOCALIC R,30L," ++
  "10VOWEL CANDRA E,,11LETTER,20AI,10VOWEL CANDRA O,,11LETTER,20AU,20KA,20KHA,20GA,20GHA,20NGA,20CA,20CHA,20JA," ++
  "20JHA,20NYA,20TTA,20TTHA,20DDA,20DDHA,20NNA,20TA,20THA,20DA,20DHA,20NA,,20PA,20PHA,20BA,20BHA,20MA,20YA,20RA,," ++
  "20LA,20LLA,,20VA,20SHA,20SSA,20SA,20HA,,,10SIGN NUKTA,20AVAGRAHA,10VOWEL SIGN AA,30I"

def run0ac0 : String :=
  "00GUJARATI VOWEL SIGN II,30U,30UU,30VOCALIC R,40RR,30CANDRA E,,30E,30AI,30CANDRA O,,30O,30AU,10SIGN VIRAMA,,," ++
  "10OM"

def run0ae0 : String :=
  "00GUJARATI LETTER VOCALIC RR,30LL,10VOWEL SIGN VOCALIC L,40LL,,,10DIGIT ZERO,20ONE,20TWO,20THREE,20FOUR,20FIVE," ++
  "20SIX,20SEVEN,20EIGHT,20NINE,10ABBREVIATION SIGN,11RUPEE,,,,,,,,10LETTER ZHA,10SIGN SUKUN,20SHADDA,20MADDAH," ++
  "20THREE-DOT NUKTA ABOVE,22CIRCLE,22TWO-CIRCLE,,00ORIYA SIGN CANDRABINDU,20ANUSVARA,20VISARGA,,10LETTER A,20AA," ++
  "20I,20II,20U,20UU,20VOCALIC R,30L,,,20E,20AI,,,20O,20AU,20KA,20KHA,20GA,20GHA,20NGA,20CA,20CHA,20JA,20JHA,20NYA," ++
  "20TTA,20TTHA,20DDA,20DDHA,20NNA,20TA,20THA,20DA,20DHA,20NA,,20PA,20PHA,20BA,20BHA,20MA,20YA,20RA,,20LA,20LLA,," ++
  "20VA,20SHA,20SSA,20SA,20HA,,,10SIGN NUKTA,20AVAGRAHA,10VOWEL SIGN AA,30I,30II,30U,30UU,30VOCALIC R,40RR,,,30E," ++
  "30AI,,,30O,30AU,10SIGN VIRAMA,,,,,,,,20OVERLINE,10AI LENGTH MARK,12AU,,,,,10LETTER RRA,20RHA,,20YYA," ++
  "20VOCALIC RR,30LL,10VOWEL SIGN VOCALIC L,40LL,,,10DIGIT ZERO,20ONE,20TWO,20THREE,20FOUR,20FIVE,20SIX,20SEVEN," ++
  "20EIGHT,20NINE,10ISSHAR,10LETTER WA,10FRACTION ONE QUARTER,30HALF,20THREE QUARTERS,20ONE SIXTEENTH,30EIGHTH," ++
  "20THREE SIXTEENTHS,,,,,,,,,,,00TAMIL SIGN ANUSVARA,20VISARGA,,10LETTER A,20AA,20I,20II,20U,20UU,,,,20E,20EE," ++
  "20AI,,20O,20OO,20AU,20KA,,,,20NGA,20CA,,20JA,,20NYA,20TTA,,,,20NNA,20TA,,,,20NA,20NNNA,20PA,,,,20MA,20YA,20RA," ++
  "20RRA,20LA,20LLA,20LLLA,20VA,20SHA,20SSA,20SA,20HA,,,,,10VOWEL SIGN AA,30I,30II,30U,30UU,,,,30E,30EE,30AI,,30O," ++
  "30OO,30AU,10SIGN VIRAMA,,,10OM,,,,,,,10AU LENGTH MARK"

def run0be6 : String :=
  "00TAMIL DIGIT ZERO,20ONE,20TWO,20THREE,20FOUR,20FIVE,20SIX,20SEVEN,20EIGHT,20NINE,10NUMBER TEN,20ONE HUNDRED," ++
  "30THOUSAND,10DAY SIGN,11MONTH,11YEAR,11DEBIT,11CREDIT,11AS ABOVE,11RUPEE,11NUMBER,,,,,," ++
  "00TELUGU SIGN COMBINING CANDRABINDU ABOVE,20CANDRABINDU,20ANUSVARA,20VISARGA,20COMBINING ANUSVARA ABOVE," ++
  "10LETTER A,20AA,20I,20II,20U,20UU,20VOCALIC R,30L,,20E,20EE,20AI,,20O,20OO,20AU,20KA,20KHA,20GA,20GHA,20NGA," ++
  "20CA,20CHA,20JA,20JHA,20NYA,20TTA,20TTHA,20DDA,20DDHA,20NNA,20TA,20THA,20DA,20DHA,20NA,,20PA,20PHA,20BA,20BHA," ++
  "20MA,20YA,20RA,20RRA,20LA,20LLA,20LLLA,20VA,20SHA,20SSA,20SA,20HA,,,10SIGN NUKTA,20AVAGRAHA,10VOWEL SIGN AA,30I," ++
  "30II,30U,30UU,30VOCALIC R,40RR,,30E,30EE,30AI,,30O,30OO,30AU,10SIGN VIRAMA,,,,,,,,10LENGTH MARK,12AI,," ++
  "10LETTER TSA,20DZA,20RRRA,,,20NAKAARA POLLU,,,20VOCALIC RR,30LL,10VOWEL SIGN VOCALIC L,40LL,,,10DIGIT ZERO," ++
  "20ONE,20TWO,20THREE,20FOUR,20FIVE,20SIX,20SEVEN,20EIGHT,20NINE,,,,,,,,10SIGN SIDDHAM," ++
  "10FRACTION DIGIT ZERO FOR ODD POWERS OF FOUR,35ONE,35TWO,35THREE,33ONE FOR EVEN,35TWO,35THREE,10SIGN TUUMU"

def run0c80 : String :=
  "00KANNADA SIGN SPACING CANDRABINDU,20CANDRABINDU,20ANUSVARA,20VISARGA,20SIDDHAM,10LETTER A,20AA,20I,20II,20U," ++
  "20UU,20VOCALIC R,30L,,20E,20EE,20AI,,20O,20OO,20AU,20KA,20KHA,20GA,20GHA,20NGA,20CA,20CHA,20JA,20JHA,20NYA," ++
  "20TTA,20TTHA,20DDA,20DDHA,20NNA,20TA,20THA,20DA,20DHA,20NA,,20PA,20PHA,20BA,20BHA,20MA,20YA,20RA,20RRA,20LA," ++
  "20LLA,,20VA,20SHA,20SSA,20SA,20HA,,,10SIGN NUKTA,20AVAGRAHA,10VOWEL SIGN AA,30I,30II,30U,30UU,30VOCALIC R,40RR,," ++
  "30E,30EE,30AI,,30O,30OO,30AU,10SIGN VIRAMA,,,,,,,,10LENGTH MARK,12AI,,,,,,,10LETTER NAKAARA POLLU,20FA,," ++
  "20VOCALIC RR,30LL,10VOWEL SIGN VOCALIC L,40LL,,,10DIGIT ZERO,20ONE,20TWO,20THREE,20FOUR,20FIVE,20SIX,20SEVEN," ++
  "20EIGHT,20NINE,,10SIGN JIHVAMULIYA,20UPADHMANIYA"

def run0d00 : String :=
  "00MALAYALAM SIGN COMBINING ANUSVARA ABOVE,20CANDRABINDU,20ANUSVARA,20VISARGA,10LETTER VEDIC ANUSVARA,20A,20AA," ++
  "20I,20II,20U,20UU,20VOCALIC R,30L,,20E,20EE,20AI,,20O,20OO,20AU,20KA,20KHA,20GA,20GHA,20NGA,20CA,20CHA,20JA," ++
  "20JHA,20NYA,20TTA,20TTHA,20DDA,20DDHA,20NNA,20TA,20THA,20DA,20DHA,20NA,20NNNA,20PA,20PHA,20BA,20BHA,20MA,20YA," ++
  "20RA,20RRA,20LA,20LLA,20LLLA,20VA,20SHA,20SSA,20SA,20HA,20TTTA,10SIGN VERTICAL BAR VIRAMA,21CIRCULAR,20AVAGRAHA," ++
  "10VOWEL SIGN AA,30I,30II,30U,30UU,30VOCALIC R,40RR,,30E,30EE,30AI,,30O,30OO,30AU,10SIGN VIRAMA," ++
  "10LETTER DOT REPH,10SIGN PARA,,,,,10LETTER CHILLU M,30Y,30LLL,10AU LENGTH MARK," ++
  "10FRACTION ONE ONE-HUNDRED-AND-SIXTIETH,30FORTIETH,20THREE EIGHTIETHS,20ONE TWENTIETH,30TENTH," ++
  "20THREE TWENTIETHS,20ONE FIFTH,10LETTER ARCHAIC II,20VOCALIC RR,30LL,10VOWEL SIGN VOCALIC L,40LL,,,10DIGIT ZERO," ++
  "20ONE,20TWO,20THREE,20FOUR,20FIVE,20SIX,20SEVEN,20EIGHT,20NINE,10NUMBER TEN,20ONE HUNDRED,30THOUSAND," ++
  "10FRACTION ONE QUARTER,30HALF,20THREE QUARTERS,20ONE SIXTEENTH,30EIGHTH,20THREE SIXTEENTHS,10DATE MARK," ++
  "10LETTER CHILLU NN,30N,30RR,30L,30LL,30K,,00SINHALA SIGN CANDRABINDU,20ANUSVARAYA,20VISARGAYA,,10LETTER AYANNA," ++
  "20AAYANNA,20AEYANNA,20AEEYANNA,20IYANNA,20IIYANNA,20UYANNA,20UUYANNA,20IRUYANNA,20IRUUYANNA,20ILUYANNA," ++
  "20ILUUYANNA,20EYANNA,20EEYANNA,20AIYANNA,20OYANNA,20OOYANNA,20AUYANNA,,,,20ALPAPRAANA KAYANNA,21MAHAAPRAANA," ++
  "20ALPAPRAANA GAYANNA,21MAHAAPRAANA,20KANTAJA NAASIKYAYA,20SANYAKA GAYANNA,20ALPAPRAANA CAYANNA,21MAHAAPRAANA," ++
  "20ALPAPRAANA JAYANNA,21MAHAAPRAANA,20TAALUJA NAASIKYAYA,30SANYOOGA NAAKSIKYAYA,20SANYAKA JAYANNA," ++
  "20ALPAPRAANA TTAYANNA,21MAHAAPRAANA,20ALPAPRAANA DDAYANNA,21MAHAAPRAANA,20MUURDHAJA NAYANNA,20SANYAKA DDAYANNA," ++
  "20ALPAPRAANA TAYANNA,21MAHAAPRAANA,20ALPAPRAANA DAYANNA,21MAHAAPRAANA,20DANTAJA NAYANNA,,20SANYAKA DAYANNA," ++
  "20ALPAPRAANA PAYANNA,21MAHAAPRAANA,20ALPAPRAANA BAYANNA,21MAHAAPRAANA,20MAYANNA,20AMBA BAYANNA,20YAYANNA," ++
  "20RAYANNA,,20DANTAJA LAYANNA,,,20VAYANNA,20TAALUJA SAYANNA,21MUURDHAJA,21DANTAJA,20HAYANNA,20MUURDHAJA LAYANNA," ++
  "20FAYANNA,,,,10SIGN AL-LAKUNA,,,,,10VOWEL SIGN AELA-PILLA,30KETTI AEDA-PILLA,31DIGA,30KETTI IS-PILLA,31DIGA," ++
  "30KETTI PAA-PILLA,,31DIGA,,30GAETTA-PILLA,30KOMBUVA,31DIGA,30KOMBU DEKA,30KOMBUVA HAA AELA-PILLA,51DIGA," ++
  "50GAYANUKITTA,30GAYANUKITTA,,,,,,,10LITH DIGIT ZERO,30ONE,30TWO,30THREE,30FOUR,30FIVE,30SIX,30SEVEN,30EIGHT," ++
  "30NINE,,,10VOWEL SIGN DIGA GAETTA-PILLA,40GAYANUKITTA,10PUNCTUATION KUNDDALIYA"

def run0e01 : String :=
  "00THAI CHARACTER KO KAI,20KHO KHAI,30KHUAT,30KHWAI,30KHON,30RAKHANG,20NGO NGU,20CHO CHAN,30CHING,30CHANG," ++
  "20SO SO,20CHO CHOE,20YO YING,20DO CHADA,20TO PATAK,20THO THAN,30NANGMONTHO,30PHUTHAO,20NO NEN,20DO DEK,20TO TAO," ++
  "20THO THUNG,30THAHAN,30THONG,20NO NU,20BO BAIMAI,20PO PLA,20PHO PHUNG,20FO FA,20PHO PHAN,20FO FAN,20PHO SAMPHAO," ++
  "20MO MA,20YO YAK,20RO RUA,20RU,20LO LING,20LU,20WO WAEN,20SO SALA,30RUSI,30SUA,20HO HIP,20LO CHULA,20O ANG," ++
  "20HO NOKHUK,20PAIYANNOI,20SARA A,20MAI HAN-AKAT,20SARA AA,30AM,30I,30II,30UE,30UEE,30U,30UU,20PHINTHU,,,,," ++
  "10CURRENCY SYMBOL BAHT,10CHARACTER SARA E,30AE,30O,30AI MAIMUAN,40MAIMALAI,20LAKKHANGYAO,20MAIYAMOK,20MAITAIKHU," ++
  "20MAI EK,30THO,30TRI,30CHATTAWA,20THANTHAKHAT,20NIKHAHIT,20YAMAKKAN,20FONGMAN,10DIGIT ZERO,20ONE,20TWO,20THREE," ++
  "20FOUR,20FIVE,20SIX,20SEVEN,20EIGHT,20NINE,10CHARACTER ANGKHANKHU,20KHOMUT"

def run0e81 : String :=
  "00LAO LETTER KO,20KHO SUNG,,30TAM,,20PALI GHA,20NGO,20CO,20PALI CHA,20SO TAM,,20PALI JHA,20NYO,20PALI NYA,30TTA," ++
  "30TTHA,30DDA,30DDHA,30NNA,20DO,20TO,20THO SUNG,30TAM,20PALI DHA,20NO,20BO,20PO,20PHO SUNG,20FO TAM,21PHO," ++
  "20FO SUNG,20PALI BHA,20MO,20YO,20LO LING,,30LOOT,,20WO,20SANSKRIT SHA,30SSA,20SO SUNG,21HO,20PALI LLA,20O," ++
  "20HO TAM,10ELLIPSIS,10VOWEL SIGN A,30MAI KAN,30AA,30AM,30I,30II,30Y,30YY,30U,30UU,10SIGN PALI VIRAMA," ++
  "10VOWEL SIGN MAI KON,10SEMIVOWEL SIGN LO,30NYO,,,10VOWEL SIGN E,30EI,30O,30AY,30AI,,10KO LA,,10TONE MAI EK," ++
  "30THO,30TI,30CATAWA,10CANCELLATION MARK,10NIGGAHITA,,,10DIGIT ZERO,20ONE,20TWO,20THREE,20FOUR,20FIVE,20SIX," ++
  "20SEVEN,20EIGHT,20NINE,,,10HO NO,20MO,10LETTER KHMU GO,30NYO"

def run0f00 : String :=
  "00TIBETAN SYLLABLE OM,10MARK GTER YIG MGO TRUNCATED A,50-UM RNAM BCAD MA,61GTER TSHEG,21INITIAL YIG MGO MDUN," ++
  "21CLOSING YIG MGO SGAB,21CARET YIG MGO PHUR SHAD,22YIG MGO TSHEG,20SBRUL SHAD,20BSKUR YIG MGO,22BKA- SHOG," ++
  "20INTERSYLLABIC TSHEG,20DELIMITER TSHEG BSTAR,20SHAD,21NYIS,21TSHEG,22NYIS,21RIN CHEN SPUNGS,21RGYA GRAM," ++
  "20CARET -DZUD RTAGS ME LONG CAN,20GTER TSHEG,10LOGOTYPE SIGN CHAD RTAGS,31LHAG," ++
  "11ASTROLOGICAL SIGN SGRA GCAN -CHAR,30-KHYUD PA,30SDONG TSHUGS,10SIGN RDEL DKAR GCIG,40GNYIS,40GSUM,30NAG GCIG," ++
  "40GNYIS,30DKAR RDEL NAG,10DIGIT ZERO,20ONE,20TWO,20THREE,20FOUR,20FIVE,20SIX,20SEVEN,20EIGHT,20NINE,20HALF ONE," ++
  "30TWO,30THREE,30FOUR,30FIVE,30SIX,30SEVEN,30EIGHT,30NINE,30ZERO,10MARK BSDUS RTAGS,20NGAS BZUNG NYI ZLA," ++
  "20CARET -DZUD RTAGS BZHI MIG CAN,20NGAS BZUNG SGOR RTAGS,20CHE MGO,20TSA -PHRU,20GUG RTAGS GYON,40GYAS," ++
  "20ANG KHANG GYON,40GYAS,10SIGN YAR TSHES,21MAR,10LETTER KA,20KHA,20GA,20GHA,20NGA,20CA,20CHA,20JA,,20NYA,20TTA," ++
  "20TTHA,20DDA,20DDHA,20NNA,20TA,20THA,20DA,20DHA,20NA,20PA,20PHA,20BA,20BHA,20MA,20TSA,20TSHA,20DZA,20DZHA,20WA," ++
  "20ZHA,20ZA,20-A,20YA,20RA,20LA,20SHA,20SSA,20SA,20HA,20A,20KSSA,20FIXED-FORM RA,20KKA,20RRA,,,,,10VOWEL SIGN AA," ++
  "30I,30II,30U,30UU,30VOCALIC R,40RR,40L,40LL,30E,30EE,30O,30OO,10SIGN RJES SU NGA RO,20RNAM BCAD"

def run0f80 : String :=
  "00TIBETAN VOWEL SIGN REVERSED I,40II,10SIGN NYI ZLA NAA DA,20SNA LDAN,10MARK HALANTA,20PALUTA,10SIGN LCI RTAGS," ++
  "21YANG,20LCE TSA CAN,21MCHU,20GRU CAN RGYINGS,31MED,20INVERTED MCHU CAN,11SUBJOINED SIGN LCE TSA,31MCHU," ++
  "32INVERTED,20LETTER KA,30KHA,30GA,30GHA,30NGA,30CA,30CHA,30JA,,30NYA,30TTA,30TTHA,30DDA,30DDHA,30NNA,30TA,30THA," ++
  "30DA,30DHA,30NA,30PA,30PHA,30BA,30BHA,30MA,30TSA,30TSHA,30DZA,30DZHA,30WA,30ZHA,30ZA,30-A,30YA,30RA,30LA,30SHA," ++
  "30SSA,30SA,30HA,30A,30KSSA,30FIXED-FORM WA,40YA,40RA,,10KU RU KHA,40BZHI MIG CAN,10CANTILLATION SIGN HEAVY BEAT," ++
  "31LIGHT,30CANG TE-U,30SBUB -CHAL,10SYMBOL DRIL BU,20RDO RJE,20PADMA GDAN,20RDO RJE RGYA GRAM,20PHUR PA,20NOR BU," ++
  "40NYIS -KHYIL,41GSUM,41BZHI,,10SIGN RDEL NAG RDEL DKAR,40GSUM,10MARK BSKA- SHOG GI MGO RGYAN,23MNYAM YIG," ++
  "20NYIS TSHEG,20INITIAL BRDA RNYING YIG MGO MDUN MA,21CLOSING BRDA RNYING YIG MGO SGAB," ++
  "00RIGHT-FACING SVASTI SIGN,02LEFT-FACING,00RIGHT-FACING SVASTI SIGN WITH DOTS,04LEFT-FACING," ++
  "00TIBETAN MARK LEADING MCHAN RTAGS,22TRAILING"

/-- The runs with their first and last characters. -/
def runs : List (Nat × Nat × String) := [
  (0x900, 0x97f, run0900), (0x980, 0xabf, run0980), (0xac0, 0xad0, run0ac0), (0xae0, 0xbd7, run0ae0),
  (0xbe6, 0xc7f, run0be6), (0xc80, 0xcf2, run0c80), (0xd00, 0xdf4, run0d00), (0xe01, 0xe5b, run0e01),
  (0xe81, 0xedf, run0e81), (0xf00, 0xf7f, run0f00), (0xf80, 0xfda, run0f80)]

end SocksTunnel.CharacterName.Indic
