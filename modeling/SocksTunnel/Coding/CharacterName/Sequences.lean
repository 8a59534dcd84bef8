/-
  SocksTunnel.Coding.CharacterName.Sequences — the names of sequences of characters. An
  entry tells how many first and last words of the name before it stay, then has its own
  words between these.
-/

namespace SocksTunnel.CharacterName.Sequences

/-- The names in their order. -/
def run : String :=
  "00KEYCAP NUMBER SIGN,10ASTERISK,10DIGIT ZERO,20ONE,20TWO,20THREE,20FOUR,20FIVE,20SIX,20SEVEN,20EIGHT,20NINE," ++
  "00LATIN CAPITAL LETTER A WITH MACRON AND GRAVE,16SMALL,14CAPITAL LETTER I,16SMALL,14CAPITAL LETTER U,16SMALL," ++
  "10CAPITAL LETTER E WITH VERTICAL LINE BELOW,16SMALL,10CAPITAL LETTER E WITH VERTICAL LINE BELOW AND GRAVE," ++
  "18SMALL,10CAPITAL LETTER E WITH VERTICAL LINE BELOW AND ACUTE,18SMALL," ++
  "10CAPITAL LETTER O WITH VERTICAL LINE BELOW,16SMALL,10CAPITAL LETTER O WITH VERTICAL LINE BELOW AND GRAVE," ++
  "18SMALL,10CAPITAL LETTER O WITH VERTICAL LINE BELOW AND ACUTE,18SMALL," ++
  "10CAPITAL LETTER S WITH VERTICAL LINE BELOW,16SMALL,10CAPITAL LETTER E WITH CIRCUMFLEX AND MACRON,16SMALL," ++
  "10CAPITAL LETTER E WITH CIRCUMFLEX AND CARON,16SMALL,30I WITH DOT ABOVE AND ACUTE,30NG WITH TILDE ABOVE," ++
  "10CAPITAL LETTER A WITH OGONEK AND ACUTE,16SMALL,10CAPITAL LETTER A WITH OGONEK AND TILDE,16SMALL," ++
  "10CAPITAL LETTER E WITH OGONEK AND ACUTE,16SMALL,10CAPITAL LETTER E WITH OGONEK AND TILDE,16SMALL," ++
  "10CAPITAL LETTER E WITH DOT ABOVE AND ACUTE,17SMALL,10CAPITAL LETTER E WITH DOT ABOVE AND TILDE,17SMALL," ++
  "30I WITH DOT ABOVE AND GRAVE,80TILDE,10CAPITAL LETTER I WITH OGONEK AND ACUTE," ++
  "12SMALL LETTER I WITH OGONEK AND DOT ABOVE,10CAPITAL LETTER I WITH OGONEK AND TILDE," ++
  "12SMALL LETTER I WITH OGONEK AND DOT ABOVE,11CAPITAL LETTER J WITH,11SMALL LETTER J WITH DOT ABOVE AND," ++
  "11CAPITAL LETTER L WITH,14SMALL,12CAPITAL LETTER M,14SMALL,12CAPITAL LETTER R,14SMALL," ++
  "10CAPITAL LETTER U WITH OGONEK AND ACUTE,16SMALL,10CAPITAL LETTER U WITH OGONEK AND TILDE,16SMALL," ++
  "10CAPITAL LETTER U WITH MACRON AND ACUTE,16SMALL,10CAPITAL LETTER U WITH MACRON AND TILDE,16SMALL," ++
  "30AE WITH GRAVE,32OPEN O,60ACUTE,30TURNED V WITH GRAVE,60ACUTE,30SCHWA WITH GRAVE,50ACUTE," ++
  "30HOOKED SCHWA WITH GRAVE,60ACUTE,00ARABIC SEQUENCE YEH WITH HAMZA ABOVE WITH ALEF,70WAW,70ALEF MAKSURA,70OE," ++
  "70U,70YU,70E,70AE,20NOON WITH KEHEH,00DEVANAGARI SEQUENCE FOR LETTER QA,40KHHA,40GHHA,40ZA,40DDDHA,40RHA,40FA," ++
  "40YYA,00BENGALI SEQUENCE FOR LETTER RRA,40RHA,40YYA,00GURMUKHI SEQUENCE FOR LETTER LLA,40SHA,40KHHA,40GHHA,40ZA," ++
  "40FA,00ORIYA SEQUENCE FOR LETTER RRA,40RHA,00BENGALI LETTER KHINYA,00TAMIL CONSONANT K,20NG,20C,20NY,20TT,20NN," ++
  "20T,20N,20P,20M,20Y,20R,20L,20V,20LLL,20LL,20RR,20NNN,20J,20SH,20SS,20S,20H,20KSS,10SYLLABLE KAA,20KI,20KII," ++
  "20KU,20KUU,20KE,20KEE,20KAI,20KO,20KOO,20KAU,20NGAA,20NGI,20NGII,20NGU,20NGUU,20NGE,20NGEE,20NGAI,20NGO,20NGOO," ++
  "20NGAU,20CAA,20CI,20CII,20CU,20CUU,20CE,20CEE,20CAI,20CO,20COO,20CAU,20NYAA,20NYI,20NYII,20NYU,20NYUU,20NYE," ++
  "20NYEE,20NYAI,20NYO,20NYOO,20NYAU,20TTAA,20TTI,20TTII,20TTU,20TTUU,20TTE,20TTEE,20TTAI,20TTO,20TTOO,20TTAU," ++
  "20NNAA,20NNI,20NNII,20NNU,20NNUU,20NNE,20NNEE,20NNAI,20NNO,20NNOO,20NNAU,20TAA,20TI,20TII,20TU,20TUU,20TE,20TEE," ++
  "20TAI,20TO,20TOO,20TAU,20NAA,20NI,20NII,20NU,20NUU,20NE,20NEE,20NAI,20NO,20NOO,20NAU,20PAA,20PI,20PII,20PU," ++
  "20PUU,20PE,20PEE,20PAI,20PO,20POO,20PAU,20MAA,20MI,20MII,20MU,20MUU,20ME,20MEE,20MAI,20MO,20MOO,20MAU,20YAA," ++
  "20YI,20YII,20YU,20YUU,20YE,20YEE,20YAI,20YO,20YOO,20YAU,20RAA,20RI,20RII,20RU,20RUU,20RE,20REE,20RAI,20RO,20ROO," ++
  "20RAU,20LAA,20LI,20LII,20LU,20LUU,20LE,20LEE,20LAI,20LO,20LOO,20LAU,20VAA,20VI,20VII,20VU,20VUU,20VE,20VEE," ++
  "20VAI,20VO,20VOO,20VAU,20LLLAA,20LLLI,20LLLII,20LLLU,20LLLUU,20LLLE,20LLLEE,20LLLAI,20LLLO,20LLLOO,20LLLAU," ++
  "20LLAA,20LLI,20LLII,20LLU,20LLUU,20LLE,20LLEE,20LLAI,20LLO,20LLOO,20LLAU,20RRAA,20RRI,20RRII,20RRU,20RRUU,20RRE," ++
  "20RREE,20RRAI,20RRO,20RROO,20RRAU,20NNNAA,20NNNI,20NNNII,20NNNU,20NNNUU,20NNNE,20NNNEE,20NNNAI,20NNNO,20NNNOO," ++
  "20NNNAU,20JAA,20JI,20JII,20JU,20JUU,20JE,20JEE,20JAI,20JO,20JOO,20JAU,20SHAA,20SHI,20SHII,20SHU,20SHUU,20SHE," ++
  "20SHEE,20SHAI,20SHO,20SHOO,20SHAU,20SSAA,20SSI,20SSII,20SSU,20SSUU,20SSE,20SSEE,20SSAI,20SSO,20SSOO,20SSAU," ++
  "20SAA,20SI,20SII,20SU,20SUU,20SE,20SEE,20SAI,20SO,20SOO,20SAU,20HAA,20HI,20HII,20HU,20HUU,20HE,20HEE,20HAI,20HO," ++
  "20HOO,20HAU,20KSSA,20KSSAA,20KSSI,20KSSII,20KSSU,20KSSUU,20KSSE,20KSSEE,20KSSAI,20KSSO,20KSSOO,20KSSAU,20SHRII," ++
  "00SINHALA CONSONANT SIGN YANSAYA,30RAKAARAANSAYA,30REPAYA,00GEORGIAN LETTER U-BRJGU," ++
  "00KHMER CONSONANT SIGN COENG KA,40KHA,40KO,40KHO,40NGO,40CA,40CHA,40CO,40CHO,40NYO,40DA,40TTHA,40DO,40TTHO,40NA," ++
  "40TA,40THA,40TO,40THO,40NO,40BA,40PHA,40PO,40PHO,40MO,40YO,40RO,40LO,40VO,40SHA,40SSA,40SA,40HA,40LA," ++
  "10VOWEL SIGN COENG QA,10INDEPENDENT VOWEL SIGN COENG QU,50RY,50RYY,50QE,10VOWEL SIGN OM,30AAM," ++
  "00HIRAGANA LETTER BIDAKUON NGA,30NGI,30NGU,30NGE,30NGO,00KATAKANA LETTER BIDAKUON NGA,30NGI,30NGU,30NGE,30NGO," ++
  "20AINU CE,30TU,30TO,30P,00MODIFIER LETTER EXTRA-HIGH EXTRA-LOW CONTOUR TONE BAR,23EXTRA-LOW EXTRA-HIGH"

end SocksTunnel.CharacterName.Sequences
