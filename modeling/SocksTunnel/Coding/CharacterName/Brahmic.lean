/-
  SocksTunnel.Coding.CharacterName.Brahmic — the names of letters and marks of scripts
  that come from the Brahmi one, run by run. A run has an entry for each of its
  characters in a row: how many first and last words of the name before it stay, then
  its own words between these; an empty entry has no name.
-/

namespace SocksTunnel.CharacterName.Brahmic

def run11000 : String :=
  "00BRAHMI SIGN CANDRABINDU,20ANUSVARA,20VISARGA,20JIHVAMULIYA,20UPADHMANIYA,10LETTER A,20AA,20I,20II,20U,20UU," ++
  "20VOCALIC R,30RR,30L,30LL,20E,20AI,20O,20AU,20KA,20KHA,20GA,20GHA,20NGA,20CA,20CHA,20JA,20JHA,20NYA,20TTA," ++
  "20TTHA,20DDA,20DDHA,20NNA,20TA,20THA,20DA,20DHA,20NA,20PA,20PHA,20BA,20BHA,20MA,20YA,20RA,20LA,20VA,20SHA,20SSA," ++
  "20SA,20HA,20LLA,20OLD TAMIL LLLA,40RRA,40NNNA,10VOWEL SIGN AA,31BHATTIPROLU,30I,30II,30U,30UU,30VOCALIC R,40RR," ++
  "40L,40LL,30E,30AI,30O,30AU,10VIRAMA,10DANDA,11DOUBLE,10PUNCTUATION DOT,21DOUBLE,20LINE,20CRESCENT BAR,20LOTUS,,," ++
  ",,10NUMBER ONE,20TWO,20THREE,20FOUR,20FIVE,20SIX,20SEVEN,20EIGHT,20NINE,20TEN,20TWENTY,20THIRTY,20FORTY,20FIFTY," ++
  "20SIXTY,20SEVENTY,20EIGHTY,20NINETY,20ONE HUNDRED,30THOUSAND,10DIGIT ZERO,20ONE,20TWO,20THREE,20FOUR,20FIVE," ++
  "20SIX,20SEVEN,20EIGHT,20NINE,10SIGN OLD TAMIL VIRAMA,10LETTER OLD TAMIL SHORT E,50O," ++
  "10VOWEL SIGN OLD TAMIL SHORT E,60O,10LETTER OLD TAMIL LLA,,,,,,,,,,10NUMBER JOINER"

def run11080 : String :=
  "00KAITHI SIGN CANDRABINDU,20ANUSVARA,20VISARGA,10LETTER A,20AA,20I,20II,20U,20UU,20E,20AI,20O,20AU,20KA,20KHA," ++
  "20GA,20GHA,20NGA,20CA,20CHA,20JA,20JHA,20NYA,20TTA,20TTHA,20DDA,20DDDHA,20DDHA,20RHA,20NNA,20TA,20THA,20DA," ++
  "20DHA,20NA,20PA,20PHA,20BA,20BHA,20MA,20YA,20RA,20LA,20VA,20SHA,20SSA,20SA,20HA,10VOWEL SIGN AA,30I,30II,30U," ++
  "30UU,30E,30AI,30O,30AU,10SIGN VIRAMA,20NUKTA,10ABBREVIATION SIGN,11ENUMERATION,11NUMBER,10SECTION MARK,12DOUBLE," ++
  "10DANDA,11DOUBLE,10VOWEL SIGN VOCALIC R,,,,,,,,,,,10NUMBER SIGN ABOVE,,,00SORA SOMPENG LETTER SAH,30TAH,30BAH," ++
  "30CAH,30DAH,30GAH,30MAH,30NGAH,30LAH,30NAH,30VAH,30PAH,30YAH,30RAH,30HAH,30KAH,30JAH,30NYAH,30AH,30EEH,30IH," ++
  "30UH,30OH,30EH,30MAE,,,,,,,,20DIGIT ZERO,30ONE,30TWO,30THREE,30FOUR,30FIVE,30SIX,30SEVEN,30EIGHT,30NINE"

def run11100 : String :=
  "00CHAKMA SIGN CANDRABINDU,20ANUSVARA,20VISARGA,10LETTER AA,20I,20U,20E,20KAA,20KHAA,20GAA,20GHAA,20NGAA,20CAA," ++
  "20CHAA,20JAA,20JHAA,20NYAA,20TTAA,20TTHAA,20DDAA,20DDHAA,20NNAA,20TAA,20THAA,20DAA,20DHAA,20NAA,20PAA,20PHAA," ++
  "20BAA,20BHAA,20MAA,20YYAA,20YAA,20RAA,20LAA,20WAA,20SAA,20HAA,10VOWEL SIGN A,30I,30II,30U,30UU,30E,30AI,30O," ++
  "30AU,30OI,10O MARK,11AU,10VIRAMA,10MAAYYAA,,10DIGIT ZERO,20ONE,20TWO,20THREE,20FOUR,20FIVE,20SIX,20SEVEN," ++
  "20EIGHT,20NINE,10SECTION MARK,10DANDA,11DOUBLE,10QUESTION MARK,10LETTER LHAA,10VOWEL SIGN AA,30EI,10LETTER VAA,," ++
  ",,,,,,,00MAHAJANI LETTER A,20I,20U,20E,20O,20KA,20KHA,20GA,20GHA,20CA,20CHA,20JA,20JHA,20NYA,20TTA,20TTHA,20DDA," ++
  "20DDHA,20NNA,20TA,20THA,20DA,20DHA,20NA,20PA,20PHA,20BA,20BHA,20MA,20RA,20LA,20VA,20SA,20HA,20RRA,10SIGN NUKTA," ++
  "10ABBREVIATION SIGN,10SECTION MARK,10LIGATURE SHRI"

def run11180 : String :=
  "00SHARADA SIGN CANDRABINDU,20ANUSVARA,20VISARGA,10LETTER A,20AA,20I,20II,20U,20UU,20VOCALIC R,30RR,30L,30LL,20E," ++
  "20AI,20O,20AU,20KA,20KHA,20GA,20GHA,20NGA,20CA,20CHA,20JA,20JHA,20NYA,20TTA,20TTHA,20DDA,20DDHA,20NNA,20TA," ++
  "20THA,20DA,20DHA,20NA,20PA,20PHA,20BA,20BHA,20MA,20YA,20RA,20LA,20LLA,20VA,20SHA,20SSA,20SA,20HA," ++
  "10VOWEL SIGN AA,30I,30II,30U,30UU,30VOCALIC R,40RR,40L,40LL,30E,30AI,30O,30AU,10SIGN VIRAMA,20AVAGRAHA," ++
  "20JIHVAMULIYA,20UPADHMANIYA,10OM,10DANDA,11DOUBLE,10ABBREVIATION SIGN,10SEPARATOR,10SANDHI MARK,10SIGN NUKTA," ++
  "10VOWEL MODIFIER MARK,11EXTRA SHORT VOWEL,11SUTRA,10VOWEL SIGN PRISHTHAMATRA E,10SIGN INVERTED CANDRABINDU," ++
  "10DIGIT ZERO,20ONE,20TWO,20THREE,20FOUR,20FIVE,20SIX,20SEVEN,20EIGHT,20NINE,10EKAM,10SIGN SIDDHAM,10HEADSTROKE," ++
  "10CONTINUATION SIGN,10SECTION MARK-1,20MARK-2,,00SINHALA ARCHAIC DIGIT ONE,30TWO,30THREE,30FOUR,30FIVE,30SIX," ++
  "30SEVEN,30EIGHT,30NINE,20NUMBER TEN,30TWENTY,30THIRTY,30FORTY,30FIFTY,30SIXTY,30SEVENTY,30EIGHTY,30NINETY," ++
  "30ONE HUNDRED,40THOUSAND"

def run11200 : String :=
  "00KHOJKI LETTER A,20AA,20I,20U,20E,20AI,20O,20AU,20KA,20KHA,20GA,20GGA,20GHA,20NGA,20CA,20CHA,20JA,20JJA,,20NYA," ++
  "20TTA,20TTHA,20DDA,20DDHA,20NNA,20TA,20THA,20DA,20DDDA,20DHA,20NA,20PA,20PHA,20BA,20BBA,20BHA,20MA,20YA,20RA," ++
  "20LA,20VA,20SA,20HA,20LLA,10VOWEL SIGN AA,30I,30II,30U,30E,30AI,30O,30AU,10SIGN ANUSVARA,20VIRAMA,20NUKTA," ++
  "20SHADDA,10DANDA,11DOUBLE,10WORD SEPARATOR,10SECTION MARK,12DOUBLE,10ABBREVIATION SIGN,10SIGN SUKUN"

def run11280 : String :=
  "00MULTANI LETTER A,20I,20U,20E,20KA,20KHA,20GA,,20GHA,,20CA,20CHA,20JA,20JJA,,20NYA,20TTA,20TTHA,20DDA,20DDDA," ++
  "20DDHA,20NNA,20TA,20THA,20DA,20DHA,20NA,20PA,20PHA,20BA,,20BHA,20MA,20YA,20RA,20LA,20VA,20SA,20HA,20RRA,20RHA," ++
  "10SECTION MARK,,,,,,,00KHUDAWADI LETTER A,20AA,20I,20II,20U,20UU,20E,20AI,20O,20AU,20KA,20KHA,20GA,20GGA,20GHA," ++
  "20NGA,20CA,20CHA,20JA,20JJA,20JHA,20NYA,20TTA,20TTHA,20DDA,20DDDA,20RRA,20DDHA,20NNA,20TA,20THA,20DA,20DHA,20NA," ++
  "20PA,20PHA,20BA,20BBA,20BHA,20MA,20YA,20RA,20LA,20VA,20SHA,20SA,20HA,10SIGN ANUSVARA,10VOWEL SIGN AA,30I,30II," ++
  "30U,30UU,30E,30AI,30O,30AU,10SIGN NUKTA,20VIRAMA,,,,,,10DIGIT ZERO,20ONE,20TWO,20THREE,20FOUR,20FIVE,20SIX," ++
  "20SEVEN,20EIGHT,20NINE"

def run11300 : String :=
  "00GRANTHA SIGN COMBINING ANUSVARA ABOVE,20CANDRABINDU,20ANUSVARA,20VISARGA,,10LETTER A,20AA,20I,20II,20U,20UU," ++
  "20VOCALIC R,30L,,,20EE,20AI,,,20OO,20AU,20KA,20KHA,20GA,20GHA,20NGA,20CA,20CHA,20JA,20JHA,20NYA,20TTA,20TTHA," ++
  "20DDA,20DDHA,20NNA,20TA,20THA,20DA,20DHA,20NA,,20PA,20PHA,20BA,20BHA,20MA,20YA,20RA,,20LA,20LLA,,20VA,20SHA," ++
  "20SSA,20SA,20HA,,00COMBINING BINDU BELOW,00GRANTHA SIGN NUKTA,20AVAGRAHA,10VOWEL SIGN AA,30I,30II,30U,30UU," ++
  "30VOCALIC R,40RR,,,30EE,30AI,,,30OO,30AU,10SIGN VIRAMA,,,10OM,,,,,,,10AU LENGTH MARK,,,,,,10SIGN PLUTA," ++
  "10LETTER VEDIC ANUSVARA,31DOUBLE,20VOCALIC RR,30LL,10VOWEL SIGN VOCALIC L,40LL,,,00COMBINING GRANTHA DIGIT ZERO," ++
  "30ONE,30TWO,30THREE,30FOUR,30FIVE,30SIX,,,,20LETTER A,30KA,30NA,30VI,30PA"

def run11400 : String :=
  "00NEWA LETTER A,20AA,20I,20II,20U,20UU,20VOCALIC R,30RR,30L,30LL,20E,20AI,20O,20AU,20KA,20KHA,20GA,20GHA,20NGA," ++
  "20NGHA,20CA,20CHA,20JA,20JHA,20NYA,20NYHA,20TTA,20TTHA,20DDA,20DDHA,20NNA,20TA,20THA,20DA,20DHA,20NA,20NHA,20PA," ++
  "20PHA,20BA,20BHA,20MA,20MHA,20YA,20RA,20RHA,20LA,20LHA,20WA,20SHA,20SSA,20SA,20HA,10VOWEL SIGN AA,30I,30II,30U," ++
  "30UU,30VOCALIC R,40RR,40L,40LL,30E,30AI,30O,30AU,10SIGN VIRAMA,20CANDRABINDU,20ANUSVARA,20VISARGA,20NUKTA," ++
  "20AVAGRAHA,20FINAL ANUSVARA,10OM,10SIDDHI,10DANDA,11DOUBLE,10COMMA,10GAP FILLER,10ABBREVIATION SIGN," ++
  "10DIGIT ZERO,20ONE,20TWO,20THREE,20FOUR,20FIVE,20SIX,20SEVEN,20EIGHT,20NINE,10DOUBLE COMMA,10PLACEHOLDER MARK,," ++
  "10INSERTION SIGN,10SANDHI MARK,10LETTER VEDIC ANUSVARA,10SIGN JIHVAMULIYA,20UPADHMANIYA"

def run11480 : String :=
  "00TIRHUTA ANJI,10LETTER A,20AA,20I,20II,20U,20UU,20VOCALIC R,30RR,30L,30LL,20E,20AI,20O,20AU,20KA,20KHA,20GA," ++
  "20GHA,20NGA,20CA,20CHA,20JA,20JHA,20NYA,20TTA,20TTHA,20DDA,20DDHA,20NNA,20TA,20THA,20DA,20DHA,20NA,20PA,20PHA," ++
  "20BA,20BHA,20MA,20YA,20RA,20LA,20VA,20SHA,20SSA,20SA,20HA,10VOWEL SIGN AA,30I,30II,30U,30UU,30VOCALIC R,40RR," ++
  "40L,40LL,30E,31SHORT,30AI,30O,31SHORT,30AU,10SIGN CANDRABINDU,20ANUSVARA,20VISARGA,20VIRAMA,20NUKTA,20AVAGRAHA," ++
  "10GVANG,10ABBREVIATION SIGN,10OM,,,,,,,,,10DIGIT ZERO,20ONE,20TWO,20THREE,20FOUR,20FIVE,20SIX,20SEVEN,20EIGHT," ++
  "20NINE"

def run11580 : String :=
  "00SIDDHAM LETTER A,20AA,20I,20II,20U,20UU,20VOCALIC R,30RR,30L,30LL,20E,20AI,20O,20AU,20KA,20KHA,20GA,20GHA," ++
  "20NGA,20CA,20CHA,20JA,20JHA,20NYA,20TTA,20TTHA,20DDA,20DDHA,20NNA,20TA,20THA,20DA,20DHA,20NA,20PA,20PHA,20BA," ++
  "20BHA,20MA,20YA,20RA,20LA,20VA,20SHA,20SSA,20SA,20HA,10VOWEL SIGN AA,30I,30II,30U,30UU,30VOCALIC R,40RR,,,30E," ++
  "30AI,30O,30AU,10SIGN CANDRABINDU,20ANUSVARA,20VISARGA,20VIRAMA,20NUKTA,20SIDDHAM,10DANDA,11DOUBLE," ++
  "10SEPARATOR DOT,20BAR,10REPETITION MARK-1,20MARK-2,20MARK-3,10END OF TEXT MARK," ++
  "10SECTION MARK WITH TRIDENT AND U-SHAPED ORNAMENTS,60DOTTED CRESCENTS,43RAYS,71DOUBLE,71TRIPLE,30DOUBLE RING," ++
  "50WITH RAYS,30WITH DOUBLE CRESCENTS,41TRIPLE,41QUADRUPLE,41SEPTUPLE,40CIRCLES AND RAYS,60TWO ENCLOSURES,61FOUR," ++
  "10LETTER THREE-CIRCLE ALTERNATE I,22TWO-CIRCLE,40II,20ALTERNATE U,12VOWEL SIGN,40UU"

def run11600 : String :=
  "00MODI LETTER A,20AA,20I,20II,20U,20UU,20VOCALIC R,30RR,30L,30LL,20E,20AI,20O,20AU,20KA,20KHA,20GA,20GHA,20NGA," ++
  "20CA,20CHA,20JA,20JHA,20NYA,20TTA,20TTHA,20DDA,20DDHA,20NNA,20TA,20THA,20DA,20DHA,20NA,20PA,20PHA,20BA,20BHA," ++
  "20MA,20YA,20RA,20LA,20VA,20SHA,20SSA,20SA,20HA,20LLA,10VOWEL SIGN AA,30I,30II,30U,30UU,30VOCALIC R,40RR,40L," ++
  "40LL,30E,30AI,30O,30AU,10SIGN ANUSVARA,20VISARGA,20VIRAMA,20ARDHACANDRA,10DANDA,11DOUBLE,10ABBREVIATION SIGN," ++
  "10SIGN HUVA,,,,,,,,,,,,10DIGIT ZERO,20ONE,20TWO,20THREE,20FOUR,20FIVE,20SIX,20SEVEN,20EIGHT,20NINE,,,,,,," ++
  "00MONGOLIAN BIRGA WITH ORNAMENT,10ROTATED BIRGA,10DOUBLE BIRGA WITH ORNAMENT,13TRIPLE,11BIRGA WITH DOUBLE," ++
  "11ROTATED BIRGA WITH,41DOUBLE,10INVERTED BIRGA,30WITH DOUBLE ORNAMENT,10SWIRL BIRGA,30WITH ORNAMENT,41DOUBLE," ++
  "15TURNED"

def run11680 : String :=
  "00TAKRI LETTER A,20AA,20I,20II,20U,20UU,20E,20AI,20O,20AU,20KA,20KHA,20GA,20GHA,20NGA,20CA,20CHA,20JA,20JHA," ++
  "20NYA,20TTA,20TTHA,20DDA,20DDHA,20NNA,20TA,20THA,20DA,20DHA,20NA,20PA,20PHA,20BA,20BHA,20MA,20YA,20RA,20LA,20VA," ++
  "20SHA,20SA,20HA,20RRA,10SIGN ANUSVARA,20VISARGA,10VOWEL SIGN AA,30I,30II,30U,30UU,30E,30AI,30O,30AU," ++
  "10SIGN VIRAMA,20NUKTA,10LETTER ARCHAIC KHA,10ABBREVIATION SIGN,,,,,,,10DIGIT ZERO,20ONE,20TWO,20THREE,20FOUR," ++
  "20FIVE,20SIX,20SEVEN,20EIGHT,20NINE"

def run11700 : String :=
  "00AHOM LETTER KA,20KHA,20NGA,20NA,20TA,21ALTERNATE,20PA,20PHA,20BA,20MA,20JA,20CHA,20THA,20RA,20LA,20SA,20NYA," ++
  "20HA,20A,20DA,20DHA,20GA,21ALTERNATE,20GHA,20BHA,20JHA,20ALTERNATE BA,,,10CONSONANT SIGN MEDIAL LA,40RA," ++
  "41LIGATING,10VOWEL SIGN A,30AA,30I,30II,30U,30UU,30E,30AW,30O,30AI,30AM,10SIGN KILLER,,,,,10DIGIT ZERO,20ONE," ++
  "20TWO,20THREE,20FOUR,20FIVE,20SIX,20SEVEN,20EIGHT,20NINE,10NUMBER TEN,20TWENTY,10SIGN SMALL SECTION,20SECTION," ++
  "20RULAI,10SYMBOL VI,10LETTER CA,20TTA,20TTHA,20DDA,20DDHA,20NNA,20LLA"

def run11800 : String :=
  "00DOGRA LETTER A,20AA,20I,20II,20U,20UU,20E,20AI,20O,20AU,20KA,20KHA,20GA,20GHA,20NGA,20CA,20CHA,20JA,20JHA," ++
  "20NYA,20TTA,20TTHA,20DDA,20DDHA,20NNA,20TA,20THA,20DA,20DHA,20NA,20PA,20PHA,20BA,20BHA,20MA,20YA,20RA,20LA,20VA," ++
  "20SHA,20SSA,20SA,20HA,20RRA,10VOWEL SIGN AA,30I,30II,30U,30UU,30VOCALIC R,40RR,30E,30AI,30O,30AU," ++
  "10SIGN ANUSVARA,20VISARGA,20VIRAMA,20NUKTA,10ABBREVIATION SIGN"

def run118a0 : String :=
  "00WARANG CITI CAPITAL LETTER NGAA,40A,40WI,40YU,40YA,40YO,40II,40UU,40E,40O,40ANG,40GA,40KO,40ENY,40YUJ,40UC," ++
  "40ENN,40ODD,40TTE,40NUNG,40DA,40AT,40AM,40BU,40PU,40HIYO,40HOLO,40HORR,40HAR,40SSUU,40SII,40VIYO," ++
  "20SMALL LETTER NGAA,40A,40WI,40YU,40YA,40YO,40II,40UU,40E,40O,40ANG,40GA,40KO,40ENY,40YUJ,40UC,40ENN,40ODD," ++
  "40TTE,40NUNG,40DA,40AT,40AM,40BU,40PU,40HIYO,40HOLO,40HORR,40HAR,40SSUU,40SII,40VIYO,20DIGIT ZERO,30ONE,30TWO," ++
  "30THREE,30FOUR,30FIVE,30SIX,30SEVEN,30EIGHT,30NINE,20NUMBER TEN,30TWENTY,30THIRTY,30FORTY,30FIFTY,30SIXTY," ++
  "30SEVENTY,30EIGHTY,30NINETY"

def run118ff : String :=
  "00WARANG CITI OM,00DIVES AKURU LETTER A,30AA,30I,30II,30U,30UU,30E,,,30O,,,30KA,30KHA,30GA,30GHA,30NGA,30CA," ++
  "30CHA,30JA,,30NYA,30TTA,,30DDA,30DDHA,30NNA,30TA,30THA,30DA,30DHA,30NA,30PA,30PHA,30BA,30BHA,30MA,30YA,30YYA," ++
  "30RA,30LA,30VA,30SHA,30SSA,30SA,30HA,30LLA,30ZA,20VOWEL SIGN AA,40I,40II,40U,40UU,40E,,40AI,40O,,," ++
  "20SIGN ANUSVARA,30CANDRABINDU,30HALANTA,20VIRAMA,20PREFIXED NASAL SIGN,20MEDIAL YA,20INITIAL RA,21MEDIAL," ++
  "20SIGN NUKTA,20DOUBLE DANDA,20GAP FILLER,20END OF TEXT MARK,,,,,,,,,,20DIGIT ZERO,30ONE,30TWO,30THREE,30FOUR," ++
  "30FIVE,30SIX,30SEVEN,30EIGHT,30NINE"

def run119a0 : String :=
  "00NANDINAGARI LETTER A,20AA,20I,20II,20U,20UU,20VOCALIC R,30RR,,,20E,20AI,20O,20AU,20KA,20KHA,20GA,20GHA,20NGA," ++
  "20CA,20CHA,20JA,20JHA,20NYA,20TTA,20TTHA,20DDA,20DDHA,20NNA,20TA,20THA,20DA,20DHA,20NA,20PA,20PHA,20BA,20BHA," ++
  "20MA,20YA,20RA,20LA,20VA,20SHA,20SSA,20SA,20HA,20LLA,20RRA,10VOWEL SIGN AA,30I,30II,30U,30UU,30VOCALIC R,40RR,,," ++
  "30E,30AI,30O,30AU,10SIGN ANUSVARA,20VISARGA,20VIRAMA,20AVAGRAHA,20SIDDHAM,10HEADSTROKE," ++
  "10VOWEL SIGN PRISHTHAMATRA E"

def run11a00 : String :=
  "00ZANABAZAR SQUARE LETTER A,20VOWEL SIGN I,40UE,40U,40E,40OE,40O,40AI,40AU,40REVERSED I,30LENGTH MARK," ++
  "20LETTER KA,30KHA,30GA,30GHA,30NGA,30CA,30CHA,30JA,30NYA,30TTA,30TTHA,30DDA,30DDHA,30NNA,30TA,30THA,30DA,30DHA," ++
  "30NA,30PA,30PHA,30BA,30BHA,30MA,30TSA,30TSHA,30DZA,30DZHA,30ZHA,30ZA,30-A,30YA,30RA,30LA,30VA,30SHA,30SSA,30SA," ++
  "30HA,30KSSA,20FINAL CONSONANT MARK,20SIGN VIRAMA,30CANDRABINDU,40WITH ORNAMENT,32CANDRA,30ANUSVARA,30VISARGA," ++
  "20CLUSTER-INITIAL LETTER RA,20CLUSTER-FINAL LETTER YA,40RA,40LA,40VA,20INITIAL HEAD MARK,22CLOSING,20MARK TSHEG," ++
  "30SHAD,31DOUBLE,30LONG TSHEG,20INITIAL DOUBLE-LINED HEAD MARK,23CLOSING,20SUBJOINER,,,,,,,,,00SOYOMBO LETTER A," ++
  "10VOWEL SIGN I,30UE,30U,30E,30O,30OE,30AI,30AU,30VOCALIC R,40L,20LENGTH MARK,10LETTER KA,20KHA,20GA,20GHA,20NGA," ++
  "20CA,20CHA,20JA,20JHA,20NYA,20TTA,20TTHA,20DDA,20DDHA,20NNA,20TA,20THA,20DA,20DHA,20NA,20PA,20PHA,20BA,20BHA," ++
  "20MA,20TSA,20TSHA,20DZA,20ZHA,20ZA,20-A,20YA,20RA,20LA,20VA,20SHA"

def run11a80 : String :=
  "00SOYOMBO LETTER SSA,20SA,20HA,20KSSA,10SIGN JIHVAMULIYA,20UPADHMANIYA,10CLUSTER-INITIAL LETTER RA,30LA,30SHA," ++
  "30SA,10FINAL CONSONANT SIGN G,40K,40NG,40D,40N,40B,40M,40R,40L,40SH,40S,40-A,10SIGN ANUSVARA,20VISARGA," ++
  "10GEMINATION MARK,10SUBJOINER,10MARK TSHEG,20SHAD,21DOUBLE,20PLUTA," ++
  "10HEAD MARK WITH MOON AND SUN AND TRIPLE FLAME,80FLAME,60SUN,10TERMINAL MARK-1,20MARK-2"

def run11ab0 : String :=
  "00CANADIAN SYLLABICS NATTILIK HI,30HII,30HO,30HOO,30HA,30HAA,30SHRI,30SHRII,30SHRO,30SHROO,30SHRA,30SHRAA,20SPE," ++
  "20SPI,20SPO,20SPA,00PAU CIN HAU LETTER PA,40KA,40LA,40MA,40DA,40ZA,40VA,40NGA,40HA,40GA,40KHA,40SA,40BA,40CA," ++
  "40TA,40THA,40NA,40PHA,40RA,40FA,40CHA,40A,40E,40I,40O,40U,40UA,40IA,40FINAL P,50K,50T,50M,50N,50L,50W,50NG,50Y," ++
  "30RISING TONE LONG,40TONE,30SANDHI GLOTTAL STOP,30RISING TONE LONG FINAL,50FINAL,31SANDHI GLOTTAL STOP," ++
  "40TONE LONG,40TONE,50LONG FINAL,50FINAL,30MID-LEVEL TONE,30GLOTTAL STOP VARIANT,30MID-LEVEL TONE LONG FINAL," ++
  "50FINAL,30LOW-FALLING TONE LONG,40TONE,30GLOTTAL STOP,30LOW-FALLING TONE LONG FINAL,50FINAL,31GLOTTAL STOP"

def run11c00 : String :=
  "00BHAIKSUKI LETTER A,20AA,20I,20II,20U,20UU,20VOCALIC R,30RR,30L,,20E,20AI,20O,20AU,20KA,20KHA,20GA,20GHA,20NGA," ++
  "20CA,20CHA,20JA,20JHA,20NYA,20TTA,20TTHA,20DDA,20DDHA,20NNA,20TA,20THA,20DA,20DHA,20NA,20PA,20PHA,20BA,20BHA," ++
  "20MA,20YA,20RA,20LA,20VA,20SHA,20SSA,20SA,20HA,10VOWEL SIGN AA,30I,30II,30U,30UU,30VOCALIC R,40RR,40L,,30E,30AI," ++
  "30O,30AU,10SIGN CANDRABINDU,20ANUSVARA,20VISARGA,20VIRAMA,20AVAGRAHA,10DANDA,11DOUBLE,10WORD SEPARATOR," ++
  "10GAP FILLER-1,20FILLER-2,,,,,,,,,,,10DIGIT ZERO,20ONE,20TWO,20THREE,20FOUR,20FIVE,20SIX,20SEVEN,20EIGHT,20NINE," ++
  "10NUMBER ONE,20TWO,20THREE,20FOUR,20FIVE,20SIX,20SEVEN,20EIGHT,20NINE,20TEN,20TWENTY,20THIRTY,20FORTY,20FIFTY," ++
  "20SIXTY,20SEVENTY,20EIGHTY,20NINETY,10HUNDREDS UNIT MARK,,,,01MARCHEN HEAD,10MARK SHAD,10LETTER KA,20KHA,20GA," ++
  "20NGA,20CA,20CHA,20JA,20NYA,20TA,20THA,20DA,20NA,20PA,20PHA"

def run11c80 : String :=
  "00MARCHEN LETTER BA,20MA,20TSA,20TSHA,20DZA,20WA,20ZHA,20ZA,20-A,20YA,20RA,20LA,20SHA,20SA,20HA,20A,,," ++
  "10SUBJOINED LETTER KA,30KHA,30GA,30NGA,30CA,30CHA,30JA,30NYA,30TA,30THA,30DA,30NA,30PA,30PHA,30BA,30MA,30TSA," ++
  "30TSHA,30DZA,30WA,30ZHA,30ZA,,30YA,30RA,30LA,30SHA,30SA,30HA,30A,10VOWEL SIGN AA,30I,30U,30E,30O," ++
  "10SIGN ANUSVARA,20CANDRABINDU"

def run11d00 : String :=
  "00MASARAM GONDI LETTER A,30AA,30I,30II,30U,30UU,30E,,30AI,30O,,30AU,30KA,30KHA,30GA,30GHA,30NGA,30CA,30CHA,30JA," ++
  "30JHA,30NYA,30TTA,30TTHA,30DDA,30DDHA,30NNA,30TA,30THA,30DA,30DHA,30NA,30PA,30PHA,30BA,30BHA,30MA,30YA,30RA," ++
  "30LA,30VA,30SHA,30SSA,30SA,30HA,30LLA,30KSSA,30JNYA,30TRA,20VOWEL SIGN AA,40I,40II,40U,40UU,40VOCALIC R,,,,40E,," ++
  "40AI,40O,,40AU,20SIGN ANUSVARA,30VISARGA,30NUKTA,30CANDRA,30HALANTA,20VIRAMA,20REPHA,20RA-KARA,,,,,,,,," ++
  "20DIGIT ZERO,30ONE,30TWO,30THREE,30FOUR,30FIVE,30SIX,30SEVEN,30EIGHT,30NINE,,,,,,,00GUNJALA GONDI LETTER A,30AA," ++
  "30I,30II,30U,30UU,,30EE,30AI,,30OO,30AU,30YA,30VA,30BA,30BHA,30MA,30KA,30KHA,30TA,30THA,30LA,30GA,30GHA,30DA," ++
  "30DHA,30NA,30CA,30CHA,30TTA,30TTHA,30LLA"

def run11d80 : String :=
  "00GUNJALA GONDI LETTER JA,30JHA,30DDA,30DDHA,30NGA,30PA,30PHA,30HA,30RA,30SA,20VOWEL SIGN AA,40I,40II,40U,40UU,," ++
  "40EE,40AI,,40OO,40AU,20SIGN ANUSVARA,30VISARGA,20VIRAMA,20OM,,,,,,,,20DIGIT ZERO,30ONE,30TWO,30THREE,30FOUR," ++
  "30FIVE,30SIX,30SEVEN,30EIGHT,30NINE"

def run11ee0 : String :=
  "00MAKASAR LETTER KA,20GA,20NGA,20PA,20BA,20MA,20TA,20DA,20NA,20CA,20JA,20NYA,20YA,20RA,20LA,20VA,20SA,20A," ++
  "10ANGKA,10VOWEL SIGN I,30U,30E,30O,10PASSIMBANG,10END OF SECTION"

def run11fb0 : String :=
  "00LISU LETTER YHA"

def run11fc0 : String :=
  "00TAMIL FRACTION ONE THREE-HUNDRED-AND-TWENTIETH,30ONE-HUNDRED-AND-SIXTIETH,30EIGHTIETH,30SIXTY-FOURTH," ++
  "30FORTIETH,30THIRTY-SECOND,20THREE EIGHTIETHS,30SIXTY-FOURTHS,20ONE TWENTIETH,30SIXTEENTH-1,30SIXTEENTH-2," ++
  "30TENTH,30EIGHTH,20THREE TWENTIETHS,30SIXTEENTHS,20ONE FIFTH,30QUARTER,30HALF-1,30HALF-2,20THREE QUARTERS," ++
  "20DOWNSCALING FACTOR KIIZH,10SIGN NEL,20CEVITU,20AAZHAAKKU,20UZHAKKU,20MUUVUZHAKKU,20KURUNI,20PATHAKKU," ++
  "20MUKKURUNI,20KAACU,20PANAM,20PON,20VARAAKAN,20PAARAM,20KUZHI,20VELI,10WET CULTIVATION SIGN,12DRY,11LAND," ++
  "11SALT PAN,11TRADITIONAL CREDIT,21NUMBER,11CURRENT,11AND ODD,11SPENT,11TOTAL,11IN POSSESSION,11STARTING FROM," ++
  "10SIGN MUTHALIYA,20VAKAIYARAA"

def run11fff : String :=
  "00TAMIL PUNCTUATION END OF TEXT"

/-- The runs with their first and last characters. -/
def runs : List (Nat × Nat × String) := [
  (0x11000, 0x1107f, run11000), (0x11080, 0x110f9, run11080), (0x11100, 0x11176, run11100),
  (0x11180, 0x111f4, run11180), (0x11200, 0x1123e, run11200), (0x11280, 0x112f9, run11280),
  (0x11300, 0x11374, run11300), (0x11400, 0x11461, run11400), (0x11480, 0x114d9, run11480),
  (0x11580, 0x115dd, run11580), (0x11600, 0x1166c, run11600), (0x11680, 0x116c9, run11680),
  (0x11700, 0x11746, run11700), (0x11800, 0x1183b, run11800), (0x118a0, 0x118f2, run118a0),
  (0x118ff, 0x11959, run118ff), (0x119a0, 0x119e4, run119a0), (0x11a00, 0x11a7f, run11a00),
  (0x11a80, 0x11aa2, run11a80), (0x11ab0, 0x11af8, run11ab0), (0x11c00, 0x11c7f, run11c00),
  (0x11c80, 0x11cb6, run11c80), (0x11d00, 0x11d7f, run11d00), (0x11d80, 0x11da9, run11d80),
  (0x11ee0, 0x11ef8, run11ee0), (0x11fb0, 0x11fb0, run11fb0), (0x11fc0, 0x11ff1, run11fc0),
  (0x11fff, 0x11fff, run11fff)]

end SocksTunnel.CharacterName.Brahmic
