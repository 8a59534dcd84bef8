/-
  SocksTunnel.Coding.CharacterName.Semitic — the names of letters and marks of the
  Hebrew, Arabic and related scripts, run by run. A run has an entry for each of its
  characters in a row: how many first and last words of the name before it stay, then
  its own words between these; an empty entry has no name.
-/

namespace SocksTunnel.CharacterName.Semitic

def run0591 : String :=
  "00HEBREW ACCENT ETNAHTA,20SEGOL,20SHALSHELET,20ZAQEF QATAN,30GADOL,20TIPEHA,20REVIA,20ZARQA,20PASHTA,20YETIV," ++
  "20TEVIR,20GERESH,30MUQDAM,20GERSHAYIM,20QARNEY PARA,20TELISHA GEDOLA,20PAZER,20ATNAH HAFUKH,20MUNAH,20MAHAPAKH," ++
  "20MERKHA,30KEFULA,20DARGA,20QADMA,20TELISHA QETANA,20YERAH BEN YOMO,20OLE,20ILUY,20DEHI,20ZINOR," ++
  "10MARK MASORA CIRCLE,10POINT SHEVA,20HATAF SEGOL,30PATAH,30QAMATS,20HIRIQ,20TSERE,20SEGOL,20PATAH,20QAMATS," ++
  "20HOLAM,30HASER FOR VAV,20QUBUTS,20DAGESH OR MAPIQ,20METEG,10PUNCTUATION MAQAF,10POINT RAFE,10PUNCTUATION PASEQ," ++
  "10POINT SHIN DOT,21SIN,10PUNCTUATION SOF PASUQ,10MARK UPPER DOT,21LOWER,10PUNCTUATION NUN HAFUKHA," ++
  "10POINT QAMATS QATAN,,,,,,,,,10LETTER ALEF,20BET,20GIMEL,20DALET,20HE,20VAV,20ZAYIN,20HET,20TET,20YOD," ++
  "20FINAL KAF,20KAF,20LAMED,20FINAL MEM,20MEM,20FINAL NUN,20NUN,20SAMEKH,20AYIN,20FINAL PE,20PE,20FINAL TSADI," ++
  "20TSADI,20QOF,20RESH,20SHIN,20TAV,,,,,10YOD TRIANGLE,10LIGATURE YIDDISH DOUBLE VAV,30VAV YOD,31DOUBLE," ++
  "10PUNCTUATION GERESH,20GERSHAYIM,,,,,,,,,,,,00ARABIC NUMBER SIGN,10SIGN SANAH,10FOOTNOTE MARKER,10SIGN SAFHA," ++
  "20SAMVAT,10NUMBER MARK ABOVE,00ARABIC-INDIC CUBE ROOT,11FOURTH,00ARABIC RAY,00ARABIC-INDIC PER MILLE SIGN," ++
  "21TEN THOUSAND,01AFGHANI,00ARABIC COMMA,10DATE SEPARATOR,10POETIC VERSE SIGN,10SIGN MISRA," ++
  "20SALLALLAHOU ALAYHE WASSALLAM,20ALAYHE ASSALLAM,20RAHMATULLAH ALAYHE,20RADI ALLAHOU ANHU,20TAKHALLUS," ++
  "10SMALL HIGH TAH,30LIGATURE ALEF WITH LAM WITH YEH,30ZAIN,20FATHA,20DAMMA,20KASRA,10SEMICOLON,10LETTER MARK," ++
  "11END OF TEXT,11TRIPLE DOT PUNCTUATION,11QUESTION,10LETTER KASHMIRI YEH,20HAMZA,20ALEF WITH MADDA ABOVE,41HAMZA," ++
  "23WAW,20ALEF WITH HAMZA BELOW,20YEH WITH HAMZA ABOVE,20ALEF,20BEH,20TEH MARBUTA,20TEH,20THEH,20JEEM,20HAH," ++
  "20KHAH,20DAL,20THAL,20REH,20ZAIN,20SEEN,20SHEEN,20SAD,20DAD,20TAH,20ZAH,20AIN,20GHAIN," ++
  "20KEHEH WITH TWO DOTS ABOVE,40THREE DOTS BELOW,20FARSI YEH WITH INVERTED V,50TWO DOTS ABOVE,52THREE,10TATWEEL," ++
  "10LETTER FEH,20QAF,20KAF,20LAM,20MEEM,20NOON,20HEH,20WAW,20ALEF MAKSURA,20YEH,10FATHATAN,10DAMMATAN,10KASRATAN," ++
  "10FATHA,10DAMMA,10KASRA,10SHADDA,10SUKUN,10MADDAH ABOVE,11HAMZA,20BELOW,10SUBSCRIPT ALEF,10INVERTED DAMMA," ++
  "10MARK NOON GHUNNA,10ZWARAKAY,10VOWEL SIGN SMALL V ABOVE,33INVERTED,30DOT BELOW,10REVERSED DAMMA," ++
  "10FATHA WITH TWO DOTS,10WAVY HAMZA BELOW,00ARABIC-INDIC DIGIT ZERO,20ONE,20TWO,20THREE,20FOUR,20FIVE,20SIX," ++
  "20SEVEN,20EIGHT,20NINE,00ARABIC PERCENT SIGN,10DECIMAL SEPARATOR,11THOUSANDS,10FIVE POINTED STAR," ++
  "10LETTER DOTLESS BEH,30QAF,20SUPERSCRIPT ALEF,20ALEF WASLA,30WITH WAVY HAMZA ABOVE,60BELOW,20HIGH HAMZA,40ALEF," ++
  "40WAW,20U WITH HAMZA ABOVE,20HIGH HAMZA YEH,20TTEH,20TTEHEH,20BEEH,20TEH WITH RING,40THREE DOTS ABOVE DOWNWARDS," ++
  "20PEH,20TEHEH"

def run0680 : String :=
  "00ARABIC LETTER BEHEH,20HAH WITH HAMZA ABOVE,41TWO DOTS VERTICAL,20NYEH,20DYEH,20HAH WITH THREE DOTS ABOVE," ++
  "20TCHEH,20TCHEHEH,20DDAL,20DAL WITH RING,40DOT BELOW,60AND SMALL TAH,20DAHAL,20DDAHAL,20DUL," ++
  "20DAL WITH THREE DOTS ABOVE DOWNWARDS,40FOUR DOTS ABOVE,20RREH,20REH WITH SMALL V,40RING,40DOT BELOW,41SMALL V," ++
  "40DOT BELOW AND DOT ABOVE,41TWO DOTS,20JEH,20REH WITH FOUR DOTS ABOVE,21SEEN WITH DOT BELOW AND DOT," ++
  "40THREE DOTS BELOW,70AND THREE DOTS ABOVE,20SAD WITH TWO DOTS BELOW,40THREE DOTS ABOVE,24TAH,24AIN," ++
  "20DOTLESS FEH,20FEH WITH DOT MOVED BELOW,50BELOW,20VEH,20FEH WITH THREE DOTS BELOW,20PEHEH,20QAF WITH DOT ABOVE," ++
  "41THREE DOTS,20KEHEH,20SWASH KAF,20KAF WITH RING,40DOT ABOVE,20NG,20KAF WITH THREE DOTS BELOW,20GAF,30WITH RING," ++
  "20NGOEH,20GAF WITH TWO DOTS BELOW,20GUEH,20GAF WITH THREE DOTS ABOVE,20LAM WITH SMALL V,40DOT ABOVE," ++
  "41THREE DOTS,60BELOW,21NOON WITH DOT,30GHUNNA,20RNOON,20NOON WITH RING,40THREE DOTS ABOVE,20HEH DOACHASHMEE," ++
  "20TCHEH WITH DOT ABOVE,21HEH WITH YEH,30GOAL,40WITH HAMZA ABOVE,20TEH MARBUTA GOAL,20WAW WITH RING,20KIRGHIZ OE," ++
  "20OE,20U,20YU,21KIRGHIZ,20WAW WITH TWO DOTS ABOVE,20VE,20FARSI YEH,20YEH WITH TAIL,40SMALL V," ++
  "20WAW WITH DOT ABOVE,20E,20YEH WITH THREE DOTS BELOW,30BARREE,40WITH HAMZA ABOVE,10FULL STOP,10LETTER AE," ++
  "10SMALL HIGH LIGATURE SAD WITH LAM WITH ALEF MAKSURA,45QAF,30MEEM INITIAL FORM,30LAM ALEF,30JEEM,30THREE DOTS," ++
  "30SEEN,10END OF AYAH,10START OF RUB EL HIZB,10SMALL HIGH ROUNDED ZERO,31UPRIGHT RECTANGULAR," ++
  "30DOTLESS HEAD OF KHAH,30MEEM ISOLATED FORM,20LOW SEEN,20HIGH MADDA,20WAW,20YEH,21HIGH,30NOON,10PLACE OF SAJDAH," ++
  "10EMPTY CENTRE LOW STOP,31HIGH,10ROUNDED HIGH STOP WITH FILLED CENTRE,10SMALL LOW MEEM," ++
  "10LETTER DAL WITH INVERTED V,23REH,00EXTENDED ARABIC-INDIC DIGIT ZERO,30ONE,30TWO,30THREE,30FOUR,30FIVE,30SIX," ++
  "30SEVEN,30EIGHT,30NINE,00ARABIC LETTER SHEEN WITH DOT BELOW,23DAD,23GHAIN,10SIGN SINDHI AMPERSAND," ++
  "30POSTPOSITION MEN,10LETTER HEH WITH INVERTED V"

def run0700 : String :=
  "00SYRIAC END OF PARAGRAPH,10SUPRALINEAR FULL STOP,12SUBLINEAR,10SUPRALINEAR COLON,11SUBLINEAR,11HORIZONTAL," ++
  "10COLON SKEWED LEFT,30RIGHT,10SUPRALINEAR COLON SKEWED LEFT,10SUBLINEAR COLON SKEWED RIGHT,10CONTRACTION," ++
  "10HARKLEAN OBELUS,20METOBELUS,20ASTERISCUS,,10ABBREVIATION MARK,10LETTER ALAPH,21SUPERSCRIPT,20BETH,20GAMAL," ++
  "30GARSHUNI,20DALATH,20DOTLESS DALATH RISH,20HE,20WAW,20ZAIN,20HETH,20TETH,30GARSHUNI,20YUDH,30HE,20KAPH," ++
  "20LAMADH,20MIM,20NUN,20SEMKATH,21FINAL,20E,20PE,21REVERSED,20SADHE,20QAPH,20RISH,20SHIN,20TAW,20PERSIAN BHETH," ++
  "30GHAMAL,30DHALATH,10PTHAHA ABOVE,20BELOW,20DOTTED,10ZQAPHA ABOVE,20BELOW,20DOTTED,10RBASA ABOVE,20BELOW," ++
  "10DOTTED ZLAMA HORIZONTAL,30ANGULAR,10HBASA ABOVE,20BELOW,10HBASA-ESASA DOTTED,10ESASA ABOVE,20BELOW,10RWAHA," ++
  "10FEMININE DOT,10QUSHSHAYA,10RUKKAKHA,10TWO VERTICAL DOTS ABOVE,40BELOW,10THREE DOTS ABOVE,30BELOW," ++
  "10OBLIQUE LINE ABOVE,30BELOW,10MUSIC,10BARREKH,,,10LETTER SOGDIAN ZHAIN,30KHAPH,30FE," ++
  "00ARABIC LETTER BEH WITH THREE DOTS HORIZONTALLY BELOW,40DOT BELOW AND THREE DOTS ABOVE," ++
  "40THREE DOTS POINTING UPWARDS BELOW,90AND TWO DOTS ABOVE,41TWO DOTS BELOW AND DOT,40INVERTED SMALL V BELOW," ++
  "40SMALL V,20HAH WITH TWO DOTS ABOVE,40THREE DOTS POINTING UPWARDS BELOW," ++
  "20DAL WITH TWO DOTS VERTICALLY BELOW AND SMALL TAH,40INVERTED SMALL V BELOW,20REH WITH STROKE," ++
  "20SEEN WITH FOUR DOTS ABOVE,22AIN WITH TWO,41THREE DOTS POINTING DOWNWARDS,41TWO DOTS VERTICALLY," ++
  "20FEH WITH TWO DOTS BELOW,41THREE DOTS POINTING UPWARDS,20KEHEH WITH DOT ABOVE,41THREE DOTS," ++
  "60POINTING UPWARDS BELOW,20MEEM WITH DOT ABOVE,50BELOW,21NOON WITH TWO DOTS,40SMALL TAH,50V,20LAM WITH BAR," ++
  "20REH WITH TWO DOTS VERTICALLY ABOVE,41HAMZA,21SEEN WITH TWO DOTS VERTICALLY," ++
  "20HAH WITH SMALL ARABIC LETTER TAH BELOW,80AND TWO DOTS,28SEEN,28REH,20HAH WITH SMALL ARABIC LETTER TAH ABOVE," ++
  "21ALEF WITH EXTENDED ARABIC-INDIC DIGIT TWO,71THREE,21FARSI YEH WITH EXTENDED ARABIC-INDIC DIGIT TWO,81THREE," ++
  "80FOUR BELOW,20WAW WITH EXTENDED ARABIC-INDIC DIGIT TWO ABOVE,71THREE," ++
  "21YEH BARREE WITH EXTENDED ARABIC-INDIC DIGIT TWO,81THREE,20HAH WITH EXTENDED ARABIC-INDIC DIGIT FOUR BELOW," ++
  "20SEEN WITH EXTENDED ARABIC-INDIC DIGIT FOUR ABOVE,40INVERTED V,20KAF WITH TWO DOTS ABOVE"

def run0780 : String :=
  "00THAANA LETTER HAA,20SHAVIYANI,20NOONU,20RAA,20BAA,20LHAVIYANI,20KAAFU,20ALIFU,20VAAVU,20MEEMU,20FAAFU," ++
  "20DHAALU,20THAA,20LAAMU,20GAAFU,20GNAVIYANI,20SEENU,20DAVIYANI,20ZAVIYANI,20TAVIYANI,20YAA,20PAVIYANI," ++
  "20JAVIYANI,20CHAVIYANI,20TTAA,20HHAA,20KHAA,20THAALU,20ZAA,20SHEENU,20SAADHU,20DAADHU,20TO,20ZO,20AINU,20GHAINU," ++
  "20QAAFU,20WAAVU,10ABAFILI,10AABAAFILI,10IBIFILI,10EEBEEFILI,10UBUFILI,10OOBOOFILI,10EBEFILI,10EYBEYFILI," ++
  "10OBOFILI,10OABOAFILI,10SUKUN,10LETTER NAA"

def run07c0 : String :=
  "00NKO DIGIT ZERO,20ONE,20TWO,20THREE,20FOUR,20FIVE,20SIX,20SEVEN,20EIGHT,20NINE,10LETTER A,20EE,20I,20E,20U," ++
  "20OO,20O,20DAGBASINNA,20N,20BA,20PA,20TA,20JA,20CHA,20DA,20RA,20RRA,20SA,20GBA,20FA,20KA,20LA,20NA WOLOSO,20MA," ++
  "20NYA,20NA,20HA,20WA,20YA,20NYA WOLOSO,20JONA JA,30CHA,30RA,10COMBINING SHORT HIGH TONE,31LOW,31RISING," ++
  "21LONG DESCENDING,31HIGH,31LOW,31RISING,20NASALIZATION MARK,20DOUBLE DOT ABOVE,10HIGH TONE APOSTROPHE,12LOW," ++
  "10SYMBOL OO DENNEN,20GBAKURUNEN,10COMMA,10EXCLAMATION MARK,10LAJANYALAN,,,10DANTAYALAN,10DOROME SIGN,11TAMAN," ++
  "00SAMARITAN LETTER ALAF,20BIT,20GAMAN,20DALAT,20IY,20BAA,20ZEN,20IT,20TIT,20YUT,20KAAF,20LABAT,20MIM,20NUN," ++
  "20SINGAAT,20IN,20FI,20TSAADIY,20QUF,20RISH,20SHAN,20TAAF,10MARK IN,20IN-ALAF,20OCCLUSION,20DAGESH," ++
  "10MODIFIER LETTER EPENTHETIC YUT,12MARK,10VOWEL SIGN LONG E,30E,30OVERLONG AA,31LONG,30AA,30OVERLONG A,31LONG," ++
  "30A,11MODIFIER LETTER SHORT,12VOWEL SIGN,30LONG U,30U,10MODIFIER LETTER I,11VOWEL SIGN LONG,30I,30O,30SUKUN," ++
  "10MARK NEQUDAA,,,11PUNCTUATION,20AFSAAQ,20ANGED,20BAU,20ATMAAU,20SHIYYAALAA,10ABBREVIATION MARK," ++
  "10PUNCTUATION MELODIC QITSA,20ZIQAA,20QITSA,20ZAEF,20TURU,20ARKAANU,20SOF MASHFAAT,20ANNAAU,," ++
  "00MANDAIC LETTER HALQA,20AB,20AG,20AD,20AH,20USHENNA,20AZ,20IT,20ATT,20AKSA,20AK,20AL,20AM,20AN,20AS,20IN,20AP," ++
  "20ASZ,20AQ,20AR,20ASH,20AT,20DUSHENNA,20KAD,20AIN,10AFFRICATION MARK,11VOCALIZATION,11GEMINATION,,," ++
  "10PUNCTUATION,,00SYRIAC LETTER MALAYALAM NGA,30JA,30NYA,30TTA,30NNA,30NNNA,30BHA,30RA,30LLA,30LLLA,30SSA,,,,,," ++
  "00ARABIC LETTER ALEF WITH ATTACHED FATHA,51TOP RIGHT,40RIGHT MIDDLE STROKE,42LEFT,40ATTACHED KASRA," ++
  "51BOTTOM RIGHT,50ROUND DOT ABOVE,50RIGHT ROUND DOT,52LEFT,50ROUND DOT BELOW,40DOT ABOVE," ++
  "42ATTACHED TOP RIGHT FATHA AND,43RIGHT MIDDLE STROKE,43ATTACHED BOTTOM RIGHT KASRA," ++
  "50TOP RIGHT FATHA AND LEFT RING,43RIGHT MIDDLE STROKE"

def run0880 : String :=
  "00ARABIC LETTER ALEF WITH ATTACHED BOTTOM RIGHT KASRA AND LEFT RING,50RIGHT HAMZA,51LEFT," ++
  "11TATWEEL WITH OVERSTRUCK,40WAW,30TWO DOTS BELOW,10LETTER THIN YEH,10BASELINE ROUND DOT,12RAISED," ++
  "10LETTER NOON WITH INVERTED SMALL V,20HAH WITH INVERTED SMALL V BELOW,21TAH WITH DOT,41THREE DOTS," ++
  "21KEHEH WITH TWO DOTS VERTICALLY,10VERTICAL TAIL,,10POUND MARK ABOVE,12PIASTRE,,,,,,,10SMALL HIGH WORD AL-JUZ," ++
  "20LOW WORD ISHMAAM,40IMAALA,40TASHEEL,10MADDA WAAJIB,10SUPERSCRIPT ALEF MOKHASSAS,10DOUBLED MADDA," ++
  "11HALF MADDA OVER,10LETTER BEH WITH SMALL V BELOW,40HAMZA ABOVE,21JEEM WITH TWO DOTS,24TAH," ++
  "22FEH WITH DOT BELOW AND THREE,20QAF WITH DOT BELOW,20LAM WITH DOUBLE BAR,20MEEM WITH THREE DOTS ABOVE," ++
  "21YEH WITH TWO DOTS BELOW AND HAMZA,81DOT,20REH WITH LOOP,20WAW WITH DOT WITHIN,20ROHINGYA YEH,20LOW ALEF," ++
  "20DAL WITH THREE DOTS BELOW,24SAD,20GAF WITH INVERTED STROKE,20STRAIGHT WAW,20ZAIN WITH INVERTED V ABOVE," ++
  "20AIN WITH THREE DOTS BELOW,21KAF WITH DOT,20QAF WITH DOT BELOW AND NO DOTS ABOVE,21BEH WITH SMALL MEEM,24PEH," ++
  "21TEH WITH SMALL TEH,21REH WITH SMALL NOON,23YEH WITH TWO DOTS BELOW AND,20AFRICAN FEH,30QAF,30NOON," ++
  "20PEH WITH SMALL V,23TEH,23TTEH,23TCHEH,23KEHEH,20GHAIN WITH THREE DOTS ABOVE,24AFRICAN QAF,24JEEM,60BELOW," ++
  "20LAM WITH SMALL ARABIC LETTER TAH ABOVE,20GRAF,10SMALL FARSI YEH,22HIGH,30YEH BARREE WITH TWO DOTS BELOW," ++
  "30WORD SAH,30ZAH,10LARGE ROUND DOT ABOVE,40BELOW,11SUKUN,11LARGE CIRCLE,22ROUND DOT INSIDE,10SMALL LOW WAW," ++
  "20HIGH WORD AR-RUB,30SAD,30AIN,30QAF,30NOON WITH KASRA,23LOW,20HIGH WORD ATH-THALATHA,40AS-SAJDA,40AN-NISF," ++
  "40SAKTA,40QIF,40WAQFA,30FOOTNOTE MARKER,30SIGN SAFHA,10DISPUTED END OF AYAH,10TURNED DAMMA BELOW,10CURLY FATHA," ++
  "20DAMMA,20KASRA,20FATHATAN,20DAMMATAN,20KASRATAN,10TONE ONE DOT ABOVE,21TWO DOTS,21LOOP,20ONE DOT BELOW," ++
  "21TWO DOTS,21LOOP,10OPEN FATHATAN,20DAMMATAN,20KASRATAN,10SMALL HIGH WAW,10FATHA WITH RING,30DOT ABOVE," ++
  "10KASRA WITH DOT BELOW,10LEFT ARROWHEAD ABOVE,12RIGHT,10LEFT ARROWHEAD BELOW,12RIGHT," ++
  "10DOUBLE RIGHT ARROWHEAD ABOVE,50WITH DOT,14RIGHT,12DAMMA,10MARK SIDEWAYS NOON GHUNNA"

/-- The runs with their first and last characters. -/
def runs : List (Nat × Nat × String) := [
  (0x591, 0x67f, run0591), (0x680, 0x6ff, run0680), (0x700, 0x77f, run0700), (0x780, 0x7b1, run0780),
  (0x7c0, 0x87f, run07c0), (0x880, 0x8ff, run0880)]

end SocksTunnel.CharacterName.Semitic
