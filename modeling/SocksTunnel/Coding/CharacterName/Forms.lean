/-
  SocksTunnel.Coding.CharacterName.Forms — the names of forms of presentation, run by
  run. A run has an entry for each of its characters in a row: how many first and last
  words of the name before it stay, then its own words between these; an empty entry has
  no name.
-/

namespace SocksTunnel.CharacterName.Forms

def runfb00 : String :=
  "00LATIN SMALL LIGATURE FF,30FI,30FL,30FFI,30FFL,30LONG S T,30ST"

def runfb13 : String :=
  "00ARMENIAN SMALL LIGATURE MEN NOW,40ECH,40INI,30VEW NOW,30MEN XEH,,,,,,00HEBREW LETTER YOD WITH HIRIQ," ++
  "10POINT JUDEO-SPANISH VARIKA,10LIGATURE YIDDISH YOD YOD PATAH,10LETTER ALTERNATIVE AYIN,20WIDE ALEF,30DALET," ++
  "30HE,30KAF,30LAMED,30FINAL MEM,30RESH,30TAV,20ALTERNATIVE PLUS SIGN,20SHIN WITH SHIN DOT,41SIN," ++
  "41DAGESH AND SHIN,61SIN,20ALEF WITH PATAH,40QAMATS,40MAPIQ,20BET WITH DAGESH,22GIMEL,22DALET,20HE WITH MAPIQ," ++
  "20VAV WITH DAGESH,22ZAYIN,,22TET,22YOD,22FINAL KAF,22KAF,22LAMED,,22MEM,,22NUN,22SAMEKH,,22FINAL PE,22PE,," ++
  "22TSADI,22QOF,22RESH,22SHIN,22TAV,20VAV WITH HOLAM,20BET WITH RAFE,22KAF,22PE,10LIGATURE ALEF LAMED," ++
  "00ARABIC LETTER ALEF WASLA ISOLATED FORM,41FINAL,21BEEH ISOLATED,31FINAL,31INITIAL,31MEDIAL,21PEH ISOLATED," ++
  "31FINAL,31INITIAL,31MEDIAL,21BEHEH ISOLATED,31FINAL,31INITIAL,31MEDIAL,21TTEHEH ISOLATED,31FINAL,31INITIAL," ++
  "31MEDIAL,21TEHEH ISOLATED,31FINAL,31INITIAL,31MEDIAL,21TTEH ISOLATED,31FINAL,31INITIAL,31MEDIAL,21VEH ISOLATED," ++
  "31FINAL,31INITIAL,31MEDIAL,21PEHEH ISOLATED,31FINAL,31INITIAL,31MEDIAL,21DYEH ISOLATED,31FINAL,31INITIAL," ++
  "31MEDIAL,21NYEH ISOLATED,31FINAL,31INITIAL,31MEDIAL,21TCHEH ISOLATED,31FINAL,31INITIAL,31MEDIAL," ++
  "21TCHEHEH ISOLATED,31FINAL,31INITIAL,31MEDIAL,21DDAHAL ISOLATED,31FINAL,21DAHAL ISOLATED,31FINAL,21DUL ISOLATED," ++
  "31FINAL,21DDAL ISOLATED,31FINAL,21JEH ISOLATED,31FINAL,21RREH ISOLATED,31FINAL,21KEHEH ISOLATED,31FINAL," ++
  "31INITIAL,31MEDIAL,21GAF ISOLATED,31FINAL,31INITIAL,31MEDIAL,21GUEH ISOLATED,31FINAL,31INITIAL,31MEDIAL," ++
  "21NGOEH ISOLATED,31FINAL,31INITIAL,31MEDIAL,21NOON GHUNNA ISOLATED,41FINAL,21RNOON ISOLATED,31FINAL,31INITIAL," ++
  "31MEDIAL,21HEH WITH YEH ABOVE ISOLATED,61FINAL,31GOAL ISOLATED,41FINAL,41INITIAL,41MEDIAL," ++
  "31DOACHASHMEE ISOLATED,41FINAL,41INITIAL,41MEDIAL,21YEH BARREE ISOLATED,41FINAL,41WITH HAMZA ABOVE ISOLATED," ++
  "71FINAL,10SYMBOL DOT ABOVE,30BELOW,20TWO DOTS ABOVE,40BELOW,20THREE DOTS ABOVE,40BELOW," ++
  "40POINTING DOWNWARDS ABOVE,60BELOW,20FOUR DOTS ABOVE,40BELOW,21DOUBLE VERTICAL BAR,20TWO DOTS VERTICALLY ABOVE," ++
  "50BELOW,20RING,20SMALL TAH ABOVE,40BELOW,20WASLA ABOVE"

def runfbd3 : String :=
  "00ARABIC LETTER NG ISOLATED FORM,31FINAL,31INITIAL,31MEDIAL,21U ISOLATED,31FINAL,21OE ISOLATED,31FINAL," ++
  "21YU ISOLATED,31FINAL,21U WITH HAMZA ABOVE ISOLATED,22VE,31FINAL,21KIRGHIZ OE ISOLATED,41FINAL,31YU ISOLATED," ++
  "41FINAL,21E ISOLATED,31FINAL,31INITIAL,31MEDIAL,21UIGHUR KAZAKH KIRGHIZ ALEF MAKSURA INITIAL,71MEDIAL," ++
  "11LIGATURE YEH WITH HAMZA ABOVE WITH ALEF ISOLATED,81FINAL,71AE ISOLATED,81FINAL,71WAW ISOLATED,81FINAL," ++
  "71U ISOLATED,81FINAL,71OE ISOLATED,81FINAL,71YU ISOLATED,81FINAL,71E ISOLATED,81FINAL,81INITIAL," ++
  "21UIGHUR KIRGHIZ YEH WITH HAMZA ABOVE WITH ALEF MAKSURA ISOLATED,91ALEF MAKSURA FINAL,91ALEF MAKSURA INITIAL," ++
  "11LETTER FARSI YEH ISOLATED,41FINAL,41INITIAL,41MEDIAL,11LIGATURE YEH WITH HAMZA ABOVE WITH JEEM ISOLATED,72HAH," ++
  "72MEEM,72ALEF MAKSURA,72YEH,22BEH WITH JEEM,42HAH,42KHAH,42MEEM,42ALEF MAKSURA,42YEH,22TEH WITH JEEM,42HAH," ++
  "42KHAH,42MEEM,42ALEF MAKSURA,42YEH,22THEH WITH JEEM,42MEEM,42ALEF MAKSURA,42YEH,22JEEM WITH HAH,42MEEM," ++
  "22HAH WITH JEEM,42MEEM,22KHAH WITH JEEM,42HAH,42MEEM,22SEEN WITH JEEM,42HAH,42KHAH,42MEEM,22SAD WITH HAH,42MEEM," ++
  "22DAD WITH JEEM,42HAH,42KHAH,42MEEM,22TAH WITH HAH,42MEEM,24ZAH,22AIN WITH JEEM,42MEEM,22GHAIN WITH JEEM,42MEEM," ++
  "22FEH WITH JEEM,42HAH,42KHAH,42MEEM,42ALEF MAKSURA,42YEH,22QAF WITH HAH,42MEEM,42ALEF MAKSURA,42YEH," ++
  "22KAF WITH ALEF,42JEEM,42HAH,42KHAH,42LAM,42MEEM,42ALEF MAKSURA,42YEH,22LAM WITH JEEM,42HAH,42KHAH,42MEEM," ++
  "42ALEF MAKSURA,42YEH,22MEEM WITH JEEM,42HAH,42KHAH,42MEEM,42ALEF MAKSURA,42YEH,22NOON WITH JEEM,42HAH,42KHAH," ++
  "42MEEM,42ALEF MAKSURA,42YEH,22HEH WITH JEEM,42MEEM,42ALEF MAKSURA,42YEH,22YEH WITH JEEM,42HAH,42KHAH,42MEEM," ++
  "42ALEF MAKSURA,42YEH,22THAL WITH SUPERSCRIPT ALEF,25REH,25ALEF MAKSURA,22SHADDA WITH DAMMATAN,42KASRATAN," ++
  "42FATHA,42DAMMA,42KASRA,42SUPERSCRIPT ALEF,21YEH WITH HAMZA ABOVE WITH REH FINAL,72ZAIN,72MEEM,72NOON," ++
  "72ALEF MAKSURA,72YEH,22BEH WITH REH,42ZAIN,42MEEM,42NOON,42ALEF MAKSURA,42YEH,22TEH WITH REH,42ZAIN,42MEEM," ++
  "42NOON,42ALEF MAKSURA,42YEH,22THEH WITH REH,42ZAIN,42MEEM,42NOON,42ALEF MAKSURA,42YEH,22FEH WITH ALEF MAKSURA," ++
  "42YEH,22QAF WITH ALEF MAKSURA,42YEH"

def runfc80 : String :=
  "00ARABIC LIGATURE KAF WITH ALEF FINAL FORM,42LAM,42MEEM,42ALEF MAKSURA,42YEH,22LAM WITH MEEM,42ALEF MAKSURA," ++
  "42YEH,22MEEM WITH ALEF,42MEEM,22NOON WITH REH,42ZAIN,42MEEM,42NOON,42ALEF MAKSURA,42YEH," ++
  "22ALEF MAKSURA WITH SUPERSCRIPT ALEF,22YEH WITH REH,42ZAIN,42MEEM,42NOON,42ALEF MAKSURA,42YEH," ++
  "41HAMZA ABOVE WITH JEEM INITIAL,72HAH,72KHAH,72MEEM,72HEH,22BEH WITH JEEM,42HAH,42KHAH,42MEEM,42HEH," ++
  "22TEH WITH JEEM,42HAH,42KHAH,42MEEM,42HEH,22THEH WITH MEEM,22JEEM WITH HAH,42MEEM,22HAH WITH JEEM,42MEEM," ++
  "22KHAH WITH JEEM,42MEEM,22SEEN WITH JEEM,42HAH,42KHAH,42MEEM,22SAD WITH HAH,42KHAH,42MEEM,22DAD WITH JEEM,42HAH," ++
  "42KHAH,42MEEM,22TAH WITH HAH,22ZAH WITH MEEM,22AIN WITH JEEM,42MEEM,22GHAIN WITH JEEM,42MEEM,22FEH WITH JEEM," ++
  "42HAH,42KHAH,42MEEM,22QAF WITH HAH,42MEEM,22KAF WITH JEEM,42HAH,42KHAH,42LAM,42MEEM,22LAM WITH JEEM,42HAH," ++
  "42KHAH,42MEEM,42HEH,22MEEM WITH JEEM,42HAH,42KHAH,42MEEM,22NOON WITH JEEM,42HAH,42KHAH,42MEEM,42HEH," ++
  "22HEH WITH JEEM,42MEEM,42SUPERSCRIPT ALEF,22YEH WITH JEEM,42HAH,42KHAH,42MEEM,42HEH," ++
  "41HAMZA ABOVE WITH MEEM MEDIAL,72HEH,22BEH WITH MEEM,42HEH,22TEH WITH MEEM,42HEH,22THEH WITH MEEM,42HEH," ++
  "22SEEN WITH MEEM,42HEH,22SHEEN WITH MEEM,42HEH,22KAF WITH LAM,42MEEM,24LAM,24NOON,42HEH,22YEH WITH MEEM,42HEH," ++
  "22SHADDA WITH FATHA,42DAMMA,42KASRA,21TAH WITH ALEF MAKSURA ISOLATED,42YEH,22AIN WITH ALEF MAKSURA,42YEH," ++
  "22GHAIN WITH ALEF MAKSURA,42YEH,22SEEN WITH ALEF MAKSURA,42YEH,22SHEEN WITH ALEF MAKSURA,42YEH," ++
  "22HAH WITH ALEF MAKSURA"

def runfd00 : String :=
  "00ARABIC LIGATURE HAH WITH YEH ISOLATED FORM,22JEEM WITH ALEF MAKSURA,42YEH,22KHAH WITH ALEF MAKSURA,42YEH," ++
  "22SAD WITH ALEF MAKSURA,42YEH,22DAD WITH ALEF MAKSURA,42YEH,22SHEEN WITH JEEM,42HAH,42KHAH,42MEEM,42REH,24SEEN," ++
  "24SAD,24DAD,21TAH WITH ALEF MAKSURA FINAL,42YEH,22AIN WITH ALEF MAKSURA,42YEH,22GHAIN WITH ALEF MAKSURA,42YEH," ++
  "22SEEN WITH ALEF MAKSURA,42YEH,22SHEEN WITH ALEF MAKSURA,42YEH,22HAH WITH ALEF MAKSURA,42YEH," ++
  "22JEEM WITH ALEF MAKSURA,42YEH,22KHAH WITH ALEF MAKSURA,42YEH,22SAD WITH ALEF MAKSURA,42YEH," ++
  "22DAD WITH ALEF MAKSURA,42YEH,22SHEEN WITH JEEM,42HAH,42KHAH,42MEEM,42REH,24SEEN,24SAD,24DAD," ++
  "21SHEEN WITH JEEM INITIAL,42HAH,42KHAH,42MEEM,22SEEN WITH HEH,24SHEEN,22TAH WITH MEEM,21SEEN WITH JEEM MEDIAL," ++
  "42HAH,42KHAH,22SHEEN WITH JEEM,42HAH,42KHAH,22TAH WITH MEEM,24ZAH,21ALEF WITH FATHATAN FINAL,51ISOLATED," ++
  "00ORNATE LEFT PARENTHESIS,11RIGHT,00ARABIC LIGATURE RAHIMAHU ALLAAH,20RADI ALLAAHU ANH,40ANHAA,40ANHUM," ++
  "40ANHUMAA,40ANHUNNA,20SALLALLAAHU ALAYHI WA-AALIH,20ALAYHI AS-SALAAM,21ALAYHIM,21ALAYHIMAA," ++
  "20ALAYHI AS-SALAATU WAS-SALAAM,20QUDDISA SIRRAH,20SALLALLAHU ALAYHI WAAALIHEE WA-SALLAM,20ALAYHAA AS-SALAAM," ++
  "20TABAARAKA WA-TAAALAA,20RAHIMAHUM ALLAAH,20TEH WITH JEEM WITH MEEM INITIAL FORM,41HAH WITH JEEM FINAL," ++
  "71INITIAL,62MEEM,44KHAH,42MEEM WITH JEEM,62HAH,62KHAH,21JEEM WITH MEEM WITH HAH FINAL,71INITIAL," ++
  "21HAH WITH MEEM WITH YEH FINAL,62ALEF MAKSURA,21SEEN WITH HAH WITH JEEM INITIAL,42JEEM WITH HAH," ++
  "61ALEF MAKSURA FINAL,42MEEM WITH HAH,71INITIAL,62JEEM,61MEEM FINAL,71INITIAL,21SAD WITH HAH WITH HAH FINAL," ++
  "71INITIAL,41MEEM WITH MEEM FINAL,24SHEEN WITH HAH,71INITIAL,41JEEM WITH YEH FINAL,42MEEM WITH KHAH,71INITIAL," ++
  "61MEEM FINAL,71INITIAL,21DAD WITH HAH WITH ALEF MAKSURA FINAL,42KHAH WITH MEEM,71INITIAL," ++
  "21TAH WITH MEEM WITH HAH FINAL,71INITIAL,62MEEM,61YEH FINAL,22AIN WITH JEEM WITH MEEM,44MEEM,71INITIAL," ++
  "61ALEF MAKSURA FINAL,22GHAIN WITH MEEM WITH MEEM,62YEH,62ALEF MAKSURA,22FEH WITH KHAH WITH MEEM,71INITIAL," ++
  "21QAF WITH MEEM WITH HAH FINAL,62MEEM"

def runfd80 : String :=
  "00ARABIC LIGATURE LAM WITH HAH WITH MEEM FINAL FORM,62YEH,62ALEF MAKSURA,41JEEM WITH JEEM INITIAL,71FINAL," ++
  "42KHAH WITH MEEM,71INITIAL,41MEEM WITH HAH FINAL,71INITIAL,22MEEM WITH HAH WITH JEEM,62MEEM,61YEH FINAL," ++
  "41JEEM WITH HAH INITIAL,62MEEM,42KHAH WITH JEEM,62MEEM,,,42JEEM WITH KHAH,22HEH WITH MEEM WITH JEEM,62MEEM," ++
  "24NOON WITH HAH,61ALEF MAKSURA FINAL,42JEEM WITH MEEM,71INITIAL,61ALEF MAKSURA FINAL,42MEEM WITH YEH," ++
  "62ALEF MAKSURA,22YEH WITH MEEM WITH MEEM,71INITIAL,21BEH WITH KHAH WITH YEH FINAL,24TEH WITH JEEM," ++
  "62ALEF MAKSURA,42KHAH WITH YEH,62ALEF MAKSURA,42MEEM WITH YEH,62ALEF MAKSURA,22JEEM WITH MEEM WITH YEH," ++
  "42HAH WITH ALEF MAKSURA,45MEEM,25SEEN WITH KHAH,22SAD WITH HAH WITH YEH,26SHEEN,26DAD,24LAM WITH JEEM,44MEEM," ++
  "24YEH WITH HAH,44JEEM,44MEEM,26MEEM,26QAF,24NOON WITH HAH,21QAF WITH MEEM WITH HAH INITIAL," ++
  "22LAM WITH HAH WITH MEEM,21AIN WITH MEEM WITH YEH FINAL,26KAF,21NOON WITH JEEM WITH HAH INITIAL," ++
  "21MEEM WITH KHAH WITH YEH FINAL,21LAM WITH JEEM WITH MEEM INITIAL,21KAF WITH MEEM WITH MEEM FINAL," ++
  "24LAM WITH JEEM,22NOON WITH JEEM WITH HAH,22JEEM WITH HAH WITH YEH,24HAH WITH JEEM,26MEEM,24FEH WITH MEEM," ++
  "24BEH WITH HAH,21KAF WITH MEEM WITH MEEM INITIAL,24AIN WITH JEEM,24SAD WITH MEEM," ++
  "21SEEN WITH KHAH WITH YEH FINAL,24NOON WITH JEEM,,,,,,,,20SALAAMUHU ALAYNAA"

def runfdf0 : String :=
  "00ARABIC LIGATURE SALLA USED AS KORANIC STOP SIGN ISOLATED FORM,27QALA,22ALLAH,22AKBAR,22MOHAMMAD,22SALAM," ++
  "22RASOUL,22ALAYHE,22WASALLAM,22SALLA,20SALLALLAHOU ALAYHE WASALLAM,20JALLAJALALOUHOU,00RIAL SIGN," ++
  "00ARABIC LIGATURE BISMILLAH AR-RAHMAN AR-RAHEEM,20SUBHAANAHU WA TAAALAA,20AZZA WA JALL,00VARIATION SELECTOR-1," ++
  "10SELECTOR-2,10SELECTOR-3,10SELECTOR-4,10SELECTOR-5,10SELECTOR-6,10SELECTOR-7,10SELECTOR-8,10SELECTOR-9," ++
  "10SELECTOR-10,10SELECTOR-11,10SELECTOR-12,10SELECTOR-13,10SELECTOR-14,10SELECTOR-15,10SELECTOR-16," ++
  "00PRESENTATION FORM FOR VERTICAL COMMA,41IDEOGRAPHIC,50FULL STOP,40COLON,40SEMICOLON,40EXCLAMATION MARK," ++
  "41QUESTION,40LEFT WHITE LENTICULAR BRACKET,40RIGHT WHITE LENTICULAR BRAKCET,40HORIZONTAL ELLIPSIS,,,,,,," ++
  "00COMBINING LIGATURE LEFT HALF,21RIGHT,11DOUBLE TILDE LEFT,31RIGHT,11MACRON LEFT,21RIGHT,10CONJOINING MACRON," ++
  "10LIGATURE LEFT HALF BELOW,22RIGHT,12TILDE LEFT,22RIGHT,12MACRON LEFT,22RIGHT,11CONJOINING MACRON," ++
  "10CYRILLIC TITLO LEFT HALF,31RIGHT,00PRESENTATION FORM FOR VERTICAL TWO DOT LEADER,40EM DASH,41EN,40LOW LINE," ++
  "42WAVY,40LEFT PARENTHESIS,41RIGHT,40LEFT CURLY BRACKET,42RIGHT,41LEFT TORTOISE SHELL,43RIGHT," ++
  "41LEFT BLACK LENTICULAR,43RIGHT,41LEFT DOUBLE ANGLE,43RIGHT,42LEFT,42RIGHT,41LEFT CORNER,42RIGHT,42LEFT WHITE," ++
  "43RIGHT,00SESAME DOT,02WHITE,00PRESENTATION FORM FOR VERTICAL LEFT SQUARE BRACKET,42RIGHT,00DASHED OVERLINE," ++
  "01CENTRELINE,01WAVY,02DOUBLE,00DASHED LOW LINE,02CENTRELINE,02WAVY,00SMALL COMMA,11IDEOGRAPHIC,10FULL STOP,," ++
  "10SEMICOLON,10COLON,10QUESTION MARK,11EXCLAMATION,10EM DASH,10LEFT PARENTHESIS,11RIGHT,10LEFT CURLY BRACKET," ++
  "12RIGHT,11LEFT TORTOISE SHELL,13RIGHT,10NUMBER SIGN,10AMPERSAND,10ASTERISK,10PLUS SIGN,10HYPHEN-MINUS," ++
  "10LESS-THAN SIGN,11GREATER-THAN,11EQUALS,,10REVERSE SOLIDUS,10DOLLAR SIGN,11PERCENT,10COMMERCIAL AT,,,,," ++
  "00ARABIC FATHATAN ISOLATED FORM,10TATWEEL WITH FATHATAN ABOVE,10DAMMATAN ISOLATED FORM,10TAIL FRAGMENT," ++
  "10KASRATAN ISOLATED FORM,,12FATHA,21MEDIAL,11DAMMA ISOLATED,21MEDIAL,11KASRA ISOLATED,21MEDIAL," ++
  "11SHADDA ISOLATED,21MEDIAL,11SUKUN ISOLATED,21MEDIAL"

def runfe80 : String :=
  "00ARABIC LETTER HAMZA ISOLATED FORM,22ALEF WITH MADDA ABOVE,61FINAL,41HAMZA ABOVE ISOLATED,61FINAL," ++
  "21WAW WITH HAMZA ABOVE ISOLATED,61FINAL,21ALEF WITH HAMZA BELOW ISOLATED,61FINAL," ++
  "21YEH WITH HAMZA ABOVE ISOLATED,61FINAL,61INITIAL,61MEDIAL,21ALEF ISOLATED,31FINAL,21BEH ISOLATED,31FINAL," ++
  "31INITIAL,31MEDIAL,21TEH MARBUTA ISOLATED,41FINAL,31ISOLATED,31FINAL,31INITIAL,31MEDIAL,21THEH ISOLATED,31FINAL," ++
  "31INITIAL,31MEDIAL,21JEEM ISOLATED,31FINAL,31INITIAL,31MEDIAL,21HAH ISOLATED,31FINAL,31INITIAL,31MEDIAL," ++
  "21KHAH ISOLATED,31FINAL,31INITIAL,31MEDIAL,21DAL ISOLATED,31FINAL,21THAL ISOLATED,31FINAL,21REH ISOLATED," ++
  "31FINAL,21ZAIN ISOLATED,31FINAL,21SEEN ISOLATED,31FINAL,31INITIAL,31MEDIAL,21SHEEN ISOLATED,31FINAL,31INITIAL," ++
  "31MEDIAL,21SAD ISOLATED,31FINAL,31INITIAL,31MEDIAL,21DAD ISOLATED,31FINAL,31INITIAL,31MEDIAL,21TAH ISOLATED," ++
  "31FINAL,31INITIAL,31MEDIAL,21ZAH ISOLATED,31FINAL,31INITIAL,31MEDIAL,21AIN ISOLATED,31FINAL,31INITIAL,31MEDIAL," ++
  "21GHAIN ISOLATED,31FINAL,31INITIAL,31MEDIAL,21FEH ISOLATED,31FINAL,31INITIAL,31MEDIAL,21QAF ISOLATED,31FINAL," ++
  "31INITIAL,31MEDIAL,21KAF ISOLATED,31FINAL,31INITIAL,31MEDIAL,21LAM ISOLATED,31FINAL,31INITIAL,31MEDIAL," ++
  "21MEEM ISOLATED,31FINAL,31INITIAL,31MEDIAL,21NOON ISOLATED,31FINAL,31INITIAL,31MEDIAL,21HEH ISOLATED,31FINAL," ++
  "31INITIAL,31MEDIAL,21WAW ISOLATED,31FINAL,21ALEF MAKSURA ISOLATED,41FINAL,21YEH ISOLATED,31FINAL,31INITIAL," ++
  "31MEDIAL,11LIGATURE LAM WITH ALEF WITH MADDA ABOVE ISOLATED,81FINAL,61HAMZA ABOVE ISOLATED,81FINAL," ++
  "71BELOW ISOLATED,81FINAL,51ISOLATED,51FINAL,,,00ZERO WIDTH NO-BREAK SPACE,,00FULLWIDTH EXCLAMATION MARK," ++
  "11QUOTATION,10NUMBER SIGN,11DOLLAR,11PERCENT,10AMPERSAND,10APOSTROPHE,10LEFT PARENTHESIS,11RIGHT,10ASTERISK," ++
  "10PLUS SIGN,10COMMA,10HYPHEN-MINUS,10FULL STOP,10SOLIDUS,10DIGIT ZERO,20ONE,20TWO,20THREE,20FOUR,20FIVE,20SIX," ++
  "20SEVEN,20EIGHT,20NINE,10COLON,10SEMICOLON,10LESS-THAN SIGN,11EQUALS,11GREATER-THAN,10QUESTION MARK," ++
  "10COMMERCIAL AT,10LATIN CAPITAL LETTER A,40B,40C,40D,40E,40F,40G,40H,40I,40J,40K,40L,40M,40N,40O,40P,40Q,40R," ++
  "40S,40T,40U,40V,40W,40X,40Y,40Z,10LEFT SQUARE BRACKET,10REVERSE SOLIDUS,10RIGHT SQUARE BRACKET," ++
  "10CIRCUMFLEX ACCENT,10LOW LINE,10GRAVE ACCENT,10LATIN SMALL LETTER A,40B,40C,40D,40E,40F,40G,40H,40I,40J,40K," ++
  "40L,40M,40N,40O,40P,40Q,40R,40S,40T,40U,40V,40W,40X,40Y,40Z,10LEFT CURLY BRACKET,10VERTICAL LINE," ++
  "10RIGHT CURLY BRACKET,10TILDE,10LEFT WHITE PARENTHESIS,12RIGHT,00HALFWIDTH IDEOGRAPHIC FULL STOP," ++
  "10LEFT CORNER BRACKET,12RIGHT,10IDEOGRAPHIC COMMA,10KATAKANA MIDDLE DOT,20LETTER WO,30SMALL A,40I,40U,40E,40O," ++
  "40YA,40YU,40YO,40TU,10KATAKANA-HIRAGANA PROLONGED SOUND MARK,10KATAKANA LETTER A,30I,30U,30E,30O,30KA,30KI,30KU," ++
  "30KE,30KO,30SA,30SI,30SU,30SE,30SO"

def runff80 : String :=
  "00HALFWIDTH KATAKANA LETTER TA,30TI,30TU,30TE,30TO,30NA,30NI,30NU,30NE,30NO,30HA,30HI,30HU,30HE,30HO,30MA,30MI," ++
  "30MU,30ME,30MO,30YA,30YU,30YO,30RA,30RI,30RU,30RE,30RO,30WA,30N,20VOICED SOUND MARK,22SEMI-VOICED," ++
  "10HANGUL FILLER,20LETTER KIYEOK,30SSANGKIYEOK,30KIYEOK-SIOS,30NIEUN,30NIEUN-CIEUC,30NIEUN-HIEUH,30TIKEUT," ++
  "30SSANGTIKEUT,30RIEUL,30RIEUL-KIYEOK,30RIEUL-MIEUM,30RIEUL-PIEUP,30RIEUL-SIOS,30RIEUL-THIEUTH,30RIEUL-PHIEUPH," ++
  "30RIEUL-HIEUH,30MIEUM,30PIEUP,30SSANGPIEUP,30PIEUP-SIOS,30SIOS,30SSANGSIOS,30IEUNG,30CIEUC,30SSANGCIEUC," ++
  "30CHIEUCH,30KHIEUKH,30THIEUTH,30PHIEUPH,30HIEUH,,,,30A,30AE,30YA,30YAE,30EO,30E,,,30YEO,30YE,30O,30WA,30WAE," ++
  "30OE,,,30YO,30U,30WEO,30WE,30WI,30YU,,,30EU,30YI,30I,,,,00FULLWIDTH CENT SIGN,11POUND,11NOT,10MACRON," ++
  "10BROKEN BAR,10YEN SIGN,11WON,,00HALFWIDTH FORMS LIGHT VERTICAL,10LEFTWARDS ARROW,11UPWARDS,11RIGHTWARDS," ++
  "11DOWNWARDS,10BLACK SQUARE,10WHITE CIRCLE,,,,,,,,,,,00INTERLINEAR ANNOTATION ANCHOR,20SEPARATOR,20TERMINATOR," ++
  "00OBJECT REPLACEMENT CHARACTER,01REPLACEMENT"

/-- The runs with their first and last characters. -/
def runs : List (Nat × Nat × String) := [
  (0xfb00, 0xfb06, runfb00), (0xfb13, 0xfbc2, runfb13), (0xfbd3, 0xfc7f, runfbd3), (0xfc80, 0xfcff, runfc80),
  (0xfd00, 0xfd7f, runfd00), (0xfd80, 0xfdcf, runfd80), (0xfdf0, 0xfe7f, runfdf0), (0xfe80, 0xff7f, runfe80),
  (0xff80, 0xfffd, runff80)]

end SocksTunnel.CharacterName.Forms
