/-
  SocksTunnel.Coding.CharacterName.Signs — the names of punctuation, currencies,
  numbers, arrows, mathematics and technical signs, run by run. A run has an entry for
  each of its characters in a row: how many first and last words of the name before it
  stay, then its own words between these; an empty entry has no name.
-/

namespace SocksTunnel.CharacterName.Signs

def run2000 : String :=
  "00EN QUAD,01EM,00EN SPACE,01EM,01THREE-PER-EM,01FOUR-PER-EM,01SIX-PER-EM,01FIGURE,01PUNCTUATION,01THIN,01HAIR," ++
  "01ZERO WIDTH,20NON-JOINER,20JOINER,00LEFT-TO-RIGHT MARK,01RIGHT-TO-LEFT,00HYPHEN,01NON-BREAKING,00FIGURE DASH," ++
  "01EN,01EM,00HORIZONTAL BAR,00DOUBLE VERTICAL LINE,11LOW,00LEFT SINGLE QUOTATION MARK,03RIGHT,02SINGLE LOW-9," ++
  "12HIGH-REVERSED-9,02LEFT DOUBLE,03RIGHT,02DOUBLE LOW-9,12HIGH-REVERSED-9,00DAGGER,01DOUBLE,00BULLET," ++
  "01TRIANGULAR,00ONE DOT LEADER,02TWO,00HORIZONTAL ELLIPSIS,00HYPHENATION POINT,00LINE SEPARATOR,01PARAGRAPH," ++
  "00LEFT-TO-RIGHT EMBEDDING,01RIGHT-TO-LEFT,00POP DIRECTIONAL FORMATTING,00LEFT-TO-RIGHT OVERRIDE,01RIGHT-TO-LEFT," ++
  "00NARROW NO-BREAK SPACE,00PER MILLE SIGN,11TEN THOUSAND,00PRIME,01DOUBLE,01TRIPLE,01REVERSED,11DOUBLE,11TRIPLE," ++
  "00CARET,00SINGLE LEFT-POINTING ANGLE QUOTATION MARK,13RIGHT-POINTING,01REFERENCE,01DOUBLE EXCLAMATION," ++
  "00INTERROBANG,00OVERLINE,00UNDERTIE,00CHARACTER TIE,00CARET INSERTION POINT,00ASTERISM,00HYPHEN BULLET," ++
  "00FRACTION SLASH,00LEFT SQUARE BRACKET WITH QUILL,04RIGHT,00DOUBLE QUESTION MARK,01QUESTION EXCLAMATION," ++
  "01EXCLAMATION QUESTION,00TIRONIAN SIGN ET,00REVERSED PILCROW SIGN,00BLACK LEFTWARDS BULLET,11RIGHTWARDS," ++
  "00LOW ASTERISK,00REVERSED SEMICOLON,00CLOSE UP,00TWO ASTERISKS ALIGNED VERTICALLY,00COMMERCIAL MINUS SIGN," ++
  "00SWUNG DASH,00INVERTED UNDERTIE,00FLOWER PUNCTUATION MARK,00THREE DOT PUNCTUATION,00QUADRUPLE PRIME," ++
  "00FOUR DOT PUNCTUATION,02FIVE,02TWO,00FOUR DOT MARK,00DOTTED CROSS,00TRICOLON,00VERTICAL FOUR DOTS," ++
  "00MEDIUM MATHEMATICAL SPACE,00WORD JOINER,00FUNCTION APPLICATION,00INVISIBLE TIMES,10SEPARATOR,10PLUS,," ++
  "00LEFT-TO-RIGHT ISOLATE,01RIGHT-TO-LEFT,01FIRST STRONG,01POP DIRECTIONAL,00INHIBIT SYMMETRIC SWAPPING," ++
  "02ACTIVATE,00INHIBIT ARABIC FORM SHAPING,03ACTIVATE,00NATIONAL DIGIT SHAPES,02NOMINAL,00SUPERSCRIPT ZERO," ++
  "10LATIN SMALL LETTER I,,,10FOUR,10FIVE,10SIX,10SEVEN,10EIGHT,10NINE,10PLUS SIGN,10MINUS,10EQUALS SIGN," ++
  "10LEFT PARENTHESIS,11RIGHT,10LATIN SMALL LETTER N"

def run2080 : String :=
  "00SUBSCRIPT ZERO,10ONE,10TWO,10THREE,10FOUR,10FIVE,10SIX,10SEVEN,10EIGHT,10NINE,10PLUS SIGN,10MINUS," ++
  "10EQUALS SIGN,10LEFT PARENTHESIS,11RIGHT,,00LATIN SUBSCRIPT SMALL LETTER A,40E,40O,40X,40SCHWA,40H,40K,40L,40M," ++
  "40N,40P,40S,40T,,,,00EURO-CURRENCY SIGN,01COLON,01CRUZEIRO,01FRENCH FRANC,01LIRA,01MILL,01NAIRA,01PESETA," ++
  "01RUPEE,01WON,01NEW SHEQEL,01DONG,01EURO,01KIP,01TUGRIK,01DRACHMA,01GERMAN PENNY,01PESO,01GUARANI,01AUSTRAL," ++
  "01HRYVNIA,01CEDI,01LIVRE TOURNOIS,01SPESMILO,01TENGE,01INDIAN RUPEE,01TURKISH LIRA,01NORDIC MARK,01MANAT," ++
  "01RUBLE,01LARI,01BITCOIN,01SOM"

def run20d0 : String :=
  "00COMBINING LEFT HARPOON ABOVE,12RIGHT,10LONG VERTICAL LINE OVERLAY,13SHORT,10ANTICLOCKWISE ARROW ABOVE," ++
  "12CLOCKWISE,12LEFT,12RIGHT,10RING OVERLAY,12CLOCKWISE,12ANTICLOCKWISE,10THREE DOTS ABOVE,12FOUR," ++
  "10ENCLOSING CIRCLE,20SQUARE,20DIAMOND,20CIRCLE BACKSLASH,10LEFT RIGHT ARROW ABOVE,10ENCLOSING SCREEN,20KEYCAP," ++
  "20UPWARD POINTING TRIANGLE,10REVERSE SOLIDUS OVERLAY,11DOUBLE VERTICAL STROKE,10ANNUITY SYMBOL," ++
  "10TRIPLE UNDERDOT,10WIDE BRIDGE ABOVE,10LEFTWARDS ARROW OVERLAY,11LONG DOUBLE SOLIDUS," ++
  "10RIGHTWARDS HARPOON WITH BARB DOWNWARDS,14LEFTWARDS,10LEFT ARROW BELOW,12RIGHT,10ASTERISK ABOVE"

def run2100 : String :=
  "00ACCOUNT OF,00ADDRESSED TO THE SUBJECT,00DOUBLE-STRUCK CAPITAL C,00DEGREE CELSIUS,00CENTRE LINE SYMBOL," ++
  "00CARE OF,00CADA UNA,00EULER CONSTANT,00SCRUPLE,00DEGREE FAHRENHEIT,00SCRIPT SMALL G,10CAPITAL H,02BLACK-LETTER," ++
  "02DOUBLE-STRUCK,00PLANCK CONSTANT,20OVER TWO PI,00SCRIPT CAPITAL I,02BLACK-LETTER,00SCRIPT CAPITAL L,11SMALL," ++
  "00L B BAR SYMBOL,00DOUBLE-STRUCK CAPITAL N,00NUMERO SIGN,00SOUND RECORDING COPYRIGHT,00SCRIPT CAPITAL P," ++
  "02DOUBLE-STRUCK,20Q,00SCRIPT CAPITAL R,02BLACK-LETTER,02DOUBLE-STRUCK,00PRESCRIPTION TAKE,00RESPONSE," ++
  "00SERVICE MARK,00TELEPHONE SIGN,01TRADE MARK,00VERSICLE,00DOUBLE-STRUCK CAPITAL Z,00OUNCE SIGN,01OHM,02INVERTED," ++
  "00BLACK-LETTER CAPITAL Z,00TURNED GREEK SMALL LETTER IOTA,00KELVIN SIGN,01ANGSTROM,00SCRIPT CAPITAL B," ++
  "00BLACK-LETTER CAPITAL C,00ESTIMATED SYMBOL,00SCRIPT SMALL E,11CAPITAL,20F,02TURNED,00SCRIPT CAPITAL M," ++
  "10SMALL O,00ALEF SYMBOL,01BET,01GIMEL,01DALET,00INFORMATION SOURCE,00ROTATED CAPITAL Q,00FACSIMILE SIGN," ++
  "00DOUBLE-STRUCK SMALL PI,20GAMMA,11CAPITAL,20PI,10N-ARY SUMMATION,00TURNED SANS-SERIF CAPITAL G,30L,03REVERSED," ++
  "00TURNED SANS-SERIF CAPITAL Y,00DOUBLE-STRUCK ITALIC CAPITAL D,21SMALL,30E,30I,30J,00PROPERTY LINE," ++
  "00TURNED AMPERSAND,00PER SIGN,00AKTIESELSKAB,00TURNED SMALL F,00SYMBOL FOR SAMARITAN SOURCE," ++
  "00VULGAR FRACTION ONE SEVENTH,30NINTH,30TENTH,30THIRD,20TWO THIRDS,20ONE FIFTH,20TWO FIFTHS,21THREE,21FOUR," ++
  "20ONE SIXTH,20FIVE SIXTHS,20ONE EIGHTH,20THREE EIGHTHS,21FIVE,21SEVEN,00FRACTION NUMERATOR ONE,01ROMAN NUMERAL," ++
  "20TWO,20THREE,20FOUR,20FIVE,20SIX,20SEVEN,20EIGHT,20NINE,20TEN,20ELEVEN,20TWELVE,20FIFTY,20ONE HUNDRED,21FIVE," ++
  "20ONE THOUSAND,00SMALL ROMAN NUMERAL ONE,30TWO,30THREE,30FOUR,30FIVE,30SIX,30SEVEN,30EIGHT,30NINE,30TEN," ++
  "30ELEVEN,30TWELVE,30FIFTY,30ONE HUNDRED,31FIVE,30ONE THOUSAND"

def run2180 : String :=
  "00ROMAN NUMERAL ONE THOUSAND C D,20FIVE THOUSAND,21TEN,20REVERSED ONE HUNDRED,00LATIN SMALL LETTER REVERSED C," ++
  "00ROMAN NUMERAL SIX LATE FORM,21FIFTY EARLY,30THOUSAND,21ONE HUNDRED,00VULGAR FRACTION ZERO THIRDS," ++
  "00TURNED DIGIT TWO,20THREE,,,,,00LEFTWARDS ARROW,01UPWARDS,01RIGHTWARDS,01DOWNWARDS,01LEFT RIGHT,01UP DOWN," ++
  "01NORTH WEST,11EAST,02SOUTH,11WEST,00LEFTWARDS ARROW WITH STROKE,03RIGHTWARDS,00LEFTWARDS WAVE ARROW," ++
  "02RIGHTWARDS,01LEFTWARDS TWO HEADED,03UPWARDS,03RIGHTWARDS,03DOWNWARDS,00LEFTWARDS ARROW WITH TAIL,03RIGHTWARDS," ++
  "00LEFTWARDS ARROW FROM BAR,03UPWARDS,03RIGHTWARDS,03DOWNWARDS,00UP DOWN ARROW WITH BASE," ++
  "00LEFTWARDS ARROW WITH HOOK,03RIGHTWARDS,00LEFTWARDS ARROW WITH LOOP,03RIGHTWARDS,00LEFT RIGHT WAVE ARROW," ++
  "20ARROW WITH STROKE,00DOWNWARDS ZIGZAG ARROW,00UPWARDS ARROW WITH TIP LEFTWARDS,40RIGHTWARDS," ++
  "00DOWNWARDS ARROW WITH TIP LEFTWARDS,40RIGHTWARDS,00RIGHTWARDS ARROW WITH CORNER DOWNWARDS," ++
  "00DOWNWARDS ARROW WITH CORNER LEFTWARDS,00ANTICLOCKWISE TOP SEMICIRCLE ARROW,03CLOCKWISE," ++
  "00NORTH WEST ARROW TO LONG BAR,01LEFTWARDS ARROW TO BAR OVER RIGHTWARDS ARROW TO," ++
  "00ANTICLOCKWISE OPEN CIRCLE ARROW,03CLOCKWISE,00LEFTWARDS HARPOON WITH BARB UPWARDS,40DOWNWARDS," ++
  "00UPWARDS HARPOON WITH BARB RIGHTWARDS,40LEFTWARDS,00RIGHTWARDS HARPOON WITH BARB UPWARDS,40DOWNWARDS," ++
  "00DOWNWARDS HARPOON WITH BARB RIGHTWARDS,40LEFTWARDS,00RIGHTWARDS ARROW OVER LEFTWARDS ARROW," ++
  "01UPWARDS ARROW LEFTWARDS OF DOWNWARDS,01LEFTWARDS ARROW OVER RIGHTWARDS,10PAIRED ARROWS,02UPWARDS,02RIGHTWARDS," ++
  "02DOWNWARDS,00LEFTWARDS HARPOON OVER RIGHTWARDS HARPOON,01RIGHTWARDS HARPOON OVER LEFTWARDS," ++
  "00LEFTWARDS DOUBLE ARROW WITH STROKE,04LEFT RIGHT,04RIGHTWARDS,00LEFTWARDS DOUBLE ARROW,02UPWARDS,02RIGHTWARDS," ++
  "02DOWNWARDS,02LEFT RIGHT,02UP DOWN,02NORTH WEST,12EAST,03SOUTH,12WEST,01LEFTWARDS TRIPLE,02RIGHTWARDS," ++
  "01LEFTWARDS SQUIGGLE,02RIGHTWARDS,00UPWARDS ARROW WITH DOUBLE STROKE,04DOWNWARDS,00LEFTWARDS DASHED ARROW," ++
  "02UPWARDS,02RIGHTWARDS,02DOWNWARDS,00LEFTWARDS ARROW TO BAR,03RIGHTWARDS,00LEFTWARDS WHITE ARROW,02UPWARDS," ++
  "02RIGHTWARDS,02DOWNWARDS,00UPWARDS WHITE ARROW FROM BAR,30ON PEDESTAL,50WITH HORIZONTAL BAR,61VERTICAL," ++
  "20DOUBLE ARROW,40ON PEDESTAL,00RIGHTWARDS WHITE ARROW FROM WALL,00NORTH WEST ARROW TO CORNER,03SOUTH EAST," ++
  "00UP DOWN WHITE ARROW,00RIGHT ARROW WITH SMALL CIRCLE,00DOWNWARDS ARROW LEFTWARDS OF UPWARDS ARROW," ++
  "00THREE RIGHTWARDS ARROWS,00LEFTWARDS ARROW WITH VERTICAL STROKE,04RIGHTWARDS,04LEFT RIGHT," ++
  "02LEFTWARDS ARROW WITH DOUBLE,05RIGHTWARDS,05LEFT RIGHT,00LEFTWARDS OPEN-HEADED ARROW,02RIGHTWARDS,02LEFT RIGHT"

def run2200 : String :=
  "00FOR ALL,00COMPLEMENT,00PARTIAL DIFFERENTIAL,00THERE EXISTS,10DOES NOT EXIST,00EMPTY SET,00INCREMENT,00NABLA," ++
  "00ELEMENT OF,02NOT AN,02SMALL,00CONTAINS AS MEMBER,02DOES NOT CONTAIN,02SMALL CONTAINS,00END OF PROOF," ++
  "00N-ARY PRODUCT,10COPRODUCT,10SUMMATION,00MINUS SIGN,01MINUS-OR-PLUS,00DOT PLUS,00DIVISION SLASH,00SET MINUS," ++
  "00ASTERISK OPERATOR,01RING,01BULLET,00SQUARE ROOT,01CUBE,01FOURTH,00PROPORTIONAL TO,00INFINITY,00RIGHT ANGLE," ++
  "00ANGLE,01MEASURED,01SPHERICAL,00DIVIDES,00DOES NOT DIVIDE,00PARALLEL TO,02NOT,00LOGICAL AND,10OR," ++
  "00INTERSECTION,00UNION,00INTEGRAL,01DOUBLE,01TRIPLE,01CONTOUR,01SURFACE,01VOLUME,01CLOCKWISE,11CONTOUR," ++
  "02ANTICLOCKWISE,00THEREFORE,00BECAUSE,00RATIO,00PROPORTION,00DOT MINUS,00EXCESS,00GEOMETRIC PROPORTION," ++
  "00HOMOTHETIC,00TILDE OPERATOR,00REVERSED TILDE,00INVERTED LAZY S,00SINE WAVE,00WREATH PRODUCT,00NOT TILDE," ++
  "01MINUS,00ASYMPTOTICALLY EQUAL TO,03NOT,02APPROXIMATELY,12BUT NOT ACTUALLY,03NEITHER APPROXIMATELY NOR,02ALMOST," ++
  "03NOT,02ALMOST EQUAL OR,00TRIPLE TILDE,00ALL EQUAL TO,01EQUIVALENT,02GEOMETRICALLY,00DIFFERENCE BETWEEN," ++
  "00APPROACHES THE LIMIT,00GEOMETRICALLY EQUAL TO,00APPROXIMATELY EQUAL TO OR THE IMAGE OF," ++
  "00IMAGE OF OR APPROXIMATELY EQUAL TO,00COLON EQUALS,00EQUALS COLON,00RING IN EQUAL TO,11EQUAL,01CORRESPONDS," ++
  "00ESTIMATES,00EQUIANGULAR TO,00STAR EQUALS,00DELTA EQUAL TO,00EQUAL TO BY DEFINITION,00MEASURED BY," ++
  "00QUESTIONED EQUAL TO,02NOT,01IDENTICAL,02NOT,01STRICTLY EQUIVALENT,01LESS-THAN OR EQUAL,03GREATER-THAN," ++
  "02LESS-THAN OVER,03GREATER-THAN,02LESS-THAN BUT NOT,04GREATER-THAN,00MUCH LESS-THAN,10GREATER-THAN,00BETWEEN," ++
  "00NOT EQUIVALENT TO,10LESS-THAN,10GREATER-THAN,00NEITHER LESS-THAN NOR EQUAL TO,13GREATER-THAN," ++
  "01LESS-THAN OR EQUIVALENT,03GREATER-THAN,02NEITHER LESS-THAN NOR,13GREATER-THAN,00LESS-THAN OR GREATER-THAN," ++
  "00GREATER-THAN OR LESS-THAN,00NEITHER LESS-THAN NOR GREATER-THAN,10GREATER-THAN NOR LESS-THAN,00PRECEDES," ++
  "00SUCCEEDS,00PRECEDES OR EQUAL TO,03SUCCEEDS,01PRECEDES OR EQUIVALENT,03SUCCEEDS"

def run2280 : String :=
  "00DOES NOT PRECEDE,20SUCCEED,00SUBSET OF,01SUPERSET,01NOT A SUBSET,21SUPERSET,00SUBSET OF OR EQUAL TO," ++
  "04SUPERSET,02NEITHER A SUBSET OF NOR,24SUPERSET,02SUBSET OF WITH NOT,05SUPERSET,00MULTISET,10MULTIPLICATION," ++
  "10UNION,00SQUARE IMAGE OF,11ORIGINAL,10IMAGE OF OR EQUAL TO,14ORIGINAL,10CAP,10CUP,00CIRCLED PLUS,10MINUS," ++
  "10TIMES,10DIVISION SLASH,10DOT OPERATOR,11RING,11ASTERISK,10EQUALS,10DASH,00SQUARED PLUS,10MINUS,10TIMES," ++
  "10DOT OPERATOR,00RIGHT TACK,01LEFT,01DOWN,01UP,00ASSERTION,00MODELS,00TRUE,00FORCES," ++
  "00TRIPLE VERTICAL BAR RIGHT TURNSTILE,02DOUBLE VERTICAL BAR DOUBLE,00DOES NOT PROVE,00NOT TRUE,00DOES NOT FORCE," ++
  "00NEGATED DOUBLE VERTICAL BAR DOUBLE RIGHT TURNSTILE,00PRECEDES UNDER RELATION,02SUCCEEDS,00NORMAL SUBGROUP OF," ++
  "00CONTAINS AS NORMAL SUBGROUP,00NORMAL SUBGROUP OF OR EQUAL TO,03CONTAINS AS NORMAL SUBGROUP,00ORIGINAL OF," ++
  "01IMAGE,00MULTIMAP,00HERMITIAN CONJUGATE MATRIX,00INTERCALATE,00XOR,00NAND,00NOR,00RIGHT ANGLE WITH ARC," ++
  "10TRIANGLE,00N-ARY LOGICAL AND,20OR,10INTERSECTION,10UNION,00DIAMOND OPERATOR,01DOT,01STAR,00DIVISION TIMES," ++
  "00BOWTIE,00LEFT NORMAL FACTOR SEMIDIRECT PRODUCT,04RIGHT,02LEFT,02RIGHT,00REVERSED TILDE EQUALS," ++
  "00CURLY LOGICAL OR,20AND,00DOUBLE SUBSET,10SUPERSET,10INTERSECTION,10UNION,00PITCHFORK,00EQUAL AND PARALLEL TO," ++
  "00LESS-THAN WITH DOT,02GREATER-THAN,00VERY MUCH LESS-THAN,20GREATER-THAN,01LESS-THAN EQUAL TO OR," ++
  "00GREATER-THAN EQUAL TO OR LESS-THAN,03EQUAL,30GREATER-THAN,30PRECEDES,30SUCCEEDS,00DOES NOT PRECEDE OR EQUAL," ++
  "22SUCCEED,00NOT SQUARE IMAGE OF OR EQUAL TO,24ORIGINAL,02SQUARE IMAGE OF OR NOT,15ORIGINAL," ++
  "01LESS-THAN BUT NOT EQUIVALENT,04GREATER-THAN,04PRECEDES,04SUCCEEDS,00NOT NORMAL SUBGROUP OF," ++
  "00DOES NOT CONTAIN AS NORMAL SUBGROUP,00NOT NORMAL SUBGROUP OF OR EQUAL TO," ++
  "00DOES NOT CONTAIN AS NORMAL SUBGROUP OR EQUAL,00VERTICAL ELLIPSIS,01MIDLINE HORIZONTAL,01UP RIGHT DIAGONAL," ++
  "03DOWN,00ELEMENT OF WITH LONG HORIZONTAL STROKE,32VERTICAL BAR AT END OF,09SMALL ELEMENT," ++
  "00ELEMENT OF WITH DOT ABOVE,30OVERBAR,04SMALL,00ELEMENT OF WITH UNDERBAR,30TWO HORIZONTAL STROKES," ++
  "00CONTAINS WITH LONG HORIZONTAL STROKE,22VERTICAL BAR AT END OF,09SMALL,00CONTAINS WITH OVERBAR,03SMALL," ++
  "00Z NOTATION BAG MEMBERSHIP"

def run2300 : String :=
  "00DIAMETER SIGN,00ELECTRIC ARROW,00HOUSE,00UP ARROWHEAD,01DOWN,00PROJECTIVE,00PERSPECTIVE,00WAVY LINE," ++
  "00LEFT CEILING,01RIGHT,00LEFT FLOOR,01RIGHT,00BOTTOM RIGHT CROP,11LEFT,01TOP RIGHT,11LEFT,00REVERSED NOT SIGN," ++
  "00SQUARE LOZENGE,00ARC,00SEGMENT,00SECTOR,00TELEPHONE RECORDER,00POSITION INDICATOR,00VIEWDATA SQUARE," ++
  "00PLACE OF INTEREST SIGN,01TURNED NOT,00WATCH,00HOURGLASS,00TOP LEFT CORNER,11RIGHT,01BOTTOM LEFT,11RIGHT," ++
  "00TOP HALF INTEGRAL,02BOTTOM,00FROWN,00SMILE,00UP ARROWHEAD BETWEEN TWO HORIZONTAL BARS,00OPTION KEY," ++
  "00ERASE TO THE RIGHT,00X IN A RECTANGLE BOX,00KEYBOARD,00LEFT-POINTING ANGLE BRACKET,02RIGHT-POINTING," ++
  "00ERASE TO THE LEFT,00BENZENE RING,00CYLINDRICITY,00ALL AROUND-PROFILE,00SYMMETRY,00TOTAL RUNOUT," ++
  "00DIMENSION ORIGIN,00CONICAL TAPER,00SLOPE,00COUNTERBORE,00COUNTERSINK,00APL FUNCTIONAL SYMBOL I-BEAM," ++
  "30SQUISH QUAD,30QUAD EQUAL,40DIVIDE,40DIAMOND,40JOT,40CIRCLE,30CIRCLE STILE,40JOT,30SLASH BAR,31BACKSLASH," ++
  "30QUAD SLASH,40BACKSLASH,40LESS-THAN,40GREATER-THAN,30LEFTWARDS VANE,31RIGHTWARDS,30QUAD LEFTWARDS ARROW," ++
  "41RIGHTWARDS,30CIRCLE BACKSLASH,30DOWN TACK UNDERBAR,30DELTA STILE,30QUAD DOWN CARET,40DELTA,30DOWN TACK JOT," ++
  "30UPWARDS VANE,30QUAD UPWARDS ARROW,30UP TACK OVERBAR,30DEL STILE,30QUAD UP CARET,40DEL,30UP TACK JOT," ++
  "30DOWNWARDS VANE,30QUAD DOWNWARDS ARROW,30QUOTE UNDERBAR,31DELTA,31DIAMOND,31JOT,31CIRCLE,30UP SHOE JOT," ++
  "30QUOTE QUAD,30CIRCLE STAR,30QUAD COLON,30UP TACK DIAERESIS,31DEL,31STAR,31JOT,31CIRCLE,30DOWN SHOE STILE," ++
  "32LEFT,30TILDE DIAERESIS,31GREATER-THAN,30COMMA BAR,30DEL TILDE,30ZILDE,30STILE TILDE,30SEMICOLON UNDERBAR," ++
  "30QUAD NOT EQUAL,40QUESTION,30DOWN CARET TILDE,32UP,30IOTA,30RHO,30OMEGA,30ALPHA UNDERBAR,31EPSILON,31IOTA," ++
  "31OMEGA,30ALPHA,00NOT CHECK MARK,00RIGHT ANGLE WITH DOWNWARDS ZIGZAG ARROW,00SHOULDERED OPEN BOX,00BELL SYMBOL," ++
  "00VERTICAL LINE WITH MIDDLE DOT"

def run2380 : String :=
  "00INSERTION SYMBOL,01CONTINUOUS UNDERLINE,02DISCONTINUOUS,01EMPHASIS,01COMPOSITION," ++
  "00WHITE SQUARE WITH CENTRE VERTICAL LINE,00ENTER SYMBOL,01ALTERNATIVE KEY,01HELM," ++
  "00CIRCLED HORIZONTAL BAR WITH NOTCH,10TRIANGLE DOWN,00BROKEN CIRCLE WITH NORTHWEST ARROW,00UNDO SYMBOL," ++
  "01MONOSTABLE,01HYSTERESIS,01OPEN-CIRCUIT-OUTPUT H-TYPE,11L-TYPE,01PASSIVE-PULL-DOWN-OUTPUT," ++
  "01PASSIVE-PULL-UP-OUTPUT,00DIRECT CURRENT SYMBOL FORM TWO,00SOFTWARE-FUNCTION SYMBOL," ++
  "00APL FUNCTIONAL SYMBOL QUAD,00DECIMAL SEPARATOR KEY SYMBOL,00PREVIOUS PAGE,01NEXT,00PRINT SCREEN SYMBOL," ++
  "02CLEAR,00LEFT PARENTHESIS UPPER HOOK,20EXTENSION,20LOWER HOOK,01RIGHT PARENTHESIS UPPER,20EXTENSION," ++
  "20LOWER HOOK,00LEFT SQUARE BRACKET UPPER CORNER,30EXTENSION,30LOWER CORNER,01RIGHT SQUARE BRACKET UPPER," ++
  "30EXTENSION,30LOWER CORNER,00LEFT CURLY BRACKET UPPER HOOK,30MIDDLE PIECE,30LOWER HOOK," ++
  "00CURLY BRACKET EXTENSION,00RIGHT CURLY BRACKET UPPER HOOK,30MIDDLE PIECE,30LOWER HOOK,00INTEGRAL EXTENSION," ++
  "01HORIZONTAL LINE,00UPPER LEFT OR LOWER RIGHT CURLY BRACKET SECTION,13RIGHT OR LOWER LEFT,00SUMMATION TOP," ++
  "10BOTTOM,00TOP SQUARE BRACKET,02BOTTOM,30OVER TOP SQUARE BRACKET,00RADICAL SYMBOL BOTTOM," ++
  "00LEFT VERTICAL BOX LINE,03RIGHT,00HORIZONTAL SCAN LINE-1,20LINE-3,20LINE-7,20LINE-9," ++
  "00DENTISTRY SYMBOL LIGHT VERTICAL AND TOP RIGHT,51BOTTOM,40WITH CIRCLE,32DOWN AND HORIZONTAL,34UP," ++
  "30VERTICAL WITH TRIANGLE,32DOWN AND HORIZONTAL,34UP,30VERTICAL AND WAVE,31DOWN AND HORIZONTAL WITH,34UP," ++
  "30DOWN AND HORIZONTAL,32UP,30VERTICAL AND TOP LEFT,51BOTTOM,00SQUARE FOOT,00RETURN SYMBOL,01EJECT," ++
  "00VERTICAL LINE EXTENSION,00METRICAL BREVE,10LONG OVER SHORT,10SHORT OVER LONG,10LONG OVER TWO SHORTS," ++
  "10TWO SHORTS OVER LONG,30JOINED,10TRISEME,10TETRASEME,10PENTASEME,00EARTH GROUND,00FUSE,00TOP PARENTHESIS," ++
  "01BOTTOM,00TOP CURLY BRACKET,02BOTTOM,01TOP TORTOISE SHELL,03BOTTOM,00WHITE TRAPEZIUM," ++
  "00BENZENE RING WITH CIRCLE,00STRAIGHTNESS,00FLATNESS,00AC CURRENT,00ELECTRICAL INTERSECTION," ++
  "00DECIMAL EXPONENT SYMBOL,00BLACK RIGHT-POINTING DOUBLE TRIANGLE,12LEFT-POINTING,12UP-POINTING,12DOWN-POINTING," ++
  "10RIGHT-POINTING DOUBLE TRIANGLE WITH VERTICAL BAR,15LEFT-POINTING,12RIGHT-POINTING TRIANGLE WITH DOUBLE," ++
  "00ALARM CLOCK,00STOPWATCH,00TIMER CLOCK,00HOURGLASS WITH FLOWING SAND,00BLACK MEDIUM LEFT-POINTING TRIANGLE," ++
  "21RIGHT-POINTING,21UP-POINTING,21DOWN-POINTING,00DOUBLE VERTICAL BAR,00BLACK SQUARE FOR STOP," ++
  "10CIRCLE FOR RECORD,00POWER SYMBOL,11ON-OFF,11ON,11SLEEP,01OBSERVER EYE"

def run2400 : String :=
  "00SYMBOL FOR NULL,20START OF HEADING,40TEXT,22END,40TRANSMISSION,20ENQUIRY,20ACKNOWLEDGE,20BELL,20BACKSPACE," ++
  "20HORIZONTAL TABULATION,20LINE FEED,20VERTICAL TABULATION,20FORM FEED,20CARRIAGE RETURN,20SHIFT OUT,30IN," ++
  "20DATA LINK ESCAPE,20DEVICE CONTROL ONE,40TWO,40THREE,40FOUR,20NEGATIVE ACKNOWLEDGE,20SYNCHRONOUS IDLE," ++
  "20END OF TRANSMISSION BLOCK,20CANCEL,20END OF MEDIUM,20SUBSTITUTE,20ESCAPE,20FILE SEPARATOR,21GROUP,21RECORD," ++
  "21UNIT,20SPACE,20DELETE,00BLANK SYMBOL,00OPEN BOX,00SYMBOL FOR NEWLINE,20DELETE FORM TWO,22SUBSTITUTE"

def run2440 : String :=
  "00OCR HOOK,10CHAIR,10FORK,11INVERTED,10BELT BUCKLE,10BOW TIE,10BRANCH BANK IDENTIFICATION,10AMOUNT OF CHECK," ++
  "10DASH,10CUSTOMER ACCOUNT NUMBER,10DOUBLE BACKSLASH"

def run2460 : String :=
  "00CIRCLED DIGIT ONE,20TWO,20THREE,20FOUR,20FIVE,20SIX,20SEVEN,20EIGHT,20NINE,10NUMBER TEN,20ELEVEN,20TWELVE," ++
  "20THIRTEEN,20FOURTEEN,20FIFTEEN,20SIXTEEN,20SEVENTEEN,20EIGHTEEN,20NINETEEN,20TWENTY,00PARENTHESIZED DIGIT ONE," ++
  "20TWO,20THREE,20FOUR,20FIVE,20SIX,20SEVEN,20EIGHT,20NINE,10NUMBER TEN,20ELEVEN,20TWELVE,20THIRTEEN,20FOURTEEN," ++
  "20FIFTEEN,20SIXTEEN,20SEVENTEEN,20EIGHTEEN,20NINETEEN,20TWENTY,00DIGIT ONE FULL STOP,12TWO,12THREE,12FOUR," ++
  "12FIVE,12SIX,12SEVEN,12EIGHT,12NINE,02NUMBER TEN,12ELEVEN,12TWELVE,12THIRTEEN,12FOURTEEN,12FIFTEEN,12SIXTEEN," ++
  "12SEVENTEEN,12EIGHTEEN,12NINETEEN,12TWENTY,00PARENTHESIZED LATIN SMALL LETTER A,40B,40C,40D,40E,40F,40G,40H,40I," ++
  "40J,40K,40L,40M,40N,40O,40P,40Q,40R,40S,40T,40U,40V,40W,40X,40Y,40Z,00CIRCLED LATIN CAPITAL LETTER A,40B,40C," ++
  "40D,40E,40F,40G,40H,40I,40J,40K,40L,40M,40N,40O,40P,40Q,40R,40S,40T,40U,40V,40W,40X,40Y,40Z,20SMALL LETTER A," ++
  "40B,40C,40D,40E,40F,40G,40H,40I,40J,40K,40L,40M,40N,40O,40P,40Q,40R,40S,40T,40U,40V,40W,40X,40Y,40Z," ++
  "10DIGIT ZERO,00NEGATIVE CIRCLED NUMBER ELEVEN,30TWELVE,30THIRTEEN,30FOURTEEN,30FIFTEEN,30SIXTEEN,30SEVENTEEN," ++
  "30EIGHTEEN,30NINETEEN,30TWENTY,00DOUBLE CIRCLED DIGIT ONE,30TWO,30THREE,30FOUR,30FIVE,30SIX,30SEVEN,30EIGHT," ++
  "30NINE,20NUMBER TEN,00NEGATIVE CIRCLED DIGIT ZERO"

def run2500 : String :=
  "00BOX DRAWINGS LIGHT HORIZONTAL,21HEAVY,20LIGHT VERTICAL,21HEAVY,20LIGHT TRIPLE DASH HORIZONTAL,23HEAVY," ++
  "20LIGHT TRIPLE DASH VERTICAL,23HEAVY,20LIGHT QUADRUPLE DASH HORIZONTAL,23HEAVY,20LIGHT QUADRUPLE DASH VERTICAL," ++
  "23HEAVY,20LIGHT DOWN AND RIGHT,20DOWN LIGHT AND RIGHT HEAVY,30HEAVY AND RIGHT LIGHT,20HEAVY DOWN AND RIGHT," ++
  "20LIGHT DOWN AND LEFT,20DOWN LIGHT AND LEFT HEAVY,30HEAVY AND LEFT LIGHT,20HEAVY DOWN AND LEFT," ++
  "20LIGHT UP AND RIGHT,20UP LIGHT AND RIGHT HEAVY,30HEAVY AND RIGHT LIGHT,20HEAVY UP AND RIGHT," ++
  "20LIGHT UP AND LEFT,20UP LIGHT AND LEFT HEAVY,30HEAVY AND LEFT LIGHT,20HEAVY UP AND LEFT," ++
  "20LIGHT VERTICAL AND RIGHT,20VERTICAL LIGHT AND RIGHT HEAVY,20UP HEAVY AND RIGHT DOWN LIGHT," ++
  "21DOWN HEAVY AND RIGHT UP,21VERTICAL HEAVY AND RIGHT,20DOWN LIGHT AND RIGHT UP HEAVY,21UP LIGHT AND RIGHT DOWN," ++
  "20HEAVY VERTICAL AND RIGHT,20LIGHT VERTICAL AND LEFT,20VERTICAL LIGHT AND LEFT HEAVY," ++
  "20UP HEAVY AND LEFT DOWN LIGHT,21DOWN HEAVY AND LEFT UP,21VERTICAL HEAVY AND LEFT," ++
  "20DOWN LIGHT AND LEFT UP HEAVY,21UP LIGHT AND LEFT DOWN,20HEAVY VERTICAL AND LEFT,20LIGHT DOWN AND HORIZONTAL," ++
  "20LEFT HEAVY AND RIGHT DOWN LIGHT,22RIGHT HEAVY AND LEFT,20DOWN LIGHT AND HORIZONTAL HEAVY," ++
  "30HEAVY AND HORIZONTAL LIGHT,20RIGHT LIGHT AND LEFT DOWN HEAVY,22LEFT LIGHT AND RIGHT," ++
  "20HEAVY DOWN AND HORIZONTAL,22LIGHT UP,20LEFT HEAVY AND RIGHT UP LIGHT,22RIGHT HEAVY AND LEFT," ++
  "20UP LIGHT AND HORIZONTAL HEAVY,30HEAVY AND HORIZONTAL LIGHT,20RIGHT LIGHT AND LEFT UP HEAVY," ++
  "22LEFT LIGHT AND RIGHT,20HEAVY UP AND HORIZONTAL,22LIGHT VERTICAL,20LEFT HEAVY AND RIGHT VERTICAL LIGHT," ++
  "22RIGHT HEAVY AND LEFT,20VERTICAL LIGHT AND HORIZONTAL HEAVY,20UP HEAVY AND DOWN HORIZONTAL LIGHT," ++
  "22DOWN HEAVY AND UP,22VERTICAL HEAVY AND,21LEFT UP HEAVY AND RIGHT DOWN,22RIGHT UP HEAVY AND LEFT," ++
  "21LEFT DOWN HEAVY AND RIGHT UP,22RIGHT DOWN HEAVY AND LEFT,20DOWN LIGHT AND UP HORIZONTAL HEAVY," ++
  "22UP LIGHT AND DOWN,21RIGHT LIGHT AND LEFT VERTICAL,22LEFT LIGHT AND RIGHT,20HEAVY VERTICAL AND HORIZONTAL," ++
  "21LIGHT DOUBLE DASH,23HEAVY,20LIGHT DOUBLE DASH VERTICAL,23HEAVY,20DOUBLE HORIZONTAL,30VERTICAL," ++
  "20DOWN SINGLE AND RIGHT DOUBLE,30DOUBLE AND RIGHT SINGLE,20DOUBLE DOWN AND RIGHT,20DOWN SINGLE AND LEFT DOUBLE," ++
  "30DOUBLE AND LEFT SINGLE,20DOUBLE DOWN AND LEFT,20UP SINGLE AND RIGHT DOUBLE,30DOUBLE AND RIGHT SINGLE," ++
  "20DOUBLE UP AND RIGHT,20UP SINGLE AND LEFT DOUBLE,30DOUBLE AND LEFT SINGLE,20DOUBLE UP AND LEFT," ++
  "20VERTICAL SINGLE AND RIGHT DOUBLE,30DOUBLE AND RIGHT SINGLE,20DOUBLE VERTICAL AND RIGHT," ++
  "20VERTICAL SINGLE AND LEFT DOUBLE,30DOUBLE AND LEFT SINGLE,20DOUBLE VERTICAL AND LEFT," ++
  "20DOWN SINGLE AND HORIZONTAL DOUBLE,30DOUBLE AND HORIZONTAL SINGLE,20DOUBLE DOWN AND HORIZONTAL," ++
  "20UP SINGLE AND HORIZONTAL DOUBLE,30DOUBLE AND HORIZONTAL SINGLE,20DOUBLE UP AND HORIZONTAL," ++
  "20VERTICAL SINGLE AND HORIZONTAL DOUBLE,30DOUBLE AND HORIZONTAL SINGLE,20DOUBLE VERTICAL AND HORIZONTAL," ++
  "20LIGHT ARC DOWN AND RIGHT,60LEFT,42UP,60RIGHT,30DIAGONAL UPPER RIGHT TO LOWER LEFT,50LEFT TO LOWER RIGHT," ++
  "40CROSS,30LEFT,30UP,30RIGHT,30DOWN,20HEAVY LEFT,30UP,30RIGHT,30DOWN,20LIGHT LEFT AND HEAVY RIGHT," ++
  "30UP AND HEAVY DOWN,20HEAVY LEFT AND LIGHT RIGHT,30UP AND LIGHT DOWN"

def run2580 : String :=
  "00UPPER HALF BLOCK,01LOWER ONE EIGHTH,21QUARTER,11THREE EIGHTHS,11HALF,11FIVE EIGHTHS,11THREE QUARTERS," ++
  "11SEVEN EIGHTHS,01FULL,01LEFT SEVEN EIGHTHS,11THREE QUARTERS,11FIVE EIGHTHS,11HALF,11THREE EIGHTHS," ++
  "11ONE QUARTER,21EIGHTH,01RIGHT HALF,00LIGHT SHADE,01MEDIUM,01DARK,00UPPER ONE EIGHTH BLOCK,03RIGHT," ++
  "00QUADRANT LOWER LEFT,20RIGHT,10UPPER LEFT,30AND LOWER LEFT AND LOWER RIGHT,50RIGHT," ++
  "40UPPER RIGHT AND LOWER LEFT,80RIGHT,20RIGHT,30AND LOWER LEFT,60AND LOWER RIGHT,00BLACK SQUARE,01WHITE," ++
  "20WITH ROUNDED CORNERS,20CONTAINING BLACK SMALL SQUARE,00SQUARE WITH HORIZONTAL FILL,21VERTICAL," ++
  "21ORTHOGONAL CROSSHATCH,21UPPER LEFT TO LOWER RIGHT,31RIGHT TO LOWER LEFT,21DIAGONAL CROSSHATCH," ++
  "00BLACK SMALL SQUARE,02WHITE,00BLACK RECTANGLE,01WHITE,01BLACK VERTICAL,02WHITE,00BLACK PARALLELOGRAM,01WHITE," ++
  "00BLACK UP-POINTING TRIANGLE,02WHITE,01BLACK UP-POINTING SMALL,03WHITE,01BLACK RIGHT-POINTING,02WHITE," ++
  "01BLACK RIGHT-POINTING SMALL,03WHITE,00BLACK RIGHT-POINTING POINTER,02WHITE,00BLACK DOWN-POINTING TRIANGLE," ++
  "02WHITE,01BLACK DOWN-POINTING SMALL,03WHITE,01BLACK LEFT-POINTING,02WHITE,01BLACK LEFT-POINTING SMALL,03WHITE," ++
  "00BLACK LEFT-POINTING POINTER,02WHITE,00BLACK DIAMOND,01WHITE,20CONTAINING BLACK SMALL DIAMOND,00FISHEYE," ++
  "00LOZENGE,00WHITE CIRCLE,01DOTTED,00CIRCLE WITH VERTICAL FILL,00BULLSEYE,00BLACK CIRCLE," ++
  "00CIRCLE WITH LEFT HALF BLACK,22RIGHT,22LOWER,22UPPER,31RIGHT QUADRANT,22ALL BUT UPPER LEFT," ++
  "00LEFT HALF BLACK CIRCLE,03RIGHT,00INVERSE BULLET,10WHITE CIRCLE,03UPPER HALF,04LOWER," ++
  "00UPPER LEFT QUADRANT CIRCULAR ARC,13RIGHT,04LOWER,13LEFT,00UPPER HALF CIRCLE,02LOWER," ++
  "00BLACK LOWER RIGHT TRIANGLE,21LEFT,12UPPER,21RIGHT,00WHITE BULLET,00SQUARE WITH LEFT HALF BLACK,22RIGHT," ++
  "22UPPER LEFT DIAGONAL,23LOWER RIGHT,00WHITE SQUARE WITH VERTICAL BISECTING LINE,10UP-POINTING TRIANGLE WITH DOT," ++
  "00UP-POINTING TRIANGLE WITH LEFT HALF BLACK,32RIGHT,00LARGE CIRCLE,00WHITE SQUARE WITH UPPER LEFT QUADRANT," ++
  "32LOWER,41RIGHT,32UPPER,11CIRCLE WITH UPPER LEFT,32LOWER,41RIGHT,32UPPER,00UPPER LEFT TRIANGLE,11RIGHT," ++
  "01LOWER LEFT,00WHITE MEDIUM SQUARE,02BLACK,01WHITE MEDIUM SMALL,03BLACK,00LOWER RIGHT TRIANGLE"

/-- The runs with their first and last characters. -/
def runs : List (Nat × Nat × String) := [
  (0x2000, 0x207f, run2000), (0x2080, 0x20c0, run2080), (0x20d0, 0x20f0, run20d0), (0x2100, 0x217f, run2100),
  (0x2180, 0x21ff, run2180), (0x2200, 0x227f, run2200), (0x2280, 0x22ff, run2280), (0x2300, 0x237f, run2300),
  (0x2380, 0x23ff, run2380), (0x2400, 0x2426, run2400), (0x2440, 0x244a, run2440), (0x2460, 0x24ff, run2460),
  (0x2500, 0x257f, run2500), (0x2580, 0x25ff, run2580)]

end SocksTunnel.CharacterName.Signs
