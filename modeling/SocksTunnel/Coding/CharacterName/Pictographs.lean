/-
  SocksTunnel.Coding.CharacterName.Pictographs — the names of tiles, cards, emblems and
  pictures, run by run. A run has an entry for each of its characters in a row: how many
  first and last words of the name before it stay, then its own words between these; an
  empty entry has no name.
-/

namespace SocksTunnel.CharacterName.Pictographs

def run1f000 : String :=
  "00MAHJONG TILE EAST WIND,21SOUTH,21WEST,21NORTH,20RED DRAGON,21GREEN,21WHITE,20ONE OF CHARACTERS,22TWO,22THREE," ++
  "22FOUR,22FIVE,22SIX,22SEVEN,22EIGHT,22NINE,20ONE OF BAMBOOS,22TWO,22THREE,22FOUR,22FIVE,22SIX,22SEVEN,22EIGHT," ++
  "22NINE,20ONE OF CIRCLES,22TWO,22THREE,22FOUR,22FIVE,22SIX,22SEVEN,22EIGHT,22NINE,20PLUM,20ORCHID,20BAMBOO," ++
  "20CHRYSANTHEMUM,20SPRING,20SUMMER,20AUTUMN,20WINTER,20JOKER,20BACK,,,,,01DOMINO TILE HORIZONTAL," ++
  "20HORIZONTAL-00-00,20HORIZONTAL-00-01,20HORIZONTAL-00-02,20HORIZONTAL-00-03,20HORIZONTAL-00-04," ++
  "20HORIZONTAL-00-05,20HORIZONTAL-00-06,20HORIZONTAL-01-00,20HORIZONTAL-01-01,20HORIZONTAL-01-02," ++
  "20HORIZONTAL-01-03,20HORIZONTAL-01-04,20HORIZONTAL-01-05,20HORIZONTAL-01-06,20HORIZONTAL-02-00," ++
  "20HORIZONTAL-02-01,20HORIZONTAL-02-02,20HORIZONTAL-02-03,20HORIZONTAL-02-04,20HORIZONTAL-02-05," ++
  "20HORIZONTAL-02-06,20HORIZONTAL-03-00,20HORIZONTAL-03-01,20HORIZONTAL-03-02,20HORIZONTAL-03-03," ++
  "20HORIZONTAL-03-04,20HORIZONTAL-03-05,20HORIZONTAL-03-06,20HORIZONTAL-04-00,20HORIZONTAL-04-01," ++
  "20HORIZONTAL-04-02,20HORIZONTAL-04-03,20HORIZONTAL-04-04,20HORIZONTAL-04-05,20HORIZONTAL-04-06," ++
  "20HORIZONTAL-05-00,20HORIZONTAL-05-01,20HORIZONTAL-05-02,20HORIZONTAL-05-03,20HORIZONTAL-05-04," ++
  "20HORIZONTAL-05-05,20HORIZONTAL-05-06,20HORIZONTAL-06-00,20HORIZONTAL-06-01,20HORIZONTAL-06-02," ++
  "20HORIZONTAL-06-03,20HORIZONTAL-06-04,20HORIZONTAL-06-05,20HORIZONTAL-06-06,20VERTICAL BACK,20VERTICAL-00-00," ++
  "20VERTICAL-00-01,20VERTICAL-00-02,20VERTICAL-00-03,20VERTICAL-00-04,20VERTICAL-00-05,20VERTICAL-00-06," ++
  "20VERTICAL-01-00,20VERTICAL-01-01,20VERTICAL-01-02,20VERTICAL-01-03,20VERTICAL-01-04,20VERTICAL-01-05," ++
  "20VERTICAL-01-06,20VERTICAL-02-00,20VERTICAL-02-01,20VERTICAL-02-02,20VERTICAL-02-03,20VERTICAL-02-04," ++
  "20VERTICAL-02-05,20VERTICAL-02-06,20VERTICAL-03-00,20VERTICAL-03-01,20VERTICAL-03-02,20VERTICAL-03-03," ++
  "20VERTICAL-03-04,20VERTICAL-03-05,20VERTICAL-03-06,20VERTICAL-04-00"

def run1f080 : String :=
  "00DOMINO TILE VERTICAL-04-01,20VERTICAL-04-02,20VERTICAL-04-03,20VERTICAL-04-04,20VERTICAL-04-05," ++
  "20VERTICAL-04-06,20VERTICAL-05-00,20VERTICAL-05-01,20VERTICAL-05-02,20VERTICAL-05-03,20VERTICAL-05-04," ++
  "20VERTICAL-05-05,20VERTICAL-05-06,20VERTICAL-06-00,20VERTICAL-06-01,20VERTICAL-06-02,20VERTICAL-06-03," ++
  "20VERTICAL-06-04,20VERTICAL-06-05,20VERTICAL-06-06"

def run1f0a0 : String :=
  "00PLAYING CARD BACK,20ACE OF SPADES,22TWO,22THREE,22FOUR,22FIVE,22SIX,22SEVEN,22EIGHT,22NINE,22TEN,22JACK," ++
  "22KNIGHT,22QUEEN,22KING,,,20ACE OF HEARTS,22TWO,22THREE,22FOUR,22FIVE,22SIX,22SEVEN,22EIGHT,22NINE,22TEN,22JACK," ++
  "22KNIGHT,22QUEEN,22KING,20RED JOKER,,20ACE OF DIAMONDS,22TWO,22THREE,22FOUR,22FIVE,22SIX,22SEVEN,22EIGHT,22NINE," ++
  "22TEN,22JACK,22KNIGHT,22QUEEN,22KING,20BLACK JOKER,,20ACE OF CLUBS,22TWO,22THREE,22FOUR,22FIVE,22SIX,22SEVEN," ++
  "22EIGHT,22NINE,22TEN,22JACK,22KNIGHT,22QUEEN,22KING,20WHITE JOKER,20FOOL,20TRUMP-1,20TRUMP-2,20TRUMP-3," ++
  "20TRUMP-4,20TRUMP-5,20TRUMP-6,20TRUMP-7,20TRUMP-8,20TRUMP-9,20TRUMP-10,20TRUMP-11,20TRUMP-12,20TRUMP-13," ++
  "20TRUMP-14,20TRUMP-15,20TRUMP-16,20TRUMP-17,20TRUMP-18,20TRUMP-19,20TRUMP-20,20TRUMP-21,,,,,,,,,,," ++
  "00DIGIT ZERO FULL STOP,20COMMA,11ONE,11TWO,11THREE,11FOUR,11FIVE,11SIX,11SEVEN,11EIGHT,11NINE," ++
  "00DINGBAT CIRCLED SANS-SERIF DIGIT ZERO,14NEGATIVE,00CIRCLED ZERO WITH SLASH,10ANTICLOCKWISE ARROW," ++
  "10DOLLAR SIGN WITH OVERLAID BACKSLASH,00PARENTHESIZED LATIN CAPITAL LETTER A,40B,40C,40D,40E,40F,40G,40H,40I," ++
  "40J,40K,40L,40M,40N,40O,40P,40Q,40R,40S,40T,40U,40V,40W,40X,40Y,40Z," ++
  "00TORTOISE SHELL BRACKETED LATIN CAPITAL LETTER S,00CIRCLED ITALIC LATIN CAPITAL LETTER C,50R,10CD,10WZ," ++
  "00COPYLEFT SYMBOL,00SQUARED LATIN CAPITAL LETTER A,40B,40C,40D,40E,40F,40G,40H,40I,40J,40K,40L,40M,40N,40O,40P," ++
  "40Q,40R,40S,40T,40U,40V,40W,40X,40Y,40Z,10HV,10MV,10SD,10SS,10PPV,10WC," ++
  "00NEGATIVE CIRCLED LATIN CAPITAL LETTER A,50B,50C,50D,50E,50F,50G,50H,50I,50J,50K,50L,50M,50N,50O,50P,50Q,50R," ++
  "50S,50T,50U,50V,50W,50X,50Y,50Z,00RAISED MC SIGN,11MD,11MR,00CIRCLED CC,10C WITH OVERLAID BACKSLASH," ++
  "10HUMAN FIGURE,00NEGATIVE SQUARED LATIN CAPITAL LETTER A,50B,50C,50D,50E,50F,50G,50H,50I,50J,50K,50L,50M,50N," ++
  "50O,50P"

def run1f180 : String :=
  "00NEGATIVE SQUARED LATIN CAPITAL LETTER Q,50R,50S,50T,50U,50V,50W,50X,50Y,50Z," ++
  "00CROSSED NEGATIVE SQUARED LATIN CAPITAL LETTER P,00NEGATIVE SQUARED IC,20PA,20SA,20AB,20WC,00SQUARE DJ," ++
  "00SQUARED CL,10COOL,10FREE,10ID,10NEW,10NG,10OK,10SOS,10UP WITH EXCLAMATION MARK,10VS,10THREE D,10SECOND SCREEN," ++
  "10TWO K,11FOUR,11EIGHT,10FIVE POINT ONE,12SEVEN,10TWENTY-TWO POINT TWO,10SIXTY P,11ONE HUNDRED TWENTY," ++
  "10LATIN SMALL LETTER D,10HC,10HDR,10HI-RES,10LOSSLESS,10SHV,10UHD,10VOD,00MASK WORK SYMBOL"

def run1f1e6 : String :=
  "00REGIONAL INDICATOR SYMBOL LETTER A,40B,40C,40D,40E,40F,40G,40H,40I,40J,40K,40L,40M,40N,40O,40P,40Q,40R,40S," ++
  "40T,40U,40V,40W,40X,40Y,40Z,00SQUARE HIRAGANA HOKA,00SQUARED KATAKANA KOKO,20SA"

def run1f210 : String :=
  "00SQUARED CJK UNIFIED IDEOGRAPH-624B,30IDEOGRAPH-5B57,30IDEOGRAPH-53CC,10KATAKANA DE," ++
  "10CJK UNIFIED IDEOGRAPH-4E8C,30IDEOGRAPH-591A,30IDEOGRAPH-89E3,30IDEOGRAPH-5929,30IDEOGRAPH-4EA4," ++
  "30IDEOGRAPH-6620,30IDEOGRAPH-7121,30IDEOGRAPH-6599,30IDEOGRAPH-524D,30IDEOGRAPH-5F8C,30IDEOGRAPH-518D," ++
  "30IDEOGRAPH-65B0,30IDEOGRAPH-521D,30IDEOGRAPH-7D42,30IDEOGRAPH-751F,30IDEOGRAPH-8CA9,30IDEOGRAPH-58F0," ++
  "30IDEOGRAPH-5439,30IDEOGRAPH-6F14,30IDEOGRAPH-6295,30IDEOGRAPH-6355,30IDEOGRAPH-4E00,30IDEOGRAPH-4E09," ++
  "30IDEOGRAPH-904A,30IDEOGRAPH-5DE6,30IDEOGRAPH-4E2D,30IDEOGRAPH-53F3,30IDEOGRAPH-6307,30IDEOGRAPH-8D70," ++
  "30IDEOGRAPH-6253,30IDEOGRAPH-7981,30IDEOGRAPH-7A7A,30IDEOGRAPH-5408,30IDEOGRAPH-6E80,30IDEOGRAPH-6709," ++
  "30IDEOGRAPH-6708,30IDEOGRAPH-7533,30IDEOGRAPH-5272,30IDEOGRAPH-55B6,30IDEOGRAPH-914D,,,,," ++
  "00TORTOISE SHELL BRACKETED CJK UNIFIED IDEOGRAPH-672C,50IDEOGRAPH-4E09,50IDEOGRAPH-4E8C,50IDEOGRAPH-5B89," ++
  "50IDEOGRAPH-70B9,50IDEOGRAPH-6253,50IDEOGRAPH-76D7,50IDEOGRAPH-52DD,50IDEOGRAPH-6557,,,,,,,," ++
  "00CIRCLED IDEOGRAPH ADVANTAGE,20ACCEPT"

def run1f260 : String :=
  "00ROUNDED SYMBOL FOR FU,30LU,30SHOU,30XI,30SHUANGXI,30CAI"

def run1f300 : String :=
  "00CYCLONE,00FOGGY,00CLOSED UMBRELLA,00NIGHT WITH STARS,00SUNRISE OVER MOUNTAINS,00SUNRISE,00CITYSCAPE AT DUSK," ++
  "00SUNSET OVER BUILDINGS,00RAINBOW,00BRIDGE AT NIGHT,00WATER WAVE,00VOLCANO,00MILKY WAY," ++
  "00EARTH GLOBE EUROPE-AFRICA,20AMERICAS,20ASIA-AUSTRALIA,00GLOBE WITH MERIDIANS,00NEW MOON SYMBOL," ++
  "02WAXING CRESCENT,02FIRST QUARTER,02WAXING GIBBOUS,02FULL,02WANING GIBBOUS,02LAST QUARTER,02WANING CRESCENT," ++
  "00CRESCENT MOON,00NEW MOON WITH FACE,03FIRST QUARTER,04LAST,03FULL,02SUN,00GLOWING STAR,01SHOOTING," ++
  "00THERMOMETER,00BLACK DROPLET,00WHITE SUN,20WITH SMALL CLOUD,21BEHIND,40WITH RAIN,02CLOUD,20SNOW,20LIGHTNING," ++
  "20TORNADO,00FOG,00WIND BLOWING FACE,00HOT DOG,00TACO,00BURRITO,00CHESTNUT,00SEEDLING,00EVERGREEN TREE," ++
  "01DECIDUOUS,01PALM,00CACTUS,00HOT PEPPER,00TULIP,00CHERRY BLOSSOM,00ROSE,00HIBISCUS,00SUNFLOWER,00BLOSSOM," ++
  "00EAR OF MAIZE,20RICE,00HERB,00FOUR LEAF CLOVER,00MAPLE LEAF,01FALLEN,00LEAF FLUTTERING IN WIND,00MUSHROOM," ++
  "00TOMATO,00AUBERGINE,00GRAPES,00MELON,00WATERMELON,00TANGERINE,00LEMON,00BANANA,00PINEAPPLE,00RED APPLE,01GREEN," ++
  "00PEAR,00PEACH,00CHERRIES,00STRAWBERRY,00HAMBURGER,00SLICE OF PIZZA,00MEAT ON BONE,00POULTRY LEG,00RICE CRACKER," ++
  "10BALL,00COOKED RICE,01CURRY AND,00STEAMING BOWL,00SPAGHETTI,00BREAD,00FRENCH FRIES,00ROASTED SWEET POTATO," ++
  "00DANGO,00ODEN,00SUSHI,00FRIED SHRIMP,00FISH CAKE WITH SWIRL DESIGN,00SOFT ICE CREAM,00SHAVED ICE,00ICE CREAM," ++
  "00DOUGHNUT,00COOKIE,00CHOCOLATE BAR,00CANDY,00LOLLIPOP,00CUSTARD,00HONEY POT,00SHORTCAKE,00BENTO BOX," ++
  "00POT OF FOOD,00COOKING,00FORK AND KNIFE,00TEACUP WITHOUT HANDLE,00SAKE BOTTLE AND CUP,00WINE GLASS,01COCKTAIL," ++
  "00TROPICAL DRINK,00BEER MUG,00CLINKING BEER MUGS,00BABY BOTTLE,00FORK AND KNIFE WITH PLATE," ++
  "00BOTTLE WITH POPPING CORK,00POPCORN"

def run1f380 : String :=
  "00RIBBON,00WRAPPED PRESENT,00BIRTHDAY CAKE,00JACK-O-LANTERN,00CHRISTMAS TREE,00FATHER CHRISTMAS,00FIREWORKS," ++
  "00FIREWORK SPARKLER,00BALLOON,00PARTY POPPER,00CONFETTI BALL,00TANABATA TREE,00CROSSED FLAGS,00PINE DECORATION," ++
  "00JAPANESE DOLLS,00CARP STREAMER,00WIND CHIME,00MOON VIEWING CEREMONY,00SCHOOL SATCHEL,00GRADUATION CAP," ++
  "00HEART WITH TIP ON THE LEFT,00BOUQUET OF FLOWERS,00MILITARY MEDAL,00REMINDER RIBBON," ++
  "00MUSICAL KEYBOARD WITH JACKS,00STUDIO MICROPHONE,00LEVEL SLIDER,00CONTROL KNOBS," ++
  "00BEAMED ASCENDING MUSICAL NOTES,12DESCENDING,00FILM FRAMES,00ADMISSION TICKETS,00CAROUSEL HORSE,00FERRIS WHEEL," ++
  "00ROLLER COASTER,00FISHING POLE AND FISH,00MICROPHONE,00MOVIE CAMERA,00CINEMA,00HEADPHONE,00ARTIST PALETTE," ++
  "00TOP HAT,00CIRCUS TENT,00TICKET,00CLAPPER BOARD,00PERFORMING ARTS,00VIDEO GAME,00DIRECT HIT,00SLOT MACHINE," ++
  "00BILLIARDS,00GAME DIE,00BOWLING,00FLOWER PLAYING CARDS,00MUSICAL NOTE,00MULTIPLE MUSICAL NOTES,00SAXOPHONE," ++
  "00GUITAR,00MUSICAL KEYBOARD,00TRUMPET,00VIOLIN,00MUSICAL SCORE,00RUNNING SHIRT WITH SASH," ++
  "00TENNIS RACQUET AND BALL,00SKI AND SKI BOOT,00BASKETBALL AND HOOP,00CHEQUERED FLAG,00SNOWBOARDER,00RUNNER," ++
  "00SURFER,00SPORTS MEDAL,00TROPHY,00HORSE RACING,00AMERICAN FOOTBALL,01RUGBY,00SWIMMER,00WEIGHT LIFTER,00GOLFER," ++
  "00RACING MOTORCYCLE,10CAR,00CRICKET BAT AND BALL,00VOLLEYBALL,00FIELD HOCKEY STICK AND BALL," ++
  "00ICE HOCKEY STICK AND PUCK,00TABLE TENNIS PADDLE AND BALL,00SNOW CAPPED MOUNTAIN,00CAMPING," ++
  "00BEACH WITH UMBRELLA,00BUILDING CONSTRUCTION,00HOUSE BUILDINGS,00CITYSCAPE,00DERELICT HOUSE BUILDING," ++
  "01CLASSICAL,00DESERT,10ISLAND,00NATIONAL PARK,00STADIUM,00HOUSE BUILDING,10WITH GARDEN,00OFFICE BUILDING," ++
  "00JAPANESE POST OFFICE,02EUROPEAN,00HOSPITAL,00BANK,00AUTOMATED TELLER MACHINE,00HOTEL,01LOVE," ++
  "00CONVENIENCE STORE,00SCHOOL,00DEPARTMENT STORE,00FACTORY,00IZAKAYA LANTERN,00JAPANESE CASTLE,01EUROPEAN," ++
  "00WHITE PENNANT,01BLACK,00WAVING WHITE FLAG,11BLACK,00ROSETTE,01BLACK,00LABEL," ++
  "00BADMINTON RACQUET AND SHUTTLECOCK,00BOW AND ARROW,00AMPHORA,00EMOJI MODIFIER FITZPATRICK TYPE-1-2,30TYPE-3," ++
  "30TYPE-4,30TYPE-5,30TYPE-6"

def run1f400 : String :=
  "00RAT,00MOUSE,00OX,00WATER BUFFALO,00COW,00TIGER,00LEOPARD,00RABBIT,00CAT,00DRAGON,00CROCODILE,00WHALE,00SNAIL," ++
  "00SNAKE,00HORSE,00RAM,00GOAT,00SHEEP,00MONKEY,00ROOSTER,00CHICKEN,00DOG,00PIG,00BOAR,00ELEPHANT,00OCTOPUS," ++
  "00SPIRAL SHELL,00BUG,00ANT,00HONEYBEE,00LADY BEETLE,00FISH,01TROPICAL,00BLOWFISH,00TURTLE,00HATCHING CHICK," ++
  "01BABY,02FRONT-FACING,00BIRD,00PENGUIN,00KOALA,00POODLE,00DROMEDARY CAMEL,01BACTRIAN,00DOLPHIN,00MOUSE FACE," ++
  "01COW,01TIGER,01RABBIT,01CAT,01DRAGON,00SPOUTING WHALE,00HORSE FACE,01MONKEY,01DOG,01PIG,01FROG,01HAMSTER," ++
  "01WOLF,01BEAR,01PANDA,00PIG NOSE,00PAW PRINTS,00CHIPMUNK,00EYES,00EYE,00EAR,00NOSE,00MOUTH,00TONGUE," ++
  "00WHITE UP POINTING BACKHAND INDEX,13DOWN,13LEFT,13RIGHT,00FISTED HAND SIGN,02WAVING,02OK,01THUMBS UP,11DOWN," ++
  "01CLAPPING HANDS,02OPEN,00CROWN,00WOMANS HAT,00EYEGLASSES,00NECKTIE,00T-SHIRT,00JEANS,00DRESS,00KIMONO,00BIKINI," ++
  "00WOMANS CLOTHES,00PURSE,00HANDBAG,00POUCH,00MANS SHOE,01ATHLETIC,01HIGH-HEELED,00WOMANS SANDAL,10BOOTS," ++
  "00FOOTPRINTS,00BUST IN SILHOUETTE,02BUSTS,00BOY,00GIRL,00MAN,00WOMAN,00FAMILY,00MAN AND WOMAN HOLDING HANDS," ++
  "02TWO MEN,12WOMEN,00POLICE OFFICER,00WOMAN WITH BUNNY EARS,00BRIDE WITH VEIL,00PERSON WITH BLOND HAIR," ++
  "00MAN WITH GUA PI MAO,20TURBAN,00OLDER MAN,10WOMAN,00BABY,00CONSTRUCTION WORKER,00PRINCESS,00JAPANESE OGRE," ++
  "10GOBLIN,00GHOST,00BABY ANGEL,00EXTRATERRESTRIAL ALIEN,00ALIEN MONSTER,00IMP"

def run1f480 : String :=
  "00SKULL,00INFORMATION DESK PERSON,00GUARDSMAN,00DANCER,00LIPSTICK,00NAIL POLISH,00FACE MASSAGE,00HAIRCUT," ++
  "00BARBER POLE,00SYRINGE,00PILL,00KISS MARK,00LOVE LETTER,00RING,00GEM STONE,00KISS,00BOUQUET," ++
  "00COUPLE WITH HEART,00WEDDING,00BEATING HEART,01BROKEN,00TWO HEARTS,00SPARKLING HEART,01GROWING," ++
  "00HEART WITH ARROW,00BLUE HEART,01GREEN,01YELLOW,01PURPLE,00HEART WITH RIBBON,00REVOLVING HEARTS," ++
  "00HEART DECORATION,00DIAMOND SHAPE WITH A DOT INSIDE,00ELECTRIC LIGHT BULB,00ANGER SYMBOL,00BOMB," ++
  "00SLEEPING SYMBOL,01COLLISION,01SPLASHING SWEAT,00DROPLET,00DASH SYMBOL,00PILE OF POO,00FLEXED BICEPS," ++
  "00DIZZY SYMBOL,00SPEECH BALLOON,01THOUGHT,00WHITE FLOWER,00HUNDRED POINTS SYMBOL,00MONEY BAG," ++
  "00CURRENCY EXCHANGE,00HEAVY DOLLAR SIGN,00CREDIT CARD,00BANKNOTE WITH YEN SIGN,21DOLLAR,21EURO,21POUND," ++
  "00MONEY WITH WINGS,00CHART WITH UPWARDS TREND AND YEN SIGN,00SEAT,00PERSONAL COMPUTER,00BRIEFCASE,00MINIDISC," ++
  "00FLOPPY DISK,00OPTICAL DISC,00DVD,00FILE FOLDER,02OPEN,00PAGE WITH CURL,10FACING UP,00CALENDAR,01TEAR-OFF," ++
  "00CARD INDEX,00CHART WITH UPWARDS TREND,21DOWNWARDS,00BAR CHART,00CLIPBOARD,00PUSHPIN,01ROUND,00PAPERCLIP," ++
  "00STRAIGHT RULER,01TRIANGULAR,00BOOKMARK TABS,00LEDGER,00NOTEBOOK,10WITH DECORATIVE COVER,00CLOSED BOOK,01OPEN," ++
  "01GREEN,01BLUE,01ORANGE,00BOOKS,00NAME BADGE,00SCROLL,00MEMO,00TELEPHONE RECEIVER,00PAGER,00FAX MACHINE," ++
  "00SATELLITE ANTENNA,00PUBLIC ADDRESS LOUDSPEAKER,00CHEERING MEGAPHONE,00OUTBOX TRAY,01INBOX,00PACKAGE," ++
  "00E-MAIL SYMBOL,00INCOMING ENVELOPE,00ENVELOPE WITH DOWNWARDS ARROW ABOVE,00CLOSED MAILBOX WITH LOWERED FLAG," ++
  "31RAISED,04OPEN,31LOWERED,00POSTBOX,00POSTAL HORN,00NEWSPAPER,00MOBILE PHONE,20WITH RIGHTWARDS ARROW AT LEFT," ++
  "00VIBRATION MODE,00MOBILE PHONE OFF,00NO MOBILE PHONES,00ANTENNA WITH BARS,00CAMERA,10WITH FLASH,00VIDEO CAMERA," ++
  "00TELEVISION,00RADIO,00VIDEOCASSETTE,00FILM PROJECTOR,00PORTABLE STEREO,00PRAYER BEADS"

def run1f500 : String :=
  "00TWISTED RIGHTWARDS ARROWS,01CLOCKWISE RIGHTWARDS AND LEFTWARDS OPEN CIRCLE,70WITH CIRCLED ONE OVERLAY," ++
  "10DOWNWARDS AND UPWARDS OPEN CIRCLE ARROWS,06ANTICLOCKWISE,00LOW BRIGHTNESS SYMBOL,02HIGH," ++
  "00SPEAKER WITH CANCELLATION STROKE,00SPEAKER,10WITH ONE SOUND WAVE,20THREE SOUND WAVES,00BATTERY," ++
  "00ELECTRIC PLUG,00LEFT-POINTING MAGNIFYING GLASS,02RIGHT-POINTING,00LOCK WITH INK PEN,00CLOSED LOCK WITH KEY," ++
  "00KEY,00LOCK,01OPEN,00BELL,10WITH CANCELLATION STROKE,00BOOKMARK,00LINK SYMBOL,00RADIO BUTTON," ++
  "00BACK WITH LEFTWARDS ARROW ABOVE,04END,02ON WITH EXCLAMATION MARK WITH LEFT RIGHT,02SOON WITH RIGHTWARDS," ++
  "02TOP WITH UPWARDS,00NO ONE UNDER EIGHTEEN SYMBOL,00KEYCAP TEN,00INPUT SYMBOL FOR LATIN CAPITAL LETTERS,41SMALL," ++
  "30NUMBERS,30SYMBOLS,30LATIN LETTERS,00FIRE,00ELECTRIC TORCH,00WRENCH,00HAMMER,00NUT AND BOLT,00HOCHO,00PISTOL," ++
  "00MICROSCOPE,00TELESCOPE,00CRYSTAL BALL,00SIX POINTED STAR WITH MIDDLE DOT,00JAPANESE SYMBOL FOR BEGINNER," ++
  "00TRIDENT EMBLEM,00BLACK SQUARE BUTTON,02WHITE,00LARGE RED CIRCLE,11BLUE,10ORANGE DIAMOND,11BLUE,01SMALL ORANGE," ++
  "11BLUE,00UP-POINTING RED TRIANGLE,02DOWN-POINTING,02UP-POINTING SMALL,03DOWN-POINTING," ++
  "00LOWER RIGHT SHADOWED WHITE CIRCLE,04UPPER,00CIRCLED CROSS POMMEE,00CROSS POMMEE WITH HALF-CIRCLE BELOW," ++
  "10POMMEE,00NOTCHED LEFT SEMICIRCLE WITH THREE DOTS,14RIGHT,00SYMBOL FOR MARKS CHAPTER,00WHITE LATIN CROSS," ++
  "02HEAVY,01CELTIC,00OM SYMBOL,00DOVE OF PEACE,00KAABA,00MOSQUE,00SYNAGOGUE,00MENORAH WITH NINE BRANCHES," ++
  "00BOWL OF HYGIEIA,00CLOCK FACE ONE OCLOCK,21TWO,21THREE,21FOUR,21FIVE,21SIX,21SEVEN,21EIGHT,21NINE,21TEN," ++
  "21ELEVEN,21TWELVE,20ONE-THIRTY,20TWO-THIRTY,20THREE-THIRTY,20FOUR-THIRTY,20FIVE-THIRTY,20SIX-THIRTY," ++
  "20SEVEN-THIRTY,20EIGHT-THIRTY,20NINE-THIRTY,20TEN-THIRTY,20ELEVEN-THIRTY,20TWELVE-THIRTY,00RIGHT SPEAKER," ++
  "20WITH ONE SOUND WAVE,30THREE SOUND WAVES,00BULLHORN,10WITH SOUND WAVES,00RINGING BELL,00BOOK,00CANDLE," ++
  "00MANTELPIECE CLOCK,00BLACK SKULL AND CROSSBONES,00NO PIRACY,00HOLE,00MAN IN BUSINESS SUIT LEVITATING," ++
  "00SLEUTH OR SPY,00DARK SUNGLASSES,00SPIDER,10WEB,00JOYSTICK,00MAN DANCING,00LEFT HAND TELEPHONE RECEIVER," ++
  "00TELEPHONE RECEIVER WITH PAGE,00RIGHT HAND TELEPHONE RECEIVER,00WHITE TOUCHTONE TELEPHONE,02BLACK"

def run1f580 : String :=
  "00TELEPHONE ON TOP OF MODEM,00CLAMSHELL MOBILE PHONE,00BACK OF ENVELOPE,01STAMPED,00ENVELOPE WITH LIGHTNING," ++
  "00FLYING ENVELOPE,01PEN OVER STAMPED,00LINKED PAPERCLIPS,00BLACK PUSHPIN,00LOWER LEFT PENCIL,20BALLPOINT PEN," ++
  "21FOUNTAIN,20PAINTBRUSH,20CRAYON,00LEFT WRITING HAND,00TURNED OK HAND SIGN,00RAISED HAND WITH FINGERS SPLAYED," ++
  "05REVERSED,10THUMBS UP SIGN,21DOWN,10VICTORY HAND,10HAND WITH MIDDLE FINGER EXTENDED," ++
  "00RAISED HAND WITH PART BETWEEN MIDDLE AND RING FINGERS,00WHITE DOWN POINTING LEFT HAND INDEX," ++
  "01SIDEWAYS WHITE LEFT POINTING,22RIGHT,12BLACK LEFT,22RIGHT,01BLACK LEFT POINTING BACKHAND,13RIGHT," ++
  "01SIDEWAYS WHITE UP POINTING,22DOWN,12BLACK UP,22DOWN,01BLACK UP POINTING BACKHAND,13DOWN,10HEART," ++
  "00DESKTOP COMPUTER,00KEYBOARD AND MOUSE,00THREE NETWORKED COMPUTERS,00PRINTER,00POCKET CALCULATOR," ++
  "00BLACK HARD SHELL FLOPPY DISK,04WHITE,03SOFT,00TAPE CARTRIDGE,00WIRED KEYBOARD,00ONE BUTTON MOUSE,02TWO," ++
  "02THREE,00TRACKBALL,00OLD PERSONAL COMPUTER,00HARD DISK,00SCREEN,00PRINTER ICON,01FAX,01OPTICAL DISC," ++
  "00DOCUMENT WITH TEXT,30AND PICTURE,20PICTURE,02FRAME,20TILES,20AN X,00BLACK FOLDER,00FOLDER,01OPEN," ++
  "00CARD INDEX DIVIDERS,10FILE BOX,00FILE CABINET,00EMPTY NOTE,20PAGE,20PAD,00NOTE,10PAGE,10PAD,00EMPTY DOCUMENT," ++
  "10PAGE,10PAGES,00DOCUMENT,00PAGE,00PAGES,00WASTEBASKET,00SPIRAL NOTE PAD,11CALENDAR,00DESKTOP WINDOW,00MINIMIZE," ++
  "00MAXIMIZE,00OVERLAP,00CLOCKWISE RIGHT AND LEFT SEMICIRCLE ARROWS,00CANCELLATION X,00INCREASE FONT SIZE SYMBOL," ++
  "03DECREASE,00COMPRESSION,00OLD KEY,00ROLLED-UP NEWSPAPER,00PAGE WITH CIRCLED TEXT,00STOCK CHART,00DAGGER KNIFE," ++
  "00LIPS,00SPEAKING HEAD IN SILHOUETTE,00THREE RAYS ABOVE,20BELOW,20LEFT,20RIGHT,00LEFT SPEECH BUBBLE,02RIGHT," ++
  "00TWO SPEECH BUBBLES,02THREE,00LEFT THOUGHT BUBBLE,02RIGHT,01LEFT ANGER,02RIGHT,01MOOD,02LIGHTNING,10MOOD," ++
  "00BALLOT BOX WITH BALLOT,10SCRIPT X,12BOX WITH,12BOLD,13BOX WITH,00LIGHT CHECK MARK," ++
  "00BALLOT BOX WITH BOLD CHECK,00WORLD MAP,00MOUNT FUJI,00TOKYO TOWER,00STATUE OF LIBERTY,00SILHOUETTE OF JAPAN," ++
  "00MOYAI"

def run1f600 : String :=
  "00GRINNING FACE,20WITH SMILING EYES,00FACE WITH TEARS OF JOY,00SMILING FACE WITH OPEN MOUTH,50AND SMILING EYES," ++
  "60COLD SWEAT,60TIGHTLY-CLOSED EYES,30HALO,30HORNS,00WINKING FACE,00SMILING FACE WITH SMILING EYES," ++
  "00FACE SAVOURING DELICIOUS FOOD,00RELIEVED FACE,00SMILING FACE WITH HEART-SHAPED EYES,30SUNGLASSES," ++
  "00SMIRKING FACE,01NEUTRAL,01EXPRESSIONLESS,01UNAMUSED,00FACE WITH COLD SWEAT,00PENSIVE FACE,01CONFUSED," ++
  "01CONFOUNDED,01KISSING,00FACE THROWING A KISS,00KISSING FACE WITH SMILING EYES,31CLOSED," ++
  "00FACE WITH STUCK-OUT TONGUE,40AND WINKING EYE,50TIGHTLY-CLOSED EYES,00DISAPPOINTED FACE,01WORRIED,01ANGRY," ++
  "01POUTING,01CRYING,01PERSEVERING,00FACE WITH LOOK OF TRIUMPH,00DISAPPOINTED BUT RELIEVED FACE," ++
  "00FROWNING FACE WITH OPEN MOUTH,00ANGUISHED FACE,01FEARFUL,01WEARY,01SLEEPY,01TIRED,01GRIMACING,01LOUDLY CRYING," ++
  "00FACE WITH OPEN MOUTH,00HUSHED FACE,00FACE WITH OPEN MOUTH AND COLD SWEAT,10SCREAMING IN FEAR," ++
  "00ASTONISHED FACE,01FLUSHED,01SLEEPING,01DIZZY,00FACE WITHOUT MOUTH,10WITH MEDICAL MASK," ++
  "00GRINNING CAT FACE WITH SMILING EYES,00CAT FACE WITH TEARS OF JOY,00SMILING CAT FACE WITH OPEN MOUTH," ++
  "40HEART-SHAPED EYES,00CAT FACE WITH WRY SMILE,00KISSING CAT FACE WITH CLOSED EYES,00POUTING CAT FACE,02CRYING," ++
  "02WEARY,01SLIGHTLY FROWNING,11SMILING,01UPSIDE-DOWN,00FACE WITH ROLLING EYES,20NO GOOD GESTURE,21OK," ++
  "00PERSON BOWING DEEPLY,00SEE-NO-EVIL MONKEY,01HEAR-NO-EVIL,01SPEAK-NO-EVIL,00HAPPY PERSON RAISING ONE HAND," ++
  "00PERSON RAISING BOTH HANDS IN CELEBRATION,10FROWNING,10WITH POUTING FACE,20FOLDED HANDS," ++
  "00NORTH WEST POINTING LEAF,03SOUTH,02NORTH EAST,03SOUTH,02TURNED NORTH WEST,13SOUTH,12NORTH EAST,13SOUTH," ++
  "01NORTH WEST POINTING VINE,04SOUTH,03NORTH EAST,04SOUTH,03HEAVY NORTH WEST,14SOUTH,13NORTH EAST,14SOUTH," ++
  "00NORTH WEST POINTING BUD,03SOUTH,02NORTH EAST,03SOUTH,02HEAVY NORTH WEST,13SOUTH,12NORTH EAST,13SOUTH," ++
  "00HOLLOW QUILT SQUARE ORNAMENT,40IN BLACK SQUARE,00SOLID QUILT SQUARE ORNAMENT,40IN BLACK SQUARE," ++
  "00LEFTWARDS ROCKET,01UPWARDS,01RIGHTWARDS,01DOWNWARDS,00SCRIPT LIGATURE ET ORNAMENT,04HEAVY,02LIGATURE OPEN," ++
  "04HEAVY,11AMPERSAND,02SWASH,01SANS-SERIF HEAVY DOUBLE TURNED COMMA QUOTATION MARK,33COMMA,25LOW," ++
  "01HEAVY INTERROBANG,02SANS-SERIF,03HEAVY,00VERY HEAVY SOLIDUS,21REVERSE,00CHECKER BOARD,02REVERSE"

def run1f680 : String :=
  "00ROCKET,00HELICOPTER,00STEAM LOCOMOTIVE,00RAILWAY CAR,00HIGH-SPEED TRAIN,20WITH BULLET NOSE,00TRAIN,00METRO," ++
  "00LIGHT RAIL,00STATION,00TRAM,10CAR,00BUS,01ONCOMING,00TROLLEYBUS,00BUS STOP,00MINIBUS,00AMBULANCE," ++
  "00FIRE ENGINE,00POLICE CAR,02ONCOMING,00TAXI,01ONCOMING,00AUTOMOBILE,01ONCOMING,00RECREATIONAL VEHICLE," ++
  "00DELIVERY TRUCK,00ARTICULATED LORRY,00TRACTOR,00MONORAIL,00MOUNTAIN RAILWAY,01SUSPENSION,00MOUNTAIN CABLEWAY," ++
  "00AERIAL TRAMWAY,00SHIP,00ROWBOAT,00SPEEDBOAT,00HORIZONTAL TRAFFIC LIGHT,02VERTICAL,00CONSTRUCTION SIGN," ++
  "00POLICE CARS REVOLVING LIGHT,00TRIANGULAR FLAG ON POST,00DOOR,00NO ENTRY SIGN,00SMOKING SYMBOL,02NO," ++
  "01PUT LITTER IN ITS PLACE,01DO NOT LITTER,01POTABLE WATER,02NON-POTABLE,00BICYCLE,00NO BICYCLES,00BICYCLIST," ++
  "01MOUNTAIN,00PEDESTRIAN,00NO PEDESTRIANS,00CHILDREN CROSSING,00MENS SYMBOL,01WOMENS,00RESTROOM,00BABY SYMBOL," ++
  "00TOILET,00WATER CLOSET,00SHOWER,00BATH,00BATHTUB,00PASSPORT CONTROL,00CUSTOMS,00BAGGAGE CLAIM,00LEFT LUGGAGE," ++
  "00TRIANGLE WITH ROUNDED CORNERS,00PROHIBITED SIGN,00CIRCLED INFORMATION SOURCE,00BOYS SYMBOL,01GIRLS," ++
  "00COUCH AND LAMP,00SLEEPING ACCOMMODATION,00SHOPPING BAGS,00BELLHOP BELL,00BED,00PLACE OF WORSHIP," ++
  "00OCTAGONAL SIGN,00SHOPPING TROLLEY,00STUPA,00PAGODA,00HINDU TEMPLE,00HUT,00ELEVATOR,,,,,,00PLAYGROUND SLIDE," ++
  "00WHEEL,00RING BUOY,00HAMMER AND WRENCH,00SHIELD,00OIL DRUM,00MOTORWAY,00RAILWAY TRACK,00MOTOR BOAT," ++
  "00UP-POINTING MILITARY AIRPLANE,10AIRPLANE,11SMALL,01SMALL,01NORTHEAST-POINTING,00AIRPLANE DEPARTURE,10ARRIVING," ++
  ",,,00SATELLITE,00ONCOMING FIRE ENGINE,00DIESEL LOCOMOTIVE,00PASSENGER SHIP,00SCOOTER,01MOTOR,00CANOE,00SLED," ++
  "00FLYING SAUCER,00SKATEBOARD,00AUTO RICKSHAW,00PICKUP TRUCK,00ROLLER SKATE"

def run1f700 : String :=
  "00ALCHEMICAL SYMBOL FOR QUINTESSENCE,30AIR,30FIRE,30EARTH,30WATER,30AQUAFORTIS,30AQUA REGIA,40REGIA-2,40VITAE," ++
  "40VITAE-2,30VINEGAR,30VINEGAR-2,30VINEGAR-3,30SULFUR,31PHILOSOPHERS,31BLACK,30MERCURY SUBLIMATE,40SUBLIMATE-2," ++
  "40SUBLIMATE-3,30CINNABAR,30SALT,30NITRE,30VITRIOL,30VITRIOL-2,30ROCK SALT,40SALT-2,30GOLD,30SILVER,30IRON ORE," ++
  "40ORE-2,30CROCUS OF IRON,32REGULUS,30COPPER ORE,31IRON-COPPER,30SUBLIMATE OF COPPER,32CROCUS,50COPPER-2," ++
  "30COPPER ANTIMONIATE,32SALT OF,30SUBLIMATE OF SALT OF COPPER,30VERDIGRIS,30TIN ORE,31LEAD,31ANTIMONY," ++
  "30SUBLIMATE OF ANTIMONY,32SALT,33SUBLIMATE OF,32VINEGAR,32REGULUS,50ANTIMONY-2,30REGULUS,30REGULUS-2," ++
  "30REGULUS-3,30REGULUS-4,30ALKALI,30ALKALI-2,30MARCASITE,30SAL-AMMONIAC,30ARSENIC,30REALGAR,30REALGAR-2," ++
  "30AURIPIGMENT,30BISMUTH ORE,30TARTAR,30TARTAR-2,30QUICK LIME,30BORAX,30BORAX-2,30BORAX-3,30ALUM,30OIL,30SPIRIT," ++
  "30TINCTURE,30GUM,30WAX,30POWDER,30CALX,30TUTTY,30CAPUT MORTUUM,30SCEPTER OF JOVE,30CADUCEUS,30TRIDENT,31STARRED," ++
  "30LODESTONE,30SOAP,30URINE,30HORSE DUNG,30ASHES,31POT,30BRICK,31POWDERED,30AMALGAM,30STRATUM SUPER STRATUM," ++
  "50STRATUM-2,30SUBLIMATION,30PRECIPITATE,30DISTILL,30DISSOLVE,30DISSOLVE-2,30PURIFY,30PUTREFACTION,30CRUCIBLE," ++
  "30CRUCIBLE-2,30CRUCIBLE-3,30CRUCIBLE-4,30CRUCIBLE-5,30ALEMBIC,30BATH OF MARY,50VAPOURS,30RETORT,30HOUR,30NIGHT," ++
  "30DAY-NIGHT,30MONTH,30HALF DRAM,40OUNCE"

def run1f780 : String :=
  "00BLACK LEFT-POINTING ISOSCELES RIGHT TRIANGLE,13UP-POINTING,13RIGHT-POINTING,13DOWN-POINTING," ++
  "10SLIGHTLY SMALL CIRCLE,01MEDIUM BOLD WHITE,02BOLD,02HEAVY,03VERY,03EXTREMELY," ++
  "01WHITE CIRCLE CONTAINING BLACK SMALL,00ROUND TARGET,00BLACK TINY SQUARE,11SLIGHTLY SMALL,01LIGHT WHITE," ++
  "02MEDIUM,02BOLD,02HEAVY,03VERY,03EXTREMELY,01WHITE SQUARE CONTAINING BLACK VERY SMALL,41MEDIUM,00SQUARE TARGET," ++
  "00BLACK TINY DIAMOND,11VERY SMALL,12MEDIUM,02WHITE DIAMOND CONTAINING BLACK VERY,41MEDIUM,00DIAMOND TARGET," ++
  "00BLACK TINY LOZENGE,11VERY SMALL,12MEDIUM,02WHITE LOZENGE CONTAINING BLACK,00THIN GREEK CROSS,02LIGHT,02MEDIUM," ++
  "02BOLD,03VERY,12HEAVY,03EXTREMELY,00THIN SALTIRE,01LIGHT,01MEDIUM,01BOLD,01HEAVY,02VERY,02EXTREMELY," ++
  "00LIGHT FIVE SPOKED ASTERISK,03MEDIUM,03BOLD,03HEAVY,04VERY,04EXTREMELY,02LIGHT SIX,03MEDIUM,03BOLD,03HEAVY," ++
  "04VERY,04EXTREMELY,02LIGHT EIGHT,03MEDIUM,03BOLD,03HEAVY,04VERY,00LIGHT THREE POINTED BLACK STAR,04MEDIUM," ++
  "03THREE,01MEDIUM THREE POINTED PINWHEEL,01LIGHT FOUR POINTED BLACK,04MEDIUM,03FOUR," ++
  "01MEDIUM FOUR POINTED PINWHEEL,04REVERSE LIGHT,01LIGHT FIVE POINTED BLACK,04HEAVY,03MEDIUM SIX,04HEAVY," ++
  "01SIX POINTED PINWHEEL,01MEDIUM EIGHT POINTED BLACK,04HEAVY,05VERY,01HEAVY EIGHT POINTED PINWHEEL," ++
  "01LIGHT TWELVE POINTED BLACK,04HEAVY,31PINWHEEL,00CIRCLED TRIANGLE,02NEGATIVE,00CIRCLED SQUARE,02NEGATIVE,,,,,,," ++
  ",00LARGE ORANGE CIRCLE,11YELLOW,11GREEN,11PURPLE,11BROWN,10RED SQUARE,11BLUE,11ORANGE,11YELLOW,11GREEN,11PURPLE," ++
  "11BROWN,,,,,00HEAVY EQUALS SIGN"

def run1f800 : String :=
  "00LEFTWARDS ARROW WITH SMALL TRIANGLE ARROWHEAD,05UPWARDS,05RIGHTWARDS,05DOWNWARDS," ++
  "02LEFTWARDS ARROW WITH MEDIUM,05UPWARDS,05RIGHTWARDS,05DOWNWARDS,02LEFTWARDS ARROW WITH LARGE,05UPWARDS," ++
  "05RIGHTWARDS,05DOWNWARDS,,,,,01LEFTWARDS ARROW WITH SMALL EQUILATERAL,05UPWARDS,05RIGHTWARDS,05DOWNWARDS," ++
  "02LEFTWARDS ARROW WITH,04UPWARDS,04RIGHTWARDS,04DOWNWARDS,04HEAVY LEFTWARDS,14UPWARDS,14RIGHTWARDS,14DOWNWARDS," ++
  "12LEFTWARDS ARROW WITH LARGE,15UPWARDS,15RIGHTWARDS,15DOWNWARDS," ++
  "00LEFTWARDS TRIANGLE-HEADED ARROW WITH NARROW SHAFT,05UPWARDS,05RIGHTWARDS,05DOWNWARDS," ++
  "01LEFTWARDS TRIANGLE-HEADED ARROW WITH MEDIUM,05UPWARDS,05RIGHTWARDS,05DOWNWARDS," ++
  "01LEFTWARDS TRIANGLE-HEADED ARROW WITH BOLD,05UPWARDS,05RIGHTWARDS,05DOWNWARDS," ++
  "01LEFTWARDS TRIANGLE-HEADED ARROW WITH HEAVY,05UPWARDS,05RIGHTWARDS,05DOWNWARDS," ++
  "02LEFTWARDS TRIANGLE-HEADED ARROW WITH VERY,06UPWARDS,06RIGHTWARDS,06DOWNWARDS,00LEFTWARDS FINGER-POST ARROW," ++
  "02UPWARDS,02RIGHTWARDS,02DOWNWARDS,01LEFTWARDS SQUARED,02UPWARDS,02RIGHTWARDS,02DOWNWARDS," ++
  "01LEFTWARDS COMPRESSED,02UPWARDS,02RIGHTWARDS,02DOWNWARDS,02LEFTWARDS HEAVY,03UPWARDS,03RIGHTWARDS,03DOWNWARDS," ++
  "01LEFTWARDS HEAVY,02UPWARDS,02RIGHTWARDS,02DOWNWARDS,,,,,,,,,01LEFTWARDS SANS-SERIF,02UPWARDS,02RIGHTWARDS," ++
  "02DOWNWARDS,02NORTH WEST,12EAST,03SOUTH,12WEST,02LEFT RIGHT,02UP DOWN,,,,,,,01WIDE-HEADED LEFTWARDS LIGHT BARB," ++
  "13UPWARDS,13RIGHTWARDS,13DOWNWARDS,13NORTH WEST,23EAST,14SOUTH,23WEST,12LEFTWARDS,12UPWARDS,12RIGHTWARDS," ++
  "12DOWNWARDS,12NORTH WEST,22EAST,13SOUTH,22WEST,12LEFTWARDS MEDIUM,13UPWARDS,13RIGHTWARDS,13DOWNWARDS," ++
  "13NORTH WEST,23EAST,14SOUTH,23WEST,12LEFTWARDS HEAVY,13UPWARDS,13RIGHTWARDS,13DOWNWARDS,13NORTH WEST,23EAST," ++
  "14SOUTH,23WEST"

def run1f880 : String :=
  "00WIDE-HEADED LEFTWARDS VERY HEAVY BARB ARROW,14UPWARDS,14RIGHTWARDS,14DOWNWARDS,14NORTH WEST,24EAST,15SOUTH," ++
  "24WEST,,,,,,,,,00LEFTWARDS TRIANGLE ARROWHEAD,02UPWARDS,02RIGHTWARDS,02DOWNWARDS,02LEFTWARDS WHITE ARROW WITHIN," ++
  "05UPWARDS,05RIGHTWARDS,05DOWNWARDS,00LEFTWARDS ARROW WITH NOTCHED TAIL,04UPWARDS,04RIGHTWARDS,04DOWNWARDS," ++
  "00HEAVY ARROW SHAFT WIDTH ONE,40TWO THIRDS,40ONE HALF,50THIRD,00LEFTWARDS BOTTOM-SHADED WHITE ARROW," ++
  "02RIGHTWARDS BOTTOM SHADED,03LEFTWARDS TOP,04RIGHTWARDS,02LEFTWARDS LEFT-SHADED,02RIGHTWARDS RIGHT-SHADED," ++
  "03LEFTWARDS,02RIGHTWARDS LEFT-SHADED,02LEFTWARDS BACK-TILTED SHADOWED,04RIGHTWARDS,03LEFTWARDS FRONT-TILTED," ++
  "04RIGHTWARDS,00WHITE ARROW SHAFT WIDTH ONE,40TWO THIRDS,,,00ARROW POINTING UPWARDS THEN NORTH WEST," ++
  "21RIGHTWARDS THEN CURVING SOUTH"

def run1f900 : String :=
  "00CIRCLED CROSS FORMEE WITH FOUR DOTS,41TWO,20FORMEE,00LEFT HALF CIRCLE WITH FOUR DOTS,41THREE,41TWO,40DOT," ++
  "20CIRCLE,00DOWNWARD FACING HOOK,21NOTCHED,20HOOK WITH DOT,23NOTCHED,00PINCHED FINGERS,00WHITE HEART,01BROWN," ++
  "00PINCHING HAND,00ZIPPER-MOUTH FACE,01MONEY-MOUTH,00FACE WITH THERMOMETER,00NERD FACE,01THINKING," ++
  "00FACE WITH HEAD-BANDAGE,00ROBOT FACE,01HUGGING,00SIGN OF THE HORNS,00CALL ME HAND,01RAISED BACK OF," ++
  "00LEFT-FACING FIST,01RIGHT-FACING,00HANDSHAKE,00HAND WITH INDEX AND MIDDLE FINGERS CROSSED," ++
  "00I LOVE YOU HAND SIGN,00FACE WITH COWBOY HAT,00CLOWN FACE,01NAUSEATED,00ROLLING ON THE FLOOR LAUGHING," ++
  "00DROOLING FACE,01LYING,00FACE PALM,00SNEEZING FACE,00FACE WITH ONE EYEBROW RAISED," ++
  "00GRINNING FACE WITH STAR EYES,30ONE LARGE AND ONE SMALL EYE,00FACE WITH FINGER COVERING CLOSED LIPS," ++
  "00SERIOUS FACE WITH SYMBOLS COVERING MOUTH,02SMILING FACE WITH SMILING EYES AND HAND," ++
  "00FACE WITH OPEN MOUTH VOMITING,00SHOCKED FACE WITH EXPLODING HEAD,00PREGNANT WOMAN,00BREAST-FEEDING," ++
  "00PALMS UP TOGETHER,00SELFIE,00PRINCE,00MAN IN TUXEDO,00MOTHER CHRISTMAS,00SHRUG,00PERSON DOING CARTWHEEL," ++
  "00JUGGLING,00FENCER,00MODERN PENTATHLON,00WRESTLERS,00WATER POLO,00HANDBALL,00DIVING MASK,00WILTED FLOWER," ++
  "00DRUM WITH DRUMSTICKS,00CLINKING GLASSES,00TUMBLER GLASS,00SPOON,00GOAL NET,00RIFLE,00FIRST PLACE MEDAL," ++
  "02SECOND,02THIRD,00BOXING GLOVE,00MARTIAL ARTS UNIFORM,00CURLING STONE,00LACROSSE STICK AND BALL,00SOFTBALL," ++
  "00FLYING DISC,00CROISSANT,00AVOCADO,00CUCUMBER,00BACON,00POTATO,00CARROT,00BAGUETTE BREAD,00GREEN SALAD," ++
  "00SHALLOW PAN OF FOOD,00STUFFED FLATBREAD,00EGG,00GLASS OF MILK,00PEANUTS,00KIWIFRUIT,00PANCAKES,00DUMPLING," ++
  "00FORTUNE COOKIE,00TAKEOUT BOX,00CHOPSTICKS,00BOWL WITH SPOON,00CUP WITH STRAW,00COCONUT,00BROCCOLI,00PIE," ++
  "00PRETZEL,00CUT OF MEAT,00SANDWICH,00CANNED FOOD,00LEAFY GREEN,00MANGO,00MOON CAKE,00BAGEL," ++
  "00SMILING FACE WITH SMILING EYES AND THREE HEARTS,00YAWNING FACE,00SMILING FACE WITH TEAR," ++
  "00FACE WITH PARTY HORN AND PARTY HAT,20UNEVEN EYES AND WAVY MOUTH,00OVERHEATED FACE,01FREEZING,00NINJA," ++
  "00DISGUISED FACE,00FACE HOLDING BACK TEARS,10WITH PLEADING EYES,00SARI,00LAB COAT,00GOGGLES,00HIKING BOOT," ++
  "00FLAT SHOE"

def run1f980 : String :=
  "00CRAB,00LION FACE,00SCORPION,00TURKEY,00UNICORN FACE,00EAGLE,00DUCK,00BAT,00SHARK,00OWL,00FOX FACE,00BUTTERFLY," ++
  "00DEER,00GORILLA,00LIZARD,00RHINOCEROS,00SHRIMP,00SQUID,00GIRAFFE FACE,01ZEBRA,00HEDGEHOG,00SAUROPOD,00T-REX," ++
  "00CRICKET,00KANGAROO,00LLAMA,00PEACOCK,00HIPPOPOTAMUS,00PARROT,00RACCOON,00LOBSTER,00MOSQUITO,00MICROBE," ++
  "00BADGER,00SWAN,00MAMMOTH,00DODO,00SLOTH,00OTTER,00ORANGUTAN,00SKUNK,00FLAMINGO,00OYSTER,00BEAVER,00BISON," ++
  "00SEAL,00GUIDE DOG,00PROBING CANE,00EMOJI COMPONENT RED HAIR,21CURLY,20BALD,20WHITE HAIR,00BONE,00LEG,00FOOT," ++
  "00TOOTH,00SUPERHERO,00SUPERVILLAIN,00SAFETY VEST,00EAR WITH HEARING AID,00MOTORIZED WHEELCHAIR,01MANUAL," ++
  "00MECHANICAL ARM,10LEG,00CHEESE WEDGE,00CUPCAKE,00SALT SHAKER,00BEVERAGE BOX,00GARLIC,00ONION,00FALAFEL," ++
  "00WAFFLE,00BUTTER,00MATE DRINK,00ICE CUBE,00BUBBLE TEA,00TROLL,00STANDING PERSON,01KNEELING,01DEAF," ++
  "00FACE WITH MONOCLE,00ADULT,00CHILD,00OLDER ADULT,00BEARDED PERSON,00PERSON WITH HEADSCARF,10IN STEAMY ROOM," ++
  "10CLIMBING,10IN LOTUS POSITION,00MAGE,00FAIRY,00VAMPIRE,00MERPERSON,00ELF,00GENIE,00ZOMBIE,00BRAIN," ++
  "00ORANGE HEART,00BILLED CAP,00SCARF,00GLOVES,00COAT,00SOCKS,00RED GIFT ENVELOPE,00FIRECRACKER," ++
  "00JIGSAW PUZZLE PIECE,00TEST TUBE,00PETRI DISH,00DNA DOUBLE HELIX,00COMPASS,00ABACUS,00FIRE EXTINGUISHER," ++
  "00TOOLBOX,00BRICK,00MAGNET,00LUGGAGE,00LOTION BOTTLE,00SPOOL OF THREAD,00BALL OF YARN,00SAFETY PIN,00TEDDY BEAR," ++
  "00BROOM,00BASKET,00ROLL OF PAPER,00BAR OF SOAP,00SPONGE,00RECEIPT,00NAZAR AMULET"

def run1fa00 : String :=
  "00NEUTRAL CHESS KING,20QUEEN,20ROOK,20BISHOP,20KNIGHT,20PAWN,00WHITE CHESS KNIGHT ROTATED FORTY-FIVE DEGREES," ++
  "05BLACK,05NEUTRAL,01WHITE CHESS KING ROTATED NINETY,23QUEEN,23ROOK,23BISHOP,23KNIGHT,23PAWN,03BLACK CHESS KING," ++
  "23QUEEN,23ROOK,23BISHOP,23KNIGHT,23PAWN,03NEUTRAL CHESS KING,23QUEEN,23ROOK,23BISHOP,23KNIGHT,23PAWN," ++
  "01WHITE CHESS KNIGHT ROTATED ONE HUNDRED THIRTY-FIVE,07BLACK,07NEUTRAL,00WHITE CHESS TURNED KING,30QUEEN,30ROOK," ++
  "30BISHOP,30KNIGHT,30PAWN,00BLACK CHESS TURNED KING,30QUEEN,30ROOK,30BISHOP,30KNIGHT,30PAWN," ++
  "00NEUTRAL CHESS TURNED KING,30QUEEN,30ROOK,30BISHOP,30KNIGHT,30PAWN," ++
  "00WHITE CHESS KNIGHT ROTATED TWO HUNDRED TWENTY-FIVE DEGREES,07BLACK,07NEUTRAL," ++
  "01WHITE CHESS KING ROTATED TWO HUNDRED SEVENTY,25QUEEN,25ROOK,25BISHOP,25KNIGHT,25PAWN,05BLACK CHESS KING," ++
  "25QUEEN,25ROOK,25BISHOP,25KNIGHT,25PAWN,05NEUTRAL CHESS KING,25QUEEN,25ROOK,25BISHOP,25KNIGHT,25PAWN," ++
  "01WHITE CHESS KNIGHT ROTATED THREE HUNDRED FIFTEEN,07BLACK,07NEUTRAL,00WHITE CHESS EQUIHOPPER,02BLACK,02NEUTRAL," ++
  "00WHITE CHESS EQUIHOPPER ROTATED NINETY DEGREES,05BLACK,05NEUTRAL,00WHITE CHESS KNIGHT-QUEEN,20KNIGHT-ROOK," ++
  "20KNIGHT-BISHOP,00BLACK CHESS KNIGHT-QUEEN,20KNIGHT-ROOK,20KNIGHT-BISHOP"

def run1fa60 : String :=
  "00XIANGQI RED GENERAL,20MANDARIN,20ELEPHANT,20HORSE,20CHARIOT,20CANNON,20SOLDIER,10BLACK GENERAL,20MANDARIN," ++
  "20ELEPHANT,20HORSE,20CHARIOT,20CANNON,20SOLDIER,,,00BALLET SHOES,00ONE-PIECE SWIMSUIT,00BRIEFS,00SHORTS," ++
  "00THONG SANDAL,,,,00DROP OF BLOOD,00ADHESIVE BANDAGE,00STETHOSCOPE,00X-RAY,00CRUTCH,,,,00YO-YO,00KITE," ++
  "00PARACHUTE,00BOOMERANG,00MAGIC WAND,00PINATA,00NESTING DOLLS,,,,,,,,,,00RINGED PLANET,00CHAIR,00RAZOR,00AXE," ++
  "00DIYA LAMP,00BANJO,00MILITARY HELMET,00ACCORDION,00LONG DRUM,00COIN,00CARPENTRY SAW,00SCREWDRIVER,00LADDER," ++
  "00HOOK,00MIRROR,00WINDOW,00PLUNGER,00SEWING NEEDLE,00KNOT,00BUCKET,00MOUSE TRAP,00TOOTHBRUSH,00HEADSTONE," ++
  "00PLACARD,00ROCK,00MIRROR BALL,00IDENTIFICATION CARD,00LOW BATTERY,00HAMSA,,,,00FLY,00WORM,00BEETLE,00COCKROACH," ++
  "00POTTED PLANT,00WOOD,00FEATHER,00LOTUS,00CORAL,00EMPTY NEST,00NEST WITH EGGS,,,,,,00ANATOMICAL HEART,00LUNGS," ++
  "00PEOPLE HUGGING,00PREGNANT MAN,10PERSON,00PERSON WITH CROWN,,,,,,,,,,,00BLUEBERRIES,00BELL PEPPER,00OLIVE," ++
  "00FLATBREAD,00TAMALE,00FONDUE,00TEAPOT,00POURING LIQUID,00BEANS,00JAR,,,,,,,00MELTING FACE,01SALUTING," ++
  "00FACE WITH OPEN EYES AND HAND OVER MOUTH,20PEEKING EYE,20DIAGONAL MOUTH,00DOTTED LINE FACE,00BITING LIP," ++
  "00BUBBLES,,,,,,,,,00HAND WITH INDEX FINGER AND THUMB CROSSED,00RIGHTWARDS HAND,01LEFTWARDS,01PALM DOWN,11UP," ++
  "00INDEX POINTING AT THE VIEWER,00HEART HANDS"

def run1fb00 : String :=
  "00BLOCK SEXTANT-1,10SEXTANT-2,10SEXTANT-12,10SEXTANT-3,10SEXTANT-13,10SEXTANT-23,10SEXTANT-123,10SEXTANT-4," ++
  "10SEXTANT-14,10SEXTANT-24,10SEXTANT-124,10SEXTANT-34,10SEXTANT-134,10SEXTANT-234,10SEXTANT-1234,10SEXTANT-5," ++
  "10SEXTANT-15,10SEXTANT-25,10SEXTANT-125,10SEXTANT-35,10SEXTANT-235,10SEXTANT-1235,10SEXTANT-45,10SEXTANT-145," ++
  "10SEXTANT-245,10SEXTANT-1245,10SEXTANT-345,10SEXTANT-1345,10SEXTANT-2345,10SEXTANT-12345,10SEXTANT-6," ++
  "10SEXTANT-16,10SEXTANT-26,10SEXTANT-126,10SEXTANT-36,10SEXTANT-136,10SEXTANT-236,10SEXTANT-1236,10SEXTANT-46," ++
  "10SEXTANT-146,10SEXTANT-1246,10SEXTANT-346,10SEXTANT-1346,10SEXTANT-2346,10SEXTANT-12346,10SEXTANT-56," ++
  "10SEXTANT-156,10SEXTANT-256,10SEXTANT-1256,10SEXTANT-356,10SEXTANT-1356,10SEXTANT-2356,10SEXTANT-12356," ++
  "10SEXTANT-456,10SEXTANT-1456,10SEXTANT-2456,10SEXTANT-12456,10SEXTANT-3456,10SEXTANT-13456,10SEXTANT-23456," ++
  "00LOWER LEFT BLOCK DIAGONAL LOWER MIDDLE LEFT TO LOWER CENTRE,90RIGHT,40UPPER MIDDLE LEFT TO LOWER CENTRE," ++
  "90RIGHT,50LEFT TO LOWER CENTRE,11RIGHT BLOCK DIAGONAL UPPER MIDDLE LEFT TO UPPER,90RIGHT," ++
  "40LOWER MIDDLE LEFT TO UPPER CENTRE,90RIGHT,50LEFT TO UPPER CENTRE,50MIDDLE LEFT TO UPPER MIDDLE RIGHT," ++
  "52CENTRE TO LOWER,54LEFT,52CENTRE TO UPPER,54LEFT,51CENTRE TO UPPER," ++
  "11LEFT BLOCK DIAGONAL UPPER CENTRE TO UPPER MIDDLE,54LEFT,52CENTRE TO LOWER,54LEFT,51CENTRE TO LOWER," ++
  "51MIDDLE LEFT TO LOWER MIDDLE,00UPPER RIGHT BLOCK DIAGONAL LOWER MIDDLE LEFT TO LOWER CENTRE,90RIGHT," ++
  "40UPPER MIDDLE LEFT TO LOWER CENTRE,90RIGHT,50LEFT TO LOWER CENTRE," ++
  "11LEFT BLOCK DIAGONAL UPPER MIDDLE LEFT TO UPPER,90RIGHT,40LOWER MIDDLE LEFT TO UPPER CENTRE,90RIGHT," ++
  "50LEFT TO UPPER CENTRE,50MIDDLE LEFT TO UPPER MIDDLE RIGHT,52CENTRE TO LOWER,54LEFT,52CENTRE TO UPPER,54LEFT," ++
  "51CENTRE TO UPPER,11RIGHT BLOCK DIAGONAL UPPER CENTRE TO UPPER MIDDLE,54LEFT,52CENTRE TO LOWER,54LEFT," ++
  "51CENTRE TO LOWER,51MIDDLE LEFT TO LOWER MIDDLE,10AND RIGHT AND LOWER TRIANGULAR THREE QUARTERS BLOCK," ++
  "04LEFT AND LOWER AND RIGHT,04UPPER AND LEFT AND LOWER,04LEFT AND UPPER AND RIGHT,11TRIANGULAR ONE QUARTER," ++
  "04UPPER,04RIGHT,04LOWER,00VERTICAL ONE EIGHTH BLOCK-2,30BLOCK-3,30BLOCK-4,30BLOCK-5,30BLOCK-6,30BLOCK-7," ++
  "00HORIZONTAL ONE EIGHTH BLOCK-2,30BLOCK-3,30BLOCK-4,30BLOCK-5,30BLOCK-6,30BLOCK-7," ++
  "00LEFT AND LOWER ONE EIGHTH BLOCK,23UPPER,05RIGHT,23LOWER"

def run1fb80 : String :=
  "00UPPER AND LOWER ONE EIGHTH BLOCK,00HORIZONTAL ONE EIGHTH BLOCK-1358,00UPPER ONE QUARTER BLOCK,11THREE EIGHTHS," ++
  "12FIVE,11THREE QUARTERS,11SEVEN EIGHTHS,01RIGHT ONE QUARTER,11THREE EIGHTHS,12FIVE,11THREE QUARTERS," ++
  "11SEVEN EIGHTHS,00LEFT HALF MEDIUM SHADE,03RIGHT,03UPPER,03LOWER,02INVERSE,03UPPER HALF BLOCK AND LOWER HALF," ++
  "20INVERSE MEDIUM SHADE AND LOWER HALF BLOCK,,02LEFT HALF INVERSE MEDIUM SHADE AND RIGHT,00CHECKER BOARD FILL," ++
  "03INVERSE,01HEAVY HORIZONTAL,01UPPER LEFT TO LOWER RIGHT,11RIGHT TO LOWER LEFT," ++
  "10AND LOWER TRIANGULAR HALF BLOCK,03LEFT AND RIGHT,00UPPER LEFT TRIANGULAR MEDIUM SHADE,13RIGHT,04LOWER,13LEFT," ++
  "00BOX DRAWINGS LIGHT DIAGONAL UPPER CENTRE TO MIDDLE LEFT,80RIGHT,40MIDDLE LEFT TO LOWER CENTRE,53RIGHT," ++
  "43UPPER CENTRE TO MIDDLE LEFT,83RIGHT,40MIDDLE LEFT TO LOWER CENTRE TO MIDDLE RIGHT,74UPPER," ++
  "40UPPER CENTRE TO MIDDLE LEFT AND MIDDLE RIGHT TO LOWER CENTRE,83RIGHT AND MIDDLE LEFT," ++
  "90TO LOWER CENTRE TO MIDDLE LEFT,80LEFT TO LOWER CENTRE TO MIDDLE RIGHT," ++
  "40MIDDLE LEFT TO UPPER CENTRE TO MIDDLE RIGHT TO LOWER CENTRE,53RIGHT TO UPPER CENTRE TO MIDDLE LEFT,40DIAMOND," ++
  "30HORIZONTAL WITH VERTICAL STROKE,00ARROWHEAD-SHAPED POINTER,00INVERSE CHECK MARK,00LEFT HALF RUNNING MAN," ++
  "03RIGHT,00INVERSE DOWNWARDS ARROW WITH TIP LEFTWARDS,00LEFTWARDS ARROW AND UPPER AND LOWER ONE EIGHTH BLOCK," ++
  "08RIGHTWARDS,03DOWNWARDS ARROW AND RIGHT,06UPWARDS,00LEFT HALF FOLDER,02RIGHT,00VOIDED GREEK CROSS," ++
  "00RIGHT OPEN SQUARED DOT,00NEGATIVE DIAGONAL CROSS,20MIDDLE RIGHT TO LOWER CENTRE,20DIAMOND," ++
  "00WHITE HEAVY SALTIRE WITH ROUNDED CORNERS,00LEFT THIRD WHITE RIGHT POINTING INDEX,05MIDDLE,05RIGHT," ++
  "00NEGATIVE SQUARED QUESTION MARK,00STICK FIGURE,20WITH ARMS RAISED,20LEANING LEFT,30RIGHT,20WITH DRESS," ++
  "00WHITE UP-POINTING CHEVRON"

def run1fbf0 : String :=
  "00SEGMENTED DIGIT ZERO,20ONE,20TWO,20THREE,20FOUR,20FIVE,20SIX,20SEVEN,20EIGHT,20NINE"

/-- The runs with their first and last characters. -/
def runs : List (Nat × Nat × String) := [
  (0x1f000, 0x1f07f, run1f000), (0x1f080, 0x1f093, run1f080), (0x1f0a0, 0x1f17f, run1f0a0),
  (0x1f180, 0x1f1ad, run1f180), (0x1f1e6, 0x1f202, run1f1e6), (0x1f210, 0x1f251, run1f210),
  (0x1f260, 0x1f265, run1f260), (0x1f300, 0x1f37f, run1f300), (0x1f380, 0x1f3ff, run1f380),
  (0x1f400, 0x1f47f, run1f400), (0x1f480, 0x1f4ff, run1f480), (0x1f500, 0x1f57f, run1f500),
  (0x1f580, 0x1f5ff, run1f580), (0x1f600, 0x1f67f, run1f600), (0x1f680, 0x1f6fc, run1f680),
  (0x1f700, 0x1f773, run1f700), (0x1f780, 0x1f7f0, run1f780), (0x1f800, 0x1f87f, run1f800),
  (0x1f880, 0x1f8b1, run1f880), (0x1f900, 0x1f97f, run1f900), (0x1f980, 0x1f9ff, run1f980),
  (0x1fa00, 0x1fa53, run1fa00), (0x1fa60, 0x1faf6, run1fa60), (0x1fb00, 0x1fb7f, run1fb00),
  (0x1fb80, 0x1fbca, run1fb80), (0x1fbf0, 0x1fbf9, run1fbf0)]

end SocksTunnel.CharacterName.Pictographs
