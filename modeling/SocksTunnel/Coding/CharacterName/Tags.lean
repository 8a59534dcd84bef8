/-
  SocksTunnel.Coding.CharacterName.Tags — the names of tags and of the selectors of
  variations that follow the first ones, run by run. A run has an entry for each of its
  characters in a row: how many first and last words of the name before it stay, then
  its own words between these; an empty entry has no name.
-/

namespace SocksTunnel.CharacterName.Tags

def rune0001 : String :=
  "00LANGUAGE TAG"

def rune0020 : String :=
  "00TAG SPACE,10EXCLAMATION MARK,11QUOTATION,10NUMBER SIGN,11DOLLAR,11PERCENT,10AMPERSAND,10APOSTROPHE," ++
  "10LEFT PARENTHESIS,11RIGHT,10ASTERISK,10PLUS SIGN,10COMMA,10HYPHEN-MINUS,10FULL STOP,10SOLIDUS,10DIGIT ZERO," ++
  "20ONE,20TWO,20THREE,20FOUR,20FIVE,20SIX,20SEVEN,20EIGHT,20NINE,10COLON,10SEMICOLON,10LESS-THAN SIGN,11EQUALS," ++
  "11GREATER-THAN,10QUESTION MARK,10COMMERCIAL AT,10LATIN CAPITAL LETTER A,40B,40C,40D,40E,40F,40G,40H,40I,40J,40K," ++
  "40L,40M,40N,40O,40P,40Q,40R,40S,40T,40U,40V,40W,40X,40Y,40Z,10LEFT SQUARE BRACKET,10REVERSE SOLIDUS," ++
  "10RIGHT SQUARE BRACKET,10CIRCUMFLEX ACCENT,10LOW LINE,10GRAVE ACCENT,10LATIN SMALL LETTER A,40B,40C,40D,40E,40F," ++
  "40G,40H,40I,40J,40K,40L,40M,40N,40O,40P,40Q,40R,40S,40T,40U,40V,40W,40X,40Y,40Z,10LEFT CURLY BRACKET," ++
  "10VERTICAL LINE,10RIGHT CURLY BRACKET,10TILDE,00CANCEL TAG"

def rune0100 : String :=
  "00VARIATION SELECTOR-17,10SELECTOR-18,10SELECTOR-19,10SELECTOR-20,10SELECTOR-21,10SELECTOR-22,10SELECTOR-23," ++
  "10SELECTOR-24,10SELECTOR-25,10SELECTOR-26,10SELECTOR-27,10SELECTOR-28,10SELECTOR-29,10SELECTOR-30,10SELECTOR-31," ++
  "10SELECTOR-32,10SELECTOR-33,10SELECTOR-34,10SELECTOR-35,10SELECTOR-36,10SELECTOR-37,10SELECTOR-38,10SELECTOR-39," ++
  "10SELECTOR-40,10SELECTOR-41,10SELECTOR-42,10SELECTOR-43,10SELECTOR-44,10SELECTOR-45,10SELECTOR-46,10SELECTOR-47," ++
  "10SELECTOR-48,10SELECTOR-49,10SELECTOR-50,10SELECTOR-51,10SELECTOR-52,10SELECTOR-53,10SELECTOR-54,10SELECTOR-55," ++
  "10SELECTOR-56,10SELECTOR-57,10SELECTOR-58,10SELECTOR-59,10SELECTOR-60,10SELECTOR-61,10SELECTOR-62,10SELECTOR-63," ++
  "10SELECTOR-64,10SELECTOR-65,10SELECTOR-66,10SELECTOR-67,10SELECTOR-68,10SELECTOR-69,10SELECTOR-70,10SELECTOR-71," ++
  "10SELECTOR-72,10SELECTOR-73,10SELECTOR-74,10SELECTOR-75,10SELECTOR-76,10SELECTOR-77,10SELECTOR-78,10SELECTOR-79," ++
  "10SELECTOR-80,10SELECTOR-81,10SELECTOR-82,10SELECTOR-83,10SELECTOR-84,10SELECTOR-85,10SELECTOR-86,10SELECTOR-87," ++
  "10SELECTOR-88,10SELECTOR-89,10SELECTOR-90,10SELECTOR-91,10SELECTOR-92,10SELECTOR-93,10SELECTOR-94,10SELECTOR-95," ++
  "10SELECTOR-96,10SELECTOR-97,10SELECTOR-98,10SELECTOR-99,10SELECTOR-100,10SELECTOR-101,10SELECTOR-102," ++
  "10SELECTOR-103,10SELECTOR-104,10SELECTOR-105,10SELECTOR-106,10SELECTOR-107,10SELECTOR-108,10SELECTOR-109," ++
  "10SELECTOR-110,10SELECTOR-111,10SELECTOR-112,10SELECTOR-113,10SELECTOR-114,10SELECTOR-115,10SELECTOR-116," ++
  "10SELECTOR-117,10SELECTOR-118,10SELECTOR-119,10SELECTOR-120,10SELECTOR-121,10SELECTOR-122,10SELECTOR-123," ++
  "10SELECTOR-124,10SELECTOR-125,10SELECTOR-126,10SELECTOR-127,10SELECTOR-128,10SELECTOR-129,10SELECTOR-130," ++
  "10SELECTOR-131,10SELECTOR-132,10SELECTOR-133,10SELECTOR-134,10SELECTOR-135,10SELECTOR-136,10SELECTOR-137," ++
  "10SELECTOR-138,10SELECTOR-139,10SELECTOR-140,10SELECTOR-141,10SELECTOR-142,10SELECTOR-143,10SELECTOR-144"

def rune0180 : String :=
  "00VARIATION SELECTOR-145,10SELECTOR-146,10SELECTOR-147,10SELECTOR-148,10SELECTOR-149,10SELECTOR-150," ++
  "10SELECTOR-151,10SELECTOR-152,10SELECTOR-153,10SELECTOR-154,10SELECTOR-155,10SELECTOR-156,10SELECTOR-157," ++
  "10SELECTOR-158,10SELECTOR-159,10SELECTOR-160,10SELECTOR-161,10SELECTOR-162,10SELECTOR-163,10SELECTOR-164," ++
  "10SELECTOR-165,10SELECTOR-166,10SELECTOR-167,10SELECTOR-168,10SELECTOR-169,10SELECTOR-170,10SELECTOR-171," ++
  "10SELECTOR-172,10SELECTOR-173,10SELECTOR-174,10SELECTOR-175,10SELECTOR-176,10SELECTOR-177,10SELECTOR-178," ++
  "10SELECTOR-179,10SELECTOR-180,10SELECTOR-181,10SELECTOR-182,10SELECTOR-183,10SELECTOR-184,10SELECTOR-185," ++
  "10SELECTOR-186,10SELECTOR-187,10SELECTOR-188,10SELECTOR-189,10SELECTOR-190,10SELECTOR-191,10SELECTOR-192," ++
  "10SELECTOR-193,10SELECTOR-194,10SELECTOR-195,10SELECTOR-196,10SELECTOR-197,10SELECTOR-198,10SELECTOR-199," ++
  "10SELECTOR-200,10SELECTOR-201,10SELECTOR-202,10SELECTOR-203,10SELECTOR-204,10SELECTOR-205,10SELECTOR-206," ++
  "10SELECTOR-207,10SELECTOR-208,10SELECTOR-209,10SELECTOR-210,10SELECTOR-211,10SELECTOR-212,10SELECTOR-213," ++
  "10SELECTOR-214,10SELECTOR-215,10SELECTOR-216,10SELECTOR-217,10SELECTOR-218,10SELECTOR-219,10SELECTOR-220," ++
  "10SELECTOR-221,10SELECTOR-222,10SELECTOR-223,10SELECTOR-224,10SELECTOR-225,10SELECTOR-226,10SELECTOR-227," ++
  "10SELECTOR-228,10SELECTOR-229,10SELECTOR-230,10SELECTOR-231,10SELECTOR-232,10SELECTOR-233,10SELECTOR-234," ++
  "10SELECTOR-235,10SELECTOR-236,10SELECTOR-237,10SELECTOR-238,10SELECTOR-239,10SELECTOR-240,10SELECTOR-241," ++
  "10SELECTOR-242,10SELECTOR-243,10SELECTOR-244,10SELECTOR-245,10SELECTOR-246,10SELECTOR-247,10SELECTOR-248," ++
  "10SELECTOR-249,10SELECTOR-250,10SELECTOR-251,10SELECTOR-252,10SELECTOR-253,10SELECTOR-254,10SELECTOR-255," ++
  "10SELECTOR-256"

/-- The runs with their first and last characters. -/
def runs : List (Nat × Nat × String) := [
  (0xe0001, 0xe0001, rune0001), (0xe0020, 0xe007f, rune0020), (0xe0100, 0xe017f, rune0100),
  (0xe0180, 0xe01ef, rune0180)]

end SocksTunnel.CharacterName.Tags
