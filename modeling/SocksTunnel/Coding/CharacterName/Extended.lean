/-
  SocksTunnel.Coding.CharacterName.Extended — the names of further letters of the Latin
  and Greek scripts, run by run. A run has an entry for each of its characters in a row:
  how many first and last words of the name before it stay, then its own words between
  these; an empty entry has no name.
-/

namespace SocksTunnel.CharacterName.Extended

def run1e00 : String :=
  "00LATIN CAPITAL LETTER A WITH RING BELOW,15SMALL,10CAPITAL LETTER B WITH DOT ABOVE,15SMALL," ++
  "10CAPITAL LETTER B WITH DOT BELOW,15SMALL,11CAPITAL LETTER B WITH LINE,15SMALL," ++
  "10CAPITAL LETTER C WITH CEDILLA AND ACUTE,16SMALL,10CAPITAL LETTER D WITH DOT ABOVE,15SMALL," ++
  "10CAPITAL LETTER D WITH DOT BELOW,15SMALL,11CAPITAL LETTER D WITH LINE,15SMALL,10CAPITAL LETTER D WITH CEDILLA," ++
  "14SMALL,10CAPITAL LETTER D WITH CIRCUMFLEX BELOW,15SMALL,10CAPITAL LETTER E WITH MACRON AND GRAVE,16SMALL," ++
  "10CAPITAL LETTER E WITH MACRON AND ACUTE,16SMALL,10CAPITAL LETTER E WITH CIRCUMFLEX BELOW,15SMALL," ++
  "11CAPITAL LETTER E WITH TILDE,15SMALL,10CAPITAL LETTER E WITH CEDILLA AND BREVE,16SMALL," ++
  "10CAPITAL LETTER F WITH DOT ABOVE,15SMALL,10CAPITAL LETTER G WITH MACRON,14SMALL," ++
  "10CAPITAL LETTER H WITH DOT ABOVE,15SMALL,10CAPITAL LETTER H WITH DOT BELOW,15SMALL," ++
  "10CAPITAL LETTER H WITH DIAERESIS,14SMALL,10CAPITAL LETTER H WITH CEDILLA,14SMALL," ++
  "10CAPITAL LETTER H WITH BREVE BELOW,15SMALL,11CAPITAL LETTER I WITH TILDE,15SMALL," ++
  "10CAPITAL LETTER I WITH DIAERESIS AND ACUTE,16SMALL,11CAPITAL LETTER K WITH,14SMALL," ++
  "10CAPITAL LETTER K WITH DOT BELOW,15SMALL,11CAPITAL LETTER K WITH LINE,15SMALL,11CAPITAL LETTER L WITH DOT," ++
  "15SMALL,10CAPITAL LETTER L WITH DOT BELOW AND MACRON,17SMALL,10CAPITAL LETTER L WITH LINE BELOW,15SMALL," ++
  "11CAPITAL LETTER L WITH CIRCUMFLEX,15SMALL,10CAPITAL LETTER M WITH ACUTE,14SMALL," ++
  "10CAPITAL LETTER M WITH DOT ABOVE,15SMALL,10CAPITAL LETTER M WITH DOT BELOW,15SMALL," ++
  "10CAPITAL LETTER N WITH DOT ABOVE,15SMALL,10CAPITAL LETTER N WITH DOT BELOW,15SMALL," ++
  "11CAPITAL LETTER N WITH LINE,15SMALL,11CAPITAL LETTER N WITH CIRCUMFLEX,15SMALL," ++
  "10CAPITAL LETTER O WITH TILDE AND ACUTE,16SMALL,10CAPITAL LETTER O WITH TILDE AND DIAERESIS,16SMALL," ++
  "10CAPITAL LETTER O WITH MACRON AND GRAVE,16SMALL,10CAPITAL LETTER O WITH MACRON AND ACUTE,16SMALL," ++
  "11CAPITAL LETTER P WITH,14SMALL,10CAPITAL LETTER P WITH DOT ABOVE,15SMALL,13CAPITAL LETTER R,15SMALL," ++
  "10CAPITAL LETTER R WITH DOT BELOW,15SMALL,10CAPITAL LETTER R WITH DOT BELOW AND MACRON,17SMALL," ++
  "10CAPITAL LETTER R WITH LINE BELOW,15SMALL,10CAPITAL LETTER S WITH DOT ABOVE,15SMALL," ++
  "10CAPITAL LETTER S WITH DOT BELOW,15SMALL,10CAPITAL LETTER S WITH ACUTE AND DOT ABOVE,17SMALL," ++
  "13CAPITAL LETTER S WITH CARON,17SMALL,13CAPITAL LETTER S WITH DOT BELOW,18SMALL,12CAPITAL LETTER T WITH,15SMALL," ++
  "10CAPITAL LETTER T WITH DOT BELOW,15SMALL,11CAPITAL LETTER T WITH LINE,15SMALL," ++
  "11CAPITAL LETTER T WITH CIRCUMFLEX,15SMALL,11CAPITAL LETTER U WITH DIAERESIS,15SMALL," ++
  "11CAPITAL LETTER U WITH TILDE,15SMALL,11CAPITAL LETTER U WITH CIRCUMFLEX,15SMALL," ++
  "10CAPITAL LETTER U WITH TILDE AND ACUTE,16SMALL,10CAPITAL LETTER U WITH MACRON AND DIAERESIS,16SMALL," ++
  "10CAPITAL LETTER V WITH TILDE,14SMALL,10CAPITAL LETTER V WITH DOT BELOW,15SMALL"

def run1e80 : String :=
  "00LATIN CAPITAL LETTER W WITH GRAVE,14SMALL,10CAPITAL LETTER W WITH ACUTE,14SMALL," ++
  "10CAPITAL LETTER W WITH DIAERESIS,14SMALL,10CAPITAL LETTER W WITH DOT ABOVE,15SMALL," ++
  "10CAPITAL LETTER W WITH DOT BELOW,15SMALL,10CAPITAL LETTER X WITH DOT ABOVE,15SMALL," ++
  "10CAPITAL LETTER X WITH DIAERESIS,14SMALL,10CAPITAL LETTER Y WITH DOT ABOVE,15SMALL," ++
  "10CAPITAL LETTER Z WITH CIRCUMFLEX,14SMALL,10CAPITAL LETTER Z WITH DOT BELOW,15SMALL," ++
  "11CAPITAL LETTER Z WITH LINE,15SMALL,33H,30T WITH DIAERESIS,30W WITH RING ABOVE,33Y,30A WITH RIGHT HALF RING," ++
  "30LONG S WITH DOT ABOVE,60DIAGONAL STROKE,61HIGH,10CAPITAL LETTER SHARP S,10SMALL LETTER DELTA," ++
  "10CAPITAL LETTER A WITH DOT BELOW,15SMALL,10CAPITAL LETTER A WITH HOOK ABOVE,15SMALL," ++
  "10CAPITAL LETTER A WITH CIRCUMFLEX AND ACUTE,16SMALL,10CAPITAL LETTER A WITH CIRCUMFLEX AND GRAVE,16SMALL," ++
  "10CAPITAL LETTER A WITH CIRCUMFLEX AND HOOK ABOVE,17SMALL,10CAPITAL LETTER A WITH CIRCUMFLEX AND TILDE,16SMALL," ++
  "10CAPITAL LETTER A WITH CIRCUMFLEX AND DOT BELOW,17SMALL,10CAPITAL LETTER A WITH BREVE AND ACUTE,16SMALL," ++
  "10CAPITAL LETTER A WITH BREVE AND GRAVE,16SMALL,10CAPITAL LETTER A WITH BREVE AND HOOK ABOVE,17SMALL," ++
  "10CAPITAL LETTER A WITH BREVE AND TILDE,16SMALL,10CAPITAL LETTER A WITH BREVE AND DOT BELOW,17SMALL," ++
  "12CAPITAL LETTER E WITH,15SMALL,10CAPITAL LETTER E WITH HOOK ABOVE,15SMALL,10CAPITAL LETTER E WITH TILDE," ++
  "14SMALL,10CAPITAL LETTER E WITH CIRCUMFLEX AND ACUTE,16SMALL,10CAPITAL LETTER E WITH CIRCUMFLEX AND GRAVE," ++
  "16SMALL,10CAPITAL LETTER E WITH CIRCUMFLEX AND HOOK ABOVE,17SMALL,10CAPITAL LETTER E WITH CIRCUMFLEX AND TILDE," ++
  "16SMALL,10CAPITAL LETTER E WITH CIRCUMFLEX AND DOT BELOW,17SMALL,10CAPITAL LETTER I WITH HOOK ABOVE,15SMALL," ++
  "10CAPITAL LETTER I WITH DOT BELOW,15SMALL,13CAPITAL LETTER O,15SMALL,10CAPITAL LETTER O WITH HOOK ABOVE,15SMALL," ++
  "10CAPITAL LETTER O WITH CIRCUMFLEX AND ACUTE,16SMALL,10CAPITAL LETTER O WITH CIRCUMFLEX AND GRAVE,16SMALL," ++
  "10CAPITAL LETTER O WITH CIRCUMFLEX AND HOOK ABOVE,17SMALL,10CAPITAL LETTER O WITH CIRCUMFLEX AND TILDE,16SMALL," ++
  "10CAPITAL LETTER O WITH CIRCUMFLEX AND DOT BELOW,17SMALL,10CAPITAL LETTER O WITH HORN AND ACUTE,16SMALL," ++
  "10CAPITAL LETTER O WITH HORN AND GRAVE,16SMALL,10CAPITAL LETTER O WITH HORN AND HOOK ABOVE,17SMALL," ++
  "10CAPITAL LETTER O WITH HORN AND TILDE,16SMALL,10CAPITAL LETTER O WITH HORN AND DOT BELOW,17SMALL," ++
  "12CAPITAL LETTER U WITH,15SMALL,10CAPITAL LETTER U WITH HOOK ABOVE,15SMALL," ++
  "10CAPITAL LETTER U WITH HORN AND ACUTE,16SMALL,10CAPITAL LETTER U WITH HORN AND GRAVE,16SMALL," ++
  "10CAPITAL LETTER U WITH HORN AND HOOK ABOVE,17SMALL,10CAPITAL LETTER U WITH HORN AND TILDE,16SMALL," ++
  "10CAPITAL LETTER U WITH HORN AND DOT BELOW,17SMALL,10CAPITAL LETTER Y WITH GRAVE,14SMALL," ++
  "10CAPITAL LETTER Y WITH DOT BELOW,15SMALL,10CAPITAL LETTER Y WITH HOOK ABOVE,15SMALL," ++
  "10CAPITAL LETTER Y WITH TILDE,14SMALL,10CAPITAL LETTER MIDDLE-WELSH LL,13SMALL,10CAPITAL LETTER MIDDLE-WELSH V," ++
  "13SMALL,10CAPITAL LETTER Y WITH LOOP,14SMALL"

def run1f00 : String :=
  "00GREEK SMALL LETTER ALPHA WITH PSILI,50DASIA,50PSILI AND VARIA,52DASIA,50PSILI AND OXIA,52DASIA," ++
  "50PSILI AND PERISPOMENI,52DASIA,10CAPITAL LETTER ALPHA WITH PSILI,50DASIA,50PSILI AND VARIA,52DASIA," ++
  "50PSILI AND OXIA,52DASIA,50PSILI AND PERISPOMENI,52DASIA,10SMALL LETTER EPSILON WITH PSILI,50DASIA," ++
  "50PSILI AND VARIA,52DASIA,50PSILI AND OXIA,52DASIA,,,10CAPITAL LETTER EPSILON WITH PSILI,50DASIA," ++
  "50PSILI AND VARIA,52DASIA,50PSILI AND OXIA,52DASIA,,,10SMALL LETTER ETA WITH PSILI,50DASIA,50PSILI AND VARIA," ++
  "52DASIA,50PSILI AND OXIA,52DASIA,50PSILI AND PERISPOMENI,52DASIA,10CAPITAL LETTER ETA WITH PSILI,50DASIA," ++
  "50PSILI AND VARIA,52DASIA,50PSILI AND OXIA,52DASIA,50PSILI AND PERISPOMENI,52DASIA," ++
  "10SMALL LETTER IOTA WITH PSILI,50DASIA,50PSILI AND VARIA,52DASIA,50PSILI AND OXIA,52DASIA," ++
  "50PSILI AND PERISPOMENI,52DASIA,10CAPITAL LETTER IOTA WITH PSILI,50DASIA,50PSILI AND VARIA,52DASIA," ++
  "50PSILI AND OXIA,52DASIA,50PSILI AND PERISPOMENI,52DASIA,10SMALL LETTER OMICRON WITH PSILI,50DASIA," ++
  "50PSILI AND VARIA,52DASIA,50PSILI AND OXIA,52DASIA,,,10CAPITAL LETTER OMICRON WITH PSILI,50DASIA," ++
  "50PSILI AND VARIA,52DASIA,50PSILI AND OXIA,52DASIA,,,10SMALL LETTER UPSILON WITH PSILI,50DASIA," ++
  "50PSILI AND VARIA,52DASIA,50PSILI AND OXIA,52DASIA,50PSILI AND PERISPOMENI,52DASIA,," ++
  "10CAPITAL LETTER UPSILON WITH DASIA,,60AND VARIA,,70OXIA,,70PERISPOMENI,10SMALL LETTER OMEGA WITH PSILI,50DASIA," ++
  "50PSILI AND VARIA,52DASIA,50PSILI AND OXIA,52DASIA,50PSILI AND PERISPOMENI,52DASIA," ++
  "10CAPITAL LETTER OMEGA WITH PSILI,50DASIA,50PSILI AND VARIA,52DASIA,50PSILI AND OXIA,52DASIA," ++
  "50PSILI AND PERISPOMENI,52DASIA,10SMALL LETTER ALPHA WITH VARIA,50OXIA,30EPSILON WITH VARIA,50OXIA," ++
  "30ETA WITH VARIA,50OXIA,30IOTA WITH VARIA,50OXIA,30OMICRON WITH VARIA,50OXIA,30UPSILON WITH VARIA,50OXIA," ++
  "30OMEGA WITH VARIA,50OXIA"

def run1f80 : String :=
  "00GREEK SMALL LETTER ALPHA WITH PSILI AND YPOGEGRAMMENI,52DASIA,52PSILI AND VARIA,54DASIA,52PSILI AND OXIA," ++
  "54DASIA,52PSILI AND PERISPOMENI,54DASIA,10CAPITAL LETTER ALPHA WITH PSILI AND PROSGEGRAMMENI,52DASIA," ++
  "52PSILI AND VARIA,54DASIA,52PSILI AND OXIA,54DASIA,52PSILI AND PERISPOMENI,54DASIA," ++
  "10SMALL LETTER ETA WITH PSILI AND YPOGEGRAMMENI,52DASIA,52PSILI AND VARIA,54DASIA,52PSILI AND OXIA,54DASIA," ++
  "52PSILI AND PERISPOMENI,54DASIA,10CAPITAL LETTER ETA WITH PSILI AND PROSGEGRAMMENI,52DASIA,52PSILI AND VARIA," ++
  "54DASIA,52PSILI AND OXIA,54DASIA,52PSILI AND PERISPOMENI,54DASIA," ++
  "10SMALL LETTER OMEGA WITH PSILI AND YPOGEGRAMMENI,52DASIA,52PSILI AND VARIA,54DASIA,52PSILI AND OXIA,54DASIA," ++
  "52PSILI AND PERISPOMENI,54DASIA,10CAPITAL LETTER OMEGA WITH PSILI AND PROSGEGRAMMENI,52DASIA,52PSILI AND VARIA," ++
  "54DASIA,52PSILI AND OXIA,54DASIA,52PSILI AND PERISPOMENI,54DASIA,10SMALL LETTER ALPHA WITH VRACHY,50MACRON," ++
  "50VARIA AND YPOGEGRAMMENI,50YPOGEGRAMMENI,51OXIA AND,,50PERISPOMENI,60AND YPOGEGRAMMENI," ++
  "10CAPITAL LETTER ALPHA WITH VRACHY,50MACRON,50VARIA,50OXIA,50PROSGEGRAMMENI,10KORONIS,10PROSGEGRAMMENI,10PSILI," ++
  "10PERISPOMENI,11DIALYTIKA AND,10SMALL LETTER ETA WITH VARIA AND YPOGEGRAMMENI,50YPOGEGRAMMENI,51OXIA AND,," ++
  "50PERISPOMENI,60AND YPOGEGRAMMENI,10CAPITAL LETTER EPSILON WITH VARIA,50OXIA,30ETA WITH VARIA,50OXIA," ++
  "50PROSGEGRAMMENI,10PSILI AND VARIA,30OXIA,30PERISPOMENI,10SMALL LETTER IOTA WITH VRACHY,50MACRON," ++
  "50DIALYTIKA AND VARIA,70OXIA,,,50PERISPOMENI,51DIALYTIKA AND,10CAPITAL LETTER IOTA WITH VRACHY,50MACRON,50VARIA," ++
  "50OXIA,,10DASIA AND VARIA,30OXIA,30PERISPOMENI,10SMALL LETTER UPSILON WITH VRACHY,50MACRON," ++
  "50DIALYTIKA AND VARIA,70OXIA,30RHO WITH PSILI,50DASIA,30UPSILON WITH PERISPOMENI,51DIALYTIKA AND," ++
  "10CAPITAL LETTER UPSILON WITH VRACHY,50MACRON,50VARIA,50OXIA,30RHO WITH DASIA,10DIALYTIKA AND VARIA,30OXIA," ++
  "10VARIA,,,10SMALL LETTER OMEGA WITH VARIA AND YPOGEGRAMMENI,50YPOGEGRAMMENI,51OXIA AND,,50PERISPOMENI," ++
  "60AND YPOGEGRAMMENI,10CAPITAL LETTER OMICRON WITH VARIA,50OXIA,30OMEGA WITH VARIA,50OXIA,50PROSGEGRAMMENI," ++
  "10OXIA,10DASIA"

/-- The runs with their first and last characters. -/
def runs : List (Nat × Nat × String) := [
  (0x1e00, 0x1e7f, run1e00), (0x1e80, 0x1eff, run1e80), (0x1f00, 0x1f7d, run1f00), (0x1f80, 0x1ffe, run1f80)]

end SocksTunnel.CharacterName.Extended
