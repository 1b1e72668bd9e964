import ApiCompiler.Text.CodePoints

/-!
# Names of characters

The names under which a tag pattern can ask for a character: those of the Latin and Greek
letters, of common punctuation and of the controls that have one.  Case does not count.
-/

namespace ApiCompiler
namespace Text

/-- Code points and names, each name ended by a semicolon. -/
def characterNames : String :=
  "0 NULL; 7 ALERT; 8 BACKSPACE; 9 CHARACTER TABULATION; A LINE FEED; B LINE TABULATION;
   C FORM FEED; D CARRIAGE RETURN; 1B ESCAPE; 7F DELETE; 2010 HYPHEN; 2011 NON-BREAKING HYPHEN;
   2012 FIGURE DASH; 2013 EN DASH; 2014 EM DASH; 2015 HORIZONTAL BAR;
   2018 LEFT SINGLE QUOTATION MARK; 2019 RIGHT SINGLE QUOTATION MARK;
   201C LEFT DOUBLE QUOTATION MARK; 201D RIGHT DOUBLE QUOTATION MARK; 2020 DAGGER;
   2021 DOUBLE DAGGER; 2022 BULLET; 2026 HORIZONTAL ELLIPSIS; 2030 PER MILLE SIGN; 20AC EURO SIGN;
   2122 TRADE MARK SIGN; 2190 LEFTWARDS ARROW; 2191 UPWARDS ARROW; 2192 RIGHTWARDS ARROW;
   2193 DOWNWARDS ARROW; 391 GREEK CAPITAL LETTER ALPHA; 392 GREEK CAPITAL LETTER BETA;
   393 GREEK CAPITAL LETTER GAMMA; 394 GREEK CAPITAL LETTER DELTA;
   395 GREEK CAPITAL LETTER EPSILON; 396 GREEK CAPITAL LETTER ZETA; 397 GREEK CAPITAL LETTER ETA;
   398 GREEK CAPITAL LETTER THETA; 399 GREEK CAPITAL LETTER IOTA; 39A GREEK CAPITAL LETTER KAPPA;
   39B GREEK CAPITAL LETTER LAMDA; 39C GREEK CAPITAL LETTER MU; 39D GREEK CAPITAL LETTER NU;
   39E GREEK CAPITAL LETTER XI; 39F GREEK CAPITAL LETTER OMICRON; 3A0 GREEK CAPITAL LETTER PI;
   3A1 GREEK CAPITAL LETTER RHO; 3A3 GREEK CAPITAL LETTER SIGMA; 3A4 GREEK CAPITAL LETTER TAU;
   3A5 GREEK CAPITAL LETTER UPSILON; 3A6 GREEK CAPITAL LETTER PHI; 3A7 GREEK CAPITAL LETTER CHI;
   3A8 GREEK CAPITAL LETTER PSI; 3A9 GREEK CAPITAL LETTER OMEGA; 3B1 GREEK SMALL LETTER ALPHA;
   3B2 GREEK SMALL LETTER BETA; 3B3 GREEK SMALL LETTER GAMMA; 3B4 GREEK SMALL LETTER DELTA;
   3B5 GREEK SMALL LETTER EPSILON; 3B6 GREEK SMALL LETTER ZETA; 3B7 GREEK SMALL LETTER ETA;
   3B8 GREEK SMALL LETTER THETA; 3B9 GREEK SMALL LETTER IOTA; 3BA GREEK SMALL LETTER KAPPA;
   3BB GREEK SMALL LETTER LAMDA; 3BC GREEK SMALL LETTER MU; 3BD GREEK SMALL LETTER NU;
   3BE GREEK SMALL LETTER XI; 3BF GREEK SMALL LETTER OMICRON; 3C0 GREEK SMALL LETTER PI;
   3C1 GREEK SMALL LETTER RHO; 3C2 GREEK SMALL LETTER FINAL SIGMA; 3C3 GREEK SMALL LETTER SIGMA;
   3C4 GREEK SMALL LETTER TAU; 3C5 GREEK SMALL LETTER UPSILON; 3C6 GREEK SMALL LETTER PHI;
   3C7 GREEK SMALL LETTER CHI; 3C8 GREEK SMALL LETTER PSI; 3C9 GREEK SMALL LETTER OMEGA; 20 SPACE;
   21 EXCLAMATION MARK; 22 QUOTATION MARK; 23 NUMBER SIGN; 24 DOLLAR SIGN; 25 PERCENT SIGN;
   26 AMPERSAND; 27 APOSTROPHE; 28 LEFT PARENTHESIS; 29 RIGHT PARENTHESIS; 2A ASTERISK;
   2B PLUS SIGN; 2C COMMA; 2D HYPHEN-MINUS; 2E FULL STOP; 2F SOLIDUS; 30 DIGIT ZERO; 31 DIGIT ONE;
   32 DIGIT TWO; 33 DIGIT THREE; 34 DIGIT FOUR; 35 DIGIT FIVE; 36 DIGIT SIX; 37 DIGIT SEVEN;
   38 DIGIT EIGHT; 39 DIGIT NINE; 3A COLON; 3B SEMICOLON; 3C LESS-THAN SIGN; 3D EQUALS SIGN;
   3E GREATER-THAN SIGN; 3F QUESTION MARK; 40 COMMERCIAL AT; 41 LATIN CAPITAL LETTER A;
   42 LATIN CAPITAL LETTER B; 43 LATIN CAPITAL LETTER C; 44 LATIN CAPITAL LETTER D;
   45 LATIN CAPITAL LETTER E; 46 LATIN CAPITAL LETTER F; 47 LATIN CAPITAL LETTER G;
   48 LATIN CAPITAL LETTER H; 49 LATIN CAPITAL LETTER I; 4A LATIN CAPITAL LETTER J;
   4B LATIN CAPITAL LETTER K; 4C LATIN CAPITAL LETTER L; 4D LATIN CAPITAL LETTER M;
   4E LATIN CAPITAL LETTER N; 4F LATIN CAPITAL LETTER O; 50 LATIN CAPITAL LETTER P;
   51 LATIN CAPITAL LETTER Q; 52 LATIN CAPITAL LETTER R; 53 LATIN CAPITAL LETTER S;
   54 LATIN CAPITAL LETTER T; 55 LATIN CAPITAL LETTER U; 56 LATIN CAPITAL LETTER V;
   57 LATIN CAPITAL LETTER W; 58 LATIN CAPITAL LETTER X; 59 LATIN CAPITAL LETTER Y;
   5A LATIN CAPITAL LETTER Z; 5B LEFT SQUARE BRACKET; 5C REVERSE SOLIDUS; 5D RIGHT SQUARE BRACKET;
   5E CIRCUMFLEX ACCENT; 5F LOW LINE; 60 GRAVE ACCENT; 61 LATIN SMALL LETTER A;
   62 LATIN SMALL LETTER B; 63 LATIN SMALL LETTER C; 64 LATIN SMALL LETTER D;
   65 LATIN SMALL LETTER E; 66 LATIN SMALL LETTER F; 67 LATIN SMALL LETTER G;
   68 LATIN SMALL LETTER H; 69 LATIN SMALL LETTER I; 6A LATIN SMALL LETTER J;
   6B LATIN SMALL LETTER K; 6C LATIN SMALL LETTER L; 6D LATIN SMALL LETTER M;
   6E LATIN SMALL LETTER N; 6F LATIN SMALL LETTER O; 70 LATIN SMALL LETTER P;
   71 LATIN SMALL LETTER Q; 72 LATIN SMALL LETTER R; 73 LATIN SMALL LETTER S;
   74 LATIN SMALL LETTER T; 75 LATIN SMALL LETTER U; 76 LATIN SMALL LETTER V;
   77 LATIN SMALL LETTER W; 78 LATIN SMALL LETTER X; 79 LATIN SMALL LETTER Y;
   7A LATIN SMALL LETTER Z; 7B LEFT CURLY BRACKET; 7C VERTICAL LINE; 7D RIGHT CURLY BRACKET;
   7E TILDE; A0 NO-BREAK SPACE; A1 INVERTED EXCLAMATION MARK; A2 CENT SIGN; A3 POUND SIGN;
   A4 CURRENCY SIGN; A5 YEN SIGN; A6 BROKEN BAR; A7 SECTION SIGN; A8 DIAERESIS; A9 COPYRIGHT SIGN;
   AA FEMININE ORDINAL INDICATOR; AB LEFT-POINTING DOUBLE ANGLE QUOTATION MARK; AC NOT SIGN;
   AD SOFT HYPHEN; AE REGISTERED SIGN; AF MACRON; B0 DEGREE SIGN; B1 PLUS-MINUS SIGN;
   B2 SUPERSCRIPT TWO; B3 SUPERSCRIPT THREE; B4 ACUTE ACCENT; B5 MICRO SIGN; B6 PILCROW SIGN;
   B7 MIDDLE DOT; B8 CEDILLA; B9 SUPERSCRIPT ONE; BA MASCULINE ORDINAL INDICATOR;
   BB RIGHT-POINTING DOUBLE ANGLE QUOTATION MARK; BC VULGAR FRACTION ONE QUARTER;
   BD VULGAR FRACTION ONE HALF; BE VULGAR FRACTION THREE QUARTERS; BF INVERTED QUESTION MARK;
   C0 LATIN CAPITAL LETTER A WITH GRAVE; C1 LATIN CAPITAL LETTER A WITH ACUTE;
   C2 LATIN CAPITAL LETTER A WITH CIRCUMFLEX; C3 LATIN CAPITAL LETTER A WITH TILDE;
   C4 LATIN CAPITAL LETTER A WITH DIAERESIS; C5 LATIN CAPITAL LETTER A WITH RING ABOVE;
   C6 LATIN CAPITAL LETTER AE; C7 LATIN CAPITAL LETTER C WITH CEDILLA;
   C8 LATIN CAPITAL LETTER E WITH GRAVE; C9 LATIN CAPITAL LETTER E WITH ACUTE;
   CA LATIN CAPITAL LETTER E WITH CIRCUMFLEX; CB LATIN CAPITAL LETTER E WITH DIAERESIS;
   CC LATIN CAPITAL LETTER I WITH GRAVE; CD LATIN CAPITAL LETTER I WITH ACUTE;
   CE LATIN CAPITAL LETTER I WITH CIRCUMFLEX; CF LATIN CAPITAL LETTER I WITH DIAERESIS;
   D0 LATIN CAPITAL LETTER ETH; D1 LATIN CAPITAL LETTER N WITH TILDE;
   D2 LATIN CAPITAL LETTER O WITH GRAVE; D3 LATIN CAPITAL LETTER O WITH ACUTE;
   D4 LATIN CAPITAL LETTER O WITH CIRCUMFLEX; D5 LATIN CAPITAL LETTER O WITH TILDE;
   D6 LATIN CAPITAL LETTER O WITH DIAERESIS; D7 MULTIPLICATION SIGN;
   D8 LATIN CAPITAL LETTER O WITH STROKE; D9 LATIN CAPITAL LETTER U WITH GRAVE;
   DA LATIN CAPITAL LETTER U WITH ACUTE; DB LATIN CAPITAL LETTER U WITH CIRCUMFLEX;
   DC LATIN CAPITAL LETTER U WITH DIAERESIS; DD LATIN CAPITAL LETTER Y WITH ACUTE;
   DE LATIN CAPITAL LETTER THORN; DF LATIN SMALL LETTER SHARP S;
   E0 LATIN SMALL LETTER A WITH GRAVE; E1 LATIN SMALL LETTER A WITH ACUTE;
   E2 LATIN SMALL LETTER A WITH CIRCUMFLEX; E3 LATIN SMALL LETTER A WITH TILDE;
   E4 LATIN SMALL LETTER A WITH DIAERESIS; E5 LATIN SMALL LETTER A WITH RING ABOVE;
   E6 LATIN SMALL LETTER AE; E7 LATIN SMALL LETTER C WITH CEDILLA;
   E8 LATIN SMALL LETTER E WITH GRAVE; E9 LATIN SMALL LETTER E WITH ACUTE;
   EA LATIN SMALL LETTER E WITH CIRCUMFLEX; EB LATIN SMALL LETTER E WITH DIAERESIS;
   EC LATIN SMALL LETTER I WITH GRAVE; ED LATIN SMALL LETTER I WITH ACUTE;
   EE LATIN SMALL LETTER I WITH CIRCUMFLEX; EF LATIN SMALL LETTER I WITH DIAERESIS;
   F0 LATIN SMALL LETTER ETH; F1 LATIN SMALL LETTER N WITH TILDE;
   F2 LATIN SMALL LETTER O WITH GRAVE; F3 LATIN SMALL LETTER O WITH ACUTE;
   F4 LATIN SMALL LETTER O WITH CIRCUMFLEX; F5 LATIN SMALL LETTER O WITH TILDE;
   F6 LATIN SMALL LETTER O WITH DIAERESIS; F7 DIVISION SIGN; F8 LATIN SMALL LETTER O WITH STROKE;
   F9 LATIN SMALL LETTER U WITH GRAVE; FA LATIN SMALL LETTER U WITH ACUTE;
   FB LATIN SMALL LETTER U WITH CIRCUMFLEX; FC LATIN SMALL LETTER U WITH DIAERESIS;
   FD LATIN SMALL LETTER Y WITH ACUTE; FE LATIN SMALL LETTER THORN;
   FF LATIN SMALL LETTER Y WITH DIAERESIS;"

/-- The characters and their names. -/
def namedCharacters : List (List Char × Char) :=
  (CodePoints.cut ';' (characterNames.toList.map fun c => if c = '\n' then ' ' else c)).map fun row =>
    let row := row.dropWhile (· = ' ')
    ((row.dropWhile (· ≠ ' ')).drop 1, Char.ofNat (CodePoints.hexNumber (row.takeWhile (· ≠ ' '))))

/-- The character of a name. -/
def characterNamed? (name : List Char) : Option Char :=
  if name.isEmpty then none
  else (namedCharacters.find? fun e => e.1 = name.map Char.toUpper).map (·.2)

end Text
end ApiCompiler
