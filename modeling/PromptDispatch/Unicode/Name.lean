/-!
# Names of characters

The names of the characters of the Latin, Greek and Cyrillic blocks and of
general punctuation, as the Unicode standard gives them.  A name is looked up
without regard to the case of its letters.  Characters of other blocks have names
as well; these are left out, so they are taken for names of no character.
-/

namespace PromptDispatch.Unicode

set_option maxRecDepth 8000

/-- Names with their code points. -/
def characterNames : List (String × Nat) :=
  [("SPACE", 32), ("EXCLAMATION MARK", 33), ("QUOTATION MARK", 34), ("NUMBER SIGN", 35),
   ("DOLLAR SIGN", 36), ("PERCENT SIGN", 37), ("AMPERSAND", 38), ("APOSTROPHE", 39),
   ("LEFT PARENTHESIS", 40), ("RIGHT PARENTHESIS", 41), ("ASTERISK", 42), ("PLUS SIGN", 43),
   ("COMMA", 44), ("HYPHEN-MINUS", 45), ("FULL STOP", 46), ("SOLIDUS", 47), ("DIGIT ZERO", 48),
   ("DIGIT ONE", 49), ("DIGIT TWO", 50), ("DIGIT THREE", 51), ("DIGIT FOUR", 52),
   ("DIGIT FIVE", 53), ("DIGIT SIX", 54), ("DIGIT SEVEN", 55), ("DIGIT EIGHT", 56),
   ("DIGIT NINE", 57), ("COLON", 58), ("SEMICOLON", 59), ("LESS-THAN SIGN", 60),
   ("EQUALS SIGN", 61), ("GREATER-THAN SIGN", 62), ("QUESTION MARK", 63), ("COMMERCIAL AT", 64),
   ("LATIN CAPITAL LETTER A", 65), ("LATIN CAPITAL LETTER B", 66), ("LATIN CAPITAL LETTER C", 67),
   ("LATIN CAPITAL LETTER D", 68), ("LATIN CAPITAL LETTER E", 69), ("LATIN CAPITAL LETTER F", 70),
   ("LATIN CAPITAL LETTER G", 71), ("LATIN CAPITAL LETTER H", 72), ("LATIN CAPITAL LETTER I", 73),
   ("LATIN CAPITAL LETTER J", 74), ("LATIN CAPITAL LETTER K", 75), ("LATIN CAPITAL LETTER L", 76),
   ("LATIN CAPITAL LETTER M", 77), ("LATIN CAPITAL LETTER N", 78), ("LATIN CAPITAL LETTER O", 79),
   ("LATIN CAPITAL LETTER P", 80), ("LATIN CAPITAL LETTER Q", 81), ("LATIN CAPITAL LETTER R", 82),
   ("LATIN CAPITAL LETTER S", 83), ("LATIN CAPITAL LETTER T", 84), ("LATIN CAPITAL LETTER U", 85),
   ("LATIN CAPITAL LETTER V", 86), ("LATIN CAPITAL LETTER W", 87), ("LATIN CAPITAL LETTER X", 88),
   ("LATIN CAPITAL LETTER Y", 89), ("LATIN CAPITAL LETTER Z", 90), ("LEFT SQUARE BRACKET", 91),
   ("REVERSE SOLIDUS", 92), ("RIGHT SQUARE BRACKET", 93), ("CIRCUMFLEX ACCENT", 94),
   ("LOW LINE", 95), ("GRAVE ACCENT", 96), ("LATIN SMALL LETTER A", 97),
   ("LATIN SMALL LETTER B", 98), ("LATIN SMALL LETTER C", 99), ("LATIN SMALL LETTER D", 100),
   ("LATIN SMALL LETTER E", 101), ("LATIN SMALL LETTER F", 102), ("LATIN SMALL LETTER G", 103),
   ("LATIN SMALL LETTER H", 104), ("LATIN SMALL LETTER I", 105), ("LATIN SMALL LETTER J", 106),
   ("LATIN SMALL LETTER K", 107), ("LATIN SMALL LETTER L", 108), ("LATIN SMALL LETTER M", 109),
   ("LATIN SMALL LETTER N", 110), ("LATIN SMALL LETTER O", 111), ("LATIN SMALL LETTER P", 112),
   ("LATIN SMALL LETTER Q", 113), ("LATIN SMALL LETTER R", 114), ("LATIN SMALL LETTER S", 115),
   ("LATIN SMALL LETTER T", 116), ("LATIN SMALL LETTER U", 117), ("LATIN SMALL LETTER V", 118),
   ("LATIN SMALL LETTER W", 119), ("LATIN SMALL LETTER X", 120), ("LATIN SMALL LETTER Y", 121),
   ("LATIN SMALL LETTER Z", 122), ("LEFT CURLY BRACKET", 123), ("VERTICAL LINE", 124),
   ("RIGHT CURLY BRACKET", 125), ("TILDE", 126), ("NO-BREAK SPACE", 160),
   ("INVERTED EXCLAMATION MARK", 161), ("CENT SIGN", 162), ("POUND SIGN", 163),
   ("CURRENCY SIGN", 164), ("YEN SIGN", 165), ("BROKEN BAR", 166), ("SECTION SIGN", 167),
   ("DIAERESIS", 168), ("COPYRIGHT SIGN", 169), ("FEMININE ORDINAL INDICATOR", 170),
   ("LEFT-POINTING DOUBLE ANGLE QUOTATION MARK", 171), ("NOT SIGN", 172), ("SOFT HYPHEN", 173),
   ("REGISTERED SIGN", 174), ("MACRON", 175), ("DEGREE SIGN", 176), ("PLUS-MINUS SIGN", 177),
   ("SUPERSCRIPT TWO", 178), ("SUPERSCRIPT THREE", 179), ("ACUTE ACCENT", 180),
   ("MICRO SIGN", 181), ("PILCROW SIGN", 182), ("MIDDLE DOT", 183), ("CEDILLA", 184),
   ("SUPERSCRIPT ONE", 185), ("MASCULINE ORDINAL INDICATOR", 186),
   ("RIGHT-POINTING DOUBLE ANGLE QUOTATION MARK", 187), ("VULGAR FRACTION ONE QUARTER", 188),
   ("VULGAR FRACTION ONE HALF", 189), ("VULGAR FRACTION THREE QUARTERS", 190),
   ("INVERTED QUESTION MARK", 191), ("LATIN CAPITAL LETTER A WITH GRAVE", 192),
   ("LATIN CAPITAL LETTER A WITH ACUTE", 193), ("LATIN CAPITAL LETTER A WITH CIRCUMFLEX", 194),
   ("LATIN CAPITAL LETTER A WITH TILDE", 195), ("LATIN CAPITAL LETTER A WITH DIAERESIS", 196),
   ("LATIN CAPITAL LETTER A WITH RING ABOVE", 197), ("LATIN CAPITAL LETTER AE", 198),
   ("LATIN CAPITAL LETTER C WITH CEDILLA", 199), ("LATIN CAPITAL LETTER E WITH GRAVE", 200),
   ("LATIN CAPITAL LETTER E WITH ACUTE", 201), ("LATIN CAPITAL LETTER E WITH CIRCUMFLEX", 202),
   ("LATIN CAPITAL LETTER E WITH DIAERESIS", 203), ("LATIN CAPITAL LETTER I WITH GRAVE", 204),
   ("LATIN CAPITAL LETTER I WITH ACUTE", 205), ("LATIN CAPITAL LETTER I WITH CIRCUMFLEX", 206),
   ("LATIN CAPITAL LETTER I WITH DIAERESIS", 207), ("LATIN CAPITAL LETTER ETH", 208),
   ("LATIN CAPITAL LETTER N WITH TILDE", 209), ("LATIN CAPITAL LETTER O WITH GRAVE", 210),
   ("LATIN CAPITAL LETTER O WITH ACUTE", 211), ("LATIN CAPITAL LETTER O WITH CIRCUMFLEX", 212),
   ("LATIN CAPITAL LETTER O WITH TILDE", 213), ("LATIN CAPITAL LETTER O WITH DIAERESIS", 214),
   ("MULTIPLICATION SIGN", 215), ("LATIN CAPITAL LETTER O WITH STROKE", 216),
   ("LATIN CAPITAL LETTER U WITH GRAVE", 217), ("LATIN CAPITAL LETTER U WITH ACUTE", 218),
   ("LATIN CAPITAL LETTER U WITH CIRCUMFLEX", 219),
   ("LATIN CAPITAL LETTER U WITH DIAERESIS", 220), ("LATIN CAPITAL LETTER Y WITH ACUTE", 221),
   ("LATIN CAPITAL LETTER THORN", 222), ("LATIN SMALL LETTER SHARP S", 223),
   ("LATIN SMALL LETTER A WITH GRAVE", 224), ("LATIN SMALL LETTER A WITH ACUTE", 225),
   ("LATIN SMALL LETTER A WITH CIRCUMFLEX", 226), ("LATIN SMALL LETTER A WITH TILDE", 227),
   ("LATIN SMALL LETTER A WITH DIAERESIS", 228), ("LATIN SMALL LETTER A WITH RING ABOVE", 229),
   ("LATIN SMALL LETTER AE", 230), ("LATIN SMALL LETTER C WITH CEDILLA", 231),
   ("LATIN SMALL LETTER E WITH GRAVE", 232), ("LATIN SMALL LETTER E WITH ACUTE", 233),
   ("LATIN SMALL LETTER E WITH CIRCUMFLEX", 234), ("LATIN SMALL LETTER E WITH DIAERESIS", 235),
   ("LATIN SMALL LETTER I WITH GRAVE", 236), ("LATIN SMALL LETTER I WITH ACUTE", 237),
   ("LATIN SMALL LETTER I WITH CIRCUMFLEX", 238), ("LATIN SMALL LETTER I WITH DIAERESIS", 239),
   ("LATIN SMALL LETTER ETH", 240), ("LATIN SMALL LETTER N WITH TILDE", 241),
   ("LATIN SMALL LETTER O WITH GRAVE", 242), ("LATIN SMALL LETTER O WITH ACUTE", 243),
   ("LATIN SMALL LETTER O WITH CIRCUMFLEX", 244), ("LATIN SMALL LETTER O WITH TILDE", 245),
   ("LATIN SMALL LETTER O WITH DIAERESIS", 246), ("DIVISION SIGN", 247),
   ("LATIN SMALL LETTER O WITH STROKE", 248), ("LATIN SMALL LETTER U WITH GRAVE", 249),
   ("LATIN SMALL LETTER U WITH ACUTE", 250), ("LATIN SMALL LETTER U WITH CIRCUMFLEX", 251),
   ("LATIN SMALL LETTER U WITH DIAERESIS", 252), ("LATIN SMALL LETTER Y WITH ACUTE", 253),
   ("LATIN SMALL LETTER THORN", 254), ("LATIN SMALL LETTER Y WITH DIAERESIS", 255),
   ("LATIN CAPITAL LETTER A WITH MACRON", 256), ("LATIN SMALL LETTER A WITH MACRON", 257),
   ("LATIN CAPITAL LETTER A WITH BREVE", 258), ("LATIN SMALL LETTER A WITH BREVE", 259),
   ("LATIN CAPITAL LETTER A WITH OGONEK", 260), ("LATIN SMALL LETTER A WITH OGONEK", 261),
   ("LATIN CAPITAL LETTER C WITH ACUTE", 262), ("LATIN SMALL LETTER C WITH ACUTE", 263),
   ("LATIN CAPITAL LETTER C WITH CIRCUMFLEX", 264), ("LATIN SMALL LETTER C WITH CIRCUMFLEX", 265),
   ("LATIN CAPITAL LETTER C WITH DOT ABOVE", 266), ("LATIN SMALL LETTER C WITH DOT ABOVE", 267),
   ("LATIN CAPITAL LETTER C WITH CARON", 268), ("LATIN SMALL LETTER C WITH CARON", 269),
   ("LATIN CAPITAL LETTER D WITH CARON", 270), ("LATIN SMALL LETTER D WITH CARON", 271),
   ("LATIN CAPITAL LETTER D WITH STROKE", 272), ("LATIN SMALL LETTER D WITH STROKE", 273),
   ("LATIN CAPITAL LETTER E WITH MACRON", 274), ("LATIN SMALL LETTER E WITH MACRON", 275),
   ("LATIN CAPITAL LETTER E WITH BREVE", 276), ("LATIN SMALL LETTER E WITH BREVE", 277),
   ("LATIN CAPITAL LETTER E WITH DOT ABOVE", 278), ("LATIN SMALL LETTER E WITH DOT ABOVE", 279),
   ("LATIN CAPITAL LETTER E WITH OGONEK", 280), ("LATIN SMALL LETTER E WITH OGONEK", 281),
   ("LATIN CAPITAL LETTER E WITH CARON", 282), ("LATIN SMALL LETTER E WITH CARON", 283),
   ("LATIN CAPITAL LETTER G WITH CIRCUMFLEX", 284), ("LATIN SMALL LETTER G WITH CIRCUMFLEX", 285),
   ("LATIN CAPITAL LETTER G WITH BREVE", 286), ("LATIN SMALL LETTER G WITH BREVE", 287),
   ("LATIN CAPITAL LETTER G WITH DOT ABOVE", 288), ("LATIN SMALL LETTER G WITH DOT ABOVE", 289),
   ("LATIN CAPITAL LETTER G WITH CEDILLA", 290), ("LATIN SMALL LETTER G WITH CEDILLA", 291),
   ("LATIN CAPITAL LETTER H WITH CIRCUMFLEX", 292), ("LATIN SMALL LETTER H WITH CIRCUMFLEX", 293),
   ("LATIN CAPITAL LETTER H WITH STROKE", 294), ("LATIN SMALL LETTER H WITH STROKE", 295),
   ("LATIN CAPITAL LETTER I WITH TILDE", 296), ("LATIN SMALL LETTER I WITH TILDE", 297),
   ("LATIN CAPITAL LETTER I WITH MACRON", 298), ("LATIN SMALL LETTER I WITH MACRON", 299),
   ("LATIN CAPITAL LETTER I WITH BREVE", 300), ("LATIN SMALL LETTER I WITH BREVE", 301),
   ("LATIN CAPITAL LETTER I WITH OGONEK", 302), ("LATIN SMALL LETTER I WITH OGONEK", 303),
   ("LATIN CAPITAL LETTER I WITH DOT ABOVE", 304), ("LATIN SMALL LETTER DOTLESS I", 305),
   ("LATIN CAPITAL LIGATURE IJ", 306), ("LATIN SMALL LIGATURE IJ", 307),
   ("LATIN CAPITAL LETTER J WITH CIRCUMFLEX", 308), ("LATIN SMALL LETTER J WITH CIRCUMFLEX", 309),
   ("LATIN CAPITAL LETTER K WITH CEDILLA", 310), ("LATIN SMALL LETTER K WITH CEDILLA", 311),
   ("LATIN SMALL LETTER KRA", 312), ("LATIN CAPITAL LETTER L WITH ACUTE", 313),
   ("LATIN SMALL LETTER L WITH ACUTE", 314), ("LATIN CAPITAL LETTER L WITH CEDILLA", 315),
   ("LATIN SMALL LETTER L WITH CEDILLA", 316), ("LATIN CAPITAL LETTER L WITH CARON", 317),
   ("LATIN SMALL LETTER L WITH CARON", 318), ("LATIN CAPITAL LETTER L WITH MIDDLE DOT", 319),
   ("LATIN SMALL LETTER L WITH MIDDLE DOT", 320), ("LATIN CAPITAL LETTER L WITH STROKE", 321),
   ("LATIN SMALL LETTER L WITH STROKE", 322), ("LATIN CAPITAL LETTER N WITH ACUTE", 323),
   ("LATIN SMALL LETTER N WITH ACUTE", 324), ("LATIN CAPITAL LETTER N WITH CEDILLA", 325),
   ("LATIN SMALL LETTER N WITH CEDILLA", 326), ("LATIN CAPITAL LETTER N WITH CARON", 327),
   ("LATIN SMALL LETTER N WITH CARON", 328), ("LATIN SMALL LETTER N PRECEDED BY APOSTROPHE", 329),
   ("LATIN CAPITAL LETTER ENG", 330), ("LATIN SMALL LETTER ENG", 331),
   ("LATIN CAPITAL LETTER O WITH MACRON", 332), ("LATIN SMALL LETTER O WITH MACRON", 333),
   ("LATIN CAPITAL LETTER O WITH BREVE", 334), ("LATIN SMALL LETTER O WITH BREVE", 335),
   ("LATIN CAPITAL LETTER O WITH DOUBLE ACUTE", 336),
   ("LATIN SMALL LETTER O WITH DOUBLE ACUTE", 337), ("LATIN CAPITAL LIGATURE OE", 338),
   ("LATIN SMALL LIGATURE OE", 339), ("LATIN CAPITAL LETTER R WITH ACUTE", 340),
   ("LATIN SMALL LETTER R WITH ACUTE", 341), ("LATIN CAPITAL LETTER R WITH CEDILLA", 342),
   ("LATIN SMALL LETTER R WITH CEDILLA", 343), ("LATIN CAPITAL LETTER R WITH CARON", 344),
   ("LATIN SMALL LETTER R WITH CARON", 345), ("LATIN CAPITAL LETTER S WITH ACUTE", 346),
   ("LATIN SMALL LETTER S WITH ACUTE", 347), ("LATIN CAPITAL LETTER S WITH CIRCUMFLEX", 348),
   ("LATIN SMALL LETTER S WITH CIRCUMFLEX", 349), ("LATIN CAPITAL LETTER S WITH CEDILLA", 350),
   ("LATIN SMALL LETTER S WITH CEDILLA", 351), ("LATIN CAPITAL LETTER S WITH CARON", 352),
   ("LATIN SMALL LETTER S WITH CARON", 353), ("LATIN CAPITAL LETTER T WITH CEDILLA", 354),
   ("LATIN SMALL LETTER T WITH CEDILLA", 355), ("LATIN CAPITAL LETTER T WITH CARON", 356),
   ("LATIN SMALL LETTER T WITH CARON", 357), ("LATIN CAPITAL LETTER T WITH STROKE", 358),
   ("LATIN SMALL LETTER T WITH STROKE", 359), ("LATIN CAPITAL LETTER U WITH TILDE", 360),
   ("LATIN SMALL LETTER U WITH TILDE", 361), ("LATIN CAPITAL LETTER U WITH MACRON", 362),
   ("LATIN SMALL LETTER U WITH MACRON", 363), ("LATIN CAPITAL LETTER U WITH BREVE", 364),
   ("LATIN SMALL LETTER U WITH BREVE", 365), ("LATIN CAPITAL LETTER U WITH RING ABOVE", 366),
   ("LATIN SMALL LETTER U WITH RING ABOVE", 367),
   ("LATIN CAPITAL LETTER U WITH DOUBLE ACUTE", 368),
   ("LATIN SMALL LETTER U WITH DOUBLE ACUTE", 369), ("LATIN CAPITAL LETTER U WITH OGONEK", 370),
   ("LATIN SMALL LETTER U WITH OGONEK", 371), ("LATIN CAPITAL LETTER W WITH CIRCUMFLEX", 372),
   ("LATIN SMALL LETTER W WITH CIRCUMFLEX", 373), ("LATIN CAPITAL LETTER Y WITH CIRCUMFLEX", 374),
   ("LATIN SMALL LETTER Y WITH CIRCUMFLEX", 375), ("LATIN CAPITAL LETTER Y WITH DIAERESIS", 376),
   ("LATIN CAPITAL LETTER Z WITH ACUTE", 377), ("LATIN SMALL LETTER Z WITH ACUTE", 378),
   ("LATIN CAPITAL LETTER Z WITH DOT ABOVE", 379), ("LATIN SMALL LETTER Z WITH DOT ABOVE", 380),
   ("LATIN CAPITAL LETTER Z WITH CARON", 381), ("LATIN SMALL LETTER Z WITH CARON", 382),
   ("LATIN SMALL LETTER LONG S", 383), ("GREEK CAPITAL LETTER HETA", 880),
   ("GREEK SMALL LETTER HETA", 881), ("GREEK CAPITAL LETTER ARCHAIC SAMPI", 882),
   ("GREEK SMALL LETTER ARCHAIC SAMPI", 883), ("GREEK NUMERAL SIGN", 884),
   ("GREEK LOWER NUMERAL SIGN", 885), ("GREEK CAPITAL LETTER PAMPHYLIAN DIGAMMA", 886),
   ("GREEK SMALL LETTER PAMPHYLIAN DIGAMMA", 887), ("GREEK YPOGEGRAMMENI", 890),
   ("GREEK SMALL REVERSED LUNATE SIGMA SYMBOL", 891),
   ("GREEK SMALL DOTTED LUNATE SIGMA SYMBOL", 892),
   ("GREEK SMALL REVERSED DOTTED LUNATE SIGMA SYMBOL", 893), ("GREEK QUESTION MARK", 894),
   ("GREEK CAPITAL LETTER YOT", 895), ("GREEK TONOS", 900), ("GREEK DIALYTIKA TONOS", 901),
   ("GREEK CAPITAL LETTER ALPHA WITH TONOS", 902), ("GREEK ANO TELEIA", 903),
   ("GREEK CAPITAL LETTER EPSILON WITH TONOS", 904), ("GREEK CAPITAL LETTER ETA WITH TONOS", 905),
   ("GREEK CAPITAL LETTER IOTA WITH TONOS", 906),
   ("GREEK CAPITAL LETTER OMICRON WITH TONOS", 908),
   ("GREEK CAPITAL LETTER UPSILON WITH TONOS", 910),
   ("GREEK CAPITAL LETTER OMEGA WITH TONOS", 911),
   ("GREEK SMALL LETTER IOTA WITH DIALYTIKA AND TONOS", 912), ("GREEK CAPITAL LETTER ALPHA", 913),
   ("GREEK CAPITAL LETTER BETA", 914), ("GREEK CAPITAL LETTER GAMMA", 915),
   ("GREEK CAPITAL LETTER DELTA", 916), ("GREEK CAPITAL LETTER EPSILON", 917),
   ("GREEK CAPITAL LETTER ZETA", 918), ("GREEK CAPITAL LETTER ETA", 919),
   ("GREEK CAPITAL LETTER THETA", 920), ("GREEK CAPITAL LETTER IOTA", 921),
   ("GREEK CAPITAL LETTER KAPPA", 922), ("GREEK CAPITAL LETTER LAMDA", 923),
   ("GREEK CAPITAL LETTER MU", 924), ("GREEK CAPITAL LETTER NU", 925),
   ("GREEK CAPITAL LETTER XI", 926), ("GREEK CAPITAL LETTER OMICRON", 927),
   ("GREEK CAPITAL LETTER PI", 928), ("GREEK CAPITAL LETTER RHO", 929),
   ("GREEK CAPITAL LETTER SIGMA", 931), ("GREEK CAPITAL LETTER TAU", 932),
   ("GREEK CAPITAL LETTER UPSILON", 933), ("GREEK CAPITAL LETTER PHI", 934),
   ("GREEK CAPITAL LETTER CHI", 935), ("GREEK CAPITAL LETTER PSI", 936),
   ("GREEK CAPITAL LETTER OMEGA", 937), ("GREEK CAPITAL LETTER IOTA WITH DIALYTIKA", 938),
   ("GREEK CAPITAL LETTER UPSILON WITH DIALYTIKA", 939),
   ("GREEK SMALL LETTER ALPHA WITH TONOS", 940), ("GREEK SMALL LETTER EPSILON WITH TONOS", 941),
   ("GREEK SMALL LETTER ETA WITH TONOS", 942), ("GREEK SMALL LETTER IOTA WITH TONOS", 943),
   ("GREEK SMALL LETTER UPSILON WITH DIALYTIKA AND TONOS", 944),
   ("GREEK SMALL LETTER ALPHA", 945), ("GREEK SMALL LETTER BETA", 946),
   ("GREEK SMALL LETTER GAMMA", 947), ("GREEK SMALL LETTER DELTA", 948),
   ("GREEK SMALL LETTER EPSILON", 949), ("GREEK SMALL LETTER ZETA", 950),
   ("GREEK SMALL LETTER ETA", 951), ("GREEK SMALL LETTER THETA", 952),
   ("GREEK SMALL LETTER IOTA", 953), ("GREEK SMALL LETTER KAPPA", 954),
   ("GREEK SMALL LETTER LAMDA", 955), ("GREEK SMALL LETTER MU", 956),
   ("GREEK SMALL LETTER NU", 957), ("GREEK SMALL LETTER XI", 958),
   ("GREEK SMALL LETTER OMICRON", 959), ("GREEK SMALL LETTER PI", 960),
   ("GREEK SMALL LETTER RHO", 961), ("GREEK SMALL LETTER FINAL SIGMA", 962),
   ("GREEK SMALL LETTER SIGMA", 963), ("GREEK SMALL LETTER TAU", 964),
   ("GREEK SMALL LETTER UPSILON", 965), ("GREEK SMALL LETTER PHI", 966),
   ("GREEK SMALL LETTER CHI", 967), ("GREEK SMALL LETTER PSI", 968),
   ("GREEK SMALL LETTER OMEGA", 969), ("GREEK SMALL LETTER IOTA WITH DIALYTIKA", 970),
   ("GREEK SMALL LETTER UPSILON WITH DIALYTIKA", 971),
   ("GREEK SMALL LETTER OMICRON WITH TONOS", 972), ("GREEK SMALL LETTER UPSILON WITH TONOS", 973),
   ("GREEK SMALL LETTER OMEGA WITH TONOS", 974), ("GREEK CAPITAL KAI SYMBOL", 975),
   ("GREEK BETA SYMBOL", 976), ("GREEK THETA SYMBOL", 977),
   ("GREEK UPSILON WITH HOOK SYMBOL", 978), ("GREEK UPSILON WITH ACUTE AND HOOK SYMBOL", 979),
   ("GREEK UPSILON WITH DIAERESIS AND HOOK SYMBOL", 980), ("GREEK PHI SYMBOL", 981),
   ("GREEK PI SYMBOL", 982), ("GREEK KAI SYMBOL", 983), ("GREEK LETTER ARCHAIC KOPPA", 984),
   ("GREEK SMALL LETTER ARCHAIC KOPPA", 985), ("GREEK LETTER STIGMA", 986),
   ("GREEK SMALL LETTER STIGMA", 987), ("GREEK LETTER DIGAMMA", 988),
   ("GREEK SMALL LETTER DIGAMMA", 989), ("GREEK LETTER KOPPA", 990),
   ("GREEK SMALL LETTER KOPPA", 991), ("GREEK LETTER SAMPI", 992),
   ("GREEK SMALL LETTER SAMPI", 993), ("COPTIC CAPITAL LETTER SHEI", 994),
   ("COPTIC SMALL LETTER SHEI", 995), ("COPTIC CAPITAL LETTER FEI", 996),
   ("COPTIC SMALL LETTER FEI", 997), ("COPTIC CAPITAL LETTER KHEI", 998),
   ("COPTIC SMALL LETTER KHEI", 999), ("COPTIC CAPITAL LETTER HORI", 1000),
   ("COPTIC SMALL LETTER HORI", 1001), ("COPTIC CAPITAL LETTER GANGIA", 1002),
   ("COPTIC SMALL LETTER GANGIA", 1003), ("COPTIC CAPITAL LETTER SHIMA", 1004),
   ("COPTIC SMALL LETTER SHIMA", 1005), ("COPTIC CAPITAL LETTER DEI", 1006),
   ("COPTIC SMALL LETTER DEI", 1007), ("GREEK KAPPA SYMBOL", 1008), ("GREEK RHO SYMBOL", 1009),
   ("GREEK LUNATE SIGMA SYMBOL", 1010), ("GREEK LETTER YOT", 1011),
   ("GREEK CAPITAL THETA SYMBOL", 1012), ("GREEK LUNATE EPSILON SYMBOL", 1013),
   ("GREEK REVERSED LUNATE EPSILON SYMBOL", 1014), ("GREEK CAPITAL LETTER SHO", 1015),
   ("GREEK SMALL LETTER SHO", 1016), ("GREEK CAPITAL LUNATE SIGMA SYMBOL", 1017),
   ("GREEK CAPITAL LETTER SAN", 1018), ("GREEK SMALL LETTER SAN", 1019),
   ("GREEK RHO WITH STROKE SYMBOL", 1020), ("GREEK CAPITAL REVERSED LUNATE SIGMA SYMBOL", 1021),
   ("GREEK CAPITAL DOTTED LUNATE SIGMA SYMBOL", 1022),
   ("GREEK CAPITAL REVERSED DOTTED LUNATE SIGMA SYMBOL", 1023),
   ("CYRILLIC CAPITAL LETTER IE WITH GRAVE", 1024), ("CYRILLIC CAPITAL LETTER IO", 1025),
   ("CYRILLIC CAPITAL LETTER DJE", 1026), ("CYRILLIC CAPITAL LETTER GJE", 1027),
   ("CYRILLIC CAPITAL LETTER UKRAINIAN IE", 1028), ("CYRILLIC CAPITAL LETTER DZE", 1029),
   ("CYRILLIC CAPITAL LETTER BYELORUSSIAN-UKRAINIAN I", 1030),
   ("CYRILLIC CAPITAL LETTER YI", 1031), ("CYRILLIC CAPITAL LETTER JE", 1032),
   ("CYRILLIC CAPITAL LETTER LJE", 1033), ("CYRILLIC CAPITAL LETTER NJE", 1034),
   ("CYRILLIC CAPITAL LETTER TSHE", 1035), ("CYRILLIC CAPITAL LETTER KJE", 1036),
   ("CYRILLIC CAPITAL LETTER I WITH GRAVE", 1037), ("CYRILLIC CAPITAL LETTER SHORT U", 1038),
   ("CYRILLIC CAPITAL LETTER DZHE", 1039), ("CYRILLIC CAPITAL LETTER A", 1040),
   ("CYRILLIC CAPITAL LETTER BE", 1041), ("CYRILLIC CAPITAL LETTER VE", 1042),
   ("CYRILLIC CAPITAL LETTER GHE", 1043), ("CYRILLIC CAPITAL LETTER DE", 1044),
   ("CYRILLIC CAPITAL LETTER IE", 1045), ("CYRILLIC CAPITAL LETTER ZHE", 1046),
   ("CYRILLIC CAPITAL LETTER ZE", 1047), ("CYRILLIC CAPITAL LETTER I", 1048),
   ("CYRILLIC CAPITAL LETTER SHORT I", 1049), ("CYRILLIC CAPITAL LETTER KA", 1050),
   ("CYRILLIC CAPITAL LETTER EL", 1051), ("CYRILLIC CAPITAL LETTER EM", 1052),
   ("CYRILLIC CAPITAL LETTER EN", 1053), ("CYRILLIC CAPITAL LETTER O", 1054),
   ("CYRILLIC CAPITAL LETTER PE", 1055), ("CYRILLIC CAPITAL LETTER ER", 1056),
   ("CYRILLIC CAPITAL LETTER ES", 1057), ("CYRILLIC CAPITAL LETTER TE", 1058),
   ("CYRILLIC CAPITAL LETTER U", 1059), ("CYRILLIC CAPITAL LETTER EF", 1060),
   ("CYRILLIC CAPITAL LETTER HA", 1061), ("CYRILLIC CAPITAL LETTER TSE", 1062),
   ("CYRILLIC CAPITAL LETTER CHE", 1063), ("CYRILLIC CAPITAL LETTER SHA", 1064),
   ("CYRILLIC CAPITAL LETTER SHCHA", 1065), ("CYRILLIC CAPITAL LETTER HARD SIGN", 1066),
   ("CYRILLIC CAPITAL LETTER YERU", 1067), ("CYRILLIC CAPITAL LETTER SOFT SIGN", 1068),
   ("CYRILLIC CAPITAL LETTER E", 1069), ("CYRILLIC CAPITAL LETTER YU", 1070),
   ("CYRILLIC CAPITAL LETTER YA", 1071), ("CYRILLIC SMALL LETTER A", 1072),
   ("CYRILLIC SMALL LETTER BE", 1073), ("CYRILLIC SMALL LETTER VE", 1074),
   ("CYRILLIC SMALL LETTER GHE", 1075), ("CYRILLIC SMALL LETTER DE", 1076),
   ("CYRILLIC SMALL LETTER IE", 1077), ("CYRILLIC SMALL LETTER ZHE", 1078),
   ("CYRILLIC SMALL LETTER ZE", 1079), ("CYRILLIC SMALL LETTER I", 1080),
   ("CYRILLIC SMALL LETTER SHORT I", 1081), ("CYRILLIC SMALL LETTER KA", 1082),
   ("CYRILLIC SMALL LETTER EL", 1083), ("CYRILLIC SMALL LETTER EM", 1084),
   ("CYRILLIC SMALL LETTER EN", 1085), ("CYRILLIC SMALL LETTER O", 1086),
   ("CYRILLIC SMALL LETTER PE", 1087), ("CYRILLIC SMALL LETTER ER", 1088),
   ("CYRILLIC SMALL LETTER ES", 1089), ("CYRILLIC SMALL LETTER TE", 1090),
   ("CYRILLIC SMALL LETTER U", 1091), ("CYRILLIC SMALL LETTER EF", 1092),
   ("CYRILLIC SMALL LETTER HA", 1093), ("CYRILLIC SMALL LETTER TSE", 1094),
   ("CYRILLIC SMALL LETTER CHE", 1095), ("CYRILLIC SMALL LETTER SHA", 1096),
   ("CYRILLIC SMALL LETTER SHCHA", 1097), ("CYRILLIC SMALL LETTER HARD SIGN", 1098),
   ("CYRILLIC SMALL LETTER YERU", 1099), ("CYRILLIC SMALL LETTER SOFT SIGN", 1100),
   ("CYRILLIC SMALL LETTER E", 1101), ("CYRILLIC SMALL LETTER YU", 1102),
   ("CYRILLIC SMALL LETTER YA", 1103), ("CYRILLIC SMALL LETTER IE WITH GRAVE", 1104),
   ("CYRILLIC SMALL LETTER IO", 1105), ("CYRILLIC SMALL LETTER DJE", 1106),
   ("CYRILLIC SMALL LETTER GJE", 1107), ("CYRILLIC SMALL LETTER UKRAINIAN IE", 1108),
   ("CYRILLIC SMALL LETTER DZE", 1109), ("CYRILLIC SMALL LETTER BYELORUSSIAN-UKRAINIAN I", 1110),
   ("CYRILLIC SMALL LETTER YI", 1111), ("CYRILLIC SMALL LETTER JE", 1112),
   ("CYRILLIC SMALL LETTER LJE", 1113), ("CYRILLIC SMALL LETTER NJE", 1114),
   ("CYRILLIC SMALL LETTER TSHE", 1115), ("CYRILLIC SMALL LETTER KJE", 1116),
   ("CYRILLIC SMALL LETTER I WITH GRAVE", 1117), ("CYRILLIC SMALL LETTER SHORT U", 1118),
   ("CYRILLIC SMALL LETTER DZHE", 1119), ("HYPHEN", 8208), ("NON-BREAKING HYPHEN", 8209),
   ("FIGURE DASH", 8210), ("EN DASH", 8211), ("EM DASH", 8212), ("HORIZONTAL BAR", 8213),
   ("DOUBLE VERTICAL LINE", 8214), ("DOUBLE LOW LINE", 8215),
   ("LEFT SINGLE QUOTATION MARK", 8216), ("RIGHT SINGLE QUOTATION MARK", 8217),
   ("SINGLE LOW-9 QUOTATION MARK", 8218), ("SINGLE HIGH-REVERSED-9 QUOTATION MARK", 8219),
   ("LEFT DOUBLE QUOTATION MARK", 8220), ("RIGHT DOUBLE QUOTATION MARK", 8221),
   ("DOUBLE LOW-9 QUOTATION MARK", 8222), ("DOUBLE HIGH-REVERSED-9 QUOTATION MARK", 8223),
   ("DAGGER", 8224), ("DOUBLE DAGGER", 8225), ("BULLET", 8226), ("TRIANGULAR BULLET", 8227),
   ("ONE DOT LEADER", 8228), ("TWO DOT LEADER", 8229), ("HORIZONTAL ELLIPSIS", 8230),
   ("HYPHENATION POINT", 8231), ("PER MILLE SIGN", 8240), ("PER TEN THOUSAND SIGN", 8241),
   ("PRIME", 8242), ("DOUBLE PRIME", 8243), ("TRIPLE PRIME", 8244), ("REVERSED PRIME", 8245),
   ("REVERSED DOUBLE PRIME", 8246), ("REVERSED TRIPLE PRIME", 8247), ("CARET", 8248),
   ("SINGLE LEFT-POINTING ANGLE QUOTATION MARK", 8249),
   ("SINGLE RIGHT-POINTING ANGLE QUOTATION MARK", 8250), ("REFERENCE MARK", 8251),
   ("DOUBLE EXCLAMATION MARK", 8252), ("INTERROBANG", 8253), ("OVERLINE", 8254),
   ("UNDERTIE", 8255), ("CHARACTER TIE", 8256), ("CARET INSERTION POINT", 8257),
   ("ASTERISM", 8258), ("HYPHEN BULLET", 8259), ("FRACTION SLASH", 8260),
   ("EURO-CURRENCY SIGN", 8352), ("COLON SIGN", 8353), ("CRUZEIRO SIGN", 8354),
   ("FRENCH FRANC SIGN", 8355), ("LIRA SIGN", 8356), ("MILL SIGN", 8357), ("NAIRA SIGN", 8358),
   ("PESETA SIGN", 8359), ("RUPEE SIGN", 8360), ("WON SIGN", 8361), ("NEW SHEQEL SIGN", 8362),
   ("DONG SIGN", 8363), ("EURO SIGN", 8364), ("KIP SIGN", 8365), ("TUGRIK SIGN", 8366),
   ("DRACHMA SIGN", 8367), ("GERMAN PENNY SIGN", 8368), ("PESO SIGN", 8369),
   ("GUARANI SIGN", 8370), ("AUSTRAL SIGN", 8371), ("HRYVNIA SIGN", 8372), ("CEDI SIGN", 8373),
   ("LIVRE TOURNOIS SIGN", 8374), ("SPESMILO SIGN", 8375), ("TENGE SIGN", 8376),
   ("INDIAN RUPEE SIGN", 8377), ("TURKISH LIRA SIGN", 8378), ("NORDIC MARK SIGN", 8379),
   ("MANAT SIGN", 8380), ("RUBLE SIGN", 8381), ("LARI SIGN", 8382), ("BITCOIN SIGN", 8383),
   ("LEFTWARDS ARROW", 8592), ("UPWARDS ARROW", 8593), ("RIGHTWARDS ARROW", 8594),
   ("DOWNWARDS ARROW", 8595), ("FOR ALL", 8704), ("COMPLEMENT", 8705),
   ("PARTIAL DIFFERENTIAL", 8706), ("THERE EXISTS", 8707), ("THERE DOES NOT EXIST", 8708),
   ("EMPTY SET", 8709), ("INCREMENT", 8710), ("NABLA", 8711), ("ELEMENT OF", 8712),
   ("NOT AN ELEMENT OF", 8713), ("SMALL ELEMENT OF", 8714), ("CONTAINS AS MEMBER", 8715),
   ("DOES NOT CONTAIN AS MEMBER", 8716), ("SMALL CONTAINS AS MEMBER", 8717),
   ("END OF PROOF", 8718), ("N-ARY PRODUCT", 8719), ("KELVIN SIGN", 8490),
   ("ANGSTROM SIGN", 8491), ("TRADE MARK SIGN", 8482), ("LINE SEPARATOR", 8232),
   ("PARAGRAPH SEPARATOR", 8233), ("LATIN CAPITAL LETTER SHARP S", 7838),
   ("ZERO WIDTH NO-BREAK SPACE", 65279), ("REPLACEMENT CHARACTER", 65533),
   ("GRINNING FACE", 128512), ("FACE WITH TEARS OF JOY", 128514), ("PILE OF POO", 128169),
   ("SNOWMAN", 9731), ("CHECK MARK", 10003)]

/-- Code point of the character of a name. -/
def named? (name : String) : Option Nat :=
  let key := name.map Char.toUpper
  (characterNames.find? fun entry => entry.1 == key).map (·.2)

end PromptDispatch.Unicode
