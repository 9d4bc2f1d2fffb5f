/-!
# Character names: the tables

Names of code points in the Unicode character database (version 14.0), and the aliases of those that have some. The
tables cover Basic Latin, Latin-1 Supplement, Greek and Coptic, General Punctuation and Currency Symbols.
-/

namespace PatternLexer.Text

/-- Names of the code points `first`, `first + 1`, …, which begin alike. -/
structure NameRun where
  first : Nat
  stem : String
  rests : List String
deriving Repr, DecidableEq

namespace Table

/-- Names. -/
def nameRuns : List NameRun := [
  ⟨0x20, "", ["SPACE", "EXCLAMATION MARK", "QUOTATION MARK", "NUMBER SIGN", "DOLLAR SIGN",
    "PERCENT SIGN", "AMPERSAND", "APOSTROPHE", "LEFT PARENTHESIS", "RIGHT PARENTHESIS", "ASTERISK",
    "PLUS SIGN", "COMMA", "HYPHEN-MINUS", "FULL STOP", "SOLIDUS"]⟩,
  ⟨0x30, "DIGIT ", ["ZERO", "ONE", "TWO", "THREE", "FOUR", "FIVE", "SIX", "SEVEN", "EIGHT",
    "NINE"]⟩,
  ⟨0x3A, "", ["COLON", "SEMICOLON", "LESS-THAN SIGN", "EQUALS SIGN", "GREATER-THAN SIGN",
    "QUESTION MARK", "COMMERCIAL AT"]⟩,
  ⟨0x41, "LATIN CAPITAL LETTER ", ["A", "B", "C", "D", "E", "F", "G", "H", "I", "J", "K", "L", "M",
    "N", "O", "P", "Q", "R", "S", "T", "U", "V", "W", "X", "Y", "Z"]⟩,
  ⟨0x5B, "", ["LEFT SQUARE BRACKET", "REVERSE SOLIDUS", "RIGHT SQUARE BRACKET", "CIRCUMFLEX ACCENT",
    "LOW LINE", "GRAVE ACCENT"]⟩,
  ⟨0x61, "LATIN SMALL LETTER ", ["A", "B", "C", "D", "E", "F", "G", "H", "I", "J", "K", "L", "M",
    "N", "O", "P", "Q", "R", "S", "T", "U", "V", "W", "X", "Y", "Z"]⟩,
  ⟨0x7B, "", ["LEFT CURLY BRACKET", "VERTICAL LINE", "RIGHT CURLY BRACKET", "TILDE"]⟩,
  ⟨0xA0, "", ["NO-BREAK SPACE", "INVERTED EXCLAMATION MARK", "CENT SIGN", "POUND SIGN",
    "CURRENCY SIGN", "YEN SIGN", "BROKEN BAR", "SECTION SIGN", "DIAERESIS", "COPYRIGHT SIGN",
    "FEMININE ORDINAL INDICATOR", "LEFT-POINTING DOUBLE ANGLE QUOTATION MARK", "NOT SIGN",
    "SOFT HYPHEN", "REGISTERED SIGN", "MACRON", "DEGREE SIGN", "PLUS-MINUS SIGN", "SUPERSCRIPT TWO",
    "SUPERSCRIPT THREE", "ACUTE ACCENT", "MICRO SIGN", "PILCROW SIGN", "MIDDLE DOT", "CEDILLA",
    "SUPERSCRIPT ONE", "MASCULINE ORDINAL INDICATOR", "RIGHT-POINTING DOUBLE ANGLE QUOTATION MARK",
    "VULGAR FRACTION ONE QUARTER", "VULGAR FRACTION ONE HALF", "VULGAR FRACTION THREE QUARTERS",
    "INVERTED QUESTION MARK"]⟩,
  ⟨0xC0, "LATIN CAPITAL LETTER ", ["A WITH GRAVE", "A WITH ACUTE", "A WITH CIRCUMFLEX",
    "A WITH TILDE", "A WITH DIAERESIS", "A WITH RING ABOVE", "AE", "C WITH CEDILLA", "E WITH GRAVE",
    "E WITH ACUTE", "E WITH CIRCUMFLEX", "E WITH DIAERESIS", "I WITH GRAVE", "I WITH ACUTE",
    "I WITH CIRCUMFLEX", "I WITH DIAERESIS", "ETH", "N WITH TILDE", "O WITH GRAVE", "O WITH ACUTE",
    "O WITH CIRCUMFLEX", "O WITH TILDE", "O WITH DIAERESIS"]⟩, ⟨0xD7, "", ["MULTIPLICATION SIGN"]⟩,
  ⟨0xD8, "LATIN CAPITAL LETTER ", ["O WITH STROKE", "U WITH GRAVE", "U WITH ACUTE",
    "U WITH CIRCUMFLEX", "U WITH DIAERESIS", "Y WITH ACUTE", "THORN"]⟩,
  ⟨0xDF, "LATIN SMALL LETTER ", ["SHARP S", "A WITH GRAVE", "A WITH ACUTE", "A WITH CIRCUMFLEX",
    "A WITH TILDE", "A WITH DIAERESIS", "A WITH RING ABOVE", "AE", "C WITH CEDILLA", "E WITH GRAVE",
    "E WITH ACUTE", "E WITH CIRCUMFLEX", "E WITH DIAERESIS", "I WITH GRAVE", "I WITH ACUTE",
    "I WITH CIRCUMFLEX", "I WITH DIAERESIS", "ETH", "N WITH TILDE", "O WITH GRAVE", "O WITH ACUTE",
    "O WITH CIRCUMFLEX", "O WITH TILDE", "O WITH DIAERESIS"]⟩, ⟨0xF7, "", ["DIVISION SIGN"]⟩,
  ⟨0xF8, "LATIN SMALL LETTER ", ["O WITH STROKE", "U WITH GRAVE", "U WITH ACUTE",
    "U WITH CIRCUMFLEX", "U WITH DIAERESIS", "Y WITH ACUTE", "THORN", "Y WITH DIAERESIS"]⟩,
  ⟨0x370, "GREEK ", ["CAPITAL LETTER HETA", "SMALL LETTER HETA", "CAPITAL LETTER ARCHAIC SAMPI",
    "SMALL LETTER ARCHAIC SAMPI", "NUMERAL SIGN", "LOWER NUMERAL SIGN",
    "CAPITAL LETTER PAMPHYLIAN DIGAMMA", "SMALL LETTER PAMPHYLIAN DIGAMMA"]⟩,
  ⟨0x37A, "GREEK ", ["YPOGEGRAMMENI", "SMALL REVERSED LUNATE SIGMA SYMBOL",
    "SMALL DOTTED LUNATE SIGMA SYMBOL", "SMALL REVERSED DOTTED LUNATE SIGMA SYMBOL", "QUESTION MARK",
    "CAPITAL LETTER YOT"]⟩,
  ⟨0x384, "GREEK ", ["TONOS", "DIALYTIKA TONOS", "CAPITAL LETTER ALPHA WITH TONOS", "ANO TELEIA"]⟩,
  ⟨0x388, "GREEK CAPITAL LETTER ", ["EPSILON WITH TONOS", "ETA WITH TONOS", "IOTA WITH TONOS"]⟩,
  ⟨0x38C, "", ["GREEK CAPITAL LETTER OMICRON WITH TONOS"]⟩,
  ⟨0x38E, "GREEK ", ["CAPITAL LETTER UPSILON WITH TONOS", "CAPITAL LETTER OMEGA WITH TONOS",
    "SMALL LETTER IOTA WITH DIALYTIKA AND TONOS"]⟩,
  ⟨0x391, "GREEK CAPITAL LETTER ", ["ALPHA", "BETA", "GAMMA", "DELTA", "EPSILON", "ZETA", "ETA",
    "THETA", "IOTA", "KAPPA", "LAMDA", "MU", "NU", "XI", "OMICRON", "PI", "RHO"]⟩,
  ⟨0x3A3, "GREEK CAPITAL LETTER ", ["SIGMA", "TAU", "UPSILON", "PHI", "CHI", "PSI", "OMEGA",
    "IOTA WITH DIALYTIKA", "UPSILON WITH DIALYTIKA"]⟩,
  ⟨0x3AC, "GREEK SMALL LETTER ", ["ALPHA WITH TONOS", "EPSILON WITH TONOS", "ETA WITH TONOS",
    "IOTA WITH TONOS", "UPSILON WITH DIALYTIKA AND TONOS", "ALPHA", "BETA", "GAMMA", "DELTA",
    "EPSILON", "ZETA", "ETA", "THETA", "IOTA", "KAPPA", "LAMDA", "MU", "NU", "XI", "OMICRON", "PI",
    "RHO", "FINAL SIGMA", "SIGMA", "TAU", "UPSILON", "PHI", "CHI", "PSI", "OMEGA",
    "IOTA WITH DIALYTIKA", "UPSILON WITH DIALYTIKA", "OMICRON WITH TONOS", "UPSILON WITH TONOS",
    "OMEGA WITH TONOS"]⟩,
  ⟨0x3CF, "GREEK ", ["CAPITAL KAI SYMBOL", "BETA SYMBOL", "THETA SYMBOL", "UPSILON WITH HOOK SYMBOL",
    "UPSILON WITH ACUTE AND HOOK SYMBOL", "UPSILON WITH DIAERESIS AND HOOK SYMBOL", "PHI SYMBOL",
    "PI SYMBOL", "KAI SYMBOL", "LETTER ARCHAIC KOPPA", "SMALL LETTER ARCHAIC KOPPA", "LETTER STIGMA",
    "SMALL LETTER STIGMA", "LETTER DIGAMMA", "SMALL LETTER DIGAMMA", "LETTER KOPPA",
    "SMALL LETTER KOPPA", "LETTER SAMPI", "SMALL LETTER SAMPI"]⟩,
  ⟨0x3E2, "COPTIC ", ["CAPITAL LETTER SHEI", "SMALL LETTER SHEI", "CAPITAL LETTER FEI",
    "SMALL LETTER FEI", "CAPITAL LETTER KHEI", "SMALL LETTER KHEI", "CAPITAL LETTER HORI",
    "SMALL LETTER HORI", "CAPITAL LETTER GANGIA", "SMALL LETTER GANGIA", "CAPITAL LETTER SHIMA",
    "SMALL LETTER SHIMA", "CAPITAL LETTER DEI", "SMALL LETTER DEI"]⟩,
  ⟨0x3F0, "GREEK ", ["KAPPA SYMBOL", "RHO SYMBOL", "LUNATE SIGMA SYMBOL", "LETTER YOT",
    "CAPITAL THETA SYMBOL", "LUNATE EPSILON SYMBOL", "REVERSED LUNATE EPSILON SYMBOL",
    "CAPITAL LETTER SHO", "SMALL LETTER SHO", "CAPITAL LUNATE SIGMA SYMBOL", "CAPITAL LETTER SAN",
    "SMALL LETTER SAN", "RHO WITH STROKE SYMBOL", "CAPITAL REVERSED LUNATE SIGMA SYMBOL",
    "CAPITAL DOTTED LUNATE SIGMA SYMBOL", "CAPITAL REVERSED DOTTED LUNATE SIGMA SYMBOL"]⟩,
  ⟨0x2000, "", ["EN QUAD", "EM QUAD", "EN SPACE", "EM SPACE", "THREE-PER-EM SPACE",
    "FOUR-PER-EM SPACE", "SIX-PER-EM SPACE", "FIGURE SPACE", "PUNCTUATION SPACE", "THIN SPACE",
    "HAIR SPACE", "ZERO WIDTH SPACE", "ZERO WIDTH NON-JOINER", "ZERO WIDTH JOINER",
    "LEFT-TO-RIGHT MARK", "RIGHT-TO-LEFT MARK", "HYPHEN", "NON-BREAKING HYPHEN", "FIGURE DASH",
    "EN DASH", "EM DASH", "HORIZONTAL BAR", "DOUBLE VERTICAL LINE", "DOUBLE LOW LINE",
    "LEFT SINGLE QUOTATION MARK", "RIGHT SINGLE QUOTATION MARK", "SINGLE LOW-9 QUOTATION MARK",
    "SINGLE HIGH-REVERSED-9 QUOTATION MARK", "LEFT DOUBLE QUOTATION MARK",
    "RIGHT DOUBLE QUOTATION MARK", "DOUBLE LOW-9 QUOTATION MARK",
    "DOUBLE HIGH-REVERSED-9 QUOTATION MARK", "DAGGER", "DOUBLE DAGGER", "BULLET",
    "TRIANGULAR BULLET", "ONE DOT LEADER", "TWO DOT LEADER", "HORIZONTAL ELLIPSIS",
    "HYPHENATION POINT", "LINE SEPARATOR", "PARAGRAPH SEPARATOR", "LEFT-TO-RIGHT EMBEDDING",
    "RIGHT-TO-LEFT EMBEDDING", "POP DIRECTIONAL FORMATTING", "LEFT-TO-RIGHT OVERRIDE",
    "RIGHT-TO-LEFT OVERRIDE", "NARROW NO-BREAK SPACE", "PER MILLE SIGN", "PER TEN THOUSAND SIGN",
    "PRIME", "DOUBLE PRIME", "TRIPLE PRIME", "REVERSED PRIME", "REVERSED DOUBLE PRIME",
    "REVERSED TRIPLE PRIME", "CARET", "SINGLE LEFT-POINTING ANGLE QUOTATION MARK",
    "SINGLE RIGHT-POINTING ANGLE QUOTATION MARK", "REFERENCE MARK", "DOUBLE EXCLAMATION MARK",
    "INTERROBANG", "OVERLINE", "UNDERTIE", "CHARACTER TIE", "CARET INSERTION POINT", "ASTERISM",
    "HYPHEN BULLET", "FRACTION SLASH", "LEFT SQUARE BRACKET WITH QUILL",
    "RIGHT SQUARE BRACKET WITH QUILL", "DOUBLE QUESTION MARK", "QUESTION EXCLAMATION MARK",
    "EXCLAMATION QUESTION MARK", "TIRONIAN SIGN ET", "REVERSED PILCROW SIGN",
    "BLACK LEFTWARDS BULLET", "BLACK RIGHTWARDS BULLET", "LOW ASTERISK", "REVERSED SEMICOLON",
    "CLOSE UP", "TWO ASTERISKS ALIGNED VERTICALLY", "COMMERCIAL MINUS SIGN", "SWUNG DASH",
    "INVERTED UNDERTIE", "FLOWER PUNCTUATION MARK", "THREE DOT PUNCTUATION", "QUADRUPLE PRIME",
    "FOUR DOT PUNCTUATION", "FIVE DOT PUNCTUATION", "TWO DOT PUNCTUATION", "FOUR DOT MARK",
    "DOTTED CROSS", "TRICOLON", "VERTICAL FOUR DOTS", "MEDIUM MATHEMATICAL SPACE", "WORD JOINER",
    "FUNCTION APPLICATION"]⟩, ⟨0x2062, "INVISIBLE ", ["TIMES", "SEPARATOR", "PLUS"]⟩,
  ⟨0x2066, "", ["LEFT-TO-RIGHT ISOLATE", "RIGHT-TO-LEFT ISOLATE", "FIRST STRONG ISOLATE",
    "POP DIRECTIONAL ISOLATE", "INHIBIT SYMMETRIC SWAPPING", "ACTIVATE SYMMETRIC SWAPPING",
    "INHIBIT ARABIC FORM SHAPING", "ACTIVATE ARABIC FORM SHAPING", "NATIONAL DIGIT SHAPES",
    "NOMINAL DIGIT SHAPES"]⟩,
  ⟨0x20A0, "", ["EURO-CURRENCY SIGN", "COLON SIGN", "CRUZEIRO SIGN", "FRENCH FRANC SIGN",
    "LIRA SIGN", "MILL SIGN", "NAIRA SIGN", "PESETA SIGN", "RUPEE SIGN", "WON SIGN",
    "NEW SHEQEL SIGN", "DONG SIGN", "EURO SIGN", "KIP SIGN", "TUGRIK SIGN", "DRACHMA SIGN",
    "GERMAN PENNY SIGN", "PESO SIGN", "GUARANI SIGN", "AUSTRAL SIGN", "HRYVNIA SIGN", "CEDI SIGN",
    "LIVRE TOURNOIS SIGN", "SPESMILO SIGN", "TENGE SIGN", "INDIAN RUPEE SIGN", "TURKISH LIRA SIGN",
    "NORDIC MARK SIGN", "MANAT SIGN", "RUBLE SIGN", "LARI SIGN", "BITCOIN SIGN", "SOM SIGN"]⟩]

/-- Aliases: of control characters, and abbreviations. -/
def aliasRuns : List NameRun := [
  ⟨0x0, "", ["NULL", "START OF HEADING", "START OF TEXT", "END OF TEXT", "END OF TRANSMISSION",
    "ENQUIRY", "ACKNOWLEDGE", "ALERT", "BACKSPACE", "CHARACTER TABULATION", "LINE FEED",
    "LINE TABULATION", "FORM FEED", "CARRIAGE RETURN", "SHIFT OUT", "SHIFT IN",
    "DATA LINK ESCAPE"]⟩, ⟨0x11, "DEVICE CONTROL ", ["ONE", "TWO", "THREE", "FOUR"]⟩,
  ⟨0x15, "", ["NEGATIVE ACKNOWLEDGE", "SYNCHRONOUS IDLE", "END OF TRANSMISSION BLOCK", "CANCEL",
    "END OF MEDIUM", "SUBSTITUTE", "ESCAPE"]⟩,
  ⟨0x1C, "INFORMATION SEPARATOR ", ["FOUR", "THREE", "TWO", "ONE"]⟩,
  ⟨0x7F, "", ["DELETE", "PADDING CHARACTER", "HIGH OCTET PRESET", "BREAK PERMITTED HERE",
    "NO BREAK HERE", "INDEX", "NEXT LINE", "START OF SELECTED AREA", "END OF SELECTED AREA",
    "CHARACTER TABULATION SET", "CHARACTER TABULATION WITH JUSTIFICATION", "LINE TABULATION SET",
    "PARTIAL LINE FORWARD", "PARTIAL LINE BACKWARD", "REVERSE LINE FEED", "SINGLE SHIFT TWO",
    "SINGLE SHIFT THREE", "DEVICE CONTROL STRING", "PRIVATE USE ONE", "PRIVATE USE TWO",
    "SET TRANSMIT STATE", "CANCEL CHARACTER", "MESSAGE WAITING", "START OF GUARDED AREA",
    "END OF GUARDED AREA", "START OF STRING", "SINGLE GRAPHIC CHARACTER INTRODUCER",
    "SINGLE CHARACTER INTRODUCER", "CONTROL SEQUENCE INTRODUCER", "STRING TERMINATOR",
    "OPERATING SYSTEM COMMAND", "PRIVACY MESSAGE", "APPLICATION PROGRAM COMMAND"]⟩,
  ⟨0x0, "", ["NUL", "SOH", "STX", "ETX", "EOT", "ENQ", "ACK", "BEL", "BS", "TAB", "EOL", "VT", "FF",
    "CR", "SO", "SI", "DLE", "DC1", "DC2", "DC3", "DC4", "NAK", "SYN", "ETB", "CAN", "EOM", "SUB",
    "ESC", "FS", "GS", "RS", "US", "SP"]⟩,
  ⟨0x7F, "", ["DEL", "PAD", "HOP", "BPH", "NBH", "IND", "NEL", "SSA", "ESA", "HTS", "HTJ", "VTS",
    "PLD", "PLU", "RI", "SS2", "SS3", "DCS", "PU1", "PU2", "STS", "CCH", "MW", "SPA", "EPA", "SOS",
    "SGC", "SCI", "CSI", "ST", "OSC", "PM", "APC", "NBSP"]⟩, ⟨0xAD, "", ["SHY"]⟩,
  ⟨0x200B, "", ["ZWSP", "ZWNJ", "ZWJ", "LRM", "RLM"]⟩,
  ⟨0x202A, "", ["LRE", "RLE", "PDF", "LRO", "RLO", "NNBSP"]⟩, ⟨0x205F, "", ["MMSP", "WJ"]⟩,
  ⟨0x2066, "", ["LRI", "RLI", "FSI", "PDI"]⟩, ⟨0x9, "", ["HORIZONTAL TABULATION"]⟩,
  ⟨0x9, "", ["HT"]⟩, ⟨0xA, "", ["END OF LINE"]⟩, ⟨0xA, "", ["LF"]⟩, ⟨0xA, "", ["NEW LINE"]⟩,
  ⟨0xA, "", ["NL"]⟩, ⟨0xB, "", ["VERTICAL TABULATION"]⟩, ⟨0xE, "", ["LOCKING-SHIFT ONE"]⟩,
  ⟨0xF, "", ["LOCKING-SHIFT ZERO"]⟩, ⟨0x1C, "", ["FILE SEPARATOR"]⟩,
  ⟨0x1D, "", ["GROUP SEPARATOR"]⟩, ⟨0x1E, "", ["RECORD SEPARATOR"]⟩, ⟨0x1F, "", ["UNIT SEPARATOR"]⟩,
  ⟨0x88, "", ["HORIZONTAL TABULATION SET"]⟩,
  ⟨0x89, "", ["HORIZONTAL TABULATION WITH JUSTIFICATION"]⟩, ⟨0x8A, "", ["VERTICAL TABULATION SET"]⟩,
  ⟨0x8B, "", ["PARTIAL LINE DOWN"]⟩, ⟨0x8C, "", ["PARTIAL LINE UP"]⟩, ⟨0x8D, "", ["REVERSE INDEX"]⟩,
  ⟨0x8E, "", ["SINGLE-SHIFT-2"]⟩, ⟨0x8F, "", ["SINGLE-SHIFT-3"]⟩, ⟨0x91, "", ["PRIVATE USE-1"]⟩,
  ⟨0x92, "", ["PRIVATE USE-2"]⟩, ⟨0x96, "", ["START OF PROTECTED AREA"]⟩,
  ⟨0x97, "", ["END OF PROTECTED AREA"]⟩]

/-- The first and the last code points of the ranges of unified ideographs. -/
def ideographs : List (Nat × Nat) := [
  (0x3400, 0x4DBF), (0x4E00, 0x9FFF), (0x20000, 0x2A6DF), (0x2A700, 0x2B738), (0x2B740, 0x2B81D),
  (0x2B820, 0x2CEA1), (0x2CEB0, 0x2EBE0), (0x30000, 0x3134A)]

/-- Names of the leading consonants of Hangul syllables. -/
def hangulLeads : List String :=
  ["G", "GG", "N", "D", "DD", "R", "M", "B", "BB", "S", "SS", "", "J", "JJ", "C", "K", "T", "P", "H"]

/-- Names of the vowels of Hangul syllables. -/
def hangulVowels : List String :=
  ["A", "AE", "YA", "YAE", "EO", "E", "YEO", "YE", "O", "WA", "WAE", "OE", "YO", "U", "WEO", "WE", "WI", "YU",
    "EU", "YI", "I"]

/-- Names of the trailing consonants of Hangul syllables, the first of them for none. -/
def hangulTails : List String :=
  ["", "G", "GG", "GS", "N", "NJ", "NH", "D", "L", "LG", "LM", "LB", "LS", "LT", "LP", "LH", "M", "B", "BS", "S",
    "SS", "NG", "J", "C", "K", "T", "P", "H"]

end Table

end PatternLexer.Text
