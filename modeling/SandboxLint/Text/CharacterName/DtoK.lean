/-!
The names of characters that begin with the letters D to K, as a tree of words.
-/

namespace SandboxLint.Text

/-- The words of the names, each with those that may follow it in brackets, many to a line. -/
def wordsDToK : List String :=
  [
    "DAGGER(. KNIFE WITH(LEFT(GUARD) RIGHT(GUARD))) DALET(SYMBOL) DANCER DANGO DARK(SHADE",
    "SUNGLASSES) DASH(SYMBOL WITH(LEFT(UPTURN))) DASHED(LOW(LINE) OVERLINE",
    "TRIANGLE-HEADED(RIGHTWARDS(ARROW))) DATA(LINK(ESCAPE)) DC1~4 DCS DEAF(PERSON)",
    "DECIDUOUS(TREE) DECIMAL(EXPONENT(SYMBOL) SEPARATOR(KEY(SYMBOL)))",
    "DECREASE(FONT(SIZE(SYMBOL))) DEER DEGREE(CELSIUS FAHRENHEIT SIGN) DEL DELETE DELIVERY(TRUCK)",
    "DELTA(EQUAL(TO)) DENTISTRY(SYMBOL(LIGHT(DOWN(AND(HORIZONTAL(. WITH(CIRCLE TRIANGLE WAVE))))",
    "UP(AND(HORIZONTAL(. WITH(CIRCLE TRIANGLE WAVE)))) VERTICAL(AND(BOTTOM(LEFT RIGHT) TOP(LEFT",
    "RIGHT) WAVE) WITH(CIRCLE TRIANGLE))))) DEPARTMENT(STORE) DERELICT(HOUSE(BUILDING))",
    "DESCENDING(NODE) DESERET(CAPITAL(LETTER(AY BEE CHEE DEE EF EL EM EN ENG ER ES ESH ETH EW GAY",
    "H JEE KAY LONG(A AH E I O OO) OI OW PEE SHORT(A AH E I O OO) TEE THEE VEE WU YEE ZEE ZHEE))",
    "SMALL(LETTER(AY BEE CHEE DEE EF EL EM EN ENG ER ES ESH ETH EW GAY H JEE KAY LONG(A AH E I O",
    "OO) OI OW PEE SHORT(A AH E I O OO) TEE THEE VEE WU YEE ZEE ZHEE))) DESERT(. ISLAND)",
    "DESKTOP(COMPUTER WINDOW) DEVANAGARI(ABBREVIATION(SIGN) ACUTE(ACCENT) CARET DANDA DIGIT(EIGHT",
    "FIVE FOUR NINE ONE SEVEN SIX THREE TWO ZERO) DOUBLE(DANDA) GAP(FILLER) GRAVE(ACCENT)",
    "HEADSTROKE JAIN(OM) LETTER(A AA AI AU AW AY BA BBA BHA CA CANDRA(A E O) CHA DA DDA DDDA",
    "DDDHA DDHA DHA E FA GA GGA GHA GHHA GLOTTAL(STOP) HA HEAVY(YA) I II JA JHA JJA KA KHA KHHA",
    "LA LLA LLLA MA MARWARI(DDA) NA NGA NNA NNNA NYA O OE OOE PA PHA QA RA RHA RRA SA SHA SHORT(A",
    "E O) SSA TA THA TTA TTHA U UE UU UUE VA VOCALIC(L LL R RR) YA YYA ZA ZHA) OM SIGN(ANUSVARA",
    "AVAGRAHA CANDRABINDU(. AVAGRAHA THREE TWO VIRAMA) DOUBLE(CANDRABINDU(VIRAMA))",
    "HIGH(SPACING(DOT)) INVERTED(CANDRABINDU) NUKTA PUSHPIKA SIDDHAM SPACING(CANDRABINDU) VIRAMA",
    "VISARGA) STRESS(SIGN(ANUDATTA UDATTA)) VOWEL(SIGN(AA AI AU AW AY CANDRA(E LONG(E) O) E I II",
    "O OE OOE PRISHTHAMATRA(E) SHORT(E O) U UE UU UUE VOCALIC(L LL R RR)))) DEVICE(CONTROL(FOUR",
    "ONE STRING THREE TWO)) DIAERESIS DIAMETER(SIGN) DIAMOND(OPERATOR SHAPE(WITH(A(DOT(INSIDE))))",
    "TARGET WITH(BOTTOM(HALF(BLACK)) LEFT(HALF(BLACK)) RIGHT(HALF(BLACK)) TOP(HALF(BLACK))))",
    "DIE(FACE-1~6) DIESEL(LOCOMOTIVE) DIFFERENCE(BETWEEN) DIGIT(EIGHT(. COMMA FULL(STOP)) FIVE(.",
    "COMMA FULL(STOP)) FOUR(. COMMA FULL(STOP)) NINE(. COMMA FULL(STOP)) ONE(. COMMA FULL(STOP))",
    "SEVEN(. COMMA FULL(STOP)) SIX(. COMMA FULL(STOP)) THREE(. COMMA FULL(STOP)) TWO(. COMMA",
    "FULL(STOP)) ZERO(. COMMA FULL(STOP))) DIGRAM(FOR(EARTH EARTHLY(HEAVEN HUMAN) GREATER(YANG",
    "YIN) HEAVENLY(EARTH) HUMAN(EARTH) LESSER(YANG YIN))) DIMENSION(ORIGIN)",
    "DINGBAT(CIRCLED(SANS-SERIF(DIGIT(EIGHT FIVE FOUR NINE ONE SEVEN SIX THREE TWO ZERO)",
    "NUMBER(TEN))) NEGATIVE(CIRCLED(DIGIT(EIGHT FIVE FOUR NINE ONE SEVEN SIX THREE TWO)",
    "NUMBER(TEN) SANS-SERIF(DIGIT(EIGHT FIVE FOUR NINE ONE SEVEN SIX THREE TWO ZERO)",
    "NUMBER(TEN))))) DIRECT(CURRENT(SYMBOL(FORM(TWO))) HIT) DISABLED(CAR)",
    "DISAPPOINTED(BUT(RELIEVED(FACE)) FACE) DISCONTINUOUS(UNDERLINE(SYMBOL)) DISGUISED(FACE)",
    "DITTO(MARK) DIVES(AKURU(DIGIT(EIGHT FIVE FOUR NINE ONE SEVEN SIX THREE TWO ZERO)",
    "DOUBLE(DANDA) END(OF(TEXT(MARK))) GAP(FILLER) INITIAL(RA) LETTER(A AA BA BHA CA CHA DA DDA",
    "DDHA DHA E GA GHA HA I II JA KA KHA LA LLA MA NA NGA NNA NYA O PA PHA RA SA SHA SSA TA THA",
    "TTA U UU VA YA YYA ZA) MEDIAL(RA YA) PREFIXED(NASAL(SIGN)) SIGN(ANUSVARA CANDRABINDU HALANTA",
    "NUKTA) VIRAMA VOWEL(SIGN(AA AI E I II O U UU)))) DIVIDES DIVING(MASK) DIVISION(SIGN SLASH",
    "TIMES) DIVORCE(SYMBOL) DIYA(LAMP) DIZZY(FACE SYMBOL) DLE DNA(DOUBLE(HELIX))",
    "DO(NOT(LITTER(SYMBOL))) DOCUMENT(. WITH(PICTURE TEXT(. AND(PICTURE)))) DODO",
    "DOES(NOT(CONTAIN(AS(MEMBER NORMAL(SUBGROUP(. OR(EQUAL))))) DIVIDE(.",
    "WITH(REVERSED(NEGATION(SLASH)))) FORCE PRECEDE(. OR(EQUAL)) PROVE SUCCEED(. OR(EQUAL))))",
    "DOG(. FACE) DOGRA(ABBREVIATION(SIGN) LETTER(A AA AI AU BA BHA CA CHA DA DDA DDHA DHA E GA",
    "GHA HA I II JA JHA KA KHA LA MA NA NGA NNA NYA O PA PHA RA RRA SA SHA SSA TA THA TTA TTHA U",
    "UU VA YA) SIGN(ANUSVARA NUKTA VIRAMA VISARGA) VOWEL(SIGN(AA AI AU E I II O U UU VOCALIC(R",
    "RR)))) DOLLAR(SIGN) DOLPHIN DOMINO(TILE(HORIZONTAL(BACK) HORIZONTAL-00-00~06",
    "HORIZONTAL-01-00~06 HORIZONTAL-02-00~06 HORIZONTAL-03-00~06 HORIZONTAL-04-00~06",
    "HORIZONTAL-05-00~06 HORIZONTAL-06-00~06 VERTICAL(BACK) VERTICAL-00-00~06 VERTICAL-01-00~06",
    "VERTICAL-02-00~06 VERTICAL-03-00~06 VERTICAL-04-00~06 VERTICAL-05-00~06 VERTICAL-06-00~06))",
    "DONG(SIGN) DOOR DOT(ABOVE MINUS OPERATOR PLUS) DOTTED(CIRCLE CROSS FENCE LINE(FACE) OBELOS",
    "RIGHT-POINTING(ANGLE) SOLIDUS SQUARE TRANSPOSITION(MARKER)) DOUBLE(ACUTE(ACCENT)",
    "CIRCLED(DIGIT(EIGHT FIVE FOUR NINE ONE SEVEN SIX THREE TWO) NUMBER(TEN)) COLON(EQUAL)",
    "CURLY(LOOP) DAGGER DOWN(TACK) EXCLAMATION(MARK) HIGH-REVERSED-9(QUOTATION(MARK)) HYPHEN",
    "INTEGRAL INTERSECTION LEFT(ARC(GREATER-THAN(BRACKET))) LOGICAL(AND OR) LOW(LINE)",
    "LOW-9(QUOTATION(MARK)) LOW-REVERSED-9(QUOTATION(MARK)) NESTED(GREATER-THAN LESS-THAN(.",
    "WITH(UNDERBAR))) OBLIQUE(HYPHEN) PLUS PRECEDES PRIME(. QUOTATION(MARK)) QUESTION(MARK)",
    "RIGHT(ARC(LESS-THAN(BRACKET))) SOLIDUS(OPERATOR) SQUARE(INTERSECTION UNION) STACKED(COMMA)",
    "STROKE(NOT(SIGN)) SUBSET SUCCEEDS SUPERSET SUSPENSION(MARK) UNION UP(TACK) VERTICAL(BAR(.",
    "DOUBLE(LEFT(TURNSTILE) RIGHT(TURNSTILE)) LEFT(TURNSTILE)) LINE) WAVY(OVERLINE))",
    "DOUBLE-ENDED(MULTIMAP) DOUBLE-LINE(EQUAL(TO(OR(GREATER-THAN LESS-THAN)))",
    "SLANTED(EQUAL(TO(OR(GREATER-THAN LESS-THAN))) GREATER-THAN(OR(EQUAL(TO)))",
    "LESS-THAN(OR(EQUAL(TO))))) DOUBLE-STRUCK(CAPITAL(C GAMMA H N P PI Q R Z) ITALIC(CAPITAL(D)",
    "SMALL(D E I J)) N-ARY(SUMMATION) SMALL(GAMMA PI)) DOUBLED(FEMALE(SIGN) MALE(SIGN) SYMBOL)",
    "DOUGHNUT DOVE(OF(PEACE)) DOWN(ARROWHEAD FISH(TAIL) RIGHT(DIAGONAL(ELLIPSIS)) TACK(.",
    "WITH(CIRCLE(BELOW)))) DOWN-POINTING(RED(TRIANGLE) SMALL(RED(TRIANGLE))",
    "TRIANGLE(WITH(LEFT(HALF(BLACK)) RIGHT(HALF(BLACK))))) DOWNWARD(FACING(HOOK(. WITH(DOT))",
    "NOTCHED(HOOK(. WITH(DOT))))) DOWNWARDS(ANCORA ARROW(. AND(RIGHT(ONE(EIGHTH(BLOCK))))",
    "FROM(BAR) LEFTWARDS(OF(UPWARDS(ARROW))) TO(BAR) WITH(CORNER(LEFTWARDS) DOUBLE(STROKE)",
    "EQUILATERAL(ARROWHEAD) HORIZONTAL(STROKE) LARGE(TRIANGLE(ARROWHEAD))",
    "MEDIUM(TRIANGLE(ARROWHEAD)) NOTCHED(TAIL) SMALL(EQUILATERAL(ARROWHEAD) TRIANGLE(ARROWHEAD))",
    "TIP(LEFTWARDS RIGHTWARDS))) BLACK(ARROW CIRCLED(WHITE(ARROW))) COMPRESSED(ARROW)",
    "DASHED(ARROW) DOUBLE(ARROW) FINGER-POST(ARROW)",
    "HARPOON(WITH(BARB(LEFT(BESIDE(DOWNWARDS(HARPOON(WITH(BARB(RIGHT))))",
    "UPWARDS(HARPOON(WITH(BARB(RIGHT))))) FROM(BAR) TO(BAR)) LEFTWARDS RIGHT(FROM(BAR) TO(BAR))",
    "RIGHTWARDS))) HEAVY(ARROW COMPRESSED(ARROW)) PAIRED(ARROWS) QUADRUPLE(ARROW) ROCKET",
    "SANS-SERIF(ARROW) SQUARED(ARROW) TRIANGLE(ARROWHEAD) TRIANGLE-HEADED(ARROW(.",
    "LEFTWARDS(OF(UPWARDS(TRIANGLE-HEADED(ARROW)))) TO(BAR) WITH(BOLD(SHAFT)",
    "DOUBLE(HORIZONTAL(STROKE)) HEAVY(SHAFT) LONG(TIP(LEFTWARDS RIGHTWARDS)) MEDIUM(SHAFT)",
    "NARROW(SHAFT) VERY(HEAVY(SHAFT)))) DASHED(ARROW) PAIRED(ARROWS) ZIGZAG(ARROW)) TRIPLE(ARROW)",
    "TWO(HEADED(ARROW)) TWO-HEADED(ARROW(WITH(TRIANGLE(ARROWHEADS)))) WHITE(ARROW(.",
    "WITHIN(TRIANGLE(ARROWHEAD)))) ZIGZAG(ARROW)) DRACHMA(SIGN)",
    "DRAFTING(POINT(RIGHTWARDS(ARROW))) DRAGON(. FACE) DRESS DRIVE(SLOW(SIGN)) DROMEDARY(CAMEL)",
    "DROOLING(FACE) DROP(OF(BLOOD)) DROPLET DRUM(WITH(DRUMSTICKS)) DUCK DUMPLING",
    "DUPLOYAN(AFFIX(ATTACHED(E(HOOK) I(HOOK) LEFT-TO-RIGHT(SECANT) SECANT TAIL TANGENT(. HOOK))",
    "HIGH(ACUTE CIRCLE DOT GRAVE LINE LONG(GRAVE) TIGHT(ACUTE) VERTICAL(. SECANT) WAVE)",
    "LEFT(HORIZONTAL(SECANT)) LOW(ACUTE ARROW CIRCLE DOT GRAVE LINE LONG(GRAVE) TIGHT(ACUTE)",
    "VERTICAL(. SECANT) WAVE) MID(HORIZONTAL(SECANT) VERTICAL(SECANT)) RIGHT(HORIZONTAL(SECANT)))",
    "DOUBLE(MARK) LETTER(A AOU B D(. S) DH E EE EU F(. N) G(. R(S)) H HL I IE J(. M(. S) N(. S)",
    "S(. WITH(DOT)) WITH(DOT DOTS(INSIDE(AND(ABOVE))))) K(. M R(S)) KK L LH LONG(I U) M(. N(. S)",
    "S WITH(DOT)) N(. M(. S) S WITH(DOT)) NASAL(A I O U) O OA OOH OU OW P(. N) PERNIN(AM AN) R(.",
    "S) RH ROMANIAN(I U) S(. J(. S) K(. R) M N P(. R) S T(. R) WITH(DOT(. BELOW))) SHORT(I)",
    "SLOAN(AN DH EE EH EN J ON OW U) T(. R(S) S) TH U(. N) UH UI V VOCALIC(M) W(. R) WA WEI WH WI",
    "WO WOW X XW YE) PUNCTUATION(CHINOOK(FULL(STOP))) SIGN(O(WITH(CROSS)))",
    "THICK(LETTER(SELECTOR))) DVD E-MAIL(SYMBOL) EAGLE EAR(. OF(MAIZE RICE) WITH(HEARING(AID)))",
    "EARTH(. GLOBE(AMERICAS ASIA-AUSTRALIA EUROPE-AFRICA) GROUND) EAST(SYRIAC(CROSS))",
    "EDITORIAL(CORONIS) EGG EGYPTIAN(HIEROGLYPH(A001~070 A005A A006A A006B A014A A017A A032A",
    "A040A A042A A043A A045A AA001~032 AA007A AA007B B001~009 B005A BEGIN(SEGMENT) C001~024 C002A",
    "C002B C002C C010A D001~067 D008A D027A D031A D034A D046A D048A D050A D050B D050C D050D D050E",
    "D050F D050G D050H D050I D052A D054A D067A D067B D067C D067D D067E D067F D067G D067H E001~034",
    "E008A E009A E016A E017A E020A E028A E034A E036~038 END(SEGMENT) F001A F001~053 F013A F021A",
    "F031A F037A F038A F045A F046A F047A F051A F051B F051C G001~054 G006A G007A G007B G011A G020A",
    "G026A G036A G037A G043A G045A H001~008 H006A HORIZONTAL(JOINER) I001~015 I005A I009A I010A",
    "I011A INSERT(AT(BOTTOM(END START) TOP(END START))) K001~008 L001~008 L002A L006A M001A M001B",
    "M001~044 M003A M010A M012A M012B M012C M012D M012E M012F M012G M012H M015A M016A M017A M022A",
    "M024A M028A M031A M033A M033B M040A N001~042 N018A N018B N025A N033A N034A N035A N037A",
    "NL001~020 NL005A NL017A NU001~022 NU010A NU011A NU018A NU022A O001A O001~051 O005A O006A",
    "O006B O006C O006D O006E O006F O010A O010B O010C O019A O020A O024A O025A O029A O030A O033A",
    "O036A O036B O036C O036D O050A O050B OVERLAY(MIDDLE) P001A P001~011 P003A Q001~007 R001~029",
    "R002A R003A R003B R010A R016A S001~046 S002A S006A S014A S014B S017A S026A S026B S035A",
    "T001~036 T003A T007A T008A T009A T011A T016A T032A T033A U001~042 U006A U006B U023A U029A",
    "U032A V001A V001B V001C V001D V001E V001F V001G V001H V001I V001~040 V002A V007A V007B V011A",
    "V011B V011C V012A V012B V020A V020B V020C V020D V020E V020F V020G V020H V020I V020J V020K",
    "V020L V023A V028A V029A V030A V031A V033A V037A V040A VERTICAL(JOINER) W001~025 W003A W009A",
    "W010A W014A W017A W018A W024A X001~008 X004A X004B X006A X008A Y001A Y001~008 Z001~016 Z002A",
    "Z002B Z002C Z002D Z003A Z003B Z004A Z005A Z015A Z015B Z015C Z015D Z015E Z015F Z015G Z015H",
    "Z015I Z016A Z016B Z016C Z016D Z016E Z016F Z016G Z016H))",
    "EIGHT(PETALLED(OUTLINED(BLACK(FLORETTE))) POINTED(BLACK(STAR) PINWHEEL(STAR)",
    "RECTILINEAR(BLACK(STAR))) SPOKED(ASTERISK) TEARDROP-SPOKED(PROPELLER(ASTERISK)))",
    "EIGHTH(NOTE) EJECT(SYMBOL) ELBASAN(LETTER(A BE CE CHE DE DHE E EI FE GE GHAMMA GHE GJE HE I",
    "JE KE KHE LE LLE ME NA NDE NE NJE O PE QE RE RRE SE SHE TE THE U VE XE Y ZE ZHE))",
    "ELECTRIC(ARROW LIGHT(BULB) PLUG TORCH) ELECTRICAL(INTERSECTION) ELEMENT(OF(.",
    "OPENING(DOWNWARDS UPWARDS) WITH(DOT(ABOVE) LONG(HORIZONTAL(STROKE)) OVERBAR",
    "TWO(HORIZONTAL(STROKES)) UNDERBAR VERTICAL(BAR(AT(END(OF(HORIZONTAL(STROKE))))))))) ELEPHANT",
    "ELEVATOR ELF ELYMAIC(LETTER(ALEPH AYIN BETH DALETH GIMEL HE HETH KAPH LAMEDH MEM NUN PE QOPH",
    "RESH SADHE SAMEKH SHIN TAW TETH WAW YODH ZAYIN) LIGATURE(ZAYIN-YODH)) EM(DASH QUAD SPACE)",
    "EMOJI(COMPONENT(BALD CURLY(HAIR) RED(HAIR) WHITE(HAIR)) MODIFIER(FITZPATRICK(TYPE-1-2",
    "TYPE-3~6))) EMPHASIS(SYMBOL) EMPTY(DOCUMENT NEST NOTE(. PAD PAGE) PAGE PAGES SET(.",
    "WITH(LEFT(ARROW(ABOVE)) OVERBAR RIGHT(ARROW(ABOVE)) SMALL(CIRCLE(ABOVE))))) EN(DASH QUAD",
    "SPACE) END(OF(GUARDED(AREA) LINE MEDIUM PROOF PROTECTED(AREA) SELECTED(AREA) TEXT",
    "TRANSMISSION(. BLOCK)) WITH(LEFTWARDS(ARROW(ABOVE)))) ENQ ENQUIRY ENTER(SYMBOL) ENVELOPE(.",
    "WITH(DOWNWARDS(ARROW(ABOVE)) LIGHTNING)) EOL EOM EOT EPA EQUAL(AND(PARALLEL(TO))",
    "TO(BY(DEFINITION) OR(GREATER-THAN LESS-THAN PRECEDES SUCCEEDS))) EQUALS(COLON SIGN(.",
    "ABOVE(LEFTWARDS(ARROW) PLUS(SIGN) RIGHTWARDS(ARROW) TILDE(OPERATOR)) AND(SLANTED(PARALLEL(.",
    "WITH(TILDE(ABOVE))))) WITH(BUMPY(ABOVE) DOT(BELOW) INFINITY(BELOW)",
    "TWO(DOTS(ABOVE(AND(TWO(DOTS(BELOW)))))))) WITH(ASTERISK)) EQUIANGULAR(TO) EQUIVALENT(TO",
    "WITH(FOUR(DOTS(ABOVE)))) ERASE(TO(THE(LEFT RIGHT))) ERIS(FORM(ONE TWO))",
    "ERROR-BARRED(BLACK(CIRCLE DIAMOND SQUARE) WHITE(CIRCLE DIAMOND SQUARE)) ESA ESC ESCAPE",
    "ESTIMATED(SYMBOL) ESTIMATES ETB ETHIOPIC(COLON COMBINING(GEMINATION(AND(VOWEL(LENGTH(MARK)))",
    "MARK) VOWEL(LENGTH(MARK))) COMMA DIGIT(EIGHT FIVE FOUR NINE ONE SEVEN SIX THREE TWO)",
    "FULL(STOP) NUMBER(EIGHTY FIFTY FORTY HUNDRED NINETY SEVENTY SIXTY TEN(. THOUSAND) THIRTY",
    "TWENTY) PARAGRAPH(SEPARATOR) PREFACE(COLON) QUESTION(MARK) SECTION(MARK) SEMICOLON",
    "SYLLABLE(BA BAA BBA BBAA BBE BBEE BBI BBO BBU BE BEE BI BO BOA BU BWA BWE BWEE BWI CA CAA",
    "CCA CCAA CCE CCEE CCHA CCHAA CCHE CCHEE CCHHA CCHHAA CCHHE CCHHEE CCHHI CCHHO CCHHU CCHI",
    "CCHO CCHU CCI CCO CCU CE CEE CHA CHAA CHE CHEE CHI CHO CHOA CHU CHWA CI CO COA CU CWA DA DAA",
    "DDA DDAA DDE DDEE DDHAA DDHE DDHEE DDHI DDHO DDHU DDI DDO DDOA DDU DDWA DE DEE DI DO DOA DU",
    "DWA DZAA DZE DZEE DZI DZO DZU FA FAA FE FEE FI FO FU FWA FWE FWEE FWI FYA GA GAA GE GEE GGA",
    "GGAA GGE GGEE GGI GGO GGU GGWA GGWAA GGWE GGWEE GGWI GI GLOTTAL(A AA E EE I O OA U WA) GO",
    "GOA GU GURAGE(BWEE BWI FWEE FWI GWE GWEE GWI HHWA KWE KWEE KWI MWEE MWI PWEE PWI QWE QWEE",
    "QWI) GWA GWAA GWE GWEE GWI GYA GYAA GYE GYEE GYI GYO GYU HA HAA HE HEE HHA HHAA HHE HHEE HHI",
    "HHO HHU HHWA HHWE HHWEE HHWI HHYA HHYAA HHYE HHYEE HHYI HHYO HHYU HI HO HOA HU JA JAA JE JEE",
    "JI JO JOA JU JWA KA KAA KE KEE KI KO KOA KU KWA KWAA KWE KWEE KWI KXA KXAA KXE KXEE KXI KXO",
    "KXU KXWA KXWAA KXWE KXWEE KXWI KYA KYAA KYE KYEE KYI KYO KYU LA LAA LE LEE LI LO LOA LU LWA",
    "MA MAA ME MEE MI MO MOA MU MWA MWE MWEE MWI MYA NA NAA NE NEE NI NO NOA NU NWA NYA NYAA NYE",
    "NYEE NYI NYO NYOA NYU NYWA PA PAA PE PEE PHA PHAA PHARYNGEAL(A AA E EE I O U) PHE PHEE PHI",
    "PHO PHOA PHU PHWA PI PO POA PU PWA PWE PWEE PWI QA QAA QE QEE QHA QHAA QHE QHEE QHI QHO QHU",
    "QHWA QHWAA QHWE QHWEE QHWI QI QO QOA QU QWA QWAA QWE QWEE QWI QYA QYAA QYE QYEE QYI QYO QYU",
    "RA RAA RE REE RI RO ROA RU RWA RYA SA SAA SE SEBATBEIT(BWA FWA MWA PWA) SEE SHA SHAA SHE",
    "SHEE SHI SHO SHOA SHU SHWA SI SO SOA SSA SSAA SSE SSEE SSI SSO SSU SU SWA SZA SZAA SZE SZEE",
    "SZI SZO SZU SZWA TA TAA TE TEE THA THAA THE THEE THI THO THOA THU THWA TI TO TOA TSA TSAA",
    "TSE TSEE TSI TSO TSU TSWA TTHAA TTHE TTHEE TTHI TTHO TTHU TU TWA TZA TZAA TZE TZEE TZI TZO",
    "TZOA TZU VA VAA VE VEE VI VO VU VWA WA WAA WE WEE WI WO WOA WU XA XAA XE XEE XI XO XOA XU",
    "XWA XWAA XWE XWEE XWI XYA XYAA XYE XYEE XYI XYO XYU YA YAA YE YEE YI YO YOA YU ZA ZAA ZE ZEE",
    "ZHA ZHAA ZHE ZHEE ZHI ZHO ZHU ZHWA ZI ZO ZOA ZU ZWA ZZA ZZAA ZZE ZZEE ZZI ZZO ZZU)",
    "TONAL(MARK(CHIRET DERET DERET-HIDET DIFAT HIDET KENAT KURT RIKRIK SHORT(RIKRIK) YIZET))",
    "WORDSPACE) ETX EULER(CONSTANT) EURO(SIGN) EURO-CURRENCY(SIGN) EUROPEAN(CASTLE POST(OFFICE))",
    "EVERGREEN(TREE) EXCESS EXCLAMATION(MARK QUESTION(MARK)) EXPRESSIONLESS(FACE)",
    "EXTENDED(ARABIC-INDIC(DIGIT(EIGHT FIVE FOUR NINE ONE SEVEN SIX THREE TWO ZERO)))",
    "EXTRATERRESTRIAL(ALIEN) EXTREMELY(HEAVY(FIVE(SPOKED(ASTERISK)) GREEK(CROSS) SALTIRE",
    "SIX(SPOKED(ASTERISK)) WHITE(CIRCLE SQUARE))) EYE EYEGLASSES EYES FACE(HOLDING(BACK(TEARS))",
    "MASSAGE PALM SAVOURING(DELICIOUS(FOOD)) SCREAMING(IN(FEAR)) THROWING(A(KISS))",
    "WITH(COLD(SWEAT) COWBOY(HAT) DIAGONAL(MOUTH) FINGER(COVERING(CLOSED(LIPS))) HEAD-BANDAGE",
    "LOOK(OF(TRIUMPH)) MEDICAL(MASK) MONOCLE NO(GOOD(GESTURE)) OK(GESTURE) ONE(EYEBROW(RAISED))",
    "OPEN(EYES(AND(HAND(OVER(MOUTH)))) MOUTH(. AND(COLD(SWEAT)) VOMITING))",
    "PARTY(HORN(AND(PARTY(HAT)))) PEEKING(EYE) PLEADING(EYES) ROLLING(EYES) STUCK-OUT(TONGUE(.",
    "AND(TIGHTLY-CLOSED(EYES) WINKING(EYE)))) TEARS(OF(JOY)) THERMOMETER",
    "UNEVEN(EYES(AND(WAVY(MOUTH))))) WITHOUT(MOUTH)) FACSIMILE(SIGN) FACTORY FAIRY FALAFEL",
    "FALLEN(LEAF) FALLING(DIAGONAL(CROSSING(NORTH(EAST(ARROW)) RISING(DIAGONAL))",
    "IN(WHITE(CIRCLE(IN(BLACK(SQUARE))))))) FAMILY FARSI(SYMBOL) FATHER(CHRISTMAS) FAX(ICON",
    "MACHINE) FEARFUL(FACE) FEATHER FEMALE(SIGN) FEMININE(ORDINAL(INDICATOR)) FENCER",
    "FERRIS(WHEEL) FERRY FF FIELD(HOCKEY(STICK(AND(BALL)))) FIGURE(DASH SPACE) FILE(CABINET",
    "FOLDER SEPARATOR) FILM(FRAMES PROJECTOR) FINITE(PART(INTEGRAL)) FIRE(. ENGINE EXTINGUISHER)",
    "FIRECRACKER FIREWORK(SPARKLER) FIREWORKS FIRST(PLACE(MEDAL) QUARTER(MOON(. SYMBOL",
    "WITH(FACE))) STRONG(ISOLATE)) FISH(. CAKE(WITH(SWIRL(DESIGN)))) FISHEYE",
    "FISHING(POLE(AND(FISH))) FISTED(HAND(SIGN)) FIVE(DOT(MARK PUNCTUATION)) FLAG(IN(HOLE))",
    "FLAMINGO FLAT(SHOE) FLATBREAD FLATNESS FLEUR-DE-LIS FLEXED(BICEPS) FLOPPY(DISK)",
    "FLORAL(HEART) FLOWER(. PLAYING(CARDS) PUNCTUATION(MARK)) FLUSHED(FACE) FLY FLYING(DISC",
    "ENVELOPE SAUCER) FOG FOGGY FOLDER FONDUE FOOT FOOTPRINTS FOR(ALL) FORCES FORK(AND(KNIFE(.",
    "WITH(PLATE)))) FORKED(PARAGRAPHOS) FORKING FORM(FEED) FORTUNE(COOKIE) FOUNTAIN",
    "FOUR(BALLOON-SPOKED(ASTERISK) CLUB-SPOKED(ASTERISK) CORNER(ARROWS(CIRCLING(ANTICLOCKWISE)))",
    "DOT(MARK PUNCTUATION) LEAF(CLOVER) POINTED(BLACK(STAR)) TEARDROP-SPOKED(ASTERISK))",
    "FOUR-PER-EM(SPACE) FOURTH(ROOT) FOX(FACE) FRACTION(NUMERATOR(ONE) SLASH) FRAME(WITH(AN(X)",
    "PICTURE TILES)) FREEZING(FACE) FRENCH(FRANC(SIGN) FRIES) FRIED(SHRIMP) FROG(FACE)",
    "FRONT-FACING(BABY(CHICK)) FRONT-TILTED(SHADOWED(WHITE(RIGHTWARDS(ARROW)))) FROWN",
    "FROWNING(FACE(WITH(OPEN(MOUTH)))) FS FSI FUEL(PUMP) FULL(BLOCK MOON(SYMBOL WITH(FACE))",
    "OUTER(JOIN) STOP) FULLWIDTH(AMPERSAND APOSTROPHE ASTERISK BROKEN(BAR) CENT(SIGN)",
    "CIRCUMFLEX(ACCENT) COLON COMMA COMMERCIAL(AT) DIGIT(EIGHT FIVE FOUR NINE ONE SEVEN SIX THREE",
    "TWO ZERO) DOLLAR(SIGN) EQUALS(SIGN) EXCLAMATION(MARK) FULL(STOP) GRAVE(ACCENT)",
    "GREATER-THAN(SIGN) HYPHEN-MINUS LATIN(CAPITAL(LETTER(A B C D E F G H I J K L M N O P Q R S T",
    "U V W X Y Z)) SMALL(LETTER(A B C D E F G H I J K L M N O P Q R S T U V W X Y Z)))",
    "LEFT(CURLY(BRACKET) PARENTHESIS SQUARE(BRACKET) WHITE(PARENTHESIS)) LESS-THAN(SIGN)",
    "LOW(LINE) MACRON NOT(SIGN) NUMBER(SIGN) PERCENT(SIGN) PLUS(SIGN) POUND(SIGN) QUESTION(MARK)",
    "QUOTATION(MARK) REVERSE(SOLIDUS) RIGHT(CURLY(BRACKET) PARENTHESIS SQUARE(BRACKET)",
    "WHITE(PARENTHESIS)) SEMICOLON SOLIDUS TILDE VERTICAL(LINE) WON(SIGN) YEN(SIGN))",
    "FUNCTION(APPLICATION) FUNERAL(URN) FUSE FVS1~4 GAME(DIE) GARLIC GEAR(. WITH(HANDLES)",
    "WITHOUT(HUB)) GEM(STONE) GEMINI GENIE GEOMETRIC(PROPORTION) GEOMETRICALLY(EQUAL(TO)",
    "EQUIVALENT(TO)) GEORGIAN(CAPITAL(LETTER(AEN AN BAN CAN CHAR CHIN CIL DON EN GAN GHAN HAE HAR",
    "HE HIE HOE IN JHAN JIL KAN KHAR LAS MAN NAR ON PAR PHAR QAR RAE SAN SHIN TAN TAR UN VIN WE",
    "XAN YN ZEN ZHAR)) LETTER(AEN AIN AN BAN CAN CHAR CHIN CIL DON ELIFI EN FI GAN GHAN HAE HAR",
    "HARD(SIGN) HE HIE HOE IN JHAN JIL KAN KHAR LABIAL(SIGN) LAS MAN NAR ON PAR PHAR QAR RAE SAN",
    "SHIN TAN TAR TURNED(GAN) UN VIN WE XAN YN ZEN ZHAR) MTAVRULI(CAPITAL(LETTER(AEN AIN AN BAN",
    "CAN CHAR CHIN CIL DON ELIFI EN FI GAN GHAN HAE HAR HARD(SIGN) HE HIE HOE IN JHAN JIL KAN",
    "KHAR LABIAL(SIGN) LAS MAN NAR ON PAR PHAR QAR RAE SAN SHIN TAN TAR TURNED(GAN) UN VIN WE XAN",
    "YN ZEN ZHAR))) PARAGRAPH(SEPARATOR) SMALL(LETTER(AEN AN BAN CAN CHAR CHIN CIL DON EN GAN",
    "GHAN HAE HAR HE HIE HOE IN JHAN JIL KAN KHAR LAS MAN NAR ON PAR PHAR QAR RAE SAN SHIN TAN",
    "TAR UN VIN WE XAN YN ZEN ZHAR))) GERMAN(PENNY(SIGN)) GETA(MARK) GHOST GIMEL(SYMBOL)",
    "GIRAFFE(FACE) GIRL GIRLS(SYMBOL) GLAGOLITIC(CAPITAL(LETTER(AZU BIG(YUS) BUKY CAUDATE(CHRIVI)",
    "CHRIVI DJERVI DOBRO DZELO FITA FRITU GLAGOLI HERU I INITIAL(IZHE) IOTATED(BIG(YUS)",
    "SMALL(YUS)) IZHE IZHITSA KAKO LATINATE(MYSLITE) LJUDIJE MYSLITE NASHI ONU OTU PE POKOJI",
    "RITSI SHA SHTA SHTAPIC SLOVO SMALL(YUS(. WITH(TAIL))) SPIDERY(HA) TROKUTASTI(A) TSI TVRIDO",
    "UKU VEDE YATI YERI YERU YESTU YO YU ZEMLJA ZHIVETE)) SMALL(LETTER(AZU BIG(YUS) BUKY",
    "CAUDATE(CHRIVI) CHRIVI DJERVI DOBRO DZELO FITA FRITU GLAGOLI HERU I INITIAL(IZHE)",
    "IOTATED(BIG(YUS) SMALL(YUS)) IZHE IZHITSA KAKO LATINATE(MYSLITE) LJUDIJE MYSLITE NASHI ONU",
    "OTU PE POKOJI RITSI SHA SHTA SHTAPIC SLOVO SMALL(YUS(. WITH(TAIL))) SPIDERY(HA)",
    "TROKUTASTI(A) TSI TVRIDO UKU VEDE YATI YERI YERU YESTU YO YU ZEMLJA ZHIVETE)))",
    "GLASS(OF(MILK)) GLEICH(STARK) GLOBE(WITH(MERIDIANS)) GLOVES GLOWING(STAR) GOAL(NET) GOAT",
    "GOGGLES GOLFER GORILLA GOTHIC(LETTER(AHSA AIHVUS BAIRKAN DAGS EIS FAIHU GIBA HAGL HWAIR",
    "IGGWS IUJA JER KUSMA LAGUS MANNA NAUTHS NINE(HUNDRED) NINETY OTHAL PAIRTHRA QAIRTHRA RAIDA",
    "SAUIL TEIWS THIUTH URUS WINJA)) GRADUATION(CAP) GRANTHA(AU(LENGTH(MARK)) LETTER(A AA AI AU",
    "BA BHA CA CHA DA DDA DDHA DHA EE GA GHA HA I II JA JHA KA KHA LA LLA MA NA NGA NNA NYA OO PA",
    "PHA RA SA SHA SSA TA THA TTA TTHA U UU VA VEDIC(ANUSVARA DOUBLE(ANUSVARA)) VOCALIC(L LL R",
    "RR) YA) OM SIGN(ANUSVARA AVAGRAHA CANDRABINDU COMBINING(ANUSVARA(ABOVE)) NUKTA PLUTA VIRAMA",
    "VISARGA) VOWEL(SIGN(AA AI AU EE I II OO U UU VOCALIC(L LL R RR)))) GRAPES GRAVE(ACCENT)",
    "GREATER-THAN(ABOVE(DOUBLE-LINE(EQUAL(ABOVE(LESS-THAN))) LESS-THAN(ABOVE(DOUBLE-LINE(EQUAL)))",
    "RIGHTWARDS(ARROW) SIMILAR(ABOVE(LESS-THAN) OR(EQUAL))",
    "SLANTED(EQUAL(ABOVE(LESS-THAN(ABOVE(SLANTED(EQUAL))))))) AND(NOT(APPROXIMATE)",
    "SINGLE-LINE(NOT(EQUAL(TO)))) BESIDE(LESS-THAN) BUT(NOT(EQUAL(TO) EQUIVALENT(TO)))",
    "CLOSED(BY(CURVE(. ABOVE(SLANTED(EQUAL))))) EQUAL(TO(OR(LESS-THAN))) OR(APPROXIMATE EQUAL(TO)",
    "EQUIVALENT(TO) LESS-THAN SLANTED(EQUAL(TO(. WITH(DOT(ABOVE(. LEFT) INSIDE))))))",
    "OVER(EQUAL(TO)) OVERLAPPING(LESS-THAN) SIGN WITH(CIRCLE(INSIDE) DOT QUESTION(MARK(ABOVE))))",
    "GREEK(ACROPHONIC(ATTIC(FIFTY(. STATERS TALENTS THOUSAND(. STATERS)) FIVE(. HUNDRED(. STATERS",
    "TALENTS) STATERS TALENTS THOUSAND(. TALENTS)) ONE(DRACHMA HALF HUNDRED(STATERS TALENTS)",
    "QUARTER THOUSAND(STATERS TALENTS)) TEN(MNAS STATERS TALENTS THOUSAND(STATERS)))",
    "CARYSTIAN(FIVE(HUNDRED)) CYRENAIC(TWO(DRACHMAS)) DELPHIC(FIVE(MNAS))",
    "EPIDAUREAN(FIVE(HUNDRED) TWO(. DRACHMAS)) HERAEUM(ONE(PLETHRON)) HERMIONIAN(FIFTY ONE TEN)",
    "MESSENIAN(TEN) NAXIAN(FIVE(HUNDRED)) STRATIAN(FIFTY(MNAS)) THESPIAN(FIFTY FIVE(HUNDRED",
    "THOUSAND) ONE(. HUNDRED THOUSAND) TEN THIRTY THREE(HUNDRED) TWO) TROEZENIAN(FIFTY(.",
    "ALTERNATE(FORM)) FIVE(. HUNDRED) TEN(. ALTERNATE(FORM)))) ANO(TELEIA) AROURA(SIGN)",
    "ARTABE(SIGN) BETA(SYMBOL) CAPITAL(DOTTED(LUNATE(SIGMA(SYMBOL))) KAI(SYMBOL) LETTER(ALPHA(.",
    "WITH(DASIA(. AND(OXIA(. AND(PROSGEGRAMMENI)) PERISPOMENI(. AND(PROSGEGRAMMENI))",
    "PROSGEGRAMMENI VARIA(. AND(PROSGEGRAMMENI)))) MACRON OXIA PROSGEGRAMMENI PSILI(. AND(OXIA(.",
    "AND(PROSGEGRAMMENI)) PERISPOMENI(. AND(PROSGEGRAMMENI)) PROSGEGRAMMENI VARIA(.",
    "AND(PROSGEGRAMMENI)))) TONOS VARIA VRACHY)) ARCHAIC(SAMPI) BETA CHI DELTA EPSILON(.",
    "WITH(DASIA(. AND(OXIA VARIA)) OXIA PSILI(. AND(OXIA VARIA)) TONOS VARIA)) ETA(. WITH(DASIA(.",
    "AND(OXIA(. AND(PROSGEGRAMMENI)) PERISPOMENI(. AND(PROSGEGRAMMENI)) PROSGEGRAMMENI VARIA(.",
    "AND(PROSGEGRAMMENI)))) OXIA PROSGEGRAMMENI PSILI(. AND(OXIA(. AND(PROSGEGRAMMENI))",
    "PERISPOMENI(. AND(PROSGEGRAMMENI)) PROSGEGRAMMENI VARIA(. AND(PROSGEGRAMMENI)))) TONOS",
    "VARIA)) GAMMA HETA IOTA(. WITH(DASIA(. AND(OXIA PERISPOMENI VARIA)) DIALYTIKA MACRON OXIA",
    "PSILI(. AND(OXIA PERISPOMENI VARIA)) TONOS VARIA VRACHY)) KAPPA LAMDA MU NU OMEGA(.",
    "WITH(DASIA(. AND(OXIA(. AND(PROSGEGRAMMENI)) PERISPOMENI(. AND(PROSGEGRAMMENI))",
    "PROSGEGRAMMENI VARIA(. AND(PROSGEGRAMMENI)))) OXIA PROSGEGRAMMENI PSILI(. AND(OXIA(.",
    "AND(PROSGEGRAMMENI)) PERISPOMENI(. AND(PROSGEGRAMMENI)) PROSGEGRAMMENI VARIA(.",
    "AND(PROSGEGRAMMENI)))) TONOS VARIA)) OMICRON(. WITH(DASIA(. AND(OXIA VARIA)) OXIA PSILI(.",
    "AND(OXIA VARIA)) TONOS VARIA)) PAMPHYLIAN(DIGAMMA) PHI PI PSI RHO(. WITH(DASIA)) SAN SHO",
    "SIGMA TAU THETA UPSILON(. WITH(DASIA(. AND(OXIA PERISPOMENI VARIA)) DIALYTIKA MACRON OXIA",
    "TONOS VARIA VRACHY)) XI YOT ZETA) LUNATE(SIGMA(SYMBOL))",
    "REVERSED(DOTTED(LUNATE(SIGMA(SYMBOL))) LUNATE(SIGMA(SYMBOL))) THETA(SYMBOL)) DASIA(.",
    "AND(OXIA PERISPOMENI VARIA)) DIALYTIKA(AND(OXIA PERISPOMENI VARIA) TONOS) DRACHMA(SIGN)",
    "FIVE(OBOLS(SIGN)) FOUR(OBOLS(SIGN)) GRAMMA(SIGN) INDICTION(SIGN)",
    "INSTRUMENTAL(NOTATION(SYMBOL-1 SYMBOL-11~14 SYMBOL-17~19 SYMBOL-2 SYMBOL-23~27 SYMBOL-29",
    "SYMBOL-30 SYMBOL-32 SYMBOL-36~40 SYMBOL-4 SYMBOL-42 SYMBOL-43 SYMBOL-45 SYMBOL-47~54",
    "SYMBOL-5 SYMBOL-7 SYMBOL-8)) KAI(SYMBOL) KAPPA(SYMBOL) KORONIS KYATHOS(BASE(SIGN))",
    "LETTER(ARCHAIC(KOPPA) DIGAMMA KOPPA SAMPI SMALL(CAPITAL(GAMMA LAMDA OMEGA PI PSI RHO))",
    "STIGMA YOT) LITRA(SIGN) LOWER(NUMERAL(SIGN)) LUNATE(EPSILON(SYMBOL) SIGMA(SYMBOL))",
    "METRETES(SIGN) MUSICAL(LEIMMA) NUMERAL(SIGN) OBOL(SIGN) ONE(HALF(SIGN(. ALTERNATE(FORM)))",
    "QUARTER(SIGN)) OUNKIA(SIGN) OXIA PERISPOMENI PHI(SYMBOL) PI(SYMBOL) PROSGEGRAMMENI PSILI(.",
    "AND(OXIA PERISPOMENI VARIA)) QUESTION(MARK) REVERSED(LUNATE(EPSILON(SYMBOL))) RHO(SYMBOL",
    "WITH(STROKE(SYMBOL))) SINUSOID(SIGN) SMALL(DOTTED(LUNATE(SIGMA(SYMBOL))) LETTER(ALPHA(.",
    "WITH(DASIA(. AND(OXIA(. AND(YPOGEGRAMMENI)) PERISPOMENI(. AND(YPOGEGRAMMENI)) VARIA(.",
    "AND(YPOGEGRAMMENI)) YPOGEGRAMMENI)) MACRON OXIA(. AND(YPOGEGRAMMENI)) PERISPOMENI(.",
    "AND(YPOGEGRAMMENI)) PSILI(. AND(OXIA(. AND(YPOGEGRAMMENI)) PERISPOMENI(. AND(YPOGEGRAMMENI))",
    "VARIA(. AND(YPOGEGRAMMENI)) YPOGEGRAMMENI)) TONOS VARIA(. AND(YPOGEGRAMMENI)) VRACHY",
    "YPOGEGRAMMENI)) ARCHAIC(KOPPA SAMPI) BETA CHI DELTA DIGAMMA EPSILON(. WITH(DASIA(. AND(OXIA",
    "VARIA)) OXIA PSILI(. AND(OXIA VARIA)) TONOS VARIA)) ETA(. WITH(DASIA(. AND(OXIA(.",
    "AND(YPOGEGRAMMENI)) PERISPOMENI(. AND(YPOGEGRAMMENI)) VARIA(. AND(YPOGEGRAMMENI))",
    "YPOGEGRAMMENI)) OXIA(. AND(YPOGEGRAMMENI)) PERISPOMENI(. AND(YPOGEGRAMMENI)) PSILI(.",
    "AND(OXIA(. AND(YPOGEGRAMMENI)) PERISPOMENI(. AND(YPOGEGRAMMENI)) VARIA(. AND(YPOGEGRAMMENI))",
    "YPOGEGRAMMENI)) TONOS VARIA(. AND(YPOGEGRAMMENI)) YPOGEGRAMMENI)) FINAL(SIGMA) GAMMA HETA",
    "IOTA(. WITH(DASIA(. AND(OXIA PERISPOMENI VARIA)) DIALYTIKA(. AND(OXIA PERISPOMENI TONOS",
    "VARIA)) MACRON OXIA PERISPOMENI PSILI(. AND(OXIA PERISPOMENI VARIA)) TONOS VARIA VRACHY))",
    "KAPPA KOPPA LAMDA MU NU OMEGA(. WITH(DASIA(. AND(OXIA(. AND(YPOGEGRAMMENI)) PERISPOMENI(.",
    "AND(YPOGEGRAMMENI)) VARIA(. AND(YPOGEGRAMMENI)) YPOGEGRAMMENI)) OXIA(. AND(YPOGEGRAMMENI))",
    "PERISPOMENI(. AND(YPOGEGRAMMENI)) PSILI(. AND(OXIA(. AND(YPOGEGRAMMENI)) PERISPOMENI(.",
    "AND(YPOGEGRAMMENI)) VARIA(. AND(YPOGEGRAMMENI)) YPOGEGRAMMENI)) TONOS VARIA(.",
    "AND(YPOGEGRAMMENI)) YPOGEGRAMMENI)) OMICRON(. WITH(DASIA(. AND(OXIA VARIA)) OXIA PSILI(.",
    "AND(OXIA VARIA)) TONOS VARIA)) PAMPHYLIAN(DIGAMMA) PHI PI PSI RHO(. WITH(DASIA PSILI)) SAMPI",
    "SAN SHO SIGMA STIGMA TAU THETA UPSILON(. WITH(DASIA(. AND(OXIA PERISPOMENI VARIA))",
    "DIALYTIKA(. AND(OXIA PERISPOMENI TONOS VARIA)) MACRON OXIA PERISPOMENI PSILI(. AND(OXIA",
    "PERISPOMENI VARIA)) TONOS VARIA VRACHY)) XI ZETA) REVERSED(DOTTED(LUNATE(SIGMA(SYMBOL)))",
    "LUNATE(SIGMA(SYMBOL)))) SUBSCRIPT(SMALL(LETTER(BETA CHI GAMMA PHI RHO))) SYMBOL(TAU(RHO))",
    "TALENT(SIGN) THETA(SYMBOL) THREE(OBOLS(SIGN) QUARTERS(SIGN)) TONOS TRYBLION(BASE(SIGN))",
    "TWO(OBOLS(SIGN) THIRDS(SIGN)) UPSILON(WITH(ACUTE(AND(HOOK(SYMBOL)))",
    "DIAERESIS(AND(HOOK(SYMBOL))) HOOK(SYMBOL))) VARIA VOCAL(NOTATION(SYMBOL-10~24 SYMBOL-1~9",
    "SYMBOL-50~54)) XESTES(SIGN) YEAR(SIGN) YPOGEGRAMMENI ZERO(SIGN)) GREEN(APPLE BOOK HEART",
    "SALAD) GRIMACING(FACE) GRINNING(CAT(FACE(WITH(SMILING(EYES)))) FACE(.",
    "WITH(ONE(LARGE(AND(ONE(SMALL(EYE))))) SMILING(EYES) STAR(EYES)))) GROUP(MARK SEPARATOR)",
    "GROWING(HEART) GS GUARANI(SIGN) GUARDSMAN GUIDE(DOG) GUITAR GUJARATI(ABBREVIATION(SIGN)",
    "DIGIT(EIGHT FIVE FOUR NINE ONE SEVEN SIX THREE TWO ZERO) LETTER(A AA AI AU BA BHA CA CHA DA",
    "DDA DDHA DHA E GA GHA HA I II JA JHA KA KHA LA LLA MA NA NGA NNA NYA O PA PHA RA SA SHA SSA",
    "TA THA TTA TTHA U UU VA VOCALIC(L LL R RR) YA ZHA) OM RUPEE(SIGN) SIGN(ANUSVARA AVAGRAHA",
    "CANDRABINDU CIRCLE(NUKTA(ABOVE)) MADDAH NUKTA SHADDA SUKUN THREE-DOT(NUKTA(ABOVE))",
    "TWO-CIRCLE(NUKTA(ABOVE)) VIRAMA VISARGA) VOWEL(CANDRA(E O) SIGN(AA AI AU CANDRA(E O) E I II",
    "O U UU VOCALIC(L LL R RR)))) GUNJALA(GONDI(DIGIT(EIGHT FIVE FOUR NINE ONE SEVEN SIX THREE",
    "TWO ZERO) LETTER(A AA AI AU BA BHA CA CHA DA DDA DDHA DHA EE GA GHA HA I II JA JHA KA KHA LA",
    "LLA MA NA NGA OO PA PHA RA SA TA THA TTA TTHA U UU VA YA) OM SIGN(ANUSVARA VISARGA) VIRAMA",
    "VOWEL(SIGN(AA AI AU EE I II OO U UU)))) GURMUKHI(ABBREVIATION(SIGN) ADDAK DIGIT(EIGHT FIVE",
    "FOUR NINE ONE SEVEN SIX THREE TWO ZERO) EK(ONKAR) IRI LETTER(A AA AI AU BA BHA CA CHA DA DDA",
    "DDHA DHA EE FA GA GHA GHHA HA I II JA JHA KA KHA KHHA LA LLA MA NA NGA NNA NYA OO PA PHA RA",
    "RRA SA SHA TA THA TTA TTHA U UU VA YA ZA) SIGN(ADAK(BINDI) BINDI NUKTA UDAAT VIRAMA VISARGA",
    "YAKASH) TIPPI URA VOWEL(SIGN(AA AI AU EE I II OO U UU))) HADES HAIR(SPACE) HAIRCUT",
    "HALFWIDTH(BLACK(SQUARE) DOWNWARDS(ARROW) FORMS(LIGHT(VERTICAL)) HANGUL(FILLER LETTER(A AE",
    "CHIEUCH CIEUC E EO EU HIEUH I IEUNG KHIEUKH KIYEOK KIYEOK-SIOS MIEUM NIEUN NIEUN-CIEUC",
    "NIEUN-HIEUH O OE PHIEUPH PIEUP PIEUP-SIOS RIEUL RIEUL-HIEUH RIEUL-KIYEOK RIEUL-MIEUM",
    "RIEUL-PHIEUPH RIEUL-PIEUP RIEUL-SIOS RIEUL-THIEUTH SIOS SSANGCIEUC SSANGKIYEOK SSANGPIEUP",
    "SSANGSIOS SSANGTIKEUT THIEUTH TIKEUT U WA WAE WE WEO WI YA YAE YE YEO YI YO YU))",
    "IDEOGRAPHIC(COMMA FULL(STOP)) KATAKANA(LETTER(A E HA HE HI HO HU I KA KE KI KO KU MA ME MI",
    "MO MU N NA NE NI NO NU O RA RE RI RO RU SA SE SI SMALL(A E I O TU U YA YO YU) SO SU TA TE TI",
    "TO TU U WA WO YA YO YU) MIDDLE(DOT) SEMI-VOICED(SOUND(MARK)) VOICED(SOUND(MARK)))",
    "KATAKANA-HIRAGANA(PROLONGED(SOUND(MARK))) LEFT(CORNER(BRACKET)) LEFTWARDS(ARROW)",
    "RIGHT(CORNER(BRACKET)) RIGHTWARDS(ARROW) UPWARDS(ARROW) WHITE(CIRCLE)) HAMBURGER HAMMER(.",
    "AND(PICK SICKLE WRENCH)) HAMSA HAMSTER(FACE) HAND(WITH(INDEX(AND(MIDDLE(FINGERS(CROSSED)))",
    "FINGER(AND(THUMB(CROSSED)))))) HANDBAG HANDBALL HANDSHAKE HANGUL(CHOSEONG(CEONGCHIEUMCHIEUCH",
    "CEONGCHIEUMCIEUC CEONGCHIEUMSIOS CEONGCHIEUMSSANGCIEUC CEONGCHIEUMSSANGSIOS CHIEUCH",
    "CHIEUCH-HIEUH CHIEUCH-KHIEUKH CHITUEUMCHIEUCH CHITUEUMCIEUC CHITUEUMSIOS CHITUEUMSSANGCIEUC",
    "CHITUEUMSSANGSIOS CIEUC CIEUC-IEUNG FILLER HIEUH HIEUH-SIOS IEUNG IEUNG-CHIEUCH IEUNG-CIEUC",
    "IEUNG-HIEUH IEUNG-KIYEOK IEUNG-MIEUM IEUNG-PANSIOS IEUNG-PHIEUPH IEUNG-PIEUP IEUNG-RIEUL",
    "IEUNG-SIOS IEUNG-THIEUTH IEUNG-TIKEUT KAPYEOUNMIEUM KAPYEOUNPHIEUPH KAPYEOUNPIEUP",
    "KAPYEOUNRIEUL KAPYEOUNSSANGPIEUP KHIEUKH KIYEOK KIYEOK-TIKEUT MIEUM MIEUM-KIYEOK MIEUM-PIEUP",
    "MIEUM-SIOS MIEUM-TIKEUT NIEUN NIEUN-CIEUC NIEUN-HIEUH NIEUN-KIYEOK NIEUN-PIEUP NIEUN-SIOS",
    "NIEUN-TIKEUT PANSIOS PHIEUPH PHIEUPH-HIEUH PHIEUPH-PIEUP PIEUP PIEUP-CHIEUCH PIEUP-CIEUC",
    "PIEUP-HIEUH PIEUP-KHIEUKH PIEUP-KIYEOK PIEUP-NIEUN PIEUP-PHIEUPH PIEUP-SIOS PIEUP-SIOS-CIEUC",
    "PIEUP-SIOS-KIYEOK PIEUP-SIOS-PIEUP PIEUP-SIOS-THIEUTH PIEUP-SIOS-TIKEUT PIEUP-SSANGSIOS",
    "PIEUP-THIEUTH PIEUP-TIKEUT RIEUL RIEUL-CIEUC RIEUL-HIEUH RIEUL-KAPYEOUNPIEUP RIEUL-KHIEUKH",
    "RIEUL-KIYEOK RIEUL-MIEUM RIEUL-NIEUN RIEUL-PIEUP RIEUL-SIOS RIEUL-SSANGKIYEOK",
    "RIEUL-SSANGPIEUP RIEUL-SSANGTIKEUT RIEUL-TIKEUT SIOS SIOS-CHIEUCH SIOS-CIEUC SIOS-HIEUH",
    "SIOS-IEUNG SIOS-KHIEUKH SIOS-KIYEOK SIOS-MIEUM SIOS-NIEUN SIOS-PHIEUPH SIOS-PIEUP",
    "SIOS-PIEUP-KIYEOK SIOS-RIEUL SIOS-SSANGSIOS SIOS-THIEUTH SIOS-TIKEUT SSANGCIEUC",
    "SSANGCIEUC-HIEUH SSANGHIEUH SSANGIEUNG SSANGKIYEOK SSANGNIEUN SSANGPIEUP SSANGRIEUL",
    "SSANGSIOS SSANGSIOS-PIEUP SSANGTHIEUTH SSANGTIKEUT SSANGYEORINHIEUH THIEUTH TIKEUT",
    "TIKEUT-CIEUC TIKEUT-KIYEOK TIKEUT-MIEUM TIKEUT-PIEUP TIKEUT-RIEUL TIKEUT-SIOS YEORINHIEUH",
    "YESIEUNG) DOUBLE(DOT(TONE(MARK))) FILLER JONGSEONG(CHIEUCH CIEUC CIEUC-PIEUP",
    "CIEUC-SSANGPIEUP HIEUH HIEUH-MIEUM HIEUH-NIEUN HIEUH-PIEUP HIEUH-RIEUL IEUNG IEUNG-KHIEUKH",
    "IEUNG-KIYEOK IEUNG-SSANGKIYEOK KAPYEOUNMIEUM KAPYEOUNPHIEUPH KAPYEOUNPIEUP KAPYEOUNRIEUL",
    "KHIEUKH KIYEOK KIYEOK-CHIEUCH KIYEOK-HIEUH KIYEOK-KHIEUKH KIYEOK-NIEUN KIYEOK-PIEUP",
    "KIYEOK-RIEUL KIYEOK-SIOS KIYEOK-SIOS-KIYEOK MIEUM MIEUM-CHIEUCH MIEUM-CIEUC MIEUM-HIEUH",
    "MIEUM-KIYEOK MIEUM-NIEUN MIEUM-PANSIOS MIEUM-PIEUP MIEUM-PIEUP-SIOS MIEUM-RIEUL MIEUM-SIOS",
    "MIEUM-SSANGNIEUN MIEUM-SSANGSIOS NIEUN NIEUN-CHIEUCH NIEUN-CIEUC NIEUN-HIEUH NIEUN-KIYEOK",
    "NIEUN-PANSIOS NIEUN-RIEUL NIEUN-SIOS NIEUN-THIEUTH NIEUN-TIKEUT PANSIOS",
    "PANSIOS-KAPYEOUNPIEUP PANSIOS-PIEUP PHIEUPH PHIEUPH-PIEUP PHIEUPH-SIOS PHIEUPH-THIEUTH PIEUP",
    "PIEUP-CHIEUCH PIEUP-CIEUC PIEUP-HIEUH PIEUP-MIEUM PIEUP-PHIEUPH PIEUP-RIEUL",
    "PIEUP-RIEUL-PHIEUPH PIEUP-SIOS PIEUP-SIOS-TIKEUT PIEUP-TIKEUT RIEUL RIEUL-HIEUH",
    "RIEUL-KAPYEOUNPIEUP RIEUL-KHIEUKH RIEUL-KIYEOK RIEUL-KIYEOK-HIEUH RIEUL-KIYEOK-SIOS",
    "RIEUL-MIEUM RIEUL-MIEUM-HIEUH RIEUL-MIEUM-KIYEOK RIEUL-MIEUM-SIOS RIEUL-NIEUN RIEUL-PANSIOS",
    "RIEUL-PHIEUPH RIEUL-PIEUP RIEUL-PIEUP-HIEUH RIEUL-PIEUP-PHIEUPH RIEUL-PIEUP-SIOS",
    "RIEUL-PIEUP-TIKEUT RIEUL-SIOS RIEUL-SSANGKIYEOK RIEUL-SSANGSIOS RIEUL-THIEUTH RIEUL-TIKEUT",
    "RIEUL-TIKEUT-HIEUH RIEUL-YEORINHIEUH RIEUL-YEORINHIEUH-HIEUH RIEUL-YESIEUNG SIOS",
    "SIOS-CHIEUCH SIOS-CIEUC SIOS-HIEUH SIOS-KAPYEOUNPIEUP SIOS-KIYEOK SIOS-MIEUM SIOS-PANSIOS",
    "SIOS-PIEUP SIOS-RIEUL SIOS-THIEUTH SIOS-TIKEUT SSANGCIEUC SSANGIEUNG SSANGKIYEOK SSANGMIEUM",
    "SSANGNIEUN SSANGPIEUP SSANGRIEUL SSANGRIEUL-KHIEUKH SSANGSIOS SSANGSIOS-KIYEOK",
    "SSANGSIOS-TIKEUT SSANGTIKEUT SSANGTIKEUT-PIEUP SSANGYESIEUNG THIEUTH TIKEUT TIKEUT-CHIEUCH",
    "TIKEUT-CIEUC TIKEUT-KIYEOK TIKEUT-PIEUP TIKEUT-RIEUL TIKEUT-SIOS TIKEUT-SIOS-KIYEOK",
    "TIKEUT-THIEUTH YEORINHIEUH YESIEUNG YESIEUNG-HIEUH YESIEUNG-KHIEUKH YESIEUNG-KIYEOK",
    "YESIEUNG-MIEUM YESIEUNG-PANSIOS YESIEUNG-SIOS YESIEUNG-SSANGKIYEOK) JUNGSEONG(A A-EU A-O A-U",
    "AE ARAEA ARAEA-A ARAEA-E ARAEA-EO ARAEA-I ARAEA-U E EO EO-EU EO-O EO-U EU EU-A EU-E EU-EO",
    "EU-EU EU-O EU-U FILLER I I-A I-ARAEA I-EU I-I I-O I-O-I I-U I-YA I-YA-O I-YAE I-YE I-YEO",
    "I-YO I-YU O O-E O-EO O-O O-O-I O-U O-YA O-YAE O-YE O-YEO OE SSANGARAEA U U-A U-AE U-EO-EU",
    "U-I-I U-U U-YE U-YEO WA WAE WE WEO WI YA YA-O YA-U YA-YO YAE YE YEO YEO-O YEO-U YEO-YA YI",
    "YI-U YO YO-A YO-AE YO-EO YO-I YO-O YO-YA YO-YAE YO-YEO YU YU-A YU-AE YU-E YU-EO YU-I YU-O",
    "YU-U YU-YE YU-YEO) LETTER(A AE ARAEA ARAEAE CHIEUCH CIEUC E EO EU HIEUH I IEUNG",
    "KAPYEOUNMIEUM KAPYEOUNPHIEUPH KAPYEOUNPIEUP KAPYEOUNSSANGPIEUP KHIEUKH KIYEOK KIYEOK-SIOS",
    "MIEUM MIEUM-PANSIOS MIEUM-PIEUP MIEUM-SIOS NIEUN NIEUN-CIEUC NIEUN-HIEUH NIEUN-PANSIOS",
    "NIEUN-SIOS NIEUN-TIKEUT O OE PANSIOS PHIEUPH PIEUP PIEUP-CIEUC PIEUP-KIYEOK PIEUP-SIOS",
    "PIEUP-SIOS-KIYEOK PIEUP-SIOS-TIKEUT PIEUP-THIEUTH PIEUP-TIKEUT RIEUL RIEUL-HIEUH",
    "RIEUL-KIYEOK RIEUL-KIYEOK-SIOS RIEUL-MIEUM RIEUL-PANSIOS RIEUL-PHIEUPH RIEUL-PIEUP",
    "RIEUL-PIEUP-SIOS RIEUL-SIOS RIEUL-THIEUTH RIEUL-TIKEUT RIEUL-YEORINHIEUH SIOS SIOS-CIEUC",
    "SIOS-KIYEOK SIOS-NIEUN SIOS-PIEUP SIOS-TIKEUT SSANGCIEUC SSANGHIEUH SSANGIEUNG SSANGKIYEOK",
    "SSANGNIEUN SSANGPIEUP SSANGSIOS SSANGTIKEUT THIEUTH TIKEUT U WA WAE WE WEO WI YA YAE YE YEO",
    "YEORINHIEUH YESIEUNG YESIEUNG-PANSIOS YESIEUNG-SIOS YI YO YO-I YO-YA YO-YAE YU YU-I YU-YE",
    "YU-YEO) SINGLE(DOT(TONE(MARK)))) HANGZHOU(NUMERAL(EIGHT FIVE FOUR NINE ONE SEVEN SIX TEN",
    "THIRTY THREE TWENTY TWO)) HANIFI(ROHINGYA(DIGIT(EIGHT FIVE FOUR NINE ONE SEVEN SIX THREE TWO",
    "ZERO) LETTER(A BA CA DA DDA FA GA HA JA KA KHA KINNA(WA YA) LA MA NA NGA NYA PA RA RRA SA",
    "SHA TA TTA VA WA YA ZA) MARK(NA(KHONNA) SAKIN) SIGN(HARBAHAY TAHALA TANA TASSI) VOWEL(A E I",
    "O U))) HANUNOO(LETTER(A BA DA GA HA I KA LA MA NA NGA PA RA SA TA U WA YA) SIGN(PAMUDPOD)",
    "VOWEL(SIGN(I U))) HAPPY(PERSON(RAISING(ONE(HAND)))) HARD(DISK) HATCHING(CHICK)",
    "HATRAN(LETTER(ALEPH AYN BETH DALETH-RESH GIMEL HE HETH KAPH LAMEDH MEM NUN PE QOPH SADHE",
    "SAMEKH SHIN TAW TETH WAW YODH ZAYN) NUMBER(FIVE ONE(. HUNDRED) TEN TWENTY)) HEADPHONE",
    "HEADSTONE(. GRAVEYARD(SYMBOL)) HEAR-NO-EVIL(MONKEY) HEART(DECORATION HANDS WITH(ARROW RIBBON",
    "TIP(ON(THE(LEFT))))) HEAVY(AMPERSAND(ORNAMENT) ARROW(SHAFT(WIDTH(ONE(. HALF THIRD)",
    "TWO(THIRDS)))) ASTERISK BALLOT(X) BLACK(CURVED(DOWNWARDS(AND(RIGHTWARDS(ARROW)))",
    "UPWARDS(AND(RIGHTWARDS(ARROW)))) HEART) BLACK-FEATHERED(NORTH(EAST(ARROW)) RIGHTWARDS(ARROW)",
    "SOUTH(EAST(ARROW))) CHECK(MARK) CHEVRON(SNOWFLAKE) CIRCLE(. WITH(CIRCLE(INSIDE)",
    "STROKE(AND(TWO(DOTS(ABOVE)))))) CIRCLED(SALTIRE) CONCAVE-POINTED(BLACK(RIGHTWARDS(ARROW)))",
    "DASHED(TRIANGLE-HEADED(RIGHTWARDS(ARROW))) DIVISION(SIGN) DOLLAR(SIGN)",
    "DOUBLE(COMMA(QUOTATION(MARK(ORNAMENT))) TURNED(COMMA(QUOTATION(MARK(ORNAMENT)))))",
    "DOWNWARDS(ARROW(WITH(EQUILATERAL(ARROWHEAD) LARGE(EQUILATERAL(ARROWHEAD)))))",
    "EIGHT(POINTED(BLACK(STAR) PINWHEEL(STAR) RECTILINEAR(BLACK(STAR))) SPOKED(ASTERISK)",
    "TEARDROP-SPOKED(PROPELLER(ASTERISK))) EQUALS(SIGN) EXCLAMATION(MARK(ORNAMENT SYMBOL))",
    "FIVE(POINTED(BLACK(STAR)) SPOKED(ASTERISK)) FOUR(BALLOON-SPOKED(ASTERISK)) GREEK(CROSS)",
    "HEART(EXCLAMATION(MARK(ORNAMENT))) HORIZONTAL(FILL) INTERROBANG(ORNAMENT) LARGE(CIRCLE)",
    "LATIN(CROSS) LEFT-POINTING(ANGLE(BRACKET(ORNAMENT) QUOTATION(MARK(ORNAMENT))))",
    "LEFTWARDS(ARROW(WITH(EQUILATERAL(ARROWHEAD) LARGE(EQUILATERAL(ARROWHEAD)))))",
    "LIGATURE(OPEN(ET(ORNAMENT))) LOW(DOUBLE(COMMA(QUOTATION(MARK(ORNAMENT))))",
    "SINGLE(COMMA(QUOTATION(MARK(ORNAMENT))))) LOWER(RIGHT-SHADOWED(WHITE(RIGHTWARDS(ARROW))))",
    "MINUS(SIGN) MULTIPLICATION(X) NORTH(EAST(ARROW POINTING(BUD VINE(LEAF))) WEST(POINTING(BUD",
    "VINE(LEAF)))) OPEN(CENTRE(CROSS)) OUTLINED(BLACK(STAR)) OVAL(WITH(OVAL(INSIDE))) PLUS(SIGN)",
    "RIGHT-POINTING(ANGLE(BRACKET(ORNAMENT) QUOTATION(MARK(ORNAMENT)))) RIGHTWARDS(ARROW(.",
    "WITH(EQUILATERAL(ARROWHEAD) LARGE(EQUILATERAL(ARROWHEAD))))) ROUND-TIPPED(RIGHTWARDS(ARROW))",
    "SALTIRE SANS-SERIF(INTERROBANG(ORNAMENT)) SCRIPT(LIGATURE(ET(ORNAMENT)))",
    "SINGLE(COMMA(QUOTATION(MARK(ORNAMENT))) TURNED(COMMA(QUOTATION(MARK(ORNAMENT)))))",
    "SIX(POINTED(BLACK(STAR)) SPOKED(ASTERISK)) SOUTH(EAST(ARROW POINTING(BUD VINE(LEAF)))",
    "WEST(POINTING(BUD VINE(LEAF)))) SPARKLE TEARDROP-SHANKED(RIGHTWARDS(ARROW))",
    "TEARDROP-SPOKED(ASTERISK PINWHEEL(ASTERISK)) TRIANGLE-HEADED(RIGHTWARDS(ARROW))",
    "TWELVE(POINTED(BLACK(STAR) PINWHEEL(STAR))) UPPER(RIGHT-SHADOWED(WHITE(RIGHTWARDS(ARROW))))",
    "UPWARDS(ARROW(WITH(EQUILATERAL(ARROWHEAD) LARGE(EQUILATERAL(ARROWHEAD))))) VERTICAL(BAR)",
    "WEDGE-TAILED(RIGHTWARDS(ARROW)) WHITE(CIRCLE DOWN-POINTING(TRIANGLE) SQUARE)",
    "WIDE-HEADED(RIGHTWARDS(ARROW))) HEBREW(ACCENT(ATNAH(HAFUKH) DARGA DEHI ETNAHTA GERESH(.",
    "MUQDAM) GERSHAYIM ILUY MAHAPAKH MERKHA(. KEFULA) MUNAH OLE PASHTA PAZER QADMA QARNEY(PARA)",
    "REVIA SEGOL SHALSHELET TELISHA(GEDOLA QETANA) TEVIR TIPEHA YERAH(BEN(YOMO)) YETIV",
    "ZAQEF(GADOL QATAN) ZARQA ZINOR) LETTER(ALEF(. WITH(MAPIQ PATAH QAMATS)) ALTERNATIVE(AYIN",
    "PLUS(SIGN)) AYIN BET(. WITH(DAGESH RAFE)) DALET(. WITH(DAGESH)) FINAL(KAF(. WITH(DAGESH))",
    "MEM NUN PE(. WITH(DAGESH)) TSADI) GIMEL(. WITH(DAGESH)) HE(. WITH(MAPIQ)) HET KAF(.",
    "WITH(DAGESH RAFE)) LAMED(. WITH(DAGESH)) MEM(. WITH(DAGESH)) NUN(. WITH(DAGESH)) PE(.",
    "WITH(DAGESH RAFE)) QOF(. WITH(DAGESH)) RESH(. WITH(DAGESH)) SAMEKH(. WITH(DAGESH)) SHIN(.",
    "WITH(DAGESH(. AND(SHIN(DOT) SIN(DOT))) SHIN(DOT) SIN(DOT))) TAV(. WITH(DAGESH)) TET(.",
    "WITH(DAGESH)) TSADI(. WITH(DAGESH)) VAV(. WITH(DAGESH HOLAM)) WIDE(ALEF DALET FINAL(MEM) HE",
    "KAF LAMED RESH TAV) YOD(. WITH(DAGESH HIRIQ)) ZAYIN(. WITH(DAGESH))) LIGATURE(ALEF(LAMED)",
    "YIDDISH(DOUBLE(VAV YOD) VAV(YOD) YOD(YOD(PATAH)))) MARK(LOWER(DOT) MASORA(CIRCLE)",
    "UPPER(DOT)) POINT(DAGESH(OR(MAPIQ)) HATAF(PATAH QAMATS SEGOL) HIRIQ HOLAM(. HASER(FOR(VAV)))",
    "JUDEO-SPANISH(VARIKA) METEG PATAH QAMATS(. QATAN) QUBUTS RAFE SEGOL SHEVA SHIN(DOT) SIN(DOT)",
    "TSERE) PUNCTUATION(GERESH GERSHAYIM MAQAF NUN(HAFUKHA) PASEQ SOF(PASUQ)) YOD(TRIANGLE))",
    "HEDGEHOG HELICOPTER HELLSCHREIBER(PAUSE(SYMBOL)) HELM(SYMBOL) HELMET(WITH(WHITE(CROSS)))",
    "HENTAIGANA(LETTER(A-1~3 A-WO E-1~6 HA-10 HA-11 HA-1~9 HE-1~7 HI-1~7 HO-1~8 HU-1~3 I-1~4",
    "KA-10 KA-11 KA-1~9 KA-KE KE-1~6 KI-1~8 KO-1~3 KO-KI KU-1~7 MA-1~7 ME-1 ME-2 ME-MA MI-1~7",
    "MO-1~6 MU-1~4 N-MU-MO-1 N-MU-MO-2 NA-1~9 NE-1~6 NE-KO NI-1~7 NI-TE NO-1~5 NU-1~3 O-1~3",
    "RA-1~4 RE-1~4 RI-1~7 RO-1~6 RU-1~6 SA-1~8 SE-1~5 SI-1~6 SO-1~7 SU-1~8 TA-1~4 TE-1~9 TI-1~7",
    "TO-1~6 TO-RA TU-1~4 TU-TO U-1~5 WA-1~5 WE-1~4 WI-1~5 WO-1~7 YA-1~5 YA-YO YO-1~6 YU-1~4))",
    "HERB HERMITIAN(CONJUGATE(MATRIX)) HEXAGRAM(FOR(ABUNDANCE AFTER(COMPLETION) APPROACH",
    "BEFORE(COMPLETION) BITING(THROUGH) BREAKTHROUGH COMING(TO(MEET)) CONFLICT CONTEMPLATION",
    "DARKENING(OF(THE(LIGHT))) DECREASE DELIVERANCE DEVELOPMENT DIFFICULTY(AT(THE(BEGINNING)))",
    "DISPERSION DURATION ENTHUSIASM FELLOWSHIP FOLLOWING GATHERING(TOGETHER) GRACE",
    "GREAT(POSSESSION POWER PREPONDERANCE TAMING) HOLDING(TOGETHER) INCREASE INFLUENCE",
    "INNER(TRUTH) INNOCENCE LIMITATION MODESTY MOUTH(CORNERS) OBSTRUCTION OPPOSITION OPPRESSION",
    "PEACE PROGRESS PUSHING(UPWARD) RETREAT RETURN REVOLUTION SMALL(PREPONDERANCE TAMING)",
    "SPLITTING(APART) STANDSTILL THE(ABYSMAL(WATER) ARMY AROUSING(THUNDER) CAULDRON",
    "CLINGING(FIRE) CREATIVE(HEAVEN) FAMILY GENTLE(WIND) JOYOUS(LAKE) KEEPING(STILL(MOUNTAIN))",
    "MARRYING(MAIDEN) RECEPTIVE(EARTH) WANDERER WELL) TREADING WAITING WORK(ON(THE(DECAYED)))",
    "YOUTHFUL(FOLLY))) HIBISCUS HIGH(BRIGHTNESS(SYMBOL) OCTET(PRESET) VOLTAGE(SIGN))",
    "HIGH-HEELED(SHOE) HIGH-SPEED(TRAIN(. WITH(BULLET(NOSE)))) HIKING(BOOT) HINDU(TEMPLE)",
    "HIPPOPOTAMUS HIRAGANA(DIGRAPH(YORI) ITERATION(MARK) LETTER(A ARCHAIC(WU YE) BA BE BI BO BU",
    "DA DE DI DO DU E GA GE GI GO GU HA HE HI HO HU I KA KE KI KO KU MA ME MI MO MU N NA NE NI NO",
    "NU O PA PE PI PO PU RA RE RI RO RU SA SE SI SMALL(A E I KA KE O TU U WA WE WI WO YA YO YU)",
    "SO SU TA TE TI TO TU U VU WA WE WI WO YA YO YU ZA ZE ZI ZO ZU) VOICED(ITERATION(MARK)))",
    "HISTORIC(SITE) HOCHO HOLE HOLLOW(QUILT(SQUARE(ORNAMENT(. IN(BLACK(SQUARE)))))) HOMOTHETIC",
    "HONEY(POT) HONEYBEE HOOK HOP HORIZONTAL(BAR BLACK(HEXAGON OCTAGON) ELLIPSIS LINE(EXTENSION)",
    "MALE(WITH(STROKE(SIGN))) ONE(EIGHTH(BLOCK-1358 BLOCK-2~7)) SCAN(LINE-1 LINE-3 LINE-7 LINE-9)",
    "TAB(KEY) TABULATION(. SET WITH(JUSTIFICATION)) TRAFFIC(LIGHT)) HORSE(. FACE RACING) HOSPITAL",
    "HOT(BEVERAGE DOG PEPPER SPRINGS) HOTEL HOURGLASS(. WITH(FLOWING(SAND))) HOUSE(. BUILDING",
    "BUILDINGS WITH(GARDEN)) HRYVNIA(SIGN) HT HTJ HTS HUGGING(FACE) HUNDRED(POINTS(SYMBOL))",
    "HUSHED(FACE) HUT HYGIEA HYPHEN(. BULLET WITH(DIAERESIS)) HYPHEN-MINUS HYPHENATION(POINT)",
    "HYPODIASTOLE HYSTERESIS(SYMBOL) I(LOVE(YOU(HAND(SIGN)))) ICE(CREAM CUBE",
    "HOCKEY(STICK(AND(PUCK))) SKATE) IDENTICAL(TO(. AND(SLANTED(PARALLEL))) WITH(DOT(ABOVE)))",
    "IDENTIFICATION(CARD) IDEOGRAPHIC(ANNOTATION(BOTTOM(MARK) EARTH(MARK) FIRST(MARK) FOUR(MARK)",
    "FOURTH(MARK) HEAVEN(MARK) LINKING(MARK) MAN(MARK) MIDDLE(MARK) ONE(MARK) REVERSE(MARK)",
    "SECOND(MARK) THIRD(MARK) THREE(MARK) TOP(MARK) TWO(MARK)) CLOSING(MARK) COMMA",
    "DEPARTING(TONE(MARK)) DESCRIPTION(CHARACTER(ABOVE(TO(BELOW MIDDLE(AND(BELOW))))",
    "FULL(SURROUND) LEFT(TO(MIDDLE(AND(RIGHT)) RIGHT)) OVERLAID SURROUND(FROM(ABOVE BELOW LEFT",
    "LOWER(LEFT) UPPER(LEFT RIGHT))))) ENTERING(TONE(MARK)) FULL(STOP) HALF(FILL(SPACE))",
    "ITERATION(MARK) LEVEL(TONE(MARK)) NUMBER(ZERO) RISING(TONE(MARK)) SPACE TALLY(MARK(FIVE FOUR",
    "ONE THREE TWO)) TELEGRAPH(LINE(FEED(SEPARATOR(SYMBOL))) SYMBOL(FOR(APRIL AUGUST DAY(EIGHT",
    "EIGHTEEN ELEVEN FIFTEEN FIVE FOUR FOURTEEN NINE NINETEEN ONE SEVEN SEVENTEEN SIX SIXTEEN TEN",
    "THIRTEEN THIRTY THIRTY-ONE THREE TWELVE TWENTY TWENTY-EIGHT TWENTY-FIVE TWENTY-FOUR",
    "TWENTY-NINE TWENTY-ONE TWENTY-SEVEN TWENTY-SIX TWENTY-THREE TWENTY-TWO TWO) DECEMBER",
    "FEBRUARY HOUR(EIGHT EIGHTEEN ELEVEN FIFTEEN FIVE FOUR FOURTEEN NINE NINETEEN ONE SEVEN",
    "SEVENTEEN SIX SIXTEEN TEN THIRTEEN THREE TWELVE TWENTY TWENTY-FOUR TWENTY-ONE TWENTY-THREE",
    "TWENTY-TWO TWO ZERO) JANUARY JULY JUNE MARCH MAY NOVEMBER OCTOBER SEPTEMBER)))",
    "VARIATION(INDICATOR)) IMAGE(OF(. OR(APPROXIMATELY(EQUAL(TO))))) IMP",
    "IMPERIAL(ARAMAIC(LETTER(ALEPH AYIN BETH DALETH GIMEL HE HETH KAPH LAMEDH MEM NUN PE QOPH",
    "RESH SADHE SAMEKH SHIN TAW TETH WAW YODH ZAYIN) NUMBER(ONE(. HUNDRED THOUSAND) TEN(.",
    "THOUSAND) THREE TWENTY TWO) SECTION(SIGN))) INBOX(TRAY) INCOMING(ENVELOPE)",
    "INCOMPLETE(INFINITY) INCREASE(FONT(SIZE(SYMBOL))) INCREASES(AS) INCREMENT IND INDEX(.",
    "POINTING(AT(THE(VIEWER)))) INDIAN(RUPEE(SIGN)) INDIC(SIYAQ(ALTERNATE(LAKH(MARK))",
    "FRACTION(ONE(HALF QUARTER) THREE(QUARTERS)) LAKH(MARK) NUMBER(ALTERNATE(ONE TEN(THOUSAND)",
    "TWO) EIGHT(. HUNDRED THOUSAND) EIGHTY(. THOUSAND) FIFTY(. THOUSAND) FIVE(. HUNDRED THOUSAND)",
    "FORTY(. THOUSAND) FOUR(. HUNDRED THOUSAND) KAROR KARORAN LAKH LAKHAN NINE(. HUNDRED",
    "THOUSAND) NINETY(. THOUSAND) ONE(. HUNDRED THOUSAND) PREFIXED(EIGHT FIVE FOUR NINE ONE SEVEN",
    "SIX THREE TWO) SEVEN(. HUNDRED THOUSAND) SEVENTY(. THOUSAND) SIX(. HUNDRED THOUSAND) SIXTY(.",
    "THOUSAND) TEN(. THOUSAND) THIRTY(. THOUSAND) THREE(. HUNDRED THOUSAND) TWENTY(. THOUSAND)",
    "TWO(. HUNDRED THOUSAND)) PLACEHOLDER RUPEE(MARK))) INFINITY(. NEGATED(WITH(VERTICAL(BAR))))",
    "INFORMATION(DESK(PERSON) SEPARATOR(FOUR ONE THREE TWO) SOURCE) INHIBIT(ARABIC(FORM(SHAPING))",
    "SYMMETRIC(SWAPPING)) INPUT(SYMBOL(FOR(LATIN(CAPITAL(LETTERS) LETTERS SMALL(LETTERS)) NUMBERS",
    "SYMBOLS))) INSCRIPTIONAL(PAHLAVI(LETTER(ALEPH BETH DALETH GIMEL HE HETH KAPH LAMEDH MEM-QOPH",
    "NUN PE SADHE SAMEKH SHIN TAW TETH WAW-AYIN-RESH YODH ZAYIN) NUMBER(FOUR ONE(. HUNDRED",
    "THOUSAND) TEN THREE TWENTY TWO)) PARTHIAN(LETTER(ALEPH AYIN BETH DALETH GIMEL HE HETH KAPH",
    "LAMEDH MEM NUN PE QOPH RESH SADHE SAMEKH SHIN TAW TETH WAW YODH ZAYIN) NUMBER(FOUR ONE(.",
    "HUNDRED THOUSAND) TEN THREE TWENTY TWO))) INSERTION(SYMBOL) INTEGRAL(.",
    "AROUND(A(POINT(OPERATOR))) AVERAGE(WITH(SLASH)) EXTENSION WITH(DOUBLE(STROKE) INTERSECTION",
    "LEFTWARDS(ARROW(WITH(HOOK))) OVERBAR TIMES(SIGN) UNDERBAR UNION)) INTERCALATE",
    "INTERIOR(PRODUCT) INTERLINEAR(ANNOTATION(ANCHOR SEPARATOR TERMINATOR))",
    "INTERLOCKED(FEMALE(AND(MALE(SIGN)))) INTERROBANG INTERSECTION(. ABOVE(BAR(ABOVE(UNION))",
    "UNION) BESIDE(AND(JOINED(WITH(INTERSECTION)))) WITH(DOT LOGICAL(AND) OVERBAR))",
    "INVERSE(BULLET CHECK(MARK) CHECKER(BOARD(FILL)) DOWNWARDS(ARROW(WITH(TIP(LEFTWARDS))))",
    "MEDIUM(SHADE) WHITE(CIRCLE)) INVERTED(EXCLAMATION(MARK) INTERROBANG LAZY(S) LOW(KAVYKA(.",
    "WITH(KAVYKA(ABOVE)))) OHM(SIGN) PENTAGRAM QUESTION(MARK) UNDERTIE) INVISIBLE(PLUS SEPARATOR",
    "TIMES) IZAKAYA(LANTERN) JACK-O-LANTERN JAPANESE(BANK(SYMBOL) CASTLE DOLLS GOBLIN",
    "INDUSTRIAL(STANDARD(SYMBOL)) OGRE POST(OFFICE) SYMBOL(FOR(BEGINNER))) JAR",
    "JAVANESE(CONSONANT(SIGN(CAKRA KERET PENGKAL)) DIGIT(EIGHT FIVE FOUR NINE ONE SEVEN SIX THREE",
    "TWO ZERO) LEFT(RERENGGAN) LETTER(A AI BA(. MURDA) CA(. MURDA) DA(. MAHAPRANA) DDA(.",
    "MAHAPRANA) E GA(. MURDA) HA I(. KAWI) II JA(. MAHAPRANA) KA(. MURDA SASAK) LA MA NA(. MURDA)",
    "NGA(. LELET(. RASWADI)) NYA(. MURDA) O PA(. CEREK MURDA) RA(. AGUNG) SA(. MAHAPRANA MURDA)",
    "TA(. MURDA) TTA(. MAHAPRANA) U WA YA) PADA(ADEG(. ADEG) ANDAP ISEN-ISEN LINGSA LUHUR LUNGSI",
    "MADYA PANGKAT PISELEH TIRTA(TUMETES) WINDU) PANGKON PANGRANGKEP RIGHT(RERENGGAN)",
    "SIGN(CECAK(. TELU) LAYAR PANYANGGA WIGNYAN) TURNED(PADA(PISELEH)) VOWEL(SIGN(DIRGA(MURE)",
    "PEPET SUKU(. MENDUT) TALING TARUNG TOLONG WULU(. MELIK)))) JEANS JIGSAW(PUZZLE(PIECE)) JOIN",
    "JOYSTICK JUGGLING JUNO JUPITER KAABA KAITHI(ABBREVIATION(SIGN) DANDA DOUBLE(DANDA",
    "SECTION(MARK)) ENUMERATION(SIGN) LETTER(A AA AI AU BA BHA CA CHA DA DDA DDDHA DDHA DHA E GA",
    "GHA HA I II JA JHA KA KHA LA MA NA NGA NNA NYA O PA PHA RA RHA SA SHA SSA TA THA TTA TTHA U",
    "UU VA YA) NUMBER(SIGN(. ABOVE)) SECTION(MARK) SIGN(ANUSVARA CANDRABINDU NUKTA VIRAMA",
    "VISARGA) VOWEL(SIGN(AA AI AU E I II O U UU VOCALIC(R)))) KANGAROO KANGXI(RADICAL(AGAIN AND",
    "ARRIVE ARROW AXE BADGER BAMBOO BEAN BIG BIRD BITTER BLACK BLOOD BLUE BOAT BODY",
    "BOLT(OF(CLOTH)) BONE BOW BRANCH BRISTLE BRUSH CART CAULDRON CAVE CHILD CITY CLAN CLAW CLIFF",
    "CLOTHES COLOR COMPARE CORPSE COVER COW DEATH DEER DIPPER DISH DISTINGUISH DIVINATION DO(NOT)",
    "DOG DOOR DOT DOTTED(CLIFF TENT) DOUBLE(X) DOWN(BOX) DRAGON DRUM DRY EAR EARTH EAT EIGHT",
    "EMBROIDERY ENCLOSURE ENTER EVEN EVENING EYE FACE FANG FATHER FEATHER FIELD FIGHT FIRE FISH",
    "FLUTE FLY FOOT FRAGRANT FROG FUR GATE GHOST GO(. SLOWLY) GOLD GRAIN GRASS HAIR HALBERD",
    "HALF(TREE(TRUNK)) HAND HEAD HEART HEMP HIDING(ENCLOSURE) HOOK HORN HORSE ICE INCH INSECT",
    "JADE JAR KNIFE LACK LAME LEAF LEATHER LEEK LEGS LID LIFE LINE LONG(. STRIDE) MAN MEAT MELON",
    "MILLET MINISTER MOON MORNING MORTAR MOUND MOUNTAIN MOUTH NET NOSE NOT OLD ONE ONESELF",
    "OPEN(BOX) OPPOSE PIG PLOW POWER PRIVATE PROFOUND RAIN RAP RAT RED RICE RIGHT(OPEN(BOX))",
    "RIVER ROOF RUN SACRIFICIAL(WINE) SALT SAY SCHOLAR SCRIPT SEAL SECOND SEE SELF SHEEP SHELL",
    "SHOOT SHORT(TAILED(BIRD) THREAD) SICKNESS SILK SKIN SLASH SLAVE SLICE SMALL SNOUT SOUND",
    "SPEAR SPEECH SPIRIT SPOON SPROUT SQUARE STAND STEAM STEP STONE STOP STOPPING SUN SWEET TABLE",
    "TALL TANNED(LEATHER) TEN TIGER TILE TONGUE TOOTH TRACK TREE TRIPOD TURBAN TURTLE TWO(.",
    "HANDS) USE VALLEY VILLAGE WALK(. ENCLOSURE) WATER WEAPON WEST WHEAT WHITE WIND WINE WOMAN",
    "WORK WRAP WRONG YELLOW)) KANNADA(AI(LENGTH(MARK)) DIGIT(EIGHT FIVE FOUR NINE ONE SEVEN SIX",
    "THREE TWO ZERO) LENGTH(MARK) LETTER(A AA AI AU BA BHA CA CHA DA DDA DDHA DHA E EE FA GA GHA",
    "HA I II JA JHA KA KHA LA LLA LLLA MA NA NAKAARA(POLLU) NGA NNA NYA O OO PA PHA RA RRA SA SHA",
    "SSA TA THA TTA TTHA U UU VA VOCALIC(L LL R RR) YA) SIGN(ANUSVARA AVAGRAHA CANDRABINDU",
    "JIHVAMULIYA NUKTA SIDDHAM SPACING(CANDRABINDU) UPADHMANIYA VIRAMA VISARGA) VOWEL(SIGN(AA AI",
    "AU E EE I II O OO U UU VOCALIC(L LL R RR)))) KATAKANA(DIGRAPH(KOTO) ITERATION(MARK) LETTER(A",
    "ARCHAIC(E WU YE YI) BA BE BI BO BU DA DE DI DO DU E GA GE GI GO GU HA HE HI HO HU I KA KE KI",
    "KO KU MA ME MI MINNAN(NASALIZED(TONE-1~5 TONE-7 TONE-8) TONE-2~5 TONE-7 TONE-8) MO MU N NA",
    "NE NI NO NU O PA PE PI PO PU RA RE RI RO RU SA SE SI SMALL(A E HA HE HI HO HU I KA KE KU MU",
    "N NU O RA RE RI RO RU SI SU TO TU U WA WE WI WO YA YO YU) SO SU TA TE TI TO TU U VA VE VI VO",
    "VU WA WE WI WO YA YO YU ZA ZE ZI ZO ZU) MIDDLE(DOT) VOICED(ITERATION(MARK)))",
    "KATAKANA-HIRAGANA(DOUBLE(HYPHEN) PROLONGED(SOUND(MARK)) SEMI-VOICED(SOUND(MARK))",
    "VOICED(SOUND(MARK))) KAYAH(LI(DIGIT(EIGHT FIVE FOUR NINE ONE SEVEN SIX THREE TWO ZERO)",
    "LETTER(A BA CA DA GA HA HTA I KA KHA LA MA NA NGA NYA OE OO PA PHA RA SA SHA TA THA VA WA YA",
    "ZA) SIGN(CWI SHYA) TONE(CALYA(. PLOPHU) PLOPHU) VOWEL(E EE O U UE))) KELVIN(SIGN) KEY",
    "KEYBOARD(. AND(MOUSE)) KEYCAP(TEN) KHAROSHTHI(DIGIT(FOUR ONE THREE TWO) FRACTION(ONE(HALF))",
    "LETTER(A BA BHA CA CHA DA DDA DDHA DHA GA GHA HA JA KA KHA KKA LA MA NA NNA NYA PA PHA RA SA",
    "SHA SSA TA THA TTA TTHA TTTA TTTHA VA VHA YA ZA) NUMBER(ONE(HUNDRED THOUSAND) TEN TWENTY)",
    "PUNCTUATION(CIRCLE CRESCENT(BAR) DANDA DOT DOUBLE(DANDA) LINES LOTUS MANGALAM SMALL(CIRCLE))",
    "SIGN(ANUSVARA BAR(ABOVE) CAUDA DOT(BELOW) DOUBLE(RING(BELOW)) VISARGA) VIRAMA",
    "VOWEL(LENGTH(MARK) SIGN(E I O U VOCALIC(R)))) KHITAN(SMALL(SCRIPT(CHARACTER-18B00^18CD5",
    "FILLER))) KHMER(CURRENCY(SYMBOL(RIEL)) DIGIT(EIGHT FIVE FOUR NINE ONE SEVEN SIX THREE TWO",
    "ZERO) INDEPENDENT(VOWEL(LY LYY QAA QAI QAQ QAU QE QI QII QOO(TYPE(ONE TWO)) QU QUK QUU QUUV",
    "RY RYY)) LETTER(BA CA CHA CHO CO DA DO HA KA KHA KHO KO LA LO MO NGO NNO NO NYO PHA PHO PO",
    "QA RO SA SHA SSO TA THA THO TO TTHA TTHO VO YO) SIGN(AHSDA ATTHACAN AVAKRAHASANYA BANTOC",
    "BARIYOOSAN BATHAMASAT BEYYAL CAMNUC(PII(KUUH)) COENG KAKABAT KHAN KOOMUUT LEK(TOO)",
    "MUUSIKATOAN NIKAHIT PHNAEK(MUAN) REAHMUK ROBAT SAMYOK(SANNYA) TOANDAKHIAT TRIISAP VIRIAM",
    "YUUKALEAPINTU) SYMBOL(BEI(KOET ROC) BUON(KOET ROC) DAP(KOET ROC) DAP-BEI(KOET ROC)",
    "DAP-BUON(KOET ROC) DAP-MUOY(KOET ROC) DAP-PII(KOET ROC) DAP-PRAM(KOET ROC) LEK(ATTAK(BEI",
    "BUON MUOY PII PRAM PRAM-BEI PRAM-BUON PRAM-MUOY PRAM-PII SON)) MUOY(KOET ROC) PATHAMASAT",
    "PII(KOET ROC) PRAM(KOET ROC) PRAM-BEI(KOET ROC) PRAM-BUON(KOET ROC) PRAM-MUOY(KOET ROC)",
    "PRAM-PII(KOET ROC) TUTEYASAT) VOWEL(INHERENT(AA AQ) SIGN(AA AE AI AU E I IE II OE OO U UA UU",
    "Y YA YY))) KHOJKI(ABBREVIATION(SIGN) DANDA DOUBLE(DANDA SECTION(MARK)) LETTER(A AA AI AU BA",
    "BBA BHA CA CHA DA DDA DDDA DDHA DHA E GA GGA GHA HA I JA JJA KA KHA LA LLA MA NA NGA NNA NYA",
    "O PA PHA RA SA TA THA TTA TTHA U VA YA) SECTION(MARK) SIGN(ANUSVARA NUKTA SHADDA SUKUN",
    "VIRAMA) VOWEL(SIGN(AA AI AU E I II O U)) WORD(SEPARATOR)) KHUDAWADI(DIGIT(EIGHT FIVE FOUR",
    "NINE ONE SEVEN SIX THREE TWO ZERO) LETTER(A AA AI AU BA BBA BHA CA CHA DA DDA DDDA DDHA DHA",
    "E GA GGA GHA HA I II JA JHA JJA KA KHA LA MA NA NGA NNA NYA O PA PHA RA RRA SA SHA TA THA",
    "TTA TTHA U UU VA YA) SIGN(ANUSVARA NUKTA VIRAMA) VOWEL(SIGN(AA AI AU E I II O U UU))) KIMONO",
    "KIP(SIGN) KISS(. MARK) KISSING(CAT(FACE(WITH(CLOSED(EYES)))) FACE(. WITH(CLOSED(EYES)",
    "SMILING(EYES)))) KITE KIWIFRUIT KNEELING(PERSON) KNOT KOALA KOREAN(STANDARD(SYMBOL)) KRONOS"
  ]

end SandboxLint.Text
