import RoutePattern.Text.NameRun

/-! # Names of syllables and of more letters

* `southern`: Thai, Lao, Tibetan and Myanmar.
* `syllabic`: Georgian, the jamos of Hangul, Ethiopic, Cherokee, Canadian syllables, Ogham, Runic,
  the scripts of the Philippines and Khmer.
* `insular`: Mongolian, and scripts of South East Asia and of its islands.
* `phonetic`: phonetic letters, and more of Latin and Greek.
-/

namespace RoutePattern.Text.NameRun

/-- The names of U+0E00 to U+109F. -/
def southern : List NameRun := [
  ⟨0xe01, "THAI CHARACTER ", "KO KAI,KHO KHAI,KHO KHUAT,KHO KHWAI,KHO KHON,KHO RAKHANG,NGO NGU,
    CHO CHAN,CHO CHING,CHO CHANG,SO SO,CHO CHOE,YO YING,DO CHADA,TO PATAK,THO THAN,THO NANGMONTHO,
    THO PHUTHAO,NO NEN,DO DEK,TO TAO,THO THUNG,THO THAHAN,THO THONG,NO NU,BO BAIMAI,PO PLA,
    PHO PHUNG,FO FA,PHO PHAN,FO FAN,PHO SAMPHAO,MO MA,YO YAK,RO RUA,RU,LO LING,LU,WO WAEN,SO SALA,
    SO RUSI,SO SUA,HO HIP,LO CHULA,O ANG,HO NOKHUK,PAIYANNOI,SARA A,MAI HAN-AKAT,SARA AA,SARA AM,
    SARA I,SARA II,SARA UE,SARA UEE,SARA U,SARA UU,PHINTHU"⟩,
  ⟨0xe3f, "THAI ", "CURRENCY SYMBOL BAHT,CHARACTER SARA E,CHARACTER SARA AE,CHARACTER SARA O,
    CHARACTER SARA AI MAIMUAN,CHARACTER SARA AI MAIMALAI,CHARACTER LAKKHANGYAO,CHARACTER MAIYAMOK,
    CHARACTER MAITAIKHU,CHARACTER MAI EK,CHARACTER MAI THO,CHARACTER MAI TRI,CHARACTER MAI CHATTAWA,
    CHARACTER THANTHAKHAT,CHARACTER NIKHAHIT,CHARACTER YAMAKKAN,CHARACTER FONGMAN,DIGIT ZERO,
    DIGIT ONE,DIGIT TWO,DIGIT THREE,DIGIT FOUR,DIGIT FIVE,DIGIT SIX,DIGIT SEVEN,DIGIT EIGHT,
    DIGIT NINE,CHARACTER ANGKHANKHU,CHARACTER KHOMUT"⟩,
  ⟨0xe81, "LAO LETTER ", "KO,KHO SUNG,,KHO TAM,,PALI GHA,NGO,CO,PALI CHA,SO TAM,,PALI JHA,NYO,
    PALI NYA,PALI TTA,PALI TTHA,PALI DDA,PALI DDHA,PALI NNA,DO,TO,THO SUNG,THO TAM,PALI DHA,NO,BO,
    PO,PHO SUNG,FO TAM,PHO TAM,FO SUNG,PALI BHA,MO,YO,LO LING,,LO LOOT,,WO,SANSKRIT SHA,
    SANSKRIT SSA,SO SUNG,HO SUNG,PALI LLA,O,HO TAM"⟩,
  ⟨0xeaf, "LAO ", "ELLIPSIS,VOWEL SIGN A,VOWEL SIGN MAI KAN,VOWEL SIGN AA,VOWEL SIGN AM,
    VOWEL SIGN I,VOWEL SIGN II,VOWEL SIGN Y,VOWEL SIGN YY,VOWEL SIGN U,VOWEL SIGN UU,
    SIGN PALI VIRAMA,VOWEL SIGN MAI KON,SEMIVOWEL SIGN LO,SEMIVOWEL SIGN NYO,,,VOWEL SIGN E,
    VOWEL SIGN EI,VOWEL SIGN O,VOWEL SIGN AY,VOWEL SIGN AI,,KO LA,,TONE MAI EK,TONE MAI THO,
    TONE MAI TI,TONE MAI CATAWA,CANCELLATION MARK,NIGGAHITA,,,DIGIT ZERO,DIGIT ONE,DIGIT TWO,
    DIGIT THREE,DIGIT FOUR,DIGIT FIVE,DIGIT SIX,DIGIT SEVEN,DIGIT EIGHT,DIGIT NINE,,,HO NO,HO MO,
    LETTER KHMU GO,LETTER KHMU NYO"⟩,
  ⟨0xf00, "TIBETAN ", "SYLLABLE OM,MARK GTER YIG MGO TRUNCATED A,MARK GTER YIG MGO -UM RNAM BCAD MA,
    MARK GTER YIG MGO -UM GTER TSHEG MA,MARK INITIAL YIG MGO MDUN MA,MARK CLOSING YIG MGO SGAB MA,
    MARK CARET YIG MGO PHUR SHAD MA,MARK YIG MGO TSHEG SHAD MA,MARK SBRUL SHAD,MARK BSKUR YIG MGO,
    MARK BKA- SHOG YIG MGO,MARK INTERSYLLABIC TSHEG,MARK DELIMITER TSHEG BSTAR,MARK SHAD,
    MARK NYIS SHAD,MARK TSHEG SHAD,MARK NYIS TSHEG SHAD,MARK RIN CHEN SPUNGS SHAD,
    MARK RGYA GRAM SHAD,MARK CARET -DZUD RTAGS ME LONG CAN,MARK GTER TSHEG,LOGOTYPE SIGN CHAD RTAGS,
    LOGOTYPE SIGN LHAG RTAGS,ASTROLOGICAL SIGN SGRA GCAN -CHAR RTAGS,ASTROLOGICAL SIGN -KHYUD PA,
    ASTROLOGICAL SIGN SDONG TSHUGS,SIGN RDEL DKAR GCIG,SIGN RDEL DKAR GNYIS,SIGN RDEL DKAR GSUM,
    SIGN RDEL NAG GCIG,SIGN RDEL NAG GNYIS,SIGN RDEL DKAR RDEL NAG,DIGIT ZERO,DIGIT ONE,DIGIT TWO,
    DIGIT THREE,DIGIT FOUR,DIGIT FIVE,DIGIT SIX,DIGIT SEVEN,DIGIT EIGHT,DIGIT NINE,DIGIT HALF ONE,
    DIGIT HALF TWO,DIGIT HALF THREE,DIGIT HALF FOUR,DIGIT HALF FIVE,DIGIT HALF SIX,DIGIT HALF SEVEN,
    DIGIT HALF EIGHT,DIGIT HALF NINE,DIGIT HALF ZERO,MARK BSDUS RTAGS,MARK NGAS BZUNG NYI ZLA,
    MARK CARET -DZUD RTAGS BZHI MIG CAN,MARK NGAS BZUNG SGOR RTAGS,MARK CHE MGO,MARK TSA -PHRU,
    MARK GUG RTAGS GYON,MARK GUG RTAGS GYAS,MARK ANG KHANG GYON,MARK ANG KHANG GYAS,SIGN YAR TSHES,
    SIGN MAR TSHES"⟩,
  ⟨0xf40, "TIBETAN LETTER ", "KA,KHA,GA,GHA,NGA,CA,CHA,JA,,NYA,TTA,TTHA,DDA,DDHA,NNA,TA,THA,DA,DHA,
    NA,PA,PHA,BA,BHA,MA,TSA,TSHA,DZA,DZHA,WA,ZHA,ZA,-A,YA,RA,LA,SHA,SSA,SA,HA,A,KSSA,FIXED-FORM RA,
    KKA,RRA"⟩,
  ⟨0xf71, "TIBETAN VOWEL SIGN ", "AA,I,II,U,UU,VOCALIC R,VOCALIC RR,VOCALIC L,VOCALIC LL,E,EE,O,
    OO"⟩,
  ⟨0xf7e, "TIBETAN ", "SIGN RJES SU NGA RO,SIGN RNAM BCAD,VOWEL SIGN REVERSED I,
    VOWEL SIGN REVERSED II,SIGN NYI ZLA NAA DA,SIGN SNA LDAN,MARK HALANTA,MARK PALUTA,
    SIGN LCI RTAGS,SIGN YANG RTAGS,SIGN LCE TSA CAN,SIGN MCHU CAN,SIGN GRU CAN RGYINGS,
    SIGN GRU MED RGYINGS,SIGN INVERTED MCHU CAN,SUBJOINED SIGN LCE TSA CAN,SUBJOINED SIGN MCHU CAN,
    SUBJOINED SIGN INVERTED MCHU CAN"⟩,
  ⟨0xf90, "TIBETAN SUBJOINED LETTER ", "KA,KHA,GA,GHA,NGA,CA,CHA,JA,,NYA,TTA,TTHA,DDA,DDHA,NNA,TA,
    THA,DA,DHA,NA,PA,PHA,BA,BHA,MA,TSA,TSHA,DZA,DZHA,WA,ZHA,ZA,-A,YA,RA,LA,SHA,SSA,SA,HA,A,KSSA,
    FIXED-FORM WA,FIXED-FORM YA,FIXED-FORM RA"⟩,
  ⟨0xfbe, "TIBETAN ", "KU RU KHA,KU RU KHA BZHI MIG CAN,CANTILLATION SIGN HEAVY BEAT,
    CANTILLATION SIGN LIGHT BEAT,CANTILLATION SIGN CANG TE-U,CANTILLATION SIGN SBUB -CHAL,
    SYMBOL DRIL BU,SYMBOL RDO RJE,SYMBOL PADMA GDAN,SYMBOL RDO RJE RGYA GRAM,SYMBOL PHUR PA,
    SYMBOL NOR BU,SYMBOL NOR BU NYIS -KHYIL,SYMBOL NOR BU GSUM -KHYIL,SYMBOL NOR BU BZHI -KHYIL,,
    SIGN RDEL NAG RDEL DKAR,SIGN RDEL NAG GSUM,MARK BSKA- SHOG GI MGO RGYAN,
    MARK MNYAM YIG GI MGO RGYAN,MARK NYIS TSHEG,MARK INITIAL BRDA RNYING YIG MGO MDUN MA,
    MARK CLOSING BRDA RNYING YIG MGO SGAB MA"⟩,
  ⟨0xfd5, "", "RIGHT-FACING SVASTI SIGN,LEFT-FACING SVASTI SIGN,RIGHT-FACING SVASTI SIGN WITH DOTS,
    LEFT-FACING SVASTI SIGN WITH DOTS,TIBETAN MARK LEADING MCHAN RTAGS,
    TIBETAN MARK TRAILING MCHAN RTAGS"⟩,
  ⟨0x1000, "MYANMAR LETTER ", "KA,KHA,GA,GHA,NGA,CA,CHA,JA,JHA,NYA,NNYA,TTA,TTHA,DDA,DDHA,NNA,TA,
    THA,DA,DHA,NA,PA,PHA,BA,BHA,MA,YA,RA,LA,WA,SA,HA,LLA,A,SHAN A,I,II,U,UU,E,MON E,O,AU"⟩,
  ⟨0x102b, "MYANMAR VOWEL SIGN ", "TALL AA,AA,I,II,U,UU,E,AI,MON II,MON O,E ABOVE"⟩,
  ⟨0x1036, "MYANMAR ", "SIGN ANUSVARA,SIGN DOT BELOW,SIGN VISARGA,SIGN VIRAMA,SIGN ASAT,
    CONSONANT SIGN MEDIAL YA,CONSONANT SIGN MEDIAL RA,CONSONANT SIGN MEDIAL WA,
    CONSONANT SIGN MEDIAL HA,LETTER GREAT SA,DIGIT ZERO,DIGIT ONE,DIGIT TWO,DIGIT THREE,DIGIT FOUR,
    DIGIT FIVE,DIGIT SIX,DIGIT SEVEN,DIGIT EIGHT,DIGIT NINE,SIGN LITTLE SECTION,SIGN SECTION,
    SYMBOL LOCATIVE,SYMBOL COMPLETED,SYMBOL AFOREMENTIONED,SYMBOL GENITIVE,LETTER SHA,LETTER SSA,
    LETTER VOCALIC R,LETTER VOCALIC RR,LETTER VOCALIC L,LETTER VOCALIC LL,VOWEL SIGN VOCALIC R,
    VOWEL SIGN VOCALIC RR,VOWEL SIGN VOCALIC L,VOWEL SIGN VOCALIC LL,LETTER MON NGA,LETTER MON JHA,
    LETTER MON BBA,LETTER MON BBE,CONSONANT SIGN MON MEDIAL NA,CONSONANT SIGN MON MEDIAL MA,
    CONSONANT SIGN MON MEDIAL LA,LETTER SGAW KAREN SHA,VOWEL SIGN SGAW KAREN EU,
    TONE MARK SGAW KAREN HATHI,TONE MARK SGAW KAREN KE PHO,LETTER WESTERN PWO KAREN THA,
    LETTER WESTERN PWO KAREN PWA,VOWEL SIGN WESTERN PWO KAREN EU,VOWEL SIGN WESTERN PWO KAREN UE,
    SIGN WESTERN PWO KAREN TONE-1,SIGN WESTERN PWO KAREN TONE-2,SIGN WESTERN PWO KAREN TONE-3,
    SIGN WESTERN PWO KAREN TONE-4,SIGN WESTERN PWO KAREN TONE-5,LETTER EASTERN PWO KAREN NNA,
    LETTER EASTERN PWO KAREN YWA,LETTER EASTERN PWO KAREN GHWA,VOWEL SIGN GEBA KAREN I,
    VOWEL SIGN KAYAH OE,VOWEL SIGN KAYAH U,VOWEL SIGN KAYAH EE,LETTER SHAN KA,LETTER SHAN KHA,
    LETTER SHAN GA,LETTER SHAN CA,LETTER SHAN ZA,LETTER SHAN NYA,LETTER SHAN DA,LETTER SHAN NA,
    LETTER SHAN PHA,LETTER SHAN FA,LETTER SHAN BA,LETTER SHAN THA,LETTER SHAN HA,
    CONSONANT SIGN SHAN MEDIAL WA,VOWEL SIGN SHAN AA,VOWEL SIGN SHAN E,VOWEL SIGN SHAN E ABOVE,
    VOWEL SIGN SHAN FINAL Y,SIGN SHAN TONE-2,SIGN SHAN TONE-3,SIGN SHAN TONE-5,SIGN SHAN TONE-6,
    SIGN SHAN COUNCIL TONE-2,SIGN SHAN COUNCIL TONE-3,SIGN SHAN COUNCIL EMPHATIC TONE,
    LETTER RUMAI PALAUNG FA,SIGN RUMAI PALAUNG TONE-5,SHAN DIGIT ZERO,SHAN DIGIT ONE,SHAN DIGIT TWO,
    SHAN DIGIT THREE,SHAN DIGIT FOUR,SHAN DIGIT FIVE,SHAN DIGIT SIX,SHAN DIGIT SEVEN,
    SHAN DIGIT EIGHT,SHAN DIGIT NINE,SIGN KHAMTI TONE-1,SIGN KHAMTI TONE-3,VOWEL SIGN AITON A,
    VOWEL SIGN AITON AI,SYMBOL SHAN ONE,SYMBOL SHAN EXCLAMATION"⟩]

/-- The names of U+10A0 to U+17FF. -/
def syllabic : List NameRun := [
  ⟨0x10a0, "GEORGIAN CAPITAL LETTER ", "AN,BAN,GAN,DON,EN,VIN,ZEN,TAN,IN,KAN,LAS,MAN,NAR,ON,PAR,
    ZHAR,RAE,SAN,TAR,UN,PHAR,KHAR,GHAN,QAR,SHIN,CHIN,CAN,JIL,CIL,CHAR,XAN,JHAN,HAE,HE,HIE,WE,HAR,
    HOE,,YN,,,,,,AEN"⟩,
  ⟨0x10d0, "GEORGIAN LETTER ", "AN,BAN,GAN,DON,EN,VIN,ZEN,TAN,IN,KAN,LAS,MAN,NAR,ON,PAR,ZHAR,RAE,
    SAN,TAR,UN,PHAR,KHAR,GHAN,QAR,SHIN,CHIN,CAN,JIL,CIL,CHAR,XAN,JHAN,HAE,HE,HIE,WE,HAR,HOE,FI,YN,
    ELIFI,TURNED GAN,AIN"⟩,
  ⟨0x10fb, "", "GEORGIAN PARAGRAPH SEPARATOR,MODIFIER LETTER GEORGIAN NAR,GEORGIAN LETTER AEN,
    GEORGIAN LETTER HARD SIGN,GEORGIAN LETTER LABIAL SIGN"⟩,
  ⟨0x1100, "HANGUL CHOSEONG ", "KIYEOK,SSANGKIYEOK,NIEUN,TIKEUT,SSANGTIKEUT,RIEUL,MIEUM,PIEUP,
    SSANGPIEUP,SIOS,SSANGSIOS,IEUNG,CIEUC,SSANGCIEUC,CHIEUCH,KHIEUKH,THIEUTH,PHIEUPH,HIEUH,
    NIEUN-KIYEOK,SSANGNIEUN,NIEUN-TIKEUT,NIEUN-PIEUP,TIKEUT-KIYEOK,RIEUL-NIEUN,SSANGRIEUL,
    RIEUL-HIEUH,KAPYEOUNRIEUL,MIEUM-PIEUP,KAPYEOUNMIEUM,PIEUP-KIYEOK,PIEUP-NIEUN,PIEUP-TIKEUT,
    PIEUP-SIOS,PIEUP-SIOS-KIYEOK,PIEUP-SIOS-TIKEUT,PIEUP-SIOS-PIEUP,PIEUP-SSANGSIOS,
    PIEUP-SIOS-CIEUC,PIEUP-CIEUC,PIEUP-CHIEUCH,PIEUP-THIEUTH,PIEUP-PHIEUPH,KAPYEOUNPIEUP,
    KAPYEOUNSSANGPIEUP,SIOS-KIYEOK,SIOS-NIEUN,SIOS-TIKEUT,SIOS-RIEUL,SIOS-MIEUM,SIOS-PIEUP,
    SIOS-PIEUP-KIYEOK,SIOS-SSANGSIOS,SIOS-IEUNG,SIOS-CIEUC,SIOS-CHIEUCH,SIOS-KHIEUKH,SIOS-THIEUTH,
    SIOS-PHIEUPH,SIOS-HIEUH,CHITUEUMSIOS,CHITUEUMSSANGSIOS,CEONGCHIEUMSIOS,CEONGCHIEUMSSANGSIOS,
    PANSIOS,IEUNG-KIYEOK,IEUNG-TIKEUT,IEUNG-MIEUM,IEUNG-PIEUP,IEUNG-SIOS,IEUNG-PANSIOS,SSANGIEUNG,
    IEUNG-CIEUC,IEUNG-CHIEUCH,IEUNG-THIEUTH,IEUNG-PHIEUPH,YESIEUNG,CIEUC-IEUNG,CHITUEUMCIEUC,
    CHITUEUMSSANGCIEUC,CEONGCHIEUMCIEUC,CEONGCHIEUMSSANGCIEUC,CHIEUCH-KHIEUKH,CHIEUCH-HIEUH,
    CHITUEUMCHIEUCH,CEONGCHIEUMCHIEUCH,PHIEUPH-PIEUP,KAPYEOUNPHIEUPH,SSANGHIEUH,YEORINHIEUH,
    KIYEOK-TIKEUT,NIEUN-SIOS,NIEUN-CIEUC,NIEUN-HIEUH,TIKEUT-RIEUL,FILLER"⟩,
  ⟨0x1160, "HANGUL JUNGSEONG ", "FILLER,A,AE,YA,YAE,EO,E,YEO,YE,O,WA,WAE,OE,YO,U,WEO,WE,WI,YU,EU,YI,
    I,A-O,A-U,YA-O,YA-YO,EO-O,EO-U,EO-EU,YEO-O,YEO-U,O-EO,O-E,O-YE,O-O,O-U,YO-YA,YO-YAE,YO-YEO,YO-O,
    YO-I,U-A,U-AE,U-EO-EU,U-YE,U-U,YU-A,YU-EO,YU-E,YU-YEO,YU-YE,YU-U,YU-I,EU-U,EU-EU,YI-U,I-A,I-YA,
    I-O,I-U,I-EU,I-ARAEA,ARAEA,ARAEA-EO,ARAEA-U,ARAEA-I,SSANGARAEA,A-EU,YA-U,YEO-YA,O-YA,O-YAE"⟩,
  ⟨0x11a8, "HANGUL JONGSEONG ", "KIYEOK,SSANGKIYEOK,KIYEOK-SIOS,NIEUN,NIEUN-CIEUC,NIEUN-HIEUH,
    TIKEUT,RIEUL,RIEUL-KIYEOK,RIEUL-MIEUM,RIEUL-PIEUP,RIEUL-SIOS,RIEUL-THIEUTH,RIEUL-PHIEUPH,
    RIEUL-HIEUH,MIEUM,PIEUP,PIEUP-SIOS,SIOS,SSANGSIOS,IEUNG,CIEUC,CHIEUCH,KHIEUKH,THIEUTH,PHIEUPH,
    HIEUH,KIYEOK-RIEUL,KIYEOK-SIOS-KIYEOK,NIEUN-KIYEOK,NIEUN-TIKEUT,NIEUN-SIOS,NIEUN-PANSIOS,
    NIEUN-THIEUTH,TIKEUT-KIYEOK,TIKEUT-RIEUL,RIEUL-KIYEOK-SIOS,RIEUL-NIEUN,RIEUL-TIKEUT,
    RIEUL-TIKEUT-HIEUH,SSANGRIEUL,RIEUL-MIEUM-KIYEOK,RIEUL-MIEUM-SIOS,RIEUL-PIEUP-SIOS,
    RIEUL-PIEUP-HIEUH,RIEUL-KAPYEOUNPIEUP,RIEUL-SSANGSIOS,RIEUL-PANSIOS,RIEUL-KHIEUKH,
    RIEUL-YEORINHIEUH,MIEUM-KIYEOK,MIEUM-RIEUL,MIEUM-PIEUP,MIEUM-SIOS,MIEUM-SSANGSIOS,MIEUM-PANSIOS,
    MIEUM-CHIEUCH,MIEUM-HIEUH,KAPYEOUNMIEUM,PIEUP-RIEUL,PIEUP-PHIEUPH,PIEUP-HIEUH,KAPYEOUNPIEUP,
    SIOS-KIYEOK,SIOS-TIKEUT,SIOS-RIEUL,SIOS-PIEUP,PANSIOS,IEUNG-KIYEOK,IEUNG-SSANGKIYEOK,SSANGIEUNG,
    IEUNG-KHIEUKH,YESIEUNG,YESIEUNG-SIOS,YESIEUNG-PANSIOS,PHIEUPH-PIEUP,KAPYEOUNPHIEUPH,HIEUH-NIEUN,
    HIEUH-RIEUL,HIEUH-MIEUM,HIEUH-PIEUP,YEORINHIEUH,KIYEOK-NIEUN,KIYEOK-PIEUP,KIYEOK-CHIEUCH,
    KIYEOK-KHIEUKH,KIYEOK-HIEUH,SSANGNIEUN"⟩,
  ⟨0x1200, "ETHIOPIC SYLLABLE ", "HA,HU,HI,HAA,HEE,HE,HO,HOA,LA,LU,LI,LAA,LEE,LE,LO,LWA,HHA,HHU,HHI,
    HHAA,HHEE,HHE,HHO,HHWA,MA,MU,MI,MAA,MEE,ME,MO,MWA,SZA,SZU,SZI,SZAA,SZEE,SZE,SZO,SZWA,RA,RU,RI,
    RAA,REE,RE,RO,RWA,SA,SU,SI,SAA,SEE,SE,SO,SWA,SHA,SHU,SHI,SHAA,SHEE,SHE,SHO,SHWA,QA,QU,QI,QAA,
    QEE,QE,QO,QOA,QWA,,QWI,QWAA,QWEE,QWE,,,QHA,QHU,QHI,QHAA,QHEE,QHE,QHO,,QHWA,,QHWI,QHWAA,QHWEE,
    QHWE,,,BA,BU,BI,BAA,BEE,BE,BO,BWA,VA,VU,VI,VAA,VEE,VE,VO,VWA,TA,TU,TI,TAA,TEE,TE,TO,TWA,CA,CU,
    CI,CAA,CEE,CE,CO,CWA,XA,XU,XI,XAA,XEE,XE,XO,XOA,XWA,,XWI,XWAA,XWEE,XWE,,,NA,NU,NI,NAA,NEE,NE,NO,
    NWA,NYA,NYU,NYI,NYAA,NYEE,NYE,NYO,NYWA,GLOTTAL A,GLOTTAL U,GLOTTAL I,GLOTTAL AA,GLOTTAL EE,
    GLOTTAL E,GLOTTAL O,GLOTTAL WA,KA,KU,KI,KAA,KEE,KE,KO,KOA,KWA,,KWI,KWAA,KWEE,KWE,,,KXA,KXU,KXI,
    KXAA,KXEE,KXE,KXO,,KXWA,,KXWI,KXWAA,KXWEE,KXWE,,,WA,WU,WI,WAA,WEE,WE,WO,WOA,PHARYNGEAL A,
    PHARYNGEAL U,PHARYNGEAL I,PHARYNGEAL AA,PHARYNGEAL EE,PHARYNGEAL E,PHARYNGEAL O,,ZA,ZU,ZI,ZAA,
    ZEE,ZE,ZO,ZWA,ZHA,ZHU,ZHI,ZHAA,ZHEE,ZHE,ZHO,ZHWA,YA,YU,YI,YAA,YEE,YE,YO,YOA,DA,DU,DI,DAA,DEE,DE,
    DO,DWA,DDA,DDU,DDI,DDAA,DDEE,DDE,DDO,DDWA,JA,JU,JI,JAA,JEE,JE,JO,JWA,GA,GU,GI,GAA,GEE,GE,GO,GOA,
    GWA,,GWI,GWAA,GWEE,GWE,,,GGA,GGU,GGI,GGAA,GGEE,GGE,GGO,GGWAA,THA,THU,THI,THAA,THEE,THE,THO,THWA,
    CHA,CHU,CHI,CHAA,CHEE,CHE,CHO,CHWA,PHA,PHU,PHI,PHAA,PHEE,PHE,PHO,PHWA,TSA,TSU,TSI,TSAA,TSEE,TSE,
    TSO,TSWA,TZA,TZU,TZI,TZAA,TZEE,TZE,TZO,TZOA,FA,FU,FI,FAA,FEE,FE,FO,FWA,PA,PU,PI,PAA,PEE,PE,PO,
    PWA,RYA,MYA,FYA"⟩,
  ⟨0x135d, "ETHIOPIC ", "COMBINING GEMINATION AND VOWEL LENGTH MARK,COMBINING VOWEL LENGTH MARK,
    COMBINING GEMINATION MARK,SECTION MARK,WORDSPACE,FULL STOP,COMMA,SEMICOLON,COLON,PREFACE COLON,
    QUESTION MARK,PARAGRAPH SEPARATOR,DIGIT ONE,DIGIT TWO,DIGIT THREE,DIGIT FOUR,DIGIT FIVE,
    DIGIT SIX,DIGIT SEVEN,DIGIT EIGHT,DIGIT NINE,NUMBER TEN,NUMBER TWENTY,NUMBER THIRTY,
    NUMBER FORTY,NUMBER FIFTY,NUMBER SIXTY,NUMBER SEVENTY,NUMBER EIGHTY,NUMBER NINETY,
    NUMBER HUNDRED,NUMBER TEN THOUSAND"⟩,
  ⟨0x1380, "ETHIOPIC SYLLABLE ", "SEBATBEIT MWA,MWI,MWEE,MWE,SEBATBEIT BWA,BWI,BWEE,BWE,
    SEBATBEIT FWA,FWI,FWEE,FWE,SEBATBEIT PWA,PWI,PWEE,PWE"⟩,
  ⟨0x1390, "ETHIOPIC TONAL MARK ", "YIZET,DERET,RIKRIK,SHORT RIKRIK,DIFAT,KENAT,CHIRET,HIDET,
    DERET-HIDET,KURT"⟩,
  ⟨0x13a0, "CHEROKEE LETTER ", "A,E,I,O,U,V,GA,KA,GE,GI,GO,GU,GV,HA,HE,HI,HO,HU,HV,LA,LE,LI,LO,LU,
    LV,MA,ME,MI,MO,MU,NA,HNA,NAH,NE,NI,NO,NU,NV,QUA,QUE,QUI,QUO,QUU,QUV,SA,S,SE,SI,SO,SU,SV,DA,TA,
    DE,TE,DI,TI,DO,DU,DV,DLA,TLA,TLE,TLI,TLO,TLU,TLV,TSA,TSE,TSI,TSO,TSU,TSV,WA,WE,WI,WO,WU,WV,YA,
    YE,YI,YO,YU,YV,MV"⟩,
  ⟨0x13f8, "CHEROKEE SMALL LETTER ", "YE,YI,YO,YU,YV,MV"⟩,
  ⟨0x1400, "CANADIAN SYLLABICS ", "HYPHEN,E,AAI,I,II,O,OO,Y-CREE OO,CARRIER EE,CARRIER I,A,AA,WE,
    WEST-CREE WE,WI,WEST-CREE WI,WII,WEST-CREE WII,WO,WEST-CREE WO,WOO,WEST-CREE WOO,NASKAPI WOO,WA,
    WEST-CREE WA,WAA,WEST-CREE WAA,NASKAPI WAA,AI,Y-CREE W,GLOTTAL STOP,FINAL ACUTE,FINAL GRAVE,
    FINAL BOTTOM HALF RING,FINAL TOP HALF RING,FINAL RIGHT HALF RING,FINAL RING,FINAL DOUBLE ACUTE,
    FINAL DOUBLE SHORT VERTICAL STROKES,FINAL MIDDLE DOT,FINAL SHORT HORIZONTAL STROKE,FINAL PLUS,
    FINAL DOWN TACK,EN,IN,ON,AN,PE,PAAI,PI,PII,PO,POO,Y-CREE POO,CARRIER HEE,CARRIER HI,PA,PAA,PWE,
    WEST-CREE PWE,PWI,WEST-CREE PWI,PWII,WEST-CREE PWII,PWO,WEST-CREE PWO,PWOO,WEST-CREE PWOO,PWA,
    WEST-CREE PWA,PWAA,WEST-CREE PWAA,Y-CREE PWAA,P,WEST-CREE P,CARRIER H,TE,TAAI,TI,TII,TO,TOO,
    Y-CREE TOO,CARRIER DEE,CARRIER DI,TA,TAA,TWE,WEST-CREE TWE,TWI,WEST-CREE TWI,TWII,
    WEST-CREE TWII,TWO,WEST-CREE TWO,TWOO,WEST-CREE TWOO,TWA,WEST-CREE TWA,TWAA,WEST-CREE TWAA,
    NASKAPI TWAA,T,TTE,TTI,TTO,TTA,KE,KAAI,KI,KII,KO,KOO,Y-CREE KOO,KA,KAA,KWE,WEST-CREE KWE,KWI,
    WEST-CREE KWI,KWII,WEST-CREE KWII,KWO,WEST-CREE KWO,KWOO,WEST-CREE KWOO,KWA,WEST-CREE KWA,KWAA,
    WEST-CREE KWAA,NASKAPI KWAA,K,KW,SOUTH-SLAVEY KEH,SOUTH-SLAVEY KIH,SOUTH-SLAVEY KOH,
    SOUTH-SLAVEY KAH,CE,CAAI,CI,CII,CO,COO,Y-CREE COO,CA,CAA,CWE,WEST-CREE CWE,CWI,WEST-CREE CWI,
    CWII,WEST-CREE CWII,CWO,WEST-CREE CWO,CWOO,WEST-CREE CWOO,CWA,WEST-CREE CWA,CWAA,WEST-CREE CWAA,
    NASKAPI CWAA,C,SAYISI TH,ME,MAAI,MI,MII,MO,MOO,Y-CREE MOO,MA,MAA,MWE,WEST-CREE MWE,MWI,
    WEST-CREE MWI,MWII,WEST-CREE MWII,MWO,WEST-CREE MWO,MWOO,WEST-CREE MWOO,MWA,WEST-CREE MWA,MWAA,
    WEST-CREE MWAA,NASKAPI MWAA,M,WEST-CREE M,MH,ATHAPASCAN M,SAYISI M,NE,NAAI,NI,NII,NO,NOO,
    Y-CREE NOO,NA,NAA,NWE,WEST-CREE NWE,NWA,WEST-CREE NWA,NWAA,WEST-CREE NWAA,NASKAPI NWAA,N,
    CARRIER NG,NH,LE,LAAI,LI,LII,LO,LOO,Y-CREE LOO,LA,LAA,LWE,WEST-CREE LWE,LWI,WEST-CREE LWI,LWII,
    WEST-CREE LWII,LWO,WEST-CREE LWO,LWOO,WEST-CREE LWOO,LWA,WEST-CREE LWA,LWAA,WEST-CREE LWAA,L,
    WEST-CREE L,MEDIAL L,SE,SAAI,SI,SII,SO,SOO,Y-CREE SOO,SA,SAA,SWE,WEST-CREE SWE,SWI,
    WEST-CREE SWI,SWII,WEST-CREE SWII,SWO,WEST-CREE SWO,SWOO,WEST-CREE SWOO,SWA,WEST-CREE SWA,SWAA,
    WEST-CREE SWAA,NASKAPI SWAA,S,ATHAPASCAN S,SW,BLACKFOOT S,MOOSE-CREE SK,NASKAPI SKW,NASKAPI S-W,
    NASKAPI SPWA,NASKAPI STWA,NASKAPI SKWA,NASKAPI SCWA,SHE,SHI,SHII,SHO,SHOO,SHA,SHAA,SHWE,
    WEST-CREE SHWE,SHWI,WEST-CREE SHWI,SHWII,WEST-CREE SHWII,SHWO,WEST-CREE SHWO,SHWOO,
    WEST-CREE SHWOO,SHWA,WEST-CREE SHWA,SHWAA,WEST-CREE SHWAA,SH,YE,YAAI,YI,YII,YO,YOO,Y-CREE YOO,
    YA,YAA,YWE,WEST-CREE YWE,YWI,WEST-CREE YWI,YWII,WEST-CREE YWII,YWO,WEST-CREE YWO,YWOO,
    WEST-CREE YWOO,YWA,WEST-CREE YWA,YWAA,WEST-CREE YWAA,NASKAPI YWAA,Y,BIBLE-CREE Y,WEST-CREE Y,
    SAYISI YI,RE,R-CREE RE,WEST-CREE LE,RAAI,RI,RII,RO,ROO,WEST-CREE LO,RA,RAA,WEST-CREE LA,RWAA,
    WEST-CREE RWAA,R,WEST-CREE R,MEDIAL R,FE,FAAI,FI,FII,FO,FOO,FA,FAA,FWAA,WEST-CREE FWAA,F,THE,
    N-CREE THE,THI,N-CREE THI,THII,N-CREE THII,THO,THOO,THA,THAA,THWAA,WEST-CREE THWAA,TH,TTHE,TTHI,
    TTHO,TTHA,TTH,TYE,TYI,TYO,TYA,NUNAVIK HE,NUNAVIK HI,NUNAVIK HII,NUNAVIK HO,NUNAVIK HOO,
    NUNAVIK HA,NUNAVIK HAA,NUNAVIK H,NUNAVUT H,HK,QAAI,QI,QII,QO,QOO,QA,QAA,Q,TLHE,TLHI,TLHO,TLHA,
    WEST-CREE RE,WEST-CREE RI,WEST-CREE RO,WEST-CREE RA,NGAAI,NGI,NGII,NGO,NGOO,NGA,NGAA,NG,NNG,
    SAYISI SHE,SAYISI SHI,SAYISI SHO,SAYISI SHA,WOODS-CREE THE,WOODS-CREE THI,WOODS-CREE THO,
    WOODS-CREE THA,WOODS-CREE TH,LHI,LHII,LHO,LHOO,LHA,LHAA,LH,TH-CREE THE,TH-CREE THI,TH-CREE THII,
    TH-CREE THO,TH-CREE THOO,TH-CREE THA,TH-CREE THAA,TH-CREE TH,AIVILIK B,BLACKFOOT E,BLACKFOOT I,
    BLACKFOOT O,BLACKFOOT A,BLACKFOOT WE,BLACKFOOT WI,BLACKFOOT WO,BLACKFOOT WA,BLACKFOOT NE,
    BLACKFOOT NI,BLACKFOOT NO,BLACKFOOT NA,BLACKFOOT KE,BLACKFOOT KI,BLACKFOOT KO,BLACKFOOT KA,
    SAYISI HE,SAYISI HI,SAYISI HO,SAYISI HA"⟩,
  ⟨0x15c4, "CANADIAN SYLLABICS CARRIER ", "GHU,GHO,GHE,GHEE,GHI,GHA,RU,RO,RE,REE,RI,RA,WU,WO,WE,WEE,
    WI,WA,HWU,HWO,HWE,HWEE,HWI,HWA,THU,THO,THE,THEE,THI,THA,TTU,TTO,TTE,TTEE,TTI,TTA,PU,PO,PE,PEE,
    PI,PA,P,GU,GO,GE,GEE,GI,GA,KHU,KHO,KHE,KHEE,KHI,KHA,KKU,KKO,KKE,KKEE,KKI,KKA,KK,NU,NO,NE,NEE,NI,
    NA,MU,MO,ME,MEE,MI,MA,YU,YO,YE,YEE,YI,YA,JU"⟩,
  ⟨0x1615, "CANADIAN SYLLABICS ", "SAYISI JU,CARRIER JO,CARRIER JE,CARRIER JEE,CARRIER JI,
    SAYISI JI"⟩,
  ⟨0x161b, "CANADIAN SYLLABICS CARRIER ", "JA,JJU,JJO,JJE,JJEE,JJI,JJA,LU,LO,LE,LEE,LI,LA,DLU,DLO,
    DLE,DLEE,DLI,DLA,LHU,LHO,LHE,LHEE,LHI,LHA,TLHU,TLHO,TLHE,TLHEE,TLHI,TLHA,TLU,TLO,TLE,TLEE,TLI,
    TLA,ZU,ZO,ZE,ZEE,ZI,ZA,Z,INITIAL Z,DZU,DZO,DZE,DZEE,DZI,DZA,SU,SO,SE,SEE,SI,SA,SHU,SHO,SHE,SHEE,
    SHI,SHA,SH,TSU,TSO,TSE,TSEE,TSI,TSA,CHU,CHO,CHE,CHEE,CHI,CHA,TTSU,TTSO,TTSE,TTSEE,TTSI,TTSA"⟩,
  ⟨0x166d, "CANADIAN SYLLABICS ", "CHI SIGN,FULL STOP,QAI,NGAI,NNGI,NNGII,NNGO,NNGOO,NNGA,NNGAA,
    WOODS-CREE THWEE,WOODS-CREE THWI,WOODS-CREE THWII,WOODS-CREE THWO,WOODS-CREE THWOO,
    WOODS-CREE THWA,WOODS-CREE THWAA,WOODS-CREE FINAL TH,BLACKFOOT W"⟩,
  ⟨0x1680, "OGHAM ", "SPACE MARK,LETTER BEITH,LETTER LUIS,LETTER FEARN,LETTER SAIL,LETTER NION,
    LETTER UATH,LETTER DAIR,LETTER TINNE,LETTER COLL,LETTER CEIRT,LETTER MUIN,LETTER GORT,
    LETTER NGEADAL,LETTER STRAIF,LETTER RUIS,LETTER AILM,LETTER ONN,LETTER UR,LETTER EADHADH,
    LETTER IODHADH,LETTER EABHADH,LETTER OR,LETTER UILLEANN,LETTER IFIN,LETTER EAMHANCHOLL,
    LETTER PEITH,FEATHER MARK,REVERSED FEATHER MARK"⟩,
  ⟨0x16a0, "RUNIC LETTER ", "FEHU FEOH FE F,V,URUZ UR U,YR,Y,W,THURISAZ THURS THORN,ETH,ANSUZ A,
    OS O,AC A,AESC,LONG-BRANCH-OSS O,SHORT-TWIG-OSS O,O,OE,ON,RAIDO RAD REID R,KAUNA,CEN,KAUN K,G,
    ENG,GEBO GYFU G,GAR,WUNJO WYNN W,HAGLAZ H,HAEGL H,LONG-BRANCH-HAGALL H,SHORT-TWIG-HAGALL H,
    NAUDIZ NYD NAUD N,SHORT-TWIG-NAUD N,DOTTED-N,ISAZ IS ISS I,E,JERAN J,GER,LONG-BRANCH-AR AE,
    SHORT-TWIG-AR A,IWAZ EOH,PERTHO PEORTH P,ALGIZ EOLHX,SOWILO S,SIGEL LONG-BRANCH-SOL S,
    SHORT-TWIG-SOL S,C,Z,TIWAZ TIR TYR T,SHORT-TWIG-TYR T,D,BERKANAN BEORC BJARKAN B,
    SHORT-TWIG-BJARKAN B,DOTTED-P,OPEN-P,EHWAZ EH E,MANNAZ MAN M,LONG-BRANCH-MADR M,
    SHORT-TWIG-MADR M,LAUKAZ LAGU LOGR L,DOTTED-L,INGWAZ,ING,DAGAZ DAEG D,OTHALAN ETHEL O,EAR,IOR,
    CWEORTH,CALC,CEALC,STAN,LONG-BRANCH-YR,SHORT-TWIG-YR,ICELANDIC-YR,Q,X"⟩,
  ⟨0x16eb, "RUNIC ", "SINGLE PUNCTUATION,MULTIPLE PUNCTUATION,CROSS PUNCTUATION,ARLAUG SYMBOL,
    TVIMADUR SYMBOL,BELGTHOR SYMBOL,LETTER K,LETTER SH,LETTER OO,LETTER FRANKS CASKET OS,
    LETTER FRANKS CASKET IS,LETTER FRANKS CASKET EH,LETTER FRANKS CASKET AC,
    LETTER FRANKS CASKET AESC"⟩,
  ⟨0x1700, "TAGALOG LETTER ", "A,I,U,KA,GA,NGA,TA,DA,NA,PA,BA,MA,YA,RA,LA,WA,SA,HA"⟩,
  ⟨0x1712, "TAGALOG ", "VOWEL SIGN I,VOWEL SIGN U,SIGN VIRAMA,SIGN PAMUDPOD,,,,,,,,,,
    LETTER ARCHAIC RA"⟩,
  ⟨0x1720, "HANUNOO LETTER ", "A,I,U,KA,GA,NGA,TA,DA,NA,PA,BA,MA,YA,RA,LA,WA,SA,HA"⟩,
  ⟨0x1732, "", "HANUNOO VOWEL SIGN I,HANUNOO VOWEL SIGN U,HANUNOO SIGN PAMUDPOD,
    PHILIPPINE SINGLE PUNCTUATION,PHILIPPINE DOUBLE PUNCTUATION"⟩,
  ⟨0x1740, "BUHID LETTER ", "A,I,U,KA,GA,NGA,TA,DA,NA,PA,BA,MA,YA,RA,LA,WA,SA,HA"⟩,
  ⟨0x1752, "BUHID VOWEL SIGN ", "I,U"⟩,
  ⟨0x1760, "TAGBANWA LETTER ", "A,I,U,KA,GA,NGA,TA,DA,NA,PA,BA,MA,YA,,LA,WA,SA"⟩,
  ⟨0x1772, "TAGBANWA VOWEL SIGN ", "I,U"⟩,
  ⟨0x1780, "KHMER LETTER ", "KA,KHA,KO,KHO,NGO,CA,CHA,CO,CHO,NYO,DA,TTHA,DO,TTHO,NNO,TA,THA,TO,THO,
    NO,BA,PHA,PO,PHO,MO,YO,RO,LO,VO,SHA,SSO,SA,HA,LA,QA"⟩,
  ⟨0x17a3, "KHMER INDEPENDENT VOWEL ", "QAQ,QAA,QI,QII,QU,QUK,QUU,QUUV,RY,RYY,LY,LYY,QE,QAI,
    QOO TYPE ONE,QOO TYPE TWO,QAU"⟩,
  ⟨0x17b4, "KHMER ", "VOWEL INHERENT AQ,VOWEL INHERENT AA,VOWEL SIGN AA,VOWEL SIGN I,VOWEL SIGN II,
    VOWEL SIGN Y,VOWEL SIGN YY,VOWEL SIGN U,VOWEL SIGN UU,VOWEL SIGN UA,VOWEL SIGN OE,VOWEL SIGN YA,
    VOWEL SIGN IE,VOWEL SIGN E,VOWEL SIGN AE,VOWEL SIGN AI,VOWEL SIGN OO,VOWEL SIGN AU,SIGN NIKAHIT,
    SIGN REAHMUK,SIGN YUUKALEAPINTU,SIGN MUUSIKATOAN,SIGN TRIISAP,SIGN BANTOC,SIGN ROBAT,
    SIGN TOANDAKHIAT,SIGN KAKABAT,SIGN AHSDA,SIGN SAMYOK SANNYA,SIGN VIRIAM,SIGN COENG,
    SIGN BATHAMASAT,SIGN KHAN,SIGN BARIYOOSAN,SIGN CAMNUC PII KUUH,SIGN LEK TOO,SIGN BEYYAL,
    SIGN PHNAEK MUAN,SIGN KOOMUUT,CURRENCY SYMBOL RIEL,SIGN AVAKRAHASANYA,SIGN ATTHACAN,,,
    DIGIT ZERO,DIGIT ONE,DIGIT TWO,DIGIT THREE,DIGIT FOUR,DIGIT FIVE,DIGIT SIX,DIGIT SEVEN,
    DIGIT EIGHT,DIGIT NINE"⟩,
  ⟨0x17f0, "KHMER SYMBOL LEK ATTAK ", "SON,MUOY,PII,BEI,BUON,PRAM,PRAM-MUOY,PRAM-PII,PRAM-BEI,
    PRAM-BUON"⟩]

/-- The names of U+1800 to U+1CFF. -/
def insular : List NameRun := [
  ⟨0x1800, "MONGOLIAN ", "BIRGA,ELLIPSIS,COMMA,FULL STOP,COLON,FOUR DOTS,TODO SOFT HYPHEN,
    SIBE SYLLABLE BOUNDARY MARKER,MANCHU COMMA,MANCHU FULL STOP,NIRUGU,FREE VARIATION SELECTOR ONE,
    FREE VARIATION SELECTOR TWO,FREE VARIATION SELECTOR THREE,VOWEL SEPARATOR,
    FREE VARIATION SELECTOR FOUR,DIGIT ZERO,DIGIT ONE,DIGIT TWO,DIGIT THREE,DIGIT FOUR,DIGIT FIVE,
    DIGIT SIX,DIGIT SEVEN,DIGIT EIGHT,DIGIT NINE"⟩,
  ⟨0x1820, "MONGOLIAN LETTER ", "A,E,I,O,U,OE,UE,EE,NA,ANG,BA,PA,QA,GA,MA,LA,SA,SHA,TA,DA,CHA,JA,YA,
    RA,WA,FA,KA,KHA,TSA,ZA,HAA,ZRA,LHA,ZHI,CHI,TODO LONG VOWEL SIGN,TODO E,TODO I,TODO O,TODO U,
    TODO OE,TODO UE,TODO ANG,TODO BA,TODO PA,TODO QA,TODO GA,TODO MA,TODO TA,TODO DA,TODO CHA,
    TODO JA,TODO TSA,TODO YA,TODO WA,TODO KA,TODO GAA,TODO HAA,TODO JIA,TODO NIA,TODO DZA,SIBE E,
    SIBE I,SIBE IY,SIBE UE,SIBE U,SIBE ANG,SIBE KA,SIBE GA,SIBE HA,SIBE PA,SIBE SHA,SIBE TA,SIBE DA,
    SIBE JA,SIBE FA,SIBE GAA,SIBE HAA,SIBE TSA,SIBE ZA,SIBE RAA,SIBE CHA,SIBE ZHA,MANCHU I,
    MANCHU KA,MANCHU RA,MANCHU FA,MANCHU ZHA,CHA WITH TWO DOTS,,,,,,,,ALI GALI ANUSVARA ONE,
    ALI GALI VISARGA ONE,ALI GALI DAMARU,ALI GALI UBADAMA,ALI GALI INVERTED UBADAMA,ALI GALI BALUDA,
    ALI GALI THREE BALUDA,ALI GALI A,ALI GALI I,ALI GALI KA,ALI GALI NGA,ALI GALI CA,ALI GALI TTA,
    ALI GALI TTHA,ALI GALI DDA,ALI GALI NNA,ALI GALI TA,ALI GALI DA,ALI GALI PA,ALI GALI PHA,
    ALI GALI SSA,ALI GALI ZHA,ALI GALI ZA,ALI GALI AH,TODO ALI GALI TA,TODO ALI GALI ZHA,
    MANCHU ALI GALI GHA,MANCHU ALI GALI NGA,MANCHU ALI GALI CA,MANCHU ALI GALI JHA,
    MANCHU ALI GALI TTA,MANCHU ALI GALI DDHA,MANCHU ALI GALI TA,MANCHU ALI GALI DHA,
    MANCHU ALI GALI SSA,MANCHU ALI GALI CYA,MANCHU ALI GALI ZHA,MANCHU ALI GALI ZA,ALI GALI HALF U,
    ALI GALI HALF YA,MANCHU ALI GALI BHA,ALI GALI DAGALGA,MANCHU ALI GALI LHA"⟩,
  ⟨0x18b0, "CANADIAN SYLLABICS ", "OY,AY,AAY,WAY,POY,PAY,PWOY,TAY,KAY,KWAY,MAY,NOY,NAY,LAY,SOY,SAY,
    SHOY,SHAY,SHWOY,YOY,YAY,RAY,NWI,OJIBWAY NWI,NWII,OJIBWAY NWII,NWO,OJIBWAY NWO,NWOO,OJIBWAY NWOO,
    RWEE,RWI,RWII,RWO,RWOO,RWA,OJIBWAY P,OJIBWAY T,OJIBWAY K,OJIBWAY C,OJIBWAY M,OJIBWAY N,
    OJIBWAY S,OJIBWAY SH,EASTERN W,WESTERN W,FINAL SMALL RING,FINAL RAISED DOT,R-CREE RWE,
    WEST-CREE LOO,WEST-CREE LAA,THWE,THWA,TTHWE,TTHOO,TTHAA,TLHWE,TLHOO,SAYISI SHWE,SAYISI SHOO,
    SAYISI HOO,CARRIER GWU,CARRIER DENE GEE,CARRIER GAA,CARRIER GWA,SAYISI JUU,CARRIER JWA,
    BEAVER DENE L,BEAVER DENE R,CARRIER DENTAL S"⟩,
  ⟨0x1900, "LIMBU ", "VOWEL-CARRIER LETTER,LETTER KA,LETTER KHA,LETTER GA,LETTER GHA,LETTER NGA,
    LETTER CA,LETTER CHA,LETTER JA,LETTER JHA,LETTER YAN,LETTER TA,LETTER THA,LETTER DA,LETTER DHA,
    LETTER NA,LETTER PA,LETTER PHA,LETTER BA,LETTER BHA,LETTER MA,LETTER YA,LETTER RA,LETTER LA,
    LETTER WA,LETTER SHA,LETTER SSA,LETTER SA,LETTER HA,LETTER GYAN,LETTER TRA,,VOWEL SIGN A,
    VOWEL SIGN I,VOWEL SIGN U,VOWEL SIGN EE,VOWEL SIGN AI,VOWEL SIGN OO,VOWEL SIGN AU,VOWEL SIGN E,
    VOWEL SIGN O,SUBJOINED LETTER YA,SUBJOINED LETTER RA,SUBJOINED LETTER WA,,,,,SMALL LETTER KA,
    SMALL LETTER NGA,SMALL LETTER ANUSVARA,SMALL LETTER TA,SMALL LETTER NA,SMALL LETTER PA,
    SMALL LETTER MA,SMALL LETTER RA,SMALL LETTER LA,SIGN MUKPHRENG,SIGN KEMPHRENG,SIGN SA-I,,,,,
    SIGN LOO,,,,EXCLAMATION MARK,QUESTION MARK,DIGIT ZERO,DIGIT ONE,DIGIT TWO,DIGIT THREE,
    DIGIT FOUR,DIGIT FIVE,DIGIT SIX,DIGIT SEVEN,DIGIT EIGHT,DIGIT NINE"⟩,
  ⟨0x1950, "TAI LE LETTER ", "KA,XA,NGA,TSA,SA,YA,TA,THA,LA,PA,PHA,MA,FA,VA,HA,QA,KHA,TSHA,NA,A,I,
    EE,EH,U,OO,O,UE,E,AUE,AI,,,TONE-2,TONE-3,TONE-4,TONE-5,TONE-6"⟩,
  ⟨0x1980, "NEW TAI LUE LETTER ", "HIGH QA,LOW QA,HIGH KA,HIGH XA,HIGH NGA,LOW KA,LOW XA,LOW NGA,
    HIGH TSA,HIGH SA,HIGH YA,LOW TSA,LOW SA,LOW YA,HIGH TA,HIGH THA,HIGH NA,LOW TA,LOW THA,LOW NA,
    HIGH PA,HIGH PHA,HIGH MA,LOW PA,LOW PHA,LOW MA,HIGH FA,HIGH VA,HIGH LA,LOW FA,LOW VA,LOW LA,
    HIGH HA,HIGH DA,HIGH BA,LOW HA,LOW DA,LOW BA,HIGH KVA,HIGH XVA,LOW KVA,LOW XVA,HIGH SUA,
    LOW SUA"⟩,
  ⟨0x19b0, "NEW TAI LUE VOWEL SIGN ", "VOWEL SHORTENER,AA,II,U,UU,E,AE,O,OA,UE,AY,AAY,UY,OY,OAY,UEY,
    IY"⟩,
  ⟨0x19c1, "NEW TAI LUE ", "LETTER FINAL V,LETTER FINAL NG,LETTER FINAL N,LETTER FINAL M,
    LETTER FINAL K,LETTER FINAL D,LETTER FINAL B,TONE MARK-1,TONE MARK-2,,,,,,,DIGIT ZERO,DIGIT ONE,
    DIGIT TWO,DIGIT THREE,DIGIT FOUR,DIGIT FIVE,DIGIT SIX,DIGIT SEVEN,DIGIT EIGHT,DIGIT NINE,
    THAM DIGIT ONE,,,,SIGN LAE,SIGN LAEV"⟩,
  ⟨0x19e0, "KHMER SYMBOL ", "PATHAMASAT,MUOY KOET,PII KOET,BEI KOET,BUON KOET,PRAM KOET,
    PRAM-MUOY KOET,PRAM-PII KOET,PRAM-BEI KOET,PRAM-BUON KOET,DAP KOET,DAP-MUOY KOET,DAP-PII KOET,
    DAP-BEI KOET,DAP-BUON KOET,DAP-PRAM KOET,TUTEYASAT,MUOY ROC,PII ROC,BEI ROC,BUON ROC,PRAM ROC,
    PRAM-MUOY ROC,PRAM-PII ROC,PRAM-BEI ROC,PRAM-BUON ROC,DAP ROC,DAP-MUOY ROC,DAP-PII ROC,
    DAP-BEI ROC,DAP-BUON ROC,DAP-PRAM ROC"⟩,
  ⟨0x1a00, "BUGINESE LETTER ", "KA,GA,NGA,NGKA,PA,BA,MA,MPA,TA,DA,NA,NRA,CA,JA,NYA,NYCA,YA,RA,LA,VA,
    SA,A,HA"⟩,
  ⟨0x1a17, "BUGINESE ", "VOWEL SIGN I,VOWEL SIGN U,VOWEL SIGN E,VOWEL SIGN O,VOWEL SIGN AE,,,
    PALLAWA,END OF SECTION"⟩,
  ⟨0x1a20, "TAI THAM LETTER ", "HIGH KA,HIGH KHA,HIGH KXA,LOW KA,LOW KXA,LOW KHA,NGA,HIGH CA,
    HIGH CHA,LOW CA,LOW SA,LOW CHA,NYA,RATA,HIGH RATHA,DA,LOW RATHA,RANA,HIGH TA,HIGH THA,LOW TA,
    LOW THA,NA,BA,HIGH PA,HIGH PHA,HIGH FA,LOW PA,LOW FA,LOW PHA,MA,LOW YA,HIGH YA,RA,RUE,LA,LUE,WA,
    HIGH SHA,HIGH SSA,HIGH SA,HIGH HA,LLA,A,LOW HA,I,II,U,UU,EE,OO,LAE,GREAT SA"⟩,
  ⟨0x1a55, "TAI THAM ", "CONSONANT SIGN MEDIAL RA,CONSONANT SIGN MEDIAL LA,
    CONSONANT SIGN LA TANG LAI,SIGN MAI KANG LAI,CONSONANT SIGN FINAL NGA,CONSONANT SIGN LOW PA,
    CONSONANT SIGN HIGH RATHA OR LOW PA,CONSONANT SIGN MA,CONSONANT SIGN BA,CONSONANT SIGN SA,,
    SIGN SAKOT,VOWEL SIGN A,VOWEL SIGN MAI SAT,VOWEL SIGN AA,VOWEL SIGN TALL AA,VOWEL SIGN I,
    VOWEL SIGN II,VOWEL SIGN UE,VOWEL SIGN UUE,VOWEL SIGN U,VOWEL SIGN UU,VOWEL SIGN O,
    VOWEL SIGN OA BELOW,VOWEL SIGN OY,VOWEL SIGN E,VOWEL SIGN AE,VOWEL SIGN OO,VOWEL SIGN AI,
    VOWEL SIGN THAM AI,VOWEL SIGN OA ABOVE,SIGN MAI KANG,SIGN TONE-1,SIGN TONE-2,SIGN KHUEN TONE-3,
    SIGN KHUEN TONE-4,SIGN KHUEN TONE-5,SIGN RA HAAM,SIGN MAI SAM,SIGN KHUEN-LUE KARAN,,,
    COMBINING CRYPTOGRAMMIC DOT,HORA DIGIT ZERO,HORA DIGIT ONE,HORA DIGIT TWO,HORA DIGIT THREE,
    HORA DIGIT FOUR,HORA DIGIT FIVE,HORA DIGIT SIX,HORA DIGIT SEVEN,HORA DIGIT EIGHT,
    HORA DIGIT NINE,,,,,,,THAM DIGIT ZERO,THAM DIGIT ONE,THAM DIGIT TWO,THAM DIGIT THREE,
    THAM DIGIT FOUR,THAM DIGIT FIVE,THAM DIGIT SIX,THAM DIGIT SEVEN,THAM DIGIT EIGHT,
    THAM DIGIT NINE,,,,,,,SIGN WIANG,SIGN WIANGWAAK,SIGN SAWAN,SIGN KEOW,SIGN HOY,SIGN DOKMAI,
    SIGN REVERSED ROTATED RANA,SIGN MAI YAMOK,SIGN KAAN,SIGN KAANKUU,SIGN SATKAAN,SIGN SATKAANKUU,
    SIGN HANG,SIGN CAANG"⟩,
  ⟨0x1ab0, "COMBINING ", "DOUBLED CIRCUMFLEX ACCENT,DIAERESIS-RING,INFINITY,DOWNWARDS ARROW,
    TRIPLE DOT,X-X BELOW,WIGGLY LINE BELOW,OPEN MARK BELOW,DOUBLE OPEN MARK BELOW,
    LIGHT CENTRALIZATION STROKE BELOW,STRONG CENTRALIZATION STROKE BELOW,PARENTHESES ABOVE,
    DOUBLE PARENTHESES ABOVE,PARENTHESES BELOW,PARENTHESES OVERLAY,LATIN SMALL LETTER W BELOW,
    LATIN SMALL LETTER TURNED W BELOW,LEFT PARENTHESIS ABOVE LEFT,RIGHT PARENTHESIS ABOVE RIGHT,
    LEFT PARENTHESIS BELOW LEFT,RIGHT PARENTHESIS BELOW RIGHT,SQUARE BRACKETS ABOVE,
    NUMBER SIGN ABOVE,INVERTED DOUBLE ARCH ABOVE,PLUS SIGN ABOVE,DOUBLE PLUS SIGN ABOVE,
    DOUBLE PLUS SIGN BELOW,TRIPLE ACUTE ACCENT,LATIN SMALL LETTER INSULAR G,
    LATIN SMALL LETTER INSULAR R,LATIN SMALL LETTER INSULAR T"⟩,
  ⟨0x1b00, "BALINESE SIGN ", "ULU RICEM,ULU CANDRA,CECEK,SURANG,BISAH"⟩,
  ⟨0x1b05, "BALINESE LETTER ", "AKARA,AKARA TEDUNG,IKARA,IKARA TEDUNG,UKARA,UKARA TEDUNG,RA REPA,
    RA REPA TEDUNG,LA LENGA,LA LENGA TEDUNG,EKARA,AIKARA,OKARA,OKARA TEDUNG,KA,KA MAHAPRANA,GA,
    GA GORA,NGA,CA,CA LACA,JA,JA JERA,NYA,TA LATIK,TA MURDA MAHAPRANA,DA MURDA ALPAPRANA,
    DA MURDA MAHAPRANA,NA RAMBAT,TA,TA TAWA,DA,DA MADU,NA,PA,PA KAPAL,BA,BA KEMBANG,MA,YA,RA,LA,WA,
    SA SAGA,SA SAPA,SA,HA"⟩,
  ⟨0x1b34, "BALINESE ", "SIGN REREKAN,VOWEL SIGN TEDUNG,VOWEL SIGN ULU,VOWEL SIGN ULU SARI,
    VOWEL SIGN SUKU,VOWEL SIGN SUKU ILUT,VOWEL SIGN RA REPA,VOWEL SIGN RA REPA TEDUNG,
    VOWEL SIGN LA LENGA,VOWEL SIGN LA LENGA TEDUNG,VOWEL SIGN TALING,VOWEL SIGN TALING REPA,
    VOWEL SIGN TALING TEDUNG,VOWEL SIGN TALING REPA TEDUNG,VOWEL SIGN PEPET,VOWEL SIGN PEPET TEDUNG,
    ADEG ADEG,LETTER KAF SASAK,LETTER KHOT SASAK,LETTER TZIR SASAK,LETTER EF SASAK,LETTER VE SASAK,
    LETTER ZAL SASAK,LETTER ASYURA SASAK,LETTER ARCHAIC JNYA,,,,DIGIT ZERO,DIGIT ONE,DIGIT TWO,
    DIGIT THREE,DIGIT FOUR,DIGIT FIVE,DIGIT SIX,DIGIT SEVEN,DIGIT EIGHT,DIGIT NINE,PANTI,PAMADA,
    WINDU,CARIK PAMUNGKAH,CARIK SIKI,CARIK PAREREN,PAMENENG"⟩,
  ⟨0x1b61, "BALINESE MUSICAL SYMBOL ", "DONG,DENG,DUNG,DANG,DANG SURANG,DING,DAENG,DEUNG,DAING,
    DANG GEDE,COMBINING TEGEH,COMBINING ENDEP,COMBINING KEMPUL,COMBINING KEMPLI,COMBINING JEGOGAN,
    COMBINING KEMPUL WITH JEGOGAN,COMBINING KEMPLI WITH JEGOGAN,COMBINING BENDE,COMBINING GONG,
    RIGHT-HAND OPEN DUG,RIGHT-HAND OPEN DAG,RIGHT-HAND CLOSED TUK,RIGHT-HAND CLOSED TAK,
    LEFT-HAND OPEN PANG,LEFT-HAND OPEN PUNG,LEFT-HAND CLOSED PLAK,LEFT-HAND CLOSED PLUK,
    LEFT-HAND OPEN PING"⟩,
  ⟨0x1b7d, "", "BALINESE PANTI LANTANG,BALINESE PAMADA LANTANG,,SUNDANESE SIGN PANYECEK,
    SUNDANESE SIGN PANGLAYAR,SUNDANESE SIGN PANGWISAD"⟩,
  ⟨0x1b83, "SUNDANESE LETTER ", "A,I,U,AE,O,E,EU,KA,QA,GA,NGA,CA,JA,ZA,NYA,TA,DA,NA,PA,FA,VA,BA,MA,
    YA,RA,LA,WA,SA,XA,HA"⟩,
  ⟨0x1ba1, "SUNDANESE ", "CONSONANT SIGN PAMINGKAL,CONSONANT SIGN PANYAKRA,CONSONANT SIGN PANYIKU,
    VOWEL SIGN PANGHULU,VOWEL SIGN PANYUKU,VOWEL SIGN PANAELAENG,VOWEL SIGN PANOLONG,
    VOWEL SIGN PAMEPET,VOWEL SIGN PANEULEUNG,SIGN PAMAAEH,SIGN VIRAMA,CONSONANT SIGN PASANGAN MA,
    CONSONANT SIGN PASANGAN WA,LETTER KHA,LETTER SYA,DIGIT ZERO,DIGIT ONE,DIGIT TWO,DIGIT THREE,
    DIGIT FOUR,DIGIT FIVE,DIGIT SIX,DIGIT SEVEN,DIGIT EIGHT,DIGIT NINE,AVAGRAHA,LETTER REU,
    LETTER LEU,LETTER BHA,LETTER FINAL K,LETTER FINAL M"⟩,
  ⟨0x1bc0, "BATAK LETTER ", "A,SIMALUNGUN A,HA,SIMALUNGUN HA,MANDAILING HA,BA,KARO BA,PA,
    SIMALUNGUN PA,NA,MANDAILING NA,WA,SIMALUNGUN WA,PAKPAK WA,GA,SIMALUNGUN GA,JA,DA,RA,
    SIMALUNGUN RA,MA,SIMALUNGUN MA,SOUTHERN TA,NORTHERN TA,SA,SIMALUNGUN SA,MANDAILING SA,YA,
    SIMALUNGUN YA,NGA,LA,SIMALUNGUN LA,NYA,CA,NDA,MBA,I,U"⟩,
  ⟨0x1be6, "BATAK ", "SIGN TOMPI,VOWEL SIGN E,VOWEL SIGN PAKPAK E,VOWEL SIGN EE,VOWEL SIGN I,
    VOWEL SIGN KARO I,VOWEL SIGN O,VOWEL SIGN KARO O,VOWEL SIGN U,VOWEL SIGN U FOR SIMALUNGUN SA,
    CONSONANT SIGN NG,CONSONANT SIGN H,PANGOLAT,PANONGONAN,,,,,,,,,SYMBOL BINDU NA METEK,
    SYMBOL BINDU PINARBORAS,SYMBOL BINDU JUDUL,SYMBOL BINDU PANGOLAT"⟩,
  ⟨0x1c00, "LEPCHA LETTER ", "KA,KLA,KHA,GA,GLA,NGA,CA,CHA,JA,NYA,TA,THA,DA,NA,PA,PLA,PHA,FA,FLA,BA,
    BLA,MA,MLA,TSA,TSHA,DZA,YA,RA,LA,HA,HLA,VA,SA,SHA,WA,A"⟩,
  ⟨0x1c24, "LEPCHA ", "SUBJOINED LETTER YA,SUBJOINED LETTER RA,VOWEL SIGN AA,VOWEL SIGN I,
    VOWEL SIGN O,VOWEL SIGN OO,VOWEL SIGN U,VOWEL SIGN UU,VOWEL SIGN E,CONSONANT SIGN K,
    CONSONANT SIGN M,CONSONANT SIGN L,CONSONANT SIGN N,CONSONANT SIGN P,CONSONANT SIGN R,
    CONSONANT SIGN T,CONSONANT SIGN NYIN-DO,CONSONANT SIGN KANG,SIGN RAN,SIGN NUKTA,,,,
    PUNCTUATION TA-ROL,PUNCTUATION NYET THYOOM TA-ROL,PUNCTUATION CER-WA,PUNCTUATION TSHOOK CER-WA,
    PUNCTUATION TSHOOK,DIGIT ZERO,DIGIT ONE,DIGIT TWO,DIGIT THREE,DIGIT FOUR,DIGIT FIVE,DIGIT SIX,
    DIGIT SEVEN,DIGIT EIGHT,DIGIT NINE,,,,LETTER TTA,LETTER TTHA,LETTER DDA"⟩,
  ⟨0x1c50, "OL CHIKI DIGIT ", "ZERO,ONE,TWO,THREE,FOUR,FIVE,SIX,SEVEN,EIGHT,NINE"⟩,
  ⟨0x1c5a, "OL CHIKI LETTER ", "LA,AT,AG,ANG,AL,LAA,AAK,AAJ,AAM,AAW,LI,IS,IH,INY,IR,LU,UC,UD,UNN,UY,
    LE,EP,EDD,EN,ERR,LO,OTT,OB,OV,OH"⟩,
  ⟨0x1c78, "OL CHIKI ", "MU TTUDDAG,GAAHLAA TTUDDAAG,MU-GAAHLAA TTUDDAAG,RELAA,PHAARKAA,AHAD,
    PUNCTUATION MUCAAD,PUNCTUATION DOUBLE MUCAAD"⟩,
  ⟨0x1c80, "CYRILLIC SMALL LETTER ", "ROUNDED VE,LONG-LEGGED DE,NARROW O,WIDE ES,TALL TE,
    THREE-LEGGED TE,TALL HARD SIGN,TALL YAT,UNBLENDED UK"⟩,
  ⟨0x1c90, "GEORGIAN MTAVRULI CAPITAL LETTER ", "AN,BAN,GAN,DON,EN,VIN,ZEN,TAN,IN,KAN,LAS,MAN,NAR,
    ON,PAR,ZHAR,RAE,SAN,TAR,UN,PHAR,KHAR,GHAN,QAR,SHIN,CHIN,CAN,JIL,CIL,CHAR,XAN,JHAN,HAE,HE,HIE,WE,
    HAR,HOE,FI,YN,ELIFI,TURNED GAN,AIN,,,AEN,HARD SIGN,LABIAL SIGN"⟩,
  ⟨0x1cc0, "SUNDANESE PUNCTUATION BINDU ", "SURYA,PANGLONG,PURNAMA,CAKRA,LEU SATANGA,KA SATANGA,
    DA SATANGA,BA SATANGA"⟩,
  ⟨0x1cd0, "VEDIC ", "TONE KARSHANA,TONE SHARA,TONE PRENKHA,SIGN NIHSHVASA,
    SIGN YAJURVEDIC MIDLINE SVARITA,TONE YAJURVEDIC AGGRAVATED INDEPENDENT SVARITA,
    TONE YAJURVEDIC INDEPENDENT SVARITA,TONE YAJURVEDIC KATHAKA INDEPENDENT SVARITA,
    TONE CANDRA BELOW,TONE YAJURVEDIC KATHAKA INDEPENDENT SVARITA SCHROEDER,TONE DOUBLE SVARITA,
    TONE TRIPLE SVARITA,TONE KATHAKA ANUDATTA,TONE DOT BELOW,TONE TWO DOTS BELOW,
    TONE THREE DOTS BELOW,TONE RIGVEDIC KASHMIRI INDEPENDENT SVARITA,
    TONE ATHARVAVEDIC INDEPENDENT SVARITA,SIGN VISARGA SVARITA,SIGN VISARGA UDATTA,
    SIGN REVERSED VISARGA UDATTA,SIGN VISARGA ANUDATTA,SIGN REVERSED VISARGA ANUDATTA,
    SIGN VISARGA UDATTA WITH TAIL,SIGN VISARGA ANUDATTA WITH TAIL,SIGN ANUSVARA ANTARGOMUKHA,
    SIGN ANUSVARA BAHIRGOMUKHA,SIGN ANUSVARA VAMAGOMUKHA,SIGN ANUSVARA VAMAGOMUKHA WITH TAIL,
    SIGN TIRYAK,SIGN HEXIFORM LONG ANUSVARA,SIGN LONG ANUSVARA,SIGN RTHANG LONG ANUSVARA,
    SIGN ANUSVARA UBHAYATO MUKHA,SIGN ARDHAVISARGA,SIGN ROTATED ARDHAVISARGA,TONE CANDRA ABOVE,
    SIGN JIHVAMULIYA,SIGN UPADHMANIYA,SIGN ATIKRAMA,TONE RING ABOVE,TONE DOUBLE RING ABOVE,
    SIGN DOUBLE ANUSVARA ANTARGOMUKHA"⟩]

/-- The names of U+1D00 to U+1FFF. -/
def phonetic : List NameRun := [
  ⟨0x1d00, "LATIN ", "LETTER SMALL CAPITAL A,LETTER SMALL CAPITAL AE,SMALL LETTER TURNED AE,
    LETTER SMALL CAPITAL BARRED B,LETTER SMALL CAPITAL C,LETTER SMALL CAPITAL D,
    LETTER SMALL CAPITAL ETH,LETTER SMALL CAPITAL E,SMALL LETTER TURNED OPEN E,
    SMALL LETTER TURNED I,LETTER SMALL CAPITAL J,LETTER SMALL CAPITAL K,
    LETTER SMALL CAPITAL L WITH STROKE,LETTER SMALL CAPITAL M,LETTER SMALL CAPITAL REVERSED N,
    LETTER SMALL CAPITAL O,LETTER SMALL CAPITAL OPEN O,SMALL LETTER SIDEWAYS O,
    SMALL LETTER SIDEWAYS OPEN O,SMALL LETTER SIDEWAYS O WITH STROKE,SMALL LETTER TURNED OE,
    LETTER SMALL CAPITAL OU,SMALL LETTER TOP HALF O,SMALL LETTER BOTTOM HALF O,
    LETTER SMALL CAPITAL P,LETTER SMALL CAPITAL REVERSED R,LETTER SMALL CAPITAL TURNED R,
    LETTER SMALL CAPITAL T,LETTER SMALL CAPITAL U,SMALL LETTER SIDEWAYS U,
    SMALL LETTER SIDEWAYS DIAERESIZED U,SMALL LETTER SIDEWAYS TURNED M,LETTER SMALL CAPITAL V,
    LETTER SMALL CAPITAL W,LETTER SMALL CAPITAL Z,LETTER SMALL CAPITAL EZH,
    LETTER VOICED LARYNGEAL SPIRANT,LETTER AIN"⟩,
  ⟨0x1d26, "GREEK LETTER SMALL CAPITAL ", "GAMMA,LAMDA,PI,RHO,PSI"⟩,
  ⟨0x1d2b, "", "CYRILLIC LETTER SMALL CAPITAL EL"⟩,
  ⟨0x1d2c, "MODIFIER LETTER CAPITAL ", "A,AE,B,BARRED B,D,E,REVERSED E,G,H,I,J,K,L,M,N,REVERSED N,O,
    OU,P,R,T,U,W"⟩,
  ⟨0x1d43, "MODIFIER LETTER SMALL ", "A,TURNED A,ALPHA,TURNED AE,B,D,E,SCHWA,OPEN E,TURNED OPEN E,G,
    TURNED I,K,M,ENG,O,OPEN O,TOP HALF O,BOTTOM HALF O,P,T,U,SIDEWAYS U,TURNED M,V,AIN,BETA,
    GREEK GAMMA,DELTA,GREEK PHI,CHI"⟩,
  ⟨0x1d62, "LATIN SUBSCRIPT SMALL LETTER ", "I,R,U,V"⟩,
  ⟨0x1d66, "GREEK SUBSCRIPT SMALL LETTER ", "BETA,GAMMA,RHO,PHI,CHI"⟩,
  ⟨0x1d6b, "LATIN SMALL LETTER ", "UE,B WITH MIDDLE TILDE,D WITH MIDDLE TILDE,F WITH MIDDLE TILDE,
    M WITH MIDDLE TILDE,N WITH MIDDLE TILDE,P WITH MIDDLE TILDE,R WITH MIDDLE TILDE,
    R WITH FISHHOOK AND MIDDLE TILDE,S WITH MIDDLE TILDE,T WITH MIDDLE TILDE,Z WITH MIDDLE TILDE,
    TURNED G"⟩,
  ⟨0x1d78, "", "MODIFIER LETTER CYRILLIC EN,LATIN SMALL LETTER INSULAR G,
    LATIN SMALL LETTER TH WITH STRIKETHROUGH,LATIN SMALL CAPITAL LETTER I WITH STROKE,
    LATIN SMALL LETTER IOTA WITH STROKE,LATIN SMALL LETTER P WITH STROKE,
    LATIN SMALL CAPITAL LETTER U WITH STROKE"⟩,
  ⟨0x1d7f, "LATIN SMALL LETTER ", "UPSILON WITH STROKE,B WITH PALATAL HOOK,D WITH PALATAL HOOK,
    F WITH PALATAL HOOK,G WITH PALATAL HOOK,K WITH PALATAL HOOK,L WITH PALATAL HOOK,
    M WITH PALATAL HOOK,N WITH PALATAL HOOK,P WITH PALATAL HOOK,R WITH PALATAL HOOK,
    S WITH PALATAL HOOK,ESH WITH PALATAL HOOK,V WITH PALATAL HOOK,X WITH PALATAL HOOK,
    Z WITH PALATAL HOOK,A WITH RETROFLEX HOOK,ALPHA WITH RETROFLEX HOOK,D WITH HOOK AND TAIL,
    E WITH RETROFLEX HOOK,OPEN E WITH RETROFLEX HOOK,REVERSED OPEN E WITH RETROFLEX HOOK,
    SCHWA WITH RETROFLEX HOOK,I WITH RETROFLEX HOOK,OPEN O WITH RETROFLEX HOOK,
    ESH WITH RETROFLEX HOOK,U WITH RETROFLEX HOOK,EZH WITH RETROFLEX HOOK"⟩,
  ⟨0x1d9b, "MODIFIER LETTER SMALL ", "TURNED ALPHA,C,C WITH CURL,ETH,REVERSED OPEN E,F,
    DOTLESS J WITH STROKE,SCRIPT G,TURNED H,I WITH STROKE,IOTA,CAPITAL I,CAPITAL I WITH STROKE,
    J WITH CROSSED-TAIL,L WITH RETROFLEX HOOK,L WITH PALATAL HOOK,CAPITAL L,M WITH HOOK,
    TURNED M WITH LONG LEG,N WITH LEFT HOOK,N WITH RETROFLEX HOOK,CAPITAL N,BARRED O,PHI,
    S WITH HOOK,ESH,T WITH PALATAL HOOK,U BAR,UPSILON,CAPITAL U,V WITH HOOK,TURNED V,Z,
    Z WITH RETROFLEX HOOK,Z WITH CURL,EZH,THETA"⟩,
  ⟨0x1dc0, "COMBINING ", "DOTTED GRAVE ACCENT,DOTTED ACUTE ACCENT,SNAKE BELOW,SUSPENSION MARK,
    MACRON-ACUTE,GRAVE-MACRON,MACRON-GRAVE,ACUTE-MACRON,GRAVE-ACUTE-GRAVE,ACUTE-GRAVE-ACUTE,
    LATIN SMALL LETTER R BELOW,BREVE-MACRON,MACRON-BREVE,DOUBLE CIRCUMFLEX ABOVE,OGONEK ABOVE,
    ZIGZAG BELOW,IS BELOW,UR ABOVE,US ABOVE,LATIN SMALL LETTER FLATTENED OPEN A ABOVE,
    LATIN SMALL LETTER AE,LATIN SMALL LETTER AO,LATIN SMALL LETTER AV,LATIN SMALL LETTER C CEDILLA,
    LATIN SMALL LETTER INSULAR D,LATIN SMALL LETTER ETH,LATIN SMALL LETTER G,
    LATIN LETTER SMALL CAPITAL G,LATIN SMALL LETTER K,LATIN SMALL LETTER L,
    LATIN LETTER SMALL CAPITAL L,LATIN LETTER SMALL CAPITAL M,LATIN SMALL LETTER N,
    LATIN LETTER SMALL CAPITAL N,LATIN LETTER SMALL CAPITAL R"⟩,
  ⟨0x1de3, "COMBINING LATIN SMALL LETTER ", "R ROTUNDA,S,LONG S,Z,ALPHA,B,BETA,SCHWA,F,
    L WITH DOUBLE MIDDLE TILDE,O WITH LIGHT CENTRALIZATION STROKE,P,ESH,
    U WITH LIGHT CENTRALIZATION STROKE,W,A WITH DIAERESIS,O WITH DIAERESIS,U WITH DIAERESIS"⟩,
  ⟨0x1df5, "COMBINING ", "UP TACK ABOVE,KAVYKA ABOVE RIGHT,KAVYKA ABOVE LEFT,DOT ABOVE LEFT,
    WIDE INVERTED BRIDGE BELOW,DOT BELOW LEFT,DELETION MARK,DOUBLE INVERTED BREVE BELOW,
    ALMOST EQUAL TO BELOW,LEFT ARROWHEAD ABOVE,RIGHT ARROWHEAD AND DOWN ARROWHEAD BELOW"⟩,
  ⟨0x1e00, "LATIN ", "CAPITAL LETTER A WITH RING BELOW,SMALL LETTER A WITH RING BELOW,
    CAPITAL LETTER B WITH DOT ABOVE,SMALL LETTER B WITH DOT ABOVE,CAPITAL LETTER B WITH DOT BELOW,
    SMALL LETTER B WITH DOT BELOW,CAPITAL LETTER B WITH LINE BELOW,SMALL LETTER B WITH LINE BELOW,
    CAPITAL LETTER C WITH CEDILLA AND ACUTE,SMALL LETTER C WITH CEDILLA AND ACUTE,
    CAPITAL LETTER D WITH DOT ABOVE,SMALL LETTER D WITH DOT ABOVE,CAPITAL LETTER D WITH DOT BELOW,
    SMALL LETTER D WITH DOT BELOW,CAPITAL LETTER D WITH LINE BELOW,SMALL LETTER D WITH LINE BELOW,
    CAPITAL LETTER D WITH CEDILLA,SMALL LETTER D WITH CEDILLA,
    CAPITAL LETTER D WITH CIRCUMFLEX BELOW,SMALL LETTER D WITH CIRCUMFLEX BELOW,
    CAPITAL LETTER E WITH MACRON AND GRAVE,SMALL LETTER E WITH MACRON AND GRAVE,
    CAPITAL LETTER E WITH MACRON AND ACUTE,SMALL LETTER E WITH MACRON AND ACUTE,
    CAPITAL LETTER E WITH CIRCUMFLEX BELOW,SMALL LETTER E WITH CIRCUMFLEX BELOW,
    CAPITAL LETTER E WITH TILDE BELOW,SMALL LETTER E WITH TILDE BELOW,
    CAPITAL LETTER E WITH CEDILLA AND BREVE,SMALL LETTER E WITH CEDILLA AND BREVE,
    CAPITAL LETTER F WITH DOT ABOVE,SMALL LETTER F WITH DOT ABOVE,CAPITAL LETTER G WITH MACRON,
    SMALL LETTER G WITH MACRON,CAPITAL LETTER H WITH DOT ABOVE,SMALL LETTER H WITH DOT ABOVE,
    CAPITAL LETTER H WITH DOT BELOW,SMALL LETTER H WITH DOT BELOW,CAPITAL LETTER H WITH DIAERESIS,
    SMALL LETTER H WITH DIAERESIS,CAPITAL LETTER H WITH CEDILLA,SMALL LETTER H WITH CEDILLA,
    CAPITAL LETTER H WITH BREVE BELOW,SMALL LETTER H WITH BREVE BELOW,
    CAPITAL LETTER I WITH TILDE BELOW,SMALL LETTER I WITH TILDE BELOW,
    CAPITAL LETTER I WITH DIAERESIS AND ACUTE,SMALL LETTER I WITH DIAERESIS AND ACUTE,
    CAPITAL LETTER K WITH ACUTE,SMALL LETTER K WITH ACUTE,CAPITAL LETTER K WITH DOT BELOW,
    SMALL LETTER K WITH DOT BELOW,CAPITAL LETTER K WITH LINE BELOW,SMALL LETTER K WITH LINE BELOW,
    CAPITAL LETTER L WITH DOT BELOW,SMALL LETTER L WITH DOT BELOW,
    CAPITAL LETTER L WITH DOT BELOW AND MACRON,SMALL LETTER L WITH DOT BELOW AND MACRON,
    CAPITAL LETTER L WITH LINE BELOW,SMALL LETTER L WITH LINE BELOW,
    CAPITAL LETTER L WITH CIRCUMFLEX BELOW,SMALL LETTER L WITH CIRCUMFLEX BELOW,
    CAPITAL LETTER M WITH ACUTE,SMALL LETTER M WITH ACUTE,CAPITAL LETTER M WITH DOT ABOVE,
    SMALL LETTER M WITH DOT ABOVE,CAPITAL LETTER M WITH DOT BELOW,SMALL LETTER M WITH DOT BELOW,
    CAPITAL LETTER N WITH DOT ABOVE,SMALL LETTER N WITH DOT ABOVE,CAPITAL LETTER N WITH DOT BELOW,
    SMALL LETTER N WITH DOT BELOW,CAPITAL LETTER N WITH LINE BELOW,SMALL LETTER N WITH LINE BELOW,
    CAPITAL LETTER N WITH CIRCUMFLEX BELOW,SMALL LETTER N WITH CIRCUMFLEX BELOW,
    CAPITAL LETTER O WITH TILDE AND ACUTE,SMALL LETTER O WITH TILDE AND ACUTE,
    CAPITAL LETTER O WITH TILDE AND DIAERESIS,SMALL LETTER O WITH TILDE AND DIAERESIS,
    CAPITAL LETTER O WITH MACRON AND GRAVE,SMALL LETTER O WITH MACRON AND GRAVE,
    CAPITAL LETTER O WITH MACRON AND ACUTE,SMALL LETTER O WITH MACRON AND ACUTE,
    CAPITAL LETTER P WITH ACUTE,SMALL LETTER P WITH ACUTE,CAPITAL LETTER P WITH DOT ABOVE,
    SMALL LETTER P WITH DOT ABOVE,CAPITAL LETTER R WITH DOT ABOVE,SMALL LETTER R WITH DOT ABOVE,
    CAPITAL LETTER R WITH DOT BELOW,SMALL LETTER R WITH DOT BELOW,
    CAPITAL LETTER R WITH DOT BELOW AND MACRON,SMALL LETTER R WITH DOT BELOW AND MACRON,
    CAPITAL LETTER R WITH LINE BELOW,SMALL LETTER R WITH LINE BELOW,CAPITAL LETTER S WITH DOT ABOVE,
    SMALL LETTER S WITH DOT ABOVE,CAPITAL LETTER S WITH DOT BELOW,SMALL LETTER S WITH DOT BELOW,
    CAPITAL LETTER S WITH ACUTE AND DOT ABOVE,SMALL LETTER S WITH ACUTE AND DOT ABOVE,
    CAPITAL LETTER S WITH CARON AND DOT ABOVE,SMALL LETTER S WITH CARON AND DOT ABOVE,
    CAPITAL LETTER S WITH DOT BELOW AND DOT ABOVE,SMALL LETTER S WITH DOT BELOW AND DOT ABOVE,
    CAPITAL LETTER T WITH DOT ABOVE,SMALL LETTER T WITH DOT ABOVE,CAPITAL LETTER T WITH DOT BELOW,
    SMALL LETTER T WITH DOT BELOW,CAPITAL LETTER T WITH LINE BELOW,SMALL LETTER T WITH LINE BELOW,
    CAPITAL LETTER T WITH CIRCUMFLEX BELOW,SMALL LETTER T WITH CIRCUMFLEX BELOW,
    CAPITAL LETTER U WITH DIAERESIS BELOW,SMALL LETTER U WITH DIAERESIS BELOW,
    CAPITAL LETTER U WITH TILDE BELOW,SMALL LETTER U WITH TILDE BELOW,
    CAPITAL LETTER U WITH CIRCUMFLEX BELOW,SMALL LETTER U WITH CIRCUMFLEX BELOW,
    CAPITAL LETTER U WITH TILDE AND ACUTE,SMALL LETTER U WITH TILDE AND ACUTE,
    CAPITAL LETTER U WITH MACRON AND DIAERESIS,SMALL LETTER U WITH MACRON AND DIAERESIS,
    CAPITAL LETTER V WITH TILDE,SMALL LETTER V WITH TILDE,CAPITAL LETTER V WITH DOT BELOW,
    SMALL LETTER V WITH DOT BELOW,CAPITAL LETTER W WITH GRAVE,SMALL LETTER W WITH GRAVE,
    CAPITAL LETTER W WITH ACUTE,SMALL LETTER W WITH ACUTE,CAPITAL LETTER W WITH DIAERESIS,
    SMALL LETTER W WITH DIAERESIS,CAPITAL LETTER W WITH DOT ABOVE,SMALL LETTER W WITH DOT ABOVE,
    CAPITAL LETTER W WITH DOT BELOW,SMALL LETTER W WITH DOT BELOW,CAPITAL LETTER X WITH DOT ABOVE,
    SMALL LETTER X WITH DOT ABOVE,CAPITAL LETTER X WITH DIAERESIS,SMALL LETTER X WITH DIAERESIS,
    CAPITAL LETTER Y WITH DOT ABOVE,SMALL LETTER Y WITH DOT ABOVE,CAPITAL LETTER Z WITH CIRCUMFLEX,
    SMALL LETTER Z WITH CIRCUMFLEX,CAPITAL LETTER Z WITH DOT BELOW,SMALL LETTER Z WITH DOT BELOW,
    CAPITAL LETTER Z WITH LINE BELOW,SMALL LETTER Z WITH LINE BELOW,SMALL LETTER H WITH LINE BELOW,
    SMALL LETTER T WITH DIAERESIS,SMALL LETTER W WITH RING ABOVE,SMALL LETTER Y WITH RING ABOVE,
    SMALL LETTER A WITH RIGHT HALF RING,SMALL LETTER LONG S WITH DOT ABOVE,
    SMALL LETTER LONG S WITH DIAGONAL STROKE,SMALL LETTER LONG S WITH HIGH STROKE,
    CAPITAL LETTER SHARP S,SMALL LETTER DELTA,CAPITAL LETTER A WITH DOT BELOW,
    SMALL LETTER A WITH DOT BELOW,CAPITAL LETTER A WITH HOOK ABOVE,SMALL LETTER A WITH HOOK ABOVE,
    CAPITAL LETTER A WITH CIRCUMFLEX AND ACUTE,SMALL LETTER A WITH CIRCUMFLEX AND ACUTE,
    CAPITAL LETTER A WITH CIRCUMFLEX AND GRAVE,SMALL LETTER A WITH CIRCUMFLEX AND GRAVE,
    CAPITAL LETTER A WITH CIRCUMFLEX AND HOOK ABOVE,SMALL LETTER A WITH CIRCUMFLEX AND HOOK ABOVE,
    CAPITAL LETTER A WITH CIRCUMFLEX AND TILDE,SMALL LETTER A WITH CIRCUMFLEX AND TILDE,
    CAPITAL LETTER A WITH CIRCUMFLEX AND DOT BELOW,SMALL LETTER A WITH CIRCUMFLEX AND DOT BELOW,
    CAPITAL LETTER A WITH BREVE AND ACUTE,SMALL LETTER A WITH BREVE AND ACUTE,
    CAPITAL LETTER A WITH BREVE AND GRAVE,SMALL LETTER A WITH BREVE AND GRAVE,
    CAPITAL LETTER A WITH BREVE AND HOOK ABOVE,SMALL LETTER A WITH BREVE AND HOOK ABOVE,
    CAPITAL LETTER A WITH BREVE AND TILDE,SMALL LETTER A WITH BREVE AND TILDE,
    CAPITAL LETTER A WITH BREVE AND DOT BELOW,SMALL LETTER A WITH BREVE AND DOT BELOW,
    CAPITAL LETTER E WITH DOT BELOW,SMALL LETTER E WITH DOT BELOW,CAPITAL LETTER E WITH HOOK ABOVE,
    SMALL LETTER E WITH HOOK ABOVE,CAPITAL LETTER E WITH TILDE,SMALL LETTER E WITH TILDE,
    CAPITAL LETTER E WITH CIRCUMFLEX AND ACUTE,SMALL LETTER E WITH CIRCUMFLEX AND ACUTE,
    CAPITAL LETTER E WITH CIRCUMFLEX AND GRAVE,SMALL LETTER E WITH CIRCUMFLEX AND GRAVE,
    CAPITAL LETTER E WITH CIRCUMFLEX AND HOOK ABOVE,SMALL LETTER E WITH CIRCUMFLEX AND HOOK ABOVE,
    CAPITAL LETTER E WITH CIRCUMFLEX AND TILDE,SMALL LETTER E WITH CIRCUMFLEX AND TILDE,
    CAPITAL LETTER E WITH CIRCUMFLEX AND DOT BELOW,SMALL LETTER E WITH CIRCUMFLEX AND DOT BELOW,
    CAPITAL LETTER I WITH HOOK ABOVE,SMALL LETTER I WITH HOOK ABOVE,CAPITAL LETTER I WITH DOT BELOW,
    SMALL LETTER I WITH DOT BELOW,CAPITAL LETTER O WITH DOT BELOW,SMALL LETTER O WITH DOT BELOW,
    CAPITAL LETTER O WITH HOOK ABOVE,SMALL LETTER O WITH HOOK ABOVE,
    CAPITAL LETTER O WITH CIRCUMFLEX AND ACUTE,SMALL LETTER O WITH CIRCUMFLEX AND ACUTE,
    CAPITAL LETTER O WITH CIRCUMFLEX AND GRAVE,SMALL LETTER O WITH CIRCUMFLEX AND GRAVE,
    CAPITAL LETTER O WITH CIRCUMFLEX AND HOOK ABOVE,SMALL LETTER O WITH CIRCUMFLEX AND HOOK ABOVE,
    CAPITAL LETTER O WITH CIRCUMFLEX AND TILDE,SMALL LETTER O WITH CIRCUMFLEX AND TILDE,
    CAPITAL LETTER O WITH CIRCUMFLEX AND DOT BELOW,SMALL LETTER O WITH CIRCUMFLEX AND DOT BELOW,
    CAPITAL LETTER O WITH HORN AND ACUTE,SMALL LETTER O WITH HORN AND ACUTE,
    CAPITAL LETTER O WITH HORN AND GRAVE,SMALL LETTER O WITH HORN AND GRAVE,
    CAPITAL LETTER O WITH HORN AND HOOK ABOVE,SMALL LETTER O WITH HORN AND HOOK ABOVE,
    CAPITAL LETTER O WITH HORN AND TILDE,SMALL LETTER O WITH HORN AND TILDE,
    CAPITAL LETTER O WITH HORN AND DOT BELOW,SMALL LETTER O WITH HORN AND DOT BELOW,
    CAPITAL LETTER U WITH DOT BELOW,SMALL LETTER U WITH DOT BELOW,CAPITAL LETTER U WITH HOOK ABOVE,
    SMALL LETTER U WITH HOOK ABOVE,CAPITAL LETTER U WITH HORN AND ACUTE,
    SMALL LETTER U WITH HORN AND ACUTE,CAPITAL LETTER U WITH HORN AND GRAVE,
    SMALL LETTER U WITH HORN AND GRAVE,CAPITAL LETTER U WITH HORN AND HOOK ABOVE,
    SMALL LETTER U WITH HORN AND HOOK ABOVE,CAPITAL LETTER U WITH HORN AND TILDE,
    SMALL LETTER U WITH HORN AND TILDE,CAPITAL LETTER U WITH HORN AND DOT BELOW,
    SMALL LETTER U WITH HORN AND DOT BELOW,CAPITAL LETTER Y WITH GRAVE,SMALL LETTER Y WITH GRAVE,
    CAPITAL LETTER Y WITH DOT BELOW,SMALL LETTER Y WITH DOT BELOW,CAPITAL LETTER Y WITH HOOK ABOVE,
    SMALL LETTER Y WITH HOOK ABOVE,CAPITAL LETTER Y WITH TILDE,SMALL LETTER Y WITH TILDE,
    CAPITAL LETTER MIDDLE-WELSH LL,SMALL LETTER MIDDLE-WELSH LL,CAPITAL LETTER MIDDLE-WELSH V,
    SMALL LETTER MIDDLE-WELSH V,CAPITAL LETTER Y WITH LOOP,SMALL LETTER Y WITH LOOP"⟩,
  ⟨0x1f00, "GREEK SMALL LETTER ALPHA WITH ", "PSILI,DASIA,PSILI AND VARIA,DASIA AND VARIA,
    PSILI AND OXIA,DASIA AND OXIA,PSILI AND PERISPOMENI,DASIA AND PERISPOMENI"⟩,
  ⟨0x1f08, "GREEK CAPITAL LETTER ALPHA WITH ", "PSILI,DASIA,PSILI AND VARIA,DASIA AND VARIA,
    PSILI AND OXIA,DASIA AND OXIA,PSILI AND PERISPOMENI,DASIA AND PERISPOMENI"⟩,
  ⟨0x1f10, "GREEK SMALL LETTER EPSILON WITH ", "PSILI,DASIA,PSILI AND VARIA,DASIA AND VARIA,
    PSILI AND OXIA,DASIA AND OXIA"⟩,
  ⟨0x1f18, "GREEK CAPITAL LETTER EPSILON WITH ", "PSILI,DASIA,PSILI AND VARIA,DASIA AND VARIA,
    PSILI AND OXIA,DASIA AND OXIA"⟩,
  ⟨0x1f20, "GREEK SMALL LETTER ETA WITH ", "PSILI,DASIA,PSILI AND VARIA,DASIA AND VARIA,
    PSILI AND OXIA,DASIA AND OXIA,PSILI AND PERISPOMENI,DASIA AND PERISPOMENI"⟩,
  ⟨0x1f28, "GREEK CAPITAL LETTER ETA WITH ", "PSILI,DASIA,PSILI AND VARIA,DASIA AND VARIA,
    PSILI AND OXIA,DASIA AND OXIA,PSILI AND PERISPOMENI,DASIA AND PERISPOMENI"⟩,
  ⟨0x1f30, "GREEK SMALL LETTER IOTA WITH ", "PSILI,DASIA,PSILI AND VARIA,DASIA AND VARIA,
    PSILI AND OXIA,DASIA AND OXIA,PSILI AND PERISPOMENI,DASIA AND PERISPOMENI"⟩,
  ⟨0x1f38, "GREEK CAPITAL LETTER IOTA WITH ", "PSILI,DASIA,PSILI AND VARIA,DASIA AND VARIA,
    PSILI AND OXIA,DASIA AND OXIA,PSILI AND PERISPOMENI,DASIA AND PERISPOMENI"⟩,
  ⟨0x1f40, "GREEK SMALL LETTER OMICRON WITH ", "PSILI,DASIA,PSILI AND VARIA,DASIA AND VARIA,
    PSILI AND OXIA,DASIA AND OXIA"⟩,
  ⟨0x1f48, "GREEK CAPITAL LETTER OMICRON WITH ", "PSILI,DASIA,PSILI AND VARIA,DASIA AND VARIA,
    PSILI AND OXIA,DASIA AND OXIA"⟩,
  ⟨0x1f50, "GREEK SMALL LETTER UPSILON WITH ", "PSILI,DASIA,PSILI AND VARIA,DASIA AND VARIA,
    PSILI AND OXIA,DASIA AND OXIA,PSILI AND PERISPOMENI,DASIA AND PERISPOMENI"⟩,
  ⟨0x1f59, "GREEK CAPITAL LETTER UPSILON WITH ", "DASIA,,DASIA AND VARIA,,DASIA AND OXIA,,
    DASIA AND PERISPOMENI"⟩,
  ⟨0x1f60, "GREEK SMALL LETTER OMEGA WITH ", "PSILI,DASIA,PSILI AND VARIA,DASIA AND VARIA,
    PSILI AND OXIA,DASIA AND OXIA,PSILI AND PERISPOMENI,DASIA AND PERISPOMENI"⟩,
  ⟨0x1f68, "GREEK CAPITAL LETTER OMEGA WITH ", "PSILI,DASIA,PSILI AND VARIA,DASIA AND VARIA,
    PSILI AND OXIA,DASIA AND OXIA,PSILI AND PERISPOMENI,DASIA AND PERISPOMENI"⟩,
  ⟨0x1f70, "GREEK SMALL LETTER ", "ALPHA WITH VARIA,ALPHA WITH OXIA,EPSILON WITH VARIA,
    EPSILON WITH OXIA,ETA WITH VARIA,ETA WITH OXIA,IOTA WITH VARIA,IOTA WITH OXIA,
    OMICRON WITH VARIA,OMICRON WITH OXIA,UPSILON WITH VARIA,UPSILON WITH OXIA,OMEGA WITH VARIA,
    OMEGA WITH OXIA,,,ALPHA WITH PSILI AND YPOGEGRAMMENI,ALPHA WITH DASIA AND YPOGEGRAMMENI,
    ALPHA WITH PSILI AND VARIA AND YPOGEGRAMMENI,ALPHA WITH DASIA AND VARIA AND YPOGEGRAMMENI,
    ALPHA WITH PSILI AND OXIA AND YPOGEGRAMMENI,ALPHA WITH DASIA AND OXIA AND YPOGEGRAMMENI,
    ALPHA WITH PSILI AND PERISPOMENI AND YPOGEGRAMMENI,
    ALPHA WITH DASIA AND PERISPOMENI AND YPOGEGRAMMENI"⟩,
  ⟨0x1f88, "GREEK CAPITAL LETTER ALPHA WITH ", "PSILI AND PROSGEGRAMMENI,DASIA AND PROSGEGRAMMENI,
    PSILI AND VARIA AND PROSGEGRAMMENI,DASIA AND VARIA AND PROSGEGRAMMENI,
    PSILI AND OXIA AND PROSGEGRAMMENI,DASIA AND OXIA AND PROSGEGRAMMENI,
    PSILI AND PERISPOMENI AND PROSGEGRAMMENI,DASIA AND PERISPOMENI AND PROSGEGRAMMENI"⟩,
  ⟨0x1f90, "GREEK SMALL LETTER ETA WITH ", "PSILI AND YPOGEGRAMMENI,DASIA AND YPOGEGRAMMENI,
    PSILI AND VARIA AND YPOGEGRAMMENI,DASIA AND VARIA AND YPOGEGRAMMENI,
    PSILI AND OXIA AND YPOGEGRAMMENI,DASIA AND OXIA AND YPOGEGRAMMENI,
    PSILI AND PERISPOMENI AND YPOGEGRAMMENI,DASIA AND PERISPOMENI AND YPOGEGRAMMENI"⟩,
  ⟨0x1f98, "GREEK CAPITAL LETTER ETA WITH ", "PSILI AND PROSGEGRAMMENI,DASIA AND PROSGEGRAMMENI,
    PSILI AND VARIA AND PROSGEGRAMMENI,DASIA AND VARIA AND PROSGEGRAMMENI,
    PSILI AND OXIA AND PROSGEGRAMMENI,DASIA AND OXIA AND PROSGEGRAMMENI,
    PSILI AND PERISPOMENI AND PROSGEGRAMMENI,DASIA AND PERISPOMENI AND PROSGEGRAMMENI"⟩,
  ⟨0x1fa0, "GREEK SMALL LETTER OMEGA WITH ", "PSILI AND YPOGEGRAMMENI,DASIA AND YPOGEGRAMMENI,
    PSILI AND VARIA AND YPOGEGRAMMENI,DASIA AND VARIA AND YPOGEGRAMMENI,
    PSILI AND OXIA AND YPOGEGRAMMENI,DASIA AND OXIA AND YPOGEGRAMMENI,
    PSILI AND PERISPOMENI AND YPOGEGRAMMENI,DASIA AND PERISPOMENI AND YPOGEGRAMMENI"⟩,
  ⟨0x1fa8, "GREEK CAPITAL LETTER OMEGA WITH ", "PSILI AND PROSGEGRAMMENI,DASIA AND PROSGEGRAMMENI,
    PSILI AND VARIA AND PROSGEGRAMMENI,DASIA AND VARIA AND PROSGEGRAMMENI,
    PSILI AND OXIA AND PROSGEGRAMMENI,DASIA AND OXIA AND PROSGEGRAMMENI,
    PSILI AND PERISPOMENI AND PROSGEGRAMMENI,DASIA AND PERISPOMENI AND PROSGEGRAMMENI"⟩,
  ⟨0x1fb0, "GREEK SMALL LETTER ALPHA WITH ", "VRACHY,MACRON,VARIA AND YPOGEGRAMMENI,YPOGEGRAMMENI,
    OXIA AND YPOGEGRAMMENI,,PERISPOMENI,PERISPOMENI AND YPOGEGRAMMENI"⟩,
  ⟨0x1fb8, "GREEK ", "CAPITAL LETTER ALPHA WITH VRACHY,CAPITAL LETTER ALPHA WITH MACRON,
    CAPITAL LETTER ALPHA WITH VARIA,CAPITAL LETTER ALPHA WITH OXIA,
    CAPITAL LETTER ALPHA WITH PROSGEGRAMMENI,KORONIS,PROSGEGRAMMENI,PSILI,PERISPOMENI,
    DIALYTIKA AND PERISPOMENI,SMALL LETTER ETA WITH VARIA AND YPOGEGRAMMENI,
    SMALL LETTER ETA WITH YPOGEGRAMMENI,SMALL LETTER ETA WITH OXIA AND YPOGEGRAMMENI,,
    SMALL LETTER ETA WITH PERISPOMENI,SMALL LETTER ETA WITH PERISPOMENI AND YPOGEGRAMMENI,
    CAPITAL LETTER EPSILON WITH VARIA,CAPITAL LETTER EPSILON WITH OXIA,
    CAPITAL LETTER ETA WITH VARIA,CAPITAL LETTER ETA WITH OXIA,
    CAPITAL LETTER ETA WITH PROSGEGRAMMENI,PSILI AND VARIA,PSILI AND OXIA,PSILI AND PERISPOMENI,
    SMALL LETTER IOTA WITH VRACHY,SMALL LETTER IOTA WITH MACRON,
    SMALL LETTER IOTA WITH DIALYTIKA AND VARIA,SMALL LETTER IOTA WITH DIALYTIKA AND OXIA,,,
    SMALL LETTER IOTA WITH PERISPOMENI,SMALL LETTER IOTA WITH DIALYTIKA AND PERISPOMENI,
    CAPITAL LETTER IOTA WITH VRACHY,CAPITAL LETTER IOTA WITH MACRON,CAPITAL LETTER IOTA WITH VARIA,
    CAPITAL LETTER IOTA WITH OXIA,,DASIA AND VARIA,DASIA AND OXIA,DASIA AND PERISPOMENI,
    SMALL LETTER UPSILON WITH VRACHY,SMALL LETTER UPSILON WITH MACRON,
    SMALL LETTER UPSILON WITH DIALYTIKA AND VARIA,SMALL LETTER UPSILON WITH DIALYTIKA AND OXIA,
    SMALL LETTER RHO WITH PSILI,SMALL LETTER RHO WITH DASIA,SMALL LETTER UPSILON WITH PERISPOMENI,
    SMALL LETTER UPSILON WITH DIALYTIKA AND PERISPOMENI,CAPITAL LETTER UPSILON WITH VRACHY,
    CAPITAL LETTER UPSILON WITH MACRON,CAPITAL LETTER UPSILON WITH VARIA,
    CAPITAL LETTER UPSILON WITH OXIA,CAPITAL LETTER RHO WITH DASIA,DIALYTIKA AND VARIA,
    DIALYTIKA AND OXIA,VARIA,,,SMALL LETTER OMEGA WITH VARIA AND YPOGEGRAMMENI,
    SMALL LETTER OMEGA WITH YPOGEGRAMMENI,SMALL LETTER OMEGA WITH OXIA AND YPOGEGRAMMENI,,
    SMALL LETTER OMEGA WITH PERISPOMENI,SMALL LETTER OMEGA WITH PERISPOMENI AND YPOGEGRAMMENI,
    CAPITAL LETTER OMICRON WITH VARIA,CAPITAL LETTER OMICRON WITH OXIA,
    CAPITAL LETTER OMEGA WITH VARIA,CAPITAL LETTER OMEGA WITH OXIA,
    CAPITAL LETTER OMEGA WITH PROSGEGRAMMENI,OXIA,DASIA"⟩]

end RoutePattern.Text.NameRun
