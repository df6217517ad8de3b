import MergeTrain.Unicode.Classification

/-!
# Scripts

Unicode assigns every character one script, named by four letters: `Grek` for Greek, `Zyyy` for
characters common to many scripts, `Zzzz` for characters without any. Some characters are used with
a few scripts only, and these are listed for them besides.

## Main definitions

* `script` — the scripts of all characters, with their names.
* `usedWith` — the characters that are used with a script.
-/

namespace MergeTrain.Unicode

/-- The lengths of the runs of characters with one script, each with that script. -/
def scriptText : String :=
  String.join
    [ "65Zyyy26Latn6Zyyy26Latn47Zyyy1Latn15Zyyy1Latn5Zyyy23Latn1Zyyy31Latn1Zyyy449Latn39Zyyy5Latn",
      "5Zyyy2Bopo20Zyyy112Zinh4Grek1Zyyy3Grek2Zzzz4Grek1Zyyy1Grek4Zzzz1Grek1Zyyy1Grek1Zyyy3Grek1Z",
      "zzz1Grek1Zzzz20Grek1Zzzz63Grek14Copt16Grek133Cyrl2Zinh169Cyrl1Zzzz38Armn2Zzzz50Armn2Zzzz3A",
      "rmn1Zzzz55Hebr8Zzzz27Hebr4Zzzz6Hebr11Zzzz5Arab1Zyyy6Arab1Zyyy14Arab1Zyyy3Arab1Zyyy32Arab1Z",
      "yyy10Arab11Zinh26Arab1Zinh108Arab1Zyyy34Arab14Syrc1Zzzz60Syrc2Zzzz3Syrc48Arab50Thaa14Zzzz5",
      "9Nkoo2Zzzz3Nkoo46Samr2Zzzz15Samr1Zzzz28Mand2Zzzz1Mand1Zzzz11Syrc5Zzzz31Arab1Zzzz2Arab5Zzzz",
      "75Arab1Zyyy29Arab81Deva4Zinh15Deva2Zyyy26Deva4Beng1Zzzz8Beng2Zzzz2Beng2Zzzz22Beng1Zzzz7Ben",
      "g1Zzzz1Beng3Zzzz4Beng2Zzzz9Beng2Zzzz2Beng2Zzzz4Beng8Zzzz1Beng4Zzzz2Beng1Zzzz5Beng2Zzzz25Be",
      "ng2Zzzz3Guru1Zzzz6Guru4Zzzz2Guru2Zzzz22Guru1Zzzz7Guru1Zzzz2Guru1Zzzz2Guru1Zzzz2Guru2Zzzz1G",
      "uru1Zzzz5Guru4Zzzz2Guru2Zzzz3Guru3Zzzz1Guru7Zzzz4Guru1Zzzz1Guru7Zzzz17Guru10Zzzz3Gujr1Zzzz",
      "9Gujr1Zzzz3Gujr1Zzzz22Gujr1Zzzz7Gujr1Zzzz2Gujr1Zzzz5Gujr2Zzzz10Gujr1Zzzz3Gujr1Zzzz3Gujr2Zz",
      "zz1Gujr15Zzzz4Gujr2Zzzz12Gujr7Zzzz7Gujr1Zzzz3Orya1Zzzz8Orya2Zzzz2Orya2Zzzz22Orya1Zzzz7Orya",
      "1Zzzz2Orya1Zzzz5Orya2Zzzz9Orya2Zzzz2Orya2Zzzz3Orya7Zzzz3Orya4Zzzz2Orya1Zzzz5Orya2Zzzz18Ory",
      "a10Zzzz2Taml1Zzzz6Taml3Zzzz3Taml1Zzzz4Taml3Zzzz2Taml1Zzzz1Taml1Zzzz2Taml3Zzzz2Taml3Zzzz3Ta",
      "ml3Zzzz12Taml4Zzzz5Taml3Zzzz3Taml1Zzzz4Taml2Zzzz1Taml6Zzzz1Taml14Zzzz21Taml5Zzzz13Telu1Zzz",
      "z3Telu1Zzzz23Telu1Zzzz16Telu2Zzzz9Telu1Zzzz3Telu1Zzzz4Telu7Zzzz2Telu1Zzzz3Telu2Zzzz1Telu2Z",
      "zzz4Telu2Zzzz10Telu7Zzzz9Telu13Knda1Zzzz3Knda1Zzzz23Knda1Zzzz10Knda1Zzzz5Knda2Zzzz9Knda1Zz",
      "zz3Knda1Zzzz4Knda7Zzzz2Knda6Zzzz2Knda1Zzzz4Knda2Zzzz10Knda1Zzzz3Knda12Zzzz13Mlym1Zzzz3Mlym",
      "1Zzzz51Mlym1Zzzz3Mlym1Zzzz6Mlym4Zzzz16Mlym2Zzzz26Mlym1Zzzz3Sinh1Zzzz18Sinh3Zzzz24Sinh1Zzzz",
      "9Sinh1Zzzz1Sinh2Zzzz7Sinh3Zzzz1Sinh4Zzzz6Sinh1Zzzz1Sinh1Zzzz8Sinh6Zzzz10Sinh2Zzzz3Sinh12Zz",
      "zz58Thai4Zzzz1Zyyy28Thai37Zzzz2Laoo1Zzzz1Laoo1Zzzz5Laoo1Zzzz24Laoo1Zzzz1Laoo1Zzzz23Laoo2Zz",
      "zz5Laoo1Zzzz1Laoo1Zzzz7Laoo1Zzzz10Laoo2Zzzz4Laoo32Zzzz72Tibt1Zzzz36Tibt4Zzzz39Tibt1Zzzz36T",
      "ibt1Zzzz15Tibt1Zzzz7Tibt4Zyyy2Tibt37Zzzz160Mymr38Geor1Zzzz1Geor5Zzzz1Geor2Zzzz43Geor1Zyyy4",
      "Geor256Hang73Ethi1Zzzz4Ethi2Zzzz7Ethi1Zzzz1Ethi1Zzzz4Ethi2Zzzz41Ethi1Zzzz4Ethi2Zzzz33Ethi1",
      "Zzzz4Ethi2Zzzz7Ethi1Zzzz1Ethi1Zzzz4Ethi2Zzzz15Ethi1Zzzz57Ethi1Zzzz4Ethi2Zzzz67Ethi2Zzzz32E",
      "thi3Zzzz26Ethi6Zzzz86Cher2Zzzz6Cher2Zzzz640Cans29Ogam3Zzzz75Runr3Zyyy11Runr7Zzzz22Tglg9Zzz",
      "z1Tglg21Hano2Zyyy9Zzzz20Buhd12Zzzz13Tagb1Zzzz3Tagb1Zzzz2Tagb12Zzzz94Khmr2Zzzz10Khmr6Zzzz10",
      "Khmr6Zzzz2Mong2Zyyy1Mong1Zyyy20Mong6Zzzz89Mong7Zzzz43Mong5Zzzz70Cans10Zzzz31Limb1Zzzz12Lim",
      "b4Zzzz12Limb4Zzzz1Limb3Zzzz12Limb30Tale2Zzzz5Tale11Zzzz44Talu4Zzzz26Talu6Zzzz11Talu3Zzzz2T",
      "alu32Khmr28Bugi2Zzzz2Bugi63Lana1Zzzz29Lana2Zzzz11Lana6Zzzz10Lana6Zzzz14Lana2Zzzz31Zinh49Zz",
      "zz77Bali1Zzzz50Bali64Sund52Batk8Zzzz4Batk56Lepc3Zzzz15Lepc3Zzzz3Lepc48Olck11Cyrl5Zzzz43Geo",
      "r2Zzzz3Geor8Sund8Zzzz3Zinh1Zyyy13Zinh1Zyyy7Zinh4Zyyy1Zinh6Zyyy1Zinh3Zyyy2Zinh1Zyyy5Zzzz38L",
      "atn5Grek1Cyrl49Latn5Grek4Latn5Grek13Latn1Cyrl70Latn1Grek64Zinh256Latn22Grek2Zzzz6Grek2Zzzz",
      "38Grek2Zzzz6Grek2Zzzz8Grek1Zzzz1Grek1Zzzz1Grek1Zzzz1Grek1Zzzz31Grek2Zzzz53Grek1Zzzz15Grek1",
      "Zzzz14Grek2Zzzz6Grek1Zzzz19Grek2Zzzz3Grek1Zzzz9Grek1Zzzz12Zyyy2Zinh87Zyyy1Zzzz11Zyyy1Latn2",
      "Zzzz11Zyyy1Latn15Zyyy1Zzzz13Latn3Zzzz33Zyyy15Zzzz33Zinh15Zzzz38Zyyy1Grek3Zyyy2Latn6Zyyy1La",
      "tn27Zyyy1Latn17Zyyy41Latn3Zyyy4Zzzz666Zyyy22Zzzz11Zyyy21Zzzz928Zyyy256Brai628Zyyy2Zzzz32Zy",
      "yy1Zzzz105Zyyy96Glag32Latn116Copt5Zzzz7Copt38Geor1Zzzz1Geor5Zzzz1Geor2Zzzz56Tfng7Zzzz2Tfng",
      "14Zzzz1Tfng23Ethi9Zzzz7Ethi1Zzzz7Ethi1Zzzz7Ethi1Zzzz7Ethi1Zzzz7Ethi1Zzzz7Ethi1Zzzz7Ethi1Zz",
      "zz7Ethi1Zzzz32Cyrl94Zyyy34Zzzz26Hani1Zzzz89Hani12Zzzz214Hani26Zzzz21Zyyy1Hani1Zyyy1Hani25Z",
      "yyy9Hani4Zinh2Hang8Zyyy4Hani4Zyyy1Zzzz86Hira2Zzzz2Zinh2Zyyy3Hira1Zyyy90Kana2Zyyy3Kana5Zzzz",
      "43Bopo1Zzzz94Hang1Zzzz16Zyyy32Bopo38Zyyy9Zzzz1Zyyy16Kana31Hang1Zzzz64Zyyy31Hang81Zyyy47Kan",
      "a1Zyyy88Kana168Zyyy6592Hani64Zyyy20992Hani1165Yiii3Zzzz55Yiii9Zzzz48Lisu300Vaii20Zzzz96Cyr",
      "l88Bamu8Zzzz34Zyyy102Latn3Zyyy67Latn2Zzzz2Latn1Zzzz1Latn1Zzzz8Latn21Zzzz14Latn45Sylo3Zzzz1",
      "0Zyyy6Zzzz56Phag8Zzzz70Saur8Zzzz12Saur6Zzzz32Deva46Kali1Zyyy1Kali36Rjng11Zzzz1Rjng29Hang3Z",
      "zzz78Java1Zzzz1Zyyy10Java4Zzzz2Java31Mymr1Zzzz55Cham9Zzzz14Cham2Zzzz10Cham2Zzzz4Cham32Mymr",
      "67Tavt24Zzzz5Tavt23Mtei10Zzzz6Ethi2Zzzz6Ethi2Zzzz6Ethi9Zzzz7Ethi1Zzzz7Ethi1Zzzz43Latn1Zyyy",
      "9Latn1Grek4Latn2Zyyy4Zzzz80Cher46Mtei2Zzzz10Mtei6Zzzz11172Hang12Zzzz23Hang4Zzzz49Hang8452Z",
      "zzz366Hani2Zzzz106Hani38Zzzz7Latn12Zzzz5Armn5Zzzz26Hebr1Zzzz5Hebr1Zzzz1Hebr1Zzzz2Hebr1Zzzz",
      "2Hebr1Zzzz10Hebr115Arab16Zzzz363Arab2Zyyy80Arab2Zzzz54Arab7Zzzz1Arab32Zzzz16Arab16Zinh10Zy",
      "yy6Zzzz14Zinh2Cyrl35Zyyy1Zzzz19Zyyy1Zzzz4Zyyy4Zzzz5Arab1Zzzz135Arab2Zzzz1Zyyy1Zzzz32Zyyy26",
      "Latn6Zyyy26Latn11Zyyy10Kana1Zyyy45Kana2Zyyy31Hang3Zzzz6Hang2Zzzz6Hang2Zzzz6Hang2Zzzz3Hang3",
      "Zzzz7Zyyy1Zzzz7Zyyy10Zzzz5Zyyy2Zzzz12Linb1Zzzz26Linb1Zzzz19Linb1Zzzz2Linb1Zzzz15Linb2Zzzz1",
      "4Linb34Zzzz123Linb5Zzzz3Zyyy4Zzzz45Zyyy3Zzzz9Zyyy79Grek1Zzzz13Zyyy3Zzzz1Grek47Zzzz45Zyyy1Z",
      "inh130Zzzz29Lyci3Zzzz49Cari15Zzzz1Zinh27Zyyy4Zzzz36Ital9Zzzz3Ital27Goth5Zzzz43Perm5Zzzz30U",
      "gar1Zzzz1Ugar36Xpeo4Zzzz14Xpeo42Zzzz80Dsrt48Shaw30Osma2Zzzz10Osma6Zzzz36Osge4Zzzz36Osge4Zz",
      "zz40Elba8Zzzz52Aghb11Zzzz1Aghb11Vith1Zzzz15Vith1Zzzz7Vith1Zzzz2Vith1Zzzz11Vith1Zzzz15Vith1",
      "Zzzz7Vith1Zzzz2Vith3Zzzz52Todr12Zzzz311Lina9Zzzz22Lina10Zzzz8Lina24Zzzz6Latn1Zzzz42Latn1Zz",
      "zz9Latn69Zzzz6Cprt2Zzzz1Cprt1Zzzz44Cprt1Zzzz2Cprt3Zzzz1Cprt2Zzzz1Cprt22Armi1Zzzz9Armi32Pal",
      "m31Nbat8Zzzz9Nbat48Zzzz19Hatr1Zzzz2Hatr5Zzzz5Hatr28Phnx3Zzzz1Phnx26Lydi5Zzzz1Lydi64Zzzz32M",
      "ero24Merc4Zzzz20Merc2Zzzz46Merc4Khar1Zzzz2Khar5Zzzz8Khar1Zzzz3Khar1Zzzz29Khar2Zzzz3Khar4Zz",
      "zz10Khar7Zzzz9Khar7Zzzz32Sarb32Narb32Zzzz39Mani4Zzzz12Mani9Zzzz54Avst3Zzzz7Avst22Prti2Zzzz",
      "8Prti19Phli5Zzzz8Phli18Phlp7Zzzz4Phlp12Zzzz7Phlp80Zzzz73Orkh55Zzzz51Hung13Zzzz51Hung7Zzzz6",
      "Hung40Rohg8Zzzz10Rohg6Zzzz38Gara3Zzzz29Gara8Zzzz2Gara208Zzzz31Arab1Zzzz42Yezi1Zzzz3Yezi2Zz",
      "zz2Yezi16Zzzz3Arab55Zzzz4Arab40Sogo8Zzzz42Sogd22Zzzz26Ougr38Zzzz28Chrs20Zzzz23Elym9Zzzz78B",
      "rah4Zzzz36Brah9Zzzz1Brah67Kthi10Zzzz1Kthi2Zzzz25Sora7Zzzz10Sora6Zzzz53Cakm1Zzzz18Cakm8Zzzz",
      "39Mahj9Zzzz96Shrd1Zzzz20Sinh11Zzzz18Khoj1Zzzz47Khoj62Zzzz7Mult1Zzzz1Mult1Zzzz4Mult1Zzzz15M",
      "ult1Zzzz11Mult6Zzzz59Sind5Zzzz10Sind6Zzzz4Gran1Zzzz8Gran2Zzzz2Gran2Zzzz22Gran1Zzzz7Gran1Zz",
      "zz2Gran1Zzzz5Gran1Zzzz1Zinh9Gran2Zzzz2Gran2Zzzz3Gran2Zzzz1Gran6Zzzz1Gran5Zzzz7Gran2Zzzz7Gr",
      "an3Zzzz5Gran11Zzzz10Tutg1Zzzz1Tutg2Zzzz1Tutg1Zzzz38Tutg1Zzzz10Tutg1Zzzz1Tutg2Zzzz1Tutg1Zzz",
      "z4Tutg1Zzzz10Tutg1Zzzz2Tutg8Zzzz2Tutg29Zzzz92Newa1Zzzz5Newa30Zzzz72Tirh8Zzzz10Tirh166Zzzz5",
      "4Sidd2Zzzz38Sidd34Zzzz69Modi11Zzzz10Modi6Zzzz13Mong19Zzzz58Takr6Zzzz10Takr6Zzzz20Mymr28Zzz",
      "z27Ahom2Zzzz15Ahom4Zzzz23Ahom185Zzzz60Dogr100Zzzz83Wara12Zzzz1Wara7Diak2Zzzz1Diak2Zzzz8Dia",
      "k1Zzzz2Diak1Zzzz30Diak1Zzzz2Diak2Zzzz12Diak9Zzzz10Diak70Zzzz8Nand2Zzzz46Nand2Zzzz11Nand27Z",
      "zzz72Zanb8Zzzz83Soyo13Zzzz16Cans57Pauc7Zzzz10Deva182Zzzz34Sunu14Zzzz10Sunu6Zzzz9Bhks1Zzzz4",
      "5Bhks1Zzzz14Bhks10Zzzz29Bhks3Zzzz32Marc2Zzzz22Marc1Zzzz14Marc73Zzzz7Gonm1Zzzz2Gonm1Zzzz44G",
      "onm3Zzzz1Gonm1Zzzz2Gonm1Zzzz9Gonm8Zzzz10Gonm6Zzzz6Gong1Zzzz2Gong1Zzzz37Gong1Zzzz2Gong1Zzzz",
      "6Gong7Zzzz10Gong310Zzzz25Maka7Zzzz17Kawi1Zzzz41Kawi3Zzzz29Kawi85Zzzz1Lisu15Zzzz50Taml13Zzz",
      "z1Taml922Xsux102Zzzz111Xsux1Zzzz5Xsux11Zzzz196Xsux2636Zzzz99Cpmn13Zzzz1110Egyp10Zzzz3995Eg",
      "yp5Zzzz583Hluw6841Zzzz58Gukh1734Zzzz569Bamu7Zzzz31Mroo1Zzzz10Mroo4Zzzz2Mroo79Tnsa1Zzzz10Tn",
      "sa6Zzzz30Bass2Zzzz6Bass10Zzzz70Hmng10Zzzz10Hmng1Zzzz7Hmng1Zzzz21Hmng5Zzzz19Hmng432Zzzz58Kr",
      "ai198Zzzz91Medf101Zzzz75Plrd4Zzzz57Plrd7Zzzz17Plrd64Zzzz1Tang1Nshu2Hani1Kits11Zzzz2Hani14Z",
      "zzz6136Tang8Zzzz768Tang470Kits41Zzzz1Kits9Tang8935Zzzz4Kana1Zzzz7Kana1Zzzz2Kana1Zzzz1Kana2",
      "87Hira3Kana15Zzzz1Hira29Zzzz3Hira2Zzzz1Kana14Zzzz4Kana8Zzzz396Nshu2308Zzzz107Dupl5Zzzz13Du",
      "pl3Zzzz9Dupl7Zzzz10Dupl2Zzzz4Dupl4Zyyy3932Zzzz250Zyyy6Zzzz436Zyyy76Zzzz46Zinh2Zzzz23Zinh9Z",
      "zzz116Zyyy60Zzzz246Zyyy10Zzzz39Zyyy2Zzzz62Zyyy3Zinh17Zyyy8Zinh2Zyyy7Zinh30Zyyy4Zinh61Zyyy2",
      "1Zzzz70Grek122Zzzz20Zyyy12Zzzz20Zyyy12Zzzz87Zyyy9Zzzz25Zyyy135Zzzz85Zyyy1Zzzz71Zyyy1Zzzz2Z",
      "yyy2Zzzz1Zyyy2Zzzz2Zyyy2Zzzz4Zyyy1Zzzz12Zyyy1Zzzz1Zyyy1Zzzz7Zyyy1Zzzz65Zyyy1Zzzz4Zyyy2Zzzz",
      "8Zyyy1Zzzz7Zyyy1Zzzz28Zyyy1Zzzz4Zyyy1Zzzz5Zyyy1Zzzz1Zyyy3Zzzz7Zyyy1Zzzz340Zyyy2Zzzz292Zyyy",
      "2Zzzz50Zyyy652Sgnw15Zzzz5Sgnw1Zzzz15Sgnw1104Zzzz31Latn6Zzzz6Latn213Zzzz7Glag1Zzzz17Glag2Zz",
      "zz7Glag1Zzzz2Glag1Zzzz5Glag5Zzzz62Cyrl33Zzzz1Cyrl112Zzzz45Hmnp3Zzzz14Hmnp2Zzzz10Hmnp4Zzzz2",
      "Hmnp320Zzzz31Toto17Zzzz58Wcho5Zzzz1Wcho464Zzzz42Nagm214Zzzz43Onao4Zzzz1Onao480Zzzz7Ethi1Zz",
      "zz4Ethi1Zzzz2Ethi1Zzzz15Ethi1Zzzz197Mend2Zzzz16Mend41Zzzz76Adlm4Zzzz10Adlm4Zzzz2Adlm785Zzz",
      "z68Zyyy76Zzzz61Zyyy194Zzzz4Arab1Zzzz27Arab1Zzzz2Arab1Zzzz1Arab2Zzzz1Arab1Zzzz10Arab1Zzzz4A",
      "rab1Zzzz1Arab1Zzzz1Arab6Zzzz1Arab4Zzzz1Arab1Zzzz1Arab1Zzzz1Arab1Zzzz3Arab1Zzzz2Arab1Zzzz1A",
      "rab2Zzzz1Arab1Zzzz1Arab1Zzzz1Arab1Zzzz1Arab1Zzzz1Arab1Zzzz2Arab1Zzzz1Arab2Zzzz4Arab1Zzzz7A",
      "rab1Zzzz4Arab1Zzzz4Arab1Zzzz1Arab1Zzzz10Arab1Zzzz17Arab5Zzzz3Arab1Zzzz5Arab1Zzzz17Arab52Zz",
      "zz2Arab270Zzzz44Zyyy4Zzzz100Zyyy12Zzzz15Zyyy2Zzzz15Zyyy1Zzzz15Zyyy1Zzzz37Zyyy10Zzzz174Zyyy",
      "56Zzzz26Zyyy1Hira2Zyyy13Zzzz44Zyyy4Zzzz9Zyyy7Zzzz2Zyyy14Zzzz6Zyyy154Zzzz984Zyyy4Zzzz17Zyyy",
      "3Zzzz13Zyyy3Zzzz119Zyyy4Zzzz95Zyyy6Zzzz12Zyyy4Zzzz1Zyyy15Zzzz12Zyyy4Zzzz56Zyyy8Zzzz10Zyyy6",
      "Zzzz40Zyyy8Zzzz30Zyyy2Zzzz12Zyyy4Zzzz2Zyyy62Zzzz340Zyyy12Zzzz14Zyyy2Zzzz13Zyyy3Zzzz10Zyyy5",
      "Zzzz56Zyyy7Zzzz15Zyyy2Zzzz11Zyyy6Zzzz9Zyyy7Zzzz147Zyyy1Zzzz102Zyyy1030Zzzz42720Hani32Zzzz4",
      "154Hani6Zzzz222Hani2Zzzz5762Hani14Zzzz7473Hani15Zzzz622Hani2466Zzzz542Hani1506Zzzz4939Hani",
      "5Zzzz4192Hani711761Zzzz1Zyyy30Zzzz96Zyyy128Zzzz240Zinh196112Zzzz" ]

/-- The names of the scripts. -/
def scriptNames : List (List String × List String) :=
  [(["adlm", "adlam"], ["Adlm"]), (["aghb", "caucasianalbanian"], ["Aghb"]), (["ahom"], ["Ahom"]),
    (["arab", "arabic"], ["Arab"]), (["armi", "imperialaramaic"], ["Armi"]),
    (["armn", "armenian"], ["Armn"]), (["avst", "avestan"], ["Avst"]),
    (["bali", "balinese"], ["Bali"]), (["bamu", "bamum"], ["Bamu"]),
    (["bass", "bassavah"], ["Bass"]), (["batk", "batak"], ["Batk"]),
    (["beng", "bengali"], ["Beng"]), (["bhks", "bhaiksuki"], ["Bhks"]),
    (["bopo", "bopomofo"], ["Bopo"]), (["brah", "brahmi"], ["Brah"]),
    (["brai", "braille"], ["Brai"]), (["bugi", "buginese"], ["Bugi"]),
    (["buhd", "buhid"], ["Buhd"]), (["cakm", "chakma"], ["Cakm"]),
    (["cans", "canadianaboriginal"], ["Cans"]), (["cari", "carian"], ["Cari"]),
    (["cham"], ["Cham"]), (["cher", "cherokee"], ["Cher"]), (["chrs", "chorasmian"], ["Chrs"]),
    (["copt", "qaac", "coptic"], ["Copt"]), (["cpmn", "cyprominoan"], ["Cpmn"]),
    (["cprt", "cypriot"], ["Cprt"]), (["cyrl", "cyrillic"], ["Cyrl"]),
    (["deva", "devanagari"], ["Deva"]), (["diak", "divesakuru"], ["Diak"]),
    (["dogr", "dogra"], ["Dogr"]), (["dsrt", "deseret"], ["Dsrt"]),
    (["dupl", "duployan"], ["Dupl"]), (["egyp", "egyptianhieroglyphs"], ["Egyp"]),
    (["elba", "elbasan"], ["Elba"]), (["elym", "elymaic"], ["Elym"]),
    (["ethi", "ethiopic"], ["Ethi"]), (["gara", "garay"], ["Gara"]),
    (["geor", "georgian"], ["Geor"]), (["glag", "glagolitic"], ["Glag"]),
    (["gong", "gunjalagondi"], ["Gong"]), (["gonm", "masaramgondi"], ["Gonm"]),
    (["goth", "gothic"], ["Goth"]), (["gran", "grantha"], ["Gran"]), (["grek", "greek"], ["Grek"]),
    (["gujr", "gujarati"], ["Gujr"]), (["gukh", "gurungkhema"], ["Gukh"]),
    (["guru", "gurmukhi"], ["Guru"]), (["hang", "hangul"], ["Hang"]), (["han", "hani"], ["Hani"]),
    (["hano", "hanunoo"], ["Hano"]), (["hatr", "hatran"], ["Hatr"]), (["hebr", "hebrew"], ["Hebr"]),
    (["hira", "hiragana"], ["Hira"]), (["hluw", "anatolianhieroglyphs"], ["Hluw"]),
    (["hmng", "pahawhhmong"], ["Hmng"]), (["hmnp", "nyiakengpuachuehmong"], ["Hmnp"]),
    (["hung", "oldhungarian"], ["Hung"]), (["ital", "olditalic"], ["Ital"]),
    (["java", "javanese"], ["Java"]), (["kali", "kayahli"], ["Kali"]),
    (["kana", "katakana"], ["Kana"]), (["kawi"], ["Kawi"]), (["khar", "kharoshthi"], ["Khar"]),
    (["khmr", "khmer"], ["Khmr"]), (["khoj", "khojki"], ["Khoj"]),
    (["kits", "khitansmallscript"], ["Kits"]), (["knda", "kannada"], ["Knda"]),
    (["krai", "kiratrai"], ["Krai"]), (["kthi", "kaithi"], ["Kthi"]),
    (["lana", "taitham"], ["Lana"]), (["lao", "laoo"], ["Laoo"]), (["latn", "latin"], ["Latn"]),
    (["lepc", "lepcha"], ["Lepc"]), (["limb", "limbu"], ["Limb"]), (["lina", "lineara"], ["Lina"]),
    (["linb", "linearb"], ["Linb"]), (["lisu"], ["Lisu"]), (["lyci", "lycian"], ["Lyci"]),
    (["lydi", "lydian"], ["Lydi"]), (["mahj", "mahajani"], ["Mahj"]),
    (["maka", "makasar"], ["Maka"]), (["mand", "mandaic"], ["Mand"]),
    (["mani", "manichaean"], ["Mani"]), (["marc", "marchen"], ["Marc"]),
    (["medf", "medefaidrin"], ["Medf"]), (["mend", "mendekikakui"], ["Mend"]),
    (["merc", "meroiticcursive"], ["Merc"]), (["mero", "meroitichieroglyphs"], ["Mero"]),
    (["mlym", "malayalam"], ["Mlym"]), (["modi"], ["Modi"]), (["mong", "mongolian"], ["Mong"]),
    (["mro", "mroo"], ["Mroo"]), (["mtei", "meeteimayek"], ["Mtei"]),
    (["mult", "multani"], ["Mult"]), (["mymr", "myanmar"], ["Mymr"]),
    (["nagm", "nagmundari"], ["Nagm"]), (["nand", "nandinagari"], ["Nand"]),
    (["narb", "oldnortharabian"], ["Narb"]), (["nbat", "nabataean"], ["Nbat"]),
    (["newa"], ["Newa"]), (["nko", "nkoo"], ["Nkoo"]), (["nshu", "nushu"], ["Nshu"]),
    (["ogam", "ogham"], ["Ogam"]), (["olck", "olchiki"], ["Olck"]), (["onao", "olonal"], ["Onao"]),
    (["orkh", "oldturkic"], ["Orkh"]), (["orya", "oriya"], ["Orya"]), (["osge", "osage"], ["Osge"]),
    (["osma", "osmanya"], ["Osma"]), (["ougr", "olduyghur"], ["Ougr"]),
    (["palm", "palmyrene"], ["Palm"]), (["pauc", "paucinhau"], ["Pauc"]),
    (["perm", "oldpermic"], ["Perm"]), (["phag", "phagspa"], ["Phag"]),
    (["phli", "inscriptionalpahlavi"], ["Phli"]), (["phlp", "psalterpahlavi"], ["Phlp"]),
    (["phnx", "phoenician"], ["Phnx"]), (["miao", "plrd"], ["Plrd"]),
    (["prti", "inscriptionalparthian"], ["Prti"]), (["rjng", "rejang"], ["Rjng"]),
    (["rohg", "hanifirohingya"], ["Rohg"]), (["runr", "runic"], ["Runr"]),
    (["samr", "samaritan"], ["Samr"]), (["sarb", "oldsoutharabian"], ["Sarb"]),
    (["saur", "saurashtra"], ["Saur"]), (["sgnw", "signwriting"], ["Sgnw"]),
    (["shaw", "shavian"], ["Shaw"]), (["shrd", "sharada"], ["Shrd"]),
    (["sidd", "siddham"], ["Sidd"]), (["sind", "khudawadi"], ["Sind"]),
    (["sinh", "sinhala"], ["Sinh"]), (["sogd", "sogdian"], ["Sogd"]),
    (["sogo", "oldsogdian"], ["Sogo"]), (["sora", "sorasompeng"], ["Sora"]),
    (["soyo", "soyombo"], ["Soyo"]), (["sund", "sundanese"], ["Sund"]),
    (["sunu", "sunuwar"], ["Sunu"]), (["sylo", "sylotinagri"], ["Sylo"]),
    (["syrc", "syriac"], ["Syrc"]), (["tagb", "tagbanwa"], ["Tagb"]), (["takr", "takri"], ["Takr"]),
    (["tale", "taile"], ["Tale"]), (["talu", "newtailue"], ["Talu"]), (["taml", "tamil"], ["Taml"]),
    (["tang", "tangut"], ["Tang"]), (["tavt", "taiviet"], ["Tavt"]), (["telu", "telugu"], ["Telu"]),
    (["tfng", "tifinagh"], ["Tfng"]), (["tglg", "tagalog"], ["Tglg"]),
    (["thaa", "thaana"], ["Thaa"]), (["thai"], ["Thai"]), (["tibt", "tibetan"], ["Tibt"]),
    (["tirh", "tirhuta"], ["Tirh"]), (["tnsa", "tangsa"], ["Tnsa"]), (["todr", "todhri"], ["Todr"]),
    (["toto"], ["Toto"]), (["tutg", "tulutigalari"], ["Tutg"]), (["ugar", "ugaritic"], ["Ugar"]),
    (["vai", "vaii"], ["Vaii"]), (["vith", "vithkuqi"], ["Vith"]),
    (["wara", "warangciti"], ["Wara"]), (["wcho", "wancho"], ["Wcho"]),
    (["xpeo", "oldpersian"], ["Xpeo"]), (["xsux", "cuneiform"], ["Xsux"]),
    (["yezi", "yezidi"], ["Yezi"]), (["yi", "yiii"], ["Yiii"]),
    (["zanb", "zanabazarsquare"], ["Zanb"]), (["qaai", "zinh", "inherited"], ["Zinh"]),
    (["zyyy", "common"], ["Zyyy"])]

/-- The scripts. -/
def script : Classification :=
  ⟨decodeRuns 4 scriptText, scriptNames⟩

/-- Characters whose scripts are listed, each range with its scripts. -/
def listedScriptText : String :=
  String.join
    [ "B7 AvstCariCoptDuplElbaGeorGlagGongGothGrekHaniLatnLydiMahjPermShaw 2BC ",
      "BengCyrlDevaLatnLisuThaiToto 2C7 BopoLatn 2C9-2CB BopoLatn 2CD LatnLisu 2D7 LatnThai 2D9 ",
      "BopoLatn 300 CherCoptCyrlGrekLatnPermSunuTale 301 CherCyrlGrekLatnOsgeSunuTaleTodr 302 ",
      "CherCyrlLatnTfng 303 GlagLatnSunuSyrcThai 304 ",
      "AghbCherCoptCyrlGothGrekLatnOsgeSyrcTfngTodr 305 CoptElbaGlagGothKanaLatn 306 ",
      "CyrlGrekLatnPerm 307 CoptDuplHebrLatnPermSyrcTaleTfngTodr 308 ",
      "ArmnCyrlDuplGothGrekHebrLatnPermSyrcTale 309 LatnTfng 30A DuplLatnSyrc 30B ",
      "CherCyrlLatnOsge 30C CherLatnTale 30D LatnSunu 30E EthiLatn 310 LatnSunu 311 CyrlLatnTodr ",
      "313 GrekLatnPermTodr 320 LatnSyrc 323 CherDuplKanaLatnSyrc 324 CherDuplLatnSyrc 325 ",
      "LatnSyrc 32D LatnSunuSyrc 32E LatnSyrc 330 CherLatnSyrc 331 AghbCherGothLatnSunuThai 342 ",
      "Grek 345 Grek 358 LatnOsge 35E AghbLatnTodr 363-36F Latn 374-375 CoptGrek 483 CyrlPerm ",
      "484 CyrlGlag 485-486 CyrlLatn 487 CyrlGlag 589 ArmnGeorGlag 60C ",
      "ArabGaraNkooRohgSyrcThaaYezi 61B ArabGaraNkooRohgSyrcThaaYezi 61C ArabSyrcThaa 61F ",
      "AdlmArabGaraNkooRohgSyrcThaaYezi 640 AdlmArabMandManiOugrPhlpRohgSogdSyrc 64B-655 ",
      "ArabSyrc 660-669 ArabThaaYezi 670 ArabSyrc 6D4 ArabRohg 951 ",
      "BengDevaGranGujrGuruKndaLatnMlymOryaShrdTamlTeluTirh 952 ",
      "BengDevaGranGujrGuruKndaLatnMlymOryaTamlTeluTirh 964 ",
      "BengDevaDogrGongGonmGranGujrGuruKndaMahjMlymNandOnaoOryaSindSinhSyloTakrTamlTeluTirh 965 ",
      "BengDevaDogrGongGonmGranGujrGukhGuruKndaLimbMahjMlymNandOnaoOryaSindSinhSyloTakrTamlTeluTi",
      "rh 966-96F DevaDogrKthiMahj 9E6-9EF BengCakmSylo A66-A6F GuruMult AE6-AEF GujrKhoj ",
      "BE6-BF3 GranTaml CE6-CEF KndaNandTutg 1040-1049 CakmMymrTale 10FB GeorGlagLatn 16EB-16ED ",
      "Runr 1735-1736 BuhdHanoTagbTglg 1802-1803 MongPhag 1805 MongPhag 1CD0 BengDevaGranKnda ",
      "1CD1 Deva 1CD2 BengDevaGranKnda 1CD3 DevaGranKnda 1CD4 Deva 1CD5-1CD6 BengDeva 1CD7 ",
      "DevaShrd 1CD8 BengDeva 1CD9 DevaShrd 1CDA DevaKndaMlymOryaTamlTelu 1CDB Deva 1CDC-1CDD ",
      "DevaShrd 1CDE-1CDF Deva 1CE0 DevaShrd 1CE1 BengDeva 1CE2-1CE8 Deva 1CE9 DevaNand 1CEA ",
      "BengDeva 1CEB-1CEC Deva 1CED BengDeva 1CEE-1CF1 Deva 1CF2 ",
      "BengDevaGranKndaMlymNandOryaSinhTeluTirhTutg 1CF3 DevaGran 1CF4 DevaGranKndaTutg ",
      "1CF5-1CF6 BengDeva 1CF7 Beng 1CF8-1CF9 DevaGran 1CFA Nand 1DC0-1DC1 Grek 1DF8 ",
      "CyrlLatnSyrc 1DFA Syrc 202F LatnMongPhag 204F AdlmArab 205A CariGeorGlagHungLyciOrkh 205D ",
      "CariGrekHungMero 20F0 DevaGranLatn 2E17 CoptLatn 2E30 AvstOrkh 2E31 ",
      "AvstCariGeorHungKthiLydiSamr 2E3C Dupl 2E41 AdlmArabHung 2E43 CyrlGlag 2FF0-2FFF HaniTang ",
      "3001 BopoHangHaniHiraKanaMongYiii 3002 BopoHangHaniHiraKanaMongPhagYiii 3003 ",
      "BopoHangHaniHiraKana 3006 Hani 3008-3009 BopoHangHaniHiraKanaMongTibtYiii 300A-300B ",
      "BopoHangHaniHiraKanaLisuMongTibtYiii 300C-3011 BopoHangHaniHiraKanaYiii 3013 ",
      "BopoHangHaniHiraKana 3014-301B BopoHangHaniHiraKanaYiii 301C-301F BopoHangHaniHiraKana ",
      "302A-302D BopoHani 3030 BopoHangHaniHiraKana 3031-3035 HiraKana 3037 BopoHangHaniHiraKana ",
      "303C-303D HaniHiraKana 303E-303F Hani 3099-309C HiraKana 30A0 HiraKana 30FB ",
      "BopoHangHaniHiraKanaYiii 30FC HiraKana 3190-319F Hani 31C0-31E5 Hani 31EF HaniTang ",
      "3220-3247 Hani 3280-32B0 Hani 32C0-32CB Hani 32FF Hani 3358-3370 Hani 337B-337F Hani ",
      "33E0-33FE Hani A66F CyrlGlag A700-A707 HaniLatn A830-A832 ",
      "DevaDogrGujrGuruKhojKndaKthiMahjMlymModiNandShrdSindTakrTirhTutg A833-A835 ",
      "DevaDogrGujrGuruKhojKndaKthiMahjModiNandShrdSindTakrTirhTutg A836-A837 ",
      "DevaDogrGujrGuruKhojKthiMahjModiSindTakrTirh A838 ",
      "DevaDogrGujrGuruKhojKthiMahjModiShrdSindTakrTirh A839 ",
      "DevaDogrGujrGuruKhojKthiMahjModiSindTakrTirh A8F1 BengDevaTutg A8F3 DevaTaml A92E ",
      "KaliLatnMymr A9CF BugiJava FD3E-FD3F ArabNkoo FDF2 ArabThaa FDFD ArabThaa FE45-FE46 ",
      "BopoHangHaniHiraKana FF61-FF65 BopoHangHaniHiraKanaYiii FF70 HiraKana FF9E-FF9F HiraKana ",
      "10100-10101 CpmnCprtLinb 10102 CprtLinb 10107-10133 CprtLinaLinb 10137-1013F CprtLinb ",
      "102E0-102FB ArabCopt 10AF2 ManiOugr 11301 GranTaml 11303 GranTaml 1133B-1133C GranTaml ",
      "11FD0-11FD1 GranTaml 11FD3 GranTaml 1BCA0-1BCA3 Dupl 1D360-1D371 Hani 1F250-1F251 Hani" ]

/-- The words of a text, two by two: a range, and the four letters of each of its scripts. -/
def listedScriptsOf : List String → List (CodeRange × String)
  | range :: codes :: rest =>
    match decodeRange? range with
    | some (r, _) => (r, codes) :: listedScriptsOf rest
    | none => listedScriptsOf rest
  | _ => []

/-- The ranges of characters whose scripts are listed, with the letters of these scripts. -/
def listedScripts : List (CodeRange × String) :=
  listedScriptsOf (listedScriptText.splitOn " ")

/-- Whether the four letters of a script are among those of a list. -/
def hasScript (code : List Char) : List Char → Bool
  | a :: b :: c :: d :: rest => [a, b, c, d] == code || hasScript code rest
  | _ => false

/-- The characters that are used with a script: those for which it is listed, and those of the
script for which nothing is listed. -/
def usedWith (code : String) : CharSet :=
  let listed := CharSet.ofRanges (listedScripts.map Prod.fst)
  let named := listedScripts.filter fun entry => hasScript code.toList entry.2.toList
  ((script.runs.having [code]).diff listed).union (.ofRanges (named.map Prod.fst))

/-- The characters that are used with the script of a name. -/
def usedWith? (name : String) : Option CharSet :=
  (script.codes? name).bind fun codes => codes.head?.map usedWith

end MergeTrain.Unicode
