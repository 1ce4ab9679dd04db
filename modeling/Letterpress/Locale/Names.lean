/-!
# Names of locales

The locales that there are data for, and what is known of names that are not among them (Unicode CLDR).

* `locales`: for each language the endings of its locale names, the empty ending first.
* `likelySubtags`: the script and territory that a language alone stands for.
* `likelyScripts`: territories where a language is written in another script than its usual one.
* `languageAliases`, `territoryAliases`: names that are no longer in use.
-/

namespace Letterpress.Locale

/-- Languages and the endings of their locale names. -/
def locales : List (String × String) :=
  [("aa", "DJ ER ET"), ("ab", "GE"), ("af", "NA ZA"), ("agq", "CM"), ("ak", "GH"), ("am", "ET"),
   ("an", "ES"), ("ann", "NG"), ("apc", "SY"),
   ("ar", "001 AE BH DJ DZ EG EH ER IL IQ JO KM KW LB LY MA MR OM PS QA SA SD SO SS SY TD TN YE"),
   ("arn", "CL"), ("as", "IN"), ("asa", "TZ"), ("ast", "ES"), ("az", "Cyrl Cyrl_AZ Latn Latn_AZ"),
   ("ba", "RU"), ("bal", "Arab Arab_PK Latn Latn_PK"), ("bas", "CM"), ("be", "BY TARASK"), ("bem", "ZM"),
   ("bew", "ID"), ("bez", "TZ"), ("bg", "BG"), ("bgc", "IN"), ("bho", "IN"), ("blo", "BJ"), ("blt", "VN"),
   ("bm", "ML Nkoo Nkoo_ML"), ("bn", "BD IN"), ("bo", "CN IN"), ("br", "FR"), ("brx", "IN"),
   ("bs", "Cyrl Cyrl_BA Latn Latn_BA"), ("bss", "CM"), ("bua", "RU"), ("byn", "ER"),
   ("ca", "AD ES ES_VALENCIA FR IT"), ("cad", "US"), ("cch", "NG"), ("ccp", "BD IN"), ("ce", "RU"),
   ("ceb", "PH"), ("cgg", "UG"), ("cho", "US"), ("chr", "US"), ("cic", "US"), ("ckb", "IQ IR"),
   ("co", "FR"), ("cs", "CZ"), ("csw", "CA"), ("cu", "RU"), ("cv", "RU"), ("cy", "GB"), ("da", "DK GL"),
   ("dav", "KE"), ("de", "AT BE CH DE IT LI LU"), ("dje", "NE"), ("doi", "IN"), ("dsb", "DE"),
   ("dua", "CM"), ("dv", "MV"), ("dyo", "SN"), ("dz", "BT"), ("ebu", "KE"), ("ee", "GH TG"),
   ("el", "CY GR"),
   ("en", "001 150 AE AG AI AS AT AU BB BE BI BM BS BW BZ CA CC CH CK CM CX CY CZ DE DG DK DM Dsrt Dsrt_US EE ER ES FI FJ FK FM FR GB GD GE GG GH GI GM GS GU GY HK HU ID IE IL IM IN IO IT JE JM JP KE KI KN KY LC LR LS LT LV MG MH MO MP MS MT MU MV MW MY NA NF NG NL NO NR NU NZ PG PH PK PL PN PR PT PW RO RW SB SC SD SE SG SH SI SK SL SS SX SZ Shaw Shaw_GB TC TK TO TT TV TZ UA UG UM US US_POSIX VC VG VI VU WS ZA ZM ZW"),
   ("eo", "001"),
   ("es", "419 AR BO BR BZ CL CO CR CU DO EA EC ES GQ GT HN IC MX NI PA PE PH PR PY SV US UY VE"),
   ("et", "EE"), ("eu", "ES"), ("ewo", "CM"), ("fa", "AF IR"),
   ("ff", "Adlm Adlm_BF Adlm_CM Adlm_GH Adlm_GM Adlm_GN Adlm_GW Adlm_LR Adlm_MR Adlm_NE Adlm_NG Adlm_SL Adlm_SN Latn Latn_BF Latn_CM Latn_GH Latn_GM Latn_GN Latn_GW Latn_LR Latn_MR Latn_NE Latn_NG Latn_SL Latn_SN"),
   ("fi", "FI"), ("fil", "PH"), ("fo", "DK FO"),
   ("fr", "BE BF BI BJ BL CA CD CF CG CH CI CM DJ DZ FR GA GF GN GP GQ HT KM LU MA MC MF MG ML MQ MR MU NC NE PF PM RE RW SC SN SY TD TG TN VU WF YT"),
   ("frr", "DE"), ("fur", "IT"), ("fy", "NL"), ("ga", "GB IE"), ("gaa", "GH"), ("gd", "GB"),
   ("gez", "ER ET"), ("gl", "ES"), ("gn", "PY"), ("gsw", "CH FR LI"), ("gu", "IN"), ("guz", "KE"),
   ("gv", "IM"), ("ha", "Arab Arab_NG Arab_SD GH NE NG"), ("haw", "US"), ("he", "IL"),
   ("hi", "IN Latn Latn_IN"), ("hnj", "Hmnp Hmnp_US"), ("hr", "BA HR"), ("hsb", "DE"), ("hu", "HU"),
   ("hy", "AM"), ("ia", "001"), ("id", "ID"), ("ie", "EE"), ("ig", "NG"), ("ii", "CN"), ("io", "001"),
   ("is", "IS"), ("it", "CH IT SM VA"), ("iu", "CA Latn Latn_CA"), ("ja", "JP"), ("jbo", "001"),
   ("jgo", "CM"), ("jmc", "TZ"), ("jv", "ID"), ("ka", "GE"), ("kaa", "Cyrl Cyrl_UZ Latn Latn_UZ"),
   ("kab", "DZ"), ("kaj", "NG"), ("kam", "KE"), ("kcg", "NG"), ("kde", "TZ"), ("kea", "CV"), ("ken", "CM"),
   ("kgp", "BR"), ("khq", "ML"), ("ki", "KE"), ("kk", "Arab Arab_CN Cyrl Cyrl_KZ"), ("kkj", "CM"),
   ("kl", "GL"), ("kln", "KE"), ("km", "KH"), ("kn", "IN"), ("ko", "CN KP KR"),
   ("kok", "Deva Deva_IN Latn Latn_IN"), ("kpe", "GN LR"), ("ks", "Arab Arab_IN Deva Deva_IN"),
   ("ksb", "TZ"), ("ksf", "CM"), ("ksh", "DE"), ("ku", "IQ Latn Latn_IQ Latn_SY Latn_TR"), ("kw", "GB"),
   ("kxv", "Deva Deva_IN Latn Latn_IN Orya Orya_IN Telu Telu_IN"), ("ky", "KG"), ("la", "VA"),
   ("lag", "TZ"), ("lb", "LU"), ("lg", "UG"), ("lij", "IT"), ("lkt", "US"), ("lld", "IT"), ("lmo", "IT"),
   ("ln", "AO CD CF CG"), ("lo", "LA"), ("lrc", "IQ IR"), ("lt", "LT"), ("ltg", "LV"), ("lu", "CD"),
   ("luo", "KE"), ("luy", "KE"), ("lv", "LV"), ("mai", "IN"), ("mas", "KE TZ"), ("mdf", "RU"),
   ("mer", "KE"), ("mfe", "MU"), ("mg", "MG"), ("mgh", "MZ"), ("mgo", "CM"), ("mhn", "IT"), ("mi", "NZ"),
   ("mic", "CA"), ("mk", "MK"), ("ml", "IN"), ("mn", "MN Mong Mong_CN Mong_MN"), ("mni", "Beng Beng_IN"),
   ("moh", "CA"), ("mr", "IN"), ("ms", "Arab Arab_BN Arab_MY BN ID MY SG"), ("mt", "MT"), ("mua", "CM"),
   ("mus", "US"), ("my", "MM"), ("myv", "RU"), ("mzn", "IR"), ("naq", "NA"), ("nb", ""), ("nd", "ZW"),
   ("nds", "DE NL"), ("ne", "IN NP"), ("nl", "AW BE BQ CW NL SR SX"), ("nmg", "CM"), ("nn", "NO"),
   ("nnh", "CM"), ("no", "NO"), ("nqo", "GN"), ("nr", "ZA"), ("nso", "ZA"), ("nus", "SS"), ("nv", "US"),
   ("ny", "MW"), ("nyn", "UG"), ("oc", "ES FR"), ("om", "ET KE"), ("or", "IN"), ("os", "GE RU"),
   ("osa", "US"), ("pa", "Arab Arab_PK Guru Guru_IN"), ("pap", "AW CW"), ("pcm", "NG"), ("pis", "SB"),
   ("pl", "PL"), ("pms", "IT"), ("prg", "PL"), ("ps", "AF PK"),
   ("pt", "AO BR CH CV GQ GW LU MO MZ PT ST TL"), ("qu", "BO EC PE"), ("quc", "GT"), ("raj", "IN"),
   ("rhg", "Rohg Rohg_BD Rohg_MM"), ("rif", "MA"), ("rm", "CH"), ("rn", "BI"), ("ro", "MD RO"),
   ("rof", "TZ"), ("ru", "BY KG KZ MD RU UA"), ("rw", "RW"), ("rwk", "TZ"), ("sa", "IN"), ("sah", "RU"),
   ("saq", "KE"), ("sat", "Olck Olck_IN"), ("sbp", "TZ"), ("sc", "IT"), ("scn", "IT"),
   ("sd", "Arab Arab_PK Deva Deva_IN"), ("sdh", "IQ IR"), ("se", "FI NO SE"), ("seh", "MZ"), ("ses", "ML"),
   ("sg", "CF"), ("shi", "Latn Latn_MA Tfng Tfng_MA"), ("shn", "MM TH"), ("si", "LK"), ("sid", "ET"),
   ("sk", "SK"), ("skr", "PK"), ("sl", "SI"), ("sma", "NO SE"), ("smj", "NO SE"), ("smn", "FI"),
   ("sms", "FI"), ("sn", "ZW"), ("so", "DJ ET KE SO"), ("sq", "AL MK XK"),
   ("sr", "Cyrl Cyrl_BA Cyrl_ME Cyrl_RS Cyrl_XK Latn Latn_BA Latn_ME Latn_RS Latn_XK"), ("ss", "SZ ZA"),
   ("ssy", "ER"), ("st", "LS ZA"), ("su", "Latn Latn_ID"), ("sv", "AX FI SE"), ("sw", "CD KE TZ UG"),
   ("syr", "IQ SY"), ("szl", "PL"), ("ta", "IN LK MY SG"), ("te", "IN"), ("teo", "KE UG"), ("tg", "TJ"),
   ("th", "TH"), ("ti", "ER ET"), ("tig", "ER"), ("tk", "TM"), ("tn", "BW ZA"), ("to", "TO"),
   ("tok", "001"), ("tpi", "PG"), ("tr", "CY TR"), ("trv", "TW"), ("trw", "PK"), ("ts", "ZA"), ("tt", "RU"),
   ("twq", "NE"), ("tyv", "RU"), ("tzm", "MA"), ("ug", "CN"), ("uk", "UA"), ("ur", "IN PK"),
   ("uz", "Arab Arab_AF Cyrl Cyrl_UZ Latn Latn_UZ"), ("vai", "Latn Latn_LR Vaii Vaii_LR"), ("ve", "ZA"),
   ("vec", "IT"), ("vi", "VN"), ("vmw", "MZ"), ("vo", "001"), ("vun", "TZ"), ("wa", "BE"), ("wae", "CH"),
   ("wal", "ET"), ("wbp", "AU"), ("wo", "SN"), ("xh", "ZA"), ("xnr", "IN"), ("xog", "UG"), ("yav", "CM"),
   ("yi", "UA"), ("yo", "BJ NG"), ("yrl", "BR CO VE"), ("yue", "Hans Hans_CN Hant Hant_CN Hant_HK Hant_MO"),
   ("za", "CN"), ("zgh", "MA"),
   ("zh", "Hans Hans_CN Hans_HK Hans_MO Hans_MY Hans_SG Hant Hant_HK Hant_MO Hant_MY Hant_TW Latn Latn_CN"),
   ("zu", "ZA")]

/-- Language, usual script and usual territory. -/
def likelySubtags : List (String × String × String) :=
  [("aa", "Latn", "ET"), ("ab", "Cyrl", "GE"), ("af", "Latn", "ZA"), ("agq", "Latn", "CM"),
   ("ak", "Latn", "GH"), ("am", "Ethi", "ET"), ("an", "Latn", "ES"), ("ann", "Latn", "NG"),
   ("apc", "Arab", "SY"), ("ar", "Arab", "EG"), ("arn", "Latn", "CL"), ("as", "Beng", "IN"),
   ("asa", "Latn", "TZ"), ("ast", "Latn", "ES"), ("az", "Latn", "AZ"), ("ba", "Cyrl", "RU"),
   ("bal", "Arab", "PK"), ("bas", "Latn", "CM"), ("be", "Cyrl", "BY"), ("bem", "Latn", "ZM"),
   ("bew", "Latn", "ID"), ("bez", "Latn", "TZ"), ("bg", "Cyrl", "BG"), ("bgc", "Deva", "IN"),
   ("bho", "Deva", "IN"), ("blo", "Latn", "BJ"), ("blt", "Tavt", "VN"), ("bm", "Latn", "ML"),
   ("bn", "Beng", "BD"), ("bo", "Tibt", "CN"), ("br", "Latn", "FR"), ("brx", "Deva", "IN"),
   ("bs", "Latn", "BA"), ("bss", "Latn", "CM"), ("bua", "Cyrl", "RU"), ("byn", "Ethi", "ER"),
   ("ca", "Latn", "ES"), ("cad", "Latn", "US"), ("cch", "Latn", "NG"), ("ccp", "Cakm", "BD"),
   ("ce", "Cyrl", "RU"), ("ceb", "Latn", "PH"), ("cgg", "Latn", "UG"), ("cho", "Latn", "US"),
   ("chr", "Cher", "US"), ("cic", "Latn", "US"), ("ckb", "Arab", "IQ"), ("co", "Latn", "FR"),
   ("cs", "Latn", "CZ"), ("csw", "Cans", "CA"), ("cu", "Cyrl", "RU"), ("cv", "Cyrl", "RU"),
   ("cy", "Latn", "GB"), ("da", "Latn", "DK"), ("dav", "Latn", "KE"), ("de", "Latn", "DE"),
   ("dje", "Latn", "NE"), ("doi", "Deva", "IN"), ("dsb", "Latn", "DE"), ("dua", "Latn", "CM"),
   ("dv", "Thaa", "MV"), ("dyo", "Latn", "SN"), ("dz", "Tibt", "BT"), ("ebu", "Latn", "KE"),
   ("ee", "Latn", "GH"), ("el", "Grek", "GR"), ("en", "Latn", "US"), ("eo", "Latn", "001"),
   ("es", "Latn", "ES"), ("et", "Latn", "EE"), ("eu", "Latn", "ES"), ("ewo", "Latn", "CM"),
   ("fa", "Arab", "IR"), ("ff", "Latn", "SN"), ("fi", "Latn", "FI"), ("fil", "Latn", "PH"),
   ("fo", "Latn", "FO"), ("fr", "Latn", "FR"), ("frr", "Latn", "DE"), ("fur", "Latn", "IT"),
   ("fy", "Latn", "NL"), ("ga", "Latn", "IE"), ("gaa", "Latn", "GH"), ("gd", "Latn", "GB"),
   ("gez", "Ethi", "ET"), ("gl", "Latn", "ES"), ("gn", "Latn", "PY"), ("gsw", "Latn", "CH"),
   ("gu", "Gujr", "IN"), ("guz", "Latn", "KE"), ("gv", "Latn", "IM"), ("ha", "Latn", "NG"),
   ("haw", "Latn", "US"), ("he", "Hebr", "IL"), ("hi", "Deva", "IN"), ("hnj", "Hmnp", "US"),
   ("hr", "Latn", "HR"), ("hsb", "Latn", "DE"), ("hu", "Latn", "HU"), ("hy", "Armn", "AM"),
   ("ia", "Latn", "001"), ("id", "Latn", "ID"), ("ie", "Latn", "EE"), ("ig", "Latn", "NG"),
   ("ii", "Yiii", "CN"), ("io", "Latn", "001"), ("is", "Latn", "IS"), ("it", "Latn", "IT"),
   ("iu", "Cans", "CA"), ("ja", "Jpan", "JP"), ("jbo", "Latn", "001"), ("jgo", "Latn", "CM"),
   ("jmc", "Latn", "TZ"), ("jv", "Latn", "ID"), ("ka", "Geor", "GE"), ("kaa", "Cyrl", "UZ"),
   ("kab", "Latn", "DZ"), ("kaj", "Latn", "NG"), ("kam", "Latn", "KE"), ("kcg", "Latn", "NG"),
   ("kde", "Latn", "TZ"), ("kea", "Latn", "CV"), ("ken", "Latn", "CM"), ("kgp", "Latn", "BR"),
   ("khq", "Latn", "ML"), ("ki", "Latn", "KE"), ("kk", "Cyrl", "KZ"), ("kkj", "Latn", "CM"),
   ("kl", "Latn", "GL"), ("kln", "Latn", "KE"), ("km", "Khmr", "KH"), ("kn", "Knda", "IN"),
   ("ko", "Kore", "KR"), ("kok", "Deva", "IN"), ("kpe", "Latn", "LR"), ("ks", "Arab", "IN"),
   ("ksb", "Latn", "TZ"), ("ksf", "Latn", "CM"), ("ksh", "Latn", "DE"), ("ku", "Latn", "TR"),
   ("kw", "Latn", "GB"), ("kxv", "Latn", "IN"), ("ky", "Cyrl", "KG"), ("la", "Latn", "VA"),
   ("lag", "Latn", "TZ"), ("lb", "Latn", "LU"), ("lg", "Latn", "UG"), ("lij", "Latn", "IT"),
   ("lkt", "Latn", "US"), ("lld", "Latn", "IT"), ("lmo", "Latn", "IT"), ("ln", "Latn", "CD"),
   ("lo", "Laoo", "LA"), ("lrc", "Arab", "IR"), ("lt", "Latn", "LT"), ("ltg", "Latn", "LV"),
   ("lu", "Latn", "CD"), ("luo", "Latn", "KE"), ("luy", "Latn", "KE"), ("lv", "Latn", "LV"),
   ("mai", "Deva", "IN"), ("mas", "Latn", "KE"), ("mdf", "Cyrl", "RU"), ("mer", "Latn", "KE"),
   ("mfe", "Latn", "MU"), ("mg", "Latn", "MG"), ("mgh", "Latn", "MZ"), ("mgo", "Latn", "CM"),
   ("mhn", "Latn", "IT"), ("mi", "Latn", "NZ"), ("mic", "Latn", "CA"), ("mk", "Cyrl", "MK"),
   ("ml", "Mlym", "IN"), ("mn", "Cyrl", "MN"), ("mni", "Beng", "IN"), ("moh", "Latn", "CA"),
   ("mr", "Deva", "IN"), ("ms", "Latn", "MY"), ("mt", "Latn", "MT"), ("mua", "Latn", "CM"),
   ("mus", "Latn", "US"), ("my", "Mymr", "MM"), ("myv", "Cyrl", "RU"), ("mzn", "Arab", "IR"),
   ("naq", "Latn", "NA"), ("nb", "Latn", "NO"), ("nd", "Latn", "ZW"), ("nds", "Latn", "DE"),
   ("ne", "Deva", "NP"), ("nl", "Latn", "NL"), ("nmg", "Latn", "CM"), ("nn", "Latn", "NO"),
   ("nnh", "Latn", "CM"), ("no", "Latn", "NO"), ("nqo", "Nkoo", "GN"), ("nr", "Latn", "ZA"),
   ("nso", "Latn", "ZA"), ("nus", "Latn", "SS"), ("nv", "Latn", "US"), ("ny", "Latn", "MW"),
   ("nyn", "Latn", "UG"), ("oc", "Latn", "FR"), ("om", "Latn", "ET"), ("or", "Orya", "IN"),
   ("os", "Cyrl", "GE"), ("osa", "Osge", "US"), ("pa", "Guru", "IN"), ("pap", "Latn", "CW"),
   ("pcm", "Latn", "NG"), ("pis", "Latn", "SB"), ("pl", "Latn", "PL"), ("pms", "Latn", "IT"),
   ("prg", "Latn", "PL"), ("ps", "Arab", "AF"), ("pt", "Latn", "BR"), ("qu", "Latn", "PE"),
   ("quc", "Latn", "GT"), ("raj", "Deva", "IN"), ("rhg", "Rohg", "MM"), ("rif", "Latn", "MA"),
   ("rm", "Latn", "CH"), ("rn", "Latn", "BI"), ("ro", "Latn", "RO"), ("rof", "Latn", "TZ"),
   ("ru", "Cyrl", "RU"), ("rw", "Latn", "RW"), ("rwk", "Latn", "TZ"), ("sa", "Deva", "IN"),
   ("sah", "Cyrl", "RU"), ("saq", "Latn", "KE"), ("sat", "Olck", "IN"), ("sbp", "Latn", "TZ"),
   ("sc", "Latn", "IT"), ("scn", "Latn", "IT"), ("sd", "Arab", "PK"), ("sdh", "Arab", "IR"),
   ("se", "Latn", "NO"), ("seh", "Latn", "MZ"), ("ses", "Latn", "ML"), ("sg", "Latn", "CF"),
   ("shi", "Tfng", "MA"), ("shn", "Mymr", "MM"), ("si", "Sinh", "LK"), ("sid", "Latn", "ET"),
   ("sk", "Latn", "SK"), ("skr", "Arab", "PK"), ("sl", "Latn", "SI"), ("sma", "Latn", "SE"),
   ("smj", "Latn", "SE"), ("smn", "Latn", "FI"), ("sms", "Latn", "FI"), ("sn", "Latn", "ZW"),
   ("so", "Latn", "SO"), ("sq", "Latn", "AL"), ("sr", "Cyrl", "RS"), ("ss", "Latn", "ZA"),
   ("ssy", "Latn", "ER"), ("st", "Latn", "ZA"), ("su", "Latn", "ID"), ("sv", "Latn", "SE"),
   ("sw", "Latn", "TZ"), ("syr", "Syrc", "IQ"), ("szl", "Latn", "PL"), ("ta", "Taml", "IN"),
   ("te", "Telu", "IN"), ("teo", "Latn", "UG"), ("tg", "Cyrl", "TJ"), ("th", "Thai", "TH"),
   ("ti", "Ethi", "ET"), ("tig", "Ethi", "ER"), ("tk", "Latn", "TM"), ("tn", "Latn", "ZA"),
   ("to", "Latn", "TO"), ("tok", "Latn", "001"), ("tpi", "Latn", "PG"), ("tr", "Latn", "TR"),
   ("trv", "Latn", "TW"), ("trw", "Arab", "PK"), ("ts", "Latn", "ZA"), ("tt", "Cyrl", "RU"),
   ("twq", "Latn", "NE"), ("tyv", "Cyrl", "RU"), ("tzm", "Latn", "MA"), ("ug", "Arab", "CN"),
   ("uk", "Cyrl", "UA"), ("ur", "Arab", "PK"), ("uz", "Latn", "UZ"), ("vai", "Vaii", "LR"),
   ("ve", "Latn", "ZA"), ("vec", "Latn", "IT"), ("vi", "Latn", "VN"), ("vmw", "Latn", "MZ"),
   ("vo", "Latn", "001"), ("vun", "Latn", "TZ"), ("wa", "Latn", "BE"), ("wae", "Latn", "CH"),
   ("wal", "Ethi", "ET"), ("wbp", "Latn", "AU"), ("wo", "Latn", "SN"), ("xh", "Latn", "ZA"),
   ("xnr", "Deva", "IN"), ("xog", "Latn", "UG"), ("yav", "Latn", "CM"), ("yi", "Hebr", "UA"),
   ("yo", "Latn", "NG"), ("yrl", "Latn", "BR"), ("yue", "Hant", "HK"), ("za", "Latn", "CN"),
   ("zgh", "Tfng", "MA"), ("zh", "Hans", "CN"), ("zu", "Latn", "ZA")]

/-- Language, territory and the script used there. -/
def likelyScripts : List (String × String × String) :=
  [("ha", "SD", "Arab"), ("kk", "CN", "Arab"), ("mn", "CN", "Mong"), ("pa", "PK", "Arab"),
   ("sd", "IN", "Deva"), ("sr", "ME", "Latn"), ("uz", "AF", "Arab"), ("yue", "CN", "Hans"),
   ("zh", "HK", "Hant"), ("zh", "MO", "Hant"), ("zh", "TW", "Hant")]

/-- Old names of languages. -/
def languageAliases : List (String × String) :=
  [("aar", "aa"), ("abk", "ab"), ("adp", "dz"), ("afr", "af"), ("ajp", "apc"), ("aka", "ak"), ("alb", "sq"),
   ("als", "sq"), ("amh", "am"), ("ara", "ar"), ("arb", "ar"), ("arg", "an"), ("arm", "hy"), ("asm", "as"),
   ("aze", "az"), ("azj", "az"), ("bak", "ba"), ("bam", "bm"), ("baq", "eu"), ("bcc", "bal"), ("bel", "be"),
   ("ben", "bn"), ("bih", "bho"), ("bod", "bo"), ("bos", "bs"), ("bre", "br"), ("bul", "bg"), ("bur", "my"),
   ("bxk", "luy"), ("bxr", "bua"), ("cat", "ca"), ("ces", "cs"), ("che", "ce"), ("chi", "zh"),
   ("chu", "cu"), ("chv", "cv"), ("cld", "syr"), ("cls", "sa"), ("cmn", "zh"), ("cnr", "sr_ME"),
   ("cor", "kw"), ("cos", "co"), ("cym", "cy"), ("cze", "cs"), ("dan", "da"), ("deu", "de"), ("dgo", "doi"),
   ("div", "dv"), ("drh", "mn"), ("drw", "fa_AF"), ("dut", "nl"), ("dzo", "dz"), ("ekk", "et"),
   ("ell", "el"), ("eng", "en"), ("epo", "eo"), ("est", "et"), ("eus", "eu"), ("ewe", "ee"), ("fao", "fo"),
   ("fas", "fa"), ("fat", "ak"), ("fin", "fi"), ("fra", "fr"), ("fre", "fr"), ("fry", "fy"), ("fuc", "ff"),
   ("ful", "ff"), ("gaz", "om"), ("geo", "ka"), ("ger", "de"), ("gla", "gd"), ("gle", "ga"), ("glg", "gl"),
   ("glv", "gv"), ("gom", "kok"), ("gre", "el"), ("grn", "gn"), ("gug", "gn"), ("guj", "gu"), ("hau", "ha"),
   ("hbs", "sr_Latn"), ("heb", "he"), ("hin", "hi"), ("hrv", "hr"), ("hun", "hu"), ("hye", "hy"),
   ("ibo", "ig"), ("ice", "is"), ("ido", "io"), ("iii", "ii"), ("ike", "iu"), ("iku", "iu"), ("ile", "ie"),
   ("in", "id"), ("ina", "ia"), ("ind", "id"), ("isl", "is"), ("ita", "it"), ("iw", "he"), ("jav", "jv"),
   ("jaw", "jv"), ("ji", "yi"), ("jpn", "ja"), ("jw", "jv"), ("kal", "kl"), ("kan", "kn"), ("kas", "ks"),
   ("kat", "ka"), ("kaz", "kk"), ("khk", "mn"), ("khm", "km"), ("kik", "ki"), ("kin", "rw"), ("kir", "ky"),
   ("kmr", "ku"), ("kor", "ko"), ("kur", "ku"), ("lao", "lo"), ("lat", "la"), ("lav", "lv"), ("lin", "ln"),
   ("lit", "lt"), ("ltz", "lb"), ("lub", "lu"), ("lug", "lg"), ("lvs", "lv"), ("mac", "mk"), ("mal", "ml"),
   ("mao", "mi"), ("mar", "mr"), ("may", "ms"), ("mkd", "mk"), ("mlg", "mg"), ("mlt", "mt"), ("mo", "ro"),
   ("mol", "ro"), ("mon", "mn"), ("mri", "mi"), ("msa", "ms"), ("mup", "raj"), ("mya", "my"), ("nav", "nv"),
   ("nbl", "nr"), ("nde", "nd"), ("nep", "ne"), ("nld", "nl"), ("nno", "nn"), ("nob", "nb"), ("nor", "no"),
   ("npi", "ne"), ("nya", "ny"), ("oci", "oc"), ("ori", "or"), ("orm", "om"), ("ory", "or"), ("oss", "os"),
   ("pan", "pa"), ("pbu", "ps"), ("per", "fa"), ("pes", "fa"), ("plt", "mg"), ("pol", "pl"), ("por", "pt"),
   ("prp", "gu"), ("prs", "fa_AF"), ("pus", "ps"), ("que", "qu"), ("quz", "qu"), ("roh", "rm"),
   ("ron", "ro"), ("rum", "ro"), ("run", "rn"), ("rus", "ru"), ("sag", "sg"), ("san", "sa"), ("scc", "sr"),
   ("scr", "hr"), ("sh", "sr_Latn"), ("sin", "si"), ("slk", "sk"), ("slo", "sk"), ("slv", "sl"),
   ("sme", "se"), ("sna", "sn"), ("snd", "sd"), ("som", "so"), ("sot", "st"), ("spa", "es"), ("spy", "kln"),
   ("sqi", "sq"), ("src", "sc"), ("srd", "sc"), ("srp", "sr"), ("ssw", "ss"), ("sun", "su"), ("swa", "sw"),
   ("swc", "sw_CD"), ("swe", "sv"), ("swh", "sw"), ("tam", "ta"), ("tat", "tt"), ("tel", "te"),
   ("tgk", "tg"), ("tgl", "fil"), ("tha", "th"), ("tib", "bo"), ("tir", "ti"), ("tl", "fil"),
   ("tnf", "fa_AF"), ("ton", "to"), ("tsn", "tn"), ("tso", "ts"), ("tuk", "tk"), ("tur", "tr"),
   ("twi", "ak"), ("uig", "ug"), ("ukr", "uk"), ("urd", "ur"), ("uzb", "uz"), ("uzn", "uz"), ("ven", "ve"),
   ("vie", "vi"), ("vol", "vo"), ("wel", "cy"), ("wln", "wa"), ("wol", "wo"), ("xho", "xh"), ("xpe", "kpe"),
   ("ydd", "yi"), ("yid", "yi"), ("yor", "yo"), ("zha", "za"), ("zho", "zh"), ("zsm", "ms"), ("zul", "zu"),
   ("zyb", "za")]

/-- Old names of territories. -/
def territoryAliases : List (String × String) :=
  [("AN", "CW"), ("BU", "MM"), ("CS", "RS"), ("CT", "KI"), ("DD", "DE"), ("DY", "BJ"), ("FQ", "AQ"),
   ("FX", "FR"), ("HV", "BF"), ("JT", "UM"), ("MI", "UM"), ("NH", "VU"), ("NQ", "AQ"), ("NT", "SA"),
   ("PC", "FM"), ("PU", "UM"), ("PZ", "PA"), ("QU", "EU"), ("RH", "ZW"), ("SU", "RU"), ("TP", "TL"),
   ("UK", "GB"), ("VD", "VN"), ("WK", "UM"), ("YD", "YE"), ("YU", "RS"), ("ZR", "CD"), ("004", "AF"),
   ("008", "AL"), ("010", "AQ"), ("012", "DZ"), ("016", "AS"), ("020", "AD"), ("024", "AO"), ("028", "AG"),
   ("031", "AZ"), ("032", "AR"), ("036", "AU"), ("040", "AT"), ("044", "BS"), ("048", "BH"), ("050", "BD"),
   ("051", "AM"), ("052", "BB"), ("056", "BE"), ("060", "BM"), ("062", "034"), ("064", "BT"), ("068", "BO"),
   ("070", "BA"), ("072", "BW"), ("074", "BV"), ("076", "BR"), ("084", "BZ"), ("086", "IO"), ("090", "SB"),
   ("092", "VG"), ("096", "BN"), ("100", "BG"), ("104", "MM"), ("108", "BI"), ("112", "BY"), ("116", "KH"),
   ("120", "CM"), ("124", "CA"), ("132", "CV"), ("136", "KY"), ("140", "CF"), ("144", "LK"), ("148", "TD"),
   ("152", "CL"), ("156", "CN"), ("158", "TW"), ("162", "CX"), ("166", "CC"), ("170", "CO"), ("172", "RU"),
   ("174", "KM"), ("175", "YT"), ("178", "CG"), ("180", "CD"), ("184", "CK"), ("188", "CR"), ("191", "HR"),
   ("192", "CU"), ("196", "CY"), ("200", "CZ"), ("203", "CZ"), ("204", "BJ"), ("208", "DK"), ("212", "DM"),
   ("214", "DO"), ("218", "EC"), ("222", "SV"), ("226", "GQ"), ("230", "ET"), ("231", "ET"), ("232", "ER"),
   ("233", "EE"), ("234", "FO"), ("238", "FK"), ("239", "GS"), ("242", "FJ"), ("246", "FI"), ("248", "AX"),
   ("249", "FR"), ("250", "FR"), ("254", "GF"), ("258", "PF"), ("260", "TF"), ("262", "DJ"), ("266", "GA"),
   ("268", "GE"), ("270", "GM"), ("275", "PS"), ("276", "DE"), ("278", "DE"), ("280", "DE"), ("288", "GH"),
   ("292", "GI"), ("296", "KI"), ("300", "GR"), ("304", "GL"), ("308", "GD"), ("312", "GP"), ("316", "GU"),
   ("320", "GT"), ("324", "GN"), ("328", "GY"), ("332", "HT"), ("334", "HM"), ("336", "VA"), ("340", "HN"),
   ("344", "HK"), ("348", "HU"), ("352", "IS"), ("356", "IN"), ("360", "ID"), ("364", "IR"), ("368", "IQ"),
   ("372", "IE"), ("376", "IL"), ("380", "IT"), ("384", "CI"), ("388", "JM"), ("392", "JP"), ("398", "KZ"),
   ("400", "JO"), ("404", "KE"), ("408", "KP"), ("410", "KR"), ("414", "KW"), ("417", "KG"), ("418", "LA"),
   ("422", "LB"), ("426", "LS"), ("428", "LV"), ("430", "LR"), ("434", "LY"), ("438", "LI"), ("440", "LT"),
   ("442", "LU"), ("446", "MO"), ("450", "MG"), ("454", "MW"), ("458", "MY"), ("462", "MV"), ("466", "ML"),
   ("470", "MT"), ("474", "MQ"), ("478", "MR"), ("480", "MU"), ("484", "MX"), ("492", "MC"), ("496", "MN"),
   ("498", "MD"), ("499", "ME"), ("500", "MS"), ("504", "MA"), ("508", "MZ"), ("512", "OM"), ("516", "NA"),
   ("520", "NR"), ("524", "NP"), ("528", "NL"), ("530", "CW"), ("531", "CW"), ("532", "CW"), ("533", "AW"),
   ("534", "SX"), ("535", "BQ"), ("536", "SA"), ("540", "NC"), ("548", "VU"), ("554", "NZ"), ("558", "NI"),
   ("562", "NE"), ("566", "NG"), ("570", "NU"), ("574", "NF"), ("578", "NO"), ("580", "MP"), ("581", "UM"),
   ("582", "FM"), ("583", "FM"), ("584", "MH"), ("585", "PW"), ("586", "PK"), ("591", "PA"), ("598", "PG"),
   ("600", "PY"), ("604", "PE"), ("608", "PH"), ("612", "PN"), ("616", "PL"), ("620", "PT"), ("624", "GW"),
   ("626", "TL"), ("630", "PR"), ("634", "QA"), ("638", "RE"), ("642", "RO"), ("643", "RU"), ("646", "RW"),
   ("652", "BL"), ("654", "SH"), ("659", "KN"), ("660", "AI"), ("662", "LC"), ("663", "MF"), ("666", "PM"),
   ("670", "VC"), ("674", "SM"), ("678", "ST"), ("682", "SA"), ("686", "SN"), ("688", "RS"), ("690", "SC"),
   ("694", "SL"), ("702", "SG"), ("703", "SK"), ("704", "VN"), ("705", "SI"), ("706", "SO"), ("710", "ZA"),
   ("716", "ZW"), ("720", "YE"), ("724", "ES"), ("728", "SS"), ("729", "SD"), ("732", "EH"), ("736", "SD"),
   ("740", "SR"), ("744", "SJ"), ("748", "SZ"), ("752", "SE"), ("756", "CH"), ("760", "SY"), ("762", "TJ"),
   ("764", "TH"), ("768", "TG"), ("772", "TK"), ("776", "TO"), ("780", "TT"), ("784", "AE"), ("788", "TN"),
   ("792", "TR"), ("795", "TM"), ("796", "TC"), ("798", "TV"), ("800", "UG"), ("804", "UA"), ("807", "MK"),
   ("810", "RU"), ("818", "EG"), ("826", "GB"), ("830", "JE"), ("831", "GG"), ("832", "JE"), ("833", "IM"),
   ("834", "TZ"), ("840", "US"), ("850", "VI"), ("854", "BF"), ("858", "UY"), ("860", "UZ"), ("862", "VE"),
   ("876", "WF"), ("882", "WS"), ("886", "YE"), ("887", "YE"), ("890", "RS"), ("891", "RS"), ("894", "ZM"),
   ("958", "AA"), ("959", "QM"), ("960", "QN"), ("962", "QP"), ("963", "QQ"), ("964", "QR"), ("965", "QS"),
   ("966", "QT"), ("967", "EU"), ("968", "QV"), ("969", "QW"), ("970", "QX"), ("971", "QY"), ("972", "QZ"),
   ("973", "XA"), ("974", "XB"), ("975", "XC"), ("976", "XD"), ("977", "XE"), ("978", "XF"), ("979", "XG"),
   ("980", "XH"), ("981", "XI"), ("982", "XJ"), ("983", "XK"), ("984", "XL"), ("985", "XM"), ("986", "XN"),
   ("987", "XO"), ("988", "XP"), ("989", "XQ"), ("990", "XR"), ("991", "XS"), ("992", "XT"), ("993", "XU"),
   ("994", "XV"), ("995", "XW"), ("996", "XX"), ("997", "XY"), ("998", "XZ"), ("999", "ZZ")]

end Letterpress.Locale
