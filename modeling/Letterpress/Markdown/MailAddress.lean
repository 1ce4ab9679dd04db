import Letterpress.Markdown.Span

/-!
# Mail addresses

Mail addresses in angle brackets become links that are written as references to characters, by name where a
character has one and else by number.

* `MailAddress.link`: the link of an address.
-/

namespace Letterpress.Markdown

namespace MailAddress

/-- The names of the characters from 160 to 255. -/
def latinNames : List String :=
  ["nbsp", "iexcl", "cent", "pound", "curren", "yen", "brvbar", "sect", "uml", "copy", "ordf", "laquo", "not",
   "shy", "reg", "macr", "deg", "plusmn", "sup2", "sup3", "acute", "micro", "para", "middot", "cedil", "sup1",
   "ordm", "raquo", "frac14", "frac12", "frac34", "iquest", "Agrave", "Aacute", "Acirc", "Atilde", "Auml",
   "Aring", "AElig", "Ccedil", "Egrave", "Eacute", "Ecirc", "Euml", "Igrave", "Iacute", "Icirc", "Iuml", "ETH",
   "Ntilde", "Ograve", "Oacute", "Ocirc", "Otilde", "Ouml", "times", "Oslash", "Ugrave", "Uacute", "Ucirc",
   "Uuml", "Yacute", "THORN", "szlig", "agrave", "aacute", "acirc", "atilde", "auml", "aring", "aelig", "ccedil",
   "egrave", "eacute", "ecirc", "euml", "igrave", "iacute", "icirc", "iuml", "eth", "ntilde", "ograve", "oacute",
   "ocirc", "otilde", "ouml", "divide", "oslash", "ugrave", "uacute", "ucirc", "uuml", "yacute", "thorn", "yuml"]

/-- The names of characters beyond them. -/
def otherNames : List (Nat × String) :=
  [(338, "OElig"), (339, "oelig"), (352, "Scaron"), (353, "scaron"), (376, "Yuml"), (402, "fnof"), (710, "circ"),
   (732, "tilde"), (913, "Alpha"), (914, "Beta"), (915, "Gamma"), (916, "Delta"), (917, "Epsilon"),
   (918, "Zeta"), (919, "Eta"), (920, "Theta"), (921, "Iota"), (922, "Kappa"), (923, "Lambda"), (924, "Mu"),
   (925, "Nu"), (926, "Xi"), (927, "Omicron"), (928, "Pi"), (929, "Rho"), (931, "Sigma"), (932, "Tau"),
   (933, "Upsilon"), (934, "Phi"), (935, "Chi"), (936, "Psi"), (937, "Omega"), (945, "alpha"), (946, "beta"),
   (947, "gamma"), (948, "delta"), (949, "epsilon"), (950, "zeta"), (951, "eta"), (952, "theta"), (953, "iota"),
   (954, "kappa"), (955, "lambda"), (956, "mu"), (957, "nu"), (958, "xi"), (959, "omicron"), (960, "pi"),
   (961, "rho"), (962, "sigmaf"), (963, "sigma"), (964, "tau"), (965, "upsilon"), (966, "phi"), (967, "chi"),
   (968, "psi"), (969, "omega"), (977, "thetasym"), (978, "upsih"), (982, "piv"), (8194, "ensp"), (8195, "emsp"),
   (8201, "thinsp"), (8204, "zwnj"), (8205, "zwj"), (8206, "lrm"), (8207, "rlm"), (8211, "ndash"),
   (8212, "mdash"), (8216, "lsquo"), (8217, "rsquo"), (8218, "sbquo"), (8220, "ldquo"), (8221, "rdquo"),
   (8222, "bdquo"), (8224, "dagger"), (8225, "Dagger"), (8226, "bull"), (8230, "hellip"), (8240, "permil"),
   (8242, "prime"), (8243, "Prime"), (8249, "lsaquo"), (8250, "rsaquo"), (8254, "oline"), (8260, "frasl"),
   (8364, "euro"), (8465, "image"), (8472, "weierp"), (8476, "real"), (8482, "trade"), (8501, "alefsym"),
   (8592, "larr"), (8593, "uarr"), (8594, "rarr"), (8595, "darr"), (8596, "harr"), (8629, "crarr"),
   (8656, "lArr"), (8657, "uArr"), (8658, "rArr"), (8659, "dArr"), (8660, "hArr"), (8704, "forall"),
   (8706, "part"), (8707, "exist"), (8709, "empty"), (8711, "nabla"), (8712, "isin"), (8713, "notin"),
   (8715, "ni"), (8719, "prod"), (8721, "sum"), (8722, "minus"), (8727, "lowast"), (8730, "radic"),
   (8733, "prop"), (8734, "infin"), (8736, "ang"), (8743, "and"), (8744, "or"), (8745, "cap"), (8746, "cup"),
   (8747, "int"), (8756, "there4"), (8764, "sim"), (8773, "cong"), (8776, "asymp"), (8800, "ne"),
   (8801, "equiv"), (8804, "le"), (8805, "ge"), (8834, "sub"), (8835, "sup"), (8836, "nsub"), (8838, "sube"),
   (8839, "supe"), (8853, "oplus"), (8855, "otimes"), (8869, "perp"), (8901, "sdot"), (8968, "lceil"),
   (8969, "rceil"), (8970, "lfloor"), (8971, "rfloor"), (9001, "lang"), (9002, "rang"), (9674, "loz"),
   (9824, "spades"), (9827, "clubs"), (9829, "hearts"), (9830, "diams")]

def name? (c : Char) : Option String :=
  if c == '"' then some "quot"
  else if c == '&' then some "amp"
  else if c.toNat < 160 then none
  else if c.toNat < 256 then latinNames[c.toNat - 160]?
  else otherNames.lookup c.toNat

def numberOf (c : Char) : List Char := '&' :: '#' :: Nat.toDigits 10 c.toNat ++ [';']

def reference (c : Char) : List Char :=
  match name? c with
  | some name => '&' :: name.toList ++ [';']
  | none => numberOf c

def scheme : List Char := "mailto:".toList

/-- The link of an address, which may come with its scheme. -/
def link (address : List Char) : Span :=
  let address := (Text.dropPrefix? scheme address).getD address
  .link ⟨(scheme ++ address).flatMap numberOf, none⟩ (Span.literals (address.flatMap reference))

end MailAddress

end Letterpress.Markdown
