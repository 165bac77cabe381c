import PathQuery.Text.Charset

/-! The sets of characters that one byte each stands for: those of the parts of ISO 8859 and those
of widespread systems. All of them agree on ASCII.
-/

namespace PathQuery.Text

/-- The set `iso-8859-1`. -/
def Charset.iso8859_1 : Charset :=
  { names := ["iso-8859-1", "iso_8859-1", "iso8859-1", "iso-ir-100", "cp819", "ibm819", "latin1",
      "l1", "csisolatin1", "iso-latin-1"]
    start := 0x100
    characters := "" }

/-- The set `iso-8859-2`. -/
def Charset.iso8859_2 : Charset :=
  { names := ["iso-8859-2", "iso_8859-2", "iso8859-2", "iso-ir-101", "latin2", "l2", "csisolatin2",
      "iso-latin-2"]
    start := 0xa1
    characters :=
      "Ą˘Ł¤ĽŚ§¨ŠŞŤŹ\u00adŽŻ°ą˛ł´ľśˇ¸šşťź˝žżŔÁÂĂÄĹĆÇČÉĘËĚÍÎĎĐŃŇÓÔŐÖ×ŘŮÚŰÜÝŢßŕáâăäĺćçčéęëěíîďđńň"
      ++ "óôőö÷řůúűüýţ˙" }

/-- The set `iso-8859-3`. -/
def Charset.iso8859_3 : Charset :=
  { names := ["iso-8859-3", "iso_8859-3", "iso8859-3", "iso-ir-109", "latin3", "l3", "csisolatin3"]
    start := 0xa1
    characters :=
      "Ħ˘£¤�Ĥ§¨İŞĞĴ\u00ad�Ż°ħ²³´µĥ·¸ışğĵ½�żÀÁÂ�ÄĊĈÇÈÉÊËÌÍÎÏ�ÑÒÓÔĠÖ×ĜÙÚÛÜŬŜßàáâ�äċĉçèéêëìíîï�ñò"
      ++ "óôġö÷ĝùúûüŭŝ˙" }

/-- The set `iso-8859-4`. -/
def Charset.iso8859_4 : Charset :=
  { names := ["iso-8859-4", "iso_8859-4", "iso8859-4", "iso-ir-110", "latin4", "l4", "csisolatin4"]
    start := 0xa1
    characters :=
      "ĄĸŖ¤ĨĻ§¨ŠĒĢŦ\u00adŽ¯°ą˛ŗ´ĩļˇ¸šēģŧŊžŋĀÁÂÃÄÅÆĮČÉĘËĖÍÎĪĐŅŌĶÔÕÖ×ØŲÚÛÜŨŪßāáâãäåæįčéęëėíîīđņō"
      ++ "ķôõö÷øųúûüũū˙" }

/-- The set `iso-8859-5`. -/
def Charset.iso8859_5 : Charset :=
  { names := ["iso-8859-5", "iso_8859-5", "iso8859-5", "iso-ir-144", "cyrillic",
      "csisolatincyrillic"]
    start := 0xa1
    characters :=
      "ЁЂЃЄЅІЇЈЉЊЋЌ\u00adЎЏАБВГДЕЖЗИЙКЛМНОПРСТУФХЦЧШЩЪЫЬЭЮЯабвгдежзийклмнопрстуфхцчшщъыьэюя№ёђ"
      ++ "ѓєѕіїјљњћќ§ўџ" }

/-- The set `iso-8859-6`. -/
def Charset.iso8859_6 : Charset :=
  { names := ["iso-8859-6", "iso_8859-6", "iso8859-6", "iso-ir-127", "ecma-114", "asmo-708",
      "arabic", "csisolatinarabic"]
    start := 0xa1
    characters :=
      "���¤�������،\u00ad�������������\u061b���\u061f�\u0621\u0622\u0623\u0624\u0625\u0626"
      ++ "\u0627\u0628\u0629\u062a\u062b\u062c\u062d\u062e\u062f\u0630\u0631\u0632\u0633\u0634"
      ++ "\u0635\u0636\u0637\u0638\u0639\u063a�����\u0640\u0641\u0642\u0643\u0644\u0645\u0646"
      ++ "\u0647\u0648\u0649\u064a\u064b\u064c\u064d\u064e\u064f\u0650\u0651\u0652�������������" }

/-- The set `iso-8859-7`. -/
def Charset.iso8859_7 : Charset :=
  { names := ["iso-8859-7", "iso_8859-7", "iso8859-7", "iso-ir-126", "ecma-118", "elot_928",
      "greek8", "greek", "csisolatingreek"]
    start := 0xa1
    characters :=
      "‘’£€₯¦§¨\xa9ͺ«¬\u00ad�―°±²³΄΅Ά·ΈΉΊ»Ό½ΎΏΐΑΒΓΔΕΖΗΘΙΚΛΜΝΞΟΠΡ�ΣΤΥΦΧΨΩΪΫάέήίΰαβγδεζηθικλμνξο"
      ++ "πρςστυφχψωϊϋόύώ�" }

/-- The set `iso-8859-8`. -/
def Charset.iso8859_8 : Charset :=
  { names := ["iso-8859-8", "iso_8859-8", "iso8859-8", "iso-ir-138", "hebrew", "csisolatinhebrew"]
    start := 0xa1
    characters :=
      "�¢£¤¥¦§¨\xa9×«¬\u00ad®¯°±²³´µ¶·¸¹÷»¼½¾��������������������������������‗\u05d0\u05d1"
      ++ "\u05d2\u05d3\u05d4\u05d5\u05d6\u05d7\u05d8\u05d9\u05da\u05db\u05dc\u05dd\u05de\u05df"
      ++ "\u05e0\u05e1\u05e2\u05e3\u05e4\u05e5\u05e6\u05e7\u05e8\u05e9\u05ea��\u200e\u200f�" }

/-- The set `iso-8859-9`. -/
def Charset.iso8859_9 : Charset :=
  { names := ["iso-8859-9", "iso_8859-9", "iso8859-9", "iso-ir-148", "latin5", "l5", "csisolatin5"]
    start := 0xd0
    characters :=
      "ĞÑÒÓÔÕÖ×ØÙÚÛÜİŞßàáâãäåæçèéêëìíîïğñòóôõö÷øùúûüışÿ" }

/-- The set `iso-8859-10`. -/
def Charset.iso8859_10 : Charset :=
  { names := ["iso-8859-10", "iso_8859-10", "iso8859-10", "iso-ir-157", "latin6", "l6",
      "csisolatin6"]
    start := 0xa1
    characters :=
      "ĄĒĢĪĨĶ§ĻĐŠŦŽ\u00adŪŊ°ąēģīĩķ·ļđšŧž―ūŋĀÁÂÃÄÅÆĮČÉĘËĖÍÎÏÐŅŌÓÔÕÖŨØŲÚÛÜÝÞßāáâãäåæįčéęëėíîïðņō"
      ++ "óôõöũøųúûüýþĸ" }

/-- The set `iso-8859-11`. -/
def Charset.iso8859_11 : Charset :=
  { names := ["iso-8859-11", "iso_8859-11", "iso8859-11"]
    start := 0xa1
    characters :=
      "กขฃคฅฆงจฉชซฌญฎฏฐฑฒณดตถทธนบปผฝพฟภมยรฤลฦวศษสหฬอฮฯะ\u0e31าำ\u0e34\u0e35\u0e36\u0e37\u0e38"
      ++ "\u0e39\u0e3a����฿เแโใไๅๆ\u0e47\u0e48\u0e49\u0e4a\u0e4b\u0e4c\u0e4d\u0e4e๏๐๑๒๓๔๕๖๗๘๙๚๛��"
      ++ "��" }

/-- The set `iso-8859-13`. -/
def Charset.iso8859_13 : Charset :=
  { names := ["iso-8859-13", "iso_8859-13", "iso8859-13", "iso-ir-179", "latin7", "l7"]
    start := 0xa1
    characters :=
      "”¢£¤„¦§Ø\xa9Ŗ«¬\u00ad®Æ°±²³“µ¶·ø¹ŗ»¼½¾æĄĮĀĆÄÅĘĒČÉŹĖĢĶĪĻŠŃŅÓŌÕÖ×ŲŁŚŪÜŻŽßąįāćäåęēčéźėģķīļ"
      ++ "šńņóōõö÷ųłśūüżž’" }

/-- The set `iso-8859-14`. -/
def Charset.iso8859_14 : Charset :=
  { names := ["iso-8859-14", "iso_8859-14", "iso8859-14", "iso-ir-199", "latin8", "l8",
      "iso-celtic"]
    start := 0xa1
    characters :=
      "Ḃḃ£ĊċḊ§Ẁ\xa9ẂḋỲ\u00ad®ŸḞḟĠġṀṁ¶ṖẁṗẃṠỳẄẅṡÀÁÂÃÄÅÆÇÈÉÊËÌÍÎÏŴÑÒÓÔÕÖṪØÙÚÛÜÝŶßàáâãäåæçèéêëìíîï"
      ++ "ŵñòóôõöṫøùúûüýŷÿ" }

/-- The set `iso-8859-15`. -/
def Charset.iso8859_15 : Charset :=
  { names := ["iso-8859-15", "iso_8859-15", "iso8859-15", "iso-ir-203", "latin-9"]
    start := 0xa4
    characters :=
      "€¥Š§š\xa9ª«¬\u00ad®¯°±²³Žµ¶·ž¹º»ŒœŸ¿ÀÁÂÃÄÅÆÇÈÉÊËÌÍÎÏÐÑÒÓÔÕÖ×ØÙÚÛÜÝÞßàáâãäåæçèéêëìíîïðñò"
      ++ "óôõö÷øùúûüýþÿ" }

/-- The set `iso-8859-16`. -/
def Charset.iso8859_16 : Charset :=
  { names := ["iso-8859-16", "iso_8859-16", "iso8859-16", "iso-ir-226", "latin10", "l10"]
    start := 0xa1
    characters :=
      "ĄąŁ€„Š§š\xa9Ș«Ź\u00adźŻ°±ČłŽ”¶·žčș»ŒœŸżÀÁÂĂÄĆÆÇÈÉÊËÌÍÎÏĐŃÒÓÔŐÖŚŰÙÚÛÜĘȚßàáâăäćæçèéêëìíîï"
      ++ "đńòóôőöśűùúûüęțÿ" }

/-- The set `koi8-r`. -/
def Charset.koi8R : Charset :=
  { names := ["koi8-r", "cskoi8r"]
    start := 0x80
    characters :=
      "─│┌┐└┘├┤┬┴┼▀▄█▌▐░▒▓⌠■∙√≈≤≥\u00a0⌡°²·÷═║╒ё╓╔╕╖╗╘╙╚╛╜╝╞╟╠╡Ё╢╣╤╥╦╧╨╩╪╫╬\xa9юабцдефгхийклмн"
      ++ "опярстужвьызшэщчъЮАБЦДЕФГХИЙКЛМНОПЯРСТУЖВЬЫЗШЭЩЧЪ" }

/-- The set `koi8-u`. -/
def Charset.koi8U : Charset :=
  { names := ["koi8-u"]
    start := 0x80
    characters :=
      "─│┌┐└┘├┤┬┴┼▀▄█▌▐░▒▓⌠■∙√≈≤≥\u00a0⌡°²·÷═║╒ёє╔ії╗╘╙╚╛ґ╝╞╟╠╡ЁЄ╣ІЇ╦╧╨╩╪Ґ╬\xa9юабцдефгхийклмн"
      ++ "опярстужвьызшэщчъЮАБЦДЕФГХИЙКЛМНОПЯРСТУЖВЬЫЗШЭЩЧЪ" }

/-- The set `windows-1250`. -/
def Charset.windows1250 : Charset :=
  { names := ["windows-1250", "cp1250", "ms-ee"]
    start := 0x80
    characters :=
      "€�‚�„…†‡�‰Š‹ŚŤŽŹ�‘’“”•–—�™š›śťžź\u00a0ˇ˘Ł¤Ą¦§¨\xa9Ş«¬\u00ad®Ż°±˛ł´µ¶·¸ąş»Ľ˝ľżŔÁÂĂÄĹĆÇČÉ"
      ++ "ĘËĚÍÎĎĐŃŇÓÔŐÖ×ŘŮÚŰÜÝŢßŕáâăäĺćçčéęëěíîďđńňóôőö÷řůúűüýţ˙" }

/-- The set `windows-1251`. -/
def Charset.windows1251 : Charset :=
  { names := ["windows-1251", "cp1251", "ms-cyrl"]
    start := 0x80
    characters :=
      "ЂЃ‚ѓ„…†‡€‰Љ‹ЊЌЋЏђ‘’“”•–—�™љ›њќћџ\u00a0ЎўЈ¤Ґ¦§Ё\xa9Є«¬\u00ad®Ї°±Ііґµ¶·ё№є»јЅѕїАБВГДЕЖЗИЙ"
      ++ "КЛМНОПРСТУФХЦЧШЩЪЫЬЭЮЯабвгдежзийклмнопрстуфхцчшщъыьэюя" }

/-- The set `windows-1252`. -/
def Charset.windows1252 : Charset :=
  { names := ["windows-1252", "cp1252", "ms-ansi"]
    start := 0x80
    characters :=
      "€�‚ƒ„…†‡ˆ‰Š‹Œ�Ž��‘’“”•–—˜™š›œ�žŸ\u00a0¡¢£¤¥¦§¨\xa9ª«¬\u00ad®¯°±²³´µ¶·¸¹º»¼½¾¿ÀÁÂÃÄÅÆÇÈÉ"
      ++ "ÊËÌÍÎÏÐÑÒÓÔÕÖ×ØÙÚÛÜÝÞßàáâãäåæçèéêëìíîïðñòóôõö÷øùúûüýþÿ" }

/-- The set `windows-1253`. -/
def Charset.windows1253 : Charset :=
  { names := ["windows-1253", "cp1253", "ms-greek"]
    start := 0x80
    characters :=
      "€�‚ƒ„…†‡�‰�‹�����‘’“”•–—�™�›����\u00a0΅Ά£¤¥¦§¨\xa9�«¬\u00ad®―°±²³΄µ¶·ΈΉΊ»Ό½ΎΏΐΑΒΓΔΕΖΗΘΙ"
      ++ "ΚΛΜΝΞΟΠΡ�ΣΤΥΦΧΨΩΪΫάέήίΰαβγδεζηθικλμνξοπρςστυφχψωϊϋόύώ�" }

/-- The set `windows-1254`. -/
def Charset.windows1254 : Charset :=
  { names := ["windows-1254", "cp1254", "ms-turk"]
    start := 0x80
    characters :=
      "€�‚ƒ„…†‡ˆ‰Š‹Œ����‘’“”•–—˜™š›œ��Ÿ\u00a0¡¢£¤¥¦§¨\xa9ª«¬\u00ad®¯°±²³´µ¶·¸¹º»¼½¾¿ÀÁÂÃÄÅÆÇÈÉ"
      ++ "ÊËÌÍÎÏĞÑÒÓÔÕÖ×ØÙÚÛÜİŞßàáâãäåæçèéêëìíîïğñòóôõö÷øùúûüışÿ" }

/-- The set `windows-1255`. -/
def Charset.windows1255 : Charset :=
  { names := ["windows-1255", "cp1255", "ms-hebr"]
    start := 0x80
    characters :=
      "€�‚ƒ„…†‡ˆ‰�‹�����‘’“”•–—˜™�›����\u00a0¡¢£₪¥¦§¨\xa9×«¬\u00ad®¯°±²³´µ¶·¸¹÷»¼½¾¿\u05b0"
      ++ "\u05b1\u05b2\u05b3\u05b4\u05b5\u05b6\u05b7\u05b8\u05b9�\u05bb\u05bc\u05bd\u05be\u05bf"
      ++ "\u05c0\u05c1\u05c2\u05c3\u05f0\u05f1\u05f2\u05f3\u05f4�������\u05d0\u05d1\u05d2\u05d3"
      ++ "\u05d4\u05d5\u05d6\u05d7\u05d8\u05d9\u05da\u05db\u05dc\u05dd\u05de\u05df\u05e0\u05e1"
      ++ "\u05e2\u05e3\u05e4\u05e5\u05e6\u05e7\u05e8\u05e9\u05ea��\u200e\u200f�" }

/-- The set `windows-1256`. -/
def Charset.windows1256 : Charset :=
  { names := ["windows-1256", "cp1256", "ms-arab"]
    start := 0x80
    characters :=
      "€\u067e‚ƒ„…†‡ˆ‰\u0679‹Œ\u0686\u0698\u0688\u06af‘’“”•–—\u06a9™\u0691›œ\u200c\u200d\u06ba"
      ++ "\u00a0،¢£¤¥¦§¨\xa9\u06be«¬\u00ad®¯°±²³´µ¶·¸¹\u061b»¼½¾\u061f\u06c1\u0621\u0622\u0623"
      ++ "\u0624\u0625\u0626\u0627\u0628\u0629\u062a\u062b\u062c\u062d\u062e\u062f\u0630\u0631"
      ++ "\u0632\u0633\u0634\u0635\u0636×\u0637\u0638\u0639\u063a\u0640\u0641\u0642\u0643à\u0644â"
      ++ "\u0645\u0646\u0647\u0648çèéêë\u0649\u064aîï\u064b\u064c\u064d\u064eô\u064f\u0650÷\u0651"
      ++ "ù\u0652ûü\u200e\u200f\u06d2" }

/-- The set `windows-1257`. -/
def Charset.windows1257 : Charset :=
  { names := ["windows-1257", "cp1257", "winbaltrim"]
    start := 0x80
    characters :=
      "€�‚�„…†‡�‰�‹�¨ˇ¸�‘’“”•–—�™�›�¯˛�\u00a0�¢£¤�¦§Ø\xa9Ŗ«¬\u00ad®Æ°±²³´µ¶·ø¹ŗ»¼½¾æĄĮĀĆÄÅĘĒČÉ"
      ++ "ŹĖĢĶĪĻŠŃŅÓŌÕÖ×ŲŁŚŪÜŻŽßąįāćäåęēčéźėģķīļšńņóōõö÷ųłśūüżž˙" }

/-- The set `windows-1258`. -/
def Charset.windows1258 : Charset :=
  { names := ["windows-1258", "cp1258"]
    start := 0x80
    characters :=
      "€�‚ƒ„…†‡ˆ‰�‹Œ����‘’“”•–—˜™�›œ��Ÿ\u00a0¡¢£¤¥¦§¨\xa9ª«¬\u00ad®¯°±²³´µ¶·¸¹º»¼½¾¿ÀÁÂĂÄÅÆÇÈÉ"
      ++ "ÊË\u0300ÍÎÏĐÑ\u0309ÓÔƠÖ×ØÙÚÛÜƯ\u0303ßàáâăäåæçèéêë\u0301íîïđñ\u0323óôơö÷øùúûüư₫ÿ" }

/-- The set `cp850`. -/
def Charset.cp850 : Charset :=
  { names := ["cp850", "ibm850", "cspc850multilingual"]
    start := 0x80
    characters :=
      "ÇüéâäàåçêëèïîìÄÅÉæÆôöòûùÿÖÜø£Ø×ƒáíóúñÑªº¿®¬½¼¡«»░▒▓│┤ÁÂÀ\xa9╣║╗╝¢¥┐└┴┬├─┼ãÃ╚╔╩╦╠═╬¤ðÐÊË"
      ++ "ÈıÍÎÏ┘┌█▄¦Ì▀ÓßÔÒõÕµþÞÚÛÙýÝ¯´\u00ad±‗¾¶§÷¸°¨·¹³²■\u00a0" }

/-- The set `cp862`. -/
def Charset.cp862 : Charset :=
  { names := ["cp862", "ibm862", "cspc862latinhebrew"]
    start := 0x80
    characters :=
      "\u05d0\u05d1\u05d2\u05d3\u05d4\u05d5\u05d6\u05d7\u05d8\u05d9\u05da\u05db\u05dc\u05dd"
      ++ "\u05de\u05df\u05e0\u05e1\u05e2\u05e3\u05e4\u05e5\u05e6\u05e7\u05e8\u05e9\u05ea¢£¥₧ƒáíóú"
      ++ "ñÑªº¿⌐¬½¼¡«»░▒▓│┤╡╢╖╕╣║╗╝╜╛┐└┴┬├─┼╞╟╚╔╩╦╠═╬╧╨╤╥╙╘╒╓╫╪┘┌█▄▌▐▀αßΓπΣσµτΦΘΩδ∞φε∩≡±≥≤⌠⌡÷≈°∙·"
      ++ "√ⁿ²■\u00a0" }

/-- The set `cp866`. -/
def Charset.cp866 : Charset :=
  { names := ["cp866", "ibm866", "csibm866"]
    start := 0x80
    characters :=
      "АБВГДЕЖЗИЙКЛМНОПРСТУФХЦЧШЩЪЫЬЭЮЯабвгдежзийклмноп░▒▓│┤╡╢╖╕╣║╗╝╜╛┐└┴┬├─┼╞╟╚╔╩╦╠═╬╧╨╤╥╙╘╒╓"
      ++ "╫╪┘┌█▄▌▐▀рстуфхцчшщъыьэюяЁёЄєЇїЎў°∙·√№¤■\u00a0" }

/-- The set `cp874`. -/
def Charset.cp874 : Charset :=
  { names := ["cp874", "windows-874"]
    start := 0x80
    characters :=
      "€����…�����������‘’“”•–—��������\u00a0กขฃคฅฆงจฉชซฌญฎฏฐฑฒณดตถทธนบปผฝพฟภมยรฤลฦวศษสหฬอฮฯะ"
      ++ "\u0e31าำ\u0e34\u0e35\u0e36\u0e37\u0e38\u0e39\u0e3a����฿เแโใไๅๆ\u0e47\u0e48\u0e49\u0e4a"
      ++ "\u0e4b\u0e4c\u0e4d\u0e4e๏๐๑๒๓๔๕๖๗๘๙๚๛����" }

/-- The set `tis-620`. -/
def Charset.tis620 : Charset :=
  { names := ["tis-620", "tis620", "tis620-0", "iso-ir-166"]
    start := 0xa0
    characters :=
      "�กขฃคฅฆงจฉชซฌญฎฏฐฑฒณดตถทธนบปผฝพฟภมยรฤลฦวศษสหฬอฮฯะ\u0e31าำ\u0e34\u0e35\u0e36\u0e37\u0e38"
      ++ "\u0e39\u0e3a����฿เแโใไๅๆ\u0e47\u0e48\u0e49\u0e4a\u0e4b\u0e4c\u0e4d\u0e4e๏๐๑๒๓๔๕๖๗๘๙๚๛��"
      ++ "��" }

/-- The set `macroman`. -/
def Charset.macRoman : Charset :=
  { names := ["macroman", "macintosh", "mac", "csmacintosh"]
    start := 0x80
    characters :=
      "ÄÅÇÉÑÖÜáàâäãåçéèêëíìîïñóòôöõúùûü†°¢£§•¶ß®\xa9™´¨≠ÆØ∞±≤≥¥µ∂∑∏π∫ªºΩæø¿¡¬√ƒ≈∆«»…\u00a0ÀÃÕŒ"
      ++ "œ–—“”‘’÷◊ÿŸ⁄€‹›ﬁﬂ‡·‚„‰ÂÊÁËÈÍÎÏÌÓÔ\uf8ffÒÚÛÙıˆ˜¯˘˙˚¸˝˛ˇ" }

/-- The set `maccyrillic`. -/
def Charset.macCyrillic : Charset :=
  { names := ["maccyrillic"]
    start := 0x80
    characters :=
      "АБВГДЕЖЗИЙКЛМНОПРСТУФХЦЧШЩЪЫЬЭЮЯ†°Ґ£§•¶І®\xa9™Ђђ≠Ѓѓ∞±≤≥іµґЈЄєЇїЉљЊњјЅ¬√ƒ≈∆«»…\u00a0ЋћЌќ"
      ++ "ѕ–—“”‘’÷„ЎўЏџ№Ёёяабвгдежзийклмнопрстуфхцчшщъыьэю€" }

/-- All sets. -/
def Charset.all : List Charset :=
  [.ascii, .iso8859_1, .iso8859_2, .iso8859_3, .iso8859_4, .iso8859_5, .iso8859_6, .iso8859_7,
    .iso8859_8, .iso8859_9, .iso8859_10, .iso8859_11, .iso8859_13, .iso8859_14, .iso8859_15,
    .iso8859_16, .koi8R, .koi8U, .windows1250, .windows1251, .windows1252, .windows1253,
    .windows1254, .windows1255, .windows1256, .windows1257, .windows1258, .cp850, .cp862, .cp866,
    .cp874, .tis620, .macRoman, .macCyrillic]

end PathQuery.Text
