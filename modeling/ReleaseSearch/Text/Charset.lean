import ReleaseSearch.Text.Utf8

/-!
# Character sets

The character sets that a document or a response may be written in, by the names they go by, and
the reading of bytes in each.  A character set either has one byte for each character, and then a
table of its upper half, or is one of the Unicode encodings.
-/

namespace ReleaseSearch.Text

inductive Charset where
  /-- UTF-8, possibly after a mark that is not part of the text. -/
  | utf8 (marked : Bool)
  /-- Units of two bytes, with the larger byte first or last, or as a mark at the start says. -/
  | utf16 (bigFirst : Option Bool)
  /-- Units of four bytes. -/
  | utf32 (bigFirst : Option Bool)
  /-- One byte for each character; the bytes below 128 are ASCII. -/
  | single (upper : List Char)
  deriving DecidableEq

namespace Charset

/-- The single-byte sets: their names, whether the first 32 places of the upper half are control
characters that the table omits, and the table, with U+FFFD for the unused places. -/
def pages : List (List String × Bool × String) :=
  [
    (["437", "cp437", "cspc8codepage437", "ibm437"], false,
      "ÇüéâäàåçêëèïîìÄÅÉæÆôöòûùÿÖÜ¢£¥₧ƒáíóúñÑªº¿⌐¬½¼¡«»░▒▓│┤╡╢╖╕╣║╗╝╜╛┐└┴┬├─┼╞╟╚╔╩╦╠═╬╧╨╤╥╙╘╒╓╫" ++
      "╪┘┌█▄▌▐▀αßΓπΣσµτΦΘΩδ∞φε∩≡±≥≤⌠⌡÷≈°∙·√ⁿ²■\xa0"),
    (["850", "cp850", "cspc850multilingual", "ibm850"], false,
      "ÇüéâäàåçêëèïîìÄÅÉæÆôöòûùÿÖÜø£Ø×ƒáíóúñÑªº¿®¬½¼¡«»░▒▓│┤ÁÂÀ©╣║╗╝¢¥┐└┴┬├─┼ãÃ╚╔╩╦╠═╬¤ðÐÊËÈıÍÎ" ++
      "Ï┘┌█▄¦Ì▀ÓßÔÒõÕµþÞÚÛÙýÝ¯´\xad±‗¾¶§÷¸°¨·¹³²■\xa0"),
    (["852", "cp852", "cspcp852", "ibm852"], false,
      "ÇüéâäůćçłëŐőîŹÄĆÉĹĺôöĽľŚśÖÜŤťŁ×čáíóúĄąŽžĘę¬źČş«»░▒▓│┤ÁÂĚŞ╣║╗╝Żż┐└┴┬├─┼Ăă╚╔╩╦╠═╬¤đĐĎËďŇÍÎ" ++
      "ě┘┌█▄ŢŮ▀ÓßÔŃńňŠšŔÚŕŰýÝţ´\xad˝˛ˇ˘§÷¸°¨˙űŘř■\xa0"),
    (["866", "cp866", "csibm866", "ibm866"], false,
      "АБВГДЕЖЗИЙКЛМНОПРСТУФХЦЧШЩЪЫЬЭЮЯабвгдежзийклмноп░▒▓│┤╡╢╖╕╣║╗╝╜╛┐└┴┬├─┼╞╟╚╔╩╦╠═╬╧╨╤╥╙╘╒╓╫" ++
      "╪┘┌█▄▌▐▀рстуфхцчшщъыьэюяЁёЄєЇїЎў°∙·√№¤■\xa0"),
    (["1250", "cp1250", "windows_1250"], false,
      "€�‚�„…†‡�‰Š‹ŚŤŽŹ�‘’“”•–—�™š›śťžź\xa0ˇ˘Ł¤Ą¦§¨©Ş«¬\xad®Ż°±˛ł´µ¶·¸ąş»Ľ˝ľżŔÁÂĂÄĹĆÇČÉĘËĚÍÎĎĐŃ" ++
      "ŇÓÔŐÖ×ŘŮÚŰÜÝŢßŕáâăäĺćçčéęëěíîďđńňóôőö÷řůúűüýţ˙"),
    (["1251", "cp1251", "windows_1251"], false,
      "ЂЃ‚ѓ„…†‡€‰Љ‹ЊЌЋЏђ‘’“”•–—�™љ›њќћџ\xa0ЎўЈ¤Ґ¦§Ё©Є«¬\xad®Ї°±Ііґµ¶·ё№є»јЅѕїАБВГДЕЖЗИЙКЛМНОПРС" ++
      "ТУФХЦЧШЩЪЫЬЭЮЯабвгдежзийклмнопрстуфхцчшщъыьэюя"),
    (["1252", "cp1252", "windows_1252"], false,
      "€�‚ƒ„…†‡ˆ‰Š‹Œ�Ž��‘’“”•–—˜™š›œ�žŸ\xa0¡¢£¤¥¦§¨©ª«¬\xad®¯°±²³´µ¶·¸¹º»¼½¾¿ÀÁÂÃÄÅÆÇÈÉÊËÌÍÎÏÐÑ" ++
      "ÒÓÔÕÖ×ØÙÚÛÜÝÞßàáâãäåæçèéêëìíîïðñòóôõö÷øùúûüýþÿ"),
    (["1253", "cp1253", "windows_1253"], false,
      "€�‚ƒ„…†‡�‰�‹�����‘’“”•–—�™�›����\xa0΅Ά£¤¥¦§¨©�«¬\xad®―°±²³΄µ¶·ΈΉΊ»Ό½ΎΏΐΑΒΓΔΕΖΗΘΙΚΛΜΝΞΟΠΡ" ++
      "�ΣΤΥΦΧΨΩΪΫάέήίΰαβγδεζηθικλμνξοπρςστυφχψωϊϋόύώ�"),
    (["1254", "cp1254", "windows_1254"], false,
      "€�‚ƒ„…†‡ˆ‰Š‹Œ����‘’“”•–—˜™š›œ��Ÿ\xa0¡¢£¤¥¦§¨©ª«¬\xad®¯°±²³´µ¶·¸¹º»¼½¾¿ÀÁÂÃÄÅÆÇÈÉÊËÌÍÎÏĞÑ" ++
      "ÒÓÔÕÖ×ØÙÚÛÜİŞßàáâãäåæçèéêëìíîïğñòóôõö÷øùúûüışÿ"),
    (["1255", "cp1255", "windows_1255"], false,
      "€�‚ƒ„…†‡ˆ‰�‹�����‘’“”•–—˜™�›����\xa0¡¢£₪¥¦§¨©×«¬\xad®¯°±²³´µ¶·¸¹÷»¼½¾¿\u05b0\u05b1\u05b2" ++
      "\u05b3\u05b4\u05b5\u05b6\u05b7\u05b8\u05b9�\u05bb\u05bc\u05bd\u05be\u05bf\u05c0\u05c1" ++
      "\u05c2\u05c3\u05f0\u05f1\u05f2\u05f3\u05f4�������\u05d0\u05d1\u05d2\u05d3\u05d4\u05d5" ++
      "\u05d6\u05d7\u05d8\u05d9\u05da\u05db\u05dc\u05dd\u05de\u05df\u05e0\u05e1\u05e2\u05e3" ++
      "\u05e4\u05e5\u05e6\u05e7\u05e8\u05e9\u05ea��\u200e\u200f�"),
    (["1256", "cp1256", "windows_1256"], false,
      "€\u067e‚ƒ„…†‡ˆ‰\u0679‹Œ\u0686\u0698\u0688\u06af‘’“”•–—\u06a9™\u0691›œ\u200c\u200d\u06ba" ++
      "\xa0\u060c¢£¤¥¦§¨©\u06be«¬\xad®¯°±²³´µ¶·¸¹\u061b»¼½¾\u061f\u06c1\u0621\u0622\u0623\u0624" ++
      "\u0625\u0626\u0627\u0628\u0629\u062a\u062b\u062c\u062d\u062e\u062f\u0630\u0631\u0632" ++
      "\u0633\u0634\u0635\u0636×\u0637\u0638\u0639\u063a\u0640\u0641\u0642\u0643à\u0644â\u0645" ++
      "\u0646\u0647\u0648çèéêë\u0649\u064aîï\u064b\u064c\u064d\u064eô\u064f\u0650÷\u0651ù\u0652" ++
      "ûü\u200e\u200f\u06d2"),
    (["1257", "cp1257", "windows_1257"], false,
      "€�‚�„…†‡�‰�‹�¨ˇ¸�‘’“”•–—�™�›�¯˛�\xa0�¢£¤�¦§Ø©Ŗ«¬\xad®Æ°±²³´µ¶·ø¹ŗ»¼½¾æĄĮĀĆÄÅĘĒČÉŹĖĢĶĪĻŠŃ" ++
      "ŅÓŌÕÖ×ŲŁŚŪÜŻŽßąįāćäåęēčéźėģķīļšńņóōõö÷ųłśūüżž˙"),
    (["1258", "cp1258", "windows_1258"], false,
      "€�‚ƒ„…†‡ˆ‰�‹Œ����‘’“”•–—˜™�›œ��Ÿ\xa0¡¢£¤¥¦§¨©ª«¬\xad®¯°±²³´µ¶·¸¹º»¼½¾¿ÀÁÂĂÄÅÆÇÈÉÊË\u0300" ++
      "ÍÎÏĐÑ\u0309ÓÔƠÖ×ØÙÚÛÜƯ\u0303ßàáâăäåæçèéêë\u0301íîïđñ\u0323óôơö÷øùúûüư₫ÿ"),
    (["csisolatin2", "iso8859_2", "iso_8859_2", "iso_8859_2_1987", "iso_ir_101", "l2",
      "latin2"], true,
      "\xa0Ą˘Ł¤ĽŚ§¨ŠŞŤŹ\xadŽŻ°ą˛ł´ľśˇ¸šşťź˝žżŔÁÂĂÄĹĆÇČÉĘËĚÍÎĎĐŃŇÓÔŐÖ×ŘŮÚŰÜÝŢßŕáâăäĺćçčéęëěíîďđń" ++
      "ňóôőö÷řůúűüýţ˙"),
    (["csisolatin3", "iso8859_3", "iso_8859_3", "iso_8859_3_1988", "iso_ir_109", "l3",
      "latin3"], true,
      "\xa0Ħ˘£¤�Ĥ§¨İŞĞĴ\xad�Ż°ħ²³´µĥ·¸ışğĵ½�żÀÁÂ�ÄĊĈÇÈÉÊËÌÍÎÏ�ÑÒÓÔĠÖ×ĜÙÚÛÜŬŜßàáâ�äċĉçèéêëìíîï�ñ" ++
      "òóôġö÷ĝùúûüŭŝ˙"),
    (["csisolatin4", "iso8859_4", "iso_8859_4", "iso_8859_4_1988", "iso_ir_110", "l4",
      "latin4"], true,
      "\xa0ĄĸŖ¤ĨĻ§¨ŠĒĢŦ\xadŽ¯°ą˛ŗ´ĩļˇ¸šēģŧŊžŋĀÁÂÃÄÅÆĮČÉĘËĖÍÎĪĐŅŌĶÔÕÖ×ØŲÚÛÜŨŪßāáâãäåæįčéęëėíîīđņ" ++
      "ōķôõö÷øųúûüũū˙"),
    (["csisolatincyrillic", "cyrillic", "iso8859_5", "iso_8859_5", "iso_8859_5_1988",
      "iso_ir_144"], true,
      "\xa0ЁЂЃЄЅІЇЈЉЊЋЌ\xadЎЏАБВГДЕЖЗИЙКЛМНОПРСТУФХЦЧШЩЪЫЬЭЮЯабвгдежзийклмнопрстуфхцчшщъыьэюя№ё" ++
      "ђѓєѕіїјљњћќ§ўџ"),
    (["arabic", "asmo_708", "csisolatinarabic", "ecma_114", "iso8859_6", "iso_8859_6",
      "iso_8859_6_1987", "iso_ir_127"], true,
      "\xa0���¤�������\u060c\xad�������������\u061b���\u061f�\u0621\u0622\u0623\u0624\u0625" ++
      "\u0626\u0627\u0628\u0629\u062a\u062b\u062c\u062d\u062e\u062f\u0630\u0631\u0632\u0633" ++
      "\u0634\u0635\u0636\u0637\u0638\u0639\u063a�����\u0640\u0641\u0642\u0643\u0644\u0645" ++
      "\u0646\u0647\u0648\u0649\u064a\u064b\u064c\u064d\u064e\u064f\u0650\u0651\u0652����������" ++
      "���"),
    (["csisolatingreek", "ecma_118", "elot_928", "greek", "greek8", "iso8859_7", "iso_8859_7",
      "iso_8859_7_1987", "iso_ir_126"], true,
      "\xa0‘’£€₯¦§¨©ͺ«¬\xad�―°±²³΄΅Ά·ΈΉΊ»Ό½ΎΏΐΑΒΓΔΕΖΗΘΙΚΛΜΝΞΟΠΡ�ΣΤΥΦΧΨΩΪΫάέήίΰαβγδεζηθικλμνξοπρ" ++
      "ςστυφχψωϊϋόύώ�"),
    (["csisolatinhebrew", "hebrew", "iso8859_8", "iso_8859_8", "iso_8859_8_1988",
      "iso_ir_138"], true,
      "\xa0�¢£¤¥¦§¨©×«¬\xad®¯°±²³´µ¶·¸¹÷»¼½¾��������������������������������‗\u05d0\u05d1\u05d2" ++
      "\u05d3\u05d4\u05d5\u05d6\u05d7\u05d8\u05d9\u05da\u05db\u05dc\u05dd\u05de\u05df\u05e0" ++
      "\u05e1\u05e2\u05e3\u05e4\u05e5\u05e6\u05e7\u05e8\u05e9\u05ea��\u200e\u200f�"),
    (["csisolatin5", "iso8859_9", "iso_8859_9", "iso_8859_9_1989", "iso_ir_148", "l5",
      "latin5"], true,
      "\xa0¡¢£¤¥¦§¨©ª«¬\xad®¯°±²³´µ¶·¸¹º»¼½¾¿ÀÁÂÃÄÅÆÇÈÉÊËÌÍÎÏĞÑÒÓÔÕÖ×ØÙÚÛÜİŞßàáâãäåæçèéêëìíîïğñ" ++
      "òóôõö÷øùúûüışÿ"),
    (["csisolatin6", "iso8859_10", "iso_8859_10", "iso_8859_10_1992", "iso_ir_157", "l6",
      "latin6"], true,
      "\xa0ĄĒĢĪĨĶ§ĻĐŠŦŽ\xadŪŊ°ąēģīĩķ·ļđšŧž―ūŋĀÁÂÃÄÅÆĮČÉĘËĖÍÎÏÐŅŌÓÔÕÖŨØŲÚÛÜÝÞßāáâãäåæįčéęëėíîïðņ" ++
      "ōóôõöũøųúûüýþĸ"),
    (["iso8859_11", "iso_8859_11", "iso_8859_11_2001", "thai"], true,
      "\xa0\u0e01\u0e02\u0e03\u0e04\u0e05\u0e06\u0e07\u0e08\u0e09\u0e0a\u0e0b\u0e0c\u0e0d\u0e0e" ++
      "\u0e0f\u0e10\u0e11\u0e12\u0e13\u0e14\u0e15\u0e16\u0e17\u0e18\u0e19\u0e1a\u0e1b\u0e1c" ++
      "\u0e1d\u0e1e\u0e1f\u0e20\u0e21\u0e22\u0e23\u0e24\u0e25\u0e26\u0e27\u0e28\u0e29\u0e2a" ++
      "\u0e2b\u0e2c\u0e2d\u0e2e\u0e2f\u0e30\u0e31\u0e32\u0e33\u0e34\u0e35\u0e36\u0e37\u0e38" ++
      "\u0e39\u0e3a����\u0e3f\u0e40\u0e41\u0e42\u0e43\u0e44\u0e45\u0e46\u0e47\u0e48\u0e49\u0e4a" ++
      "\u0e4b\u0e4c\u0e4d\u0e4e\u0e4f\u0e50\u0e51\u0e52\u0e53\u0e54\u0e55\u0e56\u0e57\u0e58" ++
      "\u0e59\u0e5a\u0e5b����"),
    (["iso8859_13", "iso_8859_13", "l7", "latin7"], true,
      "\xa0”¢£¤„¦§Ø©Ŗ«¬\xad®Æ°±²³“µ¶·ø¹ŗ»¼½¾æĄĮĀĆÄÅĘĒČÉŹĖĢĶĪĻŠŃŅÓŌÕÖ×ŲŁŚŪÜŻŽßąįāćäåęēčéźėģķīļšń" ++
      "ņóōõö÷ųłśūüżž’"),
    (["iso8859_14", "iso_8859_14", "iso_8859_14_1998", "iso_celtic", "iso_ir_199", "l8",
      "latin8"], true,
      "\xa0Ḃḃ£ĊċḊ§Ẁ©ẂḋỲ\xad®ŸḞḟĠġṀṁ¶ṖẁṗẃṠỳẄẅṡÀÁÂÃÄÅÆÇÈÉÊËÌÍÎÏŴÑÒÓÔÕÖṪØÙÚÛÜÝŶßàáâãäåæçèéêëìíîïŵñ" ++
      "òóôõöṫøùúûüýŷÿ"),
    (["iso8859_15", "iso_8859_15", "l9", "latin9"], true,
      "\xa0¡¢£€¥Š§š©ª«¬\xad®¯°±²³Žµ¶·ž¹º»ŒœŸ¿ÀÁÂÃÄÅÆÇÈÉÊËÌÍÎÏÐÑÒÓÔÕÖ×ØÙÚÛÜÝÞßàáâãäåæçèéêëìíîïðñ" ++
      "òóôõö÷øùúûüýþÿ"),
    (["iso8859_16", "iso_8859_16", "iso_8859_16_2001", "iso_ir_226", "l10", "latin10"], true,
      "\xa0ĄąŁ€„Š§š©Ș«Ź\xadźŻ°±ČłŽ”¶·žčș»ŒœŸżÀÁÂĂÄĆÆÇÈÉÊËÌÍÎÏĐŃÒÓÔŐÖŚŰÙÚÛÜĘȚßàáâăäćæçèéêëìíîïđń" ++
      "òóôőöśűùúûüęțÿ"),
    (["cskoi8r", "koi8_r"], false,
      "─│┌┐└┘├┤┬┴┼▀▄█▌▐░▒▓⌠■∙√≈≤≥\xa0⌡°²·÷═║╒ё╓╔╕╖╗╘╙╚╛╜╝╞╟╠╡Ё╢╣╤╥╦╧╨╩╪╫╬©юабцдефгхийклмнопярст" ++
      "ужвьызшэщчъЮАБЦДЕФГХИЙКЛМНОПЯРСТУЖВЬЫЗШЭЩЧЪ"),
    (["koi8_u"], false,
      "─│┌┐└┘├┤┬┴┼▀▄█▌▐░▒▓⌠■∙√≈≤≥\xa0⌡°²·÷═║╒ёє╔ії╗╘╙╚╛ґ╝╞╟╠╡ЁЄ╣ІЇ╦╧╨╩╪Ґ╬©юабцдефгхийклмнопярст" ++
      "ужвьызшэщчъЮАБЦДЕФГХИЙКЛМНОПЯРСТУЖВЬЫЗШЭЩЧЪ"),
    (["mac_roman", "macintosh", "macroman"], false,
      "ÄÅÇÉÑÖÜáàâäãåçéèêëíìîïñóòôöõúùûü†°¢£§•¶ß®©™´¨≠ÆØ∞±≤≥¥µ∂∑∏π∫ªºΩæø¿¡¬√ƒ≈∆«»…\xa0ÀÃÕŒœ–—“”‘" ++
      "’÷◊ÿŸ⁄€‹›ﬁﬂ‡·‚„‰ÂÊÁËÈÍÎÏÌÓÔ\uf8ffÒÚÛÙıˆ˜¯˘˙˚¸˝˛ˇ")
  ]

/-- The control characters from U+0080 to U+009F. -/
def controls : List Char := (List.range 32).map fun i => Char.ofNat (128 + i)

/-- ASCII: no byte of the upper half is used. -/
def ascii : Charset := .single (List.replicate 128 Utf8.replacement)

/-- Latin-1: each byte is the code point of a character. -/
def latin1 : Charset := .single ((List.range 128).map fun i => Char.ofNat (128 + i))

/-- The Unicode encodings and the two simplest single-byte sets by name. -/
def common : List (List String × Charset) :=
  [
    (["cp65001", "u8", "utf", "utf8", "utf8_ucs2", "utf8_ucs4", "utf_8"], .utf8 false),
    (["utf_8_sig"], .utf8 true),
    (["646", "ansi_x3.4_1968", "ansi_x3.4_1986", "ansi_x3_4_1968", "ascii", "cp367", "csascii",
      "ibm367", "iso646_us", "iso_646.irv_1991", "iso_ir_6", "us", "us_ascii"], ascii),
    (["8859", "cp819", "csisolatin1", "ibm819", "iso8859", "iso8859_1", "iso_8859_1",
      "iso_8859_1_1987", "iso_ir_100", "l1", "latin", "latin1", "latin_1"], latin1),
    (["u16", "utf16", "utf_16"], .utf16 none),
    (["unicodelittleunmarked", "utf_16_le", "utf_16le"], .utf16 (some false)),
    (["unicodebigunmarked", "utf_16_be", "utf_16be"], .utf16 (some true)),
    (["u32", "utf32", "utf_32"], .utf32 none),
    (["utf_32_le", "utf_32le"], .utf32 (some false)),
    (["utf_32_be", "utf_32be"], .utf32 (some true))
  ]

/-- The letters, digits and points of a name in lower case, every other run of characters between
them as one underscore. -/
def plainName (pending : Bool) (started : Bool) : List Char → List Char
  | [] => []
  | c :: cs =>
    if c.isAlphanum || c == '.' then
      let rest := c.toLower :: plainName false true cs
      if pending && started then '_' :: rest else rest
    else plainName true started cs

/-- The character set that goes by a name, up to case and punctuation. -/
def named? (name : String) : Option Charset :=
  let plain := plainName false false name.toList
  let find (wanted : String) : Option Charset :=
    match common.find? (·.1.contains wanted) with
    | some entry => some entry.2
    | none =>
      (pages.find? (·.1.contains wanted)).map fun entry =>
        .single (if entry.2.1 then controls ++ entry.2.2.toList else entry.2.2.toList)
  (find (String.ofList plain)).or
    (find (String.ofList (plain.map fun c => if c == '.' then '_' else c)))

/-! ## Reading -/

def unit16 (bigFirst : Bool) (a b : UInt8) : Nat :=
  if bigFirst then a.toNat * 256 + b.toNat else b.toNat * 256 + a.toNat

/-- The characters of two-byte units, `none` for each malformed piece. -/
def read16 (bigFirst : Bool) : List UInt8 → List (Option Char)
  | a :: b :: rest =>
    let n := unit16 bigFirst a b
    if 0xd800 ≤ n ∧ n < 0xdc00 then
      match rest with
      | c :: d :: rest' =>
        let m := unit16 bigFirst c d
        if 0xdc00 ≤ m ∧ m < 0xe000 then
          some (Char.ofNat (0x10000 + (n - 0xd800) * 1024 + (m - 0xdc00))) :: read16 bigFirst rest'
        else none :: read16 bigFirst (c :: d :: rest')
      | _ => [none]
    else if 0xdc00 ≤ n ∧ n < 0xe000 then none :: read16 bigFirst rest
    else some (Char.ofNat n) :: read16 bigFirst rest
  | [_] => [none]
  | [] => []

/-- The characters of four-byte units, `none` for each malformed piece. -/
def read32 (bigFirst : Bool) : List UInt8 → List (Option Char)
  | a :: b :: c :: d :: rest =>
    let high := unit16 bigFirst a b
    let low := unit16 bigFirst c d
    let n := if bigFirst then high * 65536 + low else low * 65536 + high
    (if n.isValidChar then some (Char.ofNat n) else none) :: read32 bigFirst rest
  | [] => []
  | _ => [none]

/-- The characters of bytes, `none` for each malformed piece. -/
def read : Charset → List UInt8 → List (Option Char)
  | .utf8 false, bs => Utf8.readFrom 0 bs
  | .utf8 true, 0xef :: 0xbb :: 0xbf :: bs => Utf8.readFrom 0 bs
  | .utf8 true, bs => Utf8.readFrom 0 bs
  | .utf16 (some bigFirst), bs => read16 bigFirst bs
  | .utf16 none, 0xfe :: 0xff :: bs => read16 true bs
  | .utf16 none, 0xff :: 0xfe :: bs => read16 false bs
  | .utf16 none, bs => read16 false bs
  | .utf32 (some bigFirst), bs => read32 bigFirst bs
  | .utf32 none, 0 :: 0 :: 0xfe :: 0xff :: bs => read32 true bs
  | .utf32 none, 0xff :: 0xfe :: 0 :: 0 :: bs => read32 false bs
  | .utf32 none, bs => read32 false bs
  | .single upper, bs =>
    bs.map fun (b : UInt8) =>
      if b < 128 then some (Char.ofNat b.toNat)
      else
        match upper[b.toNat - 128]? with
        | some c => if c == Utf8.replacement then none else some c
        | none => none

def decode? (charset : Charset) (bs : List UInt8) : Option (List Char) :=
  (charset.read bs).mapM id

/-- The characters of any bytes, with a replacement character for each malformed piece. -/
def decodeLossy (charset : Charset) (bs : List UInt8) : List Char :=
  (charset.read bs).map (·.getD Utf8.replacement)

/-! ## Surrogates

Half a surrogate pair is no character, but some readers let it pass. -/

/-- Whether units of four bytes are complete, and none is above the last code point. -/
def admits32 (bigFirst : Bool) : List UInt8 → Bool
  | a :: b :: c :: d :: rest =>
    (if bigFirst then a == 0 && b ≤ 0x10 else d == 0 && c ≤ 0x10) && admits32 bigFirst rest
  | rest => rest.isEmpty

/-- Whether bytes are well formed if surrogates may stand alone. -/
def admits : Charset → List UInt8 → Bool
  | .utf8 marked, bs => ((Charset.utf8 marked).decode? (Utf8.replaceSurrogates bs)).isSome
  | .utf16 _, bs => bs.length % 2 == 0
  | .utf32 (some bigFirst), bs => admits32 bigFirst bs
  | .utf32 none, bs => admits32 (bs.take 4 == [0, 0, 0xfe, 0xff]) bs
  | .single upper, bs => ((Charset.single upper).decode? bs).isSome

end Charset

end ReleaseSearch.Text
