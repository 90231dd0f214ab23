import MarkupCatalog.Charset.Table

/-!
# Code pages

A code page gives each byte one character, or none.  Most of them agree with ASCII in the
lower half; these are given by the characters of the upper half.
-/

namespace MarkupCatalog.Charset

/-- A code page: its name and its characters, from the first byte on or, if there are only
128 of them, from byte 0x80 on.  The noncharacter U+FFFE stands where a byte has none. -/
structure CodePage where
  name : String
  characters : String
  deriving DecidableEq, Repr

namespace CodePage

/-- The code page `cp037`. -/
def cp037 : CodePage where
  name := "cp037"
  characters :=
    "\x00\x01\x02\x03\x9C\x09\x86\x7F\x97\x8D\x8E\x0B\x0C\x0D\x0E\x0F\x10\x11\x12\x13\x9D\x85" ++
    "\x08\x87\x18\x19\x92\x8F\x1C\x1D\x1E\x1F\x80\x81\x82\x83\x84\x0A\x17\x1B\x88\x89\x8A\x8B" ++
    "\x8C\x05\x06\x07\x90\x91\x16\x93\x94\x95\x96\x04\x98\x99\x9A\x9B\x14\x15\x9E\x1A \xA0âäà" ++
    "áãåçñ¢.<(+|&éêëèíîïìß!$*);¬-/ÂÄÀÁÃÅÇÑ¦,%_>?øÉÊËÈÍÎÏÌ`:#@'=\"Øabcdefghi«»ðýþ±°jklmnopqrªº" ++
    "æ¸Æ¤µ~stuvwxyz¡¿ÐÝÞ®^£¥·©§¶¼½¾[]¯¨´×\x7bABCDEFGHI\xADôöòóõ\x7dJKLMNOPQR¹ûüùúÿ\\÷STUVWXYZ" ++
    "²ÔÖÒÓÕ0123456789³ÛÜÙÚ\x9F"

/-- The code page `cp1006`. -/
def cp1006 : CodePage where
  name := "cp1006"
  characters :=
    "\x80\x81\x82\x83\x84\x85\x86\x87\x88\x89\x8A\x8B\x8C\x8D\x8E\x8F\x90\x91\x92\x93\x94\x95" ++
    "\x96\x97\x98\x99\x9A\x9B\x9C\x9D\x9E\x9F\xA0۰۱۲۳۴۵۶۷۸۹،\u061B\xAD\u061F\uFE81\uFE8D" ++
    "\uFE8E\uFE8E\uFE8F\uFE91\uFB56\uFB58\uFE93\uFE95\uFE97\uFB66\uFB68\uFE99\uFE9B\uFE9D" ++
    "\uFE9F\uFB7A\uFB7C\uFEA1\uFEA3\uFEA5\uFEA7\uFEA9\uFB84\uFEAB\uFEAD\uFB8C\uFEAF\uFB8A" ++
    "\uFEB1\uFEB3\uFEB5\uFEB7\uFEB9\uFEBB\uFEBD\uFEBF\uFEC1\uFEC5\uFEC9\uFECA\uFECB\uFECC" ++
    "\uFECD\uFECE\uFECF\uFED0\uFED1\uFED3\uFED5\uFED7\uFED9\uFEDB\uFB92\uFB94\uFEDD\uFEDF" ++
    "\uFEE0\uFEE1\uFEE3\uFB9E\uFEE5\uFEE7\uFE85\uFEED\uFBA6\uFBA8\uFBA9\uFBAA\uFE80\uFE89" ++
    "\uFE8A\uFE8B\uFEF1\uFEF2\uFEF3\uFBB0\uFBAE\uFE7C\uFE7D"

/-- The code page `cp1026`. -/
def cp1026 : CodePage where
  name := "cp1026"
  characters :=
    "\x00\x01\x02\x03\x9C\x09\x86\x7F\x97\x8D\x8E\x0B\x0C\x0D\x0E\x0F\x10\x11\x12\x13\x9D\x85" ++
    "\x08\x87\x18\x19\x92\x8F\x1C\x1D\x1E\x1F\x80\x81\x82\x83\x84\x0A\x17\x1B\x88\x89\x8A\x8B" ++
    "\x8C\x05\x06\x07\x90\x91\x16\x93\x94\x95\x96\x04\x98\x99\x9A\x9B\x14\x15\x9E\x1A \xA0âäà" ++
    "áãå\x7bñÇ.<(+!&éêëèíîïìßĞİ*);^-/ÂÄÀÁÃÅ[Ñş,%_>?øÉÊËÈÍÎÏÌı:ÖŞ'=ÜØabcdefghi«»\x7d`¦±°jklmno" ++
    "pqrªºæ¸Æ¤µöstuvwxyz¡¿]$@®¢£¥·©§¶¼½¾¬|¯¨´×çABCDEFGHI\xADô~òóõğJKLMNOPQR¹û\\ùúÿü÷STUVWXYZ²" ++
    "Ô#ÒÓÕ0123456789³Û\"ÙÚ\x9F"

/-- The code page `cp1125`. -/
def cp1125 : CodePage where
  name := "cp1125"
  characters :=
    "АБВГДЕЖЗИЙКЛМНОПРСТУФХЦЧШЩЪЫЬЭЮЯабвгдежзийклмноп░▒▓│┤╡╢╖╕╣║╗╝╜╛┐└┴┬├─┼╞╟╚╔╩╦╠═╬╧╨╤╥╙╘╒╓╫" ++
    "╪┘┌█▄▌▐▀рстуфхцчшщъыьэюяЁёҐґЄєІіЇї·√№¤■\xA0"

/-- The code page `cp1140`. -/
def cp1140 : CodePage where
  name := "cp1140"
  characters :=
    "\x00\x01\x02\x03\x9C\x09\x86\x7F\x97\x8D\x8E\x0B\x0C\x0D\x0E\x0F\x10\x11\x12\x13\x9D\x85" ++
    "\x08\x87\x18\x19\x92\x8F\x1C\x1D\x1E\x1F\x80\x81\x82\x83\x84\x0A\x17\x1B\x88\x89\x8A\x8B" ++
    "\x8C\x05\x06\x07\x90\x91\x16\x93\x94\x95\x96\x04\x98\x99\x9A\x9B\x14\x15\x9E\x1A \xA0âäà" ++
    "áãåçñ¢.<(+|&éêëèíîïìß!$*);¬-/ÂÄÀÁÃÅÇÑ¦,%_>?øÉÊËÈÍÎÏÌ`:#@'=\"Øabcdefghi«»ðýþ±°jklmnopqrªº" ++
    "æ¸Æ€µ~stuvwxyz¡¿ÐÝÞ®^£¥·©§¶¼½¾[]¯¨´×\x7bABCDEFGHI\xADôöòóõ\x7dJKLMNOPQR¹ûüùúÿ\\÷STUVWXYZ" ++
    "²ÔÖÒÓÕ0123456789³ÛÜÙÚ\x9F"

/-- The code page `cp1250`. -/
def cp1250 : CodePage where
  name := "cp1250"
  characters :=
    "€\uFFFE‚\uFFFE„…†‡\uFFFE‰Š‹ŚŤŽŹ\uFFFE‘’“”•–—\uFFFE™š›śťžź\xA0\u02C7˘Ł¤Ą¦§¨©Ş«¬\xAD®Ż°±˛ł" ++
    "´µ¶·¸ąş»Ľ˝ľżŔÁÂĂÄĹĆÇČÉĘËĚÍÎĎĐŃŇÓÔŐÖ×ŘŮÚŰÜÝŢßŕáâăäĺćçčéęëěíîďđńňóôőö÷řůúűüýţ˙"

/-- The code page `cp1251`. -/
def cp1251 : CodePage where
  name := "cp1251"
  characters :=
    "ЂЃ‚ѓ„…†‡€‰Љ‹ЊЌЋЏђ‘’“”•–—\uFFFE™љ›њќћџ\xA0ЎўЈ¤Ґ¦§Ё©Є«¬\xAD®Ї°±Ііґµ¶·ё№є»јЅѕїАБВГДЕЖЗИЙКЛМ" ++
    "НОПРСТУФХЦЧШЩЪЫЬЭЮЯабвгдежзийклмнопрстуфхцчшщъыьэюя"

/-- The code page `cp1252`. -/
def cp1252 : CodePage where
  name := "cp1252"
  characters :=
    "€\uFFFE‚ƒ„…†‡\u02C6‰Š‹Œ\uFFFEŽ\uFFFE\uFFFE‘’“”•–—˜™š›œ\uFFFEžŸ\xA0¡¢£¤¥¦§¨©ª«¬\xAD®¯°±²³" ++
    "´µ¶·¸¹º»¼½¾¿ÀÁÂÃÄÅÆÇÈÉÊËÌÍÎÏÐÑÒÓÔÕÖ×ØÙÚÛÜÝÞßàáâãäåæçèéêëìíîïðñòóôõö÷øùúûüýþÿ"

/-- The code page `cp1253`. -/
def cp1253 : CodePage where
  name := "cp1253"
  characters :=
    "€\uFFFE‚ƒ„…†‡\uFFFE‰\uFFFE‹\uFFFE\uFFFE\uFFFE\uFFFE\uFFFE‘’“”•–—\uFFFE™\uFFFE›\uFFFE" ++
    "\uFFFE\uFFFE\uFFFE\xA0΅Ά£¤¥¦§¨©\uFFFE«¬\xAD®―°±²³΄µ¶·ΈΉΊ»Ό½ΎΏΐΑΒΓΔΕΖΗΘΙΚΛΜΝΞΟΠΡ\uFFFEΣΤΥ" ++
    "ΦΧΨΩΪΫάέήίΰαβγδεζηθικλμνξοπρςστυφχψωϊϋόύώ\uFFFE"

/-- The code page `cp1254`. -/
def cp1254 : CodePage where
  name := "cp1254"
  characters :=
    "€\uFFFE‚ƒ„…†‡\u02C6‰Š‹Œ\uFFFE\uFFFE\uFFFE\uFFFE‘’“”•–—˜™š›œ\uFFFE\uFFFEŸ\xA0¡¢£¤¥¦§¨©ª«¬" ++
    "\xAD®¯°±²³´µ¶·¸¹º»¼½¾¿ÀÁÂÃÄÅÆÇÈÉÊËÌÍÎÏĞÑÒÓÔÕÖ×ØÙÚÛÜİŞßàáâãäåæçèéêëìíîïğñòóôõö÷øùúûüışÿ"

/-- The code page `cp1255`. -/
def cp1255 : CodePage where
  name := "cp1255"
  characters :=
    "€\uFFFE‚ƒ„…†‡\u02C6‰\uFFFE‹\uFFFE\uFFFE\uFFFE\uFFFE\uFFFE‘’“”•–—˜™\uFFFE›\uFFFE\uFFFE" ++
    "\uFFFE\uFFFE\xA0¡¢£₪¥¦§¨©×«¬\xAD®¯°±²³´µ¶·¸¹÷»¼½¾¿\u05B0\u05B1\u05B2\u05B3\u05B4\u05B5" ++
    "\u05B6\u05B7\u05B8\u05B9\uFFFE\u05BB\u05BC\u05BD\u05BE\u05BF\u05C0\u05C1\u05C2\u05C3" ++
    "\u05F0\u05F1\u05F2\u05F3\u05F4\uFFFE\uFFFE\uFFFE\uFFFE\uFFFE\uFFFE\uFFFE\u05D0\u05D1" ++
    "\u05D2\u05D3\u05D4\u05D5\u05D6\u05D7\u05D8\u05D9\u05DA\u05DB\u05DC\u05DD\u05DE\u05DF" ++
    "\u05E0\u05E1\u05E2\u05E3\u05E4\u05E5\u05E6\u05E7\u05E8\u05E9\u05EA\uFFFE\uFFFE\u200E" ++
    "\u200F\uFFFE"

/-- The code page `cp1256`. -/
def cp1256 : CodePage where
  name := "cp1256"
  characters :=
    "€\u067E‚ƒ„…†‡\u02C6‰\u0679‹Œ\u0686\u0698\u0688\u06AF‘’“”•–—\u06A9™\u0691›œ\u200C\u200D" ++
    "\u06BA\xA0،¢£¤¥¦§¨©\u06BE«¬\xAD®¯°±²³´µ¶·¸¹\u061B»¼½¾\u061F\u06C1\u0621\u0622\u0623" ++
    "\u0624\u0625\u0626\u0627\u0628\u0629\u062A\u062B\u062C\u062D\u062E\u062F\u0630\u0631" ++
    "\u0632\u0633\u0634\u0635\u0636×\u0637\u0638\u0639\u063A\u0640\u0641\u0642\u0643à\u0644â" ++
    "\u0645\u0646\u0647\u0648çèéêë\u0649\u064Aîï\u064B\u064C\u064D\u064Eô\u064F\u0650÷\u0651ù" ++
    "\u0652ûü\u200E\u200F\u06D2"

/-- The code page `cp1257`. -/
def cp1257 : CodePage where
  name := "cp1257"
  characters :=
    "€\uFFFE‚\uFFFE„…†‡\uFFFE‰\uFFFE‹\uFFFE¨\u02C7¸\uFFFE‘’“”•–—\uFFFE™\uFFFE›\uFFFE¯˛\uFFFE" ++
    "\xA0\uFFFE¢£¤\uFFFE¦§Ø©Ŗ«¬\xAD®Æ°±²³´µ¶·ø¹ŗ»¼½¾æĄĮĀĆÄÅĘĒČÉŹĖĢĶĪĻŠŃŅÓŌÕÖ×ŲŁŚŪÜŻŽßąįāćäåęē" ++
    "čéźėģķīļšńņóōõö÷ųłśūüżž˙"

/-- The code page `cp1258`. -/
def cp1258 : CodePage where
  name := "cp1258"
  characters :=
    "€\uFFFE‚ƒ„…†‡\u02C6‰\uFFFE‹Œ\uFFFE\uFFFE\uFFFE\uFFFE‘’“”•–—˜™\uFFFE›œ\uFFFE\uFFFEŸ\xA0¡¢" ++
    "£¤¥¦§¨©ª«¬\xAD®¯°±²³´µ¶·¸¹º»¼½¾¿ÀÁÂĂÄÅÆÇÈÉÊË\u0300ÍÎÏĐÑ\u0309ÓÔƠÖ×ØÙÚÛÜƯ\u0303ßàáâăäåæçè" ++
    "éêë\u0301íîïđñ\u0323óôơö÷øùúûüư₫ÿ"

/-- The code page `cp273`. -/
def cp273 : CodePage where
  name := "cp273"
  characters :=
    "\x00\x01\x02\x03\x9C\x09\x86\x7F\x97\x8D\x8E\x0B\x0C\x0D\x0E\x0F\x10\x11\x12\x13\x9D\x85" ++
    "\x08\x87\x18\x19\x92\x8F\x1C\x1D\x1E\x1F\x80\x81\x82\x83\x84\x0A\x17\x1B\x88\x89\x8A\x8B" ++
    "\x8C\x05\x06\x07\x90\x91\x16\x93\x94\x95\x96\x04\x98\x99\x9A\x9B\x14\x15\x9E\x1A \xA0â" ++
    "\x7bàáãåçñÄ.<(+!&éêëèíîïì~Ü$*);^-/Â[ÀÁÃÅÇÑö,%_>?øÉÊËÈÍÎÏÌ`:#§'=\"Øabcdefghi«»ðýþ±°jklmno" ++
    "pqrªºæ¸Æ¤µßstuvwxyz¡¿ÐÝÞ®¢£¥·©@¶¼½¾¬|‾¨´×äABCDEFGHI\xADô¦òóõüJKLMNOPQR¹û\x7dùúÿÖ÷STUVWXY" ++
    "Z²Ô\\ÒÓÕ0123456789³Û]ÙÚ\x9F"

/-- The code page `cp424`. -/
def cp424 : CodePage where
  name := "cp424"
  characters :=
    "\x00\x01\x02\x03\x9C\x09\x86\x7F\x97\x8D\x8E\x0B\x0C\x0D\x0E\x0F\x10\x11\x12\x13\x9D\x85" ++
    "\x08\x87\x18\x19\x92\x8F\x1C\x1D\x1E\x1F\x80\x81\x82\x83\x84\x0A\x17\x1B\x88\x89\x8A\x8B" ++
    "\x8C\x05\x06\x07\x90\x91\x16\x93\x94\x95\x96\x04\x98\x99\x9A\x9B\x14\x15\x9E\x1A \u05D0" ++
    "\u05D1\u05D2\u05D3\u05D4\u05D5\u05D6\u05D7\u05D8¢.<(+|&\u05D9\u05DA\u05DB\u05DC\u05DD" ++
    "\u05DE\u05DF\u05E0\u05E1!$*);¬-/\u05E2\u05E3\u05E4\u05E5\u05E6\u05E7\u05E8\u05E9¦,%_>?" ++
    "\uFFFE\u05EA\uFFFE\uFFFE\xA0\uFFFE\uFFFE\uFFFE‗`:#@'=\"\uFFFEabcdefghi«»\uFFFE\uFFFE" ++
    "\uFFFE±°jklmnopqr\uFFFE\uFFFE\uFFFE¸\uFFFE¤µ~stuvwxyz\uFFFE\uFFFE\uFFFE\uFFFE\uFFFE®^£¥·" ++
    "©§¶¼½¾[]¯¨´×\x7bABCDEFGHI\xAD\uFFFE\uFFFE\uFFFE\uFFFE\uFFFE\x7dJKLMNOPQR¹\uFFFE\uFFFE" ++
    "\uFFFE\uFFFE\uFFFE\\÷STUVWXYZ²\uFFFE\uFFFE\uFFFE\uFFFE\uFFFE0123456789³\uFFFE\uFFFE" ++
    "\uFFFE\uFFFE\x9F"

/-- The code page `cp437`. -/
def cp437 : CodePage where
  name := "cp437"
  characters :=
    "ÇüéâäàåçêëèïîìÄÅÉæÆôöòûùÿÖÜ¢£¥₧ƒáíóúñÑªº¿⌐¬½¼¡«»░▒▓│┤╡╢╖╕╣║╗╝╜╛┐└┴┬├─┼╞╟╚╔╩╦╠═╬╧╨╤╥╙╘╒╓╫" ++
    "╪┘┌█▄▌▐▀αßΓπΣσµτΦΘΩδ∞φε∩≡±≥≤⌠⌡÷≈°∙·√\u207F²■\xA0"

/-- The code page `cp500`. -/
def cp500 : CodePage where
  name := "cp500"
  characters :=
    "\x00\x01\x02\x03\x9C\x09\x86\x7F\x97\x8D\x8E\x0B\x0C\x0D\x0E\x0F\x10\x11\x12\x13\x9D\x85" ++
    "\x08\x87\x18\x19\x92\x8F\x1C\x1D\x1E\x1F\x80\x81\x82\x83\x84\x0A\x17\x1B\x88\x89\x8A\x8B" ++
    "\x8C\x05\x06\x07\x90\x91\x16\x93\x94\x95\x96\x04\x98\x99\x9A\x9B\x14\x15\x9E\x1A \xA0âäà" ++
    "áãåçñ[.<(+!&éêëèíîïìß]$*);^-/ÂÄÀÁÃÅÇÑ¦,%_>?øÉÊËÈÍÎÏÌ`:#@'=\"Øabcdefghi«»ðýþ±°jklmnopqrªº" ++
    "æ¸Æ¤µ~stuvwxyz¡¿ÐÝÞ®¢£¥·©§¶¼½¾¬|¯¨´×\x7bABCDEFGHI\xADôöòóõ\x7dJKLMNOPQR¹ûüùúÿ\\÷STUVWXYZ" ++
    "²ÔÖÒÓÕ0123456789³ÛÜÙÚ\x9F"

/-- The code page `cp720`. -/
def cp720 : CodePage where
  name := "cp720"
  characters :=
    "\x80\x81éâ\x84à\x86çêëèïî\x8D\x8E\x8F\x90\u0651\u0652ô¤\u0640ûù\u0621\u0622\u0623\u0624£" ++
    "\u0625\u0626\u0627\u0628\u0629\u062A\u062B\u062C\u062D\u062E\u062F\u0630\u0631\u0632" ++
    "\u0633\u0634\u0635«»░▒▓│┤╡╢╖╕╣║╗╝╜╛┐└┴┬├─┼╞╟╚╔╩╦╠═╬╧╨╤╥╙╘╒╓╫╪┘┌█▄▌▐▀\u0636\u0637\u0638" ++
    "\u0639\u063A\u0641µ\u0642\u0643\u0644\u0645\u0646\u0647\u0648\u0649\u064A≡\u064B\u064C" ++
    "\u064D\u064E\u064F\u0650≈°∙·√\u207F²■\xA0"

/-- The code page `cp737`. -/
def cp737 : CodePage where
  name := "cp737"
  characters :=
    "ΑΒΓΔΕΖΗΘΙΚΛΜΝΞΟΠΡΣΤΥΦΧΨΩαβγδεζηθικλμνξοπρσςτυφχψ░▒▓│┤╡╢╖╕╣║╗╝╜╛┐└┴┬├─┼╞╟╚╔╩╦╠═╬╧╨╤╥╙╘╒╓╫" ++
    "╪┘┌█▄▌▐▀ωάέήϊίόύϋώΆΈΉΊΌΎΏ±≥≤ΪΫ÷≈°∙·√\u207F²■\xA0"

/-- The code page `cp775`. -/
def cp775 : CodePage where
  name := "cp775"
  characters :=
    "ĆüéāäģåćłēŖŗīŹÄÅÉæÆōöĢ¢ŚśÖÜø£Ø×¤ĀĪóŻżź”¦©®¬½¼Ł«»░▒▓│┤ĄČĘĖ╣║╗╝ĮŠ┐└┴┬├─┼ŲŪ╚╔╩╦╠═╬Žąčęėįšųū" ++
    "ž┘┌█▄▌▐▀ÓßŌŃõÕµńĶķĻļņĒŅ’\xAD±“¾¶§÷„°∙·¹³²■\xA0"

/-- The code page `cp850`. -/
def cp850 : CodePage where
  name := "cp850"
  characters :=
    "ÇüéâäàåçêëèïîìÄÅÉæÆôöòûùÿÖÜø£Ø×ƒáíóúñÑªº¿®¬½¼¡«»░▒▓│┤ÁÂÀ©╣║╗╝¢¥┐└┴┬├─┼ãÃ╚╔╩╦╠═╬¤ðÐÊËÈıÍÎ" ++
    "Ï┘┌█▄¦Ì▀ÓßÔÒõÕµþÞÚÛÙýÝ¯´\xAD±‗¾¶§÷¸°¨·¹³²■\xA0"

/-- The code page `cp852`. -/
def cp852 : CodePage where
  name := "cp852"
  characters :=
    "ÇüéâäůćçłëŐőîŹÄĆÉĹĺôöĽľŚśÖÜŤťŁ×čáíóúĄąŽžĘę¬źČş«»░▒▓│┤ÁÂĚŞ╣║╗╝Żż┐└┴┬├─┼Ăă╚╔╩╦╠═╬¤đĐĎËďŇÍÎ" ++
    "ě┘┌█▄ŢŮ▀ÓßÔŃńňŠšŔÚŕŰýÝţ´\xAD˝˛\u02C7˘§÷¸°¨˙űŘř■\xA0"

/-- The code page `cp855`. -/
def cp855 : CodePage where
  name := "cp855"
  characters :=
    "ђЂѓЃёЁєЄѕЅіІїЇјЈљЉњЊћЋќЌўЎџЏюЮъЪаАбБцЦдДеЕфФгГ«»░▒▓│┤хХиИ╣║╗╝йЙ┐└┴┬├─┼кК╚╔╩╦╠═╬¤лЛмМнНоО" ++
    "п┘┌█▄Пя▀ЯрРсСтТуУжЖвВьЬ№\xADыЫзЗшШэЭщЩчЧ§■\xA0"

/-- The code page `cp856`. -/
def cp856 : CodePage where
  name := "cp856"
  characters :=
    "\u05D0\u05D1\u05D2\u05D3\u05D4\u05D5\u05D6\u05D7\u05D8\u05D9\u05DA\u05DB\u05DC\u05DD" ++
    "\u05DE\u05DF\u05E0\u05E1\u05E2\u05E3\u05E4\u05E5\u05E6\u05E7\u05E8\u05E9\u05EA\uFFFE£" ++
    "\uFFFE×\uFFFE\uFFFE\uFFFE\uFFFE\uFFFE\uFFFE\uFFFE\uFFFE\uFFFE\uFFFE®¬½¼\uFFFE«»░▒▓│┤" ++
    "\uFFFE\uFFFE\uFFFE©╣║╗╝¢¥┐└┴┬├─┼\uFFFE\uFFFE╚╔╩╦╠═╬¤\uFFFE\uFFFE\uFFFE\uFFFE\uFFFE\uFFFE" ++
    "\uFFFE\uFFFE\uFFFE┘┌█▄¦\uFFFE▀\uFFFE\uFFFE\uFFFE\uFFFE\uFFFE\uFFFEµ\uFFFE\uFFFE\uFFFE" ++
    "\uFFFE\uFFFE\uFFFE\uFFFE¯´\xAD±‗¾¶§÷¸°¨·¹³²■\xA0"

/-- The code page `cp857`. -/
def cp857 : CodePage where
  name := "cp857"
  characters :=
    "ÇüéâäàåçêëèïîıÄÅÉæÆôöòûùİÖÜø£ØŞşáíóúñÑĞğ¿®¬½¼¡«»░▒▓│┤ÁÂÀ©╣║╗╝¢¥┐└┴┬├─┼ãÃ╚╔╩╦╠═╬¤ºªÊËÈ" ++
    "\uFFFEÍÎÏ┘┌█▄¦Ì▀ÓßÔÒõÕµ\uFFFE×ÚÛÙìÿ¯´\xAD±\uFFFE¾¶§÷¸°¨·¹³²■\xA0"

/-- The code page `cp858`. -/
def cp858 : CodePage where
  name := "cp858"
  characters :=
    "ÇüéâäàåçêëèïîìÄÅÉæÆôöòûùÿÖÜø£Ø×ƒáíóúñÑªº¿®¬½¼¡«»░▒▓│┤ÁÂÀ©╣║╗╝¢¥┐└┴┬├─┼ãÃ╚╔╩╦╠═╬¤ðÐÊËÈ€ÍÎ" ++
    "Ï┘┌█▄¦Ì▀ÓßÔÒõÕµþÞÚÛÙýÝ¯´\xAD±‗¾¶§÷¸°¨·¹³²■\xA0"

/-- The code page `cp860`. -/
def cp860 : CodePage where
  name := "cp860"
  characters :=
    "ÇüéâãàÁçêÊèÍÔìÃÂÉÀÈôõòÚùÌÕÜ¢£Ù₧ÓáíóúñÑªº¿Ò¬½¼¡«»░▒▓│┤╡╢╖╕╣║╗╝╜╛┐└┴┬├─┼╞╟╚╔╩╦╠═╬╧╨╤╥╙╘╒╓╫" ++
    "╪┘┌█▄▌▐▀αßΓπΣσµτΦΘΩδ∞φε∩≡±≥≤⌠⌡÷≈°∙·√\u207F²■\xA0"

/-- The code page `cp861`. -/
def cp861 : CodePage where
  name := "cp861"
  characters :=
    "ÇüéâäàåçêëèÐðÞÄÅÉæÆôöþûÝýÖÜø£Ø₧ƒáíóúÁÍÓÚ¿⌐¬½¼¡«»░▒▓│┤╡╢╖╕╣║╗╝╜╛┐└┴┬├─┼╞╟╚╔╩╦╠═╬╧╨╤╥╙╘╒╓╫" ++
    "╪┘┌█▄▌▐▀αßΓπΣσµτΦΘΩδ∞φε∩≡±≥≤⌠⌡÷≈°∙·√\u207F²■\xA0"

/-- The code page `cp862`. -/
def cp862 : CodePage where
  name := "cp862"
  characters :=
    "\u05D0\u05D1\u05D2\u05D3\u05D4\u05D5\u05D6\u05D7\u05D8\u05D9\u05DA\u05DB\u05DC\u05DD" ++
    "\u05DE\u05DF\u05E0\u05E1\u05E2\u05E3\u05E4\u05E5\u05E6\u05E7\u05E8\u05E9\u05EA¢£¥₧ƒáíóúñ" ++
    "Ñªº¿⌐¬½¼¡«»░▒▓│┤╡╢╖╕╣║╗╝╜╛┐└┴┬├─┼╞╟╚╔╩╦╠═╬╧╨╤╥╙╘╒╓╫╪┘┌█▄▌▐▀αßΓπΣσµτΦΘΩδ∞φε∩≡±≥≤⌠⌡÷≈°∙·√" ++
    "\u207F²■\xA0"

/-- The code page `cp863`. -/
def cp863 : CodePage where
  name := "cp863"
  characters :=
    "ÇüéâÂà¶çêëèïî‗À§ÉÈÊôËÏûù¤ÔÜ¢£ÙÛƒ¦´óú¨¸³¯Î⌐¬½¼¾«»░▒▓│┤╡╢╖╕╣║╗╝╜╛┐└┴┬├─┼╞╟╚╔╩╦╠═╬╧╨╤╥╙╘╒╓╫" ++
    "╪┘┌█▄▌▐▀αßΓπΣσµτΦΘΩδ∞φε∩≡±≥≤⌠⌡÷≈°∙·√\u207F²■\xA0"

/-- The code page `cp864`. -/
def cp864 : CodePage where
  name := "cp864"
  characters :=
    "\x00\x01\x02\x03\x04\x05\x06\x07\x08\x09\x0A\x0B\x0C\x0D\x0E\x0F\x10\x11\x12\x13\x14\x15" ++
    "\x16\x17\x18\x19\x1A\x1B\x1C\x1D\x1E\x1F !\"#$٪&'()*+,-./0123456789:;<=>?@ABCDEFGHIJKLMN" ++
    "OPQRSTUVWXYZ[\\]^_`abcdefghijklmnopqrstuvwxyz\x7b|\x7d~\x7F°·∙√▒─│┼┤┬├┴┐┌└┘β∞φ±½¼≈«»" ++
    "\uFEF7\uFEF8\uFFFE\uFFFE\uFEFB\uFEFC\uFFFE\xA0\xAD\uFE82£¤\uFE84\uFFFE\uFFFE\uFE8E\uFE8F" ++
    "\uFE95\uFE99،\uFE9D\uFEA1\uFEA5\u0660\u0661\u0662\u0663\u0664\u0665\u0666\u0667\u0668" ++
    "\u0669\uFED1\u061B\uFEB1\uFEB5\uFEB9\u061F¢\uFE80\uFE81\uFE83\uFE85\uFECA\uFE8B\uFE8D" ++
    "\uFE91\uFE93\uFE97\uFE9B\uFE9F\uFEA3\uFEA7\uFEA9\uFEAB\uFEAD\uFEAF\uFEB3\uFEB7\uFEBB" ++
    "\uFEBF\uFEC1\uFEC5\uFECB\uFECF¦¬÷×\uFEC9\u0640\uFED3\uFED7\uFEDB\uFEDF\uFEE3\uFEE7\uFEEB" ++
    "\uFEED\uFEEF\uFEF3\uFEBD\uFECC\uFECE\uFECD\uFEE1\uFE7D\u0651\uFEE5\uFEE9\uFEEC\uFEF0" ++
    "\uFEF2\uFED0\uFED5\uFEF5\uFEF6\uFEDD\uFED9\uFEF1■\uFFFE"

/-- The code page `cp865`. -/
def cp865 : CodePage where
  name := "cp865"
  characters :=
    "ÇüéâäàåçêëèïîìÄÅÉæÆôöòûùÿÖÜø£Ø₧ƒáíóúñÑªº¿⌐¬½¼¡«¤░▒▓│┤╡╢╖╕╣║╗╝╜╛┐└┴┬├─┼╞╟╚╔╩╦╠═╬╧╨╤╥╙╘╒╓╫" ++
    "╪┘┌█▄▌▐▀αßΓπΣσµτΦΘΩδ∞φε∩≡±≥≤⌠⌡÷≈°∙·√\u207F²■\xA0"

/-- The code page `cp866`. -/
def cp866 : CodePage where
  name := "cp866"
  characters :=
    "АБВГДЕЖЗИЙКЛМНОПРСТУФХЦЧШЩЪЫЬЭЮЯабвгдежзийклмноп░▒▓│┤╡╢╖╕╣║╗╝╜╛┐└┴┬├─┼╞╟╚╔╩╦╠═╬╧╨╤╥╙╘╒╓╫" ++
    "╪┘┌█▄▌▐▀рстуфхцчшщъыьэюяЁёЄєЇїЎў°∙·√№¤■\xA0"

/-- The code page `cp869`. -/
def cp869 : CodePage where
  name := "cp869"
  characters :=
    "\uFFFE\uFFFE\uFFFE\uFFFE\uFFFE\uFFFEΆ\uFFFE·¬¦‘’Έ―ΉΊΪΌ\uFFFE\uFFFEΎΫ©Ώ²³ά£έήίϊΐόύΑΒΓΔΕΖΗ" ++
    "½ΘΙ«»░▒▓│┤ΚΛΜΝ╣║╗╝ΞΟ┐└┴┬├─┼ΠΡ╚╔╩╦╠═╬ΣΤΥΦΧΨΩαβγ┘┌█▄δε▀ζηθικλμνξοπρσςτ΄\xAD±υφχ§ψ΅°¨ωϋΰώ■" ++
    "\xA0"

/-- The code page `cp874`. -/
def cp874 : CodePage where
  name := "cp874"
  characters :=
    "€\uFFFE\uFFFE\uFFFE\uFFFE…\uFFFE\uFFFE\uFFFE\uFFFE\uFFFE\uFFFE\uFFFE\uFFFE\uFFFE\uFFFE" ++
    "\uFFFE‘’“”•–—\uFFFE\uFFFE\uFFFE\uFFFE\uFFFE\uFFFE\uFFFE\uFFFE\xA0กขฃคฅฆงจฉชซฌญฎฏฐฑฒณดตถท" ++
    "ธนบปผฝพฟภมยรฤลฦวศษสหฬอฮฯะ\u0E31าำ\u0E34\u0E35\u0E36\u0E37\u0E38\u0E39\u0E3A\uFFFE\uFFFE" ++
    "\uFFFE\uFFFE฿เแโใไๅ\u0E46\u0E47\u0E48\u0E49\u0E4A\u0E4B\u0E4C\u0E4D\u0E4E๏๐๑๒๓๔๕๖๗๘๙๚๛" ++
    "\uFFFE\uFFFE\uFFFE\uFFFE"

/-- The code page `cp875`. -/
def cp875 : CodePage where
  name := "cp875"
  characters :=
    "\x00\x01\x02\x03\x9C\x09\x86\x7F\x97\x8D\x8E\x0B\x0C\x0D\x0E\x0F\x10\x11\x12\x13\x9D\x85" ++
    "\x08\x87\x18\x19\x92\x8F\x1C\x1D\x1E\x1F\x80\x81\x82\x83\x84\x0A\x17\x1B\x88\x89\x8A\x8B" ++
    "\x8C\x05\x06\x07\x90\x91\x16\x93\x94\x95\x96\x04\x98\x99\x9A\x9B\x14\x15\x9E\x1A ΑΒΓΔΕΖΗ" ++
    "ΘΙ[.<(+!&ΚΛΜΝΞΟΠΡΣ]$*);^-/ΤΥΦΧΨΩΪΫ|,%_>?¨ΆΈΉ\xA0ΊΌΎΏ`:#@'=\"΅abcdefghiαβγδεζ°jklmnopqrηθ" ++
    "ικλμ´~stuvwxyzνξοπρσ£άέήϊίόύϋώςτυφχψ\x7bABCDEFGHI\xADωΐΰ‘―\x7dJKLMNOPQR±½\x1A·’¦\\\x1AST" ++
    "UVWXYZ²§\x1A\x1A«¬0123456789³©\x1A\x1A»\x9F"

/-- The code page `hp_roman8`. -/
def hpRoman8 : CodePage where
  name := "hp_roman8"
  characters :=
    "\x80\x81\x82\x83\x84\x85\x86\x87\x88\x89\x8A\x8B\x8C\x8D\x8E\x8F\x90\x91\x92\x93\x94\x95" ++
    "\x96\x97\x98\x99\x9A\x9B\x9C\x9D\x9E\x9F\xA0ÀÂÈÊËÎÏ´\u02CB\u02C6¨˜ÙÛ₤¯Ýý°ÇçÑñ¡¿¤£¥§ƒ¢âêô" ++
    "ûáéóúàèòùäëöüÅîØÆåíøæÄìÖÜÉïßÔÁÃãÐðÍÌÓÒÕõŠšÚŸÿÞþ·µ¶¾—¼½ªº«■»±\uFFFE"

/-- The code page `iso8859_10`. -/
def iso885910 : CodePage where
  name := "iso8859_10"
  characters :=
    "\x80\x81\x82\x83\x84\x85\x86\x87\x88\x89\x8A\x8B\x8C\x8D\x8E\x8F\x90\x91\x92\x93\x94\x95" ++
    "\x96\x97\x98\x99\x9A\x9B\x9C\x9D\x9E\x9F\xA0ĄĒĢĪĨĶ§ĻĐŠŦŽ\xADŪŊ°ąēģīĩķ·ļđšŧž―ūŋĀÁÂÃÄÅÆĮČÉ" ++
    "ĘËĖÍÎÏÐŅŌÓÔÕÖŨØŲÚÛÜÝÞßāáâãäåæįčéęëėíîïðņōóôõöũøųúûüýþĸ"

/-- The code page `iso8859_11`. -/
def iso885911 : CodePage where
  name := "iso8859_11"
  characters :=
    "\x80\x81\x82\x83\x84\x85\x86\x87\x88\x89\x8A\x8B\x8C\x8D\x8E\x8F\x90\x91\x92\x93\x94\x95" ++
    "\x96\x97\x98\x99\x9A\x9B\x9C\x9D\x9E\x9F\xA0กขฃคฅฆงจฉชซฌญฎฏฐฑฒณดตถทธนบปผฝพฟภมยรฤลฦวศษสหฬ" ++
    "อฮฯะ\u0E31าำ\u0E34\u0E35\u0E36\u0E37\u0E38\u0E39\u0E3A\uFFFE\uFFFE\uFFFE\uFFFE฿เแโใไๅ" ++
    "\u0E46\u0E47\u0E48\u0E49\u0E4A\u0E4B\u0E4C\u0E4D\u0E4E๏๐๑๒๓๔๕๖๗๘๙๚๛\uFFFE\uFFFE\uFFFE" ++
    "\uFFFE"

/-- The code page `iso8859_13`. -/
def iso885913 : CodePage where
  name := "iso8859_13"
  characters :=
    "\x80\x81\x82\x83\x84\x85\x86\x87\x88\x89\x8A\x8B\x8C\x8D\x8E\x8F\x90\x91\x92\x93\x94\x95" ++
    "\x96\x97\x98\x99\x9A\x9B\x9C\x9D\x9E\x9F\xA0”¢£¤„¦§Ø©Ŗ«¬\xAD®Æ°±²³“µ¶·ø¹ŗ»¼½¾æĄĮĀĆÄÅĘĒČÉ" ++
    "ŹĖĢĶĪĻŠŃŅÓŌÕÖ×ŲŁŚŪÜŻŽßąįāćäåęēčéźėģķīļšńņóōõö÷ųłśūüżž’"

/-- The code page `iso8859_14`. -/
def iso885914 : CodePage where
  name := "iso8859_14"
  characters :=
    "\x80\x81\x82\x83\x84\x85\x86\x87\x88\x89\x8A\x8B\x8C\x8D\x8E\x8F\x90\x91\x92\x93\x94\x95" ++
    "\x96\x97\x98\x99\x9A\x9B\x9C\x9D\x9E\x9F\xA0Ḃḃ£ĊċḊ§Ẁ©ẂḋỲ\xAD®ŸḞḟĠġṀṁ¶ṖẁṗẃṠỳẄẅṡÀÁÂÃÄÅÆÇÈÉ" ++
    "ÊËÌÍÎÏŴÑÒÓÔÕÖṪØÙÚÛÜÝŶßàáâãäåæçèéêëìíîïŵñòóôõöṫøùúûüýŷÿ"

/-- The code page `iso8859_15`. -/
def iso885915 : CodePage where
  name := "iso8859_15"
  characters :=
    "\x80\x81\x82\x83\x84\x85\x86\x87\x88\x89\x8A\x8B\x8C\x8D\x8E\x8F\x90\x91\x92\x93\x94\x95" ++
    "\x96\x97\x98\x99\x9A\x9B\x9C\x9D\x9E\x9F\xA0¡¢£€¥Š§š©ª«¬\xAD®¯°±²³Žµ¶·ž¹º»ŒœŸ¿ÀÁÂÃÄÅÆÇÈÉ" ++
    "ÊËÌÍÎÏÐÑÒÓÔÕÖ×ØÙÚÛÜÝÞßàáâãäåæçèéêëìíîïðñòóôõö÷øùúûüýþÿ"

/-- The code page `iso8859_16`. -/
def iso885916 : CodePage where
  name := "iso8859_16"
  characters :=
    "\x80\x81\x82\x83\x84\x85\x86\x87\x88\x89\x8A\x8B\x8C\x8D\x8E\x8F\x90\x91\x92\x93\x94\x95" ++
    "\x96\x97\x98\x99\x9A\x9B\x9C\x9D\x9E\x9F\xA0ĄąŁ€„Š§š©Ș«Ź\xADźŻ°±ČłŽ”¶·žčș»ŒœŸżÀÁÂĂÄĆÆÇÈÉ" ++
    "ÊËÌÍÎÏĐŃÒÓÔŐÖŚŰÙÚÛÜĘȚßàáâăäćæçèéêëìíîïđńòóôőöśűùúûüęțÿ"

/-- The code page `iso8859_2`. -/
def iso88592 : CodePage where
  name := "iso8859_2"
  characters :=
    "\x80\x81\x82\x83\x84\x85\x86\x87\x88\x89\x8A\x8B\x8C\x8D\x8E\x8F\x90\x91\x92\x93\x94\x95" ++
    "\x96\x97\x98\x99\x9A\x9B\x9C\x9D\x9E\x9F\xA0Ą˘Ł¤ĽŚ§¨ŠŞŤŹ\xADŽŻ°ą˛ł´ľś\u02C7¸šşťź˝žżŔÁÂĂÄ" ++
    "ĹĆÇČÉĘËĚÍÎĎĐŃŇÓÔŐÖ×ŘŮÚŰÜÝŢßŕáâăäĺćçčéęëěíîďđńňóôőö÷řůúűüýţ˙"

/-- The code page `iso8859_3`. -/
def iso88593 : CodePage where
  name := "iso8859_3"
  characters :=
    "\x80\x81\x82\x83\x84\x85\x86\x87\x88\x89\x8A\x8B\x8C\x8D\x8E\x8F\x90\x91\x92\x93\x94\x95" ++
    "\x96\x97\x98\x99\x9A\x9B\x9C\x9D\x9E\x9F\xA0Ħ˘£¤\uFFFEĤ§¨İŞĞĴ\xAD\uFFFEŻ°ħ²³´µĥ·¸ışğĵ½" ++
    "\uFFFEżÀÁÂ\uFFFEÄĊĈÇÈÉÊËÌÍÎÏ\uFFFEÑÒÓÔĠÖ×ĜÙÚÛÜŬŜßàáâ\uFFFEäċĉçèéêëìíîï\uFFFEñòóôġö÷ĝùúûü" ++
    "ŭŝ˙"

/-- The code page `iso8859_4`. -/
def iso88594 : CodePage where
  name := "iso8859_4"
  characters :=
    "\x80\x81\x82\x83\x84\x85\x86\x87\x88\x89\x8A\x8B\x8C\x8D\x8E\x8F\x90\x91\x92\x93\x94\x95" ++
    "\x96\x97\x98\x99\x9A\x9B\x9C\x9D\x9E\x9F\xA0ĄĸŖ¤ĨĻ§¨ŠĒĢŦ\xADŽ¯°ą˛ŗ´ĩļ\u02C7¸šēģŧŊžŋĀÁÂÃÄ" ++
    "ÅÆĮČÉĘËĖÍÎĪĐŅŌĶÔÕÖ×ØŲÚÛÜŨŪßāáâãäåæįčéęëėíîīđņōķôõö÷øųúûüũū˙"

/-- The code page `iso8859_5`. -/
def iso88595 : CodePage where
  name := "iso8859_5"
  characters :=
    "\x80\x81\x82\x83\x84\x85\x86\x87\x88\x89\x8A\x8B\x8C\x8D\x8E\x8F\x90\x91\x92\x93\x94\x95" ++
    "\x96\x97\x98\x99\x9A\x9B\x9C\x9D\x9E\x9F\xA0ЁЂЃЄЅІЇЈЉЊЋЌ\xADЎЏАБВГДЕЖЗИЙКЛМНОПРСТУФХЦЧШЩ" ++
    "ЪЫЬЭЮЯабвгдежзийклмнопрстуфхцчшщъыьэюя№ёђѓєѕіїјљњћќ§ўџ"

/-- The code page `iso8859_6`. -/
def iso88596 : CodePage where
  name := "iso8859_6"
  characters :=
    "\x80\x81\x82\x83\x84\x85\x86\x87\x88\x89\x8A\x8B\x8C\x8D\x8E\x8F\x90\x91\x92\x93\x94\x95" ++
    "\x96\x97\x98\x99\x9A\x9B\x9C\x9D\x9E\x9F\xA0\uFFFE\uFFFE\uFFFE¤\uFFFE\uFFFE\uFFFE\uFFFE" ++
    "\uFFFE\uFFFE\uFFFE،\xAD\uFFFE\uFFFE\uFFFE\uFFFE\uFFFE\uFFFE\uFFFE\uFFFE\uFFFE\uFFFE" ++
    "\uFFFE\uFFFE\uFFFE\u061B\uFFFE\uFFFE\uFFFE\u061F\uFFFE\u0621\u0622\u0623\u0624\u0625" ++
    "\u0626\u0627\u0628\u0629\u062A\u062B\u062C\u062D\u062E\u062F\u0630\u0631\u0632\u0633" ++
    "\u0634\u0635\u0636\u0637\u0638\u0639\u063A\uFFFE\uFFFE\uFFFE\uFFFE\uFFFE\u0640\u0641" ++
    "\u0642\u0643\u0644\u0645\u0646\u0647\u0648\u0649\u064A\u064B\u064C\u064D\u064E\u064F" ++
    "\u0650\u0651\u0652\uFFFE\uFFFE\uFFFE\uFFFE\uFFFE\uFFFE\uFFFE\uFFFE\uFFFE\uFFFE\uFFFE" ++
    "\uFFFE\uFFFE"

/-- The code page `iso8859_7`. -/
def iso88597 : CodePage where
  name := "iso8859_7"
  characters :=
    "\x80\x81\x82\x83\x84\x85\x86\x87\x88\x89\x8A\x8B\x8C\x8D\x8E\x8F\x90\x91\x92\x93\x94\x95" ++
    "\x96\x97\x98\x99\x9A\x9B\x9C\x9D\x9E\x9F\xA0‘’£€₯¦§¨©\u037A«¬\xAD\uFFFE―°±²³΄΅Ά·ΈΉΊ»Ό½ΎΏ" ++
    "ΐΑΒΓΔΕΖΗΘΙΚΛΜΝΞΟΠΡ\uFFFEΣΤΥΦΧΨΩΪΫάέήίΰαβγδεζηθικλμνξοπρςστυφχψωϊϋόύώ\uFFFE"

/-- The code page `iso8859_8`. -/
def iso88598 : CodePage where
  name := "iso8859_8"
  characters :=
    "\x80\x81\x82\x83\x84\x85\x86\x87\x88\x89\x8A\x8B\x8C\x8D\x8E\x8F\x90\x91\x92\x93\x94\x95" ++
    "\x96\x97\x98\x99\x9A\x9B\x9C\x9D\x9E\x9F\xA0\uFFFE¢£¤¥¦§¨©×«¬\xAD®¯°±²³´µ¶·¸¹÷»¼½¾\uFFFE" ++
    "\uFFFE\uFFFE\uFFFE\uFFFE\uFFFE\uFFFE\uFFFE\uFFFE\uFFFE\uFFFE\uFFFE\uFFFE\uFFFE\uFFFE" ++
    "\uFFFE\uFFFE\uFFFE\uFFFE\uFFFE\uFFFE\uFFFE\uFFFE\uFFFE\uFFFE\uFFFE\uFFFE\uFFFE\uFFFE" ++
    "\uFFFE\uFFFE\uFFFE‗\u05D0\u05D1\u05D2\u05D3\u05D4\u05D5\u05D6\u05D7\u05D8\u05D9\u05DA" ++
    "\u05DB\u05DC\u05DD\u05DE\u05DF\u05E0\u05E1\u05E2\u05E3\u05E4\u05E5\u05E6\u05E7\u05E8" ++
    "\u05E9\u05EA\uFFFE\uFFFE\u200E\u200F\uFFFE"

/-- The code page `iso8859_9`. -/
def iso88599 : CodePage where
  name := "iso8859_9"
  characters :=
    "\x80\x81\x82\x83\x84\x85\x86\x87\x88\x89\x8A\x8B\x8C\x8D\x8E\x8F\x90\x91\x92\x93\x94\x95" ++
    "\x96\x97\x98\x99\x9A\x9B\x9C\x9D\x9E\x9F\xA0¡¢£¤¥¦§¨©ª«¬\xAD®¯°±²³´µ¶·¸¹º»¼½¾¿ÀÁÂÃÄÅÆÇÈÉ" ++
    "ÊËÌÍÎÏĞÑÒÓÔÕÖ×ØÙÚÛÜİŞßàáâãäåæçèéêëìíîïğñòóôõö÷øùúûüışÿ"

/-- The code page `koi8_r`. -/
def koi8R : CodePage where
  name := "koi8_r"
  characters :=
    "─│┌┐└┘├┤┬┴┼▀▄█▌▐░▒▓⌠■∙√≈≤≥\xA0⌡°²·÷═║╒ё╓╔╕╖╗╘╙╚╛╜╝╞╟╠╡Ё╢╣╤╥╦╧╨╩╪╫╬©юабцдефгхийклмнопярст" ++
    "ужвьызшэщчъЮАБЦДЕФГХИЙКЛМНОПЯРСТУЖВЬЫЗШЭЩЧЪ"

/-- The code page `koi8_t`. -/
def koi8T : CodePage where
  name := "koi8_t"
  characters :=
    "қғ‚Ғ„…†‡\uFFFE‰ҳ‹ҲҷҶ\uFFFEҚ‘’“”•–—\uFFFE™\uFFFE›\uFFFE\uFFFE\uFFFE\uFFFE\uFFFEӯӮё¤ӣ¦§" ++
    "\uFFFE\uFFFE\uFFFE«¬\xAD®\uFFFE°±²Ё\uFFFEӢ¶·\uFFFE№\uFFFE»\uFFFE\uFFFE\uFFFE©юабцдефгхий" ++
    "клмнопярстужвьызшэщчъЮАБЦДЕФГХИЙКЛМНОПЯРСТУЖВЬЫЗШЭЩЧЪ"

/-- The code page `koi8_u`. -/
def koi8U : CodePage where
  name := "koi8_u"
  characters :=
    "─│┌┐└┘├┤┬┴┼▀▄█▌▐░▒▓⌠■∙√≈≤≥\xA0⌡°²·÷═║╒ёє╔ії╗╘╙╚╛ґ╝╞╟╠╡ЁЄ╣ІЇ╦╧╨╩╪Ґ╬©юабцдефгхийклмнопярст" ++
    "ужвьызшэщчъЮАБЦДЕФГХИЙКЛМНОПЯРСТУЖВЬЫЗШЭЩЧЪ"

/-- The code page `kz1048`. -/
def kz1048 : CodePage where
  name := "kz1048"
  characters :=
    "ЂЃ‚ѓ„…†‡€‰Љ‹ЊҚҺЏђ‘’“”•–—\uFFFE™љ›њқһџ\xA0ҰұӘ¤Ө¦§Ё©Ғ«¬\xAD®Ү°±Ііөµ¶·ё№ғ»әҢңүАБВГДЕЖЗИЙКЛМ" ++
    "НОПРСТУФХЦЧШЩЪЫЬЭЮЯабвгдежзийклмнопрстуфхцчшщъыьэюя"

/-- The code page `mac_arabic`. -/
def macArabic : CodePage where
  name := "mac_arabic"
  characters :=
    "Ä\xA0ÇÉÑÖÜáàâä\u06BA«çéèêëí…îïñó»ôö÷úùûü !\"#$٪&'()*+،-./\u0660\u0661\u0662\u0663\u0664" ++
    "\u0665\u0666\u0667\u0668\u0669:\u061B<=>\u061F❊\u0621\u0622\u0623\u0624\u0625\u0626" ++
    "\u0627\u0628\u0629\u062A\u062B\u062C\u062D\u062E\u062F\u0630\u0631\u0632\u0633\u0634" ++
    "\u0635\u0636\u0637\u0638\u0639\u063A[\\]^_\u0640\u0641\u0642\u0643\u0644\u0645\u0646" ++
    "\u0647\u0648\u0649\u064A\u064B\u064C\u064D\u064E\u064F\u0650\u0651\u0652\u067E\u0679" ++
    "\u0686\u06D5\u06A4\u06AF\u0688\u0691\x7b|\x7d\u0698\u06D2"

/-- The code page `mac_croatian`. -/
def macCroatian : CodePage where
  name := "mac_croatian"
  characters :=
    "ÄÅÇÉÑÖÜáàâäãåçéèêëíìîïñóòôöõúùûü†°¢£§•¶ß®Š™´¨≠ŽØ∞±≤≥∆µ∂∑∏š∫ªºΩžø¿¡¬√ƒ≈Ć«Č…\xA0ÀÃÕŒœĐ—“”‘" ++
    "’÷◊\uF8FF©⁄€‹›Æ»–·‚„‰ÂćÁčÈÍÎÏÌÓÔđÒÚÛÙı\u02C6˜¯πË˚¸Êæ\u02C7"

/-- The code page `mac_cyrillic`. -/
def macCyrillic : CodePage where
  name := "mac_cyrillic"
  characters :=
    "АБВГДЕЖЗИЙКЛМНОПРСТУФХЦЧШЩЪЫЬЭЮЯ†°Ґ£§•¶І®©™Ђђ≠Ѓѓ∞±≤≥іµґЈЄєЇїЉљЊњјЅ¬√ƒ≈∆«»…\xA0ЋћЌќѕ–—“”‘" ++
    "’÷„ЎўЏџ№Ёёяабвгдежзийклмнопрстуфхцчшщъыьэю€"

/-- The code page `mac_farsi`. -/
def macFarsi : CodePage where
  name := "mac_farsi"
  characters :=
    "Ä\xA0ÇÉÑÖÜáàâä\u06BA«çéèêëí…îïñó»ôö÷úùûü !\"#$٪&'()*+،-./۰۱۲۳۴۵۶۷۸۹:\u061B<=>\u061F❊" ++
    "\u0621\u0622\u0623\u0624\u0625\u0626\u0627\u0628\u0629\u062A\u062B\u062C\u062D\u062E" ++
    "\u062F\u0630\u0631\u0632\u0633\u0634\u0635\u0636\u0637\u0638\u0639\u063A[\\]^_\u0640" ++
    "\u0641\u0642\u0643\u0644\u0645\u0646\u0647\u0648\u0649\u064A\u064B\u064C\u064D\u064E" ++
    "\u064F\u0650\u0651\u0652\u067E\u0679\u0686\u06D5\u06A4\u06AF\u0688\u0691\x7b|\x7d\u0698" ++
    "\u06D2"

/-- The code page `mac_greek`. -/
def macGreek : CodePage where
  name := "mac_greek"
  characters :=
    "Ä¹²É³ÖÜ΅àâä΄¨çéèêë£™îï•½‰ôö¦€ùûü†ΓΔΘΛΞΠß®©ΣΪ§≠°·Α±≤≥¥ΒΕΖΗΙΚΜΦΫΨΩάΝ¬ΟΡ≈Τ«»…\xA0ΥΧΆΈœ–―“”‘" ++
    "’÷ΉΊΌΎέήίόΏύαβψδεφγηιξκλμνοπώρστθωςχυζϊϋΐΰ\xAD"

/-- The code page `mac_iceland`. -/
def macIceland : CodePage where
  name := "mac_iceland"
  characters :=
    "ÄÅÇÉÑÖÜáàâäãåçéèêëíìîïñóòôöõúùûüÝ°¢£§•¶ß®©™´¨≠ÆØ∞±≤≥¥µ∂∑∏π∫ªºΩæø¿¡¬√ƒ≈∆«»…\xA0ÀÃÕŒœ–—“”‘" ++
    "’÷◊ÿŸ⁄€ÐðÞþý·‚„‰ÂÊÁËÈÍÎÏÌÓÔ\uF8FFÒÚÛÙı\u02C6˜¯˘˙˚¸˝˛\u02C7"

/-- The code page `mac_latin2`. -/
def macLatin2 : CodePage where
  name := "mac_latin2"
  characters :=
    "ÄĀāÉĄÖÜáąČäčĆćéŹźĎíďĒēĖóėôöõúĚěü†°Ę£§•¶ß®©™ę¨≠ģĮįĪ≤≥īĶ∂∑łĻļĽľĹĺŅņŃ¬√ńŇ∆«»…\xA0ňŐÕőŌ–—“”‘" ++
    "’÷◊ōŔŕŘ‹›řŖŗŠ‚„šŚśÁŤťÍŽžŪÓÔūŮÚůŰűŲųÝýķŻŁżĢ\u02C7"

/-- The code page `mac_roman`. -/
def macRoman : CodePage where
  name := "mac_roman"
  characters :=
    "ÄÅÇÉÑÖÜáàâäãåçéèêëíìîïñóòôöõúùûü†°¢£§•¶ß®©™´¨≠ÆØ∞±≤≥¥µ∂∑∏π∫ªºΩæø¿¡¬√ƒ≈∆«»…\xA0ÀÃÕŒœ–—“”‘" ++
    "’÷◊ÿŸ⁄€‹›ﬁﬂ‡·‚„‰ÂÊÁËÈÍÎÏÌÓÔ\uF8FFÒÚÛÙı\u02C6˜¯˘˙˚¸˝˛\u02C7"

/-- The code page `mac_romanian`. -/
def macRomanian : CodePage where
  name := "mac_romanian"
  characters :=
    "ÄÅÇÉÑÖÜáàâäãåçéèêëíìîïñóòôöõúùûü†°¢£§•¶ß®©™´¨≠ĂȘ∞±≤≥¥µ∂∑∏π∫ªºΩăș¿¡¬√ƒ≈∆«»…\xA0ÀÃÕŒœ–—“”‘" ++
    "’÷◊ÿŸ⁄€‹›Țț‡·‚„‰ÂÊÁËÈÍÎÏÌÓÔ\uF8FFÒÚÛÙı\u02C6˜¯˘˙˚¸˝˛\u02C7"

/-- The code page `mac_turkish`. -/
def macTurkish : CodePage where
  name := "mac_turkish"
  characters :=
    "ÄÅÇÉÑÖÜáàâäãåçéèêëíìîïñóòôöõúùûü†°¢£§•¶ß®©™´¨≠ÆØ∞±≤≥¥µ∂∑∏π∫ªºΩæø¿¡¬√ƒ≈∆«»…\xA0ÀÃÕŒœ–—“”‘" ++
    "’÷◊ÿŸĞğİıŞş‡·‚„‰ÂÊÁËÈÍÎÏÌÓÔ\uF8FFÒÚÛÙ\uF8A0\u02C6˜¯˘˙˚¸˝˛\u02C7"

/-- The code page `palmos`. -/
def palmos : CodePage where
  name := "palmos"
  characters :=
    "€\x81‚ƒ„…†‡\u02C6‰Š‹Œ♦♣♥♠‘’“”•–—˜™š\x9Bœ\x9D\x9EŸ\xA0¡¢£¤¥¦§¨©ª«¬\xAD®¯°±²³´µ¶·¸¹º»¼½¾¿À" ++
    "ÁÂÃÄÅÆÇÈÉÊËÌÍÎÏÐÑÒÓÔÕÖ×ØÙÚÛÜÝÞßàáâãäåæçèéêëìíîïðñòóôõö÷øùúûüýþÿ"

/-- The code page `ptcp154`. -/
def ptcp154 : CodePage where
  name := "ptcp154"
  characters :=
    "ҖҒӮғ„…ҶҮҲүҠӢҢҚҺҸҗ‘’“”•–—ҳҷҡӣңқһҹ\xA0ЎўЈӨҘҰ§Ё©Ә«¬ӯ®Ҝ°ұІіҙө¶·ё№ә»јҪҫҝАБВГДЕЖЗИЙКЛМНОПРСТУФ" ++
    "ХЦЧШЩЪЫЬЭЮЯабвгдежзийклмнопрстуфхцчшщъыьэюя"

/-- The code page `tis_620`. -/
def tis620 : CodePage where
  name := "tis_620"
  characters :=
    "\x80\x81\x82\x83\x84\x85\x86\x87\x88\x89\x8A\x8B\x8C\x8D\x8E\x8F\x90\x91\x92\x93\x94\x95" ++
    "\x96\x97\x98\x99\x9A\x9B\x9C\x9D\x9E\x9F\uFFFEกขฃคฅฆงจฉชซฌญฎฏฐฑฒณดตถทธนบปผฝพฟภมยรฤลฦวศษส" ++
    "หฬอฮฯะ\u0E31าำ\u0E34\u0E35\u0E36\u0E37\u0E38\u0E39\u0E3A\uFFFE\uFFFE\uFFFE\uFFFE฿เแโใไๅ" ++
    "\u0E46\u0E47\u0E48\u0E49\u0E4A\u0E4B\u0E4C\u0E4D\u0E4E๏๐๑๒๓๔๕๖๗๘๙๚๛\uFFFE\uFFFE\uFFFE" ++
    "\uFFFE"

/-- The characters of the bytes. -/
def table (p : CodePage) : ByteTable :=
  let given := p.characters.toList
  let lower := (List.range (256 - given.length)).map Char.ofNat
  ((lower ++ given).map fun c => if c == '\uFFFE' then none else some c).toArray

end CodePage

end MarkupCatalog.Charset
