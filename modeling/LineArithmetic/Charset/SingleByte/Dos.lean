import LineArithmetic.Charset.Table

/-!
# DOS code pages

The character sets of DOS: ASCII with box drawing and letters of one group of
languages in the upper half.
-/

namespace LineArithmetic.Charset.Dos

/-- United States. -/
def cp437 : Table where
  spans := [⟨0x00, 128, 0x0000⟩]
  runs := [
    ⟨0x80, "ÇüéâäàåçêëèïîìÄÅÉæÆôöòûùÿÖÜ¢£¥₧ƒáíóúñÑªº¿⌐¬½¼¡«»░▒▓│┤╡╢╖╕╣║╗╝╜╛┐└┴"⟩,
    ⟨0xC2, "┬├─┼╞╟╚╔╩╦╠═╬╧╨╤╥╙╘╒╓╫╪┘┌█▄▌▐▀αßΓπΣσµτΦΘΩδ∞φε∩≡±≥≤⌠⌡÷≈°∙·√ⁿ²■\xa0"⟩]

/-- Arabic. -/
def cp720 : Table where
  spans := [
    ⟨0x00, 130, 0x0000⟩, ⟨0x98, 4, 0x0621⟩, ⟨0x9D, 17, 0x0625⟩, ⟨0xE0, 5, 0x0636⟩,
    ⟨0xE7, 9, 0x0642⟩]
  runs := [
    ⟨0x82, "éâ\x84à\x86çêëèïî\x8d\x8e\x8f\x90\u0651\u0652ô¤\u0640ûù"⟩, ⟨0x9C, "£"⟩,
    ⟨0xAE, "«»░▒▓│┤╡╢╖╕╣║╗╝╜╛┐└┴┬├─┼╞╟╚╔╩╦╠═╬╧╨╤╥╙╘╒╓╫╪┘┌█▄▌▐▀"⟩, ⟨0xE5, "\u0641µ"⟩,
    ⟨0xF0, "≡\u064b\u064c\u064d\u064e\u064f\u0650≈°∙·√ⁿ²■\xa0"⟩]

/-- Greek. -/
def cp737 : Table where
  spans := [⟨0x00, 128, 0x0000⟩, ⟨0x80, 17, 0x0391⟩, ⟨0x98, 17, 0x03B1⟩]
  runs := [
    ⟨0x91, "ΣΤΥΦΧΨΩ"⟩, ⟨0xA9, "σςτυφχψ░▒▓│┤╡╢╖╕╣║╗╝╜╛┐└┴┬├─┼╞╟╚╔╩╦╠═╬╧╨╤╥╙╘╒"⟩,
    ⟨0xD6, "╓╫╪┘┌█▄▌▐▀ωάέήϊίόύϋώΆΈΉΊΌΎΏ±≥≤ΪΫ÷≈°∙·√ⁿ²■\xa0"⟩]

/-- Baltic. -/
def cp775 : Table where
  spans := [⟨0x00, 128, 0x0000⟩]
  runs := [
    ⟨0x80, "ĆüéāäģåćłēŖŗīŹÄÅÉæÆōöĢ¢ŚśÖÜø£Ø×¤ĀĪóŻżź”¦©®¬½¼Ł«»░▒▓│┤ĄČĘĖ╣║╗╝ĮŠ┐└┴┬"⟩,
    ⟨0xC3, "├─┼ŲŪ╚╔╩╦╠═╬Žąčęėįšųūž┘┌█▄▌▐▀ÓßŌŃõÕµńĶķĻļņĒŅ’\xad±“¾¶§÷„°∙·¹³²■\xa0"⟩]

/-- Western European. -/
def cp850 : Table where
  spans := [⟨0x00, 128, 0x0000⟩]
  runs := [
    ⟨0x80, "ÇüéâäàåçêëèïîìÄÅÉæÆôöòûùÿÖÜø£Ø×ƒáíóúñÑªº¿®¬½¼¡«»░▒▓│┤ÁÂÀ©╣║╗╝¢¥┐└┴┬"⟩,
    ⟨0xC3, "├─┼ãÃ╚╔╩╦╠═╬¤ðÐÊËÈıÍÎÏ┘┌█▄¦Ì▀ÓßÔÒõÕµþÞÚÛÙýÝ¯´\xad±‗¾¶§÷¸°¨·¹³²■\xa0"⟩]

/-- Central European. -/
def cp852 : Table where
  spans := [⟨0x00, 128, 0x0000⟩]
  runs := [
    ⟨0x80, "ÇüéâäůćçłëŐőîŹÄĆÉĹĺôöĽľŚśÖÜŤťŁ×čáíóúĄąŽžĘę¬źČş«»░▒▓│┤ÁÂĚŞ╣║╗╝Żż┐└┴┬"⟩,
    ⟨0xC3, "├─┼Ăă╚╔╩╦╠═╬¤đĐĎËďŇÍÎě┘┌█▄ŢŮ▀ÓßÔŃńňŠšŔÚŕŰýÝţ´\xad˝˛ˇ˘§÷¸°¨˙űŘř■\xa0"⟩]

/-- Cyrillic. -/
def cp855 : Table where
  spans := [⟨0x00, 128, 0x0000⟩]
  runs := [
    ⟨0x80, "ђЂѓЃёЁєЄѕЅіІїЇјЈљЉњЊћЋќЌўЎџЏюЮъЪаАбБцЦдДеЕфФгГ«»░▒▓│┤хХиИ╣║╗╝йЙ┐└┴┬"⟩,
    ⟨0xC3, "├─┼кК╚╔╩╦╠═╬¤лЛмМнНоОп┘┌█▄Пя▀ЯрРсСтТуУжЖвВьЬ№\xadыЫзЗшШэЭщЩчЧ§■\xa0"⟩]

/-- Hebrew. -/
def cp856 : Table where
  spans := [⟨0x00, 128, 0x0000⟩, ⟨0x80, 27, 0x05D0⟩]
  runs := [
    ⟨0x9C, "£"⟩, ⟨0x9E, "×"⟩, ⟨0xA9, "®¬½¼"⟩, ⟨0xAE, "«»░▒▓│┤"⟩, ⟨0xB8, "©╣║╗╝¢¥┐└┴┬├─┼"⟩,
    ⟨0xC8, "╚╔╩╦╠═╬¤"⟩, ⟨0xD9, "┘┌█▄¦"⟩, ⟨0xDF, "▀"⟩, ⟨0xE6, "µ"⟩,
    ⟨0xEE, "¯´\xad±‗¾¶§÷¸°¨·¹³²■\xa0"⟩]

/-- Turkish. -/
def cp857 : Table where
  spans := [⟨0x00, 128, 0x0000⟩]
  runs := [
    ⟨0x80, "ÇüéâäàåçêëèïîıÄÅÉæÆôöòûùİÖÜø£ØŞşáíóúñÑĞğ¿®¬½¼¡«»░▒▓│┤ÁÂÀ©╣║╗╝¢¥┐└┴┬├─┼ãÃ╚╔╩╦╠═╬¤ºªÊËÈ"⟩,
    ⟨0xD6, "ÍÎÏ┘┌█▄¦Ì▀ÓßÔÒõÕµ"⟩, ⟨0xE8, "×ÚÛÙìÿ¯´\xad±"⟩, ⟨0xF3, "¾¶§÷¸°¨·¹³²■\xa0"⟩]

/-- Western European with the euro. -/
def cp858 : Table where
  spans := [⟨0x00, 128, 0x0000⟩]
  runs := [
    ⟨0x80, "ÇüéâäàåçêëèïîìÄÅÉæÆôöòûùÿÖÜø£Ø×ƒáíóúñÑªº¿®¬½¼¡«»░▒▓│┤ÁÂÀ©╣║╗╝¢¥┐└┴┬"⟩,
    ⟨0xC3, "├─┼ãÃ╚╔╩╦╠═╬¤ðÐÊËÈ€ÍÎÏ┘┌█▄¦Ì▀ÓßÔÒõÕµþÞÚÛÙýÝ¯´\xad±‗¾¶§÷¸°¨·¹³²■\xa0"⟩]

/-- Portuguese. -/
def cp860 : Table where
  spans := [⟨0x00, 128, 0x0000⟩]
  runs := [
    ⟨0x80, "ÇüéâãàÁçêÊèÍÔìÃÂÉÀÈôõòÚùÌÕÜ¢£Ù₧ÓáíóúñÑªº¿Ò¬½¼¡«»░▒▓│┤╡╢╖╕╣║╗╝╜╛┐└┴"⟩,
    ⟨0xC2, "┬├─┼╞╟╚╔╩╦╠═╬╧╨╤╥╙╘╒╓╫╪┘┌█▄▌▐▀αßΓπΣσµτΦΘΩδ∞φε∩≡±≥≤⌠⌡÷≈°∙·√ⁿ²■\xa0"⟩]

/-- Icelandic. -/
def cp861 : Table where
  spans := [⟨0x00, 128, 0x0000⟩]
  runs := [
    ⟨0x80, "ÇüéâäàåçêëèÐðÞÄÅÉæÆôöþûÝýÖÜø£Ø₧ƒáíóúÁÍÓÚ¿⌐¬½¼¡«»░▒▓│┤╡╢╖╕╣║╗╝╜╛┐└┴"⟩,
    ⟨0xC2, "┬├─┼╞╟╚╔╩╦╠═╬╧╨╤╥╙╘╒╓╫╪┘┌█▄▌▐▀αßΓπΣσµτΦΘΩδ∞φε∩≡±≥≤⌠⌡÷≈°∙·√ⁿ²■\xa0"⟩]

/-- Hebrew. -/
def cp862 : Table where
  spans := [⟨0x00, 128, 0x0000⟩, ⟨0x80, 27, 0x05D0⟩]
  runs := [
    ⟨0x9B, "¢£¥₧ƒáíóúñÑªº¿⌐¬½¼¡«»░▒▓│┤╡╢╖╕╣║╗╝╜╛┐└┴┬├─┼╞╟╚╔╩╦╠═╬"⟩,
    ⟨0xCF, "╧╨╤╥╙╘╒╓╫╪┘┌█▄▌▐▀αßΓπΣσµτΦΘΩδ∞φε∩≡±≥≤⌠⌡÷≈°∙·√ⁿ²■\xa0"⟩]

/-- Canadian French. -/
def cp863 : Table where
  spans := [⟨0x00, 128, 0x0000⟩]
  runs := [
    ⟨0x80, "ÇüéâÂà¶çêëèïî‗À§ÉÈÊôËÏûù¤ÔÜ¢£ÙÛƒ¦´óú¨¸³¯Î⌐¬½¼¾«»░▒▓│┤╡╢╖╕╣║╗╝╜╛┐└┴"⟩,
    ⟨0xC2, "┬├─┼╞╟╚╔╩╦╠═╬╧╨╤╥╙╘╒╓╫╪┘┌█▄▌▐▀αßΓπΣσµτΦΘΩδ∞φε∩≡±≥≤⌠⌡÷≈°∙·√ⁿ²■\xa0"⟩]

/-- Arabic. -/
def cp864 : Table where
  spans := [⟨0x00, 37, 0x0000⟩, ⟨0x26, 90, 0x0026⟩, ⟨0xB0, 10, 0x0660⟩]
  runs := [
    ⟨0x25, "٪"⟩, ⟨0x80, "°·∙√▒─│┼┤┬├┴┐┌└┘β∞φ±½¼≈«»\ufef7\ufef8"⟩, ⟨0x9D, "\ufefb\ufefc"⟩,
    ⟨0xA0, "\xa0\xad\ufe82£¤\ufe84"⟩, ⟨0xA8, "\ufe8e\ufe8f\ufe95\ufe99،\ufe9d\ufea1\ufea5"⟩,
    ⟨0xBA, "\ufed1\u061b\ufeb1\ufeb5\ufeb9\u061f¢\ufe80\ufe81\ufe83\ufe85\ufeca\ufe8b\ufe8d"⟩,
    ⟨0xC8, "\ufe91\ufe93\ufe97\ufe9b\ufe9f\ufea3\ufea7\ufea9\ufeab\ufead\ufeaf\ufeb3\ufeb7"⟩,
    ⟨0xD5, "\ufebb\ufebf\ufec1\ufec5\ufecb\ufecf¦¬÷×\ufec9\u0640\ufed3\ufed7\ufedb\ufedf\ufee3"⟩,
    ⟨0xE6, "\ufee7\ufeeb\ufeed\ufeef\ufef3\ufebd\ufecc\ufece\ufecd\ufee1\ufe7d\u0651\ufee5"⟩,
    ⟨0xF3, "\ufee9\ufeec\ufef0\ufef2\ufed0\ufed5\ufef5\ufef6\ufedd\ufed9\ufef1■"⟩]

/-- Nordic. -/
def cp865 : Table where
  spans := [⟨0x00, 128, 0x0000⟩]
  runs := [
    ⟨0x80, "ÇüéâäàåçêëèïîìÄÅÉæÆôöòûùÿÖÜø£Ø₧ƒáíóúñÑªº¿⌐¬½¼¡«¤░▒▓│┤╡╢╖╕╣║╗╝╜╛┐└┴"⟩,
    ⟨0xC2, "┬├─┼╞╟╚╔╩╦╠═╬╧╨╤╥╙╘╒╓╫╪┘┌█▄▌▐▀αßΓπΣσµτΦΘΩδ∞φε∩≡±≥≤⌠⌡÷≈°∙·√ⁿ²■\xa0"⟩]

/-- Russian. -/
def cp866 : Table where
  spans := [⟨0x00, 128, 0x0000⟩, ⟨0x80, 48, 0x0410⟩, ⟨0xE0, 16, 0x0440⟩]
  runs := [
    ⟨0xB0, "░▒▓│┤╡╢╖╕╣║╗╝╜╛┐└┴┬├─┼╞╟╚╔╩╦╠═╬╧╨╤╥╙╘╒╓╫╪┘┌█▄▌▐▀"⟩, ⟨0xF0, "ЁёЄєЇїЎў°∙·√№¤■\xa0"⟩]

/-- Greek. -/
def cp869 : Table where
  spans := [⟨0x00, 128, 0x0000⟩, ⟨0xE0, 12, 0x03B6⟩]
  runs := [
    ⟨0x86, "Ά"⟩, ⟨0x88, "·¬¦‘’Έ―ΉΊΪΌ"⟩,
    ⟨0x95, "ΎΫ©Ώ²³ά£έήίϊΐόύΑΒΓΔΕΖΗ½ΘΙ«»░▒▓│┤ΚΛΜΝ╣║╗╝ΞΟ┐└┴┬├─┼ΠΡ╚╔╩╦╠═╬ΣΤΥΦΧΨΩαβγ┘┌█▄δε▀"⟩,
    ⟨0xEC, "σςτ΄\xad±υφχ§ψ΅°¨ωϋΰώ■\xa0"⟩]

/-- Urdu. -/
def cp1006 : Table where
  spans := [
    ⟨0x00, 161, 0x0000⟩, ⟨0xA1, 10, 0x06F0⟩, ⟨0xD7, 9, 0xFEC9⟩, ⟨0xE8, 3, 0xFEDF⟩,
    ⟨0xF2, 3, 0xFBA8⟩, ⟨0xF6, 3, 0xFE89⟩, ⟨0xF9, 3, 0xFEF1⟩]
  runs := [
    ⟨0xAB, "،\u061b\xad\u061f\ufe81\ufe8d\ufe8e\ufe8e\ufe8f\ufe91\ufb56\ufb58\ufe93\ufe95\ufe97"⟩,
    ⟨0xBA, "\ufb66\ufb68\ufe99\ufe9b\ufe9d\ufe9f\ufb7a\ufb7c\ufea1\ufea3\ufea5\ufea7\ufea9\ufb84"⟩,
    ⟨0xC8, "\ufeab\ufead\ufb8c\ufeaf\ufb8a\ufeb1\ufeb3\ufeb5\ufeb7\ufeb9\ufebb\ufebd\ufebf\ufec1"⟩,
    ⟨0xD6, "\ufec5"⟩, ⟨0xE0, "\ufed3\ufed5\ufed7\ufed9\ufedb\ufb92\ufb94\ufedd"⟩,
    ⟨0xEB, "\ufee3\ufb9e\ufee5\ufee7\ufe85\ufeed\ufba6"⟩, ⟨0xF5, "\ufe80"⟩,
    ⟨0xFC, "\ufbb0\ufbae\ufe7c\ufe7d"⟩]

/-- Ukrainian. -/
def cp1125 : Table where
  spans := [⟨0x00, 128, 0x0000⟩, ⟨0x80, 48, 0x0410⟩, ⟨0xE0, 16, 0x0440⟩]
  runs := [
    ⟨0xB0, "░▒▓│┤╡╢╖╕╣║╗╝╜╛┐└┴┬├─┼╞╟╚╔╩╦╠═╬╧╨╤╥╙╘╒╓╫╪┘┌█▄▌▐▀"⟩, ⟨0xF0, "ЁёҐґЄєІіЇї·√№¤■\xa0"⟩]

end LineArithmetic.Charset.Dos
