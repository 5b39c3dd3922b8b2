import LineArithmetic.Charset.Table

/-!
# EBCDIC

Character sets that are not based on ASCII.
-/

namespace LineArithmetic.Charset.Ebcdic

/-- United States and Canada. -/
def cp037 : Table where
  spans := [
    ⟨0x0B, 9, 0x000B⟩, ⟨0x81, 9, 0x0061⟩, ⟨0x91, 9, 0x006A⟩, ⟨0xA2, 8, 0x0073⟩, ⟨0xC1, 9, 0x0041⟩,
    ⟨0xD1, 9, 0x004A⟩, ⟨0xE2, 8, 0x0053⟩, ⟨0xF0, 10, 0x0030⟩]
  runs := [
    ⟨0x00, "\x00\x01\x02\x03\x9c\t\x86\x7f\x97\x8d\x8e"⟩,
    ⟨0x14, "\x9d\x85\x08\x87\x18\x19\x92\x8f\x1c\x1d\x1e\x1f\x80\x81\x82\x83\x84\n\x17\x1b\x88"⟩,
    ⟨0x29, "\x89\x8a\x8b\x8c\x05\x06\x07\x90\x91\x16\x93\x94\x95\x96\x04\x98\x99\x9a\x9b\x14\x15"⟩,
    ⟨0x3E, "\x9e\x1a \xa0âäàáãåçñ¢.<(+|&éêëèíîïìß!$*);¬-/ÂÄÀÁÃÅÇÑ¦,%_>?øÉÊËÈÍÎÏÌ`:#@'=\"Ø"⟩,
    ⟨0x8A, "«»ðýþ±°"⟩, ⟨0x9A, "ªºæ¸Æ¤µ~"⟩, ⟨0xAA, "¡¿ÐÝÞ®^£¥·©§¶¼½¾[]¯¨´×\x7b"⟩,
    ⟨0xCA, "\xadôöòóõ\x7d"⟩, ⟨0xDA, "¹ûüùúÿ\\÷"⟩, ⟨0xEA, "²ÔÖÒÓÕ"⟩, ⟨0xFA, "³ÛÜÙÚ\x9f"⟩]

/-- German. -/
def cp273 : Table where
  spans := [
    ⟨0x0B, 9, 0x000B⟩, ⟨0x81, 9, 0x0061⟩, ⟨0x91, 9, 0x006A⟩, ⟨0xA2, 8, 0x0073⟩, ⟨0xC1, 9, 0x0041⟩,
    ⟨0xD1, 9, 0x004A⟩, ⟨0xE2, 8, 0x0053⟩, ⟨0xF0, 10, 0x0030⟩]
  runs := [
    ⟨0x00, "\x00\x01\x02\x03\x9c\t\x86\x7f\x97\x8d\x8e"⟩,
    ⟨0x14, "\x9d\x85\x08\x87\x18\x19\x92\x8f\x1c\x1d\x1e\x1f\x80\x81\x82\x83\x84\n\x17\x1b\x88"⟩,
    ⟨0x29, "\x89\x8a\x8b\x8c\x05\x06\x07\x90\x91\x16\x93\x94\x95\x96\x04\x98\x99\x9a\x9b\x14\x15"⟩,
    ⟨0x3E, "\x9e\x1a \xa0â\x7bàáãåçñÄ.<(+!&éêëèíîïì~Ü$*);^-/Â[ÀÁÃÅÇÑö,%_>?øÉÊËÈÍÎÏÌ`:#§'=\"Ø"⟩,
    ⟨0x8A, "«»ðýþ±°"⟩, ⟨0x9A, "ªºæ¸Æ¤µß"⟩, ⟨0xAA, "¡¿ÐÝÞ®¢£¥·©@¶¼½¾¬|‾¨´×ä"⟩, ⟨0xCA, "\xadô¦òóõü"⟩,
    ⟨0xDA, "¹û\x7dùúÿÖ÷"⟩, ⟨0xEA, "²Ô\\ÒÓÕ"⟩, ⟨0xFA, "³Û]ÙÚ\x9f"⟩]

/-- Hebrew. -/
def cp424 : Table where
  spans := [
    ⟨0x0B, 9, 0x000B⟩, ⟨0x41, 9, 0x05D0⟩, ⟨0x51, 9, 0x05D9⟩, ⟨0x62, 8, 0x05E2⟩, ⟨0x81, 9, 0x0061⟩,
    ⟨0x91, 9, 0x006A⟩, ⟨0xA2, 8, 0x0073⟩, ⟨0xC1, 9, 0x0041⟩, ⟨0xD1, 9, 0x004A⟩, ⟨0xE2, 8, 0x0053⟩,
    ⟨0xF0, 10, 0x0030⟩]
  runs := [
    ⟨0x00, "\x00\x01\x02\x03\x9c\t\x86\x7f\x97\x8d\x8e"⟩,
    ⟨0x14, "\x9d\x85\x08\x87\x18\x19\x92\x8f\x1c\x1d\x1e\x1f"⟩,
    ⟨0x20, "\x80\x81\x82\x83\x84\n\x17\x1b\x88\x89"⟩,
    ⟨0x2A, "\x8a\x8b\x8c\x05\x06\x07"⟩,
    ⟨0x30, "\x90\x91\x16\x93\x94\x95\x96\x04\x98\x99\x9a\x9b\x14\x15\x9e\x1a"⟩,
    ⟨0x40, " "⟩, ⟨0x4A, "¢.<(+|&"⟩, ⟨0x5A, "!$*);¬-/"⟩, ⟨0x6A, "¦,%_>?"⟩, ⟨0x71, "\u05ea"⟩,
    ⟨0x74, "\xa0"⟩, ⟨0x78, "‗`:#@'=\""⟩, ⟨0x8A, "«»"⟩, ⟨0x8F, "±°"⟩, ⟨0x9D, "¸"⟩, ⟨0x9F, "¤µ~"⟩,
    ⟨0xAF, "®^£¥·©§¶¼½¾[]¯¨´×\x7b"⟩, ⟨0xCA, "\xad"⟩, ⟨0xD0, "\x7d"⟩, ⟨0xDA, "¹"⟩, ⟨0xE0, "\\÷"⟩,
    ⟨0xEA, "²"⟩, ⟨0xFA, "³"⟩, ⟨0xFF, "\x9f"⟩]

/-- Western European. -/
def cp500 : Table where
  spans := [
    ⟨0x0B, 9, 0x000B⟩, ⟨0x81, 9, 0x0061⟩, ⟨0x91, 9, 0x006A⟩, ⟨0xA2, 8, 0x0073⟩, ⟨0xC1, 9, 0x0041⟩,
    ⟨0xD1, 9, 0x004A⟩, ⟨0xE2, 8, 0x0053⟩, ⟨0xF0, 10, 0x0030⟩]
  runs := [
    ⟨0x00, "\x00\x01\x02\x03\x9c\t\x86\x7f\x97\x8d\x8e"⟩,
    ⟨0x14, "\x9d\x85\x08\x87\x18\x19\x92\x8f\x1c\x1d\x1e\x1f\x80\x81\x82\x83\x84\n\x17\x1b\x88"⟩,
    ⟨0x29, "\x89\x8a\x8b\x8c\x05\x06\x07\x90\x91\x16\x93\x94\x95\x96\x04\x98\x99\x9a\x9b\x14\x15"⟩,
    ⟨0x3E, "\x9e\x1a \xa0âäàáãåçñ[.<(+!&éêëèíîïìß]$*);^-/ÂÄÀÁÃÅÇÑ¦,%_>?øÉÊËÈÍÎÏÌ`:#@'=\"Ø"⟩,
    ⟨0x8A, "«»ðýþ±°"⟩, ⟨0x9A, "ªºæ¸Æ¤µ~"⟩, ⟨0xAA, "¡¿ÐÝÞ®¢£¥·©§¶¼½¾¬|¯¨´×\x7b"⟩,
    ⟨0xCA, "\xadôöòóõ\x7d"⟩, ⟨0xDA, "¹ûüùúÿ\\÷"⟩, ⟨0xEA, "²ÔÖÒÓÕ"⟩, ⟨0xFA, "³ÛÜÙÚ\x9f"⟩]

/-- Greek. -/
def cp875 : Table where
  spans := [
    ⟨0x0B, 9, 0x000B⟩, ⟨0x41, 9, 0x0391⟩, ⟨0x51, 8, 0x039A⟩, ⟨0x62, 8, 0x03A4⟩, ⟨0x81, 9, 0x0061⟩,
    ⟨0x91, 9, 0x006A⟩, ⟨0xA2, 8, 0x0073⟩, ⟨0xC1, 9, 0x0041⟩, ⟨0xD1, 9, 0x004A⟩, ⟨0xE2, 8, 0x0053⟩,
    ⟨0xF0, 10, 0x0030⟩]
  runs := [
    ⟨0x00, "\x00\x01\x02\x03\x9c\t\x86\x7f\x97\x8d\x8e"⟩,
    ⟨0x14, "\x9d\x85\x08\x87\x18\x19\x92\x8f\x1c\x1d\x1e\x1f"⟩,
    ⟨0x20, "\x80\x81\x82\x83\x84\n\x17\x1b\x88\x89"⟩,
    ⟨0x2A, "\x8a\x8b\x8c\x05\x06\x07"⟩,
    ⟨0x30, "\x90\x91\x16\x93\x94\x95\x96\x04\x98\x99\x9a\x9b\x14\x15\x9e\x1a"⟩,
    ⟨0x40, " "⟩, ⟨0x4A, "[.<(+!&"⟩, ⟨0x59, "Σ]$*);^-/"⟩, ⟨0x6A, "|,%_>?¨ΆΈΉ\xa0ΊΌΎΏ`:#@'=\"΅"⟩,
    ⟨0x8A, "αβγδεζ°"⟩, ⟨0x9A, "ηθικλμ´~"⟩, ⟨0xAA, "νξοπρσ£άέήϊίόύϋώςτυφχψ\x7b"⟩,
    ⟨0xCA, "\xadωΐΰ‘―\x7d"⟩, ⟨0xDA, "±½\x1a·’¦\\\x1a"⟩, ⟨0xEA, "²§\x1a\x1a«¬"⟩,
    ⟨0xFA, "³©\x1a\x1a»\x9f"⟩]

/-- Turkish. -/
def cp1026 : Table where
  spans := [
    ⟨0x0B, 9, 0x000B⟩, ⟨0x81, 9, 0x0061⟩, ⟨0x91, 9, 0x006A⟩, ⟨0xA2, 8, 0x0073⟩, ⟨0xC1, 9, 0x0041⟩,
    ⟨0xD1, 9, 0x004A⟩, ⟨0xE2, 8, 0x0053⟩, ⟨0xF0, 10, 0x0030⟩]
  runs := [
    ⟨0x00, "\x00\x01\x02\x03\x9c\t\x86\x7f\x97\x8d\x8e"⟩,
    ⟨0x14, "\x9d\x85\x08\x87\x18\x19\x92\x8f\x1c\x1d\x1e\x1f\x80\x81\x82\x83\x84\n\x17\x1b\x88"⟩,
    ⟨0x29, "\x89\x8a\x8b\x8c\x05\x06\x07\x90\x91\x16\x93\x94\x95\x96\x04\x98\x99\x9a\x9b\x14\x15"⟩,
    ⟨0x3E, "\x9e\x1a \xa0âäàáãå\x7bñÇ.<(+!&éêëèíîïìßĞİ*);^-/ÂÄÀÁÃÅ[Ñş,%_>?øÉÊËÈÍÎÏÌı:ÖŞ'=ÜØ"⟩,
    ⟨0x8A, "«»\x7d`¦±°"⟩, ⟨0x9A, "ªºæ¸Æ¤µö"⟩, ⟨0xAA, "¡¿]$@®¢£¥·©§¶¼½¾¬|¯¨´×ç"⟩,
    ⟨0xCA, "\xadô~òóõğ"⟩, ⟨0xDA, "¹û\\ùúÿü÷"⟩, ⟨0xEA, "²Ô#ÒÓÕ"⟩, ⟨0xFA, "³Û\"ÙÚ\x9f"⟩]

/-- United States and Canada, with the euro. -/
def cp1140 : Table where
  spans := [
    ⟨0x0B, 9, 0x000B⟩, ⟨0x81, 9, 0x0061⟩, ⟨0x91, 9, 0x006A⟩, ⟨0xA2, 8, 0x0073⟩, ⟨0xC1, 9, 0x0041⟩,
    ⟨0xD1, 9, 0x004A⟩, ⟨0xE2, 8, 0x0053⟩, ⟨0xF0, 10, 0x0030⟩]
  runs := [
    ⟨0x00, "\x00\x01\x02\x03\x9c\t\x86\x7f\x97\x8d\x8e"⟩,
    ⟨0x14, "\x9d\x85\x08\x87\x18\x19\x92\x8f\x1c\x1d\x1e\x1f\x80\x81\x82\x83\x84\n\x17\x1b\x88"⟩,
    ⟨0x29, "\x89\x8a\x8b\x8c\x05\x06\x07\x90\x91\x16\x93\x94\x95\x96\x04\x98\x99\x9a\x9b\x14\x15"⟩,
    ⟨0x3E, "\x9e\x1a \xa0âäàáãåçñ¢.<(+|&éêëèíîïìß!$*);¬-/ÂÄÀÁÃÅÇÑ¦,%_>?øÉÊËÈÍÎÏÌ`:#@'=\"Ø"⟩,
    ⟨0x8A, "«»ðýþ±°"⟩, ⟨0x9A, "ªºæ¸Æ€µ~"⟩, ⟨0xAA, "¡¿ÐÝÞ®^£¥·©§¶¼½¾[]¯¨´×\x7b"⟩,
    ⟨0xCA, "\xadôöòóõ\x7d"⟩, ⟨0xDA, "¹ûüùúÿ\\÷"⟩, ⟨0xEA, "²ÔÖÒÓÕ"⟩, ⟨0xFA, "³ÛÜÙÚ\x9f"⟩]

end LineArithmetic.Charset.Ebcdic
